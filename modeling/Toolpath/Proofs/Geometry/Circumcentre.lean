import Toolpath.Proofs.Geometry.Circle
import Toolpath.Proofs.Motion.FeedAxis

/-!
The centre of the circle through three points. It is refused just where an axis is open or the places are
on one line, and else it is the one place that is as far from each of them as from the others.
-/

namespace Toolpath.Geometry

/-- The first axis in XY that a point leaves open. -/
def openAxis? {α : Type} (p : Point α) : Option Char :=
  match p.x, p.y with
  | none, _ => some 'x'
  | some _, none => some 'y'
  | some _, some _ => none

theorem openAxis?_eq_none {α : Type} {p : Point α} :
    openAxis? p = none ↔ ∃ place, planar p = .ok place := by
  unfold openAxis? planar
  cases p.x <;> cases p.y <;> simp

theorem openAxis?_eq_some {α : Type} {p : Point α} {axis : Char} :
    openAxis? p = some axis ↔ planar p = .error (.missingAxis axis) := by
  unfold openAxis? planar
  cases p.x <;> cases p.y <;> simp

variable {K : Type} [Field K]

/-- A place is as far from each of some places as from the others. -/
def Equidistant (places : List (K × K)) (centre : K × K) : Prop :=
  ∃ distance, ∀ place ∈ places, gap place centre = distance

theorem onOneLine_iff_forall {p q r : K × K} : OnOneLine p q r ↔
    ∃ a b c : K, (a ≠ 0 ∨ b ≠ 0) ∧ ∀ place ∈ [p, q, r], a * place.1 + b * place.2 = c := by
  simp only [OnOneLine, List.forall_mem_cons, List.not_mem_nil, false_implies, implies_true, and_true]

variable [LinearOrder K] [IsStrictOrderedRing K]

theorem Equidistant.eq {p q r centre other : K × K} (apart : doubleArea p q r ≠ 0)
    (first : Equidistant [p, q, r] centre) (second : Equidistant [p, q, r] other) : centre = other := by
  obtain ⟨far, onCircle⟩ := first
  obtain ⟨far', onCircle'⟩ := second
  simp only [List.forall_mem_cons, gap] at onCircle onCircle'
  obtain ⟨atP, atQ, atR, -⟩ := onCircle
  obtain ⟨atP', atQ', atR', -⟩ := onCircle'
  have twice : 2 * doubleArea p q r ≠ 0 := mul_ne_zero two_ne_zero apart
  have alongQ : 2 * ((q.1 - p.1) * (centre.1 - other.1) + (q.2 - p.2) * (centre.2 - other.2)) = 0 := by
    linear_combination atP - atQ - atP' + atQ'
  have alongR : 2 * ((r.1 - p.1) * (centre.1 - other.1) + (r.2 - p.2) * (centre.2 - other.2)) = 0 := by
    linear_combination atP - atR - atP' + atR'
  refine Prod.ext (mul_left_cancel₀ twice ?_) (mul_left_cancel₀ twice ?_)
  · unfold doubleArea
    linear_combination (r.2 - p.2) * alongQ - (q.2 - p.2) * alongR
  · unfold doubleArea
    linear_combination (q.1 - p.1) * alongR - (r.1 - p.1) * alongQ

/-- The centre of the circle through three places is the only one that is as far from all. -/
theorem equidistant_iff {p q r centre : K × K} (apart : doubleArea p q r ≠ 0) :
    Equidistant [p, q, r] centre ↔ centre = circumcentre p q r := by
  obtain ⟨atQ, atR⟩ := gap_circumcentre apart
  have circle : Equidistant [p, q, r] (circumcentre p q r) :=
    ⟨gap p (circumcentre p q r), by simp [atQ, atR]⟩
  constructor
  · intro equidistant
    exact equidistant.eq apart circle
  · rintro rfl
    exact circle

/-- The same places in another order have the same circle. -/
theorem circumcentre_congr {p q r p' q' r' : K × K} (same : ∀ place, place ∈ [p', q', r'] ↔ place ∈ [p, q, r])
    (apart : doubleArea p q r ≠ 0) :
    doubleArea p' q' r' ≠ 0 ∧ circumcentre p' q' r' = circumcentre p q r := by
  have apart' : doubleArea p' q' r' ≠ 0 := by
    intro flat
    refine apart (onOneLine_iff.mp ?_)
    have line := onOneLine_iff.mpr flat
    simp only [onOneLine_iff_forall, same] at line
    exact onOneLine_iff_forall.mpr line
  have circle : Equidistant [p', q', r'] (circumcentre p' q' r') := (equidistant_iff apart').mpr rfl
  simp only [Equidistant, same] at circle
  exact ⟨apart', (equidistant_iff apart).mp circle⟩

variable {p q r : Point K} {atP atQ atR : K × K}

omit [Field K] [LinearOrder K] [IsStrictOrderedRing K] in
/-- Points in another order have the same places. -/
theorem exists_places_of_perm {p' q' r' : Point K} (isP : planar p = .ok atP) (isQ : planar q = .ok atQ)
    (isR : planar r = .ok atR) (order : [p', q', r'].Perm [p, q, r]) :
    ∃ atP' atQ' atR', planar p' = .ok atP' ∧ planar q' = .ok atQ' ∧ planar r' = .ok atR' ∧
      ∀ place, place ∈ [atP', atQ', atR'] ↔ place ∈ [atP, atQ, atR] := by
  have known (point : Point K) (member : point ∈ [p', q', r']) : ∃ place, planar point = .ok place := by
    have among := order.mem_iff.mp member
    simp only [List.mem_cons, List.not_mem_nil, or_false] at among
    rcases among with rfl | rfl | rfl
    · exact ⟨atP, isP⟩
    · exact ⟨atQ, isQ⟩
    · exact ⟨atR, isR⟩
  obtain ⟨atP', isP'⟩ := known p' (by simp)
  obtain ⟨atQ', isQ'⟩ := known q' (by simp)
  obtain ⟨atR', isR'⟩ := known r' (by simp)
  refine ⟨atP', atQ', atR', isP', isQ', isR', fun place => ?_⟩
  have among := (order.map planar).mem_iff (a := .ok place)
  simpa [isP, isQ, isR, isP', isQ', isR'] using among

omit [IsStrictOrderedRing K] in
theorem centreOf_of_openAxis (functions : Scalar.Functions K) {axis : Char}
    (missing : [p, q, r].findSome? openAxis? = some axis) :
    @centreOf K (Scalar.exact functions) p q r = .error (.missingAxis axis) := by
  unfold centreOf
  rw [List.findSome?_cons] at missing
  cases openP : openAxis? p with
  | some first =>
    rw [openP] at missing
    obtain rfl := Option.some.inj missing
    rw [openAxis?_eq_some.mp openP]
    rfl
  | none =>
    obtain ⟨atP, isP⟩ := openAxis?_eq_none.mp openP
    rw [openP, List.findSome?_cons] at missing
    rw [isP]
    cases openQ : openAxis? q with
    | some second =>
      rw [openQ] at missing
      obtain rfl := Option.some.inj missing
      rw [openAxis?_eq_some.mp openQ]
      rfl
    | none =>
      obtain ⟨atQ, isQ⟩ := openAxis?_eq_none.mp openQ
      rw [openQ, List.findSome?_singleton] at missing
      rw [isQ, openAxis?_eq_some.mp missing]
      rfl

theorem centreOf_eq_collinear_iff (functions : Scalar.Functions K) (isP : planar p = .ok atP)
    (isQ : planar q = .ok atQ) (isR : planar r = .ok atR) :
    @centreOf K (Scalar.exact functions) p q r = .error .collinear ↔ OnOneLine atP atQ atR := by
  rw [onOneLine_iff]
  constructor
  · intro refused
    by_contra apart
    rw [centreOf_eq_ok isP isQ isR apart] at refused
    cases refused
  · intro flat
    have zero : (0.0 : K) = 0 := by norm_num
    have none : ((2.0 : K) * (atP.1 * (atQ.2 - atR.2) + atQ.1 * (atR.2 - atP.2) + atR.1 * (atP.2 - atQ.2))
        == (0 : K)) = true := beq_iff_eq.mpr (mul_eq_zero_of_right _ flat)
    unfold centreOf
    simp only [isP, isQ, isR, bind, Except.bind, zero]
    rw [if_pos none]
    rfl

/-- The circle through three points is found just where there is one. An axis that is open is reported,
the first one in the order of the points, and then a common line. Else the centre is as far from each of
the points as from the others, no other place is, and it does not depend on their order; it is put at the
height of the first. -/
theorem centreOf_determines (functions : Scalar.Functions K) (p q r : Point K) :
    ((∃ point ∈ [p, q, r], point.x = none ∨ point.y = none) →
      ∃ axis, [p, q, r].findSome? openAxis? = some axis ∧
        @centreOf K (Scalar.exact functions) p q r = .error (.missingAxis axis)) ∧
    ∀ atP atQ atR, planar p = .ok atP → planar q = .ok atQ → planar r = .ok atR →
      (@centreOf K (Scalar.exact functions) p q r = .error .collinear ↔ OnOneLine atP atQ atR) ∧
      (¬ OnOneLine atP atQ atR → ∃ centre,
        @centreOf K (Scalar.exact functions) p q r = .ok (pointAt centre p.z) ∧
        (∀ place, Equidistant [atP, atQ, atR] place ↔ place = centre) ∧
        ∀ p' q' r', [p', q', r'].Perm [p, q, r] →
          @centreOf K (Scalar.exact functions) p' q' r' = .ok (pointAt centre p'.z)) := by
  constructor
  · rintro ⟨point, member, isOpen⟩
    have missing : ([p, q, r].findSome? openAxis?).isSome := by
      refine List.findSome?_isSome_iff.mpr ⟨point, member, ?_⟩
      rw [Option.isSome_iff_ne_none, Ne, openAxis?_eq_none]
      rintro ⟨place, isHere⟩
      obtain ⟨x, y⟩ := planar_eq_ok.mp isHere
      simp [x, y] at isOpen
    obtain ⟨axis, first⟩ := Option.isSome_iff_exists.mp missing
    exact ⟨axis, first, centreOf_of_openAxis functions first⟩
  · intro atP atQ atR isP isQ isR
    refine ⟨centreOf_eq_collinear_iff functions isP isQ isR, fun bent => ?_⟩
    have apart : doubleArea atP atQ atR ≠ 0 := fun flat => bent (onOneLine_iff.mpr flat)
    refine ⟨circumcentre atP atQ atR, centreOf_eq_ok isP isQ isR apart, fun place => equidistant_iff apart, ?_⟩
    intro p' q' r' order
    obtain ⟨atP', atQ', atR', isP', isQ', isR', same⟩ := exists_places_of_perm isP isQ isR order
    obtain ⟨apart', centre⟩ := circumcentre_congr same apart
    rw [centreOf_eq_ok isP' isQ' isR' apart', centre]

/-- Three points in two orders, two of them that coincide, and one without Y. -/
theorem centreOf_determines_oblique :
    let centred := @centreOf ℚ (Scalar.exact FeedAxis.fractions)
    let p : Point ℚ := pointAt (0, 0) (some 7)
    let q : Point ℚ := pointAt (4, 2) none
    let r : Point ℚ := pointAt (1, 3) (some 1)
    centred p q r = .ok (pointAt (2, 1) (some 7)) ∧ centred r p q = .ok (pointAt (2, 1) (some 1)) ∧
      Equidistant [(0, 0), (4, 2), (1, 3)] ((2, 1) : ℚ × ℚ) ∧
      centred p p r = .error .collinear ∧ centred p { x := some 1 } r = .error (.missingAxis 'y') := by
  intro centred p q r
  have circle : Equidistant [(0, 0), (4, 2), (1, 3)] ((2, 1) : ℚ × ℚ) := ⟨5, by norm_num [gap]⟩
  have bent : ¬ OnOneLine ((0, 0) : ℚ × ℚ) (4, 2) (1, 3) := by
    rw [onOneLine_iff]
    norm_num [doubleArea]
  obtain ⟨-, placed⟩ := centreOf_determines FeedAxis.fractions p q r
  obtain ⟨-, found⟩ := placed (0, 0) (4, 2) (1, 3) rfl rfl rfl
  obtain ⟨centre, ok, equidistant, ordered⟩ := found bent
  obtain rfl := (equidistant (2, 1)).mp circle
  obtain ⟨-, doubled⟩ := centreOf_determines FeedAxis.fractions p p r
  obtain ⟨missing, -⟩ := centreOf_determines FeedAxis.fractions p { x := some 1 } r
  obtain ⟨axis, first, refused⟩ := missing ⟨{ x := some 1 }, by simp, .inr rfl⟩
  obtain rfl := Option.some.inj first
  refine ⟨ok, ordered r p q ?_, circle, ?_, refused⟩
  · exact (List.Perm.swap p r [q]).trans ((List.Perm.swap q r []).cons p)
  · refine (doubled (0, 0) (0, 0) (1, 3) rfl rfl rfl).1.mpr (onOneLine_iff.mpr ?_)
    norm_num [doubleArea]

end Toolpath.Geometry
