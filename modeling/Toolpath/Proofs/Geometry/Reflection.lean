import Toolpath.Geometry.Transform
import Toolpath.Proofs.Geometry.Circle
import Toolpath.Proofs.Motion.FeedAxis
import Mathlib.Tactic.Linarith

/-!
Reflections in a line, in exact arithmetic. Lines along an axis and sloped ones are computed apart, but the
image is always the one place that lies straight across the line and as far behind it.
-/

namespace Toolpath.Geometry

variable {K : Type} [Field K]

/-- One place is the mirror image of another in the line through `a` and `b`: what is half-way between them
is on the line, and they lie straight across it. -/
structure IsMirror (a b place image : K × K) : Prop where
  middle : OnOneLine a b ((place.1 + image.1) / 2, (place.2 + image.2) / 2)
  across : (image.1 - place.1) * (b.1 - a.1) + (image.2 - place.2) * (b.2 - a.2) = 0

theorem IsMirror.symm {a b place image : K × K} (mirror : IsMirror a b place image) :
    IsMirror a b image place := by
  obtain ⟨middle, across⟩ := mirror
  refine ⟨?_, by linear_combination -across⟩
  rwa [add_comm image.1, add_comm image.2]

variable [LinearOrder K] [IsStrictOrderedRing K]

theorem length_ne_zero {a b : K × K} (apart : a ≠ b) :
    (b.1 - a.1) * (b.1 - a.1) + (b.2 - a.2) * (b.2 - a.2) ≠ 0 := by
  intro none
  obtain ⟨x, y⟩ := mul_self_add_mul_self_eq_zero.mp none
  exact apart (Prod.ext (sub_eq_zero.mp x).symm (sub_eq_zero.mp y).symm)

/-- A place on the line through two others is some part of the way from one to the other. -/
theorem exists_part {a b c : K × K} (apart : a ≠ b) (line : OnOneLine a b c) :
    ∃ part : K, c = (a.1 + part * (b.1 - a.1), a.2 + part * (b.2 - a.2)) := by
  have length := length_ne_zero apart
  have flat := onOneLine_iff.mp line
  unfold doubleArea at flat
  obtain ⟨part, whole⟩ : ∃ part, part * ((b.1 - a.1) * (b.1 - a.1) + (b.2 - a.2) * (b.2 - a.2)) =
      (c.1 - a.1) * (b.1 - a.1) + (c.2 - a.2) * (b.2 - a.2) := ⟨_, div_mul_cancel₀ _ length⟩
  refine ⟨part, Prod.ext (mul_left_cancel₀ length ?_) (mul_left_cancel₀ length ?_)⟩
  · linear_combination (a.2 - b.2) * flat - (b.1 - a.1) * whole
  · linear_combination (b.1 - a.1) * flat - (b.2 - a.2) * whole

/-- There is no other image. -/
theorem IsMirror.eq {a b place image other : K × K} (apart : a ≠ b) (first : IsMirror a b place image)
    (second : IsMirror a b place other) : image = other := by
  have length := length_ne_zero apart
  have flat := onOneLine_iff.mp first.middle
  have flat' := onOneLine_iff.mp second.middle
  unfold doubleArea at flat flat'
  have sameX : ((b.1 - a.1) * (b.1 - a.1) + (b.2 - a.2) * (b.2 - a.2)) * (image.1 - other.1) = 0 := by
    linear_combination (b.1 - a.1) * (first.across - second.across) - 2 * (b.2 - a.2) * (flat - flat')
  have sameY : ((b.1 - a.1) * (b.1 - a.1) + (b.2 - a.2) * (b.2 - a.2)) * (image.2 - other.2) = 0 := by
    linear_combination (b.2 - a.2) * (first.across - second.across) + 2 * (b.1 - a.1) * (flat - flat')
  exact Prod.ext (sub_eq_zero.mp ((mul_eq_zero.mp sameX).resolve_left length))
    (sub_eq_zero.mp ((mul_eq_zero.mp sameY).resolve_left length))

/-- Any two places on a line stand for it. -/
theorem IsMirror.of_onOneLine {a b c d place image : K × K} (apart : a ≠ b) (atC : OnOneLine a b c)
    (atD : OnOneLine a b d) (mirror : IsMirror a b place image) : IsMirror c d place image := by
  obtain ⟨middle, across⟩ := mirror
  obtain ⟨partC, rfl⟩ := exists_part apart atC
  obtain ⟨partD, rfl⟩ := exists_part apart atD
  obtain ⟨part, between⟩ := exists_part apart middle
  constructor
  · rw [between, onOneLine_iff]
    unfold doubleArea
    ring
  · linear_combination (partD - partC) * across

/-- The foot of the perpendicular from a place to a sloped line is on the line, and straight across from the
place. -/
theorem foot_of_slope (x y height : K) {slope : K} (sloped : slope ≠ 0) :
    let normalSlope := -1 / slope
    let normalHeight := y - normalSlope * x
    let footX := (normalHeight - height) / (slope - normalSlope)
    let footY := (normalHeight - normalSlope / slope * height) / (1 - normalSlope / slope)
    footY = slope * footX + height ∧ footX - x + slope * (footY - y) = 0 := by
  intro normalSlope normalHeight footX footY
  have normal : normalSlope * slope = -1 := div_mul_cancel₀ (-1) sloped
  have ratio : normalSlope / slope * slope = normalSlope := div_mul_cancel₀ normalSlope sloped
  have crossing : slope - normalSlope ≠ 0 := by
    intro same
    have square : slope * slope = -1 := by linear_combination slope * same + normal
    linarith [mul_self_nonneg slope]
  have steeper : 1 - normalSlope / slope ≠ 0 := by
    intro same
    refine crossing ?_
    linear_combination slope * same + ratio
  have atFootX : footX * (slope - normalSlope) = normalHeight - height := div_mul_cancel₀ _ crossing
  have atFootY : footY * (1 - normalSlope / slope) = normalHeight - normalSlope / slope * height :=
    div_mul_cancel₀ _ steeper
  have onLine : footY = slope * footX + height := by
    refine mul_right_cancel₀ steeper ?_
    linear_combination atFootY - atFootX + footX * ratio
  refine ⟨onLine, ?_⟩
  rw [onLine]
  linear_combination slope * atFootX + (footX - x) * normal

/-- The image of a place in the line through two others is its mirror image, whatever the direction of the
line. -/
theorem reflectPlace_isMirror (functions : Scalar.Functions K) {a b : K × K} (apart : a ≠ b) (place : K × K) :
    IsMirror a b place (@reflectPlace K (Scalar.exact functions) place.1 place.2 a.1 a.2 b.1 b.2) := by
  obtain ⟨x, y⟩ := place
  obtain ⟨x1, y1⟩ := a
  obtain ⟨x2, y2⟩ := b
  have one : (1.0 : K) = 1 := by norm_num
  have two : (2.0 : K) = 2 := by norm_num
  unfold reflectPlace
  simp only [one, two]
  by_cases upright : x2 = x1
  · rw [if_pos (beq_iff_eq.mpr upright)]
    obtain rfl := upright
    refine ⟨onOneLine_iff.mpr ?_, by ring⟩
    unfold doubleArea
    ring
  rw [if_neg (fun same => upright (eq_of_beq same))]
  by_cases level : y2 = y1
  · rw [if_pos (beq_iff_eq.mpr level)]
    obtain rfl := level
    refine ⟨onOneLine_iff.mpr ?_, by ring⟩
    unfold doubleArea
    ring
  rw [if_neg (fun same => level (eq_of_beq same))]
  have run : x2 - x1 ≠ 0 := sub_ne_zero.mpr upright
  have rise : (y2 - y1) / (x2 - x1) * (x2 - x1) = y2 - y1 := div_mul_cancel₀ _ run
  have sloped : (y2 - y1) / (x2 - x1) ≠ 0 := div_ne_zero (sub_ne_zero.mpr level) run
  obtain ⟨onLine, across⟩ := foot_of_slope x y (y1 - (y2 - y1) / (x2 - x1) * x1) sloped
  generalize (_ - (y1 - _)) / (_ - -1 / _) = footX at onLine across ⊢
  generalize (_ - _ * (y1 - _)) / (1 - _) = footY at onLine across ⊢
  generalize (y2 - y1) / (x2 - x1) = slope at rise onLine across
  have halfX : (x + (x + 2 * (footX - x))) / 2 = footX := by ring
  have halfY : (y + (y + 2 * (footY - y))) / 2 = footY := by ring
  constructor
  · rw [halfX, halfY, onOneLine_iff]
    unfold doubleArea
    linear_combination (x2 - x1) * onLine + (footX - x1) * rise
  · linear_combination 2 * (x2 - x1) * across - 2 * (footY - y) * rise

variable {functions : Scalar.Functions K} {p p1 p2 : Point K} {place a b : K × K}

omit [IsStrictOrderedRing K] in
theorem reflect_eq_ok (isP : planar p = .ok place) (isA : planar p1 = .ok a) (isB : planar p2 = .ok b) :
    @reflect K (Scalar.exact functions) p p1 p2 =
      let image := @reflectPlace K (Scalar.exact functions) place.1 place.2 a.1 a.2 b.1 b.2
      .ok { p with x := some image.1, y := some image.2 } := by
  obtain ⟨x, y⟩ := planar_eq_ok.mp isP
  unfold reflect
  simp only [isA, isB, bind, Except.bind, x, y, Option.getD_some]

/-- The image is the mirror image, and no other. -/
theorem reflect_eq (isP : planar p = .ok place) (isA : planar p1 = .ok a) (isB : planar p2 = .ok b)
    (apart : a ≠ b) {image : K × K} (mirror : IsMirror a b place image) :
    @reflect K (Scalar.exact functions) p p1 p2 =
      .ok { p with x := some image.1, y := some image.2 } := by
  rw [reflect_eq_ok isP isA isB, (reflectPlace_isMirror functions apart place).eq apart mirror]

/-- A point with a place in XY has a mirror image in every line. It is straight across the line and as far
behind it, it says what the point says in all but its place, its own image is the point, and it depends on
the line alone, not on the two points that the line is given by. -/
theorem reflect_mirrors (functions : Scalar.Functions K) (isP : planar p = .ok place)
    (isA : planar p1 = .ok a) (isB : planar p2 = .ok b) (apart : a ≠ b) :
    ∃ q image, @reflect K (Scalar.exact functions) p p1 p2 = .ok q ∧ planar q = .ok image ∧
      q = { p with x := some image.1, y := some image.2 } ∧ IsMirror a b place image ∧
      @reflect K (Scalar.exact functions) q p1 p2 = .ok p ∧
      @reflect K (Scalar.exact functions) p p2 p1 = .ok q ∧
      ∀ (p3 p4 : Point K) (c d : K × K), planar p3 = .ok c → planar p4 = .ok d → c ≠ d →
        OnOneLine a b c → OnOneLine a b d →
        @reflect K (Scalar.exact functions) p p3 p4 = .ok q := by
  obtain ⟨image, mirror⟩ : ∃ image, IsMirror a b place image := ⟨_, reflectPlace_isMirror functions apart place⟩
  have isQ : planar { p with x := some image.1, y := some image.2 } = .ok image := planar_eq_ok.mpr ⟨rfl, rfl⟩
  have others (p3 p4 : Point K) (c d : K × K) (isC : planar p3 = .ok c) (isD : planar p4 = .ok d)
      (differ : c ≠ d) (atC : OnOneLine a b c) (atD : OnOneLine a b d) :
      @reflect K (Scalar.exact functions) p p3 p4 =
        .ok { p with x := some image.1, y := some image.2 } :=
    reflect_eq isP isC isD differ (mirror.of_onOneLine apart atC atD)
  have atA : OnOneLine a b a := onOneLine_iff.mpr (by unfold doubleArea; ring)
  have atB : OnOneLine a b b := onOneLine_iff.mpr (by unfold doubleArea; ring)
  refine ⟨_, image, reflect_eq isP isA isB apart mirror, isQ, rfl, mirror, ?_,
    others p2 p1 b a isB isA apart.symm atB atA, others⟩
  obtain ⟨x, y⟩ := planar_eq_ok.mp isP
  rw [reflect_eq isQ isA isB apart mirror.symm, ← x, ← y]

/-- A sloped line, given by two pairs of points. -/
theorem reflect_mirrors_sloped :
    let p : Point ℚ := { x := some 3, y := some 2, z := some 5, extrude := some true }
    let q : Point ℚ := { x := some (-1), y := some 4, z := some 5, extrude := some true }
    let reflected := @reflect ℚ (Scalar.exact FeedAxis.fractions)
    reflected p (pointAt (0, 1) none) (pointAt (1, 3) none) = .ok q ∧
      IsMirror ((0, 1) : ℚ × ℚ) (1, 3) (3, 2) (-1, 4) ∧
      reflected q (pointAt (0, 1) none) (pointAt (1, 3) none) = .ok p ∧
      reflected p (pointAt (1, 3) none) (pointAt (0, 1) none) = .ok q ∧
      reflected p (pointAt (-1, -1) none) (pointAt (2, 5) none) = .ok q := by
  intro p q reflected
  have apart : ((0, 1) : ℚ × ℚ) ≠ (1, 3) := by decide
  have onLine {c : ℚ × ℚ} (flat : doubleArea (0, 1) (1, 3) c = 0) : OnOneLine (0, 1) (1, 3) c :=
    onOneLine_iff.mpr flat
  have mirror : IsMirror ((0, 1) : ℚ × ℚ) (1, 3) (3, 2) (-1, 4) :=
    ⟨onLine (by norm_num [doubleArea]), by norm_num⟩
  have isP : planar p = .ok (3, 2) := rfl
  have isA : planar (pointAt ((0, 1) : ℚ × ℚ) none) = .ok (0, 1) := rfl
  have isB : planar (pointAt ((1, 3) : ℚ × ℚ) none) = .ok (1, 3) := rfl
  obtain ⟨_, image, ok, -, rfl, isMirror, back, swapped, others⟩ :=
    reflect_mirrors FeedAxis.fractions isP isA isB apart
  obtain rfl := isMirror.eq apart mirror
  exact ⟨ok, mirror, back, swapped, others _ _ (-1, -1) (2, 5) rfl rfl (by decide)
    (onLine (by norm_num [doubleArea])) (onLine (by norm_num [doubleArea]))⟩

end Toolpath.Geometry
