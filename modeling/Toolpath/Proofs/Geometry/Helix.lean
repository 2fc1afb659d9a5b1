import Toolpath.Proofs.Geometry.Accepted
import Toolpath.Proofs.Scalar.Widened
import Mathlib.Data.Rat.Floor
import Mathlib.Tactic.Ring

/-!
Helices and spirals in exact arithmetic: which of them are drawn, and the points they are drawn through. Radius,
angle and height go evenly from one end to the other, each by the same share of the way.
-/

namespace Toolpath.Geometry

open Scalar (Functions nearest nearest_intCast widened widened_zero widened_add_finite widened_isFinite
  widened_magnitude widened_turn)

/-- What a helix is drawn with but for its centre. -/
structure Coil (α : Type) where
  startRadius : α
  endRadius : α
  startAngle : α
  turns : α
  pitch : α
  perTurn : UInt64
  clockwise : Bool

namespace Coil

variable {α : Type}

/-- The numbers among the parameters. -/
def numbers (coil : Coil α) : List α :=
  [coil.startRadius, coil.endRadius, coil.startAngle, coil.turns, coil.pitch]

/-- All numbers taken to others. -/
def map {β : Type} (f : α → β) (coil : Coil α) : Coil β where
  startRadius := f coil.startRadius
  endRadius := f coil.endRadius
  startAngle := f coil.startAngle
  turns := f coil.turns
  pitch := f coil.pitch
  perTurn := coil.perTurn
  clockwise := coil.clockwise

/-- The helix about a centre. -/
def helix [Scalar α] (coil : Coil α) (centre : Point α) : Except (GeometryError α) (List (Point α)) :=
  Geometry.helix centre coil.startRadius coil.endRadius coil.startAngle coil.turns coil.pitch coil.perTurn
    coil.clockwise

/-- The spiral about a centre. It has no pitch. -/
def spiral [Scalar α] (coil : Coil α) (centre : Point α) : Except (GeometryError α) (List (Point α)) :=
  Geometry.spiral centre coil.startRadius coil.endRadius coil.startAngle coil.turns coil.perTurn coil.clockwise

theorem beyond_mem_numbers_or {K : Type} (coil : Coil (Widened K)) :
    .beyond ∈ coil.numbers ∨ ∃ known : Coil K, coil = known.map .finite := by
  obtain ⟨startRadius, endRadius, startAngle, turns, pitch, perTurn, clockwise⟩ := coil
  cases startRadius <;> cases endRadius <;> cases startAngle <;> cases turns <;> cases pitch
  all_goals first
    | exact .inr ⟨⟨_, _, _, _, _, perTurn, clockwise⟩, rfl⟩
    | exact .inl (by simp [numbers])

theorem eq_of_map_finite_eq {K : Type} {coil other : Coil K}
    (same : coil.map Widened.finite = other.map Widened.finite) : coil = other := by
  cases coil
  cases other
  simpa [map] using same

variable {K : Type} [Field K] [LinearOrder K] [FloorRing K] (functions : Functions K) (coil : Coil K)

/-- The whole number of segments nearest to the turns in segments. -/
def segments : ℕ := (nearest (|coil.turns| * coil.perTurn.toNat)).toNat

/-- One, and below zero if clockwise. -/
def rotation : K := if coil.clockwise then -1 else 1

/-- The share of the way that is gone after so many segments. -/
def shareAt (i : ℕ) : K := i / coil.segments

/-- The distance from the centre, so many segments from the start. -/
def radiusAt (i : ℕ) : K := coil.startRadius + coil.shareAt i * (coil.endRadius - coil.startRadius)

/-- The angle, so many segments from the start. -/
def angleAt (i : ℕ) : K := coil.startAngle + coil.shareAt i * (coil.rotation * coil.turns * functions.turn)

/-- The height above the start, so many segments from there. -/
def riseAt (i : ℕ) : K := coil.shareAt i * (coil.pitch * coil.turns)

/-- A point of the helix. Open axes of the centre in X and Y count as zero. -/
def pointAt (centre : Point (Widened K)) (i : ℕ) : Point (Widened K) where
  x := some ((centre.x.getD (.finite 0)).lift (· + coil.radiusAt i * functions.cos (coil.angleAt functions i)))
  y := some ((centre.y.getD (.finite 0)).lift (· + coil.radiusAt i * functions.sin (coil.angleAt functions i)))
  z := centre.z.map (·.lift (· + coil.riseAt i))

/-- The points of the helix. If there are more of them than a word can count, there are none. -/
def points (centre : Point (Widened K)) : List (Point (Widened K)) :=
  if coil.segments + 1 < 2 ^ 64 then (List.range (coil.segments + 1)).map (coil.pointAt functions centre) else []

theorem length_points (centre : Point (Widened K)) :
    (coil.points functions centre).length = coil.segments + 1 ↔ coil.segments + 1 < 2 ^ 64 := by
  unfold points
  split
  · rename_i room
    exact iff_of_true (by rw [List.length_map, List.length_range]) room
  · rename_i full
    exact iff_of_false (Nat.succ_ne_zero _).symm full

variable [IsStrictOrderedRing K]

theorem toNat_segmentCount : (@segmentCount (Widened K) (widened functions.counting) (.finite coil.turns)
    coil.perTurn).toNat = min coil.segments (2 ^ 64 - 1) := by
  unfold segmentCount
  rw [widened_magnitude]
  show (UInt64.ofNat (min ⌊((nearest (|coil.turns| * coil.perTurn.toNat) : ℤ) : K)⌋₊ (2 ^ 64 - 1))).toNat = _
  rw [← Int.floor_toNat, Int.floor_intCast]
  exact UInt64.toNat_ofNat_of_lt' (lt_of_le_of_lt (min_le_right _ _) (by decide))

section Widened

variable (centre : Point (Widened K))

omit [FloorRing K] [IsStrictOrderedRing K] in
theorem share_finite (first last : K) (shares : UInt64) (i : ℕ) :
    @share (Widened K) (widened functions) (.finite first) (.finite last) shares i =
      .finite (first + i / shares.toNat * (last - first)) := by
  have exchanged : (last - first) / shares.toNat * i = i / shares.toNat * (last - first) := by ring
  exact congrArg (fun way => Widened.finite (first + way)) exchanged

/-- A point that drifts is one of the helix. -/
theorem driftPoint_finite (i : ℕ) :
    @driftPoint (Widened K) (widened functions) centre (.finite (coil.radiusAt i))
      (.finite (coil.angleAt functions i)) (.finite (coil.riseAt i)) = coil.pointAt functions centre i := by
  let _ := widened functions
  have atX := widened_add_finite functions (centre.x.getD (.finite 0))
    (coil.radiusAt i * functions.cos (coil.angleAt functions i))
  have atY := widened_add_finite functions (centre.y.getD (.finite 0))
    (coil.radiusAt i * functions.sin (coil.angleAt functions i))
  have atZ := funext fun height => widened_add_finite functions height (coil.riseAt i)
  unfold driftPoint polarOffset pointAt
  rw [widened_zero, ← atX, ← atY, ← atZ]
  rfl

omit [FloorRing K] in
/-- The angle that is turned by in all. -/
theorem angle_eq : let _ := widened functions
    .finite coil.turns * Scalar.turn * sense coil.clockwise =
      Widened.finite (coil.rotation * coil.turns * functions.turn) := by
  intro _
  have one : (1.0 : K) = 1 := by norm_num
  have direction : sense coil.clockwise = Widened.finite coil.rotation := by
    unfold sense rotation
    split
    · exact congrArg (fun v : K => Widened.finite (-v)) one
    · exact congrArg Widened.finite one
  rw [direction, widened_turn]
  show Widened.finite (coil.turns * functions.turn * coil.rotation) = _
  rw [mul_comm _ coil.rotation, ← mul_assoc]

/-- What drifts evenly goes by the points of the helix. -/
theorem driftPoints_eq :
    let _ := widened functions.counting
    let all : Coil (Widened K) := coil.map .finite
    driftPoints centre all.startRadius all.startAngle (all.turns * Scalar.turn * sense all.clockwise)
      (segmentCount all.turns all.perTurn) (all.endRadius - all.startRadius) (all.pitch * all.turns) =
        coil.points functions centre := by
  intro _ all
  have stopped : (segmentCount all.turns all.perTurn).toNat = min coil.segments (2 ^ 64 - 1) :=
    coil.toNat_segmentCount functions
  generalize segmentCount all.turns all.perTurn = segments at stopped
  have total : all.turns * Scalar.turn * sense all.clockwise =
      Widened.finite (coil.rotation * coil.turns * functions.turn) := coil.angle_eq functions.counting
  unfold driftPoints points
  rw [total, widened_zero]
  split
  · rename_i room
    rw [min_eq_left (by omega)] at stopped
    rw [toNat_add_one (by omega), stopped]
    refine List.map_congr_left fun i _ => ?_
    have radius : share all.startRadius (all.startRadius + (all.endRadius - all.startRadius)) segments i =
        Widened.finite (coil.radiusAt i) := by
      refine (share_finite functions.counting _ _ segments i).trans (congrArg Widened.finite ?_)
      rw [stopped, add_sub_cancel_left]
      rfl
    have angle : share all.startAngle
        (all.startAngle + Widened.finite (coil.rotation * coil.turns * functions.turn)) segments i =
          Widened.finite (coil.angleAt functions i) := by
      refine (share_finite functions.counting _ _ segments i).trans (congrArg Widened.finite ?_)
      rw [stopped, add_sub_cancel_left]
      rfl
    have rise : share (Widened.finite 0) (all.pitch * all.turns) segments i =
        Widened.finite (coil.riseAt i) := by
      refine (share_finite functions.counting _ _ segments i).trans (congrArg Widened.finite ?_)
      rw [stopped, sub_zero, zero_add]
      rfl
    rw [radius, angle, rise]
    exact coil.driftPoint_finite functions centre i
  · -- The count stopped at the greatest word, and one more is zero.
    rename_i full
    rw [min_eq_right (by omega)] at stopped
    rw [add_one_eq_zero (by omega)]
    rfl

theorem one_le_segmentCount : 1 ≤ @segmentCount (Widened K) (widened functions.counting) (.finite coil.turns)
    coil.perTurn ↔ coil.segments ≠ 0 := by
  rw [UInt64.le_iff_toNat_le, toNat_segmentCount, UInt64.toNat_one]
  omega

/-- A helix of finite numbers is drawn if it has a segment, and a height where it rises. -/
theorem helix_map_ok_iff {points : List (Point (Widened K))} :
    @helix _ (widened functions.counting) (coil.map .finite) centre = .ok points ↔
      coil.perTurn ≠ 0 ∧ coil.segments ≠ 0 ∧ (coil.pitch * coil.turns ≠ 0 → centre.z ≠ none) ∧
        coil.points functions centre = points := by
  let _ := widened functions.counting
  let all : Coil (Widened K) := coil.map .finite
  have drawn := coil.driftPoints_eq functions centre
  have some := coil.one_le_segmentCount functions
  have rises : (all.pitch * all.turns != 0.0) = true ↔
      coil.pitch * coil.turns ≠ 0 := by
    have zero : (0.0 : K) = 0 := by norm_num
    show (!decide (coil.pitch * coil.turns = 0.0)) = true ↔ _
    rw [zero]
    simp
  unfold helix
  rw [helix_ok_iff, variableArc_ok_iff, drawn, rises]
  have given := widened_isFinite functions.counting [coil.turns, coil.pitch, coil.startRadius, coil.endRadius]
  have spread : ∀ v ∈ [all.startRadius, all.startAngle, all.turns * Scalar.turn * sense all.clockwise,
      all.endRadius - all.startRadius, all.pitch * all.turns], Scalar.isFinite v = true := by
    have total : all.turns * Scalar.turn * sense all.clockwise =
        Widened.finite (coil.rotation * coil.turns * functions.turn) := coil.angle_eq functions.counting
    rw [total]
    exact widened_isFinite functions.counting [coil.startRadius, coil.startAngle,
      coil.rotation * coil.turns * functions.turn, coil.endRadius - coil.startRadius, coil.pitch * coil.turns]
  have counted : 1 ≤ coil.perTurn ↔ coil.perTurn ≠ 0 := by
    rw [UInt64.le_iff_toNat_le, ← UInt64.toNat_inj.ne]
    exact Nat.one_le_iff_ne_zero
  exact and_congr counted ((and_iff_right given).trans (and_congr some (and_iff_right spread)))

omit [IsStrictOrderedRing K] in
/-- A number that is not finite is refused. -/
theorem helix_of_beyond (functions : Functions K) {coil : Coil (Widened K)}
    (infinite : .beyond ∈ coil.numbers) (points : List (Point (Widened K))) :
    @helix _ (widened functions.counting) coil centre ≠ .ok points := by
  let _ := widened functions.counting
  intro ok
  obtain ⟨-, finite, ok⟩ := helix_ok_iff.mp ok
  obtain ⟨-, finite', -⟩ := variableArc_ok_iff.mp ok
  have all : ∀ v ∈ coil.numbers, Scalar.isFinite v = true := by
    simp only [List.forall_mem_cons, numbers] at finite finite' ⊢
    obtain ⟨turns, pitch, startRadius, endRadius, none⟩ := finite
    exact ⟨startRadius, endRadius, finite'.2.1, turns, pitch, none⟩
  cases all _ infinite

theorem helix_refused_iff (functions : Functions K) (coil : Coil (Widened K)) (centre : Point (Widened K)) :
    (∃ cause, @helix _ (widened functions.counting) coil centre = .error cause) ↔
      coil.perTurn = 0 ∨ .beyond ∈ coil.numbers ∨ ∃ known : Coil K, coil = known.map .finite ∧
        (known.segments = 0 ∨ known.pitch * known.turns ≠ 0 ∧ centre.z = none) := by
  rw [exists_error_iff]
  constructor
  · intro refused
    by_contra accepted
    simp only [not_or, not_exists, not_and] at accepted
    obtain ⟨counted, finite, drawn⟩ := accepted
    obtain infinite | ⟨known, rfl⟩ := coil.beyond_mem_numbers_or
    · exact finite infinite
    · obtain ⟨some, rises⟩ := drawn known rfl
      exact refused _ ((known.helix_map_ok_iff functions centre).mpr ⟨counted, some, rises, rfl⟩)
  · rintro reason points ok
    obtain infinite | ⟨known, rfl⟩ := coil.beyond_mem_numbers_or
    · exact helix_of_beyond centre functions infinite points ok
    · obtain ⟨counted, some, rises, -⟩ := (known.helix_map_ok_iff functions centre).mp ok
      obtain zero | infinite | ⟨other, same, reason⟩ := reason
      · exact counted zero
      · exact helix_of_beyond centre functions infinite points ok
      · obtain rfl := eq_of_map_finite_eq same
        obtain none | ⟨rising, open_⟩ := reason
        · exact some none
        · exact rises rising open_

end Widened

section Ends

omit [IsStrictOrderedRing K] in
theorem shareAt_segments [CharZero K] (some : coil.segments ≠ 0) : coil.shareAt coil.segments = 1 :=
  div_self (Nat.cast_ne_zero.mpr some)

omit [IsStrictOrderedRing K] in
/-- The height grows with what is turned, by the pitch for every turn. -/
theorem rise_of_angle (i j : ℕ) : (coil.riseAt j - coil.riseAt i) * (coil.rotation * functions.turn) =
    coil.pitch * (coil.angleAt functions j - coil.angleAt functions i) := by
  unfold riseAt angleAt
  ring

omit [FloorRing K] in
theorem abs_rotation : |coil.rotation| = 1 := by
  unfold rotation
  split
  · rw [abs_neg, abs_one]
  · exact abs_one

/-- Where the turns are so many whole segments, each of them turns by its share of one turn. -/
theorem abs_angleAt_succ_sub (some : coil.segments ≠ 0) {whole : ℤ}
    (turned : |coil.turns| * coil.perTurn.toNat = whole) (i : ℕ) :
    |coil.angleAt functions (i + 1) - coil.angleAt functions i| = |functions.turn| / coil.perTurn.toNat := by
  have size : (0 : K) ≤ |coil.turns| * coil.perTurn.toNat := mul_nonneg (abs_nonneg _) (Nat.cast_nonneg _)
  have segments : (coil.segments : K) = |coil.turns| * coil.perTurn.toNat := by
    have sign : 0 ≤ whole := by exact_mod_cast turned ▸ size
    have exact : coil.segments = whole.toNat := by
      unfold segments
      rw [turned, nearest_intCast]
    rw [turned, exact, ← Int.cast_natCast, Int.toNat_of_nonneg sign]
  have nonzero : |coil.turns| * coil.perTurn.toNat ≠ 0 := segments ▸ Nat.cast_ne_zero.mpr some
  have step : coil.angleAt functions (i + 1) - coil.angleAt functions i =
      coil.rotation * coil.turns * functions.turn / coil.segments := by
    unfold angleAt shareAt
    push_cast
    ring
  rw [step, segments, abs_div, abs_of_nonneg size, abs_mul, abs_mul, abs_rotation, one_mul,
    mul_div_mul_left _ _ (left_ne_zero_of_mul nonzero)]

end Ends

/-- In exact arithmetic a helix is refused just if a count is zero, a number is not finite, or it rises from a
centre without a height. Else its points go evenly in radius, angle and height from one end to the other, and
there is one more of them than segments, as long as that is a word. A spiral is a helix without a pitch, and
needs no height. -/
theorem helix_drifts (functions : Functions K) (coil : Coil (Widened K)) (centre : Point (Widened K)) :
    let _ := widened functions.counting
    ((∃ cause, coil.helix centre = .error cause) ↔ coil.perTurn = 0 ∨ .beyond ∈ coil.numbers ∨
      ∃ known : Coil K, coil = known.map .finite ∧
        (known.segments = 0 ∨ known.pitch * known.turns ≠ 0 ∧ centre.z = none)) ∧
    (∀ known : Coil K, coil = known.map .finite → ∀ points, coil.helix centre = .ok points →
      points = known.points functions centre ∧
      (points.length = known.segments + 1 ↔ known.segments + 1 < 2 ^ 64) ∧
      known.radiusAt known.segments = known.endRadius ∧
      known.angleAt functions known.segments =
        known.startAngle + known.rotation * known.turns * (2 * functions.pi) ∧
      known.riseAt known.segments = known.pitch * known.turns ∧
      (∀ i j, (known.riseAt j - known.riseAt i) * (known.rotation * (2 * functions.pi)) =
        known.pitch * (known.angleAt functions j - known.angleAt functions i)) ∧
      ∀ whole : ℤ, |known.turns| * known.perTurn.toNat = whole → ∀ i,
        |known.angleAt functions (i + 1) - known.angleAt functions i| =
          |2 * functions.pi| / known.perTurn.toNat) ∧
    coil.spiral centre = Coil.helix { coil with pitch := .finite 0 } centre ∧
    ((∃ cause, coil.spiral centre = .error cause) ↔ coil.perTurn = 0 ∨
      .beyond ∈ [coil.startRadius, coil.endRadius, coil.startAngle, coil.turns] ∨
      ∃ known : Coil K, { coil with pitch := .finite 0 } = known.map .finite ∧ known.segments = 0) := by
  intro _
  have flat : coil.spiral centre = Coil.helix { coil with pitch := .finite 0 } centre := by
    unfold spiral Geometry.spiral helix
    rw [widened_zero]
  refine ⟨helix_refused_iff functions coil centre, ?_, flat, ?_⟩
  · rintro known rfl points ok
    have turn : 2 * functions.pi = functions.turn := two_mul _
    rw [turn]
    obtain ⟨-, some, -, rfl⟩ := (known.helix_map_ok_iff functions centre).mp ok
    have all := known.shareAt_segments some
    refine ⟨rfl, known.length_points functions centre, ?_, ?_, ?_, known.rise_of_angle functions,
      fun whole turned => known.abs_angleAt_succ_sub functions some turned⟩
    · rw [radiusAt, all, one_mul, add_sub_cancel]
    · rw [angleAt, all, one_mul]
    · rw [riseAt, all, one_mul]
  · rw [flat]
    refine (helix_refused_iff functions _ centre).trans (or_congr_right (or_congr ?_ ?_))
    · simp [numbers]
    · refine exists_congr fun known => and_congr_right fun same => or_iff_left ?_
      -- Without a pitch nothing rises, so an open height is no reason.
      rintro ⟨rises, -⟩
      have level : 0 = known.pitch := Widened.finite.inj (congrArg pitch same)
      exact rises (level ▸ zero_mul _)

/-- For one turn, so many segments as there are in a turn. -/
theorem segments_of_one {coil : Coil K} (one : coil.turns = 1) : coil.segments = coil.perTurn.toNat := by
  unfold segments
  rw [one, abs_one, one_mul, ← Int.cast_natCast, nearest_intCast]
  exact Int.toNat_natCast _

/-- Fractions with functions of no account. -/
def fractions : Functions ℚ where
  sqrt := id
  sin := id
  cos := id
  atan2 _ := id
  hypot _ := id
  remainder _ := id
  round := id
  toCount _ := 0
  pi := 3

/-- One turn in four segments, which rises. -/
theorem helix_drifts_quarter :
    let _ := widened fractions.counting
    let known : Coil ℚ := ⟨1, 2, 0, 1, 3, 4, false⟩
    ∃ points, (known.map Widened.finite).helix { z := some (Widened.finite 5) } = .ok points ∧
      points.length = 5 := by
  intro _ known
  have four : known.segments = 4 := segments_of_one rfl
  obtain ⟨-, accepted, -⟩ := helix_drifts fractions (known.map Widened.finite) { z := some (Widened.finite 5) }
  have ok := (known.helix_map_ok_iff fractions { z := some (Widened.finite 5) }).mpr
    ⟨by decide, by omega, fun _ => Option.some_ne_none _, rfl⟩
  obtain ⟨-, length, -⟩ := accepted known rfl _ ok
  rw [four] at length
  exact ⟨_, ok, length.mpr (by norm_num)⟩

/-- A helix in more segments than a word can count has no points. -/
theorem helix_can_vanish : ¬ ∀ (functions : Functions ℚ) (known : Coil ℚ) (centre : Point (Widened ℚ)) points,
    @helix _ (widened functions.counting) (known.map .finite) centre = .ok points →
      points.length = known.segments + 1 := by
  intro whole
  let known : Coil ℚ := ⟨1, 2, 0, 1, 0, 18446744073709551615, false⟩
  have many : known.segments = 18446744073709551615 := segments_of_one rfl
  have ok := (known.helix_map_ok_iff fractions { x := some (.finite 1), y := some (.finite 1) }).mpr
    ⟨by decide, by omega, by simp [known], rfl⟩
  have length := (known.length_points fractions _).mp (whole fractions known _ _ ok)
  omega

end Coil

end Toolpath.Geometry
