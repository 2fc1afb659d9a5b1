import Toolpath.Proofs.Geometry.Generator
import Toolpath.Proofs.Scalar.FloatCount

/-!
How many points the generators give. A count is computed in words of 64 bits: products and sums go round, and
a number that becomes a count stops at the greatest word. So there are as many points as promised just as long
as every count on the way is a word; beyond that, there are few or none.
-/

namespace Toolpath.Geometry

/-- Fits in a word. -/
def IsWord (count : ℕ∞) : Prop := count < (2 ^ 64 : ℕ)

theorem isWord_natCast {n : ℕ} : IsWord n ↔ n < 2 ^ 64 := Nat.cast_lt

theorem IsWord.of_le {fewer count : ℕ∞} (order : fewer ≤ count) (word : IsWord count) : IsWord fewer :=
  lt_of_le_of_lt order word

/-- One more than a count that stopped at the greatest word is right if it is a word. -/
theorem toNat_add_one_eq_iff {whole : ℕ∞} {word : UInt64}
    (stopped : (word.toNat : ℕ∞) = min whole (2 ^ 64 - 1 : ℕ)) :
    ((word + 1).toNat : ℕ∞) = whole + 1 ↔ IsWord (whole + 1) := by
  -- Where it stopped, one more goes round to zero, and nothing that is a word is one more than that.
  cases whole with
  | top =>
    have full : word.toNat = 2 ^ 64 - 1 := Nat.cast_injective (stopped.trans (min_eq_right le_top))
    have none : word + 1 = 0 := add_one_eq_zero (by omega)
    rw [none]
    exact iff_of_false (ENat.natCast_ne_top _) (not_lt.mpr le_top)
  | coe n =>
    have stopped : word.toNat = min n (2 ^ 64 - 1) := by
      rw [← Nat.mono_cast.map_min] at stopped
      exact Nat.cast_injective stopped
    show _ = ((n + 1 : ℕ) : ℕ∞) ↔ IsWord (n + 1 : ℕ)
    rw [isWord_natCast, Nat.cast_inj]
    by_cases room : word.toNat + 1 < 2 ^ 64
    · rw [toNat_add_one room]
      omega
    · rw [add_one_eq_zero room, UInt64.toNat_zero]
      omega

theorem toNat_eq_min (word : UInt64) : (word.toNat : ℕ∞) = min (word.toNat : ℕ∞) (2 ^ 64 - 1 : ℕ) := by
  have bound := word.toNat_lt
  rw [← Nat.mono_cast.map_min, min_eq_left (by omega)]

/-- The same for evenly spaced numbers, of which there is one at least. -/
theorem max_toNat_add_one_eq_iff {word : UInt64} :
    ((max 1 (word + 1).toNat : ℕ) : ℕ∞) = word.toNat + 1 ↔ IsWord (word.toNat + 1) := by
  have bound := word.toNat_lt
  show ((max 1 (word + 1).toNat : ℕ) : ℕ∞) = ((word.toNat + 1 : ℕ) : ℕ∞) ↔ IsWord (word.toNat + 1 : ℕ)
  rw [isWord_natCast, Nat.cast_inj]
  by_cases room : word.toNat + 1 < 2 ^ 64
  · rw [toNat_add_one room]
    omega
  · rw [add_one_eq_zero room, UInt64.toNat_zero]
    omega

section Lengths

variable {α : Type} [Scalar α] {points : List (Point α)}

theorem length_arc {centre : Point α} {radius startAngle totalAngle : α} {segments : UInt64}
    (ok : arc centre radius startAngle totalAngle segments = .ok points) :
    points.length = max 1 (segments + 1).toNat := by
  obtain ⟨-, -, rfl⟩ := arc_ok_iff.mp ok
  rw [List.length_map, length_spaced]

theorem length_ellipticalArc {centre : Point α} {a b startAngle totalAngle : α} {segments : UInt64}
    (ok : ellipticalArc centre a b startAngle totalAngle segments = .ok points) :
    points.length = max 1 (segments + 1).toNat := by
  obtain ⟨-, -, rfl⟩ := ellipticalArc_ok_iff.mp ok
  rw [List.length_map, length_spaced]

theorem length_variableArc {centre : Point α} {radius startAngle totalAngle radiusDelta zDelta : α}
    {segments : UInt64}
    (ok : variableArc centre radius startAngle totalAngle segments radiusDelta zDelta = .ok points) :
    points.length = (segments + 1).toNat := by
  obtain ⟨-, -, -, rfl⟩ := variableArc_ok_iff.mp ok
  rw [driftPoints, List.length_map, List.length_range]

theorem length_follow (start : Point α) (legs : List (Leg α)) :
    (follow start legs).length = legs.length := by
  induction legs generalizing start with
  | nil => rfl
  | cons leg rest ih => exact congrArg (· + 1) (ih _)

/-- Every period of a square wave but the last has four pieces. -/
theorem length_squareLegs (direction amplitude lineSpacing : α) {periods : Nat}
    (one : 1 ≤ periods) (extraHalfPeriod extraEndLine : Bool) :
    (squareLegs direction amplitude lineSpacing periods extraHalfPeriod extraEndLine).length + 1 =
      4 * periods + 2 * extraHalfPeriod.toNat + extraEndLine.toNat := by
  obtain ⟨earlier, rfl⟩ := Nat.exists_eq_add_of_le' one
  have four : ∀ i ∈ List.range earlier, ¬ i + 1 = earlier + 1 := by
    intro i member
    have before := List.mem_range.mp member
    omega
  have pieces {last : List (Leg α)} (a b c d : Leg α) : ((List.range earlier).flatMap fun i =>
      if i + 1 = earlier + 1 then last else [a, b, c, d]).length = 4 * earlier := by
    rw [List.flatMap_congr (g := fun _ => [a, b, c, d]) fun i member => if_neg (four i member),
      List.length_flatMap]
    simp [Nat.mul_comm]
  unfold squareLegs
  rw [List.length_append, List.length_append, List.range_succ, List.flatMap_append, List.length_append,
    pieces]
  cases extraHalfPeriod <;> cases extraEndLine <;> simp <;> omega

theorem length_segmentedLine {p q : Point α} {segments : UInt64}
    (ok : segmentedLine p q segments = .ok points) : points.length = (segments + 1).toNat := by
  obtain ⟨-, rfl⟩ := segmentedLine_ok_iff.mp ok
  rw [List.length_map, List.length_range]

theorem length_translateCopies (points : List (Point α)) (offset : Vector α) (quantity : UInt64) :
    (translateCopies points offset quantity).length = quantity.toNat * points.length := by
  unfold translateCopies translate
  simp only [List.length_flatMap, List.length_map]
  rw [List.map_const', List.length_range, List.sum_replicate, smul_eq_mul]

theorem length_axisOfLine (a b : Option α) (count : UInt64) :
    count.toNat ≤ (axisOfLine a b count).length := by
  unfold axisOfLine
  split
  · rw [List.length_map, length_spaced]
    exact le_max_right _ _
  · exact List.length_replicate.ge

end Lengths

/-- The segments of a sine wave are counted round the greatest word. -/
theorem toNat_sineSegments (periods perPeriod : UInt64) (extraHalfPeriod : Bool) :
    (sineSegments periods perPeriod extraHalfPeriod).toNat =
      (periods.toNat * perPeriod.toNat + extraHalfPeriod.toNat * (perPeriod.toNat / 2)) % 2 ^ 64 := by
  have half : (if extraHalfPeriod then perPeriod / 2 else 0).toNat =
      extraHalfPeriod.toNat * (perPeriod.toNat / 2) := by
    cases extraHalfPeriod with
    | false => exact (Nat.zero_mul _).symm
    | true => exact (UInt64.toNat_div _ _).trans (Nat.one_mul _).symm
  rw [sineSegments, UInt64.toNat_add, UInt64.toNat_mul, half, Nat.mod_add_mod]

/-- The segments of so many turns, before their number becomes a word. -/
def segmentsOf (turns : Float) (perTurn : UInt64) : ℕ∞ :=
  FloatScalar.whole (Scalar.round (Scalar.magnitude turns * Scalar.ofCount perTurn.toNat))

theorem toNat_segmentCount (turns : Float) (perTurn : UInt64) :
    ((segmentCount turns perTurn).toNat : ℕ∞) = min (segmentsOf turns perTurn) (2 ^ 64 - 1 : ℕ) :=
  FloatScalar.toNat_toUInt64 _

namespace Generator

/-- The counts a generator is called with, in the order they are looked at. -/
def counts {α : Type} : Generator α → List (String × UInt64)
  | .arc _ _ _ segments | .variableArc _ _ _ segments _ _ | .ellipticalArc _ _ _ _ segments
  | .circle _ _ segments _ | .ellipse _ _ _ segments _ => [("segments", segments)]
  | .polygon _ _ sides _ => [("sides", sides)]
  | .helix _ _ _ _ _ perTurn _ | .spiral _ _ _ _ perTurn _ => [("segments_per_turn", perTurn)]
  | .rectangle .. => []
  | .squareWave _ _ _ periods _ _ => [("periods", periods)]
  | .sineWave _ _ _ periods perPeriod _ _ => [("periods", periods), ("segments_per_period", perPeriod)]

/-- How many points a generator is to give. -/
noncomputable def promised : Generator Float → ℕ∞
  | .arc _ _ _ segments | .variableArc _ _ _ segments _ _ | .ellipticalArc _ _ _ _ segments
  | .polygon _ _ segments _ | .circle _ _ segments _ | .ellipse _ _ _ segments _ => segments.toNat + 1
  | .helix _ _ _ turns _ perTurn _ | .spiral _ _ _ turns perTurn _ => segmentsOf turns perTurn + 1
  | .rectangle .. => 5
  | .squareWave _ _ _ periods extraHalfPeriod extraEndLine =>
    (4 * periods.toNat + 2 * extraHalfPeriod.toNat + extraEndLine.toNat : ℕ)
  | .sineWave _ _ _ periods perPeriod extraHalfPeriod _ =>
    (periods.toNat * perPeriod.toNat + extraHalfPeriod.toNat * (perPeriod.toNat / 2) + 1 : ℕ)

/-- The counts that are computed on the way. -/
noncomputable def counted : Generator Float → List ℕ∞
  | .arc _ _ _ segments | .variableArc _ _ _ segments _ _ | .ellipticalArc _ _ _ _ segments
  | .polygon _ _ segments _ | .circle _ _ segments _ | .ellipse _ _ _ segments _ => [segments.toNat + 1]
  | .helix _ _ _ turns _ perTurn _ | .spiral _ _ _ turns perTurn _ =>
    [segmentsOf turns perTurn, segmentsOf turns perTurn + 1]
  | .rectangle .. | .squareWave .. => []
  | .sineWave _ _ _ periods perPeriod extraHalfPeriod _ =>
    [(periods.toNat * perPeriod.toNat : ℕ),
      (periods.toNat * perPeriod.toNat + extraHalfPeriod.toNat * (perPeriod.toNat / 2) : ℕ)]

/-- A count of zero is refused by its name, the first of them if there are more. -/
theorem points_of_zero {α : Type} [Scalar α] {generator : Generator α} {name : String}
    (none : generator.counts.find? (·.2 == 0) = some (name, 0)) (start : Point α) :
    generator.points start = .error (.tooFew name 1 0) := by
  have alone {named : String} {count : UInt64}
      (none : [(named, count)].find? (·.2 == 0) = some (name, 0)) : named = name ∧ count = 0 := by
    obtain ⟨-, same, zero⟩ : count = 0 ∧ named = name ∧ count = 0 := by simpa using none
    exact ⟨same, zero⟩
  cases generator with
  | rectangle => cases none
  | sineWave _ _ _ periods perPeriod =>
    by_cases noPeriod : periods = 0
    · obtain rfl := noPeriod
      cases none
      rfl
    · have later := List.find?_cons_of_neg (l := [("segments_per_period", perPeriod)])
        (p := fun count => count.2 == 0) (a := ("periods", periods)) (by simpa using noPeriod)
      obtain ⟨rfl, rfl⟩ := alone (later.symm.trans none)
      have some : 1 ≤ periods :=
        UInt64.le_iff_toNat_le.mpr (Nat.pos_of_ne_zero fun zero => noPeriod (UInt64.toNat_inj.mp zero))
      show Geometry.sineWave start _ _ _ periods 0 _ _ = _
      unfold Geometry.sineWave
      rw [requireCount_eq_ok.mpr some]
      rfl
  | arc | variableArc | ellipticalArc | circle | ellipse | polygon | helix | spiral | squareWave =>
    obtain ⟨rfl, rfl⟩ := alone none
    rfl

/-- How many points come of the counts as words. -/
def computed : Generator Float → ℕ
  | .arc _ _ _ segments | .ellipticalArc _ _ _ _ segments | .polygon _ _ segments _ | .circle _ _ segments _
  | .ellipse _ _ _ segments _ => max 1 (segments + 1).toNat
  | .variableArc _ _ _ segments _ _ => (segments + 1).toNat
  | .helix _ _ _ turns _ perTurn _ | .spiral _ _ _ turns perTurn _ => (segmentCount turns perTurn + 1).toNat
  | .rectangle .. => 5
  | .squareWave _ _ _ periods extraHalfPeriod extraEndLine =>
    4 * periods.toNat + 2 * extraHalfPeriod.toNat + extraEndLine.toNat
  | .sineWave _ _ _ periods perPeriod extraHalfPeriod _ =>
    (sineSegments periods perPeriod extraHalfPeriod).toNat + 1

variable {generator : Generator Float} {start : Point Float} {points : List (Point Float)}

theorem length_points (ok : generator.points start = .ok points) : points.length = generator.computed := by
  cases generator with
  | arc | circle => exact length_arc ok
  | polygon => exact length_arc (polygon_ok_iff.mp ok)
  | ellipticalArc | ellipse => exact length_ellipticalArc ok
  | variableArc => exact length_variableArc ok
  | helix | spiral => exact length_variableArc (helix_ok_iff.mp ok).2.2
  | rectangle =>
    obtain ⟨-, rfl⟩ := rectangle_ok_iff.mp ok
    rfl
  | squareWave =>
    obtain ⟨one, -, rfl⟩ := squareWave_ok_iff.mp ok
    rw [List.length_cons, length_follow]
    exact length_squareLegs _ _ _ (UInt64.le_iff_toNat_le.mp one) _ _
  | sineWave =>
    obtain ⟨-, -, -, rfl⟩ := sineWave_ok_iff.mp ok
    rw [List.length_map, List.length_range]
    rfl

/-- As many points come of the counts as promised just if all of them are words. -/
theorem computed_eq_promised_iff :
    (generator.computed : ℕ∞) = generator.promised ↔ ∀ count ∈ generator.counted, IsWord count := by
  cases generator with
  | arc | circle | polygon | ellipticalArc | ellipse =>
    rw [counted, List.forall_mem_singleton]
    exact max_toNat_add_one_eq_iff
  | variableArc =>
    rw [counted, List.forall_mem_singleton]
    exact toNat_add_one_eq_iff (toNat_eq_min _)
  | helix | spiral =>
    -- The greatest word is where a number stops, so that it did not stop says less than that one more fits.
    rw [counted, List.forall_mem_cons, List.forall_mem_singleton, and_iff_right_of_imp (IsWord.of_le le_self_add)]
    exact toNat_add_one_eq_iff (toNat_segmentCount _ _)
  | rectangle | squareWave => exact iff_of_true rfl (List.forall_mem_nil _)
  | sineWave _ _ _ periods perPeriod extraHalfPeriod =>
    rw [counted, List.forall_mem_cons, List.forall_mem_singleton,
      and_iff_right_of_imp (IsWord.of_le (Nat.cast_le.mpr (Nat.le_add_right _ _))), isWord_natCast, computed, promised,
      toNat_sineSegments, Nat.cast_inj, Nat.add_right_cancel_iff]
    exact Nat.mod_eq_iff_lt (by norm_num)

end Generator

/-- A count of zero is refused, by its name. From other counts there are as many points as promised just if
every count that is computed on the way is a word, and copies are as many as asked for in any case. Lists that
are gone through together are long enough for that. -/
theorem Generator.points_count (generator : Generator Float) (start p q : Point Float) (segments : UInt64)
    (shape : List (Point Float)) (offset : Vector Float) (quantity : UInt64) :
    (∀ name, generator.counts.find? (·.2 == 0) = some (name, 0) →
      generator.points start = .error (.tooFew name 1 0)) ∧
    (∀ points, generator.points start = .ok points → points.length = generator.computed ∧
      ((points.length : ℕ∞) = generator.promised ↔ ∀ count ∈ generator.counted, IsWord count)) ∧
    (segmentedLine p q 0 = .error (.tooFew "segments" 1 0) ∧
      ∀ points, segmentedLine p q segments = .ok points → points.length = (segments + 1).toNat ∧
        ((points.length : ℕ∞) = segments.toNat + 1 ↔ IsWord (segments.toNat + 1))) ∧
    (translateCopies shape offset quantity).length = quantity.toNat * shape.length ∧
    (∀ (first last : Float) (count : UInt64), count.toNat ≤ (spaced first last count).length) ∧
    ∀ (a b : Option Float) (count : UInt64), count.toNat ≤ (axisOfLine a b count).length := by
  refine ⟨fun name none => points_of_zero none start, fun points ok => ?_, ⟨rfl, fun points ok => ?_⟩,
    length_translateCopies shape offset quantity, fun first last count => ?_, length_axisOfLine⟩
  · rw [length_points ok]
    exact ⟨rfl, computed_eq_promised_iff⟩
  · rw [length_segmentedLine ok]
    exact ⟨rfl, toNat_add_one_eq_iff (toNat_eq_min segments)⟩
  · rw [length_spaced]
    exact le_max_right _ _

/-- A circle in four segments. -/
theorem Generator.points_count_circle : ∃ points,
    (Generator.circle (α := Float) 2 0 4 false).points {} = .ok points ∧ points.length = 5 := by
  have ok : (Generator.circle (α := Float) 2 0 4 false).points {} = .ok _ :=
    arc_ok_iff.mpr ⟨by decide, by decide, rfl⟩
  obtain ⟨-, counted, -⟩ := points_count (.circle 2 0 4 false) {} {} {} 4 [] ⟨0, 0, 0⟩ 0
  exact ⟨_, ok, (counted _ ok).1⟩

/-- One more than the greatest word is zero, and an arc in so many segments is one point. -/
theorem count_can_go_round : ¬ ∀ (generator : Generator Float) (start : Point Float)
    (points : List (Point Float)), generator.points start = .ok points → (points.length : ℕ∞) = generator.promised := by
  intro whole
  let generator : Generator Float := .arc 2 1 2 18446744073709551615
  have ok : generator.points { x := some 1, y := some 1 } = .ok _ := arc_ok_iff.mpr ⟨by decide, by decide, rfl⟩
  have many := whole _ _ _ ok
  rw [Generator.length_points ok] at many
  have word := Generator.computed_eq_promised_iff.mp many _ List.mem_cons_self
  exact absurd (isWord_natCast.mp word) (by decide)

end Toolpath.Geometry
