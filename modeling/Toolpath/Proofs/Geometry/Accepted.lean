import Toolpath.Geometry.Shape
import Toolpath.Geometry.Wave
import Toolpath.Proofs.Result
import Mathlib.Algebra.Group.Nat.Defs

/-!
What the generators accept, and the points they give then, in the arithmetic of any numbers. Counts are
words: one more than the greatest of them is zero, and numbers spaced so many times are the first alone.
-/

namespace Toolpath.Geometry

variable {α : Type}

theorem requireCount_eq_ok {name : String} {count : UInt64} :
    requireCount (α := α) name count = .ok () ↔ 1 ≤ count := by
  unfold requireCount
  split <;> simp_all

theorem toNat_add_one {count : UInt64} (room : count.toNat + 1 < 2 ^ 64) :
    (count + 1).toNat = count.toNat + 1 := by
  rw [UInt64.toNat_add, UInt64.toNat_one, Nat.mod_eq_of_lt room]

theorem add_one_eq_zero {count : UInt64} (full : ¬ count.toNat + 1 < 2 ^ 64) : count + 1 = 0 := by
  have bound := count.toNat_lt
  apply UInt64.toNat_inj.mp
  rw [UInt64.toNat_add, UInt64.toNat_one, UInt64.toNat_zero]
  omega

variable [Scalar α]

theorem requireFinite_eq_ok {name : String} {value : α} :
    requireFinite name value = .ok () ↔ Scalar.isFinite value = true := by
  unfold requireFinite
  split <;> simp_all

/-- A number some shares of the way from one to another. -/
def share (first last : α) (shares : UInt64) (i : Nat) : α :=
  first + (last - first) / Scalar.ofCount shares.toNat * Scalar.ofCount i

theorem spaced_next (first last : α) {shares : UInt64} (one : 1 ≤ shares)
    (room : shares.toNat + 1 < 2 ^ 64) : spaced first last (shares + 1) =
      (List.range (shares.toNat + 1)).map (share first last shares) := by
  have some : 1 ≤ shares.toNat := UInt64.le_iff_toNat_le.mp one
  have many : ¬ shares + 1 < 2 := by
    rw [UInt64.not_lt, UInt64.le_iff_toNat_le, toNat_add_one room]
    exact Nat.succ_le_succ some
  unfold spaced
  rw [if_neg many, toNat_add_one room, UInt64.add_sub_cancel]
  rfl

theorem length_spaced (first last : α) (count : UInt64) :
    (spaced first last count).length = max 1 count.toNat := by
  unfold spaced
  split
  · rename_i few
    have few : count.toNat < 2 := UInt64.lt_iff_toNat_lt.mp few
    rw [List.length_singleton]
    omega
  · rename_i many
    have many : 2 ≤ count.toNat := UInt64.le_iff_toNat_le.mp (UInt64.not_lt.mp many)
    rw [List.length_map, List.length_range]
    omega

section Shapes

variable {centre start : Point α} {radius a b startAngle totalAngle : α} {segments : UInt64}
  {clockwise : Bool} {points : List (Point α)}

theorem arc_ok_iff : arc centre radius startAngle totalAngle segments = .ok points ↔
    1 ≤ segments ∧ (∀ v ∈ [radius, startAngle, totalAngle], Scalar.isFinite v = true) ∧
      (spaced startAngle (startAngle + totalAngle) (segments + 1)).map (polarOffset centre radius) = points := by
  unfold arc
  simp [check_eq_ok, requireCount_eq_ok, requireFinite_eq_ok, and_assoc]

theorem polygon_ok_iff : polygon centre radius startAngle segments clockwise = .ok points ↔
    circle centre radius startAngle segments clockwise = .ok points := by
  unfold polygon
  rw [check_eq_ok, requireCount_eq_ok, circle, and_iff_right_of_imp]
  exact fun ok => (arc_ok_iff.mp ok).1

/-- A point of an ellipse whose half axes lie along X and Y. -/
def ellipsePoint (centre : Point α) (a b angle : α) : Point α where
  x := some (a * Scalar.cos angle + centre.x.getD 0.0)
  y := some (b * Scalar.sin angle + centre.y.getD 0.0)
  z := centre.z

theorem ellipticalArc_ok_iff : ellipticalArc centre a b startAngle totalAngle segments = .ok points ↔
    1 ≤ segments ∧ (∀ v ∈ [a, b, startAngle, totalAngle], Scalar.isFinite v = true) ∧
      (spaced startAngle (startAngle + totalAngle) (segments + 1)).map (ellipsePoint centre a b) = points := by
  unfold ellipticalArc
  simp [check_eq_ok, requireCount_eq_ok, requireFinite_eq_ok, and_assoc]
  exact fun _ _ _ _ _ => Iff.rfl

/-- The corners of a rectangle, and the first of them again. -/
def corners (start : Point α) (xSize ySize : α) (clockwise : Bool) : List (Point α) :=
  let x := start.x.getD 0.0
  let y := start.y.getD 0.0
  let alongX : α := if clockwise then 0.0 else 1.0
  let alongY : α := if clockwise then 1.0 else 0.0
  [(x, y), (x + xSize * alongX, y + ySize * alongY), (x + xSize, y + ySize),
    (x + xSize * alongY, y + ySize * alongX), (x, y)].map fun (x, y) => { x := some x, y := some y, z := start.z }

theorem rectangle_ok_iff {xSize ySize : α} : rectangle start xSize ySize clockwise = .ok points ↔
    (∀ v ∈ [xSize, ySize], Scalar.isFinite v = true) ∧ corners start xSize ySize clockwise = points := by
  unfold rectangle
  simp [check_eq_ok, requireFinite_eq_ok, corners, and_assoc]

/-- The points of an arc whose radius and height drift. All three go by the same shares. -/
def driftPoints (centre : Point α) (radius startAngle totalAngle : α) (segments : UInt64)
    (radiusDelta zDelta : α) : List (Point α) :=
  (List.range (segments + 1).toNat).map fun i =>
    driftPoint centre (share radius (radius + radiusDelta) segments i)
      (share startAngle (startAngle + totalAngle) segments i) (share 0.0 zDelta segments i)

/-- The three lists of an arc that drifts go by the same shares. -/
theorem zipped_eq_driftPoints (centre : Point α) (radius startAngle totalAngle radiusDelta zDelta : α)
    (one : 1 ≤ segments) :
    (((spaced startAngle (startAngle + totalAngle) (segments + 1)).zip
      ((spaced radius (radius + radiusDelta) (segments + 1)).zip
        (spaced 0.0 zDelta (segments + 1)))).take (segments + 1).toNat).map
      (fun drawn => driftPoint centre drawn.2.1 drawn.1 drawn.2.2) =
      driftPoints centre radius startAngle totalAngle segments radiusDelta zDelta := by
  unfold driftPoints
  by_cases room : segments.toNat + 1 < 2 ^ 64
  · rw [spaced_next _ _ one room, spaced_next _ _ one room, spaced_next _ _ one room, List.zip_map',
      List.zip_map', toNat_add_one room, List.take_of_length_le (by simp), List.map_map]
    rfl
  · rw [add_one_eq_zero room]
    rfl

theorem variableArc_ok_iff {radiusDelta zDelta : α} :
    variableArc centre radius startAngle totalAngle segments radiusDelta zDelta = .ok points ↔
      1 ≤ segments ∧
        (∀ v ∈ [radius, startAngle, totalAngle, radiusDelta, zDelta], Scalar.isFinite v = true) ∧
        ((zDelta != 0.0) = true → centre.z ≠ none) ∧
        driftPoints centre radius startAngle totalAngle segments radiusDelta zDelta = points := by
  have guarded {guard : Bool} {drawn : List (Point α)} :
      (if guard && centre.z.isNone then throw (.missingAxis 'z') >>= fun (_ : Unit) => .ok drawn else .ok drawn) =
        (.ok points : Except (GeometryError α) _) ↔ (guard = true → centre.z ≠ none) ∧ drawn = points := by
    cases guard <;> cases centre.z <;> simp [throw, throwThe, MonadExceptOf.throw, bind, Except.bind]
  unfold variableArc
  simp only [check_eq_ok, requireCount_eq_ok, requireFinite_eq_ok, List.forall_mem_cons, List.not_mem_nil,
    false_imp_iff, implies_true, true_and, and_assoc, guarded]
  refine and_congr_right fun one => ?_
  rw [zipped_eq_driftPoints centre radius startAngle totalAngle radiusDelta zDelta one]

theorem helix_ok_iff {startRadius endRadius turns pitch : α} {perTurn : UInt64} :
    helix centre startRadius endRadius startAngle turns pitch perTurn clockwise = .ok points ↔
      1 ≤ perTurn ∧ (∀ v ∈ [turns, pitch, startRadius, endRadius], Scalar.isFinite v = true) ∧
        variableArc centre startRadius startAngle (turns * Scalar.turn * sense clockwise)
          (segmentCount turns perTurn) (endRadius - startRadius) (pitch * turns) = .ok points := by
  unfold helix
  simp only [check_eq_ok, requireCount_eq_ok, requireFinite_eq_ok, List.forall_mem_cons, List.not_mem_nil,
    false_imp_iff, implies_true, true_and, and_assoc]
  rw [and_iff_right_of_imp fun ok => (variableArc_ok_iff.mp ok).1]

end Shapes

section Waves

variable {start : Point α} {direction amplitude : α} {points : List (Point α)}

theorem squareWave_ok_iff {lineSpacing : α} {periods : UInt64} {extraHalfPeriod extraEndLine : Bool} :
    squareWave start direction amplitude lineSpacing periods extraHalfPeriod extraEndLine = .ok points ↔
      1 ≤ periods ∧ (∀ v ∈ [direction, amplitude, lineSpacing], Scalar.isFinite v = true) ∧
        start :: follow start
          (squareLegs direction amplitude lineSpacing periods.toNat extraHalfPeriod extraEndLine) = points := by
  unfold squareWave
  simp [check_eq_ok, requireCount_eq_ok, requireFinite_eq_ok, and_assoc]

/-- A point of a sine wave, turned into the direction of the wave about its start. -/
def turnedPoint (start : Point α) (direction amplitude periodLength phaseShift perPeriod : α) (segment : Nat) :
    Point α :=
  let flat := sinePoint start amplitude periodLength phaseShift perPeriod segment
  let polar := polarAbout (flat.x.getD 0.0) (flat.y.getD 0.0) (start.x.getD 0.0) (start.y.getD 0.0)
  polarOffset start (polar.radius + 0.0) (polar.angle + direction)

/-- How many segments a sine wave has. -/
def sineSegments (periods perPeriod : UInt64) (extraHalfPeriod : Bool) : UInt64 :=
  periods * perPeriod + (if extraHalfPeriod then perPeriod / 2 else 0)

theorem sineWave_ok_iff {periodLength phaseShift : α} {periods perPeriod : UInt64} {extraHalfPeriod : Bool} :
    sineWave start direction amplitude periodLength periods perPeriod extraHalfPeriod phaseShift = .ok points ↔
      1 ≤ periods ∧ 1 ≤ perPeriod ∧
        (∀ v ∈ [amplitude, periodLength, phaseShift, 0.0, direction], Scalar.isFinite v = true) ∧
        (List.range ((sineSegments periods perPeriod extraHalfPeriod).toNat + 1)).map
          (turnedPoint start direction amplitude periodLength phaseShift (Scalar.ofCount perPeriod.toNat)) =
            points := by
  -- Every point of the flat wave has an X and a Y, and so has the place it is turned about.
  have turned (segments : List Nat) : (segments.map (sinePoint start amplitude periodLength phaseShift
      (Scalar.ofCount perPeriod.toNat))).mapM (movePointPolar
        { start with x := some (start.x.getD 0.0), y := some (start.y.getD 0.0) }
        (start.x.getD 0.0) (start.y.getD 0.0) 0.0 direction) =
      .ok (segments.map (turnedPoint start direction amplitude periodLength phaseShift
        (Scalar.ofCount perPeriod.toNat))) := by
    rw [List.mapM_map]
    exact List.mapM_pure
  unfold sineWave movePolar
  simp only [check_eq_ok, requireCount_eq_ok, requireFinite_eq_ok, List.forall_mem_cons, List.not_mem_nil,
    false_imp_iff, implies_true, true_and, and_assoc]
  refine and_congr_right' (and_congr_right' (and_congr_right' (and_congr_right' (and_congr_right'
    (and_congr_right' (and_congr_right' ?_))))))
  show List.mapM _ _ = _ ↔ _
  rw [turned, Except.ok.injEq]
  rfl

end Waves

section Lines

variable {p q : Point α} {segments : UInt64} {points : List (Point α)}

/-- One axis of a line in segments, some shares of the way. -/
def axisShare (a b : Option α) (segments : UInt64) (i : Nat) : Option α :=
  match a, b with
  | some a, some b => some (share a b segments i)
  | a, b => b <|> a

theorem axisOfLine_next (a b : Option α) (one : 1 ≤ segments) (room : segments.toNat + 1 < 2 ^ 64) :
    axisOfLine a b (segments + 1) = (List.range (segments.toNat + 1)).map (axisShare a b segments) := by
  have still (v : Option α) : List.replicate (segments + 1).toNat v =
      (List.range (segments.toNat + 1)).map fun _ => v := by
    rw [toNat_add_one room, List.map_const', List.length_range]
  cases a with
  | none => exact still _
  | some a =>
    cases b with
    | none => exact still _
    | some b =>
      show (spaced a b (segments + 1)).map some = _
      rw [spaced_next _ _ one room, List.map_map]
      rfl

theorem segmentedLine_ok_iff : segmentedLine p q segments = .ok points ↔
    1 ≤ segments ∧ ((List.range (segments + 1).toNat).map fun i =>
      { x := axisShare p.x q.x segments i
        y := axisShare p.y q.y segments i
        z := axisShare p.z q.z segments i }) = points := by
  unfold segmentedLine
  simp only [check_eq_ok, requireCount_eq_ok, Except.ok.injEq]
  refine and_congr_right fun one => ?_
  by_cases room : segments.toNat + 1 < 2 ^ 64
  · rw [axisOfLine_next _ _ one room, axisOfLine_next _ _ one room, axisOfLine_next _ _ one room,
      List.zip_map', List.zip_map', toNat_add_one room, List.take_of_length_le (by simp), List.map_map]
    rfl
  · rw [add_one_eq_zero room]
    rfl

end Lines

end Toolpath.Geometry
