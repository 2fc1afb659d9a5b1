import Toolpath.Proofs.Geometry.Accepted
import Toolpath.Proofs.Geometry.Polar

/-!
Sine waves over the reals. The wave along X is turned into its direction by way of polar coordinates, which is
a rotation about the start whatever side of it a point lies on, and on the start itself.
-/

namespace Toolpath.Geometry

open Scalar (exact reals turn_reals)

/-- The place so far from another in a direction, and so far to the left of that. -/
noncomputable def ahead (origin : ℝ × ℝ) (direction along aside : ℝ) : ℝ × ℝ :=
  (origin.1 + along * Real.cos direction - aside * Real.sin direction,
    origin.2 + along * Real.sin direction + aside * Real.cos direction)

/-- To go the distance of a place in its direction and turn by an angle is a rotation about the centre. -/
theorem polarOffset_turned (place centre : ℝ × ℝ) (height : Option ℝ) (angle : ℝ) :
    @polarOffset ℝ (exact reals) (pointAt centre height) √(gap place centre) (heading place centre + angle) =
      pointAt (ahead centre angle (place.1 - centre.1) (place.2 - centre.2)) height := by
  obtain ⟨atX, atY⟩ := gap_heading place centre
  have along : √(gap place centre) * Real.cos (heading place centre) = place.1 - centre.1 := by linarith
  have aside : √(gap place centre) * Real.sin (heading place centre) = place.2 - centre.2 := by linarith
  have turnedX : centre.1 + √(gap place centre) * Real.cos (heading place centre + angle) =
      (ahead centre angle (place.1 - centre.1) (place.2 - centre.2)).1 := by
    rw [Real.cos_add, mul_sub, ← mul_assoc, ← mul_assoc, along, aside, ← add_sub_assoc]
    rfl
  have turnedY : centre.2 + √(gap place centre) * Real.sin (heading place centre + angle) =
      (ahead centre angle (place.1 - centre.1) (place.2 - centre.2)).2 := by
    rw [Real.sin_add, mul_add, ← mul_assoc, ← mul_assoc, along, aside, add_comm (_ * Real.cos angle),
      ← add_assoc]
    rfl
  have there : (centre.1 + √(gap place centre) * Real.cos (heading place centre + angle),
      centre.2 + √(gap place centre) * Real.sin (heading place centre + angle)) =
        ahead centre angle (place.1 - centre.1) (place.2 - centre.2) := Prod.ext turnedX turnedY
  exact congrArg (pointAt · height) there

/-- A point of a sine wave, so many segments from the start: as far along the direction as that is, and as far
aside as the wave is high there. -/
theorem turnedPoint_eq (start : Point ℝ) (direction amplitude periodLength phaseShift perPeriod : ℝ) (k : ℕ) :
    @turnedPoint ℝ (exact reals) start direction amplitude periodLength phaseShift perPeriod k =
      pointAt (ahead (start.x.getD 0, start.y.getD 0) direction (k * periodLength / perPeriod)
        (amplitude * (1 - Real.cos (2 * Real.pi * k / perPeriod + phaseShift)) / 2)) start.z := by
  let _ := exact reals
  have zero : (0.0 : ℝ) = 0 := by norm_num
  have half : (0.5 : ℝ) = 1 / 2 := by norm_num
  let centre : ℝ × ℝ := (start.x.getD 0, start.y.getD 0)
  let along : ℝ := k * periodLength / perPeriod
  let aside : ℝ := amplitude * (1 - Real.cos (2 * Real.pi * k / perPeriod + phaseShift)) / 2
  let place : ℝ × ℝ := (centre.1 + along, centre.2 + aside)
  have grounded (radius angle : ℝ) : polarOffset start radius angle =
      polarOffset (pointAt centre start.z) radius angle := by
    unfold polarOffset
    rw [zero]
    rfl
  have flat : sinePoint start amplitude periodLength phaseShift perPeriod k = pointAt place start.z := by
    have height : amplitude * (0.5 - 0.5 * Real.cos (k / perPeriod * Scalar.turn + phaseShift)) = aside := by
      have angle : k / perPeriod * (2 * Real.pi) = 2 * Real.pi * k / perPeriod := by ring
      rw [half, turn_reals, angle]
      ring
    unfold sinePoint
    rw [zero]
    exact congrArg (fun v => pointAt (centre.1 + along, centre.2 + v) start.z) height
  have aheadAside : ahead centre direction (place.1 - centre.1) (place.2 - centre.2) =
      ahead centre direction along aside := by
    rw [add_sub_cancel_left, add_sub_cancel_left]
  unfold turnedPoint
  rw [flat, grounded, zero, add_zero]
  exact (polarOffset_turned place centre start.z direction).trans (congrArg (pointAt · start.z) aheadAside)

/-- A sine wave in closed form: its points lie along the direction in even steps, and aside of it by a cosine. -/
theorem sineWave_traces {start : Point ℝ} {direction amplitude periodLength phaseShift : ℝ}
    {periods perPeriod : UInt64} {extraHalfPeriod : Bool} {points : List (Point ℝ)} :
    @sineWave ℝ (exact reals) start direction amplitude periodLength periods perPeriod extraHalfPeriod phaseShift =
      .ok points ↔ 1 ≤ periods ∧ 1 ≤ perPeriod ∧
        points = (List.range ((sineSegments periods perPeriod extraHalfPeriod).toNat + 1)).map fun k : ℕ =>
          pointAt (ahead (start.x.getD 0, start.y.getD 0) direction (k * periodLength / perPeriod.toNat)
            (amplitude * (1 - Real.cos (2 * Real.pi * k / perPeriod.toNat + phaseShift)) / 2)) start.z := by
  let _ := exact reals
  have finite (values : List ℝ) : ∀ v ∈ values, Scalar.isFinite v = true := fun _ _ => rfl
  rw [sineWave_ok_iff, and_iff_right (finite _), eq_comm (a := points)]
  simp only [← turnedPoint_eq]
  rfl

end Toolpath.Geometry
