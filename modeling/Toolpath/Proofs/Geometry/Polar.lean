import Toolpath.Proofs.Geometry.Circle
import Toolpath.Proofs.Scalar.Real

/-!
Polar coordinates over the reals. The angle of one place about another lies in one turn from zero up, and
with the distance it gives the place back.
-/

namespace Toolpath

open Real (pi_pos)

theorem Scalar.turn_reals : @Scalar.turn ℝ (exact reals) = 2 * Real.pi := by
  show (2.0 : ℝ) * Real.pi = 2 * Real.pi
  norm_num

namespace Geometry

open Scalar (exact reals turn_reals leftover_eq leftover_nonneg neg_lt_leftover)

/-- An angle in one turn from zero up. -/
structure IsHeading (angle : ℝ) : Prop where
  start : 0 ≤ angle
  ends : angle < 2 * Real.pi

/-- Two angles are one direction if they are whole turns apart. -/
theorem angle_eq_iff {a b : ℝ} : (a : Real.Angle) = b ↔ ∃ turns : ℤ, a = b + turns * (2 * Real.pi) := by
  rw [Real.Angle.angle_eq_iff_two_pi_dvd_sub]
  constructor
  · rintro ⟨turns, apart⟩
    exact ⟨turns, by linarith⟩
  · rintro ⟨turns, apart⟩
    exact ⟨turns, by linarith⟩

/-- In one turn from zero up no direction comes twice. -/
theorem IsHeading.eq {a b : ℝ} (headingA : IsHeading a) (headingB : IsHeading b)
    (same : (a : Real.Angle) = b) : a = b := by
  obtain ⟨turns, apart⟩ := angle_eq_iff.mp same
  obtain ⟨startA, endA⟩ := headingA
  obtain ⟨startB, endB⟩ := headingB
  have turn : 0 < 2 * Real.pi := by linarith [pi_pos]
  have below : (turns : ℝ) < 1 := by
    by_contra most
    linarith [mul_le_mul_of_nonneg_right (not_lt.mp most) turn.le]
  have above : (-1 : ℝ) < turns := by
    by_contra most
    linarith [mul_le_mul_of_nonneg_right (not_lt.mp most) turn.le]
  have below' : turns < 1 := by exact_mod_cast below
  have above' : -1 < turns := by exact_mod_cast above
  have none : turns = 0 := by omega
  rw [apart, none, Int.cast_zero, zero_mul, add_zero]

theorem angle_withinTurn (angle : ℝ) : (@withinTurn ℝ (exact reals) angle : Real.Angle) = angle := by
  obtain ⟨first, inner⟩ := leftover_eq angle (2 * Real.pi)
  obtain ⟨second, outer⟩ := leftover_eq (Scalar.leftover angle (2 * Real.pi) + 2 * Real.pi) (2 * Real.pi)
  refine angle_eq_iff.mpr ⟨first + 1 + second, ?_⟩
  unfold withinTurn
  rw [turn_reals]
  show Scalar.leftover (Scalar.leftover angle (2 * Real.pi) + 2 * Real.pi) (2 * Real.pi) = _
  rw [outer, inner]
  push_cast
  ring

theorem isHeading_withinTurn (angle : ℝ) : IsHeading (@withinTurn ℝ (exact reals) angle) := by
  have turn : 0 < 2 * Real.pi := by linarith [pi_pos]
  have room : 0 ≤ Scalar.leftover angle (2 * Real.pi) + 2 * Real.pi := by
    linarith [neg_lt_leftover (a := angle) turn]
  unfold withinTurn
  rw [turn_reals]
  obtain ⟨start, ends⟩ := leftover_nonneg turn room
  exact ⟨start, ends⟩

/-- The angle of a place about a centre. -/
noncomputable def heading (place centre : ℝ × ℝ) : ℝ :=
  (@polarAbout ℝ (exact reals) place.1 place.2 centre.1 centre.2).angle

theorem isHeading_heading (place centre : ℝ × ℝ) : IsHeading (heading place centre) :=
  isHeading_withinTurn _

/-- Going the distance in the direction of a place leads there. -/
theorem gap_heading (place centre : ℝ × ℝ) :
    centre.1 + √(gap place centre) * Real.cos (heading place centre) = place.1 ∧
      centre.2 + √(gap place centre) * Real.sin (heading place centre) = place.2 := by
  have direction : (heading place centre : Real.Angle) =
      Complex.arg ⟨place.1 - centre.1, place.2 - centre.2⟩ := angle_withinTurn _
  have distance : √(gap place centre) = ‖(⟨place.1 - centre.1, place.2 - centre.2⟩ : ℂ)‖ := by
    rw [Complex.norm_def, Complex.normSq_mk]
    rfl
  rw [← Real.Angle.cos_coe, ← Real.Angle.sin_coe, direction, Real.Angle.cos_coe, Real.Angle.sin_coe,
    distance, Complex.norm_mul_cos_arg, Complex.norm_mul_sin_arg]
  constructor <;> ring

/-- The directions above a centre come before those below it. -/
theorem heading_lt_heading {above below centre : ℝ × ℝ} (higher : centre.2 < above.2)
    (lower : below.2 < centre.2) : heading above centre < heading below centre := by
  obtain ⟨-, up⟩ := gap_heading above centre
  obtain ⟨-, down⟩ := gap_heading below centre
  have rising : 0 < Real.sin (heading above centre) :=
    pos_of_mul_pos_right (by linarith) (Real.sqrt_nonneg (gap above centre))
  have falling : Real.sin (heading below centre) < 0 :=
    neg_of_mul_neg_right (by linarith) (Real.sqrt_nonneg (gap below centre))
  obtain ⟨-, endAbove⟩ := isHeading_heading above centre
  obtain ⟨startBelow, -⟩ := isHeading_heading below centre
  have firstHalf : heading above centre < Real.pi := by
    by_contra late
    have turnedBack := Real.sin_nonpos_of_nonpos_of_neg_pi_le
      (x := heading above centre - 2 * Real.pi) (by linarith) (by linarith)
    rw [Real.sin_sub_two_pi] at turnedBack
    linarith
  have secondHalf : Real.pi < heading below centre := by
    by_contra early
    linarith [Real.sin_nonneg_of_nonneg_of_le_pi startBelow (not_lt.mp early)]
  exact firstHalf.trans secondHalf

/-- On a circle about the centre each place has an angle of its own. -/
theorem eq_of_heading_eq {a b centre : ℝ × ℝ} (distance : gap a centre = gap b centre)
    (direction : heading a centre = heading b centre) : a = b := by
  obtain ⟨atX, atY⟩ := gap_heading a centre
  rw [distance, direction] at atX atY
  obtain ⟨alsoX, alsoY⟩ := gap_heading b centre
  exact Prod.ext (atX.symm.trans alsoX) (atY.symm.trans alsoY)

/-- The point at the distance and in the direction of a place. -/
theorem polarOffset_heading (place centre : ℝ × ℝ) (height : Option ℝ) {angle : ℝ}
    (direction : (angle : Real.Angle) = heading place centre) :
    @polarOffset ℝ (exact reals) (pointAt centre height) √(gap place centre) angle =
      pointAt place height := by
  obtain ⟨atX, atY⟩ := gap_heading place centre
  rw [← Real.Angle.cos_coe, ← direction, Real.Angle.cos_coe] at atX
  rw [← Real.Angle.sin_coe, ← direction, Real.Angle.sin_coe] at atY
  have there : (centre.1 + √(gap place centre) * Real.cos angle,
      centre.2 + √(gap place centre) * Real.sin angle) = place := Prod.ext atX atY
  exact congrArg (pointAt · height) there

end Geometry

end Toolpath
