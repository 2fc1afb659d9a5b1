import Toolpath.Decimal.Fixed
import Mathlib.Algebra.Order.Round
import Mathlib.Algebra.Ring.Int.Parity
import Mathlib.Data.Rat.Floor
import Mathlib.Tactic.Linarith

/-!
Rounding to the nearest whole number. A half goes to the even neighbour, below zero as well as above, so
rounding commutes with a change of sign, and the rounding of sizes is the rounding of numbers.
-/

namespace Toolpath.Decimal

/-- The whole number nearest to a fraction; of two equally near, the even one. -/
def nearestEven (v : ℚ) : ℤ :=
  if 2 * Int.fract v < 1 then ⌊v⌋
  else if 1 < 2 * Int.fract v then ⌊v⌋ + 1
  else if Even ⌊v⌋ then ⌊v⌋
  else ⌊v⌋ + 1

/-- A whole number no farther than a half from a fraction, and even at that distance. -/
structure IsNearest (v : ℚ) (n : ℤ) : Prop where
  near : 2 * |v - n| ≤ 1
  even : 2 * |v - n| = 1 → Even n

theorem isNearest_nearestEven (v : ℚ) : IsNearest v (nearestEven v) := by
  have below : |v - ⌊v⌋| = Int.fract v := abs_of_nonneg (Int.fract_nonneg v)
  have above : |v - (⌊v⌋ + 1 : ℤ)| = 1 - Int.fract v := by
    have apart : v - (⌊v⌋ + 1 : ℤ) = -(1 - Int.fract v) := by
      rw [Int.fract]
      push_cast
      ring
    rw [apart, abs_neg, abs_of_nonneg (by linarith [Int.fract_lt_one v])]
  unfold nearestEven
  split
  · rename_i less
    exact ⟨by rw [below]; linarith, fun half => by rw [below] at half; linarith⟩
  · split
    · rename_i more
      exact ⟨by rw [above]; linarith, fun half => by rw [above] at half; linarith⟩
    · split
      · rename_i even
        exact ⟨by rw [below]; linarith, fun _ => even⟩
      · rename_i odd
        exact ⟨by rw [above]; linarith, fun _ => (Int.not_even_iff_odd.mp odd).add_one⟩

theorem IsNearest.neg {v : ℚ} {n : ℤ} (nearest : IsNearest v n) : IsNearest (-v) (-n) := by
  have apart : |(-v) - (-n : ℤ)| = |v - n| := by
    rw [← abs_neg]
    congr 1
    push_cast
    ring
  constructor
  · rw [apart]
    exact nearest.near
  · rw [apart]
    exact fun half => (nearest.even half).neg

theorem IsNearest.unique {v : ℚ} {m n : ℤ} (first : IsNearest v m) (second : IsNearest v n) : m = n := by
  wlog less : m < n generalizing m n
  · rcases lt_trichotomy m n with below | same | above
    · exact this first second below
    · exact same
    · exact (this second first above).symm
  have gap : (m : ℚ) + 1 ≤ n := by exact_mod_cast less
  have fromM := (abs_le.mp (by linarith [first.near] : |v - m| ≤ 1 / 2)).2
  have fromN := (abs_le.mp (by linarith [second.near] : |v - n| ≤ 1 / 2)).1
  -- Two neighbours that are both a half away are both even.
  have next : (n : ℚ) = m + 1 := by linarith
  have halfM : v - m = 1 / 2 := by linarith
  have halfN : v - n = -(1 / 2) := by linarith
  have evenM := first.even (by rw [halfM]; norm_num)
  have evenN := second.even (by rw [halfN]; norm_num)
  have successor : n = m + 1 := by exact_mod_cast next
  rw [successor] at evenN
  exact absurd evenN (Int.not_even_iff_odd.mpr evenM.add_one)

theorem nearestEven_neg (v : ℚ) : nearestEven (-v) = -nearestEven v :=
  (isNearest_nearestEven (-v)).unique (isNearest_nearestEven v).neg

/-- A number rounded to so many places. -/
def rounded (places : Nat) (v : ℚ) : ℚ := nearestEven (v * 10 ^ places) / 10 ^ places

theorem rounded_neg (places : Nat) (v : ℚ) : rounded places (-v) = -rounded places v := by
  unfold rounded
  rw [neg_mul, nearestEven_neg, Int.cast_neg, neg_div]

/-- Quotients of whole numbers are rounded as fractions are. -/
theorem roundQuotient_eq (numerator : Nat) {denominator : Nat} (positive : 0 < denominator) :
    (roundQuotient numerator denominator : ℤ) = nearestEven (numerator / denominator) := by
  have floor : ⌊(numerator / denominator : ℚ)⌋ = (numerator / denominator : ℕ) := by
    rw [Rat.floor_natCast_div_natCast]
    rfl
  have fract : Int.fract (numerator / denominator : ℚ) = (numerator % denominator : ℕ) / denominator :=
    Int.fract_div_natCast_eq_div_natCast_mod
  have size : (0 : ℚ) < denominator := by exact_mod_cast positive
  have less : 2 * ((numerator % denominator : ℕ) / denominator : ℚ) < 1 ↔
      2 * (numerator % denominator) < denominator := by
    rw [← mul_div_assoc, div_lt_one size]
    exact_mod_cast Iff.rfl
  have more : 1 < 2 * ((numerator % denominator : ℕ) / denominator : ℚ) ↔
      denominator < 2 * (numerator % denominator) := by
    rw [← mul_div_assoc, one_lt_div size]
    exact_mod_cast Iff.rfl
  have even : Even ((numerator / denominator : ℕ) : ℤ) ↔ numerator / denominator % 2 = 0 := by
    rw [Int.even_coe_nat, Nat.even_iff]
  unfold roundQuotient nearestEven
  rw [floor, fract]
  simp only [less, more, even]
  split
  · rfl
  · split
    · rfl
    · split <;> rfl

end Toolpath.Decimal
