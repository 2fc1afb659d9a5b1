import Toolpath.Proofs.Scalar.Exact
import Toolpath.Proofs.Scalar.Rounding
import Mathlib.Analysis.SpecialFunctions.Complex.Arg
import Mathlib.Analysis.SpecialFunctions.Sqrt

/-!
The real numbers as numbers of the library, with the functions that the floats stand for.
-/

namespace Toolpath.Scalar

/-- What is left of `a` after taking `b` away as often as it fits, counted towards zero. -/
noncomputable def leftover (a b : ℝ) : ℝ := a - (if a / b < 0 then ⌈a / b⌉ else ⌊a / b⌋ : Int) * b

/-- The angle of a place is the argument of the complex number there. -/
noncomputable def reals : Functions ℝ where
  sqrt := Real.sqrt
  sin := Real.sin
  cos := Real.cos
  atan2 y x := Complex.arg ⟨x, y⟩
  hypot a b := √(a * a + b * b)
  remainder := leftover
  round v := nearest v
  toCount v := UInt64.ofNat (min ⌊v⌋₊ (2 ^ 64 - 1))
  pi := Real.pi

theorem leftover_eq (a b : ℝ) : ∃ k : ℤ, leftover a b = a + k * b := by
  unfold leftover
  exact ⟨-(if a / b < 0 then ⌈a / b⌉ else ⌊a / b⌋ : Int), by push_cast; ring⟩

theorem leftover_nonneg {a b : ℝ} (size : 0 < b) (sign : 0 ≤ a) :
    0 ≤ leftover a b ∧ leftover a b < b := by
  have ratio : ¬ a / b < 0 := not_lt.mpr (div_nonneg sign size.le)
  have below := Int.floor_le (a / b)
  have above := Int.lt_floor_add_one (a / b)
  rw [le_div_iff₀ size] at below
  rw [div_lt_iff₀ size] at above
  rw [leftover, if_neg ratio]
  constructor <;> linarith

theorem leftover_neg {a b : ℝ} (size : 0 < b) (sign : a < 0) :
    -b < leftover a b ∧ leftover a b ≤ 0 := by
  have ratio : a / b < 0 := div_neg_of_neg_of_pos sign size
  have above := Int.le_ceil (a / b)
  have below := Int.ceil_lt_add_one (a / b)
  rw [div_le_iff₀ size] at above
  rw [← sub_lt_iff_lt_add, lt_div_iff₀ size] at below
  rw [leftover, if_pos ratio]
  constructor <;> linarith

theorem neg_lt_leftover {a b : ℝ} (size : 0 < b) : -b < leftover a b := by
  rcases lt_or_ge a 0 with negative | sign
  · exact (leftover_neg size negative).1
  · linarith [(leftover_nonneg size sign).1]

end Toolpath.Scalar
