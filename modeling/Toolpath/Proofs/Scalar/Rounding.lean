import Mathlib.Algebra.Order.Floor.Ring
import Mathlib.Algebra.Order.Field.Basic
import Mathlib.Tactic.Linarith

/-!
The nearest whole number, where a half goes away from zero. Rounding keeps the order and the whole
numbers, so a bound that is whole holds before it just if it holds behind it, but for a half.
-/

namespace Toolpath.Scalar

variable {K : Type} [Field K] [LinearOrder K] [IsStrictOrderedRing K] [FloorRing K]

/-- The nearest whole number; a half goes away from zero. -/
def nearest (v : K) : Int := if v < 0 then ⌈v - 1 / 2⌉ else ⌊v + 1 / 2⌋

omit [IsStrictOrderedRing K] in
theorem nearest_of_neg {v : K} (negative : v < 0) : nearest v = ⌈v - 1 / 2⌉ := if_pos negative

omit [IsStrictOrderedRing K] in
theorem nearest_of_nonneg {v : K} (sign : 0 ≤ v) : nearest v = ⌊v + 1 / 2⌋ := if_neg sign.not_gt

theorem nearest_intCast (n : Int) : nearest (n : K) = n := by
  unfold nearest
  split
  · rw [sub_eq_add_neg, Int.ceil_intCast_add]
    norm_num
  · rw [Int.floor_intCast_add]
    norm_num

theorem nearest_nonneg_iff {v : K} : 0 ≤ nearest v ↔ -(1 / 2) < v := by
  rcases lt_or_ge v 0 with negative | sign
  · have next : 0 ≤ ⌈v - 1 / 2⌉ ↔ -1 < ⌈v - 1 / 2⌉ := by omega
    rw [nearest_of_neg negative, next, Int.lt_ceil]
    push_cast
    constructor <;> intro bound <;> linarith
  · rw [nearest_of_nonneg sign]
    refine iff_of_true (Int.floor_nonneg.mpr ?_) ?_ <;> linarith

theorem nearest_le_iff {v : K} (n : Nat) : nearest v ≤ n ↔ v < n + 1 / 2 := by
  have whole : (0 : K) ≤ n := Nat.cast_nonneg n
  rcases lt_or_ge v 0 with negative | sign
  · rw [nearest_of_neg negative, Int.ceil_le]
    push_cast
    exact iff_of_true (by linarith) (by linarith)
  · rw [nearest_of_nonneg sign, Int.floor_le_iff]
    push_cast
    constructor <;> intro bound <;> linarith

theorem nearest_eq_zero_iff {v : K} : nearest v = 0 ↔ |v| < 1 / 2 := by
  have above := nearest_le_iff (v := v) 0
  rw [Nat.cast_zero, Nat.cast_zero, zero_add] at above
  rw [le_antisymm_iff, above, nearest_nonneg_iff, abs_lt, and_comm]

theorem nearest_mono {v w : K} (order : v ≤ w) : nearest v ≤ nearest w := by
  rcases lt_or_ge v 0 with negative | sign
  · rcases lt_or_ge w 0 with negative' | sign'
    · rw [nearest_of_neg negative, nearest_of_neg negative']
      exact Int.ceil_mono (by linarith)
    · have below : nearest v ≤ 0 := by
        have bound := (nearest_le_iff (v := v) 0).mpr
        rw [Nat.cast_zero, Nat.cast_zero] at bound
        exact bound (by linarith)
      exact below.trans (nearest_nonneg_iff.mpr (by linarith))
  · rw [nearest_of_nonneg sign, nearest_of_nonneg (sign.trans order)]
    exact Int.floor_mono (by linarith)

end Toolpath.Scalar
