import Toolpath.Proofs.Scalar.FloatValue
import Mathlib.Data.Rat.Floor
import Mathlib.Data.ENat.Basic

/-!
The count that a float stands for. It is the whole part of the exact value, up to the greatest count that is
a word; infinity is beyond every count.
-/

namespace Toolpath.FloatScalar

open Float.Model Float.Model.UnpackedFloat

/-- The whole part of an unpacked float from zero up. Infinity is beyond every count, and below zero there
is none. -/
def unpackedWhole : UnpackedFloat → ℕ∞
  | .infinity .positive => ⊤
  | v => ⌊unpackedValue v⌋₊

/-- The whole part of a float from zero up. -/
def whole (v : Float) : ℕ∞ := unpackedWhole v.toModel.unpack

theorem mantissa_repeat (em : ExtendedMantissa) (count : Nat) :
    (count.repeat ExtendedMantissa.shiftRightOne em).mantissa = em.mantissa / 2 ^ count := by
  induction count with
  | zero => exact (Nat.div_one _).symm
  | succ count ih =>
    show (count.repeat ExtendedMantissa.shiftRightOne em).mantissa / 2 = _
    rw [ih, Nat.div_div_eq_div_mul, Nat.pow_succ]

/-- A float is cut down to the whole part of its size. -/
theorem roundToInt_eq (s : Sign) (m : Nat) (e : Int) :
    roundToInt s m e = s.apply (⌊(m * 2 ^ e : ℚ)⌋₊ : Int) := by
  have cut : roundToInt s m e = s.apply ((m <<< (e - 0).toNat) / 2 ^ (0 - (e - (e - 0).toNat)).toNat : Nat) :=
    congrArg (fun size : Nat => s.apply (size : Int)) (mantissa_repeat ⟨_, _, _⟩ _)
  rw [cut, Nat.shiftLeft_eq]
  congr 2
  rcases le_total 0 e with up | down
  · obtain ⟨places, rfl⟩ := Int.eq_ofNat_of_zero_le up
    have size : (m * 2 ^ (places : ℤ) : ℚ) = (m * 2 ^ places : Nat) := by
      push_cast
      rw [zpow_natCast]
    rw [size, Nat.floor_natCast]
    simp
  · obtain ⟨places, rfl⟩ : ∃ places : Nat, e = -places := ⟨e.natAbs, by omega⟩
    have size : (m * 2 ^ (-(places : ℤ)) : ℚ) = m / (2 ^ places : Nat) := by
      rw [zpow_neg, zpow_natCast, Nat.cast_pow]
      rfl
    rw [size, Nat.floor_div_eq_div]
    simp

/-- Below zero there is nothing left to count. -/
theorem toNat_roundToInt (s : Sign) (m : Nat) (e : Int) :
    (roundToInt s m e).toNat = ⌊(s.apply m * 2 ^ e : ℚ)⌋₊ := by
  rw [roundToInt_eq]
  cases s with
  | positive => exact Int.toNat_natCast _
  | negative =>
    have size : (0 : ℚ) ≤ m * 2 ^ e := mul_nonneg (Nat.cast_nonneg m) (zpow_nonneg zero_le_two e)
    have below : ((-(m : Int) : Int) * 2 ^ e : ℚ) ≤ 0 := by
      push_cast
      linarith
    exact (Int.toNat_neg_natCast _).trans (Nat.floor_of_nonpos below).symm

theorem toNat_ofNatClamp (n : Nat) : (UInt64.ofNatClamp n).toNat = min n (2 ^ 64 - 1) := by
  unfold UInt64.ofNatClamp
  split
  · rename_i small
    rw [UInt64.toNat_ofNatLT]
    exact (Nat.min_eq_left (Nat.le_sub_one_of_lt small)).symm
  · rename_i large
    have large : 2 ^ 64 ≤ n := not_lt.mp large
    rw [UInt64.toNat_ofNatLT, Nat.min_eq_right (by omega)]
    rfl

/-- The count that a float stands for is its whole part, up to the greatest count there is. -/
theorem toNat_toUInt64 (v : Float) : (v.toUInt64.toNat : ℕ∞) = min (whole v) (2 ^ 64 - 1 : ℕ) := by
  have counted : v.toUInt64.toNat = min (v.toModel.unpack.toInt 0 (2 ^ 64 - 1)).toNat (2 ^ 64 - 1) :=
    toNat_ofNatClamp _
  rw [counted, whole]
  have none : (0 : ℕ∞) = min ((⌊(0 : ℚ)⌋₊ : ℕ) : ℕ∞) (2 ^ 64 - 1 : ℕ) := by
    rw [Nat.floor_zero]
    rfl
  cases v.toModel.unpack with
  | notANumber | zero => exact none
  | infinity s =>
    cases s with
    | positive => rfl
    | negative => exact none
  | finite s m e =>
    show ((min (roundToInt s m e).toNat (2 ^ 64 - 1) : ℕ) : ℕ∞) = _
    rw [toNat_roundToInt, Nat.mono_cast.map_min]
    rfl

end Toolpath.FloatScalar
