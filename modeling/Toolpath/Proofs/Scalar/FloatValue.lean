import Toolpath.Proofs.Scalar.FloatEquality
import Toolpath.Decimal.Binary

/-!
The exact value of a float. What the number formats read off its word is that value, sign and size.
-/

namespace Toolpath

open Float.Model Float.Model.UnpackedFloat

namespace Decimal

/-- The exact value. -/
def Binary.value (b : Binary) : ℚ := b.mantissa * 2 ^ b.exponent

end Decimal

namespace FloatScalar

/-- The exact value of an unpacked float, if it is finite. -/
def unpackedValue : UnpackedFloat → ℚ
  | .finite s m e _ => s.apply m * 2 ^ e
  | .zero _ | .infinity _ | .notANumber => 0

/-- The exact value of a finite float. -/
def value (v : Float) : ℚ := unpackedValue v.toModel.unpack

open Decimal (Content Binary)

section Word

variable (bits : UInt64)

theorem exponent_eq : (@unpackExponent .binary64 bits.toBitVec).toNat = Decimal.biasedExponent bits :=
  exponent_toNat bits.toBitVec

theorem mantissa_eq : (@unpackMantissa .binary64 bits.toBitVec).toNat = Decimal.storedMantissa bits :=
  mantissa_toNat bits.toBitVec

theorem sign_eq : Sign.ofBitVec (@unpackSign .binary64 bits.toBitVec) =
    if Decimal.signBit bits then .negative else .positive := by
  have sign : (@unpackSign .binary64 bits.toBitVec).toNat = bits.toNat / 2 ^ 63 := sign_toNat bits.toBitVec
  have bound : bits.toNat < 2 ^ 64 := bits.toBitVec.isLt
  have top : Decimal.signBit bits = decide (2 ^ 63 ≤ bits.toNat) := rfl
  rw [top, Sign.ofBitVec]
  split
  · rename_i positive
    rw [positive] at sign
    have below : ¬ 2 ^ 63 ≤ bits.toNat := by
      have none : 0 = bits.toNat / 2 ^ 63 := sign
      omega
    rw [if_neg (by simpa using below)]
  · rename_i negative
    have above : 2 ^ 63 ≤ bits.toNat := by
      by_contra below
      have none : bits.toNat / 2 ^ 63 = 0 := by omega
      exact negative (BitVec.eq_of_toNat_eq (sign.trans none))
    rw [if_pos (decide_eq_true above)]

end Word

theorem apply_mul_zpow (negative : Bool) (m : Nat) (e : Int) :
    ((if negative then Sign.negative else .positive).apply m * 2 ^ e : ℚ) =
      if negative then -(Binary.value ⟨m, e⟩) else Binary.value ⟨m, e⟩ := by
  unfold Binary.value
  cases negative <;> simp [Sign.apply]

/-- What is read off the word of a finite float is its value. -/
theorem exists_content {v : Float} (finite : v.isFinite = true) :
    ∃ negative b, Content.ofFloat v = .finite negative b ∧
      value v = if negative then -b.value else b.value := by
  obtain ⟨⟨bits, valid⟩⟩ := v
  have finite : (UnpackedFloat.unpack .binary64 bits.toBitVec).isFinite = true := finite
  show ∃ negative b, Content.ofBits bits = .finite negative b ∧
    unpackedValue (.unpack .binary64 bits.toBitVec) = if negative then -b.value else b.value
  have exponent := exponent_eq bits
  have mantissa := mantissa_eq bits
  have notTop : @unpackExponent .binary64 bits.toBitVec ≠ -1#_ := by
    intro top
    unfold UnpackedFloat.unpack at finite
    dsimp only at finite
    rw [if_pos top] at finite
    split at finite <;> cases finite
  -- The least exponent stands for the same power of two as the next one, and is read without a leading bit.
  refine ⟨Decimal.signBit bits, ?_⟩
  unfold UnpackedFloat.unpack
  dsimp only
  rw [sign_eq bits, if_neg notTop]
  by_cases least : @unpackExponent .binary64 bits.toBitVec = 0#_
  · rw [if_pos least]
    have biased : Decimal.biasedExponent bits = 0 := by
      rw [← exponent, least]
      rfl
    have content : Content.ofBits bits =
        .finite (Decimal.signBit bits) ⟨Decimal.storedMantissa bits, -1074⟩ := by
      unfold Content.ofBits
      rw [biased]
      rfl
    refine ⟨_, content, ?_⟩
    rw [← apply_mul_zpow, ← mantissa]
    split
    · rename_i empty
      rw [empty]
      cases Decimal.signBit bits <;> simp [unpackedValue, Sign.apply]
    · simp only [least]
      rfl
  · rw [if_neg least]
    have content : Content.ofBits bits = .finite (Decimal.signBit bits)
        ⟨Decimal.twoTo 52 + Decimal.storedMantissa bits, Decimal.biasedExponent bits - 1075⟩ := by
      unfold Content.ofBits
      split
      · rename_i zero
        rw [← exponent] at zero
        exact absurd (BitVec.eq_of_toNat_eq zero) least
      · rename_i top
        rw [← exponent] at top
        exact absurd (BitVec.eq_of_toNat_eq top) notTop
      · rfl
    refine ⟨_, content, ?_⟩
    have lead : Decimal.twoTo 52 + (@unpackMantissa .binary64 bits.toBitVec).toNat =
        (1#1 ++ @unpackMantissa .binary64 bits.toBitVec).toNat := (implicit_toNat _).symm
    rw [← apply_mul_zpow, ← mantissa, ← exponent, lead]
    rfl

end FloatScalar

end Toolpath
