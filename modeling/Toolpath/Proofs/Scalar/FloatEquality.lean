import Toolpath.Scalar.Float
import Toolpath.Proofs.Scalar.Alike
import Mathlib

/-!
Equality of floats, read off their words: floats that compare equal are the same word, the two zeros
apart. The one word for what is no number does not compare equal to itself.
-/

namespace Toolpath.FloatScalar

open Float.Model Float.Model.UnpackedFloat

/-- Unpacked floats that compare equal are the same, the two zeros apart. -/
theorem eq_or_zeros_of_compare {a b : UnpackedFloat} (equal : a.compare b = some .eq) :
    a = b ∨ (∃ s, a = .zero s) ∧ ∃ s, b = .zero s := by
  cases a with
  | notANumber => simp [UnpackedFloat.compare] at equal
  | infinity s =>
    cases b with
    | infinity t =>
      left
      cases s <;> cases t <;> simp_all [UnpackedFloat.compare, compare]
    | notANumber | zero | finite => cases s <;> simp [UnpackedFloat.compare] at equal
  | zero s =>
    cases b with
    | zero t => exact Or.inr ⟨⟨s, rfl⟩, t, rfl⟩
    | notANumber => simp [UnpackedFloat.compare] at equal
    | infinity t => cases t <;> simp [UnpackedFloat.compare] at equal
    | finite t => cases t <;> simp [UnpackedFloat.compare] at equal
  | finite s m e positive =>
    cases b with
    | notANumber => simp [UnpackedFloat.compare] at equal
    | infinity t => cases s <;> cases t <;> simp [UnpackedFloat.compare] at equal
    | zero t => cases s <;> simp [UnpackedFloat.compare] at equal
    | finite t m' e' positive' =>
      left
      cases s <;> cases t <;>
        simp_all [UnpackedFloat.compare, Ordering.then_eq_eq, Ordering.swap_eq_eq]

theorem mantissa_toNat (word : BitVec 64) :
    (@unpackMantissa .binary64 word).toNat = word.toNat % 2 ^ 52 := by
  simp [unpackMantissa]

theorem exponent_toNat (word : BitVec 64) :
    (@unpackExponent .binary64 word).toNat = word.toNat / 2 ^ 52 % 2 ^ 11 := by
  simp [unpackExponent, Nat.shiftRight_eq_div_pow]

theorem sign_toNat (word : BitVec 64) :
    (@unpackSign .binary64 word).toNat = word.toNat / 2 ^ 63 := by
  simp only [unpackSign, BitVec.toNat_cast, BitVec.extractLsb_toNat, Nat.shiftRight_eq_div_pow]
  have bound := word.isLt
  omega

theorem packComponents_toNat (s : Sign) (exponent : BitVec 11) (mantissa : BitVec 52) :
    (packComponents .binary64 s exponent mantissa).toNat =
      s.toBitVec.toNat * 2 ^ 63 + exponent.toNat * 2 ^ 52 + mantissa.toNat := by
  have lower := mantissa.isLt
  have upper := exponent.isLt
  unfold packComponents
  rw [BitVec.toNat_append, ← Nat.shiftLeft_add_eq_or_of_lt lower, BitVec.toNat_append,
    ← Nat.shiftLeft_add_eq_or_of_lt upper]
  simp only [Nat.shiftLeft_eq]
  omega

theorem sign_toBitVec_toNat (word : BitVec 64) :
    (Sign.ofBitVec (@unpackSign .binary64 word)).toBitVec.toNat = word.toNat / 2 ^ 63 := by
  rw [← sign_toNat]
  generalize @unpackSign .binary64 word = s
  revert s
  decide

/-- A word is what its three fields are packed to. -/
theorem packComponents_fields (word : BitVec 64) {exponent : BitVec 11} {mantissa : BitVec 52}
    (atExponent : exponent = @unpackExponent .binary64 word)
    (atMantissa : mantissa = @unpackMantissa .binary64 word) :
    packComponents .binary64 (Sign.ofBitVec (@unpackSign .binary64 word)) exponent mantissa =
      word := by
  apply BitVec.eq_of_toNat_eq
  rw [packComponents_toNat, sign_toBitVec_toNat, atExponent, atMantissa, exponent_toNat,
    mantissa_toNat]
  omega

theorem implicit_toNat (mantissa : BitVec 52) : (1#1 ++ mantissa).toNat = 2 ^ 52 + mantissa.toNat := by
  rw [BitVec.toNat_append, ← Nat.shiftLeft_add_eq_or_of_lt mantissa.isLt]
  simp [Nat.shiftLeft_eq]

/-- Packing what a word unpacks to gives the word back, since there is only one word for what is no
number. -/
theorem pack_unpack {word : BitVec 64} (valid : Format.binary64.Valid word) :
    UnpackedFloat.pack .binary64 (UnpackedFloat.unpack .binary64 word) = word := by
  have bias : Format.exponentBias .binary64 = 1023 := rfl
  have mantissaBound : (@unpackMantissa .binary64 word).toNat < 2 ^ 52 := BitVec.isLt _
  have exponentBound : (@unpackExponent .binary64 word).toNat < 2 ^ 11 := BitVec.isLt _
  unfold UnpackedFloat.unpack
  dsimp only
  split
  · rename_i special
    split
    · rename_i empty
      exact packComponents_fields word special.symm empty.symm
    · rename_i filled
      exact (valid.eq_packedNaN special filled).symm
  · rename_i finite
    split
    · rename_i least
      split
      · rename_i empty
        exact packComponents_fields word least.symm empty.symm
      · rename_i filled
        have subnormal : (@unpackMantissa .binary64 word).toNat.log2 < 52 :=
          (Nat.log2_lt (by simpa [← BitVec.toNat_inj] using filled)).mpr mantissaBound
        rw [UnpackedFloat.pack, if_neg, if_neg]
        · refine packComponents_fields word least.symm (BitVec.eq_of_toNat_eq ?_)
          exact (BitVec.toNat_ofNat _ _).trans (Nat.mod_eq_of_lt mantissaBound)
        · show ¬ _ + 1 = 53
          omega
        · rw [least, bias]
          decide
    · rename_i normal
      have lead : (2 ^ 52 + (@unpackMantissa .binary64 word).toNat).log2 = 52 :=
        (Nat.log2_eq_iff (by omega)).mpr ⟨by omega, by omega⟩
      have notSpecial : (@unpackExponent .binary64 word).toNat ≠ 2047 := fun top =>
        finite (BitVec.eq_of_toNat_eq top)
      rw [UnpackedFloat.pack, if_neg, if_pos]
      · refine packComponents_fields word (BitVec.eq_of_toNat_eq ?_) (BitVec.eq_of_toNat_eq ?_)
        · rw [BitVec.toNat_ofNat]
          show (((@unpackExponent .binary64 word).toNat : Int) - (1023 + 52) + 1023 + 52).toNat
            % 2 ^ 11 = _
          omega
        · rw [BitVec.toNat_ofNat, implicit_toNat]
          show (2 ^ 52 + _) % 2 ^ 52 = _
          omega
      · rw [implicit_toNat, lead]
        rfl
      · show ¬ 2 ^ 11 ≤
          (((@unpackExponent .binary64 word).toNat : Int) - (1023 + 52) + 1023 + 52).toNat + 1
        omega

theorem eq_of_unpack_eq {a b : Float} (same : a.toModel.unpack = b.toModel.unpack) : a = b := by
  obtain ⟨⟨u, validU⟩⟩ := a
  obtain ⟨⟨v, validV⟩⟩ := b
  have words : u.toBitVec = v.toBitVec := by
    rw [← pack_unpack validU, ← pack_unpack validV]
    exact congrArg (UnpackedFloat.pack .binary64) same
  cases UInt64.toBitVec_inj.mp words
  rfl

/-- A float that unpacks to a zero is one of the two. -/
theorem eq_zero_of_unpack {v : Float} {s : Sign} (zero : v.toModel.unpack = .zero s) :
    v = 0.0 ∨ v = -0.0 := by
  cases s with
  | positive => exact Or.inl (eq_of_unpack_eq (zero.trans rfl))
  | negative => exact Or.inr (eq_of_unpack_eq (zero.trans rfl))

/-- Floats that compare equal are the same, or each is one of the two zeros. -/
theorem eq_or_zeros_of_beq {a b : Float} (equal : (a == b) = true) :
    a = b ∨ (a = 0.0 ∨ a = -0.0) ∧ (b = 0.0 ∨ b = -0.0) := by
  have compared : (a.toModel.unpack.compare b.toModel.unpack == some .eq) = true := equal
  rw [beq_iff_eq] at compared
  rcases eq_or_zeros_of_compare compared with same | ⟨⟨_, zeroA⟩, _, zeroB⟩
  · exact Or.inl (eq_of_unpack_eq same)
  · exact Or.inr ⟨eq_zero_of_unpack zeroA, eq_zero_of_unpack zeroB⟩

theorem beq_zero_iff {v : Float} : (v == 0.0) = true ↔ v = 0.0 ∨ v = -0.0 := by
  constructor
  · intro equal
    rcases eq_or_zeros_of_beq equal with rfl | ⟨zero, _⟩
    · exact Or.inl rfl
    · exact zero
  · rintro (rfl | rfl) <;> decide

instance : Scalar.Discerning Float where
  alike_of_beq {a b} equal := by
    rcases eq_or_zeros_of_beq equal with same | ⟨zeroA, zeroB⟩
    · exact Or.inl same
    · exact Or.inr ⟨beq_zero_iff.mpr zeroA, beq_zero_iff.mpr zeroB⟩

end Toolpath.FloatScalar
