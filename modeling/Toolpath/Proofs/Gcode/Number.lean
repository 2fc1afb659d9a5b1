import Toolpath.Proofs.Decimal.Nearest
import Toolpath.Proofs.Decimal.Trimmed
import Toolpath.Proofs.Scalar.FloatValue
import Toolpath.Gcode.Word

/-!
The numbers in G-code. The text of a finite float is the canonical decimal of its exact value, rounded to
the places that are asked for; so two of them have the same text just if they round to the same number.
-/

namespace Toolpath

namespace Decimal

theorem cast_twoTo (exponent : Nat) : (twoTo exponent : ℚ) = 2 ^ exponent := Nat.cast_pow 2 exponent

namespace Binary

theorem value_eq_div (b : Binary) : b.value = b.numerator / b.denominator := by
  have power : (2 : ℚ) ^ b.exponent = 2 ^ b.exponent.toNat / 2 ^ (-b.exponent).toNat := by
    obtain ⟨n, positive | negative⟩ := b.exponent.eq_nat_or_neg
    · rw [positive]
      simp
    · rw [negative]
      simp
  unfold value numerator denominator
  rw [power, Nat.cast_mul, cast_twoTo, cast_twoTo, mul_div_assoc]

/-- The units of the last place are the rounding of a size. -/
theorem rounded_value (b : Binary) (places : Nat) :
    rounded places b.value = b.units places / 10 ^ places := by
  have whole : (b.units places : ℤ) = nearestEven (b.value * 10 ^ places) := by
    unfold units
    rw [roundQuotient_eq _ b.denominator_pos, value_eq_div, Nat.cast_mul, cast_tenTo, div_mul_eq_mul_div]
  unfold rounded
  rw [← whole, Int.cast_natCast]

end Binary

end Decimal

namespace Gcode

open Decimal (Content Numeral leastText fixedText trimmed rounded)
open FloatScalar (value)

/-- A number with all its places, a sign also on zero, and nothing cut off. -/
def allPlaces (places : Nat) (v : Float) : List Char :=
  match Content.ofFloat v with
  | .undefined => "NaN".toList
  | .infinite negative => if negative then "-inf".toList else "inf".toList
  | .finite negative b => fixedText negative places (b.units places)

theorem numberText_eq_trimmed (places : Nat) (v : Float) :
    (numberText places v).toList = trimmed (allPlaces places v) := by
  unfold numberText allPlaces
  cases Content.ofFloat v with
  | undefined => rfl
  | infinite negative => cases negative <;> rfl
  | finite negative b => exact String.toList_ofList.trans (Decimal.trimmed_fixedText _ _ _).symm

/-- The rounding of a finite float is so many units of the last place. -/
theorem exists_units (places : Nat) {v : Float} (finite : v.isFinite = true) :
    ∃ negative units, (numberText places v).toList = leastText negative places units ∧
      rounded places (value v) = if negative then -(units / 10 ^ places : ℚ) else units / 10 ^ places := by
  obtain ⟨negative, b, content, size⟩ := FloatScalar.exists_content finite
  refine ⟨negative, b.units places, ?least, ?rounding⟩
  case least =>
    unfold numberText
    rw [content]
    exact String.toList_ofList
  case rounding =>
    rw [size]
    cases negative with
    | false => exact b.rounded_value places
    | true => rw [if_pos rfl, if_pos rfl, Decimal.rounded_neg, b.rounded_value]

/-- The text of every finite float is the canonical decimal of its rounding, with as many places as are asked
for, zero among them. It is what is left of all places; read exactly it is the rounding, so texts are the
same just if the roundings are. -/
theorem numberText_canonical (places : Nat) {v : Float} (finite : v.isFinite = true) :
    (∃ numeral : Numeral, numeral.IsCanonical places ∧ (numberText places v).toList = numeral.text ∧
      Numeral.read? (numberText places v).toList = some numeral ∧
      numeral.value = rounded places (value v)) ∧
    numberText places v ≠ "" ∧ numberText places v ≠ "-0" ∧
    (numberText places v).toList = trimmed (allPlaces places v) ∧
    ∀ w : Float, w.isFinite = true →
      (numberText places v = numberText places w ↔ rounded places (value v) = rounded places (value w)) := by
  obtain ⟨negative, units, text, rounding⟩ := exists_units places finite
  have canonical := Decimal.leastNumeral_isCanonical negative places units
  have shown := text.trans (Decimal.leastText_eq_text negative places units)
  have read := canonical.read?_text
  rw [← shown] at read
  have rounds := rounding.trans (Decimal.leastNumeral_value negative places units).symm
  refine ⟨⟨_, canonical, shown, read, rounds.symm⟩, ?empty, ?signedZero, numberText_eq_trimmed places v, ?same⟩
  case empty =>
    intro empty
    rw [empty] at shown
    exact canonical.text_ne_nil shown.symm
  case signedZero =>
    intro signedZero
    rw [signedZero] at shown
    exact canonical.text_ne_signedZero shown.symm
  case same =>
    -- From text to number through the reader, and back through the units, whose text is one.
    intro w finite
    obtain ⟨other, count, text', rounding'⟩ := exists_units places finite
    constructor
    · intro texts
      have read' := (Decimal.leastNumeral_isCanonical other places count).read?_text
      have shown' := text'.trans (Decimal.leastText_eq_text other places count)
      rw [← shown', ← texts, read] at read'
      rw [rounds, Option.some.inj read', Decimal.leastNumeral_value, rounding']
    · intro roundings
      rw [rounding, rounding'] at roundings
      rw [← String.toList_inj, text, text', Decimal.leastText_congr roundings]

/-- A carry into the whole digits, a zero from below, a half on no places and one below zero. -/
theorem numberText_canonical_carry :
    numberText 6 9.9999999 = "10" ∧ numberText 6 (-0.0000001) = "0" ∧ numberText 0 2.5 = "2" ∧
      numberText 1 (-0.25) = "-0.2" ∧
      (∃ numeral : Numeral, numeral.IsCanonical 1 ∧ Numeral.read? "-0.2".toList = some numeral ∧
        numeral.value = rounded 1 (value (-0.25))) ∧
      rounded 6 (value 9.9999999) = rounded 6 (value 10.0) ∧
      rounded 6 (value (-0.0000001)) = rounded 6 (value (-0.0)) ∧
      rounded 0 (value 2.5) = rounded 0 (value 2.0) := by
  have carry : numberText 6 9.9999999 = "10" := by decide +kernel
  have zero : numberText 6 (-0.0000001) = "0" := by decide +kernel
  have half : numberText 0 2.5 = "2" := by decide +kernel
  have below : numberText 1 (-0.25) = "-0.2" := by decide +kernel
  obtain ⟨⟨numeral, canonical, -, read, rounds⟩, -⟩ :=
    numberText_canonical 1 (v := -0.25) (by decide +kernel)
  rw [below] at read
  refine ⟨carry, zero, half, below, ⟨numeral, canonical, read, rounds⟩, ?_, ?_, ?_⟩
  · obtain ⟨-, -, -, -, same⟩ := numberText_canonical 6 (v := 9.9999999) (by decide +kernel)
    exact (same 10.0 (by decide +kernel)).mp (by decide +kernel)
  · obtain ⟨-, -, -, -, same⟩ := numberText_canonical 6 (v := -0.0000001) (by decide +kernel)
    exact (same (-0.0) (by decide +kernel)).mp (by decide +kernel)
  · obtain ⟨-, -, -, -, same⟩ := numberText_canonical 0 (v := 2.5) (by decide +kernel)
    exact (same 2.0 (by decide +kernel)).mp (by decide +kernel)

end Gcode

end Toolpath
