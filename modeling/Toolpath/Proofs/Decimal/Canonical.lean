import Toolpath.Proofs.Decimal.Characters
import Toolpath.Proofs.Decimal.Digits
import Mathlib.Algebra.Order.Field.Rat
import Mathlib.Tactic.NormNum

/-!
Canonical numerals: those that leave out every zero that a number can do without, with no sign on zero.
The text of so many units is one of them, and read exactly it is so many units.
-/

namespace Toolpath.Decimal

theorem cast_tenTo (exponent : Nat) : (tenTo exponent : ℚ) = 10 ^ exponent := Nat.cast_pow 10 exponent

namespace Numeral

/-- A numeral without an exponent, as it is written. -/
def text (n : Numeral) : List Char :=
  if n.negative then '-' :: pointed n.whole n.fraction else pointed n.whole n.fraction

/-- The exact value of a numeral. -/
def value (n : Numeral) : ℚ :=
  let size : ℚ := valueOfDigits (n.whole ++ n.fraction) * 10 ^ (n.exponent.getD 0 - n.fraction.length)
  if n.negative then -size else size

/-- Reads a whole text as a numeral without an exponent: digits, and others behind a point if there is
one. -/
def read? (text : List Char) : Option Numeral :=
  let (negative, body) := signOf text
  let (whole, rest) := spanDigits body
  if whole.isEmpty then none
  else match rest with
    | [] => some ⟨negative, whole, [], none⟩
    | '.' :: behind =>
      let (fraction, rest) := spanDigits behind
      if fraction.isEmpty || !rest.isEmpty then none else some ⟨negative, whole, fraction, none⟩
    | _ => none

/-- Digits with no zero in front that could be left out, at most so many behind the point and the last of
them no zero, and a sign on no zero. -/
structure IsCanonical (places : Nat) (n : Numeral) : Prop where
  filled : n.whole ≠ []
  whole : ∀ c ∈ n.whole, c.isDigit = true
  lead : n.whole.head? = some '0' → n.whole = ['0']
  fraction : ∀ c ∈ n.fraction, c.isDigit = true
  length : n.fraction.length ≤ places
  last : n.fraction.getLast? ≠ some '0'
  exponent : n.exponent = none
  sign : n.negative = true → n.value ≠ 0

/-- Zeros behind the last place change nothing. -/
theorem value_append_zeros (n : Numeral) (count : Nat) :
    value { n with fraction := n.fraction ++ List.replicate count '0' } = n.value := by
  have ten : (10 : ℚ) ≠ 0 := by norm_num
  have size : (valueOfDigits (n.whole ++ (n.fraction ++ List.replicate count '0')) : ℚ) =
      valueOfDigits (n.whole ++ n.fraction) * 10 ^ (count : ℤ) := by
    rw [← List.append_assoc, valueOfDigits_append, valueOfDigits_replicate, List.length_replicate,
      Nat.add_zero, Nat.cast_mul, cast_tenTo, zpow_natCast]
  have power : n.exponent.getD 0 - ((n.fraction ++ List.replicate count '0').length : ℤ) =
      n.exponent.getD 0 - n.fraction.length - count := by
    rw [List.length_append, List.length_replicate, Nat.cast_add, sub_add_eq_sub_sub]
  unfold value
  dsimp only
  rw [size, power, mul_assoc, ← zpow_add₀ ten, add_sub_cancel]

variable {places : Nat} {n : Numeral}

theorem signOf_of_isDigit {text : List Char} (digit : ∀ c ∈ text.head?, c.isDigit = true) :
    signOf text = (false, text) := by
  unfold signOf
  split
  · cases digit _ rfl
  · cases digit _ rfl
  · rfl

theorem head?_pointed {whole fraction : List Char} (filled : whole ≠ []) :
    (pointed whole fraction).head? = whole.head? := by
  unfold pointed
  split
  · rfl
  · exact List.head?_append_of_ne_nil _ filled

theorem IsCanonical.signOf_text (canonical : n.IsCanonical places) :
    signOf n.text = (n.negative, pointed n.whole n.fraction) := by
  have digit : ∀ c ∈ (pointed n.whole n.fraction).head?, c.isDigit = true := by
    intro c first
    rw [head?_pointed canonical.filled] at first
    exact canonical.whole c (List.mem_of_head? first)
  unfold text
  split
  · rename_i negative
    rw [negative]
    rfl
  · rename_i positive
    rw [signOf_of_isDigit digit, eq_false_of_ne_true positive]

/-- A canonical numeral is read back from its text. -/
theorem IsCanonical.read?_text (canonical : n.IsCanonical places) : read? n.text = some n := by
  have filled : n.whole.isEmpty = false := List.isEmpty_eq_false_iff.mpr canonical.filled
  have undigited : Undigited ('.' :: n.fraction) := by
    intro c first
    obtain rfl := Option.some.inj first
    rfl
  have alone {digits : List Char} (all : ∀ c ∈ digits, c.isDigit = true) :
      spanDigits digits = (digits, []) := by
    have split : spanDigits (digits ++ []) = (digits, []) := spanDigits_of_isDigit all nofun
    rwa [List.append_nil] at split
  have same : (⟨n.negative, n.whole, n.fraction, none⟩ : Numeral) = n := by
    rw [← canonical.exponent]
  unfold read?
  rw [canonical.signOf_text, pointed]
  dsimp only
  split
  · rename_i empty
    rw [List.isEmpty_iff.mp empty] at same
    rw [alone canonical.whole]
    dsimp only
    rw [if_neg (ne_true_of_eq_false filled), same]
  · rename_i some
    rw [spanDigits_of_isDigit canonical.whole undigited]
    dsimp only
    rw [if_neg (ne_true_of_eq_false filled)]
    show (if (spanDigits n.fraction).1.isEmpty || !(spanDigits n.fraction).2.isEmpty then none
      else Option.some ⟨n.negative, n.whole, (spanDigits n.fraction).1, Option.none⟩) = Option.some n
    rw [alone canonical.fraction, same, eq_false_of_ne_true some]
    rfl

/-- No canonical numeral is a zero with a sign. -/
theorem IsCanonical.text_ne_signedZero (canonical : n.IsCanonical places) : n.text ≠ ['-', '0'] := by
  intro shown
  have zero : read? ['-', '0'] = some ⟨true, ['0'], [], none⟩ := rfl
  have read := canonical.read?_text
  rw [shown, zero] at read
  obtain rfl := Option.some.inj read
  have nothing : valueOfDigits ['0'] = 0 := rfl
  exact canonical.sign rfl (by simp [value, nothing])

theorem IsCanonical.text_ne_nil (canonical : n.IsCanonical places) : n.text ≠ [] := by
  intro none
  have read := canonical.read?_text
  rw [none] at read
  cases read

end Numeral

theorem length_fractionDigits (places units : Nat) : (fractionDigits places units).length = places := by
  unfold fractionDigits
  split
  · rename_i none
    rw [none]
    rfl
  · rename_i some
    exact length_digitsOfWidth (Nat.pos_of_ne_zero some) (Nat.mod_lt _ (tenTo_pos places))

theorem valueOfDigits_fractionDigits (places units : Nat) :
    valueOfDigits (fractionDigits places units) = units % tenTo places := by
  unfold fractionDigits
  split
  · rename_i none
    rw [none]
    exact (Nat.mod_one units).symm
  · exact valueOfDigits_digitsOfWidth _ _

theorem isDigit_of_mem_fractionDigits {places units : Nat} {c : Char}
    (member : c ∈ fractionDigits places units) : c.isDigit = true := by
  unfold fractionDigits at member
  split at member
  · cases member
  · exact isDigit_of_mem_digitsOfWidth member

/-- The digits on both sides of the point are those of the units. -/
theorem valueOfDigits_units (places units : Nat) :
    valueOfDigits (wholeDigits places units ++ fractionDigits places units) = units := by
  rw [valueOfDigits_append, length_fractionDigits, valueOfDigits_fractionDigits, wholeDigits,
    valueOfDigits_digits, Nat.mul_comm]
  exact Nat.div_add_mod units (tenTo places)

/-- The numeral for so many units with all places, and a sign also on zero. -/
def fixedNumeral (negative : Bool) (places units : Nat) : Numeral :=
  ⟨negative, wholeDigits places units, fractionDigits places units, none⟩

/-- The numeral for so many units that leaves out what can be left out. -/
def leastNumeral (negative : Bool) (places units : Nat) : Numeral :=
  ⟨negative && units != 0, wholeDigits places units, withoutTrailingZeros (fractionDigits places units), none⟩

theorem leastText_eq_text (negative : Bool) (places units : Nat) :
    leastText negative places units = (leastNumeral negative places units).text := rfl

theorem fixedNumeral_value (negative : Bool) (places units : Nat) :
    (fixedNumeral negative places units).value =
      if negative then -(units / 10 ^ places : ℚ) else units / 10 ^ places := by
  unfold fixedNumeral Numeral.value
  dsimp only [Option.getD_none]
  rw [valueOfDigits_units, length_fractionDigits, zero_sub, zpow_neg, zpow_natCast, div_eq_mul_inv]

theorem leastNumeral_value (negative : Bool) (places units : Nat) :
    (leastNumeral negative places units).value =
      if negative then -(units / 10 ^ places : ℚ) else units / 10 ^ places := by
  obtain ⟨count, zeros⟩ := exists_trailingZeros (fractionDigits places units)
  have cut := (leastNumeral negative places units).value_append_zeros count
  have whole : fixedNumeral (negative && units != 0) places units =
      { leastNumeral negative places units with
        fraction := (leastNumeral negative places units).fraction ++ List.replicate count '0' } := by
    unfold leastNumeral fixedNumeral
    rw [← zeros]
  rw [← cut, ← whole, fixedNumeral_value]
  cases negative with
  | false => rfl
  | true =>
    rcases Nat.eq_zero_or_pos units with rfl | positive
    · simp
    · simp [positive.ne']

theorem leastNumeral_isCanonical (negative : Bool) (places units : Nat) :
    (leastNumeral negative places units).IsCanonical places where
  filled := digits_ne_nil _
  whole _ member := isDigit_of_mem_digits member
  lead zero := by
    show digits (units / tenTo places) = ['0']
    rcases Nat.eq_zero_or_pos (units / tenTo places) with none | positive
    · rw [none]
      rfl
    · exact absurd zero (head?_digits_ne_zero positive)
  fraction _ member := isDigit_of_mem_fractionDigits (mem_of_mem_withoutTrailingZeros member)
  length := by
    obtain ⟨count, zeros⟩ := exists_trailingZeros (fractionDigits places units)
    have all := length_fractionDigits places units
    rw [zeros, List.length_append] at all
    exact Nat.le_of_add_right_le all.le
  last := getLast?_withoutTrailingZeros _
  exponent := rfl
  sign signed := by
    obtain ⟨negative, some⟩ := Bool.and_eq_true_iff.mp signed
    rw [leastNumeral_value, negative, if_pos rfl, neg_ne_zero]
    have units : (units : ℚ) ≠ 0 := Nat.cast_ne_zero.mpr (bne_iff_ne.mp some)
    exact div_ne_zero units (pow_ne_zero places (by norm_num))

theorem leastText_zero (negative : Bool) (places : Nat) : leastText negative places 0 = ['0'] := by
  have whole : wholeDigits places 0 = ['0'] := by
    rw [wholeDigits, Nat.zero_div]
    rfl
  have zeros : ∀ c ∈ fractionDigits places 0, c = '0' := by
    intro c member
    unfold fractionDigits at member
    split at member
    · cases member
    · rw [Nat.zero_mod] at member
      rcases List.mem_append.mp member with zero | digit
      · exact (List.mem_replicate.mp zero).2
      · exact List.mem_singleton.mp digit
  have fraction : withoutTrailingZeros (fractionDigits places 0) = [] := by
    rw [withoutTrailingZeros, List.dropWhile_eq_nil_iff.mpr]
    · rfl
    · exact fun c member => beq_iff_eq.mpr (zeros c (List.mem_reverse.mp member))
  rw [leastText, whole, fraction, bne_self_eq_false, Bool.and_false]
  rfl

/-- So many units have one least text, whatever sign is put on zero. -/
theorem leastText_congr {places : Nat} {negative other : Bool} {units count : Nat}
    (same : (if negative then -(units / 10 ^ places : ℚ) else units / 10 ^ places) =
      if other then -(count / 10 ^ places : ℚ) else count / 10 ^ places) :
    leastText negative places units = leastText other places count := by
  have scale : (0 : ℚ) < 10 ^ places := pow_pos (by norm_num) places
  have signed : (if negative then -(units : ℤ) else units) = if other then -(count : ℤ) else count := by
    have scaled : ((if negative then -(units : ℤ) else units : ℤ) : ℚ) / 10 ^ places =
        ((if other then -(count : ℤ) else count : ℤ) : ℚ) / 10 ^ places := by
      cases negative <;> cases other <;> simpa [neg_div] using same
    exact_mod_cast (div_left_inj' scale.ne').mp scaled
  by_cases agree : negative = other
  · obtain rfl := agree
    have equal : units = count := by
      cases negative <;> simpa using signed
    rw [equal]
  · have zeros : units = 0 ∧ count = 0 := by
      cases negative <;> cases other <;> simp at agree signed ⊢ <;> omega
    rw [zeros.1, zeros.2, leastText_zero, leastText_zero]

end Toolpath.Decimal
