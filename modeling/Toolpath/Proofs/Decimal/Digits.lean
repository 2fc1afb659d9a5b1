import Mathlib.Data.List.Basic
import Mathlib.Data.List.TakeWhile
import Toolpath.Decimal.Numeral

/-!
Runs of digits: what they are the digits of, which of them a number begins and ends with, and how they are
split off a text.
-/

namespace Toolpath.Decimal

/-- The text does not begin with a digit. -/
def Undigited (rest : List Char) : Prop := ∀ c ∈ rest.head?, c.isDigit = false

theorem spanDigits_append {text rest : List Char} (ended : Undigited rest) :
    spanDigits (text ++ rest) = ((spanDigits text).1, (spanDigits text).2 ++ rest) := by
  induction text with
  | nil =>
    cases rest with
    | nil => rfl
    | cons c more =>
      have other : c.isDigit = false := ended c rfl
      simp [spanDigits, other]
  | cons c text ih =>
    by_cases digit : c.isDigit
    · simp only [spanDigits, Prod.mk.injEq] at ih ⊢
      simp [digit, ih.1, ih.2]
    · simp [spanDigits, digit]

theorem spanDigits_digits (n : Nat) : spanDigits (digits n) = (digits n, []) := by
  have all : ∀ c ∈ digits n, c.isDigit = true := fun c member =>
    Nat.isDigit_of_mem_toDigits (by decide) (by decide) member
  unfold spanDigits
  rw [List.takeWhile_eq_self_iff.mpr all, List.dropWhile_eq_nil_iff.mpr all]

theorem valueOfDigits_digits (n : Nat) : valueOfDigits (digits n) = n := Nat.ofDigitChars_ten_toDigits

theorem digits_ne_nil (n : Nat) : digits n ≠ [] := Nat.toDigits_ne_nil

/-- No positive whole number begins with a zero. -/
theorem head?_digits_ne_zero {n : Nat} (positive : 0 < n) : (digits n).head? ≠ some '0' := by
  induction n using Nat.strongRecOn with
  | _ n ih =>
    unfold digits
    by_cases short : n < 10
    · rw [Nat.toDigits_of_lt_base short]
      intro zero
      have := Nat.digitChar_eq_zero.mp (Option.some.inj zero)
      omega
    · rw [Nat.toDigits_of_base_le (by decide) (Nat.le_of_not_lt short),
        List.head?_append_of_ne_nil _ Nat.toDigits_ne_nil]
      exact ih (n / 10) (by omega) (by omega)

/-- Digits are refused as the whole part of a number if a zero stands in front of others. -/
theorem digits_leads (n : Nat) :
    ((digits n).isEmpty || ((digits n).head? == some '0' && (digits n).length != 1)) = false := by
  rcases Nat.eq_zero_or_pos n with rfl | positive
  · rfl
  · have filled := digits_ne_nil n
    have lead := head?_digits_ne_zero positive
    simp [filled, lead]

theorem isDigit_of_mem_digits {n : Nat} {c : Char} (member : c ∈ digits n) : c.isDigit = true :=
  Nat.isDigit_of_mem_toDigits (by decide) (by decide) member

theorem valueOfDigits_append (front back : List Char) :
    valueOfDigits (front ++ back) = valueOfDigits front * tenTo back.length + valueOfDigits back := by
  show Nat.ofDigitChars 10 (front ++ back) 0 = _
  rw [Nat.ofDigitChars_append, Nat.ofDigitChars_eq_ofDigitChars_zero, Nat.mul_comm]
  rfl

theorem valueOfDigits_replicate (count : Nat) : valueOfDigits (List.replicate count '0') = 0 := by
  show Nat.ofDigitChars 10 _ 0 = 0
  rw [Nat.ofDigitChars_replicate_zero, Nat.mul_zero]

theorem spanDigits_of_isDigit {text rest : List Char} (all : ∀ c ∈ text, c.isDigit = true)
    (ended : Undigited rest) : spanDigits (text ++ rest) = (text, rest) := by
  rw [spanDigits_append ended, spanDigits, List.takeWhile_eq_self_iff.mpr all,
    List.dropWhile_eq_nil_iff.mpr all, List.nil_append]

theorem isDigit_of_mem_digitsOfWidth {width n : Nat} {c : Char} (member : c ∈ digitsOfWidth width n) :
    c.isDigit = true := by
  rcases List.mem_append.mp member with zero | digit
  · rw [(List.mem_replicate.mp zero).2]
    rfl
  · exact isDigit_of_mem_digits digit

theorem valueOfDigits_digitsOfWidth (width n : Nat) : valueOfDigits (digitsOfWidth width n) = n := by
  unfold digitsOfWidth
  rw [valueOfDigits_append, valueOfDigits_replicate, valueOfDigits_digits, Nat.zero_mul, Nat.zero_add]

theorem length_digitsOfWidth {width n : Nat} (positive : 0 < width) (small : n < tenTo width) :
    (digitsOfWidth width n).length = width := by
  have fits : (digits n).length ≤ width := (Nat.length_toDigits_le_iff (by decide) positive).mpr small
  unfold digitsOfWidth
  rw [List.length_append, List.length_replicate]
  omega

theorem exists_trailingZeros (text : List Char) :
    ∃ count, text = withoutTrailingZeros text ++ List.replicate count '0' := by
  have zeros : ∀ c ∈ text.reverse.takeWhile (· == '0'), c = '0' := by
    intro c member
    have zero := List.mem_takeWhile_imp member
    exact eq_of_beq zero
  refine ⟨(text.reverse.takeWhile (· == '0')).length, ?_⟩
  rw [withoutTrailingZeros, ← List.reverse_replicate, ← List.eq_replicate_iff.mpr ⟨rfl, zeros⟩,
    ← List.reverse_append, List.takeWhile_append_dropWhile, List.reverse_reverse]

theorem getLast?_withoutTrailingZeros (text : List Char) :
    (withoutTrailingZeros text).getLast? ≠ some '0' := by
  intro last
  have kept := List.head?_dropWhile_not (· == '0') text.reverse
  rw [withoutTrailingZeros, List.getLast?_reverse] at last
  rw [last] at kept
  cases kept

end Toolpath.Decimal
