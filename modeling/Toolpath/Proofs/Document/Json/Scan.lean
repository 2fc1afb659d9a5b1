import Toolpath.Proofs.Decimal.Digits
import Toolpath.Document.Json.Read
import Toolpath.Document.Json.Write

/-!
The scanner on single strings and numbers, whatever stands behind them.

A string ends with its quote, but a number ends only where something stands that it cannot go on with.
So a string is scanned in the same way in front of any text, and a number only in front of text that
ends it.
-/

namespace Toolpath.Json

open Decimal (Undigited spanDigits spanDigits_append exponent? digits)

theorem hexValue?_hexDigit {n : Nat} (small : n < 16) : hexValue? (hexDigit n) = some n := by
  decide +revert

/-- An escape by units is read back as the character it stands for. -/
theorem character?_units {c : Char} (control : c.toNat < 32) (rest : List Char) :
    character? ('0' :: '0' :: hexDigit (c.toNat / 16) :: hexDigit (c.toNat % 16) :: rest) =
      some (c, rest) := by
  have zero : hexValue? '0' = some 0 := rfl
  have high := hexValue?_hexDigit (show c.toNat / 16 < 16 by omega)
  have low := hexValue?_hexDigit (show c.toNat % 16 < 16 by omega)
  have sum : ((0 * 16 + 0) * 16 + c.toNat / 16) * 16 + c.toNat % 16 = c.toNat := by omega
  have single : opensPair c.toNat = false ∧ closesPair c.toNat = false := by
    simp only [opensPair, closesPair, decide_eq_false_iff_not]
    omega
  simp only [character?, unit?, zero, high, low, sum, single.1, single.2, Bool.false_eq_true, if_false,
    Char.ofNat_toNat]

theorem quoted?_escaped {done rest after : List Char} {c : Char}
    (read : escape? rest = some (c, after)) :
    quoted? done ('\\' :: rest) = quoted? (c :: done) after := by
  rw [quoted?]
  split
  · rename_i none
    rw [read] at none
    cases none
  · rename_i same
    rw [read] at same
    cases same
    rfl

theorem quoted?_escape (done : List Char) (c : Char) (rest : List Char) :
    quoted? done (escape c ++ rest) = quoted? (c :: done) rest := by
  unfold escape
  split
  case h_8 notQuote notBackslash _ _ _ _ _ =>
    by_cases control : c.toNat < 32
    · rw [if_pos control]
      exact quoted?_escaped (character?_units control rest)
    · rw [if_neg control, List.singleton_append, quoted?, if_neg control]
      · exact fun quote => notQuote quote
      · exact fun backslash => notBackslash backslash
  all_goals exact quoted?_escaped rfl

/-- A string is read back from its text between the quotes. -/
theorem quoted?_flatMap_escape (done text rest : List Char) :
    quoted? done (text.flatMap escape ++ '"' :: rest) =
      some (String.ofList (done.reverse ++ text), rest) := by
  induction text generalizing done with
  | nil => simp [quoted?]
  | cons c text ih =>
    rw [List.flatMap_cons, List.append_assoc, quoted?_escape, ih, List.reverse_cons, List.append_assoc,
      List.singleton_append]

/-- The text does not begin with a character that a number goes on with. -/
def Ended (rest : List Char) : Prop :=
  ∀ c ∈ rest.head?, c.isDigit = false ∧ c ≠ '.' ∧ c ≠ 'e' ∧ c ≠ 'E'

theorem ended_nil : Ended [] := by
  intro c member
  cases member

theorem Ended.undigited {rest : List Char} (ended : Ended rest) : Undigited rest :=
  fun c first => (ended c first).1

theorem fraction?_of_ne {c : Char} (other : c ≠ '.') (text : List Char) :
    fraction? (c :: text) = some ([], c :: text) := by
  unfold fraction?
  split
  · rename_i point
    exact absurd (List.cons.inj point).1 other
  · rfl

theorem fraction?_append {text rest shown after : List Char} (ended : Ended rest)
    (read : fraction? text = some (shown, after)) :
    fraction? (text ++ rest) = some (shown, after ++ rest) := by
  cases text with
  | nil =>
    cases read
    cases rest with
    | nil => rfl
    | cons c rest => exact fraction?_of_ne (ended c rfl).2.1 rest
  | cons c text =>
    by_cases point : c = '.'
    · subst point
      rw [List.cons_append]
      simp only [fraction?, spanDigits_append ended.undigited] at read ⊢
      split at read
      · cases read
      · rename_i filled
        cases read
        rw [if_neg filled]
    · rw [fraction?_of_ne point] at read
      cases read
      exact fraction?_of_ne point (text ++ rest)

theorem signOf_append {text rest : List Char} (filled : text ≠ []) :
    Decimal.signOf (text ++ rest) = ((Decimal.signOf text).1, (Decimal.signOf text).2 ++ rest) := by
  obtain ⟨c, text, rfl⟩ := List.exists_cons_of_ne_nil filled
  unfold Decimal.signOf
  split <;> simp_all

theorem exponent?_append {text rest after : List Char} {power : Option Int} (ended : Ended rest)
    (read : exponent? text = some (power, after)) :
    exponent? (text ++ rest) = some (power, after ++ rest) := by
  cases text with
  | nil =>
    cases read
    cases rest with
    | nil => rfl
    | cons c rest =>
      obtain ⟨-, -, lower, upper⟩ := ended c rfl
      simp [exponent?, lower, upper]
  | cons c text =>
    rw [List.cons_append]
    by_cases mark : c = 'e' ∨ c = 'E'
    · cases text with
      | nil => simp [exponent?, mark, Decimal.signOf, spanDigits] at read
      | cons d text =>
        simp only [exponent?, if_pos mark, ← List.cons_append, signOf_append (List.cons_ne_nil d text),
          spanDigits_append ended.undigited] at read ⊢
        split at read
        · cases read
        · rename_i filled
          cases read
          rw [if_neg filled]
    · simp only [exponent?, if_neg mark] at read ⊢
      cases read
      rfl

/-- A number is read in the same way in front of text that ends it. -/
theorem unsigned?_append {negative : Bool} {text rest after : List Char} {value : Value}
    (ended : Ended rest) (read : unsigned? negative text = some (value, after)) :
    unsigned? negative (text ++ rest) = some (value, after ++ rest) := by
  simp only [unsigned?, spanDigits_append ended.undigited] at read ⊢
  split at read
  · cases read
  · rename_i leads
    rw [if_neg leads]
    cases point : fraction? (spanDigits text).2 with
    | none =>
      rw [point] at read
      cases read
    | some shown =>
      obtain ⟨fraction, afterFraction⟩ := shown
      simp only [point, fraction?_append ended point] at read ⊢
      cases mark : exponent? afterFraction with
      | none =>
        rw [mark] at read
        cases read
      | some shown =>
        obtain ⟨exponent, afterExponent⟩ := shown
        simp only [mark, exponent?_append ended mark] at read ⊢
        obtain ⟨number, atNumber, same⟩ := Option.map_eq_some_iff.mp read
        cases same
        rw [atNumber, Option.map_some]

/-- The token of a number is read in the same way in front of text that ends it. -/
theorem token?_float_append {c : Char} {text rest after : List Char} {v : Float} (ended : Ended rest)
    (read : token? c text = some (.value (.float v), after)) :
    token? c (text ++ rest) = some (.value (.float v), after ++ rest) := by
  unfold token? at read ⊢
  split at read
  case h_11 | h_12 =>
    obtain ⟨⟨value, left⟩, atNumber, same⟩ := Option.map_eq_some_iff.mp read
    cases same
    first
      | rw [unsigned?_append ended atNumber, Option.map_some]
      | rw [← List.cons_append, unsigned?_append ended atNumber, Option.map_some]
  case h_7 | h_8 | h_9 | h_10 =>
    obtain ⟨_, _, same⟩ := Option.map_eq_some_iff.mp read
    cases same
  all_goals cases read

/-- A character that a whole number may begin with begins a number. -/
theorem token?_of_isDigit {c : Char} (digit : c.isDigit = true) (rest : List Char) :
    token? c rest = (unsigned? false (c :: rest)).map fun (number, after) => (.value number, after) := by
  unfold token?
  split
  case h_12 => rfl
  all_goals cases digit

/-- Digits are read back as the number they are the digits of, if that is in range. -/
theorem unsigned?_digits (negative : Bool) (n : Nat) {rest : List Char} (ended : Ended rest) :
    unsigned? negative (digits n ++ rest) =
      (number? ⟨negative, digits n, [], none⟩).map fun value => (value, rest) := by
  have point : fraction? rest = some ([], rest) :=
    fraction?_append ended (rfl : fraction? [] = some ([], []))
  have mark : exponent? rest = some (none, rest) :=
    exponent?_append ended (rfl : exponent? [] = some (none, []))
  simp only [unsigned?, spanDigits_append ended.undigited, Decimal.spanDigits_digits,
    Decimal.digits_leads, List.nil_append, point, mark, Bool.false_eq_true, if_false]

end Toolpath.Json
