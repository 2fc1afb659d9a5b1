import Toolpath.Document.Value
import Toolpath.Decimal.Numeral

/-!
The tokens of JSON text. The grammar is the strict one: no comment, no sign or zero in front of a
number, no bare control character in a string.
-/

namespace Toolpath.Json

open Decimal (Numeral spanDigits spanDigits_length exponent? exponent?_length valueOfDigits)

/-- A token. A string is apart from the other values, because it may also name a field. -/
inductive Token where
  | openArray
  | closeArray
  | openObject
  | closeObject
  | colon
  | comma
  | text (content : String)
  | value (content : Value)

/-- The characters that may stand between tokens. -/
def isBlank (c : Char) : Bool := c = ' ' || c = '\n' || c = '\t' || c = '\r'

/-- The value of a hexadecimal digit. -/
def hexValue? (c : Char) : Option Nat :=
  if '0' ≤ c ∧ c ≤ '9' then some (c.toNat - '0'.toNat)
  else if 'a' ≤ c ∧ c ≤ 'f' then some (c.toNat - 'a'.toNat + 10)
  else if 'A' ≤ c ∧ c ≤ 'F' then some (c.toNat - 'A'.toNat + 10)
  else none

/-- The unit that four hexadecimal digits write. -/
def unit? : List Char → Option (Nat × List Char)
  | a :: b :: c :: d :: rest =>
    match hexValue? a, hexValue? b, hexValue? c, hexValue? d with
    | some a, some b, some c, some d => some (((a * 16 + b) * 16 + c) * 16 + d, rest)
    | _, _, _, _ => none
  | _ => none

/-- A unit that opens a pair. -/
def opensPair (n : Nat) : Bool := decide (0xD800 ≤ n ∧ n < 0xDC00)

/-- A unit that closes a pair. -/
def closesPair (n : Nat) : Bool := decide (0xDC00 ≤ n ∧ n < 0xE000)

/-- The character that an escape by units writes, behind the mark `u`. A character beyond the first
65536 takes a pair of units; half a pair is no character. -/
def character? (text : List Char) : Option (Char × List Char) :=
  match unit? text with
  | none => none
  | some (first, rest) =>
    if opensPair first then
      match rest with
      | '\\' :: 'u' :: next =>
        match unit? next with
        | none => none
        | some (second, after) =>
          if closesPair second then
            some (Char.ofNat (0x10000 + (first - 0xD800) * 0x400 + (second - 0xDC00)), after)
          else none
      | _ => none
    else if closesPair first then none
    else some (Char.ofNat first, rest)

/-- The character that an escape writes, behind its backslash. -/
def escape? : List Char → Option (Char × List Char)
  | '"' :: rest => some ('"', rest)
  | '\\' :: rest => some ('\\', rest)
  | '/' :: rest => some ('/', rest)
  | 'b' :: rest => some ('\x08', rest)
  | 'f' :: rest => some ('\x0c', rest)
  | 'n' :: rest => some ('\n', rest)
  | 'r' :: rest => some ('\r', rest)
  | 't' :: rest => some ('\t', rest)
  | 'u' :: rest => character? rest
  | _ => none

theorem unit?_length {text rest : List Char} {n : Nat} (read : unit? text = some (n, rest)) :
    rest.length < text.length := by
  unfold unit? at read
  split at read
  · split at read
    · simp only [Option.some.injEq, Prod.mk.injEq] at read
      rw [← read.2]
      simp only [List.length_cons]
      omega
    · simp at read
  · simp at read

theorem character?_length {text rest : List Char} {c : Char}
    (read : character? text = some (c, rest)) : rest.length < text.length := by
  unfold character? at read
  split at read
  · simp at read
  · rename_i first tail firstRead
    have shorter := unit?_length firstRead
    split at read
    · split at read
      · rename_i next
        split at read
        · simp at read
        · rename_i second after secondRead
          have again := unit?_length secondRead
          split at read
          · simp only [Option.some.injEq, Prod.mk.injEq] at read
            rw [← read.2]
            simp only [List.length_cons] at shorter
            omega
          · simp at read
      · simp at read
    · split at read
      · simp at read
      · simp only [Option.some.injEq, Prod.mk.injEq] at read
        rw [← read.2]
        exact shorter

theorem escape?_length {text rest : List Char} {c : Char} (read : escape? text = some (c, rest)) :
    rest.length < text.length := by
  unfold escape? at read
  split at read
  case h_9 =>
    have shorter := character?_length read
    simp only [List.length_cons]
    omega
  case h_10 => simp at read
  all_goals
    simp only [Option.some.injEq, Prod.mk.injEq] at read
    rw [← read.2]
    exact Nat.lt_succ_self _

/-- Reads a string behind its opening quote, up to the closing one. -/
def quoted? (done text : List Char) : Option (String × List Char) :=
  match text with
  | [] => none
  | '"' :: rest => some (String.ofList done.reverse, rest)
  | '\\' :: rest =>
    match _read : escape? rest with
    | none => none
    | some (c, after) => quoted? (c :: done) after
  | c :: rest => if c.toNat < 32 then none else quoted? (c :: done) rest
termination_by text.length
decreasing_by
  · have := escape?_length _read
    simp only [List.length_cons]
    omega
  · simp

theorem quoted?_length {done text rest : List Char} {content : String}
    (read : quoted? done text = some (content, rest)) : rest.length < text.length := by
  fun_induction quoted? done text with
  | case1 => simp at read
  | case2 =>
    simp only [Option.some.injEq, Prod.mk.injEq] at read
    rw [← read.2]
    exact Nat.lt_succ_self _
  | case3 => simp at read
  | case4 done rest c after escaped ih =>
    have shorter := escape?_length escaped
    have := ih read
    simp only [List.length_cons]
    omega
  | case5 => simp at read
  | case6 done c rest _ _ _ ih =>
    have := ih read
    simp only [List.length_cons]
    omega

/-- The value of a numeral. One without point and exponent is a whole number if it fits 64 bits;
minus zero is not a whole number. -/
def number? (n : Numeral) : Option Value :=
  let size := valueOfDigits n.whole
  let isWhole := n.fraction.isEmpty && n.exponent.isNone
  if isWhole && !n.negative && decide (size < Decimal.twoTo 64) then some (.integer size)
  else if isWhole && n.negative && decide (0 < size ∧ size ≤ Decimal.twoTo 63) then some (.integer (-size))
  else n.byLeadingDigits?.map .float

/-- Reads the digits behind a point, if a text begins with one. None if a point has no digits. -/
def fraction? : List Char → Option (List Char × List Char)
  | '.' :: rest =>
    let (shown, after) := spanDigits rest
    if shown.isEmpty then none else some (shown, after)
  | text => some ([], text)

/-- Reads a number behind its sign: no digit may follow a leading zero. -/
def unsigned? (negative : Bool) (text : List Char) : Option (Value × List Char) :=
  let (whole, afterWhole) := spanDigits text
  if whole.isEmpty || (whole.head? == some '0' && whole.length != 1) then none
  else
    match fraction? afterWhole with
    | none => none
    | some (fraction, afterFraction) =>
      match exponent? afterFraction with
      | none => none
      | some (exponent, rest) =>
        (number? ⟨negative, whole, fraction, exponent⟩).map fun value => (value, rest)

/-- Reads the rest of a word. -/
def word? : List Char → List Char → Option (List Char)
  | [], text => some text
  | _ :: _, [] => none
  | c :: more, d :: rest => if c = d then word? more rest else none

/-- Reads one token, given its first character apart. -/
def token? (c : Char) (rest : List Char) : Option (Token × List Char) :=
  match c with
  | '[' => some (.openArray, rest)
  | ']' => some (.closeArray, rest)
  | '\x7b' => some (.openObject, rest)
  | '\x7d' => some (.closeObject, rest)
  | ':' => some (.colon, rest)
  | ',' => some (.comma, rest)
  | '"' => (quoted? [] rest).map fun (content, after) => (.text content, after)
  | 'n' => (word? ['u', 'l', 'l'] rest).map fun after => (.value .null, after)
  | 't' => (word? ['r', 'u', 'e'] rest).map fun after => (.value (.bool true), after)
  | 'f' => (word? ['a', 'l', 's', 'e'] rest).map fun after => (.value (.bool false), after)
  | '-' => (unsigned? true rest).map fun (number, after) => (.value number, after)
  | c => (unsigned? false (c :: rest)).map fun (number, after) => (.value number, after)

theorem fraction?_length {text rest shown : List Char} (read : fraction? text = some (shown, rest)) :
    rest.length ≤ text.length := by
  unfold fraction? at read
  split at read
  · rename_i tail
    have shorter := spanDigits_length tail
    dsimp only at read
    split at read
    · simp at read
    · simp only [Option.some.injEq, Prod.mk.injEq] at read
      rw [← read.2, List.length_cons]
      omega
  · simp only [Option.some.injEq, Prod.mk.injEq] at read
    exact Nat.le_of_eq (congrArg List.length read.2.symm)

theorem unsigned?_length {negative : Bool} {text rest : List Char} {value : Value}
    (read : unsigned? negative text = some (value, rest)) : rest.length < text.length := by
  unfold unsigned? at read
  dsimp only at read
  split at read
  · simp at read
  · rename_i someDigits
    have taken : (spanDigits text).2.length < text.length := by
      cases text with
      | nil => simp [spanDigits] at someDigits
      | cons c tail =>
        by_cases digit : c.isDigit
        · have shorter := spanDigits_length tail
          simp only [spanDigits, List.dropWhile_cons, digit, if_true, List.length_cons] at shorter ⊢
          omega
        · simp [spanDigits, digit] at someDigits
    split at read
    · simp at read
    · rename_i fractionRead
      have behindPoint := fraction?_length fractionRead
      split at read
      · simp at read
      · rename_i exponentRead
        have behindMark := exponent?_length exponentRead
        obtain ⟨_, _, same⟩ := Option.map_eq_some_iff.mp read
        simp only [Prod.mk.injEq] at same
        rw [← same.2]
        omega

theorem word?_length {expected text rest : List Char} (read : word? expected text = some rest) :
    rest.length ≤ text.length := by
  fun_induction word? expected text with
  | case1 => simp_all
  | case2 => simp at read
  | case3 _ _ _ ih =>
    have := ih read
    simp only [List.length_cons]
    omega
  | case4 => simp at read

theorem token?_length {c : Char} {rest after : List Char} {token : Token}
    (read : token? c rest = some (token, after)) : after.length ≤ rest.length := by
  unfold token? at read
  split at read
  case h_7 =>
    obtain ⟨⟨content, left⟩, quoted, same⟩ := Option.map_eq_some_iff.mp read
    have shorter := quoted?_length quoted
    simp only [Prod.mk.injEq] at same
    rw [← same.2]
    omega
  case h_8 | h_9 | h_10 =>
    obtain ⟨left, word, same⟩ := Option.map_eq_some_iff.mp read
    have shorter := word?_length word
    simp only [Prod.mk.injEq] at same
    rw [← same.2]
    omega
  case h_11 | h_12 =>
    obtain ⟨⟨number, left⟩, shown, same⟩ := Option.map_eq_some_iff.mp read
    have shorter := unsigned?_length shown
    simp only [Prod.mk.injEq, List.length_cons] at same shorter
    rw [← same.2]
    omega
  all_goals
    simp only [Option.some.injEq, Prod.mk.injEq] at read
    exact Nat.le_of_eq (congrArg List.length read.2.symm)

/-- The tokens of a text behind those already read, which are kept in reverse. -/
def tokensFrom (done : List Token) (text : List Char) : Option (List Token) :=
  match _start : text.dropWhile isBlank with
  | [] => some done.reverse
  | c :: rest =>
    match _read : token? c rest with
    | none => none
    | some (token, after) => tokensFrom (token :: done) after
termination_by text.length
decreasing_by
  have skipped := (List.dropWhile_sublist isBlank (l := text)).length_le
  have shorter := token?_length _read
  rw [_start, List.length_cons] at skipped
  omega

/-- The tokens of a text. -/
def tokens? (text : String) : Option (List Token) := tokensFrom [] text.toList

end Toolpath.Json
