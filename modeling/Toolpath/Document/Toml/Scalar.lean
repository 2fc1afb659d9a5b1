import Toolpath.Document.Value
import Toolpath.Decimal.Numeral
import Toolpath.Document.Json.Token

/-!
The single values of TOML text: strings in their four forms, and the words that write numbers and
truth values. Dates are not taken.
-/

namespace Toolpath.Toml

open Decimal (Numeral spanDigits signOf valueOfDigits digitValue)

/-- A blank within a line. -/
def isBlank (c : Char) : Bool := c = ' ' || c = '\t'

/-- A character that may stand in a string or comment: no control character but the tab, and not
the one behind the tilde. -/
def isPlain (c : Char) : Bool := c = '\t' || (decide (32 ≤ c.toNat) && c.toNat != 127)

/-- Splits off a line break. -/
def lineBreak? : List Char → Option (List Char)
  | '\n' :: rest => some rest
  | '\r' :: '\n' :: rest => some rest
  | _ => none

/-- Reads so many hexadecimal digits onto a number. -/
def hexDigits? (value : Nat) : Nat → List Char → Option (Nat × List Char)
  | 0, rest => some (value, rest)
  | _ + 1, [] => none
  | count + 1, c :: rest =>
    match Json.hexValue? c with
    | some digit => hexDigits? (16 * value + digit) count rest
    | none => none

/-- The character of a code, written with so many hexadecimal digits. -/
def character? (count : Nat) (text : List Char) : Option (Char × List Char) :=
  match hexDigits? 0 count text with
  | some (code, rest) => if code.isValidChar then some (Char.ofNat code, rest) else none
  | none => none

/-- The character that an escape writes, behind its backslash. -/
def escape? : List Char → Option (Char × List Char)
  | '"' :: rest => some ('"', rest)
  | '\\' :: rest => some ('\\', rest)
  | 'b' :: rest => some ('\x08', rest)
  | 'f' :: rest => some ('\x0c', rest)
  | 'n' :: rest => some ('\n', rest)
  | 'r' :: rest => some ('\r', rest)
  | 't' :: rest => some ('\t', rest)
  | 'u' :: rest => character? 4 rest
  | 'U' :: rest => character? 8 rest
  | _ => none

theorem hexDigits?_length {value count n : Nat} {text rest : List Char}
    (read : hexDigits? value count text = some (n, rest)) : rest.length ≤ text.length := by
  fun_induction hexDigits? value count text with
  | case1 => simp_all
  | case2 => simp at read
  | case3 _ _ _ _ _ _ ih =>
    have := ih read
    simp only [List.length_cons]
    omega
  | case4 => simp at read

theorem character?_length {count : Nat} {text rest : List Char} {c : Char}
    (read : character? count text = some (c, rest)) : rest.length ≤ text.length := by
  unfold character? at read
  split at read
  · rename_i digits
    have shorter := hexDigits?_length digits
    split at read
    · simp only [Option.some.injEq, Prod.mk.injEq] at read
      rw [← read.2]
      exact shorter
    · simp at read
  · simp at read

theorem escape?_length {text rest : List Char} {c : Char} (read : escape? text = some (c, rest)) :
    rest.length < text.length := by
  unfold escape? at read
  split at read
  case h_8 | h_9 =>
    have shorter := character?_length read
    simp only [List.length_cons]
    omega
  case h_10 => simp at read
  all_goals
    simp only [Option.some.injEq, Prod.mk.injEq] at read
    rw [← read.2]
    exact Nat.lt_succ_self _

/-- Reads a string on one line behind its opening quote, up to the closing one. -/
def quoted? (done text : List Char) : Option (String × List Char) :=
  match text with
  | [] => none
  | '"' :: rest => some (String.ofList done.reverse, rest)
  | '\\' :: rest =>
    match _read : escape? rest with
    | none => none
    | some (c, after) => quoted? (c :: done) after
  | c :: rest => if isPlain c then quoted? (c :: done) rest else none
termination_by text.length
decreasing_by
  · have := escape?_length _read
    simp only [List.length_cons]
    omega
  · simp

/-- Reads a string without escapes on one line behind its opening quote, up to the closing one. -/
def literal? (done : List Char) : List Char → Option (String × List Char)
  | [] => none
  | '\'' :: rest => some (String.ofList done.reverse, rest)
  | c :: rest => if isPlain c then literal? (c :: done) rest else none

/-- Skips blanks and line breaks. -/
def skipSpace : List Char → List Char
  | '\r' :: '\n' :: rest => skipSpace rest
  | c :: rest => if isBlank c || c = '\n' then skipSpace rest else c :: rest
  | [] => []

theorem skipSpace_length (text : List Char) : (skipSpace text).length ≤ text.length := by
  fun_induction skipSpace text <;> simp only [List.length_cons, List.length_nil] <;> omega

/-- What a backslash at the end of a line skips: the line break and the space around it. -/
def joined? (text : List Char) : Option (List Char) :=
  (lineBreak? (text.dropWhile isBlank)).map skipSpace

theorem lineBreak?_length {text rest : List Char} (read : lineBreak? text = some rest) :
    rest.length < text.length := by
  unfold lineBreak? at read
  split at read
  · simp_all
  · simp only [Option.some.injEq] at read
    rw [← read]
    simp only [List.length_cons]
    omega
  · simp at read

theorem joined?_length {text rest : List Char} (read : joined? text = some rest) :
    rest.length < text.length := by
  obtain ⟨behind, broken, same⟩ := Option.map_eq_some_iff.mp read
  have skipped := (List.dropWhile_sublist isBlank (l := text)).length_le
  have behindBreak := lineBreak?_length broken
  have behindSpace := skipSpace_length behind
  rw [← same]
  omega

/-- Reads a string over several lines behind its opening quotes, up to three closing ones. One or
two more quotes in front of these belong to the string. -/
def block? (quote : Char) (done text : List Char) : Option (String × List Char) :=
  match text with
  | [] => none
  | c :: rest =>
    if c = quote then
      let more := (rest.takeWhile (· == quote)).length
      let after := rest.dropWhile (· == quote)
      let content := List.replicate (more + 1) quote
      if more < 2 then block? quote (content ++ done) after
      else if more < 5 then some (String.ofList (content.drop 3 ++ done).reverse, after)
      else none
    else if c = '\\' ∧ quote = '"' then
      match _joined : joined? rest with
      | some after => block? quote done after
      | none =>
        match _read : escape? rest with
        | some (e, after) => block? quote (e :: done) after
        | none => none
    else
      match _broken : lineBreak? (c :: rest) with
      | some after => block? quote ('\n' :: done) after
      | none => if isPlain c then block? quote (c :: done) rest else none
termination_by text.length
decreasing_by
  · have := (List.dropWhile_sublist (· == quote) (l := rest)).length_le
    simp only [List.length_cons]
    omega
  · have := joined?_length _joined
    simp only [List.length_cons]
    omega
  · have := escape?_length _read
    simp only [List.length_cons]
    omega
  · exact lineBreak?_length _broken
  · simp

/-- A line break right behind the opening quotes is not part of a string over several lines. -/
def blockStart (text : List Char) : List Char := (lineBreak? text).getD text

/-- The digits of a number whose digits may be set apart by single underscores. None if there is no
digit, or an underscore without a digit on both sides. -/
def separated? (isDigit : Char → Bool) (afterDigit : Bool) : List Char → Option (List Char)
  | [] => if afterDigit then some [] else none
  | c :: rest =>
    if c = '_' then if afterDigit then separated? isDigit false rest else none
    else if isDigit c then (separated? isDigit true rest).map (c :: ·)
    else none

/-- A whole number that fits 64 bits with its sign. -/
def integer? (negative : Bool) (size : Nat) : Option Value :=
  if negative then if size ≤ Decimal.twoTo 63 then some (.integer (-size)) else none
  else if size < Decimal.twoTo 63 then some (.integer size) else none

/-- A whole number in another base, behind the mark of the base. -/
def based? (base : Nat) (text : List Char) : Option Value :=
  let below (c : Char) : Bool := (Json.hexValue? c).any (· < base)
  match separated? below false text with
  | some shown =>
    integer? false (shown.foldl (fun value c => base * value + (Json.hexValue? c).getD 0) 0)
  | none => none

/-- The digits before the point of a decimal: no zero in front of another digit. -/
def leadingDigits? (text : List Char) : Option (List Char) :=
  match separated? Char.isDigit false text with
  | some shown => if shown.head? == some '0' && shown.length != 1 then none else some shown
  | none => none

/-- A float, which may be too large only below zero. -/
def float? (n : Numeral) : Option Value :=
  let v := n.nearest
  if v.isInf && !n.negative then none else some (.float v)

/-- An exponent behind its mark. -/
def power? (text : List Char) : Option Int :=
  let (negative, body) := signOf text
  match separated? Char.isDigit false body with
  | some shown => some (if negative then -(valueOfDigits shown : Int) else valueOfDigits shown)
  | none => none

/-- Whether a character ends the digits before an exponent. -/
def isMark (c : Char) : Bool := c = 'e' || c = 'E'

/-- A decimal number behind its sign: a float if it has a point or an exponent. -/
def decimal? (negative : Bool) (text : List Char) : Option Value :=
  let figures := text.takeWhile fun c => !isMark c
  let exponent := match text.dropWhile fun c => !isMark c with
    | [] => some none
    | _ :: behind => (power? behind).map some
  let whole := figures.takeWhile (· != '.')
  let fraction := match figures.dropWhile (· != '.') with
    | [] => some []
    | _ :: behind => separated? Char.isDigit false behind
  match leadingDigits? whole, fraction, exponent with
  | some whole, some fraction, some exponent =>
    if fraction.isEmpty && exponent.isNone then integer? negative (valueOfDigits whole)
    else float? ⟨negative, whole, fraction, exponent⟩
  | _, _, _ => none

/-- A character that a number or truth value may be written with. -/
def isWordPart (c : Char) : Bool := c.isAlphanum || c = '_' || c = '+' || c = '-' || c = '.'

/-- The value that a word writes. -/
def word? (text : List Char) : Option Value :=
  match text with
  | ['t', 'r', 'u', 'e'] => some (.bool true)
  | ['f', 'a', 'l', 's', 'e'] => some (.bool false)
  | '0' :: 'x' :: rest => based? 16 rest
  | '0' :: 'o' :: rest => based? 8 rest
  | '0' :: 'b' :: rest => based? 2 rest
  | text =>
    match signOf text with
    | (negative, ['i', 'n', 'f']) => some (.float (Decimal.signed negative (1.0 / 0.0)))
    | (_, ['n', 'a', 'n']) => some (.float (0.0 / 0.0))
    | (negative, body) => decimal? negative body

end Toolpath.Toml
