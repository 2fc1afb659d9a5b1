import Toolpath.Decimal.Fixed

/-!
Decimal numerals and the floats they stand for.

A numeral can be read in two ways. The exact reading takes the nearest float. The reading by
leading digits, which documents use, takes the digits that fit a 64-bit word and scales them by one
power of ten; for numerals of up to fifteen digits with small exponents the two agree.
-/

namespace Toolpath.Decimal

/-- A decimal numeral in its parts. -/
structure Numeral where
  negative : Bool
  /-- The digits before the point. -/
  whole : List Char
  /-- The digits behind the point. -/
  fraction : List Char
  /-- The power of ten behind an exponent mark, if there is one. -/
  exponent : Option Int
deriving DecidableEq, Repr

/-- The value of a digit. -/
def digitValue (c : Char) : Nat := c.toNat - '0'.toNat

/-- The whole number that a list of digits is, the leading one first. -/
def valueOfDigits (text : List Char) : Nat :=
  text.foldl (fun value c => 10 * value + digitValue c) 0

/-- Splits off the digits a text begins with. -/
def spanDigits (text : List Char) : List Char × List Char :=
  (text.takeWhile Char.isDigit, text.dropWhile Char.isDigit)

theorem spanDigits_length (text : List Char) : (spanDigits text).2.length ≤ text.length :=
  (List.dropWhile_sublist _).length_le

/-- A float with a sign put on it. -/
def signed (negative : Bool) (v : Float) : Float := if negative then -v else v

namespace Numeral

/-- The float nearest to a numeral. Beyond the range of floats it is infinite or zero, which is
settled from the position of the leading digit. -/
def nearest (n : Numeral) : Float :=
  let figures := valueOfDigits (n.whole ++ n.fraction)
  let exponent := n.exponent.getD 0 - n.fraction.length
  let lead := exponent + (digits figures).length
  signed n.negative <|
    if figures = 0 then 0.0
    else if 400 < lead then 1.0 / 0.0
    else if lead < -400 then 0.0
    else if 0 ≤ exponent then .ofScientific figures false exponent.toNat
    else .ofScientific figures true (-exponent).toNat

/-- Takes digits onto a number as long as it stays below `2 ^ 64`; what is left starts with the
first digit that does not fit. -/
def absorb (taken : Nat) : List Char → Nat × List Char
  | [] => (taken, [])
  | c :: rest =>
    let next := 10 * taken + digitValue c
    if next < twoTo 64 then absorb next rest else (taken, c :: rest)

/-- The power of ten nearest to `10 ^ exponent`. -/
def powerOfTen (exponent : Nat) : Float := .ofScientific 1 false exponent

/-- The largest power of ten that is a float. -/
def largestPower : Nat := 308

/-- A float scaled by a power of ten in one multiplication or division, in two divisions where the
power is below the range. None if the result is infinite. -/
def scaled? (v : Float) (exponent : Int) : Option Float :=
  let size := exponent.natAbs
  if v == 0.0 then some 0.0
  else if 0 ≤ exponent then
    if largestPower < size then none
    else
      let product := v * powerOfTen size
      if product.isInf then none else some product
  else if size ≤ largestPower then some (v / powerOfTen size)
  else if size ≤ 2 * largestPower then
    some (v / powerOfTen largestPower / powerOfTen (size - largestPower))
  else some 0.0

/-- The float that a numeral's leading digits stand for. None if it is infinite. -/
def byLeadingDigits? (n : Numeral) : Option Float :=
  let (whole, wholeLeft) := absorb 0 n.whole
  let (taken, fractionLeft) := absorb whole n.fraction
  let exponent :=
    n.exponent.getD 0 + wholeLeft.length - (n.fraction.length - fractionLeft.length : Nat)
  (scaled? (.ofNat taken) exponent).map (signed n.negative)

end Numeral

/-- Splits a sign off a text; without one it is positive. -/
def signOf : List Char → Bool × List Char
  | '-' :: rest => (true, rest)
  | '+' :: rest => (false, rest)
  | text => (false, text)

theorem signOf_length (text : List Char) : (signOf text).2.length ≤ text.length := by
  unfold signOf
  split <;> simp

/-- Reads an exponent mark with its sign and digits, if a text begins with one. None if a mark has
no digits. -/
def exponent? (text : List Char) : Option (Option Int × List Char) :=
  match text with
  | [] => some (none, [])
  | c :: rest =>
    if c = 'e' ∨ c = 'E' then
      let (negative, body) := signOf rest
      let (shown, after) := spanDigits body
      if shown.isEmpty then none
      else
        let size : Int := valueOfDigits shown
        some (some (if negative then -size else size), after)
    else some (none, c :: rest)

theorem exponent?_length {text rest : List Char} {power : Option Int}
    (read : exponent? text = some (power, rest)) : rest.length ≤ text.length := by
  unfold exponent? at read
  split at read
  · simp_all
  · rename_i c tail
    dsimp only at read
    split at read
    · split at read
      · simp at read
      · have body := signOf_length tail
        have after := spanDigits_length (signOf tail).2
        simp only [Option.some.injEq, Prod.mk.injEq] at read
        rw [← read.2, List.length_cons]
        omega
    · simp only [Option.some.injEq, Prod.mk.injEq] at read
      exact Nat.le_of_eq (congrArg List.length read.2.symm)

/-- Lower case of the letters a to z. -/
def lowered (text : List Char) : List Char := text.map Char.toLower

/-- Reads a whole text as a float: a numeral with an optional sign, point and exponent, at least
one digit before the exponent, or a word for infinity or the undefined number in any case. -/
def float? (text : String) : Option Float :=
  let (negative, body) := signOf text.toList
  let word := String.ofList (lowered body)
  if word = "inf" ∨ word = "infinity" then some (signed negative (1.0 / 0.0))
  else if word = "nan" then some (signed negative (0.0 / 0.0))
  else
    let (whole, afterWhole) := spanDigits body
    let (fraction, afterFraction) := match afterWhole with
      | '.' :: rest => spanDigits rest
      | rest => ([], rest)
    if whole.isEmpty && fraction.isEmpty then none
    else match exponent? afterFraction with
      | some (exponent, []) => some (Numeral.nearest ⟨negative, whole, fraction, exponent⟩)
      | _ => none

end Toolpath.Decimal
