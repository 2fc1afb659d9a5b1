import Toolpath.Decimal.Binary

/-!
Numbers with a fixed number of decimal places.

A number is first rounded, exactly, to a whole number of units of the last place; the text is then
a matter of digits alone. A half goes to the even neighbour.
-/

namespace Toolpath.Decimal

/-- The whole number nearest to a quotient; of two equally near, the even one. -/
def roundQuotient (numerator denominator : Nat) : Nat :=
  let quotient := numerator / denominator
  let rest := numerator % denominator
  if 2 * rest < denominator then quotient
  else if denominator < 2 * rest then quotient + 1
  else if quotient % 2 = 0 then quotient
  else quotient + 1

/-- The number of units of `10 ^ -places` nearest to a number. -/
def Binary.units (b : Binary) (places : Nat) : Nat :=
  roundQuotient (b.numerator * tenTo places) b.denominator

/-- The decimal digits of a whole number, the leading one first. -/
def digits (n : Nat) : List Char := Nat.toDigits 10 n

/-- The last `width` digits of a whole number, with zeros in front where it has fewer. -/
def digitsOfWidth (width n : Nat) : List Char :=
  let shown := digits n
  List.replicate (width - shown.length) '0' ++ shown

/-- A list without the zeros it ends in. -/
def withoutTrailingZeros (text : List Char) : List Char :=
  (text.reverse.dropWhile (· == '0')).reverse

/-- The digits before the point of so many units. -/
def wholeDigits (places units : Nat) : List Char := digits (units / tenTo places)

/-- All digits behind the point of so many units. -/
def fractionDigits (places units : Nat) : List Char :=
  if places = 0 then [] else digitsOfWidth places (units % tenTo places)

/-- Digits on both sides of a point; without any behind it the point is left out. -/
def pointed (whole fraction : List Char) : List Char :=
  if fraction.isEmpty then whole else whole ++ '.' :: fraction

/-- The least text of so many units: no zero that could be left out behind the point, and no sign
on zero. -/
def leastText (negative : Bool) (places units : Nat) : List Char :=
  let size := pointed (wholeDigits places units) (withoutTrailingZeros (fractionDigits places units))
  if negative && units != 0 then '-' :: size else size

end Toolpath.Decimal
