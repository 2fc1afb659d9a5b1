import Toolpath.Decimal.Power

/-!
Floats as whole numbers: every finite float is a whole number times a power of two, with a sign.
All text of numbers is decided on these whole numbers.
-/

namespace Toolpath.Decimal

/-- A nonnegative number `mantissa * 2 ^ exponent`. -/
structure Binary where
  /-- The whole number that is scaled. -/
  mantissa : Nat
  /-- The power of two that scales it. -/
  exponent : Int
deriving DecidableEq, Repr

namespace Binary

/-- The numerator when the number is written as a quotient. -/
def numerator (b : Binary) : Nat := b.mantissa * twoTo b.exponent.toNat

/-- The denominator when the number is written as a quotient. -/
def denominator (b : Binary) : Nat := twoTo (-b.exponent).toNat

theorem denominator_pos (b : Binary) : 0 < b.denominator := twoTo_pos _

end Binary

/-- What a float stands for. Zero keeps its sign. -/
inductive Content where
  | undefined
  | infinite (negative : Bool)
  | finite (negative : Bool) (size : Binary)
deriving DecidableEq, Repr

/-- Whether a word has its sign bit set. -/
def signBit (bits : UInt64) : Bool := decide (twoTo 63 ≤ bits.toNat)

/-- The biased exponent of a word, eleven bits. -/
def biasedExponent (bits : UInt64) : Nat := bits.toNat / twoTo 52 % twoTo 11

/-- The stored part of the mantissa of a word, 52 bits. -/
def storedMantissa (bits : UInt64) : Nat := bits.toNat % twoTo 52

/-- The reading of a 64-bit word. The smallest biased exponent stands for the same power of two as
the next one, without the leading bit; the largest is kept for what is no number. -/
def Content.ofBits (bits : UInt64) : Content :=
  match biasedExponent bits with
  | 0 => .finite (signBit bits) ⟨storedMantissa bits, -1074⟩
  | 2047 => if storedMantissa bits = 0 then .infinite (signBit bits) else .undefined
  | e => .finite (signBit bits) ⟨twoTo 52 + storedMantissa bits, e - 1075⟩

/-- What a float stands for. -/
def Content.ofFloat (v : Float) : Content := .ofBits v.toBits

/-- The float nearest to `mantissa * 2 ^ exponent`. A negative power of two is a power of five over
one of ten. -/
def Binary.toFloat (b : Binary) : Float :=
  if 0 ≤ b.exponent then .ofNat (b.mantissa * twoTo b.exponent.toNat)
  else .ofScientific (b.mantissa * fiveTo (-b.exponent).toNat) true (-b.exponent).toNat

end Toolpath.Decimal
