import Toolpath.Scalar
import Toolpath.Decimal.Binary

/-!
The 64-bit floats as numbers of the library.

Two operations are not among the built-in ones. The remainder is exact, being computed on whole
numbers; the hypotenuse is scaled first, so that no square leaves the range, and corrected once, so
that legs of a right triangle with a short exact hypotenuse give just that.
-/

namespace Toolpath

open Decimal (Binary Content)

/-- What is left of one whole multiple of a power of two after taking another away as often as it
fits, on their common power of two. -/
def Decimal.Binary.remainder (a b : Binary) : Binary :=
  let exponent := min a.exponent b.exponent
  let align (c : Binary) : Nat := c.mantissa * Decimal.twoTo (c.exponent - exponent).toNat
  ⟨align a % align b, exponent⟩

namespace FloatScalar

/-- The exact remainder; undefined for an infinite dividend and for a divisor of zero. -/
def remainder (x y : Float) : Float :=
  match Content.ofFloat x, Content.ofFloat y with
  | .finite negative a, .finite _ b =>
    if b.mantissa = 0 then 0.0 / 0.0
    else
      let size := (a.remainder b).toFloat
      if negative then -size else size
  | .finite .., .infinite _ => x
  | _, _ => 0.0 / 0.0

/-- The power of two by which a length is brought near one. -/
def scaleOf (length : Float) : Int :=
  match Content.ofFloat length with
  | .finite _ b => -(b.exponent + b.mantissa.log2)
  | _ => 0

/-- By how much the square of a rough hypotenuse exceeds the sum of the squares of its legs, the
longer one first. It is computed from the difference to one leg, because the squares themselves
would cancel and leave only what rounding put there. -/
def excess (longer shorter rough : Float) : Float :=
  if rough ≤ 2.0 * shorter then
    let beyond := rough - shorter
    longer * (2.0 * beyond - longer) + (beyond - 2.0 * (longer - shorter)) * beyond
  else
    let beyond := rough - longer
    2.0 * beyond * (longer - 2.0 * shorter) + ((4.0 * beyond - shorter) * shorter + beyond * beyond)

/-- The hypotenuse over legs whose squares are in range, the longer one first: the rounded root of
the rounded sum, and one step of correction. -/
def corrected (longer shorter : Float) : Float :=
  let rough := (longer * longer + shorter * shorter).sqrt
  rough - excess longer shorter rough / (2.0 * rough)

/-- The ratio of two legs from which on the shorter one cannot be seen in the hypotenuse. -/
def negligible : Float := Float.scaleB 1.0 (-54)

/-- The hypotenuse. An infinite leg makes it infinite whatever the other leg is. -/
def hypot (x y : Float) : Float :=
  if x.abs.isInf || y.abs.isInf then 1.0 / 0.0
  else if x.isNaN || y.isNaN then 0.0 / 0.0
  else
    let longer := if x.abs < y.abs then y.abs else x.abs
    let shorter := if x.abs < y.abs then x.abs else y.abs
    let scale := scaleOf longer
    let a := longer.scaleB scale
    let b := shorter.scaleB scale
    if b ≤ a * negligible then longer + shorter else (corrected a b).scaleB (-scale)

instance : Scalar Float where
  decidableLT := inferInstance
  decidableLE := inferInstance
  isFinite := Float.isFinite
  ofCount := Float.ofNat
  toCount := Float.toUInt64
  sqrt := Float.sqrt
  sin := Float.sin
  cos := Float.cos
  atan2 := Float.atan2
  hypot := hypot
  remainder := remainder
  round := Float.round
  pi := 3.141592653589793

end FloatScalar

end Toolpath
