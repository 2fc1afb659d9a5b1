/-!
The numbers that coordinates, speeds and amounts of material are made of.

Everything that computes with them is written once, over any type with the operations below. The
running program takes the 64-bit floats; a statement "in exact arithmetic" takes a field, with
square root, sine, cosine and pi as arbitrary as the statement allows.
-/

namespace Toolpath

/-- The operations the library needs of a number. No law is assumed: a law that a statement needs
is a hypothesis there, because floats have few of them. -/
class Scalar (α : Type) extends Add α, Sub α, Mul α, Div α, Neg α, BEq α, LT α, LE α,
    OfScientific α where
  /-- Order is decided, so that it can be branched on. -/
  decidableLT : DecidableLT α
  /-- Order is decided, so that it can be branched on. -/
  decidableLE : DecidableLE α
  /-- Neither infinite nor undefined. -/
  isFinite : α → Bool
  /-- The number that counts `n` things. -/
  ofCount : Nat → α
  /-- The count below `2 ^ 64` that a whole number stands for; a number out of that range goes to
  the nearer end, and an undefined one to zero. -/
  toCount : α → UInt64
  /-- The square root. -/
  sqrt : α → α
  /-- The sine of an angle in radians. -/
  sin : α → α
  /-- The cosine of an angle in radians. -/
  cos : α → α
  /-- The angle of the point with ordinate `y` and abscissa `x`, in that order. -/
  atan2 : α → α → α
  /-- The length of the hypotenuse over two legs. -/
  hypot : α → α → α
  /-- What is left of the first number after taking the second away as often as it fits; it has
  the sign of the first. -/
  remainder : α → α → α
  /-- The nearest whole number; a half goes away from zero. -/
  round : α → α
  /-- Half of a full turn. -/
  pi : α

namespace Scalar

variable {α : Type} [Scalar α]

instance : DecidableLT α := decidableLT

instance : DecidableLE α := decidableLE

/-- A full turn. -/
def turn : α := 2.0 * pi

/-- A quarter turn. -/
def quarterTurn : α := pi / 2.0

/-- Multiplied by itself. -/
def square (v : α) : α := v * v

/-- Without its sign. -/
def magnitude (v : α) : α := if v < 0.0 then -v else v

/-- Finite and above zero: fit to be a speed, a bead dimension or a diameter. -/
def isUsable (v : α) : Bool := isFinite v && decide (0.0 < v)

/-- Differs from itself, as only an undefined number does. -/
def isUndefined (v : α) : Bool := !(v == v)

/-- The smaller of two numbers, the second of equals. An undefined one is passed over. -/
def least (a b : α) : α := if isUndefined b || decide (a < b) then a else b

/-- The larger of two numbers, the second of equals. An undefined one is passed over. -/
def greatest (a b : α) : α := if isUndefined b || decide (b < a) then a else b

/-- Moved to the nearer end of an interval, if outside. -/
def clamp (low high v : α) : α := if v < low then low else if high < v then high else v

end Scalar

end Toolpath
