import Toolpath.Decimal.Fixed

/-!
The fewest digits that read back as the same float.

A float stands for all numbers nearer to it than to its neighbours. For one digit, two, and so on,
the two numbers next to it on the grid of that many digits are tried; the first grid with one of
them in the interval wins. All of it is exact arithmetic on whole numbers.
-/

namespace Toolpath.Decimal

/-- Which of two equally near numbers is taken. -/
inductive Tie where
  | toEven
  | up
deriving DecidableEq, Repr

/-- A nonnegative number `figures * 10 ^ exponent`. -/
structure Scientific where
  /-- The digits, as a whole number. -/
  figures : Nat
  /-- The power of ten that scales them. -/
  exponent : Int
deriving DecidableEq, Repr

/-- A float and the ends of the interval of numbers that round to it, all in quarters of the last
place. Below a power of two the neighbour is half as far away. -/
structure Reach where
  low : Nat
  middle : Nat
  high : Nat
  /-- Whether the ends belong to it: they round to the even mantissa. -/
  closed : Bool
  /-- The power of two of the unit. -/
  exponent : Int
deriving DecidableEq, Repr

/-- The interval of numbers that round to a positive float. -/
def Reach.ofBinary (b : Binary) : Reach where
  low := if b.mantissa = twoTo 52 ∧ -1074 < b.exponent then 4 * b.mantissa - 1 else 4 * b.mantissa - 2
  middle := 4 * b.mantissa
  high := 4 * b.mantissa + 2
  closed := b.mantissa % 2 == 0
  exponent := b.exponent - 2

/-- The interval in units of `1 / scale`, and the grid of multiples of `step` such units laid over
it: the grid of the multiples of a power of ten. -/
structure Grid where
  reach : Reach
  scale : Nat
  step : Nat

namespace Grid

/-- The grid of the multiples of `10 ^ exponent`. -/
def ofPower (reach : Reach) (exponent : Int) : Grid where
  reach := reach
  scale := twoTo reach.exponent.toNat * tenTo (-exponent).toNat
  step := twoTo (-reach.exponent).toNat * tenTo exponent.toNat

/-- Whether a multiple of the step lies in the interval. -/
def holds (g : Grid) (multiple : Nat) : Bool :=
  let low := g.reach.low * g.scale
  let high := g.reach.high * g.scale
  let at_ := multiple * g.step
  if g.reach.closed then decide (low ≤ at_ ∧ at_ ≤ high) else decide (low < at_ ∧ at_ < high)

/-- Of the two multiples around the float the one in the interval; of two, the nearer. -/
def nearest? (g : Grid) (tie : Tie) : Option Nat :=
  let middle := g.reach.middle * g.scale
  let below := middle / g.step
  let above := below + 1
  let toBelow := middle - below * g.step
  let toAbove := above * g.step - middle
  match g.holds below, g.holds above with
  | false, false => none
  | true, false => some below
  | false, true => some above
  | true, true =>
    if toBelow < toAbove then some below
    else if toAbove < toBelow then some above
    else match tie with
      | .up => some above
      | .toEven => some (if below % 2 = 0 then below else above)

end Grid

/-- The power of ten of the leading digit of a positive number. -/
def leadingPower (b : Binary) : Int :=
  if b.denominator ≤ b.numerator then (digits (b.numerator / b.denominator)).length - 1
  else -((digits ((b.denominator - 1) / b.numerator)).length : Int)

/-- The same number without factors of ten in its figures. -/
def Scientific.reduce (s : Scientific) : Scientific :=
  if h : 0 < s.figures ∧ s.figures % 10 = 0 then
    Scientific.reduce ⟨s.figures / 10, s.exponent + 1⟩
  else s
termination_by s.figures
decreasing_by exact Nat.div_lt_self h.1 (by decide)

/-- The most digits that a float can need. -/
def mostDigits : Nat := 17

/-- The fewest digits that read back as the same positive float, the nearest to it of those. -/
def shortest (tie : Tie) (b : Binary) : Scientific :=
  let reach := Reach.ofBinary b
  let lead := leadingPower b
  let attempt (used : Nat) : Option Scientific :=
    let exponent := lead - used
    ((Grid.ofPower reach exponent).nearest? tie).map fun figures => ⟨figures, exponent⟩
  (((List.range mostDigits).findSome? attempt).getD ⟨0, 0⟩).reduce

end Toolpath.Decimal
