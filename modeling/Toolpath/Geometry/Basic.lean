import Toolpath.Point

/-!
Geometry of points: distances, means, and polar coordinates in XY.

Angles are in radians. Where only one axis of two points is known, the rules differ on purpose: a
mean needs both, an interpolation takes the one there is, a distance takes zero.
-/

namespace Toolpath

/-- Why a generator refuses its parameters. -/
inductive GeometryError (α : Type) where
  /-- A count below the least one accepted. -/
  | tooFew (name : String) (least : UInt64) (count : UInt64)
  /-- A parameter that is infinite or undefined. -/
  | notFinite (name : String) (value : α)
  /-- A point without an axis that is needed. -/
  | missingAxis (axis : Char)
  /-- Three points on one line, which no circle goes through. -/
  | collinear
deriving DecidableEq, Repr

namespace Geometry

variable {α : Type} [Scalar α]

/-- Requires a count to be one at least. -/
def requireCount (name : String) (count : UInt64) : Except (GeometryError α) Unit :=
  if 1 ≤ count then .ok () else .error (.tooFew name 1 count)

/-- Requires a parameter to be finite. -/
def requireFinite (name : String) (value : α) : Except (GeometryError α) Unit :=
  if Scalar.isFinite value then .ok () else .error (.notFinite name value)

/-- The X and Y of a point that has both. -/
def planar (p : Point α) : Except (GeometryError α) (α × α) :=
  match p.x, p.y with
  | some x, some y => .ok (x, y)
  | none, _ => .error (.missingAxis 'x')
  | some _, none => .error (.missingAxis 'y')

/-- So many evenly spaced numbers from one to another, both included; fewer than two are the first
alone. -/
def spaced (first last : α) (count : UInt64) : List α :=
  if count < 2 then [first]
  else
    let step := (last - first) / Scalar.ofCount (count - 1).toNat
    (List.range count.toNat).map fun i => first + step * Scalar.ofCount i

/-- Polar coordinates in XY. -/
structure Polar (α : Type) where
  radius : α
  /-- From zero up to a full turn. -/
  angle : α
deriving DecidableEq, Repr

/-- The point in a direction from another one, at its height. Open axes of it count as zero. -/
def polarOffset (origin : Point α) (radius angle : α) : Point α where
  x := some (origin.x.getD 0.0 + radius * Scalar.cos angle)
  y := some (origin.y.getD 0.0 + radius * Scalar.sin angle)
  z := origin.z

/-- An angle brought into one turn from zero up. -/
def withinTurn (angle : α) : α :=
  Scalar.remainder (Scalar.remainder angle Scalar.turn + Scalar.turn) Scalar.turn

/-- The polar coordinates of one place about another. -/
def polarAbout (x y centreX centreY : α) : Polar α where
  radius := Scalar.hypot (x - centreX) (y - centreY)
  angle := withinTurn (Scalar.atan2 (y - centreY) (x - centreX))

/-- The polar coordinates of a point about another. -/
def toPolar (target origin : Point α) : Except (GeometryError α) (Polar α) := do
  let (x, y) ← planar target
  let (centreX, centreY) ← planar origin
  .ok (polarAbout x y centreX centreY)

/-- The mean of two numbers, if both are there. -/
def mean (a b : Option α) : Option α :=
  match a, b with
  | some a, some b => some ((a + b) / 2.0)
  | _, _ => none

/-- The point half-way between two points. An axis that either leaves open stays open. -/
def midpoint (p q : Point α) : Point α where
  x := mean p.x q.x
  y := mean p.y q.y
  z := mean p.z q.z

/-- The number at a fraction of the way between two; one that is missing is the other. -/
def blend (fraction : α) (a b : Option α) : Option α :=
  match a, b with
  | none, none => none
  | some a, none => some (a + fraction * (a - a))
  | none, some b => some (b + fraction * (b - b))
  | some a, some b => some (a + fraction * (b - a))

/-- The point at a fraction of the way between two points. -/
def interpolate (p q : Point α) (fraction : α) : Point α where
  x := blend fraction p.x q.x
  y := blend fraction p.y q.y
  z := blend fraction p.z q.z

/-- The length of the straight line between two points. Open axes count as zero. -/
def distance (p q : Point α) : α :=
  let dx := q.x.getD 0.0 - p.x.getD 0.0
  let dy := q.y.getD 0.0 - p.y.getD 0.0
  let dz := q.z.getD 0.0 - p.z.getD 0.0
  Scalar.sqrt (dx * dx + dy * dy + dz * dz)

/-- The distances from each point to the next. -/
def legs : List (Point α) → List α
  | p :: q :: rest => distance p q :: legs (q :: rest)
  | _ => []

/-- The length of a path. Sums start from minus zero, the number that leaves every float as it is. -/
def pathLength (points : List (Point α)) : α := (legs points).foldl (· + ·) (-0.0)

end Geometry

end Toolpath
