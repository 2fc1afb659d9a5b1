import Toolpath.Geometry.Basic

/-!
Moves, copies and reflections of points. Only the axes change; what else a point says is kept.
-/

namespace Toolpath.Geometry

variable {α : Type} [Scalar α]

/-- A vector in space. -/
structure Vector (α : Type) where
  x : α
  y : α
  z : α
deriving DecidableEq, Repr

/-- A vector so many times over. -/
def Vector.times (v : Vector α) (count : Nat) : Vector α :=
  ⟨v.x * Scalar.ofCount count, v.y * Scalar.ofCount count, v.z * Scalar.ofCount count⟩

/-- Points shifted by a vector. Open axes stay open. -/
def translate (points : List (Point α)) (offset : Vector α) : List (Point α) :=
  points.map fun p => { p with
    x := p.x.map (· + offset.x)
    y := p.y.map (· + offset.y)
    z := p.z.map (· + offset.z) }

/-- So many copies of points, each shifted by the vector from the one before. -/
def translateCopies (points : List (Point α)) (offset : Vector α) (quantity : UInt64) :
    List (Point α) :=
  (List.range quantity.toNat).flatMap fun i => translate points (offset.times i)

/-- A point moved about a centre: its distance grown and its direction turned. -/
def movePointPolar (centre : Point α) (cx cy radius angle : α) (p : Point α) :
    Except (GeometryError α) (Point α) := do
  let (x, y) ← planar p
  let polar := polarAbout x y cx cy
  let moved := polarOffset centre (polar.radius + radius) (polar.angle + angle)
  .ok { p with x := moved.x, y := moved.y }

/-- Points moved about a centre. -/
def movePolar (points : List (Point α)) (centre : Point α) (radius angle : α) :
    Except (GeometryError α) (List (Point α)) := do
  requireFinite "radius" radius
  requireFinite "angle" angle
  let (cx, cy) ← planar centre
  points.mapM (movePointPolar centre cx cy radius angle)

/-- The reflection of a place in the line through two places. Lines along an axis are apart, because
they, or what is at right angles to them, have no slope. -/
def reflectPlace (x y x1 y1 x2 y2 : α) : α × α :=
  if x2 == x1 then (x + 2.0 * (x1 - x), y)
  else if y2 == y1 then (x, y + 2.0 * (y1 - y))
  else
    let slope := (y2 - y1) / (x2 - x1)
    let height := y1 - slope * x1
    let normalSlope := -1.0 / slope
    let normalHeight := y - normalSlope * x
    let footX := (normalHeight - height) / (slope - normalSlope)
    let footY := (normalHeight - (normalSlope / slope) * height) / (1.0 - normalSlope / slope)
    (x + 2.0 * (footX - x), y + 2.0 * (footY - y))

/-- The reflection of a point in the line through two points, in XY. Open axes of it count as zero. -/
def reflect (p p1 p2 : Point α) : Except (GeometryError α) (Point α) := do
  let (x1, y1) ← planar p1
  let (x2, y2) ← planar p2
  let image := reflectPlace (p.x.getD 0.0) (p.y.getD 0.0) x1 y1 x2 y2
  .ok { p with x := some image.1, y := some image.2 }

end Toolpath.Geometry
