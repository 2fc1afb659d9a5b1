import Toolpath.Geometry.Arc
import Toolpath.Design.Step

/-!
Closed shapes, helices and spirals, lines in segments, and the way to a point without printing.
-/

namespace Toolpath.Geometry

variable {α : Type} [Scalar α]

/-- One, with the sign of a sense of rotation. -/
def sense (clockwise : Bool) : α := if clockwise then -1.0 else 1.0

/-- A regular polygon in a circle. The first corner is also the last point. -/
def polygon (centre : Point α) (radius startAngle : α) (sides : UInt64) (clockwise : Bool) :
    Except (GeometryError α) (List (Point α)) := do
  requireCount "sides" sides
  arc centre radius startAngle (Scalar.turn * sense clockwise) sides

/-- A full circle. -/
def circle (centre : Point α) (radius startAngle : α) (segments : UInt64) (clockwise : Bool) :
    Except (GeometryError α) (List (Point α)) :=
  arc centre radius startAngle (Scalar.turn * sense clockwise) segments

/-- A full ellipse whose half axes lie along X and Y. -/
def ellipse (centre : Point α) (a b startAngle : α) (segments : UInt64) (clockwise : Bool) :
    Except (GeometryError α) (List (Point α)) :=
  ellipticalArc centre a b startAngle (Scalar.turn * sense clockwise) segments

/-- A rectangle from a corner and back to it: along X first, or along Y if clockwise. -/
def rectangle (start : Point α) (xSize ySize : α) (clockwise : Bool) :
    Except (GeometryError α) (List (Point α)) := do
  requireFinite "x_size" xSize
  requireFinite "y_size" ySize
  let x := start.x.getD 0.0
  let y := start.y.getD 0.0
  let alongX : α := if clockwise then 0.0 else 1.0
  let alongY : α := if clockwise then 1.0 else 0.0
  let corner (x y : α) : Point α := { x := some x, y := some y, z := start.z }
  .ok [corner x y, corner (x + xSize * alongX) (y + ySize * alongY), corner (x + xSize) (y + ySize),
    corner (x + xSize * alongY) (y + ySize * alongX), corner x y]

/-- How many segments so many turns have. -/
def segmentCount (turns : α) (segmentsPerTurn : UInt64) : UInt64 :=
  Scalar.toCount
    (Scalar.round (Scalar.magnitude turns * Scalar.ofCount segmentsPerTurn.toNat))

/-- A helix about a centre. The radius changes evenly from one end to the other, and the height
grows by the pitch with every turn. -/
def helix (centre : Point α) (startRadius endRadius startAngle turns pitch : α)
    (segmentsPerTurn : UInt64) (clockwise : Bool) : Except (GeometryError α) (List (Point α)) := do
  requireCount "segments_per_turn" segmentsPerTurn
  requireFinite "turns" turns
  requireFinite "pitch" pitch
  requireFinite "start_radius" startRadius
  requireFinite "end_radius" endRadius
  let segments := segmentCount turns segmentsPerTurn
  requireCount "segments" segments
  variableArc centre startRadius startAngle (turns * Scalar.turn * sense clockwise) segments
    (endRadius - startRadius) (pitch * turns)

/-- A helix that does not rise. -/
def spiral (centre : Point α) (startRadius endRadius startAngle turns : α)
    (segmentsPerTurn : UInt64) (clockwise : Bool) : Except (GeometryError α) (List (Point α)) :=
  helix centre startRadius endRadius startAngle turns 0.0 segmentsPerTurn clockwise

/-- One axis of a line in segments. Where only one end has the axis, all points have it from
there. -/
def axisOfLine (a b : Option α) (count : UInt64) : List (Option α) :=
  match a, b with
  | some a, some b => (spaced a b count).map some
  | a, b => List.replicate count.toNat (b <|> a)

/-- A straight line in segments. -/
def segmentedLine (p q : Point α) (segments : UInt64) :
    Except (GeometryError α) (List (Point α)) := do
  requireCount "segments" segments
  let count := segments + 1
  let xs := axisOfLine p.x q.x count
  let ys := axisOfLine p.y q.y count
  let zs := axisOfLine p.z q.z count
  .ok <| ((xs.zip (ys.zip zs)).take count.toNat).map fun (x, y, z) => { x, y, z }

/-- The way to a point without printing, and the extruder on again. -/
def travelTo (point : Point α) : Design α :=
  [.element (.event (.toggle false)), .element (.point point), .element (.event (.toggle true))]

end Toolpath.Geometry
