import Toolpath.Geometry.Basic

/-!
Arcs of circles and ellipses, in so many segments, and the circle through three points.

Counts are 64-bit words, and the number of points, one more than the segments, is computed in them.
-/

namespace Toolpath.Geometry

variable {α : Type} [Scalar α]

/-- An arc about a centre, at its height. A negative angle runs clockwise. -/
def arc (centre : Point α) (radius startAngle totalAngle : α) (segments : UInt64) :
    Except (GeometryError α) (List (Point α)) := do
  requireCount "segments" segments
  requireFinite "radius" radius
  requireFinite "start_angle" startAngle
  requireFinite "total_angle" totalAngle
  .ok ((spaced startAngle (startAngle + totalAngle) (segments + 1)).map (polarOffset centre radius))

/-- A point of an arc whose radius and height change. -/
def driftPoint (centre : Point α) (radius angle rise : α) : Point α :=
  { polarOffset centre radius angle with z := centre.z.map (· + rise) }

/-- An arc whose radius and height change evenly along it. A change of height needs a centre that
has one. -/
def variableArc (centre : Point α) (radius startAngle totalAngle : α) (segments : UInt64)
    (radiusDelta zDelta : α) : Except (GeometryError α) (List (Point α)) := do
  requireCount "segments" segments
  requireFinite "radius" radius
  requireFinite "start_angle" startAngle
  requireFinite "total_angle" totalAngle
  requireFinite "radius_delta" radiusDelta
  requireFinite "z_delta" zDelta
  if zDelta != 0.0 && centre.z.isNone then throw (.missingAxis 'z')
  let count := segments + 1
  let angles := spaced startAngle (startAngle + totalAngle) count
  let radii := spaced radius (radius + radiusDelta) count
  let rises := spaced 0.0 zDelta count
  .ok <| ((angles.zip (radii.zip rises)).take count.toNat).map fun (angle, radius, rise) =>
    driftPoint centre radius angle rise

/-- An arc of an ellipse whose half axes lie along X and Y. -/
def ellipticalArc (centre : Point α) (a b startAngle totalAngle : α) (segments : UInt64) :
    Except (GeometryError α) (List (Point α)) := do
  requireCount "segments" segments
  requireFinite "a" a
  requireFinite "b" b
  requireFinite "start_angle" startAngle
  requireFinite "total_angle" totalAngle
  .ok <| (spaced startAngle (startAngle + totalAngle) (segments + 1)).map fun angle => {
    x := some (a * Scalar.cos angle + centre.x.getD 0.0)
    y := some (b * Scalar.sin angle + centre.y.getD 0.0)
    z := centre.z }

/-- The centre of the circle through three points, at the height of the first. -/
def centreOf (p q r : Point α) : Except (GeometryError α) (Point α) := do
  let (x1, y1) ← planar p
  let (x2, y2) ← planar q
  let (x3, y3) ← planar r
  let d := 2.0 * (x1 * (y2 - y3) + x2 * (y3 - y1) + x3 * (y1 - y2))
  if d == 0.0 then throw .collinear
  let s1 := x1 * x1 + y1 * y1
  let s2 := x2 * x2 + y2 * y2
  let s3 := x3 * x3 + y3 * y3
  .ok {
    x := some ((s1 * (y2 - y3) + s2 * (y3 - y1) + s3 * (y1 - y2)) / d)
    y := some ((s1 * (x3 - x2) + s2 * (x1 - x3) + s3 * (x2 - x1)) / d)
    z := p.z }

/-- The angle to turn from one direction over a second to a third. It is counter-clockwise if the
second is met on that way, else clockwise. -/
def sweep (start middle last : α) : α :=
  let counterClockwise :=
    (decide (start < middle) && decide (middle < last))
      || (decide (last < start) && (decide (start < middle) || decide (middle < last)))
  if counterClockwise then last - start else -(Scalar.turn - (last - start))

/-- The arc from a point over a second to a third. -/
def arcThrough (p q r : Point α) (segments : UInt64) :
    Except (GeometryError α) (List (Point α)) := do
  let centre ← centreOf p q r
  let (cx, cy) ← planar centre
  let (x1, y1) ← planar p
  let (x2, y2) ← planar q
  let (x3, y3) ← planar r
  let radius := Scalar.hypot (x1 - cx) (y1 - cy)
  let start := (polarAbout x1 y1 cx cy).angle
  let middle := (polarAbout x2 y2 cx cy).angle
  let last := (polarAbout x3 y3 cx cy).angle
  arc centre radius start (sweep start middle last) segments

end Toolpath.Geometry
