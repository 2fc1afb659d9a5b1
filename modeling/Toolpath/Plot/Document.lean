import Toolpath.Plot.Drawing
import Toolpath.Document.Json.Write
import Toolpath.Design.Encode

/-!
Plots as documents: each path gives its vertices as lists, one for every coordinate and attribute.
-/

namespace Toolpath.Plot

/-- The word for a color mode. -/
def ColorMode.word : ColorMode → String
  | .height => "z_gradient"
  | .sequence => "print_sequence"
  | .waves => "print_sequence_fluctuating"
  | .manual => "manual"

/-- The words for color modes. -/
def ColorMode.choices : List (String × ColorMode) :=
  [ColorMode.height, .sequence, .waves, .manual].map fun mode => (mode.word, mode)

/-- A list with one number for each vertex. -/
def Path.numbers (path : Path Float) (number : Dot Float → Float) : Value :=
  .array (path.dots.map fun dot => .float (number dot))

/-- A path as an object. -/
def Path.toValue (path : Path Float) : Value :=
  .object [
    ("xvals", path.numbers (·.position.x)), ("yvals", path.numbers (·.position.y)),
    ("zvals", path.numbers (·.position.z)),
    ("colors", .array (path.dots.map fun dot => dot.color.toValue)),
    ("widths", path.numbers (·.width)), ("heights", path.numbers (·.height)),
    ("extruderOn", .bool path.on)]

/-- The fields for an extent. -/
def Span.toFields (axis : String) (span : Span Float) : List (String × Value) :=
  [("min" ++ axis, .float span.least), ("max" ++ axis, .float span.greatest),
    ("mid" ++ axis, .float span.middle), ("range" ++ axis, .float span.range)]

/-- A box as an object. -/
def Box.toValue (box : Box Float) : Value :=
  .object (box.x.toFields "x" ++ box.y.toFields "y" ++ box.z.toFields "z")

/-- A label as an object. -/
def markerValue (marker : String × Position Float) : Value :=
  .object [("label", .string marker.1), ("x", .float marker.2.x), ("y", .float marker.2.y),
    ("z", .float marker.2.z)]

/-- A plot as an object. -/
def Drawing.toValue (drawing : Drawing Float) : Value :=
  .object [
    ("paths", .array (drawing.paths.map Path.toValue)), ("boundingBox", drawing.box.toValue),
    ("annotations", .array (drawing.markers.map markerValue))]

/-- A plot as JSON text on one line. -/
def Drawing.toJson (drawing : Drawing Float) : String := Json.compact drawing.toValue

end Toolpath.Plot
