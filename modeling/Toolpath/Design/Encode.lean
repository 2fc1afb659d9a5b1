import Toolpath.Design.Step
import Toolpath.Document.Json.Write

/-!
Designs as documents: a group is an array, and an element is an object with its kind under `type`.
What is not set is left out.
-/

namespace Toolpath

namespace Encode

/-- A field, if it is set. -/
def optional {β : Type} (name : String) (encode : β → Value) : Option β → List (String × Value)
  | none => []
  | some content => [(name, encode content)]

end Encode

/-- The word for a feed unit. -/
def FeedUnit.word : FeedUnit → String
  | .length => "mm"
  | .volume => "mm3"

/-- The word for a travel form. -/
def TravelForm.word : TravelForm → String
  | .holding => "G1_E0"
  | .rapid => "G0"

/-- The word for a bead shape. -/
def BeadShape.word : BeadShape → String
  | .rectangle => "rectangle"
  | .stadium => "stadium"
  | .circle => "circle"

/-- A color as a list of its parts. -/
def Color.toValue (color : Color Float) : Value :=
  .array [.float color.red, .float color.green, .float color.blue]

/-- The fields of a point. -/
def Point.toFields (p : Point Float) : List (String × Value) :=
  Encode.optional "x" .float p.x ++ Encode.optional "y" .float p.y ++ Encode.optional "z" .float p.z
    ++ Encode.optional "extrude" .bool p.extrude ++ Encode.optional "speed" .float p.speed
    ++ Encode.optional "color" Color.toValue p.color

/-- The fields of a fragment of speeds. -/
def SpeedFragment.toFields (f : SpeedFragment Float) : List (String × Value) :=
  Encode.optional "print_speed" .float f.print ++ Encode.optional "travel_speed" .float f.travel

/-- The fields of a fragment for the extruder. -/
def ExtruderFragment.toFields (f : ExtruderFragment Float) : List (String × Value) :=
  Encode.optional "units" (.string ·.word) f.feedUnit
    ++ Encode.optional "filament_diameter" .float f.filament
    ++ Encode.optional "relative_mode" .bool f.relative
    ++ Encode.optional "travel_format" (.string ·.word) f.travelForm

/-- The fields of a fragment for the bead. -/
def BeadFragment.toFields (f : BeadFragment Float) : List (String × Value) :=
  Encode.optional "area_model" (.string ·.word) f.shape ++ Encode.optional "width" .float f.width
    ++ Encode.optional "height" .float f.height ++ Encode.optional "diameter" .float f.diameter

/-- The fields of an event behind its kind. -/
def Event.toFields : Event Float → List (String × Value)
  | .toggle on => [("on", .bool on)]
  | .command id => [("id", .string id)]
  | .raw text => [("text", .string text)]
  | .comment text note =>
    Encode.optional "text" .string text ++ Encode.optional "end_of_previous_line" .string note
  | .extrude volume speed => [("volume", .float volume), ("speed", .float speed)]
  | .fan percent => [("percent", .float percent)]
  | .hotend celsius wait tool =>
    [("temp", .float celsius), ("wait", .bool wait)]
      ++ Encode.optional "tool" (fun number => .integer number.toNat) tool
  | .bed celsius wait => [("temp", .float celsius), ("wait", .bool wait)]
  | .marker label point =>
    ("label", .string label) :: Encode.optional "point" (fun p => .object p.toFields) point

/-- The fields of an element, its kind first. -/
def Element.toFields : Element Float → List (String × Value)
  | .point p => ("type", .string "Point") :: p.toFields
  | .speeds f => ("type", .string "Printer") :: f.toFields
  | .extruder f => ("type", .string "Extruder") :: f.toFields
  | .bead f => ("type", .string "CrossSection") :: f.toFields
  | .event e => ("type", .string "Event") :: ("event", .string e.kind) :: e.toFields

/-- An element as a value. -/
def Element.toValue (element : Element Float) : Value := .object element.toFields

mutual

/-- A step as a value. -/
def Step.toValue : Step Float → Value
  | .group steps => .array (Design.toValues steps)
  | .element element => element.toValue

/-- The steps of a design as values. -/
def Design.toValues : List (Step Float) → List Value
  | [] => []
  | step :: rest => step.toValue :: Design.toValues rest

end

/-- A design as a value. -/
def Design.toValue (design : Design Float) : Value := .array (Design.toValues design)

/-- A design as JSON text, laid out over lines. -/
def Design.toJson (design : Design Float) : String := Json.pretty (Design.toValue design)

end Toolpath
