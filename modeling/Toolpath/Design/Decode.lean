import Toolpath.Design.Step
import Toolpath.Document.Decode
import Toolpath.Document.Json.Read

/-!
Designs out of documents.

A design is walked leaf by leaf, so that a leaf that is no element is reported with its place among
the leaves. In profiles, where designs are held back with the rest, a list may also be one element
whose fields stand in order; a group is tried first.
-/

namespace Toolpath

/-- The words for feed units. -/
def FeedUnit.choices : List (String × FeedUnit) := [("mm", .length), ("mm3", .volume)]

/-- The words for travel forms; one of them has two. -/
def TravelForm.choices : List (String × TravelForm) :=
  [("G1_E0", .holding), ("G0", .rapid), ("none", .rapid)]

/-- The words for bead shapes. -/
def BeadShape.choices : List (String × BeadShape) :=
  [("rectangle", .rectangle), ("stadium", .stadium), ("circle", .circle)]

/-- A color from a list of its three parts. -/
def Color.ofValue : Value → Except DecodeError (Color Float)
  | .array [red, green, blue] => do
    .ok ⟨← Decode.float red, ← Decode.float green, ← Decode.float blue⟩
  | other => .error (.unexpected other.kind)

/-- A point from its fields. -/
def Point.ofRecord (record : Record) : Except DecodeError (Point Float) := do
  let record ← record.limit 6
  .ok {
    x := ← record.optional 0 "x" Decode.float
    y := ← record.optional 1 "y" Decode.float
    z := ← record.optional 2 "z" Decode.float
    extrude := ← record.optional 3 "extrude" Decode.bool
    speed := ← record.optional 4 "speed" Decode.float
    color := ← record.optional 5 "color" Color.ofValue }

/-- A point from an object, or from a list of its fields in order. -/
def Point.ofValue (value : Value) : Except DecodeError (Point Float) := do
  Point.ofRecord (← Record.ofValue value)

/-- A fragment of speeds from its fields. -/
def SpeedFragment.ofRecord (record : Record) : Except DecodeError (SpeedFragment Float) := do
  let record ← record.limit 2
  .ok {
    print := ← record.optional 0 "print_speed" Decode.float
    travel := ← record.optional 1 "travel_speed" Decode.float }

/-- A fragment for the extruder from its fields, two of which have a second name. -/
def ExtruderFragment.ofRecord (r : Reading) (record : Record) :
    Except DecodeError (ExtruderFragment Float) := do
  let record ← record.limit 4
  .ok {
    feedUnit := ← record.optional 0 "units" (Decode.choice FeedUnit.choices r)
    filament := ← record.optionalAlias 1 "filament_diameter" "dia_feed" Decode.float
    relative := ← record.optionalAlias 2 "relative_mode" "relative_gcode" Decode.bool
    travelForm := ← record.optional 3 "travel_format" (Decode.choice TravelForm.choices r) }

/-- A fragment for the bead from its fields. -/
def BeadFragment.ofRecord (r : Reading) (record : Record) :
    Except DecodeError (BeadFragment Float) := do
  let record ← record.limit 4
  .ok {
    shape := ← record.optional 0 "area_model" (Decode.choice BeadShape.choices r)
    width := ← record.optional 1 "width" Decode.float
    height := ← record.optional 2 "height" Decode.float
    diameter := ← record.optional 3 "diameter" Decode.float }

namespace Event

/-- The switch of the extruder from its fields. -/
def toggleOfRecord (record : Record) : Except DecodeError (Event Float) := do
  let record ← record.limit 1
  .ok (.toggle (← record.field 0 "on" Decode.bool))

/-- A named command from its fields. -/
def commandOfRecord (record : Record) : Except DecodeError (Event Float) := do
  let record ← record.limit 1
  .ok (.command (← record.field 0 "id" Decode.string))

/-- Instructions as they are from their fields. -/
def rawOfRecord (record : Record) : Except DecodeError (Event Float) := do
  let record ← record.limit 1
  .ok (.raw (← record.field 0 "text" Decode.string))

/-- A comment from its fields. -/
def commentOfRecord (record : Record) : Except DecodeError (Event Float) := do
  let record ← record.limit 2
  .ok (.comment (← record.optional 0 "text" Decode.string)
    (← record.optional 1 "end_of_previous_line" Decode.string))

/-- An extrusion on the spot from its fields. -/
def extrudeOfRecord (record : Record) : Except DecodeError (Event Float) := do
  let record ← record.limit 2
  .ok (.extrude (← record.field 0 "volume" Decode.float) (← record.field 1 "speed" Decode.float))

/-- A speed of the fan from its fields. -/
def fanOfRecord (record : Record) : Except DecodeError (Event Float) := do
  let record ← record.limit 1
  .ok (.fan (← record.field 0 "percent" Decode.float))

/-- A temperature of the hotend from its fields. -/
def hotendOfRecord (record : Record) : Except DecodeError (Event Float) := do
  let record ← record.limit 3
  .ok (.hotend (← record.field 0 "temp" Decode.float) (← record.fieldOr 1 "wait" false Decode.bool)
    (← record.optional 2 "tool" Decode.word32))

/-- A temperature of the bed from its fields. -/
def bedOfRecord (record : Record) : Except DecodeError (Event Float) := do
  let record ← record.limit 2
  .ok (.bed (← record.field 0 "temp" Decode.float) (← record.fieldOr 1 "wait" false Decode.bool))

/-- A label of the plot from its fields. -/
def markerOfRecord (record : Record) : Except DecodeError (Event Float) := do
  let record ← record.limit 2
  .ok (.marker (← record.field 0 "label" Decode.string) (← record.optional 1 "point" Point.ofValue))

/-- The kinds of events and how the fields of each are read. -/
def choices : List (String × (Record → Except DecodeError (Event Float))) :=
  [("ExtruderToggle", toggleOfRecord), ("DeviceCommand", commandOfRecord),
    ("RawInstruction", rawOfRecord), ("Comment", commentOfRecord),
    ("StationaryExtrusion", extrudeOfRecord), ("FanSetting", fanOfRecord),
    ("HotendSetting", hotendOfRecord), ("BedSetting", bedOfRecord), ("Annotation", markerOfRecord)]

/-- An event from its fields, of which one says the kind. -/
def ofRecord (r : Reading) (record : Record) : Except DecodeError (Event Float) :=
  record.tagged r "event" choices

end Event

namespace Element

/-- The kinds of elements and how the fields of each are read. -/
def choices (r : Reading) : List (String × (Record → Except DecodeError (Element Float))) :=
  [("Point", fun record => (Point.ofRecord record).map .point),
    ("Printer", fun record => (SpeedFragment.ofRecord record).map .speeds),
    ("Extruder", fun record => (ExtruderFragment.ofRecord r record).map .extruder),
    ("CrossSection", fun record => (BeadFragment.ofRecord r record).map .bead),
    ("Event", fun record => (Event.ofRecord r record).map .event)]

/-- An element from its fields, of which one says the kind. The others are held back until it is
known. -/
def ofRecord (r : Reading) (record : Record) : Except DecodeError (Element Float) :=
  record.tagged r "type" (choices r.holding)

/-- The word by which a report names an object that is no element. -/
def reportedKind (fields : List (String × Value)) : String :=
  ((Value.find? "type" fields).bind Value.text?).getD "<untagged>"

end Element

/-- Why a document, or a leaf of it, is no design. -/
inductive LeafFault where
  /-- The whole document is not an array. -/
  | notADesign
  /-- The leaf is neither an object nor a group. -/
  | notAnElement
  | undecodable (cause : DecodeError)
deriving DecidableEq, Repr

/-- Why a text is no design. -/
inductive ImportError where
  | notJson
  /-- The leaf at this place among the leaves is no element. -/
  | unknownElement (index : Nat) (kind : String) (fault : LeafFault)
deriving DecidableEq, Repr

/-- The text for a fault. -/
def LeafFault.message : LeafFault → String
  | .notADesign => "a design must be a JSON array"
  | .notAnElement => "expected an element object or a group array"
  | .undecodable cause => cause.message

/-- The text for an error. -/
def ImportError.message : ImportError → String
  | .notJson => "invalid design JSON"
  | .unknownElement index kind fault =>
    "element " ++ toString index ++ " has unrecognized kind '" ++ kind ++ "': " ++ fault.message

/-- How designs are read: from JSON text, leaf by leaf. -/
def designReading : Reading := ⟨.json, false⟩

mutual

/-- A step from a value; the number of leaves before it goes in, and the number with it comes out. -/
def Step.ofValue (index : Nat) : Value → Except ImportError (Step Float × Nat)
  | .array items => do
    let (steps, next) ← Design.ofValues index items
    .ok (.group steps, next)
  | .object fields =>
    match Element.ofRecord designReading (.named fields) with
    | .ok element => .ok (.element element, index + 1)
    | .error cause =>
      .error (.unknownElement index (Element.reportedKind fields) (.undecodable cause))
  | other => .error (.unknownElement index other.kind .notAnElement)

/-- Steps from values, counted in the same way. -/
def Design.ofValues (index : Nat) : List Value → Except ImportError (List (Step Float) × Nat)
  | [] => .ok ([], index)
  | value :: rest => do
    let (step, next) ← Step.ofValue index value
    let (steps, last) ← Design.ofValues next rest
    .ok (step :: steps, last)

end

/-- A design from a value, which must be an array. -/
def Design.ofValue : Value → Except ImportError (Design Float)
  | .array items => (Design.ofValues 0 items).map Prod.fst
  | other => .error (.unknownElement 0 other.kind .notADesign)

/-- A design from JSON text. -/
def Design.ofJson (text : String) : Except ImportError (Design Float) :=
  match Json.read? text with
  | some value => Design.ofValue value
  | none => .error .notJson

mutual

/-- A step from a value that is held back. -/
def Step.ofHeld (r : Reading) : Value → Except DecodeError (Step Float)
  | .array items =>
    match Design.ofHeldItems r items with
    | .ok steps => .ok (.group steps)
    | .error _ => (Element.ofRecord r (.listed items)).map .element
  | .object fields => (Element.ofRecord r (.named fields)).map .element
  | other => .error (.unexpected other.kind)

/-- Steps from values that are held back. -/
def Design.ofHeldItems (r : Reading) : List Value → Except DecodeError (List (Step Float))
  | [] => .ok []
  | value :: rest => do
    let step ← Step.ofHeld r value
    let steps ← Design.ofHeldItems r rest
    .ok (step :: steps)

end

/-- The steps of a procedure, which are held back until their kind is known. -/
def Design.ofHeld (r : Reading) : Value → Except DecodeError (Design Float)
  | .array items => Design.ofHeldItems r.holding items
  | other => .error (.unexpected other.kind)

end Toolpath
