import Toolpath.Machine.Initialization
import Toolpath.Design.Decode
import Toolpath.Design.Encode
import Toolpath.Document.Toml.Read

/-!
Initialization as a document: an object with the settings by name. What is given under other names
is kept.
-/

namespace Toolpath.Initialization

/-- The names of the settings. -/
def keys : List String :=
  ["print_speed", "travel_speed", "nozzle_temp", "bed_temp", "fan_percent", "extrusion_width",
    "extrusion_height", "e_units", "relative_e", "dia_feed", "extruder_on", "travel_format",
    "area_model"]

/-- Initialization from an object. -/
def ofValue (r : Reading) : Value → Except DecodeError (Initialization Float)
  | .object fields => do
    let record := Record.named fields
    .ok {
      printSpeed := ← record.optional 0 "print_speed" Decode.float
      travelSpeed := ← record.optional 1 "travel_speed" Decode.float
      hotend := ← record.optional 2 "nozzle_temp" Decode.float
      bed := ← record.optional 3 "bed_temp" Decode.float
      fan := ← record.optional 4 "fan_percent" Decode.float
      width := ← record.optional 5 "extrusion_width" Decode.float
      height := ← record.optional 6 "extrusion_height" Decode.float
      feedUnit := ← record.optional 7 "e_units" (Decode.choice FeedUnit.choices r)
      relative := ← record.optional 8 "relative_e" Decode.bool
      filament := ← record.optional 9 "dia_feed" Decode.float
      on := ← record.optional 10 "extruder_on" Decode.bool
      travelForm := ← record.optional 11 "travel_format" (Decode.choice TravelForm.choices r)
      shape := ← record.optional 12 "area_model" (Decode.choice BeadShape.choices r)
      unrecognized := Table.ofList (fields.filter fun field => !keys.contains field.1) }
  | other => .error (.unexpected other.kind)

/-- Initialization from TOML text. -/
def ofToml? (text : String) : Option (Initialization Float) :=
  (Toml.read? text).bind fun value => (ofValue ⟨.toml, false⟩ value).toOption

/-- A setting that is null where it is not set. -/
def nullable {β : Type} (name : String) (encode : β → Value) (setting : Option β) : String × Value :=
  (name, (setting.map encode).getD .null)

/-- Initialization as an object with all its settings, less what is given under other names. -/
def toValue (i : Initialization Float) : Value :=
  .object [
    nullable "print_speed" .float i.printSpeed, nullable "travel_speed" .float i.travelSpeed,
    nullable "nozzle_temp" .float i.hotend, nullable "bed_temp" .float i.bed,
    nullable "fan_percent" .float i.fan, nullable "extrusion_width" .float i.width,
    nullable "extrusion_height" .float i.height, nullable "e_units" (.string ·.word) i.feedUnit,
    nullable "relative_e" .bool i.relative, nullable "dia_feed" .float i.filament,
    nullable "extruder_on" .bool i.on, nullable "travel_format" (.string ·.word) i.travelForm,
    nullable "area_model" (.string ·.word) i.shape]

end Toolpath.Initialization
