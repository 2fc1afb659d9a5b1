import Toolpath.Printer.Profile
import Toolpath.Machine.Initialization.Document
import Toolpath.Scalar.Float

/-!
Printer profiles as documents. A field that is missing is the generic printer's.
-/

namespace Toolpath

/-- The word for a flavor. -/
def Flavor.word : Flavor → String
  | .marlin => "Marlin"
  | .klipper => "Klipper"
  | .bambu => "Bambu"
  | .repRap => "RepRap"

/-- The words for flavors. -/
def Flavor.choices : List (String × Flavor) :=
  [Flavor.marlin, .klipper, .bambu, .repRap].map fun flavor => (flavor.word, flavor)

/-- The word for a primer. -/
def Primer.word : Primer → String
  | .travel => "travel"
  | .frontLinesThenY => "front_lines_then_y"
  | .frontLinesThenX => "front_lines_then_x"
  | .frontLinesThenXY => "front_lines_then_xy"
  | .x => "x"
  | .y => "y"
  | .none => "no_primer"

/-- The words for primers. -/
def Primer.choices : List (String × Primer) :=
  [Primer.travel, .frontLinesThenY, .frontLinesThenX, .frontLinesThenXY, .x, .y, .none].map
    fun primer => (primer.word, primer)

namespace Profile

/-- A profile from its fields. -/
def ofRecord (r : Reading) (record : Record) : Except DecodeError (Profile Float) := do
  let base : Profile Float := generic
  let record ← record.limit 15
  .ok {
    name := ← record.fieldOr 0 "name" base.name Decode.string
    flavor := ← record.fieldOr 1 "flavor" base.flavor (Decode.choice Flavor.choices r)
    printSpeed := ← record.fieldOr 2 "print_speed" base.printSpeed Decode.float
    travelSpeed := ← record.fieldOr 3 "travel_speed" base.travelSpeed Decode.float
    hotend := ← record.fieldOr 4 "nozzle_temp" base.hotend Decode.float
    bed := ← record.fieldOr 5 "bed_temp" base.bed Decode.float
    fan := ← record.fieldOr 6 "fan_percent" base.fan Decode.float
    nozzle := ← record.fieldOr 7 "nozzle_diameter" base.nozzle Decode.float
    layer := ← record.fieldOr 8 "layer_height" base.layer Decode.float
    filament := ← record.fieldOr 9 "filament_diameter" base.filament Decode.float
    relative := ← record.fieldOr 10 "relative_e" base.relative Decode.bool
    ownCommands := Table.ofList (← record.fieldOr 11 "commands" base.ownCommands
      (Decode.table Decode.string))
    startingProcedure := ← record.fieldOr 12 "starting_procedure" base.startingProcedure
      (Design.ofHeld r)
    endingProcedure := ← record.fieldOr 13 "ending_procedure" base.endingProcedure (Design.ofHeld r)
    primer := ← record.fieldOr 14 "primer" base.primer (Decode.choice Primer.choices r) }

/-- A profile from an object, or from a list of its fields in order. -/
def ofValue (r : Reading) (value : Value) : Except DecodeError (Profile Float) := do
  ofRecord r (← Record.ofValue value)

/-- A profile from TOML text. -/
def ofToml? (text : String) : Option (Profile Float) :=
  (Toml.read? text).bind fun value => (ofValue ⟨.toml, false⟩ value).toOption

/-- A profile as an object. -/
def toValue (p : Profile Float) : Value :=
  .object [
    ("name", .string p.name), ("flavor", .string p.flavor.word),
    ("print_speed", .float p.printSpeed), ("travel_speed", .float p.travelSpeed),
    ("nozzle_temp", .float p.hotend), ("bed_temp", .float p.bed), ("fan_percent", .float p.fan),
    ("nozzle_diameter", .float p.nozzle), ("layer_height", .float p.layer),
    ("filament_diameter", .float p.filament), ("relative_e", .bool p.relative),
    ("commands", .object (p.ownCommands.map fun entry => (entry.1, .string entry.2))),
    ("starting_procedure", Design.toValue p.startingProcedure),
    ("ending_procedure", Design.toValue p.endingProcedure), ("primer", .string p.primer.word)]

end Profile

end Toolpath
