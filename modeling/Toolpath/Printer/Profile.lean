import Toolpath.Printer.Primer
import Toolpath.Machine.Initialization

/-!
Printer profiles: what a printer starts with, what its commands are, and what it does around a
design.
-/

namespace Toolpath

/-- A printer. -/
structure Profile (α : Type) where
  name : String
  flavor : Flavor
  /-- In mm per minute. -/
  printSpeed : α
  /-- In mm per minute. -/
  travelSpeed : α
  hotend : α
  bed : α
  /-- In percent. -/
  fan : α
  /-- In mm; the width of a bead. -/
  nozzle : α
  /-- In mm; the height of a bead. -/
  layer : α
  /-- The diameter of the filament, in mm. -/
  filament : α
  relative : Bool
  /-- Commands that go before the flavor's. -/
  ownCommands : Table String
  startingProcedure : Design α
  endingProcedure : Design α
  primer : Primer

namespace Profile

variable {α : Type}

/-- The instructions for a command: the printer's own, or else its flavor's. -/
def commands (profile : Profile α) : CommandTable := fun id =>
  profile.ownCommands.find? id <|> profile.flavor.commands id

/-- The settings a printer starts with. -/
def initialization (profile : Profile α) : Initialization α where
  printSpeed := some profile.printSpeed
  travelSpeed := some profile.travelSpeed
  hotend := some profile.hotend
  bed := some profile.bed
  fan := some profile.fan
  width := some profile.nozzle
  height := some profile.layer
  feedUnit := some .length
  relative := some profile.relative
  filament := some profile.filament

variable [Scalar α]

/-- The steps of the primer for a design; none if it has no point to lead to. -/
def primerSteps (profile : Profile α) (design : Design α) : Design α :=
  match Design.firstPoint design with
  | some first => profile.primer.steps first
  | none => []

/-- A design between the procedures of a printer, behind the primer. -/
def wrap (profile : Profile α) (design : Design α) : Design α :=
  [.group profile.startingProcedure, .group (profile.primerSteps design), .group design,
    .group profile.endingProcedure]

/-- A printer of no particular make. -/
def generic : Profile α where
  name := "generic"
  flavor := .marlin
  printSpeed := 1000.0
  travelSpeed := 8000.0
  hotend := 210.0
  bed := 40.0
  fan := 100.0
  nozzle := 0.4
  layer := 0.2
  filament := 1.75
  relative := false
  ownCommands := []
  startingProcedure := Flavor.marlin.startingProcedure
  endingProcedure := Flavor.marlin.endingProcedure
  primer := .frontLinesThenY

/-- The same without procedures and primer. -/
def bare : Profile α :=
  { generic with startingProcedure := [], endingProcedure := [], primer := .none }

/-- A small printer with a direct drive. -/
def prusaI3 : Profile α :=
  { generic with
    name := "prusa_i3", printSpeed := 1200.0, hotend := 215.0, bed := 60.0, relative := true }

/-- A small printer with a long filament path. -/
def ender3 : Profile α :=
  { generic with name := "ender_3", travelSpeed := 6000.0, hotend := 200.0, bed := 60.0 }

/-- A fast printer that runs Klipper. -/
def voron : Profile α :=
  { generic with
    name := "voron", flavor := .klipper, printSpeed := 3000.0, travelSpeed := 12000.0
    hotend := 240.0, bed := 110.0, relative := true
    startingProcedure := Flavor.klipper.startingProcedure
    endingProcedure := Flavor.klipper.endingProcedure, primer := .travel }

/-- A fast printer with its own dialect. -/
def bambuLabX1 : Profile α :=
  { generic with
    name := "bambulab_x1", flavor := .bambu, printSpeed := 3000.0, travelSpeed := 12000.0
    hotend := 220.0, bed := 55.0, relative := true
    startingProcedure := Flavor.bambu.startingProcedure
    endingProcedure := Flavor.bambu.endingProcedure }

/-- The printers known by name. -/
def known : List (Profile α) := [generic, prusaI3, ender3, voron, bambuLabX1]

/-- The printer of a name. -/
def named? (name : String) : Option (Profile α) := known.find? fun profile => profile.name == name

end Profile

end Toolpath
