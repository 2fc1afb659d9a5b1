import Toolpath.Point

/-!
The elements of a design: points, fragments of configuration, and events.

A fragment sets some fields of the machine and leaves the others as they are.
-/

namespace Toolpath

/-- What the extruder axis measures. -/
inductive FeedUnit where
  /-- The length of filament. -/
  | length
  /-- The volume of material. -/
  | volume
deriving DecidableEq, Repr

/-- How a move without extrusion is written. -/
inductive TravelForm where
  /-- As a linear move that states the extruder axis without advancing it. -/
  | holding
  /-- As a rapid move without the extruder axis. -/
  | rapid
deriving DecidableEq, Repr

/-- The shape of the cross-section of a bead. -/
inductive BeadShape where
  | rectangle
  /-- A rectangle with half circles at its ends. -/
  | stadium
  | circle
deriving DecidableEq, Repr

/-- Sets speeds, in mm per minute. -/
structure SpeedFragment (α : Type) where
  print : Option α := none
  travel : Option α := none
deriving DecidableEq, Repr

/-- Sets up the extruder, but does not switch it. -/
structure ExtruderFragment (α : Type) where
  feedUnit : Option FeedUnit := none
  /-- The diameter of the filament, in mm. -/
  filament : Option α := none
  /-- Whether the extruder axis is written as increments. -/
  relative : Option Bool := none
  travelForm : Option TravelForm := none
deriving DecidableEq, Repr

/-- Sets the cross-section of the bead, in mm. -/
structure BeadFragment (α : Type) where
  shape : Option BeadShape := none
  width : Option α := none
  height : Option α := none
  diameter : Option α := none
deriving DecidableEq, Repr

/-- A change of the machine's state, or text for it. No event moves the tool. -/
inductive Event (α : Type) where
  /-- Switches the extruder. -/
  | toggle (on : Bool)
  /-- A command by its name, which the printer's table turns into instructions. -/
  | command (id : String)
  /-- Instructions as they are. -/
  | raw (text : String)
  /-- A comment on a line of its own, and a note at the end of the line before. -/
  | comment (text note : Option String)
  /-- Extrudes a volume on the spot. -/
  | extrude (volume speed : α)
  /-- The speed of the fan, in percent. -/
  | fan (percent : α)
  /-- The temperature of the hotend, of one tool if there are several. -/
  | hotend (celsius : α) (wait : Bool) (tool : Option UInt32)
  /-- The temperature of the bed. -/
  | bed (celsius : α) (wait : Bool)
  /-- A label in the plot, at a point or else where the tool is. -/
  | marker (label : String) (point : Option (Point α))
deriving DecidableEq, Repr

/-- One element of a design. -/
inductive Element (α : Type) where
  | point (point : Point α)
  | speeds (fragment : SpeedFragment α)
  | extruder (fragment : ExtruderFragment α)
  | bead (fragment : BeadFragment α)
  | event (event : Event α)
deriving DecidableEq, Repr

namespace SpeedFragment

variable {α : Type}

/-- Sets the speed of printing alone. -/
def ofPrint (speed : α) : SpeedFragment α := { print := some speed }

/-- Sets the speed of travel alone. -/
def ofTravel (speed : α) : SpeedFragment α := { travel := some speed }

end SpeedFragment

namespace ExtruderFragment

variable {α : Type}

/-- Sets the mode of the extruder axis alone. -/
def ofMode (relative : Bool) : ExtruderFragment α := { relative := some relative }

end ExtruderFragment

namespace BeadFragment

variable {α : Type}

/-- Sets a whole rectangle. -/
def rectangle (width height : α) : BeadFragment α :=
  { shape := some .rectangle, width := some width, height := some height }

/-- Sets a whole stadium. -/
def stadium (width height : α) : BeadFragment α :=
  { shape := some .stadium, width := some width, height := some height }

/-- Sets a whole circle. -/
def circle (diameter : α) : BeadFragment α := { shape := some .circle, diameter := some diameter }

end BeadFragment

namespace Event

variable {α : Type}

/-- The word for the kind of an event, in documents and diagnostics. -/
def kind : Event α → String
  | .toggle .. => "ExtruderToggle"
  | .command .. => "DeviceCommand"
  | .raw .. => "RawInstruction"
  | .comment .. => "Comment"
  | .extrude .. => "StationaryExtrusion"
  | .fan .. => "FanSetting"
  | .hotend .. => "HotendSetting"
  | .bed .. => "BedSetting"
  | .marker .. => "Annotation"

/-- Withdraws the filament. -/
def retract : Event α := .command "retract"

/-- Pushes the filament forward again. -/
def unretract : Event α := .command "unretract"

end Event

namespace Element

variable {α : Type}

/-- The word for the kind of an element, in diagnostics. -/
def kind : Element α → String
  | .point _ => "Point"
  | .speeds _ => "Printer"
  | .extruder _ => "Extruder"
  | .bead _ => "CrossSection"
  | .event e => e.kind

/-- The point of an element that is one. -/
def point? : Element α → Option (Point α)
  | .point p => some p
  | _ => none

end Element

end Toolpath
