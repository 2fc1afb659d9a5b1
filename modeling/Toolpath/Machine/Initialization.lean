import Toolpath.Design.Element
import Toolpath.Document.Value
import Toolpath.Table

/-!
Initialization: settings that are in force before the first element of a design.

It is nothing but a prologue, a list of elements that establish the settings, and a list of names
that it does not know.
-/

namespace Toolpath

/-- Settings for the start of a design, each of them optional. -/
structure Initialization (α : Type) where
  printSpeed : Option α := none
  travelSpeed : Option α := none
  hotend : Option α := none
  bed : Option α := none
  fan : Option α := none
  width : Option α := none
  height : Option α := none
  feedUnit : Option FeedUnit := none
  relative : Option Bool := none
  filament : Option α := none
  on : Option Bool := none
  travelForm : Option TravelForm := none
  /-- The shape of the bead; a rectangle, if only its size is given. -/
  shape : Option BeadShape := none
  /-- What was given under other names. -/
  unrecognized : Table Value := []

namespace Initialization

variable {α : Type}

/-- The settings with another one's laid over them. -/
def overlaid (base overrides : Initialization α) : Initialization α where
  printSpeed := overrides.printSpeed <|> base.printSpeed
  travelSpeed := overrides.travelSpeed <|> base.travelSpeed
  hotend := overrides.hotend <|> base.hotend
  bed := overrides.bed <|> base.bed
  fan := overrides.fan <|> base.fan
  width := overrides.width <|> base.width
  height := overrides.height <|> base.height
  feedUnit := overrides.feedUnit <|> base.feedUnit
  relative := overrides.relative <|> base.relative
  filament := overrides.filament <|> base.filament
  on := overrides.on <|> base.on
  travelForm := overrides.travelForm <|> base.travelForm
  shape := overrides.shape <|> base.shape
  unrecognized := base.unrecognized.merge overrides.unrecognized

/-- The fragment for the speeds, if one is set. -/
def speedElements (i : Initialization α) : List (Element α) :=
  if i.printSpeed.isSome || i.travelSpeed.isSome then [.speeds ⟨i.printSpeed, i.travelSpeed⟩] else []

/-- The fragment for the extruder, if a field of it is set. -/
def extruderElements (i : Initialization α) : List (Element α) :=
  if i.feedUnit.isSome || i.filament.isSome || i.relative.isSome || i.travelForm.isSome then
    [.extruder ⟨i.feedUnit, i.filament, i.relative, i.travelForm⟩]
  else []

/-- The fragment for the bead, if a field of it is set. -/
def beadElements (i : Initialization α) : List (Element α) :=
  if i.width.isSome || i.height.isSome || i.shape.isSome then
    [.bead ⟨some (i.shape.getD .rectangle), i.width, i.height, none⟩]
  else []

/-- The temperature of the bed, if it is set. -/
def bedElements (i : Initialization α) (wait : Bool) : List (Element α) :=
  (i.bed.map fun celsius => .event (.bed celsius wait)).toList

/-- The temperature of the hotend, if it is set. -/
def hotendElements (i : Initialization α) (wait : Bool) : List (Element α) :=
  (i.hotend.map fun celsius => .event (.hotend celsius wait none)).toList

/-- The speed of the fan, if it is set. -/
def fanElements (i : Initialization α) : List (Element α) :=
  (i.fan.map fun percent => .event (.fan percent)).toList

/-- The switch of the extruder, if it is set. -/
def switchElements (i : Initialization α) : List (Element α) :=
  (i.on.map fun on => .event (.toggle on)).toList

/-- The elements that establish the settings. Everything is heated before anything is waited for. -/
def prologue (i : Initialization α) : List (Element α) :=
  i.speedElements ++ i.extruderElements ++ i.beadElements ++ i.bedElements false
    ++ i.hotendElements false ++ i.bedElements true ++ i.hotendElements true ++ i.fanElements
    ++ i.switchElements

end Initialization

end Toolpath
