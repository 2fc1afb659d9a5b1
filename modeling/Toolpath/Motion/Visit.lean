import Toolpath.Motion.Action
import Toolpath.Machine.Commands

/-!
What one element does to the machine.

Each piece gives the machine after it and what it emits or remarks on. A print move is the only thing
that a point can fail at, and a feed on the spot the only event that can fail.
-/

namespace Toolpath

/-- What an element does: the machine after it, its actions and the remarks on it. -/
structure Outcome (α : Type) where
  machine : Machine α
  emissions : List (Emission α) := []
  remarks : List (Remark α) := []

variable {α : Type} [Scalar α]

namespace Machine

/-- Does an action that has changed the machine already. -/
def emit (machine : Machine α) (action : Action α) : Outcome α := { machine, emissions := [⟨action, machine⟩] }

/-- Passes an element over. -/
def remark (machine : Machine α) (remark : Remark α) : Outcome α := { machine, remarks := [remark] }

/-- Switches the extruder, if that changes anything. -/
def switch (machine : Machine α) (on : Bool) : Outcome α :=
  if machine.extruder.on = on then { machine }
  else emit { machine with extruder := { machine.extruder with on } } (.toggled on)

/-- Announces the mode of the extruder axis, unless it was announced last. An absolute axis starts
again from zero. -/
def announce (machine : Machine α) : Outcome α :=
  let relative := machine.extruder.relative
  if machine.extruder.announced = some relative then { machine }
  else
    let total := if relative then machine.extruder.total else 0.0
    let extruder := { machine.extruder with announced := some relative, total }
    emit { machine with extruder } (.announced relative)

/-- Takes the color of a point, if it has one. -/
def paint (machine : Machine α) (color : Option (Color α)) : Machine α :=
  { machine with color := color <|> machine.color }

/-- Takes the speed of a point, if it has one: for printing where the extruder is on and the tool is
somewhere already, else for travel. -/
def pace (machine : Machine α) (speed : Option α) : Outcome α :=
  match speed with
  | none => { machine }
  | some speed =>
    if Scalar.isUsable speed then
      if machine.extruder.on && machine.position.isSome then
        { machine := { machine with speeds := { machine.speeds with print := speed } } }
      else { machine := { machine with speeds := { machine.speeds with travel := speed } } }
    else machine.remark (.speedIgnored speed)

/-- The form of a move that does not extrude. -/
def travelForm (machine : Machine α) : MoveForm :=
  match machine.extruder.travelForm with
  | .holding => .linear
  | .rapid => .rapid

/-- What a move that does not extrude writes on the extruder axis. -/
def travelFeed (machine : Machine α) : Option α :=
  match machine.extruder.travelForm with
  | .holding => some machine.extruder.held
  | .rapid => none

/-- The move to the first point, which only says where the tool is. Open axes are zero. -/
def place (machine : Machine α) (point : Point α) : Outcome α :=
  let target := point.resolve .origin
  let machine := { machine with position := some target }
  let move := {
    kind := .origin, start := target, target, form := machine.travelForm, feed := none
    speed := machine.speeds.travel }
  { machine, emissions := [⟨.move move, machine⟩]
    remarks := if point.isComplete then [] else [.originOpen] }

/-- A move that does not extrude. -/
def travel (machine : Machine α) (start target : Position α) : Outcome α :=
  machine.emit <| .move {
    kind := .travel, start, target, form := machine.travelForm, feed := machine.travelFeed
    speed := machine.speeds.travel }

/-- A move that extrudes as much as fills the bead along its length. -/
def print (machine : Machine α) (start target : Position α) : Except (Defect α) (Outcome α) := do
  let length := start.distance target
  let area ← machine.bead.area
  let factor ← machine.extruder.feedPerVolume
  let volume := area * length
  let extruder := machine.extruder.advance (volume * factor)
  .ok <| emit { machine with extruder } <| .move {
    kind := .print volume length, start, target, form := .linear
    feed := some (extruder.written (volume * factor)), speed := machine.speeds.print }

/-- Goes to a point from where the tool is. There is no move where no axis changes. -/
def go (machine : Machine α) (start : Position α) (point : Point α) :
    Except (Defect α) (Outcome α) :=
  let target := point.resolve start
  let machine := { machine with position := some target }
  if target == start then .ok { machine }
  else if machine.extruder.on then machine.print start target
  else .ok (machine.travel start target)

/-- Feeds a volume on the spot. -/
def extrude (machine : Machine α) (volume speed : α) : Except (Defect α) (Outcome α) := do
  let factor ← machine.extruder.feedPerVolume
  let extruder := machine.extruder.advance (volume * factor)
  .ok <| emit { machine with extruder } (.extruded (extruder.written (volume * factor)) speed)

/-- Sets the fan, within 0 and 100 percent. -/
def blow (machine : Machine α) (percent : α) : Outcome α :=
  if Scalar.isFinite percent then
    let percent := Scalar.clamp 0.0 100.0 percent
    emit { machine with fan := some percent } (.fan percent)
  else machine.remark (.fanIgnored percent)

/-- Puts a label at a point, or else where the tool is. -/
def mark (machine : Machine α) (label : String) (point : Option (Point α)) : Outcome α :=
  match point, machine.position with
  | some point, position => machine.emit (.marker label (point.resolve (position.getD .origin)))
  | none, some position => machine.emit (.marker label position)
  | none, none => machine.remark (.unplaced label)

/-- What a point does. -/
def visitPoint (machine : Machine α) (point : Point α) : Except (Defect α) (Outcome α) := do
  let toggled := match point.extrude with
    | some on => machine.switch on
    | none => { machine }
  let paced := (toggled.machine.paint point.color).pace point.speed
  let moved ← match paced.machine.position with
    | none => .ok (paced.machine.place point)
    | some start => paced.machine.go start point
  .ok {
    machine := moved.machine
    emissions := toggled.emissions ++ moved.emissions
    remarks := paced.remarks ++ moved.remarks }

/-- What an event does. -/
def visitEvent (commands : CommandTable) (machine : Machine α) :
    Event α → Except (Defect α) (Outcome α)
  | .toggle on => .ok (machine.switch on)
  | .command id =>
    match commands id with
    | some text => .ok (machine.emit (.instruction text))
    | none => .ok (machine.remark (.unmapped id))
  | .raw text => .ok (machine.emit (.instruction text))
  | .comment text note => .ok (machine.emit (.comment text note))
  | .extrude volume speed => machine.extrude volume speed
  | .fan percent => .ok (machine.blow percent)
  | .hotend celsius wait tool =>
    .ok (emit { machine with hotend := some celsius } (.hotend celsius wait tool))
  | .bed celsius wait => .ok (emit { machine with bed := some celsius } (.bed celsius wait))
  | .marker label point => .ok (machine.mark label point)

/-- What an element does. -/
def visit (commands : CommandTable) (machine : Machine α) :
    Element α → Except (Defect α) (Outcome α)
  | .point point => machine.visitPoint point
  | .speeds fragment => .ok { machine := { machine with speeds := machine.speeds.apply fragment } }
  | .extruder fragment =>
    let machine := { machine with extruder := machine.extruder.apply fragment }
    .ok (if fragment.relative.isSome then machine.announce else { machine })
  | .bead fragment => .ok { machine := { machine with bead := machine.bead.apply fragment } }
  | .event event => machine.visitEvent commands event

end Machine

end Toolpath
