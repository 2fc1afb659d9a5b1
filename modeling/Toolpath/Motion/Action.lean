import Toolpath.Machine.State

/-!
What a walk over a design gives: actions, each with the machine as it is after it, and remarks on
elements that are passed over. All output is made from these.
-/

namespace Toolpath

/-- What a move does. -/
inductive MoveKind (α : Type) where
  /-- The first point, which says where the tool is. -/
  | origin
  | travel
  /-- Extrudes a volume, in mm³, along a length, in mm. -/
  | print (volume length : α)
deriving DecidableEq, Repr

/-- Whether a move is the one to the first point. -/
def MoveKind.isOrigin {α : Type} : MoveKind α → Bool
  | .origin => true
  | _ => false

/-- The form a move is written in. -/
inductive MoveForm where
  | rapid
  | linear
deriving DecidableEq, Repr

/-- A move of the tool. -/
structure Move (α : Type) where
  kind : MoveKind α
  /-- Where it starts; at its target, if it is the first. -/
  start : Position α
  target : Position α
  form : MoveForm
  /-- What is written on the extruder axis, if anything. -/
  feed : Option α
  speed : α
deriving DecidableEq, Repr

/-- One thing the machine is told, or the plot shows. -/
inductive Action (α : Type) where
  | move (move : Move α)
  | toggled (on : Bool)
  /-- Announces whether the extruder axis is relative. -/
  | announced (relative : Bool)
  /-- Instructions as they are, perhaps over several lines. -/
  | instruction (text : String)
  | comment (text note : Option String)
  /-- A feed on the spot, with what is written on the extruder axis. -/
  | extruded (feed speed : α)
  /-- A speed of the fan from 0 to 100 percent. -/
  | fan (percent : α)
  | hotend (celsius : α) (wait : Bool) (tool : Option UInt32)
  | bed (celsius : α) (wait : Bool)
  | marker (label : String) (position : Position α)
deriving DecidableEq, Repr

/-- An action, and the machine as it is after it. -/
structure Emission (α : Type) where
  action : Action α
  machine : Machine α
deriving DecidableEq, Repr

/-- What is said of an element that does not do all it asks for. -/
inductive Remark (α : Type) where
  | speedIgnored (speed : α)
  /-- The first point leaves an axis open. -/
  | originOpen
  /-- The table has no instructions for a command. -/
  | unmapped (id : String)
  | fanIgnored (percent : α)
  /-- A label without a point, while the tool is nowhere. -/
  | unplaced (label : String)
  /-- A name in the initialization that is none of its fields. -/
  | unrecognized (key : String)
deriving DecidableEq, Repr

/-- A remark with the place and kind of the element it is about. -/
structure Diagnostic (α : Type) where
  index : Nat
  kind : String
  remark : Remark α
deriving DecidableEq, Repr

/-- A defect that ends a walk, with the place and kind of the element it is met at. -/
structure Fault (α : Type) where
  index : Nat
  kind : String
  defect : Defect α
deriving DecidableEq, Repr

end Toolpath
