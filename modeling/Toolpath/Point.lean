import Toolpath.Scalar

/-!
Positions of the tool, and points of a design, which may leave axes open.
-/

namespace Toolpath

/-- A color by its red, green and blue parts, each from 0 to 1. -/
structure Color (α : Type) where
  red : α
  green : α
  blue : α
deriving DecidableEq, Repr

/-- A place of the tool, with every axis known. -/
structure Position (α : Type) where
  x : α
  y : α
  z : α
deriving DecidableEq, Repr

/-- A point of a design. An axis left open keeps its value. The speed, the color and whether the
extruder is on hold from this point on. -/
structure Point (α : Type) where
  x : Option α := none
  y : Option α := none
  z : Option α := none
  /-- Switches the extruder before the move. -/
  extrude : Option Bool := none
  /-- Replaces the speed of the kind of move this is. -/
  speed : Option α := none
  color : Option (Color α) := none
deriving DecidableEq, Repr

namespace Position

variable {α : Type} [Scalar α]

/-- Equal on every axis, as numbers are: the two zeros of floats are equal. -/
instance : BEq (Position α) := ⟨fun p q => p.x == q.x && p.y == q.y && p.z == q.z⟩

/-- Zero on every axis. -/
def origin : Position α := ⟨0.0, 0.0, 0.0⟩

/-- The length of the straight line to another position. -/
def distance (start target : Position α) : α :=
  let dx := target.x - start.x
  let dy := target.y - start.y
  let dz := target.z - start.z
  Scalar.sqrt (dx * dx + dy * dy + dz * dz)

end Position

namespace Point

variable {α : Type}

/-- The point that sets every axis and nothing else. -/
def ofPosition (p : Position α) : Point α := { x := some p.x, y := some p.y, z := some p.z }

/-- Whether no axis is left open. -/
def isComplete (p : Point α) : Bool := p.x.isSome && p.y.isSome && p.z.isSome

/-- The position that a point means after another one. -/
def resolve (p : Point α) (before : Position α) : Position α :=
  ⟨p.x.getD before.x, p.y.getD before.y, p.z.getD before.z⟩

theorem resolve_ofPosition (p before : Position α) : (ofPosition p).resolve before = p := rfl

theorem resolve_of_isComplete {p : Point α} (complete : p.isComplete) (a b : Position α) :
    p.resolve a = p.resolve b := by
  obtain ⟨x, y, z, _, _, _⟩ := p
  cases x <;> cases y <;> cases z <;> simp_all [isComplete, resolve]

end Point

end Toolpath
