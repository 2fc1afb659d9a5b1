import Toolpath.Design.Element

/-!
The state of the machine while a design is walked.

A fragment overwrites the fields it sets. What a print move needs of the state, the area of the bead
and the feed for a volume, is computed from it or refused with the defect in it.
-/

namespace Toolpath

/-- The speeds in force, in mm per minute. -/
structure Speeds (α : Type) where
  print : α
  travel : α
deriving DecidableEq, Repr

/-- The extruder. -/
structure Extruder (α : Type) where
  feedUnit : FeedUnit
  filament : α
  relative : Bool
  travelForm : TravelForm
  on : Bool
  /-- How far the extruder axis has come, in feed units. -/
  total : α
  /-- The mode last announced to the machine, if any: whether it is relative. -/
  announced : Option Bool
deriving DecidableEq, Repr

/-- The cross-section of the bead, each field unset until a fragment sets it. -/
structure Bead (α : Type) where
  shape : Option BeadShape := none
  width : Option α := none
  height : Option α := none
  diameter : Option α := none
deriving DecidableEq, Repr

/-- All of the machine's state. -/
structure Machine (α : Type) where
  speeds : Speeds α
  extruder : Extruder α
  bead : Bead α
  /-- The last speed of the fan, in percent. -/
  fan : Option α
  /-- The last temperature asked of the hotend. -/
  hotend : Option α
  /-- The last temperature asked of the bed. -/
  bed : Option α
  /-- Where the tool is; nowhere until the first point. -/
  position : Option (Position α)
  /-- The color of the last point that had one. -/
  color : Option (Color α)
deriving DecidableEq, Repr

/-- A dimension of a bead. -/
inductive Dimension where
  | width
  | height
  | diameter
deriving DecidableEq, Repr

/-- What keeps the machine from extruding. -/
inductive Defect (α : Type) where
  /-- The diameter of the filament is no positive number. -/
  | filament (diameter : α)
  /-- No shape of bead was ever set. -/
  | noBead
  /-- A dimension that the shape needs was never set. -/
  | missing (shape : BeadShape) (dimension : Dimension)
  /-- A dimension that the shape needs is no positive number. -/
  | unusable (shape : BeadShape) (dimension : Dimension) (size : α)
deriving DecidableEq, Repr

variable {α : Type} [Scalar α]

/-- The speeds a machine starts with. -/
def Speeds.initial : Speeds α := ⟨1000.0, 8000.0⟩

/-- Overwrites the speeds that a fragment sets. -/
def Speeds.apply (f : SpeedFragment α) (s : Speeds α) : Speeds α :=
  ⟨f.print.getD s.print, f.travel.getD s.travel⟩

namespace Extruder

/-- The extruder a machine starts with. -/
def initial : Extruder α where
  feedUnit := .length
  filament := 1.75
  relative := false
  travelForm := .holding
  on := false
  total := 0.0
  announced := none

/-- Overwrites the fields that a fragment sets. -/
def apply (f : ExtruderFragment α) (e : Extruder α) : Extruder α :=
  { e with
    feedUnit := f.feedUnit.getD e.feedUnit
    filament := f.filament.getD e.filament
    relative := f.relative.getD e.relative
    travelForm := f.travelForm.getD e.travelForm }

/-- The feed for one mm³ of material. -/
def feedPerVolume (e : Extruder α) : Except (Defect α) α :=
  match e.feedUnit with
  | .volume => .ok 1.0
  | .length =>
    if Scalar.isUsable e.filament then .ok (1.0 / (Scalar.pi * Scalar.square (e.filament / 2.0)))
    else .error (.filament e.filament)

/-- Feeds by an amount. -/
def advance (amount : α) (e : Extruder α) : Extruder α := { e with total := e.total + amount }

/-- What is written on the extruder axis for a feed just made: the amount where the axis is
relative, else how far it has come. -/
def written (amount : α) (e : Extruder α) : α := if e.relative then amount else e.total

/-- What is written on the extruder axis to feed nothing. -/
def held (e : Extruder α) : α := if e.relative then 0.0 else e.total

end Extruder

namespace Bead

/-- Overwrites the fields that a fragment sets. -/
def apply (f : BeadFragment α) (b : Bead α) : Bead α where
  shape := f.shape <|> b.shape
  width := f.width <|> b.width
  height := f.height <|> b.height
  diameter := f.diameter <|> b.diameter

/-- A dimension, if it is set. -/
def size? (b : Bead α) : Dimension → Option α
  | .width => b.width
  | .height => b.height
  | .diameter => b.diameter

/-- A dimension that a shape needs, as a positive number. -/
def need (b : Bead α) (shape : BeadShape) (dimension : Dimension) : Except (Defect α) α :=
  match b.size? dimension with
  | some size => if Scalar.isUsable size then .ok size else .error (.unusable shape dimension size)
  | none => .error (.missing shape dimension)

/-- The area of the cross-section, in mm². -/
def area (b : Bead α) : Except (Defect α) α :=
  match b.shape with
  | none => .error .noBead
  | some .rectangle => do
    let width ← b.need .rectangle .width
    let height ← b.need .rectangle .height
    .ok (width * height)
  | some .stadium => do
    let width ← b.need .stadium .width
    let height ← b.need .stadium .height
    .ok ((width - height) * height + Scalar.pi * Scalar.square (height / 2.0))
  | some .circle => do
    let diameter ← b.need .circle .diameter
    .ok (Scalar.pi * Scalar.square (diameter / 2.0))

/-- The width and height to draw the bead with, zero where unset. -/
def extent (b : Bead α) : α × α :=
  match b.shape with
  | some .circle => (b.diameter.getD 0.0, b.diameter.getD 0.0)
  | _ => (b.width.getD 0.0, b.height.getD 0.0)

end Bead

/-- The machine before any element. -/
def Machine.initial : Machine α where
  speeds := .initial
  extruder := .initial
  bead := {}
  fan := none
  hotend := none
  bed := none
  position := none
  color := none

end Toolpath
