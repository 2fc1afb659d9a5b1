import Toolpath.Motion.Run
import Toolpath.Plot.Bounds
import Toolpath.Plot.Coloring

/-!
The plot of a design: the paths of the tool from the emissions of a walk.

A new path starts at the tool's place whenever the extruder is switched. Paths that never leave their
first vertex are left out, but every place counts for the box.
-/

namespace Toolpath.Plot

/-- A place of the tool, with what is needed to draw it. -/
structure Vertex (α : Type) where
  position : Position α
  width : α
  height : α
  /-- The color of the design there, if it has set one. -/
  color : Option (Color α)

/-- A path while it is drawn: its vertices, the last one first. -/
structure Trail (α : Type) where
  on : Bool
  vertices : List (Vertex α)

/-- What is drawn so far, the last of everything first. -/
structure Sketch (α : Type) where
  trails : List (Trail α) := []
  visited : List (Position α) := []
  markers : List (String × Position α) := []

variable {α : Type}

/-- The vertex for a place, with the bead and the color of the machine. -/
def Vertex.of [Scalar α] (position : Position α) (machine : Machine α) : Vertex α :=
  ⟨position, machine.bead.extent.1, machine.bead.extent.2, machine.color⟩

/-- The path that starts where the machine is. -/
def Trail.start [Scalar α] (machine : Machine α) : Trail α :=
  ⟨machine.extruder.on, (machine.position.map (Vertex.of · machine)).toList⟩

namespace Sketch

variable [Scalar α]

/-- Starts a path. -/
def branch (sketch : Sketch α) (machine : Machine α) : Sketch α :=
  { sketch with trails := .start machine :: sketch.trails }

/-- Goes to a place: the first one starts a path. -/
def visit (sketch : Sketch α) (target : Position α) (machine : Machine α) : Sketch α :=
  match sketch.trails with
  | [] => { sketch.branch machine with visited := target :: sketch.visited }
  | trail :: others =>
    let trail := { trail with vertices := .of target machine :: trail.vertices }
    { sketch with trails := trail :: others, visited := target :: sketch.visited }

/-- Takes in an emission. -/
def take (sketch : Sketch α) (emission : Emission α) : Sketch α :=
  match emission.action with
  | .move move => sketch.visit move.target emission.machine
  | .toggled _ =>
    if emission.machine.position.isSome then sketch.branch emission.machine else sketch
  | .marker label position => { sketch with markers := (label, position) :: sketch.markers }
  | _ => sketch

/-- The sketch of some emissions. -/
def ofEmissions (emissions : List (Emission α)) : Sketch α := emissions.foldl take {}

/-- The box around all places. -/
def box (sketch : Sketch α) : Box α := .around sketch.visited.reverse

/-- The paths in order that are drawn: with two vertices or more, and extruding if travel is
hidden. -/
def kept (sketch : Sketch α) (hideTravel : Bool) : List (Trail α) :=
  (sketch.trails.reverse.map fun trail => { trail with vertices := trail.vertices.reverse }).filter
    fun trail => decide (1 < trail.vertices.length) && (trail.on || !hideTravel)

end Sketch

/-- A vertex with its color. -/
structure Dot (α : Type) where
  position : Position α
  width : α
  height : α
  color : Color α

/-- A path of the plot. -/
structure Path (α : Type) where
  dots : List (Dot α)
  on : Bool

/-- The plot of a design. -/
structure Drawing (α : Type) where
  paths : List (Path α)
  box : Box α
  markers : List (String × Position α)

/-- How a plot is drawn. -/
structure Style where
  mode : ColorMode := .height
  hideTravel : Bool := false
deriving DecidableEq, Repr

/-- What the color of a vertex may depend on: the box, and how many paths and vertices there are. -/
structure Palette (α : Type) where
  mode : ColorMode
  box : Box α
  pathCount : Nat
  vertexCount : Nat

/-- How many waves the wave mode goes through. -/
def waveCount : Nat := 5

variable [Scalar α]

/-- The color of a vertex, given the places of its path and of itself. -/
def Palette.color (palette : Palette α) (on : Bool) (path place : Nat) (vertex : Vertex α) : Color α :=
  match palette.mode, on with
  | .manual, _ => vertex.color.getD defaultColor
  | _, false => travelColor
  | .height, true => heightColor vertex.position.z palette.box.z.least palette.box.z.range
  | .sequence, true => sequenceColor path palette.pathCount
  | .waves, true => waveColor place palette.vertexCount waveCount

/-- A vertex with its color put on. -/
def Palette.dot (palette : Palette α) (on : Bool) (path place : Nat) (vertex : Vertex α) : Dot α :=
  ⟨vertex.position, vertex.width, vertex.height, palette.color on path place vertex⟩

/-- Paths with their colors put on, given how many paths and vertices went before. -/
def Palette.paint (palette : Palette α) (path place : Nat) : List (Trail α) → List (Path α)
  | [] => []
  | trail :: rest =>
    let dots := (trail.vertices.zipIdx place).map fun (vertex, place) =>
      palette.dot trail.on path place vertex
    ⟨dots, trail.on⟩ :: paint palette (path + 1) (place + trail.vertices.length) rest

/-- The plot of some emissions. -/
def Drawing.ofEmissions (style : Style) (emissions : List (Emission α)) : Drawing α :=
  let sketch := Sketch.ofEmissions emissions
  let kept := sketch.kept style.hideTravel
  let vertexCount := kept.foldl (fun count trail => count + trail.vertices.length) 0
  let palette : Palette α := ⟨style.mode, sketch.box, kept.length, vertexCount⟩
  ⟨palette.paint 0 0 kept, sketch.box, sketch.markers.reverse⟩

/-- The plot of a design, with nothing around it. -/
def Drawing.ofDesign (style : Style) (commands : CommandTable) (initialization : Initialization α)
    (design : Design α) : Except (Fault α) (Transformed α (Drawing α)) :=
  Motion.render (Drawing.ofEmissions style) commands initialization design

end Toolpath.Plot
