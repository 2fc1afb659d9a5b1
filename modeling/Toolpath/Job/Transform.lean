import Toolpath.Job.Controls
import Toolpath.Gcode.Page
import Toolpath.Design.Decode

/-!
From a design and controls to an output. G-code is always for the design within the printer's
procedures; a plot shows the procedures only if asked to.
-/

namespace Toolpath

/-- Why a design gives no output. -/
inductive TransformError (α : Type) where
  | configuration (fault : Fault α)
  /-- A leaf of a document, under its place among the leaves, is no element. -/
  | malformed (index : Nat) (kind : String)
  | notJson
  | controls (cause : ControlsError)

/-- What controls ask for. -/
inductive Controls (α : Type) where
  | gcode (controls : MachineControls α)
  | plot (controls : PlotControls α)

/-- An output of either kind. -/
inductive Rendered (α : Type) where
  | gcode (text : String)
  | plot (drawing : Plot.Drawing α)

namespace Job

/-- The error for a text that is no design. -/
def importFailure {α : Type} : ImportError → TransformError α
  | .notJson => .notJson
  | .unknownElement index kind _ => .malformed index kind

/-- The printer and settings of controls. -/
def setup {α : Type} [Scalar α] (controls : MachineControls α) :
    Except (TransformError α) (Setup α) :=
  controls.resolve.mapError .controls

/-- The G-code of a design within its printer's procedures. -/
def gcode (controls : MachineControls Float) (design : Design Float) :
    Except (TransformError Float) (Transformed Float String) := do
  let ⟨profile, initialization⟩ ← setup controls
  (Gcode.ofDesign profile.commands initialization (profile.wrap design)).mapError .configuration

/-- The plot of a design, within its printer's procedures if controls ask for it. -/
def plot {α : Type} [Scalar α] (controls : PlotControls α) (design : Design α) :
    Except (TransformError α) (Transformed α (Plot.Drawing α)) := do
  let ⟨profile, initialization⟩ ← setup controls.machine
  let shown := if controls.showProcedures then profile.wrap design else design
  (Plot.Drawing.ofDesign controls.style profile.commands initialization shown).mapError
    .configuration

/-- The output of a design that controls ask for. -/
def transform (controls : Controls Float) (design : Design Float) :
    Except (TransformError Float) (Transformed Float (Rendered Float)) :=
  match controls with
  | .gcode controls => (gcode controls design).map fun t => ⟨.gcode t.output, t.diagnostics⟩
  | .plot controls => (plot controls design).map fun t => ⟨.plot t.output, t.diagnostics⟩

/-- The output of a design given as JSON text. -/
def transformJson (controls : Controls Float) (text : String) :
    Except (TransformError Float) (Transformed Float (Rendered Float)) := do
  let design ← (Design.ofJson text).mapError importFailure
  transform controls design

/-- The outputs of several designs in their order; one that fails does not keep the others. -/
def transformAll (controls : Controls Float) (designs : List (Design Float)) :
    List (Except (TransformError Float) (Transformed Float (Rendered Float))) :=
  designs.map (transform controls)

end Job

end Toolpath
