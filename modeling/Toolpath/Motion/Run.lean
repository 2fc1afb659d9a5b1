import Toolpath.Motion.Visit
import Toolpath.Machine.Initialization
import Toolpath.Design.Step

/-!
A walk over a whole design.

The elements are numbered first, those of the prologue with zero, and then visited one after the
other. The walk gives one list of emissions, and every kind of output is made from that list, so what
is emitted cannot depend on the output.
-/

namespace Toolpath

/-- What a walk gives: the machine at the end, all emissions, and all remarks in their places. -/
structure Run (α : Type) where
  machine : Machine α
  emissions : List (Emission α)
  diagnostics : List (Diagnostic α)

/-- An output made from a walk, with the remarks on the design. -/
structure Transformed (α β : Type) where
  output : β
  diagnostics : List (Diagnostic α)

/-- An element and the number it is reported under. -/
abbrev Numbered (α : Type) := Element α × Nat

namespace Motion

variable {α : Type} [Scalar α]

/-- What one element does, reported under its number and kind. -/
def step (commands : CommandTable) (machine : Machine α) (numbered : Numbered α) :
    Except (Fault α) (Run α) :=
  let (element, index) := numbered
  match machine.visit commands element with
  | .ok outcome =>
    .ok ⟨outcome.machine, outcome.emissions, outcome.remarks.map (⟨index, element.kind, ·⟩)⟩
  | .error defect => .error ⟨index, element.kind, defect⟩

/-- Visits elements in order. -/
def walk (commands : CommandTable) (machine : Machine α) :
    List (Numbered α) → Except (Fault α) (Run α)
  | [] => .ok ⟨machine, [], []⟩
  | numbered :: rest => do
    let first ← step commands machine numbered
    let later ← walk commands first.machine rest
    .ok ⟨later.machine, first.emissions ++ later.emissions,
      first.diagnostics ++ later.diagnostics⟩

/-- The elements of a walk: the prologue under zero, then the design under its own numbers. -/
def script (initialization : Initialization α) (elements : List (Element α)) :
    List (Numbered α) :=
  initialization.prologue.map (·, 0) ++ elements.zipIdx

/-- The remarks on the names that an initialization does not know. -/
def unknownKeys (initialization : Initialization α) : List (Diagnostic α) :=
  initialization.unrecognized.map fun entry => ⟨0, "InitializationData", .unrecognized entry.1⟩

/-- Walks over the elements of a flattened design. -/
def runElements (commands : CommandTable) (initialization : Initialization α)
    (elements : List (Element α)) : Except (Fault α) (Run α) := do
  let run ← walk commands .initial (script initialization elements)
  .ok { run with diagnostics := unknownKeys initialization ++ run.diagnostics }

/-- Walks over a design. -/
def run (commands : CommandTable) (initialization : Initialization α) (design : Design α) :
    Except (Fault α) (Run α) :=
  runElements commands initialization (Design.flatten design)

/-- Walks over a design and makes an output of what is emitted. -/
def render {β : Type} (output : List (Emission α) → β) (commands : CommandTable)
    (initialization : Initialization α) (design : Design α) :
    Except (Fault α) (Transformed α β) :=
  (run commands initialization design).map fun run => ⟨output run.emissions, run.diagnostics⟩

end Motion

end Toolpath
