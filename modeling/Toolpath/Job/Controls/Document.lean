import Toolpath.Job.Controls
import Toolpath.Printer.Profile.Document
import Toolpath.Plot.Document

/-!
Controls as documents. What chooses the machine is held back while the plot's own fields are read, so
its values may be written more freely than theirs.
-/

namespace Toolpath

/-- The choice of a machine from its fields. -/
def MachineControls.ofFields (r : Reading) (fields : List (String × Value)) :
    Except DecodeError (MachineControls Float) := do
  let held := r.holding
  let record := Record.named fields
  .ok {
    printerName := ← record.optional 0 "printer_name" Decode.string
    printer := ← record.optional 1 "printer" (Profile.ofValue held)
    initialization := ← record.fieldOr 2 "initialization_data" {} (Initialization.ofValue held)
    primer := ← record.optional 3 "primer" (Decode.choice Primer.choices held) }

/-- The choice of a machine from an object. -/
def MachineControls.ofValue (r : Reading) : Value → Except DecodeError (MachineControls Float)
  | .object fields => ofFields r fields
  | other => .error (.unexpected other.kind)

/-- Controls for a plot from an object. -/
def PlotControls.ofValue (r : Reading) : Value → Except DecodeError (PlotControls Float)
  | .object fields => do
    let record := Record.named fields
    let mode ← record.fieldOr 0 "color_type" .height (Decode.choice Plot.ColorMode.choices r)
    let hideTravel ← record.fieldOr 1 "hide_travel" false Decode.bool
    let showProcedures ← record.fieldOr 2 "show_procedures" false Decode.bool
    let machine ← MachineControls.ofFields r fields
    .ok { machine, style := { mode, hideTravel }, showProcedures }
  | other => .error (.unexpected other.kind)

/-- Controls for G-code from TOML text. -/
def MachineControls.ofToml? (text : String) : Option (MachineControls Float) :=
  (Toml.read? text).bind fun value => (MachineControls.ofValue ⟨.toml, false⟩ value).toOption

/-- Controls for a plot from TOML text. -/
def PlotControls.ofToml? (text : String) : Option (PlotControls Float) :=
  (Toml.read? text).bind fun value => (PlotControls.ofValue ⟨.toml, false⟩ value).toOption

/-- The fields of a choice of a machine. -/
def MachineControls.toFields (controls : MachineControls Float) : List (String × Value) :=
  [("printer_name", (controls.printerName.map .string).getD .null),
    ("printer", (controls.printer.map Profile.toValue).getD .null),
    ("initialization_data", controls.initialization.toValue),
    ("primer", (controls.primer.map fun primer => .string primer.word).getD .null)]

/-- A choice of a machine as an object. -/
def MachineControls.toValue (controls : MachineControls Float) : Value := .object controls.toFields

/-- Controls for a plot as an object. -/
def PlotControls.toValue (controls : PlotControls Float) : Value :=
  .object <|
    [("color_type", .string controls.style.mode.word),
      ("hide_travel", .bool controls.style.hideTravel),
      ("show_procedures", .bool controls.showProcedures)]
    ++ controls.machine.toFields

end Toolpath
