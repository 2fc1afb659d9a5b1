import Toolpath.Printer.Profile
import Toolpath.Plot.Drawing

/-!
Controls: which printer a design is for, what is set on top of the printer's settings, and how the
plot is drawn.
-/

namespace Toolpath

/-- The choice of a printer and the settings for it. -/
structure MachineControls (α : Type) where
  /-- A printer known by name. -/
  printerName : Option String := none
  /-- A printer given in full; it goes before a name. -/
  printer : Option (Profile α) := none
  /-- What is set on top of the printer's settings. -/
  initialization : Initialization α := {}
  /-- The primer instead of the printer's. -/
  primer : Option Primer := none

/-- Controls for a plot. -/
structure PlotControls (α : Type) where
  machine : MachineControls α := {}
  style : Plot.Style := {}
  /-- Whether the printer's procedures and primer are drawn too. -/
  showProcedures : Bool := false

/-- A printer and the settings to start it with. -/
structure Setup (α : Type) where
  profile : Profile α
  initialization : Initialization α

/-- Why controls choose no printer. -/
inductive ControlsError where
  | unknownPrinter (name : String)
deriving DecidableEq, Repr

/-- The text for an error. -/
def ControlsError.message : ControlsError → String
  | .unknownPrinter name => "unknown printer '" ++ name ++ "'"

namespace MachineControls

variable {α : Type} [Scalar α]

/-- The printer that is chosen, if one is. -/
def chosen (controls : MachineControls α) : Except ControlsError (Option (Profile α)) :=
  match controls.printer, controls.printerName with
  | some profile, _ => .ok (some profile)
  | none, some name =>
    match Profile.named? name with
    | some profile => .ok (some profile)
    | none => .error (.unknownPrinter name)
  | none, none => .ok none

/-- The printer and settings that controls stand for. Without a choice it is the bare printer, and
none of a printer's settings are made. -/
def resolve (controls : MachineControls α) : Except ControlsError (Setup α) := do
  let setup : Setup α := match ← controls.chosen with
    | some profile => ⟨profile, profile.initialization.overlaid controls.initialization⟩
    | none => ⟨.bare, controls.initialization⟩
  let primer := controls.primer.getD setup.profile.primer
  .ok { setup with profile := { setup.profile with primer } }

end MachineControls

end Toolpath
