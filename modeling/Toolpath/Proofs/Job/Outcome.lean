import Toolpath.Job.Transform
import Toolpath.Proofs.Motion.Walk

/-!
G-code as the page of one walk: the controls choose a printer and settings, and the walk is over the
design between the procedures of that printer. A plot is the drawing of a walk over the design between the
procedures or without them.
-/

namespace Toolpath.Job

variable {controls : MachineControls Float} {design : Design Float}

theorem gcode_of_setup {profile : Profile Float} {initialization : Initialization Float}
    (atSetup : setup controls = .ok ⟨profile, initialization⟩) (design : Design Float) :
    gcode controls design = (Gcode.ofDesign profile.commands initialization
      (profile.wrap design)).mapError .configuration := by
  rw [gcode, atSetup]
  rfl

theorem plot_eq_ofDesign {α : Type} [Scalar α] {controls : PlotControls α} {profile : Profile α}
    {initialization : Initialization α} (atSetup : setup controls.machine = .ok ⟨profile, initialization⟩)
    (design : Design α) : plot controls design = (Plot.Drawing.ofDesign controls.style profile.commands
      initialization (if controls.showProcedures then profile.wrap design else design)).mapError
        .configuration := by
  rw [plot, atSetup]
  rfl

theorem gcode_eq_ok {transformed : Transformed Float String} :
    gcode controls design = .ok transformed ↔ ∃ chosen run, setup controls = .ok chosen ∧
      Motion.run chosen.profile.commands chosen.initialization (chosen.profile.wrap design) =
        .ok run ∧
      transformed = ⟨(Gcode.Page.ofEmissions run.emissions).text, run.diagnostics⟩ := by
  constructor
  · intro ok
    cases atSetup : setup controls with
    | error error =>
      rw [gcode, atSetup] at ok
      cases ok
    | ok chosen =>
      obtain ⟨profile, initialization⟩ := chosen
      rw [gcode_of_setup atSetup, Gcode.ofDesign] at ok
      cases walked : Motion.run profile.commands initialization (profile.wrap design) with
      | error fault =>
        rw [Motion.render_of_error walked] at ok
        cases ok
      | ok run =>
        rw [Motion.render_of_ok walked] at ok
        cases ok
        exact ⟨_, run, rfl, walked, rfl⟩
  · rintro ⟨⟨profile, initialization⟩, run, atSetup, walked, rfl⟩
    rw [gcode_of_setup atSetup, Gcode.ofDesign, Motion.render_of_ok walked]
    rfl

theorem gcode_eq_error_of_run {chosen : Setup Float} (atSetup : setup controls = .ok chosen)
    {fault : Fault Float} :
    gcode controls design = .error (.configuration fault) ↔
      Motion.run chosen.profile.commands chosen.initialization (chosen.profile.wrap design) =
        .error fault := by
  rw [gcode_of_setup atSetup, Gcode.ofDesign]
  cases ends : Motion.run chosen.profile.commands chosen.initialization (chosen.profile.wrap design) with
  | ok run =>
    rw [Motion.render_of_ok ends]
    constructor <;> intro fails <;> cases fails
  | error other =>
    rw [Motion.render_of_error ends]
    constructor <;> intro fails <;> cases fails <;> rfl

end Toolpath.Job
