import Toolpath.Proofs.Job.PlotOnly
import Toolpath.Proofs.Plot.Drawn

/-!
Plots and what only the machine is told. The speeds, the modes of the extruder axis, the devices and the
texts of a design change nothing in its plot, with the printer's procedures around it or without.
-/

namespace Toolpath

variable {α : Type}

/-- A design without what only the machine is told. -/
def Design.drawn (design : Design α) : Design α := Design.edit Element.drawn design

variable [Scalar α]

theorem Primer.filterMap_drawn_steps (primer : Primer) (first : Point α) :
    (Design.flatten (primer.steps first.unpaced)).filterMap Element.drawn =
      (Design.flatten (primer.steps first)).filterMap Element.drawn := by
  cases primer <;> rfl

theorem Profile.filterMap_drawn_wrap (profile : Profile α) (design : Design α) :
    (Design.flatten (profile.wrap design.drawn)).filterMap Element.drawn =
      (Design.flatten (profile.wrap design)).filterMap Element.drawn :=
  Erasure.filterMap_wrap .drawn Element.drawn_drawn Element.point?_drawn
    Primer.filterMap_drawn_steps profile design

namespace Job

open Plot (Drawing)

/-- What there is to look at of a job: its plot, or why there is none. -/
def picture (result : Except (TransformError α) (Transformed α (Drawing α))) :
    Except (TransformError α) (Drawing α) :=
  (result.map (·.output)).mapError unplaced

theorem picture_ofDesign (style : Plot.Style) (commands : CommandTable)
    (initialization : Initialization α) (design : Design α) :
    picture ((Drawing.ofDesign style commands initialization design).mapError .configuration) =
      ((Erasure.drawn.ending (Motion.run commands initialization design)).map
        (Drawing.ofEmissions style)).mapError .configuration := by
  unfold Drawing.ofDesign Motion.render
  cases Motion.run commands initialization design with
  | error fault => rfl
  | ok run => exact congrArg Except.ok (Drawing.ofEmissions_drawn style run.emissions).symm

theorem picture_plot_drawn (controls : PlotControls α) (design : Design α) :
    picture (plot controls design.drawn) = picture (plot controls design) := by
  cases atSetup : setup controls.machine with
  | error error =>
    have fails (design : Design α) : plot controls design = .error error := by
      rw [plot, atSetup]
      rfl
    rw [fails, fails]
  | ok chosen =>
    obtain ⟨profile, initialization⟩ := chosen
    have bare : (Design.flatten design.drawn).filterMap Element.drawn =
        (Design.flatten design).filterMap Element.drawn :=
      Erasure.filterMap_edit .drawn Element.drawn_drawn design
    have shown : (Design.flatten (if controls.showProcedures then profile.wrap design.drawn
          else design.drawn)).filterMap Element.drawn =
        (Design.flatten (if controls.showProcedures then profile.wrap design
          else design)).filterMap Element.drawn := by
      cases controls.showProcedures with
      | true => exact profile.filterMap_drawn_wrap design
      | false => exact bare
    have looks := (Erasure.drawn_isBlind profile.commands).ending_congr initialization shown
    rw [plot_eq_ofDesign atSetup, plot_eq_ofDesign atSetup, picture_ofDesign, picture_ofDesign, Motion.run,
      Motion.run, looks]

/-- A plot ignores what only the machine is told. Without it a design succeeds just where it did, with
the same plot; and where it fails, it fails for the same reason, if maybe under another number. -/
theorem plot_drawn (controls : PlotControls α) (design : Design α) :
    (plot controls design.drawn).toOption.map (·.output) =
      (plot controls design).toOption.map (·.output) ∧
    (cause? (plot controls design.drawn)).map unplaced =
      (cause? (plot controls design)).map unplaced :=
  output_and_cause_congr (picture_plot_drawn controls design)

end Job

end Toolpath
