import Toolpath.Proofs.Job.Outcome
import Toolpath.Proofs.Motion.Unplotted

/-!
G-code and what only a plot shows. The labels and colors of a design change nothing in its G-code; this
goes for the primer too, which may copy the first point with its color.
-/

namespace Toolpath

variable {α : Type}

/-- A design without its labels and the colors of its points. -/
def Design.unplotted (design : Design α) : Design α := Design.edit Element.unplotted design

theorem Element.point?_unplotted (element : Element α) :
    element.unplotted.bind Element.point? = element.point?.map Point.uncolored := by
  cases element with
  | point | speeds | extruder | bead => rfl
  | event event => cases event <;> rfl

section Walk

variable [Scalar α]

theorem Primer.filterMap_unplotted_steps (primer : Primer) (first : Point α) :
    (Design.flatten (primer.steps first.uncolored)).filterMap Element.unplotted =
      (Design.flatten (primer.steps first)).filterMap Element.unplotted := by
  cases primer <;> rfl

/-- Between the procedures, a design and the one without labels and colors differ in these alone. -/
theorem Profile.filterMap_unplotted_wrap (profile : Profile α) (design : Design α) :
    (Design.flatten (profile.wrap design.unplotted)).filterMap Element.unplotted =
      (Design.flatten (profile.wrap design)).filterMap Element.unplotted :=
  Erasure.filterMap_wrap .unplotted Element.unplotted_unplotted Element.point?_unplotted
    Primer.filterMap_unplotted_steps profile design

/-- Runs over elements that differ in labels and colors alone tell the same. -/
theorem Motion.unplotted_runElements_congr (commands : CommandTable) (initialization : Initialization α)
    {elements others : List (Element α)}
    (same : elements.filterMap Element.unplotted = others.filterMap Element.unplotted) :
    unplotted (runElements commands initialization elements) =
      unplotted (runElements commands initialization others) :=
  (Erasure.unplotted_isBlind commands).ending_congr initialization same

end Walk

/-- A label is not written, and no line hangs on a color. -/
theorem Gcode.ofEmissions_unplotted (emissions : List (Emission Float)) :
    ofEmissions (emissions.filterMap Emission.unplotted) = ofEmissions emissions := by
  have same (page : Page) : (emissions.filterMap Emission.unplotted).foldl
      (fun page emission => page.take emission.action) page =
        emissions.foldl (fun page emission => page.take emission.action) page := by
    induction emissions generalizing page with
    | nil => rfl
    | cons emission rest ih =>
      obtain ⟨action, machine⟩ := emission
      cases action <;> exact ih _
  exact congrArg Page.text (same {})

namespace Job

/-- An error without the place that it names. -/
def unplaced {α : Type} : TransformError α → TransformError α
  | .configuration fault => .configuration (fault.renumbered fun _ => 0)
  | error => error

/-- Jobs that look the same up to the places that errors name have the same output, and fail for the same
reason. -/
theorem output_and_cause_congr {α β : Type}
    {first second : Except (TransformError α) (Transformed α β)}
    (same : (first.map (·.output)).mapError unplaced = (second.map (·.output)).mapError unplaced) :
    first.toOption.map (·.output) = second.toOption.map (·.output) ∧
      (cause? first).map unplaced = (cause? second).map unplaced := by
  have output (result : Except (TransformError α) (Transformed α β)) : result.toOption.map (·.output) =
      ((result.map (·.output)).mapError unplaced).toOption := by
    cases result <;> rfl
  have error (result : Except (TransformError α) (Transformed α β)) : (cause? result).map unplaced =
      cause? ((result.map (·.output)).mapError unplaced) := by
    cases result <;> rfl
  rw [output, output, error, error, same]
  exact ⟨rfl, rfl⟩

/-- What there is to read of a job: its text, or why there is none. -/
def reading (result : Except (TransformError Float) (Transformed Float String)) :
    Except (TransformError Float) String :=
  (result.map (·.output)).mapError unplaced

theorem reading_ofDesign (commands : CommandTable) (initialization : Initialization Float)
    (design : Design Float) :
    reading ((Gcode.ofDesign commands initialization design).mapError .configuration) =
      ((Motion.unplotted (Motion.run commands initialization design)).map
        Gcode.ofEmissions).mapError .configuration := by
  unfold Gcode.ofDesign Motion.render
  cases Motion.run commands initialization design with
  | error fault => rfl
  | ok run => exact congrArg Except.ok (Gcode.ofEmissions_unplotted run.emissions).symm

theorem reading_gcode_unplotted (controls : MachineControls Float) (design : Design Float) :
    reading (gcode controls design.unplotted) = reading (gcode controls design) := by
  cases atSetup : setup controls with
  | error error =>
    have fails (design : Design Float) : gcode controls design = .error error := by
      rw [gcode, atSetup]
      rfl
    rw [fails, fails]
  | ok chosen =>
    obtain ⟨profile, initialization⟩ := chosen
    rw [gcode_of_setup atSetup, gcode_of_setup atSetup, reading_ofDesign, reading_ofDesign,
      Motion.run, Motion.run, Motion.unplotted_runElements_congr _ _
        (profile.filterMap_unplotted_wrap design)]

/-- G-code ignores what only a plot shows. Without its labels and the colors of its points a design
succeeds just where it did, with the same text to the last character; and where it fails, it fails for
the same reason, if maybe under another number. -/
theorem gcode_unplotted (controls : MachineControls Float) (design : Design Float) :
    (gcode controls design.unplotted).toOption.map (·.output) =
      (gcode controls design).toOption.map (·.output) ∧
    (cause? (gcode controls design.unplotted)).map unplaced =
      (cause? (gcode controls design)).map unplaced :=
  output_and_cause_congr (reading_gcode_unplotted controls design)

end Job

end Toolpath
