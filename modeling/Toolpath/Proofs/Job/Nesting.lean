import Toolpath.Job.Transform
import Toolpath.Proofs.Motion.Walk

/-!
Groups are for the author alone. A job reads a design only through its flattened form, although it
looks for the first point in the tree and puts the tree into groups of its own before it is flattened.
-/

namespace Toolpath

variable {α : Type}

/-- The first point in a tree is the first element of its flattened form that is a point. -/
theorem Design.firstPoint_eq_head? (design : Design α) :
    Design.firstPoint design = ((Design.flatten design).filterMap Element.point?).head? := by
  rw [Design.firstPoint_eq_findSome?, List.head?_filterMap]

theorem Design.firstPoint_congr {design other : Design α}
    (same : Design.flatten design = Design.flatten other) :
    Design.firstPoint design = Design.firstPoint other := by
  rw [Design.firstPoint_eq_findSome?, Design.firstPoint_eq_findSome?, same]

section Walk

variable [Scalar α]

theorem Profile.flatten_wrap (profile : Profile α) (design : Design α) :
    Design.flatten (profile.wrap design) =
      Design.flatten profile.startingProcedure ++ (Design.flatten (profile.primerSteps design) ++
        (Design.flatten design ++ Design.flatten profile.endingProcedure)) := by
  simp only [Profile.wrap, Design.flatten, Step.flatten, List.append_nil]

/-- The primer is aimed at the first point, so it leads to the same place for both designs. -/
theorem Profile.flatten_wrap_congr (profile : Profile α) {design other : Design α}
    (same : Design.flatten design = Design.flatten other) :
    Design.flatten (profile.wrap design) = Design.flatten (profile.wrap other) := by
  have primed : profile.primerSteps design = profile.primerSteps other := by
    unfold Profile.primerSteps
    rw [Design.firstPoint_congr same]
  rw [Profile.flatten_wrap, Profile.flatten_wrap, primed, same]

theorem Motion.run_congr (commands : CommandTable) (initialization : Initialization α)
    {design other : Design α} (same : Design.flatten design = Design.flatten other) :
    Motion.run commands initialization design = Motion.run commands initialization other := by
  unfold Motion.run
  rw [same]

theorem Motion.render_congr {β : Type} (output : List (Emission α) → β) (commands : CommandTable)
    (initialization : Initialization α) {design other : Design α}
    (same : Design.flatten design = Design.flatten other) :
    Motion.render output commands initialization design =
      Motion.render output commands initialization other := by
  unfold Motion.render
  rw [Motion.run_congr commands initialization same]

end Walk

namespace Job

theorem gcode_congr (controls : MachineControls Float) {design other : Design Float}
    (same : Design.flatten design = Design.flatten other) :
    gcode controls design = gcode controls other := by
  unfold gcode Gcode.ofDesign
  refine bind_congr fun ⟨profile, initialization⟩ => ?_
  have wrapped := profile.flatten_wrap_congr same
  simp only [Motion.render_congr _ _ _ wrapped]

theorem plot_congr (controls : PlotControls Float) {design other : Design Float}
    (same : Design.flatten design = Design.flatten other) :
    plot controls design = plot controls other := by
  unfold plot Plot.Drawing.ofDesign
  refine bind_congr fun ⟨profile, initialization⟩ => ?_
  have wrapped := profile.flatten_wrap_congr same
  cases controls.showProcedures with
  | true => simp only [if_true, Motion.render_congr _ _ _ wrapped]
  | false => simp only [Bool.false_eq_true, if_false, Motion.render_congr _ _ _ same]

theorem transform_congr (controls : Controls Float) {design other : Design Float}
    (same : Design.flatten design = Design.flatten other) :
    transform controls design = transform controls other := by
  cases controls with
  | gcode controls => simp only [transform, gcode_congr controls same]
  | plot controls => simp only [transform, plot_congr controls same]

/-- Designs with one flattened form give one result, for all controls: the same output with the same
remarks, or the same error at the same place. So does a design and the list of its elements; the
first point, at which the primer is aimed, is found in the tree where it is in the list. -/
theorem nesting_is_invisible (design : Design Float) :
    (∀ other : Design Float, Design.flatten design = Design.flatten other →
      (∀ controls, gcode controls design = gcode controls other) ∧
        (∀ controls, plot controls design = plot controls other) ∧
        ∀ controls, transform controls design = transform controls other) ∧
    (∀ controls, gcode controls design =
      gcode controls (Design.ofElements (Design.flatten design))) ∧
    (∀ controls, plot controls design =
      plot controls (Design.ofElements (Design.flatten design))) ∧
    Design.firstPoint design =
      ((Design.flatten design).filterMap Element.point?).head? := by
  have flat : Design.flatten design =
      Design.flatten (Design.ofElements (Design.flatten design)) :=
    (Design.flatten_ofElements _).symm
  refine ⟨?_, fun controls => gcode_congr controls flat, fun controls => plot_congr controls flat,
    design.firstPoint_eq_head?⟩
  intro other same
  exact ⟨fun controls => gcode_congr controls same, fun controls => plot_congr controls same,
    fun controls => transform_congr controls same⟩

/-- Empty groups, and groups without a point, stand before the first point. -/
def nested : Design Float :=
  [.group [], .group [.ofRaw "M400", .group [.group []]],
    .group [.group [.ofPoint { x := some 1.0, y := some 2.0, z := some 3.0 }], .ofSwitch false],
    .ofPoint { x := some 4.0 }]

/-- The same elements in other groups. -/
def regrouped : Design Float :=
  [.ofRaw "M400", .ofPoint { x := some 1.0, y := some 2.0, z := some 3.0 },
    .group [.ofSwitch false, .ofPoint { x := some 4.0 }, .group []]]

theorem nesting_is_invisible_primed :
    let primed : MachineControls Float := { primer := some .travel }
    Design.flatten nested = Design.flatten regrouped ∧
      gcode primed nested = gcode primed regrouped ∧
      (gcode primed nested).toOption.map (·.output) =
        some "G1 X1 Y2 Z3 F8000\nM400\nG1 X4 E0 F8000" := by
  have same : Design.flatten nested = Design.flatten regrouped := by
    simp [nested, regrouped, Design.flatten, Step.flatten, Step.ofRaw, Step.ofPoint, Step.ofSwitch,
      Step.ofEvent]
  refine ⟨same, ((nesting_is_invisible nested).1 regrouped same).1 _, ?_⟩
  decide +kernel

end Job

end Toolpath
