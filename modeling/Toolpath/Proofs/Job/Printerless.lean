import Toolpath.Proofs.Job.Nesting
import Toolpath.Proofs.Job.Outcome
import Toolpath.Proofs.Motion.Failure

/-!
Jobs without a printer. No procedure is run and no setting of a printer is made, but a primer that is
chosen beside the printer is run all the same.
-/

namespace Toolpath

/-- The bare printer with a primer, if one is chosen. -/
def Profile.barePrimed {α : Type} [Scalar α] (primer : Option Primer) : Profile α :=
  { bare with primer := primer.getD .none }

theorem Profile.commands_barePrimed {α : Type} [Scalar α] (primer : Option Primer) :
    (barePrimed primer : Profile α).commands = .generic := by
  have marlin : Flavor.marlin.commands = .generic := by
    unfold Flavor.commands Flavor.table CommandTable.generic
    rfl
  funext id
  show (Table.find? id [] <|> Flavor.marlin.commands id) = _
  rw [Table.find?, marlin]
  rfl

theorem Profile.flatten_wrap_barePrimed {α : Type} [Scalar α] (primer : Option Primer)
    (design : Design α) : Design.flatten ((barePrimed primer).wrap design) =
      Design.flatten ((barePrimed primer).primerSteps design ++ design) := by
  rw [Profile.flatten_wrap, Design.flatten_append]
  show Design.flatten [] ++ (_ ++ (_ ++ Design.flatten [])) = _
  rw [Design.flatten, List.nil_append, List.append_nil]

namespace Job

/-- The primer is all that is put before a design, and nothing is put behind it. -/
theorem gcode_of_barePrimed (initialization : Initialization Float) (primer : Option Primer)
    (design : Design Float) :
    gcode { initialization, primer } design = (Gcode.ofDesign .generic initialization
      ((Profile.barePrimed primer).primerSteps design ++ design)).mapError .configuration := by
  have atSetup : setup { initialization, primer } =
      .ok ⟨Profile.barePrimed primer, initialization⟩ := rfl
  rw [gcode_of_setup atSetup, Profile.commands_barePrimed]
  unfold Gcode.ofDesign
  rw [Motion.render_congr _ _ _ (Profile.flatten_wrap_barePrimed primer design)]

/-- A feed on the spot behind a first point, from a filament without a diameter. -/
def starved : Design Float :=
  [.ofPoint { x := some 0.0, extrude := some false },
    .element (.extruder { feedUnit := some .length, filament := some 0.0 }),
    .ofEvent (.extrude 1.0 1.0)]

theorem starved_fails (initialization : Initialization Float) :
    Motion.run .generic initialization starved =
      .error ⟨2, "StationaryExtrusion", .filament 0.0⟩ := by
  have origin : Motion.fault? initialization []
      (.point { x := some 0.0, extrude := some false }) = none := rfl
  have configured : Motion.fault? initialization [.point { x := some 0.0, extrude := some false }]
      (.extruder { feedUnit := some .length, filament := some 0.0 }) = none := rfl
  refine Motion.runElements_eq_error.mpr ⟨_, .event (.extrude 1.0 1.0), [], rfl,
    ((Motion.Flawless.nil initialization).concat origin).concat configured, ?_⟩
  refine Motion.fault?_eq_some.mpr ⟨rfl, rfl, ?_⟩
  have unusable : ¬ Scalar.isUsable (0.0 : Float) = true := by decide +kernel
  show (if Scalar.isUsable (0.0 : Float) = true then none else some (Defect.filament 0.0)) = _
  rw [if_neg unusable]

theorem kind_behind_primer {primer : Primer} (chosen : primer ≠ .none) (first : Point Float)
    (rest : List (Element Float)) :
    ((Design.flatten (primer.steps first) ++ rest)[2]?).map Element.kind ≠
      some "StationaryExtrusion" := by
  cases primer with
  | none => exact absurd rfl chosen
  | travel =>
    show some "ExtruderToggle" ≠ some "StationaryExtrusion"
    decide
  | frontLinesThenY | frontLinesThenX | frontLinesThenXY | x | y =>
    show some "Point" ≠ some "StationaryExtrusion"
    decide

/-- Every primer shows: the fault of the design alone is at an element that the primer pushes back. -/
theorem starved_tells {primer : Option Primer} (chosen : primer.getD .none ≠ .none)
    (initialization : Initialization Float) :
    gcode { initialization, primer } starved ≠
      (Gcode.ofDesign .generic initialization starved).mapError .configuration := by
  intro same
  rw [gcode_of_barePrimed, Gcode.ofDesign, Gcode.ofDesign,
    Motion.render_of_error (starved_fails initialization)] at same
  cases primed : Motion.run .generic initialization
      ((Profile.barePrimed primer).primerSteps starved ++ starved) with
  | ok run =>
    rw [Motion.render_of_ok primed] at same
    cases same
  | error fault =>
    -- The primer may fail before the feed does, but not at the same place with the same kind.
    rw [Motion.render_of_error primed] at same
    cases same
    have kind := Motion.kind_of_fault primed
    rw [Design.flatten_append] at kind
    exact kind_behind_primer chosen _ _ kind

theorem gcode_unprimed {primer : Option Primer} (unprimed : primer.getD .none = .none)
    (initialization : Initialization Float) (design : Design Float) :
    gcode { initialization, primer } design =
      (Gcode.ofDesign .generic initialization design).mapError .configuration := by
  have still : Design.flatten ((Profile.barePrimed primer).primerSteps design ++ design) =
      Design.flatten design := by
    unfold Profile.primerSteps Profile.barePrimed
    rw [unprimed]
    cases Design.firstPoint design <;> rfl
  rw [gcode_of_barePrimed]
  unfold Gcode.ofDesign
  rw [Motion.render_congr _ _ _ still]

/-- Without a printer the G-code is that of the design with the generic commands and the given
settings, behind the primer that the controls choose. So it is that of the design alone, for every
design, just where they choose none. -/
theorem gcode_printerless (initialization : Initialization Float) (primer : Option Primer) :
    (∀ design, gcode { initialization, primer } design = (Gcode.ofDesign .generic initialization
      ((Profile.barePrimed primer).primerSteps design ++ design)).mapError .configuration) ∧
    ((∀ design, gcode { initialization, primer } design =
        (Gcode.ofDesign .generic initialization design).mapError .configuration) ↔
      primer.getD .none = .none) := by
  refine ⟨gcode_of_barePrimed initialization primer, ?_⟩
  constructor
  · intro alone
    by_contra chosen
    exact starved_tells chosen initialization (alone starved)
  · intro unprimed design
    exact gcode_unprimed unprimed initialization design

theorem primer_runs_printerless :
    ¬ ∀ (initialization : Initialization Float) (primer : Option Primer) (design : Design Float),
      gcode { initialization, primer } design =
        (Gcode.ofDesign .generic initialization design).mapError .configuration := by
  intro alone
  have same := alone {} (some .travel)
    [.ofPoint { x := some 1.0, y := some 2.0, z := some 3.0 }, .ofPoint { x := some 4.0 }]
  have ends := congrArg (fun result => result.toOption.isSome) same
  revert ends
  decide +kernel

end Job

end Toolpath
