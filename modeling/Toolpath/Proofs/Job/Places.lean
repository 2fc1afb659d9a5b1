import Toolpath.Proofs.Job.Nesting
import Toolpath.Proofs.Job.Outcome
import Toolpath.Proofs.Motion.Failure
import Toolpath.Proofs.Motion.Remarks

/-!
The places that a job tells of. A job numbers the elements of a design from where the starting procedure
begins, so whatever it tells of the design is moved by all that is put before it.
-/

namespace Toolpath

section Reports

variable {α : Type} [Scalar α]

/-- What primers consist of: points, texts and switches. -/
def Element.isPriming : Element α → Bool
  | .point _ | .event (.raw _) | .event (.toggle _) => true
  | _ => false

/-- Whether an element of a kind stands at a place of a design. -/
def Design.HasKind (design : Design α) (index : Nat) (kind : String) : Prop :=
  (Design.flatten design)[index]?.map Element.kind = some kind

namespace Setup

/-- What is put before a design. -/
def lead (chosen : Setup α) (design : Design α) : List (Element α) :=
  Design.flatten chosen.profile.startingProcedure ++
    Design.flatten (chosen.profile.primerSteps design)

theorem flatten_wrap (chosen : Setup α) (design : Design α) :
    Design.flatten (chosen.profile.wrap design) = chosen.lead design ++ Design.flatten design ++
      Design.flatten chosen.profile.endingProcedure := by
  rw [Profile.flatten_wrap, lead]
  simp only [List.append_assoc]

/-- What there is to say of the primer, behind the starting procedure. -/
def primerReports (chosen : Setup α) (design : Design α) : List (Diagnostic α) :=
  Motion.reportsBehind chosen.profile.commands
    (Design.flatten chosen.profile.startingProcedure)
    (Design.flatten (chosen.profile.primerSteps design))

/-- What there is to say of a design, behind what is put before it. -/
def designReports (chosen : Setup α) (design : Design α) : List (Diagnostic α) :=
  Motion.reportsBehind chosen.profile.commands (chosen.lead design) (Design.flatten design)

/-- There is nothing to say of the settings and of the printer's own procedures. -/
structure IsSilent (chosen : Setup α) (design : Design α) : Prop where
  known : chosen.initialization.unrecognized = []
  finite : ∀ percent, chosen.initialization.fan = some percent → Scalar.isFinite percent = true
  starting : Motion.reports chosen.profile.commands
    (Design.flatten chosen.profile.startingProcedure) = []
  ending : Motion.reportsBehind chosen.profile.commands (chosen.lead design ++ Design.flatten design)
    (Design.flatten chosen.profile.endingProcedure) = []

/-- An element of a design is come to behind others of it, and has a defect there. -/
structure FailsAt (chosen : Setup α) (design : Design α) (before : List (Element α))
    (element : Element α) (defect : Defect α) : Prop where
  split : ∃ after, Design.flatten design = before ++ element :: after
  flawless : Motion.Flawless chosen.initialization (chosen.lead design ++ before)
  flaw : element.flaw? (Tool.behind chosen.initialization (chosen.lead design ++ before))
    (Supply.behind chosen.initialization (chosen.lead design ++ before)) = some defect

theorem kind_of_mem_designReports {chosen : Setup α} {design : Design α} {diagnostic : Diagnostic α}
    (member : diagnostic ∈ chosen.designReports design) :
    design.HasKind diagnostic.index diagnostic.kind := by
  obtain ⟨element, placed, here, kind, -⟩ := Motion.exists_of_mem_reportsBehind member
  rw [Design.HasKind, here, kind]
  rfl

theorem kind_of_failsAt {chosen : Setup α} {design : Design α} {before : List (Element α)}
    {element : Element α} {defect : Defect α} (fails : chosen.FailsAt design before element defect) :
    design.HasKind before.length element.kind := by
  obtain ⟨after, split⟩ := fails.split
  rw [Design.HasKind, Motion.getElem?_of_split split]
  rfl

theorem isPriming_of_mem_primer {primer : Primer} {first : Point α} {element : Element α}
    (member : element ∈ Design.flatten (primer.steps first)) : element.isPriming = true := by
  have priming : (Design.flatten (primer.steps first)).all Element.isPriming = true := by
    cases primer <;> rfl
  exact List.all_eq_true.mp priming element member

theorem kind_of_mem_primer {primer : Primer} {first : Point α} {element : Element α}
    (member : element ∈ Design.flatten (primer.steps first)) {commands : CommandTable} {placed : Bool}
    {remark : Remark α} (remarked : remark ∈ element.remarks commands placed) :
    element.kind = "Point" := by
  have isPriming := isPriming_of_mem_primer member
  cases element with
  | point => rfl
  | speeds | extruder | bead => cases isPriming
  | event event =>
    cases event with
    | raw | toggle => cases remarked
    | command | comment | extrude | fan | hotend | bed | marker => cases isPriming

theorem kind_of_mem_primerReports {chosen : Setup α} {design : Design α} {diagnostic : Diagnostic α}
    (member : diagnostic ∈ chosen.primerReports design) : diagnostic.kind = "Point" := by
  obtain ⟨element, placed, here, kind, remarked⟩ := Motion.exists_of_mem_reportsBehind member
  have inPrimer := List.mem_of_getElem? here
  rw [kind]
  unfold Profile.primerSteps at inPrimer
  split at inPrimer
  · exact kind_of_mem_primer inPrimer remarked
  · simp [Design.flatten] at inPrimer

end Setup

end Reports

namespace Job

variable {controls : MachineControls Float} {chosen : Setup Float} {design : Design Float}

theorem gcode_diagnostics (atSetup : setup controls = .ok chosen) (silent : chosen.IsSilent design)
    {transformed : Transformed Float String} (ok : gcode controls design = .ok transformed) :
    transformed.diagnostics =
      (chosen.primerReports design).map (Diagnostic.renumbered
        ((Design.flatten chosen.profile.startingProcedure).length + ·)) ++
      (chosen.designReports design).map
        (Diagnostic.renumbered ((chosen.lead design).length + ·)) := by
  obtain ⟨same, run, again, walked, rfl⟩ := gcode_eq_ok.mp ok
  obtain rfl := Except.ok.inj (atSetup.symm.trans again)
  have unknown : Motion.unknownKeys chosen.initialization = [] := by
    rw [Motion.unknownKeys, silent.known]
    rfl
  have fan : Motion.fanReports chosen.initialization = [] := by
    unfold Motion.fanReports
    cases set : chosen.initialization.fan with
    | none => rfl
    | some percent => simp [silent.finite percent set]
  show run.diagnostics = _
  rw [Motion.runElements_diagnostics walked, unknown, fan, Setup.flatten_wrap,
    Motion.reports_append, silent.ending, Motion.reports_append, Setup.lead, Motion.reports_append,
    silent.starting]
  simp only [List.nil_append, List.map_nil, List.append_nil]
  rfl

theorem gcode_of_failsAt (atSetup : setup controls = .ok chosen) {before : List (Element Float)}
    {element : Element Float} {defect : Defect Float}
    (fails : chosen.FailsAt design before element defect) :
    gcode controls design = .error (.configuration
      ⟨(chosen.lead design).length + before.length, element.kind, defect⟩) := by
  obtain ⟨after, split⟩ := fails.split
  refine (gcode_eq_error_of_run atSetup).mpr (Motion.runElements_eq_error.mpr ?_)
  refine ⟨chosen.lead design ++ before, element,
    after ++ Design.flatten chosen.profile.endingProcedure, ?_, fails.flawless, ?_⟩
  · rw [Setup.flatten_wrap, split]
    simp only [List.append_assoc, List.cons_append]
  · exact Motion.fault?_eq_some.mpr ⟨List.length_append.symm, rfl, fails.flaw⟩

theorem flawless_lead (atSetup : setup controls = .ok chosen)
    {transformed : Transformed Float String} (ok : gcode controls design = .ok transformed) :
    Motion.Flawless chosen.initialization (chosen.lead design) := by
  obtain ⟨same, run, again, walked, -⟩ := gcode_eq_ok.mp ok
  obtain rfl := Except.ok.inj (atSetup.symm.trans again)
  have all := Motion.flawless_of_ok walked
  rw [Setup.flatten_wrap] at all
  exact all.of_append.of_append

/-- All that a job tells of a design is told under places of the design: each diagnostic, where the
settings and the printer's procedures are silent, and the fault of an element of the design. -/
structure Findable (controls : MachineControls Float) (chosen : Setup Float) (design : Design Float) :
    Prop where
  diagnostics : chosen.IsSilent design → ∀ transformed, gcode controls design = .ok transformed →
    ∀ diagnostic ∈ transformed.diagnostics, design.HasKind diagnostic.index diagnostic.kind
  faults : ∀ before element defect, chosen.FailsAt design before element defect →
    ∀ fault, gcode controls design = .error (.configuration fault) →
      design.HasKind fault.index fault.kind

theorem findable_of_lead_eq_nil (atSetup : setup controls = .ok chosen)
    (bare : Motion.Flawless chosen.initialization (chosen.lead design) → chosen.lead design = []) :
    Findable controls chosen design where
  diagnostics silent transformed ok diagnostic member := by
    have lead := bare (flawless_lead atSetup ok)
    rw [gcode_diagnostics atSetup silent ok, lead] at member
    obtain ⟨-, primer⟩ := List.append_eq_nil_iff.mp lead
    rcases List.mem_append.mp member with inPrimer | inDesign
    · rw [Setup.primerReports, primer] at inPrimer
      cases inPrimer
    · obtain ⟨own, reported, rfl⟩ := List.mem_map.mp inDesign
      have here := Setup.kind_of_mem_designReports reported
      rw [← Nat.zero_add own.index] at here
      exact here
  faults before element defect fails fault error := by
    have lead := bare fails.flawless.of_append
    have here := Setup.kind_of_failsAt fails
    rw [gcode_of_failsAt atSetup fails, lead] at error
    cases error
    rw [← Nat.zero_add before.length] at here
    exact here

/-- A feed with a filament that is no good, in front of a point. -/
def starvedBefore (aim : Option (Point Float)) : Design Float :=
  .element (.extruder { feedUnit := some .length, filament := some 0.0 }) ::
    .ofEvent (.extrude 1.0 1.0) :: (aim.map .ofPoint).toList

theorem starvedBefore_fails (chosen : Setup Float) (aim : Option (Point Float))
    (flawless : Motion.Flawless chosen.initialization (chosen.lead (starvedBefore aim))) :
    chosen.FailsAt (starvedBefore aim)
      [.extruder { feedUnit := some .length, filament := some 0.0 }] (.event (.extrude 1.0 1.0))
      (.filament 0.0) where
  split := by
    refine ⟨(aim.map .point).toList, ?_⟩
    cases aim <;> rfl
  flawless := flawless.concat rfl
  flaw := by
    rw [Supply.behind_concat]
    have unusable : ¬ Scalar.isUsable (0.0 : Float) = true := by decide +kernel
    show (if Scalar.isUsable (0.0 : Float) = true then none else some (Defect.filament 0.0)) = _
    rw [if_neg unusable]

/-- Behind anything at all, such a feed is told of under a place where no feed is. -/
theorem starvedBefore_misplaced (aim : Option (Point Float)) (moved : Nat) :
    ¬ (starvedBefore aim).HasKind (moved + 2) "StationaryExtrusion" := by
  cases aim with
  | none =>
    show ¬ none = some "StationaryExtrusion"
    exact nofun
  | some point =>
    cases moved with
    | zero =>
      show ¬ some "Point" = some "StationaryExtrusion"
      decide
    | succ more =>
      show ¬ none = some "StationaryExtrusion"
      exact nofun

theorem lead_eq_nil_of_findable (atSetup : setup controls = .ok chosen)
    (findable : ∀ design, Findable controls chosen design)
    (flawless : Motion.Flawless chosen.initialization (chosen.lead design)) :
    chosen.lead design = [] := by
  -- The primer hangs on the first point alone, so the same is put before another design with it.
  let aim := Design.firstPoint design
  have same : chosen.lead (starvedBefore aim) = chosen.lead design := by
    have first : Design.firstPoint (starvedBefore aim) = Design.firstPoint design := by
      show Design.firstPoint (starvedBefore aim) = aim
      cases aim <;> rfl
    unfold Setup.lead Profile.primerSteps
    rw [first]
  have fails := starvedBefore_fails chosen aim (same ▸ flawless)
  have told := (findable (starvedBefore aim)).faults _ _ _ fails _ (gcode_of_failsAt atSetup fails)
  rw [same] at told
  cases lead : chosen.lead design with
  | nil => rfl
  | cons first rest =>
    rw [lead] at told
    exact absurd told (starvedBefore_misplaced aim rest.length)

/-- What a job tells of a design is moved by what is put before it. With nothing to say of the settings
and the printer's procedures, the diagnostics are those of the primer, all of them on points, and those
of the design, each moved by the length of what is before. The fault of an element of the design is
moved by as much. So a job tells of every design under its own places just where nothing is ever put
before one. -/
theorem gcode_places (atSetup : setup controls = .ok chosen) :
    (∀ design transformed, chosen.IsSilent design → gcode controls design = .ok transformed →
      transformed.diagnostics =
        (chosen.primerReports design).map (Diagnostic.renumbered
          ((Design.flatten chosen.profile.startingProcedure).length + ·)) ++
        (chosen.designReports design).map
          (Diagnostic.renumbered ((chosen.lead design).length + ·)) ∧
      (∀ diagnostic ∈ chosen.primerReports design, diagnostic.kind = "Point") ∧
      ∀ diagnostic ∈ chosen.designReports design,
        design.HasKind diagnostic.index diagnostic.kind) ∧
    (∀ design before element defect, chosen.FailsAt design before element defect →
      gcode controls design = .error (.configuration
        ⟨(chosen.lead design).length + before.length, element.kind, defect⟩) ∧
      design.HasKind before.length element.kind) ∧
    ((∀ design, Findable controls chosen design) ↔
      ∀ design, Motion.Flawless chosen.initialization (chosen.lead design) →
        chosen.lead design = []) := by
  refine ⟨fun design transformed silent ok => ?_, fun design before element defect fails => ?_, ?_, ?_⟩
  · exact ⟨gcode_diagnostics atSetup silent ok, fun _ => Setup.kind_of_mem_primerReports,
      fun _ => Setup.kind_of_mem_designReports⟩
  · exact ⟨gcode_of_failsAt atSetup fails, Setup.kind_of_failsAt fails⟩
  · intro findable design flawless
    exact lead_eq_nil_of_findable atSetup findable flawless
  · intro bare design
    exact findable_of_lead_eq_nil atSetup (bare design)

/-- A command that no printer knows. -/
def parked : Design Float := [.ofCommand "park"]

/-- A printer that homes before a design and has a travel as its primer. -/
def homer : Profile Float :=
  { Profile.bare with startingProcedure := [.ofCommand "home"], primer := .travel }

theorem gcode_places_homed :
    let controls : MachineControls Float := { printer := some homer }
    let chosen : Setup Float := ⟨homer, homer.initialization⟩
    setup controls = .ok chosen ∧ chosen.IsSilent parked ∧
      (∃ transformed, gcode controls parked = .ok transformed ∧
        transformed.diagnostics = [⟨1, "DeviceCommand", .unmapped "park"⟩]) ∧
      ¬ ∀ design, Findable controls chosen design := by
  intro controls chosen
  have atSetup : setup controls = .ok chosen := rfl
  have silent : chosen.IsSilent parked := {
    known := rfl
    finite := by
      rintro percent ⟨⟩
      decide +kernel
    starting := by decide +kernel
    ending := rfl }
  obtain ⟨diagnostics, -, all⟩ := gcode_places atSetup
  have runs : (gcode controls parked).toOption.isSome = true := by decide +kernel
  cases ok : gcode controls parked with
  | error error =>
    rw [ok] at runs
    cases runs
  | ok transformed =>
    have moved := (diagnostics parked transformed silent ok).1
    refine ⟨atSetup, silent, ⟨transformed, rfl, moved.trans ?_⟩, fun findable => ?_⟩
    · decide +kernel
    · have lead := all.mp findable parked (flawless_lead atSetup ok)
      exact absurd lead (by decide +kernel)

theorem places_can_be_moved :
    ¬ ∀ (controls : MachineControls Float) (chosen : Setup Float) (design : Design Float),
      setup controls = .ok chosen → Findable controls chosen design := by
  intro findable
  let controls : MachineControls Float := { printerName := some "generic" }
  let chosen : Setup Float := ⟨.generic, Profile.generic.initialization⟩
  have silent : chosen.IsSilent parked := {
    known := rfl
    finite := by
      rintro percent ⟨⟩
      decide +kernel
    starting := by decide +kernel
    ending := by decide +kernel }
  have told : (gcode controls parked).toOption.map (·.diagnostics) =
      some [⟨6, "DeviceCommand", .unmapped "park"⟩] := by
    decide +kernel
  cases ok : gcode controls parked with
  | error error =>
    rw [ok] at told
    cases told
  | ok transformed =>
    rw [ok] at told
    have diagnostics : transformed.diagnostics = [⟨6, "DeviceCommand", .unmapped "park"⟩] :=
      Option.some.inj told
    have here := (findable controls chosen parked rfl).diagnostics silent transformed ok _
      (diagnostics ▸ List.mem_cons_self)
    exact absurd here nofun

end Job

end Toolpath
