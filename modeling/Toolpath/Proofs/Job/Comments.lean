import Toolpath.Proofs.Gcode.Instructions
import Toolpath.Proofs.Gcode.Lines
import Toolpath.Proofs.Job.Nesting
import Toolpath.Proofs.Job.Outcome

/-!
What comments do to the G-code of a job. The comments of a design are silent if each of their texts
stays behind its semicolon, and only then: a line break in a text ends what the semicolon covers. It
also breaks a line of the page, and nothing else does.
-/

namespace Toolpath

theorem eq_iff_nil_of_sublist {β : Type} {part whole more : List β} (sublist : part.Sublist whole)
    (perm : whole.Perm (part ++ more)) : whole = part ↔ more = [] := by
  constructor
  · rintro rfl
    have length := perm.length_eq
    rw [List.length_append] at length
    exact List.length_eq_zero_iff.mp (by omega)
  · rintro rfl
    rw [List.append_nil] at perm
    exact (sublist.eq_of_length perm.length_eq.symm).symm

theorem Profile.primerSteps_withoutComments {α : Type} [Scalar α] (profile : Profile α)
    (design : Design α) :
    profile.primerSteps design.withoutComments = profile.primerSteps design := by
  unfold primerSteps
  rw [Design.firstPoint_withoutComments]

/-- A printer's procedures keep their comments; those of the design are taken out of its middle. -/
theorem Profile.thins_wrap {α : Type} [Scalar α] (profile : Profile α)
    (initialization : Initialization α) (design : Design α) :
    Motion.Thins ((Design.flatten design).filter (·.isComment))
      (Motion.script initialization (Design.flatten (profile.wrap design)))
      (Motion.script initialization (Design.flatten (profile.wrap design.withoutComments))) := by
  have thins := Motion.Thins.of_script initialization (!·.isComment)
    (Design.flatten profile.startingProcedure ++ Design.flatten (profile.primerSteps design))
    (Design.flatten design) (Design.flatten profile.endingProcedure)
  simp only [Bool.not_not, List.append_assoc] at thins
  rw [Profile.flatten_wrap, Profile.flatten_wrap, primerSteps_withoutComments,
    Design.flatten_withoutComments]
  exact thins

theorem Gcode.smuggled_comments (design : Design Float) :
    smuggled ((Design.flatten design).filter (·.isComment)) =
      design.commentary.flatMap fun text => Text.uncovered text.toList := by
  have texts : ((Design.flatten design).filter (·.isComment)).flatMap Element.commentary =
      design.commentary := by
    unfold Design.commentary
    induction Design.flatten design with
    | nil => rfl
    | cons element rest ih =>
      cases isComment : element.isComment with
      | true => rw [List.filter_cons_of_pos isComment, List.flatMap_cons, List.flatMap_cons, ih]
      | false =>
        have none : element.commentary = [] := by
          unfold Element.commentary
          split
          · cases isComment
          · rfl
        rw [List.filter_cons_of_neg (by simp [isComment]), List.flatMap_cons, none, ih]
        rfl
  rw [smuggled, texts]

namespace Job

open Text (instructions uncovered)

/-- A design without its comments succeeds where the design does. What is read of its G-code is
read of the design's too, in the same order, and all that is read beyond it stands behind line breaks
in the texts of comments. So the comments change nothing that is read just where nothing is left
uncovered. -/
theorem gcode_withoutComments {controls : MachineControls Float} {design : Design Float}
    {whole : Transformed Float String} (ok : gcode controls design = .ok whole) :
    ∃ bare, gcode controls design.withoutComments = .ok bare ∧
      (instructions bare.output.toList).Sublist (instructions whole.output.toList) ∧
      (instructions whole.output.toList).Perm (instructions bare.output.toList ++
        design.commentary.flatMap fun text => uncovered text.toList) ∧
      (instructions whole.output.toList = instructions bare.output.toList ↔
        ∀ text ∈ design.commentary, uncovered text.toList = []) := by
  obtain ⟨chosen, run, atSetup, walked, rfl⟩ := gcode_eq_ok.mp ok
  obtain ⟨onWhole, atWhole, rfl⟩ := Motion.runElements_eq_ok.mp walked
  have comments : ∀ element ∈ (Design.flatten design).filter (·.isComment),
      element.isComment = true := fun _ member => (List.mem_filter.mp member).2
  obtain ⟨onBare, atBare, -, reads⟩ := Gcode.walk_thinned
    (chosen.profile.thins_wrap chosen.initialization design) comments atWhole
  obtain ⟨sublist, perm⟩ := reads {}
  rw [Gcode.smuggled_comments] at perm
  let bare : Run Float :=
    { onBare with diagnostics := Motion.unknownKeys chosen.initialization ++ onBare.diagnostics }
  have bareOk : Motion.run chosen.profile.commands chosen.initialization
      (chosen.profile.wrap design.withoutComments) = .ok bare :=
    Motion.runElements_eq_ok.mpr ⟨onBare, atBare, rfl⟩
  refine ⟨_, gcode_eq_ok.mpr ⟨chosen, bare, atSetup, bareOk, rfl⟩, ?_⟩
  simp only [Gcode.Page.instructions_text]
  refine ⟨sublist, perm, ?_⟩
  rw [← List.flatMap_eq_nil_iff]
  exact eq_iff_nil_of_sublist sublist perm

/-- Notes on an empty page and behind a semicolon, and a text whose second line is covered anew. -/
def annotated : Design Float :=
  [.ofEvent (.comment (some "one\n ; two") (some "head")), .ofRaw "G21 ; units",
    .group [.ofEvent (.comment none (some "mm"))], .ofPoint { x := some 1.0, y := some 2.0 },
    .ofEvent (.comment none (some "origin")), .ofPoint { z := some 0.5 }]

theorem gcode_withoutComments_annotated :
    ∃ whole bare, gcode {} annotated = .ok whole ∧
      gcode {} annotated.withoutComments = .ok bare ∧
      whole.output = "; head\n; one\n ; two\nG21 ; units ; mm\nG1 X1 Y2 Z0 F8000 ; origin\nG1 Z0.5 E0 F8000" ∧
      instructions whole.output.toList = instructions bare.output.toList := by
  have atSetup : setup ({} : MachineControls Float) = .ok ⟨Profile.bare, {}⟩ := rfl
  let profile : Profile Float := .bare
  have walked : (Motion.run profile.commands {} (profile.wrap annotated)).toOption.map
      (fun run => (Gcode.Page.ofEmissions run.emissions).text) = some
        "; head\n; one\n ; two\nG21 ; units ; mm\nG1 X1 Y2 Z0 F8000 ; origin\nG1 Z0.5 E0 F8000" := by
    decide +kernel
  obtain ⟨run, ok, text⟩ := Motion.exists_run_of_map walked
  have whole := gcode_eq_ok.mpr ⟨_, run, atSetup, ok, rfl⟩
  obtain ⟨bare, atBare, -, -, silent⟩ := gcode_withoutComments whole
  refine ⟨_, bare, whole, atBare, text, silent.mpr ?_⟩
  decide

theorem comments_can_instruct :
    ¬ ∀ (controls : MachineControls Float) (design : Design Float)
      (whole bare : Transformed Float String), gcode controls design = .ok whole →
      gcode controls design.withoutComments = .ok bare →
      instructions whole.output.toList = instructions bare.output.toList := by
  intro silent
  have smuggles := silent {} [.ofEvent (.comment (some "part 1\nM112") none)]
    ⟨"; part 1\nM112", []⟩ ⟨"", []⟩ rfl rfl
  exact absurd smuggles (by decide)

/-- G-code consists of the lines on its page, each with something on it, if the texts of the comments
of the design and of the procedures around it have no line break, and only then. -/
theorem gcode_consists {controls : MachineControls Float} {design : Design Float}
    {transformed : Transformed Float String} (ok : gcode controls design = .ok transformed) :
    ∃ chosen run, setup controls = .ok chosen ∧
      Motion.run chosen.profile.commands chosen.initialization (chosen.profile.wrap design) =
        .ok run ∧
      transformed.output = (Gcode.Page.ofEmissions run.emissions).text ∧
      (Text.Consists transformed.output (Gcode.Page.ofEmissions run.emissions).lines.reverse ↔
        ∀ text ∈ (chosen.profile.wrap design).commentary, '\n' ∉ text.toList) := by
  obtain ⟨chosen, run, atSetup, walked, rfl⟩ := gcode_eq_ok.mp ok
  refine ⟨chosen, run, atSetup, walked, rfl, ?_⟩
  rw [← Motion.run_commentary walked]
  exact Gcode.Page.consists_ofEmissions run.emissions

/-- Blank lines, lines ended in two ways, and texts with nothing in them. -/
def sparse : Design Float :=
  [.ofRaw "G21\n\n \t\nG90\r\n", .ofEvent (.comment none (some "units")), .ofRaw " \n",
    .ofEvent (.comment (some "") (some "")), .ofEvent (.hotend 210.0 true (some 1)),
    .ofPoint { x := some 1.0 }, .ofEvent (.bed 60.0 false)]

theorem gcode_consists_sparse :
    ∃ transformed, gcode {} sparse = .ok transformed ∧ Text.Consists transformed.output
      ["G21", "G90 ; units ; ", "; ", "M109 T1 S210", "G1 X1 Y0 Z0 F8000", "M140 S60"] := by
  let profile : Profile Float := .bare
  have atSetup : setup ({} : MachineControls Float) = .ok ⟨profile, {}⟩ := rfl
  have walked : (Motion.run profile.commands {} (profile.wrap sparse)).toOption.map
      (fun run => (Gcode.Page.ofEmissions run.emissions).lines.reverse) =
        some ["G21", "G90 ; units ; ", "; ", "M109 T1 S210", "G1 X1 Y0 Z0 F8000", "M140 S60"] := by
    decide +kernel
  obtain ⟨run, ok, lines⟩ := Motion.exists_run_of_map walked
  have succeeds := gcode_eq_ok.mpr ⟨_, run, atSetup, ok, rfl⟩
  obtain ⟨chosen, other, chosenSetup, again, -, consists⟩ := gcode_consists succeeds
  obtain rfl := Except.ok.inj (atSetup.symm.trans chosenSetup)
  obtain rfl := Except.ok.inj (ok.symm.trans again)
  refine ⟨_, succeeds, lines ▸ consists.mpr ?_⟩
  decide

theorem comments_can_break :
    ¬ ∀ (controls : MachineControls Float) (design : Design Float)
      (transformed : Transformed Float String), gcode controls design = .ok transformed →
      ∃ lines, Text.Consists transformed.output lines := by
  intro whole
  obtain ⟨lines, consists⟩ := whole {} [.ofEvent (.comment (some "part 1\n") none)]
    ⟨"; part 1\n", []⟩ rfl
  exact consists.unended (by decide)

end Job

end Toolpath
