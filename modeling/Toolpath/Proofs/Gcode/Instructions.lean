import Toolpath.Proofs.Design.Edit
import Toolpath.Proofs.Gcode.Told
import Toolpath.Proofs.Motion.Thinning
import Toolpath.Proofs.Text.Instructions

/-!
The instructions on a page. What an action adds to them depends on the texts of the axes alone, so
that a walk that leaves out comments adds the same, but for what the comments let through.
-/

namespace Toolpath.Gcode

open Motion (Thins)

namespace Page

/-- What is read of the lines of a page. -/
def instructions (page : Page) : List (List Char) :=
  page.lines.reverse.flatMap fun line => Text.instructions line.toList

theorem instructions_text (page : Page) : Text.instructions page.text.toList = page.instructions := by
  have joined : page.text.toList = ['\n'].intercalate (page.lines.reverse.map String.toList) :=
    String.toList_intercalate
  rw [joined, Text.instructions_intercalate, List.flatMap_map]
  rfl

theorem instructions_of_append {page after : Page} {lines : List String}
    (added : after.lines = lines ++ page.lines) : after.instructions =
      page.instructions ++ lines.reverse.flatMap fun line => Text.instructions line.toList := by
  unfold instructions
  rw [added, List.reverse_append, List.flatMap_append]

theorem instructions_writeNote (page : Page) (note : String) :
    (page.writeNote note).instructions = page.instructions ++ Text.uncovered note.toList := by
  unfold writeNote
  split
  · rename_i last before lines
    have noted : (last ++ " ; " ++ note).toList = last.toList ++ ' ' :: ';' :: ' ' :: note.toList := by
      simp
    have covered : Text.uncovered (' ' :: note.toList) = Text.uncovered note.toList := rfl
    simp only [instructions, lines, List.reverse_cons, List.flatMap_append, List.flatMap_singleton,
      noted, Text.instructions_append_note, covered, List.append_assoc]
  · rename_i empty
    have alone : ("; " ++ note).toList = ';' :: ' ' :: note.toList := by simp
    rw [instructions_of_append rfl, List.reverse_reverse, List.flatMap_singleton, alone,
      Text.instructions_comment]

theorem instructions_writeComment (page : Page) (text note : Option String) :
    (page.writeComment text note).instructions = page.instructions ++
      (note.toList ++ text.toList).flatMap fun written => Text.uncovered written.toList := by
  have texted (page : Page) : (page.writeComment text none).instructions = page.instructions ++
      text.toList.flatMap fun written => Text.uncovered written.toList := by
    cases text with
    | none => exact (List.append_nil _).symm
    | some text =>
      have alone : ("; " ++ text).toList = ';' :: ' ' :: text.toList := by simp
      show (page.write ["; " ++ text]).instructions = _
      rw [instructions_of_append rfl, List.reverse_reverse, List.flatMap_singleton, alone,
        Text.instructions_comment, Option.toList_some, List.flatMap_singleton]
  cases note with
  | none => exact texted page
  | some note =>
    show ((page.writeNote note).writeComment text none).instructions = _
    rw [texted, instructions_writeNote, List.append_assoc, List.flatMap_append, Option.toList_some,
      List.flatMap_singleton]

/-- A page on which nothing is written but the axes are known. -/
def blank (axes : Axes) : Page := ⟨[], axes⟩

theorem instructions_blank (axes : Axes) : (blank axes).instructions = [] := rfl

/-- An action adds the same instructions to a page as to a blank one with the same axes. -/
theorem instructions_take (page : Page) (action : Action Float) :
    (page.take action).instructions =
        page.instructions ++ ((blank page.axes).take action).instructions ∧
      (page.take action).axes = ((blank page.axes).take action).axes := by
  have written {page after onBlank : Page} {lines : List String}
      (added : after.lines = lines ++ page.lines) (alone : onBlank.lines = lines) :
      after.instructions = page.instructions ++ onBlank.instructions := by
    rw [instructions_of_append added, ← alone]
    rfl
  cases action with
  | move move =>
    refine ⟨written (page.take_move_lines move) ?_, ?_⟩
    · rw [take_move_lines]
      exact List.append_nil _
    · rw [take_move_axes, take_move_axes]
  | comment text note =>
    refine ⟨?_, ?_⟩
    · show (page.writeComment text note).instructions =
        page.instructions ++ ((blank page.axes).writeComment text note).instructions
      rw [instructions_writeComment, instructions_writeComment, instructions_blank, List.nil_append]
    · show (page.writeComment text note).axes = ((blank page.axes).writeComment text note).axes
      rw [writeComment_axes, writeComment_axes]
      rfl
  | toggled | marker => exact ⟨(List.append_nil _).symm, rfl⟩
  | announced | instruction | extruded | fan | hotend | bed =>
    exact ⟨written rfl (List.append_nil _), rfl⟩

theorem behind_append (page : Page) (first later : List (Emission Float)) :
    page.behind (first ++ later) = (page.behind first).behind later := List.foldl_append

theorem instructions_behind (page : Page) (emissions : List (Emission Float)) :
    (page.behind emissions).instructions =
        page.instructions ++ ((blank page.axes).behind emissions).instructions ∧
      (page.behind emissions).axes = ((blank page.axes).behind emissions).axes := by
  induction emissions generalizing page with
  | nil => exact ⟨(List.append_nil _).symm, rfl⟩
  | cons emission rest ih =>
    obtain ⟨here, axes⟩ := page.instructions_take emission.action
    obtain ⟨later, laterAxes⟩ := ih (page.take emission.action)
    obtain ⟨onBlank, blankAxes⟩ := ih ((blank page.axes).take emission.action)
    refine ⟨?_, ?_⟩
    · show ((page.take emission.action).behind rest).instructions =
        page.instructions ++ (((blank page.axes).take emission.action).behind rest).instructions
      rw [later, onBlank, here, axes, List.append_assoc]
    · show ((page.take emission.action).behind rest).axes =
        (((blank page.axes).take emission.action).behind rest).axes
      rw [laterAxes, blankAxes, axes]

end Page

/-- The instructions that comments let through, because they stand behind a line break. -/
def smuggled (elements : List (Element Float)) : List (List Char) :=
  (elements.flatMap Element.commentary).flatMap fun text => Text.uncovered text.toList

theorem step_comment {commands : CommandTable} {machine : Machine Float} {element : Element Float}
    {number : Nat} {run : Run Float} (isComment : element.isComment = true)
    (ok : Motion.step commands machine (element, number) = .ok run) :
    run.machine = machine ∧ ∀ axes, ((Page.blank axes).behind run.emissions).instructions =
        smuggled [element] ∧ ((Page.blank axes).behind run.emissions).axes = axes := by
  cases element with
  | event event =>
    cases event with
    | comment text note =>
      cases ok
      refine ⟨rfl, fun axes => ⟨?_, (Page.blank axes).writeComment_axes text note⟩⟩
      show ((Page.blank axes).writeComment text note).instructions = smuggled _
      rw [Page.instructions_writeComment]
      simp [Page.instructions_blank, smuggled, Element.commentary]
    | toggle | command | raw | extrude | fan | hotend | bed | marker => cases isComment
  | point | speeds | extruder | bead => cases isComment

/-- A walk that leaves out comments comes to the same machine. Its instructions are among those of the
whole walk, in their order, and all others are let through by the comments. -/
theorem walk_thinned {commands : CommandTable} {left : List (Element Float)}
    {script rest : List (Numbered Float)} (thins : Thins left script rest)
    (comments : ∀ element ∈ left, element.isComment = true) {machine : Machine Float}
    {run : Run Float} (ok : Motion.walk commands machine script = .ok run) :
    ∃ bare, Motion.walk commands machine rest = .ok bare ∧ bare.machine = run.machine ∧
      ∀ axes, ((Page.blank axes).behind bare.emissions).instructions.Sublist
          ((Page.blank axes).behind run.emissions).instructions ∧
        ((Page.blank axes).behind run.emissions).instructions.Perm
          (((Page.blank axes).behind bare.emissions).instructions ++ smuggled left) := by
  -- What an element adds depends on the axes behind those before it, so the induction is over all axes.
  induction thins generalizing machine run with
  | nil =>
    cases ok
    exact ⟨_, rfl, rfl, fun axes => ⟨List.nil_sublist _, .nil⟩⟩
  | kept element number renumbered _ ih =>
    obtain ⟨first, later, atFirst, atLater, rfl⟩ := Motion.walk_cons_eq_ok.mp ok
    obtain ⟨other, atOther, sameMachine, sameEmissions⟩ := Motion.step_renumbered atFirst renumbered
    obtain ⟨bare, atBare, machines, reads⟩ := ih comments atLater
    refine ⟨other.followed bare, ?_, machines, ?_⟩
    · exact Motion.walk_cons_eq_ok.mpr ⟨other, bare, atOther, sameMachine ▸ atBare, rfl⟩
    · intro axes
      obtain ⟨sublist, perm⟩ := reads ((Page.blank axes).behind first.emissions).axes
      have whole := ((Page.blank axes).behind first.emissions).instructions_behind later.emissions
      have part := ((Page.blank axes).behind first.emissions).instructions_behind bare.emissions
      simp only [Run.followed, sameEmissions, Page.behind_append, whole.1, part.1]
      refine ⟨(List.append_sublist_append_left _).mpr sublist, ?_⟩
      rw [List.append_assoc]
      exact perm.append_left _
  | @dropped left script rest element number _ ih =>
    -- A comment leaves machine and axes as they are, so the rest goes on from where it was.
    obtain ⟨isComment, laterComments⟩ := List.forall_mem_cons.mp comments
    obtain ⟨first, later, atFirst, atLater, rfl⟩ := Motion.walk_cons_eq_ok.mp ok
    obtain ⟨still, adds⟩ := step_comment isComment atFirst
    rw [still] at atLater
    obtain ⟨bare, atBare, machines, reads⟩ := ih laterComments atLater
    refine ⟨bare, atBare, machines, ?_⟩
    intro axes
    obtain ⟨sublist, perm⟩ := reads axes
    obtain ⟨through, sameAxes⟩ := adds axes
    have whole := ((Page.blank axes).behind first.emissions).instructions_behind later.emissions
    have split : smuggled (element :: left) = smuggled [element] ++ smuggled left := by
      simp [smuggled]
    simp only [Run.followed, Page.behind_append, whole.1, through, sameAxes, split]
    refine ⟨sublist.trans (List.sublist_append_right _ _), ?_⟩
    exact (perm.append_left _).trans (List.perm_append_comm_assoc _ _ _)

end Toolpath.Gcode
