import Toolpath.Proofs.Gcode.Told
import Toolpath.Proofs.Motion.Commentary
import Toolpath.Proofs.Text.Lines

/-!
The lines of a page, one by one. Whatever numbers and instructions are written, each line has
something on it, and only the texts of comments can bring a line break into one.
-/

namespace Toolpath.Gcode

open Text (IsLine isBare)

theorem break_notMem_of_numeric {text : String}
    (numeric : ∀ c ∈ text.toList, Decimal.isNumeric c = true) : '\n' ∉ text.toList := by
  intro inside
  exact absurd (numeric '\n' inside) (by decide)

theorem break_notMem_numberText (places : Nat) (v : Float) :
    '\n' ∉ (numberText places v).toList :=
  break_notMem_of_numeric (isNumeric_of_mem_numberText places v)

theorem isLine_number {start : String} (isLine : IsLine start) (places : Nat) (v : Float) :
    IsLine (start ++ numberText places v) := isLine.append (break_notMem_numberText places v)

theorem isLine_moveLine {axes : Axes} {move : Move Float} {line : String}
    (written : moveLine? axes move = some line) : IsLine line := by
  have command : IsLine (MoveForm.command move.form) := by
    cases move.form with
    | rapid | linear => exact ⟨by decide, by decide⟩
  have words : '\n' ∉ (String.ofList ((Words.ofMove axes move).tail.flatMap (' ' :: ·))).toList := by
    rw [String.toList_ofList]
    intro inside
    obtain ⟨word, member, inWord⟩ := List.mem_flatMap.mp inside
    obtain ⟨letter, known, places, v, rfl⟩ := eq_of_mem_tail member
    have notLetter : '\n' ≠ letter := by
      rintro rfl
      exact absurd known (by decide)
    rcases List.mem_cons.mp inWord with blank | behind
    · cases blank
    · rcases List.mem_cons.mp behind with same | inNumber
      · exact notLetter same
      · exact break_notMem_numberText places v inNumber
  rw [moveLine?_eq] at written
  split at written
  · cases written
  · obtain rfl := Option.some.inj written
    have spelled : String.ofList (Words.ofMove axes move).line = MoveForm.command move.form ++
        String.ofList ((Words.ofMove axes move).tail.flatMap (' ' :: ·)) := by
      refine String.toList_inj.mp ?_
      rw [String.toList_ofList, String.toList_append, String.toList_ofList]
      rfl
    rw [spelled]
    exact command.append words

theorem isLine_fanLine (percent : Float) : IsLine (fanLine percent) := by
  dsimp only [fanLine]
  split
  · exact ⟨by decide, by decide⟩
  · have command : IsLine "M106 S" := ⟨by decide, by decide⟩
    exact command.append (break_notMem_of_numeric (Decimal.isNumeric_of_mem_plain _))

theorem break_notMem_toString (n : UInt32) : '\n' ∉ (toString n).toList := by
  have digits : (toString n).toList = Decimal.digits n.toNat := Nat.toList_repr
  refine break_notMem_of_numeric fun c member => ?_
  rw [digits] at member
  exact Decimal.isNumeric_of_mem_digits member

theorem isLine_hotendLine (celsius : Float) (wait : Bool) (tool : Option UInt32) :
    IsLine (hotendLine celsius wait tool) := by
  have command : IsLine (if wait then "M109" else "M104") := by
    cases wait with
    | true | false => exact ⟨by decide, by decide⟩
  have letter : '\n' ∉ " S".toList := by decide
  cases tool with
  | none => exact isLine_number ((command.append (by decide)).append letter) 6 celsius
  | some number =>
    have word : '\n' ∉ (" T" ++ toString number).toList := by
      rw [String.toList_append]
      exact List.not_mem_append (by decide) (break_notMem_toString number)
    exact isLine_number ((command.append word).append letter) 6 celsius

theorem isLine_bedLine (celsius : Float) (wait : Bool) : IsLine (bedLine celsius wait) := by
  have command : IsLine ((if wait then "M190" else "M140") ++ " S") := by
    cases wait with
    | true | false => exact ⟨by decide, by decide⟩
  exact isLine_number command 6 celsius

namespace Page

/-- Whatever is not a comment is written in whole lines. -/
theorem take_cases (page : Page) (action : Action Float) :
    (∃ text note, action = .comment text note) ∨ action.commentary = [] ∧
      ∃ lines, (page.take action).lines = lines ++ page.lines ∧ ∀ line ∈ lines, IsLine line := by
  have one {line : String} (isLine : IsLine line) : ∀ other ∈ [line].reverse, IsLine other :=
    List.forall_mem_singleton.mpr isLine
  cases action with
  | comment text note => exact .inl ⟨text, note, rfl⟩
  | move move =>
    refine .inr ⟨rfl, _, page.take_move_lines move, ?_⟩
    intro line member
    exact isLine_moveLine (Option.mem_toList.mp member)
  | toggled | marker => exact .inr ⟨rfl, [], rfl, fun _ member => nomatch member⟩
  | announced relative =>
    refine .inr ⟨rfl, _, rfl, ?_⟩
    cases relative with
    | true => exact one ⟨by decide, by decide⟩
    | false =>
      show ∀ line ∈ ["G92 E0", "M82"], IsLine line
      exact List.forall_mem_cons.mpr
        ⟨⟨by decide, by decide⟩, List.forall_mem_singleton.mpr ⟨by decide, by decide⟩⟩
  | instruction text =>
    refine .inr ⟨rfl, _, rfl, ?_⟩
    intro line member
    exact Text.isLine_of_mem_filledLines (List.mem_reverse.mp member)
  | extruded feed speed =>
    have command : IsLine "G1 E" := ⟨by decide, by decide⟩
    have letter : '\n' ∉ " F".toList := by decide
    exact .inr ⟨rfl, _, rfl, one (isLine_number ((isLine_number command 6 feed).append letter) 1 speed)⟩
  | fan percent => exact .inr ⟨rfl, _, rfl, one (isLine_fanLine percent)⟩
  | hotend celsius wait tool => exact .inr ⟨rfl, _, rfl, one (isLine_hotendLine celsius wait tool)⟩
  | bed celsius wait => exact .inr ⟨rfl, _, rfl, one (isLine_bedLine celsius wait)⟩

/-- Every line has something on it. -/
def IsFilled (page : Page) : Prop := ∀ line ∈ page.lines, isBare line.toList = false

/-- No line has a line break in it. -/
def IsSingle (page : Page) : Prop := ∀ line ∈ page.lines, '\n' ∉ line.toList

theorem isFilled_of_append {page after : Page} {lines : List String} (filled : page.IsFilled)
    (added : after.lines = lines ++ page.lines) (fill : ∀ line ∈ lines, isBare line.toList = false) :
    after.IsFilled := by
  unfold IsFilled
  rw [added]
  exact List.forall_mem_append.mpr ⟨fill, filled⟩

theorem isSingle_of_append {page after : Page} {lines : List String}
    (added : after.lines = lines ++ page.lines) :
    after.IsSingle ↔ page.IsSingle ∧ ∀ line ∈ lines, '\n' ∉ line.toList := by
  unfold IsSingle
  rw [added, List.forall_mem_append, and_comm]

theorem isFilled_writeNote {page : Page} (filled : page.IsFilled) (note : String) :
    (page.writeNote note).IsFilled := by
  unfold writeNote
  split
  · rename_i last before lines
    unfold IsFilled at filled
    rw [lines] at filled
    obtain ⟨atLast, atBefore⟩ := List.forall_mem_cons.mp filled
    refine List.forall_mem_cons.mpr ⟨?_, atBefore⟩
    rw [String.append_assoc, String.toList_append, Text.isBare_append, atLast, Bool.false_and]
  · refine isFilled_of_append filled rfl (List.forall_mem_singleton.mpr ?_)
    rw [String.toList_append, Text.isBare_append]
    rfl

theorem isSingle_writeNote (page : Page) (note : String) :
    (page.writeNote note).IsSingle ↔ page.IsSingle ∧ '\n' ∉ note.toList := by
  unfold writeNote
  split
  · rename_i last before lines
    have noted : '\n' ∉ (last ++ " ; " ++ note).toList ↔ '\n' ∉ last.toList ∧ '\n' ∉ note.toList := by
      simp
    unfold IsSingle
    rw [lines, List.forall_mem_cons, List.forall_mem_cons, noted, and_right_comm]
  · have alone : '\n' ∉ ("; " ++ note).toList ↔ '\n' ∉ note.toList := by simp
    rw [isSingle_of_append rfl, List.reverse_singleton, List.forall_mem_singleton, alone]

theorem isFilled_writeComment {page : Page} (filled : page.IsFilled) (text note : Option String) :
    (page.writeComment text note).IsFilled := by
  have texted {page : Page} (filled : page.IsFilled) : (page.writeComment text none).IsFilled := by
    cases text with
    | none => exact filled
    | some text =>
      refine isFilled_of_append filled rfl (List.forall_mem_singleton.mpr ?_)
      rw [String.toList_append, Text.isBare_append]
      rfl
  cases note with
  | none => exact texted filled
  | some note => exact texted (isFilled_writeNote filled note)

theorem isSingle_writeComment (page : Page) (text note : Option String) :
    (page.writeComment text note).IsSingle ↔
      page.IsSingle ∧ ∀ written ∈ note.toList ++ text.toList, '\n' ∉ written.toList := by
  have texted (page : Page) : (page.writeComment text none).IsSingle ↔
      page.IsSingle ∧ ∀ written ∈ text.toList, '\n' ∉ written.toList := by
    cases text with
    | none => simp [writeComment]
    | some text =>
      have alone : '\n' ∉ ("; " ++ text).toList ↔ '\n' ∉ text.toList := by simp
      show (page.write ["; " ++ text]).IsSingle ↔ _
      rw [isSingle_of_append rfl, List.reverse_singleton, List.forall_mem_singleton, alone,
        Option.toList_some, List.forall_mem_singleton]
  cases note with
  | none => exact texted page
  | some note =>
    show ((page.writeNote note).writeComment text none).IsSingle ↔ _
    rw [texted, isSingle_writeNote, List.forall_mem_append, Option.toList_some,
      List.forall_mem_singleton, and_assoc]

theorem isFilled_take {page : Page} (filled : page.IsFilled) (action : Action Float) :
    (page.take action).IsFilled := by
  rcases page.take_cases action with ⟨text, note, rfl⟩ | ⟨-, lines, added, areLines⟩
  · exact isFilled_writeComment filled text note
  · exact isFilled_of_append filled added fun line member => (areLines line member).filled

theorem isSingle_take (page : Page) (action : Action Float) : (page.take action).IsSingle ↔
    page.IsSingle ∧ ∀ text ∈ action.commentary, '\n' ∉ text.toList := by
  rcases page.take_cases action with ⟨text, note, rfl⟩ | ⟨silent, lines, added, areLines⟩
  · exact page.isSingle_writeComment text note
  · rw [isSingle_of_append added, silent]
    have single : ∀ line ∈ lines, '\n' ∉ line.toList := fun line member => (areLines line member).single
    exact and_congr_right fun _ => iff_of_true single fun _ member => nomatch member

theorem isFilled_behind {page : Page} (filled : page.IsFilled) (emissions : List (Emission Float)) :
    (page.behind emissions).IsFilled := by
  induction emissions generalizing page with
  | nil => exact filled
  | cons emission rest ih => exact ih (isFilled_take filled emission.action)

/-- Line breaks come into lines with the texts of comments, and with nothing else. -/
theorem isSingle_behind (page : Page) (emissions : List (Emission Float)) :
    (page.behind emissions).IsSingle ↔
      page.IsSingle ∧ ∀ text ∈ Motion.commentary emissions, '\n' ∉ text.toList := by
  induction emissions generalizing page with
  | nil => exact (and_iff_left fun _ member => nomatch member).symm
  | cons emission rest ih =>
    show ((page.take emission.action).behind rest).IsSingle ↔ _
    have texts : Motion.commentary (emission :: rest) =
        emission.action.commentary ++ Motion.commentary rest := List.flatMap_cons
    rw [ih, isSingle_take, texts, List.forall_mem_append, and_assoc]

/-- The text of a page consists of its lines just where no text of a comment has a line break. -/
theorem consists_ofEmissions (emissions : List (Emission Float)) :
    Text.Consists (ofEmissions emissions).text (ofEmissions emissions).lines.reverse ↔
      ∀ text ∈ Motion.commentary emissions, '\n' ∉ text.toList := by
  have filled : (ofEmissions emissions).IsFilled :=
    @isFilled_behind {} (fun _ member => nomatch member) emissions
  have single : (∀ line ∈ (ofEmissions emissions).lines.reverse, '\n' ∉ line.toList) ↔
      ∀ text ∈ Motion.commentary emissions, '\n' ∉ text.toList := by
    simp only [List.mem_reverse]
    exact (isSingle_behind {} emissions).trans (and_iff_right fun _ member => nomatch member)
  exact (Text.consists_joined_iff fun line member => filled line (List.mem_reverse.mp member)).trans
    single

end Page

end Toolpath.Gcode
