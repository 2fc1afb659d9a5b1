import Toolpath.Text.Lines
import Mathlib.Data.List.Basic

/-!
Lines that are joined to a text. They are found again between its line breaks just where none of
them has a line break of its own.
-/

namespace Toolpath.Text

/-- A line that has nothing on it but blanks. -/
def isBare (line : List Char) : Bool := line.all isBlank

theorem isBare_append (line more : List Char) :
    isBare (line ++ more) = (isBare line && isBare more) := List.all_append

/-- One line: there is something on it and no line break in it. -/
structure IsLine (line : String) : Prop where
  filled : isBare line.toList = false
  single : '\n' ∉ line.toList

theorem IsLine.append {line more : String} (isLine : IsLine line) (single : '\n' ∉ more.toList) :
    IsLine (line ++ more) := by
  refine ⟨?_, ?_⟩
  · rw [String.toList_append, isBare_append, isLine.filled, Bool.false_and]
  · rw [String.toList_append]
    exact List.not_mem_append isLine.single single

theorem mem_of_mem_chomp {line : List Char} {c : Char} (member : c ∈ chomp line) : c ∈ line := by
  unfold chomp at member
  split at member
  · rename_i rest reversed
    have before : c ∈ line.reverse := reversed ▸ List.mem_cons_of_mem _ (List.mem_reverse.mp member)
    exact List.mem_reverse.mp before
  · exact member

theorem break_notMem_linesFrom {line : List Char} (single : '\n' ∉ line) (text : List Char) :
    ∀ found ∈ linesFrom line text, '\n' ∉ found := by
  induction text generalizing line with
  | nil =>
    intro found member
    unfold linesFrom at member
    split at member
    · cases member
    · rw [List.mem_singleton.mp member, List.mem_reverse]
      exact single
  | cons c rest ih =>
    intro found member
    unfold linesFrom at member
    split at member
    · rcases List.mem_cons.mp member with rfl | later
      · intro inside
        exact single (List.mem_reverse.mp (mem_of_mem_chomp inside))
      · exact ih List.not_mem_nil found later
    · rename_i other
      have longer : '\n' ∉ c :: line := List.not_mem_cons_of_ne_of_not_mem (Ne.symm other) single
      exact ih longer found member

theorem isLine_of_mem_filledLines {text line : String} (member : line ∈ filledLines text) :
    IsLine line := by
  obtain ⟨found, filled⟩ := List.mem_filter.mp member
  obtain ⟨characters, inText, rfl⟩ := List.mem_map.mp found
  refine ⟨by simpa [isBare] using filled, ?_⟩
  rw [String.toList_ofList]
  exact break_notMem_linesFrom List.not_mem_nil _ _ inText

theorem break_notMem_of_mem_splitOn {text : List Char} :
    ∀ line ∈ text.splitOn '\n', '\n' ∉ line := by
  induction text with
  | nil => simp
  | cons c rest ih =>
    rw [List.splitOn_cons_eq_if_modifyHead]
    obtain ⟨first, later, split⟩ := List.exists_cons_of_ne_nil (List.splitOn_ne_nil '\n' rest)
    rw [split] at ih ⊢
    intro line member
    by_cases ended : c = '\n'
    · rw [if_pos (beq_iff_eq.mpr ended)] at member
      rcases List.mem_cons.mp member with rfl | old
      · exact List.not_mem_nil
      · exact ih line old
    · rw [if_neg (fun same => ended (beq_iff_eq.mp same))] at member
      rcases List.mem_cons.mp member with rfl | old
      · exact List.not_mem_cons_of_ne_of_not_mem (Ne.symm ended) (ih first List.mem_cons_self)
      · exact ih line (List.mem_cons_of_mem _ old)

/-- A text that is well-formed line by line. No line break ends it, and between its line breaks
stand just so many lines, none of them bare; an empty text has none. -/
structure Consists (text : String) (lines : List String) : Prop where
  unended : text.toList.getLast? ≠ some '\n'
  empty : text = "" → lines = []
  lines : text ≠ "" → text.toList.splitOn '\n' = lines.map String.toList
  filled : text ≠ "" → ∀ line ∈ text.toList.splitOn '\n', isBare line = false

theorem splitOn_joined {lines : List String} (some : lines ≠ [])
    (single : ∀ line ∈ lines, '\n' ∉ line.toList) :
    ("\n".intercalate lines).toList.splitOn '\n' = lines.map String.toList := by
  have joined : ("\n".intercalate lines).toList = ['\n'].intercalate (lines.map String.toList) :=
    String.toList_intercalate
  rw [joined, List.splitOn_intercalate]
  · exact List.forall_mem_map.mpr single
  · exact fun none => some (List.map_eq_nil_iff.mp none)

theorem consists_joined {lines : List String} (filled : ∀ line ∈ lines, isBare line.toList = false)
    (single : ∀ line ∈ lines, '\n' ∉ line.toList) : Consists ("\n".intercalate lines) lines := by
  by_cases none : lines = []
  · subst none
    exact ⟨by decide, fun _ => rfl, fun some => absurd rfl some, fun some => absurd rfl some⟩
  · have split := splitOn_joined none single
    have shown : ∀ line ∈ ("\n".intercalate lines).toList.splitOn '\n', isBare line = false := by
      rw [split]
      exact List.forall_mem_map.mpr filled
    refine ⟨?_, ?_, fun _ => split, fun _ => shown⟩
    · -- A break at the end would have an empty line behind it.
      intro ended
      obtain ⟨before, ends⟩ := List.getLast?_eq_some_iff.mp ended
      have behind : ("\n".intercalate lines).toList.splitOn '\n' = before.splitOn '\n' ++ [[]] := by
        rw [ends, List.splitOn_append_cons_self, List.splitOn_nil]
      have bare := shown [] (behind ▸ List.mem_append_right _ List.mem_cons_self)
      cases bare
    · intro empty
      rw [empty] at shown
      cases shown [] (by decide)

/-- Filled lines make a well-formed text just where none of them has a line break. -/
theorem consists_joined_iff {lines : List String}
    (filled : ∀ line ∈ lines, isBare line.toList = false) :
    Consists ("\n".intercalate lines) lines ↔ ∀ line ∈ lines, '\n' ∉ line.toList := by
  constructor
  · intro consists line member
    have some : "\n".intercalate lines ≠ "" := by
      intro empty
      rw [consists.empty empty] at member
      cases member
    have found : line.toList ∈ ("\n".intercalate lines).toList.splitOn '\n' :=
      consists.lines some ▸ List.mem_map_of_mem member
    exact break_notMem_of_mem_splitOn _ found
  · exact consists_joined filled

end Toolpath.Text
