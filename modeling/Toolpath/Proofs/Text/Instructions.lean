import Toolpath.Text.Lines
import Mathlib.Data.List.DropRight

/-!
Texts as a machine reads them: line by line, and each line up to its first semicolon. What stands
behind a semicolon is covered by it, but only up to the next line break.
-/

namespace Toolpath.Text

/-- What is read of a line: what stands before its first semicolon, without the blanks at its end. -/
def readPart (line : List Char) : List Char := (line.takeWhile (· ≠ ';')).rdropWhile isBlank

/-- What is read of a text, line by line. A line of which nothing is left is passed over. -/
def instructions (text : List Char) : List (List Char) :=
  ((text.splitOn '\n').map readPart).filter (· ≠ [])

/-- What is read of a text that is put behind a semicolon: the lines behind its first line break. -/
def uncovered (text : List Char) : List (List Char) := instructions (text.dropWhile (· ≠ '\n'))

theorem readPart_covered {part : List Char} (clean : ';' ∉ part) (rest : List Char) :
    readPart (part ++ ';' :: rest) = part.rdropWhile isBlank := by
  have taken : (part ++ ';' :: rest).takeWhile (· ≠ ';') = part := by
    have all : ∀ c ∈ part, decide (c ≠ ';') = true := by
      intro c member
      exact decide_eq_true fun same => clean (same ▸ member)
    rw [List.takeWhile_append_of_pos all, List.takeWhile_cons_of_neg (by simp), List.append_nil]
  rw [readPart, taken]

theorem readPart_of_notMem {line : List Char} (clean : ';' ∉ line) :
    readPart line = line.rdropWhile isBlank := by
  have taken : line.takeWhile (· ≠ ';') = line := by
    rw [List.takeWhile_eq_self_iff]
    intro c member
    exact decide_eq_true fun same => clean (same ▸ member)
  rw [readPart, taken]

/-- A note at the end of a line does not change what is read of it. -/
theorem readPart_note (line note : List Char) :
    readPart (line ++ ' ' :: ';' :: note) = readPart line := by
  by_cases covered : ';' ∈ line
  · obtain ⟨part, rest, rfl, clean⟩ := List.eq_append_cons_of_mem covered
    rw [List.append_assoc, List.cons_append, readPart_covered clean, readPart_covered clean]
  · have clean : ';' ∉ line ++ [' '] := by
      simp [covered]
    have spaced : line ++ ' ' :: ';' :: note = (line ++ [' ']) ++ ';' :: note := by simp
    rw [spaced, readPart_covered clean, readPart_of_notMem covered]
    exact List.rdropWhile_concat_pos _ _ _ (by decide)

theorem instructions_append_break (text rest : List Char) :
    instructions (text ++ '\n' :: rest) = instructions text ++ instructions rest := by
  unfold instructions
  rw [List.splitOn_append_cons_self, List.map_append, List.filter_append]

theorem instructions_nil : instructions [] = [] := by decide

theorem instructions_of_notMem {line : List Char} (single : '\n' ∉ line) :
    instructions line = [readPart line].filter (· ≠ []) := by
  unfold instructions
  rw [List.splitOn_eq_singleton single, List.map_singleton]

theorem instructions_note {note : List Char} (single : '\n' ∉ note) (text : List Char) :
    instructions (text ++ ' ' :: ';' :: note) = instructions text := by
  -- The note is on the last line, so the lines before it are taken off one by one.
  induction length : text.length using Nat.strong_induction_on generalizing text with
  | _ n ih =>
    by_cases broken : '\n' ∈ text
    · obtain ⟨first, rest, rfl, -⟩ := List.eq_append_cons_of_mem broken
      have shorter : rest.length < n := by
        rw [← length, List.length_append, List.length_cons]
        omega
      rw [List.append_assoc, List.cons_append, instructions_append_break, instructions_append_break,
        ih rest.length shorter rest rfl]
    · have joined : '\n' ∉ text ++ ' ' :: ';' :: note := by
        simp [broken, single]
      rw [instructions_of_notMem joined, instructions_of_notMem broken, readPart_note]

/-- A text is one line, all of it covered by a semicolon before it, or has a first line break. -/
theorem uncovered_cases (text : List Char) :
    ('\n' ∉ text ∧ uncovered text = []) ∨
      ∃ first rest, text = first ++ '\n' :: rest ∧ '\n' ∉ first ∧
        uncovered text = instructions rest := by
  by_cases broken : '\n' ∈ text
  · obtain ⟨first, rest, rfl, single⟩ := List.eq_append_cons_of_mem broken
    refine .inr ⟨first, rest, rfl, single, ?_⟩
    have all : ∀ c ∈ first, decide (c ≠ '\n') = true := by
      intro c member
      exact decide_eq_true fun same => single (same ▸ member)
    have dropped : (first ++ '\n' :: rest).dropWhile (· ≠ '\n') = [] ++ '\n' :: rest := by
      rw [List.dropWhile_append_of_pos all, List.dropWhile_cons_of_neg (by simp), List.nil_append]
    rw [uncovered, dropped, instructions_append_break, instructions_nil, List.nil_append]
  · refine .inl ⟨broken, ?_⟩
    have dropped : text.dropWhile (· ≠ '\n') = [] := by
      rw [List.dropWhile_eq_nil_iff]
      intro c member
      exact decide_eq_true fun same => broken (same ▸ member)
    rw [uncovered, dropped, instructions_nil]

/-- A note brings the lines that its semicolon does not cover, and nothing else. -/
theorem instructions_append_note (text note : List Char) :
    instructions (text ++ ' ' :: ';' :: note) = instructions text ++ uncovered note := by
  rcases uncovered_cases note with ⟨single, none⟩ | ⟨first, rest, rfl, single, lines⟩
  · rw [instructions_note single, none, List.append_nil]
  · have cut : text ++ ' ' :: ';' :: (first ++ '\n' :: rest) =
        (text ++ ' ' :: ';' :: first) ++ '\n' :: rest := by simp
    rw [cut, instructions_append_break, instructions_note single, lines]

/-- A line that begins with a semicolon brings nothing but the lines behind it. -/
theorem instructions_comment (text : List Char) :
    instructions (';' :: ' ' :: text) = uncovered text := by
  have silent (covered : List Char) : readPart (';' :: covered) = [] :=
    @readPart_covered [] List.not_mem_nil covered
  rcases uncovered_cases text with ⟨single, none⟩ | ⟨first, rest, rfl, single, lines⟩
  · have joined : '\n' ∉ ';' :: ' ' :: text := by simp [single]
    rw [instructions_of_notMem joined, silent, none]
    rfl
  · have joined : '\n' ∉ ';' :: ' ' :: first := by simp [single]
    rw [← List.cons_append, ← List.cons_append, instructions_append_break,
      instructions_of_notMem joined, silent, lines]
    rfl

theorem instructions_intercalate (lines : List (List Char)) :
    instructions (['\n'].intercalate lines) = lines.flatMap instructions := by
  induction lines with
  | nil => exact instructions_nil
  | cons line rest ih =>
    cases rest with
    | nil => rw [List.intercalate_singleton, List.flatMap_singleton]
    | cons next rest =>
      rw [List.intercalate_cons_cons, List.append_assoc, List.singleton_append,
        instructions_append_break, ih, List.flatMap_cons (x := line)]

end Toolpath.Text
