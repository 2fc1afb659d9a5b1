import Toolpath.Gcode.Page
import Toolpath.Proofs.Decimal.Characters

/-!
The line of a move read back into its words. The reader knows the grammar of such a line and nothing
of how it is written, so that what it gives is what any reader of the program gets.
-/

namespace Toolpath.Gcode

theorem isNumeric_of_mem_numberText (places : Nat) (v : Float) :
    ∀ c ∈ (numberText places v).toList, Decimal.isNumeric c = true := by
  unfold numberText
  split
  · exact Decimal.isNumeric_of_mem_word (by decide)
  · split
    · exact Decimal.isNumeric_of_mem_word (by decide)
    · exact Decimal.isNumeric_of_mem_word (by decide)
  · rw [String.toList_ofList]
    exact Decimal.isNumeric_of_mem_leastText _ _ _

theorem blank_notMem_numberText (places : Nat) (v : Float) : ' ' ∉ (numberText places v).toList := by
  intro blank
  have numeric := isNumeric_of_mem_numberText places v ' ' blank
  exact absurd numeric (by decide)

/-- The words of a move line: the command, what is written for each axis and for the extruder axis,
and the speed. -/
structure Words where
  form : MoveForm
  x : Option String
  y : Option String
  z : Option String
  feed : Option String
  speed : String
deriving DecidableEq

/-- The form that a command stands for. -/
def form? : List Char → Option MoveForm
  | ['G', '0'] => some .rapid
  | ['G', '1'] => some .linear
  | _ => none

/-- Takes off the first word if it has a letter. -/
def word? (letter : Char) : List (List Char) → Option String × List (List Char)
  | (first :: text) :: rest =>
    if first = letter then (some (String.ofList text), rest) else (none, (first :: text) :: rest)
  | words => (none, words)

/-- Reads a line with the words `(G0|G1) [X] [Y] [Z] [E] F`, which stand between blanks. -/
def Words.read (line : String) : Option Words := do
  let command :: words := line.toList.splitOn ' ' | none
  let form ← form? command
  let (x, words) := word? 'X' words
  let (y, words) := word? 'Y' words
  let (z, words) := word? 'Z' words
  let (feed, words) := word? 'E' words
  let (some speed, []) := word? 'F' words | none
  return ⟨form, x, y, z, feed, speed⟩

/-- The words for the letters that have a text. -/
def spell (texts : List (Char × Option String)) : List (List Char) :=
  texts.filterMap fun (letter, text) => text.map (letter :: ·.toList)

theorem word?_of_notMem {letter : Char} {texts : List (Char × Option String)}
    (unused : letter ∉ texts.map Prod.fst) : word? letter (spell texts) = (none, spell texts) := by
  have differs : ∀ word ∈ spell texts, word.head? ≠ some letter := by
    intro word member same
    obtain ⟨⟨other, text⟩, atText, spelled⟩ := List.mem_filterMap.mp member
    obtain ⟨_, _, rfl⟩ := Option.map_eq_some_iff.mp spelled
    exact unused (List.mem_map.mpr ⟨_, atText, Option.some.inj same⟩)
  unfold word?
  split
  · rename_i first text rest spelled
    have other : first ≠ letter := by
      intro same
      exact differs (first :: text) (spelled ▸ List.mem_cons_self) (congrArg some same)
    rw [if_neg other, spelled]
  · rfl

theorem word?_spell {letter : Char} {texts : List (Char × Option String)}
    (unused : letter ∉ texts.map Prod.fst) (text : Option String) :
    word? letter (spell ((letter, text) :: texts)) = (text, spell texts) := by
  cases text with
  | none =>
    have passed : spell ((letter, none) :: texts) = spell texts := rfl
    rw [passed, word?_of_notMem unused]
  | some text => simp [spell, word?]

/-- The words behind the command. -/
def Words.tail (words : Words) : List (List Char) :=
  spell [('X', words.x), ('Y', words.y), ('Z', words.z), ('E', words.feed), ('F', some words.speed)]

/-- The line with these words. -/
def Words.line (words : Words) : List Char :=
  (MoveForm.command words.form).toList ++ words.tail.flatMap (' ' :: ·)

theorem splitOn_blank {first : List Char} {rest : List (List Char)} (clean : ' ' ∉ first)
    (cleanRest : ∀ word ∈ rest, ' ' ∉ word) :
    (first ++ rest.flatMap (' ' :: ·)).splitOn ' ' = first :: rest := by
  induction rest generalizing first with
  | nil =>
    rw [List.flatMap_nil, List.append_nil]
    exact List.splitOn_eq_singleton clean
  | cons word rest ih =>
    obtain ⟨cleanWord, cleanLater⟩ := List.forall_mem_cons.mp cleanRest
    rw [List.flatMap_cons, List.cons_append, List.splitOn_append_cons_self_of_not_mem clean,
      ih cleanWord cleanLater]

theorem form?_command (form : MoveForm) : form? (MoveForm.command form).toList = some form := by
  cases form <;> rfl

theorem blank_notMem_command (form : MoveForm) : ' ' ∉ (MoveForm.command form).toList := by
  cases form <;> decide

theorem Words.read_line {words : Words} (clean : ∀ word ∈ words.tail, ' ' ∉ word) :
    read (String.ofList words.line) = some words := by
  obtain ⟨form, x, y, z, feed, speed⟩ := words
  have pieces := splitOn_blank (blank_notMem_command form) clean
  unfold read
  rw [String.toList_ofList, line, pieces]
  simp [form?_command, tail, word?_spell]
  rfl

/-- Whether no axis is written. -/
def Words.isIdle (words : Words) : Bool := words.x.isNone && words.y.isNone && words.z.isNone

/-- The text for an axis, unless it is the one written last. -/
def axisText (always : Bool) (written : Option String) (text : String) : Option String :=
  if always || written != some text then some text else none

/-- The words for a move, over the texts written last. -/
def Words.ofMove (axes : Axes) (move : Move Float) : Words where
  form := move.form
  x := axisText move.kind.isOrigin axes.x (valueText move.target.x)
  y := axisText move.kind.isOrigin axes.y (valueText move.target.y)
  z := axisText move.kind.isOrigin axes.z (valueText move.target.z)
  feed := move.feed.map valueText
  speed := speedText move.speed

/-- Words as they stand in a line, each behind a blank. -/
def spaced (texts : List (Char × Option String)) : List Char :=
  (spell texts).flatMap (' ' :: ·)

theorem spaced_append (texts more : List (Char × Option String)) :
    spaced (texts ++ more) = spaced texts ++ spaced more := by
  simp [spaced, spell]

theorem axisWord_toList (letter : String) (mark : Char) (same : letter.toList = [mark])
    (always : Bool) (written : Option String) (text : String) :
    (axisWord always letter written text).toList =
      spaced [(mark, axisText always written text)] := by
  unfold axisWord axisText
  split
  · simp [spaced, spell, same]
  · rfl

theorem axisWords_toList (axes : Axes) (move : Move Float) :
    (axisWords move.kind.isOrigin axes move.target).toList =
      spaced [('X', (Words.ofMove axes move).x), ('Y', (Words.ofMove axes move).y),
        ('Z', (Words.ofMove axes move).z)] := by
  unfold axisWords
  rw [String.toList_append, String.toList_append, axisWord_toList "X" 'X' rfl,
    axisWord_toList "Y" 'Y' rfl, axisWord_toList "Z" 'Z' rfl, ← spaced_append, ← spaced_append]
  rfl

theorem isEmpty_axisWords (axes : Axes) (move : Move Float) :
    (axisWords move.kind.isOrigin axes move.target).isEmpty = (Words.ofMove axes move).isIdle := by
  have emptiness : (axisWords move.kind.isOrigin axes move.target).isEmpty =
      (axisWords move.kind.isOrigin axes move.target).toList.isEmpty := by
    rw [Bool.eq_iff_iff, String.isEmpty_iff, List.isEmpty_iff, String.toList_eq_nil_iff]
  rw [emptiness, axisWords_toList]
  unfold Words.isIdle
  cases (Words.ofMove axes move).x <;> cases (Words.ofMove axes move).y <;>
    cases (Words.ofMove axes move).z <;> rfl

theorem Words.line_ofMove (axes : Axes) (move : Move Float) :
    (Words.ofMove axes move).line = (MoveForm.command move.form).toList ++
      (axisWords move.kind.isOrigin axes move.target).toList ++
        spaced [('E', move.feed.map valueText)] ++ " F".toList ++ (speedText move.speed).toList := by
  have speed : " F".toList ++ (speedText move.speed).toList =
      spaced [('F', some (speedText move.speed))] := by
    simp [spaced, spell]
  rw [axisWords_toList, List.append_assoc, speed, List.append_assoc, ← spaced_append,
    List.append_assoc, ← spaced_append]
  rfl

/-- The writer writes the words of a move, unless none of them is for an axis. -/
theorem moveLine?_eq (axes : Axes) (move : Move Float) :
    moveLine? axes move = if (Words.ofMove axes move).isIdle then none
      else some (String.ofList (Words.ofMove axes move).line) := by
  unfold moveLine?
  rw [← isEmpty_axisWords, Words.line_ofMove]
  refine congrArg (fun line => if (axisWords move.kind.isOrigin axes move.target).isEmpty then none
    else some line) (String.toList_inj.mp ?_)
  cases move.feed with
  | none => simp [spaced, spell]
  | some feed => simp [spaced, spell]

theorem eq_of_axisText {always : Bool} {written : Option String} {text shown : String}
    (ok : axisText always written text = some shown) : shown = text := by
  unfold axisText at ok
  split at ok
  · exact (Option.some.inj ok).symm
  · cases ok

/-- Every word is a letter and a number. -/
theorem eq_of_mem_tail {axes : Axes} {move : Move Float} {word : List Char}
    (member : word ∈ (Words.ofMove axes move).tail) :
    ∃ letter ∈ ['X', 'Y', 'Z', 'E', 'F'], ∃ places v,
      word = letter :: (numberText places v).toList := by
  obtain ⟨⟨letter, text⟩, atText, spelled⟩ := List.mem_filterMap.mp member
  obtain ⟨shown, atShown, rfl⟩ := Option.map_eq_some_iff.mp spelled
  simp only [List.mem_cons, Prod.mk.injEq, List.not_mem_nil, or_false] at atText
  rcases atText with ⟨rfl, rfl⟩ | ⟨rfl, rfl⟩ | ⟨rfl, rfl⟩ | ⟨rfl, rfl⟩ | ⟨rfl, rfl⟩
  · exact ⟨'X', by decide, 6, move.target.x, by rw [eq_of_axisText atShown]; rfl⟩
  · exact ⟨'Y', by decide, 6, move.target.y, by rw [eq_of_axisText atShown]; rfl⟩
  · exact ⟨'Z', by decide, 6, move.target.z, by rw [eq_of_axisText atShown]; rfl⟩
  · obtain ⟨feed, _, rfl⟩ := Option.map_eq_some_iff.mp atShown
    exact ⟨'E', by decide, 6, feed, rfl⟩
  · obtain rfl := Option.some.inj atShown
    exact ⟨'F', by decide, 1, move.speed, rfl⟩

theorem blank_notMem_tail (axes : Axes) (move : Move Float) :
    ∀ word ∈ (Words.ofMove axes move).tail, ' ' ∉ word := by
  intro word member
  obtain ⟨letter, known, places, v, rfl⟩ := eq_of_mem_tail member
  have notBlank : ' ' ≠ letter := by
    rintro rfl
    exact absurd known (by decide)
  exact List.not_mem_cons_of_ne_of_not_mem notBlank (blank_notMem_numberText places v)

/-- A line that is written reads back as the words of its move, and some axis is among them. -/
theorem read_moveLine {axes : Axes} {move : Move Float} {line : String}
    (written : moveLine? axes move = some line) :
    Words.read line = some (Words.ofMove axes move) ∧ (Words.ofMove axes move).isIdle = false := by
  rw [moveLine?_eq] at written
  split at written
  · cases written
  · rename_i isWritten
    obtain rfl := Option.some.inj written
    exact ⟨Words.read_line (blank_notMem_tail axes move), Bool.not_eq_true _ ▸ isWritten⟩

theorem axisText_eq_none {always : Bool} {written : Option String} {text : String} :
    axisText always written text = none ↔ always = false ∧ written = some text := by
  unfold axisText
  cases always with
  | true => simp
  | false => simp [bne]

theorem axisText_or (always : Bool) (written : Option String) (text : String) :
    (axisText always written text <|> written) = some text := by
  cases shown : axisText always written text with
  | none => exact (axisText_eq_none.mp shown).2
  | some other => exact congrArg some (eq_of_axisText shown)

theorem Words.isIdle_ofMove {axes : Axes} {move : Move Float} :
    (ofMove axes move).isIdle = true ↔
      move.kind.isOrigin = false ∧ axes = .ofPosition move.target := by
  obtain ⟨x, y, z⟩ := axes
  simp only [isIdle, ofMove, Bool.and_eq_true, Option.isNone_iff_eq_none, axisText_eq_none,
    Axes.ofPosition, Axes.mk.injEq]
  constructor
  · rintro ⟨⟨⟨later, onX⟩, -, onY⟩, -, onZ⟩
    exact ⟨later, onX, onY, onZ⟩
  · rintro ⟨later, onX, onY, onZ⟩
    exact ⟨⟨⟨later, onX⟩, later, onY⟩, later, onZ⟩

theorem Words.ofMove_origin {axes : Axes} {move : Move Float} (origin : move.kind = .origin) :
    (ofMove axes move).x.isSome ∧ (ofMove axes move).y.isSome ∧ (ofMove axes move).z.isSome := by
  simp [ofMove, axisText, origin, MoveKind.isOrigin]

theorem moveLine?_eq_none {axes : Axes} {move : Move Float} :
    moveLine? axes move = none ↔
      move.kind.isOrigin = false ∧ axes = .ofPosition move.target := by
  rw [moveLine?_eq, ← Words.isIdle_ofMove]
  split <;> simp_all

end Toolpath.Gcode
