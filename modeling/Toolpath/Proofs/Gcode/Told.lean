import Toolpath.Proofs.Gcode.Words
import Toolpath.Proofs.Motion.Commentary
import Toolpath.Proofs.Motion.Itinerary
import Mathlib.Data.List.Induction

/-!
The lines of a page, each with the emission that adds it. What an action adds stands below all that is
there, and nothing there changes but the last line, which may get a note behind it. So a page is what the
emissions add, one after the other, and the line of a move or a feed is told apart from all others by the
action.
-/

namespace Toolpath

/-- Actions that drive an axis, of the tool or of the extruder. -/
def Action.drives {α : Type} : Action α → Bool
  | .move _ | .extruded .. => true
  | _ => false

namespace Gcode

/-- The word of a line for the extruder axis, as a reader finds it. -/
def feedWord? (line : String) : Option String := (Words.read line).bind (·.feed)

theorem feedWord?_moveLine {axes : Axes} {move : Move Float} {line : String}
    (written : moveLine? axes move = some line) : feedWord? line = move.feed.map valueText := by
  unfold feedWord?
  rw [(read_moveLine written).1]
  rfl

/-- The line of a feed on the spot has no word for another axis. -/
theorem feedWord?_extruded (feed speed : Float) :
    feedWord? ("G1 E" ++ valueText feed ++ " F" ++ speedText speed) = some (valueText feed) := by
  let words : Words := ⟨.linear, none, none, none, some (valueText feed), speedText speed⟩
  have spelled : "G1 E" ++ valueText feed ++ " F" ++ speedText speed = String.ofList words.line := by
    refine String.toList_inj.mp ?_
    simp [words, Words.line, Words.tail, spell, MoveForm.command]
  have clean : ∀ word ∈ words.tail, ' ' ∉ word := by
    intro word member
    have either : word = 'E' :: (valueText feed).toList ∨ word = 'F' :: (speedText speed).toList := by
      simpa [words, Words.tail, spell] using member
    rcases either with rfl | rfl
    · exact List.not_mem_cons_of_ne_of_not_mem (by decide) (blank_notMem_numberText 6 feed)
    · exact List.not_mem_cons_of_ne_of_not_mem (by decide) (blank_notMem_numberText 1 speed)
  unfold feedWord?
  rw [spelled, Words.read_line clean]
  rfl

/-- A line as it may stand on a page: with notes behind it that were given. -/
def Noted (given : List String) (line written : String) : Prop :=
  ∃ notes ⊆ given, written = notes.foldl (fun text note => text ++ " ; " ++ note) line

namespace Noted

variable {given : List String}

theorem refl (line : String) : Noted given line line := ⟨[], List.nil_subset _, rfl⟩

theorem trans {first second third : String} (noted : Noted given first second)
    (again : Noted given second third) : Noted given first third := by
  obtain ⟨notes, within, rfl⟩ := noted
  obtain ⟨more, withinToo, rfl⟩ := again
  exact ⟨notes ++ more, List.append_subset.mpr ⟨within, withinToo⟩, List.foldl_append.symm⟩

theorem mono {more : List String} (within : given ⊆ more) {line written : String}
    (noted : Noted given line written) : Noted more line written := by
  obtain ⟨notes, inside, rfl⟩ := noted
  exact ⟨notes, List.Subset.trans inside within, rfl⟩

theorem lines_refl (lines : List String) : List.Forall₂ (Noted given) lines lines :=
  List.forall₂_same.mpr fun line _ => refl line

theorem lines_trans {first second third : List String} (noted : List.Forall₂ (Noted given) first second)
    (again : List.Forall₂ (Noted given) second third) : List.Forall₂ (Noted given) first third := by
  induction noted generalizing third with
  | nil => exact again
  | cons here _ ih =>
    cases again with
    | cons hereToo later => exact .cons (here.trans hereToo) (ih later)

end Noted

namespace Page

/-- The page behind some emissions. -/
def behind (page : Page) (emissions : List (Emission Float)) : Page :=
  emissions.foldl (fun page emission => page.take emission.action) page

/-- The lines that an action adds below those of a page. -/
def added (page : Page) (action : Action Float) : List String :=
  (page.take action).lines.reverse.drop page.lines.length

/-- Emissions, each with the lines that it adds to the page as those before it leave the page. -/
def entries (page : Page) : List (Emission Float) → List (Emission Float × List String)
  | [] => []
  | emission :: rest =>
    (emission, page.added emission.action) :: (page.take emission.action).entries rest

/-- The line that a move or a feed on the spot adds to a page, if it adds one. -/
def line? (page : Page) (action : Action Float) : Option String :=
  if action.drives then (page.added action).head? else none

/-- Emissions, each with the line that it adds as a move or a feed. -/
def told (page : Page) (emissions : List (Emission Float)) : List (Emission Float × Option String) :=
  (page.entries emissions).map fun entry =>
    (entry.1, if entry.1.action.drives then entry.2.head? else none)

/-- The moves among emissions, each with the line that it adds. -/
def moves (page : Page) (emissions : List (Emission Float)) : List (Move Float × Option String) :=
  (page.told emissions).filterMap fun entry => entry.1.action.move?.map (·, entry.2)

/-- A page consists of the lines that emissions add to an empty one, in their order and with nothing
between them, each perhaps with notes of comments behind it. A move or a feed adds no more than one. -/
structure IsMadeOf (page : Page) (emissions : List (Emission Float)) : Prop where
  lines : List.Forall₂ (Noted (Motion.commentary emissions))
    ((({} : Page).entries emissions).flatMap Prod.snd) page.lines.reverse
  single : ∀ entry ∈ ({} : Page).entries emissions, entry.1.action.drives = true → entry.2.length ≤ 1

theorem take_move_none {page : Page} {move : Move Float} (left : moveLine? page.axes move = none) :
    page.take (.move move) = page := by
  show page.writeMove move = page
  unfold writeMove
  rw [left]

theorem take_move_some {page : Page} {move : Move Float} {line : String}
    (written : moveLine? page.axes move = some line) :
    page.take (.move move) = ⟨line :: page.lines, .ofPosition move.target⟩ := by
  show page.writeMove move = _
  unfold writeMove
  rw [written]

/-- A move adds its line to the others and changes none of them. -/
theorem take_move_lines (page : Page) (move : Move Float) :
    (page.take (.move move)).lines = (moveLine? page.axes move).toList ++ page.lines := by
  cases written : moveLine? page.axes move with
  | none => rw [take_move_none written, Option.toList_none, List.nil_append]
  | some line =>
    rw [take_move_some written]
    rfl

/-- After a move the page holds the texts of its target, whether a line is written or not. -/
theorem take_move_axes (page : Page) (move : Move Float) :
    (page.take (.move move)).axes = .ofPosition move.target := by
  cases written : moveLine? page.axes move with
  | none =>
    rw [take_move_none written]
    exact (moveLine?_eq_none.mp written).2
  | some line =>
    rw [take_move_some written]

theorem writeNote_axes (page : Page) (note : String) : (page.writeNote note).axes = page.axes := by
  unfold writeNote
  split <;> rfl

theorem writeComment_axes (page : Page) (text note : Option String) :
    (page.writeComment text note).axes = page.axes := by
  cases note with
  | none => cases text <;> rfl
  | some note =>
    have noted := page.writeNote_axes note
    cases text with
    | none => exact noted
    | some text => exact noted

theorem take_axes {page : Page} {action : Action Float} (other : ∀ move, action ≠ .move move) :
    (page.take action).axes = page.axes := by
  cases action with
  | move way => exact absurd rfl (other way)
  | comment text note => exact page.writeComment_axes text note
  | toggled | announced | instruction | extruded | fan | hotend | bed | marker => rfl

theorem added_of_append {page : Page} {action : Action Float} {lines : List String}
    (below : (page.take action).lines = lines ++ page.lines) : page.added action = lines.reverse := by
  unfold added
  rw [below, List.reverse_append, List.drop_left' List.length_reverse]

theorem added_move (page : Page) (move : Move Float) :
    page.added (.move move) = (moveLine? page.axes move).toList := by
  rw [added_of_append (page.take_move_lines move)]
  cases moveLine? page.axes move <;> rfl

theorem added_extruded (page : Page) (feed speed : Float) :
    page.added (.extruded feed speed) = ["G1 E" ++ valueText feed ++ " F" ++ speedText speed] :=
  @added_of_append _ _ [_] rfl

theorem line?_move (page : Page) (move : Move Float) :
    page.line? (.move move) = moveLine? page.axes move := by
  show (page.added (.move move)).head? = _
  rw [added_move]
  cases moveLine? page.axes move <;> rfl

theorem line?_extruded (page : Page) (feed speed : Float) : page.line? (.extruded feed speed) =
    some ("G1 E" ++ valueText feed ++ " F" ++ speedText speed) := by
  show (page.added (.extruded feed speed)).head? = _
  rw [added_extruded]
  rfl

theorem length_added_le {page : Page} {action : Action Float} (drives : action.drives = true) :
    (page.added action).length ≤ 1 := by
  cases action with
  | move move =>
    rw [added_move]
    cases moveLine? page.axes move <;> simp
  | extruded feed speed =>
    rw [added_extruded]
    exact Nat.le_refl 1
  | toggled | announced | instruction | comment | fan | hotend | bed | marker => cases drives

/-- What is added below lines that have only got notes. -/
theorem stands_of_append {page after : Page} {kept lines given : List String}
    (below : after.lines.reverse = kept ++ lines)
    (noted : List.Forall₂ (Noted given) page.lines.reverse kept) :
    List.Forall₂ (Noted given) (page.lines.reverse ++ after.lines.reverse.drop page.lines.length)
      after.lines.reverse := by
  have length : kept.length = page.lines.length := noted.length_eq.symm.trans List.length_reverse
  rw [below, List.drop_left' length]
  exact List.rel_append noted (Noted.lines_refl lines)

theorem stands_writeComment (page : Page) (text note : Option String) :
    List.Forall₂ (Noted (note.toList ++ text.toList))
      (page.lines.reverse ++ (page.writeComment text note).lines.reverse.drop page.lines.length)
      (page.writeComment text note).lines.reverse := by
  -- The text always stands below, so it is enough to look at the page that it is written on.
  have texted {page noted : Page} {kept lines given : List String} (below : noted.lines.reverse = kept ++ lines)
      (same : List.Forall₂ (Noted given) page.lines.reverse kept) : List.Forall₂ (Noted given)
        (page.lines.reverse ++ (noted.writeComment text none).lines.reverse.drop page.lines.length)
        (noted.writeComment text none).lines.reverse := by
    cases text with
    | none => exact stands_of_append below same
    | some text =>
      have further : (("; " ++ text) :: noted.lines).reverse = kept ++ (lines ++ ["; " ++ text]) := by
        rw [List.reverse_cons, below, List.append_assoc]
      exact stands_of_append further same
  cases note with
  | none => exact texted (List.append_nil _).symm (Noted.lines_refl _)
  | some note =>
    show List.Forall₂ _ (_ ++ ((page.writeNote note).writeComment text none).lines.reverse.drop _)
      ((page.writeNote note).writeComment text none).lines.reverse
    obtain ⟨lines, axes⟩ := page
    cases lines with
    | nil => exact texted (List.nil_append _).symm .nil
    | cons last before =>
      have noted : Noted (note :: text.toList) last (last ++ " ; " ++ note) :=
        ⟨[note], List.cons_subset_cons _ (List.nil_subset _), rfl⟩
      refine texted (List.append_nil _).symm ?_
      show List.Forall₂ _ (last :: before).reverse ((last ++ " ; " ++ note) :: before).reverse
      rw [List.reverse_cons, List.reverse_cons]
      exact List.rel_append (Noted.lines_refl _) (.cons noted .nil)

/-- An action adds its lines below the others, and gives a note at most to the last of them. -/
theorem stands_take (page : Page) (action : Action Float) :
    List.Forall₂ (Noted action.commentary) (page.lines.reverse ++ page.added action)
      (page.take action).lines.reverse := by
  have below {lines : List String} (added : (page.take action).lines = lines ++ page.lines) :
      List.Forall₂ (Noted action.commentary) (page.lines.reverse ++ page.added action)
        (page.take action).lines.reverse :=
    stands_of_append (added ▸ List.reverse_append) (Noted.lines_refl _)
  cases action with
  | move move => exact below (page.take_move_lines move)
  | comment text note => exact page.stands_writeComment text note
  | toggled | marker => exact @below [] rfl
  | announced | instruction | extruded | fan | hotend | bed => exact below rfl

theorem stands_behind (page : Page) (emissions : List (Emission Float)) :
    List.Forall₂ (Noted (Motion.commentary emissions))
      (page.lines.reverse ++ (page.entries emissions).flatMap Prod.snd)
      (page.behind emissions).lines.reverse := by
  induction emissions generalizing page with
  | nil =>
    rw [entries, List.flatMap_nil, List.append_nil]
    exact Noted.lines_refl _
  | cons emission rest ih =>
    have texts : Motion.commentary (emission :: rest) =
        emission.action.commentary ++ Motion.commentary rest := List.flatMap_cons
    have here := (page.stands_take emission.action).imp fun _ _ =>
      Noted.mono (List.subset_append_left _ (Motion.commentary rest))
    have later := (ih (page.take emission.action)).imp fun _ _ =>
      Noted.mono (List.subset_append_right emission.action.commentary _)
    rw [texts, entries, List.flatMap_cons, ← List.append_assoc]
    exact Noted.lines_trans (List.rel_append here (Noted.lines_refl _)) later

theorem single_entries (page : Page) (emissions : List (Emission Float)) :
    ∀ entry ∈ page.entries emissions, entry.1.action.drives = true → entry.2.length ≤ 1 := by
  induction emissions generalizing page with
  | nil => exact List.forall_mem_nil _
  | cons emission rest ih => exact List.forall_mem_cons.mpr ⟨length_added_le, ih _⟩

/-- Every line of a page has its emission. -/
theorem isMadeOf_ofEmissions (emissions : List (Emission Float)) :
    (ofEmissions emissions).IsMadeOf emissions :=
  ⟨stands_behind {} emissions, single_entries {} emissions⟩

theorem map_fst_told (page : Page) (emissions : List (Emission Float)) :
    (page.told emissions).map Prod.fst = emissions := by
  induction emissions generalizing page with
  | nil => rfl
  | cons emission rest ih => exact congrArg (emission :: ·) (ih _)

theorem told_split {page : Page} {emissions : List (Emission Float)}
    {before after : List (Emission Float × Option String)} {emission : Emission Float}
    {line : Option String} (split : page.told emissions = before ++ (emission, line) :: after) :
    emissions = before.map Prod.fst ++ emission :: after.map Prod.fst ∧
      line = (page.behind (before.map Prod.fst)).line? emission.action := by
  refine ⟨?_, ?_⟩
  · have all := page.map_fst_told emissions
    rw [split, List.map_append, List.map_cons] at all
    exact all.symm
  · induction before generalizing page emissions with
    | nil =>
      cases emissions with
      | nil => cases split
      | cons first rest =>
        obtain ⟨here, -⟩ := List.cons.inj split
        obtain ⟨rfl, rfl⟩ := Prod.mk.inj here
        rfl
    | cons entry before ih =>
      cases emissions with
      | nil => cases split
      | cons first rest =>
        obtain ⟨rfl, later⟩ := List.cons.inj split
        exact ih later

theorem moves_cons_move (page : Page) (move : Move Float) (machine : Machine Float)
    (rest : List (Emission Float)) : page.moves (⟨.move move, machine⟩ :: rest) =
      (move, moveLine? page.axes move) :: (page.take (.move move)).moves rest := by
  rw [← line?_move]
  rfl

theorem moves_cons_other {action : Action Float} (none : action.move? = none)
    (page : Page) (machine : Machine Float) (rest : List (Emission Float)) :
    page.moves (⟨action, machine⟩ :: rest) = (page.take action).moves rest ∧
      (page.take action).axes = page.axes := by
  have other : ∀ move, action ≠ .move move := by
    rintro move rfl
    cases none
  refine ⟨?_, take_axes other⟩
  cases action with
  | move way => cases none
  | toggled | announced | instruction | comment | extruded | fan | hotend | bed | marker => rfl

/-- A page holds the texts of the target of the last move. -/
theorem axes_behind (page : Page) (emissions : List (Emission Float)) :
    (page.behind emissions).axes =
      ((Motion.moves emissions).getLast?.map (Axes.ofPosition ·.target)).getD page.axes := by
  induction emissions using List.reverseRecOn with
  | nil => rfl
  | append_singleton before emission ih =>
    have moves : Motion.moves (before ++ [emission]) =
        Motion.moves before ++ emission.action.move?.toList := by
      unfold Motion.moves
      rw [List.filterMap_append]
      cases isMove : emission.action.move? <;> simp [isMove]
    have behind : page.behind (before ++ [emission]) =
        (page.behind before).take emission.action := List.foldl_concat ..
    rw [behind, moves]
    cases isMove : emission.action.move? with
    | none =>
      have other : ∀ move, emission.action ≠ .move move := by
        intro move same
        rw [same] at isMove
        cases isMove
      rw [take_axes other, ih, Option.toList_none, List.append_nil]
    | some move =>
      rw [Action.eq_of_move? isMove, take_move_axes, Option.toList_some, List.getLast?_concat]
      rfl

/-- A line that has a word for the extruder axis has the one that its action writes. -/
theorem feedWord?_line? {page : Page} {action : Action Float} {line word : String}
    (added : page.line? action = some line) (read : feedWord? line = some word) :
    ∃ feed, word = valueText feed ∧ ((∃ speed, action = .extruded feed speed) ∨
      ∃ move, action = .move move ∧ move.feed = some feed) := by
  cases action with
  | move move =>
    rw [line?_move] at added
    rw [feedWord?_moveLine added] at read
    obtain ⟨feed, onMove, rfl⟩ := Option.map_eq_some_iff.mp read
    exact ⟨feed, rfl, .inr ⟨move, rfl, onMove⟩⟩
  | extruded feed speed =>
    rw [line?_extruded] at added
    obtain rfl := Option.some.inj added
    rw [feedWord?_extruded] at read
    exact ⟨feed, (Option.some.inj read).symm, .inl ⟨speed, rfl⟩⟩
  | toggled | announced | instruction | comment | fan | hotend | bed | marker => cases added

end Page

end Gcode

end Toolpath
