import Toolpath.Proofs.Gcode.Told
import Toolpath.Proofs.Scalar.FloatEquality

/-!
What is left out of the lines of moves. A reader that keeps the text of an axis where a line leaves
the axis out knows after every move where the tool is, to the last digit that is ever written.
-/

namespace Toolpath.Gcode

/-- The texts of the axes after a line: an axis that the line leaves out keeps its text. -/
def Axes.follow (axes : Axes) (line : String) : Axes :=
  match Words.read line with
  | some words => ⟨words.x <|> axes.x, words.y <|> axes.y, words.z <|> axes.z⟩
  | none => axes

/-- The texts of the axes after lines. -/
def replay (lines : List String) : Axes := lines.foldl Axes.follow {}

theorem Axes.follow_moveLine {axes : Axes} {move : Move Float} {line : String}
    (written : moveLine? axes move = some line) : axes.follow line = .ofPosition move.target := by
  unfold follow
  rw [(read_moveLine written).1]
  show Axes.mk _ _ _ = Axes.mk _ _ _
  congr 1 <;> exact axisText_or _ _ _

/-- The texts of the target of the last of some moves; without one, those given. -/
def Axes.after (axes : Axes) (told : List (Move Float × Option String)) : Axes :=
  told.foldl (fun _ entry => .ofPosition entry.1.target) axes

theorem Axes.after_concat (axes : Axes) (told : List (Move Float × Option String))
    (last : Move Float × Option String) :
    axes.after (told ++ [last]) = .ofPosition last.1.target := by
  unfold after
  rw [List.foldl_append]
  rfl

namespace Page

theorem map_fst_moves (page : Page) (emissions : List (Emission Float)) :
    (page.moves emissions).map Prod.fst = Motion.moves emissions := by
  unfold moves Motion.moves
  conv_rhs => rw [← page.map_fst_told emissions, List.filterMap_map]
  rw [List.map_filterMap]
  refine List.filterMap_congr fun entry _ => ?_
  rw [Option.map_map]
  exact Option.map_id'

/-- What is written for a move, and what a reader of the lines before it knows, depends on the move
before it alone. -/
theorem moves_split {page : Page} {emissions : List (Emission Float)}
    {earlier later : List (Move Float × Option String)} {move : Move Float} {line : Option String}
    (split : page.moves emissions = earlier ++ (move, line) :: later) :
    line = moveLine? (page.axes.after earlier) move ∧
      (earlier.filterMap Prod.snd).foldl Axes.follow page.axes = page.axes.after earlier := by
  induction emissions generalizing page earlier with
  | nil =>
    have none : [] = earlier ++ (move, line) :: later := split
    simp at none
  | cons emission rest ih =>
    obtain ⟨action, machine⟩ := emission
    cases isMove : action.move? with
    | none =>
      obtain ⟨same, axes⟩ := moves_cons_other isMove page machine rest
      rw [same] at split
      rw [← axes]
      exact ih split
    | some way =>
      obtain rfl := Action.eq_of_move? isMove
      rw [moves_cons_move] at split
      cases earlier with
      | nil =>
        obtain ⟨told, -⟩ := List.cons.inj split
        obtain ⟨rfl, rfl⟩ := Prod.mk.inj told
        exact ⟨rfl, rfl⟩
      | cons told earlier =>
        obtain ⟨rfl, splitRest⟩ := List.cons.inj split
        obtain ⟨atLine, replayed⟩ := ih splitRest
        rw [take_move_axes] at atLine replayed
        refine ⟨atLine, ?_⟩
        cases written : moveLine? page.axes way with
        | none =>
          -- No line, so the reader stays where it is, and that is where the move goes.
          have same := (moveLine?_eq_none.mp written).2
          show (earlier.filterMap Prod.snd).foldl Axes.follow page.axes = _
          rw [same]
          exact replayed
        | some text =>
          show (earlier.filterMap Prod.snd).foldl Axes.follow (page.axes.follow text) = _
          rw [Axes.follow_moveLine written]
          exact replayed

/-- What holds of every move of a page that is started empty: the shape of its line, what a reader
of the lines up to it knows, and when it has no line. -/
def Suppresses (told : List (Move Float × Option String)) : Prop :=
  ∀ earlier move line later, told = earlier ++ (move, line) :: later →
    (∀ text ∈ line, ∃ words, Words.read text = some words ∧ words.isIdle = false ∧
      (move.kind = .origin → words.x.isSome ∧ words.y.isSome ∧ words.z.isSome)) ∧
    replay (earlier.filterMap Prod.snd ++ line.toList) = .ofPosition move.target ∧
    (line = none ↔ ∃ before ∈ earlier.getLast?,
      Axes.ofPosition before.1.target = .ofPosition move.target)

theorem not_origin_of_split {emissions : List (Emission Float)}
    (itinerary : Tool.Itinerary ⟨none, false⟩ emissions) {page : Page}
    {earlier later : List (Move Float × Option String)} {move : Move Float} {line : Option String}
    (split : page.moves emissions = earlier ++ (move, line) :: later) (behind : earlier ≠ []) :
    move.kind.isOrigin = false := by
  cases earlier with
  | nil => exact absurd rfl behind
  | cons first earlier =>
    have moves : Motion.moves emissions =
        first.1 :: (earlier.map Prod.fst ++ move :: later.map Prod.fst) := by
      rw [← page.map_fst_moves, split]
      simp
    exact (itinerary.moves_nowhere moves).2.1 move (by simp)

theorem suppresses_moves {emissions : List (Emission Float)}
    (itinerary : Tool.Itinerary ⟨none, false⟩ emissions) :
    Suppresses (({} : Page).moves emissions) := by
  intro earlier move line later split
  obtain ⟨atLine, replayed⟩ := moves_split split
  refine ⟨?_, ?_, ?_⟩
  · rintro text rfl
    obtain ⟨read, notIdle⟩ := read_moveLine atLine.symm
    exact ⟨_, read, notIdle, Words.ofMove_origin⟩
  · unfold replay
    rw [List.foldl_append]
    refine (congrArg (line.toList.foldl Axes.follow) replayed).trans ?_
    cases line with
    | none => exact (moveLine?_eq_none.mp atLine.symm).2
    | some text => exact Axes.follow_moveLine atLine.symm
  · rw [atLine, moveLine?_eq_none]
    rcases List.eq_nil_or_concat' earlier with rfl | ⟨before, last, rfl⟩
    · constructor
      · rintro ⟨-, unwritten⟩
        cases unwritten
      · rintro ⟨before, atLast, -⟩
        cases atLast
    · -- A second move to a first point would be written though no text changes; there is none.
      have laterMove := not_origin_of_split itinerary split (by simp)
      rw [Axes.after_concat, List.getLast?_concat]
      constructor
      · rintro ⟨-, same⟩
        exact ⟨last, rfl, same⟩
      · rintro ⟨before, atLast, same⟩
        obtain rfl := Option.some.inj atLast
        exact ⟨laterMove, same⟩

end Page

/-- The G-code of a walk that ends without a fault leaves out no coordinate that its reader does not
know already. Its text is made of the lines that the emissions add, one after the other, and by the lines
of the moves among them the reader knows after every move the text of every axis of the target. -/
theorem ofDesign_suppresses {commands : CommandTable} {initialization : Initialization Float}
    {design : Design Float} {run : Run Float}
    (ok : Motion.run commands initialization design = .ok run) :
    ofDesign commands initialization design =
        .ok ⟨"\n".intercalate (Page.ofEmissions run.emissions).lines.reverse, run.diagnostics⟩ ∧
      (Page.ofEmissions run.emissions).IsMadeOf run.emissions ∧
      (({} : Page).moves run.emissions).map Prod.fst = Motion.moves run.emissions ∧
      Page.Suppresses (({} : Page).moves run.emissions) := by
  refine ⟨?_, Page.isMadeOf_ofEmissions run.emissions, Page.map_fst_moves {} run.emissions, ?_⟩
  · exact Motion.render_of_ok ok
  · exact Page.suppresses_moves (Motion.run_itinerary ok)

/-- Axes left open, a drift below the last digit that is written with a note behind it, and a zero with
a sign. -/
def drifting : List (Element Float) :=
  [.point { x := some 0, y := some 0, z := some 0 }, .point { x := some 0.0000004 },
    .event (.comment none (some "corner")), .point { x := some 0.0000008 },
    .point { y := some (-0.0000001) }, .point { x := some 1 }, .point { y := some (-0.0), z := some 2 }]

theorem ofDesign_suppresses_drifting :
    ∃ run, Motion.run .generic {} (Design.ofElements drifting) = .ok run ∧
      ofDesign .generic {} (Design.ofElements drifting) =
        .ok ⟨"G1 X0 Y0 Z0 F8000 ; corner\nG1 X0.000001 E0 F8000\nG1 X1 E0 F8000\nG1 Z2 E0 F8000", []⟩ ∧
      (Page.ofEmissions run.emissions).IsMadeOf run.emissions ∧
      Page.Suppresses (({} : Page).moves run.emissions) ∧
      (({} : Page).moves run.emissions).map Prod.snd =
        [some "G1 X0 Y0 Z0 F8000", none, some "G1 X0.000001 E0 F8000", none,
          some "G1 X1 E0 F8000", some "G1 Z2 E0 F8000"] := by
  have written : (Motion.run .generic {} (Design.ofElements drifting)).toOption.map (fun run =>
      ((({} : Page).moves run.emissions).map Prod.snd, (Page.ofEmissions run.emissions).lines.reverse,
        run.diagnostics)) =
      some ([some "G1 X0 Y0 Z0 F8000", none, some "G1 X0.000001 E0 F8000", none,
          some "G1 X1 E0 F8000", some "G1 Z2 E0 F8000"],
        ["G1 X0 Y0 Z0 F8000 ; corner", "G1 X0.000001 E0 F8000", "G1 X1 E0 F8000", "G1 Z2 E0 F8000"],
        []) := by
    decide +kernel
  obtain ⟨run, ok, seen⟩ := Motion.exists_run_of_map written
  simp only [Prod.mk.injEq] at seen
  obtain ⟨told, lines, silent⟩ := seen
  obtain ⟨text, made, -, suppresses⟩ := ofDesign_suppresses ok
  refine ⟨run, ok, ?_, made, suppresses, told⟩
  rw [text, lines, silent]
  rfl

end Toolpath.Gcode
