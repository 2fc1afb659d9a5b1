import Toolpath.Proofs.Job.Outcome
import Toolpath.Proofs.Gcode.Suppression
import Toolpath.Proofs.Plot.Segments
import Mathlib.Data.List.Destutter

/-!
G-code and plot of one design. Both are made from one walk, so they fail alike, and the places that a
reader of the G-code goes through are the vertices of the plot, as far as the digits that are written
tell them apart.
-/

namespace Toolpath

/-- A value that repeats the last one before it is left out. -/
theorem destutter'_append_repeated {β : Type} [DecidableEq β] {first last : β} {earlier : List β}
    (atLast : (first :: earlier).getLast? = some last) (later : List β) :
    (earlier ++ last :: later).destutter' (· ≠ ·) first =
      (earlier ++ later).destutter' (· ≠ ·) first := by
  induction earlier generalizing first with
  | nil =>
    obtain rfl := Option.some.inj atLast
    exact List.destutter'_cons_neg _ (fun differs => differs rfl)
  | cons next earlier ih =>
    rw [List.getLast?_cons_cons] at atLast
    rw [List.cons_append, List.cons_append]
    by_cases differs : first ≠ next
    · rw [List.destutter'_cons_pos _ differs, List.destutter'_cons_pos _ differs, ih atLast]
    · rw [List.destutter'_cons_neg _ differs, List.destutter'_cons_neg _ differs]
      obtain rfl := not_not.mp differs
      exact ih atLast

theorem Segment.map_target_along {α : Type} (on : Bool) (first : Position α)
    (rest : List (Position α)) : (along on (first :: rest)).map (·.target) = rest := by
  induction rest generalizing first with
  | nil => rfl
  | cons next rest ih => exact congrArg (next :: ·) (ih next)

namespace Plot.Stroke

variable {β : Type} [DecidableEq β] {text : Position Float → β}

theorem destutter'_places {stroke : Stroke Float} {entry : Position Float} {first : β}
    {earlier : List β} (atEntry : stroke.places.head? = some entry)
    (atLast : (first :: earlier).getLast? = some (text entry)) (later : List β) :
    (earlier ++ (stroke.places.map text ++ later)).destutter' (· ≠ ·) first =
        (earlier ++ (stroke.segments.map (text ·.target) ++ later)).destutter' (· ≠ ·) first ∧
      (first :: (earlier ++ stroke.segments.map (text ·.target))).getLast? =
        stroke.places.getLast?.map text := by
  obtain ⟨on, places⟩ := stroke
  cases places with
  | nil => cases atEntry
  | cons start rest =>
    obtain rfl := Option.some.inj atEntry
    have targets : (segments ⟨on, start :: rest⟩).map (text ·.target) = rest.map text := by
      conv_rhs => rw [← Segment.map_target_along on start rest, List.map_map]
      rfl
    rw [targets]
    refine ⟨destutter'_append_repeated atLast (rest.map text ++ later), ?_⟩
    rw [← List.cons_append, List.getLast?_append, atLast, List.getLast?_cons, List.getLast?_map]
    cases rest.getLast? <;> rfl

/-- Joined strokes run through where they start and the targets of their segments. -/
theorem destutter'_flatMap_places
    (respects : ∀ {p q : Position Float}, p.Alike q → text p = text q)
    {stroke : Stroke Float} {rest : List (Stroke Float)} {entry : Position Float} {first : β}
    {earlier : List β} (joined : List.IsChain Joined (stroke :: rest))
    (atEntry : stroke.places.head? = some entry)
    (atLast : (first :: earlier).getLast? = some (text entry)) :
    (earlier ++ ((stroke :: rest).flatMap places).map text).destutter' (· ≠ ·) first =
      (earlier ++ ((stroke :: rest).flatMap segments).map (text ·.target)).destutter' (· ≠ ·)
        first := by
  -- What is gathered in `earlier` ends at the joint, so the next stroke enters with a repetition.
  induction rest generalizing stroke entry earlier with
  | nil =>
    obtain ⟨same, -⟩ := destutter'_places atEntry atLast []
    simpa using same
  | cons next rest ih =>
    obtain ⟨⟨exit, atExit, start, atStart, alike⟩, chain⟩ := List.isChain_cons_cons.mp joined
    obtain ⟨same, last⟩ :=
      destutter'_places atEntry atLast (((next :: rest).flatMap places).map text)
    have reached : (first :: (earlier ++ stroke.segments.map (text ·.target))).getLast? =
        some (text start) := by
      rw [last, atExit, ← respects alike]
      rfl
    calc
      _ = (earlier ++ (stroke.places.map text ++
            ((next :: rest).flatMap places).map text)).destutter' (· ≠ ·) first := by
        rw [List.flatMap_cons, List.map_append]
      _ = (earlier ++ stroke.segments.map (text ·.target) ++
            ((next :: rest).flatMap places).map text).destutter' (· ≠ ·) first := by
        rw [same, List.append_assoc]
      _ = (earlier ++ stroke.segments.map (text ·.target) ++
            ((next :: rest).flatMap segments).map (text ·.target)).destutter' (· ≠ ·) first :=
        ih chain atStart reached
      _ = _ := by
        rw [List.flatMap_cons (x := stroke), List.map_append, List.append_assoc]

theorem destutter_flatMap_places
    (respects : ∀ {p q : Position Float}, p.Alike q → text p = text q)
    {stroke : Stroke Float} {rest : List (Stroke Float)} {entry : Position Float}
    (joined : List.IsChain Joined (stroke :: rest)) (atEntry : stroke.places.head? = some entry) :
    (((stroke :: rest).flatMap places).map text).destutter (· ≠ ·) =
      (text entry :: ((stroke :: rest).flatMap segments).map (text ·.target)).destutter
        (· ≠ ·) := by
  have behind := @destutter'_flatMap_places β _ text respects stroke rest entry (text entry) []
    joined atEntry rfl
  obtain ⟨later, places⟩ : ∃ later, (stroke :: rest).flatMap places = entry :: later := by
    obtain ⟨on, places⟩ := stroke
    cases places with
    | nil => cases atEntry
    | cons start further =>
      obtain rfl := Option.some.inj atEntry
      exact ⟨_, rfl⟩
  rw [List.nil_append, List.nil_append, places, List.map_cons,
    List.destutter'_cons_neg _ (fun differs => differs rfl)] at behind
  rw [places]
  exact behind

end Plot.Stroke

namespace Gcode

theorem valueText_eq_of_alike {v w : Float} (alike : Scalar.Alike v w) :
    valueText v = valueText w := by
  have zero : ∀ {u : Float}, (u == 0.0) = true → valueText u = "0" := by
    intro u isZero
    rcases FloatScalar.beq_zero_iff.mp isZero with rfl | rfl
    · decide +kernel
    · decide +kernel
  rcases alike with rfl | ⟨first, second⟩
  · rfl
  · rw [zero first, zero second]

theorem Axes.ofPosition_eq_of_alike {p q : Position Float} (alike : p.Alike q) :
    Axes.ofPosition p = .ofPosition q := by
  obtain ⟨x, y, z⟩ := alike
  unfold ofPosition
  rw [valueText_eq_of_alike x, valueText_eq_of_alike y, valueText_eq_of_alike z]

/-- What a reader knows after each of some lines. -/
def replayed (lines : List String) : List Axes := (lines.scanl Axes.follow {}).tail

theorem Page.scanl_moves {page : Page} {emissions : List (Emission Float)}
    (others : (∀ move ∈ Motion.moves emissions, move.kind.isOrigin = false) ∨
      page.axes = {} ∧ ∀ move ∈ (Motion.moves emissions).tail, move.kind.isOrigin = false) :
    ((page.moves emissions).filterMap Prod.snd).scanl Axes.follow page.axes =
      ((Motion.moves emissions).map (Axes.ofPosition ·.target)).destutter' (· ≠ ·) page.axes := by
  induction emissions generalizing page with
  | nil => rfl
  | cons emission rest ih =>
    obtain ⟨action, machine⟩ := emission
    cases isMove : action.move? with
    | none =>
      obtain ⟨same, axes⟩ := moves_cons_other isMove page machine rest
      have moves : Motion.moves (⟨action, machine⟩ :: rest) = Motion.moves rest := by
        rw [Motion.moves_cons, isMove]
        rfl
      rw [moves] at others ⊢
      rw [← axes] at others ⊢
      rw [same]
      exact ih others
    | some way =>
      obtain rfl := Action.eq_of_move? isMove
      have moves : Motion.moves (⟨.move way, machine⟩ :: rest) = way :: Motion.moves rest := rfl
      rw [moves] at others ⊢
      have laterOthers : ∀ move ∈ Motion.moves rest, move.kind.isOrigin = false := by
        rcases others with all | ⟨-, behind⟩
        · exact (List.forall_mem_cons.mp all).2
        · exact behind
      have later := @ih (page.take (.move way)) (.inl laterOthers)
      rw [take_move_axes] at later
      rw [moves_cons_move, List.map_cons]
      cases written : moveLine? page.axes way with
      | none =>
        obtain ⟨-, same⟩ := moveLine?_eq_none.mp written
        rw [List.destutter'_cons_neg _ (fun differs => differs same), same]
        exact later
      | some line =>
        have differs : page.axes ≠ .ofPosition way.target := by
          intro same
          rcases others with all | ⟨empty, -⟩
          · have left := moveLine?_eq_none.mpr ⟨(List.forall_mem_cons.mp all).1, same⟩
            rw [left] at written
            cases written
          · rw [empty] at same
            cases same
        rw [List.destutter'_cons_pos _ differs, ← later, ← Axes.follow_moveLine written]
        exact List.scanl_cons

/-- From the first point on a reader of the lines goes through the texts of the targets of all moves,
and each text once. -/
theorem replayed_moves {emissions : List (Emission Float)}
    (itinerary : Tool.Itinerary ⟨none, false⟩ emissions) :
    replayed ((({} : Page).moves emissions).filterMap Prod.snd) =
      ((Motion.moves emissions).map (Axes.ofPosition ·.target)).destutter (· ≠ ·) := by
  have behind : ∀ move ∈ (Motion.moves emissions).tail, move.kind.isOrigin = false := by
    cases moves : Motion.moves emissions with
    | nil => exact fun _ member => (List.not_mem_nil member).elim
    | cons first rest => exact (itinerary.moves_nowhere moves).2.1
  have onLines := @Page.scanl_moves {} emissions (.inr ⟨rfl, behind⟩)
  unfold replayed
  refine (congrArg List.tail onLines).trans ?_
  cases Motion.moves emissions with
  | nil => rfl
  | cons first rest =>
    have differs : ({} : Page).axes ≠ .ofPosition first.target := by
      intro same
      cases same
    rw [List.map_cons, List.destutter'_cons_pos _ differs]
    rfl

end Gcode

namespace Plot

/-- The places of the vertices of a plot, as G-code writes them. -/
def Drawing.texts (drawing : Drawing Float) : List Gcode.Axes :=
  drawing.paths.flatMap fun path => path.dots.map fun dot => Gcode.Axes.ofPosition dot.position

theorem map_target_of_alike {segments others : List (Segment Float)}
    (same : List.Forall₂ Segment.Alike segments others) :
    segments.map (·.target) = others.map (·.target) := by
  induction same with
  | nil => rfl
  | cons alike _ ih => rw [List.map_cons, List.map_cons, alike.target, ih]

theorem destutter_strokes {emissions : List (Emission Float)} {first second : Move Float}
    {rest : List (Move Float)} {strokes : List (Stroke Float)}
    (itinerary : Tool.Itinerary ⟨none, false⟩ emissions)
    (moves : Motion.moves emissions = first :: second :: rest)
    (draws : Draws (Motion.segments emissions) strokes)
    (long : ∀ stroke ∈ strokes, 1 < stroke.places.length) :
    ((strokes.flatMap Stroke.places).map Gcode.Axes.ofPosition).destutter (· ≠ ·) =
      ((first :: second :: rest).map (Gcode.Axes.ofPosition ·.target)).destutter (· ≠ ·) := by
  obtain ⟨joined, same⟩ := draws
  obtain ⟨origin, others, starts⟩ := itinerary.moves_nowhere moves
  have drawn : Motion.segments emissions =
      (second :: rest).map fun move => ⟨move.start, move.target, move.kind.isPrint⟩ := by
    have none : first.segment? = .none := by simp [Move.segment?, origin, MoveKind.isOrigin]
    unfold Motion.segments
    rw [moves, List.filterMap_cons_none none, ← List.filterMap_eq_map]
    refine List.filterMap_congr fun move member => ?_
    simp [Move.segment?, others move member]
  rw [drawn] at same
  have targets := map_target_of_alike same
  cases strokes with
  | nil => cases same
  | cons stroke strokes =>
    obtain ⟨on, places⟩ := stroke
    rcases places with _ | ⟨entry, _ | ⟨next, further⟩⟩
    · simp at long
    · simp at long
    have near : entry.Alike second.start := by
      cases same with
      | cons alike _ => exact alike.start
    have entries : Gcode.Axes.ofPosition entry = .ofPosition first.target :=
      Gcode.Axes.ofPosition_eq_of_alike (near.trans (starts second rfl).symm)
    have mapped : ((⟨on, entry :: next :: further⟩ :: strokes).flatMap Stroke.segments).map
        (Gcode.Axes.ofPosition ·.target) =
        (second :: rest).map (Gcode.Axes.ofPosition ·.target) := by
      have texts := congrArg (List.map Gcode.Axes.ofPosition) targets
      rwa [List.map_map, List.map_map, List.map_map] at texts
    rw [Stroke.destutter_flatMap_places Gcode.Axes.ofPosition_eq_of_alike joined rfl, mapped,
      entries]
    rfl

/-- A reader of the lines for moves goes through the vertices of the plot. -/
theorem Drawing.texts_eq_replayed {emissions : List (Emission Float)} {style : Style}
    (itinerary : Tool.Itinerary ⟨none, false⟩ emissions) (shown : style.hideTravel = false)
    (moved : ∃ move ∈ Motion.moves emissions, move.kind.isOrigin = false) :
    Gcode.replayed ((({} : Gcode.Page).moves emissions).filterMap Prod.snd) =
      (Drawing.ofEmissions style emissions).texts.destutter (· ≠ ·) := by
  have texts : (Drawing.ofEmissions style emissions).texts =
      ((Drawing.ofEmissions style emissions).strokes.flatMap Stroke.places).map
        Gcode.Axes.ofPosition := by
    unfold Drawing.texts Drawing.strokes
    rw [List.flatMap_map, List.map_flatMap]
    refine List.flatMap_congr fun path _ => ?_
    unfold Path.stroke
    rw [List.map_map]
    rfl
  obtain ⟨move, member, later⟩ := moved
  rw [Gcode.replayed_moves itinerary, texts]
  match moves : Motion.moves emissions with
  | [] =>
    rw [moves] at member
    cases member
  | [first] =>
    rw [moves] at member
    obtain rfl := List.mem_singleton.mp member
    have origin := (itinerary.moves_nowhere moves).1
    rw [origin] at later
    cases later
  | first :: second :: rest =>
    exact (destutter_strokes itinerary moves (Drawing.shown_draws itinerary shown)
      fun _ => Drawing.long_of_mem).symm

end Plot

namespace Job

variable {machine : MachineControls Float}

theorem plot_of_setup {profile : Profile Float} {initialization : Initialization Float}
    (atSetup : setup machine = .ok ⟨profile, initialization⟩) (style : Plot.Style)
    (design : Design Float) :
    plot ⟨machine, style, true⟩ design = (Plot.Drawing.ofDesign style profile.commands
      initialization (profile.wrap design)).mapError .configuration :=
  plot_eq_ofDesign atSetup design

/-- With the printer's procedures drawn, G-code and plot for the same controls fail with the same
error or have the same remarks. The G-code is made of the lines that the emissions add. If the plot shows
travel and there is a move behind the first point, a reader of the lines that the moves add among them
goes through the places of the plot. -/
theorem gcode_plot_agree (machine : MachineControls Float) (style : Plot.Style)
    (design : Design Float) :
    (∃ error, gcode machine design = .error error ∧
      plot ⟨machine, style, true⟩ design = .error error) ∨
    ∃ chosen run drawing, setup machine = .ok chosen ∧
      Motion.run chosen.profile.commands chosen.initialization (chosen.profile.wrap design) =
        .ok run ∧
      gcode machine design =
        .ok ⟨"\n".intercalate (Gcode.Page.ofEmissions run.emissions).lines.reverse, run.diagnostics⟩ ∧
      (Gcode.Page.ofEmissions run.emissions).IsMadeOf run.emissions ∧
      plot ⟨machine, style, true⟩ design = .ok ⟨drawing, run.diagnostics⟩ ∧
      (style.hideTravel = false →
        (∃ move ∈ Motion.moves run.emissions, move.kind.isOrigin = false) →
        Gcode.replayed ((({} : Gcode.Page).moves run.emissions).filterMap Prod.snd) =
          drawing.texts.destutter (· ≠ ·)) := by
  cases atSetup : setup machine with
  | error error =>
    refine .inl ⟨error, ?_, ?_⟩
    · rw [gcode, atSetup]
      rfl
    · rw [plot, atSetup]
      rfl
  | ok chosen =>
    obtain ⟨profile, initialization⟩ := chosen
    rw [gcode_of_setup atSetup, plot_of_setup atSetup]
    cases ok : Motion.run profile.commands initialization (profile.wrap design) with
    | error fault =>
      refine .inl ⟨.configuration fault, ?_, ?_⟩
      · rw [Gcode.ofDesign, Motion.render_of_error ok]
        rfl
      · rw [Plot.Drawing.ofDesign, Motion.render_of_error ok]
        rfl
    | ok run =>
      refine .inr ⟨_, run, Plot.Drawing.ofEmissions style run.emissions, rfl, ok, ?_, ?_, ?_, ?_⟩
      · rw [Gcode.ofDesign, Motion.render_of_ok ok]
        rfl
      · exact Gcode.Page.isMadeOf_ofEmissions run.emissions
      · rw [Plot.Drawing.ofDesign, Motion.render_of_ok ok]
        rfl
      · exact Plot.Drawing.texts_eq_replayed (Motion.run_itinerary ok)

/-- Drifts below the last digit, then a switch on the spot. -/
def creeping : Design Float :=
  Design.ofElements (Gcode.drifting ++ [.event (.toggle true), .event (.toggle false),
    .point { x := some 1.0000002 }, .point { z := some 0 }])

theorem gcode_plot_agree_creeping :
    ∃ (run : Run Float) (drawing : Plot.Drawing Float),
      Motion.run .generic {} ((Profile.bare : Profile Float).wrap creeping) = .ok run ∧
      gcode {} creeping = .ok ⟨"G1 X0 Y0 Z0 F8000 ; corner\nG1 X0.000001 E0 F8000\nG1 X1 E0 F8000\n" ++
        "G1 Z2 E0 F8000\nG1 Z0 E0 F8000", []⟩ ∧
      (Gcode.Page.ofEmissions run.emissions).IsMadeOf run.emissions ∧
      plot ⟨{}, {}, true⟩ creeping = .ok ⟨drawing, []⟩ ∧
      (({} : Gcode.Page).moves run.emissions).filterMap Prod.snd = ["G1 X0 Y0 Z0 F8000",
        "G1 X0.000001 E0 F8000", "G1 X1 E0 F8000", "G1 Z2 E0 F8000", "G1 Z0 E0 F8000"] ∧
      drawing.texts.destutter (· ≠ ·) = [⟨some "0", some "0", some "0"⟩,
        ⟨some "0.000001", some "0", some "0"⟩, ⟨some "1", some "0", some "0"⟩,
        ⟨some "1", some "0", some "2"⟩, ⟨some "1", some "0", some "0"⟩] := by
  have atSetup : setup ({} : MachineControls Float) = .ok ⟨Profile.bare, {}⟩ := rfl
  have generic : (Profile.bare : Profile Float).commands = .generic := rfl
  have walked : (Motion.run .generic {} ((Profile.bare : Profile Float).wrap creeping)).toOption.map
      (fun run => ((Motion.moves run.emissions).any (!·.kind.isOrigin),
        (({} : Gcode.Page).moves run.emissions).filterMap Prod.snd,
        (Gcode.Page.ofEmissions run.emissions).lines.reverse, run.diagnostics)) =
      some (true, ["G1 X0 Y0 Z0 F8000", "G1 X0.000001 E0 F8000", "G1 X1 E0 F8000", "G1 Z2 E0 F8000",
          "G1 Z0 E0 F8000"],
        ["G1 X0 Y0 Z0 F8000 ; corner", "G1 X0.000001 E0 F8000", "G1 X1 E0 F8000", "G1 Z2 E0 F8000",
          "G1 Z0 E0 F8000"], []) := by
    decide +kernel
  obtain ⟨run, ok, seen⟩ := Motion.exists_run_of_map walked
  simp only [Prod.mk.injEq] at seen
  obtain ⟨moved, told, lines, silent⟩ := seen
  rcases gcode_plot_agree {} {} creeping with
    ⟨error, fails, -⟩ | ⟨chosen, other, drawing, setUp, again, onGcode, made, onPlot, same⟩
  · rw [gcode_of_setup atSetup, Gcode.ofDesign, generic, Motion.render_of_ok ok] at fails
    cases fails
  · rw [atSetup] at setUp
    obtain rfl := Except.ok.inj setUp
    obtain rfl := Except.ok.inj (ok.symm.trans again)
    obtain ⟨move, member, notOrigin⟩ := List.any_eq_true.mp moved
    have onward : ∃ move ∈ Motion.moves run.emissions, move.kind.isOrigin = false :=
      ⟨move, member, by simpa using notOrigin⟩
    refine ⟨run, drawing, ok, ?_, made, ?_, told, ?_⟩
    · rw [onGcode, lines, silent]
      rfl
    · rw [onPlot, silent]
    · rw [← same rfl onward, told]
      decide +kernel

end Job

end Toolpath
