import Toolpath.Proofs.Plot.Strokes
import Toolpath.Proofs.Scalar.FloatEquality
import Toolpath.Plot.Document
import Mathlib.Data.List.Chain

/-!
What a plot draws. Its paths, taken as strokes, have the segments of the walk: whatever the order of
switches and points, none is lost, drawn twice or drawn in the wrong state of the extruder.
-/

namespace Toolpath.Plot

variable {α : Type}

def Path.stroke (path : Path α) : Stroke α := ⟨path.on, path.dots.map (·.position)⟩

/-- The paths of a plot. -/
def Drawing.strokes (drawing : Drawing α) : List (Stroke α) := drawing.paths.map Path.stroke

/-- The pairs of places that follow one another in a path of a plot, path by path. -/
def Drawing.segments (drawing : Drawing α) : List (Segment α) :=
  drawing.strokes.flatMap Stroke.segments

/-- The places of a trail, in the order of its vertices. -/
def Trail.stroke (trail : Trail α) : Stroke α := ⟨trail.on, trail.vertices.map (·.position)⟩

/-- What is drawn so far, in order. -/
def Sketch.strokes (sketch : Sketch α) : List (Stroke α) :=
  sketch.trails.reverse.map fun trail => ⟨trail.on, trail.vertices.reverse.map (·.position)⟩

variable [Scalar α]

theorem Sketch.branch_strokes (sketch : Sketch α) (machine : Machine α) :
    (sketch.branch machine).strokes =
      sketch.strokes ++ [⟨machine.extruder.on, machine.position.toList⟩] := by
  have start : (Trail.start machine).vertices.reverse.map (·.position) = machine.position.toList := by
    unfold Trail.start
    cases machine.position <;> rfl
  simp only [strokes, branch, List.reverse_cons, List.map_append, List.map_cons, List.map_nil, start]
  rfl

theorem Sketch.visit_strokes_first {sketch : Sketch α} (nothing : sketch.strokes = [])
    (target : Position α) (machine : Machine α) :
    (sketch.visit target machine).strokes = [⟨machine.extruder.on, machine.position.toList⟩] := by
  have empty : sketch.trails = [] := by simpa [strokes] using nothing
  have visited : (sketch.visit target machine).strokes = (sketch.branch machine).strokes := by
    simp only [visit, empty]
    rfl
  rw [visited, branch_strokes, nothing, List.nil_append]

theorem Sketch.visit_strokes {sketch : Sketch α} {before : List (Stroke α)} {on : Bool}
    {places : List (Position α)} (drawn : sketch.strokes = before ++ [⟨on, places⟩])
    (target : Position α) (machine : Machine α) :
    (sketch.visit target machine).strokes = before ++ [⟨on, places ++ [target]⟩] := by
  unfold visit
  split
  · rename_i empty
    simp [strokes, empty] at drawn
  · rename_i trail others lasts
    simp only [strokes, lasts, List.reverse_cons, List.map_append, List.map_cons, List.map_nil]
      at drawn
    obtain ⟨rfl, last⟩ := List.append_inj' drawn rfl
    obtain ⟨rfl, rfl⟩ := Stroke.mk.inj (List.cons.inj last).1
    simp [strokes, Vertex.of]

/-- Strokes each of which starts where the one before it ends, and whose segments are those made. -/
structure Draws (made : List (Segment α)) (strokes : List (Stroke α)) : Prop where
  joined : List.IsChain Stroke.Joined strokes
  same : List.Forall₂ Segment.Alike (strokes.flatMap Stroke.segments) made

namespace Draws

variable {made : List (Segment α)} {before : List (Stroke α)} {on : Bool}
  {places : List (Position α)} {last start : Position α}

theorem go (draws : Draws made (before ++ [⟨on, places ++ [last]⟩])) (alike : last.Alike start)
    (target : Position α) :
    Draws (made ++ [⟨start, target, on⟩]) (before ++ [⟨on, places ++ [last] ++ [target]⟩]) := by
  obtain ⟨chain, same⟩ := draws
  constructor
  · obtain ⟨earlier, -, joined⟩ := List.isChain_append.mp chain
    refine List.isChain_append.mpr ⟨earlier, .singleton _, ?_⟩
    intro stroke atEnd next atStart
    obtain rfl := Option.some.inj atStart
    obtain ⟨exit, atExit, entry, atEntry, enters⟩ := joined stroke atEnd _ rfl
    exact ⟨exit, atExit, entry, List.mem_head?_append_of_mem_head? atEntry, enters⟩
  · have longer : Stroke.segments ⟨on, places ++ [last] ++ [target]⟩ =
        Stroke.segments ⟨on, places ++ [last]⟩ ++ [⟨last, target, on⟩] := Segment.along_concat ..
    rw [List.flatMap_append, List.flatMap_singleton, longer, ← List.append_assoc,
      ← List.flatMap_singleton Stroke.segments, ← List.flatMap_append]
    exact List.rel_append same (.cons ⟨alike, rfl, rfl⟩ .nil)

theorem switch (draws : Draws made (before ++ [⟨on, places ++ [last]⟩])) (alike : last.Alike start)
    (switched : Bool) :
    Draws made (before ++ [⟨on, places ++ [last]⟩] ++ [⟨switched, [start]⟩]) := by
  obtain ⟨chain, same⟩ := draws
  constructor
  · refine List.isChain_append.mpr ⟨chain, .singleton _, ?_⟩
    intro stroke atEnd next atStart
    rw [List.getLast?_concat] at atEnd
    obtain rfl := Option.some.inj atEnd
    obtain rfl := Option.some.inj atStart
    exact ⟨last, List.getLast?_concat, start, rfl, alike⟩
  · rw [List.flatMap_append]
    simpa [Stroke.segments, Segment.along] using same

end Draws

/-- Strokes that end where a tool is and draw the segments it has made. -/
inductive Tracks : Tool α → List (Segment α) → List (Stroke α) → Prop
  | nowhere {on : Bool} : Tracks ⟨none, on⟩ [] []
  | somewhere {on : Bool} {place last : Position α} {places : List (Position α)}
      {before : List (Stroke α)} {made : List (Segment α)} :
      last.Alike place → Draws made (before ++ [⟨on, places ++ [last]⟩]) →
      Tracks ⟨some place, on⟩ made (before ++ [⟨on, places ++ [last]⟩])

namespace Tracks

theorem of_alike {tool after : Tool α} {made : List (Segment α)} {strokes : List (Stroke α)}
    (tracks : Tracks tool made strokes) (alike : tool.Alike after) : Tracks after made strokes := by
  cases tracks with
  | nowhere =>
    rw [alike.of_none]
    exact .nowhere
  | somewhere near draws =>
    obtain ⟨moved, same, rfl⟩ := alike.of_some
    exact .somewhere (near.trans same) draws

theorem draws {tool : Tool α} {made : List (Segment α)} {strokes : List (Stroke α)}
    (tracks : Tracks tool made strokes) : Draws made strokes := by
  cases tracks with
  | nowhere => exact ⟨.nil, .nil⟩
  | somewhere _ draws => exact draws

end Tracks

theorem Draws.tracks {made : List (Segment α)} {before : List (Stroke α)} {on : Bool}
    {place : Position α} (draws : Draws made (before ++ [⟨on, [place]⟩])) :
    Tracks ⟨some place, on⟩ made (before ++ [⟨on, [place]⟩]) :=
  @Tracks.somewhere _ _ on place place [] before made (.refl place) draws

/-- An emission that fits the tool keeps the sketch on its track. -/
theorem Sketch.take_tracks {tool : Tool α} {made : List (Segment α)} {strokes : List (Stroke α)}
    {sketch : Sketch α} {emission : Emission α} (drawn : sketch.strokes = strokes)
    (tracks : Tracks tool made strokes) (fits : tool.Fits emission.machine emission.action) :
    Tracks emission.machine.tool (made ++ (emission.action.move?.bind Move.segment?).toList)
      (sketch.take emission).strokes := by
  obtain ⟨action, machine⟩ := emission
  -- One case for each way of fitting the tool: only the move to the first point meets an empty sketch.
  cases fits with
  | @origin move nowhere kind _ after =>
    obtain ⟨placed, sameOn⟩ := Tool.mk.inj after
    have none : move.segment? = none := by simp [Move.segment?, kind, MoveKind.isOrigin]
    cases tracks with
    | somewhere => cases nowhere
    | @nowhere on =>
      show Tracks machine.tool ([] ++ move.segment?.toList)
        (sketch.visit move.target machine).strokes
      rw [visit_strokes_first drawn, none, after, placed, sameOn]
      have draws : Draws [] ([] ++ [⟨on, [move.target]⟩]) := ⟨.singleton _, .nil⟩
      exact draws.tracks
  | @moved move start placed near kind print after =>
    have one : move.segment? = some ⟨move.start, move.target, tool.on⟩ := by
      simp [Move.segment?, kind, print]
    cases tracks with
    | nowhere => cases placed
    | somewhere alike draws =>
      obtain rfl := Option.some.inj placed
      show Tracks machine.tool (made ++ move.segment?.toList)
        (sketch.visit move.target machine).strokes
      rw [visit_strokes drawn, one, after]
      exact .somewhere (.refl _) (draws.go (alike.trans near) move.target)
  | @toggled switched differs after =>
    show Tracks machine.tool (made ++ []) (sketch.take ⟨.toggled switched, machine⟩).strokes
    rw [List.append_nil]
    cases tracks with
    | nowhere =>
      -- Before the first point a switch leaves no stroke behind, whatever its number.
      have still : machine.tool = ⟨none, switched⟩ := after.of_none
      have nowhere : machine.position = none := congrArg Tool.place still
      have unbranched : sketch.take ⟨.toggled switched, machine⟩ = sketch := by
        simp [take, nowhere]
      rw [unbranched, drawn, still]
      exact .nowhere
    | @somewhere _ place last places before _ alike draws =>
      obtain ⟨moved, near, still⟩ := after.of_some
      have placed : machine.position = some moved := congrArg Tool.place still
      have turned : machine.extruder.on = switched := congrArg Tool.on still
      have branched : sketch.take ⟨.toggled switched, machine⟩ = sketch.branch machine := by
        simp [take, placed]
      rw [branched, branch_strokes, drawn, placed, turned]
      show Tracks machine.tool made _
      rw [still]
      exact (draws.switch (alike.trans near) switched).tracks
  | still isStill after =>
    have none : action.move? = none := by cases action <;> first | rfl | cases isStill
    have kept : (sketch.take ⟨action, machine⟩).strokes = sketch.strokes := by
      cases action <;> first | rfl | cases isStill
    show Tracks machine.tool (made ++ (action.move?.bind Move.segment?).toList) _
    rw [none, kept, drawn, Option.bind_none, Option.toList_none, List.append_nil]
    exact tracks.of_alike after

theorem Sketch.fold_tracks {tool : Tool α} {emissions : List (Emission α)}
    (itinerary : tool.Itinerary emissions) {made : List (Segment α)} {strokes : List (Stroke α)}
    {sketch : Sketch α} (drawn : sketch.strokes = strokes) (tracks : Tracks tool made strokes) :
    Draws (made ++ Motion.segments emissions) (emissions.foldl take sketch).strokes := by
  induction itinerary generalizing made strokes sketch with
  | done =>
    show Draws (made ++ []) sketch.strokes
    rw [List.append_nil, drawn]
    exact tracks.draws
  | @next tool emission rest fits _ ih =>
    rw [Motion.segments_cons, ← List.append_assoc]
    exact ih rfl (take_tracks drawn tracks fits)

omit [Scalar α] in
theorem Sketch.kept_strokes (sketch : Sketch α) (hideTravel : Bool) :
    (sketch.kept hideTravel).map Trail.stroke =
      (sketch.strokes.filter Stroke.isLong).filter fun stroke => stroke.on || !hideTravel := by
  have each : (fun trail : Trail α =>
      decide (1 < trail.vertices.length) && (trail.on || !hideTravel)) =
      (fun stroke => (stroke.on || !hideTravel) && stroke.isLong) ∘ Trail.stroke := by
    funext trail
    rw [Bool.and_comm]
    simp [Trail.stroke, Stroke.isLong]
  unfold kept strokes
  rw [each, List.filter_filter, ← List.filter_map, List.map_map]
  rfl

theorem Palette.paint_strokes (palette : Palette α) (path place : Nat) (trails : List (Trail α)) :
    (palette.paint path place trails).map Path.stroke = trails.map Trail.stroke := by
  induction trails generalizing path place with
  | nil => rfl
  | cons trail rest ih =>
    have same : ((trail.vertices.zipIdx place).map fun numbered =>
        palette.dot trail.on path numbered.2 numbered.1).map (·.position) =
        trail.vertices.map (·.position) := by
      conv_rhs => rw [← List.zipIdx_map_fst place trail.vertices]
      rw [List.map_map, List.map_map]
      rfl
    unfold paint
    rw [List.map_cons, List.map_cons, ih]
    exact congrArg (⟨trail.on, ·⟩ :: rest.map Trail.stroke) same

/-- The paths of a plot are the strokes of its sketch but for those that are left out. -/
theorem Drawing.ofEmissions_strokes (style : Style) (emissions : List (Emission α)) :
    (Drawing.ofEmissions style emissions).strokes =
      ((Sketch.ofEmissions emissions).strokes.filter Stroke.isLong).filter
        fun stroke => stroke.on || !style.hideTravel := by
  unfold strokes ofEmissions
  rw [Palette.paint_strokes, Sketch.kept_strokes]

theorem Drawing.long_of_mem {style : Style} {emissions : List (Emission α)} {stroke : Stroke α}
    (member : stroke ∈ (Drawing.ofEmissions style emissions).strokes) :
    1 < stroke.places.length := by
  rw [ofEmissions_strokes] at member
  exact of_decide_eq_true (List.mem_filter.mp (List.mem_filter.mp member).1).2

theorem Sketch.ofEmissions_draws {emissions : List (Emission α)}
    (itinerary : Tool.Itinerary ⟨none, false⟩ emissions) :
    Draws (Motion.segments emissions) (Sketch.ofEmissions emissions).strokes := by
  have blank : ({} : Sketch α).strokes = [] := rfl
  exact fold_tracks itinerary blank .nowhere

theorem Drawing.shown_draws {style : Style} {emissions : List (Emission α)}
    (itinerary : Tool.Itinerary ⟨none, false⟩ emissions) (shown : style.hideTravel = false) :
    Draws (Motion.segments emissions) (Drawing.ofEmissions style emissions).strokes := by
  obtain ⟨joined, same⟩ := Sketch.ofEmissions_draws itinerary
  have all : (Drawing.ofEmissions style emissions).strokes =
      (Sketch.ofEmissions emissions).strokes.filter Stroke.isLong := by
    rw [ofEmissions_strokes, shown]
    exact List.filter_eq_self.mpr fun stroke _ => Bool.or_true stroke.on
  rw [all]
  refine ⟨Stroke.isChain_filter joined, ?_⟩
  rwa [Stroke.flatMap_segments_long]

theorem Drawing.hidden_segments {style : Style} {emissions : List (Emission α)}
    (itinerary : Tool.Itinerary ⟨none, false⟩ emissions) (isHidden : style.hideTravel = true) :
    List.Forall₂ Segment.Alike (Drawing.ofEmissions style emissions).segments
      ((Motion.segments emissions).filter (·.on)) := by
  obtain ⟨-, same⟩ := Sketch.ofEmissions_draws itinerary
  have printed : (Drawing.ofEmissions style emissions).strokes =
      ((Sketch.ofEmissions emissions).strokes.filter Stroke.isLong).filter (·.on) := by
    rw [ofEmissions_strokes, isHidden]
    exact List.filter_congr fun stroke _ => Bool.or_false stroke.on
  unfold segments
  rw [printed, Stroke.flatMap_segments_on, Stroke.flatMap_segments_long]
  refine List.rel_filter ?_ same
  intro segment other alike
  show segment.on = true ↔ other.on = true
  rw [alike.on]

/-- The lists of the document of a path are as long as the path has dots. -/
def Path.Tabled (path : Path Float) : Prop :=
  ∃ xs ys zs colors widths heights : List Value,
    path.toValue = .object [("xvals", .array xs), ("yvals", .array ys), ("zvals", .array zs),
      ("colors", .array colors), ("widths", .array widths), ("heights", .array heights),
      ("extruderOn", .bool path.on)] ∧
    ∀ list ∈ [xs, ys, zs, colors, widths, heights], list.length = path.dots.length

theorem Path.tabled (path : Path Float) : path.Tabled := by
  refine ⟨_, _, _, _, _, _, rfl, ?_⟩
  simp

/-- The plot of a walk that ends without a fault shows its moves and nothing else: all of them, or
with travel hidden those that extrude. A piece starts where its move starts but for the signs of
zeros. -/
theorem Drawing.ofDesign_draws {commands : CommandTable} {initialization : Initialization Float}
    {design : Design Float} {run : Run Float} (style : Style)
    (ok : Motion.run commands initialization design = .ok run) :
    ∃ drawing : Drawing Float,
      Drawing.ofDesign style commands initialization design = .ok ⟨drawing, run.diagnostics⟩ ∧
      List.Forall₂ Segment.Alike drawing.segments
        (if style.hideTravel then (Motion.segments run.emissions).filter (·.on)
          else Motion.segments run.emissions) ∧
      (∀ path ∈ drawing.paths, 2 ≤ path.dots.length ∧ path.Tabled) ∧
      (style.hideTravel = false →
        List.IsChain (fun path next => path.stroke.Joined next.stroke) drawing.paths) := by
  have itinerary := Motion.run_itinerary ok
  refine ⟨Drawing.ofEmissions style run.emissions, ?_, ?_, ?_, ?_⟩
  · exact Motion.render_of_ok ok
  · cases isHidden : style.hideTravel with
    | false => exact (shown_draws itinerary isHidden).same
    | true => exact hidden_segments itinerary isHidden
  · intro path member
    have long := long_of_mem (List.mem_map_of_mem member)
    have dots : 1 < path.dots.length := by simpa [Path.stroke] using long
    exact ⟨dots, path.tabled⟩
  · intro shown
    have joined := (shown_draws itinerary shown).joined
    exact (List.isChain_map Path.stroke).mp joined

/-- Switches before the first point, on the spot, and with a point. -/
def switching : List (Element Float) :=
  [.bead (.circle 0.5), .event (.toggle true), .event (.toggle false),
    .point { x := some 0, y := some 0, z := some 0 }, .event (.toggle true), .event (.toggle false),
    .point { x := some (-0.0) }, .point { x := some 1, extrude := some true },
    .event (.toggle false), .event (.toggle true), .point { y := some 2 }, .point { y := some 0, extrude := some false }]

theorem Drawing.ofDesign_draws_switching :
    ∃ run drawing, Motion.run .generic {} (Design.ofElements switching) = .ok run ∧
      Drawing.ofDesign {} .generic {} (Design.ofElements switching) =
        .ok ⟨drawing, run.diagnostics⟩ ∧
      List.Forall₂ Segment.Alike drawing.segments (Motion.segments run.emissions) ∧
      (Motion.segments run.emissions).map (·.on) = [true, true, false] := by
  have drawn : (Motion.run .generic {} (Design.ofElements switching)).toOption.map
      (fun run => (Motion.segments run.emissions).map (·.on)) = some [true, true, false] := by
    decide +kernel
  obtain ⟨run, ok, seen⟩ := Motion.exists_run_of_map drawn
  obtain ⟨drawing, onDesign, same, -⟩ := Drawing.ofDesign_draws {} ok
  exact ⟨run, drawing, ok, onDesign, same, seen⟩

end Toolpath.Plot
