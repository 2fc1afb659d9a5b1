import Toolpath.Proofs.Motion.Supply
import Toolpath.Proofs.Plot.Bounds
import Toolpath.Proofs.Plot.Marks

/-!
The vertices of a plot, said without a machine. A switch of the extruder starts a path where the tool is,
with the extent and the color that are in force before its element does anything else; a move adds the
vertex that is in force behind its point.
-/

namespace Toolpath

variable {α : Type}

/-- The color of a point that has one. -/
def Element.color? : Element α → Option (Color α)
  | .point target => target.color
  | _ => none

namespace Machine

variable [Scalar α] {commands : CommandTable} {machine : Machine α} {element : Element α}
  {outcome : Outcome α}

theorem pace_color (machine : Machine α) (speed : Option α) :
    (machine.pace speed).machine.color = machine.color := by
  unfold pace
  split
  · rfl
  · split
    · split <;> rfl
    · rfl

theorem reach_color {point : Point α} (ok : machine.reach point = .ok outcome) :
    outcome.machine.color = machine.color := by
  unfold reach at ok
  split at ok
  · cases ok
    rfl
  · cases went_of_go ok with
    | stayed | traveled | printed => rfl

/-- A point with a color changes it, whether it makes a move or not. -/
theorem visit_color (ok : machine.visit commands element = .ok outcome) :
    outcome.machine.color = (element.color? <|> machine.color) := by
  cases element with
  | point point =>
    obtain ⟨moved, atMoved, rfl⟩ := visitPoint_eq_ok.mp ok
    refine (reach_color atMoved).trans ((pace_color _ _).trans ?_)
    rw [turn_machine]
    rfl
  | speeds | bead =>
    cases ok
    rfl
  | extruder fragment =>
    cases ok
    dsimp only [announce]
    split
    · split <;> rfl
    · rfl
  | event event =>
    obtain ⟨total, fan, hotend, bed, after⟩ := visitEvent_machine ok
    rw [after]
    rfl

end Machine

namespace Plot

variable [Scalar α]

/-- The vertex for the tool behind some elements: where their points put it, with the bead and the color
that are set last. A circle is as wide and as high as its diameter, and what is not set is zero. -/
def Vertex.behind (initialization : Initialization α) (heard : List (Element α)) : Vertex α :=
  let bead := (Supply.behind initialization heard).bead
  let round := bead.shape = some .circle
  { position := Position.after (Element.points heard)
    width := (if round then bead.diameter else bead.width).getD 0.0
    height := (if round then bead.diameter else bead.height).getD 0.0
    color := lastOf Element.color? heard }

theorem Vertex.here_eq_behind {machine : Machine α} {initialization : Initialization α}
    {heard : List (Element α)} (tool : machine.tool = Tool.behind initialization heard)
    (supply : machine.supply = Supply.behind initialization heard)
    (color : machine.color = lastOf Element.color? heard) :
    here machine = behind initialization heard := by
  have place : machine.position = (Tool.behind initialization heard).place := congrArg Tool.place tool
  have bead : machine.bead = (Supply.behind initialization heard).bead := congrArg Supply.bead supply
  unfold here of behind Bead.extent
  rw [place, Tool.behind_place_getD, bead, color]
  rcases (Supply.behind initialization heard).bead with ⟨shape, width, height, diameter⟩
  rcases shape with _ | _ | _ | _ <;> rfl

namespace Mark

/-- What the last of some elements adds to a plot. If it switches the extruder behind the first point, a
path starts at the vertex in front of it; if it makes a move, that ends at the vertex behind it. -/
def behind (initialization : Initialization α) (heard : List (Element α)) : List (Mark α) :=
  let before := heard.dropLast
  let on := (Tool.behind initialization heard).on
  (if Element.points before ≠ [] ∧ on ≠ (Tool.behind initialization before).on then
    [.starts on (Vertex.behind initialization before)] else []) ++
  arrival on (Vertex.behind initialization heard) (Tool.leg? initialization heard)

theorem behind_concat (initialization : Initialization α) (before : List (Element α))
    (element : Element α) : behind initialization (before ++ [element]) =
      joint (Tool.behind initialization before) element (Vertex.behind initialization before) ++
        arrival (Tool.behind initialization (before ++ [element])).on
          (Vertex.behind initialization (before ++ [element]))
          ((Tool.behind initialization before).next? element) := by
  have on := Tool.behind_on_concat initialization before element
  have switched : ((Tool.behind initialization before).switched element).on =
      (Tool.behind initialization (before ++ [element])).on := on.symm
  have somewhere : Element.points before ≠ [] ↔
      (Tool.behind initialization before).place.isSome = true := by
    unfold Tool.behind
    cases Element.points before <;> simp
  unfold behind joint
  rw [List.dropLast_concat, Tool.leg?_concat, switched]
  simp only [somewhere]

/-- All that elements add to a plot. -/
def along (initialization : Initialization α) (elements : List (Element α)) : List (Mark α) :=
  elements.inits.flatMap (behind initialization)

theorem along_concat (initialization : Initialization α) (before : List (Element α))
    (element : Element α) : along initialization (before ++ [element]) =
      along initialization before ++ behind initialization (before ++ [element]) := by
  unfold along
  rw [inits_concat, List.flatMap_append, List.flatMap_singleton]

end Mark

theorem walk_color {commands : CommandTable} {initialization : Initialization α}
    {elements : List (Element α)} {run : Run α}
    (ok : Motion.walk commands .initial (Motion.script initialization elements) = .ok run) :
    run.machine.color = lastOf Element.color? elements := by
  refine Motion.script_induction ?prologue ?visit ok
  case prologue =>
    intro run _ machine _ _
    rw [machine]
    rfl
  case visit =>
    intro before element earlier outcome _ visited color
    rw [lastOf_concat, ← color]
    exact Machine.visit_color visited

/-- The paths of a walk, the last of everything first. -/
theorem walk_marks {commands : CommandTable} {initialization : Initialization α}
    {elements : List (Element α)} {run : Run α}
    (ok : Motion.walk commands .initial (Motion.script initialization elements) = .ok run) :
    (Sketch.ofEmissions run.emissions).trails =
        (Mark.along initialization elements).foldl Mark.put [] ∧
      ((Sketch.ofEmissions run.emissions).trails = [] ↔ run.machine.position = none) := by
  refine Motion.script_induction ?prologue ?visit ok
  case prologue =>
    intro run walked _ _ _
    have others : ∀ element ∈ (initialization.prologue.map (·, 0)).map Prod.fst,
        element.point? = none := by
      intro element member
      obtain ⟨_, inPrologue, rfl⟩ := List.mem_map.mp member
      obtain ⟨element, isThere, rfl⟩ := List.mem_map.mp inPrologue
      exact Initialization.point?_of_mem_prologue isThere
    obtain ⟨still, unmoved, nowhere⟩ := (Motion.walk_course walked).unmoved others
    have drawn : (Sketch.ofEmissions run.emissions).trails = [] :=
      Sketch.foldl_nowhere unmoved nowhere
    exact ⟨drawn, iff_of_true drawn still⟩
  case visit =>
    intro before element earlier outcome walked visited ⟨trails, drawn⟩
    have tool := (Motion.walk_legs walked).1
    have supply := Motion.walk_supply walked
    have color := walk_color walked
    have after := (Machine.visit_leg visited).1
    have supplied := Machine.visit_supply visited
    have painted := Machine.visit_color visited
    have first := Vertex.here_eq_behind tool supply color
    have drawn : (Sketch.ofEmissions earlier.emissions).trails = [] ↔
        earlier.machine.tool.place = none := drawn
    have marks := Sketch.visit_marks visited drawn
    have drawn' := Mark.foldl_put_eq_nil drawn element outcome.machine.extruder.on
      (.here earlier.machine) (.here outcome.machine)
    have position : outcome.machine.position = (earlier.machine.tool.visit element).place :=
      congrArg Tool.place after
    rw [← marks, ← position] at drawn'
    rw [tool, ← Tool.behind_concat] at after
    rw [supply, ← Supply.behind_concat] at supplied
    rw [color, ← lastOf_concat] at painted
    have last := Vertex.here_eq_behind after supplied painted
    have on : outcome.machine.extruder.on = (Tool.behind initialization (before ++ [element])).on :=
      congrArg Tool.on after
    have all : Sketch.ofEmissions (earlier.emissions ++ outcome.emissions) =
        outcome.emissions.foldl Sketch.take (Sketch.ofEmissions earlier.emissions) := List.foldl_append
    rw [all]
    refine ⟨?_, drawn'⟩
    rw [marks, trails, tool, first, last, on, ← Mark.behind_concat, Mark.along_concat, List.foldl_append]

/-- The paths that elements ask for, those of one vertex among them. -/
def Trail.along (initialization : Initialization α) (elements : List (Element α)) : List (Trail α) :=
  (Mark.gather (Mark.along initialization elements)).2

/-- A dot for a vertex. By hand it has the color of the vertex, or blue if none was set; else it has the
color of travel where nothing is extruded. -/
structure Vertex.IsPainted (mode : ColorMode) (on : Bool) (vertex : Vertex α) (dot : Dot α) : Prop where
  position : dot.position = vertex.position
  width : dot.width = vertex.width
  height : dot.height = vertex.height
  manual : mode = .manual → dot.color = vertex.color.getD ⟨0.0, 0.0, 1.0⟩
  travel : mode ≠ .manual → on = false → dot.color = travelColor

/-- A path with a dot for every vertex. -/
structure Trail.IsPainted (mode : ColorMode) (trail : Trail α) (path : Path α) : Prop where
  on : path.on = trail.on
  dots : List.Forall₂ (Vertex.IsPainted mode trail.on) trail.vertices path.dots

theorem Palette.dot_isPainted (palette : Palette α) (on : Bool) (path place : Nat) (vertex : Vertex α) :
    vertex.IsPainted palette.mode on (palette.dot on path place vertex) := by
  refine ⟨rfl, rfl, rfl, fun manual => ?_, fun automatic off => ?_⟩
  · show palette.color on path place vertex = _
    unfold color
    rw [manual]
    rfl
  · show palette.color on path place vertex = _
    unfold color
    rw [off]
    cases mode : palette.mode with
    | manual => exact absurd mode automatic
    | height | sequence | waves => rfl

theorem Palette.paint_isPainted (palette : Palette α) (path place : Nat) (trails : List (Trail α)) :
    List.Forall₂ (Trail.IsPainted palette.mode) trails (palette.paint path place trails) := by
  induction trails generalizing path place with
  | nil => exact .nil
  | cons trail rest ih =>
    refine .cons ⟨rfl, ?_⟩ (ih _ _)
    show List.Forall₂ _ trail.vertices ((trail.vertices.zipIdx place).map _)
    rw [List.forall₂_map_right_iff]
    conv in trail.vertices => rw [← List.zipIdx_map_fst place trail.vertices]
    rw [List.forall₂_map_left_iff, List.forall₂_same]
    exact fun numbered _ => palette.dot_isPainted trail.on path numbered.2 numbered.1

/-- The vertices of every plot, whatever the order of points, switches and fragments. The paths that the
elements ask for are drawn, but for those with one vertex, and those of travel if it is hidden. -/
theorem Drawing.ofDesign_vertices {style : Style} {commands : CommandTable}
    {initialization : Initialization α} {design : Design α} {plot : Transformed α (Drawing α)}
    (ok : ofDesign style commands initialization design = .ok plot) :
    List.Forall₂ (Trail.IsPainted style.mode)
      ((Trail.along initialization (Design.flatten design)).filter fun trail =>
        decide (1 < trail.vertices.length) && (trail.on || !style.hideTravel))
      plot.output.paths := by
  obtain ⟨run, walked, rfl⟩ := Motion.render_eq_ok.mp ok
  obtain ⟨walk, onScript, rfl⟩ := Motion.runElements_eq_ok.mp walked
  have drawn : Trail.inOrder (Sketch.ofEmissions walk.emissions).trails =
      Trail.along initialization (Design.flatten design) := by
    rw [(walk_marks onScript).1, Mark.inOrder_foldl, Trail.along]
  rw [← drawn]
  exact (Palette.ofEmissions style walk.emissions).paint_isPainted 0 0 _

/-- Colors with a move, on the spot and with a switch, and a bead that changes between moves. -/
def colorful : List (Element Float) :=
  [.bead (.rectangle 0.5 0.25), .point { x := some 0.0 }, .point { x := some 5.0, color := some ⟨1.0, 0.0, 0.0⟩ },
    .point { color := some ⟨0.0, 1.0, 0.0⟩ }, .bead (.circle 0.75),
    .point { x := some 10.0, extrude := some true, color := some ⟨1.0, 1.0, 0.0⟩ }, .event (.toggle false),
    .event (.toggle true), .bead { shape := some .stadium }, .point { y := some 5.0 }]

theorem Drawing.ofDesign_vertices_colorful :
    let style : Style := { mode := .manual }
    let design : Design Float := Design.ofElements colorful
    ∃ plot, ofDesign style .generic {} design = .ok plot ∧
      List.Forall₂ (Trail.IsPainted .manual) ((Trail.along {} (Design.flatten design)).filter fun trail =>
        decide (1 < trail.vertices.length) && (trail.on || !style.hideTravel)) plot.output.paths ∧
      plot.output.paths.map (fun path => path.dots.map fun dot => (dot.position.x, dot.width, dot.color)) =
        [[(0.0, 0.5, ⟨0.0, 0.0, 1.0⟩), (5.0, 0.5, ⟨1.0, 0.0, 0.0⟩)],
          [(5.0, 0.75, ⟨0.0, 1.0, 0.0⟩), (10.0, 0.75, ⟨1.0, 1.0, 0.0⟩)],
          [(10.0, 0.75, ⟨1.0, 1.0, 0.0⟩), (10.0, 0.5, ⟨1.0, 1.0, 0.0⟩)]] := by
  intro style design
  have drawn : (Motion.run .generic {} design).toOption.map (fun run =>
      (Drawing.ofEmissions style run.emissions).paths.map fun path => path.dots.map fun dot =>
        (dot.position.x, dot.width, dot.color)) =
      some [[(0.0, 0.5, ⟨0.0, 0.0, 1.0⟩), (5.0, 0.5, ⟨1.0, 0.0, 0.0⟩)],
        [(5.0, 0.75, ⟨0.0, 1.0, 0.0⟩), (10.0, 0.75, ⟨1.0, 1.0, 0.0⟩)],
        [(10.0, 0.75, ⟨1.0, 1.0, 0.0⟩), (10.0, 0.5, ⟨1.0, 1.0, 0.0⟩)]] := by
    decide +kernel
  obtain ⟨run, walked, dots⟩ := Motion.exists_run_of_map drawn
  have ok : ofDesign style .generic {} design = .ok _ := Motion.render_of_ok walked
  exact ⟨_, ok, ofDesign_vertices ok, dots⟩

end Plot

end Toolpath
