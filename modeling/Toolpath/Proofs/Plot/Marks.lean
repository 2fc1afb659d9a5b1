import Toolpath.Plot.Drawing
import Toolpath.Proofs.Motion.Meaning
import Toolpath.Proofs.Motion.Delivery

/-!
What elements add to the paths of a plot, as marks: the start of a path, or the next vertex of the one that
was started last. A sketch puts marks in front of its paths; read from their beginning they give the paths
in order.
-/

namespace Toolpath

variable {α : Type}

namespace Plot

/-- What is added to the paths of a plot. -/
inductive Mark (α : Type) where
  /-- The first vertex of a path. -/
  | starts (on : Bool) (vertex : Vertex α)
  /-- The next vertex of the path that was started last. -/
  | goes (vertex : Vertex α)

namespace Mark

/-- The vertices in front of the first path that is started, and the paths. -/
def gather : List (Mark α) → List (Vertex α) × List (Trail α)
  | [] => ([], [])
  | .starts on vertex :: rest =>
    let (vertices, trails) := gather rest
    ([], ⟨on, vertex :: vertices⟩ :: trails)
  | .goes vertex :: rest =>
    let (vertices, trails) := gather rest
    (vertex :: vertices, trails)

/-- Adds to paths of which the last one comes first, as does the last vertex in each. -/
def put : List (Trail α) → Mark α → List (Trail α)
  | trails, .starts on vertex => ⟨on, [vertex]⟩ :: trails
  | [], .goes _ => []
  | trail :: others, .goes vertex => { trail with vertices := vertex :: trail.vertices } :: others

end Mark

/-- Paths of which the last one comes first, in order. -/
def Trail.inOrder (trails : List (Trail α)) : List (Trail α) :=
  trails.reverse.map fun trail => { trail with vertices := trail.vertices.reverse }

theorem Trail.inOrder_cons (trail : Trail α) (others : List (Trail α)) :
    inOrder (trail :: others) = inOrder others ++ [⟨trail.on, trail.vertices.reverse⟩] := by
  rw [inOrder, List.reverse_cons, List.map_append]
  rfl

namespace Mark

theorem inOrder_foldl_cons (marks : List (Mark α)) (trail : Trail α) (others : List (Trail α)) :
    Trail.inOrder (marks.foldl put (trail :: others)) = Trail.inOrder others ++
      ⟨trail.on, trail.vertices.reverse ++ (gather marks).1⟩ :: (gather marks).2 := by
  induction marks generalizing trail others with
  | nil =>
    rw [List.foldl_nil, Trail.inOrder_cons, gather, List.append_nil]
  | cons mark rest ih =>
    cases mark with
    | starts on vertex =>
      rw [List.foldl_cons, put, ih, Trail.inOrder_cons, gather, List.append_assoc, List.append_nil]
      rfl
    | goes vertex =>
      rw [List.foldl_cons, put, ih, gather, List.reverse_cons, List.append_assoc]
      rfl

theorem inOrder_foldl (marks : List (Mark α)) :
    Trail.inOrder (marks.foldl put []) = (gather marks).2 := by
  induction marks with
  | nil => rfl
  | cons mark rest ih =>
    cases mark with
    | starts on vertex =>
      rw [List.foldl_cons, put, inOrder_foldl_cons]
      rfl
    | goes vertex =>
      rw [List.foldl_cons, put, ih]
      rfl

theorem put_ne_nil {trails : List (Trail α)} (some : trails ≠ []) (mark : Mark α) :
    put trails mark ≠ [] := by
  cases mark with
  | starts => exact List.cons_ne_nil _ _
  | goes =>
    cases trails with
    | nil => exact some
    | cons => exact List.cons_ne_nil _ _

theorem foldl_put_ne_nil {trails : List (Trail α)} (some : trails ≠ []) (marks : List (Mark α)) :
    marks.foldl put trails ≠ [] := by
  induction marks generalizing trails with
  | nil => exact some
  | cons mark rest ih => exact ih (put_ne_nil some mark)

/-- Where an element switches the extruder of a tool that is somewhere, a path starts. -/
def joint (tool : Tool α) (element : Element α) (vertex : Vertex α) : List (Mark α) :=
  if tool.place.isSome ∧ (tool.switched element).on ≠ tool.on then
    [.starts (tool.switched element).on vertex]
  else []

/-- Where a move is made, a path goes on. The move to the first point starts one. -/
def arrival (on : Bool) (vertex : Vertex α) : Option (Leg α) → List (Mark α)
  | none => []
  | some (.origin _) => [.starts on vertex]
  | some (.travel ..) | some (.print ..) => [.goes vertex]

variable [Scalar α]

omit [Scalar α] in
theorem foldl_joint_eq_nil {trails : List (Trail α)} {tool : Tool α}
    (drawn : trails = [] ↔ tool.place = none) (element : Element α) (vertex : Vertex α) :
    (joint tool element vertex).foldl put trails = [] ↔ tool.place = none := by
  cases placed : tool.place with
  | none => simp [joint, placed, drawn.mpr placed]
  | some start =>
    have some : trails ≠ [] := fun none => by cases placed.symm.trans (drawn.mp none)
    exact iff_of_false (foldl_put_ne_nil some _) (Option.some_ne_none start)

/-- Something is drawn once the tool is somewhere. -/
theorem foldl_put_eq_nil {trails : List (Trail α)} {tool : Tool α}
    (drawn : trails = [] ↔ tool.place = none) (element : Element α) (on : Bool) (first last : Vertex α) :
    (joint tool element first ++ arrival on last (tool.next? element)).foldl put trails = [] ↔
      (tool.visit element).place = none := by
  have joined := foldl_joint_eq_nil drawn element first
  rw [List.foldl_append]
  generalize (joint tool element first).foldl put trails = trails' at joined
  unfold Tool.visit Tool.next?
  cases element.point? with
  | none => exact joined
  | some point =>
    refine iff_of_false ?_ (Option.some_ne_none _)
    show (arrival on last ((tool.switched element).reach? point)).foldl put trails' ≠ []
    have place : (tool.switched element).place = tool.place := rfl
    unfold Tool.reach?
    rw [place]
    cases placed : tool.place with
    | none => exact List.cons_ne_nil _ _
    | some start =>
      exact foldl_put_ne_nil (fun none => by cases placed.symm.trans (joined.mp none)) _

end Mark

/-- The vertex where a machine is. -/
def Vertex.here [Scalar α] (machine : Machine α) : Vertex α :=
  .of (machine.position.getD .origin) machine

namespace Sketch

variable [Scalar α] {sketch : Sketch α} {machine : Machine α}

theorem turn_marks (sketch : Sketch α) (machine : Machine α) (element : Element α) :
    ((machine.turn element.switch?).emissions.foldl take sketch).trails =
      (Mark.joint machine.tool element (.here machine)).foldl Mark.put sketch.trails := by
  have after : (machine.tool.switched element).on = element.switch?.getD machine.extruder.on := rfl
  rw [Mark.joint, after]
  cases element.switch? with
  | none => simp [Machine.turn, Machine.tool]
  | some on =>
    show ((machine.switch on).emissions.foldl take sketch).trails = _
    unfold Machine.switch
    by_cases same : machine.extruder.on = on
    · simp [same, Machine.tool]
    · cases placed : machine.position with
      | none => simp [same, Machine.tool, placed, Machine.emit, take]
      | some start =>
        have differs : on ≠ machine.extruder.on := fun again => same again.symm
        simp [same, differs, Machine.tool, placed, Machine.emit, take, branch, Trail.start, Mark.put,
          Vertex.here, Vertex.of]

theorem take_first_move {move : Move α} (there : machine.position = some move.target)
    (empty : sketch.trails = []) : (sketch.take ⟨.move move, machine⟩).trails =
      Mark.put sketch.trails (.starts machine.extruder.on (.here machine)) := by
  show (sketch.visit move.target machine).trails = _
  simp [visit, empty, branch, Trail.start, there, Mark.put, Vertex.here]

theorem take_next_move {move : Move α} (there : machine.position = some move.target)
    (some : sketch.trails ≠ []) : (sketch.take ⟨.move move, machine⟩).trails =
      Mark.put sketch.trails (.goes (.here machine)) := by
  show (sketch.visit move.target machine).trails = _
  cases trails : sketch.trails with
  | nil => exact absurd trails some
  | cons trail others => simp [visit, trails, there, Mark.put, Vertex.here]

theorem reach_marks {point : Point α} {outcome : Outcome α} (ok : machine.reach point = .ok outcome)
    (drawn : sketch.trails = [] ↔ machine.position = none) :
    (outcome.emissions.foldl take sketch).trails =
      (Mark.arrival machine.extruder.on (.here outcome.machine) (machine.tool.reach? point)).foldl
        Mark.put sketch.trails := by
  have place : machine.tool.place = machine.position := rfl
  have on : machine.tool.on = machine.extruder.on := rfl
  unfold Machine.reach at ok
  unfold Tool.reach?
  cases placed : machine.position with
  | none =>
    rw [placed] at ok place
    cases ok
    rw [place]
    exact take_first_move rfl (drawn.mpr placed)
  | some start =>
    rw [placed] at ok place
    have some : sketch.trails ≠ [] := fun none => by cases placed.symm.trans (drawn.mp none)
    rw [place, on]
    dsimp only
    cases Machine.went_of_go ok with
    | stayed same =>
      rw [if_pos same]
      rfl
    | traveled differs off =>
      rw [if_neg (ne_true_of_eq_false differs), if_neg (ne_true_of_eq_false off)]
      exact take_next_move rfl some
    | printed differs on =>
      rw [if_neg (ne_true_of_eq_false differs), if_pos on]
      exact take_next_move rfl some

/-- What leaves the tool where it is and the extruder as it is leaves the paths as they are. -/
theorem take_still {action : Action α} (still : action.isStill = true) :
    (sketch.take ⟨action, machine⟩).trails = sketch.trails := by
  cases action with
  | move | toggled => cases still
  | announced | instruction | comment | extruded | fan | hotend | bed | marker => rfl

/-- What an element adds to a plot. -/
theorem visit_marks {commands : CommandTable} {element : Element α} {outcome : Outcome α}
    (ok : machine.visit commands element = .ok outcome)
    (drawn : sketch.trails = [] ↔ machine.position = none) :
    (outcome.emissions.foldl take sketch).trails =
      (Mark.joint machine.tool element (.here machine) ++
        Mark.arrival outcome.machine.extruder.on (.here outcome.machine)
          (machine.tool.next? element)).foldl Mark.put sketch.trails := by
  rw [List.foldl_append]
  cases isPoint : element.point? with
  | some point =>
    obtain rfl := Element.eq_of_point? isPoint
    obtain ⟨moved, atMoved, rfl⟩ := Machine.visitPoint_eq_ok.mp ok
    have turned := turn_marks sketch machine (.point point)
    have place : (machine.ready point).machine.position = machine.position :=
      congrArg Tool.place (machine.ready_tool point)
    have on : moved.machine.extruder.on = (machine.ready point).machine.extruder.on :=
      congrArg Tool.on (Machine.reach_leg atMoved).1
    have drawn : sketch.trails = [] ↔ machine.tool.place = none := drawn
    have drawn' := Mark.foldl_joint_eq_nil drawn (.point point) (.here machine)
    rw [← turned] at drawn'
    have arrives := reach_marks atMoved (drawn'.trans (place ▸ Iff.rfl))
    rw [machine.ready_tool, turned, ← on] at arrives
    rw [List.foldl_append]
    exact arrives
  | none =>
    have stays : machine.tool.next? element = none := by rw [Tool.next?, isPoint, Option.bind_none]
    rw [stays]
    cases switches : element.switch? with
    | none =>
      have unjoined : Mark.joint machine.tool element (.here machine) = [] := by
        simp [Mark.joint, Tool.switched, switches]
      rw [unjoined]
      rcases Machine.visit_told ok isPoint with none | ⟨action, one, -, still⟩
      · rw [none]
        rfl
      · rw [one]
        exact take_still (still switches)
    | some on =>
      obtain rfl := Element.eq_of_switch? switches isPoint
      cases ok
      exact turn_marks sketch machine (.event (.toggle on))

/-- Nothing is drawn while the tool is nowhere. -/
theorem foldl_nowhere {emissions : List (Emission α)}
    (unmoved : Motion.moves emissions = [])
    (nowhere : ∀ emission ∈ emissions, emission.machine.position = none) :
    (emissions.foldl take sketch).trails = sketch.trails := by
  induction emissions generalizing sketch with
  | nil => rfl
  | cons emission rest ih =>
    obtain ⟨here, later⟩ := List.forall_mem_cons.mp nowhere
    rw [Motion.moves_cons, List.append_eq_nil_iff] at unmoved
    rw [List.foldl_cons, ih unmoved.2 later]
    obtain ⟨action, machine⟩ := emission
    have absent : machine.position = none := here
    cases action with
    | move => cases unmoved.1
    | toggled => simp [take, absent]
    | announced | instruction | comment | extruded | fan | hotend | bed | marker => rfl

end Sketch

end Plot

end Toolpath
