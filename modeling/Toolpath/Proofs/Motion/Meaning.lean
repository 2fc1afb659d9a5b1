import Toolpath.Proofs.Motion.Legs
import Toolpath.Proofs.Motion.Prologue
import Toolpath.Scalar.Float

/-!
The meaning of a walk. Whatever a walk does between its points, its moves are those that its elements
ask for, and the tool is where they say.
-/

namespace Toolpath

variable {α : Type}

theorem Motion.moves_append (first later : List (Emission α)) :
    moves (first ++ later) = moves first ++ moves later := List.filterMap_append

variable [Scalar α]

namespace Machine

open Motion (moves)

omit [Scalar α] in
theorem turn_moves (machine : Machine α) (extrude : Option Bool) :
    moves (machine.turn extrude).emissions = [] := by
  cases extrude with
  | none => rfl
  | some on =>
    show moves (machine.switch on).emissions = []
    unfold switch
    split <;> rfl

theorem ready_tool (machine : Machine α) (point : Point α) :
    (machine.ready point).machine.tool = machine.tool.switched (.point point) := by
  obtain ⟨speeds, color, ready⟩ := machine.ready_machine point
  rw [ready]
  rfl

theorem go_leg {machine : Machine α} {start : Position α} {point : Point α} {outcome : Outcome α}
    (placed : machine.position = some start) (ok : machine.go start point = .ok outcome) :
    outcome.machine.tool = machine.tool.reach point ∧
      List.Forall₂ Leg.IsMadeBy (machine.tool.reach? point).toList (moves outcome.emissions) := by
  have place : machine.tool.place = some start := placed
  simp only [Tool.reach, Tool.reach?, place, Option.getD_some]
  cases went_of_go ok with
  | stayed same =>
    rw [if_pos same]
    exact ⟨rfl, .nil⟩
  | traveled differs off =>
    have resting : machine.tool.on ≠ true := ne_true_of_eq_false off
    rw [if_neg (ne_true_of_eq_false differs), if_neg resting]
    exact ⟨rfl, .cons ⟨rfl, rfl, rfl⟩ .nil⟩
  | printed differs on =>
    have extruding : machine.tool.on = true := on
    rw [if_neg (ne_true_of_eq_false differs), if_pos extruding]
    exact ⟨rfl, .cons ⟨rfl, rfl, rfl⟩ .nil⟩

theorem reach_leg {machine : Machine α} {point : Point α} {outcome : Outcome α}
    (ok : machine.reach point = .ok outcome) :
    outcome.machine.tool = machine.tool.reach point ∧
      List.Forall₂ Leg.IsMadeBy (machine.tool.reach? point).toList (moves outcome.emissions) := by
  unfold reach at ok
  split at ok
  · rename_i nowhere
    have place : machine.tool.place = none := nowhere
    cases ok
    simp only [Tool.reach, Tool.reach?, place, Option.getD_none]
    exact ⟨rfl, .cons ⟨rfl, rfl, rfl, rfl⟩ .nil⟩
  · rename_i start placed
    exact go_leg placed ok

theorem visitPoint_leg {machine : Machine α} {point : Point α} {outcome : Outcome α}
    (ok : machine.visitPoint point = .ok outcome) :
    outcome.machine.tool = machine.tool.visit (.point point) ∧
      List.Forall₂ Leg.IsMadeBy (machine.tool.next? (.point point)).toList
        (moves outcome.emissions) := by
  obtain ⟨moved, atMoved, rfl⟩ := visitPoint_eq_ok.mp ok
  obtain ⟨after, made⟩ := reach_leg atMoved
  rw [ready_tool] at after made
  refine ⟨after, ?_⟩
  show List.Forall₂ _ _ (moves ((machine.turn point.extrude).emissions ++ moved.emissions))
  rw [Motion.moves_append, turn_moves]
  exact made

/-- Only points move the tool. -/
theorem Change.position_eq {element : Element α} {machine after : Machine α}
    {told : Option (Action α)} (change : Change element machine told after)
    (other : element.point? = none) :
    after.position = machine.position ∧ told.bind Action.move? = none := by
  cases change with
  | settings | configured | repeated | announced | toggled | extruded => exact ⟨rfl, rfl⟩
  | placed byPoint | stayed byPoint | traveled byPoint | printed byPoint =>
    rw [byPoint] at other
    cases other
  | @aside action fan hotend bed isAside =>
    refine ⟨rfl, ?_⟩
    cases action <;> first | rfl | cases isAside

theorem Course.unmoved {made : Element α → Prop} {machine last : Machine α}
    {emissions : List (Emission α)} (course : Course made machine emissions last)
    (others : ∀ element, made element → element.point? = none) :
    last.position = machine.position ∧ moves emissions = [] ∧
      ∀ emission ∈ emissions, emission.machine.position = machine.position := by
  induction course with
  | rest => exact ⟨rfl, rfl, fun _ member => nomatch member⟩
  | silent byElement change _ ih =>
    obtain ⟨here, -⟩ := change.position_eq (others _ byElement)
    obtain ⟨ends, none, all⟩ := ih
    exact ⟨ends.trans here, none, fun emission member => (all emission member).trans here⟩
  | told byElement change _ ih =>
    obtain ⟨here, noMove⟩ := change.position_eq (others _ byElement)
    obtain ⟨ends, none, all⟩ := ih
    refine ⟨ends.trans here, ?_, ?_⟩
    · rw [Motion.moves_cons, none]
      exact congrArg (·.toList ++ []) noMove
    · intro emission member
      rcases List.mem_cons.mp member with rfl | later
      · exact here
      · exact (all emission later).trans here

theorem Course.position_eq {element : Element α} {machine last : Machine α}
    {emissions : List (Emission α)} (course : Course (· = element) machine emissions last)
    (other : element.point? = none) :
    last.position = machine.position ∧ moves emissions = [] ∧
      ∀ emission ∈ emissions, emission.machine.position = machine.position :=
  course.unmoved fun _ same => same ▸ other

omit [Scalar α] in
theorem switch_machine (machine : Machine α) (on : Bool) : (machine.switch on).machine =
    { machine with extruder := { machine.extruder with on } } := machine.turn_machine (some on)

theorem announce_on (machine : Machine α) :
    machine.announce.machine.extruder.on = machine.extruder.on := by
  unfold announce
  dsimp only
  split <;> rfl

/-- An event changes nothing but the devices, the switch, and how far the extruder axis has come. -/
theorem visitEvent_machine {commands : CommandTable} {machine : Machine α} {event : Event α}
    {outcome : Outcome α} (ok : machine.visitEvent commands event = .ok outcome) :
    ∃ total fan hotend bed, outcome.machine = { machine with
      fan, hotend, bed
      extruder := { machine.extruder with
        on := (Element.event event).switch?.getD machine.extruder.on, total } } := by
  cases event with
  | toggle on =>
    cases ok
    exact ⟨_, _, _, _, machine.switch_machine on⟩
  | command id =>
    simp only [visitEvent] at ok
    split at ok <;> cases ok <;> exact ⟨_, _, _, _, rfl⟩
  | raw | comment | hotend | bed =>
    cases ok
    exact ⟨_, _, _, _, rfl⟩
  | extrude volume speed =>
    simp only [visitEvent, extrude] at ok
    obtain ⟨factor, _, ok⟩ := bind_eq_ok.mp ok
    cases ok
    exact ⟨_, _, _, _, rfl⟩
  | fan percent =>
    cases ok
    dsimp only [blow]
    split <;> exact ⟨_, _, _, _, rfl⟩
  | marker label point =>
    cases ok
    dsimp only [mark]
    split <;> exact ⟨_, _, _, _, rfl⟩

theorem visit_on {commands : CommandTable} {element : Element α} {machine : Machine α}
    {outcome : Outcome α} (ok : machine.visit commands element = .ok outcome)
    (other : element.point? = none) :
    outcome.machine.extruder.on = element.switch?.getD machine.extruder.on := by
  cases element with
  | point => cases other
  | speeds | bead =>
    cases ok
    rfl
  | extruder fragment =>
    cases ok
    show (if fragment.relative.isSome then _ else _ : Outcome α).machine.extruder.on = _
    split
    · exact announce_on _
    · rfl
  | event event =>
    obtain ⟨total, fan, hotend, bed, after⟩ := visitEvent_machine ok
    rw [after]

theorem visit_leg {commands : CommandTable} {element : Element α} {machine : Machine α}
    {outcome : Outcome α} (ok : machine.visit commands element = .ok outcome) :
    outcome.machine.tool = machine.tool.visit element ∧
      List.Forall₂ Leg.IsMadeBy (machine.tool.next? element).toList
        (moves outcome.emissions) := by
  cases isPoint : element.point? with
  | some point =>
    obtain rfl := Element.eq_of_point? isPoint
    exact visitPoint_leg ok
  | none =>
    obtain ⟨still, none, -⟩ := (visit_course ok).position_eq isPoint
    have on := visit_on ok isPoint
    unfold Tool.visit Tool.next?
    rw [isPoint, none]
    exact ⟨congrArg₂ Tool.mk still on, .nil⟩

end Machine

namespace Initialization

omit [Scalar α] in
theorem point?_of_mem_prologue {initialization : Initialization α} {element : Element α}
    (member : element ∈ initialization.prologue) : element.point? = none := by
  have isSetting := isSetting_of_mem_prologue member
  cases element with
  | point => cases isSetting
  | speeds | extruder | bead | event => rfl

theorem filterMap_move?_actions (initialization : Initialization α) :
    initialization.actions.filterMap Action.move? = [] := by
  have heating (wait : Bool) : (initialization.heating wait).filterMap Action.move? = [] := by
    unfold Initialization.heating
    cases initialization.bed <;> cases initialization.hotend <;> rfl
  have mode : (initialization.relative.toList.map Action.announced).filterMap Action.move? =
      ([] : List (Move α)) := by
    cases initialization.relative <;> rfl
  have fan : (initialization.clampedFan.toList.map Action.fan).filterMap Action.move? = [] := by
    cases initialization.clampedFan <;> rfl
  have switch : (if initialization.on = some true then [Action.toggled true] else []).filterMap
      Action.move? = ([] : List (Move α)) := by
    split <;> rfl
  simp only [actions, List.filterMap_append, mode, heating, fan, switch, List.append_nil]

end Initialization

namespace Motion

theorem step_leg {commands : CommandTable} {machine : Machine α} {element : Element α} {index : Nat}
    {run : Run α} (ok : step commands machine (element, index) = .ok run) :
    run.machine.tool = machine.tool.visit element ∧
      List.Forall₂ Leg.IsMadeBy (machine.tool.next? element).toList (moves run.emissions) := by
  obtain ⟨outcome, visited, rfl⟩ := step_eq_ok.mp ok
  exact Machine.visit_leg visited

omit [Scalar α] in
theorem moves_eq_filterMap (emissions : List (Emission α)) :
    moves emissions = (emissions.map (·.action)).filterMap Action.move? := by
  unfold moves
  rw [List.filterMap_map]
  rfl

omit [Scalar α] in
theorem script_concat (initialization : Initialization α) (before : List (Element α))
    (element : Element α) : script initialization (before ++ [element]) =
      script initialization before ++ [(element, before.length)] := by
  unfold script
  rw [List.zipIdx_append, List.append_assoc, Nat.zero_add]
  rfl

omit [Scalar α] in
theorem script_append (initialization : Initialization α) (before after : List (Element α)) :
    script initialization (before ++ after) =
      script initialization before ++ after.zipIdx before.length := by
  unfold script
  rw [List.zipIdx_append, List.append_assoc, Nat.zero_add]

omit [Scalar α] in
theorem zipIdx_split {elements : List (Element α)} {before after : List (Numbered α)}
    {element : Element α} {index : Nat} (split : elements.zipIdx = before ++ (element, index) :: after) :
    ∃ front back, elements = front ++ element :: back ∧ before = front.zipIdx ∧
      index = front.length := by
  have heard : elements = before.map Prod.fst ++ element :: after.map Prod.fst := by
    rw [← List.zipIdx_map_fst 0 elements, split, List.map_append, List.map_cons]
  rw [heard, List.zipIdx_append, List.zipIdx_cons, Nat.zero_add] at split
  obtain ⟨front, back⟩ := List.append_inj split (by rw [List.length_zipIdx, List.length_map])
  have here := congrArg Prod.snd (List.head_eq_of_cons_eq back)
  exact ⟨_, _, heard, front.symm, here.symm⟩

omit [Scalar α] in
/-- What stands anywhere in a script stands in the prologue, or at its own number behind a beginning of
the elements. -/
theorem script_split {initialization : Initialization α} {elements : List (Element α)}
    {before after : List (Numbered α)} {element : Element α} {index : Nat}
    (split : script initialization elements = before ++ (element, index) :: after) :
    (element ∈ initialization.prologue ∧ index = 0) ∨ ∃ front back,
      elements = front ++ element :: back ∧ before = script initialization front ∧
        index = front.length := by
  rcases List.append_eq_append_iff.mp split with ⟨between, rfl, numbered⟩ | ⟨rest, prologue, numbered⟩
  · obtain ⟨front, back, heard, rfl, counted⟩ := zipIdx_split numbered
    exact .inr ⟨front, back, heard, rfl, counted⟩
  · cases rest with
    | nil =>
      have atHead : elements.zipIdx = [] ++ (element, index) :: after := numbered.symm
      obtain ⟨front, back, heard, first, counted⟩ := zipIdx_split atHead
      refine .inr ⟨front, back, heard, ?_, counted⟩
      rw [script, prologue, ← first, List.append_nil, List.append_nil]
    | cons first rest =>
      obtain rfl := List.head_eq_of_cons_eq numbered
      have member : (element, index) ∈ initialization.prologue.map (·, 0) := by
        rw [prologue]
        exact List.mem_append_right _ List.mem_cons_self
      obtain ⟨other, isThere, same⟩ := List.mem_map.mp member
      obtain ⟨rfl, rfl⟩ := Prod.mk.inj same
      exact .inl ⟨isThere, rfl⟩

/-- What holds of the run over a prologue, and goes on holding with each element that is visited, holds
of every run that ends without a fault. From the right, so that what is behind a beginning of the elements
is known at each of them. -/
@[elab_as_elim]
theorem script_induction {commands : CommandTable} {initialization : Initialization α}
    {motive : List (Element α) → Run α → Prop}
    (prologue : ∀ run, walk commands .initial (initialization.prologue.map (·, 0)) = .ok run →
      run.machine = initialization.machine → run.emissions.map (·.action) = initialization.actions →
      run.diagnostics = fanReports initialization → motive [] run)
    (visit : ∀ before element earlier outcome,
      walk commands .initial (script initialization before) = .ok earlier →
      earlier.machine.visit commands element = .ok outcome → motive before earlier →
      motive (before ++ [element]) ⟨outcome.machine, earlier.emissions ++ outcome.emissions,
        earlier.diagnostics ++ outcome.remarks.map (⟨before.length, element.kind, ·⟩)⟩)
    {elements : List (Element α)} {run : Run α}
    (ok : walk commands .initial (script initialization elements) = .ok run) :
    motive elements run := by
  induction elements using List.reverseRecOn generalizing run with
  | nil =>
    rw [script_nil] at ok
    obtain ⟨again, walked, machine, actions, diagnostics⟩ := walk_prologue commands initialization
    obtain rfl := Except.ok.inj (walked.symm.trans ok)
    exact prologue again ok machine actions diagnostics
  | append_singleton before element ih =>
    rw [script_concat] at ok
    obtain ⟨earlier, later, atEarlier, atLater, rfl⟩ := walk_append_eq_ok.mp ok
    rw [walk_singleton] at atLater
    obtain ⟨outcome, visited, rfl⟩ := step_eq_ok.mp atLater
    exact visit before element earlier outcome atEarlier visited (ih atEarlier)

theorem walk_legs {commands : CommandTable} {initialization : Initialization α}
    {elements : List (Element α)} {run : Run α}
    (ok : walk commands .initial (script initialization elements) = .ok run) :
    run.machine.tool = Tool.behind initialization elements ∧
      List.Forall₂ Leg.IsMadeBy (Tool.legs initialization elements) (moves run.emissions) := by
  refine script_induction ?prologue ?visit ok
  case prologue =>
    intro run _ machine actions _
    rw [machine, moves_eq_filterMap, actions, Initialization.filterMap_move?_actions]
    exact ⟨rfl, .nil⟩
  case visit =>
    intro before element earlier outcome _ visited ⟨behind, made⟩
    obtain ⟨after, asked⟩ := Machine.visit_leg visited
    rw [behind] at after asked
    rw [Tool.behind_concat, Tool.legs_concat, Tool.leg?_concat, moves_append]
    exact ⟨after, List.rel_append made asked⟩

/-- A walk comes to each of its elements with the tool that the ones before leave behind, and makes the
move there that the element asks for. -/
theorem exists_step {commands : CommandTable} {initialization : Initialization α}
    {before after : List (Element α)} {element : Element α} {run : Run α}
    (ok : walk commands .initial (script initialization (before ++ element :: after)) = .ok run) :
    ∃ earlier here, walk commands .initial (script initialization before) = .ok earlier ∧
      step commands earlier.machine (element, before.length) = .ok here ∧
      earlier.emissions ++ here.emissions <+: run.emissions ∧
      earlier.machine.tool = Tool.behind initialization before ∧
      here.machine.tool = Tool.behind initialization (before ++ [element]) ∧
      List.Forall₂ Leg.IsMadeBy ((Tool.behind initialization before).next? element).toList
        (moves here.emissions) := by
  rw [script_append] at ok
  obtain ⟨earlier, later, atEarlier, atLater, rfl⟩ := walk_append_eq_ok.mp ok
  obtain ⟨here, rest, atHere, -, rfl⟩ := walk_cons_eq_ok.mp atLater
  obtain ⟨behind, -⟩ := walk_legs atEarlier
  obtain ⟨visited, made⟩ := step_leg atHere
  rw [behind] at visited made
  rw [← Tool.behind_concat] at visited
  have emitted : earlier.emissions ++ here.emissions <+:
      earlier.emissions ++ (here.emissions ++ rest.emissions) := by
    rw [← List.append_assoc]
    exact List.prefix_append _ _
  exact ⟨earlier, here, atEarlier, atHere, emitted, behind, visited, made⟩

/-- The meaning of elements: the moves are those that the elements ask for, and behind each element
the tool is where its points put it and as its switches leave it. An element that is no point leaves
the tool in its place. -/
structure Means (commands : CommandTable) (initialization : Initialization α)
    (elements : List (Element α)) (run : Run α) : Prop where
  moves : List.Forall₂ Leg.IsMadeBy (Tool.legs initialization elements) (moves run.emissions)
  places : ∀ before element after, elements = before ++ element :: after →
    ∃ earlier here, walk commands .initial (script initialization before) = .ok earlier ∧
      step commands earlier.machine (element, before.length) = .ok here ∧
      earlier.emissions ++ here.emissions <+: run.emissions ∧
      earlier.machine.tool = Tool.behind initialization before ∧
      here.machine.tool = Tool.behind initialization (before ++ [element]) ∧
      (element.point? = none → here.machine.position = earlier.machine.position ∧
        ∀ emission ∈ here.emissions, emission.machine.position = earlier.machine.position)

/-- Every walk that ends without a fault means what its elements say, in the arithmetic of any
numbers. -/
theorem runElements_means {commands : CommandTable} {initialization : Initialization α}
    {elements : List (Element α)} {run : Run α}
    (ok : runElements commands initialization elements = .ok run) :
    Means commands initialization elements run := by
  obtain ⟨walked, onScript, rfl⟩ := runElements_eq_ok.mp ok
  constructor
  · exact (walk_legs onScript).2
  · rintro before element after rfl
    obtain ⟨earlier, here, atEarlier, atHere, emitted, behind, visited, -⟩ := exists_step onScript
    refine ⟨earlier, here, atEarlier, atHere, emitted, behind, visited, ?_⟩
    intro other
    obtain ⟨still, -, all⟩ := (step_course atHere).position_eq other
    exact ⟨still, all⟩

/-- Axes that stay open, points on the spot that only switch, and a zero that changes its sign. -/
def switching : List (Element Float) :=
  [.bead (.rectangle 0.5 0.25), .point { x := some 5.0 }, .point { z := some (-0.0) },
    .point { extrude := some true }, .event (.marker "here" none), .point { y := some 2.0 },
    .event (.toggle false), .point { x := some 5.0, extrude := some true },
    .extruder { relative := some true }, .point { x := some 5.0, z := some 1.0 },
    .point { y := some 0.0, extrude := some false }]

theorem runElements_means_switching :
    let initialization : Initialization Float := { on := some false }
    ∃ run, runElements .generic initialization switching = .ok run ∧
      Means .generic initialization switching run ∧
      (Motion.moves run.emissions).map (·.kind.isPrint) = [false, true, true, false] := by
  intro initialization
  have walked : (runElements .generic initialization switching).toOption.map
      (fun run => (Motion.moves run.emissions).map (·.kind.isPrint)) =
        some [false, true, true, false] := by
    decide +kernel
  obtain ⟨run, ok, printed⟩ := exists_run_of_map walked
  exact ⟨run, ok, runElements_means ok, printed⟩

end Motion

end Toolpath
