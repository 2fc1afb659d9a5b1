import Toolpath.Proofs.Motion.Speeds
import Toolpath.Scalar.Float

/-!
The speeds of moves, said without a machine. Each of the two speeds is the last one set for it: by a
fragment, or by a point, which sets the one for its kind of move even where it makes none. A move goes at
the speed for its kind, and so at the speed of its own point if that has one.
-/

namespace Toolpath

variable {α : Type} [Scalar α]

/-- The speed of a point, if it is fit to be one. -/
def Point.pace? (point : Point α) : Option α := point.speed.filter Scalar.isUsable

/-- What the last of some elements sets speeds to. A point sets the one of printing, unless it is the
first one or the extruder is off behind it. -/
def SpeedFragment.asked (initialization : Initialization α) (heard : List (Element α)) :
    SpeedFragment α :=
  match heard.getLast? with
  | some (.speeds fragment) => fragment
  | some (.point point) =>
    match point.pace? with
    | none => {}
    | some speed =>
      if (Element.points heard).length = 1 ∨ (Tool.behind initialization heard).on = false then
        .ofTravel speed
      else .ofPrint speed
  | _ => {}

namespace Tool

/-- What a speed sets where a tool is made ready for a point. -/
def pace (tool : Tool α) : Option α → SpeedFragment α
  | none => {}
  | some speed => if tool.on && tool.place.isSome then .ofPrint speed else .ofTravel speed

/-- What one more element sets speeds to. -/
def paces (tool : Tool α) : Element α → SpeedFragment α
  | .speeds fragment => fragment
  | .point point => (tool.switched (.point point)).pace point.pace?
  | _ => {}

theorem asked_concat_point (initialization : Initialization α) (before : List (Element α))
    (point : Point α) : SpeedFragment.asked initialization (before ++ [.point point]) =
      (behind initialization before).paces (.point point) := by
  have on := behind_on_concat initialization before (.point point)
  have switched : ((behind initialization before).switched (.point point)).on =
      (behind initialization (before ++ [.point point])).on := on.symm
  have place : ((behind initialization before).switched (.point point)).place =
      (behind initialization before).place := rfl
  have first : (Element.points (before ++ [.point point])).length = 1 ↔
      (behind initialization before).place = none := by
    rw [Element.points_concat_point, List.length_append, List.length_singleton, behind]
    cases Element.points before <;> simp
  unfold SpeedFragment.asked paces pace
  simp only [List.getLast?_concat, switched, place, first]
  cases point.pace? with
  | none => rfl
  | some speed =>
    cases (behind initialization (before ++ [.point point])).on <;>
      cases (behind initialization before).place <;> simp

theorem asked_concat (initialization : Initialization α) (before : List (Element α))
    (element : Element α) : SpeedFragment.asked initialization (before ++ [element]) =
      (behind initialization before).paces element := by
  cases element with
  | point point => exact asked_concat_point initialization before point
  | speeds | extruder | bead | event =>
    unfold SpeedFragment.asked
    rw [List.getLast?_concat]
    rfl

/-- The move to a point with a speed goes at that speed. -/
theorem choose_paces {tool : Tool α} {point : Point α} {leg : Leg α} {speed : α}
    (asked : tool.next? (.point point) = some leg) (set : point.pace? = some speed)
    (speeds : Speeds α) :
    (speeds.apply (tool.paces (.point point))).choose leg.isPrint = speed := by
  have reaches : (tool.switched (.point point)).reach? point = some leg := asked
  rw [paces, set, pace]
  unfold reach? at reaches
  cases placed : (tool.switched (.point point)).place with
  | none =>
    rw [placed] at reaches
    obtain rfl := Option.some.inj reaches
    simp [Leg.isPrint, Speeds.choose, Speeds.apply, SpeedFragment.ofTravel]
  | some start =>
    rw [placed] at reaches
    cases on : (tool.switched (.point point)).on <;> simp only [on] at reaches <;> split at reaches
    all_goals cases reaches
    all_goals
      simp [Leg.isPrint, Speeds.choose, Speeds.apply, SpeedFragment.ofTravel, SpeedFragment.ofPrint]

end Tool

/-- The speeds behind some elements: what is set last, or what the initialization says, or else what a
machine starts with. -/
def Speeds.behind (initialization : Initialization α) (heard : List (Element α)) : Speeds α where
  print := ((lastOf (fun beginning => (SpeedFragment.asked initialization beginning).print)
    heard.inits).or initialization.printSpeed).getD 1000.0
  travel := ((lastOf (fun beginning => (SpeedFragment.asked initialization beginning).travel)
    heard.inits).or initialization.travelSpeed).getD 8000.0

theorem Speeds.behind_concat (initialization : Initialization α) (before : List (Element α))
    (element : Element α) : behind initialization (before ++ [element]) =
      (behind initialization before).apply ((Tool.behind initialization before).paces element) := by
  have later {β : Type} (new old given : Option β) (first : β) :
      ((new <|> old).or given).getD first = new.getD ((old.or given).getD first) := by
    cases new <;> rfl
  unfold behind apply
  simp only [inits_concat, lastOf_concat, Tool.asked_concat, later]

/-- The moves that elements ask for, each with the speed that is in force there. -/
def Tool.timetable (initialization : Initialization α) (elements : List (Element α)) :
    List (Leg α × α) :=
  elements.inits.filterMap fun heard => (Tool.leg? initialization heard).map fun leg =>
    (leg, (Speeds.behind initialization heard).choose leg.isPrint)

theorem Tool.timetable_concat (initialization : Initialization α) (before : List (Element α))
    (element : Element α) : timetable initialization (before ++ [element]) =
      timetable initialization before ++ ((leg? initialization (before ++ [element])).map fun leg =>
        (leg, (Speeds.behind initialization (before ++ [element])).choose leg.isPrint)).toList :=
  filterMap_inits_concat _ before element

/-- A move that does what is asked, at the speed it is asked at. -/
def Leg.IsMadeAt (timed : Leg α × α) (move : Move α) : Prop :=
  timed.1.IsMadeBy move ∧ move.speed = timed.2

namespace Machine

theorem pace_speeds (machine : Machine α) (speed : Option α) :
    (machine.pace speed).machine.speeds =
      machine.speeds.apply (machine.tool.pace (speed.filter Scalar.isUsable)) := by
  cases speed with
  | none => rfl
  | some speed =>
    have set : machine.tool.pace (some speed) =
        if machine.extruder.on && machine.position.isSome then .ofPrint speed else .ofTravel speed := rfl
    unfold pace
    dsimp only
    rw [Option.filter_some]
    by_cases usable : Scalar.isUsable speed = true
    · rw [if_pos usable, if_pos usable, set]
      split <;> rfl
    · rw [if_neg usable, if_neg usable]
      rfl

theorem visit_paced {commands : CommandTable} {machine : Machine α} {element : Element α}
    {outcome : Outcome α} (ok : machine.visit commands element = .ok outcome) :
    outcome.machine.speeds = machine.speeds.apply (machine.tool.paces element) := by
  cases element with
  | point point =>
    obtain ⟨moved, atMoved, rfl⟩ := visitPoint_eq_ok.mp ok
    have ready := ((machine.turn point.extrude).machine.paint point.color).pace_speeds point.speed
    refine (reach_tells atMoved).1.trans (ready.trans ?_)
    rw [turn_machine]
    rfl
  | speeds | extruder | bead | event => exact visit_speeds ok rfl

/-- The moves of an element go at the speeds behind it. -/
theorem visit_moves_at {commands : CommandTable} {machine : Machine α} {element : Element α}
    {outcome : Outcome α} (ok : machine.visit commands element = .ok outcome) :
    ∀ move ∈ Motion.moves outcome.emissions,
      move.speed = outcome.machine.speeds.choose move.kind.isPrint := by
  intro move member
  obtain ⟨emission, told, isMove⟩ := List.mem_filterMap.mp member
  have isMove := Action.eq_of_move? isMove
  have there : emission.machine = outcome.machine := by
    cases element with
    | point point =>
      rcases visitPoint_tells ok emission told with ⟨on, rfl⟩ | ⟨move, rfl⟩
      · cases isMove
      · rfl
    | speeds | extruder | bead | event => exact (visit_tells ok rfl emission told).1
  rw [← there]
  exact (visit_course ok).speed_eq told isMove

theorem visit_timed {commands : CommandTable} {machine : Machine α} {element : Element α}
    {outcome : Outcome α} (ok : machine.visit commands element = .ok outcome) :
    List.Forall₂ Leg.IsMadeAt ((machine.tool.next? element).map fun leg =>
        (leg, outcome.machine.speeds.choose leg.isPrint)).toList (Motion.moves outcome.emissions) := by
  have made := (visit_leg ok).2
  have timed := visit_moves_at ok
  cases asked : machine.tool.next? element with
  | none =>
    rw [asked, Option.toList_none, List.forall₂_nil_left_iff] at made
    rw [made]
    exact .nil
  | some leg =>
    rw [asked, Option.toList_some] at made
    obtain ⟨move, _, isMade, none, moves⟩ := List.forall₂_cons_left_iff.mp made
    obtain rfl := List.forall₂_nil_left_iff.mp none
    rw [moves] at timed ⊢
    have speed := timed move (List.mem_singleton_self move)
    rw [isMade.isPrint_eq] at speed
    exact .cons ⟨isMade, speed⟩ .nil

/-- The moves of a point with a speed go at that speed. -/
theorem visitPoint_own_speed {machine : Machine α} {point : Point α} {outcome : Outcome α} {speed : α}
    (ok : machine.visitPoint point = .ok outcome) (set : point.pace? = some speed) :
    ∀ move ∈ Motion.moves outcome.emissions, move.speed = speed := by
  have visited : machine.visit (fun _ => none) (.point point) = .ok outcome := ok
  have timed := visit_timed visited
  cases asked : machine.tool.next? (.point point) with
  | none =>
    rw [asked, Option.map_none, Option.toList_none, List.forall₂_nil_left_iff] at timed
    rw [timed]
    exact List.forall_mem_nil _
  | some leg =>
    rw [asked, Option.map_some, Option.toList_some, visit_paced visited,
      Tool.choose_paces asked set] at timed
    obtain ⟨move, _, madeAt, none, moves⟩ := List.forall₂_cons_left_iff.mp timed
    obtain rfl := List.forall₂_nil_left_iff.mp none
    rw [moves]
    exact List.forall_mem_singleton.mpr madeAt.2

/-- A speed that is refused leaves nothing but a remark. -/
theorem visitPoint_refused (machine : Machine α) {point : Point α} (refused : point.pace? = none) :
    (machine.visitPoint { point with speed := none }).map (fun outcome =>
        (outcome.machine, outcome.emissions)) =
      (machine.visitPoint point).map fun outcome => (outcome.machine, outcome.emissions) := by
  have still (machine : Machine α) : (machine.pace point.speed).machine = machine := by
    unfold pace
    cases set : point.speed with
    | none => rfl
    | some speed =>
      rw [Point.pace?, set, Option.filter_eq_none_iff] at refused
      exact congrArg Outcome.machine (if_neg (refused speed rfl))
  have ready : (machine.ready { point with speed := none }).machine = (machine.ready point).machine :=
    (still _).symm
  have reach (machine : Machine α) :
      machine.reach { point with speed := none } = machine.reach point := rfl
  rw [visitPoint_eq, visitPoint_eq, ready, reach]
  cases (machine.ready point).machine.reach point <;> rfl

end Machine

namespace Motion

theorem walk_paced {commands : CommandTable} {initialization : Initialization α}
    {elements : List (Element α)} {run : Run α}
    (ok : walk commands .initial (script initialization elements) = .ok run) :
    run.machine.speeds = Speeds.behind initialization elements ∧
      List.Forall₂ Leg.IsMadeAt (Tool.timetable initialization elements) (moves run.emissions) := by
  refine script_induction ?prologue ?visit ok
  case prologue =>
    intro run walked machine _ _
    rw [← script_nil] at walked
    have none : moves run.emissions = [] := List.forall₂_nil_left_iff.mp (walk_legs walked).2
    rw [machine, none]
    exact ⟨rfl, .nil⟩
  case visit =>
    intro before element earlier outcome walked visited ⟨behind, made⟩
    have tool := (walk_legs walked).1
    have paced := Machine.visit_paced visited
    have timed := Machine.visit_timed visited
    rw [behind, tool, ← Speeds.behind_concat] at paced
    rw [tool, paced, ← Tool.leg?_concat] at timed
    rw [Tool.timetable_concat, moves_append]
    exact ⟨paced, List.rel_append made timed⟩

/-- A run without what is reported of it. -/
def unreported (run : Run α) : Run α := { run with diagnostics := [] }

/-- A point whose speed is refused can be exchanged for one without a speed: the runs differ in what is
reported, and in nothing else. -/
theorem runElements_refused (commands : CommandTable) (initialization : Initialization α)
    (before after : List (Element α)) {point : Point α} (refused : point.pace? = none) :
    (runElements commands initialization
        (before ++ .point { point with speed := none } :: after)).map unreported =
      (runElements commands initialization (before ++ .point point :: after)).map unreported := by
  have parts (earlier later : Run α) : unreported (earlier.followed later) =
      (unreported earlier).followed (unreported later) := rfl
  have cut (element : Element α) : script initialization (before ++ element :: after) =
      script initialization before ++ ([(element, before.length)] ++ after.zipIdx (before.length + 1)) :=
    script_append initialization before (element :: after)
  have ends (elements : List (Element α)) :
      (runElements commands initialization elements).map unreported =
        (walk commands .initial (script initialization elements)).map unreported := by
    rw [runElements]
    cases walk commands .initial (script initialization elements) <;> rfl
  rw [ends, ends, cut, cut]
  refine walk_exchange parts (fun _ => rfl) (fun machine => ?_) .initial _ _
  rw [walk_singleton, walk_singleton]
  unfold step
  dsimp only [Machine.visit]
  rcases eq_or_eq_of_map_eq (machine.visitPoint_refused refused) with
    ⟨defect, silent, spoken⟩ | ⟨outcome, other, silent, spoken, same⟩
  · rw [silent, spoken]
    rfl
  · obtain ⟨machines, emissions⟩ := Prod.mk.inj same
    rw [silent, spoken]
    exact congrArg Except.ok (congrArg₂ (Run.mk · · []) machines emissions)

/-- How a run keeps to the speeds that its elements set. Each move goes at the speed in force for its
kind, which is the speed of its own point if that has one. The speeds are in force that were set last,
behind every element. A speed that is refused changes nothing that is told. -/
structure KeepsPace (commands : CommandTable) (initialization : Initialization α)
    (elements : List (Element α)) (run : Run α) : Prop where
  moves : List.Forall₂ Leg.IsMadeAt (Tool.timetable initialization elements) (moves run.emissions)
  places : ∀ before element after, elements = before ++ element :: after →
    ∃ earlier here, walk commands .initial (script initialization before) = .ok earlier ∧
      step commands earlier.machine (element, before.length) = .ok here ∧
      earlier.emissions ++ here.emissions <+: run.emissions ∧
      here.machine.speeds = Speeds.behind initialization (before ++ [element]) ∧
      ∀ point speed, element = .point point → point.pace? = some speed →
        ∀ move ∈ Motion.moves here.emissions, move.speed = speed
  refused : ∀ before point after, elements = before ++ .point point :: after → point.pace? = none →
    ∃ other, runElements commands initialization
        (before ++ .point { point with speed := none } :: after) = .ok other ∧
      other.machine = run.machine ∧ other.emissions = run.emissions

/-- Every run that ends without a fault keeps to the speeds that its elements set, in the arithmetic of
any numbers. -/
theorem runElements_keepsPace {commands : CommandTable} {initialization : Initialization α}
    {elements : List (Element α)} {run : Run α}
    (ok : runElements commands initialization elements = .ok run) :
    KeepsPace commands initialization elements run := by
  constructor
  case moves =>
    obtain ⟨walked, onScript, rfl⟩ := runElements_eq_ok.mp ok
    exact (walk_paced onScript).2
  case places =>
    obtain ⟨walked, onScript, rfl⟩ := runElements_eq_ok.mp ok
    rintro before element after rfl
    obtain ⟨earlier, here, atEarlier, atHere, emitted, tool, -, -⟩ := exists_step onScript
    have behind := (walk_paced atEarlier).1
    refine ⟨earlier, here, atEarlier, atHere, emitted, ?_, ?_⟩
    · obtain ⟨outcome, visited, rfl⟩ := step_eq_ok.mp atHere
      rw [Speeds.behind_concat, ← behind, ← tool]
      exact Machine.visit_paced visited
    · rintro point speed rfl set
      obtain ⟨outcome, visited, rfl⟩ := step_eq_ok.mp atHere
      exact Machine.visitPoint_own_speed visited set
  case refused =>
    rintro before point after rfl refused
    have same := runElements_refused commands initialization before after refused
    rw [ok] at same
    obtain ⟨other, silent, alike⟩ := map_eq_ok.mp same
    have machine := congrArg Run.machine alike
    have emissions := congrArg Run.emissions alike
    exact ⟨other, silent, machine.symm, emissions.symm⟩

/-- Speeds set by a fragment, by the first point, by a point on the spot, and by one that is refused. -/
def hurrying : List (Element Float) :=
  [.bead (.rectangle 0.5 0.25), .speeds { print := some 900.0 },
    .point { x := some 0.0, speed := some 3000.0 }, .point { x := some 5.0 },
    .point { extrude := some true, speed := some 1200.0 }, .point { x := some 10.0 },
    .point { y := some 5.0, speed := some (-5.0) },
    .point { x := some 20.0, extrude := some false, speed := some 2400.0 },
    .speeds { travel := some 0.0 }, .point { x := some 0.0 }]

theorem runElements_keepsPace_hurrying :
    let initialization : Initialization Float := { travelSpeed := some 6000.0 }
    ∃ run, runElements .generic initialization hurrying = .ok run ∧
      KeepsPace .generic initialization hurrying run ∧
      (Motion.moves run.emissions).map (·.speed) =
        [3000.0, 3000.0, 1200.0, 1200.0, 2400.0, 0.0] := by
  intro initialization
  have walked : (runElements .generic initialization hurrying).toOption.map
      (fun run => (Motion.moves run.emissions).map (·.speed)) =
        some [3000.0, 3000.0, 1200.0, 1200.0, 2400.0, 0.0] := by
    decide +kernel
  obtain ⟨run, ok, speeds⟩ := exists_run_of_map walked
  exact ⟨run, ok, runElements_keepsPace ok, speeds⟩

end Motion

end Toolpath
