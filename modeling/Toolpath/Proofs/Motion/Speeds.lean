import Toolpath.Proofs.Motion.Delivery
import Toolpath.Proofs.Motion.Failure
import Toolpath.Proofs.Motion.Total

/-!
The speeds along a walk. A point can only set a speed that is fit to be one, but a fragment sets
whatever it has; so the speeds stay usable just as long as the fragments do.
-/

namespace Toolpath

variable {α : Type}

def Element.speedSettings : Element α → SpeedFragment α
  | .speeds fragment => fragment
  | _ => {}

def Initialization.speedSettings (initialization : Initialization α) : SpeedFragment α :=
  ⟨initialization.printSpeed, initialization.travelSpeed⟩

variable [Scalar α]

/-- Both speeds are finite and above zero. -/
structure Speeds.Usable (speeds : Speeds α) : Prop where
  print : Scalar.isUsable speeds.print = true
  travel : Scalar.isUsable speeds.travel = true

/-- The speeds that a fragment sets are finite and above zero. -/
structure SpeedFragment.Usable (fragment : SpeedFragment α) : Prop where
  print : ∀ speed ∈ fragment.print, Scalar.isUsable speed = true
  travel : ∀ speed ∈ fragment.travel, Scalar.isUsable speed = true

/-- The speed for moves that print or for those that do not. -/
def Speeds.choose (speeds : Speeds α) (printing : Bool) : α :=
  if printing then speeds.print else speeds.travel

instance SpeedFragment.Usable.decidable (fragment : SpeedFragment α) : Decidable fragment.Usable :=
  decidable_of_iff ((∀ speed ∈ fragment.print, Scalar.isUsable speed = true) ∧
      ∀ speed ∈ fragment.travel, Scalar.isUsable speed = true)
    ⟨fun both => ⟨both.1, both.2⟩, fun usable => ⟨usable.print, usable.travel⟩⟩

theorem SpeedFragment.usable_empty : ({} : SpeedFragment α).Usable :=
  ⟨fun _ set => (nomatch set), fun _ set => (nomatch set)⟩

namespace Speeds

theorem Usable.apply {speeds : Speeds α} {fragment : SpeedFragment α} (usable : speeds.Usable)
    (set : fragment.Usable) : (speeds.apply fragment).Usable := by
  obtain ⟨print, travel⟩ := fragment
  constructor
  · cases print with
    | none => exact usable.print
    | some speed => exact set.print speed rfl
  · cases travel with
    | none => exact usable.travel
    | some speed => exact set.travel speed rfl

theorem Usable.choose {speeds : Speeds α} (usable : speeds.Usable) (printing : Bool) :
    Scalar.isUsable (speeds.choose printing) = true := by
  cases printing with
  | true => exact usable.print
  | false => exact usable.travel

theorem Usable.of_apply {speeds : Speeds α} {fragment : SpeedFragment α}
    (usable : (speeds.apply fragment).Usable) : fragment.Usable := by
  constructor
  · intro speed set
    have print := usable.print
    rwa [Speeds.apply, Option.mem_def.mp set] at print
  · intro speed set
    have travel := usable.travel
    rwa [Speeds.apply, Option.mem_def.mp set] at travel

end Speeds

namespace Machine

variable {machine : Machine α} {element : Element α} {outcome : Outcome α}
  {commands : CommandTable}

omit [Scalar α] in
theorem turn_speeds (machine : Machine α) (extrude : Option Bool) :
    (machine.turn extrude).machine.speeds = machine.speeds := by
  rw [turn_machine]

/-- A speed that is not usable is passed over where a point sets it. -/
theorem pace_usable (usable : machine.speeds.Usable) (speed : Option α) :
    (machine.pace speed).machine.speeds.Usable := by
  unfold pace
  split
  · exact usable
  · split
    · rename_i fit
      split
      · exact ⟨fit, usable.travel⟩
      · exact ⟨usable.print, fit⟩
    · exact usable

theorem ready_usable (usable : machine.speeds.Usable) (point : Point α) :
    (machine.ready point).machine.speeds.Usable := by
  refine pace_usable ?_ point.speed
  exact turn_speeds machine point.extrude ▸ usable

theorem visitPoint_usable {point : Point α} (ok : machine.visitPoint point = .ok outcome)
    (usable : machine.speeds.Usable) : outcome.machine.speeds.Usable ∧
      ∀ emission ∈ outcome.emissions, emission.machine.speeds.Usable := by
  have after : outcome.machine.speeds.Usable := by
    obtain ⟨moved, atMoved, rfl⟩ := visitPoint_eq_ok.mp ok
    exact (reach_tells atMoved).1 ▸ ready_usable usable point
  refine ⟨after, fun emission member => ?_⟩
  rcases visitPoint_tells ok emission member with ⟨on, rfl⟩ | ⟨move, rfl⟩
  · exact turn_speeds machine point.extrude ▸ usable
  · exact after

theorem visit_speeds (ok : machine.visit commands element = .ok outcome)
    (other : element.point? = none) :
    outcome.machine.speeds = machine.speeds.apply element.speedSettings := by
  cases element with
  | point => cases other
  | speeds | bead =>
    cases ok
    rfl
  | extruder fragment =>
    cases ok
    dsimp only [announce]
    split
    · split <;> rfl
    · rfl
  | event event =>
    obtain ⟨total, fan, hotend, bed, after⟩ := visitEvent_machine ok
    rw [after]
    rfl

/-- Usable speeds stay usable over an element that sets none but usable ones. -/
theorem visit_usable (ok : machine.visit commands element = .ok outcome)
    (usable : machine.speeds.Usable) (set : element.speedSettings.Usable) :
    outcome.machine.speeds.Usable ∧ ∀ emission ∈ outcome.emissions, emission.machine.speeds.Usable := by
  cases isPoint : element.point? with
  | some point =>
    obtain rfl := Element.eq_of_point? isPoint
    exact visitPoint_usable ok usable
  | none =>
    have after : outcome.machine.speeds.Usable := visit_speeds ok isPoint ▸ usable.apply set
    refine ⟨after, fun emission member => ?_⟩
    rw [(visit_tells ok isPoint emission member).1]
    exact after

/-- A move goes at the speed for its kind, of the machine that goes along with it. -/
theorem Change.speed_eq {after : Machine α} {move : Move α}
    (change : Change element machine (some (.move move)) after) :
    move.speed = after.speeds.choose move.kind.isPrint := by
  cases change with
  | placed | traveled | printed => rfl
  | aside _ _ _ isAside => cases isAside

theorem Course.speed_eq {made : Element α → Prop} {last : Machine α} {emissions : List (Emission α)}
    {emission : Emission α} {move : Move α} (course : Course made machine emissions last)
    (member : emission ∈ emissions) (isMove : emission.action = .move move) :
    move.speed = emission.machine.speeds.choose move.kind.isPrint := by
  obtain ⟨before, after, rfl⟩ := List.append_of_mem member
  obtain ⟨middle, element, -, -, change, -⟩ := course.split
  rw [isMove] at change
  exact change.speed_eq

end Machine

omit [Scalar α] in
theorem Initialization.settings_of_mem_prologue {initialization : Initialization α}
    {element : Element α} (member : element ∈ initialization.prologue) :
    element.speedSettings = initialization.speedSettings ∨ element.speedSettings = {} := by
  simp only [prologue, speedElements, extruderElements, beadElements, bedElements, hotendElements,
    fanElements, switchElements, List.mem_append, Option.mem_toList, Option.map_eq_some_iff,
    List.mem_ite_nil_right, List.mem_singleton] at member
  rcases member with (((((((⟨_, rfl⟩ | ⟨_, rfl⟩) | ⟨_, rfl⟩) | ⟨_, _, rfl⟩) | ⟨_, _, rfl⟩) |
    ⟨_, _, rfl⟩) | ⟨_, _, rfl⟩) | ⟨_, _, rfl⟩) | ⟨_, _, rfl⟩
  · exact .inl rfl
  all_goals exact .inr rfl

namespace Motion

/-- The machines of a walk: behind every stretch that is walked without a fault, and along with every
action that is told. -/
inductive Reaches (commands : CommandTable) (elements : List (Numbered α)) : Machine α → Prop
  | behind {before after : List (Numbered α)} {run : Run α} : elements = before ++ after →
      walk commands .initial before = .ok run → Reaches commands elements run.machine
  | told {emission : Emission α} : emission ∈ delivered commands .initial elements →
      Reaches commands elements emission.machine

variable {commands : CommandTable} {initialization : Initialization α}
  {elements : List (Element α)}

theorem walk_usable {machine : Machine α} {numbered : List (Numbered α)} {run : Run α}
    (ok : walk commands machine numbered = .ok run) (usable : machine.speeds.Usable)
    (set : ∀ here ∈ numbered, here.1.speedSettings.Usable) : run.machine.speeds.Usable := by
  induction numbered generalizing machine run with
  | nil =>
    cases ok
    exact usable
  | cons here rest ih =>
    obtain ⟨setHere, setLater⟩ := List.forall_mem_cons.mp set
    obtain ⟨first, last, atFirst, atLast, rfl⟩ := walk_cons_eq_ok.mp ok
    obtain ⟨outcome, visited, rfl⟩ := step_eq_ok.mp atFirst
    have usableFirst := (Machine.visit_usable visited usable setHere).1
    have usableLast := ih atLast usableFirst setLater
    exact usableLast

/-- A fragment that is come to makes the speeds what it sets. -/
theorem Reaches.usable_fragment {numbered before after : List (Numbered α)}
    {fragment : SpeedFragment α} {index : Nat} {run : Run α}
    (all : ∀ machine, Reaches commands numbered machine → machine.speeds.Usable)
    (split : numbered = before ++ (.speeds fragment, index) :: after)
    (walked : walk commands .initial before = .ok run) : fragment.Usable := by
  have here : walk commands run.machine [(.speeds fragment, index)] =
      .ok ⟨{ run.machine with speeds := run.machine.speeds.apply fragment }, [], []⟩ := rfl
  have cut : numbered = (before ++ [(.speeds fragment, index)]) ++ after := by
    rw [split, List.append_assoc]
    rfl
  have reached := Reaches.behind cut (walk_append_eq_ok.mpr ⟨_, _, walked, here, rfl⟩)
  exact Speeds.Usable.of_apply (all _ reached)

/-- Every setting of speeds that a walk comes to is usable: that of the initialization, and each
fragment with no flaw before it. -/
structure SetsUsable (initialization : Initialization α) (elements : List (Element α)) : Prop where
  given : initialization.speedSettings.Usable
  fragments : ∀ before fragment after, elements = before ++ .speeds fragment :: after →
    Flawless initialization before → fragment.Usable

theorem SetsUsable.of_reaches
    (all : ∀ machine, Reaches commands (script initialization elements) machine →
      machine.speeds.Usable) : SetsUsable initialization elements := by
  constructor
  · cases sets : initialization.printSpeed.isSome || initialization.travelSpeed.isSome with
    | false =>
      obtain ⟨print, travel⟩ := Bool.or_eq_false_iff.mp sets
      constructor
      · intro speed set
        have set : initialization.printSpeed = some speed := set
        rw [set] at print
        cases print
      · intro speed set
        have set : initialization.travelSpeed = some speed := set
        rw [set] at travel
        cases travel
    | true =>
      have first : initialization.speedElements = [.speeds initialization.speedSettings] :=
        if_pos sets
      have atHead : ∃ after, script initialization elements =
          [] ++ (.speeds initialization.speedSettings, 0) :: after := by
        rw [script, Initialization.prologue, first]
        exact ⟨_, rfl⟩
      obtain ⟨after, split⟩ := atHead
      exact Reaches.usable_fragment all split rfl
  · intro before fragment after split flawless
    obtain ⟨run, walked⟩ := cause?_eq_none.mp (cause?_walk_of_flawless flawless commands)
    have cut := script_append initialization before (.speeds fragment :: after)
    rw [← split, List.zipIdx_cons] at cut
    exact Reaches.usable_fragment all cut walked

theorem SetsUsable.here (sets : SetsUsable initialization elements)
    {before after : List (Numbered α)} {here : Numbered α} {earlier : Run α}
    (split : script initialization elements = before ++ here :: after)
    (walked : walk commands .initial before = .ok earlier) : here.1.speedSettings.Usable := by
  obtain ⟨element, index⟩ := here
  rcases script_split split with ⟨member, -⟩ | ⟨front, back, heard, rfl, -⟩
  · rcases Initialization.settings_of_mem_prologue member with given | none
    · exact given ▸ sets.given
    · exact none ▸ SpeedFragment.usable_empty
  · cases element with
    | speeds fragment => exact sets.fragments front fragment back heard (flawless_iff.mpr ⟨_, walked⟩)
    | point | extruder | bead | event => exact SpeedFragment.usable_empty

theorem SetsUsable.behind (sets : SetsUsable initialization elements)
    (initial : (Machine.initial : Machine α).speeds.Usable) {before after : List (Numbered α)}
    {earlier : Run α} (split : script initialization elements = before ++ after)
    (walked : walk commands .initial before = .ok earlier) : earlier.machine.speeds.Usable := by
  refine walk_usable walked initial fun here member => ?_
  obtain ⟨first, second, rfl⟩ := List.append_of_mem member
  rw [List.append_assoc, List.cons_append] at split
  obtain ⟨front, _, walkedFirst, -⟩ := walk_append_eq_ok.mp walked
  exact sets.here split walkedFirst

theorem SetsUsable.reaches (sets : SetsUsable initialization elements)
    (initial : (Machine.initial : Machine α).speeds.Usable) {machine : Machine α}
    (reached : Reaches commands (script initialization elements) machine) :
    machine.speeds.Usable := by
  cases reached with
  | behind split walked => exact sets.behind initial split walked
  | told member =>
    obtain ⟨before, element, index, after, earlier, split, walked, told⟩ :=
      exists_of_mem_delivered member
    have usable := sets.behind initial split walked
    rcases told with started | ⟨outcome, visited, told⟩
    · obtain ⟨on, extrude, rfl⟩ := earlier.machine.started_tells element _ started
      exact earlier.machine.turn_speeds extrude ▸ usable
    · exact (Machine.visit_usable visited usable (sets.here split walked)).2 _ told

/-- The speeds are usable wherever a walk comes if and only if each setting that it comes to is usable:
no point spoils them, and a fragment that is not usable always does. As long as they are, all moves go
at usable speeds. -/
theorem speeds_usable_iff (commands : CommandTable) (initialization : Initialization Float)
    (elements : List (Element Float)) :
    let numbered := script initialization elements
    ((∀ machine, Reaches commands numbered machine → machine.speeds.Usable) ↔
      SetsUsable initialization elements) ∧
    (SetsUsable initialization elements → ∀ emission ∈ delivered commands .initial numbered,
      ∀ move, emission.action = .move move → Scalar.isUsable move.speed = true) := by
  intro numbered
  have initial : (Machine.initial : Machine Float).speeds.Usable := ⟨by decide, by decide⟩
  refine ⟨⟨SetsUsable.of_reaches, fun sets machine reached => sets.reaches initial reached⟩, ?_⟩
  intro sets emission member move isMove
  have usable := sets.reaches initial (.told member)
  obtain ⟨last, course⟩ := delivered_course commands .initial numbered
  rw [course.speed_eq member isMove]
  exact usable.choose _

/-- Speeds from everywhere: a point with one that is no good, and fragments between points. -/
def pacedElements : List (Element Float) :=
  [.speeds { travel := some 6000.0 }, .point { x := some 1.0, speed := some 0.0 },
    .point { x := some 2.0, speed := some 250.0 }, .speeds { print := some 900.0 },
    .point { x := some 3.0 }]

theorem speeds_usable_iff_paced : SetsUsable { printSpeed := some 1500.0 } pacedElements ∧
    ∀ emission ∈ delivered (fun _ => none) .initial
      (script { printSpeed := some 1500.0 } pacedElements),
      ∀ move, emission.action = .move move → Scalar.isUsable move.speed = true := by
  have sets : SetsUsable { printSpeed := some 1500.0 } pacedElements := by
    have all : ∀ element ∈ pacedElements, element.speedSettings.Usable := by
      decide
    refine ⟨by decide, fun before fragment after split flawless => all (.speeds fragment) ?_⟩
    rw [split]
    exact List.mem_append_right _ List.mem_cons_self
  exact ⟨sets, (speeds_usable_iff _ _ _).2 sets⟩

/-- A fragment can set a speed below zero, and the next move then goes at it. -/
theorem fragments_can_spoil_speeds :
    ¬ ∀ (commands : CommandTable) (initialization : Initialization Float)
      (elements : List (Element Float)),
      (∀ machine, Reaches commands (script initialization elements) machine →
        machine.speeds.Usable) ∧
      ∀ emission ∈ delivered commands .initial (script initialization elements),
        ∀ move, emission.action = .move move → Scalar.isUsable move.speed = true := by
  intro whole
  let elements : List (Element Float) :=
    [.speeds { travel := some (-5.0) }, .point { x := some 1.0, y := some 2.0, z := some 3.0 }]
  obtain ⟨-, moves⟩ := whole (fun _ => none) {} elements
  have usable := moves _ (List.mem_singleton.mpr rfl) _ rfl
  exact absurd usable (by decide)

end Motion

end Toolpath
