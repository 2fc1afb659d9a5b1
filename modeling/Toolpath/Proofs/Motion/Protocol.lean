import Toolpath.Proofs.Motion.Delivery
import Toolpath.Proofs.Motion.Failure
import Toolpath.Proofs.Motion.Total
import Toolpath.Proofs.Scalar.FloatOrder
import Mathlib.Data.List.Chain

/-!
The order in which a walk tells its actions. Whoever takes them can rely on it: switches alternate, a
mode is announced when it changes and at no other time, the first move and no other says where the
tool is, and each later one extrudes just where the last switch was on.
-/

namespace Toolpath

variable {α : Type}

def Action.switch? : Action α → Option Bool
  | .toggled on => some on
  | _ => none

def Action.mode? : Action α → Option Bool
  | .announced relative => some relative
  | _ => none

/-- A move as it must be, by whether it is the first one and whether the extruder is on. -/
def Move.Fitting (move : Move α) (isFirst on : Bool) : Prop :=
  match move.kind with
  | .origin => isFirst = true ∧ move.feed = none
  | .travel => isFirst = false ∧ on = false ∧
      (move.form = .linear ∧ move.feed.isSome = true ∨ move.form = .rapid ∧ move.feed = none)
  | .print _ _ => isFirst = false ∧ on = true ∧ move.form = .linear ∧ move.feed.isSome = true

/-- The machine that goes along with an action is as the action says. -/
def Emission.Holds (emission : Emission α) : Prop :=
  match emission.action with
  | .move move => emission.machine.position = some move.target
  | .toggled on => emission.machine.extruder.on = on
  | .announced relative => emission.machine.extruder.relative = relative ∧
      emission.machine.extruder.announced = some relative
  | _ => True

namespace Machine

variable [Scalar α] {element : Element α} {machine after last : Machine α}
  {told : Option (Action α)} {action : Action α} {made : Element α → Prop}
  {emissions : List (Emission α)}

theorem Change.on_eq (change : Change element machine told after) :
    after.extruder.on = (told.bind Action.switch?).getD machine.extruder.on := by
  cases change with
  | settings | configured | repeated | announced | toggled | placed | stayed | traveled | printed
  | extruded => rfl
  | @aside action fan hotend bed isAside =>
    cases action <;> first | rfl | cases isAside

theorem Change.announced_eq (change : Change element machine told after) :
    after.extruder.announced = (told.bind Action.mode?).or machine.extruder.announced := by
  cases change with
  | settings | configured | repeated | announced | toggled | placed | stayed | traveled | printed
  | extruded => rfl
  | @aside action fan hotend bed isAside =>
    cases action <;> first | rfl | cases isAside

theorem Change.isNone_position (change : Change element machine told after) :
    after.position.isNone = (machine.position.isNone && (told.bind Action.move?).isNone) := by
  cases change with
  | settings | configured | repeated | announced | toggled | extruded =>
    exact (Bool.and_true _).symm
  | placed | traveled | printed => exact (Bool.and_false _).symm
  | stayed _ placed => exact (congrArg (·.isNone && true) placed).symm
  | @aside action fan hotend bed isAside =>
    cases action with
    | move => cases isAside
    | toggled | announced | instruction | comment | extruded | fan | hotend | bed | marker =>
      exact (Bool.and_true _).symm

theorem Change.holds_told (change : Change element machine (some action) after) :
    Emission.Holds ⟨action, after⟩ := by
  cases change with
  | announced => exact ⟨rfl, rfl⟩
  | toggled | placed | traveled | printed => rfl
  | extruded => trivial
  | aside fan hotend bed isAside =>
    cases action with
    | move | toggled | announced | extruded => cases isAside
    | instruction | comment | fan | hotend | bed | marker => trivial

theorem Change.fitting {move : Move α} (change : Change element machine (some (.move move)) after) :
    move.Fitting machine.position.isNone machine.extruder.on := by
  cases change with
  | placed _ nowhere => exact ⟨congrArg Option.isNone nowhere, rfl⟩
  | traveled _ placed _ off =>
    refine ⟨congrArg Option.isNone placed, off, ?_⟩
    simp only [traveling, travelForm, travelFeed]
    cases machine.extruder.travelForm with
    | holding => exact .inl ⟨rfl, rfl⟩
    | rapid => exact .inr ⟨rfl, rfl⟩
  | printed _ placed _ on => exact ⟨congrArg Option.isNone placed, on, rfl, rfl⟩
  | aside _ _ _ isAside => cases isAside

theorem Course.on_eq (course : Course made machine emissions last) :
    last.extruder.on = (lastOf (·.action.switch?) emissions).getD machine.extruder.on := by
  induction course with
  | rest => rfl
  | silent _ change _ ih =>
    rw [ih, change.on_eq]
    rfl
  | @told element machine middle last action later _ change _ ih =>
    rw [ih, change.on_eq, lastOf_cons]
    cases lastOf (fun emission : Emission α => emission.action.switch?) later <;> rfl

theorem Course.isNone_position (course : Course made machine emissions last) :
    last.position.isNone = (machine.position.isNone && (Motion.moves emissions).isEmpty) := by
  induction course with
  | rest => exact (Bool.and_true _).symm
  | silent _ change _ ih =>
    rw [ih, change.isNone_position]
    simp
  | @told element machine middle last action later _ change _ ih =>
    rw [ih, change.isNone_position, Motion.moves_cons]
    cases isMove : action.move? <;> simp [isMove]

/-- Along a course each switch is to what the extruder is not. -/
theorem Course.switches (course : Course made machine emissions last) :
    List.IsChain (· ≠ ·) (machine.extruder.on :: emissions.filterMap (·.action.switch?)) := by
  induction course with
  | rest => exact .singleton _
  | silent _ change _ ih =>
    rw [change.on_eq] at ih
    exact ih
  | @told element machine middle last action later _ change _ ih =>
    rw [change.on_eq] at ih
    cases change with
    | toggled differs => exact .cons_cons differs ih
    | announced | placed | traveled | printed | extruded => exact ih
    | aside _ _ _ isAside =>
      cases action <;> first | exact ih | cases isAside

/-- Along a course no mode is announced that was announced last. -/
theorem Course.modes (course : Course made machine emissions last) :
    List.IsChain (· ≠ ·)
      (machine.extruder.announced.toList ++ emissions.filterMap (·.action.mode?)) := by
  induction course with
  | @rest machine =>
    cases machine.extruder.announced with
    | none => exact .nil
    | some relative => exact .singleton _
  | silent _ change _ ih =>
    rw [change.announced_eq] at ih
    exact ih
  | @told element machine middle last action later _ change _ ih =>
    rw [change.announced_eq] at ih
    cases change with
    | @announced fragment relative _ differs =>
      cases before : machine.extruder.announced with
      | none => exact ih
      | some other =>
        have changed : other ≠ relative := fun same => differs (before.trans (congrArg some same))
        exact .cons_cons changed ih
    | toggled | placed | traveled | printed | extruded => exact ih
    | aside _ _ _ isAside =>
      cases action <;> first | exact ih | cases isAside

theorem visit_fan {commands : CommandTable} {outcome : Outcome α}
    (ok : machine.visit commands element = .ok outcome) {emission : Emission α}
    (member : emission ∈ outcome.emissions) {percent : α} (isFan : emission.action = .fan percent) :
    ∃ asked, Scalar.isFinite asked = true ∧ percent = Scalar.clamp 0.0 100.0 asked := by
  cases isPoint : element.point? with
  | some point =>
    obtain rfl := Element.eq_of_point? isPoint
    rcases visitPoint_tells ok emission member with ⟨on, rfl⟩ | ⟨move, rfl⟩ <;> cases isFan
  | none =>
    have clamped := (visit_tells ok isPoint emission member).2
    rw [isFan] at clamped
    obtain ⟨asked, -, finite, moved⟩ := clamped
    exact ⟨asked, finite, moved⟩

end Machine

namespace Motion

/-- What a walk tells is in order. Switches alternate, and the first one is on. No mode is announced
that was announced last. -/
structure Orderly (told : List (Emission Float)) : Prop where
  switches : List.IsChain (· ≠ ·) (false :: told.filterMap (·.action.switch?))
  modes : List.IsChain (· ≠ ·) (told.filterMap (·.action.mode?))
  moves : ∀ before emission after move, told = before ++ emission :: after →
    emission.action = .move move → move.Fitting (Motion.moves before).isEmpty
      ((lastOf (·.action.switch?) before).getD false)
  fans : ∀ emission ∈ told, ∀ percent, emission.action = .fan percent →
    0.0 ≤ percent ∧ percent ≤ 100.0
  machines : ∀ emission ∈ told, emission.Holds

theorem delivered_fan {commands : CommandTable} {machine : Machine Float}
    {elements : List (Numbered Float)} {emission : Emission Float}
    (member : emission ∈ delivered commands machine elements) {percent : Float}
    (isFan : emission.action = .fan percent) : 0.0 ≤ percent ∧ percent ≤ 100.0 := by
  obtain ⟨before, element, index, after, earlier, -, -, told⟩ := exists_of_mem_delivered member
  rcases told with started | ⟨outcome, visited, told⟩
  · obtain ⟨on, extrude, rfl⟩ := earlier.machine.started_tells element emission started
    cases isFan
  · obtain ⟨asked, finite, rfl⟩ := Machine.visit_fan visited told isFan
    exact FloatScalar.clamp_mem finite (by decide) (by decide) (by decide)

/-- Whatever the elements, and whether or not they are walked to the end. -/
theorem orderly_delivered (commands : CommandTable) (elements : List (Numbered Float)) :
    Orderly (delivered commands .initial elements) := by
  obtain ⟨last, course⟩ := delivered_course commands .initial elements
  refine ⟨course.switches, course.modes, ?_, fun _ member _ => delivered_fan member, ?_⟩
  · intro before emission after move split isMove
    rw [split] at course
    obtain ⟨middle, element, first, -, change, -⟩ := course.split
    rw [isMove] at change
    have fitting := change.fitting
    rw [first.isNone_position, first.on_eq] at fitting
    exact fitting
  · intro emission member
    obtain ⟨before, after, split⟩ := List.append_of_mem member
    rw [split] at course
    obtain ⟨middle, element, -, -, change, -⟩ := course.split
    exact change.holds_told

/-- Where a walk ends with a fault, everything in front of the element with the fault is handed over,
and what that element had told. -/
theorem delivered_of_fault {commands : CommandTable} {initialization : Initialization Float}
    {elements : List (Element Float)} {fault : Fault Float}
    (fails : runElements commands initialization elements = .error fault) :
    ∃ before element after earlier, elements = before ++ element :: after ∧
      fault.index = before.length ∧
      walk commands .initial (script initialization before) = .ok earlier ∧
      delivered commands .initial (script initialization elements) =
        earlier.emissions ++ earlier.machine.started element := by
  obtain ⟨before, element, after, rfl, flawless, atElement⟩ := runElements_eq_error.mp fails
  obtain ⟨earlier, walked⟩ := cause?_eq_none.mp (cause?_walk_of_flawless flawless commands)
  refine ⟨before, element, after, earlier, rfl, (fault?_eq_some.mp atElement).1, walked, ?_⟩
  have refused : step commands earlier.machine (element, before.length) = .error fault := by
    rw [← cause?_eq_some, cause?_step, (walk_legs walked).1, walk_supply walked]
    exact atElement
  rw [script_append, delivered_append walked, List.zipIdx_cons, delivered, refused]

/-- Whatever the design and the initialization, what is told is in order. It is the same whoever takes
it, and it is what every output is made of; where the walk ends with a fault, it is all that comes
before. -/
theorem delivered_orderly (commands : CommandTable) (initialization : Initialization Float)
    (elements : List (Element Float)) :
    let told := delivered commands .initial (script initialization elements)
    Orderly told ∧
    (∀ (ρ : Type) (take : ρ → Emission Float → ρ) (taker : ρ),
      serve take commands .initial taker (script initialization elements) = told.foldl take taker) ∧
    match runElements commands initialization elements with
    | .ok run => told = run.emissions
    | .error fault => ∃ before element after earlier, elements = before ++ element :: after ∧
        fault.index = before.length ∧
        walk commands .initial (script initialization before) = .ok earlier ∧
        told = earlier.emissions ++ earlier.machine.started element := by
  intro told
  refine ⟨orderly_delivered commands _, fun ρ take taker => serve_eq_foldl take commands _ taker _, ?_⟩
  cases ends : runElements commands initialization elements with
  | ok run =>
    obtain ⟨walked, onScript, rfl⟩ := runElements_eq_ok.mp ends
    have told := delivered_of_ok onScript
    exact told
  | error fault => exact delivered_of_fault ends

-- The second point has no bead to print with, but has switched the extruder on when that is found.
example :
    let elements : List (Element Float) :=
      [.point { x := some 1.0 }, .point { x := some 2.0, extrude := some true }]
    (delivered (fun _ => none) .initial (script {} elements)).map (·.action.switch?) =
      [none, some true] := by
  decide +kernel

end Motion

end Toolpath
