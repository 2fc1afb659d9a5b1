import Toolpath.Proofs.Motion.Walk

/-!
A walk as a sequence of single changes of the machine. Every piece of what an element does is one of
a few changes, each with at most one action, so that what holds of a whole walk is shown by one case
for each change.
-/

namespace Toolpath

variable {α : Type}

/-- Actions that neither move the tool nor feed material, and say nothing of the extruder. -/
def Action.isAside : Action α → Bool
  | .move _ | .toggled _ | .announced _ | .extruded .. => false
  | _ => true

variable [Scalar α]

namespace Machine

/-- The move to a first point. -/
def placing (machine : Machine α) (target : Position α) : Move α where
  kind := .origin
  start := target
  target := target
  form := machine.travelForm
  feed := none
  speed := machine.speeds.travel

/-- A move without extrusion. -/
def traveling (machine : Machine α) (start target : Position α) : Move α where
  kind := .travel
  start := start
  target := target
  form := machine.travelForm
  feed := machine.travelFeed
  speed := machine.speeds.travel

/-- A move that extrudes a bead of an area at a feed for each volume. -/
def printing (machine : Machine α) (start target : Position α) (area factor : α) : Move α where
  kind := .print (area * start.distance target) (start.distance target)
  start := start
  target := target
  form := .linear
  feed := some ((machine.extruder.advance (area * start.distance target * factor)).written
    (area * start.distance target * factor))
  speed := machine.speeds.print

/-- What going to a target comes to. On the spot only the signs of zeros can change; else there is one
move, which extrudes if the extruder is on. -/
inductive Went (machine : Machine α) (start target : Position α) : Outcome α → Prop
  | stayed : (target == start) = true →
      Went machine start target { machine := { machine with position := some target } }
  | traveled : (target == start) = false → machine.extruder.on = false →
      Went machine start target (emit { machine with position := some target }
        (.move (machine.traveling start target)))
  | printed {area factor : α} : (target == start) = false → machine.extruder.on = true →
      machine.bead.area = .ok area → machine.extruder.feedPerVolume = .ok factor →
      Went machine start target (emit { machine with
        position := some target
        extruder := machine.extruder.advance (area * start.distance target * factor) }
        (.move (machine.printing start target area factor)))

theorem went_of_go {machine : Machine α} {start : Position α} {point : Point α}
    {outcome : Outcome α} (ok : machine.go start point = .ok outcome) :
    machine.Went start (point.resolve start) outcome := by
  dsimp only [go] at ok
  split at ok
  · rename_i same
    cases ok
    exact .stayed same
  · rename_i differs
    have moves : (point.resolve start == start) = false := by simpa using differs
    split at ok
    · rename_i extruding
      unfold print at ok
      obtain ⟨area, atArea, ok⟩ := bind_eq_ok.mp ok
      obtain ⟨factor, atFactor, ok⟩ := bind_eq_ok.mp ok
      cases ok
      exact .printed moves extruding atArea atFactor
    · rename_i resting
      cases ok
      exact .traveled moves (by simpa using resting)

/-- One change that an element makes, with the action it is told by, if any. The guards are those of
the element, and the machine after it is the one that goes along with the action. -/
inductive Change (element : Element α) (machine : Machine α) : Option (Action α) → Machine α → Prop
  | settings (speeds : Speeds α) (bead : Bead α) (color : Option (Color α)) :
      Change element machine none { machine with speeds, bead, color }
  | configured {fragment : ExtruderFragment α} : fragment.relative = none →
      Change element machine none { machine with extruder := machine.extruder.apply fragment }
  | repeated {fragment : ExtruderFragment α} {relative : Bool} : fragment.relative = some relative →
      machine.extruder.announced = some relative →
      Change element machine none { machine with extruder := machine.extruder.apply fragment }
  | announced {fragment : ExtruderFragment α} {relative : Bool} : fragment.relative = some relative →
      machine.extruder.announced ≠ some relative →
      Change element machine (some (.announced relative)) { machine with
        extruder := { machine.extruder.apply fragment with
          relative, announced := some relative
          total := if relative then machine.extruder.total else 0.0 } }
  | toggled {on : Bool} : machine.extruder.on ≠ on →
      Change element machine (some (.toggled on))
        { machine with extruder := { machine.extruder with on } }
  | placed {point : Point α} : element = .point point → machine.position = none →
      Change element machine (some (.move (machine.placing (point.resolve .origin))))
        { machine with position := some (point.resolve .origin) }
  | stayed {point : Point α} {start : Position α} : element = .point point →
      machine.position = some start → (point.resolve start == start) = true →
      Change element machine none { machine with position := some (point.resolve start) }
  | traveled {point : Point α} {start : Position α} : element = .point point →
      machine.position = some start → (point.resolve start == start) = false →
      machine.extruder.on = false →
      Change element machine (some (.move (machine.traveling start (point.resolve start))))
        { machine with position := some (point.resolve start) }
  | printed {point : Point α} {start : Position α} {area factor : α} : element = .point point →
      machine.position = some start → (point.resolve start == start) = false →
      machine.extruder.on = true → machine.bead.area = .ok area →
      machine.extruder.feedPerVolume = .ok factor →
      Change element machine (some (.move (machine.printing start (point.resolve start) area factor)))
        { machine with
          position := some (point.resolve start)
          extruder := machine.extruder.advance (area * start.distance (point.resolve start) * factor) }
  | extruded {volume speed factor : α} : element = .event (.extrude volume speed) →
      machine.extruder.feedPerVolume = .ok factor →
      Change element machine
        (some (.extruded ((machine.extruder.advance (volume * factor)).written (volume * factor)) speed))
        { machine with extruder := machine.extruder.advance (volume * factor) }
  | aside {action : Action α} (fan hotend bed : Option α) : action.isAside = true →
      Change element machine (some action) { machine with fan, hotend, bed }

/-- Changes one after the other, made by elements of a kind, with all that is emitted. -/
inductive Course (made : Element α → Prop) : Machine α → List (Emission α) → Machine α → Prop
  | rest {machine : Machine α} : Course made machine [] machine
  | silent {element : Element α} {machine middle last : Machine α} {later : List (Emission α)} :
      made element → Change element machine none middle → Course made middle later last →
      Course made machine later last
  | told {element : Element α} {machine middle last : Machine α} {action : Action α}
      {later : List (Emission α)} : made element → Change element machine (some action) middle →
      Course made middle later last → Course made machine (⟨action, middle⟩ :: later) last

namespace Course

variable {made : Element α → Prop} {machine middle last : Machine α}

theorem one_silent {element : Element α} (byElement : made element)
    (change : Change element machine none last) : Course made machine [] last :=
  .silent byElement change .rest

theorem one_told {element : Element α} {action : Action α} (byElement : made element)
    (change : Change element machine (some action) last) :
    Course made machine [⟨action, last⟩] last :=
  .told byElement change .rest

theorem append {first later : List (Emission α)} (course : Course made machine first middle)
    (next : Course made middle later last) : Course made machine (first ++ later) last := by
  induction course with
  | rest => exact next
  | silent byElement change _ ih => exact .silent byElement change (ih next)
  | told byElement change _ ih => exact .told byElement change (ih next)

theorem mono {wider : Element α → Prop} {emissions : List (Emission α)}
    (course : Course made machine emissions last) (wide : ∀ element, made element → wider element) :
    Course wider machine emissions last := by
  induction course with
  | rest => exact .rest
  | silent byElement change _ ih => exact .silent (wide _ byElement) change ih
  | told byElement change _ ih => exact .told (wide _ byElement) change ih

end Course

theorem switch_course (element : Element α) (machine : Machine α) (on : Bool) :
    Course (· = element) machine (machine.switch on).emissions (machine.switch on).machine := by
  unfold switch
  split
  · exact .rest
  · rename_i differs
    exact .one_told rfl (.toggled differs)

theorem turn_course (element : Element α) (machine : Machine α) (extrude : Option Bool) :
    Course (· = element) machine (machine.turn extrude).emissions (machine.turn extrude).machine := by
  cases extrude with
  | none => exact .rest
  | some on => exact switch_course element machine on

/-- The color and the speed of a point are never told. -/
theorem pace_course (element : Element α) (machine : Machine α) (color : Option (Color α))
    (speed : Option α) :
    Course (· = element) machine [] ((machine.paint color).pace speed).machine := by
  have painted (speeds : Speeds α) : Course (· = element) machine []
      { machine with speeds, color := color <|> machine.color } :=
    .one_silent rfl (.settings speeds machine.bead _)
  unfold pace
  split
  · exact painted machine.speeds
  · split
    · split
      · exact painted { machine.speeds with print := _ }
      · exact painted { machine.speeds with travel := _ }
    · exact painted machine.speeds

theorem place_course {point : Point α} {machine : Machine α} (nowhere : machine.position = none) :
    Course (· = .point point) machine (machine.place point).emissions (machine.place point).machine :=
  .one_told rfl (.placed rfl nowhere)

theorem go_course {point : Point α} {machine : Machine α} {start : Position α} {outcome : Outcome α}
    (placed : machine.position = some start) (ok : machine.go start point = .ok outcome) :
    Course (· = .point point) machine outcome.emissions outcome.machine := by
  cases went_of_go ok with
  | stayed same => exact .one_silent rfl (.stayed rfl placed same)
  | traveled moves off => exact .one_told rfl (.traveled rfl placed moves off)
  | printed moves on atArea atFactor =>
    exact .one_told rfl (.printed rfl placed moves on atArea atFactor)

theorem extrude_course {volume speed : α} {machine : Machine α} {outcome : Outcome α}
    (ok : machine.extrude volume speed = .ok outcome) :
    Course (· = .event (.extrude volume speed)) machine outcome.emissions outcome.machine := by
  unfold extrude at ok
  obtain ⟨factor, atFactor, ok⟩ := bind_eq_ok.mp ok
  cases ok
  exact .one_told rfl (.extruded rfl atFactor)

theorem visitPoint_course {point : Point α} {machine : Machine α} {outcome : Outcome α}
    (ok : machine.visitPoint point = .ok outcome) :
    Course (· = .point point) machine outcome.emissions outcome.machine := by
  obtain ⟨moved, atMoved, rfl⟩ := visitPoint_eq_ok.mp ok
  refine (turn_course _ machine point.extrude).append ?_
  refine .append (pace_course _ (machine.turn point.extrude).machine point.color point.speed) ?_
  unfold reach at atMoved
  split at atMoved
  · rename_i nowhere
    cases atMoved
    exact place_course nowhere
  · rename_i start placed
    exact go_course placed atMoved

theorem visitEvent_course {commands : CommandTable} {event : Event α} {machine : Machine α}
    {outcome : Outcome α} (ok : machine.visitEvent commands event = .ok outcome) :
    Course (· = .event event) machine outcome.emissions outcome.machine := by
  have told (action : Action α) (isAside : action.isAside = true) (fan hotend bed : Option α) :
      Course (· = .event event) machine [⟨action, { machine with fan, hotend, bed }⟩]
        { machine with fan, hotend, bed } := .one_told rfl (.aside fan hotend bed isAside)
  cases event with
  | toggle on =>
    cases ok
    exact switch_course _ machine on
  | command id =>
    cases known : commands id with
    | none =>
      simp only [visitEvent, known, Except.ok.injEq] at ok
      subst ok
      exact .rest
    | some text =>
      simp only [visitEvent, known, Except.ok.injEq] at ok
      subst ok
      exact told (.instruction text) rfl machine.fan machine.hotend machine.bed
  | raw text =>
    cases ok
    exact told _ rfl machine.fan machine.hotend machine.bed
  | comment text note =>
    cases ok
    exact told _ rfl machine.fan machine.hotend machine.bed
  | extrude volume speed => exact extrude_course ok
  | fan percent =>
    cases ok
    unfold blow
    split
    · exact told _ rfl (some _) machine.hotend machine.bed
    · exact .rest
  | hotend celsius wait tool =>
    cases ok
    exact told _ rfl machine.fan (some celsius) machine.bed
  | bed celsius wait =>
    cases ok
    exact told _ rfl machine.fan machine.hotend (some celsius)
  | marker label point =>
    cases ok
    unfold mark
    split
    · exact told _ rfl machine.fan machine.hotend machine.bed
    · exact told _ rfl machine.fan machine.hotend machine.bed
    · exact .rest

theorem configure_course (element : Element α) (machine : Machine α) (fragment : ExtruderFragment α) :
    let configured := { machine with extruder := machine.extruder.apply fragment }
    let outcome := if fragment.relative.isSome then configured.announce else { machine := configured }
    Course (· = element) machine outcome.emissions outcome.machine := by
  dsimp only
  cases setting : fragment.relative with
  | none => exact .one_silent rfl (.configured setting)
  | some relative =>
    have now : (machine.extruder.apply fragment).relative = relative := by
      simp only [Extruder.apply, setting, Option.getD_some]
    simp only [Option.isSome_some, if_true, announce, now]
    split
    · rename_i same
      exact .one_silent rfl (.repeated setting same)
    · rename_i differs
      exact .one_told rfl (.announced setting differs)

/-- What an element does is a course of changes that the element makes. -/
theorem visit_course {commands : CommandTable} {element : Element α} {machine : Machine α}
    {outcome : Outcome α} (ok : machine.visit commands element = .ok outcome) :
    Course (· = element) machine outcome.emissions outcome.machine := by
  cases element with
  | point point => exact visitPoint_course ok
  | speeds fragment =>
    cases ok
    exact .one_silent rfl (.settings _ machine.bead machine.color)
  | extruder fragment =>
    cases ok
    exact configure_course _ machine fragment
  | bead fragment =>
    cases ok
    exact .one_silent rfl (.settings machine.speeds _ machine.color)
  | event event => exact visitEvent_course ok

end Machine

namespace Motion

open Machine

theorem step_course {commands : CommandTable} {machine : Machine α} {element : Element α} {index : Nat}
    {run : Run α} (ok : step commands machine (element, index) = .ok run) :
    Course (· = element) machine run.emissions run.machine := by
  obtain ⟨outcome, visited, rfl⟩ := step_eq_ok.mp ok
  exact visit_course visited

/-- A walk is a course of changes that its elements make. -/
theorem walk_course {commands : CommandTable} {machine : Machine α} {elements : List (Numbered α)}
    {run : Run α} (ok : walk commands machine elements = .ok run) :
    Course (· ∈ elements.map Prod.fst) machine run.emissions run.machine := by
  induction elements generalizing machine run with
  | nil =>
    cases ok
    exact .rest
  | cons numbered rest ih =>
    obtain ⟨first, later, atFirst, atLater, rfl⟩ := walk_cons_eq_ok.mp ok
    refine .append ((step_course atFirst).mono ?_) ((ih atLater).mono ?_)
    · rintro _ rfl
      exact List.mem_cons_self
    · intro element member
      exact List.mem_cons_of_mem _ member

end Motion

end Toolpath
