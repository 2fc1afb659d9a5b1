import Toolpath.Proofs.Motion.Legs

/-!
What a walk hands over as it goes, whether it ends well or with a fault. A fault loses the output, but
not what was handed over before it: everything that the elements in front did, and what the element
with the fault had told when it was given up.
-/

namespace Toolpath

variable {α : Type} [Scalar α]

/-- What the fan is told is what an element asks for, if that is finite, moved into 0 and 100
percent. -/
def Action.Clamped (element : Element α) : Action α → Prop
  | .fan percent => ∃ asked, element = .event (.fan asked) ∧ Scalar.isFinite asked = true ∧
      percent = Scalar.clamp 0.0 100.0 asked
  | _ => True

namespace Machine

variable {commands : CommandTable} {machine : Machine α} {element : Element α} {outcome : Outcome α}

/-- What an element that is no point tells: nothing, or one action when it has made its change. It leaves
the extruder as it is, unless it is a switch. -/
theorem visit_told (ok : machine.visit commands element = .ok outcome) (other : element.point? = none) :
    outcome.emissions = [] ∨ ∃ action, outcome.emissions = [⟨action, outcome.machine⟩] ∧
      action.Clamped element ∧ (element.switch? = none → action.isStill = true) := by
  cases element with
  | point => cases other
  | speeds | bead =>
    cases ok
    exact .inl rfl
  | extruder fragment =>
    cases ok
    dsimp only [announce]
    split
    · split
      · exact .inl rfl
      · exact .inr ⟨_, rfl, trivial, fun _ => rfl⟩
    · exact .inl rfl
  | event event =>
    cases event with
    | toggle on =>
      cases ok
      dsimp only [switch]
      split
      · exact .inl rfl
      · exact .inr ⟨_, rfl, trivial, fun unswitched => nomatch unswitched⟩
    | command id =>
      simp only [visit, visitEvent] at ok
      split at ok <;> cases ok
      · exact .inr ⟨_, rfl, trivial, fun _ => rfl⟩
      · exact .inl rfl
    | extrude volume speed =>
      simp only [visit, visitEvent, extrude] at ok
      obtain ⟨factor, -, ok⟩ := bind_eq_ok.mp ok
      cases ok
      exact .inr ⟨_, rfl, trivial, fun _ => rfl⟩
    | fan percent =>
      cases ok
      dsimp only [blow]
      split
      · rename_i finite
        exact .inr ⟨_, rfl, ⟨percent, rfl, finite, rfl⟩, fun _ => rfl⟩
      · exact .inl rfl
    | marker label point =>
      cases ok
      dsimp only [mark]
      split
      · exact .inr ⟨_, rfl, trivial, fun _ => rfl⟩
      · exact .inr ⟨_, rfl, trivial, fun _ => rfl⟩
      · exact .inl rfl
    | raw | comment | hotend | bed =>
      cases ok
      exact .inr ⟨_, rfl, trivial, fun _ => rfl⟩

/-- An element that is no point has made its change when it tells of it. -/
theorem visit_tells (ok : machine.visit commands element = .ok outcome)
    (other : element.point? = none) : ∀ emission ∈ outcome.emissions,
      emission.machine = outcome.machine ∧ emission.action.Clamped element := by
  rcases visit_told ok other with none | ⟨action, one, clamped, -⟩
  · rw [none]
    exact List.forall_mem_nil _
  · rw [one]
    exact List.forall_mem_singleton.mpr ⟨rfl, clamped⟩

omit [Scalar α] in
theorem turn_tells (machine : Machine α) (extrude : Option Bool) :
    ∀ emission ∈ (machine.turn extrude).emissions,
      ∃ on, emission = ⟨.toggled on, (machine.turn extrude).machine⟩ := by
  cases extrude with
  | none => exact List.forall_mem_nil _
  | some on =>
    show ∀ emission ∈ (machine.switch on).emissions,
      ∃ on', emission = ⟨.toggled on', (machine.switch on).machine⟩
    unfold switch
    split
    · exact List.forall_mem_nil _
    · exact List.forall_mem_singleton.mpr ⟨on, rfl⟩

theorem reach_tells {point : Point α} (ok : machine.reach point = .ok outcome) :
    outcome.machine.speeds = machine.speeds ∧
      ∀ emission ∈ outcome.emissions, ∃ move, emission = ⟨.move move, outcome.machine⟩ := by
  unfold reach at ok
  split at ok
  · cases ok
    exact ⟨rfl, List.forall_mem_singleton.mpr ⟨_, rfl⟩⟩
  · cases went_of_go ok with
    | stayed => exact ⟨rfl, List.forall_mem_nil _⟩
    | traveled | printed => exact ⟨rfl, List.forall_mem_singleton.mpr ⟨_, rfl⟩⟩

/-- A point tells of a switch, which it makes first, and of a move. -/
theorem visitPoint_tells {point : Point α} (ok : machine.visitPoint point = .ok outcome) :
    ∀ emission ∈ outcome.emissions,
      (∃ on, emission = ⟨.toggled on, (machine.turn point.extrude).machine⟩) ∨
        ∃ move, emission = ⟨.move move, outcome.machine⟩ := by
  obtain ⟨moved, atMoved, rfl⟩ := visitPoint_eq_ok.mp ok
  intro emission member
  rcases List.mem_append.mp member with first | later
  · exact .inl (turn_tells machine point.extrude emission first)
  · exact .inr ((reach_tells atMoved).2 emission later)

/-- What an element tells before it can fail: a point switches the extruder before it goes. -/
def started (machine : Machine α) : Element α → List (Emission α)
  | .point point => (machine.turn point.extrude).emissions
  | _ => []

theorem started_course (machine : Machine α) (element : Element α) :
    ∃ last, Course (· = element) machine (machine.started element) last := by
  cases element with
  | point point => exact ⟨_, turn_course _ machine point.extrude⟩
  | speeds | extruder | bead | event => exact ⟨_, .rest⟩

omit [Scalar α] in
theorem started_tells (machine : Machine α) (element : Element α) :
    ∀ emission ∈ machine.started element,
      ∃ on extrude, emission = ⟨.toggled on, (machine.turn extrude).machine⟩ := by
  intro emission member
  cases element with
  | point point =>
    obtain ⟨on, told⟩ := turn_tells machine point.extrude emission member
    exact ⟨on, point.extrude, told⟩
  | speeds | extruder | bead | event => cases member

end Machine

namespace Motion

/-- All that a walk hands over. -/
def delivered (commands : CommandTable) (machine : Machine α) :
    List (Numbered α) → List (Emission α)
  | [] => []
  | numbered :: rest =>
    match step commands machine numbered with
    | .ok run => run.emissions ++ delivered commands run.machine rest
    | .error _ => machine.started numbered.1

/-- A walk that hands over each emission as it goes: how it leaves the one who takes them. -/
def serve {ρ : Type} (take : ρ → Emission α → ρ) (commands : CommandTable) (machine : Machine α)
    (taker : ρ) : List (Numbered α) → ρ
  | [] => taker
  | numbered :: rest =>
    match step commands machine numbered with
    | .ok run => serve take commands run.machine (run.emissions.foldl take taker) rest
    | .error _ => (machine.started numbered.1).foldl take taker

/-- What is handed over does not depend on the one who takes it. -/
theorem serve_eq_foldl {ρ : Type} (take : ρ → Emission α → ρ) (commands : CommandTable)
    (machine : Machine α) (taker : ρ) (elements : List (Numbered α)) :
    serve take commands machine taker elements =
      (delivered commands machine elements).foldl take taker := by
  induction elements generalizing machine taker with
  | nil => rfl
  | cons numbered rest ih =>
    unfold serve delivered
    cases step commands machine numbered with
    | error fault => rfl
    | ok run =>
      dsimp only
      rw [List.foldl_append]
      exact ih run.machine _

theorem delivered_append {commands : CommandTable} {machine : Machine α}
    {before : List (Numbered α)} {earlier : Run α}
    (ok : walk commands machine before = .ok earlier) (after : List (Numbered α)) :
    delivered commands machine (before ++ after) =
      earlier.emissions ++ delivered commands earlier.machine after := by
  induction before generalizing machine earlier with
  | nil =>
    cases ok
    rfl
  | cons numbered rest ih =>
    obtain ⟨first, later, atFirst, atLater, rfl⟩ := walk_cons_eq_ok.mp ok
    have behind := ih atLater
    rw [List.cons_append, delivered, atFirst]
    dsimp only [Run.followed]
    rw [behind, List.append_assoc]

/-- A walk that ends well hands over what its output is made of. -/
theorem delivered_of_ok {commands : CommandTable} {machine : Machine α}
    {elements : List (Numbered α)} {run : Run α} (ok : walk commands machine elements = .ok run) :
    delivered commands machine elements = run.emissions := by
  have all := delivered_append ok []
  rw [List.append_nil] at all
  exact all.trans (List.append_nil _)

theorem delivered_course (commands : CommandTable) (machine : Machine α)
    (elements : List (Numbered α)) :
    ∃ last, Machine.Course (fun _ => True) machine (delivered commands machine elements) last := by
  induction elements generalizing machine with
  | nil => exact ⟨machine, .rest⟩
  | cons numbered rest ih =>
    obtain ⟨element, index⟩ := numbered
    unfold delivered
    cases atStep : step commands machine (element, index) with
    | error fault =>
      obtain ⟨last, course⟩ := machine.started_course element
      exact ⟨last, course.mono fun _ _ => trivial⟩
    | ok run =>
      obtain ⟨last, later⟩ := ih run.machine
      have first := (step_course atStep).mono fun _ _ => trivial
      exact ⟨last, first.append later⟩

/-- Whatever is handed over is told by an element that is come to without a fault. -/
theorem exists_of_mem_delivered {commands : CommandTable} {machine : Machine α}
    {elements : List (Numbered α)} {emission : Emission α}
    (member : emission ∈ delivered commands machine elements) :
    ∃ before element index after earlier, elements = before ++ (element, index) :: after ∧
      walk commands machine before = .ok earlier ∧
      (emission ∈ earlier.machine.started element ∨ ∃ outcome,
        earlier.machine.visit commands element = .ok outcome ∧ emission ∈ outcome.emissions) := by
  induction elements generalizing machine with
  | nil => cases member
  | cons numbered rest ih =>
    obtain ⟨element, index⟩ := numbered
    unfold delivered at member
    cases atStep : step commands machine (element, index) with
    | error fault =>
      rw [atStep] at member
      exact ⟨[], element, index, rest, _, rfl, rfl, .inl member⟩
    | ok run =>
      rw [atStep] at member
      rcases List.mem_append.mp member with here | later
      · obtain ⟨outcome, visited, rfl⟩ := step_eq_ok.mp atStep
        exact ⟨[], element, index, rest, _, rfl, rfl, .inr ⟨outcome, visited, here⟩⟩
      · obtain ⟨before, other, number, after, earlier, rfl, walked, told⟩ := ih later
        exact ⟨(element, index) :: before, other, number, after, run.followed earlier, rfl,
          walk_cons_eq_ok.mpr ⟨run, earlier, atStep, walked, rfl⟩, told⟩

end Motion

end Toolpath
