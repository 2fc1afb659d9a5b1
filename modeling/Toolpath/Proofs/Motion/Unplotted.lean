import Toolpath.Proofs.Erasure

/-!
Walks without what only a plot shows. Labels and colors are carried through the machine, but nothing that
the machine is told hangs on them: a walk over elements without them tells the same, up to the color that
the machine keeps.
-/

namespace Toolpath

variable {α : Type}

def Point.uncolored (point : Point α) : Point α := { point with color := none }

/-- An element without what only a plot shows. -/
def Element.unplotted : Element α → Option (Element α)
  | .point target => some (.point target.uncolored)
  | .event (.marker _ _) => none
  | element => some element

def Machine.uncolored (machine : Machine α) : Machine α := { machine with color := none }

/-- An emission without what only a plot shows. -/
def Emission.unplotted (emission : Emission α) : Option (Emission α) :=
  match emission.action with
  | .marker _ _ => none
  | action => some ⟨action, emission.machine.uncolored⟩

def Outcome.unplotted (outcome : Outcome α) : Outcome α where
  machine := outcome.machine.uncolored
  emissions := outcome.emissions.filterMap Emission.unplotted
  remarks := outcome.remarks

theorem Element.kind_unplotted {element bare : Element α} (plain : element.unplotted = some bare) :
    bare.kind = element.kind := by
  unfold unplotted at plain
  split at plain
  · cases plain
    rfl
  · cases plain
  · cases plain
    rfl

theorem Element.unplotted_unplotted (element : Element α) :
    element.unplotted.bind Element.unplotted = element.unplotted := by
  cases element with
  | point | speeds | extruder | bead => rfl
  | event event => cases event <;> rfl

theorem Emission.unplotted_unplotted (emission : Emission α) :
    emission.unplotted.bind Emission.unplotted = emission.unplotted := by
  obtain ⟨action, machine⟩ := emission
  cases action <;> rfl

namespace Machine

theorem switch_uncolored (machine : Machine α) (on : Bool) :
    machine.uncolored.switch on = (machine.switch on).unplotted := by
  unfold switch
  rw [apply_ite Outcome.unplotted]
  rfl

theorem turn_uncolored (machine : Machine α) (extrude : Option Bool) :
    machine.uncolored.turn extrude = (machine.turn extrude).unplotted := by
  cases extrude with
  | none => rfl
  | some on => exact machine.switch_uncolored on

variable [Scalar α]

theorem pace_uncolored (machine : Machine α) (speed : Option α) :
    machine.uncolored.pace speed = (machine.pace speed).unplotted := by
  unfold pace
  cases speed with
  | none => rfl
  | some speed =>
    dsimp only
    rw [apply_ite Outcome.unplotted, apply_ite Outcome.unplotted]
    rfl

theorem ready_uncolored (machine : Machine α) (point : Point α) :
    machine.uncolored.ready point.uncolored = (machine.ready point).unplotted := by
  unfold ready
  rw [← pace_uncolored]
  show ((machine.uncolored.turn point.extrude).machine.paint none).pace point.speed = _
  rw [turn_uncolored]
  rfl

theorem announce_uncolored (machine : Machine α) :
    machine.uncolored.announce = machine.announce.unplotted := by
  unfold announce
  dsimp only
  rw [apply_ite Outcome.unplotted]
  rfl

theorem blow_uncolored (machine : Machine α) (percent : α) :
    machine.uncolored.blow percent = (machine.blow percent).unplotted := by
  unfold blow
  dsimp only
  rw [apply_ite Outcome.unplotted]
  rfl

theorem print_uncolored (machine : Machine α) (start target : Position α) :
    machine.uncolored.print start target = (machine.print start target).map Outcome.unplotted := by
  unfold print
  dsimp only [uncolored]
  cases machine.bead.area with
  | error defect => rfl
  | ok area => cases machine.extruder.feedPerVolume <;> rfl

theorem extrude_uncolored (machine : Machine α) (volume speed : α) :
    machine.uncolored.extrude volume speed = (machine.extrude volume speed).map Outcome.unplotted := by
  unfold extrude
  dsimp only [uncolored]
  cases machine.extruder.feedPerVolume <;> rfl

theorem reach_uncolored (machine : Machine α) (point : Point α) :
    machine.uncolored.reach point.uncolored = (machine.reach point).map Outcome.unplotted := by
  unfold reach
  dsimp only [uncolored]
  cases machine.position with
  | none => rfl
  | some start =>
    dsimp only [go]
    have target : point.uncolored.resolve start = point.resolve start := rfl
    rw [target]
    split
    · rfl
    · split
      · exact print_uncolored { machine with position := some (point.resolve start) } _ _
      · rfl

theorem visitPoint_uncolored (machine : Machine α) (point : Point α) :
    machine.uncolored.visitPoint point.uncolored =
      (machine.visitPoint point).map Outcome.unplotted := by
  rw [visitPoint_eq, visitPoint_eq, ready_uncolored]
  have went := (machine.ready point).machine.reach_uncolored point
  show ((machine.ready point).machine.uncolored.reach point.uncolored >>= _) = _
  rw [went]
  cases (machine.ready point).machine.reach point with
  | error defect => rfl
  | ok moved =>
    have told : ((machine.turn point.extrude).emissions ++ moved.emissions).filterMap
        Emission.unplotted = (machine.uncolored.turn point.extrude).emissions ++
          moved.unplotted.emissions := by
      rw [turn_uncolored, List.filterMap_append]
      rfl
    show Except.ok (Outcome.mk _ _ _) = Except.ok (Outcome.mk _ _ _)
    rw [told]
    rfl

/-- What an element does without what only a plot shows. -/
theorem visit_unplotted {element bare : Element α} (plain : element.unplotted = some bare)
    (commands : CommandTable) (machine : Machine α) : machine.uncolored.visit commands bare =
      (machine.visit commands element).map Outcome.unplotted := by
  cases element with
  | point point =>
    cases plain
    exact machine.visitPoint_uncolored point
  | speeds | bead =>
    cases plain
    rfl
  | extruder fragment =>
    cases plain
    refine congrArg Except.ok ((apply_ite Outcome.unplotted _ _ _).trans ?_).symm
    rw [← announce_uncolored]
    rfl
  | event event =>
    cases event with
    | marker => cases plain
    | toggle on =>
      cases plain
      exact congrArg Except.ok (machine.switch_uncolored on)
    | command id =>
      cases plain
      simp only [visit, visitEvent]
      split <;> rfl
    | extrude volume speed =>
      cases plain
      exact machine.extrude_uncolored volume speed
    | fan percent =>
      cases plain
      exact congrArg Except.ok (machine.blow_uncolored percent)
    | raw | comment | hotend | bed =>
      cases plain
      rfl

/-- A label shows in a plot, and does nothing else. -/
theorem visit_plotted {element : Element α} (plotted : element.unplotted = none)
    (commands : CommandTable) (machine : Machine α) :
    ∃ outcome, machine.visit commands element = .ok outcome ∧ outcome.machine = machine ∧
      outcome.emissions.filterMap Emission.unplotted = [] := by
  cases element with
  | point | speeds | extruder | bead => cases plotted
  | event event =>
    cases event with
    | marker label point =>
      refine ⟨_, rfl, ?_⟩
      unfold mark
      split <;> exact ⟨rfl, rfl⟩
    | toggle | command | raw | comment | extrude | fan | hotend | bed => cases plotted

end Machine

/-- What one sees who is told what the machine is told. -/
def Erasure.unplotted : Erasure α := ⟨Element.unplotted, Machine.uncolored, Emission.unplotted⟩

theorem Erasure.seen_unplotted (outcome : Outcome α) :
    seen .unplotted outcome.unplotted = seen .unplotted outcome := by
  have again : (outcome.emissions.filterMap Emission.unplotted).filterMap Emission.unplotted =
      outcome.emissions.filterMap Emission.unplotted := by
    rw [List.filterMap_filterMap]
    exact congrArg (List.filterMap · _) (funext Emission.unplotted_unplotted)
  exact congrArg (Prod.mk outcome.machine.uncolored) again

theorem Erasure.unplotted_isBlind [Scalar α] (commands : CommandTable) :
    (Erasure.unplotted : Erasure α).IsBlind commands where
  kind := Element.kind_unplotted
  again := Element.unplotted_unplotted
  visit := by
    intro element bare plain machine
    have same := Machine.visit_unplotted plain commands machine
    show (machine.uncolored.visit commands bare).map _ = _
    rw [same]
    cases machine.visit commands element with
    | error defect => rfl
    | ok outcome => exact congrArg Except.ok (seen_unplotted outcome)
  unseen := by
    intro element plotted machine
    obtain ⟨outcome, visited, same, quiet⟩ := Machine.visit_plotted plotted commands machine
    exact ⟨outcome, visited, congrArg₂ Prod.mk (congrArg Machine.uncolored same) quiet⟩

namespace Motion

variable [Scalar α]

/-- How a walk ends for one who sees no plot: what is told, or the defect with the kind of its element. -/
def unplotted (result : Except (Fault α) (Run α)) : Except (Fault α) (List (Emission α)) :=
  (result.map fun run => run.emissions.filterMap Emission.unplotted).mapError
    (Fault.renumbered fun _ => 0)

end Motion

end Toolpath
