import Toolpath.Plot.Drawing
import Toolpath.Proofs.Erasure

/-!
Walks as a plot sees them. Speeds, modes and devices run through the machine, but no path of the tool
hangs on them, and neither does any defect: what can fail needs the bead, the filament and the unit of
the extruder axis only.
-/

namespace Toolpath

variable {α : Type}

def Point.unpaced (point : Point α) : Point α := { point with speed := none }

/-- What a plot needs of an extruder fragment, so that feeding fails where it did. -/
def ExtruderFragment.drawn (fragment : ExtruderFragment α) : ExtruderFragment α :=
  { fragment with relative := none, travelForm := none }

/-- An element without what only the machine is told. -/
def Element.drawn : Element α → Option (Element α)
  | .point target => some (.point target.unpaced)
  | .speeds _ => none
  | .extruder fragment => some (.extruder fragment.drawn)
  | .bead fragment => some (.bead fragment)
  | .event (.toggle on) => some (.event (.toggle on))
  | .event (.extrude volume speed) => some (.event (.extrude volume speed))
  | .event (.marker label target) => some (.event (.marker label (target.map Point.unpaced)))
  | .event _ => none

theorem Element.drawn_drawn (element : Element α) :
    element.drawn.bind Element.drawn = element.drawn := by
  cases element with
  | point | speeds | extruder | bead => rfl
  | event event =>
    cases event with
    | marker label point => cases point <;> rfl
    | toggle | command | raw | comment | extrude | fan | hotend | bed => rfl

theorem Element.kind_drawn {element left : Element α} (kept : element.drawn = some left) :
    left.kind = element.kind := by
  cases element with
  | speeds => cases kept
  | point | extruder | bead =>
    cases kept
    rfl
  | event event =>
    cases event with
    | command | raw | comment | fan | hotend | bed => cases kept
    | toggle | extrude | marker =>
      cases kept
      rfl

theorem Element.point?_drawn (element : Element α) :
    element.drawn.bind Element.point? = element.point?.map Point.unpaced := by
  cases element with
  | point | speeds | extruder | bead => rfl
  | event event => cases event <;> rfl

variable [Scalar α]

/-- A machine with the speeds, the modes and the devices of every other one. -/
def Machine.drawn (machine : Machine α) : Machine α :=
  { machine with
    speeds := .initial
    extruder := { machine.extruder with
      relative := false, travelForm := .holding, total := 0.0, announced := none }
    fan := none, hotend := none, bed := none }

def Move.drawn (move : Move α) : Move α :=
  { move with form := .linear, feed := none, speed := Speeds.initial.travel }

/-- An emission without what only the machine is told. -/
def Emission.drawn (emission : Emission α) : Option (Emission α) :=
  match emission.action with
  | .move move => some ⟨.move move.drawn, emission.machine.drawn⟩
  | .toggled on => some ⟨.toggled on, emission.machine.drawn⟩
  | .marker label position => some ⟨.marker label position, emission.machine.drawn⟩
  | _ => none

/-- What a plot sees. -/
def Erasure.drawn : Erasure α := ⟨Element.drawn, Machine.drawn, Emission.drawn⟩

namespace Machine

open Erasure (seen)

theorem turn_drawn (machine : Machine α) (extrude : Option Bool) :
    seen .drawn (machine.drawn.turn extrude) = seen .drawn (machine.turn extrude) := by
  cases extrude with
  | none => rfl
  | some on =>
    show seen .drawn (machine.drawn.switch on) = seen .drawn (machine.switch on)
    unfold switch
    rw [apply_ite (seen .drawn), apply_ite (seen .drawn)]
    rfl

/-- The speed of a point is not seen, nor whether it is passed over. -/
theorem pace_drawn (machine : Machine α) (speed : Option α) :
    (machine.pace speed).machine.drawn = machine.drawn := by
  unfold pace
  cases speed with
  | none => rfl
  | some speed =>
    dsimp only
    split
    · split <;> rfl
    · rfl

theorem ready_drawn (machine : Machine α) (point : Point α) :
    (machine.drawn.ready point.unpaced).machine.drawn = (machine.ready point).machine.drawn := by
  unfold ready
  rw [pace_drawn, pace_drawn, turn_machine, turn_machine]
  rfl

theorem print_drawn (machine : Machine α) (start target : Position α) :
    (machine.drawn.print start target).map (seen .drawn) =
      (machine.print start target).map (seen .drawn) := by
  unfold print
  dsimp only [drawn]
  cases machine.bead.area with
  | error defect => rfl
  | ok area =>
    have factor : ({ machine.extruder with
        relative := false, travelForm := .holding, total := 0.0, announced := none }
          : Extruder α).feedPerVolume = machine.extruder.feedPerVolume := rfl
    rw [factor]
    cases machine.extruder.feedPerVolume <;> rfl

theorem reach_drawn (machine : Machine α) (point : Point α) :
    (machine.drawn.reach point.unpaced).map (seen .drawn) = (machine.reach point).map (seen .drawn) := by
  unfold reach
  dsimp only [drawn]
  cases machine.position with
  | none => rfl
  | some start =>
    have target : point.unpaced.resolve start = point.resolve start := rfl
    dsimp only [go]
    rw [target]
    split
    · rfl
    · split
      · exact print_drawn { machine with position := some (point.resolve start) } _ _
      · rfl

theorem seen_visitPoint (machine : Machine α) (point : Point α) :
    (machine.visitPoint point).map (seen .drawn) =
      ((machine.ready point).machine.reach point).map fun moved =>
        (moved.machine.drawn, (seen .drawn (machine.turn point.extrude)).2 ++ (seen .drawn moved).2) := by
  rw [visitPoint_eq]
  cases (machine.ready point).machine.reach point with
  | error defect => rfl
  | ok moved =>
    have told : ((machine.turn point.extrude).emissions ++ moved.emissions).filterMap Emission.drawn =
        (machine.turn point.extrude).emissions.filterMap Emission.drawn ++
          moved.emissions.filterMap Emission.drawn := List.filterMap_append
    exact congrArg (fun told => Except.ok (moved.machine.drawn, told)) told

theorem visitPoint_drawn (machine : Machine α) (point : Point α) :
    (machine.drawn.visitPoint point.unpaced).map (seen .drawn) =
      (machine.visitPoint point).map (seen .drawn) := by
  have turned := machine.turn_drawn point.extrude
  have reached : ((machine.drawn.ready point.unpaced).machine.reach point.unpaced).map (seen .drawn) =
      ((machine.ready point).machine.reach point).map (seen .drawn) := by
    have again := reach_drawn (machine.drawn.ready point.unpaced).machine point.unpaced
    rw [ready_drawn] at again
    exact again.symm.trans (reach_drawn _ point)
  rw [seen_visitPoint, seen_visitPoint]
  rcases eq_or_eq_of_map_eq reached with ⟨defect, left, right⟩ | ⟨moved, other, left, right, alike⟩
  · rw [left, right]
    rfl
  · have machines : moved.machine.drawn = other.machine.drawn := congrArg Prod.fst alike
    rw [left, right]
    show Except.ok (moved.machine.drawn, (seen .drawn (machine.drawn.turn point.extrude)).2 ++ _) = _
    rw [turned, machines, alike]
    rfl

theorem extrude_drawn (machine : Machine α) (volume speed : α) :
    (machine.drawn.extrude volume speed).map (seen .drawn) =
      (machine.extrude volume speed).map (seen .drawn) := by
  have factor : machine.drawn.extruder.feedPerVolume = machine.extruder.feedPerVolume := rfl
  unfold extrude
  rw [factor]
  cases machine.extruder.feedPerVolume <;> rfl

theorem mark_drawn (machine : Machine α) (label : String) (point : Option (Point α)) :
    seen .drawn (machine.drawn.mark label (point.map Point.unpaced)) =
      seen .drawn (machine.mark label point) := by
  have place : machine.drawn.position = machine.position := rfl
  unfold mark
  rw [place]
  cases point with
  | some point => rfl
  | none => cases machine.position <;> rfl

theorem configure_drawn (commands : CommandTable) (machine : Machine α)
    (fragment : ExtruderFragment α) :
    (machine.drawn.visit commands (.extruder fragment.drawn)).map (seen .drawn) =
      (machine.visit commands (.extruder fragment)).map (seen .drawn) := by
  have left : machine.drawn.visit commands (.extruder fragment.drawn) =
      .ok { machine := { machine.drawn with
        extruder := machine.drawn.extruder.apply fragment.drawn } } := rfl
  rw [left]
  show Except.ok _ = Except.ok (seen .drawn (ite _ _ _))
  split
  · unfold announce
    dsimp only
    split <;> rfl
  · rfl

/-- What an element does without what only the machine is told looks the same. -/
theorem visit_drawn {element left : Element α} (kept : element.drawn = some left)
    (commands : CommandTable) (machine : Machine α) :
    (machine.drawn.visit commands left).map (seen .drawn) =
      (machine.visit commands element).map (seen .drawn) := by
  cases element with
  | speeds => cases kept
  | point point =>
    cases kept
    exact machine.visitPoint_drawn point
  | extruder fragment =>
    cases kept
    exact machine.configure_drawn commands fragment
  | bead fragment =>
    cases kept
    rfl
  | event event =>
    cases event with
    | command | raw | comment | fan | hotend | bed => cases kept
    | toggle on =>
      cases kept
      exact congrArg Except.ok (machine.turn_drawn (some on))
    | extrude volume speed =>
      cases kept
      exact machine.extrude_drawn volume speed
    | marker label point =>
      cases kept
      exact congrArg Except.ok (machine.mark_drawn label point)

/-- What only the machine is told never fails, and changes nothing that a plot sees. -/
theorem visit_undrawn {element : Element α} (machineOnly : element.drawn = none)
    (commands : CommandTable) (machine : Machine α) :
    ∃ outcome, machine.visit commands element = .ok outcome ∧
      seen .drawn outcome = (machine.drawn, []) := by
  cases element with
  | point | extruder | bead => cases machineOnly
  | speeds => exact ⟨_, rfl, rfl⟩
  | event event =>
    cases event with
    | toggle | extrude | marker => cases machineOnly
    | raw | comment | hotend | bed => exact ⟨_, rfl, rfl⟩
    | command id =>
      cases known : commands id with
      | none => exact ⟨machine.remark (.unmapped id), by simp only [visit, visitEvent, known], rfl⟩
      | some text =>
        exact ⟨machine.emit (.instruction text), by simp only [visit, visitEvent, known], rfl⟩
    | fan percent =>
      refine ⟨_, rfl, ?_⟩
      unfold blow
      split <;> rfl

end Machine

theorem Erasure.drawn_isBlind (commands : CommandTable) :
    (Erasure.drawn : Erasure α).IsBlind commands where
  kind := Element.kind_drawn
  again := Element.drawn_drawn
  visit kept machine := machine.visit_drawn kept commands
  unseen machineOnly machine := machine.visit_undrawn machineOnly commands

namespace Plot

theorem Sketch.take_drawn (sketch : Sketch α) (emission : Emission α) :
    (emission.drawn.map sketch.take).getD sketch = sketch.take emission := by
  obtain ⟨action, machine⟩ := emission
  cases action <;> rfl

/-- A plot is drawn from what it sees. -/
theorem Drawing.ofEmissions_drawn (style : Style) (emissions : List (Emission α)) :
    ofEmissions style (emissions.filterMap Emission.drawn) = ofEmissions style emissions := by
  have same (sketch : Sketch α) :
      (emissions.filterMap Emission.drawn).foldl Sketch.take sketch = emissions.foldl Sketch.take sketch := by
    induction emissions generalizing sketch with
    | nil => rfl
    | cons emission rest ih =>
      have here := sketch.take_drawn emission
      rw [List.foldl_cons, ← here]
      cases left : emission.drawn with
      | none =>
        rw [List.filterMap_cons_none left]
        exact ih sketch
      | some kept =>
        rw [List.filterMap_cons_some left]
        exact ih (sketch.take kept)
  have sketches : Sketch.ofEmissions (emissions.filterMap Emission.drawn) =
      Sketch.ofEmissions emissions := same {}
  simp only [ofEmissions, sketches]

end Plot

end Toolpath
