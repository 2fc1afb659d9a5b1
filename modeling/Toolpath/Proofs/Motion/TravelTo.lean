import Toolpath.Geometry.Shape
import Toolpath.Printer.Primer
import Toolpath.Proofs.Motion.Failure
import Toolpath.Scalar.Float

/-!
The way to a point without printing: the extruder off, the point, and the extruder on again. The point
itself may switch the extruder on before the tool goes, and then the way to it is printed after all.
-/

namespace Toolpath

variable {α : Type} [Scalar α]

theorem Tool.any_next? (tool : Tool α) (point : Point α) :
    (tool.next? (.point point)).any Leg.isPrint = tool.printsTo point := by
  have switched : (tool.switched (.point point)).on = point.extrude.getD tool.on := rfl
  have place : (tool.switched (.point point)).place = tool.place := rfl
  have asked : tool.next? (.point point) = (tool.switched (.point point)).reach? point := rfl
  rw [asked, reach?, switched, place, printsTo]
  cases tool.place with
  | none => simp [Leg.isPrint]
  | some start =>
    cases point.extrude.getD tool.on <;> cases same : point.resolve start == start <;>
      simp [same, Leg.isPrint]

namespace Machine

/-- A point that switches the extruder on, and is somewhere else than the tool. -/
def IsOverruledBy (machine : Machine α) (point : Point α) : Prop :=
  point.extrude = some true ∧
    ∃ start, machine.position = some start ∧ (point.resolve start == start) = false

def switched (machine : Machine α) (on : Bool) : Machine α :=
  { machine with extruder := { machine.extruder with on } }

theorem printsTo_switched_off {machine : Machine α} {point : Point α} :
    (machine.switched false).tool.printsTo point = true ↔ machine.IsOverruledBy point := by
  have switched : point.extrude.getD false = true ↔ point.extrude = some true := by
    cases point.extrude <;> simp
  unfold Tool.printsTo IsOverruledBy
  rw [Bool.and_eq_true, Option.any_eq_true]
  simp only [Bool.not_eq_true']
  exact and_congr_left fun _ => switched

omit [Scalar α] in
theorem switch_moves (machine : Machine α) (on : Bool) :
    Motion.moves (machine.switch on).emissions = [] := machine.turn_moves (some on)

/-- Which of the moves to a point print: the one that is asked for, if it is asked for as a print. -/
theorem visitPoint_prints {machine : Machine α} {point : Point α} {outcome : Outcome α}
    (ok : machine.visitPoint point = .ok outcome) :
    (Motion.moves outcome.emissions).map (·.kind.isPrint) =
      (machine.tool.next? (.point point)).toList.map Leg.isPrint := by
  have made := (visitPoint_leg ok).2
  refine (List.forall₂_eq_eq_eq ▸ ?_ : List.map Leg.isPrint _ = _).symm
  rw [List.forall₂_map_left_iff, List.forall₂_map_right_iff]
  exact made.imp fun _ _ madeBy => madeBy.isPrint_eq.symm

/-- Only a move that prints feeds on the way to a point. -/
theorem visitPoint_total {machine : Machine α} {point : Point α} {outcome : Outcome α}
    (ok : machine.visitPoint point = .ok outcome)
    (unprinted : ∀ move ∈ Motion.moves outcome.emissions, move.kind.isPrint = false) :
    outcome.machine.extruder.total = machine.extruder.total := by
  obtain ⟨moved, atMoved, rfl⟩ := visitPoint_eq_ok.mp ok
  have later : ∀ move ∈ Motion.moves moved.emissions, move.kind.isPrint = false := by
    intro move member
    refine unprinted move ?_
    rw [Motion.moves_append]
    exact List.mem_append_right _ member
  obtain ⟨speeds, color, ready⟩ := machine.ready_machine point
  rw [ready] at atMoved
  unfold reach at atMoved
  split at atMoved
  · cases atMoved
    rfl
  · cases went_of_go atMoved with
    | stayed | traveled => rfl
    | printed => cases later _ (List.mem_singleton.mpr rfl)

theorem visitPoint_overruled {machine : Machine α} {point : Point α} {outcome : Outcome α}
    (overruled : machine.IsOverruledBy point) (ok : (machine.switched false).visitPoint point = .ok outcome) :
    (Motion.moves outcome.emissions).map (·.kind.isPrint) = [true] := by
  have asked := (machine.switched false).tool.any_next? point
  rw [printsTo_switched_off.mpr overruled] at asked
  obtain ⟨leg, isAsked, prints⟩ := (Option.any_eq_true _ _).mp asked
  rw [visitPoint_prints ok, isAsked, Option.toList_some, List.map_singleton, prints]

theorem visitPoint_heeded {machine : Machine α} {point : Point α}
    (heeded : ¬ machine.IsOverruledBy point) :
    ∃ outcome, (machine.switched false).visitPoint point = .ok outcome ∧
      outcome.machine.extruder.total = machine.extruder.total ∧
      ∀ move ∈ Motion.moves outcome.emissions, move.kind.isPrint = false := by
  have unasked : (machine.switched false).tool.printsTo point = false :=
    eq_false_of_ne_true fun prints => heeded (printsTo_switched_off.mp prints)
  have sound := (machine.switched false).cause?_visitPoint point
  rw [Element.flaw?, unasked] at sound
  obtain ⟨outcome, ok⟩ := cause?_eq_none.mp sound
  have unprinted : ∀ move ∈ Motion.moves outcome.emissions, move.kind.isPrint = false := by
    intro move member
    have asked := (machine.switched false).tool.any_next? point
    rw [unasked, Option.any_eq_false] at asked
    have here : move.kind.isPrint ∈ ((machine.switched false).tool.next? (.point point)).toList.map Leg.isPrint :=
      visitPoint_prints ok ▸ List.mem_map_of_mem member
    obtain ⟨leg, isAsked, same⟩ := List.mem_map.mp here
    rw [← same]
    exact asked leg (Option.mem_toList.mp isAsked)
  have total := visitPoint_total ok unprinted
  exact ⟨outcome, ok, total, unprinted⟩

end Machine

namespace Motion

open Machine

/-- A travel: it prints nothing, feeds nothing, and leaves the extruder on. -/
structure IsTravel (machine : Machine α) (run : Run α) : Prop where
  unprinted : ∀ move ∈ moves run.emissions, move.kind.isPrint = false
  total : run.machine.extruder.total = machine.extruder.total
  on : run.machine.extruder.on = true

omit [Scalar α] in
theorem IsTravel.prints_ne {machine : Machine α} {run : Run α} (travel : IsTravel machine run) :
    (moves run.emissions).map (·.kind.isPrint) ≠ [true] := by
  intro prints
  obtain ⟨move, isMove, isPrint⟩ := List.mem_map.mp (prints ▸ List.mem_singleton_self true)
  rw [travel.unprinted move isMove] at isPrint
  cases isPrint

theorem step_switch (commands : CommandTable) (machine : Machine α) (on : Bool) (index : Nat) :
    step commands machine (.event (.toggle on), index) =
      .ok ⟨machine.switched on, (machine.switch on).emissions, []⟩ := by
  refine step_eq_ok.mpr ⟨machine.switch on, rfl, ?_⟩
  rw [switch_machine, switched]
  unfold switch
  split <;> rfl

/-- The way to a point is the point, with the extruder off before and on after. -/
theorem walk_travelTo (commands : CommandTable) (machine : Machine α) (point : Point α) (first : Nat) :
    walk commands machine ((Design.flatten (Geometry.travelTo point)).zipIdx first) =
      (step commands (machine.switched false) (.point point, first + 1)).map fun here =>
        ⟨here.machine.switched true, (machine.switch false).emissions ++
          (here.emissions ++ (here.machine.switch true).emissions), here.diagnostics⟩ := by
  have steps : (Design.flatten (Geometry.travelTo point)).zipIdx first =
      [(.event (.toggle false), first), (.point point, first + 1),
        (.event (.toggle true), first + 2)] := rfl
  simp only [steps, walk, step_switch]
  cases arrives : step commands (machine.switched false) (.point point, first + 1) with
  | error fault => simp [bind, Except.bind, Except.map, arrives]
  | ok here => simp [bind, Except.bind, Except.map, arrives]

/-- The way to a point is a travel from wherever the machine is, unless the point overrules the switch in
front of it; so is the one by which a primer comes to the first point of a design, which is the same. A point
that overrules the switch is printed to: with one print and the extruder on at the end, or not at all if the
bead or the filament is no good. -/
theorem travelTo_isTravel_iff (commands : CommandTable) (machine : Machine α) (point : Point α)
    (first : Nat) :
    let steps := (Design.flatten (Geometry.travelTo point)).zipIdx first
    Design.flatten (Primer.travel.steps point) = Design.flatten (Geometry.travelTo point) ∧
    ((∃ run, walk commands machine steps = .ok run ∧ IsTravel machine run) ↔
      ¬ machine.IsOverruledBy point) ∧
    (machine.IsOverruledBy point →
      (∀ run, walk commands machine steps = .ok run →
        (moves run.emissions).map (·.kind.isPrint) = [true] ∧ run.machine.extruder.on = true) ∧
      ∀ fault, walk commands machine steps = .error fault ↔
        fault.index = first + 1 ∧ fault.kind = "Point" ∧
          (machine.supply.bead.flaw? <|> machine.supply.stall?) = some fault.defect) := by
  intro steps
  have seen (here : Run α) : moves ((machine.switch false).emissions ++
      (here.emissions ++ (here.machine.switch true).emissions)) = moves here.emissions := by
    rw [moves_append, moves_append, switch_moves, switch_moves, List.nil_append, List.append_nil]
  have prints {run : Run α} (overruled : machine.IsOverruledBy point)
      (ok : walk commands machine steps = .ok run) :
      (moves run.emissions).map (·.kind.isPrint) = [true] ∧ run.machine.extruder.on = true := by
    rw [walk_travelTo] at ok
    obtain ⟨here, arrives, rfl⟩ := map_eq_ok.mp ok
    obtain ⟨outcome, visited, rfl⟩ := step_eq_ok.mp arrives
    exact ⟨(seen _).symm ▸ visitPoint_overruled overruled visited, rfl⟩
  refine ⟨rfl, ⟨?_, fun heeded => ?_⟩, fun overruled => ⟨fun run => prints overruled, fun fault => ?_⟩⟩
  · rintro ⟨run, ok, travel⟩ overruled
    exact travel.prints_ne (prints overruled ok).1
  · obtain ⟨outcome, visited, total, unprinted⟩ := visitPoint_heeded heeded
    have visited : (machine.switched false).visit commands (.point point) = .ok outcome := visited
    have arrives : step commands (machine.switched false) (.point point, first + 1) = .ok _ :=
      step_eq_ok.mpr ⟨outcome, visited, rfl⟩
    refine ⟨_, (walk_travelTo commands machine point first).trans (map_eq_ok.mpr ⟨_, arrives, rfl⟩), ?_⟩
    exact ⟨(seen _).symm ▸ unprinted, total, rfl⟩
  · have flaw : (Element.point point).flaw? (machine.switched false).tool machine.supply =
        (machine.supply.bead.flaw? <|> machine.supply.stall?) :=
      if_pos (printsTo_switched_off.mpr overruled)
    rw [walk_travelTo, ← cause?_eq_some, cause?_map, cause?_step, Option.map_eq_some_iff]
    show (∃ defect, (Element.point point).flaw? _ machine.supply = some defect ∧ _) ↔ _
    rw [flaw]
    constructor
    · rintro ⟨defect, isFlaw, rfl⟩
      exact ⟨rfl, rfl, isFlaw⟩
    · rintro ⟨index, kind, isFlaw⟩
      have kind : fault.kind = (Element.point point).kind := kind
      exact ⟨fault.defect, isFlaw, by rw [← index, ← kind]⟩

/-- A point that switches the extruder on is printed to on the way that should not print. -/
theorem travel_can_print :
    ¬ ∀ (commands : CommandTable) (before : List (Element Float)) (earlier : Run Float)
      (point : Point Float), walk commands .initial before.zipIdx = .ok earlier →
      ∃ run, walk commands earlier.machine
          ((Design.flatten (Geometry.travelTo point)).zipIdx before.length) = .ok run ∧
        IsTravel earlier.machine run := by
  intro travels
  let before : List (Element Float) :=
    [.bead (.rectangle 0.5 0.25), .point { x := some 0.0, y := some 0.0, z := some 0.0 }]
  let point : Point Float := { x := some 10.0, extrude := some true }
  have printed : (walk (fun _ => none) .initial before.zipIdx >>= fun earlier =>
      walk (fun _ => none) earlier.machine
        ((Design.flatten (Geometry.travelTo point)).zipIdx before.length)).toOption.map
      (fun run => (moves run.emissions).map (·.kind.isPrint)) = some [true] := by
    decide +kernel
  obtain ⟨run, passed, prints⟩ := exists_run_of_map printed
  obtain ⟨earlier, atEarlier, ok⟩ := bind_eq_ok.mp passed
  obtain ⟨again, same, travel⟩ := travels _ before earlier point atEarlier
  obtain rfl := Except.ok.inj (ok.symm.trans same)
  exact travel.prints_ne prints

end Motion

end Toolpath
