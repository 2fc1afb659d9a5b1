import Toolpath.Proofs.Motion.Meaning

/-!
What the machine extrudes with: the bead, the unit of the extruder axis and the filament. Behind some
elements each of these is what was set last, or what the initialization says, or else what a machine
starts with.
-/

namespace Toolpath

variable {α : Type}

def Element.extruderSettings : Element α → ExtruderFragment α
  | .extruder fragment => fragment
  | _ => {}

def Element.beadSettings : Element α → BeadFragment α
  | .bead fragment => fragment
  | _ => {}

/-- What the amount of material for a move depends on. -/
structure Supply (α : Type) where
  bead : Bead α
  feedUnit : FeedUnit
  filament : α

def Machine.supply (machine : Machine α) : Supply α :=
  ⟨machine.bead, machine.extruder.feedUnit, machine.extruder.filament⟩

namespace Supply

def visit (supply : Supply α) (element : Element α) : Supply α where
  bead := supply.bead.apply element.beadSettings
  feedUnit := element.extruderSettings.feedUnit.getD supply.feedUnit
  filament := element.extruderSettings.filament.getD supply.filament

variable [Scalar α]

/-- The supply behind some elements. -/
def behind (initialization : Initialization α) (heard : List (Element α)) : Supply α where
  bead := {
    shape := (lastOf (·.beadSettings.shape) heard).or initialization.beadShape?
    width := (lastOf (·.beadSettings.width) heard).or initialization.width
    height := (lastOf (·.beadSettings.height) heard).or initialization.height
    diameter := lastOf (·.beadSettings.diameter) heard }
  feedUnit := ((lastOf (·.extruderSettings.feedUnit) heard).or initialization.feedUnit).getD .length
  filament := ((lastOf (·.extruderSettings.filament) heard).or initialization.filament).getD 1.75

theorem behind_concat (initialization : Initialization α) (before : List (Element α))
    (element : Element α) :
    behind initialization (before ++ [element]) = (behind initialization before).visit element := by
  have set {β : Type} (new : Option β) (old given : Option β) :
      (new <|> old).or given = (new <|> old.or given) := by
    cases new <;> rfl
  have chosen {β : Type} (new : Option β) (old : Option β) (first : β) :
      (new <|> old).getD first = new.getD (old.getD first) := by
    cases new <;> rfl
  unfold behind visit Bead.apply
  simp only [lastOf_concat, set, chosen]

end Supply

variable [Scalar α]

namespace Machine

theorem reach_supply {machine : Machine α} {point : Point α} {outcome : Outcome α}
    (ok : machine.reach point = .ok outcome) : outcome.machine.supply = machine.supply := by
  unfold reach at ok
  split at ok
  · cases ok
    rfl
  · cases went_of_go ok with
    | stayed | traveled | printed => rfl

theorem visit_supply {commands : CommandTable} {machine : Machine α} {element : Element α}
    {outcome : Outcome α} (ok : machine.visit commands element = .ok outcome) :
    outcome.machine.supply = machine.supply.visit element := by
  cases element with
  | point point =>
    obtain ⟨moved, atMoved, rfl⟩ := visitPoint_eq_ok.mp ok
    obtain ⟨speeds, color, ready⟩ := machine.ready_machine point
    rw [ready] at atMoved
    have still := reach_supply atMoved
    exact still
  | speeds | bead =>
    cases ok
    rfl
  | extruder fragment =>
    cases ok
    dsimp only [announce]
    split
    · split <;> rfl
    · rfl
  | event event =>
    obtain ⟨total, fan, hotend, bed, after⟩ := visitEvent_machine ok
    rw [after]
    rfl

end Machine

namespace Motion

theorem walk_supply {commands : CommandTable} {initialization : Initialization α}
    {elements : List (Element α)} {run : Run α}
    (ok : walk commands .initial (script initialization elements) = .ok run) :
    run.machine.supply = Supply.behind initialization elements := by
  refine script_induction ?prologue ?visit ok
  case prologue =>
    intro run _ machine _ _
    rw [machine]
    rfl
  case visit =>
    intro before element earlier outcome _ visited behind
    rw [Supply.behind_concat, ← behind]
    exact Machine.visit_supply visited

end Motion

end Toolpath
