import Toolpath.Motion.Visit
import Toolpath.Proofs.Result

/-!
What a point does, in two parts: the machine is made ready, and then the tool goes.
-/

namespace Toolpath

variable {α : Type} [Scalar α]

namespace Machine

/-- Switches the extruder as a point says, if it says so. -/
def turn (machine : Machine α) : Option Bool → Outcome α
  | some on => machine.switch on
  | none => { machine }

/-- Switches, paints and paces as a point says. -/
def ready (machine : Machine α) (point : Point α) : Outcome α :=
  ((machine.turn point.extrude).machine.paint point.color).pace point.speed

omit [Scalar α] in
theorem turn_machine (machine : Machine α) (extrude : Option Bool) :
    (machine.turn extrude).machine = { machine with
      extruder := { machine.extruder with on := extrude.getD machine.extruder.on } } := by
  cases extrude with
  | none => rfl
  | some on =>
    show (machine.switch on).machine = _
    unfold switch
    split
    · rename_i same
      rw [Option.getD_some, ← same]
    · rfl

/-- A point that is not gone to yet changes nothing but the speeds, the color and the switch. -/
theorem ready_machine (machine : Machine α) (point : Point α) : ∃ speeds color,
    (machine.ready point).machine = { machine with
      speeds, color
      extruder := { machine.extruder with on := point.extrude.getD machine.extruder.on } } := by
  unfold ready
  rw [turn_machine]
  unfold pace
  split
  · exact ⟨_, _, rfl⟩
  · split
    · split
      · exact ⟨_, _, rfl⟩
      · exact ⟨_, _, rfl⟩
    · exact ⟨_, _, rfl⟩

/-- Goes to a point, from nowhere or from where the tool is. -/
def reach (machine : Machine α) (point : Point α) : Except (Defect α) (Outcome α) :=
  match machine.position with
  | none => .ok (machine.place point)
  | some start => machine.go start point

theorem visitPoint_eq (machine : Machine α) (point : Point α) :
    machine.visitPoint point = (machine.ready point).machine.reach point >>= fun moved => .ok {
      machine := moved.machine
      emissions := (machine.turn point.extrude).emissions ++ moved.emissions
      remarks := (machine.ready point).remarks ++ moved.remarks } := by
  unfold reach
  cases placed : (machine.ready point).machine.position with
  | none =>
    cases switching : point.extrude <;>
      simp only [ready, turn, switching] at placed <;>
      simp [visitPoint, ready, turn, switching, placed, bind, Except.bind]
  | some start =>
    cases switching : point.extrude <;>
      simp only [ready, turn, switching] at placed <;>
      simp [visitPoint, ready, turn, switching, placed]

theorem visitPoint_eq_ok {machine : Machine α} {point : Point α} {outcome : Outcome α} :
    machine.visitPoint point = .ok outcome ↔
      ∃ moved, (machine.ready point).machine.reach point = .ok moved ∧
        outcome = {
          machine := moved.machine
          emissions := (machine.turn point.extrude).emissions ++ moved.emissions
          remarks := (machine.ready point).remarks ++ moved.remarks } := by
  rw [visitPoint_eq, bind_eq_ok]
  simp only [Except.ok.injEq, eq_comm]

end Machine

end Toolpath
