import Toolpath.Proofs.Design.Edit
import Toolpath.Proofs.Motion.Change
import Toolpath.Proofs.Motion.Prologue

/-!
The texts of comments along a walk. They are emitted as they stand in the elements, one after the
other, and nothing else is emitted as a comment.
-/

namespace Toolpath

variable {α : Type}

def Action.commentary : Action α → List String
  | .comment text note => note.toList ++ text.toList
  | _ => []

/-- The texts of all comments that are emitted. -/
def Motion.commentary (emissions : List (Emission α)) : List String :=
  emissions.flatMap (·.action.commentary)

theorem Motion.commentary_append (first later : List (Emission α)) :
    commentary (first ++ later) = commentary first ++ commentary later := List.flatMap_append

variable [Scalar α]

namespace Machine

open Motion (commentary)

omit [Scalar α] in
theorem switch_commentary (machine : Machine α) (on : Bool) :
    commentary (machine.switch on).emissions = [] := by
  unfold switch
  split <;> rfl

theorem visitPoint_commentary {machine : Machine α} {point : Point α} {outcome : Outcome α}
    (ok : machine.visitPoint point = .ok outcome) : commentary outcome.emissions = [] := by
  obtain ⟨moved, atMoved, rfl⟩ := visitPoint_eq_ok.mp ok
  have turned : commentary (machine.turn point.extrude).emissions = [] := by
    cases point.extrude with
    | none => rfl
    | some on => exact machine.switch_commentary on
  have went : commentary moved.emissions = [] := by
    unfold reach at atMoved
    split at atMoved
    · cases atMoved
      rfl
    · cases went_of_go atMoved with
      | stayed | traveled | printed => rfl
  show commentary ((machine.turn point.extrude).emissions ++ moved.emissions) = []
  rw [Motion.commentary_append, turned, went, List.append_nil]

theorem visit_commentary {commands : CommandTable} {machine : Machine α} {element : Element α}
    {outcome : Outcome α} (ok : machine.visit commands element = .ok outcome) :
    commentary outcome.emissions = element.commentary := by
  cases element with
  | point point => exact visitPoint_commentary ok
  | speeds | bead =>
    cases ok
    rfl
  | extruder fragment =>
    cases ok
    dsimp only [announce]
    split
    · split <;> rfl
    · rfl
  | event event =>
    cases event with
    | toggle on =>
      cases ok
      exact machine.switch_commentary on
    | command id =>
      simp only [visit, visitEvent] at ok
      split at ok <;> cases ok <;> rfl
    | comment text note =>
      cases ok
      exact List.flatMap_singleton ..
    | raw | hotend | bed =>
      cases ok
      rfl
    | extrude volume speed =>
      simp only [visit, visitEvent, extrude] at ok
      obtain ⟨factor, _, ok⟩ := bind_eq_ok.mp ok
      cases ok
      rfl
    | fan percent =>
      cases ok
      dsimp only [blow]
      split <;> rfl
    | marker label point =>
      cases ok
      dsimp only [mark]
      split <;> rfl

end Machine

namespace Motion

theorem walk_commentary {commands : CommandTable} {machine : Machine α}
    {elements : List (Numbered α)} {run : Run α} (ok : walk commands machine elements = .ok run) :
    commentary run.emissions = (elements.map Prod.fst).flatMap Element.commentary := by
  induction elements generalizing machine run with
  | nil =>
    cases ok
    rfl
  | cons numbered rest ih =>
    obtain ⟨first, later, atFirst, atLater, rfl⟩ := walk_cons_eq_ok.mp ok
    obtain ⟨outcome, visited, rfl⟩ := step_eq_ok.mp atFirst
    rw [Run.followed, commentary_append, Machine.visit_commentary visited, ih atLater]
    rfl

theorem run_commentary {commands : CommandTable} {initialization : Initialization α}
    {design : Design α} {run : Run α}
    (ok : Motion.run commands initialization design = .ok run) :
    commentary run.emissions = design.commentary := by
  obtain ⟨walked, onScript, rfl⟩ := runElements_eq_ok.mp ok
  have prologue : initialization.prologue.flatMap Element.commentary = [] := by
    refine List.flatMap_eq_nil_iff.mpr fun element member => ?_
    have isSetting := Initialization.isSetting_of_mem_prologue member
    unfold Element.commentary
    split
    · cases isSetting
    · rfl
  show commentary walked.emissions = _
  rw [walk_commentary onScript, map_fst_script, List.flatMap_append, prologue, List.nil_append]
  rfl

end Motion

end Toolpath
