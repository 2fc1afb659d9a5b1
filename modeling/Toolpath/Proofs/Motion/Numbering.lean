import Toolpath.Proofs.Motion.Delivery

/-!
The numbers of a walk. An element is done in the same way under any number: the number only stands in
what is reported of the element.
-/

namespace Toolpath

variable {α : Type}

def Diagnostic.renumbered (number : Nat → Nat) (d : Diagnostic α) : Diagnostic α :=
  { d with index := number d.index }

def Fault.renumbered (number : Nat → Nat) (fault : Fault α) : Fault α :=
  { fault with index := number fault.index }

def Run.renumbered (number : Nat → Nat) (run : Run α) : Run α :=
  { run with diagnostics := run.diagnostics.map (Diagnostic.renumbered number) }

namespace Motion

/-- How a walk ends, with other numbers in its reports. -/
def renumbered (number : Nat → Nat) (result : Except (Fault α) (Run α)) : Except (Fault α) (Run α) :=
  (result.map (Run.renumbered number)).mapError (Fault.renumbered number)

theorem zipIdx_eq_map (elements : List (Element α)) (first : Nat) :
    elements.zipIdx first = elements.zipIdx.map (Prod.map id (· + first)) := by
  rw [List.map_snd_add_zipIdx_eq_zipIdx, Nat.add_zero]

variable [Scalar α]

theorem step_map_number (number : Nat → Nat) (commands : CommandTable) (machine : Machine α)
    (here : Numbered α) : step commands machine (here.map id number) =
      renumbered number (step commands machine here) := by
  obtain ⟨element, index⟩ := here
  cases visited : machine.visit commands element with
  | error defect =>
    have fails (index : Nat) :
        step commands machine (element, index) = .error ⟨index, element.kind, defect⟩ := by
      simp only [step, visited]
    rw [fails index]
    exact fails (number index)
  | ok outcome =>
    have tells (index : Nat) : step commands machine (element, index) =
        .ok ⟨outcome.machine, outcome.emissions, outcome.remarks.map (⟨index, element.kind, ·⟩)⟩ := by
      simp only [step, visited]
    rw [tells index]
    refine (tells (number index)).trans (congrArg Except.ok ?_)
    rw [Run.renumbered, List.map_map]
    rfl

/-- A walk under other numbers ends in the same way, with these numbers in its reports. -/
theorem walk_map_number (number : Nat → Nat) (commands : CommandTable) (machine : Machine α)
    (elements : List (Numbered α)) :
    walk commands machine (elements.map (Prod.map id number)) =
      renumbered number (walk commands machine elements) := by
  induction elements generalizing machine with
  | nil => rfl
  | cons here rest ih =>
    rw [List.map_cons, walk, walk, step_map_number]
    cases step commands machine here with
    | error fault => rfl
    | ok first =>
      show (walk commands first.machine _ >>= _) = renumbered number (walk commands first.machine rest >>= _)
      rw [ih]
      cases walk commands first.machine rest with
      | error fault => rfl
      | ok later =>
        show Except.ok _ = Except.ok _
        simp [Run.renumbered]

/-- What is handed over does not tell the numbers. -/
theorem delivered_map_number (number : Nat → Nat) (commands : CommandTable) (machine : Machine α)
    (elements : List (Numbered α)) :
    delivered commands machine (elements.map (Prod.map id number)) =
      delivered commands machine elements := by
  induction elements generalizing machine with
  | nil => rfl
  | cons here rest ih =>
    rw [List.map_cons, delivered, delivered, step_map_number]
    cases step commands machine here with
    | error fault => rfl
    | ok first =>
      show first.emissions ++ delivered commands first.machine _ = _
      rw [ih]

end Motion

end Toolpath
