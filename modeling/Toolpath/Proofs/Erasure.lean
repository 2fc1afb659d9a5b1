import Toolpath.Proofs.Design.Edit
import Toolpath.Proofs.Job.Nesting
import Toolpath.Proofs.Motion.Numbering

/-!
What an observer does not see, taken out of a design. If no step hangs on it, no walk does: over what is
left the observer is told the same, and a walk fails where it did and for the same reason, if maybe under
another number.
-/

namespace Toolpath

/-- What is left of elements, machines and emissions for an observer who does not see everything. -/
structure Erasure (α : Type) where
  element : Element α → Option (Element α)
  machine : Machine α → Machine α
  emission : Emission α → Option (Emission α)

namespace Erasure

variable {α : Type}

/-- What is seen of an outcome. Remarks are not, for they may be on what is taken out. -/
def seen (erasure : Erasure α) (outcome : Outcome α) : Machine α × List (Emission α) :=
  (erasure.machine outcome.machine, outcome.emissions.filterMap erasure.emission)

/-- What is seen of how a walk ends: what is told, or the defect with the kind of its element. -/
def ending (erasure : Erasure α) (result : Except (Fault α) (Run α)) :
    Except (Fault α) (List (Emission α)) :=
  (result.map fun run => run.emissions.filterMap erasure.emission).mapError
    (Fault.renumbered fun _ => 0)

/-- What is left of the elements of a walk, all under one number. -/
def script (erasure : Erasure α) (elements : List (Element α)) : List (Numbered α) :=
  (elements.filterMap erasure.element).map (·, 0)

variable [Scalar α] {erasure : Erasure α} {commands : CommandTable}

/-- No step hangs on what is taken out. -/
structure IsBlind (erasure : Erasure α) (commands : CommandTable) : Prop where
  kind : ∀ {element left : Element α}, erasure.element element = some left →
    left.kind = element.kind
  again : ∀ element, (erasure.element element).bind erasure.element = erasure.element element
  visit : ∀ {element left : Element α}, erasure.element element = some left → ∀ machine,
    ((erasure.machine machine).visit commands left).map erasure.seen =
      (machine.visit commands element).map erasure.seen
  unseen : ∀ {element : Element α}, erasure.element element = none → ∀ machine,
    ∃ outcome, machine.visit commands element = .ok outcome ∧
      erasure.seen outcome = (erasure.machine machine, [])

/-- Machines that look the same do what looks the same. -/
theorem IsBlind.visit_alike (blind : erasure.IsBlind commands) {element left : Element α}
    (kept : erasure.element element = some left) {machine other : Machine α}
    (same : erasure.machine other = erasure.machine machine) :
    (other.visit commands left).map erasure.seen = (machine.visit commands element).map erasure.seen := by
  have again := blind.again element
  rw [kept, Option.bind_some] at again
  rw [← blind.visit again, same, blind.visit kept]

theorem ending_walk_cons (erasure : Erasure α) (commands : CommandTable) (machine : Machine α)
    (element : Element α) (index : Nat) (rest : List (Numbered α)) :
    erasure.ending (Motion.walk commands machine ((element, index) :: rest)) =
      (machine.visit commands element).mapError (⟨0, element.kind, ·⟩) >>= fun outcome =>
        (erasure.ending (Motion.walk commands outcome.machine rest)).map
          ((erasure.seen outcome).2 ++ ·) := by
  rw [Motion.walk, Motion.step]
  cases machine.visit commands element with
  | error defect => rfl
  | ok outcome =>
    show erasure.ending (Motion.walk commands outcome.machine rest >>= fun later =>
      Except.ok (Run.mk _ _ _)) = (erasure.ending (Motion.walk commands outcome.machine rest)).map _
    cases Motion.walk commands outcome.machine rest with
    | error fault => rfl
    | ok later => exact congrArg Except.ok List.filterMap_append

/-- A walk over what is left looks the same, from any machine that looks the same. -/
theorem IsBlind.ending_walk (blind : erasure.IsBlind commands) (elements : List (Numbered α))
    {machine other : Machine α} (same : erasure.machine other = erasure.machine machine) :
    erasure.ending (Motion.walk commands other (erasure.script (elements.map Prod.fst))) =
      erasure.ending (Motion.walk commands machine elements) := by
  induction elements generalizing machine other with
  | nil => rfl
  | cons here rest ih =>
    obtain ⟨element, index⟩ := here
    rw [ending_walk_cons, List.map_cons]
    cases kept : erasure.element element with
    | none =>
      have left : erasure.script (element :: rest.map Prod.fst) =
          erasure.script (rest.map Prod.fst) := by
        rw [script, List.filterMap_cons_none kept]
        rfl
      obtain ⟨outcome, visited, unseen⟩ := blind.unseen kept machine
      obtain ⟨machines, quiet⟩ := Prod.mk.inj unseen
      rw [left, ih (same.trans machines.symm), visited]
      show _ = (erasure.ending (Motion.walk commands outcome.machine rest)).map
        (outcome.emissions.filterMap erasure.emission ++ ·)
      rw [quiet]
      cases erasure.ending (Motion.walk commands outcome.machine rest) <;> rfl
    | some kind =>
      have left : erasure.script (element :: rest.map Prod.fst) =
          (kind, 0) :: erasure.script (rest.map Prod.fst) := by
        rw [script, List.filterMap_cons_some kept]
        rfl
      rw [left, ending_walk_cons, blind.kind kept]
      rcases eq_or_eq_of_map_eq (blind.visit_alike kept same) with
        ⟨defect, again, visited⟩ | ⟨outcome', outcome, again, visited, alike⟩
      · rw [again, visited]
        rfl
      · have machines : erasure.machine outcome'.machine = erasure.machine outcome.machine :=
          congrArg Prod.fst alike
        rw [again, visited]
        show (erasure.ending _).map ((erasure.seen outcome').2 ++ ·) =
          (erasure.ending _).map ((erasure.seen outcome).2 ++ ·)
        rw [ih machines, alike]

theorem ending_runElements (erasure : Erasure α) (commands : CommandTable)
    (initialization : Initialization α) (elements : List (Element α)) :
    erasure.ending (Motion.runElements commands initialization elements) =
      erasure.ending (Motion.walk commands .initial (Motion.script initialization elements)) := by
  rw [Motion.runElements]
  cases Motion.walk commands .initial (Motion.script initialization elements) <;> rfl

/-- Runs over elements that differ in what is taken out alone look the same. -/
theorem IsBlind.ending_congr (blind : erasure.IsBlind commands) (initialization : Initialization α)
    {elements others : List (Element α)}
    (same : elements.filterMap erasure.element = others.filterMap erasure.element) :
    erasure.ending (Motion.runElements commands initialization elements) =
      erasure.ending (Motion.runElements commands initialization others) := by
  have walked (elements : List (Element α)) :=
    blind.ending_walk (Motion.script initialization elements) (rfl : erasure.machine .initial = _)
  rw [ending_runElements, ending_runElements, ← walked elements, ← walked others,
    Motion.map_fst_script, Motion.map_fst_script, script, script, List.filterMap_append,
    List.filterMap_append, same]

omit [Scalar α] in
theorem filterMap_edit (erasure : Erasure α)
    (again : ∀ element, (erasure.element element).bind erasure.element = erasure.element element)
    (design : Design α) : (Design.flatten (Design.edit erasure.element design)).filterMap erasure.element =
      (Design.flatten design).filterMap erasure.element := by
  rw [Design.flatten_edit, List.filterMap_filterMap]
  exact congrArg (List.filterMap · _) (funext again)

omit [Scalar α] in
theorem firstPoint_edit (erasure : Erasure α) {point : Point α → Point α}
    (points : ∀ element, (erasure.element element).bind Element.point? = element.point?.map point)
    (design : Design α) : Design.firstPoint (Design.edit erasure.element design) =
      (Design.firstPoint design).map point := by
  rw [Design.firstPoint_eq_head?, Design.firstPoint_eq_head?, Design.flatten_edit,
    List.filterMap_filterMap, ← List.head?_map, List.map_filterMap]
  simp only [points]

/-- Between the procedures of a printer too, a design and what is left of it differ in what is taken out
alone: the primer is aimed at what is left of the first point. -/
theorem filterMap_wrap (erasure : Erasure α) {point : Point α → Point α}
    (again : ∀ element, (erasure.element element).bind erasure.element = erasure.element element)
    (points : ∀ element, (erasure.element element).bind Element.point? = element.point?.map point)
    (primed : ∀ (primer : Primer) first, (Design.flatten (primer.steps (point first))).filterMap
      erasure.element = (Design.flatten (primer.steps first)).filterMap erasure.element)
    (profile : Profile α) (design : Design α) :
    (Design.flatten (profile.wrap (Design.edit erasure.element design))).filterMap erasure.element =
      (Design.flatten (profile.wrap design)).filterMap erasure.element := by
  have primer : (Design.flatten (profile.primerSteps (Design.edit erasure.element design))).filterMap
      erasure.element = (Design.flatten (profile.primerSteps design)).filterMap erasure.element := by
    unfold Profile.primerSteps
    rw [firstPoint_edit erasure points]
    cases Design.firstPoint design with
    | none => rfl
    | some first => exact primed profile.primer first
  simp only [Profile.flatten_wrap, List.filterMap_append, primer, filterMap_edit erasure again]

end Erasure

end Toolpath
