import Toolpath.Proofs.Motion.Settings
import Toolpath.Proofs.Motion.Numbering

/-!
Walks over fragments. A list of them does no more than it sets, and announces the modes among that; so
lists that set every field to the same values, in the same order, do the same. Behind any elements a field
holds what was set last.
-/

namespace Toolpath

variable {α : Type}

/-- The modes that elements set, one after the other. -/
def Element.modes (elements : List (Element α)) : List Bool :=
  elements.filterMap (·.extruderSettings.relative)

/-- Elements that set every field to the same values, one after the other. -/
def Element.SetAlike (elements others : List (Element α)) : Prop :=
  ∀ field, elements.filterMap (·.set? field) = others.filterMap (·.set? field)

theorem Element.SetAlike.modes_eq {elements others : List (Element α)} (alike : SetAlike elements others) :
    modes elements = modes others := by
  have told (elements : List (Element α)) :
      elements.filterMap (·.set? .relative) = (modes elements).map Setting.relative := by
    rw [modes, List.map_filterMap]
    congr 1
    funext element
    cases element <;> rfl
  have same := alike .relative
  rw [told, told] at same
  exact List.map_injective_iff.mpr (fun _ _ => Setting.relative.inj) same

variable [Scalar α]

/-- An emission as outputs take it, which have no eye for the machine where a mode is announced. -/
def Emission.seen (emission : Emission α) : Emission α :=
  if emission.action.isAnnouncement then ⟨emission.action, .initial⟩ else emission

namespace Motion

variable {commands : CommandTable}

/-- What a list of fragments does. -/
structure SetsAll (machine : Machine α) (fragments : List (Element α)) (run : Run α) : Prop where
  diagnostics : run.diagnostics = []
  value? : ∀ field,
    run.machine.value? field = (lastOf (·.set? field) fragments <|> machine.value? field)
  unset : run.machine.unset = (Element.modes fragments).foldl Machine.hear machine.unset
  actions : run.emissions.map (·.action) = machine.unset.announcements (Element.modes fragments)

theorem walk_fragments (commands : CommandTable) (machine : Machine α) {numbered : List (Numbered α)}
    (fragments : ∀ here ∈ numbered, here.1.isFragment = true) :
    ∃ run, walk commands machine numbered = .ok run ∧
      SetsAll machine (numbered.map Prod.fst) run := by
  induction numbered generalizing machine with
  | nil => exact ⟨_, rfl, rfl, fun _ => rfl, rfl, rfl⟩
  | cons here rest ih =>
    obtain ⟨element, index⟩ := here
    obtain ⟨isFragment, others⟩ := List.forall_mem_cons.mp fragments
    obtain ⟨outcome, visited, sets⟩ := machine.sets_fragment commands isFragment
    obtain ⟨later, walked, setsLater⟩ := ih outcome.machine others
    have modes : Element.modes (element :: rest.map Prod.fst) =
        element.extruderSettings.relative.toList ++ Element.modes (rest.map Prod.fst) := by
      rw [Element.modes, List.filterMap_cons, Element.modes]
      cases element.extruderSettings.relative <;> rfl
    have first : step commands machine (element, index) = .ok _ := step_eq_ok.mpr ⟨_, visited, rfl⟩
    refine ⟨_, walk_cons_eq_ok.mpr ⟨_, later, first, walked, rfl⟩, ?_, fun field => ?_, ?_, ?_⟩
    · show outcome.remarks.map _ ++ later.diagnostics = []
      rw [sets.remarks, setsLater.diagnostics]
      rfl
    · show later.machine.value? field = _
      rw [setsLater.value?, sets.value?, List.map_cons, lastOf_cons]
      cases lastOf (·.set? field) (rest.map Prod.fst) <;> rfl
    · show later.machine.unset = _
      rw [setsLater.unset, sets.unset, List.map_cons, modes, List.foldl_append]
    · show (outcome.emissions ++ later.emissions).map _ = _
      rw [List.map_append, setsLater.actions, sets.actions, sets.unset, List.map_cons, modes,
        Machine.announcements_append]

/-- Nothing is told but announcements, and no output has an eye for the machine there. -/
theorem SetsAll.map_seen {machine : Machine α} {fragments : List (Element α)} {run : Run α}
    (sets : SetsAll machine fragments run) : run.emissions.map Emission.seen =
      (machine.unset.announcements (Element.modes fragments)).map (⟨·, .initial⟩) := by
  rw [← sets.actions, List.map_map]
  refine List.map_congr_left fun emission member => if_pos ?_
  have told : emission.action ∈ machine.unset.announcements (Element.modes fragments) := by
    rw [← sets.actions]
    exact List.mem_map_of_mem member
  exact Machine.isAnnouncement_of_mem told

/-- The runs of two lists of fragments that set alike, which differ in no more than the machine that goes
along with an announcement. -/
theorem walk_setAlike (commands : CommandTable) (machine : Machine α) {fragments others : List (Numbered α)}
    (isFragments : ∀ here ∈ fragments, here.1.isFragment = true)
    (areFragments : ∀ here ∈ others, here.1.isFragment = true)
    (alike : Element.SetAlike (fragments.map Prod.fst) (others.map Prod.fst)) :
    ∃ run other, walk commands machine fragments = .ok run ∧ walk commands machine others = .ok other ∧
      run.diagnostics = [] ∧ other.diagnostics = [] ∧ run.machine = other.machine ∧
      run.emissions.map Emission.seen = other.emissions.map Emission.seen := by
  obtain ⟨run, walked, sets⟩ := walk_fragments commands machine isFragments
  obtain ⟨other, walkedOther, setsOther⟩ := walk_fragments commands machine areFragments
  have unset := sets.unset.trans (alike.modes_eq ▸ setsOther.unset.symm)
  have fields (field : FieldName) : run.machine.value? field = other.machine.value? field := by
    rw [sets.value?, setsOther.value?, lastOf_eq_getLast?, lastOf_eq_getLast?, alike field]
  refine ⟨run, other, walked, walkedOther, sets.diagnostics, setsOther.diagnostics,
    Machine.ext_value? unset fields, ?_⟩
  rw [sets.map_seen, setsOther.map_seen, alike.modes_eq]

end Motion

namespace Machine

/-- Each field but the speeds holds the value that some elements set last, or else its first one. -/
def HoldsLast (machine : Machine α) (heard : List (Element α)) : Prop :=
  ∀ field, field.isSpeed = false →
    machine.value? field = (lastOf (·.set? field) heard <|> (initial : Machine α).value? field)

variable {commands : CommandTable} {machine : Machine α} {heard : List (Element α)}
  {element : Element α}

theorem HoldsLast.visit (holds : machine.HoldsLast heard) {outcome : Outcome α}
    (ok : machine.visit commands element = .ok outcome) :
    outcome.machine.HoldsLast (heard ++ [element]) := by
  intro field other
  rw [visit_value? ok other, holds field other, lastOf_concat]
  cases element.set? field <;> rfl

theorem HoldsLast.turn (holds : machine.HoldsLast heard) (extrude : Option Bool) (point : Point α) :
    (machine.turn extrude).machine.HoldsLast (heard ++ [.point point]) := by
  intro field other
  have same : (machine.turn extrude).machine.value? field = machine.value? field := by
    rw [turn_machine]
    cases field <;> rfl
  have unset : (Element.point point).set? field = none := by cases field <;> rfl
  rw [same, holds field other, lastOf_concat, unset]
  rfl

/-- What goes along with all that an element tells: the machine behind it, or, where a point switches the
extruder first, the machine in front of it with the switch made. -/
theorem told_machine {emission : Emission α} (told : emission ∈ machine.started element ∨
      ∃ outcome, machine.visit commands element = .ok outcome ∧ emission ∈ outcome.emissions) :
    (∃ point extrude, element = .point point ∧ emission.machine = (machine.turn extrude).machine) ∨
      ∃ outcome, machine.visit commands element = .ok outcome ∧
        emission.machine = outcome.machine := by
  cases element with
  | point point =>
    rcases told with started | ⟨outcome, visited, member⟩
    · obtain ⟨on, rfl⟩ := turn_tells machine point.extrude emission started
      exact .inl ⟨point, point.extrude, rfl, rfl⟩
    · rcases visitPoint_tells visited emission member with ⟨on, rfl⟩ | ⟨move, rfl⟩
      · exact .inl ⟨point, point.extrude, rfl, rfl⟩
      · exact .inr ⟨outcome, visited, rfl⟩
  | speeds | extruder | bead | event =>
    rcases told with started | ⟨outcome, visited, member⟩
    · cases started
    · exact .inr ⟨outcome, visited, (visit_tells visited rfl emission member).1⟩

end Machine

namespace Motion

variable {commands : CommandTable}

/-- Behind elements of any numbers the tool, the speeds and the other fields are as the elements say. -/
theorem walk_heard {numbered : List (Numbered α)} {run : Run α}
    (ok : walk commands .initial numbered = .ok run) :
    run.machine.tool = Tool.behind {} (numbered.map Prod.fst) ∧
      run.machine.speeds = Speeds.behind {} (numbered.map Prod.fst) ∧
      run.machine.HoldsLast (numbered.map Prod.fst) := by
  induction numbered using List.reverseRecOn generalizing run with
  | nil =>
    cases ok
    exact ⟨rfl, rfl, fun _ _ => rfl⟩
  | append_singleton before here ih =>
    obtain ⟨element, index⟩ := here
    obtain ⟨earlier, later, atEarlier, atLater, rfl⟩ := walk_append_eq_ok.mp ok
    rw [walk_singleton] at atLater
    obtain ⟨outcome, visited, rfl⟩ := step_eq_ok.mp atLater
    obtain ⟨tool, speeds, holds⟩ := ih atEarlier
    have moved := (Machine.visit_leg visited).1
    have paced := Machine.visit_paced visited
    rw [tool] at moved paced
    rw [speeds] at paced
    rw [List.map_append, List.map_singleton, Tool.behind_concat, Speeds.behind_concat]
    exact ⟨moved, paced, holds.visit visited⟩

/-- Along with all that is told, the fields hold what was set last, the element that tells it included.
Only a point may tell of a switch before it sets its speed. -/
theorem told_heard {numbered : List (Numbered α)} {emission : Emission α}
    (member : emission ∈ delivered commands .initial numbered) :
    ∃ before element index after earlier, numbered = before ++ (element, index) :: after ∧
      walk commands .initial before = .ok earlier ∧
      (emission ∈ earlier.machine.started element ∨ ∃ outcome,
        earlier.machine.visit commands element = .ok outcome ∧ emission ∈ outcome.emissions) ∧
      emission.machine.HoldsLast (before.map Prod.fst ++ [element]) ∧
      (emission.machine.speeds = Speeds.behind {} (before.map Prod.fst ++ [element]) ∨
        (∃ point, element = .point point) ∧
          emission.machine.speeds = Speeds.behind {} (before.map Prod.fst)) := by
  obtain ⟨before, element, index, after, earlier, split, walked, told⟩ :=
    exists_of_mem_delivered member
  obtain ⟨tool, speeds, holds⟩ := walk_heard walked
  refine ⟨before, element, index, after, earlier, split, walked, told, ?_⟩
  rcases Machine.told_machine told with ⟨point, extrude, rfl, machine⟩ | ⟨outcome, visited, machine⟩
  · rw [machine]
    refine ⟨holds.turn extrude point, .inr ⟨⟨point, rfl⟩, ?_⟩⟩
    exact (earlier.machine.turn_speeds extrude).trans speeds
  · have paced := Machine.visit_paced visited
    rw [tool, speeds, ← Speeds.behind_concat] at paced
    rw [machine]
    exact ⟨holds.visit visited, .inl paced⟩

end Motion

end Toolpath
