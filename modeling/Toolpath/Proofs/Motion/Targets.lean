import Toolpath.Proofs.Motion.Meaning
import Toolpath.Proofs.Scalar.Order

/-!
Where the moves of a walk lead: each to where the points up to its own put the tool. If the points set no
axis to what is undefined, no move leads there.
-/

namespace Toolpath

section Defined

open Scalar (isUndefined)

variable {α : Type} [Scalar α]

/-- No axis is undefined. -/
structure Position.IsDefined (place : Position α) : Prop where
  x : isUndefined place.x = false
  y : isUndefined place.y = false
  z : isUndefined place.z = false

/-- No axis that is set is undefined. -/
structure Point.IsDefined (point : Point α) : Prop where
  x : ∀ v ∈ point.x, isUndefined v = false
  y : ∀ v ∈ point.y, isUndefined v = false
  z : ∀ v ∈ point.z, isUndefined v = false

/-- No axis that is set is infinite or undefined. -/
structure Point.IsFinite (point : Point α) : Prop where
  x : ∀ v ∈ point.x, Scalar.isFinite v = true
  y : ∀ v ∈ point.y, Scalar.isFinite v = true
  z : ∀ v ∈ point.z, Scalar.isFinite v = true

/-- No axis that the point leaves open is undefined. -/
structure Position.Completes (place : Position α) (point : Point α) : Prop where
  x : point.x = none → isUndefined place.x = false
  y : point.y = none → isUndefined place.y = false
  z : point.z = none → isUndefined place.z = false

theorem Position.beq_self_iff (place : Position α) : (place == place) = true ↔ place.IsDefined := by
  show (place.x == place.x && place.y == place.y && place.z == place.z) = true ↔ _
  constructor
  · intro same
    simp only [Bool.and_eq_true] at same
    obtain ⟨⟨sameX, sameY⟩, sameZ⟩ := same
    exact ⟨by rw [isUndefined, sameX]; rfl, by rw [isUndefined, sameY]; rfl, by rw [isUndefined, sameZ]; rfl⟩
  · rintro ⟨x, y, z⟩
    simp only [isUndefined, Bool.not_eq_false'] at x y z
    rw [x, y, z]
    rfl

theorem Point.IsFinite.isDefined [Scalar.Ordered α] {point : Point α} (finite : point.IsFinite) :
    point.IsDefined :=
  ⟨fun v set => Scalar.Ordered.isUndefined_of_isFinite (finite.x v set),
    fun v set => Scalar.Ordered.isUndefined_of_isFinite (finite.y v set),
    fun v set => Scalar.Ordered.isUndefined_of_isFinite (finite.z v set)⟩

theorem Point.IsDefined.resolve_iff {point : Point α} (defined : point.IsDefined) (place : Position α) :
    (point.resolve place).IsDefined ↔ place.Completes point := by
  have axis {set : Option α} (known : ∀ v ∈ set, isUndefined v = false) (old : α) :
      isUndefined (set.getD old) = false ↔ (set = none → isUndefined old = false) := by
    cases set with
    | none => simp
    | some v => simpa using known v rfl
  constructor
  · rintro ⟨x, y, z⟩
    exact ⟨(axis defined.x _).mp x, (axis defined.y _).mp y, (axis defined.z _).mp z⟩
  · rintro ⟨x, y, z⟩
    exact ⟨(axis defined.x _).mpr x, (axis defined.y _).mpr y, (axis defined.z _).mpr z⟩

theorem Position.IsDefined.completes {place : Position α} (defined : place.IsDefined) (point : Point α) :
    place.Completes point :=
  ⟨fun _ => defined.x, fun _ => defined.y, fun _ => defined.z⟩

/-- Defined points lead to a defined position. -/
theorem Position.isDefined_after {points : List (Point α)} (defined : ∀ point ∈ points, point.IsDefined)
    (zero : isUndefined (0.0 : α) = false) : (after points).IsDefined := by
  have axis (set? : Point α → Option α) (known : ∀ point ∈ points, ∀ v ∈ set? point, isUndefined v = false) :
      isUndefined ((lastOf set? points).getD 0.0) = false := by
    cases last : lastOf set? points with
    | none => exact zero
    | some v =>
      obtain ⟨point, member, set⟩ := List.exists_of_findSome?_eq_some last
      exact known point (List.mem_reverse.mp member) v set
  exact ⟨axis (·.x) fun point member => (defined point member).x,
    axis (·.y) fun point member => (defined point member).y,
    axis (·.z) fun point member => (defined point member).z⟩

end Defined

section Targets

variable {α : Type}

/-- The place that a move leads to. -/
def Leg.target : Leg α → Position α
  | origin place => place
  | travel _ target | print _ target => target

theorem Leg.IsMadeBy.target_eq {leg : Leg α} {move : Move α} (made : leg.IsMadeBy move) :
    move.target = leg.target := by
  cases leg with
  | origin => exact made.2.2.1
  | travel | print => exact made.2.2

variable [Scalar α]

namespace Tool

theorem target_of_leg? {initialization : Initialization α} {heard : List (Element α)} {leg : Leg α}
    (asked : leg? initialization heard = some leg) : leg.target = Position.after (Element.points heard) := by
  unfold leg? at asked
  split at asked
  · dsimp only at asked
    split at asked
    · obtain rfl := Option.some.inj asked
      rfl
    · split at asked
      · cases asked
      · split at asked <;> obtain rfl := Option.some.inj asked <;> rfl
  · cases asked

/-- Every move leads to where the points of a beginning of the elements put the tool. -/
theorem exists_of_mem_legs {initialization : Initialization α} {elements : List (Element α)} {leg : Leg α}
    (member : leg ∈ legs initialization elements) :
    ∃ heard, heard <+: elements ∧ leg.target = Position.after (Element.points heard) := by
  obtain ⟨heard, isBeginning, asked⟩ := List.mem_filterMap.mp member
  exact ⟨heard, List.mem_inits heard elements |>.mp isBeginning, target_of_leg? asked⟩

/-- The first point asks for a move, and nothing before it does. -/
theorem legs_eq_nil_iff (initialization : Initialization α) (elements : List (Element α)) :
    legs initialization elements = [] ↔ Element.points elements = [] := by
  induction elements using List.reverseRecOn with
  | nil => exact iff_of_true rfl rfl
  | append_singleton before element ih =>
    rw [legs_concat, leg?_concat, List.append_eq_nil_iff, ih, Option.toList_eq_nil_iff]
    cases isPoint : element.point? with
    | none =>
      rw [Element.points_concat_other isPoint, next?, isPoint]
      exact and_iff_left rfl
    | some point =>
      obtain rfl := Element.eq_of_point? isPoint
      rw [Element.points_concat_point]
      refine iff_of_false ?_ (List.append_ne_nil_of_right_ne_nil _ (List.cons_ne_nil point []))
      rintro ⟨pointless, silent⟩
      have nowhere : (behind initialization before).place = none := by
        unfold behind
        rw [pointless]
      simp [next?, Element.point?, reach?, switched, nowhere] at silent

end Tool

namespace Motion.Means

variable {commands : CommandTable} {initialization : Initialization α} {elements : List (Element α)}
  {run : Run α}

theorem targets_eq (means : Means commands initialization elements run) :
    (Motion.moves run.emissions).map (·.target) =
      (Tool.legs initialization elements).map Leg.target := by
  have made := means.moves
  rw [← List.forall₂_eq_eq_eq, List.forall₂_map_left_iff, List.forall₂_map_right_iff]
  exact made.flip.imp fun _ _ => Leg.IsMadeBy.target_eq

/-- There are moves as soon as there is a point. -/
theorem moves_eq_nil_iff (means : Means commands initialization elements run) :
    Motion.moves run.emissions = [] ↔ Element.points elements = [] := by
  rw [← Tool.legs_eq_nil_iff initialization, ← List.length_eq_zero_iff, ← means.moves.length_eq,
    List.length_eq_zero_iff]

theorem exists_of_mem_moves (means : Means commands initialization elements run) {move : Move α}
    (member : move ∈ Motion.moves run.emissions) :
    ∃ heard, heard <+: elements ∧ move.target = Position.after (Element.points heard) := by
  have target : move.target ∈ (Motion.moves run.emissions).map (·.target) := List.mem_map_of_mem member
  rw [means.targets_eq] at target
  obtain ⟨leg, asked, same⟩ := List.mem_map.mp target
  rw [← same]
  exact Tool.exists_of_mem_legs asked

/-- No axis of a target is undefined if the points leave none so. -/
theorem isDefined_target (means : Means commands initialization elements run)
    (defined : ∀ point ∈ Element.points elements, point.IsDefined)
    (zero : Scalar.isUndefined (0.0 : α) = false) {move : Move α}
    (member : move ∈ Motion.moves run.emissions) : move.target.IsDefined := by
  obtain ⟨heard, ⟨rest, rfl⟩, target⟩ := means.exists_of_mem_moves member
  rw [target]
  refine Position.isDefined_after (fun point isHeard => defined point ?_) zero
  unfold Element.points at isHeard ⊢
  rw [List.filterMap_append]
  exact List.mem_append_left _ isHeard

end Motion.Means

end Targets

end Toolpath
