import Toolpath.Proofs.Motion.Itinerary

/-!
How far the extruder axis has come along a walk. The total changes with what is issued to be fed and
with nothing else, until a mode is announced.
-/

namespace Toolpath

variable {α : Type}

/-- What an action issues to be fed, as it is written on the extruder axis: by a move that extrudes,
or on the spot. -/
def Action.issued? : Action α → Option α
  | .move way => if way.kind.isPrint then way.feed else none
  | .extruded feed _ => some feed
  | _ => none

/-- Actions that announce a mode of the extruder axis. -/
def Action.isAnnouncement : Action α → Bool
  | .announced _ => true
  | _ => false

/-- The mode in force is the one announced last, if one was announced. -/
def Extruder.Settled (extruder : Extruder α) : Prop :=
  ∀ relative, extruder.announced = some relative → extruder.relative = relative

/-- The same total, in the same mode. -/
structure Extruder.Holds (before after : Extruder α) : Prop where
  total : after.total = before.total
  relative : after.relative = before.relative

variable [Scalar α]

namespace Machine

theorem Change.settled {element : Element α} {machine after : Machine α}
    {told : Option (Action α)} (change : Change element machine told after)
    (settled : machine.extruder.Settled) : after.extruder.Settled := by
  cases change with
  | settings | toggled | placed | stayed | traveled | printed | extruded | aside => exact settled
  | @configured fragment unset =>
    have same : (machine.extruder.apply fragment).relative = machine.extruder.relative := by
      simp only [Extruder.apply, unset, Option.getD_none]
    exact fun relative said => same.trans (settled relative said)
  | @repeated fragment relative set said =>
    have now : (machine.extruder.apply fragment).relative = relative := by
      simp only [Extruder.apply, set, Option.getD_some]
    exact fun other saidOther => now.trans (Option.some.inj (said.symm.trans saidOther))
  | announced => exact fun other saidOther => Option.some.inj saidOther

theorem Course.settled {made : Element α → Prop} {machine last : Machine α}
    {emissions : List (Emission α)} (course : Course made machine emissions last)
    (settled : machine.extruder.Settled) : last.extruder.Settled := by
  induction course with
  | rest => exact settled
  | silent _ change _ ih => exact ih (change.settled settled)
  | told _ change _ ih => exact ih (change.settled settled)

/-- A change that issues nothing and announces nothing leaves the axis where it is. -/
theorem Change.holds {element : Element α} {machine after : Machine α}
    {told : Option (Action α)} (change : Change element machine told after)
    (settled : machine.extruder.Settled) (nothing : told.bind Action.issued? = none)
    (unannounced : ∀ action ∈ told, action.isAnnouncement = false) :
    machine.extruder.Holds after.extruder := by
  cases change with
  | settings | toggled | placed | stayed | traveled | aside => exact ⟨rfl, rfl⟩
  | @configured fragment unset =>
    refine ⟨rfl, ?_⟩
    simp only [Extruder.apply, unset, Option.getD_none]
  | @repeated fragment relative set said =>
    refine ⟨rfl, ?_⟩
    simp only [Extruder.apply, set, Option.getD_some]
    exact (settled relative said).symm
  | announced =>
    have refused := unannounced _ rfl
    cases refused
  | printed => cases nothing
  | extruded => cases nothing

theorem Course.holds {made : Element α → Prop} {machine last : Machine α}
    {emissions : List (Emission α)} (course : Course made machine emissions last)
    (settled : machine.extruder.Settled)
    (nothing : ∀ emission ∈ emissions, emission.action.issued? = none)
    (unannounced : ∀ emission ∈ emissions, emission.action.isAnnouncement = false) :
    machine.extruder.Holds last.extruder := by
  induction course with
  | rest => exact ⟨rfl, rfl⟩
  | silent _ change _ ih =>
    have here := change.holds settled rfl (fun _ member => nomatch member)
    have later := ih (change.settled settled) nothing unannounced
    exact ⟨later.total.trans here.total, later.relative.trans here.relative⟩
  | @told element machine middle last action rest _ change _ ih =>
    obtain ⟨nothingHere, nothingLater⟩ := List.forall_mem_cons.mp nothing
    obtain ⟨unannouncedHere, unannouncedLater⟩ := List.forall_mem_cons.mp unannounced
    have here := change.holds settled nothingHere
      (fun other same => Option.some.inj same ▸ unannouncedHere)
    have later := ih (change.settled settled) nothingLater unannouncedLater
    exact ⟨later.total.trans here.total, later.relative.trans here.relative⟩

/-- A course cut at one of its emissions. -/
theorem Course.split {made : Element α → Prop} {machine last : Machine α}
    {before after : List (Emission α)} {emission : Emission α}
    (course : Course made machine (before ++ emission :: after) last) :
    ∃ middle element, Course made machine before middle ∧ made element ∧
      Change element middle (some emission.action) emission.machine ∧
      Course made emission.machine after last := by
  generalize atEmissions : before ++ emission :: after = emissions at course
  induction course generalizing before with
  | rest => exact absurd atEmissions (by simp)
  | silent byElement change _ ih =>
    obtain ⟨middle, element, first, byOther, here, later⟩ := ih atEmissions
    exact ⟨middle, element, .silent byElement change first, byOther, here, later⟩
  | @told element machine middle last action rest byElement change course ih =>
    cases before with
    | nil =>
      obtain ⟨rfl, rfl⟩ := List.cons.inj atEmissions
      exact ⟨machine, element, .rest, byElement, change, course⟩
    | cons first before =>
      obtain ⟨rfl, atRest⟩ := List.cons.inj atEmissions
      obtain ⟨inner, other, course, byOther, here, later⟩ := ih atRest
      exact ⟨inner, other, .told byElement change course, byOther, here, later⟩

/-- What a move that extrudes issues is written on it. -/
theorem Change.issued_of_isPrint {element : Element α} {machine after : Machine α} {move : Move α}
    (change : Change element machine (some (.move move)) after)
    (extruding : move.kind.isPrint = true) : ∃ feed, move.feed = some feed := by
  cases change with
  | placed | traveled => cases extruding
  | printed => exact ⟨_, rfl⟩
  | aside _ _ _ isAside => cases isAside

/-- Where the axis is absolute, whatever a move or a feed writes on it is the total behind it. -/
theorem Change.written_eq_total {element : Element α} {machine after : Machine α}
    {action : Action α} {feed : α} (change : Change element machine (some action) after)
    (absolute : after.extruder.relative = false)
    (written : (∃ speed, action = .extruded feed speed) ∨
      ∃ move, action = .move move ∧ move.feed = some feed) : feed = after.extruder.total := by
  have total (extruder : Extruder α) (amount : α) (absolute : extruder.relative = false) :
      (extruder.advance amount).written amount = (extruder.advance amount).total :=
    if_neg (by rw [Extruder.advance, absolute]; exact Bool.false_ne_true)
  rcases written with ⟨speed, rfl⟩ | ⟨move, rfl, onMove⟩
  · cases change with
    | extruded => exact total _ _ absolute
    | aside _ _ _ isAside => cases isAside
  · cases change with
    | placed => cases onMove
    | traveled =>
      simp only [traveling, travelFeed] at onMove
      split at onMove
      · obtain rfl := Option.some.inj onMove
        exact if_neg (absolute ▸ Bool.false_ne_true)
      · cases onMove
    | printed =>
      obtain rfl := Option.some.inj onMove
      exact total _ _ absolute
    | aside _ _ _ isAside => cases isAside

end Machine

end Toolpath
