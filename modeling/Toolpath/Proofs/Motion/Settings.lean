import Toolpath.Proofs.Motion.Pace

/-!
Fragments act field by field. What a fragment sets is a list of settings, one for each field that it has
a value for, and behind some elements each field holds the value that was set last. Only the mode of the
extruder axis does more: it is announced where it is set, and what that comes to depends on the modes
alone. So lists of fragments that set every field to the same values, in the same order, do the same.
-/

namespace Toolpath

variable {α : Type}

/-- What fragments have values for. -/
inductive FieldName where
  | print
  | travel
  | feedUnit
  | filament
  | relative
  | travelForm
  | shape
  | width
  | height
  | diameter
deriving DecidableEq, Repr

namespace FieldName

/-- All of them, fragment by fragment. -/
def all : List FieldName :=
  [.print, .travel, .feedUnit, .filament, .relative, .travelForm, .shape, .width, .height, .diameter]

theorem mem_all (field : FieldName) : field ∈ all := by cases field <;> decide

/-- Speeds, which points set too. -/
def isSpeed : FieldName → Bool
  | .print | .travel => true
  | _ => false

end FieldName

/-- A value for one field. -/
inductive Setting (α : Type) where
  | print (speed : α)
  | travel (speed : α)
  | feedUnit (unit : FeedUnit)
  | filament (size : α)
  | relative (mode : Bool)
  | travelForm (form : TravelForm)
  | shape (kind : BeadShape)
  | width (size : α)
  | height (size : α)
  | diameter (size : α)
deriving DecidableEq, Repr

namespace Setting

def field : Setting α → FieldName
  | print _ => .print
  | travel _ => .travel
  | feedUnit _ => .feedUnit
  | filament _ => .filament
  | relative _ => .relative
  | travelForm _ => .travelForm
  | shape _ => .shape
  | width _ => .width
  | height _ => .height
  | diameter _ => .diameter

/-- The fragment with one value. -/
def element : Setting α → Element α
  | print speed => .speeds (.ofPrint speed)
  | travel speed => .speeds (.ofTravel speed)
  | feedUnit unit => .extruder { feedUnit := some unit }
  | filament size => .extruder { filament := some size }
  | relative mode => .extruder (.ofMode mode)
  | travelForm form => .extruder { travelForm := some form }
  | shape kind => .bead { shape := some kind }
  | width size => .bead { width := some size }
  | height size => .bead { height := some size }
  | diameter size => .bead { diameter := some size }

end Setting

namespace Element

def isFragment : Element α → Bool
  | speeds _ | extruder _ | bead _ => true
  | point _ | event _ => false

/-- What an element sets a field to, if it is a fragment with a value for it. -/
def set? : Element α → FieldName → Option (Setting α)
  | speeds fragment, .print => fragment.print.map .print
  | speeds fragment, .travel => fragment.travel.map .travel
  | extruder fragment, .feedUnit => fragment.feedUnit.map .feedUnit
  | extruder fragment, .filament => fragment.filament.map .filament
  | extruder fragment, .relative => fragment.relative.map .relative
  | extruder fragment, .travelForm => fragment.travelForm.map .travelForm
  | bead fragment, .shape => fragment.shape.map .shape
  | bead fragment, .width => fragment.width.map .width
  | bead fragment, .height => fragment.height.map .height
  | bead fragment, .diameter => fragment.diameter.map .diameter
  | _, _ => none

/-- All that an element sets. -/
def settings (element : Element α) : List (Setting α) := FieldName.all.filterMap element.set?

theorem field_of_set? {element : Element α} {field : FieldName} {setting : Setting α}
    (set : element.set? field = some setting) : setting.field = field := by
  cases element <;> cases field
  all_goals
    first
    | cases set
    | obtain ⟨_, -, rfl⟩ := Option.map_eq_some_iff.mp set
      rfl

theorem set?_element (setting : Setting α) (field : FieldName) :
    setting.element.set? field = if setting.field = field then some setting else none := by
  cases setting <;> cases field <;> rfl

theorem isFragment_element (setting : Setting α) : setting.element.isFragment = true := by
  cases setting <;> rfl

/-- Of the settings of an element, those for a field are the one for that field. -/
theorem filter_settings (element : Element α) (field : FieldName) :
    element.settings.filter (·.field = field) = (element.set? field).toList := by
  have kept (other : FieldName) : (element.set? other).filter (·.field = field) =
      if other = field then element.set? field else none := by
    cases set : element.set? other with
    | none =>
      split
      · rename_i same
        rw [← same, set]
        rfl
      · rfl
    | some setting =>
      rw [Option.filter_some, field_of_set? set]
      by_cases same : other = field
      · simp [same, ← set]
      · simp [same]
  rw [settings, List.filter_filterMap]
  simp only [kept]
  cases set : element.set? field with
  | none => simp
  | some setting => cases field <;> rfl

end Element

namespace Machine

/-- What a field holds: a value, but for the fields of a bead that is not set yet. -/
def value? (machine : Machine α) : FieldName → Option (Setting α)
  | .print => some (.print machine.speeds.print)
  | .travel => some (.travel machine.speeds.travel)
  | .feedUnit => some (.feedUnit machine.extruder.feedUnit)
  | .filament => some (.filament machine.extruder.filament)
  | .relative => some (.relative machine.extruder.relative)
  | .travelForm => some (.travelForm machine.extruder.travelForm)
  | .shape => machine.bead.shape.map .shape
  | .width => machine.bead.width.map .width
  | .height => machine.bead.height.map .height
  | .diameter => machine.bead.diameter.map .diameter

variable [Scalar α]

/-- A machine with its fields as they are at first. -/
def unset (machine : Machine α) : Machine α :=
  { machine with
    speeds := .initial
    extruder := { Extruder.initial with
      on := machine.extruder.on, total := machine.extruder.total
      announced := machine.extruder.announced }
    bead := {} }

/-- Machines that hold the same in every field, and have the same besides, are the same. -/
theorem ext_value? {machine other : Machine α} (rest : machine.unset = other.unset)
    (fields : ∀ field, machine.value? field = other.value? field) : machine = other := by
  obtain ⟨⟨print, travel⟩, ⟨feedUnit, filament, relative, travelForm, on, total, announced⟩,
    ⟨shape, width, height, diameter⟩, fan, hotend, bed, position, color⟩ := machine
  obtain ⟨⟨print', travel'⟩, ⟨feedUnit', filament', relative', travelForm', on', total', announced'⟩,
    ⟨shape', width', height', diameter'⟩, fan', hotend', bed', position', color'⟩ := other
  have print := fields .print
  have travel := fields .travel
  have feedUnit := fields .feedUnit
  have filament := fields .filament
  have relative := fields .relative
  have travelForm := fields .travelForm
  have shape := Option.map_injective (fun _ _ => Setting.shape.inj) (fields .shape)
  have width := Option.map_injective (fun _ _ => Setting.width.inj) (fields .width)
  have height := Option.map_injective (fun _ _ => Setting.height.inj) (fields .height)
  have diameter := Option.map_injective (fun _ _ => Setting.diameter.inj) (fields .diameter)
  simp_all [unset, value?]

/-- A machine that a mode is announced to, unless it was announced last. -/
def hear (machine : Machine α) (relative : Bool) : Machine α :=
  if machine.extruder.announced = some relative then machine
  else { machine with extruder := { machine.extruder with
    announced := some relative, total := if relative then machine.extruder.total else 0.0 } }

/-- What is told where a mode is set. -/
def tellsMode (machine : Machine α) (relative : Bool) : List (Action α) :=
  if machine.extruder.announced = some relative then [] else [.announced relative]

/-- What is told where modes are set, one after the other. -/
def announcements (machine : Machine α) : List Bool → List (Action α)
  | [] => []
  | relative :: rest => machine.tellsMode relative ++ (machine.hear relative).announcements rest

/-- What a fragment does. It sets its fields, and nothing else hangs on them but the announcement of the
mode. -/
structure Sets (machine : Machine α) (element : Element α) (outcome : Outcome α) : Prop where
  remarks : outcome.remarks = []
  value? : ∀ field, outcome.machine.value? field = (element.set? field <|> machine.value? field)
  unset : outcome.machine.unset = element.extruderSettings.relative.toList.foldl hear machine.unset
  actions : outcome.emissions.map (·.action) =
    machine.unset.announcements element.extruderSettings.relative.toList

theorem sets_speeds (commands : CommandTable) (machine : Machine α) (fragment : SpeedFragment α) :
    ∃ outcome, machine.visit commands (.speeds fragment) = .ok outcome ∧
      machine.Sets (.speeds fragment) outcome := by
  refine ⟨_, rfl, rfl, fun field => ?_, rfl, rfl⟩
  cases field
  case print => cases set : fragment.print <;> simp [value?, Element.set?, Speeds.apply, set]
  case travel => cases set : fragment.travel <;> simp [value?, Element.set?, Speeds.apply, set]
  all_goals rfl

theorem sets_bead (commands : CommandTable) (machine : Machine α) (fragment : BeadFragment α) :
    ∃ outcome, machine.visit commands (.bead fragment) = .ok outcome ∧
      machine.Sets (.bead fragment) outcome := by
  refine ⟨_, rfl, rfl, fun field => ?_, rfl, rfl⟩
  cases field
  case shape => cases set : fragment.shape <;> simp [value?, Element.set?, Bead.apply, set]
  case width => cases set : fragment.width <;> simp [value?, Element.set?, Bead.apply, set]
  case height => cases set : fragment.height <;> simp [value?, Element.set?, Bead.apply, set]
  case diameter => cases set : fragment.diameter <;> simp [value?, Element.set?, Bead.apply, set]
  all_goals rfl

theorem announce_value? (machine : Machine α) (field : FieldName) :
    machine.announce.machine.value? field = machine.value? field := by
  unfold announce
  dsimp only
  split
  · rfl
  · cases field <;> rfl

/-- An announcement hangs on nothing but the mode that is in force and the one that was announced. -/
theorem announce_hears (machine : Machine α) : machine.announce.remarks = [] ∧
    machine.announce.machine.unset = machine.unset.hear machine.extruder.relative ∧
    machine.announce.emissions.map (·.action) = machine.unset.tellsMode machine.extruder.relative := by
  have same : machine.unset.extruder.announced = machine.extruder.announced := rfl
  unfold announce hear tellsMode
  dsimp only
  rw [same]
  by_cases said : machine.extruder.announced = some machine.extruder.relative
  · rw [if_pos said, if_pos said, if_pos said]
    exact ⟨rfl, rfl, rfl⟩
  · rw [if_neg said, if_neg said, if_neg said]
    exact ⟨rfl, rfl, rfl⟩

theorem sets_extruder (commands : CommandTable) (machine : Machine α) (fragment : ExtruderFragment α) :
    ∃ outcome, machine.visit commands (.extruder fragment) = .ok outcome ∧
      machine.Sets (.extruder fragment) outcome := by
  let configured : Machine α := { machine with extruder := machine.extruder.apply fragment }
  have values (field : FieldName) : configured.value? field =
      ((Element.extruder fragment).set? field <|> machine.value? field) := by
    cases field
    case feedUnit => cases set : fragment.feedUnit <;>
      simp [configured, value?, Element.set?, Extruder.apply, set]
    case filament => cases set : fragment.filament <;>
      simp [configured, value?, Element.set?, Extruder.apply, set]
    case relative => cases set : fragment.relative <;>
      simp [configured, value?, Element.set?, Extruder.apply, set]
    case travelForm => cases set : fragment.travelForm <;>
      simp [configured, value?, Element.set?, Extruder.apply, set]
    all_goals rfl
  cases set : fragment.relative with
  | none =>
    have visited : machine.visit commands (.extruder fragment) = .ok { machine := configured } := by
      rw [visit, set]
      rfl
    refine ⟨_, visited, rfl, values, ?_, ?_⟩
    · rw [Element.extruderSettings, set]
      rfl
    · rw [Element.extruderSettings, set]
      rfl
  | some relative =>
    have visited : machine.visit commands (.extruder fragment) = .ok configured.announce := by
      rw [visit, set]
      rfl
    have now : configured.extruder.relative = relative := by
      simp [configured, Extruder.apply, set]
    obtain ⟨remarks, unset, actions⟩ := configured.announce_hears
    rw [now] at unset actions
    refine ⟨_, visited, remarks, fun field => (announce_value? _ _).trans (values field), ?_, ?_⟩
    · rw [Element.extruderSettings, set]
      exact unset
    · rw [Element.extruderSettings, set]
      exact actions.trans (List.append_nil _).symm

theorem sets_fragment (commands : CommandTable) (machine : Machine α) {element : Element α}
    (isFragment : element.isFragment = true) :
    ∃ outcome, machine.visit commands element = .ok outcome ∧ machine.Sets element outcome := by
  cases element with
  | speeds fragment => exact machine.sets_speeds commands fragment
  | extruder fragment => exact machine.sets_extruder commands fragment
  | bead fragment => exact machine.sets_bead commands fragment
  | point | event => cases isFragment

theorem announcements_append (machine : Machine α) (first later : List Bool) :
    machine.announcements (first ++ later) =
      machine.announcements first ++ (first.foldl hear machine).announcements later := by
  induction first generalizing machine with
  | nil => rfl
  | cons relative rest ih =>
    rw [List.cons_append, announcements, ih, announcements, List.append_assoc]
    rfl

theorem isAnnouncement_of_mem {machine : Machine α} {modes : List Bool} {action : Action α}
    (member : action ∈ machine.announcements modes) : action.isAnnouncement = true := by
  induction modes generalizing machine with
  | nil => cases member
  | cons relative rest ih =>
    rcases List.mem_append.mp member with here | later
    · unfold tellsMode at here
      split at here
      · cases here
      · rw [List.mem_singleton.mp here]
        rfl
    · exact ih later

/-- Only fragments set fields, but for the speeds. -/
theorem visit_value? {commands : CommandTable} {machine : Machine α} {element : Element α}
    {outcome : Outcome α} (ok : machine.visit commands element = .ok outcome) {field : FieldName}
    (other : field.isSpeed = false) :
    outcome.machine.value? field = (element.set? field <|> machine.value? field) := by
  cases isFragment : element.isFragment with
  | true =>
    obtain ⟨_, visited, sets⟩ := machine.sets_fragment commands isFragment
    obtain rfl := Except.ok.inj (visited.symm.trans ok)
    exact sets.value? field
  | false =>
    cases element with
    | point point =>
      obtain ⟨moved, atMoved, rfl⟩ := visitPoint_eq_ok.mp ok
      obtain ⟨speeds, color, ready⟩ := machine.ready_machine point
      rw [ready] at atMoved
      unfold reach at atMoved
      split at atMoved
      · cases atMoved
        cases field <;> first | rfl | cases other
      · cases went_of_go atMoved with
        | stayed | traveled | printed => cases field <;> first | rfl | cases other
    | event event =>
      obtain ⟨total, fan, hotend, bed, after⟩ := visitEvent_machine ok
      rw [after]
      cases field <;> rfl
    | speeds | extruder | bead => cases isFragment

end Machine

end Toolpath
