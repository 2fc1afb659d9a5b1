import Toolpath.Proofs.Motion.Change
import Toolpath.Proofs.Scalar.Alike
import Mathlib.Data.List.Forall2

/-!
What the emissions of a walk say of the tool: where it is and whether it extrudes. Every output draws
its moves from this alone, so what is proved of an output needs no look at the elements again.
-/

namespace Toolpath

variable {α : Type}

/-- Whether a move extrudes. -/
def MoveKind.isPrint : MoveKind α → Bool
  | .print .. => true
  | _ => false

/-- A straight piece of the way of the tool. -/
structure Segment (α : Type) where
  start : Position α
  target : Position α
  on : Bool

/-- The piece that a move draws. The move to the first point draws none. -/
def Move.segment? (move : Move α) : Option (Segment α) :=
  if move.kind.isOrigin then none else some ⟨move.start, move.target, move.kind.isPrint⟩

/-- The move that an action is, if it is one. -/
def Action.move? : Action α → Option (Move α)
  | .move way => some way
  | _ => none

theorem Action.eq_of_move? {action : Action α} {way : Move α} (isMove : action.move? = some way) :
    action = .move way := by
  cases action with
  | move other => exact congrArg Action.move (Option.some.inj isMove)
  | toggled | announced | instruction | comment | extruded | fan | hotend | bed | marker =>
    cases isMove

/-- The moves of a walk. -/
def Motion.moves (emissions : List (Emission α)) : List (Move α) :=
  emissions.filterMap (·.action.move?)

/-- The moves of a walk but for the one to the first point. -/
def Motion.segments (emissions : List (Emission α)) : List (Segment α) :=
  (Motion.moves emissions).filterMap Move.segment?

theorem Motion.moves_cons (emission : Emission α) (rest : List (Emission α)) :
    moves (emission :: rest) = emission.action.move?.toList ++ moves rest := by
  unfold moves
  rw [List.filterMap_cons]
  cases emission.action.move? <;> rfl

theorem Motion.filterMap_moves_cons {β : Type} (value? : Move α → Option β) (emission : Emission α)
    (rest : List (Emission α)) : (moves (emission :: rest)).filterMap value? =
      (emission.action.move?.bind value?).toList ++ (moves rest).filterMap value? := by
  rw [moves_cons, List.filterMap_append]
  cases emission.action.move? with
  | none => rfl
  | some move => cases given : value? move <;> simp [given]

theorem Motion.segments_cons (emission : Emission α) (rest : List (Emission α)) :
    segments (emission :: rest) =
      (emission.action.move?.bind Move.segment?).toList ++ segments rest :=
  filterMap_moves_cons Move.segment? emission rest

/-- Actions that leave the tool where it is and the extruder as it is. -/
def Action.isStill : Action α → Bool
  | .move .. | .toggled .. => false
  | _ => true

/-- What is seen of the tool. -/
structure Tool (α : Type) where
  place : Option (Position α)
  on : Bool

/-- The tool of a machine. -/
def Machine.tool (machine : Machine α) : Tool α := ⟨machine.position, machine.extruder.on⟩

variable [Scalar α]

/-- The same piece, but for the signs of zeros where it starts. -/
structure Segment.Alike (s t : Segment α) : Prop where
  start : s.start.Alike t.start
  target : s.target = t.target
  on : s.on = t.on

namespace Tool

/-- The same tool, but for the signs of zeros in its place. -/
structure Alike (s t : Tool α) : Prop where
  place : Option.Rel Position.Alike s.place t.place
  on : s.on = t.on

theorem Alike.refl (tool : Tool α) : tool.Alike tool := by
  obtain ⟨place, on⟩ := tool
  cases place with
  | none => exact ⟨.none, rfl⟩
  | some p => exact ⟨.some (.refl p), rfl⟩

theorem Alike.trans {s t u : Tool α} (first : s.Alike t) (second : t.Alike u) : s.Alike u := by
  obtain ⟨sPlace, sOn⟩ := s
  obtain ⟨tPlace, tOn⟩ := t
  obtain ⟨uPlace, uOn⟩ := u
  obtain ⟨firstPlace, rfl⟩ := first
  obtain ⟨secondPlace, rfl⟩ := second
  cases firstPlace with
  | none =>
    cases secondPlace
    exact ⟨.none, rfl⟩
  | some left =>
    cases secondPlace with
    | some right => exact ⟨.some (left.trans right), rfl⟩

theorem Alike.of_none {on : Bool} {tool : Tool α} (alike : Alike ⟨none, on⟩ tool) :
    tool = ⟨none, on⟩ := by
  obtain ⟨place, _⟩ := tool
  obtain ⟨places, rfl⟩ := alike
  cases places
  rfl

theorem Alike.of_some {place : Position α} {on : Bool} {tool : Tool α}
    (alike : Alike ⟨some place, on⟩ tool) : ∃ moved, place.Alike moved ∧ tool = ⟨some moved, on⟩ := by
  obtain ⟨_, _⟩ := tool
  obtain ⟨places, rfl⟩ := alike
  cases places with
  | some near => exact ⟨_, near, rfl⟩

/-- An action that fits a tool, with the machine that goes along. Only the first move comes from
nowhere, a move extrudes just where the extruder is on, and the extruder is never switched to what it
is. -/
inductive Fits (tool : Tool α) (machine : Machine α) : Action α → Prop
  | origin {move : Move α} : tool.place = none → move.kind = .origin → move.start = move.target →
      machine.tool = ⟨some move.target, tool.on⟩ → Fits tool machine (.move move)
  | moved {move : Move α} {start : Position α} : tool.place = some start → start.Alike move.start →
      move.kind.isOrigin = false → move.kind.isPrint = tool.on →
      machine.tool = ⟨some move.target, tool.on⟩ → Fits tool machine (.move move)
  | toggled {on : Bool} : tool.on ≠ on → Alike { tool with on } machine.tool →
      Fits tool machine (.toggled on)
  | still {action : Action α} : action.isStill = true → tool.Alike machine.tool →
      Fits tool machine action

theorem Fits.of_alike {seen tool : Tool α} {machine : Machine α} {action : Action α}
    (alike : seen.Alike tool) (fits : tool.Fits machine action) : seen.Fits machine action := by
  obtain ⟨place, on⟩ := seen
  obtain ⟨places, rfl⟩ := alike
  cases fits with
  | origin nowhere kind start after =>
    rw [nowhere] at places
    cases places
    exact .origin rfl kind start after
  | moved placed near kind print after =>
    rw [placed] at places
    cases places with
    | some same => exact .moved rfl (same.trans near) kind print after
  | @toggled switched differs after =>
    refine .toggled differs (Alike.trans (t := { tool with on := switched }) ⟨places, rfl⟩ after)
  | still isStill after => exact .still isStill (Alike.trans ⟨places, rfl⟩ after)

/-- Emissions each of which fits the tool as the ones before it leave it. -/
inductive Itinerary : Tool α → List (Emission α) → Prop
  | done {tool : Tool α} : Itinerary tool []
  | next {tool : Tool α} {emission : Emission α} {rest : List (Emission α)} :
      tool.Fits emission.machine emission.action → Itinerary emission.machine.tool rest →
      Itinerary tool (emission :: rest)

theorem Fits.of_some {place : Position α} {on : Bool} {machine : Machine α} {action : Action α}
    (fits : Fits ⟨some place, on⟩ machine action) :
    ∃ moved, machine.tool = ⟨some moved, machine.extruder.on⟩ ∧
      ((∃ move, action.move? = some move ∧ move.kind.isOrigin = false ∧ place.Alike move.start) ∨
        action.move? = none ∧ place.Alike moved) := by
  cases fits with
  | origin nowhere => cases nowhere
  | @moved move start placed near kind _ after =>
    obtain rfl := Option.some.inj placed
    have here : machine.position = some move.target := congrArg Tool.place after
    exact ⟨move.target, by rw [Machine.tool, here], .inl ⟨move, rfl, kind, near⟩⟩
  | toggled _ after =>
    obtain ⟨moved, near, same⟩ := after.of_some
    have here : machine.position = some moved := congrArg Tool.place same
    exact ⟨moved, by rw [Machine.tool, here], .inr ⟨rfl, near⟩⟩
  | still isStill after =>
    obtain ⟨moved, near, same⟩ := after.of_some
    have here : machine.position = some moved := congrArg Tool.place same
    have none : action.move? = none := by cases action <;> first | rfl | cases isStill
    exact ⟨moved, by rw [Machine.tool, here], .inr ⟨none, near⟩⟩

/-- Once the tool is somewhere no move is the one to the first point, and the next one starts where
the tool is. -/
theorem Itinerary.moves_placed {place : Position α} {on : Bool} {emissions : List (Emission α)}
    (itinerary : Itinerary ⟨some place, on⟩ emissions) :
    (∀ move ∈ Motion.moves emissions, move.kind.isOrigin = false) ∧
      ∀ move ∈ (Motion.moves emissions).head?, place.Alike move.start := by
  induction emissions generalizing place on with
  | nil => exact ⟨fun _ member => (List.not_mem_nil member).elim, fun _ member => nomatch member⟩
  | cons emission rest ih =>
    cases itinerary with
    | next fits later =>
      obtain ⟨moved, here, action⟩ := fits.of_some
      rw [here] at later
      obtain ⟨others, starts⟩ := ih later
      rw [Motion.moves_cons]
      rcases action with ⟨move, isMove, kind, near⟩ | ⟨noMove, near⟩
      · rw [isMove]
        refine ⟨List.forall_mem_cons.mpr ⟨kind, others⟩, ?_⟩
        intro next atHead
        obtain rfl := Option.some.inj atHead
        exact near
      · rw [noMove]
        exact ⟨others, fun next atHead => near.trans (starts next atHead)⟩

/-- The first move of all is the one to the first point, and no other is. -/
theorem Itinerary.moves_nowhere {on : Bool} {emissions : List (Emission α)} {first : Move α}
    {rest : List (Move α)} (itinerary : Itinerary ⟨none, on⟩ emissions)
    (moves : Motion.moves emissions = first :: rest) :
    first.kind = .origin ∧ (∀ move ∈ rest, move.kind.isOrigin = false) ∧
      ∀ move ∈ rest.head?, first.target.Alike move.start := by
  induction emissions generalizing on with
  | nil => cases moves
  | cons emission later ih =>
    obtain ⟨action, machine⟩ := emission
    cases itinerary with
    | next fits itinerary =>
      cases fits with
      | @origin move nowhere kind _ after =>
        obtain ⟨rfl, rfl⟩ := List.cons.inj moves
        rw [after] at itinerary
        exact ⟨kind, itinerary.moves_placed⟩
      | moved placed => cases placed
      | toggled _ after =>
        rw [after.of_none] at itinerary
        exact ih itinerary moves
      | still isStill after =>
        have same := after.of_none
        rw [same] at itinerary
        cases action <;> first | exact ih itinerary moves | cases isStill

end Tool

namespace Machine

variable [Scalar.Discerning α]

theorem Change.silent_tool {element : Element α} {machine after : Machine α}
    (change : Change element machine none after) : machine.tool.Alike after.tool := by
  cases change with
  | settings | configured | repeated => exact .refl _
  | stayed _ placed same =>
    refine ⟨?_, rfl⟩
    show Option.Rel _ machine.position _
    rw [placed]
    exact .some (Position.Alike.of_beq same).symm

omit [Scalar.Discerning α] in
theorem Change.told_fits {element : Element α} {machine after : Machine α} {action : Action α}
    (change : Change element machine (some action) after) : machine.tool.Fits after action := by
  cases change with
  | announced => exact .still rfl (.refl _)
  | toggled differs => exact .toggled differs (.refl _)
  | placed _ nowhere => exact .origin nowhere rfl rfl rfl
  | traveled _ placed _ off => exact .moved placed (.refl _) rfl off.symm rfl
  | printed _ placed _ on => exact .moved placed (.refl _) rfl on.symm rfl
  | extruded => exact .still rfl (.refl _)
  | aside fan hotend bed isAside =>
    refine .still ?_ (.refl _)
    cases action with
    | move | toggled => cases isAside
    | announced | extruded | instruction | comment | fan | hotend | bed | marker => rfl

theorem Course.itinerary {made : Element α → Prop} {machine last : Machine α}
    {emissions : List (Emission α)} (course : Course made machine emissions last) {tool : Tool α}
    (alike : tool.Alike machine.tool) : tool.Itinerary emissions := by
  induction course generalizing tool with
  | rest => exact .done
  | silent _ change _ ih => exact ih (alike.trans change.silent_tool)
  | told _ change _ ih => exact .next (change.told_fits.of_alike alike) (ih (.refl _))

end Machine

/-- Before the first element the tool is nowhere and the extruder off. -/
theorem Motion.run_itinerary [Scalar.Discerning α] {commands : CommandTable}
    {initialization : Initialization α} {design : Design α} {run : Run α}
    (ok : Motion.run commands initialization design = .ok run) :
    (⟨none, false⟩ : Tool α).Itinerary run.emissions := by
  obtain ⟨walked, onScript, rfl⟩ := Motion.runElements_eq_ok.mp ok
  exact (Motion.walk_course onScript).itinerary (.refl _)

end Toolpath
