import Mathlib.Algebra.BigOperators.Ring.List
import Mathlib.Algebra.Order.Field.Basic
import Toolpath.Geometry.Basic
import Toolpath.Proofs.Motion.Delivery
import Toolpath.Proofs.Motion.Failure
import Toolpath.Proofs.Motion.FeedAxis

/-!
Two measures of one path. The geometry adds up the distances between the points of a list; the machine
goes from point to point, leaves out moves on the spot and feeds for each of the others. While it keeps
printing with one bead and one filament, the lengths of its moves add up to the length of the path, and
what it extrudes and feeds is in proportion.
-/

namespace Toolpath

variable {α : Type}

/-- The length that a move that extrudes says it has. -/
def MoveKind.length? : MoveKind α → Option α
  | .print _ length => some length
  | _ => none

/-- The volume that a move extrudes, if it does. -/
def MoveKind.volume? : MoveKind α → Option α
  | .print volume _ => some volume
  | _ => none

/-- An element that neither switches the extruder off nor changes what it extrudes with, and does not
feed on the spot. -/
structure Element.KeepsPrinting (element : Element α) : Prop where
  switch : element.switch? ≠ some false
  bead : element.beadSettings = {}
  feedUnit : element.extruderSettings.feedUnit = none
  filament : element.extruderSettings.filament = none
  goes : ∀ volume speed, element ≠ .event (.extrude volume speed)

namespace Element.KeepsPrinting

variable {element : Element α}

theorem switched_on (keeps : element.KeepsPrinting) {tool : Tool α} (on : tool.on = true) :
    (tool.switched element).on = true := by
  show element.switch?.getD tool.on = true
  cases switches : element.switch? with
  | none => exact on
  | some way =>
    cases way with
    | true => rfl
    | false => exact absurd switches keeps.switch

theorem supply_visit (keeps : element.KeepsPrinting) (supply : Supply α) :
    supply.visit element = supply := by
  unfold Supply.visit
  rw [keeps.bead, keeps.feedUnit, keeps.filament]
  rfl

variable [Scalar α]

theorem visit_on (keeps : element.KeepsPrinting) {tool : Tool α} (on : tool.on = true) :
    (tool.visit element).on = true := by
  unfold Tool.visit
  cases element.point? <;> exact keeps.switched_on on

end Element.KeepsPrinting

variable [Scalar α]

/-- How far it is from end to end of a move that extrudes. -/
def Move.way? (move : Move α) : Option α :=
  if move.kind.isPrint then some (move.start.distance move.target) else none

/-- The same for an action, if it is such a move. -/
def Action.way? (action : Action α) : Option α := action.move?.bind Move.way?

def Leg.way? : Leg α → Option α
  | .print start target => some (start.distance target)
  | .origin _ | .travel .. => none

theorem Leg.IsMadeBy.way?_eq {leg : Leg α} {move : Move α} (made : leg.IsMadeBy move) :
    move.way? = leg.way? := by
  unfold Move.way?
  rw [made.isPrint_eq]
  cases leg with
  | origin | travel => rfl
  | print start target =>
    obtain ⟨-, fromStart, toTarget⟩ := made
    rw [fromStart, toTarget]
    rfl

/-- The machine extrudes a bead of an area wherever it goes, at a feed for each volume. -/
structure Machine.Prints (area factor : α) (machine : Machine α) : Prop where
  on : machine.tool.on = true
  area : machine.bead.area = .ok area
  factor : machine.extruder.feedPerVolume = .ok factor

namespace Machine.Prints

variable {area factor : α} {machine after : Machine α} {element : Element α}

theorem of_supply (prints : machine.Prints area factor) (same : after.supply = machine.supply)
    (on : after.tool.on = true) : after.Prints area factor := by
  obtain ⟨bead, feedUnit, filament⟩ := Supply.mk.inj same
  refine ⟨on, ?_, ?_⟩
  · rw [bead, prints.area]
  · rw [← prints.factor, Extruder.feedPerVolume, Extruder.feedPerVolume, feedUnit, filament]

theorem flaw?_eq_none (prints : machine.Prints area factor) (keeps : element.KeepsPrinting) :
    element.flaw? machine.tool machine.supply = none := by
  have stall : machine.supply.stall? = none := by
    rw [← Extruder.cause?_feedPerVolume, prints.factor]
    rfl
  have lack : machine.supply.bead.flaw? = none := by
    rw [← Bead.cause?_area]
    exact congrArg cause? prints.area
  cases element with
  | point point =>
    unfold Element.flaw?
    rw [lack, stall]
    exact ite_self none
  | speeds | extruder | bead => rfl
  | event event =>
    cases event with
    | extrude volume speed => exact absurd rfl (keeps.goes volume speed)
    | toggle | command | raw | comment | fan | hotend | bed | marker => rfl

theorem visited {commands : CommandTable} {outcome : Outcome α} (prints : machine.Prints area factor)
    (keeps : element.KeepsPrinting) (ok : machine.visit commands element = .ok outcome) :
    outcome.machine.Prints area factor := by
  have same := (visit_supply ok).trans (keeps.supply_visit machine.supply)
  refine prints.of_supply same ?_
  rw [(visit_leg ok).1]
  exact keeps.visit_on prints.on

/-- A switch comes before the point is gone to; every other emission goes along with the machine that
the element leaves. -/
theorem told {commands : CommandTable} {outcome : Outcome α} (prints : machine.Prints area factor)
    (keeps : element.KeepsPrinting) (ok : machine.visit commands element = .ok outcome) :
    ∀ emission ∈ outcome.emissions, emission.machine.Prints area factor := by
  have behind := prints.visited keeps ok
  intro emission member
  cases isPoint : element.point? with
  | none =>
    rw [(visit_tells ok isPoint emission member).1]
    exact behind
  | some point =>
    obtain rfl := Element.eq_of_point? isPoint
    rcases visitPoint_tells ok emission member with ⟨on, rfl⟩ | ⟨move, rfl⟩
    · have turned := machine.turn_machine point.extrude
      show (machine.turn point.extrude).machine.Prints area factor
      rw [turned]
      exact prints.of_supply rfl (keeps.switched_on prints.on)
    · exact behind

/-- While it keeps printing the machine does not fail. -/
theorem exists_walk (prints : machine.Prints area factor) (commands : CommandTable)
    {elements : List (Numbered α)} (keeps : ∀ numbered ∈ elements, numbered.1.KeepsPrinting) :
    ∃ run, Motion.walk commands machine elements = .ok run ∧
      ∀ emission ∈ run.emissions, emission.machine.Prints area factor := by
  induction elements generalizing machine with
  | nil => exact ⟨_, rfl, List.forall_mem_nil _⟩
  | cons numbered rest ih =>
    obtain ⟨element, index⟩ := numbered
    obtain ⟨keepsHere, keepsLater⟩ := List.forall_mem_cons.mp keeps
    have sound : cause? (machine.visit commands element) = none :=
      (machine.cause?_visit commands element).trans (prints.flaw?_eq_none keepsHere)
    obtain ⟨outcome, visited⟩ := cause?_eq_none.mp sound
    obtain ⟨later, walked, printsLater⟩ := ih (prints.visited keepsHere visited) keepsLater
    have first : Motion.step commands machine (element, index) = .ok _ :=
      Motion.step_eq_ok.mpr ⟨outcome, visited, rfl⟩
    refine ⟨_, Motion.walk_cons_eq_ok.mpr ⟨_, later, first, walked, rfl⟩, ?_⟩
    exact List.forall_mem_append.mpr ⟨prints.told keepsHere visited, printsLater⟩

end Machine.Prints

/-- The moves that elements ask a tool for. -/
def Tool.ask (tool : Tool α) : List (Element α) → List (Leg α)
  | [] => []
  | element :: rest => (tool.next? element).toList ++ (tool.visit element).ask rest

namespace Motion

theorem walk_asked {commands : CommandTable} {machine : Machine α} {elements : List (Numbered α)}
    {run : Run α} (ok : walk commands machine elements = .ok run) :
    List.Forall₂ Leg.IsMadeBy (machine.tool.ask (elements.map Prod.fst)) (moves run.emissions) := by
  induction elements generalizing machine run with
  | nil =>
    cases ok
    exact .nil
  | cons numbered rest ih =>
    obtain ⟨first, later, atFirst, atLater, rfl⟩ := walk_cons_eq_ok.mp ok
    obtain ⟨behind, made⟩ := step_leg atFirst
    have madeLater := ih atLater
    rw [behind] at madeLater
    show List.Forall₂ _ _ (moves (first.emissions ++ later.emissions))
    rw [moves_append]
    exact List.rel_append made madeLater

/-- The lengths of the moves that extrude, as the moves say them. -/
def lengths (emissions : List (Emission α)) : List α :=
  (moves emissions).filterMap (·.kind.length?)

/-- What the moves extrude. -/
def volumes (emissions : List (Emission α)) : List α :=
  (moves emissions).filterMap (·.kind.volume?)

/-- How far it is from end to end of each move that extrudes. -/
def ways (emissions : List (Emission α)) : List α := (moves emissions).filterMap Move.way?

theorem ways_eq {legs : List (Leg α)} {emissions : List (Emission α)}
    (made : List.Forall₂ Leg.IsMadeBy legs (moves emissions)) :
    ways emissions = legs.filterMap Leg.way? := by
  unfold ways
  generalize moves emissions = moves at made ⊢
  induction made with
  | nil => rfl
  | cons here _ ih => rw [List.filterMap_cons, List.filterMap_cons, here.way?_eq, ih]

end Motion

namespace FeedAxis

variable {area factor : α}

/-- An emission says of its move how long it is and what it extrudes, and feeds for that and nothing
else. -/
structure Spends (area factor : α) (entry : FeedAxis α × Emission α) : Prop where
  length : entry.2.action.move?.bind (·.kind.length?) = entry.2.action.way?
  volume : entry.2.action.move?.bind (·.kind.volume?) = entry.2.action.way?.map (area * ·)
  feed : entry.1.feed entry.2.action = (entry.2.action.way?.map (area * · * factor)).getD 0.0

theorem Honors.spends {element : Element α} {entry : FeedAxis α × Emission α}
    (honors : Honors element entry) (keeps : element.KeepsPrinting)
    (prints : entry.2.machine.Prints area factor) : Spends area factor entry := by
  obtain ⟨axis, ⟨action, machine⟩⟩ := entry
  obtain ⟨due, -⟩ := honors
  cases action with
  | move move =>
    obtain ⟨kind, start, target, form, feed, speed⟩ := move
    cases kind with
    | origin | travel => exact ⟨rfl, rfl, due⟩
    | print volume length =>
      obtain ⟨_, _, atArea, atFactor, isLength, isVolume, fed⟩ := due
      obtain rfl := Except.ok.inj (prints.area.symm.trans atArea)
      obtain rfl := Except.ok.inj (prints.factor.symm.trans atFactor)
      have isLength : length = start.distance target := isLength
      subst isLength isVolume
      exact ⟨rfl, rfl, fed⟩
  | extruded =>
    obtain ⟨volume, speed, _, byElement, -⟩ := due
    exact absurd byElement (keeps.goes volume speed)
  | toggled | announced | instruction | comment | fan | hotend | bed | marker =>
    exact ⟨rfl, rfl, due⟩

theorem lengths_eq_ways {axis : FeedAxis α} {emissions : List (Emission α)}
    (spend : ∀ entry ∈ axis.trace emissions, Spends area factor entry) :
    Motion.lengths emissions = Motion.ways emissions ∧
      Motion.volumes emissions = (Motion.ways emissions).map (area * ·) := by
  unfold Motion.lengths Motion.volumes Motion.ways
  induction emissions generalizing axis with
  | nil => exact ⟨rfl, rfl⟩
  | cons emission rest ih =>
    obtain ⟨here, later⟩ := List.forall_mem_cons.mp spend
    obtain ⟨lengths, volumes⟩ := ih later
    simp only [Motion.filterMap_moves_cons, lengths, volumes, here.length, here.volume, List.map_append]
    exact ⟨rfl, congrArg (· ++ _) (Option.toList_map ..)⟩

end FeedAxis

namespace Geometry

/-- To a point that leaves no axis open the geometry measures what the machine does. -/
theorem distance_ofPosition (start : Position α) {point : Point α} (complete : point.isComplete = true) :
    distance (.ofPosition start) point = start.distance (point.resolve start) := by
  obtain ⟨x, y, z, extrude, speed, color⟩ := point
  cases x <;> cases y <;> cases z <;> first | rfl | cases complete

/-- A point that leaves no axis open can be put where it is. -/
theorem pathLength_resolve {point : Point α} (complete : point.isComplete = true) (before : Position α)
    (rest : List (Point α)) :
    pathLength (.ofPosition (point.resolve before) :: rest) = pathLength (point :: rest) := by
  have same (next : Point α) : distance (.ofPosition (point.resolve before)) next = distance point next := by
    obtain ⟨x, y, z, extrude, speed, color⟩ := point
    cases x <;> cases y <;> cases z <;> first | rfl | cases complete
  cases rest with
  | nil => rfl
  | cons next rest =>
    unfold pathLength legs
    rw [same]

end Geometry

section Exact

variable {K : Type} [Field K] [LinearOrder K] [IsStrictOrderedRing K] {functions : Scalar.Functions K}

namespace FeedAxis

theorem sum_feeds {area factor : K} {axis : FeedAxis K} {emissions : List (Emission K)}
    (spend : ∀ entry ∈ @trace K (Scalar.exact functions) axis emissions,
      @Spends K (Scalar.exact functions) area factor entry) :
    (@feeds K (Scalar.exact functions) axis emissions).sum =
      area * (@Motion.ways K (Scalar.exact functions) emissions).sum * factor := by
  let _ := Scalar.exact functions
  have zero : (0.0 : K) = 0 := by norm_num
  induction emissions generalizing axis with
  | nil =>
    show (0 : K) = area * 0 * factor
    ring
  | cons emission rest ih =>
    obtain ⟨here, later⟩ := List.forall_mem_cons.mp spend
    have ways : Motion.ways (emission :: rest) =
      emission.action.way?.toList ++ Motion.ways rest := Motion.filterMap_moves_cons _ emission rest
    rw [feeds_cons, ways, List.sum_cons, List.sum_append, ih later, here.feed]
    cases emission.action.way? with
    | none =>
      show (0.0 : K) + _ = area * (0 + _) * factor
      rw [zero]
      ring
    | some way =>
      show area * way * factor + _ = area * ((way + 0) + _) * factor
      ring

omit [IsStrictOrderedRing K] in
theorem place_driven (axis : FeedAxis K) (written : K) :
    (@driven K (Scalar.exact functions) axis written).place =
      axis.place + @fed K (Scalar.exact functions) axis written := by
  let _ := Scalar.exact functions
  obtain ⟨relative, place⟩ := axis
  cases relative with
  | true => rfl
  | false => exact (add_sub_cancel place written).symm

/-- The axis goes as far as it is fed, unless it is set to zero. -/
theorem place_take (axis : FeedAxis K) {action : Action K} (kept : action ≠ .announced false) :
    (@take K (Scalar.exact functions) axis action).place =
      axis.place + @feed K (Scalar.exact functions) axis action := by
  let _ := Scalar.exact functions
  have still : axis.place = axis.place + 0.0 := by
    have zero : (0.0 : K) = 0 := by norm_num
    rw [zero, add_zero]
  cases action with
  | announced relative =>
    cases relative with
    | true => exact still
    | false => exact absurd rfl kept
  | extruded written speed => exact axis.place_driven written
  | move move =>
    obtain ⟨kind, start, target, form, feed, speed⟩ := move
    cases feed with
    | none => exact still
    | some written => exact axis.place_driven written
  | toggled | instruction | comment | fan | hotend | bed | marker => exact still

theorem place_replay {axis : FeedAxis K} {emissions : List (Emission K)}
    (kept : ∀ emission ∈ emissions, emission.action ≠ .announced false) :
    (@replay K (Scalar.exact functions) axis emissions).place =
      axis.place + (@feeds K (Scalar.exact functions) axis emissions).sum := by
  let _ := Scalar.exact functions
  induction emissions generalizing axis with
  | nil => exact (add_zero axis.place).symm
  | cons emission rest ih =>
    obtain ⟨here, later⟩ := List.forall_mem_cons.mp kept
    rw [feeds_cons, List.sum_cons, ← add_assoc, ← axis.place_take here]
    exact ih later

end FeedAxis

theorem Geometry.pathLength_cons_cons (p q : Point K) (rest : List (Point K)) :
    @pathLength K (Scalar.exact functions) (p :: q :: rest) =
      @distance K (Scalar.exact functions) p q + @pathLength K (Scalar.exact functions) (q :: rest) := by
  let _ := Scalar.exact functions
  have sum (points : List (Point K)) : pathLength points = (legs points).sum := by
    have zero : (-0.0 : K) = 0 := by norm_num
    rw [List.sum_eq_foldl, ← zero]
    rfl
  rw [sum, sum, legs, List.sum_cons]

omit [IsStrictOrderedRing K] in
theorem Position.distance_self (root : functions.sqrt 0 = 0) (place : Position K) :
    @Position.distance K (Scalar.exact functions) place place = 0 := by
  show functions.sqrt ((place.x - place.x) * (place.x - place.x) + (place.y - place.y) * (place.y - place.y) +
    (place.z - place.z) * (place.z - place.z)) = 0
  simpa using root

namespace Tool

omit [IsStrictOrderedRing K] in
/-- There is no move on the spot, where the way is zero. -/
theorem sum_reach (root : functions.sqrt 0 = 0) (start : Position K) (point : Point K) :
    letI := Scalar.exact functions
    ((reach? ⟨some start, true⟩ point).toList.filterMap Leg.way?).sum =
      start.distance (point.resolve start) := by
  let _ := Scalar.exact functions
  have discerning : Scalar.Discerning K := Scalar.exact_discerning functions
  dsimp only [reach?]
  by_cases same : (point.resolve start == start) = true
  · have stays := Position.eq_of_exact_alike (Position.Alike.of_beq same)
    rw [if_pos same, stays]
    exact (Position.distance_self root start).symm
  · rw [if_neg same]
    exact add_zero (start.distance (point.resolve start))

/-- One more point is as far as the move to it is long. -/
theorem sum_next (root : functions.sqrt 0 = 0) {tool : Tool K} {point : Point K}
    (on : (tool.switched (.point point)).on = true) (complete : point.isComplete = true)
    (rest : List (Point K)) :
    letI := Scalar.exact functions
    ((tool.next? (.point point)).toList.filterMap Leg.way?).sum +
        Geometry.pathLength ((tool.visit (.point point)).place.toList.map Point.ofPosition ++ rest) =
      Geometry.pathLength (tool.place.toList.map Point.ofPosition ++ point :: rest) := by
  let _ := Scalar.exact functions
  obtain ⟨place, before⟩ := tool
  cases place with
  | none =>
    exact (zero_add (Geometry.pathLength (.ofPosition (point.resolve .origin) :: rest))).trans
      (Geometry.pathLength_resolve complete .origin rest)
  | some start =>
    have asks : next? ⟨some start, before⟩ (.point point) = reach? ⟨some start, true⟩ point :=
      congrArg (fun on => reach? ⟨some start, on⟩ point) on
    rw [asks, sum_reach root, ← Geometry.distance_ofPosition start complete]
    show _ + Geometry.pathLength (.ofPosition (point.resolve start) :: rest) =
      Geometry.pathLength (.ofPosition start :: point :: rest)
    rw [Geometry.pathLength_resolve complete, Geometry.pathLength_cons_cons]

/-- The moves that a tool prints for elements are together as long as the path from where it is through
their points. -/
theorem sum_ask (root : functions.sqrt 0 = 0) {tool : Tool K} (on : tool.on = true)
    {elements : List (Element K)} (keeps : ∀ element ∈ elements, element.KeepsPrinting)
    (complete : ∀ point ∈ Element.points elements, point.isComplete = true) :
    letI := Scalar.exact functions
    ((tool.ask elements).filterMap Leg.way?).sum =
      Geometry.pathLength (tool.place.toList.map Point.ofPosition ++ Element.points elements) := by
  let _ := Scalar.exact functions
  induction elements generalizing tool with
  | nil =>
    have zero : (-0.0 : K) = 0 := by norm_num
    obtain ⟨place, on⟩ := tool
    cases place <;> exact zero.symm
  | cons element rest ih =>
    obtain ⟨keepsHere, keepsLater⟩ := List.forall_mem_cons.mp keeps
    have onLater := keepsHere.visit_on on
    rw [Tool.ask, List.filterMap_append, List.sum_append]
    cases isPoint : element.point? with
    | none =>
      have points : Element.points (element :: rest) = Element.points rest :=
        List.filterMap_cons_none isPoint
      have still : (tool.visit element).place = tool.place := by
        unfold Tool.visit
        rw [isPoint]
        rfl
      have none : tool.next? element = none := by
        unfold Tool.next?
        rw [isPoint]
        rfl
      rw [points] at complete ⊢
      rw [ih onLater keepsLater complete, still, none]
      exact zero_add _
    | some point =>
      obtain rfl := Element.eq_of_point? isPoint
      have completes : ∀ other ∈ point :: Element.points rest, other.isComplete = true := complete
      obtain ⟨here, later⟩ := List.forall_mem_cons.mp completes
      rw [ih onLater keepsLater later]
      exact sum_next root (keepsHere.switched_on on) here (Element.points rest)

end Tool

/-- The way from where the tool is to the first point adds nothing if the tool is there. -/
theorem Geometry.pathLength_placed (root : functions.sqrt 0 = 0) {place : Option (Position K)}
    {points : List (Point K)} (complete : ∀ point ∈ points, point.isComplete = true)
    (starts : letI := Scalar.exact functions
      ∀ first ∈ points.head?, place = none ∨ place = some (first.resolve .origin)) :
    letI := Scalar.exact functions
    pathLength (place.toList.map Point.ofPosition ++ points) = pathLength points := by
  let _ := Scalar.exact functions
  cases points with
  | nil => cases place <;> rfl
  | cons first rest =>
    have here : first.isComplete = true := complete first List.mem_cons_self
    rcases starts first rfl with rfl | rfl
    · rfl
    · have far := distance_ofPosition (first.resolve .origin) here
      rw [Point.resolve_of_isComplete here (first.resolve .origin) .origin,
        Position.distance_self root] at far
      show pathLength (.ofPosition (first.resolve .origin) :: first :: rest) = _
      rw [pathLength_cons_cons, far, zero_add]

namespace Motion

/-- Geometry and machine measure one path. From where the extruder is on with a bead and a filament that
are good, elements that keep printing are walked to their end. If their points leave no axis open, and
the first of them is where the tool is or the first of all, then the moves that extrude are together as
long as the path through the points, what they extrude is this length times the area of the bead, and
what the axis is fed is that times the feed for a volume, whatever the mode of the axis and however
often a point is repeated. All of it is handed over, whatever comes behind. -/
theorem prints_measure (root : functions.sqrt 0 = 0) (commands : CommandTable) :
    letI := Scalar.exact functions
    ∀ (initialization : Initialization K) (before printed : List (Element K)) (earlier : Run K)
      (area factor : K),
      walk commands .initial (script initialization before) = .ok earlier →
      earlier.machine.Prints area factor →
      (∀ element ∈ printed, element.KeepsPrinting) →
      (∀ point ∈ Element.points printed, point.isComplete = true) →
      (∀ first ∈ (Element.points printed).head?, earlier.machine.position = none ∨
        earlier.machine.position = some (first.resolve .origin)) →
      ∃ here, walk commands earlier.machine (printed.zipIdx before.length) = .ok here ∧
        (lengths here.emissions).sum = Geometry.pathLength (Element.points printed) ∧
        (volumes here.emissions).sum = area * Geometry.pathLength (Element.points printed) ∧
        ((FeedAxis.initial.replay earlier.emissions).feeds here.emissions).sum =
          area * Geometry.pathLength (Element.points printed) * factor ∧
        ((∀ emission ∈ here.emissions, emission.action ≠ .announced false) →
          here.machine.extruder.total = earlier.machine.extruder.total +
            area * Geometry.pathLength (Element.points printed) * factor) ∧
        ∀ after, ∃ later,
          delivered commands .initial (script initialization (before ++ (printed ++ after))) =
            earlier.emissions ++ (here.emissions ++ later) := by
  let _ := Scalar.exact functions
  have cancels : Scalar.Cancels K := Scalar.exact_cancels functions
  intro initialization before printed earlier area factor reached prints keeps complete starts
  have numbered : (printed.zipIdx before.length).map Prod.fst = printed := List.zipIdx_map_fst ..
  have keepsNumbered : ∀ here ∈ printed.zipIdx before.length, here.1.KeepsPrinting := by
    intro here member
    exact keeps here.1 (numbered ▸ List.mem_map_of_mem member)
  obtain ⟨here, walked, printsAll⟩ := prints.exists_walk commands keepsNumbered
  have follows := (FeedAxis.initial_follows.course (walk_course reached)).1
  obtain ⟨followsHere, honors⟩ := follows.course (walk_course walked)
  -- Every change is made by an element that keeps printing, so no emission feeds for anything but a way.
  have spend : ∀ entry ∈ (FeedAxis.initial.replay earlier.emissions).trace here.emissions,
      FeedAxis.Spends area factor entry := by
    intro entry member
    obtain ⟨element, among, honored⟩ := honors entry member
    rw [numbered] at among
    exact honored.spends (keeps element among)
      (printsAll entry.2 (FeedAxis.mem_of_mem_trace member))
  have sum : (ways here.emissions).sum = Geometry.pathLength (Element.points printed) := by
    rw [ways_eq (walk_asked walked), numbered, Tool.sum_ask root prints.on keeps complete]
    exact Geometry.pathLength_placed root complete starts
  obtain ⟨lengthsAre, volumesAre⟩ := FeedAxis.lengths_eq_ways spend
  have fed := FeedAxis.sum_feeds spend
  rw [sum] at fed
  refine ⟨here, walked, ?_, ?_, fed, ?_, ?_⟩
  · rw [lengthsAre, sum]
  · rw [volumesAre, List.sum_map_mul_left, List.map_id', sum]
  · intro kept
    rw [← follows.place, ← followsHere.place, FeedAxis.place_replay kept, fed]
  · intro after
    refine ⟨delivered commands here.machine (after.zipIdx (before.length + printed.length)), ?_⟩
    rw [script_append, delivered_append reached, List.zipIdx_append, delivered_append walked]

end Motion

end Exact

namespace Motion

/-- A flat bead on a relative axis. -/
def primed : List (Element ℚ) :=
  [.bead { shape := some .rectangle, width := some 1, height := some (1 / 2) },
    .extruder { relative := some true, filament := some 2 }, .event (.toggle true)]

/-- A path with a point that is repeated. -/
def bent : List (Point ℚ) :=
  [.ofPosition ⟨0, 0, 0⟩, .ofPosition ⟨3, 4, 0⟩, .ofPosition ⟨3, 4, 0⟩, .ofPosition ⟨3, 4, 12⟩]

theorem prints_measure_bent :
    letI := Scalar.exact FeedAxis.fractions
    ∃ earlier here, walk .generic .initial (script {} primed) = .ok earlier ∧
      walk .generic earlier.machine ((bent.map Element.point).zipIdx 3) = .ok here ∧
      (lengths here.emissions).sum = 17 ∧ (volumes here.emissions).sum = 17 / 2 ∧
      ((FeedAxis.initial.replay earlier.emissions).feeds here.emissions).sum = 1921 / 710 := by
  let _ := Scalar.exact FeedAxis.fractions
  have walked : (walk .generic .initial (script {} primed)).toOption.map (fun run =>
      (run.machine.tool.on, run.machine.bead.area, run.machine.extruder.feedPerVolume,
        run.machine.position)) = some (true, .ok (1 / 2), .ok (113 / 355), none) := by
    decide +kernel
  obtain ⟨earlier, reached, seen⟩ := exists_run_of_map walked
  simp only [Prod.mk.injEq] at seen
  obtain ⟨on, area, factor, nowhere⟩ := seen
  have keeps : ∀ element ∈ bent.map Element.point, element.KeepsPrinting := by
    intro element member
    obtain ⟨point, among, rfl⟩ := List.mem_map.mp member
    have unswitched : ∀ point ∈ bent, point.extrude = none := by decide +kernel
    refine ⟨?_, rfl, rfl, rfl, fun _ _ same => nomatch same⟩
    show point.extrude ≠ some false
    rw [unswitched point among]
    exact fun same => nomatch same
  have length : Geometry.pathLength (Element.points (bent.map Element.point)) = 17 := by decide +kernel
  have root : FeedAxis.fractions.sqrt 0 = 0 := by decide +kernel
  obtain ⟨here, walkedHere, lengths, volumes, feeds, -⟩ :=
    prints_measure root .generic {} primed (bent.map Element.point) earlier (1 / 2) (113 / 355) reached
      ⟨on, area, factor⟩ keeps (by decide +kernel) fun _ _ => .inl nowhere
  rw [length] at lengths volumes feeds
  refine ⟨earlier, here, reached, walkedHere, lengths, ?_, ?_⟩
  · rw [volumes]
    norm_num
  · rw [feeds]
    norm_num

end Motion

end Toolpath
