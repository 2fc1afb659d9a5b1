import Toolpath.Proofs.Plot.Bounds
import Toolpath.Proofs.Motion.Targets
import Toolpath.Proofs.Motion.FeedAxis
import Toolpath.Proofs.Scalar.FloatLaws

/-!
The box of a plot. On every axis it is as tight as the targets of the moves allow, those of travel that is
hidden and of paths that are left out among them, and everything that is drawn lies in it.
-/

namespace Toolpath

namespace Scalar.IsOrder

variable {α : Type} [Scalar α] {before strictly : α → α → Prop} [DecidableRel strictly]

theorem foldl_foremost (order : IsOrder before strictly) {choose : α → α → α}
    (chooses : ∀ a b, choose a b = if isUndefined b || decide (strictly a b) then a else b)
    (first : α) (rest : List α) : Foremost before (rest.foldl choose first) (first :: rest) := by
  constructor
  -- The first number is any: behind one step it is the one chosen there.
  · induction rest generalizing first with
    | nil => exact List.mem_cons_self
    | cons next rest ih =>
      have chosen : choose first next = first ∨ choose first next = next := by
        rw [chooses]
        split <;> simp
      have later := ih (choose first next)
      rw [List.foldl_cons]
      rw [List.mem_cons] at later
      rw [List.mem_cons, List.mem_cons]
      rcases chosen with same | same <;> rw [same] at later ⊢ <;> tauto
  · refine Plot.foldl_relates order.upTo_refl order.upTo_trans (fun a b => ?_) (fun a b => ?_) first rest
    · rw [chooses]
      exact order.upTo_select.1
    · rw [chooses]
      exact order.upTo_select.2

end Scalar.IsOrder

namespace Plot

open Scalar (Ordered Unsigned Discerning Foremost isUndefined)

variable {α : Type} [Scalar α]

/-- The extent of some numbers and no more: both ends are among them. -/
structure Span.Fits (span : Span α) (numbers : List α) : Prop where
  least_mem : span.least ∈ numbers
  greatest_mem : span.greatest ∈ numbers
  holds : ∀ v ∈ numbers, span.least ≤ v ∧ v ≤ span.greatest
  middle : span.middle = (span.least + span.greatest) / 2.0
  range : span.range = span.greatest - span.least

/-- The same extent, but for the signs of zeros. -/
structure Span.Alike (span other : Span α) : Prop where
  least : Scalar.Alike span.least other.least
  greatest : Scalar.Alike span.greatest other.greatest
  middle : Scalar.Alike span.middle other.middle
  range : Scalar.Alike span.range other.range

/-- Zero throughout. -/
structure Span.IsZero (span : Span α) : Prop where
  least : (span.least == 0.0) = true
  greatest : (span.greatest == 0.0) = true
  middle : (span.middle == 0.0) = true
  range : (span.range == 0.0) = true

/-- As tight around some positions as can be, on every axis. -/
structure Box.Fits (box : Box α) (places : List (Position α)) : Prop where
  x : box.x.Fits (places.map (·.x))
  y : box.y.Fits (places.map (·.y))
  z : box.z.Fits (places.map (·.z))

/-- A position within a box. -/
structure Box.Encloses (box : Box α) (place : Position α) : Prop where
  x : box.x.least ≤ place.x ∧ place.x ≤ box.x.greatest
  y : box.y.least ≤ place.y ∧ place.y ≤ box.y.greatest
  z : box.z.least ≤ place.z ∧ place.z ≤ box.z.greatest

/-- The same box, but for the signs of zeros. -/
structure Box.Alike (box other : Box α) : Prop where
  x : box.x.Alike other.x
  y : box.y.Alike other.y
  z : box.z.Alike other.z

/-- Zero throughout. -/
structure Box.IsZero (box : Box α) : Prop where
  x : box.x.IsZero
  y : box.y.IsZero
  z : box.z.IsZero

namespace Span

variable [Ordered α]

theorem least_foremost (first : α) (rest : List α) :
    Foremost (fun a b => a ≤ b) (around first rest).least (first :: rest) :=
  Ordered.upward.foldl_foremost (fun _ _ => rfl) first rest

theorem greatest_foremost (first : α) (rest : List α) :
    Foremost (fun a b => b ≤ a) (around first rest).greatest (first :: rest) :=
  Ordered.upward.swap.foldl_foremost (fun _ _ => rfl) first rest

theorem around_fits {first : α} {rest : List α} (defined : ∀ v ∈ first :: rest, isUndefined v = false) :
    (around first rest).Fits (first :: rest) := by
  have least := least_foremost first rest
  have greatest := greatest_foremost first rest
  refine ⟨least.mem, greatest.mem, fun v member => ?_, rfl, rfl⟩
  have known : ¬ isUndefined v = true := by
    rw [defined v member]
    exact Bool.false_ne_true
  exact ⟨(least.upTo v member).resolve_left known, (greatest.upTo v member).resolve_left known⟩

/-- The order of the numbers does not matter, be they undefined or infinite. -/
theorem around_alike [Discerning α] [Unsigned α] {first head : α} {rest tail : List α}
    (perm : (first :: rest).Perm (head :: tail)) : (around first rest).Alike (around head tail) := by
  have least : Scalar.Alike (around first rest).least (around head tail).least :=
    Ordered.upward.foremost_alike (least_foremost first rest) (least_foremost head tail) perm
  have greatest : Scalar.Alike (around first rest).greatest (around head tail).greatest :=
    Ordered.upward.swap.foremost_alike (greatest_foremost first rest) (greatest_foremost head tail) perm
  exact ⟨least, greatest, Unsigned.half_alike (Unsigned.add_alike least greatest),
    Unsigned.sub_alike greatest least⟩

theorem Fits.isZero_iff [Unsigned α] {span : Span α} {numbers : List α} (fits : span.Fits numbers) :
    span.IsZero ↔ ∀ v ∈ numbers, (v == 0.0) = true := by
  constructor
  -- Both ends are zeros, so each number is no more and no less than zero.
  · intro zero v member
    obtain ⟨above, below⟩ := fits.holds v member
    have upper := Ordered.upward.trans below (Ordered.upward.of_beq zero.greatest).1
    have lower := Ordered.upward.trans (Ordered.upward.of_beq zero.least).2 above
    exact Ordered.upward.beq upper lower
  · intro zeros
    have atLeast := zeros _ fits.least_mem
    have atGreatest := zeros _ fits.greatest_mem
    have least := Scalar.Alike.of_beq_zero atLeast
    have greatest := Scalar.Alike.of_beq_zero atGreatest
    have sum := (Unsigned.add_alike least greatest).trans (.of_beq_zero Unsigned.add_zero_zero)
    refine ⟨atLeast, atGreatest, ?middle, ?range⟩
    case middle =>
      rw [fits.middle]
      exact (Unsigned.half_alike sum).beq_zero Unsigned.half_zero
    case range =>
      rw [fits.range]
      exact (Unsigned.sub_alike greatest least).beq_zero Unsigned.sub_zero_zero

theorem holds_of_alike {least greatest a b : α} (within : least ≤ a ∧ a ≤ greatest)
    (alike : Scalar.Alike a b) : least ≤ b ∧ b ≤ greatest := by
  rcases alike with rfl | ⟨left, right⟩
  · exact within
  · have up := Ordered.upward.trans (Ordered.upward.of_beq left).1 (Ordered.upward.of_beq right).2
    have down := Ordered.upward.trans (Ordered.upward.of_beq right).1 (Ordered.upward.of_beq left).2
    exact ⟨Ordered.upward.trans within.1 up, Ordered.upward.trans down within.2⟩

omit [Ordered α] in
theorem Alike.refl (span : Span α) : span.Alike span := ⟨.refl _, .refl _, .refl _, .refl _⟩

end Span

namespace Box

theorem Fits.encloses {box : Box α} {places : List (Position α)} {place : Position α}
    (fits : box.Fits places) (member : place ∈ places) : box.Encloses place :=
  ⟨fits.x.holds _ (List.mem_map_of_mem member), fits.y.holds _ (List.mem_map_of_mem member),
    fits.z.holds _ (List.mem_map_of_mem member)⟩

variable [Ordered α]

theorem Encloses.of_alike {box : Box α} {place other : Position α} (encloses : box.Encloses place)
    (alike : place.Alike other) : box.Encloses other :=
  ⟨Span.holds_of_alike encloses.x alike.x, Span.holds_of_alike encloses.y alike.y,
    Span.holds_of_alike encloses.z alike.z⟩

theorem around_fits {places : List (Position α)} (some : places ≠ [])
    (defined : ∀ place ∈ places, place.IsDefined) : (around places).Fits places := by
  cases places with
  | nil => exact absurd rfl some
  | cons first rest =>
    have onAxis (axis : Position α → α) (known : ∀ place ∈ first :: rest, isUndefined (axis place) = false) :
        (Span.around (axis first) (rest.map axis)).Fits (axis first :: rest.map axis) :=
      Span.around_fits (List.forall_mem_map (l := first :: rest) |>.mpr known)
    exact ⟨onAxis (·.x) fun place member => (defined place member).x,
      onAxis (·.y) fun place member => (defined place member).y,
      onAxis (·.z) fun place member => (defined place member).z⟩

/-- The box around some positions does not depend on their order. -/
theorem around_alike [Discerning α] [Unsigned α] {places others : List (Position α)}
    (perm : places.Perm others) : (around places).Alike (around others) := by
  cases places with
  | nil =>
    obtain rfl := perm.nil_eq
    exact ⟨.refl _, .refl _, .refl _⟩
  | cons first rest =>
    cases others with
    | nil => exact absurd perm.eq_nil (List.cons_ne_nil _ _)
    | cons head tail =>
      have onAxis (axis : Position α → α) :
          (Span.around (axis first) (rest.map axis)).Alike (Span.around (axis head) (tail.map axis)) :=
        Span.around_alike (perm.map axis)
      exact ⟨onAxis (·.x), onAxis (·.y), onAxis (·.z)⟩

theorem Fits.isZero_iff [Unsigned α] {box : Box α} {places : List (Position α)} (fits : box.Fits places) :
    box.IsZero ↔ ∀ place ∈ places, (place == .origin) = true := by
  have origin (place : Position α) : (place == .origin) = true ↔
      (place.x == 0.0) = true ∧ (place.y == 0.0) = true ∧ (place.z == 0.0) = true := by
    show (place.x == 0.0 && place.y == 0.0 && place.z == 0.0) = true ↔ _
    rw [Bool.and_eq_true, Bool.and_eq_true, and_assoc]
  have onAxes : box.IsZero ↔ box.x.IsZero ∧ box.y.IsZero ∧ box.z.IsZero :=
    ⟨fun zero => ⟨zero.x, zero.y, zero.z⟩, fun ⟨x, y, z⟩ => ⟨x, y, z⟩⟩
  simp only [onAxes, fits.x.isZero_iff, fits.y.isZero_iff, fits.z.isZero_iff, List.forall_mem_map, origin]
  exact ⟨fun ⟨x, y, z⟩ place member => ⟨x place member, y place member, z place member⟩,
    fun all => ⟨fun p m => (all p m).1, fun p m => (all p m).2.1, fun p m => (all p m).2.2⟩⟩

theorem around_nil_isZero : (around ([] : List (Position α))).IsZero := by
  have zero : ((0.0 : α) == 0.0) = true := Scalar.beq_self_of_defined Scalar.isUndefined_zero
  exact ⟨⟨zero, zero, zero, zero⟩, ⟨zero, zero, zero, zero⟩, ⟨zero, zero, zero, zero⟩⟩

end Box

namespace Sketch

theorem take_visited (sketch : Sketch α) (emission : Emission α) : (sketch.take emission).visited =
    (emission.action.move?.map (·.target)).toList ++ sketch.visited := by
  obtain ⟨action, machine⟩ := emission
  cases action with
  | move move =>
    show (sketch.visit move.target machine).visited = move.target :: sketch.visited
    unfold visit
    split <;> rfl
  | toggled on =>
    show (if machine.position.isSome then sketch.branch machine else sketch).visited = _
    split <;> rfl
  | marker | announced | extruded | instruction | comment | fan | hotend | bed => rfl

theorem foldl_visited (sketch : Sketch α) (emissions : List (Emission α)) :
    (emissions.foldl take sketch).visited =
      ((Motion.moves emissions).map (·.target)).reverse ++ sketch.visited := by
  induction emissions generalizing sketch with
  | nil => rfl
  | cons emission rest ih =>
    rw [List.foldl_cons, ih, take_visited, Motion.moves_cons]
    cases emission.action.move? <;> simp

/-- The box is the one around the targets of all moves, in their order. -/
theorem box_ofEmissions (emissions : List (Emission α)) :
    (ofEmissions emissions).box = .around ((Motion.moves emissions).map (·.target)) := by
  unfold box ofEmissions
  rw [foldl_visited, List.append_nil, List.reverse_reverse]

end Sketch

namespace Drawing

/-- The box of a plot, however it is colored and whether travel is hidden or not. It fits the targets of all
moves, the one to the first point among them; it encloses every vertex that is drawn; it is zero throughout
just if there is no point or no move leads away from the origin. And the box around any places does not
depend on their order. Floats and exact numbers both have the laws that this takes. -/
theorem ofDesign_box [Discerning α] [Ordered α] [Unsigned α] {style : Style} {commands : CommandTable}
    {initialization : Initialization α} {design : Design α} {plot : Transformed α (Drawing α)}
    (ok : ofDesign style commands initialization design = .ok plot)
    (finite : ∀ point ∈ Element.points (Design.flatten design), point.IsFinite) :
    (∃ run, Motion.run commands initialization design = .ok run ∧
      (Element.points (Design.flatten design) ≠ [] →
        plot.output.box.Fits ((Motion.moves run.emissions).map (·.target))) ∧
      (∀ path ∈ plot.output.paths, ∀ dot ∈ path.dots, plot.output.box.Encloses dot.position) ∧
      (plot.output.box.IsZero ↔ Element.points (Design.flatten design) = [] ∨
        ∀ move ∈ Motion.moves run.emissions, (move.target == .origin) = true)) ∧
    ∀ places others : List (Position α), places.Perm others →
      (Box.around places).Alike (Box.around others) := by
  obtain ⟨run, walked, rfl⟩ := Motion.render_eq_ok.mp ok
  have means := Motion.runElements_means walked
  have boxed : (Drawing.ofEmissions style run.emissions).box =
      .around ((Motion.moves run.emissions).map (·.target)) := Sketch.box_ofEmissions run.emissions
  have defined : ∀ place ∈ (Motion.moves run.emissions).map (·.target), place.IsDefined :=
    List.forall_mem_map.mpr fun move member =>
      means.isDefined_target (fun point isThere => (finite point isThere).isDefined)
        Scalar.isUndefined_zero member
  have fits (some : Element.points (Design.flatten design) ≠ []) :
      (Drawing.ofEmissions style run.emissions).box.Fits ((Motion.moves run.emissions).map (·.target)) := by
    rw [boxed]
    refine Box.around_fits (fun none => some ?_) defined
    exact means.moves_eq_nil_iff.mp (List.map_eq_nil_iff.mp none)
  refine ⟨⟨run, walked, fits, ?encloses, ?zero⟩, fun _ _ => Box.around_alike⟩
  case encloses =>
    intro path member dot inDots
    obtain ⟨_, -, dots⟩ := exists_of_mem_paths (Motion.run_itinerary walked) member
    obtain ⟨-, place, visited, alike⟩ := dots dot inDots
    have target : place ∈ (Motion.moves run.emissions).map (·.target) := by
      rw [Sketch.ofEmissions, Sketch.foldl_visited, List.append_nil, List.mem_reverse] at visited
      exact visited
    refine ((fits fun pointless => ?_).encloses target).of_alike alike
    rw [means.moves_eq_nil_iff.mpr pointless] at target
    cases target
  case zero =>
    by_cases pointless : Element.points (Design.flatten design) = []
    · refine iff_of_true ?_ (Or.inl pointless)
      show (Drawing.ofEmissions style run.emissions).box.IsZero
      rw [boxed, means.moves_eq_nil_iff.mpr pointless]
      exact Box.around_nil_isZero
    · rw [or_iff_right pointless]
      exact (fits pointless).isZero_iff.trans List.forall_mem_map

/-- Travel over the highest place, a path of one vertex on the way, a zero below zero, and one line. -/
def roaming : List (Element α) :=
  [.bead (.rectangle 0.5 0.25), .point { x := some 4.0, y := some (-0.0), z := some 0.1 },
    .event (.toggle true), .event (.toggle false), .point { y := some 7.0, z := some 2.0 },
    .point { z := some 0.1 }, .event (.toggle true), .point { x := some 1.0 }]

theorem ofDesign_box_roaming :
    let style : Style := { mode := .sequence, hideTravel := true }
    (let design : Design Float := Design.ofElements roaming
    ∃ plot run, ofDesign style .generic {} design = .ok plot ∧ Motion.run .generic {} design = .ok run ∧
      plot.output.box.Fits ((Motion.moves run.emissions).map (·.target)) ∧
      plot.output.box = ⟨⟨1.0, 4.0, 2.5, 3.0⟩, ⟨-0.0, 7.0, 3.5, 7.0⟩, ⟨0.1, 2.0, 1.05, 1.9⟩⟩) ∧
    letI := Scalar.exact FeedAxis.fractions
    let design : Design ℚ := Design.ofElements roaming
    ∃ plot run, ofDesign style .generic {} design = .ok plot ∧ Motion.run .generic {} design = .ok run ∧
      plot.output.box.Fits ((Motion.moves run.emissions).map (·.target)) ∧
      plot.output.box = ⟨⟨1, 4, 5 / 2, 3⟩, ⟨0, 7, 7 / 2, 7⟩, ⟨1 / 10, 2, 21 / 20, 19 / 10⟩⟩ := by
  intro style
  constructor
  · intro design
    have boxed : (Motion.run .generic {} design).toOption.map
        (fun run => (ofEmissions style run.emissions).box) =
          some ⟨⟨1.0, 4.0, 2.5, 3.0⟩, ⟨-0.0, 7.0, 3.5, 7.0⟩, ⟨0.1, 2.0, 1.05, 1.9⟩⟩ := by
      decide +kernel
    have finite : ∀ point ∈ Element.points (Design.flatten design), (∀ v ∈ point.x, v.isFinite = true) ∧
        (∀ v ∈ point.y, v.isFinite = true) ∧ ∀ v ∈ point.z, v.isFinite = true := by
      decide +kernel
    obtain ⟨run, walked, box⟩ := Motion.exists_run_of_map boxed
    have ok : ofDesign style .generic {} design = .ok _ := Motion.render_of_ok walked
    obtain ⟨⟨again, rerun, fits, -⟩, -⟩ := ofDesign_box ok fun point member =>
      ⟨(finite point member).1, (finite point member).2.1, (finite point member).2.2⟩
    exact ⟨_, again, ok, rerun, fits (List.cons_ne_nil _ _), box⟩
  · let _ := Scalar.exact FeedAxis.fractions
    have _ := Scalar.exact_discerning FeedAxis.fractions
    have _ := Scalar.exact_ordered FeedAxis.fractions
    have _ := Scalar.exact_unsigned FeedAxis.fractions
    intro design
    have boxed : (Motion.run .generic {} design).toOption.map
        (fun run => (ofEmissions style run.emissions).box) =
          some ⟨⟨1, 4, 5 / 2, 3⟩, ⟨0, 7, 7 / 2, 7⟩, ⟨1 / 10, 2, 21 / 20, 19 / 10⟩⟩ := by
      decide +kernel
    obtain ⟨run, walked, box⟩ := Motion.exists_run_of_map boxed
    have ok : ofDesign style .generic {} design = .ok _ := Motion.render_of_ok walked
    obtain ⟨⟨again, rerun, fits, -⟩, -⟩ := ofDesign_box ok fun _ _ =>
      ⟨fun _ _ => rfl, fun _ _ => rfl, fun _ _ => rfl⟩
    exact ⟨_, again, ok, rerun, fits (List.cons_ne_nil _ _), box⟩

end Drawing

end Plot

end Toolpath
