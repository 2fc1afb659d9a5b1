import Toolpath.Proofs.Motion.Itinerary
import Mathlib.Data.List.Forall2

/-!
Strokes: lists of places, each gone through with the extruder in one state. Places that follow one
another in a stroke bound a segment.
-/

namespace Toolpath

variable {α : Type}

/-- The segments between places that follow one another. -/
def Segment.along (on : Bool) : List (Position α) → List (Segment α)
  | start :: target :: rest => ⟨start, target, on⟩ :: along on (target :: rest)
  | _ => []

theorem Segment.along_concat (on : Bool) (places : List (Position α)) (last next : Position α) :
    along on (places ++ [last] ++ [next]) = along on (places ++ [last]) ++ [⟨last, next, on⟩] := by
  induction places with
  | nil => rfl
  | cons first rest ih =>
    cases rest with
    | nil => rfl
    | cons second rest => exact congrArg (⟨first, second, on⟩ :: ·) ih

theorem Segment.on_of_mem_along {on : Bool} {places : List (Position α)} {segment : Segment α}
    (member : segment ∈ along on places) : segment.on = on := by
  induction places with
  | nil => cases member
  | cons start rest ih =>
    cases rest with
    | nil => cases member
    | cons target rest =>
      rcases List.mem_cons.mp member with rfl | later
      · rfl
      · exact ih later

namespace Plot

/-- Places gone through with the extruder in one state. -/
structure Stroke (α : Type) where
  on : Bool
  places : List (Position α)

namespace Stroke

/-- The segments of a stroke. -/
def segments (stroke : Stroke α) : List (Segment α) := Segment.along stroke.on stroke.places

/-- A stroke with a segment. -/
def isLong (stroke : Stroke α) : Bool := decide (1 < stroke.places.length)

theorem segments_of_not_long {stroke : Stroke α} (short : stroke.isLong = false) :
    stroke.segments = [] := by
  obtain ⟨on, places⟩ := stroke
  match places with
  | [] | [_] => rfl
  | _ :: _ :: _ => simp [isLong] at short

/-- Strokes without a segment add none. -/
theorem flatMap_segments_long (strokes : List (Stroke α)) :
    (strokes.filter isLong).flatMap segments = strokes.flatMap segments := by
  induction strokes with
  | nil => rfl
  | cons stroke rest ih =>
    cases long : stroke.isLong with
    | true => rw [List.filter_cons_of_pos long, List.flatMap_cons, List.flatMap_cons, ih]
    | false =>
      rw [List.filter_cons_of_neg (by simp [long]), List.flatMap_cons, ih, segments_of_not_long long,
        List.nil_append]

theorem flatMap_segments_on (strokes : List (Stroke α)) :
    (strokes.filter (·.on)).flatMap segments = (strokes.flatMap segments).filter (·.on) := by
  induction strokes with
  | nil => rfl
  | cons stroke rest ih =>
    have same : ∀ segment ∈ stroke.segments, segment.on = stroke.on := fun _ =>
      Segment.on_of_mem_along
    rw [List.flatMap_cons, List.filter_append, ← ih]
    cases on : stroke.on with
    | true =>
      rw [List.filter_cons_of_pos on, List.flatMap_cons,
        List.filter_eq_self.mpr fun segment member => (same segment member).trans on]
    | false =>
      have none : stroke.segments.filter (·.on) = [] := by
        refine List.filter_eq_nil_iff.mpr fun segment member => ?_
        simp [same segment member, on]
      rw [List.filter_cons_of_neg (by simp [on]), none, List.nil_append]

variable [Scalar α]

/-- A stroke that starts where another ends, but for the signs of zeros. -/
def Joined (stroke next : Stroke α) : Prop :=
  ∃ last ∈ stroke.places.getLast?, ∃ first ∈ next.places.head?, last.Alike first

/-- A stroke of one place may be left out between two others. -/
theorem Joined.through {stroke short next : Stroke α} (first : stroke.Joined short)
    (second : short.Joined next) (isShort : short.isLong = false) : stroke.Joined next := by
  obtain ⟨last, atLast, entry, atEntry, enters⟩ := first
  obtain ⟨exit, atExit, start, atStart, leaves⟩ := second
  have same : entry = exit := by
    obtain ⟨on, places⟩ := short
    match places with
    | [] => cases atEntry
    | [place] => exact (Option.some.inj atEntry).symm.trans (Option.some.inj atExit)
    | _ :: _ :: _ => simp [isLong] at isShort
  subst same
  exact ⟨last, atLast, start, atStart, enters.trans leaves⟩

theorem isChain_cons_filter {stroke : Stroke α} {rest : List (Stroke α)}
    (joined : (stroke :: rest).IsChain Joined) : (stroke :: rest.filter isLong).IsChain Joined := by
  -- The stroke in front is any: where the next one is left out, it has to meet the one behind that.
  induction rest generalizing stroke with
  | nil => exact .singleton _
  | cons next rest ih =>
    obtain ⟨here, later⟩ := List.isChain_cons_cons.mp joined
    cases long : next.isLong with
    | true =>
      rw [List.filter_cons_of_pos long]
      exact .cons_cons here (ih later)
    | false =>
      rw [List.filter_cons_of_neg (by simp [long])]
      refine ih ?_
      cases rest with
      | nil => exact .singleton _
      | cons after rest =>
        obtain ⟨there, further⟩ := List.isChain_cons_cons.mp later
        exact .cons_cons (here.through there long) further

theorem isChain_filter {strokes : List (Stroke α)} (joined : strokes.IsChain Joined) :
    (strokes.filter isLong).IsChain Joined := by
  cases strokes with
  | nil => exact .nil
  | cons stroke rest =>
    have chain := isChain_cons_filter joined
    cases long : stroke.isLong with
    | true => rwa [List.filter_cons_of_pos long]
    | false =>
      rw [List.filter_cons_of_neg (by simp [long])]
      exact chain.of_cons

end Stroke

end Plot

end Toolpath
