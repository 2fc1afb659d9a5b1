import Toolpath.Proofs.Motion.Itinerary
import Mathlib.Data.List.Infix

/-!
What a list of elements asks of the tool, said without a machine: an axis is where the last point that
sets it puts it, and the extruder is as the last element that switches it leaves it. One more element
changes this as it changes the tool.
-/

namespace Toolpath

variable {α : Type}

/-- How an element switches the extruder, if it does. -/
def Element.switch? : Element α → Option Bool
  | .point p => p.extrude
  | .event (.toggle on) => some on
  | _ => none

theorem Element.eq_of_point? {element : Element α} {point : Point α}
    (isPoint : element.point? = some point) : element = .point point := by
  cases element with
  | point other => exact congrArg Element.point (Option.some.inj isPoint)
  | speeds | extruder | bead | event => cases isPoint

theorem Element.eq_of_switch? {element : Element α} {on : Bool} (switches : element.switch? = some on)
    (other : element.point? = none) : element = .event (.toggle on) := by
  cases element with
  | point => cases other
  | speeds | extruder | bead => cases switches
  | event event =>
    cases event with
    | toggle => exact congrArg (Element.event <| Event.toggle ·) (Option.some.inj switches)
    | command | raw | comment | extrude | fan | hotend | bed | marker => cases switches

/-- The last value that some of a list give, if one gives any. -/
def lastOf {β γ : Type} (value? : β → Option γ) (list : List β) : Option γ :=
  list.reverse.findSome? value?

theorem lastOf_concat {β γ : Type} (value? : β → Option γ) (list : List β) (last : β) :
    lastOf value? (list ++ [last]) = (value? last <|> lastOf value? list) := by
  unfold lastOf
  rw [List.reverse_append, List.reverse_singleton, List.singleton_append, List.findSome?_cons]
  cases value? last <;> rfl

theorem lastOf_cons {β γ : Type} (value? : β → Option γ) (first : β) (list : List β) :
    lastOf value? (first :: list) = (lastOf value? list).or (value? first) := by
  unfold lastOf
  rw [List.reverse_cons, List.findSome?_append, List.findSome?_singleton]

theorem lastOf_eq_getLast? {β γ : Type} (value? : β → Option γ) (list : List β) :
    lastOf value? list = (list.filterMap value?).getLast? := by
  rw [lastOf, ← List.head?_filterMap, List.filterMap_reverse, List.head?_reverse]

theorem inits_concat {β : Type} (list : List β) (last : β) :
    (list ++ [last]).inits = list.inits ++ [list ++ [last]] := by
  rw [List.inits_append]
  rfl

theorem filterMap_inits_concat {β γ : Type} (value? : List β → Option γ) (list : List β) (last : β) :
    (list ++ [last]).inits.filterMap value? =
      list.inits.filterMap value? ++ (value? (list ++ [last])).toList := by
  rw [inits_concat, List.filterMap_append]
  cases given : value? (list ++ [last]) <;> simp [given]

/-- The points among elements. -/
def Element.points (elements : List (Element α)) : List (Point α) :=
  elements.filterMap Element.point?

theorem Element.points_concat_point (before : List (Element α)) (point : Point α) :
    points (before ++ [.point point]) = points before ++ [point] := by
  unfold points
  rw [List.filterMap_append]
  rfl

theorem Element.points_concat_other {element : Element α} (other : element.point? = none)
    (before : List (Element α)) : points (before ++ [element]) = points before := by
  unfold points
  rw [List.filterMap_append, List.filterMap_cons_none other, List.filterMap_nil, List.append_nil]

/-- A move as the elements ask for it. -/
inductive Leg (α : Type) where
  /-- To the first point. -/
  | origin (place : Position α)
  | travel (start target : Position α)
  | print (start target : Position α)

/-- A move that does what is asked. The one to the first point starts where it ends, and writes
nothing on the extruder axis. -/
def Leg.IsMadeBy : Leg α → Move α → Prop
  | origin place, move =>
    move.kind = .origin ∧ move.start = place ∧ move.target = place ∧ move.feed = none
  | travel start target, move => move.kind = .travel ∧ move.start = start ∧ move.target = target
  | print start target, move =>
    move.kind.isPrint = true ∧ move.start = start ∧ move.target = target

/-- Whether a leg is printed. -/
def Leg.isPrint : Leg α → Bool
  | .print .. => true
  | .origin _ | .travel .. => false

theorem Leg.IsMadeBy.isPrint_eq {leg : Leg α} {move : Move α} (made : leg.IsMadeBy move) :
    move.kind.isPrint = leg.isPrint := by
  cases leg with
  | origin | travel =>
    rw [made.1]
    rfl
  | print => exact made.1

variable [Scalar α]

namespace Position

/-- Where some points put the tool: on every axis the last value set for it, and zero if none is. -/
def after (points : List (Point α)) : Position α :=
  ⟨(lastOf (·.x) points).getD 0.0, (lastOf (·.y) points).getD 0.0,
    (lastOf (·.z) points).getD 0.0⟩

theorem after_concat (points : List (Point α)) (point : Point α) :
    after (points ++ [point]) = point.resolve (after points) := by
  unfold after Point.resolve
  simp only [lastOf_concat]
  congr 1
  · cases point.x <;> rfl
  · cases point.y <;> rfl
  · cases point.z <;> rfl

end Position

namespace Tool

/-- The tool behind some elements: nowhere before the first point. -/
def behind (initialization : Initialization α) (heard : List (Element α)) : Tool α where
  place := match Element.points heard with
    | [] => none
    | first :: rest => some (Position.after (first :: rest))
  on := ((lastOf Element.switch? heard).or initialization.on).getD false

/-- What the last of some elements asks for: a move, if it is a point and the position changes. -/
def leg? (initialization : Initialization α) (heard : List (Element α)) : Option (Leg α) :=
  match heard.getLast? with
  | some (.point _) =>
    let points := Element.points heard
    let target := Position.after points
    let start := Position.after points.dropLast
    if points.length = 1 then some (.origin target)
    else if target == start then none
    else if (behind initialization heard).on then some (.print start target)
    else some (.travel start target)
  | _ => none

/-- The moves that elements ask for, in the order of their points. -/
def legs (initialization : Initialization α) (elements : List (Element α)) : List (Leg α) :=
  elements.inits.filterMap (leg? initialization)

theorem legs_concat (initialization : Initialization α) (before : List (Element α))
    (element : Element α) : legs initialization (before ++ [element]) =
      legs initialization before ++ (leg? initialization (before ++ [element])).toList :=
  filterMap_inits_concat _ before element

theorem behind_place_concat (initialization : Initialization α) (before : List (Element α))
    (point : Point α) : (behind initialization (before ++ [.point point])).place =
      some (point.resolve (Position.after (Element.points before))) := by
  rw [← Position.after_concat, ← Element.points_concat_point]
  unfold behind
  have some : Element.points (before ++ [.point point]) ≠ [] := by
    rw [Element.points_concat_point]
    exact List.append_ne_nil_of_right_ne_nil _ (List.cons_ne_nil _ _)
  cases points : Element.points (before ++ [.point point]) with
  | nil => exact absurd points some
  | cons first rest => rfl

/-- The move to a point with the extruder as it is. -/
def reach? (tool : Tool α) (point : Point α) : Option (Leg α) :=
  match tool.place with
  | none => some (.origin (point.resolve .origin))
  | some start =>
    if point.resolve start == start then none
    else if tool.on then some (.print start (point.resolve start))
    else some (.travel start (point.resolve start))

/-- The tool behind a point, with the extruder as it is. -/
def reach (tool : Tool α) (point : Point α) : Tool α :=
  { tool with place := some (point.resolve (tool.place.getD .origin)) }

/-- The tool as an element switches it. -/
def switched (tool : Tool α) (element : Element α) : Tool α :=
  { tool with on := element.switch?.getD tool.on }

/-- The tool behind one more element. -/
def visit (tool : Tool α) (element : Element α) : Tool α :=
  match element.point? with
  | some point => (tool.switched element).reach point
  | none => tool.switched element

/-- What one more element asks for. -/
def next? (tool : Tool α) (element : Element α) : Option (Leg α) :=
  element.point?.bind (tool.switched element).reach?

theorem behind_on_concat (initialization : Initialization α) (before : List (Element α))
    (element : Element α) : (behind initialization (before ++ [element])).on =
      element.switch?.getD (behind initialization before).on := by
  unfold behind
  simp only [lastOf_concat]
  cases element.switch? <;> rfl

theorem behind_place_getD (initialization : Initialization α) (heard : List (Element α)) :
    (behind initialization heard).place.getD .origin = Position.after (Element.points heard) := by
  unfold behind
  cases Element.points heard <;> rfl

theorem behind_concat (initialization : Initialization α) (before : List (Element α))
    (element : Element α) :
    behind initialization (before ++ [element]) = (behind initialization before).visit element := by
  have switched := behind_on_concat initialization before element
  unfold visit
  cases isPoint : element.point? with
  | some point =>
    obtain rfl := Element.eq_of_point? isPoint
    have place := behind_place_concat initialization before point
    rw [← behind_place_getD initialization before] at place
    exact congrArg₂ Tool.mk place switched
  | none =>
    have place : (behind initialization (before ++ [element])).place =
        (behind initialization before).place := by
      unfold behind
      rw [Element.points_concat_other isPoint]
    exact congrArg₂ Tool.mk place switched

theorem behind_append (initialization : Initialization α) (heard more : List (Element α)) :
    behind initialization (heard ++ more) = more.foldl visit (behind initialization heard) := by
  induction more using List.reverseRecOn with
  | nil => rw [List.append_nil, List.foldl_nil]
  | append_singleton before element ih =>
    rw [← List.append_assoc, behind_concat, ih, List.foldl_concat]

theorem place_behind_append (initialization : Initialization α) (heard : List (Element α))
    {more : List (Element α)} (pointless : ∀ element ∈ more, element.point? = none) :
    (behind initialization (heard ++ more)).place = (behind initialization heard).place := by
  have none : more.filterMap Element.point? = [] := List.filterMap_eq_nil_iff.mpr pointless
  unfold behind Element.points
  rw [List.filterMap_append, none, List.append_nil]

theorem leg?_concat_point (initialization : Initialization α) (before : List (Element α))
    (point : Point α) : leg? initialization (before ++ [.point point]) =
      (behind initialization before).next? (.point point) := by
  have switched := behind_on_concat initialization before (.point point)
  have target := Position.after_concat (Element.points before) point
  unfold leg?
  simp only [List.getLast?_concat, Element.points_concat_point, target, List.dropLast_concat,
    switched]
  cases points : Element.points before with
  | nil =>
    have nowhere : (behind initialization before).place = none := by
      unfold behind
      rw [points]
    simp [next?, Element.point?, reach?, Tool.switched, nowhere, Position.after, lastOf]
    rfl
  | cons first rest =>
    have somewhere : (behind initialization before).place =
        some (Position.after (first :: rest)) := by
      unfold behind
      rw [points]
    simp [next?, Element.point?, reach?, Tool.switched, somewhere]

theorem leg?_concat (initialization : Initialization α) (before : List (Element α))
    (element : Element α) :
    leg? initialization (before ++ [element]) = (behind initialization before).next? element := by
  cases element with
  | point point => exact leg?_concat_point initialization before point
  | speeds | extruder | bead | event =>
    unfold leg?
    rw [List.getLast?_concat]
    rfl

end Tool

end Toolpath
