import Toolpath.Design.Element

/-!
Designs as trees: a design is a list of steps, and a step is an element or a group of steps.

Groups are for the author alone. `Design.flatten` takes them away, and everything that is done with a
design is done with its flattened form; that the first point found in the tree is the first one of
the flattened form is `Design.firstPoint_eq_findSome?`.
-/

namespace Toolpath

/-- One step of a design. -/
inductive Step (α : Type) where
  | group (steps : List (Step α))
  | element (element : Element α)

/-- A list of steps. -/
abbrev Design (α : Type) := List (Step α)

variable {α : Type}

mutual

/-- The elements of a step in order. -/
def Step.flatten : Step α → List (Element α)
  | .group steps => Design.flatten steps
  | .element element => [element]

/-- The elements of a design in order, groups taken away. -/
def Design.flatten : List (Step α) → List (Element α)
  | [] => []
  | step :: rest => step.flatten ++ Design.flatten rest

end

mutual

/-- The first point in a step. -/
def Step.firstPoint : Step α → Option (Point α)
  | .group steps => Design.firstPoint steps
  | .element element => element.point?

/-- The first point in a design, searched for in the tree. -/
def Design.firstPoint : List (Step α) → Option (Point α)
  | [] => none
  | step :: rest => step.firstPoint <|> Design.firstPoint rest

end

mutual

theorem Step.firstPoint_eq_findSome? (step : Step α) :
    step.firstPoint = step.flatten.findSome? Element.point? := by
  cases step with
  | group steps =>
    rw [Step.firstPoint, Step.flatten]
    exact Design.firstPoint_eq_findSome? steps
  | element element =>
    simp only [Step.firstPoint, Step.flatten, List.findSome?_cons, List.findSome?_nil]
    cases element.point? <;> rfl

theorem Design.firstPoint_eq_findSome? (steps : List (Step α)) :
    Design.firstPoint steps = (Design.flatten steps).findSome? Element.point? := by
  cases steps with
  | nil => simp [Design.firstPoint, Design.flatten]
  | cons step rest =>
    rw [Design.firstPoint, Design.flatten, List.findSome?_append,
      Step.firstPoint_eq_findSome? step, Design.firstPoint_eq_findSome? rest]
    cases (step.flatten.findSome? Element.point?) <;> rfl

end

/-- The design whose steps are so many elements, without groups. -/
def Design.ofElements (elements : List (Element α)) : Design α := elements.map .element

/-- The group of so many points. -/
def Step.ofPoints (points : List (Point α)) : Step α := .group (points.map fun p => .element (.point p))

theorem Design.flatten_append (first second : List (Step α)) :
    Design.flatten (first ++ second) = Design.flatten first ++ Design.flatten second := by
  induction first with
  | nil => simp [Design.flatten]
  | cons step rest ih => simp [Design.flatten, ih]

theorem Design.flatten_ofElements (elements : List (Element α)) :
    Design.flatten (Design.ofElements elements) = elements := by
  induction elements with
  | nil => simp [Design.ofElements, Design.flatten]
  | cons element rest ih =>
    simp only [Design.ofElements, List.map_cons] at ih ⊢
    simp [Design.flatten, Step.flatten, ih]

end Toolpath
