import Toolpath.Design.Step
import Mathlib.Data.List.Basic

/-!
Designs with single elements changed or left out, in whatever group they stand. The groups stay, also
where nothing is left in them.
-/

namespace Toolpath

variable {α : Type}

mutual

/-- The steps that come of a step. -/
def Step.edit (change : Element α → Option (Element α)) : Step α → List (Step α)
  | .group steps => [.group (Design.edit change steps)]
  | .element element => (change element).toList.map .element

/-- A design with every element changed or left out. -/
def Design.edit (change : Element α → Option (Element α)) : List (Step α) → List (Step α)
  | [] => []
  | step :: rest => step.edit change ++ Design.edit change rest

end

mutual

theorem Step.flatten_edit (change : Element α → Option (Element α)) (step : Step α) :
    Design.flatten (step.edit change) = step.flatten.filterMap change := by
  cases step with
  | group steps =>
    rw [Step.edit, Step.flatten, Design.flatten, Step.flatten, Design.flatten, List.append_nil]
    exact Design.flatten_edit change steps
  | element element =>
    rw [Step.edit, Step.flatten]
    cases changed : change element <;> simp [Design.flatten, Step.flatten, changed]

theorem Design.flatten_edit (change : Element α → Option (Element α)) (steps : List (Step α)) :
    Design.flatten (Design.edit change steps) = (Design.flatten steps).filterMap change := by
  cases steps with
  | nil => simp [Design.edit, Design.flatten]
  | cons step rest =>
    rw [Design.edit, Design.flatten_append, Step.flatten_edit change step,
      Design.flatten_edit change rest, Design.flatten, List.filterMap_append]

end

/-- Whether an element is a comment. -/
def Element.isComment : Element α → Bool
  | .event (.comment _ _) => true
  | _ => false

/-- The texts of a comment, in the order in which they are written. -/
def Element.commentary : Element α → List String
  | .event (.comment text note) => note.toList ++ text.toList
  | _ => []

namespace Design

/-- The texts of all comments of a design. -/
def commentary (design : Design α) : List String := (flatten design).flatMap Element.commentary

/-- A design without its comments. -/
def withoutComments (design : Design α) : Design α := edit (Option.guard (!·.isComment)) design

theorem flatten_withoutComments (design : Design α) :
    flatten design.withoutComments = (flatten design).filter (!·.isComment) := by
  rw [withoutComments, flatten_edit, List.filterMap_eq_filter]

/-- A comment is no point, so the first point stays the first one. -/
theorem firstPoint_withoutComments (design : Design α) :
    firstPoint design.withoutComments = firstPoint design := by
  rw [firstPoint_eq_findSome?, firstPoint_eq_findSome?, flatten_withoutComments]
  induction flatten design with
  | nil => rfl
  | cons element rest ih =>
    cases isComment : element.isComment with
    | true =>
      have other : element.point? = none := by
        cases element with
        | event => rfl
        | point | speeds | extruder | bead => cases isComment
      rw [List.filter_cons_of_neg (by simp [isComment]), List.findSome?_cons, other, ih]
    | false =>
      rw [List.filter_cons_of_pos (by simp [isComment]), List.findSome?_cons, List.findSome?_cons,
        ih]

end Design

end Toolpath
