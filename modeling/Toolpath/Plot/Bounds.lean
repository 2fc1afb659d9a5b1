import Toolpath.Point

/-!
The box around some positions.
-/

namespace Toolpath.Plot

variable {α : Type} [Scalar α]

/-- The extent of some positions along one axis. -/
structure Span (α : Type) where
  least : α
  greatest : α
  middle : α
  range : α
deriving DecidableEq, Repr

/-- The box around some positions. -/
structure Box (α : Type) where
  x : Span α
  y : Span α
  z : Span α
deriving DecidableEq, Repr

/-- The extent between two numbers. -/
def Span.between (least greatest : α) : Span α :=
  ⟨least, greatest, (least + greatest) / 2.0, greatest - least⟩

/-- The extent of some numbers, the first of them apart. -/
def Span.around (first : α) (rest : List α) : Span α :=
  between (rest.foldl Scalar.least first) (rest.foldl Scalar.greatest first)

/-- The extent of no number. -/
def Span.zero : Span α := ⟨0.0, 0.0, 0.0, 0.0⟩

/-- The box around some positions; around none it is zero throughout. -/
def Box.around : List (Position α) → Box α
  | [] => ⟨.zero, .zero, .zero⟩
  | first :: rest =>
    ⟨.around first.x (rest.map (·.x)), .around first.y (rest.map (·.y)),
      .around first.z (rest.map (·.z))⟩

end Toolpath.Plot
