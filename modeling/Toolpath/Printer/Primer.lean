import Toolpath.Printer.Flavor

/-!
Primers: what is printed between the starting procedure and a design, so that the nozzle is full when
the design begins. All but the empty one end at the first point of the design with the extruder on.
-/

namespace Toolpath

/-- How the tool comes to the first point. -/
inductive Primer where
  /-- Straight, without printing. -/
  | travel
  /-- Round a box at the front, then along X, last along Y. -/
  | frontLinesThenY
  /-- Round a box at the front, then along Y, last along X. -/
  | frontLinesThenX
  /-- Round a box at the front, then straight. -/
  | frontLinesThenXY
  /-- Along X, then along Y. -/
  | x
  /-- Along Y, then along X. -/
  | y
  | none
deriving DecidableEq, Repr

namespace Primer

open Step

variable {α : Type}

/-- The point that sets X alone. -/
def alongX (first : Point α) : Point α := { x := first.x }

/-- The point that sets Y alone. -/
def alongY (first : Point α) : Point α := { y := first.y }

/-- The point that sets X and Y. -/
def straight (first : Point α) : Point α := { x := first.x, y := first.y }

variable [Scalar α]

/-- A banner, the way to the front corner without printing, and the extruder on. -/
def leadIn (first : Point α) : Design α :=
  [ofRaw (banner "START OF PRIMER PROCEDURE"), ofSwitch false,
    ofPoint { x := some 10.0, y := some 12.0, z := first.z }, ofSwitch true]

/-- The box at the front, one side after the other. -/
def frontBox : List (Point α) :=
  [{ x := some 110.0 }, { y := some 14.0 }, { x := some 10.0 }, { y := some 16.0 }]

/-- What is printed behind the lead-in. -/
def lines (first : Point α) : Primer → Design α
  | .travel => []
  | .frontLinesThenY => [.ofPoints frontBox, .ofPoints [alongX first, alongY first]]
  | .frontLinesThenX => [.ofPoints frontBox, .ofPoints [alongY first, alongX first]]
  | .frontLinesThenXY => [.ofPoints frontBox, ofPoint (straight first)]
  | .x => [.ofPoints [alongX first, alongY first]]
  | .y => [.ofPoints [alongY first, alongX first]]
  | .none => []

/-- The steps that lead to the first point of a design. -/
def steps (primer : Primer) (first : Point α) : Design α :=
  match primer with
  | .none => []
  | .travel => [ofSwitch false, ofPoint first, ofSwitch true]
  | primer => leadIn first ++ primer.lines first ++ [ofRaw (banner "END OF PRIMER PROCEDURE")]

end Primer

end Toolpath
