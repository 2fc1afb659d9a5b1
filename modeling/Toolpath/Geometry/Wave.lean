import Toolpath.Geometry.Transform

/-!
Square and sine waves along any direction in XY.
-/

namespace Toolpath.Geometry

variable {α : Type} [Scalar α]

/-- One straight piece of a wave: its length and its direction. -/
structure Leg (α : Type) where
  length : α
  angle : α

/-- The ends of pieces put one behind the other. -/
def follow (start : Point α) : List (Leg α) → List (Point α)
  | [] => []
  | leg :: rest =>
    let next := polarOffset start leg.length leg.angle
    next :: follow next rest

/-- The pieces of a square wave: up, along, down for each period, and along in between. -/
def squareLegs (direction amplitude lineSpacing : α) (periods : Nat)
    (extraHalfPeriod extraEndLine : Bool) : List (Leg α) :=
  let up : Leg α := ⟨amplitude, direction + Scalar.quarterTurn⟩
  let along : Leg α := ⟨lineSpacing, direction⟩
  let down : Leg α := ⟨amplitude, direction - Scalar.quarterTurn⟩
  let period (i : Nat) : List (Leg α) :=
    if i + 1 = periods then [up, along, down] else [up, along, down, along]
  (List.range periods).flatMap period ++ (if extraHalfPeriod then [along, up] else [])
    ++ (if extraEndLine then [along] else [])

/-- A square wave from a point. -/
def squareWave (start : Point α) (direction amplitude lineSpacing : α) (periods : UInt64)
    (extraHalfPeriod extraEndLine : Bool) : Except (GeometryError α) (List (Point α)) := do
  requireCount "periods" periods
  requireFinite "direction" direction
  requireFinite "amplitude" amplitude
  requireFinite "line_spacing" lineSpacing
  .ok (start :: follow start
    (squareLegs direction amplitude lineSpacing periods.toNat extraHalfPeriod extraEndLine))

/-- A point of a sine wave along X, so many segments from the start. -/
def sinePoint (start : Point α) (amplitude periodLength phaseShift segmentsPerPeriod : α)
    (segment : Nat) : Point α :=
  let t : α := Scalar.ofCount segment
  let along := t * periodLength / segmentsPerPeriod
  let height := amplitude
    * (0.5 - 0.5 * Scalar.cos ((t / segmentsPerPeriod) * Scalar.turn + phaseShift))
  { x := some (start.x.getD 0.0 + along), y := some (start.y.getD 0.0 + height), z := start.z }

/-- A sine wave from a point, which is a trough of it if the phase is not shifted. The wave along X
is turned into its direction. -/
def sineWave (start : Point α) (direction amplitude periodLength : α)
    (periods segmentsPerPeriod : UInt64) (extraHalfPeriod : Bool) (phaseShift : α) :
    Except (GeometryError α) (List (Point α)) := do
  requireCount "periods" periods
  requireCount "segments_per_period" segmentsPerPeriod
  requireFinite "amplitude" amplitude
  requireFinite "period_length" periodLength
  requireFinite "phase_shift" phaseShift
  let total := periods * segmentsPerPeriod + (if extraHalfPeriod then segmentsPerPeriod / 2 else 0)
  let wave := (List.range (total.toNat + 1)).map
    (sinePoint start amplitude periodLength phaseShift (Scalar.ofCount segmentsPerPeriod.toNat))
  let origin := { start with x := some (start.x.getD 0.0), y := some (start.y.getD 0.0) }
  movePolar wave origin 0.0 direction

end Toolpath.Geometry
