import Toolpath.Point

/-!
How the vertices of a plot are colored.
-/

namespace Toolpath.Plot

/-- What the color of a vertex says. -/
inductive ColorMode where
  /-- Its height, from blue to cyan. -/
  | height
  /-- The order of its path, from magenta over blue to cyan. -/
  | sequence
  /-- Its order among all vertices, in five waves. -/
  | waves
  /-- What the points of the design say. -/
  | manual
deriving DecidableEq, Repr

variable {α : Type} [Scalar α]

/-- The color of what is not extruded, unless colors are the design's. -/
def travelColor : Color α := ⟨0.75, 0.5, 0.5⟩

/-- The color before the design has set one. -/
def defaultColor : Color α := ⟨0.0, 0.0, 1.0⟩

/-- A number with three decimals. -/
def roundThousandths (v : α) : α := Scalar.round (v * 1000.0) / 1000.0

/-- The color for a height, over the least height and the range of heights of a design. -/
def heightColor (z least range : α) : Color α :=
  let range := Scalar.greatest range 1e-8
  ⟨0.0, roundThousandths ((z - roundThousandths least) / range), 1.0⟩

/-- The color for one place out of so many. -/
def sequenceColor (place total : Nat) : Color α :=
  let progress : α := Scalar.ofCount place / Scalar.ofCount (max total 1)
  ⟨roundThousandths (0.8 * Scalar.greatest (1.0 - 2.0 * progress) 0.0),
    roundThousandths (Scalar.greatest (2.0 * progress - 1.0) 0.0), 1.0⟩

/-- The color for one place out of so many, in so many waves. -/
def waveColor (place total waves : Nat) : Color α :=
  let cycle : α := Scalar.ofCount (max total 1) / Scalar.ofCount (max waves 1)
  let phase := (Scalar.remainder (Scalar.ofCount place) cycle + 0.00001) / cycle
  ⟨roundThousandths (0.25 + 0.25 * Scalar.sin (phase * Scalar.turn)),
    roundThousandths (0.5 - 0.5 * Scalar.cos (phase * Scalar.turn)), 1.0⟩

end Toolpath.Plot
