import Toolpath.Proofs.Geometry.Accepted

/-!
The generators that start from one point: a centre, a corner or the start of a wave. Whatever axes that point
leaves open, every point they make is placed in X and Y, as if the open axes were zero. A square wave alone
also gives back its start, as it is.
-/

namespace Toolpath

variable {α : Type}

/-- Both X and Y are set. -/
def Point.IsPlaced (p : Point α) : Prop := p.x.isSome = true ∧ p.y.isSome = true

/-- Open axes in X and Y set to zero. -/
def Point.grounded [Scalar α] (p : Point α) : Point α :=
  { p with x := some (p.x.getD 0.0), y := some (p.y.getD 0.0) }

namespace Geometry

/-- A generator with all it is called with but for the point it starts from. -/
inductive Generator (α : Type) where
  | arc (radius startAngle totalAngle : α) (segments : UInt64)
  | variableArc (radius startAngle totalAngle : α) (segments : UInt64) (radiusDelta zDelta : α)
  | ellipticalArc (a b startAngle totalAngle : α) (segments : UInt64)
  | polygon (radius startAngle : α) (sides : UInt64) (clockwise : Bool)
  | circle (radius startAngle : α) (segments : UInt64) (clockwise : Bool)
  | ellipse (a b startAngle : α) (segments : UInt64) (clockwise : Bool)
  | helix (startRadius endRadius startAngle turns pitch : α) (perTurn : UInt64) (clockwise : Bool)
  | spiral (startRadius endRadius startAngle turns : α) (perTurn : UInt64) (clockwise : Bool)
  | rectangle (xSize ySize : α) (clockwise : Bool)
  | squareWave (direction amplitude lineSpacing : α) (periods : UInt64)
      (extraHalfPeriod extraEndLine : Bool)
  | sineWave (direction amplitude periodLength : α) (periods perPeriod : UInt64) (extraHalfPeriod : Bool)
      (phaseShift : α)

namespace Generator

/-- How many of its points are the one it starts from, given back as it is. -/
def copied : Generator α → Nat
  | .squareWave .. => 1
  | _ => 0

variable [Scalar α]

/-- The points from a start. -/
def points (generator : Generator α) (start : Point α) : Except (GeometryError α) (List (Point α)) :=
  match generator with
  | .arc radius startAngle totalAngle segments => Geometry.arc start radius startAngle totalAngle segments
  | .variableArc radius startAngle totalAngle segments radiusDelta zDelta =>
    Geometry.variableArc start radius startAngle totalAngle segments radiusDelta zDelta
  | .ellipticalArc a b startAngle totalAngle segments =>
    Geometry.ellipticalArc start a b startAngle totalAngle segments
  | .polygon radius startAngle sides clockwise => Geometry.polygon start radius startAngle sides clockwise
  | .circle radius startAngle segments clockwise =>
    Geometry.circle start radius startAngle segments clockwise
  | .ellipse a b startAngle segments clockwise =>
    Geometry.ellipse start a b startAngle segments clockwise
  | .helix startRadius endRadius startAngle turns pitch perTurn clockwise =>
    Geometry.helix start startRadius endRadius startAngle turns pitch perTurn clockwise
  | .spiral startRadius endRadius startAngle turns perTurn clockwise =>
    Geometry.spiral start startRadius endRadius startAngle turns perTurn clockwise
  | .rectangle xSize ySize clockwise => Geometry.rectangle start xSize ySize clockwise
  | .squareWave direction amplitude lineSpacing periods extraHalfPeriod extraEndLine =>
    Geometry.squareWave start direction amplitude lineSpacing periods extraHalfPeriod extraEndLine
  | .sineWave direction amplitude periodLength periods perPeriod extraHalfPeriod phaseShift =>
    Geometry.sineWave start direction amplitude periodLength periods perPeriod extraHalfPeriod phaseShift

end Generator

/-- What is mapped to placed points is placed. -/
theorem isPlaced_of_map {β : Type} {list : List β} {place : β → Point α} (placed : ∀ b, (place b).IsPlaced) :
    ∀ p ∈ list.map place, p.IsPlaced := by
  intro p member
  obtain ⟨b, -, rfl⟩ := List.mem_map.mp member
  exact placed b

variable [Scalar α] {start : Point α} {points : List (Point α)}

theorem isPlaced_polarOffset (origin : Point α) (radius angle : α) :
    (polarOffset origin radius angle).IsPlaced := ⟨rfl, rfl⟩

theorem arc_isPlaced {radius startAngle totalAngle : α} {segments : UInt64}
    (ok : arc start radius startAngle totalAngle segments = .ok points) : ∀ p ∈ points, p.IsPlaced := by
  obtain ⟨-, -, rfl⟩ := arc_ok_iff.mp ok
  exact isPlaced_of_map fun angle => isPlaced_polarOffset start radius angle

theorem ellipticalArc_isPlaced {a b startAngle totalAngle : α} {segments : UInt64}
    (ok : ellipticalArc start a b startAngle totalAngle segments = .ok points) : ∀ p ∈ points, p.IsPlaced := by
  obtain ⟨-, -, rfl⟩ := ellipticalArc_ok_iff.mp ok
  exact isPlaced_of_map fun angle => ⟨rfl, rfl⟩

theorem variableArc_isPlaced {radius startAngle totalAngle radiusDelta zDelta : α} {segments : UInt64}
    (ok : variableArc start radius startAngle totalAngle segments radiusDelta zDelta = .ok points) :
    ∀ p ∈ points, p.IsPlaced := by
  obtain ⟨-, -, -, rfl⟩ := variableArc_ok_iff.mp ok
  exact isPlaced_of_map fun i => ⟨rfl, rfl⟩

theorem helix_isPlaced {startRadius endRadius startAngle turns pitch : α} {perTurn : UInt64} {clockwise : Bool}
    (ok : helix start startRadius endRadius startAngle turns pitch perTurn clockwise = .ok points) :
    ∀ p ∈ points, p.IsPlaced :=
  variableArc_isPlaced (helix_ok_iff.mp ok).2.2

theorem follow_isPlaced (start : Point α) (legs : List (Leg α)) : ∀ p ∈ follow start legs, p.IsPlaced := by
  induction legs generalizing start with
  | nil => exact fun _ member => nomatch member
  | cons leg rest ih => exact List.forall_mem_cons.mpr ⟨⟨rfl, rfl⟩, ih _⟩

theorem follow_grounded (start : Point α) (legs : List (Leg α)) :
    follow start.grounded legs = follow start legs := by
  cases legs <;> rfl

namespace Generator

variable {generator : Generator α}

/-- A generator places every point it makes, and gives back its start only as it is. -/
theorem points_split (ok : generator.points start = .ok points) :
    points.take generator.copied = List.replicate generator.copied start ∧
      ∀ p ∈ points.drop generator.copied, p.IsPlaced := by
  cases generator with
  | arc | circle => exact ⟨rfl, arc_isPlaced ok⟩
  | polygon => exact ⟨rfl, arc_isPlaced (polygon_ok_iff.mp ok)⟩
  | ellipticalArc | ellipse => exact ⟨rfl, ellipticalArc_isPlaced ok⟩
  | variableArc => exact ⟨rfl, variableArc_isPlaced ok⟩
  | helix | spiral => exact ⟨rfl, helix_isPlaced ok⟩
  | rectangle =>
    obtain ⟨-, rfl⟩ := rectangle_ok_iff.mp ok
    exact ⟨rfl, isPlaced_of_map fun _ => ⟨rfl, rfl⟩⟩
  | squareWave =>
    obtain ⟨-, -, rfl⟩ := squareWave_ok_iff.mp ok
    exact ⟨rfl, follow_isPlaced start _⟩
  | sineWave =>
    obtain ⟨-, -, -, rfl⟩ := sineWave_ok_iff.mp ok
    exact ⟨rfl, isPlaced_of_map fun _ => isPlaced_polarOffset start _ _⟩

/-- Open axes of the start count as zero. -/
theorem points_grounded (ok : generator.points start = .ok points) : generator.points start.grounded =
    .ok (List.replicate generator.copied start.grounded ++ points.drop generator.copied) := by
  cases generator with
  | squareWave =>
    obtain ⟨some, finite, rfl⟩ := squareWave_ok_iff.mp ok
    refine squareWave_ok_iff.mpr ⟨some, finite, ?_⟩
    rw [follow_grounded]
    rfl
  | arc | circle | polygon | ellipticalArc | ellipse | variableArc | helix | spiral | rectangle | sineWave =>
    exact ok

/-- All points are placed just if those given back are. -/
theorem forall_isPlaced_iff (ok : generator.points start = .ok points) :
    (∀ p ∈ points, p.IsPlaced) ↔ generator.copied = 0 ∨ start.IsPlaced := by
  obtain ⟨copies, made⟩ := points_split ok
  rw [← List.take_append_drop generator.copied points, List.forall_mem_append, and_iff_left made, copies]
  simp only [List.mem_replicate, and_imp]
  constructor
  · intro placed
    by_cases none : generator.copied = 0
    · exact .inl none
    · exact .inr (placed start none rfl)
  · rintro (none | placed) p some rfl
    · exact absurd none some
    · exact placed

end Generator

end Geometry

end Toolpath
