import Toolpath.Proofs.Geometry.Helix

/-!
Arcs of circles, drawn by three generators. In exact arithmetic an ellipse with equal half axes is a circle, and
so is an arc that does not drift, whatever axes the centre leaves open; what one of them refuses the others
refuse. They differ for one count only: one more than the greatest word is zero, and of no points an arc still
has the first.
-/

namespace Toolpath.Geometry

open Scalar (Functions widened widened_zero widened_add_finite)

variable {K : Type} [Field K] [LinearOrder K] (functions : Functions K)

theorem widened_add_comm (v w : Widened K) :
    let _ := widened functions
    v + w = w + v := by
  cases v with
  | finite v =>
    cases w with
    | finite w => exact congrArg Widened.finite (add_comm v w)
    | beyond => rfl
  | beyond => cases w <;> rfl

/-- A point of an ellipse with equal half axes is one of a circle. -/
theorem ellipsePoint_circle (centre : Point (Widened K)) (radius angle : Widened K) :
    let _ := widened functions
    ellipsePoint centre radius radius angle = polarOffset centre radius angle := by
  intro _
  unfold ellipsePoint polarOffset
  rw [widened_add_comm functions (radius * Scalar.cos angle), widened_add_comm functions (radius * Scalar.sin angle)]

/-- A point that has not risen is one of a circle. -/
theorem driftPoint_level (centre : Point (Widened K)) (radius angle : Widened K) :
    let _ := widened functions
    driftPoint centre radius angle (.finite 0) = polarOffset centre radius angle := by
  intro _
  have level (height : Widened K) : height + .finite 0 = height := by
    rw [widened_add_finite]
    cases height with
    | finite v => exact congrArg Widened.finite (add_zero v)
    | beyond => rfl
  unfold driftPoint
  simp only [level, Option.map_id']
  rfl

variable [IsStrictOrderedRing K] {centre : Point (Widened K)} {radius startAngle totalAngle : Widened K}
  {segments : UInt64}

omit [IsStrictOrderedRing K] in
theorem ellipticalArc_circle (points : List (Point (Widened K))) :
    let _ := widened functions
    ellipticalArc centre radius radius startAngle totalAngle segments = .ok points ↔
      arc centre radius startAngle totalAngle segments = .ok points := by
  intro _
  have circle : ellipsePoint centre radius radius = polarOffset centre radius :=
    funext fun angle => ellipsePoint_circle functions centre radius angle
  rw [ellipticalArc_ok_iff, arc_ok_iff, circle]
  simp only [List.forall_mem_cons, and_self_left]

/-- What does not drift is drawn like a circle, if its points can be counted; else it has none. -/
theorem driftPoints_still (r : K) (one : 1 ≤ segments) :
    let _ := widened functions
    driftPoints centre (.finite r) startAngle totalAngle segments (.finite 0) (.finite 0) =
      if segments.toNat + 1 < 2 ^ 64 then
        (spaced startAngle (startAngle + totalAngle) (segments + 1)).map (polarOffset centre (.finite r))
      else [] := by
  intro _
  unfold driftPoints
  split
  · rename_i room
    rw [spaced_next _ _ one room, toNat_add_one room, List.map_map]
    refine List.map_congr_left fun i _ => ?_
    have radius : share (.finite r) (.finite r + .finite 0) segments i = Widened.finite r := by
      refine (Coil.share_finite functions _ _ segments i).trans (congrArg Widened.finite ?_)
      rw [add_sub_cancel_left, mul_zero, add_zero]
    have rise : share 0.0 (.finite 0) segments i = Widened.finite (0 : K) := by
      rw [widened_zero]
      refine (Coil.share_finite functions _ _ segments i).trans (congrArg Widened.finite ?_)
      rw [sub_zero, mul_zero, add_zero]
    rw [radius, rise]
    exact driftPoint_level functions centre (.finite r) _
  · rename_i full
    rw [add_one_eq_zero full]
    rfl

/-- An arc that does not drift is refused where a circle is. -/
theorem variableArc_still (drawn : List (Point (Widened K))) :
    let _ := widened functions
    variableArc centre radius startAngle totalAngle segments (.finite 0) (.finite 0) = .ok drawn ↔
      ∃ points, arc centre radius startAngle totalAngle segments = .ok points ∧
        (if segments.toNat + 1 < 2 ^ 64 then points else []) = drawn := by
  intro _
  have known (finite : Scalar.isFinite radius = true) : ∃ r, radius = .finite r := by
    cases radius with
    | finite r => exact ⟨r, rfl⟩
    | beyond => cases finite
  constructor
  · intro ok
    obtain ⟨one, finite, -, rfl⟩ := variableArc_ok_iff.mp ok
    obtain ⟨finite, -⟩ := (@List.forall_mem_append _ _ [radius, startAngle, totalAngle] _).mp finite
    obtain ⟨r, rfl⟩ := known (finite _ List.mem_cons_self)
    exact ⟨_, arc_ok_iff.mpr ⟨one, finite, rfl⟩, (driftPoints_still functions r one).symm⟩
  · rintro ⟨points, ok, rfl⟩
    obtain ⟨one, finite, rfl⟩ := arc_ok_iff.mp ok
    obtain ⟨r, rfl⟩ := known (finite _ List.mem_cons_self)
    have all := List.forall_mem_append.mpr ⟨finite, Scalar.widened_isFinite functions [0, 0]⟩
    have level : ¬ (Widened.finite (0 : K) != 0.0) = true := by
      rw [widened_zero]
      show ¬ (!decide ((0 : K) = 0)) = true
      simp
    exact variableArc_ok_iff.mpr ⟨one, all, fun rises => absurd rises level, driftPoints_still functions r one⟩

omit [IsStrictOrderedRing K] in
/-- An arc that is drawn has points, also if they cannot be counted. -/
theorem arc_ne_nil {points : List (Point (Widened K))}
    (ok : @arc _ (widened functions) centre radius startAngle totalAngle segments = .ok points) : points ≠ [] := by
  let _ := widened functions
  obtain ⟨-, -, rfl⟩ := arc_ok_iff.mp ok
  refine List.ne_nil_of_length_pos ?_
  rw [List.length_map, length_spaced]
  exact Nat.lt_of_lt_of_le Nat.one_pos (le_max_left _ _)

omit [IsStrictOrderedRing K] in
theorem arc_refused_iff :
    (@arc _ (widened functions) centre radius startAngle totalAngle segments).toOption = none ↔
      segments = 0 ∨ .beyond ∈ [radius, startAngle, totalAngle] := by
  let _ := widened functions
  have finite (v : Widened K) : Scalar.isFinite v = true ↔ v ≠ .beyond := by
    cases v with
    | finite v => exact iff_of_true rfl nofun
    | beyond => exact iff_of_false nofun (fun differs => differs rfl)
  have counted : 1 ≤ segments ↔ segments ≠ 0 := by
    rw [UInt64.le_iff_toNat_le, ← UInt64.toNat_inj.ne]
    exact Nat.one_le_iff_ne_zero
  rw [← not_iff_not, ← Ne, Option.ne_none_iff_exists', not_or]
  simp only [toOption_eq_some, arc_ok_iff, counted, finite]
  constructor
  · rintro ⟨points, some, known, -⟩
    exact ⟨some, fun member => known _ member rfl⟩
  · rintro ⟨some, known⟩
    exact ⟨_, some, fun v member same => known (same ▸ member), rfl⟩

/-- In exact arithmetic, with whatever sine and cosine, an arc of a circle, one of an ellipse with equal half axes
and one that does not drift are refused together, and else they are the same points, about every centre. Only if
their number is no word does the one that does not drift have none, and the others one. A polygon is a circle
in as many segments as it has sides, and so is an ellipse with equal half axes, in both senses of rotation. -/
theorem arcs_alike (functions : Functions K) (centre : Point (Widened K)) (radius startAngle totalAngle : Widened K)
    (segments : UInt64) (clockwise : Bool) :
    let _ := widened functions
    let drawn := (arc centre radius startAngle totalAngle segments).toOption
    let still := (variableArc centre radius startAngle totalAngle segments (.finite 0) (.finite 0)).toOption
    (drawn = none ↔ segments = 0 ∨ .beyond ∈ [radius, startAngle, totalAngle]) ∧
      (ellipticalArc centre radius radius startAngle totalAngle segments).toOption = drawn ∧
      (still = drawn.map fun points => if segments.toNat + 1 < 2 ^ 64 then points else []) ∧
      (still = drawn ↔ segments.toNat + 1 < 2 ^ 64 ∨ .beyond ∈ [radius, startAngle, totalAngle]) ∧
      (polygon centre radius startAngle segments clockwise).toOption =
        (circle centre radius startAngle segments clockwise).toOption ∧
      (ellipse centre radius radius startAngle segments clockwise).toOption =
        (circle centre radius startAngle segments clockwise).toOption := by
  intro _ drawn still
  have refused : drawn = none ↔ segments = 0 ∨ .beyond ∈ [radius, startAngle, totalAngle] :=
    arc_refused_iff functions
  have counted : still = drawn.map fun points => if segments.toNat + 1 < 2 ^ 64 then points else [] := by
    refine Option.ext fun points => ?_
    simp only [still, drawn, Option.map_eq_some_iff, toOption_eq_some]
    exact variableArc_still functions points
  refine ⟨refused, toOption_congr fun points => ellipticalArc_circle functions points, counted, ?_,
    toOption_congr fun points => polygon_ok_iff, toOption_congr fun points => ellipticalArc_circle functions points⟩
  rw [counted]
  by_cases room : segments.toNat + 1 < 2 ^ 64
  · simp only [if_pos room]
    exact iff_of_true Option.map_id' (.inl room)
  · -- There are segments then, and what has any points has others than none.
    have some : segments ≠ 0 := fun zero => room (by rw [zero]; decide)
    rw [or_iff_right room, ← refused.trans (or_iff_right some)]
    simp only [if_neg room]
    cases arced : drawn with
    | none => exact iff_of_true rfl rfl
    | some points =>
      have drawnPoints := arc_ne_nil functions (toOption_eq_some.mp arced)
      exact iff_of_false (fun same => drawnPoints (Option.some.inj same).symm) nofun

/-- Arcs in four segments about a centre with open axes. -/
theorem arcs_alike_four :
    let _ := widened Coil.fractions
    let centre : Point (Widened ℚ) := { x := some (.finite 1) }
    let drawn := (arc centre (.finite 2) (.finite 1) (.finite 3) 4).toOption
    drawn ≠ none ∧
      (ellipticalArc centre (.finite 2) (.finite 2) (.finite 1) (.finite 3) 4).toOption = drawn ∧
      (variableArc centre (.finite 2) (.finite 1) (.finite 3) 4 (.finite 0) (.finite 0)).toOption = drawn ∧
      (arc centre (.finite 2) .beyond (.finite 3) 4).toOption = none := by
  intro _ centre drawn
  obtain ⟨refused, ellipse, -, still, -⟩ :=
    arcs_alike Coil.fractions centre (.finite 2) (.finite 1) (.finite 3) 4 false
  obtain ⟨refusedBeyond, -⟩ := arcs_alike Coil.fractions centre (.finite 2) .beyond (.finite 3) 4 false
  have accepted : drawn ≠ none := refused.not.mpr (by simp)
  exact ⟨accepted, ellipse, still.mpr (.inl (by decide)), refusedBeyond.mpr (.inr (by simp))⟩

/-- In the greatest count of segments an arc that does not drift is no circle. -/
theorem arcs_can_differ : ¬ ∀ (functions : Functions ℚ) (centre : Point (Widened ℚ))
    (radius startAngle totalAngle : ℚ) (segments : UInt64),
    let _ := widened functions
    (variableArc centre (.finite radius) (.finite startAngle) (.finite totalAngle) segments (.finite 0)
        (.finite 0)).toOption =
      (arc centre (.finite radius) (.finite startAngle) (.finite totalAngle) segments).toOption := by
  intro whole
  let _ := widened Coil.fractions
  let centre : Point (Widened ℚ) := { x := some (.finite 1), y := some (.finite 1) }
  obtain ⟨points, ok⟩ : ∃ points, arc centre (.finite 2) (.finite 1) (.finite 2) 18446744073709551615 = .ok points :=
    ⟨_, arc_ok_iff.mpr ⟨by decide, Scalar.widened_isFinite Coil.fractions [2, 1, 2], rfl⟩⟩
  have none := (variableArc_still Coil.fractions _).mpr ⟨points, ok, rfl⟩
  have same : (variableArc centre (.finite 2) (.finite 1) (.finite 2) 18446744073709551615 (.finite 0)
      (.finite 0)).toOption = _ := whole Coil.fractions centre 2 1 2 18446744073709551615
  rw [none, ok] at same
  exact arc_ne_nil Coil.fractions ok (Option.some.inj same).symm

end Toolpath.Geometry
