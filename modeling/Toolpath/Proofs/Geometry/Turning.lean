import Toolpath.Geometry.Transform
import Toolpath.Proofs.Geometry.Circumcentre
import Toolpath.Proofs.Geometry.Polar

/-!
Moves about a centre, over the reals. A point goes by its distance and its direction, and both are found again
where it arrives, as long as it does not come to the centre; so moves one after the other add up.
-/

namespace Toolpath

/-- The point at another place in XY. What else it says is kept. -/
def Point.putAt {α : Type} (p : Point α) (place : α × α) : Point α :=
  { p with x := some place.1, y := some place.2 }

namespace Geometry

section Lists

variable {α : Type} [Scalar α] {origin : Point α} {cx cy radius angle : α} {points : List (Point α)}

/-- One point that cannot be moved is enough for none to be: the first open axis is reported. -/
theorem mapM_of_openAxis {axis : Char} (missing : points.findSome? openAxis? = some axis) :
    points.mapM (movePointPolar origin cx cy radius angle) = .error (.missingAxis axis) := by
  induction points with
  | nil => cases missing
  | cons p rest ih =>
    rw [List.findSome?_cons] at missing
    rw [List.mapM_cons]
    cases openP : openAxis? p with
    | some first =>
      rw [openP] at missing
      obtain rfl := Option.some.inj missing
      unfold movePointPolar
      rw [openAxis?_eq_some.mp openP]
      rfl
    | none =>
      rw [openP] at missing
      obtain ⟨place, isPlace⟩ := openAxis?_eq_none.mp openP
      rw [ih missing]
      unfold movePointPolar
      rw [isPlace]
      rfl

end Lists

open Scalar (exact reals)

/-- The place in a direction from a centre. -/
noncomputable def polarPlace (centre : ℝ × ℝ) (radius angle : ℝ) : ℝ × ℝ :=
  (centre.1 + radius * Real.cos angle, centre.2 + radius * Real.sin angle)

theorem gap_polarPlace (centre : ℝ × ℝ) (radius angle : ℝ) :
    gap (polarPlace centre radius angle) centre = radius * radius := by
  unfold gap polarPlace
  linear_combination radius * radius * Real.sin_sq_add_cos_sq angle

/-- A place that is not the centre is in the direction it was put in. -/
theorem heading_polarPlace (centre : ℝ × ℝ) {radius : ℝ} (away : 0 < radius) (angle : ℝ) :
    (heading (polarPlace centre radius angle) centre : Real.Angle) = angle := by
  have place : (⟨(polarPlace centre radius angle).1 - centre.1,
      (polarPlace centre radius angle).2 - centre.2⟩ : ℂ) =
        radius * (Real.Angle.cos angle + Real.Angle.sin angle * Complex.I) := by
    rw [Real.Angle.cos_coe, Real.Angle.sin_coe]
    apply Complex.ext <;> simp [polarPlace, Complex.cos_ofReal_re, Complex.sin_ofReal_re]
  have direction : (heading (polarPlace centre radius angle) centre : Real.Angle) =
      Complex.arg ⟨(polarPlace centre radius angle).1 - centre.1,
        (polarPlace centre radius angle).2 - centre.2⟩ := angle_withinTurn _
  rw [direction, place, Complex.arg_mul_cos_add_sin_mul_I_coe_angle away]

/-- Only the direction counts of an angle. -/
theorem polarPlace_congr (centre : ℝ × ℝ) (radius : ℝ) {a b : ℝ} (same : (a : Real.Angle) = b) :
    polarPlace centre radius a = polarPlace centre radius b := by
  unfold polarPlace
  rw [← Real.Angle.cos_coe, ← Real.Angle.sin_coe, same, Real.Angle.cos_coe, Real.Angle.sin_coe]

/-- Where a place is moved to about a centre: so much farther away, and turned by an angle. -/
noncomputable def turned (centre : ℝ × ℝ) (radius angle : ℝ) (place : ℝ × ℝ) : ℝ × ℝ :=
  polarPlace centre (√(gap place centre) + radius) (heading place centre + angle)

theorem turned_zero (centre place : ℝ × ℝ) : turned centre 0 0 place = place := by
  obtain ⟨atX, atY⟩ := gap_heading place centre
  unfold turned polarPlace
  rw [add_zero, add_zero, atX, atY]

/-- Moves add up, unless the first one leads to the centre or to the other side of it. -/
theorem turned_turned {centre place : ℝ × ℝ} {radius : ℝ} (away : 0 < √(gap place centre) + radius)
    (angle more further : ℝ) :
    turned centre more further (turned centre radius angle place) =
      turned centre (radius + more) (angle + further) place := by
  have distance : √(gap (turned centre radius angle place) centre) = √(gap place centre) + radius := by
    unfold turned
    rw [gap_polarPlace, Real.sqrt_mul_self away.le]
  have direction : (heading (turned centre radius angle place) centre + further : ℝ) =
      ((heading place centre + (angle + further) : ℝ) : Real.Angle) := by
    rw [Real.Angle.coe_add, turned, heading_polarPlace centre away, ← Real.Angle.coe_add, add_assoc]
  rw [turned, distance, polarPlace_congr centre _ direction, add_assoc]
  rfl

/-- The place of a point in XY. Open axes count as zero. -/
def placeOf (p : Point ℝ) : ℝ × ℝ := (p.x.getD 0, p.y.getD 0)

theorem planar_of_openAxis {p : Point ℝ} (known : openAxis? p = none) : planar p = .ok (placeOf p) := by
  obtain ⟨place, isPlace⟩ := openAxis?_eq_none.mp known
  obtain ⟨x, y⟩ := planar_eq_ok.mp isPlace
  refine planar_eq_ok.mpr ⟨?_, ?_⟩
  · rw [placeOf, x, Option.getD_some]
  · rw [placeOf, y, Option.getD_some]

theorem putAt_placeOf {p : Point ℝ} (known : openAxis? p = none) : p.putAt (placeOf p) = p := by
  obtain ⟨x, y⟩ := planar_eq_ok.mp (planar_of_openAxis known)
  rw [Point.putAt, ← x, ← y]

variable {origin : Point ℝ} {centre : ℝ × ℝ}

theorem polarOffset_eq (isCentre : planar origin = .ok centre) (radius angle : ℝ) :
    @polarOffset ℝ (exact reals) origin radius angle =
      pointAt (polarPlace centre radius angle) origin.z := by
  obtain ⟨x, y⟩ := planar_eq_ok.mp isCentre
  unfold polarOffset
  rw [x, y]
  rfl

/-- Polar coordinates give the place back. -/
theorem toPolar_restores (isCentre : planar origin = .ok centre) {target : Point ℝ} {place : ℝ × ℝ}
    (isPlace : planar target = .ok place) :
    ∃ polar, @toPolar ℝ (exact reals) target origin = .ok polar ∧
      polar.radius = √(gap place centre) ∧ IsHeading polar.angle ∧
      @polarOffset ℝ (exact reals) origin polar.radius polar.angle = pointAt place origin.z := by
  refine ⟨⟨√(gap place centre), heading place centre⟩, ?_, rfl, isHeading_heading place centre, ?_⟩
  · unfold toPolar
    rw [isPlace, isCentre]
    rfl
  · have restored := turned_zero centre place
    rw [turned, add_zero, add_zero] at restored
    rw [polarOffset_eq isCentre, restored]

variable {points : List (Point ℝ)}

theorem movePointPolar_eq (isCentre : planar origin = .ok centre) {p : Point ℝ} (known : openAxis? p = none)
    (radius angle : ℝ) : @movePointPolar ℝ (exact reals) origin centre.1 centre.2 radius angle p =
      .ok (p.putAt (turned centre radius angle (placeOf p))) := by
  unfold movePointPolar
  rw [planar_of_openAxis known]
  dsimp only [bind, Except.bind]
  rw [polarOffset_eq isCentre]
  rfl

/-- Points with a place are moved one by one. -/
theorem movePolar_eq_ok (isCentre : planar origin = .ok centre) (known : ∀ p ∈ points, openAxis? p = none)
    (radius angle : ℝ) : @movePolar ℝ (exact reals) points origin radius angle =
      .ok (points.map fun p => p.putAt (turned centre radius angle (placeOf p))) := by
  have moved : points.mapM (@movePointPolar ℝ (exact reals) origin centre.1 centre.2 radius angle) =
      .ok (points.map fun p => p.putAt (turned centre radius angle (placeOf p))) := by
    induction points with
    | nil => rfl
    | cons p rest ih =>
      obtain ⟨here, later⟩ := List.forall_mem_cons.mp known
      rw [List.mapM_cons, movePointPolar_eq isCentre here, ih later]
      rfl
  unfold movePolar
  rw [isCentre]
  exact moved

theorem movePolar_of_openAxis (isCentre : planar origin = .ok centre) {axis : Char}
    (missing : points.findSome? openAxis? = some axis) (radius angle : ℝ) :
    @movePolar ℝ (exact reals) points origin radius angle = .error (.missingAxis axis) := by
  unfold movePolar
  rw [isCentre]
  exact @mapM_of_openAxis ℝ (exact reals) origin centre.1 centre.2 radius angle points axis missing

/-- One move after another. -/
theorem movePolar_movePolar (isCentre : planar origin = .ok centre) (known : ∀ p ∈ points, openAxis? p = none)
    {radius : ℝ} (away : ∀ p ∈ points, 0 < √(gap (placeOf p) centre) + radius) (angle more further : ℝ) :
    (@movePolar ℝ (exact reals) points origin radius angle >>= fun moved =>
      @movePolar ℝ (exact reals) moved origin more further) =
        .ok (points.map fun p => p.putAt (turned centre (radius + more) (angle + further) (placeOf p))) := by
  have placed : ∀ q ∈ points.map fun p => p.putAt (turned centre radius angle (placeOf p)),
      openAxis? q = none := by
    intro q member
    obtain ⟨p, -, rfl⟩ := List.mem_map.mp member
    rfl
  rw [movePolar_eq_ok isCentre known]
  refine (movePolar_eq_ok isCentre placed more further).trans ?_
  rw [List.map_map]
  refine congrArg Except.ok (List.map_congr_left fun p member => ?_)
  exact congrArg p.putAt (turned_turned (away p member) angle more further)

/-- Polar coordinates about a centre are a direction in one turn from zero up and a distance, and they give the
place back. Moves about the centre keep all that a point says but its place. They add up if the first one leads
no point to the centre or to the other side of it, so the opposite move takes it back. One point without a place
is enough for none to be moved. -/
theorem movePolar_composes (isCentre : planar origin = .ok centre) :
    (∀ target place, planar target = .ok place →
      ∃ polar, @toPolar ℝ (exact reals) target origin = .ok polar ∧
        polar.radius = √(gap place centre) ∧ IsHeading polar.angle ∧
        @polarOffset ℝ (exact reals) origin polar.radius polar.angle = pointAt place origin.z) ∧
    ∀ points : List (Point ℝ),
      (∀ axis, points.findSome? openAxis? = some axis → ∀ radius angle,
        @movePolar ℝ (exact reals) points origin radius angle = .error (.missingAxis axis)) ∧
      ((∀ p ∈ points, openAxis? p = none) →
        (∀ radius angle, @movePolar ℝ (exact reals) points origin radius angle =
          .ok (points.map fun p => p.putAt (turned centre radius angle (placeOf p)))) ∧
        ∀ radius angle, (∀ p ∈ points, 0 < √(gap (placeOf p) centre) + radius) →
          (∀ more further, (@movePolar ℝ (exact reals) points origin radius angle >>= fun moved =>
              @movePolar ℝ (exact reals) moved origin more further) =
            @movePolar ℝ (exact reals) points origin (radius + more) (angle + further)) ∧
          (@movePolar ℝ (exact reals) points origin radius angle >>= fun moved =>
            @movePolar ℝ (exact reals) moved origin (-radius) (-angle)) = .ok points) := by
  refine ⟨fun target place => toPolar_restores isCentre, fun points =>
    ⟨fun axis missing => movePolar_of_openAxis isCentre missing, fun known =>
      ⟨movePolar_eq_ok isCentre known, fun radius angle away => ⟨fun more further => ?_, ?_⟩⟩⟩⟩
  · rw [movePolar_movePolar isCentre known away, movePolar_eq_ok isCentre known]
  · rw [movePolar_movePolar isCentre known away, add_neg_cancel, add_neg_cancel]
    refine congrArg Except.ok ((List.map_congr_left fun p member => ?_).trans (List.map_id points))
    rw [turned_zero]
    exact putAt_placeOf (known p member)

/-- A point in the first quadrant about its centre, five away, and a point without Y beside it. -/
theorem movePolar_composes_outward :
    let origin : Point ℝ := pointAt (1, 1) none
    let p : Point ℝ := { x := some 4, y := some 5, z := some 2, extrude := some true }
    let moved := fun (points : List (Point ℝ)) (radius angle : ℝ) =>
      @movePolar ℝ (exact reals) points origin radius angle
    0 < √(gap (placeOf p) (1, 1)) + -3 ∧
      (moved [p] (-3) 2 >>= fun nearer => moved nearer 7 1) = moved [p] (-3 + 7) (2 + 1) ∧
      (moved [p] (-3) 2 >>= fun nearer => moved nearer (- -3) (-2)) = .ok [p] ∧
      moved [p, { x := some 1 }] (-3) 2 = .error (.missingAxis 'y') := by
  intro origin p moved
  have five : √(gap (placeOf p) (1, 1)) = 5 := by
    rw [Real.sqrt_eq_iff_mul_self_eq (by norm_num [gap, placeOf, p]) (by norm_num)]
    norm_num [gap, placeOf, p]
  have away : ∀ q ∈ [p], 0 < √(gap (placeOf q) (1, 1)) + -3 := by
    intro q member
    obtain rfl := List.mem_singleton.mp member
    rw [five]
    norm_num
  have isCentre : planar origin = .ok (1, 1) := rfl
  obtain ⟨-, composes⟩ := movePolar_composes isCentre
  obtain ⟨-, known⟩ := composes [p]
  obtain ⟨adds, back⟩ := (known (List.forall_mem_singleton.mpr rfl)).2 (-3) 2 away
  obtain ⟨missing, -⟩ := composes [p, { x := some 1 }]
  exact ⟨away p (List.mem_singleton.mpr rfl), adds 7 1, back, missing 'y' rfl (-3) 2⟩

end Geometry

end Toolpath
