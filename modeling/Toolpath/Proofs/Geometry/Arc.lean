import Toolpath.Proofs.Geometry.Accepted
import Toolpath.Proofs.Geometry.Polar

/-!
Arcs through three places, over the reals. The angle to turn from the first over the second to the third
is right just where the third has the greater angle of the two ends. Where it has the smaller one, the arc
still ends there, but goes the other way round, or once too often.
-/

namespace Toolpath.Geometry

section Exact

variable {K : Type} [Field K] [LinearOrder K] {functions : Scalar.Functions K}

/-- In exact arithmetic an arc is refused for its count of segments only. -/
theorem arc_eq_ok {centre : Point K} {radius start angle : K} {segments : UInt64} (one : 1 ≤ segments) :
    @arc K (Scalar.exact functions) centre radius start angle segments =
      .ok ((@spaced K (Scalar.exact functions) start (start + angle) (segments + 1)).map
        (@polarOffset K (Scalar.exact functions) centre radius)) := by
  let _ := Scalar.exact functions
  exact arc_ok_iff.mpr ⟨one, fun _ _ => rfl, rfl⟩

/-- Evenly spaced numbers begin with the first and end with the last. -/
theorem spaced_ends [IsStrictOrderedRing K] (functions : Scalar.Functions K) (first last : K)
    {count : UInt64} (many : 2 ≤ count) :
    (@spaced K (Scalar.exact functions) first last count).head? = some first ∧
      (@spaced K (Scalar.exact functions) first last count).getLast? = some last := by
  have two : 2 ≤ count.toNat := UInt64.le_iff_toNat_le.mp many
  have one : (1 : UInt64) ≤ count := UInt64.le_iff_toNat_le.mpr (Nat.le_of_succ_le two)
  obtain ⟨steps, length⟩ : ∃ steps, count.toNat = steps + 2 := ⟨count.toNat - 2, by omega⟩
  have fewer : (count - 1).toNat = steps + 1 := by
    have taken := UInt64.toNat_sub_of_le count 1 one
    rw [UInt64.toNat_one] at taken
    omega
  have whole : ((steps + 1 : Nat) : K) ≠ 0 := Nat.cast_ne_zero.mpr (Nat.succ_ne_zero steps)
  have spread : @spaced K (Scalar.exact functions) first last count = (List.range (steps + 2)).map
      fun i : Nat => first + (last - first) / ((steps + 1 : Nat) : K) * (i : K) := by
    unfold spaced
    rw [if_neg (UInt64.not_lt.mpr many), fewer, length]
    rfl
  rw [spread]
  constructor
  · rw [List.head?_map, List.range_succ_eq_map, List.head?_cons, Option.map_some, Nat.cast_zero, mul_zero,
      add_zero]
  · rw [List.range_succ, List.map_append, List.map_singleton, List.getLast?_concat, div_mul_cancel₀ _ whole,
      add_sub_cancel]

end Exact

open Scalar (exact reals turn_reals)

theorem sweep_eq (start middle last : ℝ) : @sweep ℝ (exact reals) start middle last =
    if (start < middle ∧ middle < last) ∨ last < start ∧ (start < middle ∨ middle < last)
    then last - start else last - start - 2 * Real.pi := by
  unfold sweep
  rw [turn_reals]
  simp only [Bool.or_eq_true, Bool.and_eq_true, decide_eq_true_eq]
  split
  · rfl
  · exact neg_sub _ _

/-- To a greater angle, counter-clockwise is over what lies between. -/
theorem sweep_of_lt {start last : ℝ} (middle : ℝ) (order : start < last) :
    @sweep ℝ (exact reals) start middle last =
      if start < middle ∧ middle < last then last - start else last - start - 2 * Real.pi := by
  have forward : (start < middle ∧ middle < last) ∨ last < start ∧ (start < middle ∨ middle < last) ↔
      start < middle ∧ middle < last :=
    or_iff_left fun reversed => lt_asymm order reversed.1
  simp only [sweep_eq, forward]

/-- To a smaller angle, counter-clockwise is over what does not lie between. -/
theorem sweep_of_gt {start last : ℝ} (middle : ℝ) (order : last < start) :
    @sweep ℝ (exact reals) start middle last =
      if start < middle ∨ middle < last then last - start else last - start - 2 * Real.pi := by
  have backward : (start < middle ∧ middle < last) ∨ last < start ∧ (start < middle ∨ middle < last) ↔
      start < middle ∨ middle < last := by
    rw [and_iff_right order]
    exact or_iff_right_of_imp fun between => .inl between.1
  simp only [sweep_eq, backward]

/-- Wherever an arc goes, it ends in the direction of the third place. -/
theorem sweep_ends (start middle last : ℝ) :
    ((start + @sweep ℝ (exact reals) start middle last : ℝ) : Real.Angle) = last := by
  rw [sweep_eq, angle_eq_iff]
  split
  · exact ⟨0, by push_cast; ring⟩
  · exact ⟨-1, by push_cast; ring⟩

/-- Strictly inside what is swept by turning from a start. -/
def Swept (start angle met : ℝ) : Prop :=
  start < met ∧ met < start + angle ∨ start + angle < met ∧ met < start

/-- Turning from a first direction over a second to a third, by less than a full turn. -/
structure TurnsOver (start middle last angle : ℝ) : Prop where
  turns : 0 < |angle|
  once : |angle| < 2 * Real.pi
  ends : ((start + angle : ℝ) : Real.Angle) = last
  meets : ∃ met : ℝ, (met : Real.Angle) = middle ∧ Swept start angle met

variable {start middle last : ℝ}

theorem abs_sweep_pos (headingStart : IsHeading start) (headingLast : IsHeading last)
    (differs : start ≠ last) : 0 < |@sweep ℝ (exact reals) start middle last| := by
  rw [abs_pos, sweep_eq]
  split
  · exact sub_ne_zero.mpr differs.symm
  · have short : last - start < 2 * Real.pi := by linarith [headingStart.start, headingLast.ends]
    exact (sub_neg.mpr short).ne

theorem turnsOver_of_lt (headingStart : IsHeading start) (headingMiddle : IsHeading middle)
    (headingLast : IsHeading last) (leaves : start ≠ middle) (stays : middle ≠ last)
    (order : start < last) : TurnsOver start middle last (@sweep ℝ (exact reals) start middle last) where
  turns := abs_sweep_pos headingStart headingLast order.ne
  ends := sweep_ends start middle last
  once := by
    rw [sweep_eq, abs_lt]
    split <;> constructor <;> linarith [headingStart.start, headingLast.ends]
  meets := by
    rw [sweep_of_lt middle order]
    by_cases between : start < middle ∧ middle < last
    · rw [if_pos between]
      exact ⟨middle, rfl, .inl ⟨between.1, by linarith [between.2]⟩⟩
    · rw [if_neg between]
      rcases lt_or_gt_of_ne leaves with behind | before
      · -- Clockwise, a greater angle is met after direction zero.
        have beyond : last < middle :=
          lt_of_le_of_ne (not_lt.mp fun inside => between ⟨behind, inside⟩) stays.symm
        have around : ((middle - 2 * Real.pi : ℝ) : Real.Angle) = middle :=
          angle_eq_iff.mpr ⟨-1, by push_cast; ring⟩
        refine ⟨middle - 2 * Real.pi, around, .inr ⟨by linarith, ?_⟩⟩
        linarith [headingStart.start, headingMiddle.ends]
      · refine ⟨middle, rfl, .inr ⟨?_, before⟩⟩
        linarith [headingLast.ends, headingMiddle.start]

/-- To a smaller angle, an arc over what lies between goes once too often, and one over what does not goes
the other way. -/
theorem not_turnsOver_of_gt (headingStart : IsHeading start) (headingMiddle : IsHeading middle)
    (headingLast : IsHeading last) (order : last < start) :
    ¬ TurnsOver start middle last (@sweep ℝ (exact reals) start middle last) := by
  rintro ⟨-, once, -, met, direction, crossed⟩
  rw [Swept, sweep_of_gt middle order] at crossed
  rw [sweep_of_gt middle order] at once
  by_cases around : start < middle ∨ middle < last
  · rw [if_pos around, add_sub_cancel] at crossed
    rcases crossed with ⟨behind, before⟩ | ⟨above, before⟩
    · exact lt_asymm order (behind.trans before)
    · -- What is met between the two ends is the second place itself.
      have headingMet : IsHeading met :=
        ⟨headingLast.start.trans above.le, before.trans headingStart.ends⟩
      obtain rfl := headingMet.eq headingMiddle direction
      rcases around with beyond | below
      · exact lt_asymm beyond before
      · exact lt_asymm below above
  · rw [if_neg around, abs_lt] at once
    linarith

theorem turnsOver_sweep_iff (headingStart : IsHeading start) (headingMiddle : IsHeading middle)
    (headingLast : IsHeading last) (leaves : start ≠ middle) (stays : middle ≠ last) (differs : start ≠ last) :
    TurnsOver start middle last (@sweep ℝ (exact reals) start middle last) ↔ start < last := by
  constructor
  · intro turns
    by_contra order
    have reversed := lt_of_le_of_ne (not_lt.mp order) differs.symm
    exact not_turnsOver_of_gt headingStart headingMiddle headingLast reversed turns
  · exact turnsOver_of_lt headingStart headingMiddle headingLast leaves stays

variable {p q r : Point ℝ} {atP atQ atR : ℝ × ℝ}

theorem arcThrough_eq (isP : planar p = .ok atP) (isQ : planar q = .ok atQ) (isR : planar r = .ok atR)
    (bent : doubleArea atP atQ atR ≠ 0) (segments : UInt64) :
    @arcThrough ℝ (exact reals) p q r segments =
      @arc ℝ (exact reals) (pointAt (circumcentre atP atQ atR) p.z) √(gap atP (circumcentre atP atQ atR))
        (heading atP (circumcentre atP atQ atR))
        (@sweep ℝ (exact reals) (heading atP (circumcentre atP atQ atR))
          (heading atQ (circumcentre atP atQ atR)) (heading atR (circumcentre atP atQ atR))) segments := by
  unfold arcThrough
  rw [centreOf_eq_ok isP isQ isR bent, isP, isQ, isR]
  rfl

/-- An arc about a centre at the height of it begins and ends at the places its angles lead to. -/
theorem arc_ends {centre : ℝ × ℝ} {height : Option ℝ} {angle : ℝ} {segments : UInt64}
    (one : 1 ≤ segments) (ends : ((heading atP centre + angle : ℝ) : Real.Angle) = heading atR centre)
    (circle : gap atR centre = gap atP centre) :
    ∃ points, @arc ℝ (exact reals) (pointAt centre height) √(gap atP centre) (heading atP centre) angle
        segments = .ok points ∧ (2 ≤ segments + 1 →
      points.head? = some (pointAt atP height) ∧ points.getLast? = some (pointAt atR height)) := by
  refine ⟨_, arc_eq_ok one, fun many => ?_⟩
  obtain ⟨first, last⟩ := spaced_ends reals (heading atP centre) (heading atP centre + angle) many
  rw [List.head?_map, List.getLast?_map, first, last, Option.map_some, Option.map_some,
    polarOffset_heading atP centre height rfl, ← circle,
    polarOffset_heading atR centre height ends]
  exact ⟨rfl, rfl⟩

/-- Places on no common line lie in three directions from the centre of their circle. -/
theorem headings_differ (bent : doubleArea atP atQ atR ≠ 0) :
    heading atP (circumcentre atP atQ atR) ≠ heading atQ (circumcentre atP atQ atR) ∧
      heading atQ (circumcentre atP atQ atR) ≠ heading atR (circumcentre atP atQ atR) ∧
      heading atP (circumcentre atP atQ atR) ≠ heading atR (circumcentre atP atQ atR) := by
  obtain ⟨circleQ, circleR⟩ := gap_circumcentre bent
  refine ⟨fun same => bent ?_, fun same => bent ?_, fun same => bent ?_⟩
  · obtain rfl := eq_of_heading_eq circleQ.symm same
    rw [doubleArea]
    ring
  · obtain rfl := eq_of_heading_eq (circleQ.trans circleR.symm) same
    rw [doubleArea]
    ring
  · obtain rfl := eq_of_heading_eq circleR.symm same
    rw [doubleArea]
    ring

/-- The arc through three places goes over the second just where the angle of the third, in one turn from
zero up, is the greater one of the two ends. It always turns, and ends at the third place. -/
theorem arcThrough_turns (isP : planar p = .ok atP) (isQ : planar q = .ok atQ) (isR : planar r = .ok atR)
    (bent : ¬ OnOneLine atP atQ atR) (segments : UInt64) (one : 1 ≤ segments) :
    ∃ centre, centre = circumcentre atP atQ atR ∧
      @centreOf ℝ (exact reals) p q r = .ok (pointAt centre p.z) ∧
      ∃ angle,
      angle = @sweep ℝ (exact reals) (heading atP centre) (heading atQ centre) (heading atR centre) ∧
      @arcThrough ℝ (exact reals) p q r segments = @arc ℝ (exact reals) (pointAt centre p.z)
        √(gap atP centre) (heading atP centre) angle segments ∧
      0 < |angle| ∧ ((heading atP centre + angle : ℝ) : Real.Angle) = heading atR centre ∧
      (TurnsOver (heading atP centre) (heading atQ centre) (heading atR centre) angle ↔
        heading atP centre < heading atR centre) ∧
      (heading atP centre < heading atR centre → ∃ met, Swept (heading atP centre) angle met ∧
        @polarOffset ℝ (exact reals) (pointAt centre p.z) √(gap atP centre) met = pointAt atQ p.z) ∧
      ∃ points, @arcThrough ℝ (exact reals) p q r segments = .ok points ∧ (2 ≤ segments + 1 →
        points.head? = some (pointAt atP p.z) ∧ points.getLast? = some (pointAt atR p.z)) := by
  have area : doubleArea atP atQ atR ≠ 0 := fun flat => bent (onOneLine_iff.mpr flat)
  obtain ⟨leaves, stays, differs⟩ := headings_differ area
  have drawn := arcThrough_eq isP isQ isR area segments
  have ends := sweep_ends (heading atP (circumcentre atP atQ atR))
    (heading atQ (circumcentre atP atQ atR)) (heading atR (circumcentre atP atQ atR))
  have turns := turnsOver_sweep_iff (isHeading_heading ..) (isHeading_heading ..) (isHeading_heading ..)
    leaves stays differs
  obtain ⟨circleQ, circleR⟩ := gap_circumcentre area
  refine ⟨circumcentre atP atQ atR, rfl, centreOf_eq_ok isP isQ isR area, _, rfl, drawn,
    abs_sweep_pos (isHeading_heading ..) (isHeading_heading ..) differs, ends, turns, fun order => ?_, ?_⟩
  · obtain ⟨met, direction, swept⟩ := (turns.mpr order).meets
    refine ⟨met, swept, ?_⟩
    rw [← circleQ]
    exact polarOffset_heading atQ _ p.z direction
  · rw [drawn]
    exact arc_ends one ends circleR

/-- From above the centre to below it the arc is right. -/
theorem arcThrough_turns_downwards :
    ∃ angle, @arcThrough ℝ (exact reals) (pointAt (0, 1) none) (pointAt (-1, 0) none)
        (pointAt (0, -1) none) 8 = @arc ℝ (exact reals) (pointAt (0, 0) none) √(gap (0, 1) (0, 0))
          (heading (0, 1) (0, 0)) angle 8 ∧
      TurnsOver (heading (0, 1) (0, 0)) (heading (-1, 0) (0, 0)) (heading (0, -1) (0, 0)) angle := by
  have bent : ¬ OnOneLine ((0, 1) : ℝ × ℝ) (-1, 0) (0, -1) := by
    rw [onOneLine_iff]
    norm_num [doubleArea]
  obtain ⟨centre, rfl, -, angle, -, drawn, -, -, turns, -⟩ := arcThrough_turns (p := pointAt (0, 1) none)
    (q := pointAt (-1, 0) none) (r := pointAt (0, -1) none) rfl rfl rfl bent 8 (by decide)
  have centred : circumcentre ((0, 1) : ℝ × ℝ) (-1, 0) (0, -1) = (0, 0) := by
    norm_num [circumcentre, doubleArea]
  rw [centred] at drawn turns
  have order : heading (0, 1) (0, 0) < heading (0, -1) (0, 0) :=
    heading_lt_heading (by norm_num) (by norm_num)
  exact ⟨angle, drawn, turns.mpr order⟩

/-- From below the centre to above it an arc goes wrong. -/
theorem sweep_can_turn_away :
    ¬ ∀ (p q r : Point ℝ) (atP atQ atR centre : ℝ × ℝ), planar p = .ok atP → planar q = .ok atQ →
      planar r = .ok atR → ¬ OnOneLine atP atQ atR →
      @centreOf ℝ (exact reals) p q r = .ok (pointAt centre p.z) →
      TurnsOver (heading atP centre) (heading atQ centre) (heading atR centre)
        (@sweep ℝ (exact reals) (heading atP centre) (heading atQ centre) (heading atR centre)) := by
  intro whole
  have area : doubleArea ((0, -1) : ℝ × ℝ) (1, 0) (0, 1) ≠ 0 := by norm_num [doubleArea]
  have bent : ¬ OnOneLine ((0, -1) : ℝ × ℝ) (1, 0) (0, 1) := fun line => area (onOneLine_iff.mp line)
  have turns := whole (pointAt (0, -1) none) (pointAt (1, 0) none) (pointAt (0, 1) none) _ _ _ _ rfl rfl rfl
    bent (centreOf_eq_ok rfl rfl rfl area)
  have centred : circumcentre ((0, -1) : ℝ × ℝ) (1, 0) (0, 1) = (0, 0) := by
    norm_num [circumcentre, doubleArea]
  rw [centred] at turns
  have reversed : heading (0, 1) (0, 0) < heading (0, -1) (0, 0) :=
    heading_lt_heading (by norm_num) (by norm_num)
  exact not_turnsOver_of_gt (isHeading_heading ..) (isHeading_heading ..) (isHeading_heading ..) reversed
    turns

end Toolpath.Geometry
