import Toolpath.Geometry.Arc
import Toolpath.Proofs.Scalar.Exact
import Mathlib.Tactic.LinearCombination
import Mathlib.Tactic.Ring

/-!
The circle through three places. In exact arithmetic there is one just if the places are on no common
line, and its centre is as far from one of them as from another.
-/

namespace Toolpath.Geometry

theorem planar_eq_ok {α : Type} {p : Point α} {place : α × α} :
    planar p = .ok place ↔ p.x = some place.1 ∧ p.y = some place.2 := by
  obtain ⟨x, y⟩ := place
  unfold planar
  cases p.x <;> cases p.y <;> simp

variable {K : Type} [Field K]

/-- The point at a place in XY and a height, which it may leave open. -/
def pointAt (place : K × K) (height : Option K) : Point K where
  x := some place.1
  y := some place.2
  z := height

/-- A line goes through all three places, which may coincide. -/
def OnOneLine (p q r : K × K) : Prop :=
  ∃ a b c : K, (a ≠ 0 ∨ b ≠ 0) ∧ a * p.1 + b * p.2 = c ∧ a * q.1 + b * q.2 = c ∧ a * r.1 + b * r.2 = c

/-- Twice the area of a triangle, below zero if it is run through clockwise. -/
def doubleArea (p q r : K × K) : K :=
  p.1 * (q.2 - r.2) + q.1 * (r.2 - p.2) + r.1 * (p.2 - q.2)

theorem onOneLine_iff {p q r : K × K} : OnOneLine p q r ↔ doubleArea p q r = 0 := by
  obtain ⟨x1, y1⟩ := p
  obtain ⟨x2, y2⟩ := q
  obtain ⟨x3, y3⟩ := r
  simp only [OnOneLine, doubleArea]
  constructor
  · rintro ⟨a, b, c, slanted, atP, atQ, atR⟩
    have alongX : a * (x1 * (y2 - y3) + x2 * (y3 - y1) + x3 * (y1 - y2)) = 0 := by
      linear_combination (y2 - y3) * atP + (y3 - y1) * atQ + (y1 - y2) * atR
    have alongY : b * (x1 * (y2 - y3) + x2 * (y3 - y1) + x3 * (y1 - y2)) = 0 := by
      linear_combination (x3 - x2) * atP + (x1 - x3) * atQ + (x2 - x1) * atR
    rcases slanted with some | some
    · exact (mul_eq_zero.mp alongX).resolve_left some
    · exact (mul_eq_zero.mp alongY).resolve_left some
  · intro flat
    -- The line goes through two of the places that differ; any line will do if all coincide.
    by_cases sameX : x1 = x2
    · by_cases sameY : y1 = y2
      · by_cases otherX : x1 = x3
        · exact ⟨1, 0, x1, .inl one_ne_zero, by ring, by linear_combination -sameX,
            by linear_combination -otherX⟩
        · refine ⟨y1 - y3, x3 - x1, (y1 - y3) * x1 + (x3 - x1) * y1,
            .inr (sub_ne_zero.mpr (Ne.symm otherX)), rfl, ?_, by ring⟩
          linear_combination -(y1 - y3) * sameX - (x3 - x1) * sameY
      · have product : (x3 - x1) * (y1 - y2) = 0 := by
          linear_combination flat + (y3 - y1) * sameX
        have otherX := (mul_eq_zero.mp product).resolve_right (sub_ne_zero.mpr sameY)
        exact ⟨1, 0, x1, .inl one_ne_zero, by ring, by linear_combination -sameX,
          by linear_combination otherX⟩
    · refine ⟨y1 - y2, x2 - x1, (y1 - y2) * x1 + (x2 - x1) * y1,
        .inr (sub_ne_zero.mpr (Ne.symm sameX)), rfl, by ring, ?_⟩
      linear_combination flat

/-- The square of the distance between two places. -/
def gap (p q : K × K) : K := (p.1 - q.1) * (p.1 - q.1) + (p.2 - q.2) * (p.2 - q.2)

/-- The centre of the circle through three places. -/
def circumcentre (p q r : K × K) : K × K :=
  let far (s : K × K) : K := s.1 * s.1 + s.2 * s.2
  let area := doubleArea p q r + doubleArea p q r
  ((far p * (q.2 - r.2) + far q * (r.2 - p.2) + far r * (p.2 - q.2)) / area,
    (far p * (r.1 - q.1) + far q * (p.1 - r.1) + far r * (q.1 - p.1)) / area)

variable [LinearOrder K] [IsStrictOrderedRing K]

theorem gap_circumcentre {p q r : K × K} (apart : doubleArea p q r ≠ 0) :
    gap q (circumcentre p q r) = gap p (circumcentre p q r) ∧
      gap r (circumcentre p q r) = gap p (circumcentre p q r) := by
  obtain ⟨x1, y1⟩ := p
  obtain ⟨x2, y2⟩ := q
  obtain ⟨x3, y3⟩ := r
  have twice : doubleArea (x1, y1) (x2, y2) (x3, y3) + doubleArea (x1, y1) (x2, y2) (x3, y3) ≠ 0 := by
    rw [← two_mul]
    exact mul_ne_zero two_ne_zero apart
  have atX := div_mul_cancel₀ ((x1 * x1 + y1 * y1) * (y2 - y3) + (x2 * x2 + y2 * y2) * (y3 - y1) +
    (x3 * x3 + y3 * y3) * (y1 - y2)) twice
  have atY := div_mul_cancel₀ ((x1 * x1 + y1 * y1) * (x3 - x2) + (x2 * x2 + y2 * y2) * (x1 - x3) +
    (x3 * x3 + y3 * y3) * (x2 - x1)) twice
  have middle : circumcentre (x1, y1) (x2, y2) (x3, y3) = (_, _) := rfl
  rw [middle]
  simp only [gap]
  generalize _ / (doubleArea (x1, y1) (x2, y2) (x3, y3) + doubleArea (x1, y1) (x2, y2) (x3, y3)) = cx
    at atX ⊢
  generalize _ / (doubleArea (x1, y1) (x2, y2) (x3, y3) + doubleArea (x1, y1) (x2, y2) (x3, y3)) = cy
    at atY ⊢
  constructor
  · refine mul_left_cancel₀ twice ?_
    simp only [doubleArea] at atX atY ⊢
    linear_combination 2 * (x1 - x2) * atX + 2 * (y1 - y2) * atY
  · refine mul_left_cancel₀ twice ?_
    simp only [doubleArea] at atX atY ⊢
    linear_combination 2 * (x1 - x3) * atX + 2 * (y1 - y3) * atY

variable {functions : Scalar.Functions K} {p q r : Point K} {atP atQ atR : K × K}

/-- Three points on no common line have the centre of the circle through them, at the height of the
first. -/
theorem centreOf_eq_ok (isP : planar p = .ok atP) (isQ : planar q = .ok atQ) (isR : planar r = .ok atR)
    (apart : doubleArea atP atQ atR ≠ 0) : @centreOf K (Scalar.exact functions) p q r =
      .ok (pointAt (circumcentre atP atQ atR) p.z) := by
  have two : (2.0 : K) = 2 := by norm_num
  have zero : (0.0 : K) = 0 := by norm_num
  have twice : ¬ (2 * (atP.1 * (atQ.2 - atR.2) + atQ.1 * (atR.2 - atP.2) + atR.1 * (atP.2 - atQ.2))
      == (0 : K)) = true := fun same => mul_ne_zero two_ne_zero apart (eq_of_beq same)
  unfold centreOf
  simp only [isP, isQ, isR, bind, Except.bind, two, zero]
  rw [if_neg twice, two_mul]
  rfl

end Toolpath.Geometry
