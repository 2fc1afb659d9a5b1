import Toolpath.Proofs.Scalar.Alike
import Mathlib.Algebra.Order.Field.Basic
import Mathlib.Data.Rat.Cast.OfScientific
import Mathlib.Tactic.NormNum

/-!
Exact arithmetic: any ordered field makes the numbers of the library, with the operations that a
field lacks as arbitrary as they may be.
-/

namespace Toolpath

namespace Scalar

/-- The operations of a number that an ordered field does not have. -/
structure Functions (K : Type) where
  sqrt : K → K
  sin : K → K
  cos : K → K
  atan2 : K → K → K
  hypot : K → K → K
  remainder : K → K → K
  round : K → K
  toCount : K → UInt64
  pi : K

/-- The numbers of an ordered field. All of them are finite. -/
@[reducible] def exact {K : Type} [Field K] [LinearOrder K] (functions : Functions K) : Scalar K where
  decidableLT := inferInstance
  decidableLE := inferInstance
  isFinite _ := true
  ofCount n := n
  toCount := functions.toCount
  sqrt := functions.sqrt
  sin := functions.sin
  cos := functions.cos
  atan2 := functions.atan2
  hypot := functions.hypot
  remainder := functions.remainder
  round := functions.round
  pi := functions.pi

/-- What adding and taking away again come to where nothing is rounded. -/
class Cancels (α : Type) [Scalar α] : Prop where
  add_sub_cancel_left (a b : α) : a + b - a = b
  sub_self (a : α) : a - a = 0.0
  add_zero (a : α) : a + 0.0 = a

theorem exact_cancels {K : Type} [Field K] [LinearOrder K] [IsStrictOrderedRing K]
    (functions : Functions K) : @Cancels K (exact functions) := by
  have zero : (0.0 : K) = 0 := by norm_num
  refine @Cancels.mk K (exact functions) add_sub_cancel_left ?_ ?_
  · intro a
    exact (sub_self a).trans zero.symm
  · intro a
    exact (congrArg (a + ·) zero).trans (add_zero a)

/-- There is one zero only, so numbers that compare equal are the same. -/
theorem exact_discerning {K : Type} [Field K] [LinearOrder K] (functions : Functions K) :
    @Discerning K (exact functions) :=
  @Discerning.mk K (exact functions) fun same => Or.inl (eq_of_beq same)

theorem eq_of_exact_alike {K : Type} [Field K] [LinearOrder K] {functions : Functions K} {a b : K}
    (alike : @Alike K (exact functions) a b) : a = b := by
  rcases alike with same | ⟨left, right⟩
  · exact same
  · exact (eq_of_beq left).trans (eq_of_beq right).symm

theorem exact_isUndefined {K : Type} [Field K] [LinearOrder K] (functions : Functions K) (v : K) :
    @isUndefined K (exact functions) v = false := by
  show (!(v == v)) = false
  rw [beq_self_eq_true]
  rfl

theorem exact_isUsable {K : Type} [Field K] [LinearOrder K] [IsStrictOrderedRing K]
    (functions : Scalar.Functions K) {v : K} : @isUsable K (exact functions) v = true ↔ 0 < v := by
  have zero : (0.0 : K) = 0 := by norm_num
  show (true && decide (0.0 < v)) = true ↔ 0 < v
  rw [zero, Bool.true_and, decide_eq_true_iff]

theorem exact_least {K : Type} [Field K] [LinearOrder K] (functions : Functions K) (a b : K) :
    @least K (exact functions) a b = min a b := by
  unfold least
  rw [exact_isUndefined, Bool.false_or]
  by_cases below : a < b
  · rw [if_pos (decide_eq_true below), min_eq_left below.le]
  · rw [if_neg (by simpa using below), min_eq_right (not_lt.mp below)]

theorem exact_greatest {K : Type} [Field K] [LinearOrder K] (functions : Functions K) (a b : K) :
    @greatest K (exact functions) a b = max a b := by
  unfold greatest
  rw [exact_isUndefined, Bool.false_or]
  by_cases above : b < a
  · rw [if_pos (decide_eq_true above), max_eq_left above.le]
  · rw [if_neg (by simpa using above), max_eq_right (not_lt.mp above)]

end Scalar

theorem Position.eq_of_exact_alike {K : Type} [Field K] [LinearOrder K]
    {functions : Scalar.Functions K} {p q : Position K}
    (alike : @Position.Alike K (Scalar.exact functions) p q) : p = q := by
  let _ := Scalar.exact functions
  obtain ⟨x, y, z⟩ := p
  obtain ⟨x', y', z'⟩ := q
  have sameX : x = x' := Scalar.eq_of_exact_alike alike.x
  have sameY : y = y' := Scalar.eq_of_exact_alike alike.y
  have sameZ : z = z' := Scalar.eq_of_exact_alike alike.z
  rw [sameX, sameY, sameZ]

end Toolpath
