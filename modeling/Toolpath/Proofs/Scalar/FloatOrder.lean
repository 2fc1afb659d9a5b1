import Toolpath.Scalar.Float
import Mathlib.Order.Basic

/-!
The order of floats. Two finite floats always compare, so that of two bounds one holds wherever the
other one is refused; only what is no number compares with nothing.
-/

namespace Toolpath.FloatScalar

open Float.Model Float.Model.UnpackedFloat

theorem compare_swap (a b : UnpackedFloat) : b.compare a = (a.compare b).map Ordering.swap := by
  have signs (s t : Sign) : compare t s = (compare s t).swap := by
    cases s <;> cases t <;> rfl
  have wholes (e f : Int) : compare f e = (compare e f).swap := (Std.OrientedCmp.eq_swap).trans rfl
  have counts (m n : Nat) : compare n m = (compare m n).swap := (Std.OrientedCmp.eq_swap).trans rfl
  cases a with
  | notANumber => cases b <;> rfl
  | infinity s =>
    cases b with
    | infinity t => exact congrArg some (signs s t)
    | notANumber => rfl
    | zero | finite => cases s <;> rfl
  | zero s =>
    cases b with
    | notANumber | zero => rfl
    | infinity t | finite t => cases t <;> rfl
  | finite s m e positive =>
    cases b with
    | notANumber => cases s <;> rfl
    | infinity t | zero t => cases s <;> cases t <;> rfl
    | finite t n f positive' =>
      have both : (compare f e).then (compare n m) = ((compare e f).then (compare m n)).swap := by
        rw [wholes e f, counts m n, Ordering.swap_then]
      cases s with
      | positive =>
        cases t with
        | positive => exact congrArg some both
        | negative => rfl
      | negative =>
        cases t with
        | positive => rfl
        | negative => exact congrArg (fun order => some order.swap) both

theorem exists_compare {a b : UnpackedFloat} (finiteA : a.isFinite = true)
    (finiteB : b.isFinite = true) : ∃ order, a.compare b = some order := by
  cases a with
  | notANumber | infinity => cases finiteA
  | zero s =>
    cases b with
    | notANumber | infinity => cases finiteB
    | zero => exact ⟨_, rfl⟩
    | finite t => cases t <;> exact ⟨_, rfl⟩
  | finite s =>
    cases b with
    | notANumber | infinity => cases finiteB
    | zero => cases s <;> exact ⟨_, rfl⟩
    | finite t => cases s <;> cases t <;> exact ⟨_, rfl⟩

theorem lt_iff_compare {a b : Float} :
    a < b ↔ a.toModel.unpack.compare b.toModel.unpack = some .lt := by
  show decide (a.toModel.unpack.lt b.toModel.unpack = true) = true ↔ _
  rw [decide_eq_true_iff]
  exact beq_iff_eq

theorem le_iff_compare {a b : Float} :
    a ≤ b ↔ (a.toModel.unpack.compare b.toModel.unpack).any (·.isLE) = true := by
  show decide (a.toModel.unpack.le b.toModel.unpack = true) = true ↔ _
  rw [decide_eq_true_iff]
  rfl

theorem lt_irrefl (a : Float) : ¬ a < a := by
  intro below
  have compared := lt_iff_compare.mp below
  have swapped := compare_swap a.toModel.unpack a.toModel.unpack
  rw [compared] at swapped
  cases swapped

theorem le_of_not_lt {a b : Float} (finiteA : a.isFinite = true) (finiteB : b.isFinite = true)
    (notBelow : ¬ a < b) : b ≤ a := by
  obtain ⟨order, compared⟩ := exists_compare finiteA finiteB
  rw [lt_iff_compare, compared] at notBelow
  rw [le_iff_compare, compare_swap, compared]
  cases order with
  | lt => exact absurd rfl notBelow
  | eq | gt => rfl

/-- A finite number that is moved into an interval lies in it. -/
theorem clamp_mem {low high v : Float} (finite : v.isFinite = true)
    (finiteLow : low.isFinite = true) (finiteHigh : high.isFinite = true) (interval : low ≤ high) :
    low ≤ Scalar.clamp low high v ∧ Scalar.clamp low high v ≤ high := by
  unfold Scalar.clamp
  split
  · exact ⟨le_of_not_lt finiteLow finiteLow (lt_irrefl low), interval⟩
  · rename_i notBelow
    split
    · exact ⟨interval, le_of_not_lt finiteHigh finiteHigh (lt_irrefl high)⟩
    · rename_i notAbove
      exact ⟨le_of_not_lt finite finiteLow notBelow, le_of_not_lt finiteHigh finite notAbove⟩

end Toolpath.FloatScalar
