import Toolpath.Proofs.Scalar.Exact
import Mathlib.Data.List.Perm.Basic

/-!
The laws that floats and exact arithmetic share. Numbers that are not undefined are in one order, the
undefined ones are one number, and arithmetic does not see the sign of a zero. The least and the greatest
of some numbers are then the same in whatever order they are gone through.
-/

namespace Toolpath

namespace Scalar

variable {α : Type} [Scalar α]

/-- An order of the numbers that are not undefined, with its strict part. -/
structure IsOrder (before strictly : α → α → Prop) : Prop where
  defined {a b : α} : before a b → isUndefined a = false ∧ isUndefined b = false
  of_strictly {a b : α} : strictly a b → before a b
  of_not {a b : α} : isUndefined a = false → isUndefined b = false → ¬ strictly a b → before b a
  of_beq {a b : α} : (a == b) = true → before a b ∧ before b a
  beq {a b : α} : before a b → before b a → (a == b) = true
  trans {a b c : α} : before a b → before b c → before a c

/-- Numbers with an order, in which every finite number has a place. -/
class Ordered (α : Type) [Scalar α] : Prop where
  upward : IsOrder (fun a b : α => a ≤ b) (fun a b : α => a < b)
  isUndefined_of_isFinite {a : α} : isFinite a = true → isUndefined a = false
  isFinite_zero : isFinite (0.0 : α) = true
  eq_of_isUndefined {a b : α} : isUndefined a = true → isUndefined b = true → a = b

/-- Numbers whose arithmetic does not see the sign of a zero, but in what it gives. -/
class Unsigned (α : Type) [Scalar α] : Prop where
  add_alike {a b c d : α} : Alike a b → Alike c d → Alike (a + c) (b + d)
  sub_alike {a b c d : α} : Alike a b → Alike c d → Alike (a - c) (b - d)
  half_alike {a b : α} : Alike a b → Alike (a / 2.0) (b / 2.0)
  add_zero_zero : ((0.0 + 0.0 : α) == 0.0) = true
  sub_zero_zero : ((0.0 - 0.0 : α) == 0.0) = true
  half_zero : ((0.0 / 2.0 : α) == 0.0) = true

theorem beq_self_of_defined {a : α} (defined : isUndefined a = false) : (a == a) = true := by
  rw [isUndefined, Bool.not_eq_false'] at defined
  exact defined

theorem Alike.beq_zero {a b : α} (alike : Alike a b) (zero : (b == 0.0) = true) : (a == 0.0) = true := by
  rcases alike with rfl | ⟨left, -⟩
  · exact zero
  · exact left

theorem isUndefined_zero [Ordered α] : isUndefined (0.0 : α) = false :=
  Ordered.isUndefined_of_isFinite Ordered.isFinite_zero

/-- A zero is the zero of the library but for its sign. -/
theorem Alike.of_beq_zero [Ordered α] {a : α} (zero : (a == 0.0) = true) : Alike a 0.0 :=
  Or.inr ⟨zero, beq_self_of_defined isUndefined_zero⟩

/-- Before a number in some order, unless that is undefined. -/
def UpTo (before : α → α → Prop) (a b : α) : Prop := isUndefined b = true ∨ before a b

/-- One of some numbers that is before all of them, the undefined ones apart. -/
structure Foremost (before : α → α → Prop) (chosen : α) (list : List α) : Prop where
  mem : chosen ∈ list
  upTo : ∀ v ∈ list, UpTo before chosen v

namespace IsOrder

variable {before strictly : α → α → Prop}

theorem swap (order : IsOrder before strictly) :
    IsOrder (fun a b => before b a) (fun a b => strictly b a) where
  defined below := (order.defined below).symm
  of_strictly := order.of_strictly
  of_not left right refused := order.of_not right left refused
  of_beq equal := (order.of_beq equal).symm
  beq above below := order.beq below above
  trans above below := order.trans below above

theorem upTo_refl (order : IsOrder before strictly) (a : α) : UpTo before a a := by
  cases undefined : isUndefined a with
  | true => exact Or.inl undefined
  | false => exact Or.inr (order.of_beq (beq_self_of_defined undefined)).1

theorem upTo_trans (order : IsOrder before strictly) {a b c : α} (first : UpTo before a b)
    (second : UpTo before b c) : UpTo before a c := by
  rcases second with undefined | later
  · exact Or.inl undefined
  · rcases first with undefined | earlier
    · rw [(order.defined later).1] at undefined
      cases undefined
    · exact Or.inr (order.trans earlier later)

/-- The first of two numbers, the second of equals, and an undefined one only for want of another. -/
theorem upTo_select (order : IsOrder before strictly) {a b : α} [Decidable (strictly a b)] :
    UpTo before (if isUndefined b || decide (strictly a b) then a else b) a ∧
      UpTo before (if isUndefined b || decide (strictly a b) then a else b) b := by
  split
  · rename_i first
    refine ⟨order.upTo_refl a, ?_⟩
    rcases Bool.or_eq_true_iff.mp first with undefined | below
    · exact Or.inl undefined
    · exact Or.inr (order.of_strictly (of_decide_eq_true below))
  · rename_i second
    obtain ⟨defined, refused⟩ := Bool.or_eq_false_iff.mp (eq_false_of_ne_true second)
    refine ⟨?_, order.upTo_refl b⟩
    cases undefined : isUndefined a with
    | true => exact Or.inl undefined
    | false => exact Or.inr (order.of_not undefined defined (of_decide_eq_false refused))

theorem beq_of_foremost (order : IsOrder before strictly) {a b : α} (first : UpTo before a b)
    (second : UpTo before b a) (eq : isUndefined a = true → isUndefined b = true → a = b) :
    a = b ∨ (a == b) = true := by
  rcases first with undefined | below
  · rcases second with both | above
    · exact Or.inl (eq both undefined)
    · rw [(order.defined above).1] at undefined
      cases undefined
  · rcases second with undefined | above
    · rw [(order.defined below).1] at undefined
      cases undefined
    · exact Or.inr (order.beq below above)

/-- Which of some numbers is the foremost does not depend on their order. -/
theorem foremost_alike [Ordered α] [Discerning α] (order : IsOrder before strictly) {a b : α}
    {list others : List α} (first : Foremost before a list) (second : Foremost before b others)
    (perm : list.Perm others) : Alike a b := by
  rcases order.beq_of_foremost (first.upTo b (perm.mem_iff.mpr second.mem))
    (second.upTo a (perm.mem_iff.mp first.mem)) Ordered.eq_of_isUndefined with same | equal
  · exact Or.inl same
  · exact Discerning.alike_of_beq equal

end IsOrder

section Exact

variable {K : Type} [Field K] [LinearOrder K] (functions : Functions K)

theorem exact_order : @IsOrder K (exact functions) (fun a b => a ≤ b) (fun a b => a < b) := by
  let _ := exact functions
  refine ⟨?_, le_of_lt, fun _ _ => le_of_not_gt, ?_, fun below above => ?_, le_trans⟩
  · intro a b _
    exact ⟨exact_isUndefined functions a, exact_isUndefined functions b⟩
  · intro a b equal
    exact ⟨(eq_of_beq equal).le, (eq_of_beq equal).ge⟩
  · exact beq_iff_eq.mpr (le_antisymm below above)

/-- Every number has its place in exact arithmetic. -/
theorem exact_ordered : @Ordered K (exact functions) :=
  @Ordered.mk K (exact functions) (exact_order functions)
    (fun _ => exact_isUndefined functions _) rfl
    (fun undefined => by rw [exact_isUndefined functions] at undefined; cases undefined)

theorem exact_unsigned [IsStrictOrderedRing K] : @Unsigned K (exact functions) := by
  have zero : (0.0 : K) = 0 := by norm_num
  refine @Unsigned.mk K (exact functions) ?_ ?_ ?_ ?_ ?_ ?_
  · intro a b c d left right
    rw [eq_of_exact_alike left, eq_of_exact_alike right]
    exact @Alike.refl K (exact functions) _
  · intro a b c d left right
    rw [eq_of_exact_alike left, eq_of_exact_alike right]
    exact @Alike.refl K (exact functions) _
  · intro a b alike
    rw [eq_of_exact_alike alike]
    exact @Alike.refl K (exact functions) _
  · exact beq_iff_eq.mpr (by rw [zero, add_zero])
  · exact beq_iff_eq.mpr (by rw [zero, sub_zero])
  · exact beq_iff_eq.mpr (by rw [zero, zero_div])

end Exact

end Scalar

end Toolpath
