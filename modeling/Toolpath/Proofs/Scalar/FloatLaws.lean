import Toolpath.Proofs.Scalar.FloatEquality
import Toolpath.Proofs.Scalar.FloatOrder
import Toolpath.Proofs.Scalar.Order

/-!
The laws of floats. All but the one that is no number are ranked by their signs, exponents and mantissas,
and to compare them is to compare their ranks; a zero that is added or taken away changes nothing.
-/

namespace Toolpath.FloatScalar

open Float.Model Float.Model.UnpackedFloat
open Scalar (isUndefined Alike)

/-- Where an unpacked float stands among all of them: by its kind and sign, then by its exponent, then by its
mantissa. -/
def rank : UnpackedFloat → ℤ ×ₗ ℤ ×ₗ ℤ
  | .infinity s => toLex (s.apply 2, toLex (0, 0))
  | .finite s m e _ => toLex (s.apply 1, toLex (s.apply e, s.apply m))
  | .notANumber | .zero _ => toLex (0, toLex (0, 0))

theorem then_isLE_iff (e f : Int) (m n : Nat) :
    ((compare e f).then (compare m n)).isLE = true ↔ e < f ∨ e = f ∧ m ≤ n := by
  rcases lt_trichotomy e f with below | rfl | above
  · simp [compare_lt_iff_lt.mpr below, below]
  · simp [Nat.isLE_compare]
  · simp [compare_gt_iff_gt.mpr above, above.le, above.ne']

theorem then_isGE_iff (e f : Int) (m n : Nat) :
    ((compare e f).then (compare m n)).isGE = true ↔ f < e ∨ e = f ∧ n ≤ m := by
  rcases lt_trichotomy e f with below | rfl | above
  · simp [compare_lt_iff_lt.mpr below, below.le, below.ne]
  · simp [Nat.isGE_compare]
  · simp [compare_gt_iff_gt.mpr above, above]

theorem compare_isLE_iff {a b : UnpackedFloat} (left : a ≠ .notANumber) (right : b ≠ .notANumber) :
    (a.compare b).any (·.isLE) = true ↔ rank a ≤ rank b := by
  have signs (s t : Sign) : (compare s t).isLE = true ↔ s.apply 2 ≤ t.apply 2 := by
    cases s <;> cases t <;> decide
  cases a with
  | notANumber => exact absurd rfl left
  | infinity s =>
    cases b with
    | notANumber => exact absurd rfl right
    | infinity t =>
      cases s <;> cases t <;>
        simp [UnpackedFloat.compare, rank, Prod.Lex.toLex_le_toLex, Sign.apply, signs]
    | zero => cases s <;> simp [UnpackedFloat.compare, rank, Prod.Lex.toLex_le_toLex, Sign.apply]
    | finite t =>
      cases s <;> cases t <;> simp [UnpackedFloat.compare, rank, Prod.Lex.toLex_le_toLex, Sign.apply]
  | zero s =>
    cases b with
    | notANumber => exact absurd rfl right
    | zero => simp [UnpackedFloat.compare, rank]
    | infinity t | finite t =>
      cases t <;> simp [UnpackedFloat.compare, rank, Prod.Lex.toLex_le_toLex, Sign.apply]
  | finite s m e =>
    cases b with
    | notANumber => exact absurd rfl right
    | zero => cases s <;> simp [UnpackedFloat.compare, rank, Prod.Lex.toLex_le_toLex, Sign.apply]
    | infinity t => cases s <;> cases t <;> simp [UnpackedFloat.compare, rank, Prod.Lex.toLex_le_toLex, Sign.apply]
    | finite t n f =>
      cases s <;> cases t <;>
        simp [UnpackedFloat.compare, rank, Prod.Lex.toLex_le_toLex, Sign.apply, then_isLE_iff, then_isGE_iff]

theorem beq_iff_compare {a b : Float} :
    (a == b) = true ↔ a.toModel.unpack.compare b.toModel.unpack = some .eq := by
  show (a.toModel.unpack.compare b.toModel.unpack == some .eq) = true ↔ _
  rw [beq_iff_eq]

theorem isUndefined_iff {v : Float} : isUndefined v = true ↔ v.toModel.unpack = .notANumber := by
  have level (s : Sign) : compare s s = .eq := by cases s <;> rfl
  rw [isUndefined, Bool.not_eq_true', ← Bool.not_eq_true, beq_iff_compare]
  cases v.toModel.unpack with
  | notANumber | zero => simp [UnpackedFloat.compare]
  | infinity => simp [UnpackedFloat.compare, level]
  | finite s => cases s <;> simp [UnpackedFloat.compare]

theorem isUndefined_eq_false {v : Float} : isUndefined v = false ↔ v.toModel.unpack ≠ .notANumber := by
  rw [← Bool.not_eq_true, isUndefined_iff]

theorem isUndefined_of_le {a b : Float} (below : a ≤ b) : isUndefined a = false ∧ isUndefined b = false := by
  rw [isUndefined_eq_false, isUndefined_eq_false]
  have compared := le_iff_compare.mp below
  refine ⟨fun none => ?_, fun none => ?_⟩
  · rw [none] at compared
    cases compared
  · rw [none, compare_swap] at compared
    cases compared

theorem le_iff_rank {a b : Float} (left : isUndefined a = false) (right : isUndefined b = false) :
    a ≤ b ↔ rank a.toModel.unpack ≤ rank b.toModel.unpack :=
  le_iff_compare.trans (compare_isLE_iff (isUndefined_eq_false.mp left) (isUndefined_eq_false.mp right))

theorem order : Scalar.IsOrder (fun a b : Float => a ≤ b) (fun a b : Float => a < b) where
  defined below := isUndefined_of_le below
  of_strictly below := by
    rw [le_iff_compare, lt_iff_compare.mp below]
    rfl
  of_not {a b} left right refused := by
    -- Ranks are in one line, so what is not above is below; and it is not level either.
    rw [le_iff_rank right left]
    by_contra above
    have below := (le_iff_rank left right).mpr (not_le.mp above).le
    rw [le_iff_compare] at below
    rw [lt_iff_compare] at refused
    rw [← le_iff_rank right left, le_iff_compare, compare_swap] at above
    cases compared : a.toModel.unpack.compare b.toModel.unpack with
    | none =>
      rw [compared] at below
      cases below
    | some order =>
      rw [compared] at below refused above
      cases order with
      | lt => exact refused rfl
      | eq => exact above rfl
      | gt => cases below
  of_beq {a b} equal := by
    have compared := beq_iff_compare.mp equal
    rw [le_iff_compare, le_iff_compare, compare_swap a.toModel.unpack, compared]
    exact ⟨rfl, rfl⟩
  beq {a b} below above := by
    rw [le_iff_compare] at below above
    rw [compare_swap] at above
    rw [beq_iff_compare]
    cases compared : a.toModel.unpack.compare b.toModel.unpack with
    | none =>
      rw [compared] at below
      cases below
    | some order =>
      rw [compared] at below above
      cases order with
      | eq => rfl
      | lt => cases above
      | gt => cases below
  trans {a b c} first second := by
    have left := (isUndefined_of_le first).1
    obtain ⟨middle, right⟩ := isUndefined_of_le second
    rw [le_iff_rank left middle] at first
    rw [le_iff_rank middle right] at second
    exact (le_iff_rank left right).mpr (first.trans second)

instance : Scalar.Ordered Float where
  upward := order
  isUndefined_of_isFinite {v} finite := by
    rw [isUndefined_eq_false]
    intro none
    have finite : v.toModel.unpack.isFinite = true := finite
    rw [none] at finite
    cases finite
  isFinite_zero := by decide
  eq_of_isUndefined {a b} left right := by
    rw [isUndefined_iff] at left right
    exact eq_of_unpack_eq (left.trans right.symm)

theorem exists_zero_of_beq {z : Float} (zero : (z == 0.0) = true) : ∃ s, z.toModel.unpack = .zero s := by
  rcases beq_zero_iff.mp zero with rfl | rfl
  · exact ⟨.positive, rfl⟩
  · exact ⟨.negative, rfl⟩

theorem toModel_eq_pack (v : Float) : v.toModel = .pack v.toModel.unpack := by
  obtain ⟨⟨bits, valid⟩⟩ := v
  have word := congrArg UInt64.ofBitVec (pack_unpack valid)
  exact (Float.Model.mk.injEq ..).mpr word.symm

theorem eq_of_toModel_eq {v w : Float} (same : v.toModel = w.toModel) : v = w := by
  cases v
  cases w
  exact congrArg _ same

/-- Operations that give one unpacked float, or two zeros, give floats that are the same but for the sign
of a zero. -/
theorem alike_of_pack {v w : Float} {a b : UnpackedFloat} (left : v.toModel = .pack a)
    (right : w.toModel = .pack b) (same : a = b ∨ (∃ s, a = .zero s) ∧ ∃ s, b = .zero s) : Alike v w := by
  have zero {u : Float} {s : Sign} (isZero : u.toModel = .pack (.zero s)) : (u == 0.0) = true := by
    refine beq_zero_iff.mpr (eq_zero_of_unpack (s := s) ?_)
    rw [isZero]
    cases s <;> rfl
  rcases same with rfl | ⟨⟨s, rfl⟩, t, rfl⟩
  · exact Or.inl (eq_of_toModel_eq (left.trans right.symm))
  · exact Or.inr ⟨zero left, zero right⟩

section Zero

variable {z w v : Float}

theorem add_zero_alike (zero : (z == 0.0) = true) : Alike (v + z) v := by
  obtain ⟨s, atZ⟩ := exists_zero_of_beq zero
  refine alike_of_pack (a := .add .binary64 v.toModel.unpack (.zero s)) (atZ ▸ rfl) (toModel_eq_pack v) ?_
  cases v.toModel.unpack with
  | zero t => exact Or.inr ⟨by cases s <;> cases t <;> exact ⟨_, rfl⟩, t, rfl⟩
  | notANumber | infinity | finite => exact Or.inl rfl

theorem zero_add_alike (zero : (z == 0.0) = true) : Alike (z + v) v := by
  obtain ⟨s, atZ⟩ := exists_zero_of_beq zero
  refine alike_of_pack (a := .add .binary64 (.zero s) v.toModel.unpack) (atZ ▸ rfl) (toModel_eq_pack v) ?_
  cases v.toModel.unpack with
  | zero t => exact Or.inr ⟨by cases s <;> cases t <;> exact ⟨_, rfl⟩, t, rfl⟩
  | notANumber | infinity | finite => exact Or.inl rfl

theorem sub_zero_alike (zero : (z == 0.0) = true) : Alike (v - z) v := by
  obtain ⟨s, atZ⟩ := exists_zero_of_beq zero
  refine alike_of_pack (a := .sub .binary64 v.toModel.unpack (.zero s)) (atZ ▸ rfl) (toModel_eq_pack v) ?_
  cases v.toModel.unpack with
  | zero t => exact Or.inr ⟨by cases s <;> cases t <;> exact ⟨_, rfl⟩, t, rfl⟩
  | notANumber | infinity | finite => exact Or.inl rfl

theorem zero_sub_alike (zero : (z == 0.0) = true) (other : (w == 0.0) = true) :
    Alike (z - v) (w - v) := by
  obtain ⟨s, atZ⟩ := exists_zero_of_beq zero
  obtain ⟨t, atW⟩ := exists_zero_of_beq other
  refine alike_of_pack (a := .sub .binary64 (.zero s) v.toModel.unpack)
    (b := .sub .binary64 (.zero t) v.toModel.unpack) (atZ ▸ rfl) (atW ▸ rfl) ?_
  cases v.toModel.unpack with
  | zero u =>
    exact Or.inr ⟨by cases s <;> cases u <;> exact ⟨_, rfl⟩, by cases t <;> cases u <;> exact ⟨_, rfl⟩⟩
  | notANumber | infinity | finite => exact Or.inl rfl

end Zero

instance : Scalar.Unsigned Float where
  add_alike {a b c d} left right := by
    rcases left with rfl | ⟨zeroA, zeroB⟩
    · rcases right with rfl | ⟨zeroC, zeroD⟩
      · exact .refl _
      · exact (add_zero_alike zeroC).trans (add_zero_alike zeroD).symm
    · exact (zero_add_alike zeroA).trans (right.trans (zero_add_alike zeroB).symm)
  sub_alike {a b c d} left right := by
    -- What is taken away first: then the zero it is taken from has one sign or the other.
    have other : Alike (b - c) (b - d) := by
      rcases right with rfl | ⟨zeroC, zeroD⟩
      · exact .refl _
      · exact (sub_zero_alike zeroC).trans (sub_zero_alike zeroD).symm
    rcases left with rfl | ⟨zeroA, zeroB⟩
    · exact other
    · exact (zero_sub_alike zeroA zeroB).trans other
  half_alike {a b} alike := by
    have half {z : Float} (zero : (z == 0.0) = true) : (z / 2.0 == 0.0) = true := by
      rcases beq_zero_iff.mp zero with rfl | rfl <;> decide
    rcases alike with rfl | ⟨zeroA, zeroB⟩
    · exact .refl _
    · exact Or.inr ⟨half zeroA, half zeroB⟩
  add_zero_zero := by decide
  sub_zero_zero := by decide
  half_zero := by decide

end Toolpath.FloatScalar
