import Toolpath.Point

/-!
Numbers and positions that are the same up to the sign of a zero. This is how far the place of the
tool may drift from where it was last seen, since a point that compares equal to it makes no move.
-/

namespace Toolpath

variable {α : Type} [Scalar α]

namespace Scalar

/-- The same number, or both of them zero. -/
def Alike (a b : α) : Prop := a = b ∨ (a == 0.0) = true ∧ (b == 0.0) = true

/-- Numbers that compare equal are the same but for the sign of a zero. -/
class Discerning (α : Type) [Scalar α] : Prop where
  alike_of_beq {a b : α} : (a == b) = true → Alike a b

namespace Alike

theorem refl (a : α) : Alike a a := Or.inl rfl

theorem symm {a b : α} (alike : Alike a b) : Alike b a := by
  rcases alike with same | ⟨left, right⟩
  · exact Or.inl same.symm
  · exact Or.inr ⟨right, left⟩

theorem trans {a b c : α} (first : Alike a b) (second : Alike b c) : Alike a c := by
  rcases first with rfl | ⟨left, middle⟩
  · exact second
  · rcases second with rfl | ⟨_, right⟩
    · exact Or.inr ⟨left, middle⟩
    · exact Or.inr ⟨left, right⟩

end Alike

end Scalar

namespace Position

open Scalar (Alike Discerning)

/-- The same position, but for the signs of zeros. -/
structure Alike (p q : Position α) : Prop where
  x : Scalar.Alike p.x q.x
  y : Scalar.Alike p.y q.y
  z : Scalar.Alike p.z q.z

namespace Alike

theorem refl (p : Position α) : p.Alike p := ⟨.refl _, .refl _, .refl _⟩

theorem symm {p q : Position α} (alike : p.Alike q) : q.Alike p :=
  ⟨alike.x.symm, alike.y.symm, alike.z.symm⟩

theorem trans {p q r : Position α} (first : p.Alike q) (second : q.Alike r) : p.Alike r :=
  ⟨first.x.trans second.x, first.y.trans second.y, first.z.trans second.z⟩

theorem of_beq [Scalar.Discerning α] {p q : Position α} (equal : (p == q) = true) : p.Alike q := by
  have axes : ((p.x == q.x) = true ∧ (p.y == q.y) = true) ∧ (p.z == q.z) = true := by
    simpa only [BEq.beq, Bool.and_eq_true] using equal
  obtain ⟨⟨x, y⟩, z⟩ := axes
  exact ⟨Scalar.Discerning.alike_of_beq x, Scalar.Discerning.alike_of_beq y,
    Scalar.Discerning.alike_of_beq z⟩

end Alike

end Position

end Toolpath
