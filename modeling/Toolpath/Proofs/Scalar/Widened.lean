import Toolpath.Proofs.Scalar.Exact
import Toolpath.Proofs.Scalar.Rounding

/-!
Exact arithmetic with a number that is not finite. Floats have numbers that are infinite or undefined, and
parameters are refused for being such; one more number beyond a field stands for them, and what is computed
with it is again beyond the field.
-/

namespace Toolpath

/-- The numbers of a field, which are finite, and one beyond them. -/
inductive Widened (K : Type) where
  | finite (v : K)
  | beyond

namespace Widened

variable {K : Type}

/-- Applied where the number is finite. -/
def lift (f : K → K) : Widened K → Widened K
  | .finite v => .finite (f v)
  | .beyond => .beyond

/-- Applied where both numbers are finite. -/
def lift₂ (f : K → K → K) : Widened K → Widened K → Widened K
  | .finite v, .finite w => .finite (f v w)
  | _, _ => .beyond

/-- Holds between finite numbers only. -/
def Relates (r : K → K → Prop) : Widened K → Widened K → Prop
  | .finite v, .finite w => r v w
  | _, _ => False

instance (r : K → K → Prop) [DecidableRel r] : DecidableRel (Relates r)
  | .finite v, .finite w => inferInstanceAs (Decidable (r v w))
  | .beyond, _ | .finite _, .beyond => inferInstanceAs (Decidable False)

/-- Is one of the field. -/
def isFinite : Widened K → Bool
  | .finite _ => true
  | .beyond => false

end Widened

namespace Scalar

open Widened (lift lift₂ Relates)

/-- The numbers of an ordered field and one beyond them, with the operations of the field among themselves. -/
@[reducible] def widened {K : Type} [Field K] [LinearOrder K] (functions : Functions K) : Scalar (Widened K) where
  add := lift₂ (· + ·)
  sub := lift₂ (· - ·)
  mul := lift₂ (· * ·)
  div := lift₂ (· / ·)
  neg := lift (- ·)
  beq v w := decide (Relates (· = ·) v w)
  lt := Relates (· < ·)
  le := Relates (· ≤ ·)
  ofScientific mantissa negative exponent := .finite (OfScientific.ofScientific mantissa negative exponent)
  decidableLT := fun v w => inferInstanceAs (Decidable (Relates (· < ·) v w))
  decidableLE := fun v w => inferInstanceAs (Decidable (Relates (· ≤ ·) v w))
  isFinite := Widened.isFinite
  ofCount n := .finite n
  toCount
    | .finite v => functions.toCount v
    | .beyond => 0
  sqrt := lift functions.sqrt
  sin := lift functions.sin
  cos := lift functions.cos
  atan2 := lift₂ functions.atan2
  hypot := lift₂ functions.hypot
  remainder := lift₂ functions.remainder
  round := lift functions.round
  pi := .finite functions.pi

/-- A full turn. -/
def Functions.turn {K : Type} [Field K] (functions : Functions K) : K := functions.pi + functions.pi

section Finite

variable {K : Type} [Field K] [LinearOrder K] (functions : Functions K)

theorem widened_zero [IsStrictOrderedRing K] :
    let _ := widened functions
    (0.0 : Widened K) = .finite 0 :=
  congrArg Widened.finite (by norm_num)

theorem widened_add_finite (v : Widened K) (w : K) :
    let _ := widened functions
    v + .finite w = v.lift (· + w) := by
  cases v <;> rfl

theorem widened_turn [IsStrictOrderedRing K] : @turn _ (widened functions) = .finite functions.turn := by
  have two : (2.0 : K) * functions.pi = functions.pi + functions.pi := by
    norm_num [two_mul]
  exact congrArg Widened.finite two

theorem widened_isFinite (values : List K) :
    ∀ v ∈ values.map Widened.finite, @isFinite _ (widened functions) v = true := by
  intro v member
  obtain ⟨w, -, rfl⟩ := List.mem_map.mp member
  rfl

theorem widened_magnitude [IsStrictOrderedRing K] (v : K) :
    @magnitude _ (widened functions) (.finite v) = .finite |v| := by
  have zero : (0.0 : K) = 0 := by norm_num
  unfold magnitude
  split
  · rename_i below
    have below : v < 0.0 := below
    rw [abs_of_neg (zero ▸ below)]
    rfl
  · rename_i above
    have above : ¬ v < 0.0 := above
    rw [abs_of_nonneg (not_lt.mp (zero ▸ above))]

end Finite

/-- Numbers become counts as the floats do: rounded to the nearest whole number, and stopped at the greatest
word. -/
def Functions.counting {K : Type} [Field K] [LinearOrder K] [FloorRing K] (functions : Functions K) : Functions K :=
  { functions with
    round := fun v => nearest v
    toCount := fun v => UInt64.ofNat (min ⌊v⌋₊ (2 ^ 64 - 1)) }

end Scalar

end Toolpath
