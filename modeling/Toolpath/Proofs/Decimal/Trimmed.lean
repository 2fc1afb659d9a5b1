import Toolpath.Proofs.Decimal.Canonical
import Mathlib.Data.List.Induction

/-!
How the least text of a number comes about when it is cut out of the text with all places: the zeros at the
end go first, then a point that is left last, then the sign of what is zero now.
-/

namespace Toolpath.Decimal

/-- A text without the characters of one kind that it ends in. -/
def withoutTrailing (c : Char) (text : List Char) : List Char := (text.reverse.dropWhile (· == c)).reverse

/-- The text of so many units with all places, and a sign also on zero. -/
def fixedText (negative : Bool) (places units : Nat) : List Char := (fixedNumeral negative places units).text

/-- A text without its zeros behind a point, without the point if none is left there, and without the sign
of a zero. -/
def trimmed (text : List Char) : List Char :=
  let short := if text.contains '.' then withoutTrailing '.' (withoutTrailing '0' text) else text
  if short = ['-', '0'] then short.tail else short

theorem withoutTrailing_of_getLast? {c : Char} {text : List Char} (last : text.getLast? ≠ some c) :
    withoutTrailing c text = text := by
  rcases List.eq_nil_or_concat' text with rfl | ⟨front, other, rfl⟩
  · rfl
  · rw [List.getLast?_concat] at last
    have differs : ¬ (other == c) = true := fun same => last (congrArg some (eq_of_beq same))
    rw [withoutTrailing, List.reverse_concat, List.dropWhile_cons, if_neg differs, List.reverse_cons,
      List.reverse_reverse]

theorem withoutTrailing_concat (c : Char) (front : List Char) :
    withoutTrailing c (front ++ [c]) = withoutTrailing c front := by
  rw [withoutTrailing, List.reverse_concat, List.dropWhile_cons, if_pos (beq_self_eq_true c)]
  rfl

/-- Nothing is cut off in front of another character. -/
theorem withoutTrailing_append {c other : Char} (differs : other ≠ c) (front back : List Char) :
    withoutTrailing c (front ++ other :: back) = front ++ other :: withoutTrailing c back := by
  induction back using List.reverseRecOn with
  | nil =>
    refine withoutTrailing_of_getLast? ?_
    rw [List.getLast?_concat]
    exact fun same => differs (Option.some.inj same)
  | append_singleton back last ih =>
    rw [← List.cons_append, ← List.append_assoc]
    by_cases same : last = c
    · rw [same, withoutTrailing_concat, withoutTrailing_concat, ih]
    · have kept (text : List Char) : withoutTrailing c (text ++ [last]) = text ++ [last] := by
        refine withoutTrailing_of_getLast? ?_
        rw [List.getLast?_concat]
        exact fun equal => same (Option.some.inj equal)
      rw [kept, kept, List.append_assoc, List.cons_append]

theorem point_notMem_of_isDigit {text : List Char} (all : ∀ c ∈ text, c.isDigit = true) : '.' ∉ text := by
  intro member
  cases all '.' member

/-- Behind the whole digits the zeros and then the point are cut off. -/
theorem cut_pointed {front fraction : List Char} (whole : front.getLast? ≠ some '.')
    (all : ∀ c ∈ fraction, c.isDigit = true) :
    withoutTrailing '.' (withoutTrailing '0' (front ++ '.' :: fraction)) =
      pointed front (withoutTrailingZeros fraction) := by
  rw [withoutTrailing_append (by decide)]
  show withoutTrailing '.' (front ++ '.' :: withoutTrailingZeros fraction) = _
  unfold pointed
  cases kept : withoutTrailingZeros fraction with
  | nil =>
    rw [withoutTrailing_concat, withoutTrailing_of_getLast? whole]
    rfl
  | cons first rest =>
    refine withoutTrailing_of_getLast? fun last => ?_
    rw [List.getLast?_append_of_ne_nil _ (List.cons_ne_nil _ _), List.getLast?_cons_cons, ← kept] at last
    exact point_notMem_of_isDigit all (mem_of_mem_withoutTrailingZeros (List.mem_of_getLast? last))

theorem signed_pointed (negative : Bool) (whole fraction : List Char) :
    (if negative then '-' :: pointed whole fraction else pointed whole fraction) =
      pointed (if negative then '-' :: whole else whole) fraction := by
  cases negative with
  | false => rfl
  | true => cases fraction <;> rfl

/-- The digits in front of the point, with the sign, have no point in them. -/
theorem point_notMem_front (negative : Bool) (places units : Nat) :
    '.' ∉ (if negative then '-' :: wholeDigits places units else wholeDigits places units) := by
  have whole : '.' ∉ wholeDigits places units := point_notMem_of_isDigit fun _ => isDigit_of_mem_digits
  cases negative with
  | false => exact whole
  | true => exact List.not_mem_cons_of_ne_of_not_mem (by decide) whole

/-- What is cut off is cut off behind the point, and the sign stays. -/
theorem cut_fixedText (negative : Bool) (places units : Nat) :
    (if (fixedText negative places units).contains '.' then
        withoutTrailing '.' (withoutTrailing '0' (fixedText negative places units))
      else fixedText negative places units) =
      pointed (if negative then '-' :: wholeDigits places units else wholeDigits places units)
        (withoutTrailingZeros (fractionDigits places units)) := by
  have pointless := point_notMem_front negative places units
  have fixed : fixedText negative places units =
      pointed (if negative then '-' :: wholeDigits places units else wholeDigits places units)
        (fractionDigits places units) := signed_pointed _ _ _
  rw [fixed]
  generalize (if negative then '-' :: wholeDigits places units else wholeDigits places units) = front
    at pointless
  have last : front.getLast? ≠ some '.' := fun point => pointless (List.mem_of_getLast? point)
  cases shown : fractionDigits places units with
  | nil =>
    have none : ¬ (pointed front []).contains '.' = true := by
      rw [List.contains_iff_mem]
      exact pointless
    rw [if_neg none]
    rfl
  | cons first rest =>
    have digits : ∀ c ∈ first :: rest, c.isDigit = true := by
      rw [← shown]
      exact fun _ => isDigit_of_mem_fractionDigits
    have some : (pointed front (first :: rest)).contains '.' = true := by
      rw [List.contains_iff_mem]
      exact List.mem_append_right _ List.mem_cons_self
    rw [if_pos some]
    exact cut_pointed last digits

/-- The least text is what is left of all places. -/
theorem trimmed_fixedText (negative : Bool) (places units : Nat) :
    trimmed (fixedText negative places units) = leastText negative places units := by
  have least := leastNumeral_isCanonical negative places units
  -- The cut leaves the sign, so only a zero with a sign is left to be mended.
  unfold trimmed
  rw [cut_fixedText, ← signed_pointed]
  dsimp only
  by_cases zero : negative = true ∧ units = 0
  · obtain ⟨rfl, rfl⟩ := zero
    have bare : pointed (wholeDigits places 0) (withoutTrailingZeros (fractionDigits places 0)) = ['0'] :=
      leastText_zero false places
    rw [if_pos rfl, bare, leastText_zero]
    rfl
  · have same : (if negative then
        '-' :: pointed (wholeDigits places units) (withoutTrailingZeros (fractionDigits places units))
        else pointed (wholeDigits places units) (withoutTrailingZeros (fractionDigits places units))) =
        (leastNumeral negative places units).text := by
      unfold Numeral.text leastNumeral
      cases negative with
      | false => rfl
      | true =>
        have some : (units != 0) = true := bne_iff_ne.mpr fun none => zero ⟨rfl, none⟩
        rw [some]
        rfl
    rw [same, if_neg least.text_ne_signedZero]
    rfl

end Toolpath.Decimal
