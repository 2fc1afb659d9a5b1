import Toolpath.Decimal.Layout

/-!
The characters that numbers are written with. No text of a number has a blank or a line break in it.
-/

namespace Toolpath.Decimal

/-- Digits, a sign, a point, and the letters of the words for what is no finite number. -/
def isNumeric (c : Char) : Bool := c.isDigit || "-.NaNinf".toList.contains c

theorem isNumeric_of_mem_digits {n : Nat} {c : Char} (member : c ∈ digits n) :
    isNumeric c = true := by
  have digit : c.isDigit = true := Nat.isDigit_of_mem_toDigits (by decide) (by decide) member
  rw [isNumeric, digit, Bool.true_or]

theorem isNumeric_of_mem_replicate {count : Nat} {c : Char}
    (member : c ∈ List.replicate count '0') : isNumeric c = true := by
  rw [(List.mem_replicate.mp member).2]
  decide

theorem mem_of_mem_withoutTrailingZeros {text : List Char} {c : Char}
    (member : c ∈ withoutTrailingZeros text) : c ∈ text := by
  have kept := List.mem_reverse.mp member
  exact List.mem_reverse.mp ((List.dropWhile_sublist _).mem kept)

theorem isNumeric_of_mem_fractionDigits {places units : Nat} {c : Char}
    (member : c ∈ fractionDigits places units) : isNumeric c = true := by
  unfold fractionDigits digitsOfWidth at member
  split at member
  · cases member
  · rcases List.mem_append.mp member with zero | digit
    · exact isNumeric_of_mem_replicate zero
    · exact isNumeric_of_mem_digits digit

theorem isNumeric_of_mem_pointed {whole fraction : List Char}
    (wholes : ∀ c ∈ whole, isNumeric c = true) (fractions : ∀ c ∈ fraction, isNumeric c = true) :
    ∀ c ∈ pointed whole fraction, isNumeric c = true := by
  unfold pointed
  split
  · exact wholes
  · intro c member
    rcases List.mem_append.mp member with before | behind
    · exact wholes c before
    · rcases List.mem_cons.mp behind with rfl | later
      · decide
      · exact fractions c later

theorem isNumeric_of_mem_signed {negative : Bool} {size : List Char}
    (sizes : ∀ c ∈ size, isNumeric c = true) :
    ∀ c ∈ (if negative then '-' :: size else size), isNumeric c = true := by
  split
  · intro c member
    rcases List.mem_cons.mp member with rfl | later
    · decide
    · exact sizes c later
  · exact sizes

theorem isNumeric_of_mem_leastText (negative : Bool) (places units : Nat) :
    ∀ c ∈ leastText negative places units, isNumeric c = true :=
  isNumeric_of_mem_signed <| isNumeric_of_mem_pointed (fun _ => isNumeric_of_mem_digits)
    fun _ member => isNumeric_of_mem_fractionDigits (mem_of_mem_withoutTrailingZeros member)

theorem isNumeric_of_mem_positional (s : Scientific) :
    ∀ c ∈ s.positional false, isNumeric c = true := by
  intro c member
  have shown (part : List Char) (inside : part.Sublist (digits s.figures)) (found : c ∈ part) :
      isNumeric c = true := isNumeric_of_mem_digits (inside.mem found)
  dsimp only [Scientific.positional] at member
  split at member
  · rw [if_neg (by decide), List.append_nil] at member
    rcases List.mem_append.mp member with digit | zero
    · exact isNumeric_of_mem_digits digit
    · exact isNumeric_of_mem_replicate zero
  · split at member
    · rcases List.mem_append.mp member with before | behind
      · exact shown _ (List.take_sublist _ _) before
      · rcases List.mem_cons.mp behind with rfl | later
        · decide
        · exact shown _ (List.drop_sublist _ _) later
    · rcases List.mem_append.mp member with leading | digit
      · rcases List.mem_cons.mp leading with rfl | behind
        · decide
        · rcases List.mem_cons.mp behind with rfl | zero
          · decide
          · exact isNumeric_of_mem_replicate zero
      · exact isNumeric_of_mem_digits digit

/-- The words for what is no finite number. -/
theorem isNumeric_of_mem_word {word : String} (known : word ∈ ["NaN", "-inf", "inf"]) :
    ∀ c ∈ word.toList, isNumeric c = true := by
  refine List.all_eq_true.mp ?_
  simp only [List.mem_cons, List.not_mem_nil, or_false] at known
  rcases known with rfl | rfl | rfl <;> decide

theorem isNumeric_of_mem_plain (v : Float) : ∀ c ∈ (plain v).toList, isNumeric c = true := by
  unfold plain Layout.text
  split
  · exact isNumeric_of_mem_word (by decide)
  · split
    · exact isNumeric_of_mem_word (by decide)
    · exact isNumeric_of_mem_word (by decide)
  · rw [String.toList_ofList]
    refine isNumeric_of_mem_signed ?_
    dsimp only [Layout.size, Layout.plain]
    split
    · exact fun c zero => List.mem_singleton.mp zero ▸ rfl
    · exact isNumeric_of_mem_positional _

end Toolpath.Decimal
