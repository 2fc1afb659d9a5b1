import Mathlib.Data.List.Forall2
import Toolpath.Proofs.Document.Json.Build
import Toolpath.Proofs.Document.Json.Scan

/-!
JSON text is read back as the value it was written for.

The text is scanned to the tokens of the value, blanks and line breaks between them being skipped, and
the tokens are put together to the value again.
-/

namespace Toolpath.Json

theorem tokensFrom_eq (done : List Token) (text : List Char) :
    tokensFrom done text =
      match text.dropWhile isBlank with
      | [] => some done.reverse
      | c :: rest => (token? c rest).bind fun (token, after) => tokensFrom (token :: done) after := by
  rw [tokensFrom]
  split
  · rename_i start
    rw [start]
  · rename_i c rest start
    rw [start]
    show _ = (token? c rest).bind _
    split
    · rename_i read
      rw [read]
      rfl
    · rename_i read
      rw [read]
      rfl

/-- Blanks are skipped. -/
theorem tokensFrom_append_of_blank {blanks : List Char} (blank : ∀ c ∈ blanks, isBlank c = true)
    (done : List Token) (rest : List Char) :
    tokensFrom done (blanks ++ rest) = tokensFrom done rest := by
  rw [tokensFrom_eq, List.dropWhile_append_of_pos blank, ← tokensFrom_eq]

/-- A token is taken from where it begins. -/
theorem tokensFrom_cons {rest after : List Char} {c : Char} {token : Token} (visible : isBlank c = false)
    (read : token? c rest = some (token, after)) (done : List Token) :
    tokensFrom done (c :: rest) = tokensFrom (token :: done) after := by
  rw [tokensFrom_eq, List.dropWhile_cons_of_neg (by simp [visible])]
  show (token? c rest).bind _ = _
  rw [read, Option.bind_some]

/-- The text is scanned to these tokens in front of all that a number ends in front of. -/
def Scans (text : String) (tokens : List Token) : Prop :=
  ∀ done rest, Ended rest →
    tokensFrom done (text.toList ++ rest) = tokensFrom (tokens.reverse ++ done) rest

theorem tokensFrom_quote (text : String) (done : List Token) (rest : List Char) :
    tokensFrom done ((quote text).toList ++ rest) = tokensFrom (.text text :: done) rest := by
  have quoted : quoted? [] (text.toList.flatMap escape ++ '"' :: rest) = some (text, rest) := by
    rw [quoted?_flatMap_escape, List.reverse_nil, List.nil_append, String.ofList_toList]
  rw [quote, String.toList_ofList]
  show tokensFrom done ('"' :: (text.toList.flatMap escape ++ ['"'] ++ rest)) = _
  rw [List.append_assoc]
  have read : token? '"' (text.toList.flatMap escape ++ '"' :: rest) = some (.text text, rest) := by
    show (quoted? [] _).map _ = _
    rw [quoted, Option.map_some]
  exact tokensFrom_cons rfl read done

theorem scans_quote (text : String) : Scans (quote text) [.text text] :=
  fun done rest _ => tokensFrom_quote text done rest

/-- Tokens that are read stay in front. -/
theorem prefix_of_tokensFrom {done tokens : List Token} {text : List Char}
    (read : tokensFrom done text = some tokens) : done.reverse <+: tokens := by
  fun_induction tokensFrom done text with
  | case1 => exact Option.some.inj read ▸ List.prefix_rfl
  | case2 => cases read
  | case3 done text c rest start token after first ih =>
    rw [List.reverse_cons] at ih
    exact (List.prefix_append _ _).trans (ih read)

/-- A number alone in a document is scanned there as it is anywhere else. -/
theorem scans_of_tokens? {text : String} {v : Float}
    (alone : tokens? text = some [.value (.float v)]) : Scans text [.value (.float v)] := by
  intro done rest ended
  rw [tokens?, tokensFrom_eq] at alone
  cases start : text.toList.dropWhile isBlank with
  | nil =>
    rw [start] at alone
    cases alone
  | cons c more =>
    rw [start] at alone
    obtain ⟨⟨token, after⟩, read, others⟩ := Option.bind_eq_some_iff.mp alone
    replace others : tokensFrom [token] after = some [.value (.float v)] := others
    have only : token = .value (.float v) ∧ after.dropWhile isBlank = [] := by
      rw [tokensFrom_eq] at others
      cases behind : after.dropWhile isBlank with
      | nil =>
        rw [behind] at others
        cases others
        exact ⟨rfl, rfl⟩
      | cons d left =>
        -- A second token would be there as well, since those that are read stay.
        rw [behind] at others
        obtain ⟨_, -, further⟩ := Option.bind_eq_some_iff.mp others
        have two := (prefix_of_tokensFrom further).length_le
        simp at two
    obtain ⟨rfl, blank⟩ := only
    have begins : (text.toList ++ rest).dropWhile isBlank = c :: (more ++ rest) := by
      rw [List.dropWhile_append, start]
      rfl
    rw [tokensFrom_eq, begins]
    show (token? c (more ++ rest)).bind _ = _
    rw [token?_float_append ended read]
    exact tokensFrom_append_of_blank (List.dropWhile_eq_nil_iff.mp blank) _ rest

theorem number?_digits {n : Nat} (small : n < Decimal.twoTo 64) :
    number? ⟨false, Decimal.digits n, [], none⟩ = some (.integer n) := by
  simp [number?, Decimal.valueOfDigits_digits, small]

theorem number?_neg_digits {n : Nat} (positive : 0 < n) (small : n ≤ Decimal.twoTo 63) :
    number? ⟨true, Decimal.digits n, [], none⟩ = some (.integer (-n)) := by
  simp [number?, Decimal.valueOfDigits_digits, positive, small]

theorem isBlank_of_isDigit {c : Char} (digit : c.isDigit = true) : isBlank c = false := by
  rw [Bool.eq_false_iff]
  intro blank
  simp only [isBlank, Bool.or_eq_true, decide_eq_true_eq] at blank
  rcases blank with ((rfl | rfl) | rfl) | rfl <;> cases digit

theorem tokensFrom_digits {n : Nat} (small : n < Decimal.twoTo 64) (done : List Token) {rest : List Char}
    (ended : Ended rest) :
    tokensFrom done (Decimal.digits n ++ rest) = tokensFrom (.value (.integer n) :: done) rest := by
  obtain ⟨c, more, shown⟩ := List.exists_cons_of_ne_nil (Decimal.digits_ne_nil n)
  have digit : c.isDigit = true :=
    Nat.isDigit_of_mem_toDigits (by decide) (by decide) (shown ▸ List.mem_cons_self)
  have read : token? c (more ++ rest) = some (.value (.integer n), rest) := by
    rw [token?_of_isDigit digit, ← List.cons_append, ← shown, unsigned?_digits false n ended,
      number?_digits small]
    rfl
  rw [shown]
  exact tokensFrom_cons (isBlank_of_isDigit digit) read done

theorem scans_integer {number : Int} (least : -Decimal.twoTo 63 ≤ number)
    (greatest : number < Decimal.twoTo 64) : Scans (toString number) [.value (.integer number)] := by
  intro done rest ended
  rw [Int.toString_eq_repr, Int.repr_eq_if]
  split
  · obtain ⟨n, rfl⟩ := Int.eq_ofNat_of_zero_le ‹0 ≤ number›
    rw [Nat.repr_eq_ofList_toDigits, String.toList_ofList]
    exact tokensFrom_digits (by omega) done ended
  · obtain ⟨n, rfl⟩ : ∃ n : Nat, number = -n := ⟨(-number).toNat, by omega⟩
    have read : token? '-' (Decimal.digits n ++ rest) = some (.value (.integer (-n)), rest) := by
      show (unsigned? true _).map _ = _
      rw [unsigned?_digits true n ended, number?_neg_digits (by omega) (by omega)]
      rfl
    simp only [Int.neg_neg, Int.toNat_natCast, Nat.repr_eq_ofList_toDigits, String.toList_append,
      String.toList_ofList]
    exact tokensFrom_cons rfl read done

theorem prettyAt_of_simple {value : Value} (level : Nat) (simple : value.isCompound = false) :
    prettyAt level value = atom value := by
  cases value with
  | null | bool | integer | float | string => rw [prettyAt] <;> simp
  | array | object => cases simple

/-- A value without parts has one token. -/
theorem scans_of_simple {value : Value} (legible : value.Legible) (simple : value.isCompound = false)
    (level : Nat) : Scans (prettyAt level value) value.tokens := by
  rw [prettyAt_of_simple level simple]
  cases legible with
  | null => exact fun done rest _ => tokensFrom_cons rfl rfl done
  | bool truth => cases truth <;> exact fun done rest _ => tokensFrom_cons rfl rfl done
  | integer least greatest => exact scans_integer least greatest
  | float inverted =>
    obtain ⟨tokens, scanned, built⟩ := Option.bind_eq_some_iff.mp inverted
    rw [tokens_of_float built] at scanned
    exact scans_of_tokens? scanned
  | string text => exact scans_quote text
  | array | object => cases simple

theorem isBlank_of_mem_lineBreak {level : Nat} {c : Char} (member : c ∈ (lineBreak level).toList) :
    isBlank c = true := by
  rw [lineBreak, String.toList_ofList, List.mem_cons] at member
  rcases member with rfl | blank
  · rfl
  · rw [(List.mem_replicate.mp blank).2]
    rfl

theorem tokensFrom_lineBreak (level : Nat) (done : List Token) (rest : List Char) :
    tokensFrom done ((lineBreak level).toList ++ rest) = tokensFrom done rest :=
  tokensFrom_append_of_blank (fun _ => isBlank_of_mem_lineBreak) done rest

theorem ended_lineBreak (level : Nat) (rest : List Char) : Ended ((lineBreak level).toList ++ rest) := by
  intro c first
  rw [lineBreak, String.toList_ofList] at first
  cases first
  decide

theorem ended_comma (rest : List Char) : Ended (",".toList ++ rest) := by
  intro c first
  cases first
  decide

theorem tokensFrom_comma (done : List Token) (rest : List Char) :
    tokensFrom done (",".toList ++ rest) = tokensFrom (.comma :: done) rest :=
  tokensFrom_cons rfl rfl done

theorem tokensFrom_colon (done : List Token) (rest : List Char) :
    tokensFrom done (": ".toList ++ rest) = tokensFrom (.colon :: done) rest := by
  have blank : ∀ c ∈ [' '], isBlank c = true := List.forall_mem_singleton.mpr rfl
  exact (tokensFrom_cons rfl rfl done).trans (tokensFrom_append_of_blank blank _ rest)

/-- Parts between commas, each on its line. -/
theorem scans_intercalate (level : Nat) {parts : List String} {tokens : List (List Token)}
    (each : List.Forall₂ Scans parts tokens) :
    Scans (("," ++ lineBreak level).intercalate parts) ([.comma].intercalate tokens) := by
  induction each with
  | nil => exact fun done rest _ => rfl
  | @cons part first parts others scanned later ih =>
    cases later with
    | nil => rwa [String.intercalate_singleton, List.intercalate_singleton]
    | @cons second _ _ _ _ _ =>
      intro done rest ended
      rw [String.intercalate_cons_cons, List.intercalate_cons_cons]
      simp only [String.toList_append, List.append_assoc, List.reverse_append]
      rw [scanned done _ (ended_comma _), tokensFrom_comma, tokensFrom_lineBreak, ih _ rest ended]
      rfl

/-- Parts between brackets. -/
theorem scans_block (level : Nat) {opening closing : String} {opens closes : Token}
    (opened : ∀ done rest,
      tokensFrom done (opening.toList ++ rest) = tokensFrom (opens :: done) rest)
    (closed : ∀ done rest,
      tokensFrom done (closing.toList ++ rest) = tokensFrom (closes :: done) rest)
    {parts : List String} {tokens : List (List Token)} (each : List.Forall₂ Scans parts tokens) :
    Scans (block level opening closing parts) (opens :: ([.comma].intercalate tokens ++ [closes])) := by
  intro done rest ended
  unfold block
  cases each with
  | nil =>
    rw [List.isEmpty_nil, if_pos rfl, String.toList_append, List.append_assoc, opened, closed]
    rfl
  | @cons part first parts others scanned later =>
    have inside := scans_intercalate (level + 1) (.cons scanned later)
    have behind : Ended ((lineBreak level).toList ++ (closing.toList ++ rest)) := ended_lineBreak _ _
    rw [List.isEmpty_cons, if_neg Bool.false_ne_true]
    simp only [String.toList_append, List.append_assoc] at inside ⊢
    rw [opened, tokensFrom_lineBreak, inside _ _ behind, tokensFrom_lineBreak, closed]
    simp only [List.reverse_cons, List.reverse_append, List.reverse_nil, List.nil_append,
      List.append_assoc, List.cons_append]

theorem forall₂_scans_items {level : Nat} {items : List Value}
    (each : ∀ item ∈ items, Scans (prettyAt level item) item.tokens) :
    List.Forall₂ Scans (prettyItems level items) (Value.tokensOfItems items) := by
  induction items with
  | nil => exact .nil
  | cons item rest ih =>
    exact .cons (each item List.mem_cons_self) (ih fun other member =>
      each other (List.mem_cons_of_mem _ member))

theorem forall₂_scans_fields {level : Nat} {fields : List (String × Value)}
    (each : ∀ field ∈ fields, Scans (prettyAt level field.2) field.2.tokens) :
    List.Forall₂ Scans (prettyFields level fields) (Value.tokensOfFields fields) := by
  induction fields with
  | nil => exact .nil
  | cons field rest ih =>
    refine .cons ?_ (ih fun other member => each other (List.mem_cons_of_mem _ member))
    intro done rest ended
    simp only [String.toList_append, List.append_assoc]
    rw [tokensFrom_quote, tokensFrom_colon, each field List.mem_cons_self _ rest ended]
    simp only [List.reverse_cons, List.append_assoc, List.cons_append, List.nil_append]

/-- The layout of a value is scanned to its tokens, however deep it stands. -/
theorem scans_prettyAt {value : Value} (legible : value.Legible) (level : Nat) :
    Scans (prettyAt level value) value.tokens := by
  induction legible generalizing level with
  | null => exact scans_of_simple .null rfl level
  | bool truth => exact scans_of_simple (.bool truth) rfl level
  | integer least greatest => exact scans_of_simple (.integer least greatest) rfl level
  | float inverted => exact scans_of_simple (.float inverted) rfl level
  | string text => exact scans_of_simple (.string text) rfl level
  | @array items each ih =>
    have opened (done rest) :
        tokensFrom done ("[".toList ++ rest) = tokensFrom (.openArray :: done) rest :=
      tokensFrom_cons rfl rfl done
    have closed (done rest) :
        tokensFrom done ("]".toList ++ rest) = tokensFrom (.closeArray :: done) rest :=
      tokensFrom_cons rfl rfl done
    rw [prettyAt, Value.tokens]
    exact scans_block level opened closed (forall₂_scans_items fun item member => ih item member _)
  | @object fields once each ih =>
    have opened (done rest) :
        tokensFrom done ("\x7b".toList ++ rest) = tokensFrom (.openObject :: done) rest :=
      tokensFrom_cons rfl rfl done
    have closed (done rest) :
        tokensFrom done ("\x7d".toList ++ rest) = tokensFrom (.closeObject :: done) rest :=
      tokensFrom_cons rfl rfl done
    rw [prettyAt, Value.tokens]
    exact scans_block level opened closed (forall₂_scans_fields fun field member => ih field member _)

/-- A legible value that is not too deep is read back from its text. -/
theorem read?_pretty {value : Value} (legible : value.Legible)
    (shallow : value.depth ≤ Builder.deepest) : read? (pretty value) = some value := by
  have scanned : tokens? (pretty value) = some value.tokens := by
    have whole := scans_prettyAt legible 0 [] [] ended_nil
    rw [List.append_nil, List.append_nil, tokensFrom_eq _ []] at whole
    rw [tokens?, pretty, whole]
    show some value.tokens.reverse.reverse = _
    rw [List.reverse_reverse]
  rw [read?, scanned, Option.bind_some, ofTokens?_tokens legible shallow]

end Toolpath.Json
