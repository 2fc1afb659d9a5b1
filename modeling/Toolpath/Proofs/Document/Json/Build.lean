import Toolpath.Document.Json.Read
import Toolpath.Document.Json.Write

/-!
Which values are put together again from their own tokens, and how deep they may nest.

The builder keeps the open arrays and objects on a stack. The tokens of a value, taken where a value
may begin, leave the stack as it was and put the value where the builder puts every value.
-/

namespace Toolpath

namespace Value

mutual

/-- How many arrays and objects of a value stand inside one another at most. -/
def depth : Value → Nat
  | .array items => depthOfItems items + 1
  | .object fields => depthOfFields fields + 1
  | _ => 0

/-- The depth of the deepest of some items. -/
def depthOfItems : List Value → Nat
  | [] => 0
  | item :: rest => max item.depth (depthOfItems rest)

/-- The depth of the deepest of some fields. -/
def depthOfFields : List (String × Value) → Nat
  | [] => 0
  | (_, value) :: rest => max value.depth (depthOfFields rest)

end

theorem depth_le_depthOfItems {items : List Value} {item : Value} (member : item ∈ items) :
    item.depth ≤ depthOfItems items := by
  induction items with
  | nil => cases member
  | cons first rest ih =>
    rw [depthOfItems]
    rcases List.mem_cons.mp member with rfl | later
    · exact Nat.le_max_left _ _
    · exact Nat.le_trans (ih later) (Nat.le_max_right _ _)

theorem depth_le_depthOfFields {fields : List (String × Value)} {field : String × Value}
    (member : field ∈ fields) : field.2.depth ≤ depthOfFields fields := by
  induction fields with
  | nil => cases member
  | cons first rest ih =>
    rw [depthOfFields]
    rcases List.mem_cons.mp member with rfl | later
    · exact Nat.le_max_left _ _
    · exact Nat.le_trans (ih later) (Nat.le_max_right _ _)

/-- A name that is not there yet is set at the end. -/
theorem set_of_notMem {name : String} {fields : List (String × Value)}
    (absent : name ∉ fields.map Prod.fst) (value : Value) :
    set name value fields = fields ++ [(name, value)] := by
  induction fields with
  | nil => rfl
  | cons field rest ih =>
    rw [List.map_cons, List.mem_cons, not_or] at absent
    rw [set, if_neg (Ne.symm absent.1), ih absent.2, List.cons_append]

/-- A value that is its own in JSON text: the whole numbers have 64 bits, each float is read back from
the text that is written for it, and no object has a name twice. -/
inductive Legible : Value → Prop
  | null : Legible .null
  | bool (truth : Bool) : Legible (.bool truth)
  | integer {number : Int} (least : -Decimal.twoTo 63 ≤ number) (greatest : number < Decimal.twoTo 64) :
    Legible (.integer number)
  | float {number : Float}
    (inverted : Json.read? (Json.pretty (.float number)) = some (.float number)) :
    Legible (.float number)
  | string (text : String) : Legible (.string text)
  | array {items : List Value} (each : ∀ item ∈ items, Legible item) : Legible (.array items)
  | object {fields : List (String × Value)} (once : (fields.map Prod.fst).Nodup)
    (each : ∀ field ∈ fields, Legible field.2) : Legible (.object fields)

mutual

/-- The tokens of a value. -/
def tokens : Value → List Json.Token
  | .array items => .openArray :: ([.comma].intercalate (tokensOfItems items) ++ [.closeArray])
  | .object fields => .openObject :: ([.comma].intercalate (tokensOfFields fields) ++ [.closeObject])
  | .string text => [.text text]
  | value => [.value value]

/-- The tokens of each of some items. -/
def tokensOfItems : List Value → List (List Json.Token)
  | [] => []
  | item :: rest => item.tokens :: tokensOfItems rest

/-- The tokens of each of some fields. -/
def tokensOfFields : List (String × Value) → List (List Json.Token)
  | [] => []
  | (name, value) :: rest => (.text name :: .colon :: value.tokens) :: tokensOfFields rest

end

/-- Whether a value may have parts. -/
def isCompound : Value → Bool
  | .array _ => true
  | .object _ => true
  | _ => false

end Value

namespace Json

/-- Whether a value may come next. -/
def Expected.takesValue : Expected → Bool
  | .value => true
  | .valueOrClose => true
  | _ => false

/-- Whether a name may come next. -/
def Expected.takesName : Expected → Bool
  | .name => true
  | .nameOrClose => true
  | _ => false

namespace Builder

theorem take_of_takesValue {expected : Expected} (takes : expected.takesValue = true)
    (frames : List Frame) {token : Token} (opens : token ≠ .closeArray) :
    take ⟨frames, expected⟩ token = begin frames token := by
  cases expected with
  | value => rfl
  | valueOrClose =>
    cases token with
    | closeArray => exact absurd rfl opens
    | openArray | openObject | closeObject | colon | comma | text | value => rfl
  | name | nameOrClose | colon | commaOrClose | nothing => cases takes

theorem take_of_takesName {expected : Expected} (takes : expected.takesName = true)
    (frames : List Frame) (name : String) :
    take ⟨frames, expected⟩ (.text name) = named name frames := by
  cases expected with
  | name | nameOrClose => rfl
  | value | valueOrClose | colon | commaOrClose | nothing => cases takes

/-- Items between commas are put into the open array one by one, if the tokens of each put it there. -/
theorem foldlM_take_items {frames : List Frame} {items : List Value} (filled : items ≠ [])
    (each : ∀ item ∈ items, ∀ done expected, expected.takesValue = true →
      item.tokens.foldlM take ⟨.array done :: frames, expected⟩ =
        some (place item (.array done :: frames)))
    {expected : Expected} (takes : expected.takesValue = true) (done : List Value) :
    ([.comma].intercalate (Value.tokensOfItems items)).foldlM take ⟨.array done :: frames, expected⟩ =
      some ⟨.array (items.reverse ++ done) :: frames, .commaOrClose⟩ := by
  -- The first item may stand behind a bracket or a comma, the others stand behind commas.
  induction items generalizing done expected with
  | nil => exact absurd rfl filled
  | cons item rest ih =>
    have first := each item List.mem_cons_self done expected takes
    cases rest with
    | nil =>
      rw [Value.tokensOfItems, Value.tokensOfItems, List.intercalate_singleton, first]
      rfl
    | cons second rest =>
      have others := ih (List.cons_ne_nil second rest)
        (fun item member => each item (List.mem_cons_of_mem _ member))
        (rfl : Expected.value.takesValue = true) (item :: done)
      rw [Value.tokensOfItems] at others ⊢
      rw [Value.tokensOfItems, List.intercalate_cons_cons, List.append_assoc, List.foldlM_append, first,
        List.reverse_cons, List.append_assoc]
      exact others

/-- Fields between commas are put into the open object one by one, if the tokens of each value put it
under its name and no name comes twice. -/
theorem foldlM_take_fields {frames : List Frame} {fields : List (String × Value)} (filled : fields ≠ [])
    (each : ∀ field ∈ fields, ∀ done name,
      field.2.tokens.foldlM take ⟨.object done name :: frames, .value⟩ =
        some (place field.2 (.object done name :: frames)))
    {expected : Expected} (takes : expected.takesName = true) (done : List (String × Value))
    (once : ((done ++ fields).map Prod.fst).Nodup) (name : String) :
    ∃ last, ([.comma].intercalate (Value.tokensOfFields fields)).foldlM take
        ⟨.object done name :: frames, expected⟩ =
      some ⟨.object (done ++ fields) last :: frames, .commaOrClose⟩ := by
  induction fields generalizing done expected name with
  | nil => exact absurd rfl filled
  | cons field rest ih =>
    obtain ⟨label, value⟩ := field
    have fresh : label ∉ done.map Prod.fst := by
      rw [List.map_append, List.map_cons] at once
      intro known
      exact (List.nodup_append.mp once).2.2 label known label List.mem_cons_self rfl
    have first : (Token.text label :: .colon :: value.tokens).foldlM take
        ⟨.object done name :: frames, expected⟩ =
          some ⟨.object (done ++ [(label, value)]) label :: frames, .commaOrClose⟩ := by
      rw [List.foldlM_cons, take_of_takesName takes, ← Value.set_of_notMem fresh]
      exact each (label, value) List.mem_cons_self done label
    cases rest with
    | nil =>
      refine ⟨label, ?_⟩
      rw [Value.tokensOfFields, Value.tokensOfFields, List.intercalate_singleton, first]
    | cons second rest =>
      obtain ⟨last, others⟩ := ih (List.cons_ne_nil second rest)
        (fun field member => each field (List.mem_cons_of_mem _ member))
        (rfl : Expected.name.takesName = true) (done ++ [(label, value)])
        (by rwa [List.append_assoc, List.singleton_append]) label
      refine ⟨last, ?_⟩
      rw [List.append_assoc, List.singleton_append, Value.tokensOfFields] at others
      rw [Value.tokensOfFields, Value.tokensOfFields, List.intercalate_cons_cons, List.append_assoc,
        List.foldlM_append, first]
      exact others

/-- The tokens of a value put the value where a value may begin, if there is room for its depth. -/
theorem foldlM_take_tokens {value : Value} (legible : value.Legible) {frames : List Frame}
    {expected : Expected} (takes : expected.takesValue = true)
    (room : frames.length + value.depth ≤ deepest) :
    value.tokens.foldlM take ⟨frames, expected⟩ = some (place value frames) := by
  induction legible generalizing frames expected with
  | null | bool | integer | float | string =>
    rw [Value.tokens, List.foldlM_cons, take_of_takesValue takes frames (by simp)]
    · rfl
    all_goals simp
  | @array items _ ih =>
    -- The bracket takes one place on the stack, and every item has one level less than the whole.
    rw [Value.depth] at room
    have entered : enter frames (.array []) .valueOrClose =
        some ⟨.array [] :: frames, .valueOrClose⟩ := if_pos (by omega)
    rw [Value.tokens, List.foldlM_cons, take_of_takesValue takes frames (by simp), begin, entered]
    show List.foldlM take _ _ = _
    rw [List.foldlM_append]
    cases items with
    | nil => rfl
    | cons item rest =>
      have each (inner : Value) (member : inner ∈ item :: rest) (done : List Value)
          (expected : Expected) (takes : expected.takesValue = true) :
          inner.tokens.foldlM take ⟨.array done :: frames, expected⟩ =
            some (place inner (.array done :: frames)) := by
        have bound := Value.depth_le_depthOfItems member
        exact ih inner member takes (by rw [List.length_cons]; omega)
      have filled := foldlM_take_items (List.cons_ne_nil item rest) each
        (rfl : Expected.valueOrClose.takesValue = true) []
      rw [filled, List.append_nil]
      show some (place (.array (item :: rest).reverse.reverse) frames) = _
      rw [List.reverse_reverse]
  | @object fields once _ ih =>
    rw [Value.depth] at room
    have entered : enter frames (.object [] "") .nameOrClose =
        some ⟨.object [] "" :: frames, .nameOrClose⟩ := if_pos (by omega)
    rw [Value.tokens, List.foldlM_cons, take_of_takesValue takes frames (by simp), begin, entered]
    show List.foldlM take _ _ = _
    rw [List.foldlM_append]
    cases fields with
    | nil => rfl
    | cons field rest =>
      have each (inner : String × Value) (member : inner ∈ field :: rest)
          (done : List (String × Value)) (name : String) :
          inner.2.tokens.foldlM take ⟨.object done name :: frames, .value⟩ =
            some (place inner.2 (.object done name :: frames)) := by
        have bound := Value.depth_le_depthOfFields member
        exact ih inner member rfl (by rw [List.length_cons]; omega)
      obtain ⟨last, filled⟩ := foldlM_take_fields (List.cons_ne_nil field rest) each
        (rfl : Expected.nameOrClose.takesName = true) [] once ""
      rw [filled]
      rfl

/-- Inside of an array or object, or behind the last bracket of one. -/
def Compound (b : Builder) : Prop :=
  match b.expected with
  | .nothing result => result.isCompound = true
  | _ => b.frames ≠ []

theorem compound_place {value : Value} {frames : List Frame}
    (nested : frames ≠ [] ∨ value.isCompound = true) : (place value frames).Compound := by
  cases frames with
  | nil => exact nested.resolve_left fun filled => filled rfl
  | cons frame outer =>
    cases frame with
    | array | object => exact List.cons_ne_nil _ _

theorem compound_begin {frames : List Frame} {token : Token} {after : Builder}
    (nested : frames ≠ [] ∨ token = .openArray ∨ token = .openObject)
    (begun : begin frames token = some after) : after.Compound := by
  cases token with
  | openArray | openObject =>
    simp only [begin, enter, Option.ite_none_right_eq_some, Option.some.injEq] at begun
    rw [← begun.2]
    exact List.cons_ne_nil _ _
  | text | value =>
    cases begun
    exact compound_place (nested.imp_right (by simp))
  | closeArray | closeObject | colon | comma => cases begun

theorem compound_closeArray {frames : List Frame} {after : Builder}
    (closed : closeArray frames = some after) : after.Compound := by
  unfold closeArray at closed
  split at closed <;> cases closed
  exact compound_place (.inr rfl)

theorem compound_closeObject {frames : List Frame} {after : Builder}
    (closed : closeObject frames = some after) : after.Compound := by
  unfold closeObject at closed
  split at closed <;> cases closed
  exact compound_place (.inr rfl)

theorem compound_named {name : String} {frames : List Frame} {after : Builder}
    (called : named name frames = some after) : after.Compound := by
  unfold named at called
  split at called <;> cases called
  exact List.cons_ne_nil _ _

theorem compound_next {frames : List Frame} {after : Builder} (begun : next frames = some after) :
    after.Compound := by
  unfold next at begun
  split at begun <;> cases begun <;> exact List.cons_ne_nil _ _

/-- No token leads out of an array or object but to its end. -/
theorem Compound.take {b after : Builder} {token : Token} (compound : b.Compound)
    (taken : b.take token = some after) : after.Compound := by
  obtain ⟨frames, expected⟩ := b
  cases expected with
  | nothing => cases taken
  | value => exact compound_begin (.inl compound) taken
  | valueOrClose =>
    by_cases close : token = .closeArray
    · rw [close] at taken
      exact compound_closeArray taken
    · rw [take_of_takesValue rfl frames close] at taken
      exact compound_begin (.inl compound) taken
  | name =>
    cases token with
    | text => exact compound_named taken
    | _ => cases taken
  | nameOrClose =>
    cases token with
    | text => exact compound_named taken
    | closeObject => exact compound_closeObject taken
    | _ => cases taken
  | colon =>
    cases token with
    | colon =>
      cases taken
      exact compound
    | _ => cases taken
  | commaOrClose =>
    cases token with
    | comma => exact compound_next taken
    | closeArray => exact compound_closeArray taken
    | closeObject => exact compound_closeObject taken
    | _ => cases taken

theorem Compound.foldlM_take {b after : Builder} {tokens : List Token} (compound : b.Compound)
    (taken : tokens.foldlM Builder.take b = some after) : after.Compound := by
  induction tokens generalizing b with
  | nil =>
    cases taken
    exact compound
  | cons token rest ih =>
    rw [List.foldlM_cons] at taken
    obtain ⟨between, first, others⟩ := Option.bind_eq_some_iff.mp taken
    exact ih (compound.take first) others

end Builder

/-- What legible values are made of their tokens, where they are not too deep. -/
theorem ofTokens?_tokens {value : Value} (legible : value.Legible)
    (shallow : value.depth ≤ Builder.deepest) : ofTokens? value.tokens = some value := by
  have room : ([] : List Frame).length + value.depth ≤ Builder.deepest := by simpa using shallow
  rw [ofTokens?, Builder.start, Builder.foldlM_take_tokens legible rfl room]
  rfl

/-- A number alone in a document is its only token: an array or object would have stayed one. -/
theorem tokens_of_float {tokens : List Token} {v : Float}
    (built : ofTokens? tokens = some (.float v)) : tokens = [.value (.float v)] := by
  obtain ⟨last, taken, result⟩ := Option.bind_eq_some_iff.mp built
  have atEnd : last.expected = .nothing (.float v) := by
    unfold Builder.result? at result
    split at result <;> cases result
    assumption
  have simple : ¬ last.Compound := by
    intro compound
    simp only [Builder.Compound, atEnd, Value.isCompound] at compound
    cases compound
  cases tokens with
  | nil =>
    cases taken
    cases atEnd
  | cons token rest =>
    rw [List.foldlM_cons] at taken
    obtain ⟨between, first, others⟩ := Option.bind_eq_some_iff.mp taken
    have simpleBetween : ¬ between.Compound := fun compound => simple (compound.foldlM_take others)
    have whole : ∃ content, between = ⟨[], .nothing content⟩ := by
      cases token with
      | openArray => exact absurd (Builder.compound_begin (.inr (.inl rfl)) first) simpleBetween
      | openObject => exact absurd (Builder.compound_begin (.inr (.inr rfl)) first) simpleBetween
      | text content | value content =>
        cases first
        exact ⟨_, rfl⟩
      | closeArray | closeObject | colon | comma => cases first
    obtain ⟨content, rfl⟩ := whole
    cases rest with
    | nil =>
      cases others
      cases atEnd
      cases token <;> cases first
      rfl
    | cons second rest =>
      rw [List.foldlM_cons] at others
      cases others

end Json

end Toolpath
