import Toolpath.Job.Transform
import Toolpath.Proofs.Document.Json.Layout
import Toolpath.Proofs.Result
import Mathlib.Data.List.Forall2

/-!
A document as a tree of arrays, with every other value as a leaf. A design is read from it leaf by leaf:
the arrays are its groups, and the first leaf that is no element is the one that is reported, whatever
stands behind it.
-/

namespace Toolpath

/-- The groups of a tree, with nothing said of its leaves. -/
inductive Outline where
  | leaf
  | group (parts : List Outline)

namespace Value

mutual

/-- The leaves of a value in order: an array has those of its items, and any other value is one. -/
def leaves : Value → List Value
  | .array items => leavesOfItems items
  | leaf => [leaf]

/-- The leaves of some items in order. -/
def leavesOfItems : List Value → List Value
  | [] => []
  | item :: rest => item.leaves ++ leavesOfItems rest

end

mutual

/-- The arrays of a value. -/
def outline : Value → Outline
  | .array items => .group (outlineOfItems items)
  | _ => .leaf

/-- The arrays of some items. -/
def outlineOfItems : List Value → List Outline
  | [] => []
  | item :: rest => item.outline :: outlineOfItems rest

end

def IsLeaf (value : Value) : Prop := ∀ items, value ≠ .array items

/-- Whether a leaf is an object that decodes as an element. -/
def Reads (leaf : Value) (element : Element Float) : Prop :=
  ∃ fields, leaf = .object fields ∧ Element.ofRecord designReading (.named fields) = .ok element

/-- What is wrong with a leaf. -/
def fault? : Value → Option LeafFault
  | .object fields => (cause? (Element.ofRecord designReading (.named fields))).map .undecodable
  | .array _ => none
  | _ => some .notAnElement

/-- The word by which a bad leaf is reported: for an object what it has for its type, if that is a
string, and else the kind of the value. -/
def title : Value → String
  | .object fields =>
    match find? "type" fields with
    | some (.string word) => word
    | _ => "<untagged>"
  | .null => "null"
  | .bool _ => "bool"
  | .integer _ | .float _ => "number"
  | .string _ => "string"
  | .array _ => "array"

theorem reportedKind_eq_title (fields : List (String × Value)) :
    Element.reportedKind fields = title (.object fields) := by
  simp only [Element.reportedKind, title]
  cases find? "type" fields with
  | none => rfl
  | some value => cases value <;> rfl

theorem leaves_of_isLeaf {value : Value} (isLeaf : value.IsLeaf) : value.leaves = [value] := by
  cases value with
  | array items => exact absurd rfl (isLeaf items)
  | null | bool | integer | float | string | object => simp [leaves]

theorem outline_of_isLeaf {value : Value} (isLeaf : value.IsLeaf) : value.outline = .leaf := by
  cases value with
  | array items => exact absurd rfl (isLeaf items)
  | null | bool | integer | float | string | object => simp [outline]

theorem array_or_isLeaf (value : Value) : (∃ items, value = .array items) ∨ value.IsLeaf := by
  cases value with
  | array items => exact .inl ⟨items, rfl⟩
  | null | bool | integer | float | string | object => exact .inr fun _ => Value.noConfusion

theorem fault?_eq_none {leaf : Value} (isLeaf : leaf.IsLeaf) :
    leaf.fault? = none ↔ ∃ element, leaf.Reads element := by
  cases leaf with
  | array items => exact absurd rfl (isLeaf items)
  | object fields =>
    rw [fault?, Option.map_eq_none_iff, cause?_eq_none]
    constructor
    · rintro ⟨element, read⟩
      exact ⟨element, fields, rfl, read⟩
    · rintro ⟨element, _, same, read⟩
      cases same
      exact ⟨element, read⟩
  | null | bool | integer | float | string => simp [fault?, Reads]

mutual

theorem isLeaf_of_mem_leaves (value : Value) : ∀ leaf ∈ value.leaves, leaf.IsLeaf := by
  cases value with
  | array items =>
    rw [leaves]
    exact isLeaf_of_mem_leavesOfItems items
  | null | bool | integer | float | string | object =>
    simp [leaves, IsLeaf]

theorem isLeaf_of_mem_leavesOfItems (items : List Value) :
    ∀ leaf ∈ leavesOfItems items, leaf.IsLeaf := by
  cases items with
  | nil =>
    rw [leavesOfItems]
    exact List.forall_mem_nil _
  | cons item rest =>
    rw [leavesOfItems]
    exact List.forall_mem_append.mpr
      ⟨isLeaf_of_mem_leaves item, isLeaf_of_mem_leavesOfItems rest⟩

end

end Value

mutual

/-- The groups of a step. -/
def Step.outline : Step Float → Outline
  | .group steps => .group (Design.outline steps)
  | .element _ => .leaf

/-- The groups of a design. -/
def Design.outline : List (Step Float) → List Outline
  | [] => []
  | step :: rest => step.outline :: Design.outline rest

end

namespace Step

theorem ofValue_leaf_eq_ok {leaf : Value} (isLeaf : leaf.IsLeaf) {index next : Nat}
    {step : Step Float} : ofValue index leaf = .ok (step, next) ↔
      ∃ element, leaf.Reads element ∧ step = .element element ∧ next = index + 1 := by
  cases leaf with
  | array items => exact absurd rfl (isLeaf items)
  | object fields =>
    rw [ofValue]
    cases read : Element.ofRecord designReading (.named fields) with
    | error cause => simp [Value.Reads, read]
    | ok element =>
      simp only [Except.ok.injEq, Prod.mk.injEq, Value.Reads]
      constructor
      · rintro ⟨rfl, rfl⟩
        exact ⟨element, ⟨fields, rfl, read⟩, rfl, rfl⟩
      · rintro ⟨other, ⟨_, same, again⟩, rfl, rfl⟩
        cases same
        cases read.symm.trans again
        exact ⟨rfl, rfl⟩
  | null | bool | integer | float | string => simp [ofValue, Value.Reads]

theorem cause?_ofValue_leaf {leaf : Value} (isLeaf : leaf.IsLeaf) (index : Nat) :
    cause? (ofValue index leaf) = leaf.fault?.map (.unknownElement index leaf.title) := by
  cases leaf with
  | array items => exact absurd rfl (isLeaf items)
  | object fields =>
    rw [ofValue, Value.fault?]
    cases Element.ofRecord designReading (.named fields) with
    | error cause =>
      simp only [Value.reportedKind_eq_title]
      rfl
    | ok element => rfl
  | null | bool | integer | float | string => simp [ofValue, Value.fault?, Value.title, Value.kind, cause?]

end Step

mutual

/-- Trees with the same groups have as many leaves. -/
theorem Step.length_flatten_of_outline (step : Step Float) (value : Value)
    (same : step.outline = value.outline) : step.flatten.length = value.leaves.length := by
  rcases value.array_or_isLeaf with ⟨items, rfl⟩ | isLeaf
  · cases step with
    | group steps =>
      rw [Step.outline, Value.outline, Outline.group.injEq] at same
      rw [Step.flatten, Value.leaves]
      exact Design.length_flatten_of_outline steps items same
    | element element =>
      rw [Step.outline, Value.outline] at same
      cases same
  · rw [Value.outline_of_isLeaf isLeaf] at same
    cases step with
    | group steps =>
      rw [Step.outline] at same
      cases same
    | element element =>
      rw [Step.flatten, Value.leaves_of_isLeaf isLeaf]
      rfl

theorem Design.length_flatten_of_outline (steps : List (Step Float)) (items : List Value)
    (same : Design.outline steps = Value.outlineOfItems items) :
    (Design.flatten steps).length = (Value.leavesOfItems items).length := by
  cases steps with
  | nil =>
    cases items with
    | nil =>
      rw [Design.flatten, Value.leavesOfItems]
      rfl
    | cons item rest =>
      rw [Design.outline, Value.outlineOfItems] at same
      cases same
  | cons step later =>
    cases items with
    | nil =>
      rw [Design.outline, Value.outlineOfItems] at same
      cases same
    | cons item rest =>
      rw [Design.outline, Value.outlineOfItems, List.cons.injEq] at same
      rw [Design.flatten, Value.leavesOfItems, List.length_append, List.length_append,
        Step.length_flatten_of_outline step item same.1,
        Design.length_flatten_of_outline later rest same.2]

end

mutual

/-- A step is read from a value just if it has the groups of the value and the elements that the leaves
decode as, each leaf being counted. -/
theorem Step.ofValue_eq_ok (value : Value) {index next : Nat} {step : Step Float} :
    Step.ofValue index value = .ok (step, next) ↔ step.outline = value.outline ∧
      List.Forall₂ Value.Reads value.leaves step.flatten ∧
      next = index + value.leaves.length := by
  rcases value.array_or_isLeaf with ⟨items, rfl⟩ | isLeaf
  · rw [Step.ofValue, bind_eq_ok, Value.outline, Value.leaves]
    constructor
    · rintro ⟨⟨steps, last⟩, read, ok⟩
      cases ok
      obtain ⟨groups, elements, counted⟩ := (Design.ofValues_eq_ok items).mp read
      rw [Step.outline, Step.flatten, groups]
      exact ⟨rfl, elements, counted⟩
    · rintro ⟨groups, elements, counted⟩
      cases step with
      | element element =>
        rw [Step.outline] at groups
        cases groups
      | group steps =>
        rw [Step.outline, Outline.group.injEq] at groups
        rw [Step.flatten] at elements
        exact ⟨(steps, next), (Design.ofValues_eq_ok items).mpr ⟨groups, elements, counted⟩, rfl⟩
  · rw [Step.ofValue_leaf_eq_ok isLeaf, Value.outline_of_isLeaf isLeaf, Value.leaves_of_isLeaf isLeaf]
    constructor
    · rintro ⟨element, reads, rfl, rfl⟩
      rw [Step.outline, Step.flatten]
      exact ⟨rfl, .cons reads .nil, rfl⟩
    · rintro ⟨groups, elements, counted⟩
      cases step with
      | group steps =>
        rw [Step.outline] at groups
        cases groups
      | element element =>
        rw [Step.flatten] at elements
        exact ⟨element, (List.forall₂_cons.mp elements).1, rfl, counted⟩

theorem Design.ofValues_eq_ok (items : List Value) {index last : Nat} {steps : List (Step Float)} :
    Design.ofValues index items = .ok (steps, last) ↔
      Design.outline steps = Value.outlineOfItems items ∧
      List.Forall₂ Value.Reads (Value.leavesOfItems items) (Design.flatten steps) ∧
      last = index + (Value.leavesOfItems items).length := by
  cases items with
  | nil =>
    rw [Design.ofValues, Value.outlineOfItems, Value.leavesOfItems, Except.ok.injEq, Prod.mk.injEq]
    constructor
    · rintro ⟨rfl, rfl⟩
      rw [Design.outline, Design.flatten]
      exact ⟨rfl, .nil, rfl⟩
    · rintro ⟨groups, -, rfl⟩
      cases steps with
      | nil => exact ⟨rfl, rfl⟩
      | cons step rest =>
        rw [Design.outline] at groups
        cases groups
  | cons item rest =>
    rw [Design.ofValues, bind_eq_ok, Value.outlineOfItems, Value.leavesOfItems, List.length_append]
    constructor
    · rintro ⟨⟨step, next⟩, first, ok⟩
      obtain ⟨⟨later, end_⟩, others, ok⟩ := bind_eq_ok.mp ok
      cases ok
      obtain ⟨group, elements, rfl⟩ := (Step.ofValue_eq_ok item).mp first
      obtain ⟨groups, laterElements, rfl⟩ := (Design.ofValues_eq_ok rest).mp others
      rw [Design.outline, Design.flatten, group, groups]
      exact ⟨rfl, List.rel_append elements laterElements, Nat.add_assoc _ _ _⟩
    · rintro ⟨groups, elements, rfl⟩
      cases steps with
      | nil =>
        rw [Design.outline] at groups
        cases groups
      | cons step later =>
        rw [Design.outline, List.cons.injEq] at groups
        rw [Design.flatten] at elements
        -- The leaves of the first item are as many as its elements, so the two lists part at one place.
        have many := Step.length_flatten_of_outline step item groups.1
        have first := List.forall₂_take_append _ _ _ elements
        have others := List.forall₂_drop_append _ _ _ elements
        rw [List.take_left' many.symm] at first
        rw [List.drop_left' many.symm] at others
        refine ⟨(step, index + item.leaves.length),
          (Step.ofValue_eq_ok item).mpr ⟨groups.1, first, rfl⟩, bind_eq_ok.mpr ?_⟩
        exact ⟨(later, _), (Design.ofValues_eq_ok rest).mpr ⟨groups.2, others, rfl⟩, by
          rw [Nat.add_assoc]⟩

end

/-- The report on the first bad one among leaves, numbered from an index on. -/
def Design.complaint? (index : Nat) (leaves : List Value) : Option ImportError :=
  (leaves.zipIdx index).findSome? fun (leaf, number) =>
    leaf.fault?.map (.unknownElement number leaf.title)

theorem Design.complaint?_append (index : Nat) (first later : List Value) :
    complaint? index (first ++ later) =
      (complaint? index first <|> complaint? (index + first.length) later) := by
  rw [complaint?, List.zipIdx_append, List.findSome?_append, ← complaint?, ← complaint?]
  cases complaint? index first <;> rfl

theorem Design.complaint?_eq_none {index : Nat} {leaves : List Value} :
    complaint? index leaves = none ↔ ∀ leaf ∈ leaves, leaf.fault? = none := by
  have listed : (leaves.zipIdx index).map Prod.fst = leaves := List.zipIdx_map_fst index leaves
  rw [complaint?, List.findSome?_eq_none_iff]
  conv => rhs; rw [← listed]
  simp only [List.forall_mem_map, Option.map_eq_none_iff]

theorem Design.complaint?_eq_some {index : Nat} {leaves : List Value} {error : ImportError} :
    complaint? index leaves = some error ↔ ∃ before leaf after fault,
      leaves = before ++ leaf :: after ∧ (∀ other ∈ before, other.fault? = none) ∧
        leaf.fault? = some fault ∧
        error = .unknownElement (index + before.length) leaf.title fault := by
  constructor
  · intro first
    obtain ⟨numbered, ⟨leaf, number⟩, rest, split, bad, good⟩ := List.findSome?_eq_some_iff.mp first
    obtain ⟨before, behind, rfl, rfl, atBehind⟩ := List.zipIdx_eq_append_iff.mp split
    obtain ⟨_, after, rfl, here, rfl⟩ := List.zipIdx_eq_cons_iff.mp atBehind.symm
    obtain ⟨rfl, rfl⟩ := Prod.mk.inj here
    obtain ⟨fault, atLeaf, rfl⟩ := Option.map_eq_some_iff.mp bad
    exact ⟨before, leaf, after, fault, rfl,
      complaint?_eq_none.mp (List.findSome?_eq_none_iff.mpr good), atLeaf, rfl⟩
  · rintro ⟨before, leaf, after, fault, rfl, good, atLeaf, rfl⟩
    have here : complaint? (index + before.length) (leaf :: after) =
        some (.unknownElement (index + before.length) leaf.title fault) := by
      simp [complaint?, atLeaf]
    rw [complaint?_append, complaint?_eq_none.mpr good, here]
    rfl

mutual

theorem Step.cause?_ofValue (value : Value) (index : Nat) :
    cause? (Step.ofValue index value) = Design.complaint? index value.leaves := by
  rcases value.array_or_isLeaf with ⟨items, rfl⟩ | isLeaf
  · rw [Step.ofValue, Value.leaves, ← Design.cause?_ofValues items index]
    exact cause?_bind_ok (Design.ofValues index items) fun read => (Step.group read.1, read.2)
  · rw [Step.cause?_ofValue_leaf isLeaf, Value.leaves_of_isLeaf isLeaf]
    exact (List.findSome?_singleton).symm

theorem Design.cause?_ofValues (items : List Value) (index : Nat) :
    cause? (Design.ofValues index items) = Design.complaint? index (Value.leavesOfItems items) := by
  cases items with
  | nil =>
    rw [Design.ofValues, Value.leavesOfItems]
    rfl
  | cons item rest =>
    rw [Design.ofValues, Value.leavesOfItems, Design.complaint?_append, ← Step.cause?_ofValue item]
    refine cause?_bind fun read first => ?_
    -- So many leaves are counted when the others are come to.
    obtain ⟨-, -, counted⟩ := (Step.ofValue_eq_ok item).mp first
    rw [← counted, ← Design.cause?_ofValues rest]
    exact cause?_bind_ok (Design.ofValues read.2 rest) fun others => (read.1 :: others.1, others.2)

end

namespace Design

variable {items : List Value}

theorem cause?_ofValue (items : List Value) :
    cause? (ofValue (.array items)) = complaint? 0 (Value.leavesOfItems items) := by
  rw [ofValue, cause?_map, cause?_ofValues]

theorem exists_ofValue_iff : (∃ design, ofValue (.array items) = .ok design) ↔
    ∀ leaf ∈ Value.leavesOfItems items, ∃ element, leaf.Reads element := by
  rw [← cause?_eq_none, cause?_ofValue, complaint?_eq_none]
  exact forall₂_congr fun leaf member =>
    Value.fault?_eq_none (Value.isLeaf_of_mem_leavesOfItems items leaf member)

theorem ofValue_eq_ok {design : Design Float} : ofValue (.array items) = .ok design ↔
    outline design = Value.outlineOfItems items ∧
      List.Forall₂ Value.Reads (Value.leavesOfItems items) (flatten design) := by
  rw [ofValue]
  constructor
  · intro ok
    cases read : ofValues 0 items with
    | error error =>
      rw [read] at ok
      cases ok
    | ok value =>
      rw [read] at ok
      cases ok
      obtain ⟨groups, elements, -⟩ := (ofValues_eq_ok items).mp read
      exact ⟨groups, elements⟩
  · rintro ⟨groups, elements⟩
    rw [(ofValues_eq_ok items).mpr ⟨groups, elements, rfl⟩]
    rfl

theorem ofValue_eq_error {error : ImportError} : ofValue (.array items) = .error error ↔
    ∃ before leaf after fault, Value.leavesOfItems items = before ++ leaf :: after ∧
      (∀ other ∈ before, ∃ element, other.Reads element) ∧ leaf.fault? = some fault ∧
      error = .unknownElement before.length leaf.title fault := by
  rw [← cause?_eq_some, cause?_ofValue, complaint?_eq_some]
  refine exists_congr fun before => exists_congr fun leaf => exists_congr fun after =>
    exists_congr fun fault => and_congr_right fun split => ?_
  have isLeaf := Value.isLeaf_of_mem_leavesOfItems items
  rw [split, List.forall_mem_append] at isLeaf
  rw [Nat.zero_add]
  exact and_congr_left fun _ => forall₂_congr fun other member =>
    Value.fault?_eq_none (isLeaf.1 other member)

/-- A document whose top is an array is a design just if each of its leaves is an object that decodes
as an element. The design then has the groups of the document and the elements of the leaves in their
order, and no other design is read. Else the first leaf that is no element is reported, by the number of
leaves before it and by its title, whatever stands behind it; a job that is given the text fails with the
same. -/
theorem ofJson_mirrors {text : String} (read : Json.read? text = some (.array items)) :
    ((∃ design, ofJson text = .ok design) ↔
      ∀ leaf ∈ Value.leavesOfItems items, ∃ element, leaf.Reads element) ∧
    (∀ design, ofJson text = .ok design ↔ outline design = Value.outlineOfItems items ∧
      List.Forall₂ Value.Reads (Value.leavesOfItems items) (flatten design)) ∧
    (∀ error, ofJson text = .error error ↔ ∃ before leaf after fault,
      Value.leavesOfItems items = before ++ leaf :: after ∧
        (∀ other ∈ before, ∃ element, other.Reads element) ∧ leaf.fault? = some fault ∧
        error = .unknownElement before.length leaf.title fault) ∧
    ∀ before leaf after, Value.leavesOfItems items = before ++ leaf :: after →
      (∀ other ∈ before, ∃ element, other.Reads element) → (¬ ∃ element, leaf.Reads element) →
      ∀ controls, Job.transformJson controls text = .error (.malformed before.length leaf.title) := by
  have decoded : ofJson text = ofValue (.array items) := by rw [ofJson, read]
  rw [decoded]
  refine ⟨exists_ofValue_iff, fun design => ofValue_eq_ok, fun error => ofValue_eq_error, ?_⟩
  intro before leaf after split good bad controls
  have isLeaf : leaf.IsLeaf := Value.isLeaf_of_mem_leavesOfItems items leaf (split ▸ by simp)
  cases atLeaf : leaf.fault? with
  | none => exact absurd ((Value.fault?_eq_none isLeaf).mp atLeaf) bad
  | some fault =>
    rw [Job.transformJson, decoded,
      ofValue_eq_error.mpr ⟨before, leaf, after, fault, split, good, atLeaf, rfl⟩]
    rfl

/-- An element. -/
def switching : Value := .object [("type", .string "Point"), ("extrude", .bool true)]

/-- An object of a type that is none. -/
def teleport : Value := .object [("x", .integer 5), ("type", .string "Teleport")]

/-- Empty groups before and behind an element, and then three bad leaves. -/
def misnamed : List Value :=
  [.array [], .array [switching, .array [.array []]], .array [teleport, .integer 42], .null]

theorem ofJson_mirrors_misnamed :
    let text := Json.pretty (.array misnamed)
    Json.read? text = some (.array misnamed) ∧
      ofJson text = .error (.unknownElement 1 "Teleport" (.undecodable (.unknown "Teleport"))) ∧
      ∀ controls, Job.transformJson controls text = .error (.malformed 1 "Teleport") := by
  have element : switching.Legible :=
    .object (by decide) (by simp [Value.Legible.string, Value.Legible.bool])
  have unknown : teleport.Legible := .object (by decide) (by
    simpa [Value.Legible.string] using Value.Legible.integer (by decide) (by decide))
  have number : (Value.integer 42).Legible := .integer (by decide) (by decide)
  have empty : (Value.array []).Legible := .array (List.forall_mem_nil _)
  have legible : (Value.array misnamed).Legible := by
    refine .array ?_
    simp only [misnamed, List.forall_mem_cons, List.not_mem_nil, false_imp_iff, implies_true, and_true]
    refine ⟨empty, .array ?_, .array ?_, .null⟩
    · simpa [element] using Value.Legible.array (List.forall_mem_singleton.mpr empty)
    · simp [unknown, number]
  have read := Json.read?_pretty legible (by decide)
  have split : Value.leavesOfItems misnamed = [switching] ++ teleport :: [.integer 42, .null] := rfl
  have good : ∀ leaf ∈ [switching], ∃ element, leaf.Reads element :=
    List.forall_mem_singleton.mpr ⟨.point { extrude := some true }, _, rfl, rfl⟩
  have bad : teleport.fault? = some (.undecodable (.unknown "Teleport")) := rfl
  have undecoded : ¬ ∃ element, teleport.Reads element := by
    rw [← Value.fault?_eq_none fun _ => Value.noConfusion, bad]
    exact Option.some_ne_none _
  obtain ⟨-, -, fails, jobs⟩ := ofJson_mirrors read
  exact ⟨read, (fails _).mpr ⟨_, _, _, _, split, good, bad, rfl⟩, jobs _ _ _ split good undecoded⟩

end Design

end Toolpath
