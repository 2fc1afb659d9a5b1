import Toolpath.Design.Encode
import Toolpath.Document.Decode

/-!
The fields of a record are read as they were written: a field that is left out as one that is not set,
and a kind under the tag that it was put under.
-/

namespace Toolpath

namespace Value

@[simp]
theorem find?_append (name : String) (first second : List (String × Value)) :
    find? name (first ++ second) = (find? name first).or (find? name second) := by
  induction first with
  | nil => rfl
  | cons field rest ih =>
    rw [List.cons_append, find?, find?]
    split
    · rfl
    · exact ih

theorem erase_of_notMem {name : String} {fields : List (String × Value)}
    (absent : name ∉ fields.map Prod.fst) : erase name fields = fields := by
  refine List.filter_eq_self.mpr ?_
  intro field member
  have other : field.1 ≠ name := fun same => absent (same ▸ List.mem_map_of_mem member)
  exact bne_iff_ne.mpr other

end Value

namespace Encode

variable {β : Type} {encode : β → Value}

@[simp]
theorem find?_optional (name other : String) (content : Option β) :
    Value.find? other (optional name encode content) =
      if name = other then content.map encode else none := by
  cases content with
  | none => exact (ite_self none).symm
  | some content => rfl

theorem names_optional (name : String) (content : Option β) :
    ((optional name encode content).map Prod.fst).Sublist [name] := by
  cases content with
  | none => exact List.nil_sublist _
  | some content => exact List.Sublist.refl _

theorem forall_mem_optional {name : String} {content : Option β} {holds : String × Value → Prop} :
    (∀ field ∈ optional name encode content, holds field) ↔
      ∀ c ∈ content, holds (name, encode c) := by
  cases content with
  | none => simp [optional]
  | some content => simp [optional]

end Encode

/-- A decoder takes back what an encoder makes, and the encoder makes nothing that reads as left out. -/
structure Decode.Inverts {β : Type} (decode : Value → Except DecodeError β) (encode : β → Value) :
    Prop where
  decoded : ∀ content, decode (encode content) = .ok content
  notNull : ∀ content, encode content ≠ .null

namespace Decode

theorem float_inverts : Inverts float .float := ⟨fun _ => rfl, fun _ => Value.noConfusion⟩

theorem bool_inverts : Inverts bool .bool := ⟨fun _ => rfl, fun _ => Value.noConfusion⟩

theorem string_inverts : Inverts string .string := ⟨fun _ => rfl, fun _ => Value.noConfusion⟩

theorem word32_inverts : Inverts word32 fun number => .integer number.toNat := by
  refine ⟨fun number => ?_, fun _ => Value.noConfusion⟩
  have small := number.toNat_lt
  have range : 0 ≤ (number.toNat : Int) ∧ (number.toNat : Int) < 4294967296 := by omega
  rw [word32, if_pos range, Int.toNat_natCast, Nat.toUInt32_eq, UInt32.ofNat_toNat]

/-- A choice is read from its word if the word is listed with it. -/
theorem choice_inverts {β : Type} {choices : List (String × β)} {word : β → String}
    (listed : ∀ content, choices.lookup (word content) = some content) (r : Reading) :
    Inverts (choice choices r) fun content => .string (word content) := by
  refine ⟨fun content => ?_, fun _ => Value.noConfusion⟩
  simp only [choice, Decode.word, listed]

theorem Inverts.optional {β : Type} {decode : Value → Except DecodeError β} {encode : β → Value}
    (inverts : Inverts decode encode) (content : β) :
    Decode.optional decode (encode content) = .ok (some content) := by
  have decoded := inverts.decoded content
  have notNull := inverts.notNull content
  unfold Decode.optional
  split
  · exact absurd ‹_› notNull
  · rw [decoded]
    rfl

end Decode

namespace Record

variable {β : Type} {decode : Value → Except DecodeError β} {encode : β → Value}
  {fields : List (String × Value)} {name : String}

theorem value?_named (place : Nat) (alias? : Option String)
    (single : alias?.bind (Value.find? · fields) = none) :
    (named fields).value? place name alias? = .ok (Value.find? name fields) := by
  simp only [value?, single]
  cases Value.find? name fields <;> rfl

theorem optional_eq_ok (inverts : Decode.Inverts decode encode) {content : Option β}
    (found : Value.find? name fields = content.map encode) (place : Nat) :
    (named fields).optional place name decode = .ok content := by
  simp only [optional, fieldOr, value?_named place none rfl, found]
  cases content with
  | none => rfl
  | some content => exact inverts.optional content

theorem optionalAlias_eq_ok (inverts : Decode.Inverts decode encode) {content : Option β}
    {other : String} (found : Value.find? name fields = content.map encode)
    (single : Value.find? other fields = none) (place : Nat) :
    (named fields).optionalAlias place name other decode = .ok content := by
  simp only [optionalAlias, value?_named place (some other) single, found]
  cases content with
  | none => rfl
  | some content => exact inverts.optional content

/-- The kind decides how the other fields are read. -/
theorem tagged_eq {choices : List (String × (Record → Except DecodeError β))} {kind : String}
    {choice : Record → Except DecodeError β} (absent : name ∉ fields.map Prod.fst)
    (chosen : choices.lookup kind = some choice) (r : Reading) :
    (named ((name, .string kind) :: fields)).tagged r name choices = choice (named fields) := by
  have rest : Value.erase name ((name, .string kind) :: fields) = fields := by
    rw [Value.erase, List.filter_cons_of_neg (by simp)]
    exact Value.erase_of_notMem absent
  have taken : (named ((name, .string kind) :: fields)).takeTag name =
      .ok (.string kind, named fields) := by
    simp only [takeTag, Value.find?, if_pos, rest]
  have word : Decode.word choices kind = .ok choice := by rw [Decode.word, chosen]
  rw [tagged, taken]
  show (Decode.word choices kind >>= fun read => read (named fields)) = _
  rw [word]
  rfl

end Record

end Toolpath
