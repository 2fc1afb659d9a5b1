import Toolpath.Document.Value

/-!
Reading typed settings out of documents.

Two things about a value decide how freely it may be written: the format of its text, and whether
it was held back until the kind of the whole was known, as the fields of a tagged element and of
controls are. Records may then also be written as lists of their fields, in order.
-/

namespace Toolpath

/-- Why a value of a document is not what a setting takes. -/
inductive DecodeError where
  /-- A value of another kind, or out of range. -/
  | unexpected (kind : String)
  /-- A field without a value to fall back on. -/
  | missing (field : String)
  /-- A field given under two of its names. -/
  | repeated (field : String)
  /-- A word that is none of the choices. -/
  | unknown (word : String)
  /-- A list of fields longer than the record. -/
  | surplus
deriving DecidableEq, Repr

/-- The text for an error. -/
def DecodeError.message : DecodeError → String
  | .unexpected kind => "unexpected " ++ kind
  | .missing field => "missing field '" ++ field ++ "'"
  | .repeated field => "field '" ++ field ++ "' is given twice"
  | .unknown word => "unknown word '" ++ word ++ "'"
  | .surplus => "too many fields"

/-- The format of a text. -/
inductive Format where
  | json
  | toml
deriving DecidableEq, Repr

/-- What decides how freely a value may be written. -/
structure Reading where
  format : Format
  /-- Whether the value was held back until the kind of the whole was known. -/
  held : Bool
deriving DecidableEq, Repr

/-- The same reading for values that are held back. -/
def Reading.holding (r : Reading) : Reading := { r with held := true }

/-- Whether a value may stand behind the name of a choice that carries nothing. -/
def Reading.isEmptyPayload (r : Reading) : Value → Bool
  | .null => r.held || r.format == .json
  | .object [] => r.held || r.format == .toml
  | .array [] => !r.held && r.format == .toml
  | _ => false

namespace Decode

/-- A float; a whole number stands for the nearest one. -/
def float : Value → Except DecodeError Float
  | .integer number => .ok (.ofInt number)
  | .float number => .ok number
  | other => .error (.unexpected other.kind)

/-- A truth value. -/
def bool : Value → Except DecodeError Bool
  | .bool truth => .ok truth
  | other => .error (.unexpected other.kind)

/-- A string. -/
def string : Value → Except DecodeError String
  | .string text => .ok text
  | other => .error (.unexpected other.kind)

/-- A whole number of 32 bits without sign. -/
def word32 : Value → Except DecodeError UInt32
  | .integer number =>
    if 0 ≤ number ∧ number < 4294967296 then .ok number.toNat.toUInt32
    else .error (.unexpected "number")
  | other => .error (.unexpected other.kind)

/-- A value that may be null. -/
def optional {α : Type} (decode : Value → Except DecodeError α) : Value → Except DecodeError (Option α)
  | .null => .ok none
  | value => (decode value).map some

/-- A list of values. -/
def list {α : Type} (decode : Value → Except DecodeError α) : Value → Except DecodeError (List α)
  | .array items => items.mapM decode
  | other => .error (.unexpected other.kind)

/-- An object whose fields are all of one type. -/
def table {α : Type} (decode : Value → Except DecodeError α) :
    Value → Except DecodeError (List (String × α))
  | .object fields => fields.mapM fun (name, value) => (decode value).map fun item => (name, item)
  | other => .error (.unexpected other.kind)

/-- What a word chooses. -/
def word {α : Type} (choices : List (String × α)) (text : String) : Except DecodeError α :=
  match choices.lookup text with
  | some choice => .ok choice
  | none => .error (.unknown text)

/-- One of some choices that carry nothing, by its word; an object with the word as its only name
does too. -/
def choice {α : Type} (choices : List (String × α)) (r : Reading) : Value → Except DecodeError α
  | .string text => word choices text
  | .object [(text, payload)] =>
    if r.isEmptyPayload payload then word choices text else .error (.unexpected payload.kind)
  | other => .error (.unexpected other.kind)

end Decode

/-- The fields of a record, by name or in order. -/
inductive Record where
  | named (fields : List (String × Value))
  | listed (items : List Value)

namespace Record

/-- The fields that an object or list gives. -/
def ofValue : Value → Except DecodeError Record
  | .object fields => .ok (.named fields)
  | .array items => .ok (.listed items)
  | other => .error (.unexpected other.kind)

/-- The fields that an object gives. -/
def ofObject : Value → Except DecodeError Record
  | .object fields => .ok (.named fields)
  | other => .error (.unexpected other.kind)

/-- Refuses a list with more items than the record has fields. -/
def limit (places : Nat) : Record → Except DecodeError Record
  | .named fields => .ok (.named fields)
  | .listed items => if items.length ≤ places then .ok (.listed items) else .error .surplus

/-- The value of a field with a name, perhaps another name, and a place. -/
def value? (record : Record) (place : Nat) (name : String) (alias? : Option String) :
    Except DecodeError (Option Value) :=
  match record with
  | .listed items => .ok items[place]?
  | .named fields =>
    match Value.find? name fields, alias?.bind fun other => Value.find? other fields with
    | some _, some _ => .error (.repeated name)
    | some value, none => .ok (some value)
    | none, other => .ok other

/-- A field that falls back on a value where it is missing. -/
def fieldOr {α : Type} (record : Record) (place : Nat) (name : String) (fallback : α)
    (decode : Value → Except DecodeError α) : Except DecodeError α := do
  match ← record.value? place name none with
  | some value => decode value
  | none => .ok fallback

/-- A field that must be there. -/
def field {α : Type} (record : Record) (place : Nat) (name : String)
    (decode : Value → Except DecodeError α) : Except DecodeError α := do
  match ← record.value? place name none with
  | some value => decode value
  | none => .error (.missing name)

/-- A field that may be missing or null. -/
def optional {α : Type} (record : Record) (place : Nat) (name : String)
    (decode : Value → Except DecodeError α) : Except DecodeError (Option α) :=
  record.fieldOr place name none (Decode.optional decode)

/-- A field under either of two names that may be missing or null. -/
def optionalAlias {α : Type} (record : Record) (place : Nat) (name other : String)
    (decode : Value → Except DecodeError α) : Except DecodeError (Option α) := do
  match ← record.value? place name (some other) with
  | some value => Decode.optional decode value
  | none => .ok none

/-- Takes the field that says of which kind the record is, which is the first of a list. -/
def takeTag (record : Record) (name : String) : Except DecodeError (Value × Record) :=
  match record with
  | .named fields =>
    match Value.find? name fields with
    | some value => .ok (value, .named (Value.erase name fields))
    | none => .error (.missing name)
  | .listed (value :: rest) => .ok (value, .listed rest)
  | .listed [] => .error (.missing name)

/-- The item at a place that a number gives. -/
def atPlace {α : Type} (choices : List (String × α)) (number : Int) : Except DecodeError α :=
  match choices[number.toNat]? with
  | some (_, choice) => if 0 ≤ number then .ok choice else .error (.unexpected "number")
  | none => .error (.unexpected "number")

/-- What the tag of a record chooses: by its word or, where the tag was held back from JSON text, by
its place among the choices. -/
def tagged {α : Type} (record : Record) (r : Reading) (name : String)
    (choices : List (String × (Record → Except DecodeError α))) : Except DecodeError α := do
  let (tag, rest) ← record.takeTag name
  match tag with
  | .string text => (← Decode.word choices text) rest
  | .integer number =>
    if r.held && r.format == .json then (← atPlace choices number) rest
    else .error (.unexpected "number")
  | other => .error (.unexpected other.kind)

end Record

end Toolpath
