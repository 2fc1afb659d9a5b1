/-!
The values of documents: designs, profiles and controls come as text in one of two formats, and
both formats are read into this one type.
-/

namespace Toolpath

/-- A value of a document. An object keeps its fields in the order of the text, each name once.
Whole numbers and floats stay apart, because some fields take only the former. -/
inductive Value where
  | null
  | bool (truth : Bool)
  | integer (number : Int)
  | float (number : Float)
  | string (text : String)
  | array (items : List Value)
  | object (fields : List (String × Value))

namespace Value

/-- The value of a field, if the field is there. -/
def find? (name : String) : List (String × Value) → Option Value
  | [] => none
  | (other, value) :: rest => if other = name then some value else find? name rest

/-- The fields with one of them set: in its place if it is there already, else at the end. -/
def set (name : String) (value : Value) : List (String × Value) → List (String × Value)
  | [] => [(name, value)]
  | (other, old) :: rest =>
    if other = name then (name, value) :: rest else (other, old) :: set name value rest

/-- The fields without those of a name. -/
def erase (name : String) (fields : List (String × Value)) : List (String × Value) :=
  fields.filter fun field => field.1 != name

theorem find?_set (name other : String) (value : Value) (fields : List (String × Value)) :
    find? other (set name value fields) = if name = other then some value else find? other fields := by
  induction fields with
  | nil => simp [set, find?]
  | cons field rest ih =>
    obtain ⟨known, old⟩ := field
    by_cases same : known = name
    · subst same
      by_cases asked : known = other <;> simp [set, find?, asked]
    · by_cases asked : known = other
      · subst asked
        simp [set, find?, same, Ne.symm same]
      · simp [set, find?, same, asked, ih]

/-- The text of a string value. -/
def text? : Value → Option String
  | .string text => some text
  | _ => none

/-- The word for a kind of value, as messages about designs use it. -/
def kind : Value → String
  | .null => "null"
  | .bool _ => "bool"
  | .integer _ => "number"
  | .float _ => "number"
  | .string _ => "string"
  | .array _ => "array"
  | .object _ => "object"

end Value

end Toolpath
