import Toolpath.Document.Json.Token

/-!
JSON values from tokens.

The tokens are taken one by one, with the arrays and objects that are still open on a stack, so
deep nesting costs no more than long text. A name that comes twice in an object keeps its last value.
-/

namespace Toolpath.Json

/-- An array or object that is still open. -/
inductive Frame where
  /-- Items in reverse. -/
  | array (items : List Value)
  | object (fields : List (String × Value)) (name : String)

/-- What may come next. -/
inductive Expected where
  | value
  | valueOrClose
  | name
  | nameOrClose
  | colon
  | commaOrClose
  | nothing (result : Value)

/-- The values read so far: the open frames, the inner one first, and what may come next. -/
structure Builder where
  frames : List Frame
  expected : Expected

namespace Builder

/-- Nothing read yet. -/
def start : Builder := ⟨[], .value⟩

/-- How many arrays and objects may be open at a time. -/
def deepest : Nat := 127

/-- Opens an array or object, unless too many are open. -/
def enter (frames : List Frame) (frame : Frame) (expected : Expected) : Option Builder :=
  if frames.length < deepest then some ⟨frame :: frames, expected⟩ else none

/-- Puts a complete value where it belongs. -/
def place (value : Value) : List Frame → Builder
  | [] => ⟨[], .nothing value⟩
  | .array items :: outer => ⟨.array (value :: items) :: outer, .commaOrClose⟩
  | .object fields name :: outer => ⟨.object (Value.set name value fields) name :: outer, .commaOrClose⟩

/-- Closes the inner frame, if it is an array. -/
def closeArray : List Frame → Option Builder
  | .array items :: outer => some (place (.array items.reverse) outer)
  | _ => none

/-- Closes the inner frame, if it is an object. -/
def closeObject : List Frame → Option Builder
  | .object fields _ :: outer => some (place (.object fields) outer)
  | _ => none

/-- Goes on behind a comma, to the next item or the next name. -/
def next : List Frame → Option Builder
  | .array items :: outer => some ⟨.array items :: outer, .value⟩
  | .object fields name :: outer => some ⟨.object fields name :: outer, .name⟩
  | [] => none

/-- Names the next field. -/
def named (name : String) : List Frame → Option Builder
  | .object fields _ :: outer => some ⟨.object fields name :: outer, .colon⟩
  | _ => none

/-- A token where a value may begin. -/
def begin (frames : List Frame) : Token → Option Builder
  | .openArray => enter frames (.array []) .valueOrClose
  | .openObject => enter frames (.object [] "") .nameOrClose
  | .text content => some (place (.string content) frames)
  | .value content => some (place content frames)
  | _ => none

/-- Takes one token. None if it may not come next. -/
def take (b : Builder) (token : Token) : Option Builder :=
  match b.expected, token with
  | .value, token => begin b.frames token
  | .valueOrClose, .closeArray => closeArray b.frames
  | .valueOrClose, token => begin b.frames token
  | .name, .text name => named name b.frames
  | .nameOrClose, .text name => named name b.frames
  | .nameOrClose, .closeObject => closeObject b.frames
  | .colon, .colon => some ⟨b.frames, .value⟩
  | .commaOrClose, .comma => next b.frames
  | .commaOrClose, .closeArray => closeArray b.frames
  | .commaOrClose, .closeObject => closeObject b.frames
  | _, _ => none

/-- The value, if it is complete. -/
def result? (b : Builder) : Option Value :=
  match b.expected with
  | .nothing result => some result
  | _ => none

end Builder

/-- The value of a list of tokens. -/
def ofTokens? (tokens : List Token) : Option Value :=
  (tokens.foldlM Builder.take Builder.start).bind Builder.result?

/-- The value that a JSON text writes. None if the text is not well-formed, nests too deep, or has
a number beyond the range of floats. -/
def read? (text : String) : Option Value := (tokens? text).bind ofTokens?

end Toolpath.Json
