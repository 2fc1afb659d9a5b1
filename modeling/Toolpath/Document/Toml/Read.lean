import Toolpath.Document.Toml.Scalar
import Toolpath.Document.Toml.Table

/-!
TOML values from text: the statements of a document one by one, and the tables they fill.

Names, arrays and inline tables are read with a bound on the number of steps that is twice the
length of the text. No reading exceeds it: a step takes a character, or is the step into a value
behind one that did.
-/

namespace Toolpath.Toml

/-- A character of a name without quotes. -/
def isBare (c : Char) : Bool := c.isAlphanum || c = '_' || c = '-'

/-- Reads one part of a name. -/
def part? (text : List Char) : Option (String × List Char) :=
  match text with
  | '"' :: rest => quoted? [] rest
  | '\'' :: rest => literal? [] rest
  | text =>
    let shown := text.takeWhile isBare
    if shown.isEmpty then none else some (String.ofList shown, text.dropWhile isBare)

/-- A name in parts: the path to a table, and the name in it. -/
structure Name where
  path : List String
  last : String

/-- All parts of a name. -/
def Name.parts (name : Name) : List String := name.path ++ [name.last]

/-- How deep one text may nest at once: the parts of a name, which stand for tables in tables, and
the arrays and inline tables of a value. -/
def deepest : Nat := 79

/-- Reads a name whose parts are set apart by dots. The parts read before are kept in reverse. None
if a part is missing or there are too many. -/
def name? (bound : Nat) (done : List String) (text : List Char) : Option (Name × List Char) :=
  match bound with
  | 0 => none
  | bound + 1 =>
    match part? (text.dropWhile isBlank) with
    | none => none
    | some (part, rest) =>
      match rest.dropWhile isBlank with
      | '.' :: more => name? bound (part :: done) more
      | after => if done.length < deepest then some (⟨done.reverse, part⟩, after) else none

/-- Skips blanks, line breaks and comments. -/
def skipBetween (inComment : Bool) : List Char → List Char
  | [] => []
  | '\r' :: '\n' :: rest => skipBetween false rest
  | c :: rest =>
    if c = '\n' then skipBetween false rest
    else if inComment then if isPlain c then skipBetween true rest else c :: rest
    else if isBlank c then skipBetween false rest
    else if c = '#' then skipBetween true rest
    else c :: rest

/-- Reads a value that holds no other. -/
def single? (text : List Char) : Option (Value × List Char) :=
  match text with
  | '"' :: '"' :: '"' :: rest =>
    (block? '"' [] (blockStart rest)).map fun (content, after) => (.string content, after)
  | '"' :: rest => (quoted? [] rest).map fun (content, after) => (.string content, after)
  | '\'' :: '\'' :: '\'' :: rest =>
    (block? '\'' [] (blockStart rest)).map fun (content, after) => (.string content, after)
  | '\'' :: rest => (literal? [] rest).map fun (content, after) => (.string content, after)
  | text =>
    (word? (text.takeWhile isWordPart)).map fun value => (value, text.dropWhile isWordPart)

mutual

/-- Reads a value, given how many levels may still open. -/
def value? (bound depth : Nat) (text : List Char) : Option (Value × List Char) :=
  match bound with
  | 0 => none
  | bound + 1 =>
    match text, depth with
    | '[' :: _, 0 => none
    | '\x7b' :: _, 0 => none
    | '[' :: rest, depth + 1 => items? bound depth [] rest
    | '\x7b' :: rest, depth + 1 =>
      match rest.dropWhile isBlank with
      | '\x7d' :: after => some (.object [], after)
      | rest => fields? bound depth [] rest
    | text, _ => single? text

/-- Reads the items of an array up to its end, which may follow a comma. -/
def items? (bound depth : Nat) (done : List Value) (text : List Char) :
    Option (Value × List Char) :=
  match bound with
  | 0 => none
  | bound + 1 =>
    match skipBetween false text with
    | ']' :: rest => some (.array done.reverse, rest)
    | start =>
      match value? bound depth start with
      | none => none
      | some (item, rest) =>
        match skipBetween false rest with
        | ',' :: more => items? bound depth (item :: done) more
        | ']' :: after => some (.array (item :: done).reverse, after)
        | _ => none

/-- Reads the fields of an inline table up to its end, on one line. -/
def fields? (bound depth : Nat) (done : Fields) (text : List Char) : Option (Value × List Char) :=
  match bound with
  | 0 => none
  | bound + 1 =>
    match name? bound [] text with
    | some (name, '=' :: start) =>
      match value? bound depth (start.dropWhile isBlank) with
      | none => none
      | some (item, rest) =>
        match Fields.addDotted (.value item) name.last name.path done with
        | none => none
        | some done =>
          match rest.dropWhile isBlank with
          | ',' :: more => fields? bound depth done more
          | '\x7d' :: after => some (.object (Fields.toValues done), after)
          | _ => none
    | _ => none

end

/-- What one line says. -/
inductive Statement where
  | blank
  | table (name : Name)
  | entry (name : Name)
  | field (name : Name) (value : Value)

/-- Reads what a line says, up to what may end it. -/
def statement? (bound : Nat) (text : List Char) : Option (Statement × List Char) :=
  match text with
  | [] => some (.blank, [])
  | '[' :: '[' :: rest =>
    match name? bound [] rest with
    | some (name, ']' :: ']' :: after) => some (.entry name, after)
    | _ => none
  | '[' :: rest =>
    match name? bound [] rest with
    | some (name, ']' :: after) => some (.table name, after)
    | _ => none
  | c :: rest =>
    if c = '#' ∨ c = '\n' ∨ c = '\r' then some (.blank, c :: rest)
    else
      match name? bound [] (c :: rest) with
      | some (name, '=' :: start) =>
        (value? bound deepest (start.dropWhile isBlank)).map fun (value, after) =>
          (.field name value, after)
      | _ => none

/-- Goes on to the next line, past blanks and a comment. None if something else follows. -/
def lineEnd? (text : List Char) : Option (List Char) :=
  let rest := match text.dropWhile isBlank with
    | '#' :: remark => remark.dropWhile isPlain
    | rest => rest
  if rest.isEmpty then some [] else lineBreak? rest

/-- A document in the making: its tables, and the path of the open one. -/
structure Document where
  root : Fields
  current : List String

/-- Takes in what a line says. -/
def Document.take (d : Document) : Statement → Option Document
  | .blank => some d
  | .table name =>
    (Fields.within (Fields.openTable name.last) name.path d.root).map fun root => ⟨root, name.parts⟩
  | .entry name =>
    (Fields.within (Fields.openEntry name.last) name.path d.root).map fun root => ⟨root, name.parts⟩
  | .field name value =>
    (Fields.within (Fields.addDotted (.value value) name.last name.path) d.current d.root).map
      fun root => ⟨root, d.current⟩

/-- Takes in the lines of a text. -/
def lines? (bound : Nat) (d : Document) (text : List Char) : Option Document :=
  match bound with
  | 0 => none
  | bound + 1 =>
    match statement? bound (text.dropWhile isBlank) with
    | none => none
    | some (statement, rest) =>
      match d.take statement, lineEnd? rest with
      | some d, some [] => some d
      | some d, some more => lines? bound d more
      | _, _ => none

/-- A mark of the byte order in front of a text is not part of it. -/
def withoutMark : List Char → List Char
  | '\ufeff' :: rest => rest
  | text => text

/-- The table that a TOML text writes, as an object. None if the text is not well-formed, names
something twice, or holds a date. -/
def read? (text : String) : Option Value :=
  let body := withoutMark text.toList
  (lines? (2 * body.length + 2) ⟨[], []⟩ body).map fun d => .object (Fields.toValues d.root)

end Toolpath.Toml
