import Toolpath.Document.Value

/-!
The tables of a TOML document while its lines are taken in.

A table may be written in pieces, and how it came about decides what may still be added: a table
under a header of its own is not opened again, and one made by dotted names takes fields only
through dotted names.
-/

namespace Toolpath.Toml

/-- How a table came about. -/
inductive Standing where
  /-- Named only on the way to another table's header. -/
  | implied
  /-- Made by a dotted name. -/
  | dotted
  /-- Under a header of its own. -/
  | headed
deriving DecidableEq, Repr

/-- What a name of a table stands for. -/
inductive Node where
  | value (content : Value)
  | table (standing : Standing) (fields : List (String × Node))
  /-- A list of tables under repeated headers, the open one first. -/
  | tables (entries : List (List (String × Node)))

/-- The fields of a table. -/
abbrev Fields := List (String × Node)

namespace Fields

/-- What a name stands for, if it is there. -/
def find? (name : String) : Fields → Option Node
  | [] => none
  | (other, node) :: rest => if other = name then some node else find? name rest

/-- The fields with one of them set: in its place if it is there already, else at the end. -/
def set (name : String) (node : Node) : Fields → Fields
  | [] => [(name, node)]
  | (other, old) :: rest =>
    if other = name then (name, node) :: rest else (other, old) :: set name node rest

/-- Changes the table that a path of a header leads to, making those on the way. -/
def within (change : Fields → Option Fields) : List String → Fields → Option Fields
  | [], fields => change fields
  | name :: path, fields =>
    match find? name fields with
    | none => (within change path []).map fun inner => set name (.table .implied inner) fields
    | some (.table standing inner) =>
      (within change path inner).map fun inner => set name (.table standing inner) fields
    | some (.tables (entry :: others)) =>
      (within change path entry).map fun entry => set name (.tables (entry :: others)) fields
    | some (.tables []) => none
    | some (.value _) => none

/-- Sets a field that is not there yet. -/
def add (name : String) (node : Node) (fields : Fields) : Option Fields :=
  match find? name fields with
  | none => some (set name node fields)
  | some _ => none

/-- Sets the field of a dotted name: the path leads to the table, which dotted names must have
made; no table on the way may have a header of its own. -/
def addDotted (node : Node) (name : String) : List String → Fields → Option Fields
  | [], fields => add name node fields
  | step :: path, fields =>
    match find? step fields with
    | none => (addDotted node name path []).map fun inner => set step (.table .dotted inner) fields
    | some (.table standing inner) =>
      if standing = .headed ∨ (path.isEmpty ∧ standing ≠ .dotted) then none
      else (addDotted node name path inner).map fun inner => set step (.table standing inner) fields
    | some (.tables (entry :: others)) =>
      if path.isEmpty then none
      else
        (addDotted node name path entry).map fun entry =>
          set step (.tables (entry :: others)) fields
    | some (.tables []) => none
    | some (.value _) => none

/-- Opens a table under its header. -/
def openTable (name : String) (fields : Fields) : Option Fields :=
  match find? name fields with
  | none => some (set name (.table .headed []) fields)
  | some (.table .implied inner) => some (set name (.table .headed inner) fields)
  | some _ => none

/-- Opens the next table of a list of tables. -/
def openEntry (name : String) (fields : Fields) : Option Fields :=
  match find? name fields with
  | none => some (set name (.tables [[]]) fields)
  | some (.tables entries) => some (set name (.tables ([] :: entries)) fields)
  | some _ => none

end Fields

mutual

/-- The value of a node. -/
def Node.toValue : Node → Value
  | .value content => content
  | .table _ fields => .object (Fields.toValues fields)
  | .tables entries => .array (Fields.toItems entries).reverse

/-- The values of some fields. -/
def Fields.toValues : List (String × Node) → List (String × Value)
  | [] => []
  | (name, node) :: rest => (name, node.toValue) :: Fields.toValues rest

/-- The values of some tables. -/
def Fields.toItems : List (List (String × Node)) → List Value
  | [] => []
  | entry :: rest => .object (Fields.toValues entry) :: Fields.toItems rest

end

end Toolpath.Toml
