/-!
Tables from names to values, in the order of the names.
-/

namespace Toolpath

/-- A table from names to values. Tables made by the functions here are in strictly increasing
order of the names, character by character. -/
abbrev Table (β : Type) := List (String × β)

namespace Table

variable {β : Type}

/-- The value of a name, if it has one. -/
def find? (name : String) : Table β → Option β
  | [] => none
  | (other, value) :: rest => if other = name then some value else find? name rest

/-- The table with one value set, at the place of its name. -/
def insert (name : String) (value : β) : Table β → Table β
  | [] => [(name, value)]
  | (other, old) :: rest =>
    if other = name then (name, value) :: rest
    else if name < other then (name, value) :: (other, old) :: rest
    else (other, old) :: insert name value rest

/-- The table with all of another one's values set. -/
def merge (table overrides : Table β) : Table β :=
  overrides.foldl (fun merged entry => insert entry.1 entry.2 merged) table

/-- The table of some pairs; of two with one name the later one stays. -/
def ofList (pairs : List (String × β)) : Table β := merge [] pairs

theorem find?_insert (name other : String) (value : β) (table : Table β) :
    find? other (insert name value table) =
      if name = other then some value else find? other table := by
  induction table with
  | nil => simp [insert, find?]
  | cons entry rest ih =>
    obtain ⟨known, old⟩ := entry
    by_cases same : known = name
    · subst same
      by_cases asked : known = other <;> simp [insert, find?, asked]
    · by_cases before : name < known
      · simp [insert, find?, same, before]
      · by_cases asked : known = other
        · subst asked
          simp [insert, find?, same, before, Ne.symm same]
        · simp [insert, find?, same, before, asked, ih]

end Table

end Toolpath
