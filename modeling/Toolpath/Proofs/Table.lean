import Toolpath.Machine.Initialization.Document
import Toolpath.Proofs.Motion.Visit
import Mathlib.Data.String.Basic
import Mathlib.Data.List.Pairwise

/-!
The order of tables. Whatever way a table is made, each name stands in it once, and the names stand in
strictly increasing order; so the names that have a value are listed by it, with nothing left to choose.
-/

namespace Toolpath

namespace Table

variable {β : Type}

/-- The names of a table, one for each entry. -/
def names (table : Table β) : List String := table.map Prod.fst

/-- The names increase. -/
def Ordered (table : Table β) : Prop := table.names.Pairwise (· < ·)

theorem mem_names_iff (table : Table β) (name : String) :
    name ∈ table.names ↔ (table.find? name).isSome = true := by
  induction table with
  | nil => exact ⟨fun member => (nomatch member), fun known => (nomatch known)⟩
  | cons entry rest ih =>
    obtain ⟨known, value⟩ := entry
    show name ∈ known :: names rest ↔ _
    unfold find?
    by_cases same : known = name
    · rw [if_pos same, same]
      exact ⟨fun _ => rfl, fun _ => List.mem_cons_self⟩
    · rw [if_neg same, List.mem_cons, ih]
      exact or_iff_right fun back => same back.symm

theorem mem_names_insert {name other : String} {value : β} {table : Table β} :
    other ∈ (insert name value table).names ↔ other = name ∨ other ∈ table.names := by
  rw [mem_names_iff, mem_names_iff, find?_insert]
  by_cases same : name = other
  · rw [if_pos same]
    exact ⟨fun _ => .inl same.symm, fun _ => rfl⟩
  · rw [if_neg same]
    exact (or_iff_right fun back => same back.symm).symm

theorem Ordered.insert {table : Table β} (ordered : table.Ordered) (name : String) (value : β) :
    (Table.insert name value table).Ordered := by
  induction table with
  | nil => exact List.pairwise_singleton _ _
  | cons entry rest ih =>
    obtain ⟨known, old⟩ := entry
    obtain ⟨first, later⟩ := List.pairwise_cons.mp ordered
    unfold Table.insert
    split
    · rename_i same
      subst same
      exact List.pairwise_cons.mpr ⟨first, later⟩
    · rename_i differs
      split
      · rename_i below
        refine List.pairwise_cons.mpr ⟨?_, ordered⟩
        intro other member
        rcases List.mem_cons.mp member with rfl | inRest
        · exact below
        · exact below.trans (first other inRest)
      · rename_i notBelow
        have above : known < name := lt_of_le_of_ne (not_lt.mp notBelow) differs
        refine List.pairwise_cons.mpr ⟨?_, ih later⟩
        intro other member
        rcases mem_names_insert.mp member with rfl | inRest
        · exact above
        · exact first other inRest

theorem Ordered.merge {table : Table β} (ordered : table.Ordered) (overrides : Table β) :
    (table.merge overrides).Ordered := by
  unfold Table.merge
  induction overrides generalizing table with
  | nil => exact ordered
  | cons entry rest ih => exact ih (ordered.insert entry.1 entry.2)

theorem ordered_nil : Ordered ([] : Table β) := List.Pairwise.nil

theorem ordered_ofList (pairs : List (String × β)) : (ofList pairs).Ordered :=
  ordered_nil.merge pairs

end Table

namespace Initialization

/-- What is read from a document keeps the names it does not know in order. -/
theorem ordered_ofValue {reading : Reading} {value : Value} {initialization : Initialization Float}
    (ok : ofValue reading value = .ok initialization) : initialization.unrecognized.Ordered := by
  cases value with
  | object fields =>
    simp only [ofValue, bind_eq_ok] at ok
    obtain ⟨_, -, _, -, _, -, _, -, _, -, _, -, _, -, _, -, _, -, _, -, _, -, _, -, _, -, made⟩ := ok
    cases made
    exact Table.ordered_ofList _
  | null | bool | integer | float | string | array => cases ok

theorem ordered_overlaid {α : Type} {base : Initialization α} (ordered : base.unrecognized.Ordered)
    (overrides : Initialization α) : (base.overlaid overrides).unrecognized.Ordered :=
  ordered.merge overrides.unrecognized

end Initialization

end Toolpath
