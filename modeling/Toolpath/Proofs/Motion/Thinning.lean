import Toolpath.Proofs.Motion.Walk
import Mathlib.Data.List.Basic

/-!
Scripts from which some elements are left out. The others keep their order and may get other numbers;
what an element does to the machine does not depend on its number.
-/

namespace Toolpath.Motion

variable {α : Type}

/-- Some elements, a script that has them, and what is left of it without them. -/
inductive Thins : List (Element α) → List (Numbered α) → List (Numbered α) → Prop
  | nil : Thins [] [] []
  | kept {left : List (Element α)} {script rest : List (Numbered α)} (element : Element α)
      (number renumbered : Nat) : Thins left script rest →
      Thins left ((element, number) :: script) ((element, renumbered) :: rest)
  | dropped {left : List (Element α)} {script rest : List (Numbered α)} (element : Element α)
      (number : Nat) : Thins left script rest →
      Thins (element :: left) ((element, number) :: script) rest

namespace Thins

theorem same (script : List (Numbered α)) : Thins [] script script := by
  induction script with
  | nil => exact .nil
  | cons numbered rest ih => exact .kept numbered.1 numbered.2 numbered.2 ih

theorem append {left more : List (Element α)} {script rest later laterRest : List (Numbered α)}
    (first : Thins left script rest) (next : Thins more later laterRest) :
    Thins (left ++ more) (script ++ later) (rest ++ laterRest) := by
  induction first with
  | nil => exact next
  | kept element number renumbered _ ih => exact .kept element number renumbered ih
  | dropped element number _ ih => exact .dropped element number ih

theorem filter (keep : Element α → Bool) (elements : List (Element α)) (number renumbered : Nat) :
    Thins (elements.filter (!keep ·)) (elements.zipIdx number)
      ((elements.filter keep).zipIdx renumbered) := by
  induction elements generalizing number renumbered with
  | nil => exact .nil
  | cons element rest ih =>
    by_cases isKept : keep element = true
    · rw [List.filter_cons_of_neg (by simp [isKept]), List.filter_cons_of_pos isKept]
      exact .kept element number renumbered (ih (number + 1) (renumbered + 1))
    · rw [List.filter_cons_of_pos (by simp [isKept]), List.filter_cons_of_neg isKept]
      exact .dropped element number (ih (number + 1) renumbered)

theorem renumbered (elements : List (Element α)) (number other : Nat) :
    Thins [] (elements.zipIdx number) (elements.zipIdx other) := by
  have all := filter (fun _ => true) elements number other
  rw [List.filter_true] at all
  simpa using all

/-- A stretch of the elements of a design is thinned out; all behind it is numbered anew. -/
theorem of_script (initialization : Initialization α) (keep : Element α → Bool)
    (before elements after : List (Element α)) :
    Thins (elements.filter (!keep ·)) (script initialization (before ++ (elements ++ after)))
      (script initialization (before ++ (elements.filter keep ++ after))) := by
  unfold script
  simp only [List.zipIdx_append]
  have middle := (filter keep elements (0 + before.length) (0 + before.length)).append
    (renumbered after (0 + before.length + elements.length)
      (0 + before.length + (elements.filter keep).length))
  rw [List.append_nil] at middle
  exact (same (initialization.prologue.map (·, 0))).append ((same (before.zipIdx 0)).append middle)

end Thins

variable [Scalar α]

theorem step_renumbered {commands : CommandTable} {machine : Machine α} {element : Element α}
    {number : Nat} {run : Run α} (ok : step commands machine (element, number) = .ok run)
    (renumbered : Nat) :
    ∃ other, step commands machine (element, renumbered) = .ok other ∧
      other.machine = run.machine ∧ other.emissions = run.emissions := by
  obtain ⟨outcome, visited, rfl⟩ := step_eq_ok.mp ok
  exact ⟨_, step_eq_ok.mpr ⟨outcome, visited, rfl⟩, rfl, rfl⟩

end Toolpath.Motion
