import Toolpath.Motion.Run
import Toolpath.Proofs.Motion.Visit

/-!
Walks taken apart: a walk that succeeds is one that succeeds on each part of its elements, and gives
what the parts give, one after the other.
-/

namespace Toolpath

variable {α : Type}

/-- What two walks give together. -/
def Run.followed (earlier later : Run α) : Run α :=
  ⟨later.machine, earlier.emissions ++ later.emissions, earlier.diagnostics ++ later.diagnostics⟩

namespace Motion

variable [Scalar α]

theorem step_eq_ok {commands : CommandTable} {machine : Machine α} {element : Element α} {index : Nat}
    {run : Run α} : step commands machine (element, index) = .ok run ↔
      ∃ outcome, machine.visit commands element = .ok outcome ∧
        run = ⟨outcome.machine, outcome.emissions,
          outcome.remarks.map (⟨index, element.kind, ·⟩)⟩ := by
  cases visited : machine.visit commands element with
  | error defect => simp [step, visited]
  | ok outcome => simp [step, visited, eq_comm]

theorem walk_cons_eq_ok {commands : CommandTable} {machine : Machine α} {numbered : Numbered α}
    {rest : List (Numbered α)} {run : Run α} :
    walk commands machine (numbered :: rest) = .ok run ↔
      ∃ first later, step commands machine numbered = .ok first ∧
        walk commands first.machine rest = .ok later ∧ run = first.followed later := by
  rw [walk, bind_eq_ok]
  constructor
  · rintro ⟨first, atFirst, ok⟩
    obtain ⟨later, atLater, ok⟩ := bind_eq_ok.mp ok
    cases ok
    exact ⟨first, later, atFirst, atLater, rfl⟩
  · rintro ⟨first, later, atFirst, atLater, rfl⟩
    exact ⟨first, atFirst, bind_eq_ok.mpr ⟨later, atLater, rfl⟩⟩

theorem walk_singleton (commands : CommandTable) (machine : Machine α) (numbered : Numbered α) :
    walk commands machine [numbered] = step commands machine numbered := by
  rw [walk]
  cases step commands machine numbered with
  | error fault => rfl
  | ok run =>
    show Except.ok (Run.followed run ⟨run.machine, [], []⟩) = .ok run
    simp only [Run.followed, List.append_nil]

/-- A walk over two lists is a walk over the second from where the first one ends. -/
theorem walk_append (commands : CommandTable) (machine : Machine α)
    (before after : List (Numbered α)) :
    walk commands machine (before ++ after) = walk commands machine before >>= fun earlier =>
      walk commands earlier.machine after >>= fun later => .ok (earlier.followed later) := by
  induction before generalizing machine with
  | nil =>
    show walk commands machine after = walk commands machine after >>= fun later => .ok later
    cases walk commands machine after <;> rfl
  | cons numbered rest ih =>
    simp only [List.cons_append, walk, ih]
    cases step commands machine numbered with
    | error fault => rfl
    | ok first =>
      dsimp only [bind, Except.bind]
      cases walk commands first.machine rest with
      | error fault => rfl
      | ok earlier =>
        dsimp only
        cases walk commands earlier.machine after with
        | error fault => rfl
        | ok later => simp only [Run.followed, List.append_assoc]

theorem walk_append_eq_ok {commands : CommandTable} {machine : Machine α}
    {before after : List (Numbered α)} {run : Run α} :
    walk commands machine (before ++ after) = .ok run ↔
      ∃ earlier later, walk commands machine before = .ok earlier ∧
        walk commands earlier.machine after = .ok later ∧ run = earlier.followed later := by
  rw [walk_append, bind_eq_ok]
  constructor
  · rintro ⟨earlier, atEarlier, ok⟩
    obtain ⟨later, atLater, ok⟩ := bind_eq_ok.mp ok
    cases ok
    exact ⟨earlier, later, atEarlier, atLater, rfl⟩
  · rintro ⟨earlier, later, atEarlier, atLater, rfl⟩
    exact ⟨earlier, atEarlier, bind_eq_ok.mpr ⟨later, atLater, rfl⟩⟩

/-- Elements that look the same wherever they are walked can stand for one another in any walk, for a
view of runs that is taken part by part and shows the machine. -/
theorem walk_exchange {view : Run α → Run α}
    (parts : ∀ earlier later : Run α, view (earlier.followed later) = (view earlier).followed (view later))
    (shows : ∀ run, (view run).machine = run.machine) {commands : CommandTable}
    {elements others : List (Numbered α)}
    (same : ∀ machine, (walk commands machine others).map view = (walk commands machine elements).map view)
    (machine : Machine α) (before after : List (Numbered α)) :
    (walk commands machine (before ++ (others ++ after))).map view =
      (walk commands machine (before ++ (elements ++ after))).map view := by
  rw [walk_append, walk_append]
  cases walk commands machine before with
  | error fault => rfl
  | ok earlier =>
    show (walk commands earlier.machine (others ++ after) >>= _).map view =
      (walk commands earlier.machine (elements ++ after) >>= _).map view
    rw [walk_append, walk_append]
    rcases eq_or_eq_of_map_eq (same earlier.machine) with
      ⟨fault, left, right⟩ | ⟨run, other, left, right, alike⟩
    · rw [left, right]
    · have machines : run.machine = other.machine := by rw [← shows, alike, shows]
      rw [left, right]
      show ((walk commands run.machine after >>= _) >>= _).map view =
        ((walk commands other.machine after >>= _) >>= _).map view
      rw [machines]
      cases walk commands other.machine after with
      | error fault => rfl
      | ok later =>
        show Except.ok (view (earlier.followed (run.followed later))) =
          Except.ok (view (earlier.followed (other.followed later)))
        rw [parts, parts run, alike, ← parts, ← parts]

theorem runElements_eq_ok {commands : CommandTable} {initialization : Initialization α}
    {elements : List (Element α)} {run : Run α} :
    runElements commands initialization elements = .ok run ↔
      ∃ walked, walk commands .initial (script initialization elements) = .ok walked ∧
        run = { walked with diagnostics := unknownKeys initialization ++ walked.diagnostics } := by
  rw [runElements, bind_eq_ok]
  simp only [Except.ok.injEq, eq_comm]

theorem runElements_eq_error_iff {commands : CommandTable} {initialization : Initialization α}
    {elements : List (Element α)} {fault : Fault α} :
    runElements commands initialization elements = .error fault ↔
      walk commands .initial (script initialization elements) = .error fault := by
  rw [← cause?_eq_some, ← cause?_eq_some, runElements, cause?_bind_ok]

omit [Scalar α] in
theorem map_fst_script (initialization : Initialization α) (elements : List (Element α)) :
    (script initialization elements).map Prod.fst = initialization.prologue ++ elements := by
  unfold script
  rw [List.map_append, List.map_map, List.zipIdx_map_fst]
  exact congrArg (· ++ elements) (List.map_id _)

theorem render_of_ok {β : Type} {output : List (Emission α) → β} {commands : CommandTable}
    {initialization : Initialization α} {design : Design α} {run : Run α}
    (ok : Motion.run commands initialization design = .ok run) :
    render output commands initialization design =
      .ok ⟨output run.emissions, run.diagnostics⟩ := by
  rw [render, ok]
  rfl

theorem render_of_error {β : Type} {output : List (Emission α) → β} {commands : CommandTable}
    {initialization : Initialization α} {design : Design α} {fault : Fault α}
    (fails : Motion.run commands initialization design = .error fault) :
    render output commands initialization design = .error fault := by
  rw [render, fails]
  rfl

theorem render_eq_ok {β : Type} {output : List (Emission α) → β} {commands : CommandTable}
    {initialization : Initialization α} {design : Design α} {transformed : Transformed α β} :
    render output commands initialization design = .ok transformed ↔
      ∃ run, Motion.run commands initialization design = .ok run ∧
        transformed = ⟨output run.emissions, run.diagnostics⟩ := by
  cases walked : Motion.run commands initialization design with
  | error fault => simp [render_of_error walked]
  | ok run => simp [render_of_ok walked, eq_comm]

omit [Scalar α] in
/-- A run that is evaluated, seen through a function of it. -/
theorem exists_run_of_map {β : Type} {view : Run α → β} {seen : β}
    {result : Except (Fault α) (Run α)} (evaluated : result.toOption.map view = some seen) :
    ∃ run, result = .ok run ∧ view run = seen := by
  cases result with
  | error fault => cases evaluated
  | ok run => exact ⟨run, rfl, Option.some.inj evaluated⟩

end Motion

end Toolpath
