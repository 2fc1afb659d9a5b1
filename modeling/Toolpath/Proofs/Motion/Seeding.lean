import Toolpath.Proofs.Motion.Numbering
import Toolpath.Proofs.Motion.Failure

/-!
A walk that is seeded with an initialization. It is the walk over the prologue and then over the design,
but for the numbers: those of the prologue are zero, and those of the design count from its own beginning.
-/

namespace Toolpath

variable {α : Type}

/-- Whether an action is heating that is waited for. -/
def Action.isWaiting : Action α → Bool
  | .hotend _ wait _ => wait
  | .bed _ wait => wait
  | _ => false

namespace Initialization

/-- The number that an element at an index of the prologue and the design is reported under. -/
def number (initialization : Initialization α) (index : Nat) : Nat :=
  if index < initialization.prologue.length then 0 else index - initialization.prologue.length

theorem number_of_lt {initialization : Initialization α} {index : Nat}
    (inPrologue : index < initialization.prologue.length) : initialization.number index = 0 :=
  if_pos inPrologue

theorem number_add (initialization : Initialization α) (index : Nat) :
    initialization.number (index + initialization.prologue.length) = index := by
  unfold number
  rw [if_neg (by omega), Nat.add_sub_cancel]

theorem prologue_default : ({} : Initialization α).prologue = [] := rfl

end Initialization

namespace Motion

variable [Scalar α] (commands : CommandTable) (initialization : Initialization α)

omit [Scalar α] in
/-- The same elements in the same order, but for their numbers. -/
theorem script_seeded (elements : List (Element α)) : script initialization elements =
    (script {} (initialization.prologue ++ elements)).map (Prod.map id initialization.number) := by
  have unseeded : script {} (initialization.prologue ++ elements) =
      initialization.prologue.zipIdx ++ elements.zipIdx initialization.prologue.length := by
    rw [script, Initialization.prologue_default, List.zipIdx_append, Nat.zero_add]
    exact List.nil_append _
  have first : initialization.prologue.zipIdx.map (Prod.map id initialization.number) =
      initialization.prologue.map (·, 0) := by
    have zero : initialization.prologue.zipIdx.map (Prod.map id initialization.number) =
        initialization.prologue.zipIdx.map ((·, 0) ∘ Prod.fst) := by
      refine List.map_congr_left fun here member => ?_
      have bound := List.snd_lt_of_mem_zipIdx member
      exact congrArg (here.1, ·) (Initialization.number_of_lt bound)
    rw [zero, ← List.map_map, List.zipIdx_map_fst]
  have later : (elements.zipIdx initialization.prologue.length).map
      (Prod.map id initialization.number) = elements.zipIdx := by
    rw [zipIdx_eq_map, List.map_map]
    refine (List.map_congr_left fun here _ => ?_).trans (List.map_id _)
    exact congrArg (here.1, ·) (initialization.number_add here.2)
  rw [unseeded, List.map_append, first, later]
  rfl

omit [Scalar α] in
theorem isWaiting_of_mem_heating {wait : Bool} {action : Action α}
    (member : action ∈ initialization.heating wait) : action.isWaiting = wait := by
  rcases List.mem_append.mp member with bed | hotend
  · obtain ⟨celsius, -, rfl⟩ := Option.map_eq_some_iff.mp (Option.mem_toList.mp bed)
    rfl
  · obtain ⟨celsius, -, rfl⟩ := Option.map_eq_some_iff.mp (Option.mem_toList.mp hotend)
    rfl

/-- Everything is heated before anything is waited for. -/
theorem heating_of_isWaiting {before after : List (Action α)} {action : Action α}
    (split : initialization.actions = before ++ action :: after) (waiting : action.isWaiting = true) :
    initialization.heating false ⊆ before := by
  let early := initialization.relative.toList.map .announced ++ initialization.heating false
  have patient {other : Action α} (member : other ∈ early) : other.isWaiting = false := by
    rcases List.mem_append.mp member with mode | heating
    · obtain ⟨relative, -, rfl⟩ := List.mem_map.mp mode
      rfl
    · exact isWaiting_of_mem_heating initialization heating
  have cut : early ++ (initialization.heating true ++ (initialization.clampedFan.toList.map .fan ++
      if initialization.on = some true then [.toggled true] else [])) = before ++ action :: after := by
    rw [← split]
    simp only [early, Initialization.actions, List.append_assoc]
  have behind : early ⊆ before := by
    rcases List.append_eq_append_iff.mp cut with ⟨more, rfl, -⟩ | ⟨more, all, rest⟩
    · exact List.subset_append_left early more
    · cases more with
      | nil =>
        rw [all, List.append_nil]
        exact List.Subset.refl _
      | cons first others =>
        obtain rfl := List.head_eq_of_cons_eq rest
        have early := patient (all ▸ List.mem_append_right before List.mem_cons_self)
        rw [waiting] at early
        cases early
  exact List.Subset.trans (List.subset_append_right _ _) behind

/-- No fault is met in the prologue, since it is made of settings. -/
theorem length_prologue_le_index {fault : Fault α} {elements : List (Element α)}
    (fails : runElements commands {} (initialization.prologue ++ elements) = .error fault) :
    initialization.prologue.length ≤ fault.index := by
  obtain ⟨before, element, after, split, -, atElement⟩ := runElements_eq_error.mp fails
  obtain ⟨index, -, flaw⟩ := fault?_eq_some.mp atElement
  by_contra short
  have here := getElem?_of_split split
  rw [List.getElem?_append_left (by omega)] at here
  have isSetting := Initialization.isSetting_of_mem_prologue (List.mem_of_getElem? here)
  rw [Element.flaw?_of_isSetting isSetting] at flaw
  cases flaw

/-- An initialization is a prologue and nothing more. A seeded run hands over to anyone what the run
over the prologue and the elements does, and ends as it does: with the same machine and emissions, and
with its diagnostics behind those on unknown names; or with its fault, which is at an element. The
prologue is numbered zero, and the elements from their own beginning. They are visited from the machine
with the settings laid over it, and nothing is waited for before everything is heated. -/
theorem runElements_seeded (commands : CommandTable) (initialization : Initialization α)
    (elements : List (Element α)) :
    (∀ {ρ : Type} (take : ρ → Emission α → ρ) (taker : ρ),
      serve take commands .initial taker (script initialization elements) =
        serve take commands .initial taker (script {} (initialization.prologue ++ elements))) ∧
    (∀ run, runElements commands {} (initialization.prologue ++ elements) = .ok run →
      runElements commands initialization elements = .ok { run with
        diagnostics := unknownKeys initialization ++
          run.diagnostics.map (Diagnostic.renumbered initialization.number) }) ∧
    (∀ fault, runElements commands {} (initialization.prologue ++ elements) = .error fault →
      initialization.prologue.length ≤ fault.index ∧
        runElements commands initialization elements =
          .error { fault with index := fault.index - initialization.prologue.length }) ∧
    (∃ prologue, walk commands .initial (initialization.prologue.map (·, 0)) = .ok prologue ∧
      prologue.machine = initialization.machine ∧
      prologue.emissions.map (·.action) = initialization.actions ∧
      prologue.diagnostics = fanReports initialization ∧
      walk commands .initial (script initialization elements) =
        (walk commands initialization.machine elements.zipIdx).map prologue.followed ∧
      delivered commands .initial (script initialization elements) =
        prologue.emissions ++ delivered commands initialization.machine elements.zipIdx) ∧
    ∀ before action after, initialization.actions = before ++ action :: after →
      action.isWaiting = true → initialization.heating false ⊆ before := by
  have same := walk_map_number initialization.number commands .initial
    (script {} (initialization.prologue ++ elements))
  rw [← script_seeded] at same
  obtain ⟨prologue, walked, machine, actions, diagnostics⟩ := walk_prologue commands initialization
  refine ⟨fun take taker => ?_, fun run ok => ?_, fun fault fails => ?_,
    ⟨prologue, walked, machine, actions, diagnostics, ?_, ?_⟩, fun before action after split =>
      heating_of_isWaiting initialization split⟩
  · rw [serve_eq_foldl, serve_eq_foldl, script_seeded, delivered_map_number]
  · obtain ⟨whole, onScript, rfl⟩ := runElements_eq_ok.mp ok
    rw [onScript] at same
    exact runElements_eq_ok.mpr ⟨_, same, rfl⟩
  · have bound := length_prologue_le_index commands initialization fails
    have number : initialization.number fault.index =
        fault.index - initialization.prologue.length := if_neg (Nat.not_lt.mpr bound)
    rw [runElements_eq_error_iff.mp fails] at same
    refine ⟨bound, runElements_eq_error_iff.mpr (same.trans ?_)⟩
    rw [← number]
    rfl
  · rw [script, walk_append, walked, ← machine]
    cases later : walk commands prologue.machine elements.zipIdx with
    | error fault =>
      show (walk commands prologue.machine elements.zipIdx >>= _) = _
      rw [later]
      rfl
    | ok run =>
      show (walk commands prologue.machine elements.zipIdx >>= _) = _
      rw [later]
      rfl
  · rw [script, delivered_append walked, machine]

/-- Settings of every sort, a fan that is no number, and a name that is none of the settings. -/
def warm : Initialization Float where
  travelSpeed := some 6000.0
  hotend := some 210.0
  bed := some 60.0
  fan := some (0.0 / 0.0)
  width := some 0.4
  relative := some true
  unrecognized := .ofList [("skirt", .null)]

theorem runElements_seeded_warm :
    let elements : List (Element Float) := [.event (.command "park"), .point { x := some 1.0 }]
    ∃ run, runElements (fun _ => none) {} (warm.prologue ++ elements) = .ok run ∧
      run.diagnostics = [⟨7, "FanSetting", .fanIgnored (0.0 / 0.0)⟩,
        ⟨8, "DeviceCommand", .unmapped "park"⟩, ⟨9, "Point", .originOpen⟩] ∧
      runElements (fun _ => none) warm elements = .ok { run with
        diagnostics := [⟨0, "InitializationData", .unrecognized "skirt"⟩,
          ⟨0, "FanSetting", .fanIgnored (0.0 / 0.0)⟩, ⟨0, "DeviceCommand", .unmapped "park"⟩,
          ⟨1, "Point", .originOpen⟩] } := by
  intro elements
  have evaluated : (runElements (fun _ => none) {} (warm.prologue ++ elements)).toOption.map
      (·.diagnostics) = some [⟨7, "FanSetting", .fanIgnored (0.0 / 0.0)⟩,
        ⟨8, "DeviceCommand", .unmapped "park"⟩, ⟨9, "Point", .originOpen⟩] := by
    decide +kernel
  obtain ⟨run, ok, diagnostics⟩ := exists_run_of_map evaluated
  obtain ⟨-, succeeds, -⟩ := runElements_seeded (fun _ => none) warm elements
  have seeded := succeeds run ok
  rw [diagnostics] at seeded
  exact ⟨run, ok, diagnostics, seeded⟩

end Motion

end Toolpath
