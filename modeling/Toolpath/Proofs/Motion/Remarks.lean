import Toolpath.Proofs.Motion.Meaning
import Toolpath.Proofs.Motion.Numbering
import Toolpath.Proofs.Table

/-!
What is said of the elements of a walk, told from the elements alone. A remark hangs on its element, on
the table of commands, and on whether a point came before; no other history matters.
-/

namespace Toolpath

variable {α : Type}

/-- Whether there is a point among elements. -/
def Element.anyPoint (elements : List (Element α)) : Bool := elements.any (·.point?.isSome)

/-- Remarks on an element that is passed over altogether. -/
def Remark.isRefusal : Remark α → Bool
  | .unmapped _ | .fanIgnored _ | .unplaced _ => true
  | _ => false

variable [Scalar α]

namespace Point

/-- A speed that is set and no good, and then the axes that are left open with no place to take them
from. -/
def remarks (point : Point α) (placed : Bool) : List (Remark α) :=
  (point.speed.toList.filter (!Scalar.isUsable ·)).map .speedIgnored ++
    if placed || point.isComplete then [] else [.originOpen]

/-- A point is gone to whatever is said of it. -/
theorem isRefusal_of_mem_remarks {point : Point α} {placed : Bool} {remark : Remark α}
    (member : remark ∈ point.remarks placed) : remark.isRefusal = false := by
  rcases List.mem_append.mp member with paced | axes
  · obtain ⟨speed, -, rfl⟩ := List.mem_map.mp paced
    rfl
  · split at axes
    · cases axes
    · obtain rfl := List.mem_singleton.mp axes
      rfl

end Point

/-- What there is to say of an element, behind a point or not. -/
def Element.remarks (commands : CommandTable) (placed : Bool) : Element α → List (Remark α)
  | .point target => target.remarks placed
  | .event (.command id) => if (commands id).isSome then [] else [.unmapped id]
  | .event (.fan percent) => if Scalar.isFinite percent then [] else [.fanIgnored percent]
  | .event (.marker label none) => if placed then [] else [.unplaced label]
  | _ => []

namespace Machine

variable {commands : CommandTable} {machine : Machine α} {element : Element α} {outcome : Outcome α}

theorem pace_remarks (machine : Machine α) (speed : Option α) : (machine.pace speed).remarks =
    (speed.toList.filter (!Scalar.isUsable ·)).map .speedIgnored := by
  unfold pace
  cases speed with
  | none => rfl
  | some speed =>
    cases fit : Scalar.isUsable speed with
    | false => simp [remark, fit]
    | true =>
      simp only [Option.toList_some, List.filter_singleton, fit, if_true]
      split <;> rfl

theorem reach_remarks {point : Point α} (ok : machine.reach point = .ok outcome) :
    outcome.remarks = if machine.position.isSome || point.isComplete then [] else [.originOpen] := by
  unfold reach at ok
  cases placed : machine.position with
  | none =>
    rw [placed] at ok
    cases ok
    rfl
  | some start =>
    rw [placed] at ok
    cases went_of_go ok <;> rfl

theorem visitPoint_remarks {point : Point α} (ok : machine.visitPoint point = .ok outcome) :
    outcome.remarks = point.remarks machine.position.isSome := by
  obtain ⟨moved, atMoved, rfl⟩ := visitPoint_eq_ok.mp ok
  have axes := reach_remarks atMoved
  obtain ⟨speeds, color, ready⟩ := machine.ready_machine point
  rw [ready] at axes
  exact congrArg₂ (· ++ ·) (pace_remarks _ point.speed) axes

/-- An element is remarked on just as there is to say of it. -/
theorem visit_remarks (ok : machine.visit commands element = .ok outcome) :
    outcome.remarks = element.remarks commands machine.position.isSome := by
  cases element with
  | point point => exact visitPoint_remarks ok
  | speeds | bead =>
    cases ok
    rfl
  | extruder fragment =>
    cases ok
    dsimp only [announce]
    split
    · split <;> rfl
    · rfl
  | event event =>
    cases event with
    | toggle on =>
      cases ok
      dsimp only [switch]
      split <;> rfl
    | command id =>
      simp only [visit, visitEvent] at ok
      cases known : commands id <;> simp only [known] at ok <;> cases ok <;>
        simp [Element.remarks, known, emit, remark]
    | extrude volume speed =>
      simp only [visit, visitEvent, extrude] at ok
      obtain ⟨factor, -, ok⟩ := bind_eq_ok.mp ok
      cases ok
      rfl
    | fan percent =>
      cases ok
      dsimp only [blow]
      cases finite : Scalar.isFinite percent <;> simp [Element.remarks, finite, emit, remark]
    | marker label point =>
      cases ok
      dsimp only [mark]
      cases point with
      | some point => rfl
      | none => cases placed : machine.position <;> simp [Element.remarks, emit, remark]
    | raw | comment | hotend | bed =>
      cases ok
      rfl

/-- The tool is somewhere from the first point on. -/
theorem visit_placed (ok : machine.visit commands element = .ok outcome) :
    outcome.machine.position.isSome = (machine.position.isSome || element.point?.isSome) := by
  have behind := congrArg (·.place.isSome) (visit_leg ok).1
  unfold Tool.visit at behind
  cases isPoint : element.point? with
  | none =>
    rw [isPoint] at behind
    exact behind.trans (Bool.or_false _).symm
  | some point =>
    rw [isPoint] at behind
    exact behind.trans (Bool.or_true _).symm

/-- An element that is passed over tells nothing. -/
theorem visit_refused (ok : machine.visit commands element = .ok outcome)
    (refused : outcome.remarks.any Remark.isRefusal = true) : outcome.emissions = [] := by
  rw [visit_remarks ok] at refused
  cases element with
  | point point =>
    obtain ⟨remark, member, isRefusal⟩ := List.any_eq_true.mp refused
    rw [Point.isRefusal_of_mem_remarks member] at isRefusal
    cases isRefusal
  | speeds | extruder | bead => cases refused
  | event event =>
    cases event with
    | command id =>
      simp only [visit, visitEvent] at ok
      cases known : commands id with
      | some text =>
        simp [Element.remarks, known] at refused
      | none =>
        rw [known] at ok
        cases ok
        rfl
    | fan percent =>
      cases ok
      dsimp only [blow]
      cases finite : Scalar.isFinite percent with
      | true => simp [Element.remarks, finite] at refused
      | false => rfl
    | marker label point =>
      cases ok
      cases point with
      | some point => cases refused
      | none =>
        cases placed : machine.position with
        | some start => simp [Element.remarks, placed] at refused
        | none =>
          unfold mark
          rw [placed]
          rfl
    | toggle | raw | comment | extrude | hotend | bed => cases refused

end Machine

namespace Motion

variable {commands : CommandTable} {initialization : Initialization α}

/-- What there is to say of an element, under its number and its kind. -/
def report (commands : CommandTable) (placed : Bool) (here : Numbered α) : List (Diagnostic α) :=
  (here.1.remarks commands placed).map (⟨here.2, here.1.kind, ·⟩)

/-- All there is to say of elements, in their order. -/
def reports (commands : CommandTable) (elements : List (Element α)) : List (Diagnostic α) :=
  elements.zipIdx.flatMap fun here =>
    report commands (Element.anyPoint (elements.take here.2)) here

/-- All there is to say of elements that stand behind others, under their places among themselves. -/
def reportsBehind (commands : CommandTable) (before elements : List (Element α)) :
    List (Diagnostic α) :=
  elements.zipIdx.flatMap fun here =>
    report commands (Element.anyPoint (before ++ elements.take here.2)) here

/-- What is said of elements behind others is moved by these. -/
theorem reports_append (commands : CommandTable) (before elements : List (Element α)) :
    reports commands (before ++ elements) = reports commands before ++
      (reportsBehind commands before elements).map (Diagnostic.renumbered (before.length + ·)) := by
  have first : before.zipIdx.flatMap (fun here =>
      report commands (Element.anyPoint ((before ++ elements).take here.2)) here) =
        reports commands before := by
    refine List.flatMap_congr fun here member => ?_
    have bound := List.snd_lt_of_mem_zipIdx member
    rw [List.take_append_of_le_length (by omega)]
  have later : (elements.zipIdx before.length).flatMap (fun here =>
      report commands (Element.anyPoint ((before ++ elements).take here.2)) here) =
        (reportsBehind commands before elements).map
          (Diagnostic.renumbered (before.length + ·)) := by
    rw [zipIdx_eq_map, List.flatMap_map, reportsBehind, List.map_flatMap]
    refine List.flatMap_congr fun here _ => ?_
    show report commands (Element.anyPoint ((before ++ elements).take (here.2 + before.length)))
      (here.1, here.2 + before.length) = _
    rw [Nat.add_comm, List.take_length_add_append, report, report, List.map_map]
    rfl
  unfold reports
  rw [List.zipIdx_append, List.flatMap_append, Nat.zero_add, later]
  exact congrArg (· ++ _) first

theorem exists_of_mem_reportsBehind {before elements : List (Element α)} {diagnostic : Diagnostic α}
    (member : diagnostic ∈ reportsBehind commands before elements) :
    ∃ element placed, elements[diagnostic.index]? = some element ∧
      diagnostic.kind = element.kind ∧ diagnostic.remark ∈ element.remarks commands placed := by
  obtain ⟨⟨element, index⟩, inElements, reported⟩ := List.mem_flatMap.mp member
  obtain ⟨remark, inRemarks, rfl⟩ := List.mem_map.mp reported
  exact ⟨element, _, List.mem_zipIdx_iff_getElem?.mp inElements, rfl, inRemarks⟩

theorem reports_concat (commands : CommandTable) (before : List (Element α)) (element : Element α) :
    reports commands (before ++ [element]) =
      reports commands before ++ report commands (Element.anyPoint before) (element, before.length) := by
  have last : reportsBehind commands before [element] =
      report commands (Element.anyPoint before) (element, 0) := by
    rw [reportsBehind, List.zipIdx_singleton, List.flatMap_singleton, List.take_zero, List.append_nil]
  rw [reports_append, last, report, report, List.map_map]
  rfl

theorem step_diagnostics {machine : Machine α} {here : Numbered α} {run : Run α}
    (ok : step commands machine here = .ok run) :
    run.diagnostics = report commands machine.position.isSome here := by
  obtain ⟨outcome, visited, rfl⟩ := step_eq_ok.mp ok
  exact congrArg (List.map _) (Machine.visit_remarks visited)

theorem walk_placed {machine : Machine α} {elements : List (Numbered α)} {run : Run α}
    (ok : walk commands machine elements = .ok run) : run.machine.position.isSome =
      (machine.position.isSome || Element.anyPoint (elements.map Prod.fst)) := by
  induction elements generalizing machine run with
  | nil =>
    cases ok
    exact (Bool.or_false _).symm
  | cons here rest ih =>
    obtain ⟨first, later, atFirst, atLater, rfl⟩ := walk_cons_eq_ok.mp ok
    obtain ⟨outcome, visited, rfl⟩ := step_eq_ok.mp atFirst
    have behind := ih atLater
    rw [Machine.visit_placed visited, Bool.or_assoc] at behind
    exact behind

omit [Scalar α] in
theorem anyPoint_script (initialization : Initialization α) (elements : List (Element α)) :
    Element.anyPoint ((script initialization elements).map Prod.fst) = Element.anyPoint elements := by
  have prologue : initialization.prologue.any (·.point?.isSome) = false := by
    rw [List.any_eq_false]
    intro element member
    rw [Initialization.point?_of_mem_prologue member]
    exact Bool.false_ne_true
  rw [map_fst_script, Element.anyPoint, List.any_append, prologue, Bool.false_or]
  rfl

theorem walk_diagnostics {elements : List (Element α)} {run : Run α}
    (ok : walk commands .initial (script initialization elements) = .ok run) :
    run.diagnostics = fanReports initialization ++ reports commands elements := by
  refine script_induction ?prologue ?visit ok
  case prologue =>
    intro run _ _ _ diagnostics
    rw [diagnostics]
    exact (List.append_nil _).symm
  case visit =>
    intro before element earlier outcome walked visited reported
    have placed : earlier.machine.position.isSome = Element.anyPoint before :=
      (walk_placed walked).trans (anyPoint_script initialization before)
    have here : step commands earlier.machine (element, before.length) = .ok _ :=
      step_eq_ok.mpr ⟨outcome, visited, rfl⟩
    rw [reports_concat, ← placed, ← step_diagnostics here, reported, List.append_assoc]

theorem runElements_diagnostics {initialization : Initialization α} {elements : List (Element α)}
    {run : Run α} (ok : runElements commands initialization elements = .ok run) :
    run.diagnostics =
      unknownKeys initialization ++ fanReports initialization ++ reports commands elements := by
  obtain ⟨walked, onScript, rfl⟩ := runElements_eq_ok.mp ok
  show unknownKeys initialization ++ walked.diagnostics = _
  rw [walk_diagnostics onScript, List.append_assoc]

theorem index_of_mem_reports {elements : List (Element α)} {diagnostic : Diagnostic α}
    (member : diagnostic ∈ reports commands elements) : diagnostic.index < elements.length := by
  obtain ⟨here, inElements, reported⟩ := List.mem_flatMap.mp member
  obtain ⟨remark, -, rfl⟩ := List.mem_map.mp reported
  have bound := List.snd_lt_of_mem_zipIdx inElements
  exact Nat.zero_add elements.length ▸ bound

theorem reports_pairwise (commands : CommandTable) (elements : List (Element α)) :
    (reports commands elements).Pairwise (·.index ≤ ·.index) := by
  induction elements using List.reverseRecOn with
  | nil => exact .nil
  | append_singleton before element ih =>
    have here {diagnostic : Diagnostic α} (member : diagnostic ∈
        report commands (Element.anyPoint before) (element, before.length)) :
        diagnostic.index = before.length := by
      obtain ⟨remark, -, rfl⟩ := List.mem_map.mp member
      rfl
    rw [reports_concat, List.pairwise_append]
    refine ⟨ih, ?_, ?_⟩
    · refine List.pairwise_of_forall_mem_list ?_
      intro one atOne other atOther
      exact (here atOne).trans_le (here atOther).ge
    · intro one atOne other atOther
      have bound := index_of_mem_reports atOne
      have number := here atOther
      omega

theorem step_refused {machine : Machine α} {here : Numbered α} {run : Run α}
    (ok : step commands machine here = .ok run)
    (refused : run.diagnostics.any (·.remark.isRefusal) = true) : run.emissions = [] := by
  obtain ⟨outcome, visited, rfl⟩ := step_eq_ok.mp ok
  rw [List.any_map] at refused
  exact Machine.visit_refused visited refused

/-- What a run reports, and nothing else: the names that the initialization does not know, in their
order; its fan, if that is no number; and what there is to say of each element. The numbers never go
down, and where an element is passed over nothing is told. -/
theorem runElements_reports {elements : List (Element α)} {run : Run α}
    (ordered : initialization.unrecognized.Ordered)
    (ok : runElements commands initialization elements = .ok run) :
    ∃ keys : List String, keys.Pairwise (· < ·) ∧
      (∀ key, key ∈ keys ↔ (initialization.unrecognized.find? key).isSome = true) ∧
      run.diagnostics = keys.map (⟨0, "InitializationData", .unrecognized ·⟩) ++
        fanReports initialization ++ reports commands elements ∧
      run.diagnostics.Pairwise (·.index ≤ ·.index) ∧
      ∀ before here after, script initialization elements = before ++ here :: after →
        ∃ earlier visited later, walk commands .initial before = .ok earlier ∧
          step commands earlier.machine here = .ok visited ∧
          walk commands visited.machine after = .ok later ∧
          run.emissions = earlier.emissions ++ visited.emissions ++ later.emissions ∧
          visited.diagnostics = report commands (Element.anyPoint (before.map Prod.fst)) here ∧
          (visited.diagnostics.any (·.remark.isRefusal) = true → visited.emissions = []) := by
  obtain ⟨walked, onScript, rfl⟩ := runElements_eq_ok.mp ok
  have unknown : unknownKeys initialization =
      initialization.unrecognized.names.map (⟨0, "InitializationData", .unrecognized ·⟩) := by
    unfold unknownKeys Table.names
    rw [List.map_map]
    rfl
  have all : unknownKeys initialization ++ walked.diagnostics =
      initialization.unrecognized.names.map (⟨0, "InitializationData", .unrecognized ·⟩) ++
        fanReports initialization ++ reports commands elements := by
    rw [walk_diagnostics onScript, unknown, List.append_assoc]
  refine ⟨_, ordered, Table.mem_names_iff _, all, ?_, ?_⟩
  · have first : ∀ diagnostic ∈
        initialization.unrecognized.names.map (⟨0, "InitializationData", .unrecognized ·⟩) ++
          fanReports initialization, diagnostic.index = 0 := by
      intro diagnostic member
      rcases List.mem_append.mp member with known | known
      · obtain ⟨key, -, rfl⟩ := List.mem_map.mp known
        rfl
      · obtain ⟨percent, -, rfl⟩ := List.mem_map.mp known
        rfl
    rw [all, List.pairwise_append]
    refine ⟨?_, reports_pairwise commands elements, ?_⟩
    · refine List.pairwise_of_forall_mem_list ?_
      intro one atOne other _
      exact (first one atOne).trans_le (Nat.zero_le _)
    · intro one atOne other _
      exact (first one atOne).trans_le (Nat.zero_le _)
  · intro before here after split
    rw [split] at onScript
    obtain ⟨earlier, rest, atEarlier, atRest, rfl⟩ := walk_append_eq_ok.mp onScript
    obtain ⟨visited, later, atHere, atLater, rfl⟩ := walk_cons_eq_ok.mp atRest
    refine ⟨earlier, visited, later, atEarlier, atHere, atLater, (List.append_assoc _ _ _).symm, ?_,
      step_refused atHere⟩
    have placed := walk_placed atEarlier
    rw [step_diagnostics atHere, placed]
    rfl

/-- A table with one command. -/
def homing : CommandTable := fun id => if id = "home" then some "G28" else none

/-- Settings with names that are unknown, one of them twice, and a fan that is no number. -/
def doubtful : Initialization Float where
  fan := some (0.0 / 0.0)
  unrecognized := .ofList [("skirt", .null), ("brim", .bool true), ("skirt", .bool false)]

/-- Elements with every remark there is, and some that look alike and have none. -/
def doubtfulElements : List (Element Float) :=
  [.event (.marker "before" none), .event (.command "park"), .point { x := some 1.0, speed := some 0.0 },
    .event (.fan (1.0 / 0.0)), .event (.marker "behind" none), .point { y := some 2.0, speed := some 900.0 },
    .event (.command "home")]

theorem runElements_reports_doubtful : doubtful.unrecognized.Ordered ∧
    ∃ run, runElements homing doubtful doubtfulElements = .ok run ∧
      (∃ keys : List String, keys.Pairwise (· < ·) ∧
        run.diagnostics = keys.map (⟨0, "InitializationData", .unrecognized ·⟩) ++
          fanReports doubtful ++
          reports homing doubtfulElements) ∧
      run.diagnostics = [⟨0, "InitializationData", .unrecognized "brim"⟩,
        ⟨0, "InitializationData", .unrecognized "skirt"⟩, ⟨0, "FanSetting", .fanIgnored (0.0 / 0.0)⟩,
        ⟨0, "Annotation", .unplaced "before"⟩, ⟨1, "DeviceCommand", .unmapped "park"⟩,
        ⟨2, "Point", .speedIgnored 0.0⟩, ⟨2, "Point", .originOpen⟩,
        ⟨3, "FanSetting", .fanIgnored (1.0 / 0.0)⟩] := by
  have ordered : doubtful.unrecognized.Ordered := Table.ordered_ofList _
  have evaluated : (runElements homing doubtful doubtfulElements).toOption.map (·.diagnostics) =
        some [⟨0, "InitializationData", .unrecognized "brim"⟩,
          ⟨0, "InitializationData", .unrecognized "skirt"⟩, ⟨0, "FanSetting", .fanIgnored (0.0 / 0.0)⟩,
          ⟨0, "Annotation", .unplaced "before"⟩, ⟨1, "DeviceCommand", .unmapped "park"⟩,
          ⟨2, "Point", .speedIgnored 0.0⟩, ⟨2, "Point", .originOpen⟩,
          ⟨3, "FanSetting", .fanIgnored (1.0 / 0.0)⟩] := by
    decide +kernel
  obtain ⟨run, ok, diagnostics⟩ := exists_run_of_map evaluated
  obtain ⟨keys, increasing, -, all, -⟩ := runElements_reports ordered ok
  exact ⟨ordered, run, ok, ⟨keys, increasing, all⟩, diagnostics⟩

end Motion

end Toolpath
