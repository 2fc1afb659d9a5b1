import Toolpath.Proofs.Motion.Walk

/-!
The prologue of an initialization. Its elements are settings of the machine, none of which moves the
tool, feeds material or writes a text of the design; so a walk over it does not fail, and all there is to
know of it is the machine it comes to, what it tells, and what there is to say of it.
-/

namespace Toolpath

variable {α : Type}

/-- Fragments, and events that set a device or switch the extruder. -/
def Element.isSetting : Element α → Bool
  | .speeds _ | .extruder _ | .bead _ => true
  | .event (.toggle _) | .event (.fan _) | .event (.hotend ..) | .event (.bed ..) => true
  | _ => false

theorem Initialization.isSetting_of_mem_prologue {initialization : Initialization α}
    {element : Element α} (member : element ∈ initialization.prologue) :
    element.isSetting = true := by
  simp only [prologue, speedElements, extruderElements, beadElements, bedElements, hotendElements,
    fanElements, switchElements, List.mem_append, Option.mem_toList, Option.map_eq_some_iff,
    List.mem_ite_nil_right, List.mem_singleton] at member
  rcases member with (((((((⟨_, rfl⟩ | ⟨_, rfl⟩) | ⟨_, rfl⟩) | ⟨_, _, rfl⟩) | ⟨_, _, rfl⟩) |
    ⟨_, _, rfl⟩) | ⟨_, _, rfl⟩) | ⟨_, _, rfl⟩) | ⟨_, _, rfl⟩ <;> rfl

/-- The shape of the bead that an initialization sets: a rectangle, if it only has a size. -/
def Initialization.beadShape? (initialization : Initialization α) : Option BeadShape :=
  if initialization.width.isSome || initialization.height.isSome || initialization.shape.isSome then
    some (initialization.shape.getD .rectangle)
  else none

namespace Initialization

/-- What heats the bed and the hotend. -/
def heating (initialization : Initialization α) (wait : Bool) : List (Action α) :=
  (initialization.bed.map (.bed · wait)).toList ++
    (initialization.hotend.map (.hotend · wait none)).toList

variable [Scalar α]

/-- The speed of the fan within 0 and 100 percent, if it is a number. -/
def clampedFan (initialization : Initialization α) : Option α :=
  (initialization.fan.filter Scalar.isFinite).map (Scalar.clamp 0.0 100.0)

/-- The first machine with the settings laid over it. -/
def machine (initialization : Initialization α) : Machine α :=
  let first : Machine α := .initial
  { speeds := {
      print := initialization.printSpeed.getD first.speeds.print
      travel := initialization.travelSpeed.getD first.speeds.travel }
    extruder := {
      feedUnit := initialization.feedUnit.getD first.extruder.feedUnit
      filament := initialization.filament.getD first.extruder.filament
      relative := initialization.relative.getD first.extruder.relative
      travelForm := initialization.travelForm.getD first.extruder.travelForm
      on := initialization.on.getD first.extruder.on
      total := 0.0
      announced := initialization.relative }
    bead := {
      shape := initialization.beadShape?
      width := initialization.width
      height := initialization.height
      diameter := none }
    fan := initialization.clampedFan
    hotend := initialization.hotend
    bed := initialization.bed
    position := none
    color := none }

/-- What the prologue tells. -/
def actions (initialization : Initialization α) : List (Action α) :=
  initialization.relative.toList.map .announced ++ initialization.heating false ++
    initialization.heating true ++ initialization.clampedFan.toList.map .fan ++
    if initialization.on = some true then [.toggled true] else []

end Initialization

namespace Motion

variable [Scalar α] {commands : CommandTable} {machine middle last : Machine α}

/-- What there is to say of an initialization. -/
def fanReports (initialization : Initialization α) : List (Diagnostic α) :=
  (initialization.fan.toList.filter (!Scalar.isFinite ·)).map (⟨0, "FanSetting", .fanIgnored ·⟩)

/-- A walk over elements that comes to a machine and tells some actions, with diagnostics under zero. -/
def Tells (commands : CommandTable) (machine : Machine α) (elements : List (Element α))
    (last : Machine α) (actions : List (Action α)) (diagnostics : List (Diagnostic α)) : Prop :=
  ∃ run, walk commands machine (elements.map (·, 0)) = .ok run ∧ run.machine = last ∧
    run.emissions.map (·.action) = actions ∧ run.diagnostics = diagnostics

namespace Tells

theorem nil (commands : CommandTable) (machine : Machine α) :
    Tells commands machine [] machine [] [] :=
  ⟨_, rfl, rfl, rfl, rfl⟩

theorem append {first later : List (Element α)} {told more : List (Action α)}
    {said added : List (Diagnostic α)} (tells : Tells commands machine first middle told said)
    (next : Tells commands middle later last more added) :
    Tells commands machine (first ++ later) last (told ++ more) (said ++ added) := by
  obtain ⟨earlier, atFirst, rfl, rfl, rfl⟩ := tells
  obtain ⟨run, atLater, rfl, rfl, rfl⟩ := next
  refine ⟨earlier.followed run, ?_, rfl, List.map_append, rfl⟩
  rw [List.map_append]
  exact walk_append_eq_ok.mpr ⟨earlier, run, atFirst, atLater, rfl⟩

theorem single {element : Element α} {outcome : Outcome α} {told : List (Action α)}
    {said : List (Diagnostic α)} (ok : machine.visit commands element = .ok outcome)
    (there : outcome.machine = last) (telling : outcome.emissions.map (·.action) = told)
    (saying : outcome.remarks.map (⟨0, element.kind, ·⟩) = said) :
    Tells commands machine [element] last told said := by
  have first : step commands machine (element, 0) = .ok _ := step_eq_ok.mpr ⟨outcome, ok, rfl⟩
  have run : walk commands machine [(element, 0)] = .ok _ :=
    walk_cons_eq_ok.mpr ⟨_, ⟨outcome.machine, [], []⟩, first, rfl, rfl⟩
  refine ⟨_, run, there, ?_⟩
  rw [Run.followed, List.append_nil, List.append_nil]
  exact ⟨telling, saying⟩

end Tells

variable (commands : CommandTable) (machine : Machine α) (initialization : Initialization α)

theorem tells_speedElements : Tells commands machine initialization.speedElements
    { machine with speeds := {
        print := initialization.printSpeed.getD machine.speeds.print
        travel := initialization.travelSpeed.getD machine.speeds.travel } } [] [] := by
  unfold Initialization.speedElements
  split
  · exact .single rfl rfl rfl rfl
  · rename_i unset
    simp only [Bool.or_eq_true, not_or, Option.not_isSome_iff_eq_none] at unset
    rw [unset.1, unset.2]
    exact .nil commands machine

theorem tells_extruderElements (silent : machine.extruder.announced = none)
    (zero : machine.extruder.total = 0.0) :
    Tells commands machine initialization.extruderElements
    { machine with extruder := { machine.extruder with
        feedUnit := initialization.feedUnit.getD machine.extruder.feedUnit
        filament := initialization.filament.getD machine.extruder.filament
        relative := initialization.relative.getD machine.extruder.relative
        travelForm := initialization.travelForm.getD machine.extruder.travelForm
        announced := initialization.relative } }
    (initialization.relative.toList.map .announced) [] := by
  unfold Initialization.extruderElements
  split
  · cases relative : initialization.relative with
    | none =>
      refine .single rfl ?_ rfl rfl
      simp [silent, Extruder.apply]
    | some relative =>
      refine .single rfl ?_ ?_ ?_
      · simp [Machine.announce, silent, zero, Machine.emit, Extruder.apply]
      · simp [Machine.announce, silent, Machine.emit, Extruder.apply]
      · simp [Machine.announce, silent, Machine.emit, Extruder.apply]
  · rename_i unset
    simp only [Bool.or_eq_true, not_or, Option.not_isSome_iff_eq_none] at unset
    obtain ⟨⟨⟨feedUnit, filament⟩, relative⟩, travelForm⟩ := unset
    simp only [feedUnit, filament, relative, travelForm, Option.getD_none, Option.toList_none,
      List.map_nil]
    rw [← silent]
    exact .nil commands machine

theorem tells_beadElements (bare : machine.bead = {}) :
    Tells commands machine initialization.beadElements
    { machine with bead :=
        ⟨initialization.beadShape?, initialization.width, initialization.height, none⟩ } [] [] := by
  unfold Initialization.beadElements Initialization.beadShape?
  split
  · refine .single rfl ?_ rfl rfl
    rw [bare]
    cases initialization.width <;> cases initialization.height <;> rfl
  · rename_i unset
    simp only [Bool.or_eq_true, not_or, Option.not_isSome_iff_eq_none] at unset
    obtain ⟨⟨width, height⟩, -⟩ := unset
    rw [width, height, ← bare]
    exact .nil commands machine

theorem tells_fragments (bare : machine.bead = {}) (silent : machine.extruder.announced = none)
    (zero : machine.extruder.total = 0.0) :
    Tells commands machine
      (initialization.speedElements ++ initialization.extruderElements ++ initialization.beadElements)
      { machine with
        speeds := {
          print := initialization.printSpeed.getD machine.speeds.print
          travel := initialization.travelSpeed.getD machine.speeds.travel }
        extruder := { machine.extruder with
          feedUnit := initialization.feedUnit.getD machine.extruder.feedUnit
          filament := initialization.filament.getD machine.extruder.filament
          relative := initialization.relative.getD machine.extruder.relative
          travelForm := initialization.travelForm.getD machine.extruder.travelForm
          announced := initialization.relative }
        bead := ⟨initialization.beadShape?, initialization.width, initialization.height, none⟩ }
      (initialization.relative.toList.map .announced) [] := by
  have speeds := tells_speedElements commands machine initialization
  have extruder := speeds.append (tells_extruderElements commands _ initialization silent zero)
  have bead := extruder.append (tells_beadElements commands _ initialization bare)
  rw [List.nil_append, List.append_nil] at bead
  exact bead

theorem tells_bedElements (wait : Bool) : Tells commands machine (initialization.bedElements wait)
    { machine with bed := initialization.bed <|> machine.bed }
    (initialization.bed.map (.bed · wait)).toList [] := by
  unfold Initialization.bedElements
  cases initialization.bed with
  | none => exact .nil commands machine
  | some celsius => exact .single rfl rfl rfl rfl

theorem tells_hotendElements (wait : Bool) :
    Tells commands machine (initialization.hotendElements wait)
    { machine with hotend := initialization.hotend <|> machine.hotend }
    (initialization.hotend.map (.hotend · wait none)).toList [] := by
  unfold Initialization.hotendElements
  cases initialization.hotend with
  | none => exact .nil commands machine
  | some celsius => exact .single rfl rfl rfl rfl

/-- Everything is heated, and then everything is waited for. -/
theorem tells_heating :
    Tells commands machine
      (initialization.bedElements false ++ initialization.hotendElements false ++
        initialization.bedElements true ++ initialization.hotendElements true)
      { machine with
        bed := initialization.bed <|> machine.bed
        hotend := initialization.hotend <|> machine.hotend }
      (initialization.heating false ++ initialization.heating true) [] := by
  have bed := tells_bedElements commands machine initialization false
  have hotend := bed.append (tells_hotendElements commands _ initialization false)
  have warmBed := hotend.append (tells_bedElements commands _ initialization true)
  have warm := warmBed.append (tells_hotendElements commands _ initialization true)
  have again {β : Type} (new old : Option β) : (new <|> new <|> old) = (new <|> old) := by
    cases new <;> rfl
  unfold Initialization.heating
  simp only [again, List.append_assoc] at warm ⊢
  exact warm

theorem tells_fanElements : Tells commands machine initialization.fanElements
    { machine with fan := initialization.clampedFan <|> machine.fan }
    (initialization.clampedFan.toList.map .fan) (fanReports initialization) := by
  unfold Initialization.fanElements Initialization.clampedFan fanReports
  cases initialization.fan with
  | none => exact .nil commands machine
  | some percent =>
    cases finite : Scalar.isFinite percent with
    | true =>
      have blown : machine.blow percent = _ := if_pos finite
      simp only [Option.filter_some, finite, if_true, Option.map_some]
      refine .single rfl (by rw [blown]; rfl) (by rw [blown]; rfl) ?_
      simp [blown, finite, Machine.emit]
    | false =>
      have blown : machine.blow percent = _ := if_neg (by rw [finite]; exact Bool.false_ne_true)
      simp only [Option.filter_some, finite, Bool.false_eq_true, if_false, Option.map_none]
      refine .single rfl (by rw [blown]; rfl) (by rw [blown]; rfl) ?_
      simp [blown, finite, Machine.remark]
      rfl

theorem tells_switchElements (off : machine.extruder.on = false) :
    Tells commands machine initialization.switchElements
    { machine with extruder := { machine.extruder with
        on := initialization.on.getD machine.extruder.on } }
    (if initialization.on = some true then [.toggled true] else []) [] := by
  unfold Initialization.switchElements
  cases initialization.on with
  | none => exact .nil commands machine
  | some on =>
    cases on with
    | false =>
      have stays : machine.switch false = _ := if_pos off
      refine .single rfl ?_ (by rw [stays]; rfl) (by rw [stays]; rfl)
      rw [stays, Option.getD_some, ← off]
    | true =>
      have turns : machine.switch true = _ := if_neg (by rw [off]; exact Bool.false_ne_true)
      exact .single rfl (by rw [turns]; rfl) (by rw [turns]; rfl) (by rw [turns]; rfl)

theorem tells_devices (off : machine.extruder.on = false) :
    Tells commands machine (initialization.fanElements ++ initialization.switchElements)
      { machine with
        fan := initialization.clampedFan <|> machine.fan
        extruder := { machine.extruder with on := initialization.on.getD machine.extruder.on } }
      (initialization.clampedFan.toList.map .fan ++
        if initialization.on = some true then [.toggled true] else [])
      (fanReports initialization) := by
  have fan := tells_fanElements commands machine initialization
  have both := fan.append (tells_switchElements commands _ initialization off)
  rw [List.append_nil] at both
  exact both

/-- The walk over a prologue never fails, comes to the machine with the settings, and tells of them in
order. -/
theorem walk_prologue : ∃ run, walk commands .initial (initialization.prologue.map (·, 0)) = .ok run ∧
    run.machine = initialization.machine ∧ run.emissions.map (·.action) = initialization.actions ∧
    run.diagnostics = fanReports initialization := by
  have fragments := tells_fragments commands .initial initialization rfl rfl rfl
  have heating := fragments.append (tells_heating commands _ initialization)
  have devices := heating.append (tells_devices commands _ initialization rfl)
  have unset {β : Type} (new : Option β) : (new <|> none) = new := by cases new <;> rfl
  simp only [Machine.initial, unset, List.nil_append] at devices
  unfold Initialization.prologue Initialization.actions Initialization.machine
  simp only [List.append_assoc] at devices ⊢
  exact devices

omit [Scalar α] in
theorem script_nil : script initialization [] = initialization.prologue.map (·, 0) :=
  List.append_nil _

end Motion

end Toolpath
