import Toolpath.Plot.Drawing
import Toolpath.Gcode.Page
import Toolpath.Proofs.Motion.Fragments

/-!
Fragments exchanged in a design. Where a fragment is taken apart into its settings, or changes places with
one beside it that sets other fields, every output of the design stays what it was, and so does its fault
if it has one; what is reported behind the exchange is only counted on from its new length.
-/

namespace Toolpath

variable {α : Type}

/-- Fragments that can stand for one another: a fragment and its settings one by one, in any order, or two
fragments that set no field in common, in both orders. -/
inductive Element.Exchange : List (Element α) → List (Element α) → Prop
  | parts {fragment : Element α} {parts : List (Setting α)} : fragment.isFragment = true →
      parts.Perm fragment.settings → Exchange [fragment] (parts.map Setting.element)
  | swap {first second : Element α} : first.isFragment = true → second.isFragment = true →
      (∀ field, first.set? field = none ∨ second.set? field = none) →
      Exchange [first, second] [second, first]

namespace Element

/-- A field is set by the parts just as by the whole. -/
theorem filterMap_set?_parts {element : Element α} {parts : List (Setting α)}
    (perm : parts.Perm element.settings) (field : FieldName) :
    (parts.map Setting.element).filterMap (·.set? field) = (element.set? field).toList := by
  have kept : (parts.map Setting.element).filterMap (·.set? field) = parts.filter (·.field = field) := by
    rw [List.filterMap_map, ← List.filterMap_eq_filter]
    refine List.filterMap_congr fun setting _ => ?_
    show setting.element.set? field = _
    rw [set?_element]
    simp [Option.guard]
  have same := perm.filter (·.field = field)
  rw [filter_settings] at same
  rw [kept]
  cases set : element.set? field with
  | none =>
    rw [set] at same
    exact same.eq_nil
  | some setting =>
    rw [set] at same
    exact List.perm_singleton.mp same

theorem Exchange.setAlike {fragments others : List (Element α)} (exchange : Exchange fragments others) :
    SetAlike fragments others := by
  intro field
  cases exchange with
  | @parts fragment parts _ perm =>
    rw [filterMap_set?_parts perm, List.filterMap_cons]
    cases fragment.set? field <;> rfl
  | @swap first second _ _ disjoint =>
    simp only [List.filterMap_cons, List.filterMap_nil]
    rcases disjoint field with unset | unset
    · rw [unset]
    · rw [unset]

theorem Exchange.isFragment {fragments others : List (Element α)} (exchange : Exchange fragments others) :
    (∀ element ∈ fragments, element.isFragment = true) ∧
      ∀ element ∈ others, element.isFragment = true := by
  cases exchange with
  | parts isFragment =>
    refine ⟨List.forall_mem_singleton.mpr isFragment, fun element member => ?_⟩
    obtain ⟨setting, -, rfl⟩ := List.mem_map.mp member
    exact isFragment_element setting
  | swap first second =>
    exact ⟨List.forall_mem_cons.mpr ⟨first, List.forall_mem_singleton.mpr second⟩,
      List.forall_mem_cons.mpr ⟨second, List.forall_mem_singleton.mpr first⟩⟩

end Element

variable [Scalar α]

/-- Jobs on designs that begin with the same elements and go on alike, the one from one number and the
other from another: they have the same output, and what they report of the beginning is the same, as is
their fault if it is there; what they report of the rest counts from those two numbers. -/
inductive EndsAlike {β : Type} (commands : CommandTable) (initialization : Initialization α)
    (beginning : List (Element α)) (number other : Nat) :
    Except (Fault α) (Transformed α β) → Except (Fault α) (Transformed α β) → Prop
  | done {earlier : Run α} (output : β) (later : List (Diagnostic α)) :
      Motion.runElements commands initialization beginning = .ok earlier →
      EndsAlike commands initialization beginning number other
        (.ok ⟨output, earlier.diagnostics ++ later.map (Diagnostic.renumbered (· + number))⟩)
        (.ok ⟨output, earlier.diagnostics ++ later.map (Diagnostic.renumbered (· + other))⟩)
  | early {fault : Fault α} : Motion.runElements commands initialization beginning = .error fault →
      EndsAlike commands initialization beginning number other (.error fault) (.error fault)
  | late (fault : Fault α) : EndsAlike commands initialization beginning number other
      (.error (fault.renumbered (· + number))) (.error (fault.renumbered (· + other)))

namespace Motion

variable {commands : CommandTable}

/-- What is behind a part of a walk counts from the length of that part. -/
theorem walk_zipIdx_append {machine : Machine α} {part : List (Element α)} {first : Nat} {run : Run α}
    (ok : walk commands machine (part.zipIdx first) = .ok run) (after : List (Element α)) :
    walk commands machine ((part ++ after).zipIdx first) =
      (renumbered (· + (first + part.length)) (walk commands run.machine after.zipIdx)).map
        run.followed := by
  rw [List.zipIdx_append, walk_append, ok, zipIdx_eq_map, ← walk_map_number]
  rfl

/-- A run over more elements goes on from the run over the first ones. -/
theorem runElements_append (initialization : Initialization α) (before after : List (Element α)) :
    runElements commands initialization (before ++ after) =
      runElements commands initialization before >>= fun earlier =>
        (walk commands earlier.machine (after.zipIdx before.length)).map earlier.followed := by
  rw [runElements, runElements, script_append, walk_append]
  cases walk commands .initial (script initialization before) with
  | error fault => rfl
  | ok earlier =>
    dsimp only [bind, Except.bind]
    cases walk commands earlier.machine (after.zipIdx before.length) with
    | error fault => rfl
    | ok later => simp only [Except.map, Run.followed, List.append_assoc]

/-- Fragments that set alike can stand for one another in any design, for any output that has no eye for
the machine where a mode is announced. -/
theorem render_endsAlike {β : Type} {output : List (Emission α) → β}
    (blind : ∀ emissions, output (emissions.map Emission.seen) = output emissions)
    (commands : CommandTable) (initialization : Initialization α)
    {before fragments others after : List (Element α)} {design other : Design α}
    (isFragments : ∀ element ∈ fragments, element.isFragment = true)
    (areFragments : ∀ element ∈ others, element.isFragment = true)
    (alike : Element.SetAlike fragments others)
    (flat : Design.flatten design = before ++ (fragments ++ after))
    (flatOther : Design.flatten other = before ++ (others ++ after)) :
    EndsAlike commands initialization before (before.length + fragments.length)
      (before.length + others.length) (render output commands initialization design)
      (render output commands initialization other) := by
  have numbered {part : List (Element α)} (all : ∀ element ∈ part, element.isFragment = true) :
      ∀ here ∈ part.zipIdx before.length, here.1.isFragment = true :=
    fun here member => all here.1 (List.fst_mem_of_mem_zipIdx member)
  rw [render, render, Motion.run, Motion.run, flat, flatOther, runElements_append, runElements_append]
  cases begins : runElements commands initialization before with
  | error fault => exact .early begins
  | ok earlier =>
    obtain ⟨part, partOther, atPart, atOther, silent, silentOther, machines, seen⟩ :=
      walk_setAlike commands earlier.machine (numbered isFragments)
        (numbered areFragments) (by simpa only [List.zipIdx_map_fst] using alike)
    dsimp only [bind, Except.bind]
    rw [walk_zipIdx_append atPart, walk_zipIdx_append atOther, ← machines]
    cases walk commands part.machine after.zipIdx with
    | error fault => exact .late fault
    | ok later =>
      have same : output (earlier.emissions ++ (part.emissions ++ later.emissions)) =
          output (earlier.emissions ++ (partOther.emissions ++ later.emissions)) := by
        rw [← blind, List.map_append, List.map_append, seen, ← List.map_append, ← List.map_append, blind]
      have ends (part : Run α) (number : Nat) :
          ((((renumbered (· + number) (.ok later)).map part.followed).map earlier.followed).map
              fun run => (⟨output run.emissions, run.diagnostics⟩ : Transformed α β)) =
            .ok ⟨output (earlier.emissions ++ (part.emissions ++ later.emissions)),
              earlier.diagnostics ++
                (part.diagnostics ++ later.diagnostics.map (Diagnostic.renumbered (· + number)))⟩ := rfl
      rw [ends, ends, silent, silentOther, ← same]
      exact .done _ _ begins

end Motion

/-- G-code has no eye for the machine. -/
theorem Gcode.ofEmissions_seen (emissions : List (Emission Float)) :
    ofEmissions (emissions.map Emission.seen) = ofEmissions emissions := by
  have taken (emission : Emission Float) : emission.seen.action = emission.action := by
    unfold Emission.seen
    split <;> rfl
  unfold ofEmissions Page.ofEmissions
  rw [List.foldl_map]
  simp only [taken]

/-- A plot shows no announcement. -/
theorem Plot.Drawing.ofEmissions_seen (style : Style) (emissions : List (Emission α)) :
    ofEmissions style (emissions.map Emission.seen) = ofEmissions style emissions := by
  have taken (sketch : Sketch α) (emission : Emission α) :
      sketch.take emission.seen = sketch.take emission := by
    obtain ⟨action, machine⟩ := emission
    cases action <;> rfl
  have same : Sketch.ofEmissions (emissions.map Emission.seen) = Sketch.ofEmissions emissions := by
    unfold Sketch.ofEmissions
    rw [List.foldl_map]
    simp only [taken]
  unfold ofEmissions
  rw [same]

namespace Motion

/-- Fragments act field by field. Those that can stand for one another do so in every design, for G-code
and for plots, whether the job ends well or not. Behind whatever a run has gone through, each field but the
speeds holds what was set last for it, by an initialization or a fragment, and the speeds are those that
fragments and points have set; so it is with the machines that go along with what is told. -/
structure ActsByField (commands : CommandTable) (initialization : Initialization Float) : Prop where
  exchange : ∀ {before fragments others after : List (Element Float)} {design other : Design Float},
    Element.Exchange fragments others → Design.flatten design = before ++ (fragments ++ after) →
    Design.flatten other = before ++ (others ++ after) →
    let ends {β : Type} (job : Design Float → Except (Fault Float) (Transformed Float β)) : Prop :=
      EndsAlike commands initialization before (before.length + fragments.length)
        (before.length + others.length) (job design) (job other)
    ends (Gcode.ofDesign commands initialization) ∧
      ∀ style, ends (Plot.Drawing.ofDesign style commands initialization)
  behind : ∀ (elements : List (Element Float)) (before after : List (Numbered Float))
    (earlier : Run Float), script initialization elements = before ++ after →
    walk commands .initial before = .ok earlier →
    earlier.machine.HoldsLast (before.map Prod.fst) ∧
      earlier.machine.speeds = Speeds.behind {} (before.map Prod.fst)
  told : ∀ (elements : List (Element Float)) (emission : Emission Float),
    emission ∈ delivered commands .initial (script initialization elements) →
    ∃ before element index after earlier,
      script initialization elements = before ++ (element, index) :: after ∧
      walk commands .initial before = .ok earlier ∧
      (emission ∈ earlier.machine.started element ∨ ∃ outcome,
        earlier.machine.visit commands element = .ok outcome ∧ emission ∈ outcome.emissions) ∧
      emission.machine.HoldsLast (before.map Prod.fst ++ [element]) ∧
      (emission.machine.speeds = Speeds.behind {} (before.map Prod.fst ++ [element]) ∨
        (∃ point, element = .point point) ∧
          emission.machine.speeds = Speeds.behind {} (before.map Prod.fst))

theorem fragments_actByField (commands : CommandTable) (initialization : Initialization Float) :
    ActsByField commands initialization := by
  constructor
  case exchange =>
    intro before fragments others after design other exchange flat flatOther ends
    obtain ⟨isFragments, areFragments⟩ := exchange.isFragment
    exact ⟨render_endsAlike Gcode.ofEmissions_seen commands initialization isFragments areFragments
        exchange.setAlike flat flatOther,
      fun style => render_endsAlike (Plot.Drawing.ofEmissions_seen style) commands initialization
        isFragments areFragments exchange.setAlike flat flatOther⟩
  case behind =>
    intro elements before after earlier split walked
    exact (walk_heard walked).2.symm
  case told => exact fun elements emission member => told_heard member

/-- Elements in front of a fragment: another mode, and a move that prints. -/
def leading : List (Element Float) :=
  [.extruder (.ofMode false), .bead (.rectangle 0.5 0.25), .point { x := some 0.0, extrude := some true },
    .point { x := some 10.0 }]

/-- Elements behind it: a command that no table knows, and another move. -/
def trailing : List (Element Float) := [.event (.command "park"), .point { y := some 5.0 }]

theorem fragments_actByField_between :
    let whole : Element Float := .extruder ⟨some .length, some 2.85, some true, some .rapid⟩
    let parts : List (Setting Float) := [.travelForm .rapid, .relative true, .filament 2.85, .feedUnit .length]
    let job (elements : List (Element Float)) :=
      Gcode.ofDesign (fun _ => none) {} (Design.ofElements (leading ++ (elements ++ trailing)))
    parts.Perm whole.settings ∧
      EndsAlike (fun _ => none) {} leading 5 8 (job [whole]) (job (parts.map Setting.element)) ∧
      ((job (parts.map Setting.element)).toOption.map fun done =>
          (done.output, done.diagnostics.map (·.index))) =
        some ("M82\nG92 E0\nG1 X0 Y0 Z0 F8000\nG1 X10 E0.51969 F1000\nM83\nG1 Y5 E0.097972 F1000",
          [2, 8]) := by
  intro whole parts job
  have perm : parts.Perm whole.settings := by decide
  have flat (elements : List (Element Float)) :
      Design.flatten (Design.ofElements (leading ++ (elements ++ trailing))) =
        leading ++ (elements ++ trailing) := Design.flatten_ofElements _
  obtain ⟨exchanged, -⟩ := (fragments_actByField (fun _ => none) {}).exchange (.parts rfl perm)
    (flat [whole]) (flat (parts.map Setting.element))
  exact ⟨perm, exchanged, by decide +kernel⟩

end Motion

end Toolpath
