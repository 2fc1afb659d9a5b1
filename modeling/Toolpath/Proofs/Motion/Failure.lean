import Toolpath.Proofs.Motion.Supply

/-!
Where a walk fails. An element that asks for material fails if the supply has a defect, and no other
element ever does; so the first such element of a list ends the walk over it, whatever is behind.
-/

namespace Toolpath

variable {α : Type} [Scalar α]

/-- The dimensions that a shape needs, in the order in which they are asked for. -/
def BeadShape.dimensions : BeadShape → List Dimension
  | .rectangle | .stadium => [.width, .height]
  | .circle => [.diameter]

namespace Bead

def lack? (bead : Bead α) (shape : BeadShape) (dimension : Dimension) : Option (Defect α) :=
  match bead.size? dimension with
  | none => some (.missing shape dimension)
  | some size => if Scalar.isUsable size then none else some (.unusable shape dimension size)

/-- The first thing that is wrong with a bead. -/
def flaw? (bead : Bead α) : Option (Defect α) :=
  match bead.shape with
  | none => some .noBead
  | some shape => shape.dimensions.findSome? (bead.lack? shape)

theorem cause?_need (bead : Bead α) (shape : BeadShape) (dimension : Dimension) :
    cause? (bead.need shape dimension) = bead.lack? shape dimension := by
  unfold need lack?
  cases bead.size? dimension with
  | none => rfl
  | some size =>
    dsimp only
    split <;> rfl

theorem cause?_area (bead : Bead α) : cause? bead.area = bead.flaw? := by
  have two (shape : BeadShape) (area : α → α → α) :
      cause? (bead.need shape .width >>= fun width => bead.need shape .height >>= fun height =>
        .ok (area width height)) = [Dimension.width, .height].findSome? (bead.lack? shape) := by
    rw [cause?_bind fun width _ => cause?_bind_ok (bead.need shape .height) (area width),
      cause?_need, cause?_need, List.findSome?_cons, List.findSome?_singleton]
    cases bead.lack? shape .width <;> rfl
  have one (shape : BeadShape) (area : α → α) :
      cause? (bead.need shape .diameter >>= fun diameter => .ok (area diameter)) =
        [Dimension.diameter].findSome? (bead.lack? shape) := by
    rw [cause?_bind_ok, cause?_need, List.findSome?_singleton]
  unfold area flaw?
  cases bead.shape with
  | none => rfl
  | some shape =>
    cases shape with
    | rectangle => exact two .rectangle _
    | stadium => exact two .stadium _
    | circle => exact one .circle _

end Bead

/-- What is wrong with the filament, where it is measured by its length. -/
def Supply.stall? (supply : Supply α) : Option (Defect α) :=
  match supply.feedUnit with
  | .volume => none
  | .length => if Scalar.isUsable supply.filament then none else some (.filament supply.filament)

/-- Whether a point is printed to: the extruder is on, the tool is somewhere, and the point is
somewhere else. -/
def Tool.printsTo (tool : Tool α) (point : Point α) : Bool :=
  point.extrude.getD tool.on && tool.place.any fun start => !(point.resolve start == start)

/-- What keeps an element from being done. -/
def Element.flaw? (element : Element α) (tool : Tool α) (supply : Supply α) : Option (Defect α) :=
  match element with
  | .point target =>
    if tool.printsTo target then supply.bead.flaw? <|> supply.stall? else none
  | .event (.extrude _ _) => supply.stall?
  | _ => none

theorem Extruder.cause?_feedPerVolume (machine : Machine α) :
    cause? machine.extruder.feedPerVolume = machine.supply.stall? := by
  unfold feedPerVolume Supply.stall? Machine.supply
  cases machine.extruder.feedUnit with
  | volume => rfl
  | length =>
    dsimp only
    split <;> rfl

namespace Machine

theorem cause?_print (machine : Machine α) (start target : Position α) :
    cause? (machine.print start target) = (machine.supply.bead.flaw? <|> machine.supply.stall?) := by
  unfold print
  rw [cause?_bind fun area _ => cause?_bind_ok machine.extruder.feedPerVolume _,
    Bead.cause?_area, Extruder.cause?_feedPerVolume]
  rfl

theorem cause?_reach (machine : Machine α) (point : Point α) :
    cause? (machine.reach point) =
      if machine.tool.on && machine.tool.place.any fun start => !(point.resolve start == start) then
        machine.supply.bead.flaw? <|> machine.supply.stall?
      else none := by
  unfold reach tool
  cases placed : machine.position with
  | none =>
    simp only [Option.any_none, Bool.and_false, Bool.false_eq_true, if_false]
    rfl
  | some start =>
    simp only [go, Option.any_some]
    by_cases same : (point.resolve start == start) = true
    · simp only [same, if_true, Bool.not_true, Bool.and_false, Bool.false_eq_true, if_false]
      rfl
    · by_cases on : machine.extruder.on = true
      · simp only [same, on, Bool.not_false, Bool.and_self, Bool.false_eq_true, if_true, if_false]
        exact cause?_print { machine with position := some (point.resolve start) } _ _
      · simp only [same, on, Bool.false_and, Bool.false_eq_true, if_false]
        rfl

theorem cause?_visitPoint (machine : Machine α) (point : Point α) :
    cause? (machine.visitPoint point) =
      (Element.point point).flaw? machine.tool machine.supply := by
  rw [visitPoint_eq, cause?_bind_ok]
  obtain ⟨speeds, color, ready⟩ := machine.ready_machine point
  rw [ready, cause?_reach]
  rfl

/-- An element is done unless there is a flaw, in the eyes of the tool and the supply. -/
theorem cause?_visit (commands : CommandTable) (machine : Machine α) (element : Element α) :
    cause? (machine.visit commands element) = element.flaw? machine.tool machine.supply := by
  cases element with
  | point point => exact machine.cause?_visitPoint point
  | speeds | extruder | bead => rfl
  | event event =>
    cases event with
    | extrude volume speed =>
      show cause? (machine.extrude volume speed) = machine.supply.stall?
      unfold extrude
      rw [cause?_bind_ok, Extruder.cause?_feedPerVolume]
    | command id =>
      simp only [visit, visitEvent]
      split <;> rfl
    | toggle | raw | comment | fan | hotend | bed | marker => rfl

end Machine

theorem Element.flaw?_of_isSetting {element : Element α} (isSetting : element.isSetting = true)
    (tool : Tool α) (supply : Supply α) : element.flaw? tool supply = none := by
  cases element with
  | point => cases isSetting
  | speeds | extruder | bead => rfl
  | event event => cases event <;> first | rfl | cases isSetting

namespace Motion

theorem cause?_step (commands : CommandTable) (machine : Machine α) (element : Element α)
    (index : Nat) : cause? (step commands machine (element, index)) =
      (element.flaw? machine.tool machine.supply).map (⟨index, element.kind, ·⟩) := by
  rw [← machine.cause?_visit commands element]
  unfold step
  dsimp only
  cases machine.visit commands element <;> rfl

theorem cause?_walk_prologue (commands : CommandTable) (initialization : Initialization α) :
    cause? (walk commands .initial (script initialization [])) = none := by
  obtain ⟨run, walked, -⟩ := walk_prologue commands initialization
  rw [script_nil, walked]
  rfl

/-- The fault at an element behind others, if it has a flaw there. -/
def fault? (initialization : Initialization α) (before : List (Element α)) (element : Element α) :
    Option (Fault α) :=
  (element.flaw? (Tool.behind initialization before) (Supply.behind initialization before)).map
    (⟨before.length, element.kind, ·⟩)

theorem fault?_eq_some {initialization : Initialization α} {before : List (Element α)}
    {element : Element α} {fault : Fault α} :
    fault? initialization before element = some fault ↔
      fault.index = before.length ∧ fault.kind = element.kind ∧
        element.flaw? (Tool.behind initialization before) (Supply.behind initialization before) =
          some fault.defect := by
  unfold fault?
  rw [Option.map_eq_some_iff]
  constructor
  · rintro ⟨defect, flaw, rfl⟩
    exact ⟨rfl, rfl, flaw⟩
  · rintro ⟨index, kind, flaw⟩
    exact ⟨fault.defect, flaw, by rw [← index, ← kind]⟩

/-- Lists none of whose elements has a flaw behind those before it. -/
def Flawless (initialization : Initialization α) (elements : List (Element α)) : Prop :=
  ∀ before element after, elements = before ++ element :: after →
    element.flaw? (Tool.behind initialization before) (Supply.behind initialization before) = none

theorem Flawless.nil (initialization : Initialization α) : Flawless initialization [] := by
  intro before element after split
  exact absurd split.symm (by simp)

theorem Flawless.concat {initialization : Initialization α} {elements : List (Element α)}
    {last : Element α} (flawless : Flawless initialization elements)
    (sound : fault? initialization elements last = none) :
    Flawless initialization (elements ++ [last]) := by
  intro before element after split
  rcases List.eq_nil_or_concat' after with rfl | ⟨middle, other, rfl⟩
  · obtain ⟨rfl, atLast⟩ := List.append_inj' split rfl
    obtain rfl := List.head_eq_of_cons_eq atLast
    exact Option.map_eq_none_iff.mp sound
  · rw [← List.cons_append, ← List.append_assoc] at split
    exact flawless before element middle (List.append_inj' split rfl).1

theorem Flawless.of_append {initialization : Initialization α} {front back : List (Element α)}
    (flawless : Flawless initialization (front ++ back)) : Flawless initialization front := by
  intro before element after split
  refine flawless before element (after ++ back) ?_
  rw [split, List.append_assoc, List.cons_append]

theorem cause?_walk_concat (commands : CommandTable) (initialization : Initialization α)
    (before : List (Element α)) (element : Element α) :
    cause? (walk commands .initial (script initialization (before ++ [element]))) =
      (cause? (walk commands .initial (script initialization before)) <|>
        fault? initialization before element) := by
  rw [script_concat, walk_append]
  -- The walk over the others has not failed, so its machine is known from the elements alone.
  refine cause?_bind fun earlier atEarlier => ?_
  have one : cause? (walk commands earlier.machine [(element, before.length)]) =
      cause? (step commands earlier.machine (element, before.length)) := cause?_bind_ok _ _
  rw [cause?_bind_ok, one, cause?_step, (walk_legs atEarlier).1, walk_supply atEarlier]
  rfl

/-- A walk without a fault is one over elements without a flaw; a fault is that of the first element
that has one. -/
theorem cause?_walk_cases (commands : CommandTable) (initialization : Initialization α)
    (elements : List (Element α)) :
    match cause? (walk commands .initial (script initialization elements)) with
    | none => Flawless initialization elements
    | some fault => ∃ before element after, elements = before ++ element :: after ∧
        Flawless initialization before ∧ fault? initialization before element = some fault := by
  -- From the right: the last element is looked at only if all before it are flawless.
  induction elements using List.reverseRecOn with
  | nil =>
    rw [cause?_walk_prologue]
    exact .nil initialization
  | append_singleton elements last ih =>
    rw [cause?_walk_concat]
    cases earlier : cause? (walk commands .initial (script initialization elements)) with
    | some fault =>
      rw [earlier] at ih
      obtain ⟨before, element, after, rfl, flawless, atElement⟩ := ih
      exact ⟨before, element, after ++ [last], by simp, flawless, atElement⟩
    | none =>
      rw [earlier] at ih
      have flawless : Flawless initialization elements := ih
      cases here : fault? initialization elements last with
      | some fault => exact ⟨elements, last, [], rfl, flawless, here⟩
      | none => exact flawless.concat here

theorem cause?_walk_of_flawless {initialization : Initialization α} {elements : List (Element α)}
    (flawless : Flawless initialization elements) (commands : CommandTable) :
    cause? (walk commands .initial (script initialization elements)) = none := by
  have first := cause?_walk_cases commands initialization elements
  cases fails : cause? (walk commands .initial (script initialization elements)) with
  | none => rfl
  | some fault =>
    rw [fails] at first
    obtain ⟨before, element, after, split, -, atElement⟩ := first
    have sound : fault? initialization before element = none :=
      congrArg (Option.map _) (flawless before element after split)
    rw [sound] at atElement
    cases atElement

theorem cause?_walk_of_first {initialization : Initialization α} {before : List (Element α)}
    {element : Element α} {fault : Fault α} (flawless : Flawless initialization before)
    (atElement : fault? initialization before element = some fault) (commands : CommandTable)
    (after : List (Element α)) :
    cause? (walk commands .initial (script initialization (before ++ element :: after))) =
      some fault := by
  have here : cause? (walk commands .initial (script initialization (before ++ [element]))) =
      some fault := by
    rw [cause?_walk_concat, cause?_walk_of_flawless flawless commands, atElement]
    rfl
  have cut : before ++ element :: after = (before ++ [element]) ++ after := by simp
  rw [cut, script_append, walk_append, cause?_eq_some.mp here]
  rfl

theorem runElements_eq_error {commands : CommandTable} {initialization : Initialization α}
    {elements : List (Element α)} {fault : Fault α} :
    runElements commands initialization elements = .error fault ↔
      ∃ before element after, elements = before ++ element :: after ∧
        Flawless initialization before ∧ fault? initialization before element = some fault := by
  rw [runElements_eq_error_iff, ← cause?_eq_some]
  constructor
  · intro fails
    have first := cause?_walk_cases commands initialization elements
    rw [fails] at first
    exact first
  · rintro ⟨before, element, after, rfl, flawless, atElement⟩
    exact cause?_walk_of_first flawless atElement commands after

omit [Scalar α] in
theorem getElem?_of_split {elements before after : List (Element α)} {element : Element α}
    (split : elements = before ++ element :: after) : elements[before.length]? = some element := by
  rw [split, List.getElem?_append_right (Nat.le_refl _), Nat.sub_self]
  rfl

/-- The place and kind of a fault are those of an element. -/
theorem kind_of_fault {commands : CommandTable} {initialization : Initialization α}
    {elements : List (Element α)} {fault : Fault α}
    (fails : runElements commands initialization elements = .error fault) :
    elements[fault.index]?.map Element.kind = some fault.kind := by
  obtain ⟨before, element, after, split, -, atElement⟩ := runElements_eq_error.mp fails
  obtain ⟨index, kind, -⟩ := fault?_eq_some.mp atElement
  rw [index, kind, getElem?_of_split split]
  rfl

/-- A list is walked to its end if no element has a flaw behind those before it. -/
theorem flawless_iff {commands : CommandTable} {initialization : Initialization α}
    {elements : List (Element α)} : Flawless initialization elements ↔
      ∃ run, walk commands .initial (script initialization elements) = .ok run := by
  constructor
  · intro flawless
    exact cause?_eq_none.mp (cause?_walk_of_flawless flawless commands)
  · rintro ⟨run, walked⟩
    have ends := cause?_walk_cases commands initialization elements
    rw [walked] at ends
    exact ends

theorem flawless_of_ok {commands : CommandTable} {initialization : Initialization α}
    {elements : List (Element α)} {run : Run α}
    (ok : runElements commands initialization elements = .ok run) :
    Flawless initialization elements := by
  obtain ⟨walked, onScript, -⟩ := runElements_eq_ok.mp ok
  exact flawless_iff.mpr ⟨walked, onScript⟩

/-- A run fails just where it must. The prologue never fails. The run over a list fails if some
element has a flaw behind those before it, and not otherwise: a point that is printed to, if the bead
or else the filament is no good, or a feed on the spot, if the filament is no good. The fault is then
that of the first such element, with its place, its kind and its flaw. -/
theorem runElements_fails (commands : CommandTable) (initialization : Initialization α)
    (elements : List (Element α)) :
    (∃ run, walk commands .initial (script initialization []) = .ok run) ∧
    ((∃ fault, runElements commands initialization elements = .error fault) ↔
      ∃ before element after, elements = before ++ element :: after ∧
        (element.flaw? (Tool.behind initialization before)
          (Supply.behind initialization before)).isSome = true) ∧
    ∀ fault, runElements commands initialization elements = .error fault ↔
      ∃ before element after, elements = before ++ element :: after ∧
        Flawless initialization before ∧ fault.index = before.length ∧
        fault.kind = element.kind ∧ element.flaw? (Tool.behind initialization before)
          (Supply.behind initialization before) = some fault.defect := by
  refine ⟨cause?_eq_none.mp (cause?_walk_prologue commands initialization), ?_, ?_⟩
  · constructor
    · rintro ⟨fault, fails⟩
      obtain ⟨before, element, after, split, -, atElement⟩ := runElements_eq_error.mp fails
      obtain ⟨-, -, flaw⟩ := fault?_eq_some.mp atElement
      exact ⟨before, element, after, split, Option.isSome_of_eq_some flaw⟩
    · rintro ⟨before, element, after, split, flawed⟩
      cases ends : runElements commands initialization elements with
      | error fault => exact ⟨fault, rfl⟩
      | ok run =>
        have sound := flawless_of_ok ends before element after split
        rw [sound] at flawed
        cases flawed
  · intro fault
    rw [runElements_eq_error]
    simp only [fault?_eq_some]

end Motion

end Toolpath
