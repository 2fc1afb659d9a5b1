import Toolpath.Proofs.Job.Places
import Toolpath.Proofs.Motion.Targets

/-!
What a primer hands over to a design: the tool at the first point, with the extruder on. So the first
point asks for no move any more, unless an axis that it leaves open is undefined there, which no number
is equal to.
-/

namespace Toolpath

theorem Point.resolve_resolve {α : Type} (point : Point α) (place : Position α) :
    point.resolve (point.resolve place) = point.resolve place := by
  have again (set : Option α) (old : α) : set.getD (set.getD old) = set.getD old := by
    cases set <;> rfl
  unfold resolve
  simp only [again]

section Handing

variable {α : Type} [Scalar α]

/-- Where a primer takes the axes from that the first point leaves open. The corner and the box at the
front have an X and Y of their own. -/
def Primer.handover (primer : Primer) (place : Position α) : Position α :=
  match primer with
  | .none | .travel => place
  | .frontLinesThenY | .frontLinesThenX | .frontLinesThenXY => ⟨10.0, 16.0, place.z⟩
  | .x | .y => ⟨10.0, 12.0, place.z⟩

/-- The corner at the front, at the height of a point. -/
def Primer.corner (first : Point α) : Point α := { x := some 10.0, y := some 12.0, z := first.z }

/-- What a primer begins with, before it goes to the corner. -/
def Primer.approach : List (Element α) :=
  [.event (.raw (banner "START OF PRIMER PROCEDURE")), .event (.toggle false)]

/-- Wherever the tool is, a primer leads it to the first point and leaves the extruder on. -/
theorem Primer.foldl_visit_steps {primer : Primer} (primes : primer ≠ .none) (tool : Tool α)
    (first : Point α) : (Design.flatten (primer.steps first)).foldl Tool.visit tool =
      ⟨some (first.resolve (primer.handover (tool.place.getD .origin))), true⟩ := by
  cases primer with
  | none => exact absurd rfl primes
  | travel | frontLinesThenY | frontLinesThenX | frontLinesThenXY | x | y => rfl

theorem Primer.exists_corner {primer : Primer} (primes : primer ≠ .none) (leads : primer ≠ .travel)
    (first : Point α) : ∃ rest, Design.flatten (primer.steps first) =
      approach ++ .point (corner first) :: rest := by
  cases primer with
  | none => exact absurd rfl primes
  | travel => exact absurd rfl leads
  | frontLinesThenY | frontLinesThenX | frontLinesThenXY | x | y => exact ⟨_, rfl⟩

namespace Tool

/-- A tool that is at a point already is asked for no move to it, unless an axis is undefined. -/
theorem next?_eq_none_iff {tool : Tool α} {point : Point α} {place : Position α}
    (here : tool.place = some place) (there : point.resolve place = place) :
    tool.next? (.point point) = none ↔ place.IsDefined := by
  have still : (tool.switched (.point point)).place = some place := here
  show (tool.switched (.point point)).reach? point = none ↔ _
  rw [← place.beq_self_iff]
  simp only [reach?, still, there]
  split
  · simp_all
  · rename_i differs
    split <;> simp [differs]

/-- With the extruder off no move to a point prints. -/
theorem next?_resting {tool : Tool α} (resting : tool.on = false) {point : Point α}
    (keeps : point.extrude = none) {move : Move α} {leg : Leg α}
    (asked : tool.next? (.point point) = some leg) (made : leg.IsMadeBy move) :
    move.kind.isPrint = false := by
  have off : (tool.switched (.point point)).on = false := by
    show point.extrude.getD tool.on = false
    rw [keeps]
    exact resting
  have asked : (tool.switched (.point point)).reach? point = some leg := asked
  unfold reach? at asked
  rw [off] at asked
  split at asked
  · obtain rfl := Option.some.inj asked
    rw [made.1]
    rfl
  · split at asked
    · cases asked
    · obtain rfl := Option.some.inj asked
      rw [made.1]
      rfl

end Tool

namespace Setup

/-- Where the starting procedure leaves the tool, on axes that it does not set at zero. -/
def left (chosen : Setup α) : Position α :=
  Position.after (Element.points (Design.flatten chosen.profile.startingProcedure))

/-- Where the primer leads for a first point. -/
def goal (chosen : Setup α) (first : Point α) : Position α :=
  first.resolve (chosen.profile.primer.handover chosen.left)

/-- A primer hands a tool that is at the first point already and extrudes over to a design. -/
structure HandsOver (chosen : Setup α) (design : Design α) (first : Point α) (run : Run α) : Prop where
  primed : ∃ primed, Motion.walk chosen.profile.commands .initial
      (Motion.script chosen.initialization (chosen.lead design)) = .ok primed ∧
    primed.emissions <+: run.emissions ∧ primed.machine.tool = ⟨some (chosen.goal first), true⟩
  there : first.resolve (chosen.goal first) = chosen.goal first
  /-- In the design the first point asks for no move, just if no axis that it leaves open is undefined. -/
  visit : ∃ before after earlier here, Design.flatten design = before ++ .point first :: after ∧
    (∀ element ∈ before, element.point? = none) ∧
    Motion.walk chosen.profile.commands .initial
      (Motion.script chosen.initialization (chosen.lead design ++ before)) = .ok earlier ∧
    Motion.step chosen.profile.commands earlier.machine
      (.point first, (chosen.lead design ++ before).length) = .ok here ∧
    earlier.emissions ++ here.emissions <+: run.emissions ∧
    earlier.machine.position = some (chosen.goal first) ∧
    (Motion.moves here.emissions = [] ↔
      (chosen.profile.primer.handover chosen.left).Completes first)
  /-- The way to the corner at the front is never printed. -/
  corner : chosen.profile.primer ≠ .travel → ∃ rest earlier here,
    chosen.lead design = Design.flatten chosen.profile.startingProcedure ++ Primer.approach ++
      .point (Primer.corner first) :: rest ∧
    Motion.walk chosen.profile.commands .initial (Motion.script chosen.initialization
      (Design.flatten chosen.profile.startingProcedure ++ Primer.approach)) = .ok earlier ∧
    Motion.step chosen.profile.commands earlier.machine (.point (Primer.corner first),
      (Design.flatten chosen.profile.startingProcedure ++ Primer.approach).length) = .ok here ∧
    earlier.emissions ++ here.emissions <+: run.emissions ∧
    ∀ move ∈ Motion.moves here.emissions, move.kind.isPrint = false

variable {chosen : Setup α} {design : Design α} {first : Point α} {run : Run α}

theorem lead_eq (isFirst : Design.firstPoint design = some first) : chosen.lead design =
    Design.flatten chosen.profile.startingProcedure ++
      Design.flatten (chosen.profile.primer.steps first) := by
  unfold lead Profile.primerSteps
  rw [isFirst]

theorem behind_lead (primes : chosen.profile.primer ≠ .none)
    (isFirst : Design.firstPoint design = some first) :
    Tool.behind chosen.initialization (chosen.lead design) = ⟨some (chosen.goal first), true⟩ := by
  rw [lead_eq isFirst, Tool.behind_append, Primer.foldl_visit_steps primes, Tool.behind_place_getD]
  rfl

/-- The walk behind a job, without the remarks on its settings. -/
theorem exists_walk (ok : Motion.run chosen.profile.commands chosen.initialization
    (chosen.profile.wrap design) = .ok run) : ∃ walked, Motion.walk chosen.profile.commands .initial
      (Motion.script chosen.initialization (chosen.lead design ++ (Design.flatten design ++
        Design.flatten chosen.profile.endingProcedure))) = .ok walked ∧
      walked.emissions = run.emissions := by
  obtain ⟨walked, onScript, rfl⟩ := Motion.runElements_eq_ok.mp ok
  rw [flatten_wrap, List.append_assoc] at onScript
  exact ⟨walked, onScript, rfl⟩

theorem hands_over (primes : chosen.profile.primer ≠ .none)
    (isFirst : Design.firstPoint design = some first) (defined : first.IsDefined)
    (ok : Motion.run chosen.profile.commands chosen.initialization (chosen.profile.wrap design) = .ok run) :
    chosen.HandsOver design first run := by
  obtain ⟨walked, onScript, emitted⟩ := exists_walk ok
  have goal := behind_lead primes isFirst
  have there : first.resolve (chosen.goal first) = chosen.goal first := first.resolve_resolve _
  refine ⟨?primed, there, ?visit, ?corner⟩
  case primed =>
    rw [Motion.script_append] at onScript
    obtain ⟨primed, later, atPrimed, -, rfl⟩ := Motion.walk_append_eq_ok.mp onScript
    rw [← emitted]
    refine ⟨primed, atPrimed, List.prefix_append _ _, ?_⟩
    rw [(Motion.walk_legs atPrimed).1, goal]
  case visit =>
    rw [Design.firstPoint_eq_findSome?] at isFirst
    obtain ⟨before, element, after, split, isPoint, pointless⟩ := List.findSome?_eq_some_iff.mp isFirst
    obtain rfl := Element.eq_of_point? isPoint
    rw [split, List.append_assoc, ← List.append_assoc, List.cons_append] at onScript
    obtain ⟨earlier, here, atEarlier, atHere, told, behind, -, made⟩ := Motion.exists_step onScript
    have place : (Tool.behind chosen.initialization (chosen.lead design ++ before)).place =
        some (chosen.goal first) := by
      rw [Tool.place_behind_append _ _ pointless, goal]
    refine ⟨before, after, earlier, here, split, pointless, atEarlier, atHere, emitted ▸ told,
      (congrArg Tool.place behind).trans place, ?_⟩
    rw [← defined.resolve_iff]
    show Motion.moves here.emissions = [] ↔ (chosen.goal first).IsDefined
    rw [← Tool.next?_eq_none_iff place there]
    cases asked : (Tool.behind chosen.initialization (chosen.lead design ++ before)).next?
        (.point first) with
    | none =>
      rw [asked] at made
      exact iff_of_true (List.forall₂_nil_left_iff.mp made) rfl
    | some leg =>
      rw [asked] at made
      refine iff_of_false (fun silent => ?_) (Option.some_ne_none leg)
      rw [silent] at made
      cases made
  case corner =>
    intro leads
    obtain ⟨rest, steps⟩ := Primer.exists_corner primes leads first
    have lead : chosen.lead design = Design.flatten chosen.profile.startingProcedure ++
        Primer.approach ++ .point (Primer.corner first) :: rest := by
      rw [lead_eq isFirst, steps, List.append_assoc]
    rw [lead, List.append_assoc, List.cons_append] at onScript
    obtain ⟨earlier, here, atEarlier, atHere, told, -, -, made⟩ := Motion.exists_step onScript
    refine ⟨rest, earlier, here, lead, atEarlier, atHere, emitted ▸ told, fun move member => ?_⟩
    have resting : (Tool.behind chosen.initialization
        (Design.flatten chosen.profile.startingProcedure ++ Primer.approach)).on = false := by
      rw [Tool.behind_append]
      rfl
    cases asked : (Tool.behind chosen.initialization (Design.flatten chosen.profile.startingProcedure ++
        Primer.approach)).next? (.point (Primer.corner first)) with
    | none =>
      rw [asked] at made
      rw [List.forall₂_nil_left_iff.mp made] at member
      cases member
    | some leg =>
      rw [asked] at made
      obtain ⟨only, others, madeBy, none, moves⟩ := List.forall₂_cons_left_iff.mp made
      rw [moves, List.forall₂_nil_left_iff.mp none] at member
      obtain rfl := List.mem_singleton.mp member
      exact Tool.next?_resting resting rfl asked madeBy

end Setup

end Handing

namespace Setup

theorem completes_of_isDefined {chosen : Setup Float}
    (defined : ∀ point ∈ Element.points (Design.flatten chosen.profile.startingProcedure), point.IsDefined)
    (first : Point Float) : (chosen.profile.primer.handover chosen.left).Completes first := by
  have left : chosen.left.IsDefined := Position.isDefined_after defined (by decide)
  have ten : Scalar.isUndefined (10.0 : Float) = false := by decide
  have twelve : Scalar.isUndefined (12.0 : Float) = false := by decide
  have sixteen : Scalar.isUndefined (16.0 : Float) = false := by decide
  refine Position.IsDefined.completes ?_ first
  cases chosen.profile.primer with
  | none | travel => exact left
  | frontLinesThenY | frontLinesThenX | frontLinesThenXY => exact ⟨ten, sixteen, left.z⟩
  | x | y => exact ⟨ten, twelve, left.z⟩

/-- Every primer but the empty one hands over at the first point, whatever the starting procedure and the
settings. The first point then asks for no move, if the starting procedure leaves no axis undefined that
it leaves open. -/
theorem primer_hands_over {chosen : Setup Float} {design : Design Float} {first : Point Float}
    {run : Run Float} (primes : chosen.profile.primer ≠ .none)
    (isFirst : Design.firstPoint design = some first) (defined : first.IsDefined)
    (ok : Motion.run chosen.profile.commands chosen.initialization (chosen.profile.wrap design) = .ok run) :
    chosen.HandsOver design first run ∧
    ((∀ point ∈ Element.points (Design.flatten chosen.profile.startingProcedure), point.IsDefined) →
      (chosen.profile.primer.handover chosen.left).Completes first) :=
  ⟨hands_over primes isFirst defined ok, fun clean => completes_of_isDefined clean first⟩

/-- A printer that goes up and leaves its extruder on before it primes. -/
def lifter : Profile Float :=
  { Profile.bare with
    startingProcedure := [.ofPoint { z := some 5.0, extrude := some true }]
    primer := .frontLinesThenX }

def lifted : Setup Float := ⟨lifter, lifter.initialization⟩

/-- A line that begins at a point without a height. -/
def lowLine : Design Float :=
  [.ofPoint { x := some 20.0, y := some 30.0 }, .ofPoint { x := some 50.0 }]

theorem primer_hands_over_lifted :
    ∃ run, Motion.run lifted.profile.commands lifted.initialization (lifted.profile.wrap lowLine) = .ok run ∧
      lifted.HandsOver lowLine { x := some 20.0, y := some 30.0 } run ∧
      (lifted.profile.primer.handover lifted.left).Completes { x := some 20.0, y := some 30.0 } := by
  have walked : (Motion.run lifted.profile.commands lifted.initialization
      (lifted.profile.wrap lowLine)).toOption.map (fun run => run.machine.extruder.on) = some true := by
    decide +kernel
  obtain ⟨run, ok, -⟩ := Motion.exists_run_of_map walked
  have defined : ({ x := some 20.0, y := some 30.0 } : Point Float).IsDefined := by
    constructor <;> decide
  have clean : ∀ point ∈ Element.points (Design.flatten lifted.profile.startingProcedure),
      point.IsDefined := by
    refine List.forall_mem_singleton.mpr ?_
    constructor <;> decide
  obtain ⟨hands, completes⟩ := primer_hands_over (by decide) rfl defined ok
  exact ⟨run, ok, hands, completes clean⟩

/-- A printer that does not know its height. -/
def adrift : Profile Float :=
  { Profile.bare with startingProcedure := [.ofPoint { z := some (0.0 / 0.0) }], primer := .travel }

/-- An undefined axis is not where it is, so the first point then prints on the spot. -/
theorem primer_can_leave_undefined :
    ¬ ∀ (chosen : Setup Float) (design : Design Float) (first : Point Float) (run : Run Float),
      chosen.profile.primer ≠ .none → Design.firstPoint design = some first → first.IsDefined →
      Motion.run chosen.profile.commands chosen.initialization (chosen.profile.wrap design) = .ok run →
      ∀ before after earlier here, Design.flatten design = before ++ .point first :: after →
        (∀ element ∈ before, element.point? = none) →
        Motion.walk chosen.profile.commands .initial
          (Motion.script chosen.initialization (chosen.lead design ++ before)) = .ok earlier →
        Motion.step chosen.profile.commands earlier.machine
          (.point first, (chosen.lead design ++ before).length) = .ok here →
        Motion.moves here.emissions = [] := by
  intro silent
  let chosen : Setup Float := ⟨adrift, adrift.initialization⟩
  let first : Point Float := { x := some 1.0, y := some 2.0 }
  have defined : first.IsDefined := by
    constructor <;> decide
  have printed : (Motion.walk chosen.profile.commands .initial
      (Motion.script chosen.initialization (chosen.lead [.ofPoint first] ++ [])) >>= fun earlier =>
        Motion.step chosen.profile.commands earlier.machine
          (.point first, (chosen.lead [.ofPoint first] ++ []).length)).toOption.map
      (fun here => (Motion.moves here.emissions).map (·.kind.isPrint)) = some [true] := by
    decide +kernel
  have walked : (Motion.run chosen.profile.commands chosen.initialization
      (chosen.profile.wrap [.ofPoint first])).toOption.map (fun run => run.machine.extruder.on) =
        some true := by
    decide +kernel
  obtain ⟨run, ok, -⟩ := Motion.exists_run_of_map walked
  obtain ⟨here, passed, prints⟩ := Motion.exists_run_of_map printed
  obtain ⟨earlier, atEarlier, atHere⟩ := bind_eq_ok.mp passed
  have none := silent chosen [.ofPoint first] first run (by decide) rfl defined ok [] [] earlier here rfl
    nofun atEarlier atHere
  rw [none] at prints
  cases prints

end Setup

end Toolpath
