import Toolpath.Proofs.Scalar.Exact
import Toolpath.Proofs.Motion.Change
import Mathlib.Data.Rat.Sqrt
import Mathlib.Data.Rat.Floor

/-!
The extruder axis as the machine moves it when it is told the actions of a walk. In exact arithmetic
every move and every feed on the spot feeds just what the design asks for at that place, however often
units, filament, bead and mode of the axis change in between.
-/

namespace Toolpath

/-- The extruder axis of a machine that knows no design, only what it is told. -/
structure FeedAxis (α : Type) where
  relative : Bool
  place : α

namespace FeedAxis

variable {α : Type} [Scalar α]

/-- Absolute and at zero, as it is before anything is told. -/
def initial : FeedAxis α := ⟨false, 0.0⟩

/-- What a value written on the axis feeds. -/
def fed (axis : FeedAxis α) (written : α) : α :=
  if axis.relative then written else written - axis.place

/-- The axis behind a value written on it. -/
def driven (axis : FeedAxis α) (written : α) : FeedAxis α :=
  { axis with place := if axis.relative then axis.place + written else written }

/-- What an action feeds. -/
def feed (axis : FeedAxis α) : Action α → α
  | .move move => (move.feed.map axis.fed).getD 0.0
  | .extruded written _ => axis.fed written
  | _ => 0.0

/-- The axis behind an action. To announce the absolute mode sets it to zero. -/
def take (axis : FeedAxis α) : Action α → FeedAxis α
  | .move move => (move.feed.map axis.driven).getD axis
  | .extruded written _ => axis.driven written
  | .announced true => { axis with relative := true }
  | .announced false => ⟨false, 0.0⟩
  | _ => axis

/-- The axis behind some emissions. -/
def replay (axis : FeedAxis α) (emissions : List (Emission α)) : FeedAxis α :=
  emissions.foldl (fun axis emission => axis.take emission.action) axis

/-- Every emission with the axis as it is before it. -/
def trace (axis : FeedAxis α) : List (Emission α) → List (FeedAxis α × Emission α)
  | [] => []
  | emission :: rest => (axis, emission) :: (axis.take emission.action).trace rest

/-- What some emissions feed, one after the other. -/
def feeds (axis : FeedAxis α) (emissions : List (Emission α)) : List α :=
  (axis.trace emissions).map fun entry => entry.1.feed entry.2.action

theorem feeds_cons (axis : FeedAxis α) (emission : Emission α) (rest : List (Emission α)) :
    axis.feeds (emission :: rest) =
      axis.feed emission.action :: (axis.take emission.action).feeds rest := rfl

theorem mem_of_mem_trace {axis : FeedAxis α} {emissions : List (Emission α)}
    {entry : FeedAxis α × Emission α} (member : entry ∈ axis.trace emissions) : entry.2 ∈ emissions := by
  induction emissions generalizing axis with
  | nil => cases member
  | cons emission rest ih =>
    rcases List.mem_cons.mp member with rfl | later
    · exact List.mem_cons_self
    · exact List.mem_cons_of_mem _ (ih later)

/-- The axis stands where the extruder has it and is in the same mode, which is the one announced
last, if one was announced. -/
structure Follows (axis : FeedAxis α) (extruder : Extruder α) : Prop where
  place : axis.place = extruder.total
  mode : axis.relative = extruder.relative
  announced : ∀ relative, extruder.announced = some relative → extruder.relative = relative

/-- What an element asks to be fed at an emission: the volume of a print move, or the volume that the
element feeds on the spot, at the feed for a volume that is in force; else nothing. -/
def Due (element : Element α) (emission : Emission α) (amount : α) : Prop :=
  match emission.action with
  | .move move =>
    match move.kind with
    | .print volume length =>
      ∃ area factor, emission.machine.bead.area = .ok area ∧
        emission.machine.extruder.feedPerVolume = .ok factor ∧
        length = move.start.distance move.target ∧ volume = area * length ∧ amount = volume * factor
    | _ => amount = 0.0
  | .extruded _ _ =>
    ∃ volume speed factor, element = .event (.extrude volume speed) ∧
      emission.machine.extruder.feedPerVolume = .ok factor ∧ amount = volume * factor
  | _ => amount = 0.0

/-- The feed is due, and the axis follows the extruder behind it. -/
def Honors (element : Element α) (entry : FeedAxis α × Emission α) : Prop :=
  Due element entry.2 (entry.1.feed entry.2.action) ∧
    (entry.1.take entry.2.action).Follows entry.2.machine.extruder

@[simp] theorem feedPerVolume_advance (extruder : Extruder α) (amount : α) :
    (extruder.advance amount).feedPerVolume = extruder.feedPerVolume := rfl

open Machine

theorem initial_follows : FeedAxis.initial.Follows (Extruder.initial : Extruder α) :=
  ⟨rfl, rfl, fun _ said => by cases said⟩

theorem Follows.driven_written {axis : FeedAxis α} {extruder : Extruder α} (follows : axis.Follows extruder)
    (amount : α) :
    (axis.driven ((extruder.advance amount).written amount)).Follows (extruder.advance amount) := by
  refine ⟨?_, follows.mode, follows.announced⟩
  unfold driven Extruder.written Extruder.advance
  rw [follows.mode, follows.place]
  cases extruder.relative <;> rfl

theorem Follows.silent {axis : FeedAxis α} {element : Element α} {machine after : Machine α}
    (follows : axis.Follows machine.extruder) (change : Change element machine none after) :
    axis.Follows after.extruder := by
  cases change with
  | settings => exact follows
  | @configured fragment unset =>
    have same : (machine.extruder.apply fragment).relative = machine.extruder.relative := by
      simp only [Extruder.apply, unset, Option.getD_none]
    exact ⟨follows.place, follows.mode.trans same.symm, fun mode said =>
      same.trans (follows.announced mode said)⟩
  | @repeated fragment relative set said =>
    have now : (machine.extruder.apply fragment).relative = relative := by
      simp only [Extruder.apply, set, Option.getD_some]
    have same := now.trans (follows.announced relative said).symm
    exact ⟨follows.place, follows.mode.trans same.symm, fun mode saidMode =>
      same.trans (follows.announced mode saidMode)⟩
  | stayed => exact follows

variable [Scalar.Cancels α]

theorem Follows.fed_written {axis : FeedAxis α} {extruder : Extruder α} (follows : axis.Follows extruder)
    (amount : α) : axis.fed ((extruder.advance amount).written amount) = amount := by
  unfold fed Extruder.written Extruder.advance
  rw [follows.mode, follows.place]
  cases extruder.relative with
  | true => rfl
  | false => exact Scalar.Cancels.add_sub_cancel_left _ _

theorem Follows.fed_held {axis : FeedAxis α} {extruder : Extruder α} (follows : axis.Follows extruder) :
    axis.fed extruder.held = 0.0 := by
  unfold fed Extruder.held
  rw [follows.mode, follows.place]
  cases extruder.relative with
  | true => rfl
  | false => exact Scalar.Cancels.sub_self _

theorem Follows.driven_held {axis : FeedAxis α} {extruder : Extruder α} (follows : axis.Follows extruder) :
    (axis.driven extruder.held).Follows extruder := by
  refine ⟨?_, follows.mode, follows.announced⟩
  unfold driven Extruder.held
  rw [follows.mode, follows.place]
  cases extruder.relative with
  | true => exact Scalar.Cancels.add_zero _
  | false => rfl

/-- A travel move either holds the axis where it is or leaves it out. -/
theorem Follows.traveling {axis : FeedAxis α} {machine : Machine α}
    (follows : axis.Follows machine.extruder) (start target : Position α) :
    axis.feed (.move (machine.traveling start target)) = 0.0 ∧
      (axis.take (.move (machine.traveling start target))).Follows machine.extruder := by
  simp only [feed, take, Machine.traveling, travelFeed]
  split
  · exact ⟨follows.fed_held, follows.driven_held⟩
  · exact ⟨rfl, follows⟩

theorem Follows.told {axis : FeedAxis α} {element : Element α} {machine after : Machine α}
    {action : Action α} (follows : axis.Follows machine.extruder)
    (change : Change element machine (some action) after) :
    Honors element (axis, ⟨action, after⟩) := by
  cases change with
  | @announced fragment relative set differs =>
    refine ⟨rfl, ?_⟩
    cases relative with
    | true => exact ⟨follows.place, rfl, by simp⟩
    | false => exact ⟨rfl, rfl, by simp⟩
  | toggled differs => exact ⟨rfl, follows.place, follows.mode, follows.announced⟩
  | placed => exact ⟨rfl, follows⟩
  | @traveled point start =>
    obtain ⟨nothing, still⟩ := follows.traveling start (point.resolve start)
    exact ⟨nothing, still⟩
  | @printed point start area factor _ _ _ _ atArea atFactor =>
    refine ⟨⟨area, factor, atArea, ?_, rfl, rfl, ?_⟩, ?_⟩
    · exact atFactor
    · exact follows.fed_written _
    · exact follows.driven_written _
  | @extruded volume speed factor byElement atFactor =>
    exact ⟨⟨volume, speed, factor, byElement, atFactor, follows.fed_written _⟩,
      follows.driven_written _⟩
  | aside fan hotend bed isAside =>
    cases action with
    | move | toggled | announced | extruded => cases isAside
    | instruction | comment | fan | hotend | bed | marker => exact ⟨rfl, follows⟩

/-- Along a course the axis follows the extruder, and every feed is due to an element that makes a
change of the course. -/
theorem Follows.course {axis : FeedAxis α} {made : Element α → Prop} {machine last : Machine α}
    {emissions : List (Emission α)} (follows : axis.Follows machine.extruder)
    (course : Course made machine emissions last) :
    (axis.replay emissions).Follows last.extruder ∧
      ∀ entry ∈ axis.trace emissions, ∃ element, made element ∧ Honors element entry := by
  induction course generalizing axis with
  | rest => exact ⟨follows, by simp [trace]⟩
  | silent byElement change _ ih => exact ih (follows.silent change)
  | @told element machine middle last action later byElement change _ ih =>
    have honored := follows.told change
    obtain ⟨behind, others⟩ := ih honored.2
    refine ⟨behind, ?_⟩
    intro entry member
    rcases List.mem_cons.mp member with rfl | member
    · exact ⟨element, byElement, honored⟩
    · exact others entry member

/-- The axis refines a walk: wherever the elements are cut in two, it stands where the extruder has it
and is in its mode, and what the next element makes it feed is due to that element. -/
def Refines (commands : CommandTable) (elements : List (Numbered α)) (run : Run α) : Prop :=
  ∀ before after, elements = before ++ after →
    ∃ earlier later, Motion.walk commands .initial before = .ok earlier ∧
      Motion.walk commands earlier.machine after = .ok later ∧
      run.emissions = earlier.emissions ++ later.emissions ∧ run.machine = later.machine ∧
      (initial.replay earlier.emissions).Follows earlier.machine.extruder ∧
      ∀ element index rest, after = (element, index) :: rest →
        ∃ here, Motion.step commands earlier.machine (element, index) = .ok here ∧
          here.emissions <+: later.emissions ∧
          ∀ entry ∈ (initial.replay earlier.emissions).trace here.emissions, Honors element entry

theorem refines_walk {commands : CommandTable} {elements : List (Numbered α)} {run : Run α}
    (ok : Motion.walk commands .initial elements = .ok run) : Refines commands elements run := by
  rintro before after rfl
  obtain ⟨earlier, later, atEarlier, atLater, rfl⟩ := Motion.walk_append_eq_ok.mp ok
  have follows := (initial_follows.course (Motion.walk_course atEarlier)).1
  refine ⟨earlier, later, atEarlier, atLater, rfl, rfl, follows, ?_⟩
  rintro element index rest rfl
  obtain ⟨here, behind, atHere, _, rfl⟩ := Motion.walk_cons_eq_ok.mp atLater
  refine ⟨here, atHere, List.prefix_append _ _, ?_⟩
  intro entry member
  obtain ⟨_, rfl, honored⟩ := (follows.course (Motion.step_course atHere)).2 entry member
  exact honored

end FeedAxis

/-- In exact arithmetic the axis of the machine refines every walk, whatever the initialization and
the elements. Nothing is assumed of the square root or of pi. -/
theorem feedAxis_refines {K : Type} [Field K] [LinearOrder K] [IsStrictOrderedRing K]
    (functions : Scalar.Functions K) (commands : CommandTable) :
    letI := Scalar.exact functions
    ∀ (initialization : Initialization K) (elements : List (Element K)) (run : Run K),
      Motion.runElements commands initialization elements = .ok run →
      FeedAxis.Refines commands (Motion.script initialization elements) run := by
  let _ := Scalar.exact functions
  have cancels : Scalar.Cancels K := Scalar.exact_cancels functions
  intro initialization elements run ok
  obtain ⟨walked, onScript, rfl⟩ := Motion.runElements_eq_ok.mp ok
  have refined := FeedAxis.refines_walk onScript
  exact refined

namespace FeedAxis

/-- Rational arithmetic with the square root of squares, and pi as a fraction. -/
def fractions : Scalar.Functions ℚ where
  sqrt := Rat.sqrt
  sin _ := 0
  cos _ := 1
  atan2 _ _ := 0
  hypot a b := Rat.sqrt (a * a + b * b)
  remainder a _ := a
  round v := round v
  toCount v := (Int.toNat ⌊v⌋).toUInt64
  pi := 355 / 113

/-- Units, filament and mode change between moves and a feed on the spot. -/
def changing : List (Element ℚ) :=
  [.bead { shape := some .rectangle, width := some 2, height := some (1 / 2) },
    .point { x := some 0, y := some 0, z := some 0 },
    .point { x := some 3, y := some 4, extrude := some true },
    .extruder { relative := some true, feedUnit := some .volume }, .event (.extrude 7 300),
    .point { y := some 0 },
    .extruder { relative := some false, filament := some 2, feedUnit := some .length },
    .point { x := some 0 }, .point { x := some 6, extrude := some false }]

end FeedAxis

theorem feedAxis_refines_changing :
    letI := Scalar.exact FeedAxis.fractions
    ∃ run, Motion.runElements .generic {} FeedAxis.changing = .ok run ∧
      FeedAxis.Refines .generic (Motion.script {} FeedAxis.changing) run ∧
      FeedAxis.initial.feeds run.emissions = [0, 0, 7232 / 3479, 0, 7, 4, 0, 339 / 355, 0, 0] := by
  let _ := Scalar.exact FeedAxis.fractions
  have fed : (Motion.runElements .generic {} FeedAxis.changing).toOption.map
      (fun run => FeedAxis.initial.feeds run.emissions) =
        some [0, 0, 7232 / 3479, 0, 7, 4, 0, 339 / 355, 0, 0] := by decide +kernel
  obtain ⟨run, ok, feeds⟩ := Motion.exists_run_of_map fed
  exact ⟨run, ok, feedAxis_refines FeedAxis.fractions .generic {} FeedAxis.changing run ok, feeds⟩

end Toolpath
