import Toolpath.Proofs.Motion.FeedAxis
import Toolpath.Proofs.Motion.Total

/-!
What printing adds. In exact arithmetic every move that extrudes is longer than zero, and the feed for a
volume is above zero, so what is added has the sign of the area of the bead. Rectangles and circles always
have one above zero. The area of a stadium is computed as if it were wider than high, and is zero or less
where it is slender.
-/

namespace Toolpath

variable {K : Type} [Field K] [LinearOrder K]

/-- A square root of what is above zero is above zero, and so is pi. -/
structure Scalar.Functions.Positive (functions : Scalar.Functions K) : Prop where
  sqrt : ∀ v, 0 < v → 0 < functions.sqrt v
  pi : 0 < functions.pi

/-- A stadium so much higher than wide that what is taken away between its ends is no less than the circle
they make. -/
def Bead.IsSlender (functions : Scalar.Functions K) (bead : Bead K) : Prop :=
  bead.shape = some .stadium ∧ ∃ width ∈ bead.width, ∃ height ∈ bead.height,
    4 * width ≤ (4 - functions.pi) * height

variable [IsStrictOrderedRing K] {functions : Scalar.Functions K}

theorem Position.distance_pos (positive : functions.Positive) {start target : Position K}
    (differs : target ≠ start) : 0 < @Position.distance K (Scalar.exact functions) start target := by
  refine positive.sqrt _ ?_
  by_contra short
  obtain ⟨x, y, z⟩ := start
  obtain ⟨x', y', z'⟩ := target
  have alongX := mul_self_nonneg (x' - x)
  have alongY := mul_self_nonneg (y' - y)
  have alongZ := mul_self_nonneg (z' - z)
  have sum : (x' - x) * (x' - x) + (y' - y) * (y' - y) + (z' - z) * (z' - z) ≤ 0 := not_lt.mp short
  have sameX : (x' - x) * (x' - x) = 0 := by linarith
  have sameY : (y' - y) * (y' - y) = 0 := by linarith
  have sameZ : (z' - z) * (z' - z) = 0 := by linarith
  rw [mul_self_eq_zero, sub_eq_zero] at sameX sameY sameZ
  exact differs (by rw [sameX, sameY, sameZ])

namespace Bead

theorem of_need_eq_ok {bead : Bead K} {shape : BeadShape} {dimension : Dimension} {size : K}
    (ok : @need K (Scalar.exact functions) bead shape dimension = .ok size) :
    bead.size? dimension = some size ∧ 0 < size := by
  unfold need at ok
  cases known : bead.size? dimension with
  | none =>
    rw [known] at ok
    cases ok
  | some set =>
    rw [known] at ok
    dsimp only at ok
    split at ok
    · rename_i usable
      cases ok
      exact ⟨rfl, (Scalar.exact_isUsable functions).mp usable⟩
    · cases ok

/-- The area of a bead is above zero, unless the bead is slender. -/
theorem area_pos_iff (positive : functions.Positive) {bead : Bead K} {area : K}
    (ok : @Bead.area K (Scalar.exact functions) bead = .ok area) :
    0 < area ↔ ¬ bead.IsSlender functions := by
  have two : (2.0 : K) = 2 := by norm_num
  unfold Bead.area at ok
  cases shape : bead.shape with
  | none =>
    rw [shape] at ok
    cases ok
  | some kind =>
    rw [shape] at ok
    cases kind with
    | rectangle =>
      obtain ⟨width, atWidth, ok⟩ := bind_eq_ok.mp ok
      obtain ⟨height, atHeight, ok⟩ := bind_eq_ok.mp ok
      cases ok
      refine iff_of_true (mul_pos (of_need_eq_ok atWidth).2 (of_need_eq_ok atHeight).2) ?_
      rintro ⟨stadium, -⟩
      rw [shape] at stadium
      cases stadium
    | circle =>
      obtain ⟨diameter, atDiameter, ok⟩ := bind_eq_ok.mp ok
      cases ok
      have half : 0 < diameter / 2 := half_pos (of_need_eq_ok atDiameter).2
      refine iff_of_true ?_ ?_
      · show 0 < functions.pi * (diameter / 2.0 * (diameter / 2.0))
        rw [two]
        exact mul_pos positive.pi (mul_pos half half)
      · rintro ⟨stadium, -⟩
        rw [shape] at stadium
        cases stadium
    | stadium =>
      obtain ⟨width, atWidth, ok⟩ := bind_eq_ok.mp ok
      obtain ⟨height, atHeight, ok⟩ := bind_eq_ok.mp ok
      cases ok
      obtain ⟨isWidth, -⟩ := of_need_eq_ok atWidth
      obtain ⟨isHeight, high⟩ := of_need_eq_ok atHeight
      have slender : bead.IsSlender functions ↔ 4 * width ≤ (4 - functions.pi) * height := by
        constructor
        · rintro ⟨-, other, isOther, tall, isTall, ratio⟩
          obtain rfl := Option.some.inj (isOther.symm.trans isWidth)
          obtain rfl := Option.some.inj (isTall.symm.trans isHeight)
          exact ratio
        · exact fun ratio => ⟨shape, width, isWidth, height, isHeight, ratio⟩
      have product : (width - height) * height + functions.pi * (height / 2.0 * (height / 2.0)) =
          height / 4 * (4 * width - (4 - functions.pi) * height) := by
        rw [two]
        ring
      show 0 < (width - height) * height + functions.pi * (height / 2.0 * (height / 2.0)) ↔ _
      rw [slender, product, mul_pos_iff_of_pos_left (by linarith), sub_pos, not_le]

end Bead

theorem Extruder.feedPerVolume_pos (positive : functions.Positive) {extruder : Extruder K} {factor : K}
    (ok : @feedPerVolume K (Scalar.exact functions) extruder = .ok factor) : 0 < factor := by
  have one : (1.0 : K) = 1 := by norm_num
  have two : (2.0 : K) = 2 := by norm_num
  unfold feedPerVolume at ok
  split at ok
  · cases ok
    rw [one]
    exact one_pos
  · split at ok
    · rename_i usable
      cases ok
      have half : 0 < extruder.filament / 2 := half_pos ((Scalar.exact_isUsable functions).mp usable)
      show 0 < 1.0 / (functions.pi * (extruder.filament / 2.0 * (extruder.filament / 2.0)))
      rw [one, two]
      exact one_div_pos.mpr (mul_pos positive.pi (mul_pos half half))
    · cases ok

/-- Not behind where it was, in the same mode. -/
structure Extruder.Gains (before after : Extruder K) : Prop where
  total : before.total ≤ after.total
  relative : after.relative = before.relative

/-- An emission that neither announces a mode nor feeds on the spot, and prints with no slender bead. -/
def Emission.IsPlain (functions : Scalar.Functions K) (emission : Emission K) : Prop :=
  match emission.action with
  | .move move => move.kind.isPrint = true → ¬ emission.machine.bead.IsSlender functions
  | .announced _ | .extruded _ _ => False
  | _ => True

namespace Machine

variable {element : Element K} {machine after last : Machine K} {told : Option (Action K)}
  {made : Element K → Prop} {emissions : List (Emission K)}

/-- A move that extrudes goes somewhere. -/
theorem Change.length_pos (positive : functions.Positive) {move : Move K} {volume length : K}
    (change : @Change K (Scalar.exact functions) element machine (some (.move move)) after)
    (extrudes : move.kind = .print volume length) : 0 < length := by
  let _ := Scalar.exact functions
  cases change with
  | placed | traveled => cases extrudes
  | @printed point start area factor _ _ moves =>
    cases extrudes
    refine Position.distance_pos positive fun same => ?_
    have still : (start == start) = true := by
      show (start.x == start.x && start.y == start.y && start.z == start.z) = true
      simp
    rw [same, still] at moves
    cases moves
  | aside _ _ _ isAside => cases isAside

theorem Change.gains (positive : functions.Positive)
    (change : @Change K (Scalar.exact functions) element machine told after)
    (settled : machine.extruder.Settled)
    (plain : ∀ action ∈ told, Emission.IsPlain functions ⟨action, after⟩) :
    machine.extruder.Gains after.extruder := by
  let _ := Scalar.exact functions
  have keeps (nothing : told.bind Action.issued? = none)
      (unannounced : ∀ action ∈ told, action.isAnnouncement = false) :
      machine.extruder.Gains after.extruder := by
    have holds := change.holds settled nothing unannounced
    exact ⟨holds.total.ge, holds.relative⟩
  have length {move : Move K} {volume length : K} (isMove : told = some (.move move))
      (extrudes : move.kind = .print volume length) : 0 < length := by
    subst isMove
    exact change.length_pos positive extrudes
  cases change with
  | announced | extruded => exact (plain _ rfl).elim
  | @printed point start area factor _ _ _ _ atArea atFactor =>
    have thick : ¬ machine.bead.IsSlender functions := plain _ rfl rfl
    have fed : 0 < area * start.distance (point.resolve start) * factor :=
      mul_pos (mul_pos ((Bead.area_pos_iff positive atArea).mpr thick) (length rfl rfl))
        (Extruder.feedPerVolume_pos positive atFactor)
    exact ⟨(lt_add_of_pos_right machine.extruder.total fed).le, rfl⟩
  | settings | configured | repeated | stayed => exact keeps rfl fun _ member => nomatch member
  | toggled | placed | traveled =>
    refine keeps rfl fun action same => ?_
    obtain rfl := Option.some.inj same
    rfl
  | @aside action fan hotend bed isAside =>
    cases action with
    | move | toggled | announced | extruded => cases isAside
    | instruction | comment | fan | hotend | bed | marker =>
      refine keeps rfl fun action same => ?_
      obtain rfl := Option.some.inj same
      rfl

theorem Course.gains (positive : functions.Positive)
    (course : @Course K (Scalar.exact functions) made machine emissions last)
    (settled : machine.extruder.Settled)
    (plain : ∀ emission ∈ emissions, emission.IsPlain functions) :
    machine.extruder.Gains last.extruder := by
  let _ := Scalar.exact functions
  induction course with
  | rest => exact ⟨le_rfl, rfl⟩
  | silent _ change _ ih =>
    have here := change.gains positive settled fun _ member => nomatch member
    have later := ih (change.settled settled) plain
    exact ⟨here.total.trans later.total, later.relative.trans here.relative⟩
  | @told element machine middle last action rest _ change _ ih =>
    obtain ⟨plainHere, plainLater⟩ := List.forall_mem_cons.mp plain
    have here := change.gains positive settled fun other same => Option.some.inj same ▸ plainHere
    have later := ih (change.settled settled) plainLater
    exact ⟨here.total.trans later.total, later.relative.trans here.relative⟩

end Machine

namespace Motion

open Machine

/-- On an absolute axis, what a move writes is not less than what a move before it wrote, if all in
between and it itself are plain. -/
theorem written_le (positive : functions.Positive) {made : Element K → Prop} {last : Machine K}
    {before between after : List (Emission K)} {first second : Emission K} {move other : Move K}
    {written later : K}
    (course : @Course K (Scalar.exact functions) made (@Machine.initial K (Scalar.exact functions))
      (before ++ first :: (between ++ second :: after)) last)
    (isMove : first.action = .move move) (onMove : move.feed = some written)
    (isOther : second.action = .move other) (onOther : other.feed = some later)
    (absolute : first.machine.extruder.relative = false)
    (plain : ∀ emission ∈ between ++ [second], emission.IsPlain functions) : written ≤ later := by
  let _ := Scalar.exact functions
  have settled : (Machine.initial : Machine K).extruder.Settled := fun _ said => nomatch said
  obtain ⟨start, _, earlier, -, atFirst, behind⟩ := course.split
  obtain ⟨middle, _, onTheWay, -, atSecond, -⟩ := behind.split
  have settledFirst := atFirst.settled (earlier.settled settled)
  obtain ⟨plainBetween, plainSecond⟩ := List.forall_mem_append.mp plain
  have here := onTheWay.gains positive settledFirst plainBetween
  have there := atSecond.gains positive (onTheWay.settled settledFirst) fun action same =>
    Option.some.inj same ▸ plainSecond second (List.mem_singleton.mpr rfl)
  have stillAbsolute : second.machine.extruder.relative = false :=
    there.relative.trans (here.relative.trans absolute)
  calc written = first.machine.extruder.total :=
        atFirst.written_eq_total absolute (.inr ⟨move, isMove, onMove⟩)
    _ ≤ middle.extruder.total := here.total
    _ ≤ second.machine.extruder.total := there.total
    _ = later := (atSecond.written_eq_total stillAbsolute (.inr ⟨other, isOther, onOther⟩)).symm

theorem print_gains (positive : functions.Positive) {made : Element K → Prop} {last : Machine K}
    {emissions : List (Emission K)} {entry : FeedAxis K × Emission K} {move : Move K} {volume length : K}
    (course : @Course K (Scalar.exact functions) made (@Machine.initial K (Scalar.exact functions))
      emissions last)
    (member : entry ∈ @FeedAxis.trace K (Scalar.exact functions)
      (@FeedAxis.initial K (Scalar.exact functions)) emissions)
    (isMove : entry.2.action = .move move) (extrudes : move.kind = .print volume length) :
    0 < length ∧ (0 < volume ↔ ¬ entry.2.machine.bead.IsSlender functions) ∧
      (0 < @FeedAxis.feed K (Scalar.exact functions) entry.1 (.move move) ↔
        ¬ entry.2.machine.bead.IsSlender functions) := by
  let _ := Scalar.exact functions
  have cancels : Scalar.Cancels K := Scalar.exact_cancels functions
  obtain ⟨axis, ⟨action, machine⟩⟩ := entry
  obtain ⟨kind, start, target, form, feed, speed⟩ := move
  obtain rfl : action = _ := isMove
  obtain rfl : kind = _ := extrudes
  obtain ⟨element, -, due, -⟩ := (FeedAxis.initial_follows.course course).2 _ member
  obtain ⟨area, factor, atArea, atFactor, -, isVolume, isFeed⟩ := due
  have long : 0 < length := by
    obtain ⟨before, after, split⟩ := List.append_of_mem (FeedAxis.mem_of_mem_trace member)
    rw [split] at course
    obtain ⟨_, _, -, -, change, -⟩ := course.split
    exact change.length_pos positive rfl
  have adds : 0 < volume ↔ ¬ machine.bead.IsSlender functions := by
    rw [isVolume, mul_pos_iff_of_pos_right long]
    exact Bead.area_pos_iff positive atArea
  refine ⟨long, adds, ?_⟩
  rw [isFeed, mul_pos_iff_of_pos_right (Extruder.feedPerVolume_pos positive atFactor)]
  exact adds

/-- In exact arithmetic, with whatever pi above zero, printing adds material unless the bead is slender,
and on an absolute axis the moves then never take back. -/
theorem prints_gain (positive : functions.Positive) (commands : CommandTable) :
    (∀ (bead : Bead K) (area : K), @Bead.area K (Scalar.exact functions) bead = .ok area →
      (0 < area ↔ ¬ bead.IsSlender functions)) ∧
    ∀ (initialization : Initialization K) (elements : List (Element K)) (run : Run K),
      @runElements K (Scalar.exact functions) commands initialization elements = .ok run →
      (∀ entry ∈ @FeedAxis.trace K (Scalar.exact functions) (@FeedAxis.initial K (Scalar.exact functions))
          run.emissions, ∀ move volume length,
        entry.2.action = .move move → move.kind = .print volume length →
        0 < length ∧ (0 < volume ↔ ¬ entry.2.machine.bead.IsSlender functions) ∧
          (0 < @FeedAxis.feed K (Scalar.exact functions) entry.1 (.move move) ↔
            ¬ entry.2.machine.bead.IsSlender functions)) ∧
      ∀ before first between second after move other written later,
        run.emissions = before ++ first :: (between ++ second :: after) →
        first.action = .move move → move.feed = some written →
        second.action = .move other → other.feed = some later →
        first.machine.extruder.relative = false →
        (∀ emission ∈ between ++ [second], emission.IsPlain functions) → written ≤ later := by
  let _ := Scalar.exact functions
  refine ⟨fun bead area => Bead.area_pos_iff positive, fun initialization elements run ok => ?_⟩
  obtain ⟨walked, onScript, rfl⟩ := runElements_eq_ok.mp ok
  have course := walk_course onScript
  constructor
  · intro entry member move volume length isMove extrudes
    exact print_gains positive course member isMove extrudes
  · intro before first between second after move other written later split isMove onMove isOther onOther
      absolute plain
    have split : walked.emissions = before ++ first :: (between ++ second :: after) := split
    rw [split] at course
    exact written_le positive course isMove onMove isOther onOther absolute plain

/-- A wall over two layers, with a bead like a stadium. -/
def wall : List (Element ℚ) :=
  [.extruder { relative := some false, feedUnit := some .volume },
    .bead { shape := some .stadium, width := some (1 / 2), height := some (1 / 5) },
    .point { x := some 0, y := some 0, z := some 0 }, .point { x := some 10, extrude := some true },
    .point { z := some (1 / 5), extrude := some false }, .point { x := some 0, extrude := some true }]

theorem fractions_positive : FeedAxis.fractions.Positive where
  pi := by norm_num [FeedAxis.fractions]
  sqrt v above := by
    have root : 0 < v.num.toNat.sqrt := Nat.sqrt_pos.mpr (Int.lt_toNat.mpr (Rat.num_pos.mpr above))
    exact Rat.mkRat_pos (Int.natCast_pos.mpr root) (Nat.sqrt_pos.mpr v.den_pos).ne'

theorem prints_gain_wall :
    letI := Scalar.exact FeedAxis.fractions
    ∃ run, runElements .generic {} wall = .ok run ∧
      FeedAxis.initial.feeds run.emissions = [0, 0, 0, 1033 / 1130, 0, 0, 0, 1033 / 1130] ∧
      ∀ entry ∈ FeedAxis.initial.trace run.emissions, ∀ move volume length,
        entry.2.action = .move move → move.kind = .print volume length →
        0 < length ∧ (0 < volume ↔ ¬ entry.2.machine.bead.IsSlender FeedAxis.fractions) ∧
          (0 < entry.1.feed (.move move) ↔ ¬ entry.2.machine.bead.IsSlender FeedAxis.fractions) := by
  let _ := Scalar.exact FeedAxis.fractions
  have fed : (runElements .generic {} wall).toOption.map
      (fun run => FeedAxis.initial.feeds run.emissions) =
        some [0, 0, 0, 1033 / 1130, 0, 0, 0, 1033 / 1130] := by
    decide +kernel
  obtain ⟨run, ok, feeds⟩ := exists_run_of_map fed
  exact ⟨run, ok, feeds, ((prints_gain fractions_positive .generic).2 {} wall run ok).1⟩

/-- A bead that is much higher than wide. -/
def slenderLine : List (Element ℚ) :=
  [.bead { shape := some .stadium, width := some (1 / 10), height := some 1 },
    .extruder { feedUnit := some .volume },
    .point { x := some 0, y := some 0, z := some 0 }, .point { x := some 10, extrude := some true }]

/-- To print with such a bead takes material back. -/
theorem slender_prints_lose :
    ¬ ∀ functions : Scalar.Functions ℚ, functions.Positive →
      31 / 10 < functions.pi → functions.pi < 16 / 5 →
      letI := Scalar.exact functions
      (∀ (bead : Bead ℚ) (area : ℚ), bead.area = .ok area → 0 < area) ∧
      ∀ (commands : CommandTable) (initialization : Initialization ℚ) (elements : List (Element ℚ))
        (run : Run ℚ), runElements commands initialization elements = .ok run →
        ∀ emission ∈ run.emissions, ∀ move volume length, emission.action = .move move →
          move.kind = .print volume length → 0 < volume := by
  intro whole
  let _ := Scalar.exact FeedAxis.fractions
  have printed : (runElements .generic {} slenderLine).toOption.map (fun run =>
      run.emissions.filterMap fun emission => emission.action.move?.map (·.kind)) =
        some [.origin, .print (-259 / 226) 10] := by
    decide +kernel
  obtain ⟨run, ok, kinds⟩ := exists_run_of_map printed
  have member : .print (-259 / 226) 10 ∈
      run.emissions.filterMap fun emission => emission.action.move?.map (·.kind) := by
    rw [kinds]
    exact List.mem_cons_of_mem _ (List.mem_singleton.mpr rfl)
  obtain ⟨emission, inRun, isKind⟩ := List.mem_filterMap.mp member
  obtain ⟨move, isMove, extrudes⟩ := Option.map_eq_some_iff.mp isKind
  obtain ⟨-, adds⟩ := whole FeedAxis.fractions fractions_positive (by norm_num [FeedAxis.fractions])
    (by norm_num [FeedAxis.fractions])
  have volume := adds .generic {} slenderLine run ok emission inRun move _ _
    (Action.eq_of_move? isMove) extrudes
  exact absurd volume (by norm_num)

end Motion

end Toolpath
