import Toolpath.Proofs.Plot.Bounds
import Toolpath.Proofs.Scalar.Rounding
import Toolpath.Proofs.Motion.FeedAxis

/-!
The colors of a plot in exact arithmetic. By the order of paths or of vertices every color is valid. By
the height it need not be: the least height is rounded to three decimals before it is taken away, and
where the heights differ by less than that moves it, the colors leave the scale.
-/

namespace Toolpath

variable {K : Type} [Field K] [LinearOrder K]

/-- Each part is from 0 to 1. -/
structure Color.IsValid (color : Color K) : Prop where
  red : 0 ≤ color.red ∧ color.red ≤ 1
  green : 0 ≤ color.green ∧ color.green ≤ 1
  blue : 0 ≤ color.blue ∧ color.blue ≤ 1

variable [IsStrictOrderedRing K] [FloorRing K]

namespace Scalar

/-- Rounding goes to the nearest whole number, and sine and cosine stay within one of zero. -/
structure Functions.Faithful (functions : Functions K) : Prop where
  round : ∀ v, functions.round v = nearest v
  sin : ∀ v, |functions.sin v| ≤ 1
  cos : ∀ v, |functions.cos v| ≤ 1

/-- The nearest number with three decimals. -/
def thousandths (v : K) : K := nearest (v * 1000) / 1000

theorem thousandths_nonneg_iff {v : K} : 0 ≤ thousandths v ↔ -1 < 2000 * v := by
  unfold thousandths
  rw [le_div_iff₀ (by norm_num), zero_mul, Int.cast_nonneg_iff, nearest_nonneg_iff]
  constructor <;> intro bound <;> linarith

theorem thousandths_le_one_iff {v : K} : thousandths v ≤ 1 ↔ 2000 * v < 2001 := by
  unfold thousandths
  rw [div_le_one (by norm_num)]
  have whole := nearest_le_iff (v := v * 1000) 1000
  push_cast at whole
  have cast : (nearest (v * 1000) : K) ≤ 1000 ↔ nearest (v * 1000) ≤ 1000 := by
    exact_mod_cast Iff.rfl
  rw [cast, whole]
  constructor <;> intro bound <;> linarith

theorem thousandths_eq_zero_iff {v : K} : thousandths v = 0 ↔ 2000 * |v| < 1 := by
  unfold thousandths
  rw [div_eq_zero_iff, or_iff_left (by norm_num), Int.cast_eq_zero, nearest_eq_zero_iff, abs_mul]
  have thousand : |(1000 : K)| = 1000 := abs_of_nonneg (by norm_num)
  rw [thousand]
  constructor <;> intro bound <;> linarith

theorem thousandths_mono {v w : K} (order : v ≤ w) : thousandths v ≤ thousandths w := by
  unfold thousandths
  have whole : nearest (v * 1000) ≤ nearest (w * 1000) := nearest_mono (by linarith)
  gcongr

theorem thousandths_mem {v : K} (low : 0 ≤ v) (high : v ≤ 1) :
    0 ≤ thousandths v ∧ thousandths v ≤ 1 :=
  ⟨thousandths_nonneg_iff.mpr (by linarith), thousandths_le_one_iff.mpr (by linarith)⟩

end Scalar

namespace Plot

open Scalar (thousandths)

variable {functions : Scalar.Functions K}

omit [IsStrictOrderedRing K] in
theorem roundThousandths_eq (faithful : functions.Faithful) (v : K) :
    @roundThousandths K (Scalar.exact functions) v = thousandths v := by
  show functions.round (v * 1000.0) / 1000.0 = _
  rw [faithful.round, thousandths]
  norm_num

theorem travelColor_isValid (functions : Scalar.Functions K) :
    (@travelColor K (Scalar.exact functions)).IsValid := by
  have three : (0 : K) ≤ 0.75 ∧ (0.75 : K) ≤ 1 := by norm_num
  have half : (0 : K) ≤ 0.5 ∧ (0.5 : K) ≤ 1 := by norm_num
  exact ⟨three, half, half⟩

theorem sequenceColor_eq (faithful : functions.Faithful) (place total : Nat) :
    @sequenceColor K (Scalar.exact functions) place total =
      let progress : K := place / (max total 1 : Nat)
      ⟨thousandths (4 / 5 * max (1 - 2 * progress) 0), thousandths (max (2 * progress - 1) 0), 1⟩ := by
  have count (n : Nat) : @Scalar.ofCount K (Scalar.exact functions) n = n := rfl
  unfold sequenceColor
  simp only [roundThousandths_eq faithful, Scalar.exact_greatest, count]
  norm_num

theorem sequenceColor_isValid (faithful : functions.Faithful) {place total : Nat}
    (within : place < total) :
    (@sequenceColor K (Scalar.exact functions) place total).IsValid := by
  have positive : (0 : K) < (max total 1 : Nat) := Nat.cast_pos.mpr (by omega)
  have low : 0 ≤ (place : K) / (max total 1 : Nat) := div_nonneg place.cast_nonneg positive.le
  have high : (place : K) / (max total 1 : Nat) ≤ 1 := by
    rw [div_le_one positive]
    exact Nat.cast_le.mpr (by omega)
  rw [sequenceColor_eq faithful]
  generalize (place : K) / (max total 1 : Nat) = progress at low high
  have early : 0 ≤ max (1 - 2 * progress) 0 := le_max_right _ _
  have earlyBound : max (1 - 2 * progress) 0 ≤ 1 := max_le (by linarith) zero_le_one
  have late : 0 ≤ max (2 * progress - 1) 0 := le_max_right _ _
  have lateBound : max (2 * progress - 1) 0 ≤ 1 := max_le (by linarith) zero_le_one
  exact ⟨Scalar.thousandths_mem (by linarith) (by linarith), Scalar.thousandths_mem late lateBound,
    zero_le_one, le_rfl⟩

/-- Wherever in a wave a place is. -/
theorem waveColor_isValid (faithful : functions.Faithful) (place total waves : Nat) :
    (@waveColor K (Scalar.exact functions) place total waves).IsValid := by
  have red (sine : K) (bound : |sine| ≤ 1) :
      0 ≤ thousandths (0.25 + 0.25 * sine) ∧ thousandths (0.25 + 0.25 * sine) ≤ 1 := by
    obtain ⟨low, high⟩ := abs_le.mp bound
    norm_num
    exact Scalar.thousandths_mem (by linarith) (by linarith)
  have green (cosine : K) (bound : |cosine| ≤ 1) :
      0 ≤ thousandths (0.5 - 0.5 * cosine) ∧ thousandths (0.5 - 0.5 * cosine) ≤ 1 := by
    obtain ⟨low, high⟩ := abs_le.mp bound
    norm_num
    exact Scalar.thousandths_mem (by linarith) (by linarith)
  have one : (1.0 : K) = 1 := by norm_num
  unfold waveColor
  simp only [roundThousandths_eq faithful]
  exact ⟨red _ (faithful.sin _), green _ (faithful.cos _), one ▸ zero_le_one, one.le⟩

namespace Span

/-- What the heights are divided by. -/
def extent (span : Span K) : K := max span.range 1e-8

/-- How green a height is. -/
def shade (span : Span K) (height : K) : K :=
  thousandths ((height - thousandths span.least) / span.extent)

/-- Rounding moves the least height by less than half a thousandth of the extent. -/
def Steady (span : Span K) : Prop := 2000 * |span.least - thousandths span.least| < span.extent

omit [FloorRing K] in
theorem extent_pos (span : Span K) : 0 < span.extent :=
  lt_max_of_lt_right (by norm_num)

theorem shade_nonneg_iff {span : Span K} {height : K} :
    0 ≤ span.shade height ↔ -span.extent < 2000 * (height - thousandths span.least) := by
  unfold shade
  rw [Scalar.thousandths_nonneg_iff, ← mul_div_assoc, lt_div_iff₀ span.extent_pos, neg_one_mul]

theorem shade_le_one_iff {span : Span K} {height : K} :
    span.shade height ≤ 1 ↔ 2000 * (height - thousandths span.least) < 2001 * span.extent := by
  unfold shade
  rw [Scalar.thousandths_le_one_iff, ← mul_div_assoc, div_lt_iff₀ span.extent_pos]

theorem shade_eq_zero_iff {span : Span K} {height : K} :
    span.shade height = 0 ↔ 2000 * |height - thousandths span.least| < span.extent := by
  unfold shade
  rw [Scalar.thousandths_eq_zero_iff, abs_div, abs_of_pos span.extent_pos, ← mul_div_assoc,
    div_lt_one span.extent_pos]

theorem shade_mono (span : Span K) {low high : K} (order : low ≤ high) :
    span.shade low ≤ span.shade high := by
  refine Scalar.thousandths_mono ?_
  have positive := span.extent_pos
  gcongr

/-- Where rounding hardly moves the least height, the heights within stay on the scale. -/
theorem Steady.shade_mem {span : Span K} (steady : span.Steady)
    (range : span.range = span.greatest - span.least) {height : K} (holds : span.Holds height) :
    0 ≤ span.shade height ∧ span.shade height ≤ 1 := by
  obtain ⟨above, below⟩ := holds
  unfold Steady at steady
  have down := neg_abs_le (span.least - thousandths span.least)
  have up := le_abs_self (span.least - thousandths span.least)
  have wide : span.range ≤ span.extent := le_max_left _ _
  rw [shade_nonneg_iff, shade_le_one_iff]
  constructor <;> linarith

end Span

omit [IsStrictOrderedRing K] in
theorem heightColor_eq (faithful : functions.Faithful) (span : Span K) (height : K) :
    @heightColor K (Scalar.exact functions) height span.least span.range =
      ⟨0, span.shade height, 1⟩ := by
  unfold heightColor
  simp only [roundThousandths_eq faithful, Scalar.exact_greatest]
  norm_num [Span.shade, Span.extent]

namespace Drawing

omit [IsStrictOrderedRing K] in
theorem color_of_height (faithful : functions.Faithful) :
    letI := Scalar.exact functions
    ∀ {style : Style} {emissions : List (Emission K)} {on : Bool},
      Tool.Itinerary ⟨none, on⟩ emissions → style.mode = .height →
      ∀ path ∈ (ofEmissions style emissions).paths, path.on = true → ∀ dot ∈ path.dots,
        dot.color = ⟨0, (ofEmissions style emissions).box.z.shade dot.position.z, 1⟩ := by
  let _ := Scalar.exact functions
  intro style emissions on itinerary byHeight path member extruding dot inDots
  obtain ⟨number, -, dots⟩ := exists_of_mem_paths itinerary member
  obtain ⟨⟨vertex, place, rfl⟩, -⟩ := dots dot inDots
  have mode : (Palette.ofEmissions style emissions).mode = .height := byHeight
  show (Palette.ofEmissions style emissions).color path.on number place vertex = _
  unfold Palette.color
  rw [mode, extruding]
  exact heightColor_eq faithful _ vertex.position.z

/-- Only heights can leave the scale. -/
theorem isValid_of_others (faithful : functions.Faithful) :
    letI := Scalar.exact functions
    ∀ {style : Style} {emissions : List (Emission K)} {on : Bool},
      Tool.Itinerary ⟨none, on⟩ emissions → style.mode ≠ .manual →
      ∀ path ∈ (ofEmissions style emissions).paths, (style.mode = .height → path.on = false) →
        ∀ dot ∈ path.dots, dot.color.IsValid := by
  let _ := Scalar.exact functions
  intro style emissions on itinerary automatic path member travels dot inDots
  obtain ⟨number, below, dots⟩ := exists_of_mem_paths itinerary member
  obtain ⟨⟨vertex, place, rfl⟩, -⟩ := dots dot inDots
  have mode : (Palette.ofEmissions style emissions).mode = style.mode := rfl
  show ((Palette.ofEmissions style emissions).color path.on number place vertex).IsValid
  unfold Palette.color
  rw [mode]
  cases isOn : path.on with
  | false =>
    cases chosen : style.mode with
    | manual => exact absurd chosen automatic
    | height | sequence | waves => exact travelColor_isValid functions
  | true =>
    cases chosen : style.mode with
    | manual => exact absurd chosen automatic
    | height => cases isOn.symm.trans (travels chosen)
    | sequence => exact sequenceColor_isValid faithful below
    | waves => exact waveColor_isValid faithful _ _ _

/-- What a plot by the height looks like: which of its colors are valid, that the bottom of the box has
no green just if rounding hardly moves it, and that green goes up with the height. -/
structure Shaded (drawing : Drawing K) : Prop where
  isValid_iff : ∀ path ∈ drawing.paths, path.on = true → ∀ dot ∈ path.dots, dot.color.IsValid ↔
    -drawing.box.z.extent < 2000 * (dot.position.z - thousandths drawing.box.z.least) ∧
      2000 * (dot.position.z - thousandths drawing.box.z.least) < 2001 * drawing.box.z.extent
  bottom_iff : ∀ path ∈ drawing.paths, path.on = true → ∀ dot ∈ path.dots,
    dot.position.z = drawing.box.z.least → (dot.color.green = 0 ↔ drawing.box.z.Steady)
  rising : ∀ path ∈ drawing.paths, path.on = true → ∀ dot ∈ path.dots,
    ∀ other ∈ drawing.paths, other.on = true → ∀ higher ∈ other.dots,
      dot.position.z ≤ higher.position.z → dot.color.green ≤ higher.color.green

theorem shaded_of_color {drawing : Drawing K}
    (color : ∀ path ∈ drawing.paths, path.on = true → ∀ dot ∈ path.dots,
      dot.color = ⟨0, drawing.box.z.shade dot.position.z, 1⟩) : drawing.Shaded := by
  constructor
  · intro path member extruding dot inDots
    rw [color path member extruding dot inDots, ← Span.shade_nonneg_iff, ← Span.shade_le_one_iff]
    exact ⟨fun valid => valid.green, fun green => ⟨⟨le_rfl, zero_le_one⟩, green, zero_le_one, le_rfl⟩⟩
  · intro path member extruding dot inDots atBottom
    rw [color path member extruding dot inDots, atBottom]
    exact Span.shade_eq_zero_iff
  · intro path member extruding dot inDots other member' extruding' higher inDots' order
    rw [color path member extruding dot inDots, color other member' extruding' higher inDots']
    exact Span.shade_mono _ order

/-- The colors of every plot, but for those that the design chooses. A color is valid if it does not
hang on the height of its vertex; and if it does, as long as rounding hardly moves the least height. -/
theorem ofDesign_colors (faithful : functions.Faithful) :
    letI := Scalar.exact functions
    ∀ (style : Style) (commands : CommandTable) (initialization : Initialization K)
      (design : Design K) (plot : Transformed K (Drawing K)), style.mode ≠ .manual →
      ofDesign style commands initialization design = .ok plot →
      (∀ path ∈ plot.output.paths,
        (style.mode = .height → path.on = true → plot.output.box.z.Steady) →
        ∀ dot ∈ path.dots, dot.color.IsValid) ∧
      (style.mode = .height → plot.output.Shaded) := by
  let _ := Scalar.exact functions
  have _ : Scalar.Discerning K := Scalar.exact_discerning functions
  intro style commands initialization design plot automatic ok
  obtain ⟨run, walked, rfl⟩ := Motion.render_eq_ok.mp ok
  have itinerary := Motion.run_itinerary walked
  constructor
  · intro path member steady dot inDots
    by_cases shaded : style.mode = .height ∧ path.on = true
    · obtain ⟨byHeight, extruding⟩ := shaded
      have holds := (box_holds functions itinerary path member dot inDots).2.2
      rw [color_of_height faithful itinerary byHeight path member extruding dot inDots]
      have range := Box.around_range functions (Sketch.ofEmissions run.emissions).visited.reverse
      have green := (steady byHeight extruding).shade_mem range holds
      exact ⟨⟨le_rfl, zero_le_one⟩, green, zero_le_one, le_rfl⟩
    · refine isValid_of_others faithful itinerary automatic path member ?_ dot inDots
      intro byHeight
      exact Bool.eq_false_iff.mpr fun extruding => shaded ⟨byHeight, extruding⟩
  · intro byHeight
    exact shaded_of_color (color_of_height faithful itinerary byHeight)

/-- Rational arithmetic with rounding as it is documented. -/
def fractions : Scalar.Functions ℚ := { FeedAxis.fractions with round := fun v => Scalar.nearest v }

theorem fractions_faithful : fractions.Faithful := by
  refine ⟨fun _ => rfl, fun v => ?_, fun v => ?_⟩
  · show |(0 : ℚ)| ≤ 1
    norm_num
  · show |(1 : ℚ)| ≤ 1
    norm_num

/-- Two layers, and a travel above them. -/
def layers : List (Element ℚ) :=
  [.bead (.rectangle (1 / 2) (1 / 5)), .point { x := some 0, y := some 0, z := some (1 / 5) },
    .point { x := some 4, extrude := some true }, .point { z := some (2 / 5) }, .point { x := some 0 },
    .point { z := some (3 / 5), extrude := some false }]

theorem ofDesign_colors_layers :
    letI := Scalar.exact fractions
    ∃ plot : Transformed ℚ (Drawing ℚ),
      ofDesign {} .generic {} (Design.ofElements layers) = .ok plot ∧
      plot.output.paths.map (fun path => path.dots.map (·.color.green)) =
        [[0, 0, 1 / 2, 1 / 2], [1 / 2, 1 / 2]] ∧
      (∀ path ∈ plot.output.paths, ∀ dot ∈ path.dots, dot.color.IsValid) ∧ plot.output.Shaded := by
  let _ := Scalar.exact fractions
  have drawn : (Motion.run .generic {} (Design.ofElements layers)).toOption.map (fun run =>
      let drawing := Drawing.ofEmissions {} run.emissions
      (drawing.box.z.least, drawing.box.z.range,
        drawing.paths.map fun path => path.dots.map (·.color.green))) =
        some (1 / 5, 2 / 5, [[0, 0, 1 / 2, 1 / 2], [1 / 2, 1 / 2]]) := by
    decide +kernel
  obtain ⟨run, walked, seen⟩ := Motion.exists_run_of_map drawn
  obtain ⟨least, seen⟩ := Prod.mk.inj seen
  obtain ⟨range, greens⟩ := Prod.mk.inj seen
  have ok : ofDesign {} .generic {} (Design.ofElements layers) = .ok _ := Motion.render_of_ok walked
  obtain ⟨valid, shaded⟩ := ofDesign_colors fractions_faithful {} .generic {} _ _ (by decide) ok
  have steady : (ofEmissions {} run.emissions).box.z.Steady := by
    unfold Span.Steady Span.extent
    rw [least, range]
    decide +kernel
  exact ⟨_, ok, greens, fun path member => valid path member fun _ _ => steady, shaded rfl⟩

/-- A flat design between two thousandths of a millimeter. -/
def flat : List (Element ℚ) :=
  [.bead (.rectangle (1 / 2) (1 / 4)), .point { x := some 0, y := some 0, z := some (501 / 2000) },
    .point { x := some 10, extrude := some true }]

theorem flat_colors_leave_scale :
    ¬ ∀ functions : Scalar.Functions ℚ, functions.Faithful →
      letI := Scalar.exact functions
      ∀ (style : Style) (commands : CommandTable) (initialization : Initialization ℚ)
        (design : Design ℚ) (plot : Transformed ℚ (Drawing ℚ)), style.mode ≠ .manual →
        ofDesign style commands initialization design = .ok plot →
        (∀ path ∈ plot.output.paths, ∀ dot ∈ path.dots, dot.color.IsValid) ∧
        (style.mode = .height → ∀ path ∈ plot.output.paths, path.on = true → ∀ dot ∈ path.dots,
          dot.position.z = plot.output.box.z.least → dot.color.green = 0) := by
  intro whole
  let _ := Scalar.exact fractions
  have drawn : (Motion.run .generic {} (Design.ofElements flat)).toOption.map (fun run =>
      (Drawing.ofEmissions {} run.emissions).paths.all fun path =>
        path.dots.all fun dot => decide (0 ≤ dot.color.green)) = some false := by
    decide +kernel
  obtain ⟨run, walked, seen⟩ := Motion.exists_run_of_map drawn
  obtain ⟨valid, -⟩ := whole fractions fractions_faithful {} .generic {} _ _ (by decide)
    (Motion.render_of_ok walked)
  refine absurd (List.all_eq_true.mpr fun path member => ?_) (Bool.eq_false_iff.mp seen)
  refine List.all_eq_true.mpr fun dot inDots => decide_eq_true ?_
  exact (valid path member dot inDots).green.1

end Drawing

end Plot

end Toolpath
