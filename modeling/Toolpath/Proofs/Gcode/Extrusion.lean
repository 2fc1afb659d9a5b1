import Toolpath.Proofs.Gcode.Told
import Toolpath.Proofs.Motion.Total

/-!
What becomes of the feeds that a walk issues. A feed on the spot is always written, and so is the feed
of a move, but with the move: a move that has no axis to write is left out, and what it was to feed is
left out with it. An absolute axis catches up with the next word for it, a relative one never does.
-/

namespace Toolpath.Gcode

open Machine (Course Change)

namespace Page

/-- What is issued has a line with its word, but for a move whose target has the texts of the target
before it: that one has no line at all. -/
def Issues (told : List (Emission Float × Option String)) : Prop :=
  ∀ before emission line after, told = before ++ (emission, line) :: after →
    (∀ feed speed, emission.action = .extruded feed speed →
      ∃ text ∈ line, feedWord? text = some (valueText feed)) ∧
    ∀ move, emission.action = .move move → move.kind.isPrint = true →
      ∃ feed, move.feed = some feed ∧
        if (Motion.moves (before.map Prod.fst)).getLast?.map (Axes.ofPosition ·.target) =
            some (.ofPosition move.target) then line = none
        else ∃ text ∈ line, feedWord? text = some (valueText feed)

/-- The words for the extruder axis in the lines of moves and feeds, in order. -/
def feedWords (told : List (Emission Float × Option String)) : List String :=
  told.filterMap fun entry => entry.2.bind feedWord?

/-- Something is issued, and no mode is announced. -/
structure Feeding (stretch : List (Emission Float × Option String)) : Prop where
  unannounced : ∀ entry ∈ stretch, entry.1.action.isAnnouncement = false
  issued : ∃ entry ∈ stretch, entry.1.action.issued?.isSome = true

/-- Every issue that has no line is made up for by a later word. -/
def MadeUp (stretch : List (Emission Float × Option String)) : Prop :=
  ∀ before entry after, stretch = before ++ entry :: after →
    entry.1.action.issued?.isSome = true → entry.2 = none →
    ∃ later ∈ after, (later.2.bind feedWord?).isSome = true

/-- If something is issued since a mode was announced, and all that has no line is made up for, then
the last word is the text of a total. -/
def Totals (told : List (Emission Float × Option String)) (total : Float) : Prop :=
  ∀ reset stretch, told = reset ++ stretch → Feeding stretch → MadeUp stretch →
    (feedWords told).getLast? = some (valueText total)

theorem word_of_issued {page : Page} {emissions : List (Emission Float)}
    {entry : Emission Float × Option String} (member : entry ∈ page.told emissions)
    (issued : entry.1.action.issued?.isSome = true) :
    entry.2 = none ∨ (entry.2.bind feedWord?).isSome = true := by
  obtain ⟨before, after, cut⟩ := List.append_of_mem member
  obtain ⟨⟨action, machine⟩, line⟩ := entry
  obtain ⟨-, rfl⟩ := told_split cut
  cases action with
  | move move =>
    rw [line?_move]
    cases written : moveLine? (page.behind (before.map Prod.fst)).axes move with
    | none => exact .inl rfl
    | some line =>
      have feeds : move.feed.isSome = true := by
        simp only [Action.issued?] at issued
        split at issued
        · exact issued
        · cases issued
      refine .inr ?_
      rw [Option.bind_some, feedWord?_moveLine written, Option.isSome_map]
      exact feeds
  | extruded feed speed =>
    rw [line?_extruded, Option.bind_some, feedWord?_extruded]
    exact .inr rfl
  | toggled | announced | instruction | comment | fan | hotend | bed | marker => cases issued

theorem issues_told {made : Element Float → Prop} {machine last : Machine Float}
    {emissions : List (Emission Float)} (course : Course made machine emissions last) :
    Issues (({} : Page).told emissions) := by
  intro before emission line after split
  obtain ⟨atEmissions, rfl⟩ := told_split split
  obtain ⟨middle, element, -, -, change, -⟩ := (atEmissions ▸ course).split
  constructor
  · intro feed speed onSpot
    rw [onSpot, line?_extruded]
    exact ⟨_, rfl, feedWord?_extruded feed speed⟩
  · intro move isMove extruding
    rw [isMove] at change ⊢
    obtain ⟨feed, onMove⟩ := change.issued_of_isPrint extruding
    refine ⟨feed, onMove, ?_⟩
    have notOrigin : move.kind.isOrigin = false := by
      cases kind : move.kind with
      | origin | travel => rw [kind] at extruding; cases extruding
      | print => rfl
    have known := ({} : Page).axes_behind (before.map Prod.fst)
    rw [line?_move]
    split
    · rename_i same
      rw [same] at known
      exact moveLine?_eq_none.mpr ⟨notOrigin, known⟩
    · rename_i differs
      cases written : moveLine? (({} : Page).behind (before.map Prod.fst)).axes move with
      | some text =>
        refine ⟨text, rfl, ?_⟩
        rw [feedWord?_moveLine written, onMove]
        rfl
      | none =>
        have same := (moveLine?_eq_none.mp written).2
        rw [known] at same
        cases atLast : (Motion.moves (before.map Prod.fst)).getLast? with
        | none =>
          rw [atLast] at same
          cases same
        | some previous =>
          rw [atLast] at same differs
          exact absurd (congrArg some same) differs

/-- The last entry of a list for which a property holds. -/
theorem exists_last {β : Type} {holds : β → Bool} {list : List β}
    (some : ∃ entry ∈ list, holds entry = true) :
    ∃ before entry after, list = before ++ entry :: after ∧ holds entry = true ∧
      ∀ later ∈ after, holds later = false := by
  induction list using List.reverseRecOn with
  | nil =>
    obtain ⟨_, member, _⟩ := some
    cases member
  | append_singleton front final ih =>
    cases atFinal : holds final with
    | true => exact ⟨front, final, [], rfl, atFinal, fun _ member => nomatch member⟩
    | false =>
      obtain ⟨entry, member, holdsEntry⟩ := some
      have inFront : entry ∈ front := by
        rcases List.mem_append.mp member with early | final
        · exact early
        · obtain rfl := List.mem_singleton.mp final
          rw [atFinal] at holdsEntry
          cases holdsEntry
      obtain ⟨before, found, after, rfl, holdsFound, none⟩ := ih ⟨entry, inFront, holdsEntry⟩
      refine ⟨before, found, after ++ [final], by simp, holdsFound, ?_⟩
      intro later member
      rcases List.mem_append.mp member with early | final
      · exact none later early
      · obtain rfl := List.mem_singleton.mp final
        exact atFinal

/-- Where every issue without a line is made up for, nothing is issued behind the last word. -/
theorem exists_last_word {page : Page} {emissions : List (Emission Float)}
    {reset stretch : List (Emission Float × Option String)}
    (split : page.told emissions = reset ++ stretch) (feeding : Feeding stretch)
    (madeUp : MadeUp stretch) :
    ∃ before entry after, stretch = before ++ entry :: after ∧
      (entry.2.bind feedWord?).isSome = true ∧
      ∀ later ∈ after, later.1.action.issued? = none ∧ later.2.bind feedWord? = none := by
  have inTold (entry : Emission Float × Option String) (member : entry ∈ stretch) :
      entry ∈ page.told emissions := split ▸ List.mem_append_right _ member
  have worded : ∃ entry ∈ stretch, (entry.2.bind feedWord?).isSome = true := by
    obtain ⟨entry, member, issuedHere⟩ := feeding.issued
    rcases word_of_issued (inTold entry member) issuedHere with none | word
    · obtain ⟨before, after, cut⟩ := List.append_of_mem member
      obtain ⟨later, inAfter, word⟩ := madeUp before entry after cut issuedHere none
      exact ⟨later, cut ▸ List.mem_append_right _ (List.mem_cons_of_mem _ inAfter), word⟩
    · exact ⟨entry, member, word⟩
  obtain ⟨before, entry, after, cut, word, wordless⟩ := exists_last worded
  refine ⟨before, entry, after, cut, word, ?_⟩
  intro later member
  refine ⟨?_, Option.not_isSome_iff_eq_none.mp (Bool.not_eq_true _ ▸ wordless later member)⟩
  -- An issue here would have a word, or be made up for by one.
  refine Option.not_isSome_iff_eq_none.mp fun issuedLater => ?_
  obtain ⟨front, back, cutAfter⟩ := List.append_of_mem member
  have cutLater : stretch = (before ++ entry :: front) ++ later :: back := by
    rw [cut, cutAfter, List.append_assoc]
    rfl
  have inStretch : later ∈ stretch := cutLater ▸ List.mem_append_right _ List.mem_cons_self
  rcases word_of_issued (inTold later inStretch) issuedLater with none | word
  · obtain ⟨other, inBack, word⟩ := madeUp _ later back cutLater issuedLater none
    have inAfter : other ∈ after := cutAfter ▸ List.mem_append_right _ (List.mem_cons_of_mem _ inBack)
    exact Bool.false_ne_true ((wordless other inAfter).symm.trans word)
  · exact Bool.false_ne_true ((wordless later member).symm.trans word)

/-- On an absolute axis a word is the text of the total, as long as nothing more is issued. -/
theorem word_eq_total {made : Element Float → Prop} {machine last : Machine Float}
    {emissions : List (Emission Float)} (course : Course made machine emissions last)
    (settled : machine.extruder.Settled) (absolute : last.extruder.relative = false)
    {before after : List (Emission Float × Option String)} {emission : Emission Float}
    {text word : String} {page : Page}
    (split : page.told emissions = before ++ (emission, some text) :: after)
    (read : feedWord? text = some word)
    (nothing : ∀ later ∈ after, later.1.action.issued? = none)
    (unannounced : ∀ later ∈ after, later.1.action.isAnnouncement = false) :
    word = valueText last.extruder.total := by
  obtain ⟨atEmissions, added⟩ := told_split split
  obtain ⟨middle, element, first, -, change, later⟩ := (atEmissions ▸ course).split
  have holds := later.holds (change.settled (first.settled settled))
    (List.forall_mem_map.mpr nothing) (List.forall_mem_map.mpr unannounced)
  obtain ⟨feed, rfl, written⟩ := feedWord?_line? added.symm read
  rw [change.written_eq_total (holds.relative.symm.trans absolute) written, holds.total]

theorem totals_told {made : Element Float → Prop} {machine last : Machine Float}
    {emissions : List (Emission Float)} (course : Course made machine emissions last)
    (settled : machine.extruder.Settled) (absolute : last.extruder.relative = false) :
    Totals (({} : Page).told emissions) last.extruder.total := by
  intro reset stretch split feeding madeUp
  obtain ⟨before, ⟨emission, line⟩, after, cut, hasWord, behind⟩ :=
    exists_last_word split feeding madeUp
  obtain ⟨word, atLine⟩ := Option.isSome_iff_exists.mp hasWord
  obtain ⟨text, rfl, read⟩ := Option.bind_eq_some_iff.mp atLine
  have atTold : ({} : Page).told emissions =
      (reset ++ before) ++ (emission, some text) :: after := by
    rw [split, cut, List.append_assoc]
  have total := word_eq_total course settled absolute atTold read
    (fun later member => (behind later member).1)
    (fun later member => feeding.unannounced later
      (cut ▸ List.mem_append_right _ (List.mem_cons_of_mem _ member)))
  have wordless : feedWords after = [] :=
    List.filterMap_eq_nil_iff.mpr fun later member => (behind later member).2
  have atEnd : feedWords ((emission, some text) :: after) = [word] := by
    unfold feedWords at wordless ⊢
    rw [List.filterMap_cons, wordless]
    simp only [atLine]
  have all : feedWords ((reset ++ before) ++ (emission, some text) :: after) =
      feedWords (reset ++ before) ++ [word] := atEnd ▸ List.filterMap_append
  rw [atTold, all, List.getLast?_concat, total]

end Page

/-- What becomes of the feeds of a walk that ends without a fault. Every feed on the spot has a line
with its word, and so has every move that extrudes, but for one whose target has the texts of the
target before it; that one has no line. Wherever the elements are cut in two with the axis absolute
and something issued since it was announced, the last word is the text of the total, if every issue
without a line is made up for by a later word. -/
theorem ofDesign_feeds {commands : CommandTable} {initialization : Initialization Float}
    {design : Design Float} {run : Run Float}
    (ok : Motion.run commands initialization design = .ok run) :
    ofDesign commands initialization design =
        .ok ⟨"\n".intercalate (Page.ofEmissions run.emissions).lines.reverse, run.diagnostics⟩ ∧
      (({} : Page).told run.emissions).map Prod.fst = run.emissions ∧
      Page.Issues (({} : Page).told run.emissions) ∧
      (Page.ofEmissions run.emissions).IsMadeOf run.emissions ∧
      ∀ before after, Motion.script initialization (Design.flatten design) = before ++ after →
        ∃ earlier later, Motion.walk commands .initial before = .ok earlier ∧
          Motion.walk commands earlier.machine after = .ok later ∧
          run.emissions = earlier.emissions ++ later.emissions ∧
          (earlier.machine.extruder.relative = false →
            Page.Totals (({} : Page).told earlier.emissions) earlier.machine.extruder.total) := by
  obtain ⟨walked, onScript, rfl⟩ := Motion.runElements_eq_ok.mp ok
  have issues := Page.issues_told (Motion.walk_course onScript)
  refine ⟨Motion.render_of_ok ok, Page.map_fst_told _ _, issues, Page.isMadeOf_ofEmissions _, ?_⟩
  intro before after cut
  rw [cut] at onScript
  obtain ⟨earlier, later, atEarlier, atLater, rfl⟩ := Motion.walk_append_eq_ok.mp onScript
  refine ⟨earlier, later, atEarlier, atLater, rfl, ?_⟩
  have unannounced : (Machine.initial : Machine Float).extruder.Settled := by
    intro relative said
    cases said
  exact Page.totals_told (Motion.walk_course atEarlier) unannounced

/-- A bead so wide that a move below the last digit of an axis issues a feed above it. -/
def flooding (relative : Bool) : List (Element Float) :=
  [.extruder { relative := some relative, feedUnit := some .volume }, .bead (.rectangle 1000.0 1000.0),
    .point { x := some 0.0, y := some 0.0, z := some 0.0 }, .event (.toggle true),
    .point { x := some 0.0000001 }]

/-- Not everything that is issued is written. On a relative axis a feed that is not zero may have no
line with its word on the whole page, and on an absolute one the last word may not be the text of the
total although something is issued. -/
theorem not_every_feed_is_written :
    (∃ run, Motion.run .generic {} (Design.ofElements (flooding true)) = .ok run ∧
      ¬ ∀ emission ∈ run.emissions, emission.machine.extruder.relative = true →
        ∀ feed ∈ emission.action.issued?, valueText feed ≠ "0" →
          ∃ line ∈ (Page.ofEmissions run.emissions).lines,
            feedWord? line = some (valueText feed)) ∧
    ∃ run, Motion.run .generic {} (Design.ofElements (flooding false)) = .ok run ∧
      run.machine.extruder.relative = false ∧
      ¬ ∀ reset stretch, ({} : Page).told run.emissions = reset ++ stretch → Page.Feeding stretch →
        (Page.feedWords (({} : Page).told run.emissions)).getLast? =
          some (valueText run.machine.extruder.total) := by
  constructor
  · have walked : (Motion.run .generic {} (Design.ofElements (flooding true))).toOption.map
        (fun run => (run.emissions.filterMap fun emission => emission.action.issued?.map fun feed =>
            (emission.machine.extruder.relative, valueText feed),
          (Page.ofEmissions run.emissions).lines.map feedWord?)) =
          some ([(true, "0.1")], [none, none]) := by
      decide +kernel
    obtain ⟨run, ok, seen⟩ := Motion.exists_run_of_map walked
    obtain ⟨issued, words⟩ := Prod.mk.inj seen
    refine ⟨run, ok, fun delivered => ?_⟩
    obtain ⟨emission, member, shown⟩ :=
      List.mem_filterMap.mp (issued ▸ List.mem_singleton.mpr rfl : (true, "0.1") ∈ _)
    obtain ⟨feed, atFeed, same⟩ := Option.map_eq_some_iff.mp shown
    obtain ⟨relative, text⟩ := Prod.mk.inj same
    obtain ⟨line, onPage, word⟩ := delivered emission member relative feed atFeed (by rw [text]; decide)
    have wordless : feedWord? line ∈ [none, none] := words ▸ List.mem_map_of_mem onPage
    rw [word] at wordless
    simp at wordless
  · have walked : (Motion.run .generic {} (Design.ofElements (flooding false))).toOption.map
        (fun run => (run.machine.extruder.relative,
          ((({} : Page).told run.emissions).tail.all fun entry => !entry.1.action.isAnnouncement),
          ((({} : Page).told run.emissions).tail.any fun entry => entry.1.action.issued?.isSome),
          Page.feedWords (({} : Page).told run.emissions))) =
          some (false, true, true, []) := by
      decide +kernel
    obtain ⟨run, ok, seen⟩ := Motion.exists_run_of_map walked
    simp only [Prod.mk.injEq] at seen
    obtain ⟨relative, unannounced, issued, words⟩ := seen
    refine ⟨run, ok, relative, fun caught => ?_⟩
    have cut : ({} : Page).told run.emissions =
        (({} : Page).told run.emissions).take 1 ++ (({} : Page).told run.emissions).tail := by
      rw [← List.drop_one, List.take_append_drop]
    have last := caught _ _ cut ⟨by simpa using unannounced, by simpa using issued⟩
    rw [words] at last
    cases last

/-- A drift that is written with the move behind it, a feed on the spot, and a drift on a relative
axis. -/
def catchingUp : List (Element Float) :=
  flooding false ++ [.point { x := some 0.5 }, .event (.extrude 2.0 300.0),
    .extruder { relative := some true }, .point { x := some 0.5000001 }, .point { y := some 1.0 }]

theorem ofDesign_feeds_catchingUp :
    ∃ run, Motion.run .generic {} (Design.ofElements catchingUp) = .ok run ∧
      ofDesign .generic {} (Design.ofElements catchingUp) = .ok ⟨"M82\nG92 E0\nG1 X0 Y0 Z0 F8000\n" ++
        "G1 X0.5 E500000 F1000\nG1 E500002 F300\nM83\nG1 Y1 E1000000 F1000", []⟩ ∧
      Page.Issues (({} : Page).told run.emissions) ∧
      (Page.ofEmissions run.emissions).IsMadeOf run.emissions ∧
      Page.feedWords (({} : Page).told run.emissions) = ["500000", "500002", "1000000"] := by
  have walked : (Motion.run .generic {} (Design.ofElements catchingUp)).toOption.map (fun run =>
      (Page.feedWords (({} : Page).told run.emissions), (Page.ofEmissions run.emissions).lines.reverse,
        run.diagnostics)) =
      some (["500000", "500002", "1000000"],
        ["M82", "G92 E0", "G1 X0 Y0 Z0 F8000", "G1 X0.5 E500000 F1000", "G1 E500002 F300", "M83",
          "G1 Y1 E1000000 F1000"], []) := by
    decide +kernel
  obtain ⟨run, ok, seen⟩ := Motion.exists_run_of_map walked
  simp only [Prod.mk.injEq] at seen
  obtain ⟨words, lines, silent⟩ := seen
  obtain ⟨text, -, issues, made, -⟩ := ofDesign_feeds ok
  refine ⟨run, ok, ?_, issues, made, words⟩
  rw [text, lines, silent]
  rfl

end Toolpath.Gcode
