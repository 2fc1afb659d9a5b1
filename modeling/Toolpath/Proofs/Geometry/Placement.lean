import Toolpath.Proofs.Geometry.Generator
import Toolpath.Proofs.Motion.Targets

/-!
What the walk makes of generated points. A point that is placed puts the tool where it says in X and Y,
wherever the tool was before; so the points of a generator are gone through as they are generated, but for the
start of a square wave that leaves an axis open.
-/

namespace Toolpath

variable {α : Type} [Scalar α]

namespace Tool

/-- A move to a point ends where the point puts the tool. -/
theorem target_of_reach? {tool : Tool α} {point : Point α} {leg : Leg α} (asked : tool.reach? point = some leg) :
    some leg.target = (tool.reach point).place := by
  unfold reach? at asked
  unfold reach
  split at asked
  · rename_i nowhere
    obtain rfl := Option.some.inj asked
    rw [nowhere]
    rfl
  · rename_i start placed
    rw [placed]
    split at asked
    · cases asked
    · split at asked <;> obtain rfl := Option.some.inj asked <;> rfl

end Tool

namespace Motion

variable {commands : CommandTable} {machine : Machine α}

/-- A point that is placed puts the tool there, from anywhere, and a move it makes ends there. -/
theorem step_placed {p : Point α} {number : Nat} {run : Run α}
    (ok : step commands machine (.point p, number) = .ok run) (placed : p.IsPlaced) :
    ∃ place, run.machine.position = some place ∧ p.x = some place.x ∧ p.y = some place.y ∧
      ∀ move ∈ moves run.emissions, move.target = place := by
  obtain ⟨visited, made⟩ := step_leg ok
  obtain ⟨setX, setY⟩ := placed
  obtain ⟨x, atX⟩ := Option.isSome_iff_exists.mp setX
  obtain ⟨y, atY⟩ := Option.isSome_iff_exists.mp setY
  have here : run.machine.position = some (p.resolve (machine.position.getD .origin)) :=
    congrArg Tool.place visited
  refine ⟨_, here, ?_, ?_, fun move member => ?_⟩
  · rw [atX, Point.resolve, atX, Option.getD_some]
  · rw [atY, Point.resolve, atY, Option.getD_some]
  · have made : List.Forall₂ Leg.IsMadeBy ((machine.tool.switched (.point p)).reach? p).toList
        (moves run.emissions) := made
    generalize moves run.emissions = told at made member
    cases asked : (machine.tool.switched (.point p)).reach? p with
    | none =>
      rw [asked] at made
      cases made
      exact absurd member List.not_mem_nil
    | some leg =>
      rw [asked] at made
      cases made with
      | cons isMade rest =>
        cases rest
        obtain rfl := List.mem_singleton.mp member
        rw [isMade.target_eq]
        exact Option.some.inj (Tool.target_of_reach? asked)

/-- A walk comes to each of some points, and puts the tool where it is placed. -/
theorem walk_points {front back : List (Point α)} {p : Point α} {number : Nat} {run : Run α}
    (ok : walk commands machine (((front ++ p :: back).map Element.point).zipIdx number) = .ok run)
    (placed : p.IsPlaced) :
    ∃ earlier here place, walk commands machine ((front.map Element.point).zipIdx number) = .ok earlier ∧
      step commands earlier.machine (.point p, number + front.length) = .ok here ∧
      here.machine.position = some place ∧ p.x = some place.x ∧ p.y = some place.y ∧
      ∀ move ∈ moves here.emissions, move.target = place := by
  rw [List.map_append, List.map_cons, List.zipIdx_append, List.zipIdx_cons, List.length_map] at ok
  obtain ⟨earlier, later, atEarlier, atLater, -⟩ := walk_append_eq_ok.mp ok
  obtain ⟨here, rest, atHere, -, -⟩ := walk_cons_eq_ok.mp atLater
  obtain ⟨place, atPlace⟩ := step_placed atHere placed
  exact ⟨earlier, here, place, atEarlier, atHere, atPlace⟩

end Motion

namespace Geometry

/-- A generator that accepts its parameters places every point it makes, whatever axes its start leaves open,
and open axes in X and Y count as zero; all its points are placed just if the start is, where that is given
back. A walk over the points puts the tool at each that is placed, from wherever it was, and a move it makes
for it ends there. -/
theorem Generator.points_place {generator : Generator α} {start : Point α} {points : List (Point α)}
    (ok : generator.points start = .ok points) :
    (∀ p ∈ points.drop generator.copied, p.IsPlaced) ∧
      ((∀ p ∈ points, p.IsPlaced) ↔ generator.copied = 0 ∨ start.IsPlaced) ∧
      generator.points start.grounded =
        .ok (List.replicate generator.copied start.grounded ++ points.drop generator.copied) ∧
      ∀ (commands : CommandTable) (machine : Machine α) (number : Nat) (run : Run α),
        Motion.walk commands machine ((points.map Element.point).zipIdx number) = .ok run →
        ∀ front p back, points = front ++ p :: back → p.IsPlaced →
          ∃ earlier here place,
            Motion.walk commands machine ((front.map Element.point).zipIdx number) = .ok earlier ∧
            Motion.step commands earlier.machine (.point p, number + front.length) = .ok here ∧
            here.machine.position = some place ∧ p.x = some place.x ∧ p.y = some place.y ∧
            ∀ move ∈ Motion.moves here.emissions, move.target = place := by
  refine ⟨(points_split ok).2, forall_isPlaced_iff ok, points_grounded ok, ?_⟩
  rintro commands machine number run walked front p back rfl placed
  exact Motion.walk_points walked placed

/-- A rectangle from a start with an open axis, gone through from somewhere else. -/
theorem Generator.points_place_rectangle :
    let generator : Generator Float := .rectangle 20 10 false
    let start : Point Float := { y := some 2 }
    let machine : Machine Float := { Machine.initial with position := some ⟨10, 10, 5⟩ }
    ∃ points run, generator.points start = .ok points ∧ (∀ p ∈ points, p.IsPlaced) ∧
      Motion.walk .generic machine ((points.map Element.point).zipIdx 0) = .ok run ∧
      (Motion.moves run.emissions).map (·.target) =
        [⟨0, 2, 5⟩, ⟨20, 2, 5⟩, ⟨20, 12, 5⟩, ⟨0, 12, 5⟩, ⟨0, 2, 5⟩] := by
  intro generator start machine
  have ok : generator.points start = .ok (corners start 20 10 false) :=
    rectangle_ok_iff.mpr ⟨by decide, rfl⟩
  have walked : (Motion.walk .generic machine
      (((corners start 20 10 false).map Element.point).zipIdx 0)).toOption.map
        (fun run => (Motion.moves run.emissions).map (·.target)) =
          some [⟨0, 2, 5⟩, ⟨20, 2, 5⟩, ⟨20, 12, 5⟩, ⟨0, 12, 5⟩, ⟨0, 2, 5⟩] := by
    decide +kernel
  obtain ⟨run, atRun, targets⟩ := Motion.exists_run_of_map walked
  obtain ⟨-, placed, -⟩ := points_place ok
  exact ⟨_, run, ok, placed.mpr (.inl rfl), atRun, targets⟩

/-- The start of a square wave can be left where the tool is. -/
theorem start_can_stay_open : ¬ ∀ (generator : Generator Float) (start : Point Float) (points : List (Point Float)),
    generator.points start = .ok points → ∀ p ∈ points, p.IsPlaced := by
  intro whole
  have ok : (Generator.squareWave (α := Float) 0 5 1 1 false false).points {} = .ok _ :=
    squareWave_ok_iff.mpr ⟨by decide, by decide, rfl⟩
  obtain ⟨placed, -⟩ := whole _ _ _ ok {} List.mem_cons_self
  cases placed

end Geometry

end Toolpath
