import Toolpath.Proofs.Motion.Itinerary
import Toolpath.Proofs.Scalar.Exact
import Toolpath.Plot.Drawing

/-!
What is drawn lies where the tool has been, so the box around its places is one around the whole plot.
The paths that are left out count for the box as well as those that are drawn.
-/

namespace Toolpath.Plot

variable {α : Type} [Scalar α]

namespace Sketch

/-- Every vertex that is drawn is a place that was gone to, and so is the place of the tool, but for the
signs of zeros. -/
structure Covered (sketch : Sketch α) (tool : Tool α) : Prop where
  drawn : ∀ trail ∈ sketch.trails, ∀ vertex ∈ trail.vertices,
    ∃ place ∈ sketch.visited, place.Alike vertex.position
  here : ∀ position ∈ tool.place, ∃ place ∈ sketch.visited, place.Alike position

variable {sketch : Sketch α} {tool : Tool α}

theorem covered_empty (on : Bool) : ({} : Sketch α).Covered ⟨none, on⟩ :=
  ⟨fun _ member => (nomatch member), fun _ member => (nomatch member)⟩

theorem Covered.of_alike {after : Tool α} (covered : sketch.Covered tool) (alike : tool.Alike after) :
    sketch.Covered after := by
  obtain ⟨place, on⟩ := tool
  obtain ⟨moved, turned⟩ := after
  obtain ⟨places, -⟩ := alike
  refine ⟨covered.drawn, fun position isHere => ?_⟩
  cases places with
  | none => cases isHere
  | some near =>
    obtain rfl := Option.some.inj isHere
    obtain ⟨seen, member, same⟩ := covered.here _ rfl
    exact ⟨seen, member, same.trans near⟩

theorem mem_start {machine : Machine α} {vertex : Vertex α}
    (member : vertex ∈ (Trail.start machine).vertices) : vertex.position ∈ machine.position := by
  obtain ⟨place, isHere, rfl⟩ := Option.map_eq_some_iff.mp (Option.mem_toList.mp member)
  exact isHere

theorem Covered.branch {machine : Machine α} (covered : sketch.Covered machine.tool) :
    (sketch.branch machine).Covered machine.tool := by
  refine ⟨?_, covered.here⟩
  intro trail inTrails vertex member
  rcases List.mem_cons.mp inTrails with rfl | earlier
  · exact covered.here _ (mem_start member)
  · exact covered.drawn trail earlier vertex member

theorem Covered.visit (covered : sketch.Covered tool) {machine : Machine α} {target : Position α}
    (placed : machine.position = some target) : (sketch.visit target machine).Covered machine.tool := by
  have atTarget {position : Position α} (isHere : position ∈ machine.position) :
      ∃ place ∈ target :: sketch.visited, place.Alike position := by
    obtain rfl := Option.some.inj (placed.symm.trans isHere)
    exact ⟨target, List.mem_cons_self, .refl target⟩
  have wider {position : Position α} (seen : ∃ place ∈ sketch.visited, place.Alike position) :
      ∃ place ∈ target :: sketch.visited, place.Alike position := by
    obtain ⟨place, member, same⟩ := seen
    exact ⟨place, List.mem_cons_of_mem _ member, same⟩
  unfold Sketch.visit
  split
  · rename_i empty
    refine ⟨?_, fun position isHere => atTarget isHere⟩
    intro trail inTrails vertex member
    rcases List.mem_cons.mp inTrails with rfl | earlier
    · exact atTarget (mem_start member)
    · exact wider (covered.drawn trail earlier vertex member)
  · rename_i last others trails
    refine ⟨?_, fun position isHere => atTarget isHere⟩
    intro trail inTrails vertex member
    rcases List.mem_cons.mp inTrails with rfl | earlier
    · rcases List.mem_cons.mp member with rfl | drawn
      · exact ⟨target, List.mem_cons_self, .refl target⟩
      · exact wider (covered.drawn last (trails ▸ List.mem_cons_self) vertex drawn)
    · exact wider (covered.drawn trail (trails ▸ List.mem_cons_of_mem _ earlier) vertex member)

/-- What is drawn stays covered by an emission that fits the tool. -/
theorem Covered.take (covered : sketch.Covered tool) {emission : Emission α}
    (fits : tool.Fits emission.machine emission.action) :
    (sketch.take emission).Covered emission.machine.tool := by
  obtain ⟨action, machine⟩ := emission
  cases fits with
  | origin _ _ _ after => exact covered.visit (congrArg Tool.place after)
  | moved _ _ _ _ after => exact covered.visit (congrArg Tool.place after)
  | @toggled on _ after =>
    have turned : sketch.Covered { tool with on } := ⟨covered.drawn, covered.here⟩
    show (if machine.position.isSome then sketch.branch machine else sketch).Covered _
    split
    · exact (turned.of_alike after).branch
    · exact turned.of_alike after
  | still isStill after =>
    have moved := covered.of_alike after
    cases action with
    | move | toggled => cases isStill
    | marker => exact ⟨moved.drawn, moved.here⟩
    | announced | extruded | instruction | comment | fan | hotend | bed => exact moved

theorem Covered.fold (covered : sketch.Covered tool) {emissions : List (Emission α)}
    (itinerary : tool.Itinerary emissions) :
    ∃ last, (emissions.foldl Sketch.take sketch).Covered last := by
  induction itinerary generalizing sketch with
  | done => exact ⟨_, covered⟩
  | next fits _ ih => exact ih (covered.take fits)

theorem ofEmissions_covered {emissions : List (Emission α)} {on : Bool}
    (itinerary : Tool.Itinerary ⟨none, on⟩ emissions) :
    ∀ trail ∈ (ofEmissions emissions).trails, ∀ vertex ∈ trail.vertices,
      ∃ place ∈ (ofEmissions emissions).visited, place.Alike vertex.position := by
  obtain ⟨last, covered⟩ := (covered_empty on).fold itinerary
  exact covered.drawn

omit [Scalar α] in
/-- A path that is kept has the vertices of a trail. -/
theorem exists_of_mem_kept {hideTravel : Bool} {trail : Trail α}
    (member : trail ∈ sketch.kept hideTravel) : ∃ original ∈ sketch.trails,
      trail.on = original.on ∧ ∀ vertex ∈ trail.vertices, vertex ∈ original.vertices := by
  obtain ⟨original, inTrails, rfl⟩ := List.mem_map.mp (List.mem_filter.mp member).1
  exact ⟨original, List.mem_reverse.mp inTrails, rfl, fun vertex => List.mem_reverse.mp⟩

end Sketch

/-- The paths that are painted are the trails, numbered from some place on. -/
theorem Palette.exists_of_mem_paint {palette : Palette α} {path place : Nat} {trails : List (Trail α)}
    {painted : Path α} (member : painted ∈ palette.paint path place trails) :
    ∃ trail ∈ trails, ∃ number < path + trails.length, painted.on = trail.on ∧
      ∀ dot ∈ painted.dots, ∃ vertex ∈ trail.vertices, ∃ place,
        dot = palette.dot trail.on number place vertex := by
  induction trails generalizing path place with
  | nil => cases member
  | cons trail rest ih =>
    rcases List.mem_cons.mp member with rfl | later
    · refine ⟨trail, List.mem_cons_self, path, by simp, rfl, ?_⟩
      intro dot inDots
      obtain ⟨numbered, inVertices, rfl⟩ := List.mem_map.mp inDots
      exact ⟨numbered.1, List.fst_mem_of_mem_zipIdx inVertices, numbered.2, rfl⟩
    · obtain ⟨other, inRest, number, below, on, dots⟩ := ih later
      refine ⟨other, List.mem_cons_of_mem _ inRest, number, ?_, on, dots⟩
      rw [List.length_cons]
      omega

/-- What the colors of a plot may depend on. -/
def Palette.ofEmissions (style : Style) (emissions : List (Emission α)) : Palette α :=
  let sketch := Sketch.ofEmissions emissions
  let kept := sketch.kept style.hideTravel
  ⟨style.mode, sketch.box, kept.length,
    kept.foldl (fun count trail => count + trail.vertices.length) 0⟩

/-- Every dot is drawn where the tool has been, in the color that its path and its place have. -/
theorem Drawing.exists_of_mem_paths {style : Style} {emissions : List (Emission α)} {on : Bool}
    (itinerary : Tool.Itinerary ⟨none, on⟩ emissions) {path : Path α}
    (member : path ∈ (Drawing.ofEmissions style emissions).paths) :
    ∃ number < (Palette.ofEmissions style emissions).pathCount, ∀ dot ∈ path.dots,
      (∃ vertex place, dot = (Palette.ofEmissions style emissions).dot path.on number place vertex) ∧
      ∃ place ∈ (Sketch.ofEmissions emissions).visited, place.Alike dot.position := by
  obtain ⟨trail, inKept, number, below, sameOn, dots⟩ := Palette.exists_of_mem_paint member
  obtain ⟨original, inTrails, -, vertices⟩ := Sketch.exists_of_mem_kept inKept
  rw [Nat.zero_add] at below
  refine ⟨number, below, fun dot inDots => ?_⟩
  obtain ⟨vertex, inVertices, place, rfl⟩ := dots dot inDots
  exact ⟨⟨vertex, place, sameOn ▸ rfl⟩,
    Sketch.ofEmissions_covered itinerary original inTrails vertex (vertices vertex inVertices)⟩

theorem foldl_relates {β : Type} {relates : β → β → Prop} {choose : β → β → β}
    (refl : ∀ a, relates a a) (trans : ∀ {a b c}, relates a b → relates b c → relates a c)
    (left : ∀ a b, relates (choose a b) a) (right : ∀ a b, relates (choose a b) b) (first : β)
    (rest : List β) : ∀ v ∈ first :: rest, relates (rest.foldl choose first) v := by
  induction rest generalizing first with
  | nil =>
    intro v member
    obtain rfl := List.mem_singleton.mp member
    exact refl v
  | cons next rest ih =>
    obtain ⟨chosen, later⟩ := List.forall_mem_cons.mp (ih (choose first next))
    exact List.forall_mem_cons.mpr ⟨trans chosen (left first next),
      List.forall_mem_cons.mpr ⟨trans chosen (right first next), later⟩⟩

variable {K : Type} [Field K] [LinearOrder K]

/-- A number within an extent. -/
def Span.Holds (span : Span K) (v : K) : Prop := span.least ≤ v ∧ v ≤ span.greatest

theorem Span.around_holds (functions : Scalar.Functions K) {first : K} {rest : List K} {v : K}
    (member : v ∈ first :: rest) : (@Span.around K (Scalar.exact functions) first rest).Holds v := by
  let _ := Scalar.exact functions
  constructor
  · refine foldl_relates le_refl le_trans ?_ ?_ first rest v member
    · intro a b
      exact (Scalar.exact_least functions a b).trans_le (min_le_left a b)
    · intro a b
      exact (Scalar.exact_least functions a b).trans_le (min_le_right a b)
  · refine @foldl_relates K (· ≥ ·) _ le_refl ge_trans ?_ ?_ first rest v member
    · intro a b
      exact (le_max_left a b).trans_eq (Scalar.exact_greatest functions a b).symm
    · intro a b
      exact (le_max_right a b).trans_eq (Scalar.exact_greatest functions a b).symm

/-- The box around some positions holds each of them on every axis. -/
theorem Box.around_holds (functions : Scalar.Functions K) {places : List (Position K)}
    {place : Position K} (member : place ∈ places) :
    (@Box.around K (Scalar.exact functions) places).x.Holds place.x ∧
      (@Box.around K (Scalar.exact functions) places).y.Holds place.y ∧
      (@Box.around K (Scalar.exact functions) places).z.Holds place.z := by
  cases places with
  | nil => cases member
  | cons first rest =>
    have onAxis (axis : Position K → K) : axis place ∈ axis first :: rest.map axis :=
      List.mem_map_of_mem member
    exact ⟨Span.around_holds functions (onAxis (·.x)), Span.around_holds functions (onAxis (·.y)),
      Span.around_holds functions (onAxis (·.z))⟩

theorem Box.around_range [IsStrictOrderedRing K] (functions : Scalar.Functions K) (places : List (Position K)) :
    (@Box.around K (Scalar.exact functions) places).z.range =
      (@Box.around K (Scalar.exact functions) places).z.greatest -
        (@Box.around K (Scalar.exact functions) places).z.least := by
  cases places with
  | nil =>
    have zero : (0.0 : K) = 0.0 - 0.0 := by norm_num
    exact zero
  | cons => rfl

theorem Drawing.box_holds (functions : Scalar.Functions K) :
    letI := Scalar.exact functions
    ∀ {style : Style} {emissions : List (Emission K)} {on : Bool},
      Tool.Itinerary ⟨none, on⟩ emissions → ∀ path ∈ (ofEmissions style emissions).paths,
        ∀ dot ∈ path.dots, (ofEmissions style emissions).box.x.Holds dot.position.x ∧
          (ofEmissions style emissions).box.y.Holds dot.position.y ∧
          (ofEmissions style emissions).box.z.Holds dot.position.z := by
  let _ := Scalar.exact functions
  intro style emissions on itinerary path member dot inDots
  obtain ⟨number, -, dots⟩ := exists_of_mem_paths itinerary member
  obtain ⟨-, place, visited, alike⟩ := dots dot inDots
  rw [← Position.eq_of_exact_alike alike]
  exact Box.around_holds functions (List.mem_reverse.mpr visited)

end Toolpath.Plot
