import Toolpath.Proofs.Design.Decode
import Toolpath.Proofs.Document.Json.Layout

/-!
A design that is written as JSON text is read back as the same tree.

Of numbers it is taken for granted that each is read back from its own text: the reader takes the digits
that fit a word and scales them, so it may miss the float that the digits were chosen for.
-/

namespace Toolpath

variable {α : Type}

/-- The parts of a color. -/
def Color.numbers (color : Color α) : List α := [color.red, color.green, color.blue]

/-- The numbers that a point holds. -/
def Point.numbers (p : Point α) : List α :=
  p.x.toList ++ p.y.toList ++ p.z.toList ++ p.speed.toList ++ p.color.toList.flatMap Color.numbers

/-- The numbers that a fragment of speeds holds. -/
def SpeedFragment.numbers (f : SpeedFragment α) : List α := f.print.toList ++ f.travel.toList

/-- The numbers that a fragment for the bead holds. -/
def BeadFragment.numbers (f : BeadFragment α) : List α :=
  f.width.toList ++ f.height.toList ++ f.diameter.toList

/-- The numbers that an event holds. -/
def Event.numbers : Event α → List α
  | .toggle _ | .command _ | .raw _ | .comment _ _ => []
  | .extrude volume speed => [volume, speed]
  | .fan percent => [percent]
  | .hotend celsius _ _ => [celsius]
  | .bed celsius _ => [celsius]
  | .marker _ point => point.toList.flatMap Point.numbers

/-- The numbers that an element holds. -/
def Element.numbers : Element α → List α
  | .point p => p.numbers
  | .speeds f => f.numbers
  | .extruder f => f.filament.toList
  | .bead f => f.numbers
  | .event e => e.numbers

/-- The numbers that a design holds. -/
def Design.numbers (d : Design α) : List α := (Design.flatten d).flatMap Element.numbers

theorem Color.legible_toValue {color : Color Float}
    (legible : ∀ v ∈ color.numbers, (Value.float v).Legible) : color.toValue.Legible :=
  .array (by simpa [numbers] using legible)

theorem Point.legible_toFields {p : Point Float}
    (legible : ∀ v ∈ p.numbers, (Value.float v).Legible) : ∀ field ∈ p.toFields, field.2.Legible := by
  simp only [toFields, List.forall_mem_append, Encode.forall_mem_optional]
  simp only [numbers, List.forall_mem_append, Option.mem_toList] at legible
  obtain ⟨⟨⟨⟨x, y⟩, z⟩, speed⟩, color⟩ := legible
  refine ⟨⟨⟨⟨⟨x, y⟩, z⟩, fun on _ => .bool on⟩, speed⟩, ?_⟩
  intro c set
  exact Color.legible_toValue fun v member =>
    color v (List.mem_flatMap.mpr ⟨c, Option.mem_toList.mpr set, member⟩)

theorem Point.legible {p : Point Float} (legible : ∀ v ∈ p.numbers, (Value.float v).Legible) :
    (Value.object p.toFields).Legible :=
  .object (p.names_toFields.nodup (by decide)) (Point.legible_toFields legible)

theorem SpeedFragment.legible_toFields {f : SpeedFragment Float}
    (legible : ∀ v ∈ f.numbers, (Value.float v).Legible) : ∀ field ∈ f.toFields, field.2.Legible := by
  simp only [toFields, List.forall_mem_append, Encode.forall_mem_optional]
  simp only [numbers, List.forall_mem_append, Option.mem_toList] at legible
  exact legible

theorem ExtruderFragment.legible_toFields {f : ExtruderFragment Float}
    (legible : ∀ v ∈ f.filament.toList, (Value.float v).Legible) :
    ∀ field ∈ f.toFields, field.2.Legible := by
  simp only [toFields, List.forall_mem_append, Encode.forall_mem_optional]
  simp only [Option.mem_toList] at legible
  exact ⟨⟨⟨fun _ _ => .string _, legible⟩, fun on _ => .bool on⟩, fun _ _ => .string _⟩

theorem BeadFragment.legible_toFields {f : BeadFragment Float}
    (legible : ∀ v ∈ f.numbers, (Value.float v).Legible) : ∀ field ∈ f.toFields, field.2.Legible := by
  simp only [toFields, List.forall_mem_append, Encode.forall_mem_optional]
  simp only [numbers, List.forall_mem_append, Option.mem_toList] at legible
  obtain ⟨⟨width, height⟩, diameter⟩ := legible
  exact ⟨⟨⟨fun _ _ => .string _, width⟩, height⟩, diameter⟩

theorem Event.legible_toFields {e : Event Float}
    (legible : ∀ v ∈ e.numbers, (Value.float v).Legible) : ∀ field ∈ e.toFields, field.2.Legible := by
  cases e with
  | toggle on => simpa [toFields] using Value.Legible.bool on
  | command id => simpa [toFields] using Value.Legible.string id
  | raw text => simpa [toFields] using Value.Legible.string text
  | comment text note =>
    simp only [toFields, List.forall_mem_append, Encode.forall_mem_optional]
    exact ⟨fun text _ => .string text, fun note _ => .string note⟩
  | extrude volume speed =>
    simpa [toFields, numbers] using legible
  | fan percent => simpa [toFields, numbers] using legible
  | hotend celsius wait tool =>
    simp only [numbers, List.mem_singleton, forall_eq] at legible
    simp only [toFields, List.cons_append, List.nil_append, List.forall_mem_cons, Encode.forall_mem_optional]
    refine ⟨legible, .bool wait, ?_⟩
    intro number _
    have small := number.toNat_lt
    have large : 2 ^ 32 ≤ Decimal.twoTo 64 := by decide
    exact .integer (by omega) (by omega)
  | bed celsius wait =>
    simp only [numbers, List.mem_singleton, forall_eq] at legible
    simpa [toFields] using ⟨legible, .bool wait⟩
  | marker label point =>
    simp only [toFields, List.forall_mem_cons, Encode.forall_mem_optional]
    refine ⟨.string label, ?_⟩
    intro p set
    exact Point.legible fun v member =>
      legible v (List.mem_flatMap.mpr ⟨p, Option.mem_toList.mpr set, member⟩)

theorem Element.legible_toFields {element : Element Float}
    (legible : ∀ v ∈ element.numbers, (Value.float v).Legible) :
    ∀ field ∈ element.toFields, field.2.Legible := by
  cases element with
  | point p => exact List.forall_mem_cons.mpr ⟨.string _, Point.legible_toFields legible⟩
  | speeds f => exact List.forall_mem_cons.mpr ⟨.string _, SpeedFragment.legible_toFields legible⟩
  | extruder f => exact List.forall_mem_cons.mpr ⟨.string _, ExtruderFragment.legible_toFields legible⟩
  | bead f => exact List.forall_mem_cons.mpr ⟨.string _, BeadFragment.legible_toFields legible⟩
  | event e =>
    exact List.forall_mem_cons.mpr ⟨.string _,
      List.forall_mem_cons.mpr ⟨.string _, Event.legible_toFields legible⟩⟩

theorem Element.legible_toValue {element : Element Float}
    (legible : ∀ v ∈ element.numbers, (Value.float v).Legible) : element.toValue.Legible :=
  .object element.names_nodup (Element.legible_toFields legible)

mutual

theorem Step.legible_toValue (step : Step Float)
    (legible : ∀ element ∈ step.flatten, element.toValue.Legible) : step.toValue.Legible := by
  cases step with
  | group steps =>
    rw [Step.toValue]
    rw [Step.flatten] at legible
    exact .array (Design.legible_toValues steps legible)
  | element element =>
    rw [Step.toValue]
    rw [Step.flatten] at legible
    exact legible element List.mem_cons_self

theorem Design.legible_toValues (steps : List (Step Float))
    (legible : ∀ element ∈ Design.flatten steps, element.toValue.Legible) :
    ∀ item ∈ Design.toValues steps, item.Legible := by
  cases steps with
  | nil =>
    rw [Design.toValues]
    exact List.forall_mem_nil _
  | cons step rest =>
    rw [Design.flatten, List.forall_mem_append] at legible
    rw [Design.toValues]
    exact List.forall_mem_cons.mpr
      ⟨Step.legible_toValue step legible.1, Design.legible_toValues rest legible.2⟩

end

/-- The float of a value that is one. -/
def Value.float? : Value → Option Float
  | .float number => some number
  | _ => none

theorem Value.eq_float_of_float? {value? : Option Value} {v : Float}
    (read : value?.bind float? = some v) : value? = some (.float v) := by
  obtain ⟨value, rfl, same⟩ := Option.bind_eq_some_iff.mp read
  cases value with
  | float number => exact Option.some.inj same ▸ rfl
  | null | bool | integer | string | array | object => cases same

/-- Writing a design as JSON text and reading the text gives the same design, with the groups, the
fields that are not set and the sign of zero as they were, if its numbers are finite and read back from
their own texts, and the arrays and objects of the text stand no deeper than the reader goes. -/
theorem Design.ofJson_toJson {d : Design Float} (finite : ∀ v ∈ Design.numbers d, v.isFinite = true)
    (inverted : ∀ v ∈ Design.numbers d, v.isFinite = true →
      Json.read? (Json.pretty (.float v)) = some (.float v))
    (shallow : (Design.toValue d).depth ≤ Json.Builder.deepest) :
    Design.ofJson (Design.toJson d) = .ok d := by
  have legible : (Design.toValue d).Legible := by
    refine .array (Design.legible_toValues d fun element member => Element.legible_toValue ?_)
    intro v atElement
    have atDesign : v ∈ Design.numbers d := List.mem_flatMap.mpr ⟨element, member, atElement⟩
    exact .float (inverted v atDesign (finite v atDesign))
  rw [Design.ofJson, Design.toJson, Json.read?_pretty legible shallow]
  exact Design.ofValue_toValue d

-- A number of two digits may be missed, where the power of ten that it is divided by is rounded itself.
example : (Json.read? (Json.pretty (.float 1.5e-300))).bind Value.float? ≠ some 1.5e-300 := by
  decide +kernel

/-- Every kind of element, with fields that are set and fields that are not, in and out of groups. -/
def Design.medley : Design Float :=
  [.group [.group [.element (.point { x := some (-0.0), color := some ⟨1.0, 0.5, 0.1⟩ })], .group []],
    .element (.point {}), .element (.speeds { travel := some 8000.0 }),
    .element (.extruder ⟨some .volume, some 1.75, some false, some .rapid⟩),
    .element (.bead { shape := some .stadium, height := some 1e-7 }),
    .group [.element (.event (.toggle true)), .element (.event (.command "retract")),
      .element (.event (.raw "G4 \"P1\"\n\t\\\x01")), .element (.event (.comment none (some "")))],
    .element (.event (.extrude (-1e21) 300.0)), .element (.event (.fan 12.5)),
    .element (.event (.hotend 210.0 true (some 4294967295))),
    .element (.event (.hotend 0.0 false none)), .element (.event (.bed 60.0 false)),
    .element (.event (.marker "λ" (some { z := some 5e-324, extrude := some false })))]

theorem Design.ofJson_toJson_medley :
    (∀ v ∈ Design.numbers Design.medley, v.isFinite = true) ∧
      (Design.toValue Design.medley).depth = 5 ∧
      Design.ofJson (Design.toJson Design.medley) = .ok Design.medley := by
  have finite : ∀ v ∈ Design.numbers Design.medley, v.isFinite = true := by
    decide +kernel
  have inverted : ∀ v ∈ Design.numbers Design.medley,
      (Json.read? (Json.pretty (.float v))).bind Value.float? = some v := by
    decide +kernel
  have depth : (Design.toValue Design.medley).depth = 5 := by
    decide +kernel
  have shallow : (Design.toValue Design.medley).depth ≤ Json.Builder.deepest := by
    rw [depth]
    decide
  refine ⟨finite, depth, Design.ofJson_toJson finite ?_ shallow⟩
  intro v member _
  exact Value.eq_float_of_float? (inverted v member)

end Toolpath
