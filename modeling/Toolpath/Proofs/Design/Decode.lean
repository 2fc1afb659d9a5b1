import Toolpath.Design.Decode
import Toolpath.Proofs.Document.Field

/-!
A design is read back from its value as the same tree.

Every field is written under the name that it is read from, and is left out just where it is not set, so
it is enough to look at each field alone. A record has each of its names once, and none of them is the
name of a kind.
-/

namespace Toolpath

open Decode (Inverts)

theorem Color.inverts : Inverts Color.ofValue Color.toValue :=
  ⟨fun _ => rfl, fun _ => Value.noConfusion⟩

theorem FeedUnit.inverts (r : Reading) :
    Inverts (Decode.choice FeedUnit.choices r) fun unit => .string unit.word :=
  Decode.choice_inverts (fun unit => by cases unit <;> rfl) r

theorem TravelForm.inverts (r : Reading) :
    Inverts (Decode.choice TravelForm.choices r) fun form => .string form.word :=
  Decode.choice_inverts (fun form => by cases form <;> rfl) r

theorem BeadShape.inverts (r : Reading) :
    Inverts (Decode.choice BeadShape.choices r) fun shape => .string shape.word :=
  Decode.choice_inverts (fun shape => by cases shape <;> rfl) r

namespace Point

theorem ofRecord_toFields (p : Point Float) : ofRecord (.named p.toFields) = .ok p := by
  have x : (Record.named p.toFields).optional 0 "x" Decode.float = .ok p.x :=
    Record.optional_eq_ok Decode.float_inverts (by simp [toFields]) 0
  have y : (Record.named p.toFields).optional 1 "y" Decode.float = .ok p.y :=
    Record.optional_eq_ok Decode.float_inverts (by simp [toFields]) 1
  have z : (Record.named p.toFields).optional 2 "z" Decode.float = .ok p.z :=
    Record.optional_eq_ok Decode.float_inverts (by simp [toFields]) 2
  have extrude : (Record.named p.toFields).optional 3 "extrude" Decode.bool = .ok p.extrude :=
    Record.optional_eq_ok Decode.bool_inverts (by simp [toFields]) 3
  have speed : (Record.named p.toFields).optional 4 "speed" Decode.float = .ok p.speed :=
    Record.optional_eq_ok Decode.float_inverts (by simp [toFields]) 4
  have color : (Record.named p.toFields).optional 5 "color" Color.ofValue = .ok p.color :=
    Record.optional_eq_ok Color.inverts (by simp [toFields]) 5
  simp only [ofRecord, Record.limit, bind, Except.bind, x, y, z, extrude, speed, color]

theorem inverts : Inverts ofValue fun p => .object p.toFields :=
  ⟨ofRecord_toFields, fun _ => Value.noConfusion⟩

theorem names_toFields (p : Point Float) :
    (p.toFields.map Prod.fst).Sublist ["x", "y", "z", "extrude", "speed", "color"] := by
  simp only [toFields, List.map_append]
  exact (((((Encode.names_optional _ _).append (Encode.names_optional _ _)).append
    (Encode.names_optional _ _)).append (Encode.names_optional _ _)).append
    (Encode.names_optional _ _)).append (Encode.names_optional _ _)

end Point

theorem SpeedFragment.ofRecord_toFields (f : SpeedFragment Float) :
    ofRecord (.named f.toFields) = .ok f := by
  have print : (Record.named f.toFields).optional 0 "print_speed" Decode.float = .ok f.print :=
    Record.optional_eq_ok Decode.float_inverts (by simp [toFields]) 0
  have travel : (Record.named f.toFields).optional 1 "travel_speed" Decode.float = .ok f.travel :=
    Record.optional_eq_ok Decode.float_inverts (by simp [toFields]) 1
  simp only [ofRecord, Record.limit, bind, Except.bind, print, travel]

theorem ExtruderFragment.ofRecord_toFields (r : Reading) (f : ExtruderFragment Float) :
    ofRecord r (.named f.toFields) = .ok f := by
  have feedUnit : (Record.named f.toFields).optional 0 "units" (Decode.choice FeedUnit.choices r) =
      .ok f.feedUnit :=
    Record.optional_eq_ok (FeedUnit.inverts r) (by simp [toFields]) 0
  have filament : (Record.named f.toFields).optionalAlias 1 "filament_diameter" "dia_feed"
      Decode.float = .ok f.filament :=
    Record.optionalAlias_eq_ok Decode.float_inverts (by simp [toFields]) (by simp [toFields]) 1
  have relative : (Record.named f.toFields).optionalAlias 2 "relative_mode" "relative_gcode"
      Decode.bool = .ok f.relative :=
    Record.optionalAlias_eq_ok Decode.bool_inverts (by simp [toFields]) (by simp [toFields]) 2
  have travelForm : (Record.named f.toFields).optional 3 "travel_format"
      (Decode.choice TravelForm.choices r) = .ok f.travelForm :=
    Record.optional_eq_ok (TravelForm.inverts r) (by simp [toFields]) 3
  simp only [ofRecord, Record.limit, bind, Except.bind, feedUnit, filament, relative, travelForm]

theorem BeadFragment.ofRecord_toFields (r : Reading) (f : BeadFragment Float) :
    ofRecord r (.named f.toFields) = .ok f := by
  have shape : (Record.named f.toFields).optional 0 "area_model" (Decode.choice BeadShape.choices r) =
      .ok f.shape :=
    Record.optional_eq_ok (BeadShape.inverts r) (by simp [toFields]) 0
  have width : (Record.named f.toFields).optional 1 "width" Decode.float = .ok f.width :=
    Record.optional_eq_ok Decode.float_inverts (by simp [toFields]) 1
  have height : (Record.named f.toFields).optional 2 "height" Decode.float = .ok f.height :=
    Record.optional_eq_ok Decode.float_inverts (by simp [toFields]) 2
  have diameter : (Record.named f.toFields).optional 3 "diameter" Decode.float = .ok f.diameter :=
    Record.optional_eq_ok Decode.float_inverts (by simp [toFields]) 3
  simp only [ofRecord, Record.limit, bind, Except.bind, shape, width, height, diameter]

namespace Event

theorem commentOfRecord_toFields (text note : Option String) :
    commentOfRecord (.named (Event.comment text note).toFields) = .ok (.comment text note) := by
  have first : (Record.named (Event.comment text note).toFields).optional 0 "text" Decode.string =
      .ok text :=
    Record.optional_eq_ok Decode.string_inverts (by simp [toFields]) 0
  have second : (Record.named (Event.comment text note).toFields).optional 1 "end_of_previous_line"
      Decode.string = .ok note :=
    Record.optional_eq_ok Decode.string_inverts (by simp [toFields]) 1
  simp only [commentOfRecord, Record.limit, bind, Except.bind, first, second]

theorem hotendOfRecord_toFields (celsius : Float) (wait : Bool) (tool : Option UInt32) :
    hotendOfRecord (.named (Event.hotend celsius wait tool).toFields) =
      .ok (.hotend celsius wait tool) := by
  have third : (Record.named (Event.hotend celsius wait tool).toFields).optional 2 "tool"
      Decode.word32 = .ok tool :=
    Record.optional_eq_ok Decode.word32_inverts (by simp [toFields, Value.find?]) 2
  simp only [hotendOfRecord, Record.limit, bind, Except.bind, third]
  rfl

theorem markerOfRecord_toFields (label : String) (point : Option (Point Float)) :
    markerOfRecord (.named (Event.marker label point).toFields) = .ok (.marker label point) := by
  have second : (Record.named (Event.marker label point).toFields).optional 1 "point"
      Point.ofValue = .ok point :=
    Record.optional_eq_ok Point.inverts (by simp [toFields, Value.find?]) 1
  simp only [markerOfRecord, Record.limit, bind, Except.bind, second]
  rfl

/-- An event has no field twice, and none that is named as a kind is. -/
theorem names_nodup (e : Event Float) : ("type" :: "event" :: e.toFields.map Prod.fst).Nodup := by
  cases e with
  | comment text note =>
    refine List.Nodup.sublist (List.Sublist.cons_cons _ (List.Sublist.cons_cons _ ?_))
      (by decide : ["type", "event", "text", "end_of_previous_line"].Nodup)
    rw [toFields, List.map_append]
    exact (Encode.names_optional _ _).append (Encode.names_optional _ _)
  | hotend celsius wait tool =>
    refine List.Nodup.sublist (List.Sublist.cons_cons _ (List.Sublist.cons_cons _ ?_))
      (by decide : ["type", "event", "temp", "wait", "tool"].Nodup)
    exact (Encode.names_optional "tool" tool).cons_cons _ |>.cons_cons _
  | marker label point =>
    refine List.Nodup.sublist (List.Sublist.cons_cons _ (List.Sublist.cons_cons _ ?_))
      (by decide : ["type", "event", "label", "point"].Nodup)
    exact (Encode.names_optional "point" point).cons_cons _
  | toggle | command | raw | extrude | fan | bed => simp [toFields]

/-- What is listed for the kind of an event reads its fields. -/
theorem exists_lookup_kind (e : Event Float) :
    ∃ read, choices.lookup e.kind = some read ∧ read (.named e.toFields) = .ok e := by
  cases e with
  | toggle on => exact ⟨toggleOfRecord, rfl, rfl⟩
  | command id => exact ⟨commandOfRecord, rfl, rfl⟩
  | raw text => exact ⟨rawOfRecord, rfl, rfl⟩
  | comment text note => exact ⟨commentOfRecord, rfl, commentOfRecord_toFields text note⟩
  | extrude volume speed => exact ⟨extrudeOfRecord, rfl, rfl⟩
  | fan percent => exact ⟨fanOfRecord, rfl, rfl⟩
  | hotend celsius wait tool => exact ⟨hotendOfRecord, rfl, hotendOfRecord_toFields celsius wait tool⟩
  | bed celsius wait => exact ⟨bedOfRecord, rfl, rfl⟩
  | marker label point => exact ⟨markerOfRecord, rfl, markerOfRecord_toFields label point⟩

theorem ofRecord_toFields (r : Reading) (e : Event Float) :
    ofRecord r (.named (("event", .string e.kind) :: e.toFields)) = .ok e := by
  have absent : "event" ∉ e.toFields.map Prod.fst :=
    (List.nodup_cons.mp (List.nodup_cons.mp e.names_nodup).2).1
  obtain ⟨read, listed, reads⟩ := e.exists_lookup_kind
  rw [ofRecord, Record.tagged_eq absent listed, reads]

end Event

namespace Element

/-- No element has a field twice. -/
theorem names_nodup (element : Element Float) : (element.toFields.map Prod.fst).Nodup := by
  cases element with
  | point p =>
    exact List.Nodup.sublist (p.names_toFields.cons_cons "type") (by decide)
  | speeds f =>
    refine List.Nodup.sublist (List.Sublist.cons_cons _ ?_)
      (by decide : ["type", "print_speed", "travel_speed"].Nodup)
    rw [SpeedFragment.toFields, List.map_append]
    exact (Encode.names_optional _ _).append (Encode.names_optional _ _)
  | extruder f =>
    refine List.Nodup.sublist (List.Sublist.cons_cons _ ?_)
      (by decide : ["type", "units", "filament_diameter", "relative_mode", "travel_format"].Nodup)
    simp only [ExtruderFragment.toFields, List.map_append]
    exact (((Encode.names_optional _ _).append (Encode.names_optional _ _)).append
      (Encode.names_optional _ _)).append (Encode.names_optional _ _)
  | bead f =>
    refine List.Nodup.sublist (List.Sublist.cons_cons _ ?_)
      (by decide : ["type", "area_model", "width", "height", "diameter"].Nodup)
    simp only [BeadFragment.toFields, List.map_append]
    exact (((Encode.names_optional _ _).append (Encode.names_optional _ _)).append
      (Encode.names_optional _ _)).append (Encode.names_optional _ _)
  | event e => exact e.names_nodup

/-- The kind of an element comes first, and what is listed for it reads the other fields. -/
theorem exists_lookup_kind (r : Reading) (element : Element Float) :
    ∃ kind fields read, element.toFields = ("type", .string kind) :: fields ∧
      (choices r).lookup kind = some read ∧ read (.named fields) = .ok element := by
  cases element with
  | point p => exact ⟨_, _, _, rfl, rfl, congrArg (Except.map point) p.ofRecord_toFields⟩
  | speeds f => exact ⟨_, _, _, rfl, rfl, congrArg (Except.map speeds) f.ofRecord_toFields⟩
  | extruder f => exact ⟨_, _, _, rfl, rfl, congrArg (Except.map extruder) (f.ofRecord_toFields r)⟩
  | bead f => exact ⟨_, _, _, rfl, rfl, congrArg (Except.map bead) (f.ofRecord_toFields r)⟩
  | event e => exact ⟨_, _, _, rfl, rfl, congrArg (Except.map event) (e.ofRecord_toFields r)⟩

theorem ofRecord_toFields (r : Reading) (element : Element Float) :
    ofRecord r (.named element.toFields) = .ok element := by
  have once := element.names_nodup
  obtain ⟨kind, fields, read, shape, listed, reads⟩ := element.exists_lookup_kind r.holding
  rw [shape] at once ⊢
  rw [ofRecord, Record.tagged_eq (List.nodup_cons.mp once).1 listed, reads]

end Element

mutual

/-- A step is read from its value, and its elements are counted. -/
theorem Step.ofValue_toValue (step : Step Float) (index : Nat) :
    Step.ofValue index step.toValue = .ok (step, index + step.flatten.length) := by
  cases step with
  | group steps =>
    rw [Step.toValue, Step.ofValue, Design.ofValues_toValues steps, Step.flatten]
    rfl
  | element element =>
    rw [Step.toValue, Element.toValue, Step.ofValue, element.ofRecord_toFields, Step.flatten]
    rfl

theorem Design.ofValues_toValues (steps : List (Step Float)) (index : Nat) :
    Design.ofValues index (Design.toValues steps) =
      .ok (steps, index + (Design.flatten steps).length) := by
  cases steps with
  | nil => rw [Design.toValues, Design.ofValues, Design.flatten, List.length_nil, Nat.add_zero]
  | cons step rest =>
    rw [Design.toValues, Design.ofValues, Step.ofValue_toValue step]
    show (Design.ofValues _ _ >>= _) = _
    rw [Design.ofValues_toValues rest, Design.flatten, List.length_append, Nat.add_assoc]
    rfl

end

theorem Design.ofValue_toValue (d : Design Float) : Design.ofValue (Design.toValue d) = .ok d := by
  rw [Design.toValue, Design.ofValue, Design.ofValues_toValues]
  rfl

end Toolpath
