import Hivra.Host.CapsuleFiles

namespace Hivra

open JsonDocument Serde

/-!
# Values that were decoded

What the host decodes and encodes again comes back, as long as every double has a literal;
and where every double has one, the host reads whatever it looks for without a throw.

* `Encodable.ownerHex`, `extractTailTimestamp_of_encodable`,
  `capsuleCreatedPayload_of_encodable` — what is read of a value that can be encoded.
-/

section Decoded

variable {Double : Type} (dart : DartRuntime Double)

/-! ### What was decoded -/

/-- What the language promises of doubles: one with a literal is finite, and the literal
    reads back as it. -/
structure DoubleLaws : Prop where
  finite : ∀ double, (dart.writeDouble double).isSome = true → (dart.toInt double).isSome = true
  reads : ∀ double text, dart.writeDouble double = some text → dart.doubleOfText text = double

/-- A value that stands for a document. -/
def Decoded (value : DartValue Double) : Prop :=
  ∃ doc : Document, doc.WellKeyed ∧ doc.map (decodeNumber dart) = value

/-- Every number of a value has a literal. -/
def Encodable (value : DartValue Double) : Prop := (jsonEncode dart value).isSome = true

theorem decoded_jsonDecode (doc : Document) : Decoded dart (jsonDecode dart doc) :=
  ⟨doc.collapse, Json.wellKeyed_collapse doc, rfl⟩

variable {dart} {value : DartValue Double} {members : List (String × DartValue Double)}

/-- A member of what was decoded was decoded. -/
theorem Decoded.member (h : Decoded dart (.obj members)) {name : String}
    (hlookup : members.lookup name = some value) : Decoded dart value := by
  obtain ⟨doc, hkeyed, hdoc⟩ := h
  cases doc with
  | obj sources =>
    rw [Json.map] at hdoc
    injection hdoc with hdoc
    rw [← hdoc, Json.lookup_mapMembers, Option.map_eq_some_iff] at hlookup
    obtain ⟨source, hsource, rfl⟩ := hlookup
    obtain ⟨front, back, rfl, -⟩ := List.lookup_eq_some_iff.mp hsource
    have hmem : (name, source) ∈ front ++ (name, source) :: back :=
      List.mem_append_right front List.mem_cons_self
    exact ⟨source, (Json.wellKeyedMembers_iff _).mp hkeyed.2 _ hmem, rfl⟩
  | null => simp [Json.map] at hdoc
  | bool value => simp [Json.map] at hdoc
  | num value => simp [Json.map] at hdoc
  | str text => simp [Json.map] at hdoc
  | arr items => simp [Json.map] at hdoc

/-- A literal that the host writes reads as the one it was made of. -/
theorem decodeNumber_hostLiteral (laws : DoubleLaws dart) {literal written : Literal}
    (h : hostLiteral dart literal = some written) :
    decodeNumber dart written = decodeNumber dart literal := by
  have hdouble : ∀ double, encodeNumber dart (.inr double) = some written →
      decodeNumber dart written = .inr double := by
    intro double hwritten
    rw [encodeNumber, Option.map_eq_some_iff] at hwritten
    obtain ⟨text, htext, rfl⟩ := hwritten
    rw [decodeNumber, laws.reads double text htext]
  cases literal with
  | real text =>
    rw [hostLiteral, decodeNumber] at h
    rw [hdouble _ h, decodeNumber]
  | int value =>
    by_cases hrange : -2 ^ 63 ≤ value ∧ value < 2 ^ 63
    · rw [hostLiteral_int dart hrange] at h
      rw [Option.some.inj h]
    · rw [hostLiteral, decodeNumber, if_neg hrange] at h
      rw [hdouble _ h, decodeNumber, if_neg hrange]

variable {doc : Document}

/-- **What was decoded comes back when it is encoded and decoded.** -/
theorem jsonDecode_jsonEncode (laws : DoubleLaws dart) (h : Decoded dart value)
    (hdoc : jsonEncode dart value = some doc) : jsonDecode dart doc = value := by
  obtain ⟨source, hkeyed, rfl⟩ := h
  rw [jsonEncode, Json.traverse_map] at hdoc
  have hwritten : doc.WellKeyed := Json.WellKeyed.traverse source doc hkeyed hdoc
  rw [jsonDecode, Json.collapse_of_wellKeyed doc hwritten]
  exact Json.map_of_traverse (fun _ _ => decodeNumber_hostLiteral laws) source doc hdoc

variable {root : List (String × DartValue Double)}

/-- The root of an encoded object. -/
theorem exportLedgerRoot_jsonEncode (laws : DoubleLaws dart) (h : Decoded dart (.obj root))
    (hdoc : jsonEncode dart (.obj root) = some doc) : exportLedgerRoot dart doc = some root := by
  rw [exportLedgerRoot, jsonDecode_jsonEncode laws h hdoc]

theorem jsonDecode_of_root (h : exportLedgerRoot dart doc = some root) :
    jsonDecode dart doc = .obj root := by
  unfold exportLedgerRoot at h
  split at h
  · rename_i members hmembers
    rw [hmembers, Option.some.inj h]
  · cases h

theorem decoded_root (h : exportLedgerRoot dart doc = some root) : Decoded dart (.obj root) := by
  rw [← jsonDecode_of_root h]
  exact decoded_jsonDecode dart doc

/-! ### What can be encoded -/

theorem Encodable.item {items : List (DartValue Double)} (h : Encodable dart (.arr items)) :
    ∀ item ∈ items, Encodable dart item := by
  obtain ⟨doc, hdoc⟩ := Option.isSome_iff_exists.mp h
  obtain ⟨docs, -, hdocs⟩ := (Json.traverse_arr_iff items doc).mp hdoc
  clear h hdoc
  induction hdocs with
  | nil => simp
  | cons hfirst _ ih =>
    intro item hitem
    rcases List.mem_cons.mp hitem with rfl | hrest
    · exact Option.isSome_iff_exists.mpr ⟨_, hfirst⟩
    · exact ih item hrest

theorem Encodable.member (h : Encodable dart (.obj members)) {name : String}
    (hlookup : members.lookup name = some value) : Encodable dart value := by
  obtain ⟨doc, hdoc⟩ := Option.isSome_iff_exists.mp h
  obtain ⟨docs, -, hdocs⟩ := (Json.traverse_obj_iff members doc).mp hdoc
  obtain ⟨written, hwritten, -⟩ := Json.exists_lookup_of_forall₂ hdocs hlookup
  exact Option.isSome_iff_exists.mpr ⟨written, hwritten⟩

/-- A double that can be encoded has an integer. -/
theorem Encodable.toInt (laws : DoubleLaws dart) {double : Double}
    (h : Encodable dart (.num (.inr double))) : ∃ value, dart.toInt double = some value := by
  apply Option.isSome_iff_exists.mp
  apply laws.finite
  simpa [Encodable, jsonEncode, Json.traverse, encodeNumber] using h

/-- The bytes of a value that can be encoded are read. -/
theorem Encodable.payloadItems (laws : DoubleLaws dart) {items : List (DartValue Double)}
    (h : ∀ item ∈ items, Encodable dart item) (out : List UInt8) :
    ∃ bytes, payloadItems dart out items = some bytes := by
  induction items generalizing out with
  | nil => exact ⟨out, rfl⟩
  | cons item rest ih =>
    have hrest := fun other hother => h other (List.mem_cons_of_mem item hother)
    match item with
    | .num (.inl value) =>
      rw [Hivra.payloadItems]
      cases byteOfInt value with
      | none => exact ⟨[], rfl⟩
      | some byte => exact ih hrest _
    | .num (.inr double) =>
      obtain ⟨value, hvalue⟩ := Encodable.toInt laws (h _ List.mem_cons_self)
      rw [Hivra.payloadItems, hvalue]
      dsimp only
      cases byteOfInt value with
      | none => exact ⟨[], rfl⟩
      | some byte => exact ih hrest _
    | .null => exact ⟨[], rfl⟩
    | .bool value => exact ⟨[], rfl⟩
    | .str text => exact ⟨[], rfl⟩
    | .arr inner => exact ⟨[], rfl⟩
    | .obj members => exact ⟨[], rfl⟩

theorem Encodable.payloadBytes (laws : DoubleLaws dart) {value : DartValue Double}
    (h : Encodable dart value) : ∃ bytes, payloadBytes dart value = some bytes := by
  match value, h with
  | .arr items, h => exact Encodable.payloadItems laws h.item []
  | .str text, _ => exact ⟨_, rfl⟩
  | .null, _ => exact ⟨_, rfl⟩
  | .bool value, _ => exact ⟨_, rfl⟩
  | .num value, _ => exact ⟨_, rfl⟩
  | .obj members, _ => exact ⟨_, rfl⟩

/-- The owner of a root that can be encoded is read. -/
theorem Encodable.ownerHex (laws : DoubleLaws dart) {root : List (String × DartValue Double)}
    (h : Encodable dart (.obj root)) : ∃ owner, ownerHex dart root = some owner := by
  unfold Hivra.ownerHex
  have hread : ∃ owner, parseBytesField dart (root.lookup "owner") = some owner := by
    cases hlookup : root.lookup "owner" with
    | none => exact ⟨none, rfl⟩
    | some value =>
      match value, hlookup with
      | .arr items, hlookup =>
        obtain ⟨bytes, hbytes⟩ := Encodable.payloadItems laws (h.member hlookup).item []
        exact ⟨_, by rw [parseBytesField, hbytes]; rfl⟩
      | .str text, _ => exact ⟨_, rfl⟩
      | .null, _ => exact ⟨_, rfl⟩
      | .bool value, _ => exact ⟨_, rfl⟩
      | .num value, _ => exact ⟨_, rfl⟩
      | .obj members, _ => exact ⟨_, rfl⟩
  obtain ⟨owner, howner⟩ := hread
  exact ⟨_, by rw [howner]; rfl⟩

theorem Encodable.rootEvents {root : List (String × DartValue Double)}
    (h : Encodable dart (.obj root)) : ∀ event ∈ rootEvents root, Encodable dart event := by
  unfold Hivra.rootEvents
  split
  · rename_i events hevents
    exact (h.member hevents).item
  · simp

theorem Encodable.parseTimestamp (laws : DoubleLaws dart)
    {members : List (String × DartValue Double)} (h : Encodable dart (.obj members)) :
    ∃ ts, parseTimestamp dart (members.lookup "timestamp") = some ts := by
  cases hlookup : members.lookup "timestamp" with
  | none => exact ⟨none, rfl⟩
  | some value =>
    match value, hlookup with
    | .num (.inl value), _ => exact ⟨_, rfl⟩
    | .num (.inr double), hlookup =>
      obtain ⟨value, hvalue⟩ := Encodable.toInt laws (h.member hlookup)
      exact ⟨_, by rw [Hivra.parseTimestamp, hvalue]; rfl⟩
    | .str text, _ =>
      rw [Hivra.parseTimestamp]
      split <;> exact ⟨_, rfl⟩
    | .null, _ => exact ⟨_, rfl⟩
    | .bool value, _ => exact ⟨_, rfl⟩
    | .arr items, _ => exact ⟨_, rfl⟩
    | .obj members, _ => exact ⟨_, rfl⟩

variable {events : List (DartValue Double)}

/-- The latest timestamp of events that can be encoded is read. -/
theorem extractTailTimestamp_of_encodable (laws : DoubleLaws dart)
    (h : ∀ event ∈ events, Encodable dart event) (tail : Option ℤ) :
    ∃ last, extractTailTimestamp dart tail events = some last := by
  induction events generalizing tail with
  | nil => exact ⟨tail, rfl⟩
  | cons event rest ih =>
    have hrest := fun other hother => h other (List.mem_cons_of_mem event hother)
    match event, h event List.mem_cons_self with
    | .obj members, hevent =>
      obtain ⟨ts, hts⟩ := Encodable.parseTimestamp laws hevent
      rw [extractTailTimestamp, hts]
      exact ih hrest _
    | .null, _ => exact ih hrest _
    | .bool value, _ => exact ih hrest _
    | .num value, _ => exact ih hrest _
    | .str text, _ => exact ih hrest _
    | .arr items, _ => exact ih hrest _

/-- The birth among events that can be encoded is read. -/
theorem capsuleCreatedPayload_of_encodable (laws : DoubleLaws dart)
    (h : ∀ event ∈ events, Encodable dart event) :
    ∃ payload, capsuleCreatedPayload dart events = some payload := by
  induction events with
  | nil => exact ⟨none, rfl⟩
  | cons event rest ih =>
    have hrest := fun other hother => h other (List.mem_cons_of_mem event hother)
    match event, h event List.mem_cons_self with
    | .obj members, hevent =>
      rw [capsuleCreatedPayload]
      split_ifs
      · exact ih hrest
      · have hbytes : ∃ bytes, payloadBytes dart ((members.lookup "payload").getD .null)
            = some bytes := by
          cases hlookup : members.lookup "payload" with
          | none => exact ⟨[], rfl⟩
          | some value => exact Encodable.payloadBytes laws (hevent.member hlookup)
        obtain ⟨bytes, hbytes⟩ := hbytes
        exact ⟨_, by rw [hbytes]; rfl⟩
    | .null, _ => exact ih hrest
    | .bool value, _ => exact ih hrest
    | .num value, _ => exact ih hrest
    | .str text, _ => exact ih hrest
    | .arr items, _ => exact ih hrest

end Decoded

end Hivra
