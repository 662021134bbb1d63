import Hivra.Core.LedgerContinuity
import Hivra.Ffi.Ingress
import Hivra.Host.BackupCodec

namespace Hivra

open ByteString JsonDocument Serde

/-!
# A ledger document through the host

The runtime exports 64-bit numbers without a sign, the host keeps integers with one.  A
number from 2⁶³ on becomes a double in the host and is refused by the typed reader, so an
exported ledger comes back only when all its numbers stay below.
-/

/-- Every 64-bit number of a ledger document fits in a signed one. -/
structure FitsHost (ledger : Ledger) : Prop where
  timestamps : ∀ event ∈ ledger.events, event.timestamp.toNat < 2 ^ 63
  sequences : ∀ continuity ∈ ledger.continuityV5, ∀ receipt ∈ continuity.receipts,
    receipt.sequence.toNat < 2 ^ 63
  counts : ∀ continuity ∈ ledger.continuityV5, continuity.legacyEventCount < 2 ^ 63

section RoundTrip

variable {Double : Type} (dart : DartRuntime Double)

/-! ### Numbers that fit come back -/

theorem writeNat_kept {value : ℕ} (h : value < 2 ^ 63) :
    (writeNat value).traverse (hostLiteral dart) = some (writeNat value) := by
  have hrange : -2 ^ 63 ≤ (value : ℤ) ∧ (value : ℤ) < 2 ^ 63 := by omega
  rw [writeNat, Json.traverse, hostLiteral_int dart hrange]
  rfl

theorem writeU8_kept (value : UInt8) :
    (writeU8 value).traverse (hostLiteral dart) = some (writeU8 value) := by
  have hbound := value.toNat_lt
  exact writeNat_kept dart (by omega)

theorem writeU64_kept {value : UInt64} (h : value.toNat < 2 ^ 63) :
    (writeU64 value).traverse (hostLiteral dart) = some (writeU64 value) :=
  writeNat_kept dart h

theorem str_kept (text : String) :
    (Json.str text).traverse (hostLiteral dart) = some (.str text) := by
  rw [Json.traverse]

theorem writeBytes_kept (bytes : List UInt8) :
    (writeBytes bytes).traverse (hostLiteral dart) = some (writeBytes bytes) := by
  apply Json.traverse_arr_self
  intro item hitem
  obtain ⟨byte, -, rfl⟩ := List.mem_map.mp hitem
  exact writeU8_kept dart byte

theorem eventDocument_kept {event : Event} (h : event.timestamp.toNat < 2 ^ 63) :
    (eventDocument event).traverse (hostLiteral dart) = some (eventDocument event) := by
  apply Json.traverse_obj_self
  simp only [List.mem_cons, List.not_mem_nil, or_false, forall_eq_or_imp, forall_eq]
  exact ⟨str_kept dart _, writeBytes_kept dart _, writeBytes_kept dart _, writeBytes_kept dart _,
    writeU64_kept dart h, writeU8_kept dart _⟩

theorem receiptDocument_kept {receipt : LedgerV5Receipt} (h : receipt.sequence.toNat < 2 ^ 63) :
    (receiptDocument receipt).traverse (hostLiteral dart) = some (receiptDocument receipt) := by
  apply Json.traverse_obj_self
  simp only [List.mem_cons, List.not_mem_nil, or_false, forall_eq_or_imp, forall_eq]
  exact ⟨writeBytes_kept dart _, writeU64_kept dart h, writeBytes_kept dart _⟩

theorem anchorDocument_kept (anchor : LedgerAnchorV5) :
    (anchorDocument anchor).traverse (hostLiteral dart) = some (anchorDocument anchor) := by
  cases anchor with
  | fresh owner =>
    apply Json.traverse_obj_self
    simp only [List.mem_singleton, forall_eq]
    apply Json.traverse_obj_self
    simp only [List.mem_singleton, forall_eq]
    exact writeBytes_kept dart _
  | legacyV4 owner snapshot signature =>
    apply Json.traverse_obj_self
    simp only [List.mem_singleton, forall_eq]
    apply Json.traverse_obj_self
    simp only [List.mem_cons, List.not_mem_nil, or_false, forall_eq_or_imp, forall_eq]
    exact ⟨writeBytes_kept dart _, writeBytes_kept dart _, writeBytes_kept dart _⟩

theorem optionDocument_kept {record : Option ContinuousLedgerV5}
    (hcounts : ∀ continuity ∈ record, continuity.legacyEventCount < 2 ^ 63)
    (hsequences : ∀ continuity ∈ record, ∀ receipt ∈ continuity.receipts,
      receipt.sequence.toNat < 2 ^ 63) :
    (optionDocument record).traverse (hostLiteral dart) = some (optionDocument record) := by
  cases record with
  | none => rw [optionDocument, Json.traverse]
  | some continuity =>
    apply Json.traverse_obj_self
    simp only [List.mem_cons, List.not_mem_nil, or_false, forall_eq_or_imp, forall_eq]
    refine ⟨anchorDocument_kept dart _, writeNat_kept dart (hcounts continuity rfl), ?_⟩
    apply Json.traverse_arr_self
    intro item hitem
    obtain ⟨receipt, hreceipt, rfl⟩ := List.mem_map.mp hitem
    exact receiptDocument_kept dart (hsequences continuity rfl receipt hreceipt)

variable {ledger : Ledger}

/-- **Below 2⁶³ the exported document comes back as it was.** -/
theorem exported_kept (sha256 : Sha256) (h : FitsHost ledger) :
    (exportedLedger sha256 ledger).traverse (hostLiteral dart)
      = some (exportedLedger sha256 ledger) := by
  have hevents : (Json.arr (ledger.events.map eventDocument)).traverse (hostLiteral dart)
      = some (.arr (ledger.events.map eventDocument)) := by
    apply Json.traverse_arr_self
    intro item hitem
    obtain ⟨event, hevent, rfl⟩ := List.mem_map.mp hitem
    exact eventDocument_kept dart (h.timestamps event hevent)
  have hrecord := optionDocument_kept dart h.counts h.sequences
  apply Json.traverse_obj_self
  intro member hmember
  rw [ledgerMembers, List.mem_append, List.mem_append] at hmember
  rcases hmember with (hfront | hhead) | hback
  · simp only [List.mem_cons, List.not_mem_nil, or_false] at hfront
    rcases hfront with rfl | rfl
    · exact hrecord
    · exact hevents
  · rcases headMembers_cases sha256 ledger with hnil | ⟨text, htext⟩
    · rw [hnil] at hhead
      cases hhead
    · rw [htext, List.mem_singleton] at hhead
      rw [hhead]
      exact str_kept dart text
  · simp only [List.mem_cons, List.not_mem_nil, or_false] at hback
    rcases hback with rfl | rfl
    · exact str_kept dart _
    · exact writeBytes_kept dart _

/-! ### Numbers that come back had fitted -/

variable {doc : Document}

/-- A number that is read back had fitted. -/
theorem lt_of_readNat {value bound read : ℕ}
    (hdoc : (writeNat value).traverse (hostLiteral dart) = some doc)
    (hread : readNat bound doc = some read) : value < 2 ^ 63 := by
  obtain ⟨literal, rfl⟩ := int_of_readNat hread
  rw [writeNat, Json.traverse, Option.map_eq_some_iff] at hdoc
  obtain ⟨changed, hchanged, heq⟩ := hdoc
  injection heq with heq
  rw [heq] at hchanged
  obtain ⟨hsame, -, hlt⟩ := int_of_hostLiteral dart hchanged
  injection hsame with hsame
  omega

theorem lt_of_readU64 {value read : UInt64}
    (hdoc : (writeU64 value).traverse (hostLiteral dart) = some doc)
    (hread : readU64 doc = some read) : value.toNat < 2 ^ 63 := by
  rw [readU64, Option.map_eq_some_iff] at hread
  obtain ⟨_, hnat, -⟩ := hread
  exact lt_of_readNat dart hdoc hnat

theorem lt_of_readEvent {event read : Event}
    (hdoc : (eventDocument event).traverse (hostLiteral dart) = some doc)
    (hread : readEvent doc = some read) : event.timestamp.toNat < 2 ^ 63 := by
  obtain ⟨members', rfl, hmembers⟩ := (Json.traverse_obj_iff _ _).mp hdoc
  obtain ⟨fields, hfields, -, -, -, htimestamp, -⟩ := (readEvent_iff _ _).mp hread
  rw [readStruct_of_changed hmembers (by simp), Option.some.injEq] at hfields
  rw [← hfields] at htimestamp
  obtain ⟨value, hvalue, hu64⟩ :=
    @readField_of_changed _ _ _ _ hmembers "timestamp" (writeU64 event.timestamp)
      (by simp [List.lookup]) _ _ htimestamp
  exact lt_of_readU64 dart hvalue hu64

theorem lt_of_readReceipt {receipt read : LedgerV5Receipt}
    (hdoc : (receiptDocument receipt).traverse (hostLiteral dart) = some doc)
    (hread : readReceipt doc = some read) : receipt.sequence.toNat < 2 ^ 63 := by
  obtain ⟨members', rfl, hmembers⟩ := (Json.traverse_obj_iff _ _).mp hdoc
  obtain ⟨fields, hfields, hsequence, -⟩ := (readReceipt_iff _ _).mp hread
  rw [readStruct_of_changed hmembers (by simp), Option.some.injEq] at hfields
  rw [← hfields] at hsequence
  obtain ⟨value, hvalue, hu64⟩ :=
    @readField_of_changed _ _ _ _ hmembers "sequence" (writeU64 receipt.sequence)
      (by simp [List.lookup]) _ _ hsequence
  exact lt_of_readU64 dart hvalue hu64

/-- A continuity record that is read back had fitted. -/
theorem lt_of_readContinuity {continuity read : ContinuousLedgerV5}
    (hdoc : (continuityDocument continuity).traverse (hostLiteral dart) = some doc)
    (hread : readContinuity doc = some read) :
    continuity.legacyEventCount < 2 ^ 63 ∧
      ∀ receipt ∈ continuity.receipts, receipt.sequence.toNat < 2 ^ 63 := by
  obtain ⟨members', rfl, hmembers⟩ := (Json.traverse_obj_iff _ _).mp hdoc
  obtain ⟨fields, hfields, -, hcount, hreceipts⟩ := (readContinuity_iff _ _).mp hread
  rw [readStruct_of_changed hmembers (by simp), Option.some.injEq] at hfields
  rw [← hfields] at hcount hreceipts
  constructor
  · obtain ⟨value, hvalue, hlookup⟩ :=
      @Json.exists_lookup_of_forall₂ _ _ _ _ _ hmembers "legacy_event_count"
        (writeNat continuity.legacyEventCount) (by simp [List.lookup])
    dsimp only at hcount
    rw [hlookup, readLegacyCount] at hcount
    exact lt_of_readNat dart hvalue hcount
  · obtain ⟨value, hvalue, hlist⟩ :=
      @readField_of_changed _ _ _ _ hmembers "receipts"
        (.arr (continuity.receipts.map receiptDocument)) (by simp [List.lookup]) _ _ hreceipts
    intro receipt hreceipt
    obtain ⟨item, _, hitem, hitemRead⟩ := readList_of_changed hvalue hlist receipt hreceipt
    exact lt_of_readReceipt dart hitem hitemRead

/-- What was written of a continuity record. -/
theorem lt_of_readContinuityField {record read : Option ContinuousLedgerV5}
    (hdoc : (optionDocument record).traverse (hostLiteral dart) = some doc)
    (hread : readContinuityField (some doc) = some read) :
    ∀ continuity ∈ record, continuity.legacyEventCount < 2 ^ 63 ∧
      ∀ receipt ∈ continuity.receipts, receipt.sequence.toNat < 2 ^ 63 := by
  intro continuity hcontinuity
  rw [Option.mem_def] at hcontinuity
  rw [hcontinuity, optionDocument] at hdoc
  obtain ⟨members', rfl, -⟩ := (Json.traverse_obj_iff _ _).mp hdoc
  have hsome : (readContinuity (.obj members')).map some = some read := hread
  rw [Option.map_eq_some_iff] at hsome
  obtain ⟨inner, hinner, -⟩ := hsome
  exact lt_of_readContinuity dart hdoc hinner

/-- **What is parsed back at all had only numbers below 2⁶³.** -/
theorem fitsHost_of_parse (lossy : Literal → Option UInt64) (sha256 : Sha256) {ledger read : Ledger}
    (hdoc : (exportedLedger sha256 ledger).traverse (hostLiteral dart) = some doc)
    (hread : parseLedgerJson lossy doc = .ok read) : FitsHost ledger := by
  have hshape := exportedShape sha256 ledger
  obtain ⟨hevents, -, hrecord⟩ := lookup_exportedLedger sha256 ledger
  obtain ⟨members', rfl, hmembers⟩ := (Json.traverse_obj_iff _ _).mp hdoc
  -- the changed document still has its names and the text of its hash
  have hshape' : ExportedShape members' ledger.lastHash := by
    refine ⟨Json.WellKeyed.traverse _ _ hshape.keyed hdoc, ?_, ?_⟩
    · rw [Json.lookup_of_forall₂ hmembers, hshape.hash, Option.bind_some, Json.traverse]
    · rw [Json.lookup_of_forall₂ hmembers, hshape.schema, Option.bind_none]
  rw [parseLedgerJson_of_shape lossy hshape', fromValue_iff lossy hshape'.keyed.1 hshape'.hash]
    at hread
  obtain ⟨hreadEvents, -, -, hreadRecord⟩ := hread
  obtain ⟨list, hlist, hlistRead⟩ := readField_of_changed hmembers hevents hreadEvents
  obtain ⟨record, hrecordDoc, hlookup⟩ := Json.exists_lookup_of_forall₂ hmembers hrecord
  rw [hlookup] at hreadRecord
  have hfits := lt_of_readContinuityField dart hrecordDoc hreadRecord
  refine ⟨?_, fun continuity h => (hfits continuity h).2, fun continuity h => (hfits continuity h).1⟩
  intro event hevent
  obtain ⟨item, _, hitem, hitemRead⟩ := readList_of_changed hlist hlistRead event hevent
  exact lt_of_readEvent dart hitem hitemRead

/-! ### The decoded document -/

/-- The members of the exported document, decoded. -/
def decodedMembers (sha256 : Sha256) (ledger : Ledger) : List (String × DartValue Double) :=
  Json.mapMembers (decodeNumber dart) (ledgerMembers ledger (headMembers sha256 ledger)
    (.str (Nat.repr ledger.lastHash.toNat)))

theorem jsonDecode_exported (sha256 : Sha256) (ledger : Ledger) :
    jsonDecode dart (exportedLedger sha256 ledger) = .obj (decodedMembers dart sha256 ledger) := by
  rw [jsonDecode, Json.collapse_of_wellKeyed _ (wellKeyed_exportedLedger sha256 ledger),
    exportedLedger, Json.map]
  rfl

theorem exportLedgerRoot_exported (sha256 : Sha256) (ledger : Ledger) :
    exportLedgerRoot dart (exportedLedger sha256 ledger)
      = some (decodedMembers dart sha256 ledger) := by
  rw [exportLedgerRoot, jsonDecode_exported]

/-- Encoding the decoded members is recoding the document. -/
theorem jsonEncode_decodedMembers (sha256 : Sha256) (ledger : Ledger) :
    jsonEncode dart (.obj (decodedMembers dart sha256 ledger))
      = (exportedLedger sha256 ledger).traverse (hostLiteral dart) := by
  rw [← recode_eq dart (wellKeyed_exportedLedger sha256 ledger), recode, jsonDecode_exported]

/-- The bytes of a decoded byte string. -/
theorem payloadItems_decoded (bytes out : List UInt8) :
    payloadItems dart out (Json.mapItems (decodeNumber dart) (bytes.map writeU8))
      = some (out ++ bytes) := by
  induction bytes generalizing out with
  | nil => simp [Json.mapItems, payloadItems]
  | cons byte rest ih =>
    have hbound := byte.toNat_lt
    have hrange : -2 ^ 63 ≤ (byte.toNat : ℤ) ∧ (byte.toNat : ℤ) < 2 ^ 63 := by omega
    have hbyte : byteOfInt (byte.toNat : ℤ) = some byte := by
      rw [byteOfInt, if_pos (by omega), Int.toNat_natCast, UInt8.ofNat_toNat]
    rw [List.map_cons, Json.mapItems, writeU8, writeNat, Json.map, decodeNumber, if_pos hrange,
      payloadItems, hbyte]
    show payloadItems dart (out ++ [byte]) _ = _
    rw [ih, List.append_assoc]
    rfl

/-- The owner of the decoded document. -/
private theorem lookup_owner_decoded (sha256 : Sha256) (ledger : Ledger) :
    (decodedMembers dart sha256 ledger).lookup "owner"
      = some (.arr (Json.mapItems (decodeNumber dart)
          (ledger.owner.bytes.toList.map writeU8))) := by
  rw [decodedMembers, Json.lookup_mapMembers, (lookup_exportedLedger sha256 ledger).2.1]
  rw [Option.map_some, writeBytes, Json.map]

/-- The events of the decoded document. -/
private theorem lookup_events_decoded (sha256 : Sha256) (ledger : Ledger) :
    (decodedMembers dart sha256 ledger).lookup "events"
      = some (.arr (Json.mapItems (decodeNumber dart) (ledger.events.map eventDocument))) := by
  rw [decodedMembers, Json.lookup_mapMembers, (lookup_exportedLedger sha256 ledger).1]
  rw [Option.map_some, Json.map]

/-- The events of an exported ledger, one by one. -/
theorem rootEvents_decoded (sha256 : Sha256) (ledger : Ledger) :
    rootEvents (decodedMembers dart sha256 ledger)
      = ledger.events.map fun event => (eventDocument event).map (decodeNumber dart) := by
  rw [rootEvents, lookup_events_decoded, Json.mapItems_eq_map, List.map_map]
  rfl

theorem isLedgerShape_decoded (sha256 : Sha256) (ledger : Ledger) :
    isLedgerShape dart (decodedMembers dart sha256 ledger) = some true := by
  rw [isLedgerShape, lookup_owner_decoded, Option.getD_some, payloadBytes, payloadItems_decoded,
    lookup_events_decoded]
  simp

theorem ownerHex_decoded (sha256 : Sha256) (ledger : Ledger) :
    ownerHex dart (decodedMembers dart sha256 ledger)
      = some (some (hexText ledger.owner.bytes.toList)) := by
  have hlength : ledger.owner.bytes.toList.length = 32 := ledger.owner.bytes.2
  have hne : ledger.owner.bytes.toList.isEmpty = false := by
    rw [List.isEmpty_eq_false_iff_exists_mem]
    exact List.exists_mem_of_length_pos (by omega)
  rw [ownerHex, lookup_owner_decoded, parseBytesField, payloadItems_decoded, List.nil_append,
    Option.map_some, Option.map_some, hne, if_neg (by simp), Option.bind_some, if_pos hlength]

/-! ### The timestamps of the decoded document -/

/-- The timestamp of a decoded event is a number or a double that has an integer. -/
private theorem parseTimestamp_decoded {event : Event} (h : event.timestamp.toNat < 2 ^ 63) :
    ∃ members ts, (eventDocument event).map (decodeNumber dart) = .obj members ∧
      parseTimestamp dart (members.lookup "timestamp") = some ts := by
  have hrange : -2 ^ 63 ≤ (event.timestamp.toNat : ℤ) ∧ (event.timestamp.toNat : ℤ) < 2 ^ 63 := by
    omega
  rw [eventDocument, Json.map]
  refine ⟨_, nonNegative event.timestamp.toNat, rfl, ?_⟩
  rw [Json.lookup_mapMembers]
  simp only [List.lookup, String.reduceBEq, Option.map_some]
  rw [writeU64, writeNat, Json.map, decodeNumber, if_pos hrange, parseTimestamp]

/-- The loop over decoded events does not throw. -/
private theorem extractTailTimestamp_decoded {events : List Event}
    (h : ∀ event ∈ events, event.timestamp.toNat < 2 ^ 63) (tail : Option ℤ) :
    ∃ ts, extractTailTimestamp dart tail
      (Json.mapItems (decodeNumber dart) (events.map eventDocument)) = some ts := by
  induction events generalizing tail with
  | nil => exact ⟨tail, rfl⟩
  | cons event rest ih =>
    obtain ⟨members, ts, hmap, hts⟩ := parseTimestamp_decoded dart (h event List.mem_cons_self)
    rw [List.map_cons, Json.mapItems, hmap, extractTailTimestamp, hts]
    exact ih (fun other hother => h other (List.mem_cons_of_mem event hother)) _

/-! ### Three ways through the host -/

/-- An envelope around a document. -/
def envelopeOf (exportedAt : String) (doc : Document) (flags : List (String × Document)) :
    Document :=
  .obj [
    ("schema", .str "hivra.capsule_backup"),
    ("version", writeNat 1),
    ("exported_at_utc", .str exportedAt),
    ("ledger", doc),
    ("meta", .obj flags)]

/-- The flags of an envelope as they are encoded. -/
private theorem flags_encoded (isGenesis isNeste : Option Bool) :
    ∃ flags : List (String × Document), (Json.obj flags).WellKeyed ∧
      jsonEncode dart (.obj (flagMembers "is_genesis" isGenesis ++ flagMembers "is_neste" isNeste))
        = some (.obj flags) := by
  cases isGenesis <;> cases isNeste <;>
    simp [flagMembers, jsonEncode, Json.traverse, Json.traverseMembers, Json.WellKeyed,
      Json.WellKeyedMembers]

/-- The envelope around an exported document that comes back as it was. -/
theorem encodeBackupEnvelope_exported (sha256 : Sha256) (h : FitsHost ledger) (exportedAt : String)
    (isGenesis isNeste : Option Bool) :
    ∃ flags, (Json.obj flags).WellKeyed ∧
      encodeBackupEnvelope dart exportedAt (exportedLedger sha256 ledger) isGenesis isNeste
        = some (envelopeOf exportedAt (exportedLedger sha256 ledger) flags) := by
  obtain ⟨flags, hkeyed, hflags⟩ := flags_encoded dart isGenesis isNeste
  have hledger : (Json.obj (decodedMembers dart sha256 ledger)).traverse (encodeNumber dart)
      = some (exportedLedger sha256 ledger) := by
    have hencode := jsonEncode_decodedMembers dart sha256 ledger
    rw [exported_kept dart sha256 h] at hencode
    exact hencode
  refine ⟨flags, hkeyed, ?_⟩
  rw [encodeBackupEnvelope, exportLedgerRoot_exported]
  rw [jsonEncode] at hflags
  simp only [jsonEncode, Json.traverse_obj_iff, envelopeOf, Json.obj.injEq]
  refine ⟨_, rfl, ?_⟩
  refine .cons ⟨rfl, by rw [Json.traverse]⟩ (.cons ⟨rfl, ?_⟩ (.cons ⟨rfl, by rw [Json.traverse]⟩
    (.cons ⟨rfl, hledger⟩ (.cons ⟨rfl, hflags⟩ .nil))))
  rw [Json.traverse]
  rfl

private theorem wellKeyed_envelopeOf {exportedAt : String} {flags : List (String × Document)}
    (hdoc : doc.WellKeyed) (hflags : (Json.obj flags).WellKeyed) :
    (envelopeOf exportedAt doc flags).WellKeyed := by
  refine ⟨by simp, (Json.wellKeyedMembers_iff _).mpr ?_⟩
  simp only [List.mem_cons, List.not_mem_nil, or_false, forall_eq_or_imp, forall_eq]
  exact ⟨trivial, trivial, trivial, hdoc, hflags⟩

variable {flags : List (String × Document)}

/-- An envelope is parsed as the document in it. -/
theorem parseLedgerJson_envelopeOf (lossy : Literal → Option UInt64) {exportedAt : String}
    (hdoc : doc.WellKeyed) (hflags : (Json.obj flags).WellKeyed) :
    parseLedgerJson lossy (envelopeOf exportedAt doc flags) = fromValue lossy doc := by
  have hkeyed := @wellKeyed_envelopeOf doc exportedAt flags hdoc hflags
  have hdirect : readLedger (envelopeOf exportedAt doc flags) = none := by
    rw [Option.eq_none_iff_forall_ne_some]
    intro ledger hledger
    rw [envelopeOf] at hkeyed hledger
    have hevents := ((readLedger_obj_iff hkeyed.1 ledger).mp hledger).1
    simp [List.lookup] at hevents
  rw [parseLedgerJson, hdirect, Json.collapse_of_wellKeyed _ hkeyed, envelopeOf]
  have hversion : readU64 (writeNat 1) = some 1 := readU64_writeU64 1
  simp [List.lookup, asStr, hversion]

/-- What is extracted from the envelope is the document in it. -/
theorem tryExtractLedgerJson_envelopeOf (sha256 : Sha256) (h : FitsHost ledger)
    {exportedAt : String} (hflags : (Json.obj flags).WellKeyed) :
    tryExtractLedgerJson dart (envelopeOf exportedAt (exportedLedger sha256 ledger) flags)
      = some (some (exportedLedger sha256 ledger)) := by
  have hkeyed := @wellKeyed_envelopeOf _ exportedAt flags
    (wellKeyed_exportedLedger sha256 ledger) hflags
  have hledger : (exportedLedger sha256 ledger).map (decodeNumber dart)
      = .obj (decodedMembers dart sha256 ledger) := by
    rw [exportedLedger, Json.map]
    rfl
  have hversion : (writeNat 1).map (decodeNumber dart) = .num (.inl 1) := by
    rw [writeNat, Json.map, decodeNumber, if_pos (by omega)]
    rfl
  have hencode : jsonEncode dart (.obj (decodedMembers dart sha256 ledger))
      = some (exportedLedger sha256 ledger) := by
    rw [jsonEncode_decodedMembers, exported_kept dart sha256 h]
  rw [tryExtractLedgerJson, jsonDecode, Json.collapse_of_wellKeyed _ hkeyed, envelopeOf, Json.map]
  simp only [Json.lookup_mapMembers, List.lookup, String.reduceBEq, Option.map_some, hversion, hledger,
    Json.map]
  rw [if_pos ⟨by simp [isBackupSchema], by simp [isBackupVersion]⟩, encodeLedgerShape,
    isLedgerShape_decoded]
  simp [hencode]

/-- What is extracted from the raw document is the document. -/
theorem tryExtractLedgerJson_exported (sha256 : Sha256) (h : FitsHost ledger) :
    tryExtractLedgerJson dart (exportedLedger sha256 ledger)
      = some (some (exportedLedger sha256 ledger)) := by
  have hschema : (decodedMembers dart sha256 ledger).lookup "schema" = none := by
    rw [decodedMembers, Json.lookup_mapMembers, (exportedShape sha256 ledger).schema]
    rfl
  have hencode : jsonEncode dart (.obj (decodedMembers dart sha256 ledger))
      = some (exportedLedger sha256 ledger) := by
    rw [jsonEncode_decodedMembers, exported_kept dart sha256 h]
  rw [tryExtractLedgerJson, jsonDecode_exported]
  dsimp only
  rw [hschema, if_neg (by simp [isBackupSchema]), encodeLedgerShape, isLedgerShape_decoded]
  simp [hencode]

/-- A candidate carries the recoded document. -/
theorem recoded_of_candidate (sha256 : Sha256) {pubKeyHex : String} {source : LedgerSource}
    {candidate : LedgerCandidate}
    (h : ledgerCandidateForCapsule dart (exportedLedger sha256 ledger) pubKeyHex source
      = some (some candidate)) :
    (exportedLedger sha256 ledger).traverse (hostLiteral dart) = some candidate.json := by
  rw [ledgerCandidateForCapsule, exportLedgerRoot_exported] at h
  dsimp only at h
  rw [ownerHex_decoded] at h
  dsimp only at h
  rw [jsonEncode_decodedMembers] at h
  split at h
  · cases h
  · split at h
    · rename_i json _ hjson _
      rw [hjson, ← Option.some.inj (Option.some.inj h)]
    · cases h

/-- A ledger whose numbers fit is a candidate of its own capsule. -/
theorem candidate_of_fits (sha256 : Sha256) (h : FitsHost ledger) (source : LedgerSource) :
    ∃ candidate, ledgerCandidateForCapsule dart (exportedLedger sha256 ledger)
        (hexText ledger.owner.bytes.toList) source = some (some candidate) ∧
      candidate.json = exportedLedger sha256 ledger ∧
      candidate.eventCount = ledger.events.length := by
  have hevents : rootEvents (decodedMembers dart sha256 ledger)
      = Json.mapItems (decodeNumber dart) (ledger.events.map eventDocument) := by
    rw [rootEvents, lookup_events_decoded]
  obtain ⟨tail, htail⟩ := extractTailTimestamp_decoded dart h.timestamps none
  refine ⟨⟨source, exportedLedger sha256 ledger,
    (rootEvents (decodedMembers dart sha256 ledger)).length, tail⟩, ?_, rfl, ?_⟩
  swap
  · exact (congrArg List.length (rootEvents_decoded dart sha256 ledger)).trans
      (List.length_map _)
  rw [ledgerCandidateForCapsule, exportLedgerRoot_exported]
  dsimp only
  rw [ownerHex_decoded]
  dsimp only
  rw [if_neg (by simp), jsonEncode_decodedMembers, exported_kept dart sha256 h, hevents, htail]

/-! ### The round trip -/

/-- A ledger survives the host: as a candidate, in an envelope, out of the envelope again
    and as a raw document, it is parsed back as the same ledger. -/
structure SurvivesHost (lossy : Literal → Option UInt64) (doc : Document) (ledger : Ledger) :
    Prop where
  candidate : ∀ source, ∃ candidate, ledgerCandidateForCapsule dart doc
      (hexText ledger.owner.bytes.toList) source = some (some candidate) ∧
    parseLedgerJson lossy candidate.json = .ok ledger
  envelope : ∀ exportedAt isGenesis isNeste, ∃ envelope,
    encodeBackupEnvelope dart exportedAt doc isGenesis isNeste = some envelope ∧
    parseLedgerJson lossy envelope = .ok ledger ∧
    ∃ inner, tryExtractLedgerJson dart envelope = some (some inner) ∧
      parseLedgerJson lossy inner = .ok ledger
  raw : ∃ inner, tryExtractLedgerJson dart doc = some (some inner) ∧
    parseLedgerJson lossy inner = .ok ledger

/-- **The round trip.** An exported ledger survives the host iff all its numbers fit in a
    signed 64-bit integer. -/
theorem survivesHost_iff (lossy : Literal → Option UInt64) (sha256 : Sha256) (ledger : Ledger) :
    SurvivesHost dart lossy (exportedLedger sha256 ledger) ledger ↔ FitsHost ledger := by
  constructor
  · intro h
    obtain ⟨candidate, hcandidate, hparse⟩ := h.candidate .ledger
    exact fitsHost_of_parse dart lossy sha256 (recoded_of_candidate dart sha256 hcandidate) hparse
  · intro h
    have hcount : ledger.CountFits := by
      intro continuity hcontinuity
      have hfits := h.counts continuity hcontinuity
      omega
    have hparse := parseLedgerJson_export lossy sha256 hcount
    refine ⟨?_, ?_, ?_⟩
    · intro source
      obtain ⟨candidate, hcandidate, hjson, -⟩ := candidate_of_fits dart sha256 h source
      exact ⟨candidate, hcandidate, by rw [hjson, hparse]⟩
    · intro exportedAt isGenesis isNeste
      obtain ⟨flags, hflags, hencode⟩ :=
        encodeBackupEnvelope_exported dart sha256 h exportedAt isGenesis isNeste
      refine ⟨_, hencode, ?_, _, tryExtractLedgerJson_envelopeOf dart sha256 h hflags, hparse⟩
      rw [parseLedgerJson_envelopeOf lossy (wellKeyed_exportedLedger sha256 ledger) hflags]
      exact fromValue_exportedLedger lossy sha256 hcount
    · exact ⟨_, tryExtractLedgerJson_exported dart sha256 h, hparse⟩

/-- What the runtime exports survives the host. -/
def StateSurvives (lossy : Literal → Option UInt64) (sha256 : Sha256) (state : RuntimeState) :
    Prop :=
  ∀ capsule doc, state.capsule = some capsule → exportRuntimeLedger sha256 state = .ok doc →
    SurvivesHost dart lossy doc capsule.ledger

/-- **The round trip of a runtime state.** The ledger of every state, however it came about,
    survives the host iff its numbers fit. -/
theorem stateSurvives_iff (lossy : Literal → Option UInt64) (sha256 : Sha256)
    (state : RuntimeState) :
    StateSurvives dart lossy sha256 state ↔
      ∀ capsule, state.capsule = some capsule → FitsHost capsule.ledger := by
  constructor
  · intro h capsule hcapsule
    have hexport : exportRuntimeLedger sha256 state
        = .ok (exportedLedger sha256 capsule.ledger) := by
      rw [exportRuntimeLedger, hcapsule]
    exact (survivesHost_iff dart lossy sha256 capsule.ledger).mp (h capsule _ hcapsule hexport)
  · intro h capsule doc hcapsule hexport
    rw [exportRuntimeLedger, hcapsule] at hexport
    rw [← Except.ok.inj hexport]
    exact (survivesHost_iff dart lossy sha256 capsule.ledger).mpr (h capsule hcapsule)

end RoundTrip

/-! ### An offer from far in the future -/

/-- The root and transport keys of a host. -/
def hostSeed : PubKey × PubKey := (⟨fill 32 7⟩, ⟨fill 32 17⟩)

/-- The host with an empty ledger. -/
def hostState : RuntimeState := ⟨some ⟨.neste, .freshV5 hostSeed.1⟩, 0⟩

/-- An offer to the host with the timestamp 2⁶³, as the root key 67 signs it. -/
def farOffer : Event :=
  let unsigned := Event.newV5 .invitationReceived
    (List.replicate 32 1 ++ List.replicate 32 2 ++ List.replicate 32 17 ++ List.replicate 32 67)
    (UInt64.ofNat (2 ^ 63)) ⟨fill 64 0⟩ ⟨fill 32 67⟩
  { unsigned with signature := ⟨⟨(unsigned.eventId sampleDigest).toList ++ List.replicate 32 67,
    by simp⟩⟩ }

/-- The offer in an envelope. -/
def farOfferEnvelope : DeliveryEnvelope where
  fromPubkey := ⟨fill 32 66⟩
  toPubkey := ⟨fill 32 17⟩
  kind := 1
  payload := farOffer.payload
  timestamp := farOffer.timestamp
  domainEvent := some {
    version := 5
    kind := 9
    signer := farOffer.signer
    signature := farOffer.signature.bytes.toList }

def hostOutside : IngressOutside (PubKey × PubKey) where
  chatStored := true
  attestationStored := true
  append := { loadSeed := some hostSeed, clock := some 4 }
  effect := { loadSeed := some hostSeed, clock := some 5 }

/-- The host after the offer was delivered. -/
def farOfferState : RuntimeState :=
  (routeInboundEnvelope samplePlatform hostSeed hostSeed.2 hostOutside farOfferEnvelope
    ⟨0, 0, 0, 0, 0, 0, 0, 0, 0, 0, 0, 0, 0, 0⟩ hostState).state

/-- **Counterexample.** The runtime takes the offer, and its ledger does not survive the
    host. -/
theorem farOffer_lost :
    farOfferState.events.map (fun event => event.timestamp) = [UInt64.ofNat (2 ^ 63)] ∧
      ¬ StateSurvives sampleDart (fun _ => none) sampleDigest farOfferState := by
  have htimestamps : farOfferState.events.map (fun event => event.timestamp)
      = [UInt64.ofNat (2 ^ 63)] := by decide +kernel
  refine ⟨htimestamps, ?_⟩
  intro hsurvives
  have hsome : farOfferState.capsule.isSome = true := by decide +kernel
  obtain ⟨capsule, hcapsule⟩ := Option.isSome_iff_exists.mp hsome
  have hevents : farOfferState.events = capsule.ledger.events := by
    rw [RuntimeState.events, hcapsule]
  have hexport : exportRuntimeLedger sampleDigest farOfferState
      = .ok (exportedLedger sampleDigest capsule.ledger) := by
    rw [exportRuntimeLedger, hcapsule]
  have hfits := (survivesHost_iff sampleDart _ sampleDigest capsule.ledger).mp
    (hsurvives capsule _ hcapsule hexport)
  rw [hevents] at htimestamps
  obtain ⟨event, hevent, htimestamp⟩ := List.mem_map.mp
    (show UInt64.ofNat (2 ^ 63) ∈ capsule.ledger.events.map _ by rw [htimestamps]; simp)
  have hsmall := hfits.timestamps event hevent
  rw [htimestamp] at hsmall
  exact absurd hsmall (by decide)

end Hivra
