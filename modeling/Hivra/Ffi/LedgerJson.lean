import Hivra.Ffi.Runtime
import Hivra.Lib.Serde

namespace Hivra

open ByteString JsonDocument Serde

/-!
# The ledger document

How the runtime writes its ledger as a JSON document and reads one back.  Objects are
written with their names in order.  The running hash is exported as a text, which the typed
reader refuses, so an exported document is read on the second path, where the text is
turned back into a number.

* `readEvent_iff`, `readLedger_obj_iff` — what is read of a document, field by field.
-/

/-! ### Names -/

namespace EventKind

/-- The variant name of an event kind. -/
def name : EventKind → String
  | capsuleCreated => "CapsuleCreated"
  | invitationSent => "InvitationSent"
  | invitationAccepted => "InvitationAccepted"
  | invitationRejected => "InvitationRejected"
  | invitationExpired => "InvitationExpired"
  | starterCreated => "StarterCreated"
  | starterBurned => "StarterBurned"
  | relationshipEstablished => "RelationshipEstablished"
  | relationshipBroken => "RelationshipBroken"
  | invitationReceived => "InvitationReceived"

/-- The event kind of a variant name. -/
def ofName (name : String) : Option EventKind :=
  match name with
  | "CapsuleCreated" => some capsuleCreated
  | "InvitationSent" => some invitationSent
  | "InvitationAccepted" => some invitationAccepted
  | "InvitationRejected" => some invitationRejected
  | "InvitationExpired" => some invitationExpired
  | "StarterCreated" => some starterCreated
  | "StarterBurned" => some starterBurned
  | "RelationshipEstablished" => some relationshipEstablished
  | "RelationshipBroken" => some relationshipBroken
  | "InvitationReceived" => some invitationReceived
  | _ => none

@[simp] theorem ofName_name (kind : EventKind) : ofName kind.name = some kind := by
  cases kind <;> rfl

end EventKind

/-! ### Writing -/

def eventDocument (event : Event) : Document :=
  .obj [
    ("kind", .str event.kind.name),
    ("payload", writeBytes event.payload),
    ("signature", writeBytes event.signature.bytes.toList),
    ("signer", writeBytes event.signer.bytes.toList),
    ("timestamp", writeU64 event.timestamp),
    ("version", writeU8 event.version)]

def receiptDocument (receipt : LedgerV5Receipt) : Document :=
  .obj [
    ("previous_commitment", writeBytes receipt.previousCommitment.toList),
    ("sequence", writeU64 receipt.sequence),
    ("signature", writeBytes receipt.signature.bytes.toList)]

def anchorDocument : LedgerAnchorV5 → Document
  | .fresh owner => .obj [("Fresh", .obj [("owner", writeBytes owner.bytes.toList)])]
  | .legacyV4 owner snapshot signature =>
    .obj [("LegacyV4", .obj [
      ("owner", writeBytes owner.bytes.toList),
      ("signature", writeBytes signature.bytes.toList),
      ("snapshot", writeBytes snapshot.toList)])]

def continuityDocument (continuity : ContinuousLedgerV5) : Document :=
  .obj [
    ("anchor", anchorDocument continuity.anchor),
    ("legacy_event_count", writeNat continuity.legacyEventCount),
    ("receipts", .arr (continuity.receipts.map receiptDocument))]

def optionDocument : Option ContinuousLedgerV5 → Document
  | some continuity => continuityDocument continuity
  | none => .null

/-- The members of a ledger document; `lastHash` is how the running hash is written, and
    `head` the members that stand before it. -/
def ledgerMembers (ledger : Ledger) (head : List (String × Document)) (lastHash : Document) :
    List (String × Document) :=
  [("continuity_v5", optionDocument ledger.continuityV5),
    ("events", .arr (ledger.events.map eventDocument))] ++ head ++
  [("last_hash", lastHash),
    ("owner", writeBytes ledger.owner.bytes.toList)]

/-- Two lower-case hexadecimal digits for each byte. -/
def hexText (bytes : List UInt8) : String :=
  String.ofList (bytes.flatMap fun byte =>
    [Nat.digitChar (byte.toNat / 16), Nat.digitChar (byte.toNat % 16)])

/-- Two digits a byte. -/
theorem length_hexText (bytes : List UInt8) : (hexText bytes).toList.length = 2 * bytes.length := by
  rw [hexText, String.toList_ofList]
  induction bytes with
  | nil => rfl
  | cons byte rest ih =>
    rw [List.flatMap_cons, List.length_append, ih, List.length_cons, List.length_cons,
      List.length_cons, List.length_nil]
    omega

/-- Bytes can be read off their digits. -/
theorem hexText_inj {bytes bytes' : List UInt8} (h : hexText bytes = hexText bytes') :
    bytes = bytes' := by
  have hdigit : ∀ a < 16, ∀ b < 16, Nat.digitChar a = Nat.digitChar b → a = b := by decide
  have hlists := congrArg String.toList h
  rw [hexText, hexText, String.toList_ofList, String.toList_ofList] at hlists
  clear h
  induction bytes generalizing bytes' with
  | nil =>
    cases bytes' with
    | nil => rfl
    | cons byte' rest' => exact nomatch hlists
  | cons byte rest ih =>
    cases bytes' with
    | nil => exact nomatch hlists
    | cons byte' rest' =>
      obtain ⟨hhigh, htail⟩ := List.cons.inj hlists
      obtain ⟨hlow, hrest⟩ := List.cons.inj htail
      have hbound := byte.toNat_lt
      have hbound' := byte'.toNat_lt
      have hsame : byte.toNat = byte'.toNat := by
        have hdiv := hdigit _ (by omega) _ (by omega) hhigh
        have hmod := hdigit _ (by omega) _ (by omega) hlow
        omega
      rw [UInt8.toNat_inj.mp hsame, ih hrest]

/-- A property of the sixteen digits is one of the digits of a text. -/
theorem forall_hexText {P : Char → Prop} (h : ∀ d < 16, P (Nat.digitChar d))
    (bytes : List UInt8) : ∀ c ∈ (hexText bytes).toList, P c := by
  intro c hc
  rw [hexText, String.toList_ofList, List.mem_flatMap] at hc
  obtain ⟨byte, -, hdigit⟩ := hc
  have hbyte := byte.toNat_lt
  simp only [List.mem_cons, List.not_mem_nil, or_false] at hdigit
  rcases hdigit with rfl | rfl
  · exact h _ (by omega)
  · exact h _ (by omega)

/-- The head member of an exported v5 ledger. -/
def headMembers (sha256 : Sha256) (ledger : Ledger) : List (String × Document) :=
  match ledger.headCommitmentV5 sha256 with
  | some head => [("head_commitment_v5", .str (hexText head.toList))]
  | none => []

/-- A ledger as it is exported: the running hash as a text, and the head of a v5 ledger. -/
def exportedLedger (sha256 : Sha256) (ledger : Ledger) : Document :=
  .obj (ledgerMembers ledger (headMembers sha256 ledger) (.str (Nat.repr ledger.lastHash.toNat)))

/-- Export the ledger of the capsule. -/
def exportRuntimeLedger (sha256 : Sha256) (state : RuntimeState) : Except String Document :=
  match state.capsule with
  | none => .error "no capsule"
  | some capsule => .ok (exportedLedger sha256 capsule.ledger)

/-! ### Reading -/

def readEventKind (doc : Document) : Option EventKind :=
  (readUnitVariant doc).bind EventKind.ofName

def readPubKey (doc : Document) : Option PubKey := (readBytesOrText 32 doc).map PubKey.mk

def readSignature (doc : Document) : Option Signature :=
  (readBytesOrText 64 doc).map Signature.mk

def readEvent (doc : Document) : Option Event := do
  let fields ← readStruct ["version", "kind", "payload", "timestamp", "signature", "signer"] doc
  let version ← (fields "version").bind readU8
  let kind ← (fields "kind").bind readEventKind
  let payload ← (fields "payload").bind (readList readU8)
  let timestamp ← (fields "timestamp").bind readU64
  let signature ← (fields "signature").bind readSignature
  let signer ← (fields "signer").bind readPubKey
  some { version, kind, payload, timestamp, signature, signer }

def readReceipt (doc : Document) : Option LedgerV5Receipt := do
  let fields ← readStruct ["sequence", "previous_commitment", "signature"] doc
  let sequence ← (fields "sequence").bind readU64
  let previousCommitment ← (fields "previous_commitment").bind (readBytes 32)
  let signature ← (fields "signature").bind readSignature
  some { sequence, previousCommitment, signature }

def readFreshAnchor (doc : Document) : Option LedgerAnchorV5 := do
  let fields ← readStruct ["owner"] doc
  let owner ← (fields "owner").bind readPubKey
  some (.fresh owner)

def readLegacyAnchor (doc : Document) : Option LedgerAnchorV5 := do
  let fields ← readStruct ["owner", "snapshot", "signature"] doc
  let owner ← (fields "owner").bind readPubKey
  let snapshot ← (fields "snapshot").bind (readBytes 32)
  let signature ← (fields "signature").bind readSignature
  some (.legacyV4 owner snapshot signature)

/-- An anchor is an object with the one name of its variant. -/
def readAnchor : Document → Option LedgerAnchorV5
  | .obj [(variant, content)] =>
    if variant = "Fresh" then readFreshAnchor content
    else if variant = "LegacyV4" then readLegacyAnchor content
    else none
  | _ => none

/-- The legacy count of a continuity record; a missing one is zero. -/
def readLegacyCount : Option Document → Option ℕ
  | some count => readNat (2 ^ 64) count
  | none => some 0

def readContinuity (doc : Document) : Option ContinuousLedgerV5 := do
  let fields ← readStruct ["anchor", "legacy_event_count", "receipts"] doc
  let anchor ← (fields "anchor").bind readAnchor
  let legacyEventCount ← readLegacyCount (fields "legacy_event_count")
  let receipts ← (fields "receipts").bind (readList readReceipt)
  some { anchor, legacyEventCount, receipts }

/-- The continuity record of a ledger; a missing one is none. -/
def readContinuityField : Option Document → Option (Option ContinuousLedgerV5)
  | some continuity => readOption readContinuity continuity
  | none => some none

def readLedger (doc : Document) : Option Ledger := do
  let fields ← readStruct ["events", "owner", "last_hash", "continuity_v5"] doc
  let events ← (fields "events").bind (readList readEvent)
  let owner ← (fields "owner").bind readPubKey
  let lastHash ← (fields "last_hash").bind readU64
  let continuityV5 ← readContinuityField (fields "continuity_v5")
  some { events, owner, lastHash, continuityV5 }

/-! ### The text of the running hash -/

/-- White space as the text type trims it. -/
def isWhite (c : Char) : Bool :=
  let code := c.toNat
  (9 ≤ code && code ≤ 13) || code == 0x20 || code == 0x85 || code == 0xA0 || code == 0x1680 ||
    (0x2000 ≤ code && code ≤ 0x200A) || code == 0x2028 || code == 0x2029 || code == 0x202F ||
    code == 0x205F || code == 0x3000

/-- The text without white space at its ends. -/
def trim (text : List Char) : List Char :=
  ((text.dropWhile isWhite).reverse.dropWhile isWhite).reverse

/-- The value of a digit. -/
def toDigit (radix : ℕ) (c : Char) : Option ℕ :=
  let value :=
    if c.isDigit then c.toNat - 48
    else if 97 ≤ c.toNat ∧ c.toNat ≤ 122 then c.toNat - 87
    else if 65 ≤ c.toNat ∧ c.toNat ≤ 90 then c.toNat - 55
    else radix
  if value < radix then some value else none

/-- The value of digits behind those already read. -/
def digitsValue (radix : ℕ) (value : ℕ) : List Char → Option ℕ
  | [] => some value
  | c :: rest =>
    match toDigit radix c with
    | some digit => digitsValue radix (radix * value + digit) rest
    | none => none

/-- The text behind an optional plus sign. -/
def dropPlus : List Char → List Char
  | '+' :: rest => rest
  | text => text

/-- A 64-bit number in a radix, with an optional plus sign. -/
def fromStrRadix (radix : ℕ) (text : List Char) : Option UInt64 :=
  if dropPlus text = [] then none
  else
    match digitsValue radix 0 (dropPlus text) with
    | some value => if value < 2 ^ 64 then some (UInt64.ofNat value) else none
    | none => none

/-- The text behind `0x` or `0X`. -/
def dropHexMark : List Char → Option (List Char)
  | '0' :: 'x' :: rest => some rest
  | '0' :: 'X' :: rest => some rest
  | _ => none

/-- The running hash in a text: hexadecimal behind its mark, else decimal. -/
def parseHashText (text : String) : Option UInt64 :=
  match dropHexMark (trim text.toList) with
  | some digits => fromStrRadix 16 digits
  | none => fromStrRadix 10 (trim text.toList)

/-! ### Parsing a document -/

/-- The running hash in the form of a document value; `lossy` reads any other number by way
    of a double. -/
def parseHashValue (lossy : Literal → Option UInt64) : Document → Option UInt64
  | .str text => parseHashText text
  | .num literal =>
    match readU64 (.num literal) with
    | some value => some value
    | none => lossy literal
  | _ => none

/-- Write the running hash of a document as a number, when it can be read. -/
def normalizeLedgerLastHash (lossy : Literal → Option UInt64) : Document → Document
  | .obj members =>
    match (members.lookup "last_hash").bind (parseHashValue lossy) with
    | some value => .obj (setMember "last_hash" (writeU64 value) members)
    | none => .obj members
  | doc => doc

/-- The text of a document value. -/
def asStr : Document → Option String
  | .str text => some text
  | _ => none

/-- Read a normalised document. -/
def fromValue (lossy : Literal → Option UInt64) (doc : Document) : Except String Ledger :=
  match readLedger (normalizeLedgerLastHash lossy doc) with
  | some ledger => .ok ledger
  | none => .error "parse failed"

/-- Parse a ledger document, or a backup envelope around one. -/
def parseLedgerJson (lossy : Literal → Option UInt64) (doc : Document) : Except String Ledger :=
  match readLedger doc with
  | some ledger => .ok ledger
  | none =>
    match doc.collapse with
    | .obj members =>
      let schema := (members.lookup "schema").bind asStr
      let version := (members.lookup "version").bind readU64
      if schema = some "hivra.capsule_backup" ∧ version = some 1 then
        match members.lookup "ledger" with
        | some ledgerValue => fromValue lossy ledgerValue
        | none => .error "parse failed"
      else
        fromValue lossy (.obj members)
    | _ => .error "parse failed"

/-! ### What was written is read back -/

theorem readEventKind_name (kind : EventKind) : readEventKind (.str kind.name) = some kind := by
  rw [readEventKind, readUnitVariant, Option.bind_some, EventKind.ofName_name]

theorem readPubKey_writeBytes (key : PubKey) :
    readPubKey (writeBytes key.bytes.toList) = some key := by
  rw [readPubKey, readBytesOrText_writeBytes]
  rfl

theorem readSignature_writeBytes (signature : Signature) :
    readSignature (writeBytes signature.bytes.toList) = some signature := by
  rw [readSignature, readBytesOrText_writeBytes]
  rfl

/-- The fields of an event document. -/
theorem readEvent_iff (doc : Document) (event : Event) :
    readEvent doc = some event ↔ ∃ fields,
      readStruct ["version", "kind", "payload", "timestamp", "signature", "signer"] doc
        = some fields ∧
      (fields "version").bind readU8 = some event.version ∧
      (fields "kind").bind readEventKind = some event.kind ∧
      (fields "payload").bind (readList readU8) = some event.payload ∧
      (fields "timestamp").bind readU64 = some event.timestamp ∧
      (fields "signature").bind readSignature = some event.signature ∧
      (fields "signer").bind readPubKey = some event.signer := by
  obtain ⟨version, kind, payload, timestamp, signature, signer⟩ := event
  unfold readEvent
  simp only [Option.bind_eq_bind, Option.bind_eq_some_iff, Option.some.injEq, Event.mk.injEq]
  constructor
  · rintro ⟨fields, hfields, _, hversion, _, hkind, _, hpayload, _, htimestamp, _, hsignature, _,
      hsigner, rfl, rfl, rfl, rfl, rfl, rfl⟩
    exact ⟨fields, hfields, hversion, hkind, hpayload, htimestamp, hsignature, hsigner⟩
  · rintro ⟨fields, hfields, hversion, hkind, hpayload, htimestamp, hsignature, hsigner⟩
    exact ⟨fields, hfields, _, hversion, _, hkind, _, hpayload, _, htimestamp, _, hsignature, _,
      hsigner, rfl, rfl, rfl, rfl, rfl, rfl⟩

theorem readEvent_eventDocument (event : Event) : readEvent (eventDocument event) = some event := by
  rw [readEvent_iff, eventDocument]
  refine ⟨_, readStruct_obj (by simp), ?_, ?_, ?_, ?_, ?_, ?_⟩
  · exact readField (readU8_writeU8 event.version) (by simp [List.lookup])
  · exact readField (readEventKind_name event.kind) (by simp [List.lookup])
  · exact readField (readList_writeBytes event.payload) (by simp [List.lookup])
  · exact readField (readU64_writeU64 event.timestamp) (by simp [List.lookup])
  · exact readField (readSignature_writeBytes event.signature) (by simp [List.lookup])
  · exact readField (readPubKey_writeBytes event.signer) (by simp [List.lookup])

/-- The fields of a receipt document. -/
theorem readReceipt_iff (doc : Document) (receipt : LedgerV5Receipt) :
    readReceipt doc = some receipt ↔ ∃ fields,
      readStruct ["sequence", "previous_commitment", "signature"] doc = some fields ∧
      (fields "sequence").bind readU64 = some receipt.sequence ∧
      (fields "previous_commitment").bind (readBytes 32) = some receipt.previousCommitment ∧
      (fields "signature").bind readSignature = some receipt.signature := by
  obtain ⟨sequence, previousCommitment, signature⟩ := receipt
  unfold readReceipt
  simp only [Option.bind_eq_bind, Option.bind_eq_some_iff, Option.some.injEq,
    LedgerV5Receipt.mk.injEq]
  constructor
  · rintro ⟨fields, hfields, _, hsequence, _, hprevious, _, hsignature, rfl, rfl, rfl⟩
    exact ⟨fields, hfields, hsequence, hprevious, hsignature⟩
  · rintro ⟨fields, hfields, hsequence, hprevious, hsignature⟩
    exact ⟨fields, hfields, _, hsequence, _, hprevious, _, hsignature, rfl, rfl, rfl⟩

theorem readReceipt_receiptDocument (receipt : LedgerV5Receipt) :
    readReceipt (receiptDocument receipt) = some receipt := by
  rw [readReceipt_iff, receiptDocument]
  refine ⟨_, readStruct_obj (by simp), ?_, ?_, ?_⟩
  · exact readField (readU64_writeU64 receipt.sequence) (by simp [List.lookup])
  · exact readField (readBytes_writeBytes receipt.previousCommitment) (by simp [List.lookup])
  · exact readField (readSignature_writeBytes receipt.signature) (by simp [List.lookup])

variable {fields : String → Option Document}

theorem readFreshAnchor_of_fields {doc : Document} {owner : PubKey}
    (hfields : readStruct ["owner"] doc = some fields)
    (howner : (fields "owner").bind readPubKey = some owner) :
    readFreshAnchor doc = some (.fresh owner) := by
  rw [readFreshAnchor, hfields]
  simp [howner]

theorem readLegacyAnchor_of_fields {doc : Document} {owner : PubKey} {snapshot : Commitment}
    {signature : Signature}
    (hfields : readStruct ["owner", "snapshot", "signature"] doc = some fields)
    (howner : (fields "owner").bind readPubKey = some owner)
    (hsnapshot : (fields "snapshot").bind (readBytes 32) = some snapshot)
    (hsignature : (fields "signature").bind readSignature = some signature) :
    readLegacyAnchor doc = some (.legacyV4 owner snapshot signature) := by
  rw [readLegacyAnchor, hfields]
  simp [howner, hsnapshot, hsignature]

theorem readAnchor_anchorDocument (anchor : LedgerAnchorV5) :
    readAnchor (anchorDocument anchor) = some anchor := by
  cases anchor with
  | fresh owner =>
    rw [anchorDocument, readAnchor, if_pos rfl]
    refine readFreshAnchor_of_fields (readStruct_obj (by simp)) ?_
    exact readField (readPubKey_writeBytes owner) (by simp [List.lookup])
  | legacyV4 owner snapshot signature =>
    rw [anchorDocument, readAnchor, if_neg (by decide), if_pos rfl]
    refine readLegacyAnchor_of_fields (readStruct_obj (by simp)) ?_ ?_ ?_
    · exact readField (readPubKey_writeBytes owner) (by simp [List.lookup])
    · exact readField (readBytes_writeBytes snapshot) (by simp [List.lookup])
    · exact readField (readSignature_writeBytes signature) (by simp [List.lookup])

/-- The fields of a continuity document. -/
theorem readContinuity_iff (doc : Document) (continuity : ContinuousLedgerV5) :
    readContinuity doc = some continuity ↔ ∃ fields,
      readStruct ["anchor", "legacy_event_count", "receipts"] doc = some fields ∧
      (fields "anchor").bind readAnchor = some continuity.anchor ∧
      readLegacyCount (fields "legacy_event_count") = some continuity.legacyEventCount ∧
      (fields "receipts").bind (readList readReceipt) = some continuity.receipts := by
  obtain ⟨anchor, legacyEventCount, receipts⟩ := continuity
  unfold readContinuity
  simp only [Option.bind_eq_bind, Option.bind_eq_some_iff, Option.some.injEq,
    ContinuousLedgerV5.mk.injEq]
  constructor
  · rintro ⟨fields, hfields, _, hanchor, _, hcount, _, hreceipts, rfl, rfl, rfl⟩
    exact ⟨fields, hfields, hanchor, hcount, hreceipts⟩
  · rintro ⟨fields, hfields, hanchor, hcount, hreceipts⟩
    exact ⟨fields, hfields, _, hanchor, _, hcount, _, hreceipts, rfl, rfl, rfl⟩

/-- A continuity record is read back when its count is a machine word. -/
theorem readContinuity_continuityDocument {continuity : ContinuousLedgerV5}
    (h : continuity.legacyEventCount < 2 ^ 64) :
    readContinuity (continuityDocument continuity) = some continuity := by
  have hreceipts : readList readReceipt (.arr (continuity.receipts.map receiptDocument))
      = some continuity.receipts :=
    readItems_map fun receipt _ => readReceipt_receiptDocument receipt
  rw [readContinuity_iff, continuityDocument]
  refine ⟨_, readStruct_obj (by simp), ?_, ?_, ?_⟩
  · exact readField (readAnchor_anchorDocument continuity.anchor) (by simp [List.lookup])
  · have hlookup : [("anchor", anchorDocument continuity.anchor),
        ("legacy_event_count", writeNat continuity.legacyEventCount),
        ("receipts", Json.arr (continuity.receipts.map receiptDocument))].lookup
          "legacy_event_count" = some (writeNat continuity.legacyEventCount) := by
      simp [List.lookup]
    rw [hlookup, readLegacyCount, readNat_writeNat h]
  · exact readField hreceipts (by simp [List.lookup])

/-- The continuity member of a ledger document. -/
theorem readContinuityField_optionDocument {record : Option ContinuousLedgerV5}
    (h : ∀ continuity ∈ record, continuity.legacyEventCount < 2 ^ 64) :
    readContinuityField (some (optionDocument record)) = some record := by
  cases record with
  | none => rfl
  | some continuity =>
    show (readContinuity (continuityDocument continuity)).map some = some (some continuity)
    rw [readContinuity_continuityDocument (h continuity rfl), Option.map_some]

/-- The fields of a ledger document. -/
theorem readLedger_iff (doc : Document) (ledger : Ledger) :
    readLedger doc = some ledger ↔ ∃ fields,
      readStruct ["events", "owner", "last_hash", "continuity_v5"] doc = some fields ∧
      (fields "events").bind (readList readEvent) = some ledger.events ∧
      (fields "owner").bind readPubKey = some ledger.owner ∧
      (fields "last_hash").bind readU64 = some ledger.lastHash ∧
      readContinuityField (fields "continuity_v5") = some ledger.continuityV5 := by
  obtain ⟨events, owner, lastHash, continuityV5⟩ := ledger
  unfold readLedger
  simp only [Option.bind_eq_bind, Option.bind_eq_some_iff, Option.some.injEq, Ledger.mk.injEq]
  constructor
  · rintro ⟨fields, hfields, _, hevents, _, howner, _, hhash, _, hcontinuity, rfl, rfl, rfl, rfl⟩
    exact ⟨fields, hfields, hevents, howner, hhash, hcontinuity⟩
  · rintro ⟨fields, hfields, hevents, howner, hhash, hcontinuity⟩
    exact ⟨fields, hfields, _, hevents, _, howner, _, hhash, _, hcontinuity, rfl, rfl, rfl, rfl⟩

variable {members : List (String × Document)}

/-- The members of a ledger document. -/
theorem readLedger_obj_iff (hnames : (members.map Prod.fst).Nodup) (ledger : Ledger) :
    readLedger (.obj members) = some ledger ↔
      (members.lookup "events").bind (readList readEvent) = some ledger.events ∧
      (members.lookup "owner").bind readPubKey = some ledger.owner ∧
      (members.lookup "last_hash").bind readU64 = some ledger.lastHash ∧
      readContinuityField (members.lookup "continuity_v5") = some ledger.continuityV5 := by
  rw [readLedger_iff, readStruct_obj hnames]
  constructor
  · rintro ⟨fields, hfields, hread⟩
    rw [← Option.some.inj hfields] at hread
    exact hread
  · intro hread
    exact ⟨_, rfl, hread⟩

/-! ### The text of a number -/

/-- A decimal digit has its value. -/
private theorem toDigit_of_isDigit {c : Char} (h : c.isDigit = true) :
    toDigit 10 c = some (c.toNat - 48) := by
  have hrange : 48 ≤ c.toNat ∧ c.toNat ≤ 57 := by
    simpa [Char.isDigit, UInt32.le_iff_toNat_le] using h
  rw [toDigit]
  simp only [h, ↓reduceIte]
  rw [if_pos (by omega)]

/-- Decimal digits have their value. -/
private theorem digitsValue_of_isDigit (text : List Char) (value : ℕ)
    (h : ∀ c ∈ text, c.isDigit = true) :
    digitsValue 10 value text = some (Nat.ofDigitChars 10 text value) := by
  induction text generalizing value with
  | nil => rw [digitsValue, Nat.ofDigitChars_nil]
  | cons c rest ih =>
    rw [digitsValue, toDigit_of_isDigit (h c List.mem_cons_self), Nat.ofDigitChars_cons]
    exact ih _ fun other hother => h other (List.mem_cons_of_mem c hother)

/-- Digits are not white. -/
private theorem isWhite_of_isDigit {c : Char} (h : c.isDigit = true) : isWhite c = false := by
  have hrange : 48 ≤ c.toNat ∧ c.toNat ≤ 57 := by
    simpa [Char.isDigit, UInt32.le_iff_toNat_le] using h
  simp only [isWhite, Bool.or_eq_false_iff, Bool.and_eq_false_iff, decide_eq_false_iff_not,
    beq_eq_false_iff_ne]
  omega

variable {text : List Char}

/-- A text without white space is trimmed. -/
private theorem trim_of_not_white (h : ∀ c ∈ text, isWhite c = false) : trim text = text := by
  have hdrop : ∀ chars : List Char, (∀ c ∈ chars, isWhite c = false) →
      chars.dropWhile isWhite = chars := by
    intro chars hchars
    cases chars with
    | nil => rfl
    | cons c rest => rw [List.dropWhile_cons, hchars c List.mem_cons_self, if_neg (by simp)]
  rw [trim, hdrop text h, hdrop text.reverse (by simpa using h), List.reverse_reverse]

/-- Digits have no plus sign in front. -/
private theorem dropPlus_of_isDigit (h : ∀ c ∈ text, c.isDigit = true) : dropPlus text = text := by
  unfold dropPlus
  split
  · exact absurd (h '+' List.mem_cons_self) (by decide)
  · rfl

/-- Digits have no hexadecimal mark in front. -/
private theorem dropHexMark_of_isDigit (h : ∀ c ∈ text, c.isDigit = true) :
    dropHexMark text = none := by
  unfold dropHexMark
  split
  · exact absurd (h 'x' (by simp)) (by decide)
  · exact absurd (h 'X' (by simp)) (by decide)
  · rfl

/-- **The text of a number is parsed back.** -/
theorem parseHashText_repr (value : UInt64) :
    parseHashText (Nat.repr value.toNat) = some value := by
  have hdigits : ∀ c ∈ Nat.toDigits 10 value.toNat, c.isDigit = true := fun c hc =>
    Nat.isDigit_of_mem_toDigits (by decide) (by decide) hc
  have htrim : trim (Nat.toDigits 10 value.toNat) = Nat.toDigits 10 value.toNat :=
    trim_of_not_white fun c hc => isWhite_of_isDigit (hdigits c hc)
  rw [parseHashText, Nat.toList_repr, htrim, dropHexMark_of_isDigit hdigits]
  show fromStrRadix 10 (Nat.toDigits 10 value.toNat) = some value
  rw [fromStrRadix, dropPlus_of_isDigit hdigits, if_neg Nat.toDigits_ne_nil,
    digitsValue_of_isDigit _ _ hdigits, Nat.ofDigitChars_ten_toDigits]
  show (if value.toNat < 2 ^ 64 then some (UInt64.ofNat value.toNat) else none) = some value
  rw [if_pos value.toNat_lt, UInt64.ofNat_toNat]

/-! ### Parsing an exported document -/

/-- The names of an exported ledger document. -/
structure ExportedShape (members : List (String × Document)) (lastHash : UInt64) : Prop where
  keyed : (Json.obj members).WellKeyed
  hash : members.lookup "last_hash" = some (.str (Nat.repr lastHash.toNat))
  schema : members.lookup "schema" = none

/-- A member of a name stands among the names. -/
private theorem mem_names_of_lookup {name : String} {value : Document}
    (h : members.lookup name = some value) : name ∈ members.map Prod.fst := by
  induction members with
  | nil => cases h
  | cons member rest ih =>
    cases hname : name == member.1 with
    | true => simp [beq_iff_eq.mp hname]
    | false =>
      rw [List.lookup, hname] at h
      exact List.mem_cons_of_mem _ (ih h)

/-- **What is read of a document whose running hash is a text.** -/
theorem fromValue_iff (lossy : Literal → Option UInt64) {lastHash : UInt64}
    (hnames : (members.map Prod.fst).Nodup)
    (hhash : members.lookup "last_hash" = some (.str (Nat.repr lastHash.toNat))) (ledger : Ledger) :
    fromValue lossy (.obj members) = .ok ledger ↔
      (members.lookup "events").bind (readList readEvent) = some ledger.events ∧
      (members.lookup "owner").bind readPubKey = some ledger.owner ∧
      lastHash = ledger.lastHash ∧
      readContinuityField (members.lookup "continuity_v5") = some ledger.continuityV5 := by
  have hvalue : (members.lookup "last_hash").bind (parseHashValue lossy) = some lastHash := by
    rw [hhash, Option.bind_some, parseHashValue, parseHashText_repr]
  have hnames' : ((setMember "last_hash" (writeU64 lastHash) members).map Prod.fst).Nodup := by
    rw [names_setMember (mem_names_of_lookup hhash)]
    exact hnames
  have hcases : fromValue lossy (.obj members) = .ok ledger ↔
      readLedger (.obj (setMember "last_hash" (writeU64 lastHash) members)) = some ledger := by
    rw [fromValue, normalizeLedgerLastHash, hvalue]
    dsimp only
    cases readLedger (.obj (setMember "last_hash" (writeU64 lastHash) members)) with
    | none => simp
    | some other => simp
  have hhash' : ((setMember "last_hash" (writeU64 lastHash) members).lookup "last_hash").bind readU64
      = some lastHash :=
    readField (readU64_writeU64 lastHash) (lookup_setMember_self _ _ _)
  rw [hcases, readLedger_obj_iff hnames', hhash', lookup_setMember_ne (by decide),
    lookup_setMember_ne (by decide), lookup_setMember_ne (by decide), Option.some.injEq]

/-- A document whose running hash is a text is read on the second path. -/
theorem parseLedgerJson_of_shape (lossy : Literal → Option UInt64) {lastHash : UInt64}
    (h : ExportedShape members lastHash) :
    parseLedgerJson lossy (.obj members) = fromValue lossy (.obj members) := by
  have hdirect : readLedger (.obj members) = none := by
    rw [Option.eq_none_iff_forall_ne_some]
    intro ledger hledger
    have hhash := ((readLedger_obj_iff h.keyed.1 ledger).mp hledger).2.2.1
    rw [h.hash, Option.bind_some] at hhash
    cases hhash
  rw [parseLedgerJson, hdirect, Json.collapse_of_wellKeyed _ h.keyed]
  dsimp only
  rw [h.schema, Option.bind_none, if_neg (by simp)]

/-! ### The names of a written document -/

/-- An object is well keyed when its names differ and its values are well keyed. -/
private theorem wellKeyed_obj (hnames : (members.map Prod.fst).Nodup)
    (hvalues : ∀ member ∈ members, member.2.WellKeyed) : (Json.obj members).WellKeyed :=
  ⟨hnames, (Json.wellKeyedMembers_iff members).mpr hvalues⟩

theorem wellKeyed_writeBytes (bytes : List UInt8) : (writeBytes bytes).WellKeyed := by
  apply Json.wellKeyed_arr
  intro item hitem
  obtain ⟨byte, -, rfl⟩ := List.mem_map.mp hitem
  trivial

private theorem wellKeyed_eventDocument (event : Event) : (eventDocument event).WellKeyed := by
  apply wellKeyed_obj (by simp)
  simp only [List.mem_cons, List.not_mem_nil, or_false, forall_eq_or_imp, forall_eq]
  exact ⟨trivial, wellKeyed_writeBytes _, wellKeyed_writeBytes _, wellKeyed_writeBytes _, trivial,
    trivial⟩

private theorem wellKeyed_receiptDocument (receipt : LedgerV5Receipt) :
    (receiptDocument receipt).WellKeyed := by
  apply wellKeyed_obj (by simp)
  simp only [List.mem_cons, List.not_mem_nil, or_false, forall_eq_or_imp, forall_eq]
  exact ⟨wellKeyed_writeBytes _, trivial, wellKeyed_writeBytes _⟩

private theorem wellKeyed_anchorDocument (anchor : LedgerAnchorV5) :
    (anchorDocument anchor).WellKeyed := by
  cases anchor with
  | fresh owner =>
    apply wellKeyed_obj (by simp)
    simp only [List.mem_singleton, forall_eq]
    apply wellKeyed_obj (by simp)
    simp only [List.mem_singleton, forall_eq]
    exact wellKeyed_writeBytes _
  | legacyV4 owner snapshot signature =>
    apply wellKeyed_obj (by simp)
    simp only [List.mem_singleton, forall_eq]
    apply wellKeyed_obj (by simp)
    simp only [List.mem_cons, List.not_mem_nil, or_false, forall_eq_or_imp, forall_eq]
    exact ⟨wellKeyed_writeBytes _, wellKeyed_writeBytes _, wellKeyed_writeBytes _⟩

private theorem wellKeyed_optionDocument (record : Option ContinuousLedgerV5) :
    (optionDocument record).WellKeyed := by
  cases record with
  | none => trivial
  | some continuity =>
    apply wellKeyed_obj (by simp)
    simp only [List.mem_cons, List.not_mem_nil, or_false, forall_eq_or_imp, forall_eq]
    refine ⟨wellKeyed_anchorDocument _, trivial, Json.wellKeyed_arr ?_⟩
    intro item hitem
    obtain ⟨receipt, -, rfl⟩ := List.mem_map.mp hitem
    exact wellKeyed_receiptDocument receipt

/-- The head member is a text. -/
theorem headMembers_cases (sha256 : Sha256) (ledger : Ledger) :
    headMembers sha256 ledger = [] ∨
      ∃ text, headMembers sha256 ledger = [("head_commitment_v5", .str text)] := by
  unfold headMembers
  split
  · exact Or.inr ⟨_, rfl⟩
  · exact Or.inl rfl

/-- **An exported document** has the shape that the second path reads. -/
theorem exportedShape (sha256 : Sha256) (ledger : Ledger) :
    ExportedShape (ledgerMembers ledger (headMembers sha256 ledger)
      (.str (Nat.repr ledger.lastHash.toNat))) ledger.lastHash := by
  have hevents : (Json.arr (ledger.events.map eventDocument)).WellKeyed := by
    apply Json.wellKeyed_arr
    intro item hitem
    obtain ⟨event, -, rfl⟩ := List.mem_map.mp hitem
    exact wellKeyed_eventDocument event
  have hrecord := wellKeyed_optionDocument ledger.continuityV5
  have howner := wellKeyed_writeBytes ledger.owner.bytes.toList
  rcases headMembers_cases sha256 ledger with hnil | ⟨text, hhead⟩
  · rw [hnil]
    refine ⟨wellKeyed_obj (by simp [ledgerMembers]) ?_, by simp [ledgerMembers, List.lookup],
      by simp [ledgerMembers, List.lookup]⟩
    simp only [ledgerMembers, List.append_nil, List.cons_append, List.nil_append, List.mem_cons,
      List.not_mem_nil, or_false, forall_eq_or_imp, forall_eq]
    exact ⟨hrecord, hevents, trivial, howner⟩
  · rw [hhead]
    refine ⟨wellKeyed_obj (by simp [ledgerMembers]) ?_, by simp [ledgerMembers, List.lookup],
      by simp [ledgerMembers, List.lookup]⟩
    simp only [ledgerMembers, List.cons_append, List.nil_append, List.mem_cons,
      List.not_mem_nil, or_false, forall_eq_or_imp, forall_eq]
    exact ⟨hrecord, hevents, trivial, trivial, howner⟩

theorem wellKeyed_exportedLedger (sha256 : Sha256) (ledger : Ledger) :
    (exportedLedger sha256 ledger).WellKeyed :=
  (exportedShape sha256 ledger).keyed

/-- The members of an exported document. -/
theorem lookup_exportedLedger (sha256 : Sha256) (ledger : Ledger) :
    let members := ledgerMembers ledger (headMembers sha256 ledger)
      (.str (Nat.repr ledger.lastHash.toNat))
    members.lookup "events" = some (.arr (ledger.events.map eventDocument)) ∧
      members.lookup "owner" = some (writeBytes ledger.owner.bytes.toList) ∧
      members.lookup "continuity_v5" = some (optionDocument ledger.continuityV5) := by
  rcases headMembers_cases sha256 ledger with hnil | ⟨text, hhead⟩
  · rw [hnil]
    simp [ledgerMembers, List.lookup]
  · rw [hhead]
    simp [ledgerMembers, List.lookup]

/-- A ledger whose legacy count is a machine word, as every ledger in memory has it. -/
def Ledger.CountFits (ledger : Ledger) : Prop :=
  ∀ continuity ∈ ledger.continuityV5, continuity.legacyEventCount < 2 ^ 64

/-- An exported document is read back as a value. -/
theorem fromValue_exportedLedger (lossy : Literal → Option UInt64) (sha256 : Sha256)
    {ledger : Ledger} (h : ledger.CountFits) :
    fromValue lossy (exportedLedger sha256 ledger) = .ok ledger := by
  have hshape := exportedShape sha256 ledger
  obtain ⟨hevents, howner, hcontinuity⟩ := lookup_exportedLedger sha256 ledger
  rw [exportedLedger, fromValue_iff lossy hshape.keyed.1 hshape.hash, hevents, howner, hcontinuity]
  refine ⟨?_, ?_, rfl, readContinuityField_optionDocument h⟩
  · exact readItems_map fun event _ => readEvent_eventDocument event
  · exact readPubKey_writeBytes ledger.owner

/-- **An exported ledger is parsed back.** -/
theorem parseLedgerJson_export (lossy : Literal → Option UInt64) (sha256 : Sha256)
    {ledger : Ledger} (h : ledger.CountFits) :
    parseLedgerJson lossy (exportedLedger sha256 ledger) = .ok ledger := by
  rw [exportedLedger, parseLedgerJson_of_shape lossy (exportedShape sha256 ledger)]
  exact fromValue_exportedLedger lossy sha256 h

end Hivra
