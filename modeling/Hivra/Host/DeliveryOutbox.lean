import Hivra.Host.HostTexts
import Hivra.Lib.SharedCell

namespace Hivra

namespace DeliveryOutbox

/-!
# The delivery outbox

The outbox of a capsule is one file of items.  Every call reads the whole file, makes a new list
of it and writes the whole file; a file of an older schema is written back when it is read.  A
file is taken as its decoded document, none where it is missing, blank or no document.
-/

inductive DeliveryOutboxStatus
  | pending
  | published
  | superseded
  | quarantined
  | dead
  deriving DecidableEq

def DeliveryOutboxStatus.name : DeliveryOutboxStatus → String
  | pending => "pending"
  | published => "published"
  | superseded => "superseded"
  | quarantined => "quarantined"
  | dead => "dead"

/-- A sum as a 64-bit integer holds it. -/
def wrap64 (value : ℤ) : ℤ :=
  (value + 9223372036854775808) % 18446744073709551616 - 9223372036854775808

/-- An obligation to deliver; times are microseconds. -/
structure DeliveryOutboxItem where
  id : String
  capsuleHex : String
  transport : String
  kind : String
  reason : String
  deliveryReference : Option String
  recipientHex : Option String
  adapterAcceptedBy : Option String
  adapterEnvelopeId : Option String
  adapterMessageKind : Option ℕ
  adapterFailedBeforeAccept : Option ℕ
  publishedAt : Option ℤ
  createdAt : ℤ
  nextAttemptAt : ℤ
  attempts : ℤ
  status : DeliveryOutboxStatus
  lastError : Option String
  deriving DecidableEq

/-- The attempts with one more; behind the last one they are negative. -/
def DeliveryOutboxItem.nextAttempts (item : DeliveryOutboxItem) : ℤ := wrap64 (item.attempts + 1)

def deliveryOutboxSchemaVersion : ℤ := 5

/-- The host of an outbox: its dates as texts, and the digest. -/
structure OutboxHost (Double : Type) extends DartViews Double where
  toIso8601String : ℤ → String
  tryParseDate : String → Option ℤ
  tryParseDate_iso : ∀ time, tryParseDate (toIso8601String time) = some time
  tryParseDate_empty : tryParseDate "" = none
  sha256Hex : String → String
  sha256Hex_hex : ∀ text, isHex64 (sha256Hex text) = true

def normalizeDeliveryReference (value : Option String) : Option String :=
  (value.map trimmedLower).filter isHex64

def boundedReceiptText (value : Option String) : Option String :=
  let normalized := (value.map trimmed).getD ""
  if normalized = "" ∨ 1024 < dartLength normalized then none else some normalized

section Outbox

variable {Double : Type} (host : OutboxHost Double)

/-! ### Items as documents -/

section Members

variable (members : List (String × DartValue Double))

def textMember (name : String) : Option String :=
  displayText host.toDartRuntime (members.lookup name)

def dateMember (name : String) : Option ℤ :=
  host.tryParseDate ((textMember host members name).getD "")

/-- An integer that is not negative. -/
def countMember (name : String) : Option ℕ :=
  match members.lookup name with
  | some (.num (.inl value)) => if 0 ≤ value then some value.toNat else none
  | _ => none

/-- The status an item is stored with: a single acknowledgement was a delivery once, and an
    exhausted retry starts again. -/
def parsedStatus : Option DeliveryOutboxStatus :=
  match textMember host members "status" with
  | some "delivered" => some .published
  | some "dead" => some .pending
  | some "pending" => some .pending
  | some "published" => some .published
  | some "superseded" => some .superseded
  | some "quarantined" => some .quarantined
  | _ => none

/-- Without a reference nothing is retried. -/
def quarantineUnbound (reference : Option String) (status : DeliveryOutboxStatus) :
    DeliveryOutboxStatus :=
  if reference = none ∧ status = .pending then .quarantined else status

/-- The item of the members, without the checks of what must be there. -/
def itemOf (createdAt nextAttemptAt : ℤ) (attempts : ℕ) (status : DeliveryOutboxStatus) :
    DeliveryOutboxItem where
  id := ((textMember host members "id").map trimmed).getD ""
  capsuleHex := ((textMember host members "capsule_hex").map trimmedLower).getD ""
  transport := ((textMember host members "transport").map trimmed).getD ""
  kind := ((textMember host members "kind").map trimmed).getD ""
  reason := ((textMember host members "reason").map trimmed).getD ""
  deliveryReference := normalizeDeliveryReference (textMember host members "delivery_reference")
  recipientHex := normalizeDeliveryReference (textMember host members "recipient_hex")
  adapterAcceptedBy := boundedReceiptText (textMember host members "adapter_accepted_by")
  adapterEnvelopeId := boundedReceiptText (textMember host members "adapter_envelope_id")
  adapterMessageKind := countMember members "adapter_message_kind"
  adapterFailedBeforeAccept := countMember members "adapter_failed_before_accept"
  publishedAt := dateMember host members "published_at"
  createdAt := createdAt
  nextAttemptAt := nextAttemptAt
  attempts := attempts
  status := quarantineUnbound
    (normalizeDeliveryReference (textMember host members "delivery_reference")) status
  lastError := textMember host members "last_error"

end Members

/-- The texts an item must have. -/
def DeliveryOutboxItem.named (item : DeliveryOutboxItem) : Bool :=
  item.id != "" && item.capsuleHex != "" && item.transport != "" && item.kind != "" &&
    item.reason != ""

def checkedItem (item : DeliveryOutboxItem) : Option DeliveryOutboxItem :=
  if item.named then some item else none

def itemOfMembers (members : List (String × DartValue Double)) : Option DeliveryOutboxItem :=
  match dateMember host members "created_at", dateMember host members "next_attempt_at",
      countMember members "attempts", parsedStatus host members with
  | some createdAt, some nextAttemptAt, some attempts, some status =>
    checkedItem (itemOf host members createdAt nextAttemptAt attempts status)
  | _, _, _, _ => none

def fromJson : DartValue Double → Option DeliveryOutboxItem
  | .obj members => itemOfMembers host members
  | _ => none

def textValue : Option String → DartValue Double
  | some text => .str text
  | none => .null

def countValue : Option ℕ → DartValue Double
  | some count => .num (.inl count)
  | none => .null

/-- The members an item is written with. -/
def itemMembers (item : DeliveryOutboxItem) : List (String × DartValue Double) :=
  [("id", .str item.id),
   ("capsule_hex", .str item.capsuleHex),
   ("transport", .str item.transport),
   ("kind", .str item.kind),
   ("reason", .str item.reason),
   ("delivery_reference", textValue item.deliveryReference),
   ("recipient_hex", textValue item.recipientHex),
   ("adapter_accepted_by", textValue item.adapterAcceptedBy),
   ("adapter_envelope_id", textValue item.adapterEnvelopeId),
   ("adapter_message_kind", countValue item.adapterMessageKind),
   ("adapter_failed_before_accept", countValue item.adapterFailedBeforeAccept),
   ("published_at", textValue (item.publishedAt.map host.toIso8601String)),
   ("created_at", .str (host.toIso8601String item.createdAt)),
   ("next_attempt_at", .str (host.toIso8601String item.nextAttemptAt)),
   ("attempts", .num (.inl item.attempts)),
   ("status", .str item.status.name),
   ("last_error", textValue item.lastError)]

def toJson (item : DeliveryOutboxItem) : DartValue Double := .obj (itemMembers host item)

/-! ### The file -/

/-- The items of a document, none where it has no list of them. -/
def storedItems (members : List (String × DartValue Double)) : Option (List (DartValue Double)) :=
  match members.lookup "items" with
  | some (.arr items) => some items
  | _ => none

/-- Whether a document is of an older schema. -/
def outdated (members : List (String × DartValue Double)) : Bool :=
  match members.lookup "schema_version" with
  | some (.num (.inl version)) => decide (version < deliveryOutboxSchemaVersion)
  | _ => true

/-- What is read of a file. -/
def load : Option (DartValue Double) → List DeliveryOutboxItem
  | some (.obj members) => ((storedItems members).getD []).filterMap (fromJson host)
  | _ => []

/-- The file of some items. -/
def write (items : List DeliveryOutboxItem) : Option (DartValue Double) :=
  some (.obj [("schema_version", .num (.inl deliveryOutboxSchemaVersion)),
    ("items", .arr ((host.sort (fun a b => decide (a.id ≤ b.id)) items).map (toJson host)))])

/-- A file of an older schema is written back with the items read of it. -/
def migrated : Option (DartValue Double) → Option (Option (DartValue Double))
  | some (.obj members) =>
    if outdated members then
      (storedItems members).map fun items => write host (items.filterMap (fromJson host))
    else none
  | _ => none

/-! ### The calls -/

/-- What an obligation is enqueued with. -/
structure Obligation where
  transport : String
  kind : String
  reason : String
  deliveryReference : Option String
  now : ℤ
  deriving DecidableEq

/-- The evidence of a publication, as it is handed over. -/
structure PublicationEvidence where
  recipientHex : String
  adapterAcceptedBy : String
  adapterEnvelopeId : String
  adapterMessageKind : ℤ
  adapterFailedBeforeAccept : ℤ
  publishedAt : ℤ
  deriving DecidableEq

inductive OutboxCall
  | load
  | enqueue (obligation : Obligation)
  | enqueueIfAbsent (obligation : Obligation)
  | markAttempt (itemId : String) (nextAttemptAt : ℤ) (lastError : Option String)
  | markPublished (itemId : String) (nextAttemptAt : ℤ) (evidence : PublicationEvidence)
  | markSuperseded (itemId : String)
  deriving DecidableEq

def stableId (capsuleHex : String) (obligation : Obligation) : String :=
  host.sha256Hex (String.intercalate "|"
    [trimmedLower capsuleHex, trimmed obligation.transport, trimmed obligation.kind,
      trimmed obligation.reason,
      (normalizeDeliveryReference obligation.deliveryReference).getD ""])

def retryStatus (obligation : Obligation) : DeliveryOutboxStatus :=
  if (normalizeDeliveryReference obligation.deliveryReference).isNone then .quarantined
  else .pending

/-- A new item. -/
def newItem (capsuleHex : String) (obligation : Obligation) : DeliveryOutboxItem where
  id := stableId host capsuleHex obligation
  capsuleHex := trimmedLower capsuleHex
  transport := obligation.transport
  kind := obligation.kind
  reason := obligation.reason
  deliveryReference := normalizeDeliveryReference obligation.deliveryReference
  recipientHex := none
  adapterAcceptedBy := none
  adapterEnvelopeId := none
  adapterMessageKind := none
  adapterFailedBeforeAccept := none
  publishedAt := none
  createdAt := obligation.now
  nextAttemptAt := obligation.now
  attempts := 0
  status := retryStatus obligation
  lastError := none

/-- An item that is enqueued again starts from the beginning. -/
def revived (obligation : Obligation) (item : DeliveryOutboxItem) : DeliveryOutboxItem :=
  { item with
    status := retryStatus obligation
    nextAttemptAt := obligation.now
    attempts := 0
    lastError := none
    recipientHex := none
    adapterAcceptedBy := none
    adapterEnvelopeId := none
    adapterMessageKind := none
    adapterFailedBeforeAccept := none
    publishedAt := none }

def attempted (nextAttemptAt : ℤ) (lastError : Option String) (item : DeliveryOutboxItem) :
    DeliveryOutboxItem :=
  { item with
    attempts := item.nextAttempts
    nextAttemptAt := nextAttemptAt
    lastError := lastError }

/-- Complete evidence: a recipient that is a key, and texts within their bounds. -/
def PublicationEvidence.complete (evidence : PublicationEvidence) : Bool :=
  (normalizeDeliveryReference (some evidence.recipientHex)).isSome &&
    (boundedReceiptText (some evidence.adapterAcceptedBy)).isSome &&
    (boundedReceiptText (some evidence.adapterEnvelopeId)).isSome &&
    decide (0 ≤ evidence.adapterMessageKind) && decide (0 ≤ evidence.adapterFailedBeforeAccept)

/-- An item with the evidence of its publication. -/
def publishedItem (nextAttemptAt : ℤ) (evidence : PublicationEvidence)
    (item : DeliveryOutboxItem) : DeliveryOutboxItem :=
  { item with
    status := .published
    attempts := item.nextAttempts
    nextAttemptAt := nextAttemptAt
    lastError := none
    recipientHex := normalizeDeliveryReference (some evidence.recipientHex)
    adapterAcceptedBy := boundedReceiptText (some evidence.adapterAcceptedBy)
    adapterEnvelopeId := boundedReceiptText (some evidence.adapterEnvelopeId)
    adapterMessageKind := some evidence.adapterMessageKind.toNat
    adapterFailedBeforeAccept := some evidence.adapterFailedBeforeAccept.toNat
    publishedAt := some evidence.publishedAt }

def supersededItem (item : DeliveryOutboxItem) : DeliveryOutboxItem :=
  { item with status := .superseded, lastError := none }

/-- A change of the items with an id. -/
def changeItem (itemId : String) (change : DeliveryOutboxItem → DeliveryOutboxItem)
    (items : List DeliveryOutboxItem) : List DeliveryOutboxItem :=
  items.map fun item => if item.id = itemId then change item else item

def holds (items : List DeliveryOutboxItem) (itemId : String) : Bool :=
  items.any fun item => item.id == itemId

/-- What a call makes of the items it has read, none where it writes nothing. -/
def transform (capsuleHex : String) (items : List DeliveryOutboxItem) :
    OutboxCall → Option (List DeliveryOutboxItem)
  | .load => none
  | .enqueue obligation =>
    let itemId := stableId host capsuleHex obligation
    some (changeItem itemId (revived obligation) items ++
      if holds items itemId then [] else [newItem host capsuleHex obligation])
  | .enqueueIfAbsent obligation =>
    if holds items (stableId host capsuleHex obligation) then none
    else some (items ++ [newItem host capsuleHex obligation])
  | .markAttempt itemId nextAttemptAt lastError =>
    some (changeItem itemId (attempted nextAttemptAt lastError) items)
  | .markPublished itemId nextAttemptAt evidence =>
    some (changeItem itemId (publishedItem nextAttemptAt evidence) items)
  | .markSuperseded itemId => some (changeItem itemId supersededItem items)

/-- A call that gets as far as to read: the capsule is named, and the evidence complete. -/
def ready (capsuleHex : String) : OutboxCall → Bool
  | .enqueue _ => trimmedLower capsuleHex != ""
  | .enqueueIfAbsent _ => trimmedLower capsuleHex != ""
  | .markPublished _ _ evidence => evidence.complete
  | _ => true

/-- The outbox of a capsule as a cell that calls read and write. -/
def outboxCell (capsuleHex : String) :
    SharedCell.Cell (Option (DartValue Double)) (List DeliveryOutboxItem) OutboxCall where
  read := load host
  refresh := migrated host
  unrefreshed := []
  ready := ready capsuleHex
  write call items := (transform host capsuleHex items call).map (write host)

/-- What a written item is read as. -/
def reread (item : DeliveryOutboxItem) : Option DeliveryOutboxItem := fromJson host (toJson host item)

/-- What a call that meets no other leaves of the items. -/
def effect (capsuleHex : String) (call : OutboxCall) (items : List DeliveryOutboxItem) :
    List DeliveryOutboxItem :=
  match transform host capsuleHex items call with
  | some next => next.filterMap (reread host)
  | none => items

/-! ### Reading what is written -/

/-- An item whose texts are read as they are written, and whose attempts are read at all. -/
structure Readable (item : DeliveryOutboxItem) : Prop where
  id : trimmed item.id = item.id
  capsuleHex : trimmedLower item.capsuleHex = item.capsuleHex
  transport : trimmed item.transport = item.transport
  kind : trimmed item.kind = item.kind
  reason : trimmed item.reason = item.reason
  reference : normalizeDeliveryReference item.deliveryReference = item.deliveryReference
  recipient : normalizeDeliveryReference item.recipientHex = item.recipientHex
  acceptedBy : boundedReceiptText item.adapterAcceptedBy = item.adapterAcceptedBy
  envelopeId : boundedReceiptText item.adapterEnvelopeId = item.adapterEnvelopeId
  named : item.named = true
  counted : 0 ≤ item.attempts

theorem normalizeDeliveryReference_idem (value : Option String) :
    normalizeDeliveryReference (normalizeDeliveryReference value) =
      normalizeDeliveryReference value := by
  unfold normalizeDeliveryReference
  cases value with
  | none => rfl
  | some text =>
    rw [Option.map_some, Option.filter_some]
    split_ifs with hhex
    · rw [Option.map_some, trimmedLower_trimmedLower, Option.filter_some, if_pos hhex]
    · rfl

theorem boundedReceiptText_idem (value : Option String) :
    boundedReceiptText (boundedReceiptText value) = boundedReceiptText value := by
  unfold boundedReceiptText
  cases value with
  | none => rfl
  | some text =>
    by_cases hbad : trimmed text = "" ∨ 1024 < dartLength (trimmed text)
    · simp [hbad]
    · simp [hbad, trimmed_trimmed]

variable {host}

section Members

variable (item : DeliveryOutboxItem) {members : List (String × DartValue Double)} {name : String}

theorem countMember_of {count : Option ℕ} (h : members.lookup name = some (countValue count)) :
    countMember members name = count := by
  unfold countMember
  rw [h]
  cases count with
  | none => rfl
  | some n => simp [countValue]

theorem countMember_attempts (h : members.lookup name = some (.num (.inl item.attempts))) :
    countMember members name =
      if 0 ≤ item.attempts then some item.attempts.toNat else none := by
  rw [countMember, h]

theorem textMember_of {text : Option String} (h : members.lookup name = some (textValue text)) :
    textMember host members name = text := by
  unfold textMember
  rw [h]
  cases text <;> rfl

theorem dateMember_of {date : Option ℤ}
    (h : members.lookup name = some (textValue (date.map host.toIso8601String))) :
    dateMember host members name = date := by
  rw [dateMember, textMember_of h]
  cases date with
  | none => exact host.tryParseDate_empty
  | some time => exact host.tryParseDate_iso time

theorem parsedStatus_of {status : DeliveryOutboxStatus}
    (h : members.lookup "status" = some (textValue (some status.name))) :
    parsedStatus host members = some (if status = .dead then .pending else status) := by
  rw [parsedStatus, textMember_of h]
  cases status <;> rfl

end Members

/-- The status that is read of an item. -/
def readStatus (item : DeliveryOutboxItem) : DeliveryOutboxStatus :=
  quarantineUnbound item.deliveryReference (if item.status = .dead then .pending else item.status)

/-- The members of an item, one by one. -/
theorem lookup_itemMembers (item : DeliveryOutboxItem) :
    (itemMembers host item).lookup "id" = some (textValue (some item.id)) ∧
    (itemMembers host item).lookup "capsule_hex" = some (textValue (some item.capsuleHex)) ∧
    (itemMembers host item).lookup "transport" = some (textValue (some item.transport)) ∧
    (itemMembers host item).lookup "kind" = some (textValue (some item.kind)) ∧
    (itemMembers host item).lookup "reason" = some (textValue (some item.reason)) ∧
    (itemMembers host item).lookup "delivery_reference" =
      some (textValue item.deliveryReference) ∧
    (itemMembers host item).lookup "recipient_hex" = some (textValue item.recipientHex) ∧
    (itemMembers host item).lookup "adapter_accepted_by" =
      some (textValue item.adapterAcceptedBy) ∧
    (itemMembers host item).lookup "adapter_envelope_id" =
      some (textValue item.adapterEnvelopeId) ∧
    (itemMembers host item).lookup "adapter_message_kind" =
      some (countValue item.adapterMessageKind) ∧
    (itemMembers host item).lookup "adapter_failed_before_accept" =
      some (countValue item.adapterFailedBeforeAccept) ∧
    (itemMembers host item).lookup "published_at" =
      some (textValue (item.publishedAt.map host.toIso8601String)) ∧
    (itemMembers host item).lookup "created_at" =
      some (textValue ((some item.createdAt).map host.toIso8601String)) ∧
    (itemMembers host item).lookup "next_attempt_at" =
      some (textValue ((some item.nextAttemptAt).map host.toIso8601String)) ∧
    (itemMembers host item).lookup "attempts" = some (.num (.inl item.attempts)) ∧
    (itemMembers host item).lookup "status" = some (textValue (some item.status.name)) ∧
    (itemMembers host item).lookup "last_error" = some (textValue item.lastError) :=
  ⟨rfl, rfl, rfl, rfl, rfl, rfl, rfl, rfl, rfl, rfl, rfl, rfl, rfl, rfl, rfl, rfl, rfl⟩

variable {item : DeliveryOutboxItem}

/-- **What a written item is read as**: itself, up to its status. -/
theorem reread_of_readable (h : Readable item) :
    reread host item = some { item with status := readStatus item } := by
  obtain ⟨hid, hcapsule, htransport, hkind, hreason, hreference, hrecipient, haccepted, henvelope,
    hmessage, hfailed, hpublished, hcreated, hnext, hattempts, hstatus, herror⟩ :=
    @lookup_itemMembers _ host item
  have hcount : countMember (itemMembers host item) "attempts" = some item.attempts.toNat := by
    rw [countMember_attempts item hattempts, if_pos h.counted]
  have hitem : itemOf host (itemMembers host item) item.createdAt item.nextAttemptAt
      item.attempts.toNat (if item.status = .dead then .pending else item.status) =
      { item with status := readStatus item } := by
    unfold itemOf readStatus
    rw [textMember_of hid, textMember_of hcapsule, textMember_of htransport, textMember_of hkind,
      textMember_of hreason, textMember_of hreference, textMember_of hrecipient,
      textMember_of haccepted, textMember_of henvelope, countMember_of hmessage,
      countMember_of hfailed, dateMember_of hpublished, textMember_of herror, h.reference,
      h.recipient, h.acceptedBy, h.envelopeId, Int.toNat_of_nonneg h.counted]
    simp only [Option.map_some, Option.getD_some, h.id, h.capsuleHex, h.transport, h.kind,
      h.reason]
  show itemOfMembers host (itemMembers host item) = _
  unfold itemOfMembers
  rw [dateMember_of hcreated, dateMember_of hnext, hcount, parsedStatus_of hstatus]
  show checkedItem (itemOf host _ _ _ _ _) = _
  rw [hitem]
  exact if_pos h.named

/-- An item whose attempts are negative is not read. -/
theorem counted_of_reread {after : DeliveryOutboxItem} (h : reread host item = some after) :
    0 ≤ item.attempts := by
  obtain ⟨-, -, -, -, -, -, -, -, -, -, -, -, -, -, hattempts, -, -⟩ :=
    @lookup_itemMembers _ host item
  by_contra hnegative
  have hread : itemOfMembers host (itemMembers host item) = some after := h
  unfold itemOfMembers at hread
  rw [countMember_attempts item hattempts, if_neg hnegative] at hread
  split at hread
  · next hcount _ => cases hcount
  · cases hread

variable {status : DeliveryOutboxStatus}

theorem parsedStatus_ne_dead {members : List (String × DartValue Double)}
    (h : parsedStatus host members = some status) : status ≠ .dead := by
  unfold parsedStatus at h
  split at h <;> cases h <;> exact fun heq => nomatch heq

theorem quarantineUnbound_settled {reference : Option String} (h : status ≠ .dead) :
    quarantineUnbound reference
        (if quarantineUnbound reference status = .dead then .pending
          else quarantineUnbound reference status) =
      quarantineUnbound reference status := by
  unfold quarantineUnbound
  by_cases hunbound : reference = none ∧ status = .pending
  · simp [hunbound]
  · simp [hunbound, h]

variable {value : DartValue Double}

/-- **What is read once is read as itself.** -/
theorem readable_of_fromJson (h : fromJson host value = some item) :
    Readable item ∧ readStatus item = item.status := by
  cases value with
  | obj members =>
    have hread : itemOfMembers host members = some item := h
    unfold itemOfMembers at hread
    split at hread
    · next createdAt nextAttemptAt attempts status _ _ _ hstatus =>
      have hnamed : (itemOf host members createdAt nextAttemptAt attempts status).named = true := by
        by_contra hno
        rw [checkedItem, if_neg hno] at hread
        exact nomatch hread
      rw [checkedItem, if_pos hnamed] at hread
      rw [← Option.some.inj hread]
      have htrim : ∀ value : Option String,
          trimmed ((value.map trimmed).getD "") = (value.map trimmed).getD "" := by
        intro value
        cases value with
        | none => rfl
        | some text => exact trimmed_trimmed text
      have hlower : ∀ value : Option String,
          trimmedLower ((value.map trimmedLower).getD "") = (value.map trimmedLower).getD "" := by
        intro value
        cases value with
        | none => rfl
        | some text => exact trimmedLower_trimmedLower text
      refine ⟨⟨htrim _, hlower _, htrim _, htrim _, htrim _, normalizeDeliveryReference_idem _,
        normalizeDeliveryReference_idem _, boundedReceiptText_idem _, boundedReceiptText_idem _,
        hnamed, Int.natCast_nonneg _⟩, ?_⟩
      exact quarantineUnbound_settled (parsedStatus_ne_dead hstatus)
    · exact nomatch hread
  | _ => exact nomatch h

theorem reread_of_fromJson (h : fromJson host value = some item) :
    reread host item = some item := by
  obtain ⟨hreadable, hstatus⟩ := readable_of_fromJson h
  rw [reread_of_readable hreadable, hstatus]

/-! ### What a call leaves -/

theorem mem_load {file : Option (DartValue Double)} (h : item ∈ load host file) :
    ∃ value, fromJson host value = some item := by
  unfold load at h
  split at h
  · obtain ⟨value, -, hvalue⟩ := List.mem_filterMap.mp h
    exact ⟨value, hvalue⟩
  · exact nomatch h

/-- A file is read as the items it was written with, each as it is read. -/
theorem load_write (items : List DeliveryOutboxItem) :
    (load host (write host items)).Perm (items.filterMap (reread host)) := by
  have hperm := (host.sort_perm (fun a b => decide (a.id ≤ b.id)) items).filterMap (reread host)
  have hload : load host (write host items) =
      ((host.sort (fun a b => decide (a.id ≤ b.id)) items).map (toJson host)).filterMap
        (fromJson host) := rfl
  rw [hload, List.filterMap_map]
  exact hperm

/-- A file is read the same after it was written back. -/
theorem load_migrated {file migratedFile : Option (DartValue Double)}
    (h : migrated host file = some migratedFile) :
    (load host migratedFile).Perm (load host file) := by
  have hback : ∀ items : List (DartValue Double),
      (load host (write host (items.filterMap (fromJson host)))).Perm
        (items.filterMap (fromJson host)) := by
    intro items
    refine (load_write _).trans (List.Perm.of_eq ?_)
    rw [List.filterMap_filterMap]
    refine List.filterMap_congr fun value _ => ?_
    cases hvalue : fromJson host value with
    | none => rfl
    | some item => exact reread_of_fromJson hvalue
  unfold migrated at h
  split at h
  · next members =>
    split_ifs at h
    obtain ⟨items, hitems, rfl⟩ := Option.map_eq_some_iff.mp h
    have hload : load host (some (.obj members)) = items.filterMap (fromJson host) := by
      show ((storedItems members).getD []).filterMap (fromJson host) = _
      rw [hitems, Option.getD_some]
    rw [hload]
    exact hback items
  · exact nomatch h

variable {items items' : List DeliveryOutboxItem}

theorem holds_perm (h : items.Perm items') (itemId : String) :
    holds items itemId = holds items' itemId := by
  rw [Bool.eq_iff_iff, holds, holds, List.any_eq_true, List.any_eq_true]
  exact exists_congr fun item => and_congr_left fun _ => h.mem_iff

theorem changeItem_perm (h : items.Perm items') (itemId : String)
    (change : DeliveryOutboxItem → DeliveryOutboxItem) :
    (changeItem itemId change items).Perm (changeItem itemId change items') :=
  h.map _

theorem transform_enqueueIfAbsent (capsuleHex : String) (items : List DeliveryOutboxItem)
    (obligation : Obligation) :
    transform host capsuleHex items (.enqueueIfAbsent obligation) =
      if holds items (stableId host capsuleHex obligation) then none
      else some (items ++ [newItem host capsuleHex obligation]) := rfl

/-- The order of the items makes no difference to a call. -/
theorem transform_perm (capsuleHex : String) (call : OutboxCall)
    {items items' : List DeliveryOutboxItem} (h : items.Perm items') :
    (transform host capsuleHex items call = none ∧ transform host capsuleHex items' call = none) ∨
      ∃ next next', transform host capsuleHex items call = some next ∧
        transform host capsuleHex items' call = some next' ∧ next.Perm next' := by
  cases call with
  | load => exact .inl ⟨rfl, rfl⟩
  | enqueue obligation =>
    refine .inr ⟨_, _, rfl, rfl, ?_⟩
    rw [holds_perm h]
    exact (changeItem_perm h _ _).append_right _
  | enqueueIfAbsent obligation =>
    have hholds := holds_perm h (stableId host capsuleHex obligation)
    by_cases hheld : holds items' (stableId host capsuleHex obligation) = true
    · refine .inl ⟨?_, ?_⟩
      · rw [transform_enqueueIfAbsent, if_pos (hholds.trans hheld)]
      · rw [transform_enqueueIfAbsent, if_pos hheld]
    · refine .inr ⟨_, _, ?_, ?_, h.append_right [newItem host capsuleHex obligation]⟩
      · rw [transform_enqueueIfAbsent, if_neg (hholds ▸ hheld)]
      · rw [transform_enqueueIfAbsent, if_neg hheld]
  | markAttempt itemId nextAttemptAt lastError =>
    exact .inr ⟨_, _, rfl, rfl, changeItem_perm h _ _⟩
  | markPublished itemId nextAttemptAt evidence =>
    exact .inr ⟨_, _, rfl, rfl, changeItem_perm h _ _⟩
  | markSuperseded itemId => exact .inr ⟨_, _, rfl, rfl, changeItem_perm h _ _⟩

/-- A change of an item that keeps it readable, under its id, as long as it can be counted. -/
def Keeps (change : DeliveryOutboxItem → DeliveryOutboxItem) : Prop :=
  ∀ item, Readable item →
    (0 ≤ (change item).attempts → Readable (change item)) ∧ (change item).id = item.id

theorem revived_keeps (obligation : Obligation) : Keeps (revived obligation) :=
  fun _ h => ⟨fun hcount => ⟨h.id, h.capsuleHex, h.transport, h.kind, h.reason, h.reference, rfl, rfl,
    rfl, h.named, hcount⟩, rfl⟩

theorem attempted_keeps (nextAttemptAt : ℤ) (lastError : Option String) :
    Keeps (attempted nextAttemptAt lastError) :=
  fun _ h => ⟨fun hcount => ⟨h.id, h.capsuleHex, h.transport, h.kind, h.reason, h.reference,
    h.recipient, h.acceptedBy, h.envelopeId, h.named, hcount⟩, rfl⟩

theorem publishedItem_keeps (nextAttemptAt : ℤ) (evidence : PublicationEvidence) :
    Keeps (publishedItem nextAttemptAt evidence) := by
  intro item h
  unfold publishedItem
  refine ⟨fun hcount => ⟨h.id, h.capsuleHex, h.transport, h.kind, h.reason, h.reference, ?_, ?_, ?_,
    ?_, hcount⟩, rfl⟩
  -- the texts of the evidence are in their normal form
  · dsimp only
    rw [normalizeDeliveryReference_idem]
  · dsimp only
    rw [boundedReceiptText_idem]
  · dsimp only
    rw [boundedReceiptText_idem]
  · have hnamed := h.named
    unfold DeliveryOutboxItem.named at hnamed ⊢
    exact hnamed

theorem supersededItem_keeps : Keeps supersededItem :=
  fun _ h => ⟨fun hcount => ⟨h.id, h.capsuleHex, h.transport, h.kind, h.reason, h.reference,
    h.recipient, h.acceptedBy, h.envelopeId, h.named, hcount⟩, rfl⟩

variable (host) (capsuleHex : String)

/-- The obligation that a call enqueues. -/
def OutboxCall.obligation : OutboxCall → Option Obligation
  | .enqueue obligation => some obligation
  | .enqueueIfAbsent obligation => some obligation
  | _ => none

/-- The id of the items whose attempts a call counts. -/
def OutboxCall.marks : OutboxCall → Option String
  | .markAttempt itemId _ _ => some itemId
  | .markPublished itemId _ _ => some itemId
  | _ => none

/-- What a call makes of an item that is there. -/
def OutboxCall.change (call : OutboxCall) (item : DeliveryOutboxItem) : DeliveryOutboxItem :=
  match call with
  | .enqueue obligation =>
    if item.id = stableId host capsuleHex obligation then revived obligation item else item
  | .markAttempt itemId nextAttemptAt lastError =>
    if item.id = itemId then attempted nextAttemptAt lastError item else item
  | .markPublished itemId nextAttemptAt evidence =>
    if item.id = itemId then publishedItem nextAttemptAt evidence item else item
  | .markSuperseded itemId => if item.id = itemId then supersededItem item else item
  | _ => item

variable {host} {capsuleHex} {call : OutboxCall} {items next : List DeliveryOutboxItem}

/-- What a call makes of the items, in terms of each of them. -/
theorem transform_eq_some {items next : List DeliveryOutboxItem}
    (h : transform host capsuleHex items call = some next) :
    (next = items.map (call.change host capsuleHex) ∧
        ∀ obligation, call.obligation = some obligation →
          stableId host capsuleHex obligation ∈ items.map DeliveryOutboxItem.id) ∨
      ∃ obligation, call.obligation = some obligation ∧
        stableId host capsuleHex obligation ∉ items.map DeliveryOutboxItem.id ∧
        next = items.map (call.change host capsuleHex) ++ [newItem host capsuleHex obligation] := by
  have habsent : ∀ obligation, ¬ holds items (stableId host capsuleHex obligation) = true →
      stableId host capsuleHex obligation ∉ items.map DeliveryOutboxItem.id := by
    intro obligation hnot hmem
    obtain ⟨item, hitem, hid⟩ := List.mem_map.mp hmem
    exact hnot (List.any_eq_true.mpr ⟨item, hitem, beq_iff_eq.mpr hid⟩)
  cases call with
  | load => cases h
  | enqueue obligation =>
    have hnext : next = changeItem (stableId host capsuleHex obligation) (revived obligation) items
        ++ if holds items (stableId host capsuleHex obligation) then []
          else [newItem host capsuleHex obligation] := (Option.some.inj h).symm
    by_cases hheld : holds items (stableId host capsuleHex obligation) = true
    · left
      rw [hnext, if_pos hheld, List.append_nil]
      refine ⟨rfl, ?_⟩
      rintro other ⟨⟩
      obtain ⟨item, hitem, hid⟩ := List.any_eq_true.mp hheld
      exact List.mem_map.mpr ⟨item, hitem, eq_of_beq hid⟩
    · right
      refine ⟨obligation, rfl, habsent obligation hheld, ?_⟩
      rw [hnext, if_neg hheld]
      rfl
  | enqueueIfAbsent obligation =>
    rw [transform_enqueueIfAbsent] at h
    split_ifs at h with hheld
    right
    refine ⟨obligation, rfl, habsent obligation hheld, ?_⟩
    rw [← Option.some.inj h]
    congr 1
    exact (List.map_id items).symm
  | markAttempt itemId nextAttemptAt lastError =>
    exact Or.inl ⟨(Option.some.inj h).symm, fun _ hnone => by cases hnone⟩
  | markPublished itemId nextAttemptAt evidence =>
    exact Or.inl ⟨(Option.some.inj h).symm, fun _ hnone => by cases hnone⟩
  | markSuperseded itemId =>
    exact Or.inl ⟨(Option.some.inj h).symm, fun _ hnone => by cases hnone⟩

theorem transform_eq_none {call : OutboxCall} :
    transform host capsuleHex items call = none ↔
      call = .load ∨ ∃ obligation, call = .enqueueIfAbsent obligation ∧
        stableId host capsuleHex obligation ∈ items.map DeliveryOutboxItem.id := by
  cases call with
  | enqueueIfAbsent obligation =>
    unfold transform holds
    simp [List.any_eq_true]
  | _ => simp [transform]

/-- A call that writes nothing changes no item. -/
theorem change_of_transform_none {items : List DeliveryOutboxItem}
    (h : transform host capsuleHex items call = none) (item : DeliveryOutboxItem) :
    call.change host capsuleHex item = item := by
  rcases transform_eq_none.mp h with rfl | ⟨obligation, rfl, -⟩
  · rfl
  · rfl

variable (host capsuleHex) in
/-- A change keeps an item readable, under its id, as long as it can be counted. -/
theorem change_keeps (call : OutboxCall) : Keeps (call.change host capsuleHex) := by
  intro item h
  have hsame : (0 ≤ item.attempts → Readable item) ∧ item.id = item.id := ⟨fun _ => h, rfl⟩
  unfold OutboxCall.change
  cases call with
  | load => exact hsame
  | enqueueIfAbsent obligation => exact hsame
  | enqueue obligation =>
    dsimp only
    split_ifs
    · exact revived_keeps obligation item h
    · exact hsame
  | markAttempt itemId nextAttemptAt lastError =>
    dsimp only
    split_ifs
    · exact attempted_keeps nextAttemptAt lastError item h
    · exact hsame
  | markPublished itemId nextAttemptAt evidence =>
    dsimp only
    split_ifs
    · exact publishedItem_keeps nextAttemptAt evidence item h
    · exact hsame
  | markSuperseded itemId =>
    dsimp only
    split_ifs
    · exact supersededItem_keeps item h
    · exact hsame

theorem id_mem_reread (hmem : item ∈ items) (h : Readable item) :
    item.id ∈ (items.filterMap (reread host)).map DeliveryOutboxItem.id :=
  List.mem_map.mpr ⟨_, List.mem_filterMap.mpr ⟨item, hmem, reread_of_readable h⟩, rfl⟩

/-- A call marks no item under an id that was attempted as often as can be counted. -/
def CountableAt (itemId : String) (call : OutboxCall) (items : List DeliveryOutboxItem) : Prop :=
  ∀ item ∈ items, item.id = itemId → call.marks = some itemId →
    item.attempts < 9223372036854775807

/-- A call marks no item that was attempted as often as can be counted. -/
def Countable (call : OutboxCall) (items : List DeliveryOutboxItem) : Prop :=
  ∀ item ∈ items, call.marks = some item.id → item.attempts < 9223372036854775807

instance (call : OutboxCall) (items : List DeliveryOutboxItem) : Decidable (Countable call items) :=
  inferInstanceAs (Decidable (∀ item ∈ items, _ → _))

theorem nextAttempts_nonneg (h : 0 ≤ item.attempts) (hlimit : item.attempts < 9223372036854775807) :
    0 ≤ item.nextAttempts := by
  unfold DeliveryOutboxItem.nextAttempts wrap64
  omega

/-- What a call makes of a readable item is read, unless the call counts too far. -/
theorem readable_change (h : Readable item)
    (hcount : call.marks = some item.id → item.attempts < 9223372036854775807) :
    Readable (call.change host capsuleHex item) := by
  refine (change_keeps host capsuleHex call item h).1 ?_
  have hzero := h.counted
  unfold OutboxCall.change
  cases call with
  | enqueue obligation =>
    dsimp only
    split_ifs
    · exact Int.le_refl 0
    · exact hzero
  | markAttempt itemId nextAttemptAt lastError =>
    dsimp only
    split_ifs with hid
    · exact nextAttempts_nonneg hzero (hcount (congrArg some hid.symm))
    · exact hzero
  | markPublished itemId nextAttemptAt evidence =>
    dsimp only
    split_ifs with hid
    · exact nextAttempts_nonneg hzero (hcount (congrArg some hid.symm))
    · exact hzero
  | markSuperseded itemId =>
    dsimp only
    split_ifs
    · exact hzero
    · exact hzero
  | _ => exact hzero

theorem Countable.at (h : Countable call items) (itemId : String) : CountableAt itemId call items := by
  rintro item hmem rfl hmarks
  exact h item hmem hmarks

/-- No call loses an item, unless it counts too far. -/
theorem effect_keeps {itemId : String} (hitems : ∀ item ∈ items, Readable item)
    (hcount : CountableAt itemId call items) (h : itemId ∈ items.map DeliveryOutboxItem.id) :
    itemId ∈ (effect host capsuleHex call items).map DeliveryOutboxItem.id := by
  obtain ⟨item, hmem, rfl⟩ := List.mem_map.mp h
  unfold effect
  cases hnext : transform host capsuleHex items call with
  | none => exact h
  | some next =>
    have hchanged : call.change host capsuleHex item ∈ next := by
      rcases transform_eq_some hnext with ⟨rfl, -⟩ | ⟨obligation, -, -, rfl⟩
      · exact List.mem_map_of_mem hmem
      · exact List.mem_append_left _ (List.mem_map_of_mem hmem)
    rw [← (change_keeps host capsuleHex call item (hitems item hmem)).2]
    exact id_mem_reread hchanged (readable_change (hitems item hmem) (hcount item hmem rfl))

theorem readable_load (file : Option (DartValue Double)) :
    ∀ item ∈ load host file, Readable item := by
  intro item hitem
  obtain ⟨value, hvalue⟩ := mem_load hitem
  exact (readable_of_fromJson hvalue).1

theorem effect_perm (call : OutboxCall) (h : items.Perm items') :
    (effect host capsuleHex call items).Perm (effect host capsuleHex call items') := by
  unfold effect
  rcases @transform_perm _ host capsuleHex call _ _ h with ⟨hnone, hnone'⟩ |
    ⟨next, next', hnext, hnext', hperm⟩
  · rw [hnone, hnone']
    exact h
  · rw [hnext, hnext']
    exact hperm.filterMap _

/-- **The outbox is a cell**: what one call leaves are the items as they are read. -/
theorem outboxCell_lawful (host : OutboxHost Double) (capsuleHex : String) :
    (outboxCell host capsuleHex).Lawful List.Perm Countable (effect host capsuleHex) where
  equivalence := ⟨List.Perm.refl, List.Perm.symm, List.Perm.trans⟩
  refresh_read := load_migrated
  write_read := by
    intro call items file h
    obtain ⟨next, hnext, rfl⟩ := Option.map_eq_some_iff.mp h
    unfold effect
    rw [hnext]
    exact load_write next
  effect_congr call _ _ h := effect_perm call h
  effect_settled := by
    intro call items h
    unfold effect
    rw [Option.map_eq_none_iff.mp h]
  settled_unrefreshed := by
    intro call h items
    have hempty := Option.map_eq_none_iff.mp h
    rcases transform_eq_none.mp hempty with rfl | ⟨_, -, hmem⟩
    · rfl
    · exact nomatch hmem
  settled_congr := by
    intro call a b hperm h
    refine Option.map_eq_none_iff.mpr ?_
    rcases @transform_perm _ host capsuleHex call _ _ hperm with ⟨-, hnone⟩ | ⟨_, _, hsome, -, -⟩
    · exact hnone
    · exact nomatch (Option.map_eq_none_iff.mp h).symm.trans hsome
  settled_effect := by
    intro call file other hcount h
    refine Option.map_eq_none_iff.mpr (transform_eq_none.mpr ?_)
    rcases transform_eq_none.mp (Option.map_eq_none_iff.mp h) with rfl | ⟨obligation, rfl, hmem⟩
    · exact .inl rfl
    · exact .inr ⟨obligation, rfl, effect_keeps (readable_load file) (hcount.at _) hmem⟩

end Outbox

end DeliveryOutbox

end Hivra
