import Hivra.Ffi.Ingress
import Hivra.Ffi.LedgerJson
import Hivra.Lib.Keyed
import Mathlib.Data.List.MinMax
import Mathlib.Data.List.Sort
import Mathlib.Data.String.Basic

namespace Hivra

open Replay

/-!
# The inbound quarantine

What arrives faster than its sender may send, or cannot be consumed yet, waits sealed in a file
of the capsule.  The same file keeps the records that are done with, as tombstones, and for each
sender the permits that are left and the events that were charged.

The repository holds the file in memory.  A call changes the memory and writes all of it; the
sealing and the writing are outside.

* `quarantine`, `applySenderPolicy`, `expireDue`, `markConsumed`, `markRetry` — the calls.
-/

namespace InboundQuarantine

def schemaVersion : UInt16 := 1
def adapterName : String := "nostr"
def maxRecords : ℕ := 256
def maxCiphertextBytes : ℕ := 32 * 1024 * 1024
def maxRecordsPerSender : ℕ := 32
def maxObservations : ℕ := 16
def payloadRetentionSecs : UInt64 := 72 * 60 * 60
def tombstoneRetentionSecs : UInt64 := 30 * 24 * 60 * 60
def maxTombstones : ℕ := 1024
def maxTombstoneBytes : ℕ := 1024 * 1024
def initialRetryDelaySecs : UInt64 := 15
def maxRetryDelaySecs : UInt64 := 15 * 60
def maxEventIdLen : ℕ := 128
def maxEndpointLen : ℕ := 512
def senderPolicyBurst : UInt8 := 8
def senderPolicyRefillSecs : UInt64 := 15
def maxPolicySenders : ℕ := 1024
def chargeEvidenceRetentionSecs : UInt64 := 8 * 24 * 60 * 60
def maxChargeEvidence : ℕ := 65536
def maxChargeEvidencePerSender : ℕ := 40960
def maxSenderPolicyBytes : ℕ := 8 * 1024 * 1024

inductive QuarantineError
  | uninitialized
  | invalidScope
  | invalidRecord
  | capacity
  | tombstoneCapacity
  | corrupt
  | crypto
  | io
  deriving DecidableEq

structure InboundQuarantineScopeV1 where
  capsuleId : String
  network : UInt8
  transportEndpoint : String
  deriving DecidableEq

/-- A message that waits: its envelope is sealed. -/
structure InboundQuarantineRecordV1 where
  schemaVersion : UInt16
  scope : InboundQuarantineScopeV1
  adapter : String
  adapterEventId : String
  authenticatedSender : String
  observedBy : List String
  messageKind : UInt32
  reason : String
  firstObservedAt : UInt64
  quarantinedAt : UInt64
  eligibleAfter : UInt64
  expiresAt : UInt64
  attemptCount : UInt16
  lastAttemptAt : Option UInt64
  envelopeCiphertext : List UInt8
  deriving DecidableEq

/-- A record that is done with. -/
structure InboundQuarantineTombstoneV1 where
  schemaVersion : UInt16
  scope : InboundQuarantineScopeV1
  adapter : String
  adapterEventId : String
  authenticatedSender : String
  messageKind : UInt32
  terminalReason : String
  firstObservedAt : UInt64
  terminalAt : UInt64
  deriving DecidableEq

structure SenderChargeEvidenceV1 where
  adapterEventId : String
  chargedAt : UInt64
  deriving DecidableEq

/-- The permits of a sender, and the events that took one. -/
structure SenderIngressPolicyV1 where
  schemaVersion : UInt16
  scope : InboundQuarantineScopeV1
  authenticatedSender : String
  availablePermits : UInt8
  lastRefillAt : UInt64
  lastActivityAt : UInt64
  chargedEvents : List SenderChargeEvidenceV1
  deriving DecidableEq

structure InboundQuarantineSnapshotV1 where
  schemaVersion : UInt16
  scope : InboundQuarantineScopeV1
  records : List InboundQuarantineRecordV1
  tombstones : List InboundQuarantineTombstoneV1
  senderPolicies : List SenderIngressPolicyV1
  deriving DecidableEq

inductive SenderIngressDecision
  | permit
  | alreadyCharged
  | quarantined
  deriving DecidableEq

/-! ### Numbers -/

def saturatingSub (a b : UInt64) : UInt64 := if b ≤ a then a - b else 0

def saturatingAdd (a b : UInt64) : UInt64 :=
  if a.toNat + b.toNat < 2 ^ 64 then a + b else UInt64.ofNat (2 ^ 64 - 1)

theorem toNat_saturatingSub (a b : UInt64) : (saturatingSub a b).toNat = a.toNat - b.toNat := by
  unfold saturatingSub
  split_ifs with hle
  · exact UInt64.toNat_sub_of_le _ _ hle
  · rw [UInt64.le_iff_toNat_le] at hle
    show 0 = _
    omega

theorem toNat_saturatingAdd (a b : UInt64) :
    (saturatingAdd a b).toNat = min (a.toNat + b.toNat) (2 ^ 64 - 1) := by
  unfold saturatingAdd
  split_ifs with hlt
  · rw [UInt64.toNat_add]
    omega
  · show 2 ^ 64 - 1 = _
    omega

/-- `refill` more permits, as many as a sender can have. -/
def refilled (available : UInt8) (refill : UInt64) : UInt8 :=
  UInt8.ofNat (min (min (available.toNat + min refill.toNat 255) 255) senderPolicyBurst.toNat)

theorem toNat_refilled (available : UInt8) (refill : UInt64) :
    (refilled available refill).toNat = min (available.toNat + refill.toNat) 8 := by
  have hburst : senderPolicyBurst.toNat = 8 := rfl
  rw [refilled, hburst, UInt8.toNat_ofNat']
  omega

/-! ### The bytes of a value on the wire

Numbers have a fixed width; texts and lists have their length, in eight bytes, in front. -/

def stringBytes (text : String) : ℕ := 8 + text.utf8ByteSize

def vecBytes {α : Type} (size : α → ℕ) (items : List α) : ℕ := 8 + (items.map size).sum

def InboundQuarantineScopeV1.bytes (scope : InboundQuarantineScopeV1) : ℕ :=
  stringBytes scope.capsuleId + 1 + stringBytes scope.transportEndpoint

def InboundQuarantineTombstoneV1.bytes (tombstone : InboundQuarantineTombstoneV1) : ℕ :=
  2 + tombstone.scope.bytes + stringBytes tombstone.adapter +
    stringBytes tombstone.adapterEventId + stringBytes tombstone.authenticatedSender + 4 +
    stringBytes tombstone.terminalReason + 8 + 8

def SenderChargeEvidenceV1.bytes (evidence : SenderChargeEvidenceV1) : ℕ :=
  stringBytes evidence.adapterEventId + 8

def SenderIngressPolicyV1.bytes (policy : SenderIngressPolicyV1) : ℕ :=
  2 + policy.scope.bytes + stringBytes policy.authenticatedSender + 1 + 8 + 8 +
    vecBytes SenderChargeEvidenceV1.bytes policy.chargedEvents

/-! ### Checks -/

/-- Go on only if the condition holds. -/
def require (condition : Prop) [Decidable condition] (error : QuarantineError) :
    Except QuarantineError Unit :=
  if condition then .ok () else .error error

def isEventIdChar (c : Char) : Bool := c.isAlphanum || c == '-' || c == '_' || c == ':'

def isHexDigit (c : Char) : Bool :=
  c.isDigit || (decide ('a' ≤ c) && decide (c ≤ 'f')) || (decide ('A' ≤ c) && decide (c ≤ 'F'))

/-- What an event id must be. -/
def EventId (value : String) : Prop :=
  value ≠ "" ∧ value.utf8ByteSize ≤ maxEventIdLen ∧ value.toList.all isEventIdChar = true

instance (value : String) : Decidable (EventId value) := inferInstanceAs (Decidable (_ ∧ _))

/-- What the text of a key must be. -/
def Hex32 (value : String) : Prop :=
  value.utf8ByteSize = 64 ∧ value.toList.all isHexDigit = true

instance (value : String) : Decidable (Hex32 value) := inferInstanceAs (Decidable (_ ∧ _))

def validateEventId (value : String) : Except QuarantineError Unit :=
  require (EventId value) .invalidRecord

def validateHex32 (value : String) : Except QuarantineError Unit :=
  require (Hex32 value) .invalidScope

/-- The loop over the records: the ids and the senders that were seen, and their bytes. -/
def validateRecords (scope : InboundQuarantineScopeV1) : List String → List String → ℕ →
    List InboundQuarantineRecordV1 → Except QuarantineError (List String × ℕ)
  | ids, _, bytes, [] => .ok (ids, bytes)
  | ids, senders, bytes, record :: rest => do
    require (record.schemaVersion = schemaVersion ∧ record.scope = scope ∧
      record.adapter = adapterName ∧ record.adapterEventId ∉ ids ∧
      record.observedBy.length ≤ maxObservations ∧
      record.expiresAt = saturatingAdd record.firstObservedAt payloadRetentionSecs) .corrupt
    validateEventId record.adapterEventId
    validateHex32 record.authenticatedSender
    require (senders.count record.authenticatedSender + 1 ≤ maxRecordsPerSender) .corrupt
    validateRecords scope (record.adapterEventId :: ids) (record.authenticatedSender :: senders)
      (bytes + record.envelopeCiphertext.length) rest

/-- The loop over the tombstones: no id is one of a record. -/
def validateTombstones (scope : InboundQuarantineScopeV1) : List String →
    List InboundQuarantineTombstoneV1 → Except QuarantineError Unit
  | _, [] => .ok ()
  | ids, tombstone :: rest => do
    require (tombstone.schemaVersion = schemaVersion ∧ tombstone.scope = scope ∧
      tombstone.adapter = adapterName ∧ tombstone.adapterEventId ∉ ids) .corrupt
    validateEventId tombstone.adapterEventId
    validateHex32 tombstone.authenticatedSender
    validateTombstones scope (tombstone.adapterEventId :: ids) rest

/-- The loop over the charged events of one sender. -/
def validateEvidence : List String → List SenderChargeEvidenceV1 →
    Except QuarantineError (List String)
  | ids, [] => .ok ids
  | ids, evidence :: rest => do
    validateEventId evidence.adapterEventId
    require (evidence.adapterEventId ∉ ids) .corrupt
    validateEvidence (evidence.adapterEventId :: ids) rest

/-- The loop over the senders: no event is charged to two of them. -/
def validatePolicies (scope : InboundQuarantineScopeV1) : List String → List String → ℕ →
    List SenderIngressPolicyV1 → Except QuarantineError ℕ
  | _, _, count, [] => .ok count
  | senders, ids, count, policy :: rest => do
    require (policy.schemaVersion = schemaVersion ∧ policy.scope = scope ∧
      policy.availablePermits ≤ senderPolicyBurst ∧ policy.authenticatedSender ∉ senders ∧
      policy.chargedEvents.length ≤ maxChargeEvidencePerSender) .corrupt
    validateHex32 policy.authenticatedSender
    let ids ← validateEvidence ids policy.chargedEvents
    validatePolicies scope (policy.authenticatedSender :: senders) ids
      (count + policy.chargedEvents.length) rest

/-- What is checked before a snapshot is used or written. -/
def validateSnapshot (snapshot : InboundQuarantineSnapshotV1) (scope : InboundQuarantineScopeV1) :
    Except QuarantineError Unit := do
  require (snapshot.schemaVersion = schemaVersion ∧ snapshot.scope = scope) .corrupt
  require (snapshot.records.length ≤ maxRecords ∧ snapshot.tombstones.length ≤ maxTombstones ∧
    snapshot.senderPolicies.length ≤ maxPolicySenders) .corrupt
  let (ids, ciphertextBytes) ← validateRecords scope [] [] 0 snapshot.records
  require (ciphertextBytes ≤ maxCiphertextBytes) .corrupt
  validateTombstones scope ids snapshot.tombstones
  require (vecBytes InboundQuarantineTombstoneV1.bytes snapshot.tombstones ≤ maxTombstoneBytes)
    .corrupt
  let chargedCount ← validatePolicies scope [] [] 0 snapshot.senderPolicies
  require (chargedCount ≤ maxChargeEvidence ∧
    vecBytes SenderIngressPolicyV1.bytes snapshot.senderPolicies ≤ maxSenderPolicyBytes) .corrupt

/-! ### What the calls do to a snapshot -/

/-- The endpoints at which an event was seen: sorted, each once, the first sixteen. -/
def mergeObservations (existing incoming : List String) : List String :=
  (((existing ++ incoming).filter fun value =>
    value ≠ "" && decide (value.utf8ByteSize ≤ maxEndpointLen)).dedup.insertionSort
      (· ≤ ·)).take maxObservations

def boundedReason (value : String) : String := String.ofList (value.toList.take 96)

/-- The sender of an envelope, as it is written. -/
def authenticatedSenderOf (envelope : DeliveryEnvelope) : String :=
  hexText envelope.fromPubkey.bytes.toList

/-- The record of a message that is quarantined for the first time. -/
def newRecord (scope : InboundQuarantineScopeV1) (adapterEventId : String)
    (observedBy : List String) (envelope : DeliveryEnvelope) (reason : String) (now : UInt64)
    (envelopeCiphertext : List UInt8) : InboundQuarantineRecordV1 where
  schemaVersion := schemaVersion
  scope := scope
  adapter := adapterName
  adapterEventId := adapterEventId
  authenticatedSender := authenticatedSenderOf envelope
  observedBy := mergeObservations [] observedBy
  messageKind := envelope.kind
  reason := boundedReason reason
  firstObservedAt := now
  quarantinedAt := now
  eligibleAfter := saturatingAdd now initialRetryDelaySecs
  expiresAt := saturatingAdd now payloadRetentionSecs
  attemptCount := 0
  lastAttemptAt := none
  envelopeCiphertext := envelopeCiphertext

/-- A snapshot with one more record. -/
def InboundQuarantineSnapshotV1.pushRecord (snapshot : InboundQuarantineSnapshotV1)
    (record : InboundQuarantineRecordV1) : InboundQuarantineSnapshotV1 :=
  { snapshot with
    records := (snapshot.records ++ [record]).insertionSort
      fun left right => left.adapterEventId ≤ right.adapterEventId }

/-- There is room for one more record of the sender. -/
def InboundQuarantineSnapshotV1.HasRecordRoom (snapshot : InboundQuarantineSnapshotV1)
    (sender : String) : Prop :=
  snapshot.records.length < maxRecords ∧
    snapshot.records.countP (fun record => record.authenticatedSender == sender) <
      maxRecordsPerSender

instance (snapshot : InboundQuarantineSnapshotV1) (sender : String) :
    Decidable (snapshot.HasRecordRoom sender) := inferInstanceAs (Decidable (_ ∧ _))

def InboundQuarantineSnapshotV1.ciphertextBytes (snapshot : InboundQuarantineSnapshotV1) : ℕ :=
  (snapshot.records.map fun record => record.envelopeCiphertext.length).sum

def isRecordOf (adapterEventId : String) (record : InboundQuarantineRecordV1) : Bool :=
  record.adapterEventId == adapterEventId

/-- A snapshot in which the record of an event was seen at more endpoints. -/
def InboundQuarantineSnapshotV1.observe (snapshot : InboundQuarantineSnapshotV1)
    (adapterEventId : String) (observedBy : List String) : InboundQuarantineSnapshotV1 :=
  { snapshot with
    records := updateFirst (isRecordOf adapterEventId) (fun record =>
      { record with observedBy := mergeObservations record.observedBy observedBy })
      snapshot.records }

/-- Put an event into quarantine, or note where it was seen again; `sealed` is what sealing the
    envelope answers. -/
def appendQuarantineRecord (snapshot : InboundQuarantineSnapshotV1)
    (scope : InboundQuarantineScopeV1) (sealed : Except QuarantineError (List UInt8))
    (adapterEventId : String) (observedBy : List String) (envelope : DeliveryEnvelope)
    (reason : String) (now : UInt64) : Except QuarantineError InboundQuarantineSnapshotV1 := do
  validateEventId adapterEventId
  match snapshot.records.find? (isRecordOf adapterEventId) with
  | some existing =>
    require (existing.authenticatedSender = authenticatedSenderOf envelope ∧
      existing.messageKind = envelope.kind) .invalidRecord
    return snapshot.observe adapterEventId observedBy
  | none =>
    require (snapshot.HasRecordRoom (authenticatedSenderOf envelope)) .capacity
    let envelopeCiphertext ← sealed
    require (snapshot.ciphertextBytes + envelopeCiphertext.length ≤ maxCiphertextBytes) .capacity
    return snapshot.pushRecord
      (newRecord scope adapterEventId observedBy envelope reason now envelopeCiphertext)

/-- The evidence that is kept, and the permits of the time since the last refill. -/
def maintainPolicy (now : UInt64) (policy : SenderIngressPolicyV1) : SenderIngressPolicyV1 :=
  let kept := policy.chargedEvents.filter fun evidence =>
    decide (saturatingSub now evidence.chargedAt ≤ chargeEvidenceRetentionSecs)
  let elapsed := saturatingSub now policy.lastRefillAt
  let refill := elapsed / senderPolicyRefillSecs
  if 0 < refill then
    { policy with
      chargedEvents := kept
      availablePermits := refilled policy.availablePermits refill
      lastRefillAt := saturatingAdd policy.lastRefillAt (refill * senderPolicyRefillSecs) }
  else { policy with chargedEvents := kept }

def maintainSenderPolicyState (now : UInt64) (snapshot : InboundQuarantineSnapshotV1) :
    InboundQuarantineSnapshotV1 :=
  { snapshot with senderPolicies := snapshot.senderPolicies.map (maintainPolicy now) }

/-- Nothing is lost if the policy is forgotten. -/
def removable (snapshot : InboundQuarantineSnapshotV1) (policy : SenderIngressPolicyV1) : Bool :=
  policy.availablePermits == senderPolicyBurst && policy.chargedEvents.isEmpty &&
    !snapshot.records.any fun record => record.authenticatedSender == policy.authenticatedSender

/-- Make room for one more sender: the one that was idle for the longest time goes. -/
def makeSenderPolicyCapacity (snapshot : InboundQuarantineSnapshotV1) :
    Except QuarantineError InboundQuarantineSnapshotV1 :=
  if snapshot.senderPolicies.length < maxPolicySenders then .ok snapshot
  else
    match (snapshot.senderPolicies.zipIdx.filter fun item => removable snapshot item.1).argmin
        fun item => item.1.lastActivityAt.toNat with
    | some (_, index) =>
      .ok { snapshot with senderPolicies := snapshot.senderPolicies.eraseIdx index }
    | none => .error .capacity

def newPolicy (scope : InboundQuarantineScopeV1) (sender : String) (now : UInt64) :
    SenderIngressPolicyV1 where
  schemaVersion := schemaVersion
  scope := scope
  authenticatedSender := sender
  availablePermits := senderPolicyBurst
  lastRefillAt := now
  lastActivityAt := now
  chargedEvents := []

def isPolicyOf (sender : String) (policy : SenderIngressPolicyV1) : Bool :=
  policy.authenticatedSender == sender

/-- The snapshot with a policy for the sender, and this policy. -/
def senderPolicy (snapshot : InboundQuarantineSnapshotV1) (scope : InboundQuarantineScopeV1)
    (sender : String) (now : UInt64) :
    Except QuarantineError (InboundQuarantineSnapshotV1 × SenderIngressPolicyV1) := do
  match snapshot.senderPolicies.find? (isPolicyOf sender) with
  | some policy => return (snapshot, policy)
  | none =>
    let next ← makeSenderPolicyCapacity snapshot
    return ({ next with senderPolicies := next.senderPolicies ++ [newPolicy scope sender now] },
      newPolicy scope sender now)

/-- Change the policy of a sender. -/
def InboundQuarantineSnapshotV1.changePolicy (snapshot : InboundQuarantineSnapshotV1)
    (sender : String) (f : SenderIngressPolicyV1 → SenderIngressPolicyV1) :
    InboundQuarantineSnapshotV1 :=
  { snapshot with senderPolicies := updateFirst (isPolicyOf sender) f snapshot.senderPolicies }

def capacityProbe : SenderChargeEvidenceV1 where
  adapterEventId := "capacity-probe"
  chargedAt := 0

def chargedTotal (policies : List SenderIngressPolicyV1) : ℕ :=
  (policies.map fun policy => policy.chargedEvents.length).sum

/-- There is room for one more charge of the sender. -/
def ensureChargeEvidenceCapacity (snapshot : InboundQuarantineSnapshotV1) (sender : String)
    (policy : SenderIngressPolicyV1) : Except QuarantineError Unit := do
  require (chargedTotal snapshot.senderPolicies < maxChargeEvidence ∧
    policy.chargedEvents.length < maxChargeEvidencePerSender) .capacity
  let candidate := snapshot.changePolicy sender fun policy =>
    { policy with chargedEvents := policy.chargedEvents ++ [capacityProbe] }
  require (vecBytes SenderIngressPolicyV1.bytes candidate.senderPolicies ≤ maxSenderPolicyBytes)
    .capacity

def touchPolicy (now : UInt64) (policy : SenderIngressPolicyV1) : SenderIngressPolicyV1 :=
  { policy with lastActivityAt := now }

/-- A permit is taken by an event. -/
def chargePolicy (adapterEventId : String) (now : UInt64) (policy : SenderIngressPolicyV1) :
    SenderIngressPolicyV1 :=
  { policy with
    availablePermits := policy.availablePermits - 1
    lastActivityAt := now
    chargedEvents :=
      (policy.chargedEvents ++ [SenderChargeEvidenceV1.mk adapterEventId now]).insertionSort
        fun left right => left.adapterEventId ≤ right.adapterEventId }

/-- What the sender policy makes of an event: the snapshot to be written and the answer. -/
def decideSenderPolicy (snapshot : InboundQuarantineSnapshotV1)
    (scope : InboundQuarantineScopeV1) (sealed : Except QuarantineError (List UInt8))
    (adapterEventId : String) (observedBy : List String) (envelope : DeliveryEnvelope)
    (now : UInt64) :
    Except QuarantineError (InboundQuarantineSnapshotV1 × SenderIngressDecision) := do
  validateEventId adapterEventId
  let sender := authenticatedSenderOf envelope
  let next := maintainSenderPolicyState now snapshot
  if next.records.any (isRecordOf adapterEventId) then
    let next ← appendQuarantineRecord next scope sealed adapterEventId observedBy envelope
      "sender_rate_limited" now
    return (next, .quarantined)
  else
    let (next, policy) ← senderPolicy next scope sender now
    if policy.chargedEvents.any fun evidence => evidence.adapterEventId == adapterEventId then
      return (next.changePolicy sender (touchPolicy now), .alreadyCharged)
    else if policy.availablePermits = 0 then
      let next ← appendQuarantineRecord next scope sealed adapterEventId observedBy envelope
        "sender_rate_limited" now
      return (next.changePolicy sender (touchPolicy now), .quarantined)
    else
      ensureChargeEvidenceCapacity next sender policy
      return (next.changePolicy sender (chargePolicy adapterEventId now), .permit)

def newTombstone (record : InboundQuarantineRecordV1) (terminalReason : String) (now : UInt64) :
    InboundQuarantineTombstoneV1 where
  schemaVersion := schemaVersion
  scope := record.scope
  adapter := record.adapter
  adapterEventId := record.adapterEventId
  authenticatedSender := record.authenticatedSender
  messageKind := record.messageKind
  terminalReason := terminalReason
  firstObservedAt := record.firstObservedAt
  terminalAt := now

/-- A record leaves one tombstone, if there is room. -/
def appendTombstone (snapshot : InboundQuarantineSnapshotV1) (record : InboundQuarantineRecordV1)
    (terminalReason : String) (now : UInt64) :
    Except QuarantineError InboundQuarantineSnapshotV1 := do
  if snapshot.tombstones.any fun item => item.adapterEventId == record.adapterEventId then
    return snapshot
  else
    let tombstone := newTombstone record terminalReason now
    require (snapshot.tombstones.length < maxTombstones) .tombstoneCapacity
    require (vecBytes InboundQuarantineTombstoneV1.bytes snapshot.tombstones + tombstone.bytes ≤
      maxTombstoneBytes) .tombstoneCapacity
    return { snapshot with
      tombstones := (snapshot.tombstones ++ [tombstone]).insertionSort
        fun left right => left.adapterEventId ≤ right.adapterEventId }

def InboundQuarantineSnapshotV1.dropRecords (snapshot : InboundQuarantineSnapshotV1)
    (adapterEventId : String) : InboundQuarantineSnapshotV1 :=
  { snapshot with
    records := snapshot.records.filter fun candidate => candidate.adapterEventId != adapterEventId }

/-- A record becomes a tombstone. -/
def retireRecord (snapshot : InboundQuarantineSnapshotV1) (record : InboundQuarantineRecordV1)
    (terminalReason : String) (now : UInt64) :
    Except QuarantineError InboundQuarantineSnapshotV1 := do
  let next ← appendTombstone snapshot record terminalReason now
  return next.dropRecords record.adapterEventId

/-- The loop over the ids of the records that are due. -/
def expireRecords (now : UInt64) :
    List String → InboundQuarantineSnapshotV1 → Except QuarantineError InboundQuarantineSnapshotV1
  | [], next => .ok next
  | eventId :: rest, next => do
    match next.records.find? (isRecordOf eventId) with
    | none => throw .corrupt
    | some record =>
      let next ← retireRecord next record "expired" now
      expireRecords now rest next

/-- The seconds to the next attempt, after so many. -/
def retryDelay (attemptCount : UInt16) : UInt64 :=
  min (initialRetryDelaySecs * 2 ^ (min attemptCount.toNat 6)) maxRetryDelaySecs

/-- The attempts with one more. -/
def nextAttempt (attemptCount : UInt16) : UInt16 :=
  if attemptCount.toNat < 2 ^ 16 - 1 then attemptCount + 1 else attemptCount

def retriedRecord (now : UInt64) (record : InboundQuarantineRecordV1) : InboundQuarantineRecordV1 :=
  { record with
    attemptCount := nextAttempt record.attemptCount
    lastAttemptAt := some now
    eligibleAfter :=
      min (saturatingAdd now (retryDelay (nextAttempt record.attemptCount))) record.expiresAt }

/-! ### The calls -/

/-- What a call meets outside: sealing an envelope, and writing the file. -/
structure Outside where
  sealed : Except QuarantineError (List UInt8)
  written : Except QuarantineError Unit
  deriving DecidableEq

structure CapsuleInboundQuarantineRepository where
  scope : InboundQuarantineScopeV1
  snapshot : InboundQuarantineSnapshotV1
  /-- What the file has. -/
  stored : Option InboundQuarantineSnapshotV1
  deriving DecidableEq

/-- Write the snapshot, if it is a valid one. -/
def persist (outside : Outside) (repository : CapsuleInboundQuarantineRepository) :
    Except QuarantineError Unit × CapsuleInboundQuarantineRepository :=
  match validateSnapshot repository.snapshot repository.scope with
  | .error error => (.error error, repository)
  | .ok () =>
    match outside.written with
    | .error error => (.error error, repository)
    | .ok () => (.ok (), { repository with stored := some repository.snapshot })

/-- The end of every call: the memory is replaced, and then it is written. -/
def replaceAndPersist {α : Type} (outside : Outside)
    (repository : CapsuleInboundQuarantineRepository) (next : InboundQuarantineSnapshotV1)
    (answer : α) : Except QuarantineError α × CapsuleInboundQuarantineRepository :=
  let (result, repository) := persist outside { repository with snapshot := next }
  (result.map fun _ => answer, repository)

/-- Put an event into quarantine. -/
def quarantine (outside : Outside) (repository : CapsuleInboundQuarantineRepository)
    (adapterEventId : String) (observedBy : List String) (envelope : DeliveryEnvelope)
    (reason : String) (now : UInt64) :
    Except QuarantineError Unit × CapsuleInboundQuarantineRepository :=
  match appendQuarantineRecord repository.snapshot repository.scope outside.sealed adapterEventId
      observedBy envelope reason now with
  | .error error => (.error error, repository)
  | .ok next => replaceAndPersist outside repository next ()

/-- Decide on an event of a sender. -/
def applySenderPolicy (outside : Outside) (repository : CapsuleInboundQuarantineRepository)
    (adapterEventId : String) (observedBy : List String) (envelope : DeliveryEnvelope)
    (now : UInt64) :
    Except QuarantineError SenderIngressDecision × CapsuleInboundQuarantineRepository :=
  match decideSenderPolicy repository.snapshot repository.scope outside.sealed adapterEventId
      observedBy envelope now with
  | .error error => (.error error, repository)
  | .ok (next, decision) => replaceAndPersist outside repository next decision

/-- The tombstones that are kept. -/
def keptTombstones (now : UInt64) (snapshot : InboundQuarantineSnapshotV1) :
    List InboundQuarantineTombstoneV1 :=
  snapshot.tombstones.filter fun tombstone =>
    decide (saturatingSub now tombstone.terminalAt ≤ tombstoneRetentionSecs)

/-- A snapshot without the tombstones that are old. -/
def InboundQuarantineSnapshotV1.trim (now : UInt64) (snapshot : InboundQuarantineSnapshotV1) :
    InboundQuarantineSnapshotV1 :=
  { snapshot with tombstones := keptTombstones now snapshot }

/-- The ids of the records that are due. -/
def expiredIds (now : UInt64) (snapshot : InboundQuarantineSnapshotV1) : List String :=
  (snapshot.records.filter fun record => decide (record.expiresAt ≤ now)).map
    fun record => record.adapterEventId

/-- The tombstones are trimmed in the memory itself; the records go in a copy of it. -/
def expireDue (outside : Outside) (repository : CapsuleInboundQuarantineRepository)
    (now : UInt64) : Except QuarantineError ℕ × CapsuleInboundQuarantineRepository :=
  let trimmed := { repository with snapshot := repository.snapshot.trim now }
  let due := expiredIds now trimmed.snapshot
  if due = [] ∧ repository.snapshot.tombstones.length = trimmed.snapshot.tombstones.length then
    (.ok 0, trimmed)
  else
    match expireRecords now due trimmed.snapshot with
    | .error error => (.error error, trimmed)
    | .ok next => replaceAndPersist outside trimmed next due.length

/-- A record is retired as consumed. -/
def markConsumed (outside : Outside) (repository : CapsuleInboundQuarantineRepository)
    (adapterEventId : String) (now : UInt64) :
    Except QuarantineError Unit × CapsuleInboundQuarantineRepository :=
  match repository.snapshot.records.find? (isRecordOf adapterEventId) with
  | none => (.error .invalidRecord, repository)
  | some record =>
    match retireRecord repository.snapshot record "consumed" now with
    | .error error => (.error error, repository)
    | .ok next => replaceAndPersist outside repository next ()

/-- The record is changed in the memory itself. -/
def markRetry (outside : Outside) (repository : CapsuleInboundQuarantineRepository)
    (adapterEventId : String) (now : UInt64) :
    Except QuarantineError Unit × CapsuleInboundQuarantineRepository :=
  match repository.snapshot.records.find? (isRecordOf adapterEventId) with
  | none => (.error .invalidRecord, repository)
  | some _ =>
    replaceAndPersist outside repository
      { repository.snapshot with
        records := updateFirst (isRecordOf adapterEventId) (retriedRecord now)
          repository.snapshot.records } ()

end InboundQuarantine

end Hivra
