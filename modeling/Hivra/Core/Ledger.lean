import Hivra.Core.LedgerV5

namespace Hivra

open ByteString

/-!
# The ledger

The append-only journal of signed events: the v4 journal with its 64-bit running
hash, the v5 journal with receipts, and the two verifiers, translated from the core
crate.  Nothing here decides what the events mean.

* `Ledger.append_ok`, `Ledger.appendV5_ok` — everything a successful append does.
* `Ledger.appendV5_of_fits` — when a v5 append succeeds.
-/

/-- Error type for ledger operations. -/
inductive LedgerError
  | invalidOrder
  | wrongVersion
  | duplicateEvent
  | continuous (error : LedgerV5Error)
  deriving DecidableEq

/-- The local acceptance data of one v5 event; the event itself is stored once. -/
structure LedgerV5Receipt where
  sequence : UInt64
  previousCommitment : Commitment
  signature : Signature
  deriving DecidableEq

/-- The continuity record of a v5 ledger. -/
structure ContinuousLedgerV5 where
  anchor : LedgerAnchorV5
  legacyEventCount : ℕ
  receipts : List LedgerV5Receipt
  deriving DecidableEq

/-- The continuity record with the receipt of one more entry. -/
def ContinuousLedgerV5.pushReceipt (continuity : ContinuousLedgerV5) (entry : LedgerEntryV5) :
    ContinuousLedgerV5 :=
  { continuity with
    receipts := continuity.receipts ++ [{
      sequence := entry.sequence
      previousCommitment := entry.previousCommitment
      signature := entry.signature }] }

/-- The ledger record, as it is serialised. -/
structure Ledger where
  events : List Event
  owner : PubKey
  lastHash : UInt64
  continuityV5 : Option ContinuousLedgerV5
  deriving DecidableEq

/-! ### The running hash -/

namespace SimpleHasher

/-- Feed bytes to the hasher: multiply, then xor, byte by byte. -/
def write (state : UInt64) (bytes : List UInt8) : UInt64 :=
  bytes.foldl (fun h b => (h * 0x9e3779b97f4a7c15) ^^^ b.toUInt64) state

/-- Feed a 64-bit word in memory order. -/
def writeU64 (state : UInt64) (value : UInt64) : UInt64 := write state (le64 value)

/-- Feed a byte slice behind its length, as the `Hash` of a slice does. -/
def writeSlice (state : UInt64) (bytes : List UInt8) : UInt64 :=
  write (writeU64 state (UInt64.ofNat bytes.length)) bytes

/-- The `Hash` of an event: kind, payload, timestamp, signature, signer. -/
def hashEvent (state : UInt64) (event : Event) : UInt64 :=
  let state := write state [event.kind.toByte]
  let state := writeSlice state event.payload
  let state := writeU64 state event.timestamp
  let state := writeSlice state event.signature.bytes.toList
  writeSlice state event.signer.bytes.toList

end SimpleHasher

/-- The running hash after one more event: a new hasher takes the old hash and the event. -/
def chainHash (lastHash : UInt64) (event : Event) : UInt64 :=
  SimpleHasher.hashEvent (SimpleHasher.writeU64 0 lastHash) event

/-! ### Verification of a v4 event list -/

/-- The loop of `verifyV4Events`, with the events already passed. -/
def verifyV4Loop (expectedHash : UInt64) (seen : List Event) (hash : UInt64)
    (lastTs : Option Timestamp) : List Event → Bool
  | [] => hash == expectedHash
  | event :: rest =>
    if event.version ≠ protocolVersion then false
    else if seen.any (· == event) then false
    else if lastTs.any (fun ts => decide (event.timestamp < ts)) then false
    else
      verifyV4Loop expectedHash (seen ++ [event]) (chainHash hash event) (some event.timestamp)
        rest

/-- Versions, duplicates, time order and running hash of a v4 event list. -/
def verifyV4Events (events : List Event) (expectedHash : UInt64) : Bool :=
  verifyV4Loop expectedHash [] 0 none events

/-- A v4 event list with its running hash: v4 events only, no event twice, in the order
    of their timestamps. -/
structure V4History (events : List Event) (hash : UInt64) : Prop where
  versions : ∀ event ∈ events, event.version = protocolVersion
  nodup : events.Nodup
  ordered : events.Pairwise fun a b => a.timestamp ≤ b.timestamp
  hash_eq : events.foldl chainHash 0 = hash

/-- What the loop accepts behind the events it has passed. -/
private theorem verifyV4Loop_iff (expectedHash : UInt64) (seen : List Event) (hash : UInt64)
    (lastTs : Option Timestamp) (events : List Event) :
    verifyV4Loop expectedHash seen hash lastTs events = true ↔
      (∀ event ∈ events, event.version = protocolVersion) ∧
      (events.Nodup ∧ ∀ event ∈ events, event ∉ seen) ∧
      (events.Pairwise (fun a b => a.timestamp ≤ b.timestamp) ∧
        ∀ ts ∈ lastTs, ∀ event ∈ events, ts ≤ event.timestamp) ∧
      events.foldl chainHash hash = expectedHash := by
  induction events generalizing seen hash lastTs with
  | nil => simp [verifyV4Loop]
  | cons event rest ih =>
    rw [verifyV4Loop]
    split_ifs with hversion hseen hts
    · simp [hversion]
    · have hmem : event ∈ seen := by simpa using hseen
      simp only [false_iff]
      rintro ⟨-, ⟨-, hfresh⟩, -⟩
      exact hfresh event List.mem_cons_self hmem
    · simp only [false_iff]
      rintro ⟨-, -, ⟨-, hle⟩, -⟩
      cases lastTs with
      | none => simp at hts
      | some ts =>
        have hlt : event.timestamp < ts := by simpa using hts
        exact absurd (hle ts rfl event List.mem_cons_self) (UInt64.not_le.mpr hlt)
    · have hnot : event ∉ seen := by simpa using hseen
      have hge : ∀ ts ∈ lastTs, ts ≤ event.timestamp := by
        intro ts hmem
        rw [Option.mem_def] at hmem
        subst hmem
        simpa using hts
      rw [ih]
      simp only [List.mem_cons, forall_eq_or_imp, List.nodup_cons, List.pairwise_cons,
        List.foldl_cons, List.mem_append, List.not_mem_nil, or_false, not_or]
      constructor
      · rintro ⟨hversions, ⟨hnodup, hfresh⟩, ⟨hpair, hle⟩, hhash⟩
        refine ⟨⟨not_not.mp hversion, hversions⟩, ⟨⟨fun h => (hfresh event h).2 rfl, hnodup⟩,
          hnot, fun e he => (hfresh e he).1⟩, ⟨⟨fun e he => hle _ rfl e he, hpair⟩, ?_⟩, hhash⟩
        intro ts hmem
        exact ⟨hge ts hmem, fun e he => UInt64.le_trans (hge ts hmem) (hle _ rfl e he)⟩
      · rintro ⟨⟨-, hversions⟩, ⟨⟨hnotin, hnodup⟩, -, hfresh⟩, ⟨⟨hle, hpair⟩, -⟩, hhash⟩
        refine ⟨hversions, ⟨hnodup, fun e he => ⟨hfresh e he, ?_⟩⟩, ⟨hpair, ?_⟩, hhash⟩
        · rintro rfl
          exact hnotin he
        · intro ts hmem
          rw [Option.mem_def, Option.some.injEq] at hmem
          rw [← hmem]
          exact hle

/-- **What the v4 verifier accepts.** -/
theorem verifyV4Events_iff (events : List Event) (expectedHash : UInt64) :
    verifyV4Events events expectedHash = true ↔ V4History events expectedHash := by
  rw [verifyV4Events, verifyV4Loop_iff]
  constructor
  · rintro ⟨hversions, ⟨hnodup, -⟩, ⟨hordered, -⟩, hhash⟩
    exact ⟨hversions, hnodup, hordered, hhash⟩
  · rintro ⟨hversions, hnodup, hordered, hhash⟩
    exact ⟨hversions, ⟨hnodup, by simp⟩, ⟨hordered, by simp⟩, hhash⟩

namespace Ledger

/-- The entry that a receipt and the event next to it stand for. -/
def entryOf (owner : PubKey) (receipt : LedgerV5Receipt) (event : Event) : LedgerEntryV5 :=
  (LedgerEntryV5.unsigned owner receipt.sequence receipt.previousCommitment event).withSignature
    receipt.signature

/-- An empty v4 ledger. -/
def new (owner : PubKey) : Ledger where
  events := []
  owner := owner
  lastHash := 0
  continuityV5 := none

/-- The v4 ledger of an event list, with its running hash. -/
def ofEvents (owner : PubKey) (events : List Event) : Ledger where
  events := events
  owner := owner
  lastHash := events.foldl chainHash 0
  continuityV5 := none

/-- An empty v5 ledger. -/
def freshV5 (owner : PubKey) : Ledger where
  events := []
  owner := owner
  lastHash := 0
  continuityV5 := some {
    anchor := .fresh owner
    legacyEventCount := 0
    receipts := [] }

def isContinuousV5 (ledger : Ledger) : Bool := ledger.continuityV5.isSome

/-- The ledger with more events behind its own; this is all that projections see of an
    append. -/
def extend (ledger : Ledger) (more : List Event) : Ledger :=
  { ledger with events := ledger.events ++ more }

@[simp] theorem extend_events (ledger : Ledger) (more : List Event) :
    (ledger.extend more).events = ledger.events ++ more := rfl

@[simp] theorem extend_owner (ledger : Ledger) (more : List Event) :
    (ledger.extend more).owner = ledger.owner := rfl

/-! ### Appending -/

/-- Append to a v4 ledger. -/
def append (ledger : Ledger) (event : Event) : Except LedgerError Ledger :=
  if ledger.continuityV5.isSome then
    .error (.continuous .wrongEventVersion)
  else if event.version ≠ protocolVersion then
    .error .wrongVersion
  else if ledger.events.any (· == event) then
    .error .duplicateEvent
  else if ledger.events.getLast?.any (fun last => decide (event.timestamp < last.timestamp)) then
    .error .invalidOrder
  else
    .ok { ledger with
      events := ledger.events ++ [event]
      lastHash := chainHash ledger.lastHash event }

variable {ledger ledger' : Ledger}

/-- Everything a successful v4 append does, guards included. -/
theorem append_ok {event : Event} (h : ledger.append event = .ok ledger') :
    ledger.continuityV5 = none ∧ event.version = protocolVersion ∧ event ∉ ledger.events ∧
      (∀ last ∈ ledger.events.getLast?, last.timestamp ≤ event.timestamp) ∧
      ledger' = { ledger with
        events := ledger.events ++ [event]
        lastHash := chainHash ledger.lastHash event } := by
  unfold append at h
  split_ifs at h with hv5 hversion hdup horder
  refine ⟨by simpa using hv5, not_not.mp hversion, by simpa using hdup, ?_, ?_⟩
  · intro last hlast
    rw [Option.mem_def] at hlast
    simpa [hlast] using horder
  · exact (Except.ok.inj h).symm

/-- The number of receipts, as the sequence number of the next entry. -/
def nextSequenceV5 (ledger : Ledger) : Except LedgerV5Error UInt64 :=
  match ledger.continuityV5 with
  | some continuity => .ok (UInt64.ofNat continuity.receipts.length)
  | none => .error .notContinuousLedger

/-- The commitment a continuity record ends in: that of the last receipt over the last
    event, or the anchor's when there is neither. -/
def tailCommitmentOf (sha256 : Sha256) (ledger : Ledger) (continuity : ContinuousLedgerV5) :
    Commitment :=
  match continuity.receipts.getLast?, ledger.events.getLast? with
  | some receipt, some event => (entryOf ledger.owner receipt event).commitment sha256
  | _, _ => continuity.anchor.commitment sha256

def tailCommitmentV5 (sha256 : Sha256) (ledger : Ledger) : Except LedgerV5Error Commitment :=
  match ledger.continuityV5 with
  | some continuity => .ok (tailCommitmentOf sha256 ledger continuity)
  | none => .error .notContinuousLedger

/-- The v5 history head, where there is one. -/
def headCommitmentV5 (sha256 : Sha256) (ledger : Ledger) : Option Commitment :=
  (ledger.tailCommitmentV5 sha256).toOption

/-- Append one root-attested v5 entry. -/
def appendV5 (sha256 : Sha256) (ledger : Ledger) (entry : LedgerEntryV5) :
    Except LedgerError Ledger :=
  match ledger.continuityV5 with
  | none => .error (.continuous .notContinuousLedger)
  | some continuity =>
    if continuity.anchor.owner ≠ ledger.owner then
      .error (.continuous .anchorOwnerMismatch)
    else if entry.owner ≠ ledger.owner then
      .error (.continuous .entryOwnerMismatch)
    else if entry.event.version ≠ continuousLedgerProtocolVersion then
      .error (.continuous .wrongEventVersion)
    else if entry.sequence ≠ UInt64.ofNat continuity.receipts.length then
      .error (.continuous .invalidSequence)
    else if entry.previousCommitment ≠ tailCommitmentOf sha256 ledger continuity then
      .error (.continuous .invalidPreviousCommitment)
    else if ledger.events.any (fun e => e.eventId sha256 == entry.event.eventId sha256) then
      .error .duplicateEvent
    else
      .ok { ledger with
        events := ledger.events ++ [entry.event]
        continuityV5 := some (continuity.pushReceipt entry) }

/-- A v5 ledger with one more event, or as it was where the event does not fit. -/
def grownBy (sha256 : Sha256) (ledger : Ledger) (event : Event) : Ledger :=
  ((ledger.appendV5 sha256 (.unsigned ledger.owner (UInt64.ofNat ledger.events.length)
    ((ledger.headCommitmentV5 sha256).getD (fill 32 0)) event)).toOption.getD ledger)

/-- An entry fits behind a continuity record: its owner, version, sequence and previous
    commitment are right and its event id is new. -/
structure Fits (sha256 : Sha256) (ledger : Ledger) (continuity : ContinuousLedgerV5)
    (entry : LedgerEntryV5) : Prop where
  anchorOwner : continuity.anchor.owner = ledger.owner
  entryOwner : entry.owner = ledger.owner
  version : entry.event.version = continuousLedgerProtocolVersion
  sequence : entry.sequence = UInt64.ofNat continuity.receipts.length
  previous : entry.previousCommitment = tailCommitmentOf sha256 ledger continuity
  fresh : ∀ event ∈ ledger.events, event.eventId sha256 ≠ entry.event.eventId sha256

/-- The ledger after one more v5 entry. -/
def pushEntry (ledger : Ledger) (continuity : ContinuousLedgerV5) (entry : LedgerEntryV5) :
    Ledger :=
  { ledger with
    events := ledger.events ++ [entry.event]
    continuityV5 := some (continuity.pushReceipt entry) }

variable {sha256 : Sha256}

/-- Everything a successful v5 append does, guards included. -/
theorem appendV5_ok {entry : LedgerEntryV5} (h : ledger.appendV5 sha256 entry = .ok ledger') :
    ∃ continuity, ledger.continuityV5 = some continuity ∧
      Fits sha256 ledger continuity entry ∧ ledger' = ledger.pushEntry continuity entry := by
  unfold appendV5 at h
  cases hc : ledger.continuityV5 with
  | none => simp [hc] at h
  | some continuity =>
    simp only [hc] at h
    split_ifs at h with hanchor howner hversion hseq hprev hdup
    refine ⟨continuity, rfl, ⟨not_not.mp hanchor, not_not.mp howner, not_not.mp hversion,
      not_not.mp hseq, not_not.mp hprev, by simpa using hdup⟩, ?_⟩
    exact (Except.ok.inj h).symm

/-- An entry that fits is appended. -/
theorem appendV5_of_fits {ledger : Ledger} {continuity : ContinuousLedgerV5} {entry : LedgerEntryV5}
    (hc : ledger.continuityV5 = some continuity) (h : Fits sha256 ledger continuity entry) :
    ledger.appendV5 sha256 entry = .ok (ledger.pushEntry continuity entry) := by
  have hdup : ¬ (ledger.events.any fun e =>
      e.eventId sha256 == entry.event.eventId sha256) = true := by
    simpa using h.fresh
  unfold appendV5
  simp only [hc]
  rw [if_neg (not_not.mpr h.anchorOwner), if_neg (not_not.mpr h.entryOwner),
    if_neg (not_not.mpr h.version), if_neg (not_not.mpr h.sequence),
    if_neg (not_not.mpr h.previous), if_neg hdup]
  rfl

/-! ### Verification -/

/-- The receipt loop of `verifyV5Structure`.  The duplicate check looks at the first
    `index` events of the whole ledger, with `index` counted over the receipts. -/
def verifyV5Loop (sha256 : Sha256) (owner : PubKey) (events : List Event) :
    ℕ → Commitment → List (LedgerV5Receipt × Event) → Except LedgerV5Error Unit
  | _, _, [] => .ok ()
  | index, previous, (receipt, event) :: rest =>
    if event.version ≠ continuousLedgerProtocolVersion then
      .error .wrongEventVersion
    else if receipt.sequence ≠ UInt64.ofNat index then
      .error .invalidSequence
    else if receipt.previousCommitment ≠ previous then
      .error .invalidPreviousCommitment
    else if (events.take index).any (fun e => e.eventId sha256 == event.eventId sha256) then
      .error .duplicateDomainEvent
    else
      verifyV5Loop sha256 owner events (index + 1)
        ((entryOf owner receipt event).commitment sha256) rest

/-- The checks of a v5 ledger: its owner, the counts, the v4 part and each receipt. -/
def verifyV5Structure (sha256 : Sha256) (ledger : Ledger) : Except LedgerV5Error Unit :=
  match ledger.continuityV5 with
  | none => .error .notContinuousLedger
  | some continuity =>
    if continuity.anchor.owner ≠ ledger.owner then
      .error .anchorOwnerMismatch
    else if continuity.legacyEventCount > ledger.events.length ∨
        continuity.receipts.length ≠ ledger.events.length - continuity.legacyEventCount then
      .error .invalidSequence
    else if continuity.legacyEventCount > 0 ∧
        ¬ verifyV4Events (ledger.events.take continuity.legacyEventCount) ledger.lastHash then
      .error .invalidPreviousCommitment
    else
      verifyV5Loop sha256 ledger.owner ledger.events 0 (continuity.anchor.commitment sha256)
        (continuity.receipts.zip (ledger.events.drop continuity.legacyEventCount))

/-- The verifier of either protocol. -/
def verify (sha256 : Sha256) (ledger : Ledger) : Bool :=
  if ledger.continuityV5.isSome then
    (ledger.verifyV5Structure sha256).isOk
  else
    verifyV4Events ledger.events ledger.lastHash

/-- Turn a verified v4 ledger into a v5 ledger that starts behind `anchor`. -/
def migrateV4 (sha256 : Sha256) (ledger : Ledger) (anchor : LedgerAnchorV5) :
    Except LedgerV5Error Ledger :=
  if ledger.continuityV5.isSome then
    .error .notContinuousLedger
  else if anchor.owner ≠ ledger.owner then
    .error .anchorOwnerMismatch
  else if ¬ ledger.verify sha256 then
    .error .invalidPreviousCommitment
  else
    .ok { ledger with
      continuityV5 := some {
        anchor := anchor
        legacyEventCount := ledger.events.length
        receipts := [] } }

/-- Everything a successful migration does. -/
theorem migrateV4_ok {anchor : LedgerAnchorV5} (h : ledger.migrateV4 sha256 anchor = .ok ledger') :
    ledger.continuityV5 = none ∧ anchor.owner = ledger.owner ∧
      V4History ledger.events ledger.lastHash ∧
      ledger' = { ledger with
        continuityV5 := some {
          anchor := anchor
          legacyEventCount := ledger.events.length
          receipts := [] } } := by
  unfold migrateV4 at h
  split_ifs at h with hv5 howner hverify
  have hnone : ledger.continuityV5 = none := by simpa using hv5
  have hhistory : V4History ledger.events ledger.lastHash := by
    rw [← verifyV4Events_iff]
    simpa [verify, hnone] using hverify
  exact ⟨hnone, not_not.mp howner, hhistory, (Except.ok.inj h).symm⟩

/-- A v4 history migrates under an anchor of its owner. -/
theorem migrateV4_of_history {sha256 : Sha256} {ledger : Ledger} {anchor : LedgerAnchorV5}
    (hv4 : ledger.continuityV5 = none) (howner : anchor.owner = ledger.owner)
    (h : V4History ledger.events ledger.lastHash) :
    ledger.migrateV4 sha256 anchor = .ok { ledger with
      continuityV5 := some {
        anchor := anchor
        legacyEventCount := ledger.events.length
        receipts := [] } } := by
  have hverify : ledger.verify sha256 = true := by
    simpa [verify, hv4] using (verifyV4Events_iff _ _).mpr h
  unfold migrateV4
  rw [if_neg (by simp [hv4]), if_neg (not_not.mpr howner), if_neg (not_not.mpr hverify)]

end Ledger

end Hivra
