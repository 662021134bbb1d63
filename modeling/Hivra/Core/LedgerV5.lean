import Hivra.Core.Event

namespace Hivra

open ByteString

/-!
# Continuous-ledger commitments

The v5 anchor and the v5 history entry.  An event stays the one representation of a
domain fact; these types only commit to its place in the owner's history.

* `LedgerEntryV5.commitment` — owner, sequence, previous commitment and event id.
-/

/-- A 32-byte commitment. -/
abbrev Commitment := Bytes 32

def freshAnchorTag : List UInt8 := asciiBytes "hivra/ledger-anchor/v5"
def legacyAnchorTag : List UInt8 := asciiBytes "hivra/legacy-v4-anchor/v5"
def legacySnapshotTag : List UInt8 := asciiBytes "hivra/legacy-v4-snapshot/v1"
def ledgerEntryTag : List UInt8 := asciiBytes "hivra/ledger-entry/v5"

/-- Why a continuous-ledger operation fails. -/
inductive LedgerV5Error
  | notContinuousLedger
  | anchorOwnerMismatch
  | entryOwnerMismatch
  | invalidSequence
  | invalidPreviousCommitment
  | duplicateDomainEvent
  | wrongEventVersion
  deriving DecidableEq

/-- The commitment before the first v5 entry.  A legacy anchor binds future v5 history
    to one v4 snapshot. -/
inductive LedgerAnchorV5
  | fresh (owner : PubKey)
  | legacyV4 (owner : PubKey) (snapshot : Commitment) (signature : Signature)
  deriving DecidableEq

namespace LedgerAnchorV5

/-- The commitment to the exported bytes of a v4 ledger. -/
def legacySnapshotCommitment (sha256 : Sha256) (canonicalV4LedgerBytes : List UInt8) : Commitment :=
  sha256 (legacySnapshotTag ++ be64 (UInt64.ofNat canonicalV4LedgerBytes.length) ++
    canonicalV4LedgerBytes)

def owner : LedgerAnchorV5 → PubKey
  | fresh owner => owner
  | legacyV4 owner _ _ => owner

def signature : LedgerAnchorV5 → Option Signature
  | fresh _ => none
  | legacyV4 _ _ signature => some signature

/-- The anchor commitment; the anchor signature is not part of it. -/
def commitment (sha256 : Sha256) : LedgerAnchorV5 → Commitment
  | fresh owner => sha256 (freshAnchorTag ++ owner.bytes.toList)
  | legacyV4 owner snapshot _ => sha256 (legacyAnchorTag ++ owner.bytes.toList ++ snapshot.toList)

end LedgerAnchorV5

/-- A root-signed local acceptance of one domain event at one position. -/
structure LedgerEntryV5 where
  owner : PubKey
  sequence : UInt64
  previousCommitment : Commitment
  event : Event
  signature : Signature
  deriving DecidableEq

namespace LedgerEntryV5

/-- An entry before signing; the signature is the all-zero one. -/
def unsigned (owner : PubKey) (sequence : UInt64) (previousCommitment : Commitment)
    (event : Event) : LedgerEntryV5 where
  owner := owner
  sequence := sequence
  previousCommitment := previousCommitment
  event := event
  signature := ⟨fill 64 0⟩

def withSignature (entry : LedgerEntryV5) (signature : Signature) : LedgerEntryV5 :=
  { entry with signature := signature }

/-- The entry commitment; the entry signature is not part of it. -/
def commitment (sha256 : Sha256) (entry : LedgerEntryV5) : Commitment :=
  sha256 (ledgerEntryTag ++ entry.owner.bytes.toList ++ be64 entry.sequence ++
    entry.previousCommitment.toList ++ (entry.event.eventId sha256).toList)

@[simp] theorem commitment_withSignature (sha256 : Sha256) (entry : LedgerEntryV5)
    (signature : Signature) :
    (entry.withSignature signature).commitment sha256 = entry.commitment sha256 := rfl

end LedgerEntryV5

end Hivra
