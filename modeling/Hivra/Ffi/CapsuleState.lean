import Hivra.Ffi.ViewDocuments

namespace Hivra

open JsonDocument Serde

/-!
# The state of a capsule as a document

The projection of a capsule the host asks for beside its ledger: the five slots with the
kinds of their starters, and a version that counts events in 32 bits.
-/

/-- The projection of a capsule and its ledger. -/
structure CapsuleState where
  publicKey : PubKey
  network : UInt8
  slots : List (Option StarterId)
  ledgerHash : UInt64
  ledgerHeadCommitment : Option Commitment
  relationshipsCount : ℕ
  version : ℕ
  starterKinds : List (Option UInt8)

/-- The number of peers with an active relationship, at most the largest 32-bit number. -/
def countRelationships (ledger : Ledger) : ℕ :=
  min (relationshipCurrentViewV1 ledger none).activePeerCount (2 ^ 32 - 1)

/-- The starters of the slots, in order. -/
def SlotLayout.starterIds (layout : SlotLayout) : List (Option StarterId) :=
  layout.slots.map SlotState.starterId

section State

variable (sha256 : Sha256)

def CapsuleState.fromCapsule (capsule : Capsule) : CapsuleState :=
  let slotLayout := SlotLayout.fromLedger capsule.ledger
  { publicKey := capsule.pubkey
    network := capsule.network.toByte
    slots := slotLayout.starterIds
    ledgerHash := capsule.ledger.lastHash
    ledgerHeadCommitment := capsule.ledger.headCommitmentV5 sha256
    relationshipsCount := countRelationships capsule.ledger
    version := capsule.ledger.events.length % 2 ^ 32
    starterKinds := (slotLayout.entriesWithKinds capsule.ledger).map fun entry =>
      entry.starterKind.map StarterKind.toByte }

/-- The members of the document. -/
def capsuleStateMembers (state : CapsuleState) : List (String × Document) :=
  [("public_key", writePubKey state.publicKey),
    ("network", writeU8 state.network),
    ("slots", .arr (state.slots.map (writeOption fun id => writeBytes id.bytes.toList))),
    ("ledger_hash", writeU64 state.ledgerHash),
    ("ledger_head_commitment", writeOption (fun head => writeBytes head.toList)
      state.ledgerHeadCommitment),
    ("relationships_count", writeNat state.relationshipsCount),
    ("version", writeNat state.version),
    ("starter_kinds", .arr (state.starterKinds.map (writeOption writeU8)))]

/-- Export the projection of the capsule in the runtime. -/
def hivraExportCapsuleStateJson (state : RuntimeState) : Option Document :=
  state.capsule.map fun capsule =>
    .obj (capsuleStateMembers (CapsuleState.fromCapsule sha256 capsule))

end State

end Hivra
