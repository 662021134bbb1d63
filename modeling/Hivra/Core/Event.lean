import Hivra.Core.Primitives

namespace Hivra

open ByteString

/-!
# Signed domain events

The event record of the core crate and its identifier.  The identifier is a
SHA-256 digest; the digest function is a parameter, since it comes from outside
the repository.

* `toByte_injective` — event kinds have distinct wire bytes.
-/

/-- The digest function of the `sha2` crate. -/
abbrev Sha256 := List UInt8 → Bytes 32

/-- A small digest for worked examples: a polynomial of the bytes, in the first eight
    bytes of the result. -/
def sampleDigest : Sha256 := fun bytes =>
  readFixed 32 (le64 (bytes.foldl (fun h b => h * 1000003 + b.toUInt64 + 1) 0)) 0

/-- Protocol version of a v4 event. -/
def protocolVersion : UInt8 := 4

/-- Protocol version of an event in a continuous ledger. -/
def continuousLedgerProtocolVersion : UInt8 := 5

/-- The bytes of an ASCII tag. -/
def asciiBytes (tag : String) : List UInt8 := tag.toList.map fun c => UInt8.ofNat c.toNat

/-- The domain tag in front of a v5 event preimage. -/
def v5DomainEventTag : List UInt8 := asciiBytes "hivra/domain-event/v5"

/-- Kind of event. -/
inductive EventKind
  | capsuleCreated
  | invitationSent
  | invitationAccepted
  | invitationRejected
  | invitationExpired
  | starterCreated
  | starterBurned
  | relationshipEstablished
  | relationshipBroken
  | invitationReceived
  deriving DecidableEq

namespace EventKind

/-- The wire byte of an event kind. -/
def toByte : EventKind → UInt8
  | capsuleCreated => 0
  | invitationSent => 1
  | invitationAccepted => 2
  | invitationRejected => 3
  | invitationExpired => 4
  | starterCreated => 5
  | starterBurned => 6
  | relationshipEstablished => 7
  | relationshipBroken => 8
  | invitationReceived => 9

theorem toByte_injective : Function.Injective toByte := by
  intro a b h
  cases a <;> cases b <;> first | rfl | exact absurd h (by decide)

end EventKind

/-- A signed event. -/
structure Event where
  version : UInt8
  kind : EventKind
  payload : List UInt8
  timestamp : Timestamp
  signature : Signature
  signer : PubKey
  deriving DecidableEq

namespace Event

/-- A protocol-v4 event. -/
def new (kind : EventKind) (payload : List UInt8) (timestamp : Timestamp)
    (signature : Signature) (signer : PubKey) : Event where
  version := protocolVersion
  kind := kind
  payload := payload
  timestamp := timestamp
  signature := signature
  signer := signer

/-- A protocol-v5 event.  The record stays the same across the v4/v5 boundary. -/
def newV5 (kind : EventKind) (payload : List UInt8) (timestamp : Timestamp)
    (signature : Signature) (signer : PubKey) : Event where
  version := continuousLedgerProtocolVersion
  kind := kind
  payload := payload
  timestamp := timestamp
  signature := signature
  signer := signer

/-- The bytes the event identifier digests.  The v4 formula covers only version,
    kind and payload; the v5 formula binds timestamp and signer as well. -/
def eventIdPreimage (event : Event) : List UInt8 :=
  if event.version = protocolVersion then
    [event.version, event.kind.toByte] ++ event.payload
  else if event.version = continuousLedgerProtocolVersion then
    v5DomainEventTag ++ ([event.version, event.kind.toByte] ++
      (be64 (UInt64.ofNat event.payload.length) ++ (event.payload ++
        (be64 event.timestamp ++ event.signer.bytes.toList))))
  else
    [event.version, event.kind.toByte] ++ event.payload ++ be64 event.timestamp ++
      event.signer.bytes.toList

/-- Deterministic event identifier from the protocol fields. -/
def eventId (sha256 : Sha256) (event : Event) : Bytes 32 := sha256 event.eventIdPreimage

/-- The preimage of a v5 event. -/
theorem eventIdPreimage_v5 {event : Event} (h : event.version = continuousLedgerProtocolVersion) :
    event.eventIdPreimage = v5DomainEventTag ++ ([5, event.kind.toByte] ++
      (be64 (UInt64.ofNat event.payload.length) ++ (event.payload ++
        (be64 event.timestamp ++ event.signer.bytes.toList)))) := by
  rw [eventIdPreimage, if_neg (by rw [h]; decide), if_pos h, h]
  rfl

end Event

end Hivra
