import Hivra.Core.Invitation
import Hivra.Core.Slot
import Hivra.Ffi.Runtime

namespace Hivra

open ByteString

/-!
# Invitation support of the host interface

The readers the ingress and the local flows share: offer lookups, the filter that skips
a delivery, and the projections that append local effects of a delivered terminal.
The readers look at the payload bytes of the runtime ledger on their own; they do not go
through the invitation projection of the core.
-/

/-! ### Payload readers -/

/-- The payload has one of the six lengths of an offer. -/
def invitationPayloadHasKnownShape (payload : List UInt8) : Bool :=
  decide (payload.length ∈ InvitationSentPayload.validLengths)

def invitationPayloadSenderRoot (payload : List UInt8) : Option PubKey :=
  readOptionalKey payload 128 96

def starterKindFromSlot (slot : UInt8) : Option StarterKind := StarterKind.fromU8 slot

def invitationPayloadStarterKind (payload : List UInt8) : Option StarterKind :=
  if payload.length = 97 then starterKindFromSlot (byteAt payload 96)
  else if payload.length = 129 ∨ payload.length = 161 ∨ payload.length = 225 then
    starterKindFromSlot (byteAt payload 128)
  else none

def invitationPayloadSenderTransport (payload : List UInt8) : Option PubKey :=
  if payload.length ≠ 161 ∧ payload.length ≠ 225 then none
  else some ⟨readFixed32 payload 129⟩

def invitationPayloadStarterId (payload : List UInt8) : Option StarterId :=
  if invitationPayloadHasKnownShape payload then some ⟨readFixed32 payload 32⟩ else none

def invitationSenderAnchor (payload : List UInt8) (signer : PubKey) : PubKey :=
  (invitationPayloadSenderRoot payload).getD signer

/-- The invitation of a terminal payload, by length alone. -/
def invitationIdFromTerminalPayload (kind : EventKind) (payload : List UInt8) :
    Option InvitationId :=
  match kind with
  | .invitationAccepted =>
    if payload.length = 96 ∨ payload.length = 128 then some (readFixed32 payload 0) else none
  | .invitationRejected =>
    if payload.length = 33 then some (readFixed32 payload 0) else none
  | .invitationExpired =>
    if payload.length = 32 then some (readFixed32 payload 0) else none
  | _ => none

/-! ### Lookups in the runtime ledger -/

def eventExistsInRuntime (state : RuntimeState) (kind : EventKind) (payload : List UInt8) : Bool :=
  state.events.any fun event => event.kind == kind && event.payload == payload

def eventExistsInRuntimeWithSigner (state : RuntimeState) (kind : EventKind)
    (payload : List UInt8) (signer : PubKey) : Bool :=
  state.events.any fun event =>
    event.kind == kind && event.payload == payload && event.signer == signer

def starterIsActiveInRuntime (state : RuntimeState) (starterId : StarterId) : Bool :=
  match state.capsule with
  | none => false
  | some capsule => ((SlotLayout.fromLedger capsule.ledger).findByStarter starterId).isSome

/-- An offer of a kind and signer under an invitation id. -/
def invitationOfferExistsInRuntime (state : RuntimeState) (kind : EventKind)
    (invitationId : InvitationId) (signer : PubKey) : Bool :=
  state.events.any fun event =>
    event.kind == kind && event.signer == signer &&
      invitationPayloadHasKnownShape event.payload &&
      readFixed32 event.payload 0 == invitationId

/-- Some terminal names the invitation; the length tests are those of
    `invitationIdFromTerminalPayload`. -/
def invitationIsResolvedInRuntime (state : RuntimeState) (invitationId : InvitationId) : Bool :=
  state.events.any fun event =>
    invitationIdFromTerminalPayload event.kind event.payload == some invitationId

/-- The starter kind the owner last created a starter with. -/
def findStarterKindByIdInLedger (ledger : Ledger) (starterId : StarterId) : Option StarterKind :=
  ledger.events.reverse.findSome? fun event =>
    if event.kind ≠ .starterCreated ∨ event.signer ≠ ledger.owner then none
    else match StarterCreatedPayload.fromBytes event.payload with
      | .error _ => none
      | .ok payload => if payload.starterId = starterId then some payload.kind else none

/-- What a lookup returns about an offer. -/
structure InvitationLookupRecord where
  starterId : StarterId
  starterKind : StarterKind
  peerPubkey : PubKey
  isIncoming : Bool
  senderRootPubkey : Option PubKey
  deriving DecidableEq

/-- The offer is addressed to the owner: received, or sent by someone else to this key. -/
def offerIsIncoming (localPubkey : PubKey) (event : Event) : Bool :=
  event.kind == .invitationReceived ||
    ((⟨readFixed32 event.payload 64⟩ : PubKey) == localPubkey && event.signer != localPubkey)

/-- The record of an event, when it offers the invitation in the expected direction. -/
def invitationCandidate (capsule : Capsule) (invitationId : InvitationId)
    (expectIncoming : Option Bool) (event : Event) : Option InvitationLookupRecord :=
  if event.kind ≠ .invitationSent ∧ event.kind ≠ .invitationReceived then none
  else if invitationPayloadHasKnownShape event.payload = false then none
  else if readFixed32 event.payload 0 ≠ invitationId then none
  else
    let isIncoming := offerIsIncoming capsule.pubkey event
    let starterId : StarterId := ⟨readFixed32 event.payload 32⟩
    let candidate : InvitationLookupRecord := {
      starterId := starterId
      starterKind := (invitationPayloadStarterKind event.payload).getD
        ((findStarterKindByIdInLedger capsule.ledger starterId).getD .juice)
      peerPubkey :=
        if isIncoming then
          (invitationPayloadSenderTransport event.payload).getD event.signer
        else ⟨readFixed32 event.payload 64⟩
      isIncoming := isIncoming
      senderRootPubkey := invitationPayloadSenderRoot event.payload }
    match expectIncoming with
    | some expected => if expected = isIncoming then some candidate else none
    | none => some candidate

/-- The first offer of the invitation in the expected direction. -/
def findInvitationSentInRuntimeWithDirection (state : RuntimeState)
    (invitationId : InvitationId) (expectIncoming : Option Bool) : Option InvitationLookupRecord :=
  match state.capsule with
  | none => none
  | some capsule =>
    capsule.ledger.events.findSome? (invitationCandidate capsule invitationId expectIncoming)

variable {record : InvitationLookupRecord} {invitationId : InvitationId}

theorem invitationCandidate_direction {capsule : Capsule} {expected : Bool} {event : Event}
    (h : invitationCandidate capsule invitationId (some expected) event = some record) :
    record.isIncoming = expected := by
  unfold invitationCandidate at h
  split at h
  · simp at h
  split at h
  · simp at h
  split at h
  · simp at h
  dsimp only at h
  by_cases hdirection : expected = offerIsIncoming capsule.pubkey event
  · rw [if_pos hdirection, Option.some.injEq] at h
    rw [← h]
    exact hdirection.symm
  · rw [if_neg hdirection] at h
    simp at h

/-- A lookup that asks for a direction returns a record of it. -/
theorem find_direction {state : RuntimeState} {expected : Bool}
    (h : findInvitationSentInRuntimeWithDirection state invitationId (some expected)
      = some record) : record.isIncoming = expected := by
  unfold findInvitationSentInRuntimeWithDirection at h
  split at h
  · simp at h
  · obtain ⟨event, -, hevent⟩ := List.exists_of_findSome?_eq_some h
    exact invitationCandidate_direction hevent

/-- The signer may expire an incoming offer: it is its peer or its sender root. -/
def signerMatchesOffer (record : InvitationLookupRecord) (signer : PubKey) : Bool :=
  record.peerPubkey == signer || record.senderRootPubkey == some signer

def incomingInvitationExpiredMatchesRuntime (state : RuntimeState) (invitationId : InvitationId)
    (signer : PubKey) : Bool :=
  match findInvitationSentInRuntimeWithDirection state invitationId (some true) with
  | none => false
  | some record => signerMatchesOffer record signer

/-- The sender offers a starter again after another of its offers was rejected for an
    empty slot. -/
def incomingInvitationReusesEmptySlotRejectedSenderStarter (state : RuntimeState)
    (invitationId : InvitationId) (starterId : StarterId) (senderAnchor : PubKey) : Bool :=
  let emptySlotRejections := state.events.filterMap fun event =>
    if event.kind ≠ .invitationRejected then none
    else match InvitationRejectedPayload.fromBytes event.payload with
      | .error _ => none
      | .ok payload =>
        if payload.reason = .emptySlot ∧ payload.invitationId ≠ invitationId then
          some payload.invitationId
        else none
  if emptySlotRejections.isEmpty then false
  else state.events.any fun event =>
    event.kind == .invitationReceived && invitationPayloadHasKnownShape event.payload &&
      emptySlotRejections.any (fun rejected => readFixed32 event.payload 0 == rejected) &&
      invitationPayloadStarterId event.payload == some starterId &&
      invitationSenderAnchor event.payload event.signer == senderAnchor

end Hivra
