import Hivra.Core.Ledger
import Hivra.Core.EventPayloads
import Hivra.Lib.Replay

namespace Hivra

open ByteString Replay

/-!
# The invitation projection

`invitationsWithStatus` folds the event list into one record for each invitation id.
The loop body of the source is `invitationStep`; its in-place search for a record is
`updateFirst`.
-/

/-- The state of an invitation. -/
inductive InvitationStatus
  | pending
  | accepted (createdStarterId : StarterId) (fromPubkey : PubKey)
      (accepterRootPubkey : Option PubKey)
  | rejected (reason : RejectReason)
  | expired
  deriving DecidableEq

/-- Who made the offer: the owner or a peer. -/
inductive InvitationDirection
  | outgoing
  | incoming
  deriving DecidableEq

/-- The projected record of an invitation. -/
structure InvitationRecord where
  invitationId : InvitationId
  starterId : StarterId
  starterKindHint : Option StarterKind
  peerPubkey : PubKey
  direction : InvitationDirection
  offerSigner : PubKey
  senderRootPubkey : Option PubKey
  senderTransportPubkey : PubKey
  senderCardSignature : Option (Bytes 64)
  recipientPubkey : PubKey
  sentAt : Timestamp
  respondedAt : Option Timestamp
  respondedSigner : Option PubKey
  hasLocalTerminal : Bool
  status : InvitationStatus
  deriving DecidableEq

/-! ### Reading an offer -/

/-- The starter kind an offer of an extended length carries. -/
def invitationStarterKindHint (bytes : List UInt8) : Option StarterKind :=
  match bytes.length with
  | 97 => StarterKind.fromU8 (byteAt bytes 96)
  | 129 | 161 | 225 => StarterKind.fromU8 (byteAt bytes 128)
  | _ => none

/-- The sender's transport key in an offer with a transport card. -/
def invitationSenderTransport (bytes : List UInt8) : Option PubKey :=
  if 161 ≤ bytes.length then some ⟨readFixed32 bytes 129⟩ else none

/-- The signature of the transport card. -/
def invitationSenderCardSignature (bytes : List UInt8) : Option (Bytes 64) :=
  if bytes.length = 225 then some (readFixed 64 bytes 161) else none

/-- The direction an offer event has for the owner of the ledger. -/
def offerDirection (kind : EventKind) : InvitationDirection :=
  if kind = .invitationReceived then .incoming else .outgoing

/-- The record a first offer inserts. -/
def offerRecord (event : Event) (payload : InvitationSentPayload) : InvitationRecord where
  invitationId := payload.invitationId
  starterId := payload.starterId
  starterKindHint := invitationStarterKindHint event.payload
  peerPubkey :=
    if offerDirection event.kind = .incoming then
      (invitationSenderTransport event.payload).getD event.signer
    else
      payload.toPubkey
  direction := offerDirection event.kind
  offerSigner := event.signer
  senderRootPubkey := payload.senderRootPubkey
  senderTransportPubkey := (invitationSenderTransport event.payload).getD event.signer
  senderCardSignature := invitationSenderCardSignature event.payload
  recipientPubkey := payload.toPubkey
  sentAt := event.timestamp
  respondedAt := none
  respondedSigner := none
  hasLocalTerminal := false
  status := .pending

/-! ### Reading a terminal -/

/-- The invitation a terminal names and the status it asks for. -/
def terminalStatus (kind : EventKind) (bytes : List UInt8) :
    Option (InvitationId × InvitationStatus) :=
  match kind with
  | .invitationAccepted =>
    match InvitationAcceptedPayload.fromBytes bytes with
    | .ok payload => some (payload.invitationId,
        .accepted payload.createdStarterId payload.fromPubkey payload.accepterRootPubkey)
    | .error _ => none
  | .invitationRejected =>
    match InvitationRejectedPayload.fromBytes bytes with
    | .ok payload => some (payload.invitationId, .rejected payload.reason)
    | .error _ => none
  | .invitationExpired =>
    match InvitationExpiredPayload.fromBytes bytes with
    | .ok payload => some (payload.invitationId, .expired)
    | .error _ => none
  | _ => none

/-- Only the owner expires an outgoing offer, only its signer an incoming one. -/
def validExpirySigner (owner : PubKey) (record : InvitationRecord) (signer : PubKey) : Bool :=
  match record.direction with
  | .outgoing => signer == owner
  | .incoming => signer == record.offerSigner

namespace InvitationStatus

/-- An acceptance, whatever it carries. -/
def isAccepted : InvitationStatus → Bool
  | accepted _ _ _ => true
  | _ => false

/-- A rejection, whatever its reason. -/
def isRejected : InvitationStatus → Bool
  | rejected _ => true
  | _ => false

end InvitationStatus

/-- A terminal that the owner signed and that is the owner's to send. -/
def isLocalTerminal (owner signer : PubKey) (record : InvitationRecord)
    (terminal : InvitationStatus) : Bool :=
  signer == owner &&
    ((record.direction == .incoming && (terminal.isAccepted || terminal.isRejected)) ||
      (record.direction == .outgoing && terminal == .expired))

/-- The record after a terminal event that names it. -/
def applyTerminal (owner : PubKey) (event : Event) (terminal : InvitationStatus)
    (record : InvitationRecord) : InvitationRecord :=
  if terminal = .expired ∧ validExpirySigner owner record event.signer = false then record
  else
    let record := { record with
      hasLocalTerminal :=
        record.hasLocalTerminal || isLocalTerminal owner event.signer record terminal }
    if record.status = .pending then
      { record with
        status := terminal
        respondedAt := some event.timestamp
        respondedSigner := some event.signer }
    else if record.direction = .incoming ∧ record.status.isAccepted ∧ terminal = .expired then
      -- The original sender may revoke after a recipient-local optimistic acceptance.
      { record with
        status := .expired
        respondedAt := some event.timestamp
        respondedSigner := some event.signer }
    else record

/-! ### The projection -/

/-- The loop body of the projection. -/
def invitationStep (owner : PubKey) (records : List InvitationRecord) (event : Event) :
    List InvitationRecord :=
  match event.kind with
  | .invitationSent | .invitationReceived =>
    match InvitationSentPayload.fromBytes event.payload with
    | .error _ => records
    | .ok payload =>
      if records.any (fun record => record.invitationId == payload.invitationId) then records
      else records ++ [offerRecord event payload]
  | .invitationAccepted | .invitationRejected | .invitationExpired =>
    match terminalStatus event.kind event.payload with
    | none => records
    | some (invitationId, terminal) =>
      -- A terminal before its offer matches no record and is orphan history forever.
      updateFirst (fun record => record.invitationId == invitationId)
        (applyTerminal owner event terminal) records
  | _ => records

/-- The records of the events of an owner's ledger. -/
def projectInvitations (owner : PubKey) (events : List Event) : List InvitationRecord :=
  replay (invitationStep owner) [] events

def invitationsWithStatus (ledger : Ledger) : List InvitationRecord :=
  projectInvitations ledger.owner ledger.events

def findInvitation (ledger : Ledger) (invitationId : InvitationId) : Option InvitationRecord :=
  (invitationsWithStatus ledger).find? fun record => record.invitationId == invitationId

/-- One more event is one more step. -/
theorem invitationsWithStatus_extend (ledger : Ledger) (event : Event) :
    invitationsWithStatus (ledger.extend [event])
      = invitationStep ledger.owner (invitationsWithStatus ledger) event :=
  replay_snoc _ _ _ _

/-- A terminal never asks for a pending invitation. -/
theorem terminalStatus_ne_pending {kind : EventKind} {bytes : List UInt8} {id : InvitationId}
    {terminal : InvitationStatus} (h : terminalStatus kind bytes = some (id, terminal)) :
    terminal ≠ .pending := by
  rintro rfl
  unfold terminalStatus at h
  split at h
  · split at h <;> simp at h
  · split at h <;> simp at h
  · split at h <;> simp at h
  · simp at h

end Hivra
