import Hivra.Ffi.InvitationSupport

namespace Hivra

open ByteString Replay

/-!
# Which deliveries are skipped

The filter in front of the append of a delivered event.  A skipped delivery is one that
is already known, names nothing it could resolve, or comes from a signer it may not come
from.
-/

/-! ### Relationship lookups -/

/-- A relationship as the ledger keys it. -/
structure RelationshipKey where
  peerPubkey : PubKey
  ownStarterId : StarterId
  deriving DecidableEq

def relationshipKeyFromEstablishedPayload (payload : List UInt8) : Option RelationshipKey :=
  match RelationshipEstablishedPayload.fromBytes payload with
  | .error _ => none
  | .ok parsed => some ⟨parsed.peerPubkey, parsed.ownStarterId⟩

def relationshipKeyFromBrokenPayload (payload : List UInt8) : Option RelationshipKey :=
  match RelationshipBrokenPayload.fromBytes payload with
  | .error _ => none
  | .ok parsed => some ⟨parsed.peerPubkey, parsed.ownStarterId⟩

/-- The last event about the relationship established it. -/
def relationshipKeyIsActiveInRuntime (state : RuntimeState) (target : RelationshipKey) : Bool :=
  replay (fun active event =>
    match event.kind with
    | .relationshipEstablished =>
      if relationshipKeyFromEstablishedPayload event.payload = some target then true else active
    | .relationshipBroken =>
      if relationshipKeyFromBrokenPayload event.payload = some target then false else active
    | _ => active) false state.events

def relationshipEstablishedExistsForInvitationInRuntime (state : RuntimeState)
    (invitationId : InvitationId) : Bool :=
  state.events.any fun event =>
    event.kind == .relationshipEstablished &&
      match RelationshipEstablishedPayload.fromBytes event.payload with
      | .ok payload => payload.invitationId == invitationId
      | .error _ => false

def invitationAcceptedExistsInRuntime (state : RuntimeState) (invitationId : InvitationId) : Bool :=
  state.events.any fun event =>
    event.kind == .invitationAccepted &&
      match InvitationAcceptedPayload.fromBytes event.payload with
      | .ok payload => payload.invitationId == invitationId
      | .error _ => false

/-- The later of a remembered timestamp and another one. -/
def laterTimestamp (latest : Option UInt64) (ts : UInt64) : Option UInt64 :=
  some (match latest with
    | some current => max current ts
    | none => ts)

/-- When the relationship was last established and last broken. -/
def relationshipKeyLatestTimestampsInRuntime (state : RuntimeState) (target : RelationshipKey) :
    Option UInt64 × Option UInt64 :=
  replay (fun latest event =>
    match event.kind with
    | .relationshipEstablished =>
      if relationshipKeyFromEstablishedPayload event.payload = some target then
        (laterTimestamp latest.1 event.timestamp, latest.2)
      else latest
    | .relationshipBroken =>
      if relationshipKeyFromBrokenPayload event.payload = some target then
        (latest.1, laterTimestamp latest.2 event.timestamp)
      else latest
    | _ => latest) (none, none) state.events

/-- Saturating product of a timestamp with a thousand. -/
def saturatingMul1000 (raw : UInt64) : UInt64 :=
  if raw.toNat * 1000 < 2 ^ 64 then raw * 1000 else UInt64.ofNat (2 ^ 64 - 1)

/-- Timestamps below a hundred billion are read as seconds. -/
def normalizeDeliveryTimestamp (raw : UInt64) : UInt64 :=
  if raw = 0 then 0
  else if raw < 100000000000 then saturatingMul1000 raw
  else raw

/-! ### The filter -/

/-- The checks only a delivered `RelationshipEstablished` goes through. -/
def skipRelationshipEstablished (state : RuntimeState) (payload : List UInt8)
    (signer : PubKey) : Bool :=
  match RelationshipEstablishedPayload.fromBytes payload with
  | .error _ => true
  | .ok parsed =>
    parsed.peerPubkey != signer ||
      !invitationAcceptedExistsInRuntime state parsed.invitationId ||
      relationshipEstablishedExistsForInvitationInRuntime state parsed.invitationId ||
      relationshipKeyIsActiveInRuntime state ⟨parsed.peerPubkey, parsed.ownStarterId⟩

/-- The checks a delivered `RelationshipBroken` goes through; it is not compared with the
    ledger by payload, since a pair can break again with the same bytes. -/
def skipRelationshipBroken (state : RuntimeState) (payload : List UInt8) (signer : PubKey)
    (incomingTs : Option UInt64) : Bool :=
  match RelationshipBrokenPayload.fromBytes payload with
  | .error _ => true
  | .ok parsed =>
    let signerMatches := match parsed.peerRootPubkey with
      | some root => root == signer
      | none => parsed.peerPubkey == signer
    if signerMatches = false then true
    else
      let key : RelationshipKey := ⟨parsed.peerPubkey, parsed.ownStarterId⟩
      let latest := relationshipKeyLatestTimestampsInRuntime state key
      let isOld := match incomingTs with
        | none => false
        | some ts =>
          latest.2.any (fun broken => decide (ts ≤ broken)) ||
            latest.1.any (fun established => decide (ts < established))
      if isOld then true
      else !relationshipKeyIsActiveInRuntime state key

/-- The checks only a delivered offer goes through. -/
def skipInvitationReceived (state : RuntimeState) (payload : List UInt8) (signer : PubKey) : Bool :=
  let invitationId := readFixed32 payload 0
  invitationIsResolvedInRuntime state invitationId ||
    invitationOfferExistsInRuntime state .invitationReceived invitationId signer ||
    match invitationPayloadStarterId payload with
    | none => false
    | some starterId =>
      incomingInvitationReusesEmptySlotRejectedSenderStarter state invitationId starterId
        (invitationSenderAnchor payload signer)

/-- The checks only a delivered terminal of a known shape goes through. -/
def skipTerminal (state : RuntimeState) (localKind : EventKind) (invitationId : InvitationId)
    (signer : PubKey) : Bool :=
  let senderRevocation := localKind == .invitationExpired &&
    incomingInvitationExpiredMatchesRuntime state invitationId signer
  if invitationIsResolvedInRuntime state invitationId && !senderRevocation then true
  else match localKind with
    | .invitationAccepted | .invitationRejected =>
      -- An answer must resolve an existing outgoing offer.
      (findInvitationSentInRuntimeWithDirection state invitationId (some false)).isNone
    | .invitationExpired =>
      -- A cancel must resolve an existing incoming offer of its signer.
      match findInvitationSentInRuntimeWithDirection state invitationId (some true) with
      | none => true
      | some record => !signerMatchesOffer record signer
    | _ => false

/-- Whether a delivered event adds nothing to the ledger. -/
def shouldSkipIncomingDeliveryAppendWithTimestamp (state : RuntimeState) (localKind : EventKind)
    (payload : List UInt8) (signer : PubKey) (incomingTimestamp : Option UInt64) : Bool :=
  let incomingTs := incomingTimestamp.map normalizeDeliveryTimestamp
  if localKind = .relationshipEstablished ∧ skipRelationshipEstablished state payload signer then
    true
  else if localKind = .relationshipBroken then
    skipRelationshipBroken state payload signer incomingTs
  else if localKind = .invitationReceived ∧ 32 ≤ payload.length ∧
      skipInvitationReceived state payload signer then
    true
  else
    match invitationIdFromTerminalPayload localKind payload with
    | some invitationId =>
      if skipTerminal state localKind invitationId signer then true
      else eventExistsInRuntimeWithSigner state localKind payload signer
    | none => eventExistsInRuntimeWithSigner state localKind payload signer

/-- An answer to a resolved invitation is skipped. -/
theorem shouldSkip_of_resolved {state : RuntimeState} {kind : EventKind} {payload : List UInt8}
    {invitationId : InvitationId} (signer : PubKey) (timestamp : Option UInt64)
    (hkind : kind = .invitationAccepted ∨ kind = .invitationRejected)
    (hid : invitationIdFromTerminalPayload kind payload = some invitationId)
    (hresolved : invitationIsResolvedInRuntime state invitationId = true) :
    shouldSkipIncomingDeliveryAppendWithTimestamp state kind payload signer timestamp = true := by
  have hskip : skipTerminal state kind invitationId signer = true := by
    unfold skipTerminal
    rcases hkind with rfl | rfl <;> simp [hresolved]
  unfold shouldSkipIncomingDeliveryAppendWithTimestamp
  rcases hkind with rfl | rfl <;> simp [hid, hskip]

end Hivra
