import Hivra.Ffi.Acceptance

namespace Hivra

open ByteString

/-!
# The local calls of the host interface

The exported calls beside the acceptance that append an event of the owner: the birth of a
capsule, a free append, an offer, a rejection, a cancel and a break.  A pointer argument
is an optional value, none for a null pointer.  The texts of the last-error store are left
out; the codes are those of the source.
-/

/-- What the outside answers during one call that appends one event: the seed at its start,
    and the clock and the seed at the append. -/
structure CallOutside (Seed : Type) where
  loadSeed : Option Seed
  append : Outside Seed

/-- What the outside answers while an offer is sent: the seed at the start, the random
    identifier, the clock of the draft, and the clock and the seed at the append. -/
structure SendOutside (Seed : Type) where
  loadSeed : Option Seed
  randomId : InvitationId
  draftClock : Option UInt64
  append : Outside Seed

/-- The two kinds of capsule. -/
inductive CapsuleType
  | leaf
  | relay
  deriving DecidableEq

def CapsuleType.toByte : CapsuleType → UInt8
  | leaf => 0
  | relay => 1

/-- Which key owns a new capsule. -/
inductive CapsuleOwnerMode
  | legacyNostr
  | root
  deriving DecidableEq

def CapsuleOwnerMode.fromU8 (value : UInt8) : CapsuleOwnerMode :=
  match value with
  | 1 => .root
  | _ => .legacyNostr

/-! ### Lookups -/

/-- The starter in a slot of the projected layout. -/
def activeStarterIdForSlot (state : RuntimeState) (slot : UInt8) : Option StarterId :=
  match SlotIndex.new slot.toNat, state.capsule with
  | some index, some capsule => (SlotLayout.fromLedger capsule.ledger).starterIdAt index
  | _, _ => none

/-- The kind of the first creation of a starter, whoever signed it. -/
def findStarterKindByIdInRuntime (state : RuntimeState) (starterId : StarterId) :
    Option StarterKind :=
  state.events.findSome? fun event =>
    if event.kind ≠ .starterCreated then none
    else match StarterCreatedPayload.fromBytes event.payload with
      | .error _ => none
      | .ok payload => if payload.starterId = starterId then some payload.kind else none

/-- The first offer of the invitation in either direction. -/
def findInvitationSentInRuntime (state : RuntimeState) (invitationId : InvitationId) :
    Option InvitationLookupRecord :=
  findInvitationSentInRuntimeWithDirection state invitationId none

/-- The peer root of the latest row of a relationship. -/
def peerRootForRelationship (state : RuntimeState) (peerPubkey : PubKey)
    (ownStarterId peerStarterId : StarterId) : Option PubKey :=
  (state.events.reverse.findSome? fun event =>
    if event.kind ≠ .relationshipEstablished then none
    else match RelationshipEstablishedPayload.fromBytes event.payload with
      | .error _ => none
      | .ok payload =>
        if payload.peerPubkey = peerPubkey ∧ payload.ownStarterId = ownStarterId ∧
            payload.peerStarterId = peerStarterId then
          some payload.peerRootPubkey
        else none).join

section Calls

variable {Seed : Type} (platform : Platform Seed)

/-! ### The birth of a capsule -/

/-- A digest over the seed and a slot. -/
def deriveFromSlot (tag : List UInt8) (seed : Seed) (slot : UInt8) : Bytes 32 :=
  platform.sha256 (platform.seedBytes seed ++ [slot] ++ tag)

def deriveStarterId (seed : Seed) (slot : UInt8) : Bytes 32 :=
  deriveFromSlot platform (asciiBytes "starter_v1") seed slot

def deriveStarterNonce (seed : Seed) (slot : UInt8) : Bytes 32 :=
  deriveFromSlot platform (asciiBytes "starter_nonce_v1") seed slot

/-- Sign an event for a ledger that is not in the runtime yet, and append it there. -/
def appendBirthEvent (engine : Engine Seed) (clock : Option UInt64) (failure : String)
    (kind : EventKind) (payload : List UInt8) (ledger : Ledger) (state : RuntimeState) :
    Except String Ledger × RuntimeState :=
  match engine.prepareEvent platform state clock kind payload none with
  | (.error _, state) => (.error failure, state)
  | (.ok prepared, state) => (appendV5Event platform engine ledger prepared.event, state)

/-- The starters a relay is born with, in the order of their slots. -/
def birthKinds : List StarterKind := [.juice, .spark, .seed, .pulse, .kick]

/-- The loop over the starters of a relay; the clock is read once for each. -/
def appendBirthStarters (engine : Engine Seed) (seed : Seed) (network : Network)
    (clock : ℕ → Option UInt64) (slot : ℕ) :
    List StarterKind → Ledger → RuntimeState → Except String Ledger × RuntimeState
  | [], ledger, state => (.ok ledger, state)
  | kind :: rest, ledger, state =>
    let payload : StarterCreatedPayload := {
      starterId := ⟨deriveStarterId platform seed (UInt8.ofNat slot)⟩
      nonce := deriveStarterNonce platform seed (UInt8.ofNat slot)
      kind := kind
      network := network.toByte }
    match appendBirthEvent platform engine (clock slot) "failed to sign starter birth"
        .starterCreated payload.toBytes ledger state with
    | (.error message, state) => (.error message, state)
    | (.ok ledger, state) =>
      appendBirthStarters engine seed network clock (slot + 1) rest ledger state

/-- The ledger a capsule is born with. -/
def birthLedger (engine : Engine Seed) (seed : Seed) (network : Network)
    (capsuleType : CapsuleType) (birthClock : Option UInt64) (starterClock : ℕ → Option UInt64)
    (owner : PubKey) (state : RuntimeState) : Except String Ledger × RuntimeState :=
  match appendBirthEvent platform engine birthClock "failed to sign capsule birth" .capsuleCreated
      (CapsuleCreatedPayload.toBytes ⟨network.toByte, capsuleType.toByte⟩) (.freshV5 owner)
      state with
  | (.error message, state) => (.error message, state)
  | (.ok ledger, state) =>
    if capsuleType = .relay then
      appendBirthStarters platform engine seed network starterClock 0 birthKinds ledger state
    else (.ok ledger, state)

/-- Put a new capsule into the runtime.  The clock is read for the birth and for each starter. -/
def initRuntimeState (birthClock : Option UInt64) (starterClock : ℕ → Option UInt64)
    (state : RuntimeState) (seed : Seed) (network : Network) (capsuleType : CapsuleType)
    (ownerMode : CapsuleOwnerMode) : Except String Unit × RuntimeState :=
  match ownerMode with
  | .legacyNostr => (.error "legacy owner mode unsupported", state)
  | .root =>
    match platform.rootPublicKey seed with
    | none => (.error "failed to derive pubkey", state)
    | some owner =>
      let engine : Engine Seed :=
        { seed := seed, domainEventVersion := continuousLedgerProtocolVersion }
      match birthLedger platform engine seed network capsuleType birthClock starterClock owner
          state with
      | (.error message, state) => (.error message, state)
      | (.ok ledger, state) =>
        let observed := match ledger.events.getLast? with
          | some last => state.observeEngineTs last.timestamp
          | none => state
        (.ok (), { observed with capsule := some { network := network, ledger := ledger } })

/-! ### A free append -/

/-- Prepare and append an event of the owner. -/
def appendRuntimeEvent (outside : CallOutside Seed) (state : RuntimeState) (kind : EventKind)
    (payload : List UInt8) : Except String Unit × RuntimeState :=
  match outside.loadSeed with
  | none => (.error "seed not found", state)
  | some seed =>
    match (buildEngine state seed).prepareEvent platform state outside.append.clock kind payload
        none with
    | (.error _, state) => (.error "event signing failed", state)
    | (.ok prepared, state) => appendPreparedEvent platform outside.append state prepared

/-- Append an event of any kind; the payload is none for a null pointer with a length. -/
def hivraLedgerAppendEvent (outside : CallOutside Seed) (state : RuntimeState) (kind : UInt8)
    (payloadPtr : Option (List UInt8)) : ℤ × RuntimeState :=
  match payloadPtr with
  | none => (-1, state)
  | some payload =>
    match eventKindFromU8 kind with
    | none => (-2, state)
    | some kind =>
      match appendRuntimeEvent platform outside state kind payload with
      | (.ok (), state) => (0, state)
      | (.error _, state) => (-3, state)

/-! ### Offers -/

def Engine.prepareInvitationSent (engine : Engine Seed) (state : RuntimeState)
    (clock : Option UInt64) (randomId : InvitationId) (starterId : StarterId)
    (toPubkey : PubKey) : Except EngineError PreparedEvent × RuntimeState :=
  match engine.publicKey platform with
  | none => (.error .keystore, state)
  | some senderRootPubkey =>
    engine.prepareEvent platform state clock .invitationSent
      (InvitationSentPayload.toBytes ⟨randomId, starterId, toPubkey, some senderRootPubkey⟩)
      (some toPubkey)

/-- The bytes behind the core payload of an offer: the kind of the starter, the transport key
    and the signature of the contact card. -/
def offerExtension (starterKind : StarterKind) (senderPubkey : PubKey)
    (cardSignature : Option (Bytes 64)) : List UInt8 :=
  starterKind.toByte :: senderPubkey.bytes.toList ++
    match cardSignature with
    | some signature => signature.toList
    | none => []

/-- The payload of an offer, from the draft the engine prepared. -/
def offerPayload (seed : Seed) (draft : List UInt8) (starterKind : StarterKind)
    (senderPubkey : PubKey) (cardSignature : Option (Bytes 64)) : List UInt8 :=
  let rooted := if draft.length = 96 then
      draft ++ optionalKeyBytes (platform.rootPublicKey seed)
    else draft
  rooted ++ offerExtension starterKind senderPubkey cardSignature

/-- Offer the starter of a slot; the offer is drafted, completed and appended. -/
def sendInvitationWithCardSignature (outside : SendOutside Seed) (state : RuntimeState)
    (toPubkeyPtr : Option PubKey) (starterSlot : UInt8) (cardSignature : Option (Bytes 64)) :
    ℤ × RuntimeState :=
  match toPubkeyPtr with
  | none => (-1, state)
  | some toPubkey =>
    if 5 ≤ starterSlot then (-1, state)
    else
      match outside.loadSeed with
      | none => (-2, state)
      | some seed =>
        if state.capsule = none then (-4, state)
        else
          match platform.nostrPublicKey seed with
          | none => (-3, state)
          | some senderPubkey =>
            let engine := buildEngine state seed
            match activeStarterIdForSlot state starterSlot with
            | none => (-6, state)
            | some starterId =>
              match findStarterKindByIdInRuntime state starterId with
              | none => (-6, state)
              | some starterKind =>
                match engine.prepareInvitationSent platform state outside.draftClock
                    outside.randomId starterId toPubkey with
                | (.error _, state) => (-6, state)
                | (.ok draft, state) =>
                  match engine.prepareEvent platform state outside.append.clock .invitationSent
                      (offerPayload platform seed draft.event.payload starterKind senderPubkey
                        cardSignature) (some toPubkey) with
                  | (.error _, state) => (-6, state)
                  | (.ok prepared, state) =>
                    match appendPreparedEvent platform outside.append state prepared with
                    | (.ok (), state) => (0, state)
                    | (.error _, state) => (-6, state)

def hivraSendInvitation (outside : SendOutside Seed) (state : RuntimeState)
    (toPubkeyPtr : Option PubKey) (starterSlot : UInt8) : ℤ × RuntimeState :=
  sendInvitationWithCardSignature platform outside state toPubkeyPtr starterSlot none

def hivraSendInvitationWithCard (outside : SendOutside Seed) (state : RuntimeState)
    (toPubkeyPtr : Option PubKey) (starterSlot : UInt8) (cardSignaturePtr : Option (Bytes 64)) :
    ℤ × RuntimeState :=
  sendInvitationWithCardSignature platform outside state toPubkeyPtr starterSlot cardSignaturePtr

/-! ### Rejections and cancels -/

/-- Reject an invitation.  Neither its direction nor its state is looked at, only that some
    offer of it is there and that the same rejection is not. -/
def hivraRejectInvitation (outside : CallOutside Seed) (state : RuntimeState)
    (invitationIdPtr : Option InvitationId) (reason : UInt8) : ℤ × RuntimeState :=
  match invitationIdPtr with
  | none => (-1, state)
  | some invitationId =>
    match RejectReason.fromU8 reason with
    | .error _ => (-2, state)
    | .ok rejectReason =>
      match outside.loadSeed with
      | none => (-3, state)
      | some seed =>
        if state.capsule = none then (-4, state)
        else
          match findInvitationSentInRuntime state invitationId with
          | none => (-4, state)
          | some record =>
            match (buildEngine state seed).prepareEvent platform state outside.append.clock
                .invitationRejected (InvitationRejectedPayload.toBytes ⟨invitationId, rejectReason⟩)
                (some record.peerPubkey) with
            | (.error _, state) => (-4, state)
            | (.ok prepared, state) =>
              if eventExistsInRuntime state .invitationRejected prepared.event.payload then
                (0, state)
              else
                match appendPreparedEvent platform outside.append state prepared with
                | (.ok (), state) => (0, state)
                | (.error _, state) => (-4, state)

/-- Cancel an own offer; nothing is appended to an invitation that is resolved. -/
def hivraExpireInvitation (outside : CallOutside Seed) (state : RuntimeState)
    (invitationIdPtr : Option InvitationId) : ℤ × RuntimeState :=
  match invitationIdPtr with
  | none => (-1, state)
  | some invitationId =>
    if invitationIsResolvedInRuntime state invitationId then (0, state)
    else
      match findInvitationSentInRuntime state invitationId with
      | none => (-4, state)
      | some record =>
        if record.isIncoming then (-4, state)
        else
          match outside.loadSeed with
          | none => (-2, state)
          | some seed =>
            match (buildEngine state seed).prepareEvent platform state outside.append.clock
                .invitationExpired (InvitationExpiredPayload.toBytes ⟨invitationId⟩) none with
            | (.error _, state) => (-3, state)
            | (.ok prepared, state) =>
              match appendPreparedEvent platform outside.append state prepared with
              | (.ok (), state) => (0, state)
              | (.error _, state) => (-3, state)

/-! ### Breaks -/

/-- The outcome of a break: its code and the identifier of the appended event. -/
structure BreakOutcome where
  code : ℤ
  deliveryReference : Option (Bytes 32)
  state : RuntimeState

/-- Break a relationship.  Whether there is one is not looked at. -/
def breakRelationshipWithDeliveryReference (outside : CallOutside Seed) (state : RuntimeState)
    (peerPubkeyPtr : Option PubKey) (ownStarterIdPtr peerStarterIdPtr : Option StarterId) :
    BreakOutcome :=
  match peerPubkeyPtr, ownStarterIdPtr, peerStarterIdPtr with
  | some peerPubkey, some ownStarterId, some peerStarterId =>
    match outside.loadSeed with
    | none => { code := -2, deliveryReference := none, state := state }
    | some seed =>
      let peerRootPubkey := peerRootForRelationship state peerPubkey ownStarterId peerStarterId
      match (buildEngine state seed).prepareEvent platform state outside.append.clock
          .relationshipBroken
          (RelationshipBrokenPayload.toBytes ⟨peerPubkey, ownStarterId, peerRootPubkey⟩) none with
      | (.error _, state) => { code := -4, deliveryReference := none, state := state }
      | (.ok prepared, state) =>
        let deliveryReference := prepared.event.eventId platform.sha256
        match appendPreparedEvent platform outside.append state prepared with
        | (.error _, state) => { code := -7, deliveryReference := none, state := state }
        | (.ok (), state) =>
          { code := 0, deliveryReference := some deliveryReference, state := state }
  | _, _, _ => { code := -1, deliveryReference := none, state := state }

end Calls

end Hivra
