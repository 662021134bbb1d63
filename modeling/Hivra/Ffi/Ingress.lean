import Hivra.Ffi.InvitationEffects

namespace Hivra

open ByteString

/-!
# Ingress of delivered envelopes

`routeInboundEnvelope` takes one envelope the transport delivered through its gates, to
the filter, and from there either to the append and its local effect or to the effect
alone.  The counters are those the function touches; the text check and the stores of the
two non-core message kinds are one answer of the outside each.
-/

/-- The proof a remote event travels with. -/
structure DomainEventProof where
  version : UInt8
  kind : UInt8
  signer : PubKey
  signature : List UInt8
  deriving DecidableEq

/-- An envelope as the transport hands it over. -/
structure DeliveryEnvelope where
  fromPubkey : PubKey
  toPubkey : PubKey
  kind : UInt32
  payload : List UInt8
  timestamp : UInt64
  domainEvent : Option DomainEventProof
  deriving DecidableEq

/-- What becomes of an envelope. -/
inductive InboundDeliveryDisposition
  | consumed
  | quarantined
  | retry
  | adapterRejected
  deriving DecidableEq

/-- The answer of a router of non-core messages. -/
inductive InboundRouteResult
  | notMatched
  | consumed
  | retry
  deriving DecidableEq

/-- The counters one routed envelope can move. -/
structure IngressCounters where
  appended : ℕ
  loopback : ℕ
  routedNonCore : ℕ
  unsupported : ℕ
  notAddressed : ℕ
  proofInvalid : ℕ
  signerMismatch : ℕ
  replayed : ℕ
  appendFailed : ℕ
  capacityBackpressure : ℕ
  acceptedSeen : ℕ
  acceptedReplayed : ℕ
  acceptedAppended : ℕ
  acceptedProjectionReconciled : ℕ
  deriving DecidableEq

/-- What the outside answers while one envelope is routed: whether the chat and the
    attestation store took the message (one without text counts as taken), and the seed
    and clock at the append and at its local effect. -/
structure IngressOutside (Seed : Type) where
  chatStored : Bool
  attestationStored : Bool
  append : Outside Seed
  effect : Outside Seed

/-- The outcome of routing one envelope. -/
structure IngressOutcome where
  disposition : InboundDeliveryDisposition
  counters : IngressCounters
  state : RuntimeState

def capsuleChatKind : UInt32 := 4097
def pairConsensusAttestationKind : UInt32 := 4098

/-- A non-core router takes its own kind; a foreign or own message of it is consumed, any
    other one waits until it is stored. -/
def queueIncomingIfMatch (kind : UInt32) (stored : Bool) (message : DeliveryEnvelope)
    (localPubkey : PubKey) : InboundRouteResult :=
  if message.kind ≠ kind then .notMatched
  else if message.toPubkey ≠ localPubkey ∨ message.fromPubkey = localPubkey then .consumed
  else if stored then .consumed
  else .retry

def queueIncomingChatIfMatch (stored : Bool) (message : DeliveryEnvelope)
    (localPubkey : PubKey) : InboundRouteResult :=
  queueIncomingIfMatch capsuleChatKind stored message localPubkey

def queueIncomingAttestationIfMatch (stored : Bool) (message : DeliveryEnvelope)
    (localPubkey : PubKey) : InboundRouteResult :=
  queueIncomingIfMatch pairConsensusAttestationKind stored message localPubkey

def eventKindFromU8 (kind : UInt8) : Option EventKind :=
  match kind with
  | 0 => some .capsuleCreated
  | 1 => some .invitationSent
  | 2 => some .invitationAccepted
  | 3 => some .invitationRejected
  | 4 => some .invitationExpired
  | 5 => some .starterCreated
  | 6 => some .starterBurned
  | 7 => some .relationshipEstablished
  | 8 => some .relationshipBroken
  | 9 => some .invitationReceived
  | _ => none

/-- The event kind of an envelope; a kind beyond a byte has none. -/
def envelopeEventKind (kind : UInt32) : Option EventKind :=
  if kind.toNat < 256 then eventKindFromU8 kind.toUInt8 else none

/-- The signed event an envelope carries; its signature is not checked here. -/
def verifiedEventFromMessage (message : DeliveryEnvelope) (expectedKind : EventKind) :
    Except String Event :=
  match message.domainEvent with
  | none => .error "missing domain event proof"
  | some proof =>
    if proof.kind ≠ expectedKind.toByte then .error "domain event kind mismatch"
    else if h : proof.signature.length = 64 then
      let signature : Signature := ⟨⟨proof.signature, h⟩⟩
      if proof.version = protocolVersion then
        .ok (.new expectedKind message.payload message.timestamp signature proof.signer)
      else if proof.version = continuousLedgerProtocolVersion then
        .ok (.newV5 expectedKind message.payload message.timestamp signature proof.signer)
      else .error "unsupported domain event version"
    else .error "invalid domain event signature length"

/-- The root key a payload names is that of the signer; answers without one pass. -/
def proofSignerMatchesPayload (kind : EventKind) (payload : List UInt8) (signer : PubKey) : Bool :=
  match kind with
  | .invitationReceived =>
    decide (128 ≤ payload.length) && readFixed32 payload 96 == signer.bytes
  | .invitationAccepted =>
    decide (payload.length = 128) && readFixed32 payload 96 == signer.bytes
  | .relationshipBroken =>
    decide (payload.length = 96) && readFixed32 payload 64 == signer.bytes
  | .invitationRejected => true
  | .invitationExpired => true
  | _ => false

/-- The kind a delivered event has in the local ledger. -/
def localKindOf (kind : EventKind) : EventKind :=
  if kind = .invitationSent then .invitationReceived else kind

/-- The envelope is for this capsule: by its address, by the address in an offer, or as the
    cancel of an offer it received. -/
def targetsLocal (state : RuntimeState) (message : DeliveryEnvelope) (kind : EventKind)
    (localPubkey : PubKey) : Bool :=
  message.toPubkey == localPubkey ||
    (kind == .invitationSent && decide (96 ≤ message.payload.length) &&
      readFixed32 message.payload 64 == localPubkey.bytes) ||
    (kind == .invitationExpired && decide (message.payload.length = 32) &&
      incomingInvitationExpiredMatchesRuntime state (readFixed32 message.payload 0)
        message.fromPubkey)

section Route

variable {Seed : Type} (platform : Platform Seed) (seed : Seed) (outside : Outside Seed)

def projectInvitationAcceptedDelivery (state : RuntimeState) (messageFrom : PubKey)
    (payload : List UInt8) : Except String Unit × RuntimeState :=
  match InvitationAcceptedPayload.fromBytes payload with
  | .error _ => (.error "invalid InvitationAccepted payload", state)
  | .ok payload =>
    projectRelationshipFromInvitationAccepted platform (buildEngine state seed) outside state
      messageFrom payload

/-- The effect of a delivered rejection, when its payload parses. -/
def projectInvitationRejectedDelivery (state : RuntimeState) (payload : List UInt8) :
    Except String Unit × RuntimeState :=
  if payload.length = 33 then
    match InvitationRejectedPayload.fromBytes payload with
    | .error _ => (.ok (), state)
    | .ok payload =>
      projectEffectsFromInvitationRejected platform (buildEngine state seed) outside state payload
  else (.ok (), state)

/-- The reconcile branch behind a skip: the payload of the skipped delivery is projected. -/
def routeSkipped (message : DeliveryEnvelope) (localKind : EventKind)
    (counters : IngressCounters) (state : RuntimeState) : IngressOutcome :=
  let counters := { counters with replayed := counters.replayed + 1 }
  if localKind = .invitationAccepted then
    let counters := { counters with acceptedReplayed := counters.acceptedReplayed + 1 }
    match projectInvitationAcceptedDelivery platform seed outside state message.fromPubkey
        message.payload with
    | (.ok (), state) =>
      { disposition := .consumed
        counters := { counters with
          acceptedProjectionReconciled := counters.acceptedProjectionReconciled + 1 }
        state := state }
    | (.error _, state) => { disposition := .retry, counters := counters, state := state }
  else if localKind = .invitationRejected then
    match projectInvitationRejectedDelivery platform seed outside state message.payload with
    | (.ok (), state) => { disposition := .consumed, counters := counters, state := state }
    | (.error _, state) => { disposition := .retry, counters := counters, state := state }
  else { disposition := .consumed, counters := counters, state := state }

/-- The effect branch behind an append. -/
def routeAppended (message : DeliveryEnvelope) (kind : EventKind) (counters : IngressCounters)
    (state : RuntimeState) : IngressOutcome :=
  let counters := { counters with appended := counters.appended + 1 }
  if kind = .invitationAccepted then
    let counters := { counters with acceptedAppended := counters.acceptedAppended + 1 }
    match projectInvitationAcceptedDelivery platform seed outside state message.fromPubkey
        message.payload with
    | (.ok (), state) => { disposition := .consumed, counters := counters, state := state }
    | (.error _, state) => { disposition := .retry, counters := counters, state := state }
  else if kind = .invitationRejected then
    match projectInvitationRejectedDelivery platform seed outside state message.payload with
    | (.ok (), state) => { disposition := .consumed, counters := counters, state := state }
    | (.error _, state) => { disposition := .retry, counters := counters, state := state }
  else { disposition := .consumed, counters := counters, state := state }

/-- The part of the route behind the kind of the envelope. -/
def routeDomainEvent (localPubkey : PubKey) (outside : IngressOutside Seed)
    (message : DeliveryEnvelope) (kind : EventKind) (counters : IngressCounters)
    (state : RuntimeState) : IngressOutcome :=
  if targetsLocal state message kind localPubkey = false then
    { disposition := .consumed
      counters := { counters with notAddressed := counters.notAddressed + 1 }
      state := state }
  else
    let localKind := localKindOf kind
    let counters := if localKind = .invitationAccepted then
        { counters with acceptedSeen := counters.acceptedSeen + 1 }
      else counters
    match verifiedEventFromMessage message localKind with
    | .error _ =>
      { disposition := .consumed
        counters := { counters with proofInvalid := counters.proofInvalid + 1 }
        state := state }
    | .ok event =>
      if proofSignerMatchesPayload localKind message.payload event.signer = false then
        { disposition := .consumed
          counters := { counters with signerMismatch := counters.signerMismatch + 1 }
          state := state }
      else if shouldSkipIncomingDeliveryAppendWithTimestamp state localKind message.payload
          event.signer (some message.timestamp) then
        routeSkipped platform seed outside.effect message localKind counters state
      else
        match appendVerifiedRuntimeEvent platform outside.append state event with
        | (.error _, state) =>
          { disposition := .retry
            counters := { counters with appendFailed := counters.appendFailed + 1 }
            state := state }
        | (.ok (), state) => routeAppended platform seed outside.effect message kind counters state

/-- Route one envelope: the loopback check, the capsule, the two non-core routers, the
    kind, and then the gates of domain events. -/
def routeInboundEnvelope (localPubkey : PubKey) (outside : IngressOutside Seed)
    (message : DeliveryEnvelope) (counters : IngressCounters) (state : RuntimeState) :
    IngressOutcome :=
  if message.fromPubkey = localPubkey then
    { disposition := .consumed
      counters := { counters with loopback := counters.loopback + 1 }
      state := state }
  else if state.capsule = none then
    { disposition := .retry, counters := counters, state := state }
  else
    match queueIncomingChatIfMatch outside.chatStored message localPubkey with
    | .consumed =>
      { disposition := .consumed
        counters := { counters with routedNonCore := counters.routedNonCore + 1 }
        state := state }
    | .retry =>
      { disposition := .retry
        counters := { counters with capacityBackpressure := counters.capacityBackpressure + 1 }
        state := state }
    | .notMatched =>
      match queueIncomingAttestationIfMatch outside.attestationStored message localPubkey with
      | .consumed =>
        { disposition := .consumed
          counters := { counters with routedNonCore := counters.routedNonCore + 1 }
          state := state }
      | .retry =>
        { disposition := .retry
          counters := { counters with capacityBackpressure := counters.capacityBackpressure + 1 }
          state := state }
      | .notMatched =>
        match envelopeEventKind message.kind with
        | none =>
          { disposition := .consumed
            counters := { counters with unsupported := counters.unsupported + 1 }
            state := state }
        | some kind =>
          routeDomainEvent platform seed localPubkey outside message kind counters state

/-! ### What a routed envelope does to the ledger -/

/-- An envelope passes the gates in front of the filter, as an event of a kind. -/
structure Delivered (localPubkey : PubKey) (state : RuntimeState) (message : DeliveryEnvelope)
    (kind : EventKind) (event : Event) : Prop where
  foreign : message.fromPubkey ≠ localPubkey
  hasCapsule : state.capsule ≠ none
  kindKnown : envelopeEventKind message.kind = some kind
  targets : targetsLocal state message kind localPubkey = true
  proof : verifiedEventFromMessage message (localKindOf kind) = .ok event
  signerMatches : proofSignerMatchesPayload (localKindOf kind) message.payload event.signer = true

/-- The filter skips a delivered event. -/
def Skipped (state : RuntimeState) (message : DeliveryEnvelope) (kind : EventKind)
    (event : Event) : Prop :=
  shouldSkipIncomingDeliveryAppendWithTimestamp state (localKindOf kind) message.payload
    event.signer (some message.timestamp) = true

/-- The state after the effect of a delivered answer. -/
def deliveryEffect (message : DeliveryEnvelope) (kind : EventKind) (state : RuntimeState) :
    RuntimeState :=
  match kind with
  | .invitationAccepted =>
    (projectInvitationAcceptedDelivery platform seed outside state message.fromPubkey
      message.payload).2
  | .invitationRejected =>
    (projectInvitationRejectedDelivery platform seed outside state message.payload).2
  | _ => state

/-- The event the effect of a delivered answer appends. -/
inductive EffectEvent (state : RuntimeState) (message : DeliveryEnvelope) :
    EventKind → Event → Prop
  | row {payload : InvitationAcceptedPayload} {row : RelationshipEstablishedPayload}
      {event : Event} : InvitationAcceptedPayload.fromBytes message.payload = .ok payload →
      ProjectsRow platform (buildEngine state seed) outside state message.fromPubkey payload row →
      event.kind = .relationshipEstablished → event.payload = row.toBytes →
      EffectEvent state message .invitationAccepted event
  | burn {payload : InvitationRejectedPayload} {starterId : StarterId} {event : Event} :
      InvitationRejectedPayload.fromBytes message.payload = .ok payload →
      ProjectsBurn platform (buildEngine state seed) outside state payload starterId →
      event.kind = .starterBurned →
      event.payload = StarterBurnedPayload.toBytes ⟨starterId, RejectReason.emptySlot.toByte⟩ →
      EffectEvent state message .invitationRejected event

theorem routeSkipped_state (message : DeliveryEnvelope) (kind : EventKind)
    (counters : IngressCounters) (state : RuntimeState) :
    (routeSkipped platform seed outside message (localKindOf kind) counters state).state
      = deliveryEffect platform seed outside message kind state := by
  unfold routeSkipped deliveryEffect
  cases kind <;> simp only [localKindOf, reduceCtorEq, if_false, if_true]
  · split <;> simp [*]
  · split <;> simp [*]

theorem routeAppended_state (message : DeliveryEnvelope) (kind : EventKind)
    (counters : IngressCounters) (state : RuntimeState) :
    (routeAppended platform seed outside message kind counters state).state
      = deliveryEffect platform seed outside message kind state := by
  unfold routeAppended deliveryEffect
  cases kind <;> simp only [reduceCtorEq, if_false, if_true]
  · split <;> simp [*]
  · split <;> simp [*]

/-- The effect of a delivered answer is at most one event. -/
theorem deliveryEffect_cases (message : DeliveryEnvelope) (kind : EventKind)
    (state : RuntimeState) :
    ((∀ event, ¬ EffectEvent platform seed outside state message kind event) ∧
      StateGrows state (deliveryEffect platform seed outside message kind state) []) ∨
    ∃ event, EffectEvent platform seed outside state message kind event ∧
      StateGrows state (deliveryEffect platform seed outside message kind state) [event] := by
  have hsame : StateGrows state state [] := .of_capsule_eq rfl
  unfold deliveryEffect
  cases kind with
  | invitationAccepted =>
    dsimp only
    unfold projectInvitationAcceptedDelivery
    cases hparse : InvitationAcceptedPayload.fromBytes message.payload with
    | error _ =>
      refine Or.inl ⟨?_, hsame⟩
      rintro event ⟨hother, -, -, -⟩
      simp [hparse] at hother
    | ok payload =>
      dsimp only
      rcases projectRelationship_cases platform (buildEngine state seed) outside state
        message.fromPubkey payload with ⟨hno, hgrows⟩ | ⟨row, event, hrow, hkind, hbytes, hgrows⟩
      · refine Or.inl ⟨?_, hgrows⟩
        rintro event ⟨hother, hrow, -, -⟩
        rw [← Except.ok.inj (hparse.symm.trans hother)] at hrow
        exact hno _ hrow
      · exact Or.inr ⟨event, .row hparse hrow hkind hbytes, hgrows⟩
  | invitationRejected =>
    dsimp only
    unfold projectInvitationRejectedDelivery
    by_cases hlength : message.payload.length = 33
    · rw [if_pos hlength]
      cases hparse : InvitationRejectedPayload.fromBytes message.payload with
      | error _ =>
        refine Or.inl ⟨?_, hsame⟩
        rintro event ⟨⟩
        simp_all
      | ok payload =>
        dsimp only
        rcases projectEffects_cases platform (buildEngine state seed) outside state payload with
          ⟨hno, hgrows⟩ | ⟨starterId, event, hburn, hkind, hbytes, hgrows⟩
        · refine Or.inl ⟨?_, hgrows⟩
          rintro event (_ | ⟨hother, hburn, -, -⟩)
          rw [← Except.ok.inj (hparse.symm.trans hother)] at hburn
          exact hno _ hburn
        · exact Or.inr ⟨event, .burn hparse hburn hkind hbytes, hgrows⟩
    · rw [if_neg hlength]
      refine Or.inl ⟨?_, hsame⟩
      rintro event (_ | ⟨hother, -, -, -⟩)
      exact hlength (InvitationRejectedPayload.fromBytes_ok.mp hother).1
  | _ => exact Or.inl ⟨by rintro event ⟨⟩, hsame⟩

variable {message : DeliveryEnvelope}

/-- The routers of the non-core kinds do not match an event kind. -/
private theorem notMatched_of_kind {kind : EventKind} (localPubkey : PubKey)
    (chatStored attestationStored : Bool) (h : envelopeEventKind message.kind = some kind) :
    queueIncomingChatIfMatch chatStored message localPubkey = .notMatched ∧
      queueIncomingAttestationIfMatch attestationStored message localPubkey = .notMatched := by
  have hsmall : message.kind.toNat < 256 := by
    unfold envelopeEventKind at h
    by_contra hlarge
    rw [if_neg hlarge] at h
    simp at h
  have hne : ∀ other : UInt32, 256 ≤ other.toNat → message.kind ≠ other := by
    rintro other hother rfl
    omega
  unfold queueIncomingChatIfMatch queueIncomingAttestationIfMatch queueIncomingIfMatch
  exact ⟨if_pos (hne _ (by decide)), if_pos (hne _ (by decide))⟩

/-- The event of an envelope has the asked kind and the payload of the envelope. -/
theorem verifiedEvent_fields {kind : EventKind} {event : Event}
    (h : verifiedEventFromMessage message kind = .ok event) :
    event.kind = kind ∧ event.payload = message.payload := by
  unfold verifiedEventFromMessage at h
  split at h
  · simp at h
  · split at h
    · simp at h
    · split at h
      · dsimp only at h
        split_ifs at h
        · rw [← Except.ok.inj h]
          exact ⟨rfl, rfl⟩
        · rw [← Except.ok.inj h]
          exact ⟨rfl, rfl⟩
      · simp at h

/-- **The gates.**  An envelope stops in front of the filter and changes nothing, consumed as
    long as there is a capsule and its kind is an event's; or it is delivered, and what becomes
    of it is up to the filter. -/
theorem routeInboundEnvelope_gates (localPubkey : PubKey) (outside : IngressOutside Seed)
    (message : DeliveryEnvelope) (counters : IngressCounters) (state : RuntimeState) :
    ((∀ kind event, ¬ Delivered localPubkey state message kind event) ∧
      (routeInboundEnvelope platform seed localPubkey outside message counters state).state
        = state ∧
      (state.capsule ≠ none → envelopeEventKind message.kind ≠ none →
        (routeInboundEnvelope platform seed localPubkey outside message counters
          state).disposition = .consumed)) ∨
    ∃ kind event counters', Delivered localPubkey state message kind event ∧
      routeInboundEnvelope platform seed localPubkey outside message counters state =
        if shouldSkipIncomingDeliveryAppendWithTimestamp state (localKindOf kind) message.payload
            event.signer (some message.timestamp) then
          routeSkipped platform seed outside.effect message (localKindOf kind) counters' state
        else
          match appendVerifiedRuntimeEvent platform outside.append state event with
          | (.error _, state) =>
            { disposition := .retry
              counters := { counters' with appendFailed := counters'.appendFailed + 1 }
              state := state }
          | (.ok (), state) =>
            routeAppended platform seed outside.effect message kind counters' state := by
  by_cases hforeign : message.fromPubkey = localPubkey
  · refine Or.inl ⟨fun kind event h => h.foreign hforeign, ?_, fun _ _ => ?_⟩
    · rw [routeInboundEnvelope, if_pos hforeign]
    · rw [routeInboundEnvelope, if_pos hforeign]
  by_cases hcapsule : state.capsule = none
  · refine Or.inl ⟨fun kind event h => h.hasCapsule hcapsule, ?_, absurd hcapsule⟩
    rw [routeInboundEnvelope, if_neg hforeign, if_pos hcapsule]
  cases hkind : envelopeEventKind message.kind with
  | none =>
    refine Or.inl ⟨fun kind event h => absurd (hkind.symm.trans h.kindKnown) (by simp), ?_,
      fun _ hknown => absurd rfl hknown⟩
    rw [routeInboundEnvelope, if_neg hforeign, if_neg hcapsule]
    simp only [hkind]
    split
    · rfl
    · rfl
    · split <;> rfl
  | some kind =>
    have hroute : routeInboundEnvelope platform seed localPubkey outside message counters state
        = routeDomainEvent platform seed localPubkey outside message kind counters state := by
      obtain ⟨hchat, hattestation⟩ := notMatched_of_kind localPubkey
        outside.chatStored outside.attestationStored hkind
      rw [routeInboundEnvelope, if_neg hforeign, if_neg hcapsule]
      simp only [hchat, hattestation, hkind]
    rw [hroute]
    unfold routeDomainEvent
    by_cases htargets : targetsLocal state message kind localPubkey = false
    · rw [if_pos htargets]
      refine Or.inl ⟨?_, rfl, fun _ _ => rfl⟩
      intro other event h
      obtain rfl := Option.some.inj (hkind.symm.trans h.kindKnown)
      exact absurd (htargets.symm.trans h.targets) (by simp)
    rw [if_neg htargets]
    dsimp only
    cases hproof : verifiedEventFromMessage message (localKindOf kind) with
    | error _ =>
      refine Or.inl ⟨?_, rfl, fun _ _ => rfl⟩
      intro other event h
      obtain rfl := Option.some.inj (hkind.symm.trans h.kindKnown)
      exact absurd (hproof.symm.trans h.proof) (by simp)
    | ok event =>
      dsimp only
      by_cases hsigner :
          proofSignerMatchesPayload (localKindOf kind) message.payload event.signer = false
      · rw [if_pos hsigner]
        refine Or.inl ⟨?_, rfl, fun _ _ => rfl⟩
        intro other event' h
        obtain rfl := Option.some.inj (hkind.symm.trans h.kindKnown)
        obtain rfl := Except.ok.inj (hproof.symm.trans h.proof)
        exact absurd (hsigner.symm.trans h.signerMatches) (by simp)
      rw [if_neg hsigner]
      exact Or.inr ⟨kind, event, _, ⟨hforeign, hcapsule, hkind, by simpa using htargets, hproof,
        by simpa using hsigner⟩, rfl⟩

/-- **Everything one envelope can do to the ledger.**  It stops at a gate, it is skipped
    and only its effect is projected, the runtime does not take it, or it is appended and
    its effect follows. -/
theorem routeInboundEnvelope_cases (localPubkey : PubKey) (outside : IngressOutside Seed)
    (message : DeliveryEnvelope) (counters : IngressCounters) (state : RuntimeState) :
    ((∀ kind event, ¬ Delivered localPubkey state message kind event) ∧
      (routeInboundEnvelope platform seed localPubkey outside message counters state).state
        = state) ∨
    ∃ kind event, Delivered localPubkey state message kind event ∧
      (Skipped state message kind event ∧
          (routeInboundEnvelope platform seed localPubkey outside message counters state).state
            = deliveryEffect platform seed outside.effect message kind state ∨
        ¬ Skipped state message kind event ∧ ¬ TakesRemote platform outside.append state event ∧
          (routeInboundEnvelope platform seed localPubkey outside message counters
            state).state.capsule = state.capsule ∨
        ¬ Skipped state message kind event ∧ TakesRemote platform outside.append state event ∧
          ∃ middle stored, StateGrows state middle [stored] ∧ stored.kind = localKindOf kind ∧
            stored.payload = message.payload ∧ stored.signer = event.signer ∧
            (routeInboundEnvelope platform seed localPubkey outside message counters state).state
              = deliveryEffect platform seed outside.effect message kind middle) := by
  rcases routeInboundEnvelope_gates platform seed localPubkey outside message counters state with
    ⟨hstopped, hsame, -⟩ | ⟨kind, event, counters', hdelivered, hroute⟩
  · exact Or.inl ⟨hstopped, hsame⟩
  refine Or.inr ⟨kind, event, hdelivered, ?_⟩
  rw [hroute]
  by_cases hskip : Skipped state message kind event
  · rw [if_pos (show shouldSkipIncomingDeliveryAppendWithTimestamp state (localKindOf kind)
      message.payload event.signer (some message.timestamp) = true from hskip)]
    exact Or.inl ⟨hskip, routeSkipped_state platform seed outside.effect message kind _ state⟩
  rw [if_neg (show ¬ shouldSkipIncomingDeliveryAppendWithTimestamp state (localKindOf kind)
      message.payload event.signer (some message.timestamp) = true from hskip),
    ← appendVerifiedRuntimeEvent_iff]
  refine Or.inr ?_
  obtain ⟨hkind', hpayload⟩ := verifiedEvent_fields hdelivered.proof
  rcases appendVerifiedRuntimeEvent_cases platform outside.append state event with
    ⟨error, herror, hsame⟩ | ⟨stored, hok, hgrows, hstored, hbytes, hby, -⟩
  · refine Or.inl ⟨hskip, by simp [herror], ?_⟩
    split
    · rename_i hcase
      rw [hcase] at hsame
      exact hsame
    · rename_i hcase
      simp [hcase] at herror
  · refine Or.inr ⟨hskip, hok,
      (appendVerifiedRuntimeEvent platform outside.append state event).2, stored, hgrows,
      hstored.trans hkind', hbytes.trans hpayload, hby, ?_⟩
    split
    · rename_i hcase
      simp [hcase] at hok
    · rename_i hcase
      rw [hcase]
      exact routeAppended_state platform seed outside.effect message kind _ _

end Route

variable {message : DeliveryEnvelope}

/-- The kinds a delivered event can have in the local ledger. -/
theorem Delivered.localKind {localPubkey : PubKey} {state : RuntimeState} {kind : EventKind}
    {event : Event} (h : Delivered localPubkey state message kind event) :
    localKindOf kind = .invitationReceived ∨ kind = .invitationAccepted ∨
      kind = .invitationRejected ∨ kind = .invitationExpired ∨ kind = .relationshipBroken := by
  have hsigner := h.signerMatches
  cases kind <;> simp [localKindOf, proofSignerMatchesPayload] at hsigner ⊢

/-- A delivered acceptance carries the root key of its signer. -/
theorem Delivered.accepted_root {localPubkey : PubKey} {state : RuntimeState} {event : Event}
    {payload : InvitationAcceptedPayload}
    (h : Delivered localPubkey state message .invitationAccepted event)
    (hparse : InvitationAcceptedPayload.fromBytes message.payload = .ok payload) :
    payload.accepterRootPubkey = some event.signer := by
  obtain ⟨-, rfl⟩ := InvitationAcceptedPayload.fromBytes_ok.mp hparse
  have hsigner := h.signerMatches
  simp only [localKindOf, reduceCtorEq, if_false, proofSignerMatchesPayload, Bool.and_eq_true,
    decide_eq_true_eq, beq_iff_eq] at hsigner
  obtain ⟨hlength, hroot⟩ := hsigner
  show readOptionalKey message.payload 128 96 = some event.signer
  rw [readOptionalKey, if_pos (by omega), hroot]

end Hivra
