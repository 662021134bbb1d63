import Hivra.Ffi.LocalCalls

namespace Hivra

open ByteString Replay

/-!
# Runs of the runtime

The exported calls that write to the ledger of a capsule, and runs of them.  Every call is
built from three moves: the engine prepares an event, an event it prepared is appended, and
a remote event is appended.
-/

section Run

variable {Seed : Type} (platform : Platform Seed)

/-- One exported call that can write to the ledger, with its arguments and with what the
    outside answers to it. -/
inductive RuntimeCall (Seed : Type)
  | ledgerAppendEvent (outside : CallOutside Seed) (kind : UInt8)
      (payloadPtr : Option (List UInt8))
  | sendInvitation (outside : SendOutside Seed) (toPubkeyPtr : Option PubKey)
      (starterSlot : UInt8) (cardSignature : Option (Bytes 64))
  | acceptInvitation (outside : AcceptOutside Seed) (invitationIdPtr : Option InvitationId)
      (fromPubkeyPtr : Option PubKey)
  | rejectInvitation (outside : CallOutside Seed) (invitationIdPtr : Option InvitationId)
      (reason : UInt8)
  | expireInvitation (outside : CallOutside Seed) (invitationIdPtr : Option InvitationId)
  | breakRelationship (outside : CallOutside Seed) (peerPubkeyPtr : Option PubKey)
      (ownStarterIdPtr peerStarterIdPtr : Option StarterId)
  | receive (outside : IngressOutside Seed) (seed : Seed) (localPubkey : PubKey)
      (counters : IngressCounters) (message : DeliveryEnvelope)

/-- The state a call leaves behind. -/
def RuntimeCall.apply (state : RuntimeState) : RuntimeCall Seed → RuntimeState
  | .ledgerAppendEvent outside kind payloadPtr =>
    (hivraLedgerAppendEvent platform outside state kind payloadPtr).2
  | .sendInvitation outside toPubkeyPtr starterSlot cardSignature =>
    (sendInvitationWithCardSignature platform outside state toPubkeyPtr starterSlot
      cardSignature).2
  | .acceptInvitation outside invitationIdPtr fromPubkeyPtr =>
    (hivraAcceptInvitation platform outside state invitationIdPtr fromPubkeyPtr).2
  | .rejectInvitation outside invitationIdPtr reason =>
    (hivraRejectInvitation platform outside state invitationIdPtr reason).2
  | .expireInvitation outside invitationIdPtr =>
    (hivraExpireInvitation platform outside state invitationIdPtr).2
  | .breakRelationship outside peerPubkeyPtr ownStarterIdPtr peerStarterIdPtr =>
    (breakRelationshipWithDeliveryReference platform outside state peerPubkeyPtr ownStarterIdPtr
      peerStarterIdPtr).state
  | .receive outside seed localPubkey counters message =>
    (routeInboundEnvelope platform seed localPubkey outside message counters state).state

/-- A run of calls, the first one first. -/
def runCalls (state : RuntimeState) (calls : List (RuntimeCall Seed)) : RuntimeState :=
  replay (fun state call => call.apply platform state) state calls

/-- The kinds of event a call may append: a free append has the kind it is asked for, and no
    other call appends a birth. -/
def RuntimeCall.Writes (call : RuntimeCall Seed) (kind : EventKind) : Prop :=
  match call with
  | .ledgerAppendEvent _ byte _ => eventKindFromU8 byte = some kind
  | _ => kind ≠ .capsuleCreated

/-- A property of the runtime that the three moves keep, for events of the allowed kinds. -/
structure KeptByAppends (allowed : EventKind → Prop) (P : RuntimeState → Prop) : Prop where
  prepare : ∀ {state : RuntimeState} (engine : Engine Seed) (clock : Option UInt64)
    (kind : EventKind) (payload : List UInt8) (recipient : Option PubKey), P state →
    P (engine.prepareEvent platform state clock kind payload recipient).2
  own : ∀ {state before : RuntimeState} {engine : Engine Seed} {clock : Option UInt64}
    {kind : EventKind} {payload : List UInt8} {recipient : Option PubKey}
    {prepared : PreparedEvent} (outside : Outside Seed), allowed kind →
    (engine.prepareEvent platform before clock kind payload recipient).1 = .ok prepared →
    P state → P (appendPreparedEvent platform outside state prepared).2
  remote : ∀ {state : RuntimeState} (outside : Outside Seed) (event : Event),
    allowed event.kind → P state → P (appendVerifiedRuntimeEvent platform outside state event).2

variable {platform} {allowed : EventKind → Prop} {P : RuntimeState → Prop}

namespace KeptByAppends

variable (h : KeptByAppends platform allowed P)
include h

section Own

variable {engine : Engine Seed} {state middle other after : RuntimeState} {clock : Option UInt64}
  {kind : EventKind} {payload : List UInt8} {recipient : Option PubKey}
  {prepared : PreparedEvent} {outside : Outside Seed}

private theorem of_prepare {result : Except EngineError PreparedEvent}
    (hprepare : engine.prepareEvent platform state clock kind payload recipient
      = (result, middle)) (hP : P state) : P middle := by
  have hkept := h.prepare engine clock kind payload recipient hP
  rwa [hprepare] at hkept

private theorem of_append {result : Except String Unit} (hkind : allowed kind)
    (hprepare : engine.prepareEvent platform state clock kind payload recipient
      = (.ok prepared, middle))
    (happend : appendPreparedEvent platform outside other prepared = (result, after))
    (hP : P other) : P after := by
  have hkept := h.own outside hkind
    (show (engine.prepareEvent platform state clock kind payload recipient).1 = .ok prepared by
      rw [hprepare]) hP
  rwa [happend] at hkept

theorem prepareAndAppend (hkind : allowed kind) (hP : P state) :
    P (prepareAndAppend platform engine outside state kind payload).2 := by
  unfold Hivra.prepareAndAppend
  split
  · exact h.of_prepare ‹_› hP
  · rename_i hprepare
    exact h.of_append hkind hprepare rfl (h.of_prepare hprepare hP)

theorem appendRelationship (hkind : allowed .relationshipEstablished) (hP : P state)
    (row : RelationshipEstablishedPayload) :
    P (appendRelationshipEstablishedIfMissing platform engine outside state row).2 := by
  unfold appendRelationshipEstablishedIfMissing
  split
  · exact h.of_prepare ‹_› hP
  · rename_i hprepare
    have hmiddle := h.of_prepare hprepare hP
    split
    · exact hmiddle
    · exact h.of_append hkind hprepare rfl hmiddle

theorem appendStarter (engine : Engine Seed) (outside : Outside Seed)
    (hkind : allowed .starterCreated) (hP : P state) (starterId : StarterId)
    (starterKind : StarterKind) (network : Network) (nonce : Bytes 32) :
    P (appendStarterCreatedIfMissing platform engine outside state starterId starterKind network
      nonce).2 := by
  unfold appendStarterCreatedIfMissing
  split
  · exact h.of_prepare ‹_› hP
  · rename_i hprepare
    have hmiddle := h.of_prepare hprepare hP
    split
    · exact hmiddle
    · exact h.of_append hkind hprepare rfl hmiddle

end Own

/-! ### The calls -/

variable {state : RuntimeState}

theorem ledgerAppendEvent (outside : CallOutside Seed) (byte : UInt8)
    (payloadPtr : Option (List UInt8))
    (hkind : ∀ kind, eventKindFromU8 byte = some kind → allowed kind) (hP : P state) :
    P (hivraLedgerAppendEvent platform outside state byte payloadPtr).2 := by
  have hfree : ∀ kind payload, allowed kind →
      P (appendRuntimeEvent platform outside state kind payload).2 := by
    intro kind payload hallowed
    unfold appendRuntimeEvent
    split
    · exact hP
    · split
      · exact h.of_prepare ‹_› hP
      · rename_i hprepare
        exact h.of_append hallowed hprepare rfl (h.of_prepare hprepare hP)
  unfold hivraLedgerAppendEvent
  split
  · exact hP
  · rename_i payload
    split
    · exact hP
    · rename_i kind hbyte
      have hkept := hfree kind payload (hkind kind hbyte)
      split
      · rename_i happend
        rwa [happend] at hkept
      · rename_i happend
        rwa [happend] at hkept

theorem sendInvitation (outside : SendOutside Seed) (toPubkeyPtr : Option PubKey)
    (starterSlot : UInt8) (cardSignature : Option (Bytes 64)) (hkind : allowed .invitationSent)
    (hP : P state) :
    P (sendInvitationWithCardSignature platform outside state toPubkeyPtr starterSlot
      cardSignature).2 := by
  have hdraft : ∀ {engine : Engine Seed} {starterId : StarterId} {toPubkey : PubKey} {result middle},
      engine.prepareInvitationSent platform state outside.draftClock outside.randomId starterId
        toPubkey = (result, middle) → P middle := by
    intro engine starterId toPubkey result middle hprepare
    unfold Engine.prepareInvitationSent at hprepare
    split at hprepare
    · rw [← (Prod.mk.inj hprepare).2]
      exact hP
    · exact h.of_prepare hprepare hP
  unfold sendInvitationWithCardSignature
  split
  · exact hP
  split
  · exact hP
  split
  · exact hP
  split
  · exact hP
  split
  · exact hP
  dsimp only
  split
  · exact hP
  split
  · exact hP
  split
  · exact hdraft ‹_›
  rename_i hprepareDraft
  have hdrafted := hdraft hprepareDraft
  split
  · exact h.of_prepare ‹_› hdrafted
  rename_i hprepare
  have hmiddle := h.of_prepare hprepare hdrafted
  split
  · exact h.of_append hkind hprepare ‹_› hmiddle
  · exact h.of_append hkind hprepare ‹_› hmiddle

theorem rejectInvitation (outside : CallOutside Seed) (invitationIdPtr : Option InvitationId)
    (reason : UInt8) (hkind : allowed .invitationRejected) (hP : P state) :
    P (hivraRejectInvitation platform outside state invitationIdPtr reason).2 := by
  unfold hivraRejectInvitation
  split
  · exact hP
  split
  · exact hP
  split
  · exact hP
  split
  · exact hP
  split
  · exact hP
  split
  · exact h.of_prepare ‹_› hP
  rename_i hprepare
  have hmiddle := h.of_prepare hprepare hP
  split
  · exact hmiddle
  split
  · exact h.of_append hkind hprepare ‹_› hmiddle
  · exact h.of_append hkind hprepare ‹_› hmiddle

theorem expireInvitation (outside : CallOutside Seed) (invitationIdPtr : Option InvitationId)
    (hkind : allowed .invitationExpired) (hP : P state) :
    P (hivraExpireInvitation platform outside state invitationIdPtr).2 := by
  unfold hivraExpireInvitation
  split
  · exact hP
  split
  · exact hP
  split
  · exact hP
  split
  · exact hP
  split
  · exact hP
  split
  · exact h.of_prepare ‹_› hP
  rename_i hprepare
  have hmiddle := h.of_prepare hprepare hP
  split
  · exact h.of_append hkind hprepare ‹_› hmiddle
  · exact h.of_append hkind hprepare ‹_› hmiddle

theorem breakRelationship (outside : CallOutside Seed) (peerPubkeyPtr : Option PubKey)
    (ownStarterIdPtr peerStarterIdPtr : Option StarterId) (hkind : allowed .relationshipBroken)
    (hP : P state) :
    P (breakRelationshipWithDeliveryReference platform outside state peerPubkeyPtr
      ownStarterIdPtr peerStarterIdPtr).state := by
  unfold breakRelationshipWithDeliveryReference
  split
  · split
    · exact hP
    dsimp only
    split
    · exact h.of_prepare ‹_› hP
    rename_i hprepare
    have hmiddle := h.of_prepare hprepare hP
    split
    · exact h.of_append hkind hprepare ‹_› hmiddle
    · exact h.of_append hkind hprepare ‹_› hmiddle
  · exact hP

/-! ### Acceptance -/

theorem appendAcceptanceRow (engine : Engine Seed) (outside : Outside Seed)
    (plan : LocalAcceptancePlan) (fromPubkey : PubKey) (hkind : allowed .relationshipEstablished)
    (hP : P state) : P (appendAcceptanceRow platform engine outside state plan fromPubkey).2 := by
  unfold Hivra.appendAcceptanceRow
  split
  · exact hP
  · exact h.appendRelationship hkind hP _

theorem finalizeLocalAcceptance (engine : Engine Seed) (outside : AcceptOutside Seed)
    (plan : LocalAcceptancePlan) (fromPubkey : PubKey) (hcreated : allowed .starterCreated)
    (hrelated : allowed .relationshipEstablished) (hP : P state) :
    P (finalizeLocalAcceptance platform engine outside state plan fromPubkey).2 := by
  unfold Hivra.finalizeLocalAcceptance
  split
  · exact hP
  split
  · exact h.appendAcceptanceRow engine outside.relate plan fromPubkey hrelated hP
  rename_i network _ _ starterId kind nonce _
  have hkept := h.appendStarter engine outside.create hcreated hP starterId kind network nonce
  split
  · rename_i hcreate
    rwa [hcreate] at hkept
  · rename_i hcreate
    rw [hcreate] at hkept
    exact h.appendAcceptanceRow engine outside.relate plan fromPubkey hrelated hkept

theorem acceptInvitation (outside : AcceptOutside Seed) (invitationIdPtr : Option InvitationId)
    (fromPubkeyPtr : Option PubKey) (haccepted : allowed .invitationAccepted)
    (hcreated : allowed .starterCreated) (hrelated : allowed .relationshipEstablished)
    (hP : P state) :
    P (hivraAcceptInvitation platform outside state invitationIdPtr fromPubkeyPtr).2 := by
  have haccept : ∀ {engine : Engine Seed} {clock id fromPubkey starterId result middle},
      engine.prepareInvitationAccepted platform state clock id fromPubkey starterId
        = (result, middle) → P middle := by
    intro engine clock id fromPubkey starterId result middle hprepare
    unfold Engine.prepareInvitationAccepted at hprepare
    split at hprepare
    · rw [← (Prod.mk.inj hprepare).2]
      exact hP
    · exact h.of_prepare hprepare hP
  have happend : ∀ {engine : Engine Seed} {clock id fromPubkey starterId prepared middle result after},
      engine.prepareInvitationAccepted platform state clock id fromPubkey starterId
        = (.ok prepared, middle) →
      appendPreparedEvent platform outside.accept middle prepared = (result, after) → P after := by
    intro engine clock id fromPubkey starterId prepared middle result after hprepare hafter
    have hmiddle := haccept hprepare
    unfold Engine.prepareInvitationAccepted at hprepare
    split at hprepare
    · cases (Prod.mk.inj hprepare).1
    · exact h.of_append haccepted hprepare hafter hmiddle
  have hlast : ∀ {engine : Engine Seed} {middle plan fromPubkey result after}, P middle →
      Hivra.finalizeLocalAcceptance platform engine outside middle plan fromPubkey
        = (result, after) → P after := by
    intro engine middle plan fromPubkey result after hmiddle hfinalize
    have hkept := h.finalizeLocalAcceptance engine outside plan fromPubkey hcreated hrelated hmiddle
    rwa [hfinalize] at hkept
  unfold hivraAcceptInvitation
  split
  · split
    · exact hP
    split
    · exact hP
    split
    · exact hP
    split
    · exact hP
    split
    · exact hP
    dsimp only
    split
    · split
      · exact hP
      · split <;> exact hP
    split
    · exact haccept ‹_›
    rename_i hprepare
    split
    · exact haccept hprepare
    split
    · exact happend hprepare ‹_›
    rename_i hafter
    split
    · exact hlast (happend hprepare hafter) ‹_›
    · exact hlast (happend hprepare hafter) ‹_›
  · exact hP

/-! ### Ingress -/

theorem deliveryEffect (seed : Seed) (outside : Outside Seed) (message : DeliveryEnvelope)
    (kind : EventKind) (hrelated : allowed .relationshipEstablished)
    (hburned : allowed .starterBurned) (hP : P state) :
    P (deliveryEffect platform seed outside message kind state) := by
  unfold Hivra.deliveryEffect
  split
  · unfold projectInvitationAcceptedDelivery
    split
    · exact hP
    unfold projectRelationshipFromInvitationAccepted
    split
    · exact hP
    split
    · exact hP
    split
    · exact hP
    split
    · exact hP
    split
    · exact hP
    · exact h.appendRelationship hrelated hP _
  · unfold projectInvitationRejectedDelivery
    split
    · split
      · exact hP
      unfold projectEffectsFromInvitationRejected
      split
      · exact hP
      split
      · exact hP
      split
      · split
        · exact hP
        · exact h.prepareAndAppend hburned hP
      · exact hP
    · exact hP
  · exact hP

/-- Routing an envelope keeps the property; a birth never gets past the proof. -/
theorem receive (seed : Seed) (localPubkey : PubKey) (outside : IngressOutside Seed)
    (counters : IngressCounters) (message : DeliveryEnvelope)
    (hkinds : ∀ kind, kind ≠ .capsuleCreated → allowed kind) (hP : P state) :
    P (routeInboundEnvelope platform seed localPubkey outside message counters state).state := by
  have heffect : ∀ kind {middle : RuntimeState}, P middle →
      P (Hivra.deliveryEffect platform seed outside.effect message kind middle) := by
    intro kind middle hmiddle
    exact h.deliveryEffect seed outside.effect message kind (hkinds _ (by simp))
      (hkinds _ (by simp)) hmiddle
  unfold routeInboundEnvelope
  split
  · exact hP
  split
  · exact hP
  split
  · exact hP
  · exact hP
  split
  · exact hP
  · exact hP
  split
  · exact hP
  rename_i kind _
  unfold routeDomainEvent
  split
  · exact hP
  dsimp only
  split
  · exact hP
  rename_i event hproof
  split
  · exact hP
  rename_i hsigner
  split
  · rw [routeSkipped_state]
    exact heffect kind hP
  -- what is left passed the proof, so its kind is one a remote event can have
  have hkind : event.kind ≠ .capsuleCreated := by
    rw [(verifiedEvent_fields hproof).1]
    intro hbirth
    rw [hbirth] at hsigner
    exact hsigner rfl
  have hkept := h.remote outside.append event (hkinds _ hkind) hP
  split
  · rename_i happend
    rwa [happend] at hkept
  · rename_i happend
    rw [happend] at hkept
    rw [routeAppended_state]
    exact heffect kind hkept

end KeptByAppends

/-- Any property of the capsule that growing by the allowed kinds keeps is kept by appends. -/
theorem KeptByAppends.of_grows
    (hgrows : ∀ {state state' : RuntimeState} {new : List Event}, StateGrows state state' new →
      (∀ event ∈ new, allowed event.kind) → P state → P state') :
    KeptByAppends platform allowed P where
  prepare := by
    intro state engine clock kind payload recipient hP
    exact hgrows (.of_capsule_eq (Engine.prepareEvent_capsule platform _ _ _ _ _ _)) (by simp) hP
  own := by
    intro state before engine clock kind payload recipient prepared outside hallowed hprepared hP
    obtain ⟨hkind, -, -⟩ := Engine.prepareEvent_ok platform hprepared
    rcases appendPreparedEvent_cases platform outside state prepared with
      ⟨message, -, hsame⟩ | ⟨-, hadded⟩
    · exact hgrows (.of_capsule_eq hsame) (by simp) hP
    · refine hgrows hadded ?_ hP
      intro event hevent
      rw [List.mem_singleton.mp hevent, hkind]
      exact hallowed
  remote := by
    intro state outside event hallowed hP
    rcases appendVerifiedRuntimeEvent_cases platform outside state event with
      ⟨message, -, hsame⟩ | ⟨stored, -, hadded, hkind, -⟩
    · exact hgrows (.of_capsule_eq hsame) (by simp) hP
    · refine hgrows hadded ?_ hP
      intro other hother
      rw [List.mem_singleton.mp hother, hkind]
      exact hallowed

/-- **Step rule.** What the three moves keep is kept by every call that writes allowed kinds. -/
theorem RuntimeCall.keeps (h : KeptByAppends platform allowed P) {call : RuntimeCall Seed}
    (hkinds : ∀ kind, call.Writes kind → allowed kind) {state : RuntimeState} (hP : P state) :
    P (call.apply platform state) := by
  cases call with
  | ledgerAppendEvent outside byte payloadPtr =>
    exact h.ledgerAppendEvent outside byte payloadPtr hkinds hP
  | sendInvitation outside toPubkeyPtr starterSlot cardSignature =>
    exact h.sendInvitation outside toPubkeyPtr starterSlot cardSignature
      (hkinds _ (by simp [Writes])) hP
  | acceptInvitation outside invitationIdPtr fromPubkeyPtr =>
    exact h.acceptInvitation outside invitationIdPtr fromPubkeyPtr (hkinds _ (by simp [Writes]))
      (hkinds _ (by simp [Writes])) (hkinds _ (by simp [Writes])) hP
  | rejectInvitation outside invitationIdPtr reason =>
    exact h.rejectInvitation outside invitationIdPtr reason (hkinds _ (by simp [Writes])) hP
  | expireInvitation outside invitationIdPtr =>
    exact h.expireInvitation outside invitationIdPtr (hkinds _ (by simp [Writes])) hP
  | breakRelationship outside peerPubkeyPtr ownStarterIdPtr peerStarterIdPtr =>
    exact h.breakRelationship outside peerPubkeyPtr ownStarterIdPtr peerStarterIdPtr
      (hkinds _ (by simp [Writes])) hP
  | receive outside seed localPubkey counters message =>
    exact h.receive seed localPubkey outside counters message hkinds hP

/-- **Run rule.** And by every run of such calls. -/
theorem runCalls_keeps (h : KeptByAppends platform allowed P) {calls : List (RuntimeCall Seed)}
    (hkinds : ∀ call ∈ calls, ∀ kind, call.Writes kind → allowed kind) {state : RuntimeState}
    (hP : P state) : P (runCalls platform state calls) :=
  replay_invariant hP fun _ call hcall hkept => RuntimeCall.keeps h (hkinds call hcall) hkept

end Run

end Hivra
