import Hivra.Ffi.RuntimeRun
import Hivra.Ffi.SenderBinding

namespace Hivra

open ByteString

/-!
# Redelivery

An envelope that took effect is routed a second time, any run later.  Offers and cancels are
found in the ledger by their bytes; an answer is skipped, but its effect is projected again;
a break is recognized by its time and by whether its pair is related.
-/

section Redelivery

variable {Seed : Type} (platform : Platform Seed)

/-! ### What a second delivery must not find -/

/-- A break from that time is not after the last break of the pair, or before its last
    establishment. -/
def BreakIsOld (state : RuntimeState) (key : RelationshipKey) (timestamp : UInt64) : Prop :=
  let latest := relationshipKeyLatestTimestampsInRuntime state key
  (∃ broken ∈ latest.2, normalizeDeliveryTimestamp timestamp ≤ broken) ∨
    ∃ established ∈ latest.1, normalizeDeliveryTimestamp timestamp < established

/-- The row of an acceptance can be prepared and is in the ledger. -/
def RowKnown (seed : Seed) (outside : Outside Seed) (state : RuntimeState) (messageFrom : PubKey)
    (payload : InvitationAcceptedPayload) (record : InvitationLookupRecord) : Prop :=
  ∃ root, platform.rootPublicKey seed = some root ∧
    (∃ prepared, ((buildEngine state seed).prepareEvent platform state outside.clock
      .relationshipEstablished (acceptedRow messageFrom record payload root).toBytes none).1
        = .ok prepared) ∧
    eventExistsInRuntime state .relationshipEstablished
      (acceptedRow messageFrom record payload root).toBytes = true

/-- The ledger gives a delivered envelope of a kind nothing to do. -/
def StaysQuiet (seed : Seed) (outside : Outside Seed) (state : RuntimeState)
    (message : DeliveryEnvelope) (kind : EventKind) : Prop :=
  match kind with
  | .invitationAccepted => ∀ payload record,
      InvitationAcceptedPayload.fromBytes message.payload = .ok payload →
      findInvitationSentInRuntimeWithDirection state payload.invitationId (some false)
        = some record →
      RowKnown platform seed outside state message.fromPubkey payload record
  | .invitationRejected => ∀ payload record,
      InvitationRejectedPayload.fromBytes message.payload = .ok payload →
      findInvitationSentInRuntimeWithDirection state payload.invitationId (some false)
        = some record →
      payload.reason = .emptySlot → starterIsActiveInRuntime state record.starterId = false
  | .relationshipBroken => ∀ payload,
      RelationshipBrokenPayload.fromBytes message.payload = .ok payload →
      BreakIsOld state ⟨payload.peerPubkey, payload.ownStarterId⟩ message.timestamp ∨
        relationshipKeyIsActiveInRuntime state ⟨payload.peerPubkey, payload.ownStarterId⟩ = false
  | _ => True

variable {platform}

/-! ### Lookups in a growing ledger -/

section Growing

variable {state later : RuntimeState} {new : List Event} (h : StateGrows state later new)
include h

/-- What a scan of the ledger finds it finds behind more events too. -/
theorem StateGrows.any {p : Event → Bool} (hany : state.events.any p = true) :
    later.events.any p = true := by
  rw [h.events, List.any_append, hany, Bool.true_or]

/-- The first offer of an invitation stays the first, up to the kind that is looked up for
    its starter. -/
theorem StateGrows.find {id : InvitationId} {incoming : Bool} {record : InvitationLookupRecord}
    (hfind : findInvitationSentInRuntimeWithDirection state id (some incoming) = some record) :
    ∃ record', findInvitationSentInRuntimeWithDirection later id (some incoming)
      = some record' := by
  cases h with
  | noCapsule hnone =>
    unfold findInvitationSentInRuntimeWithDirection at hfind
    rw [hnone] at hfind
    cases hfind
  | @capsule capsule capsule' hbefore hafter hgrows =>
    unfold findInvitationSentInRuntimeWithDirection at hfind ⊢
    rw [hbefore] at hfind
    rw [hafter]
    dsimp only at hfind ⊢
    obtain ⟨event, hevent, hcandidate⟩ := List.exists_of_findSome?_eq_some hfind
    rw [← Option.isSome_iff_exists, List.findSome?_isSome_iff, hgrows.events]
    refine ⟨event, List.mem_append_left _ hevent, ?_⟩
    have hsome : (invitationCandidate capsule id (some incoming) event).isSome := by
      rw [hcandidate]
      rfl
    unfold invitationCandidate at hsome ⊢
    rw [hgrows.pubkey]
    split_ifs at hsome ⊢ <;> simp_all

end Growing

/-! ### The projections that stay quiet -/

/-- The result of a call is a success that leaves the capsule alone. -/
def Quietly (state : RuntimeState) (result : Except String Unit × RuntimeState) : Prop :=
  result.1 = .ok () ∧ result.2.capsule = state.capsule

variable {state : RuntimeState}

/-- A call that added an event was not quiet. -/
private theorem not_quietly_of_grows {result : Except String Unit × RuntimeState} {event : Event}
    (h : StateGrows state result.2 [event]) : ¬ Quietly state result := by
  rintro ⟨-, hsame⟩
  have hevents := h.events
  rw [(StateGrows.of_capsule_eq hsame).events] at hevents
  exact absurd (congrArg List.length hevents) (by simp)

variable (platform)

/-- Appending a prepared event is never quiet. -/
theorem appendPreparedEvent_loud (outside : Outside Seed) {state before : RuntimeState}
    (hsame : state.capsule = before.capsule) (prepared : PreparedEvent) :
    ¬ Quietly before (appendPreparedEvent platform outside state prepared) := by
  rcases appendPreparedEvent_cases platform outside state prepared with
    ⟨message, herror, -⟩ | ⟨-, hgrows⟩
  · rintro ⟨hok, -⟩
    rw [herror] at hok
    cases hok
  · exact not_quietly_of_grows ((StateGrows.of_capsule_eq hsame).trans hgrows)

/-- Preparing an event and appending it is never quiet. -/
theorem prepareAndAppend_loud (engine : Engine Seed) (outside : Outside Seed)
    (state : RuntimeState) (kind : EventKind) (payload : List UInt8) :
    ¬ Quietly state (prepareAndAppend platform engine outside state kind payload) := by
  unfold prepareAndAppend
  have hcapsule := engine.prepareEvent_capsule platform state outside.clock kind payload none
  cases hprepare : engine.prepareEvent platform state outside.clock kind payload none with
  | mk result middle =>
    rw [hprepare] at hcapsule
    cases result with
    | error error =>
      rintro ⟨hok, -⟩
      cases hok
    | ok prepared => exact appendPreparedEvent_loud platform outside hcapsule prepared

/-- A row is left out quietly exactly if it can be prepared and is in the ledger. -/
theorem appendRelationship_quiet_iff (engine : Engine Seed) (outside : Outside Seed)
    (state : RuntimeState) (row : RelationshipEstablishedPayload) :
    Quietly state (appendRelationshipEstablishedIfMissing platform engine outside state row) ↔
      (∃ prepared, (engine.prepareEvent platform state outside.clock .relationshipEstablished
        row.toBytes none).1 = .ok prepared) ∧
      eventExistsInRuntime state .relationshipEstablished row.toBytes = true := by
  unfold appendRelationshipEstablishedIfMissing
  have hcapsule := engine.prepareEvent_capsule platform state outside.clock
    .relationshipEstablished row.toBytes none
  cases hprepare : engine.prepareEvent platform state outside.clock .relationshipEstablished
      row.toBytes none with
  | mk result middle =>
    rw [hprepare] at hcapsule
    cases result with
    | error error =>
      refine iff_of_false ?_ (by simp)
      rintro ⟨hok, -⟩
      cases hok
    | ok prepared =>
      obtain ⟨-, hpayload, -⟩ := Engine.prepareEvent_ok platform
        (show (engine.prepareEvent platform state outside.clock .relationshipEstablished
          row.toBytes none).1 = .ok prepared by rw [hprepare])
      dsimp only
      rw [hpayload, eventExists_congr hcapsule]
      by_cases hexists : eventExistsInRuntime state .relationshipEstablished row.toBytes = true
      · rw [if_pos hexists]
        exact iff_of_true ⟨rfl, hcapsule⟩ ⟨⟨prepared, rfl⟩, hexists⟩
      · rw [if_neg hexists]
        exact iff_of_false (appendPreparedEvent_loud platform outside hcapsule prepared)
          fun hrow => hexists hrow.2

variable {bytes : List UInt8} {seed : Seed}

/-- A delivered acceptance is projected only if it names an own offer and comes from
    someone else. -/
theorem projectAccepted_ok {outside : Outside Seed} {messageFrom : PubKey}
    (h : (projectInvitationAcceptedDelivery platform seed outside state messageFrom bytes).1
      = .ok ()) :
    ∃ payload record capsule, InvitationAcceptedPayload.fromBytes bytes = .ok payload ∧
      findInvitationSentInRuntimeWithDirection state payload.invitationId (some false)
        = some record ∧ state.capsule = some capsule ∧ messageFrom ≠ capsule.pubkey := by
  unfold projectInvitationAcceptedDelivery at h
  cases hparse : InvitationAcceptedPayload.fromBytes bytes with
  | error message => simp [hparse] at h
  | ok payload =>
    simp only [hparse] at h
    unfold projectRelationshipFromInvitationAccepted at h
    cases hcapsule : state.capsule with
    | none => simp [hcapsule] at h
    | some capsule =>
      simp only [hcapsule] at h
      split at h
      · simp at h
      rename_i hforeign
      cases hfind : findInvitationSentInRuntimeWithDirection state payload.invitationId
          (some false) with
      | none => simp [hfind] at h
      | some record => exact ⟨payload, record, capsule, rfl, hfind, rfl, hforeign⟩

variable {record : InvitationLookupRecord}

/-- The projection of an acceptance of an own offer is quiet exactly if its row is known. -/
theorem projectAccepted_quiet_iff {outside : Outside Seed} {messageFrom : PubKey}
    {payload : InvitationAcceptedPayload} {capsule : Capsule}
    (hparse : InvitationAcceptedPayload.fromBytes bytes = .ok payload)
    (hfind : findInvitationSentInRuntimeWithDirection state payload.invitationId (some false)
      = some record) (hcapsule : state.capsule = some capsule)
    (hforeign : messageFrom ≠ capsule.pubkey) :
    Quietly state (projectInvitationAcceptedDelivery platform seed outside state messageFrom
      bytes) ↔ RowKnown platform seed outside state messageFrom payload record := by
  unfold projectInvitationAcceptedDelivery RowKnown
  rw [hparse]
  dsimp only
  unfold projectRelationshipFromInvitationAccepted
  simp only [hcapsule, if_neg hforeign, hfind, find_direction hfind, publicKey_buildEngine]
  cases hroot : platform.rootPublicKey seed with
  | none =>
    refine iff_of_false ?_ (by simp)
    rintro ⟨hok, -⟩
    simp at hok
  | some root =>
    simp only [Option.some.injEq, exists_eq_left']
    exact appendRelationship_quiet_iff platform (buildEngine state seed) outside state _

/-- The projection of a rejection of an own offer is quiet exactly if it leaves no live
    starter to burn. -/
theorem projectRejected_quiet_iff {outside : Outside Seed} (hlength : bytes.length = 33)
    (hfind : findInvitationSentInRuntimeWithDirection state (readFixed32 bytes 0) (some false)
      = some record) :
    Quietly state (projectInvitationRejectedDelivery platform seed outside state bytes) ↔
      ∀ payload, InvitationRejectedPayload.fromBytes bytes = .ok payload →
        payload.reason = .emptySlot → starterIsActiveInRuntime state record.starterId = false := by
  unfold projectInvitationRejectedDelivery
  rw [if_pos hlength]
  cases hparse : InvitationRejectedPayload.fromBytes bytes with
  | error message => exact iff_of_true ⟨rfl, rfl⟩ (by simp)
  | ok payload =>
    obtain ⟨-, -, hid⟩ := InvitationRejectedPayload.fromBytes_ok.mp hparse
    dsimp only
    unfold projectEffectsFromInvitationRejected
    simp only [hid, hfind, find_direction hfind, Except.ok.injEq, forall_eq']
    cases payload.reason with
    | other => exact iff_of_true ⟨rfl, rfl⟩ (by simp)
    | emptySlot =>
      simp only [forall_const]
      by_cases hactive : starterIsActiveInRuntime state record.starterId = false
      · rw [if_pos hactive]
        exact iff_of_true ⟨rfl, rfl⟩ hactive
      · rw [if_neg hactive]
        exact iff_of_false (prepareAndAppend_loud platform (buildEngine state seed) outside state
          .starterBurned _) hactive

/-! ### What the ledger keeps -/

/-- What the ledger keeps of an envelope of a kind that took effect. -/
def Remembers (state : RuntimeState) (message : DeliveryEnvelope) (signer : PubKey)
    (kind : EventKind) : Prop :=
  match kind with
  | .invitationAccepted => ∃ payload record capsule,
      InvitationAcceptedPayload.fromBytes message.payload = .ok payload ∧
      invitationIsResolvedInRuntime state (readFixed32 message.payload 0) = true ∧
      findInvitationSentInRuntimeWithDirection state payload.invitationId (some false)
        = some record ∧ state.capsule = some capsule ∧ message.fromPubkey ≠ capsule.pubkey
  | .invitationRejected =>
      (message.payload.length ≠ 33 ∧
        eventExistsInRuntimeWithSigner state .invitationRejected message.payload signer = true) ∨
      ∃ record, message.payload.length = 33 ∧
        invitationIsResolvedInRuntime state (readFixed32 message.payload 0) = true ∧
        findInvitationSentInRuntimeWithDirection state (readFixed32 message.payload 0)
          (some false) = some record
  | .relationshipBroken => state.capsule ≠ none
  | _ => state.capsule ≠ none ∧ eventExistsInRuntimeWithSigner state (localKindOf kind)
      message.payload signer = true

variable {kind : EventKind} {signer : PubKey}

/-- What the ledger keeps it keeps behind more events too. -/
theorem Remembers.grows {state later : RuntimeState} {new : List Event} {message : DeliveryEnvelope}
    (h : Remembers state message signer kind) (hgrows : StateGrows state later new) :
    Remembers later message signer kind := by
  have hcapsule : state.capsule ≠ none → later.capsule ≠ none := by
    intro hsome hnone
    cases hgrows with
    | noCapsule hnone' => exact hsome hnone'
    | capsule _ hafter => rw [hnone] at hafter; cases hafter
  unfold Remembers at h ⊢
  split at h
  · obtain ⟨payload, record, capsule, hparse, hresolved, hfind, hbefore, hforeign⟩ := h
    obtain ⟨record', hfind'⟩ := hgrows.find hfind
    refine ⟨payload, record', ?_⟩
    cases hgrows with
    | noCapsule hnone => rw [hnone] at hbefore; cases hbefore
    | @capsule before after hbefore' hafter hmore =>
      obtain rfl := Option.some.inj (hbefore.symm.trans hbefore')
      refine ⟨after, hparse, ?_, hfind', hafter, by rw [hmore.pubkey]; exact hforeign⟩
      exact (StateGrows.capsule hbefore' hafter hmore).any hresolved
  · rcases h with ⟨hlength, hexists⟩ | ⟨record, hlength, hresolved, hfind⟩
    · exact Or.inl ⟨hlength, hgrows.any hexists⟩
    · obtain ⟨record', hfind'⟩ := hgrows.find hfind
      exact Or.inr ⟨record', hlength, hgrows.any hresolved, hfind'⟩
  · exact hcapsule h
  · exact ⟨hcapsule h.1, hgrows.any h.2⟩

variable {payload : List UInt8}

/-- An event other than a break that the ledger holds from its signer is skipped. -/
theorem shouldSkip_of_exists (hkind : kind ≠ .relationshipBroken)
    (h : eventExistsInRuntimeWithSigner state kind payload signer = true)
    (timestamp : Option UInt64) :
    shouldSkipIncomingDeliveryAppendWithTimestamp state kind payload signer timestamp = true := by
  unfold shouldSkipIncomingDeliveryAppendWithTimestamp
  dsimp only
  rw [h, if_neg hkind]
  split
  · rfl
  split
  · rfl
  split
  · split <;> rfl
  · rfl

variable {timestamp : Option UInt64}

/-- An answer to an own offer is skipped only if the invitation is resolved. -/
theorem resolved_of_skipped {id : InvitationId}
    (hkind : kind = .invitationAccepted ∨ kind = .invitationRejected)
    (hid : invitationIdFromTerminalPayload kind payload = some id)
    (hfind : findInvitationSentInRuntimeWithDirection state id (some false) = some record)
    (h : shouldSkipIncomingDeliveryAppendWithTimestamp state kind payload signer timestamp
      = true) : invitationIsResolvedInRuntime state id = true := by
  by_contra hopen
  have hskip : skipTerminal state kind id signer = false := by
    unfold skipTerminal
    rcases hkind with rfl | rfl <;> simp [hopen, hfind]
  have hexists : eventExistsInRuntimeWithSigner state kind payload signer = true := by
    unfold shouldSkipIncomingDeliveryAppendWithTimestamp at h
    rcases hkind with rfl | rfl <;> simpa [hid, hskip] using h
  -- an answer in the ledger would have resolved the invitation
  unfold eventExistsInRuntimeWithSigner at hexists
  obtain ⟨event, hevent, hsame⟩ := List.any_eq_true.mp hexists
  simp only [Bool.and_eq_true, beq_iff_eq] at hsame
  apply hopen
  unfold invitationIsResolvedInRuntime
  rw [List.any_eq_true]
  exact ⟨event, hevent, by rw [hsame.1.1, hsame.1.2, hid]; exact beq_self_eq_true _⟩

/-- An answer that is not skipped has an own offer. -/
theorem offered_of_not_skipped {id : InvitationId}
    (hkind : kind = .invitationAccepted ∨ kind = .invitationRejected)
    (hid : invitationIdFromTerminalPayload kind payload = some id)
    (h : ¬ shouldSkipIncomingDeliveryAppendWithTimestamp state kind payload signer timestamp
      = true) :
    ∃ record, findInvitationSentInRuntimeWithDirection state id (some false) = some record := by
  rw [← Option.isSome_iff_exists]
  by_contra hnone
  apply h
  have hskip : skipTerminal state kind id signer = true := by
    rw [Option.not_isSome_iff_eq_none] at hnone
    unfold skipTerminal
    rcases hkind with rfl | rfl <;> simp [hnone]
  unfold shouldSkipIncomingDeliveryAppendWithTimestamp
  rcases hkind with rfl | rfl <;> simp [hid, hskip]

/-! ### The effect as a result -/

/-- What the projection of a delivered answer returns. -/
def deliveryResult (seed : Seed) (outside : Outside Seed) (message : DeliveryEnvelope)
    (kind : EventKind) (state : RuntimeState) : Except String Unit × RuntimeState :=
  match kind with
  | .invitationAccepted => projectInvitationAcceptedDelivery platform seed outside state
      message.fromPubkey message.payload
  | .invitationRejected => projectInvitationRejectedDelivery platform seed outside state
      message.payload
  | _ => (.ok (), state)

variable (seed : Seed) (outside : Outside Seed) (message : DeliveryEnvelope) (kind : EventKind)

theorem deliveryResult_state (state : RuntimeState) :
    (deliveryResult platform seed outside message kind state).2
      = deliveryEffect platform seed outside message kind state := by
  cases kind <;> rfl

theorem routeSkipped_consumed_iff (counters : IngressCounters) (state : RuntimeState) :
    (routeSkipped platform seed outside message (localKindOf kind) counters state).disposition
        = .consumed ↔ (deliveryResult platform seed outside message kind state).1 = .ok () := by
  unfold routeSkipped deliveryResult
  cases kind <;> simp only [localKindOf, reduceCtorEq, if_false, if_true]
  · split <;> simp [*]
  · split <;> simp [*]

theorem routeAppended_consumed_iff (counters : IngressCounters) (state : RuntimeState) :
    (routeAppended platform seed outside message kind counters state).disposition = .consumed ↔
      (deliveryResult platform seed outside message kind state).1 = .ok () := by
  unfold routeAppended deliveryResult
  cases kind <;> simp only [reduceCtorEq, if_false, if_true]
  · split <;> simp [*]
  · split <;> simp [*]

/-! ### The first delivery -/

variable {platform seed outside message kind} {state : RuntimeState} {localPubkey : PubKey}
  {event : Event}

/-- The first 32 bytes of a rejection of the usual length are its invitation. -/
private theorem rejectedId (h : bytes.length = 33) :
    invitationIdFromTerminalPayload .invitationRejected bytes = some (readFixed32 bytes 0) :=
  if_pos h

private theorem acceptedId {payload : InvitationAcceptedPayload}
    (h : InvitationAcceptedPayload.fromBytes bytes = .ok payload) :
    payload.invitationId = readFixed32 bytes 0 ∧
      invitationIdFromTerminalPayload .invitationAccepted bytes = some (readFixed32 bytes 0) := by
  obtain ⟨hlength, rfl⟩ := InvitationAcceptedPayload.fromBytes_ok.mp h
  exact ⟨rfl, if_pos hlength⟩

/-- A skipped envelope that adds an event is an answer to a resolved offer. -/
private theorem remembers_of_skipped (hdelivered : Delivered localPubkey state message kind event)
    (hskip : Skipped state message kind event)
    (hok : (deliveryResult platform seed outside message kind state).1 = .ok ())
    (hnew : newEvents state (deliveryEffect platform seed outside message kind state) ≠ []) :
    Remembers state message event.signer kind := by
  have hidle : deliveryEffect platform seed outside message kind state ≠ state := by
    intro hsame
    rw [hsame] at hnew
    exact hnew (by simp [newEvents])
  cases kind with
  | invitationAccepted =>
    obtain ⟨payload, record, capsule, hparse, hfind, hcapsule, hforeign⟩ :=
      projectAccepted_ok platform hok
    obtain ⟨hid, hterminal⟩ := acceptedId hparse
    rw [hid] at hfind
    exact ⟨payload, record, capsule, hparse,
      resolved_of_skipped (Or.inl rfl) hterminal hfind hskip, by rw [hid]; exact hfind, hcapsule,
      hforeign⟩
  | invitationRejected =>
    unfold deliveryEffect deliveryResult at *
    dsimp only at hok hidle
    unfold projectInvitationRejectedDelivery at hok hidle
    split at hok
    · rename_i hlength
      rw [if_pos hlength] at hidle
      split at hok
      · rename_i hparse
        rw [hparse] at hidle
        exact absurd rfl hidle
      · rename_i payload hparse
        obtain ⟨-, -, hid⟩ := InvitationRejectedPayload.fromBytes_ok.mp hparse
        unfold projectEffectsFromInvitationRejected at hok
        cases hfind : findInvitationSentInRuntimeWithDirection state payload.invitationId
            (some false) with
        | none => simp [hfind] at hok
        | some record =>
          rw [hid] at hfind
          exact Or.inr ⟨record, hlength,
            resolved_of_skipped (Or.inr rfl) (rejectedId hlength) hfind hskip, hfind⟩
    · rename_i hlength
      rw [if_neg hlength] at hidle
      exact absurd rfl hidle
  | _ => exact absurd rfl hidle

/-- An envelope that was appended is remembered. -/
private theorem remembers_of_appended {middle : RuntimeState} {stored : Event}
    (hskip : ¬ Skipped state message kind event) (hgrows : StateGrows state middle [stored])
    (hkind : stored.kind = localKindOf kind) (hpayload : stored.payload = message.payload)
    (hsigner : stored.signer = event.signer) (hcapsule : state.capsule ≠ none)
    (hok : (deliveryResult platform seed outside message kind middle).1 = .ok ()) :
    Remembers middle message event.signer kind := by
  have hmem : stored ∈ middle.events := by
    rw [hgrows.events]
    exact List.mem_append_right _ (List.mem_singleton_self stored)
  have hexists : eventExistsInRuntimeWithSigner middle (localKindOf kind) message.payload
      event.signer = true := by
    unfold eventExistsInRuntimeWithSigner
    rw [List.any_eq_true]
    exact ⟨stored, hmem, by simp [hkind, hpayload, hsigner]⟩
  have hresolved : ∀ {id}, invitationIdFromTerminalPayload (localKindOf kind) message.payload
      = some id → invitationIsResolvedInRuntime middle id = true := by
    intro id hid
    unfold invitationIsResolvedInRuntime
    rw [List.any_eq_true]
    exact ⟨stored, hmem, by rw [hkind, hpayload, hid]; exact beq_self_eq_true _⟩
  have hstays : middle.capsule ≠ none := by
    cases hgrows with
    | noCapsule hnone => exact absurd hnone hcapsule
    | capsule _ hafter => rw [hafter]; simp
  cases kind with
  | invitationAccepted =>
    obtain ⟨payload, record, capsule, hparse, hfind, hafter, hforeign⟩ :=
      projectAccepted_ok platform hok
    exact ⟨payload, record, capsule, hparse, hresolved (acceptedId hparse).2, hfind, hafter,
      hforeign⟩
  | invitationRejected =>
    by_cases hlength : message.payload.length = 33
    · obtain ⟨record, hfind⟩ := offered_of_not_skipped (Or.inr rfl) (rejectedId hlength) hskip
      obtain ⟨record', hfind'⟩ := hgrows.find hfind
      exact Or.inr ⟨record', hlength, hresolved (rejectedId hlength), hfind'⟩
    · exact Or.inl ⟨hlength, hexists⟩
  | relationshipBroken => exact hstays
  | _ => exact ⟨hstays, hexists⟩

variable {outside : IngressOutside Seed} {counters : IngressCounters}

/-- **What a first delivery leaves.**  An envelope that was taken and added events is
    remembered. -/
theorem remembers_of_first
    (hconsumed : (routeInboundEnvelope platform seed localPubkey outside message counters
      state).disposition = .consumed)
    (hnew : newEvents state (routeInboundEnvelope platform seed localPubkey outside message
      counters state).state ≠ []) :
    ∃ kind event, Delivered localPubkey state message kind event ∧
      Remembers (routeInboundEnvelope platform seed localPubkey outside message counters
        state).state message event.signer kind := by
  rcases routeInboundEnvelope_gates platform seed localPubkey outside message counters state with
    ⟨-, hsame, -⟩ | ⟨kind, event, counters', hdelivered, hroute⟩
  · rw [hsame] at hnew
    exact absurd (by simp [newEvents]) hnew
  have heffect : ∀ middle, ∃ more, StateGrows middle
      (deliveryEffect platform seed outside.effect message kind middle) more := by
    intro middle
    rcases deliveryEffect_cases platform seed outside.effect message kind middle with
      ⟨-, hgrows⟩ | ⟨added, -, hgrows⟩
    · exact ⟨_, hgrows⟩
    · exact ⟨_, hgrows⟩
  refine ⟨kind, event, hdelivered, ?_⟩
  rw [hroute] at hconsumed hnew ⊢
  by_cases hskip : Skipped state message kind event
  · have hfilter : shouldSkipIncomingDeliveryAppendWithTimestamp state (localKindOf kind)
        message.payload event.signer (some message.timestamp) = true := hskip
    rw [if_pos hfilter] at hconsumed hnew ⊢
    rw [routeSkipped_consumed_iff] at hconsumed
    rw [routeSkipped_state] at hnew ⊢
    obtain ⟨more, hmore⟩ := heffect state
    exact (remembers_of_skipped hdelivered hskip hconsumed hnew).grows hmore
  · have hfilter : ¬ shouldSkipIncomingDeliveryAppendWithTimestamp state (localKindOf kind)
        message.payload event.signer (some message.timestamp) = true := hskip
    rw [if_neg hfilter] at hconsumed hnew ⊢
    obtain ⟨hkind, hpayload⟩ := verifiedEvent_fields hdelivered.proof
    rcases appendVerifiedRuntimeEvent_cases platform outside.append state event with
      ⟨error, herror, -⟩ | ⟨stored, hok, hgrows, hstored, hbytes, hby, -⟩
    · cases happend : appendVerifiedRuntimeEvent platform outside.append state event with
      | mk result middle =>
        rw [happend] at herror hconsumed
        dsimp only at herror
        rw [herror] at hconsumed
        cases hconsumed
    · cases happend : appendVerifiedRuntimeEvent platform outside.append state event with
      | mk result middle =>
        rw [happend] at hok hgrows hconsumed
        dsimp only at hok hgrows
        rw [hok] at hconsumed ⊢
        dsimp only at hconsumed ⊢
        rw [routeAppended_consumed_iff] at hconsumed
        rw [routeAppended_state]
        obtain ⟨more, hmore⟩ := heffect middle
        exact (remembers_of_appended hskip hgrows (hstored.trans hkind) (hbytes.trans hpayload)
          hby hdelivered.hasCapsule hconsumed).grows hmore

/-! ### The second delivery -/

/-- The filter skips a delivered break exactly if it is old or its pair is not related. -/
private theorem skipped_break_iff {localPubkey : PubKey}
    (hdelivered : Delivered localPubkey state message .relationshipBroken event) :
    Skipped state message .relationshipBroken event ↔ ∀ payload,
      RelationshipBrokenPayload.fromBytes message.payload = .ok payload →
      BreakIsOld state ⟨payload.peerPubkey, payload.ownStarterId⟩ message.timestamp ∨
        relationshipKeyIsActiveInRuntime state ⟨payload.peerPubkey, payload.ownStarterId⟩
          = false := by
  have hsigner := hdelivered.signerMatches
  simp only [localKindOf, reduceCtorEq, if_false, proofSignerMatchesPayload, Bool.and_eq_true,
    decide_eq_true_eq, beq_iff_eq] at hsigner
  obtain ⟨hlength, hroot⟩ := hsigner
  have hparse : RelationshipBrokenPayload.fromBytes message.payload = .ok
      ⟨⟨readFixed32 message.payload 0⟩, ⟨readFixed32 message.payload 32⟩,
        some event.signer⟩ := by
    unfold RelationshipBrokenPayload.fromBytes
    rw [if_neg (by omega)]
    have hpeer : readOptionalKey message.payload 96 64 = some event.signer := by
      rw [readOptionalKey, if_pos (by omega), hroot]
    rw [hpeer]
  have hskip : Skipped state message .relationshipBroken event ↔
      skipRelationshipBroken state message.payload event.signer
        (some (normalizeDeliveryTimestamp message.timestamp)) = true := by
    unfold Skipped shouldSkipIncomingDeliveryAppendWithTimestamp
    simp [localKindOf]
  rw [hskip, hparse]
  unfold skipRelationshipBroken BreakIsOld
  rw [hparse]
  simp only [beq_self_eq_true, Bool.true_eq_false, if_false, Except.ok.injEq, forall_eq']
  generalize relationshipKeyLatestTimestampsInRuntime state _ = latest
  generalize relationshipKeyIsActiveInRuntime state _ = active
  obtain ⟨established, broken⟩ := latest
  cases established <;> cases broken <;> cases active <;> simp

variable {outcome : IngressOutcome}

/-- A skipped envelope is quiet exactly if its effect is. -/
private theorem again_skipped (hskip : Skipped state message kind event) (hroute : outcome =
      if shouldSkipIncomingDeliveryAppendWithTimestamp state (localKindOf kind) message.payload
          event.signer (some message.timestamp) then
        routeSkipped platform seed outside.effect message (localKindOf kind) counters state
      else
        match appendVerifiedRuntimeEvent platform outside.append state event with
        | (.error _, state) =>
          { disposition := .retry
            counters := { counters with appendFailed := counters.appendFailed + 1 }
            state := state }
        | (.ok (), state) =>
          routeAppended platform seed outside.effect message kind counters state) :
    outcome.disposition = .consumed ∧ outcome.state.capsule = state.capsule ↔
      Quietly state (deliveryResult platform seed outside.effect message kind state) := by
  rw [hroute, if_pos (show shouldSkipIncomingDeliveryAppendWithTimestamp state (localKindOf kind)
    message.payload event.signer (some message.timestamp) = true from hskip),
    routeSkipped_consumed_iff, routeSkipped_state, ← deliveryResult_state]
  rfl

/-- A break that is not skipped is appended or left for another try. -/
private theorem again_not_skipped (hskip : ¬ Skipped state message .relationshipBroken event)
    (hroute : outcome =
      if shouldSkipIncomingDeliveryAppendWithTimestamp state (localKindOf .relationshipBroken)
          message.payload event.signer (some message.timestamp) then
        routeSkipped platform seed outside.effect message (localKindOf .relationshipBroken)
          counters state
      else
        match appendVerifiedRuntimeEvent platform outside.append state event with
        | (.error _, state) =>
          { disposition := .retry
            counters := { counters with appendFailed := counters.appendFailed + 1 }
            state := state }
        | (.ok (), state) =>
          routeAppended platform seed outside.effect message .relationshipBroken counters state) :
    ¬ (outcome.disposition = .consumed ∧ outcome.state.capsule = state.capsule) := by
  rw [hroute, if_neg (show ¬ shouldSkipIncomingDeliveryAppendWithTimestamp state
    (localKindOf .relationshipBroken) message.payload event.signer (some message.timestamp)
      = true from hskip)]
  rcases appendVerifiedRuntimeEvent_cases platform outside.append state event with
    ⟨error, herror, -⟩ | ⟨stored, hok, hgrows, -⟩
  · split
    · rintro ⟨hconsumed, -⟩
      cases hconsumed
    · rename_i hcase
      rw [hcase] at herror
      cases herror
  · split
    · rename_i hcase
      rw [hcase] at hok
      cases hok
    · rename_i middle hcase
      rw [hcase] at hgrows
      rintro ⟨-, hsame⟩
      rw [routeAppended_state] at hsame
      exact @not_quietly_of_grows state (.ok (), middle) stored hgrows ⟨rfl, hsame⟩

/-- **Redelivery.**  An envelope that was taken and added events is taken again and changes
    nothing, any run later, exactly if the ledger gives it nothing to do then. -/
theorem redelivery_iff {outside : IngressOutside Seed} {counters : IngressCounters}
    (hconsumed : (routeInboundEnvelope platform seed localPubkey outside message counters
      state).disposition = .consumed)
    (hnew : newEvents state (routeInboundEnvelope platform seed localPubkey outside message
      counters state).state ≠ [])
    (calls : List (RuntimeCall Seed)) (seed' : Seed) (localPubkey' : PubKey)
    (outside' : IngressOutside Seed) (counters' : IngressCounters) :
    let later := runCalls platform (routeInboundEnvelope platform seed localPubkey outside message
      counters state).state calls
    let again := routeInboundEnvelope platform seed' localPubkey' outside' message counters' later
    again.disposition = .consumed ∧ again.state.capsule = later.capsule ↔
      ∀ kind event, Delivered localPubkey' later message kind event →
        StaysQuiet platform seed' outside'.effect later message kind := by
  dsimp only
  obtain ⟨kind, event, hfirst, hremembers⟩ := remembers_of_first hconsumed hnew
  have hkept : KeptByAppends platform (fun _ => True)
      fun later => Remembers later message event.signer kind :=
    .of_grows fun hgrows _ hbefore => hbefore.grows hgrows
  have hlater : Remembers (runCalls platform (routeInboundEnvelope platform seed localPubkey outside
      message counters state).state calls) message event.signer kind :=
    runCalls_keeps hkept (fun _ _ _ _ => trivial) hremembers
  revert hlater
  generalize runCalls platform (routeInboundEnvelope platform seed localPubkey outside message
    counters state).state calls = later
  intro hlater
  have hcapsule : later.capsule ≠ none := by
    unfold Remembers at hlater
    split at hlater
    · obtain ⟨_, _, capsule, -, -, -, hsome, -⟩ := hlater
      rw [hsome]
      simp
    · rcases hlater with ⟨-, hexists⟩ | ⟨record, -, -, hfind⟩
      · intro hnone
        simp [eventExistsInRuntimeWithSigner, RuntimeState.events, hnone] at hexists
      · intro hnone
        simp [findInvitationSentInRuntimeWithDirection, hnone] at hfind
    · exact hlater
    · exact hlater.1
  rcases routeInboundEnvelope_gates platform seed' localPubkey' outside' message counters' later
    with ⟨hstopped, hsame, htaken⟩ | ⟨kind', event', counters'', hdelivered, hroute⟩
  · refine iff_of_true ⟨htaken hcapsule ?_, by rw [hsame]⟩
      fun kind event h => absurd h (hstopped kind event)
    rw [hfirst.kindKnown]
    simp
  -- the kind and the event of the envelope are those of the first delivery
  obtain rfl := Option.some.inj (hfirst.kindKnown.symm.trans hdelivered.kindKnown)
  obtain rfl := Except.ok.inj (hfirst.proof.symm.trans hdelivered.proof)
  have hall : (∀ kind' event', Delivered localPubkey' later message kind' event' →
      StaysQuiet platform seed' outside'.effect later message kind') ↔
        StaysQuiet platform seed' outside'.effect later message kind := by
    refine ⟨fun h => h kind event hdelivered, fun h kind' event' hother => ?_⟩
    rw [← Option.some.inj (hdelivered.kindKnown.symm.trans hother.kindKnown)]
    exact h
  rw [hall]
  cases kind with
  | invitationAccepted =>
    obtain ⟨payload, record, capsule, hparse, hresolved, hfind, hsome, hforeign⟩ := hlater
    have hskip : Skipped later message .invitationAccepted event :=
      shouldSkip_of_resolved _ _ (Or.inl rfl) (acceptedId hparse).2 hresolved
    rw [again_skipped hskip hroute]
    apply (projectAccepted_quiet_iff platform hparse hfind hsome hforeign).trans
    refine ⟨fun hrow payload' record' hparse' hfind' => ?_, fun h => h payload record hparse hfind⟩
    obtain rfl := Except.ok.inj (hparse.symm.trans hparse')
    obtain rfl := Option.some.inj (hfind.symm.trans hfind')
    exact hrow
  | invitationRejected =>
    rcases hlater with ⟨hlength, hexists⟩ | ⟨record, hlength, hresolved, hfind⟩
    · have hskip : Skipped later message .invitationRejected event :=
        shouldSkip_of_exists (by simp) hexists _
      rw [again_skipped hskip hroute]
      refine iff_of_true ?_ ?_
      · show Quietly later (projectInvitationRejectedDelivery _ _ _ _ _)
        unfold projectInvitationRejectedDelivery
        rw [if_neg hlength]
        exact ⟨rfl, rfl⟩
      · intro payload record hparse
        exact absurd (InvitationRejectedPayload.fromBytes_ok.mp hparse).1 hlength
    · have hskip : Skipped later message .invitationRejected event :=
        shouldSkip_of_resolved _ _ (Or.inr rfl) (rejectedId hlength) hresolved
      rw [again_skipped hskip hroute]
      apply (projectRejected_quiet_iff platform hlength hfind).trans
      constructor
      · intro h payload record' hparse hfind' hreason
        rw [(InvitationRejectedPayload.fromBytes_ok.mp hparse).2.2, hfind] at hfind'
        rw [← Option.some.inj hfind']
        exact h payload hparse hreason
      · intro h payload hparse hreason
        refine h payload record hparse ?_ hreason
        rw [(InvitationRejectedPayload.fromBytes_ok.mp hparse).2.2]
        exact hfind
  | relationshipBroken =>
    by_cases hskip : Skipped later message .relationshipBroken event
    · rw [again_skipped hskip hroute]
      exact iff_of_true ⟨rfl, rfl⟩ ((skipped_break_iff hdelivered).mp hskip)
    · exact iff_of_false (again_not_skipped hskip hroute)
        fun hquiet => hskip ((skipped_break_iff hdelivered).mpr hquiet)
  | _ =>
    have hskip := shouldSkip_of_exists (by simp [localKindOf]) hlater.2 (some message.timestamp)
    rw [again_skipped hskip hroute]
    exact iff_of_true ⟨rfl, rfl⟩ trivial

end Redelivery

/-! ### A break that is delivered twice -/

def pairSeed : PubKey × PubKey := (⟨fill 32 7⟩, ⟨fill 32 17⟩)

def pairOutside (clock : UInt64) : Outside (PubKey × PubKey) := ⟨some pairSeed, some clock⟩

/-- A relationship with the peer 8, whose root key is 9. -/
def pairRow : RelationshipEstablishedPayload where
  peerPubkey := ⟨fill 32 8⟩
  ownStarterId := ⟨fill 32 3⟩
  peerStarterId := ⟨fill 32 4⟩
  kind := .juice
  invitationId := fill 32 1
  senderPubkey := ⟨fill 32 17⟩
  senderStarterType := .juice
  senderStarterId := ⟨fill 32 3⟩
  peerRootPubkey := some ⟨fill 32 9⟩
  senderRootPubkey := some ⟨fill 32 7⟩

/-- The owner records the relationship at a clock reading. -/
def relateAt (clock : UInt64) : RuntimeCall (PubKey × PubKey) :=
  .ledgerAppendEvent ⟨some pairSeed, pairOutside clock⟩ 7 (some pairRow.toBytes)

/-- The break of the peer, whose clock counts seconds and is ahead. -/
def pairBreak : Event :=
  let unsigned := Event.newV5 .relationshipBroken
    (RelationshipBrokenPayload.toBytes ⟨⟨fill 32 8⟩, ⟨fill 32 3⟩, some ⟨fill 32 9⟩⟩) 1700003600
    ⟨fill 64 0⟩ ⟨fill 32 9⟩
  { unsigned with
    signature := ⟨⟨(unsigned.eventId sampleDigest).toList ++ (fill 32 9 : Bytes 32).toList,
      by simp⟩⟩ }

def pairBreakEnvelope : DeliveryEnvelope where
  fromPubkey := ⟨fill 32 8⟩
  toPubkey := ⟨fill 32 17⟩
  kind := 8
  payload := pairBreak.payload
  timestamp := pairBreak.timestamp
  domainEvent := some ⟨5, 8, pairBreak.signer, pairBreak.signature.bytes.toList⟩

/-- A capsule that is related to the peer. -/
def relatedState : RuntimeState :=
  (relateAt 1700000000100).apply samplePlatform
    (initRuntimeState samplePlatform (some 1700000000000) (fun _ => none) ⟨none, 0⟩ pairSeed
      .neste .leaf .root).2

/-- The delivery of the break at a clock reading. -/
def deliverBreak (clock : UInt64) (state : RuntimeState) : IngressOutcome :=
  routeInboundEnvelope samplePlatform pairSeed pairSeed.2
    ⟨false, false, pairOutside clock, pairOutside clock⟩ pairBreakEnvelope noCounters state

/-- The pair is related again behind the delivered break. -/
def relatedAgainState : RuntimeState :=
  runCalls samplePlatform (deliverBreak 1700000000200 relatedState).state
    [relateAt 1700000000300]

/-- A free birth record, an end that names no offer and an own break of the pair. -/
def betweenCalls : List (RuntimeCall (PubKey × PubKey)) :=
  [.ledgerAppendEvent ⟨some pairSeed, pairOutside 1700000000250⟩ 0 (some [1, 0]),
    .expireInvitation ⟨some pairSeed, pairOutside 1700000000260⟩ (some (fill 32 8)),
    .breakRelationship ⟨some pairSeed, pairOutside 1700000000300⟩ (some ⟨fill 32 8⟩)
      (some ⟨fill 32 3⟩) (some ⟨fill 32 4⟩)]

/-- A delivery is quiet the second time, behind an own break. -/
theorem redelivery_behindBreak :
    let first := deliverBreak 1700000000200 relatedState
    first.disposition = .consumed ∧ newEvents relatedState first.state ≠ [] ∧
      (let later := runCalls samplePlatform first.state betweenCalls
       let again := deliverBreak 1700000000400 later
       newEvents first.state later ≠ [] ∧
         again.disposition = .consumed ∧ again.state.capsule = later.capsule) := by
  have hconsumed : (deliverBreak 1700000000200 relatedState).disposition = .consumed := by
    decide +kernel
  have hnew : newEvents relatedState (deliverBreak 1700000000200 relatedState).state ≠ [] := by
    decide +kernel
  refine ⟨hconsumed, hnew, by decide +kernel, ?_⟩
  unfold deliverBreak at hconsumed hnew ⊢
  apply (redelivery_iff hconsumed hnew betweenCalls pairSeed pairSeed.2
    ⟨false, false, pairOutside 1700000000400, pairOutside 1700000000400⟩ noCounters).mpr
  intro kind event hdelivered
  obtain rfl := Option.some.inj (hdelivered.kindKnown.symm.trans
    (show envelopeEventKind pairBreakEnvelope.kind = some .relationshipBroken by decide +kernel))
  intro payload hparse
  obtain rfl : payload = ⟨⟨fill 32 8⟩, ⟨fill 32 3⟩, some ⟨fill 32 9⟩⟩ :=
    Except.ok.inj (hparse.symm.trans (RelationshipBrokenPayload.fromBytes_toBytes _))
  refine Or.inr ?_
  decide +kernel

/-- **Counterexample.**  The pair is related again behind the break; read as seconds, the break
    is newer than both, so it is not skipped, the ledger refuses the event it holds, and the
    envelope is never taken. -/
theorem relatedAgain_notTaken :
    (deliverBreak 1700000000200 relatedState).disposition = .consumed ∧
    newEvents relatedState (deliverBreak 1700000000200 relatedState).state ≠ [] ∧
    (deliverBreak 1700000000400 relatedAgainState).disposition = .retry := by
  refine ⟨by decide +kernel, by decide +kernel, by decide +kernel⟩

end Hivra
