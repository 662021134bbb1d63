import Hivra.Ffi.LocalCalls

namespace Hivra

open ByteString

/-!
# What the local calls do

A local call appends at most one event, which has the kind and the payload of the call and
the key of the stored seed; otherwise it leaves the capsule alone.
-/

section Specs

variable {Seed : Type} (platform : Platform Seed)

/-- An event that an engine with this seed prepared. -/
structure OwnEvent (seed : Seed) (kind : EventKind) (payload : List UInt8) (event : Event) :
    Prop where
  kind : event.kind = kind
  payload : event.payload = payload
  signer : platform.rootPublicKey seed = some event.signer

/-- The engine prepares an event for a recipient, and the runtime takes it. -/
def TakesOwnFor (engine : Engine Seed) (outside : Outside Seed) (state : RuntimeState)
    (recipient : Option PubKey) (kind : EventKind) (payload : List UInt8) : Prop :=
  ∃ prepared, (engine.prepareEvent platform state outside.clock kind payload recipient).1
      = .ok prepared ∧ TakesPrepared platform outside state prepared.event

/-- The call for a rejection gets to append it. -/
def RejectionTaken (outside : CallOutside Seed) (state : RuntimeState)
    (invitationId : InvitationId) (reason : RejectReason) : Prop :=
  ∃ seed record, outside.loadSeed = some seed ∧
    findInvitationSentInRuntime state invitationId = some record ∧
    eventExistsInRuntime state .invitationRejected
      (InvitationRejectedPayload.toBytes ⟨invitationId, reason⟩) = false ∧
    TakesOwnFor platform (buildEngine state seed) outside.append state (some record.peerPubkey)
      .invitationRejected (InvitationRejectedPayload.toBytes ⟨invitationId, reason⟩)

/-- The call for a cancel gets to append it. -/
def CancelTaken (outside : CallOutside Seed) (state : RuntimeState)
    (invitationId : InvitationId) : Prop :=
  ∃ seed record, outside.loadSeed = some seed ∧
    invitationIsResolvedInRuntime state invitationId = false ∧
    findInvitationSentInRuntime state invitationId = some record ∧ record.isIncoming = false ∧
    TakesOwnFor platform (buildEngine state seed) outside.append state none
      .invitationExpired (InvitationExpiredPayload.toBytes ⟨invitationId⟩)

/-- The event that a break appends, if it appends one. -/
def BreakEvent (outside : CallOutside Seed) (state : RuntimeState) (peerPubkey : PubKey)
    (ownStarterId peerStarterId : StarterId) (event : Event) : Prop :=
  ∃ seed prepared, outside.loadSeed = some seed ∧
    ((buildEngine state seed).prepareEvent platform state outside.append.clock .relationshipBroken
      (RelationshipBrokenPayload.toBytes ⟨peerPubkey, ownStarterId,
        peerRootForRelationship state peerPubkey ownStarterId peerStarterId⟩) none).1
      = .ok prepared ∧ prepared.event = event

variable {platform}

/-- A lookup finds nothing where there is no capsule. -/
theorem capsule_of_found {state : RuntimeState} {invitationId : InvitationId}
    {record : InvitationLookupRecord}
    (h : findInvitationSentInRuntime state invitationId = some record) : state.capsule ≠ none := by
  intro hnone
  rw [findInvitationSentInRuntime, findInvitationSentInRuntimeWithDirection, hnone] at h
  cases h

variable {recipient : Option PubKey} {outside : Outside Seed}

/-- Preparing and appending: either the event is taken and added, or nothing is. -/
theorem ownAppend_cases {seed : Seed} {state : RuntimeState} {kind : EventKind}
    {payload : List UInt8} {prepared : PreparedEvent} {middle : RuntimeState}
    (h : (buildEngine state seed).prepareEvent platform state outside.clock kind payload recipient
      = (.ok prepared, middle)) :
    (∃ message state', appendPreparedEvent platform outside middle prepared = (.error message, state')
        ∧ state'.capsule = state.capsule ∧
        ¬ TakesOwnFor platform (buildEngine state seed) outside state recipient kind payload) ∨
      (∃ state', appendPreparedEvent platform outside middle prepared = (.ok (), state') ∧
        StateGrows state state' [prepared.event] ∧ OwnEvent platform seed kind payload prepared.event
        ∧ TakesOwnFor platform (buildEngine state seed) outside state recipient kind payload) := by
  have hmiddle : middle.capsule = state.capsule := by
    have hkept := Engine.prepareEvent_capsule platform (buildEngine state seed) state outside.clock
      kind payload recipient
    rw [h] at hkept
    exact hkept
  have hprepared : ((buildEngine state seed).prepareEvent platform state outside.clock kind payload
      recipient).1 = .ok prepared := by rw [h]
  obtain ⟨hkind, hpayload, hkey⟩ := Engine.prepareEvent_ok platform hprepared
  rw [publicKey_buildEngine] at hkey
  have htakes : (appendPreparedEvent platform outside middle prepared).1 = .ok () ↔
      TakesOwnFor platform (buildEngine state seed) outside state recipient kind payload := by
    rw [appendPreparedEvent_iff, takesPrepared_congr platform hmiddle]
    constructor
    · intro htaken
      exact ⟨prepared, hprepared, htaken⟩
    · rintro ⟨other, hother, htaken⟩
      rw [hprepared] at hother
      rw [Except.ok.inj hother]
      exact htaken
  rcases happend : appendPreparedEvent platform outside middle prepared with ⟨result, state'⟩
  rcases appendPreparedEvent_cases platform outside middle prepared with
    ⟨message, herror, hcapsule⟩ | ⟨hok, hgrows⟩
  · rw [happend] at herror hcapsule htakes
    have hresult : result = .error message := herror
    rw [hresult] at htakes ⊢
    refine Or.inl ⟨message, state', rfl, hcapsule.trans hmiddle, ?_⟩
    intro htaken
    cases htakes.mpr htaken
  · rw [happend] at hok hgrows htakes
    have hresult : result = .ok () := hok
    rw [hresult] at htakes ⊢
    refine Or.inr ⟨state', rfl, ?_, ⟨hkind, hpayload, hkey⟩, htakes.mp rfl⟩
    exact (StateGrows.of_capsule_eq hmiddle).trans hgrows

/-- Nothing is taken where the engine does not prepare the event. -/
theorem not_takesOwnFor {engine : Engine Seed} {state middle : RuntimeState} {kind : EventKind}
    {payload : List UInt8} {error : EngineError}
    (h : engine.prepareEvent platform state outside.clock kind payload recipient
      = (.error error, middle)) :
    middle.capsule = state.capsule ∧
      ¬ TakesOwnFor platform engine outside state recipient kind payload := by
  have hkept := Engine.prepareEvent_capsule platform engine state outside.clock kind payload
    recipient
  rw [h] at hkept
  refine ⟨hkept, ?_⟩
  rintro ⟨prepared, hprepared, -⟩
  rw [h] at hprepared
  cases hprepared

/-- **The outcomes of a rejection.** -/
theorem hivraRejectInvitation_cases (outside : CallOutside Seed) (state : RuntimeState)
    (invitationId : InvitationId) {byte : UInt8} {reason : RejectReason}
    (hreason : RejectReason.fromU8 byte = .ok reason) :
    ((hivraRejectInvitation platform outside state (some invitationId) byte).2.capsule
        = state.capsule ∧ ¬ RejectionTaken platform outside state invitationId reason) ∨
      ∃ seed event, outside.loadSeed = some seed ∧
        RejectionTaken platform outside state invitationId reason ∧
        (hivraRejectInvitation platform outside state (some invitationId) byte).1 = 0 ∧
        StateGrows state (hivraRejectInvitation platform outside state (some invitationId) byte).2
          [event] ∧
        OwnEvent platform seed .invitationRejected
          (InvitationRejectedPayload.toBytes ⟨invitationId, reason⟩) event := by
  unfold hivraRejectInvitation
  dsimp only
  rw [hreason]
  dsimp only
  cases hseed : outside.loadSeed with
  | none =>
    refine Or.inl ⟨rfl, ?_⟩
    rintro ⟨seed, -, hloaded, -⟩
    rw [hseed] at hloaded
    cases hloaded
  | some seed =>
    dsimp only
    split_ifs with hcapsule
    · refine Or.inl ⟨rfl, ?_⟩
      rintro ⟨-, record, -, hfound, -⟩
      exact capsule_of_found hfound hcapsule
    · cases hfound : findInvitationSentInRuntime state invitationId with
      | none =>
        refine Or.inl ⟨rfl, ?_⟩
        rintro ⟨-, record, -, hother, -⟩
        rw [hfound] at hother
        cases hother
      | some record =>
        dsimp only
        split
        · rename_i error middle hprepare
          obtain ⟨hkept, hnot⟩ := not_takesOwnFor hprepare
          refine Or.inl ⟨hkept, ?_⟩
          rintro ⟨seed', record', hseed', hfound', -, htaken⟩
          rw [hseed, Option.some.injEq] at hseed'
          rw [hfound, Option.some.injEq] at hfound'
          subst hseed' hfound'
          exact hnot htaken
        · rename_i prepared middle hprepare
          have hmiddle : middle.capsule = state.capsule := by
            have hkept := Engine.prepareEvent_capsule platform (buildEngine state seed) state
              outside.append.clock .invitationRejected
              (InvitationRejectedPayload.toBytes ⟨invitationId, reason⟩) (some record.peerPubkey)
            rw [hprepare] at hkept
            exact hkept
          have hpayload : prepared.event.payload
              = InvitationRejectedPayload.toBytes ⟨invitationId, reason⟩ :=
            (Engine.prepareEvent_ok platform (by rw [hprepare])).2.1
          have hexists : eventExistsInRuntime middle .invitationRejected prepared.event.payload
              = eventExistsInRuntime state .invitationRejected
                (InvitationRejectedPayload.toBytes ⟨invitationId, reason⟩) := by
            rw [hpayload, eventExists_congr hmiddle]
          rw [hexists]
          split_ifs with hthere
          · refine Or.inl ⟨hmiddle, ?_⟩
            rintro ⟨-, -, -, -, hnew, -⟩
            rw [hthere] at hnew
            cases hnew
          · rcases ownAppend_cases hprepare with ⟨message, state', happend, hkept, hnot⟩ |
                ⟨state', happend, hgrows, hown, htaken⟩
            · rw [happend]
              refine Or.inl ⟨hkept, ?_⟩
              rintro ⟨seed', record', hseed', hfound', -, htaken⟩
              rw [hseed, Option.some.injEq] at hseed'
              rw [hfound, Option.some.injEq] at hfound'
              subst hseed' hfound'
              exact hnot htaken
            · rw [happend]
              exact Or.inr ⟨seed, prepared.event, rfl,
                ⟨seed, record, hseed, hfound, by simpa using hthere, htaken⟩, rfl, hgrows, hown⟩

/-- **The outcomes of a cancel.** -/
theorem hivraExpireInvitation_cases (outside : CallOutside Seed) (state : RuntimeState)
    (invitationId : InvitationId) :
    ((hivraExpireInvitation platform outside state (some invitationId)).2.capsule = state.capsule ∧
        ¬ CancelTaken platform outside state invitationId) ∨
      ∃ seed event, CancelTaken platform outside state invitationId ∧
        (hivraExpireInvitation platform outside state (some invitationId)).1 = 0 ∧
        StateGrows state (hivraExpireInvitation platform outside state (some invitationId)).2
          [event] ∧
        OwnEvent platform seed .invitationExpired
          (InvitationExpiredPayload.toBytes ⟨invitationId⟩) event := by
  unfold hivraExpireInvitation
  dsimp only
  by_cases hresolved : invitationIsResolvedInRuntime state invitationId = true
  · rw [if_pos hresolved]
    refine Or.inl ⟨rfl, ?_⟩
    rintro ⟨-, -, -, hopen, -⟩
    rw [hresolved] at hopen
    cases hopen
  rw [if_neg hresolved]
  cases hfound : findInvitationSentInRuntime state invitationId with
  | none =>
    refine Or.inl ⟨rfl, ?_⟩
    rintro ⟨-, record, -, -, hother, -⟩
    rw [hfound] at hother
    cases hother
  | some record =>
    dsimp only
    have hsame : ∀ other, findInvitationSentInRuntime state invitationId = some other →
        other = record := fun other hother => (Option.some.inj (hfound.symm.trans hother)).symm
    by_cases hincoming : record.isIncoming = true
    · rw [if_pos hincoming]
      refine Or.inl ⟨rfl, ?_⟩
      rintro ⟨-, other, -, -, hother, hout, -⟩
      rw [hsame other hother, hincoming] at hout
      cases hout
    rw [if_neg hincoming]
    cases hseed : outside.loadSeed with
    | none =>
      refine Or.inl ⟨rfl, ?_⟩
      rintro ⟨seed, -, hloaded, -⟩
      rw [hseed] at hloaded
      cases hloaded
    | some seed =>
      dsimp only
      have hnone : ¬ TakesOwnFor platform (buildEngine state seed) outside.append state none
          .invitationExpired (InvitationExpiredPayload.toBytes ⟨invitationId⟩) →
          ¬ CancelTaken platform outside state invitationId := by
        rintro hnot ⟨other, -, hother, -, -, -, htaken⟩
        rw [hseed, Option.some.injEq] at hother
        subst hother
        exact hnot htaken
      split
      · rename_i error middle hprepare
        obtain ⟨hkept, hnot⟩ := not_takesOwnFor hprepare
        exact Or.inl ⟨hkept, hnone hnot⟩
      · rename_i prepared middle hprepare
        rcases ownAppend_cases hprepare with ⟨message, state', happend, hkept, hnot⟩ |
            ⟨state', happend, hgrows, hown, htaken⟩
        · rw [happend]
          exact Or.inl ⟨hkept, hnone hnot⟩
        · rw [happend]
          exact Or.inr ⟨seed, prepared.event, ⟨seed, record, hseed, by simpa using hresolved, hfound,
            by simpa using hincoming, htaken⟩, rfl, hgrows, hown⟩

/-- **The outcomes of a break.** -/
theorem breakRelationship_cases (outside : CallOutside Seed) (state : RuntimeState)
    (peerPubkey : PubKey) (ownStarterId peerStarterId : StarterId) :
    ((breakRelationshipWithDeliveryReference platform outside state (some peerPubkey)
        (some ownStarterId) (some peerStarterId)).code ≠ 0 ∧
      (breakRelationshipWithDeliveryReference platform outside state (some peerPubkey)
        (some ownStarterId) (some peerStarterId)).deliveryReference = none ∧
      (breakRelationshipWithDeliveryReference platform outside state (some peerPubkey)
        (some ownStarterId) (some peerStarterId)).state.capsule = state.capsule) ∨
      ∃ event, BreakEvent platform outside state peerPubkey ownStarterId peerStarterId event ∧
        (breakRelationshipWithDeliveryReference platform outside state (some peerPubkey)
          (some ownStarterId) (some peerStarterId)).code = 0 ∧
        (breakRelationshipWithDeliveryReference platform outside state (some peerPubkey)
          (some ownStarterId) (some peerStarterId)).deliveryReference
            = some (event.eventId platform.sha256) ∧
        StateGrows state (breakRelationshipWithDeliveryReference platform outside state
          (some peerPubkey) (some ownStarterId) (some peerStarterId)).state [event] := by
  unfold breakRelationshipWithDeliveryReference
  dsimp only
  cases hseed : outside.loadSeed with
  | none => exact Or.inl ⟨by simp, rfl, rfl⟩
  | some seed =>
    dsimp only
    split
    · rename_i error middle hprepare
      exact Or.inl ⟨by simp, rfl, (not_takesOwnFor hprepare).1⟩
    · rename_i prepared middle hprepare
      rcases ownAppend_cases hprepare with ⟨message, state', happend, hkept, -⟩ |
          ⟨state', happend, hgrows, -, -⟩
      · rw [happend]
        exact Or.inl ⟨by simp, rfl, hkept⟩
      · rw [happend]
        refine Or.inr ⟨prepared.event, ⟨seed, prepared, hseed, ?_, rfl⟩, rfl, rfl, hgrows⟩
        rw [hprepare]

end Specs

end Hivra
