import Hivra.Ffi.Admission
import Hivra.Ffi.DeliveryFilter

namespace Hivra

open ByteString

/-!
# Local effects of delivered answers

What the host interface appends when a peer's answer to an own offer arrives: a
relationship for an acceptance, a burned starter for a rejection with an empty slot.
The same two functions run for an answer that was just appended and for one that was
skipped.

* `projectRelationship_cases`, `projectEffects_cases` — everything they can do.
-/

section Effects

variable {Seed : Type} (platform : Platform Seed) (engine : Engine Seed)
  (outside : Outside Seed)

/-- Prepare an event of the engine's own and append it. -/
def prepareAndAppend (state : RuntimeState) (kind : EventKind) (payload : List UInt8) :
    Except String Unit × RuntimeState :=
  match engine.prepareEvent platform state outside.clock kind payload none with
  | (.error _, state) => (.error "prepare failed", state)
  | (.ok prepared, state) => appendPreparedEvent platform outside state prepared

/-- The row is appended unless the ledger has its bytes. -/
def appendRelationshipEstablishedIfMissing (state : RuntimeState)
    (row : RelationshipEstablishedPayload) : Except String Unit × RuntimeState :=
  match engine.prepareEvent platform state outside.clock .relationshipEstablished row.toBytes
      none with
  | (.error _, state) => (.error "prepare failed", state)
  | (.ok prepared, state) =>
    if eventExistsInRuntime state .relationshipEstablished prepared.event.payload then
      (.ok (), state)
    else appendPreparedEvent platform outside state prepared

/-- The row of an acceptance that came from a transport key. -/
def acceptedRow (messageFrom : PubKey) (record : InvitationLookupRecord)
    (payload : InvitationAcceptedPayload) (localRootPubkey : PubKey) :
    RelationshipEstablishedPayload where
  peerPubkey := messageFrom
  ownStarterId := record.starterId
  peerStarterId := payload.createdStarterId
  kind := record.starterKind
  invitationId := payload.invitationId
  senderPubkey := payload.fromPubkey
  senderStarterType := record.starterKind
  senderStarterId := record.starterId
  peerRootPubkey := payload.accepterRootPubkey
  senderRootPubkey := some localRootPubkey

/-- The row that a remote acceptance of an own offer asks for. -/
def projectRelationshipFromInvitationAccepted (state : RuntimeState) (messageFrom : PubKey)
    (payload : InvitationAcceptedPayload) : Except String Unit × RuntimeState :=
  match state.capsule with
  | none => (.error "no capsule", state)
  | some capsule =>
    if messageFrom = capsule.pubkey then
      (.error "ignore self InvitationAccepted delivery", state)
    else
      match findInvitationSentInRuntimeWithDirection state payload.invitationId (some false) with
      | none => (.error "matching outgoing invitation not found", state)
      | some record =>
        if record.isIncoming then (.error "matching outgoing invitation not found", state)
        else
          match engine.publicKey platform with
          | none => (.error "prepare failed", state)
          | some localRootPubkey =>
            appendRelationshipEstablishedIfMissing platform engine outside state
              (acceptedRow messageFrom record payload localRootPubkey)

/-- The burn that a remote rejection asks for. -/
def projectEffectsFromInvitationRejected (state : RuntimeState)
    (payload : InvitationRejectedPayload) : Except String Unit × RuntimeState :=
  match findInvitationSentInRuntimeWithDirection state payload.invitationId (some false) with
  | none => (.error "matching outgoing invitation not found", state)
  | some record =>
    if record.isIncoming then (.error "matching outgoing invitation not found", state)
    else
      match payload.reason with
      | .emptySlot =>
        if starterIsActiveInRuntime state record.starterId = false then (.ok (), state)
        else
          prepareAndAppend platform engine outside state .starterBurned
            (StarterBurnedPayload.toBytes ⟨record.starterId, payload.reason.toByte⟩)
      | .other => (.ok (), state)

/-! ### What the projections do -/

/-- The projection of an acceptance has a row to append: the answer does not come from
    the capsule's own key, an outgoing offer of its invitation exists, the row is not in
    the ledger yet, and the runtime takes it. -/
def ProjectsRow (state : RuntimeState) (messageFrom : PubKey)
    (payload : InvitationAcceptedPayload) (row : RelationshipEstablishedPayload) : Prop :=
  (∃ capsule, state.capsule = some capsule ∧ messageFrom ≠ capsule.pubkey) ∧
    ∃ record localRootPubkey,
      findInvitationSentInRuntimeWithDirection state payload.invitationId (some false)
        = some record ∧
      engine.publicKey platform = some localRootPubkey ∧
      row = acceptedRow messageFrom record payload localRootPubkey ∧
      eventExistsInRuntime state .relationshipEstablished row.toBytes = false ∧
      TakesOwn platform engine outside state .relationshipEstablished row.toBytes

/-- The projection of a rejection has a starter to burn: it reports an empty slot, and the
    starter of the outgoing offer is active. -/
def ProjectsBurn (state : RuntimeState) (payload : InvitationRejectedPayload)
    (starterId : StarterId) : Prop :=
  ∃ record,
    findInvitationSentInRuntimeWithDirection state payload.invitationId (some false)
      = some record ∧
    record.starterId = starterId ∧ payload.reason = .emptySlot ∧
    starterIsActiveInRuntime state starterId = true ∧
    TakesOwn platform engine outside state .starterBurned
      (StarterBurnedPayload.toBytes ⟨starterId, RejectReason.emptySlot.toByte⟩)

/-- Prepare an event and append it, unless something about it is found in the runtime. -/
def appendUnless (found : RuntimeState → PreparedEvent → Bool) (state : RuntimeState)
    (kind : EventKind) (payload : List UInt8) : Except String Unit × RuntimeState :=
  match engine.prepareEvent platform state outside.clock kind payload none with
  | (.error _, state) => (.error "prepare failed", state)
  | (.ok prepared, state) =>
    if found state prepared then (.ok (), state)
    else appendPreparedEvent platform outside state prepared

/-- An event is appended when nothing is found and the runtime takes it; otherwise nothing
    changes.  What is found depends on the capsule and the payload. -/
theorem appendUnless_cases {found : RuntimeState → PreparedEvent → Bool} {known : Bool}
    {state : RuntimeState} {kind : EventKind} {payload : List UInt8}
    (hfound : ∀ middle prepared, middle.capsule = state.capsule →
      prepared.event.payload = payload → found middle prepared = known) :
    (¬ (known = false ∧ TakesOwn platform engine outside state kind payload) ∧
      StateGrows state (appendUnless platform engine outside found state kind payload).2 []) ∨
    ((known = false ∧ TakesOwn platform engine outside state kind payload) ∧
      (appendUnless platform engine outside found state kind payload).1 = .ok () ∧
      ∃ event, event.kind = kind ∧ event.payload = payload ∧
        engine.publicKey platform = some event.signer ∧
        StateGrows state (appendUnless platform engine outside found state kind payload).2
          [event]) := by
  unfold appendUnless TakesOwn
  have hcapsule := engine.prepareEvent_capsule platform state outside.clock kind payload none
  cases hprepare : engine.prepareEvent platform state outside.clock kind payload none with
  | mk result state' =>
    rw [hprepare] at hcapsule
    have hstep : StateGrows state state' [] := .of_capsule_eq hcapsule
    cases result with
    | error _ => exact Or.inl ⟨by simp, hstep⟩
    | ok prepared =>
      obtain ⟨hkind, hpayload, hsigner⟩ := Engine.prepareEvent_ok platform
        (show (engine.prepareEvent platform state outside.clock kind payload none).1
          = .ok prepared by rw [hprepare])
      have htakes := (appendPreparedEvent_iff platform outside state' prepared).trans
        (takesPrepared_congr platform hcapsule prepared.event)
      dsimp only
      simp only [Except.ok.injEq, exists_eq_left']
      rw [← htakes, hfound state' prepared hcapsule hpayload]
      cases known with
      | true =>
        rw [if_pos rfl]
        exact Or.inl ⟨by simp, hstep⟩
      | false =>
        rw [if_neg (by simp)]
        rcases appendPreparedEvent_cases platform outside state' prepared with
          ⟨message, herror, hrefused⟩ | ⟨hok, hgrows⟩
        · exact Or.inl ⟨by rw [herror]; simp, hstep.trans (.of_capsule_eq hrefused)⟩
        · exact Or.inr ⟨⟨rfl, hok⟩, hok, prepared.event, hkind, hpayload, hsigner,
            hstep.trans hgrows⟩

/-- An event is prepared and appended when the runtime takes it; otherwise nothing
    changes. -/
theorem prepareAndAppend_cases (state : RuntimeState) (kind : EventKind) (payload : List UInt8) :
    (¬ TakesOwn platform engine outside state kind payload ∧
      StateGrows state (prepareAndAppend platform engine outside state kind payload).2 []) ∨
    (TakesOwn platform engine outside state kind payload ∧
      (prepareAndAppend platform engine outside state kind payload).1 = .ok () ∧
      ∃ event, event.kind = kind ∧ event.payload = payload ∧
        engine.publicKey platform = some event.signer ∧
        StateGrows state (prepareAndAppend platform engine outside state kind payload).2
          [event]) := by
  have hcases := @appendUnless_cases Seed platform engine outside (fun _ _ => false) false state
    kind payload (fun _ _ _ _ => rfl)
  have hsame : prepareAndAppend platform engine outside state kind payload
      = appendUnless platform engine outside (fun _ _ => false) state kind payload := rfl
  rw [hsame]
  simpa using hcases

/-- What the ledger holds under a kind and a payload is read from the capsule. -/
theorem eventExists_congr {state middle : RuntimeState} (h : middle.capsule = state.capsule)
    (kind : EventKind) (payload : List UInt8) :
    eventExistsInRuntime middle kind payload = eventExistsInRuntime state kind payload := by
  unfold eventExistsInRuntime RuntimeState.events
  rw [h]

/-- A row is appended when it is new and the runtime takes it; otherwise nothing changes. -/
theorem appendRelationshipEstablished_cases (state : RuntimeState)
    (row : RelationshipEstablishedPayload) :
    (¬ (eventExistsInRuntime state .relationshipEstablished row.toBytes = false ∧
        TakesOwn platform engine outside state .relationshipEstablished row.toBytes) ∧
      StateGrows state (appendRelationshipEstablishedIfMissing platform engine outside state row).2
        []) ∨
    ((eventExistsInRuntime state .relationshipEstablished row.toBytes = false ∧
        TakesOwn platform engine outside state .relationshipEstablished row.toBytes) ∧
      (appendRelationshipEstablishedIfMissing platform engine outside state row).1 = .ok () ∧
      ∃ event, event.kind = .relationshipEstablished ∧ event.payload = row.toBytes ∧
        engine.publicKey platform = some event.signer ∧
        StateGrows state
          (appendRelationshipEstablishedIfMissing platform engine outside state row).2
          [event]) := by
  apply appendUnless_cases platform engine outside
  intro middle prepared hcapsule hpayload
  rw [hpayload]
  exact eventExists_congr hcapsule .relationshipEstablished row.toBytes

/-- **Effect of an acceptance.**  The projection appends its row when it has one;
    otherwise nothing changes. -/
theorem projectRelationship_cases (state : RuntimeState) (messageFrom : PubKey)
    (payload : InvitationAcceptedPayload) :
    ((∀ row, ¬ ProjectsRow platform engine outside state messageFrom payload row) ∧
      StateGrows state (projectRelationshipFromInvitationAccepted platform engine outside state
        messageFrom payload).2 []) ∨
    ∃ row event, ProjectsRow platform engine outside state messageFrom payload row ∧
      event.kind = .relationshipEstablished ∧ event.payload = row.toBytes ∧
      StateGrows state (projectRelationshipFromInvitationAccepted platform engine outside state
        messageFrom payload).2 [event] := by
  have hsame : StateGrows state state [] := .of_capsule_eq rfl
  unfold projectRelationshipFromInvitationAccepted ProjectsRow
  cases hcapsule : state.capsule with
  | none => exact Or.inl ⟨by simp, hsame⟩
  | some capsule =>
    dsimp only
    by_cases hself : messageFrom = capsule.pubkey
    · rw [if_pos hself]
      exact Or.inl ⟨by simp [hself], hsame⟩
    rw [if_neg hself]
    cases hfind : findInvitationSentInRuntimeWithDirection state payload.invitationId
        (some false) with
    | none => exact Or.inl ⟨by simp, hsame⟩
    | some record =>
      have hdirection : ¬ record.isIncoming = true := by simp [find_direction hfind]
      dsimp only
      rw [if_neg hdirection]
      cases hkey : engine.publicKey platform with
      | none => exact Or.inl ⟨by simp, hsame⟩
      | some localRootPubkey =>
        dsimp only
        rcases appendRelationshipEstablished_cases platform engine outside state
          (acceptedRow messageFrom record payload localRootPubkey) with
          ⟨hrefused, hnone⟩ | ⟨htaken, -, event, hkind, hpayload, -, hgrows⟩
        · refine Or.inl ⟨?_, hnone⟩
          rintro row ⟨-, record', root, hrecord, hroot, rfl, hrow⟩
          rw [← Option.some.inj hrecord, ← Option.some.inj hroot] at hrow
          exact hrefused hrow
        · exact Or.inr ⟨_, event, ⟨⟨capsule, rfl, hself⟩, record, localRootPubkey, rfl, rfl, rfl,
            htaken⟩, hkind, hpayload, hgrows⟩

/-- **Effect of a rejection.**  The projection burns the offered starter when it has one
    to burn; otherwise nothing changes. -/
theorem projectEffects_cases (state : RuntimeState) (payload : InvitationRejectedPayload) :
    ((∀ starterId, ¬ ProjectsBurn platform engine outside state payload starterId) ∧
      StateGrows state
        (projectEffectsFromInvitationRejected platform engine outside state payload).2 []) ∨
    ∃ starterId event, ProjectsBurn platform engine outside state payload starterId ∧
      event.kind = .starterBurned ∧
      event.payload = StarterBurnedPayload.toBytes ⟨starterId, RejectReason.emptySlot.toByte⟩ ∧
      StateGrows state
        (projectEffectsFromInvitationRejected platform engine outside state payload).2
        [event] := by
  have hsame : StateGrows state state [] := .of_capsule_eq rfl
  unfold projectEffectsFromInvitationRejected ProjectsBurn
  cases hfind : findInvitationSentInRuntimeWithDirection state payload.invitationId
      (some false) with
  | none => exact Or.inl ⟨by simp, hsame⟩
  | some record =>
    have hdirection : ¬ record.isIncoming = true := by simp [find_direction hfind]
    dsimp only
    rw [if_neg hdirection]
    simp only [Option.some.injEq]
    cases hreason : payload.reason with
    | other => exact Or.inl ⟨by simp, hsame⟩
    | emptySlot =>
      dsimp only
      by_cases hactive : starterIsActiveInRuntime state record.starterId = false
      · rw [if_pos hactive]
        refine Or.inl ⟨?_, hsame⟩
        rintro _ ⟨_, rfl, rfl, -, hother, -⟩
        simp [hactive] at hother
      · rw [if_neg hactive]
        rcases prepareAndAppend_cases platform engine outside state .starterBurned
          (StarterBurnedPayload.toBytes ⟨record.starterId, RejectReason.emptySlot.toByte⟩) with
          ⟨hrefused, hnone⟩ | ⟨htaken, -, event, hkind, hpayload, -, hgrows⟩
        · refine Or.inl ⟨?_, hnone⟩
          rintro _ ⟨_, rfl, rfl, -, -, htakes⟩
          exact hrefused htakes
        · exact Or.inr ⟨record.starterId, event,
            ⟨record, rfl, rfl, rfl, by simpa using hactive, htaken⟩, hkind, hpayload, hgrows⟩

end Effects

end Hivra
