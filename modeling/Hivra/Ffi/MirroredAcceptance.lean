import Hivra.Core.PairFacts
import Hivra.Ffi.OneTerminal

namespace Hivra

open ByteString Replay

/-!
# The two sides of an acceptance

The receiver of an offer accepts it and writes a relationship row out of its plan; the sender
takes the acceptance in and writes a row out of its own offer and the payload.  Nothing but
the payload passes between them.

* `receiver_writes`, `sender_writes` — the row each side writes.
-/

/-! ### Alive invitations -/

/-- The ledger does not hold the invitation rejected or expired. -/
def AliveIn (state : RuntimeState) (id : InvitationId) : Prop :=
  ∀ record, recordIn state id = some record → record.isDead = false

variable {record : InvitationRecord}

/-- Only a rejection or an expiry kills a record. -/
theorem respond_alive {owner : PubKey} {event : Event}
    (hrejected : event.kind ≠ .invitationRejected) (hexpired : event.kind ≠ .invitationExpired)
    (h : record.isDead = false) : (respond owner event record).isDead = false := by
  unfold respond
  split
  · rename_i id terminal hterminal
    split_ifs
    · rcases applyTerminal_cases owner event terminal record with
        ⟨-, -, heq⟩ | ⟨-, flag, -, ⟨heq, -⟩ | ⟨-, heq⟩⟩
      · rw [heq]
        exact h
      · rw [heq]
        exact h
      · -- the one terminal that is left is an acceptance
        rw [heq]
        unfold terminalStatus at hterminal
        unfold InvitationRecord.isDead
        cases hkind : event.kind with
        | invitationAccepted =>
          rw [hkind] at hterminal
          dsimp only at hterminal
          split at hterminal
          · rw [← (Prod.mk.inj (Option.some.inj hterminal)).2]
          · cases hterminal
        | invitationRejected => exact absurd hkind hrejected
        | invitationExpired => exact absurd hkind hexpired
        | _ => rw [hkind] at hterminal; cases hterminal
    · exact h
  · exact h

variable {id : InvitationId}

/-- One event that is no rejection and no expiry. -/
theorem find_alive_step {owner : PubKey} {events : List Event} {event : Event}
    (hrejected : event.kind ≠ .invitationRejected) (hexpired : event.kind ≠ .invitationExpired)
    (h : ∀ record, (projectInvitations owner events).find? (fun record =>
      record.invitationId == id) = some record → record.isDead = false)
    (hfind : (projectInvitations owner (events ++ [event])).find? (fun record =>
      record.invitationId == id) = some record) : record.isDead = false := by
  rw [projectInvitations_snoc] at hfind
  cases hold : (projectInvitations owner events).find? fun record =>
      record.invitationId == id with
  | some old =>
    have hstep := @find_record_step owner event _ (invitation_ids_nodup owner events) id old hold
    rw [hstep] at hfind
    rw [← Option.some.inj hfind]
    exact respond_alive hrejected hexpired (h old hold)
  | none =>
    have hnone : ((projectInvitations owner events).map (respond owner event)).find? (fun record =>
        record.invitationId == id) = none := by
      rw [List.find?_eq_none] at hold ⊢
      intro answered hanswered
      obtain ⟨old, hmem, rfl⟩ := List.mem_map.mp hanswered
      rw [InvitationRecord.invitationId_of_asOffered (respond_asOffered owner event old)]
      exact hold old hmem
    rcases invitationStep_eq_map owner (invitation_ids_nodup owner events) event with
      ⟨heq, -⟩ | ⟨payload, -, -, heq⟩
    · rw [heq, hnone] at hfind
      cases hfind
    · -- a new record is pending
      rw [heq, List.find?_append, hnone, Option.none_or] at hfind
      rw [List.mem_singleton.mp (List.mem_of_find?_eq_some hfind)]
      rfl

variable {state state' : RuntimeState}

/-- An invitation stays alive over events that are no rejections and no expiries. -/
theorem AliveIn.grows {new : List Event} (h : AliveIn state id)
    (hgrows : StateGrows state state' new)
    (hnew : ∀ event ∈ new, event.kind ≠ .invitationRejected ∧ event.kind ≠ .invitationExpired) :
    AliveIn state' id := by
  cases hgrows with
  | noCapsule _ hnone _ =>
    intro record hrecord
    rw [recordIn, hnone] at hrecord
    cases hrecord
  | @capsule capsule capsule' hcapsule hcapsule' hgrows =>
    have howner : capsule'.ledger.owner = capsule.ledger.owner := hgrows.pubkey
    have hstart : ∀ record, (projectInvitations capsule.ledger.owner capsule.ledger.events).find?
        (fun record => record.invitationId == id) = some record → record.isDead = false := by
      intro record hfind
      exact h record (by rw [recordIn, hcapsule]; exact hfind)
    have hall : ∀ record, (projectInvitations capsule.ledger.owner
        (capsule.ledger.events ++ new)).find? (fun record => record.invitationId == id)
          = some record → record.isDead = false := by
      clear hgrows
      induction new using List.reverseRecOn with
      | nil => simpa using hstart
      | append_singleton new event ih =>
        obtain ⟨hrejected, hexpired⟩ := hnew event (by simp)
        intro record hfind
        rw [← List.append_assoc] at hfind
        exact find_alive_step hrejected hexpired
          (ih fun earlier hearlier => hnew earlier (List.mem_append_left _ hearlier)) hfind
    intro record hrecord
    rw [recordIn, hcapsule'] at hrecord
    apply hall record
    rw [← howner, ← hgrows.events]
    exact hrecord

/-- An invitation without a terminal is alive. -/
theorem aliveIn_of_unresolved {state : RuntimeState}
    (h : invitationIsResolvedInRuntime state id = false) : AliveIn state id := by
  intro record hrecord
  have hpending := pending_of_unresolved hrecord h
  unfold InvitationRecord.isDead
  rw [hpending]

/-! ### The offer both sides look up -/

/-- The first offer of the invitation in a direction, which is the one a lookup returns. -/
def LooksUp (state : RuntimeState) (id : InvitationId) (incoming : Bool) (offer : Event) : Prop :=
  ∃ capsule, state.capsule = some capsule ∧
    capsule.ledger.events.find? (fun event =>
      (invitationCandidate capsule id (some incoming) event).isSome) = some offer

/-- What an offer says: the invitation, the starter with its kind, the receiver's transport key
    and both keys of the sender. -/
structure OfferTerms where
  invitationId : InvitationId
  starterId : StarterId
  kind : StarterKind
  toPubkey : PubKey
  senderRoot : PubKey
  senderTransport : PubKey
  cardSignature : Option (Bytes 64)
  deriving DecidableEq

/-- The payload of the offer, as an offer is sent. -/
def OfferTerms.payload (terms : OfferTerms) : List UInt8 :=
  InvitationSentPayload.toBytes
      ⟨terms.invitationId, terms.starterId, terms.toPubkey, some terms.senderRoot⟩ ++
    offerExtension terms.kind terms.senderTransport terms.cardSignature

/-- What stands behind the kind of the starter. -/
def OfferTerms.tail (terms : OfferTerms) : List UInt8 :=
  terms.senderTransport.bytes.toList ++
    match terms.cardSignature with
    | some signature => signature.toList
    | none => []

theorem OfferTerms.payload_eq (terms : OfferTerms) :
    terms.payload = terms.invitationId.toList ++ terms.starterId.bytes.toList ++
      terms.toPubkey.bytes.toList ++ terms.senderRoot.bytes.toList ++
      (terms.kind.toByte :: terms.tail) := rfl

theorem OfferTerms.length_payload (terms : OfferTerms) :
    terms.payload.length = 161 ∨ terms.payload.length = 225 := by
  rw [payload_eq, tail]
  cases terms.cardSignature <;> simp

/-- What the readers find in the payload of an offer. -/
theorem OfferTerms.payload_fields (terms : OfferTerms) :
    readFixed32 terms.payload 32 = terms.starterId.bytes ∧
    invitationPayloadSenderRoot terms.payload = some terms.senderRoot ∧
    invitationPayloadStarterKind terms.payload = some terms.kind ∧
    invitationPayloadSenderTransport terms.payload = some terms.senderTransport := by
  have hlength := terms.length_payload
  refine ⟨?_, ?_, ?_, ?_⟩
  · have hread := readFixed32_append 32 terms.invitationId.toList
      (terms.toPubkey.bytes.toList ++ (terms.senderRoot.bytes.toList ++
        (terms.kind.toByte :: terms.tail))) terms.starterId.bytes (by simp)
    rw [payload_eq]
    simpa only [List.append_assoc] using hread
  · have hread := readFixed32_append 96 (terms.invitationId.toList ++
      terms.starterId.bytes.toList ++ terms.toPubkey.bytes.toList)
      (terms.kind.toByte :: terms.tail) terms.senderRoot.bytes (by simp)
    rw [invitationPayloadSenderRoot, readOptionalKey, if_pos (by omega), payload_eq]
    simp only [List.append_assoc] at hread ⊢
    rw [hread]
  · have hread := byteAt_append (terms.invitationId.toList ++ terms.starterId.bytes.toList ++
      terms.toPubkey.bytes.toList ++ terms.senderRoot.bytes.toList) terms.tail terms.kind.toByte
      (show _ = 128 by simp)
    rw [invitationPayloadStarterKind, if_neg (by omega), if_pos (by omega), payload_eq, hread]
    exact StarterKind.fromU8_toByte terms.kind
  · have hread := readFixed32_append 129 (terms.invitationId.toList ++
      terms.starterId.bytes.toList ++ terms.toPubkey.bytes.toList ++
      terms.senderRoot.bytes.toList ++ [terms.kind.toByte])
      (match terms.cardSignature with
        | some signature => signature.toList
        | none => []) terms.senderTransport.bytes (by simp)
    rw [invitationPayloadSenderTransport, if_neg (by omega), payload_eq, tail]
    simp only [List.append_assoc, List.cons_append, List.nil_append] at hread ⊢
    rw [hread]

/-- Whether an event is an offer in a direction depends on the key of the capsule alone. -/
theorem candidate_isSome_congr {capsule capsule' : Capsule} (h : capsule'.pubkey = capsule.pubkey)
    (id : InvitationId) (incoming : Bool) (event : Event) :
    (invitationCandidate capsule' id (some incoming) event).isSome =
      (invitationCandidate capsule id (some incoming) event).isSome := by
  unfold invitationCandidate
  dsimp only
  rw [h]
  split_ifs <;> rfl

/-- What is appended stands behind the first offer. -/
theorem LooksUp.grows {new : List Event} {incoming : Bool} {offer : Event}
    (h : LooksUp state id incoming offer) (hgrows : StateGrows state state' new) :
    LooksUp state' id incoming offer := by
  obtain ⟨capsule, hcapsule, hfind⟩ := h
  cases hgrows with
  | noCapsule hnone _ _ => rw [hnone] at hcapsule; cases hcapsule
  | @capsule capsule₁ capsule' hcapsule₁ hcapsule' hgrows =>
    obtain rfl := Option.some.inj (hcapsule.symm.trans hcapsule₁)
    refine ⟨capsule', hcapsule', ?_⟩
    have hsame : (fun event => (invitationCandidate capsule' id (some incoming) event).isSome)
        = fun event => (invitationCandidate capsule id (some incoming) event).isSome := by
      ext event
      rw [candidate_isSome_congr hgrows.pubkey]
    rw [hgrows.events, hsame, List.find?_append, hfind]
    rfl

/-- **The lookup of an offer.**  Each side reads the terms that were sent. -/
theorem LooksUp.lookup {state : RuntimeState} {incoming : Bool} {offer : Event}
    {terms : OfferTerms} (h : LooksUp state terms.invitationId incoming offer)
    (hpayload : offer.payload = terms.payload) :
    ∃ record, findInvitationSentInRuntimeWithDirection state terms.invitationId (some incoming)
        = some record ∧
      record.starterId = terms.starterId ∧ record.starterKind = terms.kind ∧
      record.senderRootPubkey = some terms.senderRoot ∧
      (incoming = true → record.peerPubkey = terms.senderTransport) := by
  obtain ⟨capsule, hcapsule, hfind⟩ := h
  obtain ⟨hsome, front, back, hsplit, hfront⟩ := List.find?_eq_some_iff_append.mp hfind
  obtain ⟨record, hrecord⟩ := Option.isSome_iff_exists.mp hsome
  refine ⟨record, ?_, ?_⟩
  · -- nothing in front of the offer is a candidate
    have hnone : front.findSome? (invitationCandidate capsule terms.invitationId (some incoming))
        = none := by
      rw [List.findSome?_eq_none_iff]
      intro event hevent
      simpa using hfront event hevent
    unfold findInvitationSentInRuntimeWithDirection
    rw [hcapsule]
    dsimp only
    rw [hsplit, List.findSome?_append, hnone, List.findSome?_cons, hrecord]
    rfl
  · obtain ⟨hstarter, hroot, hkind, htransport⟩ := terms.payload_fields
    unfold invitationCandidate at hrecord
    split at hrecord
    · cases hrecord
    split at hrecord
    · cases hrecord
    split at hrecord
    · cases hrecord
    dsimp only at hrecord
    by_cases hway : incoming = offerIsIncoming capsule.pubkey offer
    · rw [if_pos hway, Option.some.injEq] at hrecord
      rw [← hrecord]
      refine ⟨?_, ?_, ?_, ?_⟩
      · show StarterId.mk (readFixed32 offer.payload 32) = terms.starterId
        rw [hpayload, hstarter]
      · show (invitationPayloadStarterKind offer.payload).getD _ = terms.kind
        rw [hpayload, hkind]
        rfl
      · show invitationPayloadSenderRoot offer.payload = some terms.senderRoot
        rw [hpayload, hroot]
      · intro hincoming
        dsimp only
        rw [if_pos (hway.symm.trans hincoming), hpayload, htransport]
        rfl
    · rw [if_neg hway] at hrecord
      cases hrecord

/-! ### The rows -/

section Rows

variable {Seed : Type} {platform : Platform Seed} {engine : Engine Seed}

/-- The ledger holds the row. -/
def HoldsRow (state : RuntimeState) (row : RelationshipEstablishedPayload) : Prop :=
  eventExistsInRuntime state .relationshipEstablished row.toBytes = true

/-- A kind of event that goes before a row. -/
def PrecedesRow (kind : EventKind) : Prop := kind = .invitationAccepted ∨ kind = .starterCreated

theorem PrecedesRow.ne {kind : EventKind} (h : PrecedesRow kind) :
    kind ≠ .relationshipEstablished ∧ kind ≠ .invitationRejected ∧
      kind ≠ .invitationExpired := by
  rcases h with rfl | rfl <;> decide

/-- The step leaves the row in the ledger: it is held already, or it is the last event that
    is added.  What is added before it is of the given kinds. -/
def EndsInRow (before : EventKind → Prop) (state state' : RuntimeState)
    (row : RelationshipEstablishedPayload) : Prop :=
  ∃ new, (∀ event ∈ new, before event.kind) ∧
    ((HoldsRow state row ∧ StateGrows state state' new) ∨
      (¬ HoldsRow state row ∧ ∃ event, event.kind = .relationshipEstablished ∧
        event.payload = row.toBytes ∧ StateGrows state state' (new ++ [event])))

variable {state state' : RuntimeState}

/-- Events of other kinds do not change which rows are held. -/
theorem holdsRow_grows {new : List Event} (h : StateGrows state state' new)
    (hnew : ∀ event ∈ new, PrecedesRow event.kind) (row : RelationshipEstablishedPayload) :
    HoldsRow state' row ↔ HoldsRow state row := by
  have hnone : new.any (fun event => event.kind == .relationshipEstablished &&
      event.payload == row.toBytes) = false := by
    rw [List.any_eq_false]
    intro event hevent
    simp [(hnew event hevent).ne.1]
  unfold HoldsRow eventExistsInRuntime
  rw [h.events, List.any_append, hnone, Bool.or_false]

variable {row : RelationshipEstablishedPayload}

/-- Nothing is written for a row that is held, and another one is appended. -/
theorem appendRelationshipEstablished_ok {outside : Outside Seed}
    (h : appendRelationshipEstablishedIfMissing platform engine outside state row
      = (.ok (), state')) (before : EventKind → Prop) : EndsInRow before state state' row := by
  unfold appendRelationshipEstablishedIfMissing at h
  have hcapsule := engine.prepareEvent_capsule platform state outside.clock
    .relationshipEstablished row.toBytes none
  cases hprepare : engine.prepareEvent platform state outside.clock .relationshipEstablished
      row.toBytes none with
  | mk result middle =>
    rw [hprepare] at h hcapsule
    cases result with
    | error error => cases (Prod.mk.inj h).1
    | ok prepared =>
      obtain ⟨hkind, hpayload, -⟩ := Engine.prepareEvent_ok platform
        (show (engine.prepareEvent platform state outside.clock .relationshipEstablished
          row.toBytes none).1 = .ok prepared by rw [hprepare])
      have hstep : StateGrows state middle [] := .of_capsule_eq hcapsule
      dsimp only at h
      rw [hpayload, eventExists_congr hcapsule] at h
      by_cases hheld : HoldsRow state row
      · rw [if_pos (show eventExistsInRuntime state .relationshipEstablished row.toBytes = true
          from hheld)] at h
        obtain rfl := (Prod.mk.inj h).2
        exact ⟨[], by simp, Or.inl ⟨hheld, hstep⟩⟩
      · rw [if_neg (show ¬ eventExistsInRuntime state .relationshipEstablished row.toBytes = true
          from hheld)] at h
        rcases appendPreparedEvent_cases platform outside middle prepared with
          ⟨message, herror, -⟩ | ⟨-, hgrows⟩
        · rw [h] at herror
          cases herror
        · rw [h] at hgrows
          exact ⟨[], by simp, Or.inr ⟨hheld, prepared.event, hkind, hpayload,
            hstep.trans hgrows⟩⟩

/-- A row behind other events. -/
theorem EndsInRow.behind {before : EventKind → Prop} {state middle state' : RuntimeState}
    {new : List Event} (hbefore : ∀ kind, before kind → PrecedesRow kind)
    (hnew : StateGrows state middle new) (hkinds : ∀ event ∈ new, before event.kind)
    (h : EndsInRow before middle state' row) : EndsInRow before state state' row := by
  obtain ⟨more, hmore, hcases⟩ := h
  rw [holdsRow_grows hnew (fun event hevent => hbefore _ (hkinds event hevent)) row] at hcases
  refine ⟨new ++ more, ?_, ?_⟩
  · intro event hevent
    rcases List.mem_append.mp hevent with hold | hlate
    · exact hkinds event hold
    · exact hmore event hlate
  · rcases hcases with ⟨hheld, hgrows⟩ | ⟨hheld, event, hkind, hpayload, hgrows⟩
    · exact Or.inl ⟨hheld, hnew.trans hgrows⟩
    · refine Or.inr ⟨hheld, event, hkind, hpayload, ?_⟩
      rw [List.append_assoc]
      exact hnew.trans hgrows

theorem EndsInRow.mono {before before' : EventKind → Prop} (h : EndsInRow before state state' row)
    (hbefore : ∀ kind, before kind → before' kind) : EndsInRow before' state state' row := by
  obtain ⟨new, hnew, hcases⟩ := h
  exact ⟨new, fun event hevent => hbefore _ (hnew event hevent), hcases⟩

end Rows

/-! ### The receiver -/

section Receiver

variable {Seed : Type} {platform : Platform Seed} {plan : LocalAcceptancePlan}

/-- The plan is made of the offer that is looked up. -/
theorem resolveLocalAcceptancePlan_fields {seed : Seed} {state : RuntimeState} {id : InvitationId}
    {record : InvitationLookupRecord}
    (hfind : findInvitationSentInRuntimeWithDirection state id (some true) = some record)
    (h : resolveLocalAcceptancePlan platform seed state id = .ok plan) :
    plan.invitationId = id ∧ plan.senderPubkey = record.peerPubkey ∧
      plan.senderRootPubkey = record.senderRootPubkey ∧
      plan.relationshipKind = record.starterKind ∧ plan.peerStarterId = record.starterId := by
  unfold resolveLocalAcceptancePlan at h
  rw [hfind] at h
  dsimp only at h
  split at h
  · cases h
  split at h
  · cases h
  split at h
  · cases h
  -- both branches with capacity take the same fields from the offer
  split at h
  · rw [← Except.ok.inj h]
    exact ⟨rfl, rfl, rfl, rfl, rfl⟩
  · rw [← Except.ok.inj h]
    exact ⟨rfl, rfl, rfl, rfl, rfl⟩
  · cases h

variable {fromPubkey root : PubKey} {state state' : RuntimeState}

/-- The row of an acceptance that went through. -/
theorem appendAcceptanceRow_ok {engine : Engine Seed} {outside : Outside Seed}
    (hroot : engine.publicKey platform = some root)
    (h : appendAcceptanceRow platform engine outside state plan fromPubkey = (.ok (), state')) :
    EndsInRow (· = .starterCreated) state state' (acceptanceRow plan fromPubkey root) := by
  unfold appendAcceptanceRow at h
  simp only [hroot] at h
  exact appendRelationshipEstablished_ok h _

variable {outside : AcceptOutside Seed}

/-- What follows an acceptance that went through. -/
theorem finalizeLocalAcceptance_endsInRow {engine : Engine Seed}
    (hroot : engine.publicKey platform = some root)
    (h : finalizeLocalAcceptance platform engine outside state plan fromPubkey
      = (.ok (), state')) :
    EndsInRow (· = .starterCreated) state state' (acceptanceRow plan fromPubkey root) := by
  unfold finalizeLocalAcceptance at h
  have hcreated : ∀ kind, kind = EventKind.starterCreated → PrecedesRow kind := fun _ => Or.inr
  split at h
  · cases (Prod.mk.inj h).1
  split at h
  · exact appendAcceptanceRow_ok hroot h
  · rename_i starterId kind nonce hplanned
    split at h
    · cases (Prod.mk.inj h).1
    · rename_i middle hcreate
      have hrow := appendAcceptanceRow_ok hroot h
      rcases appendStarterCreated_ok platform hcreate with
        ⟨-, hsame⟩ | ⟨-, created, hkind, -, hgrows⟩
      · exact hrow.behind hcreated hsame (by simp)
      · exact hrow.behind hcreated hgrows (by simpa using hkind)

/-- **What the receiver writes.**  An acceptance that returns zero has appended the acceptance
    of an open invitation, and behind it the row of its plan. -/
theorem receiver_writes {state : RuntimeState} {id : InvitationId} {seed : Seed}
    (hseed : outside.loadSeed = some seed) (hroot : platform.rootPublicKey seed = some root)
    (hcode : (hivraAcceptInvitation platform outside state (some id) (some fromPubkey)).1 = 0) :
    ∃ plan accepted middle, resolveLocalAcceptancePlan platform seed state id = .ok plan ∧
      invitationIsResolvedInRuntime state id = false ∧
      accepted.kind = .invitationAccepted ∧
      accepted.payload = InvitationAcceptedPayload.toBytes
        ⟨id, fromPubkey, plan.relationshipStarterId, some root⟩ ∧
      StateGrows state middle [accepted] ∧
      EndsInRow (· = .starterCreated) middle
        (hivraAcceptInvitation platform outside state (some id) (some fromPubkey)).2
        (acceptanceRow plan fromPubkey root) := by
  rcases hivraAcceptInvitation_phases platform outside state id fromPubkey with
    ⟨hfailed, -⟩ | ⟨other, plan, prepared, middle, haccepts, hresult⟩
  · exact absurd hcode hfailed
  obtain rfl := Option.some.inj (haccepts.seedLoaded.symm.trans hseed)
  have hkey : (buildEngine state other).publicKey platform = some root := by
    rw [publicKey_buildEngine, hroot]
  obtain ⟨hkind, -, hgrows⟩ := haccepts.grows
  have haccepted := haccepts.accepted
  unfold Engine.prepareInvitationAccepted at haccepted
  simp only [hkey] at haccepted
  refine ⟨plan, prepared.event, middle, haccepts.planned, haccepts.unresolved, hkind,
    (Engine.prepareEvent_ok platform haccepted).2.1, hgrows, ?_⟩
  cases hrest : finalizeLocalAcceptance platform (buildEngine state other) outside middle plan
      fromPubkey with
  | mk result final =>
    rw [hrest] at hresult
    cases result with
    | error message =>
      rw [hresult] at hcode
      cases hcode
    | ok value =>
      rw [hresult]
      exact finalizeLocalAcceptance_endsInRow hkey hrest

end Receiver

/-! ### The acceptance on its way -/

section Envelope

variable {Seed : Type} {platform : Platform Seed}

/-- The proof of an event that leaves. -/
def domainEventProof (event : Event) : DomainEventProof where
  version := event.version
  kind := event.kind.toByte
  signer := event.signer
  signature := event.signature.bytes.toList

/-- The envelope of a terminal that was prepared for its peer. -/
def terminalEnvelope (senderPubkey toPubkey : PubKey) (prepared : PreparedEvent) :
    DeliveryEnvelope where
  fromPubkey := senderPubkey
  toPubkey := toPubkey
  kind := prepared.event.kind.toByte.toUInt32
  payload := prepared.event.payload
  timestamp := prepared.event.timestamp
  domainEvent := some (domainEventProof prepared.event)

/-- A prepared event has one of the two known versions. -/
theorem prepareEvent_version {engine : Engine Seed} {state : RuntimeState} {clock : Option UInt64}
    {kind : EventKind} {payload : List UInt8} {recipient : Option PubKey} {prepared : PreparedEvent}
    (h : (engine.prepareEvent platform state clock kind payload recipient).1 = .ok prepared) :
    prepared.event.version = protocolVersion ∨
      prepared.event.version = continuousLedgerProtocolVersion := by
  unfold Engine.prepareEvent Engine.unsignedEvent at h
  split at h
  · cases h
  dsimp only at h
  split_ifs at h
  · dsimp only at h
    split at h
    · cases h
    · rw [← Except.ok.inj h]
      exact Or.inl rfl
  · dsimp only at h
    split at h
    · cases h
    · rw [← Except.ok.inj h]
      exact Or.inr rfl

/-- **The envelope of an acceptance passes the gates** of another capsule it is addressed to. -/
theorem delivered_of_terminal {engine : Engine Seed} {state peer : RuntimeState}
    {clock : Option UInt64} {recipient : Option PubKey} {prepared : PreparedEvent}
    {id : InvitationId} {fromPubkey root senderPubkey localPubkey : PubKey}
    {starterId : StarterId} (hroot : engine.publicKey platform = some root)
    (h : (engine.prepareEvent platform peer clock .invitationAccepted
      (InvitationAcceptedPayload.toBytes ⟨id, fromPubkey, starterId, some root⟩) recipient).1
        = .ok prepared)
    (hforeign : senderPubkey ≠ localPubkey) (hcapsule : state.capsule ≠ none) :
    ∃ event, Delivered localPubkey state (terminalEnvelope senderPubkey localPubkey prepared)
      .invitationAccepted event := by
  obtain ⟨hkind, hpayload, hsigner⟩ := Engine.prepareEvent_ok platform h
  have hkey : prepared.event.signer = root := Option.some.inj (hsigner.symm.trans hroot)
  have hsigned : ∃ event, verifiedEventFromMessage (terminalEnvelope senderPubkey localPubkey
      prepared) .invitationAccepted = .ok event ∧ event.signer = root := by
    have hsame : ¬ prepared.event.kind.toByte ≠ EventKind.invitationAccepted.toByte := by
      rw [hkind]
      simp
    unfold verifiedEventFromMessage terminalEnvelope domainEventProof
    dsimp only
    rw [if_neg hsame, dif_pos (by simp)]
    rcases prepareEvent_version h with hversion | hversion
    · rw [if_pos hversion]
      exact ⟨_, rfl, hkey⟩
    · rw [if_neg (by rw [hversion]; decide), if_pos hversion]
      exact ⟨_, rfl, hkey⟩
  obtain ⟨event, hproof, hby⟩ := hsigned
  have hnamed := InvitationAcceptedPayload.fromBytes_toBytes ⟨id, fromPubkey, starterId, some root⟩
  obtain ⟨-, hfields⟩ := InvitationAcceptedPayload.fromBytes_ok.mp hnamed
  have hread := congrArg InvitationAcceptedPayload.accepterRootPubkey hfields
  refine ⟨event, hforeign, hcapsule, ?_, ?_, hproof, ?_⟩
  · unfold terminalEnvelope
    rw [hkind]
    show envelopeEventKind EventKind.invitationAccepted.toByte.toUInt32 = _
    decide
  · simp [targetsLocal, terminalEnvelope]
  · show proofSignerMatchesPayload .invitationAccepted prepared.event.payload event.signer = true
    rw [hpayload, hby]
    have hlength : (InvitationAcceptedPayload.toBytes
        ⟨id, fromPubkey, starterId, some root⟩).length = 128 := by
      simp [InvitationAcceptedPayload.toBytes]
    dsimp only at hread
    rw [readOptionalKey, if_pos (by omega), Option.some.injEq] at hread
    have hbytes := (congrArg PubKey.bytes hread).symm
    unfold proofSignerMatchesPayload
    simp only [hlength, decide_true, Bool.true_and]
    exact beq_iff_eq.mpr hbytes

end Envelope

/-! ### The sender -/

section Sender

variable {Seed : Type} {platform : Platform Seed} {seed : Seed}
  {payload : InvitationAcceptedPayload}

/-- The projection of an acceptance that went through. -/
theorem projectRelationship_ok {engine : Engine Seed} {outside : Outside Seed}
    {state state' : RuntimeState} {messageFrom root : PubKey} {record : InvitationLookupRecord}
    (hroot : engine.publicKey platform = some root)
    (hfind : findInvitationSentInRuntimeWithDirection state payload.invitationId (some false)
      = some record)
    (h : projectRelationshipFromInvitationAccepted platform engine outside state messageFrom payload
      = (.ok (), state')) :
    EndsInRow PrecedesRow state state' (acceptedRow messageFrom record payload root) := by
  unfold projectRelationshipFromInvitationAccepted at h
  split at h
  · cases (Prod.mk.inj h).1
  split at h
  · cases (Prod.mk.inj h).1
  simp only [hfind, hroot] at h
  split at h
  · cases (Prod.mk.inj h).1
  · exact appendRelationshipEstablished_ok h _

variable {outside : IngressOutside Seed} {message : DeliveryEnvelope} {counters : IngressCounters}

/-- An acceptance that is consumed behind the gates is projected, whether or not the filter
    lets it into the ledger. -/
theorem consumed_effect {localPubkey : PubKey} {state : RuntimeState} {event : Event}
    (hdelivered : Delivered localPubkey state message .invitationAccepted event)
    (hconsumed : (routeInboundEnvelope platform seed localPubkey outside message counters
      state).disposition = .consumed) :
    ∃ new middle, StateGrows state middle new ∧ (∀ event ∈ new, PrecedesRow event.kind) ∧
      projectInvitationAcceptedDelivery platform seed outside.effect middle message.fromPubkey
        message.payload = (.ok (), (routeInboundEnvelope platform seed localPubkey outside message
          counters state).state) := by
  rcases routeInboundEnvelope_gates platform seed localPubkey outside message counters state with
    ⟨hstopped, -⟩ | ⟨kind, gated, counters', hgated, hroute⟩
  · exact absurd hdelivered (hstopped _ _)
  obtain rfl := Option.some.inj (hdelivered.kindKnown.symm.trans hgated.kindKnown)
  rw [hroute] at hconsumed ⊢
  split at hconsumed
  · -- the filter skips it: the effect runs on the ledger as it is
    rename_i hskip
    rw [if_pos hskip]
    unfold routeSkipped at hconsumed ⊢
    simp only [localKindOf, reduceCtorEq, if_false, if_true] at hconsumed ⊢
    refine ⟨[], state, .of_capsule_eq rfl, by simp, ?_⟩
    cases heffect : projectInvitationAcceptedDelivery platform seed outside.effect state
        message.fromPubkey message.payload with
    | mk result final =>
      rw [heffect] at hconsumed
      cases result with
      | error text => cases hconsumed
      | ok value => rfl
  · rename_i hskip
    rw [if_neg hskip]
    have hcases := appendVerifiedRuntimeEvent_cases platform outside.append state gated
    cases happend : appendVerifiedRuntimeEvent platform outside.append state gated with
    | mk result middle =>
      rw [happend] at hconsumed hcases
      cases result with
      | error text => cases hconsumed
      | ok value =>
        rcases hcases with ⟨_, herror, -⟩ | ⟨stored, -, hgrows, hstored, -⟩
        · cases herror
        unfold routeAppended at hconsumed ⊢
        simp only [if_true] at hconsumed ⊢
        have hkind : stored.kind = .invitationAccepted :=
          hstored.trans (verifiedEvent_fields hgated.proof).1
        refine ⟨[stored], middle, hgrows, by simp [PrecedesRow, hkind], ?_⟩
        cases heffect : projectInvitationAcceptedDelivery platform seed outside.effect middle
            message.fromPubkey message.payload with
        | mk result final =>
          rw [heffect] at hconsumed
          cases result with
          | error text => cases hconsumed
          | ok value => rfl

/-- **What the sender writes.**  An acceptance of its offer that is consumed leaves the row of
    the offer and the payload. -/
theorem sender_writes {localPubkey root : PubKey} {state : RuntimeState} {event offer : Event}
    {terms : OfferTerms} (hroot : platform.rootPublicKey seed = some root)
    (hdelivered : Delivered localPubkey state message .invitationAccepted event)
    (hconsumed : (routeInboundEnvelope platform seed localPubkey outside message counters
      state).disposition = .consumed)
    (hparse : InvitationAcceptedPayload.fromBytes message.payload = .ok payload)
    (hid : payload.invitationId = terms.invitationId)
    (hoffer : LooksUp state terms.invitationId false offer)
    (hpayload : offer.payload = terms.payload) :
    ∃ record : InvitationLookupRecord, record.starterId = terms.starterId ∧
      record.starterKind = terms.kind ∧
      EndsInRow PrecedesRow state (routeInboundEnvelope platform seed localPubkey outside message counters
        state).state (acceptedRow message.fromPubkey record payload root) := by
  obtain ⟨new, middle, hgrows, hkinds, heffect⟩ := consumed_effect hdelivered hconsumed
  obtain ⟨record, hfind, hstarter, hkind, -⟩ := (hoffer.grows hgrows).lookup hpayload
  refine ⟨record, hstarter, hkind, ?_⟩
  have hkey : (buildEngine middle seed).publicKey platform = some root := by
    rw [publicKey_buildEngine, hroot]
  unfold projectInvitationAcceptedDelivery at heffect
  rw [hparse] at heffect
  rw [← hid] at hfind
  exact (projectRelationship_ok hkey hfind heffect).behind (fun _ => id) hgrows hkinds

end Sender

/-! ### Both sides -/

/-- A capsule with the keys of its seed. -/
structure Party (Seed : Type) where
  seed : Seed
  root : PubKey
  transport : PubKey
  state : RuntimeState

section Both

variable {Seed : Type} (platform : Platform Seed)

/-- The keys are those of the seed, and the capsule is that of the root key. -/
structure Party.Runs (party : Party Seed) : Prop where
  owner : ∃ capsule, party.state.capsule = some capsule ∧ capsule.pubkey = party.root
  rootKey : platform.rootPublicKey party.seed = some party.root
  transportKey : platform.nostrPublicKey party.seed = some party.transport

/-- The fact a row states. -/
def rowFact (row : RelationshipEstablishedPayload) : PairRelationshipV1 where
  relationshipKind := row.kind.toByte
  starterPair := sortedStarters row.ownStarterId row.peerStarterId

/-- The pair view of the ledger in a state shows the fact for a peer. -/
def ShowsTo (state : RuntimeState) (transport peer : PubKey) (fact : PairRelationshipV1) : Prop :=
  ∃ capsule, state.capsule = some capsule ∧ ShowsFact capsule.ledger (some transport) peer fact

/-- The two sides of an acceptance are left as mirror images: each row names the other side,
    the kinds agree, own and peer starter are swapped, and each side that wrote its row shows the
    one fact, the sender unless it has the invitation rejected or expired. -/
structure Mirrored (a b : Party Seed) (afterA afterB : RuntimeState)
    (rowA rowB : RelationshipEstablishedPayload) : Prop where
  writtenA : EndsInRow PrecedesRow a.state afterA rowA
  writtenB : EndsInRow PrecedesRow b.state afterB rowB
  namesB : rowA.peerPubkey = b.transport ∧ rowA.peerRootPubkey = some b.root
  namesA : rowB.peerPubkey = a.transport ∧ rowB.peerRootPubkey = some a.root
  sameKind : rowA.kind = rowB.kind
  swapped : rowA.ownStarterId = rowB.peerStarterId ∧ rowA.peerStarterId = rowB.ownStarterId
  sameFact : rowFact rowA = rowFact rowB
  shownA : AliveIn a.state rowA.invitationId → ¬ HoldsRow a.state rowA →
    ShowsTo afterA a.transport b.root (rowFact rowA)
  shownB : ¬ HoldsRow b.state rowB → ShowsTo afterB b.transport a.root (rowFact rowA)

/-- The acceptance is signed once more for its way, by an engine of the seed. -/
def SignedAgain (seed : Seed) (accepted : Event) (prepared : PreparedEvent) : Prop :=
  ∃ (engine : Engine Seed) (state : RuntimeState) (clock : Option UInt64)
    (recipient : Option PubKey), engine.seed = seed ∧
      (engine.prepareEvent platform state clock .invitationAccepted accepted.payload recipient).1
        = .ok prepared

/-- An acceptance runs from the offer to the sender: both sides look the invitation up under
    one and the same offer, the receiver accepts it, and the sender consumes the acceptance. -/
structure AcceptanceRun (a b : Party Seed) (terms : OfferTerms) (sent received : Event)
    (outsideB : AcceptOutside Seed) (accepted : Event) (prepared : PreparedEvent)
    (outsideA : IngressOutside Seed) (counters : IngressCounters) : Prop where
  runsA : a.Runs platform
  runsB : b.Runs platform
  sender : terms.senderRoot = a.root ∧ terms.senderTransport = a.transport
  sentFirst : LooksUp a.state terms.invitationId false sent
  sentPayload : sent.payload = terms.payload
  receivedFirst : LooksUp b.state terms.invitationId true received
  receivedPayload : received.payload = terms.payload
  seedB : outsideB.loadSeed = some b.seed
  succeeds : (hivraAcceptInvitation platform outsideB b.state (some terms.invitationId)
    (some a.transport)).1 = 0
  recorded : accepted ∈ (hivraAcceptInvitation platform outsideB b.state
    (some terms.invitationId) (some a.transport)).2.events
  names : accepted.kind = .invitationAccepted ∧
    invitationIdFromTerminalPayload .invitationAccepted accepted.payload = some terms.invitationId
  signed : SignedAgain platform b.seed accepted prepared
  consumed : (routeInboundEnvelope platform a.seed a.transport outsideA
    (terminalEnvelope b.transport a.transport prepared) counters a.state).disposition = .consumed

variable {platform} {row : RelationshipEstablishedPayload}

/-- A row that a side has written is the fact its pair view shows. -/
theorem EndsInRow.shows {party : Party Seed} {after : RuntimeState} {peer : PubKey}
    (h : EndsInRow PrecedesRow party.state after row) (hparty : party.Runs platform)
    (hnew : ¬ HoldsRow party.state row) (hpeer : row.peerRootPubkey = some peer)
    (hsender : row.senderRootPubkey = some party.root) (hroot : peer ≠ party.root)
    (htransport : party.transport ≠ row.peerPubkey)
    (halive : AliveIn party.state row.invitationId) :
    ShowsTo after party.transport peer (rowFact row) := by
  obtain ⟨new, hkinds, hcases⟩ := h
  rcases hcases with ⟨hheld, -⟩ | ⟨-, event, hkind, hpayload, hgrows⟩
  · exact absurd hheld hnew
  obtain ⟨capsule, hcapsule, howner⟩ := hparty.owner
  -- nothing that was added kills the invitation
  have halive' := halive.grows hgrows fun other hother => by
    rcases List.mem_append.mp hother with hbefore | hlast
    · exact (hkinds other hbefore).ne.2
    · rw [List.mem_singleton.mp hlast, hkind]
      decide
  cases hgrows with
  | noCapsule hnone _ _ => rw [hnone] at hcapsule; cases hcapsule
  | @capsule capsule₁ capsule' hcapsule₁ hcapsule' hgrows =>
    obtain rfl := Option.some.inj (hcapsule.symm.trans hcapsule₁)
    have howner' : capsule'.ledger.owner = party.root := hgrows.pubkey.trans howner
    refine ⟨capsule', hcapsule', ?_⟩
    refine @showsFact_of_last capsule'.ledger (some party.transport)
      (capsule.ledger.events ++ new) event row peer ?_ hkind hpayload hpeer ?_ ?_ ?_ ?_
    · rw [hgrows.events, List.append_assoc]
    · rw [hsender, howner']
    · rw [howner']
      exact hroot
    · simpa using htransport
    · intro record hrecord
      apply halive' record
      rw [recordIn, hcapsule']
      exact hrecord

/-- The acceptance in the receiver's ledger is the one that was appended. -/
theorem accepted_of_recorded {state middle after : RuntimeState} {id : InvitationId}
    {new accepted : Event} (hopen : invitationIsResolvedInRuntime state id = false)
    (hgrows : StateGrows state middle [new])
    (hrow : EndsInRow (· = .starterCreated) middle after row) (hmem : accepted ∈ after.events)
    (hkind : accepted.kind = .invitationAccepted)
    (hid : invitationIdFromTerminalPayload .invitationAccepted accepted.payload = some id) :
    accepted = new := by
  obtain ⟨created, hcreated, hcases⟩ := hrow
  have hbehind : ∃ more, after.events = state.events ++ ([new] ++ more) ∧
      ∀ event ∈ more, event.kind ≠ .invitationAccepted := by
    rcases hcases with ⟨-, hafter⟩ | ⟨-, event, hevent, -, hafter⟩
    · refine ⟨created, (hgrows.trans hafter).events, fun event hmore => ?_⟩
      rw [hcreated event hmore]
      decide
    · refine ⟨created ++ [event], (hgrows.trans hafter).events, fun other hmore => ?_⟩
      rcases List.mem_append.mp hmore with hbefore | hlast
      · rw [hcreated other hbefore]
        decide
      · rw [List.mem_singleton.mp hlast, hevent]
        decide
  obtain ⟨more, hevents, hmore⟩ := hbehind
  rw [hevents] at hmem
  rcases List.mem_append.mp hmem with hold | hnew
  · -- the invitation was open, so no acceptance of it stood in the ledger
    have hresolved : invitationIsResolvedInRuntime state id = true := by
      unfold invitationIsResolvedInRuntime
      rw [List.any_eq_true]
      exact ⟨accepted, hold, by rw [hkind, hid]; exact beq_self_eq_true _⟩
    rw [hresolved] at hopen
    cases hopen
  rcases List.mem_append.mp hnew with hfirst | hlate
  · exact List.mem_singleton.mp hfirst
  · exact absurd hkind (hmore accepted hlate)

/-- **Mirrored acceptance.**  Whatever stands in the two ledgers, and whichever starter the
    receiver takes part with, the two sides end as mirror images. -/
theorem mirrored_acceptance {a b : Party Seed} {terms : OfferTerms} {sent received : Event}
    {outsideB : AcceptOutside Seed} {accepted : Event} {prepared : PreparedEvent}
    {outsideA : IngressOutside Seed} {counters : IngressCounters}
    (h : AcceptanceRun platform a b terms sent received outsideB accepted prepared outsideA
      counters)
    (hroots : a.root ≠ b.root) (htransports : a.transport ≠ b.transport) :
    ∃ rowA rowB, Mirrored a b
      (routeInboundEnvelope platform a.seed a.transport outsideA
        (terminalEnvelope b.transport a.transport prepared) counters a.state).state
      (hivraAcceptInvitation platform outsideB b.state (some terms.invitationId)
        (some a.transport)).2 rowA rowB := by
  obtain ⟨hrootA, htransportA⟩ := h.sender
  -- the receiver: the row of the plan
  obtain ⟨plan, new, middle, hplan, hopen, hkind, hpayload, hgrows, hrow⟩ :=
    receiver_writes h.seedB h.runsB.rootKey h.succeeds
  obtain rfl : accepted = new :=
    accepted_of_recorded hopen hgrows hrow h.recorded h.names.1 h.names.2
  obtain ⟨recordB, hfindB, hstarterB, hkindB, hrootB, hpeerB⟩ :=
    h.receivedFirst.lookup h.receivedPayload
  obtain ⟨hid, hsender, hplanRoot, hplanKind, hplanPeer⟩ :=
    resolveLocalAcceptancePlan_fields hfindB hplan
  have hwrittenB : EndsInRow PrecedesRow b.state
      (hivraAcceptInvitation platform outsideB b.state (some terms.invitationId)
        (some a.transport)).2 (acceptanceRow plan a.transport b.root) := by
    have hcreated : ∀ kind, kind = EventKind.starterCreated → PrecedesRow kind := fun _ => Or.inr
    refine (hrow.mono hcreated).behind (fun _ => id) hgrows ?_
    intro event hevent
    rw [List.mem_singleton.mp hevent]
    exact Or.inl hkind
  -- the sender: the row of its offer and of the payload that comes back
  obtain ⟨engine, state, clock, recipient, hseed, hprepared⟩ := h.signed
  have hkey : engine.publicKey platform = some b.root := by
    rw [Engine.publicKey, hseed, h.runsB.rootKey]
  have hsame := (Engine.prepareEvent_ok platform hprepared).2.1
  rw [hpayload] at hprepared hsame
  obtain ⟨capsuleA, hcapsuleA, -⟩ := h.runsA.owner
  obtain ⟨event, hdelivered⟩ := @delivered_of_terminal Seed platform engine a.state state clock
    recipient prepared terms.invitationId a.transport b.root b.transport a.transport
    plan.relationshipStarterId hkey hprepared (Ne.symm htransports) (by simp [hcapsuleA])
  obtain ⟨recordA, hstarterA, hkindA, hwrittenA⟩ := sender_writes h.runsA.rootKey hdelivered
    h.consumed (by
      show InvitationAcceptedPayload.fromBytes prepared.event.payload = _
      rw [hsame]
      exact InvitationAcceptedPayload.fromBytes_toBytes _) rfl h.sentFirst h.sentPayload
  have hfact : rowFact (acceptedRow (terminalEnvelope b.transport a.transport prepared).fromPubkey
      recordA
      ⟨terms.invitationId, a.transport, plan.relationshipStarterId, some b.root⟩ a.root)
      = rowFact (acceptanceRow plan a.transport b.root) := by
    unfold rowFact acceptedRow acceptanceRow
    dsimp only
    rw [sortedStarters_comm, hstarterA, hkindA, hplanPeer, hplanKind, hstarterB, hkindB]
  refine ⟨_, _, hwrittenA, hwrittenB, ⟨rfl, rfl⟩, ⟨rfl, ?_⟩, ?_, ⟨?_, rfl⟩, hfact, ?_, ?_⟩
  · show plan.senderRootPubkey = some a.root
    rw [hplanRoot, hrootB, hrootA]
  · show recordA.starterKind = plan.relationshipKind
    rw [hkindA, hplanKind, hkindB]
  · show recordA.starterId = plan.peerStarterId
    rw [hstarterA, hplanPeer, hstarterB]
  · intro halive hnew
    exact hwrittenA.shows h.runsA hnew rfl rfl (Ne.symm hroots) htransports halive
  · intro hnew
    rw [hfact]
    refine hwrittenB.shows h.runsB hnew ?_ rfl hroots (Ne.symm htransports) ?_
    · show plan.senderRootPubkey = some a.root
      rw [hplanRoot, hrootB, hrootA]
    · show AliveIn b.state plan.invitationId
      rw [hid]
      exact aliveIn_of_unresolved hopen

end Both

/-! ### Two capsules -/

def firstSeed : PubKey × PubKey := (⟨fill 32 5⟩, ⟨fill 32 15⟩)

def secondSeed : PubKey × PubKey := (⟨fill 32 7⟩, ⟨fill 32 17⟩)

/-- A capsule of a seed with these events. -/
def partyOf (seed : PubKey × PubKey) (events : List Event) : Party (PubKey × PubKey) where
  seed := seed
  root := seed.1
  transport := seed.2
  state := ⟨some ⟨.neste, .ofEvents seed.1 events⟩, 0⟩

/-- The terms of an offer of the starter 2, which is of the kind kick. -/
def kickTerms : OfferTerms :=
  ⟨fill 32 1, ⟨fill 32 2⟩, .kick, secondSeed.2, firstSeed.1, firstSeed.2, none⟩

def kickCreated : Event :=
  .new .starterCreated (StarterCreatedPayload.toBytes ⟨⟨fill 32 2⟩, fill 32 2, .kick, 1⟩) 1
    ⟨fill 64 0⟩ firstSeed.1

/-- An offer of the first capsule, as it is in the ledger of either side. -/
def firstOffer (kind : EventKind) (payload : List UInt8) : Event :=
  .new kind payload 2 ⟨fill 64 0⟩ firstSeed.1

/-- The first capsule withdraws its offer. -/
def firstCancel : Event :=
  .new .invitationExpired (InvitationExpiredPayload.toBytes ⟨fill 32 1⟩) 3 ⟨fill 64 0⟩ firstSeed.1

/-- What the second capsule finds outside when it accepts. -/
def acceptingOutside : AcceptOutside (PubKey × PubKey) where
  loadSeed := some secondSeed
  accept := ⟨some secondSeed, some 14⟩
  create := ⟨some secondSeed, some 15⟩
  relate := ⟨some secondSeed, some 16⟩

/-- What the first capsule finds outside when the acceptance arrives. -/
def answeredOutside : IngressOutside (PubKey × PubKey) :=
  ⟨false, false, ⟨some firstSeed, some 30⟩, ⟨some firstSeed, some 31⟩⟩

/-- The second capsule accepts an offer it received. -/
def acceptFirst (received : Event) : ℤ × RuntimeState :=
  hivraAcceptInvitation samplePlatform acceptingOutside (partyOf secondSeed [received]).state
    (some (fill 32 1)) (some firstSeed.2)

/-- The acceptance that stands behind the offer. -/
def acceptanceOf (received : Event) : Event :=
  ((acceptFirst received).2.events.drop 1).headD received

/-- An acceptance, signed again for its way. -/
def signedAgain (accepted : Event) : PreparedEvent :=
  let unsigned := Event.new .invitationAccepted accepted.payload 20 ⟨fill 64 0⟩ secondSeed.1
  { event := { unsigned with
      signature := ⟨⟨(unsigned.eventId sampleDigest).toList ++ secondSeed.1.bytes.toList,
        by simp⟩⟩ }
    recipient := some firstSeed.2 }

/-- The acceptance arrives at the first capsule. -/
def answerFirst (events : List Event) (received : Event) : IngressOutcome :=
  routeInboundEnvelope samplePlatform firstSeed firstSeed.2 answeredOutside
    (terminalEnvelope secondSeed.2 firstSeed.2 (signedAgain (acceptanceOf received)))
    ⟨0, 0, 0, 0, 0, 0, 0, 0, 0, 0, 0, 0, 0, 0⟩ (partyOf firstSeed events).state

/-- The rows of a ledger. -/
def rowsOf (state : RuntimeState) : List RelationshipEstablishedPayload :=
  state.events.filterMap fun event =>
    if event.kind = .relationshipEstablished then
      (RelationshipEstablishedPayload.fromBytes event.payload).toOption
    else none

theorem signedAgain_prepared (accepted : Event) :
    SignedAgain samplePlatform secondSeed accepted (signedAgain accepted) :=
  ⟨⟨secondSeed, protocolVersion⟩, ⟨none, 0⟩, some 20, some firstSeed.2, rfl, rfl⟩

/-- The offer and its acceptance, whatever else the sender has recorded. -/
theorem acceptanceRun_of_offer (events : List Event)
    (hfirst : LooksUp (partyOf firstSeed events).state (fill 32 1) false
      (firstOffer .invitationSent kickTerms.payload))
    (hconsumed : (answerFirst events
      (firstOffer .invitationReceived kickTerms.payload)).disposition = .consumed) :
    AcceptanceRun samplePlatform (partyOf firstSeed events)
      (partyOf secondSeed [firstOffer .invitationReceived kickTerms.payload]) kickTerms
      (firstOffer .invitationSent kickTerms.payload)
      (firstOffer .invitationReceived kickTerms.payload) acceptingOutside
      (acceptanceOf (firstOffer .invitationReceived kickTerms.payload))
      (signedAgain (acceptanceOf (firstOffer .invitationReceived kickTerms.payload)))
      answeredOutside ⟨0, 0, 0, 0, 0, 0, 0, 0, 0, 0, 0, 0, 0, 0⟩ where
  runsA := ⟨⟨_, rfl, rfl⟩, rfl, rfl⟩
  runsB := ⟨⟨_, rfl, rfl⟩, rfl, rfl⟩
  sender := ⟨rfl, rfl⟩
  sentFirst := hfirst
  sentPayload := rfl
  receivedFirst := ⟨_, rfl, by decide +kernel⟩
  receivedPayload := rfl
  seedB := rfl
  succeeds := by
    show (acceptFirst (firstOffer .invitationReceived kickTerms.payload)).1 = 0
    decide +kernel
  recorded := by
    show _ ∈ (acceptFirst (firstOffer .invitationReceived kickTerms.payload)).2.events
    decide +kernel
  names := by decide +kernel
  signed := signedAgain_prepared _
  consumed := hconsumed

/-- An offer of kick is accepted, and both sides end as mirror images. -/
theorem mirrored_acceptance_kick :
    ∃ rowA rowB, Mirrored
      (partyOf firstSeed [kickCreated, firstOffer .invitationSent kickTerms.payload])
      (partyOf secondSeed [firstOffer .invitationReceived kickTerms.payload])
      (answerFirst [kickCreated, firstOffer .invitationSent kickTerms.payload]
        (firstOffer .invitationReceived kickTerms.payload)).state
      (acceptFirst (firstOffer .invitationReceived kickTerms.payload)).2 rowA rowB := by
  have hrun := acceptanceRun_of_offer [kickCreated, firstOffer .invitationSent kickTerms.payload]
    ⟨_, rfl, by decide +kernel⟩ (by decide +kernel)
  have hroots : firstSeed.1 ≠ secondSeed.1 := by decide +kernel
  have htransports : firstSeed.2 ≠ secondSeed.2 := by decide +kernel
  have hmirrored := mirrored_acceptance hrun hroots htransports
  exact hmirrored

/-- An offer without the kind of the starter, as the capsules once sent it. -/
def kindlessPayload : List UInt8 := kickTerms.payload.take 128

/-- An offer of another starter under the id. -/
def otherTerms : OfferTerms := { kickTerms with starterId := ⟨fill 32 3⟩ }

/-- **Counterexample.**  The sender that has withdrawn its offer takes the acceptance in, writes
    its row and shows no fact.  The row of an offer without a kind has the recorded kind on one
    side and juice on the other.  With two offers under one id the sides pair different
    starters. -/
theorem not_mirrored :
    (AcceptanceRun samplePlatform
        (partyOf firstSeed [kickCreated, firstOffer .invitationSent kickTerms.payload, firstCancel])
        (partyOf secondSeed [firstOffer .invitationReceived kickTerms.payload]) kickTerms
        (firstOffer .invitationSent kickTerms.payload)
        (firstOffer .invitationReceived kickTerms.payload) acceptingOutside
        (acceptanceOf (firstOffer .invitationReceived kickTerms.payload))
        (signedAgain (acceptanceOf (firstOffer .invitationReceived kickTerms.payload)))
        answeredOutside ⟨0, 0, 0, 0, 0, 0, 0, 0, 0, 0, 0, 0, 0, 0⟩ ∧
      ∀ fact, ¬ ShowsTo (answerFirst
        [kickCreated, firstOffer .invitationSent kickTerms.payload, firstCancel]
        (firstOffer .invitationReceived kickTerms.payload)).state firstSeed.2 secondSeed.1 fact) ∧
    ((acceptFirst (firstOffer .invitationReceived kindlessPayload)).1 = 0 ∧
      (rowsOf (answerFirst [kickCreated, firstOffer .invitationSent kindlessPayload]
          (firstOffer .invitationReceived kindlessPayload)).state).map
        RelationshipEstablishedPayload.kind = [.kick] ∧
      (rowsOf (acceptFirst (firstOffer .invitationReceived kindlessPayload)).2).map
        RelationshipEstablishedPayload.kind = [.juice]) ∧
    ((acceptFirst (firstOffer .invitationReceived kickTerms.payload)).1 = 0 ∧
      (rowsOf (answerFirst [firstOffer .invitationSent otherTerms.payload,
          firstOffer .invitationSent kickTerms.payload]
          (firstOffer .invitationReceived kickTerms.payload)).state).map
        RelationshipEstablishedPayload.ownStarterId = [⟨fill 32 3⟩] ∧
      (rowsOf (acceptFirst (firstOffer .invitationReceived kickTerms.payload)).2).map
        RelationshipEstablishedPayload.peerStarterId = [⟨fill 32 2⟩]) := by
  refine ⟨⟨acceptanceRun_of_offer _ ⟨_, rfl, by decide +kernel⟩ (by decide +kernel), ?_⟩,
    ⟨by decide +kernel, by decide +kernel, by decide +kernel⟩,
    ⟨by decide +kernel, by decide +kernel, by decide +kernel⟩⟩
  rintro fact ⟨capsule, hcapsule, hshows⟩
  obtain ⟨row, hrow, -⟩ := (showsFact_iff _ _ _ _).mp hshows
  -- the projection takes no establishment of a dead invitation
  have hnone : ((answerFirst
      [kickCreated, firstOffer .invitationSent kickTerms.payload, firstCancel]
      (firstOffer .invitationReceived kickTerms.payload)).state.capsule.map fun capsule =>
        (replay (relationshipStep capsule.ledger.owner (some firstSeed.2)
          (invitationsWithStatus capsule.ledger)) [] capsule.ledger.events).length) = some 0 := by
    decide +kernel
  rw [hcapsule, Option.map_some, Option.some.injEq, List.length_eq_zero_iff] at hnone
  have hempty : projectRelationships capsule.ledger (some firstSeed.2) = [] := by
    rw [projectRelationships, hnone, List.mergeSort_nil]
  obtain ⟨hmem, -⟩ := List.mem_filter.mp hrow
  obtain ⟨relationship, hrelationship, -⟩ := List.mem_map.mp hmem
  rw [hempty] at hrelationship
  cases hrelationship

end Hivra
