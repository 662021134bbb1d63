import Hivra.Ffi.OwnOffers

namespace Hivra

open ByteString

/-!
# Who can resolve an offer

An own offer is addressed to a transport key, and an answer arrives from one.  The route
never compares the two: whoever names the invitation of an open offer resolves it.
-/

/-- The events a state has beyond those of an earlier one. -/
def newEvents (before after : RuntimeState) : List Event :=
  after.events.drop before.events.length

theorem newEvents_of_grows {before after : RuntimeState} {new : List Event}
    (h : StateGrows before after new) : newEvents before after = new := by
  rw [newEvents, h.events, List.drop_left]

/-- An event concerns the offer of a record: it answers it, it establishes a relationship
    through it, or it burns its starter behind an answer to it. -/
inductive Concerns (message : DeliveryEnvelope) (record : InvitationRecord) (event : Event) : Prop
  | answer : (event.kind = .invitationAccepted ∨ event.kind = .invitationRejected) →
      invitationIdFromTerminalPayload event.kind event.payload = some record.invitationId →
      Concerns message record event
  | relationship {row : RelationshipEstablishedPayload} :
      event.kind = .relationshipEstablished →
      RelationshipEstablishedPayload.fromBytes event.payload = .ok row →
      row.invitationId = record.invitationId → Concerns message record event
  | burn {burned : StarterBurnedPayload} {payload : InvitationRejectedPayload} :
      event.kind = .starterBurned → StarterBurnedPayload.fromBytes event.payload = .ok burned →
      burned.starterId = record.starterId →
      InvitationRejectedPayload.fromBytes message.payload = .ok payload →
      payload.invitationId = record.invitationId → Concerns message record event

section Binding

variable {Seed : Type} (platform : Platform Seed) (seed : Seed) (localPubkey : PubKey)
  (outside : IngressOutside Seed) (message : DeliveryEnvelope) (counters : IngressCounters)
  (state : RuntimeState)

/-- If an envelope with a valid domain signature adds an event that concerns an own offer,
    it comes from the transport key the offer was addressed to. -/
def SenderBound : Prop :=
  ∀ kind event record, Delivered localPubkey state message kind event →
    Engine.verifyEvent platform event event.signer = true → HoldsOffer state record →
    (∃ new ∈ newEvents state
      (routeInboundEnvelope platform seed localPubkey outside message counters state).state,
      Concerns message record new) →
    message.fromPubkey = record.recipientPubkey

/-- A foreign answer that takes effect: a signed answer that names an own offer, arrives
    from another key than the offer was addressed to, and is either appended or, when it
    is skipped, still has an effect to project. -/
structure ForeignAnswer (kind : EventKind) (event : Event) (record : InvitationRecord) : Prop where
  delivered : Delivered localPubkey state message kind event
  genuine : Engine.verifyEvent platform event event.signer = true
  offer : HoldsOffer state record
  answer : kind = .invitationAccepted ∨ kind = .invitationRejected
  names : invitationIdFromTerminalPayload kind message.payload = some record.invitationId
  foreign : message.fromPubkey ≠ record.recipientPubkey
  effective :
    ¬ Skipped state message kind event ∧ TakesRemote platform outside.append state event ∨
    Skipped state message kind event ∧
      ∃ new, EffectEvent platform seed outside.effect state message kind new

end Binding

section Proofs

variable {Seed : Type} {platform : Platform Seed} {seed : Seed} {localPubkey : PubKey}
  {message : DeliveryEnvelope} {state : RuntimeState}

/-- The row of a delivered acceptance reads back, since such an acceptance carries a root. -/
theorem Delivered.row_fromBytes {event : Event} {payload : InvitationAcceptedPayload}
    (h : Delivered localPubkey state message .invitationAccepted event)
    (hparse : InvitationAcceptedPayload.fromBytes message.payload = .ok payload)
    (messageFrom : PubKey) (record : InvitationLookupRecord) (root : PubKey) :
    RelationshipEstablishedPayload.fromBytes
        (acceptedRow messageFrom record payload root).toBytes
      = .ok (acceptedRow messageFrom record payload root) := by
  apply RelationshipEstablishedPayload.fromBytes_toBytes
  intro hnone
  have hsome := h.accepted_root hparse
  simp [acceptedRow, hsome] at hnone

variable {record : InvitationRecord} {kind : EventKind} {outside : Outside Seed}

/-- The effect of an answer that names an offer concerns it. -/
private theorem effect_concerns {event new : Event} (hoffer : HoldsOffer state record)
    (hdelivered : Delivered localPubkey state message kind event)
    (hnames : invitationIdFromTerminalPayload kind message.payload = some record.invitationId)
    (heffect : EffectEvent platform seed outside state message kind new) :
    Concerns message record new := by
  obtain ⟨capsule, hcapsule, hoffer⟩ := hoffer
  obtain ⟨lookup, hlookup, hstarter, -⟩ := OwnOffer.find hcapsule hoffer
  cases heffect with
  | @row payload row _ hparse hrow hkind hbytes =>
    obtain ⟨-, found, root, hfound, -, rfl, -, -⟩ := hrow
    have hid : payload.invitationId = record.invitationId := by
      obtain ⟨hlength, rfl⟩ := InvitationAcceptedPayload.fromBytes_ok.mp hparse
      simpa [invitationIdFromTerminalPayload, hlength] using hnames
    apply Concerns.relationship hkind (by rw [hbytes]; exact hdelivered.row_fromBytes hparse ..)
    exact hid
  | @burn payload starterId _ hparse hburn hkind hbytes =>
    obtain ⟨found, hfound, hfoundStarter, -, -, -⟩ := hburn
    have hid : payload.invitationId = record.invitationId := by
      obtain ⟨hlength, -, hid⟩ := InvitationRejectedPayload.fromBytes_ok.mp hparse
      rw [hid]
      simpa [invitationIdFromTerminalPayload, hlength] using hnames
    rw [hid, hlookup] at hfound
    rw [← Option.some.inj hfound] at hfoundStarter
    refine .burn hkind (by rw [hbytes]; exact StarterBurnedPayload.fromBytes_toBytes _) ?_ hparse hid
    exact hfoundStarter.symm.trans hstarter

/-- An effect that concerns an offer comes from an answer that names it. -/
private theorem names_of_effect {after : RuntimeState} {event new : Event}
    (hdelivered : Delivered localPubkey state message kind event)
    (heffect : EffectEvent platform seed outside after message kind new)
    (hconcerns : Concerns message record new) :
    (kind = .invitationAccepted ∨ kind = .invitationRejected) ∧
      invitationIdFromTerminalPayload kind message.payload = some record.invitationId := by
  cases heffect with
  | @row payload row _ hparse hrow hkind hbytes =>
    refine ⟨Or.inl rfl, ?_⟩
    obtain ⟨-, found, root, hfound, -, rfl, -, -⟩ := hrow
    cases hconcerns with
    | answer hother _ => simp [hkind] at hother
    | burn hother => simp [hkind] at hother
    | relationship _ hrow hid =>
      rw [hbytes, hdelivered.row_fromBytes hparse] at hrow
      rw [← Except.ok.inj hrow] at hid
      obtain ⟨hlength, rfl⟩ := InvitationAcceptedPayload.fromBytes_ok.mp hparse
      unfold invitationIdFromTerminalPayload
      dsimp only
      rw [if_pos hlength]
      exact congrArg some hid
  | @burn payload starterId _ hparse hburn hkind hbytes =>
    refine ⟨Or.inr rfl, ?_⟩
    cases hconcerns with
    | answer hother _ => simp [hkind] at hother
    | relationship hother => simp [hkind] at hother
    | burn _ _ _ hparse' hid =>
      rw [← Except.ok.inj (hparse.symm.trans hparse')] at hid
      obtain ⟨hlength, -, hread⟩ := InvitationRejectedPayload.fromBytes_ok.mp hparse
      unfold invitationIdFromTerminalPayload
      dsimp only
      rw [if_pos hlength, ← hread, hid]

/-- A stored delivery that concerns an offer is an answer that names it. -/
private theorem names_of_stored {event stored : Event}
    (hdelivered : Delivered localPubkey state message kind event)
    (hkind : stored.kind = localKindOf kind) (hbytes : stored.payload = message.payload)
    (hconcerns : Concerns message record stored) :
    (kind = .invitationAccepted ∨ kind = .invitationRejected) ∧
      invitationIdFromTerminalPayload kind message.payload = some record.invitationId := by
  have hlocal := hdelivered.localKind
  cases hconcerns with
  | answer hanswer hnames =>
    rw [hkind, hbytes] at hnames
    rw [hkind] at hanswer
    cases kind <;> simp [localKindOf] at hanswer hnames ⊢ <;> exact hnames
  | relationship hother =>
    rw [hkind] at hother
    cases kind <;> simp [localKindOf] at hother hlocal
  | burn hother =>
    rw [hkind] at hother
    cases kind <;> simp [localKindOf] at hother hlocal

/-- **Sender binding.**  An envelope keeps to the addressed sender exactly when it is not
    a foreign answer that takes effect. -/
theorem senderBound_iff (outside : IngressOutside Seed) (counters : IngressCounters) :
    SenderBound platform seed localPubkey outside message counters state ↔
      ∀ kind event record,
        ¬ ForeignAnswer platform seed localPubkey outside message state kind event record := by
  have hcases := routeInboundEnvelope_cases platform seed localPubkey outside message counters
    state
  constructor
  · intro hbound kind event record h
    apply h.foreign
    refine hbound kind event record h.delivered h.genuine h.offer ?_
    rcases hcases with ⟨hnone, -⟩ | ⟨kind', event', hdelivered, hroute⟩
    · exact absurd h.delivered (hnone kind event)
    -- the envelope determines its kind and its event
    obtain rfl := Option.some.inj (h.delivered.kindKnown.symm.trans hdelivered.kindKnown)
    obtain rfl := Except.ok.inj (h.delivered.proof.symm.trans hdelivered.proof)
    rcases h.effective with ⟨hskip, htakes⟩ | ⟨hskip, new, heffect⟩
    · rcases hroute with ⟨hother, -⟩ | ⟨-, hother, -⟩ |
        ⟨-, -, middle, stored, hgrows, hkind, hbytes, -, hstate⟩
      · exact absurd hother hskip
      · exact absurd htakes hother
      have hstored : Concerns message record stored := by
        have hlocal : stored.kind = kind := by
          rw [hkind]
          rcases h.answer with rfl | rfl <;> rfl
        exact .answer (by rw [hlocal]; exact h.answer) (by rw [hlocal, hbytes]; exact h.names)
      rw [hstate]
      rcases deliveryEffect_cases platform seed outside.effect message kind middle with
        ⟨-, heffect⟩ | ⟨new, -, heffect⟩
      · exact ⟨stored, by rw [newEvents_of_grows (hgrows.trans heffect)]; simp, hstored⟩
      · exact ⟨stored, by rw [newEvents_of_grows (hgrows.trans heffect)]; simp, hstored⟩
    · rcases hroute with ⟨-, hstate⟩ | ⟨hother, -⟩ | ⟨hother, -⟩
      · rw [hstate]
        rcases deliveryEffect_cases platform seed outside.effect message kind state with
          ⟨hno, -⟩ | ⟨new', heffect', hgrows⟩
        · exact absurd heffect (hno new)
        · exact ⟨new', by rw [newEvents_of_grows hgrows]; simp,
            effect_concerns h.offer h.delivered h.names heffect'⟩
      · exact absurd hskip hother
      · exact absurd hskip hother
  · intro hno kind event record hdelivered hgenuine hoffer hnew
    obtain ⟨new, hmem, hconcerns⟩ := hnew
    by_contra hforeign
    rcases hcases with ⟨hnone, -⟩ | ⟨kind', event', hdelivered', hroute⟩
    · exact hnone kind event hdelivered
    obtain rfl := Option.some.inj (hdelivered.kindKnown.symm.trans hdelivered'.kindKnown)
    obtain rfl := Except.ok.inj (hdelivered.proof.symm.trans hdelivered'.proof)
    rcases hroute with ⟨hskip, hstate⟩ | ⟨-, -, hsame⟩ |
      ⟨hskip, htakes, middle, stored, hgrows, hkind, hbytes, -, hstate⟩
    · -- only the effect of a skipped answer
      rw [hstate] at hmem
      rcases deliveryEffect_cases platform seed outside.effect message kind state with
        ⟨-, hgrows⟩ | ⟨new', heffect, hgrows⟩
      · rw [newEvents_of_grows hgrows] at hmem
        simp at hmem
      · rw [newEvents_of_grows hgrows, List.mem_singleton] at hmem
        subst hmem
        obtain ⟨hanswer, hnames⟩ := names_of_effect hdelivered heffect hconcerns
        exact hno kind event record ⟨hdelivered, hgenuine, hoffer, hanswer, hnames, hforeign,
          Or.inr ⟨hskip, new, heffect⟩⟩
    · rw [newEvents_of_grows (StateGrows.of_capsule_eq hsame)] at hmem
      simp at hmem
    · -- the answer itself, then perhaps its effect
      have hanswered : (kind = .invitationAccepted ∨ kind = .invitationRejected) ∧
          invitationIdFromTerminalPayload kind message.payload = some record.invitationId := by
        rw [hstate] at hmem
        rcases deliveryEffect_cases platform seed outside.effect message kind middle with
          ⟨-, heffect⟩ | ⟨new', hnew', heffect⟩
        · rw [newEvents_of_grows (hgrows.trans heffect), List.append_nil,
            List.mem_singleton] at hmem
          subst hmem
          exact names_of_stored hdelivered hkind hbytes hconcerns
        · rw [newEvents_of_grows (hgrows.trans heffect)] at hmem
          rcases List.mem_append.mp hmem with hmem | hmem <;> rw [List.mem_singleton] at hmem <;>
            subst hmem
          · exact names_of_stored hdelivered hkind hbytes hconcerns
          · exact names_of_effect hdelivered hnew' hconcerns
      exact hno kind event record ⟨hdelivered, hgenuine, hoffer, hanswered.1, hanswered.2, hforeign,
        Or.inl ⟨hskip, htakes⟩⟩

end Proofs

/-! ### A third party that burns a starter -/

/-- The root and transport keys of the owner. -/
def ownerSeed : PubKey × PubKey := (⟨fill 32 7⟩, ⟨fill 32 17⟩)

/-- The owner created a starter and offers it to the transport key 8. -/
def openOfferState : RuntimeState where
  capsule := some {
    network := .neste
    ledger := .ofEvents ⟨fill 32 7⟩ [
      .new .starterCreated (List.replicate 64 2 ++ [0, 1]) 1 ⟨fill 64 0⟩ ⟨fill 32 7⟩,
      .new .invitationSent (List.replicate 32 1 ++ List.replicate 32 2 ++ List.replicate 32 8) 2
        ⟨fill 64 0⟩ ⟨fill 32 7⟩] }
  lastEngineTsMs := 2

/-- A rejection of that offer with an empty slot, as the root key 67 signs it. -/
def foreignReject : Event :=
  .new .invitationRejected (List.replicate 32 1 ++ [0]) 3
    ⟨⟨(sampleDigest ([4, 3] ++ List.replicate 32 1 ++ [0])).toList ++ List.replicate 32 67,
      by simp⟩⟩ ⟨fill 32 67⟩

/-- The rejection in an envelope from the transport key 66. -/
def foreignRejectEnvelope : DeliveryEnvelope where
  fromPubkey := ⟨fill 32 66⟩
  toPubkey := ⟨fill 32 17⟩
  kind := 3
  payload := foreignReject.payload
  timestamp := 3
  domainEvent := some {
    version := 4
    kind := 3
    signer := foreignReject.signer
    signature := foreignReject.signature.bytes.toList }

def sampleOutside : IngressOutside (PubKey × PubKey) where
  chatStored := true
  attestationStored := true
  append := { loadSeed := some ownerSeed, clock := some 4 }
  effect := { loadSeed := some ownerSeed, clock := some 5 }

def noCounters : IngressCounters := ⟨0, 0, 0, 0, 0, 0, 0, 0, 0, 0, 0, 0, 0, 0⟩

/-- The record of the open offer. -/
def openOffer : InvitationRecord :=
  offerRecord
    (.new .invitationSent (List.replicate 32 1 ++ List.replicate 32 2 ++ List.replicate 32 8) 2
      ⟨fill 64 0⟩ ⟨fill 32 7⟩)
    ⟨fill 32 1, ⟨fill 32 2⟩, ⟨fill 32 8⟩, none⟩

/-- **Counterexample.** The rejection of a third party is appended and burns the offered
    starter, although the offer was addressed to another key. -/
theorem foreignReject_burns :
    (newEvents openOfferState (routeInboundEnvelope samplePlatform ownerSeed ownerSeed.2
        sampleOutside foreignRejectEnvelope noCounters openOfferState).state).map
        (fun event => (event.kind, event.payload))
      = [(.invitationRejected, foreignReject.payload),
        (.starterBurned, List.replicate 32 2 ++ [0])] ∧
    ¬ SenderBound samplePlatform ownerSeed ownerSeed.2 sampleOutside foreignRejectEnvelope
      noCounters openOfferState := by
  have hkinds : (newEvents openOfferState (routeInboundEnvelope samplePlatform ownerSeed
      ownerSeed.2 sampleOutside foreignRejectEnvelope noCounters openOfferState).state).map
        (fun event => (event.kind, event.payload))
      = [(.invitationRejected, foreignReject.payload),
        (.starterBurned, List.replicate 32 2 ++ [0])] := by decide +kernel
  refine ⟨hkinds, ?_⟩
  intro hbound
  have hdelivered : Delivered ownerSeed.2 openOfferState foreignRejectEnvelope .invitationRejected
      foreignReject :=
    ⟨by decide +kernel, by decide +kernel, by decide +kernel, by decide +kernel,
      by decide +kernel, by decide +kernel⟩
  have hoffer : HoldsOffer openOfferState openOffer :=
    ⟨_, rfl, by decide +kernel, by decide +kernel, by decide +kernel⟩
  have hsender := hbound .invitationRejected foreignReject openOffer hdelivered
    (by decide +kernel) hoffer ?_
  · exact absurd hsender (by decide +kernel)
  · obtain ⟨new, hnew, hfields⟩ := List.mem_map.mp
      (show (EventKind.invitationRejected, foreignReject.payload) ∈ _ by rw [hkinds]; simp)
    rw [Prod.mk.injEq] at hfields
    exact ⟨new, hnew, .answer (Or.inr hfields.1) (by rw [hfields.1, hfields.2]; decide +kernel)⟩

end Hivra
