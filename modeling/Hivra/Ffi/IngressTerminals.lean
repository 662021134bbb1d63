import Hivra.Ffi.SenderBinding

namespace Hivra

open ByteString Replay

/-!
# Answers behind the first terminal

Once an own offer has its terminal, every further answer to it is skipped.  The route
still projects the effect of the skipped answer, and it takes that effect from the
payload at hand, not from the terminal in the ledger.
-/

/-- The first terminal of an own offer stands: the state holds the offer with the status
    of `winner`, and that is not pending. -/
structure Settled (state : RuntimeState) (winner : InvitationRecord) : Prop where
  settled : winner.status ≠ .pending
  holds : ∃ record, HoldsOffer state record ∧ record.asOffered = winner.asOffered ∧
    record.status = winner.status

variable {winner : InvitationRecord} {state : RuntimeState}

theorem Settled.of_holds (h : HoldsOffer state winner) (hstatus : winner.status ≠ .pending) :
    Settled state winner :=
  ⟨hstatus, winner, h, rfl, rfl⟩

theorem Settled.grows {state state' : RuntimeState} {new : List Event} (h : Settled state winner)
    (hgrows : StateGrows state state' new) : Settled state' winner := by
  obtain ⟨record, hholds, hoffered, hstatus⟩ := h.holds
  obtain ⟨record', hholds', hoffered', hstatus'⟩ := hholds.grows hgrows
  refine ⟨h.settled, record', hholds', hoffered'.trans hoffered, ?_⟩
  exact (hstatus' (by rw [hstatus]; exact h.settled)).trans hstatus

/-- The lookup of the host interface finds a settled offer. -/
theorem Settled.find (h : Settled state winner) :
    ∃ lookup, findInvitationSentInRuntimeWithDirection state winner.invitationId (some false)
      = some lookup ∧ lookup.starterId = winner.starterId := by
  obtain ⟨record, ⟨capsule, hcapsule, hoffer⟩, hoffered, -⟩ := h.holds
  have hid : record.invitationId = winner.invitationId :=
    InvitationRecord.invitationId_of_asOffered hoffered
  have hstarter : record.starterId = winner.starterId :=
    InvitationRecord.starterId_of_asOffered hoffered
  obtain ⟨lookup, hlookup, hlookupStarter, -⟩ := hoffer.find hcapsule
  exact ⟨lookup, by rw [← hid]; exact hlookup, hlookupStarter.trans hstarter⟩

/-- An answer to a settled offer is skipped. -/
theorem Settled.skipped {message : DeliveryEnvelope} {kind : EventKind} (h : Settled state winner)
    (event : Event) (hkind : kind = .invitationAccepted ∨ kind = .invitationRejected)
    (hnames : invitationIdFromTerminalPayload kind message.payload = some winner.invitationId) :
    Skipped state message kind event := by
  obtain ⟨record, ⟨capsule, hcapsule, hoffer⟩, hoffered, hstatus⟩ := h.holds
  have hid : record.invitationId = winner.invitationId :=
    InvitationRecord.invitationId_of_asOffered hoffered
  have hresolved := hoffer.resolved hcapsule (by rw [hstatus]; exact h.settled)
  rw [hid] at hresolved
  have hlocal : localKindOf kind = kind := by rcases hkind with rfl | rfl <;> rfl
  unfold Skipped
  rw [hlocal]
  exact shouldSkip_of_resolved event.signer _ hkind hnames hresolved

section Route

variable {Seed : Type} (platform : Platform Seed) (seed : Seed) (localPubkey : PubKey)

/-- Routing an envelope adds events to the ledger and does nothing else to it. -/
theorem routeInboundEnvelope_grows (outside : IngressOutside Seed) (message : DeliveryEnvelope)
    (counters : IngressCounters) (state : RuntimeState) :
    ∃ new, StateGrows state
      (routeInboundEnvelope platform seed localPubkey outside message counters state).state
      new := by
  have heffect : ∀ kind from', ∃ new, StateGrows from'
      (deliveryEffect platform seed outside.effect message kind from') new := by
    intro kind from'
    rcases deliveryEffect_cases platform seed outside.effect message kind from' with
      ⟨-, hgrows⟩ | ⟨event, -, hgrows⟩
    · exact ⟨[], hgrows⟩
    · exact ⟨[event], hgrows⟩
  rcases routeInboundEnvelope_cases platform seed localPubkey outside message counters state with
    ⟨-, hstate⟩ | ⟨kind, event, -, ⟨-, hstate⟩ | ⟨-, -, hsame⟩ |
      ⟨-, -, middle, stored, hgrows, -, -, -, hstate⟩⟩
  · exact ⟨[], .of_capsule_eq (by rw [hstate])⟩
  · rw [hstate]
    exact heffect kind state
  · exact ⟨[], .of_capsule_eq hsame⟩
  · obtain ⟨new, hmore⟩ := heffect kind middle
    rw [hstate]
    exact ⟨stored :: new, hgrows.trans hmore⟩

variable {winner : InvitationRecord}

/-- **Step lemma.**  The winning terminal stays, whatever is routed. -/
theorem Settled.step {state : RuntimeState} (h : Settled state winner)
    (outside : IngressOutside Seed) (message : DeliveryEnvelope) (counters : IngressCounters) :
    Settled (routeInboundEnvelope platform seed localPubkey outside message counters state).state
      winner := by
  obtain ⟨new, hgrows⟩ :=
    routeInboundEnvelope_grows platform seed localPubkey outside message counters state
  exact h.grows hgrows

/-- Route envelopes one after another. -/
def routeAll (counters : IngressCounters) (state : RuntimeState)
    (steps : List (IngressOutside Seed × DeliveryEnvelope)) : IngressCounters × RuntimeState :=
  replay (fun at' step =>
    let outcome := routeInboundEnvelope platform seed localPubkey step.1 step.2 at'.1 at'.2
    (outcome.counters, outcome.state)) (counters, state) steps

/-- **Run lemma.**  The winning terminal stays over every run. -/
theorem Settled.run {state : RuntimeState} (h : Settled state winner) (counters : IngressCounters)
    (steps : List (IngressOutside Seed × DeliveryEnvelope)) :
    Settled (routeAll platform seed localPubkey counters state steps).2 winner := by
  refine replay_invariant (P := fun at' : IngressCounters × RuntimeState =>
    Settled at'.2 winner) h ?_
  intro at' step _ hsettled
  exact hsettled.step platform seed localPubkey step.1 step.2 at'.1

end Route

/-! ### Effects behind the winner -/

/-- An event only completes the winning terminal: it is the relationship of a winning
    acceptance, with its sender, created starter and accepter root, or the burn of the
    offered starter behind a winning rejection with an empty slot. -/
inductive Completes (winner : InvitationRecord) (sender : PubKey) (event : Event) : Prop
  | relationship {created : StarterId} {fromPubkey : PubKey} {root : Option PubKey}
      {row : RelationshipEstablishedPayload} :
      winner.status = .accepted created fromPubkey root → event.kind = .relationshipEstablished →
      RelationshipEstablishedPayload.fromBytes event.payload = .ok row →
      row.invitationId = winner.invitationId → row.peerPubkey = sender →
      row.peerStarterId = created → row.peerRootPubkey = root → Completes winner sender event
  | burn : winner.status = .rejected .emptySlot → event.kind = .starterBurned →
      event.payload = StarterBurnedPayload.toBytes
        ⟨winner.starterId, RejectReason.emptySlot.toByte⟩ →
      Completes winner sender event

/-- A delivered answer has the effect of the winning terminal: an acceptance comes from
    the winner's sender with the winner's created starter and accepter root; a rejection
    stands behind a winning rejection with an empty slot. -/
def HasWinningEffect (winner : InvitationRecord) (sender : PubKey) (message : DeliveryEnvelope)
    (kind : EventKind) : Prop :=
  match kind with
  | .invitationAccepted =>
    ∃ payload fromPubkey, InvitationAcceptedPayload.fromBytes message.payload = .ok payload ∧
      winner.status = .accepted payload.createdStarterId fromPubkey payload.accepterRootPubkey ∧
      message.fromPubkey = sender
  | _ => winner.status = .rejected .emptySlot

section Step

variable {Seed : Type} (platform : Platform Seed) (seed : Seed) (localPubkey : PubKey)
  (outside : IngressOutside Seed) (message : DeliveryEnvelope)

/-- The envelope answers the offer behind `winner`. -/
def Answers (state : RuntimeState) (winner : InvitationRecord) (kind : EventKind)
    (event : Event) : Prop :=
  Delivered localPubkey state message kind event ∧
    (kind = .invitationAccepted ∨ kind = .invitationRejected) ∧
    invitationIdFromTerminalPayload kind message.payload = some winner.invitationId

/-- If the envelope is an answer to the offer, all it adds completes the winner. -/
def HarmlessStep (counters : IngressCounters) (state : RuntimeState) (winner : InvitationRecord)
    (sender : PubKey) : Prop :=
  ∀ kind event, Answers localPubkey message state winner kind event →
    ∀ new ∈ newEvents state
      (routeInboundEnvelope platform seed localPubkey outside message counters state).state,
      Completes winner sender new

/-- If the envelope is an answer to the offer with an effect to project, it has the effect
    of the winner. -/
def MeetsWinner (state : RuntimeState) (winner : InvitationRecord) (sender : PubKey) : Prop :=
  ∀ kind event new, Answers localPubkey message state winner kind event →
    EffectEvent platform seed outside.effect state message kind new →
    HasWinningEffect winner sender message kind

variable {platform seed localPubkey outside message} {winner : InvitationRecord}
  {state : RuntimeState}

/-- All a late answer adds is its effect. -/
private theorem late_state {kind : EventKind} {event : Event} (hsettled : Settled state winner)
    (h : Answers localPubkey message state winner kind event) (counters : IngressCounters) :
    (routeInboundEnvelope platform seed localPubkey outside message counters state).state
      = deliveryEffect platform seed outside.effect message kind state := by
  obtain ⟨hdelivered, hanswer, hnames⟩ := h
  rcases routeInboundEnvelope_cases platform seed localPubkey outside message counters state with
    ⟨hnone, -⟩ | ⟨kind', event', hdelivered', hroute⟩
  · exact absurd hdelivered (hnone kind event)
  obtain rfl := Option.some.inj (hdelivered.kindKnown.symm.trans hdelivered'.kindKnown)
  rcases hroute with ⟨-, hstate⟩ | ⟨hskip, -⟩ | ⟨hskip, -⟩
  · exact hstate
  · exact absurd (hsettled.skipped event' hanswer hnames) hskip
  · exact absurd (hsettled.skipped event' hanswer hnames) hskip

/-- An effect completes the winner exactly when the answer has the winner's effect. -/
private theorem completes_iff {sender : PubKey} {kind : EventKind} {event new : Event}
    (hsettled : Settled state winner) (h : Answers localPubkey message state winner kind event)
    (heffect : EffectEvent platform seed outside.effect state message kind new) :
    Completes winner sender new ↔ HasWinningEffect winner sender message kind := by
  obtain ⟨hdelivered, -, hnames⟩ := h
  cases heffect with
  | @row payload row _ hparse hrow hkind hbytes =>
    obtain ⟨-, lookup, root, hlookup, -, rfl, -, -⟩ := hrow
    have hread := hdelivered.row_fromBytes hparse message.fromPubkey lookup root
    have hid : payload.invitationId = winner.invitationId := by
      obtain ⟨hlength, rfl⟩ := InvitationAcceptedPayload.fromBytes_ok.mp hparse
      simpa [invitationIdFromTerminalPayload, hlength] using hnames
    constructor
    · intro hcompletes
      cases hcompletes with
      | burn _ hother => simp [hkind] at hother
      | @relationship _ fromPubkey _ _ hstatus _ hother _ hpeer hcreated hroot =>
        rw [hbytes, hread] at hother
        rw [← Except.ok.inj hother] at hpeer hcreated hroot
        refine ⟨payload, fromPubkey, hparse, ?_, hpeer⟩
        rw [hstatus, ← hcreated, ← hroot]
        rfl
    · rintro ⟨payload', fromPubkey, hparse', hstatus, hsender⟩
      obtain rfl := Except.ok.inj (hparse.symm.trans hparse')
      exact .relationship hstatus hkind (by rw [hbytes]; exact hread) hid hsender rfl rfl
  | @burn payload starterId _ hparse hburn hkind hbytes =>
    constructor
    · intro hcompletes
      cases hcompletes with
      | burn hstatus => exact hstatus
      | relationship _ hother => simp [hkind] at hother
    · intro hstatus
      refine .burn hstatus hkind ?_
      obtain ⟨lookup, hlookup, hstarter, -⟩ := hburn
      obtain ⟨lookup', hlookup', hstarter'⟩ := hsettled.find
      have hid : payload.invitationId = winner.invitationId := by
        obtain ⟨hlength, -, hid⟩ := InvitationRejectedPayload.fromBytes_ok.mp hparse
        rw [hid]
        simpa [invitationIdFromTerminalPayload, hlength] using hnames
      rw [hid, hlookup'] at hlookup
      rw [hbytes, ← hstarter, ← Option.some.inj hlookup, hstarter']

/-- One envelope behind the first terminal only completes the winner exactly when its own
    effect, if it has one, is that of the winner. -/
theorem harmlessStep_iff {sender : PubKey} (hsettled : Settled state winner)
    (counters : IngressCounters) :
    HarmlessStep platform seed localPubkey outside message counters state winner sender ↔
      MeetsWinner platform seed localPubkey outside message state winner sender := by
  constructor
  · intro hharmless kind event new hanswers heffect
    have hnew := hharmless kind event hanswers
    rw [late_state hsettled hanswers counters] at hnew
    rcases deliveryEffect_cases platform seed outside.effect message kind state with
      ⟨hnone, -⟩ | ⟨new', heffect', hgrows⟩
    · exact absurd heffect (hnone new)
    · rw [newEvents_of_grows hgrows] at hnew
      exact (completes_iff hsettled hanswers heffect').mp (hnew new' (by simp))
  · intro hmeets kind event hanswers new hnew
    rw [late_state hsettled hanswers counters] at hnew
    rcases deliveryEffect_cases platform seed outside.effect message kind state with
      ⟨-, hgrows⟩ | ⟨new', heffect, hgrows⟩
    · rw [newEvents_of_grows hgrows] at hnew
      simp at hnew
    · rw [newEvents_of_grows hgrows, List.mem_singleton] at hnew
      subst hnew
      exact (completes_iff hsettled hanswers heffect).mpr (hmeets kind event new hanswers heffect)

end Step

/-- **Runs behind the first terminal.**  From a state whose ledger holds an own offer with
    its first terminal, every envelope of a run only completes that terminal exactly when
    every answer of the run that still has an effect has the effect of the winner. -/
theorem settled_run_iff {Seed : Type} (platform : Platform Seed) (seed : Seed)
    (localPubkey : PubKey) (counters : IngressCounters) (state : RuntimeState)
    (winner : InvitationRecord) (sender : PubKey)
    (steps : List (IngressOutside Seed × DeliveryEnvelope)) (hoffer : HoldsOffer state winner)
    (hterminal : winner.status ≠ .pending) :
    (∀ front outside message back, steps = front ++ (outside, message) :: back →
      HarmlessStep platform seed localPubkey outside message
        (routeAll platform seed localPubkey counters state front).1
        (routeAll platform seed localPubkey counters state front).2 winner sender) ↔
    (∀ front outside message back, steps = front ++ (outside, message) :: back →
      MeetsWinner platform seed localPubkey outside message
        (routeAll platform seed localPubkey counters state front).2 winner sender) := by
  have hstep : ∀ front outside message, HarmlessStep platform seed localPubkey outside message
        (routeAll platform seed localPubkey counters state front).1
        (routeAll platform seed localPubkey counters state front).2 winner sender ↔
      MeetsWinner platform seed localPubkey outside message
        (routeAll platform seed localPubkey counters state front).2 winner sender := by
    intro front outside message
    have hsettled := (Settled.of_holds hoffer hterminal).run platform seed localPubkey counters
      front
    exact harmlessStep_iff hsettled _
  constructor
  · intro h front outside message back hsteps
    exact (hstep front outside message).mp (h front outside message back hsteps)
  · intro h front outside message back hsteps
    exact (hstep front outside message).mpr (h front outside message back hsteps)

/-! ### A second acceptance -/

/-- The acceptance of the open offer that a root key signs for a created starter. -/
def acceptanceBy (root created : UInt8) : Event :=
  .new .invitationAccepted (InvitationAcceptedPayload.toBytes
      ⟨fill 32 1, ⟨fill 32 17⟩, ⟨fill 32 created⟩, some ⟨fill 32 root⟩⟩) 3
    ⟨⟨(sampleDigest ([4, 2] ++ InvitationAcceptedPayload.toBytes
      ⟨fill 32 1, ⟨fill 32 17⟩, ⟨fill 32 created⟩, some ⟨fill 32 root⟩⟩)).toList ++
        List.replicate 32 root, by simp⟩⟩ ⟨fill 32 root⟩

/-- Such an acceptance in an envelope from a transport key. -/
def acceptanceEnvelope (sender root created : UInt8) : DeliveryEnvelope where
  fromPubkey := ⟨fill 32 sender⟩
  toPubkey := ⟨fill 32 17⟩
  kind := 2
  payload := (acceptanceBy root created).payload
  timestamp := 3
  domainEvent := some {
    version := 4
    kind := 2
    signer := ⟨fill 32 root⟩
    signature := (acceptanceBy root created).signature.bytes.toList }

/-- The open offer, accepted by the root key 68 with the starter 3. -/
def acceptedState : RuntimeState where
  capsule := some {
    network := .neste
    ledger := .ofEvents ⟨fill 32 7⟩ [
      .new .starterCreated (List.replicate 64 2 ++ [0, 1]) 1 ⟨fill 64 0⟩ ⟨fill 32 7⟩,
      .new .invitationSent (List.replicate 32 1 ++ List.replicate 32 2 ++ List.replicate 32 8) 2
        ⟨fill 64 0⟩ ⟨fill 32 7⟩,
      acceptanceBy 68 3] }
  lastEngineTsMs := 3

/-- The record of the accepted offer. -/
def acceptedOffer : InvitationRecord :=
  { openOffer with
    respondedAt := some 3
    respondedSigner := some ⟨fill 32 68⟩
    status := .accepted ⟨fill 32 3⟩ ⟨fill 32 17⟩ (some ⟨fill 32 68⟩) }

private theorem holds_acceptedOffer : HoldsOffer acceptedState acceptedOffer :=
  ⟨_, rfl, by decide +kernel, by decide +kernel, by decide +kernel⟩

/-- The winner's own acceptance, delivered again, only completes it. -/
theorem settled_run_redelivered :
    acceptedOffer.status ≠ .pending ∧ ∀ front outside message back,
      [(sampleOutside, acceptanceEnvelope 8 68 3)] = front ++ (outside, message) :: back →
      HarmlessStep samplePlatform ownerSeed ownerSeed.2 outside message
        (routeAll samplePlatform ownerSeed ownerSeed.2 noCounters acceptedState front).1
        (routeAll samplePlatform ownerSeed ownerSeed.2 noCounters acceptedState front).2
        acceptedOffer ⟨fill 32 8⟩ := by
  refine ⟨by decide +kernel, (settled_run_iff samplePlatform ownerSeed ownerSeed.2 noCounters
    acceptedState acceptedOffer ⟨fill 32 8⟩ [(sampleOutside, acceptanceEnvelope 8 68 3)]
    holds_acceptedOffer (by decide +kernel)).mpr ?_⟩
  intro front outside message back hsteps kind event new hanswers _
  have hmessage : message = acceptanceEnvelope 8 68 3 := by
    rw [List.singleton_eq_append_iff] at hsteps
    simp at hsteps
    exact hsteps.2.1.2
  subst hmessage
  have hkind : some EventKind.invitationAccepted = some kind :=
    (show envelopeEventKind (acceptanceEnvelope 8 68 3).kind = _ by decide +kernel).symm.trans
      hanswers.1.kindKnown
  obtain rfl := Option.some.inj hkind
  exact ⟨⟨fill 32 1, ⟨fill 32 17⟩, ⟨fill 32 3⟩, some ⟨fill 32 68⟩⟩, ⟨fill 32 17⟩,
    InvitationAcceptedPayload.fromBytes_toBytes _, rfl, rfl⟩

/-- **Counterexample.**  Another acceptance of the accepted offer, from another key with
    another starter, is skipped, and still establishes a relationship of its own. -/
theorem lateAcceptance_establishes :
    (newEvents acceptedState (routeInboundEnvelope samplePlatform ownerSeed ownerSeed.2
        sampleOutside (acceptanceEnvelope 66 67 5) noCounters acceptedState).state).map
        (fun event => (event.kind, event.payload.take 32))
      = [(.relationshipEstablished, List.replicate 32 66)] ∧
    ∀ sender : PubKey, ¬ HarmlessStep samplePlatform ownerSeed ownerSeed.2 sampleOutside
      (acceptanceEnvelope 66 67 5) noCounters acceptedState acceptedOffer sender := by
  refine ⟨by decide +kernel, ?_⟩
  intro sender hharmless
  have hanswers : Answers ownerSeed.2 (acceptanceEnvelope 66 67 5) acceptedState acceptedOffer
      .invitationAccepted (acceptanceBy 67 5) :=
    ⟨⟨by decide +kernel, by decide +kernel, by decide +kernel, by decide +kernel,
      by decide +kernel, by decide +kernel⟩, Or.inl rfl, by decide +kernel⟩
  have hrows : (newEvents acceptedState (routeInboundEnvelope samplePlatform ownerSeed
      ownerSeed.2 sampleOutside (acceptanceEnvelope 66 67 5) noCounters acceptedState).state).map
        (fun event => (event.kind, (RelationshipEstablishedPayload.fromBytes event.payload).toOption.map
          RelationshipEstablishedPayload.peerStarterId))
      = [(.relationshipEstablished, some ⟨fill 32 5⟩)] := by decide +kernel
  obtain ⟨new, hnew, hrow⟩ := List.mem_map.mp
    (show (EventKind.relationshipEstablished, some (StarterId.mk (fill 32 5))) ∈ _ by
      rw [hrows]; simp)
  rw [Prod.mk.injEq] at hrow
  cases hharmless .invitationAccepted _ hanswers new hnew with
  | relationship hstatus _ hparse _ _ hcreated _ =>
    rw [hparse] at hrow
    have hstarter := hrow.2
    simp only [Except.toOption, Option.map_some, Option.some.injEq] at hstarter
    rw [hstarter] at hcreated
    rw [← hcreated] at hstatus
    simp only [acceptedOffer, InvitationStatus.accepted.injEq] at hstatus
    exact absurd hstatus.1 (by decide +kernel)
  | burn hstatus => exact absurd hstatus (by decide +kernel)

end Hivra
