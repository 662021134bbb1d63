import Hivra.Ffi.Acceptance
import Hivra.Ffi.SenderBinding

namespace Hivra

open ByteString Replay

/-!
# What a sender revoke takes away

The sender of an offer may expire it after the recipient accepted it.  The slots then
leave out the starter the acceptance names as created.  An acceptance that reuses a
live starter names that one, so the revoke takes a starter the acceptance did not create.
-/

/-- An expiry of an incoming invitation by the signer of its offer. -/
structure SenderRevoke (ledger : Ledger) (invitationId : InvitationId) (event : Event) : Prop where
  expires : expiredInvitation event = some invitationId
  offered : ∃ record, findInvitation ledger invitationId = some record ∧
    record.direction = .incoming ∧ event.signer = record.offerSigner

/-- The starters a list of events creates. -/
def createdStarters (events : List Event) : List StarterId := events.filterMap createdStarter

/-- One more event takes exactly the given starters out of their slots. -/
def ExactRevoke (ledger : Ledger) (event : Event) (created : List StarterId) : Prop :=
  ∀ index, (SlotLayout.fromLedger (ledger.extend [event])).starterIdAt index
    = ((SlotLayout.fromLedger ledger).starterIdAt index).filter fun id => decide (id ∉ created)

/-! ### Slots and placements -/

theorem starterIdAt_fromLedger (ledger : Ledger) (index : SlotIndex) :
    (SlotLayout.fromLedger ledger).starterIdAt index
      = (placement ledger.owner (revokedCreatedStarterIds ledger) ledger.events).starterIdAt
          index := by
  have hslots := SlotLayout.fromLedger_slots ledger
  rw [← unlockedLayout_eq]
  unfold SlotLayout.starterIdAt SlotLayout.stateAt
  simp only [List.get_eq_getElem, hslots, List.getElem_map, starterId_lockIn]

theorem starterIdAt_without (layout : SlotLayout) (id : StarterId) (index : SlotIndex) :
    (layout.without id).starterIdAt index
      = (layout.starterIdAt index).filter fun other => decide (other ≠ id) := by
  have hslot : ∀ state : SlotState, (leaveOut id state).starterId
      = state.starterId.filter fun other => decide (other ≠ id) := by
    intro state
    unfold leaveOut
    cases hstarter : state.starterId with
    | none => simp [SlotState.holds, hstarter]
    | some other =>
      rw [Option.filter_some]
      by_cases hsame : other = id
      · rw [if_pos (by simp [SlotState.holds, hstarter, hsame]), if_neg (by simpa using hsame)]
        rfl
      · simp [SlotState.holds, hstarter, hsame]
  unfold SlotLayout.starterIdAt SlotLayout.stateAt SlotLayout.without
  simp only [List.get_eq_getElem, List.getElem_map, hslot]

/-- A layout holds a starter iff it stands in some slot. -/
theorem containsStarter_iff (layout : SlotLayout) (id : StarterId) :
    layout.containsStarter id = true ↔ ∃ index, layout.starterIdAt index = some id := by
  unfold SlotLayout.containsStarter SlotLayout.starterIdAt SlotLayout.stateAt
  rw [List.any_eq_true]
  constructor
  · rintro ⟨state, hmem, hholds⟩
    obtain ⟨i, hi, rfl⟩ := List.getElem_of_mem hmem
    exact ⟨⟨i, by rw [← layout.capacity]; exact hi⟩, SlotState.holds_iff.mp hholds⟩
  · rintro ⟨index, hindex⟩
    exact ⟨_, List.get_mem _ _, SlotState.holds_iff.mpr hindex⟩

/-- A starter is active for the host interface iff the placement holds it. -/
theorem starterIsActive_iff {state : RuntimeState} {capsule : Capsule}
    (hcapsule : state.capsule = some capsule) (id : StarterId) :
    starterIsActiveInRuntime state id = true ↔
      (placement capsule.ledger.owner (revokedCreatedStarterIds capsule.ledger)
        capsule.ledger.events).containsStarter id = true := by
  have hfind : ((SlotLayout.fromLedger capsule.ledger).findByStarter id).isSome = true ↔
      (SlotLayout.fromLedger capsule.ledger).containsStarter id = true := by
    unfold SlotLayout.findByStarter SlotLayout.containsStarter
    rw [List.any_eq_true]
    constructor
    · intro h
      cases hindex : (SlotLayout.fromLedger capsule.ledger).slots.findIdx? (SlotState.holds id) with
      | none => simp [hindex] at h
      | some i =>
        rw [List.findIdx?_eq_some_iff_getElem] at hindex
        obtain ⟨hi, hholds, -⟩ := hindex
        exact ⟨_, List.getElem_mem hi, hholds⟩
    · rintro ⟨state, hmem, hholds⟩
      cases hindex : (SlotLayout.fromLedger capsule.ledger).slots.findIdx? (SlotState.holds id) with
      | none =>
        rw [List.findIdx?_eq_none_iff] at hindex
        simp [hindex state hmem] at hholds
      | some i =>
        rw [List.findIdx?_eq_some_iff_getElem] at hindex
        obtain ⟨hi, -⟩ := hindex
        have hrange : i < 5 := by
          rw [(SlotLayout.fromLedger capsule.ledger).capacity] at hi
          exact hi
        simp [SlotIndex.new, hrange]
  unfold starterIsActiveInRuntime
  simp only [hcapsule]
  rw [hfind, containsStarter_iff, containsStarter_iff]
  simp only [starterIdAt_fromLedger]

/-! ### Revoked starters of longer ledgers -/

/-- The offer a sender revoke refers to stands in the ledger. -/
theorem SenderRevoke.offer {ledger : Ledger} {invitationId : InvitationId} {event : Event}
    (h : SenderRevoke ledger invitationId event) :
    ∃ offer ∈ ledger.events, isSenderSignedOffer event.signer invitationId offer = true := by
  obtain ⟨record, hfind, hdirection, hsigner⟩ := h.offered
  have hmem := List.mem_of_find?_eq_some hfind
  have hid : record.invitationId = invitationId := by simpa using List.find?_some hfind
  obtain ⟨front, offer, payload, back, hfirst, hoffered, -⟩ := record_history ledger.owner hmem
  have hofferId := InvitationRecord.invitationId_of_asOffered (b := offerRecord offer payload)
    (hoffered.trans rfl)
  have hofferDirection := congrArg InvitationRecord.direction hoffered
  have hofferSigner := congrArg InvitationRecord.offerSigner hoffered
  simp only [InvitationRecord.asOffered, offerRecord] at hofferId hofferDirection hofferSigner
  refine ⟨offer, by rw [hfirst.split]; simp, ?_⟩
  have hkind : offer.kind = .invitationReceived := by
    rw [hdirection, offerDirection] at hofferDirection
    by_contra hother
    rw [if_neg hother] at hofferDirection
    exact absurd hofferDirection (by simp)
  obtain ⟨hlength, rfl⟩ := InvitationSentPayload.fromBytes_ok.mp hfirst.offerOf.2
  have hlong : 32 ≤ offer.payload.length := by
    simp [InvitationSentPayload.validLengths] at hlength
    omega
  simp [isSenderSignedOffer, hkind, hsigner, hofferSigner, hlong, ← hid, hofferId]

variable {ledger : Ledger} {event : Event} {invitationId : InvitationId}

/-- A revoke adds its invitation to the expired ones. -/
private theorem mem_expired_extend (h : SenderRevoke ledger invitationId event)
    (id : InvitationId) :
    id ∈ expiredInvitationIds (ledger.events ++ [event]) ↔
      id ∈ expiredInvitationIds ledger.events ∨ id = invitationId := by
  have hkind : event.kind = .invitationExpired := by
    have hexpires := h.expires
    unfold expiredInvitation at hexpires
    split_ifs at hexpires with hkind
    exact hkind
  have hnoOffer : ∀ signer id, isSenderSignedOffer signer id event = false := by
    intro signer id
    simp [isSenderSignedOffer, hkind]
  rw [mem_expiredInvitationIds_iff, mem_expiredInvitationIds_iff]
  simp only [List.mem_append, List.mem_singleton, or_and_right, exists_or, exists_eq_left,
    hnoOffer, Bool.false_eq_true, or_false, h.expires, Option.some.injEq]
  constructor
  · rintro (hold | ⟨hid, -⟩)
    · exact Or.inl hold
    · exact Or.inr hid.symm
  · rintro (hold | hid)
    · exact Or.inl hold
    · exact Or.inr ⟨hid.symm, by rw [hid]; exact h.offer⟩

/-- **What a revoke adds.**  The revoked starters of the longer ledger are those of the
    shorter one and the starters its acceptances of the invitation name. -/
theorem mem_revoked_extend (h : SenderRevoke ledger invitationId event) (starterId : StarterId) :
    starterId ∈ revokedCreatedStarterIds (ledger.extend [event]) ↔
      starterId ∈ revokedCreatedStarterIds ledger ∨
        ∃ accepted ∈ ledger.events, acceptedStarter accepted = some (invitationId, starterId) := by
  have hnotAccepted : acceptedStarter event = none := by
    have hexpires := h.expires
    unfold expiredInvitation at hexpires
    split_ifs at hexpires with hkind
    simp [acceptedStarter, hkind]
  rw [mem_revokedCreatedStarterIds_iff, mem_revokedCreatedStarterIds_iff]
  simp only [Ledger.extend_events, List.mem_append, List.mem_singleton, or_and_right, exists_or,
    exists_eq_left, hnotAccepted, reduceCtorEq, false_and, exists_false, or_false,
    mem_expired_extend h]
  constructor
  · rintro ⟨accepted, hmem, id, hnames, hold | rfl⟩
    · exact Or.inl ⟨accepted, hmem, id, hnames, hold⟩
    · exact Or.inr ⟨accepted, hmem, hnames⟩
  · rintro (⟨accepted, hmem, id, hnames, hold⟩ | ⟨accepted, hmem, hnames⟩)
    · exact ⟨accepted, hmem, id, hnames, Or.inl hold⟩
    · exact ⟨accepted, hmem, invitationId, hnames, Or.inr rfl⟩

/-- Events that expire and offer nothing, and accept only invitations that did not expire,
    revoke nothing. -/
theorem mem_revoked_of_quiet {ledger ledger' : Ledger} {new : List Event}
    (hevents : ledger'.events = ledger.events ++ new)
    (hexpires : ∀ event ∈ new, expiredInvitation event = none)
    (hoffers : ∀ event ∈ new, event.kind ≠ .invitationReceived)
    (haccepts : ∀ event ∈ new, ∀ id starterId, acceptedStarter event = some (id, starterId) →
      id ∉ expiredInvitationIds ledger.events) (starterId : StarterId) :
    starterId ∈ revokedCreatedStarterIds ledger' ↔
      starterId ∈ revokedCreatedStarterIds ledger := by
  have hexpired : ∀ id, id ∈ expiredInvitationIds ledger'.events ↔
      id ∈ expiredInvitationIds ledger.events := by
    intro id
    rw [mem_expiredInvitationIds_iff, mem_expiredInvitationIds_iff, hevents]
    constructor
    · rintro ⟨event, hevent, hnames, offer, hoffer, hsigned⟩
      rcases List.mem_append.mp hevent with hevent | hevent
      · rcases List.mem_append.mp hoffer with hoffer | hoffer
        · exact ⟨event, hevent, hnames, offer, hoffer, hsigned⟩
        · simp [isSenderSignedOffer, hoffers offer hoffer] at hsigned
      · simp [hexpires event hevent] at hnames
    · rintro ⟨event, hevent, hnames, offer, hoffer, hsigned⟩
      exact ⟨event, List.mem_append_left _ hevent, hnames, offer, List.mem_append_left _ hoffer,
        hsigned⟩
  rw [mem_revokedCreatedStarterIds_iff, mem_revokedCreatedStarterIds_iff]
  simp only [hexpired]
  simp only [hevents, List.mem_append]
  constructor
  · rintro ⟨event, hevent | hevent, id, hnames, hid⟩
    · exact ⟨event, hevent, id, hnames, hid⟩
    · exact absurd hid (haccepts event hevent id starterId hnames)
  · rintro ⟨event, hevent, id, hnames, hid⟩
    exact ⟨event, Or.inl hevent, id, hnames, hid⟩

/-! ### The acceptance -/

section Flow

variable {Seed : Type} (platform : Platform Seed)

/-- The plan of an acceptance creates the starter `id` in an empty slot. -/
def PlansToCreate (outside : AcceptOutside Seed) (state : RuntimeState)
    (invitationId : InvitationId) (id : StarterId) : Prop :=
  ∃ seed record capsule slot kind, outside.loadSeed = some seed ∧
    findInvitationSentInRuntimeWithDirection state invitationId (some true) = some record ∧
    state.capsule = some capsule ∧
    planAcceptForKind capsule.ledger (SlotLayout.fromLedger capsule.ledger) record.starterKind
      = .createStarterInEmptySlot slot kind ∧
    id = ⟨deriveStarterIdLineage platform seed (slotByte slot) invitationId (inviterAnchor record)⟩

/-- Leaving a starter out of the replay of a ledger moves no starter of it.  This is so
    whenever the owner never created the starter before. -/
def LeavesNoTrace (ledger : Ledger) (id : StarterId) : Prop :=
  ∀ index, (placement ledger.owner (id :: revokedCreatedStarterIds ledger)
      ledger.events).starterIdAt index
    = (SlotLayout.fromLedger ledger).starterIdAt index

variable {id : StarterId} {ledger : Ledger}

theorem leavesNoTrace_of_fresh
    (h : ∀ event ∈ ledger.events, ownerCreates ledger.owner event ≠ some id) :
    LeavesNoTrace ledger id := by
  intro index
  rw [starterIdAt_fromLedger]
  congr 1
  have hsame : replay (slotStep ledger.owner (id :: revokedCreatedStarterIds ledger)) (.empty, [])
      ledger.events
        = replay (slotStep ledger.owner (revokedCreatedStarterIds ledger)) (.empty, [])
            ledger.events := by
    refine replay_simulation (R := Eq) rfl ?_
    rintro state _ event hevent rfl
    rw [slotStep_eq, slotStep_eq]
    cases hcreates : ownerCreates ledger.owner event with
    | none => cases ownerBurns ledger.owner event <;> rfl
    | some other =>
      have hne : other ≠ id := by
        rintro rfl
        exact h event hevent hcreates
      simp [hne]
  unfold placement
  rw [hsame]

/-- A ledger behind a successful acceptance, in terms of the ledger in front of it. -/
structure AcceptedFrom (before after : Ledger) (invitationId : InvitationId)
    (relationshipStarterId : StarterId) (created new : List Event) : Prop where
  owner : after.owner = before.owner
  events : after.events = before.events ++ new
  unnamed : ∀ event ∈ before.events, ∀ id, acceptedStarter event ≠ some (invitationId, id)
  named : ∃ event ∈ new, acceptedStarter event = some (invitationId, relationshipStarterId)
  onlyNamed : ∀ event ∈ new, ∀ other id, acceptedStarter event = some (other, id) →
    other = invitationId ∧ id = relationshipStarterId
  revoked : ∀ id, id ∈ revokedCreatedStarterIds after ↔ id ∈ revokedCreatedStarterIds before
  creations : createdStarters new = createdStarters created
  placed : ∀ revoked, placement after.owner revoked after.events
    = placement before.owner revoked (before.events ++ created)

/-- The creation an acceptance added: none when nothing was planned or the planned
    starter was live in front of it, else that of the planned starter. -/
def CreatedAsPlanned (state : RuntimeState) (plan : LocalAcceptancePlan) (created : List Event) :
    Prop :=
  match plan.createdStarter with
  | none => created = []
  | some (id, _, _) =>
    (starterIsActiveInRuntime state id = true ∧ created = []) ∨
    (starterIsActiveInRuntime state id = false ∧
      ∃ event, created = [event] ∧ createdStarter event = some id)

/-- An event of another kind neither creates nor burns a starter. -/
private theorem inert_of_kind (event : Event) (hcreated : event.kind ≠ .starterCreated)
    (hburned : event.kind ≠ .starterBurned) (owner : PubKey) :
    ownerCreates owner event = none ∧ ownerBurns owner event = none := by
  simp [ownerCreates, createdStarter, ownerBurns, hcreated, hburned]

variable {event : Event}

/-- A creation reads as nothing else. -/
private theorem kind_of_createdStarter (h : createdStarter event = some id) :
    event.kind = .starterCreated := by
  unfold createdStarter at h
  split_ifs at h with hkind
  exact hkind

variable {invitationId : InvitationId} {outside : AcceptOutside Seed}

/-- **The acceptance flow.**  The new events of a successful acceptance, and what they
    leave unchanged. -/
theorem acceptedFrom_of_accept {state state' : RuntimeState} {fromPubkey : PubKey}
    {capsule capsule' : Capsule}
    (haccept : hivraAcceptInvitation platform outside state (some invitationId) (some fromPubkey)
      = (0, state')) (hcapsule : state.capsule = some capsule)
    (hcapsule' : state'.capsule = some capsule') :
    ∃ seed plan created, outside.loadSeed = some seed ∧
      resolveLocalAcceptancePlan platform seed state invitationId = .ok plan ∧
      AcceptedFrom capsule.ledger capsule'.ledger invitationId plan.relationshipStarterId created
        (newEvents state state') ∧
      CreatedAsPlanned state plan created := by
  obtain ⟨hresolved, seed, plan, middle, accepted, created, related, hseed, hplan, hkind, hnames,
    hfirst, hcreated, hrelated, hrest⟩ := hivraAcceptInvitation_accepted platform haccept
  have hcreations : ∀ event ∈ created, ∃ id, createdStarter event = some id := by
    intro event hevent
    unfold AddedCreation at hcreated
    split at hcreated
    · rw [hcreated] at hevent
      exact absurd hevent (by simp)
    · rcases hcreated with ⟨-, rfl⟩ | ⟨-, event', rfl, hid⟩
      · exact absurd hevent (by simp)
      · rw [List.mem_singleton] at hevent
        exact ⟨_, by rw [hevent]; exact hid⟩
  have hgrows : StateGrows state state' (accepted :: (created ++ related)) := hfirst.trans hrest
  have hnew : newEvents state state' = accepted :: (created ++ related) :=
    newEvents_of_grows hgrows
  have howner : capsule'.ledger.owner = capsule.ledger.owner := by
    cases hgrows with
    | noCapsule hnone => rw [hnone] at hcapsule; cases hcapsule
    | capsule hold hnew hcapsuleGrows =>
      obtain rfl := Option.some.inj (hcapsule.symm.trans hold)
      obtain rfl := Option.some.inj (hcapsule'.symm.trans hnew)
      exact hcapsuleGrows.pubkey
  have hevents : capsule'.ledger.events
      = capsule.ledger.events ++ (accepted :: (created ++ related)) := by
    simpa [RuntimeState.events, hcapsule, hcapsule'] using hgrows.events
  have hstateEvents : state.events = capsule.ledger.events := by
    simp [RuntimeState.events, hcapsule]
  have hunnamed : ∀ event ∈ capsule.ledger.events, ∀ id,
      acceptedStarter event ≠ some (invitationId, id) := by
    intro event hevent id hnamed
    rw [← hstateEvents] at hevent
    rw [resolved_of_acceptedStarter hevent hnamed] at hresolved
    exact absurd hresolved (by simp)
  have hexpired : invitationId ∉ expiredInvitationIds capsule.ledger.events := by
    intro hmem
    rw [mem_expiredInvitationIds_iff] at hmem
    obtain ⟨event, hevent, hnamed, -⟩ := hmem
    rw [← hstateEvents] at hevent
    rw [resolved_of_expiredInvitation hevent hnamed] at hresolved
    exact absurd hresolved (by simp)
  have hother : ∀ event ∈ created ++ related,
      event.kind = .starterCreated ∨ event.kind = .relationshipEstablished := by
    intro event hevent
    rcases List.mem_append.mp hevent with hevent | hevent
    · obtain ⟨id, hid⟩ := hcreations event hevent
      exact Or.inl (kind_of_createdStarter hid)
    · exact Or.inr (hrelated event hevent)
  -- the acceptance and what follows it revoke no starter
  have hrevoked : ∀ {after : Ledger} {others : List Event},
      after.events = capsule.ledger.events ++ (accepted :: others) →
      (∀ event ∈ others, event.kind = .starterCreated ∨ event.kind = .relationshipEstablished) →
      ∀ id, id ∈ revokedCreatedStarterIds after ↔ id ∈ revokedCreatedStarterIds capsule.ledger := by
    intro after others hafter hothers id
    refine mem_revoked_of_quiet hafter ?_ ?_ ?_ id
    · intro event hevent
      rcases List.mem_cons.mp hevent with rfl | hevent
      · simp [expiredInvitation, hkind]
      · rcases hothers event hevent with hk | hk <;> simp [expiredInvitation, hk]
    · intro event hevent
      rcases List.mem_cons.mp hevent with rfl | hevent
      · simp [hkind]
      · rcases hothers event hevent with hk | hk <;> simp [hk]
    · intro event hevent other id hnamed
      rcases List.mem_cons.mp hevent with rfl | hevent
      · rw [hnames, Option.some.injEq, Prod.mk.injEq] at hnamed
        rw [← hnamed.1]
        exact hexpired
      · rcases hothers event hevent with hk | hk <;> simp [acceptedStarter, hk] at hnamed
  have hplaced : ∀ revoked events, placement capsule.ledger.owner revoked
      (events ++ (accepted :: (created ++ related)))
        = placement capsule.ledger.owner revoked (events ++ created) := by
    intro revoked events
    have hinert := inert_of_kind accepted (by simp [hkind]) (by simp [hkind])
      capsule.ledger.owner
    rw [show events ++ (accepted :: (created ++ related))
      = ((events ++ [accepted]) ++ created) ++ related by simp]
    rw [placement_append_inert related fun event hevent =>
      inert_of_kind event (by simp [hrelated event hevent]) (by simp [hrelated event hevent]) _]
    unfold placement
    rw [replay_append, replay_append, replay_append _ _ events created, replay_cons, replay_nil,
      slotStep_eq, hinert.1, hinert.2]
  refine ⟨seed, plan, created, hseed, hplan, ⟨howner, by rw [hnew]; exact hevents, hunnamed,
    ?_, ?_, hrevoked hevents hother, ?_, ?_⟩, ?_⟩
  · exact ⟨accepted, by rw [hnew]; simp, hnames⟩
  · intro event hevent other id hnamed
    rw [hnew] at hevent
    rcases List.mem_cons.mp hevent with rfl | hevent
    · rw [hnames, Option.some.injEq, Prod.mk.injEq] at hnamed
      exact ⟨hnamed.1.symm, hnamed.2.symm⟩
    · rcases hother event hevent with hk | hk <;> simp [acceptedStarter, hk] at hnamed
  · rw [hnew]
    have hfront : createdStarter accepted = none := by simp [createdStarter, hkind]
    have hback : related.filterMap createdStarter = [] := by
      rw [List.filterMap_eq_nil_iff]
      intro event hevent
      simp [createdStarter, hrelated event hevent]
    simp [createdStarters, hfront, hback]
  · intro revoked
    rw [howner, hevents]
    exact hplaced revoked capsule.ledger.events
  · -- whether the planned starter is live is the same before and after the first append
    have hlive : ∀ id, starterIsActiveInRuntime middle id = starterIsActiveInRuntime state id := by
      intro id
      obtain ⟨capsule₁, hcapsule₁, howner₁, hevents₁⟩ : ∃ capsule₁, middle.capsule = some capsule₁ ∧
          capsule₁.ledger.owner = capsule.ledger.owner ∧
          capsule₁.ledger.events = capsule.ledger.events ++ [accepted] := by
        cases hfirst with
        | noCapsule hnone => rw [hnone] at hcapsule; cases hcapsule
        | capsule hold hnew hcapsuleGrows =>
          obtain rfl := Option.some.inj (hcapsule.symm.trans hold)
          exact ⟨_, hnew, hcapsuleGrows.pubkey, hcapsuleGrows.events⟩
      have hrevoked₁ := hrevoked hevents₁ (by simp)
      rw [Bool.eq_iff_iff, starterIsActive_iff hcapsule₁, starterIsActive_iff hcapsule, howner₁,
        hevents₁, placement_append_inert [accepted], placement_congr hrevoked₁]
      intro event hevent
      rw [List.mem_singleton] at hevent
      exact inert_of_kind event (by simp [hevent, hkind]) (by simp [hevent, hkind]) _
    unfold AddedCreation at hcreated
    unfold CreatedAsPlanned
    cases hstarter : plan.createdStarter with
    | none => simpa [hstarter] using hcreated
    | some planned =>
      simp only [hstarter, hlive] at hcreated
      exact hcreated

/-- A resolved plan follows the plan of the core: it reuses a live starter, or it creates
    the one it names. -/
private theorem resolveLocalAcceptancePlan_ok {seed : Seed} {state : RuntimeState}
    {plan : LocalAcceptancePlan} {capsule : Capsule} (hseed : outside.loadSeed = some seed)
    (hcapsule : state.capsule = some capsule)
    (h : resolveLocalAcceptancePlan platform seed state invitationId = .ok plan) :
    ((∃ index, (SlotLayout.fromLedger capsule.ledger).starterIdAt index
        = some plan.relationshipStarterId) ∧
      ∀ id, ¬ PlansToCreate platform outside state invitationId id) ∨
    (PlansToCreate platform outside state invitationId plan.relationshipStarterId ∧
      ∃ kind nonce, plan.createdStarter = some (plan.relationshipStarterId, kind, nonce)) := by
  unfold resolveLocalAcceptancePlan at h
  cases hfind : findInvitationSentInRuntimeWithDirection state invitationId (some true) with
  | none => simp [hfind] at h
  | some record =>
    simp only [hfind] at h
    by_cases hdirection : record.isIncoming = false
    · simp [hdirection] at h
    rw [if_neg hdirection] at h
    by_cases hreuses : incomingInvitationReusesEmptySlotRejectedSenderStarter state invitationId
        record.starterId (inviterAnchor record) = true
    · simp [hreuses] at h
    rw [if_neg hreuses] at h
    simp only [hcapsule] at h
    cases hplan : planAcceptForKind capsule.ledger (SlotLayout.fromLedger capsule.ledger)
        record.starterKind with
    | noCapacity => simp [hplan] at h
    | useExistingStarter relationshipStarterId created =>
      refine Or.inl ⟨?_, ?_⟩
      · simp only [hplan, Except.ok.injEq] at h
        rw [← h]
        exact planAcceptForKind_useExisting hplan
      · rintro id ⟨_, record', capsule', slot, kind, -, hfind', hcapsule', hother, -⟩
        obtain rfl := Option.some.inj (hfind.symm.trans hfind')
        obtain rfl := Option.some.inj (hcapsule.symm.trans hcapsule')
        rw [hplan] at hother
        exact absurd hother (by simp)
    | createStarterInEmptySlot slot kind =>
      simp only [hplan, Except.ok.injEq] at h
      rw [← h]
      exact Or.inr ⟨⟨seed, record, capsule, slot, kind, hseed, hfind, hcapsule, hplan, rfl⟩,
        kind, _, rfl⟩

/-- The starter a plan creates is determined by the state in front of the acceptance. -/
private theorem plansToCreate_unique {state : RuntimeState} {id id' : StarterId}
    (h : PlansToCreate platform outside state invitationId id)
    (h' : PlansToCreate platform outside state invitationId id') : id = id' := by
  obtain ⟨seed, record, capsule, slot, kind, hseed, hfind, hcapsule, hplan, rfl⟩ := h
  obtain ⟨seed', record', capsule', slot', kind', hseed', hfind', hcapsule', hplan', rfl⟩ := h'
  obtain rfl := Option.some.inj (hseed.symm.trans hseed')
  obtain rfl := Option.some.inj (hfind.symm.trans hfind')
  obtain rfl := Option.some.inj (hcapsule.symm.trans hcapsule')
  rw [hplan, AcceptPlan.createStarterInEmptySlot.injEq] at hplan'
  rw [hplan'.1]

/-- A creation behind a placement moves nothing, or takes the first free slot. -/
private theorem placement_creation {owner : PubKey} {revoked : List StarterId} {events : List Event}
    {event : Event} (hid : createdStarter event = some id) :
    placement owner revoked (events ++ [event]) = placement owner revoked events ∨
      id ∉ revoked ∧ placement owner revoked (events ++ [event])
        = (placement owner revoked events).occupyFirstFree id := by
  have hburns : ownerBurns owner event = none := by
    simp [ownerBurns, kind_of_createdStarter hid]
  unfold placement
  rw [replay_snoc, slotStep_eq, hburns]
  unfold ownerCreates
  split_ifs with hsigner
  · rw [hid]
    dsimp only
    split_ifs with hstays
    · exact Or.inl rfl
    · simp only [not_or] at hstays
      exact Or.inr ⟨hstays.2.1, rfl⟩
  · exact Or.inl rfl

/-- The starters of a layout without a starter it does not hold. -/
private theorem filter_starterIdAt {layout : SlotLayout} (h : layout.containsStarter id = false)
    (index : SlotIndex) :
    (layout.starterIdAt index).filter (fun other => decide (other ≠ id))
      = layout.starterIdAt index := by
  rw [← starterIdAt_without, SlotLayout.without_of_not_contains h]

/-- A starter that leaves no trace was not live. -/
private theorem LeavesNoTrace.not_contains (h : LeavesNoTrace ledger id) :
    (placement ledger.owner (revokedCreatedStarterIds ledger) ledger.events).containsStarter id
      = false := by
  rw [← Bool.not_eq_true, containsStarter_iff]
  rintro ⟨index, hindex⟩
  have hleft : (placement ledger.owner (id :: revokedCreatedStarterIds ledger)
      ledger.events).containsStarter id = true := by
    rw [containsStarter_iff]
    exact ⟨index, by rw [h index, starterIdAt_fromLedger, hindex]⟩
  rw [placement_not_contains List.mem_cons_self] at hleft
  exact absurd hleft (by simp)

/-- The slots behind a revoke: those of the placement that leaves out one more starter. -/
private theorem starterIdAt_revoked (hrevoke : SenderRevoke ledger invitationId event)
    (hnames : ∃ accepted ∈ ledger.events, acceptedStarter accepted = some (invitationId, id))
    (honly : ∀ accepted ∈ ledger.events, ∀ other,
      acceptedStarter accepted = some (invitationId, other) → other = id) (index : SlotIndex) :
    (SlotLayout.fromLedger (ledger.extend [event])).starterIdAt index
      = (placement ledger.owner (id :: revokedCreatedStarterIds ledger)
          ledger.events).starterIdAt index := by
  have hkind : event.kind = .invitationExpired := by
    have hexpires := hrevoke.expires
    unfold expiredInvitation at hexpires
    split_ifs at hexpires with hkind
    exact hkind
  have hrevoked : ∀ other, other ∈ revokedCreatedStarterIds (ledger.extend [event]) ↔
      other ∈ id :: revokedCreatedStarterIds ledger := by
    intro other
    rw [mem_revoked_extend hrevoke, List.mem_cons]
    constructor
    · rintro (hold | ⟨accepted, hmem, hnamed⟩)
      · exact Or.inr hold
      · exact Or.inl (honly accepted hmem other hnamed)
    · rintro (rfl | hold)
      · exact Or.inr hnames
      · exact Or.inl hold
  rw [starterIdAt_fromLedger, placement_congr hrevoked, Ledger.extend_events, Ledger.extend_owner,
    placement_append_inert [event]]
  intro later hlater
  rw [List.mem_singleton] at hlater
  exact inert_of_kind later (by simp [hlater, hkind]) (by simp [hlater, hkind]) _

variable {state : RuntimeState} {invitationId : InvitationId} {capsule capsule' : Capsule}
  {plan : LocalAcceptancePlan} {created new : List Event}

/-- A live starter that the acceptance reuses was not created by it and stays live. -/
private theorem reused_kept (hcapsule : state.capsule = some capsule)
    (hflow : AcceptedFrom capsule.ledger capsule'.ledger invitationId plan.relationshipStarterId
      created new)
    (hcreated : CreatedAsPlanned state plan created)
    (hcontains : (placement capsule.ledger.owner (revokedCreatedStarterIds capsule.ledger)
      capsule.ledger.events).containsStarter plan.relationshipStarterId = true) :
    plan.relationshipStarterId ∉ createdStarters new ∧
      (placement capsule'.ledger.owner (revokedCreatedStarterIds capsule'.ledger)
        capsule'.ledger.events).containsStarter plan.relationshipStarterId = true := by
  rw [hflow.creations, hflow.placed, placement_congr hflow.revoked]
  have hnothing : plan.relationshipStarterId ∉ createdStarters [] ∧
      (placement capsule.ledger.owner (revokedCreatedStarterIds capsule.ledger)
        (capsule.ledger.events ++ [])).containsStarter plan.relationshipStarterId = true :=
    ⟨by simp [createdStarters], by rw [List.append_nil]; exact hcontains⟩
  unfold CreatedAsPlanned at hcreated
  split at hcreated
  · rw [hcreated]
    exact hnothing
  · rename_i id _ _ _
    rcases hcreated with ⟨-, rfl⟩ | ⟨hnotLive, event, rfl, hid⟩
    · exact hnothing
    · have hne : plan.relationshipStarterId ≠ id := by
        intro heq
        rw [← heq, ← Bool.not_eq_true, starterIsActive_iff hcapsule] at hnotLive
        exact hnotLive hcontains
      refine ⟨by simp [createdStarters, hid, hne], ?_⟩
      rcases @placement_creation id capsule.ledger.owner (revokedCreatedStarterIds capsule.ledger)
        capsule.ledger.events event hid with hsame | ⟨-, hplaced⟩
      · rw [hsame]
        exact hcontains
      · rw [hplaced]
        exact SlotLayout.containsStarter_occupy id hcontains

/-- A reused starter loses its slot although the acceptance did not create it. -/
private theorem reused_not_exact (hcapsule : state.capsule = some capsule)
    (hflow : AcceptedFrom capsule.ledger capsule'.ledger invitationId plan.relationshipStarterId
      created new) (hcreated : CreatedAsPlanned state plan created)
    (hafter : ∀ index, (SlotLayout.fromLedger (capsule'.ledger.extend [event])).starterIdAt index
      = (placement capsule'.ledger.owner (plan.relationshipStarterId ::
          revokedCreatedStarterIds capsule'.ledger) capsule'.ledger.events).starterIdAt index)
    (hlive : ∃ index, (SlotLayout.fromLedger capsule.ledger).starterIdAt index
      = some plan.relationshipStarterId) :
    ¬ ExactRevoke capsule'.ledger event (createdStarters new) := by
  intro hexact
  obtain ⟨index, hindex⟩ := hlive
  rw [starterIdAt_fromLedger] at hindex
  obtain ⟨hnotCreated, hkept⟩ := reused_kept hcapsule hflow hcreated
    ((containsStarter_iff _ _).mpr ⟨index, hindex⟩)
  obtain ⟨slot, hslot⟩ := (containsStarter_iff _ _).mp hkept
  -- the claimed slot content is the starter, but the replay leaves it out
  have hgone := hexact slot
  rw [hafter, starterIdAt_fromLedger, hslot, Option.filter_some,
    if_pos (by simpa using hnotCreated)] at hgone
  have hstill := (containsStarter_iff _ _).mpr ⟨slot, hgone⟩
  rw [placement_not_contains List.mem_cons_self] at hstill
  exact absurd hstill (by simp)

/-- Taking the created starter out of the slots gives those in front of the acceptance. -/
private theorem planned_before {kind : StarterKind} {nonce : Bytes 32}
    (hcapsule : state.capsule = some capsule)
    (hflow : AcceptedFrom capsule.ledger capsule'.ledger invitationId plan.relationshipStarterId
      created new)
    (hcreated : CreatedAsPlanned state plan created)
    (hstarter : plan.createdStarter = some (plan.relationshipStarterId, kind, nonce))
    (index : SlotIndex) :
    ((SlotLayout.fromLedger capsule'.ledger).starterIdAt index).filter
        (fun id => decide (id ∉ createdStarters new))
      = (SlotLayout.fromLedger capsule.ledger).starterIdAt index := by
  rw [starterIdAt_fromLedger, starterIdAt_fromLedger, hflow.placed,
    placement_congr hflow.revoked, hflow.creations]
  unfold CreatedAsPlanned at hcreated
  simp only [hstarter] at hcreated
  rcases hcreated with ⟨-, rfl⟩ | ⟨hnotLive, event, rfl, hid⟩
  · have hnone : ∀ slot : Option StarterId,
        slot.filter (fun id => decide (id ∉ createdStarters [])) = slot := by
      intro slot
      cases slot <;> simp [createdStarters]
    rw [List.append_nil, hnone]
  · rw [← Bool.not_eq_true, starterIsActive_iff hcapsule, Bool.not_eq_true] at hnotLive
    have hsingle : ∀ id, id ∉ createdStarters [event] ↔ id ≠ plan.relationshipStarterId := by
      intro id
      simp [createdStarters, hid]
    simp only [hsingle]
    rcases @placement_creation _ capsule.ledger.owner (revokedCreatedStarterIds capsule.ledger)
      capsule.ledger.events event hid with hsame | ⟨-, hplaced⟩
    · rw [hsame]
      exact filter_starterIdAt hnotLive index
    · rw [hplaced, ← starterIdAt_without, SlotLayout.occupy_without,
        SlotLayout.without_of_not_contains hnotLive]

/-- Leaving the created starter out of the ledger behind the acceptance is leaving it out
    of the one in front of it. -/
private theorem planned_left {kind : StarterKind} {nonce : Bytes 32}
    (hflow : AcceptedFrom capsule.ledger capsule'.ledger invitationId plan.relationshipStarterId
      created new)
    (hcreated : CreatedAsPlanned state plan created)
    (hstarter : plan.createdStarter = some (plan.relationshipStarterId, kind, nonce)) :
    placement capsule'.ledger.owner (plan.relationshipStarterId ::
        revokedCreatedStarterIds capsule'.ledger) capsule'.ledger.events
      = placement capsule.ledger.owner (plan.relationshipStarterId ::
          revokedCreatedStarterIds capsule.ledger) capsule.ledger.events := by
  have hrevoked : ∀ id, id ∈ plan.relationshipStarterId ::
      revokedCreatedStarterIds capsule'.ledger ↔
        id ∈ plan.relationshipStarterId :: revokedCreatedStarterIds capsule.ledger := by
    intro id
    rw [List.mem_cons, List.mem_cons, hflow.revoked]
  rw [hflow.placed, placement_congr hrevoked]
  unfold CreatedAsPlanned at hcreated
  simp only [hstarter] at hcreated
  rcases hcreated with ⟨-, rfl⟩ | ⟨-, event, rfl, hid⟩
  · rw [List.append_nil]
  · rcases @placement_creation _ capsule.ledger.owner
      (plan.relationshipStarterId :: revokedCreatedStarterIds capsule.ledger)
      capsule.ledger.events event hid with hsame | ⟨hnot, -⟩
    · exact hsame
    · exact absurd List.mem_cons_self hnot

/-- **Sender revoke.**  Right behind a successful acceptance, a revoke takes exactly the
    created starter out of its slot iff the acceptance planned to create one in an empty
    slot and leaving that starter out of the earlier ledger moves no other.  Behind any
    further events it still does, as long as no other starter was placed behind it. -/
theorem senderRevoke_exact_iff {outside : AcceptOutside Seed} {state state' : RuntimeState}
    {invitationId : InvitationId} {fromPubkey : PubKey} {capsule capsule' : Capsule}
    (haccept : hivraAcceptInvitation platform outside state (some invitationId) (some fromPubkey)
      = (0, state'))
    (hcapsule : state.capsule = some capsule) (hcapsule' : state'.capsule = some capsule') :
    (∀ event, SenderRevoke capsule'.ledger invitationId event →
      (ExactRevoke capsule'.ledger event (createdStarters (newEvents state state')) ↔
        ∃ id, PlansToCreate platform outside state invitationId id ∧
          LeavesNoTrace capsule.ledger id)) ∧
    (∀ id more event, PlansToCreate platform outside state invitationId id →
      LeavesNoTrace capsule.ledger id →
      (∀ later ∈ more, ∀ other, acceptedStarter later = some (invitationId, other) →
        other = id) →
      NonePlacedBehind capsule'.ledger.owner
        (revokedCreatedStarterIds (capsule'.ledger.extend more)) (capsule'.ledger.events ++ more)
        id →
      SenderRevoke (capsule'.ledger.extend more) invitationId event →
      ExactRevoke (capsule'.ledger.extend more) event
        (createdStarters (newEvents state state'))) := by
  obtain ⟨seed, plan, created, hseed, hplan, hflow, hcreated⟩ :=
    acceptedFrom_of_accept platform haccept hcapsule hcapsule'
  obtain ⟨accepted, haccepted, hnamed⟩ := hflow.named
  have hcases := resolveLocalAcceptancePlan_ok platform hseed hcapsule hplan
  have honly : ∀ event ∈ capsule'.ledger.events, ∀ other,
      acceptedStarter event = some (invitationId, other) →
      other = plan.relationshipStarterId := by
    intro event hevent other hother
    rw [hflow.events] at hevent
    rcases List.mem_append.mp hevent with hevent | hevent
    · exact absurd hother (hflow.unnamed event hevent other)
    · exact (hflow.onlyNamed event hevent _ _ hother).2
  have hmem : ∃ event ∈ capsule'.ledger.events,
      acceptedStarter event = some (invitationId, plan.relationshipStarterId) :=
    ⟨accepted, by rw [hflow.events]; exact List.mem_append_right _ haccepted, hnamed⟩
  constructor
  · intro event hrevoke
    have hafter := starterIdAt_revoked hrevoke hmem honly
    rcases hcases with ⟨hlive, hnoPlan⟩ | ⟨hcreates, kind, nonce, hstarter⟩
    · exact iff_of_false (reused_not_exact hcapsule hflow hcreated hafter hlive)
        fun ⟨id, hid, _⟩ => hnoPlan id hid
    · unfold ExactRevoke
      simp only [hafter, planned_left hflow hcreated hstarter,
        planned_before hcapsule hflow hcreated hstarter]
      constructor
      · intro hexact
        exact ⟨plan.relationshipStarterId, hcreates, hexact⟩
      · rintro ⟨id, hid, htrace⟩
        rw [plansToCreate_unique platform hcreates hid]
        exact htrace
  · intro id more event hid htrace hmore hbehind hrevoke index
    rcases hcases with ⟨-, hnoPlan⟩ | ⟨hcreates, kind, nonce, hstarter⟩
    · exact absurd hid (hnoPlan id)
    obtain rfl := plansToCreate_unique platform hcreates hid
    have hcreations : ∀ id, id ∉ createdStarters (newEvents state state') ↔
        id ≠ plan.relationshipStarterId := by
      intro id
      rw [hflow.creations]
      unfold CreatedAsPlanned at hcreated
      simp only [hstarter] at hcreated
      rcases hcreated with ⟨hisLive, -⟩ | ⟨-, event, rfl, hcreatedId⟩
      · rw [starterIsActive_iff hcapsule, htrace.not_contains] at hisLive
        exact absurd hisLive (by simp)
      · simp [createdStarters, hcreatedId]
    have hmem' : ∃ event ∈ (capsule'.ledger.extend more).events,
        acceptedStarter event = some (invitationId, plan.relationshipStarterId) := by
      obtain ⟨event, hevent, hnames⟩ := hmem
      exact ⟨event, List.mem_append_left _ hevent, hnames⟩
    have honly' : ∀ event ∈ (capsule'.ledger.extend more).events, ∀ other,
        acceptedStarter event = some (invitationId, other) →
        other = plan.relationshipStarterId := by
      intro event hevent other hother
      rcases List.mem_append.mp hevent with hevent | hevent
      · exact honly event hevent other hother
      · exact hmore event hevent other hother
    rw [starterIdAt_revoked hrevoke hmem' honly', starterIdAt_fromLedger]
    simp only [hcreations]
    rw [← starterIdAt_without, Ledger.extend_owner, Ledger.extend_events,
      placement_without (fun other => by rw [List.mem_cons, or_comm]) _ hbehind]

end Flow

/-! ### A reused starter that loses its slot -/

def sampleAcceptOutside : AcceptOutside (PubKey × PubKey) where
  loadSeed := some ownerSeed
  accept := { loadSeed := some ownerSeed, clock := some 4 }
  create := { loadSeed := some ownerSeed, clock := some 5 }
  relate := { loadSeed := some ownerSeed, clock := some 6 }

/-- An offer the peer 8 sent to the owner, behind events of the owner. -/
def offeredState (own : List Event) : RuntimeState where
  capsule := some {
    network := .neste
    ledger := .ofEvents ⟨fill 32 7⟩ (own ++ [
      .new .invitationReceived
        (List.replicate 32 1 ++ List.replicate 32 9 ++ List.replicate 32 17) 2
        ⟨fill 64 0⟩ ⟨fill 32 8⟩]) }
  lastEngineTsMs := 2

/-- The state behind the acceptance of that offer. -/
def acceptedOfferState (own : List Event) : RuntimeState :=
  (hivraAcceptInvitation samplePlatform sampleAcceptOutside (offeredState own)
    (some (fill 32 1)) (some ⟨fill 32 8⟩)).2

/-- The peer expires its offer. -/
def peerExpiry : Event := .new .invitationExpired (List.replicate 32 1) 9 ⟨fill 64 0⟩ ⟨fill 32 8⟩

/-- The owner has a starter of the offered kind. -/
def liveStarter : Event :=
  .new .starterCreated (List.replicate 64 2 ++ [0, 1]) 1 ⟨fill 64 0⟩ ⟨fill 32 7⟩

/-- The ledger behind an acceptance that reuses that starter. -/
def reusedLedger : Ledger :=
  ((acceptedOfferState [liveStarter]).capsule.get (by decide +kernel)).ledger

/-- The capsule behind an acceptance that creates a starter. -/
def freshStarterCapsule : Capsule := (acceptedOfferState []).capsule.get (by decide +kernel)

private theorem senderRevoke_of_decide {id : InvitationId}
    (hexpires : expiredInvitation event = some id)
    (hoffered : (findInvitation ledger id).any (fun record =>
      record.direction == .incoming && event.signer == record.offerSigner) = true) :
    SenderRevoke ledger id event := by
  refine ⟨hexpires, ?_⟩
  rw [Option.any_eq_true] at hoffered
  obtain ⟨record, hrecord, hfields⟩ := hoffered
  simp only [Bool.and_eq_true, beq_iff_eq] at hfields
  exact ⟨record, hrecord, hfields⟩

/-- A revoke takes the starter away that the acceptance created. -/
theorem senderRevoke_exact_fresh : ExactRevoke freshStarterCapsule.ledger peerExpiry
    (createdStarters (newEvents (offeredState []) (acceptedOfferState []))) := by
  have haccept : hivraAcceptInvitation samplePlatform sampleAcceptOutside (offeredState [])
      (some (fill 32 1)) (some ⟨fill 32 8⟩) = (0, acceptedOfferState []) := by
    refine Prod.ext (by decide +kernel) ?_
    dsimp only [acceptedOfferState]
  have hcapsule' : (acceptedOfferState []).capsule = some freshStarterCapsule :=
    (Option.some_get (by decide +kernel)).symm
  refine ((senderRevoke_exact_iff samplePlatform haccept rfl hcapsule').1 peerExpiry
    (senderRevoke_of_decide (by decide +kernel) (by decide +kernel))).mpr ?_
  have hfind : (findInvitationSentInRuntimeWithDirection (offeredState []) (fill 32 1)
      (some true)) = some _ := (Option.some_get (by decide +kernel)).symm
  refine ⟨_, ⟨ownerSeed, _, _, 0, .juice, rfl, hfind, rfl, by decide +kernel, rfl⟩, ?_⟩
  apply leavesNoTrace_of_fresh
  decide +kernel

/-- **Counterexample.**  The owner accepts with a starter it had before; the revoke takes
    that starter out of its slot, although the acceptance did not create it. -/
theorem reusedStarter_revoked :
    (hivraAcceptInvitation samplePlatform sampleAcceptOutside (offeredState [liveStarter])
      (some (fill 32 1)) (some ⟨fill 32 8⟩)).1 = 0 ∧
    SenderRevoke reusedLedger (fill 32 1) peerExpiry ∧
    (SlotLayout.fromLedger reusedLedger).starterIdAt 0 = some ⟨fill 32 2⟩ ∧
    (SlotLayout.fromLedger (reusedLedger.extend [peerExpiry])).starterIdAt 0 ≠ some ⟨fill 32 2⟩ ∧
    ¬ ExactRevoke reusedLedger peerExpiry
      (createdStarters (newEvents (offeredState [liveStarter])
        (acceptedOfferState [liveStarter]))) := by
  refine ⟨by decide +kernel, senderRevoke_of_decide (by decide +kernel) (by decide +kernel),
    by decide +kernel, by decide +kernel, ?_⟩
  intro hexact
  have hslot := hexact 0
  revert hslot
  decide +kernel

end Hivra
