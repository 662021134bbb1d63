import Hivra.Core.SlotRevocation
import Hivra.Ffi.OwnOffers

namespace Hivra

open ByteString Replay

/-!
# Accepting an invitation

The local acceptance of a received offer: plan which starter takes part, append the
acceptance, then the created starter and the relationship.  Delivery of the acceptance
to the peer is a step of its own and not part of the call.
-/

/-! ### The plan -/

/-- What a local acceptance is made of. -/
structure LocalAcceptancePlan where
  invitationId : InvitationId
  senderPubkey : PubKey
  senderRootPubkey : Option PubKey
  senderStarterId : StarterId
  senderStarterType : StarterKind
  relationshipStarterId : StarterId
  relationshipKind : StarterKind
  peerStarterId : StarterId
  createdStarter : Option (StarterId × StarterKind × Bytes 32)
  deriving DecidableEq

/-- What the outside answers during one acceptance: the seed at its start, and the seed
    and clock at each of its three appends. -/
structure AcceptOutside (Seed : Type) where
  loadSeed : Option Seed
  accept : Outside Seed
  create : Outside Seed
  relate : Outside Seed

section Acceptance

variable {Seed : Type} (platform : Platform Seed)

/-- A digest over the seed, a slot and where an invitation came from. -/
def deriveLineage (tag : List UInt8) (seed : Seed) (slot : UInt8) (invitationId : InvitationId)
    (inviterAnchor : PubKey) : Bytes 32 :=
  platform.sha256 (platform.seedBytes seed ++ [slot] ++ invitationId.toList ++
    inviterAnchor.bytes.toList ++ tag)

def deriveStarterIdLineage (seed : Seed) (slot : UInt8) (invitationId : InvitationId)
    (inviterAnchor : PubKey) : Bytes 32 :=
  deriveLineage platform (asciiBytes "starter_v2_lineage") seed slot invitationId inviterAnchor

def deriveStarterNonceLineage (seed : Seed) (slot : UInt8) (invitationId : InvitationId)
    (inviterAnchor : PubKey) : Bytes 32 :=
  deriveLineage platform (asciiBytes "starter_nonce_v2_lineage") seed slot invitationId
    inviterAnchor

/-- The wire byte of a slot. -/
def slotByte (slot : SlotIndex) : UInt8 := UInt8.ofNat slot.val

/-- The starter a plan creates for an invitation, with its kind and nonce. -/
def plannedStarter (seed : Seed) (invitationId : InvitationId) (inviterAnchor : PubKey)
    (planned : PlannedStarterCreation) : StarterId × StarterKind × Bytes 32 :=
  (⟨deriveStarterIdLineage platform seed (slotByte planned.slot) invitationId inviterAnchor⟩,
    planned.kind,
    deriveStarterNonceLineage platform seed (slotByte planned.slot) invitationId inviterAnchor)

/-- The key that stands for the sender of an offer in derived identifiers. -/
def inviterAnchor (record : InvitationLookupRecord) : PubKey :=
  record.senderRootPubkey.getD record.peerPubkey

/-- The plan for an incoming offer, or the code of what is missing. -/
def resolveLocalAcceptancePlan (seed : Seed) (state : RuntimeState)
    (invitationId : InvitationId) : Except String LocalAcceptancePlan :=
  match findInvitationSentInRuntimeWithDirection state invitationId (some true) with
  | none => .error "matching incoming invitation not found"
  | some record =>
    if record.isIncoming = false then .error "matching incoming invitation not found"
    else if incomingInvitationReusesEmptySlotRejectedSenderStarter state invitationId
        record.starterId (inviterAnchor record) then
      .error "incoming invitation reuses burned sender starter"
    else
      match state.capsule with
      | none => .error "no capsule"
      | some capsule =>
        let slots := SlotLayout.fromLedger capsule.ledger
        let planFor (relationshipStarterId : StarterId)
            (createdStarter : Option (StarterId × StarterKind × Bytes 32)) :
            LocalAcceptancePlan := {
          invitationId := invitationId
          senderPubkey := record.peerPubkey
          senderRootPubkey := record.senderRootPubkey
          senderStarterId := record.starterId
          senderStarterType := record.starterKind
          relationshipStarterId := relationshipStarterId
          relationshipKind := record.starterKind
          peerStarterId := record.starterId
          createdStarter := createdStarter }
        match planAcceptForKind capsule.ledger slots record.starterKind with
        | .useExistingStarter relationshipStarterId createdStarter =>
          .ok (planFor relationshipStarterId
            (createdStarter.map (plannedStarter platform seed invitationId (inviterAnchor record))))
        | .createStarterInEmptySlot slot kind =>
          let created := plannedStarter platform seed invitationId (inviterAnchor record)
            ⟨slot, kind⟩
          .ok (planFor created.1 (some created))
        | .noCapacity => .error "no capacity to accept invitation"

/-! ### The appends -/

/-- Prepare the acceptance with the engine's own key as accepter root. -/
def Engine.prepareInvitationAccepted (engine : Engine Seed) (state : RuntimeState)
    (clock : Option UInt64) (invitationId : InvitationId) (fromPubkey : PubKey)
    (createdStarterId : StarterId) : Except EngineError PreparedEvent × RuntimeState :=
  match engine.publicKey platform with
  | none => (.error .keystore, state)
  | some accepterRootPubkey =>
    engine.prepareEvent platform state clock .invitationAccepted
      (InvitationAcceptedPayload.toBytes
        ⟨invitationId, fromPubkey, createdStarterId, some accepterRootPubkey⟩)
      (some fromPubkey)

def capsuleNetwork (state : RuntimeState) : Except String Network :=
  match state.capsule with
  | none => .error "no capsule"
  | some capsule => .ok capsule.network

/-- The starter is created unless it is live. -/
def appendStarterCreatedIfMissing (engine : Engine Seed) (outside : Outside Seed)
    (state : RuntimeState) (starterId : StarterId) (kind : StarterKind) (network : Network)
    (nonce : Bytes 32) : Except String Unit × RuntimeState :=
  match engine.prepareEvent platform state outside.clock .starterCreated
      (StarterCreatedPayload.toBytes ⟨starterId, nonce, kind, network.toByte⟩) none with
  | (.error _, state) => (.error "prepare failed", state)
  | (.ok prepared, state) =>
    if starterIsActiveInRuntime state starterId then (.ok (), state)
    else appendPreparedEvent platform outside state prepared

/-- The relationship row of an acceptance. -/
def acceptanceRow (plan : LocalAcceptancePlan) (fromPubkey : PubKey) (rootPubkey : PubKey) :
    RelationshipEstablishedPayload where
  peerPubkey := fromPubkey
  ownStarterId := plan.relationshipStarterId
  peerStarterId := plan.peerStarterId
  kind := plan.relationshipKind
  invitationId := plan.invitationId
  senderPubkey := plan.senderPubkey
  senderStarterType := plan.senderStarterType
  senderStarterId := plan.senderStarterId
  peerRootPubkey := plan.senderRootPubkey
  senderRootPubkey := some rootPubkey

/-- The last append of an acceptance. -/
def appendAcceptanceRow (engine : Engine Seed) (outside : Outside Seed) (state : RuntimeState)
    (plan : LocalAcceptancePlan) (fromPubkey : PubKey) : Except String Unit × RuntimeState :=
  match engine.publicKey platform with
  | none => (.error "prepare failed", state)
  | some rootPubkey =>
    appendRelationshipEstablishedIfMissing platform engine outside state
      (acceptanceRow plan fromPubkey rootPubkey)

/-- What follows the acceptance: the planned starter, and then the row. -/
def finalizeLocalAcceptance (engine : Engine Seed) (outside : AcceptOutside Seed)
    (state : RuntimeState) (plan : LocalAcceptancePlan) (fromPubkey : PubKey) :
    Except String Unit × RuntimeState :=
  match capsuleNetwork state with
  | .error message => (.error message, state)
  | .ok network =>
    match plan.createdStarter with
    | none => appendAcceptanceRow platform engine outside.relate state plan fromPubkey
    | some (starterId, kind, nonce) =>
      match appendStarterCreatedIfMissing platform engine outside.create state starterId kind
          network nonce with
      | (.error message, state) => (.error message, state)
      | (.ok (), state) => appendAcceptanceRow platform engine outside.relate state plan fromPubkey

/-- Accept a received invitation; the codes are those of the host interface, and a null
    pointer is a missing argument. -/
def hivraAcceptInvitation (outside : AcceptOutside Seed) (state : RuntimeState)
    (invitationIdPtr : Option InvitationId) (fromPubkeyPtr : Option PubKey) : ℤ × RuntimeState :=
  match invitationIdPtr, fromPubkeyPtr with
  | some invitationId, some fromPubkey =>
    if invitationIsResolvedInRuntime state invitationId then (-15, state)
    else
      match outside.loadSeed with
      | none => (-2, state)
      | some seed =>
        if state.capsule = none then (-5, state)
        else
          match platform.nostrPublicKey seed with
          | none => (-4, state)
          | some senderPubkey =>
            if fromPubkey = senderPubkey then (-11, state)
            else
              let engine := buildEngine state seed
              match resolveLocalAcceptancePlan platform seed state invitationId with
              | .error message =>
                if message = "matching incoming invitation not found" then (-8, state)
                else if message = "no capacity to accept invitation" then (-9, state)
                else (-10, state)
              | .ok plan =>
                match engine.prepareInvitationAccepted platform state outside.accept.clock
                    invitationId fromPubkey plan.relationshipStarterId with
                | (.error _, state) => (-3, state)
                | (.ok prepared, state) =>
                  if eventExistsInRuntime state .invitationAccepted prepared.event.payload then
                    (0, state)
                  else
                    match appendPreparedEvent platform outside.accept state prepared with
                    | (.error _, state) => (-3, state)
                    | (.ok (), state) =>
                      match finalizeLocalAcceptance platform engine outside state plan
                          fromPubkey with
                      | (.error _, state) => (-10, state)
                      | (.ok (), state) => (0, state)
  | _, _ => (-1, state)

/-! ### What a successful acceptance adds -/

variable {state state' : RuntimeState} {starterId : StarterId} {engine : Engine Seed}

/-- The creation of a starter is appended unless the starter is live. -/
theorem appendStarterCreated_ok {outside : Outside Seed} {kind : StarterKind} {network : Network}
    {nonce : Bytes 32}
    (h : appendStarterCreatedIfMissing platform engine outside state starterId kind network nonce
      = (.ok (), state')) :
    (starterIsActiveInRuntime state starterId = true ∧ StateGrows state state' []) ∨
    (starterIsActiveInRuntime state starterId = false ∧ ∃ created, created.kind = .starterCreated ∧
      created.payload = StarterCreatedPayload.toBytes ⟨starterId, nonce, kind, network.toByte⟩ ∧
      StateGrows state state' [created]) := by
  unfold appendStarterCreatedIfMissing at h
  have hcapsule := engine.prepareEvent_capsule platform state outside.clock .starterCreated
    (StarterCreatedPayload.toBytes ⟨starterId, nonce, kind, network.toByte⟩) none
  cases hprepare : engine.prepareEvent platform state outside.clock .starterCreated
      (StarterCreatedPayload.toBytes ⟨starterId, nonce, kind, network.toByte⟩) none with
  | mk result middle =>
    rw [hprepare] at h hcapsule
    cases result with
    | error _ => simp at h
    | ok prepared =>
      obtain ⟨hkind, hpayload, -⟩ := Engine.prepareEvent_ok platform
        (show (engine.prepareEvent platform state outside.clock .starterCreated
          (StarterCreatedPayload.toBytes ⟨starterId, nonce, kind, network.toByte⟩) none).1
            = .ok prepared by rw [hprepare])
      have hactive : starterIsActiveInRuntime middle starterId
          = starterIsActiveInRuntime state starterId := by
        unfold starterIsActiveInRuntime
        rw [show middle.capsule = state.capsule from hcapsule]
      have hstep : StateGrows state middle [] := .of_capsule_eq hcapsule
      dsimp only at h
      rw [hactive] at h
      by_cases hlive : starterIsActiveInRuntime state starterId = true
      · rw [if_pos hlive, Prod.mk.injEq] at h
        rw [← h.2]
        exact Or.inl ⟨hlive, hstep⟩
      · rw [if_neg hlive] at h
        rw [Bool.not_eq_true] at hlive
        rcases appendPreparedEvent_cases platform outside middle prepared with
          ⟨message, herror, -⟩ | ⟨-, hgrows⟩
        · rw [h] at herror
          simp at herror
        · rw [h] at hgrows
          exact Or.inr ⟨hlive, prepared.event, hkind, hpayload, hstep.trans hgrows⟩

/-- The row of an acceptance is at most one event. -/
theorem appendAcceptanceRow_grows (engine : Engine Seed) (outside : Outside Seed)
    (state : RuntimeState) (plan : LocalAcceptancePlan) (fromPubkey : PubKey) :
    ∃ related, (∀ event ∈ related, event.kind = .relationshipEstablished) ∧
      StateGrows state
        (appendAcceptanceRow platform engine outside state plan fromPubkey).2 related := by
  unfold appendAcceptanceRow
  cases engine.publicKey platform with
  | none => exact ⟨[], by simp, .of_capsule_eq rfl⟩
  | some rootPubkey =>
    dsimp only
    rcases appendRelationshipEstablished_cases platform engine outside state
      (acceptanceRow plan fromPubkey rootPubkey) with
      ⟨-, hgrows⟩ | ⟨-, -, event, hkind, -, -, hgrows⟩
    · exact ⟨[], by simp, hgrows⟩
    · exact ⟨[event], by simpa using hkind, hgrows⟩

/-- The creation a finished acceptance added behind its first append: none when nothing
    was planned or the planned starter was live, else one. -/
def AddedCreation (plan : LocalAcceptancePlan) (middle : RuntimeState) (created : List Event) :
    Prop :=
  match plan.createdStarter with
  | none => created = []
  | some (starterId, _, _) =>
    (starterIsActiveInRuntime middle starterId = true ∧ created = []) ∨
    (starterIsActiveInRuntime middle starterId = false ∧
      ∃ event, created = [event] ∧ createdStarter event = some starterId)

variable {fromPubkey : PubKey} {outside : AcceptOutside Seed} {plan : LocalAcceptancePlan}

/-- A finished acceptance added its creation and its row. -/
theorem finalizeLocalAcceptance_ok
    (h : finalizeLocalAcceptance platform engine outside state plan fromPubkey
      = (.ok (), state')) :
    ∃ created related, AddedCreation plan state created ∧
      (∀ event ∈ related, event.kind = .relationshipEstablished) ∧
      StateGrows state state' (created ++ related) := by
  unfold finalizeLocalAcceptance at h
  unfold AddedCreation
  cases hnetwork : capsuleNetwork state with
  | error message => simp [hnetwork] at h
  | ok network =>
    simp only [hnetwork] at h
    cases hplanned : plan.createdStarter with
    | none =>
      simp only [hplanned] at h
      obtain ⟨related, hrelated, hgrows⟩ :=
        appendAcceptanceRow_grows platform engine outside.relate state plan fromPubkey
      rw [h] at hgrows
      exact ⟨[], related, rfl, hrelated, hgrows⟩
    | some planned =>
      obtain ⟨starterId, kind, nonce⟩ := planned
      simp only [hplanned] at h
      cases hcreate : appendStarterCreatedIfMissing platform engine outside.create state starterId
          kind network nonce with
      | mk result middle =>
        rw [hcreate] at h
        cases result with
        | error message => simp at h
        | ok _ =>
          dsimp only at h
          obtain ⟨related, hrelated, hgrows⟩ :=
            appendAcceptanceRow_grows platform engine outside.relate middle plan fromPubkey
          rw [h] at hgrows
          rcases appendStarterCreated_ok platform hcreate with
            ⟨hlive, hnone⟩ | ⟨hnew, event, hkind, hpayload, hone⟩
          · exact ⟨[], related, Or.inl ⟨hlive, rfl⟩, hrelated, hnone.trans hgrows⟩
          · refine ⟨[event], related, Or.inr ⟨hnew, event, rfl, ?_⟩, hrelated,
              hone.trans hgrows⟩
            rw [createdStarter, if_pos hkind, hpayload, StarterCreatedPayload.fromBytes_toBytes]
            rfl

variable {invitationId : InvitationId} {prepared : PreparedEvent}

/-- An acceptance of the engine names the invitation and the planned starter. -/
private theorem prepareInvitationAccepted_ok {state : RuntimeState} {clock : Option UInt64}
    (h : (engine.prepareInvitationAccepted platform state clock invitationId fromPubkey
      starterId).1 = .ok prepared) :
    acceptedStarter prepared.event = some (invitationId, starterId) ∧
      prepared.event.kind = .invitationAccepted := by
  unfold Engine.prepareInvitationAccepted at h
  cases hkey : engine.publicKey platform with
  | none => simp [hkey] at h
  | some root =>
    simp only [hkey] at h
    obtain ⟨hkind, hpayload, -⟩ := Engine.prepareEvent_ok platform h
    refine ⟨?_, hkind⟩
    rw [acceptedStarter, if_pos hkind, hpayload, InvitationAcceptedPayload.fromBytes_toBytes]
    rfl

private theorem prepareInvitationAccepted_capsule (engine : Engine Seed) (state : RuntimeState)
    (clock : Option UInt64) (invitationId : InvitationId) (fromPubkey : PubKey)
    (starterId : StarterId) :
    (engine.prepareInvitationAccepted platform state clock invitationId fromPubkey
      starterId).2.capsule = state.capsule := by
  unfold Engine.prepareInvitationAccepted
  cases engine.publicKey platform with
  | none => rfl
  | some root => exact engine.prepareEvent_capsule platform ..

/-- An acceptance of the invitation in the ledger resolves it. -/
theorem resolved_of_acceptedStarter {state : RuntimeState} {event : Event} {id : InvitationId}
    (hmem : event ∈ state.events) (h : acceptedStarter event = some (id, starterId)) :
    invitationIsResolvedInRuntime state id = true := by
  unfold acceptedStarter at h
  split_ifs at h with hkind
  cases hparse : InvitationAcceptedPayload.fromBytes event.payload with
  | error _ => simp [hparse, Except.toOption] at h
  | ok payload =>
    have hterminal : terminalStatus event.kind event.payload = some (payload.invitationId,
        .accepted payload.createdStarterId payload.fromPubkey payload.accepterRootPubkey) := by
      rw [hkind]
      simp [terminalStatus, hparse]
    simp only [hparse, Except.toOption, Option.map_some, Option.some.injEq,
      Prod.mk.injEq] at h
    unfold invitationIsResolvedInRuntime
    rw [List.any_eq_true]
    refine ⟨event, hmem, ?_⟩
    rw [invitationIdFromTerminalPayload_of_terminal hterminal, h.1]
    simp

/-- An expiry of the invitation in the ledger resolves it. -/
theorem resolved_of_expiredInvitation {state : RuntimeState} {event : Event} {id : InvitationId}
    (hmem : event ∈ state.events) (h : expiredInvitation event = some id) :
    invitationIsResolvedInRuntime state id = true := by
  unfold expiredInvitation at h
  split_ifs at h with hkind
  cases hparse : InvitationExpiredPayload.fromBytes event.payload with
  | error _ => simp [hparse, Except.toOption] at h
  | ok payload =>
    have hterminal : terminalStatus event.kind event.payload
        = some (payload.invitationId, .expired) := by
      rw [hkind]
      simp [terminalStatus, hparse]
    simp only [hparse, Except.toOption, Option.map_some, Option.some.injEq] at h
    unfold invitationIsResolvedInRuntime
    rw [List.any_eq_true]
    refine ⟨event, hmem, ?_⟩
    rw [invitationIdFromTerminalPayload_of_terminal hterminal, h]
    simp

/-! ### The two phases of the call -/

/-- The call gets as far as to append the acceptance: it leaves `middle`. -/
structure Accepts (outside : AcceptOutside Seed) (state : RuntimeState)
    (invitationId : InvitationId) (fromPubkey : PubKey) (seed : Seed)
    (plan : LocalAcceptancePlan) (prepared : PreparedEvent) (middle : RuntimeState) : Prop where
  unresolved : invitationIsResolvedInRuntime state invitationId = false
  seedLoaded : outside.loadSeed = some seed
  hasCapsule : state.capsule ≠ none
  foreign : ∃ senderPubkey, platform.nostrPublicKey seed = some senderPubkey ∧
    fromPubkey ≠ senderPubkey
  planned : resolveLocalAcceptancePlan platform seed state invitationId = .ok plan
  accepted : ((buildEngine state seed).prepareInvitationAccepted platform state
    outside.accept.clock invitationId fromPubkey plan.relationshipStarterId).1 = .ok prepared
  appended : appendPreparedEvent platform outside.accept ((buildEngine state
    seed).prepareInvitationAccepted platform state outside.accept.clock invitationId fromPubkey
      plan.relationshipStarterId).2 prepared = (.ok (), middle)

/-- The acceptance that is appended first names the invitation and the planned starter. -/
theorem Accepts.grows {state middle : RuntimeState} {seed : Seed}
    (h : Accepts platform outside state invitationId fromPubkey seed plan prepared middle) :
    prepared.event.kind = .invitationAccepted ∧
      acceptedStarter prepared.event = some (invitationId, plan.relationshipStarterId) ∧
      StateGrows state middle [prepared.event] := by
  obtain ⟨hnames, hkind⟩ := prepareInvitationAccepted_ok platform h.accepted
  have hsame := prepareInvitationAccepted_capsule platform (buildEngine state seed) state
    outside.accept.clock invitationId fromPubkey plan.relationshipStarterId
  refine ⟨hkind, hnames, ?_⟩
  rcases appendPreparedEvent_cases platform outside.accept ((buildEngine state
    seed).prepareInvitationAccepted platform state outside.accept.clock invitationId fromPubkey
      plan.relationshipStarterId).2 prepared with ⟨message, herror, -⟩ | ⟨-, hgrows⟩
  · rw [h.appended] at herror
    simp at herror
  · rw [h.appended] at hgrows
    exact (StateGrows.of_capsule_eq hsame).trans hgrows

/-- **The two phases.**  The call stops with an error and leaves the capsule alone, or it
    appends the acceptance and ends as the rest of the acceptance does. -/
theorem hivraAcceptInvitation_phases (outside : AcceptOutside Seed) (state : RuntimeState)
    (invitationId : InvitationId) (fromPubkey : PubKey) :
    ((hivraAcceptInvitation platform outside state (some invitationId) (some fromPubkey)).1 ≠ 0 ∧
      (hivraAcceptInvitation platform outside state (some invitationId)
        (some fromPubkey)).2.capsule = state.capsule ∧
      ∀ seed plan prepared middle,
        ¬ Accepts platform outside state invitationId fromPubkey seed plan prepared middle) ∨
    ∃ seed plan prepared middle,
      Accepts platform outside state invitationId fromPubkey seed plan prepared middle ∧
      hivraAcceptInvitation platform outside state (some invitationId) (some fromPubkey) =
        match finalizeLocalAcceptance platform (buildEngine state seed) outside middle plan
            fromPubkey with
        | (.error _, final) => (-10, final)
        | (.ok (), final) => (0, final) := by
  unfold hivraAcceptInvitation
  dsimp only
  by_cases hresolved : invitationIsResolvedInRuntime state invitationId = true
  · rw [if_pos hresolved]
    refine Or.inl ⟨by simp, rfl, ?_⟩
    intro seed plan prepared middle h
    exact absurd (hresolved.symm.trans h.unresolved) (by simp)
  rw [if_neg hresolved]
  cases hseed : outside.loadSeed with
  | none =>
    refine Or.inl ⟨by simp, rfl, ?_⟩
    intro seed plan prepared middle h
    exact absurd (hseed.symm.trans h.seedLoaded) (by simp)
  | some seed =>
    have hsame : ∀ other, outside.loadSeed = some other → other = seed := by
      intro other hother
      exact (Option.some.inj (hseed.symm.trans hother)).symm
    dsimp only
    by_cases hcapsule : state.capsule = none
    · rw [if_pos hcapsule]
      exact Or.inl ⟨by simp, rfl, fun _ _ _ _ h => h.hasCapsule hcapsule⟩
    rw [if_neg hcapsule]
    cases hkey : platform.nostrPublicKey seed with
    | none =>
      refine Or.inl ⟨by simp, rfl, ?_⟩
      intro other plan prepared middle h
      obtain ⟨key, hother, -⟩ := h.foreign
      rw [hsame other h.seedLoaded, hkey] at hother
      cases hother
    | some senderPubkey =>
      dsimp only
      by_cases hself : fromPubkey = senderPubkey
      · rw [if_pos hself]
        refine Or.inl ⟨by simp, rfl, ?_⟩
        intro other plan prepared middle h
        obtain ⟨key, hother, hforeign⟩ := h.foreign
        rw [hsame other h.seedLoaded, hkey] at hother
        exact hforeign (hself.trans (Option.some.inj hother))
      rw [if_neg hself]
      cases hplan : resolveLocalAcceptancePlan platform seed state invitationId with
      | error message =>
        dsimp only
        refine Or.inl ⟨?_, ?_, ?_⟩
        · split_ifs <;> simp
        · split_ifs <;> rfl
        · intro other plan prepared middle h
          have hother := h.planned
          rw [hsame other h.seedLoaded, hplan] at hother
          cases hother
      | ok plan =>
        dsimp only
        cases hprepare : (buildEngine state seed).prepareInvitationAccepted platform state
            outside.accept.clock invitationId fromPubkey plan.relationshipStarterId with
        | mk result prepareState =>
          have hunique : ∀ other plan' prepared middle,
              Accepts platform outside state invitationId fromPubkey other plan' prepared middle →
              result = .ok prepared ∧
                appendPreparedEvent platform outside.accept prepareState prepared
                  = (.ok (), middle) := by
            intro other plan' prepared middle h
            obtain rfl := hsame other h.seedLoaded
            obtain rfl := Except.ok.inj (hplan.symm.trans h.planned)
            have haccepted := h.accepted
            have happended := h.appended
            rw [hprepare] at haccepted happended
            exact ⟨haccepted, happended⟩
          have hcapsule' := prepareInvitationAccepted_capsule platform (buildEngine state seed)
            state outside.accept.clock invitationId fromPubkey plan.relationshipStarterId
          rw [hprepare] at hcapsule'
          cases result with
          | error error =>
            refine Or.inl ⟨by simp, hcapsule', ?_⟩
            intro other plan' prepared middle h
            cases (hunique other plan' prepared middle h).1
          | ok prepared =>
            dsimp only
            obtain ⟨hnames, hkind⟩ := prepareInvitationAccepted_ok platform
              (show ((buildEngine state seed).prepareInvitationAccepted platform state
                outside.accept.clock invitationId fromPubkey plan.relationshipStarterId).1
                  = .ok prepared by rw [hprepare])
            -- a known acceptance would have resolved the invitation
            have hfresh : ¬ eventExistsInRuntime prepareState .invitationAccepted
                prepared.event.payload = true := by
              intro hexists
              unfold eventExistsInRuntime at hexists
              rw [List.any_eq_true] at hexists
              obtain ⟨event, hevent, hfound⟩ := hexists
              simp only [Bool.and_eq_true, beq_iff_eq] at hfound
              have hnamed : acceptedStarter event
                  = some (invitationId, plan.relationshipStarterId) := by
                rw [← hnames]
                unfold acceptedStarter
                rw [hfound.1, hfound.2, hkind]
              rw [(StateGrows.of_capsule_eq hcapsule').events, List.append_nil] at hevent
              exact hresolved (resolved_of_acceptedStarter hevent hnamed)
            rw [if_neg hfresh]
            cases happend : appendPreparedEvent platform outside.accept prepareState prepared with
            | mk result middle =>
              cases result with
              | error message =>
                refine Or.inl ⟨by simp, ?_, ?_⟩
                · rcases appendPreparedEvent_cases platform outside.accept prepareState prepared
                    with ⟨_, -, hkept⟩ | ⟨hok, -⟩
                  · rw [happend] at hkept
                    exact hkept.trans hcapsule'
                  · rw [happend] at hok
                    cases hok
                · intro other plan' prepared' middle' h
                  obtain ⟨hprepared, happended⟩ := hunique other plan' prepared' middle' h
                  rw [← Except.ok.inj hprepared, happend] at happended
                  cases (Prod.mk.inj happended).1
              | ok value =>
                refine Or.inr ⟨seed, plan, prepared, middle, ?_, ?_⟩
                · refine ⟨by simpa using hresolved, hseed, hcapsule, ⟨senderPubkey, hkey, hself⟩,
                    hplan, ?_, ?_⟩
                  · rw [hprepare]
                  · rw [hprepare]
                    exact happend
                · rfl

/-- **What a successful acceptance adds.**  The invitation was not resolved, a plan was
    found, and the ledger gets the acceptance with the planned starter, then the created
    starter unless it was live, then at most the relationship. -/
theorem hivraAcceptInvitation_accepted
    (h : hivraAcceptInvitation platform outside state (some invitationId) (some fromPubkey)
      = (0, state')) :
    invitationIsResolvedInRuntime state invitationId = false ∧
      ∃ seed plan middle accepted created related, outside.loadSeed = some seed ∧
        resolveLocalAcceptancePlan platform seed state invitationId = .ok plan ∧
        accepted.kind = .invitationAccepted ∧
        acceptedStarter accepted = some (invitationId, plan.relationshipStarterId) ∧
        StateGrows state middle [accepted] ∧ AddedCreation plan middle created ∧
        (∀ event ∈ related, event.kind = .relationshipEstablished) ∧
        StateGrows middle state' (created ++ related) := by
  rcases hivraAcceptInvitation_phases platform outside state invitationId fromPubkey with
    ⟨hcode, -, -⟩ | ⟨seed, plan, prepared, middle, haccepts, hresult⟩
  · rw [h] at hcode
    exact absurd rfl hcode
  · rw [h] at hresult
    cases hfinal : finalizeLocalAcceptance platform (buildEngine state seed) outside middle plan
        fromPubkey with
    | mk result final =>
      rw [hfinal] at hresult
      cases result with
      | error message => exact absurd (Prod.mk.inj hresult).1 (by simp)
      | ok value =>
        obtain ⟨created, related, hcreated, hrelated, hmore⟩ :=
          finalizeLocalAcceptance_ok platform hfinal
        obtain ⟨hkind, hnames, hgrows⟩ := haccepts.grows
        rw [(Prod.mk.inj hresult).2]
        exact ⟨haccepts.unresolved, seed, plan, middle, prepared.event, created, related,
          haccepts.seedLoaded, haccepts.planned, hkind, hnames, hgrows, hcreated, hrelated, hmore⟩

end Acceptance

end Hivra
