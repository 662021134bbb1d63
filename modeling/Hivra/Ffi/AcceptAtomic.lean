import Hivra.Ffi.RuntimeRun
import Hivra.Ffi.SenderRevoke

namespace Hivra

open ByteString

/-!
# Is an acceptance all or nothing?

A local acceptance appends up to three events one after another, each with its own exit.
Nothing takes the first one back when a later one fails, and what is found in the ledger
is not appended again.
-/

section Atomic

variable {Seed : Type} (platform : Platform Seed)

/-! ### What all and nothing mean -/

/-- The creation a plan asks for, as events of the capsule's owner. -/
def PlannedCreation (capsule : Capsule) (plan : LocalAcceptancePlan) (created : List Event) :
    Prop :=
  match plan.createdStarter with
  | none => created = []
  | some (starterId, kind, nonce) => ∃ event, created = [event] ∧
      event.kind = .starterCreated ∧ event.signer = capsule.pubkey ∧
      event.payload
        = StarterCreatedPayload.toBytes ⟨starterId, nonce, kind, capsule.network.toByte⟩

/-- A row that carries the starters of a plan and its invitation. -/
def CarriesPlan (plan : LocalAcceptancePlan) (invitationId : InvitationId) (payload : List UInt8) :
    Prop :=
  ∃ row, RelationshipEstablishedPayload.fromBytes payload = .ok row ∧
    row.ownStarterId = plan.relationshipStarterId ∧ row.peerStarterId = plan.peerStarterId ∧
    row.senderStarterId = plan.senderStarterId ∧ row.invitationId = invitationId

/-- The ledger ends with the owner's acceptance, the planned creation and the row. -/
def EndsWithAcceptance (state state' : RuntimeState) (invitationId : InvitationId)
    (plan : LocalAcceptancePlan) : Prop :=
  ∃ capsule accepted created row, state.capsule = some capsule ∧
    StateGrows state state' ([accepted] ++ created ++ [row]) ∧
    (accepted.kind = .invitationAccepted ∧ accepted.signer = capsule.pubkey ∧
      acceptedStarter accepted = some (invitationId, plan.relationshipStarterId)) ∧
    PlannedCreation capsule plan created ∧
    (row.kind = .relationshipEstablished ∧ row.signer = capsule.pubkey ∧
      CarriesPlan plan invitationId row.payload)

/-- The call leaves the capsule as it is when it fails, and the whole acceptance at the end of
    the ledger when it succeeds. -/
def AllOrNothing (outside : AcceptOutside Seed) (state : RuntimeState)
    (invitationIdPtr : Option InvitationId) (fromPubkeyPtr : Option PubKey) : Prop :=
  let result := hivraAcceptInvitation platform outside state invitationIdPtr fromPubkeyPtr
  (result.1 ≠ 0 → result.2.capsule = state.capsule) ∧
  (result.1 = 0 → ∃ invitationId seed plan, invitationIdPtr = some invitationId ∧
    outside.loadSeed = some seed ∧
    resolveLocalAcceptancePlan platform seed state invitationId = .ok plan ∧
    EndsWithAcceptance state result.2 invitationId plan)

/-! ### What the call draws up

The times and the events of a call, from the state before it and what the outside answers. -/

/-- A seed that has a root key signs every digest. -/
def Platform.Signs : Prop :=
  ∀ seed digest, (platform.rootPublicKey seed).isSome → (platform.sign seed digest).isSome

/-- The reading of the time source behind a time. -/
def timeAfter (time : Timestamp) (clock : Option UInt64) : Timestamp :=
  max (clock.getD 0) (saturatingSucc time)

/-- The unsigned event of a signer, of the version of a ledger. -/
def Ledger.unsignedEvent (ledger : Ledger) (signer : PubKey) (kind : EventKind)
    (payload : List UInt8) (time : Timestamp) : Event :=
  if ledger.isContinuousV5 then .newV5 kind payload time ⟨fill 64 0⟩ signer
  else .new kind payload time ⟨fill 64 0⟩ signer

/-- The event signed with a seed. -/
def ownEvent (seed : Seed) (ledger : Ledger) (signer : PubKey) (kind : EventKind)
    (payload : List UInt8) (time : Timestamp) : Event :=
  let unsigned := ledger.unsignedEvent signer kind payload time
  { unsigned with
    signature := (platform.sign seed (unsigned.eventId platform.sha256)).getD ⟨fill 64 0⟩ }

/-- What a call works with in a state: the invitation and whom it is accepted from, the capsule,
    the stored seed and its root key, and the plan. -/
structure AcceptDraft (outside : AcceptOutside Seed) (state : RuntimeState) where
  invitationId : InvitationId
  fromPubkey : PubKey
  capsule : Capsule
  seed : Seed
  signer : PubKey
  plan : LocalAcceptancePlan

namespace AcceptDraft

variable {outside : AcceptOutside Seed} {state : RuntimeState} (draft : AcceptDraft outside state)

def acceptTime (_ : AcceptDraft outside state) : Timestamp :=
  timeAfter state.lastEngineTsMs outside.accept.clock

def createTime : Timestamp := timeAfter draft.acceptTime outside.create.clock

/-- The row comes behind the creation, if there is one. -/
def relateTime : Timestamp :=
  timeAfter (if draft.plan.createdStarter.isSome then draft.createTime else draft.acceptTime)
    outside.relate.clock

/-- An event of the call, signed for the ledger before it. -/
def own (kind : EventKind) (payload : List UInt8) (time : Timestamp) : Event :=
  ownEvent platform draft.seed draft.capsule.ledger draft.signer kind payload time

def accepted : Event :=
  draft.own platform .invitationAccepted
    (InvitationAcceptedPayload.toBytes
      ⟨draft.invitationId, draft.fromPubkey, draft.plan.relationshipStarterId, some draft.signer⟩)
    draft.acceptTime

def created (planned : StarterId × StarterKind × Bytes 32) : Event :=
  draft.own platform .starterCreated
    (StarterCreatedPayload.toBytes
      ⟨planned.1, planned.2.2, planned.2.1, draft.capsule.network.toByte⟩)
    draft.createTime

/-- The payload of the row. -/
def row : RelationshipEstablishedPayload :=
  acceptanceRow draft.plan draft.fromPubkey draft.signer

def related : Event :=
  draft.own platform .relationshipEstablished draft.row.toBytes draft.relateTime

/-- The creation the plan asks for. -/
def creation : List Event := draft.plan.createdStarter.toList.map (draft.created platform)

/-- An event joins others of the call: what it adds is not known, the ledger before the call takes
    it with the seed stored then, and in a v5 ledger no event of the call before it has its id. -/
structure Joins (known : Bool) (stored : Outside Seed) (before : List Event) (event : Event) :
    Prop where
  new : known = false
  taken : LedgerTakesPrepared platform stored.loadSeed draft.capsule.ledger event
  apart : draft.capsule.ledger.isContinuousV5 = true → ∀ other ∈ before,
    other.eventId platform.sha256 ≠ event.eventId platform.sha256

/-- The first append goes through: no check of the call refuses it, and the ledger takes the
    acceptance. -/
structure Begins : Prop where
  capsule : state.capsule = some draft.capsule
  unresolved : invitationIsResolvedInRuntime state draft.invitationId = false
  seedLoaded : outside.loadSeed = some draft.seed
  foreign : ∃ senderPubkey, platform.nostrPublicKey draft.seed = some senderPubkey ∧
    draft.fromPubkey ≠ senderPubkey
  planned : resolveLocalAcceptancePlan platform draft.seed state draft.invitationId
    = .ok draft.plan
  hasKey : platform.rootPublicKey draft.seed = some draft.signer
  taken : LedgerTakesPrepared platform outside.accept.loadSeed draft.capsule.ledger
    (draft.accepted platform)

/-- Nothing is in the way of the rest: the planned starter is not live and the ledger does not
    hold the row, and both events join the acceptance. -/
structure Continues : Prop where
  creation : ∀ planned ∈ draft.plan.createdStarter,
    draft.Joins platform (starterIsActiveInRuntime state planned.1) outside.create
      [draft.accepted platform] (draft.created platform planned)
  row : draft.Joins platform
    (eventExistsInRuntime state .relationshipEstablished draft.row.toBytes) outside.relate
    ([draft.accepted platform] ++ draft.creation platform) (draft.related platform)

end AcceptDraft

variable {platform} {plan : LocalAcceptancePlan} {invitationId : InvitationId}

/-! ### The plan -/

/-- The row keeps its starters and its invitation, whether or not both roots are written. -/
private theorem carriesPlan_row (h : plan.invitationId = invitationId)
    (fromPubkey rootPubkey : PubKey) :
    CarriesPlan plan invitationId (acceptanceRow plan fromPubkey rootPubkey).toBytes := by
  cases hroot : plan.senderRootPubkey with
  | some peerRoot =>
    refine ⟨acceptanceRow plan fromPubkey rootPubkey,
      RelationshipEstablishedPayload.fromBytes_toBytes _ ?_, rfl, rfl, rfl, h⟩
    intro hnone
    rw [show (acceptanceRow plan fromPubkey rootPubkey).peerRootPubkey = some peerRoot from hroot]
      at hnone
    cases hnone
  | none =>
    -- without a peer root the sender root is not written
    let row : RelationshipEstablishedPayload :=
      { acceptanceRow plan fromPubkey rootPubkey with senderRootPubkey := none }
    have hbytes : (acceptanceRow plan fromPubkey rootPubkey).toBytes = row.toBytes := by
      have hpeer : (acceptanceRow plan fromPubkey rootPubkey).peerRootPubkey = none := hroot
      unfold RelationshipEstablishedPayload.toBytes RelationshipEstablishedPayload.rootBytes
      rw [hpeer]
      rfl
    rw [hbytes]
    exact ⟨row, RelationshipEstablishedPayload.fromBytes_toBytes row fun _ => rfl, rfl, rfl, rfl, h⟩

/-- A resolved plan is one of the invitation it was resolved for. -/
private theorem plan_invitationId {seed : Seed} {state : RuntimeState}
    (h : resolveLocalAcceptancePlan platform seed state invitationId = .ok plan) :
    plan.invitationId = invitationId := by
  unfold resolveLocalAcceptancePlan at h
  split at h
  · simp at h
  split at h
  · simp at h
  split at h
  · simp at h
  split at h
  · simp at h
  dsimp only at h
  split at h
  · rw [← Except.ok.inj h]
  · rw [← Except.ok.inj h]
  · simp at h

/-! ### From the ledger before the call to the ledgers within it -/

/-- A ledger behind some of the owner's appends. -/
structure Behind (ledger ledger' : Ledger) (new : List Event) : Prop where
  owner : ledger'.owner = ledger.owner
  events : ledger'.events = ledger.events ++ new
  v5 : ∀ continuity, ledger.continuityV5 = some continuity →
    ∃ continuity', ledger'.continuityV5 = some continuity' ∧ continuity'.anchor = continuity.anchor
  v4 : ledger.continuityV5 = none → ledger'.continuityV5 = none

private theorem Behind.trans {ledger ledger' ledger'' : Ledger} {new more : List Event}
    (h : Behind ledger ledger' new) (h' : Behind ledger' ledger'' more) :
    Behind ledger ledger'' (new ++ more) where
  owner := h'.owner.trans h.owner
  events := by rw [h'.events, h.events, List.append_assoc]
  v5 := by
    intro continuity hv5
    obtain ⟨middle, hmiddle, hanchor⟩ := h.v5 continuity hv5
    obtain ⟨last, hlast, hsame⟩ := h'.v5 middle hmiddle
    exact ⟨last, hlast, hsame.trans hanchor⟩
  v4 := fun hv4 => h'.v4 (h.v4 hv4)

/-- What an append of an own event leaves behind. -/
private theorem appendPrepared_behind {outside : Outside Seed} {state state' : RuntimeState}
    {capsule : Capsule} {prepared : PreparedEvent} (hcapsule : state.capsule = some capsule)
    (h : appendPreparedEvent platform outside state prepared = (.ok (), state')) :
    ∃ ledger', state'.capsule = some { capsule with ledger := ledger' } ∧
      Behind capsule.ledger ledger' [prepared.event] ∧
      state'.lastEngineTsMs = max state.lastEngineTsMs prepared.event.timestamp := by
  unfold appendPreparedEvent at h
  simp only [hcapsule] at h
  by_cases hcontinuous : capsule.ledger.isContinuousV5 = true
  · rw [if_pos hcontinuous] at h
    split at h
    · cases (Prod.mk.inj h).1
    split at h
    · cases (Prod.mk.inj h).1
    rename_i ledger' happend
    obtain ⟨howner, hevents⟩ := appendV5Event_ok platform happend
    refine ⟨ledger', by rw [← (Prod.mk.inj h).2]; rfl, ⟨howner, hevents, ?_, ?_⟩,
      by rw [← (Prod.mk.inj h).2]; rfl⟩
    · intro continuity hv5
      obtain ⟨entry, -, happended⟩ := appendV5Event_entry platform happend
      obtain ⟨other, hother, -, rfl⟩ := Ledger.appendV5_ok happended
      obtain rfl := Option.some.inj (hv5.symm.trans hother)
      exact ⟨_, rfl, rfl⟩
    · intro hv4
      simp [Ledger.isContinuousV5, hv4] at hcontinuous
  · rw [if_neg hcontinuous] at h
    split at h
    · cases (Prod.mk.inj h).1
    rename_i ledger' happend
    obtain ⟨hv4, -, -, -, hledger⟩ := Ledger.append_ok happend
    obtain ⟨howner, hevents⟩ := append_events happend
    refine ⟨ledger', by rw [← (Prod.mk.inj h).2]; rfl, ⟨howner, hevents, ?_, ?_⟩,
      by rw [← (Prod.mk.inj h).2]; rfl⟩
    · intro continuity hv5
      rw [hv4] at hv5
      cases hv5
    · intro _
      rw [hledger]
      exact hv4

variable {stored : Option Seed} {ledger ledger' : Ledger} {new : List Event} {event : Event}

/-- What the ledger takes behind own events is what it takes before them, as long as the ids
    differ. -/
private theorem Behind.takes_iff (hsigns : platform.Signs) (h : Behind ledger ledger' new)
    (hother : event ∉ new) (hlast : ∃ last ∈ new.getLast?, last.timestamp ≤ event.timestamp)
    (hordered : ledger.continuityV5 = none →
      ∀ last ∈ ledger.events.getLast?, last.timestamp ≤ event.timestamp) :
    LedgerTakesPrepared platform stored ledger' event ↔
      LedgerTakesPrepared platform stored ledger event ∧
        (ledger.isContinuousV5 = true →
          ∀ other ∈ new, other.eventId platform.sha256 ≠ event.eventId platform.sha256) := by
  cases hv5 : ledger.continuityV5 with
  | some continuity =>
    obtain ⟨continuity', hv5', hanchor⟩ := h.v5 continuity hv5
    have hcontinuous : ledger.isContinuousV5 = true := by simp [Ledger.isContinuousV5, hv5]
    rw [ledgerTakesPrepared_v5 platform hv5, ledgerTakesPrepared_v5 platform hv5']
    constructor
    · rintro ⟨seed, hstored, htakes⟩
      have hfresh := htakes.fresh
      rw [h.events] at hfresh
      have howner : platform.rootPublicKey seed = some ledger.owner :=
        htakes.owner.trans (congrArg some h.owner)
      refine ⟨⟨seed, hstored, htakes.version, ?_, howner, ?_, ?_⟩, ?_⟩
      · rw [← hanchor, htakes.anchorOwner, h.owner]
      · exact hsigns seed _ (by rw [howner]; rfl)
      · exact fun other hmem => hfresh other (List.mem_append_left _ hmem)
      · exact fun _ other hmem => hfresh other (List.mem_append_right _ hmem)
    · rintro ⟨⟨seed, hstored, htakes⟩, hapart⟩
      have howner : platform.rootPublicKey seed = some ledger'.owner :=
        htakes.owner.trans (congrArg some h.owner.symm)
      refine ⟨seed, hstored, htakes.version, ?_, howner, ?_, ?_⟩
      · rw [hanchor, htakes.anchorOwner, h.owner]
      · exact hsigns seed _ (by rw [howner]; rfl)
      · intro other hmem
        rw [h.events, List.mem_append] at hmem
        exact hmem.elim (htakes.fresh other) (hapart hcontinuous other)
  | none =>
    have hcontinuous : ¬ ledger.isContinuousV5 = true := by simp [Ledger.isContinuousV5, hv5]
    rw [ledgerTakesPrepared_v4 platform hv5, ledgerTakesPrepared_v4 platform (h.v4 hv5)]
    obtain ⟨last, hmem, htime⟩ := hlast
    have hend : ledger'.events.getLast? = some last := by
      rw [h.events, List.getLast?_append, Option.mem_def.mp hmem]
      rfl
    constructor
    · intro htakes
      refine ⟨⟨htakes.version, ?_, hordered hv5⟩, fun h5 => absurd h5 hcontinuous⟩
      intro hheld
      exact htakes.fresh (by rw [h.events]; exact List.mem_append_left _ hheld)
    · rintro ⟨htakes, -⟩
      refine ⟨htakes.version, ?_, ?_⟩
      · rw [h.events, List.mem_append]
        exact fun hheld => hheld.elim htakes.fresh hother
      · intro other hmem'
        rw [hend] at hmem'
        rw [← Option.some.inj hmem']
        exact htime

theorem le_timeAfter (time : Timestamp) (clock : Option UInt64) : time ≤ timeAfter time clock :=
  UInt64.le_trans (le_saturatingSucc time) (right_le_max _ _)


/-- The engine of a capsule prepares the event its seed signs. -/
private theorem prepareEvent_own (hsigns : platform.Signs) {seed : Seed} {signer : PubKey}
    {before : RuntimeState} {capsule : Capsule}
    (hkey : platform.rootPublicKey seed = some signer) (hcapsule : before.capsule = some capsule)
    (state : RuntimeState) (clock : Option UInt64) (kind : EventKind) (payload : List UInt8)
    (recipient : Option PubKey) :
    (buildEngine before seed).prepareEvent platform state clock kind payload recipient =
      (.ok ⟨ownEvent platform seed capsule.ledger signer kind payload
          (timeAfter state.lastEngineTsMs clock), recipient⟩, (state.now clock).2) := by
  have hengine : buildEngine before seed = buildEngineForLedger seed capsule.ledger := by
    unfold buildEngine
    rw [hcapsule]
  have hroot : (buildEngineForLedger seed capsule.ledger).publicKey platform = some signer := hkey
  have hunsigned : (buildEngineForLedger seed capsule.ledger).unsignedEvent kind payload
      (state.now clock).1 signer
        = .ok (capsule.ledger.unsignedEvent signer kind payload (state.now clock).1) := by
    unfold Engine.unsignedEvent buildEngineForLedger Ledger.unsignedEvent
    cases capsule.ledger.isContinuousV5 <;> rfl
  obtain ⟨signature, hsign⟩ := Option.isSome_iff_exists.mp
    (hsigns seed ((capsule.ledger.unsignedEvent signer kind payload (state.now clock).1).eventId
      platform.sha256) (by rw [hkey]; rfl))
  have hown : ownEvent platform seed capsule.ledger signer kind payload
      (timeAfter state.lastEngineTsMs clock)
        = { capsule.ledger.unsignedEvent signer kind payload (state.now clock).1 with
            signature := signature } := by
    unfold ownEvent
    dsimp only
    rw [show timeAfter state.lastEngineTsMs clock = (state.now clock).1 from rfl, hsign]
    rfl
  unfold Engine.prepareEvent
  rw [hengine, hroot, hown]
  dsimp only
  rw [hunsigned]
  dsimp only
  rw [show (buildEngineForLedger seed capsule.ledger).seed = seed from rfl, hsign]

namespace AcceptDraft

variable {outside : AcceptOutside Seed} {state : RuntimeState} {draft : AcceptDraft outside state}

/-- A state within the call, behind some of its events, the last one of a time. -/
structure Reached (draft : AcceptDraft outside state) (reached : RuntimeState)
    (new : List Event) (time : Timestamp) : Prop where
  behind : ∃ ledger', reached.capsule = some { draft.capsule with ledger := ledger' } ∧
    Behind draft.capsule.ledger ledger' new
  last : reached.lastEngineTsMs = time
  ends : ∃ event ∈ new.getLast?, event.timestamp = time

/-- What an event of the call carries. -/
private theorem own_carries (kind : EventKind) (payload : List UInt8) (time : Timestamp) :
    let event := draft.own platform kind payload time
    event.kind = kind ∧ event.payload = payload ∧ event.signer = draft.signer ∧
      event.timestamp = time := by
  unfold own ownEvent Ledger.unsignedEvent
  split_ifs <;> exact ⟨rfl, rfl, rfl, rfl⟩

variable {reached : RuntimeState} {new : List Event} {time : Timestamp} {stored : Outside Seed}
  {kind : EventKind} {payload : List UInt8}

/-- The engine of the call prepares its next event. -/
private theorem Begins.prepares (hsigns : platform.Signs) (h : draft.Begins platform)
    (hlast : reached.lastEngineTsMs = time) (recipient : Option PubKey) :
    (buildEngine state draft.seed).prepareEvent platform reached stored.clock kind payload recipient
      = (.ok ⟨draft.own platform kind payload (timeAfter time stored.clock), recipient⟩,
        (reached.now stored.clock).2) := by
  rw [← hlast]
  exact prepareEvent_own hsigns h.hasKey h.capsule ..

/-- One more event of the call is appended. -/
private theorem Reached.append {reached' : RuntimeState} {recipient : Option PubKey}
    (hbehind : ∃ ledger', reached.capsule = some { draft.capsule with ledger := ledger' } ∧
      Behind draft.capsule.ledger ledger' new)
    (hlast : reached.lastEngineTsMs = time)
    (h : appendPreparedEvent platform stored (reached.now stored.clock).2
      ⟨draft.own platform kind payload (timeAfter time stored.clock), recipient⟩
        = (.ok (), reached')) :
    Reached draft reached' (new ++ [draft.own platform kind payload (timeAfter time stored.clock)])
      (timeAfter time stored.clock) := by
  obtain ⟨ledger', hcapsule, hbehind⟩ := hbehind
  obtain ⟨ledger'', hcapsule', hmore, hlast'⟩ := appendPrepared_behind
    (show (reached.now stored.clock).2.capsule = some { draft.capsule with ledger := ledger' }
      from hcapsule) h
  have htime : (draft.own platform kind payload (timeAfter time stored.clock)).timestamp
      = timeAfter time stored.clock := (own_carries ..).2.2.2
  refine ⟨⟨ledger'', hcapsule', hbehind.trans hmore⟩, ?_, _, by simp, htime⟩
  rw [hlast', htime, ← hlast]
  exact ite_self _

/-- The acceptance is the first event behind the ledger before the call. -/
private theorem Begins.accepts (hsigns : platform.Signs) (h : draft.Begins platform) :
    ∃ middle, Accepts platform outside state draft.invitationId draft.fromPubkey draft.seed
        draft.plan ⟨draft.accepted platform, some draft.fromPubkey⟩ middle ∧
      Reached draft middle [draft.accepted platform] draft.acceptTime := by
  have hroot : (buildEngine state draft.seed).publicKey platform = some draft.signer :=
    (publicKey_buildEngine platform state draft.seed).trans h.hasKey
  have hprepare : (buildEngine state draft.seed).prepareInvitationAccepted platform state
      outside.accept.clock draft.invitationId draft.fromPubkey draft.plan.relationshipStarterId
        = (.ok ⟨draft.accepted platform, some draft.fromPubkey⟩,
          (state.now outside.accept.clock).2) := by
    unfold Engine.prepareInvitationAccepted
    rw [hroot]
    exact h.prepares hsigns rfl (some draft.fromPubkey)
  have hok := (appendPreparedEvent_iff platform outside.accept (state.now outside.accept.clock).2
    ⟨draft.accepted platform, some draft.fromPubkey⟩).mpr ⟨draft.capsule, h.capsule, h.taken⟩
  cases happend : appendPreparedEvent platform outside.accept (state.now outside.accept.clock).2
      ⟨draft.accepted platform, some draft.fromPubkey⟩ with
  | mk result middle =>
    rw [happend] at hok
    obtain rfl : result = .ok () := hok
    refine ⟨middle, ⟨h.unresolved, h.seedLoaded, ?_, h.foreign, h.planned, ?_, ?_⟩, ?_⟩
    · rw [h.capsule]
      exact Option.some_ne_none _
    · rw [hprepare]
    · rw [hprepare]
      exact happend
    · have hstart : ∃ ledger', state.capsule = some { draft.capsule with ledger := ledger' } ∧
          Behind draft.capsule.ledger ledger' [] :=
        ⟨draft.capsule.ledger, h.capsule, rfl, by simp, fun c hc => ⟨c, hc, rfl⟩, id⟩
      exact Reached.append hstart rfl happend

/-- Whenever the first append goes through, the state before the call says so. -/
private theorem begins_of_accepts {seed : Seed} {capsule : Capsule} {fromPubkey : PubKey}
    {prepared : PreparedEvent} {middle : RuntimeState} (hsigns : platform.Signs)
    (hcapsule : state.capsule = some capsule)
    (h : Accepts platform outside state invitationId fromPubkey seed plan prepared middle) :
    ∃ draft : AcceptDraft outside state, draft.invitationId = invitationId ∧
      draft.fromPubkey = fromPubkey ∧ draft.seed = seed ∧ draft.plan = plan ∧
      draft.Begins platform := by
  have haccepted := h.accepted
  have happended := h.appended
  unfold Engine.prepareInvitationAccepted at haccepted happended
  rw [publicKey_buildEngine platform] at haccepted happended
  cases hkey : platform.rootPublicKey seed with
  | none =>
    rw [hkey] at haccepted
    cases haccepted
  | some signer =>
    rw [hkey] at haccepted happended
    dsimp only at haccepted happended
    rw [prepareEvent_own hsigns hkey hcapsule] at haccepted happended
    obtain rfl := Except.ok.inj haccepted
    obtain ⟨other, hother, htaken⟩ := (appendPreparedEvent_iff platform outside.accept _ _).mp
      (congrArg Prod.fst happended)
    obtain rfl := Option.some.inj (hcapsule.symm.trans hother)
    exact ⟨⟨invitationId, fromPubkey, capsule, seed, signer, plan⟩, rfl, rfl, rfl, rfl, hcapsule,
      h.unresolved, h.seedLoaded, h.foreign, h.planned, hkey, htaken⟩

/-- A call begins with one seed, one plan and one key. -/
private theorem Begins.unique {other : AcceptDraft outside state} (h : draft.Begins platform)
    (h' : other.Begins platform) (hid : other.invitationId = draft.invitationId)
    (hfrom : other.fromPubkey = draft.fromPubkey) : other = draft := by
  obtain ⟨id, key, capsule, seed, signer, plan⟩ := draft
  obtain ⟨id', key', capsule', seed', signer', plan'⟩ := other
  obtain rfl : id' = id := hid
  obtain rfl : key' = key := hfrom
  obtain rfl : capsule' = capsule := Option.some.inj (h'.capsule.symm.trans h.capsule)
  obtain rfl : seed' = seed := Option.some.inj (h'.seedLoaded.symm.trans h.seedLoaded)
  obtain rfl : signer' = signer := Option.some.inj (h'.hasKey.symm.trans h.hasKey)
  obtain rfl : plan' = plan := Except.ok.inj (h'.planned.symm.trans h.planned)
  rfl

variable (stored payload) in
/-- An event of the call is appended when it joins the others; otherwise nothing changes. -/
private theorem Reached.appendUnless_cases (found : RuntimeState → PreparedEvent → Bool)
    (known : Bool) (hsigns : platform.Signs) (hbegins : draft.Begins platform)
    (h : Reached draft reached new time) (hlater : draft.acceptTime ≤ time)
    (hkind : ∀ event ∈ new, event.kind ≠ kind) (hfound : ∀ middle prepared, middle.capsule = reached.capsule →
      prepared.event.payload = payload → found middle prepared = known) :
    let event := draft.own platform kind payload (timeAfter time stored.clock)
    let result := appendUnless platform (buildEngine state draft.seed) stored found reached kind
      payload
    (¬ draft.Joins platform known stored new event ∧ StateGrows reached result.2 []) ∨
    (draft.Joins platform known stored new event ∧ result.1 = .ok () ∧
      Reached draft result.2 (new ++ [event]) (timeAfter time stored.clock)) := by
  dsimp only
  obtain ⟨ledger', hcapsule, hbehind⟩ := h.behind
  obtain ⟨last, hmem, htime⟩ := h.ends
  obtain ⟨hownKind, hpayload, -, hownTime⟩ := @own_carries _ platform _ _ draft kind payload
    (timeAfter time stored.clock)
  have htakes : LedgerTakesPrepared platform stored.loadSeed ledger'
      (draft.own platform kind payload (timeAfter time stored.clock)) ↔ _ := hbehind.takes_iff hsigns
    (fun hheld => hkind _ hheld hownKind)
    ⟨last, hmem, by rw [htime, hownTime]; exact le_timeAfter time stored.clock⟩
    (fun hv4 other hother => by
      -- the acceptance is not before the last event of a v4 ledger
      have hordered := ((ledgerTakesPrepared_v4 platform hv4 _).mp hbegins.taken).ordered other
        hother
      rw [show (draft.accepted platform).timestamp = draft.acceptTime from (own_carries ..).2.2.2]
        at hordered
      rw [hownTime]
      exact UInt64.le_trans hordered
        (UInt64.le_trans hlater (le_timeAfter time stored.clock)))
  have htaken := appendPreparedEvent_iff platform stored (reached.now stored.clock).2
    ⟨draft.own platform kind payload (timeAfter time stored.clock), none⟩
  have hledger : TakesPrepared platform stored (reached.now stored.clock).2
      (draft.own platform kind payload (timeAfter time stored.clock)) ↔
        LedgerTakesPrepared platform stored.loadSeed ledger'
          (draft.own platform kind payload (timeAfter time stored.clock)) := by
    refine ⟨?_, fun htaken => ⟨_, hcapsule, htaken⟩⟩
    rintro ⟨other, hother, htaken⟩
    obtain rfl := Option.some.inj (hcapsule.symm.trans hother)
    exact htaken
  rw [hledger, htakes] at htaken
  unfold Hivra.appendUnless
  rw [hbegins.prepares hsigns h.last]
  dsimp only
  rw [hfound _ _ (RuntimeState.now_capsule reached _) hpayload]
  have hsame : StateGrows reached (reached.now stored.clock).2 [] := .of_capsule_eq rfl
  cases known with
  | true => exact Or.inl ⟨fun hjoins => absurd hjoins.new (by simp), hsame⟩
  | false =>
    rw [if_neg (by simp)]
    cases happend : appendPreparedEvent platform stored (reached.now stored.clock).2
        ⟨draft.own platform kind payload (timeAfter time stored.clock), none⟩ with
    | mk result after =>
      rcases appendPreparedEvent_cases platform stored (reached.now stored.clock).2
        ⟨draft.own platform kind payload (timeAfter time stored.clock), none⟩ with
        ⟨message, herror, hkept⟩ | ⟨hok, -⟩
      · refine Or.inl ⟨fun hjoins => ?_, ?_⟩
        · rw [htaken.mpr ⟨hjoins.taken, hjoins.apart⟩] at herror
          cases herror
        · rw [happend] at hkept
          exact hsame.trans (.of_capsule_eq hkept)
      · obtain ⟨htakes, hids⟩ := htaken.mp hok
        rw [happend] at hok
        obtain rfl : result = .ok () := hok
        exact Or.inr ⟨⟨rfl, htakes, hids⟩, rfl, Reached.append h.behind h.last happend⟩

/-- The acceptance moves no starter: its invitation was not expired. -/
private theorem Reached.starterIsActive (hsigns : platform.Signs) (hbegins : draft.Begins platform)
    (h : Reached draft reached [draft.accepted platform] time) (id : StarterId) :
    starterIsActiveInRuntime reached id = starterIsActiveInRuntime state id := by
  obtain ⟨ledger', hcapsule, hbehind⟩ := h.behind
  have hkind : (draft.accepted platform).kind = .invitationAccepted := (own_carries ..).1
  have hexpires : expiredInvitation (draft.accepted platform) = none := by
    simp [expiredInvitation, hkind]
  have hoffer : ∀ signer invitationId,
      isSenderSignedOffer signer invitationId (draft.accepted platform) = false := by
    intro signer invitationId
    simp [isSenderSignedOffer, hkind]
  obtain ⟨middle, haccepts, -⟩ := hbegins.accepts hsigns
  have hexpired : ∀ invitationId, invitationId ∈ expiredInvitationIds ledger'.events ↔
      invitationId ∈ expiredInvitationIds draft.capsule.ledger.events := by
    intro invitationId
    simp only [mem_expiredInvitationIds_iff, hbehind.events, List.mem_append, List.mem_singleton,
      or_and_right, exists_or, exists_eq_left, hexpires, hoffer, reduceCtorEq, false_and,
      or_false, Bool.false_eq_true]
  have hrevoked : ∀ starterId, starterId ∈ revokedCreatedStarterIds ledger' ↔
      starterId ∈ revokedCreatedStarterIds draft.capsule.ledger := by
    intro starterId
    simp only [mem_revokedCreatedStarterIds_iff, hexpired]
    simp only [hbehind.events, List.mem_append, List.mem_singleton, or_and_right, exists_or,
      exists_eq_left]
    refine or_iff_left ?_
    rintro ⟨invitationId, hother, hmem⟩
    -- an expired invitation is resolved
    obtain ⟨rfl, -⟩ := Prod.mk.inj (Option.some.inj (haccepts.grows.2.1.symm.trans hother))
    obtain ⟨event, hevent, hexpires, -⟩ :=
      (mem_expiredInvitationIds_iff _ draft.invitationId).mp hmem
    have hresolved := resolved_of_expiredInvitation
      (show event ∈ state.events by rw [RuntimeState.events, hbegins.capsule]; exact hevent)
      hexpires
    rw [hbegins.unresolved] at hresolved
    cases hresolved
  have hplacement : placement ledger'.owner (revokedCreatedStarterIds ledger') ledger'.events =
      placement draft.capsule.ledger.owner (revokedCreatedStarterIds draft.capsule.ledger)
        draft.capsule.ledger.events := by
    rw [placement_congr hrevoked, hbehind.owner, hbehind.events]
    refine placement_append_inert _ fun event hevent => ?_
    rw [List.mem_singleton.mp hevent]
    simp [ownerCreates, createdStarter, ownerBurns, hkind]
  rw [Bool.eq_iff_iff, starterIsActive_iff hcapsule, starterIsActive_iff hbegins.capsule]
  exact iff_of_eq (congrArg (fun layout => layout.containsStarter id = true) hplacement)

/-- Events of other kinds do not make a row known. -/
private theorem Reached.eventExists (hbegins : draft.Begins platform)
    (h : Reached draft reached new time) (hkind : ∀ event ∈ new, event.kind ≠ kind) :
    eventExistsInRuntime reached kind payload = eventExistsInRuntime state kind payload := by
  obtain ⟨ledger', hcapsule, hbehind⟩ := h.behind
  have hnone : new.any (fun event => event.kind == kind && event.payload == payload) = false := by
    rw [List.any_eq_false]
    intro event hmem
    simp [hkind event hmem]
  unfold eventExistsInRuntime RuntimeState.events
  rw [hcapsule, hbegins.capsule]
  dsimp only
  rw [hbehind.events, List.any_append, hnone, Bool.or_false]

/-- The row is the last event, or nothing is added. -/
private theorem Reached.appendRow_cases (hsigns : platform.Signs) (hbegins : draft.Begins platform)
    (h : Reached draft reached new time) (hlater : draft.acceptTime ≤ time)
    (hkind : ∀ event ∈ new, event.kind ≠ .relationshipEstablished)
    (htime : timeAfter time outside.relate.clock = draft.relateTime) :
    let result := appendAcceptanceRow platform (buildEngine state draft.seed) outside.relate reached
      draft.plan draft.fromPubkey
    let joins := draft.Joins platform
      (eventExistsInRuntime state .relationshipEstablished draft.row.toBytes) outside.relate new
      (draft.related platform)
    (¬ joins ∧ StateGrows reached result.2 []) ∨
    (joins ∧ result.1 = .ok () ∧
      Reached draft result.2 (new ++ [draft.related platform]) draft.relateTime) := by
  have hcases := h.appendUnless_cases outside.relate draft.row.toBytes
    (fun middle prepared =>
      eventExistsInRuntime middle .relationshipEstablished prepared.event.payload)
    (eventExistsInRuntime state .relationshipEstablished draft.row.toBytes)
    hsigns hbegins hlater hkind (by
      intro middle prepared hcapsule hpayload
      rw [hpayload, eventExists_congr hcapsule, h.eventExists hbegins hkind])
  have hkey : (buildEngine state draft.seed).publicKey platform = some draft.signer :=
    (publicKey_buildEngine platform state draft.seed).trans hbegins.hasKey
  rw [htime] at hcases
  unfold appendAcceptanceRow
  rw [hkey]
  exact hcases

/-- The creation is the second event, or nothing is added. -/
private theorem Reached.appendCreation_cases {middle : RuntimeState} (hsigns : platform.Signs)
    (hbegins : draft.Begins platform)
    (h : Reached draft middle [draft.accepted platform] draft.acceptTime)
    (planned : StarterId × StarterKind × Bytes 32) :
    let result := appendStarterCreatedIfMissing platform (buildEngine state draft.seed)
      outside.create middle planned.1 planned.2.1 draft.capsule.network planned.2.2
    let joins := draft.Joins platform (starterIsActiveInRuntime state planned.1) outside.create
      [draft.accepted platform] (draft.created platform planned)
    (¬ joins ∧ StateGrows middle result.2 []) ∨
    (joins ∧ result.1 = .ok () ∧
      Reached draft result.2 [draft.accepted platform, draft.created platform planned]
        draft.createTime) :=
  h.appendUnless_cases _ _ (fun middle _ => starterIsActiveInRuntime middle planned.1) _
    hsigns hbegins (UInt64.le_refl _)
    (by simp [show (draft.accepted platform).kind = .invitationAccepted from (own_carries ..).1])
    (by
      intro after prepared hsame _
      rw [← h.starterIsActive hsigns hbegins]
      unfold starterIsActiveInRuntime
      rw [hsame])

/-- The events of the runtime within the call. -/
private theorem Reached.events (hbegins : draft.Begins platform)
    (h : Reached draft reached new time) :
    reached.events = state.events ++ new := by
  obtain ⟨ledger', hcapsule, hbehind⟩ := h.behind
  unfold RuntimeState.events
  rw [hcapsule, hbegins.capsule]
  exact hbehind.events

variable (platform) in
/-- Whatever the state, the row is at most one event. -/
private theorem appendAcceptanceRow_few (engine : Engine Seed) (stored : Outside Seed)
    (middle : RuntimeState) (plan : LocalAcceptancePlan) (fromPubkey : PubKey) :
    ∃ few, few.length ≤ 1 ∧ StateGrows middle
      (appendAcceptanceRow platform engine stored middle plan fromPubkey).2 few := by
  unfold appendAcceptanceRow
  split
  · exact ⟨[], by simp, .of_capsule_eq rfl⟩
  · rename_i root _
    rcases appendRelationshipEstablished_cases platform engine stored middle
      (acceptanceRow plan fromPubkey root) with ⟨-, hsame⟩ | ⟨-, -, event, -, -, -, hgrows⟩
    · exact ⟨[], by simp, hsame⟩
    · exact ⟨[event], by simp, hgrows⟩

/-- **The rest of an acceptance.**  It adds the creation and the row if nothing is in the way,
    and otherwise fewer events. -/
theorem finalizeLocalAcceptance_cases {middle : RuntimeState} (hsigns : platform.Signs)
    (hbegins : draft.Begins platform)
    (h : Reached draft middle [draft.accepted platform] draft.acceptTime) :
    let result := finalizeLocalAcceptance platform (buildEngine state draft.seed) outside middle
      draft.plan draft.fromPubkey
    (¬ draft.Continues platform ∧ state.events.length < result.2.events.length ∧
      result.2.events.length < state.events.length + (draft.creation platform).length + 2) ∨
    (draft.Continues platform ∧ result.1 = .ok () ∧
      Reached draft result.2
        ([draft.accepted platform] ++ draft.creation platform ++ [draft.related platform])
        draft.relateTime) := by
  have hfirst : (draft.accepted platform).kind = .invitationAccepted := (own_carries ..).1
  have hevents := congrArg List.length (h.events hbegins)
  rw [List.length_append, List.length_singleton] at hevents
  obtain ⟨ledger', hcapsule, -⟩ := h.behind
  dsimp only
  unfold finalizeLocalAcceptance capsuleNetwork
  simp only [hcapsule]
  cases hplanned : draft.plan.createdStarter with
  | none =>
    have hcreation : draft.creation platform = [] := by simp [creation, hplanned]
    have hrest : draft.Continues platform ↔ draft.Joins platform
        (eventExistsInRuntime state .relationshipEstablished draft.row.toBytes) outside.relate
        [draft.accepted platform] (draft.related platform) := by
      rw [show [draft.accepted platform] = [draft.accepted platform] ++ draft.creation platform by
        rw [hcreation]; rfl]
      exact ⟨fun h => h.row, fun h => ⟨by simp [hplanned], h⟩⟩
    rw [hrest, hcreation]
    rcases h.appendRow_cases hsigns hbegins (UInt64.le_refl _) (by simp [hfirst])
      (by simp [relateTime, hplanned]) with ⟨hrefused, hsame⟩ | hlast
    · rw [hsame.events, List.append_nil, hevents]
      exact Or.inl ⟨hrefused, by simp⟩
    · exact Or.inr hlast
  | some planned =>
    have hsecond : (draft.created platform planned).kind = .starterCreated := (own_carries ..).1
    have hcreation : draft.creation platform = [draft.created platform planned] := by
      simp [creation, hplanned]
    have hcreate := h.appendCreation_cases hsigns hbegins planned
    dsimp only at hcreate ⊢
    cases hresult : appendStarterCreatedIfMissing platform (buildEngine state draft.seed)
        outside.create middle planned.1 planned.2.1 draft.capsule.network planned.2.2 with
    | mk result after =>
      rw [hresult] at hcreate
      rcases hcreate with ⟨hrefused, hsame⟩ | ⟨hjoins, hok, hcreated⟩
      · -- without the creation at most the row is added
        have hno : ¬ draft.Continues platform :=
          fun hrest => hrefused (hrest.creation planned hplanned)
        cases result with
        | error message =>
          dsimp only
          rw [hsame.events, List.append_nil, hevents, hcreation]
          exact Or.inl ⟨hno, by simp⟩
        | ok value =>
          obtain ⟨few, hfew, hgrows⟩ := appendAcceptanceRow_few platform
            (buildEngine state draft.seed) outside.relate after draft.plan draft.fromPubkey
          have hlength := congrArg List.length (hsame.trans hgrows).events
          rw [List.nil_append, List.length_append, hevents] at hlength
          simp only [hcreation, List.length_singleton]
          exact Or.inl ⟨hno, by omega⟩
      · obtain rfl : result = .ok () := hok
        dsimp only
        rcases hcreated.appendRow_cases hsigns hbegins (le_timeAfter _ outside.create.clock)
          (by simp [hfirst, hsecond]) (by simp [relateTime, hplanned]) with
          ⟨hrefused, hsame⟩ | ⟨hrow, hok, hlast⟩
        · have hlength := congrArg List.length (hcreated.events hbegins)
          rw [hsame.events, List.append_nil, hlength, hcreation]
          refine Or.inl ⟨fun hrest => hrefused ?_, by simp⟩
          have hrow := hrest.row
          rwa [hcreation] at hrow
        · refine Or.inr ⟨⟨?_, ?_⟩, hok, by rw [hcreation]; exact hlast⟩
          · intro other hother
            rw [hplanned] at hother
            rw [← Option.some.inj hother]
            exact hjoins
          · rw [hcreation]
            exact hrow

end AcceptDraft

variable (platform) in
/-- There are as many planned events as the call draws up. -/
private theorem plannedCreation_length {outside : AcceptOutside Seed} {state : RuntimeState}
    {draft : AcceptDraft outside state} {created : List Event}
    (h : PlannedCreation draft.capsule draft.plan created) :
    created.length = (draft.creation platform).length := by
  unfold PlannedCreation at h
  unfold AcceptDraft.creation
  split at h
  · rename_i hnone
    rw [h, hnone]
    rfl
  · rename_i hsome
    obtain ⟨event, rfl, -⟩ := h
    rw [hsome]
    rfl

/-- **When an acceptance is all or nothing.**  Exactly if every call whose first append goes
    through is signed by the owner and has nothing in the way of the rest, as the ledger, the
    stored seeds and the clock stand before the call. -/
theorem allOrNothing_iff (hsigns : platform.Signs) (outside : AcceptOutside Seed)
    (state : RuntimeState) (invitationIdPtr : Option InvitationId)
    (fromPubkeyPtr : Option PubKey) :
    AllOrNothing platform outside state invitationIdPtr fromPubkeyPtr ↔
      ∀ draft : AcceptDraft outside state, invitationIdPtr = some draft.invitationId →
        fromPubkeyPtr = some draft.fromPubkey → draft.Begins platform →
        draft.signer = draft.capsule.pubkey ∧ draft.Continues platform := by
  cases invitationIdPtr with
  | none =>
    refine ⟨fun _ _ hnone => (by cases hnone), fun _ => ⟨fun _ => rfl, fun hcode => ?_⟩⟩
    exact absurd hcode (by simp [hivraAcceptInvitation])
  | some invitationId =>
  cases fromPubkeyPtr with
  | none =>
    refine ⟨fun _ _ _ hnone => (by cases hnone), fun _ => ⟨fun _ => rfl, fun hcode => ?_⟩⟩
    exact absurd hcode (by simp [hivraAcceptInvitation])
  | some fromPubkey =>
  unfold AllOrNothing
  dsimp only
  rcases hivraAcceptInvitation_phases platform outside state invitationId fromPubkey with
    ⟨hcode, hsame, hno⟩ | ⟨seed, plan, prepared, middle, haccepts, hresult⟩
  · -- no first append: nothing is changed, and no call begins
    refine ⟨fun _ draft hid hkey hbegins => ?_, fun _ =>
      ⟨fun _ => hsame, fun hzero => absurd hzero hcode⟩⟩
    obtain ⟨middle, haccepts, -⟩ := hbegins.accepts hsigns
    rw [← Option.some.inj hid, ← Option.some.inj hkey] at haccepts
    exact absurd haccepts (hno _ _ _ _)
  obtain ⟨capsule, hcapsule⟩ := Option.ne_none_iff_exists'.mp haccepts.hasCapsule
  obtain ⟨draft, rfl, rfl, rfl, rfl, hbegins⟩ :=
    AcceptDraft.begins_of_accepts hsigns hcapsule haccepts
  obtain ⟨middle', haccepts', hreached⟩ := hbegins.accepts hsigns
  obtain rfl := Except.ok.inj (haccepts.accepted.symm.trans haccepts'.accepted)
  obtain rfl : middle = middle' :=
    (Prod.mk.inj (haccepts.appended.symm.trans haccepts'.appended)).2
  have hone : (∀ other : AcceptDraft outside state,
      some draft.invitationId = some other.invitationId →
        some draft.fromPubkey = some other.fromPubkey → other.Begins platform →
        other.signer = other.capsule.pubkey ∧ other.Continues platform) ↔
      draft.signer = draft.capsule.pubkey ∧ draft.Continues platform := by
    refine ⟨fun h => h draft rfl rfl hbegins, fun h other hid hkey hother => ?_⟩
    rw [hbegins.unique hother (Option.some.inj hid).symm (Option.some.inj hkey).symm]
    exact h
  rw [hone]
  have hcases := AcceptDraft.finalizeLocalAcceptance_cases hsigns hbegins hreached
  cases hfinal : finalizeLocalAcceptance platform (buildEngine state draft.seed) outside middle
      draft.plan draft.fromPubkey with
  | mk result final =>
  rw [hfinal] at hcases hresult
  dsimp only at hcases
  rcases hcases with ⟨hno, hmore, hless⟩ | ⟨hcontinues, rfl, hlast⟩
  · -- the ledger has grown by too little: the call neither failed nor succeeded as it should
    refine ⟨fun hatomic => ?_, fun h => absurd h.2 hno⟩
    exfalso
    cases result with
    | error message =>
      rw [hresult] at hatomic
      have hkept := hatomic.1 (by simp)
      unfold RuntimeState.events at hmore
      rw [hkept] at hmore
      exact Nat.lt_irrefl _ hmore
    | ok value =>
      rw [hresult] at hatomic
      obtain ⟨id, seed, plan, hid, hseed, hplan, capsule, accepted, created, row, hsame, hgrows, -,
        hcreated, -⟩ := hatomic.2 rfl
      obtain rfl := Option.some.inj hid
      obtain rfl := Option.some.inj (hbegins.capsule.symm.trans hsame)
      obtain rfl := Option.some.inj (hbegins.seedLoaded.symm.trans hseed)
      obtain rfl := Except.ok.inj (hbegins.planned.symm.trans hplan)
      have hcount := plannedCreation_length platform hcreated
      have hlength := congrArg List.length hgrows.events
      simp only [List.length_append, List.length_cons, List.length_nil] at hlength
      omega
  · rw [hresult]
    obtain ⟨hkind, -, hsigner, -⟩ := @AcceptDraft.own_carries _ platform _ _ draft
      .invitationAccepted (InvitationAcceptedPayload.toBytes ⟨draft.invitationId, draft.fromPubkey,
        draft.plan.relationshipStarterId, some draft.signer⟩) draft.acceptTime
    constructor
    · rintro ⟨-, hall⟩
      obtain ⟨-, -, -, -, -, -, capsule, accepted, created, row, hsame, hgrows,
        ⟨-, howner, -⟩, -⟩ := hall rfl
      obtain rfl := Option.some.inj (hbegins.capsule.symm.trans hsame)
      have hlist := List.append_cancel_left ((hlast.events hbegins).symm.trans hgrows.events)
      simp only [List.cons_append, List.nil_append, List.cons.injEq] at hlist
      rw [← hlist.1] at howner
      exact ⟨hsigner.symm.trans howner, hcontinues⟩
    · rintro ⟨howner, -⟩
      obtain ⟨ledger', hafter, hbehind⟩ := hlast.behind
      obtain ⟨hrowKind, hrowBytes, hrowSigner, -⟩ := @AcceptDraft.own_carries _ platform _ _ draft
        .relationshipEstablished draft.row.toBytes draft.relateTime
      refine ⟨fun hcode => absurd rfl hcode, fun _ => ⟨draft.invitationId, draft.seed, draft.plan,
        rfl, hbegins.seedLoaded, hbegins.planned, draft.capsule, draft.accepted platform,
        draft.creation platform, draft.related platform, hbegins.capsule,
        .capsule hbegins.capsule hafter ⟨rfl, hbehind.owner, hbehind.events⟩,
        ⟨hkind, hsigner.trans howner, haccepts'.grows.2.1⟩, ?_, hrowKind,
        hrowSigner.trans howner, ?_⟩⟩
      · unfold PlannedCreation AcceptDraft.creation
        cases draft.plan.createdStarter with
        | none => rfl
        | some planned =>
          obtain ⟨hkind, hbytes, hsigner, -⟩ := @AcceptDraft.own_carries _ platform _ _ draft
            .starterCreated (StarterCreatedPayload.toBytes
              ⟨planned.1, planned.2.2, planned.2.1, draft.capsule.network.toByte⟩) draft.createTime
          exact ⟨_, rfl, hkind, hsigner.trans howner, hbytes⟩
      · rw [show (draft.related platform).payload = draft.row.toBytes from hrowBytes]
        exact carriesPlan_row (plan_invitationId hbegins.planned) draft.fromPubkey draft.signer

end Atomic

/-! ### An acceptance that stops half way -/

def halfwaySeed : PubKey × PubKey := (⟨fill 32 7⟩, ⟨fill 32 17⟩)

/-- An offer of the peer 8, signed by it. -/
def peerOffer : Event :=
  let unsigned := Event.newV5 .invitationReceived
    (List.replicate 32 1 ++ List.replicate 32 9 ++ List.replicate 32 17) 5 ⟨fill 64 0⟩ ⟨fill 32 8⟩
  { unsigned with
    signature := ⟨⟨(unsigned.eventId sampleDigest).toList ++ (fill 32 8 : Bytes 32).toList,
      by simp⟩⟩ }

/-- A new capsule that took the offer in. -/
@[irreducible] def peerOfferedState : RuntimeState :=
  (appendVerifiedRuntimeEvent samplePlatform ⟨some halfwaySeed, none⟩
    (initRuntimeState samplePlatform (some 10) (fun _ => none) ⟨none, 0⟩ halfwaySeed .neste .leaf
      .root).2 peerOffer).2

/-- What a call finds outside when the seed store answers the last append with this. -/
def halfwayOutside (lastSeed : Option (PubKey × PubKey)) : AcceptOutside (PubKey × PubKey) where
  loadSeed := some halfwaySeed
  accept := ⟨some halfwaySeed, some 14⟩
  create := ⟨some halfwaySeed, some 15⟩
  relate := ⟨lastSeed, some 16⟩

/-- The acceptance of the offer. -/
def acceptPeerOffer (lastSeed : Option (PubKey × PubKey)) (state : RuntimeState) :
    ℤ × RuntimeState :=
  hivraAcceptInvitation samplePlatform (halfwayOutside lastSeed) state (some (fill 32 1))
    (some ⟨fill 32 8⟩)

/-- A runtime that appends an event has a ledger that takes it. -/
theorem takesPrepared_of_append {Seed : Type} {platform : Platform Seed} {stored : Outside Seed}
    {state : RuntimeState} {capsule : Capsule} {event : Event}
    (hcapsule : state.capsule = some capsule)
    (h : (appendPreparedEvent platform stored state ⟨event, none⟩).1 = .ok ()) :
    LedgerTakesPrepared platform stored.loadSeed capsule.ledger event := by
  obtain ⟨other, hother, htaken⟩ := (appendPreparedEvent_iff platform stored state _).mp h
  rw [Option.some.inj (hcapsule.symm.trans hother)]
  exact htaken

theorem samplePlatform_signs : samplePlatform.Signs := fun _ _ _ => rfl

theorem peerOffered_capsule : peerOfferedState.capsule.isSome = true := by decide +kernel

theorem peerOffered_plan : (resolveLocalAcceptancePlan samplePlatform halfwaySeed peerOfferedState
    (fill 32 1)).toOption.isSome = true := by decide +kernel

/-- The acceptance of the offer with the seed at hand. -/
def offeredDraft : AcceptDraft (halfwayOutside (some halfwaySeed)) peerOfferedState where
  invitationId := fill 32 1
  fromPubkey := ⟨fill 32 8⟩
  capsule := peerOfferedState.capsule.get peerOffered_capsule
  seed := halfwaySeed
  signer := halfwaySeed.1
  plan := (resolveLocalAcceptancePlan samplePlatform halfwaySeed peerOfferedState
    (fill 32 1)).toOption.get peerOffered_plan

theorem offeredDraft_capsule : peerOfferedState.capsule = some offeredDraft.capsule := by
  rw [offeredDraft, Option.some_get]

theorem offeredDraft_plan : (resolveLocalAcceptancePlan samplePlatform halfwaySeed peerOfferedState
    (fill 32 1)).toOption = some offeredDraft.plan := by
  rw [offeredDraft, Option.some_get]

theorem offeredDraft_creates : offeredDraft.plan.createdStarter.isSome = true := by decide +kernel

/-- A call that accepts the offer with the seed at hand is the drafted one. -/
theorem offeredDraft_unique
    {draft : AcceptDraft (halfwayOutside (some halfwaySeed)) peerOfferedState}
    (hid : fill 32 1 = draft.invitationId) (hkey : ⟨fill 32 8⟩ = draft.fromPubkey)
    (h : draft.Begins samplePlatform) : draft = offeredDraft := by
  have hcapsule := h.capsule
  have hplan := congrArg Except.toOption h.planned
  have hseed : halfwaySeed = draft.seed := Option.some.inj h.seedLoaded
  rw [offeredDraft_capsule] at hcapsule
  rw [← hid, ← hseed, offeredDraft_plan] at hplan
  have hsigner := h.hasKey
  rw [← hseed] at hsigner
  obtain ⟨id, key, capsule, seed, signer, plan⟩ := draft
  obtain rfl : fill 32 1 = id := hid
  obtain rfl : (⟨fill 32 8⟩ : PubKey) = key := hkey
  obtain rfl : halfwaySeed = seed := hseed
  obtain rfl : halfwaySeed.1 = signer := Option.some.inj hsigner
  obtain rfl : offeredDraft.capsule = capsule := Option.some.inj hcapsule
  obtain rfl : offeredDraft.plan = plan := Option.some.inj hplan
  rfl

/-- With the seed at hand at every append, the acceptance, its starter and its row are added. -/
theorem allOrNothing_offered :
    (acceptPeerOffer (some halfwaySeed) peerOfferedState).1 = 0 ∧
    AllOrNothing samplePlatform (halfwayOutside (some halfwaySeed)) peerOfferedState
      (some (fill 32 1)) (some ⟨fill 32 8⟩) := by
  refine ⟨by decide +kernel,
    (allOrNothing_iff samplePlatform_signs _ _ _ _).mpr fun draft hid hkey hbegins => ?_⟩
  rw [offeredDraft_unique (Option.some.inj hid) (Option.some.inj hkey) hbegins]
  refine ⟨by decide +kernel, ⟨fun planned hplanned => ?_, ?_⟩⟩
  · obtain rfl := Option.get_of_mem offeredDraft_creates hplanned
    exact ⟨by decide +kernel, takesPrepared_of_append offeredDraft_capsule (by decide +kernel),
      fun _ => by decide +kernel⟩
  · exact ⟨by decide +kernel, takesPrepared_of_append offeredDraft_capsule (by decide +kernel),
      fun _ => by decide +kernel⟩

/-- **Counterexample.**  The seed cannot be read when the row is appended: the call fails, the
    acceptance and the creation stay, and the same call is refused from then on. -/
theorem halfway_notUndone :
    (acceptPeerOffer none peerOfferedState).1 = -10 ∧
    ¬ AllOrNothing samplePlatform (halfwayOutside none) peerOfferedState (some (fill 32 1))
      (some ⟨fill 32 8⟩) ∧
    (acceptPeerOffer (some halfwaySeed) (acceptPeerOffer none peerOfferedState).2).1 = -15 := by
  refine ⟨by decide +kernel, ?_, by decide +kernel⟩
  rintro ⟨hnothing, -⟩
  have hcount := congrArg (fun capsule => capsule.map fun c => c.ledger.events.length)
    (hnothing (by decide +kernel))
  revert hcount
  decide +kernel

end Hivra
