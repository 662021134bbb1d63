import Hivra.Ffi.InvitationReadings
import Hivra.Ffi.LocalSpecs

namespace Hivra

open ByteString Replay

/-!
# One terminal of the owner for each invitation

An acceptance and a cancel look at what is recorded about their invitation before they append
a terminal; a rejection looks for the very same rejection only.
-/

/-- A terminal of the invitation that the owner signed. -/
def OwnTerminal (owner : PubKey) (id : InvitationId) (event : Event) : Prop :=
  event.signer = owner ∧ TerminalFor event id

instance (owner : PubKey) (id : InvitationId) (event : Event) :
    Decidable (OwnTerminal owner id event) := by
  unfold OwnTerminal
  infer_instance

def ownTerminals (owner : PubKey) (id : InvitationId) (events : List Event) : List Event :=
  events.filter fun event => decide (OwnTerminal owner id event)

/-- The owner has signed at most one terminal of each invitation. -/
def OneTerminalEach (state : RuntimeState) : Prop :=
  ∀ capsule, state.capsule = some capsule →
    ∀ id, (ownTerminals capsule.pubkey id capsule.ledger.events).length ≤ 1

/-- The record of an invitation in the ledger of a state. -/
def recordIn (state : RuntimeState) (id : InvitationId) : Option InvitationRecord :=
  state.capsule.bind fun capsule => findInvitation capsule.ledger id

/-! ### What is recorded about an invitation -/

section Records

variable {state : RuntimeState} {id : InvitationId}

/-- What the lookup makes of an offer in whatever direction. -/
theorem invitationCandidate_any {capsule : Capsule} {event : Event}
    {payload : InvitationSentPayload} (h : OfferOf event payload) :
    ∃ lookup, invitationCandidate capsule payload.invitationId none event = some lookup ∧
      lookup.isIncoming = offerIsIncoming capsule.pubkey event := by
  obtain ⟨hlength, hpayload⟩ := InvitationSentPayload.fromBytes_ok.mp h.2
  have hkind : ¬ (event.kind ≠ .invitationSent ∧ event.kind ≠ .invitationReceived) := by
    rcases h.1 with hkind | hkind <;> simp [hkind]
  have hshape : ¬ invitationPayloadHasKnownShape event.payload = false := by
    simpa [invitationPayloadHasKnownShape] using hlength
  unfold invitationCandidate
  rw [if_neg hkind, if_neg hshape, if_neg (by simp [hpayload])]
  exact ⟨_, rfl, rfl⟩

variable {lookup : InvitationLookupRecord}

/-- The invitation of a lookup has a record. -/
theorem recordIn_of_lookup {expected : Option Bool}
    (h : findInvitationSentInRuntimeWithDirection state id expected = some lookup) :
    ∃ record, recordIn state id = some record := by
  unfold findInvitationSentInRuntimeWithDirection at h
  unfold recordIn
  cases hcapsule : state.capsule with
  | none => simp [hcapsule] at h
  | some capsule =>
    rw [hcapsule] at h
    obtain ⟨event, hevent, hcandidate⟩ := List.exists_of_findSome?_eq_some h
    rcases findInvitation_cases capsule.ledger id with
      ⟨hnone, -⟩ | ⟨-, -, -, -, record, -, -, hfind, -⟩
    · -- without an offer there is nothing to find
      have hno : invitationCandidate capsule id expected event = none :=
        candidate_eq_none expected fun payload hoffer hid => hnone event hevent ⟨payload, hoffer, hid⟩
      rw [hno] at hcandidate
      cases hcandidate
    · exact ⟨record, hfind⟩

/-- Where the lookup without a direction answers that an offer goes out, so says the record. -/
theorem outgoing_of_lookup (h : findInvitationSentInRuntime state id = some lookup)
    (hout : lookup.isIncoming = false) :
    ∃ record, recordIn state id = some record ∧ record.direction = .outgoing := by
  obtain ⟨record, hrecord⟩ := recordIn_of_lookup h
  refine ⟨record, hrecord, ?_⟩
  obtain ⟨capsule, hcapsule, hfind⟩ := Option.bind_eq_some_iff.mp hrecord
  unfold findInvitationSentInRuntime findInvitationSentInRuntimeWithDirection at h
  rw [hcapsule] at h
  dsimp only at h
  rcases findInvitation_cases capsule.ledger id with
    ⟨-, hnone⟩ | ⟨front, offer, payload, back, other, hfirst, rfl, hother, hsame⟩
  · rw [hfind] at hnone
    cases hnone
  obtain rfl := Option.some.inj (hfind.symm.trans hother)
  obtain ⟨first, hcandidate, hincoming⟩ := @invitationCandidate_any capsule offer payload
    hfirst.offerOf
  have hfront : front.findSome? (invitationCandidate capsule payload.invitationId none) = none := by
    rw [List.findSome?_eq_none_iff]
    exact fun event hevent => candidate_eq_none none (hfirst.first event hevent)
  rw [hfirst.split, List.findSome?_append, hfront, List.findSome?_cons, hcandidate] at h
  obtain rfl : first = lookup := Option.some.inj h
  rw [hsame.fields.2.1, offerDirection, if_neg]
  intro hreceived
  rw [hincoming, offerIsIncoming, hreceived] at hout
  cases hout

/-- A record without a terminal in the ledger is pending. -/
theorem pending_of_unresolved {record : InvitationRecord}
    (hrecord : recordIn state id = some record)
    (h : invitationIsResolvedInRuntime state id = false) : record.status = .pending := by
  obtain ⟨capsule, hcapsule, hfind⟩ := Option.bind_eq_some_iff.mp hrecord
  rcases findInvitation_cases capsule.ledger id with
    ⟨-, hnone⟩ | ⟨front, offer, payload, back, other, hfirst, rfl, hother, hsame⟩
  · rw [hfind] at hnone
    cases hnone
  obtain rfl := Option.some.inj (hfind.symm.trans hother)
  apply hsame.2.mpr
  intro event hevent hcloses
  have hresolved := (resolved_iff hcapsule).mpr
    ⟨event, by rw [hfirst.split]; simp [hevent], terminalFor_of_closes hcloses⟩
  rw [hresolved] at h
  cases h

end Records

/-! ### Adding a terminal -/

/-- The step adds a terminal of the invitation and else no terminal. -/
def AddsTerminal (state state' : RuntimeState) (id : InvitationId) : Prop :=
  ∃ event more, StateGrows state state' (event :: more) ∧
    (∀ other, TerminalFor event other → other = id) ∧ ∀ later ∈ more, ∀ other, ¬ TerminalFor later other

namespace AddsTerminal

variable {state state' : RuntimeState} {id : InvitationId} (h : AddsTerminal state state' id)
include h

theorem changes : state'.capsule ≠ state.capsule := by
  obtain ⟨event, more, hgrows, -⟩ := h
  intro hsame
  have hevents := hgrows.events
  unfold RuntimeState.events at hevents
  rw [hsame] at hevents
  have hlength := congrArg List.length hevents
  simp only [List.length_append, List.length_cons] at hlength
  omega

/-- **A terminal of an invitation without one is its only one.** -/
theorem oneTerminalEach (hopen : invitationIsResolvedInRuntime state id = false)
    (hone : OneTerminalEach state) : OneTerminalEach state' := by
  obtain ⟨event, more, hgrows, hnamed, hmore⟩ := h
  intro capsule' hcapsule' other
  cases hgrows with
  | noCapsule _ hnone _ =>
    rw [hcapsule'] at hnone
    cases hnone
  | @capsule capsule _ hcapsule hafter hadded =>
    obtain rfl := Option.some.inj (hafter.symm.trans hcapsule')
    have hlater : ownTerminals capsule.pubkey other more = [] := by
      unfold ownTerminals
      rw [List.filter_eq_nil_iff]
      intro later hlater hown
      exact hmore later hlater other (of_decide_eq_true hown).2
    have hbefore := hone capsule hcapsule other
    unfold ownTerminals at hlater hbefore ⊢
    rw [hadded.pubkey, hadded.events, List.filter_append, List.filter_cons, hlater,
      List.length_append]
    by_cases hother : OwnTerminal capsule.pubkey other event
    · -- this is the invitation, and there was no terminal of it
      obtain rfl := hnamed other hother.2
      have hnone : capsule.ledger.events.filter
          (fun event => decide (OwnTerminal capsule.pubkey other event)) = [] := by
        rw [List.filter_eq_nil_iff]
        intro earlier hearlier hown
        have hresolved := (resolved_iff hcapsule).mpr ⟨earlier, hearlier, (of_decide_eq_true hown).2⟩
        rw [hresolved] at hopen
        cases hopen
      rw [hnone]
      split <;> simp
    · rw [if_neg (by simpa using hother)]
      simpa using hbefore

end AddsTerminal

/-! ### The calls -/

/-- A call that settles an invitation, with its arguments and what the outside answers to it. -/
inductive SettleCall (Seed : Type)
  | accept (outside : AcceptOutside Seed) (invitationIdPtr : Option InvitationId)
      (fromPubkeyPtr : Option PubKey)
  | reject (outside : CallOutside Seed) (invitationIdPtr : Option InvitationId) (reason : UInt8)
  | expire (outside : CallOutside Seed) (invitationIdPtr : Option InvitationId)

namespace SettleCall

variable {Seed : Type}

def toRuntimeCall : SettleCall Seed → RuntimeCall Seed
  | accept outside invitationIdPtr fromPubkeyPtr =>
    .acceptInvitation outside invitationIdPtr fromPubkeyPtr
  | reject outside invitationIdPtr reason => .rejectInvitation outside invitationIdPtr reason
  | expire outside invitationIdPtr => .expireInvitation outside invitationIdPtr

def invitation : SettleCall Seed → Option InvitationId
  | accept _ invitationIdPtr _ => invitationIdPtr
  | reject _ invitationIdPtr _ => invitationIdPtr
  | expire _ invitationIdPtr => invitationIdPtr

/-- The direction of the invitations that the call is for. -/
def direction : SettleCall Seed → InvitationDirection
  | accept .. => .incoming
  | reject .. => .incoming
  | expire .. => .outgoing

end SettleCall

section Steps

variable {Seed : Type} (platform : Platform Seed)

/-- The state after one call. -/
def settle (state : RuntimeState) (call : SettleCall Seed) : RuntimeState :=
  call.toRuntimeCall.apply platform state

/-- The state after a run of calls. -/
def settleAll (state : RuntimeState) (calls : List (SettleCall Seed)) : RuntimeState :=
  runCalls platform state (calls.map SettleCall.toRuntimeCall)

theorem settleAll_snoc (state : RuntimeState) (calls : List (SettleCall Seed))
    (call : SettleCall Seed) :
    settleAll platform state (calls ++ [call]) =
      settle platform (settleAll platform state calls) call := by
  unfold settleAll settle runCalls
  rw [List.map_append, List.map_singleton, replay_snoc]

/-- The call writes for a pending invitation of its direction only, and not for one that has a
    terminal. -/
structure RightStep (state : RuntimeState) (call : SettleCall Seed) : Prop where
  pending : (settle platform state call).capsule ≠ state.capsule → ∃ id record,
    call.invitation = some id ∧ recordIn state id = some record ∧
      record.direction = call.direction ∧ record.status = .pending
  resolved : ∀ id, call.invitation = some id → invitationIsResolvedInRuntime state id = true →
    (settle platform state call).capsule = state.capsule

/-- All along the run there is one own terminal of each invitation at most, and each call
    writes where it may. -/
structure SettlesOnce (state : RuntimeState) (calls : List (SettleCall Seed)) : Prop where
  once : ∀ front back, calls = front ++ back → OneTerminalEach (settleAll platform state front)
  step : ∀ front call back, calls = front ++ call :: back →
    RightStep platform (settleAll platform state front) call

/-- The invitation came in, by its record. -/
def CameIn (state : RuntimeState) (id : InvitationId) : Prop :=
  ∃ record, recordIn state id = some record ∧ record.direction = .incoming

/-- What the state is like before the call: an invitation whose acceptance gets appended came in;
    one whose rejection gets appended came in as well, and there is no terminal of it. -/
def SettleCall.Fits (state : RuntimeState) : SettleCall Seed → Prop
  | .accept outside (some id) (some fromPubkey) =>
    (∃ seed plan prepared middle, Accepts platform outside state id fromPubkey seed plan prepared
      middle) → CameIn state id
  | .reject outside (some id) byte =>
    ∀ reason, RejectReason.fromU8 byte = .ok reason →
      RejectionTaken platform outside state id reason →
      CameIn state id ∧ invitationIsResolvedInRuntime state id = false
  | _ => True

variable {platform}

/-- Every event of these kinds is no terminal. -/
theorem not_terminalFor_of_kind {event : Event}
    (h : event.kind = .starterCreated ∨ event.kind = .relationshipEstablished)
    (other : InvitationId) : ¬ TerminalFor event other := by
  unfold TerminalFor
  rcases h with hkind | hkind <;> rw [hkind] <;> simp [invitationIdFromTerminalPayload]

variable {id : InvitationId}

/-- An event with the payload of a terminal is a terminal of this invitation only. -/
theorem terminalFor_of_own {seed : Seed} {kind : EventKind} {payload : List UInt8} {event : Event}
    {terminal : InvitationStatus} (hterminal : terminalStatus kind payload = some (id, terminal))
    (h : OwnEvent platform seed kind payload event) (other : InvitationId)
    (hother : TerminalFor event other) : other = id := by
  unfold TerminalFor at hother
  rw [h.kind, h.payload, invitationIdFromTerminalPayload_of_terminal hterminal] at hother
  exact (Option.some.inj hother).symm

/-- What follows the acceptance is no terminal. -/
theorem finalizeLocalAcceptance_adds (engine : Engine Seed) (outside : AcceptOutside Seed)
    (state : RuntimeState) (plan : LocalAcceptancePlan) (fromPubkey : PubKey) :
    ∃ more, StateGrows state
        (finalizeLocalAcceptance platform engine outside state plan fromPubkey).2 more ∧
      ∀ event ∈ more, event.kind = .starterCreated ∨ event.kind = .relationshipEstablished := by
  have hkept : KeptByAppends platform
      (fun kind => kind = .starterCreated ∨ kind = .relationshipEstablished)
      (fun state' => ∃ more, StateGrows state state' more ∧
        ∀ event ∈ more, event.kind = .starterCreated ∨ event.kind = .relationshipEstablished) := by
    apply KeptByAppends.of_grows
    rintro state₁ state₂ new hnew hallowed ⟨more, hmore, hkinds⟩
    refine ⟨more ++ new, hmore.trans hnew, ?_⟩
    intro event hevent
    rcases List.mem_append.mp hevent with hold | hlast
    · exact hkinds event hold
    · exact hallowed event hlast
  exact hkept.finalizeLocalAcceptance engine outside plan fromPubkey (Or.inl rfl) (Or.inr rfl)
    ⟨[], .of_capsule_eq rfl, by simp⟩

/-- An acceptance leaves the capsule alone, or it adds a terminal of an open invitation. -/
theorem accept_settles (outside : AcceptOutside Seed) (state : RuntimeState) (id : InvitationId)
    (fromPubkey : PubKey) :
    ((settle platform state (.accept outside (some id) (some fromPubkey))).capsule = state.capsule ∧
      ¬ ∃ seed plan prepared middle,
        Accepts platform outside state id fromPubkey seed plan prepared middle) ∨
    ((∃ seed plan prepared middle,
        Accepts platform outside state id fromPubkey seed plan prepared middle) ∧
      invitationIsResolvedInRuntime state id = false ∧
      AddsTerminal state (settle platform state (.accept outside (some id) (some fromPubkey))) id) := by
  show ((hivraAcceptInvitation platform outside state (some id) (some fromPubkey)).2.capsule
    = state.capsule ∧ _) ∨ _ ∧ _ ∧
    AddsTerminal state (hivraAcceptInvitation platform outside state (some id) (some fromPubkey)).2 id
  rcases hivraAcceptInvitation_phases platform outside state id fromPubkey with
    ⟨-, hsame, hnone⟩ | ⟨seed, plan, prepared, middle, haccepts, hresult⟩
  · refine Or.inl ⟨hsame, ?_⟩
    rintro ⟨seed, plan, prepared, middle, h⟩
    exact hnone seed plan prepared middle h
  · refine Or.inr ⟨⟨seed, plan, prepared, middle, haccepts⟩, haccepts.unresolved, ?_⟩
    obtain ⟨hkind, hstarter, hgrows⟩ := haccepts.grows
    obtain ⟨more, hmore, hkinds⟩ := @finalizeLocalAcceptance_adds Seed platform
      (buildEngine state seed) outside middle plan fromPubkey
    refine ⟨prepared.event, more, ?_, ?_, fun later hlater =>
      not_terminalFor_of_kind (hkinds later hlater)⟩
    · rw [hresult]
      have hboth : StateGrows state _ ([prepared.event] ++ more) := hgrows.trans hmore
      split
      · rename_i hfinal
        rwa [hfinal] at hboth
      · rename_i hfinal
        rwa [hfinal] at hboth
    · intro other hother
      unfold acceptedStarter at hstarter
      rw [if_pos hkind] at hstarter
      cases hparse : InvitationAcceptedPayload.fromBytes prepared.event.payload with
      | error _ => simp [hparse, Except.toOption] at hstarter
      | ok payload =>
        have hterminal : terminalStatus prepared.event.kind prepared.event.payload
            = some (payload.invitationId, .accepted payload.createdStarterId payload.fromPubkey
              payload.accepterRootPubkey) := by
          rw [hkind]
          simp [terminalStatus, hparse]
        simp only [hparse, Except.toOption, Option.map_some, Option.some.injEq,
          Prod.mk.injEq] at hstarter
        unfold TerminalFor at hother
        rw [invitationIdFromTerminalPayload_of_terminal hterminal, hstarter.1] at hother
        exact (Option.some.inj hother).symm

/-- A rejection leaves the capsule alone, or it adds a terminal of an invitation. -/
theorem reject_settles (outside : CallOutside Seed) (state : RuntimeState) (id : InvitationId)
    {byte : UInt8} {reason : RejectReason} (hreason : RejectReason.fromU8 byte = .ok reason) :
    ((settle platform state (.reject outside (some id) byte)).capsule = state.capsule ∧
      ¬ RejectionTaken platform outside state id reason) ∨
    (RejectionTaken platform outside state id reason ∧
      AddsTerminal state (settle platform state (.reject outside (some id) byte)) id) := by
  rcases @hivraRejectInvitation_cases Seed platform outside state id byte reason hreason with
    hsame | ⟨seed, event, -, htaken, -, hgrows, hown⟩
  · exact Or.inl hsame
  · refine Or.inr ⟨htaken, event, [], hgrows, ?_, by simp⟩
    have hterminal : terminalStatus .invitationRejected
        (InvitationRejectedPayload.toBytes ⟨id, reason⟩) = some (id, .rejected reason) := by
      simp only [terminalStatus, InvitationRejectedPayload.fromBytes_toBytes]
    exact terminalFor_of_own hterminal hown

/-- A rejection for an unknown reason does nothing. -/
theorem reject_unknown (outside : CallOutside Seed) (state : RuntimeState) (id : InvitationId)
    {byte : UInt8} {message : String} (h : RejectReason.fromU8 byte = .error message) :
    settle platform state (.reject outside (some id) byte) = state := by
  show (hivraRejectInvitation platform outside state (some id) byte).2 = state
  unfold hivraRejectInvitation
  dsimp only
  rw [h]

/-- A cancel leaves the capsule alone, or it adds a terminal of an open outgoing invitation. -/
theorem expire_settles (outside : CallOutside Seed) (state : RuntimeState) (id : InvitationId) :
    (settle platform state (.expire outside (some id))).capsule = state.capsule ∨
    (invitationIsResolvedInRuntime state id = false ∧
      (∃ record, recordIn state id = some record ∧ record.direction = .outgoing) ∧
      AddsTerminal state (settle platform state (.expire outside (some id))) id) := by
  rcases @hivraExpireInvitation_cases Seed platform outside state id with
    ⟨hsame, -⟩ | ⟨seed, event, ⟨-, lookup, -, hopen, hfound, hout, -⟩, -, hgrows, hown⟩
  · exact Or.inl hsame
  · refine Or.inr ⟨hopen, outgoing_of_lookup hfound hout, event, [], hgrows, ?_, by simp⟩
    have hterminal : terminalStatus .invitationExpired (InvitationExpiredPayload.toBytes ⟨id⟩)
        = some (id, .expired) := by
      simp only [terminalStatus, InvitationExpiredPayload.fromBytes_toBytes]
    exact terminalFor_of_own hterminal hown

/-! ### Steps -/

/-- A call leaves the capsule alone, or it adds a terminal of its invitation. -/
theorem settle_keeps_or_adds (state : RuntimeState) (call : SettleCall Seed) :
    (settle platform state call).capsule = state.capsule ∨
      ∃ id, call.invitation = some id ∧ AddsTerminal state (settle platform state call) id := by
  rcases call with ⟨outside, _ | id, _ | fromPubkey⟩ | ⟨outside, _ | id, byte⟩ | ⟨outside, _ | id⟩
  case accept.some.some =>
    rcases @accept_settles Seed platform outside state id fromPubkey with
      ⟨hsame, -⟩ | ⟨-, -, hadded⟩
    · exact Or.inl hsame
    · exact Or.inr ⟨id, rfl, hadded⟩
  case reject.some =>
    cases hreason : RejectReason.fromU8 byte with
    | error message => exact Or.inl (by rw [reject_unknown outside state id hreason])
    | ok reason =>
      rcases @reject_settles Seed platform outside state id byte reason hreason with
        ⟨hsame, -⟩ | ⟨-, hadded⟩
      · exact Or.inl hsame
      · exact Or.inr ⟨id, rfl, hadded⟩
  case expire.some =>
    rcases @expire_settles Seed platform outside state id with hsame | ⟨-, -, hadded⟩
    · exact Or.inl hsame
    · exact Or.inr ⟨id, rfl, hadded⟩
  -- without its arguments a call does nothing
  all_goals exact Or.inl rfl

variable {call : SettleCall Seed} {state : RuntimeState}

theorem rightStep_of_unchanged (h : (settle platform state call).capsule = state.capsule) :
    RightStep platform state call :=
  ⟨fun hchanged => absurd h hchanged, fun _ _ _ => h⟩

/-- A call that adds a terminal is right where the invitation has its direction and is open. -/
theorem rightStep_of_added (hid : call.invitation = some id)
    (hrecord : ∃ record, recordIn state id = some record ∧ record.direction = call.direction)
    (hopen : invitationIsResolvedInRuntime state id = false) : RightStep platform state call := by
  constructor
  · intro _
    obtain ⟨record, hfound, hdirection⟩ := hrecord
    exact ⟨id, record, hid, hfound, hdirection, pending_of_unresolved hfound hopen⟩
  · intro other hother hresolved
    obtain rfl := Option.some.inj (hid.symm.trans hother)
    rw [hopen] at hresolved
    cases hresolved

/-- A right call that adds a terminal has an open invitation of its direction. -/
theorem RightStep.of_added (h : RightStep platform state call) (hid : call.invitation = some id)
    (hadded : AddsTerminal state (settle platform state call) id) :
    (∃ record, recordIn state id = some record ∧ record.direction = call.direction) ∧
      invitationIsResolvedInRuntime state id = false := by
  obtain ⟨other, record, hother, hfound, hdirection, -⟩ := h.pending hadded.changes
  obtain rfl := Option.some.inj (hid.symm.trans hother)
  refine ⟨⟨record, hfound, hdirection⟩, ?_⟩
  rw [← Bool.not_eq_true]
  exact fun hresolved => hadded.changes (h.resolved id hid hresolved)

/-- **When a call keeps to open invitations of its direction.** -/
theorem rightStep_iff (state : RuntimeState) (call : SettleCall Seed) :
    RightStep platform state call ↔ call.Fits platform state := by
  rcases call with ⟨outside, _ | id, _ | fromPubkey⟩ | ⟨outside, _ | id, byte⟩ | ⟨outside, _ | id⟩
  case accept.some.some =>
    rcases @accept_settles Seed platform outside state id fromPubkey with
      ⟨hsame, hnone⟩ | ⟨haccepts, hopen, hadded⟩
    · exact iff_of_true (rightStep_of_unchanged hsame) fun haccepts => absurd haccepts hnone
    · exact ⟨fun h _ => (h.of_added rfl hadded).1,
        fun h => rightStep_of_added rfl (h haccepts) hopen⟩
  case reject.some =>
    cases hreason : RejectReason.fromU8 byte with
    | error message =>
      refine iff_of_true (rightStep_of_unchanged (by rw [reject_unknown outside state id hreason])) ?_
      intro reason hknown
      rw [hreason] at hknown
      cases hknown
    | ok reason =>
      have hsame : ∀ reason', RejectReason.fromU8 byte = .ok reason' → reason' = reason :=
        fun reason' hreason' => Except.ok.inj (hreason'.symm.trans hreason)
      rcases @reject_settles Seed platform outside state id byte reason hreason with
        ⟨hunchanged, hnot⟩ | ⟨htaken, hadded⟩
      · refine iff_of_true (rightStep_of_unchanged hunchanged) ?_
        intro reason' hreason' htaken
        rw [hsame reason' hreason'] at htaken
        exact absurd htaken hnot
      · constructor
        · intro h _ _ _
          exact h.of_added rfl hadded
        · intro h
          obtain ⟨hcame, hopen⟩ := h reason hreason htaken
          exact rightStep_of_added rfl hcame hopen
  case expire.some =>
    rcases @expire_settles Seed platform outside state id with
      hsame | ⟨hopen, hrecord, -⟩
    · exact iff_of_true (rightStep_of_unchanged hsame) trivial
    · exact iff_of_true (rightStep_of_added rfl hrecord hopen) trivial
  -- without its arguments a call does nothing
  all_goals exact iff_of_true (rightStep_of_unchanged rfl) trivial

/-- A right call keeps to one terminal of the owner for each invitation. -/
theorem RightStep.oneTerminalEach (h : RightStep platform state call)
    (hone : OneTerminalEach state) : OneTerminalEach (settle platform state call) := by
  rcases @settle_keeps_or_adds Seed platform state call with hsame | ⟨id, hid, hadded⟩
  · intro capsule hcapsule
    exact hone capsule (hsame.symm.trans hcapsule)
  · exact hadded.oneTerminalEach (h.of_added hid hadded).2 hone

/-! ### Runs -/

/-- **On which runs each invitation gets one own terminal**: the run starts from a ledger with
    one at most, and each call fits the state it finds. -/
theorem settles_once_iff (state : RuntimeState) (calls : List (SettleCall Seed)) :
    SettlesOnce platform state calls ↔ OneTerminalEach state ∧
      ∀ front call back, calls = front ++ call :: back →
        call.Fits platform (settleAll platform state front) := by
  constructor
  · intro h
    refine ⟨h.once [] calls rfl, ?_⟩
    intro front call back hsplit
    exact (rightStep_iff _ call).mp (h.step front call back hsplit)
  · rintro ⟨hstart, hfits⟩
    have hright : ∀ front call back, calls = front ++ call :: back →
        RightStep platform (settleAll platform state front) call :=
      fun front call back hsplit => (rightStep_iff _ call).mpr (hfits front call back hsplit)
    refine ⟨?_, hright⟩
    intro front
    -- on the number of calls before, each of them right
    induction front using List.reverseRecOn with
    | nil => exact fun _ _ => hstart
    | append_singleton front call ih =>
      intro back hsplit
      rw [List.append_assoc, List.singleton_append] at hsplit
      rw [settleAll_snoc]
      exact (hright front call back hsplit).oneTerminalEach (ih _ hsplit)

/-! ### Two rejections -/

/-- A capsule that was offered an invitation. -/
def cardOfferedState : RuntimeState :=
  runCalls samplePlatform unrelatedState
    [deliverSigned 1 .invitationReceived cardOffer 1700000000100 ⟨fill 32 9⟩]

def rejectCardOffer (reason : UInt8) (clock : UInt64) : SettleCall (PubKey × PubKey) :=
  .reject ⟨some suppressedSeed, suppressedOutside clock⟩ (some (fill 32 21)) reason

/-- **An invitation is rejected twice**, once for each reason. -/
theorem rejected_twice : ¬ SettlesOnce samplePlatform cardOfferedState
    [rejectCardOffer 0 1700000000200, rejectCardOffer 1 1700000000300] := by
  intro h
  have hcount : (settleAll samplePlatform cardOfferedState
      [rejectCardOffer 0 1700000000200, rejectCardOffer 1 1700000000300]).capsule.map
        (fun capsule => (ownTerminals capsule.pubkey (fill 32 21) capsule.ledger.events).length)
      = some 2 := by
    decide +kernel
  obtain ⟨capsule, hcapsule, htwo⟩ := Option.map_eq_some_iff.mp hcount
  have hone := h.once _ [] (List.append_nil _).symm capsule hcapsule (fill 32 21)
  omega

end Steps

end Hivra
