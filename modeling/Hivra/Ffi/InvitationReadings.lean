import Hivra.Ffi.BreakFilter
import Mathlib.Data.List.AList

namespace Hivra

open ByteString Replay

/-!
# Two readings of an invitation

The host interface answers three questions about an invitation from the events alone: whether
it is resolved, what its offer in one direction says, and whether its delivery is pending.
The core answers them from the record of its projection.

* `lists_iff` — when the pass over the events leaves an offer to deliver.
-/

/-! ### Offers that wait for their delivery -/

/-- A delivery of an own offer that is to be tried again. -/
structure PendingOutgoingInvitationDelivery where
  toPubkey : PubKey
  payload : List UInt8
  timestamp : UInt64
  invitationId : InvitationId
  deriving DecidableEq

/-- The deliveries by invitation. -/
abbrev InvitationRetries := AList fun _ : InvitationId => PendingOutgoingInvitationDelivery

/-- The loop body of the pass. -/
def invitationRetryStep (localRootPubkey : PubKey) (pending : InvitationRetries) (event : Event) :
    InvitationRetries :=
  match event.kind with
  | .invitationSent =>
    if event.signer = localRootPubkey then
      match InvitationSentPayload.fromBytes event.payload with
      | .error _ => pending
      | .ok payload => pending.insert payload.invitationId {
          toPubkey := payload.toPubkey
          payload := event.payload
          timestamp := event.timestamp
          invitationId := payload.invitationId }
    else pending
  | .invitationAccepted | .invitationRejected | .invitationExpired =>
    match invitationIdFromTerminalPayload event.kind event.payload with
    | some invitationId => pending.erase invitationId
    | none => pending
  | _ => pending

/-- The pass over a list of events. -/
def invitationRetries (localRootPubkey : PubKey) (events : List Event) : InvitationRetries :=
  replay (invitationRetryStep localRootPubkey) ∅ events

/-- The order in which deliveries are tried. -/
def PendingOutgoingInvitationDelivery.before (a b : PendingOutgoingInvitationDelivery) : Bool :=
  ((compare a.timestamp b.timestamp).then
    ((compare a.toPubkey.bytes.toList b.toPubkey.bytes.toList).then
      (compare a.invitationId.toList b.invitationId.toList))).isLE

def pendingOutgoingInvitationDeliveriesInRuntime (state : RuntimeState) :
    List PendingOutgoingInvitationDelivery :=
  match state.capsule with
  | none => []
  | some capsule =>
    ((invitationRetries capsule.pubkey capsule.ledger.events).entries.map Sigma.snd).mergeSort
      PendingOutgoingInvitationDelivery.before

/-! ### Events about an invitation -/

/-- The event offers the invitation. -/
def OffersId (event : Event) (id : InvitationId) : Prop :=
  ∃ payload, OfferOf event payload ∧ payload.invitationId = id

/-- The event is an offer of the invitation that the owner sent. -/
def OwnSent (owner : PubKey) (event : Event) (id : InvitationId) : Prop :=
  event.kind = .invitationSent ∧ event.signer = owner ∧ OffersId event id

/-- The event has the kind and the length of a terminal of the invitation. -/
def TerminalFor (event : Event) (id : InvitationId) : Prop :=
  invitationIdFromTerminalPayload event.kind event.payload = some id

instance (event : Event) (id : InvitationId) : Decidable (TerminalFor event id) := by
  unfold TerminalFor
  infer_instance

/-- An own offer of the invitation that no terminal follows. -/
def OpenOffer (owner : PubKey) (events : List Event) (id : InvitationId) : Prop :=
  ∃ front event back, events = front ++ event :: back ∧ OwnSent owner event id ∧
    ∀ later ∈ back, ¬ TerminalFor later id

variable {id : InvitationId} {owner : PubKey} {event : Event}

theorem openOffer_snoc {events : List Event} :
    OpenOffer owner (events ++ [event]) id ↔
      OwnSent owner event id ∨ OpenOffer owner events id ∧ ¬ TerminalFor event id := by
  constructor
  · rintro ⟨front, offer, back, hsplit, hoffer, hback⟩
    rcases List.eq_nil_or_concat back with rfl | ⟨back', last, rfl⟩
    · obtain ⟨-, hlast⟩ := List.append_inj' hsplit rfl
      rw [List.singleton_inj.mp hlast]
      exact Or.inl hoffer
    · rw [List.concat_eq_append, ← List.cons_append, ← List.append_assoc] at hsplit
      obtain ⟨hevents, hlast⟩ := List.append_inj' hsplit rfl
      obtain rfl := List.singleton_inj.mp hlast
      refine Or.inr ⟨⟨front, offer, back', hevents, hoffer, ?_⟩, hback event (by simp)⟩
      exact fun later hlater => hback later (by simp [hlater])
  · rintro (hoffer | ⟨⟨front, offer, back, rfl, hoffer, hback⟩, hnot⟩)
    · exact ⟨events, event, [], rfl, hoffer, by simp⟩
    · refine ⟨front, offer, back ++ [event], by simp, hoffer, ?_⟩
      intro later hlater
      rcases List.mem_append.mp hlater with hold | hlast
      · exact hback later hold
      · rwa [List.mem_singleton.mp hlast]

/-- One event under one invitation of the pass. -/
theorem lookup_invitationRetryStep (owner : PubKey) (pending : InvitationRetries) (event : Event)
    (id : InvitationId) :
    ((invitationRetryStep owner pending event).lookup id).isSome = true ↔
      OwnSent owner event id ∨ (pending.lookup id).isSome = true ∧ ¬ TerminalFor event id := by
  unfold invitationRetryStep
  split
  · rename_i hkind
    have hnot : ¬ TerminalFor event id := by
      unfold TerminalFor
      rw [hkind]
      simp [invitationIdFromTerminalPayload]
    by_cases hsigner : event.signer = owner
    · rw [if_pos hsigner]
      cases hparse : InvitationSentPayload.fromBytes event.payload with
      | error _ =>
        have hno : ¬ OwnSent owner event id := by
          rintro ⟨-, -, payload, hoffer, -⟩
          exact absurd (hparse.symm.trans hoffer.2) (by simp)
        simp [hno, hnot]
      | ok payload =>
        have hown : OwnSent owner event id ↔ payload.invitationId = id := by
          constructor
          · rintro ⟨-, -, other, hoffer, rfl⟩
            rw [Except.ok.inj (hparse.symm.trans hoffer.2)]
          · rintro rfl
            exact ⟨hkind, hsigner, payload, ⟨Or.inl hkind, hparse⟩, rfl⟩
        dsimp only
        rw [hown]
        by_cases hid : payload.invitationId = id
        · subst hid
          simp [AList.lookup_insert]
        · rw [AList.lookup_insert_ne (fun h => hid h.symm)]
          simp [hid, hnot]
    · have hno : ¬ OwnSent owner event id := fun h => hsigner h.2.1
      rw [if_neg hsigner]
      simp [hno, hnot]
  all_goals
    rename_i hkind
    have hno : ¬ OwnSent owner event id := by
      intro hown
      have hsent := hown.1
      simp_all
  iterate 3
    · unfold TerminalFor
      cases hterminal : invitationIdFromTerminalPayload event.kind event.payload with
      | none => simp [hno]
      | some named =>
        dsimp only
        by_cases hid : named = id
        · subst hid
          simp [hno, AList.lookup_erase]
        · rw [AList.lookup_erase_ne (fun h => hid h.symm)]
          simp [hno, hid]
  · have hnot : ¬ TerminalFor event id := by
      unfold TerminalFor invitationIdFromTerminalPayload
      cases hk : event.kind <;> simp_all
    simp [hno, hnot]

/-- The pass keeps an open offer of each invitation. -/
theorem lookup_invitationRetries (owner : PubKey) (events : List Event) (id : InvitationId) :
    ((invitationRetries owner events).lookup id).isSome = true ↔ OpenOffer owner events id := by
  unfold invitationRetries
  induction events using List.reverseRecOn with
  | nil => simp [OpenOffer]
  | append_singleton events event ih =>
    rw [replay_snoc, lookup_invitationRetryStep, ih, openOffer_snoc]

/-- What is kept for an invitation names it. -/
theorem invitationRetries_id {events : List Event} {delivery : PendingOutgoingInvitationDelivery}
    (h : (invitationRetries owner events).lookup id = some delivery) :
    delivery.invitationId = id := by
  have hall : ∀ id delivery, (invitationRetries owner events).lookup id = some delivery →
      delivery.invitationId = id := by
    unfold invitationRetries
    refine replay_invariant (P := fun pending : InvitationRetries => ∀ id delivery,
      pending.lookup id = some delivery → delivery.invitationId = id) (by simp) ?_
    intro pending event _ hpending id delivery hlookup
    have herase : ∀ named, (pending.erase named).lookup id = some delivery →
        delivery.invitationId = id := by
      intro named h
      by_cases hid : id = named
      · rw [hid, AList.lookup_erase] at h
        cases h
      · rw [AList.lookup_erase_ne hid] at h
        exact hpending id delivery h
    unfold invitationRetryStep at hlookup
    split at hlookup
    · split_ifs at hlookup
      · split at hlookup
        · exact hpending id delivery hlookup
        · rename_i payload _
          by_cases hid : id = payload.invitationId
          · rw [hid, AList.lookup_insert] at hlookup
            rw [← Option.some.inj hlookup]
            exact hid.symm
          · rw [AList.lookup_insert_ne hid] at hlookup
            exact hpending id delivery hlookup
      · exact hpending id delivery hlookup
    iterate 3
      · split at hlookup
        · exact herase _ hlookup
        · exact hpending id delivery hlookup
    · exact hpending id delivery hlookup
  exact hall id delivery h

variable {state : RuntimeState} {capsule : Capsule}

/-- **The pass lists an invitation iff the owner offered it and no terminal followed.** -/
theorem lists_iff (hcapsule : state.capsule = some capsule) (id : InvitationId) :
    (∃ delivery ∈ pendingOutgoingInvitationDeliveriesInRuntime state, delivery.invitationId = id) ↔
      OpenOffer capsule.pubkey capsule.ledger.events id := by
  rw [← lookup_invitationRetries, Option.isSome_iff_exists]
  unfold pendingOutgoingInvitationDeliveriesInRuntime
  rw [hcapsule]
  dsimp only
  constructor
  · rintro ⟨delivery, hdelivery, hid⟩
    rw [List.mem_mergeSort] at hdelivery
    obtain ⟨⟨named, delivery'⟩, hentry, rfl⟩ := List.mem_map.mp hdelivery
    have hlookup := AList.mem_lookup_iff.mpr hentry
    have hnamed : named = id := (invitationRetries_id hlookup).symm.trans hid
    rw [← hnamed]
    exact ⟨delivery', hlookup⟩
  · rintro ⟨delivery, hlookup⟩
    refine ⟨delivery, ?_, invitationRetries_id hlookup⟩
    rw [List.mem_mergeSort]
    exact List.mem_map.mpr ⟨⟨id, delivery⟩, AList.mem_lookup_iff.mp hlookup, rfl⟩

/-! ### The record of an invitation -/

/-- What a record keeps of its first offer, and when it is pending. -/
def IsRecordOf (owner : PubKey) (record : InvitationRecord) (offer : Event)
    (payload : InvitationSentPayload) (back : List Event) : Prop :=
  record.asOffered = offerRecord offer payload ∧
    (record.status = .pending ↔ ∀ event ∈ back, ¬ Closes owner (offerRecord offer payload) event)

/-- An invitation without an offer has no record, another one that of its first offer. -/
theorem findInvitation_cases (ledger : Ledger) (id : InvitationId) :
    ((∀ event ∈ ledger.events, ¬ OffersId event id) ∧ findInvitation ledger id = none) ∨
      ∃ front offer payload back record, FirstOfferAt ledger.events front offer payload back ∧
        payload.invitationId = id ∧ findInvitation ledger id = some record ∧
        IsRecordOf ledger.owner record offer payload back := by
  cases hfind : findInvitation ledger id with
  | none =>
    refine Or.inl ⟨?_, rfl⟩
    rintro event hevent ⟨payload, hoffer, hid⟩
    obtain ⟨record, hrecord, hsame⟩ := exists_record_of_offer ledger.owner hevent hoffer
    have hnone := List.find?_eq_none.mp hfind record hrecord
    exact hnone (by simp [hsame, hid])
  | some record =>
    have hmem := List.mem_of_find?_eq_some hfind
    have hid : record.invitationId = id := by simpa using List.find?_some hfind
    obtain ⟨front, offer, payload, back, hfirst, hoffered, hpending⟩ :=
      record_history ledger.owner hmem
    have hsame := congrArg InvitationRecord.invitationId hoffered
    simp only [InvitationRecord.asOffered, offerRecord] at hsame
    exact Or.inr ⟨front, offer, payload, back, record, hfirst, hsame.symm.trans hid, rfl, hoffered,
      hpending⟩

variable {payload : InvitationSentPayload} {offer : Event} {front back : List Event}

/-- The record behind a first offer. -/
theorem find_of_firstOffer {ledger : Ledger}
    (h : FirstOfferAt ledger.events front offer payload back) :
    ∃ record, findInvitation ledger payload.invitationId = some record ∧
      IsRecordOf ledger.owner record offer payload back := by
  rcases findInvitation_cases ledger payload.invitationId with
    ⟨hnone, -⟩ | ⟨front', offer', payload', back', record, hfirst, hid, hfind, hrecord⟩
  · exact absurd ⟨payload, h.offerOf, rfl⟩ (hnone offer (by rw [h.split]; simp))
  · obtain ⟨rfl, rfl, rfl, rfl⟩ := h.unique hfirst hid.symm
    exact ⟨record, hfind, hrecord⟩

/-- The fields a record has from its offer. -/
theorem IsRecordOf.fields {record : InvitationRecord} {back : List Event}
    (h : IsRecordOf owner record offer payload back) :
    record.starterId = payload.starterId ∧ record.direction = offerDirection offer.kind ∧
      record.peerPubkey = (offerRecord offer payload).peerPubkey ∧
      record.senderRootPubkey = payload.senderRootPubkey ∧ record.offerSigner = offer.signer := by
  have hstarter := congrArg InvitationRecord.starterId h.1
  have hdirection := congrArg InvitationRecord.direction h.1
  have hpeer := congrArg InvitationRecord.peerPubkey h.1
  have hroot := congrArg InvitationRecord.senderRootPubkey h.1
  have hsigner := congrArg InvitationRecord.offerSigner h.1
  simp only [InvitationRecord.asOffered] at hstarter hdirection hpeer hroot hsigner
  exact ⟨hstarter, hdirection, hpeer, hroot, hsigner⟩

/-! ### The lookup by direction -/

/-- The sender's transport key, as both read it from an offer. -/
theorem invitationPayloadSenderTransport_eq {bytes : List UInt8}
    (h : bytes.length ∈ InvitationSentPayload.validLengths) :
    invitationPayloadSenderTransport bytes = invitationSenderTransport bytes := by
  unfold invitationPayloadSenderTransport invitationSenderTransport
  simp only [InvitationSentPayload.validLengths, List.mem_cons, List.not_mem_nil, or_false] at h
  by_cases hcard : bytes.length = 161 ∨ bytes.length = 225
  · rw [if_neg (by omega), if_pos (by omega)]
  · rw [if_pos (by omega), if_neg (by omega)]

/-- What the lookup makes of an offer of the invitation. -/
theorem invitationCandidate_of_offer (capsule : Capsule) (h : OfferOf event payload)
    (expected : Bool) :
    ∃ lookup : InvitationLookupRecord, lookup.starterId = payload.starterId ∧
      lookup.senderRootPubkey = payload.senderRootPubkey ∧
      (offerIsIncoming capsule.pubkey event = (event.kind == .invitationReceived) →
        lookup.peerPubkey = (offerRecord event payload).peerPubkey) ∧
      invitationCandidate capsule payload.invitationId (some expected) event =
        if expected = offerIsIncoming capsule.pubkey event then some lookup else none := by
  obtain ⟨hlength, hpayload⟩ := InvitationSentPayload.fromBytes_ok.mp h.2
  have hkind : ¬ (event.kind ≠ .invitationSent ∧ event.kind ≠ .invitationReceived) := by
    rcases h.1 with hkind | hkind <;> simp [hkind]
  have hshape : ¬ invitationPayloadHasKnownShape event.payload = false := by
    simpa [invitationPayloadHasKnownShape] using hlength
  unfold invitationCandidate
  rw [if_neg hkind, if_neg hshape, if_neg (by simp [hpayload])]
  refine ⟨_, ?_, ?_, ?_, rfl⟩
  · rw [hpayload]
  · rw [hpayload]
    rfl
  · intro hdirection
    dsimp only
    rw [hdirection, invitationPayloadSenderTransport_eq hlength]
    unfold offerRecord offerDirection
    by_cases hreceived : event.kind = .invitationReceived
    · simp [hreceived]
    · simp [hreceived, hpayload]

/-- Where all offers of an invitation go one way, the lookup in this direction returns the first
    one, and the other lookup nothing. -/
theorem find_of_oneWay (hcapsule : state.capsule = some capsule)
    (hfirst : FirstOfferAt capsule.ledger.events front offer payload back)
    (hway : ∀ event ∈ capsule.ledger.events, OffersId event payload.invitationId →
      offerIsIncoming capsule.pubkey event = (offer.kind == .invitationReceived)) :
    (∃ lookup, findInvitationSentInRuntimeWithDirection state payload.invitationId
        (some (offer.kind == .invitationReceived)) = some lookup ∧
      lookup.starterId = payload.starterId ∧
      lookup.peerPubkey = (offerRecord offer payload).peerPubkey ∧
      lookup.senderRootPubkey = payload.senderRootPubkey) ∧
    findInvitationSentInRuntimeWithDirection state payload.invitationId
      (some !(offer.kind == .invitationReceived)) = none := by
  have hoffer : offerIsIncoming capsule.pubkey offer = (offer.kind == .invitationReceived) :=
    hway offer (by rw [hfirst.split]; simp) ⟨payload, hfirst.offerOf, rfl⟩
  have hfront : ∀ expected, front.findSome?
      (invitationCandidate capsule payload.invitationId expected) = none := by
    intro expected
    rw [List.findSome?_eq_none_iff]
    exact fun event hevent => candidate_eq_none expected (hfirst.first event hevent)
  unfold findInvitationSentInRuntimeWithDirection
  rw [hcapsule]
  dsimp only
  constructor
  · obtain ⟨lookup, hstarter, hroot, hpeer, hcandidate⟩ := invitationCandidate_of_offer capsule
      hfirst.offerOf (offer.kind == .invitationReceived)
    rw [if_pos hoffer.symm] at hcandidate
    refine ⟨lookup, ?_, hstarter, hpeer hoffer, hroot⟩
    rw [hfirst.split, List.findSome?_append, hfront, List.findSome?_cons, hcandidate]
    rfl
  · rw [List.findSome?_eq_none_iff]
    intro event hevent
    by_cases hoffers : OffersId event payload.invitationId
    · obtain ⟨other, hother, hid⟩ := hoffers
      obtain ⟨lookup, -, -, -, hcandidate⟩ := invitationCandidate_of_offer capsule hother
        (!(offer.kind == .invitationReceived))
      rw [hid] at hcandidate
      rw [hcandidate, hway event hevent ⟨other, hother, hid⟩, if_neg (by simp)]
    · exact candidate_eq_none _ fun other hother hid => hoffers ⟨other, hother, hid⟩

/-- An offer of an invitation is found by the lookup in its own direction. -/
theorem find_of_offer (hcapsule : state.capsule = some capsule)
    (hevent : event ∈ capsule.ledger.events) (hoffers : OffersId event id) :
    ∃ lookup, findInvitationSentInRuntimeWithDirection state id
      (some (offerIsIncoming capsule.pubkey event)) = some lookup := by
  obtain ⟨payload, hoffer, rfl⟩ := hoffers
  obtain ⟨lookup, -, -, -, hcandidate⟩ := invitationCandidate_of_offer capsule hoffer
    (offerIsIncoming capsule.pubkey event)
  rw [if_pos rfl] at hcandidate
  unfold findInvitationSentInRuntimeWithDirection
  rw [hcapsule]
  dsimp only
  rw [← Option.isSome_iff_exists, List.findSome?_isSome_iff]
  exact ⟨event, hevent, by rw [hcandidate]; rfl⟩

/-! ### When the readings agree -/

@[simp] theorem outgoing_beq_incoming :
    (InvitationDirection.outgoing == .incoming) = false := rfl

theorem incoming_of_ne {direction other : InvitationDirection} (h : direction ≠ other) :
    (other == .incoming) = !(direction == .incoming) := by
  cases direction <;> cases other <;> first
    | rfl
    | exact absurd rfl h

/-- The answers of the host interface about an invitation are those of the core. -/
structure ReadingsAgree (state : RuntimeState) (ledger : Ledger) (id : InvitationId) : Prop where
  resolved : invitationIsResolvedInRuntime state id = true ↔
    ∃ record, findInvitation ledger id = some record ∧ record.status ≠ .pending
  found : ∀ direction : InvitationDirection,
    (∃ lookup, findInvitationSentInRuntimeWithDirection state id
      (some (direction == .incoming)) = some lookup) ↔
    ∃ record, findInvitation ledger id = some record ∧ record.direction = direction
  same : ∀ (direction : InvitationDirection) lookup record,
    findInvitationSentInRuntimeWithDirection state id (some (direction == .incoming))
      = some lookup → findInvitation ledger id = some record →
    lookup.starterId = record.starterId ∧ lookup.peerPubkey = record.peerPubkey ∧
      lookup.senderRootPubkey = record.senderRootPubkey
  listed : (∃ delivery ∈ pendingOutgoingInvitationDeliveriesInRuntime state,
      delivery.invitationId = id) ↔
    ∃ record, findInvitation ledger id = some record ∧ record.direction = .outgoing ∧
      record.status = .pending ∧ record.offerSigner = ledger.owner

/-- What the events about an invitation have to be like, behind its first offer: a terminal
    among them means one that closes the offer, all offers go the way of the first, and an own
    offer without a terminal behind it means that there is no terminal at all and that the
    first offer is the owner's. -/
structure AlikeBehind (owner : PubKey) (events : List Event) (offer : Event)
    (payload : InvitationSentPayload) (back : List Event) : Prop where
  closed : (∃ event ∈ events, TerminalFor event payload.invitationId) →
    ∃ event ∈ back, Closes owner (offerRecord offer payload) event
  oneWay : ∀ event ∈ events, OffersId event payload.invitationId →
    offerIsIncoming owner event = (offer.kind == .invitationReceived)
  delivered : OpenOffer owner events payload.invitationId →
    (∀ event ∈ events, ¬ TerminalFor event payload.invitationId) ∧ offer.signer = owner

/-- The events say the same about an invitation either way. -/
def ReadAlike (owner : PubKey) (events : List Event) (id : InvitationId) : Prop :=
  (∀ event ∈ events, ¬ OffersId event id ∧ ¬ TerminalFor event id) ∨
    ∃ front offer payload back, FirstOfferAt events front offer payload back ∧
      payload.invitationId = id ∧ AlikeBehind owner events offer payload back

section Agree

variable {state : RuntimeState} {capsule : Capsule} {id : InvitationId}

theorem resolved_iff (hcapsule : state.capsule = some capsule) :
    invitationIsResolvedInRuntime state id = true ↔
      ∃ event ∈ capsule.ledger.events, TerminalFor event id := by
  unfold invitationIsResolvedInRuntime TerminalFor RuntimeState.events
  rw [hcapsule, List.any_eq_true]
  simp

variable {payload : InvitationSentPayload}

/-- A terminal that closes an offer is a terminal of its invitation. -/
theorem terminalFor_of_closes {owner : PubKey} {offer event : Event}
    (h : Closes owner (offerRecord offer payload) event) :
    TerminalFor event payload.invitationId := by
  obtain ⟨terminal, hterminal, -⟩ := h
  exact invitationIdFromTerminalPayload_of_terminal hterminal

/-- Readings that agree come from events that say the same either way. -/
theorem readAlike_of_agree (hcapsule : state.capsule = some capsule)
    (h : ReadingsAgree state capsule.ledger id) :
    ReadAlike capsule.pubkey capsule.ledger.events id := by
  have hresolved := h.resolved
  rw [resolved_iff hcapsule] at hresolved
  rcases findInvitation_cases capsule.ledger id with
    ⟨hnone, hfind⟩ | ⟨front, offer, payload, back, record, hfirst, rfl, hfind, hrecord⟩
  · refine Or.inl fun event hevent => ⟨hnone event hevent, fun hterminal => ?_⟩
    obtain ⟨record, hsome, -⟩ := hresolved.mp ⟨event, hevent, hterminal⟩
    rw [hfind] at hsome
    cases hsome
  refine Or.inr ⟨front, offer, payload, back, hfirst, rfl, ?_, ?_, ?_⟩
  · intro hterminal
    obtain ⟨other, hsome, hsettled⟩ := hresolved.mp hterminal
    obtain rfl := Option.some.inj (hfind.symm.trans hsome)
    by_contra hopen
    exact hsettled (hrecord.2.mpr fun event hevent hcloses => hopen ⟨event, hevent, hcloses⟩)
  · intro event hevent hoffers
    have hfound := find_of_offer hcapsule hevent hoffers
    have hdirection := (h.found (if offerIsIncoming capsule.pubkey event then .incoming
      else .outgoing)).mp (by cases hin : offerIsIncoming capsule.pubkey event <;>
        simpa [hin] using hfound)
    obtain ⟨other, hsome, hsame⟩ := hdirection
    obtain rfl := Option.some.inj (hfind.symm.trans hsome)
    rw [hrecord.fields.2.1] at hsame
    unfold offerDirection at hsame
    by_cases hreceived : offer.kind = .invitationReceived <;>
      cases hin : offerIsIncoming capsule.pubkey event <;> simp_all
  · intro hopen
    obtain ⟨other, hsome, -, hpending, hsigner⟩ := h.listed.mp ((lists_iff hcapsule _).mpr hopen)
    obtain rfl := Option.some.inj (hfind.symm.trans hsome)
    refine ⟨fun event hevent hterminal => ?_, hrecord.fields.2.2.2.2.symm.trans hsigner⟩
    obtain ⟨other, hother, hsettled⟩ := hresolved.mp ⟨event, hevent, hterminal⟩
    obtain rfl := Option.some.inj (hfind.symm.trans hother)
    exact hsettled hpending

/-- Events without offer and terminal leave nothing to disagree about. -/
theorem agree_of_silent (hcapsule : state.capsule = some capsule)
    (h : ∀ event ∈ capsule.ledger.events, ¬ OffersId event id ∧ ¬ TerminalFor event id) :
    ReadingsAgree state capsule.ledger id := by
  have hfind : findInvitation capsule.ledger id = none := by
    rcases findInvitation_cases capsule.ledger id with
      ⟨-, hfind⟩ | ⟨front, offer, payload, back, record, hfirst, hid, -, -⟩
    · exact hfind
    · exact absurd ⟨payload, hfirst.offerOf, hid⟩ (h offer (by rw [hfirst.split]; simp)).1
  have hlookup : ∀ expected, findInvitationSentInRuntimeWithDirection state id expected = none := by
    intro expected
    unfold findInvitationSentInRuntimeWithDirection
    rw [hcapsule]
    dsimp only
    rw [List.findSome?_eq_none_iff]
    intro event hevent
    exact candidate_eq_none expected fun payload hoffer hid =>
      (h event hevent).1 ⟨payload, hoffer, hid⟩
  constructor
  · rw [resolved_iff hcapsule, hfind]
    simpa using fun event hevent => (h event hevent).2
  · intro direction
    rw [hlookup, hfind]
    simp
  · intro direction lookup record hsome
    rw [hlookup] at hsome
    cases hsome
  · rw [lists_iff hcapsule, hfind]
    constructor
    · rintro ⟨front, event, back, hsplit, hown, -⟩
      exact absurd hown.2.2 (h event (by rw [hsplit]; simp)).1
    · rintro ⟨record, hsome, -⟩
      cases hsome

/-- Events that say the same either way make the readings agree. -/
theorem agree_of_alike (hcapsule : state.capsule = some capsule) {front back : List Event}
    {offer : Event} (hfirst : FirstOfferAt capsule.ledger.events front offer payload back)
    (h : AlikeBehind capsule.pubkey capsule.ledger.events offer payload back) :
    ReadingsAgree state capsule.ledger payload.invitationId := by
  obtain ⟨record, hfind, hrecord⟩ := find_of_firstOffer hfirst
  obtain ⟨⟨lookup, hlookup, hstarter, hpeer, hroot⟩, hother⟩ := find_of_oneWay hcapsule hfirst h.oneWay
  obtain ⟨hstarter', hdirection, hpeer', hroot', hsigner⟩ := hrecord.fields
  have hkind : (record.direction == .incoming) = (offer.kind == .invitationReceived) := by
    rw [hdirection]
    unfold offerDirection
    by_cases hreceived : offer.kind = .invitationReceived <;> simp [hreceived]
  -- the record is settled iff there is a terminal at all
  have hsettled : (∃ event ∈ capsule.ledger.events, TerminalFor event payload.invitationId) ↔
      record.status ≠ .pending := by
    rw [ne_eq, hrecord.2]
    constructor
    · intro hterminal hopen
      obtain ⟨event, hevent, hcloses⟩ := h.closed hterminal
      exact hopen event hevent hcloses
    · intro hclosed
      by_contra hnone
      apply hclosed
      intro event hevent hcloses
      exact hnone ⟨event, by rw [hfirst.split]; simp [hevent], terminalFor_of_closes hcloses⟩
  constructor
  · rw [resolved_iff hcapsule, hsettled, hfind]
    simp
  · intro direction
    rw [hfind]
    by_cases hsame : record.direction = direction
    · rw [← hsame, hkind, hlookup]
      simp
    · have hne : (direction == .incoming) = !(offer.kind == .invitationReceived) := by
        rw [← hkind]
        exact incoming_of_ne hsame
      rw [hne, hother]
      simp [hsame]
  · intro direction found other hfound hsome
    obtain rfl := Option.some.inj (hfind.symm.trans hsome)
    have hsame : (direction == .incoming) = (offer.kind == .invitationReceived) := by
      by_contra hne
      have hnot : (direction == .incoming) = !(offer.kind == .invitationReceived) := by
        cases hd : (direction == .incoming) <;> cases ho : (offer.kind == .invitationReceived) <;>
          simp_all
      rw [hnot, hother] at hfound
      cases hfound
    rw [hsame, hlookup] at hfound
    rw [← Option.some.inj hfound]
    exact ⟨hstarter.trans hstarter'.symm, hpeer.trans hpeer'.symm, hroot.trans hroot'.symm⟩
  · rw [lists_iff hcapsule, hfind]
    constructor
    · intro hopen
      obtain ⟨hnone, howner⟩ := h.delivered hopen
      obtain ⟨front', event, back', hsplit, hown, -⟩ := hopen
      have hway := h.oneWay event (by rw [hsplit]; simp) hown.2.2
      have hout : offerIsIncoming capsule.pubkey event = false := by
        simp [offerIsIncoming, hown.1, hown.2.1]
      refine ⟨record, rfl, ?_, ?_, hsigner.trans howner⟩
      · rw [hdirection]
        unfold offerDirection
        rw [if_neg]
        simpa [hout] using hway
      · by_contra hclosed
        obtain ⟨terminal, hterminal, hfor⟩ := hsettled.mpr hclosed
        exact hnone terminal hterminal hfor
    · rintro ⟨other, hsome, hout, hpending, howner⟩
      obtain rfl := Option.some.inj hsome
      have hsent : offer.kind = .invitationSent := by
        rcases hfirst.offerOf.1 with hsent | hreceived
        · exact hsent
        · rw [hdirection, offerDirection, if_pos hreceived] at hout
          cases hout
      refine ⟨front, offer, back, hfirst.split,
        ⟨hsent, hsigner.symm.trans howner, payload, hfirst.offerOf, rfl⟩, ?_⟩
      intro later hlater hterminal
      have hclosed := hsettled.mp ⟨later, by rw [hfirst.split]; simp [hlater], hterminal⟩
      exact hclosed hpending

end Agree

/-- **When the readings of an invitation agree.** -/
theorem readings_agree_iff (state : RuntimeState) (capsule : Capsule) (id : InvitationId)
    (hcapsule : state.capsule = some capsule) :
    ReadingsAgree state capsule.ledger id ↔
      ReadAlike capsule.pubkey capsule.ledger.events id := by
  constructor
  · exact readAlike_of_agree hcapsule
  · rintro (hsilent | ⟨front, offer, payload, back, hfirst, rfl, halike⟩)
    · exact agree_of_silent hcapsule hsilent
    · exact agree_of_alike hcapsule hfirst halike

/-! ### A cancel signed with the transport key -/

/-- An offer of the peer 8, whose root key is 9, with its transport key on the card. -/
def cardOffer : List UInt8 :=
  InvitationSentPayload.toBytes ⟨fill 32 21, ⟨fill 32 4⟩, suppressedSeed.2, some ⟨fill 32 9⟩⟩ ++
    [StarterKind.juice.toByte] ++ (fill 32 8 : Bytes 32).toList

/-- The delivery of an event that its signer has signed. -/
def deliverSigned (kind : UInt32) (localKind : EventKind) (payload : List UInt8)
    (timestamp : UInt64) (signer : PubKey) : RuntimeCall (PubKey × PubKey) :=
  let unsigned := Event.newV5 localKind payload timestamp ⟨fill 64 0⟩ signer
  .receive ⟨false, false, suppressedOutside timestamp, suppressedOutside timestamp⟩ suppressedSeed
    suppressedSeed.2 ⟨0, 0, 0, 0, 0, 0, 0, 0, 0, 0, 0, 0, 0, 0⟩
    { fromPubkey := ⟨fill 32 8⟩
      toPubkey := suppressedSeed.2
      kind := kind
      payload := payload
      timestamp := timestamp
      domainEvent := some ⟨5, localKind.toByte, signer,
        (unsigned.eventId sampleDigest).toList ++ signer.bytes.toList⟩ }

/-- The offer, which the root key signs, and its cancel, which the transport key signs. -/
def cancelledState : RuntimeState :=
  runCalls samplePlatform unrelatedState
    [deliverSigned 1 .invitationReceived cardOffer 1700000000100 ⟨fill 32 9⟩,
      deliverSigned 4 .invitationExpired (InvitationExpiredPayload.toBytes ⟨fill 32 21⟩)
        1700000000200 ⟨fill 32 8⟩]

/-- **The readings part over a cancel of the transport key**: the filter takes it and has the
    invitation resolved; for the core only the signer of the offer may cancel it. -/
theorem transport_cancel_parts_readings :
    ∃ capsule, cancelledState.capsule = some capsule ∧
      ¬ ReadingsAgree cancelledState capsule.ledger (fill 32 21) := by
  have hrecord : (cancelledState.capsule.bind fun capsule =>
      findInvitation capsule.ledger (fill 32 21)).map InvitationRecord.status = some .pending := by
    decide +kernel
  obtain ⟨record, hbind, hpending⟩ := Option.map_eq_some_iff.mp hrecord
  obtain ⟨capsule, hcapsule, hfind⟩ := Option.bind_eq_some_iff.mp hbind
  refine ⟨capsule, hcapsule, fun h => ?_⟩
  obtain ⟨other, hother, hsettled⟩ := h.resolved.mp (by decide +kernel)
  obtain rfl := Option.some.inj (hfind.symm.trans hother)
  exact hsettled hpending

/-- The offer by itself. -/
def cardOfferEvent : Event :=
  .new .invitationReceived cardOffer 100 ⟨fill 64 0⟩ ⟨fill 32 9⟩

/-- Of the offer by itself both say the same. -/
theorem readings_agree_offer :
    ReadingsAgree ⟨some ⟨.neste, .ofEvents suppressedSeed.1 [cardOfferEvent]⟩, 0⟩
      (.ofEvents suppressedSeed.1 [cardOfferEvent]) (fill 32 21) := by
  refine (readings_agree_iff _ ⟨.neste, .ofEvents suppressedSeed.1 [cardOfferEvent]⟩ _ rfl).mpr
    (Or.inr ⟨[], cardOfferEvent,
      ⟨fill 32 21, ⟨fill 32 4⟩, suppressedSeed.2, some ⟨fill 32 9⟩⟩, [],
      ⟨rfl, ⟨Or.inr rfl, by decide +kernel⟩, by simp⟩, rfl, ?_⟩)
  have hterminal : ¬ TerminalFor cardOfferEvent (fill 32 21) := by decide +kernel
  constructor
  · rintro ⟨event, hevent, hfor⟩
    rw [List.mem_singleton.mp hevent] at hfor
    exact absurd hfor hterminal
  · intro event hevent _
    rw [List.mem_singleton.mp hevent]
    decide +kernel
  · rintro ⟨front, event, back, hsplit, hown, -⟩
    have hmem : event ∈ [cardOfferEvent] := by
      show event ∈ (Ledger.ofEvents suppressedSeed.1 [cardOfferEvent]).events
      rw [hsplit]
      simp
    rw [List.mem_singleton.mp hmem] at hown
    exact absurd hown.1 (by decide)

end Hivra
