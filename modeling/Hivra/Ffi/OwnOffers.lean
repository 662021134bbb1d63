import Hivra.Core.InvitationRecords
import Hivra.Ffi.Ingress

namespace Hivra

open ByteString Replay

/-!
# The owner's offers, as the ingress sees them

The records of the core projection and the lookups of the host interface read the same
events in different ways.  On an offer the owner signed they agree, and what they say
about it survives every append.
-/

/-- The record of an offer the owner of the ledger made. -/
structure OwnOffer (ledger : Ledger) (record : InvitationRecord) : Prop where
  mem : record ∈ invitationsWithStatus ledger
  outgoing : record.direction = .outgoing
  signed : record.offerSigner = ledger.owner

/-- The capsule of a state holds the record of an own offer. -/
def HoldsOffer (state : RuntimeState) (record : InvitationRecord) : Prop :=
  ∃ capsule, state.capsule = some capsule ∧ OwnOffer capsule.ledger record

/-! ### The offer behind a record -/

/-- The first offer of the id is an `InvitationSent` of the owner. -/
theorem OwnOffer.offer {ledger : Ledger} {record : InvitationRecord} (h : OwnOffer ledger record) :
    ∃ front offer payload back, FirstOfferAt ledger.events front offer payload back ∧
      offer.kind = .invitationSent ∧ offer.signer = ledger.owner ∧
      payload.invitationId = record.invitationId ∧ payload.starterId = record.starterId ∧
      payload.toPubkey = record.recipientPubkey ∧
      (record.status = .pending ↔
        ∀ event ∈ back, ¬ Closes ledger.owner (offerRecord offer payload) event) := by
  obtain ⟨front, offer, payload, back, hfirst, hoffered, hpending⟩ :=
    record_history ledger.owner h.mem
  have hid := congrArg InvitationRecord.invitationId hoffered
  have hstarter := congrArg InvitationRecord.starterId hoffered
  have hto := congrArg InvitationRecord.recipientPubkey hoffered
  have hdirection := congrArg InvitationRecord.direction hoffered
  have hsigner := congrArg InvitationRecord.offerSigner hoffered
  simp only [InvitationRecord.asOffered, offerRecord] at hid hstarter hto hdirection hsigner
  refine ⟨front, offer, payload, back, hfirst, ?_, hsigner.symm.trans h.signed, hid.symm,
    hstarter.symm, hto.symm, hpending⟩
  rw [h.outgoing] at hdirection
  rcases hfirst.offerOf.1 with hsent | hreceived
  · exact hsent
  · -- a received offer is incoming
    rw [offerDirection, if_pos hreceived] at hdirection
    exact absurd hdirection (by simp)

variable {capsule : Capsule}

/-- An event that offers no invitation of the id is no candidate for it. -/
theorem candidate_eq_none {id : InvitationId} {event : Event} (expected : Option Bool)
    (h : ∀ payload, OfferOf event payload → payload.invitationId ≠ id) :
    invitationCandidate capsule id expected event = none := by
  unfold invitationCandidate
  by_cases hkind : event.kind ≠ .invitationSent ∧ event.kind ≠ .invitationReceived
  · rw [if_pos hkind]
  rw [if_neg hkind]
  by_cases hshape : invitationPayloadHasKnownShape event.payload = false
  · rw [if_pos hshape]
  rw [if_neg hshape]
  have hlength : event.payload.length ∈ InvitationSentPayload.validLengths := by
    simpa [invitationPayloadHasKnownShape] using hshape
  have hoffer : OfferOf event ⟨readFixed32 event.payload 0, ⟨readFixed32 event.payload 32⟩,
      ⟨readFixed32 event.payload 64⟩, readOptionalKey event.payload 128 96⟩ :=
    ⟨by by_contra hno; rw [not_or] at hno; exact hkind hno,
      InvitationSentPayload.fromBytes_ok.mpr ⟨hlength, rfl⟩⟩
  rw [if_pos (h _ hoffer)]

/-- An offer the owner sent is a candidate for its id, with its starter and recipient. -/
private theorem candidate_of_sent {event : Event} {payload : InvitationSentPayload}
    (hoffer : OfferOf event payload) (hkind : event.kind = .invitationSent)
    (hsigner : event.signer = capsule.pubkey) :
    ∃ lookup, invitationCandidate capsule payload.invitationId (some false) event = some lookup ∧
      lookup.starterId = payload.starterId ∧ lookup.peerPubkey = payload.toPubkey := by
  obtain ⟨hlength, rfl⟩ := InvitationSentPayload.fromBytes_ok.mp hoffer.2
  have hshape : ¬ invitationPayloadHasKnownShape event.payload = false := by
    simpa [invitationPayloadHasKnownShape] using hlength
  have hdirection : offerIsIncoming capsule.pubkey event = false := by
    simp [offerIsIncoming, hkind, hsigner]
  unfold invitationCandidate
  rw [if_neg (by simp [hkind]), if_neg hshape, if_neg (by simp)]
  dsimp only
  rw [hdirection]
  exact ⟨_, if_pos rfl, rfl, rfl⟩

variable {record : InvitationRecord}

/-- The lookup of the host interface finds the offer behind the record. -/
theorem OwnOffer.find {state : RuntimeState} (hcapsule : state.capsule = some capsule)
    (h : OwnOffer capsule.ledger record) :
    ∃ lookup, findInvitationSentInRuntimeWithDirection state record.invitationId (some false)
        = some lookup ∧ lookup.starterId = record.starterId ∧
      lookup.peerPubkey = record.recipientPubkey := by
  obtain ⟨front, offer, payload, back, hfirst, hkind, hsigner, hid, hstarter, hto, -⟩ := h.offer
  obtain ⟨lookup, hlookup, hlookupStarter, hlookupTo⟩ :=
    candidate_of_sent hfirst.offerOf hkind (show offer.signer = capsule.pubkey from hsigner)
  refine ⟨lookup, ?_, hlookupStarter.trans hstarter, hlookupTo.trans hto⟩
  have hfront : front.findSome?
      (invitationCandidate capsule payload.invitationId (some false)) = none := by
    rw [List.findSome?_eq_none_iff]
    intro event hevent
    exact candidate_eq_none (some false) (hfirst.first event hevent)
  unfold findInvitationSentInRuntimeWithDirection
  simp only [hcapsule]
  rw [hfirst.split, ← hid, List.findSome?_append, hfront, List.findSome?_cons, hlookup]
  rfl

/-- A terminal the core reads names an invitation for the host interface as well. -/
theorem invitationIdFromTerminalPayload_of_terminal {kind : EventKind} {bytes : List UInt8}
    {id : InvitationId} {terminal : InvitationStatus}
    (h : terminalStatus kind bytes = some (id, terminal)) :
    invitationIdFromTerminalPayload kind bytes = some id := by
  unfold terminalStatus at h
  unfold invitationIdFromTerminalPayload
  cases kind <;> simp only [reduceCtorEq] at h ⊢
  · cases hparse : InvitationAcceptedPayload.fromBytes bytes with
    | error _ => simp [hparse] at h
    | ok payload =>
      obtain ⟨hlength, rfl⟩ := InvitationAcceptedPayload.fromBytes_ok.mp hparse
      rw [if_pos hlength]
      simp only [hparse, Option.some.injEq, Prod.mk.injEq] at h
      rw [h.1]
  · cases hparse : InvitationRejectedPayload.fromBytes bytes with
    | error _ => simp [hparse] at h
    | ok payload =>
      obtain ⟨hlength, -, hid⟩ := InvitationRejectedPayload.fromBytes_ok.mp hparse
      rw [if_pos hlength]
      simp only [hparse, Option.some.injEq, Prod.mk.injEq] at h
      rw [← hid, h.1]
  · cases hparse : InvitationExpiredPayload.fromBytes bytes with
    | error _ => simp [hparse] at h
    | ok payload =>
      obtain ⟨hlength, rfl⟩ := InvitationExpiredPayload.fromBytes_ok.mp hparse
      rw [if_pos hlength]
      simp only [hparse, Option.some.injEq, Prod.mk.injEq] at h
      rw [h.1]

/-- A record that is not pending is resolved for the filter. -/
theorem OwnOffer.resolved {state : RuntimeState} (hcapsule : state.capsule = some capsule)
    (h : OwnOffer capsule.ledger record) (hstatus : record.status ≠ .pending) :
    invitationIsResolvedInRuntime state record.invitationId = true := by
  obtain ⟨front, offer, payload, back, hfirst, -, -, hid, -, -, hpending⟩ := h.offer
  rw [ne_eq, hpending] at hstatus
  push Not at hstatus
  obtain ⟨event, hevent, terminal, hterminal, -⟩ := hstatus
  have hmem : event ∈ capsule.ledger.events := by
    rw [hfirst.split]
    simp [hevent]
  unfold invitationIsResolvedInRuntime
  rw [List.any_eq_true]
  refine ⟨event, by simpa [RuntimeState.events, hcapsule] using hmem, ?_⟩
  rw [invitationIdFromTerminalPayload_of_terminal hterminal]
  simp [offerRecord, hid]

/-! ### Appends -/

/-- A settled outgoing record keeps its status under any event. -/
private theorem respond_status {owner : PubKey} (event : Event)
    (houtgoing : record.direction = .outgoing) (hstatus : record.status ≠ .pending) :
    (respond owner event record).status = record.status := by
  unfold respond
  cases terminalStatus event.kind event.payload with
  | none => rfl
  | some named =>
    dsimp only
    split_ifs
    · rcases applyTerminal_cases owner event named.2 record with
        ⟨-, -, h⟩ | ⟨-, flag, -, ⟨h, -⟩ | ⟨hwhen, -⟩⟩
      · rw [h]
      · rw [h]
      · rcases hwhen with hpending | ⟨hincoming, -, -⟩
        · exact absurd hpending hstatus
        · rw [houtgoing] at hincoming
          exact absurd hincoming (by simp)
    · rfl

/-- One more event keeps an own offer and the terminal that settled it. -/
private theorem mem_project_snoc {owner : PubKey} {events : List Event} (event : Event)
    (hmem : record ∈ projectInvitations owner events) :
    respond owner event record ∈ projectInvitations owner (events ++ [event]) := by
  rw [projectInvitations_snoc]
  rcases invitationStep_eq_map owner (invitation_ids_nodup owner events) event with
    ⟨heq, -⟩ | ⟨payload, -, -, heq⟩ <;> rw [heq]
  · exact List.mem_map_of_mem hmem
  · exact List.mem_append_left _ (List.mem_map_of_mem hmem)

/-- **Own offers under appends.**  Whatever is appended, the record of an own offer stays
    with what the offer said, and once it is settled its status never changes. -/
theorem OwnOffer.extend {ledger ledger' : Ledger} {new : List Event} (h : OwnOffer ledger record)
    (howner : ledger'.owner = ledger.owner) (hevents : ledger'.events = ledger.events ++ new) :
    ∃ record', OwnOffer ledger' record' ∧ record'.asOffered = record.asOffered ∧
      (record.status ≠ .pending → record'.status = record.status) := by
  have hrun : ∀ new : List Event, ∃ record' ∈ projectInvitations ledger.owner
      (ledger.events ++ new), record'.asOffered = record.asOffered ∧
        (record.status ≠ .pending → record'.status = record.status) := by
    intro new
    induction new using List.reverseRecOn with
    | nil => exact ⟨record, by rw [List.append_nil]; exact h.mem, rfl, fun _ => rfl⟩
    | append_singleton new event ih =>
      obtain ⟨record', hmem, hoffered, hstatus⟩ := ih
      refine ⟨respond ledger.owner event record', ?_,
        (respond_asOffered _ _ _).trans hoffered, ?_⟩
      · rw [← List.append_assoc]
        exact mem_project_snoc event hmem
      · intro hsettled
        have hdirection := congrArg InvitationRecord.direction hoffered
        have houtgoing : record'.direction = .outgoing := hdirection.trans h.outgoing
        rw [respond_status event houtgoing (by rw [hstatus hsettled]; exact hsettled)]
        exact hstatus hsettled
  obtain ⟨record', hmem, hoffered, hstatus⟩ := hrun new
  refine ⟨record', ⟨?_, ?_, ?_⟩, hoffered, hstatus⟩
  · unfold invitationsWithStatus
    rw [howner, hevents]
    exact hmem
  · exact (congrArg InvitationRecord.direction hoffered).trans h.outgoing
  · rw [howner]
    exact (congrArg InvitationRecord.offerSigner hoffered).trans h.signed

/-- The same for a state that grows. -/
theorem HoldsOffer.grows {state state' : RuntimeState} {new : List Event}
    (h : HoldsOffer state record) (hgrows : StateGrows state state' new) :
    ∃ record', HoldsOffer state' record' ∧ record'.asOffered = record.asOffered ∧
      (record.status ≠ .pending → record'.status = record.status) := by
  obtain ⟨capsule, hcapsule, hoffer⟩ := h
  cases hgrows with
  | noCapsule hnone => rw [hnone] at hcapsule; cases hcapsule
  | capsule hold hnew hcapsuleGrows =>
    obtain rfl := Option.some.inj (hcapsule.symm.trans hold)
    obtain ⟨record', hoffer', hoffered, hstatus⟩ :=
      hoffer.extend hcapsuleGrows.pubkey hcapsuleGrows.events
    exact ⟨record', ⟨_, hnew, hoffer'⟩, hoffered, hstatus⟩

end Hivra
