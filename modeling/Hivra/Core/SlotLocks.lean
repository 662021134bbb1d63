import Hivra.Core.InvitationRecords
import Hivra.Core.SlotProjection

namespace Hivra

open ByteString Replay

/-!
# Slot locks against the invitation projection

The lock replay and the invitation projection read the same events with different
rules.  Both readings are stated on the event list, and the starters where they
disagree are described by three defects of the lock replay.
-/

/-- The projection has a pending outgoing offer of the starter that the owner signed. -/
def HasPendingOffer (ledger : Ledger) (starterId : StarterId) : Prop :=
  ∃ record ∈ invitationsWithStatus ledger, record.status = .pending ∧
    record.direction = .outgoing ∧ record.starterId = starterId ∧
    record.offerSigner = ledger.owner

/-- The owner's first offer of some id sends the starter, and no later event closes it. -/
def UnresolvedOffer (owner : PubKey) (events : List Event) (starterId : StarterId) : Prop :=
  ∃ front offer payload back, FirstOfferAt events front offer payload back ∧
    ownerSend owner offer = some payload ∧ payload.starterId = starterId ∧
    ∀ event ∈ back, ¬ Closes owner (offerRecord offer payload) event

/-- A send of the owner that no later terminal names, whoever signed it. -/
structure OpenSendAt (owner : PubKey) (events front : List Event) (send : Event)
    (payload : InvitationSentPayload) (back : List Event) : Prop where
  split : events = front ++ send :: back
  sends : ownerSend owner send = some payload
  unnamed : ∀ event ∈ back, namedTerminal event ≠ some payload.invitationId

/-- The three ways locks and pending offers part on a starter. -/
inductive LockDefect (owner : PubKey) (events : List Event) (starterId : StarterId) : Prop
  /-- The starter is among the first five open ones, but no own offer of it is
      unresolved: all its open sends repeat an id that was offered before. -/
  | resent :
      TakenFrom ∅ (openSends owner events) starterId → ¬ UnresolvedOffer owner events starterId →
      (∀ front send payload back, OpenSendAt owner events front send payload back →
        payload.starterId = starterId → ∃ event ∈ front, ∃ other, OfferOf event other ∧
          other.invitationId = payload.invitationId) →
      LockDefect owner events starterId
  /-- An own offer of the starter is unresolved, but a foreign expiry names it and no
      send of the starter is open. -/
  | cleared {front back : List Event} {offer expiry : Event} {payload : InvitationSentPayload} :
      FirstOfferAt events front offer payload back → ownerSend owner offer = some payload →
      payload.starterId = starterId →
      (∀ event ∈ back, ¬ Closes owner (offerRecord offer payload) event) →
      expiry ∈ back → terminalStatus expiry.kind expiry.payload
        = some (payload.invitationId, .expired) → expiry.signer ≠ owner →
      (∀ invitationId, (invitationId, starterId) ∉ openSends owner events) →
      LockDefect owner events starterId
  /-- An own offer of the starter is unresolved and a send of it is open, but five other
      starters have open sends before it. -/
  | crowded {invitationId : InvitationId} :
      UnresolvedOffer owner events starterId →
      (invitationId, starterId) ∈ openSends owner events →
      ¬ TakenFrom ∅ (openSends owner events) starterId →
      LockDefect owner events starterId

/-! ### Reading sends and terminals -/

variable {owner : PubKey} {events : List Event} {payload : InvitationSentPayload}

theorem ownerSend_eq_some {event : Event} :
    ownerSend owner event = some payload ↔ event.kind = .invitationSent ∧
      event.signer = owner ∧ InvitationSentPayload.fromBytes event.payload = .ok payload := by
  unfold ownerSend
  split_ifs with h
  · cases InvitationSentPayload.fromBytes event.payload <;> simp [Except.toOption, h]
  · simp only [false_iff]
    rintro ⟨hkind, hsigner, -⟩
    exact h ⟨hkind, hsigner⟩

theorem offerOf_of_ownerSend {event : Event} (h : ownerSend owner event = some payload) :
    OfferOf event payload := by
  obtain ⟨hkind, -, hparse⟩ := ownerSend_eq_some.mp h
  exact ⟨Or.inl hkind, hparse⟩

/-- The two readers of terminals see the same invitation. -/
theorem namedTerminal_eq (event : Event) :
    namedTerminal event = (terminalStatus event.kind event.payload).map Prod.fst := by
  unfold namedTerminal terminalStatus
  cases event.kind with
  | invitationAccepted =>
    cases InvitationAcceptedPayload.fromBytes event.payload <;> rfl
  | invitationRejected =>
    cases InvitationRejectedPayload.fromBytes event.payload <;> rfl
  | invitationExpired =>
    cases InvitationExpiredPayload.fromBytes event.payload <;> rfl
  | _ => rfl

/-- The pairs of open sends are the open sends of the event list. -/
theorem mem_openSends_iff {invitationId : InvitationId} {starterId : StarterId} :
    (invitationId, starterId) ∈ openSends owner events ↔
      ∃ front send payload back, OpenSendAt owner events front send payload back ∧
        payload.invitationId = invitationId ∧ payload.starterId = starterId := by
  induction events with
  | nil =>
    simp only [openSends, List.not_mem_nil, false_iff]
    rintro ⟨front, send, payload, back, h, -⟩
    simpa using h.split
  | cons event rest ih =>
    have hrest : (invitationId, starterId) ∈ openSends owner rest →
        ∃ front send payload back, OpenSendAt owner (event :: rest) front send payload back ∧
          payload.invitationId = invitationId ∧ payload.starterId = starterId := by
      intro hmem
      obtain ⟨front, send, payload, back, h, hid, hstarter⟩ := ih.mp hmem
      exact ⟨event :: front, send, payload, back, ⟨by rw [h.split]; rfl, h.sends, h.unnamed⟩,
        hid, hstarter⟩
    have hsplit : ∀ {front : List Event} {send : Event} {payload : InvitationSentPayload}
        {back : List Event}, OpenSendAt owner (event :: rest) front send payload back →
        (front = [] ∧ event = send ∧ rest = back) ∨
          ∃ front', OpenSendAt owner rest front' send payload back := by
      intro front send payload back h
      cases front with
      | nil =>
        obtain ⟨hhead, htail⟩ := List.cons.inj h.split
        exact Or.inl ⟨rfl, hhead, htail⟩
      | cons head front =>
        exact Or.inr ⟨front, (List.cons.inj h.split).2, h.sends, h.unnamed⟩
    rw [openSends]
    cases hsend : ownerSend owner event with
    | none =>
      refine ⟨hrest, ?_⟩
      rintro ⟨front, send, payload, back, h, hid, hstarter⟩
      rcases hsplit h with ⟨-, rfl, -⟩ | ⟨front', h'⟩
      · exact absurd h.sends (by simp [hsend])
      · exact ih.mpr ⟨front', send, payload, back, h', hid, hstarter⟩
    | some payload =>
      dsimp only
      split_ifs with hnamed
      · refine ⟨hrest, ?_⟩
        rintro ⟨front, send, other, back, h, hid, hstarter⟩
        rcases hsplit h with ⟨-, rfl, rfl⟩ | ⟨front', h'⟩
        · -- the head is named by a later terminal
          obtain rfl : payload = other := Option.some.inj (hsend.symm.trans h.sends)
          obtain ⟨later, hlater, hname⟩ := List.any_eq_true.mp hnamed
          exact absurd (by simpa using hname) (h.unnamed later hlater)
        · exact ih.mpr ⟨front', send, other, back, h', hid, hstarter⟩
      · rw [List.mem_cons]
        constructor
        · rintro (hhead | hmem)
          · obtain ⟨hid, hstarter⟩ := Prod.mk.inj hhead
            exact ⟨[], event, payload, rest, ⟨rfl, hsend, by simpa using hnamed⟩, hid.symm,
              hstarter.symm⟩
          · exact hrest hmem
        · rintro ⟨front, send, other, back, h, hid, hstarter⟩
          rcases hsplit h with ⟨-, rfl, rfl⟩ | ⟨front', h'⟩
          · obtain rfl : payload = other := Option.some.inj (hsend.symm.trans h.sends)
            exact Or.inl (by rw [hid, hstarter])
          · exact Or.inr (ih.mpr ⟨front', send, other, back, h', hid, hstarter⟩)

/-! ### Pending offers on the event list -/

/-- What the fields of an outgoing own record say about its offer. -/
private theorem ownerSend_of_record {record : InvitationRecord} {offer : Event}
    (hoffer : OfferOf offer payload) (hrecord : record.asOffered = offerRecord offer payload)
    (hdir : record.direction = .outgoing) (hsigner : record.offerSigner = owner) :
    ownerSend owner offer = some payload ∧ payload.starterId = record.starterId := by
  have hdir' : record.direction = offerDirection offer.kind :=
    congrArg InvitationRecord.direction hrecord
  have hsigner' : record.offerSigner = offer.signer := congrArg InvitationRecord.offerSigner hrecord
  have hstarter : record.starterId = payload.starterId :=
    congrArg InvitationRecord.starterId hrecord
  have hkind : offer.kind = .invitationSent := by
    rcases hoffer.1 with hkind | hkind
    · exact hkind
    · rw [hdir, hkind] at hdir'
      exact absurd hdir' (by decide)
  exact ⟨ownerSend_eq_some.mpr ⟨hkind, hsigner'.symm.trans hsigner, hoffer.2⟩, hstarter.symm⟩

/-- **A pending own offer is an unresolved first offer.** -/
theorem hasPendingOffer_iff (ledger : Ledger) (starterId : StarterId) :
    HasPendingOffer ledger starterId ↔ UnresolvedOffer ledger.owner ledger.events starterId := by
  constructor
  · rintro ⟨record, hmem, hpending, hdir, hstarter, hsigner⟩
    obtain ⟨front, offer, payload, back, hfirst, hrecord, hiff⟩ :=
      record_history ledger.owner hmem
    obtain ⟨hsend, hstarter'⟩ := ownerSend_of_record hfirst.offerOf hrecord hdir hsigner
    exact ⟨front, offer, payload, back, hfirst, hsend, hstarter'.trans hstarter,
      hiff.mp hpending⟩
  · rintro ⟨front, offer, payload, back, hfirst, hsend, hstarter, hopen⟩
    have hmem : offer ∈ ledger.events := by
      rw [hfirst.split]
      simp
    obtain ⟨record, hrecord, hid⟩ :=
      exists_record_of_offer ledger.owner hmem hfirst.offerOf
    obtain ⟨front', offer', payload', back', hfirst', hrecord', hiff⟩ :=
      record_history ledger.owner hrecord
    have hid' : record.invitationId = payload'.invitationId :=
      congrArg InvitationRecord.invitationId hrecord'
    obtain ⟨rfl, rfl, rfl, rfl⟩ := hfirst.unique hfirst' (hid.symm.trans hid')
    obtain ⟨hkind, hsigner, -⟩ := ownerSend_eq_some.mp hsend
    have hdir : record.direction = .outgoing := by
      have hdir : record.direction = offerDirection offer.kind :=
        congrArg InvitationRecord.direction hrecord'
      rw [hdir, hkind]
      rfl
    have hstarter' : record.starterId = payload.starterId :=
      congrArg InvitationRecord.starterId hrecord'
    have hsigner' : record.offerSigner = offer.signer :=
      congrArg InvitationRecord.offerSigner hrecord'
    exact ⟨record, hrecord, hiff.mpr hopen, hdir, hstarter'.trans hstarter,
      hsigner'.trans hsigner⟩

/-- An open send that is the first offer of its id is an unresolved offer. -/
private theorem unresolved_of_open {front back : List Event} {send : Event}
    (h : OpenSendAt owner events front send payload back)
    (hfirst : ∀ event ∈ front, ∀ other, OfferOf event other →
      other.invitationId ≠ payload.invitationId) :
    UnresolvedOffer owner events payload.starterId := by
  refine ⟨front, send, payload, back, ⟨h.split, offerOf_of_ownerSend h.sends, hfirst⟩, h.sends,
    rfl, ?_⟩
  rintro event hevent ⟨terminal, hterminal, -⟩
  refine h.unnamed event hevent ?_
  rw [namedTerminal_eq, hterminal]
  rfl

/-- Locks and pending offers agree on a starter iff none of the defects is there. -/
theorem locked_iff_pending_iff (owner : PubKey) (events : List Event) (starterId : StarterId) :
    (TakenFrom ∅ (openSends owner events) starterId ↔ UnresolvedOffer owner events starterId) ↔
      ¬ LockDefect owner events starterId := by
  constructor
  · intro hiff hdefect
    cases hdefect with
    | resent htaken hunresolved _ => exact hunresolved (hiff.mp htaken)
    | cleared hfirst hsend hstarter hopen _ _ _ hnone =>
      obtain ⟨front, invitationId, back, hentries, -⟩ :=
        hiff.mpr ⟨_, _, _, _, hfirst, hsend, hstarter, hopen⟩
      exact hnone invitationId (by rw [hentries]; simp)
    | crowded hunresolved _ hnot => exact hnot (hiff.mpr hunresolved)
  · intro hnone
    constructor
    · intro htaken
      by_contra hunresolved
      refine hnone (.resent htaken hunresolved ?_)
      intro front send payload back hopen hstarter
      by_contra hfirst
      push Not at hfirst
      exact hunresolved (hstarter ▸ unresolved_of_open hopen hfirst)
    · intro hunresolved
      by_contra htaken
      by_cases hsome : ∃ invitationId, (invitationId, starterId) ∈ openSends owner events
      · obtain ⟨invitationId, hmem⟩ := hsome
        exact hnone (.crowded hunresolved hmem htaken)
      · -- the send of the unresolved offer is named by a terminal that does not close it
        push Not at hsome
        obtain ⟨front, offer, payload, back, hfirst, hsend, hstarter, hopen⟩ := hunresolved
        have hnamed : ∃ expiry ∈ back, namedTerminal expiry = some payload.invitationId := by
          by_contra hunnamed
          push Not at hunnamed
          exact hsome payload.invitationId (mem_openSends_iff.mpr
            ⟨front, offer, payload, back, ⟨hfirst.split, hsend, hunnamed⟩, rfl, hstarter⟩)
        obtain ⟨expiry, hexpiry, hname⟩ := hnamed
        rw [namedTerminal_eq, Option.map_eq_some_iff] at hname
        obtain ⟨⟨invitationId, terminal⟩, hterminal, rfl⟩ := hname
        have hnot := hopen expiry hexpiry
        have hexpired : terminal = .expired := by
          by_contra hne
          exact hnot ⟨terminal, hterminal, fun h => absurd h hne⟩
        subst hexpired
        refine hnone (.cleared hfirst hsend hstarter hopen hexpiry hterminal ?_ hsome)
        intro hsigner
        refine hnot ⟨.expired, hterminal, fun _ => ?_⟩
        obtain ⟨hkind, -, -⟩ := ownerSend_eq_some.mp hsend
        have hdir : (offerRecord offer payload).direction = .outgoing := by
          show offerDirection offer.kind = .outgoing
          rw [hkind]
          rfl
        unfold validExpirySigner
        rw [hdir]
        simpa using hsigner

/-- Locks and pending own offers agree on every live slot. -/
def SlotLocksAgree (ledger : Ledger) : Prop :=
  ∀ index starterId,
    ((SlotLayout.fromLedger ledger).stateAt index).starterId = some starterId →
      ((SlotLayout.fromLedger ledger).stateAt index = .locked starterId ↔
        HasPendingOffer ledger starterId)

/-- **When the locks agree.** The slot locks of a ledger agree with its invitation
    projection iff no live starter has one of the three defects. -/
theorem slotLocks_agree_iff (ledger : Ledger) : SlotLocksAgree ledger ↔
    ∀ index starterId,
      ((SlotLayout.fromLedger ledger).stateAt index).starterId = some starterId →
        ¬ LockDefect ledger.owner ledger.events starterId := by
  have hslot : ∀ index starterId,
      ((SlotLayout.fromLedger ledger).stateAt index).starterId = some starterId →
        (((SlotLayout.fromLedger ledger).stateAt index = .locked starterId ↔
            HasPendingOffer ledger starterId) ↔
          ¬ LockDefect ledger.owner ledger.events starterId) := by
    intro index starterId hlive
    rw [SlotLayout.locked_iff hlive, mem_lockedStarterIds_iff, hasPendingOffer_iff]
    exact locked_iff_pending_iff ledger.owner ledger.events starterId
  constructor
  · intro hagree index starterId hlive
    exact (hslot index starterId hlive).mp (hagree index starterId hlive)
  · intro hnone index starterId hlive
    exact (hslot index starterId hlive).mpr (hnone index starterId hlive)

/-! ### A foreign expiry that unlocks a pending offer -/

/-- The owner created a starter and offers it; a peer offers under the same id and then
    expires its own offer. -/
def foreignExpiryLedger : Ledger := .ofEvents ⟨fill 32 7⟩ [
  .new .starterCreated (List.replicate 64 2 ++ [0, 1]) 1 ⟨fill 64 0⟩ ⟨fill 32 7⟩,
  .new .invitationSent (List.replicate 32 1 ++ List.replicate 64 2) 2 ⟨fill 64 0⟩ ⟨fill 32 7⟩,
  .new .invitationReceived (List.replicate 96 1 ++ List.replicate 32 8) 3 ⟨fill 64 0⟩ ⟨fill 32 8⟩,
  .new .invitationExpired (List.replicate 32 1) 4 ⟨fill 64 0⟩ ⟨fill 32 8⟩]

/-- **Counterexample.** The offer stays pending, but its starter is not locked. -/
theorem foreignExpiry_unlocks : ¬ SlotLocksAgree foreignExpiryLedger := by
  intro hagree
  have hslot : (SlotLayout.fromLedger foreignExpiryLedger).stateAt 0
      = .occupied ⟨fill 32 2⟩ := by decide +kernel
  have hpending : HasPendingOffer foreignExpiryLedger ⟨fill 32 2⟩ := by
    unfold HasPendingOffer
    decide +kernel
  have hlocked := (hagree 0 ⟨fill 32 2⟩ (by rw [hslot]; rfl)).mpr hpending
  rw [hslot] at hlocked
  exact absurd hlocked (by simp)

end Hivra
