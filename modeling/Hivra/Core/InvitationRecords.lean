import Hivra.Core.Invitation

namespace Hivra

open ByteString Replay

/-!
# What events do to invitation records

One terminal on one record, one event on all records, and the offer each record comes
from.
-/

namespace InvitationRecord

/-- The record as its offer inserted it.  Two records with the same value agree on id,
    direction, starter, offer signer, recipient, time of sending and all other fields
    that come from the offer. -/
def asOffered (record : InvitationRecord) : InvitationRecord :=
  { record with
    respondedAt := none
    respondedSigner := none
    hasLocalTerminal := false
    status := .pending }

variable {a b : InvitationRecord}

theorem invitationId_of_asOffered (h : a.asOffered = b.asOffered) :
    a.invitationId = b.invitationId := by
  have hid := congrArg InvitationRecord.invitationId h
  exact hid

theorem starterId_of_asOffered (h : a.asOffered = b.asOffered) : a.starterId = b.starterId := by
  have hid := congrArg InvitationRecord.starterId h
  exact hid

/-- No terminal changes the status of the record any more. -/
def IsFinal (record : InvitationRecord) : Prop :=
  record.status.isRejected = true ∨ record.status = .expired

end InvitationRecord

/-- The signer that may expire a record: the owner for an outgoing one, the signer of the
    offer for an incoming one. -/
def ExpirySigner (owner : PubKey) (record : InvitationRecord) (signer : PubKey) : Prop :=
  match record.direction with
  | .outgoing => signer = owner
  | .incoming => signer = record.offerSigner

/-- The status changes one event may cause. -/
inductive StatusChange (owner : PubKey) (event : Event) (record : InvitationRecord) :
    InvitationStatus → Prop
  | accepted {starterId : StarterId} {fromPubkey : PubKey} {root : Option PubKey} :
      record.status = .pending →
      StatusChange owner event record (.accepted starterId fromPubkey root)
  | rejected {reason : RejectReason} :
      record.status = .pending → StatusChange owner event record (.rejected reason)
  | expired :
      record.status = .pending → ExpirySigner owner record event.signer →
      StatusChange owner event record .expired
  | revoked :
      record.direction = .incoming → record.status.isAccepted = true →
      ExpirySigner owner record event.signer → StatusChange owner event record .expired

/-! ### One terminal on one record -/

section ApplyTerminal

variable (owner : PubKey) (event : Event) (terminal : InvitationStatus)
  (record : InvitationRecord)

/-- Everything a terminal can do to the record it names: nothing when the signer may not
    expire it; otherwise the flag may be set, and the status may change. -/
theorem applyTerminal_cases :
    (terminal = .expired ∧ validExpirySigner owner record event.signer = false ∧
      applyTerminal owner event terminal record = record) ∨
    (¬ (terminal = .expired ∧ validExpirySigner owner record event.signer = false) ∧
      ∃ flag, (record.hasLocalTerminal = true → flag = true) ∧
        (applyTerminal owner event terminal record = { record with hasLocalTerminal := flag } ∧
            record.status ≠ .pending ∨
          (record.status = .pending ∨ record.direction = .incoming ∧
              record.status.isAccepted = true ∧ terminal = .expired) ∧
            applyTerminal owner event terminal record = { record with
              hasLocalTerminal := flag
              status := terminal
              respondedAt := some event.timestamp
              respondedSigner := some event.signer })) := by
  by_cases hsigner : terminal = .expired ∧ validExpirySigner owner record event.signer = false
  · refine Or.inl ⟨hsigner.1, hsigner.2, ?_⟩
    rw [applyTerminal, if_pos hsigner]
  · refine Or.inr ⟨hsigner, record.hasLocalTerminal ||
      isLocalTerminal owner event.signer record terminal, fun h => by rw [h]; rfl, ?_⟩
    rw [applyTerminal, if_neg hsigner]
    dsimp only
    by_cases hpending : record.status = .pending
    · rw [if_pos hpending]
      exact Or.inr ⟨Or.inl hpending, rfl⟩
    · rw [if_neg hpending]
      by_cases hrevoke : record.direction = .incoming ∧ record.status.isAccepted = true ∧
          terminal = .expired
      · rw [if_pos hrevoke]
        exact Or.inr ⟨Or.inr hrevoke, by rw [hrevoke.2.2]⟩
      · rw [if_neg hrevoke]
        exact Or.inl ⟨rfl, hpending⟩

/-- A terminal keeps what the offer said. -/
theorem applyTerminal_asOffered :
    (applyTerminal owner event terminal record).asOffered = record.asOffered := by
  rcases applyTerminal_cases owner event terminal record with
    ⟨-, -, h⟩ | ⟨-, flag, -, ⟨h, -⟩ | ⟨-, h⟩⟩ <;> rw [h] <;> rfl

theorem applyTerminal_invitationId :
    (applyTerminal owner event terminal record).invitationId = record.invitationId :=
  InvitationRecord.invitationId_of_asOffered (applyTerminal_asOffered owner event terminal record)

/-- A terminal never takes the flag of a local terminal away. -/
theorem applyTerminal_hasLocalTerminal (hflag : record.hasLocalTerminal = true) :
    (applyTerminal owner event terminal record).hasLocalTerminal = true := by
  rcases applyTerminal_cases owner event terminal record with
    ⟨-, -, h⟩ | ⟨-, flag, hmono, ⟨h, -⟩ | ⟨-, h⟩⟩ <;> rw [h]
  · exact hflag
  · exact hmono hflag
  · exact hmono hflag

/-- An admitted expiry is signed by the party the direction asks for. -/
theorem expirySigner_of_valid (h : validExpirySigner owner record event.signer = true) :
    ExpirySigner owner record event.signer := by
  unfold validExpirySigner at h
  unfold ExpirySigner
  cases hdir : record.direction <;> simpa [hdir] using h

/-- A terminal leaves the status alone or changes it in one of the allowed ways. -/
theorem applyTerminal_status (hterminal : terminal ≠ .pending) :
    (applyTerminal owner event terminal record).status = record.status ∨
      StatusChange owner event record (applyTerminal owner event terminal record).status := by
  rcases applyTerminal_cases owner event terminal record with
    ⟨-, -, h⟩ | ⟨hsigner, flag, -, ⟨h, -⟩ | ⟨hwhen, h⟩⟩ <;> rw [h]
  · exact Or.inl rfl
  · exact Or.inl rfl
  · refine Or.inr ?_
    show StatusChange owner event record terminal
    have hexpiry : terminal = .expired → ExpirySigner owner record event.signer := by
      intro hexpired
      apply expirySigner_of_valid
      by_contra hbad
      exact hsigner ⟨hexpired, by simpa using hbad⟩
    rcases hwhen with hpending | ⟨hincoming, haccepted, rfl⟩
    · cases terminal with
      | pending => exact absurd rfl hterminal
      | accepted starterId fromPubkey root => exact .accepted hpending
      | rejected reason => exact .rejected hpending
      | expired => exact .expired hpending (hexpiry rfl)
    · exact .revoked hincoming haccepted (hexpiry rfl)

/-- On a final record a terminal can only set the flag. -/
theorem applyTerminal_of_final (hfinal : record.IsFinal) :
    applyTerminal owner event terminal record = { record with
      hasLocalTerminal := (applyTerminal owner event terminal record).hasLocalTerminal } := by
  rcases applyTerminal_cases owner event terminal record with
    ⟨-, -, h⟩ | ⟨-, flag, -, ⟨h, -⟩ | ⟨hwhen, -⟩⟩
  · rw [h]
  · rw [h]
  · exfalso
    rcases hfinal with hrejected | hexpired
    · rcases hwhen with hpending | ⟨-, haccepted, -⟩
      · rw [hpending] at hrejected
        exact absurd hrejected (by decide)
      · cases hstatus : record.status <;>
          simp [hstatus, InvitationStatus.isAccepted, InvitationStatus.isRejected] at *
    · rw [hexpired] at hwhen
      simp [InvitationStatus.isAccepted] at hwhen

end ApplyTerminal

/-! ### One event on all records -/

/-- An event that offers an invitation with a payload that parses. -/
def OfferOf (event : Event) (payload : InvitationSentPayload) : Prop :=
  (event.kind = .invitationSent ∨ event.kind = .invitationReceived) ∧
    InvitationSentPayload.fromBytes event.payload = .ok payload

section Step

variable (owner : PubKey) {records : List InvitationRecord}

/-- An offer of a new id inserts its record. -/
theorem invitationStep_offer {event : Event} {payload : InvitationSentPayload}
    (h : OfferOf event payload) :
    invitationStep owner records event =
      if records.any (fun record => record.invitationId == payload.invitationId) then records
      else records ++ [offerRecord event payload] := by
  obtain ⟨hkind, hparse⟩ := h
  unfold invitationStep
  rcases hkind with hkind | hkind <;> simp only [hkind, hparse]

/-- A terminal changes the first record of its id. -/
theorem invitationStep_terminal {event : Event} {id : InvitationId} {terminal : InvitationStatus}
    (h : terminalStatus event.kind event.payload = some (id, terminal)) :
    invitationStep owner records event = updateFirst (fun record => record.invitationId == id)
      (applyTerminal owner event terminal) records := by
  unfold invitationStep
  cases hkind : event.kind <;> simp only [hkind] at h ⊢ <;> first
    | rw [h]
    | simp [terminalStatus] at h

/-- Everything one event can do to the records. -/
theorem invitationStep_cases (records : List InvitationRecord) (event : Event) :
    invitationStep owner records event = records ∨
    (∃ payload, OfferOf event payload ∧
      (∀ record ∈ records, record.invitationId ≠ payload.invitationId) ∧
      invitationStep owner records event = records ++ [offerRecord event payload]) ∨
    (∃ id terminal front record back,
      terminalStatus event.kind event.payload = some (id, terminal) ∧
      records = front ++ record :: back ∧ (∀ r ∈ front, r.invitationId ≠ id) ∧
      record.invitationId = id ∧
      invitationStep owner records event
        = front ++ applyTerminal owner event terminal record :: back) := by
  by_cases hoffer : ∃ payload, OfferOf event payload
  · obtain ⟨payload, hoffer⟩ := hoffer
    rw [invitationStep_offer owner hoffer]
    split_ifs with hknown
    · exact Or.inl rfl
    · exact Or.inr (Or.inl ⟨payload, hoffer, by simpa using hknown, rfl⟩)
  · cases hterminal : terminalStatus event.kind event.payload with
    | some named =>
      obtain ⟨id, terminal⟩ := named
      rw [invitationStep_terminal owner hterminal]
      rcases updateFirst_cases (fun record => record.invitationId == id)
        (applyTerminal owner event terminal) records with
        ⟨-, heq⟩ | ⟨front, record, back, hrecords, hfront, hrecord, heq⟩
      · exact Or.inl heq
      · exact Or.inr (Or.inr ⟨id, terminal, front, record, back, rfl, hrecords,
          by simpa using hfront, by simpa using hrecord, heq⟩)
    | none =>
      -- neither an offer nor a terminal that parses
      refine Or.inl ?_
      unfold invitationStep
      split
      · cases hparse : InvitationSentPayload.fromBytes event.payload with
        | error _ => rfl
        | ok payload => exact absurd ⟨payload, Or.inl ‹_›, hparse⟩ hoffer
      · cases hparse : InvitationSentPayload.fromBytes event.payload with
        | error _ => rfl
        | ok payload => exact absurd ⟨payload, Or.inr ‹_›, hparse⟩ hoffer
      · rw [hterminal]
      · rw [hterminal]
      · rw [hterminal]
      · rfl

end Step

/-! ### Records and offers -/

/-- The records of one more event. -/
theorem projectInvitations_snoc (owner : PubKey) (events : List Event) (event : Event) :
    projectInvitations owner (events ++ [event])
      = invitationStep owner (projectInvitations owner events) event :=
  replay_snoc _ _ _ _

/-- No two records have one id. -/
theorem invitation_ids_nodup (owner : PubKey) (events : List Event) :
    ((projectInvitations owner events).map InvitationRecord.invitationId).Nodup := by
  refine replay_invariant (P := fun records : List InvitationRecord =>
    (records.map InvitationRecord.invitationId).Nodup) List.nodup_nil ?_
  intro records event _ hnodup
  rcases invitationStep_cases owner records event with
    heq | ⟨payload, hoffer, hfresh, heq⟩ | ⟨id, terminal, front, record, back, -, hrecords, -, -, heq⟩
  · rw [heq]
    exact hnodup
  · rw [heq, List.map_append, List.nodup_append]
    refine ⟨hnodup, by simp, ?_⟩
    intro id hid id' hid'
    obtain ⟨record, hrecord, rfl⟩ := List.mem_map.mp hid
    rw [List.map_singleton, List.mem_singleton] at hid'
    rw [hid']
    exact hfresh record hrecord
  · rw [hrecords] at hnodup
    rw [heq, List.map_append, List.map_cons, applyTerminal_invitationId]
    rw [List.map_append, List.map_cons] at hnodup
    exact hnodup

/-- What an event does to a record: nothing, unless it is a terminal of its invitation. -/
def respond (owner : PubKey) (event : Event) (record : InvitationRecord) : InvitationRecord :=
  match terminalStatus event.kind event.payload with
  | some (id, terminal) =>
    if record.invitationId = id then applyTerminal owner event terminal record else record
  | none => record

/-- A terminal that a pending record obeys: it names the record, and an expiry is signed
    by the party that may expire it. -/
def Closes (owner : PubKey) (record : InvitationRecord) (event : Event) : Prop :=
  ∃ terminal, terminalStatus event.kind event.payload = some (record.invitationId, terminal) ∧
    (terminal = .expired → validExpirySigner owner record event.signer = true)

theorem respond_asOffered (owner : PubKey) (event : Event) (record : InvitationRecord) :
    (respond owner event record).asOffered = record.asOffered := by
  unfold respond
  split
  · split_ifs
    · exact applyTerminal_asOffered owner event _ record
    · rfl
  · rfl

theorem closes_congr {owner : PubKey} {event : Event} {a b : InvitationRecord}
    (h : a.asOffered = b.asOffered) : Closes owner a event ↔ Closes owner b event := by
  have hid := congrArg InvitationRecord.invitationId h
  have hdir := congrArg InvitationRecord.direction h
  have hsigner := congrArg InvitationRecord.offerSigner h
  simp only [InvitationRecord.asOffered] at hid hdir hsigner
  simp only [Closes, validExpirySigner, hid, hdir, hsigner]

/-- A record is pending after an event iff it was and the event does not close it. -/
theorem respond_pending_iff (owner : PubKey) (event : Event) (record : InvitationRecord) :
    (respond owner event record).status = .pending ↔
      record.status = .pending ∧ ¬ Closes owner record event := by
  unfold respond Closes
  cases hterminal : terminalStatus event.kind event.payload with
  | none => simp
  | some named =>
    obtain ⟨id, terminal⟩ := named
    have hne := terminalStatus_ne_pending hterminal
    by_cases hid : record.invitationId = id
    · simp only [hid, if_true]
      rcases applyTerminal_cases owner event terminal record with
        ⟨hexpired, hbad, h⟩ | ⟨hsigner, flag, -, ⟨h, hstatus⟩ | ⟨-, h⟩⟩ <;> rw [h]
      · -- an expiry of the wrong signer closes nothing
        simp [hexpired, hbad]
      · simp [hstatus]
      · have hvalid : terminal = .expired →
            validExpirySigner owner record event.signer = true := by
          intro hexpired
          by_contra hbad
          exact hsigner ⟨hexpired, by simpa using hbad⟩
        simpa [hne] using fun _ => hvalid
    · have hother : ¬ id = record.invitationId := fun h => hid h.symm
      simp [hid, hother]

/-- One event answers every record and may add one. -/
theorem invitationStep_eq_map (owner : PubKey) {records : List InvitationRecord}
    (hnodup : (records.map InvitationRecord.invitationId).Nodup) (event : Event) :
    (invitationStep owner records event = records.map (respond owner event) ∧
      ∀ payload, OfferOf event payload →
        ∃ record ∈ records, record.invitationId = payload.invitationId) ∨
    ∃ payload, OfferOf event payload ∧
      (∀ record ∈ records, record.invitationId ≠ payload.invitationId) ∧
      invitationStep owner records event
        = records.map (respond owner event) ++ [offerRecord event payload] := by
  by_cases hoffer : ∃ payload, OfferOf event payload
  · obtain ⟨payload, hoffer⟩ := hoffer
    have hterminal : terminalStatus event.kind event.payload = none := by
      rcases hoffer.1 with hkind | hkind <;> rw [hkind] <;> rfl
    have hsame : records.map (respond owner event) = records := by
      refine (List.map_congr_left fun record _ => ?_).trans (List.map_id records)
      show respond owner event record = record
      rw [respond, hterminal]
    rw [invitationStep_offer owner hoffer, hsame]
    split_ifs with hknown
    · refine Or.inl ⟨rfl, ?_⟩
      intro other hother
      have hpayload : payload = other := Except.ok.inj (hoffer.2.symm.trans hother.2)
      rw [← hpayload]
      simpa using hknown
    · exact Or.inr ⟨payload, hoffer, by simpa using hknown, rfl⟩
  · refine Or.inl ⟨?_, fun payload h => absurd ⟨payload, h⟩ hoffer⟩
    cases hterminal : terminalStatus event.kind event.payload with
    | some named =>
      obtain ⟨id, terminal⟩ := named
      rw [invitationStep_terminal owner hterminal, updateFirst_eq_map hnodup]
      refine List.map_congr_left fun record _ => ?_
      rw [respond, hterminal]
    | none =>
      have hsame : records.map (respond owner event) = records := by
        refine (List.map_congr_left fun record _ => ?_).trans (List.map_id records)
        show respond owner event record = record
        rw [respond, hterminal]
      rw [hsame]
      rcases invitationStep_cases owner records event with
        heq | ⟨payload, h, -, -⟩ | ⟨id, terminal, _, _, _, h, -⟩
      · exact heq
      · exact absurd ⟨payload, h⟩ hoffer
      · rw [hterminal] at h
        exact absurd h (by simp)

/-- `offer` stands at the given place and is the first offer of its id. -/
structure FirstOfferAt (events front : List Event) (offer : Event)
    (payload : InvitationSentPayload) (back : List Event) : Prop where
  split : events = front ++ offer :: back
  offerOf : OfferOf offer payload
  first : ∀ event ∈ front, ∀ other, OfferOf event other →
    other.invitationId ≠ payload.invitationId

variable {payload : InvitationSentPayload}

theorem FirstOfferAt.append {events front back : List Event} {offer : Event}
    (h : FirstOfferAt events front offer payload back) (more : List Event) :
    FirstOfferAt (events ++ more) front offer payload (back ++ more) :=
  ⟨by rw [h.split]; simp, h.offerOf, h.first⟩

/-- There is one first offer of an id. -/
theorem FirstOfferAt.unique {events front back front' back' : List Event} {offer offer' : Event}
    {payload payload' : InvitationSentPayload} (h : FirstOfferAt events front offer payload back)
    (h' : FirstOfferAt events front' offer' payload' back')
    (hid : payload.invitationId = payload'.invitationId) :
    front = front' ∧ offer = offer' ∧ payload = payload' ∧ back = back' := by
  have hsplit := h.split.symm.trans h'.split
  have hlen : front.length = front'.length := by
    by_contra hne
    rcases Nat.lt_or_gt_of_ne hne with hlt | hgt
    · -- the first offer stands before the other one
      have hget := congrArg (fun l => l[front.length]?) hsplit
      rw [List.getElem?_append_right (Nat.le_refl _), List.getElem?_append_left hlt] at hget
      simp only [Nat.sub_self, List.getElem?_cons_zero] at hget
      exact h'.first offer (List.mem_of_getElem? hget.symm) payload h.offerOf hid
    · have hget := congrArg (fun l => l[front'.length]?) hsplit
      rw [List.getElem?_append_left hgt, List.getElem?_append_right (Nat.le_refl _)] at hget
      simp only [Nat.sub_self, List.getElem?_cons_zero] at hget
      exact h.first offer' (List.mem_of_getElem? hget) payload' h'.offerOf hid.symm
  obtain ⟨hfront, htail⟩ := List.append_inj hsplit hlen
  obtain ⟨hoffer, hback⟩ := List.cons.inj htail
  subst hoffer
  exact ⟨hfront, rfl, Except.ok.inj (h.offerOf.2.symm.trans h'.offerOf.2), hback⟩

/-- Every offer that parses has a record of its id. -/
theorem exists_record_of_offer (owner : PubKey) {events : List Event} {event : Event}
    (hmem : event ∈ events) (hoffer : OfferOf event payload) :
    ∃ record ∈ projectInvitations owner events, record.invitationId = payload.invitationId := by
  induction events using List.reverseRecOn with
  | nil => simp at hmem
  | append_singleton events last ih =>
    have hkeep : ∀ record ∈ projectInvitations owner events,
        ∃ record' ∈ projectInvitations owner (events ++ [last]),
          record'.invitationId = record.invitationId := by
      intro record hrecord
      refine ⟨respond owner last record, ?_,
        InvitationRecord.invitationId_of_asOffered (respond_asOffered owner last record)⟩
      rw [projectInvitations_snoc]
      rcases invitationStep_eq_map owner (invitation_ids_nodup owner events) last with
        ⟨heq, -⟩ | ⟨_, -, -, heq⟩ <;> rw [heq]
      · exact List.mem_map_of_mem hrecord
      · exact List.mem_append_left _ (List.mem_map_of_mem hrecord)
    rcases List.mem_append.mp hmem with hold | hnew
    · obtain ⟨record, hrecord, hid⟩ := ih hold
      obtain ⟨record', hrecord', hid'⟩ := hkeep record hrecord
      exact ⟨record', hrecord', hid'.trans hid⟩
    · rw [List.mem_singleton] at hnew
      subst hnew
      rcases invitationStep_eq_map owner (invitation_ids_nodup owner events) event with
        ⟨-, hknown⟩ | ⟨other, hother, -, heq⟩
      · obtain ⟨record, hrecord, hid⟩ := hknown payload hoffer
        obtain ⟨record', hrecord', hid'⟩ := hkeep record hrecord
        exact ⟨record', hrecord', hid'.trans hid⟩
      · have hpayload : other = payload := Except.ok.inj (hother.2.symm.trans hoffer.2)
        rw [projectInvitations_snoc, heq]
        exact ⟨offerRecord event other, by simp, by rw [hpayload]; rfl⟩

/-- **History of a record.** Each record is what the first offer of its id inserted, up to
    terminals, and it is pending as long as no later event closes it. -/
theorem record_history (owner : PubKey) {events : List Event} {record : InvitationRecord}
    (hmem : record ∈ projectInvitations owner events) :
    ∃ front offer payload back, FirstOfferAt events front offer payload back ∧
      record.asOffered = offerRecord offer payload ∧
      (record.status = .pending ↔
        ∀ event ∈ back, ¬ Closes owner (offerRecord offer payload) event) := by
  induction events using List.reverseRecOn generalizing record with
  | nil => simp [projectInvitations] at hmem
  | append_singleton events last ih =>
    have hold : ∀ r ∈ projectInvitations owner events, ∃ front offer payload back,
        FirstOfferAt (events ++ [last]) front offer payload back ∧
        (respond owner last r).asOffered = offerRecord offer payload ∧
        ((respond owner last r).status = .pending ↔
          ∀ event ∈ back, ¬ Closes owner (offerRecord offer payload) event) := by
      intro r hr
      obtain ⟨front, offer, payload, back, hfirst, hoffered, hpending⟩ := ih hr
      refine ⟨front, offer, payload, back ++ [last], hfirst.append [last],
        (respond_asOffered owner last r).trans hoffered, ?_⟩
      have hcloses : Closes owner r last ↔ Closes owner (offerRecord offer payload) last :=
        closes_congr (hoffered.trans rfl)
      rw [respond_pending_iff, hpending, hcloses]
      simp [or_imp, forall_and]
    rw [projectInvitations_snoc] at hmem
    rcases invitationStep_eq_map owner (invitation_ids_nodup owner events) last with
      ⟨heq, -⟩ | ⟨payload, hoffer, hfresh, heq⟩
    · rw [heq] at hmem
      obtain ⟨r, hr, rfl⟩ := List.mem_map.mp hmem
      exact hold r hr
    · rw [heq] at hmem
      rcases List.mem_append.mp hmem with hmem | hmem
      · obtain ⟨r, hr, rfl⟩ := List.mem_map.mp hmem
        exact hold r hr
      · rw [List.mem_singleton] at hmem
        refine ⟨events, last, payload, [], ⟨rfl, hoffer, ?_⟩, by rw [hmem]; rfl, ?_⟩
        · -- an earlier offer of the id would have left a record
          intro event hevent other hother hid
          obtain ⟨r, hr, hrid⟩ := exists_record_of_offer owner hevent hother
          exact hfresh r hr (hrid.trans hid)
        · rw [hmem]
          simp [offerRecord]

end Hivra
