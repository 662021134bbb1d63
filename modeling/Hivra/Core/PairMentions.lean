import Hivra.Core.BreakStatus
import Hivra.Core.PairView

namespace Hivra

open ByteString Replay

/-!
# What an event mentions

The keys and the invitations in an event, and what the event can do to the records of
invitations: it leaves those alone that it does not name, and a root that it brings is one
that it mentions.
-/

/-! ### What an event mentions -/

/-- The keys that an event mentions: its signer and the keys in its payload. -/
def mentionedKeys (event : Event) : List PubKey :=
  event.signer ::
    match event.kind with
    | .invitationSent | .invitationReceived =>
      match InvitationSentPayload.fromBytes event.payload with
      | .error _ => []
      | .ok payload => payload.toPubkey :: payload.senderRootPubkey.toList ++
          (invitationSenderTransport event.payload).toList
    | .invitationAccepted =>
      match InvitationAcceptedPayload.fromBytes event.payload with
      | .error _ => []
      | .ok payload => payload.fromPubkey :: payload.accepterRootPubkey.toList
    | .relationshipEstablished =>
      match parseEstablishedFact event.payload with
      | none => []
      | some fact => fact.peerPubkey :: fact.senderPubkey.toList ++ fact.peerRootPubkey.toList ++
          fact.senderRootPubkey.toList
    | .relationshipBroken =>
      match RelationshipBrokenPayload.fromBytes event.payload with
      | .error _ => []
      | .ok payload => payload.peerPubkey :: payload.peerRootPubkey.toList
    | _ => []

/-- The invitations that an event names, an establishment as its lineage. -/
def mentionedInvitations (event : Event) : List InvitationId :=
  match event.kind with
  | .invitationSent | .invitationReceived =>
    match InvitationSentPayload.fromBytes event.payload with
    | .error _ => []
    | .ok payload => [payload.invitationId]
  | .invitationAccepted | .invitationRejected | .invitationExpired =>
    match terminalStatus event.kind event.payload with
    | none => []
    | some (invitationId, _) => [invitationId]
  | .relationshipEstablished =>
    match parseEstablishedFact event.payload with
    | none => []
    | some fact => fact.invitationId.toList
  | _ => []

/-- The event mentions no key and no invitation of the given ones. -/
structure KeepsOff (event : Event) (keys : PubKey → Prop) (invitations : InvitationId → Prop) :
    Prop where
  keys : ∀ key ∈ mentionedKeys event, ¬ keys key
  invitations : ∀ id ∈ mentionedInvitations event, ¬ invitations id

/-! ### What mentions what -/

section Mentions

variable {event : Event}

theorem mentioned_of_offer {payload : InvitationSentPayload} (h : OfferOf event payload) :
    payload.invitationId ∈ mentionedInvitations event ∧ payload.toPubkey ∈ mentionedKeys event ∧
      (∀ root, payload.senderRootPubkey = some root → root ∈ mentionedKeys event) ∧
      ∀ transport, invitationSenderTransport event.payload = some transport →
        transport ∈ mentionedKeys event := by
  unfold mentionedInvitations mentionedKeys
  rcases h.1 with hkind | hkind
  all_goals
    rw [hkind]
    dsimp only
    rw [h.2]
    refine ⟨by simp, by simp, ?_, ?_⟩
    · intro root hroot
      simp [hroot]
    · intro transport htransport
      simp [htransport]

theorem mentioned_of_terminal {id : InvitationId} {terminal : InvitationStatus}
    (h : terminalStatus event.kind event.payload = some (id, terminal)) :
    id ∈ mentionedInvitations event := by
  unfold mentionedInvitations
  cases hkind : event.kind <;> rw [hkind] at h
  case invitationAccepted | invitationRejected | invitationExpired =>
    dsimp only
    rw [h]
    exact List.mem_singleton_self id
  all_goals cases h

theorem mentioned_of_accepted {id : InvitationId} {starterId : StarterId} {fromPubkey root : PubKey}
    (h : terminalStatus event.kind event.payload
      = some (id, .accepted starterId fromPubkey (some root))) : root ∈ mentionedKeys event := by
  unfold mentionedKeys
  unfold terminalStatus at h
  cases hkind : event.kind <;> rw [hkind] at h <;> dsimp only at h
  case invitationAccepted =>
    dsimp only
    cases hparse : InvitationAcceptedPayload.fromBytes event.payload with
    | error _ => simp [hparse] at h
    | ok payload =>
      simp only [hparse, Option.some.injEq, Prod.mk.injEq, InvitationStatus.accepted.injEq] at h
      simp [h.2.2.2]
  case invitationRejected => split at h <;> simp at h
  case invitationExpired => split at h <;> simp at h
  all_goals cases h

/-- The root of the other side is one of the two roots. -/
theorem resolvePeerRoot_some {peerRoot senderRoot : Option PubKey} {owner root : PubKey}
    (h : resolvePeerRoot peerRoot senderRoot owner = some root) :
    peerRoot = some root ∨ senderRoot = some root := by
  unfold resolvePeerRoot at h
  split at h
  · exact Or.inr h
  · split_ifs at h
    · exact Or.inr h
    · exact Or.inl h
    · exact Or.inl h
  · exact Or.inl h

theorem mentioned_of_established {fact : EstablishedFact} (h : establishedOf event = some fact)
    (owner : PubKey) (timestamp : Timestamp) :
    (orientEstablished fact owner timestamp).peerPubkey ∈ mentionedKeys event ∧
      (∀ root, (orientEstablished fact owner timestamp).peerRootPubkey = some root →
        root ∈ mentionedKeys event) ∧
      ∀ id, fact.invitationId = some id → id ∈ mentionedInvitations event := by
  unfold establishedOf at h
  split at h
  case h_2 => cases h
  rename_i hkind
  have hkeys : ∀ key, key = fact.peerPubkey ∨ fact.senderPubkey = some key ∨
      fact.peerRootPubkey = some key ∨ fact.senderRootPubkey = some key →
      key ∈ mentionedKeys event := by
    intro key hkey
    unfold mentionedKeys
    rw [hkind]
    dsimp only
    rw [h]
    simp only [List.mem_cons, List.mem_append, Option.mem_toList]
    tauto
  refine ⟨hkeys _ ?_, ?_, ?_⟩
  · unfold orientEstablished
    dsimp only
    split
    · exact Or.inl rfl
    · rename_i sender hsender
      split_ifs
      · exact Or.inr (Or.inl hsender)
      · exact Or.inl rfl
  · intro root hroot
    have hresolved : resolvePeerRoot fact.peerRootPubkey fact.senderRootPubkey owner = some root := by
      rw [← hroot]
      unfold orientEstablished
      dsimp only
      split
      · rfl
      · split_ifs <;> rfl
    apply hkeys
    rcases resolvePeerRoot_some hresolved with hpeer | hsender
    · exact Or.inr (Or.inr (Or.inl hpeer))
    · exact Or.inr (Or.inr (Or.inr hsender))
  · intro id hid
    unfold mentionedInvitations
    rw [hkind]
    dsimp only
    rw [h]
    simp [hid]

theorem mentioned_of_break {broken : RelationshipBrokenPayload} (h : breakOf event = some broken) :
    broken.peerPubkey ∈ mentionedKeys event := by
  unfold breakOf at h
  split at h
  case h_2 => cases h
  rename_i hkind
  unfold mentionedKeys
  rw [hkind]
  dsimp only
  cases hparse : RelationshipBrokenPayload.fromBytes event.payload with
  | error _ => simp [hparse, Except.toOption] at h
  | ok payload =>
    rw [hparse] at h
    rw [Option.some.inj h]
    simp

end Mentions

/-! ### Records -/

section Records

variable {owner : PubKey} {localTransport : Option PubKey} {event : Event}

/-- What an event does to a record. -/
theorem respond_cases (owner : PubKey) (event : Event) (record : InvitationRecord) :
    respond owner event record = record ∨
    (∃ flag, respond owner event record = { record with hasLocalTerminal := flag }) ∨
    ∃ terminal flag,
      terminalStatus event.kind event.payload = some (record.invitationId, terminal) ∧
      (record.status = .pending ∨ record.direction = .incoming) ∧
      respond owner event record = { record with
        hasLocalTerminal := flag
        status := terminal
        respondedAt := some event.timestamp
        respondedSigner := some event.signer } := by
  unfold respond
  cases hterminal : terminalStatus event.kind event.payload with
  | none => exact Or.inl rfl
  | some named =>
    obtain ⟨id, terminal⟩ := named
    dsimp only
    split_ifs with hid
    · subst hid
      rcases applyTerminal_cases owner event terminal record with
        ⟨-, -, heq⟩ | ⟨-, flag, -, ⟨heq, -⟩ | ⟨hwhen, heq⟩⟩
      · exact Or.inl heq
      · exact Or.inr (Or.inl ⟨flag, heq⟩)
      · refine Or.inr (Or.inr ⟨terminal, flag, rfl, ?_, heq⟩)
        rcases hwhen with hpending | ⟨hincoming, -⟩
        · exact Or.inl hpending
        · exact Or.inr hincoming
    · exact Or.inl rfl

variable {record : InvitationRecord}

/-- An event leaves the records of other invitations alone. -/
theorem respond_of_other (h : record.invitationId ∉ mentionedInvitations event) :
    respond owner event record = record := by
  unfold respond
  cases hterminal : terminalStatus event.kind event.payload with
  | none => rfl
  | some named =>
    dsimp only
    rw [if_neg]
    rintro hid
    exact h (hid ▸ mentioned_of_terminal hterminal)

variable {records : List InvitationRecord} {id : InvitationId}

/-- The record of another invitation is found as before. -/
theorem find_record_other (h : id ∉ mentionedInvitations event) :
    (invitationStep owner records event).find? (fun record => record.invitationId == id)
      = records.find? fun record => record.invitationId == id := by
  rcases invitationStep_cases owner records event with
    heq | ⟨payload, hoffer, -, heq⟩ | ⟨other, terminal, front, record, back, hterminal, hsplit, -,
      hid, heq⟩
  · rw [heq]
  · have hne : payload.invitationId ≠ id := by
      rintro rfl
      exact h (mentioned_of_offer hoffer).1
    rw [heq, List.find?_append]
    simp [offerRecord, hne]
  · have hne : record.invitationId ≠ id := by
      rintro rfl
      exact h (hid ▸ mentioned_of_terminal hterminal)
    have hold : (record.invitationId == id) = false := by simpa using hne
    have hnew : ((applyTerminal owner event terminal record).invitationId == id) = false := by
      rw [applyTerminal_invitationId, hold]
    rw [heq, hsplit, List.find?_append, List.find?_append, List.find?_cons, List.find?_cons, hold,
      hnew]

/-- The other side of an invitation after an event: its transport key is as before, a root that
    was known is known, and one that was not is mentioned. -/
theorem invitationPeer_respond (record : InvitationRecord) :
    (invitationPeer (respond owner event record)).1 = (invitationPeer record).1 ∧
      (∀ root, (invitationPeer record).2 = some root →
        (invitationPeer (respond owner event record)).2 = some root) ∧
      ∀ root, (invitationPeer (respond owner event record)).2 = some root →
        (invitationPeer record).2 = some root ∨ root ∈ mentionedKeys event := by
  rcases respond_cases owner event record with
    heq | ⟨flag, heq⟩ | ⟨terminal, flag, hterminal, hwhen, heq⟩
  · rw [heq]
    exact ⟨rfl, fun _ h => h, fun _ h => Or.inl h⟩
  · rw [heq]
    exact ⟨rfl, fun _ h => h, fun _ h => Or.inl h⟩
  · rw [heq]
    unfold invitationPeer
    cases hdirection : record.direction with
    | incoming => exact ⟨rfl, fun _ h => h, fun _ h => Or.inl h⟩
    | outgoing =>
      -- an outgoing invitation changes while it is pending, and then no root is known
      have hpending : record.status = .pending := by
        rcases hwhen with hpending | hincoming
        · exact hpending
        · rw [hdirection] at hincoming
          cases hincoming
      dsimp only
      rw [hpending]
      refine ⟨rfl, fun _ hnone => absurd hnone (by simp), ?_⟩
      intro root hroot
      cases terminal with
      | accepted starterId fromPubkey accepterRoot =>
        dsimp only at hroot
        rw [hroot] at hterminal
        exact Or.inr (mentioned_of_accepted hterminal)
      | pending => cases hroot
      | rejected reason => cases hroot
      | expired => cases hroot

variable {root : PubKey}

/-- A root that a relationship takes from an invitation is the root of its other side. -/
theorem peer_of_rootOfInvitation (h : rootOfInvitation owner localTransport record = some root) :
    (invitationPeer record).2 = some root := by
  unfold rootOfInvitation at h
  unfold invitationPeer
  cases hdirection : record.direction <;> cases hstatus : record.status <;>
    rw [hdirection, hstatus] at h <;> dsimp only at h ⊢ <;> first
    | exact h
    | cases h
    | skip
  split_ifs at h
  exact h

/-- A root that an event gives to an invitation is mentioned, or it was known. -/
theorem rootOfInvitation_respond
    (h : rootOfInvitation owner localTransport (respond owner event record) = some root) :
    root ∈ mentionedKeys event ∨ rootOfInvitation owner localTransport record = some root := by
  rcases respond_cases owner event record with
    heq | ⟨flag, heq⟩ | ⟨terminal, flag, hterminal, hwhen, heq⟩
  · rw [heq] at h
    exact Or.inr h
  · rw [heq] at h
    exact Or.inr h
  · cases hdirection : record.direction with
    | incoming =>
      rw [heq] at h
      unfold rootOfInvitation at h ⊢
      rw [hdirection] at h ⊢
      exact Or.inr h
    | outgoing =>
      have hpeer := peer_of_rootOfInvitation h
      rcases (@invitationPeer_respond owner event record).2.2 root hpeer with hknown | hmentioned
      · -- what was known was accepted before, and stays as it was
        have hpending : record.status = .pending := by
          rcases hwhen with hpending | hincoming
          · exact hpending
          · rw [hdirection] at hincoming
            cases hincoming
        unfold invitationPeer at hknown
        rw [hdirection, hpending] at hknown
        cases hknown
      · exact Or.inl hmentioned

/-- A record that an event brings in is that of its offer. -/
theorem find_record_new (hnone : records.find? (fun record => record.invitationId == id) = none)
    (h : (invitationStep owner records event).find? (fun record => record.invitationId == id)
      = some record) : ∃ payload, OfferOf event payload ∧ record = offerRecord event payload := by
  rcases invitationStep_cases owner records event with
    heq | ⟨payload, hoffer, -, heq⟩ | ⟨other, terminal, front, old, back, -, hsplit, -, -, heq⟩
  · rw [heq, hnone] at h
    cases h
  · rw [heq, List.find?_append, hnone, Option.none_or] at h
    have hmem := List.mem_of_find?_eq_some h
    exact ⟨payload, hoffer, List.mem_singleton.mp hmem⟩
  · -- the ids of the records are as before
    exfalso
    have hids : ∀ other ∈ records, other.invitationId ≠ id := by
      intro other hother
      simpa using List.find?_eq_none.mp hnone other hother
    have hid : record.invitationId = id := by simpa using List.find?_some h
    have hmem := List.mem_of_find?_eq_some h
    rw [heq] at hmem
    rw [hsplit] at hids
    rcases List.mem_append.mp hmem with hfront | hrest
    · exact hids record (by simp [hfront]) hid
    · rcases List.mem_cons.mp hrest with rfl | hback
      · rw [applyTerminal_invitationId] at hid
        exact hids old (by simp) hid
      · exact hids record (by simp [hback]) hid

/-- A root that an offer gives to its record is mentioned. -/
theorem mentioned_of_offerRecord {payload : InvitationSentPayload} (hoffer : OfferOf event payload)
    (h : (invitationPeer (offerRecord event payload)).2 = some root) :
    root ∈ mentionedKeys event := by
  unfold invitationPeer at h
  split at h
  · exact (mentioned_of_offer hoffer).2.2.1 root h
  · cases h

/-- A root that an invitation has after an event is mentioned, or the invitation had it. -/
theorem root_of_step (hnodup : (records.map InvitationRecord.invitationId).Nodup)
    (hfound : (invitationStep owner records event).find? (fun record => record.invitationId == id)
      = some record) (hroot : rootOfInvitation owner localTransport record = some root) :
    root ∈ mentionedKeys event ∨ ∃ before,
      records.find? (fun record => record.invitationId == id) = some before ∧
      rootOfInvitation owner localTransport before = some root := by
  cases hbefore : records.find? fun record => record.invitationId == id with
  | none =>
    obtain ⟨payload, hoffer, rfl⟩ := find_record_new hbefore hfound
    exact Or.inl (mentioned_of_offerRecord hoffer (peer_of_rootOfInvitation hroot))
  | some before =>
    rw [find_record_step hnodup hbefore] at hfound
    rw [← Option.some.inj hfound] at hroot
    rcases rootOfInvitation_respond hroot with hmentioned | hknown
    · exact Or.inl hmentioned
    · exact Or.inr ⟨before, rfl, hknown⟩

end Records

end Hivra
