import Hivra.Core.CurrentViews

namespace Hivra

open ByteString Replay

/-!
# One relationship at a time

The projection keeps all relationships in one list and searches it for each event.  An event
is about one key of a peer and an own starter, so each key has a projection of its own.

* `find_projected` — the list holds under a key what the projection of the key comes to.
-/

/-- A peer key and an own starter. -/
abbrev PairKey := PubKey × StarterId

/-- The key of a relationship. -/
def ProjectedRelationship.key (relationship : ProjectedRelationship) : PairKey :=
  (relationship.peerPubkey, relationship.ownStarterId)

/-- The key of a row. -/
def RelationshipCurrentItemV1.key (item : RelationshipCurrentItemV1) : PairKey :=
  (item.peerPubkey, item.ownStarterId)

/-- The key a break names. -/
def RelationshipBrokenPayload.key (broken : RelationshipBrokenPayload) : PairKey :=
  (broken.peerPubkey, broken.ownStarterId)

/-! ### What an event says -/

/-- The fact an establishment states. -/
def establishedOf (event : Event) : Option EstablishedFact :=
  match event.kind with
  | .relationshipEstablished => parseEstablishedFact event.payload
  | _ => none

/-- The break an event states. -/
def breakOf (event : Event) : Option RelationshipBrokenPayload :=
  match event.kind with
  | .relationshipBroken => (RelationshipBrokenPayload.fromBytes event.payload).toOption
  | _ => none

/-- The record of the invitation a fact names. -/
def invitationOf (records : List InvitationRecord) (fact : EstablishedFact) :
    Option InvitationRecord :=
  fact.invitationId.bind fun invitationId =>
    records.find? fun record => record.invitationId == invitationId

/-- The relationship an establishment brings in, unless its invitation is dead or it is
    about the owner itself. -/
def takenRelationship (owner : PubKey) (localTransport : Option PubKey)
    (records : List InvitationRecord) (fact : EstablishedFact) (timestamp : Timestamp) :
    Option ProjectedRelationship :=
  let invitation := invitationOf records fact
  let relationship := establishedRelationship owner localTransport invitation fact timestamp
  if invitation.any InvitationRecord.isDead ∨ relationship.peerRootPubkey = some owner ∨
      localTransport = some relationship.peerPubkey then none
  else some relationship

/-- What an event makes of the relationship of a key. -/
def keyStep (owner : PubKey) (localTransport : Option PubKey) (records : List InvitationRecord)
    (key : PairKey) (current : Option ProjectedRelationship) (event : Event) :
    Option ProjectedRelationship :=
  match establishedOf event, breakOf event with
  | some fact, _ =>
    match takenRelationship owner localTransport records fact event.timestamp with
    | some relationship => if relationship.key = key then some relationship else current
    | none => current
  | none, some broken =>
    if broken.key = key then
      current.map (breakRelationshipWith owner localTransport broken event)
    else current
  | none, none => current

/-- No event is both. -/
theorem breakOf_eq_none {event : Event} {fact : EstablishedFact}
    (h : establishedOf event = some fact) : breakOf event = none := by
  unfold establishedOf at h
  unfold breakOf
  cases hkind : event.kind <;> simp_all

/-! ### What a break does -/

section Break

variable (owner : PubKey) (localTransport : Option PubKey) (broken : RelationshipBrokenPayload)
  (event : Event)

/-- The signer is the owner of the ledger or its transport key. -/
def LocalSigner : Prop := event.signer = owner ∨ localTransport = some event.signer

instance : Decidable (LocalSigner owner localTransport event) := by
  unfold LocalSigner
  infer_instance

/-- The signer is the peer under its transport key, or under the root that both the break and
    the relationship name. -/
def PeerSigner (peerPubkey : PubKey) (peerRootPubkey : Option PubKey) : Prop :=
  event.signer = peerPubkey ∨
    (broken.peerRootPubkey = some event.signer ∧ peerRootPubkey = some event.signer)

instance (peerPubkey : PubKey) (peerRootPubkey : Option PubKey) :
    Decidable (PeerSigner broken event peerPubkey peerRootPubkey) := by
  unfold PeerSigner
  infer_instance

/-- The relationship is over for the owner. -/
def ProjectedRelationship.IsBroken (relationship : ProjectedRelationship) : Prop :=
  relationship.isActive = false ∧ relationship.hasPendingRemoteBreak = false

/-- **Case rule.** A break that is dated before the relationship or has a foreign signer does
    nothing; a local one ends it; one of the peer waits, unless it is over. -/
theorem breakRelationshipWith_cases (current : ProjectedRelationship) :
    ((event.timestamp < current.establishedAt ∨ ¬ LocalSigner owner localTransport event ∧
        ¬ PeerSigner broken event current.peerPubkey current.peerRootPubkey) ∧
      breakRelationshipWith owner localTransport broken event current = current) ∨
    (current.establishedAt ≤ event.timestamp ∧ LocalSigner owner localTransport event ∧
      breakRelationshipWith owner localTransport broken event current
        = { current with isActive := false, hasPendingRemoteBreak := false }) ∨
    (current.establishedAt ≤ event.timestamp ∧ ¬ LocalSigner owner localTransport event ∧
      PeerSigner broken event current.peerPubkey current.peerRootPubkey ∧
      (current.IsBroken ∧ breakRelationshipWith owner localTransport broken event current = current ∨
        ¬ current.IsBroken ∧ breakRelationshipWith owner localTransport broken event current
          = { current with isActive := true, hasPendingRemoteBreak := true })) := by
  have hlocal : (event.signer == owner || localTransport == some event.signer) = true ↔
      LocalSigner owner localTransport event := by simp [LocalSigner]
  have hpeer : (event.signer == current.peerPubkey || (broken.peerRootPubkey == some event.signer &&
      current.peerRootPubkey == some event.signer)) = true ↔
      PeerSigner broken event current.peerPubkey current.peerRootPubkey := by simp [PeerSigner]
  unfold breakRelationshipWith
  dsimp only
  by_cases hearly : event.timestamp < current.establishedAt
  · rw [if_pos hearly]
    exact Or.inl ⟨Or.inl hearly, rfl⟩
  have hlate : current.establishedAt ≤ event.timestamp := UInt64.not_lt.mp hearly
  rw [if_neg hearly]
  by_cases hl : LocalSigner owner localTransport event
  · -- a local signer ends it, whoever else it may be
    rw [hlocal.mpr hl]
    exact Or.inr (Or.inl ⟨hlate, hl, by simp⟩)
  rw [Bool.eq_false_iff.mpr fun h => hl (hlocal.mp h)]
  by_cases hp : PeerSigner broken event current.peerPubkey current.peerRootPubkey
  · rw [hpeer.mpr hp]
    refine Or.inr (Or.inr ⟨hlate, hl, hp, ?_⟩)
    by_cases hover : current.IsBroken
    · exact Or.inl ⟨hover, by simp [hover.1, hover.2]⟩
    · refine Or.inr ⟨hover, ?_⟩
      unfold ProjectedRelationship.IsBroken at hover
      simp [hover]
  · rw [Bool.eq_false_iff.mpr fun h => hp (hpeer.mp h)]
    exact Or.inl ⟨Or.inr ⟨hl, hp⟩, by simp⟩

/-- A break changes the two flags and nothing else. -/
theorem breakRelationshipWith_eq (current : ProjectedRelationship) :
    ∃ active pending, breakRelationshipWith owner localTransport broken event current
      = { current with isActive := active, hasPendingRemoteBreak := pending } := by
  rcases breakRelationshipWith_cases owner localTransport broken event current with
    ⟨-, h⟩ | ⟨-, -, h⟩ | ⟨-, -, -, ⟨-, h⟩ | ⟨-, h⟩⟩ <;> rw [h]
  · exact ⟨current.isActive, current.hasPendingRemoteBreak, rfl⟩
  · exact ⟨false, false, rfl⟩
  · exact ⟨current.isActive, current.hasPendingRemoteBreak, rfl⟩
  · exact ⟨true, true, rfl⟩

theorem breakRelationshipWith_key (current : ProjectedRelationship) :
    (breakRelationshipWith owner localTransport broken event current).key = current.key := by
  obtain ⟨active, pending, h⟩ :=
    breakRelationshipWith_eq owner localTransport broken event current
  rw [h]
  rfl

theorem breakRelationshipWith_establishedAt (current : ProjectedRelationship) :
    (breakRelationshipWith owner localTransport broken event current).establishedAt
      = current.establishedAt := by
  obtain ⟨active, pending, h⟩ :=
    breakRelationshipWith_eq owner localTransport broken event current
  rw [h]

variable {current : ProjectedRelationship}

/-- What is over stays over. -/
theorem breakRelationshipWith_of_broken (h : current.IsBroken) :
    (breakRelationshipWith owner localTransport broken event current).IsBroken := by
  rcases breakRelationshipWith_cases owner localTransport broken event current with
    ⟨-, heq⟩ | ⟨-, -, heq⟩ | ⟨-, -, -, ⟨-, heq⟩ | ⟨hover, -⟩⟩
  · rwa [heq]
  · rw [heq]
    exact ⟨rfl, rfl⟩
  · rwa [heq]
  · exact absurd h hover

/-- Only a local break ends a relationship. -/
theorem local_of_broken
    (h : (breakRelationshipWith owner localTransport broken event current).IsBroken) :
    current.IsBroken ∨ LocalSigner owner localTransport event := by
  rcases breakRelationshipWith_cases owner localTransport broken event current with
    ⟨-, heq⟩ | ⟨-, hl, -⟩ | ⟨-, -, -, ⟨hover, -⟩ | ⟨-, heq⟩⟩
  · rw [heq] at h
    exact Or.inl h
  · exact Or.inr hl
  · exact Or.inl hover
  · rw [heq] at h
    exact absurd h.1 (by simp)

end Break

/-! ### The projection of a key -/

section Projection

variable {owner : PubKey} {localTransport : Option PubKey} {records : List InvitationRecord}

/-- One step of the projection, by what the event says. -/
theorem relationshipStep_eq (projected : List ProjectedRelationship) (event : Event) :
    relationshipStep owner localTransport records projected event =
      match establishedOf event, breakOf event with
      | some fact, _ => establishStep owner localTransport records projected fact event.timestamp
      | none, some broken => updateFirst (fun current => current.key == broken.key)
          (breakRelationshipWith owner localTransport broken event) projected
      | none, none => projected := by
  unfold relationshipStep establishedOf breakOf
  cases hkind : event.kind with
  | relationshipEstablished => cases parseEstablishedFact event.payload <;> rfl
  | relationshipBroken => cases RelationshipBrokenPayload.fromBytes event.payload <;> rfl
  | _ => rfl

/-- An establishment that is taken replaces its key or adds it. -/
theorem establishStep_eq (projected : List ProjectedRelationship) (fact : EstablishedFact)
    (timestamp : Timestamp) :
    establishStep owner localTransport records projected fact timestamp =
      match takenRelationship owner localTransport records fact timestamp with
      | none => projected
      | some relationship =>
        if projected.any fun current => current.key == relationship.key then
          updateFirst (fun current => current.key == relationship.key) (fun _ => relationship)
            projected
        else projected ++ [relationship] := by
  unfold establishStep takenRelationship invitationOf
  generalize (fact.invitationId.bind fun invitationId => records.find? fun record =>
    record.invitationId == invitationId) = invitation
  dsimp only
  by_cases hdead : invitation.any InvitationRecord.isDead = true
  · rw [if_pos hdead, if_pos (Or.inl hdead)]
  rw [if_neg hdead]
  generalize establishedRelationship owner localTransport invitation fact timestamp = relationship
  by_cases hself : relationship.peerRootPubkey = some owner ∨
      localTransport = some relationship.peerPubkey
  · rw [if_pos hself, if_pos (Or.inr hself)]
  · rw [if_neg hself, if_neg (not_or.mpr ⟨hdead, hself⟩)]
    rfl

/-- One step of the projection, seen under one key. -/
theorem find_relationshipStep (projected : List ProjectedRelationship) (event : Event)
    (key : PairKey) :
    (relationshipStep owner localTransport records projected event).find?
        (fun current => current.key == key)
      = keyStep owner localTransport records key
          (projected.find? fun current => current.key == key) event := by
  rw [relationshipStep_eq]
  unfold keyStep
  split
  · rename_i fact _
    rw [establishStep_eq]
    cases htaken : takenRelationship owner localTransport records fact event.timestamp with
    | none => rfl
    | some relationship =>
      dsimp only
      by_cases hknown : projected.any (fun current => current.key == relationship.key) = true
      · have hfind := @find_key_updateFirst _ _ (fun _ => relationship) projected _ _ _
          ProjectedRelationship.key relationship.key (fun _ _ => rfl) key
        rw [if_pos hknown, hfind]
        by_cases hkey : relationship.key = key
        · -- the entry that is replaced is the one the search finds
          rw [if_pos hkey, if_pos hkey]
          cases hfound : projected.find? fun current => current.key == key with
          | some current => rfl
          | none =>
            obtain ⟨current, hcurrent, hsame⟩ := List.any_eq_true.mp hknown
            have hnot := List.find?_eq_none.mp hfound current hcurrent
            rw [← hkey] at hnot
            exact absurd hsame hnot
        · rw [if_neg hkey, if_neg hkey]
      · rw [if_neg hknown, List.find?_append]
        by_cases hkey : relationship.key = key
        · have hnone : projected.find? (fun current => current.key == key) = none := by
            rw [List.find?_eq_none]
            intro current hcurrent hsame
            rw [← hkey] at hsame
            exact hknown (List.any_eq_true.mpr ⟨current, hcurrent, hsame⟩)
          simp [hnone, hkey]
        · simp [hkey]
  · rename_i broken _ _
    have hfind := @find_key_updateFirst _ _ (breakRelationshipWith owner localTransport broken event)
      projected _ _ _ ProjectedRelationship.key broken.key (fun current hcurrent => by
        rw [breakRelationshipWith_key]
        exact hcurrent) key
    exact hfind
  · rfl

/-- **Each key is projected on its own.** -/
theorem find_projected (events : List Event) (key : PairKey) :
    (replay (relationshipStep owner localTransport records) [] events).find?
        (fun current => current.key == key)
      = replay (keyStep owner localTransport records key) none events := by
  induction events using List.reverseRecOn with
  | nil => rfl
  | append_singleton events event ih =>
    rw [replay_snoc, replay_snoc, find_relationshipStep, ih]

/-- No two relationships have one key. -/
theorem relationship_keys_nodup (events : List Event) :
    ((replay (relationshipStep owner localTransport records) [] events).map
      ProjectedRelationship.key).Nodup := by
  refine replay_invariant (P := fun projected : List ProjectedRelationship =>
    (projected.map ProjectedRelationship.key).Nodup) List.nodup_nil ?_
  intro projected event _ hnodup
  rw [relationshipStep_eq]
  split
  · rename_i fact _
    rw [establishStep_eq]
    split
    · exact hnodup
    · rename_i relationship _
      split_ifs with hknown
      · rw [map_updateFirst ProjectedRelationship.key fun current hcurrent =>
          (beq_iff_eq.mp hcurrent).symm]
        exact hnodup
      · rw [List.map_append, List.nodup_append]
        refine ⟨hnodup, by simp, ?_⟩
        intro key hkey key' hkey' heq
        obtain ⟨current, hcurrent, rfl⟩ := List.mem_map.mp hkey
        rw [List.map_singleton, List.mem_singleton] at hkey'
        exact hknown (List.any_eq_true.mpr ⟨current, hcurrent, by simp [heq, hkey']⟩)
  · rw [map_updateFirst ProjectedRelationship.key fun current _ =>
      breakRelationshipWith_key owner localTransport _ event current]
    exact hnodup
  · exact hnodup

end Projection

/-! ### The row of a key -/

/-- The relationship of a key in a ledger. -/
def relationshipAt (ledger : Ledger) (localTransport : Option PubKey) (key : PairKey) :
    Option ProjectedRelationship :=
  replay (keyStep ledger.owner localTransport (invitationsWithStatus ledger) key) none
    ledger.events

/-- The row of a key in the view. -/
def relationshipItem (ledger : Ledger) (localTransport : Option PubKey) (key : PairKey) :
    Option RelationshipCurrentItemV1 :=
  (relationshipCurrentViewV1 ledger localTransport).relationships.find? fun item =>
    item.key == key

/-- The sorted projection holds under a key the relationship of the key. -/
theorem find_projectRelationships (ledger : Ledger) (localTransport : Option PubKey)
    (key : PairKey) :
    (projectRelationships ledger localTransport).find? (fun current => current.key == key)
      = relationshipAt ledger localTransport key := by
  unfold projectRelationships relationshipAt
  rw [find_key_perm (relationship_keys_nodup ledger.events) (List.mergeSort_perm _ _).symm,
    find_projected]

/-- **The row of a key is that of its own projection.** -/
theorem relationshipItem_eq (ledger : Ledger) (localTransport : Option PubKey) (key : PairKey) :
    relationshipItem ledger localTransport key =
      (relationshipAt ledger localTransport key).map
        (relationshipCurrentItem (projectRelationships ledger localTransport)) := by
  rw [← find_projectRelationships]
  exact List.find?_map

/-- The rows of a view have different keys. -/
theorem relationshipItem_eq_some {ledger : Ledger} {localTransport : Option PubKey}
    {key : PairKey} {item : RelationshipCurrentItemV1} :
    relationshipItem ledger localTransport key = some item ↔
      item ∈ (relationshipCurrentViewV1 ledger localTransport).relationships ∧ item.key = key := by
  apply find_key_eq_some
  have hkeys : (relationshipCurrentViewV1 ledger localTransport).relationships.map
        RelationshipCurrentItemV1.key
      = (projectRelationships ledger localTransport).map ProjectedRelationship.key :=
    List.map_map
  rw [hkeys]
  exact ((List.mergeSort_perm _ _).map ProjectedRelationship.key).nodup_iff.mpr
    (relationship_keys_nodup ledger.events)

end Hivra
