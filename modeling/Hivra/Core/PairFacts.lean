import Hivra.Core.BreakStatus
import Hivra.Core.PairView

namespace Hivra

open ByteString Replay

/-!
# The facts of a pair

Which relationship facts the view of a pair shows.  An invitation adds no fact, and a row adds
its own as long as it is not broken.

* `showsFact_iff` — the facts of a peer are those of its live rows.
-/

/-- The fact is an active relationship with the peer. -/
def ShowsFact (ledger : Ledger) (localTransport : Option PubKey) (peer : PubKey)
    (fact : PairRelationshipV1) : Prop :=
  ∃ item, pairOf ledger localTransport peer = some item ∧ fact ∈ item.activeRelationships

/-- The row is active, or only the peer has broken it. -/
def RelationshipCurrentItemV1.IsLive (relationship : RelationshipCurrentItemV1) : Prop :=
  relationship.status = "active" ∨ relationship.status = "pending_remote_break"

/-! ### What is gathered -/

/-- An invitation adds no fact. -/
theorem PairAccumulator.addInvitation_facts (table : List (PubKey × PubKey))
    (record : InvitationRecord) (pair : PairAccumulator) :
    (pair.addInvitation table record).activeRelationships = pair.activeRelationships := by
  unfold addInvitation
  dsimp only
  split_ifs <;> rfl

/-- A row adds its fact when it is live. -/
theorem PairAccumulator.addRelationship_facts (relationship : RelationshipCurrentItemV1)
    (pair : PairAccumulator) (fact : PairRelationshipV1) :
    fact ∈ (pair.addRelationship relationship).activeRelationships ↔
      fact ∈ pair.activeRelationships ∨ (relationship.IsLive ∧ relationship.fact = fact) := by
  unfold addRelationship
  dsimp only
  by_cases hlive : relationship.IsLive
  · have hshown : fact ∈ pushUnique pair.activeRelationships relationship.fact ↔
        fact ∈ pair.activeRelationships ∨ (relationship.IsLive ∧ relationship.fact = fact) := by
      rw [mem_pushUnique]
      simp [hlive, eq_comm]
    rw [if_pos (show relationship.status = "active" ∨
      relationship.status = "pending_remote_break" from hlive)]
    split_ifs
    · exact hshown
    · exact hshown
  · have hsame : fact ∈ pair.activeRelationships ↔
        fact ∈ pair.activeRelationships ∨ (relationship.IsLive ∧ relationship.fact = fact) := by
      simp [hlive]
    rw [if_neg (show ¬ (relationship.status = "active" ∨
      relationship.status = "pending_remote_break") from hlive)]
    split_ifs
    · exact hsame
    · exact hsame

/-- The facts behind the loop over the rows. -/
theorem facts_of_rows (rows : List RelationshipCurrentItemV1) (fact : PairRelationshipV1) :
    fact ∈ ((replay (fun pair row =>
        some (PairAccumulator.addRelationship row (pair.getD {}))) none rows).getD
          {}).activeRelationships ↔
      ∃ row ∈ rows, row.IsLive ∧ row.fact = fact := by
  induction rows using List.reverseRecOn with
  | nil => simp
  | append_singleton rows row ih =>
    rw [replay_snoc, Option.getD_some, PairAccumulator.addRelationship_facts, ih]
    simp only [List.mem_append, List.mem_singleton, or_and_right, exists_or, exists_eq_left]

/-- The loop over the records leaves the facts alone. -/
theorem facts_of_records (table : List (PubKey × PubKey)) (start : Option PairAccumulator)
    (records : List InvitationRecord) :
    ((replay (fun pair record =>
        some (PairAccumulator.addInvitation table record (pair.getD {}))) start records).getD
          {}).activeRelationships = (start.getD {}).activeRelationships := by
  induction records using List.reverseRecOn with
  | nil => rfl
  | append_singleton records record ih =>
    rw [replay_snoc, Option.getD_some, PairAccumulator.addInvitation_facts, ih]

/-- **The facts of a peer.** -/
theorem showsFact_iff (ledger : Ledger) (localTransport : Option PubKey) (peer : PubKey)
    (fact : PairRelationshipV1) :
    ShowsFact ledger localTransport peer fact ↔
      ∃ row ∈ pairRows ledger localTransport peer, row.IsLive ∧ row.fact = fact := by
  have hgathered : ∀ pair : Option PairAccumulator,
      (∃ item, pair.map (pairItem ledger.owner localTransport peer) = some item ∧
        fact ∈ item.activeRelationships) ↔ fact ∈ (pair.getD {}).activeRelationships := by
    intro pair
    cases pair with
    | none => simp
    | some pair =>
      simp only [Option.map_some, Option.some.injEq, exists_eq_left', Option.getD_some]
      exact List.mem_mergeSort
  unfold ShowsFact
  rw [pairOf_eq, hgathered, pairAccumulator_eq, ← facts_of_rows]
  unfold gatherPair
  rw [facts_of_records]

/-! ### The order of the starters -/

theorem sortedStarters_comm (own peer : StarterId) :
    sortedStarters own peer = sortedStarters peer own := by
  unfold sortedStarters bytesLe
  have hswap := @Std.OrientedOrd.eq_swap _ _ _ own.bytes.toList peer.bytes.toList
  cases horder : compare peer.bytes.toList own.bytes.toList with
  | lt => simp [hswap, horder]
  | gt => simp [hswap, horder]
  | eq =>
    -- starters that compare as equal are equal
    have hbytes : own.bytes = peer.bytes := (Subtype.ext (Std.LawfulEqOrd.eq_of_compare horder)).symm
    simp [hbytes]

/-! ### A relationship that shows -/

/-- A live relationship with a known root shows its fact under the root. -/
theorem showsFact_of_relationship {ledger : Ledger} {localTransport : Option PubKey}
    {key : PairKey} {relationship : ProjectedRelationship} {root : PubKey}
    (h : relationshipAt ledger localTransport key = some relationship)
    (hlive : ¬ relationship.IsBroken) (hroot : relationship.peerRootPubkey = some root) :
    ShowsFact ledger localTransport root
      ⟨relationship.kind.toByte,
        sortedStarters relationship.ownStarterId relationship.peerStarterId⟩ := by
  have hitem : relationshipItem ledger localTransport key
      = some (relationshipCurrentItem (projectRelationships ledger localTransport)
        relationship) := by
    rw [relationshipItem_eq, h]
    rfl
  refine (showsFact_iff _ _ _ _).mpr
    ⟨relationshipCurrentItem (projectRelationships ledger localTransport) relationship, ?_, ?_, rfl⟩
  · apply List.mem_filter.mpr
    refine ⟨(relationshipItem_eq_some.mp hitem).1, ?_⟩
    show (peerIdentityOf _ relationship == root) = true
    rw [peerIdentityOf, hroot]
    exact beq_self_eq_true root
  · show relationship.statusText = "active" ∨ relationship.statusText = "pending_remote_break"
    rw [← ProjectedRelationship.statusText_broken] at hlive
    unfold ProjectedRelationship.statusText at hlive ⊢
    split_ifs at hlive ⊢ <;> simp_all

/-- What an establishment with both roots comes to, seen by the owner of the sender root. -/
theorem orientEstablished_own {fact : EstablishedFact} {owner root : PubKey}
    (hpeer : fact.peerRootPubkey = some root) (hsender : fact.senderRootPubkey = some owner)
    (hother : root ≠ owner) (timestamp : Timestamp) :
    orientEstablished fact owner timestamp = {
      peerPubkey := fact.peerPubkey
      peerRootPubkey := some root
      ownStarterId := fact.ownStarterId
      peerStarterId := fact.peerStarterId
      kind := fact.kind
      establishedAt := timestamp
      isActive := true
      hasPendingRemoteBreak := false } := by
  unfold orientEstablished resolvePeerRoot
  cases hsigner : fact.senderPubkey <;> simp [hpeer, hsender, hother]

/-- **A row at the end.**  The owner of the sender root sees its fact under the peer root, when
    the invitation is alive and the peer is someone else. -/
theorem showsFact_of_last {ledger : Ledger} {localTransport : Option PubKey}
    {front : List Event} {event : Event} {row : RelationshipEstablishedPayload} {root : PubKey}
    (hevents : ledger.events = front ++ [event]) (hkind : event.kind = .relationshipEstablished)
    (hpayload : event.payload = row.toBytes) (hpeer : row.peerRootPubkey = some root)
    (hsender : row.senderRootPubkey = some ledger.owner) (hroot : root ≠ ledger.owner)
    (htransport : localTransport ≠ some row.peerPubkey)
    (halive : ∀ record, findInvitation ledger row.invitationId = some record →
      record.isDead = false) :
    ShowsFact ledger localTransport root
      ⟨row.kind.toByte, sortedStarters row.ownStarterId row.peerStarterId⟩ := by
  have hparse : RelationshipEstablishedPayload.fromBytes row.toBytes = .ok row :=
    RelationshipEstablishedPayload.fromBytes_toBytes row (by simp [hpeer])
  let fact : EstablishedFact := {
    peerPubkey := row.peerPubkey
    senderPubkey := some row.senderPubkey
    invitationId := some row.invitationId
    peerRootPubkey := row.peerRootPubkey
    senderRootPubkey := row.senderRootPubkey
    ownStarterId := row.ownStarterId
    peerStarterId := row.peerStarterId
    kind := row.kind }
  have hfact : establishedOf event = some fact := by
    have hlength : ¬ row.toBytes.length = 97 := by
      intro hearly
      rw [RelationshipEstablishedPayload.fromBytes, if_pos (by omega)] at hparse
      cases hparse
    unfold establishedOf parseEstablishedFact
    rw [hkind, hpayload]
    dsimp only
    rw [if_neg hlength, hparse]
  have horiented := @orientEstablished_own fact _ _ hpeer hsender hroot event.timestamp
  -- the root that the row names is the one the relationship keeps
  have htaken : takenRelationship ledger.owner localTransport (invitationsWithStatus ledger) fact
      event.timestamp = some (establishedRelationship ledger.owner localTransport
        (invitationOf (invitationsWithStatus ledger) fact) fact event.timestamp) := by
    refine takenRelationship_eq_some.mpr ⟨rfl, ?_, ?_, ?_⟩
    · cases hrecord : invitationOf (invitationsWithStatus ledger) fact with
      | none => rfl
      | some record => exact halive record hrecord
    · unfold establishedRelationship
      rw [horiented]
      simpa using hroot
    · unfold establishedRelationship
      rw [horiented]
      exact htransport
  have hat : relationshipAt ledger localTransport (row.peerPubkey, row.ownStarterId)
      = some (establishedRelationship ledger.owner localTransport
        (invitationOf (invitationsWithStatus ledger) fact) fact event.timestamp) := by
    unfold relationshipAt
    rw [hevents, replay_snoc]
    apply keyStep_of_taken hfact htaken
    unfold establishedRelationship
    rw [horiented]
    rfl
  have hshows := @showsFact_of_relationship ledger localTransport _ _ root hat ?_ ?_
  · unfold establishedRelationship at hshows
    rw [horiented] at hshows
    exact hshows
  · unfold establishedRelationship ProjectedRelationship.IsBroken
    rw [horiented]
    simp
  · unfold establishedRelationship
    rw [horiented]

end Hivra
