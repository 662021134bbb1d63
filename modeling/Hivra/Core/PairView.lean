import Hivra.Core.RelationshipKeys
import Hivra.Lib.Keyed

namespace Hivra

open ByteString Replay

/-!
# The view of a pair

`pairViewV1` gathers the relationships and the invitations of each peer identity.  A transport
key without a root is known by the identity that a relationship gives it.

* `pairAccumulator_eq` — which comes from the rows and the records of this identity.
-/

structure PairRelationshipV1 where
  relationshipKind : UInt8
  starterPair : Bytes 32 × Bytes 32
  deriving DecidableEq

structure PairBlockerV1 where
  code : String
  subjectId : Bytes 32
  deriving DecidableEq

/-- What the view says about one peer. -/
structure PairViewItemV1 where
  localIdentity : PubKey
  peerIdentity : PubKey
  finalizedInvitationCount : ℕ
  activeRelationships : List PairRelationshipV1
  blockers : List PairBlockerV1
  deriving DecidableEq

structure PairViewV1 where
  schema : String
  version : UInt16
  ledgerVersion : ℕ
  pairs : List PairViewItemV1
  deriving DecidableEq

/-- What is gathered about one peer. -/
structure PairAccumulator where
  rooted : Bool := false
  finalizedInvitationCount : ℕ := 0
  activeRelationships : List PairRelationshipV1 := []
  pendingInvitations : List (Bytes 32) := []
  pendingRemoteBreaks : List (Bytes 32) := []
  brokenRelationships : List (Bytes 32) := []
  deriving DecidableEq

/-- The order of byte arrays. -/
def bytesLe (a b : Bytes 32) : Bool := (compare a.toList b.toList).isLE

/-! ### The loop over the relationships -/

/-- Two starters, the smaller one first. -/
def sortedStarters (own peer : StarterId) : Bytes 32 × Bytes 32 :=
  if bytesLe own.bytes peer.bytes then (own.bytes, peer.bytes) else (peer.bytes, own.bytes)

/-- The fact of a relationship row. -/
def RelationshipCurrentItemV1.fact (relationship : RelationshipCurrentItemV1) :
    PairRelationshipV1 where
  relationshipKind := relationship.starterKind
  starterPair := sortedStarters relationship.ownStarterId relationship.peerStarterId

/-- The loop body for a relationship. -/
def PairAccumulator.addRelationship (relationship : RelationshipCurrentItemV1)
    (pair : PairAccumulator) : PairAccumulator :=
  let pair := { pair with rooted := pair.rooted || relationship.peerRootPubkey.isSome }
  if relationship.status = "active" ∨ relationship.status = "pending_remote_break" then
    let pair := { pair with
      activeRelationships := pushUnique pair.activeRelationships relationship.fact }
    if relationship.status = "pending_remote_break" then
      { pair with
        pendingRemoteBreaks := pushUnique pair.pendingRemoteBreaks relationship.ownStarterId.bytes }
    else pair
  else if relationship.status = "broken" then
    { pair with
      brokenRelationships := pushUnique pair.brokenRelationships relationship.ownStarterId.bytes }
  else pair

/-- The identities that the rows give to transport keys. -/
def transportToIdentity (relationships : List RelationshipCurrentItemV1) : List (PubKey × PubKey) :=
  relationships.map fun relationship => (relationship.peerPubkey, relationship.peerIdentity)

/-! ### The loop over the invitations -/

/-- The transport key of the other side of an invitation, and its root where one is known. -/
def invitationPeer (invitation : InvitationRecord) : PubKey × Option PubKey :=
  match invitation.direction with
  | .incoming => (invitation.senderTransportPubkey, invitation.senderRootPubkey)
  | .outgoing =>
    let acceptedRoot := match invitation.status with
      | .accepted _ _ accepterRootPubkey => accepterRootPubkey
      | _ => none
    (invitation.recipientPubkey, acceptedRoot)

/-- The identity of a transport key in the table. -/
def identityOfTransport (table : List (PubKey × PubKey)) (transport : PubKey) : Option PubKey :=
  table.findSome? fun entry => if entry.1 = transport then some entry.2 else none

/-- Who the other side of an invitation is. -/
def invitationIdentity (table : List (PubKey × PubKey)) (invitation : InvitationRecord) : PubKey :=
  match (invitationPeer invitation).2 with
  | some root => root
  | none =>
    (identityOfTransport table (invitationPeer invitation).1).getD (invitationPeer invitation).1

/-- The identity is the owner itself. -/
def isSelf (owner : PubKey) (localTransport : Option PubKey) (identity : PubKey) : Bool :=
  identity == owner || localTransport == some identity

/-- The loop body for an invitation. -/
def PairAccumulator.addInvitation (table : List (PubKey × PubKey)) (invitation : InvitationRecord)
    (pair : PairAccumulator) : PairAccumulator :=
  let transport := (invitationPeer invitation).1
  let rooted := (invitationPeer invitation).2.isSome ||
    table.any fun entry => entry.1 == transport && entry.2 != transport
  let pair := { pair with rooted := pair.rooted || rooted }
  if invitation.status = .pending then
    { pair with pendingInvitations := pushUnique pair.pendingInvitations invitation.invitationId }
  else { pair with finalizedInvitationCount := pair.finalizedInvitationCount + 1 }

/-! ### The items -/

/-- The order of the facts of an item. -/
def PairRelationshipV1.before (left right : PairRelationshipV1) : Bool :=
  ((compare left.relationshipKind right.relationshipKind).then
    ((compare left.starterPair.1.toList right.starterPair.1.toList).then
      (compare left.starterPair.2.toList right.starterPair.2.toList))).isLE

/-- The item of a peer from what is gathered about it. -/
def pairItem (owner : PubKey) (localTransport : Option PubKey) (peerIdentity : PubKey)
    (pair : PairAccumulator) : PairViewItemV1 where
  localIdentity := if pair.rooted then owner else localTransport.getD owner
  peerIdentity := peerIdentity
  finalizedInvitationCount := pair.finalizedInvitationCount
  activeRelationships := pair.activeRelationships.mergeSort PairRelationshipV1.before
  blockers :=
    (pair.pendingInvitations.mergeSort bytesLe).map (PairBlockerV1.mk "pending_invitation") ++
    (pair.pendingRemoteBreaks.mergeSort bytesLe).map (PairBlockerV1.mk "pending_remote_break") ++
    if pair.activeRelationships = [] then
      (pair.brokenRelationships.mergeSort bytesLe).map (PairBlockerV1.mk "relationship_broken") ++
        [⟨"no_active_relationship", peerIdentity.bytes⟩]
    else []

/-- The accumulators after both loops. -/
def pairAccumulators (ledger : Ledger) (localTransport : Option PubKey) :
    List (PubKey × PairAccumulator) :=
  let relationships := (relationshipCurrentViewV1 ledger localTransport).relationships
  let table := transportToIdentity relationships
  accumulateAll {} (fun record => !isSelf ledger.owner localTransport
      (invitationIdentity table record)) (invitationIdentity table)
    (PairAccumulator.addInvitation table)
    (accumulateAll {} (fun _ => true) RelationshipCurrentItemV1.peerIdentity
      PairAccumulator.addRelationship [] relationships)
    (invitationsWithStatus ledger)

def pairViewV1 (ledger : Ledger) (localTransport : Option PubKey) : PairViewV1 where
  schema := "hivra.pair_view"
  version := 1
  ledgerVersion := ledger.events.length
  pairs := ((pairAccumulators ledger localTransport).mergeSort
    fun left right => bytesLe left.1.bytes right.1.bytes).map fun pair =>
      pairItem ledger.owner localTransport pair.1 pair.2

/-- The item of an identity in the view. -/
def pairOf (ledger : Ledger) (localTransport : Option PubKey) (peer : PubKey) :
    Option PairViewItemV1 :=
  (pairViewV1 ledger localTransport).pairs.find? fun item => item.peerIdentity == peer

/-! ### One identity at a time -/

/-- The identity of a transport key in the rows of a ledger. -/
def transportTable (ledger : Ledger) (localTransport : Option PubKey) : List (PubKey × PubKey) :=
  transportToIdentity (relationshipCurrentViewV1 ledger localTransport).relationships

/-- The rows of an identity. -/
def pairRows (ledger : Ledger) (localTransport : Option PubKey) (peer : PubKey) :
    List RelationshipCurrentItemV1 :=
  (relationshipCurrentViewV1 ledger localTransport).relationships.filter fun relationship =>
    relationship.peerIdentity == peer

/-- The records of an identity. -/
def pairRecords (ledger : Ledger) (localTransport : Option PubKey) (peer : PubKey) :
    List InvitationRecord :=
  (invitationsWithStatus ledger).filter fun record =>
    invitationIdentity (transportTable ledger localTransport) record == peer

/-- What is gathered from rows and records of one identity. -/
def gatherPair (table : List (PubKey × PubKey)) (rows : List RelationshipCurrentItemV1)
    (records : List InvitationRecord) : Option PairAccumulator :=
  replay (fun pair record => some (PairAccumulator.addInvitation table record (pair.getD {})))
    (replay (fun pair row => some (PairAccumulator.addRelationship row (pair.getD {}))) none rows)
    records

variable (ledger : Ledger) (localTransport : Option PubKey) (peer : PubKey)

/-- **Each identity has an accumulator of its own.** -/
theorem pairAccumulator_eq :
    accumulated (pairAccumulators ledger localTransport) peer =
      gatherPair (transportTable ledger localTransport) (pairRows ledger localTransport peer)
        (if isSelf ledger.owner localTransport peer then []
          else pairRecords ledger localTransport peer) := by
  unfold pairAccumulators gatherPair
  dsimp only
  rw [accumulated_replay, accumulated_replay]
  have hrows : (relationshipCurrentViewV1 ledger localTransport).relationships.filter
      (fun row => true && row.peerIdentity == peer) = pairRows ledger localTransport peer := by
    simp [pairRows]
  have hrecords : (invitationsWithStatus ledger).filter (fun record =>
        !isSelf ledger.owner localTransport
            (invitationIdentity (transportTable ledger localTransport) record) &&
          invitationIdentity (transportTable ledger localTransport) record == peer)
      = if isSelf ledger.owner localTransport peer then []
        else pairRecords ledger localTransport peer := by
    by_cases hself : isSelf ledger.owner localTransport peer = true
    · -- the owner itself gets no invitation
      rw [if_pos hself, List.filter_eq_nil_iff]
      intro record _ hcounts
      rw [Bool.and_eq_true, beq_iff_eq] at hcounts
      rw [hcounts.2, hself] at hcounts
      exact absurd hcounts.1 (by simp)
    · rw [if_neg hself]
      apply List.filter_congr
      intro record _
      by_cases hpeer : invitationIdentity (transportTable ledger localTransport) record = peer
      · simp [hpeer, hself]
      · simp [hpeer]
  unfold transportTable at hrecords ⊢
  rw [hrows, hrecords]
  rfl

theorem pairAccumulators_nodup : ((pairAccumulators ledger localTransport).map Prod.fst).Nodup := by
  unfold pairAccumulators
  apply accumulateAll_nodup
  apply accumulateAll_nodup
  exact List.nodup_nil

/-- **The item of an identity is that of its accumulator.** -/
theorem pairOf_eq :
    pairOf ledger localTransport peer =
      (accumulated (pairAccumulators ledger localTransport) peer).map
        (pairItem ledger.owner localTransport peer) := by
  unfold pairOf pairViewV1 accumulated
  dsimp only
  rw [List.find?_map, Option.map_map]
  have hfind := find_key_perm (pairAccumulators_nodup ledger localTransport)
    (List.mergeSort_perm (pairAccumulators ledger localTransport)
      fun left right => bytesLe left.1.bytes right.1.bytes).symm peer
  have hsame : ((fun item : PairViewItemV1 => item.peerIdentity == peer) ∘
      fun pair : PubKey × PairAccumulator => pairItem ledger.owner localTransport pair.1 pair.2)
      = fun pair => pair.1 == peer := rfl
  rw [hsame, hfind]
  cases hfound : (pairAccumulators ledger localTransport).find? fun pair => pair.1 == peer with
  | none => rfl
  | some pair =>
    have hkey : pair.1 = peer := by simpa using List.find?_some hfound
    subst hkey
    rfl

theorem pairOf_finalized :
    (pairOf ledger localTransport peer).map PairViewItemV1.finalizedInvitationCount =
      (accumulated (pairAccumulators ledger localTransport) peer).map
        PairAccumulator.finalizedInvitationCount := by
  rw [pairOf_eq, Option.map_map]
  rfl

theorem pairOf_facts :
    (pairOf ledger localTransport peer).map (fun item => item.activeRelationships.length) =
      (accumulated (pairAccumulators ledger localTransport) peer).map
        fun pair => pair.activeRelationships.length := by
  rw [pairOf_eq, Option.map_map]
  congr 1
  ext pair
  exact List.length_mergeSort _

end Hivra
