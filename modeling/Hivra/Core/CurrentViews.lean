import Hivra.Core.AcceptPlan
import Hivra.Core.InvitationRecords
import Mathlib.Data.List.Sort

namespace Hivra

open ByteString Replay

/-!
# Current views

The two views the host reads instead of the ledger: one row for each invitation, and one
row for each relationship of a peer key and an own starter.

* `invitationCurrentViewV1` — the invitations with their starter kinds and slots.
* `relationshipCurrentViewV1` — the relationships, the latest first, with the peer they are
  known under.
* `record_times`, `relationship_time` — every date of a view is the timestamp of an event.
-/

/-! ### Invitations -/

/-- A row of the invitation view. -/
structure InvitationCurrentItemV1 where
  invitationId : InvitationId
  starterId : StarterId
  direction : String
  fromPubkey : PubKey
  fromRootPubkey : Option PubKey
  fromCardSignature : Option (Bytes 64)
  toPubkey : Option PubKey
  starterKind : Option UInt8
  starterSlot : Option UInt8
  status : String
  sentAt : UInt64
  respondedAt : Option UInt64
  hasLocalTerminal : Bool
  rejectionReason : Option String

structure InvitationCurrentViewV1 where
  schema : String
  version : UInt16
  ledgerVersion : ℕ
  invitations : List InvitationCurrentItemV1

/-- The kind of the offered starter: the one the offer names, or the one the owner recorded. -/
def recordStarterKind (ledger : Ledger) (record : InvitationRecord) : Option StarterKind :=
  match record.starterKindHint with
  | some kind => some kind
  | none => starterKindForId ledger record.starterId

/-- The text of a status. -/
def InvitationStatus.text : InvitationStatus → String
  | pending => "pending"
  | accepted _ _ _ => "accepted"
  | rejected _ => "rejected"
  | expired => "expired"

/-- The text of the reason of a rejected invitation. -/
def InvitationStatus.reasonText : InvitationStatus → Option String
  | rejected .emptySlot => some "empty_slot"
  | rejected .other => some "other"
  | _ => none

/-- The row of a record. -/
def invitationCurrentItem (ledger : Ledger) (slots : SlotLayout) (record : InvitationRecord) :
    InvitationCurrentItemV1 :=
  let incoming := record.direction == .incoming
  { invitationId := record.invitationId
    starterId := record.starterId
    direction := if incoming then "incoming" else "outgoing"
    fromPubkey := if incoming then record.senderTransportPubkey else record.offerSigner
    fromRootPubkey := if incoming then record.senderRootPubkey else none
    fromCardSignature := if incoming then record.senderCardSignature else none
    toPubkey := if incoming then none else some record.recipientPubkey
    starterKind := (recordStarterKind ledger record).map StarterKind.toByte
    starterSlot :=
      if incoming then none
      else (slots.findByStarter record.starterId).map fun slot => UInt8.ofNat slot.val
    status := record.status.text
    sentAt := record.sentAt
    respondedAt := record.respondedAt
    hasLocalTerminal := record.hasLocalTerminal
    rejectionReason := record.status.reasonText }

def invitationCurrentViewV1 (ledger : Ledger) : InvitationCurrentViewV1 where
  schema := "hivra.invitation_current_view"
  version := 1
  ledgerVersion := ledger.events.length
  invitations :=
    (invitationsWithStatus ledger).map (invitationCurrentItem ledger (SlotLayout.fromLedger ledger))

/-! ### Relationships -/

/-- A row of the relationship view. -/
structure RelationshipCurrentItemV1 where
  peerPubkey : PubKey
  peerRootPubkey : Option PubKey
  peerIdentity : PubKey
  ownStarterId : StarterId
  peerStarterId : StarterId
  starterKind : UInt8
  establishedAt : UInt64
  status : String

structure RelationshipCurrentViewV1 where
  schema : String
  version : UInt16
  ledgerVersion : ℕ
  activePeerCount : ℕ
  relationships : List RelationshipCurrentItemV1

/-- A relationship on its way to the view. -/
structure ProjectedRelationship where
  peerPubkey : PubKey
  peerRootPubkey : Option PubKey
  ownStarterId : StarterId
  peerStarterId : StarterId
  kind : StarterKind
  establishedAt : Timestamp
  isActive : Bool
  hasPendingRemoteBreak : Bool

/-- What an event says that established a relationship. -/
structure EstablishedFact where
  peerPubkey : PubKey
  senderPubkey : Option PubKey
  invitationId : Option InvitationId
  peerRootPubkey : Option PubKey
  senderRootPubkey : Option PubKey
  ownStarterId : StarterId
  peerStarterId : StarterId
  kind : StarterKind

/-- Read an establishment; the 97 bytes of an early one name no invitation. -/
def parseEstablishedFact (bytes : List UInt8) : Option EstablishedFact :=
  if bytes.length = 97 then
    (StarterKind.fromU8 (byteAt bytes 96)).map fun kind => {
      peerPubkey := ⟨readFixed32 bytes 0⟩
      senderPubkey := none
      invitationId := none
      peerRootPubkey := none
      senderRootPubkey := none
      ownStarterId := ⟨readFixed32 bytes 32⟩
      peerStarterId := ⟨readFixed32 bytes 64⟩
      kind := kind }
  else
    match RelationshipEstablishedPayload.fromBytes bytes with
    | .error _ => none
    | .ok payload => some {
        peerPubkey := payload.peerPubkey
        senderPubkey := some payload.senderPubkey
        invitationId := some payload.invitationId
        peerRootPubkey := payload.peerRootPubkey
        senderRootPubkey := payload.senderRootPubkey
        ownStarterId := payload.ownStarterId
        peerStarterId := payload.peerStarterId
        kind := payload.kind }

/-- The root of the other side among the two roots of a fact. -/
def resolvePeerRoot (peerRoot senderRoot : Option PubKey) (owner : PubKey) : Option PubKey :=
  match peerRoot, senderRoot with
  | none, sender => sender
  | some peer, some sender =>
    if peer = owner ∧ sender ≠ owner then some sender
    else if sender = owner ∧ peer ≠ owner then some peer
    else some peer
  | some peer, none => some peer

/-- The relationship of a fact from the owner's side: one that was written from the peer's side
    is turned around. -/
def orientEstablished (fact : EstablishedFact) (owner : PubKey) (establishedAt : Timestamp) :
    ProjectedRelationship :=
  let peerRoot := resolvePeerRoot fact.peerRootPubkey fact.senderRootPubkey owner
  let straight : ProjectedRelationship := {
    peerPubkey := fact.peerPubkey
    peerRootPubkey := peerRoot
    ownStarterId := fact.ownStarterId
    peerStarterId := fact.peerStarterId
    kind := fact.kind
    establishedAt := establishedAt
    isActive := true
    hasPendingRemoteBreak := false }
  match fact.senderPubkey with
  | none => straight
  | some sender =>
    if fact.peerRootPubkey = some owner ∧ fact.senderRootPubkey.any (· != owner) then
      { straight with
        peerPubkey := sender
        ownStarterId := fact.peerStarterId
        peerStarterId := fact.ownStarterId }
    else straight

/-- The relationship has a peer key and an own starter. -/
def ProjectedRelationship.hasKey (relationship : ProjectedRelationship) (peerPubkey : PubKey)
    (ownStarterId : StarterId) : Bool :=
  relationship.peerPubkey == peerPubkey && relationship.ownStarterId == ownStarterId

/-- The root of the peer as the record of the invitation knows it. -/
def rootOfInvitation (owner : PubKey) (localTransport : Option PubKey)
    (record : InvitationRecord) : Option PubKey :=
  match record.direction, record.status with
  | .incoming, _ => record.senderRootPubkey
  | .outgoing, .accepted _ fromPubkey accepterRootPubkey =>
    if localTransport = some fromPubkey ∧ record.respondedSigner ≠ some owner then
      accepterRootPubkey
    else none
  | .outgoing, _ => none

/-- The invitation was turned down or withdrawn. -/
def InvitationRecord.isDead (record : InvitationRecord) : Bool :=
  match record.status with
  | .rejected _ => true
  | .expired => true
  | _ => false

/-- The relationship of a fact; a root it does not name is looked up in its invitation. -/
def establishedRelationship (owner : PubKey) (localTransport : Option PubKey)
    (invitation : Option InvitationRecord) (fact : EstablishedFact) (timestamp : Timestamp) :
    ProjectedRelationship :=
  let relationship := orientEstablished fact owner timestamp
  { relationship with
    peerRootPubkey := match relationship.peerRootPubkey with
      | some root => some root
      | none => invitation.bind (rootOfInvitation owner localTransport) }

/-- Take an establishment into the projection, unless its invitation is dead or it is about
    the owner itself. -/
def establishStep (owner : PubKey) (localTransport : Option PubKey)
    (records : List InvitationRecord) (projected : List ProjectedRelationship)
    (fact : EstablishedFact) (timestamp : Timestamp) : List ProjectedRelationship :=
  let invitation := fact.invitationId.bind fun invitationId =>
    records.find? fun record => record.invitationId == invitationId
  let relationship := establishedRelationship owner localTransport invitation fact timestamp
  if invitation.any InvitationRecord.isDead then projected
  else if relationship.peerRootPubkey = some owner ∨
      localTransport = some relationship.peerPubkey then
    projected
  else if projected.any fun current =>
      current.hasKey relationship.peerPubkey relationship.ownStarterId then
    updateFirst (fun current => current.hasKey relationship.peerPubkey relationship.ownStarterId)
      (fun _ => relationship) projected
  else projected ++ [relationship]

/-- A relationship after a break that names it: a local one ends it, one of the peer waits for
    the owner. -/
def breakRelationshipWith (owner : PubKey) (localTransport : Option PubKey)
    (broken : RelationshipBrokenPayload) (event : Event) (current : ProjectedRelationship) :
    ProjectedRelationship :=
  if event.timestamp < current.establishedAt then current
  else
    let signerMatchesLocal := event.signer == owner || localTransport == some event.signer
    let signerMatchesPeer := event.signer == current.peerPubkey ||
      (broken.peerRootPubkey == some event.signer &&
        current.peerRootPubkey == some event.signer)
    if signerMatchesLocal = false ∧ signerMatchesPeer = false then current
    else
      let pendingRemote := !signerMatchesLocal && signerMatchesPeer
      if pendingRemote ∧ current.isActive = false ∧ current.hasPendingRemoteBreak = false then
        current
      else { current with isActive := pendingRemote, hasPendingRemoteBreak := pendingRemote }

/-- The loop body of the projection. -/
def relationshipStep (owner : PubKey) (localTransport : Option PubKey)
    (records : List InvitationRecord) (projected : List ProjectedRelationship) (event : Event) :
    List ProjectedRelationship :=
  match event.kind with
  | .relationshipEstablished =>
    match parseEstablishedFact event.payload with
    | none => projected
    | some fact => establishStep owner localTransport records projected fact event.timestamp
  | .relationshipBroken =>
    match RelationshipBrokenPayload.fromBytes event.payload with
    | .error _ => projected
    | .ok broken =>
      updateFirst (fun current => current.hasKey broken.peerPubkey broken.ownStarterId)
        (breakRelationshipWith owner localTransport broken event) projected
  | _ => projected

/-- The relationships of a ledger, the latest first. -/
def projectRelationships (ledger : Ledger) (localTransport : Option PubKey) :
    List ProjectedRelationship :=
  (replay (relationshipStep ledger.owner localTransport (invitationsWithStatus ledger)) []
    ledger.events).mergeSort fun left right => decide (right.establishedAt ≤ left.establishedAt)

/-- Who a peer key is known as: its root, or a root some relationship gives it. -/
def peerIdentityOf (projected : List ProjectedRelationship) (relationship : ProjectedRelationship) :
    PubKey :=
  match relationship.peerRootPubkey with
  | some root => root
  | none =>
    (projected.findSome? fun other =>
      if other.peerPubkey = relationship.peerPubkey then other.peerRootPubkey else none).getD
        relationship.peerPubkey

/-- The text of the status of a relationship. -/
def ProjectedRelationship.statusText (relationship : ProjectedRelationship) : String :=
  if relationship.hasPendingRemoteBreak then "pending_remote_break"
  else if relationship.isActive then "active"
  else "broken"

/-- The row of a relationship. -/
def relationshipCurrentItem (projected : List ProjectedRelationship)
    (relationship : ProjectedRelationship) : RelationshipCurrentItemV1 where
  peerPubkey := relationship.peerPubkey
  peerRootPubkey := relationship.peerRootPubkey
  peerIdentity := peerIdentityOf projected relationship
  ownStarterId := relationship.ownStarterId
  peerStarterId := relationship.peerStarterId
  starterKind := relationship.kind.toByte
  establishedAt := relationship.establishedAt
  status := relationship.statusText

/-- All relationships, and how many peers are active. -/
def relationshipCurrentViewV1 (ledger : Ledger) (localTransport : Option PubKey) :
    RelationshipCurrentViewV1 :=
  let projected := projectRelationships ledger localTransport
  let activePeers := replay (fun peers relationship =>
    if relationship.isActive then pushUnique peers (peerIdentityOf projected relationship)
    else peers) [] projected
  { schema := "hivra.relationship_current_view"
    version := 1
    ledgerVersion := ledger.events.length
    activePeerCount := activePeers.length
    relationships := projected.map (relationshipCurrentItem projected) }

/-! ### Where the dates come from -/

/-- The dates of a record are timestamps of the events. -/
def InvitationRecord.DatedBy (record : InvitationRecord) (events : List Event) : Prop :=
  (∃ event ∈ events, record.sentAt = event.timestamp) ∧
    ∀ ts ∈ record.respondedAt, ∃ event ∈ events, ts = event.timestamp

/-- The records of a ledger are dated by its events. -/
theorem record_times {ledger : Ledger} {record : InvitationRecord}
    (h : record ∈ invitationsWithStatus ledger) : record.DatedBy ledger.events := by
  have hall : ∀ record ∈ replay (invitationStep ledger.owner) [] ledger.events,
      record.DatedBy ledger.events := by
    refine replay_invariant
      (P := fun records : List InvitationRecord =>
        ∀ record ∈ records, record.DatedBy ledger.events) (by simp) ?_
    intro records event hevent hrecords record hrecord
    rcases invitationStep_cases ledger.owner records event with
      hsame | ⟨payload, -, -, hadded⟩ | ⟨id, terminal, front, old, back, -, hsplit, -, -, hchanged⟩
    · rw [hsame] at hrecord
      exact hrecords record hrecord
    · rw [hadded] at hrecord
      rcases List.mem_append.mp hrecord with hold | hnew
      · exact hrecords record hold
      · rw [List.mem_singleton.mp hnew]
        exact ⟨⟨event, hevent, rfl⟩, by simp [offerRecord]⟩
    · have hother : record ∈ front ∨ record ∈ back → record ∈ records := by
        rw [hsplit]
        simp
        tauto
      rw [hchanged] at hrecord
      rcases List.mem_append.mp hrecord with hfront | hback
      · exact hrecords record (hother (Or.inl hfront))
      rcases List.mem_cons.mp hback with rfl | hrest
      · have hold := hrecords old (by rw [hsplit]; simp)
        rcases applyTerminal_cases ledger.owner event terminal old with
          ⟨-, -, heq⟩ | ⟨-, flag, -, ⟨heq, -⟩ | ⟨-, heq⟩⟩
        · rw [heq]
          exact hold
        · rw [heq]
          exact hold
        · rw [heq]
          refine ⟨hold.1, fun ts hts => ⟨event, hevent, ?_⟩⟩
          exact (Option.some.inj hts).symm
      · exact hrecords record (hother (Or.inr hrest))
  exact hall record h

/-- The date of a relationship is the timestamp of an event. -/
theorem relationship_time {ledger : Ledger} {localTransport : Option PubKey}
    {relationship : ProjectedRelationship}
    (h : relationship ∈ projectRelationships ledger localTransport) :
    ∃ event ∈ ledger.events, relationship.establishedAt = event.timestamp := by
  have hall : ∀ relationship ∈ replay (relationshipStep ledger.owner localTransport
      (invitationsWithStatus ledger)) [] ledger.events,
      ∃ event ∈ ledger.events, relationship.establishedAt = event.timestamp := by
    refine replay_invariant (P := fun projected : List ProjectedRelationship =>
      ∀ relationship ∈ projected, ∃ event ∈ ledger.events, relationship.establishedAt = event.timestamp) (by simp) ?_
    intro projected event hevent hprojected relationship hrelationship
    have horiented : ∀ owner invitation fact,
        (establishedRelationship owner localTransport invitation fact
          event.timestamp).establishedAt = event.timestamp := by
      intro owner invitation fact
      unfold establishedRelationship orientEstablished
      dsimp only
      split
      · rfl
      · split <;> rfl
    have hbroken : ∀ owner broken (current : ProjectedRelationship),
        (breakRelationshipWith owner localTransport broken event current).establishedAt
          = current.establishedAt := by
      intro owner broken current
      unfold breakRelationshipWith
      dsimp only
      split_ifs <;> rfl
    unfold relationshipStep at hrelationship
    split at hrelationship
    · split at hrelationship
      · exact hprojected relationship hrelationship
      · unfold establishStep at hrelationship
        dsimp only at hrelationship
        split at hrelationship
        · exact hprojected relationship hrelationship
        split at hrelationship
        · exact hprojected relationship hrelationship
        split at hrelationship
        · rcases mem_updateFirst hrelationship with hold | ⟨_, -, rfl⟩
          · exact hprojected relationship hold
          · exact ⟨event, hevent, horiented _ _ _⟩
        · rcases List.mem_append.mp hrelationship with hold | hnew
          · exact hprojected relationship hold
          · rw [List.mem_singleton.mp hnew]
            exact ⟨event, hevent, horiented _ _ _⟩
    · split at hrelationship
      · exact hprojected relationship hrelationship
      · rcases mem_updateFirst hrelationship with hold | ⟨current, hcurrent, rfl⟩
        · exact hprojected relationship hold
        · rw [hbroken]
          exact hprojected current hcurrent
    · exact hprojected relationship hrelationship
  exact hall relationship (List.mem_mergeSort.mp h)

end Hivra
