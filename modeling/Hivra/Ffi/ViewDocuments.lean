import Hivra.Core.PairView
import Hivra.Ffi.LedgerJson

namespace Hivra

open JsonDocument Serde

/-!
# View documents

The documents the runtime answers with when it is asked for a view of a ledger document.
A document that is not a ledger has none.
-/

/-- An optional field. -/
def writeOption {α : Type} (write : α → Document) : Option α → Document
  | some value => write value
  | none => .null

def writePubKey (key : PubKey) : Document := writeBytes key.bytes.toList

/-- The members of a row of the invitation view. -/
def invitationItemMembers (item : InvitationCurrentItemV1) : List (String × Document) :=
  [("invitation_id", writeBytes item.invitationId.toList),
    ("starter_id", writeBytes item.starterId.bytes.toList),
    ("direction", .str item.direction),
    ("from_pubkey", writePubKey item.fromPubkey),
    ("from_root_pubkey", writeOption writePubKey item.fromRootPubkey),
    ("from_card_signature", writeOption (fun signature => writeBytes signature.toList)
      item.fromCardSignature),
    ("to_pubkey", writeOption writePubKey item.toPubkey),
    ("starter_kind", writeOption writeU8 item.starterKind),
    ("starter_slot", writeOption writeU8 item.starterSlot),
    ("status", .str item.status),
    ("sent_at", writeU64 item.sentAt),
    ("responded_at", writeOption writeU64 item.respondedAt),
    ("has_local_terminal", .bool item.hasLocalTerminal),
    ("rejection_reason", writeOption .str item.rejectionReason)]

def invitationViewDocument (view : InvitationCurrentViewV1) : Document :=
  .obj [
    ("schema", .str view.schema),
    ("version", writeNat view.version.toNat),
    ("ledger_version", writeNat view.ledgerVersion),
    ("invitations", .arr (view.invitations.map fun item => .obj (invitationItemMembers item)))]

/-- The members of a row of the relationship view. -/
def relationshipItemMembers (item : RelationshipCurrentItemV1) : List (String × Document) :=
  [("peer_pubkey", writePubKey item.peerPubkey),
    ("peer_root_pubkey", writeOption writePubKey item.peerRootPubkey),
    ("peer_identity", writePubKey item.peerIdentity),
    ("own_starter_id", writeBytes item.ownStarterId.bytes.toList),
    ("peer_starter_id", writeBytes item.peerStarterId.bytes.toList),
    ("starter_kind", writeU8 item.starterKind),
    ("established_at", writeU64 item.establishedAt),
    ("status", .str item.status)]

def relationshipViewDocument (view : RelationshipCurrentViewV1) : Document :=
  .obj [
    ("schema", .str view.schema),
    ("version", writeNat view.version.toNat),
    ("ledger_version", writeNat view.ledgerVersion),
    ("active_peer_count", writeNat view.activePeerCount),
    ("relationships", .arr (view.relationships.map fun item =>
      .obj (relationshipItemMembers item)))]

def pairFactMembers (fact : PairRelationshipV1) : List (String × Document) :=
  [("relationship_kind", writeU8 fact.relationshipKind),
    ("starter_pair", .arr [writeBytes fact.starterPair.1.toList,
      writeBytes fact.starterPair.2.toList])]

def pairBlockerMembers (blocker : PairBlockerV1) : List (String × Document) :=
  [("code", .str blocker.code), ("subject_id", writeBytes blocker.subjectId.toList)]

/-- The members of an item of the pair view. -/
def pairItemMembers (item : PairViewItemV1) : List (String × Document) :=
  [("local_identity", writePubKey item.localIdentity),
    ("peer_identity", writePubKey item.peerIdentity),
    ("finalized_invitation_count", writeNat item.finalizedInvitationCount),
    ("active_relationships", .arr (item.activeRelationships.map fun fact =>
      .obj (pairFactMembers fact))),
    ("blockers", .arr (item.blockers.map fun blocker => .obj (pairBlockerMembers blocker)))]

def pairViewDocument (view : PairViewV1) : Document :=
  .obj [
    ("schema", .str view.schema),
    ("version", writeNat view.version.toNat),
    ("ledger_version", writeNat view.ledgerVersion),
    ("pairs", .arr (view.pairs.map fun item => .obj (pairItemMembers item)))]

variable (lossy : Literal → Option UInt64)

/-- The invitation view of a ledger document. -/
def hivraProjectInvitationCurrentViewV1 (ledgerJson : Document) : Option Document :=
  match parseLedgerJson lossy ledgerJson with
  | .error _ => none
  | .ok ledger => some (invitationViewDocument (invitationCurrentViewV1 ledger))

/-- The relationship view of a ledger document, for the transport key of the capsule. -/
def hivraProjectRelationshipCurrentViewV1 (localTransport : Option PubKey)
    (ledgerJson : Document) : Option Document :=
  match parseLedgerJson lossy ledgerJson with
  | .error _ => none
  | .ok ledger =>
    some (relationshipViewDocument (relationshipCurrentViewV1 ledger localTransport))

/-- The pair view of a ledger document, for the transport key of the capsule. -/
def hivraProjectPairViewV1 (localTransport : Option PubKey) (ledgerJson : Document) :
    Option Document :=
  match parseLedgerJson lossy ledgerJson with
  | .error _ => none
  | .ok ledger => some (pairViewDocument (pairViewV1 ledger localTransport))

end Hivra
