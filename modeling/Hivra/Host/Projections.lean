import Hivra.Core.CurrentViews
import Hivra.Host.LedgerRoundTrip

namespace Hivra

open JsonDocument Serde

/-!
# The views in the host

The host encodes the ledger document it holds, has the runtime project it, decodes the view
and turns its rows into models.  Every field is read on its own; a row with a field it cannot
use is left out, and one with a date the host cannot represent makes the whole call throw.
A result is none where the host throws.  A key or an id is kept as its bytes; the host keeps
the base 64 text of them.

* `loadInvitations`, `loadRelationships` — the two services.
-/

/-! ### Dates and doubles -/

/-- A date of the host. -/
structure DateTime where
  millis : ℤ
  inRange : -8640000000000000 ≤ millis ∧ millis ≤ 8640000000000000

/-- The date of a number of milliseconds; this throws outside the range. -/
def fromMillisecondsSinceEpoch (millis : ℤ) : Option DateTime :=
  if h : -8640000000000000 ≤ millis ∧ millis ≤ 8640000000000000 then some ⟨millis, h⟩ else none

/-- What the host language does with doubles, texts and lists. -/
structure DartViews (Double : Type) extends DartRuntime Double where
  /-- How a double compares with an integer; one that is not a number does not. -/
  compareInt : Double → ℤ → Option Ordering
  /-- `List.sort`, which need not keep the order of equals. -/
  sort : {α : Type} → (α → α → Bool) → List α → List α
  sort_perm : ∀ {α : Type} (le : α → α → Bool) (items : List α), (sort le items).Perm items

/-- The small runtime with its doubles beyond the range of integers. -/
def sampleViews : DartViews String :=
  { sampleDart with
    compareInt := fun _ _ => some .gt
    sort := fun le items => items.mergeSort le
    sort_perm := fun le items => List.mergeSort_perm items le }

theorem insertionSort_perm {α : Type} (le : α → α → Bool) (items : List α) :
    (items.insertionSort fun a b => le a b = true).Perm items :=
  List.perm_insertionSort _ items

/-! ### Models -/

inductive HostInvitationStatus
  | pending
  | accepted
  | rejected
  | expired
  deriving DecidableEq

inductive RejectionReason
  | emptySlot
  | other
  deriving DecidableEq

/-- An invitation as the host shows it; one without a recipient is incoming. -/
structure Invitation where
  id : List UInt8
  fromPubkey : List UInt8
  fromRootPubkey : Option (List UInt8)
  fromCardSignatureHex : Option String
  toPubkey : Option (List UInt8)
  kind : StarterKind
  starterSlot : Option ℤ
  status : HostInvitationStatus
  sentAt : DateTime
  expiresAt : Option DateTime
  respondedAt : Option DateTime
  rejectionReason : Option RejectionReason

/-- A relationship as the host shows it. -/
structure Relationship where
  peerPubkey : List UInt8
  peerRootPubkey : Option (List UInt8)
  kind : StarterKind
  ownStarterId : List UInt8
  peerStarterId : List UInt8
  establishedAt : DateTime
  isActive : Bool
  hasPendingRemoteBreak : Bool

section Read

variable {Double : Type} (dart : DartViews Double)

/-! ### Fields of a row -/

/-- A list of integers from 0 to 255 of a length. -/
def rowBytes (raw : Option (DartValue Double)) (length : ℕ) : Option (List UInt8) :=
  match raw with
  | some (.arr items) =>
    if items.length ≠ length then none
    else items.mapM fun
      | .num (.inl value) => byteOfInt value
      | _ => none
  | _ => none

/-- The loop over a list that may hold doubles. -/
def numberItems (out : List UInt8) : List (DartValue Double) → Option (Option (List UInt8))
  | [] => some (some out)
  | .num (.inl value) :: rest =>
    match byteOfInt value with
    | some byte => numberItems (out ++ [byte]) rest
    | none => some none
  | .num (.inr double) :: rest =>
    if dart.compareInt double 0 = some .lt ∨ dart.compareInt double 255 = some .gt then some none
    else
      match dart.toInt double with
      | none => none
      | some value => numberItems (out ++ [UInt8.ofNat value.toNat]) rest
  | _ :: _ => some none

/-- A list of numbers from 0 to 255 of a length. -/
def rowNumbers (raw : Option (DartValue Double)) (length : ℕ) : Option (Option (List UInt8)) :=
  match raw with
  | some (.arr items) => if items.length ≠ length then some none else numberItems dart [] items
  | _ => some none

/-- The integer of a number; a double that is not finite throws. -/
def numberToInt : DartNumber Double → Option ℤ
  | .inl value => some value
  | .inr double => dart.toInt double

def starterKindOfInt (value : ℤ) : Option StarterKind :=
  match value with
  | 0 => some .juice
  | 1 => some .spark
  | 2 => some .seed
  | 3 => some .pulse
  | 4 => some .kick
  | _ => none

def rowStarterKind : Option (DartValue Double) → Option (Option StarterKind)
  | some (.num number) => (numberToInt dart number).map starterKindOfInt
  | _ => some none

/-- A number is above an integer, or does not compare with it. -/
def numberNotAtMost (number : DartNumber Double) (bound : ℤ) : Bool :=
  match number with
  | .inl value => decide (bound < value)
  | .inr double =>
    dart.compareInt double bound != some .lt && dart.compareInt double bound != some .eq

/-- A date in milliseconds, or in seconds when it is small; there is none of zero. -/
def rowTimestamp : Option (DartValue Double) → Option (Option DateTime)
  | some (.num number) =>
    if numberNotAtMost dart number 0 = false then some none
    else
      match numberToInt dart number with
      | none => none
      | some value =>
        let millis := if value < 100000000000 then value * 1000 else value
        (fromMillisecondsSinceEpoch millis).map some
  | _ => some none

/-- A text of a row. -/
def rowText : Option (DartValue Double) → Option String
  | some (.str text) => some text
  | _ => none

/-- A slot of a row, if it is one of the five. -/
def rowSlot : Option (DartValue Double) → Option (Option ℤ)
  | some (.num (.inl value)) => some (if 0 ≤ value ∧ value < 5 then some value else none)
  | some (.num (.inr double)) =>
    if (dart.compareInt double 0 = some .gt ∨ dart.compareInt double 0 = some .eq) ∧
        dart.compareInt double 5 = some .lt then
      (dart.toInt double).map some
    else some none
  | _ => some none

def hostStatusOfText : String → Option HostInvitationStatus
  | "pending" => some .pending
  | "accepted" => some .accepted
  | "rejected" => some .rejected
  | "expired" => some .expired
  | _ => none

def rejectionReasonOfText : String → Option RejectionReason
  | "empty_slot" => some .emptySlot
  | "other" => some .other
  | _ => none

/-! ### Rows -/

/-- The members of a decoded object. -/
abbrev DartRow (Double : Type) := List (String × DartValue Double)

/-- The model of a row of the invitation view, if it has one. -/
def readInvitation (row : DartRow Double) : Option (Option Invitation) :=
  match rowBytes (row.lookup "invitation_id") 32, rowBytes (row.lookup "from_pubkey") 32 with
  | some invitationId, some fromPubkey =>
    let direction := rowText (row.lookup "direction")
    let toPubkey := rowBytes (row.lookup "to_pubkey") 32
    if direction ≠ some "incoming" ∧ direction ≠ some "outgoing" then some none
    else if direction = some "outgoing" ∧ toPubkey = none then some none
    else
      let status := (rowText (row.lookup "status")).bind hostStatusOfText
      match rowStarterKind dart (row.lookup "starter_kind"),
          rowTimestamp dart (row.lookup "sent_at") with
      | some starterKind, some sentAt =>
        match status, starterKind, sentAt with
        | some status, some starterKind, some sentAt =>
          match rowTimestamp dart (row.lookup "responded_at"),
              rowSlot dart (row.lookup "starter_slot") with
          | some respondedAt, some starterSlot =>
            some (some {
              id := invitationId
              fromPubkey := fromPubkey
              fromRootPubkey := rowBytes (row.lookup "from_root_pubkey") 32
              fromCardSignatureHex :=
                (rowBytes (row.lookup "from_card_signature") 64).map hexText
              toPubkey := if direction = some "incoming" then none else toPubkey
              kind := starterKind
              starterSlot := starterSlot
              status := status
              sentAt := sentAt
              expiresAt := if status = .expired then respondedAt else none
              respondedAt := respondedAt
              rejectionReason :=
                (rowText (row.lookup "rejection_reason")).bind rejectionReasonOfText })
          | _, _ => none
        | _, _, _ => some none
      | _, _ => none
  | _, _ => some none

/-- The root a relationship is shown with: the one of the row, or an identity that is not the
    peer key. -/
def shownRoot (peerRoot : Option (List UInt8)) (peerIdentity peer : List UInt8) :
    Option (List UInt8) :=
  match peerRoot with
  | some root => some root
  | none => if peerIdentity = peer then none else some peerIdentity

/-- The model of a row of the relationship view, if it has one. -/
def readRelationship (row : DartRow Double) : Option (Option Relationship) :=
  match rowNumbers dart (row.lookup "peer_pubkey") 32,
      rowNumbers dart (row.lookup "peer_root_pubkey") 32,
      rowNumbers dart (row.lookup "peer_identity") 32,
      rowNumbers dart (row.lookup "own_starter_id") 32,
      rowNumbers dart (row.lookup "peer_starter_id") 32,
      rowStarterKind dart (row.lookup "starter_kind"),
      rowTimestamp dart (row.lookup "established_at") with
  | some peer, some peerRoot, some peerIdentity, some ownStarter, some peerStarter, some kind,
      some establishedAt =>
    let status := rowText (row.lookup "status")
    match peer, peerIdentity, ownStarter, peerStarter, kind, establishedAt with
    | some peer, some peerIdentity, some ownStarter, some peerStarter, some kind,
        some establishedAt =>
      if status ≠ some "active" ∧ status ≠ some "pending_remote_break" ∧
          status ≠ some "broken" then
        some none
      else
        some (some {
          peerPubkey := peer
          peerRootPubkey := shownRoot peerRoot peerIdentity peer
          kind := kind
          ownStarterId := ownStarter
          peerStarterId := peerStarter
          establishedAt := establishedAt
          isActive := status != some "broken"
          hasPendingRemoteBreak := status == some "pending_remote_break" })
    | _, _, _, _, _, _ => some none
  | _, _, _, _, _, _, _ => none

/-- The loop over the rows: what is not an object, or has no model, is left out. -/
def readRows {α : Type} (read : DartRow Double → Option (Option α)) :
    List (DartValue Double) → Option (List α)
  | [] => some []
  | .obj row :: rest =>
    match read row with
    | none => none
    | some none => readRows read rest
    | some (some model) => (readRows read rest).map (model :: ·)
  | _ :: rest => readRows read rest

/-! ### The services -/

/-- The rows of a view; a null pointer from the runtime is a missing document. -/
def projectRows (schema field : String) (projected : Option Document) :
    Option (List (DartValue Double)) :=
  match projected with
  | none => none
  | some doc =>
    match jsonDecode dart.toDartRuntime doc with
    | .obj members =>
      if rowText (members.lookup "schema") = some schema ∧
          isBackupVersion dart.toDartRuntime (members.lookup "version") then
        match members.lookup field with
        | some (.arr rows) => some rows
        | _ => none
      else none
    | _ => none

/-- The models of the projected rows, sorted. -/
def loadModels {α : Type} (schema field : String) (read : DartRow Double → Option (Option α))
    (le : α → α → Bool) (project : Document → Option Document)
    (ledgerRoot : List (String × DartValue Double)) : Option (List α) :=
  match jsonEncode dart.toDartRuntime (.obj ledgerRoot) with
  | none => none
  | some doc =>
    match projectRows dart schema field (project doc) with
    | none => some []
    | some rows => (readRows read rows).map (dart.sort le)

def loadInvitations (project : Document → Option Document)
    (ledgerRoot : List (String × DartValue Double)) : Option (List Invitation) :=
  loadModels dart "hivra.invitation_current_view" "invitations" (readInvitation dart)
    (fun a b => decide (b.sentAt.millis ≤ a.sentAt.millis)) project ledgerRoot

def loadRelationships (project : Document → Option Document)
    (ledgerRoot : List (String × DartValue Double)) : Option (List Relationship) :=
  loadModels dart "hivra.relationship_current_view" "relationships" (readRelationship dart)
    (fun left right => decide (right.establishedAt.millis ≤ left.establishedAt.millis)) project
    ledgerRoot

end Read

end Hivra
