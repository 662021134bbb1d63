import Hivra.Host.CapsuleSnapshot
import Hivra.Host.LedgerWriters

namespace Hivra

open ByteString JsonDocument Serde

/-!
# The intent handler

What the handler of the host does before it hands an intent to a worker: which capsule the
intent is for, what the host shows of the invitation, and the reason of a rejection.  The
invitations and the slots are always those of the capsule in the runtime.  A result is none
where the host throws; an id is its bytes.
-/

/-- What the handler tells the user. -/
inductive IntentMessage
  | invitationSent
  | invitationAccepted
  | invitationRejected
  | invitationCanceled
  | alreadyResolved
  | notAvailable
  | onlyIncoming
  | invalidInvitationId
  | cancelFailed
  /-- The failure message of a code. -/
  | failure (code : ℤ)
  /-- The failure message of a code, and that the fact is recorded nevertheless. -/
  | recordedLocally (code : ℤ)
  /-- The failure message of a code, and that a pending offer has appeared. -/
  | appearedUnconfirmed (code : ℤ)
  deriving DecidableEq

structure IntentResult where
  code : ℤ
  message : IntentMessage
  deriving DecidableEq

/-- How the handler is set up: whether it has a state manager, and what a resolver of the
    active capsule answers, where there is one. -/
structure IntentSetup where
  stateManager : Bool
  resolved : Option String

section Handler

variable {Seed Double : Type} (platform : Platform Seed) (lossy : Literal → Option UInt64)
  (dart : DartViews Double)

/-! ### Which capsule -/

/-- A text without white space at its ends, in lower case. -/
def trimmedLower (text : String) : String :=
  String.ofList ((dartTrim text.toList).map Char.toLower)

def normalizeExplicitCapsuleHex (capsuleHex : Option String) : Option String :=
  (capsuleHex.map trimmedLower).filter isHex64

def isUnknownCapsuleKey (capsuleHex : String) : Bool :=
  trimmedLower capsuleHex == "" || trimmedLower capsuleHex == "unknown"

def activeCapsuleHex (setup : IntentSetup) (state : RuntimeState) : Option String :=
  match setup.resolved.filter (· != "") with
  | some resolved => some resolved
  | none =>
    if setup.stateManager then
      (loadCapsuleSnapshot platform lossy dart state).map fun snapshot =>
        if snapshot.publicKey.isEmpty then "unknown" else hexText snapshot.publicKey
    else some "unknown"

def activeCapsuleHexOrNull (setup : IntentSetup) (state : RuntimeState) : Option (Option String) :=
  (activeCapsuleHex platform lossy dart setup state).map fun capsuleHex =>
    if isUnknownCapsuleKey capsuleHex then none else some capsuleHex

def capsuleHexOrNull (setup : IntentSetup) (state : RuntimeState) (explicit : Option String) :
    Option (Option String) :=
  match normalizeExplicitCapsuleHex explicit with
  | some capsuleHex => some (some capsuleHex)
  | none => activeCapsuleHexOrNull platform lossy dart setup state

/-! ### What the host shows -/

/-- The invitations of the runtime, none of them where another capsule is active. -/
def loadHandlerInvitations (setup : IntentSetup) (state : RuntimeState)
    (capsuleHex : Option String) : Option (List Invitation) :=
  match normalizeExplicitCapsuleHex capsuleHex with
  | none => loadRuntimeInvitations platform lossy dart state
  | some expected =>
    match activeCapsuleHexOrNull platform lossy dart setup state with
    | none => none
    | some active =>
      if active.any (· != expected) then some []
      else loadRuntimeInvitations platform lossy dart state

def findInvitationById (setup : IntentSetup) (state : RuntimeState) (invitationId : List UInt8)
    (capsuleHex : Option String) : Option (Option Invitation) :=
  (loadHandlerInvitations platform lossy dart setup state capsuleHex).map
    (List.find? fun invitation => invitation.id == invitationId)

/-! ### Rejections -/

/-- The reason of a rejection; the invitation is not looked at. -/
def rejectReasonForInvitation (setup : IntentSetup) (state : RuntimeState)
    (_ : Invitation) : Option UInt8 :=
  if setup.stateManager then
    (loadCapsuleSnapshot platform lossy dart state).map fun snapshot =>
      if snapshot.starterSlots.any fun slot => !slot.occupied then 0 else 1
  else some 1

/-- A rejection for a worker. -/
structure RejectRequest where
  invitationId : InvitationId
  reason : UInt8
  capsuleHex : Option String
  deriving DecidableEq

/-- A list of 32 bytes. -/
def bytes32 (bytes : List UInt8) : Option (Bytes 32) :=
  if h : bytes.length = 32 then some ⟨bytes, h⟩ else none

/-- `rejectInvitation` up to its first await: its result, or what it asks of a worker. -/
def startReject (setup : IntentSetup) (state : RuntimeState) (invitation : Invitation)
    (explicit : Option String) : Option (IntentResult ⊕ RejectRequest) :=
  match capsuleHexOrNull platform lossy dart setup state explicit with
  | none => none
  | some capsuleHex =>
    match findInvitationById platform lossy dart setup state invitation.id capsuleHex with
    | none => none
    | some found =>
      if found.any fun shown => shown.status != .pending then
        some (.inl ⟨0, .alreadyResolved⟩)
      else if found.any fun shown => shown.toPubkey.isSome then some (.inl ⟨-1, .onlyIncoming⟩)
      else
        match bytes32 invitation.id with
        | none => some (.inl ⟨-1, .invalidInvitationId⟩)
        | some invitationId =>
          (rejectReasonForInvitation platform lossy dart setup state invitation).map fun reason =>
            .inr ⟨invitationId, reason, capsuleHex⟩

end Handler

end Hivra
