import Hivra.Core.Ledger
import Hivra.Core.StarterPayloads
import Hivra.Lib.Replay

namespace Hivra

open ByteString Replay

/-!
# The slot projection

`SlotLayout.fromLedger` replays the owner's starter events over five slots, leaves out
the starters of revoked acceptances and locks those of open offers.  Each loop of the
source is a replay here; a position search followed by a store is `updateFirst`.  A layout
carries that it has five slots.
-/

/-- Projected slot state. -/
inductive SlotState
  | empty
  | occupied (id : StarterId)
  | locked (id : StarterId)
  deriving DecidableEq

namespace SlotState

def isEmpty : SlotState → Bool
  | empty => true
  | _ => false

/-- The starter in a slot. -/
def starterId : SlotState → Option StarterId
  | empty => none
  | occupied id => some id
  | locked id => some id

/-- The slot holds the starter, locked or not. -/
def holds (id : StarterId) (state : SlotState) : Bool := state.starterId == some id

end SlotState

/-- Five slots; a starter kind is not tied to a position. -/
structure SlotLayout where
  slots : List SlotState
  capacity : slots.length = 5
  deriving DecidableEq

/-- The slot index of a position that is in range. -/
def SlotIndex.new (value : ℕ) : Option SlotIndex :=
  if h : value < 5 then some ⟨value, h⟩ else none

namespace SlotLayout

def empty : SlotLayout := ⟨List.replicate 5 .empty, rfl⟩

/-- Change the first slot that satisfies `p`. -/
def update (layout : SlotLayout) (p : SlotState → Bool) (state : SlotState) : SlotLayout :=
  ⟨updateFirst p (fun _ => state) layout.slots, by rw [length_updateFirst, layout.capacity]⟩

def occupyFirstFree (layout : SlotLayout) (starterId : StarterId) : SlotLayout :=
  layout.update SlotState.isEmpty (.occupied starterId)

def freeStarter (layout : SlotLayout) (starterId : StarterId) : SlotLayout :=
  layout.update (SlotState.holds starterId) .empty

def lockStarter (layout : SlotLayout) (starterId : StarterId) : SlotLayout :=
  layout.update (fun state => state == .occupied starterId) (.locked starterId)

def containsStarter (layout : SlotLayout) (starterId : StarterId) : Bool :=
  layout.slots.any (SlotState.holds starterId)

def stateAt (layout : SlotLayout) (index : SlotIndex) : SlotState :=
  layout.slots.get ⟨index.val, by rw [layout.capacity]; exact index.isLt⟩

def findFirstEmpty (layout : SlotLayout) : Option SlotIndex :=
  (layout.slots.findIdx? SlotState.isEmpty).bind SlotIndex.new

def findByStarter (layout : SlotLayout) (starterId : StarterId) : Option SlotIndex :=
  (layout.slots.findIdx? (SlotState.holds starterId)).bind SlotIndex.new

end SlotLayout

/-! ### Revoked acceptances -/

/-- Push an element unless it is there already. -/
def pushUnique {α : Type} [DecidableEq α] (items : List α) (item : α) : List α :=
  if items.any (fun current => current == item) then items else items ++ [item]

theorem mem_pushUnique {α : Type} [DecidableEq α] {items : List α} {item a : α} :
    a ∈ pushUnique items item ↔ a ∈ items ∨ a = item := by
  unfold pushUnique
  split_ifs with hknown
  · have hitem : item ∈ items := by simpa using hknown
    constructor
    · exact Or.inl
    · rintro (h | rfl)
      · exact h
      · exact hitem
  · simp

/-- An offer to the owner by `signer` whose payload starts with `invitationId`. -/
def isSenderSignedOffer (signer : PubKey) (invitationId : InvitationId) (offer : Event) : Bool :=
  offer.kind == .invitationReceived && offer.signer == signer &&
    (decide (32 ≤ offer.payload.length) && readFixed32 offer.payload 0 == invitationId)

/-- The first loop: the invitations whose sender sent an expiry. -/
def expiredInvitationIds (events : List Event) : List InvitationId :=
  replay (fun expired event =>
    if event.kind ≠ .invitationExpired then expired
    else match InvitationExpiredPayload.fromBytes event.payload with
      | .error _ => expired
      | .ok payload =>
        if events.any (isSenderSignedOffer event.signer payload.invitationId) then
          pushUnique expired payload.invitationId
        else expired) [] events

/-- The second loop: the starters that the acceptances of those invitations name. -/
def revokedCreatedStarterIds (ledger : Ledger) : List StarterId :=
  replay (fun revoked event =>
    if event.kind ≠ .invitationAccepted then revoked
    else match InvitationAcceptedPayload.fromBytes event.payload with
      | .error _ => revoked
      | .ok payload =>
        if (expiredInvitationIds ledger.events).any
            (fun invitationId => invitationId == payload.invitationId) then
          pushUnique revoked payload.createdStarterId
        else revoked) [] ledger.events

/-! ### Locked starters -/

/-- The pending pairs that are not of an invitation. -/
def clearPending (pending : List (InvitationId × StarterId)) (invitationId : InvitationId) :
    List (InvitationId × StarterId) :=
  pending.filter fun entry => entry.1 != invitationId

/-- The loop body of the pending list.  A terminal clears its invitation whoever signed
    it. -/
def lockStep (owner : PubKey) (pending : List (InvitationId × StarterId)) (event : Event) :
    List (InvitationId × StarterId) :=
  match event.kind with
  | .invitationSent =>
    if event.signer ≠ owner then pending
    else match InvitationSentPayload.fromBytes event.payload with
      | .error _ => pending
      | .ok payload => pending ++ [(payload.invitationId, payload.starterId)]
  | .invitationAccepted =>
    match InvitationAcceptedPayload.fromBytes event.payload with
    | .error _ => pending
    | .ok payload => clearPending pending payload.invitationId
  | .invitationRejected =>
    match InvitationRejectedPayload.fromBytes event.payload with
    | .error _ => pending
    | .ok payload => clearPending pending payload.invitationId
  | .invitationExpired =>
    match InvitationExpiredPayload.fromBytes event.payload with
    | .error _ => pending
    | .ok payload => clearPending pending payload.invitationId
  | _ => pending

/-- The second loop: distinct starters in order; a sixth one breaks it. -/
def collectUnique (unique : List StarterId) : List (InvitationId × StarterId) → List StarterId
  | [] => unique
  | (_, starterId) :: rest =>
    if unique.any (fun current => current == starterId) then collectUnique unique rest
    else if 5 ≤ unique.length then unique
    else collectUnique (unique ++ [starterId]) rest

/-- The filled entries of the array of five, in order. -/
def lockedStarterIds (ledger : Ledger) : List StarterId :=
  collectUnique [] (replay (lockStep ledger.owner) [] ledger.events)

/-! ### The layout of a ledger -/

/-- The loop body of the layout, with the starters burned so far. -/
def slotStep (owner : PubKey) (revoked : List StarterId)
    (state : SlotLayout × List StarterId) (event : Event) : SlotLayout × List StarterId :=
  if event.signer ≠ owner then state
  else match event.kind with
    | .starterCreated =>
      match StarterCreatedPayload.fromBytes event.payload with
      | .error _ => state
      | .ok payload =>
        if state.2.any (fun burned => burned == payload.starterId) then state
        -- The starter of a revoked acceptance stays in the ledger without a live slot.
        else if revoked.any (fun id => id == payload.starterId) then state
        else if state.1.containsStarter payload.starterId then state
        else (state.1.occupyFirstFree payload.starterId, state.2)
    | .starterBurned =>
      match StarterBurnedPayload.fromBytes event.payload with
      | .error _ => state
      | .ok payload =>
        (state.1.freeStarter payload.starterId, pushUnique state.2 payload.starterId)
    | _ => state

/-- The layout before the locks. -/
def unlockedLayout (ledger : Ledger) : SlotLayout :=
  (replay (slotStep ledger.owner (revokedCreatedStarterIds ledger)) (.empty, [])
    ledger.events).1

def SlotLayout.fromLedger (ledger : Ledger) : SlotLayout :=
  replay SlotLayout.lockStarter (unlockedLayout ledger) (lockedStarterIds ledger)

end Hivra
