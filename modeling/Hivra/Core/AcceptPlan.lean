import Hivra.Core.Slot
import Mathlib.Data.List.FinRange

namespace Hivra

open ByteString

/-!
# Planning an acceptance

Which starter an accepted invitation of a kind becomes a relationship with: a live one of
that kind, or a new one in the first free slot.

* `planAcceptForKind_useExisting` — a reused starter is live.
-/

/-- The kind the owner last created a starter with. -/
def starterKindForId (ledger : Ledger) (starterId : StarterId) : Option StarterKind :=
  ledger.events.reverse.findSome? fun event =>
    if event.signer ≠ ledger.owner then none
    else if event.kind ≠ .starterCreated then none
    else match StarterCreatedPayload.fromBytes event.payload with
      | .error _ => none
      | .ok payload => if payload.starterId = starterId then some payload.kind else none

/-- A slot with the kind of its starter. -/
structure SlotEntry where
  index : SlotIndex
  state : SlotState
  starterKind : Option StarterKind
  deriving DecidableEq

namespace SlotLayout

/-- The starter at a slot. -/
def starterIdAt (layout : SlotLayout) (index : SlotIndex) : Option StarterId :=
  (layout.stateAt index).starterId

def entriesWithKinds (layout : SlotLayout) (ledger : Ledger) : List SlotEntry :=
  (List.finRange 5).map fun index => {
    index := index
    state := layout.stateAt index
    starterKind := (layout.starterIdAt index).bind (starterKindForId ledger) }

end SlotLayout

/-- A starter to create, and where. -/
structure PlannedStarterCreation where
  slot : SlotIndex
  kind : StarterKind
  deriving DecidableEq

/-- What an acceptance will do. -/
inductive AcceptPlan
  | useExistingStarter (relationshipStarterId : StarterId)
      (createdStarter : Option PlannedStarterCreation)
  | createStarterInEmptySlot (slot : SlotIndex) (kind : StarterKind)
  | noCapacity
  deriving DecidableEq

/-- The kinds of the live starters. -/
def activeStarterKinds (slots : SlotLayout) (ledger : Ledger) : List StarterKind :=
  (slots.entriesWithKinds ledger).filterMap SlotEntry.starterKind

/-- The first kind, in the order of the wire bytes, that is not live. -/
def firstMissingKind (activeKinds : List StarterKind) : Option StarterKind :=
  [.juice, .spark, .seed, .pulse, .kick].find? fun kind => decide (kind ∉ activeKinds)

/-- A live starter of the kind is bound, and a missing kind created; else the kind is created. -/
def planAcceptForKind (ledger : Ledger) (slots : SlotLayout) (kind : StarterKind) : AcceptPlan :=
  let matchingStarterId := ((slots.entriesWithKinds ledger).find? fun entry =>
    entry.starterKind == some kind).bind fun entry => entry.state.starterId
  let emptySlot := slots.findFirstEmpty
  match matchingStarterId with
  | some relationshipStarterId =>
    .useExistingStarter relationshipStarterId (emptySlot.bind fun slot =>
      (firstMissingKind (activeStarterKinds slots ledger)).map fun kind => ⟨slot, kind⟩)
  | none =>
    match emptySlot with
    | some slot => .createStarterInEmptySlot slot kind
    | none => .noCapacity

/-- A starter the plan reuses is in a slot. -/
theorem planAcceptForKind_useExisting {ledger : Ledger} {slots : SlotLayout} {kind : StarterKind}
    {starterId : StarterId} {created : Option PlannedStarterCreation}
    (h : planAcceptForKind ledger slots kind = .useExistingStarter starterId created) :
    ∃ index, slots.starterIdAt index = some starterId := by
  unfold planAcceptForKind at h
  dsimp only at h
  split at h
  · rename_i found hfound
    rw [AcceptPlan.useExistingStarter.injEq] at h
    obtain ⟨entry, hentry, hstate⟩ := Option.bind_eq_some_iff.mp hfound
    obtain ⟨index, -, rfl⟩ := List.mem_map.mp (List.mem_of_find?_eq_some hentry)
    rw [h.1] at hstate
    exact ⟨index, hstate⟩
  · split at h <;> simp at h

end Hivra
