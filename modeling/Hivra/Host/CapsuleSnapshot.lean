import Hivra.Ffi.CapsuleApi
import Hivra.Ffi.CapsuleState
import Hivra.Host.ViewsFaithful

namespace Hivra

open JsonDocument Serde

/-!
# The snapshot of a capsule

What the host shows of the capsule in the runtime.  The slots come from the projection of
the runtime, and only if its version is the number of events the host has decoded; else all
five slots show empty, as they do where there is no capsule at all.  A result is none where
the host throws.

* `loadCapsuleSnapshot_slots` — which slots a snapshot shows as occupied.
-/

/-- A slot as the host shows it; a missing kind is shown as unknown. -/
structure StarterSlotState where
  occupied : Bool
  kind : Option StarterKind
  starterId : Option (List UInt8)
  locked : Bool

/-- The snapshot.  The counters and the head it has too are those of the list of capsules. -/
structure CapsuleLedgerSnapshot where
  publicKey : List UInt8
  starterCount : ℕ
  hasLedgerHistory : Bool
  starterIds : List (Option (List UInt8))
  starterKinds : List (Option (Option StarterKind))
  lockedStarterSlots : List ℤ

/-- A snapshot without history. -/
def CapsuleLedgerSnapshot.blank (publicKey : List UInt8) : CapsuleLedgerSnapshot where
  publicKey := publicKey
  starterCount := 0
  hasLedgerHistory := false
  starterIds := List.replicate 5 none
  starterKinds := List.replicate 5 none
  lockedStarterSlots := []

section Read

variable {Seed Double : Type} (platform : Platform Seed) (lossy : Literal → Option UInt64)
  (dart : DartViews Double)

/-- The loop over a list of numbers; each is truncated to an integer. -/
def bytes32Items : List (DartValue Double) → Option (Option (List UInt8))
  | [] => some (some [])
  | .num number :: rest =>
    match numberToInt dart number with
    | none => none
    | some value =>
      match byteOfInt value with
      | none => some none
      | some byte => (bytes32Items rest).map (Option.map (byte :: ·))
  | _ :: _ => some none

/-- A list of 32 numbers from 0 to 255. -/
def bytes32List : Option (DartValue Double) → Option (Option (List UInt8))
  | some (.arr items) => if items.length ≠ 32 then some none else bytes32Items dart items
  | _ => some none

/-- The starters of the five slots. -/
def starterIdsFromCapsuleState (root : Option (DartRow Double)) :
    Option (List (Option (List UInt8))) :=
  match root.bind (List.lookup "slots") with
  | some (.arr slots) =>
    if slots.length ≠ 5 then some (List.replicate 5 none)
    else slots.mapM fun
      | .null => some none
      | slot => bytes32List dart (some slot)
  | _ => some (List.replicate 5 none)

/-- The kind of a slot that shows a starter; the inner none is an unknown kind. -/
def slotKind (raw : DartValue Double) : Option (Option StarterKind) :=
  match raw with
  | .num number =>
    let below := match number with
      | .inl value => decide (value < 0)
      | .inr double => dart.compareInt double 0 == some .lt
    let above := match number with
      | .inl value => decide (4 < value)
      | .inr double => dart.compareInt double 4 == some .gt
    if below || above then some none
    else (numberToInt dart number).map fun value => some ((starterKindOfInt value).getD .juice)
  | _ => some none

/-- The kinds of the five slots. -/
def starterKindsFromCapsuleState (root : Option (DartRow Double))
    (starterIds : List (Option (List UInt8))) : Option (List (Option (Option StarterKind))) :=
  match root.bind (List.lookup "starter_kinds") with
  | some (.arr projected) =>
    if projected.length ≠ 5 then some (starterIds.map fun id => id.map fun _ => none)
    else (starterIds.zip projected).mapM fun
      | (none, _) => some none
      | (some _, raw) => (slotKind dart raw).map some
  | _ => some (starterIds.map fun id => id.map fun _ => none)

/-- The version of the projection. -/
def projectedVersion (root : Option (DartRow Double)) : Option (Option ℤ) :=
  match root.bind (List.lookup "version") with
  | some (.num number) => (numberToInt dart number).map some
  | _ => some none

/-- The ledger of the runtime, decoded. -/
def exportedRoot (state : RuntimeState) : Option (DartRow Double) :=
  (hivraExportLedger platform state).bind (exportLedgerRoot dart.toDartRuntime)

/-- The projection of the runtime, decoded. -/
def exportedStateRoot (state : RuntimeState) : Option (DartRow Double) :=
  (hivraExportCapsuleStateJson platform.sha256 state).bind (exportLedgerRoot dart.toDartRuntime)

/-- The invitations of the ledger in the runtime. -/
def loadRuntimeInvitations (state : RuntimeState) : Option (List Invitation) :=
  match exportedRoot platform dart state with
  | none => some []
  | some root => loadInvitations dart (hivraProjectInvitationCurrentViewV1 lossy) root

/-- The key a snapshot is shown under. -/
def snapshotKey (state : RuntimeState) : Option (List UInt8) :=
  (bytes32List dart ((exportedStateRoot platform dart state).bind (List.lookup "public_key"))).map
    fun key => (key <|> (hivraCapsuleRuntimeOwnerPublicKey state).map fun owner =>
      owner.bytes.toList).getD []

/-- The snapshot of the capsule in the runtime; starters count only at the version of the ledger. -/
def loadCapsuleSnapshot (state : RuntimeState) : Option CapsuleLedgerSnapshot := do
  let capsuleState := exportedStateRoot platform dart state
  let publicKey ← snapshotKey platform dart state
  match exportedRoot platform dart state with
  | none => some (.blank publicKey)
  | some root =>
    if (rootEvents root).isEmpty then some (.blank publicKey)
    else
      let stateVersion ← projectedVersion dart capsuleState
      let starterIds ←
        if stateVersion = some ((rootEvents root).length : ℤ) then
          starterIdsFromCapsuleState dart capsuleState
        else some (List.replicate 5 none)
      let starterKinds ← starterKindsFromCapsuleState dart capsuleState starterIds
      let invitations ← loadInvitations dart (hivraProjectInvitationCurrentViewV1 lossy) root
      some {
        publicKey := publicKey
        starterCount := (starterIds.filter Option.isSome).length
        hasLedgerHistory := true
        starterIds := starterIds
        starterKinds := starterKinds
        lockedStarterSlots := (invitations.filter fun invitation =>
          invitation.status == .pending).filterMap Invitation.starterSlot }

/-- The slots of a snapshot. -/
def CapsuleLedgerSnapshot.starterSlots (snapshot : CapsuleLedgerSnapshot) : List StarterSlotState :=
  (List.range 5).map fun (index : ℕ) =>
    let id := snapshot.starterIds[index]?.join
    { occupied := id.isSome
      kind := (snapshot.starterKinds[index]?.join).join
      starterId := id
      locked := decide ((index : ℤ) ∈ snapshot.lockedStarterSlots) }

/-! ### What a snapshot shows -/

/-- A snapshot of this state shows an empty slot: there is no capsule, or its events are too
    many for the version of the projection, or a slot is empty. -/
def ShowsEmptySlot (state : RuntimeState) : Prop :=
  ∀ capsule ∈ state.capsule, 2 ^ 32 ≤ capsule.ledger.events.length ∨
    (SlotLayout.fromLedger capsule.ledger).slots.any SlotState.isEmpty = true

variable {platform lossy dart}

private theorem wellKeyed_capsuleState (state : CapsuleState) :
    (Json.obj (capsuleStateMembers state)).WellKeyed := by
  refine ⟨by simp [capsuleStateMembers], (Json.wellKeyedMembers_iff _).mpr ?_⟩
  simp only [capsuleStateMembers, List.mem_cons, List.not_mem_nil, or_false, forall_eq_or_imp,
    forall_eq]
  have hbyte : ∀ value, (writeU8 value).WellKeyed := fun _ => trivial
  refine ⟨wellKeyed_writeBytes _, trivial, Json.wellKeyed_arr ?_, trivial,
    wellKeyed_writeOption (fun _ => wellKeyed_writeBytes _) _, trivial, trivial,
    Json.wellKeyed_arr ?_⟩
  · intro item hitem
    obtain ⟨slot, -, rfl⟩ := List.mem_map.mp hitem
    exact wellKeyed_writeOption (fun _ => wellKeyed_writeBytes _) _
  · intro item hitem
    obtain ⟨kind, -, rfl⟩ := List.mem_map.mp hitem
    exact wellKeyed_writeOption hbyte _

variable {state : RuntimeState}

/-- The projection of a capsule, decoded. -/
private theorem exportedStateRoot_some {capsule : Capsule} (h : state.capsule = some capsule) :
    exportedStateRoot platform dart state
      = some (decodedRow dart (capsuleStateMembers (.fromCapsule platform.sha256 capsule))) := by
  rw [exportedStateRoot, hivraExportCapsuleStateJson, h, Option.map_some, Option.bind_some,
    exportLedgerRoot, jsonDecode, Json.collapse_of_wellKeyed _ (wellKeyed_capsuleState _), Json.map]
  rfl

/-- The ledger of a capsule, decoded. -/
theorem exportedRoot_some {capsule : Capsule} (h : state.capsule = some capsule) :
    exportedRoot platform dart state
      = some (decodedMembers dart.toDartRuntime platform.sha256 capsule.ledger) := by
  rw [exportedRoot, hivraExportLedger, exportRuntimeLedger, h]
  exact exportLedgerRoot_exported dart.toDartRuntime platform.sha256 capsule.ledger

theorem exportedRoot_none (h : state.capsule = none) : exportedRoot platform dart state = none := by
  rw [exportedRoot, hivraExportLedger, exportRuntimeLedger, h]
  rfl

/-- The version of the projection is the number of events in 32 bits. -/
private theorem projectedVersion_written (capsule : Capsule) :
    projectedVersion dart (some (decodedRow dart
        (capsuleStateMembers (.fromCapsule platform.sha256 capsule))))
      = some (some ((capsule.ledger.events.length % 2 ^ 32 : ℕ) : ℤ)) := by
  have hsmall : capsule.ledger.events.length % 2 ^ 32 < 2 ^ 63 := by omega
  have hversion := decoded_writeNat dart hsmall
  rw [projectedVersion, Option.bind_some, lookup_decodedRow]
  simp only [capsuleStateMembers, List.lookup, String.reduceBEq, Option.map_some,
    CapsuleState.fromCapsule]
  rw [hversion]
  rfl

/-- A starter the runtime wrote is read back. -/
private theorem bytes32List_written {bytes : List UInt8} (h : bytes.length = 32) :
    bytes32List dart (some (decoded dart (writeBytes bytes))) = some (some bytes) := by
  have hitems : bytes32Items dart (bytes.map fun byte => .num (.inl (byte.toNat : ℤ)))
      = some (some bytes) := by
    clear h
    induction bytes with
    | nil => rfl
    | cons byte rest ih =>
      rw [List.map_cons, bytes32Items, numberToInt]
      dsimp only
      rw [byteOfInt_toNat, ih]
      rfl
  rw [decoded, writeBytes, Json.map, decoded_items, bytes32List, if_neg (by simpa using h), hitems]

/-- The slots of the projection are those of the layout. -/
private theorem starterIds_written (capsule : Capsule) :
    starterIdsFromCapsuleState dart (some (decodedRow dart
        (capsuleStateMembers (.fromCapsule platform.sha256 capsule))))
      = some ((SlotLayout.fromLedger capsule.ledger).starterIds.map
          (Option.map fun id => id.bytes.toList)) := by
  have hlength : (SlotLayout.fromLedger capsule.ledger).starterIds.length = 5 := by
    rw [SlotLayout.starterIds, List.length_map, SlotLayout.capacity]
  rw [starterIdsFromCapsuleState, Option.bind_some, lookup_decodedRow]
  simp only [capsuleStateMembers, List.lookup, String.reduceBEq, Option.map_some,
    CapsuleState.fromCapsule, decoded, Json.map, Json.mapItems_eq_map, List.length_map, hlength,
    ne_eq, not_true_eq_false, if_false]
  generalize (SlotLayout.fromLedger capsule.ledger).starterIds = ids
  induction ids with
  | nil => rfl
  | cons id rest ih =>
    rw [List.map_cons, List.map_cons, List.mapM_cons, ih]
    cases id with
    | none => rfl
    | some id =>
      have hid : bytes32List dart (some (decoded dart (writeBytes id.bytes.toList)))
          = some (some id.bytes.toList) := bytes32List_written id.bytes.2
      rw [decoded, writeBytes, Json.map] at hid
      simp only [writeOption, writeBytes, Json.map]
      rw [hid]
      rfl

/-- Without events every slot is empty. -/
private theorem anyEmpty_of_noEvents {ledger : Ledger} (h : ledger.events = []) :
    (SlotLayout.fromLedger ledger).slots.any SlotState.isEmpty = true := by
  unfold SlotLayout.fromLedger unlockedLayout lockedStarterIds
  rw [h]
  rfl

variable {snapshot : CapsuleLedgerSnapshot}

/-- Some slot shows empty iff one of the ids is missing. -/
private theorem any_starterSlots (h : snapshot.starterIds.length = 5) :
    snapshot.starterSlots.any (fun slot => !slot.occupied) =
      snapshot.starterIds.any (·.isNone) := by
  match hids : snapshot.starterIds with
  | [a, b, c, d, e] =>
    cases a <;> cases b <;> cases c <;> cases d <;> cases e <;>
      simp [CapsuleLedgerSnapshot.starterSlots, List.range_succ, hids]
  | [] | [_] | [_, _] | [_, _, _] | [_, _, _, _] | _ :: _ :: _ :: _ :: _ :: _ :: _ =>
    rw [hids] at h
    simp at h

/-- **Which states show an empty slot.** -/
theorem loadCapsuleSnapshot_slots
    (h : loadCapsuleSnapshot platform lossy dart state = some snapshot) :
    snapshot.starterSlots.any (fun slot => !slot.occupied) = true ↔ ShowsEmptySlot state := by
  have hblank : ∀ key, (CapsuleLedgerSnapshot.blank key).starterSlots.any
      (fun slot => !slot.occupied) = true := fun _ => rfl
  unfold loadCapsuleSnapshot at h
  simp only [Option.bind_eq_bind, Option.bind_eq_some_iff] at h
  obtain ⟨key, -, h⟩ := h
  cases hcapsule : state.capsule with
  | none =>
    rw [exportedRoot_none hcapsule] at h
    rw [← Option.some.inj h]
    simp [hblank, ShowsEmptySlot, hcapsule]
  | some capsule =>
    rw [exportedRoot_some hcapsule] at h
    have hlength : (rootEvents (decodedMembers dart.toDartRuntime platform.sha256
        capsule.ledger)).length = capsule.ledger.events.length := by
      rw [rootEvents_decoded, List.length_map]
    have hshows : ShowsEmptySlot state ↔ 2 ^ 32 ≤ capsule.ledger.events.length ∨
        (SlotLayout.fromLedger capsule.ledger).slots.any SlotState.isEmpty = true := by
      simp [ShowsEmptySlot, hcapsule]
    rw [hshows]
    dsimp only at h
    split at h
    · rename_i hempty
      have hnil : capsule.ledger.events = [] := by
        rw [List.isEmpty_iff, ← List.length_eq_zero_iff, hlength] at hempty
        exact List.length_eq_zero_iff.mp hempty
      rw [← Option.some.inj h]
      exact iff_of_true (hblank _) (Or.inr (anyEmpty_of_noEvents hnil))
    · rw [exportedStateRoot_some hcapsule, projectedVersion_written, Option.bind_some,
        starterIds_written, hlength] at h
      by_cases hcount : capsule.ledger.events.length < 2 ^ 32
      · -- the version is the number of events, and the slots are those of the layout
        rw [Nat.mod_eq_of_lt hcount, if_pos rfl] at h
        simp only [Option.bind_some, Option.bind_eq_some_iff] at h
        obtain ⟨kinds, -, invitations, -, h⟩ := h
        have hids : snapshot.starterIds = (SlotLayout.fromLedger capsule.ledger).starterIds.map
            (Option.map fun id => id.bytes.toList) := by rw [← Option.some.inj h]
        have hfive : snapshot.starterIds.length = 5 := by
          rw [hids, List.length_map, SlotLayout.starterIds, List.length_map, SlotLayout.capacity]
        have hsame : (snapshot.starterIds.any (·.isNone))
            = (SlotLayout.fromLedger capsule.ledger).slots.any SlotState.isEmpty := by
          rw [hids, SlotLayout.starterIds, List.map_map, List.any_map]
          apply List.any_congr rfl
          intro slot
          cases slot <;> rfl
        rw [any_starterSlots hfive, hsame]
        exact ⟨Or.inr, fun hor => hor.resolve_left (by omega)⟩
      · have hmod : ¬ (some ((capsule.ledger.events.length % 2 ^ 32 : ℕ) : ℤ)
            = some (capsule.ledger.events.length : ℤ)) := by
          rw [Option.some.injEq]
          omega
        rw [if_neg hmod] at h
        simp only [Option.bind_some, Option.bind_eq_some_iff] at h
        obtain ⟨kinds, -, invitations, -, h⟩ := h
        have hids : snapshot.starterIds = List.replicate 5 none := by rw [← Option.some.inj h]
        have hany : snapshot.starterSlots.any (fun slot => !slot.occupied) = true := by
          rw [any_starterSlots (by rw [hids]; rfl), hids]
          rfl
        exact iff_of_true hany (Or.inl (by omega))

end Read

end Hivra
