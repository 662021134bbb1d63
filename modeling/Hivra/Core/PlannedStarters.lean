import Hivra.Core.SlotRevocation

namespace Hivra

open ByteString Replay

/-!
# Planned starters

A plan is made on the layout of a ledger and carried out by one more event, whose effect is what
the replay of the longer ledger makes of it, burns, revokes and locks included.

* `acceptPlan_correct` — when which plan is made, and what it leads to.
-/

/-- One more event behind a ledger, whatever else the append has changed. -/
structure Appends (ledger : Ledger) (event : Event) (ledger' : Ledger) : Prop where
  owner : ledger'.owner = ledger.owner
  events : ledger'.events = ledger.events ++ [event]

variable {ledger ledger' : Ledger} {event : Event}

/-- The kind of the starter in a slot. -/
def kindAt (ledger : Ledger) (slot : SlotIndex) : Option StarterKind :=
  ((SlotLayout.fromLedger ledger).starterIdAt slot).bind (starterKindForId ledger)

/-- A starter in a slot, with its kind. -/
def IsLive (ledger : Ledger) (id : StarterId) (kind : StarterKind) : Prop :=
  (∃ slot, (SlotLayout.fromLedger ledger).starterIdAt slot = some id) ∧
    starterKindForId ledger id = some kind

/-- No two live starters of one kind. -/
def DistinctKinds (ledger : Ledger) : Prop :=
  ∀ slot slot' kind, kindAt ledger slot = some kind → kindAt ledger slot' = some kind →
    slot = slot'

variable {kind : StarterKind} {ledger : Ledger}

theorem kindAt_iff : (∃ slot, kindAt ledger slot = some kind) ↔ ∃ id, IsLive ledger id kind := by
  constructor
  · rintro ⟨slot, h⟩
    obtain ⟨id, hid, hkind⟩ := Option.bind_eq_some_iff.mp h
    exact ⟨id, ⟨slot, hid⟩, hkind⟩
  · rintro ⟨id, ⟨slot, hid⟩, hkind⟩
    exact ⟨slot, Option.bind_eq_some_iff.mpr ⟨id, hid, hkind⟩⟩

/-- Neither burned nor revoked nor in a slot. -/
structure FreshStarter (ledger : Ledger) (id : StarterId) : Prop where
  notBurned : ∀ event ∈ ledger.events, ownerBurns ledger.owner event ≠ some id
  notRevoked : id ∉ revokedCreatedStarterIds ledger
  notPresent : ∀ slot, (SlotLayout.fromLedger ledger).starterIdAt slot ≠ some id

/-! ### One more creation -/

/-- Creations leave the other lists of the layout as they are. -/
theorem revoked_created (h : Appends ledger event ledger') (hkind : event.kind = .starterCreated)
    (id : StarterId) :
    id ∈ revokedCreatedStarterIds ledger' ↔ id ∈ revokedCreatedStarterIds ledger := by
  have haccepted : acceptedStarter event = none := by simp [acceptedStarter, hkind]
  have hexpired : expiredInvitation event = none := by simp [expiredInvitation, hkind]
  have hoffer : ∀ signer invitationId, isSenderSignedOffer signer invitationId event = false := by
    intro signer invitationId
    simp [isSenderSignedOffer, hkind]
  simp only [mem_revokedCreatedStarterIds_iff, mem_expiredInvitationIds_iff, h.events,
    List.mem_append, List.mem_singleton, or_and_right, exists_or, exists_eq_left, haccepted,
    hexpired, hoffer, reduceCtorEq, false_and, exists_false, or_false, Bool.false_eq_true]

theorem locked_created (h : Appends ledger event ledger') (hkind : event.kind = .starterCreated) :
    lockedStarterIds ledger' = lockedStarterIds ledger := by
  unfold lockedStarterIds
  rw [h.owner, h.events, replay_snoc]
  congr 1
  unfold lockStep
  rw [hkind]

variable {id : StarterId}

/-- The starters that a placement takes for burned. -/
theorem mem_burned_iff {owner : PubKey} {revoked : List StarterId} {events : List Event} :
    id ∈ (replay (slotStep owner revoked) (.empty, []) events).2 ↔
      ∃ event ∈ events, ownerBurns owner event = some id := by
  induction events using List.reverseRecOn with
  | nil => simp
  | append_singleton events event ih =>
    rw [replay_snoc, slotStep_eq]
    have hlast : (∃ other ∈ events ++ [event], ownerBurns owner other = some id) ↔
        (∃ other ∈ events, ownerBurns owner other = some id) ∨
          ownerBurns owner event = some id := by
      simp [or_and_right, exists_or]
    rw [hlast, ← ih]
    -- An event that creates a starter burns none.
    have hburns : ∀ other, ownerCreates owner event = some other →
        ownerBurns owner event = none := by
      intro other hcreates
      unfold ownerCreates createdStarter at hcreates
      split_ifs at hcreates with hsigner hkind
      simp [ownerBurns, hkind]
    cases hcreates : ownerCreates owner event with
    | some other =>
      rw [hburns other hcreates]
      dsimp only
      split_ifs <;> simp
    | none =>
      cases hburned : ownerBurns owner event with
      | none => simp
      | some other => simp [mem_pushUnique, eq_comm]

/-- An update of the first match is an update of its place. -/
theorem updateFirst_eq_set {α : Type} {p : α → Bool} {items : List α} {i : ℕ} (value : α)
    (h : items.findIdx? p = some i) : updateFirst p (fun _ => value) items = items.set i value := by
  induction items generalizing i with
  | nil => exact nomatch h
  | cons a rest ih =>
    rw [List.findIdx?_cons] at h
    rw [updateFirst_cons]
    by_cases ha : p a = true
    · rw [if_pos ha] at h ⊢
      obtain rfl := Option.some.inj h
      rfl
    · rw [if_neg ha] at h ⊢
      obtain ⟨j, hj, rfl⟩ := Option.map_eq_some_iff.mp h
      rw [ih hj]
      rfl

theorem lockIn_isEmpty (ids : List StarterId) (state : SlotState) :
    (lockIn ids state).isEmpty = state.isEmpty := by
  cases state with
  | empty => rfl
  | occupied id => simp only [lockIn]; split_ifs <;> rfl
  | locked id => rfl

variable {slot : SlotIndex}

/-- The first free slot is the same before and after the locks. -/
theorem findFirstEmpty_fromLedger (h : (SlotLayout.fromLedger ledger).findFirstEmpty = some slot) :
    (unlockedLayout ledger).slots.findIdx? SlotState.isEmpty = some slot.val := by
  unfold SlotLayout.findFirstEmpty at h
  obtain ⟨i, hi, hslot⟩ := Option.bind_eq_some_iff.mp h
  have hval : slot.val = i := by
    unfold SlotIndex.new at hslot
    split_ifs at hslot
    exact congrArg Fin.val (Option.some.inj hslot).symm
  have hsame : (fun state => SlotState.isEmpty (lockIn (lockedStarterIds ledger) state))
      = SlotState.isEmpty := funext fun state => lockIn_isEmpty _ state
  rw [SlotLayout.fromLedger_slots, List.findIdx?_map] at hi
  rw [hval, ← hi]
  congr 1
  exact hsame.symm

/-- A fresh starter is placed in the first free slot. -/
theorem unlockedLayout_fresh (h : Appends ledger event ledger')
    (hcreates : ownerCreates ledger.owner event = some id) (hkind : event.kind = .starterCreated)
    (hfresh : FreshStarter ledger id) :
    unlockedLayout ledger' = (unlockedLayout ledger).occupyFirstFree id := by
  rw [unlockedLayout_eq, placement_congr (revoked_created h hkind), h.owner, h.events]
  unfold placement
  rw [replay_snoc, slotStep_eq, hcreates]
  dsimp only
  rw [if_neg]
  · rfl
  · rintro (hburned | hrevoked | hpresent)
    · obtain ⟨burn, hburn, hid⟩ := mem_burned_iff.mp hburned
      exact hfresh.notBurned burn hburn hid
    · exact hfresh.notRevoked hrevoked
    · -- A starter of the placement is in the same slot of the layout.
      obtain ⟨state, hmem, hholds⟩ := List.any_eq_true.mp hpresent
      obtain ⟨i, hi, rfl⟩ := List.getElem_of_mem hmem
      have hcapacity := (unlockedLayout ledger).capacity
      have hlt : i < 5 := hcapacity ▸ hi
      refine hfresh.notPresent ⟨i, hlt⟩ ?_
      unfold SlotLayout.starterIdAt SlotLayout.stateAt
      simp only [List.get_eq_getElem, SlotLayout.fromLedger_slots, List.getElem_map,
        starterId_lockIn]
      exact SlotState.holds_iff.mp hholds

/-- **Where a fresh starter goes**: into the first free slot, locked if it is offered already,
    and the other slots are what they were. -/
theorem fromLedger_fresh (h : Appends ledger event ledger')
    (hcreates : ownerCreates ledger.owner event = some id) (hkind : event.kind = .starterCreated)
    (hfresh : FreshStarter ledger id)
    (hslot : (SlotLayout.fromLedger ledger).findFirstEmpty = some slot) :
    (SlotLayout.fromLedger ledger').slots = (SlotLayout.fromLedger ledger).slots.set slot.val
      (lockIn (lockedStarterIds ledger) (.occupied id)) := by
  rw [SlotLayout.fromLedger_slots, SlotLayout.fromLedger_slots, locked_created h hkind,
    unlockedLayout_fresh h hcreates hkind hfresh]
  show (updateFirst _ _ _).map _ = _
  rw [updateFirst_eq_set _ (findFirstEmpty_fromLedger hslot), List.map_set]

theorem stateAt_of_set {layout layout' : SlotLayout} {state : SlotState}
    (h : layout'.slots = layout.slots.set slot.val state) (other : SlotIndex) :
    layout'.stateAt other = if slot = other then state else layout.stateAt other := by
  unfold SlotLayout.stateAt
  simp only [List.get_eq_getElem, h, List.getElem_set, Fin.ext_iff]

/-! ### Kinds -/

theorem starterKindForId_created {payload : StarterCreatedPayload}
    (h : Appends ledger event ledger') (hkind : event.kind = .starterCreated)
    (hsigner : event.signer = ledger.owner)
    (hparse : StarterCreatedPayload.fromBytes event.payload = .ok payload) (id : StarterId) :
    starterKindForId ledger' id =
      if payload.starterId = id then some payload.kind else starterKindForId ledger id := by
  unfold starterKindForId
  rw [h.owner, h.events, List.reverse_append, List.reverse_singleton, List.singleton_append,
    List.findSome?_cons, if_neg (not_not.mpr hsigner), if_neg (not_not.mpr hkind), hparse]
  dsimp only
  split_ifs <;> rfl

/-- What one creation by a plan leads to. -/
def CarriedOut (ledger : Ledger) (planned : PlannedStarterCreation) : Prop :=
  ∀ ledger' event payload, Appends ledger event ledger' → event.kind = .starterCreated →
    event.signer = ledger.owner → StarterCreatedPayload.fromBytes event.payload = .ok payload →
    payload.kind = planned.kind → FreshStarter ledger payload.starterId →
      (SlotLayout.fromLedger ledger').starterIdAt planned.slot = some payload.starterId ∧
        (∀ slot, slot ≠ planned.slot →
          (SlotLayout.fromLedger ledger').stateAt slot
            = (SlotLayout.fromLedger ledger).stateAt slot) ∧
          (DistinctKinds ledger → DistinctKinds ledger')

/-- **A creation in the first free slot, of a kind that is not live.** -/
theorem carriedOut_of_missing {planned : PlannedStarterCreation}
    (hslot : (SlotLayout.fromLedger ledger).findFirstEmpty = some planned.slot)
    (hmissing : ∀ id, ¬ IsLive ledger id planned.kind) : CarriedOut ledger planned := by
  intro ledger' event payload happends hkind hsigner hparse hplanned hfresh
  have hcreates : ownerCreates ledger.owner event = some payload.starterId := by
    rw [ownerCreates, if_pos hsigner, createdStarter, if_pos hkind, hparse]
    rfl
  have hstate := stateAt_of_set (fromLedger_fresh happends hcreates hkind hfresh hslot)
  have hnew : (SlotLayout.fromLedger ledger').starterIdAt planned.slot
      = some payload.starterId := by
    rw [SlotLayout.starterIdAt, hstate, if_pos rfl, starterId_lockIn]
    rfl
  have hrest : ∀ slot, slot ≠ planned.slot → (SlotLayout.fromLedger ledger').stateAt slot
      = (SlotLayout.fromLedger ledger).stateAt slot := by
    intro slot hne
    rw [hstate, if_neg (Ne.symm hne)]
  refine ⟨hnew, hrest, fun hdistinct => ?_⟩
  -- The kinds: the planned one in its slot, and what they were elsewhere.
  have hkindOf := starterKindForId_created happends hkind hsigner hparse
  have hplannedKind : kindAt ledger' planned.slot = some planned.kind := by
    rw [kindAt, hnew, Option.bind_some, hkindOf, if_pos rfl, hplanned]
  have hkindAt : ∀ slot, slot ≠ planned.slot → kindAt ledger' slot = kindAt ledger slot := by
    intro slot hne
    unfold kindAt SlotLayout.starterIdAt
    rw [hrest slot hne]
    cases hid : ((SlotLayout.fromLedger ledger).stateAt slot).starterId with
    | none => rfl
    | some id =>
      rw [Option.bind_some, Option.bind_some, hkindOf, if_neg]
      rintro rfl
      exact hfresh.notPresent slot hid
  have hother : ∀ slot, slot ≠ planned.slot → kindAt ledger' slot ≠ some planned.kind := by
    intro slot hne h
    rw [hkindAt slot hne] at h
    obtain ⟨id, hlive⟩ := kindAt_iff.mp ⟨slot, h⟩
    exact hmissing id hlive
  intro slot slot' kind h h'
  by_cases hfirst : slot = planned.slot
  · by_cases hsecond : slot' = planned.slot
    · rw [hfirst, hsecond]
    · rw [hfirst, hplannedKind] at h
      rw [← h] at h'
      exact absurd h' (hother slot' hsecond)
  · by_cases hsecond : slot' = planned.slot
    · rw [hsecond, hplannedKind] at h'
      rw [← h'] at h
      exact absurd h (hother slot hfirst)
    · rw [hkindAt slot hfirst] at h
      rw [hkindAt slot' hsecond] at h'
      exact hdistinct slot slot' kind h h'

/-! ### The plan -/

/-- The starter a plan creates. -/
def AcceptPlan.creation : AcceptPlan → Option PlannedStarterCreation
  | .useExistingStarter _ created => created
  | .createStarterInEmptySlot slot kind => some ⟨slot, kind⟩
  | .noCapacity => none

theorem mem_entriesWithKinds {entry : SlotEntry} :
    entry ∈ (SlotLayout.fromLedger ledger).entriesWithKinds ledger ↔
      ∃ slot, entry = ⟨slot, (SlotLayout.fromLedger ledger).stateAt slot, kindAt ledger slot⟩ := by
  unfold SlotLayout.entriesWithKinds
  rw [List.mem_map]
  constructor
  · rintro ⟨slot, -, rfl⟩
    exact ⟨slot, rfl⟩
  · rintro ⟨slot, rfl⟩
    exact ⟨slot, List.mem_finRange slot, rfl⟩

/-- The live starter of a kind that a plan finds. -/
def matchingStarter (ledger : Ledger) (kind : StarterKind) : Option StarterId :=
  (((SlotLayout.fromLedger ledger).entriesWithKinds ledger).find? fun entry =>
    entry.starterKind == some kind).bind fun entry => entry.state.starterId

theorem matchingStarter_live (h : matchingStarter ledger kind = some id) :
    IsLive ledger id kind := by
  obtain ⟨entry, hfind, hid⟩ := Option.bind_eq_some_iff.mp h
  obtain ⟨slot, rfl⟩ := mem_entriesWithKinds.mp (List.mem_of_find?_eq_some hfind)
  have hkind : kindAt ledger slot = some kind := by simpa using List.find?_some hfind
  have hstarter : (SlotLayout.fromLedger ledger).starterIdAt slot = some id := hid
  refine ⟨⟨slot, hstarter⟩, ?_⟩
  rw [kindAt, hstarter] at hkind
  exact hkind

theorem matchingStarter_none (h : matchingStarter ledger kind = none) (id : StarterId) :
    ¬ IsLive ledger id kind := by
  intro hlive
  obtain ⟨slot, hkind⟩ := kindAt_iff.mpr ⟨id, hlive⟩
  have hmem : (⟨slot, (SlotLayout.fromLedger ledger).stateAt slot, kindAt ledger slot⟩ : SlotEntry)
      ∈ (SlotLayout.fromLedger ledger).entriesWithKinds ledger :=
    mem_entriesWithKinds.mpr ⟨slot, rfl⟩
  cases hfind : ((SlotLayout.fromLedger ledger).entriesWithKinds ledger).find? fun entry =>
      entry.starterKind == some kind with
  | none =>
    have hnone := List.find?_eq_none.mp hfind _ hmem
    rw [hkind] at hnone
    simp at hnone
  | some entry =>
    obtain ⟨found, rfl⟩ := mem_entriesWithKinds.mp (List.mem_of_find?_eq_some hfind)
    have hfound : kindAt ledger found = some kind := by simpa using List.find?_some hfind
    obtain ⟨other, hother, -⟩ := Option.bind_eq_some_iff.mp hfound
    rw [matchingStarter, hfind] at h
    exact absurd (h.symm.trans hother) (by simp)

/-- A kind that is missing among the live ones is the kind of no live starter. -/
theorem firstMissingKind_missing
    (h : firstMissingKind (activeStarterKinds (SlotLayout.fromLedger ledger) ledger) = some kind)
    (id : StarterId) : ¬ IsLive ledger id kind := by
  intro hlive
  obtain ⟨slot, hkind⟩ := kindAt_iff.mpr ⟨id, hlive⟩
  have hnot : kind ∉ activeStarterKinds (SlotLayout.fromLedger ledger) ledger := by
    simpa using List.find?_some h
  exact hnot (List.mem_filterMap.mpr ⟨_, mem_entriesWithKinds.mpr ⟨slot, rfl⟩, hkind⟩)

theorem findFirstEmpty_isSome_iff (layout : SlotLayout) :
    layout.findFirstEmpty.isSome = true ↔ ∃ slot, layout.starterIdAt slot = none := by
  have hempty : ∀ state : SlotState, state.isEmpty = true ↔ state.starterId = none := by
    intro state
    cases state <;> simp [SlotState.isEmpty, SlotState.starterId]
  constructor
  · intro h
    obtain ⟨slot, hslot⟩ := Option.isSome_iff_exists.mp h
    obtain ⟨i, hi, hnew⟩ := Option.bind_eq_some_iff.mp hslot
    obtain ⟨hlt, hstate, -⟩ := List.findIdx?_eq_some_iff_getElem.mp hi
    exact ⟨⟨i, layout.capacity ▸ hlt⟩, (hempty _).mp hstate⟩
  · rintro ⟨slot, hslot⟩
    have hmem : layout.stateAt slot ∈ layout.slots := List.get_mem _ _
    cases hfind : layout.slots.findIdx? SlotState.isEmpty with
    | none =>
      have hnone := List.findIdx?_eq_none_iff.mp hfind _ hmem
      rw [(hempty _).mpr hslot] at hnone
      cases hnone
    | some i =>
      obtain ⟨hlt, -, -⟩ := List.findIdx?_eq_some_iff_getElem.mp hfind
      rw [SlotLayout.findFirstEmpty, hfind, Option.bind_some, SlotIndex.new,
        dif_pos (layout.capacity ▸ hlt)]
      rfl

/-- What is claimed of a plan. -/
structure PlanCorrect (ledger : Ledger) (kind : StarterKind) (plan : AcceptPlan) : Prop where
  existing : (∃ id created, plan = .useExistingStarter id created) ↔ ∃ id, IsLive ledger id kind
  reused : ∀ id created, plan = .useExistingStarter id created → IsLive ledger id kind
  created : (∃ slot, plan = .createStarterInEmptySlot slot kind) ↔
    (¬ ∃ id, IsLive ledger id kind) ∧
      ∃ slot, (SlotLayout.fromLedger ledger).starterIdAt slot = none
  noCapacity : plan = .noCapacity ↔ (¬ ∃ id, IsLive ledger id kind) ∧
    ¬ ∃ slot, (SlotLayout.fromLedger ledger).starterIdAt slot = none
  newKind : ∀ planned, plan.creation = some planned → ∀ id, ¬ IsLive ledger id planned.kind
  executes : ∀ planned, plan.creation = some planned → CarriedOut ledger planned

private theorem planAcceptForKind_eq (ledger : Ledger) (kind : StarterKind) :
    planAcceptForKind ledger (SlotLayout.fromLedger ledger) kind =
      match matchingStarter ledger kind with
      | some id => .useExistingStarter id
          ((SlotLayout.fromLedger ledger).findFirstEmpty.bind fun slot =>
            (firstMissingKind (activeStarterKinds (SlotLayout.fromLedger ledger) ledger)).map
              fun kind => ⟨slot, kind⟩)
      | none => match (SlotLayout.fromLedger ledger).findFirstEmpty with
        | some slot => .createStarterInEmptySlot slot kind
        | none => .noCapacity := rfl

/-- **Accept plans are correct and can be carried out.** -/
theorem acceptPlan_correct (ledger : Ledger) (kind : StarterKind) :
    PlanCorrect ledger kind
      (planAcceptForKind ledger (SlotLayout.fromLedger ledger) kind) := by
  have hempty := findFirstEmpty_isSome_iff (SlotLayout.fromLedger ledger)
  rw [planAcceptForKind_eq]
  cases hmatching : matchingStarter ledger kind with
  | some id =>
    have hlive := matchingStarter_live hmatching
    have hsome : ∃ id, IsLive ledger id kind := ⟨id, hlive⟩
    -- A new starter beside the reused one goes to the first free slot, with a missing kind.
    have hcreation : ∀ planned, (AcceptPlan.useExistingStarter id
        ((SlotLayout.fromLedger ledger).findFirstEmpty.bind fun slot =>
          (firstMissingKind (activeStarterKinds (SlotLayout.fromLedger ledger) ledger)).map
            fun kind => ⟨slot, kind⟩)).creation = some planned →
        (SlotLayout.fromLedger ledger).findFirstEmpty = some planned.slot ∧
          ∀ id, ¬ IsLive ledger id planned.kind := by
      intro planned h
      obtain ⟨slot, hslot, h⟩ := Option.bind_eq_some_iff.mp h
      obtain ⟨missing, hmissing, rfl⟩ := Option.map_eq_some_iff.mp h
      exact ⟨hslot, firstMissingKind_missing hmissing⟩
    exact {
      existing := ⟨fun _ => hsome, fun _ => ⟨id, _, rfl⟩⟩
      reused := by
        intro other created h
        obtain ⟨rfl, -⟩ := AcceptPlan.useExistingStarter.inj h
        exact hlive
      created := ⟨fun ⟨_, h⟩ => (nomatch h), fun h => absurd hsome h.1⟩
      noCapacity := ⟨fun h => (nomatch h), fun h => absurd hsome h.1⟩
      newKind := fun planned h => (hcreation planned h).2
      executes := fun planned h => carriedOut_of_missing (hcreation planned h).1
        (hcreation planned h).2 }
  | none =>
    have hmissing := matchingStarter_none hmatching
    have hnone : ¬ ∃ id, IsLive ledger id kind := fun ⟨id, hlive⟩ => hmissing id hlive
    cases hslot : (SlotLayout.fromLedger ledger).findFirstEmpty with
    | some slot =>
      rw [hslot] at hempty
      have hfree := hempty.mp rfl
      exact {
        existing := ⟨fun ⟨_, _, h⟩ => (nomatch h), fun h => absurd h hnone⟩
        reused := fun _ _ h => (nomatch h)
        created := ⟨fun _ => ⟨hnone, hfree⟩, fun _ => ⟨slot, rfl⟩⟩
        noCapacity := ⟨fun h => (nomatch h), fun h => absurd hfree h.2⟩
        newKind := by
          intro planned h
          obtain rfl := Option.some.inj h
          exact hmissing
        executes := by
          intro planned h
          obtain rfl := Option.some.inj h
          exact carriedOut_of_missing hslot hmissing }
    | none =>
      rw [hslot] at hempty
      have hfull : ¬ ∃ slot, (SlotLayout.fromLedger ledger).starterIdAt slot = none :=
        fun h => nomatch hempty.mpr h
      exact {
        existing := ⟨fun ⟨_, _, h⟩ => (nomatch h), fun h => absurd h hnone⟩
        reused := fun _ _ h => (nomatch h)
        created := ⟨fun ⟨_, h⟩ => (nomatch h), fun h => absurd h.2 hfull⟩
        noCapacity := ⟨fun _ => ⟨hnone, hfull⟩, fun _ => rfl⟩
        newKind := fun _ h => (nomatch h)
        executes := fun _ h => (nomatch h) }

end Hivra
