import Hivra.Core.InvitationLifecycle
import Hivra.Core.PlannedStarters
import Hivra.Ffi.Reimport

namespace Hivra

open ByteString Replay

/-!
# The history of a runtime

What holds of the capsule in memory over every run of the calls of the host interface, whatever
peers send in between.
-/

section Starters

variable {id other : StarterId} {layout : SlotLayout}

/-- A starter that a new layout holds was there or is the one that is placed. -/
theorem contains_occupyFirstFree (h : (layout.occupyFirstFree other).containsStarter id = true) :
    layout.containsStarter id = true ∨ id = other := by
  rcases layout.update_cases SlotState.isEmpty (.occupied other) with
    ⟨-, heq⟩ | ⟨front, old, back, hslots, -, -, heq⟩
  · rw [SlotLayout.occupyFirstFree, heq] at h
    exact .inl h
  · rw [SlotLayout.containsStarter, SlotLayout.occupyFirstFree, heq] at h
    rw [SlotLayout.containsStarter, hslots]
    simp only [List.any_append, List.any_cons, Bool.or_eq_true] at h ⊢
    rcases h with h | h | h
    · exact .inl (.inl h)
    · exact .inr (Option.some.inj (SlotState.holds_iff.mp h)).symm
    · exact .inl (.inr (.inr h))

/-- A starter that is freed is in no slot, since it stood in one. -/
theorem contains_freeStarter (hunlocked : Unlocked layout)
    (h : (layout.freeStarter other).containsStarter id = true) :
    layout.containsStarter id = true ∧ id ≠ other := by
  rcases layout.update_cases (SlotState.holds other) .empty with
    ⟨hnone, heq⟩ | ⟨front, old, back, hslots, -, hold, heq⟩
  · rw [SlotLayout.freeStarter, heq] at h
    refine ⟨h, ?_⟩
    rintro rfl
    obtain ⟨state, hstate, hholds⟩ := List.any_eq_true.mp h
    cases hholds.symm.trans (hnone state hstate)
  · have hnodup := hunlocked.nodup
    have hnone : SlotState.empty.starterId = none := rfl
    rw [← mem_starters_iff, SlotLayout.starters, SlotLayout.freeStarter, heq] at h
    rw [← mem_starters_iff, SlotLayout.starters, hslots]
    rw [SlotLayout.starters, hslots] at hnodup
    simp only [List.filterMap_append, List.filterMap_cons, SlotState.holds_iff.mp hold, hnone]
      at h hnodup ⊢
    have hnotin := (List.nodup_cons.mp (List.nodup_middle.mp hnodup)).1
    refine ⟨?_, fun heq => hnotin (heq ▸ h)⟩
    rw [List.mem_append, List.mem_cons]
    exact (List.mem_append.mp h).imp (fun h => h) .inr

/-- What is known of the starters of a placement: the owner created each and has burned none, and
    none stands twice. -/
theorem placement_live (owner : PubKey) (revoked : List StarterId) (events : List Event) :
    Unlocked (placement owner revoked events) ∧
      ∀ id, (placement owner revoked events).containsStarter id = true →
        (∃ event ∈ events, ownerCreates owner event = some id) ∧
          ∀ event ∈ events, ownerBurns owner event ≠ some id := by
  suffices hlive : Unlocked (replay (slotStep owner revoked) (.empty, []) events).1 ∧
      ∀ id, (replay (slotStep owner revoked) (.empty, []) events).1.containsStarter id = true →
        id ∉ (replay (slotStep owner revoked) (.empty, []) events).2 ∧
          ∃ event ∈ events, ownerCreates owner event = some id by
    refine ⟨hlive.1, fun id hid => ?_⟩
    obtain ⟨hunburned, hcreated⟩ := hlive.2 id hid
    rw [mem_burned_iff] at hunburned
    exact ⟨hcreated, fun event hevent hburns => hunburned ⟨event, hevent, hburns⟩⟩
  refine replay_invariant (P := fun state : SlotLayout × List StarterId => Unlocked state.1 ∧
    ∀ id, state.1.containsStarter id = true → id ∉ state.2 ∧
      ∃ event ∈ events, ownerCreates owner event = some id)
    ⟨unlocked_empty, fun id hid => (nomatch hid)⟩ ?_
  · rintro state event hevent ⟨hunlocked, hlive⟩
    refine ⟨hunlocked.slotStep, fun id hid => ?_⟩
    rw [slotStep_eq] at hid ⊢
    cases hcreates : ownerCreates owner event with
    | some other =>
      rw [hcreates] at hid
      dsimp only at hid ⊢
      split_ifs at hid ⊢ with hrefused
      · exact hlive id hid
      · rcases contains_occupyFirstFree hid with hid | rfl
        · exact hlive id hid
        · exact ⟨fun hburned => hrefused (.inl hburned), event, hevent, hcreates⟩
    | none =>
      rw [hcreates] at hid
      cases hburns : ownerBurns owner event with
      | none =>
        rw [hburns] at hid
        exact hlive id hid
      | some other =>
        rw [hburns] at hid
        obtain ⟨hid, hne⟩ := contains_freeStarter hunlocked hid
        obtain ⟨hunburned, hcreated⟩ := hlive id hid
        exact ⟨by simp [mem_pushUnique, hunburned, hne], hcreated⟩

/-- The locks leave the starters where they are. -/
theorem starters_fromLedger (ledger : Ledger) :
    (SlotLayout.fromLedger ledger).starters = (unlockedLayout ledger).starters := by
  rw [SlotLayout.starters, SlotLayout.starters, SlotLayout.fromLedger_slots, List.filterMap_map]
  congr 1
  funext state
  exact starterId_lockIn _ state

end Starters

section Runs

variable {Seed : Type} {platform : Platform Seed} {state : RuntimeState} {capsule : Capsule}

/-- A run of calls only adds events to the capsule in memory. -/
theorem runCalls_grows (hcapsule : state.capsule = some capsule)
    (calls : List (RuntimeCall Seed)) :
    ∃ later new, (runCalls platform state calls).capsule = some later ∧
      CapsuleGrows capsule later new := by
  have hkept : KeptByAppends platform (fun _ => True) fun reached : RuntimeState =>
      ∃ new, StateGrows state reached new :=
    .of_grows fun hgrows _ ⟨new, hnew⟩ => ⟨_, hnew.trans hgrows⟩
  obtain ⟨new, hnone | ⟨hbefore, hafter, hgrows⟩⟩ :=
    runCalls_keeps hkept (fun _ (_ : _ ∈ calls) _ _ => trivial) ⟨[], .of_capsule_eq rfl⟩
  · exact nomatch hcapsule.symm.trans hnone
  · obtain rfl := Option.some.inj (hcapsule.symm.trans hbefore)
    exact ⟨_, new, hafter, hgrows⟩

/-- **History.**  In every run of calls the capsule keeps its network and its owner, its events
    are only added to, and each of its invitations keeps its place and its offer, and its status
    and answer once it is settled. -/
theorem runCalls_history (hcapsule : state.capsule = some capsule)
    (calls : List (RuntimeCall Seed)) :
    ∃ later, (runCalls platform state calls).capsule = some later ∧
      later.network = capsule.network ∧ later.ledger.owner = capsule.ledger.owner ∧
      capsule.ledger.events <+: later.ledger.events ∧
      ∀ (i : ℕ) (record : InvitationRecord),
        (invitationsWithStatus capsule.ledger)[i]? = some record →
        ∃ record', (invitationsWithStatus later.ledger)[i]? = some record' ∧
          RecordRun record record' := by
  obtain ⟨later, new, hafter, hgrows⟩ := runCalls_grows hcapsule calls
  refine ⟨later, hafter, hgrows.network, hgrows.pubkey, ⟨new, hgrows.events.symm⟩,
    fun i record hrecord => ?_⟩
  unfold invitationsWithStatus at hrecord ⊢
  rw [← show later.ledger.owner = capsule.ledger.owner from hgrows.pubkey] at hrecord
  rw [hgrows.events]
  exact projectInvitations_run _ _ new hrecord

/-- **Starters.**  After every run of calls no starter stands in two slots, each that stands in
    one was created by the owner, is not revoked, and was burned neither before the run nor in
    it. -/
theorem runCalls_starters (hcapsule : state.capsule = some capsule)
    (calls : List (RuntimeCall Seed)) :
    ∃ later, (runCalls platform state calls).capsule = some later ∧
      (SlotLayout.fromLedger later.ledger).starters.Nodup ∧
      ∀ id ∈ (SlotLayout.fromLedger later.ledger).starters,
        (∃ event ∈ later.ledger.events, ownerCreates later.ledger.owner event = some id) ∧
        id ∉ revokedCreatedStarterIds later.ledger ∧
        (∀ event ∈ later.ledger.events, ownerBurns later.ledger.owner event ≠ some id) ∧
        ∀ event ∈ capsule.ledger.events, ownerBurns capsule.ledger.owner event ≠ some id := by
  obtain ⟨later, new, hafter, hgrows⟩ := runCalls_grows hcapsule calls
  obtain ⟨hunlocked, hlive⟩ := placement_live later.ledger.owner
    (revokedCreatedStarterIds later.ledger) later.ledger.events
  refine ⟨later, hafter, ?_⟩
  rw [starters_fromLedger]
  refine ⟨hunlocked.nodup, fun id hid => ?_⟩
  obtain ⟨hcreated, hburned⟩ := hlive id (mem_starters_iff.mp hid)
  refine ⟨hcreated, fun hrevoked => ?_, hburned, fun event hevent => ?_⟩
  · exact nomatch (placement_not_contains hrevoked _).symm.trans (mem_starters_iff.mp hid)
  · rw [← show _ = capsule.ledger.owner from hgrows.pubkey]
    exact hburned event (hgrows.events ▸ List.mem_append_left new hevent)

/-- **Verified.**  In every run of calls on a capsule that was born here, whatever the peers send,
    each event carries a valid signature of its signer, and the ledger passes the verifier that
    an import applies. -/
theorem runCalls_verified (hgenuine : platform.Genuine) {birthClock : Option UInt64}
    {starterClock : ℕ → Option UInt64} {before start : RuntimeState} {seed : Seed}
    {network : Network} {capsuleType : CapsuleType} {ownerMode : CapsuleOwnerMode}
    (hinit : initRuntimeState platform birthClock starterClock before seed network capsuleType
      ownerMode = (.ok (), start)) (calls : List (RuntimeCall Seed)) :
    ∃ capsule, (runCalls platform start calls).capsule = some capsule ∧
      (∀ event ∈ capsule.ledger.events,
        Engine.verifyEvent platform event event.signer = true) ∧
      Engine.verifyLedgerV5 platform capsule.ledger = .ok () := by
  obtain ⟨born, continuity₀, hborn, hc₀, hsound₀, -⟩ :=
    initRuntimeState_sound hgenuine hinit
  obtain ⟨capsule, continuity, hcapsule, hc, hsound⟩ :=
    runCalls_keeps (soundState_kept hgenuine) (fun call (_ : call ∈ calls) _ _ => trivial)
      ⟨born, continuity₀, hborn, hc₀, hsound₀⟩
  exact ⟨capsule, hcapsule, hsound.signed, (verifyLedgerV5_iff platform hc).mpr hsound.verified⟩

end Runs

/-- A capsule that was born here, and what it appended. -/
theorem runCalls_history_born :
    ∃ capsule later, bornState.capsule = some capsule ∧
      (runCalls samplePlatform bornState bornCalls).capsule = some later ∧
      capsule.ledger.events <+: later.ledger.events := by
  obtain ⟨capsule, hcapsule⟩ :=
    Option.isSome_iff_exists.mp (by decide +kernel : bornState.capsule.isSome = true)
  obtain ⟨later, hlater, -, -, hprefix, -⟩ := runCalls_history hcapsule bornCalls
  exact ⟨capsule, later, hcapsule, hlater, hprefix⟩

/-- Its starters after a second birth. -/
theorem runCalls_starters_born :
    ∃ later, (runCalls samplePlatform bornState (bornCalls ++ [freeAppend 0])).capsule
        = some later ∧
      (SlotLayout.fromLedger later.ledger).starters.Nodup := by
  obtain ⟨capsule, hcapsule⟩ :=
    Option.isSome_iff_exists.mp (by decide +kernel : bornState.capsule.isSome = true)
  obtain ⟨later, hlater, hnodup, -⟩ := runCalls_starters hcapsule (bornCalls ++ [freeAppend 0])
  exact ⟨later, hlater, hnodup⟩

/-- A second birth is signed, and passes the verifier. -/
theorem runCalls_verified_born :
    ∃ capsule, (runCalls samplePlatform bornState (freeAppend 0 :: bornCalls)).capsule
        = some capsule ∧
      (∀ event ∈ capsule.ledger.events,
        Engine.verifyEvent samplePlatform event event.signer = true) ∧
      Engine.verifyLedgerV5 samplePlatform capsule.ledger = .ok () := by
  have hok : (initRuntimeState samplePlatform (some 10) (fun _ => some 20) ⟨none, 0⟩ bornSeed
      .neste .leaf .root).1 = .ok () := by decide +kernel
  exact runCalls_verified samplePlatform_genuine (Prod.ext hok (by rw [bornState]))
    (freeAppend 0 :: bornCalls)

end Hivra
