import Hivra.Core.Slot
import Mathlib.Data.Finset.Card

namespace Hivra

open ByteString Replay

/-!
# What the slot projection computes

The unlocked layout holds each starter once, so locking is a pointwise change, and the
list of locked starters is the first five distinct ones with an open send.
-/

/-! ### Unlocked layouts -/

/-- The starters of a layout, in slot order. -/
def SlotLayout.starters (layout : SlotLayout) : List StarterId :=
  layout.slots.filterMap SlotState.starterId

/-- A layout before the locks: no slot is locked and no starter stands twice. -/
structure Unlocked (layout : SlotLayout) : Prop where
  noLocks : ∀ state ∈ layout.slots, ∀ id, state ≠ .locked id
  nodup : layout.starters.Nodup

variable {id : StarterId}

theorem SlotState.holds_iff {state : SlotState} :
    state.holds id = true ↔ state.starterId = some id := by
  simp [SlotState.holds]

variable {layout : SlotLayout}

theorem mem_starters_iff : id ∈ layout.starters ↔ layout.containsStarter id = true := by
  simp [SlotLayout.starters, SlotLayout.containsStarter, SlotState.holds_iff]

theorem unlocked_empty : Unlocked .empty := by
  constructor
  · intro state hstate id
    rw [List.eq_of_mem_replicate hstate]
    simp
  · decide

/-- Either nothing matches and the layout stays, or its first match is replaced. -/
theorem SlotLayout.update_cases (layout : SlotLayout) (p : SlotState → Bool) (state : SlotState) :
    ((∀ s ∈ layout.slots, p s = false) ∧ layout.update p state = layout) ∨
      ∃ front old back, layout.slots = front ++ old :: back ∧ (∀ s ∈ front, p s = false) ∧
        p old = true ∧ (layout.update p state).slots = front ++ state :: back := by
  rcases updateFirst_cases p (fun _ => state) layout.slots with
    ⟨hnone, heq⟩ | ⟨front, old, back, hslots, hfront, hold, heq⟩
  · refine Or.inl ⟨hnone, ?_⟩
    cases layout
    simpa [SlotLayout.update] using heq
  · exact Or.inr ⟨front, old, back, hslots, hfront, hold, heq⟩

/-- A replaced slot is the only new one. -/
private theorem noLocks_of_replaced {front back slots : List SlotState} {old state : SlotState}
    (h : Unlocked layout) (hslots : layout.slots = front ++ old :: back)
    (heq : slots = front ++ state :: back) (hstate : ∀ id, state ≠ .locked id) :
    ∀ s ∈ slots, ∀ id, s ≠ .locked id := by
  intro s hs id
  rw [heq, List.mem_append, List.mem_cons] at hs
  rcases hs with hfront | rfl | hback
  · exact h.noLocks s (by rw [hslots]; exact List.mem_append_left _ hfront) id
  · exact hstate id
  · exact h.noLocks s (by rw [hslots]; simp [hback]) id

/-- A new starter in the first free slot. -/
theorem Unlocked.occupyFirstFree (h : Unlocked layout) (hnew : layout.containsStarter id = false) :
    Unlocked (layout.occupyFirstFree id) := by
  have hnotin : id ∉ layout.starters := by
    rw [mem_starters_iff, hnew]
    simp
  rcases layout.update_cases SlotState.isEmpty (.occupied id) with
    ⟨-, heq⟩ | ⟨front, old, back, hslots, -, hempty, heq⟩
  · rw [SlotLayout.occupyFirstFree, heq]
    exact h
  · refine ⟨noLocks_of_replaced h hslots heq (by simp), ?_⟩
    have hold : old.starterId = none := by
      cases old <;> simp_all [SlotState.isEmpty, SlotState.starterId]
    have hnodup := h.nodup
    unfold SlotLayout.starters at hnodup hnotin ⊢
    rw [SlotLayout.occupyFirstFree, heq]
    rw [hslots] at hnodup hnotin
    simp only [List.filterMap_append, List.filterMap_cons, hold] at hnodup hnotin ⊢
    exact List.nodup_middle.mpr (List.nodup_cons.mpr ⟨hnotin, hnodup⟩)

/-- A starter leaves its slot. -/
theorem Unlocked.freeStarter (id : StarterId) (h : Unlocked layout) :
    Unlocked (layout.freeStarter id) := by
  rcases layout.update_cases (SlotState.holds id) .empty with
    ⟨-, heq⟩ | ⟨front, old, back, hslots, -, -, heq⟩
  · rw [SlotLayout.freeStarter, heq]
    exact h
  · refine ⟨noLocks_of_replaced h hslots heq (by simp), ?_⟩
    have hsub : (front ++ back).Sublist (front ++ old :: back) :=
      List.Sublist.append_left (List.sublist_cons_self old back) front
    have hnodup := h.nodup
    unfold SlotLayout.starters at hnodup ⊢
    rw [hslots] at hnodup
    rw [SlotLayout.freeStarter, heq]
    have hrest := hnodup.sublist (hsub.filterMap SlotState.starterId)
    rw [List.filterMap_append] at hrest ⊢
    exact hrest

/-- **Step lemma.** Every event keeps the layout unlocked. -/
theorem Unlocked.slotStep {owner : PubKey} {revoked : List StarterId}
    {state : SlotLayout × List StarterId} {event : Event} (h : Unlocked state.1) :
    Unlocked (slotStep owner revoked state event).1 := by
  unfold Hivra.slotStep
  split_ifs
  · exact h
  · split
    · split
      · exact h
      · split_ifs with hburned hrevoked hcontains
        · exact h
        · exact h
        · exact h
        · exact h.occupyFirstFree (by simpa using hcontains)
    · split
      · exact h
      · exact h.freeStarter _
    · exact h

/-- **Run lemma.** The replayed layout has no lock and no starter twice. -/
theorem unlockedLayout_unlocked (ledger : Ledger) : Unlocked (unlockedLayout ledger) :=
  replay_invariant (P := fun state : SlotLayout × List StarterId => Unlocked state.1)
    unlocked_empty fun _ _ _ h => h.slotStep

/-! ### Locking -/

/-- A slot after the locks. -/
def lockIn (ids : List StarterId) : SlotState → SlotState
  | .occupied id => if id ∈ ids then .locked id else .occupied id
  | state => state

@[simp] theorem starterId_lockIn (ids : List StarterId) (state : SlotState) :
    (lockIn ids state).starterId = state.starterId := by
  cases state with
  | empty => rfl
  | occupied id => simp only [lockIn]; split_ifs <;> rfl
  | locked id => rfl

/-- A slot list with one starter in at most one slot is locked at once or one by one. -/
private theorem updateFirst_lock {slots : List SlotState} (id : StarterId)
    (hnodup : (slots.filterMap SlotState.starterId).Nodup) :
    updateFirst (fun state => state == .occupied id) (fun _ => .locked id) slots
      = slots.map (lockIn [id]) := by
  induction slots with
  | nil => rfl
  | cons state rest ih =>
    have hrest : (rest.filterMap SlotState.starterId).Nodup :=
      hnodup.sublist ((List.sublist_cons_self state rest).filterMap _)
    rw [updateFirst_cons, List.map_cons]
    by_cases hstate : state = .occupied id
    · -- the rest does not hold the starter
      subst hstate
      have hnot : id ∉ rest.filterMap SlotState.starterId := by
        rw [List.filterMap_cons] at hnodup
        exact (List.nodup_cons.mp hnodup).1
      have hsame : rest.map (lockIn [id]) = rest := by
        refine (List.map_congr_left fun s hs => ?_).trans (List.map_id rest)
        show lockIn [id] s = s
        cases s with
        | empty => rfl
        | occupied other =>
          have hne : other ≠ id := by
            rintro rfl
            exact hnot (List.mem_filterMap.mpr ⟨_, hs, rfl⟩)
          simp [lockIn, hne]
        | locked other => rfl
      rw [hsame]
      simp [lockIn]
    · have hlock : lockIn [id] state = state := by
        cases state with
        | empty => rfl
        | occupied other =>
          have hne : other ≠ id := by
            rintro rfl
            exact hstate rfl
          simp [lockIn, hne]
        | locked other => rfl
      have hbeq : (state == .occupied id) = false := by simpa using hstate
      rw [hbeq, hlock, ih hrest]
      rfl

/-- **Locking is pointwise.** -/
theorem replay_lockStarter_slots (ids : List StarterId) (hnodup : layout.starters.Nodup) :
    (replay SlotLayout.lockStarter layout ids).slots = layout.slots.map (lockIn ids) := by
  induction ids generalizing layout with
  | nil =>
    have hsame : ∀ state ∈ layout.slots, lockIn [] state = id state := by
      intro state _
      cases state <;> simp [lockIn]
    rw [List.map_congr_left hsame, List.map_id]
    rfl
  | cons id ids ih =>
    have hstep : (layout.lockStarter id).slots = layout.slots.map (lockIn [id]) :=
      updateFirst_lock id hnodup
    have hstarters : (layout.lockStarter id).starters = layout.starters := by
      unfold SlotLayout.starters
      rw [hstep, List.filterMap_map]
      exact List.filterMap_congr fun state _ => starterId_lockIn [id] state
    rw [replay_cons, ih (by rw [hstarters]; exact hnodup), hstep, List.map_map]
    refine List.map_congr_left fun state _ => ?_
    cases state with
    | empty => rfl
    | occupied other =>
      by_cases hother : other = id
      · simp [lockIn, hother]
      · simp [lockIn, hother]
    | locked other => rfl

/-- The layout of a ledger, slot by slot. -/
theorem SlotLayout.fromLedger_slots (ledger : Ledger) :
    (SlotLayout.fromLedger ledger).slots
      = (unlockedLayout ledger).slots.map (lockIn (lockedStarterIds ledger)) :=
  replay_lockStarter_slots _ (unlockedLayout_unlocked ledger).nodup

/-- A live starter's slot is locked iff the starter is in the list of locked ones. -/
theorem SlotLayout.locked_iff {ledger : Ledger} {index : SlotIndex}
    (h : ((SlotLayout.fromLedger ledger).stateAt index).starterId = some id) :
    (SlotLayout.fromLedger ledger).stateAt index = .locked id ↔ id ∈ lockedStarterIds ledger := by
  have hmem : (SlotLayout.fromLedger ledger).stateAt index
      ∈ (unlockedLayout ledger).slots.map (lockIn (lockedStarterIds ledger)) := by
    rw [← SlotLayout.fromLedger_slots]
    exact List.get_mem _ _
  obtain ⟨state, hstate, heq⟩ := List.mem_map.mp hmem
  rw [← heq] at h ⊢
  rw [starterId_lockIn] at h
  cases state with
  | empty => simp [SlotState.starterId] at h
  | occupied other =>
    have hother : other = id := by simpa [SlotState.starterId] using h
    subst hother
    by_cases hlocked : other ∈ lockedStarterIds ledger
    · simp [lockIn, hlocked]
    · simp [lockIn, hlocked]
  | locked other => exact absurd rfl ((unlockedLayout_unlocked ledger).noLocks _ hstate other)

/-! ### The array of five -/

/-- The first entry of `id` comes while fewer than five distinct starters are taken. -/
def TakenFrom (taken : Finset StarterId) (entries : List (InvitationId × StarterId))
    (id : StarterId) : Prop :=
  ∃ front invitation back, entries = front ++ (invitation, id) :: back ∧
    id ∉ front.map Prod.snd ∧ (taken ∪ (front.map Prod.snd).toFinset).card < 5

variable {taken : Finset StarterId}

private theorem takenFrom_nil : ¬ TakenFrom taken [] id := by
  rintro ⟨front, invitation, back, h, -⟩
  simp at h

private theorem takenFrom_full (hfull : 5 ≤ taken.card)
    {entries : List (InvitationId × StarterId)} : ¬ TakenFrom taken entries id := by
  rintro ⟨front, invitation, back, -, -, hcard⟩
  have hsub : taken ⊆ taken ∪ (front.map Prod.snd).toFinset := Finset.subset_union_left
  have hle := Finset.card_le_card hsub
  omega

private theorem takenFrom_cons {invitation : InvitationId} {starterId id : StarterId}
    {rest : List (InvitationId × StarterId)} :
    TakenFrom taken ((invitation, starterId) :: rest) id ↔
      (id = starterId ∧ taken.card < 5) ∨
        (id ≠ starterId ∧ TakenFrom (insert starterId taken) rest id) := by
  constructor
  · rintro ⟨front, other, back, hentries, hnot, hcard⟩
    cases front with
    | nil =>
      have hhead : (invitation, starterId) = (other, id) := by simpa using (List.cons.inj hentries).1
      refine Or.inl ⟨(Prod.mk.inj hhead).2.symm, by simpa using hcard⟩
    | cons entry front =>
      obtain ⟨hhead, htail⟩ := List.cons.inj hentries
      rw [← hhead] at hnot hcard
      simp only [List.map_cons, List.mem_cons, not_or] at hnot
      refine Or.inr ⟨hnot.1, front, other, back, htail, hnot.2, ?_⟩
      rw [List.map_cons, List.toFinset_cons] at hcard
      rwa [Finset.insert_union, ← Finset.union_insert]
  · rintro (⟨rfl, hcard⟩ | ⟨hne, front, other, back, rfl, hnot, hcard⟩)
    · exact ⟨[], invitation, rest, rfl, by simp, by simpa using hcard⟩
    · refine ⟨(invitation, starterId) :: front, other, back, rfl, ?_, ?_⟩
      · simp only [List.map_cons, List.mem_cons, not_or]
        exact ⟨hne, hnot⟩
      · rw [List.map_cons, List.toFinset_cons, Finset.union_insert, ← Finset.insert_union]
        exact hcard

/-- Which starters the array of five takes: those already in it, and each starter whose
    first entry comes while fewer than five distinct ones are in. -/
theorem mem_collectUnique_iff (unique : List StarterId)
    (entries : List (InvitationId × StarterId)) (hnodup : unique.Nodup) (id : StarterId) :
    id ∈ collectUnique unique entries ↔ id ∈ unique ∨ TakenFrom unique.toFinset entries id := by
  induction entries generalizing unique with
  | nil => simp [collectUnique, takenFrom_nil]
  | cons entry rest ih =>
    obtain ⟨invitation, starterId⟩ := entry
    rw [collectUnique, takenFrom_cons]
    by_cases hknown : starterId ∈ unique
    · rw [if_pos (by simpa using hknown), ih unique hnodup,
        Finset.insert_eq_of_mem (List.mem_toFinset.mpr hknown)]
      by_cases hid : id = starterId
      · simp [hid, hknown]
      · simp [hid]
    · rw [if_neg (by simpa using hknown), List.toFinset_card_of_nodup hnodup]
      by_cases hfull : 5 ≤ unique.length
      · have hcard : 5 ≤ (insert starterId unique.toFinset).card := by
          have hle := Finset.card_le_card (Finset.subset_insert starterId unique.toFinset)
          rw [List.toFinset_card_of_nodup hnodup] at hle
          omega
        rw [if_pos hfull]
        simp [takenFrom_full hcard, hfull]
      · have hnodup' : (unique ++ [starterId]).Nodup := by
          rw [List.nodup_append]
          refine ⟨hnodup, by simp, ?_⟩
          intro a ha b hb
          rw [List.mem_singleton] at hb
          rintro rfl
          exact hknown (hb ▸ ha)
        have hfin : (unique ++ [starterId]).toFinset = insert starterId unique.toFinset := by
          rw [List.toFinset_append, List.toFinset_cons, List.toFinset_nil, Finset.union_insert,
            Finset.union_empty]
        rw [if_neg hfull, ih _ hnodup', hfin, List.mem_append, List.mem_singleton]
        by_cases hid : id = starterId
        · simp [hid]
          omega
        · simp [hid]

/-! ### The pending list -/

/-- The invitation a terminal event names, whoever signed it. -/
def namedTerminal (event : Event) : Option InvitationId :=
  match event.kind with
  | .invitationAccepted =>
    (InvitationAcceptedPayload.fromBytes event.payload).toOption.map (·.invitationId)
  | .invitationRejected =>
    (InvitationRejectedPayload.fromBytes event.payload).toOption.map (·.invitationId)
  | .invitationExpired =>
    (InvitationExpiredPayload.fromBytes event.payload).toOption.map (·.invitationId)
  | _ => none

/-- The offer an event sends when it is the owner's and parses. -/
def ownerSend (owner : PubKey) (event : Event) : Option InvitationSentPayload :=
  if event.kind = .invitationSent ∧ event.signer = owner then
    (InvitationSentPayload.fromBytes event.payload).toOption
  else none

/-- The owner's sends that no later terminal names, with their starters. -/
def openSends (owner : PubKey) : List Event → List (InvitationId × StarterId)
  | [] => []
  | event :: rest =>
    match ownerSend owner event with
    | none => openSends owner rest
    | some payload =>
      if rest.any (fun later => namedTerminal later == some payload.invitationId) then
        openSends owner rest
      else (payload.invitationId, payload.starterId) :: openSends owner rest

/-- The loop body in terms of what an event sends and names. -/
theorem lockStep_eq (owner : PubKey) (pending : List (InvitationId × StarterId)) (event : Event) :
    lockStep owner pending event =
      match ownerSend owner event with
      | some payload => pending ++ [(payload.invitationId, payload.starterId)]
      | none => match namedTerminal event with
        | some invitationId => clearPending pending invitationId
        | none => pending := by
  unfold lockStep ownerSend namedTerminal
  cases hkind : event.kind with
  | invitationSent =>
    by_cases hsigner : event.signer = owner
    · cases InvitationSentPayload.fromBytes event.payload <;> simp [hsigner, Except.toOption]
    · simp [hsigner]
  | invitationAccepted =>
    cases InvitationAcceptedPayload.fromBytes event.payload <;> simp [Except.toOption]
  | invitationRejected =>
    cases InvitationRejectedPayload.fromBytes event.payload <;> simp [Except.toOption]
  | invitationExpired =>
    cases InvitationExpiredPayload.fromBytes event.payload <;> simp [Except.toOption]
  | _ => simp

/-- **The pending list** keeps what no later event names and adds the open sends. -/
theorem replay_lockStep_eq (owner : PubKey) (pending : List (InvitationId × StarterId))
    (events : List Event) :
    replay (lockStep owner) pending events =
      pending.filter (fun entry => !events.any fun later => namedTerminal later == some entry.1)
        ++ openSends owner events := by
  induction events generalizing pending with
  | nil => simp [openSends]
  | cons event rest ih =>
    rw [replay_cons, ih, lockStep_eq, openSends]
    cases hsend : ownerSend owner event with
    | some payload =>
      have hnamed : namedTerminal event = none := by
        unfold ownerSend at hsend
        split_ifs at hsend with hkind
        simp [namedTerminal, hkind.1]
      simp only [List.filter_append, List.any_cons, hnamed]
      cases hrest : rest.any fun later => namedTerminal later == some payload.invitationId <;>
        simp [hrest]
    | none =>
      cases hnamed : namedTerminal event with
      | some invitationId =>
        simp only [clearPending, List.filter_filter, List.any_cons]
        congr 1
        refine List.filter_congr fun entry _ => ?_
        rw [Bool.not_or, Bool.and_comm]
        congr 1
        simp [bne, hnamed, eq_comm]
      | none => simp [List.any_cons, hnamed]

/-- The locked starters are the first five distinct ones with an open send. -/
theorem mem_lockedStarterIds_iff (ledger : Ledger) (id : StarterId) :
    id ∈ lockedStarterIds ledger ↔ TakenFrom ∅ (openSends ledger.owner ledger.events) id := by
  rw [lockedStarterIds, mem_collectUnique_iff [] _ List.nodup_nil, replay_lockStep_eq]
  simp

end Hivra
