import Hivra.Core.AcceptPlan
import Hivra.Core.SlotProjection

namespace Hivra

open ByteString Replay

/-!
# Leaving a starter out of the slots

A revoked starter is left out of the replay from the start, so a revocation is a
comparison of two replays of one event list: one that places the starter and one that
never does.

* `mem_revokedCreatedStarterIds_iff` — which starters are revoked.
-/

/-! ### The revoked starters -/

/-- Push what an item yields, unless it is there already. -/
def pushPicked {α ι : Type} [DecidableEq α] (pick : ι → Option α) (found : List α) (item : ι) :
    List α :=
  match pick item with
  | none => found
  | some a => pushUnique found a

/-- A list collected without repetitions holds what was collected. -/
private theorem mem_replay_pushPicked {α ι : Type} [DecidableEq α] (pick : ι → Option α)
    (start : List α) (items : List ι) (a : α) :
    a ∈ replay (pushPicked pick) start items ↔
      a ∈ start ∨ ∃ item ∈ items, pick item = some a := by
  induction items generalizing start with
  | nil => simp
  | cons item rest ih =>
    rw [replay_cons, ih, pushPicked]
    cases hpick : pick item with
    | none => simp [hpick]
    | some b =>
      simp only [mem_pushUnique, List.mem_cons, exists_eq_or_imp, hpick, Option.some.injEq]
      constructor
      · rintro ((h | rfl) | h)
        · exact Or.inl h
        · exact Or.inr (Or.inl rfl)
        · exact Or.inr (Or.inr h)
      · rintro (h | rfl | h)
        · exact Or.inl (Or.inl h)
        · exact Or.inl (Or.inr rfl)
        · exact Or.inr h

/-- The invitation an expiry names. -/
def expiredInvitation (event : Event) : Option InvitationId :=
  if event.kind = .invitationExpired then
    (InvitationExpiredPayload.fromBytes event.payload).toOption.map (·.invitationId)
  else none

/-- The invitation and the starter an acceptance names. -/
def acceptedStarter (event : Event) : Option (InvitationId × StarterId) :=
  if event.kind = .invitationAccepted then
    (InvitationAcceptedPayload.fromBytes event.payload).toOption.map
      fun payload => (payload.invitationId, payload.createdStarterId)
  else none

/-- An invitation counts as expired when the signer of an offer of it expired it. -/
theorem mem_expiredInvitationIds_iff (events : List Event) (id : InvitationId) :
    id ∈ expiredInvitationIds events ↔ ∃ event ∈ events, expiredInvitation event = some id ∧
      ∃ offer ∈ events, isSenderSignedOffer event.signer id offer = true := by
  have hform : expiredInvitationIds events = replay (pushPicked fun event =>
      (expiredInvitation event).filter fun id =>
        events.any (isSenderSignedOffer event.signer id)) [] events := by
    unfold expiredInvitationIds
    congr 1
    funext found event
    unfold pushPicked expiredInvitation
    dsimp only
    by_cases hkind : event.kind = .invitationExpired
    · rw [if_neg (not_not.mpr hkind), if_pos hkind]
      cases InvitationExpiredPayload.fromBytes event.payload with
      | error _ => rfl
      | ok payload =>
        simp only [Except.toOption, Option.map_some, Option.filter_some]
        split_ifs <;> rfl
    · rw [if_pos hkind, if_neg hkind]
      rfl
  rw [hform, mem_replay_pushPicked]
  simp only [List.not_mem_nil, false_or, Option.filter_eq_some_iff, List.any_eq_true]

/-- A starter is revoked when an acceptance of an expired invitation names it. -/
theorem mem_revokedCreatedStarterIds_iff (ledger : Ledger) (starterId : StarterId) :
    starterId ∈ revokedCreatedStarterIds ledger ↔ ∃ event ∈ ledger.events, ∃ id,
      acceptedStarter event = some (id, starterId) ∧ id ∈ expiredInvitationIds ledger.events := by
  have hform : revokedCreatedStarterIds ledger = replay (pushPicked fun event =>
      ((acceptedStarter event).filter fun named =>
        decide (named.1 ∈ expiredInvitationIds ledger.events)).map Prod.snd) [] ledger.events := by
    unfold revokedCreatedStarterIds
    congr 1
    funext found event
    unfold pushPicked acceptedStarter
    dsimp only
    by_cases hkind : event.kind = .invitationAccepted
    · rw [if_neg (not_not.mpr hkind), if_pos hkind]
      cases InvitationAcceptedPayload.fromBytes event.payload with
      | error _ => rfl
      | ok payload =>
        have hany : (expiredInvitationIds ledger.events).any
            (fun id => id == payload.invitationId)
              = decide (payload.invitationId ∈ expiredInvitationIds ledger.events) := by
          rw [Bool.eq_iff_iff]
          simp
        simp only [Except.toOption, Option.map_some, Option.filter_some, hany]
        split_ifs <;> rfl
    · rw [if_pos hkind, if_neg hkind]
      rfl
  rw [hform, mem_replay_pushPicked]
  simp only [List.not_mem_nil, false_or, Option.map_eq_some_iff, Option.filter_eq_some_iff,
    decide_eq_true_eq]
  constructor
  · rintro ⟨event, hevent, ⟨id, starter⟩, ⟨hnamed, hexpired⟩, rfl⟩
    exact ⟨event, hevent, id, hnamed, hexpired⟩
  · rintro ⟨event, hevent, id, hnamed, hexpired⟩
    exact ⟨event, hevent, (id, starterId), ⟨hnamed, hexpired⟩, rfl⟩

/-! ### Placements -/

/-- The layout of the owner's starter events that leaves out some starters. -/
def placement (owner : PubKey) (revoked : List StarterId) (events : List Event) : SlotLayout :=
  (replay (slotStep owner revoked) (.empty, []) events).1

theorem unlockedLayout_eq (ledger : Ledger) :
    unlockedLayout ledger
      = placement ledger.owner (revokedCreatedStarterIds ledger) ledger.events := rfl

/-- The starter of a slot, left out when it is `id`. -/
def leaveOut (id : StarterId) (state : SlotState) : SlotState :=
  if state.holds id then .empty else state

/-- The layout without one starter. -/
def SlotLayout.without (layout : SlotLayout) (id : StarterId) : SlotLayout :=
  ⟨layout.slots.map (leaveOut id), by rw [List.length_map, layout.capacity]⟩

/-- The starter a creation names. -/
def createdStarter (event : Event) : Option StarterId :=
  if event.kind = .starterCreated then
    (StarterCreatedPayload.fromBytes event.payload).toOption.map (·.starterId)
  else none

/-- The starter a creation of the owner names. -/
def ownerCreates (owner : PubKey) (event : Event) : Option StarterId :=
  if event.signer = owner then createdStarter event else none

/-- The starter a burn of the owner names. -/
def ownerBurns (owner : PubKey) (event : Event) : Option StarterId :=
  if event.signer = owner ∧ event.kind = .starterBurned then
    (StarterBurnedPayload.fromBytes event.payload).toOption.map (·.starterId)
  else none

/-- The loop body by what the event creates or burns. -/
theorem slotStep_eq (owner : PubKey) (revoked : List StarterId)
    (state : SlotLayout × List StarterId) (event : Event) :
    slotStep owner revoked state event =
      match ownerCreates owner event, ownerBurns owner event with
      | some id, _ =>
        if id ∈ state.2 ∨ id ∈ revoked ∨ state.1.containsStarter id = true then state
        else (state.1.occupyFirstFree id, state.2)
      | none, some id => (state.1.freeStarter id, pushUnique state.2 id)
      | none, none => state := by
  unfold slotStep ownerCreates createdStarter ownerBurns
  by_cases hsigner : event.signer = owner
  · rw [if_neg (not_not.mpr hsigner)]
    cases hkind : event.kind <;> simp only [hsigner, reduceCtorEq, if_true, if_false,
      and_false, and_true]
    · cases StarterCreatedPayload.fromBytes event.payload with
      | error _ => rfl
      | ok payload =>
        simp only [Except.toOption, Option.map_some, List.any_eq_true, beq_iff_eq,
          exists_eq_right]
        by_cases hburned : payload.starterId ∈ state.2
        · simp [hburned]
        · by_cases hrevoked : payload.starterId ∈ revoked
          · simp [hburned, hrevoked]
          · simp [hburned, hrevoked]
    · cases StarterBurnedPayload.fromBytes event.payload <;> rfl
  · simp [hsigner]

variable {owner : PubKey} {revoked revoked' : List StarterId}

/-- Only membership in the list of revoked starters matters. -/
theorem placement_congr (h : ∀ id, id ∈ revoked ↔ id ∈ revoked') (events : List Event) :
    placement owner revoked events = placement owner revoked' events := by
  unfold placement
  congr 2
  funext state event
  simp only [slotStep_eq, h]

variable {id : StarterId}

/-- Events that create and burn nothing do not move a starter. -/
theorem placement_append_inert {revoked : List StarterId} {events : List Event} (more : List Event)
    (h : ∀ event ∈ more, ownerCreates owner event = none ∧ ownerBurns owner event = none) :
    placement owner revoked (events ++ more) = placement owner revoked events := by
  unfold placement
  rw [replay_append]
  generalize replay (slotStep owner revoked) (.empty, []) events = state
  refine replay_invariant (P := fun reached : SlotLayout × List StarterId =>
    reached.1 = state.1) rfl ?_
  intro reached event hevent heq
  obtain ⟨hcreates, hburns⟩ := h event hevent
  rw [slotStep_eq, hcreates, hburns]
  exact heq

/-! ### One starter more or less -/

theorem leaveOut_of_not_holds {state : SlotState} (h : state.holds id = false) :
    leaveOut id state = state := by
  rw [leaveOut, h]
  rfl

variable {layout : SlotLayout}

/-- Leaving out a starter the layout does not hold changes nothing. -/
theorem SlotLayout.without_of_not_contains (h : layout.containsStarter id = false) :
    layout.without id = layout := by
  have hslots : layout.slots.map (leaveOut id) = layout.slots := by
    refine (List.map_congr_left fun state hstate => ?_).trans (List.map_id layout.slots)
    apply leaveOut_of_not_holds
    unfold SlotLayout.containsStarter at h
    rw [List.any_eq_false] at h
    simpa using h state hstate
  cases layout
  simpa [SlotLayout.without] using hslots

theorem SlotLayout.not_contains_without (layout : SlotLayout) (id : StarterId) :
    (layout.without id).containsStarter id = false := by
  unfold SlotLayout.containsStarter SlotLayout.without
  rw [List.any_eq_false]
  intro state hstate
  obtain ⟨old, -, rfl⟩ := List.mem_map.mp hstate
  unfold leaveOut
  split_ifs with hold
  · simp [SlotState.holds, SlotState.starterId]
  · exact hold

/-- The other starters stay. -/
theorem SlotLayout.containsStarter_without (layout : SlotLayout) {id other : StarterId}
    (hne : other ≠ id) :
    (layout.without id).containsStarter other = layout.containsStarter other := by
  have hslot : ∀ state : SlotState, (leaveOut id state).holds other = state.holds other := by
    intro state
    unfold leaveOut
    split_ifs with hold
    · rw [SlotState.holds_iff] at hold
      have hother : state.holds other = false := by
        simpa [SlotState.holds, hold] using hne.symm
      rw [hother]
      rfl
    · rfl
  unfold SlotLayout.containsStarter SlotLayout.without
  rw [List.any_map]
  congr 1
  funext state
  exact hslot state

/-- A starter in the layout stays when another one takes a free slot. -/
theorem SlotLayout.containsStarter_occupy (id : StarterId) {other : StarterId}
    (h : layout.containsStarter other = true) :
    (layout.occupyFirstFree id).containsStarter other = true := by
  rcases layout.update_cases SlotState.isEmpty (.occupied id) with
    ⟨-, heq⟩ | ⟨front, old, back, hslots, -, hold, heq⟩
  · rw [SlotLayout.occupyFirstFree, heq]
    exact h
  · unfold SlotLayout.containsStarter SlotLayout.occupyFirstFree at *
    rw [heq]
    rw [hslots] at h
    have hempty : old.holds other = false := by
      cases old <;> simp_all [SlotState.isEmpty, SlotState.holds, SlotState.starterId]
    rw [List.any_append, List.any_cons, hempty, Bool.false_or] at h
    rw [List.any_append, List.any_cons]
    rcases Bool.or_eq_true_iff.mp h with hfront | hback
    · simp [hfront]
    · simp [hback]

/-- A starter in a free slot is what it was before without it. -/
theorem SlotLayout.occupy_without (layout : SlotLayout) (id : StarterId) :
    (layout.occupyFirstFree id).without id = layout.without id := by
  have hslots : (layout.occupyFirstFree id).slots.map (leaveOut id)
      = layout.slots.map (leaveOut id) := by
    refine map_updateFirst (leaveOut id) ?_
    intro state hempty
    cases state <;> simp_all [SlotState.isEmpty, leaveOut, SlotState.holds, SlotState.starterId]
  unfold SlotLayout.without
  simp only [hslots]

/-- The first match of two predicates is the same when the left-out starter is no match. -/
private theorem updateFirst_leaveOut {p : SlotState → Bool} {state : SlotState}
    (hstate : state.holds id = false) {slots : List SlotState}
    (h : ∀ s ∈ slots, s.holds id = true → p s = false ∧ p .empty = false) :
    updateFirst p (fun _ => state) (slots.map (leaveOut id))
      = (updateFirst p (fun _ => state) slots).map (leaveOut id) := by
  induction slots with
  | nil => rfl
  | cons s rest ih =>
    have hrest := ih fun s' hs' => h s' (List.mem_cons_of_mem s hs')
    rw [List.map_cons, updateFirst_cons, updateFirst_cons]
    by_cases hholds : s.holds id = true
    · obtain ⟨hs, hempty⟩ := h s List.mem_cons_self hholds
      have hleft : leaveOut id s = .empty := by rw [leaveOut, if_pos hholds]
      rw [hleft, hs, hempty]
      simp [hrest, hleft]
    · rw [Bool.not_eq_true] at hholds
      rw [leaveOut_of_not_holds hholds]
      split_ifs with hp
      · rw [List.map_cons, leaveOut_of_not_holds hstate]
      · rw [List.map_cons, hrest, leaveOut_of_not_holds hholds]

/-- A burn does the same with and without a starter. -/
theorem SlotLayout.freeStarter_without (layout : SlotLayout) (id other : StarterId) :
    (layout.without id).freeStarter other = (layout.freeStarter other).without id := by
  by_cases hsame : other = id
  · subst hsame
    -- the burned starter is the one left out
    have hfree : (layout.freeStarter other).slots.map (leaveOut other)
        = layout.slots.map (leaveOut other) := by
      refine map_updateFirst (leaveOut other) ?_
      intro state hholds
      rw [leaveOut, leaveOut, if_pos hholds]
      rfl
    have hleft : (layout.without other).freeStarter other = layout.without other := by
      rcases (layout.without other).update_cases (SlotState.holds other) .empty with
        ⟨-, heq⟩ | ⟨front, old, back, hslots, -, hold, -⟩
      · exact heq
      · have hnone := layout.not_contains_without other
        unfold SlotLayout.containsStarter at hnone
        rw [List.any_eq_false] at hnone
        exact absurd hold (hnone old (by rw [hslots]; simp))
    rw [hleft]
    unfold SlotLayout.without
    simp only [hfree]
  · have hslots : updateFirst (SlotState.holds other) (fun _ => SlotState.empty)
        (layout.slots.map (leaveOut id))
          = (updateFirst (SlotState.holds other) (fun _ => .empty) layout.slots).map
              (leaveOut id) := by
      refine updateFirst_leaveOut (by simp [SlotState.holds, SlotState.starterId]) ?_
      intro state _ hholds
      refine ⟨?_, by simp [SlotState.holds, SlotState.starterId]⟩
      rw [SlotState.holds_iff] at hholds
      simp only [SlotState.holds, hholds]
      simpa using fun h => hsame h.symm
    unfold SlotLayout.freeStarter SlotLayout.update SlotLayout.without
    simp only [hslots]

/-- No slot of `id` stands before the first free slot of the layout. -/
def SlotLayout.NotBehind (layout : SlotLayout) (id : StarterId) : Prop :=
  (layout.without id).findFirstEmpty = layout.findFirstEmpty

/-- A creation does the same with and without a starter that no free slot stands behind. -/
theorem SlotLayout.occupyFirstFree_without {id other : StarterId} (hne : other ≠ id)
    (h : layout.NotBehind id) :
    (layout.without id).occupyFirstFree other = (layout.occupyFirstFree other).without id := by
  have hrun : ∀ slots : List SlotState,
      (slots.map (leaveOut id)).findIdx? SlotState.isEmpty = slots.findIdx? SlotState.isEmpty →
      updateFirst SlotState.isEmpty (fun _ => .occupied other) (slots.map (leaveOut id))
        = (updateFirst SlotState.isEmpty (fun _ => .occupied other) slots).map (leaveOut id) := by
    intro slots
    induction slots with
    | nil => intro _; rfl
    | cons state rest ih =>
      intro hsame
      rw [List.map_cons, List.findIdx?_cons, List.findIdx?_cons] at hsame
      rw [List.map_cons, updateFirst_cons, updateFirst_cons]
      cases hempty : state.isEmpty with
      | true =>
        have hstate : leaveOut id state = state := by
          cases state <;> simp_all [SlotState.isEmpty, leaveOut]
        have hnew : leaveOut id (.occupied other) = .occupied other := by
          apply leaveOut_of_not_holds
          simpa [SlotState.holds, SlotState.starterId] using hne
        rw [hstate, hempty, if_pos rfl, if_pos rfl, List.map_cons, hnew]
      | false =>
        rw [hempty] at hsame
        -- the left-out starter in front of the free slot would become the first free one
        have hleft : (leaveOut id state).isEmpty = false := by
          by_contra hleft
          rw [Bool.not_eq_false] at hleft
          rw [hleft] at hsame
          simp only [if_true, Bool.false_eq_true, if_false] at hsame
          cases hrest : rest.findIdx? SlotState.isEmpty <;> simp [hrest] at hsame
        rw [hleft] at hsame ⊢
        simp only [Bool.false_eq_true, if_false] at hsame ⊢
        rw [List.map_cons, ih (Option.map_injective Nat.succ_injective hsame)]
  have hslots := hrun layout.slots (by
    have hindex := h
    unfold NotBehind findFirstEmpty at hindex
    have hbind : ∀ a b : Option ℕ, (∀ i ∈ a, i < 5) → (∀ i ∈ b, i < 5) →
        a.bind SlotIndex.new = b.bind SlotIndex.new → a = b := by
      intro a b ha hb hab
      cases a with
      | none =>
        cases b with
        | none => rfl
        | some j => simp [SlotIndex.new, hb j rfl] at hab
      | some i =>
        cases b with
        | none => simp [SlotIndex.new, ha i rfl] at hab
        | some j => simpa [SlotIndex.new, ha i rfl, hb j rfl] using hab
    have hrange : ∀ slots : List SlotState, slots.length = 5 →
        ∀ i ∈ slots.findIdx? SlotState.isEmpty, i < 5 := by
      intro slots hlength i hi
      rw [Option.mem_def, List.findIdx?_eq_some_iff_getElem] at hi
      obtain ⟨hi, -⟩ := hi
      omega
    exact hbind _ _ (hrange _ (layout.without id).capacity) (hrange _ layout.capacity) hindex)
  unfold occupyFirstFree update without
  simp only [hslots]

/-! ### The replay without a starter -/

/-- An event places a starter behind `front`: the owner creates it, and it is neither
    burned nor revoked nor live. -/
structure Places (owner : PubKey) (revoked : List StarterId) (front : List Event) (event : Event)
    (id : StarterId) : Prop where
  creates : ownerCreates owner event = some id
  notBurned : id ∉ (replay (slotStep owner revoked) (.empty, []) front).2
  notRevoked : id ∉ revoked
  notLive : (placement owner revoked front).containsStarter id = false

/-- No other starter was placed while `id` stood in front of the first free slot. -/
def NonePlacedBehind (owner : PubKey) (revoked : List StarterId) (events : List Event)
    (id : StarterId) : Prop :=
  ∀ front event back other, events = front ++ event :: back →
    Places owner revoked front event other → other ≠ id →
    (placement owner revoked front).NotBehind id

/-- **Step lemma.**  One event keeps the layout without a starter in step with the layout
    that has it. -/
theorem slotStep_without (hrevoked : ∀ other, other ∈ revoked' ↔ other ∈ revoked ∨ other = id)
    {burned : List StarterId} {event : Event}
    (h : ∀ other, ownerCreates owner event = some other → other ∉ burned → other ∉ revoked →
      layout.containsStarter other = false → other ≠ id → layout.NotBehind id) :
    slotStep owner revoked' (layout.without id, burned) event
      = ((slotStep owner revoked (layout, burned) event).1.without id,
        (slotStep owner revoked (layout, burned) event).2) := by
  rw [slotStep_eq, slotStep_eq]
  cases hcreates : ownerCreates owner event with
  | none =>
    cases ownerBurns owner event with
    | none => rfl
    | some other =>
      dsimp only
      rw [SlotLayout.freeStarter_without]
  | some other =>
    dsimp only
    by_cases hsame : other = id
    · -- the creation of the starter itself is left out
      subst hsame
      rw [if_pos (Or.inr (Or.inl ((hrevoked other).mpr (Or.inr rfl))))]
      split_ifs
      · rfl
      · rw [SlotLayout.occupy_without]
    · simp only [hrevoked other, SlotLayout.containsStarter_without layout hsame]
      by_cases hstays : other ∈ burned ∨ other ∈ revoked ∨ layout.containsStarter other = true
      · have hstays' : other ∈ burned ∨ (other ∈ revoked ∨ other = id) ∨
            layout.containsStarter other = true := by tauto
        rw [if_pos hstays, if_pos hstays']
      · have hmoves : ¬ (other ∈ burned ∨ (other ∈ revoked ∨ other = id) ∨
            layout.containsStarter other = true) := by tauto
        rw [if_neg hstays, if_neg hmoves]
        simp only [not_or, Bool.not_eq_true] at hstays
        rw [SlotLayout.occupyFirstFree_without hsame
          (h other hcreates hstays.1 hstays.2.1 hstays.2.2 hsame)]

/-- **Run lemma.**  When no starter was placed behind `id`, the replay that leaves it out
    gives the layout without it. -/
theorem placement_without (hrevoked : ∀ other, other ∈ revoked' ↔ other ∈ revoked ∨ other = id)
    (events : List Event) (h : NonePlacedBehind owner revoked events id) :
    placement owner revoked' events = (placement owner revoked events).without id := by
  have hrun : replay (slotStep owner revoked') (.empty, []) events
      = ((replay (slotStep owner revoked) (.empty, []) events).1.without id,
        (replay (slotStep owner revoked) (.empty, []) events).2) := by
    induction events using List.reverseRecOn with
    | nil => rfl
    | append_singleton front event ih =>
      have hfront := ih fun front' event' back' other hsplit =>
        h front' event' (back' ++ [event]) other (by rw [hsplit]; simp)
      rw [replay_snoc, replay_snoc, hfront]
      refine slotStep_without hrevoked ?_
      intro other hcreates hburned hnew hlive hne
      exact h front event [] other rfl ⟨hcreates, hburned, hnew, hlive⟩ hne
  unfold placement
  rw [hrun]

/-- A starter that is left out is never live. -/
theorem placement_not_contains {revoked : List StarterId} (hrevoked : id ∈ revoked)
    (events : List Event) : (placement owner revoked events).containsStarter id = false := by
  refine replay_invariant (P := fun state : SlotLayout × List StarterId =>
    state.1.containsStarter id = false) (by rfl) ?_
  intro state event _ hnot
  -- without the starter the layout stays the same, before and after
  have hsame : ∀ other, other ∈ revoked ↔ other ∈ revoked ∨ other = id := by
    intro other
    constructor
    · exact Or.inl
    · rintro (h | rfl)
      · exact h
      · exact hrevoked
  obtain ⟨layout, burned⟩ := state
  have hstep : slotStep owner revoked (layout.without id, burned) event
      = ((slotStep owner revoked (layout, burned) event).1.without id,
        (slotStep owner revoked (layout, burned) event).2) := by
    refine slotStep_without hsame fun _ _ _ _ _ _ => ?_
    rw [SlotLayout.NotBehind, SlotLayout.without_of_not_contains hnot]
  rw [SlotLayout.without_of_not_contains hnot] at hstep
  rw [hstep]
  exact SlotLayout.not_contains_without _ _

end Hivra
