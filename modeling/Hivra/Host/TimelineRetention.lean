import Hivra.Host.InboxRuns

namespace Hivra

open ChatDelivery JsonText

namespace DeliveryInbox

/-!
# What a timeline keeps

A timeline that has grown over its budget loses completed messages, the oldest first, until the
others fit.  A message that is stored is not written over with another one under its id.

* `retainMessages_spec` — which messages go, and what is left.
-/

/-- What is documented of the host's sort: the result is in order. -/
def InboxHost.Sorts (host : InboxHost) : Prop :=
  ∀ le : CapsuleChatInboxMessage → CapsuleChatInboxMessage → Bool,
    (∀ a b, le a b = true ∨ le b a = true) →
    (∀ a b c, le a b = true → le b c = true → le a c = true) →
    ∀ messages, (host.sort le messages).Pairwise fun a b => le a b = true

/-- `_retainMessages`. -/
def retainMessages (host : InboxHost) (timeline : Timeline) (budget : ℤ) : Timeline :=
  timeline.remove ((evicted host timeline budget).getD [])

/-- The bytes of a list of entries. -/
def bytesOf (host : InboxHost) (messages : List CapsuleChatInboxMessage) : ℤ :=
  (messages.map fun message => (host.entryBytes message : ℤ)).sum

section Bytes

variable {host : InboxHost} {messages messages' : List CapsuleChatInboxMessage}

@[simp] theorem bytesOf_nil : bytesOf host [] = 0 := rfl

@[simp] theorem bytesOf_cons (message : CapsuleChatInboxMessage) :
    bytesOf host (message :: messages) = host.entryBytes message + bytesOf host messages := by
  simp [bytesOf]

@[simp] theorem bytesOf_append :
    bytesOf host (messages ++ messages') = bytesOf host messages + bytesOf host messages' := by
  simp [bytesOf]

theorem bytesOf_perm (h : messages.Perm messages') :
    bytesOf host messages = bytesOf host messages' := (h.map _).sum_eq

theorem bytesOf_sublist (h : messages.Sublist messages') :
    bytesOf host messages ≤ bytesOf host messages' := by
  induction h with
  | slnil => exact le_refl _
  | cons message _ ih =>
    rw [bytesOf_cons]
    omega
  | cons_cons message _ ih =>
    rw [bytesOf_cons, bytesOf_cons]
    omega

end Bytes

/-! ### The order of eviction -/

theorem olderFirst_iff {a b : CapsuleChatInboxMessage} :
    olderFirst a b = true ↔ a.timestampMs < b.timestampMs ∨
      a.timestampMs = b.timestampMs ∧ textLe (utf16 a.id) (utf16 b.id) = true := by
  simp [olderFirst]

theorem olderFirst_total (a b : CapsuleChatInboxMessage) :
    olderFirst a b = true ∨ olderFirst b a = true := by
  rw [olderFirst_iff, olderFirst_iff]
  rcases lt_trichotomy a.timestampMs b.timestampMs with hlt | heq | hgt
  · exact .inl (.inl hlt)
  · rcases textLe_total (utf16 a.id) (utf16 b.id) with hle | hle
    · exact .inl (.inr ⟨heq, hle⟩)
    · exact .inr (.inr ⟨heq.symm, hle⟩)
  · exact .inr (.inl hgt)

theorem olderFirst_trans (a b c : CapsuleChatInboxMessage) (hab : olderFirst a b = true)
    (hbc : olderFirst b c = true) : olderFirst a c = true := by
  rw [olderFirst_iff] at hab hbc ⊢
  rcases hab with hlt | ⟨heq, hle⟩
  · rcases hbc with hlt' | ⟨heq', -⟩
    · exact .inl (lt_trans hlt hlt')
    · exact .inl (heq' ▸ hlt)
  · rcases hbc with hlt' | ⟨heq', hle'⟩
    · exact .inl (heq ▸ hlt')
    · exact .inr ⟨heq.trans heq', textLe_trans hle hle'⟩

/-- The messages that go are the first ones; each of them goes while the bytes are over the
    budget. -/
theorem evictedIds_spec (host : InboxHost) (budget bytes : ℤ)
    (messages : List CapsuleChatInboxMessage) :
    ∃ taken left, messages = taken ++ left ∧
      evictedIds host budget bytes messages = taken.map CapsuleChatInboxMessage.id ∧
      (left = [] ∨ bytes - bytesOf host taken ≤ budget) ∧
      ∀ before message after, taken = before ++ message :: after →
        budget < bytes - bytesOf host before := by
  induction messages generalizing bytes with
  | nil => exact ⟨[], [], rfl, rfl, .inl rfl, fun before _ _ h => by simp at h⟩
  | cons message rest ih =>
    unfold evictedIds
    split_ifs with hfits
    · refine ⟨[], message :: rest, rfl, rfl, .inr ?_, fun before _ _ h => by simp at h⟩
      rw [bytesOf_nil]
      omega
    · obtain ⟨taken, left, hsplit, hids, hend, hover⟩ := ih (bytes - host.entryBytes message)
      refine ⟨message :: taken, left, ?_, ?_, hend.imp id ?_, ?_⟩
      · rw [hsplit, List.cons_append]
      · rw [hids, List.map_cons]
      · intro h
        rw [bytesOf_cons]
        omega
      · intro before other after h
        cases before with
        | nil =>
          rw [bytesOf_nil]
          omega
        | cons first before =>
          obtain ⟨rfl, htaken⟩ := List.cons.inj h
          have hrest := hover before other after htaken
          rw [bytesOf_cons]
          omega

variable {timeline : Timeline} {message : CapsuleChatInboxMessage}

theorem Timeline.mem_messages_remove {ids : List String} :
    message ∈ (timeline.remove ids).messages ↔ message ∈ timeline.messages ∧ message.id ∉ ids := by
  rw [mem_messages, mem_messages, lookup_remove]
  split_ifs with hid
  · simp [hid]
  · simp [hid]

/-- Two messages of a timeline with one id are the same. -/
theorem Timeline.eq_of_id {message other : CapsuleChatInboxMessage}
    (h : message ∈ timeline.messages) (h' : other ∈ timeline.messages)
    (hid : message.id = other.id) : message = other := by
  rw [mem_messages] at h h'
  rw [hid, h'] at h
  exact (Option.some.inj h).symm

theorem Timeline.messages_nodup (timeline : Timeline) : timeline.messages.Nodup := by
  have hkeys : timeline.messages.map CapsuleChatInboxMessage.id = timeline.byId.map Prod.fst := by
    unfold Timeline.messages
    rw [List.map_map]
    exact List.map_congr_left fun entry hentry => (timeline.keyed entry hentry).symm
  exact List.Nodup.of_map CapsuleChatInboxMessage.id (hkeys ▸ timeline.distinct)

/-- The completed messages of a timeline in order, those that go before those that are left. -/
structure Split (host : InboxHost) (timeline : Timeline) (budget : ℤ)
    (taken left : List CapsuleChatInboxMessage) : Prop where
  perm : (taken ++ left).Perm (timeline.messages.filter completed)
  ordered : (taken ++ left).Pairwise fun a b => olderFirst a b = true
  fits : left = [] ∨ bytesOf host left ≤ budget
  exceeds : ∀ before message after, taken = before ++ message :: after →
    budget < bytesOf host (message :: after ++ left)

variable {host : InboxHost} {budget : ℤ}

theorem evicted_split (hsort : host.Sorts) {ids : List String}
    (h : evicted host timeline budget = some ids) :
    ∃ taken left, Split host timeline budget taken left ∧
      ids = taken.map CapsuleChatInboxMessage.id := by
  unfold evicted at h
  split_ifs at h
  obtain ⟨taken, left, hsplit, hids, hfits, hover⟩ :=
    evictedIds_spec host budget (completedBytes host timeline)
      (host.sort olderFirst (timeline.messages.filter completed))
  have hperm : (taken ++ left).Perm (timeline.messages.filter completed) :=
    hsplit ▸ host.sort_perm olderFirst _
  have hbytes : completedBytes host timeline = bytesOf host taken + bytesOf host left := by
    rw [← bytesOf_append, bytesOf_perm hperm]
    rfl
  refine ⟨taken, left, ⟨hperm, ?_, hfits.imp id ?_, ?_⟩, (Option.some.inj h).symm.trans hids⟩
  · exact hsplit ▸ hsort olderFirst olderFirst_total olderFirst_trans _
  · intro hend
    omega
  · intro before message after htaken
    have hbefore := hover before message after htaken
    rw [hbytes, htaken, bytesOf_append] at hbefore
    rw [bytesOf_append]
    omega

section Split

variable {host : InboxHost} {timeline : Timeline} {budget : ℤ}
variable {taken left : List CapsuleChatInboxMessage} {message : CapsuleChatInboxMessage}

theorem Split.mem (h : Split host timeline budget taken left) (message : CapsuleChatInboxMessage) :
    message ∈ taken ++ left ↔ message ∈ timeline.messages ∧ completed message = true := by
  rw [h.perm.mem_iff, List.mem_filter]

/-- A message of the timeline goes exactly if it is among the first ones. -/
theorem Split.mem_remove (h : Split host timeline budget taken left)
    (hmessage : message ∈ timeline.messages) :
    message ∈ (timeline.remove (taken.map CapsuleChatInboxMessage.id)).messages ↔
      message ∉ taken := by
  rw [Timeline.mem_messages_remove, and_iff_right hmessage, not_iff_not]
  constructor
  · intro hid
    obtain ⟨other, hother, hsame⟩ := List.mem_map.mp hid
    have hstored := ((h.mem _).mp (List.mem_append_left left hother)).1
    exact Timeline.eq_of_id hstored hmessage hsame ▸ hother
  · exact List.mem_map_of_mem

theorem Split.completedBytes_remove (h : Split host timeline budget taken left) :
    completedBytes host (timeline.remove (taken.map CapsuleChatInboxMessage.id))
      = bytesOf host left := by
  have hnodup : (taken ++ left).Nodup :=
    h.perm.nodup_iff.mpr (timeline.messages_nodup.filter _)
  refine bytesOf_perm ((List.perm_ext_iff_of_nodup ?_ hnodup.of_append_right).mpr ?_)
  · exact (Timeline.messages_nodup _).filter _
  · intro message
    have hsplit := h.mem message
    rw [List.mem_append] at hsplit
    have hapart := List.disjoint_of_nodup_append hnodup
    rw [List.mem_filter]
    constructor
    · rintro ⟨hkept, hcompleted⟩
      have hstored := (Timeline.mem_messages_remove.mp hkept).1
      exact (hsplit.mpr ⟨hstored, hcompleted⟩).resolve_left ((h.mem_remove hstored).mp hkept)
    · intro hleft
      obtain ⟨hstored, hcompleted⟩ := hsplit.mp (.inr hleft)
      exact ⟨(h.mem_remove hstored).mpr fun htaken => hapart htaken hleft, hcompleted⟩

end Split

/-- What `_retainMessages` does with a timeline.  Only completed messages go, the oldest ones, and
    with what is not older than it each of them exceeds the budget. -/
structure Retained (host : InboxHost) (timeline kept : Timeline) (budget : ℤ) : Prop where
  subset : ∀ message ∈ kept.messages, message ∈ timeline.messages
  pending : ∀ message ∈ timeline.messages, message.direction = .outgoing →
    message.deliveryState = .pending ∨ message.deliveryState = .ambiguous → message ∈ kept.messages
  fits : 0 ≤ budget → completedBytes host kept ≤ budget
  oldest : ∀ message ∈ timeline.messages, message ∉ kept.messages →
    ∀ older ∈ timeline.messages, completed older = true → olderFirst message older = false →
      older ∉ kept.messages
  needed : ∀ message ∈ timeline.messages, message ∉ kept.messages →
    budget < bytesOf host ((timeline.messages.filter completed).filter (olderFirst message))

/-- **Which messages go, and what is left.** -/
theorem Split.retained {taken left : List CapsuleChatInboxMessage}
    (h : Split host timeline budget taken left) :
    Retained host timeline (timeline.remove (taken.map CapsuleChatInboxMessage.id)) budget where
  subset := fun message hkept => (Timeline.mem_messages_remove.mp hkept).1
  pending := by
    intro message hmessage hout hstate
    rw [h.mem_remove hmessage]
    intro htaken
    have hcompleted := ((h.mem _).mp (List.mem_append_left left htaken)).2
    rw [completed, hout] at hcompleted
    rcases hstate with hpending | hambiguous
    · simp [hpending] at hcompleted
    · simp [hambiguous] at hcompleted
  fits := by
    intro hbudget
    rw [h.completedBytes_remove]
    rcases h.fits with rfl | hfits
    · exact hbudget
    · exact hfits
  oldest := by
    intro message hmessage hgone older holder hcompleted hless hkept
    rw [h.mem_remove hmessage, not_not] at hgone
    rw [h.mem_remove holder] at hkept
    -- What is left comes after what goes.
    have hleft := (List.mem_append.mp ((h.mem _).mpr ⟨holder, hcompleted⟩)).resolve_left hkept
    have hafter := (List.pairwise_append.mp h.ordered).2.2 message hgone older hleft
    rw [hless] at hafter
    exact Bool.false_ne_true hafter
  needed := by
    intro message hmessage hgone
    rw [h.mem_remove hmessage, not_not] at hgone
    obtain ⟨before, after, htaken⟩ := List.append_of_mem hgone
    have hover := h.exceeds before message after htaken
    have hordered := h.ordered
    rw [htaken, List.append_assoc, List.pairwise_append] at hordered
    have hnewer : (message :: after ++ left).filter (olderFirst message)
        = message :: after ++ left := by
      rw [List.filter_eq_self]
      intro other hother
      rcases List.mem_cons.mp hother with rfl | hrest
      · exact (olderFirst_total other other).elim id id
      · exact List.rel_of_pairwise_cons hordered.2.1 hrest
    have hsublist : (message :: after ++ left).Sublist
        ((taken ++ left).filter (olderFirst message)) := by
      rw [← hnewer, htaken, List.append_assoc]
      exact (List.sublist_append_right before _).filter _
    calc
      budget < bytesOf host (message :: after ++ left) := hover
      _ ≤ bytesOf host ((taken ++ left).filter (olderFirst message)) := bytesOf_sublist hsublist
      _ = bytesOf host ((timeline.messages.filter completed).filter (olderFirst message)) :=
        bytesOf_perm (h.perm.filter _)

/-- A timeline that fits keeps everything. -/
theorem retained_of_fits (hfits : completedBytes host timeline ≤ budget) :
    Retained host timeline (timeline.remove []) budget := by
  have hsame : (timeline.remove []).messages = timeline.messages := by
    simp [Timeline.remove, Timeline.messages]
  constructor
  · exact fun message h => hsame ▸ h
  · exact fun message h _ _ => hsame ▸ h
  · intro _
    unfold completedBytes at hfits ⊢
    rw [hsame]
    exact hfits
  · exact fun message h hgone => absurd (hsame ▸ h) hgone
  · exact fun message h hgone => absurd (hsame ▸ h) hgone

theorem retainMessages_spec (hsort : host.Sorts) (timeline : Timeline) (budget : ℤ) :
    Retained host timeline (retainMessages host timeline budget) budget := by
  unfold retainMessages
  cases hevicted : evicted host timeline budget with
  | none =>
    have hfits : completedBytes host timeline ≤ budget := by
      unfold evicted at hevicted
      split_ifs at hevicted with hfits
      exact hfits
    exact retained_of_fits hfits
  | some ids =>
    obtain ⟨taken, left, hsplit, rfl⟩ := evicted_split hsort hevicted
    exact hsplit.retained

/-! ### Merges -/

/-- What happens to a timeline in memory. -/
inductive Change
  | merge (incoming : List CapsuleChatInboxMessage)
  | retain (budget : ℤ)

def Timeline.change (host : InboxHost) (timeline : Timeline) : Change → Timeline
  | .merge incoming => timeline.merge incoming
  | .retain budget => retainMessages host timeline budget

variable {id : String}

theorem lookup_merge (h : timeline.lookup id = some message)
    (incoming : List CapsuleChatInboxMessage) :
    ∃ later, (timeline.merge incoming).lookup id = some later ∧
      sameMessageSemantics message later = true := by
  have hid := Timeline.id_of_lookup h
  have hholds : timeline.holds message = true := by
    unfold Timeline.holds
    rw [hid, h]
    exact sameMessageSemantics_refl message
  obtain ⟨later, hlater, hsame⟩ := (Option.any_eq_true _ _).mp (holds_merge hholds incoming)
  refine ⟨later, hid ▸ hlater, ?_⟩
  exact same_of_common hsame (sameMessageSemantics_refl later)

/-- **A change keeps the content of what is stored before and after it.** -/
theorem lookup_change (h : timeline.lookup id = some message) (change : Change) :
    ∀ later ∈ (timeline.change host change).lookup id,
      sameMessageSemantics message later = true := by
  intro later hlater
  cases change with
  | merge incoming =>
    obtain ⟨merged, hmerged, hsame⟩ := lookup_merge h incoming
    have heq : later = merged := Option.mem_unique hlater hmerged
    rw [heq]
    exact hsame
  | retain budget =>
    rw [Timeline.change, retainMessages, Timeline.lookup_remove] at hlater
    split_ifs at hlater
    · cases hlater
    · rw [h] at hlater
      rw [← Option.some.inj hlater]
      exact sameMessageSemantics_refl message

/-- What a stored message is after changes that never take it away. -/
theorem lookup_changes (h : timeline.lookup id = some message) {changes : List Change}
    (hstored : ∀ front, front <+: changes →
      ((front.foldl (Timeline.change host) timeline).lookup id).isSome) :
    ∀ later ∈ (changes.foldl (Timeline.change host) timeline).lookup id,
      sameMessageSemantics message later = true := by
  induction changes using List.reverseRecOn with
  | nil =>
    intro later hlater
    rw [List.foldl_nil, h] at hlater
    rw [← Option.some.inj hlater]
    exact sameMessageSemantics_refl message
  | append_singleton changes change ih =>
    intro later hlater
    have hfront : changes <+: changes ++ [change] := List.prefix_append _ _
    obtain ⟨before, hbefore⟩ := Option.isSome_iff_exists.mp (hstored changes hfront)
    have hsame := ih (fun front hstart => hstored front (hstart.trans hfront)) before hbefore
    rw [List.foldl_append, List.foldl_cons, List.foldl_nil] at hlater
    have hnext := lookup_change hbefore change later hlater
    rw [sameMessageSemantics_iff] at hsame hnext ⊢
    rw [← hnext, ← hsame]

/-- **What a timeline keeps.**  Over a budget the oldest completed messages go, and no more than
    needed; a merge leaves every stored message with its content, and a message that stays stored
    has the content it had, whatever is merged and evicted. -/
theorem timeline_retention {host : InboxHost} (hsort : host.Sorts) (timeline : Timeline) :
    (∀ budget, Retained host timeline (retainMessages host timeline budget) budget) ∧
      (∀ incoming id message, timeline.lookup id = some message →
        ∃ later, (timeline.merge incoming).lookup id = some later ∧
          sameMessageSemantics message later = true) ∧
      ∀ id message, timeline.lookup id = some message → ∀ changes, (∀ front, front <+: changes →
          ((front.foldl (Timeline.change host) timeline).lookup id).isSome) →
        ∀ later ∈ (changes.foldl (Timeline.change host) timeline).lookup id,
          sameMessageSemantics message later = true :=
  ⟨retainMessages_spec hsort timeline, fun incoming _ _ h => lookup_merge h incoming,
    fun _ _ h _ hstored => lookup_changes h hstored⟩

/-- A sort that inserts one message after the other sorts. -/
theorem sampleInbox_sorts : sampleInbox.Sorts := by
  intro le htotal htrans messages
  have : Std.Total fun a b => le a b = true := ⟨htotal⟩
  have : IsTrans CapsuleChatInboxMessage fun a b => le a b = true := ⟨htrans⟩
  exact List.pairwise_insertionSort _ messages

/-- Two messages for a budget of one. -/
theorem sample_retention :
    let timeline := Timeline.ofMessages [sampleIncoming "b", sampleIncoming "a"]
    Retained sampleInbox timeline (retainMessages sampleInbox timeline 500) 500 ∧
      (retainMessages sampleInbox timeline 500).messages = [sampleIncoming "b"] :=
  ⟨(timeline_retention sampleInbox_sorts _).1 500, by decide⟩

end DeliveryInbox

end Hivra
