import Hivra.Host.ChatDrain
import Hivra.Lib.JsonCanonical
import Mathlib.Algebra.Ring.Int.Defs
import Mathlib.Data.List.ReduceOption

namespace Hivra

open Replay ChatDelivery JsonText

namespace DeliveryInbox

/-!
# The chat timelines of the capsules

The store keeps the timelines of the capsules that were used last in memory, and each of them in
a file.  A persist copies the timeline, seals and writes the copy, and then puts it in the place
of the timeline in memory; the persists of a capsule wait for one another.  A capsule that is
dropped from memory is dropped with its queue.

* `holds_merge`, `holds_accepted` — what a merge keeps, and what it takes.
* `holds_remove` — what an eviction keeps.
* `lookup_ofMessages_append`, `lookup_written` — what is read from a file, and what is written.
-/

/-- What the store is set up with: how many capsules it keeps, the budget a capsule begins with,
    the length of an entry of the file, and `List.sort`. -/
structure InboxHost where
  maxCapsules : ℕ
  initialCacheBudgetBytes : ℤ
  entryBytes : CapsuleChatInboxMessage → ℕ
  sort : (CapsuleChatInboxMessage → CapsuleChatInboxMessage → Bool) →
    List CapsuleChatInboxMessage → List CapsuleChatInboxMessage
  sort_perm : ∀ le messages, (sort le messages).Perm messages

/-! ### Timelines -/

/-- A timeline whose messages stand under their own ids. -/
structure Timeline extends ChatTimeline where
  keyed : ∀ entry ∈ byId, entry.1 = entry.2.id

namespace Timeline

def empty : Timeline := ⟨⟨[], List.nodup_nil⟩, fun _ h => (nomatch h)⟩

def messages (timeline : Timeline) : List CapsuleChatInboxMessage := timeline.byId.map Prod.snd

/-- The message under an id. -/
def lookup (timeline : Timeline) (id : String) : Option CapsuleChatInboxMessage :=
  accumulated timeline.byId id

/-- Whether the id of a message is bound to it. -/
def holds (timeline : Timeline) (message : CapsuleChatInboxMessage) : Bool :=
  (timeline.lookup message.id).any (sameMessageSemantics · message)

end Timeline

variable {byId : List (String × CapsuleChatInboxMessage)}

theorem keyed_accumulate (h : ∀ entry ∈ byId, entry.1 = entry.2.id)
    (message : CapsuleChatInboxMessage) :
    ∀ entry ∈ accumulate message message.id (fun _ => message) byId, entry.1 = entry.2.id := by
  intro entry hentry
  rcases mem_accumulate hentry with hold | ⟨_, rfl⟩
  · exact h entry hold
  · rfl

theorem keyed_mergeMessage (h : ∀ entry ∈ byId, entry.1 = entry.2.id)
    (message : CapsuleChatInboxMessage) :
    ∀ entry ∈ mergeMessage byId message, entry.1 = entry.2.id := by
  unfold mergeMessage
  split_ifs
  · exact keyed_accumulate h message
  · exact h

namespace Timeline

/-- `_mergeMessagesInto`. -/
def merge (timeline : Timeline) (incoming : List CapsuleChatInboxMessage) : Timeline where
  toChatTimeline := mergeMessagesInto timeline.toChatTimeline incoming
  keyed := replay_invariant
    (P := fun byId : List (String × CapsuleChatInboxMessage) =>
      ∀ entry ∈ byId, entry.1 = entry.2.id)
    timeline.keyed fun _ message _ h => keyed_mergeMessage h message

/-- The timeline of a list; a later message takes the place of an earlier one. -/
def ofMessages (messages : List CapsuleChatInboxMessage) : Timeline where
  byId := overwriteAll CapsuleChatInboxMessage.id messages
  distinct := overwriteAll_nodup _ _
  keyed := by
    rintro ⟨id, message⟩ hentry
    exact (mem_overwriteAll.mp hentry).1.symm

def remove (timeline : Timeline) (ids : List String) : Timeline where
  byId := timeline.byId.filter fun entry => entry.1 ∉ ids
  distinct := timeline.distinct.sublist (List.filter_sublist.map Prod.fst)
  keyed := fun entry hentry => timeline.keyed entry (List.mem_filter.mp hentry).1

end Timeline

/-- The messages that a merge takes: their ids are not bound to another message. -/
def accepted (byId : List (String × CapsuleChatInboxMessage)) :
    List CapsuleChatInboxMessage → List CapsuleChatInboxMessage
  | [] => []
  | message :: rest =>
    (if (accumulated byId message.id).all (sameMessageSemantics · message) then [message]
      else []) ++ accepted (mergeMessage byId message) rest

/-! ### The byte budget -/

def completed (message : CapsuleChatInboxMessage) : Bool :=
  message.direction == .incoming ||
    (message.deliveryState != .pending && message.deliveryState != .ambiguous)

/-- The ids that go until the bytes are within the budget. -/
def evictedIds (host : InboxHost) (budget : ℤ) : ℤ → List CapsuleChatInboxMessage → List String
  | _, [] => []
  | bytes, message :: rest =>
    if bytes ≤ budget then []
    else message.id :: evictedIds host budget (bytes - host.entryBytes message) rest

def completedBytes (host : InboxHost) (timeline : Timeline) : ℤ :=
  ((timeline.messages.filter completed).map fun message => (host.entryBytes message : ℤ)).sum

/-- The order of eviction; the ids are compared by their units. -/
def olderFirst (a b : CapsuleChatInboxMessage) : Bool :=
  decide (a.timestampMs < b.timestampMs) ||
    (decide (a.timestampMs = b.timestampMs) && textLe (utf16 a.id) (utf16 b.id))

/-- What `_retainMessages` takes away, the oldest first; none where the budget is kept. -/
def evicted (host : InboxHost) (timeline : Timeline) (budget : ℤ) : Option (List String) :=
  if completedBytes host timeline ≤ budget then none
  else some (evictedIds host budget (completedBytes host timeline)
    (host.sort olderFirst (timeline.messages.filter completed)))

/-! ### Files -/

/-- The timeline file of a capsule; an entry that is no message is none.  Of the others that
    cannot be opened or are no timeline of the capsule some make the reader throw. -/
inductive TimelineFile
  | missing
  | invalid (throws : Bool)
  | timeline (cacheBudgetBytes : Option ℤ) (messages : List (Option CapsuleChatInboxMessage))
  deriving DecidableEq

/-- What a file holds under its ids. -/
def stored : TimelineFile → Timeline
  | .timeline _ messages => Timeline.ofMessages messages.reduceOption
  | _ => Timeline.empty

def directed (capsuleRootHex : String) (message : CapsuleChatInboxMessage) : Bool :=
  match message.direction with
  | .incoming => message.toHex.all fun toHex => toHex == capsuleRootHex
  | .outgoing => message.fromHex == capsuleRootHex && message.toHex.isSome

def decodeTimelineMessage (capsuleRootHex : String) (raw : Option CapsuleChatInboxMessage) :
    Option CapsuleChatInboxMessage :=
  raw.filter fun message =>
    message.id != "" && isHex64 message.fromHex && message.toHex.all isHex64 &&
      message.messageText != "" && message.createdAtUtc != "" && directed capsuleRootHex message

def byTimestamp (a b : CapsuleChatInboxMessage) : Bool := decide (a.timestampMs ≤ b.timestampMs)

/-- What a persist writes. -/
def writtenFile (host : InboxHost) (timeline : Timeline) (budget : ℤ) : TimelineFile :=
  .timeline (some budget) ((host.sort byTimestamp timeline.messages).map some)

/-! ### What timelines hold -/

namespace Timeline

variable {message : CapsuleChatInboxMessage} {timeline : Timeline}

theorem mem_messages : message ∈ timeline.messages ↔ timeline.lookup message.id = some message := by
  unfold lookup messages
  rw [← mem_iff_accumulated timeline.distinct, List.mem_map]
  constructor
  · rintro ⟨entry, hentry, rfl⟩
    rw [← timeline.keyed entry hentry]
    exact hentry
  · exact fun h => ⟨_, h, rfl⟩

theorem id_of_lookup {id : String} (h : timeline.lookup id = some message) : message.id = id :=
  (timeline.keyed _ (mem_of_accumulated h)).symm

theorem lookup_remove (timeline : Timeline) (ids : List String) (id : String) :
    (timeline.remove ids).lookup id = if id ∈ ids then none else timeline.lookup id := by
  unfold lookup remove
  ext message
  rw [← mem_iff_accumulated (timeline.distinct.sublist (List.filter_sublist.map Prod.fst)),
    List.mem_filter, mem_iff_accumulated timeline.distinct]
  split_ifs with hid <;> simp [hid]

/-- A list of the messages of a timeline makes it again. -/
theorem lookup_ofMessages {messages : List CapsuleChatInboxMessage}
    (h : messages.Perm timeline.messages) (id : String) :
    (ofMessages messages).lookup id = timeline.lookup id := by
  have hids : (messages.map CapsuleChatInboxMessage.id).Nodup := by
    rw [(h.map _).nodup_iff]
    have hkeys : timeline.messages.map CapsuleChatInboxMessage.id = timeline.byId.map Prod.fst := by
      unfold Timeline.messages
      rw [List.map_map]
      exact List.map_congr_left fun entry hentry => (timeline.keyed entry hentry).symm
    rw [hkeys]
    exact timeline.distinct
  ext message
  show accumulated (overwriteAll CapsuleChatInboxMessage.id messages) id = some message ↔ _
  rw [accumulated_overwriteAll]
  constructor
  · rintro ⟨rfl, front, back, hmessages, -⟩
    refine mem_messages.mp (h.mem_iff.mp ?_)
    rw [hmessages]
    exact List.mem_append_right _ List.mem_cons_self
  · intro hlookup
    have hid := id_of_lookup hlookup
    subst hid
    obtain ⟨front, back, hmessages⟩ :=
      List.append_of_mem (h.mem_iff.mpr (mem_messages.mpr hlookup))
    refine ⟨rfl, front, back, hmessages, ?_⟩
    rw [hmessages, List.map_append, List.map_cons] at hids
    exact (List.nodup_cons.mp hids.of_append_right).1

/-- A map that is written over with a second one answers from the second one first. -/
theorem lookup_ofMessages_append (messages more : List CapsuleChatInboxMessage) (id : String) :
    (ofMessages (messages ++ more)).lookup id =
      ((ofMessages more).lookup id).or ((ofMessages messages).lookup id) := by
  show accumulated (overwriteAll _ _) id = (accumulated (overwriteAll _ _) id).or
    (accumulated (overwriteAll _ _) id)
  induction more using List.reverseRecOn with
  | nil => simp [overwriteAll, accumulated]
  | append_singleton more message ih =>
    rw [← List.append_assoc, overwriteAll_snoc, overwriteAll_snoc, accumulated_accumulate,
      accumulated_accumulate, ih]
    split_ifs
    · rfl
    · rfl

theorem holds_congr {timeline other : Timeline}
    (h : timeline.lookup message.id = other.lookup message.id) :
    timeline.holds message = other.holds message := by
  unfold holds
  rw [h]

theorem holds_remove {ids : List String} (h : timeline.holds message = true)
    (hid : message.id ∉ ids) : (timeline.remove ids).holds message = true := by
  have hlookup := lookup_remove timeline ids message.id
  rw [if_neg hid] at hlookup
  rw [holds_congr hlookup]
  exact h

end Timeline

/-! ### Merges -/

theorem sameMessageSemantics_iff {a b : CapsuleChatInboxMessage} :
    sameMessageSemantics a b = true ↔ { a with deliveryState := b.deliveryState } = b := by
  cases a
  cases b
  simp [sameMessageSemantics, and_assoc]

theorem sameMessageSemantics_refl (a : CapsuleChatInboxMessage) :
    sameMessageSemantics a a = true := sameMessageSemantics_iff.mpr rfl

/-- Two messages with the content of a third have the same content. -/
theorem same_of_common {a b c : CapsuleChatInboxMessage} (hb : sameMessageSemantics a b = true)
    (hc : sameMessageSemantics a c = true) : sameMessageSemantics b c = true := by
  rw [sameMessageSemantics_iff] at hb hc ⊢
  rw [← hb, ← hc]

/-- `Timeline.holds` for the map itself. -/
def bound (byId : List (String × CapsuleChatInboxMessage)) (message : CapsuleChatInboxMessage) :
    Bool :=
  (accumulated byId message.id).any (sameMessageSemantics · message)

variable {message : CapsuleChatInboxMessage}

theorem bound_mergeMessage (h : bound byId message = true) (other : CapsuleChatInboxMessage) :
    bound (mergeMessage byId other) message = true := by
  obtain ⟨held, hheld, hsame⟩ := (Option.any_eq_true _ _).mp h
  unfold bound
  rw [accumulated_mergeMessage]
  split_ifs with htaken
  · -- the other message has the same content
    obtain ⟨hid, hall⟩ := htaken
    rw [hid, hheld] at hall
    exact same_of_common hall hsame
  · exact h

theorem bound_replay (h : bound byId message = true) (incoming : List CapsuleChatInboxMessage) :
    bound (replay mergeMessage byId incoming) message = true :=
  replay_invariant (P := fun byId => bound byId message = true) h
    fun _ other _ h => bound_mergeMessage h other

variable {incoming : List CapsuleChatInboxMessage}

theorem bound_accepted (h : message ∈ accepted byId incoming) :
    bound (replay mergeMessage byId incoming) message = true := by
  induction incoming generalizing byId with
  | nil => exact nomatch h
  | cons first rest ih =>
    rw [replay_cons]
    rcases List.mem_append.mp h with hfirst | hrest
    · split_ifs at hfirst with htaken
      · rw [List.mem_singleton.mp hfirst]
        refine bound_replay ?_ rest
        unfold bound
        rw [accumulated_mergeMessage, if_pos ⟨rfl, htaken⟩]
        exact sameMessageSemantics_refl first
      · exact nomatch hfirst
    · exact ih hrest

theorem holds_merge {timeline : Timeline} (h : timeline.holds message = true)
    (incoming : List CapsuleChatInboxMessage) :
    (timeline.merge incoming).holds message = true := bound_replay h incoming

/-- **A merge holds what it takes**, whatever follows in the same merge. -/
theorem holds_accepted {timeline : Timeline} (h : message ∈ accepted timeline.byId incoming) :
    (timeline.merge incoming).holds message = true := bound_accepted h

/-! ### Files -/

theorem lookup_written (host : InboxHost) (timeline : Timeline) (budget : ℤ) (id : String) :
    (stored (writtenFile host timeline budget)).lookup id = timeline.lookup id := by
  have hread : ((host.sort byTimestamp timeline.messages).map some).reduceOption =
      host.sort byTimestamp timeline.messages := by
    simp [List.reduceOption, List.filterMap_map]
  show (Timeline.ofMessages _).lookup id = _
  rw [hread]
  exact Timeline.lookup_ofMessages (host.sort_perm _ _) id

/-- Where every entry is a message of the capsule, these are the messages of the file. -/
theorem decoded_all {capsuleRootHex : String} {raw : List (Option CapsuleChatInboxMessage)}
    {messages : List CapsuleChatInboxMessage}
    (h : raw.mapM (decodeTimelineMessage capsuleRootHex) = some messages) :
    raw.reduceOption = messages := by
  induction raw generalizing messages with
  | nil => exact Option.some.inj h
  | cons first rest ih =>
    rw [List.mapM_cons] at h
    obtain ⟨message, hfirst, hrest⟩ := Option.bind_eq_some_iff.mp h
    obtain ⟨others, hothers, hmessages⟩ := Option.bind_eq_some_iff.mp hrest
    obtain ⟨hraw, -⟩ := Option.filter_eq_some_iff.mp hfirst
    rw [← Option.some.inj hmessages, hraw, List.reduceOption_cons_of_some, ih hothers]

end DeliveryInbox

end Hivra
