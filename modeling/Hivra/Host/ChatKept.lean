import Hivra.Host.ChatDrain
import Hivra.Host.PeerRouting

namespace Hivra

open Replay

namespace ChatDelivery

/-!
# What a drain keeps

An acknowledged event id will not come again, so its item has to be somewhere: malformed,
refused, in the deferred inbox, or a message of the timeline.  The store seals a message id, so
of two items with one id only one becomes a message.  An item whose identity blocks is read
under its transport, and its message is still attributed to the identity.
-/

section Kept

variable {Double : Type} {dart : DartViews Double} {outside : ChatOutside Double}
  {stored : List CapsuleChatDeferredInboxItem} {timeline : ChatTimeline}
  {decoded : List (DartValue Double)}

/-- Two deferred items with one sender, payload and time. -/
def SameContent (a b : CapsuleChatDeferredInboxItem) : Prop :=
  a.fromHex = b.fromHex ∧ a.payloadJson = b.payloadJson ∧ a.timestampMs = b.timestampMs

section Places

variable (dart : DartViews Double) (outside : ChatOutside Double)
  (stored : List CapsuleChatDeferredInboxItem) (timeline : ChatTimeline)
  (decoded : List (DartValue Double))

/-- An item without a sender or a payload, or whose payload is no envelope. -/
def Malformed (item : ChatTransportItem) : Prop :=
  item.wellFormed = false ∨ parseEnvelope dart outside item.payloadJson = none

/-- An item that the consensus blocks for a reason that is not deferred, or that cannot be
    deferred since the capsule is not known. -/
def Refused (item : ChatTransportItem) : Prop :=
  (verdict outside item).isSignable = false ∧
    (shouldDeferForConsensus (verdict outside item) = false ∨ outside.localRoot = none)

/-- A deferred item is in the inbox, or the last item of its id was first seen too long ago, or
    an item with another content has its id. -/
def DeferredIn (outcome : DrainOutcome) (deferred : CapsuleChatDeferredInboxItem) : Prop :=
  (∃ inbox, outcome.deferredInbox = some inbox ∧ ∃ kept ∈ inbox, SameContent kept deferred) ∨
  (∃ last, (deferred.id, last) ∈ overwriteAll CapsuleChatDeferredInboxItem.id
      (deferrals dart outside stored decoded) ∧
    last.firstSeenAt < outside.now - capsuleChatDeferredInboxTtl) ∨
  ∃ other ∈ deferrals dart outside stored decoded,
    other.id = deferred.id ∧ ¬ SameContent other deferred

/-- A message with the sender and text of an admitted one is in the timeline, or another message
    with its id is there or is admitted, or the active capsule is no key. -/
def StoredIn (outcome : DrainOutcome) (message : CapsuleChatInboxMessage) : Prop :=
  (∃ entry ∈ outcome.timeline.byId, SameText entry.2 message) ∨
  (∃ other, (message.id, other) ∈ timeline.byId ∧ ¬ SameText other message) ∨
  (∃ other ∈ admissions dart outside stored decoded,
    other.id = message.id ∧ ¬ SameText other message) ∨
  isHex64 (trimmedLower (activeCapsuleHex outside)) = false

/-- What an outcome owes to the items of a drain. -/
structure DrainKept (outcome : DrainOutcome) : Prop where
  /-- The item of an acknowledged event id is somewhere. -/
  accounted : ∀ item ∈ seenItems dart outside stored decoded,
    item.eventId ∈ outcome.acknowledged →
      Malformed dart outside item ∨ Refused outside item ∨
      (∃ deferred, deferredOf outside item = some deferred ∧
        DeferredIn dart outside stored decoded outcome deferred) ∨
      ∃ message, admittedOf dart outside item = some message ∧
        StoredIn dart outside stored timeline decoded outcome message
  /-- A stored message keeps its sender and text. -/
  keeps : ∀ id old, (id, old) ∈ timeline.byId →
    ∃ kept, (id, kept) ∈ outcome.timeline.byId ∧ SameText kept old
  /-- A new message is an admitted one, under its own id. -/
  takes : ∀ id kept, (id, kept) ∈ outcome.timeline.byId →
    (id, kept) ∈ timeline.byId ∨
      (kept ∈ admissions dart outside stored decoded ∧ kept.id = id)

/-- What an outcome would owe if no id were taken, and if neither the age of an item nor a
    missing root were a reason not to keep a deferred one. -/
def LosesNothing (outcome : DrainOutcome) : Prop :=
  ∀ item ∈ seenItems dart outside stored decoded, item.eventId ∈ outcome.acknowledged →
    Malformed dart outside item ∨
    ((verdict outside item).isSignable = false ∧
      shouldDeferForConsensus (verdict outside item) = false) ∨
    (∃ inbox, outcome.deferredInbox = some inbox ∧ ∃ kept ∈ inbox,
      kept.fromHex = item.fromHex ∧ kept.payloadJson = item.payloadJson ∧
        kept.timestampMs = item.timestampMs) ∨
    ∃ message, messageOf dart outside item = some message ∧
      ∃ entry ∈ outcome.timeline.byId, SameText entry.2 message

end Places

/-- The timeline after a drain. -/
def Merged (dart : DartViews Double) (outside : ChatOutside Double) (timeline : ChatTimeline)
    (state : DrainState) (after : ChatTimeline) : Prop :=
  after = mergeMessagesInto timeline (drainMessages dart state) ∨
    (after = timeline ∧ (isHex64 (trimmedLower (activeCapsuleHex outside)) = false ∨
      drainMessages dart state = []))

variable {after : ChatTimeline}

theorem mergeDurably_eq_some {messages : List CapsuleChatInboxMessage} {capsuleHex : String}
    (h : mergeDurably outside timeline capsuleHex messages = some after) :
    after = mergeMessagesInto timeline messages ∨
      (after = timeline ∧ (isHex64 (trimmedLower capsuleHex) = false ∨ messages = [])) := by
  unfold mergeDurably at h
  split_ifs at h with hskip hcommits
  · rw [Bool.or_eq_true, Bool.not_eq_true', List.isEmpty_iff] at hskip
    exact .inr ⟨(Option.some.inj h).symm, hskip⟩
  · exact .inl (Option.some.inj h).symm

/-- A drain either merges its messages, or fails and acknowledges nothing. -/
theorem settleDrain_cases (dart : DartViews Double) (outside : ChatOutside Double) (code : ℤ)
    (timeline : ChatTimeline) (state : DrainState) :
    settleDrain dart outside code timeline state = notPersisted dart timeline state ∨
      ∃ after, Merged dart outside timeline state after ∧
        settleDrain dart outside code timeline state = persisted dart outside code state after := by
  unfold settleDrain
  cases hmerge : mergeDurably outside timeline (activeCapsuleHex outside)
      (drainMessages dart state) with
  | none => exact .inl rfl
  | some after => exact .inr ⟨after, mergeDurably_eq_some hmerge, rfl⟩

theorem settleDrain_spec (dart : DartViews Double) (outside : ChatOutside Double) (code : ℤ)
    (timeline : ChatTimeline) (state : DrainState) :
    (settleDrain dart outside code timeline state).messages = drainMessages dart state ∧
    (settleDrain dart outside code timeline state).deferredByConsensus =
      state.deferredByConsensus ∧
    (((settleDrain dart outside code timeline state).acknowledged = [] ∧
        (settleDrain dart outside code timeline state).timeline = timeline) ∨
      (Merged dart outside timeline state (settleDrain dart outside code timeline state).timeline ∧
        (settleDrain dart outside code timeline state).deferredInbox =
          writtenDeferred dart outside state ∧
        ∀ e, e ∈ (settleDrain dart outside code timeline state).acknowledged ↔
          e ∈ state.terminalEventIds)) := by
  rcases settleDrain_cases dart outside code timeline state with heq | ⟨after, hmerged, heq⟩
  · rw [heq]
    exact ⟨rfl, rfl, .inl ⟨rfl, rfl⟩⟩
  · rw [heq]
    exact ⟨rfl, rfl, .inr ⟨hmerged, rfl, fun e => (dart.sort_perm _ _).mem_iff⟩⟩

variable {item : ChatTransportItem}

/-- An item that is seen and not malformed is an item of the loop. -/
theorem mem_incomingItems (h : item ∈ seenItems dart outside stored decoded)
    (hformed : ¬ Malformed dart outside item) :
    item ∈ incomingItems dart outside stored decoded := by
  rcases List.mem_append.mp h with hbefore | hbatch
  · exact List.mem_append_left _ hbefore
  · refine List.mem_append_right _ (List.mem_filter.mpr ⟨hbatch, ?_⟩)
    by_contra hbad
    exact hformed (.inl (by simpa using hbad))

/-- An item that is neither malformed nor refused is admitted or deferred. -/
theorem admitted_or_deferred (hformed : ¬ Malformed dart outside item)
    (hrefused : ¬ Refused outside item) :
    (∃ deferred, deferredOf outside item = some deferred) ∨
      ∃ message, admittedOf dart outside item = some message := by
  unfold deferredOf admittedOf
  cases hsignable : (verdict outside item).isSignable with
  | true =>
    obtain ⟨envelope, henvelope⟩ := Option.ne_none_iff_exists'.mp fun h => hformed (.inr h)
    exact .inr ⟨_, by rw [if_pos rfl, messageOf, henvelope, Option.map_some]⟩
  | false =>
    have hdefer : shouldDeferForConsensus (verdict outside item) = true := by
      by_contra hno
      exact hrefused ⟨hsignable, .inl (by simpa using hno)⟩
    obtain ⟨root, hroot⟩ := Option.ne_none_iff_exists'.mp fun h => hrefused ⟨hsignable, .inr h⟩
    exact .inl ⟨_, by rw [hdefer, localRootHex, hroot]; rfl⟩

variable {deferred : CapsuleChatDeferredInboxItem}

theorem root_of_deferred (h : deferredOf outside item = some deferred) :
    outside.localRoot ≠ none := by
  intro hnone
  unfold deferredOf at h
  rw [localRootHex, hnone, Option.map_none, Option.map_none, ite_self] at h
  cases h

variable {outcome : DrainOutcome}

theorem deferred_kept (hmem : deferred ∈ deferrals dart outside stored decoded)
    (hroot : outside.localRoot ≠ none)
    (hfew : (deferrals dart outside stored decoded).length ≤ capsuleChatDeferredInboxMaxItems)
    (hwritten : outcome.deferredInbox =
      writtenDeferred dart outside (drainItems dart outside stored decoded)) :
    DeferredIn dart outside stored decoded outcome deferred := by
  obtain ⟨last, hlast, hid, hentry⟩ :=
    @exists_mem_overwriteAll _ _ _ CapsuleChatDeferredInboxItem.id _ _ hmem
  obtain ⟨inbox, hinbox, hkept⟩ := writtenDeferred_spec stored decoded hroot hfew
  by_cases hcontent : SameContent last deferred
  · by_cases hfresh : outside.now - capsuleChatDeferredInboxTtl ≤ last.firstSeenAt
    · exact .inl ⟨inbox, hwritten.trans hinbox, last, hkept _ _ hentry hfresh, hcontent⟩
    · exact .inr (.inl ⟨last, hentry, not_le.mp hfresh⟩)
  · exact .inr (.inr ⟨last, hlast, hid, hcontent⟩)

variable {message : CapsuleChatInboxMessage}

/-- What a drain hands to the timeline is admitted. -/
theorem admitted_of_handed
    (h : message ∈ drainMessages dart (drainItems dart outside stored decoded)) :
    message ∈ admissions dart outside stored decoded := by
  obtain ⟨-, front, back, hall, -⟩ := mem_overwriteAll.mp ((mem_drainMessages stored decoded).mp h)
  rw [hall]
  exact List.mem_append_right _ (List.mem_cons_self ..)

theorem admitted_stored (hmem : message ∈ admissions dart outside stored decoded)
    (hmerged : Merged dart outside timeline (drainItems dart outside stored decoded)
      outcome.timeline) : StoredIn dart outside stored timeline decoded outcome message := by
  -- the batch hands on the last message of the id
  obtain ⟨last, hlast, hid, hentry⟩ :=
    @exists_mem_overwriteAll _ _ _ CapsuleChatInboxMessage.id _ _ hmem
  have hhanded : last ∈ drainMessages dart (drainItems dart outside stored decoded) := by
    rw [mem_drainMessages, hid]
    exact hentry
  rcases hmerged with hmerged | ⟨-, hnokey | hempty⟩
  · obtain ⟨-, hfrom, hheld⟩ := merged_spec timeline
      (drainMessages dart (drainItems dart outside stored decoded)) message.id
    obtain ⟨kept, hkept⟩ := Option.ne_none_iff_exists'.mp
      (hheld (List.mem_map.mpr ⟨last, hhanded, hid⟩))
    by_cases hsame : SameText kept message
    · exact .inl ⟨_, hmerged ▸ mem_of_accumulated hkept, hsame⟩
    · rcases hfrom kept hkept with hold | ⟨hnew, hkeptid⟩
      · exact .inr (.inl ⟨kept, mem_of_accumulated hold, hsame⟩)
      · exact .inr (.inr (.inl ⟨kept, admitted_of_handed hnew, hkeptid, hsame⟩))
  · exact .inr (.inr (.inr hnokey))
  · rw [hempty] at hhanded
    exact nomatch hhanded

/-- The timeline keeps the sender and text of what it holds. -/
theorem timeline_keeps {state : DrainState} (h : Merged dart outside timeline state after)
    {id : String} {old : CapsuleChatInboxMessage} (hold : (id, old) ∈ timeline.byId) :
    ∃ kept, (id, kept) ∈ after.byId ∧ SameText kept old := by
  rcases h with rfl | ⟨rfl, -⟩
  · obtain ⟨hkeeps, -, -⟩ := merged_spec timeline (drainMessages dart state) id
    obtain ⟨kept, hkept, htext⟩ := hkeeps old ((mem_iff_accumulated timeline.distinct).mp hold)
    exact ⟨kept, mem_of_accumulated hkept, htext⟩
  · exact ⟨old, hold, SameText.refl old⟩

/-- The timeline takes what the drain hands on. -/
theorem timeline_takes {state : DrainState} (h : Merged dart outside timeline state after)
    {id : String} {kept : CapsuleChatInboxMessage} (hkept : (id, kept) ∈ after.byId) :
    (id, kept) ∈ timeline.byId ∨ (kept ∈ drainMessages dart state ∧ kept.id = id) := by
  rcases h with rfl | ⟨rfl, -⟩
  · obtain ⟨-, hfrom, -⟩ := merged_spec timeline (drainMessages dart state) id
    refine (hfrom kept ?_).imp mem_of_accumulated fun h => h
    exact (mem_iff_accumulated (mergeMessagesInto timeline _).distinct).mp hkept
  · exact .inl hkept

end Kept

/-- **Where the items of a drain are.**  With no more deferred items than the inbox keeps, the
    item of an acknowledged event id is malformed, or refused, or deferred and in the inbox, or
    admitted and a message of the timeline, except for what has the same id.  The timeline keeps
    the sender and text of what it holds, and takes admitted messages only. -/
theorem acknowledged_kept {Double : Type} (dart : DartViews Double)
    (outside : ChatOutside Double) (code : ℤ) (stored : List CapsuleChatDeferredInboxItem)
    (timeline : ChatTimeline) (decoded : List (DartValue Double))
    (hfew : (drainAndFilter dart outside code stored timeline decoded).deferredByConsensus ≤
      capsuleChatDeferredInboxMaxItems) :
    DrainKept dart outside stored timeline decoded
      (drainAndFilter dart outside code stored timeline decoded) := by
  unfold drainAndFilter at *
  obtain ⟨-, hcount, hcases⟩ := settleDrain_spec dart outside code timeline
    (drainItems dart outside stored decoded)
  rw [hcount, (drainItems_deferred stored decoded).2] at hfew
  generalize settleDrain dart outside code timeline (drainItems dart outside stored decoded) =
    outcome at *
  rcases hcases with ⟨hnothing, hsame⟩ | ⟨hmerged, hwritten, -⟩
  · refine ⟨fun item _ h => ?_, ?_, ?_⟩
    · rw [hnothing] at h
      exact absurd h List.not_mem_nil
    · rw [hsame]
      exact fun id old hold => ⟨old, hold, SameText.refl old⟩
    · rw [hsame]
      exact fun id kept hkept => .inl hkept
  refine ⟨fun item hseen _ => ?_, fun id old hold => timeline_keeps hmerged hold,
    fun id kept hkept => ?_⟩
  · by_cases hmalformed : Malformed dart outside item
    · exact .inl hmalformed
    by_cases hrefused : Refused outside item
    · exact .inr (.inl hrefused)
    have hitem := mem_incomingItems hseen hmalformed
    rcases admitted_or_deferred hmalformed hrefused with ⟨deferred, hdeferred⟩ | ⟨message, hmsg⟩
    · refine .inr (.inr (.inl ⟨deferred, hdeferred, ?_⟩))
      exact deferred_kept (List.mem_filterMap.mpr ⟨item, hitem, hdeferred⟩)
        (root_of_deferred hdeferred) hfew hwritten
    · refine .inr (.inr (.inr ⟨message, hmsg, ?_⟩))
      exact admitted_stored (List.mem_filterMap.mpr ⟨item, hitem, hmsg⟩) hmerged
  · rcases timeline_takes hmerged hkept with hold | ⟨hhanded, hid⟩
    · exact .inl hold
    · exact .inr ⟨admitted_of_handed hhanded, hid⟩

/-! ### Two messages with one id -/

/-- The sample host with a sort that evaluates. -/
def sortedViews : DartViews String :=
  { sampleViews with
    sort := fun le items => items.insertionSort fun a b => le a b = true
    sort_perm := @insertionSort_perm }

def secondPayload : String :=
  "\x7b\"message_text\":\"second\",\"created_at_utc\":\"2026-08-08T12:00:01.000Z\"," ++
    "\"envelope_hash_hex\":\"c9\"\x7d"

/-- The members of the payload, which names its hash itself. -/
def secondEnvelope : DartValue String :=
  .obj [("message_text", .str "second"), ("created_at_utc", .str "2026-08-08T12:00:01.000Z"),
    ("envelope_hash_hex", .str "c9")]

/-- An item of key 2 with this payload. -/
def secondEntry : DartValue String :=
  .obj [("event_id", .str "e2"), ("from_hex", .str (keyText 2)),
    ("payload_json", .str secondPayload), ("timestamp_ms", .num (.inl 2))]

/-- The capsule of key 7. -/
def chatOutside (index : PeerIdentityIndex) (signable : String → ConsensusSignableResult) :
    ChatOutside String where
  localRoot := some ⟨List.replicate 32 7, rfl⟩
  bootstrapCapsule := none
  index := index
  signable := signable
  now := 1000000000
  decodeText := fun text => if text = secondPayload then some secondEnvelope else none
  toLowerCase := fun text => text
  sha256Hex := fun text => text
  timelineCommits := true
  acknowledgementCode := 0

/-- The timeline holds a message of key 1 under the id c9. -/
def firstMessage : CapsuleChatInboxMessage where
  id := "c9"
  fromHex := keyText 1
  toHex := some (keyText 7)
  messageText := "first"
  createdAtUtc := "2026-08-08T12:00:00.000Z"
  envelopeHashHex := "c9"
  timestampMs := 1
  direction := .incoming
  deliveryState := .received

def firstTimeline : ChatTimeline := ⟨[("c9", firstMessage)], List.nodup_singleton _⟩

/-- Every pair is signable, and a key stands for itself. -/
def allSignable : ChatOutside String := chatOutside .nothing fun _ => ⟨true, []⟩

def sealedOutcome : DrainOutcome :=
  drainAndFilter sortedViews allSignable 0 [] firstTimeline [secondEntry]

def secondItem : ChatTransportItem := ⟨"e2", keyText 2, secondPayload, 2, none⟩

/-- The second message is admitted and acknowledged, and the timeline stays as it was. -/
theorem sealedOutcome_eq :
    seenItems sortedViews allSignable [] [secondEntry] = [secondItem] ∧
    (verdict allSignable secondItem).isSignable = true ∧
    (messageOf sortedViews allSignable secondItem).map
      CapsuleChatInboxMessage.messageText = some "second" ∧
    sealedOutcome.deferredByConsensus = 0 ∧
    sealedOutcome.acknowledged = ["e2"] ∧
    sealedOutcome.deferredInbox = some [] ∧
    sealedOutcome.timeline.byId = [("c9", firstMessage)] := by
  decide +kernel

theorem acknowledged_kept_sealed :
    DrainKept sortedViews allSignable [] firstTimeline [secondEntry] sealedOutcome := by
  obtain ⟨-, -, -, hcount, -⟩ := sealedOutcome_eq
  refine acknowledged_kept sortedViews allSignable 0 [] firstTimeline [secondEntry] ?_
  rw [sealedOutcome] at hcount
  rw [hcount]
  exact Nat.zero_le _

theorem secondMessage_sealed :
    ¬ LosesNothing sortedViews allSignable [] [secondEntry] sealedOutcome := by
  intro h
  obtain ⟨hseen, hsignable, hmessage, -, hacknowledged, hinbox, htimeline⟩ := sealedOutcome_eq
  have hplace := h secondItem (hseen ▸ List.mem_singleton.mpr rfl)
    (hacknowledged ▸ List.mem_singleton.mpr rfl)
  generalize sealedOutcome = outcome at hplace hinbox htimeline
  rcases hplace with hmalformed | hrefused | ⟨inbox, hwritten, kept, hkept, -⟩ |
    ⟨message, hadmitted, entry, hentry, -, htext⟩
  · have hformed : secondItem.wellFormed = true ∧
        (parseEnvelope sortedViews allSignable secondItem.payloadJson).isSome = true := by
      decide +kernel
    rcases hmalformed with hbad | hnone
    · exact absurd (hformed.1.symm.trans hbad) (by decide)
    · rw [hnone] at hformed
      exact absurd hformed.2 (by decide)
  · exact absurd (hsignable.symm.trans hrefused.1) (by decide)
  · -- nothing is deferred
    rw [hinbox] at hwritten
    rw [← Option.some.inj hwritten] at hkept
    exact nomatch hkept
  · -- the only entry is the first message
    rw [htimeline, List.mem_singleton] at hentry
    rw [hadmitted, Option.map_some, ← htext, hentry] at hmessage
    exact absurd hmessage (by decide)

/-! ### The identity of a message -/

section Attribution

variable {Double : Type} {dart : DartViews Double} {outside : ChatOutside Double}
  {stored : List CapsuleChatDeferredInboxItem} {decoded : List (DartValue Double)}

/-- The identity of an item blocks, and its transport is signable on its own. -/
def BorrowsTransport (outside : ChatOutside Double) (item : ChatTransportItem) : Prop :=
  (readSignable outside (consensusPeerHex outside item)).isSignable = false ∧
    consensusPeerHex outside item ≠ item.fromHex ∧
    (readSignable outside item.fromHex).isSignable = true

/-- Every such item that is a message is followed by an admitted one with its id. -/
def NoneBorrows (dart : DartViews Double) (outside : ChatOutside Double)
    (stored : List CapsuleChatDeferredInboxItem) (decoded : List (DartValue Double)) : Prop :=
  ∀ front item back message, incomingItems dart outside stored decoded = front ++ item :: back →
    BorrowsTransport outside item → messageOf dart outside item = some message →
      ∃ later ∈ back, ∃ other, admittedOf dart outside later = some other ∧
        other.id = message.id

theorem verdict_signable_iff (item : ChatTransportItem) :
    (verdict outside item).isSignable = true ↔
      (readSignable outside (consensusPeerHex outside item)).isSignable = true ∨
        BorrowsTransport outside item := by
  unfold verdict BorrowsTransport
  cases hidentity : (readSignable outside (consensusPeerHex outside item)).isSignable with
  | true => simp [hidentity]
  | false =>
    by_cases hself : consensusPeerHex outside item = item.fromHex
    · rw [hself] at hidentity ⊢
      simp [hidentity]
    · simp [hself, hidentity]

variable {message : CapsuleChatInboxMessage}

/-- A message that is handed on is that of the last admitted item with its id. -/
theorem handed_iff :
    message ∈ drainMessages dart (drainItems dart outside stored decoded) ↔
      ∃ front item back, incomingItems dart outside stored decoded = front ++ item :: back ∧
        admittedOf dart outside item = some message ∧
        ∀ later ∈ back, ∀ other, admittedOf dart outside later = some other →
          other.id ≠ message.id := by
  rw [mem_drainMessages, mem_overwriteAll, admissions]
  constructor
  · rintro ⟨-, front, back, hall, hlast⟩
    obtain ⟨front', rest, hitems, -, hrest⟩ := List.filterMap_eq_append_iff.mp hall
    obtain ⟨skipped, item, back', hcut, hskipped, hitem, hback⟩ :=
      List.filterMap_eq_cons_iff.mp hrest
    refine ⟨front' ++ skipped, item, back', by rw [hitems, hcut, List.append_assoc], hitem, ?_⟩
    intro later hlater other hother heq
    refine hlast (heq ▸ List.mem_map_of_mem ?_)
    rw [← hback]
    exact List.mem_filterMap.mpr ⟨later, hlater, hother⟩
  · rintro ⟨front, item, back, hitems, hitem, hlast⟩
    refine ⟨rfl, front.filterMap (admittedOf dart outside),
      back.filterMap (admittedOf dart outside), ?_, ?_⟩
    · rw [hitems, List.filterMap_append, List.filterMap_cons_some hitem]
    · intro hmem
      obtain ⟨other, hother, hid⟩ := List.mem_map.mp hmem
      obtain ⟨later, hlater, hadmitted⟩ := List.mem_filterMap.mp hother
      exact hlast later hlater other hadmitted hid

variable {item : ChatTransportItem}

theorem fromHex_of_messageOf (h : messageOf dart outside item = some message) :
    message.fromHex = consensusPeerHex outside item := by
  rw [messageOf, Option.map_eq_some_iff] at h
  obtain ⟨envelope, -, hmessage⟩ := h
  rw [← hmessage, inboxMessage]

theorem admittedOf_eq_some :
    admittedOf dart outside item = some message ↔
      (verdict outside item).isSignable = true ∧ messageOf dart outside item = some message := by
  unfold admittedOf
  split_ifs with h <;> simp [h]

/-- Every message handed on is of a signable identity exactly when no transport is borrowed. -/
theorem handed_signable_iff :
    (∀ message ∈ drainMessages dart (drainItems dart outside stored decoded),
        (readSignable outside message.fromHex).isSignable = true) ↔
      NoneBorrows dart outside stored decoded := by
  constructor
  · intro hall front item back message hitems hborrows hmessage
    by_contra hnone
    push Not at hnone
    have hadmitted : admittedOf dart outside item = some message :=
      admittedOf_eq_some.mpr ⟨(verdict_signable_iff item).mpr (.inr hborrows), hmessage⟩
    have hsignable := hall message (handed_iff.mpr ⟨front, item, back, hitems, hadmitted, hnone⟩)
    rw [fromHex_of_messageOf hmessage, hborrows.1] at hsignable
    exact absurd hsignable Bool.false_ne_true
  · intro hnone message hhanded
    obtain ⟨front, item, back, hitems, hadmitted, hlast⟩ := handed_iff.mp hhanded
    obtain ⟨hsignable, hmessage⟩ := admittedOf_eq_some.mp hadmitted
    rw [fromHex_of_messageOf hmessage]
    rcases (verdict_signable_iff item).mp hsignable with hidentity | hborrows
    · exact hidentity
    · -- then a later message has its id, and this one is not handed on
      obtain ⟨later, hlater, other, hother, hid⟩ :=
        hnone front item back message hitems hborrows hmessage
      exact absurd hid (hlast later hlater other hother)

end Attribution

/-- **Attribution.**  Whatever the index and the answers of the consensus, every message of a
    drain is attributed to an identity that is signable exactly when no message is admitted by
    its transport alone.  The timeline takes no other messages. -/
theorem attributed_iff {Double : Type} (dart : DartViews Double) (outside : ChatOutside Double)
    (code : ℤ) (stored : List CapsuleChatDeferredInboxItem) (timeline : ChatTimeline)
    (decoded : List (DartValue Double)) :
    ((∀ message ∈ (drainAndFilter dart outside code stored timeline decoded).messages,
        (readSignable outside message.fromHex).isSignable = true) ↔
      NoneBorrows dart outside stored decoded) ∧
    ∀ id message,
      (id, message) ∈
          (drainAndFilter dart outside code stored timeline decoded).timeline.byId →
        (id, message) ∈ timeline.byId ∨
          message ∈ (drainAndFilter dart outside code stored timeline decoded).messages := by
  unfold drainAndFilter
  obtain ⟨hmessages, -, hcases⟩ := settleDrain_spec dart outside code timeline
    (drainItems dart outside stored decoded)
  generalize settleDrain dart outside code timeline (drainItems dart outside stored decoded) =
    outcome at *
  rw [hmessages]
  refine ⟨handed_signable_iff, fun id message hmem => ?_⟩
  rcases hcases with ⟨-, hsame⟩ | ⟨hmerged, -, -⟩
  · exact .inl (hsame ▸ hmem)
  · exact (timeline_takes hmerged hmem).imp (fun h => h) And.left

/-! ### A transport that names another root -/

/-- The invitation over transport 2 names root 3; transport 2 is signable on its own. -/
def borrowedOutside : ChatOutside String :=
  chatOutside (peerIdentityIndex sampleViews [] [otherRootInvitation] []) fun key =>
    ⟨true, if key = keyText 2 then [] else ["pair_consensus_missing"]⟩

/-- The message of transport 2 is stored as one of root 3. -/
theorem borrowedRoot_attributed :
    ¬ ∀ message ∈ (drainAndFilter sortedViews borrowedOutside 0 [] ⟨[], List.nodup_nil⟩
        [secondEntry]).messages,
      (readSignable borrowedOutside message.fromHex).isSignable = true := by
  decide +kernel

end ChatDelivery

end Hivra
