import Hivra.Host.PeerIndex
import Hivra.Host.HostTexts

namespace Hivra

open Replay

namespace ChatDelivery

/-!
# Draining the chat inbox

A drain takes the deferred items of the capsule and then the drained batch.  Each item is read
under the identity its transport stands for, and admitted, deferred or dropped by the consensus
of the pair; admitted messages go to the timeline, deferred items to the deferred inbox, and
what was handled is acknowledged.  The timeline is taken before its byte budget is applied.

* `drainItems_deferred`, `mem_drainMessages` — what the loop leaves.
-/

/-- The answer of the pair consensus: whether there is a preview, and the codes of the facts
    that block it. -/
structure ConsensusSignableResult where
  previewed : Bool
  blockingFacts : List String
  deriving DecidableEq

def ConsensusSignableResult.isSignable (result : ConsensusSignableResult) : Bool :=
  result.previewed && result.blockingFacts.isEmpty

inductive CapsuleChatMessageDirection
  | incoming
  | outgoing
  deriving DecidableEq

inductive CapsuleChatMessageDeliveryState
  | received
  | pending
  | transportAccepted
  | ambiguous
  | failed
  deriving DecidableEq

structure CapsuleChatInboxMessage where
  id : String
  fromHex : String
  toHex : Option String
  messageText : String
  createdAtUtc : String
  envelopeHashHex : String
  timestampMs : ℤ
  direction : CapsuleChatMessageDirection
  deliveryState : CapsuleChatMessageDeliveryState
  deriving DecidableEq

/-- A deferred item; times are milliseconds. -/
structure CapsuleChatDeferredInboxItem where
  id : String
  adapterEventId : String
  capsuleHex : String
  fromHex : String
  payloadJson : String
  timestampMs : ℤ
  firstSeenAt : ℤ
  lastSeenAt : ℤ
  attempts : ℕ
  deriving DecidableEq

structure ChatTransportItem where
  eventId : String
  fromHex : String
  payloadJson : String
  timestampMs : ℤ
  deferredItem : Option CapsuleChatDeferredInboxItem
  deriving DecidableEq

structure ChatEnvelope where
  messageText : String
  createdAtUtc : String
  envelopeHashHex : String
  deriving DecidableEq

def capsuleChatDeferredInboxMaxItems : ℕ := 200
def capsuleChatDeferredInboxTtl : ℤ := 48 * 60 * 60 * 1000

/-- The messages of a capsule by their ids. -/
structure ChatTimeline where
  byId : List (String × CapsuleChatInboxMessage)
  distinct : (byId.map Prod.fst).Nodup

/-- What a drain meets outside: the root of the runtime, the capsule of the worker, the routing
    index, the consensus read for a key, the clock, the JSON reader, the case and digest
    functions, whether the timeline can be read and written, and the code of the
    acknowledgement. -/
structure ChatOutside (Double : Type) where
  localRoot : Option (List.Vector UInt8 32)
  bootstrapCapsule : Option String
  index : PeerIdentityIndex
  signable : String → ConsensusSignableResult
  now : ℤ
  decodeText : String → Option (DartValue Double)
  toLowerCase : String → String
  sha256Hex : String → String
  timelineCommits : Bool
  acknowledgementCode : ℤ

section Drain

variable {Double : Type} (dart : DartViews Double) (outside : ChatOutside Double)

def localRootHex : Option String := outside.localRoot.map fun root => hexText root.toList

def activeCapsuleHex : String :=
  (outside.bootstrapCapsule.map trimmedLower).getD ((localRootHex outside).getD "")

/-! ### The items -/

/-- An integer member, or the integer its text reads as, or 0. -/
def timestampOf (raw : Option (DartValue Double)) : ℤ :=
  match raw with
  | some (.num (.inl value)) => value
  | raw => (dart.tryParseInt none ((displayText dart.toDartRuntime raw).getD "null").toList).getD 0

/-- An entry of the drained batch; one that is not a map is skipped. -/
def drainedItem : DartValue Double → Option ChatTransportItem
  | .obj members => some
    { eventId := trimmed ((displayText dart.toDartRuntime (members.lookup "event_id")).getD "")
      fromHex := trimmedLower ((displayText dart.toDartRuntime (members.lookup "from_hex")).getD "")
      payloadJson := (displayText dart.toDartRuntime (members.lookup "payload_json")).getD ""
      timestampMs := timestampOf dart (members.lookup "timestamp_ms")
      deferredItem := none }
  | _ => none

/-- Whether an entry names a sender and a payload. -/
def ChatTransportItem.wellFormed (item : ChatTransportItem) : Bool :=
  isHex64 item.fromHex && item.payloadJson != ""

def ofDeferred (item : CapsuleChatDeferredInboxItem) : ChatTransportItem where
  eventId := item.adapterEventId
  fromHex := item.fromHex
  payloadJson := item.payloadJson
  timestampMs := item.timestampMs
  deferredItem := some item

/-- The deferred items of a capsule. -/
def loadDeferred (stored : List CapsuleChatDeferredInboxItem) (capsuleHex : String) :
    List CapsuleChatDeferredInboxItem :=
  if isHex64 (trimmedLower capsuleHex) then
    stored.filter fun item => item.capsuleHex = trimmedLower capsuleHex
  else []

/-- Every item the drain sees: deferred ones first. -/
def seenItems (stored : List CapsuleChatDeferredInboxItem) (decoded : List (DartValue Double)) :
    List ChatTransportItem :=
  (loadDeferred stored ((localRootHex outside).getD "")).map ofDeferred ++
    decoded.filterMap (drainedItem dart)

/-- Those the loop runs over. -/
def incomingItems (stored : List CapsuleChatDeferredInboxItem)
    (decoded : List (DartValue Double)) : List ChatTransportItem :=
  (loadDeferred stored ((localRootHex outside).getD "")).map ofDeferred ++
    (decoded.filterMap (drainedItem dart)).filter ChatTransportItem.wellFormed

/-- The event ids of the entries that name no sender or no payload. -/
def malformedEventIds (decoded : List (DartValue Double)) : List String :=
  ((decoded.filterMap (drainedItem dart)).filter fun item =>
    !item.wellFormed && item.eventId != "").map ChatTransportItem.eventId

/-! ### One item -/

def consensusPeerHex (item : ChatTransportItem) : String :=
  outside.index.resolveConsensusForIncoming item.fromHex

/-- One read for each key. -/
def readSignable (peerHex : String) : ConsensusSignableResult :=
  outside.signable (trimmedLower peerHex)

/-- The consensus of the identity, or of the transport itself if that blocks. -/
def verdict (item : ChatTransportItem) : ConsensusSignableResult :=
  let signable := readSignable outside (consensusPeerHex outside item)
  if !signable.isSignable && consensusPeerHex outside item != item.fromHex then
    readSignable outside item.fromHex
  else signable

def shouldDeferForConsensus (signable : ConsensusSignableResult) : Bool :=
  signable.blockingFacts.any fun code =>
    trimmedLower code == "pair_attestation_missing" ||
      trimmedLower code == "pair_attestation_incomplete" ||
      trimmedLower code == "pair_consensus_attestation_missing"

def parseEnvelope (payloadJson : String) : Option ChatEnvelope :=
  match outside.decodeText payloadJson with
  | some (.obj members) =>
    let messageText := (displayText dart.toDartRuntime (members.lookup "message_text")).getD ""
    let createdAtUtc := (displayText dart.toDartRuntime (members.lookup "created_at_utc")).getD ""
    let envelopeHashHex :=
      (displayText dart.toDartRuntime (members.lookup "envelope_hash_hex")).getD ""
    if messageText = "" ∨ createdAtUtc = "" then none
    else some ⟨messageText, createdAtUtc, outside.toLowerCase envelopeHashHex⟩
  | _ => none

def stableMessageId (fromHex : String) (timestampMs : ℤ) (payloadJson : String) : String :=
  outside.sha256Hex (fromHex ++ "|" ++ toString timestampMs ++ "|" ++ payloadJson)

/-- The id of a message: the hash the envelope names, or else the event id, or else a digest. -/
def messageId (item : ChatTransportItem) (envelope : ChatEnvelope) : String :=
  if envelope.envelopeHashHex = "" then
    if item.eventId = "" then
      stableMessageId outside (consensusPeerHex outside item) item.timestampMs item.payloadJson
    else item.eventId
  else envelope.envelopeHashHex

def inboxMessage (item : ChatTransportItem) (envelope : ChatEnvelope) :
    CapsuleChatInboxMessage where
  id := messageId outside item envelope
  fromHex := consensusPeerHex outside item
  toHex := some (activeCapsuleHex outside)
  messageText := envelope.messageText
  createdAtUtc := envelope.createdAtUtc
  envelopeHashHex := envelope.envelopeHashHex
  timestampMs := item.timestampMs
  direction := .incoming
  deliveryState := .received

/-- The message of an item that the consensus admits, where its payload is an envelope. -/
def messageOf (item : ChatTransportItem) : Option CapsuleChatInboxMessage :=
  (parseEnvelope dart outside item.payloadJson).map (inboxMessage outside item)

/-- A new deferred item. -/
def createDeferred (capsuleHex : String) (item : ChatTransportItem) :
    CapsuleChatDeferredInboxItem where
  id := outside.sha256Hex (trimmedLower capsuleHex ++ "|" ++ trimmedLower item.fromHex ++ "|" ++
    toString item.timestampMs ++ "|" ++ item.payloadJson)
  adapterEventId := trimmed item.eventId
  capsuleHex := trimmedLower capsuleHex
  fromHex := trimmedLower item.fromHex
  payloadJson := item.payloadJson
  timestampMs := item.timestampMs
  firstSeenAt := outside.now
  lastSeenAt := outside.now
  attempts := 0

/-- A deferred item that is seen once more. -/
def seenAgain (deferredItem : CapsuleChatDeferredInboxItem) : CapsuleChatDeferredInboxItem :=
  { deferredItem with lastSeenAt := outside.now, attempts := deferredItem.attempts + 1 }

/-- What the loop has collected. -/
structure DrainState where
  byId : List (String × CapsuleChatInboxMessage)
  droppedByConsensus : ℕ
  deferredByConsensus : ℕ
  remainingDeferred : List CapsuleChatDeferredInboxItem
  nextDeferred : List CapsuleChatDeferredInboxItem
  terminalEventIds : List String

namespace DrainState

variable (state : DrainState)

def terminal (eventId : String) : DrainState :=
  if eventId = "" then state
  else { state with terminalEventIds := state.terminalEventIds.insert eventId }

def put (message : CapsuleChatInboxMessage) : DrainState :=
  { state with byId := accumulate message message.id (fun _ => message) state.byId }

def drop : DrainState := { state with droppedByConsensus := state.droppedByConsensus + 1 }

def deferNew (item : CapsuleChatDeferredInboxItem) : DrainState :=
  { state with
    deferredByConsensus := state.deferredByConsensus + 1
    nextDeferred := state.nextDeferred ++ [item] }

def deferAgain (item : CapsuleChatDeferredInboxItem) : DrainState :=
  { state with
    deferredByConsensus := state.deferredByConsensus + 1
    remainingDeferred := state.remainingDeferred ++ [item] }

end DrainState

/-- The loop body; every item leaves its event id behind. -/
def drainItem (state : DrainState) (item : ChatTransportItem) : DrainState :=
  let signable := verdict outside item
  if signable.isSignable then
    match messageOf dart outside item with
    | some message => (state.put message).terminal item.eventId
    | none => state.terminal item.eventId
  else
    match shouldDeferForConsensus signable, localRootHex outside with
    | true, some capsuleHex =>
      match item.deferredItem with
      | none => (state.deferNew (createDeferred outside capsuleHex item)).terminal item.eventId
      | some deferredItem =>
        (state.deferAgain (seenAgain outside deferredItem)).terminal item.eventId
    | _, _ => state.drop.terminal item.eventId

/-! ### The stores -/

def sameMessageSemantics (existing candidate : CapsuleChatInboxMessage) : Bool :=
  existing.id == candidate.id && existing.fromHex == candidate.fromHex &&
    existing.toHex == candidate.toHex && existing.messageText == candidate.messageText &&
    existing.createdAtUtc == candidate.createdAtUtc &&
    existing.envelopeHashHex == candidate.envelopeHashHex &&
    existing.timestampMs == candidate.timestampMs && existing.direction == candidate.direction

/-- Merge one message: an id that holds another message keeps it. -/
def mergeMessage (messagesById : List (String × CapsuleChatInboxMessage))
    (message : CapsuleChatInboxMessage) : List (String × CapsuleChatInboxMessage) :=
  if (accumulated messagesById message.id).all (sameMessageSemantics · message) then
    accumulate message message.id (fun _ => message) messagesById
  else messagesById

/-- The messages are merged one after the other. -/
def mergeMessagesInto (timeline : ChatTimeline) (messages : List CapsuleChatInboxMessage) :
    ChatTimeline where
  byId := replay mergeMessage timeline.byId messages
  distinct := by
    refine replay_invariant (P := fun m : List (String × CapsuleChatInboxMessage) =>
      (m.map Prod.fst).Nodup) timeline.distinct ?_
    intro m message _ hm
    unfold mergeMessage
    split_ifs
    · exact accumulate_nodup _ _ hm
    · exact hm

/-- The durable merge; it throws where the timeline cannot be read or written. -/
def mergeDurably (timeline : ChatTimeline) (capsuleHex : String)
    (messages : List CapsuleChatInboxMessage) : Option ChatTimeline :=
  if !isHex64 (trimmedLower capsuleHex) || messages.isEmpty then some timeline
  else if outside.timelineCommits then some (mergeMessagesInto timeline messages)
  else none

/-- The deferred items that are kept: not older than the limit, the latest seen first. -/
def pruned (items : List CapsuleChatDeferredInboxItem) : List CapsuleChatDeferredInboxItem :=
  (dart.sort (fun a b => decide (b.lastSeenAt ≤ a.lastSeenAt))
    (items.filter fun item =>
      decide (outside.now - capsuleChatDeferredInboxTtl ≤ item.firstSeenAt))).take
        capsuleChatDeferredInboxMaxItems

/-- What a drain answers, and what it leaves in the stores: the deferred inbox is what it writes
    there, if anything, and the acknowledged ids are those it hands back. -/
structure DrainOutcome where
  code : ℤ
  droppedByConsensus : ℕ
  deferredByConsensus : ℕ
  messages : List CapsuleChatInboxMessage
  timeline : ChatTimeline
  deferredInbox : Option (List CapsuleChatDeferredInboxItem)
  acknowledged : List String

/-- What the loop leaves. -/
def drainItems (stored : List CapsuleChatDeferredInboxItem) (decoded : List (DartValue Double)) :
    DrainState :=
  replay (drainItem dart outside) ⟨[], 0, 0, [], [], (malformedEventIds dart decoded).dedup⟩
    (incomingItems dart outside stored decoded)

/-- The messages of the drain, by their times. -/
def drainMessages (state : DrainState) : List CapsuleChatInboxMessage :=
  dart.sort (fun a b => decide (a.timestampMs ≤ b.timestampMs)) (state.byId.map Prod.snd)

/-- What is written to the deferred inbox: of equal ids the last item. -/
def writtenDeferred (state : DrainState) : Option (List CapsuleChatDeferredInboxItem) :=
  (localRootHex outside).map fun _ => pruned dart outside
    ((overwriteAll CapsuleChatDeferredInboxItem.id
      (state.remainingDeferred ++ state.nextDeferred)).map Prod.snd)

/-- A drain whose timeline could not be written. -/
def notPersisted (timeline : ChatTimeline) (state : DrainState) : DrainOutcome where
  code := -2005
  droppedByConsensus := state.droppedByConsensus
  deferredByConsensus := state.deferredByConsensus
  messages := drainMessages dart state
  timeline := timeline
  deferredInbox := none
  acknowledged := []

/-- A drain whose timeline is written. -/
def persisted (code : ℤ) (state : DrainState) (timeline : ChatTimeline) : DrainOutcome where
  code :=
    if !state.terminalEventIds.isEmpty && outside.acknowledgementCode != 0 then
      outside.acknowledgementCode
    else code
  droppedByConsensus := state.droppedByConsensus
  deferredByConsensus := state.deferredByConsensus
  messages := drainMessages dart state
  timeline := timeline
  deferredInbox := writtenDeferred dart outside state
  acknowledged := dart.sort (fun a b => decide (a ≤ b)) state.terminalEventIds

/-- What follows the loop: the merge, and with it the rest. -/
def settleDrain (code : ℤ) (timeline : ChatTimeline) (state : DrainState) : DrainOutcome :=
  (mergeDurably outside timeline (activeCapsuleHex outside) (drainMessages dart state)).elim
    (notPersisted dart timeline state) (persisted dart outside code state)

/-- A drain whose worker answered with a list and a code that is not negative. -/
def drainAndFilter (code : ℤ) (stored : List CapsuleChatDeferredInboxItem)
    (timeline : ChatTimeline) (decoded : List (DartValue Double)) : DrainOutcome :=
  settleDrain dart outside code timeline (drainItems dart outside stored decoded)

/-! ### What becomes of an item -/

/-- The message an item is stored as. -/
def admittedOf (item : ChatTransportItem) : Option CapsuleChatInboxMessage :=
  if (verdict outside item).isSignable then messageOf dart outside item else none

/-- The deferred item an item is kept as. -/
def deferredOf (item : ChatTransportItem) : Option CapsuleChatDeferredInboxItem :=
  if !(verdict outside item).isSignable && shouldDeferForConsensus (verdict outside item) then
    (localRootHex outside).map fun capsuleHex =>
      item.deferredItem.elim (createDeferred outside capsuleHex item) (seenAgain outside)
  else none

/-- The items the drain defers. -/
def deferrals (stored : List CapsuleChatDeferredInboxItem) (decoded : List (DartValue Double)) :
    List CapsuleChatDeferredInboxItem :=
  (incomingItems dart outside stored decoded).filterMap (deferredOf outside)

/-- The messages the drain admits. -/
def admissions (stored : List CapsuleChatDeferredInboxItem)
    (decoded : List (DartValue Double)) : List CapsuleChatInboxMessage :=
  (incomingItems dart outside stored decoded).filterMap (admittedOf dart outside)

variable {dart outside}

@[simp] theorem terminal_byId (state : DrainState) (eventId : String) :
    (state.terminal eventId).byId = state.byId := by
  unfold DrainState.terminal; split_ifs <;> rfl

@[simp] theorem terminal_deferredByConsensus (state : DrainState) (eventId : String) :
    (state.terminal eventId).deferredByConsensus = state.deferredByConsensus := by
  unfold DrainState.terminal; split_ifs <;> rfl

@[simp] theorem terminal_remainingDeferred (state : DrainState) (eventId : String) :
    (state.terminal eventId).remainingDeferred = state.remainingDeferred := by
  unfold DrainState.terminal; split_ifs <;> rfl

@[simp] theorem terminal_nextDeferred (state : DrainState) (eventId : String) :
    (state.terminal eventId).nextDeferred = state.nextDeferred := by
  unfold DrainState.terminal; split_ifs <;> rfl

theorem drainedItem_deferredItem {value : DartValue Double} {item : ChatTransportItem}
    (h : drainedItem dart value = some item) : item.deferredItem = none := by
  cases value with
  | obj members => rw [← Option.some.inj h]
  | _ => exact nomatch h

/-- What the loop body does with an item: it puts a message, or keeps a deferred item, or
    neither, and leaves the event id. -/
theorem drainItem_cases (state : DrainState) (item : ChatTransportItem) :
    ∃ handled, drainItem dart outside state item = handled.terminal item.eventId ∧
      ((∃ message, admittedOf dart outside item = some message ∧ deferredOf outside item = none ∧
          handled = state.put message) ∨
        (∃ deferred, admittedOf dart outside item = none ∧
          deferredOf outside item = some deferred ∧
          handled = if item.deferredItem.isSome then state.deferAgain deferred
            else state.deferNew deferred) ∨
        (admittedOf dart outside item = none ∧ deferredOf outside item = none ∧
          (handled = state ∨ handled = state.drop))) := by
  unfold drainItem admittedOf deferredOf
  cases hsignable : (verdict outside item).isSignable with
  | true =>
    cases hmessage : messageOf dart outside item with
    | some message => exact ⟨state.put message, by simp [hsignable], .inl ⟨message, by simp⟩⟩
    | none => exact ⟨state, by simp [hsignable], .inr (.inr (by simp))⟩
  | false =>
    cases hdefer : shouldDeferForConsensus (verdict outside item) with
    | false => exact ⟨state.drop, by simp [hsignable, hdefer], .inr (.inr (by simp))⟩
    | true =>
      cases hroot : localRootHex outside with
      | none => exact ⟨state.drop, by simp [hsignable, hdefer], .inr (.inr (by simp))⟩
      | some capsuleHex =>
        -- a new item is kept apart from one that was deferred before
        cases hitem : item.deferredItem with
        | none =>
          exact ⟨state.deferNew (createDeferred outside capsuleHex item),
            by simp [hsignable, hdefer], .inr (.inl ⟨createDeferred outside capsuleHex item, by simp⟩)⟩
        | some deferredItem =>
          exact ⟨state.deferAgain (seenAgain outside deferredItem),
            by simp [hsignable, hdefer], .inr (.inl ⟨seenAgain outside deferredItem, by simp⟩)⟩

theorem drainItem_byId (state : DrainState) (item : ChatTransportItem) :
    (drainItem dart outside state item).byId =
      replay (fun groups m => accumulate m m.id (fun _ => m) groups) state.byId
        (admittedOf dart outside item).toList := by
  obtain ⟨handled, heq, hcases⟩ := @drainItem_cases _ dart outside state item
  rw [heq, terminal_byId]
  rcases hcases with ⟨message, hadmitted, -, rfl⟩ | ⟨deferred, hadmitted, -, rfl⟩ |
    ⟨hadmitted, -, rfl | rfl⟩ <;> rw [hadmitted]
  · rfl
  · show _ = state.byId
    split_ifs <;> rfl
  · rfl
  · rfl

theorem drainItem_deferred (state : DrainState) (item : ChatTransportItem) :
    (drainItem dart outside state item).remainingDeferred = state.remainingDeferred ++
        (if item.deferredItem.isSome then deferredOf outside item else none).toList ∧
      (drainItem dart outside state item).nextDeferred = state.nextDeferred ++
        (if item.deferredItem.isSome then none else deferredOf outside item).toList ∧
      (drainItem dart outside state item).deferredByConsensus =
        state.deferredByConsensus + (deferredOf outside item).toList.length := by
  obtain ⟨handled, heq, hcases⟩ := @drainItem_cases _ dart outside state item
  rw [heq, terminal_remainingDeferred, terminal_nextDeferred, terminal_deferredByConsensus]
  rcases hcases with ⟨message, -, hdeferred, rfl⟩ | ⟨deferred, -, hdeferred, rfl⟩ |
    ⟨-, hdeferred, rfl | rfl⟩ <;> rw [hdeferred]
  · simp [DrainState.put]
  · split_ifs <;> simp [DrainState.deferAgain, DrainState.deferNew]
  · simp
  · simp [DrainState.drop]

/-- The messages of the loop: of equal ids the last one stays. -/
theorem replay_drainItem_byId (start : DrainState) (items : List ChatTransportItem) :
    (replay (drainItem dart outside) start items).byId =
      replay (fun groups m => accumulate m m.id (fun _ => m) groups) start.byId
        (items.filterMap (admittedOf dart outside)) := by
  induction items using List.reverseRecOn with
  | nil => rfl
  | append_singleton items item ih =>
    rw [replay_snoc, drainItem_byId, ih, List.filterMap_append, replay_append]
    cases hadmitted : admittedOf dart outside item <;> simp [hadmitted]

/-- The deferred items of the loop, those deferred before and the new ones, and their number. -/
theorem replay_drainItem_deferred (start : DrainState) (items : List ChatTransportItem) :
    (replay (drainItem dart outside) start items).remainingDeferred = start.remainingDeferred ++
        (items.filter fun item => item.deferredItem.isSome).filterMap (deferredOf outside) ∧
      (replay (drainItem dart outside) start items).nextDeferred = start.nextDeferred ++
        (items.filter fun item => item.deferredItem.isNone).filterMap (deferredOf outside) ∧
      (replay (drainItem dart outside) start items).deferredByConsensus =
        start.deferredByConsensus + (items.filterMap (deferredOf outside)).length := by
  induction items using List.reverseRecOn with
  | nil => simp [replay]
  | append_singleton items item ih =>
    obtain ⟨hremaining, hnext, hcount⟩ := ih
    obtain ⟨hremaining', hnext', hcount'⟩ := @drainItem_deferred _ dart outside
      (replay (drainItem dart outside) start items) item
    rw [replay_snoc, hremaining', hnext', hcount', hremaining, hnext, hcount, List.filter_append,
      List.filter_append, List.filterMap_append, List.filterMap_append, List.filterMap_append]
    cases hitem : item.deferredItem <;> cases hdeferred : deferredOf outside item <;>
      simp [hitem, hdeferred, Nat.add_assoc]

section Run

variable (stored : List CapsuleChatDeferredInboxItem) (decoded : List (DartValue Double))

theorem drainItems_byId : (drainItems dart outside stored decoded).byId =
    overwriteAll CapsuleChatInboxMessage.id (admissions dart outside stored decoded) :=
  replay_drainItem_byId ..

/-- The deferred items of a drain stand in the order of the items. -/
theorem drainItems_deferred :
    (drainItems dart outside stored decoded).remainingDeferred ++
        (drainItems dart outside stored decoded).nextDeferred =
      deferrals dart outside stored decoded ∧
    (drainItems dart outside stored decoded).deferredByConsensus =
      (deferrals dart outside stored decoded).length := by
  obtain ⟨hremaining, hnext, hcount⟩ := @replay_drainItem_deferred _ dart outside
    ⟨[], 0, 0, [], [], (malformedEventIds dart decoded).dedup⟩
    (incomingItems dart outside stored decoded)
  have hold : ∀ item ∈ (loadDeferred stored ((localRootHex outside).getD "")).map ofDeferred,
      item.deferredItem.isSome = true := by
    intro item hitem
    obtain ⟨d, -, rfl⟩ := List.mem_map.mp hitem
    rfl
  have hnew : ∀ item ∈ (decoded.filterMap (drainedItem dart)).filter ChatTransportItem.wellFormed,
      item.deferredItem = none := by
    intro item hitem
    obtain ⟨value, -, hvalue⟩ := List.mem_filterMap.mp (List.mem_filter.mp hitem).1
    exact drainedItem_deferredItem hvalue
  refine ⟨?_, by rw [drainItems, hcount, deferrals, Nat.zero_add]⟩
  rw [drainItems, hremaining, hnext, deferrals]
  unfold incomingItems
  generalize (loadDeferred stored ((localRootHex outside).getD "")).map ofDeferred = before at *
  generalize (decoded.filterMap (drainedItem dart)).filter ChatTransportItem.wellFormed = batch at *
  have hbefore : before.filter (fun item => item.deferredItem.isSome) = before :=
    List.filter_eq_self.mpr hold
  have hnone : before.filter (fun item => item.deferredItem.isNone) = [] := by
    rw [List.filter_eq_nil_iff]
    intro item hitem
    rw [← Option.not_isSome, hold item hitem]
    exact Bool.false_ne_true
  have hno : batch.filter (fun item => item.deferredItem.isSome) = [] := by
    rw [List.filter_eq_nil_iff]
    intro item hitem
    rw [hnew item hitem]
    exact Bool.false_ne_true
  have hbatch : batch.filter (fun item => item.deferredItem.isNone) = batch :=
    List.filter_eq_self.mpr fun item hitem => by rw [hnew item hitem]; rfl
  rw [List.filter_append, List.filter_append, hbefore, hnone, hno, hbatch, List.append_nil,
    List.nil_append, List.nil_append, List.nil_append, List.filterMap_append]

theorem mem_drainMessages {message : CapsuleChatInboxMessage} :
    message ∈ drainMessages dart (drainItems dart outside stored decoded) ↔
      (message.id, message) ∈
        overwriteAll CapsuleChatInboxMessage.id (admissions dart outside stored decoded) := by
  rw [drainMessages, (dart.sort_perm _ _).mem_iff, drainItems_byId, List.mem_map]
  constructor
  · rintro ⟨⟨id, message⟩, hmem, rfl⟩
    obtain ⟨rfl, -⟩ := mem_overwriteAll.mp hmem
    exact hmem
  · exact fun h => ⟨_, h, rfl⟩

/-- With a known root and no more items than are kept, the last item of each id is written unless
    it is too old. -/
theorem writtenDeferred_spec (hroot : outside.localRoot ≠ none)
    (hfew : (deferrals dart outside stored decoded).length ≤ capsuleChatDeferredInboxMaxItems) :
    ∃ inbox, writtenDeferred dart outside (drainItems dart outside stored decoded) = some inbox ∧
      ∀ id last, (id, last) ∈ overwriteAll CapsuleChatDeferredInboxItem.id
          (deferrals dart outside stored decoded) →
        outside.now - capsuleChatDeferredInboxTtl ≤ last.firstSeenAt → last ∈ inbox := by
  obtain ⟨root, hroot⟩ := Option.ne_none_iff_exists'.mp hroot
  refine ⟨_, by rw [writtenDeferred, localRootHex, hroot, Option.map_some, Option.map_some], ?_⟩
  intro id last hlast hfresh
  rw [(drainItems_deferred stored decoded).1]
  have hmem := List.mem_map_of_mem (f := Prod.snd) hlast
  have hlength := length_overwriteAll CapsuleChatDeferredInboxItem.id
    (deferrals dart outside stored decoded)
  generalize overwriteAll CapsuleChatDeferredInboxItem.id
    (deferrals dart outside stored decoded) = groups at *
  -- few enough to take them all
  rw [pruned, List.take_of_length_le, (dart.sort_perm _ _).mem_iff, List.mem_filter]
  · exact ⟨hmem, decide_eq_true hfresh⟩
  · rw [(dart.sort_perm _ _).length_eq]
    have hfilter := List.length_filter_le (fun item : CapsuleChatDeferredInboxItem =>
      decide (outside.now - capsuleChatDeferredInboxTtl ≤ item.firstSeenAt)) (groups.map Prod.snd)
    rw [List.length_map] at hfilter
    omega

end Run

/-! ### The merge -/

/-- The sender and the text of two messages agree. -/
def SameText (a b : CapsuleChatInboxMessage) : Prop :=
  a.fromHex = b.fromHex ∧ a.messageText = b.messageText

theorem SameText.refl (a : CapsuleChatInboxMessage) : SameText a a := ⟨rfl, rfl⟩

theorem SameText.trans {a b c : CapsuleChatInboxMessage} (hab : SameText a b)
    (hbc : SameText b c) : SameText a c :=
  ⟨hab.1.trans hbc.1, hab.2.trans hbc.2⟩

theorem sameText_of_semantics {a b : CapsuleChatInboxMessage}
    (h : sameMessageSemantics a b = true) : SameText b a := by
  simp only [sameMessageSemantics, Bool.and_eq_true, beq_iff_eq] at h
  obtain ⟨⟨⟨⟨⟨⟨⟨-, hfrom⟩, -⟩, htext⟩, -⟩, -⟩, -⟩, -⟩ := h
  exact ⟨hfrom.symm, htext.symm⟩

theorem accumulated_mergeMessage (byId : List (String × CapsuleChatInboxMessage))
    (message : CapsuleChatInboxMessage) (id : String) :
    accumulated (mergeMessage byId message) id =
      if message.id = id ∧
          (accumulated byId message.id).all (sameMessageSemantics · message) = true then
        some message
      else accumulated byId id := by
  unfold mergeMessage
  by_cases hsame : (accumulated byId message.id).all (sameMessageSemantics · message) = true
  · rw [if_pos hsame, accumulated_accumulate]
    simp [hsame]
  · rw [if_neg hsame, if_neg (fun h => hsame h.2)]

/-- A merged message has a message under its id. -/
theorem mergeMessage_holds (byId : List (String × CapsuleChatInboxMessage))
    (message : CapsuleChatInboxMessage) :
    accumulated (mergeMessage byId message) message.id ≠ none := by
  rw [accumulated_mergeMessage]
  split_ifs with h
  · exact Option.some_ne_none message
  · intro hnone
    exact h ⟨rfl, by rw [hnone]; rfl⟩

/-- A stored message keeps its sender and text. -/
theorem mergeMessage_keeps {byId : List (String × CapsuleChatInboxMessage)}
    (message : CapsuleChatInboxMessage) {id : String} {old : CapsuleChatInboxMessage}
    (h : accumulated byId id = some old) :
    ∃ kept, accumulated (mergeMessage byId message) id = some kept ∧ SameText kept old := by
  rw [accumulated_mergeMessage]
  split_ifs with hwritten
  · obtain ⟨rfl, hsame⟩ := hwritten
    rw [h, Option.all_some] at hsame
    exact ⟨message, rfl, sameText_of_semantics hsame⟩
  · exact ⟨old, h, SameText.refl old⟩

/-- **What a merge leaves under an id**: what it held, with sender and text as they were; and
    else one of the merged messages of this id. -/
theorem merged_spec (timeline : ChatTimeline) (messages : List CapsuleChatInboxMessage)
    (id : String) :
    (∀ old, accumulated timeline.byId id = some old →
      ∃ kept, accumulated (mergeMessagesInto timeline messages).byId id = some kept ∧
        SameText kept old) ∧
    (∀ kept, accumulated (mergeMessagesInto timeline messages).byId id = some kept →
      accumulated timeline.byId id = some kept ∨ (kept ∈ messages ∧ kept.id = id)) ∧
    (id ∈ messages.map CapsuleChatInboxMessage.id →
      accumulated (mergeMessagesInto timeline messages).byId id ≠ none) := by
  show (∀ old, accumulated timeline.byId id = some old →
      ∃ kept, accumulated (replay mergeMessage timeline.byId messages) id = some kept ∧
        SameText kept old) ∧
    (∀ kept, accumulated (replay mergeMessage timeline.byId messages) id = some kept →
      accumulated timeline.byId id = some kept ∨ (kept ∈ messages ∧ kept.id = id)) ∧
    (id ∈ messages.map CapsuleChatInboxMessage.id →
      accumulated (replay mergeMessage timeline.byId messages) id ≠ none)
  induction messages using List.reverseRecOn with
  | nil =>
    exact ⟨fun old h => ⟨old, h, SameText.refl old⟩, fun kept h => .inl h, fun h => nomatch h⟩
  | append_singleton messages message ih =>
    obtain ⟨hkept, hfrom, hheld⟩ := ih
    rw [replay_snoc]
    generalize replay mergeMessage timeline.byId messages = byId at *
    refine ⟨fun old hold => ?_, fun kept h => ?_, fun h => ?_⟩
    · obtain ⟨between, hbetween, hsame⟩ := hkept old hold
      obtain ⟨kept, hfinal, hsame'⟩ := mergeMessage_keeps message hbetween
      exact ⟨kept, hfinal, hsame'.trans hsame⟩
    · rw [accumulated_mergeMessage] at h
      split_ifs at h with hwritten
      · rw [← Option.some.inj h]
        exact .inr ⟨List.mem_append_right _ (List.mem_singleton.mpr rfl), hwritten.1⟩
      · exact (hfrom kept h).imp (fun h => h) fun ⟨hmem, hid⟩ => ⟨List.mem_append_left _ hmem, hid⟩
    · rw [List.map_append, List.mem_append] at h
      rcases h with hmem | hlast
      · obtain ⟨between, hbetween⟩ := Option.ne_none_iff_exists'.mp (hheld hmem)
        obtain ⟨kept, hfinal, -⟩ := mergeMessage_keeps message hbetween
        rw [hfinal]
        exact Option.some_ne_none kept
      · rw [List.mem_singleton.mp hlast]
        exact mergeMessage_holds byId message

end Drain

end ChatDelivery

end Hivra
