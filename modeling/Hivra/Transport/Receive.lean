import Hivra.Transport.ReceiveBatch

namespace Hivra

open Replay

namespace Nostr

/-!
# Fetching a batch

One receive opens a cursor for every configured relay, asks each relay for the events of its
window, and collects what is not seen yet under its event id.  The answers of the relays, the
clock and the decoder are the outside of the function.

* `receiveBatch_fetched` — the batch holds the unseen events that some relay returned, and the
  candidate of a relay comes from its answer.
-/

/-- A wire event; `wire` is what only the decoder reads. -/
structure RelayEvent where
  id : String
  createdAt : ℕ
  wire : List UInt8
  deriving DecidableEq

/-- The window and the size of one request. -/
structure RelayFilter where
  since : ℕ
  until_ : ℕ
  limit : ℕ
  deriving DecidableEq

structure RelayFetch where
  relayUrl : String
  events : List RelayEvent

/-- What the adapter meets outside: whether a relay is connected in time, the configured
    relays, the clock, the answer of a relay to a request, and the decoder. -/
structure ReceiveOutside where
  connected : Bool
  relayUrls : List String
  queryNow : ℕ
  clock : String → ℕ
  relays : String → RelayFilter → Option (List RelayEvent)
  decodeEvent : RelayEvent → Except String DeliveryEnvelope

def preferredReadRelays : List String := ["wss://relay.damus.io", "wss://relay.primal.net"]

/-- The preferred relays come first; the sort is stable. -/
def prioritizeReadRelayUrls (relayUrls : List String) : List String :=
  relayUrls.insertionSort fun a b =>
    preferredReadRelays.findIdx (· == a) ≤ preferredReadRelays.findIdx (· == b)

/-- The request to a relay. -/
def relayFilter (outside : ReceiveOutside) (transport : NostrTransport) (relay : String) :
    RelayFilter where
  since := transport.receiveSinceForRelay relay (outside.clock relay)
  until_ := saturatingAdd outside.queryNow receiveFutureSkewSecs
  limit := receiveLimit

/-- What a relay returned, if the read succeeded. -/
def answerOf (outside : ReceiveOutside) (transport : NostrTransport) (relay : String) :
    Option (List RelayEvent) :=
  outside.relays relay (relayFilter outside transport relay)

/-- A relay without a cursor gets one. -/
def openCursor (outside : ReceiveOutside) (transport : NostrTransport) (relay : String) :
    NostrTransport :=
  transport.withReceiveCursor relay (transport.receiveSinceForRelay relay (outside.clock relay))

/-- The reads that succeeded. -/
def fetchEventsFromRelays (outside : ReceiveOutside) (transport : NostrTransport)
    (relayUrls : List String) : List RelayFetch :=
  relayUrls.filterMap fun relay => (answerOf outside transport relay).map (RelayFetch.mk relay)

/-- The cursor a relay may move to: none if it returned nothing. -/
def candidateCursor (current queryNow : ℕ) (events : List RelayEvent) : Option ℕ :=
  (events.map RelayEvent.createdAt).max?.map (nextReceiveCursor current queryNow)

/-- What has been collected: each event once with the relays that returned it, and the cursor
    of each relay with the ids it contributed. -/
structure Collected where
  eventsById : List (String × RelayEvent × List String)
  relayCursors : List (String × PendingRelayCursor)
  distinct : (eventsById.map Prod.fst).Nodup
  relays : (relayCursors.map Prod.fst).Nodup
  observed : ∀ entry ∈ relayCursors, ∀ id ∈ entry.2.eventIds, id ∈ eventsById.map Prod.fst

/-- One more relay returned the event. -/
def collectEvent (relay : String) (eventsById : List (String × RelayEvent × List String))
    (event : RelayEvent) : List (String × RelayEvent × List String) :=
  accumulate (event, []) event.id (fun entry => (entry.1, entry.2.insert relay)) eventsById

/-- Put a value under a key, in place of the one that is there. -/
def hashInsert {α : Type} (key : String) (value : α) (map : List (String × α)) :
    List (String × α) :=
  accumulate value key (fun _ => value) map

/-- The events of a fetch that are not seen yet. -/
def unresolvedEvents (seen : List String) (events : List RelayEvent) : List RelayEvent :=
  events.filter fun event => decide (event.id ∉ seen)

theorem mem_keys_collectEvents {relay : String} {events : List RelayEvent}
    {eventsById : List (String × RelayEvent × List String)} {id : String} :
    id ∈ (replay (collectEvent relay) eventsById events).map Prod.fst ↔
      id ∈ events.map RelayEvent.id ∨ id ∈ eventsById.map Prod.fst := by
  induction events using List.reverseRecOn with
  | nil => simp
  | append_singleton events event ih =>
    rw [replay_snoc, collectEvent, mem_keys_accumulate, ih, List.map_append, List.mem_append]
    simp only [List.map_singleton, List.mem_singleton]
    tauto

/-- The loop body over one fetch. -/
def collectFetch (outside : ReceiveOutside) (transport : NostrTransport) (collected : Collected)
    (fetch : RelayFetch) : Collected :=
  let unresolved := unresolvedEvents transport.seenForPubkey fetch.events
  let current := transport.receiveSinceForRelay fetch.relayUrl (outside.clock fetch.relayUrl)
  { eventsById := replay (collectEvent fetch.relayUrl) collected.eventsById unresolved
    relayCursors :=
      match candidateCursor current outside.queryNow fetch.events with
      | none => collected.relayCursors
      | some candidate =>
        hashInsert fetch.relayUrl ⟨candidate, (unresolved.map RelayEvent.id).dedup⟩
          collected.relayCursors
    distinct := by
      refine replay_invariant (P := fun m : List (String × RelayEvent × List String) =>
        (m.map Prod.fst).Nodup) collected.distinct ?_
      exact fun _ _ _ h => accumulate_nodup _ _ h
    relays := by
      split
      · exact collected.relays
      · exact accumulate_nodup _ _ collected.relays
    observed := by
      intro entry hentry id hid
      refine mem_keys_collectEvents.mpr ?_
      split at hentry
      · exact .inr (collected.observed entry hentry id hid)
      · rcases mem_accumulate hentry with hold | ⟨-, hnew⟩
        · exact .inr (collected.observed entry hold id hid)
        · rw [hnew] at hid
          exact .inl (List.mem_dedup.mp hid) }

def Collected.nothing : Collected where
  eventsById := []
  relayCursors := []
  distinct := List.nodup_nil
  relays := List.nodup_nil
  observed := fun _ h => nomatch h

/-- The item of a collected event; the texts of its relays are sorted. -/
def deliveryItem (outside : ReceiveOutside) (entry : String × RelayEvent × List String) :
    InboundDeliveryItem where
  eventId := entry.1
  observedBy := entry.2.2.insertionSort (· ≤ ·)
  payload :=
    match outside.decodeEvent entry.2.1 with
    | .ok message => .envelope message
    | .error reason => .adapterRejected reason

/-- The items in the order of their event ids. -/
def deliveryItems (outside : ReceiveOutside) (collected : Collected) : List InboundDeliveryItem :=
  (collected.eventsById.insertionSort fun a b => a.1 ≤ b.1).map (deliveryItem outside)

theorem deliveryItems_eventIds (outside : ReceiveOutside) (collected : Collected) :
    ((deliveryItems outside collected).map InboundDeliveryItem.eventId).Perm
      (collected.eventsById.map Prod.fst) := by
  rw [deliveryItems, List.map_map]
  exact (List.perm_insertionSort _ _).map Prod.fst

/-- The batch of what was collected. -/
def Collected.pending (outside : ReceiveOutside) (batchId : ℕ) (collected : Collected) :
    PendingReceiveBatch where
  batch := ⟨batchId, deliveryItems outside collected⟩
  relayCursors := collected.relayCursors
  distinct := (deliveryItems_eventIds outside collected).nodup_iff.mpr collected.distinct
  relays := collected.relays
  observed := fun entry hentry id hid =>
    (deliveryItems_eventIds outside collected).symm.subset
      (collected.observed entry hentry id hid)

/-- Put a new batch on hand. -/
def NostrTransport.present (outside : ReceiveOutside) (transport : NostrTransport)
    (collected : Collected) : Except TransportError InboundDeliveryBatch × NostrTransport :=
  let pending := collected.pending outside transport.nextReceiveBatchId
  (.ok pending.batch,
    { transport with
      pendingReceiveBatch := some pending
      nextReceiveBatchId := saturatingAdd transport.nextReceiveBatchId 1 })

/-- What the answers of the relays collect to. -/
def collectAll (outside : ReceiveOutside) (transport : NostrTransport)
    (fetches : List RelayFetch) : Collected :=
  replay (collectFetch outside transport) Collected.nothing fetches

/-- Receive a batch.  One that is on hand is presented again, and without a relay the batch is
    empty. -/
def receiveBatchWithTimeout (outside : ReceiveOutside) (transport : NostrTransport) :
    Except TransportError InboundDeliveryBatch × NostrTransport :=
  match transport.pendingReceiveBatch with
  | some pending => (.ok pending.batch, transport)
  | none =>
    if outside.connected then
      if outside.relayUrls.isEmpty then (.error .receiveFailed, transport)
      else
        let relayUrls := prioritizeReadRelayUrls outside.relayUrls
        let fetches := fetchEventsFromRelays outside transport relayUrls
        let opened := replay (openCursor outside) transport relayUrls
        if fetches.isEmpty then (.error .receiveFailed, opened)
        else opened.present outside (collectAll outside opened fetches)
    else transport.present outside Collected.nothing

/-! ### What a fetch collects -/

variable {relayUrls : List String}

theorem mem_prioritizeReadRelayUrls {relay : String} :
    relay ∈ prioritizeReadRelayUrls relayUrls ↔ relay ∈ relayUrls :=
  (List.perm_insertionSort _ _).mem_iff

/-- Opening cursors leaves everything but the cursors alone, and every relay has the cursor it
    was asked with. -/
theorem openCursors_spec (outside : ReceiveOutside) (transport : NostrTransport)
    (relayUrls : List String) :
    let opened := replay (openCursor outside) transport relayUrls
    opened.publicKey = transport.publicKey ∧ opened.seenEventIds = transport.seenEventIds ∧
      (∀ relay, opened.receiveSinceForRelay relay (outside.clock relay) =
        transport.receiveSinceForRelay relay (outside.clock relay)) ∧
      ∀ relay, relay ∈ relayUrls → opened.receiveSinceByRelay relay =
        some (transport.receiveSinceForRelay relay (outside.clock relay)) := by
  induction relayUrls using List.reverseRecOn with
  | nil => exact ⟨rfl, rfl, fun _ => rfl, fun _ h => nomatch h⟩
  | append_singleton front relay ih =>
    obtain ⟨hkey, hseen, hsince, hopen⟩ := ih
    rw [replay_snoc]
    refine ⟨hkey, hseen, fun url => ?_, fun url hurl => ?_⟩
    · rw [← hsince url, openCursor, NostrTransport.receiveSinceForRelay,
        NostrTransport.withReceiveCursor_cursor]
      split_ifs with heq
      · rw [heq]
        rfl
      · rfl
    · rw [openCursor, NostrTransport.withReceiveCursor_cursor]
      split_ifs with heq
      · rw [hsince, heq]
      · refine hopen url ?_
        rcases List.mem_append.mp hurl with hfront | hlast
        · exact hfront
        · exact absurd (List.mem_singleton.mp hlast) heq

theorem mem_fetchEventsFromRelays {outside : ReceiveOutside} {transport : NostrTransport}
    {fetch : RelayFetch} :
    fetch ∈ fetchEventsFromRelays outside transport relayUrls ↔
      fetch.relayUrl ∈ relayUrls ∧
        answerOf outside transport fetch.relayUrl = some fetch.events := by
  rw [fetchEventsFromRelays, List.mem_filterMap]
  constructor
  · rintro ⟨relay, hrelay, hfetch⟩
    obtain ⟨events, hevents, rfl⟩ := Option.map_eq_some_iff.mp hfetch
    exact ⟨hrelay, hevents⟩
  · rintro ⟨hrelay, hanswer⟩
    exact ⟨fetch.relayUrl, hrelay, by rw [hanswer]; rfl⟩

/-- Collected are the unseen events of the fetches. -/
theorem collectAll_ids (outside : ReceiveOutside) (transport : NostrTransport)
    (fetches : List RelayFetch) (id : String) :
    id ∈ (collectAll outside transport fetches).eventsById.map Prod.fst ↔
      id ∉ transport.seenForPubkey ∧ ∃ fetch ∈ fetches, id ∈ fetch.events.map RelayEvent.id := by
  unfold collectAll
  induction fetches using List.reverseRecOn with
  | nil => simp [Collected.nothing]
  | append_singleton fetches fetch ih =>
    rw [replay_snoc]
    show id ∈ (replay (collectEvent _) _ _).map Prod.fst ↔ _
    rw [mem_keys_collectEvents, ih]
    have hnew : id ∈ (unresolvedEvents transport.seenForPubkey fetch.events).map RelayEvent.id ↔
        id ∉ transport.seenForPubkey ∧ id ∈ fetch.events.map RelayEvent.id := by
      simp only [unresolvedEvents, List.mem_map, List.mem_filter, decide_eq_true_eq]
      constructor
      · rintro ⟨event, ⟨hevent, hunseen⟩, rfl⟩
        exact ⟨hunseen, event, hevent, rfl⟩
      · rintro ⟨hunseen, event, hevent, rfl⟩
        exact ⟨event, ⟨hevent, hunseen⟩, rfl⟩
    rw [hnew]
    simp only [List.mem_append, List.mem_singleton, or_and_right, exists_or, exists_eq_left]
    rw [← and_or_left, or_comm]

/-- The cursor on hand for a relay is the candidate of one of its fetches, and there is one if
    a fetch has a candidate. -/
theorem collectAll_cursor (outside : ReceiveOutside) (transport : NostrTransport)
    (fetches : List RelayFetch) (relay : String) :
    let candidates := fun fetch : RelayFetch => candidateCursor
      (transport.receiveSinceForRelay relay (outside.clock relay)) outside.queryNow fetch.events
    match accumulated (collectAll outside transport fetches).relayCursors relay with
    | some cursor =>
      ∃ fetch ∈ fetches, fetch.relayUrl = relay ∧ candidates fetch = some cursor.candidate
    | none => ∀ fetch ∈ fetches, fetch.relayUrl = relay → candidates fetch = none := by
  intro candidates
  unfold collectAll
  induction fetches using List.reverseRecOn with
  | nil => exact fun _ h => nomatch h
  | append_singleton fetches fetch ih =>
    rw [replay_snoc]
    -- the loop body: an insert under the relay of the fetch, if it has a candidate
    have hbody : accumulated (collectFetch outside transport
          (replay (collectFetch outside transport) Collected.nothing fetches) fetch).relayCursors
          relay =
        if fetch.relayUrl = relay ∧ (candidates fetch).isSome then
          (candidates fetch).map fun candidate => ⟨candidate,
            ((unresolvedEvents transport.seenForPubkey fetch.events).map RelayEvent.id).dedup⟩
        else accumulated
          (replay (collectFetch outside transport) Collected.nothing fetches).relayCursors
          relay := by
      by_cases hurl : fetch.relayUrl = relay
      · subst hurl
        show accumulated (match candidates fetch with | none => _ | some candidate => _) _ = _
        cases hcandidate : candidates fetch with
        | none => simp
        | some candidate => simp [hashInsert, accumulated_accumulate]
      · rw [if_neg (fun h => hurl h.1)]
        show accumulated (match candidateCursor _ _ _ with | none => _ | some candidate => _) _ = _
        split
        · rfl
        · rw [hashInsert, accumulated_accumulate, if_neg hurl]
    rw [hbody]
    split_ifs with hnew
    · obtain ⟨hurl, hsome⟩ := hnew
      obtain ⟨candidate, hcandidate⟩ := Option.isSome_iff_exists.mp hsome
      rw [hcandidate]
      exact ⟨fetch, List.mem_append_right _ (List.mem_singleton.mpr rfl), hurl, hcandidate⟩
    · split
      · rename_i cursor hcursor
        rw [hcursor] at ih
        obtain ⟨old, hold, h⟩ := ih
        exact ⟨old, List.mem_append_left _ hold, h⟩
      · rename_i hcursor
        rw [hcursor] at ih
        intro other hother hurl
        rcases List.mem_append.mp hother with hold | hlast
        · exact ih other hold hurl
        · rw [List.mem_singleton.mp hlast] at hurl ⊢
          exact Option.not_isSome_iff_eq_none.mp fun hsome => hnew ⟨hurl, hsome⟩

/-- The outcome of a receive that fetched. -/
structure Fetched (outside : ReceiveOutside) (transport : NostrTransport)
    (batch : InboundDeliveryBatch) (after : NostrTransport) (pending : PendingReceiveBatch) :
    Prop where
  on_hand : after.pendingReceiveBatch = some pending
  presented : pending.batch = batch
  items : ∀ id, id ∈ batch.eventIds ↔ id ∉ transport.seenForPubkey ∧
    ∃ relay ∈ outside.relayUrls, ∃ events, answerOf outside transport relay = some events ∧
      id ∈ events.map RelayEvent.id
  opened : ∀ relay ∈ outside.relayUrls, after.receiveSinceByRelay relay =
    some (transport.receiveSinceForRelay relay (outside.clock relay))
  candidates : ∀ relay ∈ outside.relayUrls,
    (accumulated pending.relayCursors relay).map PendingRelayCursor.candidate =
      (answerOf outside transport relay).bind fun events => candidateCursor
        (transport.receiveSinceForRelay relay (outside.clock relay)) outside.queryNow events

/-- **A receive with no batch on hand** fetches from every relay. -/
theorem receiveBatch_fetched {outside : ReceiveOutside} {transport : NostrTransport}
    {batch : InboundDeliveryBatch} (hidle : transport.pendingReceiveBatch = none)
    (hconnected : outside.connected = true)
    (h : (receiveBatchWithTimeout outside transport).1 = .ok batch) :
    ∃ pending, Fetched outside transport batch (receiveBatchWithTimeout outside transport).2
      pending := by
  unfold receiveBatchWithTimeout at h ⊢
  rw [hidle] at h ⊢
  simp only [hconnected, if_true] at h ⊢
  split_ifs at h ⊢ with hrelays hfetches
  obtain ⟨hkey, hseen, hsince, hopen⟩ :=
    openCursors_spec outside transport (prioritizeReadRelayUrls outside.relayUrls)
  generalize hopened : replay (openCursor outside) transport
    (prioritizeReadRelayUrls outside.relayUrls) = opened at h hkey hseen hsince hopen ⊢
  have hids : opened.seenForPubkey = transport.seenForPubkey := by
    rw [NostrTransport.seenForPubkey, hkey, hseen]
    rfl
  generalize hcollected : collectAll outside opened _ = collected at h ⊢
  refine ⟨collected.pending outside opened.nextReceiveBatchId, rfl, Except.ok.inj h, ?_, ?_, ?_⟩
  · intro id
    rw [← Except.ok.inj h]
    show id ∈ (deliveryItems outside collected).map InboundDeliveryItem.eventId ↔ _
    rw [(deliveryItems_eventIds outside collected).mem_iff, ← hcollected, collectAll_ids, hids]
    refine and_congr_right fun _ => ⟨?_, ?_⟩
    · rintro ⟨fetch, hfetch, hid⟩
      obtain ⟨hrelay, hanswer⟩ := mem_fetchEventsFromRelays.mp hfetch
      exact ⟨fetch.relayUrl, mem_prioritizeReadRelayUrls.mp hrelay, fetch.events, hanswer, hid⟩
    · rintro ⟨relay, hrelay, events, hanswer, hid⟩
      exact ⟨⟨relay, events⟩, mem_fetchEventsFromRelays.mpr
        ⟨mem_prioritizeReadRelayUrls.mpr hrelay, hanswer⟩, hid⟩
  · exact fun relay hrelay => hopen relay (mem_prioritizeReadRelayUrls.mpr hrelay)
  · intro relay hrelay
    show (accumulated collected.relayCursors relay).map PendingRelayCursor.candidate = _
    rw [← hcollected]
    have hcursor := collectAll_cursor outside opened (fetchEventsFromRelays outside transport
      (prioritizeReadRelayUrls outside.relayUrls)) relay
    rw [hsince] at hcursor
    split at hcursor
    · rename_i cursor hfound
      -- the relay has one answer, whichever of its fetches this is
      obtain ⟨fetch, hfetch, hurl, hcandidate⟩ := hcursor
      obtain ⟨-, hanswer⟩ := mem_fetchEventsFromRelays.mp hfetch
      rw [hurl] at hanswer
      rw [hfound, hanswer]
      exact hcandidate.symm
    · rename_i hfound
      rw [hfound, Option.map_none]
      cases hanswer : answerOf outside transport relay with
      | none => rfl
      | some events =>
        exact (hcursor ⟨relay, events⟩ (mem_fetchEventsFromRelays.mpr
          ⟨mem_prioritizeReadRelayUrls.mpr hrelay, hanswer⟩) rfl).symm

end Nostr

end Hivra
