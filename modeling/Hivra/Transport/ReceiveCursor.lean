import Hivra.Transport.Receive

namespace Hivra

open Replay

namespace Nostr

/-!
# What a cursor leaves behind

A relay is a set of events, and a request returns some of the newest in its window, at most as
many as the limit.  When all items of the batch got a terminal answer, the cursor of each relay
is one second before the newest event it returned, or before the query if that is earlier.
-/

/-- Whether an event is in the window of a request. -/
def RelayFilter.Window (filter : RelayFilter) (event : RelayEvent) : Prop :=
  filter.since ≤ event.createdAt ∧ event.createdAt ≤ filter.until_

instance (filter : RelayFilter) (event : RelayEvent) : Decidable (filter.Window event) :=
  inferInstanceAs (Decidable (_ ∧ _))

/-- The answer of a relay that holds `content`: some of the newest events in the window. -/
structure Newest (content : List RelayEvent) (filter : RelayFilter)
    (events : List RelayEvent) : Prop where
  held : ∀ event ∈ events, event ∈ content ∧ filter.Window event
  newest : ∀ event ∈ content, filter.Window event → event ∉ events →
    ∀ returned ∈ events, event.createdAt ≤ returned.createdAt
  limit : events.length ≤ filter.limit

/-- Every relay answers its request from its content. -/
def AnswersFrom (content : String → List RelayEvent) (outside : ReceiveOutside)
    (transport : NostrTransport) : Prop :=
  ∀ relay events, answerOf outside transport relay = some events →
    Newest (content relay) (relayFilter outside transport relay) events

/-- The event was seen before the fetch, or got a terminal answer. -/
def ResolvedBy (transport : NostrTransport) (resolutions : List InboundDeliveryResolution)
    (event : RelayEvent) : Prop :=
  event.id ∈ transport.seenForPubkey ∨ ∃ resolution ∈ resolutions,
    resolution.eventId = event.id ∧ isTerminal resolution.disposition = true

/-- No event of the window is lost: it is resolved, or the cursor has not passed it. -/
def UnfetchedKept (outside : ReceiveOutside) (transport after : NostrTransport)
    (resolutions : List InboundDeliveryResolution) (content : String → List RelayEvent) : Prop :=
  ∀ relay ∈ outside.relayUrls, ∀ event ∈ content relay,
    (relayFilter outside transport relay).Window event →
    ResolvedBy transport resolutions event ∨
      ∀ cursor, after.receiveSinceByRelay relay = some cursor → cursor ≤ event.createdAt

/-- An event that no relay returned and that was not seen before. -/
def LeftOut (outside : ReceiveOutside) (transport : NostrTransport) (event : RelayEvent) : Prop :=
  event.id ∉ transport.seenForPubkey ∧ ∀ relay ∈ outside.relayUrls, ∀ events,
    answerOf outside transport relay = some events → event.id ∉ events.map RelayEvent.id

/-- No answer left out an event more than a second older than what it returned, or than the
    query where that is earlier. -/
def OnlyNewestLeftOut (outside : ReceiveOutside) (transport : NostrTransport)
    (content : String → List RelayEvent) : Prop :=
  ∀ relay ∈ outside.relayUrls, ∀ events, answerOf outside transport relay = some events →
    ∀ event ∈ content relay, (relayFilter outside transport relay).Window event →
      LeftOut outside transport event →
      ∀ returned ∈ events, min returned.createdAt outside.queryNow ≤ event.createdAt + 1

/-! ### Where the cursor stands -/

variable {events : List RelayEvent}

theorem le_of_candidateCursor {current queryNow candidate : ℕ}
    (h : candidateCursor current queryNow events = some candidate) : current ≤ candidate := by
  obtain ⟨newest, -, rfl⟩ := Option.map_eq_some_iff.mp h
  exact le_max_left ..

/-- The candidate passes an event that is newer than the old cursor exactly when something more
    than a second newer was returned. -/
theorem candidateCursor_le_iff {current queryNow candidate t : ℕ}
    (h : candidateCursor current queryNow events = some candidate) (ht : current ≤ t) :
    candidate ≤ t ↔ ∀ returned ∈ events, min returned.createdAt queryNow ≤ t + 1 := by
  obtain ⟨newest, hnewest, rfl⟩ := Option.map_eq_some_iff.mp h
  obtain ⟨hmem, hmax⟩ := List.max?_eq_some_iff.mp hnewest
  rw [nextReceiveCursor, Nat.max_le]
  constructor
  · rintro ⟨-, hle⟩ returned hreturned
    have hreturnedLe := hmax _ (List.mem_map_of_mem (f := RelayEvent.createdAt) hreturned)
    omega
  · intro hall
    obtain ⟨event, hevent, rfl⟩ := List.mem_map.mp hmem
    have hle := hall event hevent
    exact ⟨ht, by omega⟩

section Resolved

variable {order : HashOrder} {now batchId : ℕ} {outside : ReceiveOutside}
  {transport after : NostrTransport} {batch : InboundDeliveryBatch}
  {pending : PendingReceiveBatch} {resolutions : List InboundDeliveryResolution}

/-- **The new cursor.**  After a full terminal resolution each relay is at its candidate. -/
theorem resolved_cursor (hfetched : Fetched outside transport batch after pending)
    (haccepted : (resolveReceiveBatch order now after batchId resolutions).1 = .ok ())
    (hterminal : ∀ resolution ∈ resolutions, isTerminal resolution.disposition = true)
    {relay : String} (hrelay : relay ∈ outside.relayUrls) :
    (resolveReceiveBatch order now after batchId resolutions).2.receiveSinceByRelay relay =
      some (((answerOf outside transport relay).bind fun events => candidateCursor
        (transport.receiveSinceForRelay relay (outside.clock relay)) outside.queryNow
          events).getD (transport.receiveSinceForRelay relay (outside.clock relay))) := by
  obtain ⟨found, hfound, hexact, hresolve⟩ := resolveReceiveBatch_ok haccepted
  have heq : pending = found := Option.some.inj (hfetched.on_hand.symm.trans hfound)
  subst heq
  rw [hresolve, resolveRound_cursor, ← hfetched.candidates relay hrelay]
  have hopened := hfetched.opened relay hrelay
  cases hcursor : accumulated pending.relayCursors relay with
  | none =>
    dsimp only
    rw [hopened, Option.map_none, Option.getD_none]
  | some cursor =>
    -- everything the relay waits for is an item, and every item is terminal
    have hmem : (relay, cursor) ∈ pending.relayCursors := mem_of_accumulated hcursor
    have hcomplete : cursor.complete
        (terminalIds (resolutions.map InboundDeliveryResolution.answer)) = true := by
      refine List.all_eq_true.mpr fun id hid => decide_eq_true (mem_terminalIds.mpr ?_)
      have hanswered := hexact.items.symm.subset (pending.observed _ hmem id hid)
      obtain ⟨resolution, hresolution, rfl⟩ := List.mem_map.mp hanswered
      exact ⟨resolution, hresolution, rfl, hterminal resolution hresolution⟩
    have hcandidate := hfetched.candidates relay hrelay
    rw [hcursor, Option.map_some] at hcandidate
    obtain ⟨events, -, hevents⟩ := Option.bind_eq_some_iff.mp hcandidate.symm
    have hle := le_of_candidateCursor hevents
    show (if cursor.complete _ = true then _ else _) = some cursor.candidate
    rw [if_pos hcomplete, NostrTransport.receiveSinceForRelay, hopened, Option.getD_some,
      max_eq_right hle]

/-- A full terminal resolution resolves exactly what some relay returned. -/
theorem resolvedBy_iff (hfetched : Fetched outside transport batch after pending)
    (haccepted : (resolveReceiveBatch order now after batchId resolutions).1 = .ok ())
    (hterminal : ∀ resolution ∈ resolutions, isTerminal resolution.disposition = true)
    (event : RelayEvent) :
    ¬ ResolvedBy transport resolutions event ↔ LeftOut outside transport event := by
  obtain ⟨found, hfound, hexact, -⟩ := resolveReceiveBatch_ok haccepted
  have heq : pending = found := Option.some.inj (hfetched.on_hand.symm.trans hfound)
  subst heq
  have hitem : (∃ resolution ∈ resolutions,
        resolution.eventId = event.id ∧ isTerminal resolution.disposition = true) ↔
      event.id ∈ batch.eventIds := by
    rw [← hfetched.presented, ← hexact.items.mem_iff]
    constructor
    · rintro ⟨resolution, hresolution, hid, -⟩
      exact List.mem_map.mpr ⟨resolution, hresolution, hid⟩
    · intro hmem
      obtain ⟨resolution, hresolution, hid⟩ := List.mem_map.mp hmem
      exact ⟨resolution, hresolution, hid, hterminal resolution hresolution⟩
  rw [ResolvedBy, hitem, hfetched.items, LeftOut]
  constructor
  · intro h
    obtain ⟨hunseen, hnone⟩ := not_or.mp h
    refine ⟨hunseen, fun relay hrelay events hanswer hid => hnone ?_⟩
    exact ⟨hunseen, relay, hrelay, events, hanswer, hid⟩
  · rintro ⟨hunseen, hnone⟩ hresolved
    rcases hresolved with hseen | hreturned
    · exact hunseen hseen
    · obtain ⟨-, relay, hrelay, events, hanswer, hid⟩ := hreturned
      exact hnone relay hrelay events hanswer hid

/-- The step from a fetch to its resolution. -/
theorem Fetched.kept_iff (hfetched : Fetched outside transport batch after pending)
    (haccepted : (resolveReceiveBatch order now after batchId resolutions).1 = .ok ())
    (hterminal : ∀ resolution ∈ resolutions, isTerminal resolution.disposition = true)
    (content : String → List RelayEvent) :
    UnfetchedKept outside transport (resolveReceiveBatch order now after batchId resolutions).2
        resolutions content ↔
      OnlyNewestLeftOut outside transport content := by
  have hresolved := resolvedBy_iff hfetched haccepted hterminal
  constructor
  · intro hkept relay hrelay events hanswer event hevent hwindow hleft
    rcases hkept relay hrelay event hevent hwindow with hres | hcursor
    · exact absurd hres ((hresolved event).mpr hleft)
    · have hnew := resolved_cursor hfetched haccepted hterminal hrelay
      rw [hanswer, Option.bind_some] at hnew
      cases hcandidate : candidateCursor
          (transport.receiveSinceForRelay relay (outside.clock relay)) outside.queryNow events with
      | none =>
        -- the relay returned nothing
        intro returned hreturned
        have hnil := List.max?_eq_none_iff.mp (Option.map_eq_none_iff.mp hcandidate)
        rw [List.map_eq_nil_iff.mp hnil] at hreturned
        cases hreturned
      | some candidate =>
        rw [hcandidate, Option.getD_some] at hnew
        exact (candidateCursor_le_iff hcandidate hwindow.1).mp (hcursor _ hnew)
  · intro honly relay hrelay event hevent hwindow
    have hsince : transport.receiveSinceForRelay relay (outside.clock relay) ≤ event.createdAt :=
      hwindow.1
    by_cases hres : ResolvedBy transport resolutions event
    · exact .inl hres
    · refine .inr fun cursor hcursor => ?_
      rw [resolved_cursor hfetched haccepted hterminal hrelay] at hcursor
      rw [← Option.some.inj hcursor]
      cases hanswer : answerOf outside transport relay with
      | none =>
        rw [Option.bind_none, Option.getD_none]
        exact hsince
      | some events =>
        rw [Option.bind_some]
        cases hcandidate : candidateCursor
            (transport.receiveSinceForRelay relay (outside.clock relay)) outside.queryNow
            events with
        | none =>
          rw [Option.getD_none]
          exact hsince
        | some candidate =>
          refine (candidateCursor_le_iff hcandidate hsince).mpr ?_
          exact honly relay hrelay events hanswer event hevent hwindow
            ((hresolved event).mp hres)

end Resolved

/-- **What the cursor leaves behind.**  After a fetch and a full terminal resolution of its
    batch, every event of a window is resolved or still ahead of the cursor exactly when no
    answer left out an event that is more than a second older than something it returned. -/
theorem unfetchedKept_iff (order : HashOrder) (now batchId : ℕ) (outside : ReceiveOutside)
    (transport : NostrTransport) (batch : InboundDeliveryBatch)
    (resolutions : List InboundDeliveryResolution) (content : String → List RelayEvent)
    (hidle : transport.pendingReceiveBatch = none) (hconnected : outside.connected = true)
    (hreceive : (receiveBatchWithTimeout outside transport).1 = .ok batch)
    (haccepted : (resolveReceiveBatch order now (receiveBatchWithTimeout outside transport).2
      batchId resolutions).1 = .ok ())
    (hterminal : ∀ resolution ∈ resolutions, isTerminal resolution.disposition = true) :
    UnfetchedKept outside transport
        (resolveReceiveBatch order now (receiveBatchWithTimeout outside transport).2 batchId
          resolutions).2 resolutions content ↔
      OnlyNewestLeftOut outside transport content := by
  obtain ⟨pending, hfetched⟩ := receiveBatch_fetched hidle hconnected hreceive
  exact hfetched.kept_iff haccepted hterminal content

/-! ### A window with more events than the limit -/

/-- The terminal answer an item may get. -/
def terminalAnswer (item : InboundDeliveryItem) : InboundDeliveryResolution where
  eventId := item.eventId
  disposition :=
    match item.payload with
    | .envelope _ => .consumed
    | .adapterRejected _ => .adapterRejected

def settleAll (batch : InboundDeliveryBatch) : List InboundDeliveryResolution :=
  batch.items.map terminalAnswer

theorem settleAll_terminal (batch : InboundDeliveryBatch) :
    ∀ resolution ∈ settleAll batch, isTerminal resolution.disposition = true := by
  intro resolution hresolution
  obtain ⟨item, -, rfl⟩ := List.mem_map.mp hresolution
  rw [terminalAnswer]
  cases item.payload <;> rfl

/-- Every batch has a full terminal resolution. -/
theorem settleAll_accepted (order : HashOrder) (now : ℕ) {after : NostrTransport}
    {pending : PendingReceiveBatch} (h : after.pendingReceiveBatch = some pending) :
    (resolveReceiveBatch order now after pending.batch.batchId (settleAll pending.batch)).1 =
      .ok () := by
  have hexact : Exact pending pending.batch.batchId (settleAll pending.batch) := by
    refine ⟨rfl, ?_, ?_⟩
    · rw [resolvedIds, settleAll, List.map_map]
      exact List.Perm.refl _
    · intro item hitem resolution hresolution hid
      obtain ⟨other, hother, rfl⟩ := List.mem_map.mp hresolution
      have heq : other = item := List.inj_on_of_nodup_map pending.distinct hother hitem hid
      rw [heq, terminalAnswer]
      cases item.payload <;> rfl
  rcases resolveReceiveBatch_cases order now after pending.batch.batchId
      (settleAll pending.batch) with ⟨_, -, -, hresolve⟩ | ⟨hrefused, -⟩
  · rw [hresolve]
  · exact absurd hexact (hrefused pending h)

/-- A receive with an answer presents a batch. -/
theorem receiveBatch_ok {outside : ReceiveOutside} {transport : NostrTransport}
    (hidle : transport.pendingReceiveBatch = none) (hconnected : outside.connected = true)
    {relay : String} (hrelay : relay ∈ outside.relayUrls) {events : List RelayEvent}
    (hanswer : answerOf outside transport relay = some events) :
    ∃ batch, (receiveBatchWithTimeout outside transport).1 = .ok batch := by
  unfold receiveBatchWithTimeout
  rw [hidle]
  simp only [hconnected, if_true]
  have hfetch : (⟨relay, events⟩ : RelayFetch) ∈ fetchEventsFromRelays outside transport
      (prioritizeReadRelayUrls outside.relayUrls) :=
    mem_fetchEventsFromRelays.mpr ⟨mem_prioritizeReadRelayUrls.mpr hrelay, hanswer⟩
  split_ifs with hnone hempty
  · rw [List.isEmpty_iff.mp hnone] at hrelay
    cases hrelay
  · rw [List.isEmpty_iff.mp hempty] at hfetch
    cases hfetch
  · exact ⟨_, rfl⟩

/-- The 64 digits of an event id. -/
def eventIdOf (n : ℕ) : String := String.ofList ('0' :: (Nat.toDigits 16 n).leftpad 63 '0')

/-- As many events of one second as a request returns. -/
def crowd : List RelayEvent :=
  (List.range receiveLimit).map fun n => ⟨eventIdOf n, 1700000000, []⟩

/-- An event of a day before. -/
def forgotten : RelayEvent := ⟨String.ofList (List.replicate 64 'f'), 1699913600, []⟩

def crowdedRelay : String := "wss://relay.damus.io"

def crowdedOutside : ReceiveOutside where
  connected := true
  relayUrls := [crowdedRelay]
  queryNow := 1700000000
  clock _ := 1700000000
  relays _ _ := some crowd
  decodeEvent _ := .error "InvalidMessage"

/-- A transport that has read the relay a week ago. -/
def idleTransport : NostrTransport where
  publicKey := ⟨ByteString.fill 32 1⟩
  receiveSinceByRelay _ := some 1699395200
  nextReceiveBatchId := 1
  pendingReceiveBatch := none
  seenEventIds _ := []

theorem forgotten_not_mem : forgotten.id ∉ crowd.map RelayEvent.id := by
  intro hmem
  obtain ⟨event, hevent, hid⟩ := List.mem_map.mp hmem
  obtain ⟨n, -, rfl⟩ := List.mem_map.mp hevent
  -- the first digits differ
  have hdigits := String.ofList_injective hid
  exact absurd (List.cons.inj hdigits).1 (by decide)

/-- The window reaches a week back and five minutes ahead. -/
theorem crowded_filter (relay : String) :
    relayFilter crowdedOutside idleTransport relay = ⟨1699395200, 1700000300, 2048⟩ := by
  have huntil : saturatingAdd 1700000000 receiveFutureSkewSecs = 1700000300 := by decide
  rw [relayFilter, NostrTransport.receiveSinceForRelay, idleTransport, Option.getD_some]
  exact congrArg (fun t => (⟨1699395200, t, 2048⟩ : RelayFilter)) huntil

theorem crowded_answers :
    AnswersFrom (fun _ => crowd ++ [forgotten]) crowdedOutside idleTransport := by
  intro relay events hanswer
  have hevents : crowd = events := Option.some.inj hanswer
  subst hevents
  have htime : ∀ event ∈ crowd, event.createdAt = 1700000000 := by
    intro event hevent
    obtain ⟨n, -, rfl⟩ := List.mem_map.mp hevent
    rfl
  refine ⟨fun event hevent => ⟨List.mem_append_left _ hevent, ?_⟩, ?_, ?_⟩
  · rw [RelayFilter.Window, htime event hevent, crowded_filter]
    decide
  · intro event hevent _ hnot returned hreturned
    rcases List.mem_append.mp hevent with hcrowd | hlast
    · exact absurd hcrowd hnot
    · rw [List.mem_singleton.mp hlast, htime returned hreturned]
      decide
  · show crowd.length ≤ receiveLimit
    rw [crowd, List.length_map, List.length_range]

/-- What the receive of the crowded relay presents, and its full terminal resolution. -/
theorem crowded_settled (order : HashOrder) (now : ℕ) :
    ∃ batch pending, (receiveBatchWithTimeout crowdedOutside idleTransport).1 = .ok batch ∧
      Fetched crowdedOutside idleTransport batch
        (receiveBatchWithTimeout crowdedOutside idleTransport).2 pending ∧
      (resolveReceiveBatch order now (receiveBatchWithTimeout crowdedOutside idleTransport).2
        batch.batchId (settleAll batch)).1 = .ok () := by
  obtain ⟨batch, hbatch⟩ := @receiveBatch_ok crowdedOutside idleTransport rfl rfl crowdedRelay
    (List.mem_singleton.mpr rfl) crowd rfl
  obtain ⟨pending, hfetched⟩ := @receiveBatch_fetched crowdedOutside idleTransport batch rfl rfl
    hbatch
  refine ⟨batch, pending, hbatch, hfetched, ?_⟩
  rw [← hfetched.presented]
  exact settleAll_accepted order now hfetched.on_hand

theorem crowded_leaves_old_out :
    ¬ OnlyNewestLeftOut crowdedOutside idleTransport (fun _ => crowd ++ [forgotten]) := by
  intro h
  have hzero : (⟨eventIdOf 0, 1700000000, []⟩ : RelayEvent) ∈ crowd :=
    List.mem_map.mpr ⟨0, List.mem_range.mpr (by decide), rfl⟩
  have hold := h crowdedRelay (List.mem_singleton.mpr rfl) crowd rfl forgotten
    (List.mem_append_right _ (List.mem_singleton.mpr rfl)) ?_ ?_ _ hzero
  · exact absurd hold (by decide)
  · rw [crowded_filter]
    decide
  · refine ⟨List.not_mem_nil, fun relay _ events hanswer => ?_⟩
    rw [← Option.some.inj hanswer]
    exact forgotten_not_mem

/-- A window of more events than the limit: the day-old event is passed by the cursor. -/
theorem truncatedPassed :
    AnswersFrom (fun _ => crowd ++ [forgotten]) crowdedOutside idleTransport ∧
      ∃ batch, (receiveBatchWithTimeout crowdedOutside idleTransport).1 = .ok batch ∧
        (resolveReceiveBatch .inserted 1700000000
          (receiveBatchWithTimeout crowdedOutside idleTransport).2 batch.batchId
          (settleAll batch)).1 = .ok () ∧
        (∀ resolution ∈ settleAll batch, isTerminal resolution.disposition = true) ∧
        ¬ UnfetchedKept crowdedOutside idleTransport
          (resolveReceiveBatch .inserted 1700000000
            (receiveBatchWithTimeout crowdedOutside idleTransport).2 batch.batchId
            (settleAll batch)).2 (settleAll batch) (fun _ => crowd ++ [forgotten]) := by
  obtain ⟨batch, pending, hbatch, hfetched, haccepted⟩ := crowded_settled .inserted 1700000000
  refine ⟨crowded_answers, batch, hbatch, haccepted, settleAll_terminal batch, fun hkept => ?_⟩
  exact crowded_leaves_old_out
    ((hfetched.kept_iff haccepted (settleAll_terminal batch) _).mp hkept)

/-- The rule at the crowded relay. -/
theorem unfetchedKept_iff_crowded :
    ∃ batch, (receiveBatchWithTimeout crowdedOutside idleTransport).1 = .ok batch ∧
      (UnfetchedKept crowdedOutside idleTransport
          (resolveReceiveBatch .inserted 1700000000
            (receiveBatchWithTimeout crowdedOutside idleTransport).2 batch.batchId
            (settleAll batch)).2 (settleAll batch) (fun _ => crowd ++ [forgotten]) ↔
        OnlyNewestLeftOut crowdedOutside idleTransport (fun _ => crowd ++ [forgotten])) := by
  obtain ⟨batch, pending, hbatch, hfetched, haccepted⟩ := crowded_settled .inserted 1700000000
  refine ⟨batch, hbatch, ?_⟩
  exact unfetchedKept_iff .inserted 1700000000 batch.batchId crowdedOutside idleTransport batch
    (settleAll batch) _ rfl rfl hbatch haccepted (settleAll_terminal batch)

end Nostr

end Hivra
