import Mathlib.Data.Prod.Lex
import Hivra.Ffi.InboundQuarantine
import Hivra.Ffi.SenderBinding
import Hivra.Transport.Receive

namespace Hivra

open InboundQuarantine Nostr Replay

/-!
# A receive call

A receive call gives one record of the quarantine another try, fetches a batch, takes each envelope
of it through the policy of its sender and the route, and answers the transport.

* `receiveRun_accepted`, `receiveRun_keeps` — answers and items over every run of calls.
-/

/-- The repository and the runtime within a call. -/
structure Receiving where
  repository : CapsuleInboundQuarantineRepository
  counters : IngressCounters
  state : RuntimeState

/-- What is met outside while an envelope is taken through: in front of the route (at the expiry or
    the policy), at the route, and behind it. -/
structure Passage (Seed : Type) where
  front : InboundQuarantine.Outside
  route : IngressOutside Seed
  back : InboundQuarantine.Outside

/-- A call, with the scope of its quarantine and what it meets outside; `opened` is the envelope of
    the record that is tried again. -/
structure ReceiveCall (Seed : Type) where
  seed : Seed
  localPubkey : PubKey
  scope : InboundQuarantineScopeV1
  now : UInt64
  opened : Except QuarantineError DeliveryEnvelope
  recovery : Passage Seed
  fetch : ReceiveOutside
  item : String → Passage Seed
  order : HashOrder
  clock : ℕ

/-- What stays between the calls: the file of the quarantine, the runtime, and the transport. -/
structure ReceiveHost where
  file : Option InboundQuarantineSnapshotV1
  state : RuntimeState
  transport : NostrTransport

/-- The outcome of a call, with the items that it took from the transport and the answers that it
    gave. -/
structure Received where
  code : ℤ
  taken : List InboundDeliveryItem
  resolutions : List InboundDeliveryResolution
  host : ReceiveHost

def openRepository (scope : InboundQuarantineScopeV1) (file : Option InboundQuarantineSnapshotV1) :
    Except QuarantineError CapsuleInboundQuarantineRepository :=
  let snapshot := file.getD ⟨schemaVersion, scope, [], [], []⟩
  (validateSnapshot snapshot scope).map fun _ => ⟨scope, snapshot, file⟩

def hasTerminalEvidence (repository : CapsuleInboundQuarantineRepository)
    (adapterEventId : String) : Bool :=
  repository.snapshot.tombstones.any fun item => item.adapterEventId == adapterEventId

/-- The record that is tried next. -/
def eligibleRecord (now : UInt64) (snapshot : InboundQuarantineSnapshotV1) :
    Option InboundQuarantineRecordV1 :=
  (snapshot.records.filter fun record =>
      decide (record.eligibleAfter ≤ now) && decide (now < record.expiresAt)).argmin
    fun record => toLex (record.eligibleAfter.toNat,
      toLex (record.quarantinedAt.toNat, record.adapterEventId))

/-- The event that is tried next and its envelope, which must be what the record says. -/
def nextEligible (opened : Except QuarantineError DeliveryEnvelope) (now : UInt64)
    (repository : CapsuleInboundQuarantineRepository) :
    Except QuarantineError (Option (String × DeliveryEnvelope)) :=
  match eligibleRecord now repository.snapshot with
  | none => .ok none
  | some record => do
    let envelope ← opened
    require (authenticatedSenderOf envelope = record.authenticatedSender ∧
      hexText envelope.toPubkey.bytes.toList = repository.scope.transportEndpoint ∧
      envelope.kind = record.messageKind) .corrupt
    return some (record.adapterEventId, envelope)

section Calls

variable {Seed : Type} (platform : Platform Seed) (call : ReceiveCall Seed)

/-- Route one eligible envelope again. -/
def recoverOneQuarantinedEnvelope (r : Receiving) : Except QuarantineError Unit × Receiving :=
  match expireDue call.recovery.front r.repository call.now with
  | (.error error, repository) => (.error error, { r with repository := repository })
  | (.ok _, repository) =>
    match nextEligible call.opened call.now repository with
    | .error error => (.error error, { r with repository := repository })
    | .ok none => (.ok (), { r with repository := repository })
    | .ok (some (id, envelope)) =>
      let routed := routeInboundEnvelope platform call.seed call.localPubkey call.recovery.route
        envelope r.counters r.state
      let (result, repository) := match routed.disposition with
        | .consumed => markConsumed call.recovery.back repository id call.now
        | .retry => markRetry call.recovery.back repository id call.now
        | _ => (.error .invalidRecord, repository)
      (result, ⟨repository, routed.counters, routed.state⟩)

/-- What becomes of one item. -/
def receiveItem (item : InboundDeliveryItem) (r : Receiving) :
    InboundDeliveryDisposition × Receiving :=
  match item.payload with
  | .adapterRejected _ => (.adapterRejected, r)
  | .envelope message =>
    if hasTerminalEvidence r.repository item.eventId then (.consumed, r)
    else
      match applySenderPolicy (call.item item.eventId).front r.repository item.eventId
          item.observedBy message call.now with
      | (.ok .quarantined, repository) => (.quarantined, { r with repository := repository })
      | (.ok _, repository) =>
        let routed := routeInboundEnvelope platform call.seed call.localPubkey
          (call.item item.eventId).route message r.counters r.state
        if routed.disposition = .retry then
          match quarantine (call.item item.eventId).back repository item.eventId
              item.observedBy message "canonical_route_retry" call.now with
          | (.ok (), repository) => (.quarantined, ⟨repository, routed.counters, routed.state⟩)
          | (.error _, repository) => (.retry, ⟨repository, routed.counters, routed.state⟩)
        else (routed.disposition, ⟨repository, routed.counters, routed.state⟩)
      | (.error _, repository) => (.retry, { r with repository := repository })

/-- The loop over the items, with their answers. -/
def receiveItems : List InboundDeliveryItem → Receiving →
    List InboundDeliveryResolution × Receiving
  | [], r => ([], r)
  | item :: rest, r =>
    let (disposition, r) := receiveItem platform call item r
    let (resolutions, r) := receiveItems rest r
    (⟨item.eventId, disposition⟩ :: resolutions, r)

/-- Take a batch through and answer the transport. -/
def answerBatch (batch : InboundDeliveryBatch) (r : Receiving) (transport : NostrTransport) :
    Received :=
  let (resolutions, r) := receiveItems platform call batch.items r
  match resolveReceiveBatch call.order call.clock transport batch.batchId resolutions with
  | (.error _, transport) => ⟨-6, batch.items, resolutions, ⟨r.repository.stored, r.state, transport⟩⟩
  | (.ok (), transport) =>
    ⟨r.counters.appended, batch.items, resolutions, ⟨r.repository.stored, r.state, transport⟩⟩

/-- The part of a call in front of the fetch; it may end the call. -/
def beginReceive (host : ReceiveHost) : Except Received Receiving :=
  if host.state.capsule = none then .error ⟨-3, [], [], host⟩
  else
    match openRepository call.scope host.file with
    | .error _ => .error ⟨-7, [], [], host⟩
    | .ok repository =>
      match recoverOneQuarantinedEnvelope platform call ⟨repository, noCounters, host.state⟩ with
      | (.error _, r) => .error ⟨-7, [], [], ⟨r.repository.stored, r.state, host.transport⟩⟩
      | (.ok (), r) => .ok r

def hivraTransportReceive (host : ReceiveHost) : Received :=
  match beginReceive platform call host with
  | .error received => received
  | .ok r =>
    match receiveBatchWithTimeout call.fetch host.transport with
    | (.error _, transport) => ⟨-5, [], [], ⟨r.repository.stored, r.state, transport⟩⟩
    | (.ok batch, transport) => answerBatch platform call batch r transport

end Calls

section Spec

variable {Seed : Type} {platform : Platform Seed}

/-- The route consumes an envelope or asks for another try. -/
theorem route_disposition {seed : Seed} {localPubkey : PubKey} {outside : IngressOutside Seed}
    {message : DeliveryEnvelope} {counters : IngressCounters} {state : RuntimeState}
    {outcome : IngressOutcome}
    (houtcome : routeInboundEnvelope platform seed localPubkey outside message counters state =
      outcome) (h : outcome.disposition ≠ .retry) : outcome.disposition = .consumed := by
  subst houtcome
  rcases routeInboundEnvelope_gates platform seed localPubkey outside message counters state with
    ⟨-, -, hconsumed⟩ | ⟨kind, event, counters', -, hroute⟩
  · by_cases hknown : state.capsule ≠ none ∧ envelopeEventKind message.kind ≠ none
    · exact hconsumed hknown.1 hknown.2
    · revert h
      unfold routeInboundEnvelope
      repeat' split
      all_goals simp_all
  · rw [hroute] at h ⊢
    revert h
    unfold routeSkipped routeAppended
    repeat' split
    all_goals simp

variable {call : ReceiveCall Seed}

/-- An item gets an answer of its kind. -/
theorem receiveItem_allowed (item : InboundDeliveryItem) (r : Receiving) :
    allowed item.payload (receiveItem platform call item r).1 = true := by
  unfold receiveItem
  cases hpayload : item.payload with
  | adapterRejected reason => rfl
  | envelope message =>
    dsimp only
    split
    next => rfl
    next =>
      split
      next => rfl
      next =>
        split
        -- what the route cannot take yet goes to the quarantine, or stays with the transport
        next => split <;> rfl
        next hretry =>
          rw [route_disposition rfl hretry]
          rfl
      next => rfl

/-- **Loop.**  Every item of a batch gets one answer, of its kind. -/
theorem receiveItems_spec (items : List InboundDeliveryItem) (r : Receiving)
    (hdistinct : (items.map InboundDeliveryItem.eventId).Nodup) :
    resolvedIds (receiveItems platform call items r).1 = items.map InboundDeliveryItem.eventId ∧
      ∀ item ∈ items, ∀ resolution ∈ (receiveItems platform call items r).1,
        resolution.eventId = item.eventId →
        allowed item.payload resolution.disposition = true := by
  induction items generalizing r with
  | nil => exact ⟨rfl, fun _ hitem => (nomatch hitem)⟩
  | cons first rest ih =>
    obtain ⟨hnot, hdistinct⟩ := List.nodup_cons.mp hdistinct
    obtain ⟨hids, hanswers⟩ := ih (receiveItem platform call first r).2 hdistinct
    refine ⟨congrArg (first.eventId :: ·) hids, ?_⟩
    intro item hitem resolution hresolution hid
    rcases List.mem_cons.mp hitem with rfl | hitem
    · rcases List.mem_cons.mp hresolution with rfl | hresolution
      · exact receiveItem_allowed item r
      · exact absurd (hids ▸ hid ▸ List.mem_map_of_mem hresolution) hnot
    · rcases List.mem_cons.mp hresolution with rfl | hresolution
      · -- the first answer is for another item
        have hmem : item.eventId ∈ rest.map InboundDeliveryItem.eventId :=
          List.mem_map_of_mem hitem
        rw [← hid] at hmem
        exact absurd hmem hnot
      · exact hanswers item hitem resolution hresolution hid

/-- A fetch fails with nothing on hand, or puts its batch on hand with what was there. -/
theorem receiveBatch_on_hand {outside : ReceiveOutside} {transport after : NostrTransport}
    {result : Except TransportError InboundDeliveryBatch}
    (h : receiveBatchWithTimeout outside transport = (result, after)) :
    (∃ error, result = .error error) ∧ transport.pendingItems = [] ∨
      ∃ pending, after.pendingReceiveBatch = some pending ∧ result = .ok pending.batch ∧
        transport.pendingItems ⊆ pending.batch.items := by
  unfold NostrTransport.pendingItems
  unfold receiveBatchWithTimeout at h
  cases hpending : transport.pendingReceiveBatch with
  | some pending =>
    rw [hpending] at h
    obtain ⟨rfl, rfl⟩ := Prod.mk.inj h
    exact .inr ⟨pending, hpending, rfl, List.Subset.refl _⟩
  | none =>
    rw [hpending] at h
    dsimp only [NostrTransport.present] at h
    split_ifs at h
    all_goals obtain ⟨rfl, rfl⟩ := Prod.mk.inj h
    · exact .inl ⟨⟨_, rfl⟩, rfl⟩
    · exact .inl ⟨⟨_, rfl⟩, rfl⟩
    · exact .inr ⟨_, rfl, rfl, List.nil_subset _⟩
    · exact .inr ⟨_, rfl, rfl, List.nil_subset _⟩

/-- A call gave an item its last answer. -/
def Received.Settles (received : Received) (item : InboundDeliveryItem) : Prop :=
  ∃ resolution ∈ received.resolutions, resolution.eventId = item.eventId ∧
    allowed item.payload resolution.disposition = true ∧
    isTerminal resolution.disposition = true

/-- **One call.**  The transport takes the answers of the call, and what was on hand or is taken
    is on hand or settled. -/
theorem receive_keeps (call : ReceiveCall Seed) (host : ReceiveHost) :
    (hivraTransportReceive platform call host).code ≠ -6 ∧
      ∀ item, item ∈ host.transport.pendingItems ∨
          item ∈ (hivraTransportReceive platform call host).taken →
        item ∈ (hivraTransportReceive platform call host).host.transport.pendingItems ∨
          (hivraTransportReceive platform call host).Settles item := by
  cases hbegin : beginReceive platform call host with
  | error received =>
    rw [hivraTransportReceive, hbegin]
    unfold beginReceive at hbegin
    repeat' split at hbegin
    all_goals cases hbegin
    all_goals exact ⟨by simp, fun _ h => .inl (h.resolve_right List.not_mem_nil)⟩
  | ok r =>
    rw [hivraTransportReceive, hbegin]
    cases hfetch : receiveBatchWithTimeout call.fetch host.transport with
    | mk result transport =>
    rcases receiveBatch_on_hand hfetch with ⟨⟨error, rfl⟩, hnone⟩ | ⟨pending, hpending, rfl, hall⟩
    · rw [hnone]
      exact ⟨by simp, fun _ h => (nomatch h)⟩
    obtain ⟨hids, hallowed⟩ := @receiveItems_spec Seed platform call
      pending.batch.items r pending.distinct
    -- the answers are for the items on hand, each once, and of their kinds
    have hexact : Exact pending pending.batch.batchId (receiveItems platform call _ r).1 :=
      ⟨rfl, hids ▸ .refl _, hallowed⟩
    rcases resolveReceiveBatch_cases call.order call.clock transport pending.batch.batchId
      (receiveItems platform call pending.batch.items r).1 with
      ⟨pending', hpending', -, hresolve⟩ | ⟨hno, -⟩
    · obtain rfl := Option.some.inj (hpending.symm.trans hpending')
      dsimp only [answerBatch]
      rw [hresolve]
      refine ⟨by dsimp only; omega, fun item h => ?_⟩
      have hitem : item ∈ pending.batch.items := h.elim (fun h => hall h) id
      obtain ⟨resolution, hresolution, hid⟩ :=
        List.mem_map.mp (hids ▸ List.mem_map_of_mem hitem : item.eventId ∈ resolvedIds _)
      by_cases hretry : resolution.disposition = .retry
      · refine .inl ?_
        show item ∈ (transport.resolveRound ..).pendingItems
        rw [resolveRound_pendingItems, List.mem_filter, decide_eq_true_eq, mem_retryIds]
        exact ⟨hitem, by rw [← hid, ← hretry]; exact hresolution⟩
      · refine .inr ⟨resolution, hresolution, hid, hallowed item hitem _ hresolution hid, ?_⟩
        cases hdisposition : resolution.disposition <;> simp_all [isTerminal]
    · exact absurd hexact (hno pending hpending)

variable (platform)

/-- Calls one after another; in between the runtime goes its own way. -/
def receiveRun : List (RuntimeState × ReceiveCall Seed) → ReceiveHost → ReceiveHost
  | [], host => host
  | (state, call) :: rest, host =>
    receiveRun rest (hivraTransportReceive platform call { host with state := state }).host

/-- Some call of a run meets a condition. -/
def SomeCall (P : ReceiveCall Seed → ReceiveHost → Prop) :
    List (RuntimeState × ReceiveCall Seed) → ReceiveHost → Prop
  | [], _ => False
  | (state, call) :: rest, host => P call { host with state := state } ∨
    SomeCall P rest (hivraTransportReceive platform call { host with state := state }).host

/-- **No call of a run fails in the answers** that it gives to the transport. -/
theorem receiveRun_accepted (calls : List (RuntimeState × ReceiveCall Seed)) (host : ReceiveHost) :
    ¬ SomeCall platform (fun call before => (hivraTransportReceive platform call before).code = -6)
      calls host := by
  induction calls generalizing host with
  | nil => exact id
  | cons first rest ih => exact not_or.mpr ⟨(receive_keeps first.2 _).1, ih _⟩

/-- **No item is lost.**  What is on hand, or is taken by a call of a run, is on hand at the end
    or a call of the run has settled it. -/
theorem receiveRun_keeps (calls : List (RuntimeState × ReceiveCall Seed)) (host : ReceiveHost)
    (item : InboundDeliveryItem)
    (h : item ∈ host.transport.pendingItems ∨ SomeCall platform (fun call before =>
      item ∈ (hivraTransportReceive platform call before).taken) calls host) :
    item ∈ (receiveRun platform calls host).transport.pendingItems ∨
      SomeCall platform (fun call before =>
        (hivraTransportReceive platform call before).Settles item) calls host := by
  induction calls generalizing host with
  | nil => exact .inl (h.resolve_right id)
  | cons first rest ih =>
    have hfirst := (@receive_keeps Seed platform first.2 ⟨host.file, first.1,
      host.transport⟩).2 item
    -- settled by the first call, or on hand or taken by the rest
    have hstep := or_assoc.mpr h |>.imp_left hfirst
    rcases hstep with (hitem | hsettles) | hlater
    · exact (ih _ (.inl hitem)).imp_right .inr
    · exact .inr (.inl hsettles)
    · exact (ih _ (.inr hlater)).imp_right .inr

end Spec

/-! ### An item that the adapter rejected -/

def rejectedItem : InboundDeliveryItem := ⟨"a", [], .adapterRejected ""⟩

def rejectedHost : ReceiveHost :=
  ⟨none, ⟨none, 0⟩, ⟨ownerSeed.2, fun _ => none, 2,
    some ⟨⟨1, [rejectedItem]⟩, [], by simp [InboundDeliveryBatch.eventIds], by simp, by simp⟩,
    fun _ => []⟩⟩

def writable : InboundQuarantine.Outside := ⟨.ok [], .ok ()⟩

def idleCall : ReceiveCall (PubKey × PubKey) :=
  ⟨ownerSeed, ownerSeed.2, ⟨"", 0, ""⟩, 0, .error .crypto,
    ⟨writable, sampleOutside, writable⟩,
    ⟨false, [], 0, fun _ => 0, fun _ _ => none, fun _ => .error ""⟩,
    fun _ => ⟨writable, sampleOutside, writable⟩, .inserted, 0⟩

/-- A call without a capsule, one that settles the item, and a later one. -/
def rejectedCalls : List (RuntimeState × ReceiveCall (PubKey × PubKey)) :=
  [(⟨none, 0⟩, idleCall), (openOfferState, idleCall),
    (openOfferState, { idleCall with now := 5 })]

/-- It is on hand after the calls or one of them settles it. -/
theorem receiveRun_keeps_rejected :
    rejectedItem ∈ (receiveRun samplePlatform rejectedCalls rejectedHost).transport.pendingItems ∨
      SomeCall samplePlatform (fun call before =>
          (hivraTransportReceive samplePlatform call before).Settles rejectedItem)
        rejectedCalls rejectedHost :=
  receiveRun_keeps samplePlatform rejectedCalls rejectedHost rejectedItem
    (.inl (List.mem_singleton_self _))

end Hivra
