import Hivra.Lib.Keyed
import Hivra.Ffi.Ingress
import Mathlib.Data.List.Dedup
import Mathlib.Data.List.Sort

namespace Hivra

open Replay

namespace Nostr

/-!
# The receive side of the Nostr adapter

One receive fetches from every configured relay, and keeps a pending batch with the event ids
each relay contributed and the cursor it may move to.  Cursors and seen ids change only when
the router resolves the batch.  Times and cursors are `u64` values; the network answers, the
clock and the decoder of wire events are parameters.

* `resolveReceiveBatch_cases` — which resolutions are accepted.
-/

def receiveLimit : ℕ := 2048
def receiveLookbackSecs : ℕ := 7 * 24 * 60 * 60
def receiveFutureSkewSecs : ℕ := 5 * 60
def receiveSeenCapacity : ℕ := 2048

/-- The largest `u64`, where saturating additions stop. -/
def u64Max : ℕ := 2 ^ 64 - 1

def saturatingAdd (a b : ℕ) : ℕ := min (a + b) u64Max

/-- Relay data is untrusted: a future-dated event does not move the cursor beyond the query. -/
def nextReceiveCursor (current queryNow maxEventTimestamp : ℕ) : ℕ :=
  max current (min maxEventTimestamp queryNow - 1)

/-- The errors of the adapter. -/
inductive TransportError
  | notImplemented
  | connectionFailed
  | sendFailed
  | receiveFailed
  | invalidMessage
  | encodingFailed
  | decodingFailed
  | invalidKey
  | senderMismatch
  | timeout
  | other (text : String)
  deriving DecidableEq

/-- What the adapter made of a wire event. -/
inductive InboundDeliveryPayload
  | envelope (message : DeliveryEnvelope)
  | adapterRejected (reason : String)
  deriving DecidableEq

structure InboundDeliveryItem where
  eventId : String
  observedBy : List String
  payload : InboundDeliveryPayload
  deriving DecidableEq

structure InboundDeliveryBatch where
  batchId : ℕ
  items : List InboundDeliveryItem
  deriving DecidableEq

def InboundDeliveryBatch.eventIds (batch : InboundDeliveryBatch) : List String :=
  batch.items.map InboundDeliveryItem.eventId

/-- What the router answers for one item. -/
structure InboundDeliveryResolution where
  eventId : String
  disposition : InboundDeliveryDisposition
  deriving DecidableEq

def isTerminal (disposition : InboundDeliveryDisposition) : Bool :=
  match disposition with
  | .consumed | .quarantined | .adapterRejected => true
  | .retry => false

/-- The cursor a relay may move to, and the ids it waits for. -/
structure PendingRelayCursor where
  candidate : ℕ
  eventIds : List String
  deriving DecidableEq

/-- A batch on hand: no event and no relay twice, and a relay waits for items of the batch. -/
structure PendingReceiveBatch where
  batch : InboundDeliveryBatch
  relayCursors : List (String × PendingRelayCursor)
  distinct : batch.eventIds.Nodup
  relays : (relayCursors.map Prod.fst).Nodup
  observed : ∀ entry ∈ relayCursors, ∀ id ∈ entry.2.eventIds, id ∈ batch.eventIds

/-- The receive state of one adapter, with the process-wide table of seen ids. -/
structure NostrTransport where
  publicKey : PubKey
  receiveSinceByRelay : String → Option ℕ
  nextReceiveBatchId : ℕ
  pendingReceiveBatch : Option PendingReceiveBatch
  seenEventIds : PubKey → List String

/-- The order in which a hash set is iterated. -/
structure HashOrder where
  order : List String → List String
  perm : ∀ ids, (order ids).Perm ids

/-- The order of insertion. -/
def HashOrder.inserted : HashOrder := ⟨id, fun _ => List.Perm.refl _⟩

namespace NostrTransport

def seenForPubkey (transport : NostrTransport) : List String :=
  transport.seenEventIds transport.publicKey

/-- The cursor of a relay; a new relay starts the lookback before the clock. -/
def receiveSinceForRelay (transport : NostrTransport) (relay : String) (now : ℕ) : ℕ :=
  (transport.receiveSinceByRelay relay).getD (now - receiveLookbackSecs)

def withReceiveCursor (transport : NostrTransport) (relay : String) (cursor : ℕ) : NostrTransport :=
  { transport with
    receiveSinceByRelay := Function.update transport.receiveSinceByRelay relay (some cursor) }

@[simp] theorem withReceiveCursor_cursor (transport : NostrTransport) (relay url : String)
    (cursor : ℕ) :
    (transport.withReceiveCursor relay cursor).receiveSinceByRelay url =
      if url = relay then some cursor else transport.receiveSinceByRelay url :=
  Function.update_apply ..

def commitReceiveCursorForRelay (now : ℕ) (transport : NostrTransport) (relay : String)
    (candidate : ℕ) : NostrTransport :=
  transport.withReceiveCursor relay (max (transport.receiveSinceForRelay relay now) candidate)

end NostrTransport

/-! ### Resolving a batch -/

/-- The map of the answers; a second answer for one event is refused. -/
def collectDispositions (dispositions : List (String × InboundDeliveryDisposition)) :
    List InboundDeliveryResolution → Option (List (String × InboundDeliveryDisposition))
  | [] => some dispositions
  | resolution :: rest =>
    if resolution.eventId ∈ dispositions.map Prod.fst then none
    else
      collectDispositions (dispositions ++ [(resolution.eventId, resolution.disposition)]) rest

/-- The answer for an event. -/
def dispositionOf (dispositions : List (String × InboundDeliveryDisposition)) (id : String) :
    Option InboundDeliveryDisposition :=
  accumulated dispositions id

/-- Whether an item may get an answer: only what the adapter refused is rejected as such, and
    that is neither consumed nor quarantined. -/
def allowed : InboundDeliveryPayload → InboundDeliveryDisposition → Bool
  | .adapterRejected _, .adapterRejected => true
  | .envelope _, .adapterRejected => false
  | .adapterRejected _, .consumed => false
  | .adapterRejected _, .quarantined => false
  | _, _ => true

def terminalIds (dispositions : List (String × InboundDeliveryDisposition)) : List String :=
  (dispositions.filter fun entry => isTerminal entry.2).map Prod.fst

def retryIds (dispositions : List (String × InboundDeliveryDisposition)) : List String :=
  (dispositions.filter fun entry => entry.2 = .retry).map Prod.fst

/-- Remember an id; a full set is emptied first. -/
def markSeen (seen : List String) (id : String) : List String :=
  List.insert id (if receiveSeenCapacity ≤ seen.length then [] else seen)

/-- Every id the relay waits for is terminal. -/
def PendingRelayCursor.complete (terminal : List String) (cursor : PendingRelayCursor) : Bool :=
  cursor.eventIds.all fun id => decide (id ∈ terminal)

/-- Move the cursors of the relays that wait for nothing more. -/
def commitComplete (now : ℕ) (terminal : List String) (transport : NostrTransport)
    (relayCursors : List (String × PendingRelayCursor)) : NostrTransport :=
  replay (fun transport entry =>
    if entry.2.complete terminal then
      transport.commitReceiveCursorForRelay now entry.1 entry.2.candidate
    else transport) transport relayCursors

/-- What a relay still waits for. -/
def PendingRelayCursor.waiting (retry : List String) (cursor : PendingRelayCursor) :
    PendingRelayCursor :=
  { cursor with eventIds := cursor.eventIds.filter fun id => decide (id ∈ retry) }

/-- The items that are presented again, under a new batch id. -/
def PendingReceiveBatch.remaining (pending : PendingReceiveBatch) (batchId : ℕ)
    (terminal retry : List String) : PendingReceiveBatch where
  batch :=
    { batchId := batchId
      items := pending.batch.items.filter fun item => decide (item.eventId ∈ retry) }
  relayCursors :=
    (pending.relayCursors.filter fun entry => !entry.2.complete terminal).map
      fun entry => (entry.1, entry.2.waiting retry)
  distinct := pending.distinct.sublist (List.filter_sublist.map _)
  relays := by
    rw [List.map_map]
    exact pending.relays.sublist (List.filter_sublist.map _)
  observed := by
    intro entry hentry id hid
    obtain ⟨old, hold, rfl⟩ := List.mem_map.mp hentry
    obtain ⟨hid, hretry⟩ := List.mem_filter.mp hid
    -- the relay waited for an item of the old batch, and this one is to be retried
    have hbatch := pending.observed old (List.mem_of_mem_filter hold) id hid
    obtain ⟨item, hitem, rfl⟩ := List.mem_map.mp hbatch
    exact List.mem_map_of_mem (List.mem_filter.mpr ⟨hitem, hretry⟩)

/-- Remember the terminal ids of the capsule. -/
def NostrTransport.rememberTerminal (order : HashOrder) (terminal : List String)
    (transport : NostrTransport) : NostrTransport :=
  { transport with
    seenEventIds := Function.update transport.seenEventIds transport.publicKey
      (replay markSeen transport.seenForPubkey (order.order terminal)) }

/-- Keep what is to be retried as a new batch. -/
def NostrTransport.keepPending (pending : PendingReceiveBatch) (terminal retry : List String)
    (transport : NostrTransport) : NostrTransport :=
  if retry.isEmpty then { transport with pendingReceiveBatch := none }
  else
    { transport with
      pendingReceiveBatch :=
        some (pending.remaining transport.nextReceiveBatchId terminal retry)
      nextReceiveBatchId := saturatingAdd transport.nextReceiveBatchId 1 }

/-- One accepted round: terminal ids are seen, complete relays move their cursors, and what is
    to be retried is the new batch. -/
def NostrTransport.resolveRound (order : HashOrder) (now : ℕ) (transport : NostrTransport)
    (pending : PendingReceiveBatch) (dispositions : List (String × InboundDeliveryDisposition)) :
    NostrTransport :=
  (commitComplete now (terminalIds dispositions)
      (transport.rememberTerminal order (terminalIds dispositions)) pending.relayCursors).keepPending
    pending (terminalIds dispositions) (retryIds dispositions)

/-- Answer a pending batch.  The answers must name the batch and each of its items once. -/
def resolveReceiveBatch (order : HashOrder) (now : ℕ) (transport : NostrTransport)
    (batchId : ℕ) (resolutions : List InboundDeliveryResolution) :
    Except TransportError Unit × NostrTransport :=
  match transport.pendingReceiveBatch with
  | none => (.error .invalidMessage, transport)
  | some pending =>
    if pending.batch.batchId ≠ batchId then (.error .invalidMessage, transport)
    else
      match collectDispositions [] resolutions with
      | none => (.error .invalidMessage, transport)
      | some dispositions =>
        if dispositions.length ≠ pending.batch.items.length ∨
            pending.batch.items.any
              (fun item => (dispositionOf dispositions item.eventId).isNone) then
          (.error .invalidMessage, transport)
        else if pending.batch.items.all (fun item =>
            (dispositionOf dispositions item.eventId).all (allowed item.payload)) then
          (.ok (), transport.resolveRound order now pending dispositions)
        else (.error .invalidMessage, transport)

/-! ### Which calls are accepted -/

def InboundDeliveryResolution.answer (resolution : InboundDeliveryResolution) :
    String × InboundDeliveryDisposition :=
  (resolution.eventId, resolution.disposition)

/-- The ids of the resolutions of a call. -/
def resolvedIds (resolutions : List InboundDeliveryResolution) : List String :=
  resolutions.map InboundDeliveryResolution.eventId

/-- The call names the batch and each of its items once, with answers the items may get. -/
structure Exact (pending : PendingReceiveBatch) (batchId : ℕ)
    (resolutions : List InboundDeliveryResolution) : Prop where
  batch : pending.batch.batchId = batchId
  items : (resolvedIds resolutions).Perm pending.batch.eventIds
  answers : ∀ item ∈ pending.batch.items, ∀ resolution ∈ resolutions,
    resolution.eventId = item.eventId → allowed item.payload resolution.disposition = true

theorem collectDispositions_eq (dispositions : List (String × InboundDeliveryDisposition))
    (resolutions : List InboundDeliveryResolution) :
    collectDispositions dispositions resolutions =
      if (resolvedIds resolutions).Nodup ∧
          ∀ id ∈ resolvedIds resolutions, id ∉ dispositions.map Prod.fst then
        some (dispositions ++ resolutions.map InboundDeliveryResolution.answer)
      else none := by
  induction resolutions generalizing dispositions with
  | nil => simp [collectDispositions, resolvedIds]
  | cons resolution rest ih =>
    rw [collectDispositions]
    by_cases hknown : resolution.eventId ∈ dispositions.map Prod.fst
    · rw [if_pos hknown, if_neg]
      exact fun h => h.2 resolution.eventId (List.mem_cons_self ..) hknown
    · rw [if_neg hknown, ih]
      -- the new key joins the map, and the rest must avoid it as well
      have hiff : ((resolvedIds rest).Nodup ∧ ∀ id ∈ resolvedIds rest,
            id ∉ (dispositions ++ [(resolution.eventId, resolution.disposition)]).map Prod.fst) ↔
          ((resolvedIds (resolution :: rest)).Nodup ∧
            ∀ id ∈ resolvedIds (resolution :: rest), id ∉ dispositions.map Prod.fst) := by
        show _ ↔ (resolution.eventId :: resolvedIds rest).Nodup ∧
          ∀ id ∈ resolution.eventId :: resolvedIds rest, id ∉ dispositions.map Prod.fst
        rw [List.nodup_cons, List.forall_mem_cons, List.map_append, List.map_singleton]
        constructor
        · rintro ⟨hnodup, hrest⟩
          refine ⟨⟨fun hmem => ?_, hnodup⟩, hknown, fun id hid hold => ?_⟩
          · exact hrest _ hmem (List.mem_append_right _ (List.mem_singleton.mpr rfl))
          · exact hrest id hid (List.mem_append_left _ hold)
        · rintro ⟨⟨hnew, hnodup⟩, -, hrest⟩
          refine ⟨hnodup, fun id hid hmem => ?_⟩
          rcases List.mem_append.mp hmem with hold | hold
          · exact hrest id hid hold
          · have heq : id = resolution.eventId := List.mem_singleton.mp hold
            exact hnew (heq ▸ hid)
      rw [if_congr hiff rfl rfl]
      simp [InboundDeliveryResolution.answer]

variable {resolutions : List InboundDeliveryResolution} {id : String}

theorem dispositionOf_answers (hnodup : (resolvedIds resolutions).Nodup)
    {disposition : InboundDeliveryDisposition} :
    dispositionOf (resolutions.map InboundDeliveryResolution.answer) id = some disposition ↔
      ⟨id, disposition⟩ ∈ resolutions := by
  have hkeys : ((resolutions.map InboundDeliveryResolution.answer).map Prod.fst).Nodup := by
    rw [List.map_map]
    exact hnodup
  rw [dispositionOf, accumulated, Option.map_eq_some_iff]
  constructor
  · rintro ⟨entry, hfind, rfl⟩
    obtain ⟨resolution, hmem, rfl⟩ := List.mem_map.mp (List.mem_of_find?_eq_some hfind)
    have hkey := List.find?_some hfind
    have hid : resolution.eventId = id := eq_of_beq hkey
    subst hid
    exact hmem
  · intro hmem
    refine ⟨(id, disposition), ?_, rfl⟩
    rw [find_key_eq_some hkeys]
    exact ⟨List.mem_map_of_mem (f := InboundDeliveryResolution.answer) hmem, rfl⟩

theorem dispositionOf_isNone :
    (dispositionOf (resolutions.map InboundDeliveryResolution.answer) id).isNone = true ↔
      id ∉ resolvedIds resolutions := by
  rw [dispositionOf, accumulated, Option.isNone_map, Option.isNone_iff_eq_none,
    List.find?_eq_none]
  simp [resolvedIds, InboundDeliveryResolution.answer]

theorem resolvedIds_perm_iff {pending : PendingReceiveBatch} :
    (resolvedIds resolutions).Perm pending.batch.eventIds ↔
      (resolvedIds resolutions).Nodup ∧ resolutions.length = pending.batch.items.length ∧
        ∀ item ∈ pending.batch.items, item.eventId ∈ resolvedIds resolutions := by
  constructor
  · intro hperm
    refine ⟨hperm.nodup_iff.mpr pending.distinct, ?_, ?_⟩
    · have hlength := hperm.length_eq
      simpa [resolvedIds, InboundDeliveryBatch.eventIds] using hlength
    · exact fun item hitem => hperm.symm.subset (List.mem_map_of_mem hitem)
  · rintro ⟨-, hlength, hmem⟩
    have hsubset : pending.batch.eventIds ⊆ resolvedIds resolutions := by
      intro id hid
      obtain ⟨item, hitem, rfl⟩ := List.mem_map.mp hid
      exact hmem item hitem
    -- as many answers as items, and every item has one
    have hsubperm := List.subperm_of_subset pending.distinct hsubset
    refine (hsubperm.perm_of_length_le ?_).symm
    simp [resolvedIds, InboundDeliveryBatch.eventIds, hlength]

/-- **A call is an exact round or changes nothing.** -/
theorem resolveReceiveBatch_cases (order : HashOrder) (now : ℕ) (transport : NostrTransport)
    (batchId : ℕ) (resolutions : List InboundDeliveryResolution) :
    (∃ pending, transport.pendingReceiveBatch = some pending ∧
        Exact pending batchId resolutions ∧
        resolveReceiveBatch order now transport batchId resolutions =
          (.ok (), transport.resolveRound order now pending
            (resolutions.map InboundDeliveryResolution.answer))) ∨
      (∀ pending, transport.pendingReceiveBatch = some pending →
          ¬ Exact pending batchId resolutions) ∧
        resolveReceiveBatch order now transport batchId resolutions =
          (.error .invalidMessage, transport) := by
  unfold resolveReceiveBatch
  cases hpending : transport.pendingReceiveBatch with
  | none => exact .inr ⟨fun _ h => (nomatch h), rfl⟩
  | some pending =>
    -- a rejected call is refused for a part of `Exact`
    have hrefuse : ¬ Exact pending batchId resolutions →
        ∀ p, some pending = some p → ¬ Exact p batchId resolutions := by
      intro hnot p hp
      rwa [← Option.some.inj hp]
    simp only [collectDispositions_eq]
    by_cases hbatch : pending.batch.batchId = batchId
    · rw [if_neg (not_not.mpr hbatch)]
      by_cases hnodup : (resolvedIds resolutions).Nodup
      · have hfresh : (resolvedIds resolutions).Nodup ∧ ∀ id ∈ resolvedIds resolutions,
            id ∉ ([] : List (String × InboundDeliveryDisposition)).map Prod.fst :=
          ⟨hnodup, fun _ _ h => by cases h⟩
        rw [if_pos hfresh]
        simp only [List.nil_append, List.length_map]
        by_cases hitems : resolutions.length ≠ pending.batch.items.length ∨
            pending.batch.items.any (fun item => (dispositionOf
              (resolutions.map InboundDeliveryResolution.answer) item.eventId).isNone) = true
        · rw [if_pos hitems]
          refine .inr ⟨hrefuse fun hexact => ?_, rfl⟩
          obtain ⟨-, hlength, hmem⟩ := resolvedIds_perm_iff.mp hexact.items
          rcases hitems with hne | hany
          · exact hne hlength
          · obtain ⟨item, hitem, hnone⟩ := List.any_eq_true.mp hany
            exact dispositionOf_isNone.mp hnone (hmem item hitem)
        · rw [if_neg hitems]
          obtain ⟨hlength, hany⟩ := not_or.mp hitems
          have hperm : (resolvedIds resolutions).Perm pending.batch.eventIds := by
            refine resolvedIds_perm_iff.mpr ⟨hnodup, not_not.mp hlength, fun item hitem => ?_⟩
            by_contra hmissing
            exact hany (List.any_eq_true.mpr ⟨item, hitem, dispositionOf_isNone.mpr hmissing⟩)
          -- what is left to check are the answers
          have hallowed : (pending.batch.items.all fun item => (dispositionOf
                (resolutions.map InboundDeliveryResolution.answer) item.eventId).all
                  (allowed item.payload)) = true ↔
              ∀ item ∈ pending.batch.items, ∀ resolution ∈ resolutions,
                resolution.eventId = item.eventId →
                allowed item.payload resolution.disposition = true := by
            rw [List.all_eq_true]
            refine forall₂_congr fun item hitem => ?_
            rw [Option.all_eq_true]
            constructor
            · intro h resolution hresolution hid
              refine h _ ((dispositionOf_answers hnodup).mpr ?_)
              rw [← hid]
              exact hresolution
            · intro h disposition hdisposition
              exact h ⟨item.eventId, disposition⟩ ((dispositionOf_answers hnodup).mp hdisposition)
                rfl
          split_ifs with hall
          · exact .inl ⟨pending, rfl, ⟨hbatch, hperm, hallowed.mp hall⟩, rfl⟩
          · exact .inr ⟨hrefuse fun hexact => hall (hallowed.mpr hexact.answers), rfl⟩
      · rw [if_neg (fun h => hnodup h.1)]
        exact .inr ⟨hrefuse fun hexact => hnodup (resolvedIds_perm_iff.mp hexact.items).1, rfl⟩
    · rw [if_pos hbatch]
      exact .inr ⟨hrefuse fun hexact => hbatch hexact.batch, rfl⟩

/-- An accepted call is an exact round. -/
theorem resolveReceiveBatch_ok {order : HashOrder} {now : ℕ} {transport : NostrTransport}
    {batchId : ℕ} (h : (resolveReceiveBatch order now transport batchId resolutions).1 = .ok ()) :
    ∃ pending, transport.pendingReceiveBatch = some pending ∧
      Exact pending batchId resolutions ∧
      (resolveReceiveBatch order now transport batchId resolutions).2 =
        transport.resolveRound order now pending
          (resolutions.map InboundDeliveryResolution.answer) := by
  rcases resolveReceiveBatch_cases order now transport batchId resolutions with
    ⟨pending, hpending, hexact, hresolve⟩ | ⟨-, hresolve⟩
  · exact ⟨pending, hpending, hexact, by rw [hresolve]⟩
  · rw [hresolve] at h
    cases h

/-! ### What an accepted round does -/

theorem mem_terminalIds :
    id ∈ terminalIds (resolutions.map InboundDeliveryResolution.answer) ↔
      ∃ resolution ∈ resolutions,
        resolution.eventId = id ∧ isTerminal resolution.disposition = true := by
  simp only [terminalIds, List.mem_map, List.mem_filter, InboundDeliveryResolution.answer]
  constructor
  · rintro ⟨_, ⟨⟨resolution, hmem, rfl⟩, hterminal⟩, rfl⟩
    exact ⟨resolution, hmem, rfl, hterminal⟩
  · rintro ⟨resolution, hmem, rfl, hterminal⟩
    exact ⟨_, ⟨⟨resolution, hmem, rfl⟩, hterminal⟩, rfl⟩

theorem mem_retryIds :
    id ∈ retryIds (resolutions.map InboundDeliveryResolution.answer) ↔
      ⟨id, .retry⟩ ∈ resolutions := by
  simp only [retryIds, List.mem_map, List.mem_filter, InboundDeliveryResolution.answer,
    decide_eq_true_eq]
  constructor
  · rintro ⟨_, ⟨⟨⟨_, _⟩, hmem, rfl⟩, hretry⟩, rfl⟩
    cases hretry
    exact hmem
  · intro hmem
    exact ⟨_, ⟨⟨_, hmem, rfl⟩, rfl⟩, rfl⟩

/-- Whatever is emptied on the way, only the marked ids are added. -/
theorem mem_of_mem_replay_markSeen {seen ids : List String} (h : id ∈ replay markSeen seen ids) :
    id ∈ seen ∨ id ∈ ids := by
  have hrun : ∀ id ∈ replay markSeen seen ids, id ∈ seen ∨ id ∈ ids := by
    refine replay_invariant (P := fun s : List String => ∀ id ∈ s, id ∈ seen ∨ id ∈ ids)
      (fun _ h => .inl h) ?_
    intro s marked hmarked hs id hid
    rcases List.mem_insert_iff.mp hid with rfl | hid
    · exact .inr hmarked
    · split_ifs at hid
      · cases hid
      · exact hs id hid
  exact hrun id h

/-- Moving cursors leaves the key and the seen ids alone. -/
theorem commitComplete_frame (now : ℕ) (terminal : List String) (transport : NostrTransport)
    (relayCursors : List (String × PendingRelayCursor)) :
    (commitComplete now terminal transport relayCursors).publicKey = transport.publicKey ∧
      (commitComplete now terminal transport relayCursors).seenEventIds =
        transport.seenEventIds := by
  refine replay_invariant (P := fun t : NostrTransport =>
    t.publicKey = transport.publicKey ∧ t.seenEventIds = transport.seenEventIds) ⟨rfl, rfl⟩ ?_
  intro t entry _ ht
  split_ifs <;> exact ht

/-- **Each relay on its own**: its cursor moves where it waits for nothing more. -/
theorem commitComplete_cursor (now : ℕ) (terminal : List String) (transport : NostrTransport)
    {relayCursors : List (String × PendingRelayCursor)}
    (hnodup : (relayCursors.map Prod.fst).Nodup) (relay : String) :
    (commitComplete now terminal transport relayCursors).receiveSinceByRelay relay =
      match accumulated relayCursors relay with
      | some cursor =>
        if cursor.complete terminal then
          some (max (transport.receiveSinceForRelay relay now) cursor.candidate)
        else transport.receiveSinceByRelay relay
      | none => transport.receiveSinceByRelay relay := by
  induction relayCursors generalizing transport with
  | nil => rfl
  | cons entry rest ih =>
    obtain ⟨url, cursor⟩ := entry
    obtain ⟨hnew, hrest⟩ := List.nodup_cons.mp hnodup
    rw [commitComplete, replay_cons, ← commitComplete, ih _ hrest]
    by_cases hurl : url = relay
    · subst hurl
      -- the relay does not come again
      have hnone : accumulated rest url = none := by
        rw [accumulated, Option.map_eq_none_iff, List.find?_eq_none]
        intro entry hentry hkey
        exact hnew (List.mem_map.mpr ⟨entry, hentry, eq_of_beq hkey⟩)
      have hfirst : accumulated ((url, cursor) :: rest) url = some cursor := by
        rw [accumulated, List.find?_cons_of_pos (by simp)]
        rfl
      rw [hnone, hfirst]
      show NostrTransport.receiveSinceByRelay (if cursor.complete terminal = true then _ else _)
        url = if cursor.complete terminal = true then _ else _
      split_ifs
      · exact Function.update_self ..
      · rfl
    · have hskip : accumulated ((url, cursor) :: rest) relay = accumulated rest relay := by
        rw [accumulated, List.find?_cons_of_neg (by simpa using hurl), accumulated]
      have hsame : (if cursor.complete terminal = true then
          transport.commitReceiveCursorForRelay now url cursor.candidate
          else transport).receiveSinceByRelay relay = transport.receiveSinceByRelay relay := by
        split_ifs
        · exact Function.update_of_ne (Ne.symm hurl) _ _
        · rfl
      rw [hskip, NostrTransport.receiveSinceForRelay, hsame]
      rfl

/-- The items on hand. -/
def NostrTransport.pendingItems (transport : NostrTransport) : List InboundDeliveryItem :=
  (transport.pendingReceiveBatch.map fun pending => pending.batch.items).getD []

section Round

variable {order : HashOrder} {now : ℕ} {transport : NostrTransport}
  {pending : PendingReceiveBatch} {dispositions : List (String × InboundDeliveryDisposition)}

/-- The new batch leaves key, cursors and seen ids alone. -/
theorem keepPending_frame {terminal retry : List String} :
    (transport.keepPending pending terminal retry).publicKey = transport.publicKey ∧
      (transport.keepPending pending terminal retry).receiveSinceByRelay =
        transport.receiveSinceByRelay ∧
      (transport.keepPending pending terminal retry).seenEventIds = transport.seenEventIds := by
  unfold NostrTransport.keepPending
  split_ifs <;> exact ⟨rfl, rfl, rfl⟩

@[simp] theorem resolveRound_publicKey :
    (transport.resolveRound order now pending dispositions).publicKey = transport.publicKey :=
  keepPending_frame.1.trans (commitComplete_frame ..).1

theorem resolveRound_seen {key : PubKey} {id : String}
    (h : id ∈ (transport.resolveRound order now pending dispositions).seenEventIds key) :
    id ∈ transport.seenEventIds key ∨
      key = transport.publicKey ∧ id ∈ terminalIds dispositions := by
  rw [NostrTransport.resolveRound, keepPending_frame.2.2, (commitComplete_frame ..).2] at h
  replace h : id ∈ Function.update transport.seenEventIds transport.publicKey
    (replay markSeen transport.seenForPubkey (order.order (terminalIds dispositions))) key := h
  by_cases hkey : key = transport.publicKey
  · subst hkey
    rw [Function.update_self] at h
    rcases mem_of_mem_replay_markSeen h with hold | hnew
    · exact .inl hold
    · exact .inr ⟨rfl, (order.perm _).subset hnew⟩
  · rw [Function.update_of_ne hkey] at h
    exact .inl h

theorem resolveRound_cursor (relay : String) :
    (transport.resolveRound order now pending dispositions).receiveSinceByRelay relay =
      match accumulated pending.relayCursors relay with
      | some cursor =>
        if cursor.complete (terminalIds dispositions) then
          some (max (transport.receiveSinceForRelay relay now) cursor.candidate)
        else transport.receiveSinceByRelay relay
      | none => transport.receiveSinceByRelay relay := by
  rw [NostrTransport.resolveRound, keepPending_frame.2.1,
    commitComplete_cursor now _ _ pending.relays]
  rfl

theorem resolveRound_pendingItems :
    (transport.resolveRound order now pending dispositions).pendingItems =
      pending.batch.items.filter fun item => decide (item.eventId ∈ retryIds dispositions) := by
  unfold NostrTransport.resolveRound NostrTransport.keepPending
  split_ifs with hretry
  · rw [List.isEmpty_iff.mp hretry]
    simp [NostrTransport.pendingItems]
  · rfl

/-- What a relay waits for after the round. -/
theorem resolveRound_waiting {next : PendingReceiveBatch}
    (h : (transport.resolveRound order now pending dispositions).pendingReceiveBatch =
      some next) {entry : String × PendingRelayCursor} (hentry : entry ∈ next.relayCursors) :
    ∃ old ∈ pending.relayCursors, old.1 = entry.1 ∧ old.2.candidate = entry.2.candidate ∧
      ∀ id, id ∈ entry.2.eventIds ↔ id ∈ old.2.eventIds ∧ id ∈ retryIds dispositions := by
  unfold NostrTransport.resolveRound NostrTransport.keepPending at h
  split_ifs at h
  cases h
  obtain ⟨old, hold, rfl⟩ := List.mem_map.mp hentry
  refine ⟨old, List.mem_of_mem_filter hold, rfl, rfl, fun id => ?_⟩
  simp [PendingRelayCursor.waiting]

end Round

end Nostr

end Hivra
