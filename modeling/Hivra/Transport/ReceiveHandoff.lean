import Hivra.Transport.ReceiveBatch

namespace Hivra

open Replay

namespace Nostr

/-!
# The acknowledged handoff of a batch

A batch is answered in rounds: every accepted call answers all items on hand, and the items to
be retried come again under a new batch id.  What the rounds have answered so far decides what
is still on hand and which cursors have moved.
-/

/-- One call of the router, with the clock it meets. -/
structure ResolveCall where
  now : ℕ
  batchId : ℕ
  resolutions : List InboundDeliveryResolution

/-- The transport, and the answers of the calls accepted so far. -/
abbrev Answered := NostrTransport × List (List InboundDeliveryResolution)

def resolveStep (order : HashOrder) (state : Answered) (call : ResolveCall) : Answered :=
  match resolveReceiveBatch order call.now state.1 call.batchId call.resolutions with
  | (.ok (), transport) => (transport, state.2 ++ [call.resolutions])
  | (.error _, transport) => (transport, state.2)

/-- A sequence of calls. -/
def resolveRun (order : HashOrder) (start : NostrTransport) (calls : List ResolveCall) : Answered :=
  replay (resolveStep order) (start, []) calls

/-- The last answer for an event. -/
def latestDisposition (rounds : List (List InboundDeliveryResolution)) (id : String) :
    Option InboundDeliveryDisposition :=
  replay (fun latest round =>
    dispositionOf (round.map InboundDeliveryResolution.answer) id <|> latest) none rounds

/-- Some round gave the event a terminal answer. -/
def TerminalIn (rounds : List (List InboundDeliveryResolution)) (id : String) : Prop :=
  ∃ round ∈ rounds, ∃ resolution ∈ round,
    resolution.eventId = id ∧ isTerminal resolution.disposition = true

theorem latestDisposition_snoc (rounds : List (List InboundDeliveryResolution))
    (round : List InboundDeliveryResolution) (id : String) :
    latestDisposition (rounds ++ [round]) id =
      (dispositionOf (round.map InboundDeliveryResolution.answer) id <|>
        latestDisposition rounds id) :=
  replay_snoc ..

variable {rounds : List (List InboundDeliveryResolution)}

theorem TerminalIn.snoc {id : String} (h : TerminalIn rounds id)
    (round : List InboundDeliveryResolution) : TerminalIn (rounds ++ [round]) id := by
  obtain ⟨old, hold, h⟩ := h
  exact ⟨old, List.mem_append_left _ hold, h⟩

theorem terminalIn_of_mem {round : List InboundDeliveryResolution} {id : String}
    (h : id ∈ terminalIds (round.map InboundDeliveryResolution.answer)) :
    TerminalIn (rounds ++ [round]) id :=
  ⟨round, List.mem_append_right _ (List.mem_singleton.mpr rfl), mem_terminalIds.mp h⟩

/-- What one call does to the transport and to the answers. -/
theorem resolveStep_cases (order : HashOrder) (state : Answered) (call : ResolveCall) :
    (∃ pending, state.1.pendingReceiveBatch = some pending ∧
        Exact pending call.batchId call.resolutions ∧
        resolveStep order state call =
          (state.1.resolveRound order call.now pending
            (call.resolutions.map InboundDeliveryResolution.answer),
            state.2 ++ [call.resolutions])) ∨
      resolveStep order state call = state := by
  unfold resolveStep
  rcases resolveReceiveBatch_cases order call.now state.1 call.batchId call.resolutions with
    ⟨pending, hpending, hexact, hresolve⟩ | ⟨-, hresolve⟩
  · exact .inl ⟨pending, hpending, hexact, by rw [hresolve]⟩
  · exact .inr (by rw [hresolve])

/-! ### The invariant -/

/-- The cursor of a relay is where it was, or at the candidate of a relay whose events have all
    got a terminal answer. -/
def CursorEarned (start : NostrTransport) (pending : PendingReceiveBatch)
    (rounds : List (List InboundDeliveryResolution)) (transport : NostrTransport)
    (relay : String) : Prop :=
  transport.receiveSinceByRelay relay = start.receiveSinceByRelay relay ∨
    ∃ cursor, (relay, cursor) ∈ pending.relayCursors ∧
      (∀ id ∈ cursor.eventIds, TerminalIn rounds id) ∧
      ∃ base, (∀ c, start.receiveSinceByRelay relay = some c → base = c) ∧
        transport.receiveSinceByRelay relay = some (max base cursor.candidate)

/-- What holds of a transport after the rounds that answered a batch. -/
structure Handoff (start : NostrTransport) (pending : PendingReceiveBatch)
    (state : Answered) : Prop where
  key : state.1.publicKey = start.publicKey
  fresh : state.2 = [] → state.1 = start
  items : state.2 ≠ [] → state.1.pendingItems =
    pending.batch.items.filter fun item =>
      decide (latestDisposition state.2 item.eventId = some .retry)
  relays : ∀ batch, state.1.pendingReceiveBatch = some batch → ∀ entry ∈ batch.relayCursors,
    ∃ old ∈ pending.relayCursors, old.1 = entry.1 ∧ old.2.candidate = entry.2.candidate ∧
      ∀ id ∈ old.2.eventIds, id ∈ entry.2.eventIds ∨ TerminalIn state.2 id
  cursors : ∀ relay, CursorEarned start pending state.2 state.1 relay
  seen : ∀ key id, id ∈ state.1.seenEventIds key →
    id ∈ start.seenEventIds key ∨ key = start.publicKey ∧ TerminalIn state.2 id

section Step

variable {order : HashOrder} {now : ℕ} {start : NostrTransport}
  {pending batch : PendingReceiveBatch} {state : Answered} {batchId : ℕ}
  {resolutions : List InboundDeliveryResolution}

/-- The items on hand are those of the batch, or what the earlier rounds left of it. -/
theorem Handoff.on_hand (hstart : start.pendingReceiveBatch = some pending)
    (h : Handoff start pending state) (hbatch : state.1.pendingReceiveBatch = some batch) :
    batch.batch.items = pending.batch.items.filter fun item =>
      decide (state.2 = [] ∨ latestDisposition state.2 item.eventId = some .retry) := by
  have hitems : state.1.pendingItems = batch.batch.items := by
    simp [NostrTransport.pendingItems, hbatch]
  by_cases hrounds : state.2 = []
  · rw [h.fresh hrounds, hstart] at hbatch
    rw [← Option.some.inj hbatch]
    simp [hrounds]
  · rw [← hitems, h.items hrounds]
    simp [hrounds]

/-- Answered again or not: what is to be retried after one more round. -/
theorem Handoff.retried (hstart : start.pendingReceiveBatch = some pending)
    (h : Handoff start pending state) (hbatch : state.1.pendingReceiveBatch = some batch)
    (hexact : Exact batch batchId resolutions) {item : InboundDeliveryItem}
    (hitem : item ∈ pending.batch.items) :
    latestDisposition (state.2 ++ [resolutions]) item.eventId = some .retry ↔
      item ∈ batch.batch.items ∧
        item.eventId ∈ retryIds (resolutions.map InboundDeliveryResolution.answer) := by
  have hnodup := (resolvedIds_perm_iff.mp hexact.items).1
  rw [latestDisposition_snoc, mem_retryIds]
  by_cases hon : item ∈ batch.batch.items
  · -- on hand: this round answers it
    obtain ⟨resolution, hresolution, hid⟩ :=
      List.mem_map.mp ((resolvedIds_perm_iff.mp hexact.items).2.2 item hon)
    have hanswer : dispositionOf (resolutions.map InboundDeliveryResolution.answer)
        item.eventId = some resolution.disposition := by
      rw [dispositionOf_answers hnodup, ← hid]
      exact hresolution
    rw [← dispositionOf_answers hnodup, hanswer]
    simp [hon]
  · -- not on hand: no round answers it any more, and the last answer was terminal
    have hnone : dispositionOf (resolutions.map InboundDeliveryResolution.answer)
        item.eventId = none := by
      rw [← Option.isNone_iff_eq_none, dispositionOf_isNone]
      intro hmem
      obtain ⟨other, hother, heq⟩ := List.mem_map.mp (hexact.items.subset hmem)
      have hold : other ∈ pending.batch.items := by
        rw [h.on_hand hstart hbatch] at hother
        exact List.mem_of_mem_filter hother
      exact hon (List.inj_on_of_nodup_map pending.distinct hold hitem heq ▸ hother)
    rw [hnone]
    constructor
    · intro hlatest
      refine absurd ?_ hon
      rw [h.on_hand hstart hbatch]
      exact List.mem_filter.mpr ⟨hitem, decide_eq_true (.inr hlatest)⟩
    · exact fun h => absurd h.1 hon

/-- **Step.**  An accepted round keeps the invariant. -/
theorem Handoff.round (hstart : start.pendingReceiveBatch = some pending)
    (h : Handoff start pending state) (hbatch : state.1.pendingReceiveBatch = some batch)
    (hexact : Exact batch batchId resolutions) :
    Handoff start pending
      (state.1.resolveRound order now batch (resolutions.map InboundDeliveryResolution.answer),
        state.2 ++ [resolutions]) where
  key := resolveRound_publicKey.trans h.key
  fresh := fun hnil => absurd hnil (List.append_ne_nil_of_right_ne_nil _ (List.cons_ne_nil _ _))
  items := by
    intro _
    show NostrTransport.pendingItems _ = _
    rw [resolveRound_pendingItems, h.on_hand hstart hbatch, List.filter_filter]
    refine List.filter_congr fun item hitem => ?_
    have hretried := h.retried hstart hbatch hexact hitem
    rw [h.on_hand hstart hbatch, List.mem_filter, decide_eq_true_eq] at hretried
    rw [Bool.eq_iff_iff, Bool.and_eq_true, decide_eq_true_eq, decide_eq_true_eq,
      decide_eq_true_eq, hretried]
    exact ⟨fun hp => ⟨⟨hitem, hp.2⟩, hp.1⟩, fun hp => ⟨hp.2, hp.1.2⟩⟩
  relays := by
    intro next hnext entry hentry
    obtain ⟨middle, hmiddle, hurl, hcandidate, hwaiting⟩ := resolveRound_waiting hnext hentry
    obtain ⟨old, hold, hurl', hcandidate', hids⟩ := h.relays batch hbatch middle hmiddle
    refine ⟨old, hold, hurl'.trans hurl, hcandidate'.trans hcandidate, fun id hid => ?_⟩
    rcases hids id hid with hmem | hterminal
    · -- every id a relay waits for is answered: retried or terminal
      have hanswered := hexact.items.symm.subset (batch.observed middle hmiddle id hmem)
      obtain ⟨resolution, hresolution, rfl⟩ := List.mem_map.mp hanswered
      cases hdisposition : isTerminal resolution.disposition with
      | true => exact .inr (terminalIn_of_mem (mem_terminalIds.mpr ⟨_, hresolution, rfl, hdisposition⟩))
      | false =>
        have hretry : resolution.disposition = .retry := by
          cases hd : resolution.disposition <;> rw [hd] at hdisposition <;>
            first | rfl | exact absurd hdisposition (by decide)
        refine .inl ((hwaiting _).mpr ⟨hmem, mem_retryIds.mpr ?_⟩)
        rw [← hretry]
        exact hresolution
    · exact .inr (hterminal.snoc _)
  cursors := by
    intro relay
    have hcursor := @resolveRound_cursor order now state.1 batch
      (resolutions.map InboundDeliveryResolution.answer) relay
    have hkept : CursorEarned start pending (state.2 ++ [resolutions]) state.1 relay := by
      rcases h.cursors relay with hsame | ⟨cursor, hmem, hall, hbase⟩
      · exact .inl hsame
      · exact .inr ⟨cursor, hmem, fun id hid => (hall id hid).snoc _, hbase⟩
    cases hfound : accumulated batch.relayCursors relay with
    | none =>
      rw [hfound] at hcursor
      unfold CursorEarned
      rw [hcursor]
      exact hkept
    | some cursor =>
      rw [hfound] at hcursor
      by_cases hcomplete : cursor.complete
          (terminalIds (resolutions.map InboundDeliveryResolution.answer)) = true
      · -- the relay waits for nothing more, so all it contributed is terminal
        replace hcursor := hcursor.trans (if_pos hcomplete)
        have hentry : (relay, cursor) ∈ batch.relayCursors := mem_of_accumulated hfound
        obtain ⟨old, hold, hurl, hcandidate, hids⟩ := h.relays batch hbatch _ hentry
        have hearned : ∀ id ∈ old.2.eventIds, TerminalIn (state.2 ++ [resolutions]) id := by
          intro id hid
          rcases hids id hid with hmem | hterminal
          · have hall := List.all_eq_true.mp hcomplete id hmem
            exact terminalIn_of_mem (of_decide_eq_true hall)
          · exact hterminal.snoc _
        have hpair : (relay, old.2) ∈ pending.relayCursors := by
          have heq : old.1 = relay := hurl
          rw [← heq]
          exact hold
        refine .inr ⟨old.2, hpair, hearned, ?_⟩
        rcases h.cursors relay with hsame | ⟨other, hother, -, base, hbase, hmoved⟩
        · refine ⟨state.1.receiveSinceForRelay relay now, fun c hc => ?_, ?_⟩
          · rw [NostrTransport.receiveSinceForRelay, hsame, hc]
            rfl
          · rw [hcursor, hcandidate]
        · -- a relay has one candidate, so moving to it twice is moving once
          have heq : other = old.2 := by
            have hinj := List.inj_on_of_nodup_map pending.relays hother hpair rfl
            exact (Prod.mk.inj hinj).2
          refine ⟨base, hbase, ?_⟩
          rw [hcursor, NostrTransport.receiveSinceForRelay, hmoved, heq, ← hcandidate]
          show some (max (max base old.2.candidate) old.2.candidate) = _
          rw [max_assoc, max_self]
      · replace hcursor := hcursor.trans (if_neg hcomplete)
        unfold CursorEarned
        rw [hcursor]
        exact hkept
  seen := by
    intro key id hid
    rcases resolveRound_seen hid with hold | ⟨hkey, hterminal⟩
    · rcases h.seen key id hold with hstart | ⟨hkey, hterminal⟩
      · exact .inl hstart
      · exact .inr ⟨hkey, hterminal.snoc _⟩
    · exact .inr ⟨hkey.trans h.key, terminalIn_of_mem hterminal⟩

end Step

/-- **Run.**  Every sequence of calls keeps the invariant. -/
theorem resolveRun_handoff (order : HashOrder) {start : NostrTransport}
    {pending : PendingReceiveBatch} (hstart : start.pendingReceiveBatch = some pending)
    (calls : List ResolveCall) : Handoff start pending (resolveRun order start calls) := by
  refine replay_invariant (P := Handoff start pending) ?_ ?_
  · exact
      { key := rfl
        fresh := fun _ => rfl
        items := fun h => absurd rfl h
        relays := by
          intro batch hbatch entry hentry
          have heq : pending = batch := Option.some.inj (hstart.symm.trans hbatch)
          rw [← heq] at hentry
          exact ⟨entry, hentry, rfl, rfl, fun _ hid => .inl hid⟩
        cursors := fun _ => .inl rfl
        seen := fun _ _ hid => .inl hid }
  · intro state call _ h
    rcases resolveStep_cases order state call with ⟨batch, hbatch, hexact, hstep⟩ | hstep
    · rw [hstep]
      exact h.round hstart hbatch hexact
    · rw [hstep]
      exact h

/-! ### Cursors only move forward -/

/-- The cursors of a transport are at least those of another one. -/
def CursorsFrom (before after : NostrTransport) : Prop :=
  ∀ relay c, before.receiveSinceByRelay relay = some c →
    ∃ c', after.receiveSinceByRelay relay = some c' ∧ c ≤ c'

theorem resolveStep_cursors (order : HashOrder) (state : Answered) (call : ResolveCall) :
    CursorsFrom state.1 (resolveStep order state call).1 := by
  intro relay c hc
  rcases resolveStep_cases order state call with ⟨pending, -, -, hstep⟩ | hstep
  · rw [hstep, resolveRound_cursor]
    have hsince : state.1.receiveSinceForRelay relay call.now = c := by
      rw [NostrTransport.receiveSinceForRelay, hc]
      rfl
    cases accumulated pending.relayCursors relay with
    | none => exact ⟨c, hc, le_refl c⟩
    | some cursor =>
      dsimp only
      split_ifs
      · exact ⟨_, rfl, hsince ▸ le_max_left ..⟩
      · exact ⟨c, hc, le_refl c⟩
  · rw [hstep]
    exact ⟨c, hc, le_refl c⟩

theorem resolveRun_cursors (order : HashOrder) (start : NostrTransport)
    (front back : List ResolveCall) :
    CursorsFrom (resolveRun order start front).1 (resolveRun order start (front ++ back)).1 := by
  rw [resolveRun, resolveRun, replay_append]
  generalize replay (resolveStep order) (start, []) front = middle
  refine replay_invariant (P := fun state : Answered => CursorsFrom middle.1 state.1) ?_ ?_
  · exact fun _ c hc => ⟨c, hc, le_refl c⟩
  · intro state call _ h relay c hc
    obtain ⟨c', hc', hle⟩ := h relay c hc
    obtain ⟨c'', hc'', hle'⟩ := resolveStep_cursors order state call relay c' hc'
    exact ⟨c'', hc'', hle.trans hle'⟩

/-- **The handoff of a pending batch.**  A call is accepted exactly when it names the batch and
    answers each item once and as the item allows; otherwise nothing changes.  Over any
    sequence of calls a cursor moves only when all the events the relay contributed have got a
    terminal answer, cursors never decrease, only terminal ids are seen, and what is on hand
    are the items of the batch whose last answer is a retry. -/
theorem resolvedOnce (order : HashOrder) (transport : NostrTransport)
    (pending : PendingReceiveBatch) :
    (∀ state now batchId resolutions,
      ((∃ batch, state.pendingReceiveBatch = some batch ∧ Exact batch batchId resolutions) ↔
        (resolveReceiveBatch order now state batchId resolutions).1 = .ok ()) ∧
      (∀ error, (resolveReceiveBatch order now state batchId resolutions).1 = .error error →
        (resolveReceiveBatch order now state batchId resolutions).2 = state)) ∧
    ∀ calls, let start := { transport with pendingReceiveBatch := some pending }
      let state := resolveRun order start calls
      (state.1.pendingItems = if state.2 = [] then pending.batch.items else
        pending.batch.items.filter fun item =>
          decide (latestDisposition state.2 item.eventId = some .retry)) ∧
      (∀ relay, CursorEarned start pending state.2 state.1 relay) ∧
      (∀ front back, calls = front ++ back →
        CursorsFrom (resolveRun order start front).1 state.1) ∧
      (∀ key id, id ∈ state.1.seenEventIds key → id ∈ start.seenEventIds key ∨
        key = start.publicKey ∧ TerminalIn state.2 id) := by
  constructor
  · intro state now batchId resolutions
    rcases resolveReceiveBatch_cases order now state batchId resolutions with
      ⟨batch, hbatch, hexact, hresolve⟩ | ⟨hrefused, hresolve⟩
    · rw [hresolve]
      exact ⟨⟨fun _ => rfl, fun _ => ⟨batch, hbatch, hexact⟩⟩, fun _ h => nomatch h⟩
    · rw [hresolve]
      refine ⟨⟨fun ⟨batch, hbatch, hexact⟩ => absurd hexact (hrefused batch hbatch), ?_⟩,
        fun _ _ => rfl⟩
      exact fun h => nomatch h
  · intro calls start state
    have hrun := @resolveRun_handoff order start pending rfl calls
    refine ⟨?_, hrun.cursors, ?_, hrun.seen⟩
    · by_cases hrounds : state.2 = []
      · rw [if_pos hrounds]
        show NostrTransport.pendingItems (resolveRun order start calls).1 = _
        rw [hrun.fresh hrounds]
        rfl
      · rw [if_neg hrounds]
        exact hrun.items hrounds
    · rintro front back rfl
      exact resolveRun_cursors order start front back

end Nostr

end Hivra
