import Hivra.Ffi.BreakFilter
import Mathlib.Data.List.AList

namespace Hivra

open ByteString Replay

/-!
# Breaks that wait for their delivery

Local breaks are delivered again until something later about their key settles them.  The
pending deliveries are rebuilt from the ledger each time, in one pass over two maps by key.
-/

/-- A delivery of a local break that is to be tried again. -/
structure PendingOutgoingRelationshipBreakDelivery where
  eventId : Bytes 32
  toPubkey : PubKey
  peerStarterId : StarterId
  localRootPubkey : PubKey
  timestamp : UInt64
  deriving DecidableEq

/-- What the delivery of a break takes from the establishment of its key. -/
structure RelationshipBreakRetryAnchor where
  peerStarterId : StarterId
  deriving DecidableEq

/-- The two maps of the pass. -/
structure BreakRetries where
  latestEstablished : AList fun _ : RelationshipKey => RelationshipBreakRetryAnchor
  pending : AList fun _ : RelationshipKey => PendingOutgoingRelationshipBreakDelivery

section Pass

variable (sha256 : Sha256) (localRootPubkey : PubKey)

/-- The loop body of the pass. -/
def breakRetryStep (retries : BreakRetries) (event : Event) : BreakRetries :=
  match event.kind with
  | .relationshipEstablished =>
    match RelationshipEstablishedPayload.fromBytes event.payload with
    | .error _ => retries
    | .ok payload =>
      let key : RelationshipKey := ⟨payload.peerPubkey, payload.ownStarterId⟩
      -- A later establishment supersedes an older unconfirmed break of the key.
      { latestEstablished := retries.latestEstablished.insert key ⟨payload.peerStarterId⟩
        pending := retries.pending.erase key }
  | .relationshipBroken =>
    match RelationshipBrokenPayload.fromBytes event.payload with
    | .error _ => retries
    | .ok payload =>
      let key : RelationshipKey := ⟨payload.peerPubkey, payload.ownStarterId⟩
      if event.signer = localRootPubkey then
        match retries.latestEstablished.lookup key with
        | none => retries
        | some anchor =>
          { retries with pending := retries.pending.insert key {
              eventId := event.eventId sha256
              toPubkey := payload.peerPubkey
              peerStarterId := anchor.peerStarterId
              localRootPubkey := localRootPubkey
              timestamp := event.timestamp } }
      -- An acknowledgement of the other side ends the retries.
      else { retries with pending := retries.pending.erase key }
  | _ => retries

/-- The pass over a list of events. -/
def breakRetries (events : List Event) : BreakRetries :=
  replay (breakRetryStep sha256 localRootPubkey) ⟨∅, ∅⟩ events

/-- The order in which deliveries are tried. -/
def PendingOutgoingRelationshipBreakDelivery.before
    (a b : PendingOutgoingRelationshipBreakDelivery) : Bool :=
  ((compare a.timestamp b.timestamp).then
    ((compare a.toPubkey.bytes.toList b.toPubkey.bytes.toList).then
      ((compare a.eventId.toList b.eventId.toList).then
        (compare a.peerStarterId.bytes.toList b.peerStarterId.bytes.toList)))).isLE

end Pass

/-- The breaks that are sent again. -/
def pendingOutgoingRelationshipBreakDeliveriesInRuntime (sha256 : Sha256) (state : RuntimeState)
    (localTransportPubkey : PubKey) : List PendingOutgoingRelationshipBreakDelivery :=
  match state.capsule with
  | none => []
  | some capsule =>
    let pending := (breakRetries sha256 capsule.pubkey capsule.ledger.events).pending
    ((pending.entries.map Sigma.snd).filter fun delivery =>
      delivery.toPubkey != localTransportPubkey).mergeSort
        PendingOutgoingRelationshipBreakDelivery.before

/-- The delivery of a break is among the pending ones. -/
def BreakPending (sha256 : Sha256) (state : RuntimeState) (localTransportPubkey : PubKey)
    (event : Event) (key : RelationshipKey) : Prop :=
  ∃ delivery ∈ pendingOutgoingRelationshipBreakDeliveriesInRuntime sha256 state
      localTransportPubkey,
    delivery.eventId = event.eventId sha256 ∧ delivery.toPubkey = key.peerPubkey ∧
      delivery.timestamp = event.timestamp

/-- The event is about the key. -/
def AboutKey (event : Event) (key : RelationshipKey) : Prop :=
  FilterEstablishes event key ∨ FilterBreaks event key

instance (event : Event) (key : RelationshipKey) : Decidable (AboutKey event key) := by
  unfold AboutKey
  infer_instance

/-! ### One event -/

section Step

variable {sha256 : Sha256} {localRootPubkey : PubKey} {key : RelationshipKey} {event : Event}

/-- An event about another key leaves this one alone. -/
theorem breakRetryStep_of_other (h : ¬ AboutKey event key) (retries : BreakRetries) :
    (breakRetryStep sha256 localRootPubkey retries event).latestEstablished.lookup key
        = retries.latestEstablished.lookup key ∧
      (breakRetryStep sha256 localRootPubkey retries event).pending.lookup key
        = retries.pending.lookup key := by
  unfold AboutKey FilterEstablishes FilterBreaks relationshipKeyFromEstablishedPayload
    relationshipKeyFromBrokenPayload at h
  unfold breakRetryStep
  split
  · rename_i hkind
    cases hparse : RelationshipEstablishedPayload.fromBytes event.payload with
    | error _ => exact ⟨rfl, rfl⟩
    | ok payload =>
      have hne : key ≠ ⟨payload.peerPubkey, payload.ownStarterId⟩ := by
        rintro rfl
        exact h (Or.inl ⟨hkind, by rw [hparse]⟩)
      exact ⟨AList.lookup_insert_ne hne, AList.lookup_erase_ne hne⟩
  · rename_i hkind
    cases hparse : RelationshipBrokenPayload.fromBytes event.payload with
    | error _ => exact ⟨rfl, rfl⟩
    | ok payload =>
      have hne : key ≠ ⟨payload.peerPubkey, payload.ownStarterId⟩ := by
        rintro rfl
        exact h (Or.inr ⟨hkind, by rw [hparse]⟩)
      dsimp only
      split_ifs
      · split
        · exact ⟨rfl, rfl⟩
        · exact ⟨rfl, AList.lookup_insert_ne hne⟩
      · exact ⟨rfl, AList.lookup_erase_ne hne⟩
  · exact ⟨rfl, rfl⟩

/-- A key that was established keeps an anchor. -/
theorem breakRetryStep_anchor (retries : BreakRetries)
    (h : FilterEstablishes event key ∨ retries.latestEstablished.lookup key ≠ none) :
    (breakRetryStep sha256 localRootPubkey retries event).latestEstablished.lookup key ≠ none := by
  unfold FilterEstablishes relationshipKeyFromEstablishedPayload at h
  unfold breakRetryStep
  split
  · rename_i hkind
    cases hparse : RelationshipEstablishedPayload.fromBytes event.payload with
    | error _ =>
      rw [hparse] at h
      exact h.resolve_left (by simp)
    | ok payload =>
      rw [hparse] at h
      by_cases hkey : key = ⟨payload.peerPubkey, payload.ownStarterId⟩
      · rw [hkey]
        simp [AList.lookup_insert]
      · rw [AList.lookup_insert_ne hkey]
        rcases h with ⟨-, hsame⟩ | hold
        · exact absurd (Option.some.inj hsame).symm hkey
        · exact hold
  · rename_i hkind
    have hold := h.resolve_left (by simp [hkind])
    split
    · exact hold
    · dsimp only
      split_ifs
      · split <;> exact hold
      · exact hold
  · exact h.resolve_left (by simp_all)

/-- A local break of an established key is pending. -/
theorem breakRetryStep_local {retries : BreakRetries} (hbreak : FilterBreaks event key)
    (hsigner : event.signer = localRootPubkey)
    (hanchor : retries.latestEstablished.lookup key ≠ none) :
    ∃ delivery, (breakRetryStep sha256 localRootPubkey retries event).pending.lookup key
        = some delivery ∧ delivery.eventId = event.eventId sha256 ∧
      delivery.toPubkey = key.peerPubkey ∧ delivery.timestamp = event.timestamp := by
  obtain ⟨hkind, hkey⟩ := hbreak
  unfold relationshipKeyFromBrokenPayload at hkey
  unfold breakRetryStep
  rw [hkind]
  dsimp only
  cases hparse : RelationshipBrokenPayload.fromBytes event.payload with
  | error _ =>
    rw [hparse] at hkey
    cases hkey
  | ok payload =>
    rw [hparse] at hkey
    obtain rfl := Option.some.inj hkey
    obtain ⟨anchor, hanchor⟩ := Option.ne_none_iff_exists'.mp hanchor
    dsimp only
    rw [if_pos hsigner, hanchor]
    exact ⟨_, AList.lookup_insert _, rfl, rfl, rfl⟩

end Step

/-! ### Many events -/

section Pass

variable {sha256 : Sha256} {localRootPubkey : PubKey} {key : RelationshipKey}

/-- A key has an anchor behind its first establishment. -/
theorem breakRetries_anchor {events : List Event}
    (h : ∃ event ∈ events, FilterEstablishes event key) :
    (breakRetries sha256 localRootPubkey events).latestEstablished.lookup key ≠ none := by
  unfold breakRetries
  induction events using List.reverseRecOn with
  | nil => simp at h
  | append_singleton events last ih =>
    rw [replay_snoc]
    apply breakRetryStep_anchor
    obtain ⟨event, hevent, hestablishes⟩ := h
    rcases List.mem_append.mp hevent with hold | hlast
    · exact Or.inr (ih ⟨event, hold, hestablishes⟩)
    · rw [List.mem_singleton.mp hlast] at hestablishes
      exact Or.inl hestablishes

/-- Events about other keys leave what is pending under this one. -/
theorem lookup_pending_of_quiet {events : List Event} (h : ∀ event ∈ events, ¬ AboutKey event key)
    (retries : BreakRetries) :
    (replay (breakRetryStep sha256 localRootPubkey) retries events).pending.lookup key
      = retries.pending.lookup key := by
  refine replay_invariant (P := fun after : BreakRetries =>
    after.pending.lookup key = retries.pending.lookup key) rfl ?_
  intro after event hevent hkept
  rw [(breakRetryStep_of_other (h event hevent) after).2]
  exact hkept

/-- A local break of an established key is pending as long as nothing follows about its key. -/
theorem breakPending_of_quiet {state : RuntimeState} {capsule : Capsule} {event : Event}
    {front back : List Event} {localTransportPubkey : PubKey}
    (hcapsule : state.capsule = some capsule)
    (hevents : capsule.ledger.events = front ++ [event] ++ back) (hbreak : FilterBreaks event key)
    (hsigner : event.signer = capsule.pubkey)
    (hestablished : ∃ earlier ∈ front, FilterEstablishes earlier key)
    (haddressed : key.peerPubkey ≠ localTransportPubkey)
    (hquiet : ∀ later ∈ back, ¬ AboutKey later key) :
    BreakPending sha256 state localTransportPubkey event key := by
  obtain ⟨delivery, hlookup, hid, hto, hat⟩ := @breakRetryStep_local sha256 capsule.pubkey key event
    _ hbreak hsigner (breakRetries_anchor hestablished)
  have hpending : (breakRetries sha256 capsule.pubkey capsule.ledger.events).pending.lookup key
      = some delivery := by
    unfold breakRetries
    rw [hevents, replay_append, lookup_pending_of_quiet hquiet, replay_snoc]
    exact hlookup
  refine ⟨delivery, ?_, hid, hto, hat⟩
  unfold pendingOutgoingRelationshipBreakDeliveriesInRuntime
  rw [hcapsule]
  dsimp only
  rw [List.mem_mergeSort, List.mem_filter]
  refine ⟨List.mem_map.mpr ⟨⟨key, delivery⟩, AList.mem_lookup_iff.mp hpending, rfl⟩, ?_⟩
  rw [hto]
  simpa using haddressed

end Pass

/-! ### Deliveries in between -/

/-- A key whose last event broke it stays inactive up to the next establishment. -/
theorem keyActive_of_quiet {key : RelationshipKey} {event : Event} {front back : List Event}
    (hbreak : FilterBreaks event key) (hquiet : ∀ later ∈ back, ¬ AboutKey later key) :
    replay (keyActiveStep key) false (front ++ [event] ++ back) = false := by
  have hnew : ¬ FilterEstablishes event key := by
    intro hestablishes
    exact absurd (hestablishes.1.symm.trans hbreak.1) (by simp)
  rw [replay_append, replay_snoc]
  refine replay_invariant (P := fun active : Bool => active = false) ?_ ?_
  · rw [keyActiveStep, if_neg hnew, if_pos hbreak]
  · intro active later hlater hactive
    have hother := hquiet later hlater
    rw [AboutKey, not_or] at hother
    rw [keyActiveStep, if_neg hother.1, if_neg hother.2]
    exact hactive

/-- A break of an inactive key does not pass the filter. -/
theorem skip_of_inactive {state : RuntimeState} {payload : List UInt8} {key : RelationshipKey}
    (hkey : relationshipKeyFromBrokenPayload payload = some key)
    (hinactive : relationshipKeyIsActiveInRuntime state key = false) (signer : PubKey)
    (timestamp : UInt64) :
    shouldSkipIncomingDeliveryAppendWithTimestamp state .relationshipBroken payload signer
      (some timestamp) = true := by
  unfold relationshipKeyFromBrokenPayload at hkey
  have hskip : shouldSkipIncomingDeliveryAppendWithTimestamp state .relationshipBroken payload signer
      (some timestamp) = skipRelationshipBroken state payload signer
        (some (normalizeDeliveryTimestamp timestamp)) := by
    unfold shouldSkipIncomingDeliveryAppendWithTimestamp
    simp
  rw [hskip]
  unfold skipRelationshipBroken
  cases hparse : RelationshipBrokenPayload.fromBytes payload with
  | error _ => rfl
  | ok broken =>
    rw [hparse] at hkey
    obtain rfl := Option.some.inj hkey
    dsimp only
    rw [hinactive]
    split_ifs <;> rfl

section Calls

variable {Seed : Type} {platform : Platform Seed}

/-- **A delivery appends no break of a key that is broken already.** -/
theorem receive_adds_no_break {state : RuntimeState} {key : RelationshipKey} {new : List Event}
    (hinactive : relationshipKeyIsActiveInRuntime state key = false)
    {outside : IngressOutside Seed} {seed : Seed} {localPubkey : PubKey}
    {counters : IngressCounters} {message : DeliveryEnvelope}
    (hgrows : StateGrows state ((RuntimeCall.receive outside seed localPubkey counters
      message).apply platform state) new) : ∀ event ∈ new, ¬ FilterBreaks event key := by
  have hevents := hgrows.events
  -- the effect of a delivery is no break
  have heffect : ∀ {kind : EventKind} {middle : RuntimeState}, ∃ more,
      (deliveryEffect platform seed outside.effect message kind middle).events
        = middle.events ++ more ∧ ∀ event ∈ more, ¬ FilterBreaks event key := by
    intro kind middle
    rcases deliveryEffect_cases platform seed outside.effect message kind middle with
      ⟨-, hmore⟩ | ⟨added, hadded, hmore⟩
    · exact ⟨[], hmore.events, by simp⟩
    · refine ⟨[added], hmore.events, ?_⟩
      intro event hevent hbreak
      rw [List.mem_singleton.mp hevent] at hbreak
      rcases hadded with ⟨-, -, hkind, -⟩ | ⟨-, -, hkind, -⟩ <;>
        exact absurd (hkind.symm.trans hbreak.1) (by simp)
  rcases routeInboundEnvelope_cases platform seed localPubkey outside message counters state with
    ⟨-, hsame⟩ | ⟨kind, event, hdelivered, ⟨-, hskipped⟩ | ⟨-, -, hsame⟩ |
      ⟨hpassed, -, middle, stored, hmiddle, hkind, hpayload, -, hstate⟩⟩
  · have hnew : new = [] := by
      rw [RuntimeCall.apply, hsame] at hevents
      simpa using hevents
    simp [hnew]
  · obtain ⟨more, hmore, hnone⟩ := @heffect kind state
    rw [RuntimeCall.apply, hskipped, hmore] at hevents
    rwa [← List.append_cancel_left hevents]
  · have hnew : new = [] := by
      have hstay := (StateGrows.of_capsule_eq hsame).events
      rw [RuntimeCall.apply, hstay] at hevents
      simpa using hevents
    simp [hnew]
  · obtain ⟨more, hmore, hnone⟩ := @heffect kind middle
    rw [RuntimeCall.apply, hstate, hmore, hmiddle.events, List.append_assoc] at hevents
    rw [← List.append_cancel_left hevents]
    intro other hother
    rcases List.mem_append.mp hother with hstored | hlater
    · -- the delivered event itself: had it broken the key, the filter would have skipped it
      rw [List.mem_singleton.mp hstored]
      rintro ⟨hbroken, hkey⟩
      apply hpassed
      unfold Skipped
      rw [← hkind, hbroken, ← hpayload]
      exact skip_of_inactive hkey hinactive _ _
    · exact hnone other hlater

/-- The event settles the retries of a key: it establishes it again, or breaks it for the owner
    or for the peer of the relationship. -/
def Settles (localTransport : Option PubKey) (owner : PubKey) (events : List Event) (event : Event)
    (key : RelationshipKey) : Prop :=
  FilterEstablishes event key ∨ FilterBreaks event key ∧ (event.signer = owner ∨
    ∃ broken current, breakOf event = some broken ∧
      relationshipAt (.ofEvents owner events) localTransport (key.peerPubkey, key.ownStarterId)
        = some current ∧
      PeerSigner broken event current.peerPubkey current.peerRootPubkey)

/-- Some event of a list settles the retries of a key, at its place behind `events`. -/
def SettledIn (localTransport : Option PubKey) (owner : PubKey) (events new : List Event)
    (key : RelationshipKey) : Prop :=
  ∃ before event after, new = before ++ event :: after ∧
    Settles localTransport owner (events ++ before) event key

/-- A call of the user appends no break of the key that does not settle its retries: it signs
    with the key of the capsule, or with that of the peer. -/
def OwnBreaks (platform : Platform Seed) (localTransport : Option PubKey) (key : RelationshipKey)
    (state : RuntimeState) (call : RuntimeCall Seed) : Prop :=
  (∃ outside seed localPubkey counters message,
    call = .receive outside seed localPubkey counters message) ∨
  ∀ capsule before event after, state.capsule = some capsule →
    StateGrows state (call.apply platform state) (before ++ event :: after) →
    FilterBreaks event key →
    Settles localTransport capsule.pubkey (capsule.ledger.events ++ before) event key

/-- The first event about the key. -/
theorem exists_first_about (new : List Event) (key : RelationshipKey) :
    (∀ event ∈ new, ¬ AboutKey event key) ∨
      ∃ before event after, new = before ++ event :: after ∧ AboutKey event key := by
  by_cases h : ∀ event ∈ new, ¬ AboutKey event key
  · exact Or.inl h
  · simp only [not_forall, not_not] at h
    obtain ⟨event, hevent, habout⟩ := h
    obtain ⟨before, after, rfl⟩ := List.append_of_mem hevent
    exact Or.inr ⟨before, event, after, rfl, habout⟩

/-- **Step rule.** Behind a local break one more call is quiet about the key or settles it. -/
theorem call_quiet_or_settles {localTransport : Option PubKey} {key : RelationshipKey}
    {state : RuntimeState} {capsule : Capsule} {call : RuntimeCall Seed} {new : List Event}
    (hcapsule : state.capsule = some capsule)
    (hinactive : replay (keyActiveStep key) false capsule.ledger.events = false)
    (hcall : OwnBreaks platform localTransport key state call)
    (hgrows : StateGrows state (call.apply platform state) new) :
    (∀ event ∈ new, ¬ AboutKey event key) ∨
      SettledIn localTransport capsule.pubkey capsule.ledger.events new key := by
  rcases exists_first_about new key with hquiet | ⟨before, event, after, rfl, habout⟩
  · exact Or.inl hquiet
  refine Or.inr ⟨before, event, after, rfl, ?_⟩
  rcases habout with hestablishes | hbreak
  · exact Or.inl hestablishes
  rcases hcall with ⟨outside, seed, localPubkey, counters, message, rfl⟩ | hown
  · have hstate : relationshipKeyIsActiveInRuntime state key = false := by
      rw [relationshipKeyIsActiveInRuntime_eq, RuntimeState.events, hcapsule]
      exact hinactive
    exact absurd hbreak (receive_adds_no_break hstate hgrows event (by simp))
  · exact hown capsule before event after hcapsule hgrows hbreak

/-- **A local break stays pending.**  Behind a break the owner signed, of a key that an event
    the pass can read has established, any run leaves the delivery pending or has settled it. -/
theorem local_break_stays_pending {sha256 : Sha256} {localTransport : Option PubKey}
    {localTransportPubkey : PubKey} {key : RelationshipKey} {state : RuntimeState}
    {capsule : Capsule} {front : List Event} {event : Event} {calls : List (RuntimeCall Seed)}
    (hcapsule : state.capsule = some capsule)
    (hevents : capsule.ledger.events = front ++ [event]) (hbreak : FilterBreaks event key)
    (hsigner : event.signer = capsule.pubkey) (haddressed : key.peerPubkey ≠ localTransportPubkey)
    (hestablished : ∃ earlier ∈ front, FilterEstablishes earlier key)
    (hcalls : Along (RuntimeCall.apply platform) (OwnBreaks platform localTransport key) state
      calls) :
    ∃ new, StateGrows state (runCalls platform state calls) new ∧
      (BreakPending sha256 (runCalls platform state calls) localTransportPubkey event key ∨
        SettledIn localTransport capsule.pubkey (front ++ [event]) new key) := by
  have hrun : ∃ new, StateGrows state (runCalls platform state calls) new ∧
      ((∀ later ∈ new, ¬ AboutKey later key) ∨
        SettledIn localTransport capsule.pubkey (front ++ [event]) new key) := by
    refine along_invariant (P := fun after : RuntimeState => ∃ new, StateGrows state after new ∧
      ((∀ later ∈ new, ¬ AboutKey later key) ∨
        SettledIn localTransport capsule.pubkey (front ++ [event]) new key)) hcalls
      ⟨[], .of_capsule_eq rfl, by simp⟩ ?_
    rintro middle call ⟨new, hnew, hsofar⟩ hcall
    obtain ⟨more, hmore⟩ := exists_stateGrows platform middle call
    refine ⟨new ++ more, hnew.trans hmore, ?_⟩
    rcases hsofar with hquiet | ⟨before, settling, after, hsplit, hsettles⟩
    · rcases hnew with ⟨hnone, -, -⟩ | @⟨first, now, hfirst, hnow, hgrown⟩
      · rw [hcapsule] at hnone
        cases hnone
      obtain rfl := Option.some.inj (hcapsule.symm.trans hfirst)
      have hledger : now.ledger.events = front ++ [event] ++ new := by rw [hgrown.events, hevents]
      have hinactive : replay (keyActiveStep key) false now.ledger.events = false := by
        rw [hledger]
        exact keyActive_of_quiet hbreak hquiet
      rcases call_quiet_or_settles hnow hinactive hcall hmore with
        hstill | ⟨before, settling, after, hsplit, hsettles⟩
      · refine Or.inl fun later hlater => ?_
        rcases List.mem_append.mp hlater with hold | hlast
        · exact hquiet later hold
        · exact hstill later hlast
      · refine Or.inr ⟨new ++ before, settling, after, by rw [hsplit, List.append_assoc], ?_⟩
        rw [hledger, hgrown.pubkey, List.append_assoc] at hsettles
        exact hsettles
    · exact Or.inr ⟨before, settling, after ++ more, by rw [hsplit]; simp, hsettles⟩
  obtain ⟨new, hnew, hquiet | hsettled⟩ := hrun
  · refine ⟨new, hnew, Or.inl ?_⟩
    rcases hnew with ⟨hnone, -, -⟩ | @⟨first, now, hfirst, hnow, hgrown⟩
    · rw [hcapsule] at hnone
      cases hnone
    obtain rfl := Option.some.inj (hcapsule.symm.trans hfirst)
    exact breakPending_of_quiet hnow (by rw [hgrown.events, hevents]) hbreak
      (hsigner.trans hgrown.pubkey.symm) hestablished haddressed hquiet
  · exact ⟨new, hnew, Or.inr hsettled⟩

end Calls

/-! ### An early establishment -/

/-- An early establishment of the pair, with its 97 bytes. -/
def recordEarlyPair : RuntimeCall (PubKey × PubKey) :=
  .ledgerAppendEvent ⟨some suppressedSeed, suppressedOutside 100⟩ 7
    (some (suppressedKey.1.bytes.toList ++ suppressedKey.2.bytes.toList ++
      (fill 32 4 : Bytes 32).toList ++ [StarterKind.juice.toByte]))

/-- The owner breaks the pair. -/
def breakPair (clock : UInt64) : RuntimeCall (PubKey × PubKey) :=
  .breakRelationship ⟨some suppressedSeed, suppressedOutside clock⟩ (some suppressedKey.1)
    (some suppressedKey.2) (some ⟨fill 32 4⟩)

/-- The capsule with the early relationship, and behind the owner's break. -/
def earlyPairState : RuntimeState := runCalls samplePlatform unrelatedState [recordEarlyPair]

def earlyBrokenState : RuntimeState := runCalls samplePlatform earlyPairState [breakPair 200]

/-- **A break of an early relationship is not delivered.**  The core shows the relationship,
    the owner breaks it, and the pass, which does not read the early form, has nothing to
    deliver. -/
theorem early_break_not_pending :
    (earlyPairState.capsule.bind fun capsule =>
        relationshipStatus capsule.ledger (some suppressedSeed.2) suppressedKey) = some "active" ∧
      (earlyBrokenState.capsule.bind fun capsule =>
        relationshipStatus capsule.ledger (some suppressedSeed.2) suppressedKey) = some "broken" ∧
      earlyBrokenState.events.map Event.signer = [suppressedSeed.1, suppressedSeed.1] ∧
      ∀ event key, ¬ BreakPending sampleDigest earlyBrokenState suppressedSeed.2 event key := by
  refine ⟨?_, ?_, by decide +kernel, ?_⟩
  · simp only [relationshipStatus_eq]
    decide +kernel
  · simp only [relationshipStatus_eq]
    decide +kernel
  · rintro event key ⟨delivery, hdelivery, -⟩
    have hnone : earlyBrokenState.capsule.map (fun capsule =>
        (breakRetries sampleDigest capsule.pubkey capsule.ledger.events).pending.entries.length)
        = some 0 := by decide +kernel
    obtain ⟨capsule, hcapsule, hempty⟩ := Option.map_eq_some_iff.mp hnone
    unfold pendingOutgoingRelationshipBreakDeliveriesInRuntime at hdelivery
    rw [hcapsule] at hdelivery
    dsimp only at hdelivery
    rw [List.mem_mergeSort, List.length_eq_zero_iff.mp hempty] at hdelivery
    simp at hdelivery

/-- The pair, and the owner's break of it. -/
def brokenPairState : RuntimeState :=
  runCalls samplePlatform unrelatedState [recordPair 1700000000100, breakPair 1700000000200]

/-- A stranger's break behind the owner's leaves the delivery pending. -/
theorem local_break_stays_pending_stranger :
    ∃ event ∈ brokenPairState.events, BreakPending sampleDigest
      (runCalls samplePlatform brokenPairState [deliverRootBreak ⟨fill 32 13⟩ 1700000000300])
      suppressedSeed.2 event (filterKey suppressedKey) := by
  have hlast : brokenPairState.events = brokenPairState.events.dropLast ++
      [brokenPairState.events.getLastD recordedPair] := by decide +kernel
  refine ⟨brokenPairState.events.getLastD recordedPair, by rw [hlast]; simp, ?_⟩
  obtain ⟨capsule, hcapsule⟩ := Option.isSome_iff_exists.mp
    (show brokenPairState.capsule.isSome = true by decide +kernel)
  have hledger : brokenPairState.events = capsule.ledger.events := by
    rw [RuntimeState.events, hcapsule]
  have howner : brokenPairState.capsule.map Capsule.pubkey = some suppressedSeed.1 := by
    decide +kernel
  rw [hcapsule] at howner
  obtain ⟨new, hnew, hpending | ⟨before, event, after, hsplit, -⟩⟩ :=
    @local_break_stays_pending _ samplePlatform sampleDigest (some suppressedSeed.2)
      suppressedSeed.2 (filterKey suppressedKey) brokenPairState capsule
      brokenPairState.events.dropLast (brokenPairState.events.getLastD recordedPair)
      [deliverRootBreak ⟨fill 32 13⟩ 1700000000300] hcapsule (hledger.symm.trans hlast)
      (by decide +kernel) (by
        rw [Option.some.inj howner]
        decide +kernel) (by decide +kernel) (by decide +kernel)
      ⟨Or.inl ⟨_, _, _, _, _, rfl⟩, trivial⟩
  · exact hpending
  · -- the stranger's break is skipped
    have hsame : (runCalls samplePlatform brokenPairState
        [deliverRootBreak ⟨fill 32 13⟩ 1700000000300]).events = brokenPairState.events ++ [] := by
      decide +kernel
    rw [hnew.events, List.append_cancel_left_eq, hsplit] at hsame
    exact absurd hsame (by simp)

end Hivra
