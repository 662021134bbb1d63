import Hivra.Core.Ledger
import Hivra.Core.StarterPayloads

namespace Hivra

open ByteString

/-!
# The runtime of the host interface

The one capsule held in memory, the engine that prepares and signs its events, and the
three ways an event gets into its ledger.  What comes from outside the repository
(digest, signatures, key derivation) is a `Platform`; what the outside answers during
one call (the stored seed, the wall clock) is an `Outside`.

* `appendVerifiedRuntimeEvent_cases`, `appendPreparedEvent_cases` — an append either
  leaves the capsule alone or adds one event.
-/

/-- The cryptography the engine is injected with. -/
structure Platform (Seed : Type) where
  sha256 : Sha256
  verify : Bytes 32 → PubKey → Signature → Bool
  seedBytes : Seed → List UInt8
  rootPublicKey : Seed → Option PubKey
  nostrPublicKey : Seed → Option PubKey
  sign : Seed → Bytes 32 → Option Signature

/-- A small platform for worked examples: a seed is a root and a transport key, and a
    signature is the signed id with the root key behind it. -/
def samplePlatform : Platform (PubKey × PubKey) where
  sha256 := sampleDigest
  verify id key signature := signature.bytes.toList == id.toList ++ key.bytes.toList
  seedBytes seed := seed.1.bytes.toList ++ seed.2.bytes.toList
  rootPublicKey seed := some seed.1
  nostrPublicKey seed := some seed.2
  sign seed id := some ⟨⟨id.toList ++ seed.1.bytes.toList, by simp⟩⟩

/-- What the seed store and the wall clock answer during one call; a clock before the
    epoch reads as nothing. -/
structure Outside (Seed : Type) where
  loadSeed : Option Seed
  clock : Option UInt64

/-- The capsule in memory.  Its key is that of the ledger's owner: it is created with
    such a ledger, and an import is refused for any other owner. -/
structure Capsule where
  network : Network
  ledger : Ledger
  deriving DecidableEq

/-- The key of the capsule. -/
def Capsule.pubkey (capsule : Capsule) : PubKey := capsule.ledger.owner

/-- The process-wide state: the capsule and the last timestamp handed out. -/
structure RuntimeState where
  capsule : Option Capsule
  lastEngineTsMs : UInt64
  deriving DecidableEq

/-- Saturating successor of a timestamp. -/
def saturatingSucc (value : UInt64) : UInt64 :=
  if value = UInt64.ofNat (2 ^ 64 - 1) then value else value + 1

namespace RuntimeState

/-- The events of the capsule's ledger. -/
def events (state : RuntimeState) : List Event :=
  match state.capsule with
  | some capsule => capsule.ledger.events
  | none => []

/-- Remember a timestamp that was seen. -/
def observeEngineTs (state : RuntimeState) (ts : UInt64) : RuntimeState :=
  { state with lastEngineTsMs := max state.lastEngineTsMs ts }

/-- Replace the ledger of the capsule. -/
def withLedger (state : RuntimeState) (capsule : Capsule) (ledger : Ledger) : RuntimeState :=
  { state with capsule := some { capsule with ledger := ledger } }

/-- The time source: never behind the clock, always after the last reading. -/
def now (state : RuntimeState) (clock : Option UInt64) : Timestamp × RuntimeState :=
  let next := max (clock.getD 0) (saturatingSucc state.lastEngineTsMs)
  (next, { state with lastEngineTsMs := next })

@[simp] theorem observeEngineTs_capsule (state : RuntimeState) (ts : UInt64) :
    (state.observeEngineTs ts).capsule = state.capsule := rfl

@[simp] theorem now_capsule (state : RuntimeState) (clock : Option UInt64) :
    (state.now clock).2.capsule = state.capsule := rfl

end RuntimeState

/-! ### The engine -/

/-- The engine over a seed; the version is chosen by the active ledger. -/
structure Engine (Seed : Type) where
  seed : Seed
  domainEventVersion : UInt8

/-- Why the engine cannot prepare an event. -/
inductive EngineError
  | keystore
  | matchingInvitationNotFound
  | noMatchingStarter
  | noEmptySlot
  | invalidAcceptPlan
  deriving DecidableEq

/-- An event ready to append, with the peer it is for. -/
structure PreparedEvent where
  event : Event
  recipient : Option PubKey

section Engine

variable {Seed : Type} (platform : Platform Seed)

/-- The engine for a ledger. -/
def buildEngineForLedger (seed : Seed) (ledger : Ledger) : Engine Seed where
  seed := seed
  domainEventVersion :=
    if ledger.isContinuousV5 then continuousLedgerProtocolVersion else protocolVersion

/-- The engine for the active capsule; without one it prepares v4 events. -/
def buildEngine (state : RuntimeState) (seed : Seed) : Engine Seed :=
  match state.capsule with
  | some capsule => buildEngineForLedger seed capsule.ledger
  | none => { seed := seed, domainEventVersion := protocolVersion }

namespace Engine

/-- The owner's root key. -/
def publicKey (engine : Engine Seed) : Option PubKey := platform.rootPublicKey engine.seed

/-- The unsigned event of the engine's version. -/
def unsignedEvent (engine : Engine Seed) (kind : EventKind) (payload : List UInt8)
    (timestamp : Timestamp) (signer : PubKey) : Except EngineError Event :=
  if engine.domainEventVersion = protocolVersion then
    .ok (.new kind payload timestamp ⟨fill 64 0⟩ signer)
  else if engine.domainEventVersion = continuousLedgerProtocolVersion then
    .ok (.newV5 kind payload timestamp ⟨fill 64 0⟩ signer)
  else
    .error .invalidAcceptPlan

/-- Prepare and sign an event; the time source moves even when signing fails. -/
def prepareEvent (engine : Engine Seed) (state : RuntimeState) (clock : Option UInt64)
    (kind : EventKind) (payload : List UInt8) (recipient : Option PubKey) :
    Except EngineError PreparedEvent × RuntimeState :=
  match engine.publicKey platform with
  | none => (.error .keystore, state)
  | some signer =>
    let (timestamp, state) := state.now clock
    match engine.unsignedEvent kind payload timestamp signer with
    | .error error => (.error error, state)
    | .ok unsigned =>
      match platform.sign engine.seed (unsigned.eventId platform.sha256) with
      | none => (.error .keystore, state)
      | some signature =>
        (.ok { event := { unsigned with signature := signature }, recipient := recipient }, state)

/-- Sign the owner's acceptance of an event into the history. -/
def prepareLedgerEntryV5 (engine : Engine Seed) (sequence : UInt64)
    (previousCommitment : Commitment) (event : Event) : Except EngineError LedgerEntryV5 :=
  match engine.publicKey platform with
  | none => .error .keystore
  | some owner =>
    let unsigned := LedgerEntryV5.unsigned owner sequence previousCommitment event
    match platform.sign engine.seed (unsigned.commitment platform.sha256) with
    | none => .error .keystore
    | some signature => .ok (unsigned.withSignature signature)

/-- Check the signature of an event against a key. -/
def verifyEvent (event : Event) (pubkey : PubKey) : Bool :=
  platform.verify (event.eventId platform.sha256) pubkey event.signature

end Engine

/-! ### Appending to the runtime ledger -/

/-- Attest an event and append it to a v5 ledger. -/
def appendV5Event (engine : Engine Seed) (ledger : Ledger) (event : Event) : Except String Ledger :=
  if ledger.isContinuousV5 = false ∨ event.version ≠ continuousLedgerProtocolVersion then
    .error "v5 ledger event mismatch"
  else
    match ledger.nextSequenceV5 with
    | .error _ => .error "v5 sequence failed"
    | .ok sequence =>
      match ledger.tailCommitmentV5 platform.sha256 with
      | .error _ => .error "v5 tail commitment failed"
      | .ok previous =>
        match engine.prepareLedgerEntryV5 platform sequence previous event with
        | .error _ => .error "failed to sign ledger entry"
        | .ok entry =>
          match ledger.appendV5 platform.sha256 entry with
          | .error _ => .error "v5 append failed"
          | .ok ledger => .ok ledger

/-- The timestamp a v4 ledger gives a remote event. -/
def nextRuntimeTs (ledger : Ledger) (clock : Option UInt64) : UInt64 :=
  let lastPlusOne := match ledger.events.getLast? with
    | some last => saturatingSucc last.timestamp
    | none => 0
  max (clock.getD lastPlusOne) lastPlusOne

/-- Append a remote event after checking its signature.  A v5 ledger keeps the event as
    it is; a v4 ledger gives it a local timestamp. -/
def appendVerifiedRuntimeEvent (outside : Outside Seed) (state : RuntimeState) (event : Event) :
    Except String Unit × RuntimeState :=
  match outside.loadSeed with
  | none => (.error "seed not found", state)
  | some seed =>
    match state.capsule with
    | none => (.error "no capsule", state)
    | some capsule =>
      if Engine.verifyEvent platform event event.signer = false then
        (.error "event signature invalid", state)
      else if capsule.ledger.isContinuousV5 then
        match appendV5Event platform (buildEngineForLedger seed capsule.ledger) capsule.ledger
            event with
        | .error message => (.error message, state)
        | .ok ledger => (.ok (), state.withLedger capsule ledger)
      else
        let nextTs := nextRuntimeTs capsule.ledger outside.clock
        let state := state.observeEngineTs nextTs
        let event := Event.new event.kind event.payload nextTs event.signature event.signer
        match capsule.ledger.append event with
        | .error _ => (.error "append failed", state)
        | .ok ledger => (.ok (), state.withLedger capsule ledger)

/-- Append an event the engine prepared. -/
def appendPreparedEvent (outside : Outside Seed) (state : RuntimeState)
    (prepared : PreparedEvent) : Except String Unit × RuntimeState :=
  match state.capsule with
  | none => (.error "no capsule", state)
  | some capsule =>
    if capsule.ledger.isContinuousV5 then
      match outside.loadSeed with
      | none => (.error "seed not found", state)
      | some seed =>
        match appendV5Event platform (buildEngineForLedger seed capsule.ledger) capsule.ledger
            prepared.event with
        | .error message => (.error message, state)
        | .ok ledger =>
          (.ok (), (state.withLedger capsule ledger).observeEngineTs prepared.event.timestamp)
    else
      match capsule.ledger.append prepared.event with
      | .error _ => (.error "append failed", state)
      | .ok ledger =>
        (.ok (), (state.withLedger capsule ledger).observeEngineTs prepared.event.timestamp)

/-! ### What an append does to the capsule -/

/-- The capsule after events were added to its ledger. -/
structure CapsuleGrows (capsule capsule' : Capsule) (new : List Event) : Prop where
  network : capsule'.network = capsule.network
  pubkey : capsule'.pubkey = capsule.pubkey
  events : capsule'.ledger.events = capsule.ledger.events ++ new

theorem CapsuleGrows.refl (capsule : Capsule) : CapsuleGrows capsule capsule [] :=
  ⟨rfl, rfl, by simp⟩

theorem CapsuleGrows.trans {first second third : Capsule} {new more : List Event}
    (h : CapsuleGrows first second new) (h' : CapsuleGrows second third more) :
    CapsuleGrows first third (new ++ more) :=
  ⟨h'.network.trans h.network, h'.pubkey.trans h.pubkey,
    by rw [h'.events, h.events, List.append_assoc]⟩

/-- The state after a step that adds events to the capsule, if there is one. -/
inductive StateGrows (state state' : RuntimeState) (new : List Event) : Prop
  | noCapsule : state.capsule = none → state'.capsule = none → new = [] →
      StateGrows state state' new
  | capsule {capsule capsule' : Capsule} : state.capsule = some capsule →
      state'.capsule = some capsule' → CapsuleGrows capsule capsule' new →
      StateGrows state state' new

variable {state state' : RuntimeState}

theorem StateGrows.of_capsule_eq (h : state'.capsule = state.capsule) :
    StateGrows state state' [] := by
  cases hc : state.capsule with
  | none => exact .noCapsule hc (h.trans hc) rfl
  | some capsule => exact .capsule hc (h.trans hc) (.refl capsule)

theorem StateGrows.trans {first second third : RuntimeState} {new more : List Event}
    (h : StateGrows first second new) (h' : StateGrows second third more) :
    StateGrows first third (new ++ more) := by
  cases h with
  | noCapsule hfirst hsecond hnew =>
    cases h' with
    | noCapsule _ hthird hmore => exact .noCapsule hfirst hthird (by rw [hnew, hmore]; rfl)
    | capsule hsecond' => rw [hsecond] at hsecond'; cases hsecond'
  | capsule hfirst hsecond hgrows =>
    cases h' with
    | noCapsule hsecond' => rw [hsecond] at hsecond'; cases hsecond'
    | capsule hsecond' hthird hgrows' =>
      obtain rfl := Option.some.inj (hsecond.symm.trans hsecond')
      exact .capsule hfirst hthird (hgrows.trans hgrows')

theorem StateGrows.events {new : List Event} (h : StateGrows state state' new) :
    state'.events = state.events ++ new := by
  cases h with
  | noCapsule h h' hnew => simp [RuntimeState.events, h, h', hnew]
  | capsule h h' hgrows => simp [RuntimeState.events, h, h', hgrows.events]

variable {engine : Engine Seed} {event : Event}

/-- A prepared entry is about the event it was asked for. -/
private theorem prepareLedgerEntryV5_event {sequence : UInt64} {previous : Commitment}
    {entry : LedgerEntryV5}
    (h : engine.prepareLedgerEntryV5 platform sequence previous event = .ok entry) :
    entry.event = event := by
  unfold Engine.prepareLedgerEntryV5 at h
  split at h
  · simp at h
  · dsimp only at h
    split at h
    · simp at h
    · rw [← Except.ok.inj h]
      rfl

variable {ledger ledger' : Ledger}

/-- What a v5 append to the runtime ledger pushes. -/
theorem appendV5Event_entry (h : appendV5Event platform engine ledger event = .ok ledger') :
    ∃ entry, entry.event = event ∧ ledger.appendV5 platform.sha256 entry = .ok ledger' := by
  unfold appendV5Event at h
  split_ifs at h
  split at h
  · cases h
  split at h
  · cases h
  split at h
  · cases h
  rename_i entry hentry
  split at h
  · cases h
  rename_i appended happend
  rw [← Except.ok.inj h]
  exact ⟨entry, prepareLedgerEntryV5_event platform hentry, happend⟩

/-- Everything a successful v5 append to the runtime ledger does. -/
theorem appendV5Event_ok (h : appendV5Event platform engine ledger event = .ok ledger') :
    ledger'.owner = ledger.owner ∧ ledger'.events = ledger.events ++ [event] := by
  obtain ⟨entry, rfl, happend⟩ := appendV5Event_entry platform h
  obtain ⟨continuity, -, -, rfl⟩ := Ledger.appendV5_ok happend
  exact ⟨rfl, rfl⟩

/-- A v4 append adds the event and keeps the owner. -/
theorem append_events (h : ledger.append event = .ok ledger') :
    ledger'.owner = ledger.owner ∧ ledger'.events = ledger.events ++ [event] := by
  obtain ⟨-, -, -, -, rfl⟩ := Ledger.append_ok h
  exact ⟨rfl, rfl⟩

private theorem stateGrows_withLedger {state : RuntimeState} {capsule : Capsule}
    {ledger : Ledger} {new : List Event} (hcapsule : state.capsule = some capsule)
    (h : ledger.owner = capsule.ledger.owner ∧ ledger.events = capsule.ledger.events ++ new) :
    StateGrows state (state.withLedger capsule ledger) new :=
  .capsule hcapsule rfl ⟨rfl, h.1, h.2⟩

/-- A remote event is either refused, and the capsule stays as it is, or its kind,
    payload and signer are added behind a valid signature. -/
theorem appendVerifiedRuntimeEvent_cases (outside : Outside Seed) (state : RuntimeState)
    (event : Event) :
    (∃ message, (appendVerifiedRuntimeEvent platform outside state event).1 = .error message ∧
      (appendVerifiedRuntimeEvent platform outside state event).2.capsule = state.capsule) ∨
    ∃ stored, (appendVerifiedRuntimeEvent platform outside state event).1 = .ok () ∧
      StateGrows state (appendVerifiedRuntimeEvent platform outside state event).2 [stored] ∧
      stored.kind = event.kind ∧ stored.payload = event.payload ∧ stored.signer = event.signer ∧
      Engine.verifyEvent platform event event.signer = true := by
  unfold appendVerifiedRuntimeEvent
  cases outside.loadSeed with
  | none => exact Or.inl ⟨_, rfl, rfl⟩
  | some seed =>
    cases hcapsule : state.capsule with
    | none => exact Or.inl ⟨_, rfl, hcapsule⟩
    | some capsule =>
      dsimp only
      split_ifs with hverify hv5
      · exact Or.inl ⟨_, rfl, hcapsule⟩
      · cases happend : appendV5Event platform (buildEngineForLedger seed capsule.ledger)
            capsule.ledger event with
        | error message => exact Or.inl ⟨_, rfl, hcapsule⟩
        | ok ledger =>
          exact Or.inr ⟨event, rfl,
            stateGrows_withLedger hcapsule (appendV5Event_ok platform happend), rfl, rfl, rfl,
            by simpa using hverify⟩
      · cases happend : capsule.ledger.append (Event.new event.kind event.payload
            (nextRuntimeTs capsule.ledger outside.clock) event.signature event.signer) with
        | error _ => exact Or.inl ⟨_, rfl, hcapsule⟩
        | ok ledger =>
          refine Or.inr ⟨Event.new event.kind event.payload
            (nextRuntimeTs capsule.ledger outside.clock) event.signature event.signer, rfl, ?_,
            rfl, rfl, rfl, by simpa using hverify⟩
          exact .capsule hcapsule rfl ⟨rfl, (append_events happend).1, (append_events happend).2⟩

/-- A prepared event is either refused, and the capsule stays as it is, or added. -/
theorem appendPreparedEvent_cases (outside : Outside Seed) (state : RuntimeState)
    (prepared : PreparedEvent) :
    (∃ message, (appendPreparedEvent platform outside state prepared).1 = .error message ∧
      (appendPreparedEvent platform outside state prepared).2.capsule = state.capsule) ∨
    ((appendPreparedEvent platform outside state prepared).1 = .ok () ∧
      StateGrows state (appendPreparedEvent platform outside state prepared).2
        [prepared.event]) := by
  unfold appendPreparedEvent
  cases hcapsule : state.capsule with
  | none => exact Or.inl ⟨_, rfl, hcapsule⟩
  | some capsule =>
    dsimp only
    split_ifs with hv5
    · cases outside.loadSeed with
      | none => exact Or.inl ⟨_, rfl, hcapsule⟩
      | some seed =>
        dsimp only
        cases happend : appendV5Event platform (buildEngineForLedger seed capsule.ledger)
            capsule.ledger prepared.event with
        | error message => exact Or.inl ⟨_, rfl, hcapsule⟩
        | ok ledger =>
          obtain ⟨howner, hevents⟩ := appendV5Event_ok platform happend
          exact Or.inr ⟨rfl, .capsule hcapsule rfl ⟨rfl, howner, hevents⟩⟩
    · cases happend : capsule.ledger.append prepared.event with
      | error _ => exact Or.inl ⟨_, rfl, hcapsule⟩
      | ok ledger =>
        exact Or.inr ⟨rfl, .capsule hcapsule rfl
          ⟨rfl, (append_events happend).1, (append_events happend).2⟩⟩

/-- Preparing an event leaves the capsule alone. -/
theorem Engine.prepareEvent_capsule (engine : Engine Seed) (state : RuntimeState)
    (clock : Option UInt64) (kind : EventKind) (payload : List UInt8) (recipient : Option PubKey) :
    (engine.prepareEvent platform state clock kind payload recipient).2.capsule
      = state.capsule := by
  unfold Engine.prepareEvent
  split
  · rfl
  · dsimp only
    split
    · rfl
    · split <;> rfl

/-- A prepared event carries what was asked for and the engine's own key. -/
theorem Engine.prepareEvent_ok {state : RuntimeState} {clock : Option UInt64} {kind : EventKind}
    {payload : List UInt8} {recipient : Option PubKey} {prepared : PreparedEvent}
    (h : (engine.prepareEvent platform state clock kind payload recipient).1 = .ok prepared) :
    prepared.event.kind = kind ∧ prepared.event.payload = payload ∧
      engine.publicKey platform = some prepared.event.signer := by
  unfold Engine.prepareEvent at h
  cases hkey : engine.publicKey platform with
  | none => simp [hkey] at h
  | some signer =>
    simp only [hkey] at h
    unfold Engine.unsignedEvent at h
    split_ifs at h
    · dsimp only at h
      split at h
      · simp at h
      · rw [← Except.ok.inj h]
        exact ⟨rfl, rfl, rfl⟩
    · dsimp only at h
      split at h
      · simp at h
      · rw [← Except.ok.inj h]
        exact ⟨rfl, rfl, rfl⟩

end Engine

end Hivra
