import Hivra.Ffi.SoundLedger

namespace Hivra

open ByteString

/-!
# The time of local events

The time source hands out the wall clock, or one more than the last timestamp it has seen.
It sees the timestamps of local appends and of the tail of an imported ledger, and it
saturates at the last 64-bit value; a process restart forgets all of it.

* `readyAlong_iff` — which steps of a run keep it so.
-/

section Time

variable {Seed : Type} (platform : Platform Seed)

/-- The last 64-bit timestamp; behind it the time source stands still. -/
def lastTimestamp : UInt64 := UInt64.ofNat (2 ^ 64 - 1)

/-- An event of the ledger in memory that is signed by its owner. -/
def OwnerSigned (state : RuntimeState) (event : Event) : Prop :=
  ∃ capsule, state.capsule = some capsule ∧ event ∈ capsule.ledger.events ∧
    event.signer = capsule.pubkey

/-- The next event the engine prepares, for whatever clock reading, is later than every event
    of the owner in the ledger. -/
def ReadyAt (state : RuntimeState) : Prop :=
  ∀ (engine : Engine Seed) clock kind payload recipient prepared,
    (engine.prepareEvent platform state clock kind payload recipient).1 = .ok prepared →
    ∀ event, OwnerSigned state event → event.timestamp < prepared.event.timestamp

/-- Some seed has a root key and signs whatever it is asked to. -/
def Platform.CanSign : Prop :=
  ∃ seed key, platform.rootPublicKey seed = some key ∧ ∀ id, (platform.sign seed id).isSome

/-! ### The operations -/

/-- One operation on the runtime, with what the outside answers to it. -/
inductive TimeOp (Seed : Type)
  | restart
  | create (birthClock : Option UInt64) (starterClock : ℕ → Option UInt64) (seed : Seed)
      (network : Network) (capsuleType : CapsuleType) (ownerMode : CapsuleOwnerMode)
  | importLedger (toVec : Ledger → List UInt8) (outside : Outside Seed) (parsed : Ledger)
  | admitRemote (outside : Outside Seed) (event : Event)
  | prepare (engine : Engine Seed) (clock : Option UInt64) (kind : EventKind)
      (payload : List UInt8) (recipient : Option PubKey)
  | append (outside : Outside Seed) (prepared : PreparedEvent)

/-- The state an operation leaves behind; a restart forgets the capsule and the time. -/
def TimeOp.apply (state : RuntimeState) : TimeOp Seed → RuntimeState
  | .restart => { capsule := none, lastEngineTsMs := 0 }
  | .create birthClock starterClock seed network capsuleType ownerMode =>
    (initRuntimeState platform birthClock starterClock state seed network capsuleType ownerMode).2
  | .importLedger toVec outside parsed =>
    (importRuntimeLedger platform toVec outside state parsed).2
  | .admitRemote outside event => (appendVerifiedRuntimeEvent platform outside state event).2
  | .prepare engine clock kind payload recipient =>
    (engine.prepareEvent platform state clock kind payload recipient).2
  | .append outside prepared => (appendPreparedEvent platform outside state prepared).2

/-- What an operation must meet in the state it is made in.

    * A birth is not given the last timestamp.
    * An imported ledger has no event of its owner that is later than both the time source
      and the tail of the ledger, and none at the last timestamp.
    * A remote event that the owner signed is not ahead of the time source, and not at the
      last timestamp.
    * An event that is appended for the owner is not at the last timestamp. -/
def TimeOp.Meets (state : RuntimeState) : TimeOp Seed → Prop
  | .restart => True
  | .create birthClock starterClock seed network capsuleType ownerMode =>
    ∀ created, initRuntimeState platform birthClock starterClock state seed network capsuleType
        ownerMode = (.ok (), created) →
      ∀ event, OwnerSigned created event → event.timestamp ≠ lastTimestamp
  | .importLedger toVec outside parsed =>
    (importRuntimeLedger platform toVec outside state parsed).1 = .ok () →
      ∀ event ∈ parsed.events, event.signer = parsed.owner →
        (event.timestamp ≤ state.lastEngineTsMs ∨
          ∃ last ∈ parsed.events.getLast?, event.timestamp ≤ last.timestamp) ∧
        event.timestamp ≠ lastTimestamp
  | .admitRemote outside event =>
    TakesRemote platform outside state event →
      ∀ capsule, state.capsule = some capsule → event.signer = capsule.pubkey →
        event.timestamp ≤ state.lastEngineTsMs ∧ event.timestamp ≠ lastTimestamp
  | .prepare _ _ _ _ _ => True
  | .append outside prepared =>
    TakesPrepared platform outside state prepared.event →
      ∀ capsule, state.capsule = some capsule → prepared.event.signer = capsule.pubkey →
        prepared.event.timestamp ≠ lastTimestamp

/-- Along a run every state is ready. -/
def ReadyAlong (state : RuntimeState) : List (TimeOp Seed) → Prop
  | [] => ReadyAt platform state
  | op :: rest => ReadyAt platform state ∧ ReadyAlong (op.apply platform state) rest

/-- Along a run every operation meets its condition. -/
def MeetsAlong (state : RuntimeState) : List (TimeOp Seed) → Prop
  | [] => True
  | op :: rest => op.Meets platform state ∧ MeetsAlong (op.apply platform state) rest

variable {platform}

/-! ### The order of timestamps -/

theorem toNat_lastTimestamp : lastTimestamp.toNat = 2 ^ 64 - 1 := rfl

/-- The later of two timestamps, as a number. -/
theorem toNat_max (a b : UInt64) : (max a b).toNat = max a.toNat b.toNat := by
  show (if a ≤ b then b else a).toNat = _
  split_ifs with hle
  · rw [UInt64.le_iff_toNat_le] at hle
    omega
  · rw [UInt64.le_iff_toNat_le] at hle
    omega

/-- The successor that stands still at the last timestamp, as a number. -/
theorem toNat_saturatingSucc (value : UInt64) :
    (saturatingSucc value).toNat = min (value.toNat + 1) (2 ^ 64 - 1) := by
  have hlt := value.toNat_lt
  unfold saturatingSucc
  split_ifs with hlast
  · rw [hlast]
    rfl
  · have hne : value.toNat ≠ 2 ^ 64 - 1 := by
      intro heq
      exact hlast (UInt64.toNat_inj.mp (by rw [heq]; rfl))
    rw [UInt64.toNat_add]
    show (value.toNat + 1) % 2 ^ 64 = _
    omega

/-- A timestamp is below the successor of another one iff it is not behind it and not the
    last one. -/
theorem lt_saturatingSucc_iff (ts floor : UInt64) :
    ts < saturatingSucc floor ↔ ts ≤ floor ∧ ts ≠ lastTimestamp := by
  have hne : ts ≠ lastTimestamp ↔ ts.toNat ≠ 2 ^ 64 - 1 := by
    rw [← toNat_lastTimestamp, ne_eq, ne_eq, UInt64.toNat_inj]
  have hfloor := floor.toNat_lt
  have hts := ts.toNat_lt
  rw [hne, UInt64.lt_iff_toNat_lt, UInt64.le_iff_toNat_le, toNat_saturatingSucc]
  omega

variable {state : RuntimeState} {engine : Engine Seed} {prepared : PreparedEvent}

/-- The timestamp of a prepared event is the reading of the time source. -/
theorem prepareEvent_timestamp {clock : Option UInt64} {kind : EventKind} {payload : List UInt8}
    {recipient : Option PubKey}
    (h : (engine.prepareEvent platform state clock kind payload recipient).1 = .ok prepared) :
    prepared.event.timestamp = (state.now clock).1 := by
  unfold Engine.prepareEvent at h
  split at h
  · simp at h
  · unfold Engine.unsignedEvent at h
    split_ifs at h
    · dsimp only at h
      split at h
      · simp at h
      · rw [← Except.ok.inj h]
        rfl
    · dsimp only at h
      split at h
      · simp at h
      · rw [← Except.ok.inj h]
        rfl

/-- An engine that signs prepares an event at any reading. -/
private theorem exists_prepared (hsign : platform.CanSign) (state : RuntimeState)
    (clock : Option UInt64) :
    ∃ (engine : Engine Seed) (prepared : PreparedEvent),
      (engine.prepareEvent platform state clock .starterCreated [] none).1 = .ok prepared := by
  obtain ⟨seed, key, hkey, hall⟩ := hsign
  refine ⟨⟨seed, protocolVersion⟩, ?_⟩
  unfold Engine.prepareEvent Engine.publicKey Engine.unsignedEvent
  simp only [hkey, if_true]
  obtain ⟨signature, hsigned⟩ := Option.isSome_iff_exists.mp
    (hall ((Event.new .starterCreated [] (state.now clock).1 ⟨fill 64 0⟩ key).eventId
      platform.sha256))
  simp only [hsigned]
  exact ⟨_, rfl⟩

/-- **When a state is ready.**  Every event of the owner is covered by the time source, and
    none is at the last timestamp. -/
theorem readyAt_iff (hsign : platform.CanSign) (state : RuntimeState) :
    ReadyAt platform state ↔ ∀ event, OwnerSigned state event →
      event.timestamp ≤ state.lastEngineTsMs ∧ event.timestamp ≠ lastTimestamp := by
  constructor
  · intro h event howned
    -- a clock before the epoch shows the bare successor
    obtain ⟨engine, prepared, hprepared⟩ := exists_prepared hsign state none
    have hlt := h engine none _ _ _ prepared hprepared event howned
    rw [prepareEvent_timestamp hprepared] at hlt
    rw [← lt_saturatingSucc_iff]
    rw [UInt64.lt_iff_toNat_lt] at hlt ⊢
    have hnow : (state.now none).1.toNat = (saturatingSucc state.lastEngineTsMs).toNat := by
      show (max 0 (saturatingSucc state.lastEngineTsMs)).toNat = _
      rw [toNat_max]
      exact Nat.zero_max _
    omega
  · intro h engine clock kind payload recipient prepared hprepared event howned
    have hlt := (lt_saturatingSucc_iff _ _).mpr (h event howned)
    rw [prepareEvent_timestamp hprepared]
    rw [UInt64.lt_iff_toNat_lt] at hlt ⊢
    have hnow : (state.now clock).1.toNat
        = max (clock.getD 0).toNat (saturatingSucc state.lastEngineTsMs).toNat :=
      toNat_max _ _
    omega

/-! ### What the operations do to the time source -/

/-- What is observed does not set the time source back. -/
theorem le_observeEngineTs (state : RuntimeState) (ts : UInt64) :
    state.lastEngineTsMs ≤ (state.observeEngineTs ts).lastEngineTsMs ∧
      ts ≤ (state.observeEngineTs ts).lastEngineTsMs := by
  rw [UInt64.le_iff_toNat_le, UInt64.le_iff_toNat_le]
  show _ ≤ (max _ _ : UInt64).toNat ∧ _ ≤ (max _ _ : UInt64).toNat
  rw [toNat_max]
  omega

variable (platform) in
/-- The time source does not go back while an event is prepared, and a prepared event is not
    ahead of it. -/
private theorem prepareEvent_floor (engine : Engine Seed) (state : RuntimeState)
    (clock : Option UInt64) (kind : EventKind) (payload : List UInt8) (recipient : Option PubKey) :
    state.lastEngineTsMs
        ≤ (engine.prepareEvent platform state clock kind payload recipient).2.lastEngineTsMs ∧
      ∀ prepared,
        (engine.prepareEvent platform state clock kind payload recipient).1 = .ok prepared →
        prepared.event.timestamp
          ≤ (engine.prepareEvent platform state clock kind payload recipient).2.lastEngineTsMs := by
  have hnow : state.lastEngineTsMs ≤ (state.now clock).1 := by
    have hsucc := le_saturatingSucc state.lastEngineTsMs
    have hmax : (state.now clock).1.toNat
        = max (clock.getD 0).toNat (saturatingSucc state.lastEngineTsMs).toNat :=
      toNat_max _ _
    rw [UInt64.le_iff_toNat_le] at hsucc ⊢
    omega
  refine ⟨?_, ?_⟩
  · unfold Engine.prepareEvent
    split
    · exact UInt64.le_refl _
    · dsimp only
      split
      · exact hnow
      · split <;> exact hnow
  · intro prepared hprepared
    rw [prepareEvent_timestamp hprepared]
    unfold Engine.prepareEvent at hprepared ⊢
    split at hprepared
    · simp at hprepared
    · dsimp only at hprepared ⊢
      split
      · exact UInt64.le_refl _
      · split <;> exact UInt64.le_refl _

/-- A continuous ledger with no event ahead of a timestamp. -/
private structure CoveredBy (floor : UInt64) (ledger : Ledger) : Prop where
  continuous : ledger.isContinuousV5 = true
  covered : ∀ event ∈ ledger.events, event.timestamp ≤ floor

/-- A v5 append leaves a continuous ledger. -/
private theorem appendV5Event_continuous {ledger ledger' : Ledger} {event : Event}
    (h : appendV5Event platform engine ledger event = .ok ledger') :
    ledger'.isContinuousV5 = true := by
  obtain ⟨entry, -, happend⟩ := appendV5Event_entry platform h
  obtain ⟨continuity, -, -, rfl⟩ := Ledger.appendV5_ok happend
  rfl

variable {state state' : RuntimeState} {ledger : Ledger} {result : Except String Ledger}

/-- One event of a birth leaves the capsule alone and the new ledger covered. -/
private theorem appendBirthEvent_time {clock : Option UInt64} {failure : String} {kind : EventKind}
    {payload : List UInt8}
    (h : appendBirthEvent platform engine clock failure kind payload ledger state
      = (result, state')) :
    state'.capsule = state.capsule ∧ state.lastEngineTsMs ≤ state'.lastEngineTsMs ∧
      ∀ ledger', result = .ok ledger' → CoveredBy state.lastEngineTsMs ledger →
        CoveredBy state'.lastEngineTsMs ledger' := by
  have hcapsule := engine.prepareEvent_capsule platform state clock kind payload none
  obtain ⟨hfloor, hprepared⟩ := prepareEvent_floor platform engine state clock kind
    payload none
  unfold appendBirthEvent at h
  split at h
  · rename_i hcase
    obtain ⟨rfl, rfl⟩ := Prod.mk.inj h
    rw [hcase] at hcapsule hfloor
    refine ⟨hcapsule, hfloor, ?_⟩
    rintro ledger' ⟨⟩
  · rename_i prepared middle hcase
    obtain ⟨rfl, rfl⟩ := Prod.mk.inj h
    rw [hcase] at hcapsule hfloor hprepared
    refine ⟨hcapsule, hfloor, ?_⟩
    intro ledger' happend hcovered
    refine ⟨appendV5Event_continuous happend, ?_⟩
    intro event hevent
    rw [(appendV5Event_ok platform happend).2] at hevent
    rcases List.mem_append.mp hevent with hold | hnew
    · exact UInt64.le_trans (hcovered.covered event hold) hfloor
    · rw [List.mem_singleton.mp hnew]
      exact hprepared prepared rfl

variable {network : Network} {seed : Seed}

/-- The same of the starters of a relay. -/
private theorem appendBirthStarters_time {clock : ℕ → Option UInt64} {slot : ℕ}
    {kinds : List StarterKind}
    (h : appendBirthStarters platform engine seed network clock slot kinds ledger state
      = (result, state')) :
    state'.capsule = state.capsule ∧ state.lastEngineTsMs ≤ state'.lastEngineTsMs ∧
      ∀ ledger', result = .ok ledger' → CoveredBy state.lastEngineTsMs ledger →
        CoveredBy state'.lastEngineTsMs ledger' := by
  induction kinds generalizing slot ledger state with
  | nil =>
    rw [appendBirthStarters] at h
    obtain ⟨rfl, rfl⟩ := Prod.mk.inj h
    refine ⟨rfl, UInt64.le_refl _, ?_⟩
    intro ledger' hledger hcovered
    rw [← Except.ok.inj hledger]
    exact hcovered
  | cons kind rest ih =>
    rw [appendBirthStarters] at h
    split at h
    · rename_i hfirst
      obtain ⟨rfl, rfl⟩ := Prod.mk.inj h
      obtain ⟨hcapsule, hfloor, -⟩ := appendBirthEvent_time hfirst
      refine ⟨hcapsule, hfloor, ?_⟩
      rintro ledger' ⟨⟩
    · rename_i middle _ hfirst
      obtain ⟨hcapsule, hfloor, hcovered⟩ := appendBirthEvent_time hfirst
      obtain ⟨hcapsule', hfloor', hcovered'⟩ := ih h
      refine ⟨hcapsule'.trans hcapsule, UInt64.le_trans hfloor hfloor', ?_⟩
      intro ledger' hledger hstart
      exact hcovered' ledger' hledger (hcovered middle rfl hstart)

variable {starterClock : ℕ → Option UInt64} {ownerMode : CapsuleOwnerMode}
  {birthClock : Option UInt64} {capsuleType : CapsuleType}

/-- A birth that fails leaves the capsule alone; one that succeeds leaves it covered. -/
private theorem initRuntimeState_time {result : Except String Unit}
    (h : initRuntimeState platform birthClock starterClock state seed network capsuleType ownerMode
      = (result, state')) :
    (result ≠ .ok () ∧ state'.capsule = state.capsule ∧
        state.lastEngineTsMs ≤ state'.lastEngineTsMs) ∨
      (result = .ok () ∧ ∃ capsule, state'.capsule = some capsule ∧
        CoveredBy state'.lastEngineTsMs capsule.ledger) := by
  unfold initRuntimeState at h
  split at h
  · obtain ⟨rfl, rfl⟩ := Prod.mk.inj h
    exact Or.inl ⟨by simp, rfl, UInt64.le_refl _⟩
  split at h
  · obtain ⟨rfl, rfl⟩ := Prod.mk.inj h
    exact Or.inl ⟨by simp, rfl, UInt64.le_refl _⟩
  rename_i owner _
  dsimp only at h
  have hbirth : ∀ {result' : Except String Ledger} {middle : RuntimeState},
      birthLedger platform ⟨seed, continuousLedgerProtocolVersion⟩ seed network capsuleType
        birthClock starterClock owner state = (result', middle) →
      middle.capsule = state.capsule ∧ state.lastEngineTsMs ≤ middle.lastEngineTsMs ∧
        ∀ ledger, result' = .ok ledger → CoveredBy middle.lastEngineTsMs ledger := by
    intro result' middle hledger
    have hfresh : CoveredBy state.lastEngineTsMs (.freshV5 owner) :=
      ⟨rfl, by simp [Ledger.freshV5]⟩
    unfold birthLedger at hledger
    split at hledger
    · rename_i hborn
      obtain ⟨rfl, rfl⟩ := Prod.mk.inj hledger
      obtain ⟨hcapsule, hfloor, -⟩ := appendBirthEvent_time hborn
      refine ⟨hcapsule, hfloor, ?_⟩
      rintro ledger ⟨⟩
    · rename_i born _ hborn
      obtain ⟨hcapsule, hfloor, hcovered⟩ := appendBirthEvent_time hborn
      have hone := hcovered born rfl hfresh
      split at hledger
      · obtain ⟨hcapsule', hfloor', hcovered'⟩ := appendBirthStarters_time hledger
        exact ⟨hcapsule'.trans hcapsule, UInt64.le_trans hfloor hfloor',
          fun ledger hresult => hcovered' ledger hresult hone⟩
      · obtain ⟨rfl, rfl⟩ := Prod.mk.inj hledger
        refine ⟨hcapsule, hfloor, ?_⟩
        intro ledger hresult
        rw [← Except.ok.inj hresult]
        exact hone
  split at h
  · rename_i hledger
    obtain ⟨rfl, rfl⟩ := Prod.mk.inj h
    obtain ⟨hcapsule, hfloor, -⟩ := hbirth hledger
    exact Or.inl ⟨by simp, hcapsule, hfloor⟩
  · rename_i ledger middle hledger
    obtain ⟨rfl, rfl⟩ := Prod.mk.inj h
    obtain ⟨-, -, hcovered⟩ := hbirth hledger
    have hcover := hcovered ledger rfl
    refine Or.inr ⟨rfl, ⟨network, ledger⟩, rfl, hcover.continuous, ?_⟩
    intro event hevent
    refine UInt64.le_trans (hcover.covered event hevent) ?_
    -- the tail is observed on top of what the preparations left
    dsimp only
    split
    · exact (le_observeEngineTs middle _).1
    · exact UInt64.le_refl _

/-! ### Runs -/

/-- The capsule in memory, if there is one, has a continuous ledger. -/
private def ContinuousState (state : RuntimeState) : Prop :=
  ∀ capsule, state.capsule = some capsule → capsule.ledger.isContinuousV5 = true

/-- Every event of the owner is behind the time source, and none is at the last timestamp. -/
private def Covered (state : RuntimeState) : Prop :=
  ∀ event, OwnerSigned state event →
    event.timestamp ≤ state.lastEngineTsMs ∧ event.timestamp ≠ lastTimestamp

/-- A step that leaves the capsule alone and does not go back in time keeps the cover. -/
private theorem Covered.mono (h : Covered state) (hcapsule : state'.capsule = state.capsule)
    (hfloor : state.lastEngineTsMs ≤ state'.lastEngineTsMs) : Covered state' := by
  rintro event ⟨capsule, hcapsule', hevent⟩
  obtain ⟨hle, hne⟩ := h event ⟨capsule, hcapsule.symm.trans hcapsule', hevent⟩
  exact ⟨UInt64.le_trans hle hfloor, hne⟩

variable {toVec : Ledger → List UInt8}

private theorem create_step (hv5 : ContinuousState state) (h : Covered state) :
    let op : TimeOp Seed :=
      .create birthClock starterClock seed network capsuleType ownerMode
    ContinuousState (op.apply platform state) ∧
      (Covered (op.apply platform state) ↔ op.Meets platform state) := by
  dsimp only [TimeOp.apply, TimeOp.Meets]
  cases hinit : initRuntimeState platform birthClock starterClock state seed network capsuleType
      ownerMode with
  | mk result state' =>
    rcases initRuntimeState_time hinit with
      ⟨hfailed, hcapsule, hfloor⟩ | ⟨rfl, capsule, hcapsule, hcover⟩
    · refine ⟨?_, ⟨?_, fun _ => h.mono hcapsule hfloor⟩⟩
      · intro capsule hcapsule'
        exact hv5 capsule (hcapsule.symm.trans hcapsule')
      · intro _ created hcreated
        exact absurd (Prod.mk.inj hcreated).1 hfailed
    · refine ⟨?_, ⟨?_, ?_⟩⟩
      · intro other hother
        obtain rfl := Option.some.inj (hcapsule.symm.trans hother)
        exact hcover.continuous
      · intro hcovered created hcreated event howned
        obtain rfl := (Prod.mk.inj hcreated).2
        exact (hcovered event howned).2
      · rintro hmeets event ⟨other, hother, hevent, hsigner⟩
        obtain rfl := Option.some.inj (hcapsule.symm.trans hother)
        exact ⟨hcover.covered event hevent, hmeets state' rfl event ⟨capsule, hother, hevent, hsigner⟩⟩

/-- What the tail of a ledger shows the time source. -/
private theorem le_observeLedgerTailTs (ts : UInt64) :
    ts ≤ (state.observeLedgerTailTs ledger).lastEngineTsMs ↔
      ts ≤ state.lastEngineTsMs ∨ ∃ last ∈ ledger.events.getLast?, ts ≤ last.timestamp := by
  unfold RuntimeState.observeLedgerTailTs
  split
  · rename_i last hlast
    simp only [hlast, Option.mem_def, Option.some.injEq, exists_eq_left']
    rw [UInt64.le_iff_toNat_le, UInt64.le_iff_toNat_le, UInt64.le_iff_toNat_le]
    show _ ≤ (max _ _ : UInt64).toNat ↔ _
    rw [toNat_max]
    omega
  · rename_i hlast
    simp [hlast]

variable {outside : Outside Seed}

private theorem import_step {parsed : Ledger} (hv5 : ContinuousState state) (h : Covered state) :
    let op : TimeOp Seed := .importLedger toVec outside parsed
    ContinuousState (op.apply platform state) ∧
      (Covered (op.apply platform state) ↔ op.Meets platform state) := by
  dsimp only [TimeOp.apply, TimeOp.Meets]
  unfold importRuntimeLedger
  cases hcapsule : state.capsule with
  | none => exact ⟨hv5, ⟨fun _ hok => (by cases hok), fun _ => h⟩⟩
  | some capsule =>
    dsimp only
    cases hvalid : validateImportedLedger platform parsed capsule.pubkey true with
    | error message => exact ⟨hv5, ⟨fun _ hok => (by cases hok), fun _ => h⟩⟩
    | ok value =>
      cases hadmit : admitImportedLedger platform toVec outside.loadSeed parsed with
      | error message => exact ⟨hv5, ⟨fun _ hok => (by cases hok), fun _ => h⟩⟩
      | ok admitted =>
        obtain ⟨hcontinuous, howner, hevents⟩ : admitted.isContinuousV5 = true ∧
            admitted.owner = parsed.owner ∧ admitted.events = parsed.events := by
          rcases admitImportedLedger_ok hadmit with ⟨hcontinuous, rfl⟩ | ⟨anchor, rfl⟩
          · exact ⟨hcontinuous, rfl, rfl⟩
          · exact ⟨rfl, rfl, rfl⟩
        have howned : ∀ event,
            OwnerSigned ((state.observeLedgerTailTs admitted).withLedger capsule admitted) event ↔
              event ∈ parsed.events ∧ event.signer = parsed.owner := by
          intro event
          rw [← hevents, ← howner]
          constructor
          · rintro ⟨other, hother, hevent⟩
            obtain rfl := Option.some.inj hother
            exact hevent
          · intro hevent
            exact ⟨_, rfl, hevent⟩
        have htail : ∀ ts : UInt64, ts ≤ ((state.observeLedgerTailTs admitted).withLedger capsule
            admitted).lastEngineTsMs ↔ ts ≤ state.lastEngineTsMs ∨
              ∃ last ∈ parsed.events.getLast?, ts ≤ last.timestamp := by
          intro ts
          rw [← hevents]
          exact le_observeLedgerTailTs ts
        refine ⟨?_, ?_, ?_⟩
        · intro other hother
          obtain rfl := Option.some.inj hother
          exact hcontinuous
        · intro hcovered _ event hevent hsigner
          obtain ⟨hle, hne⟩ := hcovered event ((howned event).mpr ⟨hevent, hsigner⟩)
          exact ⟨(htail _).mp hle, hne⟩
        · intro hmeets event hevent
          obtain ⟨hmem, hsigner⟩ := (howned event).mp hevent
          obtain ⟨hle, hne⟩ := hmeets rfl event hmem hsigner
          exact ⟨(htail _).mpr hle, hne⟩

/-- The owner's events after one more event was stored. -/
private theorem ownerSigned_append {capsule : Capsule} {new : Event}
    (hcapsule : state.capsule = some capsule) (hgrows : StateGrows state state' [new])
    (event : Event) :
    OwnerSigned state' event ↔
      OwnerSigned state event ∨ (event = new ∧ event.signer = capsule.pubkey) := by
  cases hgrows with
  | noCapsule hnone => rw [hcapsule] at hnone; cases hnone
  | @capsule _ capsule' hbefore hafter hgrows =>
    obtain rfl := Option.some.inj (hcapsule.symm.trans hbefore)
    constructor
    · rintro ⟨other, hother, hevent, hsigner⟩
      obtain rfl := Option.some.inj (hafter.symm.trans hother)
      rw [hgrows.pubkey] at hsigner
      rw [hgrows.events] at hevent
      rcases List.mem_append.mp hevent with hold | hnew
      · exact Or.inl ⟨capsule, hcapsule, hold, hsigner⟩
      · exact Or.inr ⟨List.mem_singleton.mp hnew, hsigner⟩
    · rintro (⟨other, hother, hevent, hsigner⟩ | ⟨rfl, hsigner⟩)
      · obtain rfl := Option.some.inj (hcapsule.symm.trans hother)
        refine ⟨capsule', hafter, ?_, hsigner.trans hgrows.pubkey.symm⟩
        rw [hgrows.events]
        exact List.mem_append_left _ hevent
      · refine ⟨capsule', hafter, ?_, hsigner.trans hgrows.pubkey.symm⟩
        rw [hgrows.events]
        exact List.mem_append_right _ (List.mem_singleton_self event)

private theorem admitRemote_step {event : Event} (hv5 : ContinuousState state) (h : Covered state) :
    let op : TimeOp Seed := .admitRemote outside event
    ContinuousState (op.apply platform state) ∧
      (Covered (op.apply platform state) ↔ op.Meets platform state) := by
  dsimp only [TimeOp.apply, TimeOp.Meets]
  rw [← appendVerifiedRuntimeEvent_iff]
  unfold appendVerifiedRuntimeEvent
  cases outside.loadSeed with
  | none => exact ⟨hv5, ⟨fun _ hok => (by cases hok), fun _ => h⟩⟩
  | some seed =>
    cases hcapsule : state.capsule with
    | none => exact ⟨hv5, ⟨fun _ hok => (by cases hok), fun _ => h⟩⟩
    | some capsule =>
      dsimp only
      by_cases hverify : Engine.verifyEvent platform event event.signer = false
      · rw [if_pos hverify]
        exact ⟨hv5, ⟨fun _ hok => (by cases hok), fun _ => h⟩⟩
      rw [if_neg hverify, if_pos (hv5 capsule hcapsule)]
      cases happend : appendV5Event platform (buildEngineForLedger seed capsule.ledger)
          capsule.ledger event with
      | error message => exact ⟨hv5, ⟨fun _ hok => (by cases hok), fun _ => h⟩⟩
      | ok ledger =>
        obtain ⟨howner, hevents⟩ := appendV5Event_ok platform happend
        have howned := ownerSigned_append hcapsule
          (.capsule hcapsule rfl ⟨rfl, howner, hevents⟩ :
            StateGrows state (state.withLedger capsule ledger) [event])
        refine ⟨?_, ?_, ?_⟩
        · intro other hother
          obtain rfl := Option.some.inj hother
          exact appendV5Event_continuous happend
        · intro hcovered _ other hother hsigner
          obtain rfl := Option.some.inj hother
          exact hcovered event ((howned event).mpr (Or.inr ⟨rfl, hsigner⟩))
        · intro hmeets other hother
          rcases (howned other).mp hother with hold | ⟨rfl, hsigner⟩
          · exact h other hold
          · exact hmeets rfl capsule rfl hsigner

private theorem append_step (hv5 : ContinuousState state) (h : Covered state) :
    let op : TimeOp Seed := .append outside prepared
    ContinuousState (op.apply platform state) ∧
      (Covered (op.apply platform state) ↔ op.Meets platform state) := by
  dsimp only [TimeOp.apply, TimeOp.Meets]
  rw [← appendPreparedEvent_iff]
  unfold appendPreparedEvent
  cases hcapsule : state.capsule with
  | none => exact ⟨hv5, ⟨fun _ hok => (by cases hok), fun _ => h⟩⟩
  | some capsule =>
    dsimp only
    rw [if_pos (hv5 capsule hcapsule)]
    cases outside.loadSeed with
    | none => exact ⟨hv5, ⟨fun _ hok => (by cases hok), fun _ => h⟩⟩
    | some seed =>
      dsimp only
      cases happend : appendV5Event platform (buildEngineForLedger seed capsule.ledger)
          capsule.ledger prepared.event with
      | error message => exact ⟨hv5, ⟨fun _ hok => (by cases hok), fun _ => h⟩⟩
      | ok ledger =>
        obtain ⟨howner, hevents⟩ := appendV5Event_ok platform happend
        have howned := ownerSigned_append hcapsule
          (.capsule hcapsule rfl ⟨rfl, howner, hevents⟩ : StateGrows state
            ((state.withLedger capsule ledger).observeEngineTs prepared.event.timestamp)
            [prepared.event])
        obtain ⟨hold, hnew⟩ := le_observeEngineTs (state.withLedger capsule ledger)
          prepared.event.timestamp
        refine ⟨?_, ?_, ?_⟩
        · intro other hother
          obtain rfl := Option.some.inj hother
          exact appendV5Event_continuous happend
        · intro hcovered _ other hother hsigner
          obtain rfl := Option.some.inj hother
          exact (hcovered prepared.event ((howned _).mpr (Or.inr ⟨rfl, hsigner⟩))).2
        · intro hmeets event hevent
          rcases (howned event).mp hevent with hkept | ⟨rfl, hsigner⟩
          · obtain ⟨hle, hne⟩ := h event hkept
            exact ⟨UInt64.le_trans hle hold, hne⟩
          · exact ⟨hnew, hmeets rfl capsule rfl hsigner⟩

variable (platform) in
/-- **Step lemma.**  A covered state stays covered exactly when the operation meets its
    condition. -/
private theorem covered_step (hv5 : ContinuousState state) (h : Covered state) (op : TimeOp Seed) :
    ContinuousState (op.apply platform state) ∧
      (Covered (op.apply platform state) ↔ op.Meets platform state) := by
  cases op with
  | restart =>
    refine ⟨?_, fun _ => trivial, fun _ => ?_⟩
    · rintro capsule ⟨⟩
    · rintro event ⟨capsule, ⟨⟩, -⟩
  | create birthClock starterClock seed network capsuleType ownerMode => exact create_step hv5 h
  | importLedger toVec outside parsed => exact import_step hv5 h
  | admitRemote outside event => exact admitRemote_step hv5 h
  | prepare engine clock kind payload recipient =>
    have hcapsule := engine.prepareEvent_capsule platform state clock kind payload recipient
    have hfloor := (prepareEvent_floor platform engine state clock kind payload
      recipient).1
    refine ⟨?_, fun _ => trivial, fun _ => h.mono hcapsule hfloor⟩
    intro capsule hsome
    exact hv5 capsule (hcapsule.symm.trans hsome)
  | append outside prepared => exact append_step hv5 h

/-- **Local event time is monotone along exactly the runs whose operations meet their
    conditions.** -/
theorem readyAlong_iff (hsign : platform.CanSign) (ops : List (TimeOp Seed)) :
    ReadyAlong platform ⟨none, 0⟩ ops ↔ MeetsAlong platform ⟨none, 0⟩ ops := by
  have hrun : ∀ state : RuntimeState, ContinuousState state → Covered state →
      (ReadyAlong platform state ops ↔ MeetsAlong platform state ops) := by
    induction ops with
    | nil =>
      intro state _ h
      exact ⟨fun _ => trivial, fun _ => (readyAt_iff hsign state).mpr h⟩
    | cons op rest ih =>
      intro state hv5 h
      obtain ⟨hv5', hstep⟩ := covered_step platform hv5 h op
      constructor
      · rintro ⟨-, hrest⟩
        -- the rest of the run starts in a ready state, so the operation met its condition
        have hnext : Covered (op.apply platform state) := by
          rw [Covered, ← readyAt_iff hsign]
          cases rest with
          | nil => exact hrest
          | cons _ _ => exact hrest.1
        exact ⟨hstep.mp hnext, (ih _ hv5' hnext).mp hrest⟩
      · rintro ⟨hmeets, hrest⟩
        have hnext := hstep.mpr hmeets
        exact ⟨(readyAt_iff hsign state).mpr h, (ih _ hv5' hnext).mpr hrest⟩
  refine hrun _ ?_ ?_
  · rintro capsule ⟨⟩
  · rintro event ⟨capsule, ⟨⟩, -⟩

end Time

/-! ### A clock that goes back -/

theorem samplePlatform_canSign : samplePlatform.CanSign :=
  ⟨(⟨fill 32 7⟩, ⟨fill 32 17⟩), ⟨fill 32 7⟩, rfl, fun _ => rfl⟩

/-- The seed of a capsule whose clock is watched. -/
def clockSeed : PubKey × PubKey := (⟨fill 32 7⟩, ⟨fill 32 17⟩)

def clockOutside : Outside (PubKey × PubKey) := ⟨some clockSeed, none⟩

/-- The birth of a leaf at a clock reading. -/
def birthAt (clock : UInt64) : TimeOp (PubKey × PubKey) :=
  .create (some clock) (fun _ => none) clockSeed .neste .leaf .root

/-- An event with the signature of its signer. -/
def signedEvent (kind : EventKind) (timestamp : Timestamp) (signer : PubKey) : Event :=
  let unsigned := Event.newV5 kind [1] timestamp ⟨fill 64 0⟩ signer
  { unsigned with
    signature := ⟨⟨(unsigned.eventId sampleDigest).toList ++ signer.bytes.toList, by simp⟩⟩ }

/-- An offer a peer signed with a small timestamp. -/
def earlyOffer : Event := signedEvent .invitationReceived 5 ⟨fill 32 9⟩

/-- Born at 100, the capsule takes the offer in. -/
def offeredClockState : RuntimeState :=
  (TimeOp.admitRemote clockOutside earlyOffer).apply samplePlatform
    ((birthAt 100).apply samplePlatform ⟨none, 0⟩)

/-- The ledger that is stored then. -/
def earlyTailLedger : Ledger :=
  match offeredClockState.capsule with
  | some capsule => capsule.ledger
  | none => .freshV5 clockSeed.1

/-- The next process starts at 10 and imports the stored ledger. -/
def restartedOps : List (TimeOp (PubKey × PubKey)) :=
  [.restart, birthAt 10, .importLedger (fun _ => []) clockOutside earlyTailLedger]

/-- The runtime after the restart and the import. -/
def restartedState : RuntimeState :=
  (TimeOp.importLedger (fun _ => []) clockOutside earlyTailLedger).apply samplePlatform
    ((birthAt 10).apply samplePlatform ⟨none, 0⟩)

/-- A birth, an offer of a peer, an own event, and a new process whose capsule is born earlier. -/
def readyOps : List (TimeOp (PubKey × PubKey)) :=
  [birthAt 100, .admitRemote clockOutside earlyOffer,
    .append clockOutside ⟨signedEvent .invitationSent 120 clockSeed.1, none⟩, .restart, birthAt 10]

/-- A birth that meets its condition. -/
theorem meets_birthAt {clock : UInt64} {state : RuntimeState}
    (h : ((birthAt clock).apply samplePlatform state).events.all
      (fun event => event.timestamp != lastTimestamp) = true) :
    (birthAt clock).Meets samplePlatform state := by
  rintro created hcreated event ⟨capsule, hcapsule, hevent, -⟩
  have hstate : (birthAt clock).apply samplePlatform state = created := congrArg Prod.snd hcreated
  rw [hstate, List.all_eq_true] at h
  have hmem : event ∈ created.events := by
    unfold RuntimeState.events
    rw [hcapsule]
    exact hevent
  simpa using h event hmem

theorem readyAlong_birth : ReadyAlong samplePlatform ⟨none, 0⟩ readyOps :=
  (readyAlong_iff samplePlatform_canSign readyOps).mpr
    ⟨meets_birthAt (by decide +kernel), fun _ _ _ _ => (by decide +kernel),
      fun _ _ _ _ => (by decide +kernel), trivial, meets_birthAt (by decide +kernel), trivial⟩

/-- The stored ledger is imported, and at clock 50 the next event is given 50, while the birth
    of the capsule has 100. -/
theorem restarted_goesBack :
    (importRuntimeLedger samplePlatform (fun _ => []) clockOutside
        ((birthAt 10).apply samplePlatform ⟨none, 0⟩) earlyTailLedger).1 = .ok () ∧
      (restartedState.now (some 50)).1 = 50 ∧
      (∃ event, OwnerSigned restartedState event ∧ event.timestamp = 100) ∧
      ¬ ReadyAlong samplePlatform ⟨none, 0⟩ restartedOps := by
  have hclock : (restartedState.now (some 50)).1 = 50 := by decide +kernel
  have howned : ∃ event, OwnerSigned restartedState event ∧ event.timestamp = 100 := by
    have hany : (match restartedState.capsule with
      | some capsule => capsule.ledger.events.any fun event =>
          event.signer == capsule.pubkey && event.timestamp == 100
      | none => false) = true := by decide +kernel
    split at hany
    · rename_i capsule hcapsule
      obtain ⟨event, hevent, hmatch⟩ := List.any_eq_true.mp hany
      rw [Bool.and_eq_true, beq_iff_eq, beq_iff_eq] at hmatch
      exact ⟨event, ⟨capsule, hcapsule, hevent, hmatch.1⟩, hmatch.2⟩
    · cases hany
  refine ⟨by decide +kernel, hclock, howned, ?_⟩
  rintro ⟨-, -, -, hready⟩
  have hready : ReadyAt samplePlatform restartedState := hready
  obtain ⟨event, howner, htime⟩ := howned
  have hprepares : ((Engine.mk clockSeed continuousLedgerProtocolVersion).prepareEvent
      samplePlatform restartedState (some 50) .starterCreated [] none).1.toBool = true := by
    decide +kernel
  cases hprepare : ((Engine.mk clockSeed continuousLedgerProtocolVersion).prepareEvent
      samplePlatform restartedState (some 50) .starterCreated [] none).1 with
  | error error =>
    rw [hprepare] at hprepares
    cases hprepares
  | ok prepared =>
    have hlt := hready _ _ _ _ _ prepared hprepare event howner
    rw [prepareEvent_timestamp hprepare, hclock, htime] at hlt
    exact absurd hlt (by decide)

end Hivra
