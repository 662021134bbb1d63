import Hivra.Ffi.Runtime

namespace Hivra

open ByteString

/-!
# When the runtime takes an event

The appends of the runtime fail for many reasons; here each one is described without its
order of checks.  A ledger takes an event, or the append reports an error and leaves the
capsule alone.

* `appendVerifiedRuntimeEvent_iff`, `appendPreparedEvent_iff` — when the runtime takes a
  remote event, and one of its own.
-/

section Admission

variable {Seed : Type} (platform : Platform Seed)

/-- The entry a v5 ledger would attest an event with, before it is signed. -/
def nextEntry (ledger : Ledger) (continuity : ContinuousLedgerV5) (event : Event) : LedgerEntryV5 :=
  .unsigned ledger.owner (UInt64.ofNat continuity.receipts.length)
    (ledger.tailCommitmentOf platform.sha256 continuity) event

/-- A v5 ledger takes an event: the seed is that of its owner and signs the next entry,
    and no event of the ledger has the same id. -/
structure TakesV5 (seed : Seed) (ledger : Ledger) (continuity : ContinuousLedgerV5)
    (event : Event) : Prop where
  version : event.version = continuousLedgerProtocolVersion
  anchorOwner : continuity.anchor.owner = ledger.owner
  owner : platform.rootPublicKey seed = some ledger.owner
  attested : (platform.sign seed
    ((nextEntry platform ledger continuity event).commitment platform.sha256)).isSome
  fresh : ∀ other ∈ ledger.events,
    other.eventId platform.sha256 ≠ event.eventId platform.sha256

/-- A v4 ledger takes an event: a v4 event it does not hold, not before its last one. -/
structure TakesV4 (ledger : Ledger) (event : Event) : Prop where
  version : event.version = protocolVersion
  fresh : event ∉ ledger.events
  ordered : ∀ last ∈ ledger.events.getLast?, last.timestamp ≤ event.timestamp

/-- The event a ledger stores for a remote one. -/
def storedEvent (ledger : Ledger) (clock : Option UInt64) (event : Event) : Event :=
  if ledger.isContinuousV5 then event
  else .new event.kind event.payload (nextRuntimeTs ledger clock) event.signature event.signer

/-- A ledger of the seed's owner takes a remote event. -/
def LedgerTakesRemote (seed : Seed) (clock : Option UInt64) (ledger : Ledger) (event : Event) :
    Prop :=
  match ledger.continuityV5 with
  | some continuity => TakesV5 platform seed ledger continuity event
  | none => storedEvent ledger clock event ∉ ledger.events

/-- A ledger takes an event the engine prepared; a v4 ledger needs no seed for it. -/
def LedgerTakesPrepared (seed : Option Seed) (ledger : Ledger) (event : Event) : Prop :=
  match ledger.continuityV5 with
  | some continuity => ∃ s, seed = some s ∧ TakesV5 platform s ledger continuity event
  | none => TakesV4 ledger event

/-- The runtime takes a remote event: its signature is valid, the seed is at hand, and
    the ledger takes what it stores for it. -/
def TakesRemote (outside : Outside Seed) (state : RuntimeState) (event : Event) : Prop :=
  Engine.verifyEvent platform event event.signer = true ∧
    ∃ seed capsule, outside.loadSeed = some seed ∧ state.capsule = some capsule ∧
      LedgerTakesRemote platform seed outside.clock capsule.ledger event

/-- The runtime takes an event the engine prepared. -/
def TakesPrepared (outside : Outside Seed) (state : RuntimeState) (event : Event) : Prop :=
  ∃ capsule, state.capsule = some capsule ∧
    LedgerTakesPrepared platform outside.loadSeed capsule.ledger event

/-- The engine prepares an event of a kind and payload, and the runtime takes it. -/
def TakesOwn (engine : Engine Seed) (outside : Outside Seed) (state : RuntimeState)
    (kind : EventKind) (payload : List UInt8) : Prop :=
  ∃ prepared, (engine.prepareEvent platform state outside.clock kind payload none).1
      = .ok prepared ∧ TakesPrepared platform outside state prepared.event

/-- The engine for a seed has the root key of the seed. -/
theorem publicKey_buildEngine (state : RuntimeState) (seed : Seed) :
    (buildEngine state seed).publicKey platform = platform.rootPublicKey seed := by
  unfold Engine.publicKey buildEngine
  split <;> rfl

variable {ledger : Ledger} {continuity : ContinuousLedgerV5} {seed : Seed}

theorem ledgerTakesRemote_v5 {clock : Option UInt64} (hv5 : ledger.continuityV5 = some continuity)
    (event : Event) :
    LedgerTakesRemote platform seed clock ledger event ↔
      TakesV5 platform seed ledger continuity event := by
  unfold LedgerTakesRemote
  rw [hv5]

theorem ledgerTakesRemote_v4 {clock : Option UInt64} (hv4 : ledger.continuityV5 = none)
    (event : Event) :
    LedgerTakesRemote platform seed clock ledger event ↔
      storedEvent ledger clock event ∉ ledger.events := by
  unfold LedgerTakesRemote
  rw [hv4]

theorem ledgerTakesPrepared_v5 {seed : Option Seed} (hv5 : ledger.continuityV5 = some continuity)
    (event : Event) :
    LedgerTakesPrepared platform seed ledger event ↔
      ∃ s, seed = some s ∧ TakesV5 platform s ledger continuity event := by
  unfold LedgerTakesPrepared
  rw [hv5]

theorem ledgerTakesPrepared_v4 {seed : Option Seed} (hv4 : ledger.continuityV5 = none)
    (event : Event) : LedgerTakesPrepared platform seed ledger event ↔ TakesV4 ledger event := by
  unfold LedgerTakesPrepared
  rw [hv4]

/-! ### Ledgers -/

/-- A v4 append succeeds exactly on an event the ledger takes. -/
theorem append_ok_iff {event : Event} (hv4 : ledger.continuityV5 = none) :
    (∃ ledger', ledger.append event = .ok ledger') ↔ TakesV4 ledger event := by
  constructor
  · rintro ⟨ledger', h⟩
    obtain ⟨-, hversion, hfresh, hordered, -⟩ := Ledger.append_ok h
    exact ⟨hversion, hfresh, hordered⟩
  · rintro ⟨hversion, hfresh, hordered⟩
    have hdup : ¬ (ledger.events.any (· == event)) = true := by simpa using hfresh
    have hlast : ¬ (ledger.events.getLast?.any
        fun last => decide (event.timestamp < last.timestamp)) = true := by
      cases hlast : ledger.events.getLast? with
      | none => simp
      | some last => simpa using hordered last hlast
    unfold Ledger.append
    rw [if_neg (by simp [hv4]), if_neg (not_not.mpr hversion), if_neg hdup, if_neg hlast]
    exact ⟨_, rfl⟩

/-- A v5 append to the runtime ledger succeeds exactly on an event the ledger takes. -/
theorem appendV5Event_ok_iff {event : Event} (hv5 : ledger.continuityV5 = some continuity) :
    (∃ ledger', appendV5Event platform (buildEngineForLedger seed ledger) ledger event
        = .ok ledger') ↔ TakesV5 platform seed ledger continuity event := by
  have hcontinuous : ledger.isContinuousV5 = true := by simp [Ledger.isContinuousV5, hv5]
  constructor
  · rintro ⟨ledger', h⟩
    unfold appendV5Event at h
    by_cases hversion : ledger.isContinuousV5 = false ∨
        event.version ≠ continuousLedgerProtocolVersion
    · simp [hversion] at h
    rw [if_neg hversion] at h
    simp only [Ledger.nextSequenceV5, Ledger.tailCommitmentV5, hv5] at h
    unfold Engine.prepareLedgerEntryV5 at h
    cases hkey : (buildEngineForLedger seed ledger).publicKey platform with
    | none => simp [hkey] at h
    | some owner =>
      simp only [hkey] at h
      cases hsign : platform.sign (buildEngineForLedger seed ledger).seed
          ((LedgerEntryV5.unsigned owner (UInt64.ofNat continuity.receipts.length)
            (ledger.tailCommitmentOf platform.sha256 continuity) event).commitment
              platform.sha256) with
      | none => simp [hsign] at h
      | some signature =>
        simp only [hsign] at h
        split at h
        · simp at h
        · obtain ⟨continuity', hv5', hfits, -⟩ := Ledger.appendV5_ok ‹_›
          obtain rfl := Option.some.inj (hv5.symm.trans hv5')
          have howner : owner = ledger.owner := hfits.entryOwner
          rw [howner] at hsign hkey
          exact ⟨hfits.version, hfits.anchorOwner, hkey,
            Option.isSome_iff_exists.mpr ⟨signature, hsign⟩, hfits.fresh⟩
  · intro h
    obtain ⟨signature, hsign⟩ := Option.isSome_iff_exists.mp h.attested
    have hentry : (buildEngineForLedger seed ledger).prepareLedgerEntryV5 platform
        (UInt64.ofNat continuity.receipts.length)
        (ledger.tailCommitmentOf platform.sha256 continuity) event
          = .ok ((nextEntry platform ledger continuity event).withSignature signature) := by
      unfold Engine.prepareLedgerEntryV5
      rw [show (buildEngineForLedger seed ledger).publicKey platform = some ledger.owner
        from h.owner]
      dsimp only
      rw [show (buildEngineForLedger seed ledger).seed = seed from rfl]
      unfold nextEntry at hsign ⊢
      rw [hsign]
    have happend := Ledger.appendV5_of_fits hv5
      (show Ledger.Fits platform.sha256 ledger continuity
          ((nextEntry platform ledger continuity event).withSignature signature) from
        ⟨h.anchorOwner, rfl, h.version, rfl, rfl, h.fresh⟩)
    unfold appendV5Event
    rw [if_neg (by simp [hcontinuous, h.version])]
    simp only [Ledger.nextSequenceV5, Ledger.tailCommitmentV5, hv5, hentry, happend]
    exact ⟨_, rfl⟩

/-! ### The runtime -/

theorem le_saturatingSucc (value : UInt64) : value ≤ saturatingSucc value := by
  unfold saturatingSucc
  split_ifs with h
  · exact UInt64.le_refl value
  · have hlt := value.toNat_lt
    have hne : value.toNat ≠ 2 ^ 64 - 1 := by
      intro heq
      exact h (UInt64.toNat_inj.mp (by rw [heq]; rfl))
    rw [UInt64.le_iff_toNat_le, UInt64.toNat_add]
    show value.toNat ≤ (value.toNat + 1) % 2 ^ 64
    omega

theorem right_le_max (a b : UInt64) : b ≤ max a b := by
  rw [UInt64.le_iff_toNat_le]
  show b.toNat ≤ (if a ≤ b then b else a).toNat
  split_ifs with hle
  · exact Nat.le_refl _
  · rw [UInt64.le_iff_toNat_le] at hle
    omega

/-- The timestamp a v4 ledger gives is never before its last event. -/
theorem le_nextRuntimeTs (clock : Option UInt64) {last : Event}
    (h : last ∈ ledger.events.getLast?) : last.timestamp ≤ nextRuntimeTs ledger clock := by
  unfold nextRuntimeTs
  rw [Option.mem_def] at h
  simp only [h]
  exact UInt64.le_trans (le_saturatingSucc _) (right_le_max _ _)

/-- A v4 ledger takes whatever it stores for a remote event, unless it holds it. -/
private theorem takesV4_storedEvent (clock : Option UInt64) (event : Event)
    (hv4 : ledger.isContinuousV5 = false) :
    TakesV4 ledger (storedEvent ledger clock event) ↔
      storedEvent ledger clock event ∉ ledger.events := by
  have hstored : storedEvent ledger clock event = Event.new event.kind event.payload
      (nextRuntimeTs ledger clock) event.signature event.signer := by
    simp [storedEvent, hv4]
  refine ⟨fun h => h.fresh, fun h => ⟨by rw [hstored]; rfl, h, ?_⟩⟩
  intro last hlast
  rw [hstored]
  exact le_nextRuntimeTs clock hlast

/-- A remote event is appended exactly when the runtime takes it. -/
theorem appendVerifiedRuntimeEvent_iff (outside : Outside Seed) (state : RuntimeState)
    (event : Event) :
    (appendVerifiedRuntimeEvent platform outside state event).1 = .ok () ↔
      TakesRemote platform outside state event := by
  unfold appendVerifiedRuntimeEvent TakesRemote
  cases outside.loadSeed with
  | none => simp
  | some seed =>
    cases state.capsule with
    | none => simp
    | some capsule =>
      simp only [Option.some.injEq, exists_and_left, exists_eq_left']
      by_cases hverify : Engine.verifyEvent platform event event.signer = false
      · rw [if_pos hverify]
        simp [hverify]
      · rw [if_neg hverify, Bool.not_eq_false] at *
        simp only [hverify, true_and]
        cases hv5 : capsule.ledger.continuityV5 with
        | some continuity =>
          rw [if_pos (by simp [Ledger.isContinuousV5, hv5]), ledgerTakesRemote_v5 platform hv5,
            ← appendV5Event_ok_iff platform hv5]
          cases appendV5Event platform (buildEngineForLedger seed capsule.ledger) capsule.ledger
            event <;> simp
        | none =>
          have hcontinuous : capsule.ledger.isContinuousV5 = false := by
            simp [Ledger.isContinuousV5, hv5]
          have hstored : Event.new event.kind event.payload
              (nextRuntimeTs capsule.ledger outside.clock) event.signature event.signer
                = storedEvent capsule.ledger outside.clock event := by
            simp [storedEvent, hcontinuous]
          rw [if_neg (by simp [hcontinuous]), hstored, ledgerTakesRemote_v4 platform hv5,
            ← takesV4_storedEvent outside.clock event hcontinuous, ← append_ok_iff hv5]
          cases capsule.ledger.append (storedEvent capsule.ledger outside.clock event) <;> simp

/-- A prepared event is appended exactly when the runtime takes it. -/
theorem appendPreparedEvent_iff (outside : Outside Seed) (state : RuntimeState)
    (prepared : PreparedEvent) :
    (appendPreparedEvent platform outside state prepared).1 = .ok () ↔
      TakesPrepared platform outside state prepared.event := by
  unfold appendPreparedEvent TakesPrepared
  cases state.capsule with
  | none => simp
  | some capsule =>
    simp only [Option.some.injEq, exists_eq_left']
    cases hv5 : capsule.ledger.continuityV5 with
    | some continuity =>
      rw [if_pos (by simp [Ledger.isContinuousV5, hv5]), ledgerTakesPrepared_v5 platform hv5]
      cases outside.loadSeed with
      | none => simp
      | some seed =>
        simp only [Option.some.injEq, exists_eq_left']
        rw [← appendV5Event_ok_iff platform hv5]
        cases appendV5Event platform (buildEngineForLedger seed capsule.ledger) capsule.ledger
          prepared.event <;> simp
    | none =>
      rw [if_neg (by simp [Ledger.isContinuousV5, hv5]), ledgerTakesPrepared_v4 platform hv5,
        ← append_ok_iff hv5]
      cases capsule.ledger.append prepared.event <;> simp

/-- Whether the runtime takes a prepared event depends on the capsule alone. -/
theorem takesPrepared_congr {outside : Outside Seed} {state state' : RuntimeState}
    (h : state'.capsule = state.capsule) (event : Event) :
    TakesPrepared platform outside state' event ↔ TakesPrepared platform outside state event := by
  unfold TakesPrepared
  rw [h]

end Admission

end Hivra
