import Hivra.Ffi.LedgerImport
import Hivra.Ffi.RuntimeRun

namespace Hivra

open ByteString HashChain

/-!
# Ledgers the runtime keeps sound

A capsule born here has a continuous ledger behind a fresh anchor.  Every event in it is
signed by its signer and attested by the owner, and no call of the host interface changes
that.
-/

section Sound

variable {Seed : Type} (platform : Platform Seed)

/-- What a seed signs verifies under its root key. -/
def Platform.Genuine : Prop :=
  ∀ seed key id signature, platform.rootPublicKey seed = some key →
    platform.sign seed id = some signature → platform.verify id key signature = true

/-- A v5 history behind a fresh anchor, with every signature in place. -/
structure SoundV5 (ledger : Ledger) (continuity : ContinuousLedgerV5) : Prop where
  history : Ledger.HistoryV5 platform.sha256 ledger continuity
  fresh : continuity.anchor = .fresh ledger.owner
  signed : ∀ event ∈ ledger.events, Engine.verifyEvent platform event event.signer = true
  attested : ∀ pair ∈ ledger.v5Pairs continuity,
    Engine.verifyLedgerEntryV5 platform (Ledger.entryOf ledger.owner pair.1 pair.2) = true

/-- The capsule in memory has a sound ledger. -/
def SoundState (state : RuntimeState) : Prop :=
  ∃ capsule continuity, state.capsule = some capsule ∧
    capsule.ledger.continuityV5 = some continuity ∧ SoundV5 platform capsule.ledger continuity

variable {platform} {ledger ledger' : Ledger} {continuity : ContinuousLedgerV5}

/-- Behind a fresh anchor there is no v4 prefix. -/
theorem SoundV5.base (h : SoundV5 platform ledger continuity) :
    continuity.legacyEventCount = 0 ∧ ledger.lastHash = 0 := by
  have hbase := h.history.base
  rw [Ledger.BaseV5, h.fresh] at hbase
  exact hbase

/-- **A sound ledger passes the engine's verifier.** -/
theorem SoundV5.verified (h : SoundV5 platform ledger continuity) :
    VerifiedV5 platform ledger continuity := by
  have hcount := h.base.1
  have hdistinct := h.history.distinct
  rw [hcount] at hdistinct
  refine ⟨⟨h.history.toLinkedV5, ?_, hdistinct⟩, ?_, ?_⟩
  · intro hpos
    omega
  · unfold Engine.verifyAnchor
    rw [h.fresh]
    rfl
  · intro pair hpair
    have hevent : pair.2 ∈ ledger.events := by
      have hmem := (List.of_mem_zip hpair).2
      exact List.mem_of_mem_drop hmem
    exact ⟨h.signed _ hevent, h.attested _ hpair⟩

/-- The ledger a capsule starts from is sound. -/
theorem soundV5_fresh (owner : PubKey) :
    SoundV5 platform (.freshV5 owner) ⟨.fresh owner, 0, []⟩ where
  history := by
    refine ⟨⟨rfl, Nat.le_refl 0, rfl, linked_nil _ _ _⟩, ⟨rfl, rfl⟩, ?_⟩
    intro i event hi
    simp [Ledger.v5Events, Ledger.freshV5] at hi
  fresh := rfl
  signed := by simp [Ledger.freshV5]
  attested := by simp [Ledger.v5Pairs]

/-- **Step lemma.** One more signed and attested entry keeps a ledger sound. -/
theorem SoundV5.pushEntry {entry : LedgerEntryV5} (h : SoundV5 platform ledger continuity)
    (hfits : Ledger.Fits platform.sha256 ledger continuity entry)
    (hsigned : Engine.verifyEvent platform entry.event entry.event.signer = true)
    (hattested : Engine.verifyLedgerEntryV5 platform entry = true) :
    SoundV5 platform (ledger.pushEntry continuity entry) (continuity.pushReceipt entry) where
  history := (Ledger.historyV5_pushEntry_iff h.history.legacyCount
    h.history.receiptCount hfits.entryOwner).mpr ⟨h.history, hfits⟩
  fresh := h.fresh
  signed := by
    intro event hevent
    rcases List.mem_append.mp hevent with hold | hnew
    · exact h.signed event hold
    · rw [List.mem_singleton.mp hnew]
      exact hsigned
  attested := by
    intro pair hpair
    rw [Ledger.v5Pairs_pushEntry h.history.legacyCount h.history.receiptCount,
      List.mem_append] at hpair
    rcases hpair with hold | hnew
    · exact h.attested pair hold
    · -- the new pair stands for the entry itself
      rw [List.mem_singleton.mp hnew]
      have hentry : Ledger.entryOf ledger.owner (Ledger.entryPair entry).1
          (Ledger.entryPair entry).2 = entry := by
        rw [← hfits.entryOwner]
        rfl
      show Engine.verifyLedgerEntryV5 platform (Ledger.entryOf ledger.owner _ _) = true
      rw [hentry]
      exact hattested

/-! ### What the engine signs -/

variable {engine : Engine Seed}

/-- An event the engine prepared verifies under its signer. -/
theorem prepareEvent_verified (hgenuine : platform.Genuine) {state : RuntimeState}
    {clock : Option UInt64} {kind : EventKind} {payload : List UInt8} {recipient : Option PubKey}
    {prepared : PreparedEvent}
    (h : (engine.prepareEvent platform state clock kind payload recipient).1 = .ok prepared) :
    Engine.verifyEvent platform prepared.event prepared.event.signer = true := by
  unfold Engine.prepareEvent at h
  cases hkey : engine.publicKey platform with
  | none => simp [hkey] at h
  | some signer =>
    simp only [hkey] at h
    cases hunsigned : engine.unsignedEvent kind payload (state.now clock).1 signer with
    | error error => simp [hunsigned] at h
    | ok unsigned =>
      simp only [hunsigned] at h
      cases hsign : platform.sign engine.seed (unsigned.eventId platform.sha256) with
      | none => simp [hsign] at h
      | some signature =>
        simp only [hsign, Except.ok.injEq] at h
        have hsigner : unsigned.signer = signer := by
          unfold Engine.unsignedEvent at hunsigned
          split_ifs at hunsigned
          · rw [← Except.ok.inj hunsigned]
            rfl
          · rw [← Except.ok.inj hunsigned]
            rfl
        -- the identifier does not read the signature that is put in
        rw [← h]
        show platform.verify (unsigned.eventId platform.sha256) unsigned.signer signature = true
        rw [hsigner]
        exact hgenuine _ _ _ _ hkey hsign

/-- An entry the engine prepared verifies under its owner. -/
theorem prepareLedgerEntryV5_verified (hgenuine : platform.Genuine) {sequence : UInt64}
    {previous : Commitment} {event : Event} {entry : LedgerEntryV5}
    (h : engine.prepareLedgerEntryV5 platform sequence previous event = .ok entry) :
    entry.event = event ∧ Engine.verifyLedgerEntryV5 platform entry = true := by
  unfold Engine.prepareLedgerEntryV5 at h
  cases hkey : engine.publicKey platform with
  | none => simp [hkey] at h
  | some owner =>
    simp only [hkey] at h
    split at h
    · simp at h
    · rename_i signature hsign
      rw [← Except.ok.inj h]
      refine ⟨rfl, ?_⟩
      unfold Engine.verifyLedgerEntryV5
      rw [LedgerEntryV5.commitment_withSignature]
      exact hgenuine _ _ _ _ hkey hsign

/-- A v5 append of a signed event keeps a ledger sound. -/
theorem appendV5Event_sound (hgenuine : platform.Genuine) {event : Event}
    (hc : ledger.continuityV5 = some continuity) (h : SoundV5 platform ledger continuity)
    (hsigned : Engine.verifyEvent platform event event.signer = true)
    (happend : appendV5Event platform engine ledger event = .ok ledger') :
    ∃ continuity', ledger'.continuityV5 = some continuity' ∧ ledger'.owner = ledger.owner ∧
      SoundV5 platform ledger' continuity' := by
  unfold appendV5Event at happend
  split_ifs at happend
  simp only [Ledger.nextSequenceV5, Ledger.tailCommitmentV5, hc] at happend
  split at happend
  · simp at happend
  rename_i entry hentry
  obtain ⟨hevent, hattested⟩ := prepareLedgerEntryV5_verified hgenuine hentry
  split at happend
  · simp at happend
  rename_i pushed hpush
  obtain ⟨continuity', hc', hfits, rfl⟩ := Ledger.appendV5_ok hpush
  obtain rfl := Option.some.inj (hc.symm.trans hc')
  rw [← Except.ok.inj happend]
  rw [← hevent] at hsigned
  exact ⟨_, rfl, rfl, h.pushEntry hfits hsigned hattested⟩

/-! ### The birth -/

variable {state state' : RuntimeState}

/-- One event of a birth keeps the new ledger sound. -/
private theorem appendBirthEvent_sound (hgenuine : platform.Genuine) {clock : Option UInt64}
    {failure : String} {kind : EventKind} {payload : List UInt8}
    (hc : ledger.continuityV5 = some continuity) (h : SoundV5 platform ledger continuity)
    (hbirth : appendBirthEvent platform engine clock failure kind payload ledger state
      = (.ok ledger', state')) :
    ∃ continuity', ledger'.continuityV5 = some continuity' ∧ SoundV5 platform ledger' continuity' ∧
      ledger'.owner = ledger.owner ∧ ∃ event, event.kind = kind ∧
        engine.publicKey platform = some event.signer ∧
        ledger'.events = ledger.events ++ [event] := by
  unfold appendBirthEvent at hbirth
  split at hbirth
  · simp at hbirth
  rename_i prepared middle hprepare
  have hprepared : (engine.prepareEvent platform state clock kind payload none).1
      = .ok prepared := by rw [hprepare]
  have happend := (Prod.mk.inj hbirth).1
  obtain ⟨continuity', hc', howner, hsound⟩ := appendV5Event_sound hgenuine hc h
    (prepareEvent_verified hgenuine hprepared) happend
  obtain ⟨hkind, -, hsigner⟩ := Engine.prepareEvent_ok platform hprepared
  exact ⟨continuity', hc', hsound, howner, prepared.event, hkind, hsigner,
    (appendV5Event_ok platform happend).2⟩

/-- The starters of a relay keep the new ledger sound, and they are no births. -/
private theorem appendBirthStarters_sound (hgenuine : platform.Genuine) {seed : Seed}
    {network : Network} {clock : ℕ → Option UInt64} {slot : ℕ} {kinds : List StarterKind}
    (hc : ledger.continuityV5 = some continuity) (h : SoundV5 platform ledger continuity)
    (hbirth : appendBirthStarters platform engine seed network clock slot kinds ledger state
      = (.ok ledger', state')) :
    ∃ continuity', ledger'.continuityV5 = some continuity' ∧ SoundV5 platform ledger' continuity' ∧
      ledger'.owner = ledger.owner ∧ ∃ more, (∀ event ∈ more, event.kind ≠ .capsuleCreated) ∧
        ledger'.events = ledger.events ++ more := by
  induction kinds generalizing slot ledger continuity state with
  | nil =>
    rw [appendBirthStarters] at hbirth
    rw [← Except.ok.inj (Prod.mk.inj hbirth).1]
    exact ⟨continuity, hc, h, rfl, [], by simp, by simp⟩
  | cons kind rest ih =>
    rw [appendBirthStarters] at hbirth
    split at hbirth
    · simp at hbirth
    rename_i middle _ hfirst
    obtain ⟨continuity₁, hc₁, hsound₁, howner₁, event, hkind, -, hevents₁⟩ :=
      appendBirthEvent_sound hgenuine hc h hfirst
    obtain ⟨continuity₂, hc₂, hsound₂, howner₂, more, hmore, hevents₂⟩ := ih hc₁ hsound₁ hbirth
    refine ⟨continuity₂, hc₂, hsound₂, howner₂.trans howner₁, event :: more, ?_, ?_⟩
    · intro other hother
      rcases List.mem_cons.mp hother with rfl | hother
      · rw [hkind]
        simp
      · exact hmore other hother
    · rw [hevents₂, hevents₁, List.append_assoc]
      rfl

/-- **The birth of a capsule.**  It leaves a sound ledger with one birth at its front. -/
theorem initRuntimeState_sound (hgenuine : platform.Genuine) {birthClock : Option UInt64}
    {starterClock : ℕ → Option UInt64} {seed : Seed} {network : Network} {capsuleType : CapsuleType}
    {ownerMode : CapsuleOwnerMode}
    (h : initRuntimeState platform birthClock starterClock state seed network capsuleType ownerMode
      = (.ok (), state')) :
    ∃ capsule continuity, state'.capsule = some capsule ∧
      capsule.ledger.continuityV5 = some continuity ∧ SoundV5 platform capsule.ledger continuity ∧
      capsule.ledger.events ≠ [] ∧ BornOnce capsule.ledger.owner capsule.ledger.events := by
  unfold initRuntimeState at h
  split at h
  · simp at h
  split at h
  · simp at h
  rename_i owner hkey
  dsimp only at h
  split at h
  · simp at h
  rename_i ledger middle hledger
  rw [← (Prod.mk.inj h).2]
  -- the birth, and behind it the starters of a relay
  unfold birthLedger at hledger
  split at hledger
  · simp at hledger
  rename_i born _ hborn
  obtain ⟨continuity, hc, hsound, howner, event, hkind, hsigner, hevents⟩ :=
    appendBirthEvent_sound hgenuine rfl (soundV5_fresh owner) hborn
  have hfirst : event.signer = owner :=
    Option.some.inj (hsigner.symm.trans hkey)
  have hone : born.events = [event] := hevents
  split at hledger
  · obtain ⟨continuity', hc', hsound', howner', more, hmore, hevents'⟩ :=
      appendBirthStarters_sound hgenuine hc hsound hledger
    refine ⟨⟨network, ledger⟩, continuity', rfl, hc', hsound', ?_, ?_⟩
    · show ledger.events ≠ []
      rw [hevents', hone]
      simp
    · show BornOnce ledger.owner ledger.events
      rw [hevents', hone, howner', howner]
      exact ⟨hkind, hfirst, hmore⟩
  · obtain rfl := Except.ok.inj (Prod.mk.inj hledger).1
    refine ⟨⟨network, born⟩, continuity, rfl, hc, hsound, ?_, ?_⟩
    · show born.events ≠ []
      rw [hone]
      simp
    · show BornOnce born.owner born.events
      rw [hone, howner]
      exact ⟨hkind, hfirst, by simp⟩

/-! ### The calls -/

/-- **Every append keeps the ledger sound.** -/
theorem soundState_kept (hgenuine : platform.Genuine) :
    KeptByAppends platform (fun _ => True) (SoundState platform) where
  prepare := by
    intro state engine clock kind payload recipient hsound
    unfold SoundState
    rw [Engine.prepareEvent_capsule]
    exact hsound
  own := by
    intro state before engine clock kind payload recipient prepared outside _ hprepared hsound
    obtain ⟨capsule, continuity, hcapsule, hc, hledger⟩ := hsound
    have hv5 : capsule.ledger.isContinuousV5 = true := by simp [Ledger.isContinuousV5, hc]
    unfold appendPreparedEvent
    simp only [hcapsule, hv5, if_true]
    split
    · exact ⟨capsule, continuity, hcapsule, hc, hledger⟩
    · split
      · exact ⟨capsule, continuity, hcapsule, hc, hledger⟩
      · rename_i ledger' happend
        obtain ⟨continuity', hc', -, hsound'⟩ := appendV5Event_sound hgenuine hc hledger
          (prepareEvent_verified hgenuine hprepared) happend
        exact ⟨{ capsule with ledger := ledger' }, continuity', rfl, hc', hsound'⟩
  remote := by
    intro state outside event _ hsound
    obtain ⟨capsule, continuity, hcapsule, hc, hledger⟩ := hsound
    have hv5 : capsule.ledger.isContinuousV5 = true := by simp [Ledger.isContinuousV5, hc]
    unfold appendVerifiedRuntimeEvent
    split
    · exact ⟨capsule, continuity, hcapsule, hc, hledger⟩
    simp only [hcapsule, hv5, if_true]
    split
    · exact ⟨capsule, continuity, hcapsule, hc, hledger⟩
    · rename_i hverify
      split
      · exact ⟨capsule, continuity, hcapsule, hc, hledger⟩
      · rename_i ledger' happend
        obtain ⟨continuity', hc', -, hsound'⟩ := appendV5Event_sound hgenuine hc hledger
          (by simpa using hverify) happend
        exact ⟨{ capsule with ledger := ledger' }, continuity', rfl, hc', hsound'⟩

end Sound

end Hivra
