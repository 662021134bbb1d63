import Hivra.Core.LedgerContinuity
import Hivra.Ffi.Runtime

namespace Hivra

open ByteString HashChain

/-!
# Importing a ledger

What the runtime checks before it takes over a ledger document: the structural check and
every signature of the continuous ledger, and the import check around them.  The parsed
document stands here; its text is read elsewhere.
-/

/-- Why a continuous ledger does not verify. -/
inductive LedgerV5VerificationError
  | structural (error : LedgerV5Error)
  | anchorSignature
  | domainSignature
  | entrySignature
  deriving DecidableEq

/-- The entries of a continuous ledger, rebuilt from its events and receipts. -/
def Ledger.v5Entries (ledger : Ledger) : Option (List LedgerEntryV5) :=
  match ledger.continuityV5 with
  | some continuity =>
    some ((continuity.receipts.zip (ledger.events.drop continuity.legacyEventCount)).map
      fun pair => Ledger.entryOf ledger.owner pair.1 pair.2)
  | none => none

section Import

variable {Seed : Type} (platform : Platform Seed)

namespace Engine

/-- Check the owner's signature of an entry. -/
def verifyLedgerEntryV5 (entry : LedgerEntryV5) : Bool :=
  platform.verify (entry.commitment platform.sha256) entry.owner entry.signature

/-- The loop over the entries: the domain signature, then the entry signature. -/
def verifyLedgerEntries : List LedgerEntryV5 → Except LedgerV5VerificationError Unit
  | [] => .ok ()
  | entry :: rest =>
    if verifyEvent platform entry.event entry.event.signer = false then
      .error .domainSignature
    else if verifyLedgerEntryV5 platform entry = false then
      .error .entrySignature
    else
      verifyLedgerEntries rest

/-- The anchor signature, when the anchor has one. -/
def verifyAnchor (anchor : LedgerAnchorV5) : Bool :=
  match anchor.signature with
  | some signature => platform.verify (anchor.commitment platform.sha256) anchor.owner signature
  | none => true

/-- The structural check, the anchor signature and the signatures of every entry. -/
def verifyLedgerV5 (ledger : Ledger) : Except LedgerV5VerificationError Unit :=
  match ledger.verifyV5Structure platform.sha256 with
  | .error error => .error (.structural error)
  | .ok () =>
    match ledger.continuityV5 with
    | none => .error (.structural .notContinuousLedger)
    | some continuity =>
      if verifyAnchor platform continuity.anchor = false then
        .error .anchorSignature
      else
        verifyLedgerEntries platform (ledger.v5Entries.getD [])

end Engine

/-- A continuous ledger that verifies: it is checked, its anchor is signed, and so is
    every event and every entry. -/
structure VerifiedV5 (ledger : Ledger) (continuity : ContinuousLedgerV5) : Prop extends
    Ledger.CheckedV5 platform.sha256 ledger continuity where
  anchorSigned : Engine.verifyAnchor platform continuity.anchor = true
  entriesSigned : ∀ pair ∈ ledger.v5Pairs continuity,
    Engine.verifyEvent platform pair.2 pair.2.signer = true ∧
      Engine.verifyLedgerEntryV5 platform (Ledger.entryOf ledger.owner pair.1 pair.2) = true

/-- The entry loop accepts when every entry is signed. -/
private theorem verifyLedgerEntries_iff (entries : List LedgerEntryV5) :
    Engine.verifyLedgerEntries platform entries = .ok () ↔
      ∀ entry ∈ entries, Engine.verifyEvent platform entry.event entry.event.signer = true ∧
        Engine.verifyLedgerEntryV5 platform entry = true := by
  induction entries with
  | nil => simp [Engine.verifyLedgerEntries]
  | cons entry rest ih =>
    rw [Engine.verifyLedgerEntries]
    split_ifs with hdomain hentry
    · simp [hdomain]
    · simp [hentry]
    · rw [ih]
      simp only [Bool.not_eq_false] at hdomain hentry
      simp [hdomain, hentry]

/-- **What the engine's verifier accepts.** -/
theorem verifyLedgerV5_iff {ledger : Ledger} {continuity : ContinuousLedgerV5}
    (hc : ledger.continuityV5 = some continuity) :
    Engine.verifyLedgerV5 platform ledger = .ok () ↔ VerifiedV5 platform ledger continuity := by
  have hchecked := Ledger.verifyV5Structure_iff platform.sha256 hc
  have hentries : ledger.v5Entries = some ((ledger.v5Pairs continuity).map
      fun pair => Ledger.entryOf ledger.owner pair.1 pair.2) := by
    simp [Ledger.v5Entries, hc, Ledger.v5Pairs, Ledger.v5Events]
  unfold Engine.verifyLedgerV5
  cases hstructure : ledger.verifyV5Structure platform.sha256 with
  | error error =>
    refine ⟨fun h => by simp at h, fun h => ?_⟩
    rw [hchecked.mpr h.toCheckedV5] at hstructure
    cases hstructure
  | ok value =>
    simp only [hc, hentries, Option.getD_some]
    split_ifs with hanchor
    · exact ⟨fun h => by simp at h, fun h => absurd h.anchorSigned (by simp [hanchor])⟩
    · rw [verifyLedgerEntries_iff]
      simp only [Bool.not_eq_false] at hanchor
      constructor
      · intro h
        refine ⟨hchecked.mp hstructure, hanchor, ?_⟩
        intro pair hpair
        exact h _ (List.mem_map_of_mem hpair)
      · intro h entry hentry
        obtain ⟨pair, hpair, rfl⟩ := List.mem_map.mp hentry
        exact h.entriesSigned pair hpair

/-! ### The import check -/

/-- Every event is signed by its signer. -/
def verifyLedgerEventSignatures (ledger : Ledger) : Except String Unit :=
  if ledger.events.all fun event => Engine.verifyEvent platform event event.signer then
    .ok ()
  else
    .error "ledger event signature invalid"

/-- The birth at the front of a ledger that is not empty. -/
def checkCapsuleBirth (owner : PubKey) (events : List Event) : Except String Unit :=
  match events with
  | [] => .ok ()
  | first :: _ =>
    if first.kind ≠ .capsuleCreated then
      .error "ledger missing capsule birth"
    else if first.signer ≠ owner then
      .error "capsule birth signer mismatch"
    else
      .ok ()

/-- The loop over the births: there is one, and it stands at the front. -/
def checkCapsuleBirths (owner : PubKey) (index : ℕ) (birthIndex : Option ℕ) :
    List Event → Except String Unit
  | [] => .ok ()
  | event :: rest =>
    if event.kind ≠ .capsuleCreated then
      checkCapsuleBirths owner (index + 1) birthIndex rest
    else if birthIndex.isSome then
      .error "duplicate capsule birth"
    else if index ≠ 0 then
      .error "capsule birth misplaced"
    else if event.signer ≠ owner then
      .error "capsule birth signer mismatch"
    else
      checkCapsuleBirths owner (index + 1) (some index) rest

/-- The checks on an imported ledger of either protocol. -/
def validateImportedLedger (parsed : Ledger) (owner : PubKey) (verifySignatures : Bool) :
    Except String Unit :=
  if parsed.owner ≠ owner then
    .error "owner mismatch"
  else if parsed.verify platform.sha256 = false then
    .error "ledger inconsistent"
  else
    (if verifySignatures then verifyLedgerEventSignatures platform parsed else .ok ()) >>= fun _ =>
      checkCapsuleBirth parsed.owner parsed.events >>= fun _ =>
        checkCapsuleBirths parsed.owner 0 none parsed.events

/-- An event list is empty or starts with the one birth of its owner. -/
def BornOnce (owner : PubKey) : List Event → Prop
  | [] => True
  | first :: rest =>
    first.kind = .capsuleCreated ∧ first.signer = owner ∧
      ∀ event ∈ rest, event.kind ≠ .capsuleCreated

/-- Behind a birth the loop accepts when there is no other. -/
private theorem checkCapsuleBirths_some (owner : PubKey) (index birth : ℕ) (events : List Event) :
    checkCapsuleBirths owner index (some birth) events = .ok () ↔
      ∀ event ∈ events, event.kind ≠ .capsuleCreated := by
  induction events generalizing index with
  | nil => simp [checkCapsuleBirths]
  | cons event rest ih =>
    rw [checkCapsuleBirths]
    split_ifs with hkind
    · rw [ih]
      simp [hkind]
    · simp [not_not.mp hkind]
    all_goals simp_all

/-- What both birth checks accept. -/
private theorem birthChecks_iff (owner : PubKey) (events : List Event) :
    (checkCapsuleBirth owner events = .ok () ∧ checkCapsuleBirths owner 0 none events = .ok ()) ↔
      BornOnce owner events := by
  cases events with
  | nil => simp [checkCapsuleBirth, checkCapsuleBirths, BornOnce]
  | cons first rest =>
    rw [checkCapsuleBirth, checkCapsuleBirths, BornOnce]
    by_cases hkind : first.kind = .capsuleCreated
    · by_cases hsigner : first.signer = owner
      · rw [if_neg (not_not.mpr hkind), if_neg (not_not.mpr hsigner), if_neg (not_not.mpr hkind),
          if_neg (by simp), if_neg (by simp), if_neg (not_not.mpr hsigner),
          checkCapsuleBirths_some]
        simp [hkind, hsigner]
      · simp [hkind, hsigner]
    · simp [hkind]

/-- A ledger of an owner that passes the import check with signatures. -/
structure ValidImport (owner : PubKey) (ledger : Ledger) : Prop where
  owner_eq : ledger.owner = owner
  verified : ledger.verify platform.sha256 = true
  signed : ∀ event ∈ ledger.events, Engine.verifyEvent platform event event.signer = true
  born : BornOnce ledger.owner ledger.events

/-- Two checks in a row accept when both do. -/
private theorem bind_eq_ok {first : Except String Unit} {second : Except String Unit} :
    (first >>= fun _ => second) = .ok () ↔ first = .ok () ∧ second = .ok () := by
  cases first with
  | error message => exact ⟨fun h => (by cases h), fun h => (by cases h.1)⟩
  | ok value => exact ⟨fun h => ⟨rfl, h⟩, fun h => h.2⟩

/-- **What the import check accepts.** -/
theorem validateImportedLedger_iff (parsed : Ledger) (owner : PubKey) :
    validateImportedLedger platform parsed owner true = .ok () ↔
      ValidImport platform owner parsed := by
  have hsignatures : verifyLedgerEventSignatures platform parsed = .ok () ↔
      ∀ event ∈ parsed.events, Engine.verifyEvent platform event event.signer = true := by
    simp [verifyLedgerEventSignatures]
  unfold validateImportedLedger
  split
  · rename_i howner
    exact ⟨fun h => (by cases h), fun h => absurd h.owner_eq howner⟩
  · rename_i howner
    split
    · rename_i hverify
      refine ⟨fun h => (by cases h), fun h => ?_⟩
      rw [h.verified] at hverify
      cases hverify
    · rename_i hverify
      rw [if_pos rfl, bind_eq_ok, bind_eq_ok, hsignatures, birthChecks_iff]
      constructor
      · rintro ⟨hsigned, hborn⟩
        exact ⟨not_not.mp howner, by simpa using hverify, hsigned, hborn⟩
      · intro h
        exact ⟨h.signed, h.born⟩

/-! ### The import -/

/-- Remember the timestamp of the last event. -/
def RuntimeState.observeLedgerTailTs (state : RuntimeState) (ledger : Ledger) : RuntimeState :=
  match ledger.events.getLast? with
  | some last => state.observeEngineTs last.timestamp
  | none => state

@[simp] theorem RuntimeState.observeLedgerTailTs_capsule (state : RuntimeState)
    (ledger : Ledger) : (state.observeLedgerTailTs ledger).capsule = state.capsule := by
  unfold observeLedgerTailTs
  split <;> rfl

/-- The anchor that the engine signs over a v4 snapshot. -/
def Engine.prepareLegacyAnchorV5 (engine : Engine Seed) (snapshot : Commitment) :
    Except EngineError LedgerAnchorV5 :=
  match engine.publicKey platform with
  | none => .error .keystore
  | some owner =>
    let unsigned := LedgerAnchorV5.legacyV4 owner snapshot ⟨fill 64 0⟩
    match platform.sign engine.seed (unsigned.commitment platform.sha256) with
    | none => .error .keystore
    | some signature => .ok (.legacyV4 owner snapshot signature)

/-- The v5 ledger that a validated document stands for: a continuous ledger is verified,
    a v4 ledger is migrated.  `toVec` is the exported form of a ledger. -/
def admitImportedLedger (toVec : Ledger → List UInt8) (loadSeed : Option Seed)
    (parsed : Ledger) : Except String Ledger :=
  match loadSeed with
  | none => .error "seed not found"
  | some seed =>
    if parsed.isContinuousV5 then
      match Engine.verifyLedgerV5 platform parsed with
      | .error _ => .error "v5 ledger signature invalid"
      | .ok () => .ok parsed
    else
      let snapshot := LedgerAnchorV5.legacySnapshotCommitment platform.sha256 (toVec parsed)
      match (buildEngineForLedger seed parsed).prepareLegacyAnchorV5 platform snapshot with
      | .error _ => .error "failed to sign v4 migration anchor"
      | .ok anchor =>
        match parsed.migrateV4 platform.sha256 anchor with
        | .error _ => .error "v4 migration failed"
        | .ok migrated => .ok migrated

variable {platform} in
/-- An admitted ledger is the parsed one, or its migration. -/
theorem admitImportedLedger_ok {toVec : Ledger → List UInt8} {loadSeed : Option Seed}
    {parsed admitted : Ledger}
    (h : admitImportedLedger platform toVec loadSeed parsed = .ok admitted) :
    (parsed.isContinuousV5 = true ∧ admitted = parsed) ∨ ∃ anchor, admitted = { parsed with
      continuityV5 := some ⟨anchor, parsed.events.length, []⟩ } := by
  unfold admitImportedLedger at h
  split at h
  · cases h
  · split at h
    · rename_i hv5
      split at h
      · cases h
      · exact Or.inl ⟨hv5, (Except.ok.inj h).symm⟩
    · dsimp only at h
      split at h
      · cases h
      · split at h
        · cases h
        · rename_i anchor _ _ migrated hmigrate
          obtain ⟨-, -, -, rfl⟩ := Ledger.migrateV4_ok hmigrate
          exact Or.inr ⟨anchor, (Except.ok.inj h).symm⟩

/-- Take over a parsed ledger document. -/
def importRuntimeLedger (toVec : Ledger → List UInt8) (outside : Outside Seed)
    (state : RuntimeState) (parsed : Ledger) : Except String Unit × RuntimeState :=
  match state.capsule with
  | none => (.error "no capsule", state)
  | some capsule =>
    match validateImportedLedger platform parsed capsule.pubkey true with
    | .error message => (.error message, state)
    | .ok () =>
      match admitImportedLedger platform toVec outside.loadSeed parsed with
      | .error message => (.error message, state)
      | .ok admitted =>
        (.ok (), (state.observeLedgerTailTs admitted).withLedger capsule admitted)

/-- **When a continuous ledger is imported.** It is the capsule's, its checks and its
    signatures hold, and there is a seed; the ledger is then taken over as it is. -/
theorem importRuntimeLedger_v5_iff (toVec : Ledger → List UInt8) {outside : Outside Seed}
    {state : RuntimeState} {capsule : Capsule} (hcapsule : state.capsule = some capsule)
    {ledger : Ledger} {continuity : ContinuousLedgerV5}
    (hc : ledger.continuityV5 = some continuity) :
    importRuntimeLedger platform toVec outside state ledger
        = (.ok (), (state.observeLedgerTailTs ledger).withLedger capsule ledger) ↔
      ValidImport platform capsule.pubkey ledger ∧ outside.loadSeed.isSome = true ∧
        VerifiedV5 platform ledger continuity := by
  have hv5 : ledger.isContinuousV5 = true := by simp [Ledger.isContinuousV5, hc]
  rw [← validateImportedLedger_iff, ← verifyLedgerV5_iff platform hc]
  unfold importRuntimeLedger admitImportedLedger
  simp only [hcapsule]
  cases hvalid : validateImportedLedger platform ledger capsule.pubkey true with
  | error message => simp
  | ok value =>
    cases hseed : outside.loadSeed with
    | none => simp
    | some seed =>
      simp only [hv5, ↓reduceIte]
      cases Engine.verifyLedgerV5 platform ledger with
      | error error => simp
      | ok value => simp

end Import

end Hivra
