import Hivra.Ffi.LedgerImport

namespace Hivra

open ByteString HashChain

/-!
# What a legacy anchor attests

A migrated ledger starts with a v4 prefix, and its signed anchor carries the commitment to
one v4 snapshot.  No check recomputes that commitment: the prefix is only held against a
running hash that the document itself supplies.  So a verified ledger stays verified when
its prefix is replaced, as long as the new prefix is a v4 history of its own.
-/

namespace Ledger

/-- The v4 part of the event list. -/
def legacyEvents (ledger : Ledger) (continuity : ContinuousLedgerV5) : List Event :=
  ledger.events.take continuity.legacyEventCount

/-- The continuity record with the count of another prefix. -/
def withLegacyCount (continuity : ContinuousLedgerV5) (legacy : List Event) : ContinuousLedgerV5 :=
  { continuity with legacyEventCount := legacy.length }

/-- The same signed history behind another v4 prefix; the running hash is that of the new
    prefix. -/
def withPrefix (ledger : Ledger) (continuity : ContinuousLedgerV5) (legacy : List Event) : Ledger :=
  { ledger with
    events := legacy ++ ledger.v5Events continuity
    lastHash := legacy.foldl chainHash 0
    continuityV5 := some (withLegacyCount continuity legacy) }

variable (ledger : Ledger) (continuity : ContinuousLedgerV5) (legacy : List Event)

@[simp] theorem v5Events_withPrefix :
    (ledger.withPrefix continuity legacy).v5Events (withLegacyCount continuity legacy)
      = ledger.v5Events continuity :=
  List.drop_left

@[simp] theorem v5Pairs_withPrefix :
    (ledger.withPrefix continuity legacy).v5Pairs (withLegacyCount continuity legacy)
      = ledger.v5Pairs continuity := by
  rw [v5Pairs, v5Events_withPrefix]
  rfl

@[simp] theorem legacyEvents_withPrefix :
    (ledger.withPrefix continuity legacy).legacyEvents (withLegacyCount continuity legacy)
      = legacy :=
  List.take_left

/-- A prefix that may stand in front of a signed history: a v4 history whose event ids
    continue those of the old prefix, by ids that no v5 event has. -/
structure Continues (sha256 : Sha256) : Prop where
  history : V4History legacy (legacy.foldl chainHash 0)
  ids : (ledger.legacyEvents continuity).map (Event.eventId sha256)
    <+: legacy.map (Event.eventId sha256)
  fresh : ∀ event ∈ legacy.drop (ledger.legacyEvents continuity).length,
    ∀ signed ∈ ledger.v5Events continuity, event.eventId sha256 ≠ signed.eventId sha256

variable {ledger continuity legacy} {sha256 : Sha256}

/-- The id check looks at the same ids in front of a signed history, and at new ones. -/
private theorem idsDistinct_withPrefix (hcount : continuity.legacyEventCount ≤ ledger.events.length)
    (hold : IdsDistinct sha256 ledger continuity 0)
    (h : Continues ledger continuity legacy sha256) :
    IdsDistinct sha256 (ledger.withPrefix continuity legacy)
      (withLegacyCount continuity legacy) 0 := by
  intro i event hi earlier hearlier
  rw [v5Events_withPrefix] at hi
  have hmem : event ∈ ledger.v5Events continuity := List.mem_of_getElem? hi
  obtain ⟨j, hj⟩ := List.mem_iff_getElem?.mp hearlier
  rw [List.getElem?_take] at hj
  split_ifs at hj with hlt
  have hlt' : j < 0 + i := hlt
  have hj' : (legacy ++ ledger.v5Events continuity)[j]? = some earlier := hj
  have hlength : (ledger.legacyEvents continuity).length = continuity.legacyEventCount := by
    rw [legacyEvents, List.length_take]
    omega
  -- the earlier event stands in the old ids, in the new ones, or in the signed history
  by_cases hin : j < legacy.length
  · rw [List.getElem?_append_left hin] at hj'
    by_cases hfront : j < (ledger.legacyEvents continuity).length
    · obtain ⟨tail, htail⟩ := h.ids
      have hid : ((ledger.legacyEvents continuity).map (Event.eventId sha256))[j]?
          = some (earlier.eventId sha256) := by
        have hnew : (legacy.map (Event.eventId sha256))[j]? = some (earlier.eventId sha256) := by
          rw [List.getElem?_map, hj']
          rfl
        rw [← htail, List.getElem?_append_left (by simpa using hfront)] at hnew
        exact hnew
      rw [List.getElem?_map, Option.map_eq_some_iff] at hid
      obtain ⟨original, horiginal, hsame⟩ := hid
      rw [← hsame]
      refine hold i event hi original ?_
      rw [legacyEvents, List.getElem?_take] at horiginal
      split_ifs at horiginal
      rw [List.mem_iff_getElem?]
      exact ⟨j, by rw [List.getElem?_take_of_lt hlt']; exact horiginal⟩
    · refine h.fresh earlier ?_ event hmem
      rw [List.mem_iff_getElem?]
      refine ⟨j - (ledger.legacyEvents continuity).length, ?_⟩
      rw [List.getElem?_drop, ← hj']
      congr 1
      omega
  · rw [List.getElem?_append_right (by omega), v5Events, List.getElem?_drop] at hj'
    have hprefix := h.ids.length_le
    rw [List.length_map, List.length_map, hlength] at hprefix
    refine hold i event hi earlier ?_
    rw [List.mem_iff_getElem?]
    refine ⟨continuity.legacyEventCount + (j - legacy.length), ?_⟩
    rw [List.getElem?_take_of_lt (by omega)]
    exact hj'

/-- **The structural check does not see the old prefix.** -/
theorem CheckedV5.withPrefix (hchecked : CheckedV5 sha256 ledger continuity)
    (h : Continues ledger continuity legacy sha256) :
    CheckedV5 sha256 (ledger.withPrefix continuity legacy)
      (withLegacyCount continuity legacy) := by
  refine ⟨⟨hchecked.anchorOwner, ?_, ?_, ?_⟩, ?_,
    idsDistinct_withPrefix hchecked.legacyCount hchecked.distinct h⟩
  · show legacy.length ≤ (legacy ++ ledger.v5Events continuity).length
    rw [List.length_append]
    omega
  · show continuity.receipts.length
      = (legacy ++ ledger.v5Events continuity).length - legacy.length
    rw [List.length_append, hchecked.receiptCount, v5Events, List.length_drop]
    omega
  · rw [v5Pairs_withPrefix]
    exact hchecked.linked
  · intro _
    show V4History ((ledger.withPrefix continuity legacy).legacyEvents
      (withLegacyCount continuity legacy)) _
    rw [legacyEvents_withPrefix]
    exact h.history

end Ledger

section Anchor

variable {Seed : Type} {platform : Platform Seed} {ledger : Ledger}
  {continuity : ContinuousLedgerV5}

/-- **No check of the verifier sees the old prefix.** -/
theorem VerifiedV5.withPrefix {legacy : List Event}
    (hverified : VerifiedV5 platform ledger continuity)
    (h : Ledger.Continues ledger continuity legacy platform.sha256) :
    VerifiedV5 platform (ledger.withPrefix continuity legacy)
      (Ledger.withLegacyCount continuity legacy) := by
  refine ⟨hverified.toCheckedV5.withPrefix h, hverified.anchorSigned, ?_⟩
  rw [Ledger.v5Pairs_withPrefix]
  exact hverified.entriesSigned

/-! ### A prefix with one more event -/

/-- An event that a prefix can be extended with: the last moment there is. -/
def latestEvent (payload : List UInt8) : Event :=
  .new .invitationSent payload (UInt64.ofNat (2 ^ 64 - 1)) ⟨fill 64 0⟩ ⟨fill 32 0⟩

/-- The digest tells the v4 event of some new payload apart from every event of the signed
    history. -/
def TellsApart (sha256 : Sha256) (ledger : Ledger) (continuity : ContinuousLedgerV5) : Prop :=
  ∃ payload, (∀ event ∈ ledger.legacyEvents continuity, event.payload ≠ payload) ∧
    ∀ signed ∈ ledger.v5Events continuity,
      (latestEvent payload).eventId sha256 ≠ signed.eventId sha256

/-- A v4 history with one more event at the last moment. -/
private theorem v4History_latest {events : List Event} {payload : List UInt8}
    (h : V4History events (events.foldl chainHash 0))
    (hnew : ∀ event ∈ events, event.payload ≠ payload) :
    V4History (events ++ [latestEvent payload])
      ((events ++ [latestEvent payload]).foldl chainHash 0) := by
  refine ⟨?_, ?_, ?_, rfl⟩
  · intro event hevent
    rcases List.mem_append.mp hevent with hold | hlast
    · exact h.versions event hold
    · rw [List.mem_singleton.mp hlast]
      rfl
  · rw [List.nodup_append]
    refine ⟨h.nodup, by simp, ?_⟩
    intro event hevent last hlast heq
    rw [List.mem_singleton.mp hlast] at heq
    exact hnew event hevent (by rw [heq]; rfl)
  · rw [List.pairwise_append]
    refine ⟨h.ordered, by simp, ?_⟩
    intro event _ last hlast
    rw [List.mem_singleton.mp hlast]
    show event.timestamp ≤ UInt64.ofNat (2 ^ 64 - 1)
    rw [UInt64.le_iff_toNat_le]
    have hbound := event.timestamp.toNat_lt
    show event.timestamp.toNat ≤ 2 ^ 64 - 1
    omega

/-- The prefix of a checked ledger is a v4 history. -/
private theorem legacyHistory_of_checked {sha256 : Sha256}
    (h : Ledger.CheckedV5 sha256 ledger continuity) :
    V4History (ledger.legacyEvents continuity)
      ((ledger.legacyEvents continuity).foldl chainHash 0) := by
  by_cases hpos : 0 < continuity.legacyEventCount
  · have hhistory : V4History (ledger.legacyEvents continuity) ledger.lastHash := h.legacy hpos
    exact ⟨hhistory.versions, hhistory.nodup, hhistory.ordered, rfl⟩
  · have hnil : ledger.legacyEvents continuity = [] := by
      rw [Ledger.legacyEvents, Nat.eq_zero_of_not_pos hpos, List.take_zero]
    rw [hnil]
    exact ⟨by simp, by simp, by simp, rfl⟩

/-- A checked ledger has another prefix that continues its own. -/
private theorem exists_continues {sha256 : Sha256}
    (hchecked : Ledger.CheckedV5 sha256 ledger continuity)
    (hapart : TellsApart sha256 ledger continuity) :
    ∃ payload, Ledger.Continues ledger continuity
      (ledger.legacyEvents continuity ++ [latestEvent payload]) sha256 := by
  obtain ⟨payload, hnew, hid⟩ := hapart
  refine ⟨payload, v4History_latest (legacyHistory_of_checked hchecked) hnew, ?_, ?_⟩
  · rw [List.map_append]
    exact List.prefix_append _ _
  · intro event hevent signed hsigned
    rw [List.drop_left, List.mem_singleton] at hevent
    rw [hevent]
    exact hid signed hsigned

/-! ### Binding -/

/-- Two continuous ledgers with the same anchor, receipts and signed events. -/
structure SameHistory (ledger : Ledger) (continuity : ContinuousLedgerV5) (other : Ledger)
    (otherContinuity : ContinuousLedgerV5) : Prop where
  anchor : otherContinuity.anchor = continuity.anchor
  receipts : otherContinuity.receipts = continuity.receipts
  events : other.v5Events otherContinuity = ledger.v5Events continuity

variable (platform ledger continuity) in
/-- Whatever verifies with the signed history of a ledger has its prefix. -/
def PrefixBound : Prop :=
  ∀ other otherContinuity, other.continuityV5 = some otherContinuity →
    Engine.verifyLedgerV5 platform other = .ok () →
    SameHistory ledger continuity other otherContinuity →
    other.legacyEvents otherContinuity = ledger.legacyEvents continuity

/-- The snapshot commitment of a v4 prefix, in the exported form `toVec`. -/
def snapshotOf (sha256 : Sha256) (toVec : Ledger → List UInt8) (owner : PubKey)
    (legacy : List Event) : Commitment :=
  LedgerAnchorV5.legacySnapshotCommitment sha256 (toVec (.ofEvents owner legacy))

/-- The anchor of a ledger commits to the ledger's own prefix. -/
def AttestsPrefix (sha256 : Sha256) (toVec : Ledger → List UInt8) (ledger : Ledger)
    (continuity : ContinuousLedgerV5) : Prop :=
  ∀ owner snapshot signature, continuity.anchor = .legacyV4 owner snapshot signature →
    snapshot = snapshotOf sha256 toVec owner (ledger.legacyEvents continuity)

variable (platform ledger continuity) in
/-- Whatever verifies with the signed history of a ledger has an anchor that commits to
    its own prefix. -/
def SnapshotChecked (toVec : Ledger → List UInt8) : Prop :=
  ∀ other otherContinuity, other.continuityV5 = some otherContinuity →
    Engine.verifyLedgerV5 platform other = .ok () →
    SameHistory ledger continuity other otherContinuity →
    AttestsPrefix platform.sha256 toVec other otherContinuity

/-- **What comparing the snapshot would give.** If it were compared, and no other prefix had
    the snapshot commitment of this one, the history would bind the prefix. -/
theorem prefixBound_of_snapshotChecked {toVec : Ledger → List UInt8} {owner : PubKey}
    {snapshot : Commitment} {signature : Signature}
    (hanchor : continuity.anchor = .legacyV4 owner snapshot signature)
    (hc : ledger.continuityV5 = some continuity)
    (hverify : Engine.verifyLedgerV5 platform ledger = .ok ())
    (hideal : ∀ legacy, snapshotOf platform.sha256 toVec owner legacy
      = snapshotOf platform.sha256 toVec owner (ledger.legacyEvents continuity) →
        legacy = ledger.legacyEvents continuity)
    (hchecked : SnapshotChecked platform ledger continuity toVec) :
    PrefixBound platform ledger continuity := by
  intro other otherContinuity hother hverifyOther hsame
  have hown := hchecked ledger continuity hc hverify ⟨rfl, rfl, rfl⟩ _ _ _ hanchor
  have hotherAnchor : otherContinuity.anchor = .legacyV4 owner snapshot signature :=
    hsame.anchor.trans hanchor
  have htheirs := hchecked other otherContinuity hother hverifyOther hsame _ _ _ hotherAnchor
  exact hideal _ (htheirs.symm.trans hown)

/-- **Binding fails.** No verified migrated ledger determines its prefix: another prefix
    verifies with the same anchor, receipts and signed events.  So the snapshot of the
    anchor is not compared with the prefix either, when it identifies the prefix at all. -/
theorem prefixBound_never {owner : PubKey} {snapshot : Commitment} {signature : Signature}
    (hc : ledger.continuityV5 = some continuity)
    (hanchor : continuity.anchor = .legacyV4 owner snapshot signature)
    (hverify : Engine.verifyLedgerV5 platform ledger = .ok ())
    (hapart : TellsApart platform.sha256 ledger continuity) :
    ¬ PrefixBound platform ledger continuity ∧
      ∀ toVec, (∀ legacy, snapshotOf platform.sha256 toVec owner legacy
          = snapshotOf platform.sha256 toVec owner (ledger.legacyEvents continuity) →
            legacy = ledger.legacyEvents continuity) →
        ¬ SnapshotChecked platform ledger continuity toVec := by
  have hverified := (verifyLedgerV5_iff platform hc).mp hverify
  obtain ⟨payload, hcontinues⟩ := exists_continues hverified.toCheckedV5 hapart
  have hunbound : ¬ PrefixBound platform ledger continuity := by
    intro hbound
    have hother := hbound _ (Ledger.withLegacyCount continuity _) rfl
      ((verifyLedgerV5_iff platform rfl).mpr (hverified.withPrefix hcontinues))
      ⟨rfl, rfl, Ledger.v5Events_withPrefix _ _ _⟩
    rw [Ledger.legacyEvents_withPrefix] at hother
    -- the new prefix is one event longer
    have hlength := congrArg List.length hother
    rw [List.length_append, List.length_singleton] at hlength
    omega
  refine ⟨hunbound, fun toVec hideal hchecked => hunbound ?_⟩
  exact prefixBound_of_snapshotChecked hanchor hc hverify hideal hchecked

end Anchor

/-! ### A prefix that lost its time -/

/-- The seed of a capsule: a root and a transport key. -/
def keeperSeed : PubKey × PubKey := (⟨fill 32 7⟩, ⟨fill 32 17⟩)

/-- An event of the keeper, signed. -/
def keeperSigned (event : Event) : Event :=
  { event with
    signature := (samplePlatform.sign keeperSeed (event.eventId sampleDigest)).getD ⟨fill 64 0⟩ }

/-- The birth of the capsule, in protocol v4. -/
def keptBirth : Event := keeperSigned (.new .capsuleCreated [1, 0] 5 ⟨fill 64 0⟩ keeperSeed.1)

/-- An event after the migration. -/
def keptEvent : Event := keeperSigned (.newV5 .starterCreated [2] 6 ⟨fill 64 0⟩ keeperSeed.1)

/-- An exported form: the bytes and the time of every event. -/
def sampleVec (ledger : Ledger) : List UInt8 :=
  ledger.events.flatMap fun event => event.eventIdPreimage ++ be64 event.timestamp

/-- The snapshot of the birth. -/
def keptSnapshot : Commitment := snapshotOf sampleDigest sampleVec keeperSeed.1 [keptBirth]

/-- The anchor the engine signs over it. -/
def keptAnchor : LedgerAnchorV5 :=
  .legacyV4 keeperSeed.1 keptSnapshot ((samplePlatform.sign keeperSeed
    (LedgerAnchorV5.commitment sampleDigest
      (.legacyV4 keeperSeed.1 keptSnapshot ⟨fill 64 0⟩))).getD ⟨fill 64 0⟩)

/-- The entry of the event after the migration, before it is signed. -/
def keptEntry : LedgerEntryV5 :=
  .unsigned keeperSeed.1 0 (keptAnchor.commitment sampleDigest) keptEvent

/-- The continuity record of the migrated ledger with its one receipt. -/
def keptContinuity : ContinuousLedgerV5 where
  anchor := keptAnchor
  legacyEventCount := 1
  receipts := [{
    sequence := 0
    previousCommitment := keptAnchor.commitment sampleDigest
    signature := (samplePlatform.sign keeperSeed (keptEntry.commitment sampleDigest)).getD
      ⟨fill 64 0⟩ }]

/-- The ledger as the capsule made it. -/
def keptLedger : Ledger where
  events := [keptBirth, keptEvent]
  owner := keeperSeed.1
  lastHash := chainHash 0 keptBirth
  continuityV5 := some keptContinuity

/-- The birth at another time. -/
def laterBirth : Event := { keptBirth with timestamp := 9 }

/-- The same ledger with the later birth. -/
def retimedLedger : Ledger := keptLedger.withPrefix keptContinuity [laterBirth]

/-- A capsule of the keeper that imports. -/
def keeperState : RuntimeState := ⟨some ⟨.hood, .freshV5 keeperSeed.1⟩, 0⟩

/-- The seed store during the import. -/
def keeperOutside : Outside (PubKey × PubKey) := ⟨some keeperSeed, none⟩

/-- The kept ledger verifies, so its history does not bind its prefix. -/
theorem prefixBound_never_kept :
    ¬ PrefixBound samplePlatform keptLedger keptContinuity ∧
      ∀ toVec, (∀ legacy, snapshotOf sampleDigest toVec keeperSeed.1 legacy
          = snapshotOf sampleDigest toVec keeperSeed.1
              (keptLedger.legacyEvents keptContinuity) →
            legacy = keptLedger.legacyEvents keptContinuity) →
        ¬ SnapshotChecked samplePlatform keptLedger keptContinuity toVec := by
  refine @prefixBound_never _ samplePlatform keptLedger keptContinuity keeperSeed.1 _ _ rfl rfl
    (by decide +kernel) ?_
  refine ⟨[3], ?_, ?_⟩
  · decide +kernel
  · decide +kernel

/-- **Counterexample.** The import takes the ledger the capsule made and the same ledger
    with another birth time; the anchor commits to the first prefix only. -/
theorem import_accepts_retimed :
    (importRuntimeLedger samplePlatform sampleVec keeperOutside keeperState keptLedger).1 = .ok () ∧
      (importRuntimeLedger samplePlatform sampleVec keeperOutside keeperState retimedLedger).1
        = .ok () ∧
      AttestsPrefix sampleDigest sampleVec keptLedger keptContinuity ∧
      ¬ SnapshotChecked samplePlatform keptLedger keptContinuity sampleVec ∧
      ¬ PrefixBound samplePlatform keptLedger keptContinuity := by
  have hverify : Engine.verifyLedgerV5 samplePlatform retimedLedger = .ok () := by
    decide +kernel
  have hsame : SameHistory keptLedger keptContinuity retimedLedger
      (Ledger.withLegacyCount keptContinuity [laterBirth]) := ⟨rfl, rfl, by decide +kernel⟩
  refine ⟨by decide +kernel, by decide +kernel, ?_, ?_, ?_⟩
  · intro owner snapshot signature hanchor
    have hkept : keptAnchor = .legacyV4 owner snapshot signature := hanchor
    have hlegacy : keptLedger.legacyEvents keptContinuity = [keptBirth] := rfl
    simp only [keptAnchor, LedgerAnchorV5.legacyV4.injEq] at hkept
    obtain ⟨howner, hsnapshot, -⟩ := hkept
    rw [← howner, ← hsnapshot, hlegacy]
    unfold keptSnapshot
    rfl
  · intro hchecked
    have hattests := hchecked _ _ rfl hverify hsame _ _ _ rfl
    exact absurd hattests (by decide +kernel)
  · intro hbound
    have hprefix := hbound _ _ rfl hverify hsame
    exact absurd hprefix (by decide +kernel)

end Hivra
