import Hivra.Core.LedgerContinuity

namespace Hivra

open ByteString HashChain

/-!
# Where verifier and appender disagree

The appender reaches exactly the v5 histories; the structural verifier also accepts
ledgers with one of three defects, which deserialisation can produce.
-/

namespace Ledger

variable (sha256 : Sha256) {ledger : Ledger} {continuity : ContinuousLedgerV5}

/-! ### Reachable ledgers -/

/-- A fresh v5 ledger is a v5 history. -/
private theorem historyV5_fresh (owner : PubKey) :
    HistoryV5 sha256 (freshV5 owner) ⟨.fresh owner, 0, []⟩ := by
  refine ⟨⟨rfl, Nat.le_refl 0, rfl, linked_nil _ _ _⟩, ⟨rfl, rfl⟩, ?_⟩
  intro i event hi
  simp [v5Events, freshV5] at hi

/-- A ledger with a continuity record and no receipts is a history iff it is fresh or
    migrated. -/
private theorem historyV5_nil {legacy : Ledger} {anchor : LedgerAnchorV5}
    (howner : anchor.owner = legacy.owner) (hlegacy : ∀ owner, anchor ≠ .fresh owner)
    (hhistory : V4History legacy.events legacy.lastHash) :
    HistoryV5 sha256
      { legacy with continuityV5 := some ⟨anchor, legacy.events.length, []⟩ }
      ⟨anchor, legacy.events.length, []⟩ := by
  refine ⟨⟨howner, Nat.le_refl _, by simp, linked_nil _ _ _⟩, ?_, ?_⟩
  · cases anchor with
    | fresh owner => exact absurd rfl (hlegacy owner)
    | legacyV4 owner snapshot signature =>
      show V4History (legacy.events.take legacy.events.length) legacy.lastHash
      rw [List.take_length]
      exact hhistory
  · intro i event hi
    simp [v5Events] at hi

/-- Every reachable ledger is a v5 history of its owner. -/
private theorem historyV5_of_reachable {owner : PubKey} (h : ReachableV5 sha256 owner ledger) :
    ∃ continuity, ledger.continuityV5 = some continuity ∧ ledger.owner = owner ∧
      HistoryV5 sha256 ledger continuity := by
  induction h with
  | fresh => exact ⟨_, rfl, rfl, historyV5_fresh sha256 owner⟩
  | migrated howner hmigrate =>
    obtain ⟨-, hanchor, hhistory, rfl⟩ := migrateV4_ok hmigrate
    exact ⟨_, rfl, howner, historyV5_nil sha256 hanchor (by simp) hhistory⟩
  | appended _ happend ih =>
    obtain ⟨continuity, hc, howner, hhistory⟩ := ih
    obtain ⟨continuity', hc', hfits, rfl⟩ := appendV5_ok happend
    obtain rfl : continuity = continuity' := Option.some.inj (hc.symm.trans hc')
    refine ⟨_, rfl, howner, ?_⟩
    exact (historyV5_pushEntry_iff hhistory.legacyCount hhistory.receiptCount
      hfits.entryOwner).mpr ⟨hhistory, hfits⟩

/-- A history without receipts is fresh or migrated. -/
private theorem reachable_of_noReceipts (hc : ledger.continuityV5 = some continuity)
    (h : HistoryV5 sha256 ledger continuity) (hnil : continuity.receipts = []) :
    ReachableV5 sha256 ledger.owner ledger := by
  obtain ⟨events, owner, lastHash, record⟩ := ledger
  obtain ⟨anchor, legacyEventCount, receipts⟩ := continuity
  have hrecord : record = some ⟨anchor, legacyEventCount, receipts⟩ := hc
  have hreceipts : receipts = [] := hnil
  have hcount : legacyEventCount = events.length := by
    have h1 : legacyEventCount ≤ events.length := h.legacyCount
    have h2 : receipts.length = events.length - legacyEventCount := h.receiptCount
    rw [hreceipts, List.length_nil] at h2
    omega
  have hanchor : anchor.owner = owner := h.anchorOwner
  have hbase := h.base
  subst hrecord hreceipts
  cases anchor with
  | fresh anchorOwner =>
    obtain ⟨hzero, hhash⟩ : legacyEventCount = 0 ∧ lastHash = 0 := hbase
    have hevents : events = [] := List.eq_nil_of_length_eq_zero (by omega)
    have howner : anchorOwner = owner := hanchor
    subst hzero hhash hevents howner
    exact ReachableV5.fresh
  | legacyV4 anchorOwner snapshot signature =>
    have howner : anchorOwner = owner := hanchor
    have hhistory : V4History (events.take legacyEventCount) lastHash := hbase
    rw [hcount, List.take_length] at hhistory
    subst howner hcount
    let legacy : Ledger := ⟨events, anchorOwner, lastHash, none⟩
    have hmigrate := @migrateV4_of_history sha256 legacy
      (.legacyV4 anchorOwner snapshot signature) rfl rfl hhistory
    exact @ReachableV5.migrated sha256 anchorOwner legacy _ snapshot signature rfl hmigrate

/-- Every v5 history is reachable: take the entries off from the back. -/
private theorem reachable_of_history (receiptCount : ℕ) {ledger : Ledger}
    {continuity : ContinuousLedgerV5} (hc : ledger.continuityV5 = some continuity)
    (hlen : continuity.receipts.length = receiptCount)
    (h : HistoryV5 sha256 ledger continuity) : ReachableV5 sha256 ledger.owner ledger := by
  induction receiptCount generalizing ledger continuity with
  | zero => exact reachable_of_noReceipts sha256 hc h (List.eq_nil_of_length_eq_zero hlen)
  | succ receiptCount ih =>
    obtain ⟨events, owner, lastHash, record⟩ := ledger
    obtain ⟨anchor, legacyEventCount, receipts⟩ := continuity
    have hrecord : record = some ⟨anchor, legacyEventCount, receipts⟩ := hc
    subst hrecord
    have hreceipts : receipts.length = receiptCount + 1 := hlen
    have hcount : receipts.length = events.length - legacyEventCount := h.receiptCount
    -- split off the last receipt and the event next to it
    obtain ⟨front, receipt, rfl⟩ : ∃ front receipt, receipts = front ++ [receipt] := by
      rcases List.eq_nil_or_concat receipts with rfl | ⟨front, receipt, rfl⟩
      · simp at hreceipts
      · exact ⟨front, receipt, List.concat_eq_append⟩
    obtain ⟨earlier, event, rfl⟩ : ∃ earlier event, events = earlier ++ [event] := by
      rcases List.eq_nil_or_concat events with rfl | ⟨earlier, event, rfl⟩
      · simp at hcount
      · exact ⟨earlier, event, List.concat_eq_append⟩
    have hfront : front.length = receiptCount := by simpa using hreceipts
    have hcount' : front.length + 1 = earlier.length + 1 - legacyEventCount := by
      simpa using hcount
    let before : Ledger := ⟨earlier, owner, lastHash, some ⟨anchor, legacyEventCount, front⟩⟩
    let entry := entryOf owner receipt event
    have hstep := (@historyV5_pushEntry_iff sha256 before ⟨anchor, legacyEventCount, front⟩ entry
      (show legacyEventCount ≤ earlier.length by omega)
      (show front.length = earlier.length - legacyEventCount by omega) rfl).mp h
    have hreachable := @ih before ⟨anchor, legacyEventCount, front⟩ rfl hfront hstep.1
    exact ReachableV5.appended hreachable (appendV5_of_fits rfl hstep.2)

/-- **The reachable ledgers are the v5 histories.** -/
theorem reachableV5_iff {owner : PubKey} : ReachableV5 sha256 owner ledger ↔
    ∃ continuity, ledger.continuityV5 = some continuity ∧ ledger.owner = owner ∧
      HistoryV5 sha256 ledger continuity := by
  constructor
  · exact historyV5_of_reachable sha256
  · rintro ⟨continuity, hc, rfl, hhistory⟩
    exact reachable_of_history sha256 _ hc rfl hhistory

/-! ### The three defects -/

/-- The ways a checked ledger can fail to be a history. -/
inductive DefectV5 (ledger : Ledger) (continuity : ContinuousLedgerV5) : Prop
  /-- A fresh anchor stands before a v4 prefix. -/
  | freshWithPrefix {owner : PubKey} : continuity.anchor = .fresh owner →
      0 < continuity.legacyEventCount → DefectV5 ledger continuity
  /-- The running hash of an empty prefix is not zero. -/
  | strayHash : continuity.legacyEventCount = 0 → ledger.lastHash ≠ 0 →
      DefectV5 ledger continuity
  /-- The `i`-th v5 event repeats the id of an event at a position from `i` on, which
      the loop does not look at. -/
  | repeatedId {i j : ℕ} {event earlier : Event} :
      (ledger.v5Events continuity)[i]? = some event → ledger.events[j]? = some earlier →
      i ≤ j → j < continuity.legacyEventCount + i →
      earlier.eventId sha256 = event.eventId sha256 → DefectV5 ledger continuity

/-- The strict id check is the verifier's and the absence of repeats behind its reach. -/
private theorem idsDistinct_of_checked (h : IdsDistinct sha256 ledger continuity 0)
    (hdefect : ¬ DefectV5 sha256 ledger continuity) :
    IdsDistinct sha256 ledger continuity continuity.legacyEventCount := by
  intro i event hi earlier hmem hid
  obtain ⟨j, hj⟩ := List.mem_iff_getElem?.mp hmem
  rw [List.getElem?_take] at hj
  split_ifs at hj with hlt
  by_cases hij : i ≤ j
  · exact hdefect (.repeatedId hi hj hij hlt hid)
  · refine h i event hi earlier ?_ hid
    rw [List.mem_iff_getElem?]
    exact ⟨j, by rw [List.getElem?_take_of_lt (by omega)]; exact hj⟩

/-- The empty list is a v4 history only of the zero hash. -/
private theorem v4History_nil {hash : UInt64} : V4History [] hash ↔ hash = 0 :=
  ⟨fun h => h.hash_eq.symm, fun h => ⟨by simp, by simp, by simp, h.symm⟩⟩

/-- A history has no defect. -/
private theorem not_defect_of_history (h : HistoryV5 sha256 ledger continuity) :
    ¬ DefectV5 sha256 ledger continuity := by
  have hbase := h.base
  unfold BaseV5 at hbase
  intro hdefect
  cases hdefect with
  | freshWithPrefix hanchor hpos =>
    rw [hanchor] at hbase
    omega
  | strayHash hzero hhash =>
    cases hanchor : continuity.anchor with
    | fresh owner =>
      rw [hanchor] at hbase
      exact hhash hbase.2
    | legacyV4 owner snapshot signature =>
      rw [hanchor] at hbase
      rw [hzero, List.take_zero] at hbase
      exact hhash (v4History_nil.mp hbase)
  | repeatedId hi hj _ hlt hid =>
    refine h.distinct _ _ hi _ ?_ hid
    rw [List.mem_iff_getElem?]
    exact ⟨_, by rw [List.getElem?_take_of_lt hlt]; exact hj⟩

/-- **A checked ledger is a history iff it has no defect.** -/
theorem historyV5_iff_checked : HistoryV5 sha256 ledger continuity ↔
    CheckedV5 sha256 ledger continuity ∧ ¬ DefectV5 sha256 ledger continuity := by
  constructor
  · intro h
    refine ⟨⟨h.toLinkedV5, ?_, ?_⟩, not_defect_of_history sha256 h⟩
    · intro hpos
      have hbase := h.base
      unfold BaseV5 at hbase
      cases hanchor : continuity.anchor with
      | fresh owner =>
        rw [hanchor] at hbase
        omega
      | legacyV4 owner snapshot signature =>
        rw [hanchor] at hbase
        exact hbase
    · intro i event hi earlier hmem
      refine h.distinct i event hi earlier ?_
      exact (List.take_sublist_take_left (by omega)).mem hmem
  · rintro ⟨h, hdefect⟩
    refine ⟨h.toLinkedV5, ?_, idsDistinct_of_checked sha256 h.distinct hdefect⟩
    have hhash : continuity.legacyEventCount = 0 → ledger.lastHash = 0 := by
      intro hzero
      by_contra hne
      exact hdefect (.strayHash hzero hne)
    unfold BaseV5
    cases hanchor : continuity.anchor with
    | fresh owner =>
      have hzero : continuity.legacyEventCount = 0 := by
        by_contra hne
        exact hdefect (.freshWithPrefix hanchor (by omega))
      exact ⟨hzero, hhash hzero⟩
    | legacyV4 owner snapshot signature =>
      by_cases hzero : continuity.legacyEventCount = 0
      · show V4History (ledger.events.take continuity.legacyEventCount) ledger.lastHash
        rw [hzero, List.take_zero]
        exact v4History_nil.mpr (hhash hzero)
      · exact h.legacy (by omega)

/-- What the verifier is for: it accepts exactly the histories the appender can make,
    so an accepted ledger repeats no event id and has no prefix behind a fresh anchor. -/
structure VerifiesExactly (ledger : Ledger) (continuity : ContinuousLedgerV5) : Prop where
  exact_iff : ledger.verifyV5Structure sha256 = .ok () ↔ ReachableV5 sha256 ledger.owner ledger
  noRepeats : ledger.verifyV5Structure sha256 = .ok () →
    IdsDistinct sha256 ledger continuity continuity.legacyEventCount
  freshEmpty : ledger.verifyV5Structure sha256 = .ok () →
    ∀ owner, continuity.anchor = .fresh owner → continuity.legacyEventCount = 0

/-- **Exactness.** The verifier is exact on a ledger iff the ledger is not one whose
    fields and receipts fit together and which has one of the three defects. -/
theorem verifyV5Structure_exact_iff (hc : ledger.continuityV5 = some continuity) :
    VerifiesExactly sha256 ledger continuity ↔
      ¬ (CheckedV5 sha256 ledger continuity ∧ DefectV5 sha256 ledger continuity) := by
  have hverify := verifyV5Structure_iff sha256 hc
  have hreach : ReachableV5 sha256 ledger.owner ledger ↔ HistoryV5 sha256 ledger continuity := by
    rw [reachableV5_iff]
    constructor
    · rintro ⟨continuity', hc', -, hhistory⟩
      obtain rfl : continuity = continuity' := Option.some.inj (hc.symm.trans hc')
      exact hhistory
    · intro hhistory
      exact ⟨continuity, hc, rfl, hhistory⟩
  constructor
  · rintro ⟨hexact, -, -⟩ ⟨hchecked, hdefect⟩
    have hhistory := hreach.mp (hexact.mp (hverify.mpr hchecked))
    exact not_defect_of_history sha256 hhistory hdefect
  · intro hnot
    have hhistory : ledger.verifyV5Structure sha256 = .ok () →
        HistoryV5 sha256 ledger continuity := by
      intro hok
      have hchecked := hverify.mp hok
      exact (historyV5_iff_checked sha256).mpr ⟨hchecked, fun hdefect => hnot ⟨hchecked, hdefect⟩⟩
    refine ⟨⟨fun hok => hreach.mpr (hhistory hok), fun hr => ?_⟩, ?_, ?_⟩
    · exact hverify.mpr ((historyV5_iff_checked sha256).mp (hreach.mp hr)).1
    · intro hok
      exact (hhistory hok).distinct
    · intro hok owner hanchor
      have hbase := (hhistory hok).base
      unfold BaseV5 at hbase
      rw [hanchor] at hbase
      exact hbase.1

/-! ### A migrated event and two entries -/

/-- A v4 event that was migrated. -/
def migratedEvent : Event := .new .capsuleCreated [1, 0] 5 ⟨fill 64 1⟩ ⟨fill 32 7⟩

/-- The event of the first entry. -/
def repeatedEvent : Event := .newV5 .invitationSent [2] 6 ⟨fill 64 1⟩ ⟨fill 32 7⟩

/-- The receipt of the first entry. -/
def firstReceipt : LedgerV5Receipt where
  sequence := 0
  previousCommitment := LedgerAnchorV5.commitment sampleDigest
    (.legacyV4 ⟨fill 32 7⟩ (fill 32 9) ⟨fill 64 2⟩)
  signature := ⟨fill 64 3⟩

/-- The receipt of the second entry, linked behind the first. -/
def secondReceipt : LedgerV5Receipt where
  sequence := 1
  previousCommitment := (entryOf ⟨fill 32 7⟩ firstReceipt repeatedEvent).commitment sampleDigest
  signature := ⟨fill 64 3⟩

/-- One migrated event in front, so the loop looks one position too early. -/
def repeatingContinuity : ContinuousLedgerV5 where
  anchor := .legacyV4 ⟨fill 32 7⟩ (fill 32 9) ⟨fill 64 2⟩
  legacyEventCount := 1
  receipts := [firstReceipt, secondReceipt]

/-- The ledger with the repeated event. -/
def repeatingLedger : Ledger where
  events := [migratedEvent, repeatedEvent, repeatedEvent]
  owner := ⟨fill 32 7⟩
  lastHash := chainHash 0 migratedEvent
  continuityV5 := some repeatingContinuity

/-- The ledger with another event in the second entry. -/
def distinctLedger : Ledger :=
  { repeatingLedger with
    events := [migratedEvent, repeatedEvent, .newV5 .invitationSent [3] 6 ⟨fill 64 1⟩ ⟨fill 32 7⟩] }

/-- The verifier is exact on a ledger without repeats, and accepts it. -/
theorem verifyV5Structure_exact_distinct :
    distinctLedger.verifyV5Structure sampleDigest = .ok () ∧
      VerifiesExactly sampleDigest distinctLedger repeatingContinuity := by
  refine ⟨by decide +kernel, (verifyV5Structure_exact_iff sampleDigest rfl).mpr ?_⟩
  rintro ⟨-, hdefect⟩
  cases hdefect with
  | freshWithPrefix hanchor _ => cases hanchor
  | strayHash hzero _ => cases hzero
  | @repeatedId i j event earlier hi hj hij hlt hid =>
    change j < 1 + i at hlt
    obtain rfl : j = i := by omega
    have hne : ∀ i < 2, (distinctLedger.events[i]?).map (Event.eventId sampleDigest) ≠
        ((distinctLedger.v5Events repeatingContinuity)[i]?).map (Event.eventId sampleDigest) := by
      decide +kernel
    refine hne j (List.getElem?_eq_some_iff.mp hi).1 ?_
    rw [hi, hj, Option.map_some, Option.map_some, hid]

/-- **Counterexample.** The verifier accepts a ledger that holds one v5 event twice. -/
theorem verifyV5Structure_accepts_repeat :
    repeatingLedger.continuityV5 = some repeatingContinuity ∧
      repeatingLedger.verifyV5Structure sampleDigest = .ok () ∧
      ¬ VerifiesExactly sampleDigest repeatingLedger repeatingContinuity := by
  have haccepted : repeatingLedger.verifyV5Structure sampleDigest = .ok () := by decide +kernel
  refine ⟨rfl, haccepted, ?_⟩
  intro h
  have hfresh := h.noRepeats haccepted 1 repeatedEvent rfl repeatedEvent (by decide +kernel)
  exact hfresh rfl

end Ledger

end Hivra
