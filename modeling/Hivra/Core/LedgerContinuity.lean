import Hivra.Core.Ledger
import Hivra.Lib.HashChain

namespace Hivra

open ByteString HashChain

/-!
# Which v5 ledgers the structural verifier accepts

There are two readings of a v5 ledger: the histories the appender can produce from a fresh
or a migrated ledger, and the ledgers `verifyV5Structure` accepts.
-/

namespace Ledger

variable (sha256 : Sha256)

/-- How receipts are linked over the v5 events of an owner. -/
def receiptLink (owner : PubKey) : Link (LedgerV5Receipt × Event) Commitment where
  admits index pair :=
    pair.2.version = continuousLedgerProtocolVersion ∧ pair.1.sequence = UInt64.ofNat index
  previous pair := pair.1.previousCommitment
  commit pair := (entryOf owner pair.1 pair.2).commitment sha256

/-- The v5 part of the event list. -/
def v5Events (ledger : Ledger) (continuity : ContinuousLedgerV5) : List Event :=
  ledger.events.drop continuity.legacyEventCount

/-- The receipts with the events next to them. -/
def v5Pairs (ledger : Ledger) (continuity : ContinuousLedgerV5) : List (LedgerV5Receipt × Event) :=
  continuity.receipts.zip (ledger.v5Events continuity)

/-- No v5 event repeats the id of one of the events the check for it looks at: the
    first `offset + i` of the ledger for the `i`-th v5 event. -/
def IdsDistinct (ledger : Ledger) (continuity : ContinuousLedgerV5) (offset : ℕ) : Prop :=
  ∀ i event, (ledger.v5Events continuity)[i]? = some event →
    ∀ earlier ∈ ledger.events.take (offset + i), earlier.eventId sha256 ≠ event.eventId sha256

/-- The fields of a v5 ledger fit together and its receipts are linked. -/
structure LinkedV5 (ledger : Ledger) (continuity : ContinuousLedgerV5) : Prop where
  anchorOwner : continuity.anchor.owner = ledger.owner
  legacyCount : continuity.legacyEventCount ≤ ledger.events.length
  receiptCount :
    continuity.receipts.length = ledger.events.length - continuity.legacyEventCount
  linked : Linked (receiptLink sha256 ledger.owner) 0 (continuity.anchor.commitment sha256)
    (ledger.v5Pairs continuity)

/-- What the structural verifier checks: a legacy prefix is checked only when there is
    one, and an event id only against as many events as receipts were passed. -/
structure CheckedV5 (ledger : Ledger) (continuity : ContinuousLedgerV5) : Prop extends
    LinkedV5 sha256 ledger continuity where
  legacy : 0 < continuity.legacyEventCount →
    V4History (ledger.events.take continuity.legacyEventCount) ledger.lastHash
  distinct : IdsDistinct sha256 ledger continuity 0

/-- The prefix a v5 ledger starts from under its anchor: none behind a fresh anchor, a
    verified v4 history behind a legacy anchor. -/
def BaseV5 (ledger : Ledger) (continuity : ContinuousLedgerV5) : Prop :=
  match continuity.anchor with
  | .fresh _ => continuity.legacyEventCount = 0 ∧ ledger.lastHash = 0
  | .legacyV4 _ _ _ =>
    V4History (ledger.events.take continuity.legacyEventCount) ledger.lastHash

/-- A v5 history as the appender makes it. -/
structure HistoryV5 (ledger : Ledger) (continuity : ContinuousLedgerV5) : Prop extends
    LinkedV5 sha256 ledger continuity where
  base : BaseV5 ledger continuity
  distinct : IdsDistinct sha256 ledger continuity continuity.legacyEventCount

/-! ### The verifier -/

/-- What the receipt loop accepts. -/
private theorem verifyV5Loop_iff (owner : PubKey) (events : List Event) (index : ℕ)
    (previous : Commitment) (pairs : List (LedgerV5Receipt × Event)) :
    verifyV5Loop sha256 owner events index previous pairs = .ok () ↔
      Linked (receiptLink sha256 owner) index previous pairs ∧
      ∀ i event, (pairs.map Prod.snd)[i]? = some event →
        ∀ earlier ∈ events.take (index + i), earlier.eventId sha256 ≠ event.eventId sha256 := by
  induction pairs generalizing index previous with
  | nil => simp [verifyV5Loop]
  | cons pair rest ih =>
    obtain ⟨receipt, event⟩ := pair
    rw [verifyV5Loop]
    simp only [Linked, receiptLink]
    split_ifs with hversion hseq hprev hdup
    · simp [hversion]
    · simp [hseq]
    · simp [hprev]
    · -- the head itself repeats an id
      simp only [false_iff, not_and, not_forall]
      intro _
      obtain ⟨earlier, hmem, hid⟩ := List.any_eq_true.mp hdup
      exact ⟨0, event, rfl, earlier, by simpa using hmem, by simpa using hid⟩
    · rw [ih]
      have hhead : ∀ earlier ∈ events.take index,
          earlier.eventId sha256 ≠ event.eventId sha256 := by simpa using hdup
      simp only [not_not] at hversion hseq hprev
      constructor
      · rintro ⟨hlinked, hrest⟩
        refine ⟨⟨⟨hversion, hseq⟩, hprev, hlinked⟩, ?_⟩
        intro i e hi
        cases i with
        | zero =>
          have he : event = e := by simpa using hi
          rw [← he]
          exact hhead
        | succ i =>
          have hshift : index + (i + 1) = index + 1 + i := by omega
          rw [hshift]
          exact hrest i e (by simpa using hi)
      · rintro ⟨⟨-, -, hlinked⟩, hall⟩
        refine ⟨hlinked, ?_⟩
        intro i e hi
        have hshift : index + 1 + i = index + (i + 1) := by omega
        rw [hshift]
        exact hall (i + 1) e (by simpa using hi)

variable {continuity : ContinuousLedgerV5} {ledger : Ledger}

/-- Under matching counts the events next to the receipts are the v5 events. -/
theorem map_snd_v5Pairs
    (h : continuity.receipts.length = ledger.events.length - continuity.legacyEventCount) :
    (ledger.v5Pairs continuity).map Prod.snd = ledger.v5Events continuity := by
  apply List.map_snd_zip
  simp [v5Events, h]

/-- The events next to linked receipts are v5 events. -/
theorem LinkedV5.version (h : LinkedV5 sha256 ledger continuity) :
    ∀ event ∈ ledger.v5Events continuity, event.version = continuousLedgerProtocolVersion := by
  intro event hevent
  rw [← map_snd_v5Pairs h.receiptCount, List.mem_map] at hevent
  obtain ⟨pair, hpair, rfl⟩ := hevent
  obtain ⟨index, -, hversion, -⟩ := h.linked.exists_admits _ pair hpair
  exact hversion

/-- **What the verifier accepts.** -/
theorem verifyV5Structure_iff (hc : ledger.continuityV5 = some continuity) :
    ledger.verifyV5Structure sha256 = .ok () ↔ CheckedV5 sha256 ledger continuity := by
  unfold verifyV5Structure
  simp only [hc]
  split_ifs with howner hcount hlegacy
  · exact ⟨fun h => by simp at h, fun h => absurd h.anchorOwner howner⟩
  · refine ⟨fun h => by simp at h, fun h => ?_⟩
    have h1 := h.legacyCount
    have h2 := h.receiptCount
    omega
  · refine ⟨fun h => by simp at h, fun h => ?_⟩
    exact absurd ((verifyV4Events_iff _ _).mpr (h.legacy hlegacy.1)) hlegacy.2
  · push Not at hcount
    have hbase : 0 < continuity.legacyEventCount →
        V4History (ledger.events.take continuity.legacyEventCount) ledger.lastHash := by
      intro hpos
      rw [← verifyV4Events_iff]
      by_contra hbad
      exact hlegacy ⟨hpos, hbad⟩
    have hsnd := map_snd_v5Pairs hcount.2
    rw [verifyV5Loop_iff]
    constructor
    · rintro ⟨hlinked, hdistinct⟩
      refine ⟨⟨not_not.mp howner, hcount.1, hcount.2, hlinked⟩, hbase, ?_⟩
      intro i event hi
      exact hdistinct i event (by rw [← hi, ← hsnd]; rfl)
    · intro h
      refine ⟨h.linked, ?_⟩
      intro i event hi
      exact h.distinct i event (by rw [← hi, ← hsnd]; rfl)

/-! ### The appender -/

/-- The v5 ledgers of an owner that honest operations produce. -/
inductive ReachableV5 (owner : PubKey) : Ledger → Prop
  | fresh : ReachableV5 owner (freshV5 owner)
  | migrated {legacy ledger : Ledger} {snapshot : Commitment} {signature : Signature} :
      legacy.owner = owner →
      legacy.migrateV4 sha256 (.legacyV4 owner snapshot signature) = .ok ledger →
      ReachableV5 owner ledger
  | appended {ledger ledger' : Ledger} {entry : LedgerEntryV5} :
      ReachableV5 owner ledger → ledger.appendV5 sha256 entry = .ok ledger' →
      ReachableV5 owner ledger'

section PushEntry

variable {sha256} {ledger : Ledger} {continuity : ContinuousLedgerV5} {entry : LedgerEntryV5}

/-- The pair that one more entry adds. -/
def entryPair (entry : LedgerEntryV5) : LedgerV5Receipt × Event :=
  (⟨entry.sequence, entry.previousCommitment, entry.signature⟩, entry.event)

private theorem v5Events_pushEntry (hle : continuity.legacyEventCount ≤ ledger.events.length) :
    (ledger.pushEntry continuity entry).v5Events (continuity.pushReceipt entry)
      = ledger.v5Events continuity ++ [entry.event] :=
  List.drop_append_of_le_length hle

/-- One more entry is one more pair. -/
theorem v5Pairs_pushEntry (hle : continuity.legacyEventCount ≤ ledger.events.length)
    (hcount : continuity.receipts.length = ledger.events.length - continuity.legacyEventCount) :
    (ledger.pushEntry continuity entry).v5Pairs (continuity.pushReceipt entry)
      = ledger.v5Pairs continuity ++ [entryPair entry] := by
  rw [v5Pairs, v5Events_pushEntry hle]
  refine List.zip_append ?_
  simpa [v5Events] using hcount

/-- The tail commitment of a ledger is the tail of its linked receipts. -/
theorem tailCommitmentOf_eq_tail
    (hcount : continuity.receipts.length = ledger.events.length - continuity.legacyEventCount) :
    tailCommitmentOf sha256 ledger continuity
      = tail (receiptLink sha256 ledger.owner) (continuity.anchor.commitment sha256)
          (ledger.v5Pairs continuity) := by
  rcases List.eq_nil_or_concat continuity.receipts with hnil | ⟨receipts, receipt, hreceipts⟩
  · simp [tailCommitmentOf, v5Pairs, hnil]
  · -- as many v5 events as receipts, so the last of both stand next to each other
    rw [List.concat_eq_append] at hreceipts
    have hlen : (ledger.v5Events continuity).length = receipts.length + 1 := by
      rw [v5Events, List.length_drop, ← hcount, hreceipts, List.length_append,
        List.length_singleton]
    rcases List.eq_nil_or_concat (ledger.v5Events continuity) with hnil | ⟨events, event, hevents⟩
    · rw [hnil] at hlen
      simp at hlen
    · rw [List.concat_eq_append] at hevents
      have hlens : receipts.length = events.length := by
        rw [hevents] at hlen
        simpa using hlen.symm
      have hlast : ledger.events.getLast? = some event := by
        have hsplit := List.take_append_drop continuity.legacyEventCount ledger.events
        rw [show ledger.events.drop _ = events ++ [event] from hevents] at hsplit
        rw [← hsplit]
        simp
      have hpairs : ledger.v5Pairs continuity = receipts.zip events ++ [(receipt, event)] := by
        rw [v5Pairs, hreceipts, hevents]
        exact List.zip_append hlens
      rw [hpairs, tail_snoc]
      simp [tailCommitmentOf, hreceipts, hlast, receiptLink]

/-- Distinct ids after one more entry: as before, and the new id is new. -/
private theorem idsDistinct_pushEntry (hle : continuity.legacyEventCount ≤ ledger.events.length) :
    IdsDistinct sha256 (ledger.pushEntry continuity entry) (continuity.pushReceipt entry)
        continuity.legacyEventCount ↔
      IdsDistinct sha256 ledger continuity continuity.legacyEventCount ∧
        ∀ event ∈ ledger.events, event.eventId sha256 ≠ entry.event.eventId sha256 := by
  have hlen : continuity.legacyEventCount + (ledger.v5Events continuity).length
      = ledger.events.length := by
    rw [v5Events, List.length_drop]
    omega
  unfold IdsDistinct
  rw [v5Events_pushEntry hle]
  constructor
  · intro h
    constructor
    · intro i event hi earlier hmem
      have hlt := (List.getElem?_eq_some_iff.mp hi).1
      refine h i event (by rw [List.getElem?_append_left hlt]; exact hi) earlier ?_
      show earlier ∈ (ledger.events ++ [entry.event]).take _
      rw [List.take_append_of_le_length (by omega)]
      exact hmem
    · intro event hmem
      refine h (ledger.v5Events continuity).length entry.event (by simp) event ?_
      show event ∈ (ledger.events ++ [entry.event]).take _
      rw [hlen, List.take_left]
      exact hmem
  · rintro ⟨hold, hnew⟩ i event hi earlier hmem
    have hmem' : earlier ∈ (ledger.events ++ [entry.event]).take
        (continuity.legacyEventCount + i) := hmem
    by_cases hlt : i < (ledger.v5Events continuity).length
    · rw [List.getElem?_append_left hlt] at hi
      rw [List.take_append_of_le_length (by omega)] at hmem'
      exact hold i event hi earlier hmem'
    · have hbound := (List.getElem?_eq_some_iff.mp hi).1
      rw [List.length_append, List.length_singleton] at hbound
      have hi' : i = (ledger.v5Events continuity).length := by omega
      rw [hi', hlen, List.take_left] at hmem'
      rw [hi', List.getElem?_concat_length, Option.some.injEq] at hi
      rw [← hi]
      exact hnew earlier hmem'

/-- **Step lemma.** One more entry keeps a v5 history iff it fits. -/
theorem historyV5_pushEntry_iff (hle : continuity.legacyEventCount ≤ ledger.events.length)
    (hcount : continuity.receipts.length = ledger.events.length - continuity.legacyEventCount)
    (howner : entry.owner = ledger.owner) :
    HistoryV5 sha256 (ledger.pushEntry continuity entry) (continuity.pushReceipt entry) ↔
      HistoryV5 sha256 ledger continuity ∧ Fits sha256 ledger continuity entry := by
  have hpairs := @v5Pairs_pushEntry ledger continuity entry hle hcount
  have hindex : 0 + (ledger.v5Pairs continuity).length = continuity.receipts.length := by
    simp [v5Pairs, v5Events, hcount]
  have hbase : BaseV5 (ledger.pushEntry continuity entry) (continuity.pushReceipt entry) ↔
      BaseV5 ledger continuity := by
    unfold BaseV5
    show (match continuity.anchor with
      | .fresh _ => continuity.legacyEventCount = 0 ∧ ledger.lastHash = 0
      | .legacyV4 _ _ _ => V4History ((ledger.events ++ [entry.event]).take
          continuity.legacyEventCount) ledger.lastHash) ↔ _
    rw [List.take_append_of_le_length hle]
  constructor
  · intro h
    have hlinked := h.linked
    rw [hpairs, linked_snoc, hindex] at hlinked
    obtain ⟨hold, ⟨hversion, hseq⟩, hprev⟩ := hlinked
    obtain ⟨hdistinct, hnew⟩ := (idsDistinct_pushEntry hle).mp h.distinct
    refine ⟨⟨⟨h.anchorOwner, hle, hcount, hold⟩, hbase.mp h.base, hdistinct⟩,
      ⟨h.anchorOwner, howner, hversion, hseq, ?_, hnew⟩⟩
    rw [tailCommitmentOf_eq_tail hcount]
    exact hprev
  · rintro ⟨h, hfits⟩
    refine ⟨⟨h.anchorOwner, ?_, ?_, ?_⟩, hbase.mpr h.base,
      (idsDistinct_pushEntry hle).mpr ⟨h.distinct, hfits.fresh⟩⟩
    · show continuity.legacyEventCount ≤ (ledger.events ++ [entry.event]).length
      rw [List.length_append]
      omega
    · show (continuity.receipts ++ [_]).length
        = (ledger.events ++ [entry.event]).length - continuity.legacyEventCount
      rw [List.length_append, List.length_append, List.length_singleton, List.length_singleton]
      omega
    · rw [hpairs, linked_snoc, hindex]
      refine ⟨h.linked, ⟨hfits.version, hfits.sequence⟩, ?_⟩
      show entry.previousCommitment = _
      rw [hfits.previous, tailCommitmentOf_eq_tail hcount]
      rfl

end PushEntry

end Ledger

end Hivra
