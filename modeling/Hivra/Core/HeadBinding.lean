import Hivra.Core.VerifierGaps

namespace Hivra

open ByteString HashChain

/-!
# What the head of a v5 ledger binds

The head commits to the last entry, which commits to the one before it, down to the anchor.
The event id in an entry covers the kind, the payload, the timestamp and the signer of the
event, but not its signature, and the entry its owner and position.

* `Ledger.headCommitmentV5_binds` — where no two of the inputs collide, equal heads are those
  of one history.
-/

/-- Two events state the same fact: they agree in all that the id of a v5 event covers. -/
structure SameFact (a b : Event) : Prop where
  kind : a.kind = b.kind
  payload : a.payload = b.payload
  timestamp : a.timestamp = b.timestamp
  signer : a.signer = b.signer

/-- Two keys with the same bytes are the same. -/
theorem pubKey_eq_of_toList {a b : PubKey} (h : a.bytes.toList = b.bytes.toList) : a = b := by
  cases a
  cases b
  exact congrArg PubKey.mk (List.Vector.toList_injective h)

/-- **The preimage of a v5 event frames its fields**: everything in it but the payload has a
    fixed length. -/
theorem eventIdPreimage_v5_binds {a b : Event} (ha : a.version = continuousLedgerProtocolVersion)
    (hb : b.version = continuousLedgerProtocolVersion)
    (h : a.eventIdPreimage = b.eventIdPreimage) : SameFact a b := by
  rw [Event.eventIdPreimage_v5 ha, Event.eventIdPreimage_v5 hb, List.append_cancel_left_eq] at h
  obtain ⟨hhead, hrest⟩ := List.append_inj h rfl
  obtain ⟨-, hbody⟩ := List.append_inj hrest (by rw [length_be64, length_be64])
  have hsuffix : (be64 a.timestamp ++ a.signer.bytes.toList).length
      = (be64 b.timestamp ++ b.signer.bytes.toList).length := by
    simp only [List.length_append, length_be64, List.Vector.toList_length]
  -- the suffixes are as long as each other, so the payloads end together
  obtain ⟨hpayload, hend⟩ := List.append_inj' hbody hsuffix
  obtain ⟨htimestamp, hsigner⟩ := List.append_inj hend (by rw [length_be64, length_be64])
  have hkind : a.kind.toByte = b.kind.toByte := by simpa using hhead
  exact ⟨EventKind.toByte_injective hkind, hpayload, be64_injective htimestamp,
    pubKey_eq_of_toList hsigner⟩

/-- The bytes an anchor commitment digests. -/
def LedgerAnchorV5.preimage : LedgerAnchorV5 → List UInt8
  | fresh owner => freshAnchorTag ++ owner.bytes.toList
  | legacyV4 owner snapshot _ => legacyAnchorTag ++ owner.bytes.toList ++ snapshot.toList

/-- The bytes an entry commitment digests. -/
def LedgerEntryV5.preimage (sha256 : Sha256) (entry : LedgerEntryV5) : List UInt8 :=
  ledgerEntryTag ++ entry.owner.bytes.toList ++ be64 entry.sequence ++
    entry.previousCommitment.toList ++ (entry.event.eventId sha256).toList

/-- The preimage of an entry frames its fields. -/
theorem LedgerEntryV5.preimage_binds {sha256 : Sha256} {a b : LedgerEntryV5}
    (h : a.preimage sha256 = b.preimage sha256) :
    a.owner = b.owner ∧ a.sequence = b.sequence ∧ a.previousCommitment = b.previousCommitment ∧
      a.event.eventId sha256 = b.event.eventId sha256 := by
  unfold LedgerEntryV5.preimage at h
  simp only [List.append_assoc, List.append_cancel_left_eq] at h
  obtain ⟨howner, h⟩ := List.append_inj h (by simp only [List.Vector.toList_length])
  obtain ⟨hsequence, h⟩ := List.append_inj h (by simp only [length_be64])
  obtain ⟨hprevious, hid⟩ := List.append_inj h (by simp only [List.Vector.toList_length])
  exact ⟨pubKey_eq_of_toList howner, be64_injective hsequence,
    List.Vector.toList_injective hprevious, List.Vector.toList_injective hid⟩

/-- An entry and a fresh anchor never digest the same bytes: their tags part at the first
    letter behind the common front. -/
theorem LedgerEntryV5.preimage_ne_fresh (sha256 : Sha256) (entry : LedgerEntryV5) (owner : PubKey) :
    entry.preimage sha256 ≠ (LedgerAnchorV5.fresh owner).preimage := by
  intro h
  have hletter := congrArg (fun bytes => bytes[13]?) h
  simp [LedgerEntryV5.preimage, LedgerAnchorV5.preimage, ledgerEntryTag, freshAnchorTag,
    asciiBytes] at hletter

/-- The fresh anchors of two owners digest different bytes. -/
theorem LedgerAnchorV5.preimage_fresh_injective {owner owner' : PubKey}
    (h : (LedgerAnchorV5.fresh owner).preimage = (LedgerAnchorV5.fresh owner').preimage) :
    owner = owner' :=
  pubKey_eq_of_toList (List.append_cancel_left h)

namespace Ledger

variable (sha256 : Sha256)

/-- The ledgers that appends make from a fresh one. -/
inductive GrownV5 (owner : PubKey) : Ledger → Prop
  | fresh : GrownV5 owner (freshV5 owner)
  | appended {ledger ledger' : Ledger} {entry : LedgerEntryV5} :
      GrownV5 owner ledger → ledger.appendV5 sha256 entry = .ok ledger' → GrownV5 owner ledger'

/-- The entries of a v5 ledger, from its receipts and the events next to them. -/
def linkedEntries (ledger : Ledger) : Option (List LedgerEntryV5) :=
  ledger.continuityV5.map fun continuity =>
    (ledger.v5Pairs continuity).map fun pair => entryOf ledger.owner pair.1 pair.2

/-- All that is digested to make the head of a ledger: the anchor, the entries and the
    events in them. -/
def digestInputs (ledger : Ledger) : List (List UInt8) :=
  (ledger.continuityV5.map fun continuity => continuity.anchor.preimage).toList ++
    (ledger.linkedEntries.getD []).map (LedgerEntryV5.preimage sha256) ++
    (ledger.linkedEntries.getD []).map fun entry => entry.event.eventIdPreimage

/-- The digest tells the inputs apart. -/
def NoCollision (inputs : List (List UInt8)) : Prop :=
  ∀ x ∈ inputs, ∀ y ∈ inputs, sha256 x = sha256 y → x = y

instance (inputs : List (List UInt8)) : Decidable (NoCollision sha256 inputs) := by
  unfold NoCollision
  infer_instance

variable {sha256} {ledger : Ledger}

/-- A grown ledger keeps its fresh anchor. -/
theorem GrownV5.anchor {owner : PubKey} (h : GrownV5 sha256 owner ledger) :
    ∀ continuity, ledger.continuityV5 = some continuity →
      continuity.anchor = .fresh owner ∧ continuity.legacyEventCount = 0 := by
  induction h with
  | fresh =>
    intro continuity hcontinuity
    rw [← Option.some.inj hcontinuity]
    exact ⟨rfl, rfl⟩
  | appended _ happend ih =>
    intro continuity hcontinuity
    obtain ⟨before, hbefore, -, rfl⟩ := appendV5_ok happend
    rw [← Option.some.inj hcontinuity]
    exact ih before hbefore

/-- A grown ledger is a history behind a fresh anchor. -/
theorem GrownV5.history {owner : PubKey} (h : GrownV5 sha256 owner ledger) :
    ledger.owner = owner ∧ ∃ continuity, ledger.continuityV5 = some continuity ∧
      continuity.anchor = .fresh owner ∧ continuity.legacyEventCount = 0 ∧
      HistoryV5 sha256 ledger continuity := by
  have hreachable : ReachableV5 sha256 owner ledger := by
    induction h with
    | fresh => exact .fresh
    | appended _ happend ih => exact .appended ih happend
  obtain ⟨continuity, hcontinuity, howner, hhistory⟩ := (reachableV5_iff sha256).mp hreachable
  obtain ⟨hanchor, hcount⟩ := h.anchor continuity hcontinuity
  exact ⟨howner, continuity, hcontinuity, hanchor, hcount, hhistory⟩

/-- What is digested for a ledger with a continuity record. -/
theorem mem_digestInputs {ledger : Ledger} {continuity : ContinuousLedgerV5}
    (h : ledger.continuityV5 = some continuity) :
    continuity.anchor.preimage ∈ ledger.digestInputs sha256 ∧
      ∀ pair ∈ ledger.v5Pairs continuity,
        (entryOf ledger.owner pair.1 pair.2).preimage sha256 ∈ ledger.digestInputs sha256 ∧
          pair.2.eventIdPreimage ∈ ledger.digestInputs sha256 := by
  have heq : ledger.digestInputs sha256 = [continuity.anchor.preimage] ++
      (ledger.v5Pairs continuity).map (fun pair =>
        (entryOf ledger.owner pair.1 pair.2).preimage sha256) ++
      (ledger.v5Pairs continuity).map fun pair => pair.2.eventIdPreimage := by
    simp only [digestInputs, linkedEntries, h, Option.map_some, Option.toList_some, Option.getD_some,
      List.map_map]
    rfl
  rw [heq]
  refine ⟨List.mem_append_left _ (List.mem_append_left _ List.mem_cons_self), ?_⟩
  intro pair hpair
  refine ⟨?_, List.mem_append_right _ (List.mem_map.mpr ⟨pair, hpair, rfl⟩)⟩
  exact List.mem_append_left _ (List.mem_append_right _ (List.mem_map.mpr ⟨pair, hpair, rfl⟩))

/-- The events next to the receipts are v5 events. -/
theorem version_of_pair {continuity : ContinuousLedgerV5} (h : LinkedV5 sha256 ledger continuity)
    {pair : LedgerV5Receipt × Event} (hpair : pair ∈ ledger.v5Pairs continuity) :
    pair.2.version = continuousLedgerProtocolVersion := by
  apply h.version
  rw [← map_snd_v5Pairs h.receiptCount]
  exact List.mem_map_of_mem hpair

/-- **The head binds the history**: two grown ledgers with one head have one owner, as many
    entries, and the same facts in the same places. -/
theorem headCommitmentV5_binds {ledger ledger' : Ledger} {owner owner' : PubKey}
    (hgrown : GrownV5 sha256 owner ledger) (hgrown' : GrownV5 sha256 owner' ledger')
    (hcollide : NoCollision sha256 (ledger.digestInputs sha256 ++ ledger'.digestInputs sha256))
    (hhead : ledger.headCommitmentV5 sha256 = ledger'.headCommitmentV5 sha256) :
    owner = owner' ∧
      ledger.linkedEntries.map List.length = ledger'.linkedEntries.map List.length ∧
      List.Forall₂ SameFact ledger.events ledger'.events := by
  obtain ⟨rfl, continuity, hcontinuity, hanchor, hcount, hhistory⟩ := hgrown.history
  obtain ⟨rfl, continuity', hcontinuity', hanchor', hcount', hhistory'⟩ := hgrown'.history
  obtain ⟨hstart, hpair⟩ := @mem_digestInputs sha256 ledger continuity hcontinuity
  obtain ⟨hstart', hpair'⟩ := @mem_digestInputs sha256 ledger' continuity' hcontinuity'
  -- the two heads are the tails of the linked receipts
  have htail : tail (receiptLink sha256 ledger.owner) (continuity.anchor.commitment sha256)
        (ledger.v5Pairs continuity)
      = tail (receiptLink sha256 ledger'.owner) (continuity'.anchor.commitment sha256)
        (ledger'.v5Pairs continuity') := by
    rw [← tailCommitmentOf_eq_tail hhistory.receiptCount,
      ← tailCommitmentOf_eq_tail hhistory'.receiptCount]
    simpa [headCommitmentV5, tailCommitmentV5, hcontinuity, hcontinuity', Except.toOption]
      using hhead
  rw [hanchor] at hstart htail
  rw [hanchor'] at hstart' htail
  have hlinked := hhistory.linked
  have hlinked' := hhistory'.linked
  rw [hanchor] at hlinked
  rw [hanchor'] at hlinked'
  obtain ⟨hanchors, hpairs⟩ := tail_binds (R := fun x y => SameFact x.2 y.2) hlinked hlinked'
    (by
      -- equal commitments are those of entries that agree
      intro x hx y hy hcommit
      obtain ⟨hentry, hevent⟩ := hpair x hx
      obtain ⟨hentry', hevent'⟩ := hpair' y hy
      have hentries := hcollide _ (List.mem_append_left _ hentry) _
        (List.mem_append_right _ hentry') hcommit
      obtain ⟨-, -, hprevious, hid⟩ := LedgerEntryV5.preimage_binds hentries
      have hevents := hcollide _ (List.mem_append_left _ hevent) _
        (List.mem_append_right _ hevent') hid
      exact ⟨eventIdPreimage_v5_binds (version_of_pair hhistory.toLinkedV5 hx)
        (version_of_pair hhistory'.toLinkedV5 hy) hevents, hprevious⟩)
    (by
      intro y hy hcommit
      exact LedgerEntryV5.preimage_ne_fresh sha256 _ _ (hcollide _
        (List.mem_append_right _ (hpair' y hy).1) _ (List.mem_append_left _ hstart) hcommit))
    (by
      intro x hx hcommit
      exact LedgerEntryV5.preimage_ne_fresh sha256 _ _ (hcollide _
        (List.mem_append_left _ (hpair x hx).1) _ (List.mem_append_right _ hstart') hcommit))
    htail
  refine ⟨?_, ?_, ?_⟩
  · exact LedgerAnchorV5.preimage_fresh_injective (hcollide _ (List.mem_append_left _ hstart) _
      (List.mem_append_right _ hstart') hanchors)
  · simp only [linkedEntries, hcontinuity, hcontinuity', Option.map_some, List.length_map,
      hpairs.length_eq]
  · -- behind a fresh anchor the events next to the receipts are all there are
    have hevents : List.Forall₂ SameFact ((ledger.v5Pairs continuity).map Prod.snd)
        ((ledger'.v5Pairs continuity').map Prod.snd) := by
      rw [List.forall₂_map_left_iff, List.forall₂_map_right_iff]
      exact hpairs
    rw [map_snd_v5Pairs hhistory.receiptCount, map_snd_v5Pairs hhistory'.receiptCount] at hevents
    unfold v5Events at hevents
    rwa [hcount, hcount', List.drop_zero, List.drop_zero] at hevents

/-- A birth and two starter events, under one signature. -/
def boundLedger (signature : Signature) : Ledger :=
  ([.capsuleCreated, .starterCreated, .starterBurned].map fun kind =>
    Event.newV5 kind [1, 2] 5 signature ⟨fill 32 7⟩).foldl (grownBy sampleDigest)
      (freshV5 ⟨fill 32 7⟩)

theorem grown_boundLedger (signature : Signature) :
    GrownV5 sampleDigest ⟨fill 32 7⟩ (boundLedger signature) := by
  refine List.foldlRecOn _ _ .fresh fun ledger hgrown event _ => ?_
  unfold grownBy
  cases happend : ledger.appendV5 sampleDigest _ with
  | error _ => exact hgrown
  | ok next => exact hgrown.appended happend

/-- Two histories that differ in every signature have one head. -/
theorem headCommitmentV5_binds_bound :
    (boundLedger ⟨fill 64 1⟩).events ≠ (boundLedger ⟨fill 64 2⟩).events ∧
      List.Forall₂ SameFact (boundLedger ⟨fill 64 1⟩).events (boundLedger ⟨fill 64 2⟩).events :=
  ⟨by decide +kernel, (headCommitmentV5_binds (grown_boundLedger _) (grown_boundLedger _)
    (by decide +kernel) (by decide +kernel)).2.2⟩

end Ledger

end Hivra
