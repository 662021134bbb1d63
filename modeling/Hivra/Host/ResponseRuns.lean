import Hivra.Host.AttestationStore
import Hivra.Host.OutboxRuns
import Mathlib.Data.List.ProdSigma

namespace Hivra

open Replay JsonDocument DeliveryOutbox

namespace AttestationStore

open ConsensusAttestationEvidence

/-!
# Answers that are sent on their own

The calls of a store follow one another, whichever instance they are made on: each reads the file
of its capsule, and writes it or throws.  A checkpoint is never lost, and its next answer is a
quarter of an hour away.
-/

section Calls

variable {Double : Type} (host : AttestationHost Double)

def normalizeHex64 (value : String) : Option String :=
  if isHex 64 (trimmedLower value) then some (trimmedLower value) else none

/-- A call of a store.  Evidence that is merged was read from a document or made in order. -/
inductive Call
  | merge (capsuleRootHex : String) (evidence : List {item // Stored host item})
  | reserveResponse (capsuleRootHex peerKey localKey : String) (now : ℤ)
  | markResponseDelivered (capsuleRootHex peerKey localKey : String) (now : ℤ)

def Call.capsuleRootHex : Call host → String
  | .merge capsuleRootHex _ => capsuleRootHex
  | .reserveResponse capsuleRootHex _ _ _ => capsuleRootHex
  | .markResponseDelivered capsuleRootHex _ _ _ => capsuleRootHex

/-- An answer that was reserved. -/
structure Reservation where
  capsuleRootHex : String
  peerKey : String
  localKey : String
  now : ℤ

/-- The answer a call reserves and the file as it leaves it; none where it throws. -/
def perform (root : String) (file : StoreFile Double) :
    Call host → Option (Option Reservation × StoreFile Double)
  | .merge _ evidence =>
    (merge host file (evidence.map Subtype.val)).map fun result => (none, result.2)
  | .reserveResponse _ peerKey localKey now =>
    (reserveResponse host file root peerKey localKey now).map fun result =>
      (if result.1.status = .reserved then some ⟨root, peerKey, localKey, now⟩ else none, result.2)
  | .markResponseDelivered _ peerKey localKey now =>
    some (none, (markResponseDelivered host file peerKey localKey now).2)

/-- The files of the capsules, and the answers that were reserved so far. -/
structure Stores (Double : Type) where
  files : String → StoreFile Double
  reservations : List Reservation

/-- A call, or a call whose file cannot be read or written and that throws. -/
def callStep (stores : Stores Double) (event : Call host × Bool) : Stores Double :=
  match normalizeHex64 event.1.capsuleRootHex with
  | none => stores
  | some root =>
    match perform host root (stores.files root) event.1 with
    | none => stores
    | some (reserved, file) =>
      if event.2 then stores
      else ⟨Function.update stores.files root file, stores.reservations ++ reserved.toList⟩

/-- The two keys have a checkpoint that lets them wait until a date at least. -/
def Held (file : StoreFile Double) (peerKey localKey : String) (until_ : ℤ) : Prop :=
  ∃ snapshot, loadSnapshot host file = some snapshot ∧
    ∃ checkpoint ∈ snapshot.responseCheckpoints,
      checkpoint.isFor peerKey localKey = true ∧ until_ ≤ checkpoint.retryAfterUtc

/-- What no call takes from a file. -/
structure Keeps (file file' : StoreFile Double) : Prop where
  evidence : ∀ item ∈ load host file, item ∈ load host file'
  held : ∀ peerKey localKey until_, Held host file peerKey localKey until_ →
    Held host file' peerKey localKey until_

/-- What is stored where an answer is reserved. -/
structure Answerable (file : StoreFile Double) (root peerKey localKey : String) (now : ℤ)
    (snapshot : Snapshot) : Prop where
  loaded : loadSnapshot host file = some snapshot
  validPeer : validRecordKey peerKey = true
  validLocal : validRecordKey localKey = true
  evidence : containsValidResponseEvidence snapshot root peerKey localKey = true
  answer : (answerNow snapshot peerKey localKey now).status = .reserved

/-- The answers for the same two keys of a capsule. -/
def Reservation.Alike (first second : Reservation) : Prop :=
  first.capsuleRootHex = second.capsuleRootHex ∧ first.peerKey = second.peerKey ∧
    first.localKey = second.localKey

/-- What holds in every state: the keys of an answer wait from it on. -/
structure Spaced (stores : Stores Double) : Prop where
  held : ∀ r ∈ stores.reservations,
    Held host (stores.files r.capsuleRootHex) r.peerKey r.localKey (r.now + responseRetryDelay)
  spaced : stores.reservations.Pairwise fun first second =>
    first.Alike second → first.now + responseRetryDelay ≤ second.now

variable {host}

theorem Keeps.refl (file : StoreFile Double) : Keeps host file file :=
  ⟨fun _ h => h, fun _ _ _ h => h⟩

/-- A write in order keeps a file if it keeps the evidence and the dates of the checkpoints. -/
theorem keeps_write {file : StoreFile Double} {snapshot next : Snapshot}
    (hload : loadSnapshot host file = some snapshot) (hnext : next.InOrder host)
    (hevidence : ∀ item ∈ snapshot.attestations, item ∈ next.attestations)
    (hcheckpoints : ∀ checkpoint ∈ snapshot.responseCheckpoints,
      ∃ other ∈ next.responseCheckpoints,
        other.peerEvidenceRecordKey = checkpoint.peerEvidenceRecordKey ∧
          other.localEvidenceRecordKey = checkpoint.localEvidenceRecordKey ∧
            checkpoint.retryAfterUtc ≤ other.retryAfterUtc) :
    Keeps host file (writeSnapshot host next.attestations next.responseCheckpoints) := by
  have hwritten := loadSnapshot_write hnext
  constructor
  · intro item hitem
    unfold load at hitem ⊢
    rw [hload] at hitem
    rw [hwritten]
    exact mem_sortedEvidence.mpr (hevidence item hitem)
  · rintro peerKey localKey until_ ⟨found, hfound, checkpoint, hmem, hfor, huntil⟩
    obtain rfl := Option.some.inj (hload.symm.trans hfound)
    obtain ⟨other, hother, hpeer, hlocal, hlater⟩ := hcheckpoints checkpoint hmem
    obtain ⟨hpeerKey, hlocalKey⟩ := isFor_iff.mp hfor
    exact ⟨_, hwritten, other, mem_sortedCheckpoints.mpr hother,
      isFor_iff.mpr ⟨hpeer.trans hpeerKey, hlocal.trans hlocalKey⟩, huntil.trans hlater⟩

/-! ### What each call keeps -/

variable {file file' : StoreFile Double}

theorem merge_keeps {evidence added : List ConsensusAttestationEvidence}
    (hevidence : ∀ item ∈ evidence, Stored host item)
    (h : merge host file evidence = some (added, file')) : Keeps host file file' := by
  obtain ⟨snapshot, hload, hresult⟩ := Option.map_eq_some_iff.mp h
  dsimp only at hresult
  split_ifs at hresult
  · obtain ⟨-, rfl⟩ := Prod.mk.inj hresult
    exact Keeps.refl file
  · obtain ⟨-, rfl⟩ := Prod.mk.inj hresult
    exact keeps_write hload (inOrder_merge (inOrder_of_loadSnapshot hload) hevidence)
      (fun item hitem => mem_sortedEvidence.mpr (List.mem_append_left _ hitem))
      fun checkpoint hmem => ⟨checkpoint, hmem, rfl, rfl, le_rfl⟩

theorem markResponseDelivered_keeps (file : StoreFile Double) (peerKey localKey : String)
    (now : ℤ) : Keeps host file (markResponseDelivered host file peerKey localKey now).2 := by
  unfold markResponseDelivered
  split_ifs
  · exact Keeps.refl file
  · split
    · exact Keeps.refl file
    · next snapshot hload =>
      split
      · exact Keeps.refl file
      · next checkpoint hfind =>
        split_ifs
        · exact Keeps.refl file
        · refine keeps_write hload (inOrder_marked (inOrder_of_loadSnapshot hload) checkpoint now)
            (fun item hitem => hitem) fun other hother => ?_
          refine ⟨_, mem_sortedCheckpoints.mpr (List.mem_map_of_mem hother), ?_⟩
          split_ifs
          · exact ⟨rfl, rfl, le_rfl⟩
          · exact ⟨rfl, rfl, le_rfl⟩

variable {snapshot : Snapshot}

/-- An answer is reserved at once, or after the date of its checkpoint. -/
theorem answerNow_reserved {peerKey localKey : String} {now : ℤ}
    (h : (answerNow snapshot peerKey localKey now).status = .reserved) :
    snapshot.responseCheckpoints.length < responseCheckpointLimit ∧
        (∀ checkpoint ∈ snapshot.responseCheckpoints, checkpoint.isFor peerKey localKey = false) ∨
      ∃ checkpoint ∈ snapshot.responseCheckpoints,
        checkpoint.isFor peerKey localKey = true ∧ checkpoint.retryAfterUtc ≤ now := by
  unfold answerNow at h
  split at h
  · next checkpoint hfind =>
    refine .inr ⟨checkpoint, List.mem_of_find?_eq_some hfind,
      List.find?_some (p := ResponseCheckpoint.isFor peerKey localKey) hfind, ?_⟩
    split_ifs at h with hearly
    omega
  · next hfind =>
    split_ifs at h with hfull
    refine .inl ⟨by omega, fun checkpoint hmem => ?_⟩
    have hother := List.find?_eq_none.mp hfind checkpoint hmem
    rwa [Bool.not_eq_true] at hother

variable {root peerKey localKey : String}

theorem reserveResponse_cases {now : ℤ} {answer : ResponseReservation}
    (h : reserveResponse host file root peerKey localKey now = some (answer, file')) :
    answer.status ≠ .reserved ∧ file' = file ∨
      ∃ snapshot, Answerable host file root peerKey localKey now snapshot ∧
        answer.status = .reserved ∧
        file' = writeSnapshot host snapshot.attestations
          (reservedCheckpoints host snapshot peerKey localKey now) := by
  unfold reserveResponse at h
  by_cases hkeys : (!validRecordKey peerKey || !validRecordKey localKey) = true
  · rw [if_pos hkeys] at h
    obtain ⟨rfl, rfl⟩ := Prod.mk.inj (Option.some.inj h)
    exact .inl ⟨fun h => (nomatch h), rfl⟩
  · rw [if_neg hkeys] at h
    split at h
    · obtain ⟨rfl, rfl⟩ := Prod.mk.inj (Option.some.inj h)
      exact .inl ⟨fun h => (nomatch h), rfl⟩
    · next snapshot hload =>
      split_ifs at h with hevidence hstatus hlate
      · obtain ⟨rfl, rfl⟩ := Prod.mk.inj (Option.some.inj h)
        simp only [Bool.or_eq_true, Bool.not_eq_true', not_or, Bool.not_eq_false] at hkeys
        exact .inr ⟨snapshot, ⟨hload, hkeys.1, hkeys.2, hevidence, hstatus⟩, hstatus, rfl⟩
      · obtain ⟨rfl, rfl⟩ := Prod.mk.inj (Option.some.inj h)
        exact .inl ⟨hstatus, rfl⟩
      · obtain ⟨rfl, rfl⟩ := Prod.mk.inj (Option.some.inj h)
        exact .inl ⟨fun h => (nomatch h), rfl⟩

/-- The checkpoint of an answer that is reserved. -/
theorem mem_reservedCheckpoints (snapshot : Snapshot) (peerKey localKey : String) (now : ℤ) :
    (⟨peerKey, localKey, false, now + responseRetryDelay, now⟩ : ResponseCheckpoint) ∈
      reservedCheckpoints host snapshot peerKey localKey now :=
  mem_sortedCheckpoints.mpr (List.mem_append_right _ (List.mem_singleton.mpr rfl))

/-- **A reserved answer keeps the file, and its keys wait for the whole delay.** -/
theorem Answerable.kept {file : StoreFile Double} {now : ℤ}
    (h : Answerable host file root peerKey localKey now snapshot) :
    Keeps host file (writeSnapshot host snapshot.attestations
        (reservedCheckpoints host snapshot peerKey localKey now)) ∧
      Held host (writeSnapshot host snapshot.attestations
        (reservedCheckpoints host snapshot peerKey localKey now)) peerKey localKey
        (now + responseRetryDelay) := by
  have horder := inOrder_of_loadSnapshot h.loaded
  have hnext := inOrder_reserved horder h.validPeer h.validLocal h.answer
  constructor
  · refine keeps_write h.loaded hnext (fun item hitem => hitem) fun checkpoint hmem => ?_
    by_cases hfor : checkpoint.isFor peerKey localKey = true
    · -- the checkpoint of the keys makes place for a later one
      obtain ⟨hpeer, hlocal⟩ := isFor_iff.mp hfor
      refine ⟨_, mem_reservedCheckpoints snapshot peerKey localKey now, hpeer.symm, hlocal.symm, ?_⟩
      rcases answerNow_reserved h.answer with ⟨-, hnone⟩ | ⟨found, hfound, hfoundFor, hdue⟩
      · rw [hnone checkpoint hmem] at hfor
        exact nomatch hfor
      · rw [horder.unique hmem hfound hfor hfoundFor]
        show found.retryAfterUtc ≤ now + responseRetryDelay
        have hpositive : 0 ≤ responseRetryDelay := by decide
        omega
    · refine ⟨checkpoint, mem_sortedCheckpoints.mpr (List.mem_append_left _ ?_), rfl, rfl, le_rfl⟩
      rw [List.mem_filter]
      exact ⟨hmem, by simp [hfor]⟩
  · exact ⟨_, loadSnapshot_write hnext, _,
      mem_sortedCheckpoints.mpr (mem_reservedCheckpoints snapshot peerKey localKey now),
      isFor_iff.mpr ⟨rfl, rfl⟩, le_rfl⟩

/-- An answer that is reserved is not before the date its keys wait for. -/
theorem Answerable.due {file : StoreFile Double} {now until_ : ℤ}
    (h : Answerable host file root peerKey localKey now snapshot)
    (hheld : Held host file peerKey localKey until_) : until_ ≤ now := by
  obtain ⟨found, hfound, checkpoint, hmem, hfor, huntil⟩ := hheld
  obtain rfl := Option.some.inj (h.loaded.symm.trans hfound)
  rcases answerNow_reserved h.answer with ⟨-, hnone⟩ | ⟨other, hother, hotherFor, hdue⟩
  · rw [hnone checkpoint hmem] at hfor
    exact nomatch hfor
  · rw [(inOrder_of_loadSnapshot h.loaded).unique hmem hother hfor hotherFor] at huntil
    omega

/-- **What a call keeps.**  It takes nothing from the file, and the answer it reserves was due
    and has its keys wait. -/
theorem perform_keeps {root : String} {call : Call host} {reserved : Option Reservation}
    (h : perform host root file call = some (reserved, file')) :
    Keeps host file file' ∧ ∀ r ∈ reserved, r.capsuleRootHex = root ∧
      Held host file' r.peerKey r.localKey (r.now + responseRetryDelay) ∧
        ∀ until_, Held host file r.peerKey r.localKey until_ → until_ ≤ r.now := by
  cases call with
  | merge capsule evidence =>
    obtain ⟨⟨added, written⟩, hmerge, hresult⟩ := Option.map_eq_some_iff.mp h
    obtain ⟨rfl, rfl⟩ := Prod.mk.inj hresult
    refine ⟨merge_keeps (fun item hitem => ?_) hmerge, fun r hr => (nomatch hr)⟩
    obtain ⟨stored, -, rfl⟩ := List.mem_map.mp hitem
    exact stored.property
  | reserveResponse capsule peerKey localKey now =>
    obtain ⟨⟨answer, written⟩, hreserve, hresult⟩ := Option.map_eq_some_iff.mp h
    obtain ⟨rfl, rfl⟩ := Prod.mk.inj hresult
    rcases reserveResponse_cases hreserve with ⟨hstatus, rfl⟩ | ⟨snapshot, hanswer, -, rfl⟩
    · rw [if_neg hstatus]
      exact ⟨Keeps.refl _, fun r hr => (nomatch hr)⟩
    · obtain ⟨hkeeps, hheld⟩ := hanswer.kept
      refine ⟨hkeeps, fun r hr => ?_⟩
      split_ifs at hr
      · obtain rfl := Option.some.inj hr
        exact ⟨rfl, hheld, fun until_ huntil => hanswer.due huntil⟩
      · exact nomatch hr
  | markResponseDelivered capsule peerKey localKey now =>
    obtain ⟨rfl, rfl⟩ := Prod.mk.inj (Option.some.inj h)
    exact ⟨markResponseDelivered_keeps file peerKey localKey now, fun r hr => (nomatch hr)⟩

/-! ### Runs -/

/-- What a call does to the stores. -/
theorem callStep_cases (stores : Stores Double) (event : Call host × Bool) :
    callStep host stores event = stores ∨
      ∃ root reserved file, perform host root (stores.files root) event.1 = some (reserved, file) ∧
        callStep host stores event =
          ⟨Function.update stores.files root file, stores.reservations ++ reserved.toList⟩ := by
  unfold callStep
  split
  · exact .inl rfl
  · next root hroot =>
    split
    · exact .inl rfl
    · next reserved file hperform =>
      split_ifs
      · exact .inl rfl
      · exact .inr ⟨root, reserved, file, hperform, rfl⟩

theorem callStep_keeps (stores : Stores Double) (event : Call host × Bool) (root : String) :
    Keeps host (stores.files root) ((callStep host stores event).files root) := by
  rcases callStep_cases stores event with h | ⟨written, reserved, file, hperform, h⟩
  · rw [h]
    exact Keeps.refl _
  · rw [h]
    by_cases hroot : root = written
    · subst hroot
      dsimp only
      rw [Function.update_self]
      exact (perform_keeps hperform).1
    · dsimp only
      rw [Function.update_of_ne hroot]
      exact Keeps.refl _

theorem Spaced.step {stores : Stores Double} (h : Spaced host stores)
    (event : Call host × Bool) : Spaced host (callStep host stores event) := by
  have hkept : ∀ r ∈ stores.reservations,
      Held host ((callStep host stores event).files r.capsuleRootHex) r.peerKey r.localKey
        (r.now + responseRetryDelay) := fun r hr =>
    (callStep_keeps stores event r.capsuleRootHex).held _ _ _ (h.held r hr)
  rcases callStep_cases stores event with hstep | ⟨root, reserved, file, hperform, hstep⟩
  · rw [hstep]
    exact h
  · rw [hstep] at hkept ⊢
    have hreserved := (perform_keeps hperform).2
    refine ⟨fun r hr => ?_, List.pairwise_append.mpr ⟨h.spaced, ?_, fun first hfirst second hsecond
      halike => ?_⟩⟩
    · rcases List.mem_append.mp hr with hr | hr
      · exact hkept r hr
      · obtain ⟨rfl, hheld, -⟩ := hreserved r (Option.mem_toList.mp hr)
        dsimp only
        rwa [Function.update_self]
    · cases reserved with
      | none => exact .nil
      | some r => exact List.pairwise_singleton _ r
    · obtain ⟨hroot, -, hdue⟩ := hreserved second (Option.mem_toList.mp hsecond)
      obtain ⟨hcapsule, hpeer, hlocal⟩ := halike
      refine hdue _ ?_
      rw [← hroot, ← hcapsule, ← hpeer, ← hlocal]
      exact h.held first hfirst

theorem Spaced.start (files : String → StoreFile Double) : Spaced host ⟨files, []⟩ :=
  ⟨fun _ h => (nomatch h), .nil⟩

theorem callsOf_keeps (stores : Stores Double) (events : List (Call host × Bool)) (root : String) :
    ∀ item ∈ load host (stores.files root),
      item ∈ load host ((replay (callStep host) stores events).files root) := by
  intro item hitem
  refine replay_invariant (P := fun stores : Stores Double => item ∈ load host (stores.files root))
    hitem fun stores event _ h => ?_
  exact (callStep_keeps stores event root).evidence item h

theorem of_single {key : String} {item : ConsensusAttestationEvidence}
    (h : single snapshot key = some item) :
    item ∈ snapshot.attestations ∧ item.recordKey = key := by
  unfold single at h
  split at h
  · next found hfilter =>
    obtain rfl := Option.some.inj h
    have hmem : found ∈ snapshot.attestations.filter fun item => item.recordKey == key := by
      rw [hfilter]
      exact List.mem_singleton.mpr rfl
    obtain ⟨hmem, hkey⟩ := List.mem_filter.mp hmem
    exact ⟨hmem, beq_iff_eq.mp hkey⟩
  · exact nomatch h

/-- The keys name evidence of the peer and of the own root for the same commitment. -/
def Answers (snapshot : Snapshot) (root peerKey localKey : String) : Prop :=
  ∃ peer ∈ snapshot.attestations, ∃ own ∈ snapshot.attestations,
    peer.recordKey = peerKey ∧ own.recordKey = localKey ∧
      peer.signerRootHex ≠ root ∧ own.signerRootHex = root ∧
        peer.pairRootsSorted = own.pairRootsSorted ∧
          peer.snapshotHashHex = own.snapshotHashHex ∧
            peer.commitmentHashHex = own.commitmentHashHex

theorem answers_of_contains
    (h : containsValidResponseEvidence snapshot root peerKey localKey = true) :
    Answers snapshot root peerKey localKey := by
  unfold containsValidResponseEvidence at h
  split at h
  · next peer own hpeer hown =>
    obtain ⟨hpeerMem, hpeerKey⟩ := of_single hpeer
    obtain ⟨hownMem, hownKey⟩ := of_single hown
    unfold answers at h
    simp only [Bool.and_eq_true, beq_iff_eq, bne_iff_ne] at h
    obtain ⟨⟨⟨⟨⟨⟨hother, hsigner⟩, hsnapshot⟩, hcommitment⟩, -⟩, -⟩, hpair⟩ := h
    exact ⟨peer, hpeerMem, own, hownMem, hpeerKey, hownKey, hother, hsigner, hpair, hsnapshot,
      hcommitment⟩
  · exact nomatch h

/-- **Answers that are sent on their own are bounded.**  Whatever calls follow one another, and
    whatever the files are at first: two answers for the same keys of a capsule are a quarter of an
    hour apart, evidence that is stored stays as it is, and an answer is reserved only from a store
    that is not corrupt, for the keys of evidence for one commitment, of the own root and of
    another, with room for a checkpoint or one that is due. -/
theorem responses_bounded (files : String → StoreFile Double) (events : List (Call host × Bool)) :
    (replay (callStep host) ⟨files, []⟩ events).reservations.Pairwise
        (fun first second => first.Alike second →
          first.now + responseRetryDelay ≤ second.now) ∧
      (∀ before after, events = before ++ after → ∀ root,
        ∀ item ∈ load host ((replay (callStep host) ⟨files, []⟩ before).files root),
          item ∈ load host ((replay (callStep host) ⟨files, []⟩ events).files root)) ∧
      ∀ (file file' : StoreFile Double) (root peerKey localKey : String) (now : ℤ)
        (answer : ResponseReservation),
        reserveResponse host file root peerKey localKey now = some (answer, file') →
          answer.status = .reserved →
            ∃ snapshot, loadSnapshot host file = some snapshot ∧
              Answers snapshot root peerKey localKey ∧
                (snapshot.responseCheckpoints.length < responseCheckpointLimit ∨
                  ∃ checkpoint ∈ snapshot.responseCheckpoints,
                    checkpoint.isFor peerKey localKey = true ∧
                      checkpoint.retryAfterUtc ≤ now) := by
  refine ⟨?_, fun before after hevents root => ?_, fun file file' root peerKey localKey now answer h
    hreserved => ?_⟩
  · exact (replay_invariant (P := Spaced host) (Spaced.start files)
      fun stores event _ h => h.step event).spaced
  · subst hevents
    rw [replay_append]
    exact callsOf_keeps _ after root
  · rcases reserveResponse_cases h with ⟨hnot, -⟩ | ⟨snapshot, hanswer, -, -⟩
    · exact absurd hreserved hnot
    · refine ⟨snapshot, hanswer.loaded, answers_of_contains hanswer.evidence, ?_⟩
      rcases answerNow_reserved hanswer.answer with ⟨hroom, -⟩ | hdue
      · exact .inl hroom
      · exact .inr hdue

end Calls

/-! ### A full store -/

variable {snapshot : Snapshot}

theorem single_of_mem (h : (snapshot.attestations.map recordKey).Nodup)
    {item : ConsensusAttestationEvidence} (hmem : item ∈ snapshot.attestations) :
    single snapshot item.recordKey = some item := by
  have hfilter : (snapshot.attestations.filter fun other => other.recordKey == item.recordKey) =
      [item] := by
    have hsame : (snapshot.attestations.filter fun other => other.recordKey == item.recordKey) =
        snapshot.attestations.filter fun other => other == item := by
      refine List.filter_congr fun other hother => ?_
      rw [Bool.eq_iff_iff, beq_iff_eq, beq_iff_eq]
      exact ⟨fun hkey => List.inj_on_of_nodup_map h hother hmem hkey, fun h => h ▸ rfl⟩
    rw [hsame, List.filter_beq, List.count_eq_one_of_mem h.of_map hmem]
    rfl
  unfold single
  rw [hfilter]

variable {peer own : ConsensusAttestationEvidence} {checkpoint : ResponseCheckpoint}

/-- The keys of evidence that answers are reserved as soon as their checkpoint is due. -/
theorem reserveResponse_of_due {Double : Type} {host : AttestationHost Double}
    {file : StoreFile Double} (hload : loadSnapshot host file = some snapshot)
    (hpeer : peer ∈ snapshot.attestations) (hown : own ∈ snapshot.attestations) {root : String}
    (hanswers : answers root peer own = true) (hmem : checkpoint ∈ snapshot.responseCheckpoints)
    (hfor : checkpoint.isFor peer.recordKey own.recordKey = true) {now : ℤ}
    (hdue : checkpoint.retryAfterUtc ≤ now) (hdate : now + responseRetryDelay ≤ lastDate) :
    (reserveResponse host file root peer.recordKey own.recordKey now).map Prod.fst =
      some ⟨.reserved, some (now + responseRetryDelay)⟩ := by
  have horder := inOrder_of_loadSnapshot hload
  have hkeys : ¬ (!validRecordKey peer.recordKey || !validRecordKey own.recordKey) = true := by
    rw [validRecordKey_recordKey (horder.stored peer hpeer).wellFormed,
      validRecordKey_recordKey (horder.stored own hown).wellFormed]
    decide
  have hcontains : containsValidResponseEvidence snapshot root peer.recordKey own.recordKey =
      true := by
    unfold containsValidResponseEvidence
    rw [single_of_mem horder.distinct hpeer, single_of_mem horder.distinct hown]
    exact hanswers
  have hanswer : answerNow snapshot peer.recordKey own.recordKey now =
      ⟨.reserved, some (now + responseRetryDelay)⟩ := by
    unfold answerNow
    rw [horder.find hmem hfor]
    exact if_neg (not_lt.mpr hdue)
  unfold reserveResponse
  rw [if_neg hkeys, hload]
  dsimp only
  rw [if_pos hcontains, hanswer, if_pos rfl, if_neg (not_lt.mpr hdate)]
  rfl

theorem reserveResponse_write {Double : Type} {host : AttestationHost Double}
    (h : snapshot.InOrder host) (hpeer : peer ∈ snapshot.attestations)
    (hown : own ∈ snapshot.attestations) {root : String} (hanswers : answers root peer own = true)
    (hmem : checkpoint ∈ snapshot.responseCheckpoints)
    (hfor : checkpoint.isFor peer.recordKey own.recordKey = true) {now : ℤ}
    (hdue : checkpoint.retryAfterUtc ≤ now) (hdate : now + responseRetryDelay ≤ lastDate) :
    (reserveResponse host
        (writeSnapshot host snapshot.attestations snapshot.responseCheckpoints) root
        peer.recordKey own.recordKey now).map Prod.fst =
      some ⟨.reserved, some (now + responseRetryDelay)⟩ :=
  reserveResponse_of_due (loadSnapshot_write h) (mem_sortedEvidence.mpr hpeer)
    (mem_sortedEvidence.mpr hown) hanswers (mem_sortedCheckpoints.mpr hmem) hfor hdue hdate

def sampleAttestations : AttestationHost String where
  toDartViews := sampleOutbox.toDartViews
  toIso8601String := sampleIso
  tryParseUtc := sampleParseDate
  tryParseUtc_iso := sampleParseDate_iso

def repeated (length : ℕ) (digit : Char) : String := String.ofList (List.replicate length digit)

theorem isHex_repeated (length : ℕ) {digit : Char} (h : digit.isDigit = true) :
    isHex length (repeated length digit) = true := by
  unfold isHex repeated
  rw [String.toList_ofList, List.length_replicate, List.all_replicate, h]
  simp

def sampleEvidence (signer : String) : ConsensusAttestationEvidence where
  schemaVersion := 1
  pairRootsSorted := [repeated 64 '1', repeated 64 '2']
  snapshotHashHex := repeated 64 '3'
  commitmentHashHex := repeated 64 '4'
  signerRootHex := signer
  signatureHex := repeated 128 '5'
  createdAtUtc := sampleIso 0

def peerEvidence : ConsensusAttestationEvidence := sampleEvidence (repeated 64 '2')
def ownEvidence : ConsensusAttestationEvidence := sampleEvidence (repeated 64 '1')

/-- A key that is not one of evidence. -/
def otherKey (n : ℕ) : String := repeated (n + 1) 'a'

def otherCheckpoint (keys : ℕ × ℕ) : ResponseCheckpoint :=
  ⟨otherKey keys.1, otherKey keys.2, false, 0, 0⟩

/-- A checkpoint for the two pieces of evidence, and one less than the limit for other keys. -/
def fullSnapshot : Snapshot where
  schemaVersion := storeSchemaVersion
  attestations := [peerEvidence, ownEvidence]
  responseCheckpoints := ⟨peerEvidence.recordKey, ownEvidence.recordKey, true, 0, 0⟩ ::
    ((List.range 63 ×ˢ List.range 65).map otherCheckpoint)

def fullStore : StoreFile String :=
  writeSnapshot sampleAttestations fullSnapshot.attestations fullSnapshot.responseCheckpoints

theorem otherKey_injective : Function.Injective otherKey := by
  intro m n h
  have hlengths := congrArg (fun key : String => key.toList.length) h
  simpa [otherKey, repeated] using hlengths

theorem validRecordKey_otherKey {n : ℕ} (h : n < 512) : validRecordKey (otherKey n) = true := by
  unfold validRecordKey otherKey repeated
  simp [dartLength]
  omega

theorem repeated_lt : repeated 64 '1' < repeated 64 '2' := by
  rw [String.lt_iff, repeated, repeated, String.toList_ofList, String.toList_ofList]
  decide

theorem repeated_ne : repeated 64 '2' ≠ repeated 64 '1' := by
  intro h
  have hless := repeated_lt
  rw [h] at hless
  exact String.lt_irrefl _ hless

theorem stored_sampleEvidence {signer : String}
    (h : signer = repeated 64 '1' ∨ signer = repeated 64 '2') :
    Stored sampleAttestations (sampleEvidence signer) := by
  have hhex : isHex 64 signer = true := by
    rcases h with rfl | rfl
    · exact isHex_repeated 64 (by decide)
    · exact isHex_repeated 64 (by decide)
  have hmem : [repeated 64 '1', repeated 64 '2'].contains signer = true := by
    rw [List.contains_iff_mem]
    exact List.mem_pair.mpr h
  have hdate : sampleAttestations.tryParseUtc (sampleIso 0) = some 0 := sampleParseDate_iso 0
  constructor
  · show (decide ((1 : ℤ) = 1) && sortedRoots [repeated 64 '1', repeated 64 '2'] &&
      isHex 64 (repeated 64 '3') && isHex 64 (repeated 64 '4') && isHex 64 signer &&
      isHex 128 (repeated 128 '5') && [repeated 64 '1', repeated 64 '2'].contains signer &&
      (sampleAttestations.tryParseUtc (sampleIso 0)).isSome) = true
    rw [hdate, hhex, hmem, isHex_repeated 64 (by decide), isHex_repeated 64 (by decide),
      isHex_repeated 128 (by decide), sortedRoots, isHex_repeated 64 (by decide),
      isHex_repeated 64 (by decide), decide_eq_true repeated_lt]
    rfl
  · show trimmed (sampleIso 0) = sampleIso 0
    unfold trimmed sampleIso
    have hwhite : (epochText ++ List.replicate (Int.natAbs 0)
        (if (0 : ℤ) < 0 then '-' else '+')).all (fun c => !isDartWhite c) = true := by
      decide +kernel
    rw [String.toList_ofList, dartTrim_of_not_white fun c hc => by
      simpa using List.all_eq_true.mp hwhite c hc]

theorem recordKey_ne_otherKey (signer : String) (n : ℕ) :
    (sampleEvidence signer).recordKey ≠ otherKey n := by
  intro h
  have hcolon : ':' ∈ (sampleEvidence signer).recordKey.toList := by
    rw [toList_recordKey rfl]
    exact List.mem_append_right _ List.mem_cons_self
  rw [h, otherKey, repeated, String.toList_ofList] at hcolon
  exact absurd (List.eq_of_mem_replicate hcolon) (by decide)

theorem recordKey_ne : peerEvidence.recordKey ≠ ownEvidence.recordKey := by
  intro h
  have hlists := congrArg String.toList h
  rw [toList_recordKey rfl, toList_recordKey rfl] at hlists
  have hsigners : ':' :: ':' :: (repeated 64 '2').toList = ':' :: ':' :: (repeated 64 '1').toList :=
    List.append_cancel_left (List.tail_eq_of_cons_eq (List.tail_eq_of_cons_eq
      (List.append_cancel_left (List.tail_eq_of_cons_eq (List.append_cancel_left hlists)))))
  exact repeated_ne (String.toList_inj.mp
    (List.tail_eq_of_cons_eq (List.tail_eq_of_cons_eq hsigners)))

theorem fullSnapshot_inOrder : fullSnapshot.InOrder sampleAttestations := by
  have hevidence : ∀ item ∈ fullSnapshot.attestations, Stored sampleAttestations item := by
    intro item hitem
    rcases List.mem_pair.mp hitem with rfl | rfl
    · exact stored_sampleEvidence (.inr rfl)
    · exact stored_sampleEvidence (.inl rfl)
  have hothers : ∀ item ∈ (List.range 63 ×ˢ List.range 65).map otherCheckpoint,
      item.valid = true := by
    intro item hitem
    obtain ⟨⟨m, n⟩, hmem, rfl⟩ := List.mem_map.mp hitem
    obtain ⟨hm, hn⟩ := List.mem_product.mp hmem
    rw [List.mem_range] at hm hn
    exact Bool.and_eq_true_iff.mpr
      ⟨validRecordKey_otherKey (by omega), validRecordKey_otherKey (by omega)⟩
  refine ⟨hevidence, ?_, fun item hitem => ?_, ?_, ?_⟩
  · show [peerEvidence.recordKey, ownEvidence.recordKey].Nodup
    simp [recordKey_ne]
  · rcases List.mem_cons.mp hitem with rfl | hitem
    · exact Bool.and_eq_true_iff.mpr
        ⟨validRecordKey_recordKey (stored_sampleEvidence (.inr rfl)).wellFormed,
          validRecordKey_recordKey (stored_sampleEvidence (.inl rfl)).wellFormed⟩
    · exact hothers item hitem
  · refine List.nodup_cons.mpr ⟨fun hmem => ?_, ?_⟩
    · -- no other checkpoint is for the keys of the evidence
      obtain ⟨item, hitem, hsame⟩ := List.mem_map.mp hmem
      have hkeys := keys_of_identity (hothers item hitem) hsame
      obtain ⟨⟨m, n⟩, -, rfl⟩ := List.mem_map.mp hitem
      exact recordKey_ne_otherKey _ m hkeys.1.symm
    · rw [List.map_map]
      refine (List.nodup_range.product List.nodup_range).map_on fun first hfirst second _ h => ?_
      have hvalid := hothers _ (List.mem_map_of_mem hfirst)
      obtain ⟨hpeer, hlocal⟩ := keys_of_identity hvalid h
      exact Prod.ext (otherKey_injective hpeer) (otherKey_injective hlocal)
  · show _ + 1 ≤ _
    rw [List.length_map, List.length_product, List.length_range, List.length_range]
    decide

/-- **A full store reserves for the keys of a checkpoint that is due.** -/
theorem full_store_reserves :
    ∃ snapshot, loadSnapshot sampleAttestations fullStore = some snapshot ∧
      snapshot.responseCheckpoints.length = responseCheckpointLimit ∧
        (reserveResponse sampleAttestations fullStore (repeated 64 '1') peerEvidence.recordKey
            ownEvidence.recordKey 1000000).map Prod.fst =
          some ⟨.reserved, some 901000000⟩ := by
  have hload : loadSnapshot sampleAttestations fullStore = _ :=
    loadSnapshot_write fullSnapshot_inOrder
  refine ⟨_, hload, ?_, ?_⟩
  · rw [length_sortedCheckpoints]
    show _ + 1 = _
    rw [List.length_map, List.length_product, List.length_range, List.length_range]
    decide
  · have hanswers : answers (repeated 64 '1') peerEvidence ownEvidence = true := by
      simp [answers, peerEvidence, ownEvidence, sampleEvidence, repeated_ne]
    have hpeer : peerEvidence ∈ fullSnapshot.attestations := List.mem_cons_self
    have hown : ownEvidence ∈ fullSnapshot.attestations :=
      List.mem_cons_of_mem _ (List.mem_singleton.mpr rfl)
    have hmem : (⟨peerEvidence.recordKey, ownEvidence.recordKey, true, 0, 0⟩ :
        ResponseCheckpoint) ∈ fullSnapshot.responseCheckpoints := List.mem_cons_self
    have hfor : ResponseCheckpoint.isFor peerEvidence.recordKey ownEvidence.recordKey
        ⟨peerEvidence.recordKey, ownEvidence.recordKey, true, 0, 0⟩ = true :=
      isFor_iff.mpr ⟨rfl, rfl⟩
    have hdue : (0 : ℤ) ≤ 1000000 := by decide
    have hdate : 1000000 + responseRetryDelay ≤ lastDate := by decide
    exact reserveResponse_write fullSnapshot_inOrder hpeer hown hanswers hmem hfor hdue hdate

end AttestationStore

end Hivra
