import Hivra.Host.Attestations

namespace Hivra

open JsonDocument

namespace AttestationStore

open ConsensusAttestationEvidence

/-!
# The store of attestations

A capsule keeps the attestations of its pairs in one file, with a checkpoint for each answer that
was sent on its own.  A file with anything out of order in it is corrupt as a whole.

* `inOrder_merge`, `inOrder_reserved`, `inOrder_marked` — what the calls write is in order.
-/

def storeSchemaVersion : ℤ := 2
def responseCheckpointLimit : ℕ := 4096

/-- A quarter of an hour, in microseconds. -/
def responseRetryDelay : ℤ := 900000000

/-- The last date of the host. -/
def lastDate : ℤ := 8640000000000000000

structure ResponseCheckpoint where
  peerEvidenceRecordKey : String
  localEvidenceRecordKey : String
  delivered : Bool
  retryAfterUtc : ℤ
  updatedAtUtc : ℤ
  deriving DecidableEq

def ResponseCheckpoint.identity (checkpoint : ResponseCheckpoint) : String :=
  checkpoint.peerEvidenceRecordKey ++ "\x00" ++ checkpoint.localEvidenceRecordKey

def validRecordKey (value : String) : Bool :=
  value != "" && decide (dartLength value ≤ 512) && !value.toList.contains '\x00'

structure Snapshot where
  schemaVersion : ℤ
  attestations : List ConsensusAttestationEvidence
  responseCheckpoints : List ResponseCheckpoint

inductive ReservationStatus
  | reserved
  | delivered
  | coolingDown
  | unavailable
  deriving DecidableEq

structure ResponseReservation where
  status : ReservationStatus
  retryAfterUtc : Option ℤ

section Store

variable {Double : Type} (host : AttestationHost Double)

/-- The file of a capsule. -/
inductive StoreFile (Double : Type)
  | missing
  | unreadable
  | document (value : DartValue Double)

/-! ### Documents -/

def stateOf (delivered : Bool) : String := if delivered then "delivered" else "retry_after"

/-- The checkpoint of the members, without the checks of its keys. -/
def checkpointOf (members : List (String × DartValue Double)) : Option ResponseCheckpoint :=
  match displayText host.toDartRuntime (members.lookup "state"),
      host.tryParseUtc (memberText host members "retry_after_utc"),
      host.tryParseUtc (memberText host members "updated_at_utc") with
  | some state, some retryAfter, some updatedAt =>
    if state = stateOf true ∨ state = stateOf false then
      some ⟨memberText host members "peer_evidence_record_key",
        memberText host members "local_evidence_record_key", decide (state = stateOf true),
        retryAfter, updatedAt⟩
    else none
  | _, _, _ => none

def ResponseCheckpoint.valid (checkpoint : ResponseCheckpoint) : Bool :=
  validRecordKey checkpoint.peerEvidenceRecordKey &&
    validRecordKey checkpoint.localEvidenceRecordKey

def checkpointFromJson : DartValue Double → Option ResponseCheckpoint
  | .obj members => (checkpointOf host members).filter ResponseCheckpoint.valid
  | _ => none

def checkpointMembers (checkpoint : ResponseCheckpoint) : List (String × DartValue Double) :=
  [("peer_evidence_record_key", .str checkpoint.peerEvidenceRecordKey),
   ("local_evidence_record_key", .str checkpoint.localEvidenceRecordKey),
   ("state", .str (stateOf checkpoint.delivered)),
   ("retry_after_utc", .str (host.toIso8601String checkpoint.retryAfterUtc)),
   ("updated_at_utc", .str (host.toIso8601String checkpoint.updatedAtUtc))]

def checkpointToJson (checkpoint : ResponseCheckpoint) : DartValue Double :=
  .obj (checkpointMembers host checkpoint)

/-- All the items of a list, none if one of them cannot be read or two have the same key. -/
def readDistinct {α : Type} (read : DartValue Double → Option α) (key : α → String)
    (items : List (DartValue Double)) : Option (List α) :=
  (items.mapM read).filter fun found => decide ((found.map key).Nodup)

/-- The version of a document, none where it is not a number. -/
def schemaVersionOf (members : List (String × DartValue Double)) : Option ℤ :=
  match members.lookup "schema_version" with
  | some (.num (.inl value)) => some value
  | some (.num (.inr double)) => host.toInt double
  | _ => none

def readAttestations (members : List (String × DartValue Double)) :
    Option (List ConsensusAttestationEvidence) :=
  match members.lookup "attestations" with
  | some (.arr items) => readDistinct (fromJson host) recordKey items
  | _ => none

/-- The checkpoints; documents of the first version have none. -/
def readCheckpoints (members : List (String × DartValue Double)) (version : ℤ) :
    Option (List ResponseCheckpoint) :=
  if version = storeSchemaVersion then
    match members.lookup "response_checkpoints" with
    | some (.arr items) =>
      if responseCheckpointLimit < items.length then none
      else readDistinct (checkpointFromJson host) ResponseCheckpoint.identity items
    | _ => none
  else some []

def sortedEvidence (items : List ConsensusAttestationEvidence) :
    List ConsensusAttestationEvidence :=
  host.sort (fun a b => decide (a.recordKey ≤ b.recordKey)) items

def sortedCheckpoints (items : List ResponseCheckpoint) : List ResponseCheckpoint :=
  host.sort (fun a b => decide (a.identity ≤ b.identity)) items

def snapshotOf (members : List (String × DartValue Double)) (version : ℤ) : Option Snapshot :=
  if version = 1 ∨ version = storeSchemaVersion then
    match readAttestations host members, readCheckpoints host members version with
    | some attestations, some checkpoints =>
      some ⟨version, sortedEvidence host attestations, sortedCheckpoints host checkpoints⟩
    | _, _ => none
  else none

/-- What the file holds, none where it is corrupt. -/
def loadSnapshot : StoreFile Double → Option Snapshot
  | .missing => some ⟨storeSchemaVersion, [], []⟩
  | .unreadable => none
  | .document (.obj members) => (schemaVersionOf host members).bind (snapshotOf host members)
  | .document _ => none

def writeSnapshot (attestations : List ConsensusAttestationEvidence)
    (checkpoints : List ResponseCheckpoint) : StoreFile Double :=
  .document (.obj
    [("schema_version", .num (.inl storeSchemaVersion)),
     ("attestations", .arr (attestations.map toJson)),
     ("response_checkpoints", .arr (checkpoints.map (checkpointToJson host)))])

def load (file : StoreFile Double) : List ConsensusAttestationEvidence :=
  ((loadSnapshot host file).map Snapshot.attestations).getD []

/-! ### Calls -/

/-- The evidence that is known, and what a list adds to it. -/
def addEvidence (known : List ConsensusAttestationEvidence) :
    List ConsensusAttestationEvidence → List ConsensusAttestationEvidence
  | [] => []
  | item :: rest =>
    if (known.map recordKey).contains item.recordKey then addEvidence known rest
    else item :: addEvidence (known ++ [item]) rest

/-- What a merge adds and the file as it leaves it; none where it throws. -/
def merge (file : StoreFile Double) (evidence : List ConsensusAttestationEvidence) :
    Option (List ConsensusAttestationEvidence × StoreFile Double) :=
  (loadSnapshot host file).map fun snapshot =>
    let added := addEvidence snapshot.attestations evidence
    if added = [] ∧ snapshot.schemaVersion = storeSchemaVersion then ([], file)
    else (added, writeSnapshot host (sortedEvidence host (snapshot.attestations ++ added))
      snapshot.responseCheckpoints)

/-- The evidence under a key, none where there is not exactly one. -/
def single (snapshot : Snapshot) (key : String) : Option ConsensusAttestationEvidence :=
  match snapshot.attestations.filter fun item => item.recordKey == key with
  | [item] => some item
  | _ => none

/-- Evidence of the peer and of the own root for the same snapshot of the same pair. -/
def answers (capsuleRootHex : String) (peer own : ConsensusAttestationEvidence) : Bool :=
  peer.signerRootHex != capsuleRootHex && own.signerRootHex == capsuleRootHex &&
    peer.snapshotHashHex == own.snapshotHashHex &&
    peer.commitmentHashHex == own.commitmentHashHex &&
    peer.pairRootsSorted.length == 2 && own.pairRootsSorted.length == 2 &&
    peer.pairRootsSorted == own.pairRootsSorted

def containsValidResponseEvidence (snapshot : Snapshot) (capsuleRootHex peerKey localKey : String) :
    Bool :=
  match single snapshot peerKey, single snapshot localKey with
  | some peer, some own => answers capsuleRootHex peer own
  | _, _ => false

def ResponseCheckpoint.isFor (peerKey localKey : String) (checkpoint : ResponseCheckpoint) : Bool :=
  checkpoint.peerEvidenceRecordKey == peerKey && checkpoint.localEvidenceRecordKey == localKey

/-- What a reservation answers by now. -/
def answerNow (snapshot : Snapshot) (peerKey localKey : String) (now : ℤ) : ResponseReservation :=
  match snapshot.responseCheckpoints.find? (ResponseCheckpoint.isFor peerKey localKey) with
  | some checkpoint =>
    if now < checkpoint.retryAfterUtc then
      if checkpoint.delivered then ⟨.delivered, none⟩
      else ⟨.coolingDown, some checkpoint.retryAfterUtc⟩
    else ⟨.reserved, some (now + responseRetryDelay)⟩
  | none =>
    if responseCheckpointLimit ≤ snapshot.responseCheckpoints.length then ⟨.unavailable, none⟩
    else ⟨.reserved, some (now + responseRetryDelay)⟩

/-- The checkpoints with the one of the answer. -/
def reservedCheckpoints (snapshot : Snapshot) (peerKey localKey : String) (now : ℤ) :
    List ResponseCheckpoint :=
  sortedCheckpoints host
    ((snapshot.responseCheckpoints.filter fun item => !item.isFor peerKey localKey) ++
      [⟨peerKey, localKey, false, now + responseRetryDelay, now⟩])

/-- The answer of a reservation and the file as it leaves it; none where it throws, as it does
    where the retry would be later than the last date. -/
def reserveResponse (file : StoreFile Double) (capsuleRootHex peerKey localKey : String)
    (now : ℤ) : Option (ResponseReservation × StoreFile Double) :=
  if !validRecordKey peerKey || !validRecordKey localKey then some (⟨.unavailable, none⟩, file)
  else
    match loadSnapshot host file with
    | none => some (⟨.unavailable, none⟩, file)
    | some snapshot =>
      if containsValidResponseEvidence snapshot capsuleRootHex peerKey localKey then
        if (answerNow snapshot peerKey localKey now).status = .reserved then
          if lastDate < now + responseRetryDelay then none
          else some (answerNow snapshot peerKey localKey now,
            writeSnapshot host snapshot.attestations
              (reservedCheckpoints host snapshot peerKey localKey now))
        else some (answerNow snapshot peerKey localKey now, file)
      else some (⟨.unavailable, none⟩, file)

/-- The checkpoints with one of them marked as delivered. -/
def markedCheckpoints (snapshot : Snapshot) (checkpoint : ResponseCheckpoint) (now : ℤ) :
    List ResponseCheckpoint :=
  sortedCheckpoints host (snapshot.responseCheckpoints.map fun item =>
    if item = checkpoint then { item with delivered := true, updatedAtUtc := now } else item)

/-- Whether there was an answer to be marked as delivered, and the file with it marked. -/
def markResponseDelivered (file : StoreFile Double) (peerKey localKey : String) (now : ℤ) :
    Bool × StoreFile Double :=
  if !validRecordKey peerKey || !validRecordKey localKey then (false, file)
  else
    match loadSnapshot host file with
    | none => (false, file)
    | some snapshot =>
      match snapshot.responseCheckpoints.find? (ResponseCheckpoint.isFor peerKey localKey) with
      | none => (false, file)
      | some checkpoint =>
        if checkpoint.delivered then (true, file)
        else (true, writeSnapshot host snapshot.attestations
          (markedCheckpoints host snapshot checkpoint now))

/-! ### What is written is read again -/

/-- A snapshot as it is read: each item in order, and each under its own key. -/
structure Snapshot.InOrder (snapshot : Snapshot) : Prop where
  stored : ∀ item ∈ snapshot.attestations, Stored host item
  distinct : (snapshot.attestations.map recordKey).Nodup
  valid : ∀ item ∈ snapshot.responseCheckpoints, item.valid = true
  distinctCheckpoints : (snapshot.responseCheckpoints.map ResponseCheckpoint.identity).Nodup
  limited : snapshot.responseCheckpoints.length ≤ responseCheckpointLimit

variable {host} {items : List ConsensusAttestationEvidence} {item : ConsensusAttestationEvidence}

theorem mem_sortedEvidence : item ∈ sortedEvidence host items ↔ item ∈ items :=
  (host.sort_perm _ items).mem_iff

theorem mem_sortedCheckpoints {items : List ResponseCheckpoint} {item : ResponseCheckpoint} :
    item ∈ sortedCheckpoints host items ↔ item ∈ items :=
  (host.sort_perm _ items).mem_iff

theorem sortedEvidence_distinct :
    ((sortedEvidence host items).map recordKey).Nodup ↔ (items.map recordKey).Nodup :=
  ((host.sort_perm _ items).map recordKey).nodup_iff

theorem sortedCheckpoints_distinct {items : List ResponseCheckpoint} :
    ((sortedCheckpoints host items).map ResponseCheckpoint.identity).Nodup ↔
      (items.map ResponseCheckpoint.identity).Nodup :=
  ((host.sort_perm _ items).map ResponseCheckpoint.identity).nodup_iff

theorem length_sortedCheckpoints (items : List ResponseCheckpoint) :
    (sortedCheckpoints host items).length = items.length :=
  (host.sort_perm _ items).length_eq

theorem readDistinct_of {α : Type} {read : DartValue Double → Option α} {key : α → String}
    {write : α → DartValue Double} {items : List α}
    (hread : ∀ item ∈ items, read (write item) = some item) (hdistinct : (items.map key).Nodup) :
    readDistinct read key (items.map write) = some items := by
  have hall : (items.map write).mapM read = some items := by
    clear hdistinct
    induction items with
    | nil => rfl
    | cons item items ih =>
      rw [List.map_cons, List.mapM_cons, hread item List.mem_cons_self,
        ih fun other hother => hread other (List.mem_cons_of_mem _ hother)]
      rfl
  unfold readDistinct
  rw [hall, Option.filter_some, if_pos (decide_eq_true hdistinct)]

theorem mem_of_mapM {α : Type} {read : DartValue Double → Option α}
    {items : List (DartValue Double)} {found : List α} (h : items.mapM read = some found) :
    (∀ item ∈ found, ∃ value, read value = some item) ∧ found.length = items.length := by
  induction items generalizing found with
  | nil =>
    obtain rfl : [] = found := Option.some.inj h
    exact ⟨fun _ hmem => (nomatch hmem), rfl⟩
  | cons value items ih =>
    rw [List.mapM_cons] at h
    obtain ⟨first, hfirst, hrest⟩ := Option.bind_eq_some_iff.mp h
    obtain ⟨rest, hitems, hfound⟩ := Option.bind_eq_some_iff.mp hrest
    obtain rfl := Option.some.inj hfound
    obtain ⟨hmem, hlength⟩ := ih hitems
    refine ⟨fun item hitem => ?_, congrArg (· + 1) hlength⟩
    rcases List.mem_cons.mp hitem with rfl | hitem
    · exact ⟨value, hfirst⟩
    · exact hmem item hitem

theorem readDistinct_eq_some {α : Type} {read : DartValue Double → Option α} {key : α → String}
    {items : List (DartValue Double)} {found : List α}
    (h : readDistinct read key items = some found) :
    (∀ item ∈ found, ∃ value, read value = some item) ∧ (found.map key).Nodup ∧
      found.length = items.length := by
  obtain ⟨hall, hdistinct⟩ := Option.filter_eq_some_iff.mp h
  obtain ⟨hmem, hlength⟩ := mem_of_mapM hall
  exact ⟨hmem, of_decide_eq_true hdistinct, hlength⟩

variable {checkpoint : ResponseCheckpoint}

theorem checkpointFromJson_toJson (h : checkpoint.valid = true) :
    checkpointFromJson host (checkpointToJson host checkpoint) = some checkpoint := by
  have hread : checkpointOf host (checkpointMembers host checkpoint) = some checkpoint := by
    show (match some (stateOf checkpoint.delivered),
        host.tryParseUtc (host.toIso8601String checkpoint.retryAfterUtc),
        host.tryParseUtc (host.toIso8601String checkpoint.updatedAtUtc) with
      | some _, some _, some _ => _
      | _, _, _ => none) = _
    rw [host.tryParseUtc_iso, host.tryParseUtc_iso]
    cases checkpoint with
    | mk peer own delivered retryAfter updatedAt => cases delivered <;> rfl
  show (checkpointOf host (checkpointMembers host checkpoint)).filter _ = _
  rw [hread, Option.filter_some, if_pos h]

theorem valid_of_checkpointFromJson {value : DartValue Double}
    (h : checkpointFromJson host value = some checkpoint) : checkpoint.valid = true := by
  cases value with
  | obj members => exact (Option.filter_eq_some_iff.mp h).2
  | _ => exact nomatch h

variable {snapshot : Snapshot}

/-- **What is loaded is in order.** -/
theorem inOrder_of_loadSnapshot {file : StoreFile Double}
    (h : loadSnapshot host file = some snapshot) : snapshot.InOrder host := by
  cases file with
  | missing =>
    obtain rfl := Option.some.inj h
    exact ⟨fun _ h => (nomatch h), List.nodup_nil, fun _ h => (nomatch h), List.nodup_nil,
      Nat.zero_le _⟩
  | unreadable => exact nomatch h
  | document value =>
    cases value with
    | obj members =>
      obtain ⟨version, -, hsnapshot⟩ := Option.bind_eq_some_iff.mp h
      unfold snapshotOf at hsnapshot
      split_ifs at hsnapshot
      split at hsnapshot
      · next attestations checkpoints hattestations hcheckpoints =>
        obtain rfl := Option.some.inj hsnapshot
        have hevidence : (∀ item ∈ attestations, Stored host item) ∧
            (attestations.map recordKey).Nodup := by
          unfold readAttestations at hattestations
          split at hattestations
          · obtain ⟨hread, hdistinct, -⟩ := readDistinct_eq_some hattestations
            refine ⟨fun item hitem => ?_, hdistinct⟩
            obtain ⟨value, hvalue⟩ := hread item hitem
            exact stored_of_fromJson hvalue
          · exact nomatch hattestations
        have hlimited : (∀ item ∈ checkpoints, item.valid = true) ∧
            (checkpoints.map ResponseCheckpoint.identity).Nodup ∧
              checkpoints.length ≤ responseCheckpointLimit := by
          unfold readCheckpoints at hcheckpoints
          split_ifs at hcheckpoints
          · split at hcheckpoints
            · split_ifs at hcheckpoints with hlong
              obtain ⟨hread, hdistinct, hlength⟩ := readDistinct_eq_some hcheckpoints
              refine ⟨fun item hitem => ?_, hdistinct, by omega⟩
              obtain ⟨value, hvalue⟩ := hread item hitem
              exact valid_of_checkpointFromJson hvalue
            · exact nomatch hcheckpoints
          · obtain rfl := Option.some.inj hcheckpoints
            exact ⟨fun _ h => (nomatch h), List.nodup_nil, Nat.zero_le _⟩
        refine ⟨fun item hitem => hevidence.1 item (mem_sortedEvidence.mp hitem),
          sortedEvidence_distinct.mpr hevidence.2,
          fun item hitem => hlimited.1 item (mem_sortedCheckpoints.mp hitem),
          sortedCheckpoints_distinct.mpr hlimited.2.1, ?_⟩
        rw [length_sortedCheckpoints]
        exact hlimited.2.2
      · exact nomatch hsnapshot
    | _ => exact nomatch h

/-- **What is written in order is loaded again.** -/
theorem loadSnapshot_write (h : snapshot.InOrder host) :
    loadSnapshot host (writeSnapshot host snapshot.attestations snapshot.responseCheckpoints) =
      some ⟨storeSchemaVersion, sortedEvidence host snapshot.attestations,
        sortedCheckpoints host snapshot.responseCheckpoints⟩ := by
  have hattestations : readDistinct (fromJson host) recordKey
      (snapshot.attestations.map toJson) = some snapshot.attestations :=
    readDistinct_of (fun item hitem => fromJson_toJson (h.stored item hitem)) h.distinct
  have hcheckpoints : readDistinct (checkpointFromJson host) ResponseCheckpoint.identity
      (snapshot.responseCheckpoints.map (checkpointToJson host)) =
        some snapshot.responseCheckpoints :=
    readDistinct_of (fun item hitem => checkpointFromJson_toJson (h.valid item hitem))
      h.distinctCheckpoints
  have hlength : ¬ responseCheckpointLimit <
      (snapshot.responseCheckpoints.map (checkpointToJson host)).length := by
    rw [List.length_map]
    exact not_lt.mpr h.limited
  show snapshotOf host _ storeSchemaVersion = _
  unfold snapshotOf
  rw [if_pos (.inr rfl)]
  have hread : readAttestations host
      [("schema_version", .num (.inl storeSchemaVersion)),
       ("attestations", .arr (snapshot.attestations.map toJson)),
       ("response_checkpoints",
        .arr (snapshot.responseCheckpoints.map (checkpointToJson host)))] =
      some snapshot.attestations := hattestations
  have hreadCheckpoints : readCheckpoints host
      [("schema_version", .num (.inl storeSchemaVersion)),
       ("attestations", .arr (snapshot.attestations.map toJson)),
       ("response_checkpoints",
        .arr (snapshot.responseCheckpoints.map (checkpointToJson host)))] storeSchemaVersion =
      some snapshot.responseCheckpoints := by
    show (if responseCheckpointLimit < _ then none else _) = _
    rw [if_neg hlength]
    exact hcheckpoints
  rw [hread, hreadCheckpoints]

theorem mem_load_write (h : snapshot.InOrder host) :
    item ∈ load host (writeSnapshot host snapshot.attestations snapshot.responseCheckpoints) ↔
      item ∈ snapshot.attestations := by
  unfold load
  rw [loadSnapshot_write h]
  exact mem_sortedEvidence

/-! ### Keys of checkpoints -/

variable {first second : ResponseCheckpoint}

/-- The two keys of a checkpoint can be told from its identity. -/
theorem keys_of_identity (hfirst : first.valid = true) (h : first.identity = second.identity) :
    first.peerEvidenceRecordKey = second.peerEvidenceRecordKey ∧
      first.localEvidenceRecordKey = second.localEvidenceRecordKey := by
  unfold ResponseCheckpoint.valid validRecordKey at hfirst
  simp only [Bool.and_eq_true, Bool.not_eq_true'] at hfirst
  have hpeer : '\x00' ∉ first.peerEvidenceRecordKey.toList := by simpa using hfirst.1.2
  have hlocal : '\x00' ∉ first.localEvidenceRecordKey.toList := by simpa using hfirst.2.2
  have hlists := congrArg String.toList h
  unfold ResponseCheckpoint.identity at hlists
  simp only [String.toList_append, List.append_assoc] at hlists
  obtain ⟨hkeys, -, hkeys'⟩ := (List.append_cons_inj_of_notMem hpeer hlocal).mp hlists
  exact ⟨String.toList_inj.mp hkeys, String.toList_inj.mp hkeys'⟩

/-- The key of evidence in order can be that of a checkpoint. -/
theorem validRecordKey_recordKey {evidence : ConsensusAttestationEvidence}
    (h : wellFormed host evidence = true) : validRecordKey evidence.recordKey = true := by
  obtain ⟨hlength, hdigits⟩ := recordKey_of_wellFormed h
  have hplane : dartLength evidence.recordKey = 261 :=
    (dartLength_of_plane fun c hc => by have := hdigits c hc; omega).trans hlength
  have hne : evidence.recordKey ≠ "" := by
    intro hempty
    rw [hempty] at hlength
    exact absurd hlength (by decide)
  have hzero : '\x00' ∉ evidence.recordKey.toList := fun hmem =>
    absurd (hdigits _ hmem).1 (by decide)
  unfold validRecordKey
  rw [hplane]
  simp [hne, hzero]

variable {peerKey localKey : String}

theorem isFor_iff :
    checkpoint.isFor peerKey localKey = true ↔
      checkpoint.peerEvidenceRecordKey = peerKey ∧
        checkpoint.localEvidenceRecordKey = localKey := by
  unfold ResponseCheckpoint.isFor
  rw [Bool.and_eq_true, beq_iff_eq, beq_iff_eq]

/-- Two keys have one checkpoint. -/
theorem Snapshot.InOrder.unique (h : snapshot.InOrder host)
    (hfirst : first ∈ snapshot.responseCheckpoints)
    (hsecond : second ∈ snapshot.responseCheckpoints)
    (hfirstFor : first.isFor peerKey localKey = true)
    (hsecondFor : second.isFor peerKey localKey = true) : first = second := by
  obtain ⟨hpeer, hlocal⟩ := isFor_iff.mp hfirstFor
  obtain ⟨hpeer', hlocal'⟩ := isFor_iff.mp hsecondFor
  refine List.inj_on_of_nodup_map h.distinctCheckpoints hfirst hsecond ?_
  unfold ResponseCheckpoint.identity
  rw [hpeer, hpeer', hlocal, hlocal']

/-- The checkpoint that is found for two keys is the one there is. -/
theorem Snapshot.InOrder.find (h : snapshot.InOrder host)
    (hmem : checkpoint ∈ snapshot.responseCheckpoints)
    (hfor : checkpoint.isFor peerKey localKey = true) :
    snapshot.responseCheckpoints.find? (ResponseCheckpoint.isFor peerKey localKey) =
      some checkpoint := by
  cases hfind : snapshot.responseCheckpoints.find? (ResponseCheckpoint.isFor peerKey localKey) with
  | none => exact absurd hfor (List.find?_eq_none.mp hfind checkpoint hmem)
  | some found =>
    have hfound := List.find?_some hfind
    rw [h.unique (List.mem_of_find?_eq_some hfind) hmem hfound hfor]

/-! ### What the calls keep -/

theorem addEvidence_spec {known evidence : List ConsensusAttestationEvidence}
    (h : (known.map recordKey).Nodup) :
    ((known ++ addEvidence known evidence).map recordKey).Nodup ∧
      ∀ item ∈ addEvidence known evidence, item ∈ evidence := by
  induction evidence generalizing known with
  | nil =>
    rw [addEvidence, List.append_nil]
    exact ⟨h, fun _ hmem => nomatch hmem⟩
  | cons item rest ih =>
    unfold addEvidence
    split_ifs with hknown
    · obtain ⟨hdistinct, hmem⟩ := ih h
      exact ⟨hdistinct, fun other hother => List.mem_cons_of_mem _ (hmem other hother)⟩
    · have hfresh : item.recordKey ∉ known.map recordKey := by simpa using hknown
      have hsnoc : ((known ++ [item]).map recordKey).Nodup := by
        rw [List.map_append, List.map_singleton, List.nodup_append]
        refine ⟨h, List.nodup_singleton _, fun key hkey key' hkey' heq => hfresh ?_⟩
        rwa [← List.mem_singleton.mp hkey', ← heq]
      obtain ⟨hdistinct, hmem⟩ := ih hsnoc
      rw [List.append_assoc] at hdistinct
      refine ⟨hdistinct, fun other hother => ?_⟩
      rcases List.mem_cons.mp hother with rfl | hother
      · exact List.mem_cons_self
      · exact List.mem_cons_of_mem _ (hmem other hother)

/-- What a merge of evidence in order writes is in order. -/
theorem inOrder_merge (h : snapshot.InOrder host) {evidence : List ConsensusAttestationEvidence}
    (hevidence : ∀ item ∈ evidence, Stored host item) :
    Snapshot.InOrder host ⟨storeSchemaVersion,
      sortedEvidence host (snapshot.attestations ++ addEvidence snapshot.attestations evidence),
      snapshot.responseCheckpoints⟩ := by
  obtain ⟨hdistinct, hmem⟩ := addEvidence_spec h.distinct
  refine ⟨fun item hitem => ?_, sortedEvidence_distinct.mpr hdistinct, h.valid,
    h.distinctCheckpoints, h.limited⟩
  rcases List.mem_append.mp (mem_sortedEvidence.mp hitem) with hitem | hitem
  · exact h.stored item hitem
  · exact hevidence item (hmem item hitem)

/-- Checkpoints with one more are in order, if there is room or one was there for the keys. -/
theorem inOrder_reserved (h : snapshot.InOrder host) (hpeer : validRecordKey peerKey = true)
    (hlocal : validRecordKey localKey = true) {now : ℤ}
    (hstatus : (answerNow snapshot peerKey localKey now).status = .reserved) :
    Snapshot.InOrder host ⟨storeSchemaVersion, snapshot.attestations,
      reservedCheckpoints host snapshot peerKey localKey now⟩ := by
  have hnew : (ResponseCheckpoint.mk peerKey localKey false (now + responseRetryDelay) now).valid =
      true := Bool.and_eq_true_iff.mpr ⟨hpeer, hlocal⟩
  refine ⟨h.stored, h.distinct, fun item hitem => ?_, sortedCheckpoints_distinct.mpr ?_, ?_⟩
  · rcases List.mem_append.mp (mem_sortedCheckpoints.mp hitem) with hitem | hitem
    · exact h.valid item (List.mem_of_mem_filter hitem)
    · rw [List.mem_singleton.mp hitem]
      exact hnew
  · rw [List.map_append, List.map_singleton, List.nodup_append]
    refine ⟨h.distinctCheckpoints.sublist (List.filter_sublist.map _), List.nodup_singleton _,
      fun key hkey key' hkey' heq => ?_⟩
    -- a checkpoint of the same identity is for the same keys
    obtain ⟨item, hitem, rfl⟩ := List.mem_map.mp hkey
    obtain ⟨hitem, hother⟩ := List.mem_filter.mp hitem
    rw [List.mem_singleton.mp hkey'] at heq
    have hkeys := keys_of_identity (h.valid item hitem) heq
    rw [isFor_iff.mpr hkeys] at hother
    exact nomatch hother
  · show (reservedCheckpoints host snapshot peerKey localKey now).length ≤ _
    unfold reservedCheckpoints
    rw [length_sortedCheckpoints, List.length_append, List.length_singleton]
    have hlimited := h.limited
    unfold answerNow at hstatus
    split at hstatus
    · next checkpoint hfind =>
      have hfound := List.find?_some hfind
      have hfewer : (snapshot.responseCheckpoints.filter
          fun item => !item.isFor peerKey localKey).length <
            snapshot.responseCheckpoints.length :=
        List.length_filter_lt_length_iff_exists.mpr
          ⟨checkpoint, List.mem_of_find?_eq_some hfind, by simp [hfound]⟩
      omega
    · split_ifs at hstatus with hfull
      have hfewer := List.length_filter_le (fun item => !item.isFor peerKey localKey)
        snapshot.responseCheckpoints
      omega

/-- A checkpoint that is marked keeps its keys. -/
theorem inOrder_marked (h : snapshot.InOrder host) (checkpoint : ResponseCheckpoint) (now : ℤ) :
    Snapshot.InOrder host ⟨storeSchemaVersion, snapshot.attestations,
      markedCheckpoints host snapshot checkpoint now⟩ := by
  refine ⟨h.stored, h.distinct, fun item hitem => ?_, sortedCheckpoints_distinct.mpr ?_, ?_⟩
  · obtain ⟨old, hold, rfl⟩ := List.mem_map.mp (mem_sortedCheckpoints.mp hitem)
    have hvalid := h.valid old hold
    split_ifs
    · exact hvalid
    · exact hvalid
  · rw [List.map_map]
    have hsame : (snapshot.responseCheckpoints.map (ResponseCheckpoint.identity ∘ fun item =>
        if item = checkpoint then { item with delivered := true, updatedAtUtc := now }
        else item)) = snapshot.responseCheckpoints.map ResponseCheckpoint.identity := by
      refine List.map_congr_left fun item _ => ?_
      show ResponseCheckpoint.identity (if _ then _ else _) = _
      split_ifs <;> rfl
    rw [hsame]
    exact h.distinctCheckpoints
  · show (sortedCheckpoints host _).length ≤ _
    rw [length_sortedCheckpoints, List.length_map]
    exact h.limited

end Store

end AttestationStore

end Hivra
