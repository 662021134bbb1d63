import Hivra.Core.Slot
import Mathlib.Data.Prod.Lex
import Mathlib.Data.List.DropRight
import Mathlib.Data.String.Basic

namespace Hivra

open Replay

/-!
# The chat handoff

Chat messages wait in a file until the host has acknowledged them.  The file also has the ids of
messages that are done with, so that one that is delivered again is not listed again: those that
were acknowledged, and those that had to make room.  There is room for so many ids; the oldest
ones go first.

* `persistChatHandoff`, `acknowledgeChatHandoff` — the two calls.
* `handoff_once` — what holds after any calls.
-/

namespace ChatHandoff

def chatInboxCapacity : ℕ := 512

def chatHandoffMaxPlaintextBytes : ℕ := 32 * 1024 * 1024

def chatTombstoneCapacity : ℕ := 65536

def chatHandoffSchemaVersion : ℕ := 1

structure QueuedChatMessage where
  eventId : String
  fromHex : String
  toHex : String
  payloadJson : String
  timestampMs : UInt64
  deriving DecidableEq

structure ChatHandoffSnapshotV1 where
  schemaVersion : ℕ
  capsuleId : String
  network : UInt8
  transportEndpoint : String
  records : List QueuedChatMessage
  tombstones : List String
  deriving DecidableEq

/-- Whose messages a call is about. -/
structure ChatScope where
  capsuleId : String
  network : UInt8
  transportEndpoint : String
  deriving DecidableEq

/-- What the outside decides of a call: whether the lock is good, the file is opened under the
    seed and the scope, and the new file gets into its place. -/
structure ChatOutside where
  locks : Bool
  opens : Bool
  writes : Bool

/-- The file of a capsule, none before the first write. -/
abbrev ChatFile := Option ChatHandoffSnapshotV1

/-- The number of bytes a snapshot is serialized to. -/
abbrev SnapshotSize := ChatHandoffSnapshotV1 → ℕ

def inScope (scope : ChatScope) (snapshot : ChatHandoffSnapshotV1) : Bool :=
  snapshot.schemaVersion == chatHandoffSchemaVersion && snapshot.capsuleId == scope.capsuleId &&
    snapshot.network == scope.network && snapshot.transportEndpoint == scope.transportEndpoint &&
    decide (snapshot.records.length ≤ chatInboxCapacity) &&
    decide (snapshot.tombstones.length ≤ chatTombstoneCapacity)

/-- The stored handoff, empty without a file; it has to open and to be of the scope. -/
def loadChatHandoff (scope : ChatScope) (outside : ChatOutside) (file : ChatFile) :
    Except String ChatHandoffSnapshotV1 :=
  match file with
  | none => .ok {
      schemaVersion := chatHandoffSchemaVersion
      capsuleId := scope.capsuleId
      network := scope.network
      transportEndpoint := scope.transportEndpoint
      records := []
      tombstones := [] }
  | some snapshot =>
    if outside.opens = false then .error "authentication failed"
    else if inScope scope snapshot then .ok snapshot
    else .error "scope or bounds mismatch"

def writeChatHandoff (size : SnapshotSize) (outside : ChatOutside)
    (snapshot : ChatHandoffSnapshotV1) : Except String ChatFile :=
  if chatHandoffMaxPlaintextBytes < size snapshot then .error "snapshot capacity exhausted"
  else if outside.writes = false then .error "write failed"
  else .ok (some snapshot)

def appendChatTombstones (tombstones : List String) (eventIds : List String) : List String :=
  let pushed := eventIds.foldl pushUnique tombstones
  if chatTombstoneCapacity < pushed.length then
    pushed.drop (pushed.length - chatTombstoneCapacity)
  else pushed

/-- The order of the records: by time, then by id. -/
def sortKey (record : QueuedChatMessage) : ℕ ×ₗ String :=
  toLex (record.timestampMs.toNat, record.eventId)

def sortRecords (records : List QueuedChatMessage) : List QueuedChatMessage :=
  records.mergeSort fun left right => decide (sortKey left ≤ sortKey right)

/-- The first loop: the oldest records make room for the newer ones. -/
def evictOverflow : List QueuedChatMessage → List String →
    List QueuedChatMessage × List String
  | [], tombstones => ([], tombstones)
  | record :: rest, tombstones =>
    if chatInboxCapacity < (record :: rest).length then
      evictOverflow rest (appendChatTombstones tombstones [record.eventId])
    else (record :: rest, tombstones)

/-- The second loop: records make room until the snapshot is small enough; the last one
    never goes. -/
def evictOversized (size : List QueuedChatMessage → List String → ℕ) :
    List QueuedChatMessage → List String →
      Except String (List QueuedChatMessage × List String)
  | [], tombstones =>
    if chatHandoffMaxPlaintextBytes < size [] tombstones then
      .error "record exceeds snapshot capacity"
    else .ok ([], tombstones)
  | record :: rest, tombstones =>
    if chatHandoffMaxPlaintextBytes < size (record :: rest) tombstones then
      if rest.isEmpty then .error "record exceeds snapshot capacity"
      else evictOversized size rest (appendChatTombstones tombstones [record.eventId])
    else .ok (record :: rest, tombstones)

/-- A message is queued unless its id is known; what does not fit goes. -/
def persistChatHandoff (size : SnapshotSize) (scope : ChatScope) (outside : ChatOutside)
    (record : QueuedChatMessage) (file : ChatFile) : Except String ChatFile :=
  if outside.locks = false then .error "lock failed"
  else do
    let snapshot ← loadChatHandoff scope outside file
    if snapshot.tombstones.any (fun id => id == record.eventId) ||
        snapshot.records.any (fun item => item.eventId == record.eventId) then .ok file
    else do
      let kept := evictOverflow (sortRecords (snapshot.records ++ [record])) snapshot.tombstones
      let fitted ← evictOversized
        (fun records tombstones =>
          size { snapshot with records := records, tombstones := tombstones }) kept.1 kept.2
      writeChatHandoff size outside { snapshot with records := fitted.1, tombstones := fitted.2 }

/-- Acknowledged messages go, and leave tombstones. -/
def acknowledgeChatHandoff (size : SnapshotSize) (scope : ChatScope) (outside : ChatOutside)
    (eventIds : List String) (file : ChatFile) : Except String ChatFile :=
  if outside.locks = false then .error "lock failed"
  else do
    let snapshot ← loadChatHandoff scope outside file
    if eventIds.isEmpty then .ok file
    else
      let acknowledged := (snapshot.records.filter fun record => record.eventId ∈ eventIds).map
        QueuedChatMessage.eventId
      writeChatHandoff size outside { snapshot with
        records := snapshot.records.filter fun record => record.eventId ∉ eventIds
        tombstones := appendChatTombstones snapshot.tombstones acknowledged }

inductive ChatCall
  | persist (scope : ChatScope) (outside : ChatOutside) (record : QueuedChatMessage)
  | acknowledge (scope : ChatScope) (outside : ChatOutside) (eventIds : List String)

def ChatCall.run (size : SnapshotSize) (call : ChatCall) (file : ChatFile) :
    Except String ChatFile :=
  match call with
  | .persist scope outside record => persistChatHandoff size scope outside record file
  | .acknowledge scope outside eventIds => acknowledgeChatHandoff size scope outside eventIds file

/-- The file after a call; one that fails leaves it as it is. -/
def chatStep (size : SnapshotSize) (file : ChatFile) (call : ChatCall) : ChatFile :=
  match call.run size file with
  | .ok file' => file'
  | .error _ => file

/-! ### What is listed, and what was taken off -/

def recordsOf (file : ChatFile) : List QueuedChatMessage :=
  match file with
  | none => []
  | some snapshot => snapshot.records

def tombstonesOf (file : ChatFile) : List String :=
  match file with
  | none => []
  | some snapshot => snapshot.tombstones

def idsOf (records : List QueuedChatMessage) : List String :=
  records.map QueuedChatMessage.eventId

/-- The ids that are listed for the host. -/
def listed (file : ChatFile) : List String := idsOf (recordsOf file)

/-- The messages that a call finds, the new one included. -/
def entered (file : ChatFile) : ChatCall → List QueuedChatMessage
  | .persist _ _ record => sortRecords (recordsOf file ++ [record])
  | .acknowledge .. => recordsOf file

/-- The ids that a call takes off, in their order: acknowledged, or evicted. -/
def takenOff (size : SnapshotSize) (file : ChatFile) (call : ChatCall) : List String :=
  if chatStep size file call = file then []
  else (idsOf (entered file call)).filter fun id => id ∉ listed (chatStep size file call)

/-- The file after some calls, with all ids that were taken off. -/
def handoffRun (size : SnapshotSize) (calls : List ChatCall) : ChatFile × List String :=
  replay (fun state call => (chatStep size state.1 call, state.2 ++ takenOff size state.1 call))
    (none, []) calls

/-! ### The last ids -/

/-- The last ones of a list that is cut in between. -/
theorem rtake_append {α : Type} (n : ℕ) (front back : List α) :
    (front.rtake n ++ back).rtake n = (front ++ back).rtake n := by
  unfold List.rtake
  simp only [List.drop_append, List.length_append, List.length_drop, List.drop_drop]
  congr 2 <;> omega

/-- An item with few behind it is among the last ones. -/
theorem mem_rtake {α : Type} {n : ℕ} {before after : List α} {item : α}
    (h : after.length < n) : item ∈ (before ++ item :: after).rtake n := by
  unfold List.rtake
  rw [List.drop_append_of_le_length]
  · exact List.mem_append_right _ List.mem_cons_self
  · simp only [List.length_append, List.length_cons]
    omega

variable {tombstones eventIds : List String}

/-- Ids that are all new are appended. -/
theorem foldl_pushUnique (hnodup : eventIds.Nodup) (hnew : ∀ id ∈ eventIds, id ∉ tombstones) :
    eventIds.foldl pushUnique tombstones = tombstones ++ eventIds := by
  induction eventIds generalizing tombstones with
  | nil => simp
  | cons id rest ih =>
    obtain ⟨hid, hrest⟩ := List.nodup_cons.mp hnodup
    have hpush : pushUnique tombstones id = tombstones ++ [id] := by
      have hnot : id ∉ tombstones := hnew id List.mem_cons_self
      unfold pushUnique
      rw [if_neg]
      simpa using hnot
    rw [List.foldl_cons, hpush, ih hrest]
    · simp
    · intro other hother
      rw [List.mem_append, List.mem_singleton, not_or]
      refine ⟨hnew other (List.mem_cons_of_mem _ hother), ?_⟩
      rintro rfl
      exact hid hother

theorem appendChatTombstones_eq (hnodup : eventIds.Nodup)
    (hnew : ∀ id ∈ eventIds, id ∉ tombstones) :
    appendChatTombstones tombstones eventIds
      = (tombstones ++ eventIds).rtake chatTombstoneCapacity := by
  unfold appendChatTombstones List.rtake
  rw [foldl_pushUnique hnodup hnew]
  dsimp only
  split_ifs with hlong
  · rfl
  · rw [Nat.sub_eq_zero_of_le (by omega), List.drop_zero]

/-! ### What a call keeps -/

/-- Records and tombstones that go together: no id twice, and the tombstones are the last ones
    of all ids that were taken off. -/
structure Kept (records : List QueuedChatMessage) (tombstones all : List String) : Prop where
  distinct : (idsOf records).Nodup
  apart : ∀ id ∈ idsOf records, id ∉ tombstones
  last : tombstones = all.rtake chatTombstoneCapacity

/-- **Some ids are taken off**, and the other records stay. -/
theorem Kept.takeOff {records rest : List QueuedChatMessage} {tombstones all off : List String}
    (h : Kept records tombstones all) (hrest : rest.Sublist records) (hoff : off.Nodup)
    (hmem : ∀ id ∈ off, id ∈ idsOf records) (hleft : ∀ id ∈ off, id ∉ idsOf rest) :
    Kept rest (appendChatTombstones tombstones off) (all ++ off) := by
  have hids : (idsOf rest).Sublist (idsOf records) := hrest.map _
  have happend := appendChatTombstones_eq hoff fun id hid => h.apart id (hmem id hid)
  refine ⟨h.distinct.sublist hids, fun id hid htomb => ?_, ?_⟩
  · rw [happend] at htomb
    rcases List.mem_append.mp (List.mem_of_mem_drop htomb) with hold | hnew
    · exact h.apart id (hids.subset hid) hold
    · exact hleft id hnew hid
  · rw [happend, h.last, rtake_append]

variable {tombstones all : List String} {record : QueuedChatMessage}

/-- The oldest record is evicted. -/
theorem Kept.evict {rest : List QueuedChatMessage} (h : Kept (record :: rest) tombstones all) :
    Kept rest (appendChatTombstones tombstones [record.eventId]) (all ++ [record.eventId]) := by
  refine h.takeOff (List.sublist_cons_self _ _) (List.nodup_singleton _) ?_ ?_
  · intro id hid
    rw [List.mem_singleton.mp hid]
    exact List.mem_cons_self
  · intro id hid
    rw [List.mem_singleton.mp hid]
    exact (List.nodup_cons.mp h.distinct).1

variable {records : List QueuedChatMessage}

/-- What the first loop leaves. -/
theorem evictOverflow_spec (h : Kept records tombstones all) :
    (evictOverflow records tombstones).1.length ≤ chatInboxCapacity ∧
      ∃ evicted, records = evicted ++ (evictOverflow records tombstones).1 ∧
        Kept (evictOverflow records tombstones).1 (evictOverflow records tombstones).2
          (all ++ idsOf evicted) := by
  induction records generalizing tombstones all with
  | nil => exact ⟨Nat.zero_le _, [], rfl, by simpa [idsOf, evictOverflow] using h⟩
  | cons record rest ih =>
    unfold evictOverflow
    split_ifs with hlong
    · obtain ⟨hlen, evicted, hrest, hkept⟩ := ih h.evict
      refine ⟨hlen, record :: evicted, congrArg (record :: ·) hrest, ?_⟩
      rw [List.append_assoc] at hkept
      exact hkept
    · exact ⟨Nat.le_of_not_lt hlong, [], rfl, by simpa [idsOf] using h⟩

/-- What the second loop leaves. -/
theorem evictOversized_spec {size : List QueuedChatMessage → List String → ℕ}
    {fitted : List QueuedChatMessage × List String} (h : Kept records tombstones all)
    (hfits : evictOversized size records tombstones = .ok fitted) :
    ∃ evicted, records = evicted ++ fitted.1 ∧
      Kept fitted.1 fitted.2 (all ++ idsOf evicted) := by
  induction records generalizing tombstones all with
  | nil =>
    unfold evictOversized at hfits
    split_ifs at hfits
    obtain rfl := Except.ok.inj hfits
    exact ⟨[], rfl, by simpa [idsOf] using h⟩
  | cons record rest ih =>
    unfold evictOversized at hfits
    split_ifs at hfits with hlarge hlast
    · obtain ⟨evicted, hrest, hkept⟩ := ih h.evict hfits
      refine ⟨record :: evicted, congrArg (record :: ·) hrest, ?_⟩
      rw [List.append_assoc] at hkept
      exact hkept
    · obtain rfl := Except.ok.inj hfits
      exact ⟨[], rfl, by simpa [idsOf] using h⟩

theorem sortRecords_perm (records : List QueuedChatMessage) :
    (sortRecords records).Perm records := List.mergeSort_perm _ _

theorem sortRecords_ordered (records : List QueuedChatMessage) :
    (sortRecords records).Pairwise fun left right => sortKey left ≤ sortKey right := by
  refine (List.pairwise_mergeSort ?_ ?_ records).imp fun h => of_decide_eq_true h
  · intro a b c hab hbc
    exact decide_eq_true (le_trans (of_decide_eq_true hab) (of_decide_eq_true hbc))
  · intro a b
    simpa using le_total (sortKey a) (sortKey b)

/-- A new record among those of a file. -/
theorem Kept.insert (h : Kept records tombstones all) (htomb : record.eventId ∉ tombstones)
    (hnew : record.eventId ∉ idsOf records) :
    Kept (sortRecords (records ++ [record])) tombstones all := by
  have hperm : (idsOf (sortRecords (records ++ [record]))).Perm
      (idsOf records ++ [record.eventId]) := by
    have hmap := (sortRecords_perm (records ++ [record])).map QueuedChatMessage.eventId
    rw [List.map_append] at hmap
    exact hmap
  refine ⟨hperm.nodup_iff.mpr ?_, fun id hid => ?_, h.last⟩
  · rw [List.nodup_append]
    refine ⟨h.distinct, List.nodup_singleton _, ?_⟩
    intro id hid other hother
    rw [List.mem_singleton.mp hother]
    rintro rfl
    exact hnew hid
  · rcases List.mem_append.mp (hperm.mem_iff.mp hid) with hold | hlast
    · exact h.apart id hold
    · rw [List.mem_singleton.mp hlast]
      exact htomb

/-! ### What holds of a file -/

/-- What holds of a file, with all ids that were taken off before. -/
structure HandoffSound (file : ChatFile) (all : List String) : Prop where
  kept : Kept (recordsOf file) (tombstonesOf file) all
  ordered : (recordsOf file).Pairwise fun left right => sortKey left ≤ sortKey right
  bounded : (recordsOf file).length ≤ chatInboxCapacity

variable {outside : ChatOutside} {scope : ChatScope} {file : ChatFile}
  {snapshot : ChatHandoffSnapshotV1}

theorem load_ok (h : loadChatHandoff scope outside file = .ok snapshot) :
    snapshot.records = recordsOf file ∧ snapshot.tombstones = tombstonesOf file := by
  unfold loadChatHandoff at h
  split at h
  · obtain rfl := Except.ok.inj h
    exact ⟨rfl, rfl⟩
  · split_ifs at h
    obtain rfl := Except.ok.inj h
    exact ⟨rfl, rfl⟩

variable {size : SnapshotSize}

theorem write_ok {file' : ChatFile} (h : writeChatHandoff size outside snapshot = .ok file') :
    file' = some snapshot := by
  unfold writeChatHandoff at h
  split_ifs at h
  exact (Except.ok.inj h).symm

variable {all : List String}

/-- **What a message that is kept leaves**: the file is as it was, or the oldest messages were
    evicted from those of the file and the new one. -/
theorem persist_spec {file file' : ChatFile}
    (h : persistChatHandoff size scope outside record file = .ok file')
    (hsound : HandoffSound file all) :
    file' = file ∨ ∃ evicted, sortRecords (recordsOf file ++ [record])
        = evicted ++ recordsOf file' ∧
      (idsOf (sortRecords (recordsOf file ++ [record]))).Nodup ∧
      Kept (recordsOf file') (tombstonesOf file') (all ++ idsOf evicted) ∧
      (recordsOf file').length ≤ chatInboxCapacity := by
  unfold persistChatHandoff at h
  split_ifs at h with hlocks
  cases hload : loadChatHandoff scope outside file with
  | error message => rw [hload] at h; exact nomatch h
  | ok snapshot =>
    obtain ⟨hrecords, htombs⟩ := load_ok hload
    rw [hload] at h
    replace h : (if _ then _ else _) = Except.ok file' := h
    split_ifs at h with hknown
    · exact Or.inl (Except.ok.inj h).symm
    · refine Or.inr ?_
      rw [Bool.not_eq_true, Bool.or_eq_false_iff, List.any_eq_false, List.any_eq_false] at hknown
      have htomb : record.eventId ∉ tombstonesOf file := by
        intro hmem
        rw [← htombs] at hmem
        exact hknown.1 _ hmem (beq_self_eq_true _)
      have hnew : record.eventId ∉ idsOf (recordsOf file) := by
        intro hmem
        rw [← hrecords] at hmem
        obtain ⟨item, hitem, hid⟩ := List.mem_map.mp hmem
        exact hknown.2 item hitem (by rw [hid]; exact beq_self_eq_true _)
      have hkept := hsound.kept.insert htomb hnew
      have hnodup := hkept.distinct
      rw [hrecords, htombs] at h
      obtain ⟨hlen, first, hfirst, hkept⟩ := evictOverflow_spec hkept
      cases hfits : evictOversized (fun records tombstones =>
          size { snapshot with records := records, tombstones := tombstones })
          (evictOverflow (sortRecords (recordsOf file ++ [record])) (tombstonesOf file)).1
          (evictOverflow (sortRecords (recordsOf file ++ [record])) (tombstonesOf file)).2 with
      | error message =>
        simp only [hfits] at h
        exact nomatch h
      | ok fitted =>
        simp only [hfits] at h
        obtain ⟨second, hsecond, hkept⟩ := evictOversized_spec hkept hfits
        obtain rfl := write_ok h
        refine ⟨first ++ second, ?_, hnodup, ?_, ?_⟩
        · rw [hfirst, hsecond, List.append_assoc]
          rfl
        · rw [List.append_assoc] at hkept
          rw [idsOf, List.map_append]
          exact hkept
        · show fitted.1.length ≤ _
          rw [hsecond, List.length_append] at hlen
          omega

/-- The ids of the records that are left, and of those that are not. -/
theorem idsOf_filter (p : String → Bool) (records : List QueuedChatMessage) :
    idsOf (records.filter fun record => p record.eventId) = (idsOf records).filter p := by
  unfold idsOf
  rw [List.filter_map]
  rfl

/-- **What an acknowledgement leaves.** -/
theorem acknowledge_spec {eventIds : List String} {file file' : ChatFile}
    (h : acknowledgeChatHandoff size scope outside eventIds file = .ok file')
    (hsound : HandoffSound file all) :
    file' = file ∨
      (recordsOf file' = (recordsOf file).filter fun record => record.eventId ∉ eventIds) ∧
        Kept (recordsOf file') (tombstonesOf file')
          (all ++ (listed file).filter fun id => id ∈ eventIds) := by
  unfold acknowledgeChatHandoff at h
  split_ifs at h with hlocks hempty
  · -- Nothing is acknowledged, and the file is only opened.
    cases hload : loadChatHandoff scope outside file with
    | error message => rw [hload] at h; exact nomatch h
    | ok snapshot =>
      rw [hload] at h
      exact Or.inl (Except.ok.inj h).symm
  · cases hload : loadChatHandoff scope outside file with
    | error message => rw [hload] at h; exact nomatch h
    | ok snapshot =>
      obtain ⟨hrecords, htombs⟩ := load_ok hload
      rw [hload] at h
      obtain rfl := write_ok h
      refine Or.inr ⟨by rw [← hrecords]; rfl, ?_⟩
      have hoff : idsOf (snapshot.records.filter fun record =>
          decide (record.eventId ∈ eventIds))
            = (listed file).filter fun id => decide (id ∈ eventIds) := by
        rw [hrecords]
        exact idsOf_filter (fun id => decide (id ∈ eventIds)) _
      show Kept (snapshot.records.filter fun record => decide (record.eventId ∉ eventIds))
        (appendChatTombstones snapshot.tombstones (idsOf _)) _
      rw [hoff, htombs, hrecords]
      refine hsound.kept.takeOff List.filter_sublist (hsound.kept.distinct.filter _) ?_ ?_
      · exact fun id hid => List.mem_of_mem_filter hid
      · intro id hid hleft
        obtain ⟨item, hitem, rfl⟩ := List.mem_map.mp hleft
        have hin := (List.mem_filter.mp hid).2
        have hout := (List.mem_filter.mp hitem).2
        simp only [decide_eq_true_eq] at hin hout
        exact hout hin

/-- The ids in front of those that are left. -/
theorem filter_front {front back : List String} (h : (front ++ back).Nodup) :
    (front ++ back).filter (fun id => id ∉ back) = front := by
  have hback : back.filter (fun id => decide (id ∉ back)) = [] := by
    rw [List.filter_eq_nil_iff]
    intro id hid
    simpa using hid
  have hfront : front.filter (fun id => decide (id ∉ back)) = front := by
    rw [List.filter_eq_self]
    intro id hid
    have hapart := (List.nodup_append.mp h).2.2
    simpa using fun hmem => hapart id hid id hmem rfl
  rw [List.filter_append, hback, hfront, List.append_nil]

/-- **Step lemma.**  Every call keeps what holds of a file, whatever it takes off. -/
theorem step_sound (size : SnapshotSize) (h : HandoffSound file all) (call : ChatCall) :
    HandoffSound (chatStep size file call) (all ++ takenOff size file call) := by
  by_cases hsame : chatStep size file call = file
  · rw [takenOff, if_pos hsame, hsame, List.append_nil]
    exact h
  rw [takenOff, if_neg hsame]
  cases hrun : call.run size file with
  | error message =>
    have heq : chatStep size file call = file := by unfold chatStep; rw [hrun]
    exact absurd heq hsame
  | ok file' =>
    have heq : chatStep size file call = file' := by unfold chatStep; rw [hrun]
    rw [heq] at hsame ⊢
    cases call with
    | persist scope outside record =>
      rcases persist_spec hrun h with hunchanged | ⟨evicted, hsplit, hnodup, hkept, hlen⟩
      · exact absurd hunchanged hsame
      · have hids : idsOf (entered file (.persist scope outside record))
            = idsOf evicted ++ listed file' := by
          show idsOf (sortRecords _) = _
          rw [hsplit, idsOf, List.map_append]
          rfl
        replace hnodup : (idsOf evicted ++ listed file').Nodup := by
          rw [← hids]
          exact hnodup
        rw [hids, filter_front hnodup]
        have hordered := sortRecords_ordered (recordsOf file ++ [record])
        rw [hsplit] at hordered
        exact ⟨hkept, (List.pairwise_append.mp hordered).2.1, hlen⟩
    | acknowledge scope outside eventIds =>
      rcases acknowledge_spec hrun h with hunchanged | ⟨hrecords, hkept⟩
      · exact absurd hunchanged hsame
      · have hids : (idsOf (entered file (.acknowledge scope outside eventIds))).filter
            (fun id => id ∉ listed file') = (listed file).filter fun id => id ∈ eventIds := by
          refine List.filter_congr fun id hid => ?_
          have hlisted : listed file' = (listed file).filter fun id => decide (id ∉ eventIds) := by
            unfold listed
            rw [hrecords]
            exact idsOf_filter (fun id => decide (id ∉ eventIds)) _
          have hmem : id ∈ listed file := hid
          rw [hlisted]
          simp [List.mem_filter, hmem]
        rw [hids]
        refine ⟨hkept, ?_, ?_⟩
        · rw [hrecords]
          exact h.ordered.filter _
        · rw [hrecords]
          exact (List.length_filter_le _ _).trans h.bounded

/-- **Run lemma.** -/
theorem run_sound (size : SnapshotSize) (calls : List ChatCall) :
    HandoffSound (handoffRun size calls).1 (handoffRun size calls).2 := by
  refine replay_invariant (P := fun state : ChatFile × List String =>
    HandoffSound state.1 state.2) ?_ fun state call _ h => step_sound size h call
  exact ⟨⟨List.nodup_nil, fun _ h => (nomatch h), rfl⟩, List.Pairwise.nil, Nat.zero_le _⟩

/-- Later calls take off more ids. -/
theorem run_append (size : SnapshotSize) (front back : List ChatCall) :
    ∃ more, (handoffRun size (front ++ back)).2 = (handoffRun size front).2 ++ more := by
  unfold handoffRun
  rw [replay_append]
  refine replay_invariant (P := fun state : ChatFile × List String =>
    ∃ more, state.2 = (handoffRun size front).2 ++ more) ⟨[], (List.append_nil _).symm⟩ ?_
  rintro state call - ⟨more, hmore⟩
  exact ⟨more ++ takenOff size state.1 call, by rw [hmore, List.append_assoc]⟩

/-- An id that is listed no more was taken off. -/
theorem mem_takenOff {call : ChatCall} {id : String} (h : id ∈ listed file)
    (hgone : id ∉ listed (chatStep size file call)) : id ∈ takenOff size file call := by
  have hchanged : chatStep size file call ≠ file := by
    intro hsame
    rw [hsame] at hgone
    exact hgone h
  have hentered : id ∈ idsOf (entered file call) := by
    cases call with
    | persist scope outside record =>
      obtain ⟨item, hitem, rfl⟩ := List.mem_map.mp h
      refine List.mem_map.mpr ⟨item, ?_, rfl⟩
      exact (sortRecords_perm _).mem_iff.mpr (List.mem_append_left _ hitem)
    | acknowledge scope outside eventIds => exact h
  rw [takenOff, if_neg hchanged]
  exact List.mem_filter.mpr ⟨hentered, decide_eq_true hgone⟩

/-- What is claimed of the file that some calls leave. -/
structure HandoffOnce (size : SnapshotSize) (calls : List ChatCall) : Prop where
  distinct : (listed (handoffRun size calls).1).Nodup
  apart : ∀ id ∈ listed (handoffRun size calls).1, id ∉ tombstonesOf (handoffRun size calls).1
  ordered : (recordsOf (handoffRun size calls).1).Pairwise fun left right =>
    sortKey left ≤ sortKey right
  bounded : (recordsOf (handoffRun size calls).1).length ≤ chatInboxCapacity
  left : ∀ front call, front ++ [call] <+: calls → ∀ id ∈ listed (handoffRun size front).1,
    id ∉ listed (handoffRun size (front ++ [call])).1 →
    id ∈ takenOff size (handoffRun size front).1 call
  once : ∀ front back, calls = front ++ back → ∀ before id after,
    (handoffRun size front).2 = before ++ id :: after →
    (handoffRun size calls).2.length < (before ++ [id]).length + chatTombstoneCapacity →
    id ∉ listed (handoffRun size calls).1

/-- **A message is handed over once**: no id is listed twice or together with its tombstone, the
    records are in order and not too many, and an id that was acknowledged or evicted is not
    listed again as long as few enough were taken off after it. -/
theorem handoff_once (size : SnapshotSize) (calls : List ChatCall) : HandoffOnce size calls := by
  have h := run_sound size calls
  refine ⟨h.kept.distinct, h.kept.apart, h.ordered, h.bounded, ?_, ?_⟩
  · intro front call _ id hid hgone
    rw [handoffRun, replay_snoc] at hgone
    exact mem_takenOff hid hgone
  rintro front back rfl before id after hfront hfew hlisted
  obtain ⟨more, hmore⟩ := run_append size front back
  rw [hfront, List.append_assoc, List.cons_append] at hmore
  refine h.kept.apart id hlisted ?_
  rw [h.kept.last, hmore]
  refine mem_rtake ?_
  rw [hmore] at hfew
  simp only [List.length_append, List.length_cons, List.length_nil] at hfew ⊢
  omega

end ChatHandoff

end Hivra
