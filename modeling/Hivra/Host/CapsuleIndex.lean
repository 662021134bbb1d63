import Hivra.Lib.OrderedMap
import Hivra.Host.HostTexts

namespace Hivra

open Replay OrderedMap

namespace CapsuleIndex

/-!
# The index of capsules

The index file names the capsules of the device and the selected one.  Each read brings it in
line with the directories of the capsules: an entry whose directory has none of its files goes,
and a directory without an entry gets one.  Calls on the store run one after the other, but a
caller that changes the whole index reads it in one call and writes it back in another one.

* `deleteCapsule`, `reconcileCapsuleIdentityIndex` — what callers make of the index they read.
* `lookup_repaired`, `active_repaired` — what a repair keeps.
-/

structure CapsuleIndexEntry where
  pubKeyHex : String
  createdAt : ℤ
  lastActive : ℤ
  isGenesis : Bool
  isNeste : Bool
  identityMode : String
  deriving DecidableEq

structure CapsulesIndex where
  activePubKeyHex : Option String
  capsules : List (String × CapsuleIndexEntry)

def rootOwner : String := "root_owner"
def legacyNostrOwner : String := "legacy_nostr_owner"

/-! ### The directories -/

/-- What an entry takes from the state file of a capsule. -/
structure CapsuleStateFile where
  isGenesis : Bool
  isNeste : Bool
  identityMode : Option String

/-- A directory: whether it has a state, a ledger or a backup, when it was changed, and what can
    be read of its state file. -/
structure CapsuleDirectory where
  authoritative : Bool
  modified : Option ℤ
  state : Option CapsuleStateFile

def synthesizeEntry (now : ℤ) (pubKeyHex : String) (directory : CapsuleDirectory) :
    CapsuleIndexEntry where
  pubKeyHex := pubKeyHex
  createdAt := directory.modified.getD now
  lastActive := directory.modified.getD now
  isGenesis := (directory.state.map CapsuleStateFile.isGenesis).getD false
  isNeste := (directory.state.map CapsuleStateFile.isNeste).getD true
  identityMode := (directory.state.bind CapsuleStateFile.identityMode).getD rootOwner

/-- The entry of a capsule stays unless its directory has none of the files. -/
def backed (directories : List (String × CapsuleDirectory)) (pubKeyHex : String) : Bool :=
  ((lookup directories pubKeyHex).map CapsuleDirectory.authoritative).getD true

/-- A directory that has no entry gets one. -/
def adopt (now : ℤ) (capsules : List (String × CapsuleIndexEntry))
    (directory : String × CapsuleDirectory) : List (String × CapsuleIndexEntry) :=
  if isHex64 directory.1 && !contains capsules directory.1 && directory.2.authoritative then
    put capsules directory.1 (synthesizeEntry now directory.1 directory.2)
  else capsules

def repairedCapsules (now : ℤ) (directories : List (String × CapsuleDirectory))
    (capsules : List (String × CapsuleIndexEntry)) : List (String × CapsuleIndexEntry) :=
  replay (adopt now) (capsules.filter fun entry => backed directories entry.1) directories

/-- The selection stands as long as it has an entry. -/
def selection (active : Option String) (capsules : List (String × CapsuleIndexEntry)) :
    Option String :=
  active.filter fun key => contains capsules key

def repairFromCapsuleDirectories (now : ℤ) (directories : List (String × CapsuleDirectory))
    (index : CapsulesIndex) : CapsulesIndex :=
  let capsules := repairedCapsules now directories index.capsules
  ⟨selection index.activePubKeyHex capsules, capsules⟩

/-! ### The store -/

/-- The index file. -/
inductive IndexFile
  | missing
  | unreadable
  | stored (index : CapsulesIndex)

/-- What is read of the file. -/
def IndexFile.index : IndexFile → CapsulesIndex
  | .stored index => ⟨selection index.activePubKeyHex index.capsules, index.capsules⟩
  | _ => ⟨none, []⟩

def IndexFile.isUnreadable : IndexFile → Bool
  | .unreadable => true
  | _ => false

def sameIndexState (a b : CapsulesIndex) : Bool :=
  decide (a.activePubKeyHex = b.activePubKeyHex) && decide (a.capsules.length = b.capsules.length) &&
    a.capsules.all fun entry => decide (lookup b.capsules entry.1 = some entry.2)

/-- A read: the index that it answers, and the file as it leaves it; none where it throws. -/
def readUnlocked (now : ℤ) (directories : List (String × CapsuleDirectory)) (file : IndexFile) :
    Option (CapsulesIndex × IndexFile) :=
  let repaired := repairFromCapsuleDirectories now directories file.index
  if file.isUnreadable && repaired.capsules.isEmpty then none
  else some (repaired, if sameIndexState file.index repaired then file else .stored repaired)

/-- The parts of an entry that are not times. -/
structure Flags where
  isGenesis : Bool
  isNeste : Bool
  identityMode : String
  deriving DecidableEq

def CapsuleIndexEntry.flags (entry : CapsuleIndexEntry) : Flags :=
  ⟨entry.isGenesis, entry.isNeste, entry.identityMode⟩

def CapsulesIndex.flags (index : CapsulesIndex) (key : String) : Option Flags :=
  (lookup index.capsules key).map CapsuleIndexEntry.flags

/-- The arguments of an upsert. -/
structure Upsert where
  pubKeyHex : String
  isGenesis : Option Bool
  isNeste : Option Bool
  identityMode : Option String

/-- The entry that an upsert writes, with what it leaves open as it was. -/
def Upsert.entry (call : Upsert) (now : ℤ) (existing : Option CapsuleIndexEntry) :
    CapsuleIndexEntry where
  pubKeyHex := call.pubKeyHex
  createdAt := (existing.map CapsuleIndexEntry.createdAt).getD now
  lastActive := now
  isGenesis := call.isGenesis.getD ((existing.map CapsuleIndexEntry.isGenesis).getD false)
  isNeste := call.isNeste.getD ((existing.map CapsuleIndexEntry.isNeste).getD true)
  identityMode := call.identityMode.getD
    ((existing.map CapsuleIndexEntry.identityMode).getD rootOwner)

def Upsert.apply (call : Upsert) (now : ℤ) (index : CapsulesIndex) : CapsulesIndex :=
  { index with
    capsules := put index.capsules call.pubKeyHex
      (call.entry now (lookup index.capsules call.pubKeyHex)) }

/-- The write of a whole index keeps the selection that the file has by now, if the index knows
    it. -/
def preservingActive (current index : CapsulesIndex) : CapsulesIndex :=
  match current.activePubKeyHex with
  | some latestActive =>
    if contains index.capsules latestActive then { index with activePubKeyHex := some latestActive }
    else index
  | none => index

theorem preservingActive_capsules (current index : CapsulesIndex) :
    (preservingActive current index).capsules = index.capsules := by
  unfold preservingActive
  split
  · split <;> rfl
  · rfl

/-! ### Callers that change the whole index -/

/-- What a caller makes of the index it has read, none where it writes nothing, and the keys that
    it deletes. -/
structure Rewriter where
  modify : CapsulesIndex → Option CapsulesIndex
  deletes : List String

/-- The keys of a deletion go, and where the selection went with them another one is looked
    for. -/
def deleteCapsule (keysToDelete : List String) (recoverActive : CapsulesIndex → Option String) :
    Rewriter where
  modify index :=
    let remaining : CapsulesIndex :=
      ⟨index.activePubKeyHex.filter fun active => !keysToDelete.contains active,
        keysToDelete.foldl remove index.capsules⟩
    if (remaining.activePubKeyHex.getD "") = "" then
      some { remaining with activePubKeyHex := recoverActive remaining }
    else some remaining
  deletes := keysToDelete

structure CapsuleIdentityBinding where
  seedFingerprint : Option String
  rootPubKeyHex : Option String
  nostrPubKeyHex : Option String

def identityModeForBinding (pubKeyHex : String) (binding : Option CapsuleIdentityBinding) :
    Option String :=
  match binding with
  | none => none
  | some binding =>
    if binding.rootPubKeyHex = some pubKeyHex then some rootOwner
    else if binding.nostrPubKeyHex = some pubKeyHex then some legacyNostrOwner
    else none

section Reconcile

variable (bindings : String → Option CapsuleIdentityBinding)

/-- The keys of each seed, in the order of the map. -/
def seedGroups (capsules : List (String × CapsuleIndexEntry)) : List (String × List String) :=
  replay (fun groups entry =>
    match (bindings entry.1).bind CapsuleIdentityBinding.seedFingerprint with
    | some fingerprint =>
      if fingerprint = "" then groups
      else put groups fingerprint ((lookup groups fingerprint).getD [] ++ [entry.1])
    | none => groups) [] capsules

/-- The later one first, and then the older one. -/
def rankedBefore (capsules : List (String × CapsuleIndexEntry)) (a b : String) : Bool :=
  match lookup capsules a, lookup capsules b with
  | some entryA, some entryB =>
    decide (entryB.lastActive < entryA.lastActive) ||
      (decide (entryA.lastActive = entryB.lastActive) &&
        (decide (entryA.createdAt < entryB.createdAt) ||
          (decide (entryA.createdAt = entryB.createdAt) && decide (a ≤ b))))
  | _, _ => true

def chooseCanonicalPubKeyHex (active : Option String)
    (capsules : List (String × CapsuleIndexEntry)) (group : List String) : Option String :=
  let rootMatches := (group.filter fun key =>
    decide ((bindings key).bind CapsuleIdentityBinding.rootPubKeyHex = some key)).mergeSort
      fun a b => decide (a ≤ b)
  match rootMatches.head? with
  | some first => some first
  | none =>
    match active.filter group.contains with
    | some selected => some selected
    | none => (group.mergeSort (rankedBefore capsules)).head?

def mergeEntryGroup (capsules : List (String × CapsuleIndexEntry)) (group : List String)
    (canonicalPubKeyHex : String) (canonical : CapsuleIndexEntry) : CapsuleIndexEntry :=
  let entries := group.filterMap (lookup capsules)
  { canonical with
    createdAt := entries.foldl (fun date entry => min date entry.createdAt) canonical.createdAt
    lastActive := entries.foldl (fun date entry => max date entry.lastActive) canonical.lastActive
    isGenesis := canonical.isGenesis || entries.any CapsuleIndexEntry.isGenesis
    identityMode := (identityModeForBinding canonicalPubKeyHex
      (bindings canonicalPubKeyHex)).getD canonical.identityMode }

/-- The entries of a seed become one. -/
def mergeGroup (index : CapsulesIndex) (group : List String) : CapsulesIndex :=
  match chooseCanonicalPubKeyHex bindings index.activePubKeyHex index.capsules group with
  | some canonical =>
    match lookup index.capsules canonical with
    | some entry =>
      let merged := put index.capsules canonical
        (mergeEntryGroup bindings index.capsules group canonical entry)
      ⟨index.activePubKeyHex.map fun active => if group.contains active then canonical else active,
        (group.filter fun key => key != canonical).foldl remove merged⟩
    | none => index
  | none => index

/-- An entry gets the identity mode of its keys. -/
def relabel (entry : String × CapsuleIndexEntry) : String × CapsuleIndexEntry :=
  match identityModeForBinding entry.1 (bindings entry.1) with
  | some mode => (entry.1, { entry.2 with identityMode := mode })
  | none => entry

def reconcile (index : CapsulesIndex) : CapsulesIndex :=
  let groups := ((seedGroups bindings index.capsules).map Prod.snd).filter
    fun group => decide (1 < group.length)
  let merged := replay (mergeGroup bindings) index groups
  let capsules := merged.capsules.map (relabel bindings)
  ⟨selection merged.activePubKeyHex capsules, capsules⟩

def requiresCapsuleIdentityReconciliation (index : CapsulesIndex) : Bool :=
  decide (2 ≤ index.capsules.length) &&
    index.capsules.any fun entry => entry.2.identityMode != rootOwner

/-- The bindings are read between the read and the write. -/
def reconcileCapsuleIdentityIndex : Rewriter where
  modify index :=
    if requiresCapsuleIdentityReconciliation index then
      let result := reconcile bindings index
      if sameIndexState index result then none else some result
    else none
  deletes := []

end Reconcile

/-! ### What a repair keeps -/

variable {capsules : List (String × CapsuleIndexEntry)} {key : String} {entry : CapsuleIndexEntry}
  {now : ℤ}

theorem lookup_adopt {directory : String × CapsuleDirectory}
    (h : lookup capsules key = some entry) :
    lookup (adopt now capsules directory) key = some entry := by
  unfold adopt
  split_ifs with hnew
  · -- a directory that is adopted has no entry yet
    have hne : directory.1 ≠ key := by
      rintro heq
      simp only [Bool.and_eq_true, Bool.not_eq_true', contains, heq, h] at hnew
      exact Bool.noConfusion hnew.1.2
    rw [lookup_put, if_neg hne]
    exact h
  · exact h

variable {directories : List (String × CapsuleDirectory)}

/-- An entry that is not stale is kept as it is. -/
theorem lookup_repaired (h : lookup capsules key = some entry)
    (hbacked : backed directories key = true) :
    lookup (repairedCapsules now directories capsules) key = some entry := by
  unfold repairedCapsules
  refine replay_invariant (P := fun capsules => lookup capsules key = some entry) ?_
    fun _ _ _ hcapsules => lookup_adopt hcapsules
  rw [lookup_filter capsules (backed directories) key, if_pos hbacked]
  exact h

theorem selection_eq_some {active : Option String} :
    selection active capsules = some key ↔ active = some key ∧ contains capsules key = true := by
  unfold selection
  rw [Option.filter_eq_some_iff]

theorem contains_of_lookup (h : lookup capsules key = some entry) :
    contains capsules key = true := by
  unfold contains
  rw [h]
  rfl

/-- A selected capsule whose entry is not stale stays selected. -/
theorem active_repaired {now : ℤ} {index : CapsulesIndex} (h : index.activePubKeyHex = some key)
    (hcontains : contains index.capsules key = true) (hbacked : backed directories key = true) :
    (repairFromCapsuleDirectories now directories index).activePubKeyHex = some key := by
  obtain ⟨entry, hentry⟩ := Option.isSome_iff_exists.mp hcontains
  exact selection_eq_some.mpr ⟨h, contains_of_lookup (lookup_repaired hentry hbacked)⟩

/-- An entry after a repair has a directory with its files, or none. -/
theorem backed_of_repaired (hnodup : (directories.map Prod.fst).Nodup)
    (h : contains (repairedCapsules now directories capsules) key = true) :
    backed directories key = true := by
  unfold repairedCapsules at h
  revert h
  refine replay_invariant
    (P := fun capsules => contains capsules key = true → backed directories key = true) ?_ ?_
  · intro h
    unfold contains at h
    rw [lookup_filter capsules (backed directories) key] at h
    by_contra hbacked
    rw [if_neg hbacked] at h
    exact nomatch h
  · intro capsules directory hmem ih h
    unfold adopt at h
    split_ifs at h with hnew
    · unfold contains at h
      rw [lookup_put] at h
      by_cases heq : directory.1 = key
      · subst heq
        simp only [Bool.and_eq_true] at hnew
        unfold backed
        rw [lookup_of_mem hnodup (show (directory.1, directory.2) ∈ directories from hmem)]
        exact hnew.2
      · rw [if_neg heq] at h
        exact ih h
    · exact ih h

/-- What is read of a file is answered by its read, repaired. -/
theorem readUnlocked_eq_some {file : IndexFile} {index : CapsulesIndex} {left : IndexFile}
    (h : readUnlocked now directories file = some (index, left)) :
    index = repairFromCapsuleDirectories now directories file.index ∧
      (left = file ∨ left = .stored index) := by
  unfold readUnlocked at h
  dsimp only at h
  split_ifs at h with hunreadable hsame
  · obtain ⟨rfl, rfl⟩ := Prod.mk.inj (Option.some.inj h)
    exact ⟨rfl, .inl rfl⟩
  · obtain ⟨rfl, rfl⟩ := Prod.mk.inj (Option.some.inj h)
    exact ⟨rfl, .inr rfl⟩

end CapsuleIndex

end Hivra
