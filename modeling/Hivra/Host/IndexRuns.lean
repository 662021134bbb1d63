import Hivra.Host.CapsuleIndex

namespace Hivra

open Replay OrderedMap

namespace CapsuleIndex

/-!
# Overlapping changes of the index

Nothing keeps the index as it was between the read of a caller and its write of the whole index.
An upsert or a selection in between is written over, unless the caller has read it.

* `Inv.step` — one call keeps what was upserted and the selection, where it meets the condition.
* `index_updates_kept` — so does a run of such calls.
-/

/-- The directories beside the index, each with its own name. -/
structure Directories where
  list : List (String × CapsuleDirectory)
  unique : (list.map Prod.fst).Nodup

/-- The file, the directories, what callers have read, the flags that were upserted and the
    selection. -/
structure IndexState (ι : Type) where
  file : IndexFile
  directories : Directories
  held : ι → Option CapsulesIndex
  promised : String → Option Flags
  selected : Option String

/-- A call on the store, or a change of the directories. -/
inductive IndexEvent (ι : Type)
  | read (now : ℤ)
  | upsert (now : ℤ) (call : Upsert)
  | setActive (now : ℤ) (pubKeyHex : String)
  | callerReads (now : ℤ) (caller : ι)
  | callerWrites (now : ℤ) (caller : ι)
  | directories (directories : Directories)

section Runs

variable {ι : Type} [DecidableEq ι] (callers : ι → Rewriter)

def IndexState.start (file : IndexFile) (directories : Directories) : IndexState ι :=
  ⟨file, directories, fun _ => none, fun _ => none, none⟩

def IndexState.read (state : IndexState ι) (now : ℤ) : Option (CapsulesIndex × IndexFile) :=
  readUnlocked now state.directories.list state.file

/-- What a caller's change leaves of an upserted entry: what it deletes is deleted, and what it
    changes of what it has read is as it has changed it. -/
def promisedAfter (deletes : List String) (index next : CapsulesIndex)
    (promised : String → Option Flags) (key : String) : Option Flags :=
  if deletes.contains key then none
  else if index.flags key = next.flags key then promised key
  else (promised key).bind fun _ => next.flags key

/-- A selection is deleted by name, or merged away from what was read. -/
def selectedAfter (deletes : List String) (index next : CapsulesIndex) (selected : Option String) :
    Option String :=
  selected.filter fun key => !deletes.contains key &&
    !(contains index.capsules key && !contains next.capsules key)

/-- The caller writes the index as it has changed it. -/
def callerWrites (state : IndexState ι) (now : ℤ) (caller : ι) (index : CapsulesIndex) :
    IndexState ι :=
  match (callers caller).modify index, state.read now with
  | some next, some (current, _) =>
    { state with
      file := .stored (preservingActive current next)
      held := Function.update state.held caller none
      promised := promisedAfter (callers caller).deletes index next state.promised
      selected := selectedAfter (callers caller).deletes index next state.selected }
  | _, _ => { state with held := Function.update state.held caller none }

/-- A call that throws changes nothing. -/
def indexStep (state : IndexState ι) : IndexEvent ι → IndexState ι
  | .read now =>
    match state.read now with
    | some (_, file) => { state with file := file }
    | none => state
  | .upsert now call =>
    match state.read now with
    | some (index, _) =>
      { state with
        file := .stored (call.apply now index)
        promised := Function.update state.promised call.pubKeyHex
          ((call.apply now index).flags call.pubKeyHex) }
    | none => state
  | .setActive now pubKeyHex =>
    match state.read now with
    | some (index, _) =>
      { state with
        file := .stored { index with activePubKeyHex := some pubKeyHex }
        selected := some pubKeyHex }
    | none => state
  | .callerReads now caller =>
    match state.read now with
    | some (index, file) =>
      { state with file := file, held := Function.update state.held caller (some index) }
    | none => state
  | .callerWrites now caller =>
    match state.held caller with
    | some index => callerWrites callers state now caller index
    | none => state
  | .directories directories => { state with directories := directories }

/-- A read has what was upserted, and the selection. -/
def Kept (state : IndexState ι) : Prop :=
  ∀ now,
    (∀ key flags, state.promised key = some flags →
      ∃ index file, state.read now = some (index, file) ∧ index.flags key = some flags) ∧
    (∀ key, state.selected = some key →
      ∃ index file, state.read now = some (index, file) ∧ index.activePubKeyHex = some key)

/-- A key whose entry has to stay. -/
def Owed (state : IndexState ι) (key : String) : Prop :=
  (∃ flags, state.promised key = some flags) ∨ state.selected = some key

/-- The calls that lose nothing.  A caller writes with all in it that was upserted and with the
    selection, but for what it deletes itself; a capsule that is upserted or selected has no
    directory without its files; and a selected one has an entry. -/
def KeepsIndex (state : IndexState ι) : IndexEvent ι → Prop
  | .upsert _ call => backed state.directories.list call.pubKeyHex = true
  | .setActive now pubKeyHex => ∀ index file, state.read now = some (index, file) →
      contains index.capsules pubKeyHex = true
  | .callerWrites _ caller => ∀ index, state.held caller = some index →
      (∀ key flags, state.promised key = some flags → key ∉ (callers caller).deletes →
        index.flags key = some flags) ∧
      (∀ key, state.selected = some key → key ∉ (callers caller).deletes →
        contains index.capsules key = true)
  | .directories directories => ∀ key, Owed state key → backed directories.list key = true
  | _ => True

/-- The file has what was upserted and the selection, and no directory takes it away. -/
structure Inv (state : IndexState ι) : Prop where
  promised : ∀ key flags, state.promised key = some flags →
    state.file.index.flags key = some flags ∧ backed state.directories.list key = true
  selected : ∀ key, state.selected = some key →
    state.file.index.activePubKeyHex = some key ∧ backed state.directories.list key = true

end Runs

section Steps

variable {ι : Type}

theorem stored_flags (index : CapsulesIndex) (key : String) :
    (IndexFile.stored index).index.flags key = index.flags key := rfl

variable {index : CapsulesIndex} {key : String} {now : ℤ}

theorem flags_repaired {directories : List (String × CapsuleDirectory)} {flags : Flags}
    (h : index.flags key = some flags) (hbacked : backed directories key = true) :
    (repairFromCapsuleDirectories now directories index).flags key = some flags := by
  obtain ⟨entry, hentry, rfl⟩ := Option.map_eq_some_iff.mp h
  exact Option.map_eq_some_iff.mpr ⟨entry, lookup_repaired hentry hbacked, rfl⟩

variable {state : IndexState ι} {left : IndexFile}

/-- The file still has what a read of it answers. -/
theorem read_flags (hread : state.read now = some (index, left)) {flags : Flags}
    (h : state.file.index.flags key = some flags)
    (hbacked : backed state.directories.list key = true) :
    index.flags key = some flags ∧ left.index.flags key = some flags := by
  obtain ⟨rfl, hleft⟩ := readUnlocked_eq_some hread
  have hrepaired := @flags_repaired _ _ now _ _ h hbacked
  rcases hleft with rfl | rfl
  · exact ⟨hrepaired, h⟩
  · exact ⟨hrepaired, hrepaired⟩

theorem contains_of_active {file : IndexFile} (h : file.index.activePubKeyHex = some key) :
    contains file.index.capsules key = true := by
  cases file with
  | stored index => exact (selection_eq_some.mp h).2
  | _ => exact nomatch h

theorem read_active (hread : state.read now = some (index, left))
    (h : state.file.index.activePubKeyHex = some key)
    (hbacked : backed state.directories.list key = true) :
    index.activePubKeyHex = some key ∧ contains index.capsules key = true ∧
      left.index.activePubKeyHex = some key := by
  obtain ⟨rfl, hleft⟩ := readUnlocked_eq_some hread
  have hrepaired := @active_repaired _ _ now _ h (contains_of_active h) hbacked
  have hcontains := (selection_eq_some.mp hrepaired).2
  rcases hleft with rfl | rfl
  · exact ⟨hrepaired, hcontains, h⟩
  · exact ⟨hrepaired, hcontains, selection_eq_some.mpr ⟨hrepaired, hcontains⟩⟩

/-- A file with an entry can be read. -/
theorem read_isSome (now : ℤ) (h : contains state.file.index.capsules key = true) :
    ∃ index left, state.read now = some (index, left) := by
  have hreadable : state.file.isUnreadable = false := by
    cases hfile : state.file with
    | unreadable =>
      rw [hfile] at h
      exact nomatch h
    | _ => rfl
  unfold IndexState.read readUnlocked
  dsimp only
  rw [if_neg (by simp [hreadable])]
  exact ⟨_, _, rfl⟩

theorem contains_of_flags {flags : Flags} (h : index.flags key = some flags) :
    contains index.capsules key = true := by
  obtain ⟨entry, hentry, -⟩ := Option.map_eq_some_iff.mp h
  exact contains_of_lookup hentry

theorem Inv.kept (h : Inv state) : Kept state := by
  intro now
  constructor
  · intro key flags hkey
    obtain ⟨hfile, hbacked⟩ := h.promised key flags hkey
    obtain ⟨index, left, hread⟩ := read_isSome now (contains_of_flags hfile)
    exact ⟨index, left, hread, (read_flags hread hfile hbacked).1⟩
  · intro key hkey
    obtain ⟨hfile, hbacked⟩ := h.selected key hkey
    obtain ⟨index, left, hread⟩ := read_isSome now (contains_of_active hfile)
    exact ⟨index, left, hread, (read_active hread hfile hbacked).1⟩

/-- A read leaves a file with all that has to stay. -/
theorem Inv.reread (h : Inv state) (hread : state.read now = some (index, left))
    (held : ι → Option CapsulesIndex) :
    Inv { state with file := left, held := held } where
  promised key flags hkey := by
    obtain ⟨hfile, hbacked⟩ := h.promised key flags hkey
    exact ⟨(read_flags hread hfile hbacked).2, hbacked⟩
  selected key hkey := by
    obtain ⟨hfile, hbacked⟩ := h.selected key hkey
    exact ⟨(read_active hread hfile hbacked).2.2, hbacked⟩

theorem Inv.upsert (h : Inv state) {call : Upsert} (hread : state.read now = some (index, left))
    (hcall : backed state.directories.list call.pubKeyHex = true) :
    Inv { state with
      file := .stored (call.apply now index)
      promised := Function.update state.promised call.pubKeyHex
        ((call.apply now index).flags call.pubKeyHex) } where
  promised key flags hkey := by
    dsimp only at hkey
    by_cases heq : key = call.pubKeyHex
    · subst heq
      rw [Function.update_self] at hkey
      exact ⟨hkey, hcall⟩
    · rw [Function.update_of_ne heq] at hkey
      obtain ⟨hfile, hbacked⟩ := h.promised key flags hkey
      refine ⟨?_, hbacked⟩
      -- the entries under other keys are not touched
      show (lookup (put _ _ _) key).map _ = _
      rw [lookup_put, if_neg (Ne.symm heq)]
      exact (read_flags hread hfile hbacked).1
  selected key hkey := by
    obtain ⟨hfile, hbacked⟩ := h.selected key hkey
    obtain ⟨hactive, hcontains, -⟩ := read_active hread hfile hbacked
    refine ⟨selection_eq_some.mpr ⟨hactive, ?_⟩, hbacked⟩
    show (lookup (put _ _ _) key).isSome = true
    rw [lookup_put]
    split
    · rfl
    · exact hcontains

theorem Inv.setActive (h : Inv state) {pubKeyHex : String}
    (hread : state.read now = some (index, left))
    (hcontains : contains index.capsules pubKeyHex = true) :
    Inv { state with
      file := .stored { index with activePubKeyHex := some pubKeyHex }
      selected := some pubKeyHex } where
  promised key flags hkey := by
    obtain ⟨hfile, hbacked⟩ := h.promised key flags hkey
    exact ⟨(read_flags hread hfile hbacked).1, hbacked⟩
  selected key hkey := by
    obtain rfl : pubKeyHex = key := Option.some.inj hkey
    refine ⟨selection_eq_some.mpr ⟨rfl, hcontains⟩, ?_⟩
    obtain ⟨rfl, -⟩ := readUnlocked_eq_some hread
    exact backed_of_repaired state.directories.unique hcontains

variable [DecidableEq ι] {callers : ι → Rewriter}

theorem Inv.callerWrites {state : IndexState ι} (h : Inv state) {now : ℤ} {caller : ι}
    {index : CapsulesIndex} (hpromised : ∀ key flags, state.promised key = some flags →
      key ∉ (callers caller).deletes → index.flags key = some flags)
    (hselected : ∀ key, state.selected = some key → key ∉ (callers caller).deletes →
      contains index.capsules key = true) :
    Inv (callerWrites callers state now caller index) := by
  unfold CapsuleIndex.callerWrites
  split
  · next next current left hmodify hread =>
    refine ⟨fun key flags hkey => ?_, fun key hkey => ?_⟩
    · have hcapsules : (preservingActive current next).flags key = next.flags key := by
        unfold CapsulesIndex.flags
        rw [preservingActive_capsules]
      rw [stored_flags, hcapsules]
      dsimp only at hkey
      unfold promisedAfter at hkey
      split_ifs at hkey with hdeletes hsame
      · -- what the caller has not touched is what it has read
        have hkept := hpromised key flags hkey (by simpa using hdeletes)
        exact ⟨hsame ▸ hkept, (h.promised key flags hkey).2⟩
      · obtain ⟨before, hbefore, hnext⟩ := Option.bind_eq_some_iff.mp hkey
        exact ⟨hnext, (h.promised key before hbefore).2⟩
    · obtain ⟨hkey, hstays⟩ := Option.filter_eq_some_iff.mp hkey
      obtain ⟨hfile, hbacked⟩ := h.selected key hkey
      obtain ⟨hactive, -⟩ := read_active hread hfile hbacked
      have hnext : contains next.capsules key = true := by
        simp only [Bool.and_eq_true, Bool.not_eq_true', Bool.and_eq_false_iff] at hstays
        have hheld := hselected key hkey (by simpa using hstays.1)
        rcases hstays.2 with hnone | hsome
        · cases hnone.symm.trans hheld
        · simpa using hsome
      refine ⟨selection_eq_some.mpr ⟨?_, ?_⟩, hbacked⟩
      · unfold preservingActive
        rw [hactive]
        dsimp only
        rw [if_pos hnext]
      · rw [preservingActive_capsules]
        exact hnext
  · exact ⟨h.promised, h.selected⟩

/-- **What a call keeps.** -/
theorem Inv.step (h : Inv state) {event : IndexEvent ι} (hkeeps : KeepsIndex callers state event) :
    Inv (indexStep callers state event) := by
  cases event with
  | read now =>
    show Inv (match state.read now with | some (_, _) => _ | none => state)
    split
    · next hread => exact h.reread hread state.held
    · exact h
  | upsert now call =>
    show Inv (match state.read now with | some (_, _) => _ | none => state)
    split
    · next hread => exact h.upsert hread hkeeps
    · exact h
  | setActive now pubKeyHex =>
    show Inv (match state.read now with | some (_, _) => _ | none => state)
    split
    · next hread => exact h.setActive hread (hkeeps _ _ hread)
    · exact h
  | callerReads now caller =>
    show Inv (match state.read now with | some (_, _) => _ | none => state)
    split
    · next hread => exact h.reread hread _
    · exact h
  | callerWrites now caller =>
    show Inv (match state.held caller with | some _ => _ | none => state)
    split
    · next index hheld =>
      obtain ⟨hpromised, hselected⟩ := hkeeps index hheld
      exact h.callerWrites hpromised hselected
    · exact h
  | directories directories =>
    refine ⟨fun key flags hkey => ?_, fun key hkey => ?_⟩
    · exact ⟨(h.promised key flags hkey).1, hkeeps key (.inl ⟨flags, hkey⟩)⟩
    · exact ⟨(h.selected key hkey).1, hkeeps key (.inr hkey)⟩

/-- Only an upsert of a key makes an entry owed. -/
theorem promised_none {event : IndexEvent ι} (h : state.promised key = none)
    (hevent : ∀ now call, event = .upsert now call → call.pubKeyHex ≠ key) :
    (indexStep callers state event).promised key = none := by
  cases event with
  | upsert now call =>
    show IndexState.promised (match state.read now with | some (_, _) => _ | none => state) key = none
    split
    · exact (Function.update_of_ne (hevent now call rfl).symm ..).trans h
    · exact h
  | callerWrites now caller =>
    show IndexState.promised (match state.held caller with | some _ => _ | none => state) key = none
    split
    · unfold callerWrites
      split
      · show promisedAfter _ _ _ _ key = none
        unfold promisedAfter
        rw [h]
        simp
      · exact h
    · exact h
  | read now =>
    show IndexState.promised (match state.read now with | some (_, _) => _ | none => state) key = none
    split <;> exact h
  | setActive now pubKeyHex =>
    show IndexState.promised (match state.read now with | some (_, _) => _ | none => state) key = none
    split <;> exact h
  | callerReads now caller =>
    show IndexState.promised (match state.read now with | some (_, _) => _ | none => state) key = none
    split <;> exact h
  | directories directories => exact h

end Steps

/-- **Updates of the index are kept where callers do not overlap them**: whatever the callers, the
    file they begin with and the order of the calls. -/
theorem index_updates_kept {ι : Type} [DecidableEq ι] (callers : ι → Rewriter) (file : IndexFile)
    (directories : Directories) (events : List (IndexEvent ι))
    (hrun : Along (indexStep callers) (KeepsIndex callers) (IndexState.start file directories)
      events) :
    Kept (replay (indexStep callers) (IndexState.start file directories) events) := by
  have hinv := along_invariant (P := Inv) hrun
    ⟨fun _ _ h => (nomatch h), fun _ h => (nomatch h)⟩ fun _ _ h hkeeps => h.step hkeeps
  exact hinv.kept

/-! ### A selection that is overtaken -/

def deletedKey : String := "2222222222222222222222222222222222222222222222222222222222222222"
def createdKey : String := "3333333333333333333333333333333333333333333333333333333333333333"

def deletedEntry : CapsuleIndexEntry := ⟨deletedKey, 1, 1, false, true, rootOwner⟩

/-- The directory of a capsule that has its state file. -/
def createdDirectories : Directories := ⟨[(createdKey, ⟨true, some 3, some ⟨true, true, none⟩⟩)], by simp⟩

def creation : Upsert := ⟨createdKey, some true, some true, some rootOwner⟩

def creationFlags : Flags := ⟨true, true, rootOwner⟩

/-- The one capsule there is is deleted; its directory has gone. -/
def deletion : Unit → Rewriter := fun _ => deleteCapsule [deletedKey] fun _ => none

def storedFile : IndexFile := .stored ⟨some deletedKey, [(deletedKey, deletedEntry)]⟩

/-- A capsule is created and selected. -/
def creationEvents : List (IndexEvent Unit) :=
  [.directories createdDirectories, .upsert 4 creation, .setActive 5 createdKey]

/-- It happens before the deletion reads the index. -/
def orderlyEvents : List (IndexEvent Unit) :=
  creationEvents ++ [.callerReads 6 (), .callerWrites 7 ()]

/-- It happens between its read and its write. -/
def overtakingEvents : List (IndexEvent Unit) :=
  .callerReads 2 () :: creationEvents ++ [.callerWrites 7 ()]

def indexRun (events : List (IndexEvent Unit)) : IndexState Unit :=
  replay (indexStep deletion) (IndexState.start storedFile ⟨[], List.nodup_nil⟩) events

theorem index_updates_kept_creation :
    (indexRun orderlyEvents).selected = some createdKey ∧ Kept (indexRun orderlyEvents) := by
  refine ⟨by decide +kernel, index_updates_kept deletion storedFile _ _ ?_⟩
  have hcreated : ((indexRun (creationEvents.take 2)).read 5).all
      (fun answer => contains answer.1.capsules createdKey) = true := by
    decide +kernel
  -- the deletion reads the entry with its flags
  have hheld : ((indexRun (creationEvents ++ [.callerReads 6 ()])).held ()).all (fun index =>
      index.flags createdKey == some creationFlags && contains index.capsules createdKey) = true := by
    decide +kernel
  refine ⟨fun key howed => ?_, ?_, fun index left hanswer => ?_, trivial, fun index hindex => ?_,
    trivial⟩
  · rcases howed with ⟨flags, hflags⟩ | hselected
    · exact nomatch hflags
    · exact nomatch hselected
  · show backed createdDirectories.list createdKey = true
    decide +kernel
  · have hanswer' : (indexRun (creationEvents.take 2)).read 5 = some (index, left) := hanswer
    rw [hanswer'] at hcreated
    exact hcreated
  · have hindex' : (indexRun (creationEvents ++ [.callerReads 6 ()])).held () = some index := hindex
    rw [hindex', Option.all_some, Bool.and_eq_true, beq_iff_eq] at hheld
    refine ⟨fun key flags hkey _ => ?_, fun key hkey _ => ?_⟩
    · have hkey' : (indexRun (creationEvents ++ [.callerReads 6 ()])).promised key = some flags := hkey
      by_cases heq : key = createdKey
      · subst heq
        have hflags : (indexRun (creationEvents ++ [.callerReads 6 ()])).promised createdKey =
            some creationFlags := by
          decide +kernel
        rw [hheld.1, ← hflags]
        exact hkey'
      · have hnone : (indexRun (creationEvents ++ [.callerReads 6 ()])).promised key = none := by
          refine replay_invariant (P := fun state : IndexState Unit => state.promised key = none)
            rfl fun _ event hmem hstate => promised_none hstate ?_
          rintro now call rfl
          obtain ⟨-, rfl⟩ : now = 4 ∧ call = creation := by simpa [creationEvents] using hmem
          exact fun hcreated => heq hcreated.symm
        exact nomatch hnone.symm.trans hkey'
    · have hselected : (indexRun (creationEvents ++ [.callerReads 6 ()])).selected =
          some createdKey := by
        decide +kernel
      obtain rfl := Option.some.inj (hselected.symm.trans hkey)
      exact hheld.2

/-- The created capsule has its entry again from its directory, and is not selected. -/
theorem overtaken_selection_lost : ¬ Kept (indexRun overtakingEvents) := by
  intro h
  have hselected : (indexRun overtakingEvents).selected = some createdKey := by decide +kernel
  obtain ⟨index, file, hread, hactive⟩ := (h 8).2 createdKey hselected
  have hnone : ((indexRun overtakingEvents).read 8).all
      (fun answer => answer.1.activePubKeyHex.isNone) = true := by
    decide +kernel
  rw [hread] at hnone
  rw [Option.all_some, hactive] at hnone
  exact nomatch hnone

end CapsuleIndex

end Hivra
