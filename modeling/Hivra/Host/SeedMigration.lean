import Hivra.Host.HostTexts
import Hivra.Lib.Interruptions
import Hivra.Lib.OrderedMap

namespace Hivra

open Interruptions Processes

namespace CapsuleSeedStore

/-!
# Migration of the seeds

The seeds of earlier versions are in a file, under keys that were not normalized.  The migration
writes those it can read into the secure storage, reads each of them back, and deletes the file.
-/

/-! ### Seeds as texts -/

def base64Code (c : Char) : Option ℕ :=
  if c.isUpper then some (c.toNat - 65)
  else if c.isLower then some (c.toNat - 71)
  else if c.isDigit then some (c.toNat + 4)
  else if c = '+' ∨ c = '-' then some 62
  else if c = '/' ∨ c = '_' then some 63
  else none

/-- So many padding characters and nothing else; a padding character may be percent-encoded. -/
def pads : ℕ → List Char → Bool
  | 0, [] => true
  | n + 1, '=' :: rest => pads n rest
  | n + 1, '%' :: '3' :: digit :: rest => (digit == 'D' || digit == 'd') && pads n rest
  | _, _ => false

/-- `base64.decode`, with the codes that do not make up three bytes yet. -/
def base64Decode : List ℕ → List Char → Option (List UInt8)
  | pending, [] => if pending.isEmpty then some [] else none
  | pending, c :: rest =>
    match base64Code c, pending with
    | some code, [first, second, third] =>
      let number := first * 2 ^ 18 + second * 2 ^ 12 + third * 2 ^ 6 + code
      (base64Decode [] rest).map fun bytes => UInt8.ofNat (number / 2 ^ 16) ::
        UInt8.ofNat (number / 2 ^ 8) :: UInt8.ofNat number :: bytes
    | some code, pending => base64Decode (pending ++ [code]) rest
    | none, [first, second] =>
      if second % 16 = 0 ∧ pads 2 (c :: rest) then
        some [UInt8.ofNat (first * 4 + second / 16)]
      else none
    | none, [first, second, third] =>
      if third % 4 = 0 ∧ pads 1 (c :: rest) then
        some [UInt8.ofNat (first * 4 + second / 16), UInt8.ofNat (second * 16 + third / 4)]
      else none
    | none, _ => none

/-- `_decodeSeedString`. -/
def decodeSeedString (encoded : Option String) : Option (List UInt8) :=
  ((encoded.filter (· ≠ "")).bind fun text => base64Decode [] text.toList).filter
    fun bytes => bytes.length == 32

/-! ### The migration -/

def seedKeyPrefix : String := "hivra.seed."

/-- A file of seeds; where it is a map, its entries with the texts of their values. -/
inductive LegacyFile
  | malformed
  | entries (map : List (String × Option String))

/-- The secure storage, the file, its copy in the visible directory where that is another one, and
    whether this process has migrated it. -/
structure SeedState where
  secure : String → Option String
  file : Option LegacyFile
  visible : Option LegacyFile
  checked : Bool

def SeedState.put (state : SeedState) (key value : String) : SeedState :=
  { state with secure := fun other => if other = key then some value else state.secure other }

inductive SeedAction
  | isChecked
  | setChecked
  | readFile
  | deleteFile
  | deleteVisible
  | write (key value : String)
  | read (key : String)

inductive SeedError
  | unavailable
  | readBackMismatch

abbrev SeedAnswer : SeedAction → Type
  | .isChecked => Bool
  | .readFile => Option LegacyFile
  | .write _ _ => Except SeedError Unit
  | .read _ => Except SeedError (Option String)
  | _ => Unit

/-- What may happen to an operation of the secure storage: a write can be lost, and one that fails
    may have been made. -/
inductive Luck
  | works
  | lost
  | fails (made : Bool)

/-- What an access answers and leaves. -/
def seedEffect : Effect SeedState Luck SeedAnswer
  | .isChecked, _, state => (state.checked, state)
  | .setChecked, _, state => ((), { state with checked := true })
  | .readFile, _, state => (state.file, state)
  | .deleteFile, _, state => ((), { state with file := none })
  | .deleteVisible, _, state => ((), { state with visible := none })
  | .write key value, luck, state =>
    match luck with
    | .works => (.ok (), state.put key value)
    | .lost => (.ok (), state)
    | .fails made => (.error .unavailable, if made then state.put key value else state)
  | .read key, luck, state =>
    match luck with
    | .fails _ => (.error .unavailable, state)
    | _ => (.ok (state.secure key), state)

/-- The entries that are migrated: a later one takes the place of an earlier one of its key. -/
def migrated (map : List (String × Option String)) : List (String × String) :=
  map.foldl (fun entries entry =>
    if isHex64 (trimmedLower entry.1) = false ∨ decodeSeedString (entry.2.getD "") = none then
      entries
    else OrderedMap.put entries (trimmedLower entry.1) (entry.2.getD "")) []

abbrev SeedCall := Attempt SeedAction SeedAnswer SeedError

def migrateEntry (entry : String × String) : SeedCall Unit := do
  let key := seedKeyPrefix ++ entry.1
  let written : Except SeedError Unit ← act (SeedAction.write key entry.2)
  known written
  let answer : Except SeedError (Option String) ← act (SeedAction.read key)
  let persisted ← known answer
  if persisted = some entry.2 then pure () else throw .readBackMismatch

def migrateEntries : List (String × String) → SeedCall Unit
  | [] => pure ()
  | entry :: rest => do
    migrateEntry entry
    migrateEntries rest

def deleteFiles : SeedCall Unit := do
  act SeedAction.deleteFile
  act SeedAction.deleteVisible

def migrateFile : Option LegacyFile → SeedCall Unit
  | none => pure ()
  | some .malformed => deleteFiles
  | some (.entries map) => do
    migrateEntries (migrated map)
    deleteFiles

/-- `_runLegacyFallbackMigration`. -/
def runLegacyFallbackMigration : SeedCall Unit := do
  let file : Option LegacyFile ← act SeedAction.readFile
  migrateFile file

def migrateUnless (checked : Bool) : SeedCall Unit :=
  if checked then pure ()
  else do
    runLegacyFallbackMigration
    act SeedAction.setChecked

/-- `_migrateLegacyFallbackFile`. -/
def migrateLegacyFallbackFile : SeedCall Unit := do
  let checked : Bool ← act SeedAction.isChecked
  migrateUnless checked

/-! ### What is not to be lost -/

/-- The secure storage has a valid seed under a key. -/
def Held (state : SeedState) (key : String) (seed : List UInt8) : Prop :=
  decodeSeedString (state.secure (seedKeyPrefix ++ key)) = some seed

/-- The valid seeds of a file, under their normalized keys. -/
def legacySeeds : Option LegacyFile → List (String × List UInt8)
  | some (.entries map) => map.filterMap fun entry =>
    (decodeSeedString (entry.2.getD "")).map fun seed => (trimmedLower entry.1, seed)
  | _ => []

/-- No seed of the secure storage and none of the file is lost. -/
structure SeedsKept (before after : SeedState) : Prop where
  secure : ∀ key seed, Held before key seed → Held after key seed
  legacy : ∀ entry ∈ legacySeeds before.file,
    Held after entry.1 entry.2 ∨ entry ∈ legacySeeds after.file

/-- The file can be migrated: the seeds of a key agree with each other and with the secure
    storage, and no seed is under something else than a key. -/
structure Migratable (state : SeedState) : Prop where
  named : ∀ entry ∈ legacySeeds state.file, isHex64 entry.1 = false →
    Held state entry.1 entry.2
  agree : ∀ entry ∈ legacySeeds state.file, ∀ other ∈ legacySeeds state.file,
    isHex64 entry.1 = true → entry.1 = other.1 → entry.2 = other.2
  fresh : ∀ entry ∈ legacySeeds state.file, isHex64 entry.1 = true →
    ∀ seed, Held state entry.1 seed → seed = entry.2

/-! ### The entries that are migrated -/

section Migrated

variable {map : List (String × Option String)}

theorem migrated_append (entry : String × Option String) :
    migrated (map ++ [entry]) =
      if isHex64 (trimmedLower entry.1) = false ∨ decodeSeedString (entry.2.getD "") = none then
        migrated map
      else OrderedMap.put (migrated map) (trimmedLower entry.1) (entry.2.getD "") := by
  unfold migrated
  rw [List.foldl_append, List.foldl_cons, List.foldl_nil]

theorem migrated_nodup : ((migrated map).map Prod.fst).Nodup := by
  induction map using List.reverseRecOn with
  | nil => exact List.nodup_nil
  | append_singleton map entry ih =>
    rw [migrated_append]
    split_ifs
    · exact ih
    · exact OrderedMap.keys_put_nodup ih _ _

variable {entry : String × List UInt8}

theorem mem_legacySeeds :
    entry ∈ legacySeeds (some (.entries map)) ↔ ∃ raw ∈ map,
      trimmedLower raw.1 = entry.1 ∧ decodeSeedString (raw.2.getD "") = some entry.2 := by
  unfold legacySeeds
  rw [List.mem_filterMap]
  constructor
  · rintro ⟨raw, hraw, hentry⟩
    obtain ⟨seed, hseed, rfl⟩ := Option.map_eq_some_iff.mp hentry
    exact ⟨raw, hraw, rfl, hseed⟩
  · rintro ⟨raw, hraw, hkey, hseed⟩
    refine ⟨raw, hraw, ?_⟩
    rw [hseed, Option.map_some, hkey]

/-- A migrated entry is one of the file. -/
theorem seed_of_migrated {entry : String × String} (h : entry ∈ migrated map) :
    isHex64 entry.1 = true ∧ ∃ seed, decodeSeedString (some entry.2) = some seed ∧
      (entry.1, seed) ∈ legacySeeds (some (.entries map)) := by
  simp only [mem_legacySeeds]
  induction map using List.reverseRecOn with
  | nil => cases h
  | append_singleton map raw ih =>
    have hold : entry ∈ migrated map → isHex64 entry.1 = true ∧
        ∃ seed, decodeSeedString (some entry.2) = some seed ∧ ∃ other ∈ map ++ [raw],
          trimmedLower other.1 = entry.1 ∧ decodeSeedString (other.2.getD "") = some seed := by
      intro hentry
      obtain ⟨hkey, seed, hseed, other, hother, hsame⟩ := ih hentry
      exact ⟨hkey, seed, hseed, other, List.mem_append_left _ hother, hsame⟩
    rw [migrated_append] at h
    split_ifs at h with hskip
    · exact hold h
    · rcases OrderedMap.mem_put.mp h with ⟨hkey, hvalue⟩ | ⟨-, hentry⟩
      · rw [not_or, Bool.not_eq_false] at hskip
        obtain ⟨seed, hseed⟩ := Option.ne_none_iff_exists'.mp hskip.2
        refine ⟨hkey ▸ hskip.1, seed, hvalue ▸ hseed, raw, ?_, hkey.symm, hseed⟩
        exact List.mem_append_right _ (List.mem_singleton_self raw)
      · exact hold hentry

/-- A seed under a key is migrated, or another one of its key. -/
theorem migrated_of_seed (h : entry ∈ legacySeeds (some (.entries map)))
    (hkey : isHex64 entry.1 = true) : ∃ value, (entry.1, value) ∈ migrated map := by
  rw [mem_legacySeeds] at h
  induction map using List.reverseRecOn with
  | nil =>
    obtain ⟨raw, hraw, -⟩ := h
    cases hraw
  | append_singleton map raw ih =>
    obtain ⟨other, hother, hsame, hseed⟩ := h
    rw [migrated_append]
    rcases List.mem_append.mp hother with hold | hnew
    · obtain ⟨value, hvalue⟩ := ih ⟨other, hold, hsame, hseed⟩
      split_ifs
      · exact ⟨value, hvalue⟩
      · by_cases hput : entry.1 = trimmedLower raw.1
        · exact ⟨_, OrderedMap.mem_put.mpr (.inl ⟨hput, rfl⟩)⟩
        · exact ⟨value, OrderedMap.mem_put.mpr (.inr ⟨hput, hvalue⟩)⟩
    · rw [List.mem_singleton] at hnew
      subst hnew
      rw [if_neg (by simp [hsame, hkey, hseed])]
      exact ⟨_, OrderedMap.mem_put.mpr (.inl ⟨hsame.symm, rfl⟩)⟩

end Migrated

/-! ### Runs -/

@[simp] theorem secure_put (state : SeedState) (key value other : String) :
    (state.put key value).secure other = if other = key then some value else state.secure other :=
  rfl

/-- What the storage can be while the entries are migrated. -/
structure Migrating (start : SeedState) (map : List (String × Option String))
    (done : List (String × String)) (state : SeedState) : Prop where
  file : state.file = start.file
  secure : ∀ key, state.secure key = start.secure key ∨ ∃ entry ∈ migrated map,
    key = seedKeyPrefix ++ entry.1 ∧ state.secure key = some entry.2
  done : ∀ entry ∈ done, state.secure (seedKeyPrefix ++ entry.1) = some entry.2

section Runs

variable {start state : SeedState} {map : List (String × Option String)}
variable {done rest : List (String × String)} {entry : String × String}

theorem prefix_inj {key other : String} (h : seedKeyPrefix ++ key = seedKeyPrefix ++ other) :
    key = other := by
  have hlists := congrArg String.toList h
  rw [String.toList_append, String.toList_append] at hlists
  exact String.toList_inj.mp (List.append_cancel_left hlists)

/-- An entry that is written, under a key that was not among those before. -/
theorem Migrating.put (h : Migrating start map done state) (hentry : entry ∈ migrated map)
    (hfresh : ∀ earlier ∈ done, earlier.1 ≠ entry.1) :
    Migrating start map done (state.put (seedKeyPrefix ++ entry.1) entry.2) where
  file := h.file
  secure := by
    intro key
    rw [secure_put]
    split_ifs with hkey
    · exact .inr ⟨entry, hentry, hkey, rfl⟩
    · exact h.secure key
  done := by
    intro earlier hearlier
    rw [secure_put, if_neg fun hkey => hfresh earlier hearlier (prefix_inj hkey)]
    exact h.done earlier hearlier

theorem safe_migrateEntry (h : Migrating start map done state) (hentry : entry ∈ migrated map)
    (hfresh : ∀ earlier ∈ done, earlier.1 ≠ entry.1) :
    Safe seedEffect (fun _ => True)
      (Ends (fun _ state => Migrating start map (done ++ [entry]) state)
        (fun state => Migrating start map [] state)) (migrateEntry entry) state := by
  have hforget : ∀ {done state}, Migrating start map done state → Migrating start map [] state :=
    fun h => ⟨h.file, h.secure, fun _ hnone => nomatch hnone⟩
  have hput := h.put hentry hfresh
  -- The entry counts as migrated once it has been read back.
  have hread : ∀ state, Migrating start map done state →
      Safe seedEffect (fun _ => True)
        (Ends (fun _ state => Migrating start map (done ++ [entry]) state)
          (fun state => Migrating start map [] state))
        (do
          let answer : Except SeedError (Option String) ←
            act (SeedAction.read (seedKeyPrefix ++ entry.1))
          let persisted ← known answer
          if persisted = some entry.2 then pure () else throw .readBackMismatch : SeedCall Unit)
        state := by
    intro state hstate
    have hanswer : ∀ persisted : Option String, persisted = state.secure (seedKeyPrefix ++ entry.1) →
        Safe seedEffect (fun _ => True)
          (Ends (fun _ state => Migrating start map (done ++ [entry]) state)
            (fun state => Migrating start map [] state))
          (if persisted = some entry.2 then pure () else throw .readBackMismatch : SeedCall Unit)
          state := by
      intro persisted hpersisted
      refine Safe.ite (fun hsame => Safe.pure ?_) (fun _ => Safe.throw (hforget hstate))
      refine ⟨hstate.file, hstate.secure, fun other hother => ?_⟩
      rcases List.mem_append.mp hother with hold | hnew
      · exact hstate.done other hold
      · rw [List.mem_singleton.mp hnew, ← hpersisted]
        exact hsame
    refine Safe.andThen fun luck => ⟨trivial, ?_⟩
    cases luck with
    | works =>
      exact Safe.andThen (Safe.known (fun _ hok => hanswer _ (Except.ok.inj hok).symm)
        (fun _ herror => nomatch herror))
    | lost =>
      exact Safe.andThen (Safe.known (fun _ hok => hanswer _ (Except.ok.inj hok).symm)
        (fun _ herror => nomatch herror))
    | fails made =>
      exact Safe.andThen (Safe.known (fun _ hok => nomatch hok) (fun _ _ => hforget hstate))
  refine Safe.andThen fun luck => ⟨trivial, ?_⟩
  cases luck with
  | works =>
    exact Safe.andThen (Safe.known (fun _ _ => hread _ hput) (fun _ herror => nomatch herror))
  | lost =>
    exact Safe.andThen (Safe.known (fun _ _ => hread _ h) (fun _ herror => nomatch herror))
  | fails made =>
    refine Safe.andThen (Safe.known (fun _ hok => nomatch hok) (fun _ _ => ?_))
    cases made with
    | true => exact hforget hput
    | false => exact hforget h

theorem safe_migrateEntries (h : Migrating start map done state)
    (hall : migrated map = done ++ rest) :
    Safe seedEffect (fun _ => True)
      (Ends (fun _ state => Migrating start map (migrated map) state)
        (fun state => Migrating start map [] state)) (migrateEntries rest) state := by
  induction rest generalizing done state with
  | nil =>
    rw [List.append_nil] at hall
    exact Safe.pure (hall ▸ h)
  | cons entry rest ih =>
    have hnodup : ((migrated map).map Prod.fst).Nodup := migrated_nodup
    rw [hall, List.map_append, List.map_cons, List.nodup_append] at hnodup
    have hfresh : ∀ earlier ∈ done, earlier.1 ≠ entry.1 := fun earlier hearlier =>
      hnodup.2.2 _ (List.mem_map_of_mem hearlier) _ List.mem_cons_self
    have hentry : entry ∈ migrated map := by
      rw [hall]
      exact List.mem_append_right _ List.mem_cons_self
    refine Safe.andThen (Safe.mono (safe_migrateEntry h hentry hfresh) ?_)
    rintro (error | _) next hend
    · exact hend
    · exact ih hend (by rw [hall, List.append_assoc, List.singleton_append])

end Runs

theorem SeedsKept.refl (state : SeedState) : SeedsKept state state :=
  ⟨fun _ _ h => h, fun _ h => .inr h⟩

section Kept

variable {start state : SeedState} {map : List (String × Option String)}
variable {done : List (String × String)}

/-- A seed of the storage is only written over with itself. -/
theorem Migrating.held (h : Migrating start map done state)
    (hfile : start.file = some (.entries map)) (hmigratable : Migratable start) {key : String}
    {seed : List UInt8} (hheld : Held start key seed) : Held state key seed := by
  rcases h.secure (seedKeyPrefix ++ key) with hsame | ⟨entry, hentry, hkey, hvalue⟩
  · unfold Held at hheld ⊢
    rw [hsame]
    exact hheld
  · obtain ⟨hhex, written, hdecoded, hlegacy⟩ := seed_of_migrated hentry
    rw [prefix_inj hkey] at hheld hvalue ⊢
    rw [← hfile] at hlegacy
    rw [hmigratable.fresh _ hlegacy hhex seed hheld]
    unfold Held
    rw [hvalue]
    exact hdecoded

/-- A migration that has not deleted the file. -/
theorem Migrating.kept (h : Migrating start map done state)
    (hfile : start.file = some (.entries map)) (hmigratable : Migratable start) :
    SeedsKept start state where
  secure := fun _ _ hheld => h.held hfile hmigratable hheld
  legacy := fun _ hentry => .inr (h.file ▸ hentry)

/-- **Every seed of the file is in the storage** once all its entries are migrated. -/
theorem Migrating.held_legacy (h : Migrating start map (migrated map) state)
    (hfile : start.file = some (.entries map)) (hmigratable : Migratable start)
    {entry : String × List UInt8} (hentry : entry ∈ legacySeeds start.file) :
    Held state entry.1 entry.2 := by
  cases hhex : isHex64 entry.1 with
  | false => exact h.held hfile hmigratable (hmigratable.named entry hentry hhex)
  | true =>
    have hfound := hentry
    rw [hfile] at hfound
    obtain ⟨value, hvalue⟩ := migrated_of_seed hfound hhex
    obtain ⟨-, written, hdecoded, hlegacy⟩ := seed_of_migrated hvalue
    rw [← hfile] at hlegacy
    rw [hmigratable.agree entry hentry _ hlegacy hhex rfl]
    unfold Held
    rw [h.done _ hvalue]
    exact hdecoded

theorem safe_deleteFiles {kept : SeedState → Prop}
    (h : kept { state with file := none, visible := none }) :
    Safe seedEffect (fun _ => True) (Ends (fun _ state => kept state) kept) deleteFiles state :=
  fun _ => ⟨trivial, fun _ => ⟨trivial, h⟩⟩

theorem safe_runLegacyFallbackMigration (hmigratable : Migratable start) :
    Safe seedEffect (fun _ => True) (Ends (fun _ state => SeedsKept start state) (SeedsKept start))
      runLegacyFallbackMigration start := by
  refine fun _ => ⟨trivial, ?_⟩
  show Safe _ _ _ (migrateFile start.file) start
  unfold migrateFile
  split
  · exact Safe.pure (SeedsKept.refl start)
  · rename_i hfile
    refine safe_deleteFiles ⟨fun _ _ h => h, fun entry hentry => ?_⟩
    rw [hfile] at hentry
    cases hentry
  · rename_i map hfile
    have hstart : Migrating start map [] start :=
      ⟨rfl, fun _ => .inl rfl, fun _ hnone => nomatch hnone⟩
    refine Safe.andThen (Safe.mono (safe_migrateEntries hstart (List.nil_append _).symm) ?_)
    rintro (error | _) state hend
    · exact hend.kept hfile hmigratable
    · refine safe_deleteFiles ⟨?_, fun entry hentry => ?_⟩
      · exact fun key seed hheld => hend.held hfile hmigratable hheld
      · exact .inl (hend.held_legacy hfile hmigratable hentry)

/-- **What the calls of the migration leave**, wherever they fail. -/
theorem safe_migration (h : start.checked = true ∨ Migratable start) :
    Safe seedEffect (fun _ => True) (Ends (fun _ state => SeedsKept start state) (SeedsKept start))
      migrateLegacyFallbackFile start := by
  refine fun _ => ⟨trivial, ?_⟩
  show Safe _ _ _ (migrateUnless start.checked) start
  unfold migrateUnless
  refine Safe.ite (fun _ => Safe.pure (SeedsKept.refl start)) (fun hchecked => ?_)
  refine Safe.andThen (Safe.mono
    (safe_runLegacyFallbackMigration (h.resolve_left hchecked)) ?_)
  rintro (error | _) state hend
  · exact hend
  · exact fun _ => ⟨trivial, hend.secure, hend.legacy⟩

end Kept

/-! ### A migration in which nothing fails -/

theorem reaches_migrateEntries (entries : List (String × String)) (state : SeedState) :
    ∃ later, Reaches seedEffect (migrateEntries entries) state (.ok ()) later ∧
      ∀ key, (∀ entry ∈ entries, entry.1 ≠ key) →
        later.secure (seedKeyPrefix ++ key) = state.secure (seedKeyPrefix ++ key) := by
  induction entries generalizing state with
  | nil => exact ⟨state, Reaches.pure, fun _ _ => rfl⟩
  | cons entry rest ih =>
    obtain ⟨later, hreaches, hsame⟩ := ih (state.put (seedKeyPrefix ++ entry.1) entry.2)
    have hentry : Reaches seedEffect (migrateEntry entry) state (.ok ())
        (state.put (seedKeyPrefix ++ entry.1) entry.2) := by
      refine Reaches.act Luck.works (Reaches.act Luck.works ?_)
      have hread : (state.put (seedKeyPrefix ++ entry.1) entry.2).secure (seedKeyPrefix ++ entry.1)
          = some entry.2 := by simp
      show Reaches seedEffect (if (state.put (seedKeyPrefix ++ entry.1) entry.2).secure
        (seedKeyPrefix ++ entry.1) = some entry.2 then pure () else throw .readBackMismatch :
          SeedCall Unit) _ _ _
      rw [if_pos hread]
      exact Reaches.pure
    refine ⟨later, Reaches.andThen hentry hreaches, ?_⟩
    intro key hkey
    rw [hsame key fun other hother => hkey other (List.mem_cons_of_mem _ hother), secure_put,
      if_neg fun heq => hkey entry List.mem_cons_self (prefix_inj heq).symm]

/-- **What the migration leaves where nothing fails**: no file, and nothing else under what is no
    key. -/
theorem reaches_migrated {start : SeedState} {map : List (String × Option String)}
    (hchecked : start.checked = false) (hfile : start.file = some (.entries map)) :
    ∃ later, Reaches seedEffect migrateLegacyFallbackFile start (.ok ()) later ∧
      later.file = none ∧ ∀ key, isHex64 key = false →
        later.secure (seedKeyPrefix ++ key) = start.secure (seedKeyPrefix ++ key) := by
  obtain ⟨migratedState, hreaches, hsame⟩ := reaches_migrateEntries (migrated map) start
  refine ⟨{ migratedState with file := none, visible := none, checked := true }, ?_, rfl, ?_⟩
  · have hfiles : Reaches seedEffect runLegacyFallbackMigration start (.ok ())
        { migratedState with file := none, visible := none } := by
      refine Reaches.act Luck.works ?_
      show Reaches seedEffect (migrateFile start.file) start _ _
      rw [hfile]
      exact Reaches.andThen hreaches
        (Reaches.act Luck.works (Reaches.act Luck.works (Reaches.done _ _)))
    refine Reaches.act Luck.works ?_
    show Reaches seedEffect (migrateUnless start.checked) start _ _
    rw [hchecked]
    exact Reaches.andThen hfiles (Reaches.act Luck.works (Reaches.done _ _))
  · intro key hkey
    refine hsame key fun entry hentry heq => ?_
    have hhex := (seed_of_migrated hentry).1
    rw [heq, hkey] at hhex
    exact Bool.false_ne_true hhex

/-- A file whose seeds are kept by every migration can be migrated. -/
theorem migratable_of_kept {start : SeedState} (hchecked : start.checked = false)
    (h : ∀ choices result,
      (run seedEffect migrateLegacyFallbackFile choices start).1 = some result →
        SeedsKept start (run seedEffect migrateLegacyFallbackFile choices start).2) :
    Migratable start := by
  have hnone : legacySeeds start.file = [] → Migratable start := by
    intro hempty
    constructor
    · exact fun entry hentry => absurd (hempty ▸ hentry) List.not_mem_nil
    · exact fun entry hentry => absurd (hempty ▸ hentry) List.not_mem_nil
    · exact fun entry hentry => absurd (hempty ▸ hentry) List.not_mem_nil
  cases hfile : start.file with
  | none => exact hnone (hfile ▸ rfl)
  | some file =>
    cases file with
    | malformed => exact hnone (hfile ▸ rfl)
    | entries map =>
      obtain ⟨later, hreaches, hgone, hsame⟩ := reaches_migrated hchecked hfile
      obtain ⟨choices, hrun⟩ := hreaches.run
      have hkept := h choices (.ok ()) (by rw [hrun])
      rw [hrun] at hkept
      -- There is no file any more, so every seed of it is in the storage.
      have hheld : ∀ entry ∈ legacySeeds start.file, Held later entry.1 entry.2 := by
        intro entry hentry
        refine (hkept.legacy entry hentry).resolve_right fun hleft => ?_
        rw [hgone] at hleft
        cases hleft
      constructor
      · intro entry hentry hkey
        have hafter := hheld entry hentry
        unfold Held at hafter ⊢
        rw [hsame entry.1 hkey] at hafter
        exact hafter
      · intro entry hentry other hother _ hkeys
        have hone := hheld entry hentry
        have htwo := hheld other hother
        unfold Held at hone htwo
        rw [hkeys, htwo] at hone
        exact (Option.some.inj hone).symm
      · intro entry hentry _ seed hbefore
        have hafter := hkept.secure entry.1 seed hbefore
        have hlegacy := hheld entry hentry
        unfold Held at hafter hlegacy
        rw [hlegacy] at hafter
        exact (Option.some.inj hafter).symm

/-- **When no seed is lost**, whichever operations of the storage fail: if the migration has been
    done before, or the file can be migrated. -/
theorem seeds_kept_iff (start : SeedState) :
    (∀ choices result,
      (run seedEffect migrateLegacyFallbackFile choices start).1 = some result →
        SeedsKept start (run seedEffect migrateLegacyFallbackFile choices start).2) ↔
      start.checked = true ∨ Migratable start := by
  constructor
  · intro h
    cases hchecked : start.checked with
    | true => exact .inl rfl
    | false => exact .inr (migratable_of_kept hchecked h)
  · intro h choices result hresult
    have hends := (safe_run trivial (safe_migration h) choices).2 result hresult
    cases result with
    | error error => exact hends
    | ok value => exact hends

/-! ### A file with an older seed -/

/-- The text of a seed of zeros, but for its last byte. -/
def sampleSeed (last : Char) : String :=
  String.ofList (List.replicate 42 'A' ++ [last, '='])

def sampleSeedKey : String := String.ofList (List.replicate 64 '1')

/-- The storage has the seed of a capsule, and the file another one under its key. -/
def olderSeed : SeedState where
  secure key := if key = seedKeyPrefix ++ sampleSeedKey then some (sampleSeed 'E') else none
  file := some (.entries [(sampleSeedKey, some (sampleSeed 'A'))])
  visible := none
  checked := false

theorem decode_sampleSeed :
    decodeSeedString (some (sampleSeed 'A')) = some (List.replicate 32 0) ∧
      decodeSeedString (some (sampleSeed 'E')) = some (List.replicate 31 0 ++ [1]) := by
  decide +kernel

theorem isHex64_sampleSeedKey : isHex64 sampleSeedKey = true := by
  unfold isHex64 sampleSeedKey
  rw [String.toList_ofList, List.length_replicate, List.all_replicate]
  rfl

/-- The seed of the storage is written over. -/
theorem olderSeed_lost :
    ¬∀ choices result,
      (run seedEffect migrateLegacyFallbackFile choices olderSeed).1 = some result →
        SeedsKept olderSeed (run seedEffect migrateLegacyFallbackFile choices olderSeed).2 := by
  intro h
  have hmigratable := migratable_of_kept rfl h
  have hlegacy : (sampleSeedKey, List.replicate 32 0) ∈ legacySeeds olderSeed.file :=
    mem_legacySeeds.mpr ⟨_, List.mem_singleton_self _,
      trimmedLower_of_isHex64 isHex64_sampleSeedKey, decode_sampleSeed.1⟩
  have hheld : Held olderSeed sampleSeedKey (List.replicate 31 0 ++ [1]) := by
    have hsecure : olderSeed.secure (seedKeyPrefix ++ sampleSeedKey) = some (sampleSeed 'E') := by
      simp [olderSeed]
    unfold Held
    rw [hsecure]
    exact decode_sampleSeed.2
  have hsame := hmigratable.fresh _ hlegacy isHex64_sampleSeedKey _ hheld
  exact absurd hsame (by decide)

end CapsuleSeedStore

end Hivra
