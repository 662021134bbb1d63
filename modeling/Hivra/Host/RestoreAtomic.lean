import Hivra.Host.BackupRestore
import Hivra.Host.IndexRepair

namespace Hivra

open CapsuleIndex Interruptions OrderedMap Processes

namespace BackupRestore

/-!
# A restore that fails

Wherever a restore fails, the directories, the seed and the index are to be as they were.  The
index is the store that is not put back as it was: what other entries it has by then is kept, and
the new one is taken out.

* `Near.repaired`, `Near.undone` — what an index with the new capsule is after the undoing.
* `safe_undo`, `safe_restoreCompleteBackup` — what the undoing and every run leave.
* `restore_atomic_iff` — when a failed restore leaves everything as it was.
-/

variable {Double : Type}

/-! ### The index with a new entry -/

/-- An index that differs from another one only in the entry of a capsule, which may be
    selected. -/
structure Near (owner : String) (base index : CapsulesIndex) : Prop where
  others : ∀ key, key ≠ owner → lookup index.capsules key = lookup base.capsules key
  active : index.activePubKeyHex = base.activePubKeyHex ∨
    index.activePubKeyHex = some owner ∧ contains index.capsules owner = true

section Near

variable {owner : String} {base index : CapsulesIndex}
variable {before directories : List (String × CapsuleDirectory)} {now : ℤ}

theorem Near.of_same (h : SameIndex index base) : Near owner base index :=
  ⟨fun key _ => h.capsules key, .inl h.active⟩

/-- The capsule is not the selection of an index without it. -/
theorem InLine.active_ne (h : InLine before base) (hnew : lookup base.capsules owner = none)
    {key : String} (hactive : base.activePubKeyHex = some key) : key ≠ owner := by
  rintro rfl
  have hbase := h.active key hactive
  unfold contains at hbase
  rw [hnew] at hbase
  exact Bool.false_ne_true hbase

theorem Near.selected (h : Near owner base index) (hinLine : InLine before base)
    (hnew : lookup base.capsules owner = none) {capsules : List (String × CapsuleIndexEntry)}
    (hothers : ∀ key, key ≠ owner → lookup capsules key = lookup base.capsules key)
    (howner : contains index.capsules owner = true → contains capsules owner = true) :
    Near owner base ⟨selection index.activePubKeyHex capsules, capsules⟩ := by
  refine ⟨hothers, ?_⟩
  rcases h.active with hbase | ⟨hselected, hcontains⟩
  · left
    show selection index.activePubKeyHex capsules = base.activePubKeyHex
    rw [hbase]
    cases hactive : base.activePubKeyHex with
    | none => rfl
    | some key =>
      have hbefore := hinLine.active key hactive
      refine selection_eq_some.mpr ⟨rfl, ?_⟩
      unfold contains at hbefore ⊢
      rw [hothers key (InLine.active_ne hinLine hnew hactive)]
      exact hbefore
  · right
    refine ⟨selection_eq_some.mpr ⟨hselected, howner hcontains⟩, howner hcontains⟩

theorem Near.stored (h : Near owner base index) (hinLine : InLine before base)
    (hnew : lookup base.capsules owner = none) : Near owner base (IndexFile.stored index).index :=
  h.selected hinLine hnew h.others id

/-- **A repair keeps an index near another one**, whatever has come of the capsule's directory. -/
theorem Near.repaired (h : Near owner base index) (hinLine : InLine before base)
    (hnew : lookup base.capsules owner = none) (hnodup : (directories.map Prod.fst).Nodup)
    (hothers : ∀ key, key ≠ owner → lookup directories key = lookup before key)
    (hbacked : backed directories owner = true) (now : ℤ) :
    Near owner base (repairFromCapsuleDirectories now directories index) := by
  refine h.selected hinLine hnew ?_ ?_
  · intro key hkey
    have hsame : backed directories key = backed before key := by
      unfold backed
      rw [hothers key hkey]
    rw [lookup_repairedCapsules now hnodup, h.others key hkey, hothers key hkey, hsame]
    cases hentry : lookup base.capsules key with
    | some entry => exact if_pos (hinLine.backed key (contains_of_lookup hentry))
    | none =>
      dsimp only
      split_ifs with hhex
      · rw [hinLine.adopted key hentry hhex]
        rfl
      · rfl
  · intro hcontains
    obtain ⟨entry, hentry⟩ := Option.isSome_iff_exists.mp hcontains
    exact contains_of_lookup (lookup_repaired hentry hbacked)

/-- What the undoing writes is the index before. -/
theorem Near.undone (h : Near owner base index) (hnew : lookup base.capsules owner = none) :
    SameIndex (undoneIndex owner base index) base := by
  constructor
  · unfold undoneIndex
    dsimp only
    split_ifs with hselected
    · rfl
    · exact h.active.resolve_right fun hboth => hselected hboth.1
  · intro key
    show lookup (remove index.capsules owner) key = _
    rw [lookup_remove]
    split_ifs with hkey
    · rw [hkey, hnew]
    · exact h.others key hkey

/-- A write that keeps the selection of the file keeps that of the index before. -/
theorem Near.preserved (h : Near owner base index) (hnew : lookup base.capsules owner = none)
    {undone : CapsulesIndex} (hundone : SameIndex undone base) :
    SameIndex (preservingActive index undone) base := by
  unfold preservingActive
  split
  · rename_i latest hlatest
    split_ifs with hknown
    · refine ⟨?_, hundone.capsules⟩
      rcases h.active with hbase | ⟨hselected, -⟩
      · rw [← hbase, hlatest]
      · -- the capsule has no entry any more
        rw [hlatest, Option.some.injEq] at hselected
        unfold contains at hknown
        rw [hselected, hundone.capsules, hnew] at hknown
        exact absurd hknown Bool.false_ne_true
    · exact hundone
  · exact hundone

end Near

/-! ### The stores -/

theorem lookup_directories (world : RestoreWorld Double) (key : String) :
    lookup world.directories key = (lookup world.folders key).map Folder.directory := by
  unfold RestoreWorld.directories
  induction world.folders with
  | nil => rfl
  | cons entry rest ih =>
    rw [List.map_cons, lookup_cons, lookup_cons, ih]
    split_ifs <;> rfl

theorem directories_nodup (world : RestoreWorld Double) :
    (world.directories.map Prod.fst).Nodup := by
  have hkeys : world.directories.map Prod.fst = world.folders.map Prod.fst := by
    unfold RestoreWorld.directories
    rw [List.map_map]
    rfl
  rw [hkeys]
  exact world.distinct

/-- What a failed restore is to leave: the directories, the seed, and the index as it is read. -/
structure Unchanged (before after : RestoreWorld Double) : Prop where
  folders : after.folders = before.folders
  seed : after.seed = before.seed
  index : ∀ later, ∃ now, SameIndex (after.view later) (before.view now)

theorem Unchanged.of_stage {before after : RestoreWorld Double}
    (hfolders : after.folders = before.folders) (hseed : after.seed = before.seed)
    (hindex : after.index = before.index) : Unchanged before after := by
  refine ⟨hfolders, hseed, fun later => ⟨later, ?_⟩⟩
  unfold RestoreWorld.view RestoreWorld.directories
  rw [hfolders, hindex]
  exact SameIndex.refl _

section Undo

variable (restoration : Restoration Double) (start : RestoreWorld Double) (base : CapsulesIndex)

/-- What the undoing can put back: the index is near the one before, and the flags tell of a new
    directory and a new seed. -/
structure Undoable (flags : RestoreFlags) (world : RestoreWorld Double) : Prop where
  folders : world.folders = start.folders ∨ flags.published = true ∧ ∃ folder,
    folder.directory.authoritative = true ∧ world.folders = put start.folders restoration.owner folder
  seed : world.seed = start.seed ∨ flags.seedStored = true
  seedNew : flags.seedStored = true → start.seed = none
  readable : world.index.isUnreadable = false
  index : Near restoration.owner base world.index.index

/-- The restore has got as far as the index, which has no entry of the capsule. -/
structure Begun : Prop where
  now : ∃ now, base = start.view now
  inLine : InLine start.directories base
  isNew : lookup base.capsules restoration.owner = none
  absent : contains start.folders restoration.owner = false

variable {restoration start base} {flags : RestoreFlags} {world : RestoreWorld Double}

theorem Begun.not_mem (h : Begun restoration start base) :
    restoration.owner ∉ start.folders.map Prod.fst := by
  rw [← contains_iff, h.absent]
  exact Bool.false_ne_true

/-- The directories beside the new one. -/
theorem Undoable.directories (h : Undoable restoration start base flags world) {key : String}
    (hkey : key ≠ restoration.owner) :
    lookup world.directories key = lookup start.directories key := by
  rw [lookup_directories, lookup_directories]
  rcases h.folders with hsame | ⟨-, folder, -, hput⟩
  · rw [hsame]
  · rw [hput, lookup_put, if_neg (Ne.symm hkey)]

theorem Undoable.backed (h : Undoable restoration start base flags world)
    (hbegun : Begun restoration start base) : backed world.directories restoration.owner = true := by
  unfold CapsuleIndex.backed
  rw [lookup_directories]
  rcases h.folders with hsame | ⟨-, folder, hfiles, hput⟩
  · have hnone : lookup start.folders restoration.owner = none :=
      lookup_eq_none.mpr hbegun.not_mem
    rw [hsame, hnone]
    rfl
  · rw [hput, lookup_put, if_pos rfl]
    exact hfiles

/-- A read of the index that the undoing can put back. -/
theorem Undoable.read (h : Undoable restoration start base flags world)
    (hbegun : Begun restoration start base) (now : ℤ) :
    ∃ index left, readUnlocked now world.directories world.index = some (index, left) ∧
      left.index = index ∧ left.isUnreadable = false ∧ Near restoration.owner base index := by
  obtain ⟨index, left, hread⟩ := readUnlocked_isSome now world.directories h.readable
  obtain ⟨hleft, hreadable, hindex⟩ := readUnlocked_left (directories_nodup world) hread
  refine ⟨index, left, hread, hleft, hreadable, ?_⟩
  rw [hindex]
  exact h.index.repaired hbegun.inLine hbegun.isNew (directories_nodup world)
    (fun _ hkey => h.directories hkey) (h.backed hbegun) now

variable (restoration start base) in
/-- What is left once the new directory and the new seed are deleted. -/
structure Cleared (world : RestoreWorld Double) : Prop where
  folders : world.folders = start.folders
  seed : world.seed = start.seed
  readable : world.index.isUnreadable = false
  index : Near restoration.owner base world.index.index

theorem Cleared.undoable (h : Cleared restoration start base world) :
    Undoable restoration start base nothingDone world :=
  ⟨.inl h.folders, .inl h.seed, fun hnew => absurd hnew Bool.false_ne_true, h.readable, h.index⟩

theorem safe_deleteNew (hbegun : Begun restoration start base)
    (h : Undoable restoration start base flags world) :
    Safe (restoreEffect restoration) (fun _ => True)
      (EndsWith (fun _ => Cleared restoration start base) fun _ => Unchanged start)
      (deleteNew flags) world := by
  have hremove : remove world.folders restoration.owner = start.folders := by
    rcases h.folders with hsame | ⟨-, folder, -, hput⟩
    · rw [hsame, remove, List.filter_eq_self]
      intro entry hentry
      refine bne_iff_ne.mpr fun hkey => hbegun.not_mem ?_
      exact List.mem_map.mpr ⟨entry, hentry, hkey⟩
    · rw [hput, remove_put_of_not_mem hbegun.not_mem]
  -- The directory first, and the seed in what is left.
  have hseed : ∀ cleared : RestoreWorld Double, cleared.folders = start.folders →
      cleared.seed = world.seed → cleared.index = world.index →
      Safe (restoreEffect restoration) (fun _ => True)
        (EndsWith (fun _ => Cleared restoration start base) fun _ => Unchanged start)
        (onlyIf flags.seedStored (act RestoreAction.deleteSeed)) cleared := by
    intro cleared hfolders hsame hindex
    unfold onlyIf
    refine Safe.ite (fun hstored => fun turn => ⟨trivial, ?_⟩) (fun hold => ?_)
    · exact ⟨hfolders, (h.seedNew hstored).symm, hindex ▸ h.readable, hindex ▸ h.index⟩
    · exact ⟨hfolders, hsame.trans (h.seed.resolve_right hold), hindex ▸ h.readable,
        hindex ▸ h.index⟩
  unfold deleteNew
  refine Safe.followed ?_
  unfold onlyIf
  refine Safe.ite (fun _ => fun turn => ⟨trivial, ?_⟩) (fun hold => ?_)
  · exact hseed _ hremove rfl rfl
  · refine hseed _ (h.folders.resolve_right fun hnew => hold hnew.1) rfl rfl

/-- The stores are as they were if the index is read as the one before. -/
theorem Begun.unchanged (h : Begun restoration start base)
    (hfolders : world.folders = start.folders) (hseed : world.seed = start.seed)
    (hsame : SameIndex world.index.index base) : Unchanged start world := by
  refine ⟨hfolders, hseed, fun later => ?_⟩
  obtain ⟨now, hbase⟩ := h.now
  have hdirectories : world.directories = start.directories := by
    unfold RestoreWorld.directories
    rw [hfolders]
  refine ⟨now, ?_⟩
  rw [← hbase, RestoreWorld.view, hdirectories]
  exact h.inLine.repaired (directories_nodup start) hsame later

theorem readAgain_eq {turn : Turn} {index : CapsulesIndex} {left : IndexFile}
    (h : readUnlocked turn.now world.directories world.index = some (index, left)) :
    restoreEffect restoration .readAgain turn world = (index, { world with index := left }) := by
  simp only [restoreEffect, h]

theorem writeIndex_eq {turn : Turn} {index current : CapsulesIndex} {left : IndexFile}
    (h : readUnlocked turn.now world.directories world.index = some (current, left)) :
    restoreEffect restoration (.writeIndex index) turn world
      = ((), { world with index := .stored (preservingActive current index) }) := by
  simp only [restoreEffect, h]

/-- **What the undoing leaves** is what was there before. -/
theorem safe_undo (hbegun : Begun restoration start base)
    (h : Undoable restoration start base flags world) {ok : Unit → RestoreWorld Double → Prop} :
    Safe (restoreEffect restoration) (fun _ => True) (EndsWith ok fun _ => Unchanged start)
      (undo restoration base flags) world := by
  refine Safe.next (safe_deleteNew hbegun h) (fun _ cleared hcleared => ?_)
    fun _ _ hunchanged => hunchanged
  refine Safe.answered fun turn => ⟨trivial, ?_⟩
  obtain ⟨current, left, hread, hleft, hleftReadable, hcurrent⟩ :=
    hcleared.undoable.read hbegun turn.now
  rw [readAgain_eq hread]
  refine Safe.answered fun turn => ⟨trivial, ?_⟩
  have hagain : Cleared restoration start base { cleared with index := left } :=
    ⟨hcleared.folders, hcleared.seed, hleftReadable, hleft ▸ hcurrent⟩
  obtain ⟨latest, _, hread', _, _, hlatest⟩ := hagain.undoable.read hbegun turn.now
  rw [writeIndex_eq hread']
  have hsame := (hlatest.preserved hbegun.isNew (hcurrent.undone hbegun.isNew)).stored
    hbegun.inLine
  exact Safe.answered fun _ => ⟨trivial, hbegun.unchanged hcleared.folders hcleared.seed hsame⟩

end Undo

/-! ### The steps forward -/

/-- The files in the staging directory. -/
def StagedFiles (files : List (String × FileContent Double)) (world : RestoreWorld Double) : Prop :=
  ∃ folder, world.stage = .folder folder ∧ folder.files = files

/-- The directory of the capsule has exactly some files. -/
def HasFiles (owner : String) (files : List (String × FileContent Double))
    (world : RestoreWorld Double) : Prop :=
  ∃ folder, lookup world.folders owner = some folder ∧ folder.files = files

section Forward

variable {restoration : Restoration Double} {start : RestoreWorld Double} {base : CapsulesIndex}
variable {flags : RestoreFlags} {world : RestoreWorld Double} {step : RestoreStep Double}
  {thrown : RestoreFlags → RestoreWorld Double → Prop} {ok : Unit → RestoreWorld Double → Prop}

theorem safe_tried (h : ∀ turn, (stepEffect restoration turn world step).1 = true →
      ok () (stepEffect restoration turn world step).2)
    (h' : ∀ turn, (stepEffect restoration turn world step).1 = false →
      thrown flags (stepEffect restoration turn world step).2) :
    Safe (restoreEffect restoration) (fun _ => True) (EndsWith ok thrown) (tried flags step)
      world := by
  refine Safe.answered fun turn => ⟨trivial, ?_⟩
  show Safe _ _ _ (if (stepEffect restoration turn world step).1 then _ else _)
    (stepEffect restoration turn world step).2
  cases hdone : (stepEffect restoration turn world step).1 with
  | true => exact h turn hdone
  | false => exact h' turn hdone

/-- A step, and what follows it where it works. -/
theorem safe_triedThen {call : Unit → RestoreCall Double Unit}
    (h : ∀ turn, (stepEffect restoration turn world step).1 = true →
      Safe (restoreEffect restoration) (fun _ => True) (EndsWith ok thrown) (call ())
        (stepEffect restoration turn world step).2)
    (h' : ∀ turn, (stepEffect restoration turn world step).1 = false →
      thrown flags (stepEffect restoration turn world step).2) :
    Safe (restoreEffect restoration) (fun _ => True) (EndsWith ok thrown)
      (tried flags step >>= call : RestoreCall Double Unit) world :=
  Safe.followed (safe_tried h h')

theorem Undoable.of_same (h : Undoable restoration start base flags world)
    {other : RestoreWorld Double} (hfolders : other.folders = world.folders)
    (hseed : other.seed = world.seed) (hindex : other.index = world.index) :
    Undoable restoration start base flags other where
  folders := hfolders ▸ h.folders
  seed := hseed ▸ h.seed
  seedNew := h.seedNew
  readable := hindex ▸ h.readable
  index := hindex ▸ h.index

variable {files : List (String × FileContent Double)}

/-- A file is written into the staging directory. -/
theorem safe_write (h : Undoable restoration start base nothingDone world)
    (hstaged : StagedFiles files world) (path : String) (content : FileContent Double) :
    Safe (restoreEffect restoration) (fun _ => True)
      (EndsWith (fun _ world => Undoable restoration start base nothingDone world ∧
        StagedFiles (put files path content) world) (Undoable restoration start base))
      (tried nothingDone (.write path content)) world := by
  obtain ⟨folder, hstage, rfl⟩ := hstaged
  have heffect : ∀ turn, stepEffect restoration turn world (.write path content)
      = (turn.works, if turn.works = false ∧ turn.progress = 0 then world
        else { world with stage := .folder ⟨put folder.files path content, some turn.now⟩ }) := by
    intro turn
    simp only [stepEffect, hstage]
  refine safe_tried (fun turn hdone => ?_) (fun turn _ => ?_)
  · rw [heffect] at hdone ⊢
    have hworks : ¬(turn.works = false ∧ turn.progress = 0) := by
      rintro ⟨hfails, -⟩
      exact Bool.false_ne_true (hfails.symm.trans hdone)
    dsimp only
    rw [if_neg hworks]
    exact ⟨h.of_same rfl rfl rfl, _, rfl, rfl⟩
  · rw [heffect]
    dsimp only
    split_ifs
    · exact h
    · exact h.of_same rfl rfl rfl

/-- The files that are written, after those that are there; none where a grant cannot be
    sealed. -/
def writtenFiles (restoration : Restoration Double) :
    List (String × List UInt8) → List (String × FileContent Double) →
      Option (List (String × FileContent Double))
  | [], files => some files
  | entry :: rest, files =>
    (restoredFile restoration entry).bind fun content =>
      writtenFiles restoration rest (put files entry.1 content)

theorem safe_writeFiles (entries : List (String × List UInt8))
    (h : Undoable restoration start base nothingDone world) (hstaged : StagedFiles files world) :
    Safe (restoreEffect restoration) (fun _ => True)
      (EndsWith (fun _ world => Undoable restoration start base nothingDone world ∧
        ∃ written, writtenFiles restoration entries files = some written ∧
          StagedFiles written world) (Undoable restoration start base))
      (writeFiles restoration entries) world := by
  induction entries generalizing world files with
  | nil => exact ⟨h, files, rfl, hstaged⟩
  | cons entry rest ih =>
    unfold writeFiles writtenFiles
    cases hcontent : restoredFile restoration entry with
    | none => exact h
    | some content =>
      refine Safe.followed ?_
      show Safe _ _ _ (pure content : RestoreCall Double (FileContent Double)) world
      refine Safe.next (safe_write h hstaged entry.1 content) (fun _ world hend => ?_)
        fun _ _ hend => hend
      exact ih hend.1 hend.2

/-! ### The index and the directory -/

variable {index : CapsulesIndex} {left : IndexFile}

/-- A change of the index writes it, or leaves it as it was or as it was read. -/
theorem changeIndex_cases (change : CapsulesIndex → CapsulesIndex) {turn : Turn}
    (h : readUnlocked turn.now world.directories world.index = some (index, left)) :
    ∃ file, changeIndex world turn change = (turn.works, { world with index := file }) ∧
      (file = .stored (change index) ∨ turn.works = false ∧ (file = world.index ∨ file = left)) := by
  unfold changeIndex
  rw [h]
  dsimp only
  cases hworks : turn.works with
  | true => exact ⟨_, rfl, .inl rfl⟩
  | false =>
    rw [if_neg Bool.false_ne_true]
    split
    · exact ⟨world.index, rfl, .inr ⟨rfl, .inl rfl⟩⟩
    · exact ⟨left, rfl, .inr ⟨rfl, .inr rfl⟩⟩
    · exact ⟨_, rfl, .inl rfl⟩

/-- A change of the index that keeps it near the one before, and what is known where it works. -/
theorem safe_changeIndex (hbegun : Begun restoration start base)
    (h : Undoable restoration start base flags world)
    {change : Turn → CapsulesIndex → CapsulesIndex}
    (heffect : ∀ turn, stepEffect restoration turn world step = changeIndex world turn (change turn))
    (hchange : ∀ turn index left,
      readUnlocked turn.now world.directories world.index = some (index, left) →
      Near restoration.owner base index → Near restoration.owner base (change turn index)) :
    Safe (restoreEffect restoration) (fun _ => True)
      (EndsWith (fun _ after => Undoable restoration start base flags after ∧
        after.folders = world.folders ∧ ∃ turn index, after.index = .stored (change turn index))
        (Undoable restoration start base)) (tried flags step) world := by
  have hafter : ∀ turn, ∃ file, stepEffect restoration turn world step
        = (turn.works, { world with index := file }) ∧
      Undoable restoration start base flags { world with index := file } ∧
      (turn.works = true → ∃ index, file = .stored (change turn index)) := by
    intro turn
    obtain ⟨index, left, hread, hleft, hleftReadable, hindex⟩ := h.read hbegun turn.now
    obtain ⟨file, hfile, hcases⟩ := changeIndex_cases (change turn) hread
    refine ⟨file, (heffect turn).trans hfile, ?_, ?_⟩
    · have hnear : file.isUnreadable = false ∧ Near restoration.owner base file.index := by
        rcases hcases with rfl | ⟨-, rfl | rfl⟩
        · exact ⟨rfl, (hchange turn index left hread hindex).stored hbegun.inLine hbegun.isNew⟩
        · exact ⟨h.readable, h.index⟩
        · exact ⟨hleftReadable, hleft ▸ hindex⟩
      exact ⟨h.folders, h.seed, h.seedNew, hnear.1, hnear.2⟩
    · intro hworks
      rcases hcases with rfl | ⟨hfails, -⟩
      · exact ⟨index, rfl⟩
      · rw [hworks] at hfails
        cases hfails
  refine safe_tried (fun turn hdone => ?_) (fun turn _ => ?_)
  · obtain ⟨file, heq, hundoable, hstored⟩ := hafter turn
    rw [heq] at hdone ⊢
    obtain ⟨index, hindex⟩ := hstored hdone
    exact ⟨hundoable, rfl, turn, index, hindex⟩
  · obtain ⟨file, heq, hundoable, -⟩ := hafter turn
    rw [heq]
    exact hundoable

/-- An upsert of the capsule. -/
theorem Near.upsert (h : Near restoration.owner base index) (now : ℤ) :
    Near restoration.owner base ((restoreUpsert restoration).apply now index) := by
  constructor
  · intro key hkey
    show lookup (put index.capsules restoration.owner _) key = _
    rw [lookup_put, if_neg (Ne.symm hkey)]
    exact h.others key hkey
  · refine h.active.imp id fun hboth => ⟨hboth.1, ?_⟩
    show contains (put index.capsules restoration.owner _) restoration.owner = true
    unfold contains
    rw [lookup_put, if_pos rfl]
    rfl

theorem contains_upsert (now : ℤ) (index : CapsulesIndex) :
    contains (IndexFile.stored ((restoreUpsert restoration).apply now index)).index.capsules
      restoration.owner = true := by
  show contains (put index.capsules restoration.owner _) restoration.owner = true
  unfold contains
  rw [lookup_put, if_pos rfl]
  rfl

/-- The selection of the capsule. -/
theorem Near.setActive (h : Near restoration.owner base index)
    (hcontains : contains index.capsules restoration.owner = true) :
    Near restoration.owner base { index with activePubKeyHex := some restoration.owner } :=
  ⟨h.others, .inr ⟨rfl, hcontains⟩⟩

/-- The entry of the capsule is still there when the index is read. -/
theorem Undoable.contains_read (h : Undoable restoration start base flags world)
    (hbegun : Begun restoration start base)
    (hcontains : contains world.index.index.capsules restoration.owner = true) {now : ℤ}
    (hread : readUnlocked now world.directories world.index = some (index, left)) :
    contains index.capsules restoration.owner = true := by
  obtain ⟨entry, hentry⟩ := Option.isSome_iff_exists.mp hcontains
  rw [(readUnlocked_eq_some hread).1]
  exact contains_of_lookup (lookup_repaired hentry (h.backed hbegun))

theorem safe_enter (hbegun : Begun restoration start base)
    (h : Undoable restoration start base flags world)
    (hfiles : HasFiles restoration.owner files world) :
    Safe (restoreEffect restoration) (fun _ => True)
      (EndsWith (fun _ => HasFiles restoration.owner files) (Undoable restoration start base))
      (do
        tried flags .upsert
        tried flags .setActive : RestoreCall Double Unit) world := by
  refine Safe.next (safe_changeIndex hbegun h (fun _ => rfl) fun turn _ _ _ hindex =>
    hindex.upsert turn.now) (fun _ entered hend => ?_) fun _ _ hend => hend
  obtain ⟨hundoable, hfolders, turn, index, hindex⟩ := hend
  have hcontains : contains entered.index.index.capsules restoration.owner = true := by
    rw [hindex]
    exact contains_upsert turn.now index
  refine Safe.ends (safe_changeIndex hbegun hundoable (fun _ => rfl)
    fun _ _ _ hread hindex => hindex.setActive (hundoable.contains_read hbegun hcontains hread))
    (fun _ selected hend => ?_) fun _ _ hend => hend
  obtain ⟨folder, hlookup, hsame⟩ := hfiles
  exact ⟨folder, by rw [hend.2.1, hfolders, hlookup], hsame⟩

/-- What the flag of the seed says of the seed before. -/
structure SeedFlag (restoration : Restoration Double) (start : RestoreWorld Double)
    (seedStored : Bool) : Prop where
  new : seedStored = true → start.seed = none
  old : seedStored = false → start.seed = some restoration.seed

variable {seedStored : Bool}

theorem SeedFlag.undoable (h : SeedFlag restoration start seedStored)
    (hundoable : Undoable restoration start base nothingDone world) :
    Undoable restoration start base ⟨seedStored, false⟩ world where
  folders := .inl (hundoable.folders.resolve_right fun hnew => Bool.false_ne_true hnew.1)
  seed := .inl (hundoable.seed.resolve_right Bool.false_ne_true)
  seedNew := h.new
  readable := hundoable.readable
  index := hundoable.index

/-- The seed is stored. -/
theorem SeedFlag.stored (h : SeedFlag restoration start seedStored)
    (hundoable : Undoable restoration start base ⟨seedStored, false⟩ world) :
    Undoable restoration start base ⟨seedStored, false⟩
      { world with seed := some restoration.seed } where
  folders := hundoable.folders
  seed := by
    cases seedStored with
    | true => exact .inr rfl
    | false => exact .inl (h.old rfl).symm
  seedNew := hundoable.seedNew
  readable := hundoable.readable
  index := hundoable.index

variable {folder : Folder Double}

/-- The staging directory takes the place of the one of the capsule. -/
theorem Undoable.publish (h : Undoable restoration start base ⟨seedStored, false⟩ world)
    (hfiles : folder.directory.authoritative = true) :
    Undoable restoration start base ⟨seedStored, true⟩ (world.publish restoration.owner folder) where
  folders := by
    have hsame := h.folders.resolve_right fun hnew => Bool.false_ne_true hnew.1
    refine .inr ⟨rfl, folder, hfiles, ?_⟩
    show put world.folders restoration.owner folder = _
    rw [hsame]
  seed := h.seed
  seedNew := h.seedNew
  readable := h.readable
  index := h.index

theorem safe_publishCapsule (hbegun : Begun restoration start base)
    (h : Undoable restoration start base nothingDone world)
    (hflag : SeedFlag restoration start seedStored) (hstaged : StagedFiles files world)
    (hfiles : ["capsule_state.json", "ledger.json", "capsule-backup.v1.json"].any
      (contains files) = true) :
    Safe (restoreEffect restoration) (fun _ => True)
      (EndsWith (fun _ => HasFiles restoration.owner files) (Undoable restoration start base))
      (publishCapsule seedStored) world := by
  have hbefore := hflag.undoable h
  unfold publishCapsule
  -- The seed is stored, or the step fails before or after that.
  have hstored : Safe (restoreEffect restoration) (fun _ => True)
      (EndsWith (fun _ world => Undoable restoration start base ⟨seedStored, false⟩ world ∧
        StagedFiles files world) (Undoable restoration start base))
      (tried ⟨seedStored, false⟩ .storeSeed) world := by
    refine safe_tried (fun turn hdone => ?_) (fun turn _ => ?_)
    · have hworks : ¬(turn.works = false ∧ turn.progress = 0) := by
        rintro ⟨hfails, -⟩
        exact Bool.false_ne_true (hfails.symm.trans hdone)
      unfold stepEffect
      dsimp only
      rw [if_neg hworks]
      exact ⟨hflag.stored hbefore, hstaged⟩
    · unfold stepEffect
      dsimp only
      split_ifs
      · exact hbefore
      · exact hflag.stored hbefore
  refine Safe.next hstored (fun _ world hend => ?_)
    fun _ _ hend => hend
  obtain ⟨hundoable, folder, hstage, rfl⟩ := hend
  refine safe_triedThen (fun _ _ => ?_) fun _ _ => hundoable
  refine Safe.answered fun turn => ⟨trivial, ?_⟩
  refine Safe.ite (fun _ => hundoable) (fun _ => ?_)
  have heffect : ∀ turn, stepEffect restoration turn world .publish =
      if turn.works then (true, world.publish restoration.owner folder) else (false, world) := by
    intro turn
    simp only [stepEffect, hstage]
  show Safe _ _ _ _ world
  refine safe_triedThen (fun turn hdone => ?_) fun turn hfails => ?_
  · rw [heffect] at hdone ⊢
    split_ifs at hdone ⊢
    refine safe_enter hbegun (hundoable.publish hfiles) ⟨folder, ?_, rfl⟩
    show lookup (put world.folders restoration.owner folder) restoration.owner = _
    rw [lookup_put, if_pos rfl]
  · rw [heffect] at hfails ⊢
    split_ifs at hfails ⊢
    exact hundoable

/-! ### What is restored -/

/-- The files that are written of every capsule. -/
def snapshotFiles : List String := ["capsule_state.json", "ledger.json", "capsule-backup.v1.json"]

/-- What a file of the backup is restored as: a grant is sealed and otherwise as it was. -/
def RestoredAs (restoration : Restoration Double) (path : String) (bytes : List UInt8)
    (content : FileContent Double) : Prop :=
  if grantSuffix.toList.isSuffixOf path.toList then
    ∃ control, restoration.tools.decode bytes = some (.obj control) ∧
      ∃ ended, content = .grant ended ∧ Sealed restoration.tools ended ∧
        ∀ member ∉ ["expires_at_ms", workspaceExecutionFlag restoration.tools ended],
          lookup ended member = lookup control member
  else content = .bytes bytes

variable (restoration) in
/-- The directory holds exactly the ledger and the files of the backup, beside the state. -/
structure Restored (folder : Folder Double) : Prop where
  ledger : lookup folder.files "ledger.json" = some (.ledger restoration.contents.ledgerJson)
  envelope : lookup folder.files "capsule-backup.v1.json" =
    some (.envelope restoration.contents.ledgerJson restoration.contents.isGenesis
      restoration.contents.isNeste)
  state : ∃ createdAt, lookup folder.files "capsule_state.json" =
    some (.state (restoredState restoration) createdAt restoration.seed.length)
  files : ∃ files, decodeBackupFiles restoration.contents.files = some files ∧
    ∀ path, (path ∈ snapshotFiles → lookup files path = none) ∧
      (path ∉ snapshotFiles →
        Option.Rel (RestoredAs restoration path) (lookup files path) (lookup folder.files path))

theorem sealed_of_seal {tools : GrantTools Double} {control ended : Members Double}
    {owner pluginId : String}
    (h : sealWorkspaceExecutionForRecovery tools control owner pluginId = some ended) :
    Sealed tools ended ∧ ∀ member ∉ ["expires_at_ms", workspaceExecutionFlag tools ended],
      lookup ended member = lookup control member := by
  unfold sealWorkspaceExecutionForRecovery at h
  split_ifs at h
  obtain rfl := Option.some.inj h
  generalize hflag : workspaceExecutionFlag tools control = flag
  have hnames : flag ≠ "version" ∧ flag ≠ "expires_at_ms" := by
    rw [← hflag, workspaceExecutionFlag]
    split_ifs <;> decide
  -- the version is as it was, and so is the flag
  have hsame : workspaceExecutionFlag tools (put (put control "expires_at_ms" (.num (.inl 0))) flag
      (.bool false)) = flag := by
    rw [workspaceExecutionFlag, lookup_put, if_neg hnames.1, lookup_put,
      if_neg (show ¬ "expires_at_ms" = "version" by decide)]
    exact hflag
  refine ⟨⟨?_, ?_⟩, fun member hmember => ?_⟩
  · rw [lookup_put, if_neg hnames.2, lookup_put, if_pos rfl]
  · rw [hsame, lookup_put, if_pos rfl]
  · rw [hsame] at hmember
    rw [lookup_put, if_neg, lookup_put, if_neg]
    · rintro rfl
      exact hmember List.mem_cons_self
    · rintro rfl
      exact hmember (List.mem_cons_of_mem _ List.mem_cons_self)

theorem restoredAs_of_file {entry : String × List UInt8} {content : FileContent Double}
    (h : restoredFile restoration entry = some content) :
    RestoredAs restoration entry.1 entry.2 content := by
  unfold restoredFile at h
  unfold RestoredAs
  split_ifs at h ⊢ with hgrant
  · split at h
    · rename_i control hcontrol
      obtain ⟨ended, hended, rfl⟩ := Option.map_eq_some_iff.mp h
      obtain ⟨hsealed, hothers⟩ := sealed_of_seal hended
      exact ⟨control, hcontrol, ended, rfl, hsealed, hothers⟩
    · cases h
  · exact (Option.some.inj h).symm

/-- **What is written of a file.** -/
theorem lookup_writtenFiles {entries : List (String × List UInt8)}
    {files written : List (String × FileContent Double)} (hnodup : (entries.map Prod.fst).Nodup)
    (h : writtenFiles restoration entries files = some written) (path : String) :
    (lookup entries path = none → lookup written path = lookup files path) ∧
      ∀ bytes, lookup entries path = some bytes →
        ∃ content, restoredFile restoration (path, bytes) = some content ∧
          lookup written path = some content := by
  induction entries generalizing files with
  | nil =>
    obtain rfl := Option.some.inj h
    exact ⟨fun _ => rfl, fun bytes hbytes => nomatch hbytes⟩
  | cons entry rest ih =>
    rw [List.map_cons, List.nodup_cons] at hnodup
    unfold writtenFiles at h
    obtain ⟨content, hcontent, hrest⟩ := Option.bind_eq_some_iff.mp h
    obtain ⟨hnone, hsome⟩ := ih hnodup.2 hrest
    rw [lookup_cons]
    split_ifs with hkey
    · subst hkey
      refine ⟨False.elim, fun bytes hbytes => ?_⟩
      obtain rfl := Option.some.inj hbytes
      refine ⟨content, hcontent, ?_⟩
      rw [hnone (lookup_eq_none.mpr hnodup.1), lookup_put, if_pos rfl]
    · refine ⟨fun hlookup => ?_, hsome⟩
      rw [hnone hlookup, lookup_put, if_neg hkey]

variable {files : List (String × List UInt8)}

theorem decodeFrom_spec {entries : List (String × String)} {total : ℕ}
    (h : decodeFrom total entries = some files) :
    files.map Prod.fst = entries.map Prod.fst ∧ ∀ entry ∈ files, isBackupPath entry.1 = true := by
  induction entries generalizing total files with
  | nil =>
    obtain rfl := Option.some.inj h
    exact ⟨rfl, fun entry hentry => nomatch hentry⟩
  | cons entry rest ih =>
    unfold decodeFrom at h
    split_ifs at h with hpath
    split at h
    · cases h
    · split_ifs at h
      obtain ⟨decoded, hdecoded, rfl⟩ := Option.map_eq_some_iff.mp h
      obtain ⟨hkeys, hall⟩ := ih hdecoded
      refine ⟨by simp [hkeys], ?_⟩
      rintro restored (_ | ⟨_, hrestored⟩)
      · exact eq_true_of_ne_false hpath
      · exact hall restored hrestored

theorem not_isBackupPath_snapshot : ∀ path ∈ snapshotFiles, isBackupPath path = false := by
  decide

/-- Some files, and the ledger. -/
def withLedger (restoration : Restoration Double) (files : List (String × FileContent Double)) :
    List (String × FileContent Double) :=
  put (put files "ledger.json" (.ledger restoration.contents.ledgerJson)) "capsule-backup.v1.json"
    (.envelope restoration.contents.ledgerJson restoration.contents.isGenesis
      restoration.contents.isNeste)

/-- The files of a restored capsule. -/
def restoredFiles (restoration : Restoration Double) (written : List (String × FileContent Double))
    (createdAt : ℤ) : List (String × FileContent Double) :=
  withLedger restoration (put written "capsule_state.json"
    (.state (restoredState restoration) createdAt restoration.seed.length))

theorem contains_withLedger (files : List (String × FileContent Double)) :
    ["capsule_state.json", "ledger.json", "capsule-backup.v1.json"].any
      (contains (withLedger restoration files)) = true := by
  rw [List.any_eq_true]
  refine ⟨"capsule-backup.v1.json", by simp, ?_⟩
  unfold contains withLedger
  rw [lookup_put, if_pos rfl]
  rfl

theorem restored_of_files (hfiles : decodeBackupFiles restoration.contents.files = some files)
    {written : List (String × FileContent Double)}
    (hwritten : writtenFiles restoration files [] = some written) {createdAt : ℤ}
    (hfolder : folder.files = restoredFiles restoration written createdAt) :
    Restored restoration folder := by
  have hdecoded : decodeFrom 0 restoration.contents.files = some files := by
    unfold decodeBackupFiles at hfiles
    split_ifs at hfiles
    exact hfiles
  obtain ⟨hkeys, hpaths⟩ := decodeFrom_spec hdecoded
  have hnodup : (files.map Prod.fst).Nodup := hkeys ▸ restoration.contents.distinct
  refine ⟨?_, ?_, ⟨createdAt, ?_⟩, files, hfiles, fun path => ⟨fun hpath => ?_, fun hpath => ?_⟩⟩
  · rw [hfolder]
    simp [restoredFiles, withLedger, lookup_put]
  · rw [hfolder]
    simp [restoredFiles, withLedger, lookup_put]
  · rw [hfolder]
    simp [restoredFiles, withLedger, lookup_put]
  · refine lookup_eq_none.mpr fun hmem => ?_
    obtain ⟨entry, hentry, rfl⟩ := List.mem_map.mp hmem
    have hnot := not_isBackupPath_snapshot entry.1 hpath
    rw [hpaths entry hentry] at hnot
    cases hnot
  · obtain ⟨hnone, hsome⟩ := lookup_writtenFiles hnodup hwritten path
    have hlookup : lookup folder.files path = lookup written path := by
      simp only [snapshotFiles, List.mem_cons, List.not_mem_nil, or_false, not_or] at hpath
      rw [hfolder, restoredFiles, withLedger, lookup_put, if_neg (Ne.symm hpath.2.2), lookup_put,
        if_neg (Ne.symm hpath.2.1), lookup_put, if_neg (Ne.symm hpath.1)]
    rw [hlookup]
    cases hentry : lookup files path with
    | none =>
      rw [hnone hentry]
      exact Option.Rel.none
    | some bytes =>
      obtain ⟨content, hcontent, hput⟩ := hsome bytes hentry
      have hrestored := restoredAs_of_file hcontent
      rw [hput]
      exact Option.Rel.some hrestored

/-! ### The call -/

variable (restoration) in
/-- The directory of the capsule is restored. -/
def Complete (world : RestoreWorld Double) : Prop :=
  ∃ folder, lookup world.folders restoration.owner = some folder ∧ Restored restoration folder

theorem safe_writeLedgerSnapshot (h : Undoable restoration start base nothingDone world)
    {files : List (String × FileContent Double)} (hstaged : StagedFiles files world) :
    Safe (restoreEffect restoration) (fun _ => True)
      (EndsWith (fun _ world => Undoable restoration start base nothingDone world ∧
        StagedFiles (withLedger restoration files) world) (Undoable restoration start base))
      (writeLedgerSnapshot restoration) world := by
  unfold writeLedgerSnapshot
  refine Safe.ite (fun _ => h) (fun _ => ?_)
  refine Safe.next (safe_write h hstaged "ledger.json" _) (fun _ world hend => ?_)
    fun _ _ hend => hend
  exact safe_write hend.1 hend.2 "capsule-backup.v1.json" _

theorem safe_restoreCore (hbegun : Begun restoration start base)
    (h : Undoable restoration start base nothingDone world) (hstaged : StagedFiles [] world)
    (hflag : SeedFlag restoration start seedStored)
    (hfiles : decodeBackupFiles restoration.contents.files = some files) :
    Safe (restoreEffect restoration) (fun _ => True)
      (EndsWith (fun _ => Complete restoration) (Undoable restoration start base))
      (restoreCore restoration files seedStored) world := by
  unfold restoreCore
  refine Safe.next (safe_writeFiles files h hstaged) (fun _ world hend => ?_)
    fun _ _ hend => hend
  obtain ⟨hundoable, written, hwritten, hstaged⟩ := hend
  refine Safe.answered fun turn => ⟨trivial, ?_⟩
  show Safe _ _ _ _ world
  refine Safe.next (safe_write hundoable hstaged "capsule_state.json" _) (fun _ world hend => ?_)
    fun _ _ hend => hend
  refine Safe.next (safe_writeLedgerSnapshot hend.1 hend.2) (fun _ world hend => ?_)
    fun _ _ hend => hend
  refine Safe.ends (safe_publishCapsule hbegun hend.1 hflag hend.2 (contains_withLedger _))
    (fun _ world hend => ?_) fun _ _ hend => hend
  obtain ⟨folder, hlookup, hfolder⟩ := hend
  exact ⟨folder, hlookup, restored_of_files hfiles hwritten hfolder⟩

theorem safe_restoreWithPackages (hbegun : Begun restoration start base)
    (h : Undoable restoration start base nothingDone world) (hstaged : StagedFiles [] world)
    (hflag : SeedFlag restoration start seedStored)
    (hfiles : decodeBackupFiles restoration.contents.files = some files) :
    Safe (restoreEffect restoration) (fun _ => True)
      (EndsWith (fun _ => Complete restoration) (Undoable restoration start base))
      (restoreWithPackages restoration files seedStored) world := by
  unfold restoreWithPackages
  have hcore := safe_restoreCore hbegun h hstaged hflag hfiles
  refine Safe.ite (fun _ => hcore) (fun _ => ?_)
  exact safe_triedThen (fun _ _ => hcore) fun _ _ => h

theorem safe_restoreStaged (hbegun : Begun restoration start base)
    (hfolders : world.folders = start.folders) (hseed : world.seed = start.seed)
    (hreadable : world.index.isUnreadable = false) (hsame : SameIndex world.index.index base)
    (hmatches : ¬start.seed.any (· ≠ restoration.seed) = true)
    (hfiles : decodeBackupFiles restoration.contents.files = some files) :
    Safe (restoreEffect restoration) (fun _ => True)
      (EndsWith (fun _ => Complete restoration) (fun _ => Unchanged start))
      (restoreStaged restoration files start.seed base) world := by
  have hflag : SeedFlag restoration start start.seed.isNone := by
    constructor
    · exact Option.isNone_iff_eq_none.mp
    · intro hsome
      cases hstored : start.seed with
      | none =>
        rw [hstored] at hsome
        cases hsome
      | some seed =>
        rw [hstored] at hmatches
        simpa using hmatches
  have hundoable : ∀ stage, Undoable restoration start base nothingDone
      { world with stage := stage } := fun _ =>
    ⟨.inl hfolders, .inl hseed, fun hnew => absurd hnew Bool.false_ne_true, hreadable,
      Near.of_same hsame⟩
  unfold restoreStaged
  refine safe_triedThen (fun turn hdone => ?_) fun turn hfails => ?_
  · unfold stepEffect at hdone ⊢
    dsimp only at hdone ⊢
    split_ifs at hdone ⊢
    have hstaged : StagedFiles [] { world with stage := .folder ⟨[], none⟩ } :=
      ⟨_, rfl, rfl⟩
    have hhandled := Safe.handled (Safe.ends
      (safe_restoreWithPackages hbegun (hundoable _) hstaged hflag hfiles)
      (fun _ _ hend => hend) fun flags _ hend => safe_undo hbegun hend)
    exact Safe.next hhandled (fun _ _ hend => fun _ => ⟨trivial, hend⟩) fun _ _ hend => hend
  · unfold stepEffect at hfails ⊢
    dsimp only at hfails ⊢
    split_ifs at hfails ⊢
    exact hbegun.unchanged hfolders hseed hsame

/-- The call is turned away before it writes anything. -/
def Refused (restoration : Restoration Double) (start : RestoreWorld Double) : Prop :=
  decodeBackupFiles restoration.contents.files = none ∨ start.parentIsLink = true ∨
    contains start.folders restoration.owner = true ∨ start.stage = .other ∨
    start.seed.any (· ≠ restoration.seed) = true

/-- A read of the index where the owner has no entry yet. -/
theorem begun_of_read {now : ℤ}
    (hread : readUnlocked now start.directories start.index = some (base, left))
    (habsent : contains start.folders restoration.owner = false)
    (hnew : contains start.index.index.capsules restoration.owner = false) :
    Begun restoration start base := by
  obtain ⟨-, -, hbase⟩ := readUnlocked_left (directories_nodup start) hread
  have hinLine := inLine_repaired (directories_nodup start) now start.index.index
  rw [← hbase] at hinLine
  refine ⟨⟨now, hbase⟩, hinLine, ?_, habsent⟩
  have hentry : lookup start.index.index.capsules restoration.owner = none := by
    unfold contains at hnew
    exact Option.isNone_iff_eq_none.mp (by rw [← Option.not_isSome, hnew]; rfl)
  have hdirectory : lookup start.directories restoration.owner = none := by
    unfold contains at habsent
    rw [lookup_directories, Option.map_eq_none_iff]
    exact Option.isNone_iff_eq_none.mp (by rw [← Option.not_isSome, habsent]; rfl)
  rw [hbase]
  show lookup (repairedCapsules now start.directories start.index.index.capsules) _ = none
  rw [lookup_repairedCapsules now (directories_nodup start), hentry, hdirectory]
  exact ite_self _

theorem eq_some_of_elim {α : Type} {answer : Option α} {a : α}
    (h : (answer.elim (.error nothingDone) .ok : Except RestoreFlags α) = .ok a) :
    answer = some a := by
  cases answer with
  | none => cases h
  | some b => exact congrArg some (Except.ok.inj h)

theorem safe_clearStage :
    Safe (restoreEffect restoration) (fun _ => True)
      (EndsWith (fun _ after => (start.stage ≠ .other) ∧ after.folders = start.folders ∧
        after.seed = start.seed ∧ after.index = start.index) fun _ => Unchanged start)
      (tried nothingDone .clearStage) start := by
  refine safe_tried (fun turn hdone => ?_) fun turn hfails => ?_
  · unfold stepEffect at hdone ⊢
    dsimp only at hdone ⊢
    split at hdone
    · rename_i hstage
      rw [hstage]
      exact ⟨nofun, rfl, rfl, rfl⟩
    · rename_i hstage
      rw [hstage]
      split_ifs at hdone ⊢
      exact ⟨nofun, rfl, rfl, rfl⟩
    · cases hdone
  · unfold stepEffect at hfails ⊢
    dsimp only at hfails ⊢
    split
    · exact Unchanged.of_stage rfl rfl rfl
    · split_ifs
      · exact Unchanged.of_stage rfl rfl rfl
      · exact Unchanged.of_stage rfl rfl rfl
    · exact Unchanged.of_stage rfl rfl rfl

theorem safe_restoreFiles (hmeets : Refused restoration start ∨
      contains start.index.index.capsules restoration.owner = false)
    (hfiles : decodeBackupFiles restoration.contents.files = some files) :
    Safe (restoreEffect restoration) (fun _ => True)
      (EndsWith (fun _ => Complete restoration) fun _ => Unchanged start)
      (restoreFiles restoration files) start := by
  have hsame : Unchanged start start := Unchanged.of_stage rfl rfl rfl
  unfold restoreFiles
  refine Safe.answered fun _ => ⟨trivial, ?_⟩
  refine Safe.ite (fun _ => hsame) fun hsafe => ?_
  show Safe _ _ _ _ start
  obtain ⟨hparent, habsent⟩ := Bool.or_eq_false_iff.mp (Bool.eq_false_iff.mpr hsafe)
  refine Safe.next safe_clearStage (fun _ world hworld => ?_) fun _ _ hend => hend
  obtain ⟨hstage, hfolders, hseed, hindex⟩ := hworld
  have hcleared : Unchanged start world := Unchanged.of_stage hfolders hseed hindex
  refine Safe.answered fun turn => ⟨trivial, ?_⟩
  show Safe _ _ _ _ world
  refine Safe.learned (fun existingSeed hloaded => ?_) fun _ _ => hcleared
  have hexisting : existingSeed = start.seed := by
    have hanswer := eq_some_of_elim hloaded
    unfold restoreEffect at hanswer
    dsimp only at hanswer
    split_ifs at hanswer
    exact (Option.some.inj hanswer).symm.trans hseed
  subst hexisting
  refine Safe.ite (fun _ => hcleared) fun hmatches => ?_
  -- What would have turned the call away has been looked at.
  have hnew : contains start.index.index.capsules restoration.owner = false := by
    refine hmeets.resolve_left ?_
    rintro (hnone | hlink | hpresent | hother | hdifferent)
    · rw [hfiles] at hnone
      cases hnone
    · exact Bool.false_ne_true (hparent.symm.trans hlink)
    · exact Bool.false_ne_true (habsent.symm.trans hpresent)
    · exact hstage hother
    · exact hmatches hdifferent
  refine Safe.answered fun turn => ⟨trivial, ?_⟩
  have hdirectories : world.directories = start.directories := by
    unfold RestoreWorld.directories
    rw [hfolders]
  cases hread : readUnlocked turn.now start.directories start.index with
  | none =>
    have heffect : restoreEffect restoration .readIndex turn world = (none, world) := by
      simp only [restoreEffect, hdirectories, hindex, hread]
    rw [heffect]
    exact Safe.learned (fun _ hfalse => nomatch hfalse) fun _ _ => hcleared
  | some read =>
    obtain ⟨base, left⟩ := read
    obtain ⟨hleft, hreadable, hbase⟩ := readUnlocked_left (directories_nodup start) hread
    have hbegun := begun_of_read hread habsent hnew
    have hleftSame : SameIndex left.index base := hleft ▸ SameIndex.refl _
    have heffect : restoreEffect restoration .readIndex turn world =
        if turn.works then (some base, { world with index := left })
        else (none, if turn.progress = 0 then world else { world with index := left }) := by
      simp only [restoreEffect, hdirectories, hindex, hread]
    rw [heffect]
    split_ifs
    · refine Safe.learned (fun indexBefore hbefore => ?_) fun _ hfalse => nomatch hfalse
      obtain rfl := Option.some.inj (eq_some_of_elim hbefore)
      refine safe_restoreStaged hbegun ?_ ?_ ?_ ?_ hmatches hfiles
      exacts [hfolders, hseed, hreadable, hleftSame]
    · exact Safe.learned (fun _ hfalse => nomatch hfalse) fun _ _ => hcleared
    · exact Safe.learned (fun _ hfalse => nomatch hfalse) fun _ _ =>
        hbegun.unchanged hfolders hseed hleftSame

/-- **Every run of a restore** that starts from an index without the capsule, or is turned away. -/
theorem safe_restoreCompleteBackup (hmeets : Refused restoration start ∨
      contains start.index.index.capsules restoration.owner = false) :
    Safe (restoreEffect restoration) (fun _ => True)
      (EndsWith (fun _ => Complete restoration) fun _ => Unchanged start)
      (restoreCompleteBackup restoration) start := by
  unfold restoreCompleteBackup
  refine Safe.learned (fun files hfiles => ?_) fun _ _ => Unchanged.of_stage rfl rfl rfl
  exact safe_restoreFiles hmeets (eq_some_of_elim hfiles)

end Forward

/-! ### A run that fails -/

section Failing

variable {restoration : Restoration Double} {start : RestoreWorld Double}
variable {flags : RestoreFlags} {world : RestoreWorld Double}

def fails : Turn := ⟨false, 0, 0⟩

def works : Turn := ⟨true, 0, 0⟩

variable {step : RestoreStep Double}

theorem reaches_triedFails (h : stepEffect restoration fails world step = (false, world)) :
    Reaches (restoreEffect restoration) (tried flags step) world (.error flags) world := by
  refine Reaches.answered fails ?_
  show Reaches _ (if (stepEffect restoration fails world step).1 then _ else _)
    (stepEffect restoration fails world step).2 _ _
  rw [h]
  exact Reaches.done _ _

theorem reaches_triedWorks {after : RestoreWorld Double}
    (h : stepEffect restoration works world step = (true, after)) :
    Reaches (restoreEffect restoration) (tried flags step) world (.ok ()) after := by
  refine Reaches.answered works ?_
  show Reaches _ (if (stepEffect restoration works world step).1 then _ else _)
    (stepEffect restoration works world step).2 _ _
  rw [h]
  exact Reaches.done _ _

variable {folder : Folder Double}

/-- A write into the staging directory may fail and leave nothing. -/
theorem write_fails (hstage : world.stage = .folder folder) (path : String)
    (content : FileContent Double) :
    stepEffect restoration fails world (.write path content) = (false, world) := by
  simp only [stepEffect, hstage, fails, and_self, if_true]

/-- **The first step in the staging directory may fail.** -/
theorem reaches_restoreFails (hstage : world.stage = .folder folder)
    (files : List (String × List UInt8)) (seedStored : Bool) :
    Reaches (restoreEffect restoration) (restoreWithPackages restoration files seedStored) world
      (.error nothingDone) world := by
  have hcore : Reaches (restoreEffect restoration) (restoreCore restoration files seedStored) world
      (.error nothingDone) world := by
    unfold restoreCore
    cases files with
    | nil =>
      refine Reaches.andThen Reaches.pure ?_
      refine Reaches.answered fails ?_
      exact Reaches.thrown (reaches_triedFails (write_fails hstage _ _))
    | cons entry rest =>
      refine Reaches.thrown ?_
      unfold writeFiles
      cases restoredFile restoration entry with
      | none => exact Reaches.thrown (Reaches.done _ _)
      | some content =>
        refine Reaches.andThen Reaches.pure ?_
        exact Reaches.thrown (reaches_triedFails (write_fails hstage _ _))
  unfold restoreWithPackages
  split_ifs
  · exact hcore
  · exact Reaches.thrown (reaches_triedFails rfl)

/-- What the undoing leaves where nothing was done: the entry of the capsule is gone. -/
theorem reaches_undo (restoration : Restoration Double) (base : CapsulesIndex)
    {world : RestoreWorld Double} (hreadable : world.index.isUnreadable = false) :
    ∃ after, Reaches (restoreEffect restoration) (undo restoration base nothingDone) world
        (.error nothingDone) after ∧ after.folders = world.folders ∧
      lookup after.index.index.capsules restoration.owner = none := by
  obtain ⟨current, left, hread⟩ := readUnlocked_isSome works.now world.directories hreadable
  obtain ⟨-, hleft, -⟩ := readUnlocked_left (directories_nodup world) hread
  obtain ⟨latest, left', hread'⟩ := readUnlocked_isSome works.now
    ({ world with index := left } : RestoreWorld Double).directories hleft
  refine ⟨{ world with
    index := .stored (preservingActive latest (undoneIndex restoration.owner base current))
    stage := .missing }, ?_, rfl, ?_⟩
  · unfold undo
    refine Reaches.andThen Reaches.pure ?_
    refine Reaches.answered works ?_
    rw [readAgain_eq hread]
    refine Reaches.answered works ?_
    rw [writeIndex_eq hread']
    exact Reaches.answered works (Reaches.done _ _)
  · show lookup (preservingActive latest (undoneIndex restoration.owner base current)).capsules _ = _
    rw [preservingActive_capsules]
    show lookup (remove current.capsules restoration.owner) _ = _
    rw [lookup_remove, if_pos rfl]

variable (restoration) in
theorem clearStage_works (hstage : start.stage ≠ .other) :
    ∃ after, stepEffect restoration works start .clearStage = (true, after) ∧
      after.folders = start.folders ∧ after.seed = start.seed ∧ after.index = start.index := by
  unfold stepEffect
  dsimp only
  split
  · exact ⟨start, rfl, rfl, rfl, rfl⟩
  · exact ⟨_, rfl, rfl, rfl, rfl⟩
  · rename_i hother
    exact absurd hother hstage

/-- **A restore over an entry without a directory may fail**, and then the entry is gone. -/
theorem reaches_entryLost (hnot : ¬Refused restoration start)
    (hcontains : contains start.index.index.capsules restoration.owner = true) :
    ∃ after, Reaches (restoreEffect restoration) (restoreCompleteBackup restoration) start
        (.error nothingDone) after ∧ after.folders = start.folders ∧
      lookup after.index.index.capsules restoration.owner = none := by
  simp only [Refused, not_or] at hnot
  obtain ⟨hfiles, hparent, habsent, hstage, hmatches⟩ := hnot
  obtain ⟨files, hfiles⟩ := Option.ne_none_iff_exists'.mp hfiles
  have hreadable : start.index.isUnreadable = false := by
    cases hindex : start.index with
    | unreadable =>
      rw [hindex] at hcontains
      cases hcontains
    | missing => rfl
    | stored _ => rfl
  obtain ⟨cleared, hclear, hfolders, hseed, hindex⟩ := clearStage_works restoration hstage
  have hdirectories : cleared.directories = start.directories := by
    unfold RestoreWorld.directories
    rw [hfolders]
  obtain ⟨base, left, hread⟩ := readUnlocked_isSome works.now start.directories hreadable
  obtain ⟨-, hleft, -⟩ := readUnlocked_left (directories_nodup start) hread
  have heffect : restoreEffect restoration .readIndex works cleared =
      (some base, { cleared with index := left }) := by
    simp only [restoreEffect, hdirectories, hindex, hread]
    exact if_pos rfl
  let staged : RestoreWorld Double := { cleared with stage := .folder ⟨[], none⟩, index := left }
  have hstaged : staged.index.isUnreadable = false := hleft
  obtain ⟨after, hundo, hafter, hlost⟩ := reaches_undo restoration base hstaged
  refine ⟨after, ?_, hafter.trans hfolders, hlost⟩
  have hdestination : restoreEffect restoration .destinationUnsafe works start = (false, start) := by
    have hsafe : (start.parentIsLink || contains start.folders restoration.owner) = false :=
      Bool.or_eq_false_iff.mpr ⟨Bool.eq_false_iff.mpr hparent, Bool.eq_false_iff.mpr habsent⟩
    simp only [restoreEffect, hsafe]
  have hloaded : restoreEffect restoration .loadSeed works cleared = (some cleared.seed, cleared) :=
    rfl
  unfold restoreCompleteBackup
  refine Reaches.andThen (Reaches.known (a := files) (by rw [hfiles]; rfl)) ?_
  unfold restoreFiles
  refine Reaches.answered works ?_
  rw [hdestination]
  refine Reaches.andThen (reaches_triedWorks hclear) ?_
  refine Reaches.answered works ?_
  rw [hloaded]
  refine Reaches.andThen (Reaches.known (a := cleared.seed) rfl) ?_
  rw [if_neg (hseed ▸ hmatches)]
  refine Reaches.answered works ?_
  rw [heffect]
  refine Reaches.andThen (Reaches.known (a := base) rfl) ?_
  unfold restoreStaged
  have hcreate : stepEffect restoration works { cleared with index := left } .createStage
      = (true, staged) := rfl
  refine Reaches.andThen (reaches_triedWorks hcreate) ?_
  exact Reaches.thrown (Reaches.handled (reaches_restoreFails rfl files _) hundo)

end Failing

/-- A call that throws leaves everything as it was, and one that returns has restored the
    capsule. -/
structure AllOrNothing (restoration : Restoration Double) (start : RestoreWorld Double) : Prop where
  thrown : ∀ choices flags after,
    run (restoreEffect restoration) (restoreCompleteBackup restoration) choices start
      = (some (.error flags), after) → Unchanged start after
  returned : ∀ choices after,
    run (restoreEffect restoration) (restoreCompleteBackup restoration) choices start
      = (some (.ok ()), after) → Complete restoration after

/-- An entry whose directory is missing is there at every read. -/
theorem lookup_view {world : RestoreWorld Double} {owner : String}
    (habsent : lookup world.folders owner = none) (now : ℤ) :
    lookup (world.view now).capsules owner = lookup world.index.index.capsules owner := by
  have hdirectory : lookup world.directories owner = none := by
    rw [lookup_directories, habsent]
    rfl
  show lookup (repairedCapsules now world.directories world.index.index.capsules) owner = _
  rw [lookup_repairedCapsules now (directories_nodup world)]
  cases lookup world.index.index.capsules owner with
  | none =>
    rw [hdirectory]
    exact ite_self _
  | some entry =>
    refine if_pos ?_
    unfold backed
    rw [hdirectory]
    rfl

/-- The entry that a failed restore loses was there before. -/
theorem not_allOrNothing {restoration : Restoration Double} {start : RestoreWorld Double}
    (hnot : ¬Refused restoration start)
    (hcontains : contains start.index.index.capsules restoration.owner = true) :
    ¬AllOrNothing restoration start := by
  intro hatomic
  obtain ⟨after, hreaches, hfolders, hlost⟩ := reaches_entryLost hnot hcontains
  obtain ⟨choices, hrun⟩ := hreaches.run
  obtain ⟨now, hsame⟩ := (hatomic.thrown choices nothingDone after hrun).index 0
  have habsent : lookup start.folders restoration.owner = none := by
    have hfree : ¬contains start.folders restoration.owner = true := fun hpresent =>
      hnot (.inr (.inr (.inl hpresent)))
    exact Option.not_isSome_iff_eq_none.mp hfree
  have hentry := hsame.capsules restoration.owner
  rw [lookup_view (hfolders ▸ habsent), lookup_view habsent, hlost] at hentry
  unfold contains at hcontains
  rw [← hentry] at hcontains
  cases hcontains

/-- **A restore is all or nothing** exactly where it is turned away or the index has no entry of the
    capsule before. -/
theorem restore_atomic_iff (restoration : Restoration Double) (start : RestoreWorld Double) :
    AllOrNothing restoration start ↔
      Refused restoration start ∨
        contains start.index.index.capsules restoration.owner = false := by
  constructor
  · intro hatomic
    by_contra hneither
    rw [not_or] at hneither
    exact not_allOrNothing hneither.1 (eq_true_of_ne_false hneither.2) hatomic
  · intro hmeets
    have hsafe := safe_restoreCompleteBackup hmeets
    constructor
    · intro choices flags after hrun
      have hend := (safe_run True.intro hsafe choices).2 (.error flags) (by rw [hrun])
      rw [hrun] at hend
      exact hend
    · intro choices after hrun
      have hend := (safe_run True.intro hsafe choices).2 (.ok ()) (by rw [hrun])
      rw [hrun] at hend
      exact hend

/-! ### A capsule whose directory is gone -/

def goneOwner : String := String.ofList (List.replicate 64 'a')

/-- A backup without files, of a capsule with an entry. -/
def goneRestoration : Restoration ℤ where
  owner := goneOwner
  contents := ⟨"\x7b\x7d", some true, some false, [], List.nodup_nil, []⟩
  seed := List.replicate 32 1
  identityMode := rootOwner
  tools := ⟨fun _ => none, fun value number => value == number, fun _ _ _ => false⟩

/-- The index has the capsule, and there is no directory. -/
def goneWorld : RestoreWorld ℤ where
  parentIsLink := false
  folders := []
  distinct := List.nodup_nil
  stage := .missing
  seed := none
  index := .stored ⟨some goneOwner, [(goneOwner, ⟨goneOwner, 1, 1, true, false, rootOwner⟩)]⟩

/-- **The entry of a capsule is lost** where its restore fails. -/
theorem goneEntry_lost : ¬AllOrNothing goneRestoration goneWorld := by
  refine not_allOrNothing ?_ rfl
  rintro (hnone | hlink | hpresent | hother | hdifferent)
  · cases hnone
  · cases hlink
  · cases hpresent
  · cases hother
  · cases hdifferent

end BackupRestore

end Hivra
