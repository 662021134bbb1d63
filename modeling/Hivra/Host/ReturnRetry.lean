import Hivra.Host.WorkspaceActions

namespace Hivra

/-!
# A return that is interrupted

A returned checkpoint is restored file by file, the grant last, so that a return that stops in
between leaves the workspace assigned to the VPS.  The same return may then come again; but where
the packages of the two hosts differ, the local files have to prove the handoff it belongs to, and
these files are those that were already restored.

* `stopped_cases` — where a return may stop.
-/

/-! ### The writes of a return -/

/-- A file of a workspace with its new content. -/
inductive StateFileWrite
  | workspace (text : String)
  | effects (text : String)
  | execution (control : ExecutionControl)
  deriving DecidableEq

def StateFileWrite.write (store : WorkspaceStore) : StateFileWrite → WorkspaceStore
  | .workspace text => { store with workspace := some text }
  | .effects text => { store with effects := some text }
  | .execution control => { store with control := some control }

/-- The files with these writes, one after the other. -/
def writeAll (store : WorkspaceStore) (writes : List StateFileWrite) : WorkspaceStore :=
  writes.foldl StateFileWrite.write store

/-- The state of a checkpoint is written first, its authority last. -/
def returnedFiles (binding : PackageBinding) (checkpoint : WorkspaceCheckpoint) :
    List StateFileWrite :=
  checkpoint.workspace.toList.map .workspace ++ checkpoint.effects.toList.map .effects ++
    [.execution { checkpoint.execution with
      packageId := binding.recordId
      packageDigest := binding.packageDigest.getD ""
      handoffId := none
      handoffDigest := none }]

/-- Restore a returned checkpoint: the writes, none where it is refused. -/
def restoreWorkspaceFromVps (hash : WorkspaceCheckpoint → String) (binding : PackageBinding)
    (executorId : String) (checkpoint : WorkspaceCheckpoint) (store : WorkspaceStore) :
    Option (List StateFileWrite) :=
  if returnMatches hash localHost binding executorId checkpoint store then
    some (returnedFiles binding checkpoint)
  else none

/-- All the writes together restore the checkpoint. -/
theorem writeAll_restored (binding : PackageBinding) (checkpoint : WorkspaceCheckpoint)
    (store : WorkspaceStore) :
    writeAll store (returnedFiles binding checkpoint) = restored binding checkpoint store := by
  unfold writeAll returnedFiles restored
  cases checkpoint.workspace <;> cases checkpoint.effects <;> rfl

/-! ### Where it stops -/

/-- The state of a checkpoint without its authority. -/
def stateFiles (checkpoint : WorkspaceCheckpoint) : List StateFileWrite :=
  checkpoint.workspace.toList.map .workspace ++ checkpoint.effects.toList.map .effects

/-- What a return has written where it stopped before it was complete. -/
def Partial (checkpoint : WorkspaceCheckpoint) (store stopped : WorkspaceStore) : Prop :=
  ∃ count, stopped = writeAll store ((stateFiles checkpoint).take count)

variable {checkpoint : WorkspaceCheckpoint} {store stopped : WorkspaceStore}

/-- What a return has left before it was complete is what some of its writes have left. -/
theorem writes_of_partial (binding : PackageBinding) (h : Partial checkpoint store stopped) :
    ∃ count, stopped = writeAll store ((returnedFiles binding checkpoint).take count) := by
  obtain ⟨count, rfl⟩ := h
  refine ⟨min count (stateFiles checkpoint).length, ?_⟩
  show _ = writeAll store ((stateFiles checkpoint ++ _).take _)
  rw [List.take_append_of_le_length (min_le_right _ _), ← List.take_eq_take_min]

/-- Some writes of a return: all of them, or only some of its state. -/
theorem stopped_cases (binding : PackageBinding) (checkpoint : WorkspaceCheckpoint)
    (store : WorkspaceStore) (count : ℕ) :
    writeAll store ((returnedFiles binding checkpoint).take count) =
        restored binding checkpoint store ∨
      Partial checkpoint store
        (writeAll store ((returnedFiles binding checkpoint).take count)) := by
  by_cases hcount : count ≤ (stateFiles checkpoint).length
  · refine Or.inr ⟨count, ?_⟩
    show writeAll store ((stateFiles checkpoint ++ _).take count) = _
    rw [List.take_append_of_le_length hcount]
  · refine Or.inl ?_
    have hall : (returnedFiles binding checkpoint).take count = returnedFiles binding checkpoint := by
      apply List.take_of_length_le
      show (stateFiles checkpoint ++ [_]).length ≤ count
      rw [List.length_append, List.length_singleton]
      omega
    rw [hall, writeAll_restored]

/-- What a return that stopped has left: the grant, and of each file the old or the new text. -/
structure Between (checkpoint : WorkspaceCheckpoint) (store stopped : WorkspaceStore) : Prop where
  control : stopped.control = store.control
  workspace : stopped.workspace = store.workspace ∨
    checkpoint.workspace.isSome = true ∧ stopped.workspace = checkpoint.workspace
  effects : stopped.effects = store.effects ∨
    checkpoint.effects.isSome = true ∧ stopped.effects = checkpoint.effects

theorem Between.write (h : Between checkpoint store stopped) {file : StateFileWrite}
    (hfile : file ∈ stateFiles checkpoint) : Between checkpoint store (file.write stopped) := by
  rcases List.mem_append.mp hfile with hmem | hmem
  · obtain ⟨text, htext, rfl⟩ := List.mem_map.mp hmem
    rw [Option.mem_toList] at htext
    exact ⟨h.control, Or.inr ⟨by rw [htext]; rfl, htext.symm⟩, h.effects⟩
  · obtain ⟨text, htext, rfl⟩ := List.mem_map.mp hmem
    rw [Option.mem_toList] at htext
    exact ⟨h.control, h.workspace, Or.inr ⟨by rw [htext]; rfl, htext.symm⟩⟩

theorem Between.writeAll {files : List StateFileWrite}
    (hfiles : ∀ file ∈ files, file ∈ stateFiles checkpoint) (h : Between checkpoint store stopped) :
    Between checkpoint store (Hivra.writeAll stopped files) := by
  induction files generalizing stopped with
  | nil => exact h
  | cons file rest ih =>
    have hfirst := h.write (hfiles file List.mem_cons_self)
    exact ih (fun other hother => hfiles other (List.mem_cons_of_mem _ hother)) hfirst

theorem between_of_partial (h : Partial checkpoint store stopped) :
    Between checkpoint store stopped := by
  obtain ⟨count, rfl⟩ := h
  have hstart : Between checkpoint store store := ⟨rfl, Or.inl rfl, Or.inl rfl⟩
  exact hstart.writeAll fun file hfile => List.mem_of_mem_take hfile

/-- Written once more, the checkpoint is restored. -/
theorem Between.restored {binding : PackageBinding} (h : Between checkpoint store stopped) :
    Hivra.restored binding checkpoint stopped = Hivra.restored binding checkpoint store := by
  have hkept : ∀ {written old new : Option String},
      (new = old ∨ written.isSome = true ∧ new = written) → (written <|> new) = (written <|> old) := by
    rintro written old new (rfl | ⟨hwritten, rfl⟩)
    · rfl
    · obtain ⟨text, rfl⟩ := Option.isSome_iff_exists.mp hwritten
      rfl
  unfold Hivra.restored
  rw [hkept h.workspace, hkept h.effects]

/-! ### What the local files prove -/

/-- The digest of the handoff that the local files are those of. -/
def provenHandoff (hash : WorkspaceCheckpoint → String) (store : WorkspaceStore) : Option String :=
  store.control.map fun control => hash (immutablePart {
    packageDigest := control.packageDigest
    execution := control
    workspace := store.workspace
    effects := store.effects })

section Retry

variable {hash : WorkspaceCheckpoint → String} {binding : PackageBinding} {executorId : String}
  {checkpoint : WorkspaceCheckpoint} {store stopped : WorkspaceStore}

/-- A return proves its handoff by the package or by the local files. -/
def ProvesHandoff (hash : WorkspaceCheckpoint → String) (checkpoint : WorkspaceCheckpoint)
    (store : WorkspaceStore) : Prop :=
  ∀ control ∈ store.control, control.packageDigest = checkpoint.packageDigest ∨
    checkpoint.execution.handoffDigest = provenHandoff hash store

/-- What a return has to meet besides the files. -/
structure Returnable (binding : PackageBinding) (executorId : String)
    (checkpoint : WorkspaceCheckpoint) (control : ExecutionControl) : Prop where
  incoming : validControl checkpoint.execution = true
  ended : checkpoint.execution.isSealed = true
  digest : checkpoint.execution.packageDigest = checkpoint.packageDigest
  read : readExecution localHost binding false true (some control) = some (some control)
  remote : control.executor = some .onVps
  executor : control.executorId = some executorId
  handedOver : control.handoffId.isSome = true
  handoff : control.handoffId = checkpoint.execution.handoffId
  bound : binding.packageId = some binding.recordId ∧ binding.packageDigest.isSome = true ∧
    binding.schedules = true

variable {control : ExecutionControl}

theorem returnMatches_eq_true (hcontrol : store.control = some control) :
    returnMatches hash localHost binding executorId checkpoint store = true ↔
      Returnable binding executorId checkpoint control ∧ ProvesHandoff hash checkpoint store ∧
        (checkpoint.workspace.isSome = true ∨ store.workspace = none) ∧
        (checkpoint.effects.isSome = true ∨ store.effects = none) := by
  have hproves : ProvesHandoff hash checkpoint store ↔
      (control.packageDigest = checkpoint.packageDigest ∨
        checkpoint.execution.handoffDigest = some (hash (immutablePart {
          packageDigest := control.packageDigest
          execution := control
          workspace := store.workspace
          effects := store.effects }))) := by
    unfold ProvesHandoff provenHandoff
    rw [hcontrol]
    simp
  rw [hproves]
  unfold returnMatches
  rw [hcontrol]
  constructor
  · intro h
    dsimp only at h
    rw [Bool.and_eq_true, Bool.and_eq_true, Bool.and_eq_true, Bool.and_eq_true] at h
    obtain ⟨⟨⟨⟨-, hincoming⟩, hended⟩, hdigest⟩, hmatch⟩ := h
    split at hmatch
    · next stored hread =>
      have hsame := readExecution_stored hread
      cases hsame
      simp only [Bool.and_eq_true, Bool.or_eq_true, beq_iff_eq, Option.isNone_iff_eq_none]
        at hmatch hdigest
      obtain ⟨⟨⟨⟨⟨⟨⟨hremote, hexecutor⟩, hhanded⟩, hhandoff⟩, hproof⟩, ⟨hid, hsome⟩, hschedules⟩,
        hworkspace⟩, heffects⟩ := hmatch
      exact ⟨⟨hincoming, hended, hdigest, hread, hremote, hexecutor, hhanded, hhandoff, hid, hsome,
        hschedules⟩, hproof, hworkspace, heffects⟩
    · cases hmatch
  · rintro ⟨hreturn, hproof, hworkspace, heffects⟩
    obtain ⟨hid, hsome, hschedules⟩ := hreturn.bound
    dsimp only
    rw [hreturn.read]
    simp only [Bool.and_eq_true, Bool.or_eq_true, beq_iff_eq, Option.isNone_iff_eq_none]
    exact ⟨⟨⟨⟨rfl, hreturn.incoming⟩, hreturn.ended⟩, hreturn.digest⟩, ⟨⟨⟨⟨⟨⟨hreturn.remote,
      hreturn.executor⟩, hreturn.handedOver⟩, hreturn.handoff⟩, hproof⟩, ⟨hid, hsome⟩,
      hschedules⟩, hworkspace⟩, heffects⟩

/-- What stands of a return after some of its writes takes the same return exactly if it still
    proves the handoff. -/
theorem returnMatches_between
    (h : returnMatches hash localHost binding executorId checkpoint store = true)
    (hbetween : Between checkpoint store stopped) :
    returnMatches hash localHost binding executorId checkpoint stopped = true ↔
      ProvesHandoff hash checkpoint stopped := by
  obtain ⟨-, -, control, hcontrol, -⟩ := returnMatches_iff h
  obtain ⟨hreturn, -, hworkspace, heffects⟩ := (returnMatches_eq_true hcontrol).mp h
  rw [returnMatches_eq_true (hbetween.control.trans hcontrol)]
  refine ⟨fun hstopped => hstopped.2.1, fun hproof => ⟨hreturn, hproof, ?_, ?_⟩⟩
  · rcases hbetween.workspace with hsame | ⟨hsome, -⟩
    · rw [hsame]
      exact hworkspace
    · exact Or.inl hsome
  · rcases hbetween.effects with hsame | ⟨hsome, -⟩
    · rw [hsame]
      exact heffects
    · exact Or.inl hsome

/-! ### Retrying -/

/-- Wherever a return stops, it is complete, or the grant is as it was and the same return is
    taken once more and leaves the files of one that did not stop; and no action runs before it is
    complete. -/
structure Retryable (hash : WorkspaceCheckpoint → String) (binding : PackageBinding)
    (executorId : String) (checkpoint : WorkspaceCheckpoint) (store : WorkspaceStore) : Prop where
  again : ∀ count, writeAll store ((returnedFiles binding checkpoint).take count) =
      restored binding checkpoint store ∨
    (writeAll store ((returnedFiles binding checkpoint).take count)).control = store.control ∧
      ∃ writes, restoreWorkspaceFromVps hash binding executorId checkpoint
          (writeAll store ((returnedFiles binding checkpoint).take count)) = some writes ∧
        writeAll (writeAll store ((returnedFiles binding checkpoint).take count)) writes =
          restored binding checkpoint store
  idle : ∀ count, writeAll store ((returnedFiles binding checkpoint).take count) =
      restored binding checkpoint store ∨
    ∀ current persistent outputs, runWorkspaceAction localHost current persistent outputs
      (writeAll store ((returnedFiles binding checkpoint).take count)) = none

/-- What the local files prove of the handoff stays the same while they are restored, where it
    matters. -/
def KeepsProof (hash : WorkspaceCheckpoint → String) (checkpoint : WorkspaceCheckpoint)
    (store : WorkspaceStore) : Prop :=
  ∀ control ∈ store.control, control.packageDigest = checkpoint.packageDigest ∨
    ∀ stopped, Partial checkpoint store stopped → provenHandoff hash stopped = provenHandoff hash store

/-- A workspace that is assigned to the VPS is not run here. -/
theorem runWorkspaceAction_remote (hcontrol : store.control = some control)
    (hremote : control.executor = some .onVps) (current : PackageBinding) (persistent : Bool)
    (outputs : List (Option String)) :
    runWorkspaceAction localHost current persistent outputs store = none := by
  cases hrun : runWorkspaceAction localHost current persistent outputs store with
  | none => rfl
  | some result =>
    obtain ⟨handed, left⟩ := result
    unfold runWorkspaceAction at hrun
    split at hrun
    · cases hrun
    · split at hrun
      · cases hrun
      · next hread =>
        rw [hcontrol] at hread
        have hplace := (readExecution_cases hread).1 rfl
        rw [hremote] at hplace
        cases hplace

/-- **A return can be retried wherever it stops exactly if the files it restores prove no other
    handoff than those before.** -/
theorem retryable_iff (hash : WorkspaceCheckpoint → String) (binding : PackageBinding)
    (executorId : String) (checkpoint : WorkspaceCheckpoint) (store : WorkspaceStore)
    (h : (restoreWorkspaceFromVps hash binding executorId checkpoint store).isSome = true) :
    Retryable hash binding executorId checkpoint store ↔ KeepsProof hash checkpoint store := by
  have hmatches : returnMatches hash localHost binding executorId checkpoint store = true := by
    by_contra hnot
    rw [restoreWorkspaceFromVps, if_neg hnot] at h
    cases h
  obtain ⟨-, -, control, hcontrol, hremote, -⟩ := returnMatches_iff hmatches
  have hproves := ((returnMatches_eq_true hcontrol).mp hmatches).2.1
  have hended : checkpoint.execution.executor = some .onLocal := (returnMatches_iff hmatches).1
  -- While the grant is assigned to the VPS the return is not complete.
  have hremains : ∀ stopped, Between checkpoint store stopped →
      stopped ≠ restored binding checkpoint store := by
    intro stopped hbetween hsame
    have hlocal : stopped.control.bind ExecutionControl.executor = some .onLocal := by
      rw [hsame]
      exact hended
    rw [hbetween.control, hcontrol] at hlocal
    have hplace : control.executor = some .onLocal := hlocal
    rw [hremote] at hplace
    cases hplace
  constructor
  · intro hretry original horiginal
    by_cases hdigest : original.packageDigest = checkpoint.packageDigest
    · exact Or.inl hdigest
    refine Or.inr fun stopped hstopped => ?_
    have hbetween := between_of_partial hstopped
    obtain ⟨count, hcount⟩ := writes_of_partial binding hstopped
    obtain hcomplete | ⟨-, writes, hwrites, -⟩ := hretry.again count
    · rw [← hcount] at hcomplete
      exact absurd hcomplete (hremains stopped hbetween)
    · rw [← hcount] at hwrites
      have hagain : returnMatches hash localHost binding executorId checkpoint stopped = true := by
        by_contra hnot
        rw [restoreWorkspaceFromVps, if_neg hnot] at hwrites
        cases hwrites
      have hstill := (returnMatches_between hmatches hbetween).mp hagain original
        (by rw [hbetween.control]; exact horiginal)
      rw [← hstill.resolve_left hdigest, ← (hproves original horiginal).resolve_left hdigest]
  · intro hkeeps
    refine ⟨fun count => ?_, fun count => ?_⟩
    · refine (stopped_cases binding checkpoint store count).imp_right fun hpartial => ?_
      have hbetween := between_of_partial hpartial
      have hstill : ProvesHandoff hash checkpoint
          (writeAll store ((returnedFiles binding checkpoint).take count)) := by
        intro original horiginal
        rw [hbetween.control] at horiginal
        rcases hkeeps original horiginal with hdigest | hsame
        · exact Or.inl hdigest
        · rw [hsame _ hpartial]
          exact hproves original horiginal
      refine ⟨hbetween.control, returnedFiles binding checkpoint, ?_, ?_⟩
      · rw [restoreWorkspaceFromVps, if_pos ((returnMatches_between hmatches hbetween).mpr hstill)]
      · rw [writeAll_restored, hbetween.restored]
    · refine (stopped_cases binding checkpoint store count).imp_right fun hpartial => ?_
      have hbetween := between_of_partial hpartial
      exact runWorkspaceAction_remote (hbetween.control.trans hcontrol) hremote

end Retry

/-! A workspace that was handed over and has gone on, and comes back from another package. -/

section Interrupted

/-- The grant that is assigned to the VPS. -/
def assignedControl : ExecutionControl where
  version := 2
  packageId := "plugin"
  packageDigest := digits 'd'
  executor := some .onVps
  executorId := some (digits 'e')
  handoffId := some (digits '1')
  handoffDigest := none
  scope := ⟨2, some "tick", none, "none"⟩
  credentials := ""
  settings := ""
  expiresAtMs := none
  revoked := some false
  enabled := true
  revision := 1

/-- A digest that tells the workspace apart. -/
def workspaceHash : WorkspaceCheckpoint → String := fun checkpoint =>
  digits (if checkpoint.workspace = some "handed over" then 'a' else 'b')

def assignedStore : WorkspaceStore := ⟨some assignedControl, some "handed over", none⟩

/-- The return from the VPS, whose package is of this digest. -/
def returnedFrom (packageDigest workspace : String) : WorkspaceCheckpoint where
  packageDigest := packageDigest
  execution := { endedControl { assignedControl with packageDigest := packageDigest } with
    handoffDigest := some (digits 'a') }
  workspace := some workspace
  effects := none

/-- A return from the same package can be retried. -/
theorem samePackage_retryable :
    Retryable workspaceHash sampleBinding (digits 'e') (returnedFrom (digits 'd') "gone on")
      assignedStore := by
  refine (retryable_iff workspaceHash sampleBinding (digits 'e')
    (returnedFrom (digits 'd') "gone on") assignedStore (by decide +kernel)).mpr ?_
  rintro control hcontrol
  cases hcontrol
  exact Or.inl rfl

/-- **A return from another package that stops after its first write is refused when it comes
    again.** -/
theorem otherPackage_stopped :
    (restoreWorkspaceFromVps workspaceHash sampleBinding (digits 'e')
        (returnedFrom (digits 'f') "gone on") assignedStore).isSome = true ∧
      ¬ Retryable workspaceHash sampleBinding (digits 'e') (returnedFrom (digits 'f') "gone on")
        assignedStore := by
  refine ⟨by decide +kernel, fun h => ?_⟩
  have hstopped : restoreWorkspaceFromVps workspaceHash sampleBinding (digits 'e')
      (returnedFrom (digits 'f') "gone on")
      (writeAll assignedStore ((returnedFiles sampleBinding
        (returnedFrom (digits 'f') "gone on")).take 1)) = none := by
    decide +kernel
  rcases h.again 1 with hcomplete | ⟨-, writes, hwrites, -⟩
  · exact absurd (congrArg (fun store => store.control.bind ExecutionControl.executor) hcomplete)
      (by decide)
  · rw [hstopped] at hwrites
    cases hwrites

end Interrupted

end Hivra
