import Hivra.Host.ReturnRetry

namespace Hivra

open Replay

/-!
# The runner and a replaced device

A runner serves one binding of owner, plugin, package and device.  A request with another binding
is refused, but for one: a device that was replaced may fetch the sealed checkpoint of its own
handoff.  It goes through the two phases of a return, under the owner and the identity that the
request names, while the current installation goes on.

* `Served.step` — a grant that is being fetched stays as it is until it is answered.
* `onlyFetches_step` — a request of another binding leaves every file and every schedule as it
  is, but for a schedule of the grant that has ended.
* `replacedDevice_fetches` — so it is in every run of the runner.
-/

/-! ### Requests -/

/-- What a runner is bound to. -/
structure RunnerBinding where
  owner : String
  pluginId : String
  packageId : String
  packageDigest : String
  executorId : String
  deriving DecidableEq

/-- A request, with the number of its members.  A field is none where it is missing or no text,
    and the handoff id has another none where it is missing. -/
structure RunnerRequest where
  command : Option String
  owner : Option String
  pluginId : Option String
  packageId : Option String
  packageDigest : Option String
  executorId : Option String
  handoffId : Option (Option String)
  length : ℕ
  deriving DecidableEq

/-- A record of the registry. -/
structure RunnerRecord where
  id : String
  pluginId : String
  contractKind : Option String
  deriving DecidableEq

/-- The registry, and what it resolves the plugin to. -/
structure RunnerRegistry where
  records : List RunnerRecord
  packageId : Option String
  packageDigest : Option String
  schedules : Bool

def isCurrent (binding : RunnerBinding) (request : RunnerRequest) : Bool :=
  request.owner == some binding.owner && request.pluginId == some binding.pluginId &&
    request.packageId == some binding.packageId &&
    request.packageDigest == some binding.packageDigest &&
    request.executorId == some binding.executorId

/-- The record the runner is bound to, if the registry still has it. -/
def currentRecord (binding : RunnerBinding) (registry : RunnerRegistry) : Option PackageBinding :=
  let isMatching : RunnerRecord → Bool := fun record =>
    record.id == binding.packageId && record.pluginId == binding.pluginId &&
      record.contractKind == some "plugin_workspace_v1"
  if (registry.records.filter isMatching).length ≠ 1 ∨
      registry.packageDigest ≠ some binding.packageDigest then none
  else some ⟨binding.packageId, registry.packageId, registry.packageDigest, registry.schedules⟩

/-- A fetch of a sealed handoff that is under way, and the grant it has read. -/
structure Recovery where
  request : RunnerRequest
  owner : String
  executorId : String
  handoffId : String
  reading : Option ExecutionControl
  deriving DecidableEq

/-- The checks on the request of a replaced device. -/
def recoveryOf (binding : RunnerBinding) (request : RunnerRequest) : Option Recovery :=
  match request.owner, request.executorId, request.packageDigest, request.packageId,
      request.handoffId with
  | some owner, some executorId, some packageDigest, some _, some (some handoffId) =>
    if request.length = 7 ∧ isHex64 owner ∧ isHex64 executorId ∧ isHex64 packageDigest ∧
        isHex64 handoffId ∧ request.pluginId = some binding.pluginId then
      some ⟨request, owner, executorId, handoffId, none⟩
    else none
  | _, _, _, _, _ => none

/-! ### The two phases of a return -/

/-- The first phase: the grant that is left, none where it throws. -/
def endAuthority (host : ExecutionHost) (binding : PackageBinding) (handoffId : Option String)
    (requireSealed : Bool) (store : WorkspaceStore) : Option ExecutionControl :=
  match readExecution host binding false true store.control with
  | some (some control) =>
    if handoffId.isSome ∧ control.handoffId ≠ handoffId ∨ requireSealed ∧ ¬ control.isSealed ∨
        control.executor = some .onVps ∧ control.executorId ≠ host.identity then none
    else some (endedControl control)
  | _ => none

/-- The second phase reads the grant again. -/
def readEnded (host : ExecutionHost) (binding : PackageBinding) (handoffId : Option String)
    (store : WorkspaceStore) : Option ExecutionControl :=
  match readExecution host binding false true store.control with
  | some (some control) =>
    if handoffId.isSome ∧ control.handoffId ≠ handoffId ∨ ¬ control.isSealed then none
    else some control
  | _ => none

/-- The checkpoint of a grant that has ended. -/
def returnedCheckpoint (control : ExecutionControl) (store : WorkspaceStore) :
    WorkspaceCheckpoint where
  packageDigest := control.packageDigest
  execution := control
  workspace := store.workspace
  effects := store.effects

/-! ### The runner -/

/-- What a schedule is armed for. -/
structure ScheduledGrant where
  recordId : String
  packageDigest : String
  revision : ℤ
  deriving DecidableEq

/-- The files of each owner for the plugin of the runner, its credentials and its binding; the
    schedules by owner, which every runtime of the process shares; the workspace that an action
    under way will leave; the grants that have been read and not yet armed; and what replaced
    devices fetch and have been answered. -/
structure RunnerState where
  stores : String → WorkspaceStore
  credentials : Option String
  config : RunnerBinding
  armed : String → Option ScheduledGrant
  closing : Bool
  acting : Option (Option String)
  resuming : List ExecutionControl
  recoveries : List Recovery
  answers : List (RunnerRequest × WorkspaceCheckpoint)

/-- Set the files of an owner. -/
def RunnerState.withStore (s : RunnerState) (owner : String) (store : WorkspaceStore) :
    RunnerState := { s with stores := Function.update s.stores owner store }

def RunnerState.clearSchedule (s : RunnerState) (owner : String) : RunnerState :=
  { s with armed := Function.update s.armed owner none }

/-- Arm the schedule of a grant, or clear it where there is nothing to run. -/
def RunnerState.armScheduledExecution (s : RunnerState) (recordId : String) (nowMs : ℤ)
    (control : ExecutionControl) : RunnerState :=
  if s.closing ∨ control.executor ≠ some .onVps then s
  else if control.version ≠ 2 ∨ control.scope.action = none ∨
      ¬ workspaceExecutionIsActive control nowMs ∨ ¬ control.enabled then
    s.clearSchedule s.config.owner
  else
    let grant : ScheduledGrant := ⟨recordId, control.packageDigest, control.revision⟩
    { s with armed := Function.update s.armed s.config.owner (some grant) }

/-- An action runs for the owner or its files are read; actions, handoffs and reads wait for it. -/
def RunnerState.isBusy (s : RunnerState) (owner : String) : Bool :=
  owner == s.config.owner && s.acting.isSome ||
    s.recoveries.any fun recovery => recovery.owner == owner && recovery.reading.isSome

/-- What happens to the runner of a host. -/
inductive RunnerEvent
  /-- An action of the current installation begins, and the package ends it with a journal. -/
  | actBegin (binding : PackageBinding) (persistent : Bool) (outputs : List (Option String))
  | actEnd (effects : Option String)
  | adopt (binding : PackageBinding) (nowMs : ℤ) (checkpoint : WorkspaceCheckpoint)
  | set (binding : PackageBinding) (nowMs : ℤ) (handoff : String)
      (reviewed : Option ExecutionControl) (args : ExecutionArgs)
  | giveBack (binding : PackageBinding) (handoffId : Option String)
  /-- A resumption, or an action at its end, reads the grant, and arms it later. -/
  | resumeRead (binding : PackageBinding) (nowMs : ℤ) (ofAction : Bool)
  | resumeArm (recordId : String) (nowMs : ℤ) (index : ℕ)
  /-- A timer finds no active grant. -/
  | timerCleared
  | close
  /-- A request comes with another binding. -/
  | request (request : RunnerRequest) (registry : RunnerRegistry)
  /-- A fetch reads the grant again. -/
  | fetchGrant (binding : PackageBinding) (index : ℕ)
  /-- And then the files. -/
  | fetchFiles (index : ℕ)

/-- The event belongs to a request of another binding. -/
def RunnerEvent.isForeign : RunnerEvent → Bool
  | .request .. | .fetchGrant .. | .fetchFiles _ => true
  | _ => false

section Runner

variable (hash : WorkspaceCheckpoint → String)

/-- A request of a replaced device goes into its first phase, or throws. -/
def RunnerState.dispatchForeign (s : RunnerState) (request : RunnerRequest)
    (registry : RunnerRegistry) : RunnerState :=
  if s.closing ∨ isCurrent s.config request ∨ request.command ≠ some "return" then s
  else
    match currentRecord s.config registry, recoveryOf s.config request with
    | some binding, some recovery =>
      match endAuthority (vpsHost recovery.executorId) binding (some recovery.handoffId) true
          (s.stores recovery.owner) with
      | none => s
      | some control =>
        let ended := (s.withStore recovery.owner
          { s.stores recovery.owner with control := some control }).clearSchedule recovery.owner
        { ended with recoveries := s.recoveries ++ [recovery] }
    | _, _ => s

/-- One event.  The writes of an operation on the grant and its schedule belong together. -/
def RunnerState.step (s : RunnerState) : RunnerEvent → RunnerState
  | .actBegin binding persistent outputs =>
    if s.isBusy s.config.owner then s
    else
      match runWorkspaceAction (vpsHost s.config.executorId) binding persistent outputs
          (s.stores s.config.owner) with
      | some (_, store) => { s with acting := some store.workspace }
      | none => s
  | .actEnd effects =>
    match s.acting with
    | some workspace =>
      let store : WorkspaceStore := ⟨(s.stores s.config.owner).control, workspace, effects⟩
      { s.withStore s.config.owner store with acting := none }
    | none => s
  | .adopt binding nowMs checkpoint =>
    if s.isBusy s.config.owner then s
    else
      match adoptWorkspaceFromLocal hash (vpsHost s.config.executorId) binding nowMs checkpoint
          (s.stores s.config.owner) with
      | some store => s.withStore s.config.owner store
      | none => s
  | .set binding nowMs handoff reviewed args =>
    match setWorkspaceExecution (vpsHost s.config.executorId) binding nowMs handoff reviewed args
        (s.stores s.config.owner).control with
    | some control =>
      (s.withStore s.config.owner
        { s.stores s.config.owner with control := some control }).armScheduledExecution
          binding.recordId nowMs control
    | none => s
  | .giveBack binding handoffId =>
    match endAuthority (vpsHost s.config.executorId) binding handoffId false
        (s.stores s.config.owner) with
    | some control =>
      (s.withStore s.config.owner
        { s.stores s.config.owner with control := some control }).clearSchedule s.config.owner
    | none => s
  | .resumeRead binding nowMs ofAction =>
    match readExecution (vpsHost s.config.executorId) binding ofAction false
        (s.stores s.config.owner).control with
    | some (some control) =>
      if ofAction ∨ control.executor = some .onVps ∧ control.version = 2 ∧
          workspaceExecutionIsActive control nowMs then
        { s with resuming := s.resuming ++ [control] }
      else s
    | _ => s
  | .resumeArm recordId nowMs index =>
    match s.resuming[index]? with
    | some control =>
      let resumed : RunnerState := { s with resuming := s.resuming.eraseIdx index }
      resumed.armScheduledExecution recordId nowMs control
    | none => s
  | .timerCleared => s.clearSchedule s.config.owner
  | .close => { s with closing := true }
  | .request request registry => s.dispatchForeign request registry
  | .fetchGrant binding index =>
    match s.recoveries[index]? with
    | some recovery =>
      if s.isBusy recovery.owner then s
      else
        match readEnded (vpsHost recovery.executorId) binding (some recovery.handoffId)
            (s.stores recovery.owner) with
        | some control =>
          let reading : Recovery := { recovery with reading := some control }
          { s with recoveries := s.recoveries.set index reading }
        | none => { s with recoveries := s.recoveries.eraseIdx index }
    | none => s
  | .fetchFiles index =>
    match s.recoveries[index]? with
    | some recovery =>
      match recovery.reading with
      | some control =>
        { s with
          recoveries := s.recoveries.eraseIdx index
          answers := s.answers ++
            [(recovery.request, returnedCheckpoint control (s.stores recovery.owner))] }
      | none => s
    | none => s

/-! ### What the current installation leaves -/

section Schedules

variable (s : RunnerState) (recordId : String) (nowMs : ℤ) (control : ExecutionControl)

@[simp] theorem RunnerState.armScheduledExecution_stores :
    (s.armScheduledExecution recordId nowMs control).stores = s.stores := by
  unfold RunnerState.armScheduledExecution
  split_ifs <;> rfl

@[simp] theorem RunnerState.armScheduledExecution_config :
    (s.armScheduledExecution recordId nowMs control).config = s.config := by
  unfold RunnerState.armScheduledExecution
  split_ifs <;> rfl

@[simp] theorem RunnerState.armScheduledExecution_recoveries :
    (s.armScheduledExecution recordId nowMs control).recoveries = s.recoveries := by
  unfold RunnerState.armScheduledExecution
  split_ifs <;> rfl

end Schedules

/-- A fetch under way is one that the replaced device may make, and the grant it has read is the
    ended grant of its handoff, which is still stored. -/
structure Recovery.Served (s : RunnerState) (recovery : Recovery) : Prop where
  command : recovery.request.command = some "return"
  foreign : isCurrent s.config recovery.request = false
  asked : recoveryOf s.config recovery.request = some { recovery with reading := none }
  reading : ∀ control, recovery.reading = some control →
    (s.stores recovery.owner).control = some control ∧ control.isSealed = true ∧
      control.handoffId = some recovery.handoffId

/-- Every fetch under way is served. -/
def Served (s : RunnerState) : Prop := ∀ recovery ∈ s.recoveries, recovery.Served s

variable {control : ExecutionControl}

theorem isSealed_iff :
    control.isSealed = true ↔ control.executor = some .onLocal ∧
      control.expiresAtMs = some 0 ∧ control.enabled = false := by
  simp [ExecutionControl.isSealed, and_assoc]

/-- Ending a grant that has ended changes nothing. -/
theorem endedControl_of_sealed (h : control.isSealed = true) : endedControl control = control := by
  have hlocal := (isSealed_iff.mp h).1
  unfold endedControl
  rw [hlocal, if_neg (by decide)]

variable {handoffId : Option String} {binding : PackageBinding} {store : WorkspaceStore}

theorem endAuthority_stored {host : ExecutionHost} {requireSealed : Bool} {ended : ExecutionControl}
    (h : endAuthority host binding handoffId requireSealed store = some ended) :
    ∃ control, store.control = some control ∧ ended = endedControl control ∧
      (handoffId.isSome = true → control.handoffId = handoffId) ∧
      (requireSealed = true → control.isSealed = true) := by
  unfold endAuthority at h
  split at h
  · next control hread =>
    split at h
    · cases h
    · next hchecks =>
      simp only [not_or, not_and, not_not] at hchecks
      exact ⟨control, readExecution_stored hread, (Option.some.inj h).symm, hchecks.1, hchecks.2.1⟩
  · cases h

theorem readEnded_stored {host : ExecutionHost}
    (h : readEnded host binding handoffId store = some control) :
    store.control = some control ∧ control.isSealed = true ∧
      (handoffId.isSome = true → control.handoffId = handoffId) := by
  unfold readEnded at h
  split at h
  · next read hread =>
    split at h
    · cases h
    · next hchecks =>
      cases Option.some.inj h
      simp only [not_or, not_and, not_not] at hchecks
      exact ⟨readExecution_stored hread, hchecks.2, hchecks.1⟩
  · cases h

variable {recovery : Recovery} {s s' : RunnerState}

theorem Recovery.Served.keep (h : recovery.Served s) (hconfig : s'.config = s.config)
    (hstores : ∀ control, recovery.reading = some control → control.isSealed = true →
      (s.stores recovery.owner).control = some control →
      (s'.stores recovery.owner).control = some control) : recovery.Served s' := by
  obtain ⟨hcommand, hforeign, hasked, hreading⟩ := h
  rw [← hconfig] at hforeign hasked
  refine ⟨hcommand, hforeign, hasked, fun control hread => ?_⟩
  obtain ⟨hstored, hsealed, hhandoff⟩ := hreading control hread
  exact ⟨hstores control hread hsealed hstored, hsealed, hhandoff⟩

/-- What keeps the grants that are being fetched keeps the fetches. -/
theorem Served.keep (h : Served s) (hconfig : s'.config = s.config)
    (hrecoveries : ∀ recovery ∈ s'.recoveries, recovery ∈ s.recoveries)
    (hstores : ∀ recovery ∈ s.recoveries, ∀ control, recovery.reading = some control →
      control.isSealed = true → (s.stores recovery.owner).control = some control →
      (s'.stores recovery.owner).control = some control) : Served s' := by
  intro recovery hrecovery
  have hold := hrecoveries recovery hrecovery
  exact (h recovery hold).keep hconfig (hstores recovery hold)

/-- The files of the current installation change, and with them no ended grant that is fetched. -/
theorem Served.withStore (h : Served s) (store : WorkspaceStore) (hconfig : s'.config = s.config)
    (hrecoveries : s'.recoveries = s.recoveries)
    (hstores : s'.stores = Function.update s.stores s.config.owner store)
    (hstore : ∀ control, control.isSealed = true →
      (s.stores s.config.owner).control = some control →
      (∃ recovery ∈ s.recoveries, recovery.owner = s.config.owner ∧
        recovery.reading = some control) → store.control = some control) : Served s' := by
  apply h.keep hconfig (fun recovery => by rw [hrecoveries]; exact id)
  intro recovery hrecovery control hread hsealed hstored
  rw [hstores]
  by_cases howner : recovery.owner = s.config.owner
  · rw [howner, Function.update_self]
    rw [howner] at hstored
    exact hstore control hsealed hstored ⟨recovery, hrecovery, howner, hread⟩
  · rwa [Function.update_of_ne howner]

/-- Whoever reads the files of an owner keeps it busy. -/
theorem RunnerState.isBusy_of_reading {s : RunnerState} (hrecovery : recovery ∈ s.recoveries)
    (hreading : recovery.reading = some control) : s.isBusy recovery.owner = true := by
  unfold RunnerState.isBusy
  rw [Bool.or_eq_true, List.any_eq_true]
  exact Or.inr ⟨recovery, hrecovery, by simp [hreading]⟩

theorem recoveryOf_some {binding : RunnerBinding} {request : RunnerRequest}
    (h : recoveryOf binding request = some recovery) :
    recovery.reading = none ∧ recovery.request = request ∧ request.owner = some recovery.owner ∧
      request.handoffId = some (some recovery.handoffId) ∧
      request.pluginId = some binding.pluginId := by
  unfold recoveryOf at h
  split at h
  · next howner _ _ _ hhandoff =>
    split at h
    · next hchecks =>
      cases Option.some.inj h
      exact ⟨rfl, rfl, howner, hhandoff, hchecks.2.2.2.2.2⟩
    · cases h
  · cases h

/-- A request of a replaced device either throws or has found the ended grant of its handoff, and
    then clears what is armed for it. -/
theorem dispatchForeign_cases (s : RunnerState) (request : RunnerRequest)
    (registry : RunnerRegistry) :
    s.dispatchForeign request registry = s ∨
      ∃ recovery control, request.command = some "return" ∧ isCurrent s.config request = false ∧
        recoveryOf s.config request = some recovery ∧ recovery.reading = none ∧
        recovery.request = request ∧
        (s.stores recovery.owner).control = some control ∧ control.isSealed = true ∧
        s.dispatchForeign request registry =
          ({ s.clearSchedule recovery.owner with
            recoveries := s.recoveries ++ [recovery] } : RunnerState) := by
  unfold RunnerState.dispatchForeign
  split
  · exact Or.inl rfl
  · next hchecks =>
    simp only [not_or, not_not, Bool.not_eq_true] at hchecks
    split
    · next binding recovery hrecord hrecovery =>
      split
      · exact Or.inl rfl
      · next ended hended =>
        obtain ⟨control, hstored, rfl, -, hsealed⟩ := endAuthority_stored hended
        refine Or.inr ⟨recovery, control, hchecks.2.2, hchecks.2.1, hrecovery, ?_, ?_, hstored,
          hsealed rfl, ?_⟩
        · exact (recoveryOf_some hrecovery).1
        · exact (recoveryOf_some hrecovery).2.1
        · -- The grant that is written is the one that was stored.
          have hsame : ({ s.stores recovery.owner with
              control := some (endedControl control) } : WorkspaceStore) =
              s.stores recovery.owner := by
            rw [endedControl_of_sealed (hsealed rfl), ← hstored]
          rw [hsame, RunnerState.withStore, Function.update_eq_self]
    · exact Or.inl rfl

/-- **A grant that is being fetched stays as it is until it is answered.** -/
theorem Served.step {s : RunnerState} (h : Served s) (event : RunnerEvent) :
    Served (s.step hash event) := by
  cases event with
  | actBegin binding persistent outputs =>
    simp only [RunnerState.step]
    split
    · exact h
    · split
      · exact h.keep rfl (fun _ => id) fun _ _ _ _ _ => id
      · exact h
  | actEnd effects =>
    simp only [RunnerState.step]
    split
    · exact h.withStore _ rfl rfl rfl fun _ _ hstored _ => hstored
    · exact h
  | adopt binding nowMs checkpoint =>
    simp only [RunnerState.step]
    split
    · exact h
    · next hidle =>
      split
      · refine h.withStore _ rfl rfl rfl ?_
        -- Nothing of the owner is being read.
        rintro control - - ⟨recovery, hrecovery, howner, hreading⟩
        exact absurd (howner ▸ RunnerState.isBusy_of_reading hrecovery hreading) hidle
      · exact h
  | set binding nowMs handoff reviewed args =>
    simp only [RunnerState.step]
    split
    · next control hset =>
      refine h.withStore { s.stores s.config.owner with control := some control } ?_ ?_ ?_ ?_
      · rw [RunnerState.armScheduledExecution_config]
        rfl
      · rw [RunnerState.armScheduledExecution_recoveries]
        rfl
      · rw [RunnerState.armScheduledExecution_stores]
        rfl
      · -- No grant is set over one that has ended.
        intro ended hsealed hstored _
        rcases (setWorkspaceExecution_there hset).2 with ⟨hnone, -⟩ | ⟨original, horiginal, hvps⟩
        · rw [hstored] at hnone
          cases hnone
        · rw [hstored] at horiginal
          cases Option.some.inj horiginal
          rw [(isSealed_iff.mp hsealed).1] at hvps
          cases hvps
    · exact h
  | giveBack binding handoffId =>
    simp only [RunnerState.step]
    split
    · next control hended =>
      refine h.withStore { s.stores s.config.owner with control := some control } rfl rfl rfl ?_
      intro ended hsealed hstored _
      obtain ⟨original, horiginal, rfl, -, -⟩ := endAuthority_stored hended
      rw [hstored] at horiginal
      cases Option.some.inj horiginal
      rw [endedControl_of_sealed hsealed]
    · exact h
  | resumeRead binding nowMs ofAction =>
    simp only [RunnerState.step]
    split
    · split
      · exact h.keep rfl (fun _ => id) fun _ _ _ _ _ => id
      · exact h
    · exact h
  | resumeArm recordId nowMs index =>
    simp only [RunnerState.step]
    split
    · refine h.keep (by simp) (by simp) fun _ _ _ _ _ hstored => ?_
      rw [RunnerState.armScheduledExecution_stores]
      exact hstored
    · exact h
  | timerCleared => exact h.keep rfl (fun _ => id) fun _ _ _ _ _ => id
  | close => exact h.keep rfl (fun _ => id) fun _ _ _ _ _ => id
  | request request registry =>
    show Served (s.dispatchForeign request registry)
    rcases dispatchForeign_cases s request registry with
      heq | ⟨recovery, control, hcommand, hforeign, hasked, hnone, rfl, -, -, heq⟩
    · rw [heq]
      exact h
    · rw [heq]
      intro other hother
      rcases List.mem_append.mp hother with hold | hnew
      · exact (h other hold).keep rfl fun _ _ _ => id
      · -- The fetch that begins has read nothing.
        rw [List.mem_singleton.mp hnew]
        refine ⟨hcommand, hforeign, ?_, fun control hread => ?_⟩
        · show recoveryOf s.config recovery.request = _
          rw [hasked, ← hnone]
        · rw [hnone] at hread
          cases hread
  | fetchGrant binding index =>
    simp only [RunnerState.step]
    split
    · next recovery hindex =>
      split
      · exact h
      · split
        · next control hread =>
          intro other hother
          rcases List.mem_or_eq_of_mem_set hother with hold | rfl
          · exact (h other hold).keep rfl fun _ _ _ => id
          · obtain ⟨hcommand, hforeign, hasked, -⟩ := h recovery (List.mem_of_getElem? hindex)
            obtain ⟨hstored, hsealed, hhandoff⟩ := readEnded_stored hread
            refine ⟨hcommand, hforeign, hasked, fun other hother => ?_⟩
            cases Option.some.inj hother
            exact ⟨hstored, hsealed, hhandoff rfl⟩
        · exact h.keep rfl (fun _ => List.mem_of_mem_eraseIdx) fun _ _ _ _ _ => id
    · exact h
  | fetchFiles index =>
    simp only [RunnerState.step]
    split
    · split
      · exact h.keep rfl (fun _ => List.mem_of_mem_eraseIdx) fun _ _ _ _ _ => id
      · exact h
    · exact h

/-! ### What a request of another binding changes -/

/-- The request is a return of the handoff whose ended grant is stored for its owner, and the
    answer is the checkpoint of that workspace. -/
def FetchesOwn (s : RunnerState) (request : RunnerRequest) (answer : WorkspaceCheckpoint) : Prop :=
  request.command = some "return" ∧ isCurrent s.config request = false ∧
    request.pluginId = some s.config.pluginId ∧
    ∃ owner control, request.owner = some owner ∧ (s.stores owner).control = some control ∧
      control.executor = some .onLocal ∧ control.expiresAtMs = some 0 ∧ control.enabled = false ∧
      request.handoffId = some control.handoffId ∧
      answer = returnedCheckpoint control (s.stores owner)

/-- Every file stays, and so does what is armed, but for a schedule of a grant that has ended;
    and an answer is given at most to a device that fetches its own handoff. -/
structure OnlyFetches (s s' : RunnerState) : Prop where
  stores : s'.stores = s.stores
  credentials : s'.credentials = s.credentials
  config : s'.config = s.config
  armed : ∀ owner, s'.armed owner = s.armed owner ∨
    s'.armed owner = none ∧ ∃ control, (s.stores owner).control = some control ∧
      control.executor = some .onLocal ∧ control.expiresAtMs = some 0 ∧ control.enabled = false
  answers : s'.answers = s.answers ∨ ∃ request answer,
    s'.answers = s.answers ++ [(request, answer)] ∧ FetchesOwn s request answer

theorem OnlyFetches.refl (s : RunnerState) : OnlyFetches s s :=
  ⟨rfl, rfl, rfl, fun _ => Or.inl rfl, Or.inl rfl⟩

/-- **A request of another binding only fetches**, in each of its steps. -/
theorem onlyFetches_step {s : RunnerState} (h : Served s) (event : RunnerEvent)
    (hforeign : event.isForeign = true) : OnlyFetches s (s.step hash event) := by
  cases event with
  | request request registry =>
    show OnlyFetches s (s.dispatchForeign request registry)
    rcases dispatchForeign_cases s request registry with
      heq | ⟨recovery, control, -, -, -, -, -, hstored, hsealed, heq⟩
    · rw [heq]
      exact OnlyFetches.refl s
    · rw [heq]
      refine ⟨rfl, rfl, rfl, fun owner => ?_, Or.inl rfl⟩
      by_cases howner : owner = recovery.owner
      · refine Or.inr ⟨?_, control, howner ▸ hstored, isSealed_iff.mp hsealed⟩
        rw [howner]
        exact Function.update_self ..
      · exact Or.inl (Function.update_of_ne howner ..)
  | fetchGrant binding index =>
    simp only [RunnerState.step]
    split
    · split
      · exact OnlyFetches.refl s
      · split
        · exact ⟨rfl, rfl, rfl, fun _ => Or.inl rfl, Or.inl rfl⟩
        · exact ⟨rfl, rfl, rfl, fun _ => Or.inl rfl, Or.inl rfl⟩
    · exact OnlyFetches.refl s
  | fetchFiles index =>
    simp only [RunnerState.step]
    split
    · next recovery hindex =>
      split
      · next control hreading =>
        refine ⟨rfl, rfl, rfl, fun _ => Or.inl rfl, Or.inr ⟨recovery.request, _, rfl, ?_⟩⟩
        obtain ⟨hcommand, hother, hasked, hserved⟩ := h recovery (List.mem_of_getElem? hindex)
        obtain ⟨hstored, hsealed, hhandoff⟩ := hserved control hreading
        obtain ⟨hlocal, hexpired, hdisabled⟩ := isSealed_iff.mp hsealed
        obtain ⟨-, -, howner, hrequested, hplugin⟩ := recoveryOf_some hasked
        refine ⟨hcommand, hother, hplugin, recovery.owner, control, howner, hstored, hlocal,
          hexpired, hdisabled, ?_, rfl⟩
        rw [hhandoff]
        exact hrequested
      · exact OnlyFetches.refl s
    · exact OnlyFetches.refl s
  | _ => cases hforeign

/-- **A replaced device only fetches its own sealed handoff**, whatever the current installation
    does meanwhile. -/
theorem replacedDevice_fetches {s : RunnerState} (hidle : s.recoveries = [])
    (events : List RunnerEvent) :
    Along (RunnerState.step hash)
      (fun s event => event.isForeign = true → OnlyFetches s (s.step hash event)) s events := by
  have hserved : Served s := by
    intro recovery hrecovery
    rw [hidle] at hrecovery
    cases hrecovery
  clear hidle
  induction events generalizing s with
  | nil => exact trivial
  | cons event rest ih =>
    rw [Along]
    exact ⟨onlyFetches_step hash hserved event, ih (hserved.step hash event)⟩

end Runner

/-! A grant that is sent back while a resumption has read it and not yet armed its schedule. -/

section Sample

/-- A runner with an assigned grant. -/
def assignedRunner : RunnerState where
  stores := fun _ => assignedStore
  credentials := none
  config := ⟨digits '0', "bot", "plugin", digits 'd', digits 'e'⟩
  armed := fun _ => none
  closing := false
  acting := none
  resuming := []
  recoveries := []
  answers := []

/-- The grant is sent back between the two halves of a resumption. -/
def lateResumption : List RunnerEvent :=
  [.resumeRead sampleBinding 0 false, .giveBack sampleBinding none, .resumeArm "plugin" 0 0]

/-- The request of a device whose executor is another one. -/
def otherDevice : RunnerRequest :=
  ⟨some "return", some (digits '0'), some "bot", some "old plugin", some (digits 'd'),
    some (digits 'f'), some (some (digits '1')), 7⟩

def boundRegistry : RunnerRegistry :=
  ⟨[⟨"plugin", "bot", some "plugin_workspace_v1"⟩], some "plugin", some (digits 'd'), true⟩

theorem otherDevice_fetches :
    Along (RunnerState.step workspaceHash)
      (fun s event => event.isForeign = true → OnlyFetches s (s.step workspaceHash event))
      assignedRunner
      (lateResumption ++ [.request otherDevice boundRegistry, .fetchGrant sampleBinding 0,
        .fetchFiles 0]) :=
  replacedDevice_fetches workspaceHash rfl _

/-- **A schedule that was armed late for a grant that has ended is cleared by the request of
    another device.** -/
theorem lateSchedule_cleared :
    assignedRunner.recoveries = [] ∧
      isCurrent assignedRunner.config otherDevice = false ∧
      ((replay (RunnerState.step workspaceHash) assignedRunner lateResumption).armed
        assignedRunner.config.owner).isSome = true ∧
      ((replay (RunnerState.step workspaceHash) assignedRunner
        (lateResumption ++ [.request otherDevice boundRegistry])).armed
          assignedRunner.config.owner) = none := by
  refine ⟨rfl, by decide +kernel, by decide +kernel, by decide +kernel⟩

end Sample

end Hivra
