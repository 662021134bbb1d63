import Hivra.Host.ReturnRetry

namespace Hivra

open Replay

/-!
# A handoff that comes again

A checkpoint may be delivered more than once.  The VPS knows the handoff by its id and by the
digest of what never changes in it, whatever the owner has done with the grant since; it then runs
no start action and only passes a stop on.
-/

/-- How a start action ends: the state it leaves, and whether it failed. -/
structure StartRun where
  workspace : Option String
  effects : Option String
  failed : Bool

/-- What the VPS stores, the start actions it has run for handoffs, and the grants it has stored
    since it took the last one over. -/
structure VpsState where
  store : WorkspaceStore
  started : List String
  seen : List (Option ExecutionControl)

/-- What the owner asks for to revoke a grant. -/
def revokeArgs : ExecutionArgs where
  enabled := false
  expiresAtMs := none
  expectedRevision := none
  revoke := true
  approvedScope := none
  credentials := none
  settings := none
  releaseToExecutorId := none

section Vps

variable (hash : WorkspaceCheckpoint → String) (identity : String)

/-- The grant is the one that the checkpoint was taken over with. -/
def isAcknowledged (checkpoint : WorkspaceCheckpoint) (previous : ExecutionControl) : Bool :=
  previous.handoffId == checkpoint.execution.handoffId &&
    previous.handoffDigest == some (hash (immutablePart checkpoint)) &&
    previous.executor == some .onVps

/-- The VPS has taken a handoff over: it runs the start action of the scope, if there is one, and
    revokes the grant if that fails. -/
def runStart (binding : PackageBinding) (nowMs : ℤ) (startAction : Option String) (start : StartRun)
    (s : VpsState) : VpsState :=
  match startAction with
  | none => s
  | some action =>
    let left : VpsState :=
      { s with
        store := { s.store with workspace := start.workspace, effects := start.effects }
        started := s.started ++ [action] }
    if start.failed then
      match setWorkspaceExecution (vpsHost identity) binding nowMs "" s.store.control revokeArgs
          s.store.control with
      | some control =>
        { left with
          store := { left.store with control := some control }
          seen := left.seen ++ [some control] }
      | none => left
    else left

/-- A checkpoint is delivered. -/
def deliver (binding : PackageBinding) (nowMs : ℤ) (checkpoint : WorkspaceCheckpoint)
    (start : StartRun) (s : VpsState) : VpsState :=
  match adoptWorkspaceFromLocal hash (vpsHost identity) binding nowMs checkpoint s.store with
  | none => s
  | some adopted =>
    if s.store.control.any (isAcknowledged hash checkpoint) then
      { s with store := adopted, seen := s.seen ++ [adopted.control] }
    else
      runStart identity binding nowMs checkpoint.execution.scope.startAction start
        { s with store := adopted, seen := [adopted.control] }

inductive VpsEvent
  /-- An action leaves a state and a journal. -/
  | act (workspace effects : Option String)
  /-- The owner starts, stops or revokes, after reviewing a grant. -/
  | set (binding : PackageBinding) (nowMs : ℤ) (handoff : String)
      (reviewed : Option ExecutionControl) (args : ExecutionArgs)
  | giveBack (binding : PackageBinding) (handoffId : Option String) (requireSealed : Bool)
  | deliver (binding : PackageBinding) (nowMs : ℤ) (checkpoint : WorkspaceCheckpoint)
      (start : StartRun)

/-- A grant is stored. -/
def VpsState.withControl (s : VpsState) (control : ExecutionControl) : VpsState :=
  { s with store := { s.store with control := some control }, seen := s.seen ++ [some control] }

/-- One event at the VPS. -/
def VpsState.step (s : VpsState) : VpsEvent → VpsState
  | .act workspace effects =>
    { s with store := { s.store with workspace := workspace, effects := effects } }
  | .set binding nowMs handoff reviewed args =>
    match setWorkspaceExecution (vpsHost identity) binding nowMs handoff reviewed args
        s.store.control with
    | some control => s.withControl control
    | none => s
  | .giveBack binding handoffId requireSealed =>
    match returnWorkspaceToLocal (vpsHost identity) binding handoffId requireSealed s.store with
    | some (control, _) => s.withControl control
    | none => s
  | .deliver binding nowMs checkpoint start =>
    Hivra.deliver hash identity binding nowMs checkpoint start s

end Vps

/-! ### Holding a handoff -/

/-- The VPS has a grant of the handoff. -/
def VpsState.Holds (s : VpsState) (handoffId : Option String) : Prop :=
  ∃ control ∈ s.store.control, control.executor = some .onVps ∧ control.handoffId = handoffId

/-- It still has one after the event. -/
def StillHolds (hash : WorkspaceCheckpoint → String) (identity : String)
    (handoffId : Option String) (s : VpsState) (event : VpsEvent) : Prop :=
  (s.step hash identity event).Holds handoffId

/-- The grant that was reviewed is one the VPS has stored since it took the handoff over. -/
def ReviewsSince (s : VpsState) : VpsEvent → Prop
  | .set _ _ _ reviewed _ => reviewed ∈ s.seen
  | _ => True

/-- Every grant since the handoff was taken over is one of the handoff. -/
structure HeldSince (handoffId digest : Option String) (s : VpsState) : Prop where
  stored : ∃ control, s.store.control = some control ∧ some control ∈ s.seen
  seen : ∀ control, some control ∈ s.seen →
    control.executor = some .onVps ∧ control.handoffId = handoffId ∧ control.handoffDigest = digest

section Replayed

variable {hash : WorkspaceCheckpoint → String} {identity : String} {handoffId digest : Option String}
  {binding : PackageBinding} {handoff : String} {nowMs : ℤ}
  {reviewed stored : Option ExecutionControl} {control : ExecutionControl}

/-- What a start or stop on the VPS keeps of the grant that was reviewed. -/
theorem setWorkspaceExecution_keeps {args : ExecutionArgs}
    (h : setWorkspaceExecution (vpsHost identity) binding nowMs handoff reviewed args stored
      = some control) (hhandoff : control.handoffId.isSome = true) :
    control.executor = some .onVps ∧ ∃ original, reviewed = some original ∧
      control.handoffId = original.handoffId ∧ control.handoffDigest = original.handoffDigest := by
  refine ⟨(setWorkspaceExecution_there h).1, ?_⟩
  obtain ⟨hrelease, previous, current, hprevious, -, -, hnext⟩ := setWorkspaceExecution_passed h
  have hnone : args.releaseToExecutorId = none := by
    cases hid : args.releaseToExecutorId with
    | none => rfl
    | some executorId => cases (hrelease executorId hid).2
  have hkept : ∃ original, previous = some original ∧
      control.handoffId = original.handoffId ∧ control.handoffDigest = original.handoffDigest := by
    unfold nextControl at hnext
    rw [hnone] at hnext
    split at hnext
    · split at hnext
      · split at hnext
        · cases hnext
        · cases hnext
          cases previous with
          | none => cases hhandoff
          | some original => exact ⟨original, rfl, rfl, rfl⟩
      · cases hnext
    · obtain ⟨original, rfl, rfl⟩ := Option.map_eq_some_iff.mp hnext
      exact ⟨original, rfl, rfl, rfl⟩
  obtain ⟨original, rfl, hsame⟩ := hkept
  exact ⟨original, readExecution_stored hprevious, hsame⟩

/-- A stop changes the flags of the grant that was reviewed. -/
theorem setWorkspaceExecution_stops {args : ExecutionArgs} (hstop : args.enabled = false)
    (h : setWorkspaceExecution (vpsHost identity) binding nowMs handoff reviewed args stored
      = some control) :
    ∃ original, reviewed = some original ∧ control = { original with
      enabled := false
      revoked := if args.revoke then some true else original.revoked
      revision := original.revision + 1 } := by
  obtain ⟨-, previous, current, hprevious, -, -, hnext⟩ := setWorkspaceExecution_passed h
  unfold nextControl at hnext
  rw [hstop, if_neg Bool.false_ne_true] at hnext
  obtain ⟨original, rfl, rfl⟩ := Option.map_eq_some_iff.mp hnext
  exact ⟨original, readExecution_stored hprevious, rfl⟩

/-- A grant with at most its flags changed by a stop. -/
def Stopped (control stopped : ExecutionControl) : Prop :=
  stopped = control ∨ ∃ revoked, (revoked = control.revoked ∨ revoked = some true) ∧
    stopped = { control with
      enabled := false
      revoked := revoked
      revision := control.revision + 1 }

theorem Stopped.same {control stopped : ExecutionControl} (h : Stopped control stopped) :
    stopped.executor = control.executor ∧ stopped.handoffId = control.handoffId ∧
      stopped.handoffDigest = control.handoffDigest := by
  rcases h with rfl | ⟨revoked, -, rfl⟩
  · exact ⟨rfl, rfl, rfl⟩
  · exact ⟨rfl, rfl, rfl⟩

variable {checkpoint : WorkspaceCheckpoint} {store adopted : WorkspaceStore}

/-- **What a VPS that holds a handoff takes of a checkpoint**: a stop of the same handoff. -/
theorem adopt_remote {previous : ExecutionControl} (hstored : store.control = some previous)
    (hremote : previous.executor = some .onVps)
    (h : adoptWorkspaceFromLocal hash (vpsHost identity) binding nowMs checkpoint store
      = some adopted) :
    isAcknowledged hash checkpoint previous = true ∧
      ∃ control, Stopped previous control ∧ adopted = { store with control := some control } := by
  unfold adoptWorkspaceFromLocal at h
  dsimp only at h
  split at h
  · cases h
  · split at h
    · cases h
    · -- A grant is stored, so this is no first adoption.
      split at h
      · cases h
      · next hempty =>
        rw [hstored] at hempty
        simp at hempty
    · next read hread =>
      have hsame := readExecution_stored hread
      rw [hstored] at hsame
      cases hsame
      split at h
      · next hacknowledged =>
        refine ⟨?_, ?_⟩
        · rw [isAcknowledged, Bool.and_eq_true, Bool.and_eq_true, beq_iff_eq, beq_iff_eq,
            beq_iff_eq]
          exact ⟨⟨hacknowledged.1, hacknowledged.2.1⟩, hacknowledged.2.2⟩
        · split at h
          · refine ⟨_, Or.inr ⟨_, ?_, rfl⟩, (Option.some.inj h).symm⟩
            split
            · exact Or.inr rfl
            · exact Or.inl rfl
          · refine ⟨previous, Or.inl rfl, ?_⟩
            rw [← Option.some.inj h, ← hstored]
      · split at h
        · cases h
        · next hended =>
          rw [not_or, not_not, hremote] at hended
          cases hended.1

variable {s : VpsState}

/-- **The grants since a handoff was taken over are grants of the handoff.** -/
theorem HeldSince.step {event : VpsEvent} (h : HeldSince (some handoff) digest s)
    (hholds : StillHolds hash identity (some handoff) s event) (hreviews : ReviewsSince s event) :
    HeldSince (some handoff) digest (s.step hash identity event) := by
  have hwith : ∀ control : ExecutionControl, control.executor = some .onVps →
      control.handoffId = some handoff → control.handoffDigest = digest →
      HeldSince (some handoff) digest (s.withControl control) := by
    intro control hvps hhandoff hdigest
    refine ⟨⟨control, rfl, List.mem_append_right _ (List.mem_singleton.mpr rfl)⟩,
      fun other hother => ?_⟩
    rcases List.mem_append.mp hother with hseen | hnew
    · exact h.seen other hseen
    · cases Option.some.inj (List.mem_singleton.mp hnew)
      exact ⟨hvps, hhandoff, hdigest⟩
  cases event with
  | act workspace effects => exact ⟨h.stored, h.seen⟩
  | set binding nowMs drawn reviewed args =>
    unfold StillHolds at hholds
    simp only [VpsState.step] at hholds ⊢
    cases hset : setWorkspaceExecution (vpsHost identity) binding nowMs drawn reviewed args
        s.store.control with
    | none => exact h
    | some control =>
      rw [hset] at hholds
      obtain ⟨held, hheld, -, hhandoff⟩ := hholds
      cases Option.some.inj hheld
      obtain ⟨hvps, original, hreviewed, hid, hdigest⟩ := setWorkspaceExecution_keeps hset
        (by rw [hhandoff]; rfl)
      have hseen := h.seen original (by rw [← hreviewed]; exact hreviews)
      exact hwith control hvps hhandoff (hdigest.trans hseen.2.2)
  | giveBack binding handoffId requireSealed =>
    unfold StillHolds at hholds
    simp only [VpsState.step] at hholds ⊢
    cases hreturn : returnWorkspaceToLocal (vpsHost identity) binding handoffId requireSealed
        s.store with
    | none => exact h
    | some result =>
      obtain ⟨control, checkpoint⟩ := result
      rw [hreturn] at hholds
      obtain ⟨held, hheld, hvps, -⟩ := hholds
      cases Option.some.inj hheld
      -- A grant that is given back is not held.
      rw [(returnWorkspaceToLocal_ok hreturn).2.1] at hvps
      cases hvps
  | deliver binding nowMs checkpoint start =>
    show HeldSince _ _ (Hivra.deliver hash identity binding nowMs checkpoint start s)
    unfold Hivra.deliver
    cases hadopt : adoptWorkspaceFromLocal hash (vpsHost identity) binding nowMs checkpoint
        s.store with
    | none => exact h
    | some adopted =>
      obtain ⟨previous, hstored, hseen⟩ := h.stored
      obtain ⟨hvps, hid, hdigest⟩ := h.seen previous hseen
      obtain ⟨hacknowledged, control, hstopped, rfl⟩ := adopt_remote hstored hvps hadopt
      obtain ⟨hvps', hid', hdigest'⟩ := hstopped.same
      dsimp only
      rw [hstored, Option.any_some, hacknowledged, if_pos rfl]
      exact hwith control (hvps'.trans hvps) (hid'.trans hid) (hdigest'.trans hdigest)

/-- The checkpoint is taken over; it is not one that comes again. -/
def TakesOver (hash : WorkspaceCheckpoint → String) (identity : String) (binding : PackageBinding)
    (nowMs : ℤ) (checkpoint : WorkspaceCheckpoint) (s : VpsState) : Prop :=
  (adoptWorkspaceFromLocal hash (vpsHost identity) binding nowMs checkpoint s.store).isSome = true ∧
    s.store.control.any (isAcknowledged hash checkpoint) = false

instance (hash : WorkspaceCheckpoint → String) (identity : String) (binding : PackageBinding)
    (nowMs : ℤ) (checkpoint : WorkspaceCheckpoint) (s : VpsState) :
    Decidable (TakesOver hash identity binding nowMs checkpoint s) :=
  inferInstanceAs (Decidable (_ ∧ _))

theorem adopt_takesOver (hnew : store.control.any (isAcknowledged hash checkpoint) = false)
    (h : adoptWorkspaceFromLocal hash (vpsHost identity) binding nowMs checkpoint store
      = some adopted) :
    checkpoint.execution.executor = some .onVps ∧ checkpoint.execution.handoffId.isSome = true ∧
      adopted.control = some { checkpoint.execution with
        packageId := binding.recordId
        handoffDigest := some (hash (immutablePart checkpoint)) } := by
  unfold adoptWorkspaceFromLocal at h
  dsimp only at h
  split at h
  · cases h
  · next hchecks =>
    rw [not_or, not_or, not_not] at hchecks
    have hvalid := not_not.mp hchecks.2.1
    simp only [validCheckpoint, Bool.and_eq_true, beq_iff_eq] at hvalid
    refine ⟨hvalid.1.1.1.2, hvalid.1.1.2, ?_⟩
    split at h
    · cases h
    · split at h
      · cases h
      · rw [← Option.some.inj h]
    · next previous hread =>
      have hstored := readExecution_stored hread
      split at h
      · next hacknowledged =>
        rw [hstored, Option.any_some, isAcknowledged] at hnew
        simp [hacknowledged.1, hacknowledged.2.1, hacknowledged.2.2] at hnew
      · split at h
        · cases h
        · rw [← Option.some.inj h]

/-- A handoff that is taken over is held. -/
theorem heldSince_deliver {checkpoint : WorkspaceCheckpoint} {start : StartRun}
    (h : TakesOver hash identity binding nowMs checkpoint s) :
    HeldSince checkpoint.execution.handoffId (some (hash (immutablePart checkpoint)))
      (deliver hash identity binding nowMs checkpoint start s) := by
  obtain ⟨hsome, hnew⟩ := h
  obtain ⟨adopted, hadopt⟩ := Option.isSome_iff_exists.mp hsome
  obtain ⟨hvps, hhandoff, hcontrol⟩ := adopt_takesOver hnew hadopt
  obtain ⟨handoff, hid⟩ := Option.isSome_iff_exists.mp hhandoff
  unfold deliver
  rw [hadopt]
  dsimp only
  rw [hnew, if_neg Bool.false_ne_true]
  have hheld : ∀ (workspace effects : Option String) (started : List String),
      HeldSince checkpoint.execution.handoffId (some (hash (immutablePart checkpoint)))
        ⟨⟨adopted.control, workspace, effects⟩, started, [adopted.control]⟩ := by
    intro workspace effects started
    refine ⟨⟨_, hcontrol, List.mem_singleton.mpr hcontrol.symm⟩, fun control hseen => ?_⟩
    rw [List.mem_singleton, hcontrol] at hseen
    cases Option.some.inj hseen
    exact ⟨hvps, rfl, rfl⟩
  unfold runStart
  cases checkpoint.execution.scope.startAction with
  | none => exact hheld _ _ _
  | some action =>
    dsimp only
    split
    · -- The start action failed, and the grant is revoked.
      split
      · next control hset =>
        obtain ⟨original, horiginal, rfl⟩ := setWorkspaceExecution_stops rfl hset
        rw [hcontrol] at horiginal
        cases Option.some.inj horiginal
        have hrevoked := hheld start.workspace start.effects (s.started ++ [action])
        refine ⟨⟨_, rfl, List.mem_append_right _ (List.mem_singleton.mpr rfl)⟩, ?_⟩
        intro other hother
        rcases List.mem_append.mp hother with hseen | hlast
        · exact hrevoked.seen other hseen
        · cases Option.some.inj (List.mem_singleton.mp hlast)
          exact ⟨hvps, rfl, rfl⟩
      · exact hheld _ _ _
    · exact hheld _ _ _

variable {events : List VpsEvent}

/-- **A grant keeps the handoff it was taken over with**, as long as the VPS has the handoff. -/
theorem heldSince_run (h : HeldSince (some handoff) digest s)
    (hholds : Along (VpsState.step hash identity) (StillHolds hash identity (some handoff)) s events)
    (hreviews : Along (VpsState.step hash identity) ReviewsSince s events) :
    HeldSince (some handoff) digest (replay (VpsState.step hash identity) s events) := by
  induction events generalizing s with
  | nil => exact h
  | cons event rest ih =>
    rw [Along] at hholds hreviews
    rw [replay_cons]
    exact ih (h.step hholds.1 hreviews.1) hholds.2 hreviews.2

/-- Nothing is renewed: the state and the journal stay, no start action runs, and of the grant at
    most the flags change, with its revision. -/
structure Unrenewed (s s' : VpsState) : Prop where
  workspace : s'.store.workspace = s.store.workspace
  effects : s'.store.effects = s.store.effects
  started : s'.started = s.started
  control : ∀ control ∈ s.store.control, ∃ stopped, s'.store.control = some stopped ∧
    Stopped control stopped

variable {handoffId : Option String}

/-- **A handoff that comes again renews nothing.** -/
theorem deliver_unrenewed (hholds : s.Holds handoffId) (binding : PackageBinding) (nowMs : ℤ)
    (checkpoint : WorkspaceCheckpoint) (start : StartRun) :
    Unrenewed s (deliver hash identity binding nowMs checkpoint start s) := by
  obtain ⟨previous, hstored, hremote, -⟩ := hholds
  unfold deliver
  cases hadopt : adoptWorkspaceFromLocal hash (vpsHost identity) binding nowMs checkpoint
      s.store with
  | none => exact ⟨rfl, rfl, rfl, fun control hcontrol => ⟨control, hcontrol, Or.inl rfl⟩⟩
  | some adopted =>
    obtain ⟨hacknowledged, stopped, hstopped, rfl⟩ := adopt_remote hstored hremote hadopt
    dsimp only
    rw [show s.store.control = some previous from hstored, Option.any_some, hacknowledged,
      if_pos rfl]
    refine ⟨rfl, rfl, rfl, fun control hcontrol => ⟨stopped, rfl, ?_⟩⟩
    rw [Option.mem_def, show s.store.control = some previous from hstored] at hcontrol
    cases Option.some.inj hcontrol
    exact hstopped

/-- After a history in which the VPS has the handoff it still has it. -/
theorem holds_of_along (h : s.Holds handoffId)
    (hholds : Along (VpsState.step hash identity) (StillHolds hash identity handoffId) s events) :
    (replay (VpsState.step hash identity) s events).Holds handoffId := by
  induction events generalizing s with
  | nil => exact h
  | cons event rest ih =>
    rw [Along] at hholds
    rw [replay_cons]
    exact ih hholds.1 hholds.2

/-- The same handoff, with any flags and revision in its grant. -/
def SameHandoff (checkpoint again : WorkspaceCheckpoint) : Prop :=
  immutablePart again = immutablePart checkpoint

end Replayed

/-! A handoff with a start action comes again after the owner has stopped it. -/

section Sample

instance (s : VpsState) (handoffId : Option String) : Decidable (s.Holds handoffId) :=
  inferInstanceAs (Decidable (∃ control ∈ s.store.control, control.executor = some .onVps ∧
    control.handoffId = handoffId))

instance (hash : WorkspaceCheckpoint → String) (identity : String) (handoffId : Option String)
    (s : VpsState) (event : VpsEvent) : Decidable (StillHolds hash identity handoffId s event) :=
  inferInstanceAs (Decidable ((s.step hash identity event).Holds handoffId))

/-- A checkpoint with these flags in its grant. -/
def handedOver (enabled : Bool) (revision : ℤ) : WorkspaceCheckpoint where
  packageDigest := digits 'd'
  execution := { assignedControl with
    scope := ⟨2, some "tick", some "start", "none"⟩
    enabled := enabled
    revision := revision }
  workspace := some "handed over"
  effects := none

/-- A VPS that has taken the checkpoint over and run its start action. -/
def startedVps : VpsState :=
  deliver workspaceHash (digits 'e') sampleBinding 0 (handedOver true 1)
    ⟨some "started", none, false⟩ ⟨⟨none, none, none⟩, [], []⟩

/-- An action, and the owner stops the workspace. -/
def stoppedHistory : List VpsEvent :=
  [.act (some "gone on") none,
    .set sampleBinding 0 "" startedVps.store.control { revokeArgs with revoke := false }]

end Sample

end Hivra
