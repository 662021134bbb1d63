import Hivra.Host.WorkspaceCustody

namespace Hivra

open Replay

/-!
# At most one host executes

The VPS refuses a checkpoint whose handoff is that of the grant it holds, but it remembers
only the latest handoff.  So a checkpoint of an earlier handoff is adopted once more after a
later one has ended, and a VPS that holds nothing may start on its own.  Where neither
happens, the authority is local, in transit or remote.

* `atMostOneExecutes` — in such a run the two hosts never execute together.
-/

/-- A stored grant is assigned to the VPS. -/
def WorkspaceStore.Remote (store : WorkspaceStore) : Prop :=
  ∃ control ∈ store.control, control.executor = some .onVps

instance (store : WorkspaceStore) : Decidable store.Remote :=
  inferInstanceAs (Decidable (∃ control ∈ store.control, control.executor = some .onVps))

/-- A stored grant that is not assigned to the VPS carries a handoff. -/
def WorkspaceStore.EndedWith (store : WorkspaceStore) (handoffId : Option String) : Prop :=
  ∃ control ∈ store.control, control.executor ≠ some .onVps ∧ control.handoffId = handoffId

instance (store : WorkspaceStore) (handoffId : Option String) :
    Decidable (store.EndedWith handoffId) :=
  inferInstanceAs (Decidable (∃ control ∈ store.control, _ ∧ _))

/-- No checkpoint carries a handoff. -/
def Custody.Unused (s : Custody) (handoff : String) : Prop :=
  (∀ checkpoint ∈ s.released, checkpoint.execution.handoffId ≠ some handoff) ∧
    ∀ checkpoint ∈ s.returned, checkpoint.execution.handoffId ≠ some handoff

instance (s : Custody) (handoff : String) : Decidable (s.Unused handoff) :=
  inferInstanceAs (Decidable ((∀ checkpoint ∈ s.released, checkpoint.execution.handoffId ≠ some handoff) ∧
    ∀ checkpoint ∈ s.returned, checkpoint.execution.handoffId ≠ some handoff))

/-- A checkpoint is of the handoff that the local host is waiting for, unless the VPS has a grant
    or has ended with the same handoff. -/
def Custody.Awaits (s : Custody) (checkpoint : WorkspaceCheckpoint) : Prop :=
  s.there.Remote ∨ s.there.EndedWith checkpoint.execution.handoffId ∨
    ∃ control ∈ s.here.control, control.executor = some .onVps ∧
      control.handoffId = checkpoint.execution.handoffId

instance (s : Custody) (checkpoint : WorkspaceCheckpoint) : Decidable (s.Awaits checkpoint) :=
  inferInstanceAs (Decidable (_ ∨ _ ∨ ∃ control ∈ s.here.control, _ ∧ _))

/-- What a step must meet: a new handoff is unused, the VPS starts only a grant it stores, and
    it takes over only the handoff the local host is waiting for. -/
def CustodyStep.Meets (s : Custody) : CustodyStep → Prop
  | .setHere _ _ handoff _ _ => s.Unused handoff
  | .release _ handoff _ => s.Unused handoff
  | .setThere _ _ _ _ args => args.enabled = true → s.there.control.isSome = true
  | .adopt _ _ index => ∀ checkpoint ∈ s.released[index]?, s.Awaits checkpoint
  | _ => True

instance (s : Custody) : DecidablePred (CustodyStep.Meets s)
  | .setHere _ _ handoff _ _ | .release _ handoff _ => inferInstanceAs (Decidable (s.Unused handoff))
  | .setThere _ _ _ _ args =>
    inferInstanceAs (Decidable (args.enabled = true → s.there.control.isSome = true))
  | .adopt _ _ index =>
    inferInstanceAs (Decidable (∀ checkpoint ∈ s.released[index]?, s.Awaits checkpoint))
  | .setReleased .. | .giveBack .. | .checkReturn .. | .restore | .dropReturn | .workHere ..
  | .workThere .. => isTrue trivial

/-- The custody invariant. -/
structure InCustody (s : Custody) : Prop where
  remote : s.there.Remote → s.here.Remote
  returned : ∀ checkpoint ∈ s.returned, ∀ control ∈ s.here.control,
    control.executor = some .onVps → control.handoffId.isSome = true →
    control.handoffId = checkpoint.execution.handoffId → s.there.EndedWith control.handoffId
  restoring : ∀ binding checkpoint, s.restoring = some (binding, checkpoint) →
    checkpoint.execution.executor = some .onLocal ∧ s.here.Remote ∧
      s.there.EndedWith checkpoint.execution.handoffId ∧
      ∀ control ∈ s.here.control, control.handoffId = checkpoint.execution.handoffId ∨
        ∀ sent ∈ s.released, sent.execution.handoffId ≠ control.handoffId

/-! ### What the operations do -/

section Operations

variable {host : ExecutionHost} {binding : PackageBinding} {nowMs : ℤ} {handoff : String}

/-- What is read is what is stored, or nothing. -/
theorem readExecution_cases {enforce allow : Bool} {original : ExecutionControl}
    {read : Option ExecutionControl}
    (h : readExecution host binding enforce allow (some original) = some read) :
    (enforce = true → original.executor.getD .onLocal = host.place) ∧
      (read = some original ∨ read = none) := by
  unfold readExecution at h
  dsimp only at h
  split_ifs at h with hvalid hplace hother
  · exact ⟨fun henforce => not_not.mp fun hne => hplace ⟨henforce, Or.inl hne⟩,
      Or.inr (Option.some.inj h).symm⟩
  · exact ⟨fun henforce => not_not.mp fun hne => hplace ⟨henforce, Or.inl hne⟩,
      Or.inl (Option.some.inj h).symm⟩

variable {control : ExecutionControl}

theorem readExecution_stored {enforce allow : Bool} {stored : Option ExecutionControl}
    (h : readExecution host binding enforce allow stored = some (some control)) :
    stored = some control := by
  cases stored with
  | none => cases h
  | some original =>
    rcases (readExecution_cases h).2 with heq | hnone
    · exact heq.symm
    · cases hnone

variable {args : ExecutionArgs}

/-- Where a grant is that replaces the previous one. -/
theorem nextControl_executor {previous : Option ExecutionControl}
    (h : nextControl host binding handoff previous args = some control) :
    (args.enabled = true ∧ args.releaseToExecutorId.isSome = true ∧
        control.executor = some .onVps ∧ control.handoffId = some handoff) ∨
      (args.enabled = true ∧ args.releaseToExecutorId = none ∧
        control.executor = some host.place) ∨
      (args.enabled = false ∧ ∃ original, previous = some original ∧
        control.executor = original.executor) := by
  unfold nextControl at h
  split at h
  · rename_i henabled
    split at h
    · split at h
      · cases h
      · have heq := (Option.some.inj h).symm
        cases hrelease : args.releaseToExecutorId with
        | none =>
          refine Or.inr (Or.inl ⟨henabled, rfl, ?_⟩)
          rw [heq]
          simp [hrelease]
        | some executorId =>
          refine Or.inl ⟨henabled, rfl, ?_⟩
          rw [heq]
          simp [hrelease]
    · cases h
  · rename_i henabled
    obtain ⟨original, hprevious, heq⟩ := Option.map_eq_some_iff.mp h
    exact Or.inr (Or.inr ⟨by simpa using henabled, original, hprevious, by rw [← heq]⟩)

variable {reviewed stored : Option ExecutionControl}

/-- What a start or stop has passed. -/
theorem setWorkspaceExecution_passed
    (h : setWorkspaceExecution host binding nowMs handoff reviewed args stored = some control) :
    (∀ executorId, args.releaseToExecutorId = some executorId →
        args.enabled = true ∧ host.place = .onLocal) ∧
      ∃ previous current,
        readExecution host binding args.releaseToExecutorId.isNone false reviewed
          = some previous ∧
        readExecution host binding args.releaseToExecutorId.isNone false stored = some current ∧
        current.map ExecutionControl.revision = previous.map ExecutionControl.revision ∧
        nextControl host binding handoff previous args = some control := by
  unfold setWorkspaceExecution at h
  split at h
  · cases h
  · split at h
    · cases h
    · rename_i hrelease
      split at h
      · rename_i previous current hprevious hcurrent
        split_ifs at h with hexpected hrevision
        refine ⟨?_, previous, current, hprevious, hcurrent, not_not.mp hrevision,
          (Option.filter_eq_some_iff.mp h).1⟩
        intro executorId heq
        simp only [heq, Option.any_some, Bool.or_eq_true, Bool.not_eq_true', bne_iff_ne, ne_eq,
          not_or, not_not, Bool.not_eq_false] at hrelease
        exact hrelease.1
      · cases h

/-- A start or stop on the local host either hands the grant over under a new handoff, or
    replaces a local grant by a local one. -/
theorem setWorkspaceExecution_here
    (h : setWorkspaceExecution localHost binding nowMs handoff reviewed args stored
      = some control) :
    (control.executor = some .onVps ∧ control.handoffId = some handoff) ∨
      (control.executor ≠ some .onVps ∧ ∀ original ∈ stored, original.executor ≠ some .onVps) := by
  obtain ⟨hrelease, previous, current, hprevious, hcurrent, -, hnext⟩ :=
    setWorkspaceExecution_passed h
  -- a grant that was read in its place is not one of the VPS
  have hplace : ∀ {read : Option ExecutionControl} {original : ExecutionControl},
      readExecution localHost binding true false (some original) = some read →
      original.executor ≠ some .onVps := by
    intro read original hread heq
    have hlocal := (readExecution_cases hread).1 rfl
    rw [heq] at hlocal
    cases hlocal
  rcases nextControl_executor hnext with ⟨-, -, hvps⟩ | ⟨-, hnone, hhere⟩ |
      ⟨hstop, original, heq, hsame⟩
  · exact Or.inl hvps
  · rw [hnone] at hcurrent
    refine Or.inr ⟨by rw [hhere]; simp [localHost], ?_⟩
    intro other hother
    rw [Option.mem_def] at hother
    rw [hother] at hcurrent
    exact hplace hcurrent
  · have hnone : args.releaseToExecutorId = none := by
      cases hid : args.releaseToExecutorId with
      | none => rfl
      | some executorId =>
        rw [(hrelease executorId hid).1] at hstop
        cases hstop
    rw [hnone] at hprevious hcurrent
    rw [heq] at hprevious
    have hreviewed := readExecution_stored hprevious
    rw [hreviewed] at hprevious
    refine Or.inr ⟨by rw [hsame]; exact hplace hprevious, ?_⟩
    intro other hother
    rw [Option.mem_def] at hother
    rw [hother] at hcurrent
    exact hplace hcurrent

variable {identity : String}

/-- A start or stop on the VPS replaces a grant of the VPS by one; only a start may do with
    none. -/
theorem setWorkspaceExecution_there
    (h : setWorkspaceExecution (vpsHost identity) binding nowMs handoff reviewed args stored
      = some control) :
    control.executor = some .onVps ∧
      ((stored = none ∧ args.enabled = true) ∨
        ∃ original, stored = some original ∧ original.executor = some .onVps) := by
  obtain ⟨hrelease, previous, current, hprevious, hcurrent, hrevision, hnext⟩ :=
    setWorkspaceExecution_passed h
  have hnone : args.releaseToExecutorId = none := by
    cases hid : args.releaseToExecutorId with
    | none => rfl
    | some executorId => cases (hrelease executorId hid).2
  rw [hnone] at hprevious hcurrent
  have hplace : ∀ {read : Option ExecutionControl} {original : ExecutionControl},
      readExecution (vpsHost identity) binding true false (some original) = some read →
      original.executor = some .onVps := by
    intro read original hread
    have hvps := (readExecution_cases hread).1 rfl
    cases hexecutor : original.executor with
    | none =>
      rw [hexecutor] at hvps
      cases hvps
    | some place =>
      rw [hexecutor] at hvps
      rw [show place = .onVps from hvps]
  have hstored : (stored = none ∧ current = none) ∨
      ∃ original, stored = some original ∧ original.executor = some .onVps := by
    cases stored with
    | none => exact Or.inl ⟨rfl, (Option.some.inj hcurrent).symm⟩
    | some original => exact Or.inr ⟨original, rfl, hplace hcurrent⟩
  rcases nextControl_executor hnext with ⟨-, hsome, -⟩ | ⟨hstart, -, hthere⟩ |
      ⟨hstop, original, heq, hsame⟩
  · rw [hnone] at hsome
    cases hsome
  · exact ⟨hthere, hstored.imp (fun hempty => ⟨hempty.1, hstart⟩) id⟩
  · rw [heq] at hprevious hrevision
    have hreviewed := readExecution_stored hprevious
    rw [hreviewed] at hprevious
    refine ⟨by rw [hsame]; exact hplace hprevious, ?_⟩
    rcases hstored with ⟨-, hempty⟩ | hthere
    · rw [hempty] at hrevision
      cases hrevision
    · exact Or.inr hthere

variable {checkpoint : WorkspaceCheckpoint} {store : WorkspaceStore} {executorId : String}

/-- A release leaves a grant of the VPS as it is, or hands a local one over. -/
theorem releaseWorkspaceToVps_ok
    (h : releaseWorkspaceToVps host binding handoff executorId store = some (control, checkpoint)) :
    control.executor = some .onVps ∧
      checkpoint = ⟨control.packageDigest, control, store.workspace, store.effects⟩ ∧
      (store.control = some control ∨ control.handoffId = some handoff) := by
  unfold releaseWorkspaceToVps at h
  split at h
  · cases h
  · split at h
    · rename_i stored hread
      dsimp only at h
      split at h
      · cases h
      · split at h
        · cases h
        · rw [Option.some.injEq, Prod.mk.injEq] at h
          obtain ⟨rfl, rfl⟩ := h
          have hstored := readExecution_stored hread
          unfold releasedControl
          by_cases hvps : stored.executor = some .onVps
          · rw [if_pos hvps]
            exact ⟨hvps, rfl, Or.inl hstored⟩
          · rw [if_neg hvps]
            exact ⟨rfl, rfl, Or.inr rfl⟩
    · cases h

/-- Recording a start or stop keeps the place and the handoff. -/
theorem setReleasedWorkspaceEntries_ok {enabled revoke : Bool} {expectedRevision : Option ℤ}
    {stored : Option ExecutionControl}
    (h : setReleasedWorkspaceEntries host binding executorId enabled revoke expectedRevision stored
      = some control) :
    ∃ original, stored = some original ∧ original.executor = some .onVps ∧
      control.executor = some .onVps ∧ control.handoffId = original.handoffId := by
  unfold setReleasedWorkspaceEntries at h
  split at h
  · cases h
  · split at h
    · rename_i original hread
      split at h
      · cases h
      · rename_i hvps
        rw [not_or, not_not] at hvps
        rw [Option.some.injEq] at h
        rw [← h]
        exact ⟨original, readExecution_stored hread, hvps.1, hvps.1, rfl⟩
    · cases h

variable {hash : WorkspaceCheckpoint → String}

/-- An adoption keeps the grant of the VPS, or takes another handoff over where it has none. -/
theorem adoptWorkspaceFromLocal_ok {store store' : WorkspaceStore}
    (h : adoptWorkspaceFromLocal hash (vpsHost identity) binding nowMs checkpoint store
      = some store') :
    (∃ original control, store.control = some original ∧
        store' = { store with control := some control } ∧
        original.executor = some .onVps ∧ control.executor = some .onVps ∧
        control.handoffId = original.handoffId) ∨
      (¬ store.Remote ∧ ¬ store.EndedWith checkpoint.execution.handoffId ∧
        ∃ control,
          store' = ⟨some control, store.workspace <|> checkpoint.workspace,
            if store.workspace.isSome then store.effects
              else checkpoint.effects <|> store.effects⟩ ∧
          control.executor = some .onVps ∧
          control.handoffId = checkpoint.execution.handoffId) := by
  unfold adoptWorkspaceFromLocal at h
  dsimp only at h
  split at h
  · cases h
  · rename_i hchecks
    simp only [not_or, not_not] at hchecks
    obtain ⟨-, hvalid, -, -, -, hschedules⟩ := hchecks
    have hvps : checkpoint.execution.executor = some .onVps := by
      simp only [validCheckpoint, Bool.and_eq_true, beq_iff_eq] at hvalid
      exact hvalid.1.1.1.2
    split at h
    · cases h
    · -- nothing was read, and nothing is stored
      split at h
      · cases h
      · rename_i hempty
        simp only [not_or, Bool.not_eq_true, Option.isSome_eq_false_iff,
          Option.isNone_iff_eq_none] at hempty
        refine Or.inr ⟨?_, ?_, _, (Option.some.inj h).symm, hvps, rfl⟩
        · rintro ⟨control, hcontrol, -⟩
          rw [hempty.2.2] at hcontrol
          cases hcontrol
        · rintro ⟨control, hcontrol, -⟩
          rw [hempty.2.2] at hcontrol
          cases hcontrol
    · rename_i previous hread
      have hstored := readExecution_stored hread
      split at h
      · rename_i hsame
        split at h
        · exact Or.inl ⟨previous, _, hstored, (Option.some.inj h).symm, hsame.2.2, hsame.2.2, rfl⟩
        · refine Or.inl ⟨previous, previous, hstored, ?_, hsame.2.2, hsame.2.2, rfl⟩
          rw [← Option.some.inj h, ← hstored]
      · split at h
        · cases h
        · rename_i hended
          rw [not_or, not_or, not_or, not_not] at hended
          refine Or.inr ⟨?_, ?_, _, (Option.some.inj h).symm, hvps, rfl⟩
          · rintro ⟨control, hcontrol, hremote⟩
            rw [Option.mem_def, hstored, Option.some.injEq] at hcontrol
            rw [← hcontrol, hended.1] at hremote
            cases hremote
          · rintro ⟨control, hcontrol, -, hhandoff⟩
            rw [Option.mem_def, hstored, Option.some.injEq] at hcontrol
            rw [← hcontrol] at hhandoff
            exact hended.2.2.2 hhandoff

/-- A return ends the grant, keeps its handoff, and sends what it leaves. -/
theorem returnWorkspaceToLocal_ok {handoffId : Option String} {requireSealed : Bool}
    (h : returnWorkspaceToLocal (vpsHost identity) binding handoffId requireSealed store
      = some (control, checkpoint)) :
    checkpoint = ⟨control.packageDigest, control, store.workspace, store.effects⟩ ∧
      control.executor = some .onLocal ∧
      ∃ original, store.control = some original ∧ control.handoffId = original.handoffId := by
  unfold returnWorkspaceToLocal at h
  split at h
  · cases h
  · split at h
    · rename_i original hread
      dsimp only at h
      split at h
      · cases h
      · split at h
        · cases h
        · rename_i hsealed
          rw [Option.some.injEq, Prod.mk.injEq] at h
          obtain ⟨rfl, rfl⟩ := h
          have hlocal := not_not.mp hsealed
          simp only [ExecutionControl.isSealed, Bool.and_eq_true, beq_iff_eq] at hlocal
          refine ⟨rfl, hlocal.1.1, original, readExecution_stored hread, ?_⟩
          unfold endedControl
          split <;> rfl
    · cases h

/-- A return that matches ends the grant the local host has handed over. -/
theorem returnMatches_iff (h : returnMatches hash host binding executorId checkpoint store = true) :
    checkpoint.execution.executor = some .onLocal ∧
      (checkpoint.workspace.isSome = true ∨ store.workspace = none) ∧
      ∃ control, store.control = some control ∧ control.executor = some .onVps ∧
        control.handoffId.isSome = true ∧ control.handoffId = checkpoint.execution.handoffId := by
  unfold returnMatches at h
  dsimp only at h
  rw [Bool.and_eq_true, Bool.and_eq_true, Bool.and_eq_true] at h
  obtain ⟨⟨⟨-, hsealed⟩, -⟩, hmatch⟩ := h
  simp only [ExecutionControl.isSealed, Bool.and_eq_true, beq_iff_eq] at hsealed
  split at hmatch
  · rename_i control hread
    simp only [Bool.and_eq_true, beq_iff_eq] at hmatch
    have hretained : checkpoint.workspace.isSome = true ∨ store.workspace = none := by
      simpa using hmatch.1.2
    exact ⟨hsealed.1.1, hretained, control, readExecution_stored hread, hmatch.1.1.1.1.1.1.1,
      hmatch.1.1.1.1.1.2, hmatch.1.1.1.1.2⟩
  · cases hmatch

end Operations

/-! ### The invariant -/

section Invariant

variable {hash : WorkspaceCheckpoint → String} {identity : String} {control : ExecutionControl}

theorem remote_some {workspace effects : Option String} :
    (WorkspaceStore.mk (some control) workspace effects).Remote ↔
      control.executor = some .onVps := by
  simp [WorkspaceStore.Remote]

variable {store : WorkspaceStore}

/-- A store that is assigned to the VPS has not ended. -/
theorem not_endedWith_of_remote (h : store.Remote) (handoffId : Option String) :
    ¬ store.EndedWith handoffId := by
  rintro ⟨control, hcontrol, hended, -⟩
  obtain ⟨other, hother, hremote⟩ := h
  rw [Option.mem_def] at hcontrol hother
  rw [hcontrol, Option.some.injEq] at hother
  rw [← hother] at hremote
  exact hended hremote

theorem remote_of_some (hstored : store.control = some control)
    (h : control.executor = some .onVps) : store.Remote :=
  ⟨control, hstored, h⟩

variable {s : Custody}

/-- The local host hands the grant over under an unused handoff. -/
private theorem InCustody.handedOver (h : InCustody s) {handoff : String}
    (hvps : control.executor = some .onVps) (hhandoff : control.handoffId = some handoff)
    (hunused : s.Unused handoff) :
    InCustody { s with here := { s.here with control := some control } } where
  remote := by
    intro _
    exact remote_some.mpr hvps
  returned := by
    intro checkpoint hcheckpoint other hother _ _ heq
    rw [← Option.some.inj hother, hhandoff] at heq
    exact absurd heq.symm (hunused.2 checkpoint hcheckpoint)
  restoring := by
    intro binding checkpoint hrestoring
    obtain ⟨hlocal, -, hended, -⟩ := h.restoring binding checkpoint hrestoring
    refine ⟨hlocal, remote_some.mpr hvps, hended, ?_⟩
    intro other hother
    rw [← Option.some.inj hother, hhandoff]
    exact Or.inr hunused.1

/-- The local host changes a local grant. -/
private theorem InCustody.keptHere (h : InCustody s) (hlocal : control.executor ≠ some .onVps)
    (hstored : ∀ original ∈ s.here.control, original.executor ≠ some .onVps) :
    InCustody { s with here := { s.here with control := some control } } := by
  have hnot : ¬ s.here.Remote := by
    rintro ⟨original, horiginal, hvps⟩
    exact hstored original horiginal hvps
  refine ⟨fun hremote => absurd (h.remote hremote) hnot, ?_, ?_⟩
  · intro checkpoint _ other hother hvps
    rw [← Option.some.inj hother] at hvps
    exact absurd hvps hlocal
  · intro binding checkpoint hrestoring
    exact absurd (h.restoring binding checkpoint hrestoring).2.1 hnot

variable {original control : ExecutionControl}

/-- The grant on the local host keeps its place and its handoff. -/
private theorem InCustody.sameHandoff (h : InCustody s) (hstored : s.here.control = some original)
    (horiginal : original.executor = some .onVps) (hvps : control.executor = some .onVps)
    (hhandoff : control.handoffId = original.handoffId) :
    InCustody { s with here := { s.here with control := some control } } where
  remote := by
    intro _
    exact remote_some.mpr hvps
  returned := by
    intro checkpoint hcheckpoint other hother _ hsome heq
    rw [← Option.some.inj hother, hhandoff] at hsome heq ⊢
    exact h.returned checkpoint hcheckpoint original hstored horiginal hsome heq
  restoring := by
    intro binding checkpoint hrestoring
    obtain ⟨hlocal, -, hended, hsent⟩ := h.restoring binding checkpoint hrestoring
    refine ⟨hlocal, remote_some.mpr hvps, hended, ?_⟩
    intro other hother
    rw [← Option.some.inj hother, hhandoff]
    exact hsent original hstored

/-- The VPS keeps holding a grant. -/
private theorem InCustody.keptThere (h : InCustody s) (hremote : s.there.Remote) :
    InCustody { s with there := store } where
  remote := by
    intro _
    exact h.remote hremote
  returned := by
    intro checkpoint hcheckpoint control hcontrol hvps hsome heq
    exact absurd (h.returned checkpoint hcheckpoint control hcontrol hvps hsome heq)
      (not_endedWith_of_remote hremote _)
  restoring := by
    intro binding checkpoint hrestoring
    exact absurd (h.restoring binding checkpoint hrestoring).2.2.1
      (not_endedWith_of_remote hremote _)

variable {checkpoint : WorkspaceCheckpoint}

/-- The VPS takes the handoff over that the local host is waiting for. -/
private theorem InCustody.takenOver (h : InCustody s) (hsent : checkpoint ∈ s.released)
    (hended : ¬ s.there.EndedWith checkpoint.execution.handoffId)
    (hcontrol : s.here.control = some control) (hvps : control.executor = some .onVps)
    (hhandoff : control.handoffId = checkpoint.execution.handoffId) :
    InCustody { s with there := store } where
  remote := by
    intro _
    exact remote_of_some hcontrol hvps
  returned := by
    intro other hother control' hcontrol' hvps' hsome heq
    have hold := h.returned other hother control' hcontrol' hvps' hsome heq
    rw [Option.mem_def, hcontrol, Option.some.injEq] at hcontrol'
    rw [← hcontrol', hhandoff] at hold
    exact absurd hold hended
  restoring := by
    intro binding other hrestoring
    obtain ⟨-, -, hold, hwaiting⟩ := h.restoring binding other hrestoring
    rcases hwaiting control hcontrol with heq | hnone
    · rw [← heq, hhandoff] at hold
      exact absurd hold hended
    · exact absurd hhandoff.symm (hnone checkpoint hsent)

/-- The VPS ends its grant and sends it back. -/
private theorem InCustody.givenBack (h : InCustody s) (hstored : s.there.control = some original)
    (hlocal : control.executor = some .onLocal) (hhandoff : control.handoffId = original.handoffId)
    (hsent : checkpoint.execution = control) :
    InCustody { s with
      there := { s.there with control := some control }
      returned := s.returned ++ [checkpoint] } := by
  have hnot : control.executor ≠ some .onVps := by
    rw [hlocal]
    simp
  have hkept : ∀ handoffId, s.there.EndedWith handoffId →
      (WorkspaceStore.mk (some control) s.there.workspace s.there.effects).EndedWith handoffId := by
    rintro handoffId ⟨other, hother, -, heq⟩
    rw [Option.mem_def, hstored, Option.some.injEq] at hother
    rw [← hother, ← hhandoff] at heq
    exact ⟨control, rfl, hnot, heq⟩
  refine ⟨fun hremote => absurd (remote_some.mp hremote) hnot, ?_, ?_⟩
  · intro other hother control' hcontrol' hvps hsome heq
    rcases List.mem_append.mp hother with hold | hnew
    · exact hkept _ (h.returned other hold control' hcontrol' hvps hsome heq)
    · rw [List.mem_singleton.mp hnew, hsent] at heq
      exact ⟨control, rfl, hnot, heq.symm⟩
  · intro binding other hrestoring
    obtain ⟨hother, hremote, hended, hwaiting⟩ := h.restoring binding other hrestoring
    exact ⟨hother, hremote, hkept _ hended, hwaiting⟩

/-- **Step lemma.** One step that meets its condition keeps the custody invariant. -/
theorem inCustody_step {step : CustodyStep} (h : InCustody s) (hmeets : step.Meets s) :
    InCustody (s.step hash identity step) := by
  unfold Custody.step
  cases step with
  | setHere binding nowMs handoff reviewed args =>
    dsimp only
    split
    · rename_i control hset
      rcases setWorkspaceExecution_here hset with ⟨hvps, hhandoff⟩ | ⟨hlocal, hstored⟩
      · exact h.handedOver hvps hhandoff hmeets
      · exact h.keptHere hlocal hstored
    · exact h
  | setThere binding nowMs handoff reviewed args =>
    dsimp only
    split
    · rename_i control hset
      obtain ⟨-, hstored⟩ := setWorkspaceExecution_there hset
      rcases hstored with ⟨hnone, hstart⟩ | ⟨original, hstored, hvps⟩
      · have hsome := hmeets hstart
        rw [hnone] at hsome
        cases hsome
      · exact h.keptThere (remote_of_some hstored hvps)
    · exact h
  | release binding handoff executorId =>
    dsimp only
    split
    · exact h
    · rename_i hrestoring
      rw [Option.not_isSome_iff_eq_none] at hrestoring
      split
      · rename_i control checkpoint hrelease
        obtain ⟨hvps, -, hkept⟩ := releaseWorkspaceToVps_ok hrelease
        have hhere : InCustody { s with here := { s.here with control := some control } } := by
          rcases hkept with hstored | hhandoff
          · exact h.sameHandoff hstored hvps hvps rfl
          · exact h.handedOver hvps hhandoff hmeets
        refine ⟨hhere.remote, hhere.returned, ?_⟩
        intro other back hother
        rw [show s.restoring = some (other, back) from hother] at hrestoring
        cases hrestoring
      · exact h
  | setReleased binding executorId enabled revoke expectedRevision =>
    dsimp only
    split
    · rename_i control hset
      obtain ⟨original, hstored, horiginal, hvps, hhandoff⟩ := setReleasedWorkspaceEntries_ok hset
      exact h.sameHandoff hstored horiginal hvps hhandoff
    · exact h
  | adopt binding nowMs index =>
    dsimp only
    split
    · rename_i checkpoint hindex
      split
      · rename_i store hadopt
        rcases adoptWorkspaceFromLocal_ok hadopt with ⟨original, control, hstored, -, hvps, -⟩ |
            ⟨hnot, hended, -⟩
        · exact h.keptThere (remote_of_some hstored hvps)
        · rcases hmeets checkpoint hindex with hremote | hsame | ⟨control, hcontrol, hvps, hhandoff⟩
          · exact absurd hremote hnot
          · exact absurd hsame hended
          · exact h.takenOver (List.mem_of_getElem? hindex) hended hcontrol hvps hhandoff
      · exact h
    · exact h
  | giveBack binding handoffId requireSealed =>
    dsimp only
    split
    · rename_i control checkpoint hreturn
      obtain ⟨rfl, hlocal, original, hstored, hhandoff⟩ := returnWorkspaceToLocal_ok hreturn
      exact h.givenBack hstored hlocal hhandoff rfl
    · exact h
  | checkReturn binding executorId index =>
    dsimp only
    split
    · rename_i checkpoint hindex
      split
      · rename_i hchecked
        obtain ⟨hlocal, -, control, hcontrol, hvps, hsome, hhandoff⟩ := returnMatches_iff hchecked.2
        refine ⟨h.remote, h.returned, ?_⟩
        intro other back hback
        obtain ⟨-, rfl⟩ := Prod.mk.inj (Option.some.inj hback)
        have hended := h.returned _ (List.mem_of_getElem? hindex) control hcontrol hvps hsome hhandoff
        rw [hhandoff] at hended
        refine ⟨hlocal, remote_of_some hcontrol hvps, hended, ?_⟩
        intro control' hcontrol'
        rw [Option.mem_def, hcontrol, Option.some.injEq] at hcontrol'
        rw [← hcontrol']
        exact Or.inl hhandoff
      · exact h
    · exact h
  | restore =>
    dsimp only
    split
    · rename_i binding checkpoint hrestoring
      obtain ⟨hlocal, -, hended, -⟩ := h.restoring binding checkpoint hrestoring
      refine ⟨fun hremote => absurd hended (not_endedWith_of_remote hremote _), ?_, ?_⟩
      · intro other _ control hcontrol hvps
        rw [← Option.some.inj hcontrol] at hvps
        rw [show checkpoint.execution.executor = some .onVps from hvps] at hlocal
        cases hlocal
      · intro other back hback
        cases hback
    · exact h
  | dropReturn =>
    refine ⟨h.remote, h.returned, ?_⟩
    intro binding checkpoint hback
    cases hback
  | workHere workspace effects => exact ⟨h.remote, h.returned, h.restoring⟩
  | workThere workspace effects => exact ⟨h.remote, h.returned, h.restoring⟩

/-! ### The authority -/

/-- Where the right to execute is. -/
inductive Authority
  | onLocal
  | inTransit
  | onVps
  deriving DecidableEq

/-- The stores show where it is. -/
def Custody.authority (s : Custody) : Authority :=
  if s.there.Remote then .onVps else if s.here.Remote then .inTransit else .onLocal

variable {binding : PackageBinding} {nowMs : ℤ}

/-- Where a host executes a grant, the grant is assigned to it. -/
theorem executor_of_executes {host : ExecutionHost} (h : Executes host binding nowMs store) :
    ∃ control, store.control = some control ∧ control.executor.getD .onLocal = host.place := by
  obtain ⟨control, hread, -⟩ := h
  have hstored := readExecution_stored hread
  rw [hstored] at hread
  exact ⟨control, hstored, (readExecution_cases hread).1 rfl⟩

/-- The VPS executes only with the authority. -/
theorem authority_of_executes_there (h : Executes (vpsHost identity) binding nowMs s.there) :
    s.authority = .onVps := by
  obtain ⟨control, hcontrol, hplace⟩ := executor_of_executes h
  have hvps : control.executor = some .onVps := by
    cases hexecutor : control.executor with
    | none =>
      rw [hexecutor] at hplace
      cases hplace
    | some place =>
      rw [hexecutor] at hplace
      rw [show place = .onVps from hplace]
  unfold Custody.authority
  rw [if_pos (remote_of_some hcontrol hvps)]

/-- The local host executes only with the authority. -/
theorem authority_of_executes_here (hcustody : InCustody s)
    (h : Executes localHost binding nowMs s.here) : s.authority = .onLocal := by
  obtain ⟨control, hcontrol, hplace⟩ := executor_of_executes h
  have hlocal : ¬ s.here.Remote := by
    rintro ⟨other, hother, hvps⟩
    rw [Option.mem_def, hcontrol, Option.some.injEq] at hother
    rw [hother, hvps] at hplace
    cases hplace
  have hthere : ¬ s.there.Remote := fun hremote => hlocal (hcustody.remote hremote)
  unfold Custody.authority
  rw [if_neg hthere, if_neg hlocal]

theorem inCustody_start : InCustody Custody.start := by
  refine ⟨?_, ?_, ?_⟩
  · rintro ⟨control, hcontrol, -⟩
    cases hcontrol
  · intro checkpoint hcheckpoint
    cases hcheckpoint
  · intro other checkpoint hrestoring
    cases hrestoring

/-- **At most one host executes** in every state of a run whose steps meet the condition. -/
theorem atMostOneExecutes (hash : WorkspaceCheckpoint → String) (identity : String)
    {steps : List CustodyStep}
    (hsteps : Along (Custody.step hash identity) CustodyStep.Meets Custody.start steps)
    {front back : List CustodyStep} (hfront : steps = front ++ back)
    (binding binding' : PackageBinding) (nowMs nowMs' : ℤ) :
    ¬ (Executes localHost binding nowMs (custodyRun hash identity Custody.start front).here ∧
      Executes (vpsHost identity) binding' nowMs'
        (custodyRun hash identity Custody.start front).there) := by
  rw [hfront, along_append] at hsteps
  have hcustody : InCustody (custodyRun hash identity Custody.start front) :=
    along_invariant hsteps.1 inCustody_start fun s step h hmeets => inCustody_step h hmeets
  rintro ⟨hhere, hthere⟩
  have hlocal := authority_of_executes_here hcustody hhere
  rw [authority_of_executes_there hthere] at hlocal
  cases hlocal

end Invariant

/-! ### A replayed handoff -/

section Replayed

/-- A text of one digit. -/
def digits (c : Char) : String := String.ofList (List.replicate 64 c)

/-- A package with a schedule. -/
def sampleBinding : PackageBinding := ⟨"plugin", some "plugin", some (digits 'd'), true⟩

/-- Start with a deadline that never comes. -/
def startArgs (expectedRevision : Option ℤ) : ExecutionArgs :=
  ⟨true, none, expectedRevision, false, some ⟨2, some "tick", none, "none"⟩, none, none, none⟩

def sampleHash : WorkspaceCheckpoint → String := fun _ => digits 'c'

/-- A first handoff, there and back. -/
def handoffSteps : List CustodyStep := [
  .setHere sampleBinding 0 (digits '0') none (startArgs none),
  .release sampleBinding (digits '1') (digits 'e'),
  .adopt sampleBinding 0 0,
  .giveBack sampleBinding none false,
  .checkReturn sampleBinding (digits 'e') 0,
  .restore]

/-- The grant on the local host after some steps. -/
def grantAfter (steps : List CustodyStep) : Option ExecutionControl :=
  (custodyRun sampleHash (digits 'e') Custody.start steps).here.control

/-- A second handoff, there and back. -/
def secondSteps : List CustodyStep := handoffSteps ++ [
  .setHere sampleBinding 0 (digits '0') (grantAfter handoffSteps) (startArgs (some 3)),
  .release sampleBinding (digits '2') (digits 'e'),
  .adopt sampleBinding 0 1,
  .giveBack sampleBinding none false,
  .checkReturn sampleBinding (digits 'e') 1,
  .restore]

/-- A local start, and the checkpoint of the first handoff comes once more. -/
def replayedSteps : List CustodyStep := secondSteps ++ [
  .setHere sampleBinding 0 (digits '0') (grantAfter secondSteps) (startArgs (some 6)),
  .adopt sampleBinding 0 0]

instance (host : ExecutionHost) (binding : PackageBinding) (nowMs : ℤ) (store : WorkspaceStore) :
    Decidable (Executes host binding nowMs store) :=
  decidable_of_iff (((readExecution host binding true false store.control).join.any fun control =>
      control.enabled && workspaceExecutionIsActive control nowMs) = true) (by
    simp [Executes, Option.any_eq_true, Option.join_eq_some_iff])

/-- The first handoff meets the condition. -/
theorem atMostOneExecutes_handoff :
    ¬ (Executes localHost sampleBinding 0
        (custodyRun sampleHash (digits 'e') Custody.start (handoffSteps.take 3)).here ∧
      Executes (vpsHost (digits 'e')) sampleBinding 0
        (custodyRun sampleHash (digits 'e') Custody.start (handoffSteps.take 3)).there) := by
  have hmeets : Along (Custody.step sampleHash (digits 'e')) CustodyStep.Meets Custody.start
      handoffSteps := by
    decide +kernel
  exact atMostOneExecutes sampleHash (digits 'e') hmeets (List.take_append_drop 3 _).symm
    sampleBinding sampleBinding 0 0

/-- The checkpoint of an earlier handoff is taken over once more after a later one has ended,
    and both hosts execute. -/
theorem replayedHandoff_bothExecute :
    ¬ (∀ (hash : WorkspaceCheckpoint → String) (identity : String) (steps : List CustodyStep)
      (binding : PackageBinding) (nowMs : ℤ),
      ¬ (Executes localHost binding nowMs (custodyRun hash identity Custody.start steps).here ∧
        Executes (vpsHost identity) binding nowMs
          (custodyRun hash identity Custody.start steps).there)) := by
  intro h
  have hboth : Executes localHost sampleBinding 0
      (custodyRun sampleHash (digits 'e') Custody.start replayedSteps).here ∧
    Executes (vpsHost (digits 'e')) sampleBinding 0
      (custodyRun sampleHash (digits 'e') Custody.start replayedSteps).there := by
    decide +kernel
  exact h sampleHash (digits 'e') replayedSteps sampleBinding 0 hboth

end Replayed

end Hivra
