import Hivra.Host.Dart
import Hivra.Lib.Replay
import Mathlib.Data.Int.Notation

namespace Hivra

open Replay

/-!
# Custody of a workspace grant

A workspace of one owner and one plugin runs under a stored execution grant, on the local
host or on a VPS.  The grant moves between them in checkpoints.  This file has the grant,
the operations of both hosts on it as the source has them, and the system of the two hosts
with every checkpoint that was ever sent.  An operation that throws has no result.

The grant the owner has reviewed before a start or stop is read earlier than the grant it
replaces; here it may be any grant.
-/

/-- Where a grant is executed. -/
inductive Executor
  | onLocal
  | onVps
  deriving DecidableEq

/-- The terms the owner has approved. -/
structure ExecutionScope where
  version : ℤ
  action : Option String
  startAction : Option String
  access : String
  deriving DecidableEq

/-- A stored execution grant. -/
structure ExecutionControl where
  version : ℤ
  packageId : String
  packageDigest : String
  executor : Option Executor
  executorId : Option String
  handoffId : Option String
  handoffDigest : Option String
  scope : ExecutionScope
  credentials : String
  settings : String
  expiresAtMs : Option ℤ
  revoked : Option Bool
  enabled : Bool
  revision : ℤ
  deriving DecidableEq

/-- The process that holds a store: its place, and its identity where it is a VPS. -/
structure ExecutionHost where
  place : Executor
  identity : Option String

/-- The package of the record, and what the registry resolves it to. -/
structure PackageBinding where
  recordId : String
  packageId : Option String
  packageDigest : Option String
  schedules : Bool

/-- What a host stores of a workspace. -/
structure WorkspaceStore where
  control : Option ExecutionControl
  workspace : Option String
  effects : Option String

/-- A checkpoint on its way between the hosts. -/
structure WorkspaceCheckpoint where
  packageDigest : String
  execution : ExecutionControl
  workspace : Option String
  effects : Option String
  deriving DecidableEq

/-! ### Grants -/

/-- A grant is active until its deadline unless it is revoked. -/
def workspaceExecutionIsActive (control : ExecutionControl) (nowMs : ℤ) : Bool :=
  control.revoked != some true && control.expiresAtMs.all fun deadline => decide (nowMs < deadline)

/-- A grant that may be read at all. -/
def validControl (control : ExecutionControl) : Bool :=
  (control.version == 1 || control.version == 2) && decide (0 < control.revision) &&
    control.expiresAtMs.all (fun deadline => decide (0 ≤ deadline ∧ deadline ≤ 8640000000000000)) &&
    !((control.revoked == some true || control.expiresAtMs == some 0) && control.enabled) &&
    isHex64 control.packageDigest &&
    (control.executor != some .onVps || control.executorId.any isHex64) &&
    control.handoffId.all isHex64 && control.handoffDigest.all isHex64

/-- A grant that has completely ended. -/
def ExecutionControl.isSealed (control : ExecutionControl) : Bool :=
  control.executor == some .onLocal && control.expiresAtMs == some 0 && !control.enabled

/-- Read the stored grant.  It throws on one that is unreadable or, where the place counts,
    belongs elsewhere; a grant of another package reads as none. -/
def readExecution (host : ExecutionHost) (binding : PackageBinding)
    (enforceHost allowRemoteRecoveryBinding : Bool) :
    Option ExecutionControl → Option (Option ExecutionControl)
  | none => some none
  | some control =>
    if ¬ validControl control then none
    else if enforceHost ∧ (control.executor.getD .onLocal ≠ host.place ∨
        host.place = .onVps ∧ control.executorId ≠ host.identity) then none
    else
      let packageMatches := control.packageId = binding.recordId ∧
        binding.packageId = some binding.recordId ∧
        some control.packageDigest = binding.packageDigest
      let remoteAuthority := control.executor = some .onVps ∨
        host.place = .onVps ∧ control.isSealed
      if ¬ packageMatches ∧ ¬ (allowRemoteRecoveryBinding ∧ ¬ enforceHost ∧ remoteAuthority) ∨
          control.scope.action.isSome ∧ ¬ binding.schedules then
        some none
      else some (some control)

/-- A host would execute the stored grant at a time. -/
def Executes (host : ExecutionHost) (binding : PackageBinding) (nowMs : ℤ)
    (store : WorkspaceStore) : Prop :=
  ∃ control, readExecution host binding true false store.control = some (some control) ∧
    control.enabled = true ∧ workspaceExecutionIsActive control nowMs = true

/-! ### The operations -/

/-- What the owner asks for. -/
structure ExecutionArgs where
  enabled : Bool
  expiresAtMs : Option ℤ
  expectedRevision : Option ℤ
  revoke : Bool
  approvedScope : Option ExecutionScope
  credentials : Option String
  settings : Option String
  releaseToExecutorId : Option String

/-- The grant that replaces the previous one. -/
def nextControl (host : ExecutionHost) (binding : PackageBinding) (handoff : String)
    (previous : Option ExecutionControl) (args : ExecutionArgs) : Option ExecutionControl :=
  if args.enabled then
    match args.approvedScope, binding.packageDigest with
    | some scope, some digest =>
      if scope.version ≠ 2 ∨ binding.packageId ≠ some binding.recordId ∨
          scope.action.isSome ∧ ¬ binding.schedules then none
      else
        some {
          version := 2
          packageId := binding.recordId
          packageDigest := digest
          executor := some (if args.releaseToExecutorId.isSome then .onVps else host.place)
          executorId := match args.releaseToExecutorId with
            | some executorId => some executorId
            | none => if host.place = .onVps then host.identity else none
          handoffId := if args.releaseToExecutorId.isSome then some handoff
            else previous.bind ExecutionControl.handoffId
          handoffDigest := if args.releaseToExecutorId.isSome then none
            else previous.bind ExecutionControl.handoffDigest
          scope := scope
          credentials := (args.credentials <|> previous.map ExecutionControl.credentials).getD ""
          settings := (args.settings <|> previous.map ExecutionControl.settings).getD ""
          expiresAtMs := args.expiresAtMs
          revoked := some false
          enabled := true
          revision := (previous.map ExecutionControl.revision).getD 0 + 1 }
    | _, _ => none
  else
    previous.map fun previous =>
      { previous with
        enabled := false
        revoked := if args.revoke then some true else previous.revoked
        revision := previous.revision + 1 }

/-- Start or stop execution.  The owner reviews the grant that was stored before; the result
    is the grant that is written then. -/
def setWorkspaceExecution (host : ExecutionHost) (binding : PackageBinding) (nowMs : ℤ)
    (handoff : String) (reviewed : Option ExecutionControl) (args : ExecutionArgs)
    (stored : Option ExecutionControl) : Option ExecutionControl :=
  if args.enabled ∧ (args.revoke ∨ args.expiresAtMs.any fun deadline =>
      decide (deadline ≤ nowMs ∨ 8640000000000000 < deadline)) then none
  else if args.releaseToExecutorId.any fun executorId =>
      !args.enabled || host.place != .onLocal || !isHex64 executorId then none
  else
    match readExecution host binding args.releaseToExecutorId.isNone false reviewed,
        readExecution host binding args.releaseToExecutorId.isNone false stored with
    | some previous, some current =>
      if args.enabled ∧ previous.map ExecutionControl.revision ≠ args.expectedRevision then none
      else if current.map ExecutionControl.revision ≠ previous.map ExecutionControl.revision then
        none
      else
        (nextControl host binding handoff previous args).filter fun control =>
          binding.packageId == some control.packageId &&
            binding.packageDigest == some control.packageDigest &&
            (control.scope.action.isNone || binding.schedules)
    | _, _ => none

/-- What a checkpoint to a VPS must be. -/
def validCheckpoint (checkpoint : WorkspaceCheckpoint) : Bool :=
  isHex64 checkpoint.packageDigest && validControl checkpoint.execution &&
    checkpoint.execution.executor == some .onVps && checkpoint.execution.handoffId.isSome &&
    checkpoint.execution.handoffDigest.isNone &&
    checkpoint.execution.packageDigest == checkpoint.packageDigest

/-- The grant that goes to a VPS. -/
def releasedControl (handoff executorId : String) (control : ExecutionControl) : ExecutionControl :=
  if control.executor = some .onVps then control
  else { control with
    executor := some .onVps
    executorId := some executorId
    handoffId := some handoff
    revision := control.revision + 1 }

/-- Hand the grant over to a VPS; a grant that was handed over before is sent again. -/
def releaseWorkspaceToVps (host : ExecutionHost) (binding : PackageBinding) (handoff : String)
    (executorId : String) (store : WorkspaceStore) :
    Option (ExecutionControl × WorkspaceCheckpoint) :=
  if host.place ≠ .onLocal ∨ ¬ isHex64 executorId then none
  else
    match readExecution host binding false true store.control with
    | some (some control) =>
      if control.executor = some .onVps ∧
          (control.handoffId = none ∨ control.executorId ≠ some executorId) then none
      else
        let released := releasedControl handoff executorId control
        let checkpoint : WorkspaceCheckpoint :=
          { packageDigest := control.packageDigest
            execution := released
            workspace := store.workspace
            effects := store.effects }
        if ¬ validCheckpoint checkpoint ∨ binding.packageId ≠ some binding.recordId ∨
            ¬ binding.schedules ∨
            control.executor ≠ some .onVps ∧ binding.packageDigest ≠ some control.packageDigest then
          none
        else some (released, checkpoint)
    | _ => none

/-- The part of a checkpoint that its digest covers. -/
def immutablePart (checkpoint : WorkspaceCheckpoint) : WorkspaceCheckpoint :=
  { checkpoint with execution :=
      { checkpoint.execution with enabled := false, revoked := none, revision := 0 } }

/-- Take a released checkpoint over.  One that was taken over before only passes a stop on. -/
def adoptWorkspaceFromLocal (hash : WorkspaceCheckpoint → String) (host : ExecutionHost)
    (binding : PackageBinding) (nowMs : ℤ) (checkpoint : WorkspaceCheckpoint)
    (store : WorkspaceStore) : Option WorkspaceStore :=
  let digest := hash (immutablePart checkpoint)
  let incoming := checkpoint.execution
  if host.place ≠ .onVps ∨ ¬ validCheckpoint checkpoint ∨ incoming.executorId ≠ host.identity ∨
      binding.packageId ≠ some binding.recordId ∨
      binding.packageDigest ≠ some checkpoint.packageDigest ∨ ¬ binding.schedules then none
  else
    let adopted : WorkspaceStore :=
      { control := some { incoming with
          packageId := binding.recordId, handoffDigest := some digest }
        workspace := store.workspace <|> checkpoint.workspace
        effects := if store.workspace.isSome then store.effects
          else checkpoint.effects <|> store.effects }
    match readExecution host binding false true store.control with
    | none => none
    | some none =>
      -- a first adoption needs an empty directory
      if store.workspace.isSome ∨ store.effects.isSome ∨ store.control.isSome then none
      else some adopted
    | some (some previous) =>
      if previous.handoffId = incoming.handoffId ∧ previous.handoffDigest = some digest ∧
          previous.executor = some .onVps then
        if ¬ incoming.enabled ∧ previous.enabled ∨
            incoming.revoked = some true ∧ previous.revoked ≠ some true then
          some { store with control := some { previous with
            enabled := false
            revoked := if incoming.revoked = some true then some true else previous.revoked
            revision := previous.revision + 1 } }
        else some store
      else if previous.executor ≠ some .onLocal ∨ workspaceExecutionIsActive previous nowMs ∨
          previous.enabled ∨ previous.handoffId = incoming.handoffId then none
      else some adopted

/-- Record a start or stop of a grant that was handed over. -/
def setReleasedWorkspaceEntries (host : ExecutionHost) (binding : PackageBinding)
    (executorId : String) (enabled revoke : Bool) (expectedRevision : Option ℤ)
    (stored : Option ExecutionControl) : Option ExecutionControl :=
  if enabled ∧ revoke ∨ host.place ≠ .onLocal then none
  else
    match readExecution host binding false false stored with
    | some (some control) =>
      if control.executor ≠ some .onVps ∨ control.executorId ≠ some executorId ∨
          expectedRevision.any fun revision => revision != control.revision then none
      else some { control with
        enabled := enabled
        revoked := if revoke ∨ enabled then some revoke else control.revoked
        revision := control.revision + 1 }
    | _ => none

/-- The grant that is left of one that ends on a VPS. -/
def endedControl (control : ExecutionControl) : ExecutionControl :=
  if control.executor = some .onVps then
    { control with
      executor := some .onLocal
      executorId := none
      expiresAtMs := some 0
      enabled := false
      revision := control.revision + 1 }
  else control

/-- End the grant on a VPS and send it back; one that has ended is sent again. -/
def returnWorkspaceToLocal (host : ExecutionHost) (binding : PackageBinding)
    (handoffId : Option String) (requireSealed : Bool) (store : WorkspaceStore) :
    Option (ExecutionControl × WorkspaceCheckpoint) :=
  if host.place ≠ .onVps then none
  else
    match readExecution host binding false true store.control with
    | some (some control) =>
      if handoffId.isSome ∧ control.handoffId ≠ handoffId ∨ requireSealed ∧ ¬ control.isSealed ∨
          control.executor = some .onVps ∧ control.executorId ≠ host.identity then none
      else
        let sealed := endedControl control
        if ¬ sealed.isSealed then none
        else some (sealed, {
          packageDigest := sealed.packageDigest
          execution := sealed
          workspace := store.workspace
          effects := store.effects })
    | _ => none

/-- The checks on a returned checkpoint against the grant it should end. -/
def returnMatches (hash : WorkspaceCheckpoint → String) (host : ExecutionHost)
    (binding : PackageBinding) (executorId : String) (checkpoint : WorkspaceCheckpoint)
    (store : WorkspaceStore) : Bool :=
  let incoming := checkpoint.execution
  host.place == .onLocal && validControl incoming && incoming.isSealed &&
    incoming.packageDigest == checkpoint.packageDigest &&
    match readExecution host binding false true store.control with
    | some (some control) =>
      control.executor == some .onVps && control.executorId == some executorId &&
        control.handoffId.isSome && control.handoffId == incoming.handoffId &&
        (control.packageDigest == checkpoint.packageDigest ||
          incoming.handoffDigest == some (hash (immutablePart {
            packageDigest := control.packageDigest
            execution := control
            workspace := store.workspace
            effects := store.effects }))) &&
        (binding.packageId == some binding.recordId && binding.packageDigest.isSome &&
          binding.schedules) &&
        (checkpoint.workspace.isSome || store.workspace.isNone) &&
        (checkpoint.effects.isSome || store.effects.isNone)
    | _ => false

/-- The store after a returned checkpoint is restored. -/
def restored (binding : PackageBinding) (checkpoint : WorkspaceCheckpoint)
    (store : WorkspaceStore) : WorkspaceStore where
  control := some { checkpoint.execution with
    packageId := binding.recordId
    packageDigest := binding.packageDigest.getD ""
    handoffId := none
    handoffDigest := none }
  workspace := checkpoint.workspace <|> store.workspace
  effects := checkpoint.effects <|> store.effects

/-! ### The two hosts -/

/-- The stores of the two hosts, the returned checkpoint that was checked and is about to be
    restored, with the package it was checked for, and all the checkpoints that were ever sent;
    each of them may be delivered at any time, any number of times, or never. -/
structure Custody where
  here : WorkspaceStore
  there : WorkspaceStore
  restoring : Option (PackageBinding × WorkspaceCheckpoint)
  released : List WorkspaceCheckpoint
  returned : List WorkspaceCheckpoint

/-- Neither host has a grant. -/
def Custody.start : Custody := ⟨⟨none, none, none⟩, ⟨none, none, none⟩, none, [], []⟩

/-- One operation of one host. -/
inductive CustodyStep
  | setHere (binding : PackageBinding) (nowMs : ℤ) (handoff : String)
      (reviewed : Option ExecutionControl) (args : ExecutionArgs)
  | setThere (binding : PackageBinding) (nowMs : ℤ) (handoff : String)
      (reviewed : Option ExecutionControl) (args : ExecutionArgs)
  | release (binding : PackageBinding) (handoff executorId : String)
  | setReleased (binding : PackageBinding) (executorId : String) (enabled revoke : Bool)
      (expectedRevision : Option ℤ)
  /-- The VPS receives the released checkpoint at an index. -/
  | adopt (binding : PackageBinding) (nowMs : ℤ) (index : ℕ)
  | giveBack (binding : PackageBinding) (handoffId : Option String) (requireSealed : Bool)
  /-- The local host receives the returned checkpoint at an index and checks it. -/
  | checkReturn (binding : PackageBinding) (executorId : String) (index : ℕ)
  /-- It writes the checkpoint it has checked. -/
  | restore
  /-- It does not come to write it. -/
  | dropReturn
  /-- The package on a host changes its state. -/
  | workHere (workspace effects : Option String)
  | workThere (workspace effects : Option String)

section System

variable (hash : WorkspaceCheckpoint → String) (identity : String)

/-- The local host. -/
def localHost : ExecutionHost := ⟨.onLocal, none⟩

/-- The VPS with its identity. -/
def vpsHost : ExecutionHost := ⟨.onVps, some identity⟩

/-- One step.  A release waits while a return is being restored. -/
def Custody.step (s : Custody) : CustodyStep → Custody
  | .setHere binding nowMs handoff reviewed args =>
    match setWorkspaceExecution localHost binding nowMs handoff reviewed args s.here.control with
    | some control => { s with here := { s.here with control := some control } }
    | none => s
  | .setThere binding nowMs handoff reviewed args =>
    match setWorkspaceExecution (vpsHost identity) binding nowMs handoff reviewed args
        s.there.control with
    | some control => { s with there := { s.there with control := some control } }
    | none => s
  | .release binding handoff executorId =>
    if s.restoring.isSome then s
    else
      match releaseWorkspaceToVps localHost binding handoff executorId s.here with
      | some (control, checkpoint) =>
        { s with
          here := { s.here with control := some control }
          released := s.released ++ [checkpoint] }
      | none => s
  | .setReleased binding executorId enabled revoke expectedRevision =>
    match setReleasedWorkspaceEntries localHost binding executorId enabled revoke expectedRevision
        s.here.control with
    | some control => { s with here := { s.here with control := some control } }
    | none => s
  | .adopt binding nowMs index =>
    match s.released[index]? with
    | some checkpoint =>
      match adoptWorkspaceFromLocal hash (vpsHost identity) binding nowMs checkpoint s.there with
      | some store => { s with there := store }
      | none => s
    | none => s
  | .giveBack binding handoffId requireSealed =>
    match returnWorkspaceToLocal (vpsHost identity) binding handoffId requireSealed s.there with
    | some (control, checkpoint) =>
      { s with
        there := { s.there with control := some control }
        returned := s.returned ++ [checkpoint] }
    | none => s
  | .checkReturn binding executorId index =>
    match s.returned[index]? with
    | some checkpoint =>
      if s.restoring.isNone ∧ returnMatches hash localHost binding executorId checkpoint s.here then
        { s with restoring := some (binding, checkpoint) }
      else s
    | none => s
  | .restore =>
    match s.restoring with
    | some (binding, checkpoint) =>
      { s with here := restored binding checkpoint s.here, restoring := none }
    | none => s
  | .dropReturn => { s with restoring := none }
  | .workHere workspace effects =>
    { s with here := { s.here with workspace := workspace, effects := effects } }
  | .workThere workspace effects =>
    { s with there := { s.there with workspace := workspace, effects := effects } }

/-- A run of the two hosts. -/
def custodyRun (s : Custody) (steps : List CustodyStep) : Custody :=
  replay (Custody.step hash identity) s steps

end System

end Hivra
