import Hivra.Host.CapsuleIndex
import Hivra.Host.SeedMigration

namespace Hivra

open CapsuleIndex Interruptions OrderedMap Processes

namespace BackupRestore

/-!
# Restoring a complete backup

A backup with files is written into a staging directory, which then takes the place of the capsule
directory; the seed is stored and the capsule is entered in the index and selected.  Where a step
fails, what was done is undone from two flags and the index as it was before.

* `decodeBackupFiles`, `sealWorkspaceExecutionForRecovery` — what is written, and how of a grant.
* `restoreEffect` — what a step does, where it works and where it fails.
* `restoreCompleteBackup` — the call.
-/

variable {Double : Type}

/-! ### The files of a backup -/

def backupFileNames : List String :=
  ["delivery_outbox.json", "chat_deferred_inbox.v1.json", "chat_timeline.v1.json",
    "chat_read_state.v1.json", "pair_consensus_attestations.json", "contact_labels.json"]

def isPathStart (c : Char) : Bool := c.isLower || c.isDigit

/-- A name of small letters and digits, with further characters behind the first one. -/
def isPathName (more : List Char) : List Char → Bool
  | [] => false
  | first :: rest => isPathStart first && rest.all fun c => isPathStart c || more.contains c

def pathParts (path : List Char) : List (List Char) := path.splitOn '/'

/-- The path of a quarantine file. -/
def isQuarantinePath (parts : List (List Char)) : Bool :=
  match parts with
  | [first, epoch, name, transport, file] =>
    first == "transport_quarantine".toList && !epoch.isEmpty && epoch.all Char.isDigit &&
      !name.isEmpty && name.all (fun c => isPathStart c || c == '_' || c == '-') &&
      transport == "nostr".toList && file == "inbound_quarantine.v1.bin".toList
  | _ => false

/-- The paths that a backup may have: known files, plugin states, the handoff and quarantines. -/
def isBackupPath (path : String) : Bool :=
  backupFileNames.contains path ||
    let parts := pathParts path.toList
    !(parts.any fun part => part == ['.'] || part == ['.', '.'] || part.isEmpty) &&
      match parts with
      | [first, second, third] =>
        if first == "plugin_state".toList then
          isPathName ['.', '-'] second && isPathName ['.', '_', '-'] third &&
            !(third.tails.any fun tail => ".tmp.".toList.isPrefixOf tail)
        else path == "capability_state/chat/chat_handoff.v1.bin"
      | _ => isQuarantinePath parts

def maxBackupStateBytes : ℕ := 192 * 1024 * 1024

/-- The loop of `decodeBackupFiles`, with the bytes so far. -/
def decodeFrom (total : ℕ) :
    List (String × String) → Option (List (String × List UInt8))
  | [] => some []
  | entry :: rest =>
    if isBackupPath entry.1 = false then none
    else
      match CapsuleSeedStore.base64Decode [] entry.2.toList with
      | none => none
      | some bytes =>
        if maxBackupStateBytes < total + bytes.length then none
        else (decodeFrom (total + bytes.length) rest).map ((entry.1, bytes) :: ·)

def decodeBackupFiles (files : List (String × String)) : Option (List (String × List UInt8)) :=
  if 1024 < files.length then none else decodeFrom 0 files

/-! ### Grants -/

abbrev Members (Double : Type) := List (String × DartValue Double)

/-- What a grant is read with: its document, none where it cannot be read, and the checks of a
    grant. -/
structure GrantTools (Double : Type) where
  decode : List UInt8 → Option (DartValue Double)
  equalsInt : Double → ℤ → Bool
  validateWorkspaceExecutionControl : Members Double → String → String → Bool

section Grants

variable (tools : GrantTools Double)

def isTwo : Option (DartValue Double) → Bool
  | some (.num (.inl value)) => value == 2
  | some (.num (.inr value)) => tools.equalsInt value 2
  | _ => false

def workspaceExecutionFlag (control : Members Double) : String :=
  if isTwo tools (lookup control "version") then "enabled" else "allow_new_entries"

def sealWorkspaceExecutionForRecovery (control : Members Double) (owner pluginId : String) :
    Option (Members Double) :=
  if tools.validateWorkspaceExecutionControl control owner pluginId then
    some (put (put control "expires_at_ms" (.num (.inl 0))) (workspaceExecutionFlag tools control)
      (.bool false))
  else none

/-- A grant that has ended: its deadline is over and the flag of its version is off. -/
def Sealed (control : Members Double) : Prop :=
  lookup control "expires_at_ms" = some (.num (.inl 0)) ∧
    lookup control (workspaceExecutionFlag tools control) = some (.bool false)

end Grants

/-! ### The stores -/

inductive FileContent (Double : Type)
  | bytes (bytes : List UInt8)
  | grant (control : Members Double)
  | state (file : CapsuleStateFile) (createdAt : ℤ) (seedLength : ℕ)
  | ledger (ledgerJson : String)
  | envelope (ledgerJson : String) (isGenesis isNeste : Option Bool)

structure Folder (Double : Type) where
  files : List (String × FileContent Double)
  modified : Option ℤ

/-- What a read of the index sees of a directory. -/
def Folder.directory (folder : Folder Double) : CapsuleDirectory where
  authoritative := ["capsule_state.json", "ledger.json", "capsule-backup.v1.json"].any
    (contains folder.files)
  modified := folder.modified
  state :=
    match lookup folder.files "capsule_state.json" with
    | some (.state file _ _) => some file
    | _ => none

/-- What is at the path of the staging directory. -/
inductive StagePath (Double : Type)
  | missing
  | folder (folder : Folder Double)
  | other

/-- The directories of the capsules, the staging directory, the stored seed of the owner, and the
    index. -/
structure RestoreWorld (Double : Type) where
  parentIsLink : Bool
  folders : List (String × Folder Double)
  distinct : (folders.map Prod.fst).Nodup
  stage : StagePath Double
  seed : Option (List UInt8)
  index : IndexFile

namespace RestoreWorld

def directories (world : RestoreWorld Double) : List (String × CapsuleDirectory) :=
  world.folders.map fun entry => (entry.1, entry.2.directory)

/-- The index as it is read at a time. -/
def view (world : RestoreWorld Double) (now : ℤ) : CapsulesIndex :=
  repairFromCapsuleDirectories now world.directories world.index.index

def publish (world : RestoreWorld Double) (owner : String) (folder : Folder Double) :
    RestoreWorld Double :=
  { world with
    folders := put world.folders owner folder
    distinct := keys_put_nodup world.distinct owner folder
    stage := .missing }

def deleteFolder (world : RestoreWorld Double) (owner : String) : RestoreWorld Double :=
  { world with
    folders := remove world.folders owner
    distinct := world.distinct.sublist (List.filter_sublist.map Prod.fst) }

end RestoreWorld

/-! ### The call -/

structure BackupContents where
  ledgerJson : String
  isGenesis : Option Bool
  isNeste : Option Bool
  files : List (String × String)
  distinct : (files.map Prod.fst).Nodup
  packages : List (String × String)

/-- What is restored: the contents of a backup, for an owner and its seed. -/
structure Restoration (Double : Type) where
  owner : String
  contents : BackupContents
  seed : List UInt8
  identityMode : String
  tools : GrantTools Double

/-- A step that may fail. -/
inductive RestoreStep (Double : Type)
  | clearStage
  | createStage
  | beginPackages
  | write (path : String) (content : FileContent Double)
  | storeSeed
  | createParent
  | publish
  | upsert
  | setActive

/-- What the import asks the stores for. -/
inductive RestoreAction (Double : Type)
  | destinationUnsafe
  | loadSeed
  | readIndex
  | now
  | targetExists
  | step (step : RestoreStep Double)
  | deleteTarget
  | deleteSeed
  | readAgain
  | writeIndex (index : CapsulesIndex)
  | deleteStage

/-- A step answers whether it did not fail. -/
abbrev RestoreAnswer : RestoreAction Double → Type
  | .destinationUnsafe | .targetExists | .step _ => Bool
  | .loadSeed => Option (Option (List UInt8))
  | .readIndex => Option CapsulesIndex
  | .now => ℤ
  | .readAgain => CapsulesIndex
  | .deleteTarget | .deleteSeed | .writeIndex _ | .deleteStage => Unit

/-- What a step meets: whether it works, how far it gets where it does not, and the clock. -/
structure Turn where
  works : Bool
  progress : ℕ
  now : ℤ

section Call

variable (restoration : Restoration Double)

/-- A change of the index: a read that brings it in line with the directories, and a write. -/
def changeIndex (world : RestoreWorld Double) (turn : Turn)
    (change : CapsulesIndex → CapsulesIndex) : Bool × RestoreWorld Double :=
  match readUnlocked turn.now world.directories world.index with
  | none => (false, world)
  | some (index, left) =>
    if turn.works then (true, { world with index := .stored (change index) })
    else
      match turn.progress with
      | 0 => (false, world)
      | 1 => (false, { world with index := left })
      | _ => (false, { world with index := .stored (change index) })

def restoreUpsert : Upsert where
  pubKeyHex := restoration.owner
  isGenesis := restoration.contents.isGenesis
  isNeste := restoration.contents.isNeste
  identityMode := some restoration.identityMode

/-- What a step of the import answers and leaves; a write that fails may leave its content. -/
def stepEffect (turn : Turn) (world : RestoreWorld Double) :
    RestoreStep Double → Bool × RestoreWorld Double
  | .clearStage =>
    match world.stage with
    | .missing => (true, world)
    | .folder _ => if turn.works then (true, { world with stage := .missing }) else (false, world)
    | .other => (false, world)
  | .createStage =>
    if turn.works then (true, { world with stage := .folder ⟨[], none⟩ }) else (false, world)
  | .write path content =>
    match world.stage with
    | .folder folder =>
      (turn.works, if turn.works = false ∧ turn.progress = 0 then world
        else { world with stage := .folder ⟨put folder.files path content, some turn.now⟩ })
    | _ => (false, world)
  | .storeSeed =>
    (turn.works, if turn.works = false ∧ turn.progress = 0 then world
      else { world with seed := some restoration.seed })
  | .publish =>
    match world.stage with
    | .folder folder =>
      if turn.works then (true, world.publish restoration.owner folder) else (false, world)
    | _ => (false, world)
  | .upsert => changeIndex world turn ((restoreUpsert restoration).apply turn.now)
  | .setActive =>
    changeIndex world turn fun index => { index with activePubKeyHex := some restoration.owner }
  | .beginPackages => (turn.works, world)
  | .createParent => (turn.works, world)

/-- What an access of the import answers, and what it leaves. -/
def restoreEffect :
    Effect (RestoreWorld Double) Turn (RestoreAnswer : RestoreAction Double → Type)
  | .destinationUnsafe, _, world =>
    (world.parentIsLink || contains world.folders restoration.owner, world)
  | .loadSeed, turn, world => (if turn.works then some world.seed else none, world)
  | .readIndex, turn, world =>
    match readUnlocked turn.now world.directories world.index with
    | none => (none, world)
    | some (index, left) =>
      if turn.works then (some index, { world with index := left })
      else (none, if turn.progress = 0 then world else { world with index := left })
  | .now, turn, world => (turn.now, world)
  | .targetExists, _, world => (contains world.folders restoration.owner, world)
  | .step step, turn, world => stepEffect restoration turn world step
  | .deleteTarget, _, world => ((), world.deleteFolder restoration.owner)
  | .deleteSeed, _, world => ((), { world with seed := none })
  | .readAgain, turn, world =>
    match readUnlocked turn.now world.directories world.index with
    | none => (⟨none, []⟩, world)
    | some (index, left) => (index, { world with index := left })
  | .writeIndex index, turn, world =>
    match readUnlocked turn.now world.directories world.index with
    | none => ((), world)
    | some (current, _) => ((), { world with index := .stored (preservingActive current index) })
  | .deleteStage, _, world => ((), { world with stage := .missing })

/-- What the undoing goes by: whether the seed and the directory are new. -/
structure RestoreFlags where
  seedStored : Bool
  published : Bool
  deriving DecidableEq

abbrev RestoreCall (Double : Type) := Attempt (RestoreAction Double) RestoreAnswer RestoreFlags

/-- A step, and what is known where it fails. -/
def tried (flags : RestoreFlags) (step : RestoreStep Double) : RestoreCall Double Unit := do
  let done : Bool ← act (RestoreAction.step step)
  if done then pure () else throw flags

def nothingDone : RestoreFlags := ⟨false, false⟩

def grantSuffix : String := "/workspace-execution.v1.json"

/-- What is written of a file: a grant is sealed. -/
def restoredFile (entry : String × List UInt8) : Option (FileContent Double) :=
  if grantSuffix.toList.isSuffixOf entry.1.toList then
    match restoration.tools.decode entry.2 with
    | some (.obj control) =>
      (sealWorkspaceExecutionForRecovery restoration.tools control restoration.owner
        (String.ofList ((pathParts entry.1.toList).getD 1 []))).map .grant
    | _ => none
  else some (.bytes entry.2)

def writeFiles : List (String × List UInt8) → RestoreCall Double Unit
  | [] => pure ()
  | entry :: rest => do
    let content ← known ((restoredFile restoration entry).elim (.error nothingDone) .ok)
    tried nothingDone (.write entry.1 content)
    writeFiles rest

def restoredState : CapsuleStateFile where
  isGenesis := restoration.contents.isGenesis.getD false
  isNeste := restoration.contents.isNeste.getD true
  identityMode := none

@[irreducible] def isBlank (text : String) : Bool := trimmed text == ""

/-- `writeLedgerSnapshot`. -/
def writeLedgerSnapshot : RestoreCall Double Unit := do
  if isBlank restoration.contents.ledgerJson then throw nothingDone
  else do
    tried nothingDone (.write "ledger.json" (.ledger restoration.contents.ledgerJson))
    tried nothingDone (.write "capsule-backup.v1.json"
      (.envelope restoration.contents.ledgerJson restoration.contents.isGenesis
        restoration.contents.isNeste))

/-- The steps after the staging, where the seed is new or was stored before. -/
def publishCapsule (seedStored : Bool) : RestoreCall Double Unit := do
  tried ⟨seedStored, false⟩ .storeSeed
  tried ⟨seedStored, false⟩ .createParent
  let appeared : Bool ← act RestoreAction.targetExists
  if appeared then throw ⟨seedStored, false⟩
  else do
    tried ⟨seedStored, false⟩ .publish
    tried ⟨seedStored, true⟩ .upsert
    tried ⟨seedStored, true⟩ .setActive

/-- Write the files, the state and the ledger, and publish the capsule. -/
def restoreCore (files : List (String × List UInt8)) (seedStored : Bool) :
    RestoreCall Double Unit := do
  writeFiles restoration files
  let createdAt : ℤ ← act RestoreAction.now
  tried nothingDone (.write "capsule_state.json"
    (.state (restoredState restoration) createdAt restoration.seed.length))
  writeLedgerSnapshot restoration
  publishCapsule seedStored

def restoreWithPackages (files : List (String × List UInt8)) (seedStored : Bool) :
    RestoreCall Double Unit := do
  if restoration.contents.packages.isEmpty then restoreCore restoration files seedStored
  else do
    tried nothingDone .beginPackages
    restoreCore restoration files seedStored

/-- The index that the undoing writes. -/
def undoneIndex (owner : String) (indexBefore current : CapsulesIndex) : CapsulesIndex where
  activePubKeyHex :=
    if current.activePubKeyHex = some owner then indexBefore.activePubKeyHex
    else current.activePubKeyHex
  capsules := remove current.capsules owner

def onlyIf (flag : Bool) (call : RestoreCall Double Unit) : RestoreCall Double Unit :=
  if flag then call else pure ()

def deleteNew (flags : RestoreFlags) : RestoreCall Double Unit := do
  onlyIf flags.published (act RestoreAction.deleteTarget)
  onlyIf flags.seedStored (act RestoreAction.deleteSeed)

def undo (indexBefore : CapsulesIndex) (flags : RestoreFlags) : RestoreCall Double Unit := do
  deleteNew flags
  let current : CapsulesIndex ← act RestoreAction.readAgain
  act (RestoreAction.writeIndex (undoneIndex restoration.owner indexBefore current))
  act RestoreAction.deleteStage
  throw flags

/-- The steps from the creation of the staging directory on. -/
def restoreStaged (files : List (String × List UInt8)) (existingSeed : Option (List UInt8))
    (indexBefore : CapsulesIndex) : RestoreCall Double Unit := do
  tried nothingDone .createStage
  tryCatch (restoreWithPackages restoration files existingSeed.isNone) (undo restoration indexBefore)
  act RestoreAction.deleteStage

/-- The steps from the look at the destination on. -/
def restoreFiles (files : List (String × List UInt8)) : RestoreCall Double Unit := do
  let bad : Bool ← act RestoreAction.destinationUnsafe
  if bad then throw nothingDone
  else do
    tried nothingDone .clearStage
    let loaded : Option (Option (List UInt8)) ← act RestoreAction.loadSeed
    let existingSeed ← known (loaded.elim (.error nothingDone) .ok)
    if existingSeed.any (· ≠ restoration.seed) then throw nothingDone
    else do
      let read : Option CapsulesIndex ← act RestoreAction.readIndex
      let indexBefore ← known (read.elim (.error nothingDone) .ok)
      restoreStaged restoration files existingSeed indexBefore

/-- `_restoreCompleteBackup`. -/
def restoreCompleteBackup : RestoreCall Double Unit := do
  let files ← known ((decodeBackupFiles restoration.contents.files).elim (.error nothingDone) .ok)
  restoreFiles restoration files

end Call

end BackupRestore

end Hivra
