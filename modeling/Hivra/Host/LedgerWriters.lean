import Hivra.Ffi.CapsuleApi
import Hivra.Ffi.RuntimeRun
import Hivra.Host.CapsuleFiles

namespace Hivra

open JsonDocument Replay Serde

/-!
# The writers of `ledger.json`

Four host operations write a stored ledger.  Each of them stops at its awaits, and between
two of its moves anything else may run: native calls, which all work on the one runtime of
the process, and the moves of other writers.  The state of the host is the runtime, the
files, and the writers that are under way; one step starts an operation, moves a writer on,
or drops one whose file access failed.
-/

/-- A ledger text that is an object. -/
structure LedgerDocument {Double : Type} (dart : DartRuntime Double) where
  doc : Document
  root : List (String × DartValue Double)
  isRoot : exportLedgerRoot dart doc = some root

section Writers

variable {Seed Double : Type} (env : HostEnv Seed Double)

/-- What the outside answers to a refresh: the seed of the capsule, whether the native store
    took it, and the answers to the native calls. -/
structure RefreshOutside (Seed : Type) where
  seed : Option Seed
  saved : Bool
  create : CreateOutside
  imports : LedgerSource → Outside Seed

/-- A writer under way. -/
inductive Writer (env : HostEnv Seed Double)
  /-- `persistLedgerSnapshot` has the ledger of the runtime. -/
  | exported (ledger : Document)
  /-- A ledger is to be stored in a directory unless it is stale. -/
  | located (dir : String) (ledger : StoredText)
  /-- The ledger, and then the backup, are to be stored in a directory. -/
  | storing (dir : String) (ledger : LedgerDocument env.dart) (backup : Option Document)
  /-- The backup is to be stored. -/
  | storingBackup (dir : String) (backup : Document)
  /-- `refreshCapsuleSnapshot` is about to read the stored ledger. -/
  | refreshing (pubKeyHex : String) (outside : RefreshOutside Seed)
  /-- It has read the stored ledger and is about to read the backup. -/
  | refreshRead (pubKeyHex : String) (outside : RefreshOutside Seed) (ledger : Option StoredText)
  /-- A complete backup is to become the directory of its owner. -/
  | publishing (owner : String) (ledger : LedgerDocument env.dart) (backup : Document)
      (isGenesis isNeste : Bool)
  /-- A directory is to be created if it is missing. -/
  | entering (dir : String) (next : Writer env)
  /-- The files of the single capsule of old are to move into the directory that was created. -/
  | migrating (dir : String) (next : Writer env)

/-- The runtime, the files of each directory, and the writers under way. The name of the
    directory of a capsule is its owner in hexadecimal; the empty name is the root. -/
structure HostProcess (env : HostEnv Seed Double) where
  runtime : RuntimeState
  files : String → Option CapsuleFiles
  writers : List (Writer env)

variable {env}

/-- The ledger text in a directory. -/
def HostProcess.readLedger (host : HostProcess env) (dir : String) : Option StoredText :=
  (host.files dir).bind CapsuleFiles.ledger

/-- The backup text in a directory. -/
def HostProcess.readBackup (host : HostProcess env) (dir : String) : Option StoredText :=
  (host.files dir).bind CapsuleFiles.backup

/-- The flags in a directory. -/
def HostProcess.readState (host : HostProcess env) (dir : String) : Option StateFile :=
  (host.files dir).bind CapsuleFiles.state

/-- Replace the files of a directory. -/
def HostProcess.setFiles (host : HostProcess env) (dir : String) (files : CapsuleFiles) :
    HostProcess env :=
  { host with files := Function.update host.files dir (some files) }

/-- The files of a directory, which is created when it is missing. -/
def HostProcess.filesAt (host : HostProcess env) (dir : String) : CapsuleFiles :=
  (host.files dir).getD .empty

def HostProcess.writeLedger (host : HostProcess env) (dir : String) (ledger : Document) :
    HostProcess env :=
  host.setFiles dir { host.filesAt dir with ledger := some (.json ledger) }

def HostProcess.writeBackup (host : HostProcess env) (dir : String) (backup : Document) :
    HostProcess env :=
  host.setFiles dir { host.filesAt dir with backup := some (.json backup) }

/-- The directory of a runtime owner, else the root. -/
def capsuleDirOf (owner : Option PubKey) : String :=
  match owner with
  | some key => hexText key.bytes.toList
  | none => ""

/-- The owner in a ledger text. -/
def extractOwnerHex (dart : DartRuntime Double) (text : StoredText) : Option (Option String) :=
  match text.root dart with
  | none => none
  | some none => some none
  | some (some root) => ownerHex dart root

/-- The ledger in the root, if it is that of a capsule. -/
def HostProcess.legacyLedger (host : HostProcess env) (dir : String) :
    Option (LedgerDocument env.dart) :=
  match host.readLedger "" with
  | some (.json doc) =>
    match hroot : exportLedgerRoot env.dart doc with
    | some root => if ownerHex env.dart root = some (some dir) then some ⟨doc, root, hroot⟩ else none
    | none => none
  | _ => none

/-- Move the files in the root into the directory of a capsule. -/
def HostProcess.migrateLegacy (host : HostProcess env) (dir : String) : HostProcess env :=
  match host.legacyLedger dir with
  | none => host
  | some ledger =>
    (host.setFiles "" .empty).setFiles dir {
      ledger := some (.json ledger.doc)
      backup := host.readBackup "" <|> host.readBackup dir
      state := host.readState "" <|> host.readState dir }

/-! ### The moves of the writers -/

variable (env)

/-- A checked ledger goes on to be stored, together with its backup. -/
def persistLedgerGeneration (exportedAt : String) (dir : String) (state : Option StateFile) :
    StoredText → Option (Writer env)
  | .garbled => none
  | .json doc =>
    match hroot : exportLedgerRoot env.dart doc with
    | none => none
    | some root =>
      match encodeBackupEnvelope env.dart exportedAt doc
          (some ((state.bind StateFile.isGenesis) == some true))
          (some (!((state.bind StateFile.isNeste) == some false))) with
      | none => none
      | some backup => some (.storing dir ⟨doc, root, hroot⟩ (some backup))

/-- Import the first candidate that the runtime takes. -/
def importFirst (outside : LedgerSource → Outside Seed) (state : RuntimeState) :
    List LedgerCandidate → Bool × RuntimeState
  | [] => (false, state)
  | candidate :: rest =>
    match hivraImportLedger env.platform env.lossy env.toVec (outside candidate.source) state
        (some candidate.json) with
    | (0, state) => (true, state)
    | (_, state) => importFirst outside state rest

/-- Whether a refreshed ledger must not replace the stored one. -/
def refreshRejects (exported stored : Option LedgerCandidate) : Bool :=
  match exported, stored with
  | some exported, some stored =>
    decide (exported.eventCount < stored.eventCount) ||
      (exported.eventCount == stored.eventCount &&
        (exportLedgerRoot env.dart exported.json).bind (extractLedgerHash env.dart)
          != (exportLedgerRoot env.dart stored.json).bind (extractLedgerHash env.dart))
  | _, _ => false

/-- The flag of a byte argument. -/
def flagByte (flag : Bool) : UInt8 := if flag then 1 else 0

/-- Make the capsule of a directory anew in the runtime, from what is stored of it. -/
def refreshRuntime (pubKeyHex : String) (outside : RefreshOutside Seed) (state : Option StateFile)
    (ledger backup : Option StoredText) (runtime : RuntimeState) :
    Option (LedgerDocument env.dart) × RuntimeState :=
  match outside.seed, candidateOfText env.dart pubKeyHex .ledger ledger,
      candidateOfBackup env.dart pubKeyHex backup with
  | some seed, some ledgerCandidate, some backupCandidate =>
    let candidates := orderedLedgerCandidates ledgerCandidate backupCandidate
    let primary := candidates.head?.bind fun candidate => exportLedgerRoot env.dart candidate.json
    match inferGenesisFromLedgerRoot env.dart primary, inferNesteFromLedgerRoot env.dart primary with
    | some inferredGenesis, some inferredNeste =>
      let isGenesis := (inferredGenesis <|> state.bind StateFile.isGenesis).getD false
      let isNeste := (inferredNeste <|> state.bind StateFile.isNeste).getD true
      match hivraCapsuleCreate env.platform outside.create runtime seed (flagByte isNeste)
          (flagByte isGenesis) 1 with
      | (0, created) =>
        match importFirst env outside.imports created candidates with
        | (imported, runtime) =>
          if (ledger.isSome || backup.isSome) && !imported then (none, runtime)
          else
            match hivraExportLedger env.platform runtime with
            | none => (none, runtime)
            | some exported =>
              match hroot : exportLedgerRoot env.dart exported,
                  ledgerCandidateForCapsule env.dart exported pubKeyHex .ledger with
              | some root, some exportedCandidate =>
                if refreshRejects env exportedCandidate ledgerCandidate then (none, runtime)
                else (some ⟨exported, root, hroot⟩, runtime)
              | _, _ => (none, runtime)
      | (_, runtime) => (none, runtime)
    | _, _ => (none, runtime)
  | _, _, _ => (none, runtime)

/-- Move a writer on to its next await: what is left of it, and the host behind the move. -/
def Writer.advance (exportedAt : String) (host : HostProcess env) :
    Writer env → Option (Writer env) × HostProcess env
  | .exported ledger =>
    let dir := capsuleDirOf (hivraCapsuleRuntimeOwnerPublicKey host.runtime)
    (some (.entering dir (.located dir (.json ledger))), host)
  | .entering dir next =>
    if (host.files dir).isSome ∨ dir = "" then (some next, host)
    else (some (.migrating dir next), host.setFiles dir .empty)
  | .migrating dir next => (some next, host.migrateLegacy dir)
  | .located dir ledger =>
    match isIncomingLedgerStale env.dart ledger (host.readLedger dir) with
    | some false => (persistLedgerGeneration env exportedAt dir (host.readState dir) ledger, host)
    | _ => (none, host)
  | .storing dir ledger backup =>
    (backup.map (.storingBackup dir), host.writeLedger dir ledger.doc)
  | .storingBackup dir backup => (none, host.writeBackup dir backup)
  | .refreshing pubKeyHex outside =>
    (some (.refreshRead pubKeyHex outside (host.readLedger pubKeyHex)), host)
  | .refreshRead pubKeyHex outside ledger =>
    match refreshRuntime env pubKeyHex outside (host.readState pubKeyHex) ledger
        (host.readBackup pubKeyHex) host.runtime with
    | (document, runtime) =>
      (document.map fun ledger => .storing pubKeyHex ledger none, { host with runtime := runtime })
  | .publishing owner ledger backup isGenesis isNeste =>
    if (host.files owner).isSome then (none, host)
    else (none, host.setFiles owner {
      ledger := some (.json ledger.doc)
      backup := some (.json backup)
      state := some ⟨some isGenesis, some isNeste⟩ })

/-! ### The steps of the host -/

/-- `importCapsuleFromBackupJson` up to its first write. -/
def startImport (exportedAt : String) (rawJson : StoredText) (seed : Option Seed) (native : Bool) :
    Option (Writer env) :=
  match tryDecodeBackup env rawJson seed with
  | some (some contents) =>
    match hroot : exportLedgerRoot env.dart contents.ledger with
    | none => none
    | some root =>
      match ownerHex env.dart root,
          encodeBackupEnvelope env.dart exportedAt contents.ledger contents.isGenesis
            contents.isNeste with
      | some (some owner), some backup =>
        let matching := match seed with
          | some seed => (env.platform.rootPublicKey seed).map
              (fun key => hexText key.bytes.toList) == some owner
          | none => true
        if native && !matching then none
        else if contents.files.isSome then
          match seed with
          | none => none
          | some seed =>
            if native && (hivraValidateBackupLedger env.platform env.lossy (some contents.ledger)
                seed == 0) then
              some (.publishing owner ⟨contents.ledger, root, hroot⟩ backup
                (contents.isGenesis.getD false) (contents.isNeste.getD true))
            else none
        else some (.entering owner (.storing owner ⟨contents.ledger, root, hroot⟩ (some backup)))
      | _, _ => none
  | _ => none

/-- One step of the host. -/
inductive HostStep (Seed : Type)
  /-- A native call, of the foreground or of a worker. -/
  | native (call : RuntimeCall Seed)
  | createCapsule (outside : CreateOutside) (seed : Seed) (network capsuleType ownerMode : UInt8)
  | importLedger (outside : Outside Seed) (json : StoredText)
  | persistLedgerSnapshot
  | applyLedgerSnapshotIfNotStale (outside : Outside Seed) (ledgerJson : StoredText)
  | persistLedgerSnapshotForCapsuleHex (pubKeyHex : String) (ledgerJson : StoredText)
  | refreshCapsuleSnapshot (pubKeyHex : String) (outside : RefreshOutside Seed)
  | importCapsuleFromBackupJson (exportedAt : String) (rawJson : StoredText) (seed : Option Seed)
      (native : Bool)
  /-- Move the writer at an index on. -/
  | advance (index : ℕ) (exportedAt : String)
  /-- The file access of the writer at an index fails. -/
  | fail (index : ℕ)

/-- The document of a text. -/
def StoredText.document : StoredText → Option Document
  | .garbled => none
  | .json doc => some doc

variable {env} in
/-- Add a writer. -/
def HostProcess.start (host : HostProcess env) (writer : Option (Writer env)) : HostProcess env :=
  { host with writers := host.writers ++ writer.toList }

/-- `persistLedgerSnapshot` up to its first await. -/
def startPersist (host : HostProcess env) : HostProcess env :=
  host.start ((hivraExportLedger env.platform host.runtime).map .exported)

/-- A step of the host: a native call, the start of an operation, or a move of a writer. -/
def HostProcess.step (host : HostProcess env) : HostStep Seed → HostProcess env
  | .native call => { host with runtime := call.apply env.platform host.runtime }
  | .createCapsule outside seed network capsuleType ownerMode =>
    { host with runtime := (hivraCapsuleCreate env.platform outside host.runtime seed network
        capsuleType ownerMode).2 }
  | .importLedger outside json =>
    { host with runtime := (hivraImportLedger env.platform env.lossy env.toVec outside host.runtime
        json.document).2 }
  | .persistLedgerSnapshot => startPersist env host
  | .applyLedgerSnapshotIfNotStale outside ledgerJson =>
    match isIncomingLedgerStale env.dart ledgerJson
        ((hivraExportLedger env.platform host.runtime).map .json) with
    | some false =>
      match hivraImportLedger env.platform env.lossy env.toVec outside host.runtime
          ledgerJson.document with
      | (0, runtime) => startPersist env { host with runtime := runtime }
      | (_, runtime) => { host with runtime := runtime }
    | _ => host
  | .persistLedgerSnapshotForCapsuleHex pubKeyHex ledgerJson =>
    match extractOwnerHex env.dart ledgerJson with
    | none => host
    | some owner =>
      if pubKeyHex = "" then host
      else
        let dir := owner.getD pubKeyHex
        host.start (some (.entering dir (.located dir ledgerJson)))
  | .refreshCapsuleSnapshot pubKeyHex outside =>
    if outside.saved then
      (host.setFiles pubKeyHex (host.filesAt pubKeyHex)).start (some (.refreshing pubKeyHex outside))
    else host
  | .importCapsuleFromBackupJson exportedAt rawJson seed native =>
    host.start (startImport env exportedAt rawJson seed native)
  | .advance index exportedAt =>
    match host.writers[index]? with
    | none => host
    | some writer =>
      match writer.advance env exportedAt host with
      | (next, host) =>
        { host with writers := host.writers.eraseIdx index ++ next.toList }
  | .fail index => { host with writers := host.writers.eraseIdx index }

/-- A run of the host. -/
def hostRun (host : HostProcess env) (steps : List (HostStep Seed)) : HostProcess env :=
  replay (HostProcess.step env) host steps

/-! ### What a step stores -/

/-- The ledger a writer stores with its next move, and the directory. -/
def Writer.stores (host : HostProcess env) : Writer env → Option (String × LedgerDocument env.dart)
  | .storing dir ledger _ => some (dir, ledger)
  | .migrating dir _ => (host.legacyLedger dir).map fun ledger => (dir, ledger)
  | .publishing owner ledger _ _ _ =>
    if (host.files owner).isSome then none else some (owner, ledger)
  | _ => none

variable {env}

theorem readLedger_setFiles (host : HostProcess env) (dir other : String) (files : CapsuleFiles) :
    (host.setFiles dir files).readLedger other
      = if other = dir then files.ledger else host.readLedger other := by
  show (Function.update host.files dir (some files) other).bind CapsuleFiles.ledger = _
  split_ifs with h
  · rw [h, Function.update_self]
    rfl
  · rw [Function.update_of_ne h]
    rfl

/-- What a store leaves in a directory. -/
def storedLedger (host : HostProcess env) (dir : String) :
    Option (String × LedgerDocument env.dart) → Option StoredText
  | some (other, ledger) => if dir = other then some (.json ledger.doc) else host.readLedger dir
  | none => host.readLedger dir

variable {dir : String}

private theorem readLedger_migrateLegacy (host : HostProcess env) (target : String)
    (hdir : dir ≠ "") :
    (host.migrateLegacy target).readLedger dir
      = storedLedger host dir ((host.legacyLedger target).map fun ledger => (target, ledger)) := by
  unfold HostProcess.migrateLegacy
  cases host.legacyLedger target with
  | none => rfl
  | some ledger =>
    dsimp only [Option.map_some, storedLedger]
    rw [readLedger_setFiles, readLedger_setFiles, if_neg hdir]

/-- A move of a writer changes a stored ledger only where the writer stores its own. -/
theorem Writer.readLedger_advance (exportedAt : String) (host : HostProcess env)
    (writer : Writer env) (hdir : dir ≠ "") :
    (writer.advance env exportedAt host).2.readLedger dir
      = storedLedger host dir (writer.stores env host) := by
  cases writer with
  | exported ledger => rfl
  | entering target next =>
    unfold Writer.advance
    dsimp only
    split_ifs with h
    · rfl
    · rw [readLedger_setFiles]
      rw [not_or, Option.not_isSome_iff_eq_none] at h
      split_ifs with heq
      · rw [heq]
        show none = (host.files target).bind CapsuleFiles.ledger
        rw [h.1]
        rfl
      · rfl
  | migrating target next => exact readLedger_migrateLegacy host target hdir
  | located target ledger =>
    unfold Writer.advance
    dsimp only
    split <;> rfl
  | storing target ledger backup =>
    show (host.setFiles target _).readLedger dir = _
    rw [readLedger_setFiles]
    rfl
  | storingBackup target backup =>
    show (host.setFiles target _).readLedger dir = _
    rw [readLedger_setFiles]
    split_ifs with h
    · rw [h]
      show (host.filesAt target).ledger = host.readLedger target
      unfold HostProcess.filesAt HostProcess.readLedger
      cases host.files target <;> rfl
    · rfl
  | refreshing pubKeyHex outside => rfl
  | refreshRead pubKeyHex outside ledger => rfl
  | publishing owner ledger backup isGenesis isNeste =>
    unfold Writer.advance Writer.stores
    dsimp only
    split_ifs with h
    · rfl
    · rw [readLedger_setFiles]
      rfl

end Writers

end Hivra
