import Hivra.Host.PackagePreflight
import Hivra.Lib.OrderedMap
import Hivra.Lib.Interruptions

namespace Hivra

open JsonDocument OrderedMap Processes Interruptions

namespace PluginPackages

/-!
# The registry of plugins

The registry is a document beside the packages it names.  Every call reads it, stores or deletes
packages and writes it again; the calls follow one another, and only the cleanup of a removal runs
outside them.  Each access may fail, and the program may stop between any two of them.
-/

/-! ### Records -/

/-- The canonical id of a plugin. -/
structure PluginId where
  text : String
  canonical : canonicalPluginId (some text) = .ok (some text)
  deriving DecidableEq

structure WasmPluginRecord where
  id : String
  displayName : String
  originalFileName : String
  storedFileName : String
  sizeBytes : ℕ
  installedAtIso : String
  packageKind : String
  pluginId : Option PluginId
  pluginVersion : Option String
  contractKind : Option String
  runtimeAbi : Option String
  runtimeEntryExport : Option String
  runtimeModulePath : Option (List Char)
  capabilities : List String
  removalPending : Bool
  deriving DecidableEq

/-- A canonical id is its own canonical id. -/
theorem canonicalPluginId_idem {value : Option String} {text : String}
    (h : canonicalPluginId value = .ok (some text)) :
    canonicalPluginId (some text) = .ok (some text) := by
  unfold canonicalPluginId at h
  dsimp only at h
  split_ifs at h with hempty hsafe
  · cases h
  have htext : (value.map trimmedLower).getD "" = text := by
    rw [Except.ok.injEq, Option.some.injEq] at h
    exact h
  subst htext
  have hagain : trimmedLower ((value.map trimmedLower).getD "") =
      (value.map trimmedLower).getD "" := by
    cases value with
    | none => rfl
    | some value => exact trimmedLower_trimmedLower value
  unfold canonicalPluginId
  dsimp only
  rw [Option.map_some, Option.getD_some, hagain, if_neg hempty, if_pos hsafe]

/-- The plugin id of a text; this throws where it is no safe segment. -/
def PluginId.ofText (value : Option String) : Except String (Option PluginId) :=
  match h : canonicalPluginId value with
  | .error e => .error e
  | .ok none => .ok none
  | .ok (some text) => .ok (some ⟨text, canonicalPluginId_idem h⟩)

/-- Whether a name stays within its directory. -/
def isSafeStoredFileName (value : String) : Bool :=
  value != "" && value == trimmed value && value != "." && value != ".." &&
    !value.toList.contains '/' && !value.toList.contains '\\'

/-! ### Names and versions of packages -/

/-- `replaceAll` of the runs of some characters by one blank. -/
def blankRuns (p : Char → Bool) : Bool → List Char → List Char
  | _, [] => []
  | inRun, c :: rest =>
    if p c then (if inRun then blankRuns p true rest else ' ' :: blankRuns p true rest)
    else c :: blankRuns p false rest

def displayNameFromFile (fileName : List Char) : String :=
  let stem := fileName.take (fileName.length - (fileExtension fileName).length)
  String.ofList (dartTrim (blankRuns isDartWhite false
    (blankRuns (fun c => c == '_' || c == '-') false stem)))

/-- The numbers of a version that starts here: two to four of them, before a dot. -/
def versionAt (rest : List Char) : Option String :=
  let numbers := ((rest.splitOn '.').dropLast.takeWhile fun segment =>
    !segment.isEmpty && segment.all Char.isDigit).take 4
  if numbers.length < 2 then none
  else some (String.intercalate "." (numbers.map String.ofList))

def extractVersionFromFileName : List Char → Option String
  | [] => none
  | c :: rest =>
    if c = '-' then (versionAt rest).or (extractVersionFromFileName rest)
    else extractVersionFromFileName rest

def resolvePluginVersion (preflightVersion : Option String) (sourceFileName : List Char) :
    Option String :=
  let normalized := trimmed (preflightVersion.getD "")
  if normalized = "" then extractVersionFromFileName sourceFileName else some normalized

/-! ### What is stored -/

/-- The document and the packages, and for the statements the bytes that the preflight has
    inspected for the installation of an id. -/
structure PluginsDirectory where
  registry : Option (List WasmPluginRecord)
  files : List (String × List UInt8)
  inspected : List (String × List UInt8)

def PluginsDirectory.records (dir : PluginsDirectory) : List WasmPluginRecord :=
  dir.registry.getD []

/-- An access to the directory, or something else that may throw. -/
inductive RegistryAction
  | readRegistry
  /-- The document is replaced; for an installation with the bytes it has inspected. -/
  | writeRegistry (records : List WasmPluginRecord) (installed : Option (String × List UInt8))
  | hasFile (name : String)
  | readFile (name : String)
  | writeFile (name : String) (bytes : List UInt8)
  | deleteFile (name : String)
  | listFiles
  | elsewhere

/-- What an access is answered; none or false where it throws. -/
def RegistryAction.Answer : RegistryAction → Type
  | .readRegistry => Option (Option (List WasmPluginRecord))
  | .writeRegistry .. | .hasFile _ | .writeFile .. | .deleteFile _ | .elsewhere => Bool
  | .readFile _ => Option (List UInt8)
  | .listFiles => Option (List String)

/-- An access works or fails; what fails leaves everything as it is.  A look at what is there does
    not fail. -/
def registryEffect : Effect PluginsDirectory Bool RegistryAction.Answer
  | .readRegistry, works, dir => (if works then some dir.registry else none, dir)
  | .writeRegistry records installed, works, dir =>
    (works, if works then
      { dir with
        registry := some records
        inspected := match installed with
          | none => dir.inspected
          | some (id, bytes) => put dir.inspected id bytes }
      else dir)
  | .hasFile name, _, dir => (contains dir.files name, dir)
  | .readFile name, works, dir => (if works then lookup dir.files name else none, dir)
  | .writeFile name bytes, works, dir =>
    (works, if works then { dir with files := put dir.files name bytes } else dir)
  | .deleteFile name, works, dir =>
    (works, if works then { dir with files := remove dir.files name } else dir)
  | .listFiles, works, dir => (if works then some (dir.files.map Prod.fst) else none, dir)
  | .elsewhere, works, dir => (works, dir)

abbrev RegistryCall := Attempt RegistryAction RegistryAction.Answer String

/-- Go on unless an access threw. -/
def succeeds (works : Bool) : RegistryCall Unit := known (ensure works "FileSystemException")

/-- The answer of an access, unless it threw. -/
def answered {α : Type} : Option α → RegistryCall α
  | some answer => pure answer
  | none => throw "FileSystemException"

def readRegistry : RegistryCall (Option (List WasmPluginRecord)) := do
  answered (← act RegistryAction.readRegistry)

def writeRegistry (records : List WasmPluginRecord) (installed : Option (String × List UInt8)) :
    RegistryCall Unit := do
  succeeds (← act (RegistryAction.writeRegistry records installed))

def hasFile (name : String) : RegistryCall Bool := act (RegistryAction.hasFile name)

def readFile (name : String) : RegistryCall (List UInt8) := do
  answered (← act (RegistryAction.readFile name))

def writeFile (name : String) (bytes : List UInt8) : RegistryCall Unit := do
  succeeds (← act (RegistryAction.writeFile name bytes))

/-- What cannot be deleted now is deleted another time. -/
def deleteFileIfPresent (name : String) : RegistryCall Unit := do
  let _ ← act (RegistryAction.deleteFile name)

def listFiles : RegistryCall (Option (List String)) := act RegistryAction.listFiles

def elsewhere : RegistryCall Bool := act RegistryAction.elsewhere

def deleteFiles : List String → RegistryCall Unit
  | [] => pure ()
  | name :: rest => do
    deleteFileIfPresent name
    deleteFiles rest

def deleteStoredFilesForRecords (records : List WasmPluginRecord) : RegistryCall Unit :=
  deleteFiles ((records.map WasmPluginRecord.storedFileName).filter isSafeStoredFileName)

/-- Whether a text occurs in another one. -/
def occurs (part : List Char) : List Char → Bool
  | [] => part.isEmpty
  | c :: rest => part.isPrefixOf (c :: rest) || occurs part rest

/-- A package, or what an interrupted write has left of one. -/
def isLeftover (name : String) : Bool :=
  ".wasm".toList.isSuffixOf name.toList || ".zip".toList.isSuffixOf name.toList ||
    "registry.json.tmp.".toList.isPrefixOf name.toList ||
    occurs ".wasm.tmp.".toList name.toList || occurs ".zip.tmp.".toList name.toList

def cleanupUnreferencedFiles (records : List WasmPluginRecord) : RegistryCall Unit := do
  match ← listFiles with
  | none => pure ()
  | some names =>
    deleteFiles (names.filter fun name =>
      !(records.map WasmPluginRecord.storedFileName).contains name && isLeftover name)

/-! ### Loading -/

/-- The loop that keeps the first record of each plugin. -/
def dedupe : List PluginId → List WasmPluginRecord → List WasmPluginRecord
  | _, [] => []
  | seen, record :: rest =>
    match record.pluginId with
    | none => record :: dedupe seen rest
    | some key => if key ∈ seen then dedupe seen rest else record :: dedupe (key :: seen) rest

/-- One record of each plugin; one that is being removed comes first. -/
def dedupeByPluginId (records : List WasmPluginRecord) : List WasmPluginRecord :=
  dedupe [] (records.filter (·.removalPending) ++ records.filter (!·.removalPending))

/-- The cleanup obligation survives even if the package file was lost. -/
def filterRecordsWithStoredFile : List WasmPluginRecord → RegistryCall (List WasmPluginRecord)
  | [] => pure []
  | record :: rest => do
    let keeps ← if record.removalPending then pure true else hasFile record.storedFileName
    let kept ← filterRecordsWithStoredFile rest
    return if keeps then record :: kept else kept

/-- What the registry works with: packages, and SHA-256. -/
structure RegistryTools (Double : Type) extends PackageTools Double where
  sha256 : List UInt8 → List UInt8

section Calls

variable {Double : Type} (tools : RegistryTools Double)

/-- Write the records without those that are stale, if there are any. -/
def dropStale (records existingOnly : List WasmPluginRecord) : RegistryCall Unit :=
  if existingOnly.length = records.length then pure ()
  else do
    writeRegistry existingOnly none
    deleteStoredFilesForRecords
      (records.filter fun record => !existingOnly.any fun kept => kept.id == record.id)

def loadPluginsUnlocked : RegistryCall (List WasmPluginRecord) := do
  match ← readRegistry with
  | none =>
    cleanupUnreferencedFiles []
    return []
  | some stored =>
    let records := tools.dart.sort (fun a b => decide (b.installedAtIso ≤ a.installedAtIso)) stored
    let existingOnly ← filterRecordsWithStoredFile (dedupeByPluginId records)
    dropStale records existingOnly
    cleanupUnreferencedFiles existingOnly
    return existingOnly

/-! ### Installing -/

/-- What an installation meets: the name and the bytes of its source, none where it cannot be
    read, the clock, and whether the caller accepts the record. -/
structure InstallRequest where
  sourceName : List Char
  sourceBytes : Option (List UInt8)
  microseconds : ℕ
  installedAtIso : String
  validateRecord : WasmPluginRecord → Bool

/-- The id of an installation is its time. -/
def InstallRequest.id (request : InstallRequest) : String := toString request.microseconds

def InstallRequest.storedFileName (request : InstallRequest) : String := request.id ++ ".zip"

def recordsToReplace (existing : List WasmPluginRecord) (incoming : Option PluginId) :
    List WasmPluginRecord :=
  match incoming with
  | none => []
  | some pluginId => existing.filter fun record => record.pluginId == some pluginId

/-- The record of an installed package. -/
def recordOf (request : InstallRequest) (preflight : WasmPluginPackagePreflight)
    (pluginId : Option PluginId) (sizeBytes : ℕ) : WasmPluginRecord where
  id := request.id
  displayName := preflight.displayName.getD (displayNameFromFile
    (match preflight.pluginId with
      | none => request.sourceName
      | some text => if text = "" then request.sourceName else text.toList))
  originalFileName := String.ofList request.sourceName
  storedFileName := request.storedFileName
  sizeBytes := sizeBytes
  installedAtIso := request.installedAtIso
  packageKind := preflight.packageKind
  pluginId := pluginId
  pluginVersion := resolvePluginVersion preflight.pluginVersion request.sourceName
  contractKind := preflight.contractKind
  runtimeAbi := preflight.runtimeAbi
  runtimeEntryExport := preflight.runtimeEntryExport
  runtimeModulePath := preflight.runtimeModulePath
  capabilities := preflight.capabilities
  removalPending := false

/-- What comes before the registry is written: the record, what it replaces and what is kept. -/
def prepareInstall (request : InstallRequest) :
    RegistryCall
    (WasmPluginRecord × List WasmPluginRecord × List WasmPluginRecord × List UInt8) := do
  let existing ← loadPluginsUnlocked tools
  let source ← answered request.sourceBytes
  writeFile request.storedFileName source
  let bytes ← readFile request.storedFileName
  let preflight ← known (inspect tools.toPackageTools request.storedFileName.toList bytes)
  let pluginId ← known (PluginId.ofText preflight.pluginId)
  let replaced := recordsToReplace existing pluginId
  known (ensure (¬ replaced.any (·.removalPending))
    "Finish removing this plugin before installing it")
  let record := recordOf request preflight pluginId bytes.length
  known (ensure (request.validateRecord record) "rejected by the caller")
  let kept := existing.filter fun entry => !replaced.any fun stale => stale.id == entry.id
  writeRegistry (record :: kept) (some (record.id, bytes))
  return (record, replaced, kept, bytes)

/-- Install a package; a failure deletes the file it has stored. -/
def installPluginFromFileUnlocked (request : InstallRequest) : RegistryCall WasmPluginRecord := do
  known (ensure ((fileExtension request.sourceName).map Char.toLower = ".zip".toList)
    "Install a .zip plugin package containing manifest.json and a WASM module")
  let (record, replaced, kept, _) ← tryCatch (prepareInstall tools request) fun e => do
    deleteFileIfPresent request.storedFileName
    throw e
  -- From here on nothing throws.
  deleteStoredFilesForRecords replaced
  cleanupUnreferencedFiles (record :: kept)
  return record

/-! ### Removing -/

/-- The first part of a removal closes the plugin; it answers whether there is one. -/
def markRemoval (id : String) : RegistryCall Bool := do
  let records ← loadPluginsUnlocked tools
  match records.filter (·.id == id) with
  | [] => return false
  | [selected] =>
    if selected.removalPending then return true
    else
      writeRegistry (records.map fun record =>
        if record.id = id then { record with removalPending := true } else record) none
      return true
  | _ => throw "Too many elements"

/-- The last part of a removal. -/
def removePluginUnlocked (id : String) : RegistryCall Unit := do
  let records ← loadPluginsUnlocked tools
  let kept := records.filter (·.id != id)
  writeRegistry kept none
  deleteStoredFilesForRecords (records.filter (·.id == id))
  cleanupUnreferencedFiles kept

/-! ### Restoring packages -/

/-- A package that is to be installed. -/
structure IncomingPackage where
  key : String
  bytes : List UInt8

def IncomingPackage.request (package : IncomingPackage) (time : ℕ × String) : InstallRequest where
  sourceName := (package.key ++ ".zip").toList
  sourceBytes := some package.bytes
  microseconds := time.1
  installedAtIso := time.2
  validateRecord := fun _ => true

/-- The loop that checks the packages of a backup and collects those that are missing. -/
def stagePackages (original : List WasmPluginRecord) :
    ℕ → List (String × String) → RegistryCall (List IncomingPackage)
  | _, [] => pure []
  | total, (key, text) :: rest => do
    let canonical ← known (canonicalPluginId (some key))
    known (ensure (canonical = some key) "Invalid backup package identity")
    let bytes ← answered (tools.dart.base64Decode text.toList)
    known (ensure (bytes.length ≤ maxPackageBytes ∧ total + bytes.length ≤ 32 * 1024 * 1024)
      "Backup packages exceed the size limit")
    -- The package is put into a directory of its own, and is inspected there.
    succeeds (← elsewhere)
    let inspected ← known (inspect tools.toPackageTools (key ++ ".zip").toList bytes)
    known (ensure (inspected.pluginId = some key) "Invalid backup package identity")
    match original.filter fun record => record.pluginId.map PluginId.text == some key with
    | [] => return ⟨key, bytes⟩ :: (← stagePackages original (total + bytes.length) rest)
    | [current] => do
      known (ensure (current.removalPending = false) "Finish removing this plugin before recovery")
      let currentBytes ← readFile current.storedFileName
      known (ensure (tools.sha256 currentBytes = tools.sha256 bytes)
        ("A different version of " ++ key ++ " is installed"))
      stagePackages original (total + bytes.length) rest
    | _ => throw "Too many elements"

/-- The loop that installs the packages, with what is installed when it ends or throws. -/
def installIncoming (clock : ℕ → ℕ × String) : ℕ → List IncomingPackage →
    List WasmPluginRecord → Process RegistryAction RegistryAction.Answer
      (List WasmPluginRecord × Option String)
  | _, [], installed => pure (installed, none)
  | i, package :: rest, installed => do
    match ← (installPluginFromFileUnlocked tools (package.request (clock i))).run with
    | .ok record => installIncoming clock (i + 1) rest (installed ++ [record])
    | .error e => pure (installed, some e)

/-- The packages of a backup, and the clock at each installation: its number, and its text. -/
structure RestoreRequest where
  packages : List (String × String)
  clock : ℕ → ℕ × String
  nodup : (packages.map Prod.fst).Nodup

/-- Undo the installations, where there are any, and throw. -/
def rollBack (original installed : List WasmPluginRecord) (e : String) : RegistryCall Unit := do
  if installed = [] then throw e
  else
    writeRegistry original none
    deleteStoredFilesForRecords installed
    throw e

def withBackupPackages (request : RestoreRequest) : RegistryCall Unit := do
  let original ← loadPluginsUnlocked tools
  succeeds (← elsewhere)
  known (ensure (request.packages.length ≤ 64) "Too many backup packages")
  let incoming ← stagePackages tools original 0 request.packages
  let (installed, failure) ← (installIncoming tools request.clock 0 incoming [] : RegistryCall _)
  match failure with
  | some e => rollBack original installed e
  | none =>
    -- The caller restores the rest of the backup.
    if ← elsewhere then pure () else rollBack original installed "restore failed"

/-! ### What a plugin runs -/

/-- What the runtime of a plugin is bound to: nothing, or the bytes of a package. -/
inductive RuntimeBinding
  | hostFallback
  | externalPackage (record : WasmPluginRecord) (bytes : List UInt8)

/-- The installed package that runs, or the host's fallback. -/
def resolveRuntimeBinding (pluginId : Option String) : RegistryCall RuntimeBinding := do
  match ← known (PluginId.ofText pluginId) with
  | none => return .hostFallback
  | some normalized =>
    let records ← loadPluginsUnlocked tools
    match records.find? fun record => record.pluginId == some normalized with
    | none => return .hostFallback
    | some record =>
      if record.removalPending ∨ record.packageKind ≠ "zip" then return .hostFallback
      else if ← hasFile record.storedFileName then
        return .externalPackage record (← readFile record.storedFileName)
      else return .hostFallback

/-! ### Runs -/

/-- What is stored, and the removals under way, each with whether its cleanup is complete. -/
structure RegistryState where
  dir : PluginsDirectory
  removals : List (String × Bool)

/-- A call with how its accesses go, the cleanup of a removal, or the end of the program. -/
inductive RegistryEvent
  | load (accesses : List Bool)
  | install (request : InstallRequest) (accesses : List Bool)
  | restore (request : RestoreRequest) (accesses : List Bool)
  | remove (id : String) (accesses : List Bool)
  | cleanedUp (id : String)
  | cleanupFailed (id : String)
  | finish (id : String) (accesses : List Bool)
  | stop

/-- The outcome of a call, none where the program stopped, and what it leaves. -/
def callOn {α : Type} (call : RegistryCall α) (accesses : List Bool) (dir : PluginsDirectory) :
    Option (Except String α) × PluginsDirectory :=
  Interruptions.run registryEffect call.run accesses dir

/-- What is left after a call; where the program stopped no removal is under way. -/
def RegistryState.after {α : Type} (state : RegistryState) (call : RegistryCall α)
    (accesses : List Bool) : RegistryState where
  dir := (callOn call accesses state.dir).2
  removals := if (callOn call accesses state.dir).1.isSome then state.removals else []

/-- The steps of a removal: a second one for the same id waits for the first, the last part comes
    after the cleanup. -/
def registryStep (state : RegistryState) : RegistryEvent → RegistryState
  | .load accesses => state.after (loadPluginsUnlocked tools) accesses
  | .install request accesses => state.after (installPluginFromFileUnlocked tools request) accesses
  | .restore request accesses => state.after (withBackupPackages tools request) accesses
  | .remove id accesses =>
    if contains state.removals id then state
    else
      let after := state.after (markRemoval tools id) accesses
      match (callOn (markRemoval tools id) accesses state.dir).1 with
      | some (.ok true) => { after with removals := put after.removals id false }
      | _ => after
  | .cleanedUp id =>
    if contains state.removals id then { state with removals := put state.removals id true }
    else state
  | .cleanupFailed id => { state with removals := remove state.removals id }
  | .finish id accesses =>
    if lookup state.removals id = some true then
      let after := state.after (removePluginUnlocked tools id) accesses
      { after with removals := remove after.removals id }
    else state
  | .stop => { state with removals := [] }

/-- Nothing has been installed. -/
def emptyRegistry : RegistryState := ⟨⟨none, [], []⟩, []⟩

end Calls

end PluginPackages

end Hivra
