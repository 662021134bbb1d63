import Hivra.Host.HostTexts

namespace Hivra

open JsonDocument

namespace PluginPackages

/-!
# Plugin packages

A package is an archive with a manifest and modules.  The preflight checks it before it is
installed and hands on the module path its manifest declares; the runtime looks the module up in
the same archive each time it runs it.  The two read paths by rules of their own.

* `isEntryOf_iff` — both readers find the same entries under a path.
-/

/-- What the archive library hands out as the content of an entry. -/
inductive EntryContent
  | bytes (content : List UInt8)
  | text (content : String)
  | unreadable
  deriving DecidableEq

structure ArchiveFile where
  name : String
  isFile : Bool
  size : ℕ
  content : EntryContent
  deriving DecidableEq

/-- What reads a package: the archive library, and UTF-8 with JSON. -/
structure PackageTools (Double : Type) where
  dart : DartViews Double
  /-- The entries of an archive; this throws on bytes that are none. -/
  decodeBytes : List UInt8 → Option (List ArchiveFile)
  /-- The value of a JSON text in UTF-8. -/
  decodeText : List UInt8 → Option (DartValue Double)

def maxPackageBytes : ℕ := 8 * 1024 * 1024
def maxModuleBytes : ℕ := 4 * 1024 * 1024
def maxArchiveEntries : ℕ := 128
def maxExpandedArchiveBytes : ℕ := 16 * 1024 * 1024
def requiredRuntimeAbi : String := "hivra_host_abi_v2"
def requiredRuntimeEntryExport : String := "hivra_evaluate_v1"

/-- A check that throws where it fails. -/
def ensure (p : Prop) [Decidable p] (error : String) : Except String Unit :=
  if p then .ok () else .error error

/-! ### Paths -/

/-- `replaceAll` of backslashes. -/
def slashes (path : List Char) : List Char := path.map fun c => if c = '\\' then '/' else c

/-- The loop that takes off a leading current directory. -/
def dropCurrent : List Char → List Char
  | '.' :: '/' :: rest => dropCurrent rest
  | path => path

/-- The loop that takes off a leading slash. -/
def dropSlash : List Char → List Char
  | '/' :: rest => dropSlash rest
  | path => path

def traversalError : String := "Plugin runtime module_path must not include parent traversal"

/-- The lower case of a text ends in `.wasm`. -/
def isWasmPath (path : List Char) : Bool :=
  ['.', 'w', 'a', 's', 'm'].isSuffixOf (path.map Char.toLower)

namespace Preflight

def normalizeArchivePath (path : List Char) (rejectParentTraversal : Bool) :
    Except String (Option (List Char)) :=
  let normalized := dartTrim (slashes path)
  if normalized = [] then .ok none
  else
    let stripped := dropSlash (dropCurrent normalized)
    if (stripped.splitOn '/').any fun segment => dartTrim segment == ['.', '.'] then
      if rejectParentTraversal then .error traversalError else .ok none
    else .ok (some stripped)

end Preflight

namespace Runtime

def normalizeArchivePath (rawPath : Option (List Char)) (rejectParentTraversal : Bool) :
    Except String (Option (List Char)) :=
  let normalized := dropSlash (dropCurrent (((rawPath.map fun path =>
    slashes (dartTrim path)).getD [])))
  if normalized = [] then .ok none
  else if (normalized.splitOn '/').contains ['.', '.'] then
    if rejectParentTraversal then .error traversalError else .ok none
  else .ok (some normalized)

end Runtime

/-! ### Two readings of a path -/

/-- What is left of a path in either reading. -/
def strippedPath (path : List Char) : List Char := dropSlash (dropCurrent (dartTrim (slashes path)))

/-- A segment that the preflight takes for the parent directory. -/
def hasTraversal (path : List Char) : Bool :=
  (path.splitOn '/').any fun segment => dartTrim segment == ['.', '.']

/-- Slashes are no white space on either side. -/
theorem dartTrim_slashes (path : List Char) :
    dartTrim (slashes path) = slashes (dartTrim path) := by
  have hwhite : (isDartWhite ∘ fun c => if c = '\\' then '/' else c) = isDartWhite := by
    funext c
    show isDartWhite (if c = '\\' then '/' else c) = isDartWhite c
    split_ifs with h
    · rw [h]
      rfl
    · rfl
  rw [dartTrim, slashes, List.dropWhile_map, hwhite, ← List.map_reverse, List.dropWhile_map,
    hwhite, ← List.map_reverse]
  rfl

theorem hasTraversal_slash (path : List Char) : hasTraversal ('/' :: path) = hasTraversal path := by
  rw [hasTraversal, List.splitOn_cons_eq_if_modifyHead]
  simp [hasTraversal, show dartTrim [] = [] from rfl]

theorem hasTraversal_current (path : List Char) :
    hasTraversal ('.' :: '/' :: path) = hasTraversal path := by
  rw [hasTraversal, List.splitOn_cons_eq_if_modifyHead, List.splitOn_cons_eq_if_modifyHead]
  simp [hasTraversal, show dartTrim ['.'] = ['.'] from by decide]

variable {c : Char}

theorem hasTraversal_white (path : List Char) (h : isDartWhite c = true) :
    hasTraversal (c :: path) = hasTraversal path := by
  have hslash : (c == '/') = false := by
    rw [beq_eq_false_iff_ne]
    rintro rfl
    exact absurd h (by decide)
  have htrim : ∀ segment, dartTrim (c :: segment) = dartTrim segment := fun segment => by
    rw [dartTrim, List.dropWhile_cons_of_pos h, dartTrim]
  rw [hasTraversal, List.splitOn_cons_eq_if_modifyHead, hslash, hasTraversal]
  cases hsegments : path.splitOn '/' with
  | nil => rfl
  | cons first rest => simp [htrim]

theorem hasTraversal_dropSlash (path : List Char) :
    hasTraversal (dropSlash path) = hasTraversal path := by
  fun_induction dropSlash path with
  | case1 rest ih => rw [ih, hasTraversal_slash]
  | case2 path => rfl

theorem hasTraversal_dropCurrent (path : List Char) :
    hasTraversal (dropCurrent path) = hasTraversal path := by
  fun_induction dropCurrent path with
  | case1 rest ih => rw [ih, hasTraversal_current]
  | case2 path => rfl

theorem hasTraversal_dropWhile (path : List Char) :
    hasTraversal (path.dropWhile isDartWhite) = hasTraversal path := by
  induction path with
  | nil => rfl
  | cons c rest ih =>
    cases h : isDartWhite c with
    | true => rw [List.dropWhile_cons_of_pos h, ih, hasTraversal_white rest h]
    | false => rw [List.dropWhile_cons_of_neg (by simp [h])]

/-! Taking something off the front of a path to a module leaves a path to a module. -/

theorem isWasmPath_cons {rest : List Char} (h : isWasmPath (c :: rest) = true)
    (hdot : c.toLower ≠ '.') : isWasmPath rest = true := by
  rw [isWasmPath, List.isSuffixOf_iff_suffix, List.map_cons, List.suffix_cons_iff] at h
  rw [isWasmPath, List.isSuffixOf_iff_suffix]
  rcases h with heq | hrest
  · exact absurd (List.head_eq_of_cons_eq heq).symm hdot
  · exact hrest

variable {path : List Char}

theorem isWasmPath_dropSlash (h : isWasmPath path = true) : isWasmPath (dropSlash path) = true := by
  fun_induction dropSlash path with
  | case1 rest ih => exact ih (isWasmPath_cons h (by decide))
  | case2 path => exact h

theorem isWasmPath_dropCurrent (h : isWasmPath path = true) :
    isWasmPath (dropCurrent path) = true := by
  fun_induction dropCurrent path with
  | case1 rest ih =>
    refine ih (isWasmPath_cons (c := '/') ?_ (by decide))
    rw [isWasmPath, List.isSuffixOf_iff_suffix, List.map_cons, List.suffix_cons_iff] at h
    rw [isWasmPath, List.isSuffixOf_iff_suffix]
    rcases h with heq | hrest
    -- A name after the dot would start with a slash.
    · exact absurd (List.head_eq_of_cons_eq (List.tail_eq_of_cons_eq heq)) (by decide)
    · exact hrest
  | case2 path => exact h

theorem toLower_of_white (h : isDartWhite c = true) : c.toLower ≠ '.' := by
  intro hdot
  rw [← isDartWhite_toLower, hdot] at h
  exact absurd h (by decide)

theorem isWasmPath_dropWhile (h : isWasmPath path = true) :
    isWasmPath (path.dropWhile isDartWhite) = true := by
  induction path with
  | nil => exact h
  | cons c rest ih =>
    cases hwhite : isDartWhite c with
    | true =>
      rw [List.dropWhile_cons_of_pos hwhite]
      exact ih (isWasmPath_cons h (toLower_of_white hwhite))
    | false => rwa [List.dropWhile_cons_of_neg (by simp [hwhite])]

/-- A path to a module ends in a letter. -/
theorem dartTrim_of_isWasmPath (h : isWasmPath path = true) :
    dartTrim path = path.dropWhile isDartWhite := by
  have hwasm := isWasmPath_dropWhile h
  rw [dartTrim_eq, List.rdropWhile_eq_self_iff]
  intro hne hwhite
  rw [isWasmPath, List.isSuffixOf_iff_suffix] at hwasm
  obtain ⟨front, heq⟩ := hwasm
  have hlast : ((path.dropWhile isDartWhite).getLast hne).toLower = 'm' := by
    rw [← List.getLast_map (f := Char.toLower) (by simpa using hne)]
    simp [← heq]
  rw [← isDartWhite_toLower, hlast] at hwhite
  exact absurd hwhite (by decide)

theorem slashes_eq_self (h : '\\' ∉ path) : slashes path = path := by
  refine (List.map_congr_left fun c hc => ?_).trans (List.map_id' path)
  refine if_neg fun heq => h ?_
  rw [← heq]
  exact hc

theorem dropSlash_suffix (path : List Char) : dropSlash path <:+ path := by
  fun_induction dropSlash path with
  | case1 rest ih => exact ih.trans (List.suffix_cons _ _)
  | case2 path => exact List.suffix_rfl

theorem dropCurrent_suffix (path : List Char) : dropCurrent path <:+ path := by
  fun_induction dropCurrent path with
  | case1 rest ih => exact (ih.trans (List.suffix_cons _ _)).trans (List.suffix_cons _ _)
  | case2 path => exact List.suffix_rfl

theorem mem_of_mem_dartTrim (h : c ∈ dartTrim path) : c ∈ path := by
  rw [dartTrim_eq] at h
  exact List.dropWhile_suffix _ |>.subset (List.rdropWhile_prefix _ _ |>.subset h)

/-- No backslash is left. -/
theorem backslash_strippedPath (path : List Char) : '\\' ∉ strippedPath path := by
  intro h
  have hslashes := mem_of_mem_dartTrim
    ((dropCurrent_suffix _).subset ((dropSlash_suffix _).subset h))
  obtain ⟨c, -, hc⟩ := List.mem_map.mp hslashes
  split_ifs at hc with heq
  · exact absurd hc (by decide)
  · exact heq hc

/-- A module path that has been stripped once can be stripped again: it stays a path to a
    module, and no parent directory turns up. -/
theorem strippedPath_again (hwasm : isWasmPath (strippedPath path) = true) :
    isWasmPath (strippedPath (strippedPath path)) = true ∧
      hasTraversal (strippedPath (strippedPath path)) = hasTraversal (strippedPath path) := by
  rw [strippedPath, slashes_eq_self (backslash_strippedPath path), dartTrim_of_isWasmPath hwasm,
    hasTraversal_dropSlash, hasTraversal_dropCurrent, hasTraversal_dropWhile]
  exact ⟨isWasmPath_dropSlash (isWasmPath_dropCurrent (isWasmPath_dropWhile hwasm)), rfl⟩

theorem ne_nil_of_isWasmPath (h : isWasmPath path = true) : path ≠ [] := by
  rintro rfl
  exact absurd h (by decide)

variable {normalized : List Char}

/-- What the preflight reads from a path, where that is not empty. -/
theorem Preflight.normalizeArchivePath_eq {reject : Bool} (hne : normalized ≠ []) :
    Preflight.normalizeArchivePath path reject = .ok (some normalized) ↔
      strippedPath path = normalized ∧ hasTraversal normalized = false := by
  unfold Preflight.normalizeArchivePath
  by_cases hempty : dartTrim (slashes path) = []
  · rw [if_pos hempty, strippedPath, hempty]
    refine iff_of_false (fun h => by cases h) fun h => hne ?_
    rw [← h.1]
    rfl
  · rw [if_neg hempty]
    show (if hasTraversal (strippedPath path) then
      if reject then Except.error traversalError else .ok none
      else .ok (some (strippedPath path))) = _ ↔ _
    split_ifs with htraversal hreject
    · exact iff_of_false (fun h => by cases h) fun h => by simp [h.1 ▸ h.2] at htraversal
    · exact iff_of_false (fun h => by cases h) fun h => by simp [h.1 ▸ h.2] at htraversal
    · simp only [Except.ok.injEq, Option.some.injEq]
      refine ⟨fun h => ⟨h, ?_⟩, fun h => h.1⟩
      rw [← h]
      simpa using htraversal

/-- **The two readings agree on a path without parent directories.** -/
theorem Runtime.normalizeArchivePath_eq {reject : Bool} (hne : normalized ≠ [])
    (hsafe : hasTraversal normalized = false) :
    Runtime.normalizeArchivePath (some path) reject = .ok (some normalized) ↔
      strippedPath path = normalized := by
  have hstripped : dropSlash (dropCurrent (((some path).map fun path =>
      slashes (dartTrim path)).getD [])) = strippedPath path := by
    rw [strippedPath, dartTrim_slashes]
    rfl
  unfold Runtime.normalizeArchivePath
  rw [hstripped]
  dsimp only
  have hparent : ∀ segments : List (List Char),
      (segments.any fun segment => dartTrim segment == ['.', '.']) = false →
      segments.contains ['.', '.'] = false := by
    intro segments hany
    rw [List.any_eq_false] at hany
    rw [List.contains_eq_mem, decide_eq_false_iff_not]
    exact fun hmem => hany _ hmem (by decide)
  constructor
  · intro h
    split_ifs at h with hempty hcontains hreject
    · cases h
    · cases h
    · simpa only [Except.ok.injEq, Option.some.injEq] using h
  · intro h
    rw [h, if_neg hne, hparent _ hsafe]
    rfl

/-! ### The preflight -/

structure WasmPluginPackagePreflight where
  packageKind : String
  pluginId : Option String
  pluginVersion : Option String
  displayName : Option String
  contractKind : Option String
  runtimeAbi : Option String
  runtimeEntryExport : Option String
  runtimeModulePath : Option (List Char)
  capabilities : List String
  deriving DecidableEq

/-- Canonical identity for package admission, registry records and state paths. -/
def canonicalPluginId (value : Option String) : Except String (Option String) :=
  let normalized := (value.map trimmedLower).getD ""
  if normalized = "" then .ok none
  else if normalized.toList.all (fun c =>
        ('a' ≤ c && c ≤ 'z') || c.isDigit || c == '.' || c == '-') && normalized != "." &&
      normalized != ".." then
    .ok (some normalized)
  else .error "Plugin id must be a safe identity segment"

def allowedCapabilities : List String :=
  ["content.draft.prepare", "content.feed.plan", "content.engagement.plan",
   "content.reply.prepare", "content.reply.delegate", "workspace.render", "workspace.continue",
   "consensus_guard.read", "workspace.schedule", "state.plugin.read_write", "network.http",
   "credentials.use", "inference.request", "market.candles.read", "market.instruments.read",
   "account.snapshot.read", "account.connect", "order.entry.place", "order.entry.cancel",
   "order.snapshot.read", "position.snapshot.read", "position.exit.place"]

/-- The loop over the capabilities, which come in the order of their texts. -/
def normalizeAndValidate (capabilities : List String) : Except String (List String) :=
  (capabilities.foldlM validate []).map fun normalized =>
    normalized.insertionSort (· ≤ ·)
where
  validate (normalized : List String) (raw : String) : Except String (List String) :=
    if trimmed raw = "" then .ok normalized
    else if trimmed raw ∉ allowedCapabilities then
      .error ("Unsupported plugin capability: " ++ trimmed raw)
    else .ok (normalized.insert (trimmed raw))

section Inspect

variable {Double : Type} (tools : PackageTools Double)

/-- `toString` of a field and its trim, the empty text for a missing field. -/
def fieldText (value : Option (DartValue Double)) : String :=
  trimmed ((displayText tools.dart.toDartRuntime value).getD "")

/-- The entries of an archive; the library throws on other bytes. -/
def decodeArchive (bytes : List UInt8) : Except String (List ArchiveFile) :=
  match tools.decodeBytes bytes with
  | none => .error "ArchiveException"
  | some archive => .ok archive

/-- The bytes of an entry. -/
def archiveFileBytes (file : ArchiveFile) : Except String (List UInt8) :=
  match file.content with
  | .bytes content => .ok content
  | .text content => .ok content.toUTF8.toList
  | .unreadable => .error "Unable to read file content from plugin archive"

def parseRuntimeModulePath (raw : Option (DartValue Double)) : Except String (Option (List Char)) :=
  match displayText tools.dart.toDartRuntime raw with
  | none => .ok none
  | some text => do
    let value := dartTrim text.toList
    ensure (value ≠ []) "Plugin runtime module_path must be a non-empty string"
    let normalized := (← Preflight.normalizeArchivePath value true).getD []
    ensure (isWasmPath normalized) "Plugin runtime module_path must point to a .wasm file"
    return some normalized

def parsePluginVersion (manifest : List (String × DartValue Double)) : Option String :=
  let raw := (displayText tools.dart.toDartRuntime (manifest.lookup "release_version")).or
    (displayText tools.dart.toDartRuntime (manifest.lookup "plugin_version"))
  let value := trimmed (raw.getD "")
  if value = "" then none else some value

def parseCapabilities (raw : Option (DartValue Double)) : Except String (List String) :=
  match raw with
  | none | some .null => .ok []
  | some (.arr entries) => do
    let unique ← entries.foldlM addEntry []
    normalizeAndValidate (unique.insertionSort (· ≤ ·))
  | some _ => .error "Plugin manifest capabilities must be a list"
where
  addEntry (unique : List String) (entry : DartValue Double) : Except String (List String) :=
    if fieldText tools (some entry) = "" then
      .error "Plugin manifest capabilities entries must be non-empty strings"
    else .ok (unique.insert (fieldText tools (some entry)))

/-- The loop that collects the paths of the modules. -/
def wasmModulePaths : List ArchiveFile → Except String (List (List Char))
  | [] => .ok []
  | file :: rest =>
    if file.isFile then do
      match ← Preflight.normalizeArchivePath file.name.toList false with
      | none => wasmModulePaths rest
      | some path =>
        if isWasmPath path then
          let content ← archiveFileBytes file
          ensure (content.length ≤ maxModuleBytes) "WASM module exceeds the size limit"
          return path :: (← wasmModulePaths rest)
        else wasmModulePaths rest
    else wasmModulePaths rest

/-- Whether a value is the schema of manifests. -/
def isManifestSchema : Option (DartValue Double) → Bool
  | some (.str text) => text == "hivra.plugin.manifest"
  | _ => false

/-- A number that equals one. -/
def isOne : Option (DartValue Double) → Bool
  | some (.num (.inl value)) => value == 1
  | some (.num (.inr value)) => tools.dart.equalsInt value 1
  | _ => false

/-- The members of an object. -/
def objectOr (error : String) : Option (DartValue Double) →
    Except String (List (String × DartValue Double))
  | some (.obj members) => .ok members
  | _ => .error error

/-- The name of a package for its user. -/
def displayNameOf (raw : Option (DartValue Double)) : Except String (Option String) :=
  let invalid := "Plugin display_name must be a non-empty name of at most 128 characters"
  match raw with
  | none | some .null => .ok none
  | some (.str text) =>
    if trimmed text = "" ∨ 128 < dartLength text then .error invalid else .ok (some (trimmed text))
  | some _ => .error invalid

/-- The entries of an archive within the bounds. -/
def boundedEntries (archive : List ArchiveFile) : Except String Unit := do
  ensure (archive.length ≤ maxArchiveEntries) "Plugin package has too many entries"
  ensure ((archive.map ArchiveFile.size).sum ≤ maxExpandedArchiveBytes)
    "Expanded plugin package is too large"

/-- The members of the manifest of an archive. -/
def manifestOf (archive : List ArchiveFile) : Except String (List (String × DartValue Double)) :=
  match archive.find? fun file =>
      file.isFile && (file.name.toList.splitOn '/').getLast? == some "manifest.json".toList with
  | none => .error "Zip plugin package must include manifest.json"
  | some file => do
    let bytes ← archiveFileBytes file
    match tools.decodeText bytes with
    | none => .error "FormatException"
    | some decoded => objectOr "Plugin manifest must be a JSON object" (some decoded)

/-- The declared module must be among the modules. -/
def checkDeclared (paths : List (List Char)) (runtimeModulePath : Option (List Char)) :
    Except String Unit :=
  match runtimeModulePath with
  | none => .ok ()
  | some declared => do
    let normalized := (← Preflight.normalizeArchivePath declared true).getD []
    ensure (normalized ∈ paths) "Plugin runtime module_path not found in package"

/-- The checks of an archive, in the order in which they are made. -/
def validateZipPackage (bytes : List UInt8) : Except String WasmPluginPackagePreflight := do
  let archive ← decodeArchive tools bytes
  ensure (archive ≠ []) "Plugin package archive is empty"
  boundedEntries archive
  let manifest ← manifestOf tools archive
  ensure (isManifestSchema (manifest.lookup "schema")) "Unsupported plugin manifest schema"
  ensure (isOne tools (manifest.lookup "version")) "Unsupported plugin manifest version"
  let pluginId ← canonicalPluginId
    (displayText tools.dart.toDartRuntime (manifest.lookup "plugin_id"))
  ensure (pluginId ≠ none) "Plugin manifest is missing plugin_id"
  let displayName ← displayNameOf (manifest.lookup "display_name")
  let contract ← objectOr "Plugin manifest is missing contract section" (manifest.lookup "contract")
  let contractKind := fieldText tools (contract.lookup "kind")
  ensure (contractKind ≠ "") "Plugin manifest contract.kind must be a non-empty string"
  let runtime ← objectOr "Plugin manifest is missing runtime section" (manifest.lookup "runtime")
  let runtimeAbi := fieldText tools (runtime.lookup "abi")
  let runtimeEntryExport := fieldText tools (runtime.lookup "entry_export")
  let runtimeModulePath ← parseRuntimeModulePath tools (runtime.lookup "module_path")
  ensure (runtimeAbi = requiredRuntimeAbi) "Unsupported plugin runtime ABI"
  ensure (runtimeEntryExport = requiredRuntimeEntryExport)
    "Unsupported plugin runtime entry export"
  let paths ← wasmModulePaths archive
  ensure (paths ≠ []) "Zip plugin package must include at least one .wasm module"
  checkDeclared paths runtimeModulePath
  let capabilities ← parseCapabilities tools (manifest.lookup "capabilities")
  ensure (capabilities ≠ []) "Plugin manifest must declare at least one capability"
  return { packageKind := "zip", pluginId := pluginId,
           pluginVersion := parsePluginVersion tools manifest, displayName := displayName,
           contractKind := some contractKind, runtimeAbi := some runtimeAbi,
           runtimeEntryExport := some runtimeEntryExport,
           runtimeModulePath := runtimeModulePath, capabilities := capabilities }

def fileNameOnly (path : List Char) : List Char :=
  ((slashes path).splitOn '/').getLast?.getD []

/-- What follows the last dot of a name that does not start with it, with the dot. -/
def fileExtension (fileName : List Char) : List Char :=
  if '.' ∈ fileName.tail then '.' :: (fileName.splitOn '.').getLast?.getD [] else []

/-- What the preflight makes of a file. -/
def inspect (path : List Char) (bytes : List UInt8) : Except String WasmPluginPackagePreflight :=
  if maxPackageBytes < bytes.length then .error "Plugin package exceeds the size limit"
  else if (fileExtension (fileNameOnly path)).map Char.toLower = ".zip".toList then
    validateZipPackage tools bytes
  else
    .error ("Install a .zip plugin package containing manifest.json and a WASM module")

end Inspect

/-! ### The runtime -/

structure ResolvedModule where
  path : List Char
  selection : String
  bytes : List UInt8
  deriving DecidableEq

/-- Whether an entry is looked up under a path. -/
def isEntryOf (requiredPath : List Char) (entry : ArchiveFile) : Bool :=
  entry.isFile &&
    (Runtime.normalizeArchivePath (some entry.name.toList) false).toOption ==
      some (some requiredPath)

/-- The loop over the entries. -/
def selectModule (requiredPath : List Char) : List ArchiveFile → Except String ResolvedModule
  | [] => .error "Plugin runtime module_path not found in package"
  | entry :: rest =>
    if isEntryOf requiredPath entry then
      match entry.content with
      | .bytes (first :: content) => do
        ensure ((first :: content).length ≤ maxModuleBytes)
          "Plugin WASM module exceeds the size limit"
        return ⟨requiredPath, "manifest_module_path", first :: content⟩
      | _ => .error "Plugin WASM module is empty"
    else selectModule requiredPath rest

def extractModule {Double : Type} (tools : PackageTools Double) (bytes : List UInt8)
    (runtimeModulePath : Option (List Char)) : Except String ResolvedModule := do
  let archive ← decodeArchive tools bytes
  boundedEntries archive
  match ← Runtime.normalizeArchivePath runtimeModulePath true with
  | none => .error "Plugin runtime module_path is missing"
  | some requiredPath => selectModule requiredPath archive

/-! ### What the runtime finds -/

section Checked

variable {Double : Type} {tools : PackageTools Double}

/-- An entry that the preflight has checked as the module of a path. -/
structure ValidatedUnder (path : List Char) (file : ArchiveFile) : Prop where
  isFile : file.isFile = true
  named : Preflight.normalizeArchivePath file.name.toList false = .ok (some path)
  isWasm : isWasmPath path = true
  bounded : ∃ content, archiveFileBytes file = .ok content ∧ content.length ≤ maxModuleBytes

theorem bind_ok {ε α β : Type} {x : Except ε α} {f : α → Except ε β} {b : β} :
    (x >>= f) = .ok b ↔ ∃ a, x = .ok a ∧ f a = .ok b := by
  cases x with
  | error e => exact iff_of_false (fun h => by cases h) fun ⟨_, h, _⟩ => by cases h
  | ok a => simp [bind, Except.bind]

theorem ok_bind {ε α β : Type} {a : α} {f : α → Except ε β} : (Except.ok a >>= f) = f a := rfl

theorem ensure_ok {p : Prop} [Decidable p] {error : String} {done : Unit} :
    ensure p error = .ok done ↔ p := by
  unfold ensure
  split_ifs with h
  · exact iff_of_true rfl h
  · exact iff_of_false (fun hok => by cases hok) h

variable {archive : List ArchiveFile} {path : List Char}

/-- Every module was read and is within the bound. -/
theorem length_le_of_wasmModulePaths {paths : List (List Char)}
    (h : wasmModulePaths archive = .ok paths) {file : ArchiveFile} (hmem : file ∈ archive)
    (hfile : file.isFile = true)
    (hnamed : Preflight.normalizeArchivePath file.name.toList false = .ok (some path))
    (hwasm : isWasmPath path = true) {content : List UInt8}
    (hcontent : archiveFileBytes file = .ok content) : content.length ≤ maxModuleBytes := by
  induction archive generalizing paths with
  | nil => cases hmem
  | cons first rest ih =>
    rw [wasmModulePaths] at h
    rcases List.mem_cons.mp hmem with rfl | hrest
    · rw [if_pos hfile, hnamed] at h
      obtain ⟨_, hread, h⟩ := bind_ok.mp h
      cases hread
      dsimp only at h
      rw [if_pos hwasm, hcontent] at h
      obtain ⟨_, hread, h⟩ := bind_ok.mp h
      cases hread
      obtain ⟨_, hbound, -⟩ := bind_ok.mp h
      exact ensure_ok.mp hbound
    · have htail : ∃ tail, wasmModulePaths rest = .ok tail := by
        split_ifs at h
        · obtain ⟨read, -, h⟩ := bind_ok.mp h
          cases read with
          | none => exact ⟨_, h⟩
          | some normalized =>
            dsimp only at h
            split_ifs at h
            · obtain ⟨_, -, h⟩ := bind_ok.mp h
              obtain ⟨_, -, h⟩ := bind_ok.mp h
              obtain ⟨tail, htail, -⟩ := bind_ok.mp h
              exact ⟨tail, htail⟩
            · exact ⟨_, h⟩
        · exact ⟨_, h⟩
      obtain ⟨tail, htail⟩ := htail
      exact ih htail hrest

/-! The loop of the runtime stops at the first entry under its path. -/

variable {resolved : ResolvedModule}

theorem selectModule_ok {requiredPath : List Char} :
    selectModule requiredPath archive = .ok resolved ↔
      ∃ entry, archive.find? (isEntryOf requiredPath) = some entry ∧
        entry.content = .bytes resolved.bytes ∧ resolved.bytes ≠ [] ∧
        resolved.bytes.length ≤ maxModuleBytes ∧ resolved.path = requiredPath ∧
        resolved.selection = "manifest_module_path" := by
  induction archive with
  | nil => exact iff_of_false (fun h => by cases h) fun ⟨_, h, _⟩ => by cases h
  | cons entry rest ih =>
    rw [selectModule]
    split_ifs with hentry
    · have hfind : (entry :: rest).find? (isEntryOf requiredPath) = some entry :=
        List.find?_cons_of_pos hentry
      rw [hfind]
      constructor
      · intro h
        split at h
        case h_1 first content hcontent =>
          obtain ⟨_, hbound, h⟩ := bind_ok.mp h
          cases h
          exact ⟨entry, rfl, hcontent, List.cons_ne_nil _ _, ensure_ok.mp hbound, rfl, rfl⟩
        case h_2 => cases h
      · rintro ⟨_, hsome, hcontent, hne, hbound, hpath, hselection⟩
        cases hsome
        obtain ⟨path, selection, bytes⟩ := resolved
        obtain ⟨first, content, rfl⟩ := List.exists_cons_of_ne_nil hne
        dsimp only at hcontent hbound hpath hselection
        rw [hcontent, hpath, hselection]
        exact bind_ok.mpr ⟨(), ensure_ok.mpr hbound, rfl⟩
    · rw [ih, List.find?_cons_of_neg hentry]

/-! ### Installed packages -/

/-- The value of a module path in the manifest of an archive, none for a missing one. -/
def manifestModulePath (tools : PackageTools Double) (archive : List ArchiveFile) : Option String :=
  match manifestOf tools archive with
  | .error _ => none
  | .ok manifest =>
    match manifest.lookup "runtime" with
    | some (.obj runtime) => displayText tools.dart.toDartRuntime (runtime.lookup "module_path")
    | _ => none

/-- The path under which the preflight looks for a declared module. -/
def declaredModule (text : String) : List Char := strippedPath (strippedPath text.toList)

/-- What the preflight has found out about a package that it accepts. -/
structure Inspected (tools : PackageTools Double) (bytes : List UInt8)
    (archive : List ArchiveFile) (preflight : WasmPluginPackagePreflight) : Prop where
  decoded : tools.decodeBytes bytes = some archive
  bounded : boundedEntries archive = .ok ()
  parsed : ∃ manifest runtime, manifestOf tools archive = .ok manifest ∧
    manifest.lookup "runtime" = some (.obj runtime) ∧
    parseRuntimeModulePath tools (runtime.lookup "module_path") = .ok preflight.runtimeModulePath
  declared : ∃ paths, wasmModulePaths archive = .ok paths ∧
    checkDeclared paths preflight.runtimeModulePath = .ok ()
  named : ∃ value text, canonicalPluginId value = .ok (some text) ∧ preflight.pluginId = some text

theorem objectOr_ok {error : String} {value : Option (DartValue Double)}
    {members : List (String × DartValue Double)} :
    objectOr error value = .ok members ↔ value = some (.obj members) := by
  unfold objectOr
  split
  case h_1 other => simp
  case h_2 hnot =>
    refine iff_of_false (fun h => by cases h) ?_
    rintro rfl
    exact hnot _ rfl

variable {bytes : List UInt8}

theorem decodeArchive_ok :
    decodeArchive tools bytes = .ok archive ↔ tools.decodeBytes bytes = some archive := by
  unfold decodeArchive
  cases tools.decodeBytes bytes <;> simp

variable {preflight : WasmPluginPackagePreflight}

theorem inspect_inspected (h : inspect tools path bytes = .ok preflight) :
    ∃ archive, Inspected tools bytes archive preflight := by
  unfold inspect at h
  split_ifs at h
  unfold validateZipPackage at h
  obtain ⟨archive, harchive, h⟩ := bind_ok.mp h
  obtain ⟨_, -, h⟩ := bind_ok.mp h
  obtain ⟨_, hbounded, h⟩ := bind_ok.mp h
  obtain ⟨manifest, hmanifest, h⟩ := bind_ok.mp h
  obtain ⟨_, -, h⟩ := bind_ok.mp h
  obtain ⟨_, -, h⟩ := bind_ok.mp h
  obtain ⟨pluginId, hpluginId, h⟩ := bind_ok.mp h
  obtain ⟨_, hsome, h⟩ := bind_ok.mp h
  obtain ⟨displayName, -, h⟩ := bind_ok.mp h
  obtain ⟨contract, -, h⟩ := bind_ok.mp h
  obtain ⟨_, -, h⟩ := bind_ok.mp h
  obtain ⟨runtime, hruntime, h⟩ := bind_ok.mp h
  obtain ⟨modulePath, hmodule, h⟩ := bind_ok.mp h
  obtain ⟨_, -, h⟩ := bind_ok.mp h
  obtain ⟨_, -, h⟩ := bind_ok.mp h
  obtain ⟨paths, hpaths, h⟩ := bind_ok.mp h
  obtain ⟨_, -, h⟩ := bind_ok.mp h
  obtain ⟨_, hdeclared, h⟩ := bind_ok.mp h
  obtain ⟨capabilities, -, h⟩ := bind_ok.mp h
  obtain ⟨_, -, h⟩ := bind_ok.mp h
  cases h
  obtain ⟨text, rfl⟩ := Option.ne_none_iff_exists'.mp (ensure_ok.mp hsome)
  exact ⟨archive, decodeArchive_ok.mp harchive, hbounded,
    ⟨manifest, runtime, hmanifest, objectOr_ok.mp hruntime, hmodule⟩, ⟨paths, hpaths, hdeclared⟩,
    _, text, hpluginId, rfl⟩

/-- A package that is accepted has a plugin id, which is canonical. -/
theorem inspect_pluginId (h : inspect tools path bytes = .ok preflight) :
    ∃ value text, canonicalPluginId value = .ok (some text) ∧ preflight.pluginId = some text := by
  obtain ⟨archive, hinspected⟩ := inspect_inspected h
  exact hinspected.named

/-- The path only matters for what kind of file it is. -/
theorem inspect_path {path path' : List Char} {preflight preflight' : WasmPluginPackagePreflight}
    (h : inspect tools path bytes = .ok preflight)
    (h' : inspect tools path' bytes = .ok preflight') : preflight = preflight' := by
  unfold inspect at h h'
  split_ifs at h h'
  rw [h] at h'
  exact Except.ok.inj h'

/-- The path that is registered is the one of the manifest, stripped once. -/
theorem parseRuntimeModulePath_ok {raw : Option (DartValue Double)} {path : Option (List Char)}
    (h : parseRuntimeModulePath tools raw = .ok path) :
    path = (displayText tools.dart.toDartRuntime raw).map (fun text => strippedPath text.toList) ∧
      ∀ declared ∈ path, isWasmPath declared = true ∧ hasTraversal declared = false := by
  unfold parseRuntimeModulePath at h
  split at h
  case h_1 hnone =>
    cases h
    exact ⟨by rw [hnone]; rfl, fun _ hmem => by cases hmem⟩
  case h_2 text hsome =>
    obtain ⟨_, -, h⟩ := bind_ok.mp h
    obtain ⟨read, hread, h⟩ := bind_ok.mp h
    obtain ⟨_, hwasm, h⟩ := bind_ok.mp h
    cases h
    have hwasm := ensure_ok.mp hwasm
    cases read with
    | none => exact absurd hwasm (by decide)
    | some declared =>
      have hread := (Preflight.normalizeArchivePath_eq (ne_nil_of_isWasmPath hwasm)).mp hread
      have htrim : strippedPath (dartTrim text.toList) = strippedPath text.toList := by
        rw [strippedPath, dartTrim_slashes, dartTrim_dartTrim, ← dartTrim_slashes, strippedPath]
      refine ⟨?_, ?_⟩
      · rw [hsome]
        show some declared = some (strippedPath text.toList)
        rw [← htrim, hread.1]
        rfl
      · rintro _ hmem
        cases hmem
        exact ⟨hwasm, hread.2⟩

/-- Both services look for a declared module under the same path. -/
theorem normalizeArchivePath_declared {declared : List Char} (hwasm : isWasmPath declared = true)
    (hsafe : hasTraversal declared = false) (hstripped : ∃ path, declared = strippedPath path) :
    Preflight.normalizeArchivePath declared true = .ok (some (strippedPath declared)) ∧
      Runtime.normalizeArchivePath (some declared) true = .ok (some (strippedPath declared)) ∧
      isWasmPath (strippedPath declared) = true ∧ hasTraversal (strippedPath declared) = false := by
  obtain ⟨path, rfl⟩ := hstripped
  obtain ⟨hagain, htraversal⟩ := strippedPath_again hwasm
  rw [hsafe] at htraversal
  have hne := ne_nil_of_isWasmPath hagain
  exact ⟨(Preflight.normalizeArchivePath_eq hne).mpr ⟨rfl, htraversal⟩,
    (Runtime.normalizeArchivePath_eq hne htraversal).mpr rfl, hagain, htraversal⟩

/-- An entry is looked up under a module path if the preflight reads its name as that path. -/
theorem isEntryOf_iff {file : ArchiveFile} (hwasm : isWasmPath path = true)
    (hsafe : hasTraversal path = false) :
    isEntryOf path file = true ↔ file.isFile = true ∧
      Preflight.normalizeArchivePath file.name.toList false = .ok (some path) := by
  have hne := ne_nil_of_isWasmPath hwasm
  rw [Preflight.normalizeArchivePath_eq hne, isEntryOf, Bool.and_eq_true, beq_iff_eq]
  have hok : (Runtime.normalizeArchivePath (some file.name.toList) false).toOption =
      some (some path) ↔
      Runtime.normalizeArchivePath (some file.name.toList) false = .ok (some path) := by
    cases Runtime.normalizeArchivePath (some file.name.toList) false with
    | error e => exact iff_of_false (fun h => by cases h) fun h => by cases h
    | ok read => simp [Except.toOption]
  rw [hok, Runtime.normalizeArchivePath_eq hne hsafe]
  exact ⟨fun h => ⟨h.1, h.2, hsafe⟩, fun h => ⟨h.1, h.2.1⟩⟩

/-- The runtime runs the module the preflight has checked: it finds one, and what it finds is an
    entry that was checked under the declared path. -/
def RunsChecked (tools : PackageTools Double) (bytes : List UInt8)
    (preflight : WasmPluginPackagePreflight) : Prop :=
  ∃ archive declared path entry resolved,
    tools.decodeBytes bytes = some archive ∧ preflight.runtimeModulePath = some declared ∧
    Preflight.normalizeArchivePath declared true = .ok (some path) ∧ entry ∈ archive ∧
    ValidatedUnder path entry ∧
    extractModule tools bytes preflight.runtimeModulePath = .ok resolved ∧
    entry.content = .bytes resolved.bytes

/-- The manifest declares a module, and the first entry under its path has content. -/
def DeclaresModule (tools : PackageTools Double) (bytes : List UInt8) : Prop :=
  ∃ archive text first content, tools.decodeBytes bytes = some archive ∧
    manifestModulePath tools archive = some text ∧
    archive.find? (isEntryOf (declaredModule text)) = some first ∧
    first.content = .bytes content ∧ content ≠ []

/-- Of a package without a declared module the runtime extracts nothing. -/
theorem extractModule_undeclared : extractModule tools bytes none ≠ .ok resolved := by
  intro h
  obtain ⟨_, -, h⟩ := bind_ok.mp h
  obtain ⟨_, -, h⟩ := bind_ok.mp h
  obtain ⟨_, hread, h⟩ := bind_ok.mp h
  cases hread
  cases h

attribute [local irreducible] strippedPath isWasmPath hasTraversal maxModuleBytes
  Preflight.normalizeArchivePath Runtime.normalizeArchivePath

/-- A declared module: the path both services look under, and that an entry was checked there. -/
theorem Inspected.find (h : Inspected tools bytes archive preflight) :
    preflight.runtimeModulePath =
        (manifestModulePath tools archive).map (fun text => strippedPath text.toList) ∧
      ∀ text ∈ manifestModulePath tools archive,
        Preflight.normalizeArchivePath (strippedPath text.toList) true =
            .ok (some (declaredModule text)) ∧
          Runtime.normalizeArchivePath (some (strippedPath text.toList)) true =
            .ok (some (declaredModule text)) ∧
          isWasmPath (declaredModule text) = true ∧ hasTraversal (declaredModule text) = false ∧
          ∃ paths, wasmModulePaths archive = .ok paths ∧ declaredModule text ∈ paths := by
  obtain ⟨manifest, runtime, hmanifest, hruntime, hparse⟩ := h.parsed
  obtain ⟨hpath, hsafe⟩ := parseRuntimeModulePath_ok hparse
  have hfield : manifestModulePath tools archive =
      displayText tools.dart.toDartRuntime (runtime.lookup "module_path") := by
    rw [manifestModulePath, hmanifest]
    dsimp only
    rw [hruntime]
  rw [← hfield] at hpath
  refine ⟨hpath, fun text htext => ?_⟩
  rw [Option.mem_def] at htext
  rw [htext, Option.map_some] at hpath
  obtain ⟨hwasm, hclean⟩ := hsafe (strippedPath text.toList) (Option.mem_def.mpr hpath)
  obtain ⟨hpreflight, hruntimePath, hagain, hcleanAgain⟩ :=
    normalizeArchivePath_declared hwasm hclean ⟨_, rfl⟩
  obtain ⟨paths, hpaths, hdeclared⟩ := h.declared
  refine ⟨hpreflight, hruntimePath, hagain, hcleanAgain, paths, hpaths, ?_⟩
  rw [hpath] at hdeclared
  obtain ⟨read, hread, hdeclared⟩ := bind_ok.mp hdeclared
  rw [hpreflight] at hread
  cases hread
  exact ensure_ok.mp hdeclared

/-- What the runtime extracts from a package with a declared module. -/
theorem extractModule_declared (h : Inspected tools bytes archive preflight) {text : String}
    (htext : manifestModulePath tools archive = some text) :
    extractModule tools bytes preflight.runtimeModulePath =
      selectModule (declaredModule text) archive := by
  obtain ⟨hpath, hfound⟩ := h.find
  rw [hpath, htext, Option.map_some]
  rw [extractModule, decodeArchive_ok.mpr h.decoded, ok_bind, h.bounded, ok_bind,
    (hfound text htext).2.1, ok_bind]

/-- **A package that the preflight accepts runs a module it has checked if and only if its
    manifest declares a module and the first entry under the declared path has content.** -/
theorem extractModule_checked_iff (tools : PackageTools Double) {path : List Char}
    {bytes : List UInt8} {preflight : WasmPluginPackagePreflight}
    (h : inspect tools path bytes = .ok preflight) :
    RunsChecked tools bytes preflight ↔ DeclaresModule tools bytes := by
  obtain ⟨archive, hinspected⟩ := inspect_inspected h
  obtain ⟨hpath, hfound⟩ := hinspected.find
  constructor
  · rintro ⟨_, declared, _, entry, resolved, hdecoded, hdeclared, hread, hentry, hvalid,
      hextract, hcontent⟩
    rw [hdeclared] at hpath
    obtain ⟨text, htext, rfl⟩ := Option.map_eq_some_iff.mp hpath.symm
    rw [extractModule_declared hinspected htext, selectModule_ok] at hextract
    obtain ⟨first, hfirst, hbytes, hne, -⟩ := hextract
    exact ⟨archive, text, first, resolved.bytes, hinspected.decoded, htext, hfirst, hbytes, hne⟩
  · rintro ⟨_, text, first, content, hdecoded, htext, hfirst, hcontent, hne⟩
    cases hinspected.decoded.symm.trans hdecoded
    obtain ⟨hpreflight, -, hwasm, hsafe, paths, hpaths, -⟩ := hfound text htext
    have hentry := List.find?_some hfirst
    obtain ⟨hfile, hnamed⟩ := (isEntryOf_iff hwasm hsafe).mp hentry
    -- The preflight has gone through every entry, so it has bounded this one too.
    have hbound := length_le_of_wasmModulePaths hpaths (List.mem_of_find?_eq_some hfirst) hfile
      hnamed hwasm (by rw [archiveFileBytes, hcontent])
    have hextract : selectModule (declaredModule text) archive =
        .ok ⟨declaredModule text, "manifest_module_path", content⟩ :=
      selectModule_ok.mpr ⟨first, hfirst, hcontent, hne, hbound, rfl, rfl⟩
    refine ⟨archive, strippedPath text.toList, declaredModule text, first, _, hdecoded, ?_,
      hpreflight, List.mem_of_find?_eq_some hfirst, ⟨hfile, hnamed, hwasm, content, ?_, hbound⟩,
      (extractModule_declared hinspected htext).trans hextract, hcontent⟩
    · rw [hpath, htext]
      rfl
    · rw [archiveFileBytes, hcontent]

end Checked

/-! A package whose manifest declares a module, and the same without the declaration. -/

/-- The manifest with the module path it may have. -/
def sampleManifest (modulePath : List (String × DartValue String)) : DartValue String :=
  .obj [("schema", .str "hivra.plugin.manifest"), ("version", .num (.inl 1)),
    ("plugin_id", .str "hivra.sample"), ("contract", .obj [("kind", .str "plugin_workspace_v1")]),
    ("runtime", .obj ([("abi", .str "hivra_host_abi_v2"),
      ("entry_export", .str "hivra_evaluate_v1")] ++ modulePath)),
    ("capabilities", .arr [.str "workspace.render"])]

def sampleArchive : List ArchiveFile :=
  [⟨"manifest.json", true, 1, .bytes [0]⟩,
   ⟨"./plugin\\module.wasm", true, 8, .bytes [0, 97, 115, 109, 1, 0, 0, 0]⟩]

def sampleTools (modulePath : List (String × DartValue String)) : PackageTools String where
  dart := sampleViews
  decodeBytes _ := some sampleArchive
  decodeText _ := some (sampleManifest modulePath)

/-- A package with a declared module runs it. -/
theorem sample_runsChecked :
    ∃ preflight, inspect (sampleTools [("module_path", .str "/plugin/module.wasm")])
        "sample.zip".toList [0] = .ok preflight ∧
      RunsChecked (sampleTools [("module_path", .str "/plugin/module.wasm")]) [0] preflight := by
  refine ⟨_, rfl,
    (@extractModule_checked_iff _ _ "sample.zip".toList _ _ rfl).mpr ?_⟩
  exact ⟨sampleArchive, "/plugin/module.wasm", _, _, rfl, rfl, rfl, rfl, by simp⟩

/-- **A package without a declared module is accepted and cannot be run.** -/
theorem undeclared_accepted :
    ∃ preflight, inspect (sampleTools []) "sample.zip".toList [0] = .ok preflight ∧
      ¬ RunsChecked (sampleTools []) [0] preflight := by
  refine ⟨_, rfl, ?_⟩
  rintro ⟨_, _, _, _, _, -, -, -, -, -, hextract, -⟩
  exact extractModule_undeclared hextract

end PluginPackages

end Hivra
