import Hivra.Host.RegistryRuns
import Hivra.Host.SourceCatalog

namespace Hivra

open JsonText OrderedMap Interruptions PluginPackages

/-!
# Installing from a source

The digest of a package is checked on one read of its file; the registry reads the file again and
checks of the record only what the entry says about the plugin.  What is registered has the digest
of the entry unless the file is replaced in between by another package of the same plugin.
-/

namespace SourceCatalog

/-- The file of a package: its name, whether it is there, and what the two reads find, none where
    one fails. -/
structure SourceFile where
  name : List Char
  found : Bool
  checkedBytes : Option (List UInt8)
  installedBytes : Option (List UInt8)

section Install

variable (tools : CatalogTools)

/-- The digest the entry asks for, empty if it asks for none. -/
def expectedDigest (entry : SourceCatalogEntry) : Text :=
  tools.toLowerCase (textTrim (entry.sha256Hex.getD []))

def verifyChecksumIfPresent (entry : SourceCatalogEntry) (read : Option (List UInt8)) :
    Except String Unit :=
  if expectedDigest tools entry = [] then .ok ()
  else
    match read with
    | none => .error "FileSystemException"
    | some bytes =>
      ensure (digestHex tools bytes = expectedDigest tools entry)
        ("Plugin source package checksum mismatch for entry: " ++ shown entry.id ++ " (expected=" ++
          shown (expectedDigest tools entry) ++ " actual=" ++ shown (digestHex tools bytes) ++
          " size=" ++ toString bytes.length ++ ")")

/-- What the entry says about the plugin; a record without a version has any. -/
def validateInstalledRecord (entry : SourceCatalogEntry) (record : WasmPluginRecord) : Bool :=
  let normalized : Text → Text := fun t => tools.toLowerCase (textTrim t)
  let installedPluginId := normalized (utf16 ((record.pluginId.map PluginId.text).getD ""))
  let installedVersion := normalized (utf16 (record.pluginVersion.getD ""))
  let installedPackageKind := normalized (utf16 record.packageKind)
  (!installedPluginId.isEmpty && installedPluginId == normalized entry.pluginId) &&
    (installedVersion.isEmpty || installedVersion == normalized entry.version) &&
    installedPackageKind == normalized entry.packageKind

/-- What the registry is asked for; it reads the file by itself. -/
def sourceRequest (entry : SourceCatalogEntry) (source : SourceFile) (time : ℕ × String) :
    InstallRequest where
  sourceName := source.name
  sourceBytes := source.installedBytes
  microseconds := time.1
  installedAtIso := time.2
  validateRecord := validateInstalledRecord tools entry

variable {Double : Type} (registry : RegistryTools Double)

def installFromSourceEntry (entry : SourceCatalogEntry) (source : SourceFile) (time : ℕ × String) :
    RegistryCall WasmPluginRecord := do
  known (ensure (entry.packageKind = text "zip") "Installed plugins require a ZIP package")
  known (checkDownloadUrl tools entry)
  known (ensure (source.found = true) "Plugin source package not found")
  known (verifyChecksumIfPresent tools entry source.checkedBytes)
  -- `beforeInstall`
  succeeds (← elsewhere)
  installPluginFromFileUnlocked registry (sourceRequest tools entry source time)

end Install

/-! ### What is registered -/

section Made

variable {Double : Type} {registry : RegistryTools Double} {request : InstallRequest}
  {w : PluginsDirectory}

/-- The record is made of these bytes of the source, and the caller has accepted it. -/
structure MadeOf (registry : RegistryTools Double) (request : InstallRequest) (bytes : List UInt8)
    (record : WasmPluginRecord) : Prop where
  source : request.sourceBytes = some bytes
  isZip : (fileExtension request.sourceName).map Char.toLower = ".zip".toList
  accepted : request.validateRecord record = true
  made : ∃ preflight pluginId,
    inspect registry.toPackageTools request.storedFileName.toList bytes = .ok preflight ∧
      PluginId.ofText preflight.pluginId = .ok pluginId ∧
      record = PluginPackages.recordOf request preflight pluginId bytes.length

/-- A record of the request is made of what was inspected for it. -/
def RecordsMade (registry : RegistryTools Double) (request : InstallRequest)
    (w : PluginsDirectory) : Prop :=
  ∀ record ∈ w.records, record.id = request.id → ∃ bytes,
    MadeOf registry request bytes record ∧ lookup w.inspected request.id = some bytes

theorem RecordsMade.same {w' : PluginsDirectory} (h : RecordsMade registry request w)
    (hregistry : w'.registry = w.registry) (hinspected : w'.inspected = w.inspected) :
    RecordsMade registry request w' := by
  intro record hrecord hid
  rw [PluginsDirectory.records, hregistry] at hrecord
  rw [hinspected]
  exact h record hrecord hid

theorem deleteFiles_made {names : List String} (h : RecordsMade registry request w) :
    CallSafe (RecordsMade registry request) (fun _ => RecordsMade registry request)
      (RecordsMade registry request) (deleteFiles names) w := by
  induction names generalizing w with
  | nil => exact h
  | cons name rest ih =>
    rintro (_ | _)
    · exact ⟨h, ih h⟩
    · have hdeleted : RecordsMade registry request
          { w with files := OrderedMap.remove w.files name } := h.same rfl rfl
      exact ⟨hdeleted, ih hdeleted⟩

theorem cleanup_made {records : List WasmPluginRecord} (h : RecordsMade registry request w) :
    CallSafe (RecordsMade registry request) (fun _ => RecordsMade registry request)
      (RecordsMade registry request) (cleanupUnreferencedFiles records) w := by
  rintro (_ | _)
  · exact ⟨h, h⟩
  · exact ⟨h, deleteFiles_made h⟩

theorem prepareInstall_made (hw : Consistent w) (hfresh : Fresh w request.id)
    (hzip : (fileExtension request.sourceName).map Char.toLower = ".zip".toList) :
    CallSafe (RecordsMade registry request) (fun _ => RecordsMade registry request)
      (RecordsMade registry request) (prepareInstall registry request) w := by
  have hname := hfresh.stored hw
  have hnone : ∀ w', Untouched w w' → RecordsMade registry request w' := by
    intro w' hw' record hrecord hid
    rw [hw'.records] at hrecord
    exact absurd hid (hfresh record hrecord)
  refine Safe.andThen (loadPluginsUnlocked_safe registry hw hnone (fun existing w₁ hperm hw₁ => ?_)
    hnone)
  refine Safe.andThen ?_
  cases hsource : request.sourceBytes with
  | none => exact hnone w₁ hw₁
  | some source =>
  have hw₂ : Untouched w { w₁ with files := put w₁.files request.storedFileName source } :=
    hw₁.put hname
  refine Safe.andThen (writeFile_safe (hnone w₁ hw₁) (hnone w₁ hw₁) (hnone _ hw₂) ?_)
  refine Safe.andThen (readFile_safe (hnone _ hw₂) (fun bytes hbytes => ?_) (hnone _ hw₂))
  refine Safe.andThen (known_safe (fun preflight hpreflight => ?_) (hnone _ hw₂))
  refine Safe.andThen (known_safe (fun pluginId hpluginId => ?_) (hnone _ hw₂))
  refine Safe.andThen (known_safe (fun _ _ => ?_) (hnone _ hw₂))
  refine Safe.andThen (known_safe (fun _ haccepted => ?_) (hnone _ hw₂))
  have hsame : source = bytes := by
    have hread : lookup (put w₁.files request.storedFileName source) request.storedFileName =
        some bytes := hbytes
    rw [lookup_put, if_pos rfl] at hread
    exact Option.some.inj hread
  subst hsame
  have hmade : MadeOf registry request source
      (PluginPackages.recordOf request preflight pluginId source.length) :=
    ⟨hsource, hzip, ensure_ok.mp haccepted, preflight, pluginId, hpreflight, hpluginId, rfl⟩
  have hwritten : RecordsMade registry request
      (PluginsDirectory.written { w₁ with files := put w₁.files request.storedFileName source }
        (PluginPackages.recordOf request preflight pluginId source.length ::
          existing.filter fun entry =>
            !(recordsToReplace existing pluginId).any fun stale => stale.id == entry.id)
        (some (request.id, source))) := by
    intro record hrecord hid
    rcases List.mem_cons.mp hrecord with rfl | hkept
    · refine ⟨source, hmade, ?_⟩
      show lookup (put w₁.inspected request.id source) request.id = some source
      rw [lookup_put, if_pos rfl]
    · exact absurd hid (hfresh record (hperm.mem_iff.mp (List.mem_of_mem_filter hkept)))
  exact Safe.andThen (writeRegistry_safe (hnone _ hw₂) (hnone _ hw₂) hwritten hwritten)

/-- **A record that is registered is made of what the registry has read.** -/
theorem installPlugin_made (hw : Consistent w) (hfresh : Fresh w request.id) :
    CallSafe (RecordsMade registry request) (fun _ => RecordsMade registry request)
      (RecordsMade registry request) (installPluginFromFileUnlocked registry request) w := by
  have hnone : RecordsMade registry request w := fun record hrecord hid =>
    absurd hid (hfresh record hrecord)
  refine Safe.andThen (known_safe (fun _ hzip => ?_) hnone)
  refine Safe.andThen (Safe.try (Safe.mono
    (prepareInstall_made hw hfresh (ensure_ok.mp hzip)) ?_))
  rintro (e | ⟨record, replaced, kept, bytes⟩) w' hw'
  · intro e'
    exact Safe.andThen (@deleteFiles_made _ registry request w' [request.storedFileName] hw')
  · refine Safe.andThen (Safe.mono (deleteFiles_made hw') ?_)
    rintro (e' | _) w'' hw''
    · exact hw''
    · refine Safe.andThen (Safe.mono (cleanup_made hw'') ?_)
      rintro (e' | _) w''' hw'''
      · exact hw'''
      · exact hw'''

end Made

/-! ### What the digest says about it -/

section Digest

variable {Double : Type} (tools : CatalogTools) (registry : RegistryTools Double)

/-- The bytes have the digest of the entry, if it has one. -/
def HasDigest (entry : SourceCatalogEntry) (bytes : List UInt8) : Prop :=
  expectedDigest tools entry = [] ∨ digestHex tools bytes = expectedDigest tools entry

/-- Whatever the registry is and whichever accesses work: a record of this installation stores
    bytes with the digest of the entry. -/
def RegistersEntry (entry : SourceCatalogEntry) (source : SourceFile) (time : ℕ × String) : Prop :=
  ∀ (dir : PluginsDirectory) (accesses : List Bool), Consistent dir →
    Fresh dir (toString time.1) →
    ∀ record ∈ (callOn (installFromSourceEntry tools registry entry source time) accesses dir).2.records,
      record.id = toString time.1 →
      ∃ bytes, lookup (callOn (installFromSourceEntry tools registry entry source time)
        accesses dir).2.files record.storedFileName = some bytes ∧ HasDigest tools entry bytes

/-- The file has the digest when it is checked, and is replaced by another package that the
    registry and the entry accept before it is read again. -/
def ReplacedInBetween (entry : SourceCatalogEntry) (source : SourceFile) (time : ℕ × String) :
    Prop :=
  entry.packageKind = text "zip" ∧ checkDownloadUrl tools entry = .ok () ∧ source.found = true ∧
    (∃ checked, source.checkedBytes = some checked ∧ HasDigest tools entry checked) ∧
    ∃ bytes record, ¬ HasDigest tools entry bytes ∧
      MadeOf registry (sourceRequest tools entry source time) bytes record

variable {tools registry} {entry : SourceCatalogEntry} {source : SourceFile} {time : ℕ × String}

theorem verifyChecksum_ok {read : Option (List UInt8)}
    (h : verifyChecksumIfPresent tools entry read = .ok ()) :
    expectedDigest tools entry = [] ∨
      ∃ checked, read = some checked ∧ HasDigest tools entry checked := by
  unfold verifyChecksumIfPresent at h
  split_ifs at h with hexpected
  · exact Or.inl hexpected
  · split at h
    · cases h
    · next bytes => exact Or.inr ⟨bytes, rfl, Or.inr (ensure_ok.mp h)⟩

/-- The installation either stops before the registry, or every check has passed. -/
theorem installFromSource_safe {inv : PluginsDirectory → Prop} {w : PluginsDirectory} (hw : inv w)
    (hinstall : entry.packageKind = text "zip" → checkDownloadUrl tools entry = .ok () →
      source.found = true → verifyChecksumIfPresent tools entry source.checkedBytes = .ok () →
      CallSafe inv (fun _ => inv) inv
        (installPluginFromFileUnlocked registry (sourceRequest tools entry source time)) w) :
    CallSafe inv (fun _ => inv) inv
    (installFromSourceEntry tools registry entry source time) w := by
  refine Safe.andThen (known_safe (fun _ hkind => ?_) hw)
  refine Safe.andThen (known_safe (fun _ hurl => ?_) hw)
  refine Safe.andThen (known_safe (fun _ hfound => ?_) hw)
  refine Safe.andThen (known_safe (fun _ hchecked => ?_) hw)
  refine Safe.andThen (elsewhere_safe hw fun works => ?_)
  refine Safe.andThen (known_safe (fun _ _ => ?_) hw)
  exact hinstall (ensure_ok.mp hkind) hurl (ensure_ok.mp hfound) hchecked

variable {record : WasmPluginRecord}

/-- The package of a registered record is the one that was inspected for it. -/
theorem stored_of_made {dir w : PluginsDirectory} {request : InstallRequest}
    (hfresh : Fresh dir request.id) (hmade : RecordsMade registry request w)
    (h : Untouched dir w ∨ ∃ record, Installed registry dir request record w)
    (hrecord : record ∈ w.records) (hid : record.id = request.id) :
    ∃ bytes, MadeOf registry request bytes record ∧
      lookup w.files record.storedFileName = some bytes := by
  rcases h with huntouched | ⟨installed, hinstalled⟩
  · rw [huntouched.records] at hrecord
    exact absurd hid (hfresh record hrecord)
  · obtain ⟨bytes, hbytes, hinspected⟩ := hmade record hrecord hid
    rcases (hinstalled.mem_iff record).mp hrecord with rfl | ⟨hkept, -⟩
    · obtain ⟨stored, hstored, hsame⟩ := hinstalled.held
      rw [hinspected] at hsame
      cases hsame
      exact ⟨bytes, hbytes, hstored⟩
    · exact absurd hid (hfresh record hkept)

/-- **Where no package comes in between, what is registered has the digest.** -/
theorem registersEntry_of_not_replaced (h : ¬ ReplacedInBetween tools registry entry source time) :
    RegistersEntry tools registry entry source time := by
  intro dir accesses hdir hfresh record hrecord hid
  let request := sourceRequest tools entry source time
  have hmade : RecordsMade registry request (callOn (installFromSourceEntry tools registry entry
      source time) accesses dir).2 := by
    have hnone : RecordsMade registry request dir := fun other hother hsame =>
      absurd hsame (hfresh other hother)
    exact callOn_safe hnone
      (installFromSource_safe hnone fun _ _ _ _ => installPlugin_made hdir hfresh) accesses
  have hchecks : Untouched dir (callOn (installFromSourceEntry tools registry entry source time)
      accesses dir).2 ∨ (entry.packageKind = text "zip" ∧ checkDownloadUrl tools entry = .ok () ∧
        source.found = true ∧ verifyChecksumIfPresent tools entry source.checkedBytes = .ok () ∧
        ∃ installed, Installed registry dir request installed (callOn
          (installFromSourceEntry tools registry entry source time) accesses dir).2) := by
    let reached : PluginsDirectory → Prop := fun w =>
      Untouched dir w ∨ (entry.packageKind = text "zip" ∧ checkDownloadUrl tools entry = .ok () ∧
        source.found = true ∧ verifyChecksumIfPresent tools entry source.checkedBytes = .ok () ∧
        ∃ installed, Installed registry dir request installed w)
    have hstart : reached dir := Or.inl (Untouched.refl dir)
    refine callOn_safe (P := reached) hstart (installFromSource_safe hstart ?_) accesses
    intro hkind hurl hfound hchecked
    exact installPlugin_safe registry hdir hfresh (fun w hw => Or.inl hw)
      (fun installed w hw => Or.inr ⟨hkind, hurl, hfound, hchecked, installed, hw⟩)
      (fun w hw => Or.inl hw)
      (fun installed w hw => Or.inr ⟨hkind, hurl, hfound, hchecked, installed, hw⟩)
  rcases hchecks with huntouched | ⟨hkind, hurl, hfound, hchecked, hinstalled⟩
  · rw [huntouched.records] at hrecord
    exact absurd hid (hfresh record hrecord)
  · obtain ⟨bytes, hbytes, hstored⟩ := stored_of_made hfresh hmade (Or.inr hinstalled) hrecord hid
    refine ⟨bytes, hstored, ?_⟩
    by_contra hdigest
    refine h ⟨hkind, hurl, hfound, ?_, bytes, record, hdigest, hbytes⟩
    exact (verifyChecksum_ok hchecked).resolve_left fun hexpected => hdigest (Or.inl hexpected)

/-! ### A package that comes in between -/

theorem reaches_read {dir : PluginsDirectory} {name : String} {bytes : List UInt8}
    (h : lookup dir.files name = some bytes) :
    Reaches registryEffect (readFile name).run dir (.ok bytes) dir := by
  refine Reaches.act true ?_
  show Reaches registryEffect (answered (lookup dir.files name)).run dir (.ok bytes) dir
  rw [h]
  exact Reaches.pure

/-- **A package that comes in between is registered.** -/
theorem fromSource_replaced {bytes : List UInt8} (hkind : entry.packageKind = text "zip")
    (hurl : checkDownloadUrl tools entry = .ok ()) (hfound : source.found = true)
    (hchecked : verifyChecksumIfPresent tools entry source.checkedBytes = .ok ())
    (hmade : MadeOf registry (sourceRequest tools entry source time) bytes record) :
    ∃ w, Reaches registryEffect (installFromSourceEntry tools registry entry source time).run
        emptyRegistry.dir (.ok record) w ∧
      record ∈ w.records ∧ lookup w.files record.storedFileName = some bytes := by
  let request := sourceRequest tools entry source time
  obtain ⟨hsource, hzip, haccepted, preflight, pluginId, hpreflight, hpluginId, rfl⟩ := hmade
  let stored : PluginsDirectory :=
    { emptyRegistry.dir with files := put [] request.storedFileName bytes }
  have hprepare : Reaches registryEffect (prepareInstall registry request).run emptyRegistry.dir
      (.ok (PluginPackages.recordOf request preflight pluginId bytes.length, [], [], bytes))
      (stored.written [PluginPackages.recordOf request preflight pluginId bytes.length]
        (some (request.id, bytes))) := by
    have hload : Reaches registryEffect (loadPluginsUnlocked registry).run emptyRegistry.dir
        (.ok []) emptyRegistry.dir :=
      -- There is no document, and the directory cannot be listed.
      Reaches.act true (Reaches.act false (Reaches.done _ _))
    have hread : lookup stored.files request.storedFileName = some bytes := by
      show lookup (put [] request.storedFileName bytes) request.storedFileName = some bytes
      rw [lookup_put, if_pos rfl]
    have hnone : recordsToReplace [] pluginId = [] := by
      cases pluginId <;> rfl
    unfold prepareInstall
    refine Reaches.andThen hload ?_
    rw [hsource]
    refine Reaches.andThen (Reaches.pure (a := bytes)) ?_
    have hwrite : Reaches registryEffect (writeFile request.storedFileName bytes).run
        emptyRegistry.dir (.ok ()) stored := Reaches.act true (Reaches.done _ _)
    refine Reaches.andThen hwrite ?_
    refine Reaches.andThen (reaches_read hread) ?_
    refine Reaches.andThen (Reaches.known hpreflight) ?_
    refine Reaches.andThen (Reaches.known hpluginId) ?_
    rw [hnone]
    refine Reaches.andThen (Reaches.known (a := ()) (ensure_ok.mpr (by simp))) ?_
    refine Reaches.andThen (Reaches.known (a := ()) (ensure_ok.mpr haccepted)) ?_
    exact Reaches.act true (Reaches.done _ _)
  have hinstall : Reaches registryEffect (installPluginFromFileUnlocked registry request).run
      emptyRegistry.dir (.ok (PluginPackages.recordOf request preflight pluginId bytes.length))
      (stored.written [PluginPackages.recordOf request preflight pluginId bytes.length]
        (some (request.id, bytes))) := by
    unfold installPluginFromFileUnlocked
    refine Reaches.andThen (Reaches.known (a := ()) (ensure_ok.mpr hzip)) ?_
    refine Reaches.andThen (Reaches.try hprepare) ?_
    -- Nothing is replaced, and what is left over cannot be listed.
    refine Reaches.andThen (Reaches.pure (a := ())) ?_
    exact Reaches.act false (Reaches.done _ _)
  refine ⟨stored.written [PluginPackages.recordOf request preflight pluginId bytes.length]
    (some (request.id, bytes)), ?_, List.mem_singleton.mpr rfl, ?_⟩
  · unfold installFromSourceEntry
    refine Reaches.andThen (Reaches.known (a := ()) (ensure_ok.mpr hkind)) ?_
    refine Reaches.andThen (Reaches.known hurl) ?_
    refine Reaches.andThen (Reaches.known (a := ()) (ensure_ok.mpr hfound)) ?_
    refine Reaches.andThen (Reaches.known hchecked) ?_
    exact Reaches.act true hinstall
  · show lookup (put [] request.storedFileName bytes) request.storedFileName = some bytes
    rw [lookup_put, if_pos rfl]

/-- **What is registered has the digest of the entry exactly if no package comes in between.** -/
theorem registersEntry_iff (tools : CatalogTools) (registry : RegistryTools Double)
    (entry : SourceCatalogEntry) (source : SourceFile) (time : ℕ × String) :
    RegistersEntry tools registry entry source time ↔
      ¬ ReplacedInBetween tools registry entry source time := by
  refine ⟨?_, registersEntry_of_not_replaced⟩
  rintro h ⟨hkind, hurl, hfound, ⟨checked, hread, hdigest⟩, bytes, record, hother, hmade⟩
  have hchecked : verifyChecksumIfPresent tools entry source.checkedBytes = .ok () := by
    unfold verifyChecksumIfPresent
    split_ifs with hexpected
    · rfl
    · rw [hread]
      exact ensure_ok.mpr (hdigest.resolve_left hexpected)
  obtain ⟨w, hreaches, hrecord, hstored⟩ := fromSource_replaced hkind hurl hfound hchecked hmade
  obtain ⟨accesses, hrun⟩ := hreaches.run
  have hid : record.id = toString time.1 := by
    obtain ⟨_, _, _, _, _, _, _, rfl⟩ := hmade
    rfl
  have hresult : callOn (installFromSourceEntry tools registry entry source time) accesses
      emptyRegistry.dir = (some (.ok record), w) := hrun
  have hfresh : Fresh emptyRegistry.dir (toString time.1) := fun _ hmem =>
    absurd hmem List.not_mem_nil
  obtain ⟨bytes', hbytes', hdigest'⟩ := h emptyRegistry.dir accesses Consistent.empty hfresh record
    (by rw [hresult]; exact hrecord) hid
  rw [hresult] at hbytes'
  rw [hstored] at hbytes'
  cases hbytes'
  exact hother hdigest'

end Digest

/-! A package with the digest of its entry, and another one in its place. -/

def sampleCatalogTools : CatalogTools where
  doubleText _ := text "1.0"
  toLowerCase t := t.map fun c => if isUpperLetter c then c + 32 else c
  uriScheme t := some (if (text "https:").isPrefixOf t then some (text "https") else none)
  sha256 bytes := (bytes ++ List.replicate 32 0).take 32
  verify payload signature publicKey := signature == publicKey ++ payload.take 32

def sampleSigned (key payload : List UInt8) : Prop :=
  ∃ signature, sampleCatalogTools.verify payload signature key = true

def sampleSourceRegistry : RegistryTools String :=
  { sampleRegistryTools with
    decodeText := fun _ => some (.obj [("schema", .str "hivra.plugin.manifest"),
      ("version", .num (.inl 1)), ("plugin_id", .str "hivra.contract.sample.v1"),
      ("contract", .obj [("kind", .str "plugin_workspace_v1")]),
      ("runtime", .obj [("abi", .str "hivra_host_abi_v2"),
        ("entry_export", .str "hivra_evaluate_v1"), ("module_path", .str "plugin/module.wasm")]),
      ("capabilities", .arr [.str "workspace.render"])]) }

def sampleEntry : SourceCatalogEntry where
  id := text "sample"
  pluginId := text "hivra.contract.sample.v1"
  displayName := text "Sample"
  version := text "1.0.0"
  downloadUrl := text "/plugins/sample.zip"
  packageKind := text "zip"
  sha256Hex := some (digestHex sampleCatalogTools [0])

/-- The file of the entry, replaced after its digest was checked. -/
def sampleSource : SourceFile where
  name := "sample.zip".toList
  found := true
  checkedBytes := some [0]
  installedBytes := some [1]

theorem isDouble_one : IsDouble (text "1.0") := by
  refine Or.inr (Or.inr ⟨?_, ⟨49, text ".0", rfl, Or.inl (by decide)⟩, ?_⟩)
  · exact List.all_eq_true.mp (by decide)
  · exact ⟨46, by decide, Or.inl rfl⟩

end SourceCatalog

end Hivra
