import Hivra.Host.PluginRegistry

namespace Hivra

open JsonDocument OrderedMap Processes Interruptions Replay

namespace PluginPackages

/-!
# What a call leaves of the registry

A call works on files that no record names until it writes the registry, and afterwards deletes
only files that no record names any more.  So the records name the packages they were installed
with at every moment, as long as the clock does not name a package that is stored.

* `loadPluginsUnlocked_safe` — loading changes nothing that is named.
* `markRemoval_safe`, `removePlugin_safe` — the two parts of a removal.
-/

/-! ### What holds of the directory -/

/-- The records have ids and plugins of their own, and name the packages that were inspected. -/
structure Consistent (dir : PluginsDirectory) : Prop where
  ids : (dir.records.map WasmPluginRecord.id).Nodup
  plugins : (dir.records.map WasmPluginRecord.pluginId).Nodup
  named : ∀ record ∈ dir.records, record.pluginId ≠ none
  stored : ∀ record ∈ dir.records, record.storedFileName = record.id ++ ".zip"
  held : ∀ record ∈ dir.records, record.removalPending = false →
    ∃ bytes, lookup dir.files record.storedFileName = some bytes ∧
      lookup dir.inspected record.id = some bytes

/-- The registry is as it was, and so are the packages it names. -/
structure Untouched (dir dir' : PluginsDirectory) : Prop where
  registry : dir'.registry = dir.registry
  inspected : dir'.inspected = dir.inspected
  files : ∀ record ∈ dir.records,
    lookup dir'.files record.storedFileName = lookup dir.files record.storedFileName

theorem Untouched.refl (dir : PluginsDirectory) : Untouched dir dir := ⟨rfl, rfl, fun _ _ => rfl⟩

variable {dir dir' : PluginsDirectory}

theorem Untouched.records (h : Untouched dir dir') : dir'.records = dir.records := by
  rw [PluginsDirectory.records, h.registry, PluginsDirectory.records]

theorem Untouched.consistent (h : Untouched dir dir') (hdir : Consistent dir) :
    Consistent dir' where
  ids := by rw [h.records]; exact hdir.ids
  plugins := by rw [h.records]; exact hdir.plugins
  named := by rw [h.records]; exact hdir.named
  stored := by rw [h.records]; exact hdir.stored
  held := by
    rw [h.records, h.inspected]
    intro record hrecord hpending
    rw [h.files record hrecord]
    exact hdir.held record hrecord hpending

theorem Consistent.empty : Consistent emptyRegistry.dir where
  ids := List.nodup_nil
  plugins := List.nodup_nil
  named := by simp [emptyRegistry, PluginsDirectory.records]
  stored := by simp [emptyRegistry, PluginsDirectory.records]
  held := by simp [emptyRegistry, PluginsDirectory.records]

/-- Two records with one stored file have one id. -/
theorem Consistent.id_of_stored {dir : PluginsDirectory} (h : Consistent dir)
    {record : WasmPluginRecord} (hrecord : record ∈ dir.records) {id : String}
    (hname : record.storedFileName = id ++ ".zip") : record.id = id := by
  rw [h.stored record hrecord] at hname
  rwa [String.append_left_inj] at hname

/-! ### Accesses -/

section Accesses

variable {inv : PluginsDirectory → Prop} {thrown : PluginsDirectory → Prop} {w : PluginsDirectory}

/-- What an access must leave. -/
abbrev CallSafe (inv : PluginsDirectory → Prop) {α : Type} (ok : α → PluginsDirectory → Prop)
    (thrown : PluginsDirectory → Prop) (call : RegistryCall α) (w : PluginsDirectory) : Prop :=
  Safe registryEffect inv (Ends ok thrown) call.run w

theorem readRegistry_safe {ok : Option (List WasmPluginRecord) → PluginsDirectory → Prop}
    (hinv : inv w) (hok : ok w.registry w) (hthrown : thrown w) :
    CallSafe inv ok thrown readRegistry w := by
  rintro (_ | _)
  · exact ⟨hinv, hthrown⟩
  · exact ⟨hinv, hok⟩

variable {ok : Bool → PluginsDirectory → Prop}

theorem elsewhere_safe (hinv : inv w) (hok : ∀ works, ok works w) :
    CallSafe inv ok thrown elsewhere w :=
  fun works => ⟨hinv, hok works⟩

variable {name : String}

theorem hasFile_safe (hinv : inv w) (hok : ok (contains w.files name) w) :
    CallSafe inv ok thrown (hasFile name) w :=
  fun _ => ⟨hinv, hok⟩

theorem readFile_safe {ok : List UInt8 → PluginsDirectory → Prop} (hinv : inv w)
    (hok : ∀ bytes, lookup w.files name = some bytes → ok bytes w) (hthrown : thrown w) :
    CallSafe inv ok thrown (readFile name) w := by
  rintro (_ | _)
  · exact ⟨hinv, hthrown⟩
  · refine ⟨hinv, ?_⟩
    show Safe registryEffect inv _ (answered (lookup w.files name)) w
    cases hbytes : lookup w.files name with
    | none => exact hthrown
    | some bytes => exact hok bytes hbytes

theorem writeFile_safe {ok : Unit → PluginsDirectory → Prop} {bytes : List UInt8} (hinv : inv w)
    (hthrown : thrown w) (hinv' : inv { w with files := put w.files name bytes })
    (hok : ok () { w with files := put w.files name bytes }) :
    CallSafe inv ok thrown (writeFile name bytes) w := by
  rintro (_ | _)
  · exact ⟨hinv, hthrown⟩
  · exact ⟨hinv', hok⟩

/-- The directory after the registry has been written. -/
def PluginsDirectory.written (dir : PluginsDirectory) (records : List WasmPluginRecord)
    (installed : Option (String × List UInt8)) : PluginsDirectory :=
  (registryEffect (.writeRegistry records installed) true dir).2

theorem writeRegistry_safe {ok : Unit → PluginsDirectory → Prop}
    {records : List WasmPluginRecord} {installed : Option (String × List UInt8)}
    (hinv : inv w) (hthrown : thrown w) (hinv' : inv (w.written records installed))
    (hok : ok () (w.written records installed)) :
    CallSafe inv ok thrown (writeRegistry records installed) w := by
  rintro (_ | _)
  · exact ⟨hinv, hthrown⟩
  · exact ⟨hinv', hok⟩

end Accesses

/-! ### Deleting what nothing names -/

variable {dir w : PluginsDirectory}

theorem Untouched.delete (h : Untouched dir w) {name : String}
    (hname : ∀ record ∈ dir.records, record.storedFileName ≠ name) :
    Untouched dir { w with files := remove w.files name } where
  registry := h.registry
  inspected := h.inspected
  files record hrecord := by
    show lookup (remove w.files name) record.storedFileName = _
    rw [lookup_remove, if_neg (hname record hrecord), h.files record hrecord]

section Calls

variable {inv : PluginsDirectory → Prop} {thrown : PluginsDirectory → Prop}
  {dir w : PluginsDirectory} {ok : Unit → PluginsDirectory → Prop}

theorem deleteFile_safe {name : String} (hw : Untouched dir w)
    (hname : ∀ record ∈ dir.records, record.storedFileName ≠ name)
    (hinv : ∀ w, Untouched dir w → inv w) (hok : ∀ w, Untouched dir w → ok () w) :
    CallSafe inv ok thrown (deleteFileIfPresent name) w := by
  rintro (_ | _)
  · exact ⟨hinv w hw, hok w hw⟩
  · exact ⟨hinv _ (hw.delete hname), hok _ (hw.delete hname)⟩

theorem deleteFiles_safe {names : List String} (hw : Untouched dir w)
    (hnames : ∀ name ∈ names, ∀ record ∈ dir.records, record.storedFileName ≠ name)
    (hinv : ∀ w, Untouched dir w → inv w) (hok : ∀ w, Untouched dir w → ok () w) :
    CallSafe inv ok thrown (deleteFiles names) w := by
  induction names generalizing w with
  | nil => exact hok w hw
  | cons name rest ih =>
    refine Safe.andThen (deleteFile_safe hw (hnames name List.mem_cons_self) hinv ?_)
    exact fun w' hw' => ih hw' fun other hother => hnames other (List.mem_cons_of_mem _ hother)

variable {records : List WasmPluginRecord}

theorem deleteStoredFiles_safe (hw : Untouched dir w)
    (hrecords : ∀ stale ∈ records, ∀ record ∈ dir.records,
      record.storedFileName ≠ stale.storedFileName) (hinv : ∀ w, Untouched dir w → inv w)
    (hok : ∀ w, Untouched dir w → ok () w) :
    CallSafe inv ok thrown (deleteStoredFilesForRecords records) w := by
  refine deleteFiles_safe hw (fun name hname => ?_) hinv hok
  obtain ⟨stale, hstale, rfl⟩ := List.mem_map.mp (List.mem_of_mem_filter hname)
  exact hrecords stale hstale

theorem cleanup_safe (hw : Untouched dir w) (hrecords : ∀ record ∈ dir.records,
      record.storedFileName ∈ records.map WasmPluginRecord.storedFileName)
    (hinv : ∀ w, Untouched dir w → inv w) (hok : ∀ w, Untouched dir w → ok () w) :
    CallSafe inv ok thrown (cleanupUnreferencedFiles records) w := by
  refine Safe.andThen ?_
  rintro (_ | _)
  · exact ⟨hinv w hw, hok w hw⟩
  · refine ⟨hinv w hw, deleteFiles_safe hw (fun name hname record hrecord heq => ?_) hinv hok⟩
    have hunnamed := (List.mem_filter.mp hname).2
    rw [← heq] at hunnamed
    simp [hrecords record hrecord] at hunnamed

/-! ### Loading -/

theorem dedupe_eq_self {seen : List PluginId}
    (hnodup : (records.map WasmPluginRecord.pluginId).Nodup)
    (hseen : ∀ record ∈ records, ∀ key, record.pluginId = some key → key ∉ seen) :
    dedupe seen records = records := by
  induction records generalizing seen with
  | nil => rfl
  | cons record rest ih =>
    rw [List.map_cons, List.nodup_cons] at hnodup
    rw [dedupe]
    cases hkey : record.pluginId with
    | none =>
      dsimp only
      rw [ih hnodup.2 fun other hother => hseen other (List.mem_cons_of_mem _ hother)]
    | some key =>
      dsimp only
      rw [if_neg (hseen record List.mem_cons_self key hkey), ih hnodup.2]
      intro other hother otherKey hotherKey hmem
      rcases List.mem_cons.mp hmem with rfl | hmem
      · exact hnodup.1 (List.mem_map.mpr ⟨other, hother, by rw [hotherKey, hkey]⟩)
      · exact hseen other (List.mem_cons_of_mem _ hother) otherKey hotherKey hmem

/-- Where each plugin has one record, all of them are kept. -/
theorem dedupeByPluginId_perm (hnodup : (records.map WasmPluginRecord.pluginId).Nodup) :
    (dedupeByPluginId records).Perm records := by
  have hperm : (records.filter (·.removalPending) ++ records.filter (!·.removalPending)).Perm
      records := List.filter_append_perm _ records
  rw [dedupeByPluginId, dedupe_eq_self ((hperm.map _).nodup_iff.mpr hnodup)
    fun _ _ _ _ => List.not_mem_nil]
  exact hperm

variable {ok : List WasmPluginRecord → PluginsDirectory → Prop}

theorem filterRecords_safe (hinv : inv w)
    (hfiles : ∀ record ∈ records, record.removalPending = false →
      contains w.files record.storedFileName = true) (hok : ok records w) :
    CallSafe inv ok thrown (filterRecordsWithStoredFile records) w := by
  induction records generalizing ok with
  | nil => exact hok
  | cons record rest ih =>
    have hrest : CallSafe inv (fun kept => ok (record :: kept)) thrown
        (filterRecordsWithStoredFile rest) w :=
      ih (fun other hother => hfiles other (List.mem_cons_of_mem _ hother)) hok
    cases hpending : record.removalPending with
    | true =>
      rw [filterRecordsWithStoredFile, hpending]
      exact Safe.andThen (Safe.andThen hrest)
    | false =>
      rw [filterRecordsWithStoredFile, hpending]
      refine Safe.andThen (hasFile_safe hinv ?_)
      rw [hfiles record List.mem_cons_self hpending]
      exact Safe.andThen hrest

variable {Double : Type} (tools : RegistryTools Double)

theorem loadPluginsUnlocked_safe (hw : Consistent w) (hinv : ∀ w', Untouched w w' → inv w')
    (hok : ∀ records w', records.Perm w.records → Untouched w w' → ok records w')
    (hthrown : ∀ w', Untouched w w' → thrown w') :
    CallSafe inv ok thrown (loadPluginsUnlocked tools) w := by
  have hrefl := Untouched.refl w
  refine Safe.andThen (readRegistry_safe (hinv w hrefl) ?_ (hthrown w hrefl))
  cases hregistry : w.registry with
  | none =>
    have hrecords : w.records = [] := by rw [PluginsDirectory.records, hregistry]; rfl
    refine Safe.andThen (cleanup_safe hrefl ?_ hinv fun w' hw' => ?_)
    · rw [hrecords]
      simp
    · refine hok [] w' ?_ hw'
      rw [hrecords]
  | some stored =>
    have hrecords : w.records = stored := by rw [PluginsDirectory.records, hregistry]; rfl
    have hsorted : (tools.dart.sort (fun a b => decide (b.installedAtIso ≤ a.installedAtIso))
        stored).Perm w.records := by
      rw [hrecords]
      exact tools.dart.sort_perm _ stored
    have hdeduped := dedupeByPluginId_perm ((hsorted.map _).nodup_iff.mpr hw.plugins)
    have hall := hdeduped.trans hsorted
    refine Safe.andThen (filterRecords_safe (hinv w hrefl) ?_ ?_)
    · intro record hrecord hpending
      obtain ⟨bytes, hbytes, -⟩ := hw.held record (hall.mem_iff.mp hrecord) hpending
      rw [contains, hbytes]
      rfl
    · refine Safe.andThen ?_
      -- Nothing is stale.
      rw [dropStale, if_pos hdeduped.length_eq]
      refine Safe.andThen (cleanup_safe hrefl (fun record hrecord => ?_) hinv fun w' hw' => ?_)
      · exact List.mem_map_of_mem (hall.mem_iff.mpr hrecord)
      · exact hok _ w' hall hw'

end Calls

/-! ### Installing -/

theorem Untouched.put (h : Untouched dir w) {name : String} {bytes : List UInt8}
    (hname : ∀ record ∈ dir.records, record.storedFileName ≠ name) :
    Untouched dir { w with files := OrderedMap.put w.files name bytes } where
  registry := h.registry
  inspected := h.inspected
  files record hrecord := by
    show lookup (OrderedMap.put w.files name bytes) record.storedFileName = _
    rw [lookup_put, if_neg (Ne.symm (hname record hrecord)), h.files record hrecord]

/-- What the registry holds once an installation has written it: the new record, whose package is
    stored as it was inspected, and the other plugins as they were. -/
structure Installed {Double : Type} (tools : RegistryTools Double) (dir : PluginsDirectory)
    (request : InstallRequest) (record : WasmPluginRecord) (w : PluginsDirectory) : Prop where
  isId : record.id = request.id
  named : record.pluginId ≠ none
  stored : record.storedFileName = request.id ++ ".zip"
  notPending : record.removalPending = false
  records : ∃ kept, w.registry = some (record :: kept) ∧
    kept.Perm (dir.records.filter fun other => other.pluginId != record.pluginId)
  replaced : ∀ other ∈ dir.records, other.pluginId = record.pluginId → other.removalPending = false
  held : ∃ bytes, lookup w.files record.storedFileName = some bytes ∧
    lookup w.inspected request.id = some bytes
  inspects : ∃ path bytes preflight, request.sourceBytes = some bytes ∧
    inspect tools.toPackageTools path bytes = .ok preflight ∧
    record.pluginId.map PluginId.text = preflight.pluginId
  files : ∀ other ∈ dir.records, other.pluginId ≠ record.pluginId →
    lookup w.files other.storedFileName = lookup dir.files other.storedFileName
  inspected : ∀ other, other ≠ request.id →
    lookup w.inspected other = lookup dir.inspected other

section Installed

variable {Double : Type} {tools : RegistryTools Double} {record : WasmPluginRecord}
  {request : InstallRequest} {dir w : PluginsDirectory}

/-- A record after an installation is the new one or one of another plugin. -/
theorem Installed.mem_iff (h : Installed tools dir request record w) (other : WasmPluginRecord) :
    other ∈ w.records ↔
      other = record ∨ other ∈ dir.records ∧ other.pluginId ≠ record.pluginId := by
  obtain ⟨kept, hregistry, hkept⟩ := h.records
  rw [PluginsDirectory.records, hregistry, Option.getD_some, List.mem_cons, hkept.mem_iff,
    List.mem_filter, bne_iff_ne]

theorem Installed.untouched {dir w w' : PluginsDirectory} (h : Installed tools dir request record w)
    (hw : Untouched w w') :
    Installed tools dir request record w' where
  isId := h.isId
  named := h.named
  stored := h.stored
  notPending := h.notPending
  records := by rw [hw.registry]; exact h.records
  replaced := h.replaced
  held := by
    rw [hw.files record ((h.mem_iff record).mpr (Or.inl rfl)), hw.inspected]
    exact h.held
  inspects := h.inspects
  files other hother hne := by
    rw [hw.files other ((h.mem_iff other).mpr (Or.inr ⟨hother, hne⟩)), h.files other hother hne]
  inspected other hother := by rw [hw.inspected, h.inspected other hother]

theorem Installed.consistent (h : Installed tools dir request record w) (hdir : Consistent dir)
    (hfresh : ∀ other ∈ dir.records, other.id ≠ request.id) : Consistent w := by
  obtain ⟨kept, hregistry, hkept⟩ := h.records
  have hrecords : w.records = record :: kept := by
    rw [PluginsDirectory.records, hregistry]
    rfl
  have hof : ∀ other ∈ kept, other ∈ dir.records ∧ other.pluginId ≠ record.pluginId := by
    intro other hother
    simpa using List.mem_filter.mp (hkept.mem_iff.mp hother)
  constructor
  · rw [hrecords, List.map_cons, List.nodup_cons]
    refine ⟨?_, (hkept.map _).nodup_iff.mpr (hdir.ids.sublist (List.filter_sublist.map _))⟩
    intro hmem
    obtain ⟨other, hother, hid⟩ := List.mem_map.mp hmem
    exact hfresh other (hof other hother).1 (hid.trans h.isId)
  · rw [hrecords, List.map_cons, List.nodup_cons]
    refine ⟨?_, (hkept.map _).nodup_iff.mpr (hdir.plugins.sublist (List.filter_sublist.map _))⟩
    intro hmem
    obtain ⟨other, hother, hplugin⟩ := List.mem_map.mp hmem
    exact (hof other hother).2 hplugin
  · intro other hother
    rcases (h.mem_iff other).mp hother with rfl | ⟨hmem, -⟩
    · exact h.named
    · exact hdir.named other hmem
  · intro other hother
    rcases (h.mem_iff other).mp hother with rfl | ⟨hmem, -⟩
    · rw [h.stored, h.isId]
    · exact hdir.stored other hmem
  · intro other hother hpending
    rcases (h.mem_iff other).mp hother with rfl | ⟨hmem, hne⟩
    · rw [h.isId]
      exact h.held
    · rw [h.files other hmem hne, h.inspected other.id (hfresh other hmem)]
      exact hdir.held other hmem hpending

end Installed

/-- What is kept beside an installation is of other plugins. -/
theorem kept_eq {existing : List WasmPluginRecord} (hids : (existing.map WasmPluginRecord.id).Nodup)
    (pluginId : PluginId) :
    (existing.filter fun entry =>
      !(recordsToReplace existing (some pluginId)).any fun stale => stale.id == entry.id) =
    existing.filter fun entry => entry.pluginId != some pluginId := by
  refine List.filter_congr fun entry hentry => ?_
  rw [Bool.eq_iff_iff, Bool.not_eq_true', List.any_eq_false, bne_iff_ne]
  constructor
  · intro hnone hplugin
    refine hnone entry ?_ (beq_self_eq_true _)
    exact List.mem_filter.mpr ⟨hentry, by rw [hplugin]; exact beq_self_eq_true _⟩
  · intro hne stale hstale hid
    obtain ⟨hmem, hplugin⟩ := List.mem_filter.mp hstale
    have heq := List.inj_on_of_nodup_map hids hmem hentry (beq_iff_eq.mp hid)
    rw [heq] at hplugin
    exact hne (beq_iff_eq.mp hplugin)

theorem PluginId.ofText_ok {text : String} {pluginId : Option PluginId}
    (h : PluginId.ofText (some text) = .ok pluginId)
    (hcanonical : canonicalPluginId (some text) = .ok (some text)) :
    ∃ key : PluginId, pluginId = some key ∧ key.text = text := by
  unfold PluginId.ofText at h
  split at h
  case h_1 => cases h
  case h_2 hnone =>
    rw [hcanonical] at hnone
    cases hnone
  case h_3 other hother =>
    cases h
    rw [hcanonical] at hother
    cases hother
    exact ⟨_, rfl, rfl⟩

section Install

variable {Double : Type} (tools : RegistryTools Double)
  {inv thrown : PluginsDirectory → Prop} {w : PluginsDirectory}

theorem known_safe {α : Type} {ok : α → PluginsDirectory → Prop} {outcome : Except String α}
    (hok : ∀ a, outcome = .ok a → ok a w) (hthrown : thrown w) :
    CallSafe inv ok thrown (known outcome) w := Safe.known hok fun _ _ => hthrown

/-- No record has the id. -/
def Fresh (w : PluginsDirectory) (id : String) : Prop := ∀ record ∈ w.records, record.id ≠ id

instance (w : PluginsDirectory) (id : String) : Decidable (Fresh w id) :=
  inferInstanceAs (Decidable (∀ record ∈ w.records, record.id ≠ id))

theorem Fresh.stored {id : String} (h : Fresh w id) (hw : Consistent w) :
    ∀ record ∈ w.records, record.storedFileName ≠ id ++ ".zip" := fun record hrecord hname =>
  h record hrecord (hw.id_of_stored hrecord hname)

variable {request : InstallRequest}

/-- A package is stored under a name of its own and inspected there before the registry names it. -/
theorem prepareInstall_safe
    {ok : WasmPluginRecord × List WasmPluginRecord × List WasmPluginRecord × List UInt8 →
      PluginsDirectory → Prop} (hw : Consistent w) (hfresh : Fresh w request.id)
    (hinv : ∀ w', Untouched w w' → inv w')
    (hinstalled : ∀ record w', Installed tools w request record w' → inv w')
    (hthrown : ∀ w', Untouched w w' → thrown w')
    (hok : ∀ record replaced kept bytes w', Installed tools w request record w' →
      w'.records = record :: kept →
      (∀ stale ∈ replaced, stale ∈ w.records ∧ stale.pluginId = record.pluginId) →
      ok (record, replaced, kept, bytes) w') :
    CallSafe inv ok thrown (prepareInstall tools request) w := by
  have hname := hfresh.stored hw
  refine Safe.andThen (loadPluginsUnlocked_safe tools hw hinv (fun existing w₁ hperm hw₁ => ?_)
    hthrown)
  refine Safe.andThen ?_
  cases hsource : request.sourceBytes with
  | none => exact hthrown w₁ hw₁
  | some source =>
  have hw₂ : Untouched w { w₁ with files := put w₁.files request.storedFileName source } :=
    hw₁.put hname
  refine Safe.andThen (writeFile_safe (hinv w₁ hw₁) (hthrown w₁ hw₁) (hinv _ hw₂) ?_)
  refine Safe.andThen (readFile_safe (hinv _ hw₂) (fun bytes hbytes => ?_) (hthrown _ hw₂))
  refine Safe.andThen (known_safe (fun preflight hpreflight => ?_) (hthrown _ hw₂))
  refine Safe.andThen (known_safe (fun pluginId hpluginId => ?_) (hthrown _ hw₂))
  refine Safe.andThen (known_safe (fun _ hpending => ?_) (hthrown _ hw₂))
  refine Safe.andThen (known_safe (fun _ _ => ?_) (hthrown _ hw₂))
  obtain ⟨value, text, hcanonical, htext⟩ := inspect_pluginId hpreflight
  rw [htext] at hpluginId
  obtain ⟨key, rfl, hkey⟩ := PluginId.ofText_ok hpluginId (canonicalPluginId_idem hcanonical)
  have hsame : source = bytes := by
    have hread : lookup (put w₁.files request.storedFileName source) request.storedFileName =
        some bytes := hbytes
    rw [lookup_put, if_pos rfl] at hread
    exact Option.some.inj hread
  have hids : (existing.map WasmPluginRecord.id).Nodup := (hperm.map _).nodup_iff.mpr hw.ids
  have hreplaced : ∀ stale, stale ∈ recordsToReplace existing (some key) ↔
      stale ∈ w.records ∧ stale.pluginId = some key := by
    intro stale
    rw [recordsToReplace, List.mem_filter, hperm.mem_iff, beq_iff_eq]
  have hinstall : Installed tools w request (recordOf request preflight (some key) bytes.length)
      (PluginsDirectory.written { w₁ with files := put w₁.files request.storedFileName source }
        (recordOf request preflight (some key) bytes.length ::
          existing.filter fun entry => entry.pluginId != some key) (some (request.id, bytes))) := by
    refine ⟨rfl, Option.some_ne_none key, rfl, rfl, ⟨_, rfl, hperm.filter _⟩, ?_, ⟨bytes, hbytes, ?_⟩,
      ⟨_, bytes, preflight, hsame ▸ hsource, hpreflight, ?_⟩, ?_, ?_⟩
    · intro other hother hplugin
      have hnone := ensure_ok.mp hpending
      rw [Bool.not_eq_true, List.any_eq_false] at hnone
      simpa using hnone other ((hreplaced other).mpr ⟨hother, hplugin⟩)
    · show lookup (put w₁.inspected request.id bytes) request.id = some bytes
      rw [lookup_put, if_pos rfl]
    · rw [htext, ← hkey]
      rfl
    · intro other hother _
      exact hw₂.files other hother
    · intro other hother
      show lookup (put w₁.inspected request.id bytes) other = _
      rw [lookup_put, if_neg (Ne.symm hother), hw₁.inspected]
  rw [← kept_eq hids key] at hinstall
  refine Safe.andThen (writeRegistry_safe (hinv _ hw₂) (hthrown _ hw₂)
    (hinstalled _ _ hinstall) ?_)
  exact hok _ _ _ _ _ hinstall rfl fun stale hstale => (hreplaced stale).mp hstale

/-- **An installation** that throws leaves the registry and its packages as they were; where it
    stops they are as they were or the record has been written. -/
theorem installPlugin_safe {ok : WasmPluginRecord → PluginsDirectory → Prop} (hw : Consistent w)
    (hfresh : Fresh w request.id) (hinv : ∀ w', Untouched w w' → inv w')
    (hinstalled : ∀ record w', Installed tools w request record w' → inv w')
    (hthrown : ∀ w', Untouched w w' → thrown w')
    (hok : ∀ record w', Installed tools w request record w' → ok record w') :
    CallSafe inv ok thrown (installPluginFromFileUnlocked tools request) w := by
  have hname := hfresh.stored hw
  refine Safe.andThen (known_safe (fun _ _ => ?_) (hthrown w (Untouched.refl w)))
  refine Safe.andThen (Safe.try ?_)
  refine prepareInstall_safe tools hw hfresh hinv hinstalled (fun w' hw' e => ?_) ?_
  · exact Safe.andThen (deleteFile_safe hw' hname hinv fun w'' hw'' => hthrown w'' hw'')
  · intro record replaced kept bytes w' hinstall hrecords hreplaced
    have hinv' : ∀ w'', Untouched w' w'' → inv w'' := fun w'' hw'' =>
      hinstalled record w'' (hinstall.untouched hw'')
    refine Safe.andThen (deleteStoredFiles_safe (Untouched.refl w') ?_ hinv' fun w₁ hw₁ => ?_)
    · intro stale hstale other hother hfile
      obtain ⟨hmem, hplugin⟩ := hreplaced stale hstale
      rw [hw.stored stale hmem] at hfile
      have hid := (hinstall.consistent hw hfresh).id_of_stored hother hfile
      rcases (hinstall.mem_iff other).mp hother with rfl | ⟨hkept, hne⟩
      · exact hfresh stale hmem (hid.symm.trans hinstall.isId)
      · have heq := List.inj_on_of_nodup_map hw.ids hkept hmem hid
        rw [heq] at hne
        exact hne hplugin
    · refine Safe.andThen (cleanup_safe hw₁ ?_ hinv' fun w₂ hw₂ => ?_)
      · intro other hother
        rw [hrecords] at hother
        exact List.mem_map_of_mem hother
      · exact hok record w₂ (hinstall.untouched hw₂)

end Install

/-! ### Removing -/

/-- The records where one is marked. -/
def marked (id : String) (records : List WasmPluginRecord) : List WasmPluginRecord :=
  records.map fun record =>
    if record.id = id then { record with removalPending := true } else record

/-- The registry has been written anew, and the packages it names are as they were. -/
structure Rewritten (dir : PluginsDirectory) (change : List WasmPluginRecord → List WasmPluginRecord)
    (w : PluginsDirectory) : Prop where
  records : ∃ records, records.Perm dir.records ∧ w.registry = some (change records)
  inspected : w.inspected = dir.inspected
  files : ∀ record ∈ w.records,
    lookup w.files record.storedFileName = lookup dir.files record.storedFileName

theorem Rewritten.untouched {dir w w' : PluginsDirectory}
    {change : List WasmPluginRecord → List WasmPluginRecord} (h : Rewritten dir change w)
    (hw : Untouched w w') : Rewritten dir change w' where
  records := by rw [hw.registry]; exact h.records
  inspected := hw.inspected.trans h.inspected
  files record hrecord := by
    rw [hw.records] at hrecord
    rw [hw.files record hrecord, h.files record hrecord]

/-- Marking a record changes nothing that a registry must have. -/
theorem Rewritten.consistent_marked {id : String} (h : Rewritten dir (marked id) w)
    (hdir : Consistent dir) : Consistent w := by
  obtain ⟨records, hperm, hregistry⟩ := h.records
  have hrecords : w.records = marked id records := by
    rw [PluginsDirectory.records, hregistry]
    rfl
  have hof : ∀ record ∈ w.records, ∃ old ∈ dir.records, record.id = old.id ∧
      record.pluginId = old.pluginId ∧ record.storedFileName = old.storedFileName ∧
      (record.removalPending = false → old.removalPending = false) := by
    intro record hrecord
    rw [hrecords] at hrecord
    obtain ⟨old, hold, rfl⟩ := List.mem_map.mp hrecord
    refine ⟨old, hperm.mem_iff.mp hold, ?_⟩
    split_ifs
    · exact ⟨rfl, rfl, rfl, fun hfalse => by cases hfalse⟩
    · exact ⟨rfl, rfl, rfl, fun hfalse => hfalse⟩
  have hids : (marked id records).map WasmPluginRecord.id = records.map WasmPluginRecord.id := by
    rw [marked, List.map_map]
    refine List.map_congr_left fun record _ => ?_
    show (if record.id = id then _ else record).id = record.id
    split_ifs <;> rfl
  have hplugins : (marked id records).map WasmPluginRecord.pluginId =
      records.map WasmPluginRecord.pluginId := by
    rw [marked, List.map_map]
    refine List.map_congr_left fun record _ => ?_
    show (if record.id = id then _ else record).pluginId = record.pluginId
    split_ifs <;> rfl
  constructor
  · rw [hrecords, hids]
    exact (hperm.map _).nodup_iff.mpr hdir.ids
  · rw [hrecords, hplugins]
    exact (hperm.map _).nodup_iff.mpr hdir.plugins
  · intro record hrecord
    obtain ⟨old, hold, -, hplugin, -⟩ := hof record hrecord
    rw [hplugin]
    exact hdir.named old hold
  · intro record hrecord
    obtain ⟨old, hold, hid, -, hstored, -⟩ := hof record hrecord
    rw [hstored, hid]
    exact hdir.stored old hold
  · intro record hrecord hpending
    obtain ⟨old, hold, hid, -, hstored, hpendingOld⟩ := hof record hrecord
    rw [h.files record hrecord, h.inspected, hid, hstored]
    exact hdir.held old hold (hpendingOld hpending)

theorem Rewritten.consistent_filter {p : WasmPluginRecord → Bool}
    (h : Rewritten dir (List.filter p) w) (hdir : Consistent dir) : Consistent w := by
  obtain ⟨records, hperm, hregistry⟩ := h.records
  have hrecords : w.records = records.filter p := by
    rw [PluginsDirectory.records, hregistry]
    rfl
  have hof : ∀ record ∈ w.records, record ∈ dir.records := by
    rw [hrecords]
    exact fun record hrecord => hperm.mem_iff.mp (List.mem_of_mem_filter hrecord)
  constructor
  · rw [hrecords]
    exact ((hperm.map _).nodup_iff.mpr hdir.ids).sublist (List.filter_sublist.map _)
  · rw [hrecords]
    exact ((hperm.map _).nodup_iff.mpr hdir.plugins).sublist (List.filter_sublist.map _)
  · exact fun record hrecord => hdir.named record (hof record hrecord)
  · exact fun record hrecord => hdir.stored record (hof record hrecord)
  · intro record hrecord hpending
    rw [h.files record hrecord, h.inspected]
    exact hdir.held record (hof record hrecord) hpending

section Remove

variable {Double : Type} (tools : RegistryTools Double)
  {inv thrown : PluginsDirectory → Prop} {w : PluginsDirectory}

theorem markRemoval_safe {ok : Bool → PluginsDirectory → Prop} {id : String} (hw : Consistent w)
    (hinv : ∀ w', Untouched w w' → inv w') (hmarked : ∀ w', Rewritten w (marked id) w' → inv w')
    (hthrown : ∀ w', Untouched w w' → thrown w') (hok : ∀ w', Untouched w w' → ok false w')
    (hpending : ∀ w', Untouched w w' ∨ Rewritten w (marked id) w' → ok true w') :
    CallSafe inv ok thrown (markRemoval tools id) w := by
  refine Safe.andThen (loadPluginsUnlocked_safe tools hw hinv (fun records w' hperm hw' => ?_)
    hthrown)
  cases records.filter (·.id == id) with
  | nil => exact hok w' hw'
  | cons selected others =>
    cases others with
    | cons _ _ => exact hthrown w' hw'
    | nil =>
      refine Safe.ite (fun _ => hpending w' (Or.inl hw')) fun _ => ?_
      have hwritten : Rewritten w (marked id) (w'.written (marked id records) none) := by
        refine ⟨⟨records, hperm, rfl⟩, hw'.inspected, fun record hrecord => ?_⟩
        obtain ⟨old, hold, rfl⟩ := List.mem_map.mp hrecord
        have hfile := hw'.files old (hperm.mem_iff.mp hold)
        show lookup w'.files _ = _
        split_ifs <;> exact hfile
      exact Safe.andThen (writeRegistry_safe (hinv w' hw') (hthrown w' hw') (hmarked _ hwritten)
        (hpending _ (Or.inr hwritten)))

theorem removePlugin_safe {ok : Unit → PluginsDirectory → Prop} {id : String} (hw : Consistent w)
    (hinv : ∀ w', Untouched w w' → inv w')
    (hremoved : ∀ w', Rewritten w (List.filter (·.id != id)) w' → inv w')
    (hthrown : ∀ w', Untouched w w' → thrown w')
    (hok : ∀ w', Rewritten w (List.filter (·.id != id)) w' → ok () w') :
    CallSafe inv ok thrown (removePluginUnlocked tools id) w := by
  refine Safe.andThen (loadPluginsUnlocked_safe tools hw hinv (fun records w' hperm hw' => ?_)
    hthrown)
  have hwritten : Rewritten w (List.filter (·.id != id))
      (w'.written (records.filter (·.id != id)) none) := by
    refine ⟨⟨records, hperm, rfl⟩, hw'.inspected, fun record hrecord => ?_⟩
    exact hw'.files record (hperm.mem_iff.mp (List.mem_of_mem_filter hrecord))
  refine Safe.andThen (writeRegistry_safe (hinv w' hw') (hthrown w' hw') (hremoved _ hwritten) ?_)
  have hinv' : ∀ w₂, Untouched (w'.written (records.filter (·.id != id)) none) w₂ → inv w₂ :=
    fun w₂ hw₂ => hremoved w₂ (hwritten.untouched hw₂)
  refine Safe.andThen (deleteStoredFiles_safe (Untouched.refl _) ?_ hinv' fun w₂ hw₂ => ?_)
  · intro stale hstale record hrecord hfile
    obtain ⟨hmem, hid⟩ := List.mem_filter.mp hstale
    rw [hw.stored stale (hperm.mem_iff.mp hmem)] at hfile
    have hsame := (hwritten.consistent_filter hw).id_of_stored hrecord hfile
    have hother := (List.mem_filter.mp hrecord).2
    rw [hsame, beq_iff_eq.mp hid, bne_self_eq_false] at hother
    cases hother
  · refine cleanup_safe hw₂ (fun record hrecord => List.mem_map_of_mem hrecord) hinv' ?_
    exact fun w₃ hw₃ => hok w₃ (hwritten.untouched hw₃)

end Remove

end PluginPackages

end Hivra
