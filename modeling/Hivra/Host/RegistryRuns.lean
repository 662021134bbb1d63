import Hivra.Host.RegistryCalls

namespace Hivra

open JsonDocument OrderedMap Processes Interruptions Replay

namespace PluginPackages

/-!
# The registry is crash safe

A restore installs the packages that are missing and undoes this where the rest of it fails.  So
in every run, wherever calls fail or the program stops, the records name the packages they were
installed with.
-/

/-! ### Restoring packages -/

/-- The registry names what it named, the packages are as they were, and what is new has one of
    the ids. -/
structure Extended (dir : PluginsDirectory) (ids : List String) (w : PluginsDirectory) : Prop where
  consistent : Consistent w
  kept : ∀ record ∈ dir.records, record ∈ w.records ∧
    lookup w.files record.storedFileName = lookup dir.files record.storedFileName
  inspected : ∀ record ∈ dir.records, lookup w.inspected record.id = lookup dir.inspected record.id
  added : ∀ record ∈ w.records, record ∈ dir.records ∨ record.id ∈ ids

theorem Untouched.extended {dir w : PluginsDirectory} (h : Untouched dir w)
    (hdir : Consistent dir) (ids : List String) : Extended dir ids w where
  consistent := h.consistent hdir
  kept record hrecord := ⟨by rw [h.records]; exact hrecord, h.files record hrecord⟩
  inspected record _ := by rw [h.inspected]
  added record hrecord := Or.inl (by rw [h.records] at hrecord; exact hrecord)

variable {dir w w' : PluginsDirectory}

theorem Extended.untouched {ids : List String} (h : Extended dir ids w) (hw : Untouched w w') :
    Extended dir ids w' where
  consistent := hw.consistent h.consistent
  kept record hrecord := by
    obtain ⟨hmem, hfile⟩ := h.kept record hrecord
    rw [hw.records, hw.files record hmem]
    exact ⟨hmem, hfile⟩
  inspected record hrecord := by rw [hw.inspected, h.inspected record hrecord]
  added record hrecord := h.added record (by rw [hw.records] at hrecord; exact hrecord)

theorem Extended.mono {dir w : PluginsDirectory} {ids ids' : List String}
    (h : Extended dir ids w) (hids : ∀ id ∈ ids, id ∈ ids') : Extended dir ids' w :=
  { h with added := fun record hrecord => (h.added record hrecord).imp_right (hids _) }

/-- The packages of a backup that are to be installed: none is installed as yet. -/
def Missing {Double : Type} (tools : RegistryTools Double) (original : List WasmPluginRecord)
    (package : IncomingPackage) : Prop :=
  ∀ path preflight, inspect tools.toPackageTools path package.bytes = .ok preflight →
    ∀ record ∈ original, record.pluginId.map PluginId.text ≠ preflight.pluginId

/-- A package that was missing takes no record's place. -/
theorem Extended.install {Double : Type} {tools : RegistryTools Double} {ids : List String}
    (h : Extended dir ids w) {package : IncomingPackage} {time : ℕ × String}
    {record : WasmPluginRecord} (hinstalled : Installed tools w (package.request time) record w')
    (hmissing : Missing tools dir.records package) (hfresh : Fresh w (package.request time).id) :
    Extended dir ((package.request time).id :: ids) w' := by
  have hne : ∀ old ∈ dir.records, old.pluginId ≠ record.pluginId := by
    intro old hold heq
    obtain ⟨path, bytes, preflight, hsource, hinspect, htext⟩ := hinstalled.inspects
    cases hsource
    exact hmissing path preflight hinspect old hold (by rw [heq, htext])
  constructor
  · exact hinstalled.consistent h.consistent hfresh
  · intro old hold
    obtain ⟨hmem, hfile⟩ := h.kept old hold
    rw [hinstalled.files old hmem (hne old hold)]
    exact ⟨(hinstalled.mem_iff old).mpr (Or.inr ⟨hmem, hne old hold⟩), hfile⟩
  · intro old hold
    rw [hinstalled.inspected old.id (hfresh old (h.kept old hold).1), h.inspected old hold]
  · intro other hother
    rcases (hinstalled.mem_iff other).mp hother with rfl | ⟨hmem, -⟩
    · exact Or.inr (by rw [hinstalled.isId]; exact List.mem_cons_self)
    · exact (h.added other hmem).imp_right (List.mem_cons_of_mem _)

/-- The ids of the first installations of a restore. -/
def clockIds (clock : ℕ → ℕ × String) (count : ℕ) : List String :=
  (List.range count).map fun i => toString (clock i).1

/-- The clock names no package that is stored, and none twice. -/
def FreshClock (dir : PluginsDirectory) (request : RestoreRequest) : Prop :=
  (clockIds request.clock request.packages.length).Nodup ∧
    ∀ id ∈ clockIds request.clock request.packages.length, Fresh dir id

instance (dir : PluginsDirectory) (request : RestoreRequest) :
    Decidable (FreshClock dir request) :=
  inferInstanceAs (Decidable (_ ∧ ∀ id ∈ clockIds request.clock request.packages.length,
    Fresh dir id))

section Restore

variable {Double : Type} (tools : RegistryTools Double)
  {inv thrown : PluginsDirectory → Prop} {w : PluginsDirectory}

/-- What is staged has been inspected, and is of plugins that are not installed. -/
theorem stagePackages_safe {ok : List IncomingPackage → PluginsDirectory → Prop}
    {original : List WasmPluginRecord} {total : ℕ} {packages : List (String × String)}
    (hinv : inv w) (hthrown : thrown w)
    (hok : ∀ incoming : List IncomingPackage, incoming.length ≤ packages.length →
      (∀ package ∈ incoming, Missing tools original package) → ok incoming w) :
    CallSafe inv ok thrown (stagePackages tools original total packages) w := by
  induction packages generalizing total ok with
  | nil => exact hok [] le_rfl (by simp)
  | cons entry rest ih =>
    obtain ⟨key, text⟩ := entry
    rw [stagePackages]
    generalize canonicalPluginId (some key) = outcome
    refine Safe.andThen (known_safe (fun canonical _ => ?_) hthrown)
    refine Safe.andThen (known_safe (fun _ _ => ?_) hthrown)
    refine Safe.andThen ?_
    cases tools.dart.base64Decode text.toList with
    | none => exact hthrown
    | some bytes =>
    refine Safe.andThen (known_safe (fun _ _ => ?_) hthrown)
    refine Safe.andThen (elsewhere_safe hinv fun works => ?_)
    refine Safe.andThen (known_safe (fun _ _ => ?_) hthrown)
    refine Safe.andThen (known_safe (fun preflight hpreflight => ?_) hthrown)
    refine Safe.andThen (known_safe (fun _ hplugin => ?_) hthrown)
    have hkey := ensure_ok.mp hplugin
    cases hcurrent : original.filter fun record =>
        record.pluginId.map PluginId.text == some key with
    | nil =>
      refine Safe.andThen (ih fun incoming hlength hmissing => ?_)
      refine hok _ (Nat.succ_le_succ hlength) fun package hpackage => ?_
      rcases List.mem_cons.mp hpackage with rfl | hpackage
      · intro path other hother record hrecord heq
        rw [inspect_path hother hpreflight, hkey] at heq
        exact List.filter_eq_nil_iff.mp hcurrent record hrecord (beq_iff_eq.mpr heq)
      · exact hmissing package hpackage
    | cons current others =>
      cases others with
      | cons _ _ => exact hthrown
      | nil =>
        refine Safe.andThen (known_safe (fun _ _ => ?_) hthrown)
        refine Safe.andThen (readFile_safe hinv (fun currentBytes _ => ?_) hthrown)
        refine Safe.andThen (known_safe (fun _ _ => ?_) hthrown)
        exact ih fun incoming hlength hmissing =>
          hok incoming (Nat.le_succ_of_le hlength) hmissing

/-- The installed records have ids of the clock and are stored under them. -/
def OfClock (ids : List String) (installed : List WasmPluginRecord) : Prop :=
  ∀ record ∈ installed, record.id ∈ ids ∧ record.storedFileName = record.id ++ ".zip"

variable {clock : ℕ → ℕ × String}

theorem mem_clockIds {count : ℕ} {id : String} :
    id ∈ clockIds clock count ↔ ∃ i < count, toString (clock i).1 = id := by
  simp [clockIds]

variable {dir : PluginsDirectory}

/-- The loop installs one package after the other, each under an id of its own. -/
theorem installIncoming_safe {count : ℕ} (hnodup : (clockIds clock count).Nodup)
    (hclock : ∀ id ∈ clockIds clock count, Fresh dir id) {i : ℕ} {incoming : List IncomingPackage}
    {installed : List WasmPluginRecord} (hcount : i + incoming.length ≤ count)
    (hmissing : ∀ package ∈ incoming, Missing tools dir.records package)
    (hw : Extended dir (clockIds clock i) w) (hof : OfClock (clockIds clock count) installed)
    (hinv : ∀ w', Extended dir (clockIds clock count) w' → inv w')
    {post : List WasmPluginRecord × Option String → PluginsDirectory → Prop}
    (hpost : ∀ installed e w', Extended dir (clockIds clock count) w' →
      OfClock (clockIds clock count) installed → post (installed, e) w') :
    Safe registryEffect inv post (installIncoming tools clock i incoming installed) w := by
  have hmono : ∀ {j}, j ≤ count → ∀ id ∈ clockIds clock j, id ∈ clockIds clock count := by
    intro j hj id hid
    obtain ⟨k, hk, rfl⟩ := mem_clockIds.mp hid
    exact mem_clockIds.mpr ⟨k, by omega, rfl⟩
  induction incoming generalizing i installed w with
  | nil => exact hpost _ _ w (hw.mono (hmono (by simpa using hcount))) hof
  | cons package rest ih =>
    rw [List.length_cons] at hcount
    have hi : i < count := by omega
    have hid : toString (clock i).1 ∈ clockIds clock count := mem_clockIds.mpr ⟨i, hi, rfl⟩
    have hfresh : Fresh w (package.request (clock i)).id := by
      intro record hrecord hrecordId
      rcases hw.added record hrecord with hold | hnew
      · exact hclock _ hid record hold hrecordId
      · -- An id of an earlier installation is another one.
        obtain ⟨j, hj, heq⟩ := mem_clockIds.mp hnew
        have hsame : toString (clock j).1 = toString (clock i).1 := heq.trans hrecordId
        have hindex := List.inj_on_of_nodup_map hnodup (List.mem_range.mpr (by omega))
          (List.mem_range.mpr hi) hsame
        omega
    have hsucc : ∀ id ∈ (package.request (clock i)).id :: clockIds clock i,
        id ∈ clockIds clock (i + 1) := by
      intro id hmem
      rcases List.mem_cons.mp hmem with rfl | hmem
      · exact mem_clockIds.mpr ⟨i, by omega, rfl⟩
      · obtain ⟨j, hj, rfl⟩ := mem_clockIds.mp hmem
        exact mem_clockIds.mpr ⟨j, by omega, rfl⟩
    have huntouched : ∀ w', Untouched w w' → Extended dir (clockIds clock count) w' :=
      fun w' hw' => (hw.untouched hw').mono (hmono (by omega))
    have hinstall : ∀ record w', Installed tools w (package.request (clock i)) record w' →
        Extended dir (clockIds clock (i + 1)) w' := fun record w' hinstalled =>
      (hw.install hinstalled (hmissing package List.mem_cons_self) hfresh).mono hsucc
    refine Safe.bind (Safe.mono (installPlugin_safe tools hw.consistent hfresh
      (fun w' hw' => hinv w' (huntouched w' hw'))
      (fun record w' hw' => hinv w' ((hinstall record w' hw').mono (hmono (by omega))))
      huntouched
      (fun record w' hw' => (⟨hw', hinstall record w' hw'⟩ :
        Installed tools w (package.request (clock i)) record w' ∧
          Extended dir (clockIds clock (i + 1)) w'))) ?_)
    rintro (e | record) w' hend
    · exact hpost _ _ w' hend hof
    · refine ih (by omega) (fun other hother => hmissing other (List.mem_cons_of_mem _ hother))
        hend.2 fun other hother => ?_
      rcases List.mem_append.mp hother with hother | hother
      · exact hof other hother
      · rw [List.mem_singleton.mp hother, hend.1.stored, hend.1.isId]
        exact ⟨hid, rfl⟩

/-- Undoing the installations leaves what was there before. -/
theorem rollBack_safe {ids : List String} {original installed : List WasmPluginRecord} {e : String}
    (hdir : Consistent dir) (hperm : original.Perm dir.records) (hids : ∀ id ∈ ids, Fresh dir id)
    (hw : Extended dir ids w) (hof : OfClock ids installed) {ok : Unit → PluginsDirectory → Prop} :
    CallSafe (Extended dir ids) ok (Extended dir ids) (rollBack original installed e) w := by
  refine Safe.ite (fun _ => hw) fun _ => ?_
  have hkept : ∀ record ∈ dir.records,
      lookup w.files record.storedFileName = lookup dir.files record.storedFileName :=
    fun record hrecord => (hw.kept record hrecord).2
  have hwritten : Extended dir ids (w.written original none) := by
    refine ⟨⟨?_, ?_, ?_, ?_, ?_⟩, fun record hrecord => ⟨hperm.mem_iff.mpr hrecord,
      hkept record hrecord⟩, hw.inspected, fun record hrecord => Or.inl (hperm.mem_iff.mp hrecord)⟩
    · exact (hperm.map _).nodup_iff.mpr hdir.ids
    · exact (hperm.map _).nodup_iff.mpr hdir.plugins
    · exact fun record hrecord => hdir.named record (hperm.mem_iff.mp hrecord)
    · exact fun record hrecord => hdir.stored record (hperm.mem_iff.mp hrecord)
    · intro record hrecord hpending
      have hmem := hperm.mem_iff.mp hrecord
      obtain ⟨bytes, hbytes, hinspected⟩ := hdir.held record hmem hpending
      exact ⟨bytes, (hkept record hmem).trans hbytes, (hw.inspected record hmem).trans hinspected⟩
  refine Safe.andThen (writeRegistry_safe hw hw hwritten ?_)
  refine Safe.andThen (deleteStoredFiles_safe (Untouched.refl _) ?_
    (fun _ hw' => hwritten.untouched hw') fun _ hw' => hwritten.untouched hw')
  intro stale hstale record hrecord hfile
  obtain ⟨hid, hstored⟩ := hof stale hstale
  rw [hstored] at hfile
  exact hids _ hid record (hperm.mem_iff.mp hrecord)
    (hdir.id_of_stored (hperm.mem_iff.mp hrecord) hfile)

/-- **A restore keeps what was installed**, wherever it ends. -/
theorem withBackup_safe {request : RestoreRequest} (hw : Consistent w)
    (hclock : FreshClock w request) :
    CallSafe (Extended w (clockIds request.clock request.packages.length))
      (fun _ => Extended w (clockIds request.clock request.packages.length))
      (Extended w (clockIds request.clock request.packages.length))
      (withBackupPackages tools request) w := by
  obtain ⟨hnodup, hfresh⟩ := hclock
  have huntouched : ∀ w', Untouched w w' →
      Extended w (clockIds request.clock request.packages.length) w' := fun w' hw' =>
    hw'.extended hw _
  refine Safe.andThen (loadPluginsUnlocked_safe tools hw huntouched (fun original w₁ hperm hw₁ => ?_)
    huntouched)
  have hextended := huntouched w₁ hw₁
  refine Safe.andThen (elsewhere_safe hextended fun works => ?_)
  refine Safe.andThen (known_safe (fun _ _ => ?_) hextended)
  refine Safe.andThen (known_safe (fun _ _ => ?_) hextended)
  refine Safe.andThen (stagePackages_safe tools hextended hextended fun incoming hlength hmissing => ?_)
  refine Safe.bind (Safe.bind ?_)
  refine installIncoming_safe tools hnodup hfresh (i := 0) (by omega) (fun package hpackage => ?_)
    (hw₁.extended hw _) (fun _ hmem => absurd hmem List.not_mem_nil) (fun _ h => h) ?_
  · intro path preflight hinspect record hrecord
    exact hmissing package hpackage path preflight hinspect record (hperm.mem_iff.mpr hrecord)
  · rintro installed (_ | e) w₂ hw₂ hof
    · refine Safe.andThen (elsewhere_safe hw₂ fun restored => ?_)
      cases restored with
      | true => exact hw₂
      | false => exact rollBack_safe hw hperm hfresh hw₂ hof
    · exact rollBack_safe hw hperm hfresh hw₂ hof

end Restore

/-! ### Every run -/

section Runs

variable {Double : Type} (tools : RegistryTools Double) {w : PluginsDirectory}

/-- What is bound is the package of a record that is not being removed. -/
theorem resolve_safe (hw : Consistent w) (pluginId : Option String) :
    CallSafe (fun _ => True)
      (fun binding _ => ∀ record bytes, binding = .externalPackage record bytes →
        record ∈ w.records ∧ record.removalPending = false)
      (fun _ => True) (resolveRuntimeBinding tools pluginId) w := by
  refine Safe.andThen (known_safe (fun normalized _ => ?_) trivial)
  cases normalized with
  | none => exact fun _ _ h => by cases h
  | some key =>
    refine Safe.andThen (loadPluginsUnlocked_safe tools hw (fun _ _ => trivial)
      (fun records w' hperm _ => ?_) fun _ _ => trivial)
    cases hfind : records.find? fun record => record.pluginId == some key with
    | none => exact fun _ _ h => by cases h
    | some record =>
      dsimp only
      refine Safe.ite (fun _ => ?_) fun hnot => ?_
      · exact fun _ _ h => by cases h
      · refine Safe.andThen (hasFile_safe trivial (Safe.ite (fun _ => ?_) fun _ => ?_))
        · refine Safe.andThen (readFile_safe trivial (fun bytes _ => ?_) trivial)
          intro other _ hbinding
          cases hbinding
          refine ⟨hperm.mem_iff.mp (List.mem_of_find?_eq_some hfind), ?_⟩
          rw [not_or, Bool.not_eq_true] at hnot
          exact hnot.1
        · exact fun _ _ h => by cases h

/-- The clock of an installation names no package that is stored. -/
def ClockFits (state : RegistryState) : RegistryEvent → Prop
  | .install request _ => Fresh state.dir request.id
  | .restore request _ => FreshClock state.dir request
  | _ => True

instance (state : RegistryState) (event : RegistryEvent) : Decidable (ClockFits state event) :=
  match event with
  | .install request _ => inferInstanceAs (Decidable (Fresh state.dir request.id))
  | .restore request _ => inferInstanceAs (Decidable (FreshClock state.dir request))
  | .load _ | .remove .. | .cleanedUp _ | .cleanupFailed _ | .finish .. | .stop => isTrue trivial

variable {dir : PluginsDirectory}

/-- What holds of every outcome of a call holds of what it leaves. -/
theorem callOn_safe {α : Type} {call : RegistryCall α} {P : PluginsDirectory → Prop} (hdir : P dir)
    (h : CallSafe P (fun _ => P) P call dir) (accesses : List Bool) :
    P (callOn call accesses dir).2 := by
  obtain ⟨hstopped, hover⟩ := safe_run hdir h accesses
  cases hresult : (callOn call accesses dir).1 with
  | none => exact hstopped hresult
  | some result =>
    have hend := hover result hresult
    cases result with
    | error e => exact hend
    | ok a => exact hend

/-- What a step does to the directory. -/
inductive Step (state : RegistryState) : RegistryEvent → PluginsDirectory → Prop
  | untouched {event : RegistryEvent} {w : PluginsDirectory} (h : Untouched state.dir w) :
      Step state event w
  | installed {request : InstallRequest} {accesses : List Bool} {record : WasmPluginRecord}
      {w : PluginsDirectory} (h : Installed tools state.dir request record w) :
      Step state (.install request accesses) w
  | restored {request : RestoreRequest} {accesses : List Bool} {w : PluginsDirectory}
      (h : Extended state.dir (clockIds request.clock request.packages.length) w) :
      Step state (.restore request accesses) w
  | marked {id : String} {accesses : List Bool} {w : PluginsDirectory}
      (h : Rewritten state.dir (marked id) w) : Step state (.remove id accesses) w
  | removed {id : String} {accesses : List Bool} {w : PluginsDirectory}
      (hcleaned : lookup state.removals id = some true)
      (h : Rewritten state.dir (List.filter (·.id != id)) w) :
      Step state (.finish id accesses) w

variable {tools} {state : RegistryState} {event : RegistryEvent}

/-- **What every step does.** -/
theorem Consistent.step (hdir : Consistent state.dir) (hclock : ClockFits state event) :
    Step tools state event (registryStep tools state event).dir := by
  have hrefl := Untouched.refl state.dir
  cases event with
  | load accesses =>
    exact .untouched (callOn_safe (P := Untouched state.dir) hrefl
      (loadPluginsUnlocked_safe tools hdir (fun _ h => h) (fun _ _ _ h => h) fun _ h => h) accesses)
  | install request accesses =>
    exact callOn_safe (P := Step tools state (.install request accesses)) (.untouched hrefl)
      (installPlugin_safe tools hdir hclock (fun _ h => .untouched h) (fun _ _ h => .installed h)
        (fun _ h => .untouched h) fun _ _ h => .installed h) accesses
  | restore request accesses =>
    exact .restored (callOn_safe (hrefl.extended hdir _) (withBackup_safe tools hdir hclock) accesses)
  | remove id accesses =>
    have hmark : Step tools state (.remove id accesses)
        (callOn (markRemoval tools id) accesses state.dir).2 :=
      callOn_safe (P := Step tools state (.remove id accesses)) (.untouched hrefl)
        (markRemoval_safe tools hdir (fun _ h => .untouched h) (fun _ h => .marked h)
          (fun _ h => .untouched h) (fun _ h => .untouched h)
          fun _ h => h.elim (fun h => .untouched h) fun h => .marked h) accesses
    rw [registryStep]
    split_ifs
    · exact .untouched hrefl
    · dsimp only
      split <;> exact hmark
  | cleanedUp id =>
    rw [registryStep]
    split_ifs <;> exact .untouched hrefl
  | cleanupFailed id => exact .untouched hrefl
  | finish id accesses =>
    rw [registryStep]
    split_ifs with hcleaned
    · exact callOn_safe (P := Step tools state (.finish id accesses)) (.untouched hrefl)
        (removePlugin_safe tools hdir (fun _ h => .untouched h) (fun _ h => .removed hcleaned h)
          (fun _ h => .untouched h) fun _ h => .removed hcleaned h) accesses
    · exact .untouched hrefl
  | stop => exact .untouched hrefl

theorem Step.consistent (h : Step tools state event w) (hdir : Consistent state.dir)
    (hclock : ClockFits state event) : Consistent w := by
  cases h with
  | untouched h => exact h.consistent hdir
  | installed h => exact h.consistent hdir hclock
  | restored h => exact h.consistent
  | marked h => exact h.consistent_marked hdir
  | removed _ h => exact h.consistent_filter hdir

/-- In every run the registry is consistent. -/
theorem consistent_run {events : List RegistryEvent}
    (hclock : Along (registryStep tools) ClockFits emptyRegistry events) :
    Consistent (replay (registryStep tools) emptyRegistry events).dir :=
  along_invariant (P := fun state => Consistent state.dir) hclock Consistent.empty
    fun _ _ hdir hfits => (hdir.step hfits).consistent hdir hfits

/-- A record that is being removed stays so, unless the last part of its removal comes. -/
theorem Step.pending (h : Step tools state event w) {record : WasmPluginRecord}
    (hrecord : record ∈ state.dir.records) (hpending : record.removalPending = true) :
    record ∈ w.records ∨ ∃ accesses, event = .finish record.id accesses ∧
      lookup state.removals record.id = some true := by
  cases h with
  | untouched h => exact Or.inl (by rw [h.records]; exact hrecord)
  | restored h => exact Or.inl (h.kept record hrecord).1
  | installed h =>
    refine Or.inl ((h.mem_iff record).mpr (Or.inr ⟨hrecord, fun heq => ?_⟩))
    -- An installation replaces nothing that is being removed.
    rw [h.replaced record hrecord heq] at hpending
    cases hpending
  | @marked id _ _ h =>
    obtain ⟨records, hperm, hregistry⟩ := h.records
    refine Or.inl ?_
    rw [PluginsDirectory.records, hregistry]
    refine List.mem_map.mpr ⟨record, hperm.mem_iff.mpr hrecord, ?_⟩
    split_ifs
    · rw [← hpending]
    · rfl
  | @removed id accesses _ hcleaned h =>
    by_cases hid : record.id = id
    · subst hid
      exact Or.inr ⟨accesses, rfl, hcleaned⟩
    · obtain ⟨records, hperm, hregistry⟩ := h.records
      refine Or.inl ?_
      rw [PluginsDirectory.records, hregistry]
      exact List.mem_filter.mpr ⟨hperm.mem_iff.mpr hrecord, bne_iff_ne.mpr hid⟩

/-! ### What the registry promises -/

/-- The records that were there are there, and their packages are as they were. -/
def Unchanged (dir dir' : PluginsDirectory) : Prop :=
  ∀ record ∈ dir.records, record ∈ dir'.records ∧
    lookup dir'.files record.storedFileName = lookup dir.files record.storedFileName

theorem Untouched.unchanged {dir w : PluginsDirectory} (h : Untouched dir w) : Unchanged dir w :=
  fun record hrecord => ⟨by rw [h.records]; exact hrecord, h.files record hrecord⟩

/-- What holds in every state: of loading, of calls that fail or stop, and of removals. -/
structure CrashSafe (tools : RegistryTools Double) (state : RegistryState) : Prop where
  /-- What is loaded has plugins of its own, and names the packages that were inspected. -/
  loaded : ∀ accesses records dir,
    callOn (loadPluginsUnlocked tools) accesses state.dir = (some (.ok records), dir) →
    (records.map WasmPluginRecord.pluginId).Nodup ∧
      (∀ record ∈ records, record.pluginId ≠ none) ∧
      ∀ record ∈ records, record.removalPending = false →
        ∃ bytes, lookup dir.files record.storedFileName = some bytes ∧
          lookup dir.inspected record.id = some bytes
  /-- An installation that fails, or stops before its record is in the registry. -/
  install : ∀ request accesses outcome dir, Fresh state.dir request.id →
    callOn (installPluginFromFileUnlocked tools request) accesses state.dir = (outcome, dir) →
    (∃ e, outcome = some (.error e)) ∨
      outcome = none ∧ (∀ record ∈ dir.records, record.id ≠ request.id) →
    Unchanged state.dir dir
  /-- Any installation: only its own plugin is replaced. -/
  others : ∀ request accesses outcome dir, Fresh state.dir request.id →
    callOn (installPluginFromFileUnlocked tools request) accesses state.dir = (outcome, dir) →
    ∀ record ∈ state.dir.records,
      (record ∈ dir.records ∧
        lookup dir.files record.storedFileName = lookup state.dir.files record.storedFileName) ∨
      ∃ new ∈ dir.records, new.id = request.id ∧ new.pluginId = record.pluginId
  /-- A restore, whatever becomes of it. -/
  restore : ∀ request accesses, FreshClock state.dir request →
    Unchanged state.dir (callOn (withBackupPackages tools request) accesses state.dir).2
  /-- A removal is pending until its cleanup is complete and its last part is done. -/
  pending : ∀ record ∈ state.dir.records, record.removalPending = true →
    ∀ event, ClockFits state event →
      record ∈ (registryStep tools state event).dir.records ∨
        ∃ accesses, event = .finish record.id accesses ∧
          lookup state.removals record.id = some true
  /-- A plugin whose removal is pending is not resolved. -/
  resolved : ∀ record ∈ state.dir.records, record.removalPending = true →
    ∀ pluginId accesses bound bytes dir,
      callOn (resolveRuntimeBinding tools pluginId) accesses state.dir =
        (some (.ok (.externalPackage bound bytes)), dir) → bound.pluginId ≠ record.pluginId

/-- The record of a plugin is the only one. -/
theorem Consistent.eq_of_plugin (h : Consistent dir) {record other : WasmPluginRecord}
    (hrecord : record ∈ dir.records) (hother : other ∈ dir.records)
    (heq : record.pluginId = other.pluginId) : record = other :=
  List.inj_on_of_nodup_map h.plugins hrecord hother heq

/-- Where an installation may stop. -/
def MayInstall (tools : RegistryTools Double) (dir : PluginsDirectory) (request : InstallRequest)
    (w : PluginsDirectory) : Prop :=
  Untouched dir w ∨ ∃ record, Installed tools dir request record w

theorem Consistent.crashSafe (hdir : Consistent state.dir) :
    CrashSafe tools state where
  loaded accesses records dir hcall := by
    have hload : CallSafe (fun _ => True)
        (fun records w => records.Perm w.records ∧ Consistent w) (fun _ => True)
        (loadPluginsUnlocked tools) state.dir :=
      loadPluginsUnlocked_safe tools hdir (fun _ _ => trivial)
        (fun records w hperm hw => ⟨by rw [hw.records]; exact hperm, hw.consistent hdir⟩)
        fun _ _ => trivial
    have hend := (safe_run trivial hload accesses).2 (.ok records) (congrArg Prod.fst hcall)
    obtain ⟨hperm, hafter⟩ := hend
    rw [show (run registryEffect _ accesses state.dir).2 = dir from congrArg Prod.snd hcall]
      at hperm hafter
    refine ⟨(hperm.map _).nodup_iff.mpr hafter.plugins, ?_, ?_⟩
    · exact fun record hrecord => hafter.named record (hperm.mem_iff.mp hrecord)
    · exact fun record hrecord => hafter.held record (hperm.mem_iff.mp hrecord)
  install request accesses outcome dir hfresh hcall hfailed := by
    have hsafe : CallSafe (MayInstall tools state.dir request) (fun _ _ => True)
        (Untouched state.dir) (installPluginFromFileUnlocked tools request) state.dir :=
      installPlugin_safe tools hdir hfresh (fun _ h => Or.inl h)
        (fun record _ h => Or.inr ⟨record, h⟩) (fun _ h => h) fun _ _ _ => trivial
    have hstart : MayInstall tools state.dir request state.dir :=
      Or.inl (Untouched.refl state.dir)
    have hinstall := safe_run hstart hsafe accesses
    have hdirEq : (run registryEffect (installPluginFromFileUnlocked tools request).run accesses
        state.dir).2 = dir := congrArg Prod.snd hcall
    have houtcome : (run registryEffect (installPluginFromFileUnlocked tools request).run accesses
        state.dir).1 = outcome := congrArg Prod.fst hcall
    rw [hdirEq, houtcome] at hinstall
    rcases hfailed with ⟨e, rfl⟩ | ⟨rfl, hnew⟩
    · exact Untouched.unchanged (hinstall.2 (.error e) rfl)
    · rcases hinstall.1 rfl with huntouched | ⟨record, hinstalled⟩
      · exact huntouched.unchanged
      · exact absurd hinstalled.isId (hnew record ((hinstalled.mem_iff record).mpr (Or.inl rfl)))
  others request accesses outcome dir hfresh hcall record hrecord := by
    have hdirEq : (registryStep tools state (.install request accesses)).dir = dir :=
      congrArg Prod.snd hcall
    have hfits : ClockFits state (.install request accesses) := hfresh
    have hstep : Step tools state (.install request accesses) dir := by
      rw [← hdirEq]
      exact hdir.step hfits
    cases hstep with
    | untouched h => exact Or.inl (h.unchanged record hrecord)
    | @installed _ _ new _ h =>
      by_cases heq : record.pluginId = new.pluginId
      · exact Or.inr ⟨new, (h.mem_iff new).mpr (Or.inl rfl), h.isId, heq.symm⟩
      · exact Or.inl ⟨(h.mem_iff record).mpr (Or.inr ⟨hrecord, heq⟩), h.files record hrecord heq⟩
  restore request accesses hclock := by
    have hrestore := callOn_safe (Untouched.extended (Untouched.refl state.dir) hdir _)
      (withBackup_safe tools hdir hclock) accesses
    exact hrestore.kept
  pending record hrecord hpending event hfits := (hdir.step hfits).pending hrecord hpending
  resolved record hrecord hpending pluginId accesses bound bytes dir hcall heq := by
    have hresolve := (safe_run trivial (resolve_safe tools hdir pluginId) accesses).2 _
      (congrArg Prod.fst hcall)
    obtain ⟨hbound, hnot⟩ := hresolve bound bytes rfl
    rw [hdir.eq_of_plugin hbound hrecord heq, hpending] at hnot
    cases hnot

end Runs

/-! A plugin is installed, and then a second package of it, or bytes that are no package. -/

def sampleRegistryTools : RegistryTools String where
  dart := { sampleViews with
    sort := fun le items => items.insertionSort fun a b => le a b
    sort_perm := @insertionSort_perm }
  decodeBytes bytes := if bytes = [9] then none else some sampleArchive
  decodeText _ := some (sampleManifest [("module_path", .str "plugin/module.wasm")])
  sha256 bytes := bytes

def sampleInstall (bytes : List UInt8) (microseconds : ℕ) : InstallRequest where
  sourceName := "sample-1.0.zip".toList
  sourceBytes := some bytes
  microseconds := microseconds
  installedAtIso := ""
  validateRecord _ := true

/-- The registry with one plugin. -/
def oneInstalled : List RegistryEvent :=
  [.install (sampleInstall [0] 1) (List.replicate 10 true)]

/-- A second package of the plugin, and then bytes that are none. -/
def installedTwice : List RegistryEvent :=
  oneInstalled ++ [.install (sampleInstall [1] 2) (List.replicate 10 true),
    .install (sampleInstall [9] 3) (List.replicate 10 true)]

end PluginPackages

end Hivra
