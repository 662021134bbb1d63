import Hivra.Host.PreferenceFile

namespace Hivra

open Replay OrderedMap Processes

/-!
# What a task leaves of the preferences

A save decides on its connection before its task, and a removal forgets the choices for a
connection in a task of its own before the one that drops it.  A task leaves a file that is read
as what is held, if the connection of a save is there and the one that is dropped is not named.

* `Scheduled`, `KeepsFile` — when a task runs, and the condition on what is named.
* `At`, `InTask` — how far a task has come.
* `loadPreferences_holds`, `savePreferredTask_holds`, … — what each task leaves.
-/

namespace AiCredentials

variable {ι : Type}

/-- The tasks run one after the other. -/
def Scheduled (world : StoreWorld ι) (i : ι) (action : StoreAction) (_ : Bool) : Prop :=
  match action with
  | .enter => world.running = none ∧ world.waiting.head? = some i
  | _ => True

instance [DecidableEq ι] (world : StoreWorld ι) (i : ι) (action : StoreAction) (works : Bool) :
    Decidable (Scheduled world i action works) :=
  match action with
  | .enter => inferInstanceAs (Decidable (world.running = none ∧ world.waiting.head? = some i))
  | .look | .changeSession _ | .enqueue | .leave | .readSecret _ | .writeSecret .. |
    .deleteSecret _ | .forgetLegacy _ | .readFile | .writeFile .. | .install _ | .abandon |
    .setLoaded | .settle .. | .copyModels _ | .putConnection _ | .dropConnection _ |
    .undoConnection _ | .restoreConnection _ => isTrue trivial

/-- The steps that keep the file.  A preference is saved for a connection that is there; a new
    connection has a new id; one that is dropped is not named any more.  A file that cannot be
    written does not bring a connection back that was gone, and an older preferred provider that
    cannot be deleted was not taken over and is not read again. -/
def KeepsFile (world : StoreWorld ι) (action : StoreAction) (works : Bool) : Prop :=
  match action with
  | .copyModels provider => Known world.preferences.connections provider
  | .putConnection connection =>
    connection.id ∉ world.preferences.connections.map Prod.fst
  | .dropConnection connection =>
    (∀ provider ∈ world.preferences.cachedPreferredProvider, provider.id ≠ connection.id) ∧
    ∀ entry ∈ world.preferences.preferredModels, entry.1.id ≠ connection.id
  | .writeFile _ gone => works = false → gone = false
  | .forgetLegacy migrating => works = false → migrating = false ∧
      (world.file = none →
        providerForId [] ((world.secrets .preferredProvider).getD "") = none)
  | _ => True

instance (world : StoreWorld ι) (action : StoreAction) (works : Bool) :
    Decidable (KeepsFile world action works) :=
  match action with
  | .copyModels provider => inferInstanceAs (Decidable (Known _ provider))
  | .putConnection connection => inferInstanceAs (Decidable (connection.id ∉ _))
  | .dropConnection connection =>
    inferInstanceAs (Decidable
      ((∀ provider ∈ world.preferences.cachedPreferredProvider, provider.id ≠ connection.id) ∧
        ∀ entry ∈ world.preferences.preferredModels, entry.1.id ≠ connection.id))
  | .writeFile _ gone => inferInstanceAs (Decidable (works = false → gone = false))
  | .forgetLegacy migrating =>
    inferInstanceAs (Decidable (works = false → migrating = false ∧
      (world.file = none →
        providerForId [] ((world.secrets .preferredProvider).getD "") = none)))
  | .look | .changeSession _ | .enqueue | .enter | .leave | .readSecret _ | .writeSecret .. |
    .deleteSecret _ | .readFile | .install _ | .abandon | .setLoaded | .settle .. |
    .undoConnection _ | .restoreConnection _ => isTrue trivial

/-! ### What holds between the tasks, and what a call may do to the others -/

section Protocol

variable (addresses : Addresses)

/-- What a call relies on: nothing changes what its task works on, what is loaded stays so, and an
    older preferred provider does not come back. -/
structure Others (i : ι) (w w' : StoreWorld ι) : Prop where
  running : w'.running = some i ↔ w.running = some i
  task : w.running = some i → w'.preferences = w.preferences ∧ w'.file = w.file ∧
    w'.secrets .preferredProvider = w.secrets .preferredProvider
  loaded : w.preferences.preferencesLoaded = true → w'.preferences.preferencesLoaded = true
  forgotten : w.secrets .preferredProvider = none → w'.secrets .preferredProvider = none

theorem Others.refl (i : ι) (w : StoreWorld ι) : Others i w w :=
  ⟨Iff.rfl, fun _ => ⟨rfl, rfl, rfl⟩, id, id⟩

theorem Others.trans {i : ι} {w w' w'' : StoreWorld ι} (h : Others i w w')
    (h' : Others i w' w'') : Others i w w'' where
  running := h'.running.trans h.running
  task hrunning := by
    obtain ⟨hpreferences, hfile, hlegacy⟩ := h.task hrunning
    obtain ⟨hpreferences', hfile', hlegacy'⟩ := h'.task (h.running.mpr hrunning)
    exact ⟨hpreferences'.trans hpreferences, hfile'.trans hfile, hlegacy'.trans hlegacy⟩
  loaded hloaded := h'.loaded (h.loaded hloaded)
  forgotten hnone := h'.forgotten (h.forgotten hnone)

/-- Whether a step is taken at all, and the condition under which the file is kept. -/
def Fits (world : StoreWorld ι) (i : ι) (action : StoreAction) (works : Bool) : Prop :=
  Scheduled world i action works ∧ KeepsFile world action works

def protocol : Protocol (StoreWorld ι) Bool ι StoreAction where
  inv w := w.running = none → Kept addresses w.preferences w.file (w.secrets .preferredProvider)
  rely := Others
  fits := Fits
  refl := Others.refl
  trans _ _ _ _ := Others.trans

end Protocol

variable {addresses : Addresses} {i : ι} {Result : Type}
  {post : Result → StoreWorld ι → Prop}

/-- A call is in its task, and the task has come to these values. -/
structure At (i : ι) (preferences : Preferences) (file : Option PreferenceDocument)
    (legacy : Option String) (w : StoreWorld ι) : Prop where
  running : w.running = some i
  preferences : w.preferences = preferences
  file : w.file = file
  legacy : w.secrets .preferredProvider = legacy

variable {P P' : Preferences} {F F' : Option PreferenceDocument} {L L' : Option String}
  {w w' : StoreWorld ι}

theorem At.stable (h : At i P F L w) (hothers : Others i w w') : At i P F L w' := by
  obtain ⟨hpreferences, hfile, hlegacy⟩ := hothers.task h.running
  exact ⟨hothers.running.mpr h.running, hpreferences.trans h.preferences, hfile.trans h.file,
    hlegacy.trans h.legacy⟩

theorem At.update (h : At i P F L w) (change : Preferences → Preferences) :
    At i (change P) F L { w with preferences := change w.preferences } :=
  ⟨h.running, congrArg change h.preferences, h.file, h.legacy⟩

theorem At.forget (h : At i P F L w) : At i P F none
    { w with secrets := Function.update w.secrets .preferredProvider none } :=
  ⟨h.running, h.preferences, h.file, by
    show Function.update w.secrets .preferredProvider none .preferredProvider = none
    exact Function.update_self ..⟩

/-- An action within a task is not seen by the others. -/
theorem At.others (h : At i P F L w) (h' : At i P' F' L' w')
    (hloaded : P.preferencesLoaded = true → P'.preferencesLoaded = true)
    (hlegacy : L = none → L' = none) {j : ι} (hj : j ≠ i) : Others j w w' where
  running := by
    rw [h.running, h'.running]
  task hrunning := by
    rw [h.running] at hrunning
    exact absurd (Option.some.inj hrunning).symm hj
  loaded := by
    rw [h.preferences, h'.preferences]
    exact hloaded
  forgotten := by
    rw [h.legacy, h'.legacy]
    exact hlegacy

/-- A call is in its task, and the file is what it should be; and what else is known of it. -/
structure InTask (addresses : Addresses) (i : ι) (loaded forgotten : Bool)
    (w : StoreWorld ι) : Prop where
  running : w.running = some i
  kept : Kept addresses w.preferences w.file (w.secrets .preferredProvider)
  loaded : loaded = true → w.preferences.preferencesLoaded = true
  forgotten : forgotten = true → w.secrets .preferredProvider = none

variable {loaded forgotten : Bool}

theorem InTask.at_ (h : InTask addresses i loaded forgotten w) :
    At i w.preferences w.file (w.secrets .preferredProvider) w := ⟨h.running, rfl, rfl, rfl⟩

theorem At.inTask (h : At i P F L w) (hkept : Kept addresses P F L)
    (hloaded : loaded = true → P.preferencesLoaded = true)
    (hforgotten : forgotten = true → L = none) : InTask addresses i loaded forgotten w where
  running := h.running
  kept := by
    rw [h.preferences, h.file, h.legacy]
    exact hkept
  loaded := by
    rw [h.preferences]
    exact hloaded
  forgotten := by
    rw [h.legacy]
    exact hforgotten

theorem InTask.stable (h : InTask addresses i loaded forgotten w) (hothers : Others i w w') :
    InTask addresses i loaded forgotten w' :=
  (h.at_.stable hothers).inTask h.kept h.loaded h.forgotten

variable {loaded forgotten other : Bool}

theorem InTask.anyway (h : InTask addresses i (loaded || other) forgotten w) :
    InTask addresses i loaded forgotten w :=
  ⟨h.running, h.kept, fun hloaded => h.loaded (by rw [hloaded, Bool.true_or]), h.forgotten⟩

/-- What loading comes to. -/
def Loaded (addresses : Addresses) (i : ι) (loaded forgotten : Bool)
    (result : Outcome (Option InferenceConnection)) (w : StoreWorld ι) : Prop :=
  InTask addresses i (loaded || result.isOk) forgotten w ∧
    ∀ provider, result = .ok provider → provider = w.preferences.cachedPreferredProvider

theorem Loaded.failed {forgotten : Bool} (h : At i P F L w)
    (hkept : Kept addresses P F L) (hforgotten : forgotten = true → L = none) :
    Loaded addresses i false forgotten (.error ()) w :=
  ⟨h.inTask hkept (fun h => nomatch h) hforgotten, fun _ h => nomatch h⟩

theorem Loaded.succeeded (h : At i P F L w) (hkept : Kept addresses P F L)
    (hloaded : P.preferencesLoaded = true) (hforgotten : forgotten = true → L = none) :
    Loaded addresses i loaded forgotten (.ok P.cachedPreferredProvider) w := by
  refine ⟨h.inTask hkept (fun _ => hloaded) hforgotten, fun provider hprovider => ?_⟩
  rw [h.preferences]
  exact (Except.ok.inj hprovider).symm

/-- A call is not in a task; and what else is known. -/
structure Out (i : ι) (loaded forgotten : Bool) (w : StoreWorld ι) : Prop where
  running : w.running ≠ some i
  loaded : loaded = true → w.preferences.preferencesLoaded = true
  forgotten : forgotten = true → w.secrets .preferredProvider = none

theorem Out.stable (h : Out i loaded forgotten w) (hothers : Others i w w') :
    Out i loaded forgotten w' where
  running hrunning := h.running (hothers.running.mp hrunning)
  loaded hloaded := hothers.loaded (h.loaded hloaded)
  forgotten hforgotten := hothers.forgotten (h.forgotten hforgotten)

theorem Out.nothing (h : Out i loaded forgotten w) :
    Out i false false w := ⟨h.running, fun h => (nomatch h), fun h => (nomatch h)⟩

theorem Out.ofForgotten (h : Out i loaded (forgotten || other) w) : Out i loaded forgotten w :=
  ⟨h.running, h.loaded, fun hforgotten => h.forgotten (by rw [hforgotten, Bool.true_or])⟩

theorem Out.ofLoaded (h : Out i (loaded || other) forgotten w) : Out i loaded forgotten w :=
  ⟨h.running, fun hloaded => h.loaded (by rw [hloaded, Bool.true_or]), h.forgotten⟩

variable [DecidableEq ι]

/-- One action of a task. -/
theorem At.act {action : StoreAction} {next : StoreAnswer action → StoreProcess Result}
    (h : At i P F L w) (hnext : ∀ w' works, At i P F L w' → KeepsFile w' action works →
      ∃ P' F' L', At i P' F' L' (storeEffect i action works w').2 ∧
        (P.preferencesLoaded = true → P'.preferencesLoaded = true) ∧ (L = none → L' = none) ∧
        Holds (protocol addresses) storeEffect i post (next (storeEffect i action works w').1)
          (storeEffect i action works w').2) :
    Holds (protocol addresses) storeEffect i post (ask action >>= next) w := by
  intro w' hothers _ works hfits
  have hat := h.stable hothers
  obtain ⟨P', F', L', hat', hloaded, hlegacy, hholds⟩ := hnext w' works hat hfits.2
  refine ⟨fun hidle => ?_, fun j hj => hat.others hat' hloaded hlegacy hj, hholds⟩
  rw [hat'.running] at hidle
  exact nomatch hidle

theorem At.look {next : Session × Preferences → StoreProcess Result} (h : At i P F L w)
    (hnext : ∀ session w', At i P F L w' →
      Holds (protocol addresses) storeEffect i post (next (session, P)) w') :
    Holds (protocol addresses) storeEffect i post (ask .look >>= next) w :=
  h.act fun w' works hat _ => ⟨P, F, L, hat, id, id, by
    have hholds := hnext w'.session w' hat
    rw [← hat.preferences] at hholds
    exact hholds⟩

theorem At.changeSession {change : Session → Session} {next : Session → StoreProcess Result}
    (h : At i P F L w) (hnext : ∀ session w', At i P F L w' →
      Holds (protocol addresses) storeEffect i post (next session) w') :
    Holds (protocol addresses) storeEffect i post (ask (.changeSession change) >>= next) w :=
  h.act fun w' works hat _ => by
    have hat' : At i P F L { w' with session := change w'.session } :=
      ⟨hat.running, hat.preferences, hat.file, hat.legacy⟩
    exact ⟨P, F, L, hat', id, id, hnext _ _ hat'⟩

/-- The end of a part of a task. -/
theorem At.done {result : Result} (h : At i P F L w)
    (hpost : ∀ w', At i P F L w' → post result w') :
    Holds (protocol addresses) storeEffect i post (pure result) w :=
  fun w' hothers _ => hpost w' (h.stable hothers)

theorem InTask.done {result : Result} (h : InTask addresses i loaded forgotten w)
    (hpost : ∀ w', InTask addresses i loaded forgotten w' → post result w') :
    Holds (protocol addresses) storeEffect i post (pure result) w :=
  fun w' hothers _ => hpost w' (h.stable hothers)

/-- Writing the file: what was written is what is held, or nothing has changed. -/
theorem writePreferences_holds {provider : Option InferenceConnection} {models : Models}
    {gone : Bool} (h : At i P F L w) :
    Holds (protocol addresses) storeEffect i
      (fun result w' => match result with
        | .ok _ => At i ⟨P.connections, models, provider, true⟩
            (document provider models P.connections) L w'
        | .error _ => gone = false ∧ At i P F L w')
      (writePreferences provider models gone) w := by
  unfold writePreferences
  refine h.look fun _ w₁ h₁ => h₁.act fun w₂ works h₂ hkeeps => ?_
  cases works with
  | true =>
    refine ⟨P, document provider models P.connections, L,
      ⟨h₂.running, h₂.preferences, rfl, h₂.legacy⟩, id, id, ?_⟩
    refine At.act ⟨h₂.running, h₂.preferences, rfl, h₂.legacy⟩ fun w₃ _ h₃ _ => ?_
    have h₄ : At i ⟨P.connections, models, provider, true⟩
        (document provider models P.connections) L
        (storeEffect i (.settle provider models) true w₃).2 :=
      h₃.update fun preferences => { preferences with
        cachedPreferredProvider := provider, preferredModels := models, preferencesLoaded := true }
    exact ⟨_, _, _, h₄, fun _ => rfl, id, h₄.done fun _ hat => hat⟩
  | false =>
    exact ⟨P, F, L, h₂, id, id, h₂.done fun _ hat => ⟨hkeeps rfl, hat⟩⟩

/-! ### What the tasks leave -/

/-- Loading is given up only where nothing is loaded. -/
theorem abandonLoad_holds {α : Type} (h : At i P F L w) (hunloaded : P = ⟨[], [], none, false⟩) :
    Holds (protocol addresses) storeEffect i
      (fun result w' => result = .error () ∧ At i P F L w')
      (abandonLoad : StoreProcess (Outcome α)) w := by
  unfold abandonLoad
  refine h.act fun w₁ works h₁ _ => ?_
  have h₂ : At i P F L (storeEffect i .abandon works w₁).2 := by
    refine ⟨h₁.running, ?_, h₁.file, h₁.legacy⟩
    show w₁.preferences.cleared = P
    rw [h₁.preferences, hunloaded]
    rfl
  exact ⟨P, F, L, h₂, id, id, h₂.done fun _ hat => ⟨rfl, hat⟩⟩

theorem migrate_holds {forgotten : Bool} (h : At i ⟨[], [], none, false⟩ none L w)
    (hkept : Kept addresses ⟨[], [], none, false⟩ none L)
    (hforgotten : forgotten = true → L = none) :
    Holds (protocol addresses) storeEffect i (Loaded addresses i false forgotten)
      migrateLegacyPreferredProvider w := by
  have habandon : ∀ w', At i ⟨[], [], none, false⟩ none L w' →
      Holds (protocol addresses) storeEffect i (Loaded addresses i false forgotten)
        abandonLoad w' := fun w' hat =>
    (abandonLoad_holds hat rfl).mono fun result _ _ hresult => by
      obtain ⟨rfl, hat'⟩ := hresult
      exact .failed hat' hkept hforgotten
  unfold migrateLegacyPreferredProvider
  refine h.act fun w₁ works h₁ _ => ⟨_, _, _, h₁, id, id, ?_⟩
  cases works with
  | false => exact habandon _ h₁
  | true =>
    refine At.look h₁ fun _ w₂ h₂ => ?_
    simp only [h₁.legacy]
    cases hprovider : providerForId [] (L.getD "") with
    | none =>
      -- nothing to take over
      refine h₂.act fun w₃ _ h₃ _ => ?_
      have h₄ : At i ⟨[], [], none, true⟩ none L (storeEffect i .setLoaded true w₃).2 :=
        h₃.update fun preferences => { preferences with preferencesLoaded := true }
      refine ⟨_, _, _, h₄, fun _ => rfl, id, h₄.done fun _ hat => ?_⟩
      have hwritten : Kept addresses ⟨[], [], none, true⟩ (document none [] []) L :=
        .written hkept.wellFormed fun _ => hprovider
      exact .succeeded hat hwritten rfl hforgotten
    | some provider =>
      have hwell : WellFormed addresses [] (some provider) [] :=
        ⟨.nil, fun connection hfound => by
          rw [← Option.some.inj hfound]
          exact known_of_providerForId hprovider, .nil⟩
      refine Holds.bind ((writePreferences_holds h₂).mono fun result w₃ _ h₃ => ?_)
      cases result with
      | error => exact habandon _ h₃.2
      | ok =>
        refine At.act h₃ fun w₄ works h₄ hkeeps => ?_
        cases works with
        | false => exact nomatch (hkeeps rfl).1
        | true =>
          have h₅ : At i ⟨[], [], some provider, true⟩ (document (some provider) [] []) none
              (storeEffect i (.forgetLegacy true) true w₄).2 :=
            h₄.forget
          refine ⟨_, _, _, h₅, id, fun _ => rfl, At.act h₅ fun w₆ _ h₆ _ => ?_⟩
          have h₇ : At i ⟨[], [], some provider, true⟩ (document (some provider) [] []) none
              (storeEffect i .setLoaded true w₆).2 :=
            h₆.update fun preferences => { preferences with preferencesLoaded := true }
          refine ⟨_, _, _, h₇, id, id, h₇.done fun _ hat => ?_⟩
          have hwritten : Kept addresses ⟨[], [], some provider, true⟩
              (document (some provider) [] []) none :=
            .written hwell fun hnone => absurd hnone (document_some _ _ _)
          exact .succeeded hat hwritten rfl fun _ => rfl

/-- **Loading leaves the file and what is held in agreement.** -/
theorem loadPreferences_holds (h : InTask addresses i loaded forgotten w) :
    Holds (protocol addresses) storeEffect i (Loaded addresses i loaded forgotten)
      (loadPreferences addresses) w := by
  unfold loadPreferences
  refine h.at_.look fun _ w₁ h₁ => ?_
  dsimp only
  by_cases hloaded : w.preferences.preferencesLoaded = true
  · rw [if_pos hloaded]
    exact h₁.done fun _ hat => .succeeded hat h.kept hloaded h.forgotten
  · have hfresh := h.kept.unloaded (Bool.eq_false_iff.mpr hloaded)
    obtain rfl : loaded = false := Bool.eq_false_iff.mpr fun hflag => hloaded (h.loaded hflag)
    have hforgotten := h.forgotten
    have hkept := h.kept
    rw [if_neg hloaded]
    generalize w.preferences = P at *
    generalize w.file = F at *
    generalize w.secrets .preferredProvider = L at *
    subst hfresh
    have habandon : ∀ w', At i ⟨[], [], none, false⟩ F L w' →
        Holds (protocol addresses) storeEffect i (Loaded addresses i false forgotten)
          abandonLoad w' := fun w' hat =>
      (abandonLoad_holds hat rfl).mono fun result _ _ hresult => by
        obtain ⟨rfl, hat'⟩ := hresult
        exact .failed hat' hkept hforgotten
    refine h₁.act fun w₂ works h₂ _ => ⟨_, _, _, h₂, id, id, ?_⟩
    cases works with
    | false => exact habandon _ h₂
    | true =>
      simp only [storeEffect, if_true, h₂.file]
      cases F with
      | none => exact migrate_holds h₂ hkept hforgotten
      | some doc =>
        obtain ⟨loaded, hread, -⟩ := hkept.loads
        have hread : readDocument addresses [] doc = some loaded := hread
        have hwell := readDocument_wellFormed hread
        dsimp only
        rw [hread]
        refine At.act h₂ fun w₃ _ h₃ _ => ?_
        have h₄ : At i ⟨loaded.connections, loaded.models, loaded.provider, true⟩ (some doc) L
            (storeEffect i (.install loaded) true w₃).2 := by
          have hmodels : loaded.models.foldl (fun all entry => put all entry.1 entry.2) [] =
              loaded.models := foldl_put hwell.chosen.nodup
          have hinstalled := h₃.update fun preferences =>
            ⟨loaded.connections, loaded.models.foldl (fun all entry => put all entry.1 entry.2)
              preferences.preferredModels, loaded.provider, true⟩
          dsimp only at hinstalled
          rw [hmodels] at hinstalled
          exact hinstalled
        refine ⟨_, _, _, h₄, fun _ => rfl, id, h₄.done fun _ hat => ?_⟩
        exact .succeeded hat ⟨⟨loaded, hread, fun _ => ⟨fun _ => rfl, fun _ => rfl, rfl⟩⟩, hwell,
          fun h => by cases h⟩ rfl hforgotten

/-! ### The tasks -/

variable {loaded forgotten : Bool} {provider : InferenceConnection}

/-- The part of a save that writes. -/
theorem writePreferred_holds {models : Models} (h : At i P F L w) (hkept : Kept addresses P F L)
    (hloaded : loaded = true → P.preferencesLoaded = true)
    (hforgotten : forgotten = true → L = none) (hknown : Known P.connections provider)
    (hmodels : GoodModels P.connections models) :
    Holds (protocol addresses) storeEffect i (fun _ => InTask addresses i loaded forgotten)
      (writePreferences (some provider) models false >>= fun result =>
        match result with
        | .error _ => (pure (.error ()) : StoreProcess (Outcome Unit))
        | .ok _ => ask (.changeSession fun session =>
            { session with preferredProvider := some provider }) >>= fun _ => pure (.ok ())) w := by
  have hwell : WellFormed addresses P.connections (some provider) models :=
    ⟨hkept.wellFormed.good, fun connection hconnection => by
      rw [← Option.some.inj hconnection]
      exact hknown, hmodels⟩
  refine Holds.bind ((writePreferences_holds h).mono fun result w₁ _ h₁ => ?_)
  cases result with
  | error => exact h₁.2.done fun _ hat => hat.inTask hkept hloaded hforgotten
  | ok =>
    refine At.changeSession h₁ fun _ w₂ h₂ => h₂.done fun _ hat => ?_
    exact hat.inTask (.written hwell fun hnone => absurd hnone (document_some _ _ _))
      (fun _ => rfl) hforgotten

theorem savePreferredTask_holds {model : Option String}
    (hmodel : ∀ text, model = some text → validateModel text = some text)
    (h : InTask addresses i loaded forgotten w) :
    Holds (protocol addresses) storeEffect i (fun _ => InTask addresses i loaded forgotten)
      (savePreferredTask addresses provider model) w := by
  unfold savePreferredTask
  refine Holds.bind ((loadPreferences_holds h).mono fun result w₁ _ hload => ?_)
  cases result with
  | error => exact hload.1.anyway.done fun _ => id
  | ok preferred =>
    have htask := hload.1.anyway
    have hchosen := htask.kept.wellFormed.chosen
    refine htask.at_.act fun w₂ works h₂ hknown => ⟨_, _, _, h₂, id, id, ?_⟩
    -- the connection is there when its preference is saved
    have hknown : Known w₁.preferences.connections provider := by
      rw [← h₂.preferences]
      exact hknown
    simp only [storeEffect, h₂.preferences]
    cases model with
    | none =>
      exact writePreferred_holds h₂ htask.kept htask.loaded htask.forgotten hknown hchosen
    | some text =>
      exact writePreferred_holds h₂ htask.kept htask.loaded htask.forgotten hknown
        (hchosen.put hknown (hmodel text rfl))

theorem clearProviderTask_holds (h : InTask addresses i loaded forgotten w) :
    Holds (protocol addresses) storeEffect i
      (fun result => InTask addresses i loaded (forgotten || result.isOk))
      (clearProviderTask addresses provider) w := by
  unfold clearProviderTask
  refine Holds.bind ((loadPreferences_holds h).mono fun result w₁ _ hload => ?_)
  cases result with
  | error =>
    refine hload.1.anyway.done fun _ htask => ?_
    rw [show (Except.error () : Outcome Unit).isOk = false from rfl, Bool.or_false]
    exact htask
  | ok preferred =>
    have htask := hload.1
    obtain rfl := hload.2 preferred rfl
    have hwell : WellFormed addresses w₁.preferences.connections
        (if w₁.preferences.cachedPreferredProvider = some provider then none
          else w₁.preferences.cachedPreferredProvider)
        (remove w₁.preferences.preferredModels provider) := by
      refine ⟨htask.kept.wellFormed.good, fun connection hconnection => ?_,
        htask.kept.wellFormed.chosen.remove provider⟩
      split_ifs at hconnection
      exact htask.kept.wellFormed.preferred connection hconnection
    refine htask.at_.look fun _ w₂ h₂ => ?_
    refine Holds.bind ((writePreferences_holds h₂).mono fun result w₃ _ h₃ => ?_)
    cases result with
    | error =>
      refine h₃.2.done fun _ hat => ?_
      rw [show (Except.error () : Outcome Unit).isOk = false from rfl, Bool.or_false]
      exact hat.inTask htask.kept htask.anyway.loaded htask.forgotten
    | ok =>
      refine At.act h₃ fun w₄ works h₄ hkeeps => ?_
      cases works with
      | true =>
        refine ⟨_, _, _, h₄.forget, id, fun _ => rfl, ?_⟩
        refine At.changeSession h₄.forget fun _ w₅ h₅ => h₅.done fun _ hat => ?_
        exact hat.inTask (.written hwell fun _ => by rfl) (fun _ => rfl) fun _ => rfl
      | false =>
        refine ⟨_, _, _, h₄, id, id, h₄.done fun _ hat => ?_⟩
        rw [show (Except.error () : Outcome Unit).isOk = false from rfl, Bool.or_false]
        refine hat.inTask (.written hwell fun hnone => ?_) (fun _ => rfl) htask.forgotten
        have hread := (hkeeps rfl).2 (h₄.file.trans hnone)
        rw [h₄.legacy] at hread
        exact hread

variable {connection : InferenceConnection}

theorem addConnectionTask_holds (hgood : GoodConnection addresses connection)
    (h : InTask addresses i loaded forgotten w) :
    Holds (protocol addresses) storeEffect i (fun _ => InTask addresses i loaded forgotten)
      (addConnectionTask addresses connection) w := by
  unfold addConnectionTask
  refine Holds.bind ((loadPreferences_holds h).mono fun result w₁ _ hload => ?_)
  cases result with
  | error => exact hload.1.anyway.done fun _ => id
  | ok preferred =>
    have htask := hload.1.anyway
    refine htask.at_.act fun w₂ works h₂ hnew => ?_
    have hnew : connection.id ∉ w₁.preferences.connections.map Prod.fst := by
      rw [← h₂.preferences]
      exact hnew
    have hadded := h₂.update fun preferences =>
      { preferences with connections := put preferences.connections connection.id connection }
    have hanswer : (storeEffect i (.putConnection connection) works w₂).1 = w₁.preferences :=
      h₂.preferences
    refine ⟨_, _, _, hadded, id, id, ?_⟩
    rw [hanswer]
    refine Holds.bind ((writePreferences_holds hadded).mono fun result w₃ _ h₃ => ?_)
    cases result with
    | ok =>
      refine At.done h₃ fun _ hat => ?_
      exact hat.inTask (.written (htask.kept.wellFormed.add hgood hnew) fun hnone =>
        absurd hnone (document_some _ _ _)) (fun _ => rfl) htask.forgotten
    | error =>
      -- what was put in is taken out
      refine At.act h₃.2 fun w₄ works h₄ _ => ?_
      have hundone := h₄.update fun preferences =>
        { preferences with connections := remove preferences.connections connection.id }
      dsimp only at hundone
      rw [remove_put_of_not_mem hnew] at hundone
      exact ⟨_, _, _, hundone, id, id, hundone.done fun _ hat =>
        hat.inTask htask.kept htask.loaded htask.forgotten⟩

theorem removeConnectionTask_holds (h : InTask addresses i true true w) :
    Holds (protocol addresses) storeEffect i (fun _ => InTask addresses i true true)
      (removeConnectionTask connection) w := by
  unfold removeConnectionTask
  have hloaded := h.loaded rfl
  have hforgotten := h.forgotten rfl
  refine h.at_.act fun w₁ works h₁ hkeeps => ?_
  have hkeeps : (∀ provider ∈ w.preferences.cachedPreferredProvider,
      provider.id ≠ connection.id) ∧
      ∀ entry ∈ w.preferences.preferredModels, entry.1.id ≠ connection.id := by
    rw [← h₁.preferences]
    exact hkeeps
  have hdropped := h₁.update fun preferences =>
    { preferences with connections := remove preferences.connections connection.id }
  have hanswer : (storeEffect i (.dropConnection connection) works w₁).1 = w.preferences :=
    h₁.preferences
  refine ⟨_, _, _, hdropped, id, id, ?_⟩
  rw [hanswer]
  refine Holds.bind ((writePreferences_holds hdropped).mono fun result w₂ _ h₂ => ?_)
  cases result with
  | ok =>
    refine At.done h₂ fun _ hat => ?_
    refine hat.inTask (.written (h.kept.wellFormed.drop hkeeps.1 hkeeps.2) fun _ => ?_)
      (fun _ => rfl) fun _ => hforgotten
    rw [hforgotten]
    rfl
  | error =>
    -- the connection that was there is put back
    have hthere : lookup w.preferences.connections connection.id = some connection := by
      have hgone := h₂.1
      rwa [bne_eq_false_iff_eq] at hgone
    refine At.act h₂.2 fun w₃ works h₃ _ => ?_
    have hrestored := h₃.update fun preferences =>
      { preferences with connections := put preferences.connections connection.id connection }
    refine ⟨_, _, _, hrestored, id, id, hrestored.done fun _ hat => ?_⟩
    exact hat.inTask (h.kept.restored hthere) h.loaded h.forgotten

end AiCredentials

end Hivra
