import Hivra.Host.PreferenceTasks

namespace Hivra

open Replay OrderedMap Processes

/-!
# The preferences of overlapping calls

Tasks run one after the other, but what a task is about was decided before it.
-/

namespace AiCredentials

variable {ι : Type}

/-! ### Runs of calls -/

inductive StoreCall
  | addConnection (name : String) (protocol : InferenceProtocol) (baseUrl model : String)
      (requiresApiKey : Bool) (random : ByteString.Bytes 16)
  | removeConnection (id : String)
  | saveApiKey (provider : InferenceConnection) (apiKey : String)
  | clearApiKey (provider : InferenceConnection)
  | saveBaseUrl (provider : InferenceConnection) (baseUrl : String)
  | clearBaseUrl (provider : InferenceConnection)
  | savePreferredProvider (provider : InferenceConnection) (model : Option String)
  | loadPreferredProvider
  | unlockProviderSession (provider : InferenceConnection)
  | unlockPreferredProviderSession
  | lockSession

def StoreCall.process (addresses : Addresses) : StoreCall → StoreProcess (Outcome Unit)
  | .addConnection name protocol baseUrl model requiresApiKey random =>
    AiCredentials.addConnection addresses name protocol baseUrl model requiresApiKey random
  | .removeConnection id => AiCredentials.removeConnection addresses id
  | .saveApiKey provider apiKey => AiCredentials.saveApiKey addresses provider apiKey
  | .clearApiKey provider => AiCredentials.clearApiKey addresses provider
  | .saveBaseUrl provider baseUrl => AiCredentials.saveBaseUrl addresses provider baseUrl
  | .clearBaseUrl provider => AiCredentials.clearBaseUrl addresses provider
  | .savePreferredProvider provider model =>
    AiCredentials.savePreferredProvider addresses provider model
  | .loadPreferredProvider => do
    match ← AiCredentials.loadPreferredProvider addresses with
    | .error _ => return .error ()
    | .ok _ => return .ok ()
  | .unlockProviderSession provider => AiCredentials.unlockProviderSession addresses provider
  | .unlockPreferredProviderSession => AiCredentials.unlockPreferredProviderSession addresses
  | .lockSession => AiCredentials.lockSession

abbrev StoreState (ι : Type) := State (StoreWorld ι) ι StoreAction StoreAnswer (Outcome Unit)

/-- The app starts: nothing is loaded, and the calls are still to come. -/
def StoreState.start (addresses : Addresses) (file : Option PreferenceDocument)
    (secrets : SecretKey → Option String) (calls : ι → StoreCall) : StoreState ι where
  world :=
    { session := .locked
      preferences := ⟨[], [], none, false⟩
      file := file
      secrets := secrets
      waiting := []
      running := none }
  calls := fun i => (calls i).process addresses

variable {addresses : Addresses} {i : ι} {Result : Type} {post : Result → StoreWorld ι → Prop}
  {w w' : StoreWorld ι} {loaded forgotten : Bool} [DecidableEq ι]

/-! ### The calls -/

theorem Out.done {result : Result} (h : Out i loaded forgotten w)
    (hpost : ∀ w', Out i loaded forgotten w' → post result w') :
    Holds (protocol addresses) storeEffect i post (pure result) w :=
  fun w' hothers _ => hpost w' (h.stable hothers)

/-- The actions that a call may take outside of a task. -/
def Private : StoreAction → Prop
  | .look | .changeSession _ | .enqueue | .readSecret _ => True
  | .writeSecret key _ | .deleteSecret key => key ≠ .preferredProvider
  | _ => False

theorem private_frame {action : StoreAction} (h : Private action) (works : Bool)
    (w : StoreWorld ι) :
    (storeEffect i action works w).2.running = w.running ∧
      (storeEffect i action works w).2.preferences = w.preferences ∧
      (storeEffect i action works w).2.file = w.file ∧
      (storeEffect i action works w).2.secrets .preferredProvider =
        w.secrets .preferredProvider := by
  cases action with
  | writeSecret key value =>
    cases works with
    | true => exact ⟨rfl, rfl, rfl, Function.update_of_ne (Ne.symm h) ..⟩
    | false => exact ⟨rfl, rfl, rfl, rfl⟩
  | deleteSecret key =>
    cases works with
    | true => exact ⟨rfl, rfl, rfl, Function.update_of_ne (Ne.symm h) ..⟩
    | false => exact ⟨rfl, rfl, rfl, rfl⟩
  | look | changeSession | enqueue | readSecret => exact ⟨rfl, rfl, rfl, rfl⟩
  | _ => exact h.elim

/-- Outside of its task a call does nothing that another one sees. -/
theorem Out.act (h : Out i loaded forgotten w) (action : StoreAction)
    {next : StoreAnswer action → StoreProcess Result} (haction : Private action)
    (hnext : ∀ answer w', Out i loaded forgotten w' →
      Holds (protocol addresses) storeEffect i post (next answer) w') :
    Holds (protocol addresses) storeEffect i post (ask action >>= next) w := by
  intro w' hothers hinv works _
  have hout := h.stable hothers
  obtain ⟨hrunning, hpreferences, hfile, hlegacy⟩ := private_frame (i := i) haction works w'
  refine ⟨fun hidle => ?_, fun j _ => ⟨?_, fun _ => ⟨hpreferences, hfile, hlegacy⟩, ?_, ?_⟩,
    hnext _ _ ⟨?_, ?_, ?_⟩⟩
  · rw [hpreferences, hfile, hlegacy]
    exact hinv (hrunning.symm.trans hidle)
  · rw [hrunning]
  · rw [hpreferences]
    exact id
  · rw [hlegacy]
    exact id
  · rw [hrunning]
    exact hout.running
  · rw [hpreferences]
    exact hout.loaded
  · rw [hlegacy]
    exact hout.forgotten

variable {next : Unit → StoreProcess Result}

/-- A task begins where no other one runs. -/
theorem Out.enter (h : Out i loaded forgotten w)
    (hnext : ∀ w', InTask addresses i loaded forgotten w' →
      Holds (protocol addresses) storeEffect i post (next ()) w') :
    Holds (protocol addresses) storeEffect i post (ask .enter >>= next) w := by
  intro w' hothers hinv works hfits
  have hout := h.stable hothers
  have hidle : w'.running = none := hfits.1.1
  refine ⟨fun hnone => (nomatch hnone), fun j hj => ⟨?_, fun hrunning => ?_, id, id⟩,
    hnext _ ⟨rfl, hinv hidle, hout.loaded, hout.forgotten⟩⟩
  · show some i = some j ↔ w'.running = some j
    rw [hidle]
    exact iff_of_false (fun heq => hj (Option.some.inj heq).symm) (fun heq => nomatch heq)
  · rw [hidle] at hrunning
    exact nomatch hrunning

/-- A task ends and leaves the file as it should be. -/
theorem InTask.leave (h : InTask addresses i loaded forgotten w)
    (hnext : ∀ w', Out i loaded forgotten w' →
      Holds (protocol addresses) storeEffect i post (next ()) w') :
    Holds (protocol addresses) storeEffect i post (ask .leave >>= next) w := by
  intro w' hothers _ works _
  have htask := h.stable hothers
  refine ⟨fun _ => htask.kept, fun j hj => ⟨?_, fun hrunning => ?_, id, id⟩,
    hnext _ ⟨fun hrunning => (nomatch hrunning), htask.loaded, htask.forgotten⟩⟩
  · show none = some j ↔ w'.running = some j
    rw [htask.running]
    exact iff_of_false (fun heq => nomatch heq) (fun heq => hj (Option.some.inj heq).symm)
  · rw [htask.running] at hrunning
    exact absurd (Option.some.inj hrunning).symm hj

/-- **A task that leaves the file as it should be is a call that does.** -/
theorem serialize_holds {α : Type} {task : StoreProcess (Outcome α)}
    (loaded' forgotten' : Outcome α → Bool) (h : Out i loaded forgotten w)
    (htask : ∀ w', InTask addresses i loaded forgotten w' →
      Holds (protocol addresses) storeEffect i
        (fun result => InTask addresses i (loaded' result) (forgotten' result)) task w') :
    Holds (protocol addresses) storeEffect i
      (fun result => Out i (loaded' result) (forgotten' result)) (serializePreferences task) w := by
  unfold serializePreferences
  refine h.act .enqueue trivial fun _ w₁ h₁ => h₁.enter fun w₂ h₂ => ?_
  refine Holds.bind ((htask w₂ h₂).mono fun result w₃ _ h₃ => ?_)
  exact h₃.leave fun w₄ h₄ => h₄.done fun _ => id

-- what holds of a call is shown by the rules from here on
attribute [local irreducible] Holds

theorem loadPreferredProvider_holds (h : Out i loaded forgotten w) :
    Holds (protocol addresses) storeEffect i
      (fun result => Out i (loaded || result.isOk) forgotten) (loadPreferredProvider addresses)
      w :=
  serialize_holds (fun result => loaded || result.isOk) (fun _ => forgotten) h fun _ htask =>
    (loadPreferences_holds htask).mono fun _ _ _ hload => hload.1

theorem keyForProvider_ne (provider : InferenceConnection) :
    keyForProvider provider ≠ .preferredProvider := by
  unfold keyForProvider
  split_ifs <;> exact fun h => nomatch h

variable {provider : InferenceConnection}

theorem baseUrlKeyForProvider_ne {key : SecretKey} (h : baseUrlKeyForProvider provider = some key) :
    key ≠ .preferredProvider := by
  unfold baseUrlKeyForProvider at h
  split_ifs at h <;> · obtain rfl := Option.some.inj h; exact fun h => nomatch h

theorem savePreferredProvider_holds {model : Option String} (h : Out i loaded forgotten w) :
    Holds (protocol addresses) storeEffect i (fun _ => Out i loaded forgotten)
      (savePreferredProvider addresses provider model) w := by
  unfold savePreferredProvider
  cases model with
  | none =>
    exact serialize_holds _ _ h fun _ htask =>
      savePreferredTask_holds (fun _ hnone => nomatch hnone) htask
  | some model =>
    dsimp only
    cases hmodel : validateModel model with
    | none => exact h.done fun _ => id
    | some normalized =>
      refine serialize_holds _ _ h fun _ htask =>
        savePreferredTask_holds (fun text htext => ?_) htask
      rw [← Option.some.inj htext]
      exact validateModel_validateModel hmodel

theorem saveApiKey_holds {apiKey : String} (h : Out i loaded forgotten w) :
    Holds (protocol addresses) storeEffect i (fun _ => Out i loaded forgotten)
      (saveApiKey addresses provider apiKey) w := by
  have hsave : ∀ w', Out i loaded forgotten w' →
      Holds (protocol addresses) storeEffect i (fun _ => Out i loaded forgotten)
        (ask (.changeSession (setApiKey provider (trimmed apiKey))) >>= fun _ =>
          savePreferredProvider addresses provider none) w' := fun w' hout =>
    hout.act (.changeSession _) trivial fun _ _ => savePreferredProvider_holds
  unfold saveApiKey
  dsimp only
  refine Holds.ite (fun _ => ?_) fun _ => ?_
  · exact h.done fun _ => id
  refine h.act (.readSecret _) trivial fun existing w₁ h₁ => ?_
  cases existing with
  | none => exact h₁.done fun _ => id
  | some existing =>
    dsimp only
    refine Holds.ite (fun _ => ?_) fun _ => ?_
    · exact hsave _ h₁
    refine h₁.act (.writeSecret _ _) (keyForProvider_ne provider) fun works w₂ h₂ => ?_
    cases works with
    | false => exact h₂.done fun _ => id
    | true =>
      refine h₂.act (.readSecret _) trivial fun stored w₃ h₃ => ?_
      cases stored with
      | none => exact h₃.done fun _ => id
      | some stored =>
        dsimp only
        refine Holds.ite (fun _ => ?_) fun _ => ?_
        · exact hsave _ h₃
        · exact h₃.done fun _ => id

theorem clearProvider_holds (h : Out i loaded forgotten w) :
    Holds (protocol addresses) storeEffect i
      (fun result => Out i loaded (forgotten || result.isOk))
      (serializePreferences (clearProviderTask addresses provider)) w :=
  serialize_holds (fun _ => loaded) (fun result => forgotten || result.isOk) h
    fun _ => clearProviderTask_holds

theorem clearApiKey_holds (h : Out i loaded forgotten w) :
    Holds (protocol addresses) storeEffect i
      (fun result => Out i loaded (forgotten || result.isOk)) (clearApiKey addresses provider)
      w := by
  unfold clearApiKey
  refine h.act (.changeSession _) trivial fun _ w₁ h₁ => ?_
  refine h₁.act (.deleteSecret _) (keyForProvider_ne provider) fun works w₂ h₂ => ?_
  cases works with
  | true => exact clearProvider_holds h₂
  | false =>
    refine h₂.done fun _ hout => ?_
    rw [show (Except.error () : Outcome Unit).isOk = false from rfl, Bool.or_false]
    exact hout

theorem saveBaseUrl_holds {baseUrl : String} (h : Out i loaded forgotten w) :
    Holds (protocol addresses) storeEffect i (fun _ => Out i loaded forgotten)
      (saveBaseUrl addresses provider baseUrl) w := by
  unfold saveBaseUrl
  dsimp only
  cases hkey : baseUrlKeyForProvider provider with
  | none => exact h.done fun _ => id
  | some key =>
    dsimp only
    refine Holds.ite (fun _ => ?_) fun _ => ?_
    · exact h.done fun _ => id
    refine h.act (.writeSecret _ _) (baseUrlKeyForProvider_ne hkey) fun works w₁ h₁ => ?_
    cases works with
    | false => exact h₁.done fun _ => id
    | true =>
      refine h₁.act (.readSecret _) trivial fun stored w₂ h₂ => ?_
      cases stored with
      | none => exact h₂.done fun _ => id
      | some stored =>
        dsimp only
        refine Holds.ite (fun _ => ?_) fun _ => ?_
        · exact h₂.act (.changeSession _) trivial fun _ _ => savePreferredProvider_holds
        · exact h₂.done fun _ => id

theorem clearBaseUrl_holds (h : Out i loaded forgotten w) :
    Holds (protocol addresses) storeEffect i (fun _ => Out i loaded forgotten)
      (clearBaseUrl addresses provider) w := by
  unfold clearBaseUrl
  refine h.act (.changeSession _) trivial fun _ w₁ h₁ => ?_
  cases hkey : baseUrlKeyForProvider provider with
  | none => exact h₁.done fun _ => id
  | some key =>
    refine h₁.act (.deleteSecret _) (baseUrlKeyForProvider_ne hkey) fun works w₂ h₂ => ?_
    cases works with
    | true => exact (clearProvider_holds h₂).mono fun _ _ _ hout => hout.ofForgotten
    | false => exact h₂.done fun _ => id

theorem addConnection_holds {name : String} {kind : InferenceProtocol} {baseUrl model : String}
    {requiresApiKey : Bool} {random : ByteString.Bytes 16} (h : Out i loaded forgotten w) :
    Holds (protocol addresses) storeEffect i (fun _ => Out i loaded forgotten)
      (addConnection addresses name kind baseUrl model requiresApiKey random) w := by
  unfold addConnection
  cases hnew : newConnection addresses name kind baseUrl model requiresApiKey random with
  | none => exact h.done fun _ => id
  | some connection =>
    exact serialize_holds _ _ h fun _ => addConnectionTask_holds (good_of_newConnection hnew)

theorem removeConnection_holds {id : String} (h : Out i loaded forgotten w) :
    Holds (protocol addresses) storeEffect i (fun _ => Out i false false)
      (removeConnection addresses id) w := by
  unfold removeConnection
  refine Holds.bind ((loadPreferredProvider_holds h).mono fun result w₁ _ h₁ => ?_)
  cases result with
  | error => exact h₁.done fun _ hout => hout.nothing
  | ok preferred =>
    have hloaded : Out i true forgotten w₁ :=
      ⟨h₁.running, fun _ => h₁.loaded (Bool.or_true _), h₁.forgotten⟩
    refine hloaded.act .look trivial fun answer w₂ h₂ => ?_
    dsimp only
    cases lookup answer.2.connections id with
    | none => exact h₂.done fun _ hout => hout.nothing
    | some connection =>
      refine h₂.act (.changeSession _) trivial fun _ w₃ h₃ => ?_
      refine Holds.bind ((clearApiKey_holds h₃).mono fun result w₄ _ h₄ => ?_)
      cases result with
      | error => exact h₄.done fun _ hout => hout.nothing
      | ok =>
        -- the older preferred provider is deleted by now
        have hforgotten : Out i true true w₄ :=
          ⟨h₄.running, h₄.loaded, fun _ => h₄.forgotten (Bool.or_true _)⟩
        exact (serialize_holds _ _ hforgotten fun _ => removeConnectionTask_holds).mono
          fun _ _ _ hout => hout.nothing

theorem loadApiKey_holds (h : Out i loaded forgotten w) :
    Holds (protocol addresses) storeEffect i (fun _ => Out i loaded forgotten)
      (loadApiKey provider) w := by
  have hread : ∀ w', Out i loaded forgotten w' →
      Holds (protocol addresses) storeEffect i (fun _ => Out i loaded forgotten)
        (loadApiKey.readApiKey provider) w' := by
    intro w' hout
    unfold loadApiKey.readApiKey
    refine hout.act (.readSecret _) trivial fun stored w₁ h₁ => ?_
    cases stored with
    | none => exact h₁.done fun _ => id
    | some stored =>
      dsimp only
      refine Holds.ite (fun _ => ?_) fun _ => ?_
      · exact h₁.done fun _ => id
      · exact h₁.act (.changeSession _) trivial fun _ _ h₂ => h₂.done fun _ => id
  unfold loadApiKey
  refine h.act .look trivial fun answer w₁ h₁ => ?_
  dsimp only
  cases answer.1.apiKeys provider with
  | none => exact hread w₁ h₁
  | some cached =>
    dsimp only
    refine Holds.ite (fun _ => ?_) fun _ => ?_
    · exact h₁.done fun _ => id
    · exact hread w₁ h₁

theorem loadBaseUrl_holds (h : Out i loaded forgotten w) :
    Holds (protocol addresses) storeEffect i (fun _ => Out i loaded forgotten)
      (loadBaseUrl provider) w := by
  have hread : ∀ w', Out i loaded forgotten w' →
      Holds (protocol addresses) storeEffect i (fun _ => Out i loaded forgotten)
        (loadBaseUrl.readBaseUrl provider) w' := by
    intro w' hout
    unfold loadBaseUrl.readBaseUrl
    cases baseUrlKeyForProvider provider with
    | none => exact hout.done fun _ => id
    | some key =>
      refine hout.act (.readSecret _) trivial fun stored w₁ h₁ => ?_
      cases stored with
      | none => exact h₁.done fun _ => id
      | some stored =>
        dsimp only
        refine Holds.ite (fun _ => ?_) fun _ => ?_
        · exact h₁.done fun _ => id
        · exact h₁.act (.changeSession _) trivial fun _ _ h₂ => h₂.done fun _ => id
  unfold loadBaseUrl
  refine Holds.ite (fun _ => ?_) fun _ => ?_
  · exact h.done fun _ => id
  refine h.act .look trivial fun answer w₁ h₁ => ?_
  dsimp only
  cases answer.1.baseUrls provider with
  | none => exact hread w₁ h₁
  | some cached =>
    dsimp only
    refine Holds.ite (fun _ => ?_) fun _ => ?_
    · exact h₁.done fun _ => id
    · exact hread w₁ h₁

theorem unlockProviderSession_holds (h : Out i loaded forgotten w) :
    Holds (protocol addresses) storeEffect i (fun _ => Out i loaded forgotten)
      (unlockProviderSession addresses provider) w := by
  unfold unlockProviderSession
  refine Holds.bind ((loadPreferredProvider_holds h).mono fun result w₁ _ h₁ => ?_)
  cases result with
  | error => exact h₁.ofLoaded.done fun _ => id
  | ok preferred =>
    refine Holds.bind ((loadApiKey_holds h₁.ofLoaded).mono fun apiKey w₂ _ h₂ => ?_)
    cases apiKey with
    | error => exact h₂.done fun _ => id
    | ok apiKey =>
      dsimp only
      refine Holds.ite (fun _ => ?_) fun _ => ?_
      · exact h₂.done fun _ => id
      refine Holds.bind ((loadBaseUrl_holds h₂).mono fun baseUrl w₃ _ h₃ => ?_)
      cases baseUrl with
      | error => exact h₃.done fun _ => id
      | ok baseUrl =>
        dsimp only
        refine Holds.ite (fun _ => ?_) fun _ => ?_
        · exact h₃.done fun _ => id
        · exact h₃.act (.changeSession _) trivial fun _ _ h₄ => h₄.done fun _ => id

/-- **What is proved for each call.** -/
theorem storeCall_holds (call : StoreCall) (h : w.running ≠ some i) :
    Holds (protocol addresses) storeEffect i (fun _ w' => w'.running ≠ some i)
      (call.process addresses) w := by
  have hout : Out i false false w := ⟨h, fun h => (nomatch h), fun h => (nomatch h)⟩
  have hcall : Holds (protocol addresses) storeEffect i (fun _ => Out i false false)
      (call.process addresses) w := by
    unfold StoreCall.process
    cases call with
    | addConnection => exact addConnection_holds hout
    | removeConnection => exact removeConnection_holds hout
    | saveApiKey => exact saveApiKey_holds hout
    | clearApiKey => exact (clearApiKey_holds hout).mono fun _ _ _ hout => hout.nothing
    | saveBaseUrl => exact saveBaseUrl_holds hout
    | clearBaseUrl => exact clearBaseUrl_holds hout
    | savePreferredProvider => exact savePreferredProvider_holds hout
    | loadPreferredProvider =>
      refine Holds.bind ((loadPreferredProvider_holds hout).mono fun result w₁ _ h₁ => ?_)
      cases result <;> exact h₁.done fun _ hout => hout.nothing
    | unlockProviderSession => exact unlockProviderSession_holds hout
    | unlockPreferredProviderSession =>
      refine Holds.bind ((loadPreferredProvider_holds hout).mono fun result w₁ _ h₁ => ?_)
      cases result with
      | error => exact h₁.done fun _ hout => hout.nothing
      | ok => exact unlockProviderSession_holds h₁.nothing
    | lockSession =>
      exact hout.act (.changeSession _) trivial fun _ _ h₁ => h₁.done fun _ => id
  exact hcall.mono fun _ _ _ hout => hout.running

/-! ### Every run -/

/-- **Each call keeps what the file is for**, whatever the others do. -/
theorem sound_start {file : Option PreferenceDocument} {secrets : SecretKey → Option String}
    {calls : ι → StoreCall}
    (h : Reloads addresses (StoreState.start addresses file secrets calls).world) :
    Sound (protocol addresses) storeEffect (fun i _ w => w.running ≠ some i)
      (StoreState.start addresses file secrets calls) where
  inv _ := by
    obtain ⟨loaded, hload, -⟩ := reloads_iff.mp h
    exact ⟨⟨loaded, hload, fun h => (nomatch h)⟩, ⟨.nil, fun _ h => (nomatch h), .nil⟩,
      fun _ => rfl⟩
  calls i := storeCall_holds (calls i) fun hrunning => nomatch hrunning

/-- **The file is kept loadable.**  In every run in which a preference is saved for a connection
    that is there and a connection is dropped that is not named, and in which what fails is of no
    consequence, a store that starts afresh has what the running one holds whenever no task runs;
    and none runs once the calls are over. -/
theorem reloads_run {file : Option PreferenceDocument} {secrets : SecretKey → Option String}
    {calls : ι → StoreCall}
    (hstart : Reloads addresses (StoreState.start addresses file secrets calls).world)
    {events : List (Processes.Event Bool ι)}
    (hscheduled : Along (step storeEffect) (Meets Scheduled)
      (StoreState.start addresses file secrets calls) events)
    (hkeeps : Along (step storeEffect) (Meets fun world _ => KeepsFile world)
      (StoreState.start addresses file secrets calls) events) :
    let state := replay (step storeEffect) (StoreState.start addresses file secrets calls) events
    (state.world.running = none → Reloads addresses state.world) ∧
      ((∀ i, (state.calls i).result?.isSome = true) → state.world.running = none) := by
  intro state
  have hsound := holds_run (sound_start hstart) (along_meets_and hscheduled hkeeps)
  refine ⟨fun hidle => ?_, fun hover => ?_⟩
  · exact reloads_iff.mpr (hsound.inv hidle).loads
  · rw [Option.eq_none_iff_forall_ne_some]
    intro i hrunning
    obtain ⟨result, hresult⟩ := Option.isSome_iff_exists.mp (hover i)
    have hdone : state.calls i = .done result := by
      cases hcall : state.calls i with
      | done other =>
        rw [hcall] at hresult
        rw [Option.some.inj hresult]
      | act action next =>
        rw [hcall] at hresult
        exact nomatch hresult
    exact hsound.over hdone hrunning

/-! ### A save during a removal -/

/-- One address that is known. -/
def exampleAddresses : Addresses where
  validateBaseUrl text := if text = "https://example.com/v1" then some text else none
  isCloudflareBase _ := false
  idempotent text address h := by
    by_cases htext : text = "https://example.com/v1"
    · rw [if_pos htext] at h
      rw [← Option.some.inj h, if_pos htext, htext]
    · rw [if_neg htext] at h
      exact nomatch h

def exampleConnection : InferenceConnection where
  id := "connection_00112233445566778899aabbccddeeff"
  label := "Mine"
  defaultModel := "large"
  protocol := .chatCompletions
  baseUrl := some "https://example.com/v1"
  requiresApiKey := true

/-- A connection is saved, and its key. -/
abbrev exampleStart (calls : Bool → StoreCall) : StoreState Bool :=
  .start exampleAddresses (document none [] [(exampleConnection.id, exampleConnection)])
    (fun key => if key = .connectionApiKey exampleConnection.id then some "secret" else none) calls

/-- The key is saved again, and the connection is removed. -/
def saveAndRemove : Bool → StoreCall
  | false => .saveApiKey exampleConnection "secret"
  | true => .removeConnection exampleConnection.id

/-- The save has asked for the key that is stored when the connection is removed, and goes on when
    it is gone.  All that is asked outside works. -/
def staleSave : List (Processes.Event Bool Bool) :=
  ⟨false, true⟩ :: (List.replicate 40 ⟨true, true⟩ ++ List.replicate 20 ⟨false, true⟩)

theorem exampleStart_reloads (calls : Bool → StoreCall) :
    Reloads exampleAddresses (exampleStart calls).world := by
  have hload : freshLoad exampleAddresses
      (document none [] [(exampleConnection.id, exampleConnection)]) none =
        some ⟨[(exampleConnection.id, exampleConnection)], none, []⟩ := by decide +kernel
  exact reloads_iff.mpr ⟨_, hload, fun h => (nomatch h)⟩

/-- **A key that is saved while its connection is removed**: both calls succeed, and the file
    prefers a connection that it does not have. -/
theorem stale_save_not_loaded :
    Reloads exampleAddresses (exampleStart saveAndRemove).world ∧
      Along (step storeEffect) (Meets Scheduled) (exampleStart saveAndRemove) staleSave ∧
      let state := replay (step storeEffect) (exampleStart saveAndRemove) staleSave
      (∀ i, (state.calls i).result? = some (.ok ())) ∧ ¬ Reloads exampleAddresses state.world := by
  have hscheduled : Along (step storeEffect) (Meets Scheduled) (exampleStart saveAndRemove)
      staleSave := by decide +kernel
  have hover : ∀ i, ((replay (step storeEffect) (exampleStart saveAndRemove)
      staleSave).calls i).result? = some (.ok ()) := by decide +kernel
  have hrefused : freshLoad exampleAddresses
      (replay (step storeEffect) (exampleStart saveAndRemove) staleSave).world.file
      ((replay (step storeEffect) (exampleStart saveAndRemove)
        staleSave).world.secrets .preferredProvider) = none := by decide +kernel
  refine And.intro (exampleStart_reloads _) (And.intro hscheduled (And.intro hover ?_))
  rw [reloads_iff, hrefused]
  rintro ⟨loaded, hload, -⟩
  exact nomatch hload

/-- The connection is removed when its key was saved. -/
def savedThenRemoved : List (Processes.Event Bool Bool) :=
  List.replicate 20 ⟨false, true⟩ ++ List.replicate 40 ⟨true, true⟩

theorem saved_then_removed :
    Reloads exampleAddresses
      (replay (step storeEffect) (exampleStart saveAndRemove) savedThenRemoved).world := by
  have hscheduled : Along (step storeEffect) (Meets Scheduled) (exampleStart saveAndRemove)
      savedThenRemoved := by decide +kernel
  have hkeeps : Along (step storeEffect) (Meets fun world _ => KeepsFile world)
      (exampleStart saveAndRemove) savedThenRemoved := by decide +kernel
  have hreloads := reloads_run (exampleStart_reloads saveAndRemove) hscheduled hkeeps
  refine hreloads.1 ?_
  decide +kernel

end AiCredentials

end Hivra
