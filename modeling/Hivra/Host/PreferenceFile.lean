import Hivra.Host.PreferenceDocument

namespace Hivra

open Replay OrderedMap Processes

/-!
# A store that starts afresh has the preferences of the running one

A task loads the preferences before it changes them, and writes the whole file.  Other calls may
ask the secure storage meanwhile.

* `Kept`, `reloads_iff` — what is stored and what is held.
-/

namespace AiCredentials

variable {ι : Type}

/-- A store that starts afresh on what is stored. -/
def StoreWorld.restarted (world : StoreWorld ι) : StoreWorld Unit where
  session := .locked
  preferences := ⟨[], [], none, false⟩
  file := world.file
  secrets := world.secrets
  waiting := []
  running := none

/-- The same connections, chosen models and preferred connection. -/
structure Preferences.Same (preferences other : Preferences) : Prop where
  connections : ∀ id, lookup preferences.connections id = lookup other.connections id
  models : ∀ provider,
    lookup preferences.preferredModels provider = lookup other.preferredModels provider
  provider : preferences.cachedPreferredProvider = other.cachedPreferredProvider

/-- A store that starts afresh loads its preferences, and if the running one has loaded them it
    holds the same. -/
def Reloads (addresses : Addresses) (world : StoreWorld ι) : Prop :=
  ∃ provider fresh,
    (loadPreferences addresses).alone storeEffect () true world.restarted =
      (.ok provider, fresh) ∧
    fresh.preferences.cachedPreferredProvider = provider ∧
    (world.preferences.preferencesLoaded = true → world.preferences.Same fresh.preferences)

/-! ### Loading -/

/-- What a store that starts afresh loads. -/
def freshLoad (addresses : Addresses) (file : Option PreferenceDocument)
    (legacy : Option String) : Option LoadedPreferences :=
  match file with
  | some doc => readDocument addresses [] doc
  | none => some ⟨[], providerForId [] (legacy.getD ""), []⟩

/-- The preferences are the ones that were loaded. -/
structure Agrees (preferences : Preferences) (loaded : LoadedPreferences) : Prop where
  connections : ∀ id, lookup preferences.connections id = lookup loaded.connections id
  models : ∀ provider,
    lookup preferences.preferredModels provider = lookup loaded.models provider
  provider : preferences.cachedPreferredProvider = loaded.provider

theorem alone_ask [DecidableEq ι] {α : Type} (i : ι) (works : Bool) (action : StoreAction)
    (next : StoreAnswer action → StoreProcess α) (w : StoreWorld ι) :
    (ask action >>= next).alone storeEffect i works w =
      (next (storeEffect i action works w).1).alone storeEffect i works
        (storeEffect i action works w).2 := rfl

variable {world : StoreWorld ι}

/-- A store that starts afresh on a file. -/
theorem alone_loadPreferences_file (addresses : Addresses) {doc : PreferenceDocument}
    (hfile : world.file = some doc) :
    (loadPreferences addresses).alone storeEffect () true world.restarted =
      match readDocument addresses [] doc with
      | none => (.error (), world.restarted)
      | some loaded => (.ok loaded.provider,
          { world.restarted with
            preferences := ⟨loaded.connections,
              loaded.models.foldl (fun all entry => put all entry.1 entry.2) [],
              loaded.provider, true⟩ }) := by
  obtain ⟨session, preferences, file, secrets, waiting, running⟩ := world
  obtain rfl : file = some doc := hfile
  have hload : (loadPreferences addresses).alone storeEffect () true
      (StoreWorld.restarted ⟨session, preferences, some doc, secrets, waiting, running⟩) =
      Process.alone storeEffect () true
        (match readDocument addresses [] doc with
        | none => (abandonLoad : StoreProcess (Outcome (Option InferenceConnection)))
        | some loaded => ask (.install loaded) >>= fun _ => pure (.ok loaded.provider))
        (StoreWorld.restarted ⟨session, preferences, some doc, secrets, waiting, running⟩) := rfl
  rw [hload]
  cases readDocument addresses [] doc <;> rfl

/-- A store that starts afresh without a file takes over an older preferred provider. -/
theorem alone_loadPreferences_legacy (addresses : Addresses) (hfile : world.file = none) :
    ∃ fresh, (loadPreferences addresses).alone storeEffect () true world.restarted =
        (.ok (providerForId [] ((world.secrets .preferredProvider).getD "")), fresh) ∧
      fresh.preferences =
        ⟨[], [], providerForId [] ((world.secrets .preferredProvider).getD ""), true⟩ := by
  obtain ⟨session, preferences, file, secrets, waiting, running⟩ := world
  obtain rfl : file = none := hfile
  rw [loadPreferences, alone_ask]
  simp only [storeEffect, StoreWorld.restarted, Bool.false_eq_true, if_false]
  rw [alone_ask]
  simp only [storeEffect, if_true]
  rw [migrateLegacyPreferredProvider, alone_ask]
  simp only [storeEffect, if_true]
  rw [alone_ask]
  dsimp only [storeEffect]
  generalize providerForId [] ((secrets .preferredProvider).getD "") = provider
  cases provider with
  | none => exact ⟨_, rfl, rfl⟩
  | some provider => exact ⟨_, rfl, rfl⟩

variable {loaded : LoadedPreferences}

theorem Agrees.same {preferences : Preferences} (h : Agrees preferences loaded)
    {fresh : Preferences} (hfresh : Agrees fresh loaded) :
    preferences.Same fresh where
  connections id := (h.connections id).trans (hfresh.connections id).symm
  models provider := (h.models provider).trans (hfresh.models provider).symm
  provider := h.provider.trans hfresh.provider.symm

/-- What a store that starts afresh comes to. -/
theorem alone_loadPreferences {addresses : Addresses}
    (h : freshLoad addresses world.file (world.secrets .preferredProvider) = some loaded) :
    ∃ fresh, (loadPreferences addresses).alone storeEffect () true world.restarted =
        (.ok loaded.provider, fresh) ∧ Agrees fresh.preferences loaded := by
  cases hfile : world.file with
  | some doc =>
    rw [hfile] at h
    have hread : readDocument addresses [] doc = some loaded := h
    rw [alone_loadPreferences_file addresses hfile, hread]
    refine ⟨_, rfl, fun id => rfl, fun provider => ?_, rfl⟩
    dsimp only
    rw [foldl_put (readDocument_wellFormed hread).chosen.nodup, List.nil_append]
  | none =>
    rw [hfile] at h
    obtain rfl := Option.some.inj h
    obtain ⟨fresh, hload, hfresh⟩ := alone_loadPreferences_legacy addresses hfile
    refine ⟨fresh, hload, ?_⟩
    rw [hfresh]
    exact ⟨fun _ => rfl, fun _ => rfl, rfl⟩

theorem reloads_iff {addresses : Addresses} :
    Reloads addresses world ↔
      ∃ loaded, freshLoad addresses world.file (world.secrets .preferredProvider) = some loaded ∧
        (world.preferences.preferencesLoaded = true → Agrees world.preferences loaded) := by
  cases hload : freshLoad addresses world.file (world.secrets .preferredProvider) with
  | none =>
    cases hfile : world.file with
    | none =>
      rw [hfile] at hload
      exact nomatch hload
    | some doc =>
      rw [hfile] at hload
      have hread : readDocument addresses [] doc = none := hload
      unfold Reloads
      rw [alone_loadPreferences_file addresses hfile, hread]
      simp
  | some loaded =>
    obtain ⟨fresh, halone, hfresh⟩ := alone_loadPreferences hload
    constructor
    · rintro ⟨provider, other, hother, -, hsame⟩
      rw [halone, Prod.mk.injEq] at hother
      obtain ⟨-, rfl⟩ := hother
      refine ⟨loaded, rfl, fun hloaded => ?_⟩
      obtain ⟨hconnections, hmodels, hprovider⟩ := hsame hloaded
      exact ⟨fun id => (hconnections id).trans (hfresh.connections id),
        fun provider => (hmodels provider).trans (hfresh.models provider),
        hprovider.trans hfresh.provider⟩
    · rintro ⟨other, hother, hagrees⟩
      obtain rfl := Option.some.inj hother
      exact ⟨_, fresh, halone, hfresh.provider, fun hloaded => (hagrees hloaded).same hfresh⟩

/-! ### What each task leaves -/

/-- What each task leaves. -/
structure Kept (addresses : Addresses) (preferences : Preferences)
    (file : Option PreferenceDocument) (legacy : Option String) : Prop where
  loads : ∃ loaded, freshLoad addresses file legacy = some loaded ∧
    (preferences.preferencesLoaded = true → Agrees preferences loaded)
  wellFormed : WellFormed addresses preferences.connections preferences.cachedPreferredProvider
    preferences.preferredModels
  unloaded : preferences.preferencesLoaded = false → preferences = ⟨[], [], none, false⟩

variable {addresses : Addresses} {P : Preferences} {F : Option PreferenceDocument}
  {L : Option String}

/-- Well-formed preferences that are written are read from their file. -/
theorem Kept.written {connections : Connections} {provider : Option InferenceConnection}
    {models : Models} (h : WellFormed addresses connections provider models)
    (hlegacy : document provider models connections = none →
      providerForId [] (L.getD "") = none) :
    Kept addresses ⟨connections, models, provider, true⟩ (document provider models connections)
      L where
  loads := by
    cases hdoc : document provider models connections with
    | some doc =>
      exact ⟨_, readDocument_document h hdoc, fun _ => ⟨fun _ => rfl, fun _ => rfl, rfl⟩⟩
    | none =>
      -- without a file there is nothing to say, and no older version says anything
      refine ⟨_, rfl, fun _ => ?_⟩
      rw [hlegacy hdoc]
      unfold document at hdoc
      split_ifs at hdoc with hempty
      obtain ⟨rfl, rfl, rfl⟩ := hempty
      exact ⟨fun _ => rfl, fun _ => rfl, rfl⟩
  wellFormed := h
  unloaded h := nomatch h

/-- A connection that is taken out and put back is where it was, but for the order. -/
theorem Kept.restored {connection : InferenceConnection} (h : Kept addresses P F L)
    (hthere : lookup P.connections connection.id = some connection) :
    Kept addresses { P with
      connections := put (remove P.connections connection.id) connection.id connection } F L := by
  have hlookup : ∀ id,
      lookup (put (remove P.connections connection.id) connection.id connection) id =
        lookup P.connections id := by
    intro id
    rw [lookup_put, lookup_remove]
    by_cases hid : connection.id = id
    · rw [if_pos hid, ← hid, hthere]
    · rw [if_neg hid, if_neg (Ne.symm hid)]
  have hgood := (h.wellFormed.good.remove connection.id).put
    (h.wellFormed.good.good _ (mem_of_lookup hthere))
  have hknown : ∀ provider, Known P.connections provider →
      Known (put (remove P.connections connection.id) connection.id connection) provider := by
    intro provider hprovider
    rw [hgood.known_iff_lookup, hlookup]
    exact h.wellFormed.good.known_iff_lookup.mp hprovider
  obtain ⟨loaded, hload, hagrees⟩ := h.loads
  refine ⟨⟨loaded, hload, fun hloaded => ?_⟩, ?_, fun hunloaded => ?_⟩
  · obtain ⟨hconnections, hmodels, hprovider⟩ := hagrees hloaded
    exact ⟨fun id => (hlookup id).trans (hconnections id), hmodels, hprovider⟩
  · exact ⟨hgood, fun other hother => hknown _ (h.wellFormed.preferred other hother),
      fun entry hentry => hknown _ (h.wellFormed.chosen.known entry hentry),
      h.wellFormed.chosen.model, h.wellFormed.chosen.nodup⟩
  · rw [h.unloaded hunloaded] at hthere
    exact nomatch hthere

end AiCredentials

end Hivra
