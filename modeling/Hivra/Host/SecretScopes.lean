import Hivra.Host.SecretVault
import Hivra.Lib.JsonText
import Hivra.Lib.ScopedMap

namespace Hivra

open JsonText OrderedMap Replay

namespace CapsuleScopedSecretVault

/-!
# Scopes and their keys

A scope is found by its parts, joined by two colons.  An identifier may have colons as well, so
two scopes may have one key, and the secret of one is then taken for that of the other.
-/

/-- A secret of the owner, with the account drawn for it. -/
structure OwnerSecret where
  label : Option String
  value : Option String
  accountId : String

inductive Call
  | saveSecret (capsuleHex pluginId providerId accountId secretName secretValue : String)
  | addReferences (capsuleHex pluginId : String) (secrets : List OwnerSecret)
  | loadSecret (capsuleHex pluginId providerId accountId secretName : String)
  | listReferences (capsuleHex : String)
  | resolveReferences (capsuleHex : String) (references : List (String × String))
  | deleteAccount (capsuleHex pluginId providerId accountId : String)
  | deletePlugin (pluginId : String) (capsuleHexes : List String)
  | deleteCapsules (capsuleHexes : List String)

inductive Answer
  | done
  | references (references : List (String × String))
  | value (value : Option String)
  | values (values : List (String × String))
  deriving DecidableEq

/-- What a call saves, before it is checked. -/
def Call.updates : Call → List VaultEntry
  | .saveSecret capsuleHex pluginId providerId accountId secretName secretValue =>
    [{ scope := ⟨trimmedLower capsuleHex, trimmed pluginId, trimmed providerId, trimmed accountId,
         trimmed secretName⟩
       secretValue := trimmed secretValue
       label := none }]
  | .addReferences capsuleHex pluginId secrets =>
    secrets.map fun secret =>
      { scope := ⟨trimmedLower capsuleHex, trimmed pluginId, "owner", secret.accountId, "secret"⟩
        secretValue := (secret.value.map trimmed).getD ""
        label := secret.label.map trimmed }
  | _ => []

/-- The scopes a call removes, none where its arguments are invalid. -/
def Call.removal : Call → Option (VaultScope → Bool)
  | .deleteAccount capsuleHex pluginId providerId accountId =>
    match capsuleHexOf capsuleHex, identifier pluginId, identifier providerId,
        identifier accountId with
    | some capsuleHex, some pluginId, some providerId, some accountId =>
      some fun scope => scope.capsuleHex == capsuleHex && scope.pluginId == pluginId &&
        scope.providerId == providerId && scope.accountId == accountId
    | _, _, _, _ => none
  | .deletePlugin pluginId capsuleHexes =>
    match identifier pluginId, capsuleHexes.mapM capsuleHexOf with
    | some pluginId, some owners =>
      some fun scope => scope.pluginId == pluginId && owners.contains scope.capsuleHex
    | _, _ => none
  | .deleteCapsules capsuleHexes =>
    (capsuleHexes.mapM capsuleHexOf).map fun owners scope => owners.contains scope.capsuleHex
  | _ => some fun _ => false

section Runs

variable {Double : Type} (dart : DartViews Double)

def removeScopes (vault : Vault Double) (call : Call) (outcome : Outcome) :
    Option Answer × Vault Double :=
  match call.removal with
  | none => (none, vault)
  | some p =>
    let result := removeWhere dart vault p outcome
    (if result.1 then some .done else none, result.2)

/-- The values of the references, none where one of them is not that of the owner. -/
def resolved (entries : Entries) (owner : String) (references : List (String × String)) :
    Option (List (String × String)) :=
  references.mapM fun reference =>
    match lookup entries reference.2 with
    | none => none
    | some entry =>
      if entry.scope.capsuleHex ≠ owner then none else some (reference.1, entry.secretValue)

/-- The answer of a call and the vault as it leaves it; none where it throws. -/
def perform (vault : Vault Double) (call : Call) (outcome : Outcome) :
    Option Answer × Vault Double :=
  match call with
  | .saveSecret .. =>
    let result := saveEntries dart vault call.updates outcome
    (result.1.map fun _ => .done, result.2)
  | .addReferences _ _ secrets =>
    if secrets = [] ∨ 64 < secrets.length then (none, vault)
    else
      let result := saveEntries dart vault call.updates outcome
      (result.1.map .references, result.2)
  | .loadSecret capsuleHex pluginId providerId accountId secretName =>
    match scopeOf capsuleHex pluginId providerId accountId secretName with
    | none => (none, vault)
    | some scope =>
      match loadEntries dart vault outcome.readable with
      | none => (none, vault)
      | some entries =>
        (some (.value ((lookup entries scope.scopeKey).map VaultEntry.secretValue)),
          vault.remember entries)
  | .listReferences capsuleHex =>
    match capsuleHexOf capsuleHex, loadEntries dart vault outcome.readable with
    | some owner, some entries =>
      (some (.references (dart.sort (fun a b => decide (a.2 ≤ b.2))
        (((entries.map Prod.snd).filter fun entry => entry.scope.capsuleHex == owner).map
          VaultEntry.reference))), vault.remember entries)
    | _, _ => (none, vault)
  | .resolveReferences capsuleHex references =>
    match capsuleHexOf capsuleHex, loadEntries dart vault outcome.readable with
    | some owner, some entries =>
      ((resolved entries owner references).map .values, vault.remember entries)
    | _, _ => (none, vault)
  | .deletePlugin _ capsuleHexes =>
    -- without a capsule the vault is not even read
    if capsuleHexes = [] then (call.removal.map fun _ => .done, vault)
    else removeScopes dart vault call outcome
  | .deleteAccount .. => removeScopes dart vault call outcome
  | .deleteCapsules _ => removeScopes dart vault call outcome

/-! ### What the calls say -/

/-- The vault, the secrets as the calls say, and the scopes that have been saved so far. -/
structure Tracked (Double : Type) where
  vault : Vault Double
  saved : VaultScope → Option VaultEntry
  issued : List VaultScope

def Tracked.start : Tracked Double := ⟨⟨none, none⟩, fun _ => none, []⟩

/-- The secrets once a call has returned. -/
def Call.effect (call : Call) (saved : VaultScope → Option VaultEntry) :
    VaultScope → Option VaultEntry :=
  let removed : VaultScope → Option VaultEntry := fun scope =>
    if (call.removal.getD fun _ => false) scope then none else saved scope
  call.updates.foldl (fun saved entry => Function.update saved entry.scope (some entry)) removed

/-- A call, or the process starts again. -/
inductive Event
  | call (call : Call) (outcome : Outcome)
  | restart

/-- A call that throws changes no secret. -/
def Tracked.after (tracked : Tracked Double) (call : Call) :
    Option Answer × Vault Double → Tracked Double
  | (some _, vault) =>
    { vault := vault
      saved := call.effect tracked.saved
      issued := (call.updates.map VaultEntry.scope).reverse ++ tracked.issued }
  | (none, vault) => { tracked with vault := vault }

def trackStep (tracked : Tracked Double) : Event → Tracked Double
  | .call call outcome => tracked.after call (perform dart tracked.vault call outcome)
  | .restart => { tracked with vault := { tracked.vault with cache := none } }

/-- A step that saves no scope under the key of another one. -/
def Apart (tracked : Tracked Double) : Event → Prop
  | .call call _ => ∀ entry ∈ call.updates, ∀ scope ∈ tracked.issued,
      scope.scopeKey = entry.scope.scopeKey → scope = entry.scope
  | .restart => True

/-- Loading a scope answers with what was last saved for it. -/
def LoadsOwn (tracked : Tracked Double) (scope : VaultScope) : Prop :=
  ∀ capsuleHex pluginId providerId accountId secretName outcome,
    scopeOf capsuleHex pluginId providerId accountId secretName = some scope →
    let answer := (perform dart tracked.vault
      (.loadSecret capsuleHex pluginId providerId accountId secretName) outcome).1
    (outcome.readable = true → answer.isSome = true) ∧
      ∀ found, answer = some found →
        found = .value ((tracked.saved scope).map VaultEntry.secretValue)

/-- A reference that was issued for a scope is resolved for its capsule, to what was last saved
    for the scope. -/
def ResolvesOwn (tracked : Tracked Double) : Prop :=
  ∀ capsuleHex references outcome values,
    (perform dart tracked.vault (.resolveReferences capsuleHex references) outcome).1 =
      some (.values values) →
    List.Forall₂ (fun reference value => reference.1 = value.1 ∧
      ∀ scope ∈ tracked.issued, scope.scopeKey = reference.2 →
        capsuleHexOf capsuleHex = some scope.capsuleHex ∧
        (tracked.saved scope).map VaultEntry.secretValue = some value.2) references values

/-- What holds along a run. -/
def Sound (tracked : Tracked Double) : Prop :=
  ∃ entries, tracked.vault.Holds dart entries ∧
    ScopedMap.Faithful VaultScope.scopeKey VaultEntry.scope tracked.issued tracked.saved entries

/-! ### One step -/

variable {dart}

theorem sound_start : Sound dart (Tracked.start : Tracked Double) := by
  refine ⟨[], ⟨⟨fun _ h => (nomatch h), fun _ h => (nomatch h), List.nodup_nil, Nat.zero_le _⟩,
    rfl, fun _ h => (nomatch h)⟩, ScopedMap.Faithful.nil _ _⟩

theorem toList_scopeKey (scope : VaultScope) :
    scope.scopeKey.toList = scope.capsuleHex.toList ++ "::".toList ++ scope.pluginId.toList ++
      "::".toList ++ scope.providerId.toList ++ "::".toList ++ scope.accountId.toList ++
      "::".toList ++ scope.secretName.toList := by
  have hjoin : scope.scopeKey = scope.capsuleHex ++ "::" ++ scope.pluginId ++ "::" ++
      scope.providerId ++ "::" ++ scope.accountId ++ "::" ++ scope.secretName := rfl
  rw [hjoin]
  simp only [String.toList_append]

/-- Scopes that differ in their account alone have different keys. -/
theorem account_of_scopeKey {capsuleHex pluginId providerId accountId accountId' name : String}
    (h : VaultScope.scopeKey ⟨capsuleHex, pluginId, providerId, accountId, name⟩ =
      VaultScope.scopeKey ⟨capsuleHex, pluginId, providerId, accountId', name⟩) :
    accountId = accountId' := by
  have hlists := congrArg String.toList h
  rw [toList_scopeKey, toList_scopeKey] at hlists
  exact String.toList_inj.mp (List.append_cancel_left
    (List.append_cancel_right (List.append_cancel_right hlists)))

/-- What one call saves has a key for each scope. -/
theorem updates_apart (call : Call) {a b : VaultEntry} (ha : a ∈ call.updates)
    (hb : b ∈ call.updates) (hkey : b.scope.scopeKey = a.scope.scopeKey) : b.scope = a.scope := by
  cases call with
  | saveSecret capsuleHex pluginId providerId accountId secretName secretValue =>
    rw [List.mem_singleton.mp ha, List.mem_singleton.mp hb]
  | addReferences capsuleHex pluginId secrets =>
    obtain ⟨secret, -, rfl⟩ := List.mem_map.mp ha
    obtain ⟨secret', -, rfl⟩ := List.mem_map.mp hb
    have haccount := account_of_scopeKey hkey
    dsimp only
    rw [haccount]
  | _ => exact nomatch ha

variable {tracked : Tracked Double} {call : Call}

/-- **A save** leaves what the call says. -/
theorem sound_saved {entries : Entries} {outcome : Outcome}
    (answer : List (String × String) → Answer) (hholds : tracked.vault.Holds dart entries)
    (hfaithful : ScopedMap.Faithful VaultScope.scopeKey VaultEntry.scope tracked.issued
      tracked.saved entries) (happart : ∀ entry ∈ call.updates, ∀ scope ∈ tracked.issued,
      scope.scopeKey = entry.scope.scopeKey → scope = entry.scope)
    (hnone : call.removal = some fun _ => false) :
    Sound dart (tracked.after call
      ((saveEntries dart tracked.vault call.updates outcome).1.map answer,
        (saveEntries dart tracked.vault call.updates outcome).2)) := by
  rcases saveEntries_cases hholds call.updates outcome with ⟨hthrown, hafter⟩ | ⟨hsaved, found,
    hperm, hafter⟩
  · rw [hthrown]
    exact ⟨entries, hafter, hfaithful⟩
  · rw [hsaved]
    refine ⟨putAll found call.updates, hafter, ?_⟩
    have hput := (hfaithful.perm hperm.symm).putAll call.updates fun a ha t ht hkey => by
      rcases ht with ht | ht
      · exact happart a ha t ht hkey
      · obtain ⟨b, hb, rfl⟩ := List.mem_map.mp ht
        exact updates_apart call ha hb hkey
    have heffect : call.effect tracked.saved = call.updates.foldl (fun saved (entry : VaultEntry) =>
        Function.update saved entry.scope (some entry)) tracked.saved := by
      unfold Call.effect
      rw [hnone]
      rfl
    show ScopedMap.Faithful _ _ _ (call.effect tracked.saved) _
    rw [heffect]
    exact hput

/-- A call that saves and removes nothing leaves the secrets as they are. -/
theorem sound_read (entries : Entries) {result : Option Answer × Vault Double}
    (hholds : result.2.Holds dart entries)
    (hfaithful : ScopedMap.Faithful VaultScope.scopeKey VaultEntry.scope tracked.issued
      tracked.saved entries) (hupdates : call.updates = [])
    (hnone : call.removal = some fun _ => false) : Sound dart (tracked.after call result) := by
  have heffect : call.effect tracked.saved = tracked.saved := by
    unfold Call.effect
    rw [hnone, hupdates]
    rfl
  obtain ⟨answer, vault⟩ := result
  cases answer with
  | none => exact ⟨entries, hholds, hfaithful⟩
  | some answer =>
    show Sound dart { vault := vault, saved := call.effect tracked.saved, issued := _ }
    rw [heffect, hupdates]
    exact ⟨entries, hholds, hfaithful⟩

/-- **A removal** leaves what the call says. -/
theorem sound_removed {entries : Entries} {outcome : Outcome}
    (hholds : tracked.vault.Holds dart entries)
    (hfaithful : ScopedMap.Faithful VaultScope.scopeKey VaultEntry.scope tracked.issued
      tracked.saved entries) (hupdates : call.updates = []) :
    Sound dart (tracked.after call (removeScopes dart tracked.vault call outcome)) := by
  unfold removeScopes
  cases hremoval : call.removal with
  | none => exact ⟨entries, hholds, hfaithful⟩
  | some p =>
    dsimp only
    rcases removeWhere_cases hholds p outcome with ⟨hreturned, hafter⟩ | ⟨hreturned, found, hperm,
      hafter⟩
    · rw [hreturned]
      exact ⟨entries, hafter, hfaithful⟩
    · rw [hreturned]
      have heffect : call.effect tracked.saved = fun scope =>
          if !p scope then tracked.saved scope else none := by
        unfold Call.effect
        rw [hremoval, hupdates]
        ext scope : 1
        show (if p scope then none else tracked.saved scope) = _
        cases p scope <;> rfl
      have hkept := (hfaithful.perm hperm.symm).filter fun scope => !p scope
      show Sound dart { vault := _, saved := call.effect tracked.saved, issued := _ }
      rw [heffect, hupdates]
      exact ⟨_, hafter, hkept⟩

/-- **One step.** -/
theorem Sound.step {event : Event} (h : Sound dart tracked) (happart : Apart tracked event) :
    Sound dart (trackStep dart tracked event) := by
  obtain ⟨entries, hholds, hfaithful⟩ := h
  cases event with
  | restart => exact ⟨entries, hholds.restart, hfaithful⟩
  | call call outcome =>
    -- what has been read is remembered
    have hremember : ∀ {found : Entries}, loadEntries dart tracked.vault outcome.readable =
        some found → (tracked.vault.remember found).Holds dart entries :=
      fun hload => hholds.remember (hholds.load hload)
    show Sound dart (tracked.after call (perform dart tracked.vault call outcome))
    cases call with
    | saveSecret capsuleHex pluginId providerId accountId secretName secretValue =>
      unfold perform
      exact sound_saved (fun _ => .done) hholds hfaithful happart rfl
    | addReferences capsuleHex pluginId secrets =>
      unfold perform
      dsimp only
      split_ifs
      · exact ⟨entries, hholds, hfaithful⟩
      · exact sound_saved .references hholds hfaithful happart rfl
    | loadSecret =>
      refine sound_read entries ?_ hfaithful rfl rfl
      unfold perform
      dsimp only
      split
      · exact hholds
      · split
        · exact hholds
        · next found hload => exact hremember hload
    | listReferences =>
      refine sound_read entries ?_ hfaithful rfl rfl
      unfold perform
      dsimp only
      split
      · next found _ hload => exact hremember hload
      · exact hholds
    | resolveReferences =>
      refine sound_read entries ?_ hfaithful rfl rfl
      unfold perform
      dsimp only
      split
      · next found _ hload => exact hremember hload
      · exact hholds
    | deleteAccount =>
      unfold perform
      exact sound_removed hholds hfaithful rfl
    | deletePlugin pluginId capsuleHexes =>
      unfold perform
      dsimp only
      split_ifs with hempty
      · subst hempty
        cases hplugin : identifier pluginId with
        | none =>
          have hnone : (Call.deletePlugin pluginId []).removal = none := by
            unfold Call.removal
            dsimp only
            rw [hplugin]
          rw [hnone]
          exact ⟨entries, hholds, hfaithful⟩
        | some plugin =>
          have hnone : (Call.deletePlugin pluginId []).removal = some fun _ => false := by
            unfold Call.removal
            dsimp only
            rw [hplugin]
            show some (fun scope : VaultScope => scope.pluginId == plugin && false) = _
            simp only [Bool.and_false]
          exact sound_read entries hholds hfaithful rfl hnone
      · exact sound_removed hholds hfaithful rfl
    | deleteCapsules =>
      unfold perform
      exact sound_removed hholds hfaithful rfl

theorem sound_run {events : List Event} (h : Along (trackStep dart) Apart Tracked.start events) :
    Sound dart (replay (trackStep dart) Tracked.start events) :=
  along_invariant h sound_start fun _ _ hsound happart => hsound.step happart

/-! ### What is answered -/

theorem Sound.loads (h : Sound dart tracked) {scope : VaultScope}
    (hscope : ∀ other ∈ tracked.issued, other.scopeKey = scope.scopeKey → other = scope) :
    LoadsOwn dart tracked scope := by
  obtain ⟨entries, hholds, hfaithful⟩ := h
  intro capsuleHex pluginId providerId accountId secretName outcome hargs
  unfold perform
  dsimp only
  rw [hargs]
  cases hload : loadEntries dart tracked.vault outcome.readable with
  | none =>
    refine ⟨fun hreadable => ?_, fun _ hanswer => nomatch hanswer⟩
    obtain ⟨found, hfound⟩ := hholds.loads
    rw [hreadable, hfound] at hload
    exact nomatch hload
  | some found =>
    refine ⟨fun _ => rfl, fun answer hanswer => ?_⟩
    rw [← Option.some.inj hanswer,
      (hfaithful.perm (hholds.load hload).symm).lookup hscope]

theorem Sound.resolves (h : Sound dart tracked) : ResolvesOwn dart tracked := by
  obtain ⟨entries, hholds, hfaithful⟩ := h
  intro capsuleHex references outcome values hanswer
  unfold perform at hanswer
  dsimp only at hanswer
  split at hanswer
  · next owner found howner hload =>
    have hfound := hfaithful.perm (hholds.load hload).symm
    obtain ⟨resolvedValues, hresolved, hvalues⟩ := Option.map_eq_some_iff.mp hanswer
    obtain rfl := Answer.values.inj hvalues
    clear hanswer hvalues
    unfold resolved at hresolved
    induction references generalizing resolvedValues with
    | nil =>
      obtain rfl := Option.some.inj hresolved
      exact List.Forall₂.nil
    | cons reference references ih =>
      rw [List.mapM_cons] at hresolved
      obtain ⟨first, hfirst, hrest⟩ := Option.bind_eq_some_iff.mp hresolved
      obtain ⟨rest, hmap, hlist⟩ := Option.bind_eq_some_iff.mp hrest
      obtain rfl := Option.some.inj hlist
      refine List.Forall₂.cons ?_ (ih rest hmap)
      cases hlookup : lookup found reference.2 with
      | none =>
        rw [hlookup] at hfirst
        exact nomatch hfirst
      | some entry =>
        rw [hlookup] at hfirst
        dsimp only at hfirst
        split_ifs at hfirst with hother
        obtain rfl := Option.some.inj hfirst
        refine ⟨rfl, fun scope hscope hkey => ?_⟩
        -- the entry under the key of the scope is that of the scope
        have hsaved := hfound.lookup_used hscope
        rw [hkey, hlookup] at hsaved
        have hentry := ((hfound.model_iff scope entry).mp hsaved.symm).2
        rw [← hsaved, ← hentry, not_not.mp hother]
        exact ⟨howner, rfl⟩
  · exact nomatch hanswer

/-- **In a run that never saves a scope under the key of another one, every secret is that of its
    scope.**  Loading a scope whose key is not that of another one answers with what was last
    saved for it and not removed since, and every reference that was issued is resolved to what
    was last saved for its scope. -/
theorem scopes_apart {events : List Event} (h : Along (trackStep dart) Apart Tracked.start events) :
    (∀ scope, (∀ other ∈ (replay (trackStep dart) Tracked.start events).issued,
        other.scopeKey = scope.scopeKey → other = scope) →
      LoadsOwn dart (replay (trackStep dart) Tracked.start events) scope) ∧
      ResolvesOwn dart (replay (trackStep dart) Tracked.start events) :=
  ⟨fun _ hscope => (sound_run h).loads hscope, (sound_run h).resolves⟩

/-- Identifiers without colons are never in the way of each other. -/
theorem scopeKey_inj {scope other : VaultScope}
    (hscope : ∀ part ∈ [scope.capsuleHex, scope.pluginId, scope.providerId, scope.accountId,
      scope.secretName], ':' ∉ part.toList)
    (hother : ∀ part ∈ [other.capsuleHex, other.pluginId, other.providerId, other.accountId,
      other.secretName], ':' ∉ part.toList)
    (h : other.scopeKey = scope.scopeKey) : other = scope := by
  have hlists := congrArg String.toList h
  have hcolons : "::".toList = [':', ':'] := by decide
  rw [toList_scopeKey, toList_scopeKey, hcolons] at hlists
  simp only [List.append_assoc, List.cons_append, List.nil_append] at hlists
  simp only [List.mem_cons, List.not_mem_nil, or_false, forall_eq_or_imp, forall_eq]
    at hscope hother
  obtain ⟨hcapsule, hplugin, hprovider, haccount, -⟩ := hscope
  obtain ⟨hcapsule', hplugin', hprovider', haccount', -⟩ := hother
  obtain ⟨hone, hlists⟩ := split_inj hcapsule' hcapsule hlists
  obtain ⟨htwo, hlists⟩ := split_inj hplugin' hplugin (List.cons.inj hlists).2
  obtain ⟨hthree, hlists⟩ := split_inj hprovider' hprovider (List.cons.inj hlists).2
  obtain ⟨hfour, hlists⟩ := split_inj haccount' haccount (List.cons.inj hlists).2
  cases scope
  cases other
  simp only [VaultScope.mk.injEq]
  exact ⟨String.toList_inj.mp hone, String.toList_inj.mp htwo, String.toList_inj.mp hthree,
    String.toList_inj.mp hfour, String.toList_inj.mp (List.cons.inj hlists).2⟩

end Runs

/-! ### Two plugins under one key -/

def sampleCapsule : String := String.ofList (List.replicate 64 '1')

def openOutcome : Outcome := ⟨true, true, true⟩

def collidingSaves : List Event :=
  [.call (.saveSecret sampleCapsule "a" "b::c" "d" "e" "1") openOutcome,
   .call (.saveSecret sampleCapsule "a::b" "c" "d" "e" "2") openOutcome]

/-- The run of the saves. -/
def collided : Tracked String := replay (trackStep sampleViews) Tracked.start collidingSaves

def firstScope : VaultScope := ⟨sampleCapsule, "a", "b::c", "d", "e"⟩

/-- What the first scope is answered with, what was saved for it, and whether it was. -/
theorem collided_answers :
    ((perform sampleViews collided.vault
        (.loadSecret sampleCapsule "a" "b::c" "d" "e") openOutcome).1,
      (perform sampleViews collided.vault
        (.resolveReferences sampleCapsule [("x", firstScope.scopeKey)]) openOutcome).1,
      (collided.saved firstScope).map VaultEntry.secretValue,
      decide (firstScope ∈ collided.issued)) =
    (some (.value (some "2")), some (.values [("x", "2")]), some "1", true) := by
  decide +kernel

/-- **A plugin reads the secret of another one**, by loading its own scope and by resolving the
    reference that was issued for it. -/
theorem keys_collide :
    (¬ ∀ events scope, LoadsOwn sampleViews (replay (trackStep sampleViews) Tracked.start events)
        scope) ∧
      ¬ ∀ events, ResolvesOwn sampleViews
        (replay (trackStep sampleViews) Tracked.start events) := by
  have hanswers := collided_answers
  simp only [Prod.mk.injEq, decide_eq_true_eq] at hanswers
  obtain ⟨hload, hresolve, hsaved, hissued⟩ := hanswers
  constructor
  · intro h
    have hown : LoadsOwn sampleViews collided firstScope := h collidingSaves firstScope
    have hargs : scopeOf sampleCapsule "a" "b::c" "d" "e" = some firstScope := by decide +kernel
    have hvalue := Answer.value.inj ((hown _ _ _ _ _ openOutcome hargs).2 _ hload)
    rw [hsaved] at hvalue
    exact absurd hvalue (by decide)
  · intro h
    have hown : ResolvesOwn sampleViews collided := h collidingSaves
    have hpair := (List.forall₂_cons.mp (hown _ _ openOutcome _ hresolve)).1
    have hvalue := (hpair.2 firstScope hissued rfl).2
    rw [hsaved] at hvalue
    exact absurd hvalue (by decide)

/-! ### Two plugins without colons -/

def plainSaves : List Event :=
  [.call (.saveSecret sampleCapsule "a" "b" "d" "e" "1") openOutcome,
   .call (.saveSecret sampleCapsule "c" "b" "d" "e" "2") openOutcome]

theorem scopes_apart_plain :
    ResolvesOwn sampleViews (replay (trackStep sampleViews) Tracked.start plainSaves) := by
  have happart : Along (trackStep sampleViews) Apart Tracked.start plainSaves := by
    refine ⟨fun _ _ _ h => (nomatch h), fun entry hentry scope hscope hkey => ?_, trivial⟩
    have hissued : (trackStep sampleViews Tracked.start
        (.call (.saveSecret sampleCapsule "a" "b" "d" "e" "1") openOutcome)).issued =
          [⟨sampleCapsule, "a", "b", "d", "e"⟩] := by decide +kernel
    have hupdates : (Call.saveSecret sampleCapsule "c" "b" "d" "e" "2").updates.map
        VaultEntry.scope = [⟨sampleCapsule, "c", "b", "d", "e"⟩] := by decide +kernel
    rw [hissued] at hscope
    have hin := List.mem_map_of_mem (f := VaultEntry.scope) hentry
    rw [hupdates] at hin
    rw [List.mem_singleton.mp hscope, List.mem_singleton.mp hin] at hkey ⊢
    exact scopeKey_inj (by decide +kernel) (by decide +kernel) hkey
  exact (scopes_apart happart).2

end CapsuleScopedSecretVault

end Hivra
