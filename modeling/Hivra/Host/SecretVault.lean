import Hivra.Host.AttestationStore
import Hivra.Lib.OrderedMap

namespace Hivra

open JsonDocument OrderedMap

namespace CapsuleScopedSecretVault

/-!
# The vault of secrets

Secrets of plugins belong to a capsule, a plugin, a provider and an account, and have a name.  All
of them are one document in the secure storage, which is held in memory once it has been read.
The calls on the vault follow one another.

* `saveEntries_cases`, `removeWhere_cases` — what a call leaves in the vault.
-/

def schemaVersion : ℤ := 1
def maxEntries : ℕ := 512

/-- What a secret belongs to, and its name. -/
structure VaultScope where
  capsuleHex : String
  pluginId : String
  providerId : String
  accountId : String
  secretName : String
  deriving DecidableEq

def VaultScope.scopeKey (scope : VaultScope) : String :=
  String.intercalate "::" [scope.capsuleHex, scope.pluginId, scope.providerId, scope.accountId,
    scope.secretName]

structure VaultEntry where
  scope : VaultScope
  secretValue : String
  label : Option String
  deriving DecidableEq

/-! ### What is valid -/

def capsuleHexOf (value : String) : Option String :=
  if isHex 64 (trimmedLower value) then some (trimmedLower value) else none

/-- A letter or a digit, and up to 255 of these and the marks. -/
def isIdentifier (text : String) : Bool :=
  match text.toList with
  | [] => false
  | first :: rest =>
    first.isAlphanum && decide (rest.length ≤ 255) && rest.all fun c =>
      c.isAlphanum || c == '.' || c == '_' || c == ':' || c == '@' || c == '-'

def identifier (value : String) : Option String :=
  if isIdentifier (trimmed value) then some (trimmed value) else none

/-- The scope of the arguments of a call, none where one of them is invalid. -/
def scopeOf (capsuleHex pluginId providerId accountId secretName : String) : Option VaultScope :=
  match capsuleHexOf capsuleHex, identifier pluginId, identifier providerId,
      identifier accountId, identifier secretName with
  | some capsuleHex, some pluginId, some providerId, some accountId, some secretName =>
    some ⟨capsuleHex, pluginId, providerId, accountId, secretName⟩
  | _, _, _, _, _ => none

namespace VaultEntry

def valid (entry : VaultEntry) : Bool :=
  (scopeOf entry.scope.capsuleHex entry.scope.pluginId entry.scope.providerId
      entry.scope.accountId entry.scope.secretName).isSome &&
    (match entry.label with
      | none => true
      | some label => label != "" && decide (dartLength label ≤ 128)) &&
    entry.secretValue != "" && decide (dartLength entry.secretValue ≤ 4096)

/-- The reference of an entry: its key, and the text it is shown by. -/
def reference (entry : VaultEntry) : String × String :=
  (entry.scope.scopeKey, entry.label.getD (entry.scope.providerId ++ " / " ++
    entry.scope.accountId ++ " / " ++ entry.scope.secretName))

end VaultEntry

/-! ### The document -/

/-- The entries by their keys, in the order in which the keys were added. -/
abbrev Entries := List (String × VaultEntry)

section Vault

variable {Double : Type} (dart : DartViews Double)

def entryMembers (entry : VaultEntry) : List (String × DartValue Double) :=
  [("capsule_hex", .str entry.scope.capsuleHex),
   ("plugin_id", .str entry.scope.pluginId),
   ("provider_id", .str entry.scope.providerId),
   ("account_id", .str entry.scope.accountId),
   ("secret_name", .str entry.scope.secretName),
   ("secret_value", .str entry.secretValue)] ++
    match entry.label with
    | some label => [("label", .str label)]
    | none => []

/-- The text of a member, empty where it is missing. -/
def memberText (members : List (String × DartValue Double)) (name : String) : String :=
  (displayText dart.toDartRuntime (members.lookup name)).getD ""

/-- The entry of a document; none where its label is not a text. -/
def entryOf (members : List (String × DartValue Double)) : Option VaultEntry :=
  let scope : VaultScope := {
    capsuleHex := memberText dart members "capsule_hex"
    pluginId := memberText dart members "plugin_id"
    providerId := memberText dart members "provider_id"
    accountId := memberText dart members "account_id"
    secretName := memberText dart members "secret_name" }
  match members.lookup "label" with
  | none => some ⟨scope, memberText dart members "secret_value", none⟩
  | some .null => some ⟨scope, memberText dart members "secret_value", none⟩
  | some (.str label) => some ⟨scope, memberText dart members "secret_value", some label⟩
  | some _ => none

def readEntry : DartValue Double → Option VaultEntry
  | .obj members => (entryOf dart members).filter VaultEntry.valid
  | _ => none

def entryKey (entry : VaultEntry) : String := entry.scope.scopeKey

/-- The entries of a document, none where it is malformed. -/
def readVault : DartValue Double → Option Entries
  | .obj members =>
    if isBackupVersion dart.toDartRuntime (members.lookup "schema_version") then
      match members.lookup "entries" with
      | some (.arr items) =>
        if maxEntries < items.length then none
        else (AttestationStore.readDistinct (readEntry dart) entryKey items).map fun found =>
          found.map fun entry => (entryKey entry, entry)
      | _ => none
    else none
  | _ => none

def orderedEntries (entries : Entries) : List VaultEntry :=
  dart.sort (fun left right => decide (entryKey left ≤ entryKey right)) (entries.map Prod.snd)

def vaultDocument (entries : Entries) : DartValue Double :=
  .obj [("schema_version", .num (.inl schemaVersion)),
    ("entries", .arr ((orderedEntries dart entries).map fun entry => .obj (entryMembers entry)))]

/-! ### Calls -/

/-- The entries in memory, once they have been read, and the document. -/
structure Vault (Double : Type) where
  cache : Option Entries
  storage : Option (DartValue Double)

/-- What a call meets: whether the storage can be read, whether the owner authorizes the call, and
    whether the storage can be written. -/
structure Outcome where
  readable : Bool
  authorized : Bool
  writable : Bool

/-- The entries, none where the call throws. -/
def loadEntries (vault : Vault Double) (readable : Bool) : Option Entries :=
  match vault.cache with
  | some entries => some entries
  | none =>
    if !readable then none
    else
      match vault.storage with
      | none => some []
      | some document => readVault dart document

/-- The vault once its entries have been read. -/
def Vault.remember (vault : Vault Double) (entries : Entries) : Vault Double :=
  { vault with cache := some entries }

/-- The vault once the entries are written. -/
def writeEntries (entries : Entries) : Vault Double where
  cache := some entries
  storage := if entries = [] then none else some (vaultDocument dart entries)

/-- The references of the saved entries, none where the call throws. -/
def saveEntries (vault : Vault Double) (updates : List VaultEntry) (outcome : Outcome) :
    Option (List (String × String)) × Vault Double :=
  if !updates.all VaultEntry.valid then (none, vault)
  else
    match loadEntries dart vault outcome.readable with
    | none => (none, vault)
    | some entries =>
      let next := updates.foldl (fun entries entry => put entries (entryKey entry) entry) entries
      if maxEntries < next.length || !outcome.authorized || !outcome.writable then
        (none, vault.remember entries)
      else (some (updates.map VaultEntry.reference), writeEntries dart next)

/-- Whether the call returned, and the vault without the entries of some scopes. -/
def removeWhere (vault : Vault Double) (p : VaultScope → Bool) (outcome : Outcome) :
    Bool × Vault Double :=
  match loadEntries dart vault outcome.readable with
  | none => (false, vault)
  | some entries =>
    let kept := entries.filter fun entry => !p entry.2.scope
    if kept.length = entries.length then (true, vault.remember entries)
    else if !outcome.writable then (false, vault.remember entries)
    else (true, writeEntries dart kept)

/-! ### What is written is read again -/

/-- Entries as a vault holds them: each under its own key, valid, and not too many. -/
structure InOrder (entries : Entries) : Prop where
  keyed : ∀ entry ∈ entries, entryKey entry.2 = entry.1
  valid : ∀ entry ∈ entries, entry.2.valid = true
  distinct : (entries.map Prod.fst).Nodup
  limited : entries.length ≤ maxEntries

variable {dart}

theorem entryOf_members (entry : VaultEntry) : entryOf dart (entryMembers entry) = some entry := by
  cases entry with
  | mk scope value label =>
    cases label with
    | none => rfl
    | some label => rfl

theorem InOrder.perm {entries entries' : Entries} (h : InOrder entries)
    (hperm : entries.Perm entries') : InOrder entries' :=
  ⟨fun entry hentry => h.keyed entry (hperm.mem_iff.mpr hentry),
    fun entry hentry => h.valid entry (hperm.mem_iff.mpr hentry),
    (hperm.map Prod.fst).nodup_iff.mp h.distinct, hperm.length_eq ▸ h.limited⟩

/-- **What is written is read again.** -/
theorem readVault_write {entries : Entries} (h : InOrder entries) :
    ∃ found, readVault dart (vaultDocument dart entries) = some found ∧ found.Perm entries := by
  have hordered : (orderedEntries dart entries).Perm (entries.map Prod.snd) := dart.sort_perm _ _
  have hkeys : (entries.map Prod.snd).map entryKey = entries.map Prod.fst := by
    rw [List.map_map]
    exact List.map_congr_left fun entry hentry => h.keyed entry hentry
  have hentries : (entries.map Prod.snd).map (fun entry => (entryKey entry, entry)) = entries := by
    have hsame : (entries.map fun entry => (entryKey entry.2, entry.2)) = entries.map id :=
      List.map_congr_left fun entry hentry => Prod.ext (h.keyed entry hentry) rfl
    rw [List.map_map]
    exact hsame.trans (List.map_id _)
  have hread : AttestationStore.readDistinct (readEntry dart) entryKey
      ((orderedEntries dart entries).map fun entry => .obj (entryMembers entry)) =
        some (orderedEntries dart entries) := by
    refine AttestationStore.readDistinct_of (fun entry hentry => ?_) ?_
    · obtain ⟨known, hknown, rfl⟩ := List.mem_map.mp (hordered.mem_iff.mp hentry)
      show (entryOf dart (entryMembers known.2)).filter VaultEntry.valid = _
      rw [entryOf_members, Option.filter_some, if_pos (h.valid known hknown)]
    · rw [(hordered.map entryKey).nodup_iff, hkeys]
      exact h.distinct
  have hlength : ¬ maxEntries < ((orderedEntries dart entries).map fun entry =>
      (Json.obj (entryMembers entry) : DartValue Double)).length := by
    rw [List.length_map, hordered.length_eq, List.length_map]
    exact not_lt.mpr h.limited
  refine ⟨(orderedEntries dart entries).map fun entry => (entryKey entry, entry), ?_, ?_⟩
  · show (if maxEntries < _ then none else (AttestationStore.readDistinct _ _ _).map _) = _
    rw [if_neg hlength, hread]
    rfl
  · have hperm := hordered.map fun entry => (entryKey entry, entry)
    rwa [hentries] at hperm

/-! ### What a vault holds -/

variable (dart)

/-- The document and the memory hold the same entries. -/
structure Vault.Holds (vault : Vault Double) (entries : Entries) : Prop where
  inOrder : InOrder entries
  stored : match vault.storage with
    | none => entries = []
    | some document => ∃ found, readVault dart document = some found ∧ found.Perm entries
  cached : ∀ cache ∈ vault.cache, cache.Perm entries

variable {dart} {vault : Vault Double} {entries : Entries}

theorem Vault.Holds.load (h : vault.Holds dart entries) {readable : Bool} {found : Entries}
    (hfound : loadEntries dart vault readable = some found) : found.Perm entries := by
  have hstored := h.stored
  unfold loadEntries at hfound
  split at hfound
  · next cache hcache =>
    obtain rfl := Option.some.inj hfound
    exact h.cached cache hcache
  · split_ifs at hfound
    split at hfound
    · next hstorage =>
      rw [hstorage] at hstored
      obtain rfl := Option.some.inj hfound
      obtain rfl : entries = [] := hstored
      exact List.Perm.refl _
    · next document hstorage =>
      rw [hstorage] at hstored
      obtain ⟨read, hread, hperm⟩ := hstored
      rw [hread] at hfound
      obtain rfl := Option.some.inj hfound
      exact hperm

/-- A vault in order can be read. -/
theorem Vault.Holds.loads (h : vault.Holds dart entries) :
    ∃ found, loadEntries dart vault true = some found := by
  have hstored := h.stored
  unfold loadEntries
  split
  · exact ⟨_, rfl⟩
  · rw [if_neg (by decide)]
    split
    · exact ⟨_, rfl⟩
    · next document hstorage =>
      rw [hstorage] at hstored
      obtain ⟨read, hread, -⟩ := hstored
      exact ⟨read, hread⟩

theorem Vault.Holds.perm (h : vault.Holds dart entries) {entries' : Entries}
    (hperm : entries.Perm entries') : vault.Holds dart entries' := by
  have hstored := h.stored
  refine ⟨h.inOrder.perm hperm, ?_, fun cache hcache => (h.cached cache hcache).trans hperm⟩
  split at hstored
  · subst hstored
    exact List.nil_perm.mp hperm
  · obtain ⟨found, hread, hfound⟩ := hstored
    exact ⟨found, hread, hfound.trans hperm⟩

theorem Vault.Holds.remember (h : vault.Holds dart entries) {found : Entries}
    (hperm : found.Perm entries) : (vault.remember found).Holds dart entries := by
  refine ⟨h.inOrder, h.stored, ?_⟩
  rintro cache ⟨⟩
  exact hperm

theorem holds_writeEntries (h : InOrder entries) :
    (writeEntries dart entries).Holds dart entries := by
  refine ⟨h, ?_, ?_⟩
  · unfold writeEntries
    by_cases hempty : entries = []
    · rw [if_pos hempty]
      exact hempty
    · rw [if_neg hempty]
      exact readVault_write h
  · rintro cache ⟨⟩
    exact List.Perm.refl _

/-- A process that starts again has the document alone. -/
theorem Vault.Holds.restart (h : vault.Holds dart entries) :
    Vault.Holds dart { vault with cache := none } entries :=
  ⟨h.inOrder, h.stored, fun _ hcache => nomatch hcache⟩

/-! ### What a call leaves -/

def putAll (entries : Entries) (updates : List VaultEntry) : Entries :=
  updates.foldl (fun entries entry => put entries (entryKey entry) entry) entries

theorem inOrder_putAll {updates : List VaultEntry} (h : InOrder entries)
    (hvalid : updates.all VaultEntry.valid = true)
    (hlimited : (putAll entries updates).length ≤ maxEntries) :
    InOrder (putAll entries updates) := by
  have hparts : (∀ entry ∈ putAll entries updates,
        entryKey entry.2 = entry.1 ∧ entry.2.valid = true) ∧
      ((putAll entries updates).map Prod.fst).Nodup := by
    have hstart : (∀ entry ∈ entries, entryKey entry.2 = entry.1 ∧ entry.2.valid = true) ∧
        (entries.map Prod.fst).Nodup :=
      ⟨fun entry hentry => ⟨h.keyed entry hentry, h.valid entry hentry⟩, h.distinct⟩
    clear h hlimited
    unfold putAll
    induction updates generalizing entries with
    | nil => exact hstart
    | cons update updates ih =>
      rw [List.all_cons, Bool.and_eq_true] at hvalid
      refine ih hvalid.2 ⟨fun entry hentry => ?_, keys_put_nodup hstart.2 _ _⟩
      rcases mem_put.mp hentry with ⟨hkey, hvalue⟩ | ⟨-, hmem⟩
      · rw [hkey, hvalue]
        exact ⟨rfl, hvalid.1⟩
      · exact hstart.1 entry hmem
  exact ⟨fun entry hentry => (hparts.1 entry hentry).1, fun entry hentry =>
    (hparts.1 entry hentry).2, hparts.2, hlimited⟩

/-- **A save** leaves the entries as they were where it throws, and puts its own otherwise. -/
theorem saveEntries_cases (h : vault.Holds dart entries) (updates : List VaultEntry)
    (outcome : Outcome) :
    ((saveEntries dart vault updates outcome).1 = none ∧
        (saveEntries dart vault updates outcome).2.Holds dart entries) ∨
      (saveEntries dart vault updates outcome).1 = some (updates.map VaultEntry.reference) ∧
        ∃ found, found.Perm entries ∧
          (saveEntries dart vault updates outcome).2.Holds dart (putAll found updates) := by
  unfold saveEntries
  by_cases hvalid : updates.all VaultEntry.valid = true
  · rw [hvalid, if_neg (by decide)]
    cases hload : loadEntries dart vault outcome.readable with
    | none => exact .inl ⟨rfl, h⟩
    | some found =>
      have hperm := h.load hload
      dsimp only
      split_ifs with hstop
      · exact .inl ⟨rfl, h.remember hperm⟩
      · simp only [Bool.or_eq_true, decide_eq_true_eq, not_or] at hstop
        have hlimited : (putAll found updates).length ≤ maxEntries := not_lt.mp hstop.1.1
        exact .inr ⟨rfl, found, hperm,
          holds_writeEntries (inOrder_putAll (h.inOrder.perm hperm.symm) hvalid hlimited)⟩
  · rw [if_pos (by simpa using hvalid)]
    exact .inl ⟨rfl, h⟩

/-- **A removal** leaves the entries as they were where it throws, and the other ones otherwise. -/
theorem removeWhere_cases (h : vault.Holds dart entries) (p : VaultScope → Bool)
    (outcome : Outcome) :
    ((removeWhere dart vault p outcome).1 = false ∧
        (removeWhere dart vault p outcome).2.Holds dart entries) ∨
      (removeWhere dart vault p outcome).1 = true ∧ ∃ found : Entries, found.Perm entries ∧
        (removeWhere dart vault p outcome).2.Holds dart
          (found.filter fun entry => !p entry.2.scope) := by
  unfold removeWhere
  cases hload : loadEntries dart vault outcome.readable with
  | none => exact .inl ⟨rfl, h⟩
  | some found =>
    have hperm := h.load hload
    have horder := h.inOrder.perm hperm.symm
    dsimp only
    split_ifs with hsame hfail
    · refine .inr ⟨rfl, found, hperm, ?_⟩
      have hall : (found.filter fun entry => !p entry.2.scope) = found :=
        List.filter_eq_self.mpr (List.length_filter_eq_length_iff.mp hsame)
      rw [hall]
      exact (h.remember hperm).perm hperm.symm
    · exact .inl ⟨rfl, h.remember hperm⟩
    · refine .inr ⟨rfl, found, hperm, holds_writeEntries ⟨fun entry hentry => ?_,
        fun entry hentry => ?_, ?_, ?_⟩⟩
      · exact horder.keyed entry (List.mem_of_mem_filter hentry)
      · exact horder.valid entry (List.mem_of_mem_filter hentry)
      · exact horder.distinct.sublist (List.filter_sublist.map _)
      · exact (List.length_filter_le _ _).trans horder.limited

end Vault

end CapsuleScopedSecretVault

end Hivra
