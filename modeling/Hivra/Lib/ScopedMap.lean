import Mathlib.Data.List.Nodup
import Mathlib.Logic.Function.Basic
import Hivra.Lib.OrderedMap

namespace ScopedMap

open OrderedMap

/-!
# Maps of scopes by their keys

Values belong to scopes, and a map holds them under the keys of their scopes.  Where no two scopes
in use have the same key, the map is the one of the scopes.

* `Faithful.put`, `Faithful.filter` — what the operations are for the scopes.
-/

variable {σ κ α : Type*}

/-- The map holds what a model says of the scopes.  The scopes in use have different keys. -/
structure Faithful (key : σ → κ) (scope : α → σ) (issued : List σ) (model : σ → Option α)
    (entries : List (κ × α)) : Prop where
  keyed : ∀ entry ∈ entries, key (scope entry.2) = entry.1
  nodup : (entries.map Prod.fst).Nodup
  used : ∀ entry ∈ entries, scope entry.2 ∈ issued
  apart : ∀ s ∈ issued, ∀ t ∈ issued, key s = key t → s = t
  model_iff : ∀ s a, model s = some a ↔ (key s, a) ∈ entries ∧ scope a = s

variable {key : σ → κ} {scope : α → σ} {issued : List σ} {model : σ → Option α}
  {entries : List (κ × α)}

theorem Faithful.nil (key : σ → κ) (scope : α → σ) : Faithful key scope [] (fun _ => none) [] := by
  refine ⟨fun _ h => (nomatch h), List.nodup_nil, fun _ h => (nomatch h), fun _ h => (nomatch h),
    fun s a => ?_⟩
  simp

/-- What is filtered by its scope is filtered in the model. -/
theorem Faithful.filter (h : Faithful key scope issued model entries) (p : σ → Bool) :
    Faithful key scope issued (fun s => if p s then model s else none)
      (entries.filter fun entry => p (scope entry.2)) := by
  have hmem : ∀ {entry : κ × α}, entry ∈ (entries.filter fun entry => p (scope entry.2)) →
      entry ∈ entries := fun hentry => List.mem_of_mem_filter hentry
  refine ⟨fun entry hentry => h.keyed entry (hmem hentry),
    h.nodup.sublist (List.filter_sublist.map _), fun entry hentry => h.used entry (hmem hentry),
    h.apart, fun s a => ?_⟩
  rw [List.mem_filter]
  by_cases hp : p s = true
  · rw [if_pos hp, h.model_iff]
    constructor
    · rintro ⟨hin, rfl⟩
      exact ⟨⟨hin, hp⟩, rfl⟩
    · rintro ⟨⟨hin, -⟩, hscope⟩
      exact ⟨hin, hscope⟩
  · rw [if_neg hp]
    constructor
    · exact fun h => nomatch h
    · rintro ⟨⟨-, hkept⟩, rfl⟩
      exact absurd hkept hp

theorem Faithful.perm {entries' : List (κ × α)} (h : Faithful key scope issued model entries)
    (hperm : entries.Perm entries') : Faithful key scope issued model entries' := by
  refine ⟨fun entry hentry => h.keyed entry (hperm.mem_iff.mpr hentry),
    (hperm.map Prod.fst).nodup_iff.mp h.nodup,
    fun entry hentry => h.used entry (hperm.mem_iff.mpr hentry), h.apart, fun s a => ?_⟩
  rw [h.model_iff, hperm.mem_iff]

variable [DecidableEq κ]

/-- **A lookup answers with the value of the scope**, where no other scope has its key. -/
theorem Faithful.lookup (h : Faithful key scope issued model entries) {s : σ}
    (hs : ∀ t ∈ issued, key t = key s → t = s) : OrderedMap.lookup entries (key s) = model s := by
  cases hfound : OrderedMap.lookup entries (key s) with
  | none =>
    cases hmodel : model s with
    | none => rfl
    | some a =>
      have hmem := ((h.model_iff s a).mp hmodel).1
      exact absurd (List.mem_map_of_mem hmem) (lookup_eq_none.mp hfound)
  | some a =>
    have hmem := mem_of_lookup hfound
    have hscope : scope a = s := hs _ (h.used _ hmem) (h.keyed _ hmem)
    exact ((h.model_iff s a).mpr ⟨hmem, hscope⟩).symm

/-- The value under a key belongs to the scope that has been given the key. -/
theorem Faithful.lookup_used (h : Faithful key scope issued model entries) {s : σ}
    (hs : s ∈ issued) : OrderedMap.lookup entries (key s) = model s :=
  h.lookup fun t ht hkey => h.apart t ht s hs hkey

theorem Faithful.put [DecidableEq σ] (h : Faithful key scope issued model entries) (a : α)
    (hs : ∀ t ∈ issued, key t = key (scope a) → t = scope a) :
    Faithful key scope (scope a :: issued) (Function.update model (scope a) (some a))
      (OrderedMap.put entries (key (scope a)) a) := by
  refine ⟨fun entry hentry => ?_, keys_put_nodup h.nodup _ _, fun entry hentry => ?_,
    fun s hs' t ht hkey => ?_, fun s b => ?_⟩
  · rcases mem_put.mp hentry with ⟨hkey, hvalue⟩ | ⟨-, hmem⟩
    · rw [hkey, hvalue]
    · exact h.keyed entry hmem
  · rcases mem_put.mp hentry with ⟨-, hvalue⟩ | ⟨-, hmem⟩
    · rw [hvalue]
      exact List.mem_cons_self
    · exact List.mem_cons_of_mem _ (h.used entry hmem)
  · rcases List.mem_cons.mp hs' with rfl | hs'
    · rcases List.mem_cons.mp ht with rfl | ht
      · rfl
      · exact (hs t ht hkey.symm).symm
    · rcases List.mem_cons.mp ht with rfl | ht
      · exact hs s hs' hkey
      · exact h.apart s hs' t ht hkey
  · by_cases hscope : s = scope a
    · subst hscope
      rw [Function.update_self, mem_put]
      constructor
      · rintro ⟨⟩
        exact ⟨.inl ⟨rfl, rfl⟩, rfl⟩
      · rintro ⟨⟨-, hvalue⟩ | ⟨hne, -⟩, -⟩
        · exact congrArg some hvalue.symm
        · exact absurd rfl hne
    · rw [Function.update_of_ne hscope, h.model_iff, mem_put]
      constructor
      · rintro ⟨hmem, rfl⟩
        exact ⟨.inr ⟨fun hkey => hscope (hs _ (h.used _ hmem) hkey), hmem⟩, rfl⟩
      · rintro ⟨⟨-, hvalue⟩ | ⟨-, hmem⟩, hb⟩
        · exact absurd (hb.symm.trans (congrArg scope hvalue)) hscope
        · exact ⟨hmem, hb⟩

/-- Values that are put one after the other. -/
theorem Faithful.putAll [DecidableEq σ] (h : Faithful key scope issued model entries)
    (items : List α) (hs : ∀ a ∈ items, ∀ t, t ∈ issued ∨ t ∈ items.map scope →
      key t = key (scope a) → t = scope a) :
    Faithful key scope ((items.map scope).reverse ++ issued)
      (items.foldl (fun model a => Function.update model (scope a) (some a)) model)
      (items.foldl (fun entries a => OrderedMap.put entries (key (scope a)) a) entries) := by
  induction items generalizing issued model entries with
  | nil => exact h
  | cons a items ih =>
    have hput := h.put a fun t ht => hs a List.mem_cons_self t (.inl ht)
    have hrest := ih hput fun b hb t ht => hs b (List.mem_cons_of_mem _ hb) t (by
      rcases ht with ht | ht
      · rcases List.mem_cons.mp ht with rfl | ht
        · exact .inr List.mem_cons_self
        · exact .inl ht
      · exact .inr (List.mem_cons_of_mem _ ht))
    rw [List.map_cons, List.reverse_cons, List.append_assoc]
    exact hrest

end ScopedMap
