import Mathlib.Data.List.Nodup

namespace OrderedMap

/-!
# Maps that keep the order of insertion

A map is the list of its entries.  A new key goes to the end, and a known one gets its new value
where it is.

* `lookup_put`, `lookup_remove`, `lookup_filter` — what the operations leave of a lookup.
* `keys_put_nodup` — a key has one entry.
-/

variable {κ α : Type*} [DecidableEq κ]

def lookup (map : List (κ × α)) (key : κ) : Option α :=
  (map.find? fun entry => entry.1 == key).map Prod.snd

def contains (map : List (κ × α)) (key : κ) : Bool := (lookup map key).isSome

def put (map : List (κ × α)) (key : κ) (value : α) : List (κ × α) :=
  if contains map key then
    map.map fun entry => if entry.1 = key then (entry.1, value) else entry
  else map ++ [(key, value)]

def remove (map : List (κ × α)) (key : κ) : List (κ × α) :=
  map.filter fun entry => entry.1 != key

@[simp] theorem lookup_nil (key : κ) : lookup ([] : List (κ × α)) key = none := rfl

theorem lookup_cons (entry : κ × α) (map : List (κ × α)) (key : κ) :
    lookup (entry :: map) key = if entry.1 = key then some entry.2 else lookup map key := by
  unfold lookup
  rw [List.find?_cons]
  by_cases h : entry.1 = key
  · rw [if_pos h, beq_iff_eq.mpr h]
    rfl
  · rw [if_neg h, beq_eq_false_iff_ne.mpr h]

variable {map : List (κ × α)} {key : κ} {value : α}

theorem mem_of_lookup (h : lookup map key = some value) : (key, value) ∈ map := by
  obtain ⟨entry, hfind, rfl⟩ := Option.map_eq_some_iff.mp h
  have hfound := List.find?_some hfind
  have hkey : entry.1 = key := eq_of_beq hfound
  rw [← hkey]
  exact List.mem_of_find?_eq_some hfind

theorem lookup_eq_none : lookup map key = none ↔ key ∉ map.map Prod.fst := by
  unfold lookup
  rw [Option.map_eq_none_iff, List.find?_eq_none, List.mem_map]
  constructor
  · rintro h ⟨entry, hentry, rfl⟩
    exact h entry hentry (beq_self_eq_true _)
  · intro h entry hentry hkey
    exact h ⟨entry, hentry, eq_of_beq hkey⟩

theorem contains_iff : contains map key = true ↔ key ∈ map.map Prod.fst := by
  have hnone := @lookup_eq_none κ α _ map key
  unfold contains
  cases hlookup : lookup map key with
  | none => simpa using hnone.mp hlookup
  | some value => simpa [hlookup] using hnone

/-- With one entry a key, the entries are what the lookups answer. -/
theorem lookup_of_mem (hnodup : (map.map Prod.fst).Nodup) (h : (key, value) ∈ map) :
    lookup map key = some value := by
  induction map with
  | nil => exact nomatch h
  | cons entry map ih =>
    rw [List.map_cons, List.nodup_cons] at hnodup
    rw [lookup_cons]
    rcases List.mem_cons.mp h with rfl | hmem
    · rw [if_pos rfl]
    · have hne : entry.1 ≠ key := by
        rintro rfl
        exact hnodup.1 (List.mem_map.mpr ⟨_, hmem, rfl⟩)
      rw [if_neg hne]
      exact ih hnodup.2 hmem

theorem lookup_append (map map' : List (κ × α)) (key : κ) :
    lookup (map ++ map') key = (lookup map key).or (lookup map' key) := by
  unfold lookup
  rw [List.find?_append]
  cases map.find? fun entry => entry.1 == key <;> rfl

theorem lookup_put (map : List (κ × α)) (key : κ) (value : α) (k : κ) :
    lookup (put map key value) k = if key = k then some value else lookup map k := by
  unfold put
  split_ifs with hknown hk hk
  · subst hk
    rw [contains_iff] at hknown
    -- the entries keep their keys
    induction map with
    | nil => exact nomatch hknown
    | cons entry map ih =>
      rw [List.map_cons, lookup_cons]
      by_cases hentry : entry.1 = key
      · rw [if_pos hentry, if_pos hentry]
      · rw [if_neg hentry, if_neg hentry]
        rw [List.map_cons, List.mem_cons] at hknown
        exact ih (hknown.resolve_left fun heq => hentry heq.symm)
  · clear hknown
    induction map with
    | nil => rfl
    | cons entry map ih =>
      rw [List.map_cons, lookup_cons, lookup_cons, ih]
      by_cases hentry : entry.1 = key
      · have hne : entry.1 ≠ k := fun heq => hk (hentry.symm.trans heq)
        rw [if_pos hentry, if_neg hne, if_neg hne]
      · rw [if_neg hentry]
  · subst hk
    have hnone : lookup map key = none := by simpa [contains] using hknown
    rw [lookup_append, hnone, lookup_cons, if_pos rfl]
    rfl
  · rw [lookup_append, lookup_cons, if_neg hk, lookup_nil, Option.or_none]

theorem mem_put {entry : κ × α} :
    entry ∈ put map key value ↔
      entry.1 = key ∧ entry.2 = value ∨ entry.1 ≠ key ∧ entry ∈ map := by
  unfold put
  split_ifs with hknown
  · rw [List.mem_map]
    constructor
    · rintro ⟨known, hmem, rfl⟩
      by_cases hkey : known.1 = key
      · rw [if_pos hkey]
        exact .inl ⟨hkey, rfl⟩
      · rw [if_neg hkey]
        exact .inr ⟨hkey, hmem⟩
    · rintro (⟨hkey, hvalue⟩ | ⟨hkey, hmem⟩)
      · obtain ⟨known, hmem, hknownKey⟩ := List.mem_map.mp (contains_iff.mp hknown)
        refine ⟨known, hmem, ?_⟩
        rw [if_pos hknownKey, hknownKey, ← hkey, ← hvalue]
      · exact ⟨entry, hmem, if_neg hkey⟩
  · have hnone : ∀ known ∈ map, known.1 ≠ key := fun known hmem hkey =>
      hknown (contains_iff.mpr (List.mem_map.mpr ⟨known, hmem, hkey⟩))
    rw [List.mem_append, List.mem_singleton]
    constructor
    · rintro (hmem | rfl)
      · exact .inr ⟨hnone entry hmem, hmem⟩
      · exact .inl ⟨rfl, rfl⟩
    · rintro (⟨hkey, hvalue⟩ | ⟨-, hmem⟩)
      · exact .inr (Prod.ext hkey hvalue)
      · exact .inl hmem

/-- A filter by the key keeps or drops a key as a whole. -/
theorem lookup_filter (map : List (κ × α)) (p : κ → Bool) (key : κ) :
    lookup (map.filter fun entry => p entry.1) key =
      if p key then lookup map key else none := by
  induction map with
  | nil => simp
  | cons entry map ih =>
    rw [List.filter_cons]
    by_cases hentry : p entry.1 = true
    · rw [if_pos hentry, lookup_cons, lookup_cons, ih]
      by_cases hkey : entry.1 = key
      · rw [if_pos hkey, if_pos hkey, if_pos (hkey ▸ hentry)]
      · rw [if_neg hkey, if_neg hkey]
    · rw [if_neg hentry, ih, lookup_cons]
      by_cases hkey : entry.1 = key
      · rw [if_neg (hkey ▸ hentry), if_neg (hkey ▸ hentry)]
      · rw [if_neg hkey]

theorem lookup_remove (map : List (κ × α)) (key k : κ) :
    lookup (remove map key) k = if k = key then none else lookup map k := by
  unfold remove
  rw [lookup_filter map (fun entry => entry != key) k]
  by_cases hk : k = key
  · rw [if_pos hk, if_neg (by simp [hk])]
  · rw [if_neg hk, if_pos (by simp [hk])]

theorem keys_put_nodup (h : (map.map Prod.fst).Nodup) (key : κ) (value : α) :
    ((put map key value).map Prod.fst).Nodup := by
  unfold put
  split_ifs with hknown
  · have hkeys : (map.map fun entry => if entry.1 = key then (entry.1, value) else entry).map
        Prod.fst = map.map Prod.fst := by
      rw [List.map_map]
      refine List.map_congr_left fun entry _ => ?_
      show (if entry.1 = key then (entry.1, value) else entry).1 = entry.1
      split_ifs <;> rfl
    rw [hkeys]
    exact h
  · rw [contains_iff] at hknown
    rw [List.map_append, List.nodup_append]
    refine ⟨h, List.nodup_singleton _, fun k hk k' hk' heq => hknown ?_⟩
    have hlast : k' = key := List.mem_singleton.mp hk'
    rwa [heq, hlast] at hk

theorem put_of_not_mem (h : key ∉ map.map Prod.fst) :
    put map key value = map ++ [(key, value)] := by
  unfold put
  rw [if_neg]
  exact fun hknown => h (contains_iff.mp hknown)

theorem remove_put_of_not_mem (h : key ∉ map.map Prod.fst) :
    remove (put map key value) key = map := by
  have hall : ∀ entry ∈ map, (entry.1 != key) = true := fun entry hentry =>
    bne_iff_ne.mpr fun hkey => h (List.mem_map.mpr ⟨entry, hentry, hkey⟩)
  unfold remove
  rw [put_of_not_mem h, List.filter_append, List.filter_eq_self.mpr hall]
  simp

/-- Entries under different keys go into an empty map as they are. -/
theorem foldl_put {entries : List (κ × α)} :
    ∀ {map : List (κ × α)}, ((map ++ entries).map Prod.fst).Nodup →
      entries.foldl (fun all entry => put all entry.1 entry.2) map = map ++ entries := by
  induction entries with
  | nil =>
    intro map _
    rw [List.append_nil]
    rfl
  | cons entry rest ih =>
    intro map hnodup
    have hnew : entry.1 ∉ map.map Prod.fst := by
      rw [List.map_append, List.nodup_append] at hnodup
      intro hmem
      exact hnodup.2.2 _ hmem _ List.mem_cons_self rfl
    have happend : map ++ entry :: rest = (map ++ [entry]) ++ rest := by simp
    rw [List.foldl_cons, put_of_not_mem hnew]
    rw [happend] at hnodup ⊢
    exact ih hnodup

end OrderedMap
