import Hivra.Lib.Replay

namespace Replay

/-!
# Accumulators by key

A loop that sorts items into groups keeps one accumulator for each key and searches it by the
key of the item.  Each group is a loop of its own over the items of its key.  Beside this the
file has what a filter leaves of a stable sort and of an update.

* `filter_updateFirst`, `filter_updateFirst_of_not` — an update inside a filter and outside.
-/

section Accumulate

variable {κ α ι : Type*} [DecidableEq κ] {empty : α}

/-- Change the accumulator of a key, an empty one if the key is new. -/
def accumulate (empty : α) (key : κ) (f : α → α) (groups : List (κ × α)) : List (κ × α) :=
  if groups.any (fun group => group.1 == key) then
    updateFirst (fun group => group.1 == key) (fun group => (group.1, f group.2)) groups
  else groups ++ [(key, f empty)]

/-- The accumulator of a key. -/
def accumulated (groups : List (κ × α)) (key : κ) : Option α :=
  (groups.find? fun group => group.1 == key).map Prod.snd

variable {groups : List (κ × α)}

theorem mem_of_accumulated {key : κ} {a : α} (h : accumulated groups key = some a) :
    (key, a) ∈ groups := by
  obtain ⟨group, hfind, rfl⟩ := Option.map_eq_some_iff.mp h
  have hkey := List.find?_some hfind
  have heq : group.1 = key := eq_of_beq hkey
  rw [← heq]
  exact List.mem_of_find?_eq_some hfind

theorem accumulated_accumulate (key : κ) (f : α → α) (groups : List (κ × α)) (k : κ) :
    accumulated (accumulate empty key f groups) k =
      if key = k then some (f ((accumulated groups k).getD empty)) else accumulated groups k := by
  unfold accumulated accumulate
  by_cases hknown : groups.any (fun group => group.1 == key) = true
  · have hfind := @find_key_updateFirst _ _ (fun group : κ × α => (group.1, f group.2)) groups _ _ _
      Prod.fst key (fun _ h => h) k
    rw [if_pos hknown, hfind]
    by_cases hk : key = k
    · subst hk
      obtain ⟨group, hgroup, hkey⟩ := List.any_eq_true.mp hknown
      rw [if_pos rfl, if_pos rfl]
      cases hfound : groups.find? fun group => group.1 == key with
      | none => exact absurd hkey (List.find?_eq_none.mp hfound group hgroup)
      | some found => rfl
    · rw [if_neg hk, if_neg hk]
  · rw [if_neg hknown, List.find?_append]
    by_cases hk : key = k
    · subst hk
      have hnone : groups.find? (fun group => group.1 == key) = none := by
        rw [List.find?_eq_none]
        exact fun group hgroup hkey => hknown (List.any_eq_true.mpr ⟨group, hgroup, hkey⟩)
      simp [hnone]
    · simp [hk]

/-- No key gets a second accumulator. -/
theorem accumulate_nodup (key : κ) (f : α → α) (h : (groups.map Prod.fst).Nodup) :
    ((accumulate empty key f groups).map Prod.fst).Nodup := by
  unfold accumulate
  split_ifs with hknown
  · have hkeys := @map_updateFirst _ _ (fun group : κ × α => group.1 == key)
      (fun group => (group.1, f group.2)) groups Prod.fst fun _ _ => rfl
    rw [hkeys]
    exact h
  · rw [List.map_append, List.nodup_append]
    refine ⟨h, by simp, ?_⟩
    intro k hk k' hk' heq
    obtain ⟨group, hgroup, rfl⟩ := List.mem_map.mp hk
    rw [List.map_singleton, List.mem_singleton] at hk'
    exact hknown (List.any_eq_true.mpr ⟨group, hgroup, by simp [heq, hk']⟩)

theorem mem_keys_accumulate {key k : κ} {f : α → α} :
    k ∈ (accumulate empty key f groups).map Prod.fst ↔ k = key ∨ k ∈ groups.map Prod.fst := by
  unfold accumulate
  split_ifs with hknown
  · have hkeys := @map_updateFirst _ _ (fun group : κ × α => group.1 == key)
      (fun group => (group.1, f group.2)) groups Prod.fst fun _ _ => rfl
    rw [hkeys]
    -- the key is there already
    refine ⟨.inr, fun h => h.elim (fun heq => ?_) id⟩
    obtain ⟨group, hgroup, hkey⟩ := List.any_eq_true.mp hknown
    exact List.mem_map.mpr ⟨group, hgroup, (eq_of_beq hkey).trans heq.symm⟩
  · rw [List.map_append, List.mem_append]
    simp [or_comm]

theorem length_accumulate {key : κ} {f : α → α} {groups : List (κ × α)} :
    (accumulate empty key f groups).length ≤ groups.length + 1 := by
  unfold accumulate
  split_ifs
  · rw [length_updateFirst]
    omega
  · simp

/-- Every group was there, or is the changed one. -/
theorem mem_accumulate {key : κ} {f : α → α} {group : κ × α}
    (h : group ∈ accumulate empty key f groups) : group ∈ groups ∨ ∃ old, group = (key, f old) := by
  unfold accumulate at h
  split_ifs at h
  · rcases updateFirst_cases (fun group : κ × α => group.1 == key)
      (fun group => (group.1, f group.2)) groups with
      ⟨-, heq⟩ | ⟨front, old, back, hgroups, -, hkey, heq⟩
    · exact .inl (heq ▸ h)
    · rw [heq, List.mem_append, List.mem_cons] at h
      rw [hgroups]
      rcases h with hfront | rfl | hback
      · exact .inl (List.mem_append_left _ hfront)
      · exact .inr ⟨old.2, by rw [eq_of_beq hkey]⟩
      · exact .inl (List.mem_append_right _ (List.mem_cons_of_mem _ hback))
  · rcases List.mem_append.mp h with hold | hnew
    · exact .inl hold
    · exact .inr ⟨empty, List.mem_singleton.mp hnew⟩

/-- The loop that puts the items that count into the groups of their keys. -/
def accumulateAll (empty : α) (counts : ι → Bool) (key : ι → κ) (f : ι → α → α)
    (groups : List (κ × α)) (items : List ι) : List (κ × α) :=
  replay (fun groups item =>
    if counts item then accumulate empty (key item) (f item) groups else groups) groups items

variable {counts : ι → Bool} {key : ι → κ} {f : ι → α → α}

/-- **Each key is a loop of its own**, over the items that count and have this key. -/
theorem accumulated_replay (groups : List (κ × α)) (items : List ι) (k : κ) :
    accumulated (accumulateAll empty counts key f groups items) k =
      replay (fun acc item => some (f item (acc.getD empty))) (accumulated groups k)
        (items.filter fun item => counts item && key item == k) := by
  unfold accumulateAll
  induction items using List.reverseRecOn with
  | nil => rfl
  | append_singleton items item ih =>
    rw [replay_snoc, List.filter_append]
    by_cases hcounts : counts item = true
    · rw [if_pos hcounts, accumulated_accumulate, ih]
      by_cases hk : key item = k
      · rw [if_pos hk]
        simp [hcounts, hk, replay_append]
      · rw [if_neg hk]
        simp [hk]
    · rw [if_neg hcounts, ih]
      simp [hcounts]

theorem accumulateAll_nodup (h : (groups.map Prod.fst).Nodup) (items : List ι) :
    ((accumulateAll empty counts key f groups items).map Prod.fst).Nodup := by
  refine replay_invariant (P := fun groups : List (κ × α) => (groups.map Prod.fst).Nodup) h ?_
  intro groups item _ hgroups
  split_ifs
  · exact accumulate_nodup _ _ hgroups
  · exact hgroups

/-- Where keys are unique, a group is what its key is answered with. -/
theorem mem_iff_accumulated (h : (groups.map Prod.fst).Nodup) {k : κ} {a : α} :
    (k, a) ∈ groups ↔ accumulated groups k = some a := by
  refine ⟨fun hmem => ?_, mem_of_accumulated⟩
  rw [accumulated, Option.map_eq_some_iff]
  exact ⟨(k, a), (find_key_eq_some h).mpr ⟨hmem, rfl⟩, rfl⟩

end Accumulate

section LastWriter

variable {κ α : Type*} [DecidableEq κ]

/-- A map of items by their keys; a later item takes the place of an earlier one. -/
def overwriteAll (key : α → κ) (items : List α) : List (κ × α) :=
  replay (fun groups a => accumulate a (key a) (fun _ => a) groups) [] items

theorem overwriteAll_snoc (key : α → κ) (items : List α) (a : α) :
    overwriteAll key (items ++ [a]) =
      accumulate a (key a) (fun _ => a) (overwriteAll key items) :=
  replay_snoc ..

theorem overwriteAll_nodup (key : α → κ) (items : List α) :
    ((overwriteAll key items).map Prod.fst).Nodup :=
  replay_invariant (P := fun groups : List (κ × α) => (groups.map Prod.fst).Nodup)
    List.nodup_nil fun _ _ _ h => accumulate_nodup _ _ h

theorem length_overwriteAll (key : α → κ) (items : List α) :
    (overwriteAll key items).length ≤ items.length := by
  induction items using List.reverseRecOn with
  | nil => exact Nat.le_refl _
  | append_singleton items a ih =>
    have hstep := @length_accumulate κ α _ a (key a) (fun _ => a) (overwriteAll key items)
    rw [overwriteAll_snoc, List.length_append, List.length_singleton]
    omega

/-- **The last writer wins**: a key is answered with the last item under it. -/
theorem accumulated_overwriteAll {key : α → κ} {items : List α} {k : κ} {a : α} :
    accumulated (overwriteAll key items) k = some a ↔
      key a = k ∧ ∃ front back, items = front ++ a :: back ∧ k ∉ back.map key := by
  induction items using List.reverseRecOn with
  | nil =>
    refine ⟨fun h => (nomatch h), ?_⟩
    rintro ⟨-, front, back, hitems, -⟩
    cases front <;> cases hitems
  | append_singleton items b ih =>
    rw [overwriteAll_snoc, accumulated_accumulate]
    by_cases hk : key b = k
    · -- the last item has the key
      rw [if_pos hk]
      constructor
      · intro h
        rw [← Option.some.inj h]
        exact ⟨hk, items, [], rfl, List.not_mem_nil⟩
      · rintro ⟨-, front, back, hitems, hback⟩
        rcases List.eq_nil_or_concat' back with rfl | ⟨init, last, rfl⟩
        · exact congrArg some (List.cons.inj (List.append_inj_right' hitems rfl)).1
        · have hlast : items ++ [b] = (front ++ a :: init) ++ [last] := by simpa using hitems
          have heq := (List.cons.inj (List.append_inj_right' hlast rfl)).1
          refine absurd ?_ hback
          rw [List.map_append, List.mem_append]
          exact .inr (by simp [← heq, hk])
    · rw [if_neg hk, ih]
      refine and_congr_right fun hkey => ⟨?_, ?_⟩
      · rintro ⟨front, back, hitems, hback⟩
        refine ⟨front, back ++ [b], by simp [hitems], ?_⟩
        rw [List.map_append, List.mem_append]
        rintro (hold | hlast)
        · exact hback hold
        · exact hk (List.mem_singleton.mp hlast).symm
      · rintro ⟨front, back, hitems, hback⟩
        rcases List.eq_nil_or_concat' back with rfl | ⟨init, last, rfl⟩
        · have heq := (List.cons.inj (List.append_inj_right' hitems rfl)).1
          exact absurd (heq ▸ hkey) hk
        · have hlast : items ++ [b] = (front ++ a :: init) ++ [last] := by simpa using hitems
          refine ⟨front, init, List.append_inj_left' hlast rfl, fun hmem => hback ?_⟩
          rw [List.map_append]
          exact List.mem_append_left _ hmem

theorem mem_overwriteAll {key : α → κ} {items : List α} {k : κ} {a : α} :
    (k, a) ∈ overwriteAll key items ↔
      key a = k ∧ ∃ front back, items = front ++ a :: back ∧ k ∉ back.map key := by
  rw [mem_iff_accumulated (overwriteAll_nodup key items), accumulated_overwriteAll]

/-- Every item has a last one under its key. -/
theorem exists_mem_overwriteAll {key : α → κ} {items : List α} {a : α} (h : a ∈ items) :
    ∃ last ∈ items, key last = key a ∧ (key a, last) ∈ overwriteAll key items := by
  have hkey : key a ∈ (overwriteAll key items).map Prod.fst := by
    induction items using List.reverseRecOn with
    | nil => cases h
    | append_singleton items b ih =>
      rw [overwriteAll_snoc, mem_keys_accumulate]
      rcases List.mem_append.mp h with hold | hlast
      · exact .inr (ih hold)
      · exact .inl (congrArg key (List.mem_singleton.mp hlast))
  obtain ⟨⟨k, last⟩, hmem, rfl⟩ := List.mem_map.mp hkey
  obtain ⟨hlast, front, back, hitems, -⟩ := mem_overwriteAll.mp hmem
  refine ⟨last, ?_, hlast, hmem⟩
  rw [hitems]
  exact List.mem_append_right _ (List.mem_cons_self ..)

end LastWriter

section FirstWriter

variable {κ α : Type*} [DecidableEq κ]

/-- Write under a key that has no value yet. -/
def putIfAbsent (table : κ → Option α) (key : κ) (a : α) : κ → Option α :=
  Function.update table key (some ((table key).getD a))

theorem putIfAbsent_apply (table : κ → Option α) (key k : κ) (a : α) :
    putIfAbsent table key a k = (table k).or (if key = k then some a else none) := by
  unfold putIfAbsent
  by_cases hk : k = key
  · subst hk
    rw [Function.update_self, if_pos rfl]
    cases table k <;> rfl
  · rw [Function.update_of_ne hk, if_neg (Ne.symm hk)]
    cases table k <;> rfl

/-- **The first writer wins**: after a loop of writes a key has what it had, or else the value
    of the first write under it. -/
theorem replay_putIfAbsent {ι : Type*} (key : ι → κ) (value : ι → α) (table : κ → Option α)
    (items : List ι) (k : κ) :
    replay (fun table item => putIfAbsent table (key item) (value item)) table items k =
      (table k).or ((items.find? fun item => decide (key item = k)).map value) := by
  induction items generalizing table with
  | nil => cases h : table k <;> simp [h]
  | cons item rest ih =>
    rw [replay_cons, ih, putIfAbsent_apply]
    by_cases hk : key item = k
    · rw [if_pos hk, List.find?_cons, decide_eq_true hk]
      cases table k <;> rfl
    · rw [if_neg hk, List.find?_cons, decide_eq_false hk]
      cases table k <;> rfl

end FirstWriter

section Filter

variable {α β : Type*} {p q : α → Bool} {f : α → α} {items : List α}

/-- An update of elements that pass the filter is an update of what passes. -/
theorem filter_updateFirst (h : ∀ a, p a = true → q a = true ∧ q (f a) = true) :
    (updateFirst p f items).filter q = updateFirst p f (items.filter q) := by
  induction items with
  | nil => rfl
  | cons a rest ih =>
    rw [updateFirst_cons]
    by_cases hp : p a = true
    · obtain ⟨hq, hq'⟩ := h a hp
      rw [if_pos hp, List.filter_cons_of_pos hq', List.filter_cons_of_pos hq, updateFirst_cons,
        if_pos hp]
    · rw [if_neg hp]
      by_cases hq : q a = true
      · rw [List.filter_cons_of_pos hq, List.filter_cons_of_pos hq, updateFirst_cons, if_neg hp, ih]
      · rw [List.filter_cons_of_neg hq, List.filter_cons_of_neg hq, ih]

/-- An update of elements that do not pass the filter is none of what passes. -/
theorem filter_updateFirst_of_not (h : ∀ a, p a = true → q a = false ∧ q (f a) = false) :
    (updateFirst p f items).filter q = items.filter q := by
  induction items with
  | nil => rfl
  | cons a rest ih =>
    rw [updateFirst_cons]
    by_cases hp : p a = true
    · obtain ⟨hq, hq'⟩ := h a hp
      rw [if_pos hp, List.filter_cons_of_neg (by simp [hq']), List.filter_cons_of_neg (by simp [hq])]
    · rw [if_neg hp, List.filter_cons, List.filter_cons, ih]

/-- The update is at the place where the search ends. -/
theorem updateFirst_of_find {a : α} (h : items.find? p = some a) :
    ∃ front back, items = front ++ a :: back ∧
      ∀ f, updateFirst p f items = front ++ f a :: back := by
  obtain ⟨ha, front, back, rfl, hfront⟩ := List.find?_eq_some_iff_append.mp h
  refine ⟨front, back, rfl, fun f => ?_⟩
  clear h
  induction front with
  | nil => rw [List.nil_append, updateFirst_cons, if_pos ha, List.nil_append]
  | cons b rest ih =>
    have hb := hfront b List.mem_cons_self
    rw [List.cons_append, updateFirst_cons, if_neg (by simpa using hb),
      ih fun c hc => hfront c (List.mem_cons_of_mem _ hc), List.cons_append]

/-- The update changes nothing if it does not change what the search finds. -/
theorem updateFirst_eq_self_iff {a : α} (h : items.find? p = some a) :
    updateFirst p f items = items ↔ f a = a := by
  obtain ⟨front, back, hitems, hupdate⟩ := updateFirst_of_find h
  rw [hupdate, hitems, List.append_cancel_left_eq, List.cons.injEq]
  exact and_iff_left rfl

/-- A search that answers inside the filter only is a search of what passes. -/
theorem findSome_filter {g : α → Option β} (h : ∀ a ∈ items, q a = false → g a = none) :
    (items.filter q).findSome? g = items.findSome? g := by
  induction items with
  | nil => rfl
  | cons a rest ih =>
    have hrest := ih fun b hb => h b (List.mem_cons_of_mem a hb)
    by_cases hq : q a = true
    · rw [List.filter_cons_of_pos hq, List.findSome?_cons, List.findSome?_cons, hrest]
    · rw [List.filter_cons_of_neg hq, List.findSome?_cons, h a List.mem_cons_self (by simpa using hq),
        hrest]

/-- A list that is cut where a condition starts to hold is cut at one place. -/
private theorem cut_unique {r : α → Bool} {front back front' back' : List α}
    (h : front ++ back = front' ++ back') (hfront : ∀ a ∈ front, r a = false)
    (hfront' : ∀ a ∈ front', r a = false) (hback : ∀ a ∈ back, r a = true)
    (hback' : ∀ a ∈ back', r a = true) : front = front' ∧ back = back' := by
  have hleft : ∀ {l : List α}, (∀ a ∈ l, r a = false) → l.filter r = [] := by
    intro l hl
    rw [List.filter_eq_nil_iff]
    exact fun a ha => by simp [hl a ha]
  have hboth := congrArg (List.filter r) h
  rw [List.filter_append, List.filter_append, hleft hfront, hleft hfront',
    List.filter_eq_self.mpr hback, List.filter_eq_self.mpr hback'] at hboth
  have hsame : back = back' := by simpa using hboth
  rw [hsame] at h
  exact ⟨List.append_cancel_right h, hsame⟩

/-- **A stable sort and a filter commute.** -/
theorem filter_mergeSort {le : α → α → Bool}
    (htrans : ∀ a b c, le a b = true → le b c = true → le a c = true)
    (htotal : ∀ a b, (le a b || le b a) = true) (q : α → Bool) (items : List α) :
    (items.mergeSort le).filter q = (items.filter q).mergeSort le := by
  induction items with
  | nil => simp
  | cons a rest ih =>
    obtain ⟨front, back, hall, hrest, hfront⟩ := List.mergeSort_cons htrans htotal a rest
    have hsorted := List.pairwise_mergeSort htrans htotal (a :: rest)
    rw [hall, List.pairwise_append] at hsorted
    have hback : ∀ b ∈ back, le a b = true :=
      fun b hb => (List.pairwise_cons.mp hsorted.2.1).1 b hb
    rw [hall, List.filter_append]
    by_cases hq : q a = true
    · rw [List.filter_cons_of_pos hq, List.filter_cons_of_pos hq]
      obtain ⟨front', back', hall', hrest', hfront'⟩ :=
        List.mergeSort_cons htrans htotal a (rest.filter q)
      have hsorted' := List.pairwise_mergeSort htrans htotal (a :: rest.filter q)
      rw [hall', List.pairwise_append] at hsorted'
      -- the element stands before the first one that is not smaller
      have hcut : front.filter q ++ back.filter q = front' ++ back' := by
        rw [← List.filter_append, ← hrest, ih, hrest']
      obtain ⟨hf, hb⟩ := @cut_unique _ (le a) _ _ _ _ hcut
        (fun b hb => by simpa using hfront b (List.mem_filter.mp hb).1)
        (fun b hb => by simpa using hfront' b hb)
        (fun b hb => hback b (List.mem_filter.mp hb).1)
        (fun b hb => (List.pairwise_cons.mp hsorted'.2.1).1 b hb)
      rw [hall', hf, hb]
    · rw [List.filter_cons_of_neg hq, List.filter_cons_of_neg hq, ← List.filter_append, ← hrest, ih]

end Filter

end Replay
