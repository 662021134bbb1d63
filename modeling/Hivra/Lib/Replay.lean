import Mathlib.Data.List.Basic
import Mathlib.Data.List.Induction
import Mathlib.Data.List.Nodup

namespace Replay

/-!
# Replaying a log

A projection of an append-only log is a left fold over its items.  This file has the
rules such projections are reasoned with, and the update of the first matching entry of
a list, which is how an indexed or mutable search in a loop changes a list.

* `along_invariant`, `Along.imp` — runs where each item meets a condition.
* `find_key_updateFirst`, `find_key_perm` — what a search by key makes of it.
-/

section Replay

variable {σ τ ι : Type*}

/-- The projection of a log. -/
def replay (step : σ → ι → σ) (start : σ) (log : List ι) : σ := log.foldl step start

variable (step : σ → ι → σ)

@[simp] theorem replay_nil (start : σ) : replay step start [] = start := rfl

@[simp] theorem replay_cons (start : σ) (x : ι) (log : List ι) :
    replay step start (x :: log) = replay step (step start x) log := rfl

theorem replay_append (start : σ) (front back : List ι) :
    replay step start (front ++ back) = replay step (replay step start front) back :=
  List.foldl_append

/-- One more item is one more step. -/
theorem replay_snoc (start : σ) (log : List ι) (x : ι) :
    replay step start (log ++ [x]) = step (replay step start log) x := by
  rw [replay_append]
  rfl

variable {step} {log : List ι} {P : σ → Prop}

/-- **Invariant rule.** What every step over an item of the log keeps holds after it. -/
theorem replay_invariant {start : σ} (hstart : P start)
    (hstep : ∀ s, ∀ x ∈ log, P s → P (step s x)) : P (replay step start log) := by
  induction log generalizing start with
  | nil => exact hstart
  | cons x log ih =>
    have hx : P (step start x) := hstep start x List.mem_cons_self hstart
    exact ih hx fun s y hy => hstep s y (List.mem_cons_of_mem x hy)

/-- **Simulation rule.** A relation that every step keeps relates two replays of a log. -/
theorem replay_simulation {step' : τ → ι → τ} {R : σ → τ → Prop} {start : σ} {start' : τ}
    (hstart : R start start') (hstep : ∀ s t, ∀ x ∈ log, R s t → R (step s x) (step' t x)) :
    R (replay step start log) (replay step' start' log) := by
  induction log generalizing start start' with
  | nil => exact hstart
  | cons x log ih =>
    have hx := hstep start start' x List.mem_cons_self hstart
    exact ih hx fun s t y hy => hstep s t y (List.mem_cons_of_mem x hy)

/-- Along a log every item meets its condition in the state it finds. -/
def Along (step : σ → ι → σ) (meets : σ → ι → Prop) (s : σ) : List ι → Prop
  | [] => True
  | x :: log => meets s x ∧ Along step meets (step s x) log

instance decidableAlong {meets : σ → ι → Prop} [∀ s x, Decidable (meets s x)] :
    ∀ (s : σ) (log : List ι), Decidable (Along step meets s log)
  | _, [] => isTrue trivial
  | s, x :: log =>
    have : Decidable (Along step meets (step s x) log) := decidableAlong (step s x) log
    inferInstanceAs (Decidable (meets s x ∧ Along step meets (step s x) log))

variable {meets : σ → ι → Prop} {s : σ}

theorem along_append {front back : List ι} :
    Along step meets s (front ++ back) ↔
      Along step meets s front ∧ Along step meets (replay step s front) back := by
  induction front generalizing s with
  | nil => simp [Along]
  | cons x front ih =>
    rw [List.cons_append, Along, Along, ih, and_assoc]
    rfl

/-- **Invariant rule along a log.** An invariant that steps keep where the condition is met. -/
theorem along_invariant (hlog : Along step meets s log) (hstart : P s)
    (hstep : ∀ s x, P s → meets s x → P (step s x)) : P (replay step s log) := by
  induction log generalizing s with
  | nil => exact hstart
  | cons x log ih =>
    have hx : P (step s x) := hstep s x hstart hlog.1
    exact ih hlog.2 hx

/-- Two conditions that are the same in every state with an invariant. -/
theorem along_congr {meets meets' : σ → ι → Prop} (hstart : P s) (hstep : ∀ s x, P s → P (step s x))
    (h : ∀ s x, P s → (meets s x ↔ meets' s x)) :
    Along step meets s log ↔ Along step meets' s log := by
  induction log generalizing s with
  | nil => exact Iff.rfl
  | cons x log ih =>
    rw [Along, Along, h s x hstart, ih (hstep s x hstart)]

/-- A condition that is implied is met along a log too. -/
theorem Along.imp {meets' : σ → ι → Prop} (h : ∀ s x, meets s x → meets' s x)
    (hlog : Along step meets s log) : Along step meets' s log := by
  induction log generalizing s with
  | nil => exact trivial
  | cons x log ih => exact ⟨h s x hlog.1, ih hlog.2⟩

end Replay

section UpdateFirst

variable {α β : Type*}

/-- Change the first element that satisfies `p`. -/
def updateFirst (p : α → Bool) (f : α → α) (items : List α) : List α :=
  items.replaceF fun a => if p a then some (f a) else none

variable {p : α → Bool} {f : α → α} {items : List α}

@[simp] theorem updateFirst_nil : updateFirst p f [] = [] := rfl

theorem updateFirst_cons (a : α) (rest : List α) :
    updateFirst p f (a :: rest) = if p a then f a :: rest else a :: updateFirst p f rest := by
  unfold updateFirst
  rw [List.replaceF_cons]
  split_ifs <;> rfl

@[simp] theorem length_updateFirst : (updateFirst p f items).length = items.length :=
  List.length_replaceF

/-- **Case rule.** Either nothing matches and nothing changes, or the first match does. -/
theorem updateFirst_cases (p : α → Bool) (f : α → α) (items : List α) :
    ((∀ a ∈ items, p a = false) ∧ updateFirst p f items = items) ∨
      ∃ front a back, items = front ++ a :: back ∧ (∀ b ∈ front, p b = false) ∧ p a = true ∧
        updateFirst p f items = front ++ f a :: back := by
  induction items with
  | nil => exact Or.inl ⟨by simp, rfl⟩
  | cons a rest ih =>
    by_cases ha : p a = true
    · exact Or.inr ⟨[], a, rest, rfl, by simp, ha, by rw [updateFirst_cons, if_pos ha]; rfl⟩
    · have ha' : p a = false := by simpa using ha
      rw [updateFirst_cons, if_neg ha]
      rcases ih with ⟨hnone, heq⟩ | ⟨front, b, back, hitems, hfront, hb, heq⟩
      · refine Or.inl ⟨?_, by rw [heq]⟩
        intro c hc
        rcases List.mem_cons.mp hc with rfl | hc
        · exact ha'
        · exact hnone c hc
      · refine Or.inr ⟨a :: front, b, back, by rw [hitems]; rfl, ?_, hb, by rw [heq]; rfl⟩
        intro c hc
        rcases List.mem_cons.mp hc with rfl | hc
        · exact ha'
        · exact hfront c hc

/-- Every element behind the update was there, or is the changed one. -/
theorem mem_updateFirst {b : α} (h : b ∈ updateFirst p f items) :
    b ∈ items ∨ ∃ a ∈ items, b = f a := by
  rcases updateFirst_cases p f items with ⟨-, heq⟩ | ⟨front, a, back, hitems, -, -, heq⟩
  · rw [heq] at h
    exact Or.inl h
  · rw [heq] at h
    rw [hitems]
    rcases List.mem_append.mp h with hfront | hback
    · exact Or.inl (List.mem_append_left _ hfront)
    · rcases List.mem_cons.mp hback with rfl | hrest
      · exact Or.inr ⟨a, by simp, rfl⟩
      · exact Or.inl (by simp [hrest])

/-- What the update leaves alone in every element it leaves alone in the list. -/
theorem map_updateFirst (g : α → β) (hg : ∀ a, p a = true → g (f a) = g a) :
    (updateFirst p f items).map g = items.map g := by
  induction items with
  | nil => rfl
  | cons a rest ih =>
    rw [updateFirst_cons]
    split_ifs with ha
    · rw [List.map_cons, List.map_cons, hg a ha]
    · rw [List.map_cons, List.map_cons, ih]

variable {key : α → β}

/-- Where keys are unique, the first match of a key is the only one. -/
theorem updateFirst_eq_map [DecidableEq β] (hnodup : (items.map key).Nodup) (k : β) (f : α → α) :
    updateFirst
    (fun a => key a == k) f items = items.map fun a => if key a = k then f a else a := by
  induction items with
  | nil => rfl
  | cons a rest ih =>
    obtain ⟨hnot, hrest⟩ := List.nodup_cons.mp hnodup
    rw [updateFirst_cons, List.map_cons]
    by_cases ha : key a = k
    · have hsame : ∀ b ∈ rest, (if key b = k then f b else b) = id b := by
        intro b hb
        rw [if_neg]
        · rfl
        · intro hbk
          exact hnot (List.mem_map.mpr ⟨b, hb, hbk.trans ha.symm⟩)
      rw [if_pos (by simpa using ha), if_pos ha, List.map_congr_left hsame, List.map_id]
    · rw [if_neg (by simpa using ha), if_neg ha, ih hrest]

/-- A search by key meets the update only where it searches the updated key. -/
theorem find_key_updateFirst [DecidableEq β] [BEq β] [LawfulBEq β] {key : α → β} {k' : β}
    (hkey : ∀ a, key a = k' → key (f a) = k') (k : β) :
    (updateFirst (fun a => key a == k') f items).find? (fun a => key a == k) =
      if k' = k then (items.find? fun a => key a == k).map f
      else items.find? fun a => key a == k := by
  induction items with
  | nil => simp
  | cons a rest ih =>
    rw [updateFirst_cons]
    by_cases ha : key a = k'
    · rw [if_pos (by simpa using ha)]
      by_cases hk : k' = k
      · simp [hkey a ha, ha, hk]
      · simp [hkey a ha, ha, hk]
    · rw [if_neg (by simpa using ha)]
      by_cases hk : k' = k
      · have hother : ¬ key a = k := fun h => ha (h.trans hk.symm)
        simpa [List.find?_cons, hother, hk] using ih
      · by_cases hak : key a = k
        · simp [hak, hk]
        · simpa [List.find?_cons, hak, hk] using ih

/-- Where keys are unique, a search by key finds what is there. -/
theorem find_key_eq_some [BEq β] [LawfulBEq β] (hnodup : (items.map key).Nodup) {k : β} {a : α} :
    items.find? (fun a => key a == k) = some a ↔ a ∈ items ∧ key a = k := by
  constructor
  · intro h
    exact ⟨List.mem_of_find?_eq_some h, by simpa using List.find?_some h⟩
  · rintro ⟨hmem, hkey⟩
    cases hfound : items.find? fun a => key a == k with
    | none =>
      have hnone := List.find?_eq_none.mp hfound a hmem
      exact absurd hkey (by simpa using hnone)
    | some b =>
      have hb : key b = k := by simpa using List.find?_some hfound
      rw [List.inj_on_of_nodup_map hnodup (List.mem_of_find?_eq_some hfound) hmem
        (hb.trans hkey.symm)]

/-- Where keys are unique, a search by key does not depend on the order. -/
theorem find_key_perm [BEq β] [LawfulBEq β] (hnodup : (items.map key).Nodup) {items' : List α}
    (hperm : items.Perm items') (k : β) :
    items'.find? (fun a => key a == k) = items.find? fun a => key a == k := by
  have hnodup' : (items'.map key).Nodup := (hperm.map key).nodup_iff.mp hnodup
  apply Option.ext
  intro a
  rw [find_key_eq_some hnodup', find_key_eq_some hnodup, hperm.mem_iff]

end UpdateFirst

end Replay
