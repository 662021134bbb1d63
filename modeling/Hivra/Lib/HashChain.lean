import Mathlib.Data.List.Forall2
import Mathlib.Data.List.Induction

namespace HashChain

/-!
# Linked logs

A log whose items name the commitment of the item before them.  A `Link` says which
item may stand at which position, which commitment an item names and which one it
leaves behind; nothing is assumed about the commitments themselves.
-/

/-- How the items of a log are linked. -/
structure Link (α γ : Type*) where
  /-- Which item may stand at which position. -/
  admits : ℕ → α → Prop
  /-- The commitment an item says it follows. -/
  previous : α → γ
  /-- The commitment after an item. -/
  commit : α → γ

variable {α γ : Type*} (link : Link α γ)

/-- The commitment after all items of a log that starts behind `start`. -/
def tail (start : γ) : List α → γ
  | [] => start
  | x :: rest => tail (link.commit x) rest

/-- The items are linked, the first one at position `index` and behind `start`. -/
def Linked : ℕ → γ → List α → Prop
  | _, _, [] => True
  | index, start, x :: rest =>
    link.admits index x ∧ link.previous x = start ∧ Linked (index + 1) (link.commit x) rest

@[simp] theorem tail_nil (start : γ) : tail link start [] = start := rfl

@[simp] theorem linked_nil (index : ℕ) (start : γ) : Linked link index start [] := trivial

theorem tail_append (start : γ) (front back : List α) :
    tail link start (front ++ back) = tail link (tail link start front) back := by
  induction front generalizing start with
  | nil => rfl
  | cons x rest ih => exact ih (link.commit x)

/-- The tail after one more item is the commitment of that item. -/
@[simp] theorem tail_snoc (start : γ) (items : List α) (x : α) :
    tail link start (items ++ [x]) = link.commit x := by
  rw [tail_append]
  rfl

/-- A log is linked iff its front is and its back is linked behind the front's tail. -/
theorem linked_append (index : ℕ) (start : γ) (front back : List α) :
    Linked link index start (front ++ back) ↔
      Linked link index start front ∧
        Linked link (index + front.length) (tail link start front) back := by
  induction front generalizing index start with
  | nil => simp
  | cons x rest ih =>
    have hlen : index + (x :: rest).length = index + 1 + rest.length := by
      rw [List.length_cons]; omega
    rw [List.cons_append, hlen]
    simp only [Linked, ih, tail, and_assoc]

/-- One more item keeps a log linked iff it fits its position and names the tail. -/
theorem linked_snoc (index : ℕ) (start : γ) (items : List α) (x : α) :
    Linked link index start (items ++ [x]) ↔
      Linked link index start items ∧ link.admits (index + items.length) x ∧
        link.previous x = tail link start items := by
  rw [linked_append]
  simp [Linked]

/-- Every item of a linked log is admitted at a position of the log. -/
theorem Linked.exists_admits {index : ℕ} {start : γ} {items : List α}
    (h : Linked link index start items) :
    ∀ x ∈ items, ∃ i, i < index + items.length ∧ link.admits i x := by
  induction items generalizing index start with
  | nil => simp
  | cons y rest ih =>
    intro x hx
    rw [List.length_cons]
    rcases List.mem_cons.mp hx with rfl | hrest
    · exact ⟨index, by omega, h.1⟩
    · obtain ⟨i, hi, hadmits⟩ := ih h.2.2 x hrest
      exact ⟨i, by omega, hadmits⟩

/-- **Binding.**  Where equal commitments are those of related items that follow the same
    commitment, and no item commits to the start of the other log, two logs with one tail are
    related item by item. -/
theorem tail_binds {link link' : Link α γ} {R : α → α → Prop} {index index' : ℕ}
    {start start' : γ} {items items' : List α} (hlinked : Linked link index start items)
    (hlinked' : Linked link' index' start' items')
    (hcommit : ∀ x ∈ items, ∀ y ∈ items', link.commit x = link'.commit y →
      R x y ∧ link.previous x = link'.previous y)
    (hstart : ∀ y ∈ items', link'.commit y ≠ start) (hstart' : ∀ x ∈ items, link.commit x ≠ start')
    (h : tail link start items = tail link' start' items') :
    start = start' ∧ List.Forall₂ R items items' := by
  induction items using List.reverseRecOn generalizing items' with
  | nil =>
    rcases List.eq_nil_or_concat items' with rfl | ⟨front', y, rfl⟩
    · exact ⟨h, .nil⟩
    · -- the other log ends in an item
      rw [List.concat_eq_append] at h hstart
      rw [tail_snoc] at h
      exact absurd h.symm (hstart y List.mem_concat_self)
  | append_singleton front x ih =>
    rcases List.eq_nil_or_concat items' with rfl | ⟨front', y, rfl⟩
    · rw [tail_snoc] at h
      exact absurd h (hstart' x List.mem_concat_self)
    · rw [List.concat_eq_append] at h hlinked' hcommit hstart ⊢
      rw [tail_snoc, tail_snoc] at h
      obtain ⟨hfront, -, hprevious⟩ := (linked_snoc link index start front x).mp hlinked
      obtain ⟨hfront', -, hprevious'⟩ := (linked_snoc link' index' start' front' y).mp hlinked'
      obtain ⟨hrelated, hsame⟩ := hcommit x List.mem_concat_self y List.mem_concat_self h
      -- both last items follow the tails of the fronts
      have htail : tail link start front = tail link' start' front' := by
        rw [← hprevious, ← hprevious', hsame]
      obtain ⟨hstarts, hfronts⟩ := ih hfront hfront'
        (fun a ha b hb => hcommit a (List.mem_append_left _ ha) b (List.mem_append_left _ hb))
        (fun b hb => hstart b (List.mem_append_left _ hb))
        (fun a ha => hstart' a (List.mem_append_left _ ha)) htail
      exact ⟨hstarts, List.rel_append hfronts (.cons hrelated .nil)⟩

end HashChain
