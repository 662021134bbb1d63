import Mathlib.Data.List.Nodup

namespace TicketLine

/-!
# A line in which newer requests supersede older ones

Requests are served in the order in which they come.  A request has a key, and the newest one of
its key is known by a number: a request takes the next number of its key, and the number is
forgotten when the newest one is done.

* `Sound` — what `enter` and `leave` keep.
* `newest_enter`, `newest_of_leave` — what becomes of the newest one.
-/

variable {κ ι : Type*} [DecidableEq κ]

structure Ticket (κ ι : Type*) where
  owner : ι
  key : κ
  number : ℕ
  deriving DecidableEq

structure Line (κ ι : Type*) where
  numbers : κ → Option ℕ
  queue : List (Ticket κ ι)

def Line.empty : Line κ ι := ⟨fun _ => none, []⟩

/-- The next ticket of a key. -/
def Line.nextTicket (line : Line κ ι) (key : κ) (owner : ι) : Ticket κ ι :=
  ⟨owner, key, (line.numbers key).getD 0 + 1⟩

/-- A request goes to the end of the line. -/
def Line.enter (line : Line κ ι) (key : κ) (owner : ι) : Line κ ι where
  numbers := Function.update line.numbers key (some (line.nextTicket key owner).number)
  queue := line.queue ++ [line.nextTicket key owner]

/-- The first one of the line is done. -/
def Line.leave (line : Line κ ι) (ticket : Ticket κ ι) : Line κ ι where
  numbers :=
    if line.numbers ticket.key = some ticket.number then
      Function.update line.numbers ticket.key none
    else line.numbers
  queue := line.queue.tail

/-- The number of the ticket is the current one. -/
def Line.IsCurrent (line : Line κ ι) (ticket : Ticket κ ι) : Prop :=
  line.numbers ticket.key = some ticket.number

instance (line : Line κ ι) (ticket : Ticket κ ι) : Decidable (line.IsCurrent ticket) :=
  inferInstanceAs (Decidable (_ = _))

/-- The last request of a key that waits. -/
def newest (queue : List (Ticket κ ι)) (key : κ) : Option (Ticket κ ι) :=
  (queue.filter fun ticket => ticket.key = key).getLast?

variable {ticket : Ticket κ ι} {queue : List (Ticket κ ι)}

theorem newest_mem {key : κ} (h : newest queue key = some ticket) :
    ticket ∈ queue ∧ ticket.key = key := by
  have hmem := List.mem_of_getLast? h
  rw [List.mem_filter, decide_eq_true_eq] at hmem
  exact hmem

theorem newest_append (queue : List (Ticket κ ι)) (ticket : Ticket κ ι) (key : κ) :
    newest (queue ++ [ticket]) key =
      if ticket.key = key then some ticket else newest queue key := by
  unfold newest
  rw [List.filter_append]
  split_ifs with hkey
  · rw [List.filter_cons_of_pos (by simpa using hkey), List.filter_nil, List.getLast?_concat]
  · rw [List.filter_cons_of_neg (by simpa using hkey), List.filter_nil, List.append_nil]

theorem newest_cons (ticket : Ticket κ ι) (queue : List (Ticket κ ι)) (key : κ) :
    newest (ticket :: queue) key =
      (newest queue key).or (if ticket.key = key then some ticket else none) := by
  unfold newest
  split_ifs with hkey
  · rw [List.filter_cons_of_pos (by simpa using hkey), List.getLast?_cons]
    cases (queue.filter fun ticket => ticket.key = key).getLast? <;> rfl
  · rw [List.filter_cons_of_neg (by simpa using hkey), Option.or_none]

/-- The numbers of a key rise along the line, and the last one is the current one. -/
structure Sound (line : Line κ ι) : Prop where
  rising : line.queue.Pairwise fun a b => a.key = b.key → a.number < b.number
  current : ∀ key, line.numbers key = (newest line.queue key).map Ticket.number

theorem Sound.empty : Sound (Line.empty : Line κ ι) := ⟨List.Pairwise.nil, fun _ => rfl⟩

variable {line : Line κ ι}

/-- Requests of a key are told apart by their numbers. -/
theorem Sound.eq_of_number (h : Sound line) {a b : Ticket κ ι} (ha : a ∈ line.queue)
    (hb : b ∈ line.queue) (hkey : a.key = b.key) (hnumber : a.number = b.number) : a = b := by
  rcases List.pairwise_iff_getElem.mp h.rising with hrising
  obtain ⟨m, hm, rfl⟩ := List.getElem_of_mem ha
  obtain ⟨n, hn, rfl⟩ := List.getElem_of_mem hb
  rcases Nat.lt_trichotomy m n with hlt | rfl | hlt
  · have := hrising m n hm hn hlt hkey
    omega
  · rfl
  · have := hrising n m hn hm hlt hkey.symm
    omega

/-- **A request in the line with the current number is the newest one of its key.** -/
theorem Sound.newest_of_current (h : Sound line) (hmem : ticket ∈ line.queue)
    (hcurrent : line.IsCurrent ticket) : newest line.queue ticket.key = some ticket := by
  have hnumber : (newest line.queue ticket.key).map Ticket.number = some ticket.number :=
    (h.current ticket.key).symm.trans hcurrent
  obtain ⟨other, hother, heq⟩ := Option.map_eq_some_iff.mp hnumber
  obtain ⟨hin, hkey⟩ := newest_mem hother
  rw [hother, h.eq_of_number hin hmem hkey heq]

theorem le_newest (h : queue.Pairwise fun a b => a.key = b.key → a.number < b.number) {key : κ}
    {last : Ticket κ ι} (hlast : newest queue key = some last) (hmem : ticket ∈ queue)
    (hkey : ticket.key = key) : ticket.number ≤ last.number := by
  induction queue with
  | nil => exact nomatch hmem
  | cons first rest ih =>
    rw [List.pairwise_cons] at h
    rw [newest_cons] at hlast
    cases hrest : newest rest key with
    | some other =>
      rw [hrest, Option.some_or] at hlast
      obtain rfl := Option.some.inj hlast
      obtain ⟨hin, hother⟩ := newest_mem hrest
      rcases List.mem_cons.mp hmem with rfl | hmem
      · have hlt := h.1 other hin (hkey.trans hother.symm)
        omega
      · exact ih h.2 hrest hmem
    | none =>
      -- nothing of the key comes after the first
      rw [hrest, Option.none_or] at hlast
      split_ifs at hlast
      obtain rfl := Option.some.inj hlast
      rcases List.mem_cons.mp hmem with rfl | hmem
      · exact Nat.le_refl _
      · unfold newest at hrest
        rw [List.getLast?_eq_none_iff, List.filter_eq_nil_iff] at hrest
        exact absurd (decide_eq_true hkey) (hrest ticket hmem)

/-! ### Coming and going -/

theorem newest_enter (line : Line κ ι) (key : κ) (owner : ι) (k : κ) :
    newest (line.enter key owner).queue k =
      if key = k then some (line.nextTicket key owner) else newest line.queue k :=
  newest_append _ _ _

theorem Sound.enter (h : Sound line) (key : κ) (owner : ι) : Sound (line.enter key owner) where
  rising := by
    refine List.pairwise_append.mpr ⟨h.rising, List.pairwise_singleton _ _, ?_⟩
    intro a ha b hb hkey
    obtain rfl := List.mem_singleton.mp hb
    -- no number of the key is above the current one
    have hkey : a.key = key := hkey
    show a.number < (line.numbers key).getD 0 + 1
    rw [h.current key]
    cases hnewest : newest line.queue key with
    | none =>
      unfold newest at hnewest
      rw [List.getLast?_eq_none_iff, List.filter_eq_nil_iff] at hnewest
      exact absurd (decide_eq_true hkey) (hnewest a ha)
    | some last =>
      have hle := le_newest h.rising hnewest ha hkey
      show a.number < last.number + 1
      omega
  current k := by
    rw [newest_enter]
    show Function.update line.numbers key _ k = _
    by_cases hk : key = k
    · subst hk
      rw [Function.update_self, if_pos rfl]
      rfl
    · rw [Function.update_of_ne (Ne.symm hk), if_neg hk, h.current k]

/-- What is the newest one after the first one is done was it before. -/
theorem newest_of_leave {key : κ} {last : Ticket κ ι}
    (h : newest (line.leave ticket).queue key = some last) : newest line.queue key = some last := by
  have htail : newest line.queue.tail key = some last := h
  cases hqueue : line.queue with
  | nil =>
    rw [hqueue] at htail
    exact htail
  | cons first rest =>
    rw [hqueue, List.tail_cons] at htail
    rw [newest_cons, htail, Option.some_or]

theorem Sound.leave (h : Sound line) (hfirst : line.queue.head? = some ticket) :
    Sound (line.leave ticket) := by
  obtain ⟨rest, hqueue⟩ : ∃ rest, line.queue = ticket :: rest := by
    cases hqueue : line.queue with
    | nil =>
      rw [hqueue] at hfirst
      exact nomatch hfirst
    | cons first rest =>
      rw [hqueue] at hfirst
      exact ⟨rest, by rw [← Option.some.inj hfirst]⟩
  have hrising := h.rising
  rw [hqueue, List.pairwise_cons] at hrising
  have hleft : (line.leave ticket).queue = rest := by
    show line.queue.tail = rest
    rw [hqueue, List.tail_cons]
  refine ⟨hleft ▸ hrising.2, fun key => ?_⟩
  rw [hleft]
  have hcurrent := h.current key
  rw [hqueue, newest_cons] at hcurrent
  show (if line.numbers ticket.key = some ticket.number then
      Function.update line.numbers ticket.key none else line.numbers) key = _
  cases hrest : newest rest key with
  | none =>
    -- the first one was the newest of its key
    rw [hrest, Option.none_or] at hcurrent
    by_cases hkey : ticket.key = key
    · subst hkey
      rw [if_pos rfl, Option.map_some] at hcurrent
      rw [if_pos hcurrent, Function.update_self]
      rfl
    · rw [if_neg hkey] at hcurrent
      split_ifs
      · rw [Function.update_of_ne (Ne.symm hkey), hcurrent]
      · exact hcurrent
  | some last =>
    rw [hrest, Option.some_or] at hcurrent
    obtain ⟨hin, hlast⟩ := newest_mem hrest
    split_ifs with hnumber
    · by_cases hkey : ticket.key = key
      · subst hkey
        have hlt := hrising.1 last hin hlast.symm
        rw [hcurrent, Option.map_some, Option.some.injEq] at hnumber
        omega
      · rw [Function.update_of_ne (Ne.symm hkey), hcurrent]
    · exact hcurrent

end TicketLine
