import Mathlib.Data.List.Nodup
import Hivra.Lib.Replay

namespace SharedCell

open Replay

/-!
# Calls on a shared cell

A call reads a cell, makes something of what it has read and writes it back later.  Nothing
keeps other calls from writing in between, and what they wrote is then lost.  A read may first
have to bring the cell into another form, which it writes back as well.

* `Cell.left_of_fresh` — what a call leaves, and no other takes away, is there behind such a run.
-/

/-- How calls use a cell: what a read answers, what it writes back first, what it answers where
    this fails, which calls get as far as to read, and what a call writes. -/
structure Cell (File Items Call : Type*) where
  read : File → Items
  refresh : File → Option File
  unrefreshed : Items
  ready : Call → Bool
  write : Call → Items → Option File

/-- Where a call is. -/
inductive Phase (File Items : Type*)
  | waiting
  | refreshing (items : Items) (file : File)
  | loaded (items : Items)
  | done

/-- The cell, the calls on it and the order in which calls were completed. -/
structure State (File Items ι : Type*) where
  file : File
  phase : ι → Phase File Items
  completed : List ι

/-- A call goes on to its next wait, or what it waits for fails. -/
inductive Event (ι : Type*)
  | advance (call : ι)
  | fail (call : ι)

variable {File Items Call ι : Type*} [DecidableEq ι]

namespace State

def enter (state : State File Items ι) (i : ι) (phase : Phase File Items) : State File Items ι :=
  { state with phase := Function.update state.phase i phase }

/-- No call has begun. -/
def start (file : File) : State File Items ι := ⟨file, fun _ => .waiting, []⟩

@[simp] theorem enter_file (state : State File Items ι) (i : ι) (phase : Phase File Items) :
    (state.enter i phase).file = state.file := rfl

theorem enter_self (state : State File Items ι) (i : ι) (phase : Phase File Items) :
    (state.enter i phase).phase i = phase := Function.update_self ..

theorem enter_of_ne (state : State File Items ι) {i j : ι} (h : j ≠ i)
    (phase : Phase File Items) : (state.enter i phase).phase j = state.phase j :=
  Function.update_of_ne h ..

end State

namespace Cell

variable (cell : Cell File Items Call) (calls : ι → Call)

/-- A read, and what it has to write back. -/
def afterRead (file : File) : Phase File Items :=
  match cell.refresh file with
  | some refreshed => .refreshing (cell.read file) refreshed
  | none => .loaded (cell.read file)

/-- A call whose write back fails goes on with other items; any other failure ends it. -/
def afterFailure : Phase File Items → Phase File Items
  | .refreshing _ _ => .loaded cell.unrefreshed
  | _ => .done

/-- A call runs to its next wait. -/
def advance (state : State File Items ι) (i : ι) : State File Items ι :=
  match state.phase i with
  | .waiting =>
    if cell.ready (calls i) then state.enter i (cell.afterRead state.file)
    else state.enter i .done
  | .refreshing items refreshed => { state.enter i (.loaded items) with file := refreshed }
  | .loaded items =>
    { state.enter i .done with
      file := (cell.write (calls i) items).getD state.file
      completed := state.completed ++ [i] }
  | .done => state

def step (state : State File Items ι) : Event ι → State File Items ι
  | .advance i => cell.advance calls state i
  | .fail i => state.enter i (cell.afterFailure (state.phase i))

/-- What a call is about to write comes of what the cell holds, and the call fits it. -/
def FreshWrite (Same : Items → Items → Prop) (Fits : Call → Items → Prop) (file : File)
    (call : Call) : Phase File Items → Prop
  | .waiting => True
  | .refreshing items _ => Same (cell.read file) items
  | .loaded items => (cell.write call items).isNone = true ∨
      Same (cell.read file) items ∧ Fits call (cell.read file)
  | .done => True

/-- A step that writes finds what its call has read, and fits it. -/
def Fresh (Same : Items → Items → Prop) (Fits : Call → Items → Prop)
    (state : State File Items ι) : Event ι → Prop
  | .advance i => cell.FreshWrite Same Fits state.file (calls i) (state.phase i)
  | .fail _ => True

section Decidable

variable {Same : Items → Items → Prop} [∀ a b, Decidable (Same a b)] {Fits : Call → Items → Prop}
  [∀ call items, Decidable (Fits call items)]

instance decidableFreshWrite (file : File) (call : Call) :
    ∀ phase, Decidable (cell.FreshWrite Same Fits file call phase)
  | .waiting => isTrue trivial
  | .refreshing items _ => inferInstanceAs (Decidable (Same (cell.read file) items))
  | .loaded items =>
    inferInstanceAs (Decidable (_ ∨ Same (cell.read file) items ∧ Fits call (cell.read file)))
  | .done => isTrue trivial

instance decidableFresh (state : State File Items ι) :
    ∀ event, Decidable (cell.Fresh calls Same Fits state event)
  | .advance i =>
    inferInstanceAs (Decidable (cell.FreshWrite Same Fits state.file (calls i) (state.phase i)))
  | .fail _ => isTrue trivial

end Decidable

/-- The calls one after the other. -/
def serial (effect : Call → Items → Items) (items : Items) (order : List ι) : Items :=
  replay (fun items i => effect (calls i) items) items order

/-- What one call makes of the items, up to a relation that reads do not tell apart. -/
structure Lawful (Same : Items → Items → Prop) (Fits : Call → Items → Prop)
    (effect : Call → Items → Items) : Prop where
  equivalence : Equivalence Same
  refresh_read : ∀ {file refreshed}, cell.refresh file = some refreshed →
    Same (cell.read refreshed) (cell.read file)
  write_read : ∀ {call items file}, cell.write call items = some file →
    Same (cell.read file) (effect call items)
  effect_congr : ∀ call {a b}, Same a b → Same (effect call a) (effect call b)
  /-- A call that writes nothing changes nothing. -/
  effect_settled : ∀ {call items}, cell.write call items = none → Same (effect call items) items
  settled_unrefreshed : ∀ {call}, cell.write call cell.unrefreshed = none →
    ∀ items, cell.write call items = none
  settled_congr : ∀ {call a b}, Same a b → cell.write call a = none → cell.write call b = none
  /-- No call that fits gives another one something to write. -/
  settled_effect : ∀ {call file other}, Fits other (cell.read file) →
    cell.write call (cell.read file) = none → cell.write call (effect other (cell.read file)) = none

variable {cell calls} {Same : Items → Items → Prop} {Fits : Call → Items → Prop}
  {effect : Call → Items → Items}

/-- What holds between the cell and the calls on it, where the cell began with `items`. -/
structure Serial (cell : Cell File Items Call) (calls : ι → Call) (Same : Items → Items → Prop)
    (effect : Call → Items → Items) (items : Items) (state : State File Items ι) : Prop where
  serial : Same (cell.read state.file) (Cell.serial calls effect items state.completed)
  refreshed : ∀ i snapshot file, state.phase i = .refreshing snapshot file →
    Same (cell.read file) snapshot
  settled : ∀ i snapshot,
    (state.phase i = .loaded snapshot ∨ ∃ file, state.phase i = .refreshing snapshot file) →
    cell.write (calls i) snapshot = none → cell.write (calls i) (cell.read state.file) = none

omit [DecidableEq ι] in
theorem serial_snoc (items : Items) (order : List ι) (i : ι) :
    serial calls effect items (order ++ [i]) = effect (calls i) (serial calls effect items order) :=
  replay_snoc ..

variable {state : State File Items ι} {items : Items}

/-- A new phase, beside which nothing changes. -/
theorem Serial.enter (h : Serial cell calls Same effect items state) (i : ι)
    (phase : Phase File Items) (hrefreshed : ∀ snapshot file, phase = .refreshing snapshot file →
      Same (cell.read file) snapshot)
    (hsettled : ∀ snapshot, (phase = .loaded snapshot ∨ ∃ file, phase = .refreshing snapshot file) →
      cell.write (calls i) snapshot = none → cell.write (calls i) (cell.read state.file) = none) :
    Serial cell calls Same effect items (state.enter i phase) := by
  refine ⟨h.serial, fun j snapshot file hj => ?_, fun j snapshot hj => ?_⟩
  · by_cases heq : j = i
    · subst heq
      rw [State.enter_self] at hj
      exact hrefreshed snapshot file hj
    · rw [State.enter_of_ne _ heq] at hj
      exact h.refreshed j snapshot file hj
  · by_cases heq : j = i
    · subst heq
      rw [State.enter_self] at hj
      exact hsettled snapshot hj
    · rw [State.enter_of_ne _ heq] at hj
      exact h.settled j snapshot hj

omit [DecidableEq ι] in
/-- A write that leaves the items as they were. -/
theorem Serial.rewrite (law : Lawful cell Same Fits effect)
    (h : Serial cell calls Same effect items state) {file : File}
    (hsame : Same (cell.read file) (cell.read state.file)) :
    Serial cell calls Same effect items { state with file := file } :=
  ⟨law.equivalence.trans hsame h.serial, h.refreshed, fun i snapshot hi hnone =>
    law.settled_congr (law.equivalence.symm hsame) (h.settled i snapshot hi hnone)⟩

omit [DecidableEq ι] in
/-- A call that is completed with its effect. -/
theorem Serial.complete (law : Lawful cell Same Fits effect)
    (h : Serial cell calls Same effect items state) {file : File} {i : ι}
    (heffect : Same (cell.read file) (effect (calls i) (cell.read state.file)))
    (hfits : cell.write (calls i) (cell.read state.file) = none ∨
      Fits (calls i) (cell.read state.file)) :
    Serial cell calls Same effect items
      { state with file := file, completed := state.completed ++ [i] } := by
  refine ⟨?_, h.refreshed, fun j snapshot hj hnone => ?_⟩
  · show Same (cell.read file) (Cell.serial calls effect items (state.completed ++ [i]))
    rw [serial_snoc]
    exact law.equivalence.trans heffect (law.effect_congr (calls i) h.serial)
  · have hbefore := h.settled j snapshot hj hnone
    refine law.settled_congr (law.equivalence.symm heffect) ?_
    rcases hfits with hsettled | hfits
    · exact law.settled_congr (law.equivalence.symm (law.effect_settled hsettled)) hbefore
    · exact law.settled_effect hfits hbefore

/-- A read answers what the cell holds, whether or not it has something to write back. -/
theorem afterRead_cases (cell : Cell File Items Call) (file : File) :
    (∃ refreshed, cell.refresh file = some refreshed ∧
        cell.afterRead file = .refreshing (cell.read file) refreshed) ∨
      cell.afterRead file = .loaded (cell.read file) := by
  unfold afterRead
  cases hrefresh : cell.refresh file with
  | some refreshed => exact .inl ⟨refreshed, rfl, rfl⟩
  | none => exact .inr rfl

/-- A call that is not in progress any more claims nothing. -/
theorem Serial.leave (h : Serial cell calls Same effect items state) (i : ι) :
    Serial cell calls Same effect items (state.enter i .done) := by
  refine h.enter i .done (fun _ _ hs => nomatch hs) fun _ hs => ?_
  exact hs.elim (fun hs => nomatch hs) fun ⟨_, hs⟩ => nomatch hs

omit [DecidableEq ι] in
/-- A call that ends leaves its effect, and writes nothing or fits. -/
theorem Serial.effect_of_fresh (law : Lawful cell Same Fits effect)
    (h : Serial cell calls Same effect items state) {i : ι} {snapshot : Items}
    (hphase : state.phase i = .loaded snapshot)
    (hfresh : cell.FreshWrite Same Fits state.file (calls i) (.loaded snapshot)) :
    Same (cell.read ((cell.write (calls i) snapshot).getD state.file))
        (effect (calls i) (cell.read state.file)) ∧
      (cell.write (calls i) (cell.read state.file) = none ∨
        Fits (calls i) (cell.read state.file)) := by
  cases hwrite : cell.write (calls i) snapshot with
  | none =>
    -- the call still has nothing to write, so its effect is none
    have hnow := h.settled i snapshot (.inl hphase) hwrite
    exact ⟨law.equivalence.symm (law.effect_settled hnow), .inl hnow⟩
  | some file =>
    obtain ⟨hsame, hfits⟩ := hfresh.resolve_left (by rw [hwrite]; exact Bool.false_ne_true)
    exact ⟨law.equivalence.trans (law.write_read hwrite)
      (law.effect_congr (calls i) (law.equivalence.symm hsame)), .inr hfits⟩

theorem Serial.advance (law : Lawful cell Same Fits effect)
    (h : Serial cell calls Same effect items state) {i : ι}
    (hfresh : cell.FreshWrite Same Fits state.file (calls i) (state.phase i)) :
    Serial cell calls Same effect items (cell.advance calls state i) := by
  unfold Cell.advance
  cases hphase : state.phase i with
  | waiting =>
    show Serial cell calls Same effect items (if _ then _ else _)
    split_ifs
    · rcases afterRead_cases cell state.file with ⟨refreshed, hrefresh, heq⟩ | heq
      · rw [heq]
        refine h.enter i _ ?_ ?_
        · rintro _ _ ⟨⟩
          exact law.refresh_read hrefresh
        · rintro _ (hs | ⟨_, ⟨⟩⟩) hnone
          · exact nomatch hs
          · exact hnone
      · rw [heq]
        refine h.enter i _ (fun _ _ hs => nomatch hs) ?_
        rintro _ (⟨⟨⟩⟩ | ⟨_, hs⟩) hnone
        · exact hnone
        · exact nomatch hs
    · exact h.leave i
  | refreshing snapshot refreshed =>
    rw [hphase] at hfresh
    have hsame := law.equivalence.trans (h.refreshed i snapshot refreshed hphase)
      (law.equivalence.symm hfresh)
    refine (h.enter i (.loaded snapshot) (fun _ _ hs => nomatch hs) ?_).rewrite law hsame
    rintro _ (⟨⟨⟩⟩ | ⟨_, hs⟩) hnone
    · exact h.settled i snapshot (.inr ⟨refreshed, hphase⟩) hnone
    · exact nomatch hs
  | loaded snapshot =>
    rw [hphase] at hfresh
    obtain ⟨heffect, hfits⟩ := h.effect_of_fresh law hphase hfresh
    exact (h.leave i).complete law heffect hfits
  | done => exact h

theorem Serial.step (law : Lawful cell Same Fits effect) (h : Serial cell calls Same effect items state)
    {event : Event ι} (hfresh : cell.Fresh calls Same Fits state event) :
    Serial cell calls Same effect items (cell.step calls state event) := by
  cases event with
  | advance i => exact h.advance law hfresh
  | fail i =>
    show Serial cell calls Same effect items (state.enter i (cell.afterFailure (state.phase i)))
    cases state.phase i with
    | refreshing snapshot refreshed =>
      refine h.enter i (.loaded cell.unrefreshed) (fun _ _ hs => nomatch hs) ?_
      rintro _ (⟨⟨⟩⟩ | ⟨_, hs⟩) hnone
      · exact law.settled_unrefreshed hnone _
      · exact nomatch hs
    | _ => exact h.leave i

omit [DecidableEq ι] in
theorem serial_start (law : Lawful cell Same Fits effect) (file : File) :
    Serial cell calls Same effect (cell.read file) (State.start file) := by
  refine ⟨law.equivalence.refl _, fun _ _ _ h => (nomatch h), fun _ _ h => ?_⟩
  exact h.elim (fun h => nomatch h) fun ⟨_, h⟩ => nomatch h

/-- **No update is lost in a fresh run**: the cell holds what the completed calls leave, one
    after the other in the order in which they were completed. -/
theorem serial_of_fresh (law : Lawful cell Same Fits effect) (file : File) {events : List (Event ι)}
    (hfresh : Along (cell.step calls) (cell.Fresh calls Same Fits) (State.start file) events) :
    Serial cell calls Same effect (cell.read file)
      (replay (cell.step calls) (State.start file) events) := by
  exact along_invariant hfresh (serial_start law file) fun _ _ h hevent => h.step law hevent

/-- Each call that is completed is done, and completed once, and calls in progress and completed
    ones got as far as to read. -/
structure Orderly (cell : Cell File Items Call) (calls : ι → Call) (state : State File Items ι) :
    Prop where
  done : ∀ i ∈ state.completed, state.phase i = .done
  nodup : state.completed.Nodup
  ready : ∀ i, state.phase i ≠ .waiting → state.phase i ≠ .done → cell.ready (calls i) = true
  completed_ready : ∀ i ∈ state.completed, cell.ready (calls i) = true

theorem Orderly.enter (h : Orderly cell calls state) {i : ι} {phase : Phase File Items}
    (hi : i ∈ state.completed → phase = .done)
    (hready : phase ≠ .done → cell.ready (calls i) = true) :
    Orderly cell calls (state.enter i phase) := by
  refine ⟨fun j hj => ?_, h.nodup, fun j hj hj' => ?_, h.completed_ready⟩
  · by_cases heq : j = i
    · subst heq
      rw [State.enter_self]
      exact hi hj
    · rw [State.enter_of_ne _ heq]
      exact h.done j hj
  · by_cases heq : j = i
    · subst heq
      rw [State.enter_self] at hj'
      exact hready hj'
    · rw [State.enter_of_ne _ heq] at hj hj'
      exact h.ready j hj hj'

theorem Orderly.advance (h : Orderly cell calls state) (i : ι) :
    Orderly cell calls (cell.advance calls state i) := by
  -- a call that is not done is not yet completed
  have hnew : ∀ {phase : Phase File Items}, state.phase i = phase → phase ≠ .done →
      i ∉ state.completed := fun heq hne hi => hne (heq.symm.trans (h.done i hi))
  unfold Cell.advance
  cases hphase : state.phase i with
  | waiting =>
    have hi := hnew hphase fun h => nomatch h
    show Orderly cell calls (if _ then _ else _)
    split_ifs with hready
    · exact h.enter (fun hmem => absurd hmem hi) fun _ => hready
    · exact h.enter (fun _ => rfl) fun hne => absurd rfl hne
  | refreshing snapshot refreshed =>
    have hi := hnew hphase fun h => nomatch h
    have hready := h.ready i (fun heq => nomatch hphase.symm.trans heq)
      fun heq => nomatch hphase.symm.trans heq
    have hloaded : Orderly cell calls (state.enter i (.loaded snapshot)) :=
      h.enter (fun hmem => absurd hmem hi) fun _ => hready
    exact ⟨hloaded.done, hloaded.nodup, hloaded.ready, hloaded.completed_ready⟩
  | loaded snapshot =>
    have hi := hnew hphase fun h => nomatch h
    have hready := h.ready i (fun heq => nomatch hphase.symm.trans heq)
      fun heq => nomatch hphase.symm.trans heq
    have hdone : Orderly cell calls (state.enter i .done) :=
      h.enter (fun _ => rfl) fun hne => absurd rfl hne
    refine ⟨fun j hj => ?_, List.nodup_append.mpr ⟨h.nodup, List.nodup_singleton i, ?_⟩,
      hdone.ready, fun j hj => ?_⟩
    · rcases List.mem_append.mp hj with hold | hlast
      · exact hdone.done j hold
      · rw [List.mem_singleton.mp hlast]
        exact State.enter_self ..
    · rintro j hj _ hlast rfl
      exact hi (List.mem_singleton.mp hlast ▸ hj)
    · rcases List.mem_append.mp hj with hold | hlast
      · exact h.completed_ready j hold
      · rw [List.mem_singleton.mp hlast]
        exact hready
  | done => exact h

theorem Orderly.step (h : Orderly cell calls state) (event : Event ι) :
    Orderly cell calls (cell.step calls state event) := by
  cases event with
  | advance i => exact h.advance i
  | fail i =>
    show Orderly cell calls (state.enter i (cell.afterFailure (state.phase i)))
    cases hphase : state.phase i with
    | refreshing snapshot refreshed =>
      exact h.enter (fun hmem => nomatch hphase.symm.trans (h.done i hmem)) fun _ =>
        h.ready i (fun heq => nomatch hphase.symm.trans heq)
          fun heq => nomatch hphase.symm.trans heq
    | _ => exact h.enter (fun _ => rfl) fun hne => absurd rfl hne

omit [DecidableEq ι] in
theorem orderly_start (file : File) : Orderly cell calls (State.start file) :=
  ⟨fun _ h => (nomatch h), List.nodup_nil, fun _ h => absurd rfl h, fun _ h => (nomatch h)⟩

/-- What a call leaves behind in the items, and no other call takes away. -/
structure Keeping (cell : Cell File Items Call) (Same : Items → Items → Prop)
    (Fits : Call → Items → Prop) (effect : Call → Items → Items) (Left : Call → Items → Prop) :
    Prop where
  congr : ∀ {call a b}, Same a b → Left call a → Left call b
  settled : ∀ {call file}, cell.ready call = true → cell.write call (cell.read file) = none →
    Left call (cell.read file)
  completed : ∀ {call file}, cell.ready call = true → Fits call (cell.read file) →
    Left call (effect call (cell.read file))
  other : ∀ {call other file}, Fits other (cell.read file) → Left call (cell.read file) →
    Left call (effect other (cell.read file))

variable {Left : Call → Items → Prop}

/-- What the completed calls left is there behind every step of a fresh run. -/
theorem Keeping.step (keeping : Keeping cell Same Fits effect Left)
    (law : Lawful cell Same Fits effect) (h : Serial cell calls Same effect items state)
    (horderly : Orderly cell calls state) {event : Event ι}
    (hfresh : cell.Fresh calls Same Fits state event)
    (hleft : ∀ i ∈ state.completed, Left (calls i) (cell.read state.file)) :
    ∀ i ∈ (cell.step calls state event).completed,
      Left (calls i) (cell.read (cell.step calls state event).file) := by
  cases event with
  | fail i => exact hleft
  | advance i =>
    show ∀ j ∈ (cell.advance calls state i).completed,
      Left (calls j) (cell.read (cell.advance calls state i).file)
    unfold Cell.advance
    cases hphase : state.phase i with
    | waiting =>
      dsimp only
      split_ifs
      · exact hleft
      · exact hleft
    | refreshing snapshot refreshed =>
      have hread : Same (cell.read state.file) snapshot := by
        have hevent : cell.FreshWrite Same Fits state.file (calls i) (state.phase i) := hfresh
        rw [hphase] at hevent
        exact hevent
      have hsame := law.equivalence.trans hread
        (law.equivalence.symm (h.refreshed i snapshot refreshed hphase))
      exact fun j hj => keeping.congr hsame (hleft j hj)
    | loaded snapshot =>
      have hevent : cell.FreshWrite Same Fits state.file (calls i) (state.phase i) := hfresh
      rw [hphase] at hevent
      obtain ⟨heffect, hfits⟩ := h.effect_of_fresh law hphase hevent
      have hready := horderly.ready i (fun heq => nomatch hphase.symm.trans heq)
        fun heq => nomatch hphase.symm.trans heq
      intro j hj
      rcases hfits with hsettled | hfits
      · -- the items are what they were
        refine keeping.congr (law.equivalence.symm
          (law.equivalence.trans heffect (law.effect_settled hsettled))) ?_
        rcases List.mem_append.mp hj with hold | hlast
        · exact hleft j hold
        · rw [List.mem_singleton.mp hlast]
          exact keeping.settled hready hsettled
      · refine keeping.congr (law.equivalence.symm heffect) ?_
        rcases List.mem_append.mp hj with hold | hlast
        · exact keeping.other hfits (hleft j hold)
        · rw [List.mem_singleton.mp hlast]
          exact keeping.completed hready hfits
    | done => exact hleft

/-- **What the completed calls left is there** in a fresh run. -/
theorem left_of_fresh (law : Lawful cell Same Fits effect)
    (keeping : Keeping cell Same Fits effect Left) (file : File) {events : List (Event ι)}
    (hfresh : Along (cell.step calls) (cell.Fresh calls Same Fits) (State.start file) events) :
    ∀ i ∈ (replay (cell.step calls) (State.start file) events).completed,
      Left (calls i) (cell.read (replay (cell.step calls) (State.start file) events).file) := by
  refine (along_invariant (P := fun state => (Serial cell calls Same effect (cell.read file) state ∧
      Orderly cell calls state) ∧ ∀ i ∈ state.completed, Left (calls i) (cell.read state.file))
    hfresh ⟨⟨serial_start law file, orderly_start file⟩, fun _ h => (nomatch h)⟩ ?_).2
  rintro state event ⟨⟨hserial, horderly⟩, hleft⟩ hevent
  exact ⟨⟨hserial.step law hevent, horderly.step event⟩,
    keeping.step law hserial horderly hevent hleft⟩

end Cell

end SharedCell
