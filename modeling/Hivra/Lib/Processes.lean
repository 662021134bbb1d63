import Hivra.Lib.Replay

namespace Processes

open Replay

/-!
# Calls that wait for one another

A call is what it does between its waits: an action, and how it goes on with the answer.  Calls
share a world, and whoever is next acts on what the others have left of it; what else an action
meets is chosen from outside.  A claim about every order of the steps is proved for each call by
itself, against all that the other calls may do in between.
-/

variable {Action : Type} {Answer : Action → Type}

/-- A call: it has a result, or it acts and goes on with the answer. -/
inductive Process (Action : Type) (Answer : Action → Type) (Result : Type)
  | done (result : Result)
  | act (action : Action) (next : Answer action → Process Action Answer Result)

namespace Process

variable {Result Next : Type}

/-- A call that goes on as another one. -/
def bind : Process Action Answer Result → (Result → Process Action Answer Next) →
    Process Action Answer Next
  | .done result, f => f result
  | .act action next, f => .act action fun answer => (next answer).bind f

instance : Monad (Process Action Answer) where
  pure := .done
  bind := bind

/-- A single action. -/
def perform (action : Action) : Process Action Answer (Answer action) := .act action .done

/-- The result of a call that is over. -/
def result? : Process Action Answer Result → Option Result
  | .done result => some result
  | .act _ _ => none

@[simp] theorem pure_eq (result : Result) :
    (pure result : Process Action Answer Result) = .done result := rfl

@[simp] theorem done_bind (result : Result) (f : Result → Process Action Answer Next) :
    (Process.done result >>= f) = f result := rfl

@[simp] theorem act_bind (action : Action) (next : Answer action → Process Action Answer Result)
    (f : Result → Process Action Answer Next) :
    (Process.act action next >>= f) = .act action fun answer => next answer >>= f := rfl

@[simp] theorem perform_bind (action : Action) (f : Answer action → Process Action Answer Next) :
    (perform action >>= f) = .act action f := rfl

/-- A call of one kind of actions as a call of another kind, which has them too. -/
def lift {Action' : Type} {Answer' : Action' → Type} (inject : Action → Action')
    (read : ∀ action, Answer' (inject action) → Answer action) :
    Process Action Answer Result → Process Action' Answer' Result
  | .done result => .done result
  | .act action next => .act (inject action) fun answer => (next (read action answer)).lift inject read

end Process

/-! ### Runs -/

/-- What an action does to the world, and what it is answered.  The choice is made outside. -/
abbrev Effect (World Choice ι : Type) (Answer : Action → Type) :=
  ι → (action : Action) → Choice → World → Answer action × World

/-- The world and where the calls are. -/
structure State (World ι : Type) (Action : Type) (Answer : Action → Type) (Result : Type) where
  world : World
  calls : ι → Process Action Answer Result

/-- A call takes its next step. -/
structure Event (Choice ι : Type) where
  call : ι
  choice : Choice

section Run

variable {World Choice ι Result : Type} [DecidableEq ι]

/-- One step; a call that is over takes none. -/
def step (effect : Effect World Choice ι Answer) (state : State World ι Action Answer Result)
    (event : Event Choice ι) : State World ι Action Answer Result :=
  match state.calls event.call with
  | .done _ => state
  | .act action next =>
    { world := (effect event.call action event.choice state.world).2
      calls := Function.update state.calls event.call
        (next (effect event.call action event.choice state.world).1) }

/-- A condition on what a call does next. -/
def Meets (fits : World → ι → Action → Choice → Prop)
    (state : State World ι Action Answer Result) (event : Event Choice ι) : Prop :=
  match state.calls event.call with
  | .done _ => True
  | .act action _ => fits state.world event.call action event.choice

end Run

/-- Whether a condition is met can be computed if the condition can. -/
instance decidableMeets {World Choice ι Result : Type} {fits : World → ι → Action → Choice → Prop}
    [∀ w i action choice, Decidable (fits w i action choice)]
    (state : State World ι Action Answer Result) (event : Event Choice ι) :
    Decidable (Meets fits state event) :=
  match h : state.calls event.call with
  | .done _ => isTrue (by rw [Meets, h]; trivial)
  | .act action _ => decidable_of_iff (fits state.world event.call action event.choice)
      (by rw [Meets, h])

/-- What comes of a call that runs alone, where all actions meet the same choice. -/
def Process.alone {World Choice ι Result : Type} (effect : Effect World Choice ι Answer) (i : ι)
    (choice : Choice) : Process Action Answer Result → World → Result × World
  | .done result, w => (result, w)
  | .act action next, w =>
    (next (effect i action choice w).1).alone effect i choice (effect i action choice w).2

/-! ### What holds of a call -/

/-- What a proof about each call by itself rests on: what holds of the world at all times, what
    the others may do to it, and under which condition actions are taken. -/
structure Protocol (World Choice ι Action : Type) where
  inv : World → Prop
  rely : ι → World → World → Prop
  fits : World → ι → Action → Choice → Prop
  refl : ∀ i w, rely i w w
  trans : ∀ i w w' w'', rely i w w' → rely i w' w'' → rely i w w''

section Holds

variable {World Choice ι Result Next : Type} (protocol : Protocol World Choice ι Action)
  (effect : Effect World Choice ι Answer) (i : ι)

/-- Whatever the others do before it, an action that fits keeps what holds of the world, does
    nothing that the others do not expect, and the call goes on in the same way; and what is
    stated holds when the call is over. -/
def Holds (post : Result → World → Prop) : Process Action Answer Result → World → Prop
  | .done result, w => ∀ w', protocol.rely i w w' → protocol.inv w' → post result w'
  | .act action next, w => ∀ w', protocol.rely i w w' → protocol.inv w' →
      ∀ choice, protocol.fits w' i action choice →
        protocol.inv (effect i action choice w').2 ∧
          (∀ j, j ≠ i → protocol.rely j w' (effect i action choice w').2) ∧
            Holds post (next (effect i action choice w').1) (effect i action choice w').2

variable {protocol effect i} {post : Result → World → Prop} {process : Process Action Answer Result}

/-- What holds of a call holds of it after the others have acted. -/
theorem Holds.stable {w w' : World} (h : Holds protocol effect i post process w)
    (hrely : protocol.rely i w w') : Holds protocol effect i post process w' := by
  cases process with
  | done result => exact fun w'' hw'' => h w'' (protocol.trans i _ _ _ hrely hw'')
  | act action next => exact fun w'' hw'' => h w'' (protocol.trans i _ _ _ hrely hw'')

variable {w : World}

/-- It is enough to know it of the worlds the call may find. -/
theorem Holds.of_reached
    (h : ∀ w', protocol.rely i w w' → protocol.inv w' → Holds protocol effect i post process w') :
    Holds protocol effect i post process w := by
  cases process with
  | done result => exact fun w' hrely hinv => h w' hrely hinv w' (protocol.refl i w') hinv
  | act action next => exact fun w' hrely hinv => h w' hrely hinv w' (protocol.refl i w') hinv

/-- **A call that goes on as another one**: the second one holds of what the first one leaves. -/
theorem Holds.bind {process : Process Action Answer Next} {f : Next → Process Action Answer Result}
    (h : Holds protocol effect i (fun next => Holds protocol effect i post (f next)) process w) :
    Holds protocol effect i post (process >>= f) w := by
  induction process generalizing w with
  | done next => exact Holds.of_reached h
  | act action next ih =>
    intro w' hrely hinv choice hfits
    obtain ⟨hinv', hothers, hnext⟩ := h w' hrely hinv choice hfits
    exact ⟨hinv', hothers, ih _ hnext⟩

variable {post' : Result → World → Prop}

theorem Holds.mono (h : Holds protocol effect i post process w)
    (hpost : ∀ result w, protocol.inv w → post result w → post' result w) :
    Holds protocol effect i post' process w := by
  induction process generalizing w with
  | done result => exact fun w' hrely hinv => hpost result w' hinv (h w' hrely hinv)
  | act action next ih =>
    intro w' hrely hinv choice hfits
    obtain ⟨hinv', hothers, hnext⟩ := h w' hrely hinv choice hfits
    exact ⟨hinv', hothers, ih _ hnext⟩

theorem Holds.and (h : Holds protocol effect i post process w)
    (h' : Holds protocol effect i post' process w) :
    Holds protocol effect i (fun result w => post result w ∧ post' result w) process w := by
  induction process generalizing w with
  | done result => exact fun w' hrely hinv => ⟨h w' hrely hinv, h' w' hrely hinv⟩
  | act action next ih =>
    intro w' hrely hinv choice hfits
    obtain ⟨hinv', hothers, hnext⟩ := h w' hrely hinv choice hfits
    obtain ⟨-, -, hnext'⟩ := h' w' hrely hinv choice hfits
    exact ⟨hinv', hothers, ih _ hnext hnext'⟩

/-- A call that goes on in one of two ways. -/
theorem Holds.ite {c : Prop} [Decidable c] {process process' : Process Action Answer Result}
    (h : c → Holds protocol effect i post process w)
    (h' : ¬c → Holds protocol effect i post process' w) :
    Holds protocol effect i post (if c then process else process') w := by
  split_ifs with hc
  · exact h hc
  · exact h' hc

/-! ### Every run -/

variable {posts : ι → Result → World → Prop}

/-- What holds of the world and of each call. -/
structure Sound (protocol : Protocol World Choice ι Action) (effect : Effect World Choice ι Answer)
    (posts : ι → Result → World → Prop) (state : State World ι Action Answer Result) : Prop where
  inv : protocol.inv state.world
  calls : ∀ i, Holds protocol effect i (posts i) (state.calls i) state.world

variable {state : State World ι Action Answer Result}

/-- A call that is over has left what was stated. -/
theorem Sound.over (h : Sound protocol effect posts state) {i : ι} {result : Result}
    (hdone : state.calls i = .done result) : posts i result state.world := by
  have hcall := h.calls i
  rw [hdone] at hcall
  exact hcall state.world (protocol.refl i _) h.inv

variable [DecidableEq ι]

theorem Sound.step {state : State World ι Action Answer Result}
    (h : Sound protocol effect posts state) {event : Event Choice ι}
    (hmeets : Meets protocol.fits state event) :
    Sound protocol effect posts (step effect state event) := by
  have hcall := h.calls event.call
  unfold Meets at hmeets
  unfold Processes.step
  split
  · exact h
  · next action next hnext =>
    rw [hnext] at hmeets hcall
    obtain ⟨hinv, hothers, hrest⟩ :=
      hcall state.world (protocol.refl _ _) h.inv event.choice hmeets
    refine ⟨hinv, fun j => ?_⟩
    show Holds protocol effect j (posts j) (Function.update state.calls event.call _ j) _
    by_cases hj : j = event.call
    · subst hj
      rw [Function.update_self]
      exact hrest
    · rw [Function.update_of_ne hj]
      exact (h.calls j).stable (hothers j hj)

variable {events : List (Event Choice ι)}

/-- **What is proved for each call holds in every run**, in whatever order they take their
    steps. -/
theorem holds_run (h : Sound protocol effect posts state)
    (hrun : Along (Processes.step effect) (Meets protocol.fits) state events) :
    Sound protocol effect posts (replay (Processes.step effect) state events) :=
  along_invariant (P := Sound protocol effect posts) hrun h fun _ _ h hmeets => h.step hmeets

/-- A condition that is always met. -/
theorem meets_run (hfits : ∀ w i action choice, protocol.fits w i action choice)
    (state : State World ι Action Answer Result) (events : List (Event Choice ι)) :
    Along (Processes.step effect) (Meets protocol.fits) state events := by
  induction events generalizing state with
  | nil => exact trivial
  | cons event events ih =>
    refine ⟨?_, ih _⟩
    unfold Meets
    split
    · exact trivial
    · exact hfits ..

/-- Two conditions that are met all along. -/
theorem along_meets_and {fits fits' : World → ι → Action → Choice → Prop}
    (h : Along (Processes.step effect) (Meets fits) state events)
    (h' : Along (Processes.step effect) (Meets fits') state events) :
    Along (Processes.step effect)
      (Meets fun w i action choice => fits w i action choice ∧ fits' w i action choice)
      state events := by
  induction events generalizing state with
  | nil => exact trivial
  | cons event events ih =>
    refine ⟨?_, ih h.2 h'.2⟩
    have hmeets := h.1
    have hmeets' := h'.1
    unfold Meets at hmeets hmeets' ⊢
    split
    · exact trivial
    · next action next hnext =>
      rw [hnext] at hmeets hmeets'
      exact ⟨hmeets, hmeets'⟩

theorem holds_every_run (h : Sound protocol effect posts state)
    (hfits : ∀ w i action choice, protocol.fits w i action choice)
    (events : List (Event Choice ι)) :
    Sound protocol effect posts (replay (Processes.step effect) state events) :=
  holds_run h (meets_run hfits state events)

end Holds

end Processes
