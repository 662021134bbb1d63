import Hivra.Lib.Processes

namespace Interruptions

open Processes

/-!
# Calls that fail or stop

A call acts on a world, each action may fail, and between any two actions the program may stop for
good: then the call has no result and the world stays as it is.  What holds at every moment of a
call therefore also holds where it stopped.

* `Safe.bind`, `Safe.try` — a call that goes on as another one, or as a handler.
* `Reaches` — what a run can come to, put together from what its parts can come to.
-/

variable {Action : Type} {Answer : Action → Type} {World Choice ε α β : Type}

/-- What an action does to the world, and what it is answered.  The choice is made outside. -/
abbrev Effect (World Choice : Type) (Answer : Action → Type) :=
  (action : Action) → Choice → World → Answer action × World

/-- A run makes an action for each choice, and stops where there are no more. -/
def run (effect : Effect World Choice Answer) {Result : Type} :
    Process Action Answer Result → List Choice → World → Option Result × World
  | .done result, _, w => (some result, w)
  | .act _ _, [], w => (none, w)
  | .act action next, choice :: choices, w =>
    run effect (next (effect action choice w).1) choices (effect action choice w).2

/-- A call that may throw. -/
abbrev Attempt (Action : Type) (Answer : Action → Type) (ε α : Type) :=
  ExceptT ε (Process Action Answer) α

/-- A single action. -/
def act (action : Action) : Attempt Action Answer ε (Answer action) :=
  ExceptT.lift (Process.perform action)

/-- An outcome that is known. -/
def known : Except ε α → Attempt Action Answer ε α
  | .ok a => pure a
  | .error e => throw e

section Safe

variable (effect : Effect World Choice Answer) (inv : World → Prop)

/-- Something holds after every action, and the result is as stated. -/
def Safe {Result : Type} (post : Result → World → Prop) :
    Process Action Answer Result → World → Prop
  | .done result, w => post result w
  | .act action next, w => ∀ choice, inv (effect action choice w).2 ∧
      Safe post (next (effect action choice w).1) (effect action choice w).2

/-- What is stated of a call that may throw: of its value, and of what it leaves if it throws. -/
def Ends (ok : α → World → Prop) (thrown : World → Prop) : Except ε α → World → Prop
  | .ok a, w => ok a w
  | .error _, w => thrown w

variable {effect inv} {w : World} {Result : Type}

theorem Safe.mono {post post' : Result → World → Prop} {process : Process Action Answer Result}
    (h : Safe effect inv post process w) (hpost : ∀ result w, post result w → post' result w) :
    Safe effect inv post' process w := by
  induction process generalizing w with
  | done result => exact hpost result w h
  | act action next ih => exact fun choice => ⟨(h choice).1, ih _ (h choice).2⟩

theorem Safe.bind {Result Next : Type} {post : Result → World → Prop}
    {process : Process Action Answer Next} {f : Next → Process Action Answer Result}
    (h : Safe effect inv (fun next => Safe effect inv post (f next)) process w) :
    Safe effect inv post (process >>= f) w := by
  induction process generalizing w with
  | done next => exact h
  | act action next ih => exact fun choice => ⟨(h choice).1, ih _ (h choice).2⟩

/-- **What is proved of a call holds wherever its run ends**: where it stops, or of its result. -/
theorem safe_run {post : Result → World → Prop} {process : Process Action Answer Result}
    (hinv : inv w) (h : Safe effect inv post process w) (choices : List Choice) :
    ((run effect process choices w).1 = none → inv (run effect process choices w).2) ∧
      ∀ result, (run effect process choices w).1 = some result →
        post result (run effect process choices w).2 := by
  induction process generalizing w choices with
  | done result =>
    refine ⟨fun hnone => absurd hnone (Option.some_ne_none result), ?_⟩
    rintro _ hsome
    cases hsome
    exact h
  | act action next ih =>
    cases choices with
    | nil => exact ⟨fun _ => hinv, fun result hsome => absurd hsome.symm (Option.some_ne_none result)⟩
    | cons choice choices => exact ih _ (h choice).1 (h choice).2 choices

/-! ### Calls that may throw -/

variable {ok : α → World → Prop} {thrown : World → Prop}

theorem Safe.pure {a : α} (h : ok a w) :
    Safe effect inv (Ends (ε := ε) ok thrown) (Pure.pure a : Attempt Action Answer ε α) w := h

theorem Safe.throw {e : ε} (h : thrown w) :
    Safe effect inv (Ends ok thrown) (MonadExcept.throw e : Attempt Action Answer ε α) w := h

theorem Safe.known {outcome : Except ε α} (hok : ∀ a, outcome = .ok a → ok a w)
    (hthrown : ∀ e, outcome = .error e → thrown w) :
    Safe effect inv (Ends ok thrown)
      (Interruptions.known outcome : Attempt Action Answer ε α) w := by
  cases outcome with
  | ok a => exact hok a rfl
  | error e => exact hthrown e rfl

/-- A call that goes on as another one unless it throws. -/
theorem Safe.andThen {call : Attempt Action Answer ε β} {f : β → Attempt Action Answer ε α}
    (h : Safe effect inv (Ends (fun b => Safe effect inv (Ends ok thrown) (f b)) thrown) call w) :
    Safe effect inv (Ends ok thrown) (call >>= f : Attempt Action Answer ε α) w := by
  refine Safe.bind (Safe.mono h ?_)
  rintro (e | b) w hend
  · exact hend
  · exact hend

/-- A call and what handles what it throws. -/
theorem Safe.try {call : Attempt Action Answer ε α} {handler : ε → Attempt Action Answer ε α}
    (h : Safe effect inv
      (Ends ok fun w => ∀ e, Safe effect inv (Ends ok thrown) (handler e) w) call w) :
    Safe effect inv (Ends ok thrown) (tryCatch call handler : Attempt Action Answer ε α) w := by
  refine Safe.bind (Safe.mono h ?_)
  rintro (e | b) w hend
  · exact hend e
  · exact hend

theorem Safe.ite {c : Prop} [Decidable c] {post : Result → World → Prop}
    {process process' : Process Action Answer Result} (h : c → Safe effect inv post process w)
    (h' : ¬c → Safe effect inv post process' w) :
    Safe effect inv post (if c then process else process') w := by
  split_ifs with hc
  · exact h hc
  · exact h' hc

end Safe

/-! ### Calls whose errors are told apart -/

/-- What is stated of a call where it counts what it throws. -/
def EndsWith (ok : α → World → Prop) (thrown : ε → World → Prop) : Except ε α → World → Prop
  | .ok a, w => ok a w
  | .error e, w => thrown e w

section EndsWith

variable {effect : Effect World Choice Answer} {inv : World → Prop}
variable {ok : α → World → Prop} {thrown : ε → World → Prop} {w : World}
  {f : β → Attempt Action Answer ε α} {call : Attempt Action Answer ε β}

/-- A call that is followed by another one unless it throws. -/
theorem Safe.followed (h : Safe effect inv
      (EndsWith (fun b => Safe effect inv (EndsWith ok thrown) (f b)) thrown) call w) :
    Safe effect inv (EndsWith ok thrown) (call >>= f : Attempt Action Answer ε α) w := by
  refine Safe.bind (Safe.mono h ?_)
  rintro (e | b) w hend
  · exact hend
  · exact hend

variable {bad : ε → World → Prop}

/-- A call that is followed by another one, from what is known of both. -/
theorem Safe.next {good : β → World → Prop} (h : Safe effect inv (EndsWith good bad) call w)
    (hgood : ∀ b w, good b w → Safe effect inv (EndsWith ok thrown) (f b) w)
    (hbad : ∀ e w, bad e w → thrown e w) :
    Safe effect inv (EndsWith ok thrown) (call >>= f : Attempt Action Answer ε α) w := by
  refine Safe.followed (Safe.mono h ?_)
  rintro (e | b) w hend
  · exact hbad e w hend
  · exact hgood b w hend

/-- An action, and what follows its answer. -/
theorem Safe.answered {action : Action} {f : Answer action → Attempt Action Answer ε α}
    (h : ∀ choice, inv (effect action choice w).2 ∧
      Safe effect inv (EndsWith ok thrown) (f (effect action choice w).1)
        (effect action choice w).2) :
    Safe effect inv (EndsWith ok thrown)
      (Interruptions.act action >>= f : Attempt Action Answer ε α) w :=
  Safe.followed h

/-- An outcome that is known, and what follows it. -/
theorem Safe.learned {outcome : Except ε β}
    (hok : ∀ b, outcome = .ok b → Safe effect inv (EndsWith ok thrown) (f b) w)
    (herror : ∀ e, outcome = .error e → thrown e w) :
    Safe effect inv (EndsWith ok thrown)
      (Interruptions.known outcome >>= f : Attempt Action Answer ε α) w := by
  cases outcome with
  | ok b => exact hok b rfl
  | error e => exact herror e rfl

/-- A weaker statement of a call. -/
theorem Safe.ends {good : α → World → Prop} {call : Attempt Action Answer ε α}
    (h : Safe effect inv (EndsWith good bad) call w) (hgood : ∀ a w, good a w → ok a w)
    (hbad : ∀ e w, bad e w → thrown e w) : Safe effect inv (EndsWith ok thrown) call w := by
  refine Safe.mono h ?_
  rintro (e | a) w hend
  · exact hbad e w hend
  · exact hgood a w hend

/-- A call, and what handles each error that it throws. -/
theorem Safe.handled {call : Attempt Action Answer ε α} {handler : ε → Attempt Action Answer ε α}
    (h : Safe effect inv
      (EndsWith ok fun e => Safe effect inv (EndsWith ok thrown) (handler e)) call w) :
    Safe effect inv (EndsWith ok thrown) (tryCatch call handler : Attempt Action Answer ε α) w := by
  refine Safe.bind (Safe.mono h ?_)
  rintro (e | b) w hend
  · exact hend
  · exact hend

end EndsWith

/-! ### What a run can come to -/

section Reaches

variable (effect : Effect World Choice Answer)

/-- Some run of the process ends with the result. -/
inductive Reaches {Result : Type} :
    Process Action Answer Result → World → Result → World → Prop
  | done (result : Result) (w : World) : Reaches (.done result) w result w
  | act {action : Action} {next : Answer action → Process Action Answer Result} {w w' : World}
      {result : Result} (choice : Choice)
      (h : Reaches (next (effect action choice w).1) (effect action choice w).2 result w') :
      Reaches (.act action next) w result w'

variable {effect} {w w' : World}

/-- **What a run can come to is what some choices lead to.** -/
theorem Reaches.run {Result : Type} {process : Process Action Answer Result} {result : Result}
    (h : Reaches effect process w result w') :
    ∃ choices, Interruptions.run effect process choices w = (some result, w') := by
  induction h with
  | done result w => exact ⟨[], rfl⟩
  | act choice _ ih =>
    obtain ⟨choices, hrun⟩ := ih
    exact ⟨choice :: choices, hrun⟩

theorem Reaches.bind {Result Next : Type} {process : Process Action Answer Next}
    {f : Next → Process Action Answer Result} {w w' w'' : World} {next : Next} {result : Result}
    (h : Reaches effect process w next w') (h' : Reaches effect (f next) w' result w'') :
    Reaches effect (process >>= f) w result w'' := by
  induction h with
  | done next w => exact h'
  | act choice _ ih => exact Reaches.act choice (ih h')

theorem Reaches.pure {a : α} {w : World} :
    Reaches effect (Pure.pure a : Attempt Action Answer ε α) w (.ok a) w := Reaches.done _ w

variable {result : Except ε α} {f : β → Attempt Action Answer ε α}
  {call : Attempt Action Answer ε β}

/-- A call that does not throw, and what follows it. -/
theorem Reaches.andThen {w w' w'' : World} {b : β} (h : Reaches effect call w (.ok b) w')
    (h' : Reaches effect (f b) w' result w'') :
    Reaches effect (call >>= f : Attempt Action Answer ε α) w result w'' :=
  Reaches.bind h h'

variable {handler : ε → Attempt Action Answer ε α}

theorem Reaches.try {call : Attempt Action Answer ε α} {a : α}
    (h : Reaches effect call w (.ok a) w') :
    Reaches effect (tryCatch call handler : Attempt Action Answer ε α) w (.ok a) w' :=
  Reaches.bind h (Reaches.done _ w')

theorem Reaches.answered {action : Action} {f : Answer action → Attempt Action Answer ε α}
    (choice : Choice)
    (h : Reaches effect (f (effect action choice w).1) (effect action choice w).2 result w') :
    Reaches effect (Interruptions.act action >>= f : Attempt Action Answer ε α) w result w' :=
  Reaches.act choice h

/-- A call that throws ends what it begins. -/
theorem Reaches.thrown {e : ε} (h : Reaches effect call w (.error e) w') :
    Reaches effect (call >>= f : Attempt Action Answer ε α) w (.error e) w' :=
  Reaches.bind h (Reaches.done _ w')

/-- A call that throws, and its handler. -/
theorem Reaches.handled {call : Attempt Action Answer ε α} {w w' w'' : World} {e : ε}
    (h : Reaches effect call w (.error e) w') (h' : Reaches effect (handler e) w' result w'') :
    Reaches effect (tryCatch call handler : Attempt Action Answer ε α) w result w'' :=
  Reaches.bind h h'

theorem Reaches.known {outcome : Except ε α} {a : α} {w : World} (h : outcome = .ok a) :
    Reaches effect (Interruptions.known outcome : Attempt Action Answer ε α) w (.ok a) w := by
  subst h
  exact Reaches.pure

end Reaches

end Interruptions
