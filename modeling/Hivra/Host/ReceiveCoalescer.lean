import Hivra.Host.HostTexts

namespace Hivra

open Replay

namespace ReceiveCoalescer

/-!
# Coalesced receives

All triggers of a passive receive for a capsule share the operation that runs for it.  A manual
trigger that finds an operation of another kind is kept as the pending receive of the capsule,
which is started when that operation ends.  States are objects: the end of an operation is told
to the state it was started with, and the map from capsules to states is changed on its own.

* `Inv.run`, `Inv.complete` — triggers and ends of operations keep it so.
* `receives_coalesced` — one operation a capsule, and every trigger gets its answer.
-/

/-- The future that a trigger gets: of an operation, or of a pending receive. -/
inductive ReceiveFuture
  | active (operation : ℕ)
  | pendingManual (receive : ℕ)

/-- Operations and pending receives are named by the trigger they were made for. -/
structure CapsuleReceiveState where
  active : Option ℕ := none
  activeIsManual : Bool := false
  pendingManual : Option ℕ := none

/-- What is called when an operation ends: the capsule and the state it is told to, and whether
    the pending receive of its name is completed. -/
structure Operation (Capsule : Type) where
  capsule : Capsule
  state : ℕ
  manual : Bool
  followUp : Bool

inductive Happening (Capsule ρ : Type)
  | triggered (capsule : Capsule) (manual : Bool) (future : ReceiveFuture)
  | started (operation : ℕ) (capsule : Capsule) (manual : Bool)
  | completed (operation : ℕ) (outcome : ρ)
  | answered (receive : ℕ) (outcome : ρ)

/-- The map of states, the states, the operations that run, the number of triggers so far, and
    what has happened. -/
structure Coalescer (Capsule ρ : Type) where
  states : Capsule → Option ℕ
  heap : ℕ → CapsuleReceiveState
  running : ℕ → Option (Operation Capsule)
  calls : ℕ
  history : List (Happening Capsule ρ)

section Coalescer

variable {Capsule ρ : Type} [DecidableEq Capsule]

namespace Coalescer

def empty : Coalescer Capsule ρ := ⟨fun _ => none, fun _ => {}, fun _ => none, 0, []⟩

def record (coalescer : Coalescer Capsule ρ) (happening : Happening Capsule ρ) :
    Coalescer Capsule ρ :=
  { coalescer with history := coalescer.history ++ [happening] }

def change (coalescer : Coalescer Capsule ρ) (ref : ℕ) (state : CapsuleReceiveState) :
    Coalescer Capsule ρ :=
  { coalescer with heap := Function.update coalescer.heap ref state }

def putIfAbsent (coalescer : Coalescer Capsule ρ) (capsule : Capsule) : Coalescer Capsule ρ :=
  match coalescer.states capsule with
  | some _ => coalescer
  | none =>
    { coalescer.change coalescer.calls {} with
      states := Function.update coalescer.states capsule (some coalescer.calls) }

/-- An operation runs, and its end is told to the state it is started with. -/
def start (coalescer : Coalescer Capsule ρ) (capsule : Capsule) (ref : ℕ) (manual : Bool)
    (operation : ℕ) (followUp : Bool) : Coalescer Capsule ρ :=
  { (coalescer.change ref
      { coalescer.heap ref with active := some operation, activeIsManual := manual }).record
        (.started operation capsule manual) with
    running := Function.update coalescer.running operation (some ⟨capsule, ref, manual, followUp⟩) }

/-- What a trigger makes of the state of its capsule, and the future it returns. -/
def receive (coalescer : Coalescer Capsule ρ) (capsule : Capsule) (ref : ℕ) (manual : Bool) :
    Coalescer Capsule ρ × ReceiveFuture :=
  match (coalescer.heap ref).active with
  | some active =>
    if !manual || (coalescer.heap ref).activeIsManual then (coalescer, .active active)
    else
      match (coalescer.heap ref).pendingManual with
      | some pending => (coalescer, .pendingManual pending)
      | none =>
        (coalescer.change ref
          { coalescer.heap ref with pendingManual := some coalescer.calls },
            .pendingManual coalescer.calls)
  | none =>
    (coalescer.start capsule ref manual coalescer.calls false, .active coalescer.calls)

/-- One more trigger. -/
def called (result : Coalescer Capsule ρ × ReceiveFuture) (capsule : Capsule) (manual : Bool) :
    Coalescer Capsule ρ :=
  { result.1.record (.triggered capsule manual result.2) with calls := result.1.calls + 1 }

def run (coalescer : Coalescer Capsule ρ) (capsule : Capsule) (manual : Bool) :
    Coalescer Capsule ρ :=
  called ((coalescer.putIfAbsent capsule).receive capsule
    ((coalescer.states capsule).getD coalescer.calls) manual) capsule manual

/-- The end of an operation is told to a state. -/
def advance (coalescer : Coalescer Capsule ρ) (capsule : Capsule) (ref : ℕ) : Coalescer Capsule ρ :=
  match (coalescer.heap ref).pendingManual with
  | none =>
    { coalescer.change ref {} with
      states := Function.update coalescer.states capsule none }
  | some pending => (coalescer.change ref {}).start capsule ref true pending true

/-- An operation ends, in success or not.  The first that is called then is the advance of its
    state, and the pending receive that it was started for is completed next. -/
def complete (coalescer : Coalescer Capsule ρ) (operation : ℕ) (outcome : ρ) :
    Coalescer Capsule ρ :=
  match coalescer.running operation with
  | none => coalescer
  | some ended =>
    let advanced := Coalescer.advance
      { coalescer.record (.completed operation outcome) with
        running := Function.update coalescer.running operation none } ended.capsule ended.state
    if ended.followUp then advanced.record (.answered operation outcome) else advanced

end Coalescer

end Coalescer

section Run

variable {Capsule ρ : Type}

/-! ### What triggers and ends come to -/

/-- An operation that has been started and has not ended. -/
def RunsAt (history : List (Happening Capsule ρ)) (operation : ℕ) (capsule : Capsule)
    (manual : Bool) : Prop :=
  .started operation capsule manual ∈ history ∧ ∀ outcome, .completed operation outcome ∉ history

/-- An operation of the capsule has the receive pending. -/
def Waits (coalescer : Coalescer Capsule ρ) (capsule : Capsule) (receive : ℕ) : Prop :=
  ∃ i op, coalescer.running i = some op ∧ op.capsule = capsule ∧
    (coalescer.heap op.state).pendingManual = some receive

/-- The receive was pending and runs. -/
def Follows (coalescer : Coalescer Capsule ρ) (capsule : Capsule) (receive : ℕ) : Prop :=
  ∃ op, coalescer.running receive = some op ∧ op.capsule = capsule ∧ op.followUp = true

/-- The map has the state of an operation that runs and no other, and a pending receive is one
    that was triggered and has not been started. -/
structure Inv (coalescer : Coalescer Capsule ρ) : Prop where
  mapped : ∀ c ref, coalescer.states c = some ref → ref < coalescer.calls ∧
    ∃ i op, coalescer.running i = some op ∧ op.capsule = c ∧ op.state = ref
  active : ∀ i op, coalescer.running i = some op →
    coalescer.states op.capsule = some op.state ∧
      (coalescer.heap op.state).active = some i ∧
        (coalescer.heap op.state).activeIsManual = op.manual
  runs : ∀ i op, coalescer.running i = some op → RunsAt coalescer.history i op.capsule op.manual
  started : ∀ i c m, .started i c m ∈ coalescer.history → i < coalescer.calls ∧
    ((∃ op, coalescer.running i = some op ∧ op.capsule = c ∧ op.manual = m) ∨
      ∃ outcome, .completed i outcome ∈ coalescer.history)
  pending : ∀ i op k, coalescer.running i = some op →
    (coalescer.heap op.state).pendingManual = some k →
      op.manual = false ∧ (∀ c m, .started k c m ∉ coalescer.history) ∧
        .triggered op.capsule true (.pendingManual k) ∈ coalescer.history
  kept : ∀ c m k, .triggered c m (.pendingManual k) ∈ coalescer.history →
    k < coalescer.calls ∧
      (∀ c' m', .triggered c' m' (.pendingManual k) ∈ coalescer.history → c' = c) ∧
      (∀ c' m', .started k c' m' ∈ coalescer.history → c' = c ∧ m' = true) ∧
      (Waits coalescer c k ∨ Follows coalescer c k ∨
        ∃ outcome, .answered k outcome ∈ coalescer.history)
  joined : ∀ c m i, .triggered c m (.active i) ∈ coalescer.history →
    ∃ m', .started i c m' ∈ coalescer.history
  answered : ∀ k outcome, .answered k outcome ∈ coalescer.history →
    .completed k outcome ∈ coalescer.history
  ended : ∀ i outcome, .completed i outcome ∈ coalescer.history →
    ∃ c m, .started i c m ∈ coalescer.history

variable {coalescer : Coalescer Capsule ρ} {op op' : Operation Capsule}

/-- Operations that tell their end to the same state are the same. -/
theorem Inv.eq_of_state (h : Inv coalescer) {i j : ℕ} (hi : coalescer.running i = some op)
    (hj : coalescer.running j = some op') (hstate : op.state = op'.state) : i = j := by
  have hactive := (h.active i op hi).2.1
  rw [hstate, (h.active j op' hj).2.1] at hactive
  exact (Option.some.inj hactive).symm

theorem Inv.eq_of_capsule (h : Inv coalescer) {i j : ℕ} (hi : coalescer.running i = some op)
    (hj : coalescer.running j = some op') (hcapsule : op.capsule = op'.capsule) : i = j := by
  have hmap := (h.active i op hi).1
  rw [hcapsule, (h.active j op' hj).1] at hmap
  exact h.eq_of_state hi hj (Option.some.inj hmap).symm

/-- An operation that has been started and has not ended runs. -/
theorem Inv.running (h : Inv coalescer) {i : ℕ} {c : Capsule} {m : Bool}
    (hruns : RunsAt coalescer.history i c m) :
    ∃ op, coalescer.running i = some op ∧ op.capsule = c ∧ op.manual = m := by
  obtain ⟨hstarted, hopen⟩ := hruns
  rcases (h.started i c m hstarted).2 with hop | ⟨o, ho⟩
  · exact hop
  · exact absurd ho (hopen o)

/-- One more trigger is counted. -/
theorem Inv.count (h : Inv coalescer) : Inv { coalescer with calls := coalescer.calls + 1 } :=
  ⟨fun c ref hc => ⟨Nat.lt_succ_of_lt (h.mapped c ref hc).1, (h.mapped c ref hc).2⟩, h.active,
    h.runs, fun i c m hmem => ⟨Nat.lt_succ_of_lt (h.started i c m hmem).1, (h.started i c m hmem).2⟩,
    h.pending, fun c m k hmem => ⟨Nat.lt_succ_of_lt (h.kept c m k hmem).1, (h.kept c m k hmem).2⟩,
    h.joined, h.answered, h.ended⟩

/-- A trigger that joins what runs or what is pending leaves everything as it is. -/
theorem Inv.told (h : Inv coalescer) {c : Capsule} {m : Bool} {future : ReceiveFuture}
    (hfuture : (∃ i m', future = .active i ∧ .started i c m' ∈ coalescer.history) ∨
      .triggered c m future ∈ coalescer.history) :
    Inv (coalescer.record (.triggered c m future)) := by
  have hold : ∀ c' m' f, .triggered c' m' f ∈ coalescer.history ++ [.triggered c m future] →
      .triggered c' m' f ∈ coalescer.history ∨ c' = c ∧ m' = m ∧ f = future := by
    intro c' m' f hmem
    simpa using hmem
  refine ⟨h.mapped, h.active, fun i op hi => ?_, fun i c' m' hmem => ?_, fun i op k hi hk => ?_,
    fun c' m' k hmem => ?_, fun c' m' i hmem => ?_, fun k outcome hmem => ?_,
    fun i outcome hmem => ?_⟩
  · obtain ⟨hmem, hopen⟩ := h.runs i op hi
    exact ⟨List.mem_append_left _ hmem, by simpa [Coalescer.record] using hopen⟩
  · obtain ⟨hlt, hstate⟩ := h.started i c' m' (by simpa [Coalescer.record] using hmem)
    exact ⟨hlt, hstate.imp id fun ⟨o, ho⟩ => ⟨o, List.mem_append_left _ ho⟩⟩
  · obtain ⟨hauto, hunstarted, htriggered⟩ := h.pending i op k hi hk
    exact ⟨hauto, by simpa [Coalescer.record] using hunstarted, List.mem_append_left _ htriggered⟩
  · -- a receive of the new trigger is one of an earlier trigger for the capsule
    have hpending : ∀ c' m', .triggered c' m' (.pendingManual k) ∈
        coalescer.history ++ [.triggered c m future] →
          ∃ m'', .triggered c' m'' (.pendingManual k) ∈ coalescer.history := by
      intro c' m' hmem
      rcases hold c' m' _ hmem with hmem | ⟨rfl, rfl, rfl⟩
      · exact ⟨m', hmem⟩
      · rcases hfuture with ⟨_, _, heq, -⟩ | hfuture
        · exact nomatch heq
        · exact ⟨m', hfuture⟩
    obtain ⟨m₀, hmem₀⟩ := hpending c' m' hmem
    obtain ⟨hlt, hcapsule, hstarted, hstage⟩ := h.kept c' m₀ k hmem₀
    refine ⟨hlt, fun c₁ m₁ hmem₁ => ?_, by simpa [Coalescer.record] using hstarted,
      hstage.imp id (Or.imp id fun ⟨o, ho⟩ => ⟨o, List.mem_append_left _ ho⟩)⟩
    obtain ⟨m₂, hmem₂⟩ := hpending c₁ m₁ hmem₁
    exact hcapsule c₁ m₂ hmem₂
  · rcases hold c' m' _ hmem with hmem | ⟨rfl, rfl, rfl⟩
    · obtain ⟨m₀, hstarted⟩ := h.joined c' m' i hmem
      exact ⟨m₀, List.mem_append_left _ hstarted⟩
    · rcases hfuture with ⟨_, m₀, ⟨⟩, hstarted⟩ | hfuture
      · exact ⟨m₀, List.mem_append_left _ hstarted⟩
      · obtain ⟨m₀, hstarted⟩ := h.joined c' m' i hfuture
        exact ⟨m₀, List.mem_append_left _ hstarted⟩
  · exact List.mem_append_left _ (h.answered k outcome (by simpa [Coalescer.record] using hmem))
  · obtain ⟨c₀, m₀, hstarted⟩ := h.ended i outcome (by simpa [Coalescer.record] using hmem)
    exact ⟨c₀, m₀, List.mem_append_left _ hstarted⟩

/-- A manual trigger that finds an operation of another kind is kept. -/
theorem Inv.keep (h : Inv coalescer) {i : ℕ} {op : Operation Capsule}
    (hrunning : coalescer.running i = some op) (hauto : op.manual = false)
    (hnone : (coalescer.heap op.state).pendingManual = none) :
    Inv { coalescer with
      calls := coalescer.calls + 1
      heap := Function.update coalescer.heap op.state ⟨some i, false, some coalescer.calls⟩
      history := coalescer.history ++
        [.triggered op.capsule true (.pendingManual coalescer.calls)] } := by
  have hfresh : ∀ c m, .triggered c m (.pendingManual coalescer.calls) ∉ coalescer.history :=
    fun c m hmem => absurd (h.kept c m _ hmem).1 (lt_irrefl _)
  have hunstarted : ∀ c m, .started coalescer.calls c m ∉ coalescer.history :=
    fun c m hmem => absurd (h.started _ c m hmem).1 (lt_irrefl _)
  have hold : ∀ c m k, .triggered c m (.pendingManual k) ∈ coalescer.history ++
      [.triggered op.capsule true (.pendingManual coalescer.calls)] →
        .triggered c m (.pendingManual k) ∈ coalescer.history ∨
          c = op.capsule ∧ m = true ∧ k = coalescer.calls := by
    intro c m k hmem
    simpa using hmem
  -- the states of the other operations are not touched
  have hheap : ∀ j op', coalescer.running j = some op' → j ≠ i →
      Function.update coalescer.heap op.state ⟨some i, false, some coalescer.calls⟩ op'.state =
        coalescer.heap op'.state :=
    fun j op' hj hne => Function.update_of_ne (fun heq => hne (h.eq_of_state hj hrunning heq)) _ _
  refine ⟨fun c ref hc => ?_, fun j op' hj => ?_, fun j op' hj => ?_, fun j c m hmem => ?_,
    fun j op' k hj hk => ?_, fun c m k hmem => ?_, fun c m j hmem => ?_, fun k outcome hmem => ?_,
    fun j outcome hmem => ?_⟩
  · obtain ⟨hlt, hop⟩ := h.mapped c ref hc
    exact ⟨Nat.lt_succ_of_lt hlt, hop⟩
  · obtain ⟨hmap, hactive, hkind⟩ := h.active j op' hj
    refine ⟨hmap, ?_⟩
    dsimp only
    by_cases hji : j = i
    · subst hji
      obtain rfl := Option.some.inj (hrunning.symm.trans hj)
      rw [Function.update_self]
      exact ⟨rfl, hauto.symm⟩
    · rw [hheap j op' hj hji]
      exact ⟨hactive, hkind⟩
  · obtain ⟨hmem, hopen⟩ := h.runs j op' hj
    exact ⟨List.mem_append_left _ hmem, by simpa using hopen⟩
  · obtain ⟨hlt, hstate⟩ := h.started j c m (by simpa using hmem)
    exact ⟨Nat.lt_succ_of_lt hlt, hstate.imp id fun ⟨o, ho⟩ => ⟨o, List.mem_append_left _ ho⟩⟩
  · by_cases hji : j = i
    · subst hji
      obtain rfl := Option.some.inj (hrunning.symm.trans hj)
      dsimp only at hk
      rw [Function.update_self] at hk
      obtain rfl : coalescer.calls = k := Option.some.inj hk
      exact ⟨hauto, by simpa using hunstarted, List.mem_append_right _ (List.mem_singleton.mpr rfl)⟩
    · dsimp only at hk
      rw [hheap j op' hj hji] at hk
      obtain ⟨hkind, hopen, hmem⟩ := h.pending j op' k hj hk
      exact ⟨hkind, by simpa using hopen, List.mem_append_left _ hmem⟩
  · rcases hold c m k hmem with hmem | ⟨rfl, -, rfl⟩
    · obtain ⟨hlt, hcapsule, hstarted, hstage⟩ := h.kept c m k hmem
      refine ⟨Nat.lt_succ_of_lt hlt, fun c₁ m₁ hmem₁ => ?_, by simpa using hstarted, ?_⟩
      · rcases hold c₁ m₁ k hmem₁ with hmem₁ | ⟨-, -, rfl⟩
        · exact hcapsule c₁ m₁ hmem₁
        · exact absurd hlt (lt_irrefl _)
      · rcases hstage with ⟨j, op', hj, hcap, hk⟩ | hfollows | ⟨o, ho⟩
        · refine .inl ⟨j, op', hj, hcap, ?_⟩
          have hji : j ≠ i := by
            rintro rfl
            obtain rfl := Option.some.inj (hrunning.symm.trans hj)
            exact nomatch hnone.symm.trans hk
          dsimp only
          rw [hheap j op' hj hji]
          exact hk
        · exact .inr (.inl hfollows)
        · exact .inr (.inr ⟨o, List.mem_append_left _ ho⟩)
    · refine ⟨Nat.lt_succ_self _, fun c₁ m₁ hmem₁ => ?_, fun c₁ m₁ hmem₁ => ?_,
        .inl ⟨i, op, hrunning, rfl, congrArg _ (Function.update_self ..)⟩⟩
      · rcases hold c₁ m₁ _ hmem₁ with hmem₁ | ⟨rfl, -, -⟩
        · exact absurd hmem₁ (hfresh c₁ m₁)
        · rfl
      · exact absurd (by simpa using hmem₁) (hunstarted c₁ m₁)
  · obtain ⟨m₀, hstarted⟩ := h.joined c m j (by simpa using hmem)
    exact ⟨m₀, List.mem_append_left _ hstarted⟩
  · exact List.mem_append_left _ (h.answered k outcome (by simpa using hmem))
  · obtain ⟨c₀, m₀, hstarted⟩ := h.ended j outcome (by simpa using hmem)
    exact ⟨c₀, m₀, List.mem_append_left _ hstarted⟩

theorem Inv.empty : Inv (Coalescer.empty : Coalescer Capsule ρ) :=
  ⟨fun _ _ h => (nomatch h), fun _ _ h => (nomatch h), fun _ _ h => (nomatch h),
    fun _ _ _ h => (nomatch h), fun _ _ _ h => (nomatch h), fun _ _ _ h => (nomatch h),
    fun _ _ _ h => (nomatch h), fun _ _ h => (nomatch h), fun _ _ h => (nomatch h)⟩

/-! ### What has happened -/

/-- What was so when a trigger got its future: an operation that it joins runs, and a manual
    trigger that finds an operation of another kind gets one that has not been started. -/
def Tells (before : List (Happening Capsule ρ)) (capsule : Capsule) (manual : Bool)
    (future : ReceiveFuture) : Prop :=
  (∀ i, future = .active i → ∃ m, RunsAt before i capsule m) ∧
    (manual = true → (∃ i, RunsAt before i capsule false) →
      ∃ k, future = .pendingManual k ∧ ∀ c m, .started k c m ∉ before)

def Told (history : List (Happening Capsule ρ)) : Prop :=
  ∀ before capsule manual future after,
    history = before ++ .triggered capsule manual future :: after →
      Tells before capsule manual future

variable {history : List (Happening Capsule ρ)} {happening : Happening Capsule ρ}

theorem Told.append (h : Told history)
    (hlast : ∀ c m f, happening = .triggered c m f → Tells history c m f) :
    Told (history ++ [happening]) := by
  intro before c m f after heq
  rcases List.eq_nil_or_concat after with rfl | ⟨after, last, rfl⟩
  · obtain ⟨rfl, hhappening⟩ := List.append_inj' heq rfl
    exact hlast c m f (List.cons.inj hhappening).1
  · have hsplit : history ++ [happening] = (before ++ .triggered c m f :: after) ++ [last] := by
      rw [heq]
      simp
    exact h before c m f after (List.append_inj' hsplit rfl).1

theorem Told.append_other (h : Told history) (hother : ∀ c m f, happening ≠ .triggered c m f) :
    Told (history ++ [happening]) :=
  h.append fun c m f heq => absurd heq (hother c m f)

/-- A future is completed with the outcome of its operation. -/
def Answered (history : List (Happening Capsule ρ)) : ReceiveFuture → Prop
  | .active i => ∃ outcome, .completed i outcome ∈ history
  | .pendingManual k => ∃ outcome, .answered k outcome ∈ history ∧ .completed k outcome ∈ history

/-- One operation runs for a capsule.  A trigger joins one that has not ended, and a manual
    trigger that finds one of another kind is answered by a manual one that is started later.
    Where no operation of a capsule runs, its triggers are answered and it has no state. -/
structure Coalesced (coalescer : Coalescer Capsule ρ) : Prop where
  single : ∀ i j c m m', RunsAt coalescer.history i c m → RunsAt coalescer.history j c m' → i = j
  joined : ∀ before c m i after,
    coalescer.history = before ++ .triggered c m (.active i) :: after →
      ∃ m', RunsAt before i c m'
  manual : ∀ before c future after,
    coalescer.history = before ++ .triggered c true future :: after →
      (∃ i, RunsAt before i c false) →
        ∃ k, future = .pendingManual k ∧ (∀ c' m, .started k c' m ∉ before) ∧
          (∀ c' m, .started k c' m ∈ after → c' = c ∧ m = true) ∧
            ∀ outcome, .answered k outcome ∈ coalescer.history →
              .completed k outcome ∈ coalescer.history ∧ .started k c true ∈ after
  answered : ∀ c, (∀ i m, ¬ RunsAt coalescer.history i c m) →
    ∀ m future, .triggered c m future ∈ coalescer.history → Answered coalescer.history future
  cleared : ∀ c, (∀ i m, ¬ RunsAt coalescer.history i c m) → coalescer.states c = none

theorem Inv.coalesced (h : Inv coalescer) (htold : Told coalescer.history) :
    Coalesced coalescer := by
  refine ⟨fun i j c m m' hi hj => ?_, fun before c m i after heq => ?_,
    fun before c future after heq hauto => ?_, fun c hidle m future hmem => ?_,
    fun c hidle => ?_⟩
  · obtain ⟨op, hrunning, rfl, -⟩ := h.running hi
    obtain ⟨op', hrunning', hcapsule, -⟩ := h.running hj
    exact h.eq_of_capsule hrunning hrunning' hcapsule.symm
  · exact (htold before c m _ after heq).1 i rfl
  · obtain ⟨k, rfl, hunstarted⟩ := (htold before c true future after heq).2 rfl hauto
    have hmem : .triggered c true (.pendingManual k) ∈ coalescer.history := by
      rw [heq]
      simp
    obtain ⟨-, -, hstarted, -⟩ := h.kept c true k hmem
    have hlater : ∀ c' m, .started k c' m ∈ coalescer.history → .started k c' m ∈ after := by
      intro c' m hmem
      rw [heq] at hmem
      rcases List.mem_append.mp hmem with hbefore | hmem
      · exact absurd hbefore (hunstarted c' m)
      · simpa using hmem
    refine ⟨k, rfl, hunstarted, fun c' m hafter => hstarted c' m ?_, fun outcome hanswered => ?_⟩
    · rw [heq]
      exact List.mem_append_right _ (List.mem_cons_of_mem _ hafter)
    · have hcompleted := h.answered k outcome hanswered
      obtain ⟨c₀, m₀, hmem₀⟩ := h.ended k outcome hcompleted
      obtain ⟨rfl, rfl⟩ := hstarted c₀ m₀ hmem₀
      exact ⟨hcompleted, hlater _ _ hmem₀⟩
  · cases future with
    | active i =>
      obtain ⟨before, after, heq⟩ := List.append_of_mem hmem
      obtain ⟨m', hstarted, -⟩ := (htold before c m _ after heq).1 i rfl
      by_contra hopen
      refine hidle i m' ⟨?_, fun o ho => hopen ⟨o, ho⟩⟩
      rw [heq]
      exact List.mem_append_left _ hstarted
    | pendingManual k =>
      obtain ⟨-, -, -, ⟨i, op, hi, rfl, -⟩ | ⟨op, hk, rfl, -⟩ | ⟨o, ho⟩⟩ := h.kept c m k hmem
      · exact absurd (h.runs i op hi) (hidle i op.manual)
      · exact absurd (h.runs k op hk) (hidle k op.manual)
      · exact ⟨o, ho, h.answered k o ho⟩
  · cases hstates : coalescer.states c with
    | none => rfl
    | some ref =>
      obtain ⟨-, i, op, hi, rfl, -⟩ := h.mapped c ref hstates
      exact absurd (h.runs i op hi) (hidle i op.manual)

/-! ### Triggers and ends -/

section Steps

variable [DecidableEq Capsule] {coalescer : Coalescer Capsule ρ}

/-- A trigger starts an operation, joins the one that runs, joins the pending receive, or is kept
    as the pending receive. -/
theorem run_cases (h : Inv coalescer) (capsule : Capsule) (manual : Bool) :
    (coalescer.states capsule = none ∧
      coalescer.run capsule manual =
        ⟨Function.update coalescer.states capsule (some coalescer.calls),
          Function.update coalescer.heap coalescer.calls ⟨some coalescer.calls, manual, none⟩,
          Function.update coalescer.running coalescer.calls
            (some ⟨capsule, coalescer.calls, manual, false⟩),
          coalescer.calls + 1,
          coalescer.history ++ [.started coalescer.calls capsule manual] ++
            [.triggered capsule manual (.active coalescer.calls)]⟩) ∨
    ∃ i op, coalescer.running i = some op ∧ op.capsule = capsule ∧
      (((manual = false ∨ op.manual = true) ∧
        coalescer.run capsule manual =
          { coalescer with
            calls := coalescer.calls + 1
            history := coalescer.history ++ [.triggered capsule manual (.active i)] }) ∨
      (manual = true ∧ op.manual = false ∧
        ((∃ k, (coalescer.heap op.state).pendingManual = some k ∧
          coalescer.run capsule manual =
            { coalescer with
              calls := coalescer.calls + 1
              history := coalescer.history ++
                [.triggered capsule manual (.pendingManual k)] }) ∨
        ((coalescer.heap op.state).pendingManual = none ∧
          coalescer.run capsule manual =
            { coalescer with
              calls := coalescer.calls + 1
              heap := Function.update coalescer.heap op.state
                ⟨some i, false, some coalescer.calls⟩
              history := coalescer.history ++
                [.triggered capsule manual (.pendingManual coalescer.calls)] })))) := by
  unfold Coalescer.run Coalescer.putIfAbsent
  cases hstates : coalescer.states capsule with
  | none =>
    left
    refine ⟨rfl, ?_⟩
    simp [Coalescer.receive, Coalescer.called, Coalescer.start, Coalescer.change,
      Coalescer.record]
  | some ref =>
    right
    obtain ⟨-, i, op, hrunning, hcapsule, rfl⟩ := h.mapped _ _ hstates
    obtain ⟨-, hactive, hmanual⟩ := h.active i op hrunning
    refine ⟨i, op, hrunning, hcapsule, ?_⟩
    dsimp only [Option.getD_some]
    unfold Coalescer.receive
    rw [hactive, hmanual]
    dsimp only
    cases hkind : (!manual || op.manual) with
    | true =>
      left
      refine ⟨by simpa using hkind, rfl⟩
    | false =>
      right
      obtain ⟨rfl, hfalse⟩ : manual = true ∧ op.manual = false := by simpa using hkind
      refine ⟨rfl, hfalse, ?_⟩
      cases hpending : (coalescer.heap op.state).pendingManual with
      | some k => exact .inl ⟨k, rfl, rfl⟩
      | none =>
        refine .inr ⟨rfl, ?_⟩
        simp [Coalescer.called, Coalescer.change, Coalescer.record, hactive, hmanual, hfalse]

variable {op : Operation Capsule}

/-- A trigger that finds no state starts an operation. -/
theorem Inv.begin (h : Inv coalescer) {capsule : Capsule} (hnone : coalescer.states capsule = none)
    (manual : Bool) :
    Inv
      ⟨Function.update coalescer.states capsule (some coalescer.calls),
        Function.update coalescer.heap coalescer.calls ⟨some coalescer.calls, manual, none⟩,
        Function.update coalescer.running coalescer.calls
          (some ⟨capsule, coalescer.calls, manual, false⟩),
        coalescer.calls + 1,
        coalescer.history ++ [.started coalescer.calls capsule manual]⟩ := by
  have hunstarted : ∀ c m, .started coalescer.calls c m ∉ coalescer.history :=
    fun c m hmem => absurd (h.started _ c m hmem).1 (lt_irrefl _)
  -- the operations that run are other ones, of other capsules and with other states
  have hother : ∀ j op, coalescer.running j = some op → j ≠ coalescer.calls ∧
      op.state ≠ coalescer.calls ∧ op.capsule ≠ capsule := by
    intro j op hj
    have hmap := (h.active j op hj).1
    refine ⟨((h.started j _ _ (h.runs j op hj).1).1).ne, (h.mapped _ _ hmap).1.ne, ?_⟩
    rintro rfl
    exact nomatch hnone.symm.trans hmap
  have hrunning : ∀ j op, coalescer.running j = some op →
      Function.update coalescer.running coalescer.calls
        (some ⟨capsule, coalescer.calls, manual, false⟩) j = some op :=
    fun j op hj => (Function.update_of_ne (hother j op hj).1 _ _).trans hj
  have hnew : ∀ j op, Function.update coalescer.running coalescer.calls
      (some ⟨capsule, coalescer.calls, manual, false⟩) j = some op →
        coalescer.running j = some op ∨
          j = coalescer.calls ∧ op = ⟨capsule, coalescer.calls, manual, false⟩ := by
    intro j op hj
    by_cases hjc : j = coalescer.calls
    · subst hjc
      rw [Function.update_self] at hj
      exact .inr ⟨rfl, (Option.some.inj hj).symm⟩
    · rw [Function.update_of_ne hjc] at hj
      exact .inl hj
  have hstarts : ∀ j c m, .started j c m ∈ coalescer.history ++
      [.started coalescer.calls capsule manual] → .started j c m ∈ coalescer.history ∨
        j = coalescer.calls ∧ c = capsule ∧ m = manual := by
    intro j c m hmem
    simpa using hmem
  refine ⟨fun c ref hc => ?_, fun j op hj => ?_, fun j op hj => ?_, fun j c m hmem => ?_,
    fun j op k hj hk => ?_, fun c m k hmem => ?_, fun c m j hmem => ?_, fun k outcome hmem => ?_,
    fun j outcome hmem => ?_⟩
  · by_cases heq : c = capsule
    · subst heq
      dsimp only at hc
      rw [Function.update_self] at hc
      obtain rfl : coalescer.calls = ref := Option.some.inj hc
      exact ⟨Nat.lt_succ_self _, coalescer.calls, _, Function.update_self .., rfl, rfl⟩
    · dsimp only at hc
      rw [Function.update_of_ne heq] at hc
      obtain ⟨hlt, j, op, hj, hop⟩ := h.mapped c ref hc
      exact ⟨Nat.lt_succ_of_lt hlt, j, op, hrunning j op hj, hop⟩
  · dsimp only
    rcases hnew j op hj with hj | ⟨rfl, rfl⟩
    · obtain ⟨-, hstate, hcapsule⟩ := hother j op hj
      rw [Function.update_of_ne hcapsule, Function.update_of_ne hstate]
      exact h.active j op hj
    · rw [Function.update_self, Function.update_self]
      exact ⟨rfl, rfl, rfl⟩
  · rcases hnew j op hj with hj | ⟨rfl, rfl⟩
    · obtain ⟨hmem, hopen⟩ := h.runs j op hj
      exact ⟨List.mem_append_left _ hmem, by simpa using hopen⟩
    · refine ⟨by simp, fun o ho => ?_⟩
      obtain ⟨c₀, m₀, hstarted⟩ := h.ended _ o (by simpa using ho)
      exact hunstarted c₀ m₀ hstarted
  · rcases hstarts j c m hmem with hmem | ⟨rfl, rfl, rfl⟩
    · obtain ⟨hlt, ⟨op, hj, hop⟩ | ⟨o, ho⟩⟩ := h.started j c m hmem
      · exact ⟨Nat.lt_succ_of_lt hlt, .inl ⟨op, hrunning j op hj, hop⟩⟩
      · exact ⟨Nat.lt_succ_of_lt hlt, .inr ⟨o, List.mem_append_left _ ho⟩⟩
    · exact ⟨Nat.lt_succ_self _, .inl ⟨_, Function.update_self .., rfl, rfl⟩⟩
  · dsimp only at hk
    rcases hnew j op hj with hj | ⟨rfl, rfl⟩
    · rw [Function.update_of_ne (hother j op hj).2.1] at hk
      obtain ⟨hauto, hopen, hmem⟩ := h.pending j op k hj hk
      refine ⟨hauto, fun c m hstarted => ?_, by simpa using hmem⟩
      rcases hstarts k c m hstarted with hstarted | ⟨rfl, -, -⟩
      · exact hopen c m hstarted
      · exact absurd (h.kept _ _ _ hmem).1 (lt_irrefl _)
    · rw [Function.update_self] at hk
      exact nomatch hk
  · obtain ⟨hlt, hcapsule, hstarted, hstage⟩ := h.kept c m k (by simpa using hmem)
    refine ⟨Nat.lt_succ_of_lt hlt, by simpa using hcapsule, fun c₁ m₁ hmem₁ => ?_, ?_⟩
    · rcases hstarts k c₁ m₁ hmem₁ with hmem₁ | ⟨rfl, -, -⟩
      · exact hstarted c₁ m₁ hmem₁
      · exact absurd hlt (lt_irrefl _)
    · rcases hstage with ⟨j, op, hj, hcap, hk⟩ | ⟨op, hk, hop⟩ | ⟨o, ho⟩
      · refine .inl ⟨j, op, hrunning j op hj, hcap, ?_⟩
        dsimp only
        rw [Function.update_of_ne (hother j op hj).2.1]
        exact hk
      · exact .inr (.inl ⟨op, hrunning k op hk, hop⟩)
      · exact .inr (.inr ⟨o, by simpa using ho⟩)
  · obtain ⟨m₀, hstarted⟩ := h.joined c m j (by simpa using hmem)
    exact ⟨m₀, List.mem_append_left _ hstarted⟩
  · exact List.mem_append_left _ (h.answered k outcome (by simpa using hmem))
  · obtain ⟨c₀, m₀, hstarted⟩ := h.ended j outcome (by simpa using hmem)
    exact ⟨c₀, m₀, List.mem_append_left _ hstarted⟩

/-- **What a trigger preserves.** -/
theorem Inv.run (h : Inv coalescer) (capsule : Capsule) (manual : Bool) :
    Inv (coalescer.run capsule manual) := by
  rcases run_cases h capsule manual with ⟨hnone, heq⟩ | ⟨i, op, hrunning, rfl, hcases⟩
  · rw [heq]
    exact (h.begin hnone manual).told (.inl ⟨_, manual, rfl, by simp⟩)
  · obtain ⟨hstarted, -⟩ := h.runs i op hrunning
    rcases hcases with ⟨-, heq⟩ | ⟨rfl, hauto, ⟨k, hk, heq⟩ | ⟨hk, heq⟩⟩
    · rw [heq]
      exact (h.told (.inl ⟨i, op.manual, rfl, hstarted⟩)).count
    · rw [heq]
      exact (h.told (.inr (h.pending i op k hrunning hk).2.2)).count
    · rw [heq]
      exact h.keep hrunning hauto hk

/-- What the end of an operation leaves: the pending receive runs in its place, or its capsule has
    no state. -/
structure Ends (coalescer : Coalescer Capsule ρ) (i : ℕ) (op : Operation Capsule) (outcome : ρ)
    (after : Coalescer Capsule ρ) : Prop where
  running : ∀ j, after.running j =
    if (coalescer.heap op.state).pendingManual = some j then
      some ⟨op.capsule, op.state, true, true⟩
    else if j = i then none else coalescer.running j
  heap : ∀ ref, ref ≠ op.state → after.heap ref = coalescer.heap ref
  next : ∀ k, (coalescer.heap op.state).pendingManual = some k →
    after.heap op.state = ⟨some k, true, none⟩
  states : ∀ c, after.states c =
    if c = op.capsule ∧ (coalescer.heap op.state).pendingManual = none then none
    else coalescer.states c
  calls : after.calls = coalescer.calls
  history : after.history = coalescer.history ++ [.completed i outcome] ++
    ((coalescer.heap op.state).pendingManual.toList.map fun k => .started k op.capsule true) ++
      if op.followUp then [.answered i outcome] else []

theorem complete_ends (coalescer : Coalescer Capsule ρ) {i : ℕ}
    (hrunning : coalescer.running i = some op) (outcome : ρ) :
    Ends coalescer i op outcome (coalescer.complete i outcome) := by
  unfold Coalescer.complete
  rw [hrunning]
  dsimp only
  unfold Coalescer.advance
  dsimp only [Coalescer.record]
  cases hpending : (coalescer.heap op.state).pendingManual with
  | none =>
    constructor <;> cases op.followUp <;>
      simp +contextual [Coalescer.change, Function.update_apply, hpending]
  | some k =>
    constructor <;> cases op.followUp <;>
      simp +contextual [Coalescer.change, Coalescer.start, Coalescer.record, Function.update_apply,
        hpending, eq_comm]

/-- **An operation that ends** leaves the invariant. -/
theorem Inv.ends (h : Inv coalescer) {i : ℕ} (hrunning : coalescer.running i = some op)
    {outcome : ρ} {after : Coalescer Capsule ρ} (he : Ends coalescer i op outcome after) :
    Inv after := by
  have hrun := h.runs i op hrunning
  -- what is in the history then
  have hstarted : ∀ j c m, .started j c m ∈ after.history ↔ .started j c m ∈ coalescer.history ∨
      (coalescer.heap op.state).pendingManual = some j ∧ c = op.capsule ∧ m = true := by
    intro j c m
    rw [he.history]
    cases op.followUp <;> simp [eq_comm]
  have htriggered : ∀ c m f, .triggered c m f ∈ after.history ↔
      .triggered c m f ∈ coalescer.history := by
    intro c m f
    rw [he.history]
    cases op.followUp <;> simp
  have hcompleted : ∀ j o, .completed j o ∈ after.history ↔
      .completed j o ∈ coalescer.history ∨ j = i ∧ o = outcome := by
    intro j o
    rw [he.history]
    cases op.followUp <;> simp
  have hanswered : ∀ j o, .answered j o ∈ after.history ↔
      .answered j o ∈ coalescer.history ∨ op.followUp = true ∧ j = i ∧ o = outcome := by
    intro j o
    rw [he.history]
    cases op.followUp <;> simp
  have hstays : ∀ j op', coalescer.running j = some op' → j ≠ i → after.running j = some op' := by
    intro j op' hj hji
    rw [he.running, if_neg, if_neg hji]
    · exact hj
    · exact fun hk => (h.pending i op j hrunning hk).2.1 _ _ (h.runs j op' hj).1
  have hnext : ∀ k, (coalescer.heap op.state).pendingManual = some k →
      after.running k = some ⟨op.capsule, op.state, true, true⟩ := by
    intro k hk
    rw [he.running, if_pos hk]
  have hcases : ∀ j op', after.running j = some op' →
      (coalescer.running j = some op' ∧ j ≠ i ∧ op'.state ≠ op.state ∧ op'.capsule ≠ op.capsule) ∨
        (coalescer.heap op.state).pendingManual = some j ∧
          op' = ⟨op.capsule, op.state, true, true⟩ := by
    intro j op' hj
    rw [he.running] at hj
    split_ifs at hj with hk hji
    · exact .inr ⟨hk, (Option.some.inj hj).symm⟩
    · exact .inl ⟨hj, hji, fun heq => hji (h.eq_of_state hj hrunning heq),
        fun heq => hji (h.eq_of_capsule hj hrunning heq)⟩
  refine ⟨fun c ref hc => ?_, fun j op' hj => ?_, fun j op' hj => ?_, fun j c m hmem => ?_,
    fun j op' k hj hk => ?_, fun c m k hmem => ?_, fun c m j hmem => ?_, fun k o hmem => ?_,
    fun j o hmem => ?_⟩
  · rw [he.states] at hc
    split_ifs at hc with hcleared
    obtain ⟨hlt, j, op', hj, rfl, hstate⟩ := h.mapped c ref hc
    refine ⟨he.calls ▸ hlt, ?_⟩
    by_cases hji : j = i
    · subst hji
      obtain rfl := Option.some.inj (hrunning.symm.trans hj)
      obtain ⟨k, hk⟩ := Option.ne_none_iff_exists'.mp fun hnone => hcleared ⟨rfl, hnone⟩
      exact ⟨k, _, hnext k hk, rfl, hstate⟩
    · exact ⟨j, op', hstays j op' hj hji, rfl, hstate⟩
  · rw [he.states]
    rcases hcases j op' hj with ⟨hj, -, hstate, hcapsule⟩ | ⟨hk, rfl⟩
    · rw [if_neg fun hboth => hcapsule hboth.1, he.heap _ hstate]
      exact h.active j op' hj
    · dsimp only
      rw [if_neg (by rw [hk]; simp), he.next j hk]
      exact ⟨(h.active i op hrunning).1, rfl, rfl⟩
  · rcases hcases j op' hj with ⟨hj, hji, -, -⟩ | ⟨hk, rfl⟩
    · obtain ⟨hmem, hopen⟩ := h.runs j op' hj
      exact ⟨(hstarted ..).mpr (.inl hmem), fun o ho =>
        ((hcompleted ..).mp ho).elim (hopen o) fun heq => hji heq.1⟩
    · have hopen := (h.pending i op j hrunning hk).2.1
      refine ⟨(hstarted ..).mpr (.inr ⟨hk, rfl, rfl⟩), fun o ho => ?_⟩
      rcases (hcompleted ..).mp ho with ho | ⟨rfl, -⟩
      · obtain ⟨c₀, m₀, hmem⟩ := h.ended j o ho
        exact hopen c₀ m₀ hmem
      · exact hopen _ _ hrun.1
  · rw [he.calls]
    rcases (hstarted ..).mp hmem with hmem | ⟨hk, rfl, rfl⟩
    · obtain ⟨hlt, hstage⟩ := h.started j c m hmem
      refine ⟨hlt, ?_⟩
      by_cases hji : j = i
      · exact .inr ⟨outcome, (hcompleted ..).mpr (.inr ⟨hji, rfl⟩)⟩
      · exact hstage.imp (fun ⟨op', hj, hop⟩ => ⟨op', hstays j op' hj hji, hop⟩)
          fun ⟨o, ho⟩ => ⟨o, (hcompleted ..).mpr (.inl ho)⟩
    · exact ⟨(h.kept _ _ _ (h.pending i op j hrunning hk).2.2).1, .inl ⟨_, hnext j hk, rfl, rfl⟩⟩
  · rcases hcases j op' hj with ⟨hj, -, hstate, hcapsule⟩ | ⟨hk', rfl⟩
    · rw [he.heap _ hstate] at hk
      obtain ⟨hauto, hopen, hmem'⟩ := h.pending j op' k hj hk
      refine ⟨hauto, fun c m hmem => ?_, (htriggered ..).mpr hmem'⟩
      rcases (hstarted ..).mp hmem with hmem | ⟨hk', -, -⟩
      · exact hopen c m hmem
      · -- a receive is pending for one capsule
        exact hcapsule ((h.kept _ _ _ (h.pending i op k hrunning hk').2.2).2.1 _ _ hmem')
    · rw [he.next j hk'] at hk
      cases hk
  · obtain ⟨hlt, hcapsule, hstart, hstage⟩ := h.kept c m k ((htriggered ..).mp hmem)
    refine ⟨he.calls ▸ hlt, fun c₁ m₁ hmem₁ => hcapsule c₁ m₁ ((htriggered ..).mp hmem₁),
      fun c₁ m₁ hmem₁ => ?_, ?_⟩
    · rcases (hstarted ..).mp hmem₁ with hmem₁ | ⟨hk, rfl, rfl⟩
      · exact hstart c₁ m₁ hmem₁
      · exact ⟨hcapsule _ _ (h.pending i op k hrunning hk).2.2, rfl⟩
    · rcases hstage with ⟨j, op', hj, hcap, hk⟩ | ⟨op', hk, hcap, hfollow⟩ | ⟨o, ho⟩
      · by_cases hji : j = i
        · subst hji
          obtain rfl := Option.some.inj (hrunning.symm.trans hj)
          exact .inr (.inl ⟨_, hnext k hk, hcap, rfl⟩)
        · refine .inl ⟨j, op', hstays j op' hj hji, hcap, ?_⟩
          rw [he.heap _ fun heq => hji (h.eq_of_state hj hrunning heq)]
          exact hk
      · by_cases hki : k = i
        · -- the receive is the one that has ended
          subst hki
          obtain rfl := Option.some.inj (hrunning.symm.trans hk)
          exact .inr (.inr ⟨outcome, (hanswered ..).mpr (.inr ⟨hfollow, rfl, rfl⟩)⟩)
        · exact .inr (.inl ⟨op', hstays k op' hk hki, hcap, hfollow⟩)
      · exact .inr (.inr ⟨o, (hanswered ..).mpr (.inl ho)⟩)
  · obtain ⟨m₀, hmem₀⟩ := h.joined c m j ((htriggered ..).mp hmem)
    exact ⟨m₀, (hstarted ..).mpr (.inl hmem₀)⟩
  · rcases (hanswered ..).mp hmem with hmem | ⟨-, heq⟩
    · exact (hcompleted ..).mpr (.inl (h.answered k o hmem))
    · exact (hcompleted ..).mpr (.inr heq)
  · rcases (hcompleted ..).mp hmem with hmem | ⟨rfl, -⟩
    · obtain ⟨c₀, m₀, hmem₀⟩ := h.ended j o hmem
      exact ⟨c₀, m₀, (hstarted ..).mpr (.inl hmem₀)⟩
    · exact ⟨_, _, (hstarted ..).mpr (.inl hrun.1)⟩

/-- **What the end of an operation preserves.** -/
theorem Inv.complete (h : Inv coalescer) (i : ℕ) (outcome : ρ) :
    Inv (coalescer.complete i outcome) := by
  cases hrunning : coalescer.running i with
  | none =>
    unfold Coalescer.complete
    rw [hrunning]
    exact h
  | some op => exact h.ends hrunning (complete_ends coalescer hrunning outcome)

theorem Inv.run_told (h : Inv coalescer) (htold : Told coalescer.history) (capsule : Capsule)
    (manual : Bool) : Told (coalescer.run capsule manual).history := by
  rcases run_cases h capsule manual with ⟨hnone, heq⟩ | ⟨i, op, hrunning, rfl, hcases⟩
  · rw [heq]
    have hstart : Told (coalescer.history ++ [.started coalescer.calls capsule manual]) :=
      htold.append_other fun _ _ _ heq => (nomatch heq)
    refine hstart.append ?_
    rintro c m f ⟨⟩
    refine ⟨?_, fun hmanual ⟨i, hruns⟩ => ?_⟩
    · rintro i ⟨⟩
      refine ⟨manual, by simp, fun o ho => ?_⟩
      obtain ⟨c₀, m₀, hmem⟩ := h.ended _ o (by simpa using ho)
      exact absurd (h.started _ c₀ m₀ hmem).1 (lt_irrefl _)
    · -- no operation of the capsule runs
      obtain ⟨hstarted, hopen⟩ := hruns
      have hcases : .started i capsule false ∈ coalescer.history ∨
          i = coalescer.calls ∧ false = manual := by
        simpa using hstarted
      rcases hcases with hstarted | ⟨-, hfalse⟩
      · obtain ⟨op, hrunning, rfl, -⟩ := h.running ⟨hstarted, by simpa using hopen⟩
        exact nomatch hnone.symm.trans (h.active i op hrunning).1
      · exact nomatch hfalse.trans hmanual
  · have hruns := h.runs i op hrunning
    have hkind : ∀ j, RunsAt coalescer.history j op.capsule false → op.manual = false := by
      intro j hj
      obtain ⟨op', hrunning', hcapsule, hauto⟩ := h.running hj
      obtain rfl := h.eq_of_capsule hrunning hrunning' hcapsule.symm
      rw [Option.some.inj (hrunning.symm.trans hrunning')]
      exact hauto
    rcases hcases with ⟨hkinds, heq⟩ | ⟨rfl, hauto, ⟨k, hk, heq⟩ | ⟨hk, heq⟩⟩
    · rw [heq]
      refine htold.append ?_
      rintro c m f ⟨⟩
      refine ⟨?_, fun hmanual ⟨j, hj⟩ => ?_⟩
      · rintro _ ⟨⟩
        exact ⟨op.manual, hruns⟩
      · rcases hkinds with hfalse | htrue
        · exact nomatch hfalse.symm.trans hmanual
        · exact nomatch htrue.symm.trans (hkind j hj)
    · rw [heq]
      refine htold.append ?_
      rintro c m f ⟨⟩
      exact ⟨fun _ heq => (nomatch heq), fun _ _ => ⟨k, rfl, (h.pending i op k hrunning hk).2.1⟩⟩
    · rw [heq]
      refine htold.append ?_
      rintro c m f ⟨⟩
      exact ⟨fun _ heq => (nomatch heq), fun _ _ => ⟨_, rfl, fun c m hmem =>
        absurd (h.started _ c m hmem).1 (lt_irrefl _)⟩⟩

theorem complete_told (htold : Told coalescer.history) (i : ℕ) (outcome : ρ) :
    Told (coalescer.complete i outcome).history := by
  cases hrunning : coalescer.running i with
  | none =>
    unfold Coalescer.complete
    rw [hrunning]
    exact htold
  | some op =>
    rw [(complete_ends coalescer hrunning outcome).history]
    have hcompleted : Told (coalescer.history ++ [.completed i outcome]) :=
      htold.append_other fun _ _ _ heq => (nomatch heq)
    have hanswered : ∀ {history : List (Happening Capsule ρ)}, Told history →
        Told (history ++ if op.followUp then [.answered i outcome] else []) := by
      intro history h
      split
      · exact h.append_other fun _ _ _ heq => (nomatch heq)
      · rwa [List.append_nil]
    apply hanswered
    cases (coalescer.heap op.state).pendingManual with
    | none => rwa [Option.toList_none, List.map_nil, List.append_nil]
    | some k => exact hcompleted.append_other fun _ _ _ heq => (nomatch heq)

end Steps

end Run

/-! ### The coordinator -/

/-- The key of a capsule, none where the text is no key. -/
def normalizeCapsuleHex (capsuleHex : String) : Option String :=
  let normalized := trimmedLower capsuleHex
  if isHex64 normalized then some normalized else none

/-- A trigger is called, or an operation ends. -/
inductive ReceiveEvent (ρ : Type)
  | trigger (capsuleHex : String) (manualRetry : Bool)
  | complete (operation : ℕ) (outcome : ρ)

/-- A trigger without a key throws. -/
def receiveStep {ρ : Type} (coalescer : Coalescer String ρ) : ReceiveEvent ρ → Coalescer String ρ
  | .trigger capsuleHex manualRetry =>
    match normalizeCapsuleHex capsuleHex with
    | some normalized => coalescer.run normalized manualRetry
    | none => coalescer
  | .complete operation outcome => coalescer.complete operation outcome

/-- **Receives are coalesced**: in every run of triggers and ends of operations, whatever their
    order and their outcomes. -/
theorem receives_coalesced {ρ : Type} (events : List (ReceiveEvent ρ)) :
    Coalesced (replay receiveStep (Coalescer.empty : Coalescer String ρ) events) := by
  have hinv : Inv (replay receiveStep (Coalescer.empty : Coalescer String ρ) events) ∧
      Told (replay receiveStep (Coalescer.empty : Coalescer String ρ) events).history := by
    refine replay_invariant (P := fun coalescer : Coalescer String ρ =>
      Inv coalescer ∧ Told coalescer.history) ⟨Inv.empty, ?_⟩ ?_
    · intro before c m f after heq
      exact absurd heq.symm (by simp [Coalescer.empty])
    · rintro coalescer event - ⟨h, htold⟩
      cases event with
      | trigger capsuleHex manualRetry =>
        unfold receiveStep
        dsimp only
        split
        · exact ⟨h.run _ _, h.run_told htold _ _⟩
        · exact ⟨h, htold⟩
      | complete operation outcome => exact ⟨h.complete _ _, complete_told htold _ _⟩
  exact hinv.1.coalesced hinv.2

end ReceiveCoalescer

end Hivra
