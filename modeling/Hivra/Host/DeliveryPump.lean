import Hivra.Host.DeliveryOutbox

namespace Hivra

open Replay DeliveryOutbox

namespace DeliveryLifecycle

/-!
# The delivery pump

Enqueue calls write an obligation to the outbox of a capsule and then schedule its pump, which
starts one where none is registered.  The pump looks for due items, retries each of them and
stops when it reads no pending item.  It stays registered until its end is taken note of, and
nothing is scheduled as long as it is.

* `Inv.step` — the invariant stays with every step that does not lose the pump.
* `Watched.step` — a pump that has a read of the file before it keeps it until it reads.
-/

/-- What a retry of an item answers: a code, an error text, the evidence of the receipt that
    matches the item, and whether there is any receipt. -/
structure CapsuleDeliveryCycleResult where
  code : ℤ
  lastError : Option String
  evidence : Option {evidence : PublicationEvidence // evidence.complete = true}
  anyReceipt : Bool

/-- A capsule with its outbox, and the delays between retries. -/
structure LifecycleSetup (Double : Type) where
  outbox : OutboxHost Double
  capsuleHex : String
  retryDelays : List ℤ

/-- An enqueue call, which may do nothing where the item is there. -/
structure EnqueueCall where
  ifAbsent : Bool
  obligation : Obligation
  deriving DecidableEq

def EnqueueCall.call (call : EnqueueCall) : OutboxCall :=
  if call.ifAbsent then .enqueueIfAbsent call.obligation else .enqueue call.obligation

/-- Where an enqueue call is; a read that writes back an older schema is remembered. -/
inductive Stage (Double : Type)
  | idle
  | refreshing (items : List DeliveryOutboxItem) (file : Option (DartValue Double))
  | loaded (items : List DeliveryOutboxItem) (rewrote : Bool)
  | stored
  | finished

/-- A call that has not begun or is over. -/
def Stage.resting {Double : Type} : Stage Double → Bool
  | .idle => true
  | .finished => true
  | _ => false

/-- What the pump asks the store for. -/
inductive StoreAction
  | due (now : ℤ)
  | all
  | mark (call : OutboxCall) (rest : List DeliveryOutboxItem)

def StoreAction.call : StoreAction → OutboxCall
  | .due _ => .load
  | .all => .load
  | .mark call _ => call

/-- Where the pump is. -/
inductive Pump (Double : Type)
  | delaying
  | storing (action : StoreAction)
      (phase : SharedCell.Phase (Option (DartValue Double)) (List DeliveryOutboxItem))
  | running (item : DeliveryOutboxItem) (rest : List DeliveryOutboxItem)
  | ending

/-- The outbox file, the calls, the registered pump, and the ids that were enqueued. -/
structure Lifecycle (Double ι : Type) where
  file : Option (DartValue Double)
  stage : ι → Stage Double
  pump : Option (Pump Double)
  enqueued : List String

/-- What happens next; times are readings of the clock. -/
inductive LifecycleEvent (ι : Type)
  | enqueueStep (call : ι)
  | enqueueFails (call : ι)
  | schedule
  | pumpWakes (now : ℤ)
  | pumpStores (now : ℤ)
  | pumpStoreFails
  | runnerReturns (now : ℤ) (result : CapsuleDeliveryCycleResult)
  | runnerThrows
  | deregister

/-- The year 9999 in microseconds. -/
def year9999 : ℤ := 253370764800000000

def isDue (now : ℤ) (item : DeliveryOutboxItem) : Bool :=
  item.status == .pending && decide (item.nextAttemptAt ≤ now)

section Service

variable {Double ι : Type} [DecidableEq ι] (setup : LifecycleSetup Double)
  (calls : ι → EnqueueCall)

def LifecycleSetup.cell :
    SharedCell.Cell (Option (DartValue Double)) (List DeliveryOutboxItem) OutboxCall :=
  outboxCell setup.outbox setup.capsuleHex

/-- The delay before the next attempt, by the attempts so far. -/
def backoffFor (attempts : ℤ) : ℤ :=
  setup.retryDelays.getD (min (wrap64 (attempts - 1)).toNat (setup.retryDelays.length - 1)) 0

/-- The mark for what a retry answered, if any. -/
def recordItemCycle (now : ℤ) (item : DeliveryOutboxItem) (result : CapsuleDeliveryCycleResult) :
    Option OutboxCall :=
  match result.evidence with
  | some evidence => some (.markPublished item.id (now + backoffFor setup item.nextAttempts)
      { evidence.val with publishedAt := now })
  | none =>
    if 0 ≤ result.code then
      if result.anyReceipt then none else some (.markSuperseded item.id)
    else some (.markAttempt item.id (now + backoffFor setup item.nextAttempts) result.lastError)

/-! ### The pump -/

/-- The next item of a look, or the next look. -/
def nextItem (now : ℤ) : List DeliveryOutboxItem → Pump Double
  | [] => .storing (.due now) .waiting
  | item :: rest => .running item rest

/-- What follows an answer of the store. -/
def afterStore (now : ℤ) (items : List DeliveryOutboxItem) : StoreAction → Pump Double
  | .due time =>
    match items.filter (isDue time) with
    | [] => .storing .all .waiting
    | item :: rest => .running item rest
  | .all => if items.any (isDue year9999) then .delaying else .ending
  | .mark _ rest => nextItem now rest

/-- A pump starts where none is registered; without delays it ends at once. -/
def scheduleDuePump (pump : Option (Pump Double)) : Option (Pump Double) :=
  match pump with
  | some pump => some pump
  | none => some (if setup.retryDelays.isEmpty then .ending else .delaying)

/-- The store call of the pump runs to its next wait. -/
def pumpStores (state : Lifecycle Double ι) (now : ℤ) (action : StoreAction) :
    SharedCell.Phase (Option (DartValue Double)) (List DeliveryOutboxItem) → Lifecycle Double ι
  | .waiting => { state with pump := some (.storing action (setup.cell.afterRead state.file)) }
  | .refreshing items refreshed =>
    { state with file := refreshed, pump := some (.storing action (.loaded items)) }
  | .loaded items =>
    { state with
      file := (setup.cell.write action.call items).getD state.file
      pump := some (afterStore now items action) }
  | .done => state

/-- A store call that fails ends the pump, unless it was only the rewrite of an older file. -/
def pumpStoreFails (action : StoreAction) :
    SharedCell.Phase (Option (DartValue Double)) (List DeliveryOutboxItem) → Pump Double
  | .refreshing _ _ => .storing action (.loaded [])
  | _ => .ending

/-! ### The calls -/

def Lifecycle.enter (state : Lifecycle Double ι) (i : ι) (stage : Stage Double) :
    Lifecycle Double ι :=
  { state with stage := Function.update state.stage i stage }

/-- A call reads the outbox. -/
def enqueueReads (file : Option (DartValue Double)) : Stage Double :=
  if trimmedLower setup.capsuleHex = "" then .finished
  else
    match migrated setup.outbox file with
    | some refreshed => .refreshing (load setup.outbox file) refreshed
    | none => .loaded (load setup.outbox file) false

/-- A call writes what it made of the items it has read; where the item is there it is over. -/
def enqueueWrites (state : Lifecycle Double ι) (i : ι) (items : List DeliveryOutboxItem) :
    Lifecycle Double ι :=
  match transform setup.outbox setup.capsuleHex items (calls i).call with
  | some next =>
    { state.enter i .stored with
      file := write setup.outbox next
      enqueued := stableId setup.outbox setup.capsuleHex (calls i).obligation :: state.enqueued }
  | none => state.enter i .finished

def enqueueStep (state : Lifecycle Double ι) (i : ι) : Lifecycle Double ι :=
  match state.stage i with
  | .idle => state.enter i (enqueueReads setup state.file)
  | .refreshing items refreshed => { state.enter i (.loaded items true) with file := refreshed }
  | .loaded items _ => enqueueWrites setup calls state i items
  | .stored => { state.enter i .finished with pump := scheduleDuePump setup state.pump }
  | .finished => state

def stageAfterFailure : Stage Double → Stage Double
  | .refreshing _ _ => .loaded [] false
  | .stored => .stored
  | _ => .finished

/-- One step of a call or of the pump. -/
def lifecycleStep (state : Lifecycle Double ι) : LifecycleEvent ι → Lifecycle Double ι
  | .enqueueStep i => enqueueStep setup calls state i
  | .enqueueFails i => state.enter i (stageAfterFailure (state.stage i))
  | .schedule => { state with pump := scheduleDuePump setup state.pump }
  | .pumpWakes now =>
    match state.pump with
    | some .delaying => { state with pump := some (nextItem now []) }
    | _ => state
  | .pumpStores now =>
    match state.pump with
    | some (.storing action phase) => pumpStores setup state now action phase
    | _ => state
  | .pumpStoreFails =>
    match state.pump with
    | some (.storing action phase) => { state with pump := some (pumpStoreFails action phase) }
    | _ => state
  | .runnerReturns now result =>
    match state.pump with
    | some (.running item rest) =>
      { state with
        pump := some (match recordItemCycle setup now item result with
          | some call => .storing (.mark call rest) .waiting
          | none => nextItem now rest) }
    | _ => state
  | .runnerThrows =>
    match state.pump with
    | some (.running _ _) => { state with pump := some .ending }
    | _ => state
  | .deregister =>
    match state.pump with
    | some .ending => { state with pump := none }
    | _ => state

/-- No call has begun and no pump is registered. -/
def Lifecycle.start (file : Option (DartValue Double)) : Lifecycle Double ι :=
  ⟨file, fun _ => .idle, none, []⟩

/-! ### What a pump still sees -/

/-- A pump that does not read the file again: it has ended, or has read no pending item. -/
def Past : Pump Double → Prop
  | .ending => True
  | .storing .all (.loaded items) => items.any (isDue year9999) = false
  | .storing .all (.refreshing items _) => items.any (isDue year9999) = false
  | _ => False

/-- A pump is registered that has a read of the file before it. -/
def Watched (state : Lifecycle Double ι) : Prop := ∃ pump, state.pump = some pump ∧ ¬ Past pump

/-- The file holds a pending item that was enqueued. -/
def HoldsPending (state : Lifecycle Double ι) : Prop :=
  ∃ item ∈ load setup.outbox state.file, item.status = .pending ∧ item.id ∈ state.enqueued

/-- A call that has written the file and is not over. -/
def Wrote : Stage Double → Prop
  | .loaded _ rewrote => rewrote = true
  | .stored => True
  | _ => False

/-- The pump reads the file. -/
def Reads (state : Lifecycle Double ι) (event : LifecycleEvent ι) : Prop :=
  ∃ now action, event = .pumpStores now ∧ state.pump = some (.storing action .waiting)

/-- A store call of the pump or its runner fails. -/
def Fails : LifecycleEvent ι → Prop
  | .pumpStoreFails => True
  | .runnerThrows => True
  | _ => False

/-- A pump is registered, and it does not end before it has read the file again. -/
def ReadsAgain (state : Lifecycle Double ι) : Prop :=
  ∀ later, Along (lifecycleStep setup calls) (fun state event => ¬ Reads state event ∧ ¬ Fails event)
    state later → ∃ pump, (replay (lifecycleStep setup calls) state later).pump = some pump ∧
      pump ≠ .ending

/-- In a state without a call in progress, a pump is going to read an item that is pending. -/
def Attended (state : Lifecycle Double ι) : Prop :=
  (∀ i, (state.stage i).resting = true) → HoldsPending setup state →
    ReadsAgain setup calls state

/-- A call goes on without losing the pump: its schedule is not skipped for a pump that does not
    read again or has no delays, and what it has rewritten is watched where it ends at once. -/
def KeepsCall (state : Lifecycle Double ι) (i : ι) : Stage Double → Prop
  | .stored => HoldsPending setup state →
      (∀ pump, state.pump = some pump → ¬ Past pump) ∧ (state.pump = none → setup.retryDelays ≠ [])
  | .loaded items true => transform setup.outbox setup.capsuleHex items (calls i).call = none →
      HoldsPending setup state → Watched state
  | _ => True

/-- A call that has rewritten an older file fails only where a pump watches. -/
def KeepsFailure (state : Lifecycle Double ι) : Stage Double → Prop
  | .loaded _ true => HoldsPending setup state → Watched state
  | _ => True

/-- The steps that do not lose the pump.  With a pending item in the file no pump fails, no
    schedule is skipped for a pump that does not read again, and no call ends without one after
    it has rewritten an older file, unless a pump watches.  Where the pump reads for the last
    time, no pending item is dated later than it counts. -/
def KeepsPump (state : Lifecycle Double ι) : LifecycleEvent ι → Prop
  | .enqueueStep i => KeepsCall setup calls state i (state.stage i)
  | .enqueueFails i => KeepsFailure setup state (state.stage i)
  | .pumpStores _ =>
    state.pump = some (.storing .all .waiting) → ∀ item ∈ load setup.outbox state.file,
      item.status = .pending → item.nextAttemptAt ≤ year9999
  | .pumpStoreFails => ¬ HoldsPending setup state
  | .runnerThrows => ¬ HoldsPending setup state
  | _ => True

/-- A pending item is seen by a call that still has to schedule, or by a pump that still has to
    read; and what the pump writes back is what it has read. -/
structure Inv (state : Lifecycle Double ι) : Prop where
  seen : HoldsPending setup state → (∃ i, Wrote (state.stage i)) ∨ Watched state
  clean : ∀ items refreshed, state.pump = some (.storing .all (.refreshing items refreshed)) →
    items.any (isDue year9999) = false →
      ∀ item ∈ load setup.outbox refreshed, item.status ≠ .pending

end Service

section Watch

variable {Double ι : Type} {setup : LifecycleSetup Double} {state : Lifecycle Double ι}

/-- A pump that still has to read sees every pending item. -/
theorem inv_of_watched {pump : Pump Double} (hpump : state.pump = some pump)
    (hahead : ¬ Past pump) : Inv setup state := by
  refine ⟨fun _ => .inr ⟨pump, hpump, hahead⟩, fun items refreshed heq hnone => ?_⟩
  obtain rfl := Option.some.inj (hpump.symm.trans heq)
  exact absurd hnone hahead

/-- Where nothing is pending nothing has to be seen. -/
theorem inv_of_none (hnone : ¬ HoldsPending setup state)
    (hclean : ∀ items refreshed, state.pump ≠ some (.storing .all (.refreshing items refreshed))) :
    Inv setup state :=
  ⟨fun h => absurd h hnone, fun items refreshed heq => absurd heq (hclean items refreshed)⟩

/-- A call that has written the file will schedule. -/
theorem inv_of_wrote {i : ι} (hi : Wrote (state.stage i))
    (hclean : ∀ items refreshed, state.pump = some (.storing .all (.refreshing items refreshed)) →
      items.any (isDue year9999) = false →
        ∀ item ∈ load setup.outbox refreshed, item.status ≠ .pending) : Inv setup state :=
  ⟨fun _ => .inl ⟨i, hi⟩, hclean⟩

/-- Items that are not due until the last year are not pending, if none is dated later. -/
theorem not_pending_of_any {items : List DeliveryOutboxItem}
    (hnone : items.any (isDue year9999) = false)
    (hdates : ∀ item ∈ items, item.status = .pending → item.nextAttemptAt ≤ year9999) :
    ∀ item ∈ items, item.status ≠ .pending := by
  intro item hitem hpending
  have hdue := List.any_eq_false.mp hnone item hitem
  refine hdue ?_
  rw [isDue, hpending, decide_eq_true (hdates item hitem hpending)]
  rfl

/-- A pump that goes on as long as it has something to see. -/
theorem Inv.pump {state : Lifecycle Double ι} (h : Inv setup state) (pump : Option (Pump Double))
    (hwatched : Watched state → ∃ next, pump = some next ∧ ¬ Past next)
    (hclean : ∀ items refreshed, pump ≠ some (.storing .all (.refreshing items refreshed))) :
    Inv setup { state with pump := pump } :=
  ⟨fun hpending => (h.seen hpending).imp id hwatched,
    fun items refreshed heq => absurd heq (hclean items refreshed)⟩

theorem not_past_nextItem (now : ℤ) (items : List DeliveryOutboxItem) :
    ¬ Past (nextItem now items : Pump Double) := by
  cases items with
  | nil => exact id
  | cons item rest => exact id

/-- A schedule leaves a pump, with or without something to see. -/
theorem Inv.schedule (h : Inv setup state) :
    Inv setup { state with pump := scheduleDuePump setup state.pump } := by
  cases hpump : state.pump with
  | some pump =>
    refine ⟨fun hpending => (h.seen hpending).imp id fun ⟨other, hother, hahead⟩ => ?_,
      fun items refreshed heq => h.clean items refreshed (hpump.trans heq)⟩
    exact ⟨pump, rfl, Option.some.inj (hpump.symm.trans hother) ▸ hahead⟩
  | none =>
    refine h.pump _ (fun ⟨_, hother, _⟩ => nomatch hpump.symm.trans hother) fun items refreshed => ?_
    unfold scheduleDuePump
    dsimp only
    split <;> exact fun heq => nomatch heq

/-- Where items are pending, a schedule that is not skipped has them seen. -/
theorem watched_schedule (hahead : ∀ pump, state.pump = some pump → ¬ Past pump)
    (hdelays : state.pump = none → setup.retryDelays ≠ []) :
    ∃ next, scheduleDuePump setup state.pump = some next ∧ ¬ Past next := by
  cases hpump : state.pump with
  | some pump => exact ⟨pump, rfl, hahead pump hpump⟩
  | none =>
    refine ⟨.delaying, ?_, id⟩
    unfold scheduleDuePump
    rw [List.isEmpty_eq_false_iff.mpr (hdelays hpump)]
    rfl

/-- The last read of the pump: it finds the pending items, or there is none. -/
theorem Inv.lastRead (hdates : ∀ item ∈ load setup.outbox state.file, item.status = .pending →
      item.nextAttemptAt ≤ year9999) :
    Inv setup { state with pump := some (.storing .all (setup.cell.afterRead state.file)) } := by
  cases hany : (load setup.outbox state.file).any (isDue year9999) with
  | true =>
    refine inv_of_watched rfl ?_
    rcases SharedCell.Cell.afterRead_cases setup.cell state.file with
      ⟨refreshed, -, hphase⟩ | hphase
    · rw [hphase]
      exact ne_of_eq_of_ne hany Bool.noConfusion
    · rw [hphase]
      exact ne_of_eq_of_ne hany Bool.noConfusion
  | false =>
    have hnone := not_pending_of_any hany hdates
    refine ⟨fun ⟨item, hitem, hpending, _⟩ => absurd hpending (hnone item hitem),
      fun items refreshed heq _ item hitem => ?_⟩
    rcases SharedCell.Cell.afterRead_cases setup.cell state.file with
      ⟨other, hrefresh, hphase⟩ | hphase
    · -- what is written back is what was read
      rw [hphase] at heq
      obtain rfl : other = refreshed := by cases heq; rfl
      exact hnone item ((load_migrated hrefresh).mem_iff.mp hitem)
    · rw [hphase] at heq
      cases heq

/-- What follows an answer of the store reads again, unless the last read found nothing. -/
theorem not_past_afterStore (now : ℤ) (items : List DeliveryOutboxItem) (action : StoreAction)
    (hahead : ¬ Past (.storing action (.loaded items) : Pump Double)) :
    ¬ Past (afterStore now items action : Pump Double) := by
  cases action with
  | due time =>
    unfold afterStore
    dsimp only
    split <;> exact id
  | all =>
    unfold afterStore
    rw [if_pos (Bool.eq_true_of_not_eq_false hahead)]
    exact id
  | mark call rest => exact not_past_nextItem now rest

theorem Inv.pumpStores {state : Lifecycle Double ι} (h : Inv setup state) {now : ℤ}
    {action : StoreAction}
    {phase : SharedCell.Phase (Option (DartValue Double)) (List DeliveryOutboxItem)}
    (hpump : state.pump = some (.storing action phase))
    (hkeeps : state.pump = some (.storing .all .waiting) →
      ∀ item ∈ load setup.outbox state.file, item.status = .pending →
        item.nextAttemptAt ≤ year9999) :
    Inv setup (pumpStores setup state now action phase) := by
  unfold DeliveryLifecycle.pumpStores
  cases phase with
  | waiting =>
    cases action with
    | all => exact Inv.lastRead (hkeeps hpump)
    | _ => exact inv_of_watched rfl id
  | refreshing items refreshed =>
    cases action with
    | all =>
      cases hany : items.any (isDue year9999) with
      | true => exact inv_of_watched rfl (ne_of_eq_of_ne hany Bool.noConfusion)
      | false =>
        -- the file is now what this read had found, and nothing in it is pending
        have hnone := h.clean items refreshed hpump hany
        exact inv_of_none (fun ⟨item, hitem, hpending, _⟩ => hnone item hitem hpending)
          fun _ _ heq => nomatch heq
    | _ => exact inv_of_watched rfl id
  | loaded items =>
    cases action with
    | all =>
      show Inv setup { state with pump := some (if items.any _ then .delaying else .ending) }
      cases hany : items.any (isDue year9999) with
      | true => exact inv_of_watched rfl id
      | false =>
        refine h.pump _ (fun ⟨other, hother, hahead⟩ => ?_) fun _ _ heq => nomatch heq
        obtain rfl := Option.some.inj (hpump.symm.trans hother)
        exact absurd hany hahead
    | _ => exact inv_of_watched rfl (not_past_afterStore now items _ id)
  | done => exact h

theorem Inv.start (file : Option (DartValue Double)) :
    Inv setup (Lifecycle.start file : Lifecycle Double ι) :=
  inv_of_none (fun ⟨_, _, _, hmem⟩ => nomatch hmem) fun _ _ heq => nomatch heq

variable [DecidableEq ι] {calls : ι → EnqueueCall}

theorem enter_self (state : Lifecycle Double ι) (i : ι) (stage : Stage Double) :
    (state.enter i stage).stage i = stage := Function.update_self ..

theorem enter_of_ne (state : Lifecycle Double ι) {i j : ι} (h : j ≠ i) (stage : Stage Double) :
    (state.enter i stage).stage j = state.stage j := Function.update_of_ne h ..

/-- A call that has written nothing yet, or leaves its pending items watched, can go on. -/
theorem Inv.enter (h : Inv setup state) {i : ι} (stage : Stage Double)
    (hi : Wrote (state.stage i) → ¬ Wrote stage → HoldsPending setup state → Watched state) :
    Inv setup (state.enter i stage) := by
  refine ⟨fun hpending => ?_, h.clean⟩
  by_cases hwrote : Wrote stage
  · exact .inl ⟨i, by rw [enter_self]; exact hwrote⟩
  · rcases h.seen hpending with ⟨j, hj⟩ | hwatched
    · by_cases heq : j = i
      · subst heq
        exact .inr (hi hj hwrote hpending)
      · exact .inl ⟨j, by rw [enter_of_ne _ heq]; exact hj⟩
    · exact .inr hwatched

theorem Inv.enqueueStep {state : Lifecycle Double ι} (h : Inv setup state) {i : ι}
    (hkeeps : KeepsCall setup calls state i (state.stage i)) :
    Inv setup (enqueueStep setup calls state i) := by
  unfold DeliveryLifecycle.enqueueStep
  cases hstage : state.stage i with
  | idle =>
    exact h.enter _ fun hwrote => by rw [hstage] at hwrote; exact hwrote.elim
  | refreshing items refreshed =>
    refine inv_of_wrote (i := i) ?_ h.clean
    show Wrote ((state.enter i (.loaded items true)).stage i)
    rw [enter_self]
    rfl
  | loaded items rewrote =>
    unfold enqueueWrites
    dsimp only
    cases htransform : transform setup.outbox setup.capsuleHex items (calls i).call with
    | some next =>
      refine inv_of_wrote (i := i) ?_ h.clean
      show Wrote ((state.enter i .stored).stage i)
      rw [enter_self]
      exact trivial
    | none =>
      -- the item is there; a call that wrote nothing leaves things as they are
      refine h.enter _ fun hwrote _ hpending => ?_
      rw [hstage] at hwrote hkeeps
      obtain rfl : rewrote = true := hwrote
      exact hkeeps htransform hpending
  | stored =>
    rw [hstage] at hkeeps
    refine ⟨fun hpending => ?_, h.schedule.clean⟩
    obtain ⟨hahead, hdelays⟩ := hkeeps hpending
    exact .inr (watched_schedule hahead hdelays)
  | finished => exact h

theorem Inv.enqueueFails (h : Inv setup state) {i : ι}
    (hkeeps : KeepsFailure setup state (state.stage i)) :
    Inv setup (state.enter i (stageAfterFailure (state.stage i))) := by
  refine h.enter _ fun hwrote hnot hpending => ?_
  cases hstage : state.stage i with
  | loaded items rewrote =>
    rw [hstage] at hwrote hkeeps
    obtain rfl : rewrote = true := hwrote
    exact hkeeps hpending
  | stored =>
    rw [hstage] at hnot
    exact absurd trivial hnot
  | _ =>
    rw [hstage] at hwrote
    exact hwrote.elim

variable {event : LifecycleEvent ι}

/-- **What one step preserves.** -/
theorem Inv.step (h : Inv setup state) (hkeeps : KeepsPump setup calls state event) :
    Inv setup (lifecycleStep setup calls state event) := by
  cases event with
  | enqueueStep i => exact h.enqueueStep hkeeps
  | enqueueFails i => exact h.enqueueFails hkeeps
  | schedule => exact h.schedule
  | pumpWakes now =>
    show Inv setup (match state.pump with | some .delaying => _ | _ => state)
    split
    · exact inv_of_watched rfl (not_past_nextItem now [])
    · exact h
  | pumpStores now =>
    show Inv setup (match state.pump with | some (.storing _ _) => _ | _ => state)
    split
    · next action phase hpump => exact h.pumpStores hpump hkeeps
    · exact h
  | pumpStoreFails =>
    show Inv setup (match state.pump with | some (.storing _ _) => _ | _ => state)
    split
    · refine inv_of_none hkeeps fun items refreshed heq => ?_
      unfold DeliveryLifecycle.pumpStoreFails at heq
      dsimp only at heq
      split at heq <;> cases heq
    · exact h
  | runnerReturns now result =>
    show Inv setup (match state.pump with | some (.running _ _) => _ | _ => state)
    split
    · next item rest hpump =>
      cases hmark : recordItemCycle setup now item result with
      | some call => exact inv_of_watched rfl id
      | none => exact inv_of_watched rfl (not_past_nextItem now rest)
    · exact h
  | runnerThrows =>
    show Inv setup (match state.pump with | some (.running _ _) => _ | _ => state)
    split
    · exact inv_of_none hkeeps fun _ _ heq => nomatch heq
    · exact h
  | deregister =>
    show Inv setup (match state.pump with | some .ending => _ | _ => state)
    split
    · next hpump =>
      refine h.pump none (fun ⟨other, hother, hahead⟩ => ?_) fun _ _ heq => nomatch heq
      obtain rfl := Option.some.inj (hpump.symm.trans hother)
      exact absurd trivial hahead
    · exact h

/-- A pump that has a read before it keeps it until it reads. -/
theorem Watched.step (h : Watched state) (hreads : ¬ Reads state event) (hfails : ¬ Fails event) :
    Watched (lifecycleStep setup calls state event) := by
  obtain ⟨pump, hpump, hahead⟩ := h
  cases event with
  | enqueueStep i =>
    show Watched (enqueueStep setup calls state i)
    unfold enqueueStep
    split
    · exact ⟨pump, hpump, hahead⟩
    · exact ⟨pump, hpump, hahead⟩
    · unfold enqueueWrites
      split <;> exact ⟨pump, hpump, hahead⟩
    · refine ⟨pump, ?_, hahead⟩
      show scheduleDuePump setup state.pump = some pump
      rw [hpump]
      rfl
    · exact ⟨pump, hpump, hahead⟩
  | enqueueFails i => exact ⟨pump, hpump, hahead⟩
  | schedule =>
    refine ⟨pump, ?_, hahead⟩
    show scheduleDuePump setup state.pump = some pump
    rw [hpump]
    rfl
  | pumpWakes now =>
    show Watched (match state.pump with | some .delaying => _ | _ => state)
    split
    · exact ⟨_, rfl, not_past_nextItem now []⟩
    · exact ⟨pump, hpump, hahead⟩
  | pumpStores now =>
    show Watched (match state.pump with | some (.storing _ _) => _ | _ => state)
    split
    · next action phase hstoring =>
      obtain rfl := Option.some.inj (hpump.symm.trans hstoring)
      cases phase with
      | waiting => exact absurd ⟨now, action, rfl, hpump⟩ hreads
      | refreshing items refreshed =>
        refine ⟨.storing action (.loaded items), rfl, fun hpast => hahead ?_⟩
        cases action with
        | all => exact hpast
        | _ => exact hpast.elim
      | loaded items => exact ⟨_, rfl, not_past_afterStore now items action hahead⟩
      | done => exact ⟨_, hpump, hahead⟩
    · exact ⟨pump, hpump, hahead⟩
  | pumpStoreFails => exact absurd trivial hfails
  | runnerReturns now result =>
    show Watched (match state.pump with | some (.running _ _) => _ | _ => state)
    split
    · next item rest hrunning =>
      cases hmark : recordItemCycle setup now item result with
      | some call => exact ⟨.storing (.mark call rest) .waiting, rfl, id⟩
      | none => exact ⟨_, rfl, not_past_nextItem now rest⟩
    · exact ⟨pump, hpump, hahead⟩
  | runnerThrows => exact absurd trivial hfails
  | deregister =>
    show Watched (match state.pump with | some .ending => _ | _ => state)
    split
    · next hending =>
      obtain rfl := Option.some.inj (hpump.symm.trans hending)
      exact absurd trivial hahead
    · exact ⟨pump, hpump, hahead⟩

theorem Watched.readsAgain (h : Watched state) : ReadsAgain setup calls state := by
  intro later hlater
  obtain ⟨pump, hpump, hahead⟩ := along_invariant (P := Watched) hlater h
    fun _ _ hwatched hevent => hwatched.step hevent.1 hevent.2
  refine ⟨pump, hpump, fun heq => hahead ?_⟩
  rw [heq]
  exact trivial

theorem not_resting_of_wrote {stage : Stage Double} (h : Wrote stage) : ¬ stage.resting = true := by
  cases stage with
  | loaded items rewrote => exact Bool.noConfusion
  | stored => exact Bool.noConfusion
  | _ => exact h.elim

/-- Where no call is in progress, the pump sees every pending item. -/
theorem Inv.attended (h : Inv setup state) : Attended setup calls state := by
  intro hquiet hpending
  rcases h.seen hpending with ⟨i, hwrote⟩ | hwatched
  · exact absurd (hquiet i) (not_resting_of_wrote hwrote)
  · exact hwatched.readsAgain

end Watch

end DeliveryLifecycle

end Hivra
