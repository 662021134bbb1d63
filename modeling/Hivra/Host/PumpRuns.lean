import Hivra.Host.DeliveryPump
import Hivra.Host.OutboxRuns

namespace Hivra

open Replay DeliveryOutbox

namespace DeliveryLifecycle

/-!
# Runs of the delivery pump

The pump reads the outbox a last time and then stops, and it stays registered between the two.  A
call that writes its obligation in between has its schedule skipped, and no pump reads what it
has written.  A retry or a store call that fails ends the pump as well, with items pending.

* `skipped_schedule_strands` — an obligation that is written between the last read and the end.
-/

/-- **Every pending item has a pump in a run that keeps its pumps**: whatever the calls, the file
    they begin with and the order of the steps, a pending item that was enqueued is going to be
    read by a pump as soon as no call is in progress. -/
theorem pending_attended {Double ι : Type} [DecidableEq ι] (setup : LifecycleSetup Double)
    (calls : ι → EnqueueCall) (file : Option (DartValue Double)) (events : List (LifecycleEvent ι))
    (hrun : Along (lifecycleStep setup calls) (KeepsPump setup calls) (Lifecycle.start file)
      events) :
    Attended setup calls (replay (lifecycleStep setup calls) (Lifecycle.start file) events) := by
  have hinv := along_invariant (P := Inv setup) hrun (Inv.start file)
    fun _ _ h hkeeps => h.step hkeeps
  exact hinv.attended

/-! ### A schedule that is skipped -/

instance decidableHoldsPending {Double ι : Type} (setup : LifecycleSetup Double)
    (state : Lifecycle Double ι) : Decidable (HoldsPending setup state) :=
  inferInstanceAs (Decidable (∃ item ∈ _, _ ∧ _))

def sampleSetup : LifecycleSetup String := ⟨sampleOutbox, capsuleText, [2000000, 8000000]⟩

/-- An obligation without a reference is kept for the record, and the other one is retried. -/
def sampleCalls : Bool → EnqueueCall
  | false => ⟨false, { invitationObligation firstReference with deliveryReference := none }⟩
  | true => ⟨false, invitationObligation secondReference⟩

/-- The run of a call from its read to its schedule. -/
def enqueueSteps (call : Bool) : List (LifecycleEvent Bool) :=
  [.enqueueStep call, .enqueueStep call, .enqueueStep call]

/-- The pump wakes, and reads the items that are due and then all of them. -/
def pumpLooks : List (LifecycleEvent Bool) :=
  [.pumpWakes 2000000, .pumpStores 2000000, .pumpStores 2000000, .pumpStores 2000000]

def strandingRun : List (LifecycleEvent Bool) :=
  enqueueSteps false ++ pumpLooks ++ enqueueSteps true ++ [.pumpStores 2000001, .deregister]

def sampleRun (events : List (LifecycleEvent Bool)) : Lifecycle String Bool :=
  replay (lifecycleStep sampleSetup sampleCalls) (Lifecycle.start none) events

/-- A call that meets no other on an empty outbox finds no pump that would keep it from its own. -/
theorem enqueueSteps_keepsPump {setup : LifecycleSetup String} {calls : Bool → EnqueueCall}
    (hcapsule : trimmedLower setup.capsuleHex ≠ "") (hdelays : setup.retryDelays ≠ [])
    (call : Bool) :
    Along (lifecycleStep setup calls) (KeepsPump setup calls) (Lifecycle.start none)
      (enqueueSteps call) := by
  have hread : enqueueReads setup none = .loaded [] false := by
    unfold enqueueReads
    rw [if_neg hcapsule]
    rfl
  have hfirst : lifecycleStep setup calls (Lifecycle.start none) (.enqueueStep call) =
      (Lifecycle.start none).enter call (.loaded [] false) :=
    congrArg ((Lifecycle.start none).enter call) hread
  refine ⟨trivial, ?_⟩
  rw [hfirst]
  have hsecond : lifecycleStep setup calls ((Lifecycle.start none).enter call (.loaded [] false))
      (.enqueueStep call) =
        enqueueWrites setup calls ((Lifecycle.start none).enter call (.loaded [] false)) call [] := by
    show enqueueStep setup calls _ call = _
    unfold enqueueStep
    rw [enter_self]
  refine ⟨?_, ?_⟩
  · show KeepsCall setup calls _ call (Lifecycle.stage _ call)
    rw [enter_self]
    exact trivial
  · rw [hsecond]
    unfold enqueueWrites
    refine ⟨?_, trivial⟩
    show KeepsCall setup calls _ call (Lifecycle.stage _ call)
    split
    · -- the call has written, and no pump is registered yet
      show KeepsCall setup calls _ call ((Lifecycle.enter _ call .stored).stage call)
      rw [enter_self]
      exact fun _ => ⟨fun _ hpump => (nomatch hpump), fun _ => hdelays⟩
    · rw [enter_self]
      exact trivial

/-- The pump wakes and reads the items that are due. -/
def pumpReads : List (LifecycleEvent Bool) := [.pumpWakes 2000000, .pumpStores 2000000]

def lastReadAhead (state : Lifecycle String Bool) : Bool :=
  match state.pump with
  | some (.storing .all .waiting) => true
  | _ => false

/-- A pump that is not about to read for the last time misses no item. -/
theorem keepsPump_of_not_last {state : Lifecycle String Bool} (h : lastReadAhead state = false)
    (now : ℤ) : KeepsPump sampleSetup sampleCalls state (.pumpStores now) := by
  intro hpump
  rw [lastReadAhead, hpump] at h
  cases h

theorem pending_attended_enqueue :
    HoldsPending sampleSetup (sampleRun (enqueueSteps true ++ pumpReads)) ∧
      Attended sampleSetup sampleCalls (sampleRun (enqueueSteps true ++ pumpReads)) := by
  refine ⟨by decide +kernel, pending_attended sampleSetup sampleCalls none _ ?_⟩
  refine along_append.mpr ⟨enqueueSteps_keepsPump (by decide +kernel) (List.cons_ne_nil _ _) true, ?_⟩
  exact ⟨trivial, keepsPump_of_not_last (by decide +kernel) _, trivial⟩

/-- The obligation of the second call is pending, and no pump is registered. -/
theorem skipped_schedule_strands : ¬ Attended sampleSetup sampleCalls (sampleRun strandingRun) := by
  intro h
  obtain ⟨hquiet, hpending, hnone⟩ :
      (∀ i, ((sampleRun strandingRun).stage i).resting = true) ∧
        HoldsPending sampleSetup (sampleRun strandingRun) ∧
          (sampleRun strandingRun).pump.isNone = true := by
    decide +kernel
  generalize sampleRun strandingRun = state at h hquiet hpending hnone
  obtain ⟨pump, hpump, -⟩ := h hquiet hpending [] trivial
  have hstill : state.pump = some pump := hpump
  rw [hstill] at hnone
  exact nomatch hnone

end DeliveryLifecycle

end Hivra
