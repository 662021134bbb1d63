import Hivra.Host.OneExecutor

namespace Hivra

open Replay

/-!
# Actions of a workspace

An action hands the stored state of the workspace to the package and saves what the package
answers; the stored grant must be the host's own, or there must be none.  An action and the
operations that move a state hold the same key, so it is one step, after which a handoff, a
return or a start may come.

The hosts here run actions besides the operations on the grant, and keep a history of what
happened to the state.  From a history comes what the last action left, and what a workspace
continues from where a VPS that has a state keeps it (`continued_last` says when the two are
the same).
-/

/-- What a package is handed; one that may not keep a state has none. -/
def handedState (persistent : Bool) (workspace : Option String) : Option String :=
  if persistent then workspace else none

/-- Run an action.  The outputs are the states in the answers of the package until it is done
    or fails, and each of them is saved.  The result is what the package was handed, and the
    store.  No action writes the effect journal. -/
def runWorkspaceAction (host : ExecutionHost) (binding : PackageBinding) (persistent : Bool)
    (outputs : List (Option String)) (store : WorkspaceStore) :
    Option (Option String × WorkspaceStore) :=
  if binding.packageDigest = none ∨ binding.packageId ≠ some binding.recordId then none
  else
    match readExecution host binding true false store.control with
    | none => none
    | some _ =>
      some (handedState persistent store.workspace, { store with
        workspace :=
          if persistent then outputs.foldl (fun saved output => output <|> saved) store.workspace
          else store.workspace })

/-- What happened to the state: an action left one on a host, or the VPS took a handoff over. -/
inductive WorkspaceEvent
  | acted (place : Executor) (left : Option String)
  | takenOver
  deriving DecidableEq

/-- The state that the last action left, on either host. -/
def lastLeft (workspace : Option String) (history : List WorkspaceEvent) : Option String :=
  replay (fun last event => match event with
    | .acted _ left => left
    | .takenOver => last) workspace history

/-- The state a workspace continues from, and the one its VPS has. -/
structure Continued where
  last : Option String
  onVps : Option String
  deriving DecidableEq

/-- A VPS that has a state when it takes a handoff over continues from its own. -/
def Continued.step (kept : Continued) : WorkspaceEvent → Continued
  | .acted .onLocal left => ⟨left, kept.onVps⟩
  | .acted .onVps left => ⟨left, left⟩
  | .takenOver => ⟨kept.onVps <|> kept.last, kept.onVps <|> kept.last⟩

/-- The state a workspace continues from after a history. -/
def continued (workspace : Option String) (history : List WorkspaceEvent) : Continued :=
  replay Continued.step ⟨workspace, none⟩ history

/-- A takeover does not find another state on the VPS. -/
def Continued.Agrees (kept : Continued) : WorkspaceEvent → Prop
  | .acted .. => True
  | .takenOver => kept.onVps = none ∨ kept.onVps = kept.last

instance (kept : Continued) : DecidablePred kept.Agrees
  | .acted .. => isTrue trivial
  | .takenOver => inferInstanceAs (Decidable (kept.onVps = none ∨ kept.onVps = kept.last))

/-- Where no takeover does, the workspace continues from what the last action left. -/
theorem continued_last {workspace : Option String} {history : List WorkspaceEvent}
    (h : Along Continued.step Continued.Agrees ⟨workspace, none⟩ history) :
    (continued workspace history).last = lastLeft workspace history := by
  have hany : ∀ kept : Continued, Along Continued.step Continued.Agrees kept history →
      (replay Continued.step kept history).last = lastLeft kept.last history := by
    clear h
    induction history with
    | nil =>
      intro kept _
      rfl
    | cons event history ih =>
      intro kept hagrees
      rw [replay_cons, ih _ hagrees.2]
      cases event with
      | acted place left => cases place <;> rfl
      | takenOver =>
        have hlast : (kept.onVps <|> kept.last) = kept.last := by
          rcases hagrees.1 with hnone | hsame
          · rw [hnone]
            rfl
          · rw [hsame]
            cases kept.last <;> rfl
        show lastLeft (kept.onVps <|> kept.last) history = lastLeft kept.last history
        rw [hlast]
  exact hany _ h

/-! ### The hosts -/

/-- The hosts, and what happened to the state. -/
structure Hosts where
  custody : Custody
  history : List WorkspaceEvent

/-- There is no grant yet; the local host may store a state and a journal. -/
def Hosts.start (workspace journal : Option String) : Hosts :=
  ⟨⟨⟨none, workspace, journal⟩, ⟨none, none, none⟩, none, [], []⟩, []⟩

/-- An operation on the grant. -/
def CustodyStep.onGrant : CustodyStep → Bool
  | .workHere .. | .workThere .. => false
  | _ => true

/-- An operation on the grant, or an action on a host. -/
inductive WorkspaceStep
  | custody (step : { step : CustodyStep // step.onGrant = true })
  | act (place : Executor) (binding : PackageBinding) (persistent : Bool)
      (outputs : List (Option String))

/-- The host at a place. -/
def hostAt (identity : String) : Executor → ExecutionHost
  | .onLocal => localHost
  | .onVps => vpsHost identity

/-- What it stores. -/
def Custody.storeAt (s : Custody) : Executor → WorkspaceStore
  | .onLocal => s.here
  | .onVps => s.there

/-- A host has run an action. -/
def CustodyStep.work (store : WorkspaceStore) : Executor → CustodyStep
  | .onLocal => .workHere store.workspace store.effects
  | .onVps => .workThere store.workspace store.effects

section System

variable (hash : WorkspaceCheckpoint → String) (identity : String)

/-- One step.  The VPS has taken a handoff over where its grant becomes its own. -/
def Hosts.step (s : Hosts) : WorkspaceStep → Hosts
  | .custody step =>
    let next := s.custody.step hash identity step.1
    { custody := next
      history :=
        if ¬ s.custody.there.Remote ∧ next.there.Remote then s.history ++ [.takenOver]
        else s.history }
  | .act place binding persistent outputs =>
    match runWorkspaceAction (hostAt identity place) binding persistent outputs
        (s.custody.storeAt place) with
    | some (_, store) =>
      { custody := s.custody.step hash identity (.work store place)
        history := s.history ++ [.acted place store.workspace] }
    | none => s

/-- A run of the hosts. -/
def hostsRun (s : Hosts) (steps : List WorkspaceStep) : Hosts :=
  replay (Hosts.step hash identity) s steps

end System

deriving instance DecidableEq for WorkspaceStore, PackageBinding, Custody

/-- A handoff that nothing carries. -/
def Custody.Fresh (s : Custody) (handoff : String) : Prop :=
  s.Unused handoff ∧ ∀ control ∈ s.there.control, control.handoffId ≠ some handoff

instance (s : Custody) (handoff : String) : Decidable (s.Fresh handoff) :=
  inferInstanceAs (Decidable (s.Unused handoff ∧
    ∀ control ∈ s.there.control, control.handoffId ≠ some handoff))

/-- The handoff that an operation may draw. -/
def CustodyStep.draws : CustodyStep → Option String
  | .setHere _ _ handoff _ _ | .release _ handoff _ => some handoff
  | _ => none

/-- What a step must meet unless it is refused: an operation what it must meet for the custody,
    with a handoff that nothing carries, and the VPS acts only with a grant. -/
def WorkspaceStep.Meets (hash : WorkspaceCheckpoint → String) (identity : String) (s : Hosts) :
    WorkspaceStep → Prop
  | .custody step => s.custody.step hash identity step.1 = s.custody ∨
      step.1.Meets s.custody ∧ ∀ handoff ∈ step.1.draws, s.custody.Fresh handoff
  | .act .onLocal .. => True
  | .act .onVps .. => s.custody.there.control.isSome = true

instance (hash : WorkspaceCheckpoint → String) (identity : String) (s : Hosts) :
    DecidablePred (WorkspaceStep.Meets hash identity s)
  | .custody step => inferInstanceAs (Decidable (s.custody.step hash identity step.1 = s.custody ∨
      step.1.Meets s.custody ∧ ∀ handoff ∈ step.1.draws, s.custody.Fresh handoff))
  | .act .onLocal .. => isTrue trivial
  | .act .onVps .. => inferInstanceAs (Decidable (s.custody.there.control.isSome = true))

end Hivra
