import Hivra.Ffi.LocalSpecs
import Hivra.Host.IntentHandler

namespace Hivra

open ByteString JsonDocument Replay

/-!
# The burn rule at the recipient

The reason of a rejection is read from the slots the host shows of the capsule that is active
when the user rejects.  Whether one of them is empty is all that counts: the invited kind is
not looked at, and the ledger the rejection lands in may be that of another capsule, or have
changed.
-/

/-- The burn rule lets the sender's starter burn: the recipient has an empty slot and no live
    starter of the invited kind. -/
def BurnAllowed (ledger : Ledger) (record : InvitationRecord) : Prop :=
  (SlotLayout.fromLedger ledger).slots.any SlotState.isEmpty = true ∧
    ∀ kind, recordStarterKind ledger record = some kind →
      kind ∉ activeStarterKinds (SlotLayout.fromLedger ledger) ledger

/-- An invitation that waits for the owner's answer. -/
def PendingIncoming (ledger : Ledger) (invitationId : InvitationId) (record : InvitationRecord) :
    Prop :=
  record ∈ invitationsWithStatus ledger ∧ record.invitationId = invitationId ∧
    record.direction = .incoming ∧ record.status = .pending

/-- A rejection on its way to a worker, with how it was read and from which runtime. -/
structure PendingReject where
  request : RejectRequest
  setup : IntentSetup
  seen : RuntimeState

section Rejecting

variable {Seed Double : Type} (env : HostEnv Seed Double) (dart : DartViews Double)

/-- The host, and the rejections under way. -/
structure Rejecting where
  host : HostProcess env
  pending : List PendingReject

/-- One step: any step of the host, the start of a rejection, or the call of the worker for
    the one at an index.  Whatever runs in between is steps of the host: the worker's own
    bootstrap, other workers, and switches of the capsule. -/
inductive RejectStep (Seed : Type)
  | host (step : HostStep Seed)
  | rejectInvitation (setup : IntentSetup) (invitation : Invitation) (capsuleHex : Option String)
  | rejectInWorker (index : ℕ) (outside : CallOutside Seed)

variable {env} in
/-- One step of the host, of a handler or of its worker. -/
def Rejecting.step (s : Rejecting env) : RejectStep Seed → Rejecting env
  | .host step => { s with host := s.host.step env step }
  | .rejectInvitation setup invitation capsuleHex =>
    match startReject env.platform env.lossy dart setup s.host.runtime invitation capsuleHex with
    | some (.inr request) => { s with pending := s.pending ++ [⟨request, setup, s.host.runtime⟩] }
    | _ => s
  | .rejectInWorker index outside =>
    match s.pending[index]? with
    | none => s
    | some item =>
      { host := { s.host with runtime := (hivraRejectInvitation env.platform outside s.host.runtime
          (some item.request.invitationId) item.request.reason).2 }
        pending := s.pending.eraseIdx index }

/-- The call of a worker keeps the burn rule: if it appends a rejection that burns, the ledger
    it appends it to allows that. -/
def KeepsBurnRule (outside : CallOutside Seed) (state : RuntimeState) (request : RejectRequest) :
    Prop :=
  ∀ event, (hivraRejectInvitation env.platform outside state (some request.invitationId)
      request.reason).2.events = state.events ++ [event] →
    event.payload = InvitationRejectedPayload.toBytes ⟨request.invitationId, .emptySlot⟩ →
    ∀ capsule ∈ state.capsule, ∀ record,
      PendingIncoming capsule.ledger request.invitationId record →
      BurnAllowed capsule.ledger record

/-- The condition: the host showed an empty slot only if the rule allows the burn in the ledger
    the rejection is appended to. -/
def ReasonFits (outside : CallOutside Seed) (state : RuntimeState) (item : PendingReject) : Prop :=
  item.setup.stateManager = true → ShowsEmptySlot item.seen →
    RejectionTaken env.platform outside state item.request.invitationId .emptySlot →
    ∀ capsule ∈ state.capsule, ∀ record,
      PendingIncoming capsule.ledger item.request.invitationId record →
      BurnAllowed capsule.ledger record

/-- A step keeps the burn rule. -/
def RejectStep.Keeps (s : Rejecting env) : RejectStep Seed → Prop
  | .rejectInWorker index outside =>
    ∀ item ∈ s.pending[index]?, KeepsBurnRule env outside s.host.runtime item.request
  | _ => True

/-- A step meets the condition. -/
def RejectStep.Fits (s : Rejecting env) : RejectStep Seed → Prop
  | .rejectInWorker index outside =>
    ∀ item ∈ s.pending[index]?, ReasonFits env outside s.host.runtime item
  | _ => True

variable {env dart}

/-- The reason of a pending rejection is the one that was read. -/
def ReasonRead (item : PendingReject) : Prop :=
  (item.request.reason = 0 ∧ item.setup.stateManager = true ∧ ShowsEmptySlot item.seen) ∨
    (item.request.reason = 1 ∧ ¬ (item.setup.stateManager = true ∧ ShowsEmptySlot item.seen))

/-- What a rejection that is started reads. -/
theorem reasonRead_of_start {setup : IntentSetup} {state : RuntimeState} {invitation : Invitation}
    {capsuleHex : Option String} {request : RejectRequest}
    (h : startReject env.platform env.lossy dart setup state invitation capsuleHex
      = some (.inr request)) : ReasonRead ⟨request, setup, state⟩ := by
  unfold startReject at h
  split at h
  · cases h
  split at h
  · cases h
  split at h
  · cases h
  split at h
  · cases h
  split at h
  · cases h
  obtain ⟨reason, hreason, hrequest⟩ := Option.map_eq_some_iff.mp h
  have heq : request.reason = reason := by rw [← Sum.inr.inj hrequest]
  unfold rejectReasonForInvitation at hreason
  unfold ReasonRead
  dsimp only
  rw [heq]
  split at hreason
  · rename_i hmanager
    obtain ⟨snapshot, hsnapshot, hvalue⟩ := Option.map_eq_some_iff.mp hreason
    have hslots := loadCapsuleSnapshot_slots hsnapshot
    split at hvalue
    · rename_i hempty
      exact Or.inl ⟨hvalue.symm, hmanager, hslots.mp hempty⟩
    · rename_i hempty
      exact Or.inr ⟨hvalue.symm, fun hboth => hempty (hslots.mpr hboth.2)⟩
  · rename_i hmanager
    exact Or.inr ⟨(Option.some.inj hreason).symm, fun hboth => hmanager hboth.1⟩

/-- Nothing is appended where the capsule stays as it is. -/
private theorem events_ne_append {state state' : RuntimeState} (h : state'.capsule = state.capsule)
    (event : Event) : state'.events ≠ state.events ++ [event] := by
  rw [RuntimeState.events, h, ← RuntimeState.events]
  intro heq
  have hlength := congrArg List.length heq
  simp at hlength

/-- **When one rejection keeps the rule.** -/
theorem keepsBurnRule_iff {outside : CallOutside Seed} {state : RuntimeState}
    {item : PendingReject} (h : ReasonRead item) :
    KeepsBurnRule env outside state item.request ↔ ReasonFits env outside state item := by
  have hempty : RejectReason.fromU8 0 = .ok .emptySlot := rfl
  have hother : RejectReason.fromU8 1 = .ok .other := rfl
  unfold KeepsBurnRule ReasonFits
  rcases h with ⟨hreason, hmanager, hshows⟩ | ⟨hreason, hnot⟩
  · rw [hreason]
    simp only [hmanager, hshows, forall_true_left]
    rcases @hivraRejectInvitation_cases _ env.platform outside state item.request.invitationId _ _
        hempty with ⟨hkept, hnottaken⟩ | ⟨seed, event, -, htaken, -, hgrows, hown⟩
    · exact iff_of_true (fun event hevents => absurd hevents (events_ne_append hkept event))
        fun htaken => absurd htaken hnottaken
    · constructor
      · intro hkeeps _
        exact hkeeps event hgrows.events hown.payload
      · intro hfits _ _ _
        exact hfits htaken
  · -- the other reason is written, and it never burns
    refine iff_of_true ?_ fun hmanager hshows => absurd ⟨hmanager, hshows⟩ hnot
    rw [hreason]
    intro event hevents hburns
    rcases @hivraRejectInvitation_cases _ env.platform outside state item.request.invitationId _ _
        hother with ⟨hkept, -⟩ | ⟨seed, written, -, -, -, hgrows, hown⟩
    · exact absurd hevents (events_ne_append hkept event)
    · rw [hgrows.events, List.append_cancel_left_eq, List.singleton_inj] at hevents
      have hpayload := hown.payload
      rw [hevents, hburns] at hpayload
      simp [InvitationRejectedPayload.toBytes, RejectReason.toByte] at hpayload

/-- Every pending rejection carries the reason that was read. -/
def Rejecting.Read (s : Rejecting env) : Prop := ∀ item ∈ s.pending, ReasonRead item

private theorem Rejecting.Read.step {s : Rejecting env} (step : RejectStep Seed) (h : s.Read) :
    (s.step dart step).Read := by
  intro item hitem
  cases step with
  | host step => exact h item hitem
  | rejectInvitation setup invitation capsuleHex =>
    unfold Rejecting.step at hitem
    dsimp only at hitem
    split at hitem
    · rename_i request hstart
      rcases List.mem_append.mp hitem with hold | hnew
      · exact h item hold
      · rw [List.mem_singleton.mp hnew]
        exact reasonRead_of_start hstart
    · exact h item hitem
  | rejectInWorker index outside =>
    unfold Rejecting.step at hitem
    dsimp only at hitem
    split at hitem
    · exact h item hitem
    · exact h item (List.mem_of_mem_eraseIdx hitem)

/-- **When the rejections of a run keep the rule**: all of them do iff each time the host showed
    an empty slot the ledger it led to allows the burn. -/
theorem burnRule_iff (env : HostEnv Seed Double) (dart : DartViews Double) (host : HostProcess env)
    (steps : List (RejectStep Seed)) :
    Along (Rejecting.step dart) (RejectStep.Keeps env) ⟨host, []⟩ steps ↔
      Along (Rejecting.step dart) (RejectStep.Fits env) ⟨host, []⟩ steps := by
  apply along_congr (P := Rejecting.Read)
  · intro item hitem
    cases hitem
  · intro s step hread
    exact hread.step step
  · intro s step hread
    cases step with
    | host step => exact Iff.rfl
    | rejectInvitation setup invitation capsuleHex => exact Iff.rfl
    | rejectInWorker index outside =>
      apply forall₂_congr
      intro item hitem
      exact keepsBurnRule_iff (hread item (List.mem_of_getElem? hitem))

end Rejecting

/-! ### A recipient that has the kind -/

/-- An offer of a juice starter by the peer 8, signed by it. -/
def juiceOffer : Event :=
  let unsigned := Event.newV5 .invitationReceived
    (List.replicate 32 1 ++ List.replicate 32 9 ++ List.replicate 32 17 ++ [0]) 5 ⟨fill 64 0⟩
    ⟨fill 32 8⟩
  { unsigned with
    signature := ⟨⟨(unsigned.eventId sampleDigest).toList ++ (fill 32 8 : Bytes 32).toList,
      by simp⟩⟩ }

/-- A leaf with one live starter, of the kind juice, that took the offer in. -/
def juiceState : RuntimeState :=
  let born := (initRuntimeState samplePlatform (some 10) (fun _ => none) ⟨none, 0⟩ hostSeed .neste
    .leaf .root).2
  let created := (hivraLedgerAppendEvent samplePlatform ⟨some hostSeed, ⟨some hostSeed, some 12⟩⟩
    born 5 (some (StarterCreatedPayload.toBytes ⟨⟨fill 32 3⟩, fill 32 4, .juice, 1⟩))).2
  (appendVerifiedRuntimeEvent samplePlatform ⟨some hostSeed, none⟩ created juiceOffer).2

/-- The invitation as the host shows it. -/
def juiceInvitation : Invitation where
  id := List.replicate 32 1
  fromPubkey := List.replicate 32 8
  fromRootPubkey := none
  fromCardSignatureHex := none
  toPubkey := none
  kind := .juice
  starterSlot := none
  status := .pending
  sentAt := ⟨5000, by decide⟩
  expiresAt := none
  respondedAt := none
  rejectionReason := none

/-- What the rejection asks of a worker. -/
def juiceRequest : RejectRequest := ⟨fill 32 1, 0, some (hexText (List.replicate 32 7))⟩

/-- What the call of the worker finds outside. -/
def juiceOutside : CallOutside (PubKey × PubKey) := ⟨some hostSeed, ⟨some hostSeed, some 20⟩⟩

/-- The runtime after the call of the worker. -/
def rejectedState : RuntimeState :=
  (hivraRejectInvitation samplePlatform juiceOutside juiceState (some (fill 32 1)) 0).2

/-- The rejection that is written. -/
def juiceRejection : Event := rejectedState.events.getLast?.getD juiceOffer

/-- **Counterexample.**  The recipient has a live juice starter and rejects an offer of one: the
    rejection says that a slot was empty, and burns. -/
theorem liveKind_burns :
    ¬ ∀ (host : HostProcess sampleEnv) (steps : List (RejectStep (PubKey × PubKey))),
      Along (Rejecting.step sampleViews) (RejectStep.Keeps sampleEnv) ⟨host, []⟩ steps := by
  intro h
  have hstart : startReject samplePlatform (fun _ => none) sampleViews ⟨true, none⟩ juiceState
      juiceInvitation none = some (.inr juiceRequest) := by decide +kernel
  have hcall := (h ⟨juiceState, fun _ => none, []⟩
    [.rejectInvitation ⟨true, none⟩ juiceInvitation none, .rejectInWorker 0 juiceOutside]).2.1
  have hstep : Rejecting.step sampleViews
      (⟨⟨juiceState, fun _ => none, []⟩, []⟩ : Rejecting sampleEnv)
      (.rejectInvitation ⟨true, none⟩ juiceInvitation none)
        = ⟨⟨juiceState, fun _ => none, []⟩, [⟨juiceRequest, ⟨true, none⟩, juiceState⟩]⟩ := by
    unfold Rejecting.step
    dsimp only [sampleEnv]
    rw [hstart]
    rfl
  rw [hstep] at hcall
  have hkeeps : KeepsBurnRule sampleEnv juiceOutside juiceState juiceRequest := by
    unfold RejectStep.Keeps at hcall
    simpa using hcall
  have hwritten : rejectedState.events = juiceState.events ++ [juiceRejection] := by
    decide +kernel
  have hburns : juiceRejection.payload
      = InvitationRejectedPayload.toBytes ⟨fill 32 1, .emptySlot⟩ := by
    decide +kernel
  have hlive : ∃ capsule ∈ juiceState.capsule, ∃ record ∈ invitationsWithStatus capsule.ledger,
      record.invitationId = fill 32 1 ∧ record.direction = .incoming ∧ record.status = .pending ∧
      recordStarterKind capsule.ledger record = some .juice ∧
      StarterKind.juice ∈ activeStarterKinds (SlotLayout.fromLedger capsule.ledger)
        capsule.ledger := by
    decide +kernel
  obtain ⟨capsule, hcapsule, record, hmem, hid, hincoming, hpending, hkind, hactive⟩ := hlive
  have hallowed := hkeeps juiceRejection hwritten hburns capsule hcapsule record
    ⟨hmem, hid, hincoming, hpending⟩
  exact hallowed.2 .juice hkind hactive

end Hivra
