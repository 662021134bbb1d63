import Hivra.Core.InvitationRecords
import Hivra.Core.StarterPayloads

namespace Hivra

open ByteString Replay

/-!
# The history of a subject

The history view selects the events of a ledger that concern a subject, with their places.  It
reads the payloads by itself and knows nothing of the projection of the invitations; what it
selects for an invitation is all that the projection makes use of.

* `historyViewV1` — the view.
-/

inductive HistorySubjectKindV1
  | invitation
  | starter
  | relationship
  deriving DecidableEq

structure HistorySubjectV1 where
  kind : HistorySubjectKindV1
  primaryId : Bytes 32
  secondaryId : Option (Bytes 32)
  deriving DecidableEq

def HistorySubjectV1.matches (subject : HistorySubjectV1) (value : Bytes 32) : Bool :=
  subject.primaryId == value || subject.secondaryId == some value

structure HistorySummary where
  code : String
  ids : List (Bytes 32)
  starterKind : Option UInt8
  reason : Option UInt8
  deriving DecidableEq

structure HistoryEntryV1 where
  ledgerIndex : ℕ
  eventKind : EventKind
  timestamp : Timestamp
  summaryCode : String
  summaryIds : List (Bytes 32)
  starterKind : Option UInt8
  reason : Option UInt8
  deriving DecidableEq

structure HistoryViewV1 where
  schema : String
  version : ℕ
  ledgerVersion : ℕ
  subject : HistorySubjectV1
  entries : List HistoryEntryV1
  deriving DecidableEq

/-- An optional root key that matches the subject. -/
def HistorySubjectV1.matchesRoot (subject : HistorySubjectV1) (root : Option PubKey) : Bool :=
  root.any fun root => subject.matches root.bytes

section Summaries

variable (subject : HistorySubjectV1)

/-- A summary where the payload concerns the subject. -/
def summaryIf (concerns : Bool) (summary : HistorySummary) : Option HistorySummary :=
  if concerns then some summary else none

def summarizeOffer (kind : EventKind) (payload : InvitationSentPayload) : Option HistorySummary :=
  summaryIf
    (match subject.kind with
    | .invitation => payload.invitationId == subject.primaryId
    | .starter => payload.starterId.bytes == subject.primaryId
    | .relationship => subject.matches payload.toPubkey.bytes ||
        subject.matchesRoot payload.senderRootPubkey)
    { code := if kind = .invitationSent then "invitation_sent" else "invitation_received"
      ids := [payload.invitationId, payload.starterId.bytes]
      starterKind := none
      reason := none }

def summarizeAccepted (payload : InvitationAcceptedPayload) : Option HistorySummary :=
  summaryIf
    (match subject.kind with
    | .invitation => payload.invitationId == subject.primaryId
    | .starter => payload.createdStarterId.bytes == subject.primaryId
    | .relationship => subject.matches payload.fromPubkey.bytes ||
        subject.matchesRoot payload.accepterRootPubkey)
    { code := "invitation_accepted"
      ids := [payload.invitationId, payload.createdStarterId.bytes]
      starterKind := none
      reason := none }

def summarizeRejected (payload : InvitationRejectedPayload) : Option HistorySummary :=
  summaryIf (subject.kind == .invitation && payload.invitationId == subject.primaryId)
    { code := "invitation_rejected"
      ids := [payload.invitationId]
      starterKind := none
      reason := some payload.reason.toByte }

def summarizeExpired (payload : InvitationExpiredPayload) : Option HistorySummary :=
  summaryIf (subject.kind == .invitation && payload.invitationId == subject.primaryId)
    { code := "invitation_expired"
      ids := [payload.invitationId]
      starterKind := none
      reason := none }

def summarizeCreated (payload : StarterCreatedPayload) : Option HistorySummary :=
  summaryIf (subject.kind == .starter && payload.starterId.bytes == subject.primaryId)
    { code := "starter_created"
      ids := [payload.starterId.bytes]
      starterKind := some payload.kind.toByte
      reason := none }

def summarizeBurned (payload : StarterBurnedPayload) : Option HistorySummary :=
  summaryIf (subject.kind == .starter && payload.starterId.bytes == subject.primaryId)
    { code := "starter_burned"
      ids := [payload.starterId.bytes]
      starterKind := none
      reason := some payload.reason }

/-- An establishment in the history of a subject that it names. -/
def summarizeEstablished (payload : RelationshipEstablishedPayload) : Option HistorySummary :=
  summaryIf
    (match subject.kind with
    | .invitation => payload.invitationId == subject.primaryId
    | .starter => subject.primaryId == payload.ownStarterId.bytes ||
        subject.primaryId == payload.peerStarterId.bytes ||
        subject.primaryId == payload.senderStarterId.bytes
    | .relationship => subject.matches payload.peerPubkey.bytes ||
        subject.matches payload.senderPubkey.bytes ||
        subject.matchesRoot payload.peerRootPubkey || subject.matchesRoot payload.senderRootPubkey)
    { code := "relationship_established"
      ids := [payload.peerPubkey.bytes]
      starterKind := some payload.kind.toByte
      reason := none }

def summarizeBroken (payload : RelationshipBrokenPayload) : Option HistorySummary :=
  summaryIf
    (match subject.kind with
    | .invitation => false
    | .starter => subject.primaryId == payload.ownStarterId.bytes
    | .relationship => subject.matches payload.peerPubkey.bytes ||
        subject.matchesRoot payload.peerRootPubkey)
    { code := "relationship_broken"
      ids := [payload.peerPubkey.bytes]
      starterKind := none
      reason := none }

/-- What an event says of the subject. -/
def projectEvent (event : Event) : Option HistorySummary :=
  match event.kind with
  | .invitationSent | .invitationReceived =>
    (InvitationSentPayload.fromBytes event.payload).toOption.bind
      (summarizeOffer subject event.kind)
  | .invitationAccepted =>
    (InvitationAcceptedPayload.fromBytes event.payload).toOption.bind (summarizeAccepted subject)
  | .invitationRejected =>
    (InvitationRejectedPayload.fromBytes event.payload).toOption.bind (summarizeRejected subject)
  | .invitationExpired =>
    (InvitationExpiredPayload.fromBytes event.payload).toOption.bind (summarizeExpired subject)
  | .starterCreated =>
    (StarterCreatedPayload.fromBytes event.payload).toOption.bind (summarizeCreated subject)
  | .starterBurned =>
    (StarterBurnedPayload.fromBytes event.payload).toOption.bind (summarizeBurned subject)
  | .relationshipEstablished =>
    (RelationshipEstablishedPayload.fromBytes event.payload).toOption.bind
      (summarizeEstablished subject)
  | .relationshipBroken =>
    (RelationshipBrokenPayload.fromBytes event.payload).toOption.bind (summarizeBroken subject)
  | .capsuleCreated => none

end Summaries

def historyEntry (event : Event) (ledgerIndex : ℕ) (summary : HistorySummary) :
    HistoryEntryV1 where
  ledgerIndex := ledgerIndex
  eventKind := event.kind
  timestamp := event.timestamp
  summaryCode := summary.code
  summaryIds := summary.ids
  starterKind := summary.starterKind
  reason := summary.reason

def historyViewV1 (ledger : Ledger) (subject : HistorySubjectV1) : HistoryViewV1 where
  schema := "hivra.history_view"
  version := 1
  ledgerVersion := ledger.events.length
  subject := subject
  entries := ledger.events.zipIdx.filterMap fun (event, ledgerIndex) =>
    (projectEvent subject event).map (historyEntry event ledgerIndex)

/-! ### What is selected -/

/-- The invitation an event names: an offer, a terminal or a relationship. -/
def namedInvitation (event : Event) : Option InvitationId :=
  match event.kind with
  | .invitationSent | .invitationReceived =>
    (InvitationSentPayload.fromBytes event.payload).toOption.map (·.invitationId)
  | .invitationAccepted =>
    (InvitationAcceptedPayload.fromBytes event.payload).toOption.map (·.invitationId)
  | .invitationRejected =>
    (InvitationRejectedPayload.fromBytes event.payload).toOption.map (·.invitationId)
  | .invitationExpired =>
    (InvitationExpiredPayload.fromBytes event.payload).toOption.map (·.invitationId)
  | .relationshipEstablished =>
    (RelationshipEstablishedPayload.fromBytes event.payload).toOption.map (·.invitationId)
  | _ => none

/-- The events of a ledger that a view has selected, in the order of its entries. -/
def selectedEvents (ledger : Ledger) (subject : HistorySubjectV1) : List Event :=
  (historyViewV1 ledger subject).entries.filterMap fun entry => ledger.events[entry.ledgerIndex]?

/-- The subject of an invitation. -/
def invitationSubject (id : InvitationId) (secondaryId : Option (Bytes 32)) : HistorySubjectV1 :=
  ⟨.invitation, id, secondaryId⟩

@[simp] theorem summaryIf_isSome (concerns : Bool) (summary : HistorySummary) :
    (summaryIf concerns summary).isSome = concerns := by
  cases concerns <;> rfl

/-- A payload that is read concerns the invitation that it names. -/
theorem isSome_bind_iff {P : Type} {payload : Option P} {summarize : P → Option HistorySummary}
    {invitationId : P → InvitationId} {id : InvitationId}
    (h : ∀ payload, (summarize payload).isSome = (invitationId payload == id)) :
    (payload.bind summarize).isSome = true ↔ payload.map invitationId = some id := by
  cases payload with
  | none => simp
  | some payload => simp [h]

/-- **What the view of an invitation selects.** -/
theorem projectEvent_invitation (id : InvitationId) (secondaryId : Option (Bytes 32))
    (event : Event) : (projectEvent (invitationSubject id secondaryId) event).isSome = true ↔
      namedInvitation event = some id := by
  unfold projectEvent namedInvitation
  cases event.kind with
  | capsuleCreated => simp
  | invitationSent => exact isSome_bind_iff fun _ => summaryIf_isSome _ _
  | invitationReceived => exact isSome_bind_iff fun _ => summaryIf_isSome _ _
  | invitationAccepted => exact isSome_bind_iff fun _ => summaryIf_isSome _ _
  | invitationRejected => exact isSome_bind_iff fun _ => summaryIf_isSome _ _
  | invitationExpired => exact isSome_bind_iff fun _ => summaryIf_isSome _ _
  | relationshipEstablished => exact isSome_bind_iff fun _ => summaryIf_isSome _ _
  | starterCreated =>
    cases StarterCreatedPayload.fromBytes event.payload <;>
      simp [Except.toOption, summarizeCreated, summaryIf, invitationSubject]
  | starterBurned =>
    cases StarterBurnedPayload.fromBytes event.payload <;>
      simp [Except.toOption, summarizeBurned, summaryIf, invitationSubject]
  | relationshipBroken =>
    cases RelationshipBrokenPayload.fromBytes event.payload <;>
      simp [Except.toOption, summarizeBroken, summaryIf, invitationSubject]

/-- The entries of a view are in the order of the ledger. -/
theorem entries_increasing (ledger : Ledger) (subject : HistorySubjectV1) :
    ((historyViewV1 ledger subject).entries.map HistoryEntryV1.ledgerIndex).Pairwise (· < ·) := by
  have hindices : ledger.events.zipIdx.Pairwise fun a b => a.2 < b.2 := by
    rw [← List.pairwise_map, List.zipIdx_map_snd]
    exact List.pairwise_lt_range' _
  rw [List.pairwise_map]
  refine List.pairwise_filterMap.mpr (hindices.imp fun hlt => ?_)
  intro entry hentry entry' hentry'
  obtain ⟨_, -, rfl⟩ := Option.map_eq_some_iff.mp hentry
  obtain ⟨_, -, rfl⟩ := Option.map_eq_some_iff.mp hentry'
  exact hlt

variable {event : Event}

/-- An index is in a view if its event says something of the subject. -/
theorem mem_entries_iff {ledger : Ledger} {subject : HistorySubjectV1} {i : ℕ}
    (h : ledger.events[i]? = some event) :
    i ∈ (historyViewV1 ledger subject).entries.map HistoryEntryV1.ledgerIndex ↔
      (projectEvent subject event).isSome = true := by
  constructor
  · intro hmem
    obtain ⟨entry, hentry, rfl⟩ := List.mem_map.mp hmem
    obtain ⟨⟨other, j⟩, hother, hentry⟩ := List.mem_filterMap.mp hentry
    obtain ⟨summary, hsummary, rfl⟩ := Option.map_eq_some_iff.mp hentry
    have hsame : ledger.events[j]? = some other := List.mem_zipIdx_iff_getElem?.mp hother
    obtain rfl := Option.some.inj (h.symm.trans hsame)
    rw [hsummary]
    rfl
  · intro hsome
    obtain ⟨summary, hsummary⟩ := Option.isSome_iff_exists.mp hsome
    have hentry : (event, i) ∈ ledger.events.zipIdx := List.mem_zipIdx_iff_getElem?.mpr h
    refine List.mem_map.mpr ⟨historyEntry event i summary, ?_, rfl⟩
    refine List.mem_filterMap.mpr ⟨(event, i), hentry, ?_⟩
    exact Option.map_eq_some_iff.mpr ⟨summary, hsummary, rfl⟩

/-- The selected events are those that say something of the subject. -/
theorem selectedEvents_eq (ledger : Ledger) (subject : HistorySubjectV1) :
    selectedEvents ledger subject =
      ledger.events.filter fun event => (projectEvent subject event).isSome := by
  have hfst : ledger.events = ledger.events.zipIdx.map Prod.fst := by
    rw [List.zipIdx_map_fst]
  have hfilter : (ledger.events.zipIdx.map Prod.fst).filter
      (fun event => (projectEvent subject event).isSome) =
        ledger.events.zipIdx.filterMap fun entry =>
          (projectEvent subject entry.1).map fun _ => entry.1 := by
    rw [← List.filterMap_eq_filter, List.filterMap_map]
    refine List.filterMap_congr fun entry _ => ?_
    show Option.guard _ entry.1 = _
    cases hsome : projectEvent subject entry.1 with
    | none => simp [Option.guard, hsome]
    | some summary => simp [Option.guard, hsome]
  conv_rhs => rw [hfst, hfilter]
  show (List.filterMap _ _).filterMap _ = _
  rw [List.filterMap_filterMap]
  refine List.filterMap_congr fun entry hentry => ?_
  obtain ⟨event, i⟩ := entry
  have hget : ledger.events[i]? = some event := List.mem_zipIdx_iff_getElem?.mp hentry
  show (Option.map _ (projectEvent subject event)).bind _ = _
  cases hsome : projectEvent subject event with
  | none => rfl
  | some summary => exact hget

/-! ### The record of one invitation -/

theorem namedInvitation_of_offer {payload : InvitationSentPayload} (h : OfferOf event payload) :
    namedInvitation event = some payload.invitationId := by
  obtain ⟨hkind | hkind, hparse⟩ := h <;>
    simp [namedInvitation, hkind, hparse, Except.toOption]

/-- The invitation of a terminal is the one that it names. -/
theorem namedInvitation_of_terminal {id : InvitationId} {terminal : InvitationStatus}
    (h : terminalStatus event.kind event.payload = some (id, terminal)) :
    namedInvitation event = some id := by
  unfold terminalStatus at h
  unfold namedInvitation
  split at h
  · next hkind =>
    cases hparse : InvitationAcceptedPayload.fromBytes event.payload with
    | error message => simp [hparse] at h
    | ok payload =>
      rw [hparse] at h
      obtain ⟨rfl, -⟩ := Prod.mk.inj (Option.some.inj h)
      simp [hkind, Except.toOption]
  · next hkind =>
    cases hparse : InvitationRejectedPayload.fromBytes event.payload with
    | error message => simp [hparse] at h
    | ok payload =>
      rw [hparse] at h
      obtain ⟨rfl, -⟩ := Prod.mk.inj (Option.some.inj h)
      simp [hkind, Except.toOption]
  · next hkind =>
    cases hparse : InvitationExpiredPayload.fromBytes event.payload with
    | error message => simp [hparse] at h
    | ok payload =>
      rw [hparse] at h
      obtain ⟨rfl, -⟩ := Prod.mk.inj (Option.some.inj h)
      simp [hkind, Except.toOption]
  · exact nomatch h

section Record

variable (owner : PubKey) (id : InvitationId)

/-- What an event does to the record of an invitation: the record takes the step alone, and only
    where the event names the invitation. -/
def recordStep (record : Option InvitationRecord) (event : Event) : Option InvitationRecord :=
  if namedInvitation event = some id then (invitationStep owner record.toList event).head?
  else record

/-- The first record of the invitation. -/
def recordOf (records : List InvitationRecord) : Option InvitationRecord :=
  records.find? fun record => record.invitationId == id

variable {owner id} {records : List InvitationRecord}

theorem recordOf_offer {event : Event} {payload : InvitationSentPayload}
    (h : OfferOf event payload) :
    recordOf id (invitationStep owner records event)
      = recordStep owner id (recordOf id records) event := by
  unfold recordStep
  rw [namedInvitation_of_offer h, invitationStep_offer owner h, invitationStep_offer owner h]
  by_cases hid : payload.invitationId = id
  · subst hid
    rw [if_pos rfl]
    cases hfind : recordOf payload.invitationId records with
    | none =>
      have hnone : records.any (fun record => record.invitationId == payload.invitationId)
          = false := by
        rw [List.any_eq_false]
        exact List.find?_eq_none.mp hfind
      rw [hnone]
      show recordOf _ (records ++ [offerRecord event payload]) = some (offerRecord event payload)
      unfold recordOf at hfind ⊢
      rw [List.find?_append, hfind]
      simp [offerRecord]
    | some record =>
      have hrecord : (record.invitationId == payload.invitationId) = true := by
        unfold recordOf at hfind
        have hrecord := List.find?_some hfind
        exact hrecord
      have hsome : records.any (fun record => record.invitationId == payload.invitationId)
          = true := List.any_eq_true.mpr ⟨record, List.mem_of_find?_eq_some hfind, hrecord⟩
      rw [if_pos hsome, hfind]
      simp [hrecord]
  · have hother : ¬ some payload.invitationId = some id := fun h => hid (Option.some.inj h)
    rw [if_neg hother]
    split_ifs
    · rfl
    · unfold recordOf
      rw [List.find?_append]
      simp [offerRecord, hid]

theorem recordOf_terminal {event : Event} {named : InvitationId} {terminal : InvitationStatus}
    (h : terminalStatus event.kind event.payload = some (named, terminal)) :
    recordOf id (invitationStep owner records event)
      = recordStep owner id (recordOf id records) event := by
  have hkey : ∀ record : InvitationRecord, record.invitationId = named →
      (applyTerminal owner event terminal record).invitationId = named := by
    intro record hrecord
    rw [applyTerminal_invitationId, hrecord]
  unfold recordStep
  rw [namedInvitation_of_terminal h, invitationStep_terminal owner h,
    invitationStep_terminal owner h]
  unfold recordOf
  rw [find_key_updateFirst hkey]
  by_cases hid : named = id
  · subst hid
    rw [if_pos rfl, if_pos rfl]
    cases hfind : records.find? fun record => record.invitationId == named with
    | none => rfl
    | some record =>
      have hrecord := List.find?_some hfind
      simp only [Option.map_some, Option.toList_some, updateFirst_cons, hrecord, if_true,
        List.head?_cons]
  · rw [if_neg hid, if_neg (by simpa using hid)]

/-- **One event and the record of an invitation.** -/
theorem recordOf_invitationStep (records : List InvitationRecord) (event : Event) :
    recordOf id (invitationStep owner records event)
      = recordStep owner id (recordOf id records) event := by
  by_cases hoffer : ∃ payload, OfferOf event payload
  · obtain ⟨payload, hoffer⟩ := hoffer
    exact recordOf_offer hoffer
  · cases hterminal : terminalStatus event.kind event.payload with
    | some named => exact recordOf_terminal hterminal
    | none =>
      -- Neither an offer nor a terminal: no list of records changes.
      have hsame : ∀ records, invitationStep owner records event = records := by
        intro records
        rcases invitationStep_cases owner records event with
          h | ⟨payload, h, -⟩ | ⟨_, _, _, _, _, h, -⟩
        · exact h
        · exact absurd ⟨payload, h⟩ hoffer
        · exact nomatch hterminal.symm.trans h
      unfold recordStep
      rw [hsame, hsame]
      cases recordOf id records with
      | none => split_ifs <;> rfl
      | some record => split_ifs <;> rfl

/-- The record of an invitation is made of the events that name it. -/
theorem recordOf_replay (records : List InvitationRecord) (events : List Event) :
    recordOf id (replay (invitationStep owner) records events) =
      replay (recordStep owner id) (recordOf id records)
        (events.filter fun event => decide (namedInvitation event = some id)) := by
  induction events generalizing records with
  | nil => rfl
  | cons event events ih =>
    rw [replay_cons, ih, recordOf_invitationStep, List.filter_cons]
    by_cases hnamed : namedInvitation event = some id
    · rw [if_pos (by simpa using hnamed), replay_cons]
    · rw [if_neg (by simpa using hnamed), recordStep, if_neg hnamed]

end Record

/-- **The record of an invitation** from the events its view selects. -/
theorem findInvitation_eq (ledger : Ledger) (id : InvitationId) (secondaryId : Option (Bytes 32)) :
    findInvitation ledger id = replay (recordStep ledger.owner id) none
      (selectedEvents ledger (invitationSubject id secondaryId)) := by
  have hfind : recordOf id (replay (invitationStep ledger.owner) [] ledger.events) = _ :=
    recordOf_replay [] ledger.events
  rw [selectedEvents_eq]
  refine hfind.trans ?_
  congr 1
  refine List.filter_congr fun event _ => ?_
  rw [Bool.eq_iff_iff, decide_eq_true_eq]
  exact (projectEvent_invitation id secondaryId event).symm

/-- What is claimed of the view of an invitation. -/
structure HistoryBasis (id : InvitationId) (secondaryId : Option (Bytes 32)) : Prop where
  increasing : ∀ ledger, ((historyViewV1 ledger (invitationSubject id secondaryId)).entries.map
    HistoryEntryV1.ledgerIndex).Pairwise (· < ·)
  exact : ∀ ledger : Ledger, ∀ i event, ledger.events[i]? = some event →
    (i ∈ (historyViewV1 ledger (invitationSubject id secondaryId)).entries.map
      HistoryEntryV1.ledgerIndex ↔ namedInvitation event = some id)
  sufficient : ∀ ledger ledger' : Ledger, ledger.owner = ledger'.owner →
    selectedEvents ledger (invitationSubject id secondaryId)
      = selectedEvents ledger' (invitationSubject id secondaryId) →
    findInvitation ledger id = findInvitation ledger' id

/-- **The view of an invitation is what its record is made of**: it has the events that name the
    invitation, in order and no others, and the record depends on nothing else. -/
theorem history_basis (id : InvitationId) (secondaryId : Option (Bytes 32)) :
    HistoryBasis id secondaryId where
  increasing ledger := entries_increasing ledger _
  exact ledger i event h := (mem_entries_iff h).trans (projectEvent_invitation id secondaryId event)
  sufficient ledger ledger' howner hselected := by
    rw [findInvitation_eq ledger id secondaryId, findInvitation_eq ledger' id secondaryId,
      howner, hselected]

end Hivra
