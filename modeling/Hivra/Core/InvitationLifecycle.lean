import Hivra.Core.InvitationRecords

namespace Hivra

open ByteString Replay

/-!
# The invitation lifecycle

The projection as a state machine under append: what one more event can do to the
records, and what no continuation can undo.
-/

/-! ### The lifecycle under append -/

/-- What one event may do to one record. -/
structure RecordStep (owner : PubKey) (event : Event) (before after : InvitationRecord) :
    Prop where
  sameOffer : after.asOffered = before.asOffered
  flag : before.hasLocalTerminal = true → after.hasLocalTerminal = true
  status : after.status = before.status ∨ StatusChange owner event before after.status

/-- What any number of events may do to one record: nothing takes back what the offer
    said or the flag, and a final record keeps all but the flag. -/
structure RecordRun (before after : InvitationRecord) : Prop where
  sameOffer : after.asOffered = before.asOffered
  flag : before.hasLocalTerminal = true → after.hasLocalTerminal = true
  final : before.IsFinal → after = { before with hasLocalTerminal := after.hasLocalTerminal }

/-- What one event may do to all records. -/
structure LifecycleStep (owner : PubKey) (event : Event)
    (before after : List InvitationRecord) : Prop where
  kept : ∀ (i : ℕ) (record : InvitationRecord), before[i]? = some record →
    ∃ record', after[i]? = some record' ∧ RecordStep owner event record record'
  added : after.length ≤ before.length + 1
  fresh : ∀ record' : InvitationRecord, after[before.length]? = some record' →
    ∀ record ∈ before, record.invitationId ≠ record'.invitationId
  oneChange : ∀ (i j : ℕ) (ri ri' rj rj' : InvitationRecord), before[i]? = some ri → after[i]? = some ri' →
    ri'.status ≠ ri.status → before[j]? = some rj → after[j]? = some rj' →
    rj'.status ≠ rj.status → i = j

theorem RecordStep.refl (owner : PubKey) (event : Event) (record : InvitationRecord) :
    RecordStep owner event record record :=
  ⟨rfl, id, Or.inl rfl⟩

theorem RecordRun.refl (record : InvitationRecord) : RecordRun record record :=
  ⟨rfl, id, fun _ => rfl⟩

theorem RecordRun.trans {first second third : InvitationRecord} (h : RecordRun first second)
    (h' : RecordRun second third) : RecordRun first third := by
  refine ⟨h'.sameOffer.trans h.sameOffer, fun hflag => h'.flag (h.flag hflag), ?_⟩
  intro hfinal
  have hsecond := h.final hfinal
  have hstatus : second.status = first.status := by rw [hsecond]
  have hthird := h'.final (by unfold InvitationRecord.IsFinal; rw [hstatus]; exact hfinal)
  rw [hthird, hsecond]

/-- A step over records where one record, named by the event, changes. -/
private theorem lifecycleStep_of_named {owner : PubKey} {event : Event}
    {front back : List InvitationRecord} {record record' : InvitationRecord}
    (h : RecordStep owner event record record') :
    LifecycleStep owner event (front ++ record :: back) (front ++ record' :: back) := by
  have hother : ∀ i, i ≠ front.length →
      (front ++ record' :: back)[i]? = (front ++ record :: back)[i]? := by
    intro i hi
    rcases Nat.lt_or_ge i front.length with hlt | hge
    · rw [List.getElem?_append_left hlt, List.getElem?_append_left hlt]
    · obtain ⟨k, rfl⟩ : ∃ k, i = front.length + (k + 1) := ⟨i - front.length - 1, by omega⟩
      rw [List.getElem?_append_right (by omega), List.getElem?_append_right (by omega)]
      simp [Nat.add_sub_cancel_left]
  have hchanged : ∀ (i : ℕ) (r r' : InvitationRecord), (front ++ record :: back)[i]? = some r →
      (front ++ record' :: back)[i]? = some r' → r'.status ≠ r.status → i = front.length := by
    intro i r r' hr hr' hne
    by_contra hi
    rw [hother i hi, hr, Option.some.injEq] at hr'
    exact hne (by rw [hr'])
  refine ⟨?_, ?_, ?_, ?_⟩
  · intro i r hr
    by_cases hi : i = front.length
    · subst hi
      have hrec : record = r := by simpa using hr
      rw [← hrec]
      exact ⟨record', by simp, h⟩
    · exact ⟨r, by rw [hother i hi]; exact hr, RecordStep.refl owner event r⟩
  · simp
  · intro r hr
    have hlen : (front ++ record :: back).length = (front ++ record' :: back).length := by simp
    rw [hlen, List.getElem?_eq_none (Nat.le_refl _)] at hr
    exact absurd hr (by simp)
  · intro i j ri ri' rj rj' hri hri' hi hrj hrj' hj
    rw [hchanged i ri ri' hri hri' hi, hchanged j rj rj' hrj hrj' hj]

variable {record : InvitationRecord}

/-- A step that appends a record of a new id. -/
private theorem lifecycleStep_of_added {owner : PubKey} {event : Event}
    {records : List InvitationRecord}
    (hfresh : ∀ r ∈ records, r.invitationId ≠ record.invitationId) :
    LifecycleStep owner event records (records ++ [record]) := by
  have hold : ∀ (i : ℕ) (r : InvitationRecord), records[i]? = some r → (records ++ [record])[i]? = some r := by
    intro i r hr
    rw [List.getElem?_append_left (List.getElem?_eq_some_iff.mp hr).1]
    exact hr
  refine ⟨fun i r hr => ⟨r, hold i r hr, RecordStep.refl owner event r⟩, by simp, ?_, ?_⟩
  · intro r hr
    have hrec : record = r := by simpa using hr
    rw [← hrec]
    exact hfresh
  · intro i j ri ri' rj rj' hri hri' hi
    rw [hold i ri hri, Option.some.injEq] at hri'
    exact absurd (by rw [hri']) hi

/-- **Step lemma.** One event moves every record as the lifecycle allows. -/
theorem invitationStep_lifecycle (owner : PubKey) (records : List InvitationRecord)
    (event : Event) : LifecycleStep owner event records (invitationStep owner records event) := by
  rcases invitationStep_cases owner records event with
    heq | ⟨payload, hoffer, hfresh, heq⟩ |
      ⟨id, terminal, front, record, back, hterminal, hrecords, -, -, heq⟩
  · rw [heq]
    refine ⟨fun i r hr => ⟨r, hr, RecordStep.refl owner event r⟩, by simp, ?_, ?_⟩
    · intro r hr
      simp at hr
    · intro i j ri ri' rj rj' hri hri' hi
      rw [hri, Option.some.injEq] at hri'
      exact absurd (by rw [hri']) hi
  · rw [heq]
    exact lifecycleStep_of_added hfresh
  · rw [heq, hrecords]
    exact lifecycleStep_of_named
      ⟨applyTerminal_asOffered owner event terminal record,
        applyTerminal_hasLocalTerminal owner event terminal record,
        applyTerminal_status owner event terminal record (terminalStatus_ne_pending hterminal)⟩

/-- One event moves every record to one it may run to. -/
private theorem recordRun_step {owner : PubKey} {records : List InvitationRecord} {event : Event}
    {i : ℕ} {record : InvitationRecord} (h : records[i]? = some record) :
    ∃ record', (invitationStep owner records event)[i]? = some record' ∧
      RecordRun record record' := by
  rcases invitationStep_cases owner records event with
    heq | ⟨payload, -, -, heq⟩ | ⟨id, terminal, front, named, back, -, hrecords, -, -, heq⟩
  · exact ⟨record, by rw [heq]; exact h, RecordRun.refl record⟩
  · refine ⟨record, ?_, RecordRun.refl record⟩
    rw [heq, List.getElem?_append_left (List.getElem?_eq_some_iff.mp h).1]
    exact h
  · rw [hrecords] at h
    rw [heq]
    by_cases hi : i = front.length
    · subst hi
      have hnamed : named = record := by simpa using h
      rw [hnamed]
      exact ⟨applyTerminal owner event terminal record, by simp,
        applyTerminal_asOffered owner event terminal record,
        applyTerminal_hasLocalTerminal owner event terminal record,
        applyTerminal_of_final owner event terminal record⟩
    · have hsplit := Nat.lt_or_gt_of_ne hi
      refine ⟨record, ?_, RecordRun.refl record⟩
      rcases hsplit with hlt | hgt
      · rw [List.getElem?_append_left hlt] at h ⊢
        exact h
      · obtain ⟨k, rfl⟩ : ∃ k, i = front.length + (k + 1) := ⟨i - front.length - 1, by omega⟩
        rw [List.getElem?_append_right (by omega)] at h ⊢
        simpa [Nat.add_sub_cancel_left] using h

/-- **Run lemma.** Any continuation moves every record to one it may run to. -/
theorem projectInvitations_run (owner : PubKey) (events more : List Event) {i : ℕ}
    (h : (projectInvitations owner events)[i]? = some record) :
    ∃ record', (projectInvitations owner (events ++ more))[i]? = some record' ∧
      RecordRun record record' := by
  unfold projectInvitations
  rw [replay_append]
  refine replay_invariant (P := fun records : List InvitationRecord =>
    ∃ record', records[i]? = some record' ∧ RecordRun record record')
    ⟨record, h, RecordRun.refl record⟩ ?_
  rintro records event - ⟨middle, hmiddle, hrun⟩
  obtain ⟨record', hrecord', hrun'⟩ := @recordRun_step owner records event i middle hmiddle
  exact ⟨record', hrecord', hrun.trans hrun'⟩

/-- The lifecycle of the invitations of a ledger under append. -/
structure InvitationLifecycle (ledger : Ledger) : Prop where
  step : ∀ event, LifecycleStep ledger.owner event (invitationsWithStatus ledger)
    (invitationsWithStatus (ledger.extend [event]))
  origin : ∀ record ∈ invitationsWithStatus ledger, ∃ front offer payload back,
    FirstOfferAt ledger.events front offer payload back ∧
      record.asOffered = offerRecord offer payload
  run : ∀ (more : List Event) (i : ℕ) (record : InvitationRecord),
    (invitationsWithStatus ledger)[i]? = some record →
    ∃ record', (invitationsWithStatus (ledger.extend more))[i]? = some record' ∧
      RecordRun record record'

/-- **The lifecycle.** Under append records keep their place and their offer, at most one
    new id appears, at most one status changes, and only as allowed; a rejected or
    expired record keeps everything but the flag of a local terminal. -/
theorem invitation_lifecycle (ledger : Ledger) : InvitationLifecycle ledger where
  step event := by
    rw [invitationsWithStatus_extend]
    exact invitationStep_lifecycle ledger.owner (invitationsWithStatus ledger) event
  origin record hmem := by
    obtain ⟨front, offer, payload, back, hfirst, hoffered, -⟩ := record_history ledger.owner hmem
    exact ⟨front, offer, payload, back, hfirst, hoffered⟩
  run more i record h := projectInvitations_run ledger.owner ledger.events more h

/-! ### A final record whose flag changes -/

/-- The owner offered, the peer rejected. -/
def peerRejectedLedger : Ledger := .ofEvents ⟨fill 32 7⟩ [
  .new .invitationSent (List.replicate 96 1) 1 ⟨fill 64 0⟩ ⟨fill 32 7⟩,
  .new .invitationRejected (List.replicate 32 1 ++ [1]) 2 ⟨fill 64 0⟩ ⟨fill 32 8⟩]

/-- The owner expires the offer afterwards. -/
def lateExpiry : Event :=
  .new .invitationExpired (List.replicate 32 1) 3 ⟨fill 64 0⟩ ⟨fill 32 7⟩

/-- **Counterexample.** A rejected record changes once more: its flag is set. -/
theorem rejected_record_changes :
    (invitationsWithStatus peerRejectedLedger).map
        (fun record => (record.status, record.hasLocalTerminal)) = [(.rejected .other, false)] ∧
      (invitationsWithStatus (peerRejectedLedger.extend [lateExpiry])).map
        (fun record => (record.status, record.hasLocalTerminal)) = [(.rejected .other, true)] := by
  decide +kernel

end Hivra
