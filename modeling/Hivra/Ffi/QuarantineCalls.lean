import Hivra.Ffi.InboundQuarantine

namespace Hivra

open Replay

/-!
# What the calls of the quarantine do

What each part of a call answers, where it is not refused.

* `appendQuarantineRecord_eq_ok` — when an event can be put into quarantine.
* `decideSenderPolicy_eq_ok` — what the sender policy makes of an event.
* `replaceAndPersist_cases` — how every call ends that changes something.
-/

namespace InboundQuarantine

theorem require_eq_ok {condition : Prop} [Decidable condition] {error : QuarantineError} :
    require condition error = .ok () ↔ condition := by
  unfold require
  split_ifs with h
  · simp [h]
  · simp [h]

theorem bind_eq_ok {α β : Type} {x : Except QuarantineError α}
    {f : α → Except QuarantineError β} {b : β} :
    (x >>= f) = .ok b ↔ ∃ a, x = .ok a ∧ f a = .ok b := by
  cases x with
  | error error => exact ⟨fun h => (nomatch h), fun ⟨_, h, _⟩ => (nomatch h)⟩
  | ok a => exact ⟨fun h => ⟨a, rfl, h⟩, fun ⟨_, h, hf⟩ => by cases h; exact hf⟩

/-- A check in front of the rest. -/
theorem check_eq_ok {α : Type} {x : Except QuarantineError Unit}
    {y : Except QuarantineError α} {b : α} :
    (x >>= fun _ => y) = .ok b ↔ x = .ok () ∧ y = .ok b := by
  rw [bind_eq_ok]
  exact ⟨fun ⟨_, hx, hy⟩ => ⟨hx, hy⟩, fun ⟨hx, hy⟩ => ⟨(), hx, hy⟩⟩

theorem isPolicyOf_iff {sender : String} {policy : SenderIngressPolicyV1} :
    isPolicyOf sender policy = true ↔ policy.authenticatedSender = sender := by
  rw [isPolicyOf, beq_iff_eq]

section Append

variable {snapshot next : InboundQuarantineSnapshotV1} {scope : InboundQuarantineScopeV1}
  {sealed : Except QuarantineError (List UInt8)} {adapterEventId : String}
  {observedBy : List String} {envelope : DeliveryEnvelope} {reason : String} {now : UInt64}

/-- An event is in quarantine already and is seen again, or there is room for a new record. -/
theorem appendQuarantineRecord_eq_ok :
    appendQuarantineRecord snapshot scope sealed adapterEventId observedBy envelope reason now =
        .ok next ↔
      EventId adapterEventId ∧
        ((∃ existing, snapshot.records.find? (isRecordOf adapterEventId) = some existing ∧
            (existing.authenticatedSender = authenticatedSenderOf envelope ∧
              existing.messageKind = envelope.kind) ∧
            snapshot.observe adapterEventId observedBy = next) ∨
          snapshot.records.find? (isRecordOf adapterEventId) = none ∧
            snapshot.HasRecordRoom (authenticatedSenderOf envelope) ∧
            ∃ ciphertext, sealed = .ok ciphertext ∧
              snapshot.ciphertextBytes + ciphertext.length ≤ maxCiphertextBytes ∧
              snapshot.pushRecord (newRecord scope adapterEventId observedBy envelope reason now
                ciphertext) = next) := by
  unfold appendQuarantineRecord
  rw [check_eq_ok, validateEventId, require_eq_ok]
  refine and_congr_right fun _ => ?_
  cases hfind : snapshot.records.find? (isRecordOf adapterEventId) with
  | some existing =>
    rw [check_eq_ok, require_eq_ok]
    simp [pure, Except.pure]
  | none =>
    dsimp only
    rw [check_eq_ok, require_eq_ok, bind_eq_ok]
    simp only [check_eq_ok, require_eq_ok]
    simp [pure, Except.pure]

/-- Putting an event into quarantine leaves the senders alone. -/
theorem appendQuarantineRecord_senderPolicies
    (h : appendQuarantineRecord snapshot scope sealed adapterEventId observedBy envelope reason
      now = .ok next) : next.senderPolicies = snapshot.senderPolicies := by
  obtain ⟨-, ⟨existing, -, -, rfl⟩ | ⟨-, -, ciphertext, -, -, rfl⟩⟩ :=
    appendQuarantineRecord_eq_ok.mp h
  · rfl
  · rfl

/-- Room for a sender: there is some, or a policy that holds nothing goes. -/
theorem makeSenderPolicyCapacity_cases (h : makeSenderPolicyCapacity snapshot = .ok next) :
    snapshot.senderPolicies.length < maxPolicySenders ∧ next = snapshot ∨
      ∃ front policy back, snapshot.senderPolicies = front ++ policy :: back ∧
        removable snapshot policy = true ∧
        next = { snapshot with senderPolicies := front ++ back } := by
  unfold makeSenderPolicyCapacity at h
  split_ifs at h with hroom
  · exact .inl ⟨hroom, (Except.ok.inj h).symm⟩
  · split at h
    case h_2 => cases h
    case h_1 policy index hargmin =>
      obtain ⟨hitem, hremovable⟩ := List.mem_filter.mp (List.argmin_mem (Option.mem_def.mpr hargmin))
      have hget := List.mem_zipIdx hitem
      simp only [Nat.zero_le, Nat.zero_add, Nat.sub_zero, true_and] at hget
      obtain ⟨hlt, hpolicy⟩ := hget
      refine .inr ⟨snapshot.senderPolicies.take index, policy,
        snapshot.senderPolicies.drop (index + 1), ?_, hremovable, ?_⟩
      · rw [hpolicy, List.getElem_cons_drop, List.take_append_drop]
      · rw [← Except.ok.inj h, List.eraseIdx_eq_take_drop_succ]

variable {policy : SenderIngressPolicyV1}

/-- The sender has a policy, or it gets a new one. -/
theorem senderPolicy_cases {sender : String}
    (h : senderPolicy snapshot scope sender now = .ok (next, policy)) :
    snapshot.senderPolicies.find? (isPolicyOf sender) = some policy ∧ next = snapshot ∨
      snapshot.senderPolicies.find? (isPolicyOf sender) = none ∧
        policy = newPolicy scope sender now ∧
        ∃ roomy, makeSenderPolicyCapacity snapshot = .ok roomy ∧
          next = { roomy with
            senderPolicies := roomy.senderPolicies ++ [newPolicy scope sender now] } := by
  unfold senderPolicy at h
  cases hfind : snapshot.senderPolicies.find? (isPolicyOf sender) with
  | some policy' =>
    rw [hfind] at h
    obtain ⟨rfl, rfl⟩ := Prod.mk.inj (Except.ok.inj h)
    exact .inl ⟨rfl, rfl⟩
  | none =>
    rw [hfind] at h
    obtain ⟨roomy, hroomy, hnext⟩ := bind_eq_ok.mp h
    obtain ⟨rfl, rfl⟩ := Prod.mk.inj (Except.ok.inj hnext)
    exact .inr ⟨rfl, rfl, roomy, hroomy, rfl⟩

/-- What the sender policy makes of an event. -/
inductive Decided (snapshot : InboundQuarantineSnapshotV1) (scope : InboundQuarantineScopeV1)
    (sealed : Except QuarantineError (List UInt8)) (adapterEventId : String)
    (observedBy : List String) (envelope : DeliveryEnvelope) (now : UInt64) :
    InboundQuarantineSnapshotV1 → SenderIngressDecision → Prop
  /-- The event is in quarantine already. -/
  | seen {next : InboundQuarantineSnapshotV1}
      (hknown : snapshot.records.any (isRecordOf adapterEventId) = true)
      (happend : appendQuarantineRecord (maintainSenderPolicyState now snapshot) scope sealed
        adapterEventId observedBy envelope "sender_rate_limited" now = .ok next) :
      Decided snapshot scope sealed adapterEventId observedBy envelope now next .quarantined
  /-- The event was charged before. -/
  | replayed {base : InboundQuarantineSnapshotV1} {policy : SenderIngressPolicyV1}
      (hunknown : snapshot.records.any (isRecordOf adapterEventId) = false)
      (hpolicy : senderPolicy (maintainSenderPolicyState now snapshot) scope
        (authenticatedSenderOf envelope) now = .ok (base, policy))
      (hcharged : adapterEventId ∈
        policy.chargedEvents.map fun evidence => evidence.adapterEventId) :
      Decided snapshot scope sealed adapterEventId observedBy envelope now
        (base.changePolicy (authenticatedSenderOf envelope) (touchPolicy now)) .alreadyCharged
  /-- There is no permit left. -/
  | throttled {base next : InboundQuarantineSnapshotV1} {policy : SenderIngressPolicyV1}
      (hunknown : snapshot.records.any (isRecordOf adapterEventId) = false)
      (hpolicy : senderPolicy (maintainSenderPolicyState now snapshot) scope
        (authenticatedSenderOf envelope) now = .ok (base, policy))
      (hnew : adapterEventId ∉ policy.chargedEvents.map fun evidence => evidence.adapterEventId)
      (hnone : policy.availablePermits = 0)
      (happend : appendQuarantineRecord base scope sealed adapterEventId observedBy envelope
        "sender_rate_limited" now = .ok next) :
      Decided snapshot scope sealed adapterEventId observedBy envelope now
        (next.changePolicy (authenticatedSenderOf envelope) (touchPolicy now)) .quarantined
  /-- A permit is taken. -/
  | charged {base : InboundQuarantineSnapshotV1} {policy : SenderIngressPolicyV1}
      (hunknown : snapshot.records.any (isRecordOf adapterEventId) = false)
      (hpolicy : senderPolicy (maintainSenderPolicyState now snapshot) scope
        (authenticatedSenderOf envelope) now = .ok (base, policy))
      (hnew : adapterEventId ∉ policy.chargedEvents.map fun evidence => evidence.adapterEventId)
      (havailable : policy.availablePermits ≠ 0)
      (hroom : ensureChargeEvidenceCapacity base (authenticatedSenderOf envelope) policy = .ok ()) :
      Decided snapshot scope sealed adapterEventId observedBy envelope now
        (base.changePolicy (authenticatedSenderOf envelope) (chargePolicy adapterEventId now))
        .permit

theorem any_evidence_iff {adapterEventId : String} :
    (policy.chargedEvents.any fun evidence => evidence.adapterEventId == adapterEventId) = true ↔
      adapterEventId ∈ policy.chargedEvents.map fun evidence => evidence.adapterEventId := by
  simp

theorem decideSenderPolicy_eq_ok {decision : SenderIngressDecision} :
    decideSenderPolicy snapshot scope sealed adapterEventId observedBy envelope now =
        .ok (next, decision) ↔
      EventId adapterEventId ∧
        Decided snapshot scope sealed adapterEventId observedBy envelope now next decision := by
  unfold decideSenderPolicy
  rw [check_eq_ok, validateEventId, require_eq_ok]
  refine and_congr_right fun _ => ?_
  have hrecords : (maintainSenderPolicyState now snapshot).records = snapshot.records := rfl
  dsimp only
  rw [hrecords]
  constructor
  · intro h
    by_cases hknown : snapshot.records.any (isRecordOf adapterEventId) = true
    · rw [if_pos hknown] at h
      obtain ⟨next', happend, hnext⟩ := bind_eq_ok.mp h
      obtain ⟨rfl, rfl⟩ := Prod.mk.inj (Except.ok.inj hnext)
      exact .seen hknown happend
    · rw [if_neg hknown] at h
      have hunknown := Bool.eq_false_of_not_eq_true hknown
      obtain ⟨⟨base, policy⟩, hpolicy, h⟩ := bind_eq_ok.mp h
      dsimp only at h
      by_cases hcharged : (policy.chargedEvents.any fun evidence =>
          evidence.adapterEventId == adapterEventId) = true
      · rw [if_pos hcharged] at h
        obtain ⟨rfl, rfl⟩ := Prod.mk.inj (Except.ok.inj h)
        exact .replayed hunknown hpolicy (any_evidence_iff.mp hcharged)
      · rw [if_neg hcharged] at h
        have hnew := mt any_evidence_iff.mpr hcharged
        by_cases hnone : policy.availablePermits = 0
        · rw [if_pos hnone] at h
          obtain ⟨next', happend, hnext⟩ := bind_eq_ok.mp h
          obtain ⟨rfl, rfl⟩ := Prod.mk.inj (Except.ok.inj hnext)
          exact .throttled hunknown hpolicy hnew hnone happend
        · rw [if_neg hnone] at h
          obtain ⟨hroom, hnext⟩ := check_eq_ok.mp h
          obtain ⟨rfl, rfl⟩ := Prod.mk.inj (Except.ok.inj hnext)
          exact .charged hunknown hpolicy hnew hnone hroom
  · intro h
    cases h with
    | seen hknown happend =>
      rw [if_pos hknown, bind_eq_ok]
      exact ⟨next, happend, rfl⟩
    | replayed hunknown hpolicy hcharged =>
      rw [if_neg (by rw [hunknown]; exact Bool.false_ne_true), bind_eq_ok]
      refine ⟨_, hpolicy, ?_⟩
      dsimp only
      rw [if_pos (any_evidence_iff.mpr hcharged)]
      rfl
    | @throttled _ appended _ hunknown hpolicy hnew hnone happend =>
      rw [if_neg (by rw [hunknown]; exact Bool.false_ne_true), bind_eq_ok]
      refine ⟨_, hpolicy, ?_⟩
      dsimp only
      rw [if_neg (mt any_evidence_iff.mp hnew), if_pos hnone, bind_eq_ok]
      exact ⟨appended, happend, rfl⟩
    | charged hunknown hpolicy hnew havailable hroom =>
      rw [if_neg (by rw [hunknown]; exact Bool.false_ne_true), bind_eq_ok]
      refine ⟨_, hpolicy, ?_⟩
      dsimp only
      rw [if_neg (mt any_evidence_iff.mp hnew), if_neg havailable, check_eq_ok]
      exact ⟨hroom, rfl⟩

end Append

section Maintain

theorem chargedEvents_maintain (now : UInt64) (policy : SenderIngressPolicyV1) :
    (maintainPolicy now policy).chargedEvents = policy.chargedEvents.filter fun evidence =>
      decide (saturatingSub now evidence.chargedAt ≤ chargeEvidenceRetentionSecs) := by
  unfold maintainPolicy
  dsimp only
  split_ifs
  · rfl
  · rfl

theorem lastActivityAt_maintain (now : UInt64) (policy : SenderIngressPolicyV1) :
    (maintainPolicy now policy).lastActivityAt = policy.lastActivityAt := by
  unfold maintainPolicy
  dsimp only
  split_ifs
  · rfl
  · rfl

/-- A policy stays the policy of its sender. -/
theorem isPolicyOf_maintain (sender : String) (now : UInt64) :
    isPolicyOf sender ∘ maintainPolicy now = isPolicyOf sender := by
  funext policy
  show isPolicyOf sender (maintainPolicy now policy) = _
  unfold maintainPolicy
  dsimp only
  split_ifs
  · rfl
  · rfl

end Maintain

section Persist

variable {α : Type} {outside : Outside} {repository after : CapsuleInboundQuarantineRepository}
  {next : InboundQuarantineSnapshotV1} {answer : α}

/-- The memory is replaced in any case; the file and the answer say whether it was written. -/
theorem replaceAndPersist_cases :
    (∃ error, replaceAndPersist outside repository next answer =
        (.error error, { repository with snapshot := next })) ∧
        ¬ (validateSnapshot next repository.scope = .ok () ∧ outside.written = .ok ()) ∨
      replaceAndPersist outside repository next answer =
        (.ok answer, { repository with snapshot := next, stored := some next }) ∧
        validateSnapshot next repository.scope = .ok () ∧ outside.written = .ok () := by
  unfold replaceAndPersist persist
  dsimp only
  cases hvalid : validateSnapshot next repository.scope with
  | error error => exact .inl ⟨⟨error, rfl⟩, fun h => (nomatch h.1)⟩
  | ok u =>
    cases hwritten : outside.written with
    | error error => exact .inl ⟨⟨error, rfl⟩, fun h => (nomatch h.2)⟩
    | ok v => exact .inr ⟨rfl, rfl, rfl⟩

end Persist

end InboundQuarantine

end Hivra
