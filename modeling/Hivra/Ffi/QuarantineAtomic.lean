import Hivra.Ffi.QuarantineCharges

namespace Hivra

open Replay

/-!
# Calls of the quarantine that fail

A call changes a copy of the memory, and when nothing refuses the change, the copy takes the place
of the memory and is checked and written.  What fails from there on is answered with an error, but
the memory has the change, and the next call that is written writes it.
-/

namespace InboundQuarantine

/-- An error leaves the memory and the file as they were, and without one the memory is valid. -/
def Atomic {α : Type} (before : CapsuleInboundQuarantineRepository)
    (outcome : Except QuarantineError α × CapsuleInboundQuarantineRepository) : Prop :=
  (∀ error, outcome.1 = .error error →
    outcome.2.snapshot = before.snapshot ∧ outcome.2.stored = before.stored) ∧
  ∀ answer, outcome.1 = .ok answer →
    validateSnapshot outcome.2.snapshot outcome.2.scope = .ok ()

/-- The file can be written. -/
def Outside.Writes (outside : Outside) : Prop := outside.written = .ok ()

section Ends

variable {α : Type} {outside : Outside}
  {before repository : CapsuleInboundQuarantineRepository} {error : QuarantineError}
  {next : InboundQuarantineSnapshotV1} {answer : α}

/-- A refusal is atomic if the memory was not changed before it. -/
theorem atomic_refused (hstored : repository.stored = before.stored) :
    Atomic (α := α) before (.error error, repository) ↔ repository.snapshot = before.snapshot :=
  ⟨fun h => (h.1 error rfl).1, fun h => ⟨fun _ _ => ⟨h, hstored⟩, fun _ hok => (nomatch hok)⟩⟩

/-- Once the memory is replaced there must be no change, or no failure. -/
theorem atomic_replaced_iff (hscope : repository.scope = before.scope)
    (hstored : repository.stored = before.stored) :
    Atomic before (replaceAndPersist outside repository next answer) ↔
      next = before.snapshot ∨ Valid before.scope next ∧ outside.Writes := by
  rw [← validateSnapshot_eq_ok, ← hscope]
  rcases @replaceAndPersist_cases α outside repository next answer with
    ⟨⟨error, hresult⟩, hfails⟩ | ⟨hresult, hvalid, hwrites⟩
  · have hrefused := @atomic_refused α before { repository with snapshot := next } error hstored
    rw [hresult, hrefused]
    exact ⟨.inl, fun h => h.elim id fun hboth => absurd hboth hfails⟩
  · rw [hresult]
    exact ⟨fun _ => .inr ⟨hvalid, hwrites⟩,
      fun _ => ⟨fun _ herror => (nomatch herror), fun _ _ => hvalid⟩⟩

end Ends

/-! ### The calls -/

/-- A call of the repository. -/
inductive QuarantineCall
  | quarantine (adapterEventId : String) (observedBy : List String) (envelope : DeliveryEnvelope)
      (reason : String) (now : UInt64)
  | applySenderPolicy (adapterEventId : String) (observedBy : List String)
      (envelope : DeliveryEnvelope) (now : UInt64)
  | expireDue (now : UInt64)
  | markConsumed (adapterEventId : String) (now : UInt64)
  | markRetry (adapterEventId : String) (now : UInt64)

/-- What a call leaves, and whether it failed. -/
def QuarantineCall.perform (outside : Outside) (repository : CapsuleInboundQuarantineRepository) :
    QuarantineCall → Except QuarantineError Unit × CapsuleInboundQuarantineRepository
  | .quarantine adapterEventId observedBy envelope reason now =>
    InboundQuarantine.quarantine outside repository adapterEventId observedBy envelope reason now
  | .applySenderPolicy adapterEventId observedBy envelope now =>
    let outcome := InboundQuarantine.applySenderPolicy outside repository adapterEventId observedBy
      envelope now
    (outcome.1.map fun _ => (), outcome.2)
  | .expireDue now =>
    let outcome := InboundQuarantine.expireDue outside repository now
    (outcome.1.map fun _ => (), outcome.2)
  | .markConsumed adapterEventId now =>
    InboundQuarantine.markConsumed outside repository adapterEventId now
  | .markRetry adapterEventId now =>
    InboundQuarantine.markRetry outside repository adapterEventId now

/-- What an answer carries does not matter. -/
theorem atomic_map_iff {α : Type} {before : CapsuleInboundQuarantineRepository}
    {outcome : Except QuarantineError α × CapsuleInboundQuarantineRepository} :
    Atomic before (outcome.1.map fun _ => (), outcome.2) ↔ Atomic before outcome := by
  obtain ⟨result, after⟩ := outcome
  cases result with
  | error error =>
    refine and_congr ⟨fun h _ _ => h error rfl, fun h _ _ => h error rfl⟩ ?_
    exact ⟨fun _ _ hok => (nomatch hok), fun _ _ hok => (nomatch hok)⟩
  | ok answer =>
    refine and_congr ⟨fun _ _ herror => (nomatch herror), fun _ _ herror => (nomatch herror)⟩ ?_
    exact ⟨fun h _ _ => h () rfl, fun h _ _ => h answer rfl⟩

/-! ### The conditions -/

section Conditions

variable (outside : Outside) (snapshot : InboundQuarantineSnapshotV1)
  (scope : InboundQuarantineScopeV1) (adapterEventId : String) (observedBy : List String)
  (envelope : DeliveryEnvelope) (now : UInt64)

/-- The record is one of this message. -/
def SameMessage (record : InboundQuarantineRecordV1) : Prop :=
  record.authenticatedSender = authenticatedSenderOf envelope ∧ record.messageKind = envelope.kind

/-- If there is room for a new record of the sender, it can be written: the file can, and the
    event has no tombstone. -/
def NewRecordKeeps : Prop :=
  snapshot.HasRecordRoom (authenticatedSenderOf envelope) →
    ∀ ciphertext, outside.sealed = .ok ciphertext →
      snapshot.ciphertextBytes + ciphertext.length ≤ maxCiphertextBytes →
        outside.Writes ∧ adapterEventId ∉ tombstoneIds snapshot.tombstones

def QuarantineKeeps : Prop :=
  EventId adapterEventId →
    (∀ existing, snapshot.records.find? (isRecordOf adapterEventId) = some existing →
      SameMessage envelope existing →
        outside.Writes ∨ mergeObservations existing.observedBy observedBy = existing.observedBy) ∧
    (snapshot.records.find? (isRecordOf adapterEventId) = none →
      NewRecordKeeps outside snapshot adapterEventId envelope)

/-- As for the quarantine, where maintaining the policies is a change too.  An event that takes a
    permit must not be charged to any sender, and the policies must not become too large by it:
    the room for a charge is measured with another id. -/
def SenderPolicyKeeps : Prop :=
  EventId adapterEventId →
    (∀ existing, snapshot.records.find? (isRecordOf adapterEventId) = some existing →
      SameMessage envelope existing →
        outside.Writes ∨ maintainSenderPolicyState now snapshot = snapshot ∧
          mergeObservations existing.observedBy observedBy = existing.observedBy) ∧
    (snapshot.records.find? (isRecordOf adapterEventId) = none →
      ∀ base policy, senderPolicy (maintainSenderPolicyState now snapshot) scope
          (authenticatedSenderOf envelope) now = .ok (base, policy) →
        (adapterEventId ∈ chargedIds policy →
          outside.Writes ∨ maintainSenderPolicyState now snapshot = snapshot ∧
            policy.lastActivityAt = now) ∧
        (adapterEventId ∉ chargedIds policy → policy.availablePermits = 0 →
          NewRecordKeeps outside snapshot adapterEventId envelope) ∧
        (adapterEventId ∉ chargedIds policy → policy.availablePermits ≠ 0 →
          ensureChargeEvidenceCapacity base (authenticatedSenderOf envelope) policy = .ok () →
            outside.Writes ∧ adapterEventId ∉ allChargedIds base.senderPolicies ∧
              policyBytes base.senderPolicies +
                (SenderChargeEvidenceV1.mk adapterEventId now).bytes ≤ maxSenderPolicyBytes))

/-- The records that are due. -/
def dueRecords : List InboundQuarantineRecordV1 :=
  snapshot.records.filter fun record => decide (record.expiresAt ≤ now)

/-- There is room for the tombstones of some records. -/
def TombstoneRoom (tombstones : List InboundQuarantineTombstoneV1)
    (records : List InboundQuarantineRecordV1) (terminalReason : String) : Prop :=
  tombstones.length + records.length ≤ maxTombstones ∧
    vecBytes InboundQuarantineTombstoneV1.bytes tombstones +
      (records.map fun record => (newTombstone record terminalReason now).bytes).sum ≤
        maxTombstoneBytes

/-- The tombstones are trimmed before there is room for new ones. -/
def ExpiryKeeps : Prop :=
  (TombstoneRoom now (keptTombstones now snapshot) (dueRecords snapshot now) "expired" →
    outside.Writes ∨
      dueRecords snapshot now = [] ∧ keptTombstones now snapshot = snapshot.tombstones) ∧
  (¬ TombstoneRoom now (keptTombstones now snapshot) (dueRecords snapshot now) "expired" →
    keptTombstones now snapshot = snapshot.tombstones)

def ConsumedKeeps : Prop :=
  ∀ record, snapshot.records.find? (isRecordOf adapterEventId) = some record →
    TombstoneRoom now snapshot.tombstones [record] "consumed" → outside.Writes

/-- Only a record whose attempts are counted no further can be tried again without a change. -/
def RetryKeeps : Prop :=
  ∀ record, snapshot.records.find? (isRecordOf adapterEventId) = some record →
    outside.Writes ∨ record.attemptCount.toNat = 2 ^ 16 - 1 ∧ record.lastAttemptAt = some now ∧
      record.eligibleAfter = min (saturatingAdd now maxRetryDelaySecs) record.expiresAt

end Conditions

/-- The condition under which a call is atomic. -/
def QuarantineCall.Keeps (outside : Outside) (repository : CapsuleInboundQuarantineRepository) :
    QuarantineCall → Prop
  | .quarantine adapterEventId observedBy envelope _ _ =>
    QuarantineKeeps outside repository.snapshot adapterEventId observedBy envelope
  | .applySenderPolicy adapterEventId observedBy envelope now =>
    SenderPolicyKeeps outside repository.snapshot repository.scope adapterEventId observedBy
      envelope now
  | .expireDue now => ExpiryKeeps outside repository.snapshot now
  | .markConsumed adapterEventId now => ConsumedKeeps outside repository.snapshot adapterEventId now
  | .markRetry adapterEventId now => RetryKeeps outside repository.snapshot adapterEventId now

/-! ### Each call -/

section Calls

variable {outside : Outside} {repository : CapsuleInboundQuarantineRepository}
  {adapterEventId : String} {observedBy : List String} {envelope : DeliveryEnvelope}
  {reason : String} {now : UInt64}

/-- A call that refuses or replaces. -/
theorem atomic_prepared_iff {σ α : Type} {prepared : Except QuarantineError σ}
    {next : σ → InboundQuarantineSnapshotV1} {answer : σ → α}
    {outcome : Except QuarantineError α × CapsuleInboundQuarantineRepository}
    (herror : ∀ error, prepared = .error error → outcome = (.error error, repository))
    (hok : ∀ a, prepared = .ok a →
      outcome = replaceAndPersist outside repository (next a) (answer a)) :
    Atomic repository outcome ↔ ∀ a, prepared = .ok a →
      next a = repository.snapshot ∨ Valid repository.scope (next a) ∧ outside.Writes := by
  cases prepared with
  | error error =>
    rw [herror error rfl, atomic_refused rfl]
    exact ⟨fun _ _ h => (nomatch h), fun _ => rfl⟩
  | ok a =>
    rw [hok a rfl, atomic_replaced_iff rfl rfl]
    exact ⟨fun h b heq => by rw [← Except.ok.inj heq]; exact h, fun h => h a rfl⟩

variable {snapshot : InboundQuarantineSnapshotV1}

theorem observe_eq_self_iff {existing : InboundQuarantineRecordV1}
    (hfind : snapshot.records.find? (isRecordOf adapterEventId) = some existing) :
    snapshot.observe adapterEventId observedBy = snapshot ↔
      mergeObservations existing.observedBy observedBy = existing.observedBy := by
  have hrecords : snapshot.observe adapterEventId observedBy = snapshot ↔
      (snapshot.observe adapterEventId observedBy).records = snapshot.records :=
    ⟨congrArg InboundQuarantineSnapshotV1.records, fun h =>
      congrArg (fun records => { snapshot with records }) h⟩
  rw [hrecords]
  refine (updateFirst_eq_self_iff hfind).trans ?_
  exact ⟨congrArg InboundQuarantineRecordV1.observedBy, fun h =>
    congrArg (fun observedBy => { existing with observedBy }) h⟩

variable {scope : InboundQuarantineScopeV1}

theorem Valid.observe (h : Valid scope snapshot) (adapterEventId : String)
    (observedBy : List String) :
    Valid scope (snapshot.observe adapterEventId observedBy) where
  __ := h
  held := h.held.observe adapterEventId observedBy

variable {record : InboundQuarantineRecordV1}

/-- A new record is not in the memory yet. -/
theorem pushRecord_ne {snapshot other : InboundQuarantineSnapshotV1}
    (hrecords : other.records = snapshot.records) :
    (other.pushRecord record).records ≠ snapshot.records := by
  intro heq
  have hlength := congrArg List.length heq
  rw [InboundQuarantineSnapshotV1.pushRecord, List.length_insertionSort, List.length_append,
    List.length_singleton, hrecords] at hlength
  omega

variable {ciphertext : List UInt8}

theorem validRecord_new (hid : EventId adapterEventId) :
    ValidRecord scope
      (newRecord scope adapterEventId observedBy envelope reason now ciphertext) := by
  have hexpires : (newRecord scope adapterEventId observedBy envelope reason now
      ciphertext).expiresAt = saturatingAdd now payloadRetentionSecs := by
    rw [newRecord]
  exact ⟨rfl, rfl, rfl, mergeObservations_length .., hexpires, hid, hex32_sender envelope⟩

theorem held_push_iff (hheld : Held scope snapshot.records snapshot.tombstones)
    (hid : EventId adapterEventId)
    (hnone : snapshot.records.find? (isRecordOf adapterEventId) = none)
    (hroom : snapshot.HasRecordRoom (authenticatedSenderOf envelope))
    (hbytes : snapshot.ciphertextBytes + ciphertext.length ≤ maxCiphertextBytes) :
    Held scope (snapshot.pushRecord
        (newRecord scope adapterEventId observedBy envelope reason now ciphertext)).records
        snapshot.tombstones ↔ adapterEventId ∉ tombstoneIds snapshot.tombstones :=
  hheld.push_iff (validRecord_new hid) (find_record_eq_none.mp hnone) hroom.1 hroom.2 hbytes

theorem quarantine_atomic_iff (hvalid : Valid repository.scope repository.snapshot) :
    Atomic repository
        (quarantine outside repository adapterEventId observedBy envelope reason now) ↔
      QuarantineKeeps outside repository.snapshot adapterEventId observedBy envelope := by
  have hiff : Atomic repository
      (quarantine outside repository adapterEventId observedBy envelope reason now) ↔
        ∀ next, appendQuarantineRecord repository.snapshot repository.scope outside.sealed
          adapterEventId observedBy envelope reason now = .ok next →
            next = repository.snapshot ∨ Valid repository.scope next ∧ outside.Writes :=
    @atomic_prepared_iff outside repository _ _ _ id (fun _ => ()) _
      (fun error h => by rw [quarantine, h]) (fun next h => by rw [quarantine, h]; rfl)
  rw [hiff]
  simp only [appendQuarantineRecord_eq_ok]
  constructor
  · intro h hid
    refine ⟨fun existing hfind hsame => ?_, fun hnone hroom ciphertext hsealed hbytes => ?_⟩
    · rcases h _ ⟨hid, .inl ⟨existing, hfind, hsame, rfl⟩⟩ with heq | ⟨-, hwrites⟩
      · exact .inr ((observe_eq_self_iff hfind).mp heq)
      · exact .inl hwrites
    · rcases h _ ⟨hid, .inr ⟨hnone, hroom, ciphertext, hsealed, hbytes, rfl⟩⟩ with
        heq | ⟨hnext, hwrites⟩
      · exact absurd (congrArg InboundQuarantineSnapshotV1.records heq) (pushRecord_ne rfl)
      · exact ⟨hwrites, (held_push_iff hvalid.held hid hnone hroom hbytes).mp hnext.held⟩
  · rintro h next ⟨hid, ⟨existing, hfind, hsame, rfl⟩ |
      ⟨hnone, hroom, ciphertext, hsealed, hbytes, rfl⟩⟩
    · rcases (h hid).1 existing hfind hsame with hwrites | hsame
      · exact .inr ⟨hvalid.observe adapterEventId observedBy, hwrites⟩
      · exact .inl ((observe_eq_self_iff hfind).mpr hsame)
    · obtain ⟨hwrites, hfree⟩ := (h hid).2 hnone hroom ciphertext hsealed hbytes
      refine .inr ⟨?_, hwrites⟩
      exact { hvalid with held := (held_push_iff hvalid.held hid hnone hroom hbytes).mpr hfree }

variable {policy : SenderIngressPolicyV1} {sender : String}

theorem changePolicy_eq_self_iff {f : SenderIngressPolicyV1 → SenderIngressPolicyV1}
    (hfind : snapshot.senderPolicies.find? (isPolicyOf sender) = some policy) :
    snapshot.changePolicy sender f = snapshot ↔ f policy = policy := by
  have hpolicies : snapshot.changePolicy sender f = snapshot ↔
      (snapshot.changePolicy sender f).senderPolicies = snapshot.senderPolicies :=
    ⟨congrArg InboundQuarantineSnapshotV1.senderPolicies, fun h =>
      congrArg (fun senderPolicies => { snapshot with senderPolicies }) h⟩
  rw [hpolicies]
  exact updateFirst_eq_self_iff hfind

theorem touchPolicy_eq_self_iff : touchPolicy now policy = policy ↔ policy.lastActivityAt = now :=
  ⟨fun h => (congrArg SenderIngressPolicyV1.lastActivityAt h).symm, fun h => by
    rw [← h, touchPolicy]⟩

/-- A replay changes nothing if there was nothing to maintain, and the sender was active now. -/
theorem touch_maintained_iff
    (hfind : (maintainSenderPolicyState now snapshot).senderPolicies.find? (isPolicyOf sender) =
      some policy) :
    (maintainSenderPolicyState now snapshot).changePolicy sender (touchPolicy now) = snapshot ↔
      maintainSenderPolicyState now snapshot = snapshot ∧ policy.lastActivityAt = now := by
  constructor
  · intro h
    obtain ⟨front, back, hpolicies, hupdate⟩ := updateFirst_of_find hfind
    have htouched : snapshot.senderPolicies = front ++ touchPolicy now policy :: back :=
      (congrArg InboundQuarantineSnapshotV1.senderPolicies h).symm.trans (hupdate (touchPolicy now))
    -- the policy stands where it stood before it was maintained
    have hmaintained : front.map (maintainPolicy now) ++
        maintainPolicy now (touchPolicy now policy) :: back.map (maintainPolicy now) =
          front ++ policy :: back := by
      rw [← hpolicies]
      show _ = snapshot.senderPolicies.map (maintainPolicy now)
      rw [htouched, List.map_append, List.map_cons]
    have hsame := (List.cons.inj (List.append_inj_right hmaintained (List.length_map _))).1
    have hnow : policy.lastActivityAt = now := by
      rw [← hsame, lastActivityAt_maintain]
      rfl
    have hself := (changePolicy_eq_self_iff hfind).mpr (touchPolicy_eq_self_iff.mpr hnow)
    exact ⟨hself.symm.trans h, hnow⟩
  · rintro ⟨hsame, hnow⟩
    rw [(changePolicy_eq_self_iff hfind).mpr (touchPolicy_eq_self_iff.mpr hnow), hsame]

theorem ensureChargeEvidenceCapacity_eq_ok :
    ensureChargeEvidenceCapacity snapshot sender policy = .ok () ↔
      (chargedTotal snapshot.senderPolicies < maxChargeEvidence ∧
        policy.chargedEvents.length < maxChargeEvidencePerSender) ∧
        policyBytes (snapshot.changePolicy sender fun policy =>
          { policy with
            chargedEvents := policy.chargedEvents ++ [capacityProbe] }).senderPolicies ≤
              maxSenderPolicyBytes := by
  unfold ensureChargeEvidenceCapacity
  rw [check_eq_ok, require_eq_ok, require_eq_ok]
  rfl

/-- A charge is a change: the event was not charged before, and a new charge is kept. -/
theorem charge_ne {snapshot base : InboundQuarantineSnapshotV1}
    (hpolicy : senderPolicy (maintainSenderPolicyState now snapshot) scope sender now =
      .ok (base, policy)) (hfound : base.senderPolicies.find? (isPolicyOf sender) = some policy)
    (hnew : adapterEventId ∉ chargedIds policy) :
    base.changePolicy sender (chargePolicy adapterEventId now) ≠ snapshot := by
  intro heq
  have hcharged : snapshot.senderPolicies.find? (isPolicyOf sender) =
      some (chargePolicy adapterEventId now policy) := by
    have hfind := @find_key_updateFirst _ _ (chargePolicy adapterEventId now) base.senderPolicies
      _ _ _ (fun policy : SenderIngressPolicyV1 => policy.authenticatedSender) sender
      (fun _ h => h) sender
    rw [if_pos rfl] at hfind
    rw [← heq]
    exact hfind.trans (congrArg (Option.map _) hfound)
  have hmaintained : (maintainSenderPolicyState now snapshot).senderPolicies.find?
      (isPolicyOf sender) = some (maintainPolicy now (chargePolicy adapterEventId now policy)) := by
    show (snapshot.senderPolicies.map (maintainPolicy now)).find? _ = _
    rw [List.find?_map, isPolicyOf_maintain, hcharged]
    rfl
  rcases senderPolicy_cases hpolicy with ⟨hfind, -⟩ | ⟨hfind, -, -, -⟩
  · rw [hfind] at hmaintained
    have hkept : SenderChargeEvidenceV1.mk adapterEventId now ∈ policy.chargedEvents := by
      rw [Option.some.inj hmaintained, chargedEvents_maintain, List.mem_filter]
      refine ⟨(perm_charge adapterEventId now policy).mem_iff.mpr (by simp), decide_eq_true ?_⟩
      rw [UInt64.le_iff_toNat_le, toNat_saturatingSub, Nat.sub_self]
      exact Nat.zero_le _
    exact hnew (List.mem_map.mpr ⟨_, hkept, rfl⟩)
  · rw [hfind] at hmaintained
    cases hmaintained

theorem applySenderPolicy_atomic_iff (hvalid : Valid repository.scope repository.snapshot) :
    Atomic repository
        (applySenderPolicy outside repository adapterEventId observedBy envelope now) ↔
      SenderPolicyKeeps outside repository.snapshot repository.scope adapterEventId observedBy
        envelope now := by
  have hiff : Atomic repository
      (applySenderPolicy outside repository adapterEventId observedBy envelope now) ↔
        ∀ decided, decideSenderPolicy repository.snapshot repository.scope outside.sealed
          adapterEventId observedBy envelope now = .ok decided →
            decided.1 = repository.snapshot ∨
              Valid repository.scope decided.1 ∧ outside.Writes :=
    @atomic_prepared_iff outside repository _ _ _ Prod.fst Prod.snd _
      (fun error h => by rw [applySenderPolicy, h])
      (fun decided h => by rw [applySenderPolicy, h])
  have hmaintained := hvalid.maintain now
  have hrecords : (maintainSenderPolicyState now repository.snapshot).records =
      repository.snapshot.records := rfl
  have hknown : repository.snapshot.records.any (isRecordOf adapterEventId) = true ↔
      ∃ existing, repository.snapshot.records.find? (isRecordOf adapterEventId) =
        some existing := by
    rw [← Option.isSome_iff_exists, List.find?_isSome, List.any_eq_true]
  have hunknown : repository.snapshot.records.any (isRecordOf adapterEventId) = false ↔
      repository.snapshot.records.find? (isRecordOf adapterEventId) = none := by
    rw [← Bool.not_eq_true, hknown, ← Option.not_isSome_iff_eq_none, Option.isSome_iff_exists]
  rw [hiff]
  constructor
  · intro h hid
    have hdecided : ∀ {next decision}, Decided repository.snapshot repository.scope outside.sealed
        adapterEventId observedBy envelope now next decision →
          next = repository.snapshot ∨ Valid repository.scope next ∧ outside.Writes :=
      fun hdecided => h _ (decideSenderPolicy_eq_ok.mpr ⟨hid, hdecided⟩)
    constructor
    · intro existing hfind hsame
      have hseen := hdecided (.seen (hknown.mpr ⟨existing, hfind⟩)
        (appendQuarantineRecord_eq_ok.mpr ⟨hid, .inl ⟨existing, hfind, hsame, rfl⟩⟩))
      rcases hseen with heq | ⟨-, hwrites⟩
      · have hpolicies : maintainSenderPolicyState now repository.snapshot =
            repository.snapshot :=
          congrArg (fun senderPolicies => { repository.snapshot with senderPolicies })
            (congrArg InboundQuarantineSnapshotV1.senderPolicies heq)
        rw [hpolicies] at heq
        exact .inr ⟨hpolicies, (observe_eq_self_iff hfind).mp heq⟩
      · exact .inl hwrites
    · intro hnone base policy hpolicy
      have hbase := hmaintained.charging.senderPolicy (hex32_sender envelope) hpolicy
      refine ⟨fun hcharged => ?_, fun hnew hzero hroom ciphertext hsealed hbytes => ?_,
        fun hnew havailable hroom => ?_⟩
      · have hsame := hbase.old (.inl fun hempty => by
          rw [chargedIds, hempty] at hcharged
          exact List.not_mem_nil hcharged)
        rcases hdecided (.replayed (hunknown.mpr hnone) hpolicy hcharged) with heq | ⟨-, hwrites⟩
        · rw [hsame] at heq
          exact .inr ((touch_maintained_iff (hsame ▸ hbase.found)).mp heq)
        · exact .inl hwrites
      · obtain rfl := hbase.old (.inr hzero)
        have happend := hdecided (.throttled (hunknown.mpr hnone) hpolicy hnew hzero
          (appendQuarantineRecord_eq_ok.mpr ⟨hid, .inr ⟨hnone, hroom, ciphertext, hsealed, hbytes,
            rfl⟩⟩))
        rcases happend with heq | ⟨hnext, hwrites⟩
        · exact absurd (congrArg InboundQuarantineSnapshotV1.records heq) (pushRecord_ne rfl)
        · exact ⟨hwrites, (held_push_iff hmaintained.held hid hnone hroom hbytes).mp hnext.held⟩
      · rcases hdecided (.charged (hunknown.mpr hnone) hpolicy hnew havailable hroom) with
          heq | ⟨hnext, hwrites⟩
        · exact absurd heq (charge_ne hpolicy hbase.found hnew)
        · obtain ⟨⟨htotal, hone⟩, -⟩ := ensureChargeEvidenceCapacity_eq_ok.mp hroom
          have hbytes := policyBytes_charge hbase.found
            (f := chargePolicy adapterEventId now) rfl rfl (perm_charge adapterEventId now policy)
          exact ⟨hwrites, (hbase.charging.charge_iff hbase.found hid htotal hone havailable).mp
            hnext.charging, hbytes ▸ hnext.bytes_le⟩
  · rintro h ⟨next, decision⟩ hdecide
    obtain ⟨hid, hdecided⟩ := decideSenderPolicy_eq_ok.mp hdecide
    obtain ⟨hseen, hother⟩ := h hid
    cases hdecided with
    | seen hany happend =>
      obtain ⟨existing, hfind⟩ := hknown.mp hany
      obtain ⟨-, ⟨existing', hfind', hsame, rfl⟩ | ⟨hnone, -⟩⟩ :=
        appendQuarantineRecord_eq_ok.mp happend
      · rcases hseen existing' hfind' hsame with hwrites | ⟨hpolicies, hobserved⟩
        · exact .inr ⟨hmaintained.observe adapterEventId observedBy, hwrites⟩
        · refine .inl ?_
          have hself := (observe_eq_self_iff hfind').mpr hobserved
          exact hself.trans hpolicies
      · exact absurd (hfind.symm.trans hnone) (by simp)
    | @replayed base policy hany hpolicy hcharged =>
      have hbase := hmaintained.charging.senderPolicy (hex32_sender envelope) hpolicy
      have hsame := hbase.old (.inl fun hempty => by
        rw [hempty] at hcharged
        exact List.not_mem_nil hcharged)
      rcases (hother (hunknown.mp hany) base policy hpolicy).1 hcharged with hwrites | hkept
      · have htouch := hbase.charging.touch now (authenticatedSenderOf envelope)
        refine .inr ⟨⟨hbase.schema.trans hvalid.schema, hbase.scope_eq.trans hvalid.scope_eq, ?_,
          htouch.1, ?_⟩, hwrites⟩
        · show Held _ base.records base.tombstones
          rw [hsame]
          exact hvalid.held
        · refine htouch.2.trans_le ?_
          rw [hsame]
          exact hmaintained.bytes_le
      · refine .inl ?_
        show base.changePolicy _ _ = _
        rw [hsame]
        exact (touch_maintained_iff (hsame ▸ hbase.found)).mpr hkept
    | @throttled base next policy hany hpolicy hnew hzero happend =>
      have hbase := hmaintained.charging.senderPolicy (hex32_sender envelope) hpolicy
      obtain rfl := hbase.old (.inr hzero)
      have hnone := hunknown.mp hany
      obtain ⟨-, ⟨existing, hfind, -⟩ | ⟨-, hroom, ciphertext, hsealed, hbytes, rfl⟩⟩ :=
        appendQuarantineRecord_eq_ok.mp happend
      · exact absurd (hfind.symm.trans hnone) (by simp)
      · obtain ⟨hwrites, hfree⟩ :=
          (hother hnone _ policy hpolicy).2.1 hnew hzero hroom ciphertext hsealed hbytes
        have htouch := hmaintained.charging.touch now (authenticatedSenderOf envelope)
        exact .inr ⟨⟨hvalid.schema, hvalid.scope_eq,
          (held_push_iff hmaintained.held hid hnone hroom hbytes).mpr hfree, htouch.1,
          htouch.2.trans_le hmaintained.bytes_le⟩, hwrites⟩
    | @charged base policy hany hpolicy hnew havailable hroom =>
      have hbase := hmaintained.charging.senderPolicy (hex32_sender envelope) hpolicy
      obtain ⟨hwrites, hfree, hle⟩ :=
        (hother (hunknown.mp hany) base policy hpolicy).2.2 hnew havailable hroom
      obtain ⟨⟨htotal, hone⟩, -⟩ := ensureChargeEvidenceCapacity_eq_ok.mp hroom
      have hbytes := policyBytes_charge hbase.found
        (f := chargePolicy adapterEventId now) rfl rfl (perm_charge adapterEventId now policy)
      refine .inr ⟨⟨hbase.schema.trans hvalid.schema, hbase.scope_eq.trans hvalid.scope_eq, ?_,
        (hbase.charging.charge_iff hbase.found hid htotal hone havailable).mpr hfree,
        hbytes.trans_le hle⟩, hwrites⟩
      show Held _ base.records base.tombstones
      rw [hbase.records, hbase.tombstones]
      exact hvalid.held

variable {snapshot next : InboundQuarantineSnapshotV1}

theorem appendTombstone_eq_ok (hfree : record.adapterEventId ∉ tombstoneIds snapshot.tombstones) :
    appendTombstone snapshot record reason now = .ok next ↔
      TombstoneRoom now snapshot.tombstones [record] reason ∧
        next = { snapshot with
          tombstones := (snapshot.tombstones ++ [newTombstone record reason now]).insertionSort
            fun left right => left.adapterEventId ≤ right.adapterEventId } := by
  have hnone : ¬ (snapshot.tombstones.any fun item =>
      item.adapterEventId == record.adapterEventId) = true := by
    rw [List.any_eq_true]
    rintro ⟨tombstone, hmem, hsame⟩
    exact hfree (List.mem_map.mpr ⟨tombstone, hmem, eq_of_beq hsame⟩)
  unfold appendTombstone
  rw [if_neg hnone]
  dsimp only
  rw [check_eq_ok, check_eq_ok, require_eq_ok, require_eq_ok, TombstoneRoom, List.map_singleton,
    List.sum_singleton, List.length_singleton, and_assoc]
  refine and_congr_right fun _ => and_congr_right fun _ => ?_
  exact ⟨fun h => (Except.ok.inj h).symm, fun h => by rw [h]; rfl⟩

/-- The snapshot in which a record is a tombstone. -/
def retired (snapshot : InboundQuarantineSnapshotV1) (record : InboundQuarantineRecordV1)
    (terminalReason : String) (now : UInt64) : InboundQuarantineSnapshotV1 :=
  { snapshot with
    records := snapshot.records.filter fun candidate =>
      candidate.adapterEventId != record.adapterEventId
    tombstones := (snapshot.tombstones ++ [newTombstone record terminalReason now]).insertionSort
      fun left right => left.adapterEventId ≤ right.adapterEventId }

theorem retireRecord_eq_ok (hheld : Held scope snapshot.records snapshot.tombstones)
    (hmem : record ∈ snapshot.records) :
    retireRecord snapshot record reason now = .ok next ↔
      TombstoneRoom now snapshot.tombstones [record] reason ∧
        next = retired snapshot record reason now := by
  unfold retireRecord
  simp only [bind_eq_ok, appendTombstone_eq_ok (tombstone_free hheld hmem)]
  constructor
  · rintro ⟨appended, ⟨hroom, rfl⟩, hnext⟩
    exact ⟨hroom, (Except.ok.inj hnext).symm⟩
  · rintro ⟨hroom, rfl⟩
    exact ⟨_, ⟨hroom, rfl⟩, rfl⟩

theorem Held.retired {snapshot : InboundQuarantineSnapshotV1} {scope : InboundQuarantineScopeV1}
    {record : InboundQuarantineRecordV1}
    (hheld : Held scope snapshot.records snapshot.tombstones) (hmem : record ∈ snapshot.records)
    (hroom : TombstoneRoom now snapshot.tombstones [record] reason) :
    Held scope (retired snapshot record reason now).records
      (retired snapshot record reason now).tombstones := by
  obtain ⟨hlength, hbytes⟩ := hroom
  rw [List.map_singleton, List.sum_singleton] at hbytes
  exact hheld.retire hmem hlength hbytes

theorem length_retired (hmem : record ∈ snapshot.records) :
    (retired snapshot record reason now).records.length < snapshot.records.length := by
  show (snapshot.records.filter fun candidate =>
    candidate.adapterEventId != record.adapterEventId).length < _
  exact List.length_filter_lt_length_iff_exists.mpr ⟨record, hmem, by simp⟩

theorem markConsumed_atomic_iff (hvalid : Valid repository.scope repository.snapshot) :
    Atomic repository (markConsumed outside repository adapterEventId now) ↔
      ConsumedKeeps outside repository.snapshot adapterEventId now := by
  unfold ConsumedKeeps
  cases hfind : repository.snapshot.records.find? (isRecordOf adapterEventId) with
  | none =>
    rw [markConsumed, hfind, atomic_refused rfl]
    exact ⟨fun _ _ h => (nomatch h), fun _ => rfl⟩
  | some record =>
    have hmem := List.mem_of_find?_eq_some hfind
    have hiff : Atomic repository (markConsumed outside repository adapterEventId now) ↔
        ∀ next, retireRecord repository.snapshot record "consumed" now = .ok next →
          next = repository.snapshot ∨ Valid repository.scope next ∧ outside.Writes :=
      @atomic_prepared_iff outside repository _ _ _ id (fun _ => ()) _
        (fun error h => by rw [markConsumed, hfind]; dsimp only; rw [h])
        (fun next h => by rw [markConsumed, hfind]; dsimp only; rw [h]; rfl)
    rw [hiff]
    simp only [retireRecord_eq_ok hvalid.held hmem]
    constructor
    · rintro h record' hrecord hroom
      obtain rfl := Option.some.inj hrecord
      rcases h _ ⟨hroom, rfl⟩ with heq | ⟨-, hwrites⟩
      · have hlt := @length_retired "consumed" now _ _ hmem
        rw [heq] at hlt
        exact absurd hlt (Nat.lt_irrefl _)
      · exact hwrites
    · rintro h next ⟨hroom, rfl⟩
      exact .inr ⟨{ hvalid with held := hvalid.held.retired hmem hroom }, h record rfl hroom⟩

theorem retriedRecord_eq_self_iff :
    retriedRecord now record = record ↔
      record.attemptCount.toNat = 2 ^ 16 - 1 ∧ record.lastAttemptAt = some now ∧
        record.eligibleAfter = min (saturatingAdd now maxRetryDelaySecs) record.expiresAt := by
  have hlt := record.attemptCount.toNat_lt
  have hattempts : nextAttempt record.attemptCount = record.attemptCount ↔
      record.attemptCount.toNat = 2 ^ 16 - 1 := by
    unfold nextAttempt
    split_ifs with hmore
    · rw [← UInt16.toNat_inj, UInt16.toNat_add]
      show (record.attemptCount.toNat + 1) % 2 ^ 16 = _ ↔ _
      omega
    · exact ⟨fun _ => by omega, fun _ => rfl⟩
  have hdelay : record.attemptCount.toNat = 2 ^ 16 - 1 →
      retryDelay record.attemptCount = maxRetryDelaySecs := by
    intro hlast
    rw [retryDelay, hlast]
    decide
  constructor
  · intro h
    have hcount := congrArg InboundQuarantineRecordV1.attemptCount h
    have hlast := congrArg InboundQuarantineRecordV1.lastAttemptAt h
    have heligible := congrArg InboundQuarantineRecordV1.eligibleAfter h
    unfold retriedRecord at hcount hlast heligible
    dsimp only at hcount hlast heligible
    rw [hcount, hdelay (hattempts.mp hcount)] at heligible
    exact ⟨hattempts.mp hcount, hlast.symm, heligible.symm⟩
  · rintro ⟨hcount, hlast, heligible⟩
    unfold retriedRecord
    rw [hattempts.mpr hcount, hdelay hcount, ← heligible, ← hlast]

theorem markRetry_atomic_iff (hvalid : Valid repository.scope repository.snapshot) :
    Atomic repository (markRetry outside repository adapterEventId now) ↔
      RetryKeeps outside repository.snapshot adapterEventId now := by
  unfold RetryKeeps
  cases hfind : repository.snapshot.records.find? (isRecordOf adapterEventId) with
  | none =>
    rw [markRetry, hfind, atomic_refused rfl]
    exact ⟨fun _ _ h => (nomatch h), fun _ => rfl⟩
  | some record =>
    rw [markRetry, hfind, atomic_replaced_iff rfl rfl]
    have hsame : { repository.snapshot with
        records := updateFirst (isRecordOf adapterEventId) (retriedRecord now)
          repository.snapshot.records } = repository.snapshot ↔
        retriedRecord now record = record :=
      Iff.trans ⟨congrArg InboundQuarantineSnapshotV1.records, fun h =>
        congrArg (fun records => { repository.snapshot with records }) h⟩
        (updateFirst_eq_self_iff hfind)
    have hretried : Valid repository.scope { repository.snapshot with
        records := updateFirst (isRecordOf adapterEventId) (retriedRecord now)
          repository.snapshot.records } :=
      { hvalid with held := hvalid.held.retry adapterEventId now }
    rw [hsame, retriedRecord_eq_self_iff]
    constructor
    · intro h record' hrecord
      rw [← Option.some.inj hrecord]
      exact h.elim .inr fun hboth => .inl hboth.2
    · intro h
      exact (h record rfl).elim (fun hwrites => .inr ⟨hretried, hwrites⟩) .inl

/-! ### Expiry -/

/-- The records that are due go one after the other, as long as there is room. -/
theorem expireRecords_eq :
    ∀ {due : List InboundQuarantineRecordV1} {snapshot : InboundQuarantineSnapshotV1},
      Held scope snapshot.records snapshot.tombstones → due.Sublist snapshot.records →
      (TombstoneRoom now snapshot.tombstones due "expired" →
        ∃ next, expireRecords now (recordIds due) snapshot = .ok next ∧
          Held scope next.records next.tombstones ∧
          next.senderPolicies = snapshot.senderPolicies ∧
          next.schemaVersion = snapshot.schemaVersion ∧ next.scope = snapshot.scope ∧
          (due = [] → next = snapshot) ∧
          (due ≠ [] → next.records.length < snapshot.records.length)) ∧
      (¬ TombstoneRoom now snapshot.tombstones due "expired" →
        ∃ error, expireRecords now (recordIds due) snapshot = .error error) := by
  intro due
  induction due with
  | nil =>
    intro snapshot hheld _
    refine ⟨fun _ => ⟨snapshot, rfl, hheld, rfl, rfl, rfl, fun _ => rfl, fun h => absurd rfl h⟩, ?_⟩
    exact fun hno => absurd ⟨hheld.tombstones_le, hheld.tombstoneBytes_le⟩ hno
  | cons record rest ih =>
    intro snapshot hheld hsub
    have hmem : record ∈ snapshot.records := hsub.subset List.mem_cons_self
    have hnodup : (recordIds snapshot.records).Nodup := (List.nodup_append.mp hheld.ids).1
    have hfind : snapshot.records.find? (isRecordOf record.adapterEventId) = some record :=
      (find_key_eq_some hnodup).mpr ⟨hmem, rfl⟩
    have hexpire : expireRecords now (recordIds (record :: rest)) snapshot =
        retireRecord snapshot record "expired" now >>= fun next =>
          expireRecords now (recordIds rest) next := by
      show expireRecords now (record.adapterEventId :: recordIds rest) snapshot = _
      rw [expireRecords, hfind]
    -- the records that are left are still there
    have hrest : rest.Sublist (retired snapshot record "expired" now).records := by
      have hids : (recordIds (record :: rest)).Nodup := hnodup.sublist (hsub.map _)
      have hkeep : rest.filter (fun candidate =>
          candidate.adapterEventId != record.adapterEventId) = rest := by
        rw [List.filter_eq_self]
        intro other hother
        rw [bne_iff_ne]
        intro hsame
        exact (List.nodup_cons.mp hids).1 (List.mem_map.mpr ⟨other, hother, hsame⟩)
      rw [← hkeep]
      exact ((List.sublist_cons_self record rest).trans hsub).filter _
    have hsplit : TombstoneRoom now snapshot.tombstones (record :: rest) "expired" ↔
        TombstoneRoom now snapshot.tombstones [record] "expired" ∧
          TombstoneRoom now (retired snapshot record "expired" now).tombstones rest "expired" := by
      have hperm := List.perm_insertionSort (fun left right : InboundQuarantineTombstoneV1 =>
        left.adapterEventId ≤ right.adapterEventId)
        (snapshot.tombstones ++ [newTombstone record "expired" now])
      have hlength : (retired snapshot record "expired" now).tombstones.length =
          snapshot.tombstones.length + 1 := by
        rw [retired, hperm.length_eq, List.length_append, List.length_singleton]
      have hbytes : vecBytes InboundQuarantineTombstoneV1.bytes
          (retired snapshot record "expired" now).tombstones =
            vecBytes InboundQuarantineTombstoneV1.bytes snapshot.tombstones +
              (newTombstone record "expired" now).bytes := by
        rw [retired, vecBytes, (hperm.map InboundQuarantineTombstoneV1.bytes).sum_eq,
          List.map_append, List.sum_append, List.map_singleton, List.sum_singleton, vecBytes]
        omega
      unfold TombstoneRoom
      rw [hlength, hbytes]
      simp only [List.length_cons, List.length_nil, List.map_cons, List.map_nil, List.sum_cons,
        List.sum_nil]
      omega
    by_cases hroom : TombstoneRoom now snapshot.tombstones [record] "expired"
    · have hretire := (retireRecord_eq_ok hheld hmem).mpr ⟨hroom, rfl⟩
      have hheld' := hheld.retired hmem hroom
      have hlt := @length_retired "expired" now _ _ hmem
      rw [hsplit, hexpire, hretire]
      obtain ⟨hgoes, hstops⟩ := ih hheld' hrest
      constructor
      · rintro ⟨-, hroom'⟩
        obtain ⟨next, hnext, hheldNext, hpolicies, hschema, hscope, hnil, hcons⟩ := hgoes hroom'
        refine ⟨next, hnext, hheldNext, hpolicies, hschema, hscope,
          fun h => absurd h (List.cons_ne_nil _ _), fun _ => ?_⟩
        by_cases hempty : rest = []
        · rw [hnil hempty]
          exact hlt
        · exact (hcons hempty).trans hlt
      · intro hno
        exact hstops fun hroom' => hno ⟨hroom, hroom'⟩
    · refine ⟨fun h => absurd (hsplit.mp h).1 hroom, fun _ => ?_⟩
      rw [hexpire]
      cases hretire : retireRecord snapshot record "expired" now with
      | error error => exact ⟨error, rfl⟩
      | ok next => exact absurd ((retireRecord_eq_ok hheld hmem).mp hretire).1 hroom

private theorem expireDue_eq :
    expireDue outside repository now =
      if dueRecords repository.snapshot now = [] ∧
          keptTombstones now repository.snapshot = repository.snapshot.tombstones then
        (.ok 0, { repository with snapshot := repository.snapshot.trim now })
      else
        match expireRecords now (recordIds (dueRecords repository.snapshot now))
            (repository.snapshot.trim now) with
        | .error error =>
          (.error error, { repository with snapshot := repository.snapshot.trim now })
        | .ok next =>
          replaceAndPersist outside { repository with snapshot := repository.snapshot.trim now }
            next (expiredIds now (repository.snapshot.trim now)).length := by
  have hkept : (keptTombstones now repository.snapshot).Sublist repository.snapshot.tombstones :=
    List.filter_sublist
  refine if_congr (and_congr List.map_eq_nil_iff (eq_comm.trans ?_)) rfl rfl
  exact ⟨hkept.eq_of_length, congrArg List.length⟩

theorem expireDue_atomic_iff (hvalid : Valid repository.scope repository.snapshot) :
    Atomic repository (expireDue outside repository now) ↔
      ExpiryKeeps outside repository.snapshot now := by
  have hkept : (keptTombstones now repository.snapshot).Sublist repository.snapshot.tombstones :=
    List.filter_sublist
  have htrimmed : Held repository.scope repository.snapshot.records
      (keptTombstones now repository.snapshot) := hvalid.held.sublist (.refl _) hkept
  have hsnapshot : repository.snapshot.trim now = repository.snapshot ↔
      keptTombstones now repository.snapshot = repository.snapshot.tombstones :=
    ⟨congrArg InboundQuarantineSnapshotV1.tombstones, fun h =>
      congrArg (fun tombstones => { repository.snapshot with tombstones }) h⟩
  obtain ⟨hgoes, hstops⟩ := @expireRecords_eq now repository.scope
    (dueRecords repository.snapshot now) (repository.snapshot.trim now) htrimmed
    List.filter_sublist
  by_cases hnothing : dueRecords repository.snapshot now = [] ∧
      keptTombstones now repository.snapshot = repository.snapshot.tombstones
  · -- nothing is due
    rw [expireDue_eq, if_pos hnothing]
    refine ⟨fun _ => ⟨fun _ => .inr hnothing, fun _ => hnothing.2⟩, fun _ => ?_⟩
    refine ⟨fun _ herror => (nomatch herror), fun _ _ => ?_⟩
    rw [validateSnapshot_eq_ok]
    exact { hvalid with held := htrimmed }
  · rw [expireDue_eq, if_neg hnothing]
    by_cases hroom : TombstoneRoom now (keptTombstones now repository.snapshot)
        (dueRecords repository.snapshot now) "expired"
    · obtain ⟨next, hnext, hheld, hpolicies, hschema, hscope, hnil, hcons⟩ := hgoes hroom
      have hvalidNext : Valid repository.scope next :=
        ⟨hschema.trans hvalid.schema, hscope.trans hvalid.scope_eq, hheld,
          hpolicies ▸ hvalid.charging, hpolicies ▸ hvalid.bytes_le⟩
      have hne : next ≠ repository.snapshot := by
        intro heq
        by_cases hempty : dueRecords repository.snapshot now = []
        · exact hnothing ⟨hempty, hsnapshot.mp ((hnil hempty).symm.trans heq)⟩
        · have hlt := hcons hempty
          rw [heq] at hlt
          exact Nat.lt_irrefl _ hlt
      have hreplaced := @atomic_replaced_iff ℕ outside repository
        { repository with snapshot := repository.snapshot.trim now } next
        (expiredIds now (repository.snapshot.trim now)).length rfl rfl
      rw [hnext]
      refine hreplaced.trans ?_
      constructor
      · intro h
        exact ⟨fun _ => .inl (h.resolve_left hne).2, fun hno => absurd hroom hno⟩
      · intro h
        exact .inr ⟨hvalidNext, (h.1 hroom).resolve_right hnothing⟩
    · obtain ⟨error, herror⟩ := hstops hroom
      have hrefused := @atomic_refused ℕ repository
        { repository with snapshot := repository.snapshot.trim now } error rfl
      rw [herror]
      exact hrefused.trans <| hsnapshot.trans
        ⟨fun h => ⟨fun hyes => absurd hyes hroom, fun _ => h⟩, fun h => h.2 hroom⟩

end Calls

/-- **When a call is atomic.**  In a repository with a valid memory a call leaves no change behind
    an error, and a valid memory without one, exactly under its condition. -/
theorem atomic_iff (outside : Outside) (repository : CapsuleInboundQuarantineRepository)
    (call : QuarantineCall)
    (hvalid : validateSnapshot repository.snapshot repository.scope = .ok ()) :
    Atomic repository (call.perform outside repository) ↔ call.Keeps outside repository := by
  rw [validateSnapshot_eq_ok] at hvalid
  cases call with
  | quarantine adapterEventId observedBy envelope reason now => exact quarantine_atomic_iff hvalid
  | applySenderPolicy adapterEventId observedBy envelope now =>
    exact atomic_map_iff.trans (applySenderPolicy_atomic_iff hvalid)
  | expireDue now => exact atomic_map_iff.trans (expireDue_atomic_iff hvalid)
  | markConsumed adapterEventId now => exact markConsumed_atomic_iff hvalid
  | markRetry adapterEventId now => exact markRetry_atomic_iff hvalid

def oneEnvelope : DeliveryEnvelope where
  fromPubkey := ⟨ByteString.fill 32 0⟩
  toPubkey := ⟨ByteString.fill 32 1⟩
  kind := 1
  payload := []
  timestamp := 0
  domainEvent := none

/-- The scope of a capsule at an endpoint. -/
def freshScope : InboundQuarantineScopeV1 :=
  ⟨hexText (List.replicate 32 1), 0, hexText (List.replicate 32 2)⟩

def freshRepository : CapsuleInboundQuarantineRepository where
  scope := freshScope
  snapshot := ⟨schemaVersion, freshScope, [], [], []⟩
  stored := none

def sealedBytes : List UInt8 := List.replicate 48 7

/-- Where the file can be written, a message is quarantined. -/
theorem atomic_written :
    Atomic freshRepository
      ((QuarantineCall.quarantine "a" [] oneEnvelope "late" 5).perform ⟨.ok sealedBytes, .ok ()⟩
        freshRepository) :=
  (atomic_iff ⟨.ok sealedBytes, .ok ()⟩ freshRepository
    (.quarantine "a" [] oneEnvelope "late" 5) (by decide +kernel)).mpr fun _ =>
      ⟨fun _ hfind => (nomatch hfind), fun _ _ _ _ _ => ⟨rfl, List.not_mem_nil⟩⟩

/-- The file cannot be written: the answer is an error, and the memory has the record. -/
theorem record_left_behind :
    ¬ ∀ (outside : Outside) (repository : CapsuleInboundQuarantineRepository)
        (call : QuarantineCall),
        validateSnapshot repository.snapshot repository.scope = .ok () →
          Atomic repository (call.perform outside repository) := by
  intro h
  have hatomic := h ⟨.ok sealedBytes, .error .io⟩ freshRepository
    (.quarantine "a" [] oneEnvelope "late" 5) (by decide +kernel)
  have hkept := (hatomic.1 .io (by decide +kernel)).1
  revert hkept
  decide +kernel

end InboundQuarantine

end Hivra
