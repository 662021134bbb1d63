import Hivra.Ffi.QuarantineCalls
import Mathlib.Algebra.Order.BigOperators.Group.List

namespace Hivra

open Replay

/-!
# Valid snapshots

What `validateSnapshot` accepts, without its loops: the quarantine, with its tombstones, and the
policies of the senders, apart from the bytes these have together.

* `Held.observe`, `Held.push_iff`, `Held.retry`, `Held.retire` — what keeps the quarantine valid.
-/

namespace InboundQuarantine

def recordIds (records : List InboundQuarantineRecordV1) : List String :=
  records.map fun record => record.adapterEventId

def tombstoneIds (tombstones : List InboundQuarantineTombstoneV1) : List String :=
  tombstones.map fun tombstone => tombstone.adapterEventId

def chargedIds (policy : SenderIngressPolicyV1) : List String :=
  policy.chargedEvents.map fun evidence => evidence.adapterEventId

/-- The ids that are charged to any sender. -/
def allChargedIds (policies : List SenderIngressPolicyV1) : List String :=
  policies.flatMap chargedIds

def recordsOf (sender : String) (records : List InboundQuarantineRecordV1) : ℕ :=
  records.countP fun record => record.authenticatedSender == sender

structure ValidRecord (scope : InboundQuarantineScopeV1) (record : InboundQuarantineRecordV1) :
    Prop where
  schema : record.schemaVersion = schemaVersion
  scope_eq : record.scope = scope
  adapter : record.adapter = adapterName
  observed : record.observedBy.length ≤ maxObservations
  expires : record.expiresAt = saturatingAdd record.firstObservedAt payloadRetentionSecs
  event : EventId record.adapterEventId
  sender : Hex32 record.authenticatedSender

structure ValidTombstone (scope : InboundQuarantineScopeV1)
    (tombstone : InboundQuarantineTombstoneV1) : Prop where
  schema : tombstone.schemaVersion = schemaVersion
  scope_eq : tombstone.scope = scope
  adapter : tombstone.adapter = adapterName
  event : EventId tombstone.adapterEventId
  sender : Hex32 tombstone.authenticatedSender

structure ValidPolicy (scope : InboundQuarantineScopeV1) (policy : SenderIngressPolicyV1) :
    Prop where
  schema : policy.schemaVersion = schemaVersion
  scope_eq : policy.scope = scope
  permits : policy.availablePermits ≤ senderPolicyBurst
  evidence_le : policy.chargedEvents.length ≤ maxChargeEvidencePerSender
  sender : Hex32 policy.authenticatedSender
  events : ∀ evidence ∈ policy.chargedEvents, EventId evidence.adapterEventId

/-- The quarantine and its tombstones are valid. -/
structure Held (scope : InboundQuarantineScopeV1) (records : List InboundQuarantineRecordV1)
    (tombstones : List InboundQuarantineTombstoneV1) : Prop where
  records_le : records.length ≤ maxRecords
  tombstones_le : tombstones.length ≤ maxTombstones
  record : ∀ record ∈ records, ValidRecord scope record
  sender_le : ∀ sender, recordsOf sender records ≤ maxRecordsPerSender
  bytes_le : (records.map fun record => record.envelopeCiphertext.length).sum ≤ maxCiphertextBytes
  tombstone : ∀ tombstone ∈ tombstones, ValidTombstone scope tombstone
  ids : (recordIds records ++ tombstoneIds tombstones).Nodup
  tombstoneBytes_le :
    vecBytes InboundQuarantineTombstoneV1.bytes tombstones ≤ maxTombstoneBytes

/-- The policies of the senders are valid, apart from their bytes. -/
structure Charging (scope : InboundQuarantineScopeV1) (policies : List SenderIngressPolicyV1) :
    Prop where
  policies_le : policies.length ≤ maxPolicySenders
  policy : ∀ policy ∈ policies, ValidPolicy scope policy
  senders : (policies.map fun policy => policy.authenticatedSender).Nodup
  charged : (allChargedIds policies).Nodup
  charged_le : chargedTotal policies ≤ maxChargeEvidence

def policyBytes (policies : List SenderIngressPolicyV1) : ℕ :=
  vecBytes SenderIngressPolicyV1.bytes policies

structure Valid (scope : InboundQuarantineScopeV1) (snapshot : InboundQuarantineSnapshotV1) :
    Prop where
  schema : snapshot.schemaVersion = schemaVersion
  scope_eq : snapshot.scope = scope
  held : Held scope snapshot.records snapshot.tombstones
  charging : Charging scope snapshot.senderPolicies
  bytes_le : policyBytes snapshot.senderPolicies ≤ maxSenderPolicyBytes

/-! ### The loops -/

section Loops

variable {scope : InboundQuarantineScopeV1}

theorem validateRecords_eq_ok {records : List InboundQuarantineRecordV1} :
    ∀ {ids senders : List String} {bytes : ℕ} {seen : List String × ℕ}, ids.Nodup →
      (∀ sender, senders.count sender ≤ maxRecordsPerSender) →
      (validateRecords scope ids senders bytes records = .ok seen ↔
        (∀ record ∈ records, ValidRecord scope record) ∧
          ((recordIds records).reverse ++ ids).Nodup ∧
          (∀ sender, senders.count sender + recordsOf sender records ≤ maxRecordsPerSender) ∧
          seen = ((recordIds records).reverse ++ ids,
            bytes + (records.map fun record => record.envelopeCiphertext.length).sum)) := by
  induction records with
  | nil =>
    intro ids senders bytes seen hids hsenders
    rw [validateRecords]
    simp [recordIds, recordsOf, hids, hsenders, eq_comm]
  | cons record rest ih =>
    intro ids senders bytes seen hids hsenders
    rw [validateRecords, check_eq_ok, check_eq_ok, check_eq_ok, check_eq_ok, require_eq_ok,
      validateEventId, validateHex32, require_eq_ok, require_eq_ok, require_eq_ok]
    have hreverse : (recordIds (record :: rest)).reverse ++ ids =
        (recordIds rest).reverse ++ (record.adapterEventId :: ids) := by
      simp [recordIds]
    have hcount : ∀ sender, senders.count sender + recordsOf sender (record :: rest) =
        (record.authenticatedSender :: senders).count sender + recordsOf sender rest := by
      intro sender
      rw [recordsOf, recordsOf, List.countP_cons, List.count_cons]
      omega
    rw [hreverse]
    constructor
    · rintro ⟨⟨hschema, hscope, hadapter, hfresh, hobserved, hexpires⟩, hevent, hsender, hroom,
        hrest⟩
      have hsenders' : ∀ sender,
          (record.authenticatedSender :: senders).count sender ≤ maxRecordsPerSender := by
        intro sender
        rw [List.count_cons]
        split_ifs with hsame
        · rw [← eq_of_beq hsame]
          exact hroom
        · exact hsenders sender
      obtain ⟨hvalid, hnodup, hle, rfl⟩ :=
        (ih (List.nodup_cons.mpr ⟨hfresh, hids⟩) hsenders').mp hrest
      refine ⟨List.forall_mem_cons.mpr
        ⟨⟨hschema, hscope, hadapter, hobserved, hexpires, hevent, hsender⟩, hvalid⟩, hnodup,
        fun sender => (hcount sender).trans_le (hle sender), ?_⟩
      rw [List.map_cons, List.sum_cons, Nat.add_assoc]
    · rintro ⟨hvalid, hnodup, hle, rfl⟩
      obtain ⟨hrecord, hvalid⟩ := List.forall_mem_cons.mp hvalid
      have hfresh := List.nodup_cons.mp (List.nodup_append.mp hnodup).2.1
      have hle' : ∀ sender, (record.authenticatedSender :: senders).count sender +
          recordsOf sender rest ≤ maxRecordsPerSender := fun sender =>
        (hcount sender).symm.trans_le (hle sender)
      refine ⟨⟨hrecord.schema, hrecord.scope_eq, hrecord.adapter, hfresh.1, hrecord.observed,
        hrecord.expires⟩, hrecord.event, hrecord.sender, ?_, ?_⟩
      · have hone := hle' record.authenticatedSender
        rw [List.count_cons_self] at hone
        omega
      · refine (ih (List.nodup_cons.mpr hfresh) fun sender =>
          (Nat.le_add_right ..).trans (hle' sender)).mpr ⟨hvalid, hnodup, hle', ?_⟩
        rw [List.map_cons, List.sum_cons, Nat.add_assoc]

theorem validateTombstones_eq_ok {tombstones : List InboundQuarantineTombstoneV1} :
    ∀ {ids : List String}, ids.Nodup →
      (validateTombstones scope ids tombstones = .ok () ↔
        (∀ tombstone ∈ tombstones, ValidTombstone scope tombstone) ∧
          ((tombstoneIds tombstones).reverse ++ ids).Nodup) := by
  induction tombstones with
  | nil =>
    intro ids hids
    rw [validateTombstones]
    simp [tombstoneIds, hids]
  | cons tombstone rest ih =>
    intro ids hids
    have hreverse : (tombstoneIds (tombstone :: rest)).reverse ++ ids =
        (tombstoneIds rest).reverse ++ (tombstone.adapterEventId :: ids) := by
      simp [tombstoneIds]
    rw [validateTombstones, check_eq_ok, check_eq_ok, check_eq_ok, require_eq_ok,
      validateEventId, validateHex32, require_eq_ok, require_eq_ok, hreverse]
    constructor
    · rintro ⟨⟨hschema, hscope, hadapter, hfresh⟩, hevent, hsender, hrest⟩
      obtain ⟨hvalid, hnodup⟩ := (ih (List.nodup_cons.mpr ⟨hfresh, hids⟩)).mp hrest
      exact ⟨List.forall_mem_cons.mpr ⟨⟨hschema, hscope, hadapter, hevent, hsender⟩, hvalid⟩,
        hnodup⟩
    · rintro ⟨hvalid, hnodup⟩
      obtain ⟨htombstone, hvalid⟩ := List.forall_mem_cons.mp hvalid
      have hfresh := List.nodup_cons.mp (List.nodup_append.mp hnodup).2.1
      exact ⟨⟨htombstone.schema, htombstone.scope_eq, htombstone.adapter, hfresh.1⟩,
        htombstone.event, htombstone.sender,
        (ih (List.nodup_cons.mpr hfresh)).mpr ⟨hvalid, hnodup⟩⟩

theorem validateEvidence_eq_ok {events : List SenderChargeEvidenceV1} :
    ∀ {ids seen : List String}, ids.Nodup →
      (validateEvidence ids events = .ok seen ↔
        (∀ evidence ∈ events, EventId evidence.adapterEventId) ∧
          ((events.map fun evidence => evidence.adapterEventId).reverse ++ ids).Nodup ∧
          seen = (events.map fun evidence => evidence.adapterEventId).reverse ++ ids) := by
  induction events with
  | nil =>
    intro ids seen hids
    rw [validateEvidence]
    simp [hids, eq_comm]
  | cons evidence rest ih =>
    intro ids seen hids
    have hreverse :
        ((evidence :: rest).map fun evidence => evidence.adapterEventId).reverse ++ ids =
          (rest.map fun evidence => evidence.adapterEventId).reverse ++
            (evidence.adapterEventId :: ids) := by
      simp
    rw [validateEvidence, check_eq_ok, check_eq_ok, validateEventId, require_eq_ok,
      require_eq_ok, hreverse]
    constructor
    · rintro ⟨hevent, hfresh, hrest⟩
      obtain ⟨hevents, hnodup, rfl⟩ := (ih (List.nodup_cons.mpr ⟨hfresh, hids⟩)).mp hrest
      exact ⟨List.forall_mem_cons.mpr ⟨hevent, hevents⟩, hnodup, rfl⟩
    · rintro ⟨hevents, hnodup, rfl⟩
      obtain ⟨hevent, hevents⟩ := List.forall_mem_cons.mp hevents
      have hfresh := List.nodup_cons.mp (List.nodup_append.mp hnodup).2.1
      exact ⟨hevent, hfresh.1, (ih (List.nodup_cons.mpr hfresh)).mpr ⟨hevents, hnodup, rfl⟩⟩

theorem validatePolicies_eq_ok {policies : List SenderIngressPolicyV1} :
    ∀ {senders ids : List String} {count total : ℕ}, senders.Nodup → ids.Nodup →
      (validatePolicies scope senders ids count policies = .ok total ↔
        (∀ policy ∈ policies, ValidPolicy scope policy) ∧
          ((policies.map fun policy => policy.authenticatedSender).reverse ++ senders).Nodup ∧
          ((allChargedIds policies).reverse ++ ids).Nodup ∧
          total = count + chargedTotal policies) := by
  induction policies with
  | nil =>
    intro senders ids count total hsenders hids
    rw [validatePolicies]
    simp [allChargedIds, chargedTotal, hsenders, hids, eq_comm]
  | cons policy rest ih =>
    intro senders ids count total hsenders hids
    have hreverse :
        ((policy :: rest).map fun policy => policy.authenticatedSender).reverse ++ senders =
          (rest.map fun policy => policy.authenticatedSender).reverse ++
            (policy.authenticatedSender :: senders) := by
      simp
    have hcharged : (allChargedIds (policy :: rest)).reverse ++ ids =
        (allChargedIds rest).reverse ++ ((chargedIds policy).reverse ++ ids) := by
      simp [allChargedIds]
    rw [validatePolicies, check_eq_ok, check_eq_ok, bind_eq_ok, validateHex32, require_eq_ok,
      require_eq_ok, hreverse, hcharged]
    constructor
    · rintro ⟨⟨hschema, hscope, hpermits, hfresh, hle⟩, hsender, ids', hevidence, hrest⟩
      obtain ⟨hevents, hnodup, rfl⟩ := (validateEvidence_eq_ok hids).mp hevidence
      obtain ⟨hvalid, hsenders', hnodup', rfl⟩ :=
        (ih (List.nodup_cons.mpr ⟨hfresh, hsenders⟩) hnodup).mp hrest
      refine ⟨List.forall_mem_cons.mpr ⟨⟨hschema, hscope, hpermits, hle, hsender, hevents⟩, hvalid⟩,
        hsenders', hnodup', ?_⟩
      rw [chargedTotal, chargedTotal, List.map_cons, List.sum_cons, Nat.add_assoc]
    · rintro ⟨hvalid, hsenders', hnodup, rfl⟩
      obtain ⟨hpolicy, hvalid⟩ := List.forall_mem_cons.mp hvalid
      have hfresh := List.nodup_cons.mp (List.nodup_append.mp hsenders').2.1
      have hids' := (List.nodup_append.mp hnodup).2.1
      refine ⟨⟨hpolicy.schema, hpolicy.scope_eq, hpolicy.permits, hfresh.1, hpolicy.evidence_le⟩,
        hpolicy.sender, _, (validateEvidence_eq_ok hids).mpr ⟨hpolicy.events, hids', rfl⟩,
        (ih (List.nodup_cons.mpr hfresh) hids').mpr ⟨hvalid, hsenders', hnodup, ?_⟩⟩
      rw [chargedTotal, chargedTotal, List.map_cons, List.sum_cons, Nat.add_assoc]

end Loops

/-- **What is accepted.** -/
theorem validateSnapshot_eq_ok {snapshot : InboundQuarantineSnapshotV1}
    {scope : InboundQuarantineScopeV1} :
    validateSnapshot snapshot scope = .ok () ↔ Valid scope snapshot := by
  have hrecords : ∀ {seen : List String × ℕ}, validateRecords scope [] [] 0 snapshot.records =
      .ok seen ↔ _ := validateRecords_eq_ok .nil (fun sender => Nat.zero_le _)
  have hpolicies : ∀ {total : ℕ}, validatePolicies scope [] [] 0 snapshot.senderPolicies =
      .ok total ↔ _ := validatePolicies_eq_ok .nil .nil
  have hids : ((tombstoneIds snapshot.tombstones).reverse ++
      (recordIds snapshot.records).reverse).Nodup ↔
        (recordIds snapshot.records ++ tombstoneIds snapshot.tombstones).Nodup := by
    rw [← List.reverse_append, List.nodup_reverse]
  unfold validateSnapshot
  rw [check_eq_ok, check_eq_ok, require_eq_ok, require_eq_ok, bind_eq_ok]
  constructor
  · rintro ⟨⟨hschema, hscope⟩, ⟨hrecordsLe, htombstonesLe, hpoliciesLe⟩, seen, hseen, h⟩
    obtain ⟨hrecord, hnodup, hsender, rfl⟩ := hrecords.mp hseen
    rw [List.append_nil] at hnodup h
    dsimp only at h
    rw [check_eq_ok, check_eq_ok, check_eq_ok, bind_eq_ok, require_eq_ok, require_eq_ok,
      validateTombstones_eq_ok hnodup] at h
    obtain ⟨hbytes, ⟨htombstone, hall⟩, htombstoneBytes, total, htotal, h⟩ := h
    rw [require_eq_ok] at h
    obtain ⟨hpolicy, hsenders, hcharged, rfl⟩ := hpolicies.mp htotal
    rw [List.append_nil, List.nodup_reverse] at hsenders hcharged
    rw [Nat.zero_add] at hbytes h
    exact ⟨hschema, hscope,
      ⟨hrecordsLe, htombstonesLe, hrecord, fun sender => by simpa using hsender sender, hbytes,
        htombstone, hids.mp hall, htombstoneBytes⟩,
      ⟨hpoliciesLe, hpolicy, hsenders, hcharged, h.1⟩, h.2⟩
  · intro h
    have hall := hids.mpr h.held.ids
    have hnodup := (List.nodup_append.mp hall).2.1
    refine ⟨⟨h.schema, h.scope_eq⟩, ⟨h.held.records_le, h.held.tombstones_le,
      h.charging.policies_le⟩, _, hrecords.mpr ⟨h.held.record, by rwa [List.append_nil],
        fun sender => by simpa using h.held.sender_le sender, rfl⟩, ?_⟩
    dsimp only
    rw [check_eq_ok, check_eq_ok, check_eq_ok, bind_eq_ok, require_eq_ok, require_eq_ok,
      Nat.zero_add, List.append_nil, validateTombstones_eq_ok hnodup]
    refine ⟨h.held.bytes_le, ⟨h.held.tombstone, hall⟩, h.held.tombstoneBytes_le, _,
      hpolicies.mpr ⟨h.charging.policy, ?_, ?_, rfl⟩, ?_⟩
    · rw [List.append_nil, List.nodup_reverse]
      exact h.charging.senders
    · rw [List.append_nil, List.nodup_reverse]
      exact h.charging.charged
    · rw [require_eq_ok, Nat.zero_add]
      exact ⟨h.charging.charged_le, h.bytes_le⟩

section Keep

variable {scope : InboundQuarantineScopeV1} {records : List InboundQuarantineRecordV1}
  {tombstones : List InboundQuarantineTombstoneV1}

/-! ### The quarantine -/

variable {adapterEventId : String}

theorem mem_recordIds :
    adapterEventId ∈ recordIds records ↔
      ∃ record ∈ records, record.adapterEventId = adapterEventId :=
  List.mem_map

theorem find_record_eq_none :
    records.find? (isRecordOf adapterEventId) = none ↔ adapterEventId ∉ recordIds records := by
  rw [List.find?_eq_none, mem_recordIds]
  simp [isRecordOf]

variable {tombstones' : List InboundQuarantineTombstoneV1}
  {records' : List InboundQuarantineRecordV1}

theorem Held.perm (h : Held scope records tombstones) (hrecords : records.Perm records')
    (htombstones : tombstones.Perm tombstones') :
    Held scope records' tombstones' where
  records_le := hrecords.length_eq ▸ h.records_le
  tombstones_le := htombstones.length_eq ▸ h.tombstones_le
  record record hmem := h.record record (hrecords.mem_iff.mpr hmem)
  sender_le sender := by
    rw [recordsOf, ← hrecords.countP_eq]
    exact h.sender_le sender
  bytes_le := by
    rw [← (hrecords.map fun record => record.envelopeCiphertext.length).sum_eq]
    exact h.bytes_le
  tombstone tombstone hmem := h.tombstone tombstone (htombstones.mem_iff.mpr hmem)
  ids := ((hrecords.map _).append (htombstones.map _)).nodup_iff.mp h.ids
  tombstoneBytes_le := by
    rw [vecBytes, ← (htombstones.map InboundQuarantineTombstoneV1.bytes).sum_eq]
    exact h.tombstoneBytes_le

theorem Held.sublist (h : Held scope records tombstones) (hrecords : records'.Sublist records)
    (htombstones : tombstones'.Sublist tombstones) :
    Held scope records' tombstones' where
  records_le := hrecords.length_le.trans h.records_le
  tombstones_le := htombstones.length_le.trans h.tombstones_le
  record record hmem := h.record record (hrecords.subset hmem)
  sender_le sender := hrecords.countP_le.trans (h.sender_le sender)
  bytes_le := ((hrecords.map _).sum_le_sum (by simp)).trans h.bytes_le
  tombstone tombstone hmem := h.tombstone tombstone (htombstones.subset hmem)
  ids := h.ids.sublist ((hrecords.map _).append (htombstones.map _))
  tombstoneBytes_le :=
    (Nat.add_le_add_left ((htombstones.map _).sum_le_sum (by simp)) 8).trans h.tombstoneBytes_le

/-- A record may change in what is not checked by other records. -/
theorem Held.update {f : InboundQuarantineRecordV1 → InboundQuarantineRecordV1}
    (h : Held scope records tombstones)
    (hid : ∀ record, (f record).adapterEventId = record.adapterEventId)
    (hsender : ∀ record, (f record).authenticatedSender = record.authenticatedSender)
    (hbytes : ∀ record, (f record).envelopeCiphertext = record.envelopeCiphertext)
    (hvalid : ∀ record, ValidRecord scope record → ValidRecord scope (f record)) :
    Held scope (updateFirst (isRecordOf adapterEventId) f records) tombstones := by
  have hids : recordIds (updateFirst (isRecordOf adapterEventId) f records) = recordIds records :=
    map_updateFirst _ fun record _ => hid record
  have hsenders : (updateFirst (isRecordOf adapterEventId) f records).map
      (fun record => record.authenticatedSender) =
        records.map fun record => record.authenticatedSender :=
    map_updateFirst _ fun record _ => hsender record
  have hcipher : (updateFirst (isRecordOf adapterEventId) f records).map
      (fun record => record.envelopeCiphertext.length) =
        records.map fun record => record.envelopeCiphertext.length :=
    map_updateFirst _ fun record _ => congrArg List.length (hbytes record)
  refine ⟨?_, h.tombstones_le, ?_, ?_, ?_, h.tombstone, ?_, h.tombstoneBytes_le⟩
  · rw [length_updateFirst]
    exact h.records_le
  · intro record hmem
    rcases mem_updateFirst hmem with hold | ⟨old, hold, rfl⟩
    · exact h.record record hold
    · exact hvalid old (h.record old hold)
  · intro sender
    have hcount : ∀ list : List InboundQuarantineRecordV1, recordsOf sender list =
        (list.map fun record => record.authenticatedSender).countP (· == sender) := by
      intro list
      rw [List.countP_map]
      rfl
    rw [hcount, hsenders, ← hcount]
    exact h.sender_le sender
  · rw [hcipher]
    exact h.bytes_le
  · rw [hids]
    exact h.ids

theorem mergeObservations_length (existing incoming : List String) :
    (mergeObservations existing incoming).length ≤ maxObservations :=
  List.length_take_le ..

theorem Held.observe (h : Held scope records tombstones) (adapterEventId : String)
    (observedBy : List String) :
    Held scope (updateFirst (isRecordOf adapterEventId) (fun record =>
      { record with observedBy := mergeObservations record.observedBy observedBy }) records)
      tombstones :=
  h.update (fun _ => rfl) (fun _ => rfl) (fun _ => rfl) fun record hrecord =>
    { hrecord with observed := mergeObservations_length record.observedBy observedBy }

theorem retriedRecord_same (now : UInt64) (record : InboundQuarantineRecordV1) :
    (retriedRecord now record).adapterEventId = record.adapterEventId ∧
      (retriedRecord now record).authenticatedSender = record.authenticatedSender ∧
      (retriedRecord now record).envelopeCiphertext = record.envelopeCiphertext := by
  unfold retriedRecord
  dsimp only
  exact ⟨rfl, rfl, rfl⟩

variable {record : InboundQuarantineRecordV1}

theorem ValidRecord.retry {now : UInt64} (h : ValidRecord scope record) :
    ValidRecord scope (retriedRecord now record) := by
  unfold retriedRecord
  exact ⟨h.schema, h.scope_eq, h.adapter, h.observed, h.expires, h.event, h.sender⟩

theorem Held.retry (h : Held scope records tombstones) (adapterEventId : String) (now : UInt64) :
    Held scope (updateFirst (isRecordOf adapterEventId) (retriedRecord now) records) tombstones :=
  h.update (fun record => (retriedRecord_same now record).1)
    (fun record => (retriedRecord_same now record).2.1)
    (fun record => (retriedRecord_same now record).2.2) fun _ hrecord => hrecord.retry

/-- A new record may only collide with a tombstone. -/
theorem Held.push_iff (h : Held scope records tombstones) (hrecord : ValidRecord scope record)
    (hnew : record.adapterEventId ∉ recordIds records) (hroom : records.length < maxRecords)
    (hsender : recordsOf record.authenticatedSender records < maxRecordsPerSender)
    (hbytes : (records.map fun record => record.envelopeCiphertext.length).sum +
      record.envelopeCiphertext.length ≤ maxCiphertextBytes) :
    Held scope ((records ++ [record]).insertionSort
        fun left right => left.adapterEventId ≤ right.adapterEventId) tombstones ↔
      record.adapterEventId ∉ tombstoneIds tombstones := by
  have hperm := List.perm_insertionSort
    (fun left right : InboundQuarantineRecordV1 => left.adapterEventId ≤ right.adapterEventId)
    (records ++ [record])
  have hids : (recordIds (records ++ [record]) ++ tombstoneIds tombstones).Perm
      (record.adapterEventId :: (recordIds records ++ tombstoneIds tombstones)) := by
    rw [recordIds, List.map_append, List.append_assoc]
    exact List.perm_middle
  constructor
  · intro hheld
    have hnodup := (hheld.perm hperm (.refl _)).ids
    rw [hids.nodup_iff, List.nodup_cons] at hnodup
    exact fun hmem => hnodup.1 (List.mem_append_right _ hmem)
  · intro hfree
    refine Held.perm ?_ hperm.symm (.refl tombstones)
    refine ⟨?_, h.tombstones_le, ?_, ?_, ?_, h.tombstone, ?_, h.tombstoneBytes_le⟩
    · rw [List.length_append, List.length_singleton]
      exact hroom
    · intro record' hmem
      rcases List.mem_append.mp hmem with hold | hlast
      · exact h.record record' hold
      · rw [List.mem_singleton.mp hlast]
        exact hrecord
    · intro sender
      rw [recordsOf, List.countP_append, List.countP_singleton]
      split_ifs with hsame
      · rw [← eq_of_beq hsame]
        exact hsender
      · exact h.sender_le sender
    · rw [List.map_append, List.sum_append, List.map_singleton, List.sum_singleton]
      exact hbytes
    · rw [hids.nodup_iff, List.nodup_cons, List.mem_append]
      exact ⟨fun hmem => hmem.elim hnew hfree, h.ids⟩

theorem tombstone_free (h : Held scope records tombstones) (hmem : record ∈ records) :
    record.adapterEventId ∉ tombstoneIds tombstones := fun htombstone =>
  (List.nodup_append.mp h.ids).2.2 _ (List.mem_map.mpr ⟨record, hmem, rfl⟩) _ htombstone rfl

/-- A record becomes a tombstone. -/
theorem Held.retire {terminalReason : String} {now : UInt64} (h : Held scope records tombstones)
    (hmem : record ∈ records) (hroom : tombstones.length < maxTombstones)
    (hbytes : vecBytes InboundQuarantineTombstoneV1.bytes tombstones +
      (newTombstone record terminalReason now).bytes ≤ maxTombstoneBytes) :
    Held scope
      (records.filter fun candidate => candidate.adapterEventId != record.adapterEventId)
      ((tombstones ++ [newTombstone record terminalReason now]).insertionSort
        fun left right => left.adapterEventId ≤ right.adapterEventId) := by
  have hperm := List.perm_insertionSort
    (fun left right : InboundQuarantineTombstoneV1 =>
      left.adapterEventId ≤ right.adapterEventId)
    (tombstones ++ [newTombstone record terminalReason now])
  have hleft := h.sublist (records.filter_sublist (p := fun candidate =>
    candidate.adapterEventId != record.adapterEventId)) (.refl tombstones)
  have hvalid := h.record record hmem
  refine Held.perm ?_ (.refl _) hperm.symm
  refine ⟨hleft.records_le, ?_, hleft.record, hleft.sender_le, hleft.bytes_le, ?_, ?_, ?_⟩
  · rw [List.length_append, List.length_singleton]
    exact hroom
  · intro tombstone htombstone
    rcases List.mem_append.mp htombstone with hold | hlast
    · exact h.tombstone tombstone hold
    · rw [List.mem_singleton.mp hlast]
      exact ⟨rfl, hvalid.scope_eq, hvalid.adapter, hvalid.event, hvalid.sender⟩
  · have hlast : tombstoneIds (tombstones ++ [newTombstone record terminalReason now]) =
        tombstoneIds tombstones ++ [record.adapterEventId] := by
      rw [tombstoneIds, List.map_append]
      rfl
    rw [hlast, ← List.append_assoc, List.nodup_append]
    refine ⟨hleft.ids, List.nodup_singleton _, ?_⟩
    intro adapterEventId hold other hother
    rw [List.mem_singleton.mp hother]
    rintro rfl
    rcases List.mem_append.mp hold with hrecord | htombstone
    · obtain ⟨candidate, hcandidate, hsame⟩ := mem_recordIds.mp hrecord
      have hne := (List.mem_filter.mp hcandidate).2
      rw [bne_iff_ne] at hne
      exact hne hsame
    · exact tombstone_free h hmem htombstone
  · rw [vecBytes, List.map_append, List.sum_append, List.map_singleton, List.sum_singleton,
      ← Nat.add_assoc]
    exact hbytes

end Keep

end InboundQuarantine

end Hivra
