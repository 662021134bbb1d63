import Hivra.Ffi.QuarantineValid
import Mathlib.Data.List.Flatten

namespace Hivra

open Replay

/-!
# Valid policies

What a call does to the policies of the senders: they are maintained, the sender gets one if it
has none, and an event may take a permit.

* `Charging.maintain`, `Charging.senderPolicy`, `Charging.touch` — these leave valid policies.
* `Charging.charge_iff` — a charge does, unless the event is charged to some sender already.
-/

namespace InboundQuarantine

section Policies

variable {scope : InboundQuarantineScopeV1} {policies : List SenderIngressPolicyV1}
  {snapshot base : InboundQuarantineSnapshotV1} {now : UInt64} {sender : String}
  {policy : SenderIngressPolicyV1}

/-- The text of a key. -/
theorem hex32_hexText {bytes : List UInt8} (h : bytes.length = 32) : Hex32 (hexText bytes) := by
  have hascii : ∀ c ∈ (hexText bytes).toList, c.utf8Size = 1 :=
    forall_hexText (by decide) bytes
  have hbytes : ∀ text : List Char, (∀ c ∈ text, c.utf8Size = 1) →
      (String.ofList text).utf8ByteSize = text.length := by
    intro text
    induction text with
    | nil => exact fun _ => rfl
    | cons c rest ih =>
      intro htext
      rw [String.ofList_cons, String.utf8ByteSize_append, String.utf8ByteSize_singleton,
        htext c List.mem_cons_self, ih fun c hc => htext c (List.mem_cons_of_mem _ hc),
        List.length_cons]
      omega
  constructor
  · have hsize := hbytes (hexText bytes).toList hascii
    rw [String.ofList_toList, length_hexText, h] at hsize
    exact hsize
  · exact List.all_eq_true.mpr (forall_hexText (by decide) bytes)

theorem hex32_sender (envelope : DeliveryEnvelope) : Hex32 (authenticatedSenderOf envelope) :=
  hex32_hexText envelope.fromPubkey.bytes.2

theorem Charging.sublist {policies' : List SenderIngressPolicyV1} (h : Charging scope policies)
    (hsub : policies'.Sublist policies) : Charging scope policies' where
  policies_le := hsub.length_le.trans h.policies_le
  policy policy hmem := h.policy policy (hsub.subset hmem)
  senders := h.senders.sublist (hsub.map _)
  charged := h.charged.sublist (hsub.flatMap chargedIds)
  charged_le := ((hsub.map fun policy => policy.chargedEvents.length).sum_le_sum
    (by simp)).trans h.charged_le

variable {f : SenderIngressPolicyV1 → SenderIngressPolicyV1}

/-- Every policy is changed, and keeps at most the evidence it had. -/
theorem Charging.map (h : Charging scope policies)
    (hsender : ∀ policy, (f policy).authenticatedSender = policy.authenticatedSender)
    (hevidence : ∀ policy, (f policy).chargedEvents.Sublist policy.chargedEvents)
    (hvalid : ∀ policy, ValidPolicy scope policy → ValidPolicy scope (f policy)) :
    Charging scope (policies.map f) where
  policies_le := (List.length_map f).trans_le h.policies_le
  policy policy hmem := by
    obtain ⟨old, hold, rfl⟩ := List.mem_map.mp hmem
    exact hvalid old (h.policy old hold)
  senders := by
    have hsame : (fun policy : SenderIngressPolicyV1 => policy.authenticatedSender) ∘ f =
        fun policy => policy.authenticatedSender := funext hsender
    rw [List.map_map, hsame]
    exact h.senders
  charged := by
    refine h.charged.sublist ?_
    rw [allChargedIds, allChargedIds, List.flatMap_map]
    exact List.Sublist.flatMap_right policies fun policy _ => (hevidence policy).map _
  charged_le := by
    refine le_trans ?_ h.charged_le
    rw [chargedTotal, chargedTotal, List.map_map]
    exact List.sum_le_sum fun policy _ => (hevidence policy).length_le

theorem policyBytes_map (hbytes : ∀ policy, (f policy).bytes ≤ policy.bytes) :
    policyBytes (policies.map f) ≤ policyBytes policies := by
  rw [policyBytes, policyBytes, vecBytes, vecBytes, List.map_map]
  exact Nat.add_le_add_left (List.sum_le_sum fun policy _ => hbytes policy) 8

/-- What maintaining a policy does to its fields. -/
theorem maintainPolicy_same (now : UInt64) (policy : SenderIngressPolicyV1) :
    (maintainPolicy now policy).schemaVersion = policy.schemaVersion ∧
      (maintainPolicy now policy).scope = policy.scope ∧
      (maintainPolicy now policy).authenticatedSender = policy.authenticatedSender ∧
      (maintainPolicy now policy).chargedEvents.Sublist policy.chargedEvents ∧
      (policy.availablePermits ≤ senderPolicyBurst →
        (maintainPolicy now policy).availablePermits ≤ senderPolicyBurst) := by
  unfold maintainPolicy
  dsimp only
  split_ifs
  · refine ⟨rfl, rfl, rfl, List.filter_sublist, fun _ => ?_⟩
    rw [UInt8.le_iff_toNat_le, toNat_refilled]
    exact Nat.min_le_right ..
  · exact ⟨rfl, rfl, rfl, List.filter_sublist, id⟩

theorem bytes_maintain (now : UInt64) (policy : SenderIngressPolicyV1) :
    (maintainPolicy now policy).bytes ≤ policy.bytes := by
  obtain ⟨-, hscope, hsender, hevidence, -⟩ := maintainPolicy_same now policy
  have hsum := (hevidence.map SenderChargeEvidenceV1.bytes).sum_le_sum (by simp)
  rw [SenderIngressPolicyV1.bytes, SenderIngressPolicyV1.bytes, hscope, hsender, vecBytes, vecBytes]
  omega

theorem Charging.maintain (h : Charging scope policies) (now : UInt64) :
    Charging scope (policies.map (maintainPolicy now)) :=
  h.map (fun policy => (maintainPolicy_same now policy).2.2.1)
    (fun policy => (maintainPolicy_same now policy).2.2.2.1) fun policy hpolicy => by
      obtain ⟨hschema, hscope, hsender, hevidence, hpermits⟩ := maintainPolicy_same now policy
      exact ⟨hschema.trans hpolicy.schema, hscope.trans hpolicy.scope_eq, hpermits hpolicy.permits,
        hevidence.length_le.trans hpolicy.evidence_le, hsender ▸ hpolicy.sender,
        fun evidence hmem => hpolicy.events evidence (hevidence.subset hmem)⟩

theorem Valid.maintain (h : Valid scope snapshot) (now : UInt64) :
    Valid scope (maintainSenderPolicyState now snapshot) where
  schema := h.schema
  scope_eq := h.scope_eq
  held := h.held
  charging := h.charging.maintain now
  bytes_le := (policyBytes_map (bytes_maintain now)).trans h.bytes_le

theorem Charging.touch (h : Charging scope policies) (now : UInt64) (sender : String) :
    Charging scope (updateFirst (isPolicyOf sender) (touchPolicy now) policies) ∧
      policyBytes (updateFirst (isPolicyOf sender) (touchPolicy now) policies) =
        policyBytes policies := by
  have hsenders : (updateFirst (isPolicyOf sender) (touchPolicy now) policies).map
      (fun policy => policy.authenticatedSender) =
        policies.map fun policy => policy.authenticatedSender :=
    map_updateFirst _ fun _ _ => rfl
  have hcharged : (updateFirst (isPolicyOf sender) (touchPolicy now) policies).map chargedIds =
      policies.map chargedIds := map_updateFirst _ fun _ _ => rfl
  have hcount : (updateFirst (isPolicyOf sender) (touchPolicy now) policies).map
      (fun policy => policy.chargedEvents.length) =
        policies.map fun policy => policy.chargedEvents.length :=
    map_updateFirst _ fun _ _ => rfl
  have hbytes : (updateFirst (isPolicyOf sender) (touchPolicy now) policies).map
      SenderIngressPolicyV1.bytes = policies.map SenderIngressPolicyV1.bytes :=
    map_updateFirst _ fun _ _ => rfl
  refine ⟨⟨?_, ?_, ?_, ?_, ?_⟩, ?_⟩
  · rw [length_updateFirst]
    exact h.policies_le
  · intro policy hmem
    rcases mem_updateFirst hmem with hold | ⟨old, hold, rfl⟩
    · exact h.policy policy hold
    · have hvalid := h.policy old hold
      exact ⟨hvalid.schema, hvalid.scope_eq, hvalid.permits, hvalid.evidence_le, hvalid.sender,
        hvalid.events⟩
  · rw [hsenders]
    exact h.senders
  · rw [allChargedIds, List.flatMap, hcharged]
    exact h.charged
  · rw [chargedTotal, hcount]
    exact h.charged_le
  · rw [policyBytes, vecBytes, hbytes]
    rfl

/-- Room for a sender takes nothing but a policy away. -/
theorem makeSenderPolicyCapacity_sublist (h : makeSenderPolicyCapacity snapshot = .ok base)
    (hle : snapshot.senderPolicies.length ≤ maxPolicySenders) :
    base.senderPolicies.Sublist snapshot.senderPolicies ∧
      base.senderPolicies.length < maxPolicySenders ∧ base.records = snapshot.records ∧
      base.tombstones = snapshot.tombstones ∧ base.schemaVersion = snapshot.schemaVersion ∧
      base.scope = snapshot.scope := by
  rcases makeSenderPolicyCapacity_cases h with ⟨hlt, rfl⟩ | ⟨front, gone, back, heq, -, rfl⟩
  · exact ⟨.refl _, hlt, rfl, rfl, rfl, rfl⟩
  · rw [heq, List.length_append, List.length_cons] at hle
    refine ⟨?_, ?_, rfl, rfl, rfl, rfl⟩
    · show (front ++ back).Sublist _
      rw [heq]
      exact (List.Sublist.refl front).append (List.sublist_cons_self gone back)
    · show (front ++ back).length < maxPolicySenders
      rw [List.length_append]
      omega

/-- What the snapshot in which the sender has a policy is. -/
structure HasPolicy (scope : InboundQuarantineScopeV1) (snapshot base : InboundQuarantineSnapshotV1)
    (sender : String) (policy : SenderIngressPolicyV1) : Prop where
  found : base.senderPolicies.find? (isPolicyOf sender) = some policy
  charging : Charging scope base.senderPolicies
  records : base.records = snapshot.records
  tombstones : base.tombstones = snapshot.tombstones
  schema : base.schemaVersion = snapshot.schemaVersion
  scope_eq : base.scope = snapshot.scope
  old : policy.chargedEvents ≠ [] ∨ policy.availablePermits = 0 → base = snapshot

theorem Charging.senderPolicy (h : Charging scope snapshot.senderPolicies) (hsender : Hex32 sender)
    (hpolicy : senderPolicy snapshot scope sender now = .ok (base, policy)) :
    HasPolicy scope snapshot base sender policy := by
  rcases senderPolicy_cases hpolicy with ⟨hfind, rfl⟩ | ⟨hfind, rfl, roomy, hroom, rfl⟩
  · exact ⟨hfind, h, rfl, rfl, rfl, rfl, fun _ => rfl⟩
  · obtain ⟨hsub, hlt, hrecords, htombstones, hschema, hscope⟩ :=
      makeSenderPolicyCapacity_sublist hroom h.policies_le
    have hroomy := h.sublist hsub
    have hnew : ∀ policy ∈ roomy.senderPolicies, ¬ isPolicyOf sender policy = true :=
      fun policy hmem => List.find?_eq_none.mp hfind policy (hsub.subset hmem)
    refine ⟨?_, ⟨?_, ?_, ?_, ?_, ?_⟩, hrecords, htombstones, hschema, hscope, ?_⟩
    · show (roomy.senderPolicies ++ [newPolicy scope sender now]).find? _ = _
      rw [List.find?_append, List.find?_eq_none.mpr hnew, Option.none_or]
      simp [isPolicyOf, newPolicy]
    · rw [List.length_append, List.length_singleton]
      exact hlt
    · intro policy hmem
      rcases List.mem_append.mp hmem with hold | hlast
      · exact hroomy.policy policy hold
      · rw [List.mem_singleton.mp hlast]
        exact ⟨rfl, rfl, UInt8.le_refl _, Nat.zero_le _, hsender,
          fun _ h => absurd h List.not_mem_nil⟩
    · rw [List.map_append, List.nodup_append]
      refine ⟨hroomy.senders, List.nodup_singleton _, ?_⟩
      rintro name hold other hother rfl
      obtain ⟨policy, hmem, hname⟩ := List.mem_map.mp hold
      rw [List.map_singleton, List.mem_singleton] at hother
      exact hnew policy hmem (isPolicyOf_iff.mpr (hname.trans hother))
    · rw [allChargedIds, List.flatMap_append]
      show (allChargedIds roomy.senderPolicies ++ []).Nodup
      rw [List.append_nil]
      exact hroomy.charged
    · rw [chargedTotal, List.map_append, List.sum_append]
      exact hroomy.charged_le
    · -- a new policy has all permits, and no charge
      rintro (hcharged | hzero)
      · exact absurd rfl hcharged
      · cases hzero

/-- The evidence of one more charge. -/
theorem policyBytes_charge (hfind : policies.find? (isPolicyOf sender) = some policy)
    {evidence : SenderChargeEvidenceV1} (hscope : (f policy).scope = policy.scope)
    (hsender : (f policy).authenticatedSender = policy.authenticatedSender)
    (hperm : (f policy).chargedEvents.Perm (policy.chargedEvents ++ [evidence])) :
    policyBytes (updateFirst (isPolicyOf sender) f policies) =
      policyBytes policies + evidence.bytes := by
  obtain ⟨front, back, hpolicies, hchange⟩ := updateFirst_of_find hfind
  have hsum := (hperm.map SenderChargeEvidenceV1.bytes).sum_eq
  rw [List.map_append, List.sum_append, List.map_singleton, List.sum_singleton] at hsum
  have hone : (f policy).bytes = policy.bytes + evidence.bytes := by
    rw [SenderIngressPolicyV1.bytes, SenderIngressPolicyV1.bytes, hscope, hsender, vecBytes,
      vecBytes, hsum]
    omega
  rw [hchange f, hpolicies, policyBytes, policyBytes, vecBytes, vecBytes, List.map_append,
    List.map_append, List.sum_append, List.sum_append, List.map_cons, List.map_cons, List.sum_cons,
    List.sum_cons, hone]
  omega

theorem perm_charge (adapterEventId : String) (now : UInt64) (policy : SenderIngressPolicyV1) :
    (chargePolicy adapterEventId now policy).chargedEvents.Perm
      (policy.chargedEvents ++ [⟨adapterEventId, now⟩]) :=
  List.perm_insertionSort ..

/-- One more charge may only collide with a charge of any sender. -/
theorem Charging.charge_iff {adapterEventId : String} (h : Charging scope policies)
    (hfind : policies.find? (isPolicyOf sender) = some policy) (hid : EventId adapterEventId)
    (htotal : chargedTotal policies < maxChargeEvidence)
    (hone : policy.chargedEvents.length < maxChargeEvidencePerSender)
    (havailable : policy.availablePermits ≠ 0) :
    Charging scope (updateFirst (isPolicyOf sender) (chargePolicy adapterEventId now) policies) ↔
      adapterEventId ∉ allChargedIds policies := by
  obtain ⟨front, back, hpolicies, hchange⟩ := updateFirst_of_find hfind
  have hperm := perm_charge adapterEventId now policy
  have hlength : (chargePolicy adapterEventId now policy).chargedEvents.length =
      policy.chargedEvents.length + 1 := by
    rw [hperm.length_eq, List.length_append, List.length_singleton]
  have hids : (allChargedIds
      (updateFirst (isPolicyOf sender) (chargePolicy adapterEventId now) policies)).Perm
        (adapterEventId :: allChargedIds policies) := by
    have hpolicy : (chargedIds (chargePolicy adapterEventId now policy)).Perm
        (adapterEventId :: chargedIds policy) := by
      refine (hperm.map _).trans ?_
      rw [List.map_append]
      exact List.perm_append_comm
    rw [hchange, hpolicies, allChargedIds, allChargedIds, List.flatMap_append, List.flatMap_append,
      List.flatMap_cons, List.flatMap_cons]
    exact ((hpolicy.append_right _).append_left _).trans List.perm_middle
  have hmem : policy ∈ policies := List.mem_of_find?_eq_some hfind
  have hvalid := h.policy policy hmem
  constructor
  · intro hcharged
    have hnodup := hcharged.charged
    rw [hids.nodup_iff, List.nodup_cons] at hnodup
    exact hnodup.1
  · intro hfree
    refine ⟨?_, ?_, ?_, ?_, ?_⟩
    · rw [length_updateFirst]
      exact h.policies_le
    · intro other hother
      rw [hchange, List.mem_append, List.mem_cons] at hother
      rcases hother with hfront | rfl | hback
      · exact h.policy other (hpolicies ▸ List.mem_append_left _ hfront)
      · refine ⟨hvalid.schema, hvalid.scope_eq, ?_, ?_, hvalid.sender, ?_⟩
        · have hle := UInt8.le_iff_toNat_le.mp hvalid.permits
          have hpos : 1 ≤ policy.availablePermits := by
            rw [UInt8.le_iff_toNat_le]
            exact Nat.one_le_iff_ne_zero.mpr fun hzero => havailable (UInt8.toNat_inj.mp hzero)
          show policy.availablePermits - 1 ≤ senderPolicyBurst
          rw [UInt8.le_iff_toNat_le, UInt8.toNat_sub_of_le _ _ hpos]
          omega
        · rw [hlength]
          exact hone
        · intro evidence hevidence
          rcases List.mem_append.mp (hperm.mem_iff.mp hevidence) with hold | hlast
          · exact hvalid.events evidence hold
          · rw [List.mem_singleton.mp hlast]
            exact hid
      · exact h.policy other
          (hpolicies ▸ List.mem_append_right _ (List.mem_cons_of_mem _ hback))
    · have hsenders : (updateFirst (isPolicyOf sender) (chargePolicy adapterEventId now)
          policies).map (fun policy => policy.authenticatedSender) =
            policies.map fun policy => policy.authenticatedSender :=
        map_updateFirst _ fun _ _ => rfl
      rw [hsenders]
      exact h.senders
    · rw [hids.nodup_iff, List.nodup_cons]
      exact ⟨hfree, h.charged⟩
    · have hsum : chargedTotal (updateFirst (isPolicyOf sender) (chargePolicy adapterEventId now)
          policies) = chargedTotal policies + 1 := by
        rw [hchange, hpolicies, chargedTotal, chargedTotal, List.map_append, List.map_append,
          List.sum_append, List.sum_append, List.map_cons, List.map_cons, List.sum_cons,
          List.sum_cons, hlength]
        omega
      rw [hsum]
      exact htotal

end Policies

end InboundQuarantine

end Hivra
