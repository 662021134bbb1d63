import Hivra.Ffi.QuarantineCalls
import Hivra.Lib.TokenBucket

namespace Hivra

open Replay TokenBucket

/-!
# The rate of a sender

The permits of a sender are a token bucket: a burst of eight, and one more every fifteen seconds.
When there is no room for the policy of a new sender, one goes that is full and has no charge to
remember; if its sender comes back it starts with a full one.

* `Accounted.maintain`, `Accounted.senderPolicy`, `Accounted.decide` — each part of a call.
* `sender_rate` — what holds after any calls.
-/

namespace InboundQuarantine

/-- A call of the sender policy. -/
structure PolicyCall where
  outside : Outside
  adapterEventId : String
  observedBy : List String
  envelope : DeliveryEnvelope
  now : UInt64
  deriving DecidableEq

def PolicyCall.perform (call : PolicyCall) (repository : CapsuleInboundQuarantineRepository) :
    Except QuarantineError SenderIngressDecision × CapsuleInboundQuarantineRepository :=
  applySenderPolicy call.outside repository call.adapterEventId call.observedBy call.envelope
    call.now

/-- The calls at which a sender is given a permit. -/
def permitsOf (sender : String) : CapsuleInboundQuarantineRepository → List PolicyCall →
    List PolicyCall
  | _, [] => []
  | repository, call :: rest =>
    let (answer, after) := call.perform repository
    (if answer = .ok .permit ∧ authenticatedSenderOf call.envelope = sender then [call] else []) ++
      permitsOf sender after rest

/-! ### A policy as a bucket -/

def SenderIngressPolicyV1.bucket (policy : SenderIngressPolicyV1) : Bucket where
  available := policy.availablePermits.toNat
  checkpoint := policy.lastRefillAt.toNat

variable {policy : SenderIngressPolicyV1}

/-- The refill of a policy is the refill of its bucket; no sum in it is too large. -/
theorem bucket_maintain (now : UInt64) (h : policy.bucket.available ≤ 8) :
    (maintainPolicy now policy).bucket = policy.bucket.refill 8 15 now.toNat := by
  have hnow := now.toNat_lt
  have hlast := policy.lastRefillAt.toNat_lt
  have helapsed := toNat_saturatingSub now policy.lastRefillAt
  have hsecs : senderPolicyRefillSecs.toNat = 15 := rfl
  have hrefill : (saturatingSub now policy.lastRefillAt / senderPolicyRefillSecs).toNat =
      (now.toNat - policy.lastRefillAt.toNat) / 15 := by
    rw [UInt64.toNat_div, helapsed, hsecs]
  have hpaid : (saturatingSub now policy.lastRefillAt / senderPolicyRefillSecs *
      senderPolicyRefillSecs).toNat = (now.toNat - policy.lastRefillAt.toNat) / 15 * 15 := by
    rw [UInt64.toNat_mul, hrefill, hsecs]
    omega
  change policy.availablePermits.toNat ≤ 8 at h
  unfold maintainPolicy
  dsimp only
  split_ifs with hpos
  · show Bucket.mk (refilled _ _).toNat (saturatingAdd _ _).toNat = Bucket.mk (min _ _) _
    rw [toNat_refilled, toNat_saturatingAdd, hrefill, hpaid]
    congr 1
    show min (policy.lastRefillAt.toNat + _) _ =
      policy.lastRefillAt.toNat + (now.toNat - policy.lastRefillAt.toNat) / 15 * 15
    omega
  · -- less than a period has passed
    have hzero : (now.toNat - policy.lastRefillAt.toNat) / 15 = 0 := by
      rw [← hrefill]
      rw [UInt64.lt_iff_toNat_lt] at hpos
      exact Nat.eq_zero_of_not_pos hpos
    show Bucket.mk policy.availablePermits.toNat policy.lastRefillAt.toNat =
      Bucket.mk (min (policy.availablePermits.toNat +
        (now.toNat - policy.lastRefillAt.toNat) / 15) 8)
        (policy.lastRefillAt.toNat + (now.toNat - policy.lastRefillAt.toNat) / 15 * 15)
    rw [hzero]
    congr 1
    omega

theorem bucket_charge {adapterEventId : String} {now : UInt64} (h : policy.availablePermits ≠ 0) :
    (chargePolicy adapterEventId now policy).bucket = policy.bucket.take := by
  have hpos : 1 ≤ policy.availablePermits := by
    rw [UInt8.le_iff_toNat_le]
    exact Nat.one_le_iff_ne_zero.mpr fun hzero => h (UInt8.toNat_inj.mp hzero)
  show Bucket.mk (policy.availablePermits - 1).toNat _ = Bucket.mk _ _
  rw [UInt8.toNat_sub_of_le _ _ hpos]
  rfl

/-! ### The policies of a sender -/

def policiesOf (sender : String) (snapshot : InboundQuarantineSnapshotV1) :
    List SenderIngressPolicyV1 :=
  snapshot.senderPolicies.filter (isPolicyOf sender)

theorem policiesOf_maintain (sender : String) (now : UInt64)
    (snapshot : InboundQuarantineSnapshotV1) :
    policiesOf sender (maintainSenderPolicyState now snapshot) =
      (policiesOf sender snapshot).map (maintainPolicy now) := by
  show (snapshot.senderPolicies.map (maintainPolicy now)).filter (isPolicyOf sender) = _
  rw [List.filter_map, isPolicyOf_maintain]
  rfl

theorem policiesOf_change {sender other : String} (snapshot : InboundQuarantineSnapshotV1)
    {f : SenderIngressPolicyV1 → SenderIngressPolicyV1}
    (hf : ∀ policy, (f policy).authenticatedSender = policy.authenticatedSender) :
    policiesOf sender (snapshot.changePolicy other f) =
      if other = sender then updateFirst (isPolicyOf sender) f (policiesOf sender snapshot)
      else policiesOf sender snapshot := by
  unfold policiesOf InboundQuarantineSnapshotV1.changePolicy
  split_ifs with hother
  · subst hother
    apply filter_updateFirst
    intro policy hpolicy
    rw [isPolicyOf_iff] at hpolicy
    rw [isPolicyOf_iff, isPolicyOf_iff, hf]
    exact ⟨hpolicy, hpolicy⟩
  · apply filter_updateFirst_of_not
    intro policy hpolicy
    rw [isPolicyOf_iff] at hpolicy
    unfold isPolicyOf
    rw [hf, beq_eq_false_iff_ne, hpolicy]
    exact ⟨hother, hother⟩

/-! ### The account of a sender -/

def timesOf (permits : List PolicyCall) : List ℕ := permits.map fun call => call.now.toNat

/-- The evidence of a permit is due at a time. -/
def Remembered (latest : ℕ) (call : PolicyCall) : Prop :=
  latest - call.now.toNat ≤ chargeEvidenceRetentionSecs.toNat

def PolicyCall.evidence (call : PolicyCall) : SenderChargeEvidenceV1 where
  adapterEventId := call.adapterEventId
  chargedAt := call.now

/-- The policy of a sender, or that there is none, accounts for the permits it was given. -/
inductive Accounted (sender : String) (latest : ℕ) (permits : List PolicyCall)
    (snapshot : InboundQuarantineSnapshotV1) : Prop
  | idle (hnone : policiesOf sender snapshot = []) (hidle : Idle 8 15 latest (timesOf permits))
      (hforgotten : ∀ call ∈ permits, ¬ Remembered latest call)
  | kept (policy : SenderIngressPolicyV1) (hone : policiesOf sender snapshot = [policy])
      (hkept : Kept 8 15 latest (timesOf permits) policy.bucket)
      (hevidence : ∀ call ∈ permits, Remembered latest call → call.evidence ∈ policy.chargedEvents)

section Steps

variable {sender : String} {latest : ℕ} {permits : List PolicyCall}
  {snapshot base : InboundQuarantineSnapshotV1} {scope : InboundQuarantineScopeV1} {now : UInt64}

theorem Accounted.bounded (h : Accounted sender latest permits snapshot) :
    Bounded 8 15 (timesOf permits) := by
  cases h with
  | idle hnone hidle hforgotten => exact hidle.bounded
  | kept policy hone hkept hevidence => exact hkept.bounded

variable {call : PolicyCall}

theorem Remembered.anti {later : ℕ} (h : Remembered later call) (hle : latest ≤ later) :
    Remembered latest call := by
  unfold Remembered at h ⊢
  omega

theorem Accounted.mono (h : Accounted sender latest permits snapshot) (hnow : latest ≤ now.toNat) :
    Accounted sender now.toNat permits snapshot := by
  cases h with
  | idle hnone hidle hforgotten =>
    exact .idle hnone (hidle.mono hnow) fun call hcall h => hforgotten call hcall (h.anti hnow)
  | kept policy hone hkept hevidence =>
    exact .kept policy hone (hkept.mono hnow) fun call hcall h =>
      hevidence call hcall (h.anti hnow)

/-- Only the policies of the sender matter. -/
theorem Accounted.congr {snapshot' : InboundQuarantineSnapshotV1}
    (h : Accounted sender latest permits snapshot)
    (heq : policiesOf sender snapshot' = policiesOf sender snapshot) :
    Accounted sender latest permits snapshot' := by
  cases h with
  | idle hnone hidle hforgotten => exact .idle (heq.trans hnone) hidle hforgotten
  | kept policy hone hkept hevidence => exact .kept policy (heq.trans hone) hkept hevidence

theorem Accounted.maintain (h : Accounted sender latest permits snapshot)
    (hnow : latest ≤ now.toNat) :
    Accounted sender now.toNat permits (maintainSenderPolicyState now snapshot) := by
  cases h with
  | idle hnone hidle hforgotten =>
    refine .idle ?_ (hidle.mono hnow) fun call hcall h => hforgotten call hcall (h.anti hnow)
    rw [policiesOf_maintain, hnone]
    rfl
  | kept policy hone hkept hevidence =>
    refine .kept (maintainPolicy now policy) ?_ ?_ ?_
    · rw [policiesOf_maintain, hone]
      rfl
    · rw [bucket_maintain now hkept.available_le]
      exact hkept.refill (by omega) hnow
    · intro call hcall hremembered
      rw [chargedEvents_maintain, List.mem_filter]
      refine ⟨hevidence call hcall (hremembered.anti hnow), decide_eq_true ?_⟩
      rw [UInt64.le_iff_toNat_le, toNat_saturatingSub]
      exact hremembered

/-- A policy that was looked at is behind by less than a period. -/
def Current (now : UInt64) (policy : SenderIngressPolicyV1) : Prop :=
  now.toNat < policy.bucket.checkpoint + 15

/-- The policy that goes has no permit to account for: the sender may come back. -/
theorem Accounted.makeCapacity (h : Accounted sender latest permits snapshot)
    (hroom : makeSenderPolicyCapacity snapshot = .ok base) :
    Accounted sender latest permits base := by
  rcases makeSenderPolicyCapacity_cases hroom with ⟨-, rfl⟩ |
    ⟨front, gone, back, hpolicies, hremovable, rfl⟩
  · exact h
  · have hbefore : policiesOf sender snapshot = front.filter (isPolicyOf sender) ++
        (gone :: back).filter (isPolicyOf sender) := by
      rw [policiesOf, hpolicies, List.filter_append]
    by_cases hgone : isPolicyOf sender gone = true
    · rw [List.filter_cons_of_pos hgone] at hbefore
      cases h with
      | idle hnone hidle hforgotten =>
        rw [hnone] at hbefore
        simp at hbefore
      | kept policy hone hkept hevidence =>
        rw [hone] at hbefore
        have hlength := congrArg List.length hbefore
        simp only [List.length_append, List.length_cons, List.length_nil] at hlength
        have hfront : front.filter (isPolicyOf sender) = [] := List.length_eq_zero_iff.mp (by omega)
        have hback : back.filter (isPolicyOf sender) = [] := List.length_eq_zero_iff.mp (by omega)
        rw [hfront, List.nil_append] at hbefore
        obtain rfl : policy = gone := (List.cons.inj hbefore).1
        -- it is full and has no charge to remember
        rw [removable, Bool.and_eq_true, Bool.and_eq_true, beq_iff_eq] at hremovable
        obtain ⟨⟨hfull, hempty⟩, -⟩ := hremovable
        have hcharged : policy.chargedEvents = [] := List.isEmpty_iff.mp hempty
        refine .idle ?_ (hkept.discard (congrArg UInt8.toNat hfull)) ?_
        · show (front ++ back).filter (isPolicyOf sender) = []
          rw [List.filter_append, hfront, hback]
          rfl
        · intro call hcall hremembered
          have hmem := hevidence call hcall hremembered
          rw [hcharged] at hmem
          exact List.not_mem_nil hmem
    · refine h.congr ?_
      rw [hbefore, List.filter_cons_of_neg hgone]
      exact List.filter_append ..

variable {policy : SenderIngressPolicyV1}

theorem current_of_mem (h : policy ∈ policiesOf sender (maintainSenderPolicyState now snapshot))
    (haccounted : Accounted sender latest permits snapshot) : Current now policy := by
  rw [policiesOf_maintain] at h
  cases haccounted with
  | idle hnone hidle hforgotten =>
    rw [hnone] at h
    cases h
  | kept old hone hkept hevidence =>
    rw [hone, List.map_singleton, List.mem_singleton] at h
    rw [h, Current, bucket_maintain now hkept.available_le]
    exact Bucket.lt_refill 8 (by omega) now.toNat old.bucket

/-- Where a sender sends, it has one policy, and this is the one that is looked at. -/
theorem Accounted.senderPolicy {other : String} (h : Accounted sender latest permits snapshot)
    (hnow : latest ≤ now.toNat)
    (hpolicy : senderPolicy (maintainSenderPolicyState now snapshot) scope other now =
      .ok (base, policy)) :
    Accounted sender now.toNat permits base ∧
      (other = sender → policiesOf sender base = [policy] ∧ Current now policy) := by
  have hmaintained := h.maintain hnow
  rcases senderPolicy_cases hpolicy with ⟨hfind, rfl⟩ | ⟨hfind, rfl, roomy, hroom, rfl⟩
  · refine ⟨hmaintained, ?_⟩
    rintro rfl
    have hhead : (policiesOf other (maintainSenderPolicyState now snapshot)).head? = some policy :=
      List.head?_filter.trans hfind
    have hone : policiesOf other (maintainSenderPolicyState now snapshot) = [policy] := by
      cases hmaintained with
      | idle hnone hidle hforgotten =>
        rw [hnone] at hhead
        cases hhead
      | kept only hone hkept hevidence =>
        rw [hone] at hhead ⊢
        rw [Option.some.inj hhead]
    exact ⟨hone, current_of_mem (by rw [hone]; exact List.mem_singleton_self _) h⟩
  · have hroomy := hmaintained.makeCapacity hroom
    have hpolicies : ∀ name, policiesOf name { roomy with
        senderPolicies := roomy.senderPolicies ++ [newPolicy scope other now] } =
          policiesOf name roomy ++ if other = name then [newPolicy scope other now] else [] := by
      intro name
      show (roomy.senderPolicies ++ [newPolicy scope other now]).filter (isPolicyOf name) = _
      rw [List.filter_append, List.filter_singleton]
      simp [policiesOf, isPolicyOf, newPolicy]
    by_cases hother : other = sender
    · subst hother
      -- the sender has no policy before, and room does not give it one
      have hnone : policiesOf other roomy = [] := by
        have hbefore : policiesOf other (maintainSenderPolicyState now snapshot) = [] :=
          List.filter_eq_nil_iff.mpr (List.find?_eq_none.mp hfind)
        rcases makeSenderPolicyCapacity_cases hroom with ⟨-, rfl⟩ |
          ⟨front, gone, back, heq, -, rfl⟩
        · exact hbefore
        · rw [policiesOf, heq, List.filter_append, List.append_eq_nil_iff] at hbefore
          show (front ++ back).filter (isPolicyOf other) = []
          rw [List.filter_append, hbefore.1, List.nil_append]
          have hback := hbefore.2
          rw [List.filter_cons] at hback
          split_ifs at hback
          exact hback
      have hone := hpolicies other
      rw [hnone, if_pos rfl, List.nil_append] at hone
      refine ⟨?_, fun _ => ⟨hone, ?_⟩⟩
      · cases hroomy with
        | idle _ hidle hforgotten =>
          refine .kept _ hone (hidle.create (by omega)) ?_
          exact fun call hcall hremembered => absurd hremembered (hforgotten call hcall)
        | kept only hsome hkept hevidence =>
          rw [hnone] at hsome
          cases hsome
      · show now.toNat < now.toNat + 15
        omega
    · refine ⟨hroomy.congr ?_, fun h => absurd h hother⟩
      rw [hpolicies, if_neg hother, List.append_nil]

/-- A permit of a sender. -/
theorem Accounted.charge (h : Accounted sender call.now.toNat permits base)
    (hone : policiesOf sender base = [policy]) (hcurrent : Current call.now policy)
    (havailable : policy.availablePermits ≠ 0) :
    Accounted sender call.now.toNat permits
        (base.changePolicy sender (chargePolicy call.adapterEventId call.now)) ∧
      Accounted sender call.now.toNat (permits ++ [call])
        (base.changePolicy sender (chargePolicy call.adapterEventId call.now)) := by
  have hchanged : policiesOf sender
      (base.changePolicy sender (chargePolicy call.adapterEventId call.now)) =
        [chargePolicy call.adapterEventId call.now policy] := by
    have hsender : isPolicyOf sender policy = true :=
      (List.mem_filter.mp (hone ▸ List.mem_singleton_self policy)).2
    have hpolicies := @policiesOf_change sender sender base
      (chargePolicy call.adapterEventId call.now) fun _ => rfl
    rw [hpolicies, if_pos rfl, hone, updateFirst_cons, if_pos hsender]
  have hpos : 0 < policy.bucket.available :=
    Nat.pos_of_ne_zero fun hzero => havailable (UInt8.toNat_inj.mp hzero)
  have hcharged : ∀ evidence, evidence ∈
      (chargePolicy call.adapterEventId call.now policy).chargedEvents ↔
        evidence ∈ policy.chargedEvents ∨ evidence = call.evidence := by
    intro evidence
    show evidence ∈ List.insertionSort _ _ ↔ _
    rw [List.mem_insertionSort, List.mem_append, List.mem_singleton]
    rfl
  cases h with
  | idle hnone hidle hforgotten =>
    rw [hnone] at hone
    cases hone
  | kept only hsome hkept hevidence =>
    rw [hone] at hsome
    obtain rfl : policy = only := (List.cons.inj hsome).1
    constructor
    · refine .kept _ hchanged ?_ ?_
      · rw [bucket_charge havailable]
        exact hkept.waste
      · intro earlier hearlier hremembered
        exact (hcharged _).mpr (.inl (hevidence earlier hearlier hremembered))
    · refine .kept _ hchanged ?_ ?_
      · rw [bucket_charge havailable, timesOf, List.map_append]
        exact hkept.take hpos hcurrent
      · intro earlier hearlier hremembered
        rcases List.mem_append.mp hearlier with hold | hlast
        · exact (hcharged _).mpr (.inl (hevidence earlier hold hremembered))
        · rw [List.mem_singleton.mp hlast]
          exact (hcharged _).mpr (.inr rfl)

/-- A policy that is only touched accounts for the same permits. -/
theorem Accounted.touch {other : String} (h : Accounted sender latest permits snapshot) :
    Accounted sender latest permits (snapshot.changePolicy other (touchPolicy now)) := by
  have hpolicies := @policiesOf_change sender other snapshot (touchPolicy now) fun _ => rfl
  by_cases hother : other = sender
  · rw [if_pos hother] at hpolicies
    cases h with
    | idle hnone hidle hforgotten =>
      refine .idle ?_ hidle hforgotten
      rw [hpolicies, hnone]
      rfl
    | kept policy hone hkept hevidence =>
      have hsender : isPolicyOf sender policy = true :=
        (List.mem_filter.mp (hone ▸ List.mem_singleton_self policy)).2
      refine .kept (touchPolicy now policy) ?_ hkept hevidence
      rw [hpolicies, hone, updateFirst_cons, if_pos hsender]
  · rw [if_neg hother] at hpolicies
    exact h.congr hpolicies

/-- **What a call decides.**  The account goes on, with one more permit if one is given to the
    sender; then no permit for the same event is remembered. -/
theorem Accounted.decide {next : InboundQuarantineSnapshotV1} {decision : SenderIngressDecision}
    {sealed : Except QuarantineError (List UInt8)} (h : Accounted sender latest permits snapshot)
    (hnow : latest ≤ call.now.toNat)
    (hdecide : decideSenderPolicy snapshot scope sealed call.adapterEventId call.observedBy
      call.envelope call.now = .ok (next, decision)) :
    Accounted sender call.now.toNat permits next ∧
      (decision = .permit → authenticatedSenderOf call.envelope = sender →
        Accounted sender call.now.toNat (permits ++ [call]) next ∧
          ∀ earlier ∈ permits, earlier.adapterEventId = call.adapterEventId →
            ¬ Remembered call.now.toNat earlier) := by
  cases (decideSenderPolicy_eq_ok.mp hdecide).2 with
  | seen hknown happend =>
    refine ⟨(h.maintain hnow).congr ?_, fun hpermit => (nomatch hpermit)⟩
    rw [policiesOf, appendQuarantineRecord_senderPolicies happend]
    rfl
  | replayed hunknown hpolicy hcharged =>
    exact ⟨(h.senderPolicy hnow hpolicy).1.touch, fun hpermit => (nomatch hpermit)⟩
  | throttled hunknown hpolicy hnew hnone happend =>
    refine ⟨Accounted.touch ((h.senderPolicy hnow hpolicy).1.congr ?_),
      fun hpermit => (nomatch hpermit)⟩
    rw [policiesOf, appendQuarantineRecord_senderPolicies happend]
    rfl
  | @charged base policy hunknown hpolicy hnew havailable hroom =>
    obtain ⟨hbase, hone⟩ := h.senderPolicy hnow hpolicy
    by_cases hsender : authenticatedSenderOf call.envelope = sender
    · obtain ⟨hone, hcurrent⟩ := hone hsender
      rw [hsender]
      have hcharge := hbase.charge hone hcurrent havailable
      refine ⟨hcharge.1, fun _ _ => ⟨hcharge.2, ?_⟩⟩
      -- evidence that is due would have been found
      intro earlier hearlier hsame hremembered
      cases hbase with
      | idle hnone hidle hforgotten => exact hforgotten earlier hearlier hremembered
      | kept only hsome hkept hevidence =>
        rw [hone] at hsome
        obtain rfl : policy = only := (List.cons.inj hsome).1
        refine hnew (List.mem_map.mpr ⟨earlier.evidence, ?_, hsame⟩)
        exact hevidence earlier hearlier hremembered
    · refine ⟨hbase.congr ?_, fun _ hself => absurd hself hsender⟩
      have hpolicies := @policiesOf_change sender (authenticatedSenderOf call.envelope) base
        (chargePolicy call.adapterEventId call.now) fun _ => rfl
      rw [hpolicies, if_neg hsender]

end Steps

/-! ### Runs -/

/-- Two permits for one event are further apart than its evidence is kept. -/
def Apart (earlier later : PolicyCall) : Prop :=
  earlier.adapterEventId = later.adapterEventId → ¬ Remembered later.now.toNat earlier

theorem Accounted.permits {sender : String} {calls : List PolicyCall} :
    ∀ {repository : CapsuleInboundQuarantineRepository} {latest : ℕ} {given : List PolicyCall},
      Accounted sender latest given repository.snapshot → given.Pairwise Apart →
      (∀ call ∈ calls, latest ≤ call.now.toNat) → calls.Pairwise (fun a b => a.now ≤ b.now) →
      Bounded 8 15 (timesOf (given ++ permitsOf sender repository calls)) ∧
        (given ++ permitsOf sender repository calls).Pairwise Apart := by
  induction calls with
  | nil =>
    intro repository latest given haccounted hapart _ _
    rw [permitsOf, List.append_nil]
    exact ⟨haccounted.bounded, hapart⟩
  | cons call rest ih =>
    intro repository latest given haccounted hapart hlatest hsorted
    obtain ⟨hlater, hrest⟩ := List.pairwise_cons.mp hsorted
    have hnow := hlatest call List.mem_cons_self
    have hnext : ∀ later ∈ rest, call.now.toNat ≤ later.now.toNat := fun later hmem =>
      UInt64.le_iff_toNat_le.mp (hlater later hmem)
    -- a step either gives the sender nothing, or a permit
    have hstep : ∀ given' : List PolicyCall,
        Accounted sender call.now.toNat given' (call.perform repository).2.snapshot →
        given'.Pairwise Apart →
        given' = given ++ (if (call.perform repository).1 = .ok .permit ∧
          authenticatedSenderOf call.envelope = sender then [call] else []) →
        Bounded 8 15 (timesOf (given ++ permitsOf sender repository (call :: rest))) ∧
          (given ++ permitsOf sender repository (call :: rest)).Pairwise Apart := by
      intro given' haccounted' hapart' hgiven'
      have hall : given ++ permitsOf sender repository (call :: rest) =
          given' ++ permitsOf sender (call.perform repository).2 rest := by
        rw [hgiven', List.append_assoc]
        rfl
      rw [hall]
      exact ih haccounted' hapart' hnext hrest
    cases hdecide : decideSenderPolicy repository.snapshot repository.scope call.outside.sealed
        call.adapterEventId call.observedBy call.envelope call.now with
    | error error =>
      have hperform : call.perform repository = (.error error, repository) := by
        rw [PolicyCall.perform, applySenderPolicy, hdecide]
      rw [hperform] at hstep
      refine hstep given (haccounted.mono hnow) hapart ?_
      rw [if_neg fun h => (nomatch h.1), List.append_nil]
    | ok decided =>
      obtain ⟨next, decision⟩ := decided
      obtain ⟨hgoes, hpermit⟩ := haccounted.decide hnow hdecide
      have hperform : call.perform repository =
          replaceAndPersist call.outside repository next decision := by
        rw [PolicyCall.perform, applySenderPolicy, hdecide]
      rcases @replaceAndPersist_cases _ call.outside repository next decision with
        ⟨⟨error, hresult⟩, -⟩ | ⟨hresult, -, -⟩
      · rw [hperform, hresult] at hstep
        refine hstep given hgoes hapart ?_
        rw [if_neg fun h => (nomatch h.1), List.append_nil]
      · rw [hperform, hresult] at hstep
        by_cases hgiven : decision = .permit ∧ authenticatedSenderOf call.envelope = sender
        · obtain ⟨rfl, hsender⟩ := hgiven
          obtain ⟨haccounted', hforgotten⟩ := hpermit rfl hsender
          refine hstep (given ++ [call]) haccounted' ?_ ?_
          · rw [List.pairwise_append]
            refine ⟨hapart, List.pairwise_singleton .., ?_⟩
            intro earlier hearlier later hlast
            rw [List.mem_singleton.mp hlast]
            exact hforgotten earlier hearlier
          · rw [if_pos ⟨rfl, hsender⟩]
        · refine hstep given hgoes hapart ?_
          rw [if_neg, List.append_nil]
          exact fun h => hgiven ⟨Except.ok.inj h.1, h.2⟩

theorem within_timesOf (start stop : UInt64) (permits : List PolicyCall) :
    within start.toNat stop.toNat (timesOf permits) =
      permits.countP fun call => decide (start ≤ call.now ∧ call.now ≤ stop) := by
  rw [within, timesOf, List.countP_map]
  rfl

/-- **The rate of a sender.**  Whatever is called, and whatever is sealed and written: in no
    window is a sender given more permits than a burst and one for each period of the window,
    and no event takes two of them while the evidence of the first one is kept. -/
theorem sender_rate (sender : String) (repository : CapsuleInboundQuarantineRepository)
    (calls : List PolicyCall)
    (hfresh : ∀ policy ∈ repository.snapshot.senderPolicies, policy.authenticatedSender ≠ sender)
    (hsorted : calls.Pairwise fun a b => a.now ≤ b.now) :
    (∀ start stop : UInt64, start ≤ stop →
      (permitsOf sender repository calls).countP
          (fun call => decide (start ≤ call.now ∧ call.now ≤ stop)) ≤
        8 + (stop.toNat - start.toNat + 14) / 15) ∧
      (permitsOf sender repository calls).Pairwise fun earlier later =>
        earlier.adapterEventId = later.adapterEventId →
          chargeEvidenceRetentionSecs.toNat < later.now.toNat - earlier.now.toNat := by
  have hnone : policiesOf sender repository.snapshot = [] := by
    rw [policiesOf, List.filter_eq_nil_iff]
    intro policy hpolicy hsender
    exact hfresh policy hpolicy (isPolicyOf_iff.mp hsender)
  have hstart : Accounted sender 0 [] repository.snapshot :=
    .idle hnone (Idle.nil 8 15 0) fun call hcall => (nomatch hcall)
  obtain ⟨hbounded, hapart⟩ :=
    hstart.permits .nil (fun call _ => Nat.zero_le call.now.toNat) hsorted
  rw [List.nil_append] at hbounded hapart
  constructor
  · intro start stop _
    rw [← within_timesOf]
    exact hbounded start.toNat stop.toNat
  · refine hapart.imp ?_
    intro earlier later hlater hsame
    exact Nat.lt_of_not_le (hlater hsame)

/-- An envelope of the sender whose key is zero, and calls for it that are all written. -/
def zeroEnvelope : DeliveryEnvelope where
  fromPubkey := ⟨ByteString.fill 32 0⟩
  toPubkey := ⟨ByteString.fill 32 1⟩
  kind := 1
  payload := []
  timestamp := 0
  domainEvent := none

def zeroCall (adapterEventId : String) (now : UInt64) : PolicyCall where
  outside := ⟨.ok [], .ok ()⟩
  adapterEventId := adapterEventId
  observedBy := []
  envelope := zeroEnvelope
  now := now

def emptyRepository : CapsuleInboundQuarantineRepository where
  scope := ⟨"", 0, ""⟩
  snapshot := ⟨schemaVersion, ⟨"", 0, ""⟩, [], [], []⟩
  stored := none

theorem sender_rate_twice :
    (permitsOf (authenticatedSenderOf zeroEnvelope) emptyRepository
        [zeroCall "a" 0, zeroCall "b" 3, zeroCall "a" 4]).length = 2 ∧
      (permitsOf (authenticatedSenderOf zeroEnvelope) emptyRepository
          [zeroCall "a" 0, zeroCall "b" 3, zeroCall "a" 4]).countP
            (fun call => decide (0 ≤ call.now ∧ call.now ≤ 4)) ≤ 9 :=
  ⟨by decide +kernel,
    (sender_rate (authenticatedSenderOf zeroEnvelope) emptyRepository
      [zeroCall "a" 0, zeroCall "b" 3, zeroCall "a" 4] (fun policy hpolicy => (nomatch hpolicy))
      (by decide)).1 0 4 (by decide)⟩

end InboundQuarantine

end Hivra
