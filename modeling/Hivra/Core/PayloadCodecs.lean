import Hivra.Core.StarterPayloads

namespace Hivra

open ByteString

/-!
# What the payload codecs keep

Each payload is written as its fields one after another, an optional key last, and read by its
length.  Read back, it is the same, but for the one payload with two optional keys: its second
key is written behind the first one only.

* `codecs_agree` — which payloads are read back, and which bytes are written again.
-/

/-- A payload that is written to bytes and read from them. -/
class EventPayload (P : Type) where
  kind : EventKind
  toBytes : P → List UInt8
  fromBytes : List UInt8 → Except String P

instance : EventPayload CapsuleCreatedPayload :=
  ⟨.capsuleCreated, CapsuleCreatedPayload.toBytes, CapsuleCreatedPayload.fromBytes⟩

instance : EventPayload InvitationSentPayload :=
  ⟨.invitationSent, InvitationSentPayload.toBytes, InvitationSentPayload.fromBytes⟩

instance : EventPayload InvitationAcceptedPayload :=
  ⟨.invitationAccepted, InvitationAcceptedPayload.toBytes, InvitationAcceptedPayload.fromBytes⟩

instance : EventPayload InvitationRejectedPayload :=
  ⟨.invitationRejected, InvitationRejectedPayload.toBytes, InvitationRejectedPayload.fromBytes⟩

instance : EventPayload InvitationExpiredPayload :=
  ⟨.invitationExpired, InvitationExpiredPayload.toBytes, InvitationExpiredPayload.fromBytes⟩

instance : EventPayload StarterCreatedPayload :=
  ⟨.starterCreated, StarterCreatedPayload.toBytes, StarterCreatedPayload.fromBytes⟩

instance : EventPayload StarterBurnedPayload :=
  ⟨.starterBurned, StarterBurnedPayload.toBytes, StarterBurnedPayload.fromBytes⟩

instance : EventPayload RelationshipEstablishedPayload :=
  ⟨.relationshipEstablished, RelationshipEstablishedPayload.toBytes,
    RelationshipEstablishedPayload.fromBytes⟩

instance : EventPayload RelationshipBrokenPayload :=
  ⟨.relationshipBroken, RelationshipBrokenPayload.toBytes, RelationshipBrokenPayload.fromBytes⟩

/-- What is written for a payload is read as that payload. -/
def ReadsBack {P : Type} [EventPayload P] (payload : P) : Prop :=
  EventPayload.fromBytes (EventPayload.toBytes payload) = .ok payload

/-- Bytes that are read are what is written for the payload they are read as. -/
def Canonical (P : Type) [EventPayload P] : Prop :=
  ∀ bytes (payload : P), EventPayload.fromBytes bytes = .ok payload →
    EventPayload.toBytes payload = bytes

/-! ### Fields put together again -/

variable {bytes : List UInt8}

/-- A field and what comes after it. -/
theorem readFixed32_append_drop {start : ℕ} (h : start + 32 ≤ bytes.length) :
    (readFixed32 bytes start).toList ++ bytes.drop (start + 32) = bytes.drop start := by
  have hlen : 32 ≤ (bytes.drop start).length := by rw [List.length_drop]; omega
  show (bytes.drop start).takeD 32 0 ++ _ = _
  rw [List.takeD_eq_take 0 hlen, ← List.drop_drop, List.take_append_drop]

theorem byteAt_cons_drop {i : ℕ} (h : i < bytes.length) :
    byteAt bytes i :: bytes.drop (i + 1) = bytes.drop i := by
  rw [byteAt, List.getD_eq_getElem?_getD, List.getElem?_eq_getElem h]
  exact (List.drop_eq_getElem_cons h).symm

/-- An optional key at the end, for both lengths. -/
theorem optionalKeyBytes_read {start : ℕ} (h : bytes.length = start ∨ bytes.length = start + 32) :
    optionalKeyBytes (readOptionalKey bytes (start + 32) start) = bytes.drop start := by
  unfold readOptionalKey
  rcases h with h | h
  · rw [if_neg (by omega), List.drop_eq_nil_of_le (by omega)]
    rfl
  · have hfield := readFixed32_append_drop (le_of_eq h.symm)
    rw [List.drop_eq_nil_of_le (by omega), List.append_nil] at hfield
    rw [if_pos (by omega)]
    exact hfield

variable {value : UInt8}

theorem fromU8_eq_some {kind : StarterKind} (h : StarterKind.fromU8 value = some kind) :
    kind.toByte = value := by
  unfold StarterKind.fromU8 at h
  split at h <;> first | (obtain rfl := Option.some.inj h; rfl) | exact nomatch h

theorem kindOr_ok {message : String} {kind : StarterKind} (h : kindOr message value = .ok kind) :
    kind.toByte = value := by
  unfold kindOr at h
  split at h
  · next hkind =>
    obtain rfl := Except.ok.inj h
    exact fromU8_eq_some hkind
  · exact nomatch h

theorem rejectReason_ok {reason : RejectReason} (h : RejectReason.fromU8 value = .ok reason) :
    reason.toByte = value := by
  unfold RejectReason.fromU8 at h
  split at h <;> first | (obtain rfl := Except.ok.inj h; rfl) | exact nomatch h

/-! ### What is read is written again -/

theorem CapsuleCreatedPayload.canonical : Canonical CapsuleCreatedPayload := by
  intro bytes payload h
  replace h : CapsuleCreatedPayload.fromBytes bytes = .ok payload := h
  unfold CapsuleCreatedPayload.fromBytes at h
  split_ifs at h with hlen
  obtain rfl := Except.ok.inj h
  have hfirst := byteAt_cons_drop (show 0 < bytes.length by omega)
  have hsecond := byteAt_cons_drop (show 1 < bytes.length by omega)
  rw [List.drop_eq_nil_of_le (by omega)] at hsecond
  show [byteAt bytes 0, byteAt bytes 1] = bytes
  rw [hsecond]
  exact hfirst

theorem InvitationAcceptedPayload.canonical : Canonical InvitationAcceptedPayload := by
  intro bytes payload h
  obtain ⟨hlen, rfl⟩ := InvitationAcceptedPayload.fromBytes_ok.mp h
  show (readFixed32 bytes 0).toList ++ (readFixed32 bytes 32).toList ++
    (readFixed32 bytes 64).toList ++ optionalKeyBytes (readOptionalKey bytes 128 96) = bytes
  rw [optionalKeyBytes_read hlen, List.append_assoc, List.append_assoc,
    readFixed32_append_drop (by omega), readFixed32_append_drop (by omega),
    readFixed32_append_drop (by omega), List.drop_zero]

theorem InvitationRejectedPayload.canonical : Canonical InvitationRejectedPayload := by
  intro bytes payload h
  obtain ⟨hlen, hreason, hid⟩ := InvitationRejectedPayload.fromBytes_ok.mp h
  have hlast := byteAt_cons_drop (show 32 < bytes.length by omega)
  rw [List.drop_eq_nil_of_le (by omega)] at hlast
  show payload.invitationId.toList ++ [payload.reason.toByte] = bytes
  rw [hid, rejectReason_ok hreason, hlast, readFixed32_append_drop (by omega), List.drop_zero]

theorem InvitationExpiredPayload.canonical : Canonical InvitationExpiredPayload := by
  intro bytes payload h
  obtain ⟨hlen, rfl⟩ := InvitationExpiredPayload.fromBytes_ok.mp h
  have hfield := readFixed32_append_drop (show 0 + 32 ≤ bytes.length by omega)
  rw [List.drop_eq_nil_of_le (by omega), List.append_nil] at hfield
  exact hfield

theorem StarterCreatedPayload.canonical : Canonical StarterCreatedPayload := by
  intro bytes payload h
  replace h : StarterCreatedPayload.fromBytes bytes = .ok payload := h
  unfold StarterCreatedPayload.fromBytes at h
  split_ifs at h with hlen
  cases hkind : kindOr "invalid starter kind" (byteAt bytes 64) with
  | error message => rw [hkind] at h; exact nomatch h
  | ok kind =>
    rw [hkind] at h
    obtain rfl := Except.ok.inj h
    have hlast := byteAt_cons_drop (show 65 < bytes.length by omega)
    rw [List.drop_eq_nil_of_le (by omega)] at hlast
    show (readFixed32 bytes 0).toList ++ (readFixed32 bytes 32).toList ++
      [kind.toByte, byteAt bytes 65] = bytes
    rw [kindOr_ok hkind, hlast, byteAt_cons_drop (by omega), List.append_assoc,
      readFixed32_append_drop (by omega), readFixed32_append_drop (by omega), List.drop_zero]

theorem StarterBurnedPayload.canonical : Canonical StarterBurnedPayload := by
  intro bytes payload h
  replace h : StarterBurnedPayload.fromBytes bytes = .ok payload := h
  unfold StarterBurnedPayload.fromBytes at h
  split_ifs at h with hlen
  obtain rfl := Except.ok.inj h
  have hlast := byteAt_cons_drop (show 32 < bytes.length by omega)
  rw [List.drop_eq_nil_of_le (by omega)] at hlast
  show (readFixed32 bytes 0).toList ++ [byteAt bytes 32] = bytes
  rw [hlast, readFixed32_append_drop (by omega), List.drop_zero]

variable {payload : RelationshipEstablishedPayload}

/-- The roots of a relationship, for each of the three lengths. -/
theorem RelationshipEstablishedPayload.rootBytes_read
    (hlen : bytes.length = 194 ∨ bytes.length = 226 ∨ bytes.length = 258)
    (hpeer : payload.peerRootPubkey = readOptionalKey bytes 226 194)
    (hsender : payload.senderRootPubkey = readOptionalKey bytes 258 226) :
    payload.rootBytes = bytes.drop 194 := by
  unfold rootBytes
  by_cases hshort : bytes.length = 194
  · rw [hpeer, readOptionalKey, if_neg (by omega), List.drop_eq_nil_of_le (by omega)]
  · have hlong : bytes.length = 226 ∨ bytes.length = 226 + 32 := by omega
    rw [hpeer, hsender, readOptionalKey, if_pos (by omega)]
    show (readFixed32 bytes 194).toList ++ optionalKeyBytes _ = _
    rw [optionalKeyBytes_read hlong, readFixed32_append_drop (by omega)]

theorem RelationshipEstablishedPayload.canonical : Canonical RelationshipEstablishedPayload := by
  intro bytes payload h
  replace h : RelationshipEstablishedPayload.fromBytes bytes = .ok payload := h
  unfold RelationshipEstablishedPayload.fromBytes at h
  split_ifs at h with hlen
  have hlen : bytes.length = 194 ∨ bytes.length = 226 ∨ bytes.length = 258 := by omega
  cases hkind : kindOr "invalid starter kind" (byteAt bytes 96) with
  | error message => rw [hkind] at h; exact nomatch h
  | ok kind =>
    cases hsender : kindOr "invalid sender starter kind" (byteAt bytes 161) with
    | error message => rw [hkind, hsender] at h; exact nomatch h
    | ok senderKind =>
      rw [hkind, hsender] at h
      replace h := Except.ok.inj h
      have hroots : payload.rootBytes = bytes.drop 194 :=
        rootBytes_read hlen (by rw [← h]) (by rw [← h])
      show payload.baseBytes ++ payload.rootBytes = bytes
      rw [hroots, ← h]
      show (readFixed32 bytes 0).toList ++ (readFixed32 bytes 32).toList ++
        (readFixed32 bytes 64).toList ++ [kind.toByte] ++ (readFixed32 bytes 97).toList ++
        (readFixed32 bytes 129).toList ++ [senderKind.toByte] ++
        (readFixed32 bytes 162).toList ++ bytes.drop 194 = bytes
      simp only [List.append_assoc, List.nil_append, List.cons_append, kindOr_ok hkind,
        kindOr_ok hsender]
      rw [readFixed32_append_drop (by omega), byteAt_cons_drop (by omega),
        readFixed32_append_drop (by omega), readFixed32_append_drop (by omega),
        byteAt_cons_drop (by omega), readFixed32_append_drop (by omega),
        readFixed32_append_drop (by omega), readFixed32_append_drop (by omega), List.drop_zero]

theorem RelationshipBrokenPayload.canonical : Canonical RelationshipBrokenPayload := by
  intro bytes payload h
  replace h : RelationshipBrokenPayload.fromBytes bytes = .ok payload := h
  unfold RelationshipBrokenPayload.fromBytes at h
  split_ifs at h with hlen
  have hlen : bytes.length = 64 ∨ bytes.length = 64 + 32 := by omega
  obtain rfl := Except.ok.inj h
  show (readFixed32 bytes 0).toList ++ (readFixed32 bytes 32).toList ++
    optionalKeyBytes (readOptionalKey bytes 96 64) = bytes
  rw [optionalKeyBytes_read hlen, List.append_assoc, readFixed32_append_drop (by omega),
    readFixed32_append_drop (by omega), List.drop_zero]

/-! ### The two roots of a relationship -/

/-- A sender root without a peer root is not written. -/
theorem RelationshipEstablishedPayload.toBytes_without_peer_root
    (h : payload.peerRootPubkey = none) :
    payload.toBytes = { payload with senderRootPubkey := none }.toBytes := by
  unfold toBytes rootBytes
  rw [h]
  rfl

/-- **What is read of a relationship**: the sender root is gone where there is no peer root. -/
theorem RelationshipEstablishedPayload.fromBytes_without_peer_root
    (h : payload.peerRootPubkey = none) :
    fromBytes payload.toBytes = .ok { payload with senderRootPubkey := none } := by
  rw [toBytes_without_peer_root h]
  exact fromBytes_toBytes _ fun _ => rfl

theorem RelationshipEstablishedPayload.readsBack_iff (payload : RelationshipEstablishedPayload) :
    ReadsBack payload ↔ (payload.peerRootPubkey = none → payload.senderRootPubkey = none) := by
  constructor
  · intro h hpeer
    replace h : fromBytes payload.toBytes = .ok payload := h
    have hsame := Except.ok.inj ((fromBytes_without_peer_root hpeer).symm.trans h)
    rw [← hsame]
  · exact fun h => fromBytes_toBytes payload h

/-! ### All payloads -/

/-- What the nine payloads keep: each is read back, a relationship if it has no sender root
    without a peer root; and what is read is written again, offers with more than their fields
    apart. -/
structure CodecsAgree : Prop where
  capsuleCreated : ∀ payload : CapsuleCreatedPayload, ReadsBack payload
  invitationSent : ∀ payload : InvitationSentPayload, ReadsBack payload
  invitationAccepted : ∀ payload : InvitationAcceptedPayload, ReadsBack payload
  invitationRejected : ∀ payload : InvitationRejectedPayload, ReadsBack payload
  invitationExpired : ∀ payload : InvitationExpiredPayload, ReadsBack payload
  starterCreated : ∀ payload : StarterCreatedPayload, ReadsBack payload
  starterBurned : ∀ payload : StarterBurnedPayload, ReadsBack payload
  relationshipEstablished : ∀ payload : RelationshipEstablishedPayload,
    ReadsBack payload ↔ (payload.peerRootPubkey = none → payload.senderRootPubkey = none)
  withoutPeerRoot : ∀ payload : RelationshipEstablishedPayload, payload.peerRootPubkey = none →
    RelationshipEstablishedPayload.fromBytes payload.toBytes =
      .ok { payload with senderRootPubkey := none }
  relationshipBroken : ∀ payload : RelationshipBrokenPayload, ReadsBack payload
  canonicalCapsuleCreated : Canonical CapsuleCreatedPayload
  canonicalInvitationAccepted : Canonical InvitationAcceptedPayload
  canonicalInvitationRejected : Canonical InvitationRejectedPayload
  canonicalInvitationExpired : Canonical InvitationExpiredPayload
  canonicalStarterCreated : Canonical StarterCreatedPayload
  canonicalStarterBurned : Canonical StarterBurnedPayload
  canonicalRelationshipEstablished : Canonical RelationshipEstablishedPayload
  canonicalRelationshipBroken : Canonical RelationshipBrokenPayload

/-- **The payload codecs.** -/
theorem codecs_agree : CodecsAgree where
  capsuleCreated := CapsuleCreatedPayload.fromBytes_toBytes
  invitationSent := InvitationSentPayload.fromBytes_toBytes
  invitationAccepted := InvitationAcceptedPayload.fromBytes_toBytes
  invitationRejected := InvitationRejectedPayload.fromBytes_toBytes
  invitationExpired := InvitationExpiredPayload.fromBytes_toBytes
  starterCreated := StarterCreatedPayload.fromBytes_toBytes
  starterBurned := StarterBurnedPayload.fromBytes_toBytes
  relationshipEstablished := RelationshipEstablishedPayload.readsBack_iff
  withoutPeerRoot := fun _ => RelationshipEstablishedPayload.fromBytes_without_peer_root
  relationshipBroken := RelationshipBrokenPayload.fromBytes_toBytes
  canonicalCapsuleCreated := CapsuleCreatedPayload.canonical
  canonicalInvitationAccepted := InvitationAcceptedPayload.canonical
  canonicalInvitationRejected := InvitationRejectedPayload.canonical
  canonicalInvitationExpired := InvitationExpiredPayload.canonical
  canonicalStarterCreated := StarterCreatedPayload.canonical
  canonicalStarterBurned := StarterBurnedPayload.canonical
  canonicalRelationshipEstablished := RelationshipEstablishedPayload.canonical
  canonicalRelationshipBroken := RelationshipBrokenPayload.canonical

/-- A relationship with a sender root and no peer root. -/
def senderRootAlone : RelationshipEstablishedPayload where
  peerPubkey := ⟨fill 32 1⟩
  ownStarterId := ⟨fill 32 2⟩
  peerStarterId := ⟨fill 32 3⟩
  kind := .seed
  invitationId := fill 32 4
  senderPubkey := ⟨fill 32 5⟩
  senderStarterType := .seed
  senderStarterId := ⟨fill 32 2⟩
  peerRootPubkey := none
  senderRootPubkey := some ⟨fill 32 5⟩

/-- **Counterexample.**  A sender root without a peer root is lost. -/
theorem sender_root_lost : ¬ ReadsBack senderRootAlone := by
  intro h
  have hgone := (RelationshipEstablishedPayload.readsBack_iff senderRootAlone).mp h rfl
  exact nomatch hgone

end Hivra
