import Hivra.Core.Event

namespace Hivra

open ByteString

/-!
# Binary payload schemas

The fixed-width payloads of the domain events, written and read as the core crate
does: a length check with its error text, then fields cut out at fixed offsets.

* `fromBytes_toBytes` of each payload — what `toBytes` writes is read back.
* `InvitationSentPayload.fromBytes_ok` and its siblings — when a payload parses and
  which bytes become its fields.
-/

/-- The 32 bytes that start at `start`; every caller checks the length first. -/
def readFixed32 (bytes : List UInt8) (start : ℕ) : Bytes 32 := readFixed 32 bytes start

/-- The optional 32-byte key of a payload extended to at least `minLength` bytes. -/
def readOptionalKey (bytes : List UInt8) (minLength start : ℕ) : Option PubKey :=
  if minLength ≤ bytes.length then some ⟨readFixed32 bytes start⟩ else none

/-- The bytes an optional trailing key adds to a payload. -/
def optionalKeyBytes (key : Option PubKey) : List UInt8 :=
  match key with
  | some key => key.bytes.toList
  | none => []

theorem readFixed32_append (start : ℕ) (pre rest : List UInt8) (b : Bytes 32)
    (h : pre.length = start) : readFixed32 (pre ++ (b.toList ++ rest)) start = b :=
  readFixed_append pre rest b h

@[simp] theorem length_optionalKeyBytes (key : Option PubKey) :
    (optionalKeyBytes key).length = if key.isSome then 32 else 0 := by
  cases key <;> simp [optionalKeyBytes]

/-- A trailing key is read back exactly when it was written. -/
theorem readOptionalKey_append (minLength start : ℕ) (pre : List UInt8) (key : Option PubKey)
    (h : pre.length = start) (hmin : minLength = start + 32) :
    readOptionalKey (pre ++ optionalKeyBytes key) minLength start = key := by
  cases key with
  | none =>
    have hlen : ¬ minLength ≤ pre.length := by omega
    simp [readOptionalKey, optionalKeyBytes, hlen]
  | some key =>
    have hlen : minLength ≤ pre.length + 32 := by omega
    have hread := readFixed32_append start pre [] key.bytes h
    rw [List.append_nil] at hread
    simp [readOptionalKey, optionalKeyBytes, hlen, hread]

/-- The reason carried by a rejection. -/
inductive RejectReason
  | emptySlot
  | other
  deriving DecidableEq

namespace RejectReason

def toByte : RejectReason → UInt8
  | emptySlot => 0
  | other => 1

def fromU8 (value : UInt8) : Except String RejectReason :=
  match value with
  | 0 => .ok emptySlot
  | 1 => .ok other
  | _ => .error "invalid reject reason"

@[simp] theorem fromU8_toByte (reason : RejectReason) : fromU8 reason.toByte = .ok reason := by
  cases reason <;> rfl

end RejectReason

/-! ### Capsule creation -/

structure CapsuleCreatedPayload where
  network : UInt8
  capsuleType : UInt8
  deriving DecidableEq

namespace CapsuleCreatedPayload

def toBytes (payload : CapsuleCreatedPayload) : List UInt8 :=
  [payload.network, payload.capsuleType]

def fromBytes (bytes : List UInt8) : Except String CapsuleCreatedPayload :=
  if bytes.length ≠ 2 then
    .error "invalid capsule_created payload length"
  else
    .ok { network := byteAt bytes 0, capsuleType := byteAt bytes 1 }

theorem fromBytes_toBytes (payload : CapsuleCreatedPayload) :
    fromBytes payload.toBytes = .ok payload := rfl

end CapsuleCreatedPayload

/-! ### Invitation offers and terminals -/

/-- The offer payload of both `InvitationSent` and `InvitationReceived`. -/
structure InvitationSentPayload where
  invitationId : InvitationId
  starterId : StarterId
  toPubkey : PubKey
  senderRootPubkey : Option PubKey
  deriving DecidableEq

namespace InvitationSentPayload

def toBytes (payload : InvitationSentPayload) : List UInt8 :=
  payload.invitationId.toList ++ payload.starterId.bytes.toList ++
    payload.toPubkey.bytes.toList ++ optionalKeyBytes payload.senderRootPubkey

/-- The lengths an offer may have: plain, with a kind byte, with the sender root, with
    root and kind, and with the two transport-card extensions. -/
def validLengths : List ℕ := [96, 97, 128, 129, 161, 225]

def fromBytes (bytes : List UInt8) : Except String InvitationSentPayload :=
  if bytes.length ∉ validLengths then
    .error "invalid invitation_sent payload length"
  else
    .ok {
      invitationId := readFixed32 bytes 0
      starterId := ⟨readFixed32 bytes 32⟩
      toPubkey := ⟨readFixed32 bytes 64⟩
      senderRootPubkey := readOptionalKey bytes 128 96 }

/-- When an offer parses, and to what. -/
theorem fromBytes_ok {bytes : List UInt8} {payload : InvitationSentPayload} :
    fromBytes bytes = .ok payload ↔ bytes.length ∈ validLengths ∧
      payload = ⟨readFixed32 bytes 0, ⟨readFixed32 bytes 32⟩, ⟨readFixed32 bytes 64⟩,
        readOptionalKey bytes 128 96⟩ := by
  unfold fromBytes
  by_cases h : bytes.length ∈ validLengths
  · simp [h, eq_comm]
  · simp [h]

theorem fromBytes_toBytes (payload : InvitationSentPayload) :
    fromBytes payload.toBytes = .ok payload := by
  obtain ⟨id, starter, recipient, root⟩ := payload
  refine fromBytes_ok.mpr ⟨?_, ?_⟩
  · cases root <;> simp [toBytes, optionalKeyBytes, validLengths]
  · have hid := readFixed32_append 0 [] (starter.bytes.toList ++
      (recipient.bytes.toList ++ optionalKeyBytes root)) id rfl
    have hstarter := readFixed32_append 32 id.toList
      (recipient.bytes.toList ++ optionalKeyBytes root) starter.bytes (by simp)
    have hto := readFixed32_append 64 (id.toList ++ starter.bytes.toList)
      (optionalKeyBytes root) recipient.bytes (by simp)
    have hroot := readOptionalKey_append 128 96
      (id.toList ++ starter.bytes.toList ++ recipient.bytes.toList) root (by simp) rfl
    simp only [List.nil_append, List.append_assoc] at hid hstarter hto hroot
    simp only [toBytes, List.append_assoc, hid, hstarter, hto, hroot]

end InvitationSentPayload

structure InvitationAcceptedPayload where
  invitationId : InvitationId
  fromPubkey : PubKey
  createdStarterId : StarterId
  accepterRootPubkey : Option PubKey
  deriving DecidableEq

namespace InvitationAcceptedPayload

def toBytes (payload : InvitationAcceptedPayload) : List UInt8 :=
  payload.invitationId.toList ++ payload.fromPubkey.bytes.toList ++
    payload.createdStarterId.bytes.toList ++ optionalKeyBytes payload.accepterRootPubkey

def fromBytes (bytes : List UInt8) : Except String InvitationAcceptedPayload :=
  if bytes.length ≠ 96 ∧ bytes.length ≠ 128 then
    .error "invalid invitation_accepted payload length"
  else
    .ok {
      invitationId := readFixed32 bytes 0
      fromPubkey := ⟨readFixed32 bytes 32⟩
      createdStarterId := ⟨readFixed32 bytes 64⟩
      accepterRootPubkey := readOptionalKey bytes 128 96 }

/-- When an acceptance parses, and to what. -/
theorem fromBytes_ok {bytes : List UInt8} {payload : InvitationAcceptedPayload} :
    fromBytes bytes = .ok payload ↔ (bytes.length = 96 ∨ bytes.length = 128) ∧
      payload = ⟨readFixed32 bytes 0, ⟨readFixed32 bytes 32⟩, ⟨readFixed32 bytes 64⟩,
        readOptionalKey bytes 128 96⟩ := by
  unfold fromBytes
  by_cases h : bytes.length ≠ 96 ∧ bytes.length ≠ 128
  · rw [if_pos h]
    simp [h.1, h.2]
  · rw [if_neg h]
    have h' : bytes.length = 96 ∨ bytes.length = 128 := by omega
    simp [h', eq_comm]

theorem fromBytes_toBytes (payload : InvitationAcceptedPayload) :
    fromBytes payload.toBytes = .ok payload := by
  obtain ⟨id, sender, starter, root⟩ := payload
  refine fromBytes_ok.mpr ⟨?_, ?_⟩
  · cases root <;> simp [toBytes, optionalKeyBytes]
  · have hid := readFixed32_append 0 [] (sender.bytes.toList ++
      (starter.bytes.toList ++ optionalKeyBytes root)) id rfl
    have hfrom := readFixed32_append 32 id.toList
      (starter.bytes.toList ++ optionalKeyBytes root) sender.bytes (by simp)
    have hstarter := readFixed32_append 64 (id.toList ++ sender.bytes.toList)
      (optionalKeyBytes root) starter.bytes (by simp)
    have hroot := readOptionalKey_append 128 96
      (id.toList ++ sender.bytes.toList ++ starter.bytes.toList) root (by simp) rfl
    simp only [List.nil_append, List.append_assoc] at hid hfrom hstarter hroot
    simp only [toBytes, List.append_assoc, hid, hfrom, hstarter, hroot]

end InvitationAcceptedPayload

structure InvitationRejectedPayload where
  invitationId : InvitationId
  reason : RejectReason
  deriving DecidableEq

namespace InvitationRejectedPayload

def toBytes (payload : InvitationRejectedPayload) : List UInt8 :=
  payload.invitationId.toList ++ [payload.reason.toByte]

def fromBytes (bytes : List UInt8) : Except String InvitationRejectedPayload :=
  if bytes.length ≠ 33 then
    .error "invalid invitation_rejected payload length"
  else do
    let reason ← RejectReason.fromU8 (byteAt bytes 32)
    .ok { invitationId := readFixed32 bytes 0, reason := reason }

/-- A parsed rejection carries the first 32 bytes as its invitation. -/
theorem fromBytes_ok {bytes : List UInt8} {payload : InvitationRejectedPayload} :
    fromBytes bytes = .ok payload ↔ bytes.length = 33 ∧
      RejectReason.fromU8 (byteAt bytes 32) = .ok payload.reason ∧
      payload.invitationId = readFixed32 bytes 0 := by
  obtain ⟨id, reason⟩ := payload
  unfold fromBytes
  by_cases h : bytes.length = 33
  · rw [if_neg (by simpa using h)]
    cases hreason : RejectReason.fromU8 (byteAt bytes 32) with
    | error message => simp [bind, Except.bind]
    | ok r => simp [bind, Except.bind, h, and_comm, eq_comm]
  · simp [h]

theorem fromBytes_toBytes (payload : InvitationRejectedPayload) :
    fromBytes payload.toBytes = .ok payload := by
  obtain ⟨id, reason⟩ := payload
  have hbyte : byteAt (toBytes ⟨id, reason⟩) 32 = reason.toByte :=
    byteAt_append id.toList [] reason.toByte (by simp)
  have hid : readFixed32 (toBytes ⟨id, reason⟩) 0 = id :=
    readFixed32_append 0 [] [reason.toByte] id rfl
  refine fromBytes_ok.mpr ⟨by simp [toBytes], ?_, hid.symm⟩
  rw [hbyte, RejectReason.fromU8_toByte]

end InvitationRejectedPayload

structure InvitationExpiredPayload where
  invitationId : InvitationId
  deriving DecidableEq

namespace InvitationExpiredPayload

def toBytes (payload : InvitationExpiredPayload) : List UInt8 := payload.invitationId.toList

def fromBytes (bytes : List UInt8) : Except String InvitationExpiredPayload :=
  if bytes.length ≠ 32 then
    .error "invalid invitation_expired payload length"
  else
    .ok { invitationId := readFixed32 bytes 0 }

/-- An expiry is the 32 bytes of its invitation and nothing else. -/
theorem fromBytes_ok {bytes : List UInt8} {payload : InvitationExpiredPayload} :
    fromBytes bytes = .ok payload ↔ bytes.length = 32 ∧ payload = ⟨readFixed32 bytes 0⟩ := by
  unfold fromBytes
  by_cases h : bytes.length = 32
  · simp [h, eq_comm]
  · simp [h]

theorem fromBytes_toBytes (payload : InvitationExpiredPayload) :
    fromBytes payload.toBytes = .ok payload := by
  obtain ⟨id⟩ := payload
  have hid := readFixed32_append 0 [] [] id rfl
  rw [List.nil_append, List.append_nil] at hid
  exact fromBytes_ok.mpr ⟨by simp [toBytes], by rw [toBytes, hid]⟩

end InvitationExpiredPayload

end Hivra
