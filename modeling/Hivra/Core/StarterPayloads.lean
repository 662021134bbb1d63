import Hivra.Core.EventPayloads

namespace Hivra

open ByteString

/-!
# Starter and relationship payloads

The payloads that create and burn starters and that open and break relationships.

* `StarterCreatedPayload.fromBytes_toBytes` and its siblings — round trips.
* `RelationshipEstablishedPayload.fromBytes_toBytes` — the round trip needs that a
  sender root is never written without a peer root, since only the length tells
  the two optional keys apart.
-/

/-- The error text a missing starter kind is reported with. -/
def kindOr (message : String) (value : UInt8) : Except String StarterKind :=
  match StarterKind.fromU8 value with
  | some kind => .ok kind
  | none => .error message

@[simp] theorem kindOr_toByte (message : String) (kind : StarterKind) :
    kindOr message kind.toByte = .ok kind := by
  simp [kindOr]

structure StarterCreatedPayload where
  starterId : StarterId
  nonce : Bytes 32
  kind : StarterKind
  network : UInt8
  deriving DecidableEq

namespace StarterCreatedPayload

def toBytes (payload : StarterCreatedPayload) : List UInt8 :=
  payload.starterId.bytes.toList ++ payload.nonce.toList ++
    [payload.kind.toByte, payload.network]

def fromBytes (bytes : List UInt8) : Except String StarterCreatedPayload :=
  if bytes.length ≠ 66 then
    .error "invalid starter_created payload length"
  else do
    let kind ← kindOr "invalid starter kind" (byteAt bytes 64)
    .ok {
      starterId := ⟨readFixed32 bytes 0⟩
      nonce := readFixed32 bytes 32
      kind := kind
      network := byteAt bytes 65 }

theorem fromBytes_toBytes (payload : StarterCreatedPayload) :
    fromBytes payload.toBytes = .ok payload := by
  obtain ⟨⟨id⟩, nonce, kind, network⟩ := payload
  have hid := readFixed32_append 0 [] (nonce.toList ++ [kind.toByte, network]) id rfl
  have hnonce := readFixed32_append 32 id.toList [kind.toByte, network] nonce (by simp)
  have hkind := byteAt_append (id.toList ++ nonce.toList) [network] kind.toByte
    (show _ = 64 by simp)
  have hnetwork := byteAt_append (id.toList ++ nonce.toList ++ [kind.toByte]) [] network
    (show _ = 65 by simp)
  simp only [List.nil_append, List.append_assoc, List.cons_append] at hid hnonce hkind hnetwork
  simp [fromBytes, toBytes, hid, hnonce, hkind, hnetwork, bind, Except.bind]

end StarterCreatedPayload

structure StarterBurnedPayload where
  starterId : StarterId
  reason : UInt8
  deriving DecidableEq

namespace StarterBurnedPayload

def toBytes (payload : StarterBurnedPayload) : List UInt8 :=
  payload.starterId.bytes.toList ++ [payload.reason]

def fromBytes (bytes : List UInt8) : Except String StarterBurnedPayload :=
  if bytes.length ≠ 33 then
    .error "invalid starter_burned payload length"
  else
    .ok { starterId := ⟨readFixed32 bytes 0⟩, reason := byteAt bytes 32 }

theorem fromBytes_toBytes (payload : StarterBurnedPayload) :
    fromBytes payload.toBytes = .ok payload := by
  obtain ⟨⟨id⟩, reason⟩ := payload
  have hid := readFixed32_append 0 [] [reason] id rfl
  have hreason := byteAt_append id.toList [] reason (show _ = 32 by simp)
  rw [List.nil_append] at hid
  simp [fromBytes, toBytes, hid, hreason]

end StarterBurnedPayload

/-! ### Relationships -/

structure RelationshipEstablishedPayload where
  peerPubkey : PubKey
  ownStarterId : StarterId
  peerStarterId : StarterId
  kind : StarterKind
  invitationId : InvitationId
  senderPubkey : PubKey
  senderStarterType : StarterKind
  senderStarterId : StarterId
  peerRootPubkey : Option PubKey
  senderRootPubkey : Option PubKey
  deriving DecidableEq

namespace RelationshipEstablishedPayload

/-- The mandatory 194 bytes. -/
def baseBytes (payload : RelationshipEstablishedPayload) : List UInt8 :=
  payload.peerPubkey.bytes.toList ++ payload.ownStarterId.bytes.toList ++
    payload.peerStarterId.bytes.toList ++ [payload.kind.toByte] ++
    payload.invitationId.toList ++ payload.senderPubkey.bytes.toList ++
    [payload.senderStarterType.toByte] ++ payload.senderStarterId.bytes.toList

/-- The optional roots; the sender root is written only behind a peer root. -/
def rootBytes (payload : RelationshipEstablishedPayload) : List UInt8 :=
  match payload.peerRootPubkey with
  | some peerRoot => peerRoot.bytes.toList ++ optionalKeyBytes payload.senderRootPubkey
  | none => []

def toBytes (payload : RelationshipEstablishedPayload) : List UInt8 :=
  payload.baseBytes ++ payload.rootBytes

def fromBytes (bytes : List UInt8) : Except String RelationshipEstablishedPayload :=
  if bytes.length ≠ 194 ∧ bytes.length ≠ 226 ∧ bytes.length ≠ 258 then
    .error "invalid relationship_established payload length"
  else do
    let kind ← kindOr "invalid starter kind" (byteAt bytes 96)
    let senderStarterType ← kindOr "invalid sender starter kind" (byteAt bytes 161)
    .ok {
      peerPubkey := ⟨readFixed32 bytes 0⟩
      ownStarterId := ⟨readFixed32 bytes 32⟩
      peerStarterId := ⟨readFixed32 bytes 64⟩
      kind := kind
      invitationId := readFixed32 bytes 97
      senderPubkey := ⟨readFixed32 bytes 129⟩
      senderStarterType := senderStarterType
      senderStarterId := ⟨readFixed32 bytes 162⟩
      peerRootPubkey := readOptionalKey bytes 226 194
      senderRootPubkey := readOptionalKey bytes 258 226 }

@[simp] theorem length_baseBytes (payload : RelationshipEstablishedPayload) :
    payload.baseBytes.length = 194 := by
  simp [baseBytes]

/-- Every mandatory field is read back from a payload that starts with its base. -/
private theorem fields_of_base (payload : RelationshipEstablishedPayload) (rest : List UInt8) :
    let bytes := payload.baseBytes ++ rest
    readFixed32 bytes 0 = payload.peerPubkey.bytes ∧
    readFixed32 bytes 32 = payload.ownStarterId.bytes ∧
    readFixed32 bytes 64 = payload.peerStarterId.bytes ∧
    byteAt bytes 96 = payload.kind.toByte ∧
    readFixed32 bytes 97 = payload.invitationId ∧
    readFixed32 bytes 129 = payload.senderPubkey.bytes ∧
    byteAt bytes 161 = payload.senderStarterType.toByte ∧
    readFixed32 bytes 162 = payload.senderStarterId.bytes := by
  obtain ⟨⟨peer⟩, ⟨own⟩, ⟨peerStarter⟩, kind, id, ⟨sender⟩, senderKind, ⟨senderStarter⟩, _, _⟩ :=
    payload
  simp only [baseBytes, List.append_assoc, List.cons_append, List.nil_append]
  refine ⟨?_, ?_, ?_, ?_, ?_, ?_, ?_, ?_⟩
  · exact readFixed32_append 0 [] _ peer rfl
  · exact readFixed32_append 32 peer.toList _ own (by simp)
  · have h := readFixed32_append 64 (peer.toList ++ own.toList) (kind.toByte :: (id.toList ++
      (sender.toList ++ (senderKind.toByte :: (senderStarter.toList ++ rest))))) peerStarter (by simp)
    simpa only [List.append_assoc] using h
  · have h := byteAt_append (peer.toList ++ own.toList ++ peerStarter.toList) (id.toList ++
      (sender.toList ++ (senderKind.toByte :: (senderStarter.toList ++ rest)))) kind.toByte
      (show _ = 96 by simp)
    simpa only [List.append_assoc] using h
  · have h := readFixed32_append 97 (peer.toList ++ own.toList ++ peerStarter.toList ++
      [kind.toByte]) (sender.toList ++ (senderKind.toByte :: (senderStarter.toList ++ rest))) id
      (by simp)
    simpa only [List.append_assoc, List.cons_append, List.nil_append] using h
  · have h := readFixed32_append 129 (peer.toList ++ own.toList ++ peerStarter.toList ++
      [kind.toByte] ++ id.toList) (senderKind.toByte :: (senderStarter.toList ++ rest)) sender
      (by simp)
    simpa only [List.append_assoc, List.cons_append, List.nil_append] using h
  · have h := byteAt_append (peer.toList ++ own.toList ++ peerStarter.toList ++
      [kind.toByte] ++ id.toList ++ sender.toList) (senderStarter.toList ++ rest)
      senderKind.toByte (show _ = 161 by simp)
    simpa only [List.append_assoc, List.cons_append, List.nil_append] using h
  · have h := readFixed32_append 162 (peer.toList ++ own.toList ++ peerStarter.toList ++
      [kind.toByte] ++ id.toList ++ sender.toList ++ [senderKind.toByte]) rest senderStarter
      (by simp)
    simpa only [List.append_assoc, List.cons_append, List.nil_append] using h

/-- **Round trip.** What `toBytes` writes is read back, as long as a sender root never
    stands without a peer root. -/
theorem fromBytes_toBytes (payload : RelationshipEstablishedPayload)
    (hroots : payload.peerRootPubkey = none → payload.senderRootPubkey = none) :
    fromBytes payload.toBytes = .ok payload := by
  obtain ⟨hpeer, hown, hpeerStarter, hkind, hid, hsender, hsenderKind, hsenderStarter⟩ :=
    fields_of_base payload payload.rootBytes
  have hlen : ¬ (payload.toBytes.length ≠ 194 ∧ payload.toBytes.length ≠ 226 ∧
      payload.toBytes.length ≠ 258) := by
    rcases hp : payload.peerRootPubkey with _ | peerRoot
    · simp [toBytes, rootBytes, hp]
    · rcases hs : payload.senderRootPubkey with _ | senderRoot <;>
        simp [toBytes, rootBytes, hp, hs, optionalKeyBytes]
  have hpeerRoot : readOptionalKey payload.toBytes 226 194 = payload.peerRootPubkey := by
    rcases hp : payload.peerRootPubkey with _ | peerRoot
    · simp [readOptionalKey, toBytes, rootBytes, hp]
    · have hread := readFixed32_append 194 payload.baseBytes
        (optionalKeyBytes payload.senderRootPubkey) peerRoot.bytes (by simp)
      have hmin : 226 ≤ 194 + (32 + if payload.senderRootPubkey.isSome = true then 32 else 0) := by
        omega
      simp [readOptionalKey, toBytes, rootBytes, hp, hread, hmin]
  have hsenderRoot : readOptionalKey payload.toBytes 258 226 = payload.senderRootPubkey := by
    rcases hp : payload.peerRootPubkey with _ | peerRoot
    · simp [readOptionalKey, toBytes, rootBytes, hp, hroots hp]
    · have hread := readOptionalKey_append 258 226 (payload.baseBytes ++ peerRoot.bytes.toList)
        payload.senderRootPubkey (by simp) rfl
      simpa only [toBytes, rootBytes, hp, List.append_assoc] using hread
  unfold fromBytes
  rw [if_neg hlen, hpeerRoot, hsenderRoot]
  simp only [toBytes, hpeer, hown, hpeerStarter, hkind, hid, hsender, hsenderKind,
    hsenderStarter, kindOr_toByte, bind, Except.bind]

end RelationshipEstablishedPayload

structure RelationshipBrokenPayload where
  peerPubkey : PubKey
  ownStarterId : StarterId
  peerRootPubkey : Option PubKey
  deriving DecidableEq

namespace RelationshipBrokenPayload

def toBytes (payload : RelationshipBrokenPayload) : List UInt8 :=
  payload.peerPubkey.bytes.toList ++ payload.ownStarterId.bytes.toList ++
    optionalKeyBytes payload.peerRootPubkey

def fromBytes (bytes : List UInt8) : Except String RelationshipBrokenPayload :=
  if bytes.length ≠ 64 ∧ bytes.length ≠ 96 then
    .error "invalid relationship_broken payload length"
  else
    .ok {
      peerPubkey := ⟨readFixed32 bytes 0⟩
      ownStarterId := ⟨readFixed32 bytes 32⟩
      peerRootPubkey := readOptionalKey bytes 96 64 }

theorem fromBytes_toBytes (payload : RelationshipBrokenPayload) :
    fromBytes payload.toBytes = .ok payload := by
  obtain ⟨⟨peer⟩, ⟨own⟩, root⟩ := payload
  have hpeer := readFixed32_append 0 [] (own.toList ++ optionalKeyBytes root) peer rfl
  have hown := readFixed32_append 32 peer.toList (optionalKeyBytes root) own (by simp)
  have hroot := readOptionalKey_append 96 64 (peer.toList ++ own.toList) root (by simp) rfl
  simp only [List.nil_append, List.append_assoc] at hpeer hown hroot
  have hlen : ¬ ((toBytes ⟨⟨peer⟩, ⟨own⟩, root⟩).length ≠ 64 ∧
      (toBytes ⟨⟨peer⟩, ⟨own⟩, root⟩).length ≠ 96) := by
    cases root <;> simp [toBytes, optionalKeyBytes]
  unfold fromBytes
  rw [if_neg hlen]
  simp only [toBytes, List.append_assoc, hpeer, hown, hroot]

end RelationshipBrokenPayload

end Hivra
