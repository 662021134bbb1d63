import Hivra.Host.AttestationStore
import Hivra.Host.PairPreviews

namespace Hivra

open JsonDocument JsonText Serde

namespace ConsensusAttestationSync

open ConsensusAttestationEvidence ConsensusProcessor

/-!
# The exchange of attestations with a peer

Evidence for the pair with a peer is made here and sent, or received and stored.  Two checks ask
whether both roots have signed what the core shows of the pair now: the guard before an action,
and the exchange, which drains and sends in between.

* `ensureForPeer` — the exchange, around which others may change everything at each await.
-/

/-- A host that signs and verifies commitments. -/
structure SyncHost (Double : Type) extends AttestationHost Double where
  texts : ConsensusTexts
  sha256Hex_hex : ∀ t, isHex 64 (texts.sha256Hex t) = true
  /-- `jsonDecode` of a text, none where it throws. -/
  decodeText : String → Option (DartValue Double)
  /-- The hash a document may have in a form that is not exact. -/
  lossy : Literal → Option UInt64
  /-- Verifies the signature of a digest by a key. -/
  verifyEd25519 : List UInt8 → List UInt8 → List UInt8 → Bool
  signRootDigest32 : List UInt8 → Option (List UInt8)

/-- What the calls read: the capsule of the runtime, whose ledger fits the memory, and the files
    of all capsules. -/
structure World (Double : Type) where
  capsuleRootPublicKey : Option (List UInt8)
  capsuleNostrPublicKey : Option (List UInt8)
  exportLedger : Option Document
  inMemory : ∀ ledgerJson ∈ exportLedger, ∀ lossy ledger,
    parseLedgerJson lossy ledgerJson = .ok ledger → ledger.events.length < 2 ^ 63
  files : String → AttestationStore.StoreFile Double
  relationships : List Relationship
  invitations : List Invitation
  trustedCards : List CapsuleAddressCard
  nowUtc : ℤ

/-- The key of 32 bytes. -/
def key32 (bytes : List UInt8) : Option PubKey :=
  if h : bytes.length = 32 then some ⟨⟨bytes, h⟩⟩ else none

section World

variable {Double : Type} (world : World Double)

def World.localRoot : Option PubKey := world.capsuleRootPublicKey.bind key32

def World.localTransport : Option PubKey := world.capsuleNostrPublicKey.bind key32

def localRootHex : Option String := world.localRoot.map fun key => hexText key.bytes.toList

end World

section Sync

variable {Double : Type} (host : SyncHost Double)

/-- The pair view of the core. -/
def runtimeInputs (world : World Double) : Option (DartValue Double) :=
  match world.exportLedger with
  | none => none
  | some ledgerJson =>
    if world.localTransport.isNone && world.localRoot.isNone then none
    else (hivraProjectPairViewV1 host.lossy world.localTransport ledgerJson).map
      (jsonDecode host.toDartRuntime)

/-- Whether the pair with a peer can be signed; none where the call throws. -/
def signable (world : World Double) (peerHex : String) : Option ConsensusSignableResult :=
  match runtimeInputs host world with
  | none => some ⟨none, [⟨"consensus_runtime_unavailable", none⟩]⟩
  | some pairView => ConsensusProcessor.signable host.toDartViews host.texts (some pairView) peerHex

/-! ### Evidence -/

/-- The bytes of a text of so many bytes. -/
def hexToBytes (value : String) (expectedBytes : ℕ) : Option (List UInt8) :=
  if isHex (expectedBytes * 2) (trimmedLower value) then hexBytes (trimmedLower value).toList
  else none

def verifyConsensusSignature (messageHashHex participantIdHex signatureHex : String) : Bool :=
  match hexToBytes messageHashHex 32, hexToBytes participantIdHex 32,
      hexToBytes signatureHex 64 with
  | some message32, some pubkey32, some signature64 =>
    host.verifyEd25519 message32 pubkey32 signature64
  | _, _, _ => false

def signConsensusCommitment (commitmentHashHex : String) : Option String :=
  ((hexToBytes commitmentHashHex 32).bind host.signRootDigest32).bind fun signature =>
    if signature.length = 64 then some (hexText signature) else none

/-- Whether evidence is that of a root of a pair of the capsule for the commitment of the pair. -/
def verifyEvidence (world : World Double) (evidence : ConsensusAttestationEvidence) : Bool :=
  match localRootHex world with
  | none => false
  | some root =>
    if !evidence.pairRootsSorted.contains root then false
    else
      match evidence.pairRootsSorted.filter fun other => other != root with
      | [otherRoot] =>
        match buildAttestationCommitment host.toDartViews host.texts root otherRoot
            evidence.snapshotHashHex with
        | none => false
        | some commitment =>
          if commitment.commitmentHashHex ≠ evidence.commitmentHashHex ∨
              commitment.pairRootsSorted ≠ evidence.pairRootsSorted.take 2 then false
          else verifyConsensusSignature host evidence.commitmentHashHex evidence.signerRootHex
            evidence.signatureHex
      | _ => false

/-- The evidence for a pair and a snapshot. -/
def matching (evidence : List ConsensusAttestationEvidence) (pairRootsSorted : List String)
    (snapshotHashHex : String) : List ConsensusAttestationEvidence :=
  if pairRootsSorted.length ≠ 2 ∨ isHex 64 (trimmedLower snapshotHashHex) = false then []
  else evidence.filter fun item =>
    item.snapshotHashHex == trimmedLower snapshotHashHex &&
      item.pairRootsSorted == pairRootsSorted.map trimmedLower

/-- The own root and what it signs for the pair with a peer as the core shows it; none outside
    where the call throws. -/
def commitmentFor (world : World Double) (peerRootHex : String) :
    Option (Option (String × ConsensusAttestationCommitment)) :=
  match localRootHex world with
  | none => some none
  | some root =>
    (signable host world peerRootHex).map fun result =>
      result.hashHex.bind fun snapshot =>
        (buildAttestationCommitment host.toDartViews host.texts root peerRootHex snapshot).map
          fun commitment => (root, commitment)

/-- The evidence in store for the pair with a peer as the core shows it before the store is read;
    the signatures are verified after it. -/
def verifiedForPair (before : World Double) (files : String → AttestationStore.StoreFile Double)
    (after : World Double) (peerRootHex : String) : Option (List ConsensusAttestationEvidence) :=
  (commitmentFor host before peerRootHex).map fun found =>
    match found with
    | none => []
    | some (root, commitment) =>
      matching ((AttestationStore.load host.toAttestationHost (files root)).filter
        (verifyEvidence host after)) commitment.pairRootsSorted commitment.snapshotHashHex

/-- All the evidence in store for the pair with a peer. -/
def verifiedPairEvidence (before : World Double)
    (files : String → AttestationStore.StoreFile Double) (after : World Double)
    (peerRootHex : String) : List ConsensusAttestationEvidence :=
  match localRootHex before with
  | none => []
  | some root =>
    let peer := trimmedLower peerRootHex
    if isHex 64 peer = false ∨ peer = root then []
    else
      ((AttestationStore.load host.toAttestationHost (files root)).filter
        (verifyEvidence host after)).filter fun item =>
          item.pairRootsSorted == sortedTexts host.toDartViews [root, peer]

/-- The own evidence for the pair with a peer. -/
def localEvidence (world : World Double) (peerRootHex : String) :
    Option (Option (String × ConsensusAttestationEvidence)) :=
  (commitmentFor host world peerRootHex).map fun found =>
    found.bind fun (root, commitment) =>
      ((signConsensusCommitment host commitment.commitmentHashHex).filter (isHex 128)).bind
        fun signatureHex =>
          let evidence : ConsensusAttestationEvidence := {
            schemaVersion := 1
            pairRootsSorted := commitment.pairRootsSorted
            snapshotHashHex := commitment.snapshotHashHex
            commitmentHashHex := commitment.commitmentHashHex
            signerRootHex := root
            signatureHex := signatureHex
            createdAtUtc := host.toIso8601String world.nowUtc }
          if verifyEvidence host world evidence then some (root, evidence) else none

/-! ### The guard -/

def blocked (own : ConsensusSignableResult) (code : String) : ConsensusSignableResult :=
  ⟨own.preview, own.blockingFacts ++ [⟨code, none⟩]⟩

/-- Whether the pair with a peer can be signed and both roots have signed it. -/
def attestedSignable (before : World Double)
    (files : String → AttestationStore.StoreFile Double) (after : World Double)
    (peerRootHex : String) : Option ConsensusSignableResult :=
  (signable host before peerRootHex).bind fun own =>
    if !own.isSignable then some own
    else
      (verifiedForPair host before files after peerRootHex).map fun evidence =>
        match evidence with
        | [] => blocked own "pair_attestation_missing"
        | first :: _ =>
          let pairRoots := first.pairRootsSorted
          let signers := evidence.map fun item => item.signerRootHex
          let hasExactPair := pairRoots.length == 2 && evidence.all fun item =>
            item.pairRootsSorted.length == 2 && item.pairRootsSorted == pairRoots &&
              some item.snapshotHashHex == own.hashHex
          if hasExactPair && pairRoots.all signers.contains then own
          else blocked own "pair_attestation_incomplete"

/-! ### Both roots -/

/-- What the loop over the evidence has seen. -/
structure Seen where
  signers : List String
  pairRoots : Option (List String)
  snapshotHash : Option String

/-- Evidence for another pair or snapshot than the first is passed over. -/
def Seen.add (seen : Seen) (item : ConsensusAttestationEvidence) : Seen :=
  if item.pairRootsSorted.length ≠ 2 then seen
  else
    let pairRoots := seen.pairRoots.getD item.pairRootsSorted
    let snapshotHash := seen.snapshotHash.getD item.snapshotHashHex
    if pairRoots ≠ item.pairRootsSorted ∨ snapshotHash ≠ item.snapshotHashHex then
      ⟨seen.signers, some pairRoots, some snapshotHash⟩
    else ⟨item.signerRootHex :: seen.signers, some pairRoots, some snapshotHash⟩

def hasTwoRootEvidence (evidence : List ConsensusAttestationEvidence) : Bool :=
  let seen := evidence.foldl Seen.add ⟨[], none, none⟩
  match seen.pairRoots with
  | none => false
  | some pairRoots => pairRoots.all seen.signers.contains

/-! ### The exchange -/

/-- What the worker of a drain answers. -/
structure Drained where
  result : Option ℤ
  json : Option String
  lastError : Option String

/-- What the worker of a delivery answers. -/
structure Sent where
  result : Option ℤ
  lastError : Option String

/-- What is around an exchange: what others do at each await, and what the workers answer. -/
structure Around (Double : Type) where
  await : ℕ → World Double → World Double
  loadWorkerBootstrapArgs : ℕ → Bool
  receiveWorker : ℕ → Drained
  sendWorker : ℕ → ConsensusAttestationEvidence → List UInt8 → Sent

/-- A read of the store: what the call has seen before, and the files it read. -/
structure Read (Double : Type) where
  before : World Double
  files : String → AttestationStore.StoreFile Double

/-- Where an exchange stands. -/
structure Turn (Double : Type) where
  world : World Double
  awaits : ℕ
  reads : List (Read Double)

/-- A call of an exchange; none where it throws. -/
abbrev Exchange (Double α : Type) := StateT (Turn Double) Option α

inductive ExchangeStatus
  | ready
  | syncing
  | blocked
  deriving DecidableEq

structure ExchangeResult where
  status : ExchangeStatus
  message : Option String
  receiveCode : ℤ
  receivedCount : ℕ
  storedCount : ℕ
  mismatchedEvidenceCount : ℕ := 0
  localEvidenceSent : Bool
  sendCode : Option ℤ := none

structure ReceiveResult where
  code : ℤ
  errorMessage : Option String
  receivedCount : ℕ
  storedCount : ℕ
  rejectedCount : ℕ
  acceptedEvidence : List ConsensusAttestationEvidence := []

structure SendResult where
  isSuccess : Bool
  code : ℤ
  errorMessage : Option String
  evidence : Option ConsensusAttestationEvidence

variable (around : Around Double)

def pause : Exchange Double Unit :=
  modify fun turn =>
    { turn with world := around.await turn.awaits turn.world, awaits := turn.awaits + 1 }

def loadVerifiedForPair (peerRootHex : String) :
    Exchange Double (List ConsensusAttestationEvidence) := do
  let before := (← get).world
  pause around
  let files := (← get).world.files
  modify fun turn => { turn with reads := turn.reads ++ [⟨before, files⟩] }
  pause around
  StateT.lift (verifiedForPair host before files (← get).world peerRootHex)

def loadVerifiedPairEvidence (peerRootHex : String) :
    Exchange Double (List ConsensusAttestationEvidence) := do
  let before := (← get).world
  pause around
  let files := (← get).world.files
  pause around
  return verifiedPairEvidence host before files (← get).world peerRootHex

/-- The file of a root is replaced by what a merge makes of it. -/
def storeMerge (root : String) (evidence : List ConsensusAttestationEvidence) :
    Exchange Double (List ConsensusAttestationEvidence) := do
  pause around
  let world := (← get).world
  let (added, file) ← StateT.lift (AttestationStore.merge host.toAttestationHost (world.files root)
    evidence)
  modify fun turn =>
    { turn with world := { world with files := Function.update world.files root file } }
  return added

/-- The evidence of an item of a batch, none where it is rejected. -/
def acceptItem (world : World Double) (root : String) (item : DartValue Double) :
    Option ConsensusAttestationEvidence :=
  match item with
  | .obj members =>
    match displayText host.toDartRuntime (members.lookup "payload_json") with
    | none => none
    | some payloadJson =>
      if trimmed payloadJson = "" then none
      else ((host.decodeText payloadJson).bind (fromJson host.toAttestationHost)).filter
        fun payload => payload.pairRootsSorted.contains root && verifyEvidence host world payload
  | _ => none

/-- Take what the transport has, and store what can be accepted. -/
def drainAndStore : Exchange Double ReceiveResult := do
  match localRootHex (← get).world with
  | none => return ⟨-2002, some "Local root key unavailable", 0, 0, 0, []⟩
  | some root =>
    let call := (← get).awaits
    pause around
    if !around.loadWorkerBootstrapArgs call then
      return ⟨-1004, some "Consensus attestation worker bootstrap unavailable", 0, 0, 0, []⟩
    let transport := around.receiveWorker (← get).awaits
    pause around
    let code := transport.result.getD (-1003)
    if code < 0 then return ⟨code, transport.lastError, 0, 0, 0, []⟩
    match transport.json with
    | none => return ⟨code, none, 0, 0, 0, []⟩
    | some rawJson =>
      if trimmed rawJson = "" then return ⟨code, none, 0, 0, 0, []⟩
      match host.decodeText rawJson with
      | none =>
        return ⟨-2003, some "Pair consensus attestation receive JSON invalid", 0, 0, 0, []⟩
      | some (.arr decoded) =>
        let verified := decoded.filterMap (acceptItem host (← get).world root)
        let stored ← if verified.isEmpty then pure [] else storeMerge host around root verified
        return ⟨code, none, decoded.length, stored.length, decoded.length - verified.length,
          verified⟩
      | some _ =>
        return ⟨-2003, some "Pair consensus attestation receive shape invalid", 0, 0, 0, []⟩

def createLocalEvidence (peerRootHex : String) :
    Exchange Double (Option ConsensusAttestationEvidence) := do
  match ← StateT.lift (localEvidence host (← get).world peerRootHex) with
  | none => return none
  | some (root, evidence) =>
    let _ ← storeMerge host around root [evidence]
    return some evidence

/-- Send evidence to the transport key of a peer. -/
def sendEvidence (evidence : ConsensusAttestationEvidence) (peerTransportHex : String) :
    Exchange Double SendResult := do
  match hexToBytes peerTransportHex 32 with
  | none =>
    return ⟨false, -1, some "peer_transport_hex must be a 64-char lowercase hex", some evidence⟩
  | some peerBytes =>
    let call := (← get).awaits
    pause around
    if !around.loadWorkerBootstrapArgs call then
      return ⟨false, -1004, some "Consensus attestation worker bootstrap unavailable",
        some evidence⟩
    let workerResult := around.sendWorker (← get).awaits evidence peerBytes
    pause around
    let code := workerResult.result.getD (-1003)
    return ⟨code == 0, code, if code = 0 then none else workerResult.lastError, some evidence⟩

def sendLocalEvidence (peerRootHex peerTransportHex : String) : Exchange Double SendResult := do
  match ← createLocalEvidence host around peerRootHex with
  | none =>
    return ⟨false, -2001, some "Local pair consensus attestation is not signable", none⟩
  | some evidence => sendEvidence around evidence peerTransportHex

def combineReceiveResults (first second : ReceiveResult) : ReceiveResult where
  code := if second.code < 0 then second.code else first.code
  errorMessage := second.errorMessage.or first.errorMessage
  receivedCount := first.receivedCount + second.receivedCount
  storedCount := first.storedCount + second.storedCount
  rejectedCount := first.rejectedCount + second.rejectedCount
  acceptedEvidence := first.acceptedEvidence ++ second.acceptedEvidence

/-- What was received, and what comes in once the own evidence is sent. -/
def receiveAfter (received : ReceiveResult) (sent : SendResult) : Exchange Double ReceiveResult :=
  if sent.isSuccess then combineReceiveResults received <$> drainAndStore host around
  else pure received

def resolvePeerTransportHex (peerRootHex : String) : Exchange Double (Option String) := do
  -- the relationships and the invitations are read before the cards
  let before := (← get).world
  pause around
  return (peerIdentityIndex host.toDartViews before.relationships before.invitations
    (← get).world.trustedCards).resolveTransportForSend peerRootHex

def mismatchedEvidenceCount (pairEvidence currentEvidence : List ConsensusAttestationEvidence) :
    ℕ :=
  (pairEvidence.filter fun item =>
    !(currentEvidence.map recordKey).contains item.recordKey).length

def syncingMessage (mismatched : ℕ) : String :=
  if 0 < mismatched then
    "Pair consensus attestation sent; ignoring stale pair evidence and waiting for current " ++
      "peer attestation"
  else "Pair consensus attestation sent; waiting for peer attestation"

/-- The exchange with a peer.  The answer to ready evidence is sent on its own and is no part
    of the result. -/
def ensureForPeer (peerRootHex : String) : Exchange Double ExchangeResult := do
  let peer := trimmedLower peerRootHex
  if !isHex 64 peer then
    return { status := .blocked, message := some "Invalid consensus peer", receiveCode := 0,
             receivedCount := 0, storedCount := 0, localEvidenceSent := false }
  let verified ← loadVerifiedForPair host around peer
  if hasTwoRootEvidence verified then
    return { status := .ready, message := none, receiveCode := 0, receivedCount := 0,
             storedCount := 0, localEvidenceSent := false }
  let received ← drainAndStore host around
  let verified ← loadVerifiedForPair host around peer
  if hasTwoRootEvidence verified then
    return { status := .ready, message := none, receiveCode := received.code,
             receivedCount := received.receivedCount, storedCount := received.storedCount,
             localEvidenceSent := false }
  match ← resolvePeerTransportHex host around peer with
  | none =>
    return { status := .blocked,
             message := some "No transport endpoint mapped for consensus peer",
             receiveCode := received.code, receivedCount := received.receivedCount,
             storedCount := received.storedCount, localEvidenceSent := false }
  | some peerTransportHex =>
    let sent ← sendLocalEvidence host around peer peerTransportHex
    let effectiveReceive ← receiveAfter host around received sent
    let verified ← loadVerifiedForPair host around peer
    if hasTwoRootEvidence verified then
      return { status := .ready, message := none, receiveCode := effectiveReceive.code,
               receivedCount := effectiveReceive.receivedCount,
               storedCount := effectiveReceive.storedCount, localEvidenceSent := sent.isSuccess,
               sendCode := some sent.code }
    let pairEvidence ← loadVerifiedPairEvidence host around peer
    let mismatched := mismatchedEvidenceCount pairEvidence verified
    return { status := .syncing,
             message := some (if sent.isSuccess then syncingMessage mismatched
               else sent.errorMessage.getD "Pair consensus attestation send failed"),
             receiveCode := effectiveReceive.code,
             receivedCount := effectiveReceive.receivedCount,
             storedCount := effectiveReceive.storedCount, mismatchedEvidenceCount := mismatched,
             localEvidenceSent := sent.isSuccess, sendCode := some sent.code }

end Sync

end ConsensusAttestationSync

end Hivra
