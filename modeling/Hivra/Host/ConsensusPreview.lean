import Hivra.Host.HostTexts
import Hivra.Lib.JsonText

namespace Hivra

open JsonDocument JsonText Replay

namespace ConsensusProcessor

/-!
# Previews of a pair

The host reads the pair view of the core, writes the facts of each pair in an order of its own
and takes the digest of that text.  What cannot be read is left out, and a number that is not
finite makes the whole call throw.

* `preview` — a preview for each pair of two identities.
-/

/-- What the texts of a preview are made with: the digest of a text, the label of a key, and a
    document over several lines. -/
structure ConsensusTexts where
  sha256Hex : Text → String
  capsuleLabel : List UInt8 → String
  indented : Value → Text

structure ConsensusBlockingFact where
  code : String
  subjectId : Option String
  deriving DecidableEq

structure ConsensusPreview where
  peerHex : String
  peerLabel : String
  invitationCount : ℤ
  relationshipCount : ℕ
  hashHex : String
  canonicalJson : Text
  blockingFacts : List ConsensusBlockingFact

structure ConsensusSignableResult where
  preview : Option ConsensusPreview
  blockingFacts : List ConsensusBlockingFact

def ConsensusSignableResult.isSignable (result : ConsensusSignableResult) : Bool :=
  result.preview.isSome && result.blockingFacts.isEmpty

def ConsensusSignableResult.hashHex (result : ConsensusSignableResult) : Option String :=
  if result.isSignable then result.preview.map ConsensusPreview.hashHex else none

structure ConsensusAttestationCommitment where
  pairRootsSorted : List String
  snapshotHashHex : String
  canonicalJson : Text
  commitmentHashHex : String

/-- A relationship of a pair as the digest sees it. -/
structure PairFact where
  relationshipKind : ℤ
  starterPair : List String
  deriving DecidableEq

def PairFact.joined (fact : PairFact) : String := String.intercalate ":" fact.starterPair

def PairFact.key (fact : PairFact) : String :=
  toString fact.relationshipKind ++ ":" ++ fact.joined

/-- The order of the facts: by kind, and then by the text of the pair. -/
def PairFact.le (left right : PairFact) : Bool :=
  decide (left.relationshipKind < right.relationshipKind) ||
    (left.relationshipKind == right.relationshipKind && decide (left.joined ≤ right.joined))

def factValue (fact : PairFact) : Value :=
  .obj [(text "relationship_kind", .int fact.relationshipKind),
    (text "starter_pair", .arr (fact.starterPair.map fun id => .str (text id)))]

def snapshotValue (roots : List String) (relationships : List PairFact) : Value :=
  .obj [(text "schema_version", .int 3),
    (text "pair_roots_sorted", .arr (roots.map fun root => .str (text root))),
    (text "active_relationships", .arr (relationships.map factValue))]

def commitmentValue (roots : List String) (snapshot : String) : Value :=
  .obj [(text "domain", .str (text "hivra.pair_consensus.attestation")),
    (text "schema_version", .int 1),
    (text "pair_roots_sorted", .arr (roots.map fun root => .str (text root))),
    (text "snapshot_hash", .str (text snapshot))]

/-- Digits in lower case, without white space around them. -/
def normalizedHex (value : String) : Option String :=
  let normalized := trimmedLower value
  if normalized ≠ "" ∧ normalized.toList.all fun c => c.isDigit || ('a' ≤ c && c ≤ 'f') then
    some normalized
  else none

section Read

variable {Double : Type} (dart : DartViews Double) (texts : ConsensusTexts)

def sortedTexts (items : List String) : List String := dart.sort (fun a b => decide (a ≤ b)) items

/-- What two roots sign for a snapshot. -/
def buildAttestationCommitment (localRootHex peerRootHex snapshotHashHex : String) :
    Option ConsensusAttestationCommitment :=
  match normalizedHex localRootHex, normalizedHex peerRootHex, normalizedHex snapshotHashHex with
  | some own, some peer, some snapshot =>
    if dartLength own ≠ 64 ∨ dartLength peer ≠ 64 ∨ dartLength snapshot ≠ 64 ∨ own = peer then none
    else
      let roots := sortedTexts dart [own, peer]
      (encode (commitmentValue roots snapshot)).map fun canonicalJson =>
        ⟨roots, snapshot, canonicalJson, texts.sha256Hex canonicalJson⟩
  | _, _, _ => none

/-! ### Fields; none where a number is not finite -/

def hexItems (bytes : List UInt8) : List (DartValue Double) → Option (Option String)
  | [] => some (some (hexText bytes))
  | .num number :: rest =>
    match numberToInt dart number with
    | none => none
    | some value =>
      match byteOfInt value with
      | some byte => hexItems (bytes ++ [byte]) rest
      | none => some none
  | _ :: _ => some none

/-- The digits of 32 bytes. -/
def hex32 : Option (DartValue Double) → Option (Option String)
  | some (.arr items) => if items.length ≠ 32 then some none else hexItems dart [] items
  | _ => some none

def nonNegativeInt : Option (DartValue Double) → Option (Option ℤ)
  | some (.num number) =>
    (numberToInt dart number).map fun value => if value < 0 then none else some value
  | _ => some none

def readFact (item : DartRow Double) : Option (Option PairFact) :=
  match nonNegativeInt dart (item.lookup "relationship_kind") with
  | none => none
  | some kind =>
    match kind, item.lookup "starter_pair" with
    | some kind, some (.arr [first, second]) =>
      match hex32 dart (some first), hex32 dart (some second) with
      | some (some starterA), some (some starterB) =>
        some (some ⟨kind, sortedTexts dart [starterA, starterB]⟩)
      | some _, some _ => some none
      | _, _ => none
    | _, _ => some none

def relationshipsOf : Option (DartValue Double) → Option (List PairFact)
  | some (.arr items) =>
    (readRows (readFact dart) items).map fun facts =>
      dart.sort PairFact.le ((overwriteAll PairFact.key facts).map Prod.snd)
  | _ => some []

def readBlocker (item : DartRow Double) : Option (Option ConsensusBlockingFact) :=
  match hex32 dart (item.lookup "subject_id") with
  | none => none
  | some subject =>
    match displayText dart.toDartRuntime (item.lookup "code"), subject with
    | some code, some subject =>
      if code = "" then some none else some (some ⟨code, some subject⟩)
    | _, _ => some none

def blockersOf : Option (DartValue Double) → Option (List ConsensusBlockingFact)
  | some (.arr items) => readRows (readBlocker dart) items
  | _ => some []

/-! ### Previews -/

/-- A pair of the view: none where it throws, nothing where an identity is missing or twice. -/
def readPair (pair : DartRow Double) : Option (Option ConsensusPreview) :=
  match hex32 dart (pair.lookup "local_identity"), hex32 dart (pair.lookup "peer_identity") with
  | some (some localHex), some (some peerHex) =>
    if localHex = peerHex then some none
    else
      match relationshipsOf dart (pair.lookup "active_relationships"),
          blockersOf dart (pair.lookup "blockers"),
          nonNegativeInt dart (pair.lookup "finalized_invitation_count") with
      | some relationships, some blockers, some count =>
        let snapshot := snapshotValue (sortedTexts dart [localHex, peerHex]) relationships
        (encode snapshot).map fun compact => some {
          peerHex := peerHex
          peerLabel := texts.capsuleLabel ((hexBytes peerHex.toList).getD [])
          invitationCount := count.getD 0
          relationshipCount := relationships.length
          hashHex := texts.sha256Hex compact
          canonicalJson := texts.indented snapshot
          blockingFacts := blockers }
      | _, _, _ => none
  | some _, some _ => some none
  | _, _ => none

/-- The pairs of a pair view; nothing for another document, or for a text that is none. -/
def decodePairView (document : Option (DartValue Double)) : List (DartValue Double) :=
  match document with
  | some (.obj root) =>
    if rowText (root.lookup "schema") = some "hivra.pair_view" ∧
        isBackupVersion dart.toDartRuntime (root.lookup "version") then
      match root.lookup "pairs" with
      | some (.arr pairs) => pairs
      | _ => []
    else []
  | _ => []

/-- The previews of a pair view; none where the call throws. -/
def preview (document : Option (DartValue Double)) : Option (List ConsensusPreview) :=
  (readRows (readPair dart texts) (decodePairView dart document)).map
    (dart.sort fun left right => decide (left.peerHex ≤ right.peerHex))

/-- Whether the pair with a peer can be signed; none where the call throws. -/
def signable (document : Option (DartValue Double)) (peerHex : String) :
    Option ConsensusSignableResult :=
  match (normalizedHex peerHex).filter fun peer => dartLength peer == 64 with
  | none => some ⟨none, [⟨"invalid_peer_id", none⟩]⟩
  | some peer =>
    (preview dart texts document).map fun previews =>
      match previews.find? fun row => row.peerHex == peer with
      | none => ⟨none, [⟨"consensus_peer_not_found", none⟩]⟩
      | some row => ⟨some row, row.blockingFacts⟩

end Read

end ConsensusProcessor

end Hivra
