import Hivra.Host.HostTexts

namespace Hivra

open JsonDocument

/-!
# Attestations of a pair

An attestation is the evidence that one root of a pair has signed the commitment of a snapshot.
It is kept and sent as a document, and only a document with all its fields in order is read.

* `stored_of_fromJson` — evidence that was read is in order.
-/

/-- A host of attestations: its dates as texts. -/
structure AttestationHost (Double : Type) extends DartViews Double where
  toIso8601String : ℤ → String
  /-- The instant of a text of a date in UTC. -/
  tryParseUtc : String → Option ℤ
  tryParseUtc_iso : ∀ time, tryParseUtc (toIso8601String time) = some time

/-- A text of so many lower-case digits. -/
def isHex (length : ℕ) (text : String) : Bool :=
  text.toList.length == length && text.toList.all fun c => c.isDigit || ('a' ≤ c && c ≤ 'f')

theorem trimmedLower_of_isHex {length : ℕ} {text : String} (h : isHex length text = true) :
    trimmedLower text = text := by
  have hdigits : ∀ c ∈ text.toList, isDartWhite c = false ∧ c.toLower = c := by
    intro c hc
    have hdigit : (c.isDigit || (decide ('a' ≤ c) && decide (c ≤ 'f'))) = true :=
      List.all_eq_true.mp (Bool.and_eq_true_iff.mp h).2 c hc
    exact digit_facts hdigit
  have hlower : text.toList.map Char.toLower = text.toList :=
    (List.map_congr_left fun c hc => (hdigits c hc).2).trans (List.map_id' _)
  rw [trimmedLower, dartTrim_of_not_white fun c hc => (hdigits c hc).1, hlower,
    String.ofList_toList]

/-- The digits of a text. -/
theorem digits_of_isHex {length : ℕ} {text : String} (h : isHex length text = true) :
    text.toList.length = length ∧ ∀ c ∈ text.toList, 48 ≤ c.toNat ∧ c.toNat ≤ 102 := by
  obtain ⟨hlength, hdigits⟩ := Bool.and_eq_true_iff.mp h
  refine ⟨beq_iff_eq.mp hlength, fun c hc => ?_⟩
  have hrange := digit_range (List.all_eq_true.mp hdigits c hc)
  omega

structure ConsensusAttestationEvidence where
  schemaVersion : ℤ
  pairRootsSorted : List String
  snapshotHashHex : String
  commitmentHashHex : String
  signerRootHex : String
  signatureHex : String
  createdAtUtc : String
  deriving DecidableEq

namespace ConsensusAttestationEvidence

def recordKey (evidence : ConsensusAttestationEvidence) : String :=
  String.intercalate ":" evidence.pairRootsSorted ++ "::" ++ evidence.snapshotHashHex ++ "::" ++
    evidence.signerRootHex

/-- Two keys in order. -/
def sortedRoots : List String → Bool
  | [first, second] => isHex 64 first && isHex 64 second && decide (first < second)
  | _ => false

theorem toList_recordKey {evidence : ConsensusAttestationEvidence} {first second : String}
    (h : evidence.pairRootsSorted = [first, second]) :
    evidence.recordKey.toList = first.toList ++ ':' :: (second.toList ++ ':' :: ':' ::
      (evidence.snapshotHashHex.toList ++ ':' :: ':' :: evidence.signerRootHex.toList)) := by
  have hroots : String.intercalate ":" [first, second] = first ++ ":" ++ second := rfl
  unfold recordKey
  rw [h, hroots]
  simp

section Json

variable {Double : Type} (host : AttestationHost Double)

def wellFormed (evidence : ConsensusAttestationEvidence) : Bool :=
  evidence.schemaVersion == 1 && sortedRoots evidence.pairRootsSorted &&
    isHex 64 evidence.snapshotHashHex && isHex 64 evidence.commitmentHashHex &&
    isHex 64 evidence.signerRootHex && isHex 128 evidence.signatureHex &&
    evidence.pairRootsSorted.contains evidence.signerRootHex &&
    (host.tryParseUtc evidence.createdAtUtc).isSome

/-- `toString` of a value. -/
def valueText : DartValue Double → String
  | .str text => text
  | value => host.display value

def asInt : Option (DartValue Double) → Option ℤ
  | some (.num (.inl value)) => some value
  | some value => host.tryParseInt none (valueText host value).toList
  | none => none

def asStringList : Option (DartValue Double) → List String
  | some (.arr items) => items.map fun item => trimmedLower (valueText host item)
  | _ => []

/-- The text of a member, empty where it is missing. -/
def memberText (members : List (String × DartValue Double)) (name : String) : String :=
  (displayText host.toDartRuntime (members.lookup name)).getD ""

def ofMembers (members : List (String × DartValue Double)) (version : ℤ) :
    ConsensusAttestationEvidence where
  schemaVersion := version
  pairRootsSorted := asStringList host (members.lookup "pair_roots_sorted")
  snapshotHashHex := trimmedLower (memberText host members "snapshot_hash")
  commitmentHashHex := trimmedLower (memberText host members "commitment_hash")
  signerRootHex := trimmedLower (memberText host members "signer_root")
  signatureHex := trimmedLower (memberText host members "signature")
  createdAtUtc := trimmed (memberText host members "created_at_utc")

def checked (evidence : ConsensusAttestationEvidence) : Option ConsensusAttestationEvidence :=
  if wellFormed host evidence then some evidence else none

def fromJson : DartValue Double → Option ConsensusAttestationEvidence
  | .obj members =>
    (asInt host (members.lookup "schema_version")).bind fun version =>
      checked host (ofMembers host members version)
  | _ => none

def members (evidence : ConsensusAttestationEvidence) : List (String × DartValue Double) :=
  [("schema_version", .num (.inl evidence.schemaVersion)),
   ("pair_roots_sorted", .arr (evidence.pairRootsSorted.map .str)),
   ("snapshot_hash", .str evidence.snapshotHashHex),
   ("commitment_hash", .str evidence.commitmentHashHex),
   ("signer_root", .str evidence.signerRootHex),
   ("signature", .str evidence.signatureHex),
   ("created_at_utc", .str evidence.createdAtUtc)]

def toJson (evidence : ConsensusAttestationEvidence) : DartValue Double := .obj evidence.members

/-- Evidence that is written as it is read: in order, and without white space around its date. -/
structure Stored (evidence : ConsensusAttestationEvidence) : Prop where
  wellFormed : wellFormed host evidence = true
  createdAt : trimmed evidence.createdAtUtc = evidence.createdAtUtc

variable {host} {roots : List String}

theorem isHex_of_sortedRoots (h : sortedRoots roots = true) :
    ∀ root ∈ roots, isHex 64 root = true := by
  unfold sortedRoots at h
  split at h
  · simp only [Bool.and_eq_true] at h
    intro root hroot
    rcases List.mem_pair.mp hroot with rfl | rfl
    · exact h.1.1
    · exact h.1.2
  · exact nomatch h

theorem eq_of_sortedRoots (h : sortedRoots roots = true) :
    ∃ first second, roots = [first, second] ∧ isHex 64 first = true ∧ isHex 64 second = true ∧
      first < second := by
  unfold sortedRoots at h
  split at h
  · next first second =>
    simp only [Bool.and_eq_true, decide_eq_true_eq] at h
    exact ⟨first, second, rfl, h.1.1, h.1.2, h.2⟩
  · exact nomatch h

variable {evidence : ConsensusAttestationEvidence}

/-- The key of evidence in order has 261 characters, which are digits and colons. -/
theorem recordKey_of_wellFormed (h : wellFormed host evidence = true) :
    evidence.recordKey.toList.length = 261 ∧
      ∀ c ∈ evidence.recordKey.toList, 48 ≤ c.toNat ∧ c.toNat ≤ 102 := by
  unfold wellFormed at h
  simp only [Bool.and_eq_true] at h
  obtain ⟨first, second, hpair, hfirst, hsecond, -⟩ := eq_of_sortedRoots h.1.1.1.1.1.1.2
  obtain ⟨hfirstLength, hfirstDigits⟩ := digits_of_isHex hfirst
  obtain ⟨hsecondLength, hsecondDigits⟩ := digits_of_isHex hsecond
  obtain ⟨hsnapshotLength, hsnapshotDigits⟩ := digits_of_isHex h.1.1.1.1.1.2
  obtain ⟨hsignerLength, hsignerDigits⟩ := digits_of_isHex h.1.1.1.2
  rw [toList_recordKey hpair]
  constructor
  · simp [hfirstLength, hsecondLength, hsnapshotLength, hsignerLength]
  · intro c hc
    simp only [List.mem_append, List.mem_cons] at hc
    rcases hc with hc | rfl | hc | rfl | rfl | hc | rfl | rfl | hc
    · exact hfirstDigits c hc
    · decide
    · exact hsecondDigits c hc
    · decide
    · decide
    · exact hsnapshotDigits c hc
    · decide
    · decide
    · exact hsignerDigits c hc

theorem asStringList_roots (h : sortedRoots roots = true) :
    asStringList host (some (.arr (roots.map .str))) = roots := by
  show (roots.map Json.str).map (fun item => trimmedLower (valueText host item)) = roots
  rw [List.map_map]
  exact (List.map_congr_left fun root hroot =>
    trimmedLower_of_isHex (isHex_of_sortedRoots h root hroot)).trans (List.map_id' _)

/-- **Evidence in order is read as itself.** -/
theorem fromJson_toJson (h : Stored host evidence) :
    fromJson host evidence.toJson = some evidence := by
  have hfields := h.wellFormed
  unfold wellFormed at hfields
  simp only [Bool.and_eq_true, beq_iff_eq] at hfields
  obtain ⟨⟨⟨⟨⟨⟨⟨-, hroots⟩, hsnapshot⟩, hcommitment⟩, hsigner⟩, hsignature⟩, -⟩, -⟩ := hfields
  have hread : ofMembers host evidence.members evidence.schemaVersion = evidence := by
    show ConsensusAttestationEvidence.mk evidence.schemaVersion
      (asStringList host (some (.arr (evidence.pairRootsSorted.map .str))))
      (trimmedLower evidence.snapshotHashHex) (trimmedLower evidence.commitmentHashHex)
      (trimmedLower evidence.signerRootHex) (trimmedLower evidence.signatureHex)
      (trimmed evidence.createdAtUtc) = evidence
    rw [asStringList_roots hroots, trimmedLower_of_isHex hsnapshot,
      trimmedLower_of_isHex hcommitment, trimmedLower_of_isHex hsigner,
      trimmedLower_of_isHex hsignature, h.createdAt]
  show checked host (ofMembers host evidence.members evidence.schemaVersion) = some evidence
  rw [hread]
  exact if_pos h.wellFormed

theorem stored_of_fromJson {value : DartValue Double} (h : fromJson host value = some evidence) :
    Stored host evidence := by
  cases value with
  | obj members =>
    obtain ⟨version, -, hchecked⟩ := Option.bind_eq_some_iff.mp h
    unfold checked at hchecked
    split_ifs at hchecked with hformed
    obtain rfl := Option.some.inj hchecked
    exact ⟨hformed, trimmed_trimmed _⟩
  | _ => exact nomatch h

end Json

end ConsensusAttestationEvidence

end Hivra
