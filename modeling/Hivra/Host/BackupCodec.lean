import Hivra.Host.Dart

namespace Hivra

open JsonDocument Serde

/-!
# Backup envelopes and ledger candidates

The host passes ledger documents on in three ways: as a candidate for the runtime, inside a
backup envelope, and as what it extracts from an envelope or a raw document.  Each of them
decodes the document and encodes it again.  A result is none where the host throws.
-/

/-- Which file a candidate comes from. -/
inductive LedgerSource
  | ledger
  | backup
  deriving DecidableEq

/-- A ledger document the runtime may import. -/
structure LedgerCandidate where
  source : LedgerSource
  json : Document
  eventCount : ℕ
  tailTimestamp : Option ℤ

section Codec

variable {Double : Type} (dart : DartRuntime Double)

/-! ### Candidates -/

/-- A timestamp that is not negative. -/
def nonNegative (value : ℤ) : Option ℤ := if 0 ≤ value then some value else none

/-- The timestamp of an event; the outcome is none where it throws. -/
def parseTimestamp : Option (DartValue Double) → Option (Option ℤ)
  | some (.num (.inl value)) => some (nonNegative value)
  | some (.num (.inr value)) => (dart.toInt value).map nonNegative
  | some (.str text) =>
    match dartTrim text.toList with
    | [] => some none
    | '0' :: 'x' :: digits => some (dart.tryParseInt (some 16) digits)
    | '0' :: 'X' :: digits => some (dart.tryParseInt (some 16) digits)
    | trimmed => some (dart.tryParseInt none trimmed)
  | _ => some none

/-- The later of two timestamps. -/
def maxTimestamp (tail : Option ℤ) (ts : Option ℤ) : Option ℤ :=
  match tail, ts with
  | tail, none => tail
  | none, some ts => some ts
  | some tail, some ts => if ts > tail then some ts else some tail

/-- The latest timestamp of the events. -/
def extractTailTimestamp (tail : Option ℤ) : List (DartValue Double) → Option (Option ℤ)
  | [] => some tail
  | .obj event :: rest =>
    match parseTimestamp dart (event.lookup "timestamp") with
    | none => none
    | some ts => extractTailTimestamp (maxTimestamp tail ts) rest
  | _ :: rest => extractTailTimestamp tail rest

/-- A ledger document of a capsule, decoded and encoded again. -/
def ledgerCandidateForCapsule (doc : Document) (pubKeyHex : String) (source : LedgerSource) :
    Option (Option LedgerCandidate) :=
  match exportLedgerRoot dart doc with
  | none => some none
  | some root =>
    match ownerHex dart root with
    | none => none
    | some owner =>
      if owner ≠ some pubKeyHex then some none
      else
        match jsonEncode dart (.obj root), extractTailTimestamp dart none (rootEvents root) with
        | some json, some tailTimestamp =>
          some (some { source, json, eventCount := (rootEvents root).length, tailTimestamp })
        | _, _ => none

/-! ### Envelopes -/

/-- The members of an optional flag. -/
def flagMembers (name : String) : Option Bool → List (String × DartValue Double)
  | some flag => [(name, .bool flag)]
  | none => []

/-- A backup envelope around a ledger document. -/
def encodeBackupEnvelope (exportedAt : String) (doc : Document) (isGenesis isNeste : Option Bool) :
    Option Document :=
  match exportLedgerRoot dart doc with
  | none => none
  | some root =>
    jsonEncode dart (.obj [
      ("schema", .str "hivra.capsule_backup"),
      ("version", .num (.inl 1)),
      ("exported_at_utc", .str exportedAt),
      ("ledger", .obj root),
      ("meta", .obj (flagMembers "is_genesis" isGenesis ++ flagMembers "is_neste" isNeste))])

/-- An owner of 32 bytes and a list of events. -/
def isLedgerShape (root : List (String × DartValue Double)) : Option Bool :=
  (payloadBytes dart ((root.lookup "owner").getD .null)).map fun owner =>
    owner.length == 32 && match root.lookup "events" with
      | some (.arr _) => true
      | _ => false

/-- Whether a value is the schema of envelopes. -/
def isBackupSchema : Option (DartValue Double) → Bool
  | some (.str text) => text == "hivra.capsule_backup"
  | _ => false

/-- Whether a value is the envelope version. -/
def isBackupVersion : Option (DartValue Double) → Bool
  | some (.num (.inl value)) => value == 1
  | some (.num (.inr value)) => dart.equalsInt value 1
  | _ => false

/-- Encode the members of a ledger document if they have its shape. -/
def encodeLedgerShape (root : List (String × DartValue Double)) : Option (Option Document) :=
  match isLedgerShape dart root with
  | none => none
  | some false => some none
  | some true => (jsonEncode dart (.obj root)).map some

/-- The ledger document in an envelope, or a raw ledger document. -/
def tryExtractLedgerJson (doc : Document) : Option (Option Document) :=
  match jsonDecode dart doc with
  | .obj members =>
    if isBackupSchema (members.lookup "schema") ∧ isBackupVersion dart (members.lookup "version") then
      match members.lookup "ledger" with
      | some (.obj root) => encodeLedgerShape dart root
      | _ => some none
    else
      encodeLedgerShape dart members
  | _ => some none

end Codec

end Hivra
