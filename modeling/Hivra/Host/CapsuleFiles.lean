import Hivra.Ffi.LocalCalls
import Hivra.Host.LedgerRoundTrip

namespace Hivra

open JsonDocument Serde

/-!
# The files of a capsule

What the host keeps of a capsule on disk, and how it reads ledgers and backups there: the
staleness check, the candidates for the runtime, and the formats of a backup.  A result is
none where the host throws.
-/

/-- What a file holds: a JSON document, or a text that is none.  A blank file counts as
    missing. -/
inductive StoredText
  | garbled
  | json (doc : Document)

/-- The flags of `state.json`. -/
structure StateFile where
  isGenesis : Option Bool
  isNeste : Option Bool

/-- The files of a capsule directory. -/
structure CapsuleFiles where
  ledger : Option StoredText
  backup : Option StoredText
  state : Option StateFile

/-- A directory that was just created. -/
def CapsuleFiles.empty : CapsuleFiles := ⟨none, none, none⟩

/-- What the host is built on: the platform of the native library, its own language, how the
    native library reads a number as a hash and writes a ledger, and the cipher of backups. -/
structure HostEnv (Seed Double : Type) where
  platform : Platform Seed
  dart : DartRuntime Double
  lossy : Literal → Option UInt64
  toVec : Ledger → List UInt8
  /-- The clear text behind the `kdf` and `cipher` fields of an envelope of a version; none
      where the fields or the seed do not fit. -/
  decrypt : Seed → ℤ → List (String × DartValue Double) → List (String × DartValue Double) →
    Option StoredText

/-- A small host for worked examples. -/
def sampleEnv : HostEnv (PubKey × PubKey) String where
  platform := samplePlatform
  dart := sampleDart
  lossy _ := none
  toVec _ := []
  decrypt _ _ _ _ := none

section Ledgers

variable {Double : Type} (dart : DartRuntime Double)

/-! ### Ledger texts -/

/-- The root of a ledger text; a text that is no document throws. -/
def StoredText.root : StoredText → Option (Option (List (String × DartValue Double)))
  | .garbled => none
  | .json doc => some (exportLedgerRoot dart doc)

/-- The events a file holds, none where it holds no ledger. -/
def storedEvents : Option StoredText → List (DartValue Double)
  | some (.json doc) => ((exportLedgerRoot dart doc).map rootEvents).getD []
  | _ => []

/-- `toString` of a member, none for a missing one and for null. -/
def displayText : Option (DartValue Double) → Option String
  | none => none
  | some .null => none
  | some (.str text) => some text
  | some value => some (dart.display value)

/-- The text that stands for the head of a ledger. -/
def extractLedgerHash (root : List (String × DartValue Double)) : Option String :=
  match (displayText dart (root.lookup "head_commitment_v5")).map fun text =>
      dartTrim text.toList with
  | some (c :: rest) => some (String.ofList (c :: rest))
  | _ => displayText dart (root.lookup "last_hash")

/-- Whether a ledger must not replace the stored one. -/
def isIncomingLedgerStale (incoming : StoredText) (existing : Option StoredText) : Option Bool :=
  match existing with
  | none => some false
  | some existing =>
    match incoming.root dart, existing.root dart with
    | some (some incomingRoot), some (some existingRoot) =>
      if (rootEvents incomingRoot).length < (rootEvents existingRoot).length then some true
      else if (rootEvents existingRoot).length < (rootEvents incomingRoot).length then some false
      else
        match extractLedgerHash dart incomingRoot, extractLedgerHash dart existingRoot with
        | some incomingHash, some existingHash => some (incomingHash != existingHash)
        | _, _ => some false
    | some _, some _ => some false
    | _, _ => none

/-- Two roots show different heads. -/
def HeadsDiffer (incoming existing : List (String × DartValue Double)) : Prop :=
  ∃ hash ∈ extractLedgerHash dart incoming, ∃ hash' ∈ extractLedgerHash dart existing, hash ≠ hash'

variable {dart}

/-- **What the staleness check rejects.** -/
theorem isIncomingLedgerStale_iff {incoming existing : Document}
    {root root' : List (String × DartValue Double)}
    (hincoming : exportLedgerRoot dart incoming = some root)
    (hexisting : exportLedgerRoot dart existing = some root') :
    isIncomingLedgerStale dart (.json incoming) (some (.json existing)) = some true ↔
      (rootEvents root).length < (rootEvents root').length ∨
        (rootEvents root).length = (rootEvents root').length ∧ HeadsDiffer dart root root' := by
  unfold isIncomingLedgerStale HeadsDiffer
  simp only [StoredText.root, hincoming, hexisting]
  split_ifs with hless hmore
  · simp [hless]
  · simp only [Option.some.injEq, Bool.false_eq_true, false_iff, not_or, not_and]
    exact ⟨hless, fun heq => by omega⟩
  · have heq : (rootEvents root).length = (rootEvents root').length := by omega
    cases extractLedgerHash dart root <;> cases extractLedgerHash dart root' <;> simp [heq]

end Ledgers

section Candidates

variable {Double : Type} (dart : DartRuntime Double)

/-! ### The birth of a ledger -/

/-- The code of an event kind, whether it is written as a number or as a name. -/
def kindCode : Option (DartValue Double) → ℤ
  | some (.num (.inl value)) => value
  | some (.str name) => match EventKind.ofName name with
    | some kind => kind.toByte.toNat
    | none => -1
  | _ => -1

/-- The payload of the first birth; it may be missing, and reading it may throw. -/
def capsuleCreatedPayload : List (DartValue Double) → Option (Option (List UInt8))
  | [] => some none
  | .obj event :: rest =>
    if kindCode (event.lookup "kind") ≠ 0 then capsuleCreatedPayload rest
    else (payloadBytes dart ((event.lookup "payload").getD .null)).map fun payload =>
      if payload.isEmpty then none else some payload
  | _ :: rest => capsuleCreatedPayload rest

/-- A byte that stands for a flag. -/
def flagOfByte : Option UInt8 → Option Bool
  | some 1 => some true
  | some 0 => some false
  | _ => none

def inferGenesisFromLedgerRoot : Option (List (String × DartValue Double)) → Option (Option Bool)
  | none => some none
  | some root => (capsuleCreatedPayload dart (rootEvents root)).map fun payload =>
      payload.bind fun bytes => flagOfByte bytes[1]?

def inferNesteFromLedgerRoot : Option (List (String × DartValue Double)) → Option (Option Bool)
  | none => some none
  | some root => (capsuleCreatedPayload dart (rootEvents root)).map fun payload =>
      payload.bind fun bytes => flagOfByte bytes[0]?

/-! ### Candidates for the runtime -/

/-- The candidate in a ledger text. -/
def candidateOfText (pubKeyHex : String) (source : LedgerSource) :
    Option StoredText → Option (Option LedgerCandidate)
  | none => some none
  | some .garbled => none
  | some (.json doc) => ledgerCandidateForCapsule dart doc pubKeyHex source

/-- The candidate in a backup text. -/
def candidateOfBackup (pubKeyHex : String) : Option StoredText → Option (Option LedgerCandidate)
  | some (.json doc) =>
    match tryExtractLedgerJson dart doc with
    | none => none
    | some none => some none
    | some (some ledger) => ledgerCandidateForCapsule dart ledger pubKeyHex .backup
  | _ => some none

/-- The longer candidate, else the one with the later event, else the ledger. -/
def selectPreferredLedgerCandidate (ledger backup : LedgerCandidate) : LedgerCandidate :=
  if ledger.eventCount < backup.eventCount then backup
  else if backup.eventCount < ledger.eventCount then ledger
  else
    match ledger.tailTimestamp, backup.tailTimestamp with
    | some tail, some tail' => if tail < tail' then backup else ledger
    | _, _ => ledger

/-- The candidates in the order in which they are tried. -/
def orderedLedgerCandidates : Option LedgerCandidate → Option LedgerCandidate →
    List LedgerCandidate
  | none, none => []
  | some ledger, none => [ledger]
  | none, some backup => [backup]
  | some ledger, some backup =>
    let primary := selectPreferredLedgerCandidate ledger backup
    if primary.source = .ledger then [primary, backup] else [primary, ledger]

end Candidates

section Backups

variable {Seed Double : Type} (env : HostEnv Seed Double)

/-! ### The formats of a backup -/

/-- What is in a backup; only a complete one has files and packages. -/
structure BackupContents where
  ledger : Document
  isGenesis : Option Bool
  isNeste : Option Bool
  files : Option (List (String × String))
  packages : Option (List (String × String))

/-- A member that is an object. -/
def coerceJsonMap : Option (DartValue Double) → Option (List (String × DartValue Double))
  | some (.obj members) => some members
  | _ => none

/-- A flag among the members of an object. -/
def flagMember (members : Option (List (String × DartValue Double))) (name : String) :
    Option Bool :=
  match members.bind fun members => members.lookup name with
  | some (.bool flag) => some flag
  | _ => none

/-- A flag that is a truth value or null where it is given; anything else throws. -/
def castFlag (members : Option (List (String × DartValue Double))) (name : String) :
    Option (Option Bool) :=
  match members.bind fun members => members.lookup name with
  | some (.bool flag) => some (some flag)
  | none => some none
  | some .null => some none
  | some _ => none

/-- An object of texts with at most 1024 members. -/
def stringMap : Option (DartValue Double) → Option (List (String × String))
  | some (.obj members) =>
    if 1024 < members.length then none
    else members.mapM fun member => match member.2 with
      | .str text => some (member.1, text)
      | _ => none
  | _ => none

/-- The contents of a backup that is not encrypted: an envelope or a raw ledger. -/
def legacyContents : StoredText → Option (Option BackupContents)
  | .garbled => some none
  | .json doc => (tryExtractLedgerJson env.dart doc).map fun ledger => ledger.map fun ledger =>
      let info := (exportLedgerRoot env.dart doc).bind fun members =>
        coerceJsonMap (members.lookup "meta")
      { ledger
        isGenesis := flagMember info "is_genesis"
        isNeste := flagMember info "is_neste"
        files := none
        packages := none }

/-- The contents of the clear text of a complete backup. -/
def completeContents (inner : List (String × DartValue Double)) : Option BackupContents :=
  let info := coerceJsonMap (inner.lookup "meta")
  match stringMap (inner.lookup "files"), stringMap (inner.lookup "packages"),
      coerceJsonMap (inner.lookup "ledger") with
  | some files, some packages, some root =>
    match encodeLedgerShape env.dart root, castFlag info "is_genesis", castFlag info "is_neste" with
    | some (some ledger), some isGenesis, some isNeste =>
      some { ledger, isGenesis, isNeste, files := some files, packages := some packages }
    | _, _, _ => none
  | _, _, _ => none

/-- Whether a member is a version. -/
def isVersion (version : ℤ) : Option (DartValue Double) → Bool
  | some (.num (.inl value)) => value == version
  | some (.num (.inr value)) => env.dart.equalsInt value version
  | _ => false

/-- The contents of the clear text of an encrypted backup. -/
def clearContents (wireVersion : ℤ) : StoredText → Option BackupContents
  | .garbled => none
  | .json doc =>
    match exportLedgerRoot env.dart doc with
    | none => none
    | some inner =>
      if ¬ isBackupSchema (inner.lookup "schema") then none
      else if wireVersion = 3 then
        if isVersion env 3 (inner.lookup "version") then completeContents env inner else none
      else if isVersion env 1 (inner.lookup "version") then (legacyContents env (.json doc)).join
      else none

/-- Whether a text is an encrypted envelope. -/
def isEncryptedEnvelope (text : StoredText) : Bool :=
  match text.root env.dart with
  | some (some envelope) =>
    isBackupSchema (envelope.lookup "schema") && !isBackupVersion env.dart (envelope.lookup "version")
  | _ => false

/-- The name member of an object. -/
def hasName (members : List (String × DartValue Double)) (name : String) : Bool :=
  match members.lookup "name" with
  | some (.str text) => text == name
  | _ => false

/-- The contents of an encrypted envelope; whatever goes wrong, there are none. -/
def encryptedContents (envelope : List (String × DartValue Double)) (seed : Seed) :
    Option BackupContents :=
  match envelope.lookup "version", envelope.lookup "suite", coerceJsonMap (envelope.lookup "kdf"),
      coerceJsonMap (envelope.lookup "cipher") with
  | some (.num (.inl wireVersion)), some (.str suite), some kdf, some cipher =>
    if (wireVersion = 2 ∨ wireVersion = 3) ∧ suite = "hkdf-sha256+a256gcm" ∧
        hasName kdf "hkdf-sha256" ∧ hasName cipher "aes-256-gcm" then
      (env.decrypt seed wireVersion kdf cipher).bind (clearContents env wireVersion)
    else none
  | _, _, _, _ => none

/-- The contents of a backup of any format. -/
def tryDecodeBackup (text : StoredText) (seed : Option Seed) : Option (Option BackupContents) :=
  if isEncryptedEnvelope env text then
    match text.root env.dart, seed with
    | some (some envelope), some seed => some (encryptedContents env envelope seed)
    | _, _ => some none
  else legacyContents env text

end Backups

end Hivra
