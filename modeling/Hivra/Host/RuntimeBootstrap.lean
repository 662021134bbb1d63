import Hivra.Host.DecodedValues
import Hivra.Host.OnlyExtended

namespace Hivra

open JsonDocument Serde

/-!
# Starting the runtime from the files

At its start the host reads `ledger.json` and the local backup of a capsule, puts the
ledgers of the capsule among them in an order, and offers them to the runtime one after the
other.  A text that is no JSON document throws where it stands in `ledger.json`, and is
passed over where it stands in the backup.
-/

section Bootstrap

variable {Seed Double : Type} (env : HostEnv Seed Double)

/-! ### The start -/

/-- What is behind the name of a file. -/
inductive FileContent
  | missing
  /-- Bytes that are no text. -/
  | undecodable
  | blank
  | text (text : StoredText)

/-- The text of a file, none for a blank one; the outcome is none where reading throws. -/
def FileContent.read : FileContent → Option (Option StoredText)
  | .missing => some none
  | .undecodable => none
  | .blank => some none
  | .text stored => some (some stored)

/-- The files of a capsule at the start.  A state that cannot be read counts as missing. -/
structure StoredFiles where
  ledger : FileContent
  backup : FileContent
  state : Option StateFile

/-- What the runtime is started with. -/
structure CapsuleRuntimeBootstrap (Seed : Type) where
  pubKeyHex : String
  seed : Seed
  isGenesis : Bool
  isNeste : Bool
  identityMode : String
  ledgerJson : Option Document
  ledgerImportCandidates : List Document

/-- Read the files of a capsule.  There is no bootstrap without a seed. -/
def loadRuntimeBootstrap (pubKeyHex identityMode : String) (seed : Option Seed)
    (files : StoredFiles) : Option (Option (CapsuleRuntimeBootstrap Seed)) :=
  match seed with
  | none => some none
  | some seed =>
    match files.ledger.read.bind (candidateOfText env.dart pubKeyHex .ledger),
        files.backup.read.bind (candidateOfBackup env.dart pubKeyHex) with
    | some ledgerCandidate, some backupCandidate =>
      let candidates := orderedLedgerCandidates ledgerCandidate backupCandidate
      let primary := candidates.head?.bind fun candidate => exportLedgerRoot env.dart candidate.json
      match inferGenesisFromLedgerRoot env.dart primary, inferNesteFromLedgerRoot env.dart primary with
      | some inferredGenesis, some inferredNeste =>
        some (some {
          pubKeyHex
          seed
          isGenesis := (inferredGenesis <|> files.state.bind StateFile.isGenesis).getD false
          isNeste := (inferredNeste <|> files.state.bind StateFile.isNeste).getD true
          identityMode
          ledgerJson := candidates.head?.map LedgerCandidate.json
          ledgerImportCandidates := candidates.map LedgerCandidate.json })
      | _, _ => none
    | _, _ => none

section Import

variable (outside : Outside Seed) (state : RuntimeState)

/-- Offer documents to the runtime until it takes one. -/
def importCandidates (state : RuntimeState) : List Document → Bool × RuntimeState
  | [] => (false, state)
  | candidate :: rest =>
    match hivraImportLedger env.platform env.lossy env.toVec outside state (some candidate) with
    | (0, state) => (true, state)
    | (_, state) => importCandidates state rest

/-- Import the ledger of a bootstrap; nothing to import is fine. -/
def importBootstrapLedgerCandidates (bootstrap : CapsuleRuntimeBootstrap Seed) :
    Bool × RuntimeState :=
  if bootstrap.ledgerImportCandidates.isEmpty then (true, state)
  else importCandidates env outside state bootstrap.ledgerImportCandidates

/-- Whether the runtime accepts a document. -/
def importAccepts (doc : Document) : Bool :=
  (hivraImportLedger env.platform env.lossy env.toVec outside state (some doc)).1 == 0

/-- A refused import leaves the runtime as it was. -/
theorem hivraImportLedger_refused {doc : Document}
    (h : importAccepts env outside state doc = false) :
    ∃ code : ℤ, code ≠ 0 ∧
      hivraImportLedger env.platform env.lossy env.toVec outside state (some doc) = (code, state) := by
  rw [importAccepts, beq_eq_false_iff_ne] at h
  refine ⟨_, h, Prod.ext rfl ?_⟩
  unfold hivraImportLedger importRuntimeLedger at h ⊢
  dsimp only at h ⊢
  cases hparse : parseLedgerJson env.lossy doc with
  | error error => rfl
  | ok parsed =>
    rw [hparse] at h
    dsimp only at h ⊢
    cases hcapsule : state.capsule with
    | none => rfl
    | some capsule =>
      rw [hcapsule] at h
      dsimp only at h ⊢
      cases hvalid : validateImportedLedger env.platform parsed capsule.pubkey true with
      | error message => rfl
      | ok value =>
        rw [hvalid] at h
        dsimp only at h ⊢
        cases hadmitted : admitImportedLedger env.platform env.toVec outside.loadSeed parsed with
        | error message => rfl
        | ok admitted =>
          rw [hadmitted] at h
          exact absurd rfl h

/-- **The runtime takes the first document that it accepts.** -/
theorem importCandidates_eq (candidates : List Document) :
    importCandidates env outside state candidates
      = match candidates.find? (importAccepts env outside state) with
        | some json =>
          (true, (hivraImportLedger env.platform env.lossy env.toVec outside state (some json)).2)
        | none => (false, state) := by
  induction candidates with
  | nil => rfl
  | cons candidate rest ih =>
    rw [importCandidates]
    cases haccepts : importAccepts env outside state candidate with
    | true =>
      rw [List.find?_cons_of_pos haccepts]
      have hcode := eq_of_beq haccepts
      split
      · rename_i hzero
        show _ = (true, (hivraImportLedger env.platform env.lossy env.toVec outside state
          (some candidate)).2)
        rw [hzero]
      · rename_i hne hother
        rw [hother] at hcode
        exact absurd hcode hne
    | false =>
      obtain ⟨code, hcode, heq⟩ := hivraImportLedger_refused env outside state haccepts
      rw [List.find?_cons_of_neg (by simp [haccepts]), heq, ← ih]
      split
      · rename_i hzero
        exact absurd (congrArg Prod.fst hzero) hcode
      · rename_i hother
        cases hother
        rfl

end Import

/-! ### Copies of a ledger -/

section Copies

variable {Double : Type} (dart : DartRuntime Double) (pubKeyHex : String)

/-- The document, if it is a ledger of the capsule. -/
def ownCopy (doc : Document) : Option Document :=
  if (exportLedgerRoot dart doc).bind (ownerHex dart) = some (some pubKeyHex) then some doc else none

/-- The ledger of the capsule in `ledger.json`. -/
def ledgerCopy (files : StoredFiles) : Option Document :=
  match files.ledger with
  | .text (.json doc) => ownCopy dart pubKeyHex doc
  | _ => none

/-- The ledger of the capsule in the backup. -/
def backupCopy (files : StoredFiles) : Option Document :=
  match files.backup with
  | .text (.json doc) => (tryExtractLedgerJson dart doc).join.bind (ownCopy dart pubKeyHex)
  | _ => none

/-- The events of a ledger document. -/
def eventCount (doc : Document) : ℕ := (storedEvents dart (some (.json doc))).length

/-- The latest timestamp in a ledger document. -/
def tailTimestamp (doc : Document) : Option ℤ :=
  (extractTailTimestamp dart none (storedEvents dart (some (.json doc)))).join

/-- A backup goes in front of a ledger: it has more events, or as many and a later one. -/
def Overtakes (backup ledger : Document) : Prop :=
  eventCount dart ledger < eventCount dart backup ∨
    eventCount dart ledger = eventCount dart backup ∧
      ∃ tail ∈ tailTimestamp dart ledger, ∃ tail' ∈ tailTimestamp dart backup, tail < tail'

/-- The host can read a ledger document: no number that it needs of it is infinite. -/
def NumbersRead (doc : Document) : Prop :=
  ∀ root, exportLedgerRoot dart doc = some root → ownerHex dart root ≠ none ∧
    (ownerHex dart root = some (some pubKeyHex) → Encodable dart (.obj root))

/-- The files are read without a throw: both are text, `ledger.json` is a document if it is
    not blank, and no number that the host needs of them is infinite. -/
structure ReadableFiles (files : StoredFiles) : Prop where
  ledgerText : files.ledger ≠ .undecodable ∧ files.ledger ≠ .text .garbled
  backupText : files.backup ≠ .undecodable
  ledgerNumbers : ∀ doc, files.ledger = .text (.json doc) → NumbersRead dart pubKeyHex doc
  backupNumbers : ∀ doc, files.backup = .text (.json doc) → tryExtractLedgerJson dart doc ≠ none

/-- The candidate that stands for a copy. -/
structure IsCandidate (source : LedgerSource) (copy : Document) (candidate : LedgerCandidate) :
    Prop where
  source : candidate.source = source
  root : exportLedgerRoot dart candidate.json = exportLedgerRoot dart copy
  json : recode dart copy = some candidate.json
  count : candidate.eventCount = eventCount dart copy
  tail : candidate.tailTimestamp = tailTimestamp dart copy

variable {dart pubKeyHex} {root : List (String × DartValue Double)}

theorem recode_of_root {doc : Document} (h : exportLedgerRoot dart doc = some root) :
    recode dart doc = jsonEncode dart (.obj root) := by
  rw [recode, jsonDecode_of_root h]

theorem storedEvents_of_root {doc : Document} (h : exportLedgerRoot dart doc = some root) :
    storedEvents dart (some (.json doc)) = rootEvents root := by
  rw [storedEvents, h]
  rfl

/-- **What the host makes of a ledger document.** -/
theorem ledgerCandidate_cases (laws : DoubleLaws dart) (pubKeyHex : String) (doc : Document)
    (source : LedgerSource) :
    (NumbersRead dart pubKeyHex doc ∧
      ∃ candidate, ledgerCandidateForCapsule dart doc pubKeyHex source = some candidate ∧
        Option.Rel (IsCandidate dart source) (ownCopy dart pubKeyHex doc) candidate) ∨
    ¬ NumbersRead dart pubKeyHex doc ∧
      ledgerCandidateForCapsule dart doc pubKeyHex source = none := by
  unfold NumbersRead ledgerCandidateForCapsule ownCopy
  cases hroot : exportLedgerRoot dart doc with
  | none => simp
  | some root =>
    simp only [Option.some.injEq, forall_eq', Option.bind_some]
    rcases Option.eq_none_or_eq_some (ownerHex dart root) with howner | ⟨owner, howner⟩
    · simp [howner]
    · simp only [howner]
      by_cases hown : owner = some pubKeyHex
      · rw [if_neg (show ¬ owner ≠ some pubKeyHex from not_not.mpr hown),
          if_pos (show some owner = some (some pubKeyHex) from congrArg some hown)]
        simp only [hown, ne_eq, reduceCtorEq, not_false_eq_true, true_and, forall_const]
        cases hjson : jsonEncode dart (.obj root) with
        | none => simp [Encodable, hjson]
        | some json =>
          have hencodable : Encodable dart (.obj root) := by rw [Encodable, hjson]; rfl
          obtain ⟨tail, htail⟩ := extractTailTimestamp_of_encodable laws hencodable.rootEvents none
          rw [htail]
          refine Or.inl ⟨hencodable, _, rfl, Option.Rel.some ⟨rfl, ?_, ?_, ?_, ?_⟩⟩
          · rw [hroot]
            exact exportLedgerRoot_jsonEncode laws (decoded_root hroot) hjson
          · rw [recode_of_root hroot, hjson]
          · rw [eventCount, storedEvents_of_root hroot]
          · rw [tailTimestamp, storedEvents_of_root hroot, htail]
            rfl
      · rw [if_pos (show owner ≠ some pubKeyHex from hown),
          if_neg (show some owner ≠ some (some pubKeyHex) by simpa using hown)]
        simp [hown]

end Copies

end Bootstrap

/-! ### What is read -/

section Reading

variable {Double : Type} {dart : DartRuntime Double} {pubKeyHex : String}

/-- What is extracted from a backup can be encoded, and stays as it is. -/
theorem extracted_stays (laws : DoubleLaws dart) {doc ledger : Document}
    (h : tryExtractLedgerJson dart doc = some (some ledger)) :
    recode dart ledger = some ledger ∧ ∀ root, exportLedgerRoot dart ledger = some root →
      Encodable dart (.obj root) := by
  have hshape : ∃ root, Decoded dart (.obj root) ∧ encodeLedgerShape dart root = some (some ledger) := by
    unfold tryExtractLedgerJson at h
    have hdecoded := decoded_jsonDecode dart doc
    split at h
    · rename_i members hmembers
      rw [hmembers] at hdecoded
      split_ifs at h with hschema
      · split at h
        · rename_i root hroot
          exact ⟨root, hdecoded.member hroot, h⟩
        · cases h
      · exact ⟨members, hdecoded, h⟩
    · cases h
  obtain ⟨root, hdecoded, hencode⟩ := hshape
  have hjson : jsonEncode dart (.obj root) = some ledger := by
    unfold encodeLedgerShape at hencode
    split at hencode
    · cases hencode
    · cases hencode
    · simpa using hencode
  have hroot := exportLedgerRoot_jsonEncode laws hdecoded hjson
  refine ⟨by rw [recode_of_root hroot, hjson], ?_⟩
  intro other hother
  rw [hroot] at hother
  rw [← Option.some.inj hother, Encodable, hjson]
  rfl

/-- When `ledger.json` is read, and what is read of it. -/
theorem ledgerRead_cases (laws : DoubleLaws dart) (pubKeyHex : String) (files : StoredFiles) :
    (((files.ledger ≠ .undecodable ∧ files.ledger ≠ .text .garbled) ∧
        ∀ doc, files.ledger = .text (.json doc) → NumbersRead dart pubKeyHex doc) ∧
      ∃ candidate, files.ledger.read.bind (candidateOfText dart pubKeyHex .ledger) = some candidate ∧
        Option.Rel (IsCandidate dart .ledger) (ledgerCopy dart pubKeyHex files) candidate) ∨
    ¬ ((files.ledger ≠ .undecodable ∧ files.ledger ≠ .text .garbled) ∧
        ∀ doc, files.ledger = .text (.json doc) → NumbersRead dart pubKeyHex doc) ∧
      files.ledger.read.bind (candidateOfText dart pubKeyHex .ledger) = none := by
  unfold ledgerCopy
  have hnothing : Option.Rel (IsCandidate dart .ledger) none none := Option.Rel.none
  match files.ledger with
  | .missing => simp [FileContent.read, candidateOfText, hnothing]
  | .blank => simp [FileContent.read, candidateOfText, hnothing]
  | .undecodable => simp [FileContent.read]
  | .text .garbled => simp [FileContent.read, candidateOfText]
  | .text (.json doc) =>
    simp only [ne_eq, reduceCtorEq, not_false_eq_true, FileContent.text.injEq, true_and,
      StoredText.json.injEq, forall_eq']
    exact ledgerCandidate_cases laws pubKeyHex doc .ledger

/-- When the backup is read, and what is read of it. -/
theorem backupRead_cases (laws : DoubleLaws dart) (pubKeyHex : String) (files : StoredFiles) :
    ((files.backup ≠ .undecodable ∧
        ∀ doc, files.backup = .text (.json doc) → tryExtractLedgerJson dart doc ≠ none) ∧
      ∃ candidate, files.backup.read.bind (candidateOfBackup dart pubKeyHex) = some candidate ∧
        Option.Rel (IsCandidate dart .backup) (backupCopy dart pubKeyHex files) candidate) ∨
    ¬ (files.backup ≠ .undecodable ∧
        ∀ doc, files.backup = .text (.json doc) → tryExtractLedgerJson dart doc ≠ none) ∧
      files.backup.read.bind (candidateOfBackup dart pubKeyHex) = none := by
  unfold backupCopy
  have hnothing : Option.Rel (IsCandidate dart .backup) none none := Option.Rel.none
  match files.backup with
  | .missing => simp [FileContent.read, candidateOfBackup, hnothing]
  | .blank => simp [FileContent.read, candidateOfBackup, hnothing]
  | .undecodable => simp [FileContent.read]
  | .text .garbled => simp [FileContent.read, candidateOfBackup, hnothing]
  | .text (.json doc) =>
    simp only [ne_eq, reduceCtorEq, not_false_eq_true, FileContent.text.injEq, true_and,
      StoredText.json.injEq, forall_eq', FileContent.read, Option.bind_some, candidateOfBackup]
    cases hextract : tryExtractLedgerJson dart doc with
    | none => simp
    | some extracted =>
      cases extracted with
      | none => simp [hnothing]
      | some ledger =>
        -- what was extracted can be encoded, so nothing more is needed to read it
        have hnumbers : NumbersRead dart pubKeyHex ledger := by
          intro root hroot
          have hencodable := (extracted_stays laws hextract).2 root hroot
          obtain ⟨owner, howner⟩ := hencodable.ownerHex laws
          exact ⟨by simp [howner], fun _ => hencodable⟩
        rcases ledgerCandidate_cases laws pubKeyHex ledger .backup with h | h
        · exact Or.inl ⟨by simp, h.2⟩
        · exact absurd hnumbers h.1

/-- The flags of a ledger that is a candidate are read. -/
theorem IsCandidate.infer (laws : DoubleLaws dart) {source : LedgerSource} {copy : Document}
    {candidate : LedgerCandidate} (h : IsCandidate dart source copy candidate) :
    ∃ isGenesis isNeste,
      inferGenesisFromLedgerRoot dart (exportLedgerRoot dart candidate.json) = some isGenesis ∧
      inferNesteFromLedgerRoot dart (exportLedgerRoot dart candidate.json) = some isNeste := by
  rw [h.root]
  cases hroot : exportLedgerRoot dart copy with
  | none => exact ⟨none, none, rfl, rfl⟩
  | some root =>
    have hencodable : Encodable dart (.obj root) := by
      rw [Encodable, ← recode_of_root hroot, h.json]
      rfl
    obtain ⟨payload, hpayload⟩ := capsuleCreatedPayload_of_encodable laws hencodable.rootEvents
    exact ⟨_, _, by rw [inferGenesisFromLedgerRoot, hpayload]; rfl,
      by rw [inferNesteFromLedgerRoot, hpayload]; rfl⟩

variable {ledgerCandidate backupCandidate : LedgerCandidate} {ledger backup : Document}

theorem overtakes_iff (hledger : IsCandidate dart .ledger ledger ledgerCandidate)
    (hbackup : IsCandidate dart .backup backup backupCandidate) :
    Overtakes dart backup ledger ↔
      selectPreferredLedgerCandidate ledgerCandidate backupCandidate = backupCandidate := by
  have hne : ledgerCandidate ≠ backupCandidate := by
    intro heq
    have hsource := hledger.source
    rw [heq, hbackup.source] at hsource
    cases hsource
  unfold Overtakes selectPreferredLedgerCandidate
  rw [hledger.count, hbackup.count, hledger.tail, hbackup.tail]
  split_ifs with hless hmore
  · simp [hless]
  · simp only [hless, false_or, hne, iff_false, not_and]
    omega
  · have hcount : eventCount dart ledger = eventCount dart backup := by omega
    cases tailTimestamp dart ledger with
    | none => simp [hcount, hne]
    | some tail =>
      cases tailTimestamp dart backup with
      | none => simp [hcount, hne]
      | some tail' =>
        simp only [hcount, lt_self_iff_false, true_and, false_or, Option.mem_def,
          Option.some.injEq, exists_eq_left']
        split_ifs with htail
        · simp [htail]
        · simp [htail, hne]

/-- **Which copy is offered first.** -/
theorem orderedLedgerCandidates_eq (hledger : IsCandidate dart .ledger ledger ledgerCandidate)
    (hbackup : IsCandidate dart .backup backup backupCandidate) :
    Overtakes dart backup ledger ∧
        orderedLedgerCandidates (some ledgerCandidate) (some backupCandidate)
          = [backupCandidate, ledgerCandidate] ∨
      ¬ Overtakes dart backup ledger ∧
        orderedLedgerCandidates (some ledgerCandidate) (some backupCandidate)
          = [ledgerCandidate, backupCandidate] := by
  have hselect : selectPreferredLedgerCandidate ledgerCandidate backupCandidate = backupCandidate ∨
      selectPreferredLedgerCandidate ledgerCandidate backupCandidate = ledgerCandidate := by
    unfold selectPreferredLedgerCandidate
    split_ifs
    · exact Or.inl rfl
    · exact Or.inr rfl
    · split
      · split_ifs
        · exact Or.inl rfl
        · exact Or.inr rfl
      · exact Or.inr rfl
  rw [overtakes_iff hledger hbackup]
  unfold orderedLedgerCandidates
  dsimp only
  rcases hselect with heq | heq
  · rw [heq, if_neg (by rw [hbackup.source]; simp)]
    exact Or.inl ⟨rfl, rfl⟩
  · refine Or.inr ⟨?_, by rw [heq, if_pos hledger.source]⟩
    rw [heq]
    intro hsame
    have hsource := hledger.source
    rw [hsame, hbackup.source] at hsource
    cases hsource

end Reading

section Loading

variable {Seed Double : Type} {env : HostEnv Seed Double} {pubKeyHex : String}

/-- **What is offered to the runtime, and in which order.** -/
theorem loadRuntimeBootstrap_of_readable (laws : DoubleLaws env.dart) (identityMode : String)
    (seed : Seed) {files : StoredFiles} (h : ReadableFiles env.dart pubKeyHex files) :
    ∃ ledger backup bootstrap,
      Option.Rel (IsCandidate env.dart .ledger) (ledgerCopy env.dart pubKeyHex files) ledger ∧
      Option.Rel (IsCandidate env.dart .backup) (backupCopy env.dart pubKeyHex files) backup ∧
      loadRuntimeBootstrap env pubKeyHex identityMode (some seed) files = some (some bootstrap) ∧
      bootstrap.ledgerImportCandidates
        = (orderedLedgerCandidates ledger backup).map LedgerCandidate.json := by
  obtain ⟨ledger, hledger, hledgerCopy⟩ := ((ledgerRead_cases laws pubKeyHex files).resolve_right
    fun hnot => hnot.1 ⟨h.ledgerText, h.ledgerNumbers⟩).2
  obtain ⟨backup, hbackup, hbackupCopy⟩ := ((backupRead_cases laws pubKeyHex files).resolve_right
    fun hnot => hnot.1 ⟨h.backupText, h.backupNumbers⟩).2
  have hinfer : ∃ isGenesis isNeste,
      inferGenesisFromLedgerRoot env.dart ((orderedLedgerCandidates ledger backup).head?.bind
        fun candidate => exportLedgerRoot env.dart candidate.json) = some isGenesis ∧
      inferNesteFromLedgerRoot env.dart ((orderedLedgerCandidates ledger backup).head?.bind
        fun candidate => exportLedgerRoot env.dart candidate.json) = some isNeste := by
    generalize hfirst : ledgerCopy env.dart pubKeyHex files = copy at hledgerCopy
    generalize hsecond : backupCopy env.dart pubKeyHex files = copy' at hbackupCopy
    cases hledgerCopy with
    | none =>
      cases hbackupCopy with
      | none => exact ⟨none, none, rfl, rfl⟩
      | some hcandidate => exact hcandidate.infer laws
    | some hcandidate =>
      cases hbackupCopy with
      | none => exact hcandidate.infer laws
      | some hcandidate' =>
        rcases orderedLedgerCandidates_eq hcandidate hcandidate' with ⟨-, heq⟩ | ⟨-, heq⟩
        · rw [heq]
          exact hcandidate'.infer laws
        · rw [heq]
          exact hcandidate.infer laws
  obtain ⟨isGenesis, isNeste, hgenesis, hneste⟩ := hinfer
  refine ⟨ledger, backup, ?_, hledgerCopy, hbackupCopy, ?_, ?_⟩
  rotate_left
  · unfold loadRuntimeBootstrap
    simp only [hledger, hbackup, hgenesis, hneste]
    rfl
  · rfl

/-- **Which files are read without a throw.** -/
theorem readable_of_load (laws : DoubleLaws env.dart) {identityMode : String} {seed : Seed}
    {files : StoredFiles} {bootstrap : Option (CapsuleRuntimeBootstrap Seed)}
    (h : loadRuntimeBootstrap env pubKeyHex identityMode (some seed) files = some bootstrap) :
    ReadableFiles env.dart pubKeyHex files := by
  unfold loadRuntimeBootstrap at h
  dsimp only at h
  rcases ledgerRead_cases laws pubKeyHex files with ⟨hledger, -⟩ | ⟨-, hthrows⟩
  · rcases backupRead_cases laws pubKeyHex files with ⟨hbackup, -⟩ | ⟨-, hthrows⟩
    · exact ⟨hledger.1, hbackup.1, hledger.2, hbackup.2⟩
    · rw [hthrows] at h
      simp at h
  · rw [hthrows] at h
    simp at h

end Loading

section BestCopy

variable {Seed Double : Type} (env : HostEnv Seed Double) (pubKeyHex identityMode : String)
  (seed : Seed) (outside : Outside Seed) (state : RuntimeState)

/-! ### The best copy -/

/-- The bootstrap imports a copy: of the documents it offers, the one that stands for the copy
    is the first that the runtime accepts. -/
def Imports (files : StoredFiles) (copy : Document) : Prop :=
  ∃ bootstrap json,
    loadRuntimeBootstrap env pubKeyHex identityMode (some seed) files = some (some bootstrap) ∧
    recode env.dart copy = some json ∧
    bootstrap.ledgerImportCandidates.find? (importAccepts env outside state) = some json ∧
    importBootstrapLedgerCandidates env outside state bootstrap
      = (true, (hivraImportLedger env.platform env.lossy env.toVec outside state (some json)).2)

/-- A copy of the ledger of the capsule that the runtime accepts. -/
def AcceptedCopy (copy : Option Document) : Prop :=
  ∃ doc ∈ copy, importAccepts env outside state doc = true

/-- The runtime accepts a document after the host decoded and encoded it. -/
def AcceptedRecoded (doc : Document) : Prop :=
  ∃ json ∈ recode env.dart doc, importAccepts env outside state json = true

/-- Where the runtime accepts a copy, one is imported; of two that it accepts, the longer. -/
def UsesBest (files : StoredFiles) : Prop :=
  AcceptedCopy env outside state (ledgerCopy env.dart pubKeyHex files) ∨
      AcceptedCopy env outside state (backupCopy env.dart pubKeyHex files) →
    ((∃ doc ∈ ledgerCopy env.dart pubKeyHex files,
        Imports env pubKeyHex identityMode seed outside state files doc) ∨
      ∃ doc ∈ backupCopy env.dart pubKeyHex files,
        Imports env pubKeyHex identityMode seed outside state files doc) ∧
    ∀ ledger ∈ ledgerCopy env.dart pubKeyHex files,
      ∀ backup ∈ backupCopy env.dart pubKeyHex files,
        importAccepts env outside state ledger = true →
        importAccepts env outside state backup = true →
        (eventCount env.dart backup < eventCount env.dart ledger →
          Imports env pubKeyHex identityMode seed outside state files ledger) ∧
        (eventCount env.dart ledger < eventCount env.dart backup →
          Imports env pubKeyHex identityMode seed outside state files backup)

/-- The files are read, and a ledger that is to be imported from `ledger.json` is accepted as
    the host encodes it. -/
def BestReadable (files : StoredFiles) : Prop :=
  AcceptedCopy env outside state (ledgerCopy env.dart pubKeyHex files) ∨
      AcceptedCopy env outside state (backupCopy env.dart pubKeyHex files) →
    ReadableFiles env.dart pubKeyHex files ∧
    ((∃ doc ∈ ledgerCopy env.dart pubKeyHex files, AcceptedRecoded env outside state doc) ∨
      AcceptedCopy env outside state (backupCopy env.dart pubKeyHex files)) ∧
    ∀ ledger ∈ ledgerCopy env.dart pubKeyHex files,
      ∀ backup ∈ backupCopy env.dart pubKeyHex files,
        importAccepts env outside state ledger = true →
        importAccepts env outside state backup = true →
        eventCount env.dart backup < eventCount env.dart ledger →
          AcceptedRecoded env outside state ledger

/-! ### A snapshot that stops -/

/-- A write of a snapshot. -/
inductive SnapshotWrite
  | ledger (text : StoredText)
  | backup (text : StoredText)
  | coreProjection

/-- The writes of a snapshot in their order.  A blank text, which is none here, throws before
    the first of them. -/
def writeLedgerSnapshot (ledgerJson backupJson : Option StoredText) (hasProjection : Bool) :
    List SnapshotWrite :=
  match ledgerJson, backupJson with
  | some ledger, some backup =>
    [.ledger ledger, .backup backup] ++ if hasProjection then [.coreProjection] else []
  | _, _ => []

/-- A write replaces its file at once. -/
def StoredFiles.write (files : StoredFiles) : SnapshotWrite → StoredFiles
  | .ledger ledger => { files with ledger := .text ledger }
  | .backup backup => { files with backup := .text backup }
  | .coreProjection => { files with state := some (files.state.getD ⟨none, none⟩) }

/-- The files after writes. -/
def StoredFiles.writes (files : StoredFiles) (writes : List SnapshotWrite) : StoredFiles :=
  writes.foldl StoredFiles.write files

/-- The ledger that was written last. -/
def lastWritten (before : FileContent) : List SnapshotWrite → FileContent
  | [] => before
  | .ledger ledger :: rest => lastWritten (.text ledger) rest
  | _ :: rest => lastWritten before rest

theorem ledger_writes (files : StoredFiles) (writes : List SnapshotWrite) :
    (files.writes writes).ledger = lastWritten files.ledger writes := by
  induction writes generalizing files with
  | nil => rfl
  | cons write rest ih =>
    show ((files.write write).writes rest).ledger = _
    rw [ih]
    cases write <;> rfl

/-- The last written ledger of the capsule that the runtime accepts is imported. -/
def RecoversLast (files : StoredFiles) (writes : List SnapshotWrite) : Prop :=
  ∀ doc, lastWritten files.ledger writes = .text (.json doc) →
    ownCopy env.dart pubKeyHex doc = some doc → importAccepts env outside state doc = true →
    Imports env pubKeyHex identityMode seed outside state (files.writes writes) doc

/-- The files are read, the last written ledger is accepted as the host encodes it, and no
    backup that the runtime accepts goes in front of it. -/
def LastReadable (files : StoredFiles) (writes : List SnapshotWrite) : Prop :=
  ∀ doc, lastWritten files.ledger writes = .text (.json doc) →
    ownCopy env.dart pubKeyHex doc = some doc → importAccepts env outside state doc = true →
    ReadableFiles env.dart pubKeyHex (files.writes writes) ∧ AcceptedRecoded env outside state doc ∧
    ∀ backup ∈ backupCopy env.dart pubKeyHex (files.writes writes),
      importAccepts env outside state backup = true → ¬ Overtakes env.dart backup doc

variable {env pubKeyHex identityMode seed outside state} {files : StoredFiles}

/-- An import comes from a document that is offered and accepted. -/
theorem Imports.accepted {copy : Document}
    (h : Imports env pubKeyHex identityMode seed outside state files copy) :
    AcceptedRecoded env outside state copy := by
  obtain ⟨_, json, -, hjson, hfound, -⟩ := h
  exact ⟨json, hjson, List.find?_some hfound⟩

variable {bootstrap : CapsuleRuntimeBootstrap Seed}

/-- What a bootstrap with candidates imports. -/
theorem imports_iff {copy : Document}
    (hload : loadRuntimeBootstrap env pubKeyHex identityMode (some seed) files
      = some (some bootstrap)) :
    Imports env pubKeyHex identityMode seed outside state files copy ↔
      ∃ json ∈ recode env.dart copy,
        bootstrap.ledgerImportCandidates.find? (importAccepts env outside state) = some json := by
  constructor
  · rintro ⟨other, json, hother, hjson, hfound, -⟩
    rw [hload] at hother
    rw [← Option.some.inj (Option.some.inj hother)] at hfound
    exact ⟨json, hjson, hfound⟩
  · rintro ⟨json, hjson, hfound⟩
    refine ⟨bootstrap, json, hload, hjson, hfound, ?_⟩
    have hsome : bootstrap.ledgerImportCandidates.isEmpty = false := by
      cases hcandidates : bootstrap.ledgerImportCandidates with
      | nil => simp [hcandidates] at hfound
      | cons candidate rest => rfl
    rw [importBootstrapLedgerCandidates, if_neg (by simp [hsome]), importCandidates_eq, hfound]

/-- A backup stays as it is when it is encoded again. -/
theorem recode_backupCopy (laws : DoubleLaws env.dart) {backup : Document}
    (h : backup ∈ backupCopy env.dart pubKeyHex files) : recode env.dart backup = some backup := by
  unfold backupCopy at h
  split at h
  · rename_i doc hdoc
    obtain ⟨ledger, hledger, hown⟩ := Option.bind_eq_some_iff.mp h
    rw [ownCopy] at hown
    split_ifs at hown
    rw [Option.some.inj hown] at hledger
    cases hextract : tryExtractLedgerJson env.dart doc with
    | none => simp [hextract] at hledger
    | some extracted =>
      rw [hextract] at hledger
      have hextracted : extracted = some backup := hledger
      rw [hextracted] at hextract
      exact (extracted_stays laws hextract).1
  · cases h

/-- The candidate of a backup is the backup. -/
theorem json_of_backup (laws : DoubleLaws env.dart) {backup : Document}
    (h : backup ∈ backupCopy env.dart pubKeyHex files) {candidate : LedgerCandidate}
    (hcandidate : IsCandidate env.dart .backup backup candidate) : candidate.json = backup := by
  have hjson := hcandidate.json
  rw [recode_backupCopy laws h] at hjson
  exact (Option.some.inj hjson).symm

/-- What is imported with only one candidate. -/
theorem imports_single {copy json : Document}
    (hload : loadRuntimeBootstrap env pubKeyHex identityMode (some seed) files
      = some (some bootstrap)) (hcandidates : bootstrap.ledgerImportCandidates = [json])
    (hjson : recode env.dart copy = some json) :
    Imports env pubKeyHex identityMode seed outside state files copy ↔
      importAccepts env outside state json = true := by
  rw [imports_iff hload, hcandidates]
  cases haccepts : importAccepts env outside state json with
  | true => simp [hjson, haccepts]
  | false => simp [haccepts]

variable {copy json other : Document}

/-- What is imported as the first of two candidates. -/
theorem imports_first (hload : loadRuntimeBootstrap env pubKeyHex identityMode (some seed) files
      = some (some bootstrap)) (hcandidates : bootstrap.ledgerImportCandidates = [json, other])
    (hjson : recode env.dart copy = some json)
    (haccepts : importAccepts env outside state json = true) :
    Imports env pubKeyHex identityMode seed outside state files copy := by
  rw [imports_iff hload, hcandidates]
  exact ⟨json, hjson, List.find?_cons_of_pos haccepts⟩

/-- What is imported as the second of two candidates. -/
theorem imports_second (hload : loadRuntimeBootstrap env pubKeyHex identityMode (some seed) files
      = some (some bootstrap)) (hcandidates : bootstrap.ledgerImportCandidates = [other, json])
    (hjson : recode env.dart copy = some json)
    (hrefuses : importAccepts env outside state other = false)
    (haccepts : importAccepts env outside state json = true) :
    Imports env pubKeyHex identityMode seed outside state files copy := by
  rw [imports_iff hload, hcandidates]
  refine ⟨json, hjson, ?_⟩
  rw [List.find?_cons_of_neg (by simp [hrefuses]), List.find?_cons_of_pos haccepts]

end BestCopy

section Recovery

variable {Seed Double : Type} {env : HostEnv Seed Double} {pubKeyHex identityMode : String}
  {seed : Seed} {outside : Outside Seed} {state : RuntimeState} {files : StoredFiles}
  {backup : Document}

/-- A backup is accepted as the host encodes it just when it is accepted. -/
theorem acceptedRecoded_backup (laws : DoubleLaws env.dart)
    (h : backup ∈ backupCopy env.dart pubKeyHex files) :
    AcceptedRecoded env outside state backup ↔ importAccepts env outside state backup = true := by
  simp [AcceptedRecoded, recode_backupCopy laws h]

/-- What is imported comes from files that are read. -/
theorem Imports.readable (laws : DoubleLaws env.dart) {copy : Document}
    (h : Imports env pubKeyHex identityMode seed outside state files copy) :
    ReadableFiles env.dart pubKeyHex files := by
  obtain ⟨_, _, hload, -⟩ := h
  exact readable_of_load laws hload

/-- A backup that holds a copy is read. -/
theorem backup_read_of_copy {Double : Type} {dart : DartRuntime Double}
    (h : backupCopy dart pubKeyHex files = some backup) :
    files.backup ≠ .undecodable ∧
      ∀ doc, files.backup = .text (.json doc) → tryExtractLedgerJson dart doc ≠ none := by
  unfold backupCopy at h
  split at h
  · rename_i doc hdoc
    rw [hdoc]
    refine ⟨nofun, ?_⟩
    rintro _ heq hnone
    cases heq
    rw [hnone] at h
    cases h
  · cases h

/-- What is offered when the two files hold copies. -/
theorem load_both (laws : DoubleLaws env.dart) (identityMode : String) (seed : Seed)
    (h : ReadableFiles env.dart pubKeyHex files) {ledger backup : Document}
    (hledger : ledgerCopy env.dart pubKeyHex files = some ledger)
    (hbackup : backupCopy env.dart pubKeyHex files = some backup) :
    ∃ bootstrap json,
      loadRuntimeBootstrap env pubKeyHex identityMode (some seed) files = some (some bootstrap) ∧
      recode env.dart ledger = some json ∧
      (json = backup → ¬ Overtakes env.dart backup ledger) ∧
      (Overtakes env.dart backup ledger ∧ bootstrap.ledgerImportCandidates = [backup, json] ∨
        ¬ Overtakes env.dart backup ledger ∧ bootstrap.ledgerImportCandidates = [json, backup]) := by
  obtain ⟨first, second, bootstrap, hfirst, hsecond, hload, hcandidates⟩ :=
    loadRuntimeBootstrap_of_readable laws identityMode seed h
  rw [hledger] at hfirst
  rw [hbackup] at hsecond
  cases hfirst with
  | some hfirst =>
    cases hsecond with
    | some hsecond =>
      rename_i ledgerCandidate backupCandidate
      have hjson := json_of_backup laws hbackup hsecond
      refine ⟨bootstrap, ledgerCandidate.json, hload, hfirst.json, ?_, ?_⟩
      · -- the same document has the same events
        intro hsame
        have hroot : exportLedgerRoot env.dart ledger = exportLedgerRoot env.dart backup := by
          rw [← hfirst.root, hsame]
        have hevents : storedEvents env.dart (some (.json ledger))
            = storedEvents env.dart (some (.json backup)) := by
          rw [storedEvents, storedEvents, hroot]
        unfold Overtakes eventCount tailTimestamp
        rw [hevents]
        rintro (hless | ⟨-, tail, htail, tail', htail', hlater⟩)
        · exact lt_irrefl _ hless
        · rw [Option.mem_def.mp htail, Option.mem_def, Option.some.injEq] at htail'
          omega
      · rcases orderedLedgerCandidates_eq hfirst hsecond with ⟨hover, heq⟩ | ⟨hover, heq⟩
        · exact Or.inl ⟨hover, by rw [hcandidates, heq, ← hjson]; rfl⟩
        · exact Or.inr ⟨hover, by rw [hcandidates, heq, ← hjson]; rfl⟩

/-- What is offered when only `ledger.json` holds a copy. -/
theorem load_ledger (laws : DoubleLaws env.dart) (identityMode : String) (seed : Seed)
    (h : ReadableFiles env.dart pubKeyHex files) {ledger : Document}
    (hledger : ledgerCopy env.dart pubKeyHex files = some ledger)
    (hbackup : backupCopy env.dart pubKeyHex files = none) :
    ∃ bootstrap json,
      loadRuntimeBootstrap env pubKeyHex identityMode (some seed) files = some (some bootstrap) ∧
      recode env.dart ledger = some json ∧ bootstrap.ledgerImportCandidates = [json] := by
  obtain ⟨first, second, bootstrap, hfirst, hsecond, hload, hcandidates⟩ :=
    loadRuntimeBootstrap_of_readable laws identityMode seed h
  rw [hledger] at hfirst
  rw [hbackup] at hsecond
  cases hfirst with
  | some hfirst =>
    cases hsecond with
    | none => exact ⟨bootstrap, _, hload, hfirst.json, hcandidates⟩

/-- What is offered when only the backup holds a copy. -/
theorem load_backup (laws : DoubleLaws env.dart) (identityMode : String) (seed : Seed)
    (h : ReadableFiles env.dart pubKeyHex files)
    (hledger : ledgerCopy env.dart pubKeyHex files = none)
    (hbackup : backupCopy env.dart pubKeyHex files = some backup) :
    ∃ bootstrap,
      loadRuntimeBootstrap env pubKeyHex identityMode (some seed) files = some (some bootstrap) ∧
      bootstrap.ledgerImportCandidates = [backup] := by
  obtain ⟨first, second, bootstrap, hfirst, hsecond, hload, hcandidates⟩ :=
    loadRuntimeBootstrap_of_readable laws identityMode seed h
  rw [hledger] at hfirst
  rw [hbackup] at hsecond
  cases hfirst with
  | none =>
    cases hsecond with
    | some hsecond =>
      refine ⟨bootstrap, hload, ?_⟩
      rw [hcandidates, ← json_of_backup laws hbackup hsecond]
      rfl

variable (identityMode seed outside state) in
/-- Of two copies the runtime accepts one is imported: the one in front, if it is accepted. -/
theorem imports_both (laws : DoubleLaws env.dart) (h : ReadableFiles env.dart pubKeyHex files)
    {ledger backup : Document} (hledger : ledgerCopy env.dart pubKeyHex files = some ledger)
    (hbackup : backupCopy env.dart pubKeyHex files = some backup) :
    (Imports env pubKeyHex identityMode seed outside state files ledger ↔
      AcceptedRecoded env outside state ledger ∧
        (importAccepts env outside state backup = true → ¬ Overtakes env.dart backup ledger)) ∧
    (importAccepts env outside state backup = true →
      Overtakes env.dart backup ledger ∨ ¬ AcceptedRecoded env outside state ledger →
        Imports env pubKeyHex identityMode seed outside state files backup) := by
  obtain ⟨bootstrap, json, hload, hjson, hsame, hcandidates⟩ :=
    load_both laws identityMode seed h hledger hbackup
  have hrecoded : AcceptedRecoded env outside state ledger ↔
      importAccepts env outside state json = true := by simp [AcceptedRecoded, hjson]
  have hkept := recode_backupCopy laws hbackup
  rw [hrecoded]
  rcases hcandidates with ⟨hover, hcandidates⟩ | ⟨hover, hcandidates⟩
  · refine ⟨⟨?_, ?_⟩, fun haccepts _ => imports_first hload hcandidates hkept haccepts⟩
    · intro himports
      refine ⟨hrecoded.mp himports.accepted, ?_⟩
      intro haccepts
      -- the backup is in front and is taken
      rw [imports_iff hload, hcandidates, List.find?_cons_of_pos haccepts] at himports
      obtain ⟨other, hother, heq⟩ := himports
      rw [hjson, Option.mem_def, Option.some.injEq] at hother
      exact hsame (hother.trans (Option.some.inj heq).symm)
    · rintro ⟨haccepts, hnot⟩
      have hrefuses : importAccepts env outside state backup = false := by
        rw [Bool.eq_false_iff]
        exact fun htrue => hnot htrue hover
      exact imports_second hload hcandidates hjson hrefuses haccepts
  · refine ⟨⟨?_, ?_⟩, ?_⟩
    · exact fun himports => ⟨hrecoded.mp himports.accepted, fun _ => hover⟩
    · exact fun haccepts => imports_first hload hcandidates hjson haccepts.1
    · intro haccepts hfront
      have hrefuses : importAccepts env outside state json = false := by
        rw [Bool.eq_false_iff]
        exact hfront.resolve_left hover
      exact imports_second hload hcandidates hkept hrefuses haccepts

/-- **When the best copy is imported.** -/
theorem usesBest_iff (laws : DoubleLaws env.dart) (files : StoredFiles) :
    UsesBest env pubKeyHex identityMode seed outside state files ↔
      BestReadable env pubKeyHex outside state files := by
  unfold UsesBest BestReadable
  refine imp_congr_right fun haccepted => ⟨?_, ?_⟩
  · rintro ⟨hone, hlonger⟩
    refine ⟨?_, ?_, ?_⟩
    · rcases hone with ⟨_, -, himports⟩ | ⟨_, -, himports⟩
      · exact himports.readable laws
      · exact himports.readable laws
    · rcases hone with ⟨doc, hdoc, himports⟩ | ⟨doc, hdoc, himports⟩
      · exact Or.inl ⟨doc, hdoc, himports.accepted⟩
      · exact Or.inr ⟨doc, hdoc, (acceptedRecoded_backup laws hdoc).mp himports.accepted⟩
    · intro ledger hledger backup hbackup haccepts haccepts' hless
      exact ((hlonger ledger hledger backup hbackup haccepts haccepts').1 hless).accepted
  · rintro ⟨hreadable, hone, hlonger⟩
    cases hledger : ledgerCopy env.dart pubKeyHex files with
    | none =>
      cases hbackup : backupCopy env.dart pubKeyHex files with
      | none =>
        rw [hledger, hbackup] at haccepted
        simp [AcceptedCopy] at haccepted
      | some backup =>
        obtain ⟨bootstrap, hload, hcandidates⟩ := load_backup laws identityMode seed hreadable hledger hbackup
        rw [hledger, hbackup] at haccepted
        have haccepts : importAccepts env outside state backup = true := by
          simpa [AcceptedCopy] using haccepted
        refine ⟨Or.inr ⟨backup, rfl, ?_⟩, fun _ hnone => by cases hnone⟩
        exact (imports_single hload hcandidates (recode_backupCopy laws hbackup)).mpr haccepts
    | some ledger =>
      cases hbackup : backupCopy env.dart pubKeyHex files with
      | none =>
        obtain ⟨bootstrap, json, hload, hjson, hcandidates⟩ :=
          load_ledger laws identityMode seed hreadable hledger hbackup
        rw [hledger, hbackup] at hone
        have haccepts : importAccepts env outside state json = true := by
          simpa [AcceptedCopy, AcceptedRecoded, hjson] using hone
        refine ⟨Or.inl ⟨ledger, rfl, ?_⟩, fun _ _ _ hnone => by cases hnone⟩
        exact (imports_single hload hcandidates hjson).mpr haccepts
      | some backup =>
        obtain ⟨hfirst, hsecond⟩ :=
          imports_both identityMode seed outside state laws hreadable hledger hbackup
        rw [hledger, hbackup] at hone hlonger
        simp only [Option.mem_def, Option.some.injEq, exists_eq_left', forall_eq', AcceptedCopy]
          at hone hlonger ⊢
        refine ⟨?_, ?_⟩
        · by_cases haccepts : importAccepts env outside state backup = true
          · by_cases hfront : Overtakes env.dart backup ledger ∨ ¬ AcceptedRecoded env outside state ledger
            · exact Or.inr (hsecond haccepts hfront)
            · rw [not_or, not_not] at hfront
              exact Or.inl (hfirst.mpr ⟨hfront.2, fun _ => hfront.1⟩)
          · exact Or.inl (hfirst.mpr ⟨hone.resolve_right haccepts, fun htrue => absurd htrue haccepts⟩)
        · intro haccepts haccepts'
          refine ⟨fun hless => ?_, fun hless => hsecond haccepts' (Or.inl (Or.inl hless))⟩
          refine hfirst.mpr ⟨hlonger haccepts haccepts' hless, fun _ => ?_⟩
          rintro (hmore | ⟨hequal, -⟩)
          · omega
          · omega

/-- **When the ledger written last is imported.** -/
theorem recoversLast_iff (laws : DoubleLaws env.dart) (files : StoredFiles)
    (writes : List SnapshotWrite) :
    RecoversLast env pubKeyHex identityMode seed outside state files writes ↔
      LastReadable env pubKeyHex outside state files writes := by
  unfold RecoversLast LastReadable
  refine forall_congr' fun doc => imp_congr_right fun hlast => imp_congr_right fun hown =>
    imp_congr_right fun _ => ?_
  have hledger : ledgerCopy env.dart pubKeyHex (files.writes writes) = some doc := by
    rw [ledgerCopy, ledger_writes, hlast]
    exact hown
  cases hbackup : backupCopy env.dart pubKeyHex (files.writes writes) with
  | none =>
    refine ⟨fun himports => ⟨himports.readable laws, himports.accepted, fun _ hnone => by cases hnone⟩, ?_⟩
    rintro ⟨hreadable, ⟨json, hjson, haccepts⟩, -⟩
    obtain ⟨bootstrap, json', hload, hjson', hcandidates⟩ :=
      load_ledger laws identityMode seed hreadable hledger hbackup
    rw [Option.mem_def, hjson', Option.some.injEq] at hjson
    exact (imports_single hload hcandidates hjson').mpr (hjson ▸ haccepts)
  | some backup =>
    simp only [Option.mem_def, Option.some.injEq, forall_eq']
    refine ⟨?_, ?_⟩
    · intro himports
      have hreadable := himports.readable laws
      exact ⟨hreadable,
        (imports_both identityMode seed outside state laws hreadable hledger hbackup).1.mp himports⟩
    · rintro ⟨hreadable, hlast⟩
      exact (imports_both identityMode seed outside state laws hreadable hledger hbackup).1.mpr hlast

/-- **When a bootstrap recovers the best copy, and after an interrupted snapshot the ledger
    written last.** -/
theorem bootstrap_recovers_iff (laws : DoubleLaws env.dart) (pubKeyHex identityMode : String)
    (seed : Seed) (outside : Outside Seed) (state : RuntimeState) (files : StoredFiles) :
    (UsesBest env pubKeyHex identityMode seed outside state files ↔
      BestReadable env pubKeyHex outside state files) ∧
    ∀ (ledgerJson backupJson : Option StoredText) (hasProjection : Bool) (steps : ℕ),
      RecoversLast env pubKeyHex identityMode seed outside state files
          ((writeLedgerSnapshot ledgerJson backupJson hasProjection).take steps) ↔
        LastReadable env pubKeyHex outside state files
          ((writeLedgerSnapshot ledgerJson backupJson hasProjection).take steps) :=
  ⟨usesBest_iff laws files, fun _ _ _ _ => recoversLast_iff laws files _⟩

end Recovery

/-! ### A damaged ledger -/

theorem sampleDart_laws : DoubleLaws sampleDart := by
  refine ⟨fun _ _ => rfl, ?_⟩
  intro double text h
  exact (Option.some.inj h).symm

/-- The ledger of a relay. -/
def relayDocument : Document :=
  (hivraExportLedger samplePlatform relayState).getD .null

/-- The files of a relay whose `ledger.json` was damaged. -/
def damagedFiles : StoredFiles where
  ledger := .text .garbled
  backup := match encodeBackupEnvelope sampleDart "" relayDocument none none with
    | some envelope => .text (.json envelope)
    | none => .missing
  state := none

/-- What the native store answers to an import of the relay. -/
def relayOutside : Outside (PubKey × PubKey) := ⟨some bornSeed, some 30⟩

/-- **Counterexample.** The backup of the relay is accepted, and the damaged `ledger.json`
    throws. -/
theorem damagedLedger_throws :
    ¬ ∀ files : StoredFiles,
      UsesBest sampleEnv relayDir "root_owner" bornSeed relayOutside relayState files := by
  intro hbest
  have haccepted : (backupCopy sampleDart relayDir damagedFiles).any
      (importAccepts sampleEnv relayOutside relayState) = true := by decide +kernel
  rw [Option.any_eq_true] at haccepted
  obtain ⟨hone, -⟩ := hbest damagedFiles (Or.inr haccepted)
  rcases hone with ⟨_, -, _, _, hload, -⟩ | ⟨_, -, _, _, hload, -⟩
  · cases hload
  · cases hload

/-- The files of a relay whose `ledger.json` is missing. -/
def restoredFiles : StoredFiles := { damagedFiles with ledger := .missing }

/-- A backup without a `ledger.json` beside it is imported. -/
theorem bootstrap_recovers_relay :
    UsesBest sampleEnv relayDir "root_owner" bornSeed relayOutside relayState restoredFiles := by
  have haccepted : (backupCopy sampleDart relayDir restoredFiles).any
      (importAccepts sampleEnv relayOutside relayState) = true := by decide +kernel
  rw [Option.any_eq_true] at haccepted
  refine (bootstrap_recovers_iff sampleDart_laws relayDir "root_owner" bornSeed relayOutside
    relayState restoredFiles).1.mpr fun _ => ⟨?_, Or.inr haccepted, fun _ h => by cases h⟩
  obtain ⟨backup, hbackup, -⟩ := haccepted
  obtain ⟨htext, hnumbers⟩ := backup_read_of_copy hbackup
  exact ⟨⟨by simp [restoredFiles], by simp [restoredFiles]⟩, htext, fun _ h => (nomatch h), hnumbers⟩

end Hivra
