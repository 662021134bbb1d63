import Hivra.Host.LedgerWriters

namespace Hivra

open ByteString JsonDocument Serde

/-!
# What the writers of a ledger are handed

A capsule's ledgers come from one history when each of them holds a first part of it.  A
writer then needs its turn: from its check of the stored ledger, or from reading it, to its
write no other writer may start to write there.  Both are conditions on what a writer is
handed and on where the others stand, before each move.
-/

/-- An event as the host decodes it. -/
def eventValue {Double : Type} (dart : DartRuntime Double) (event : Event) : DartValue Double :=
  (eventDocument event).map (decodeNumber dart)

/-- The directories that are watched, and the events a ledger may have there. -/
structure LedgerRule where
  watches : String → Prop
  allows : String → List Event → Prop
  named : ∀ dir, watches dir → dir ≠ ""

/-- A ledger of the capsule of a directory, with events that the rule allows and numbers that
    the host keeps. -/
structure LedgerRule.Admits (rule : LedgerRule) (dir : String) (ledger : Ledger) : Prop where
  owner : hexText ledger.owner.bytes.toList = dir
  events : rule.allows dir ledger.events
  fits : FitsHost ledger
  length : ledger.events.length < 2 ^ 63

section Texts

variable {Seed Double : Type} (env : HostEnv Seed Double) (rule : LedgerRule) (dir : String)

/-- In a watched directory a text is the export of a ledger that the rule admits. -/
def LedgerRule.Allows (text : StoredText) : Prop :=
  rule.watches dir → ∃ ledger, rule.Admits dir ledger ∧
    text = .json (exportedLedger env.platform.sha256 ledger)

/-- The ledger in a backup, if there is one, is allowed. -/
def LedgerRule.AllowsBackup (text : StoredText) : Prop :=
  ∀ doc inner, text = .json doc → tryExtractLedgerJson env.dart doc = some (some inner) →
    rule.Allows env dir (.json inner)

variable {env rule dir}

/-- The events in an exported ledger. -/
theorem storedEvents_exported (ledger : Ledger) :
    storedEvents env.dart (some (.json (exportedLedger env.platform.sha256 ledger)))
      = ledger.events.map (eventValue env.dart) := by
  rw [storedEvents, exportLedgerRoot_exported, Option.map_some, Option.getD_some,
    rootEvents_decoded]
  rfl

/-- The backup of an allowed ledger is allowed. -/
theorem LedgerRule.Allows.backup {doc backup : Document} {exportedAt : String}
    {isGenesis isNeste : Option Bool} (h : rule.Allows env dir (.json doc))
    (hencode : encodeBackupEnvelope env.dart exportedAt doc isGenesis isNeste = some backup) :
    rule.AllowsBackup env dir (.json backup) := by
  intro text inner htext hinner hwatched
  obtain ⟨ledger, hadmits, hdoc⟩ := h hwatched
  obtain rfl := StoredText.json.inj hdoc
  obtain ⟨flags, hflags, hencode'⟩ := encodeBackupEnvelope_exported env.dart env.platform.sha256
    hadmits.fits exportedAt isGenesis isNeste
  rw [hencode, Option.some.injEq] at hencode'
  rw [← StoredText.json.inj htext, hencode', tryExtractLedgerJson_envelopeOf env.dart
    env.platform.sha256 hadmits.fits hflags, Option.some.injEq, Option.some.injEq] at hinner
  exact ⟨ledger, hadmits, by rw [hinner]⟩

/-! ### A refresh -/

/-- The candidate in an allowed text is its ledger. -/
theorem candidate_of_admits {ledger : Ledger} (h : rule.Admits dir ledger) (source : LedgerSource) :
    ∃ candidate, ledgerCandidateForCapsule env.dart (exportedLedger env.platform.sha256 ledger) dir
        source = some (some candidate) ∧
      candidate.json = exportedLedger env.platform.sha256 ledger ∧
      candidate.eventCount = ledger.events.length := by
  have hcandidate := candidate_of_fits env.dart env.platform.sha256 h.fits source
  rwa [h.owner] at hcandidate

/-- An import that succeeds leaves the ledger of the document, migrated if it is a v4 one. -/
theorem admits_import {outside : Outside Seed} {state state' : RuntimeState} {ledger : Ledger}
    (hadmits : rule.Admits dir ledger)
    (h : hivraImportLedger env.platform env.lossy env.toVec outside state
      (some (exportedLedger env.platform.sha256 ledger)) = (0, state')) :
    ∃ capsule, state'.capsule = some capsule ∧ rule.Admits dir capsule.ledger := by
  have hcount : ledger.CountFits := by
    intro continuity hcontinuity
    have hfits := hadmits.fits.counts continuity hcontinuity
    omega
  unfold hivraImportLedger at h
  dsimp only at h
  rw [parseLedgerJson_export env.lossy env.platform.sha256 hcount] at h
  dsimp only at h
  split at h
  · rename_i hok
    obtain rfl := (Prod.mk.inj h).2
    unfold importRuntimeLedger at hok
    split at hok
    · cases hok
    · split at hok
      · cases hok
      · split at hok
        · cases hok
        · rename_i capsule _ _ _ _ admitted hadmitted
          refine ⟨{ capsule with ledger := admitted }, by rw [← (Prod.mk.inj hok).2]; rfl, ?_⟩
          rcases admitImportedLedger_ok hadmitted with ⟨-, rfl⟩ | ⟨anchor, rfl⟩
          · exact hadmits
          · refine ⟨hadmits.owner, hadmits.events, ⟨hadmits.fits.timestamps, ?_, ?_⟩,
              hadmits.length⟩
            · intro continuity hcontinuity
              rw [← Option.some.inj hcontinuity]
              exact fun receipt hreceipt => absurd hreceipt List.not_mem_nil
            · intro continuity hcontinuity
              rw [← Option.some.inj hcontinuity]
              exact hadmits.length
  · cases h

/-- What is imported of several candidates that are admitted. -/
theorem admits_importFirst {outside : LedgerSource → Outside Seed} {state state' : RuntimeState}
    {candidates : List LedgerCandidate}
    (hcandidates : ∀ candidate ∈ candidates, ∃ ledger, rule.Admits dir ledger ∧
      candidate.json = exportedLedger env.platform.sha256 ledger)
    (h : importFirst env outside state candidates = (true, state')) :
    ∃ capsule, state'.capsule = some capsule ∧ rule.Admits dir capsule.ledger := by
  induction candidates generalizing state with
  | nil => cases h
  | cons candidate rest ih =>
    rw [importFirst] at h
    split at h
    · rename_i hok
      obtain ⟨ledger, hadmits, hjson⟩ := hcandidates candidate List.mem_cons_self
      rw [hjson] at hok
      obtain rfl := (Prod.mk.inj h).2
      exact admits_import hadmits hok
    · exact ih (fun other hother => hcandidates other (List.mem_cons_of_mem candidate hother)) h

/-- The exported ledger of a capsule that is admitted is allowed. -/
theorem allows_export {state : RuntimeState} {capsule : Capsule} {doc : Document}
    (hcapsule : state.capsule = some capsule) (hadmits : rule.Admits dir capsule.ledger)
    (h : hivraExportLedger env.platform state = some doc) : rule.Allows env dir (.json doc) := by
  rw [hivraExportLedger, exportRuntimeLedger, hcapsule] at h
  exact fun _ => ⟨capsule.ledger, hadmits, by rw [← Option.some.inj h]⟩

/-- The candidates in allowed files are admitted ledgers. -/
theorem candidates_of_allows (hwatched : rule.watches dir) {ledger backup : Option StoredText}
    (hledger : ∀ text ∈ ledger, rule.Allows env dir text)
    (hbackup : ∀ text ∈ backup, rule.AllowsBackup env dir text)
    {ledgerCandidate backupCandidate : Option LedgerCandidate}
    (hfirst : candidateOfText env.dart dir .ledger ledger = some ledgerCandidate)
    (hsecond : candidateOfBackup env.dart dir backup = some backupCandidate) :
    (∀ candidate ∈ orderedLedgerCandidates ledgerCandidate backupCandidate,
      ∃ ledger, rule.Admits dir ledger ∧
        candidate.json = exportedLedger env.platform.sha256 ledger) ∧
    (ledger.isSome = true → ∃ candidate ∈ ledgerCandidate,
      candidate.eventCount = (storedEvents env.dart ledger).length) := by
  have hledgers : ∀ candidate ∈ ledgerCandidate, ∃ ledger, rule.Admits dir ledger ∧
      candidate.json = exportedLedger env.platform.sha256 ledger := by
    rintro candidate rfl
    cases ledger with
    | none => cases hfirst
    | some text =>
      obtain ⟨ledger, hadmits, rfl⟩ := hledger text rfl hwatched
      obtain ⟨other, hother, hjson, -⟩ := candidate_of_admits hadmits .ledger
      rw [candidateOfText, hother, Option.some.injEq, Option.some.injEq] at hfirst
      exact ⟨ledger, hadmits, by rw [← hfirst, hjson]⟩
  have hbackups : ∀ candidate ∈ backupCandidate, ∃ ledger, rule.Admits dir ledger ∧
      candidate.json = exportedLedger env.platform.sha256 ledger := by
    rintro candidate rfl
    unfold candidateOfBackup at hsecond
    split at hsecond
    · rename_i doc
      split at hsecond
      · cases hsecond
      · cases hsecond
      · rename_i inner hinner
        obtain ⟨ledger, hadmits, hjson⟩ := hbackup _ rfl doc inner rfl hinner hwatched
        obtain rfl := StoredText.json.inj hjson
        obtain ⟨other, hother, hdoc, -⟩ := candidate_of_admits hadmits .backup
        rw [hother, Option.some.injEq, Option.some.injEq] at hsecond
        exact ⟨ledger, hadmits, by rw [← hsecond, hdoc]⟩
    · cases hsecond
  constructor
  · intro candidate hcandidate
    have hmem : candidate ∈ ledgerCandidate ∨ candidate ∈ backupCandidate := by
      cases ledgerCandidate <;> cases backupCandidate <;>
        simp only [orderedLedgerCandidates, List.not_mem_nil, List.mem_singleton] at hcandidate
      · exact Or.inr (congrArg some hcandidate.symm)
      · exact Or.inl (congrArg some hcandidate.symm)
      · unfold selectPreferredLedgerCandidate at hcandidate
        split_ifs at hcandidate <;> grind
    exact hmem.elim (hledgers candidate) (hbackups candidate)
  · intro hsome
    obtain ⟨text, rfl⟩ := Option.isSome_iff_exists.mp hsome
    obtain ⟨ledger, hadmits, rfl⟩ := hledger text rfl hwatched
    obtain ⟨candidate, hcandidate, -, hlength⟩ := candidate_of_admits hadmits .ledger
    rw [candidateOfText, hcandidate, Option.some.injEq] at hfirst
    exact ⟨candidate, hfirst.symm, by rw [hlength, storedEvents_exported, List.length_map]⟩

variable (env) in
/-- The capsule that a refresh makes where nothing is stored. -/
def refreshBirth (outside : RefreshOutside Seed) (seed : Seed) (state : Option StateFile)
    (runtime : RuntimeState) : ℤ × RuntimeState :=
  hivraCapsuleCreate env.platform outside.create runtime seed
    (flagByte ((state.bind StateFile.isNeste).getD true))
    (flagByte ((state.bind StateFile.isGenesis).getD false)) 1

/-- **What a refresh makes of allowed files** is allowed, and has no fewer events than the
    ledger it has read. -/
theorem refreshRuntime_allows (hwatched : rule.watches dir) {ledger backup : Option StoredText}
    (hledger : ∀ text ∈ ledger, rule.Allows env dir text)
    (hbackup : ∀ text ∈ backup, rule.AllowsBackup env dir text)
    {outside : RefreshOutside Seed} {state : Option StateFile} {runtime runtime' : RuntimeState}
    (hbirth : ledger = none → backup = none → ∀ seed ∈ outside.seed, ∀ created,
      refreshBirth env outside seed state runtime = (0, created) →
        ∀ doc ∈ hivraExportLedger env.platform created, rule.Allows env dir (.json doc))
    {document : LedgerDocument env.dart}
    (h : refreshRuntime env dir outside state ledger backup runtime = (some document, runtime')) :
    rule.Allows env dir (.json document.doc) ∧ (storedEvents env.dart ledger).length
      ≤ (storedEvents env.dart (some (.json document.doc))).length := by
  unfold refreshRuntime at h
  split at h
  · rename_i seed ledgerCandidate backupCandidate hseed hfirst hsecond
    obtain ⟨hcandidates, hcount⟩ :=
      candidates_of_allows hwatched hledger hbackup hfirst hsecond
    dsimp only at h
    split at h
    · rename_i inferredGenesis inferredNeste hgenesis hneste
      split at h
      · rename_i created hcreated
        split_ifs at h with hmissing
        · cases h
        · split at h
          · cases h
          · rename_i exported hexported
            split at h
            · rename_i root exportedCandidate hroot hcandidate
              split_ifs at h with hrejects
              · cases h
              · obtain rfl : exported = document.doc :=
                  congrArg LedgerDocument.doc (Option.some.inj (Prod.mk.inj h).1)
                have hallowed : rule.Allows env dir (.json document.doc) := by
                  rcases himports : importFirst env outside.imports created
                    (orderedLedgerCandidates ledgerCandidate backupCandidate) with ⟨imported, left⟩
                  rw [himports] at hmissing hexported
                  cases imported with
                  | true =>
                    obtain ⟨capsule, hcapsule, hadmits⟩ := admits_importFirst hcandidates himports
                    exact allows_export hcapsule hadmits hexported
                  | false =>
                    -- nothing is stored, and the new capsule is exported
                    obtain ⟨rfl, rfl⟩ : ledger = none ∧ backup = none := by simpa using hmissing
                    cases hfirst
                    cases hsecond
                    cases hgenesis
                    cases hneste
                    obtain rfl := (Prod.mk.inj himports).2
                    exact hbirth rfl rfl seed hseed created hcreated _ hexported
                refine ⟨hallowed, ?_⟩
                cases ledger with
                | none => exact Nat.zero_le _
                | some text =>
                  obtain ⟨candidate, rfl, hread⟩ := hcount rfl
                  obtain ⟨ledger', hadmits, hdoc⟩ := hallowed hwatched
                  rw [StoredText.json.inj hdoc] at hcandidate ⊢
                  obtain ⟨other, hother, -, hlength⟩ := candidate_of_admits hadmits .ledger
                  obtain rfl := Option.some.inj (hother.symm.trans hcandidate)
                  rw [storedEvents_exported, List.length_map, ← hlength, ← hread]
                  simp only [refreshRejects, Bool.or_eq_true, decide_eq_true_eq, not_or,
                    not_lt] at hrejects
                  exact hrejects.1
            · cases h
      · cases h
    · cases h
  · cases h

end Texts

section Writers

variable {Seed Double : Type} {env : HostEnv Seed Double} (rule : LedgerRule)

/-! ### What a writer is handed -/

/-- The texts with a writer are allowed where it is to store them. -/
def Writer.Handed : Writer env → Prop
  | .exported _ => True
  | .located dir ledger => rule.Allows env dir ledger
  | .storing dir ledger backup => rule.Allows env dir (.json ledger.doc) ∧
      ∀ doc ∈ backup, rule.AllowsBackup env dir (.json doc)
  | .storingBackup dir backup => rule.AllowsBackup env dir (.json backup)
  | .refreshing _ _ => True
  | .refreshRead dir _ ledger => ∀ text ∈ ledger, rule.Allows env dir text
  | .publishing owner ledger backup _ _ =>
    rule.Allows env owner (.json ledger.doc) ∧ rule.AllowsBackup env owner (.json backup)
  | .entering _ next => next.Handed
  | .migrating _ next => next.Handed

/-- What a writer is handed by its next move is allowed: the ledger of the runtime for the
    capsule that the runtime holds, the files of old for the directory they move to, and the
    new capsule of a refresh that finds no file. -/
def Writer.Receives (host : HostProcess env) : Writer env → Prop
  | .exported ledger =>
    rule.Allows env (capsuleDirOf (hivraCapsuleRuntimeOwnerPublicKey host.runtime)) (.json ledger)
  | .migrating dir _ => ∀ ledger ∈ host.legacyLedger dir, rule.Allows env dir (.json ledger.doc) ∧
      ∀ text ∈ host.readBackup "", rule.AllowsBackup env dir text
  | .refreshRead dir outside none => host.readBackup dir = none → ∀ seed ∈ outside.seed,
      ∀ created, refreshBirth env outside seed (host.readState dir) host.runtime = (0, created) →
        ∀ doc ∈ hivraExportLedger env.platform created, rule.Allows env dir (.json doc)
  | _ => True

/-- The files and the writers under way hold what is allowed. -/
structure FilesKept (host : HostProcess env) (pool : List (Writer env)) : Prop where
  ledgers : ∀ dir, rule.watches dir → ∀ text ∈ host.readLedger dir, rule.Allows env dir text
  backups : ∀ dir, rule.watches dir → ∀ text ∈ host.readBackup dir, rule.AllowsBackup env dir text
  handed : ∀ writer ∈ pool, writer.Handed rule

variable {rule} {host : HostProcess env} {writer : Writer env} {others : List (Writer env)}

/-- What a move leaves of a writer. -/
inductive Writer.Next (exportedAt : String) (host : HostProcess env) :
    Writer env → Writer env → Prop
  | exported (ledger : Document) (dir : String)
      (hdir : capsuleDirOf (hivraCapsuleRuntimeOwnerPublicKey host.runtime) = dir) :
      Next exportedAt host (.exported ledger) (.entering dir (.located dir (.json ledger)))
  | entered (dir : String) (next : Writer env) : Next exportedAt host (.entering dir next) next
  | creating (dir : String) (next : Writer env) (hfiles : host.files dir = none) :
      Next exportedAt host (.entering dir next) (.migrating dir next)
  | migrated (dir : String) (next : Writer env) : Next exportedAt host (.migrating dir next) next
  | checked (dir : String) (ledger : LedgerDocument env.dart) (backup : Document)
      (isGenesis isNeste : Option Bool)
      (hfresh : isIncomingLedgerStale env.dart (.json ledger.doc) (host.readLedger dir)
        = some false)
      (hencode : encodeBackupEnvelope env.dart exportedAt ledger.doc isGenesis isNeste
        = some backup) :
      Next exportedAt host (.located dir (.json ledger.doc)) (.storing dir ledger (some backup))
  | stored (dir : String) (ledger : LedgerDocument env.dart) (backup : Document) :
      Next exportedAt host (.storing dir ledger (some backup)) (.storingBackup dir backup)
  | read (dir : String) (outside : RefreshOutside Seed) :
      Next exportedAt host (.refreshing dir outside) (.refreshRead dir outside (host.readLedger dir))
  | refreshed (dir : String) (outside : RefreshOutside Seed) (ledger : Option StoredText)
      (document : LedgerDocument env.dart) (runtime : RuntimeState)
      (hrefresh : refreshRuntime env dir outside (host.readState dir) ledger (host.readBackup dir)
        host.runtime = (some document, runtime)) :
      Next exportedAt host (.refreshRead dir outside ledger) (.storing dir document none)

/-- **What a move leaves of a writer** is its next stage. -/
theorem next_of_advance {exportedAt : String} {next : Writer env}
    (h : (writer.advance env exportedAt host).1 = some next) : writer.Next exportedAt host next := by
  cases writer with
  | exported ledger =>
    cases h
    exact .exported ledger _ rfl
  | entering dir left =>
    unfold Writer.advance at h
    dsimp only at h
    split_ifs at h with hfiles
    · cases h
      exact .entered dir _
    · cases h
      rw [not_or, Option.not_isSome_iff_eq_none] at hfiles
      exact .creating dir left hfiles.1
  | migrating dir left =>
    cases h
    exact .migrated dir _
  | located dir text =>
    unfold Writer.advance persistLedgerGeneration at h
    dsimp only at h
    split at h
    · rename_i hfresh
      split at h
      · cases h
      · split at h
        · cases h
        · split at h
          · cases h
          · rename_i hencode
            cases h
            rename_i doc root hroot _ backup
            exact .checked dir ⟨doc, root, hroot⟩ backup _ _ hfresh hencode
    · cases h
  | storing dir ledger backup =>
    obtain ⟨doc, rfl, rfl⟩ := Option.map_eq_some_iff.mp h
    exact .stored dir ledger doc
  | storingBackup dir backup => cases h
  | refreshing dir outside =>
    cases h
    exact .read dir outside
  | refreshRead dir outside ledger =>
    unfold Writer.advance at h
    dsimp only at h
    obtain ⟨document, hdocument, rfl⟩ := Option.map_eq_some_iff.mp h
    exact .refreshed dir outside ledger document _ (Prod.ext hdocument rfl)
  | publishing owner ledger backup isGenesis isNeste =>
    unfold Writer.advance at h
    dsimp only at h
    split_ifs at h

/-- What a move stores is allowed. -/
theorem allows_of_stores {dir : String} {ledger : LedgerDocument env.dart}
    (hhanded : writer.Handed rule) (hreceives : writer.Receives rule host)
    (h : writer.stores env host = some (dir, ledger)) : rule.Allows env dir (.json ledger.doc) := by
  cases writer with
  | storing target stored backup =>
    cases h
    exact hhanded.1
  | migrating target next =>
    obtain ⟨legacy, hlegacy, heq⟩ := Option.map_eq_some_iff.mp h
    cases heq
    exact (hreceives ledger hlegacy).1
  | publishing owner stored backup isGenesis isNeste =>
    unfold Writer.stores at h
    dsimp only at h
    split_ifs at h
    cases h
    exact hhanded.1
  | _ => cases h

theorem readBackup_setFiles (host : HostProcess env) (dir other : String) (files : CapsuleFiles) :
    (host.setFiles dir files).readBackup other
      = if other = dir then files.backup else host.readBackup other := by
  show (Function.update host.files dir (some files) other).bind CapsuleFiles.backup = _
  split_ifs with h
  · rw [h, Function.update_self]
    rfl
  · rw [Function.update_of_ne h]
    rfl

theorem backup_filesAt (host : HostProcess env) (dir : String) :
    (host.filesAt dir).backup = host.readBackup dir := by
  unfold HostProcess.filesAt HostProcess.readBackup
  cases host.files dir <;> rfl

/-- A backup that a move leaves was there, or is allowed. -/
theorem allowsBackup_advance {dir exportedAt : String} {text : StoredText} (hdir : dir ≠ "")
    (hbackups : ∀ text ∈ host.readBackup dir, rule.AllowsBackup env dir text)
    (hhanded : writer.Handed rule) (hreceives : writer.Receives rule host)
    (h : text ∈ (writer.advance env exportedAt host).2.readBackup dir) :
    rule.AllowsBackup env dir text := by
  cases writer with
  | entering target next =>
    unfold Writer.advance at h
    dsimp only at h
    split_ifs at h
    · exact hbackups text h
    · rw [readBackup_setFiles] at h
      split_ifs at h
      · cases h
      · exact hbackups text h
  | migrating target next =>
    unfold Writer.advance HostProcess.migrateLegacy at h
    dsimp only at h
    split at h
    · exact hbackups text h
    · rename_i ledger hlegacy
      rw [readBackup_setFiles, readBackup_setFiles, if_neg hdir] at h
      split_ifs at h with htarget
      · subst htarget
        cases hroot : host.readBackup "" with
        | none =>
          rw [hroot] at h
          exact hbackups text h
        | some backup =>
          rw [hroot] at h
          exact (hreceives ledger hlegacy).2 text (hroot.trans h)
      · exact hbackups text h
  | located target ledger =>
    unfold Writer.advance at h
    dsimp only at h
    split at h <;> exact hbackups text h
  | storing target ledger backup =>
    unfold Writer.advance HostProcess.writeLedger at h
    rw [readBackup_setFiles] at h
    split_ifs at h with htarget
    · subst htarget
      exact hbackups text (by rwa [← backup_filesAt])
    · exact hbackups text h
  | storingBackup target backup =>
    unfold Writer.advance HostProcess.writeBackup at h
    rw [readBackup_setFiles] at h
    split_ifs at h with htarget
    · subst htarget
      rw [← Option.some.inj h]
      exact hhanded
    · exact hbackups text h
  | publishing owner ledger backup isGenesis isNeste =>
    unfold Writer.advance at h
    dsimp only at h
    split_ifs at h
    · exact hbackups text h
    · rw [readBackup_setFiles] at h
      split_ifs at h with htarget
      · subst htarget
        rw [← Option.some.inj h]
        exact hhanded.2
      · exact hbackups text h
  | exported ledger => exact hbackups text h
  | refreshing pubKeyHex outside => exact hbackups text h
  | refreshRead pubKeyHex outside ledger => exact hbackups text h

/-- What is left of a writer has allowed texts with it. -/
theorem handed_advance {exportedAt : String} {next : Writer env}
    (h : FilesKept rule host (writer :: others)) (hreceives : writer.Receives rule host)
    (hnext : (writer.advance env exportedAt host).1 = some next) : next.Handed rule := by
  have hhanded : writer.Handed rule := h.handed writer List.mem_cons_self
  cases next_of_advance hnext with
  | exported ledger dir hdir =>
    rw [← hdir]
    exact hreceives
  | entered => exact hhanded
  | creating => exact hhanded
  | migrated => exact hhanded
  | checked dir ledger backup isGenesis isNeste hfresh hencode =>
    refine ⟨hhanded, fun doc hdoc => ?_⟩
    rw [← Option.some.inj hdoc]
    exact LedgerRule.Allows.backup hhanded hencode
  | stored dir ledger backup => exact hhanded.2 backup rfl
  | read dir outside =>
    intro text htext hwatched
    exact h.ledgers dir hwatched text htext hwatched
  | refreshed dir outside ledger document runtime hrefresh =>
    refine ⟨fun hwatched => ?_, fun doc hdoc => by cases hdoc⟩
    refine (refreshRuntime_allows hwatched hhanded (h.backups dir hwatched) ?_ hrefresh).1 hwatched
    rintro rfl hbackup
    exact hreceives hbackup

/-- **A move hands on, and leaves on disk, what the rule allows.** -/
theorem kept_advance {exportedAt : String} (h : FilesKept rule host (writer :: others))
    (hreceives : writer.Receives rule host) :
    FilesKept rule (writer.advance env exportedAt host).2
      ((writer.advance env exportedAt host).1.toList ++ others) where
  ledgers := by
    intro dir hwatched text htext
    rw [Writer.readLedger_advance exportedAt host writer (rule.named dir hwatched)] at htext
    cases hstores : writer.stores env host with
    | none =>
      rw [hstores] at htext
      exact h.ledgers dir hwatched text htext
    | some pair =>
      rw [hstores] at htext
      unfold storedLedger at htext
      dsimp only at htext
      split_ifs at htext with htarget
      · rw [← Option.some.inj htext, htarget]
        exact allows_of_stores (h.handed writer List.mem_cons_self) hreceives hstores
      · exact h.ledgers dir hwatched text htext
  backups := by
    intro dir hwatched text htext
    exact allowsBackup_advance (rule.named dir hwatched) (h.backups dir hwatched)
      (h.handed writer List.mem_cons_self) hreceives htext
  handed := by
    intro other hother
    rcases List.mem_append.mp hother with hnext | hother
    · exact handed_advance h hreceives (Option.mem_toList.mp hnext)
    · exact h.handed other (List.mem_cons_of_mem writer hother)

end Writers

section Turns

variable {Seed Double : Type} {env : HostEnv Seed Double}

/-! ### Whose turn it is -/

/-- A writer has its turn in a directory: it is to write there without another look at the
    stored ledger. -/
def Writer.Holds (dir : String) : Writer env → Prop
  | .storing target _ _ => target = dir
  | .refreshRead target _ _ => target = dir
  | .entering _ next => next.Holds dir
  | .migrating target next => target = dir ∨ next.Holds dir
  | _ => False

instance Writer.decidableHolds (dir : String) : ∀ writer : Writer env, Decidable (writer.Holds dir)
  | .storing target _ _ => inferInstanceAs (Decidable (target = dir))
  | .refreshRead target _ _ => inferInstanceAs (Decidable (target = dir))
  | .entering _ next => Writer.decidableHolds dir next
  | .migrating target next =>
    have : Decidable (next.Holds dir) := Writer.decidableHolds dir next
    inferInstanceAs (Decidable (target = dir ∨ next.Holds dir))
  | .exported _ => isFalse id
  | .located .. => isFalse id
  | .storingBackup .. => isFalse id
  | .refreshing .. => isFalse id
  | .publishing .. => isFalse id

/-- What a writer has seen of the stored ledger is still so. -/
def Writer.Current (dir : String) (stored : Option StoredText) : Writer env → Prop
  | .storing target ledger _ => target = dir → (storedEvents env.dart stored).length
      ≤ (storedEvents env.dart (some (.json ledger.doc))).length
  | .refreshRead target _ ledger => target = dir → ledger = stored
  | .entering _ next => next.Current dir stored
  | .migrating target next => (target = dir → stored = none) ∧ next.Current dir stored
  | _ => True

/-- No writer has its turn in a directory. -/
def Free (dir : String) (others : List (Writer env)) : Prop := ∀ other ∈ others, ¬ other.Holds dir

instance (dir : String) (others : List (Writer env)) : Decidable (Free dir others) :=
  inferInstanceAs (Decidable (∀ other ∈ others, ¬ other.Holds dir))

/-- A writer whose next move gives it its turn, or makes the directory, finds it free; and a
    ledger of old that is moved in is none that the writer would not replace. -/
def Writer.TakesTurn (dir : String) (host : HostProcess env) (others : List (Writer env)) :
    Writer env → Prop
  | .located target ledger => target = dir →
      isIncomingLedgerStale env.dart ledger (host.readLedger dir) = some false → Free dir others
  | .refreshing target _ => target = dir → Free dir others
  | .entering target _ => target = dir → host.files dir = none → Free dir others
  | .publishing owner _ _ _ _ => owner = dir → host.files dir = none → Free dir others
  | .migrating target next => target = dir →
      ∀ ledger ∈ host.legacyLedger dir, next.Current dir (some (.json ledger.doc))
  | _ => True

/-- One writer at a time has its turn in a directory, and what it has seen is still so. -/
structure InTurn (rule : LedgerRule) (dir : String) (host : HostProcess env)
    (pool : List (Writer env)) : Prop extends FilesKept rule host pool where
  alone : pool.Pairwise fun writer other => ¬ (writer.Holds dir ∧ other.Holds dir)
  current : ∀ writer ∈ pool, writer.Current dir (host.readLedger dir)

/-- The ledgers of a directory are first parts of a history. -/
structure LedgerRule.Follows (rule : LedgerRule) (dir : String) (history : List Event) :
    Prop where
  watched : rule.watches dir
  isPrefix : ∀ events, rule.allows dir events → events <+: history

variable {rule : LedgerRule} {dir : String} {history : List Event} {host : HostProcess env}
  {writer next : Writer env} {others pool pool' : List (Writer env)}

theorem Writer.Current.of_not_holds {stored : Option StoredText} (h : ¬ writer.Holds dir) :
    writer.Current dir stored := by
  induction writer with
  | storing target ledger backup => exact fun htarget => absurd htarget h
  | refreshRead target outside ledger => exact fun htarget => absurd htarget h
  | entering target next ih => exact ih h
  | migrating target next ih =>
    exact ⟨fun htarget => absurd (Or.inl htarget) h, ih fun hnext => h (Or.inr hnext)⟩
  | _ => exact trivial

/-- Of two allowed ledgers the longer one extends the other. -/
theorem prefix_of_allows (hfollows : rule.Follows dir history) {stored : Option StoredText}
    {incoming : StoredText} (hstored : ∀ text ∈ stored, rule.Allows env dir text)
    (hincoming : rule.Allows env dir incoming)
    (hlength : (storedEvents env.dart stored).length
      ≤ (storedEvents env.dart (some incoming)).length) :
    storedEvents env.dart stored <+: storedEvents env.dart (some incoming) := by
  cases stored with
  | none => exact List.nil_prefix
  | some text =>
    obtain ⟨ledger, hadmits, rfl⟩ := hstored text rfl hfollows.watched
    obtain ⟨ledger', hadmits', rfl⟩ := hincoming hfollows.watched
    rw [storedEvents_exported, storedEvents_exported] at hlength ⊢
    rw [List.length_map, List.length_map] at hlength
    exact (List.prefix_of_prefix_length_le (hfollows.isPrefix _ hadmits.events)
      (hfollows.isPrefix _ hadmits'.events) hlength).map _

/-- What passes the staleness check has no fewer events. -/
theorem length_le_of_fresh (hwatched : rule.watches dir) {stored : Option StoredText}
    {incoming : StoredText} (hstored : ∀ text ∈ stored, rule.Allows env dir text)
    (hincoming : rule.Allows env dir incoming)
    (hfresh : isIncomingLedgerStale env.dart incoming stored = some false) :
    (storedEvents env.dart stored).length ≤ (storedEvents env.dart (some incoming)).length := by
  cases stored with
  | none => exact Nat.zero_le _
  | some text =>
    obtain ⟨ledger, -, rfl⟩ := hstored text rfl hwatched
    obtain ⟨ledger', -, rfl⟩ := hincoming hwatched
    have hstale := (not_congr (isIncomingLedgerStale_iff
      (exportLedgerRoot_exported env.dart env.platform.sha256 ledger')
      (exportLedgerRoot_exported env.dart env.platform.sha256 ledger))).mp (by simp [hfresh])
    rw [not_or, not_lt, rootEvents_decoded, rootEvents_decoded, List.length_map,
      List.length_map] at hstale
    rw [storedEvents_exported, storedEvents_exported, List.length_map, List.length_map]
    exact hstale.1

theorem InTurn.perm (h : InTurn rule dir host pool) (hperm : pool.Perm pool') :
    InTurn rule dir host pool' where
  ledgers := h.ledgers
  backups := h.backups
  handed writer hwriter := h.handed writer (hperm.mem_iff.mpr hwriter)
  alone := by
    refine (hperm.pairwise_iff ?_).mp h.alone
    exact fun hnot hboth => hnot hboth.symm
  current writer hwriter := h.current writer (hperm.mem_iff.mpr hwriter)

theorem InTurn.sublist (h : InTurn rule dir host pool) (hsub : pool'.Sublist pool) :
    InTurn rule dir host pool' where
  ledgers := h.ledgers
  backups := h.backups
  handed writer hwriter := h.handed writer (hsub.subset hwriter)
  alone := h.alone.sublist hsub
  current writer hwriter := h.current writer (hsub.subset hwriter)

/-- Where a writer has its turn the others have not. -/
theorem InTurn.free (h : InTurn rule dir host (writer :: others)) (hholds : writer.Holds dir) :
    Free dir others := by
  intro other hother hother'
  exact (List.pairwise_cons.mp h.alone).1 other hother ⟨hholds, hother'⟩

/-- Where a move leaves a writer its turn, the others have none. -/
theorem free_advance {exportedAt : String} (h : InTurn rule dir host (writer :: others))
    (htakes : writer.TakesTurn dir host others)
    (hnext : (writer.advance env exportedAt host).1 = some next) (hholds : next.Holds dir) :
    Free dir others := by
  cases next_of_advance hnext with
  | exported => cases hholds
  | entered => exact h.free hholds
  | creating target next hfiles =>
    rcases hholds with rfl | hnext
    · exact htakes rfl hfiles
    · exact h.free hnext
  | migrated => exact h.free (Or.inr hholds)
  | checked target ledger backup isGenesis isNeste hfresh =>
    subst hholds
    exact htakes rfl hfresh
  | stored => cases hholds
  | read => exact htakes hholds
  | refreshed => exact h.free hholds

/-- A writer that stores in a directory is the only one with a turn there. -/
theorem free_of_stores {ledger : LedgerDocument env.dart}
    (h : InTurn rule dir host (writer :: others)) (htakes : writer.TakesTurn dir host others)
    (hstores : writer.stores env host = some (dir, ledger)) : Free dir others := by
  cases writer with
  | storing target stored backup =>
    cases hstores
    exact h.free rfl
  | migrating target left =>
    obtain ⟨legacy, -, heq⟩ := Option.map_eq_some_iff.mp hstores
    cases heq
    exact h.free (Or.inl rfl)
  | publishing owner stored backup isGenesis isNeste =>
    unfold Writer.stores at hstores
    dsimp only at hstores
    split_ifs at hstores with hfiles
    cases hstores
    exact htakes rfl (Option.not_isSome_iff_eq_none.mp hfiles)
  | _ => cases hstores

/-- **What a move stores extends what is there.** -/
theorem prefix_of_stores {ledger : LedgerDocument env.dart} (hfollows : rule.Follows dir history)
    (h : InTurn rule dir host (writer :: others)) (hreceives : writer.Receives rule host)
    (hstores : writer.stores env host = some (dir, ledger)) :
    storedEvents env.dart (host.readLedger dir)
      <+: storedEvents env.dart (some (.json ledger.doc)) := by
  have hallows : rule.Allows env dir (.json ledger.doc) :=
    allows_of_stores (h.handed writer List.mem_cons_self) hreceives hstores
  have hcurrent := h.current writer List.mem_cons_self
  cases writer with
  | storing target stored backup =>
    cases hstores
    exact prefix_of_allows hfollows (h.ledgers dir hfollows.watched) hallows (hcurrent rfl)
  | migrating target left =>
    obtain ⟨legacy, -, heq⟩ := Option.map_eq_some_iff.mp hstores
    cases heq
    rw [hcurrent.1 rfl]
    exact List.nil_prefix
  | publishing owner stored backup isGenesis isNeste =>
    unfold Writer.stores at hstores
    dsimp only at hstores
    split_ifs at hstores with hfiles
    cases hstores
    rw [HostProcess.readLedger, Option.not_isSome_iff_eq_none.mp hfiles]
    exact List.nil_prefix
  | _ => cases hstores

/-- What is left of a writer behind its move is up to date. -/
theorem current_advance {exportedAt : String} (hfollows : rule.Follows dir history)
    (h : InTurn rule dir host (writer :: others)) (hreceives : writer.Receives rule host)
    (htakes : writer.TakesTurn dir host others)
    (hnext : (writer.advance env exportedAt host).1 = some next) :
    next.Current dir ((writer.advance env exportedAt host).2.readLedger dir) := by
  have hhanded := h.handed writer List.mem_cons_self
  have hcurrent := h.current writer List.mem_cons_self
  rw [Writer.readLedger_advance exportedAt host writer (rule.named dir hfollows.watched)]
  cases next_of_advance hnext with
  | exported => exact trivial
  | entered => exact hcurrent
  | creating target next hfiles =>
    refine ⟨?_, hcurrent⟩
    rintro rfl
    show (host.files target).bind CapsuleFiles.ledger = none
    rw [hfiles]
    rfl
  | migrated target next =>
    unfold Writer.stores
    dsimp only
    cases hlegacy : host.legacyLedger target with
    | none => exact hcurrent.2
    | some ledger =>
      unfold storedLedger
      dsimp only [Option.map_some]
      split_ifs with htarget
      · subst htarget
        exact htakes rfl ledger hlegacy
      · exact hcurrent.2
  | checked target ledger backup isGenesis isNeste hfresh =>
    rintro rfl
    exact length_le_of_fresh hfollows.watched (h.ledgers target hfollows.watched) hhanded hfresh
  | stored => exact trivial
  | read =>
    rintro rfl
    rfl
  | refreshed target outside ledger document runtime hrefresh =>
    rintro rfl
    obtain rfl := hcurrent rfl
    refine (refreshRuntime_allows hfollows.watched hhanded (h.backups target hfollows.watched) ?_
      hrefresh).2
    intro hledger hbackup
    rw [hledger] at hreceives
    exact hreceives hbackup

/-- **A move in turn** keeps the turns, and extends the stored ledger if it changes it. -/
theorem inTurn_advance {exportedAt : String} (hfollows : rule.Follows dir history)
    (h : InTurn rule dir host (writer :: others)) (hreceives : writer.Receives rule host)
    (htakes : writer.TakesTurn dir host others) :
    InTurn rule dir (writer.advance env exportedAt host).2
      ((writer.advance env exportedAt host).1.toList ++ others) ∧
    storedEvents env.dart (host.readLedger dir)
      <+: storedEvents env.dart ((writer.advance env exportedAt host).2.readLedger dir) := by
  have hdir : dir ≠ "" := rule.named dir hfollows.watched
  have hread := Writer.readLedger_advance exportedAt host writer hdir
  refine ⟨{ kept_advance h.toFilesKept hreceives with alone := ?_, current := ?_ }, ?_⟩
  · refine List.pairwise_append.mpr ⟨?_, (List.pairwise_cons.mp h.alone).2, ?_⟩
    · cases (writer.advance env exportedAt host).1 with
      | none => exact List.Pairwise.nil
      | some next => exact List.pairwise_singleton _ _
    · intro left hleft other hother hboth
      exact free_advance h htakes (Option.mem_toList.mp hleft) hboth.1 other hother hboth.2
  · intro other hother
    rcases List.mem_append.mp hother with hnext | hother
    · exact current_advance hfollows h hreceives htakes (Option.mem_toList.mp hnext)
    · have hcurrent := h.current other (List.mem_cons_of_mem writer hother)
      rw [hread]
      cases hstores : writer.stores env host with
      | none => exact hcurrent
      | some pair =>
        unfold storedLedger
        dsimp only
        split_ifs with htarget
        · obtain ⟨target, ledger⟩ := pair
          obtain rfl : dir = target := htarget
          exact Writer.Current.of_not_holds (free_of_stores h htakes hstores other hother)
        · exact hcurrent
  · rw [hread]
    cases hstores : writer.stores env host with
    | none => exact List.prefix_rfl
    | some pair =>
      unfold storedLedger
      dsimp only
      split_ifs with htarget
      · obtain ⟨target, ledger⟩ := pair
        obtain rfl : dir = target := htarget
        exact prefix_of_stores hfollows h hreceives hstores
      · exact List.prefix_rfl

end Turns

end Hivra
