import Hivra.Ffi.Reimport
import Hivra.Host.LedgerHistory
import Mathlib.Data.Nat.Digits.Defs

namespace Hivra

open ByteString JsonDocument Replay Serde

/-!
# When a stored ledger is only extended

The staleness check compares numbers of events and, where they are equal, the texts of the
heads.  So a longer ledger that has forked passes it, and a ledger that was migrated without
a new event does not.  The check also runs before the write, and an import from a backup
runs none.

* `forkedWorker_replaces` — a worker's fork passes it.
-/

section OnlyExtended

variable {Seed Double : Type} {env : HostEnv Seed Double}

/-! ### The condition on a step -/

/-- The ledger of an import is allowed. -/
def Writer.Brings (rule : LedgerRule) : Writer env → Prop
  | .storing dir ledger _ => rule.Allows env dir (.json ledger.doc)
  | .publishing owner ledger _ _ _ => rule.Allows env owner (.json ledger.doc)
  | .entering _ next => next.Brings rule
  | _ => True

/-- The condition on a step, beside writers that are not the host's: what a writer is handed is
    allowed, a writer takes its turn where the directory is free, and a backup that is imported
    is not shorter than the stored ledger. -/
def HostStep.Fits (rule : LedgerRule) (dir : String) (extra : List (Writer env))
    (host : HostProcess env) : HostStep Seed → Prop
  | .advance index _ => ∀ writer ∈ host.writers[index]?, writer.Receives rule host ∧
      writer.TakesTurn dir host (host.writers.eraseIdx index ++ extra)
  | .persistLedgerSnapshotForCapsuleHex pubKeyHex ledgerJson => ∀ owner,
      extractOwnerHex env.dart ledgerJson = some owner →
        rule.Allows env (owner.getD pubKeyHex) ledgerJson
  | .importCapsuleFromBackupJson exportedAt rawJson seed isNative =>
    ∀ writer ∈ startImport env exportedAt rawJson seed isNative, writer.Brings rule ∧
      writer.Current dir (host.readLedger dir) ∧
        (writer.Holds dir → Free dir (host.writers ++ extra))
  | _ => True

/-! ### What a step keeps -/

variable {rule : LedgerRule} {dir : String} {history : List Event} {host host' : HostProcess env}
  {pool extra : List (Writer env)}

/-- The turns depend on the stored texts alone. -/
theorem InTurn.congr (h : InTurn rule dir host pool)
    (hledger : ∀ other, host'.readLedger other = host.readLedger other)
    (hbackup : ∀ other, host'.readBackup other = host.readBackup other) :
    InTurn rule dir host' pool where
  ledgers other hother := by
    rw [hledger]
    exact h.ledgers other hother
  backups other hother := by
    rw [hbackup]
    exact h.backups other hother
  handed := h.handed
  alone := h.alone
  current := by
    rw [hledger]
    exact h.current

theorem InTurn.runtime (h : InTurn rule dir host pool) (runtime : RuntimeState) :
    InTurn rule dir { host with runtime := runtime } pool :=
  h.congr (fun _ => rfl) fun _ => rfl

theorem readLedger_same (host : HostProcess env) (target other : String) :
    (host.setFiles target (host.filesAt target)).readLedger other = host.readLedger other := by
  rw [readLedger_setFiles]
  split_ifs with h
  · rw [h]
    unfold HostProcess.filesAt HostProcess.readLedger
    cases host.files target <;> rfl
  · rfl

/-- A move leaves the list of writers alone. -/
theorem writers_advance (writer : Writer env) (exportedAt : String) (host : HostProcess env) :
    (writer.advance env exportedAt host).2.writers = host.writers := by
  cases writer with
  | migrating target next =>
    unfold Writer.advance HostProcess.migrateLegacy
    dsimp only
    split <;> rfl
  | entering target next =>
    unfold Writer.advance
    dsimp only
    split_ifs <;> rfl
  | located target ledger =>
    unfold Writer.advance
    dsimp only
    split <;> rfl
  | publishing owner ledger backup isGenesis isNeste =>
    unfold Writer.advance
    dsimp only
    split_ifs <;> rfl
  | _ => rfl

/-- One more writer. -/
theorem InTurn.add (h : InTurn rule dir host pool) {writer : Writer env}
    (hhanded : writer.Handed rule) (hcurrent : writer.Current dir (host.readLedger dir))
    (hfree : writer.Holds dir → Free dir pool) : InTurn rule dir host (writer :: pool) where
  ledgers := h.ledgers
  backups := h.backups
  handed := List.forall_mem_cons.mpr ⟨hhanded, h.handed⟩
  alone := List.pairwise_cons.mpr ⟨fun other hother hboth => hfree hboth.1 other hother hboth.2,
    h.alone⟩
  current := List.forall_mem_cons.mpr ⟨hcurrent, h.current⟩

/-- A writer that is started. -/
theorem InTurn.start (h : InTurn rule dir host (host.writers ++ extra))
    {started : Option (Writer env)} (hhanded : ∀ writer ∈ started, writer.Handed rule)
    (hcurrent : ∀ writer ∈ started, writer.Current dir (host.readLedger dir))
    (hfree : ∀ writer ∈ started, writer.Holds dir → Free dir (host.writers ++ extra)) :
    InTurn rule dir (host.start started) ((host.start started).writers ++ extra) := by
  cases started with
  | none =>
    unfold HostProcess.start
    rwa [Option.toList_none, List.append_nil]
  | some writer =>
    have hadded := h.add (hhanded writer rfl) (hcurrent writer rfl) (hfree writer rfl)
    refine InTurn.congr (hadded.perm ?_) (fun _ => rfl) fun _ => rfl
    show (writer :: (host.writers ++ extra)).Perm (host.writers ++ [writer] ++ extra)
    rw [List.append_assoc]
    exact List.perm_middle.symm

/-- The writer of an import has a backup of the ledger it brings. -/
theorem handed_startImport {exportedAt : String} {rawJson : StoredText} {seed : Option Seed}
    {native : Bool} {writer : Writer env}
    (hwriter : startImport env exportedAt rawJson seed native = some writer)
    (h : writer.Brings rule) : writer.Handed rule := by
  unfold startImport at hwriter
  split at hwriter
  · split at hwriter
    · cases hwriter
    · split at hwriter
      · rename_i hencode
        dsimp only at hwriter
        split_ifs at hwriter
        · split at hwriter
          · cases hwriter
          · split_ifs at hwriter
            cases hwriter
            exact ⟨h, h.backup hencode⟩
        · cases hwriter
          refine ⟨h, fun doc hdoc => ?_⟩
          rw [← Option.some.inj hdoc]
          exact LedgerRule.Allows.backup h hencode
      · cases hwriter
  · cases hwriter

/-- The ledger of the runtime is started without a directory. -/
theorem InTurn.startPersist (h : InTurn rule dir host (host.writers ++ extra)) :
    InTurn rule dir (startPersist env host) ((startPersist env host).writers ++ extra) := by
  refine h.start ?_ ?_ ?_ <;> intro writer hwriter
  all_goals obtain ⟨doc, -, rfl⟩ := Option.map_eq_some_iff.mp hwriter
  · exact trivial
  · exact trivial
  · exact False.elim

/-- No event of the stored ledger is lost. -/
def Extends (dir : String) (host host' : HostProcess env) : Prop :=
  storedEvents env.dart (host.readLedger dir) <+: storedEvents env.dart (host'.readLedger dir)

/-- **A step that fits** keeps the turns, and only extends the stored ledger. -/
theorem hostStep_inTurn (hfollows : rule.Follows dir history) {step : HostStep Seed}
    (h : InTurn rule dir host (host.writers ++ extra)) (hfits : step.Fits rule dir extra host) :
    InTurn rule dir (host.step env step) ((host.step env step).writers ++ extra) ∧
      Extends dir host (host.step env step) := by
  cases step with
  | advance index exportedAt =>
    unfold HostProcess.step
    dsimp only
    cases hwriter : host.writers[index]? with
    | none => exact ⟨h, List.prefix_rfl⟩
    | some writer =>
      obtain ⟨hreceives, htakes⟩ := hfits writer hwriter
      obtain ⟨hindex, rfl⟩ := List.getElem?_eq_some_iff.mp hwriter
      have hpool := h.perm
        ((List.getElem_cons_eraseIdx_perm hindex).symm.append_right extra)
      obtain ⟨hturn, hextends⟩ : InTurn rule dir (host.writers[index].advance env exportedAt host).2 _ ∧ _ :=
        inTurn_advance hfollows hpool hreceives htakes
      refine ⟨?_, hextends⟩
      refine InTurn.congr (hturn.perm ?_) (fun _ => rfl) fun _ => rfl
      dsimp only
      rw [writers_advance]
      exact (List.append_assoc .. ▸ List.perm_append_comm.append_right extra)
  | fail index =>
    refine ⟨InTurn.congr (h.sublist ?_) (fun _ => rfl) fun _ => rfl,
      List.prefix_rfl⟩
    exact (List.eraseIdx_sublist _ _).append_right extra
  | persistLedgerSnapshot => exact ⟨h.startPersist, List.prefix_rfl⟩
  | applyLedgerSnapshotIfNotStale outside ledgerJson =>
    unfold HostProcess.step
    dsimp only
    split
    · split
      · rename_i runtime _
        exact ⟨InTurn.startPersist (h.runtime runtime), List.prefix_rfl⟩
      · exact ⟨h.runtime _, List.prefix_rfl⟩
    · exact ⟨h, List.prefix_rfl⟩
  | persistLedgerSnapshotForCapsuleHex pubKeyHex ledgerJson =>
    unfold HostProcess.step
    dsimp only
    split
    · exact ⟨h, List.prefix_rfl⟩
    · rename_i owner howner
      split_ifs
      · exact ⟨h, List.prefix_rfl⟩
      · refine ⟨h.start ?_ ?_ ?_, List.prefix_rfl⟩ <;> intro writer hwriter
        all_goals rw [← Option.some.inj hwriter]
        · exact hfits owner howner
        · exact trivial
        · exact False.elim
  | refreshCapsuleSnapshot pubKeyHex outside =>
    unfold HostProcess.step
    dsimp only
    split_ifs
    · have hsame : InTurn rule dir (host.setFiles pubKeyHex (host.filesAt pubKeyHex))
          (host.writers ++ extra) := by
        refine h.congr (readLedger_same host pubKeyHex) fun other => ?_
        rw [readBackup_setFiles]
        split_ifs with hother
        · rw [hother, backup_filesAt]
        · rfl
      refine ⟨hsame.start ?_ ?_ ?_, ?_⟩
      · intro writer hwriter
        rw [← Option.some.inj hwriter]
        exact trivial
      · intro writer hwriter
        rw [← Option.some.inj hwriter]
        exact trivial
      · intro writer hwriter
        rw [← Option.some.inj hwriter]
        exact False.elim
      · unfold Extends
        exact (readLedger_same host pubKeyHex dir) ▸ List.prefix_rfl
    · exact ⟨h, List.prefix_rfl⟩
  | importCapsuleFromBackupJson exportedAt rawJson seed native =>
    refine ⟨h.start ?_ ?_ ?_, List.prefix_rfl⟩ <;> intro writer hwriter
    all_goals obtain ⟨hbrings, hcurrent, hfree⟩ := hfits writer hwriter
    · exact handed_startImport hwriter hbrings
    · exact hcurrent
    · exact hfree
  | native call => exact ⟨h.runtime _, List.prefix_rfl⟩
  | createCapsule outside seed network capsuleType ownerMode =>
    exact ⟨h.runtime _, List.prefix_rfl⟩
  | importLedger outside json =>
    exact ⟨h.runtime _, List.prefix_rfl⟩

/-! ### Runs -/

/-- The ledgers of one capsule come from one history; other directories are not looked at. -/
def historyRule (dir : String) (hdir : dir ≠ "") (history : List Event) : LedgerRule where
  watches other := other = dir
  allows _ events := events <+: history
  named := by
    rintro other rfl
    exact hdir

theorem follows_historyRule (hdir : dir ≠ "") : (historyRule dir hdir history).Follows dir history :=
  ⟨rfl, fun _ h => h⟩

/-- A run starts without writers, and the files of the capsule are allowed. -/
structure HostProcess.Starts (rule : LedgerRule) (host : HostProcess env) : Prop where
  idle : host.writers = []
  files : FilesKept rule host []

theorem HostProcess.Starts.inTurn (h : host.Starts rule) :
    InTurn rule dir host (host.writers ++ []) := by
  rw [h.idle]
  exact { h.files with alone := List.Pairwise.nil, current := fun _ hwriter => absurd hwriter List.not_mem_nil }

/-- **No stored event is lost** in a run that fits. -/
theorem hostRun_extends (hfollows : rule.Follows dir history) {steps : List (HostStep Seed)}
    (h : InTurn rule dir host (host.writers ++ []))
    (hsteps : Along (HostProcess.step env) (HostStep.Fits rule dir []) host steps) :
    InTurn rule dir (hostRun env host steps) ((hostRun env host steps).writers ++ []) ∧
      Extends dir host (hostRun env host steps) := by
  induction steps generalizing host with
  | nil => exact ⟨h, List.prefix_rfl⟩
  | cons step rest ih =>
    obtain ⟨hstep, hextends⟩ := hostStep_inTurn hfollows h hsteps.1
    obtain ⟨hturn, hrest⟩ := ih hstep hsteps.2
    exact ⟨hturn, hextends.trans hrest⟩

variable {others : List (Writer env)}

/-- A move that is handed nothing by the runtime or from the root, where no other writer has its
    turn. -/
def Writer.calm (dir : String) (host : HostProcess env) (others : List (Writer env)) :
    Writer env → Bool
  | .exported _ => false
  | .refreshRead .. => false
  | .migrating target _ => (host.legacyLedger target).isNone
  | .storing .. => true
  | .storingBackup .. => true
  | _ => decide (Free dir others)

theorem Writer.fits_of_calm {writer : Writer env} (h : writer.calm dir host others = true) :
    writer.Receives rule host ∧ writer.TakesTurn dir host others := by
  cases writer with
  | exported ledger => cases h
  | refreshRead target outside ledger => cases h
  | migrating target next =>
    have hnone : host.legacyLedger target = none := Option.isNone_iff_eq_none.mp h
    refine ⟨fun ledger hledger => ?_, fun htarget ledger hledger => ?_⟩
    · rw [hnone] at hledger
      cases hledger
    · rw [← htarget, hnone] at hledger
      cases hledger
  | located target ledger => exact ⟨trivial, fun _ _ => of_decide_eq_true h⟩
  | refreshing target outside => exact ⟨trivial, fun _ => of_decide_eq_true h⟩
  | entering target next => exact ⟨trivial, fun _ _ => of_decide_eq_true h⟩
  | publishing owner ledger backup isGenesis isNeste =>
    exact ⟨trivial, fun _ _ => of_decide_eq_true h⟩
  | storing target ledger backup => exact ⟨trivial, trivial⟩
  | storingBackup target backup => exact ⟨trivial, trivial⟩

/-- Such a move of the host. -/
def HostStep.calm (dir : String) (extra : List (Writer env)) (host : HostProcess env) :
    HostStep Seed → Bool
  | .advance index _ =>
    host.writers[index]?.all fun writer => writer.calm dir host (host.writers.eraseIdx index ++ extra)
  | _ => false

theorem HostStep.fits_of_calm {step : HostStep Seed} (h : step.calm dir extra host = true) :
    step.Fits rule dir extra host := by
  cases step with
  | advance index exportedAt =>
    intro writer hwriter
    unfold HostStep.calm at h
    dsimp only at h
    rw [hwriter, Option.all_some] at h
    exact writer.fits_of_calm h
  | _ => cases h

end OnlyExtended

/-! ### A worker and the foreground -/

/-- The runtime after the birth of a relay. -/
def relayState : RuntimeState :=
  (initRuntimeState samplePlatform (some 10) (fun _ => some 20) ⟨none, 0⟩ bornSeed .neste .relay
    .root).2

/-- An offer of the relay to a peer. -/
def relayOffer (peer slot : UInt8) (clock : UInt64) : RuntimeCall (PubKey × PubKey) :=
  .sendInvitation ⟨some bornSeed, fill 32 peer, some clock, ⟨some bornSeed, some clock⟩⟩
    (some ⟨fill 32 peer⟩) slot none

/-- The ledger file of a runtime. -/
def ledgerText (state : RuntimeState) : Option StoredText :=
  (hivraExportLedger samplePlatform state).map .json

/-- The directory of the relay. -/
def relayDir : String := hexText bornSeed.1.bytes.toList

theorem relayDir_ne : relayDir ≠ "" := by decide +kernel

/-- The foreground has sent an offer and stored it. -/
def forkedHost : HostProcess sampleEnv :=
  let foreground := runCalls samplePlatform relayState [relayOffer 66 0 50]
  { runtime := foreground
    files := fun dir => if dir = relayDir then some ⟨ledgerText foreground, none, none⟩ else none
    writers := [] }

/-- A worker that started from the birth brings a ledger with two other offers. -/
def forkedSteps : List (HostStep (PubKey × PubKey)) :=
  [.persistLedgerSnapshotForCapsuleHex relayDir
      ((ledgerText (runCalls samplePlatform relayState
        [relayOffer 67 1 60, relayOffer 68 2 70])).getD .garbled),
    .advance 0 "", .advance 0 "", .advance 0 ""]

/-- The timestamps of stored events. -/
def storedTimestamps (text : Option StoredText) : List (Option (Option ℤ)) :=
  (storedEvents sampleDart text).map fun event => match event with
    | .obj members => parseTimestamp sampleDart (members.lookup "timestamp")
    | _ => none

/-- The host before anything is stored. -/
def newHost : HostProcess sampleEnv := ⟨⟨none, 0⟩, fun _ => none, []⟩

/-- The history of the relay: its birth and two offers. -/
def relayHistory : RuntimeState :=
  runCalls samplePlatform relayState [relayOffer 67 1 60, relayOffer 68 2 70]

/-- A worker hands over the birth and another one the whole history. -/
def historySteps (state : RuntimeState) : HostStep (PubKey × PubKey) :=
  .persistLedgerSnapshotForCapsuleHex relayDir ((ledgerText state).getD .garbled)

/-- The moves of the two workers in turn; the second one checks behind the store of the first. -/
def turnSteps : List (HostStep (PubKey × PubKey)) :=
  [0, 1, 0, 0, 1, 0, 0, 0, 0].map fun index => .advance index ""

/-- A first part of the history may be handed over. -/
theorem fits_historySteps {hdir : relayDir ≠ ""} {host : HostProcess sampleEnv}
    {state : RuntimeState} {capsule : Capsule} (hcapsule : state.capsule = some capsule)
    (hfront : state.events <+: relayHistory.events)
    (hfits : extractOwnerHex sampleDart ((ledgerText state).getD .garbled) = some (some relayDir) ∧
      hexText capsule.ledger.owner.bytes.toList = relayDir ∧
      (∀ event ∈ capsule.ledger.events, event.timestamp.toNat < 2 ^ 63) ∧
      (∀ continuity ∈ capsule.ledger.continuityV5, ∀ receipt ∈ continuity.receipts,
        receipt.sequence.toNat < 2 ^ 63) ∧
      (∀ continuity ∈ capsule.ledger.continuityV5, continuity.legacyEventCount < 2 ^ 63) ∧
      capsule.ledger.events.length < 2 ^ 63) :
    (historySteps state).Fits (historyRule relayDir hdir relayHistory.events) relayDir [] host := by
  obtain ⟨howner, hname, htimestamps, hsequences, hcounts, hlength⟩ := hfits
  intro owner hother _
  obtain rfl := Option.some.inj (howner.symm.trans hother)
  rw [RuntimeState.events, hcapsule] at hfront
  refine ⟨capsule.ledger, ⟨hname, hfront, ⟨htimestamps, hsequences, hcounts⟩, hlength⟩, ?_⟩
  rw [ledgerText, hivraExportLedger, exportRuntimeLedger, hcapsule]
  rfl

end Hivra
