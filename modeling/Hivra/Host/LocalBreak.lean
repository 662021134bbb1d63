import Hivra.Ffi.LocalSpecs
import Hivra.Host.OnlyExtended

namespace Hivra

open ByteString JsonDocument Replay Serde

/-!
# A local break and its ledger

A break is appended to whatever capsule the runtime holds, and the ledger is exported at once.
Its writer then asks the runtime for the owner, and drops the ledger if it is stale.  Success
is reported either way.  In between, workers put other capsules into the runtime.
-/

section LocalBreak

variable {Seed Double : Type} (env : HostEnv Seed Double)

/-- A break under way: the capsule whose relationship is broken, the event that was appended,
    and the writer of the ledger until it is done. -/
structure BreakCall (env : HostEnv Seed Double) where
  capsule : String
  event : Event
  writer : Option (Writer env)

/-- The host, the breaks under way, and those that were acknowledged. -/
structure Breaking (env : HostEnv Seed Double) where
  host : HostProcess env
  calls : List (BreakCall env)
  acknowledged : List (String × Event)

/-- One step: any step of the host, the start of a break, a move of the break at an index to
    its next await, or its end by an exception. -/
inductive BreakStep (Seed : Type)
  | host (step : HostStep Seed)
  | breakRelationship (capsule : String) (outside : CallOutside Seed) (peer : Option PubKey)
      (own peerStarter : Option StarterId)
  | advance (index : ℕ) (exportedAt : String)
  | fail (index : ℕ)

/-- A move of a writer throws: a text cannot be read. -/
def Writer.throws (exportedAt : String) (host : HostProcess env) : Writer env → Bool
  | .located dir ledger =>
    match isIncomingLedgerStale env.dart ledger (host.readLedger dir) with
    | none => true
    | some true => false
    | some false => (persistLedgerGeneration env exportedAt dir (host.readState dir) ledger).isNone
  | _ => false

variable {env} in
/-- The native call, and the export in the same move. -/
def Breaking.start (s : Breaking env) (capsule : String) (outside : CallOutside Seed)
    (peer : PubKey) (own peerStarter : StarterId) : Breaking env :=
  let outcome := breakRelationshipWithDeliveryReference env.platform outside s.host.runtime
    (some peer) (some own) (some peerStarter)
  let host := { s.host with runtime := outcome.state }
  match outcome.deliveryReference, outcome.state.events[s.host.runtime.events.length]? with
  | some _, some event =>
    let writer := (hivraExportLedger env.platform outcome.state).map .exported
    { s with host := host, calls := s.calls ++ [⟨capsule, event, writer⟩] }
  | _, _ => { s with host := host }

variable {env} in
/-- One step of the host or of a break under way. -/
def Breaking.step (s : Breaking env) : BreakStep Seed → Breaking env
  | .host step => { s with host := s.host.step env step }
  | .breakRelationship capsule outside (some peer) (some own) (some peerStarter) =>
    s.start capsule outside peer own peerStarter
  | .breakRelationship .. => s
  | .advance index exportedAt =>
    match s.calls[index]? with
    | none => s
    | some ⟨capsule, event, none⟩ =>
      -- the outbox has its item, and the call returns
      { s with
        calls := s.calls.eraseIdx index
        acknowledged := s.acknowledged ++ [(capsule, event)] }
    | some ⟨capsule, event, some writer⟩ =>
      if writer.throws env exportedAt s.host then { s with calls := s.calls.eraseIdx index }
      else
        match writer.advance env exportedAt s.host with
        | (next, host) =>
          { s with host := host, calls := s.calls.set index ⟨capsule, event, next⟩ }
  | .fail index => { s with calls := s.calls.eraseIdx index }

variable {env}

/-- The ledger in a directory has the event. -/
def HostProcess.Stores (host : HostProcess env) (dir : String) (event : Event) : Prop :=
  eventValue env.dart event ∈ storedEvents env.dart (host.readLedger dir)

/-- **Durability**: what was acknowledged is in the ledger of its capsule, and in no other. -/
def Breaking.Durable (s : Breaking env) : Prop :=
  ∀ broken ∈ s.acknowledged, s.host.Stores broken.1 broken.2 ∧
    ∀ dir ≠ broken.1, dir ≠ "" → ¬ s.host.Stores dir broken.2

/-- Nothing is under way. -/
def Breaking.Complete (s : Breaking env) : Prop := s.calls = [] ∧ s.host.writers = []

/-! ### The condition -/

/-- The writers of the breaks under way. -/
def Breaking.callWriters (s : Breaking env) : List (Writer env) := s.calls.filterMap BreakCall.writer

/-- The ledgers of a capsule come from one history, and those of the others have no break that
    this capsule signed. -/
def breakRule (capsule : String) (history : List Event) : LedgerRule where
  watches dir := dir ≠ ""
  allows dir events := (dir = capsule → events <+: history) ∧ (dir ≠ capsule →
    ∀ event ∈ events, event.kind = .relationshipBroken → hexText event.signer.bytes.toList ≠ capsule)
  named _ h := h

/-- The condition on a step, for the breaks of a capsule: its writers are handed what the rule
    allows and have their turns, a break finds the capsule and its seed, and the capsule is
    still in the runtime when the owner is read. -/
def BreakStep.Fits (capsule : String) (history : List Event) (s : Breaking env) :
    BreakStep Seed → Prop
  | .host step => step.Fits (breakRule capsule history) capsule s.callWriters s.host
  | .breakRelationship broken outside _ _ _ => broken = capsule →
      s.host.runtime.capsule.map (fun held => hexText held.pubkey.bytes.toList) = some capsule ∧
        ∀ seed ∈ outside.loadSeed, ∀ key ∈ env.platform.rootPublicKey seed,
          hexText key.bytes.toList = capsule
  | .advance index _ => ∀ call ∈ s.calls[index]?, ∀ writer ∈ call.writer,
      writer.Receives (breakRule capsule history) s.host ∧
      writer.TakesTurn capsule s.host
        (s.host.writers ++ (s.calls.eraseIdx index).filterMap BreakCall.writer) ∧
      (call.capsule = capsule → ∀ ledger, writer = .exported ledger →
        capsuleDirOf (hivraCapsuleRuntimeOwnerPublicKey s.host.runtime) = capsule)
  | .fail _ => True

/-! ### What the steps keep -/

/-- What is left of a writer brings the event into the directory, or has done so. -/
def Writer.Carries (host : HostProcess env) (capsule : String) (event : Event) :
    Writer env → Prop
  | .exported ledger => eventValue env.dart event ∈ storedEvents env.dart (some (.json ledger))
  | .located dir ledger =>
    dir = capsule ∧ eventValue env.dart event ∈ storedEvents env.dart (some ledger)
  | .storing dir ledger _ =>
    dir = capsule ∧ eventValue env.dart event ∈ storedEvents env.dart (some (.json ledger.doc))
  | .storingBackup _ _ => host.Stores capsule event
  | .entering dir next => dir = capsule ∧ next.Carries host capsule event
  | .migrating dir next => dir = capsule ∧ next.Carries host capsule event
  | _ => False

/-- A break under way brings its event into the directory, or has done so. -/
def BreakCall.Carries (host : HostProcess env) (call : BreakCall env) : Prop :=
  match call.writer with
  | none => host.Stores call.capsule call.event
  | some writer => writer.Carries host call.capsule call.event

/-- The breaks under way and those that were acknowledged. -/
def Breaking.tracked (s : Breaking env) : List (String × Event) :=
  s.calls.map (fun call => (call.capsule, call.event)) ++ s.acknowledged

/-- A break that a capsule signed. -/
structure SignedBreak (capsule : String) (event : Event) : Prop where
  kind : event.kind = .relationshipBroken
  signer : hexText event.signer.bytes.toList = capsule

/-- The invariant, for the breaks of a capsule. -/
structure BreaksKept (capsule : String) (history : List Event) (s : Breaking env) : Prop where
  turns : InTurn (breakRule capsule history) capsule s.host (s.host.writers ++ s.callWriters)
  acknowledged : ∀ event, (capsule, event) ∈ s.acknowledged → s.host.Stores capsule event
  calls : ∀ call ∈ s.calls, call.capsule = capsule → call.Carries s.host
  signed : ∀ event, (capsule, event) ∈ s.tracked → SignedBreak capsule event

variable {s : Breaking env} {capsule : String} {history : List Event}

theorem follows_breakRule (h : capsule ≠ "") : (breakRule capsule history).Follows capsule history :=
  ⟨h, fun _ hevents => hevents.1 rfl⟩

/-- The kind and the signer of an event are read off its decoded value. -/
theorem eventValue_inj {dart : DartRuntime Double} {event event' : Event}
    (h : eventValue dart event = eventValue dart event') :
    event.kind = event'.kind ∧ event.signer = event'.signer := by
  simp only [eventValue, eventDocument, writeBytes, Json.map, Json.mapMembers, Json.obj.injEq,
    List.cons.injEq, Prod.mk.injEq, Json.str.injEq, Json.arr.injEq, true_and] at h
  obtain ⟨hkind, -, -, hsigner, -⟩ := h
  constructor
  · have hname := congrArg EventKind.ofName hkind
    rwa [EventKind.ofName_name, EventKind.ofName_name, Option.some.injEq] at hname
  · have hbytes := congrArg (payloadItems dart []) hsigner
    rw [payloadItems_decoded, payloadItems_decoded, Option.some.injEq] at hbytes
    exact congrArg PubKey.mk (List.Vector.toList_injective hbytes)

/-- **What is stored for a capsule is stored for no other.** -/
theorem InTurn.elsewhere {host : HostProcess env} {pool : List (Writer env)} {event : Event}
    (h : InTurn (breakRule capsule history) capsule host pool) (hsigned : SignedBreak capsule event)
    {dir : String} (hdir : dir ≠ "") (hother : dir ≠ capsule) : ¬ host.Stores dir event := by
  intro hstores
  unfold HostProcess.Stores at hstores
  cases htext : host.readLedger dir with
  | none =>
    rw [htext] at hstores
    cases hstores
  | some text =>
    obtain ⟨ledger, hadmits, rfl⟩ := h.ledgers dir hdir text htext hdir
    rw [htext, storedEvents_exported] at hstores
    obtain ⟨found, hfound, hvalue⟩ := List.mem_map.mp hstores
    obtain ⟨hkind, hsigner⟩ := eventValue_inj hvalue
    exact hadmits.events.2 hother found hfound (hkind.trans hsigned.kind) (by rw [hsigner, hsigned.signer])

theorem BreaksKept.durable (h : BreaksKept capsule history s) {event : Event}
    (hevent : (capsule, event) ∈ s.acknowledged) :
    s.host.Stores capsule event ∧ ∀ dir ≠ capsule, dir ≠ "" → ¬ s.host.Stores dir event := by
  have hsigned := h.signed event (List.mem_append_right _ hevent)
  exact ⟨h.acknowledged event hevent, fun dir hother hdir => h.turns.elsewhere hsigned hdir hother⟩

variable {writer : Writer env} {event : Event}

theorem Writer.Carries.mono {host host' : HostProcess env} (hextends : Extends capsule host host')
    (h : writer.Carries host capsule event) : writer.Carries host' capsule event := by
  induction writer with
  | storingBackup dir backup => exact hextends.subset h
  | entering dir next ih => exact ⟨h.1, ih h.2⟩
  | migrating dir next ih => exact ⟨h.1, ih h.2⟩
  | _ => exact h

variable {call : BreakCall env}

theorem BreakCall.Carries.mono {host host' : HostProcess env}
    (hextends : Extends call.capsule host host') (h : call.Carries host) : call.Carries host' := by
  unfold BreakCall.Carries at h ⊢
  split at h
  · exact hextends.subset h
  · exact Writer.Carries.mono hextends h

variable {exportedAt : String} {others : List (Writer env)}

/-- A ledger that is dropped as stale brings nothing that is not stored. -/
theorem stores_of_stale {host : HostProcess env} {ledger : StoredText} (hname : capsule ≠ "")
    (h : InTurn (breakRule capsule history) capsule host (writer :: others))
    (hallows : (breakRule capsule history).Allows env capsule ledger)
    (hstale : isIncomingLedgerStale env.dart ledger (host.readLedger capsule) = some true)
    (hevent : eventValue env.dart event ∈ storedEvents env.dart (some ledger)) :
    host.Stores capsule event := by
  unfold HostProcess.Stores
  cases htext : host.readLedger capsule with
  | none =>
    rw [htext] at hstale
    cases hstale
  | some text =>
    rw [htext] at hstale
    have hstored := h.ledgers capsule hname text htext
    refine (prefix_of_allows (follows_breakRule hname) ?_ hstored ?_).subset hevent
    · intro other hother
      rwa [← Option.some.inj hother]
    · obtain ⟨stored, -, rfl⟩ := hstored hname
      obtain ⟨incoming, -, rfl⟩ := hallows hname
      rw [isIncomingLedgerStale_iff
        (exportLedgerRoot_exported env.dart env.platform.sha256 incoming)
        (exportLedgerRoot_exported env.dart env.platform.sha256 stored), rootEvents_decoded,
        rootEvents_decoded, List.length_map, List.length_map] at hstale
      rw [storedEvents_exported, storedEvents_exported, List.length_map, List.length_map]
      omega

/-- **A move of the writer of a break** keeps the event with it, or stores it. -/
theorem carries_advance (hname : call.capsule ≠ "")
    (h : InTurn (breakRule call.capsule history) call.capsule s.host (writer :: others))
    (hcarries : writer.Carries s.host call.capsule call.event)
    (hextends : Extends call.capsule s.host (writer.advance env exportedAt s.host).2)
    (howner : ∀ ledger, writer = .exported ledger →
      capsuleDirOf (hivraCapsuleRuntimeOwnerPublicKey s.host.runtime) = call.capsule)
    (hreads : writer.throws env exportedAt s.host = false) :
    BreakCall.Carries (writer.advance env exportedAt s.host).2
      ⟨call.capsule, call.event, (writer.advance env exportedAt s.host).1⟩ := by
  cases writer with
  | exported ledger => exact ⟨howner ledger rfl, howner ledger rfl, hcarries⟩
  | entering dir next =>
    obtain ⟨hdir, hnext⟩ := hcarries
    have hkept := Writer.Carries.mono hextends hnext
    unfold Writer.advance at hkept ⊢
    dsimp only at hkept ⊢
    split_ifs at hkept ⊢
    · exact hkept
    · exact ⟨hdir, hkept⟩
  | migrating dir next => exact Writer.Carries.mono hextends hcarries.2
  | located dir ledger =>
    obtain ⟨rfl, hevent⟩ := hcarries
    unfold Writer.throws at hreads
    unfold Writer.advance
    dsimp only at hreads ⊢
    split at hreads
    · cases hreads
    · -- the ledger is dropped as stale, and the call goes on
      rename_i hstale
      rw [hstale]
      exact stores_of_stale hname h (h.handed _ List.mem_cons_self) hstale hevent
    · rename_i hfresh
      rw [hfresh]
      rw [Option.isNone_eq_false_iff] at hreads
      obtain ⟨next, hnext⟩ := Option.isSome_iff_exists.mp hreads
      have hmoved : ((Writer.located call.capsule ledger).advance env exportedAt s.host).1
          = some next := by
        unfold Writer.advance
        dsimp only
        rw [hfresh]
        exact hnext
      dsimp only
      rw [hnext]
      cases next_of_advance hmoved with
      | checked => exact ⟨rfl, hevent⟩
  | storing dir ledger backup =>
    obtain ⟨rfl, hevent⟩ := hcarries
    have hstored : (s.host.writeLedger call.capsule ledger.doc).Stores call.capsule call.event := by
      unfold HostProcess.Stores HostProcess.writeLedger
      rw [readLedger_setFiles, if_pos rfl]
      exact hevent
    cases backup with
    | none => exact hstored
    | some backup => exact hstored
  | storingBackup dir backup => exact hextends.subset hcarries
  | refreshing pubKeyHex outside => cases hcarries
  | refreshRead pubKeyHex outside ledger => cases hcarries
  | publishing owner ledger backup isGenesis isNeste => cases hcarries

/-- A break is tracked from its call on. -/
theorem tracked_of_call (h : call ∈ s.calls) : (call.capsule, call.event) ∈ s.tracked :=
  List.mem_append_left _ (List.mem_map_of_mem h)

/-- A call that ends or is dropped leaves the turns to the others. -/
theorem BreaksKept.erase (h : BreaksKept capsule history s) (index : ℕ)
    {acknowledged : List (String × Event)}
    (hacknowledged : ∀ event, (capsule, event) ∈ acknowledged → s.host.Stores capsule event)
    (htracked : ∀ broken ∈ acknowledged, broken ∈ s.tracked) :
    BreaksKept capsule history ⟨s.host, s.calls.eraseIdx index, acknowledged⟩ where
  turns := h.turns.sublist
    (((List.eraseIdx_sublist s.calls index).filterMap BreakCall.writer).append_left s.host.writers)
  acknowledged := hacknowledged
  calls call hcall := h.calls call (List.mem_of_mem_eraseIdx hcall)
  signed event hevent := by
    rcases List.mem_append.mp hevent with hmem | hdone
    · obtain ⟨call, hcall, heq⟩ := List.mem_map.mp hmem
      exact h.signed event (heq ▸ tracked_of_call (List.mem_of_mem_eraseIdx hcall))
    · exact h.signed event (htracked _ hdone)

/-- The end of a call keeps the invariant: its event is stored by then. -/
theorem BreaksKept.acknowledge (h : BreaksKept capsule history s) {index : ℕ}
    (hcall : s.calls[index]? = some call) (hdone : call.writer = none) :
    BreaksKept capsule history ⟨s.host, s.calls.eraseIdx index,
      s.acknowledged ++ [(call.capsule, call.event)]⟩ := by
  have hmem : call ∈ s.calls := List.mem_of_getElem? hcall
  apply h.erase
  · intro event hevent
    rcases List.mem_append.mp hevent with hold | hnew
    · exact h.acknowledged event hold
    · obtain ⟨rfl, rfl⟩ := Prod.mk.inj (List.mem_singleton.mp hnew)
      have hcarries := h.calls call hmem rfl
      unfold BreakCall.Carries at hcarries
      rwa [hdone] at hcarries
  · intro broken hbroken
    rcases List.mem_append.mp hbroken with hold | hnew
    · exact List.mem_append_right _ hold
    · rw [List.mem_singleton.mp hnew]
      exact tracked_of_call hmem

/-- A move of a call keeps the invariant. -/
theorem BreaksKept.advance (hname : capsule ≠ "") (h : BreaksKept capsule history s) {index : ℕ}
    (hcall : s.calls[index]? = some call) (hwriter : call.writer = some writer)
    (hfits : BreakStep.Fits capsule history s (.advance index exportedAt))
    (hreads : writer.throws env exportedAt s.host = false) :
    BreaksKept capsule history ⟨(writer.advance env exportedAt s.host).2,
      s.calls.set index ⟨call.capsule, call.event, (writer.advance env exportedAt s.host).1⟩,
      s.acknowledged⟩ := by
  obtain ⟨hreceives, htakes, howner⟩ := hfits call hcall writer hwriter
  obtain ⟨hindex, rfl⟩ := List.getElem?_eq_some_iff.mp hcall
  have hmem : s.calls[index] ∈ s.calls := List.getElem_mem hindex
  -- the writer of the call, and behind it all the others
  have hpool : (s.host.writers ++ s.callWriters).Perm (writer :: (s.host.writers ++
      (s.calls.eraseIdx index).filterMap BreakCall.writer)) := by
    have hcalls := ((List.getElem_cons_eraseIdx_perm hindex).symm.filterMap BreakCall.writer)
    rw [List.filterMap_cons_some hwriter] at hcalls
    exact (hcalls.append_left _).trans List.perm_middle
  have hturns := h.turns.perm hpool
  obtain ⟨hturn, hextends⟩ : InTurn _ capsule (writer.advance env exportedAt s.host).2 _ ∧
      Extends capsule s.host (writer.advance env exportedAt s.host).2 :=
    inTurn_advance (follows_breakRule hname) hturns hreceives htakes
  refine ⟨hturn.perm ?_, ?_, ?_, ?_⟩
  · have hcalls := (List.set_perm_cons_eraseIdx hindex (⟨s.calls[index].capsule,
      s.calls[index].event, (writer.advance env exportedAt s.host).1⟩ : BreakCall env)).filterMap
        BreakCall.writer
    rw [writers_advance]
    refine List.Perm.trans ?_ (hcalls.symm.append_left _)
    cases (writer.advance env exportedAt s.host).1 with
    | none => exact List.Perm.refl _
    | some next =>
      rw [List.filterMap_cons_some (show BreakCall.writer _ = some next from rfl),
        Option.toList_some, List.singleton_append]
      exact List.perm_middle.symm
  · intro event hevent
    exact hextends.subset (h.acknowledged event hevent)
  · intro other hother hcapsule
    rcases List.mem_or_eq_of_mem_set hother with hold | rfl
    · subst hcapsule
      exact (h.calls other hold rfl).mono hextends
    · obtain rfl : s.calls[index].capsule = capsule := hcapsule
      refine carries_advance hname hturns ?_ hextends (howner rfl) hreads
      have hcarries := h.calls _ hmem rfl
      unfold BreakCall.Carries at hcarries
      rwa [hwriter] at hcarries
  · intro event hevent
    rcases List.mem_append.mp hevent with hmoved | hdone
    · obtain ⟨other, hother, heq⟩ := List.mem_map.mp hmoved
      rcases List.mem_or_eq_of_mem_set hother with hold | rfl
      · exact h.signed event (heq ▸ tracked_of_call hold)
      · have hsame : (s.calls[index].capsule, s.calls[index].event) = (capsule, event) := heq
        exact h.signed event (hsame ▸ tracked_of_call hmem)
    · exact h.signed event (List.mem_append_right _ hdone)

/-- What is exported after an append carries the event. -/
theorem carries_export {state : RuntimeState} (h : event ∈ state.events) (host : HostProcess env)
    (capsule : String) :
    BreakCall.Carries host
      ⟨capsule, event, (hivraExportLedger env.platform state).map .exported⟩ := by
  unfold RuntimeState.events at h
  unfold hivraExportLedger exportRuntimeLedger
  cases hcapsule : state.capsule with
  | none =>
    rw [hcapsule] at h
    cases h
  | some held =>
    rw [hcapsule] at h
    show eventValue env.dart event
      ∈ storedEvents env.dart (some (.json (exportedLedger env.platform.sha256 held.ledger)))
    rw [storedEvents_exported]
    exact List.mem_map_of_mem h

/-- The writer of a new break has the ledger of the runtime. -/
theorem writer_of_start {s' : Breaking env} {outside : CallOutside Seed} {peer : PubKey}
    {own peerStarter : StarterId} (h : call ∈ s'.calls) (hidle : s.calls = [])
    (hstart : s.start capsule outside peer own peerStarter = s') :
    call.writer = (hivraExportLedger env.platform s'.host.runtime).map .exported := by
  subst hstart
  unfold Breaking.start at h ⊢
  dsimp only at h ⊢
  split at h
  · rw [hidle, List.nil_append, List.mem_singleton] at h
    rw [h]
  · rw [hidle] at h
    cases h

/-- A break is signed with the key of the seed. -/
theorem signedBreak_of_breakEvent {outside : CallOutside Seed} {state : RuntimeState} {peer : PubKey}
    {own peerStarter : StarterId}
    (h : BreakEvent env.platform outside state peer own peerStarter event)
    (hseed : ∀ seed ∈ outside.loadSeed, ∀ key ∈ env.platform.rootPublicKey seed,
      hexText key.bytes.toList = capsule) : SignedBreak capsule event := by
  obtain ⟨seed, prepared, hload, hprepared, rfl⟩ := h
  obtain ⟨hkind, -, hkey⟩ := Engine.prepareEvent_ok env.platform hprepared
  rw [publicKey_buildEngine] at hkey
  exact ⟨hkind, hseed seed hload _ hkey⟩

/-- A change of the runtime alone keeps the invariant. -/
theorem BreaksKept.runtime (h : BreaksKept capsule history s) (runtime : RuntimeState) :
    BreaksKept capsule history ⟨{ s.host with runtime := runtime }, s.calls, s.acknowledged⟩ where
  turns := h.turns.runtime runtime
  acknowledged := h.acknowledged
  calls call hcall hcapsule :=
    have hextends : Extends call.capsule s.host { s.host with runtime := runtime } := List.prefix_rfl
    (h.calls call hcall hcapsule).mono hextends
  signed := h.signed

/-- **The start of a break** keeps the invariant. -/
theorem BreaksKept.start (h : BreaksKept capsule history s) {broken : String}
    {outside : CallOutside Seed} {peer : PubKey} {own peerStarter : StarterId}
    (hfits : BreakStep.Fits capsule history s
      (.breakRelationship broken outside (some peer) (some own) (some peerStarter))) :
    BreaksKept capsule history (s.start broken outside peer own peerStarter) := by
  unfold Breaking.start
  dsimp only
  split
  · rename_i reference event hreference hevent
    rcases @breakRelationship_cases _ env.platform outside s.host.runtime peer own peerStarter with
      ⟨-, hnone, -⟩ | ⟨appended, hbreak, -, -, hgrows⟩
    · rw [hnone] at hreference
      cases hreference
    · -- the capsule in the runtime has grown by the event
      rw [hgrows.events, List.getElem?_concat_length, Option.some.injEq] at hevent
      subst hevent
      have hkept := h.runtime (breakRelationshipWithDeliveryReference env.platform outside
        s.host.runtime (some peer) (some own) (some peerStarter)).state
      refine ⟨?_, hkept.acknowledged, ?_, ?_⟩
      · show InTurn _ _ _ (s.host.writers ++ List.filterMap BreakCall.writer (s.calls ++ _))
        rw [List.filterMap_append, ← List.append_assoc]
        cases hwriter : (hivraExportLedger env.platform _).map (.exported : _ → Writer env) with
        | none =>
          rw [List.filterMap_cons_none rfl, List.filterMap_nil, List.append_nil]
          exact hkept.turns
        | some writer =>
          obtain ⟨ledger, -, rfl⟩ := Option.map_eq_some_iff.mp hwriter
          have hadded : InTurn _ _ _ (.exported ledger :: (s.host.writers ++ s.callWriters)) :=
            hkept.turns.add trivial trivial False.elim
          exact hadded.perm (List.perm_append_singleton _ _).symm
      · intro call hcall hcapsule
        rcases List.mem_append.mp hcall with hold | hnew
        · exact hkept.calls call hold hcapsule
        · rw [List.mem_singleton.mp hnew]
          apply carries_export
          rw [hgrows.events]
          exact List.mem_concat_self
      · intro event hevent
        simp only [Breaking.tracked, List.map_append, List.map_cons, List.map_nil,
          List.append_assoc, List.mem_append, List.mem_singleton] at hevent
        rcases hevent with hold | hnew | hdone
        · exact h.signed event (List.mem_append_left _ hold)
        · obtain ⟨rfl, rfl⟩ := Prod.mk.inj hnew
          exact signedBreak_of_breakEvent hbreak (hfits rfl).2
        · exact h.signed event (List.mem_append_right _ hdone)
  · exact h.runtime _

/-- **One step** that fits keeps the invariant. -/
theorem BreaksKept.step (hname : capsule ≠ "") {s : Breaking env} (step : BreakStep Seed)
    (h : BreaksKept capsule history s) (hfits : step.Fits capsule history s) :
    BreaksKept capsule history (s.step step) := by
  cases step with
  | host step =>
    obtain ⟨hturns, hextends⟩ := hostStep_inTurn (follows_breakRule hname) h.turns hfits
    refine ⟨hturns, ?_, ?_, h.signed⟩
    · intro event hevent
      exact hextends.subset (h.acknowledged event hevent)
    · rintro call hcall rfl
      exact (h.calls call hcall rfl).mono hextends
  | breakRelationship broken outside peer own peerStarter =>
    cases peer <;> cases own <;> cases peerStarter <;> first | exact h | exact h.start hfits
  | advance index exportedAt =>
    unfold Breaking.step
    dsimp only
    split
    · exact h
    · rename_i broken event hcall
      exact h.acknowledge hcall rfl
    · rename_i broken event writer hcall
      split_ifs with hthrows
      · exact h.erase index h.acknowledged fun _ hdone => List.mem_append_right _ hdone
      · exact h.advance hname hcall rfl hfits (by simpa using hthrows)
  | fail index => exact h.erase index h.acknowledged fun _ hdone => List.mem_append_right _ hdone

/-! ### Runs -/

/-- A run of breaks and of the host. -/
def breakRun (host : HostProcess env) (steps : List (BreakStep Seed)) : Breaking env :=
  replay Breaking.step ⟨host, [], []⟩ steps

/-- A step that hands nothing on, where no other writer has its turn. -/
def BreakStep.calm (capsule : String) (s : Breaking env) : BreakStep Seed → Bool
  | .host step => step.calm capsule s.callWriters s.host
  | .advance index _ => s.calls[index]?.all fun call => call.writer.all fun writer =>
      writer.calm capsule s.host
        (s.host.writers ++ (s.calls.eraseIdx index).filterMap BreakCall.writer)
  | _ => false

theorem BreakStep.fits_of_calm {step : BreakStep Seed} (h : step.calm capsule s = true) :
    step.Fits capsule history s := by
  cases step with
  | host step => exact step.fits_of_calm h
  | advance index exportedAt =>
    intro call hcall writer hwriter
    have hcalm : writer.calm capsule s.host
        (s.host.writers ++ (s.calls.eraseIdx index).filterMap BreakCall.writer) = true := by
      unfold BreakStep.calm at h
      dsimp only at h
      rwa [hcall, Option.all_some, hwriter, Option.all_some] at h
    obtain ⟨hreceives, htakes⟩ := Writer.fits_of_calm hcalm
    refine ⟨hreceives, htakes, fun _ ledger hledger => ?_⟩
    rw [hledger] at hcalm
    cases hcalm
  | _ => cases h

end LocalBreak

/-! ### A worker of another capsule -/

/-- A leaf with one relationship, to the peer 66. -/
def partneredState : RuntimeState :=
  runCalls samplePlatform bornState [.ledgerAppendEvent ⟨some bornSeed, ⟨some bornSeed, some 30⟩⟩ 7
    (some (RelationshipEstablishedPayload.toBytes ⟨⟨fill 32 66⟩, ⟨fill 32 3⟩, ⟨fill 32 4⟩,
      .juice, fill 32 5, ⟨fill 32 66⟩, .juice, ⟨fill 32 4⟩, none, none⟩))]

/-- The seed of the other capsule. -/
def otherSeed : PubKey × PubKey := (⟨fill 32 9⟩, ⟨fill 32 19⟩)

/-- The user breaks the relationship, with a seed in the native store. -/
def breakStep (seed : PubKey × PubKey) : BreakStep (PubKey × PubKey) :=
  .breakRelationship relayDir ⟨some seed, ⟨some seed, some 50⟩⟩ (some ⟨fill 32 66⟩)
    (some ⟨fill 32 3⟩) (some ⟨fill 32 4⟩)

/-- The break, and its call to the end. -/
def breakSteps (seed : PubKey × PubKey) : List (BreakStep (PubKey × PubKey)) :=
  breakStep seed :: List.replicate 7 (.advance 0 "")

/-- The leaf before its first store. -/
def partneredHost : HostProcess sampleEnv := ⟨partneredState, fun _ => none, []⟩

/-- A worker brings the ledger without the break. -/
def workerStep : BreakStep (PubKey × PubKey) :=
  .host (.persistLedgerSnapshotForCapsuleHex relayDir ((ledgerText partneredState).getD .garbled))

/-- The leaf behind the native call for the break, with the worker under way. -/
def brokenState : Breaking sampleEnv :=
  ((⟨partneredHost, [], []⟩ : Breaking sampleEnv).step workerStep).start relayDir
    ⟨some bornSeed, ⟨some bornSeed, some 50⟩⟩ ⟨fill 32 66⟩ ⟨fill 32 3⟩ ⟨fill 32 4⟩

/-- The worker stores while the break waits, and the break behind it. -/
def mixedSteps : List (BreakStep (PubKey × PubKey)) :=
  let worker : BreakStep (PubKey × PubKey) := .host (.advance 0 "")
  let move : BreakStep (PubKey × PubKey) := .advance 0 ""
  [worker, worker, move, worker, worker, worker, move, move, move, move]

/-- A first part of the history of the leaf may be handed over. -/
theorem allows_partnered {state : RuntimeState} {capsule : Capsule}
    (hcapsule : state.capsule = some capsule)
    (hname : hexText capsule.ledger.owner.bytes.toList = relayDir)
    (hfront : state.events <+: brokenState.host.runtime.events) (hfits : FitsHost capsule.ledger)
    (hlength : capsule.ledger.events.length < 2 ^ 63) {doc : Document}
    (hdoc : hivraExportLedger samplePlatform state = some doc) :
    (breakRule relayDir brokenState.host.runtime.events).Allows sampleEnv relayDir (.json doc) := by
  rw [RuntimeState.events, hcapsule] at hfront
  exact allows_export hcapsule
    ⟨hname, ⟨fun _ => hfront, fun hother => absurd rfl hother⟩, hfits, hlength⟩ hdoc

/-- The condition at the start of the worker, at the break, and where its owner is read. -/
theorem fits_partnered :
    Along Breaking.step (BreakStep.Fits relayDir brokenState.host.runtime.events)
      (⟨partneredHost, [], []⟩ : Breaking sampleEnv)
      [workerStep, breakStep bornSeed, .advance 0 ""] := by
  refine ⟨?_, fun _ => ⟨by decide +kernel, ?_⟩, ?_, trivial⟩
  · intro owner howner
    have hname : extractOwnerHex sampleDart ((ledgerText partneredState).getD .garbled)
        = some (some relayDir) := by decide +kernel
    obtain rfl := Option.some.inj (hname.symm.trans howner)
    obtain ⟨doc, hdoc⟩ := Option.isSome_iff_exists.mp
      (by decide +kernel : (hivraExportLedger samplePlatform partneredState).isSome = true)
    rw [ledgerText, hdoc]
    exact allows_partnered (Option.some_get (by decide +kernel)).symm (by decide +kernel)
      (by decide +kernel) ⟨by decide +kernel, by decide +kernel, by decide +kernel⟩
      (by decide +kernel) hdoc
  · rintro seed hseed key hkey
    cases hseed
    cases hkey
    decide +kernel
  · intro call hcall writer hwriter
    rw [show Breaking.step (Breaking.step ⟨partneredHost, [], []⟩ workerStep) (breakStep bornSeed)
      = brokenState from rfl] at hcall ⊢
    have hidle : ((⟨partneredHost, [], []⟩ : Breaking sampleEnv).step workerStep).calls = [] := rfl
    rw [Option.mem_def, writer_of_start (List.mem_of_getElem? hcall) hidle rfl] at hwriter
    obtain ⟨doc, hdoc, rfl⟩ := Option.map_eq_some_iff.mp hwriter
    have howner : capsuleDirOf (hivraCapsuleRuntimeOwnerPublicKey brokenState.host.runtime)
        = relayDir := by decide +kernel
    refine ⟨?_, trivial, fun _ _ _ => howner⟩
    rw [Writer.Receives, howner]
    exact allows_partnered (Option.some_get (by decide +kernel)).symm (by decide +kernel)
      List.prefix_rfl ⟨by decide +kernel, by decide +kernel, by decide +kernel⟩ (by decide +kernel)
      hdoc

/-- The kind of a decoded event. -/
def kindText : DartValue String → Option String
  | .obj members => match members.lookup "kind" with
    | some (.str text) => some text
    | _ => none
  | _ => none

end Hivra
