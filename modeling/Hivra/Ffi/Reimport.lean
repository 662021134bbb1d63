import Hivra.Ffi.LedgerJson
import Hivra.Ffi.SoundLedger

namespace Hivra

open ByteString Replay Serde

/-!
# Importing what was exported

A runtime ledger is exported and imported into the same runtime.  The import asks for one
birth, at the front; a free append of a second one is not refused by any call.

* `runCalls_reimports_iff` — after a run: iff no call of it appended a birth.
-/

section Reimport

variable {Seed : Type} (platform : Platform Seed)

/-- The exported document is parsed and imported, and the capsule is as before. -/
def Reimports (lossy : Literal → Option UInt64) (toVec : Ledger → List UInt8)
    (outside : Outside Seed) (state : RuntimeState) : Prop :=
  ∃ doc parsed state', exportRuntimeLedger platform.sha256 state = .ok doc ∧
    parseLedgerJson lossy doc = .ok parsed ∧
    importRuntimeLedger platform toVec outside state parsed = (.ok (), state') ∧
    state'.capsule = state.capsule

/-- A call appends a birth: it is a free append of that kind, and the runtime takes it. -/
def RuntimeCall.AppendsBirth (state : RuntimeState) (call : RuntimeCall Seed) : Prop :=
  match call with
  | .ledgerAppendEvent outside byte payloadPtr =>
    eventKindFromU8 byte = some .capsuleCreated ∧ ∃ payload seed, payloadPtr = some payload ∧
      outside.loadSeed = some seed ∧
      TakesOwn platform (buildEngine state seed) outside.append state .capsuleCreated payload
  | _ => False

/-- No call of a run appends a birth in the state it is made in. -/
def NoSecondBirth (state : RuntimeState) : List (RuntimeCall Seed) → Prop
  | [] => True
  | call :: rest =>
    ¬ call.AppendsBirth platform state ∧ NoSecondBirth (call.apply platform state) rest

variable {platform}

/-! ### Coming back -/

/-- An import of a continuous ledger that succeeds takes it over as it is. -/
private theorem importRuntimeLedger_eq {toVec : Ledger → List UInt8} {outside : Outside Seed}
    {state state' : RuntimeState} {capsule : Capsule} (hcapsule : state.capsule = some capsule)
    {ledger : Ledger} (hv5 : ledger.isContinuousV5 = true)
    (h : importRuntimeLedger platform toVec outside state ledger = (.ok (), state')) :
    state' = (state.observeLedgerTailTs ledger).withLedger capsule ledger := by
  unfold importRuntimeLedger at h
  simp only [hcapsule] at h
  split at h
  · simp at h
  · unfold admitImportedLedger at h
    simp only [hv5, if_true] at h
    split at h
    · simp at h
    · rename_i admitted hadmit
      split at hadmit
      · simp at hadmit
      · split at hadmit
        · simp at hadmit
        · rw [← Except.ok.inj hadmit] at h
          exact (Prod.mk.inj h).2.symm

variable {state : RuntimeState}

/-- **When a sound ledger comes back.**  There is a seed, and the ledger is born once. -/
theorem reimports_iff_born (lossy : Literal → Option UInt64) (toVec : Ledger → List UInt8)
    (outside : Outside Seed) {capsule : Capsule} {continuity : ContinuousLedgerV5}
    (hcapsule : state.capsule = some capsule) (hc : capsule.ledger.continuityV5 = some continuity)
    (hsound : SoundV5 platform capsule.ledger continuity) :
    Reimports platform lossy toVec outside state ↔
      outside.loadSeed.isSome = true ∧ BornOnce capsule.ledger.owner capsule.ledger.events := by
  have hfits : capsule.ledger.CountFits := by
    intro other hother
    obtain rfl := Option.some.inj (hc.symm.trans hother)
    rw [hsound.base.1]
    exact Nat.two_pow_pos 64
  have hexport : exportRuntimeLedger platform.sha256 state
      = .ok (exportedLedger platform.sha256 capsule.ledger) := by
    unfold exportRuntimeLedger
    rw [hcapsule]
  have hparse := parseLedgerJson_export lossy platform.sha256 hfits
  have hv5 : capsule.ledger.isContinuousV5 = true := by simp [Ledger.isContinuousV5, hc]
  have himport := @importRuntimeLedger_v5_iff Seed platform toVec outside state capsule hcapsule _ _ hc
  have hvalid : ValidImport platform capsule.pubkey capsule.ledger ↔
      BornOnce capsule.ledger.owner capsule.ledger.events := by
    refine ⟨fun h => h.born, fun h => ⟨rfl, ?_, hsound.signed, h⟩⟩
    have hstructure := (Ledger.verifyV5Structure_iff platform.sha256 hc).mpr
      hsound.verified.toCheckedV5
    unfold Ledger.verify
    rw [if_pos (by simp [hc]), hstructure]
    rfl
  constructor
  · rintro ⟨doc, parsed, state', hdoc, hparsed, hresult, -⟩
    rw [hexport] at hdoc
    rw [← Except.ok.inj hdoc, hparse] at hparsed
    rw [← Except.ok.inj hparsed] at hresult
    have hstate := importRuntimeLedger_eq hcapsule hv5 hresult
    rw [hstate] at hresult
    obtain ⟨hborn, hseed, -⟩ := himport.mp hresult
    exact ⟨hseed, hvalid.mp hborn⟩
  · rintro ⟨hseed, hborn⟩
    have hresult := himport.mpr ⟨hvalid.mpr hborn, hseed, hsound.verified⟩
    refine ⟨_, _, _, hexport, hparse, hresult, ?_⟩
    rw [hcapsule]
    rfl

/-! ### Births along a run -/

/-- The events of the capsule start with a birth of its owner, and no other follows. -/
def BornState (state : RuntimeState) : Prop :=
  ∃ capsule, state.capsule = some capsule ∧ capsule.ledger.events ≠ [] ∧
    BornOnce capsule.ledger.owner capsule.ledger.events

/-- The events of the capsule hold a birth behind the first event. -/
def RebornState (state : RuntimeState) : Prop :=
  ∃ capsule, state.capsule = some capsule ∧
    ∃ event ∈ capsule.ledger.events.drop 1, event.kind = .capsuleCreated

variable {events more : List Event}

/-- What is appended to a capsule with events stands behind the first one. -/
private theorem drop_append (h : events ≠ []) :
    (events ++ more).drop 1 = events.drop 1 ++ more := by
  cases events with
  | nil => exact absurd rfl h
  | cons first rest => rfl

private theorem bornOnce_append {owner : PubKey} (h : events ≠ []) :
    BornOnce owner (events ++ more) ↔
      BornOnce owner events ∧ ∀ event ∈ more, event.kind ≠ .capsuleCreated := by
  cases events with
  | nil => exact absurd rfl h
  | cons first rest =>
    simp only [List.cons_append, BornOnce, List.mem_append]
    constructor
    · rintro ⟨hkind, hsigner, hall⟩
      exact ⟨⟨hkind, hsigner, fun event hevent => hall event (Or.inl hevent)⟩,
        fun event hevent => hall event (Or.inr hevent)⟩
    · rintro ⟨⟨hkind, hsigner, hrest⟩, hmore⟩
      refine ⟨hkind, hsigner, ?_⟩
      rintro event (hevent | hevent)
      · exact hrest event hevent
      · exact hmore event hevent

/-- A capsule that grows by no birth stays born once. -/
private theorem BornState.grows {state state' : RuntimeState} {new : List Event}
    (h : BornState state) (hgrows : StateGrows state state' new)
    (hnew : ∀ event ∈ new, event.kind ≠ .capsuleCreated) : BornState state' := by
  obtain ⟨capsule, hcapsule, hne, hborn⟩ := h
  cases hgrows with
  | noCapsule hnone => rw [hcapsule] at hnone; cases hnone
  | @capsule _ capsule' hbefore hafter hgrows =>
    obtain rfl := Option.some.inj (hcapsule.symm.trans hbefore)
    refine ⟨_, hafter, ?_, ?_⟩
    · rw [hgrows.events]
      exact List.append_ne_nil_of_left_ne_nil hne new
    · have howner : capsule'.ledger.owner = capsule.ledger.owner := hgrows.pubkey
      rw [hgrows.events, howner, bornOnce_append hne]
      exact ⟨hborn, hnew⟩

/-- A birth behind the first event stays there. -/
private theorem RebornState.grows {state state' : RuntimeState} {new : List Event}
    (h : RebornState state) (hgrows : StateGrows state state' new) : RebornState state' := by
  obtain ⟨capsule, hcapsule, event, hevent, hkind⟩ := h
  cases hgrows with
  | noCapsule hnone => rw [hcapsule] at hnone; cases hnone
  | capsule hbefore hafter hgrows =>
    obtain rfl := Option.some.inj (hcapsule.symm.trans hbefore)
    refine ⟨_, hafter, event, ?_, hkind⟩
    have hne : capsule.ledger.events ≠ [] := by
      intro hnil
      simp [hnil] at hevent
    rw [hgrows.events, drop_append hne]
    exact List.mem_append_left new hevent

private theorem bornState_kept : KeptByAppends platform (· ≠ .capsuleCreated) BornState :=
  .of_grows fun hgrows hnew h => h.grows hgrows hnew

private theorem rebornState_kept : KeptByAppends platform (fun _ => True) RebornState :=
  .of_grows fun hgrows _ h => h.grows hgrows

variable {outside : CallOutside Seed}

/-- A free append that goes through leaves what `prepareAndAppend` leaves. -/
private theorem appendRuntimeEvent_state {seed : Seed} (hseed : outside.loadSeed = some seed)
    (kind : EventKind) (payload : List UInt8) :
    (appendRuntimeEvent platform outside state kind payload).2
      = (prepareAndAppend platform (buildEngine state seed) outside.append state kind payload).2 := by
  unfold appendRuntimeEvent prepareAndAppend
  simp only [hseed]
  split <;> simp [*]

/-- The state of a free append is that of the append behind its checks. -/
private theorem ledgerAppendEvent_state {byte : UInt8} {kind : EventKind}
    (hbyte : eventKindFromU8 byte = some kind) (payload : List UInt8) :
    (hivraLedgerAppendEvent platform outside state byte (some payload)).2
      = (appendRuntimeEvent platform outside state kind payload).2 := by
  unfold hivraLedgerAppendEvent
  simp only [hbyte]
  split <;> simp [*]

variable (platform) in
/-- **Step lemma.**  A call of a capsule that is born once leaves it so, unless the call
    appends a birth; then there are two. -/
private theorem apply_cases (state : RuntimeState) (call : RuntimeCall Seed) (h : BornState state) :
    (¬ call.AppendsBirth platform state ∧ BornState (call.apply platform state)) ∨
      (call.AppendsBirth platform state ∧ RebornState (call.apply platform state)) := by
  by_cases hwrites : call.Writes .capsuleCreated
  · -- only a free append of this kind can write a birth
    cases call with
    | ledgerAppendEvent outside byte payloadPtr =>
      have hbyte : eventKindFromU8 byte = some .capsuleCreated := hwrites
      cases payloadPtr with
      | none =>
        refine Or.inl ⟨?_, h⟩
        rintro ⟨-, payload, seed, hnone, -⟩
        cases hnone
      | some payload =>
        cases hseed : outside.loadSeed with
        | none =>
          refine Or.inl ⟨?_, ?_⟩
          · rintro ⟨-, payload', seed, -, hsome, -⟩
            rw [hseed] at hsome
            cases hsome
          · show BornState (hivraLedgerAppendEvent platform outside state byte (some payload)).2
            rw [ledgerAppendEvent_state hbyte]
            unfold appendRuntimeEvent
            rw [hseed]
            exact h
        | some seed =>
          have hstate : (RuntimeCall.ledgerAppendEvent outside byte (some payload)).apply platform
              state = (prepareAndAppend platform (buildEngine state seed) outside.append state
                .capsuleCreated payload).2 :=
            (ledgerAppendEvent_state hbyte payload).trans
              (appendRuntimeEvent_state hseed .capsuleCreated payload)
          rw [hstate]
          rcases prepareAndAppend_cases platform (buildEngine state seed) outside.append state
            .capsuleCreated payload with ⟨hrefused, hsame⟩ | ⟨htaken, -, event, hkind, -, -, hadded⟩
          · refine Or.inl ⟨?_, h.grows hsame (by simp)⟩
            rintro ⟨-, payload', seed', hpayload, hseed', htakes⟩
            obtain rfl := Option.some.inj hpayload
            obtain rfl := Option.some.inj (hseed.symm.trans hseed')
            exact hrefused htakes
          · refine Or.inr ⟨⟨hbyte, payload, seed, rfl, hseed, htaken⟩, ?_⟩
            obtain ⟨capsule, hcapsule, hne, -⟩ := h
            cases hadded with
            | noCapsule hnone => rw [hcapsule] at hnone; cases hnone
            | capsule hbefore hafter hgrows =>
              obtain rfl := Option.some.inj (hcapsule.symm.trans hbefore)
              refine ⟨_, hafter, event, ?_, hkind⟩
              rw [hgrows.events, drop_append hne]
              exact List.mem_append_right _ (List.mem_singleton_self event)
    | _ => exact absurd rfl hwrites
  · refine Or.inl ⟨?_, RuntimeCall.keeps bornState_kept ?_ h⟩
    · cases call with
      | ledgerAppendEvent outside byte payloadPtr => exact fun hbirth => hwrites hbirth.1
      | _ => exact fun hbirth => hbirth
    · rintro kind hkind rfl
      exact hwrites hkind

variable (platform) in
/-- **Run lemma.**  After a run a capsule is born once iff no call appended a birth. -/
private theorem runCalls_born_iff (h : BornState state) (calls : List (RuntimeCall Seed)) :
    (NoSecondBirth platform state calls ∧ BornState (runCalls platform state calls)) ∨
      (¬ NoSecondBirth platform state calls ∧ RebornState (runCalls platform state calls)) := by
  induction calls generalizing state with
  | nil => exact Or.inl ⟨trivial, h⟩
  | cons call rest ih =>
    rcases apply_cases platform state call h with ⟨hno, hborn⟩ | ⟨hyes, hreborn⟩
    · rcases ih hborn with ⟨hrest, hrun⟩ | ⟨hrest, hrun⟩
      · exact Or.inl ⟨⟨hno, hrest⟩, hrun⟩
      · exact Or.inr ⟨fun hall => hrest hall.2, hrun⟩
    · refine Or.inr ⟨fun hall => hall.1 hyes, ?_⟩
      show RebornState (runCalls platform (call.apply platform state) rest)
      exact runCalls_keeps rebornState_kept (by simp) hreborn

/-- **Every runtime ledger comes back, unless a birth was appended to it.** -/
theorem runCalls_reimports_iff (hgenuine : platform.Genuine) {birthClock : Option UInt64}
    {starterClock : ℕ → Option UInt64} {before start : RuntimeState} {seed : Seed}
    {network : Network} {capsuleType : CapsuleType} {ownerMode : CapsuleOwnerMode}
    (hinit : initRuntimeState platform birthClock starterClock before seed network capsuleType
      ownerMode = (.ok (), start))
    (calls : List (RuntimeCall Seed)) (lossy : Literal → Option UInt64)
    (toVec : Ledger → List UInt8) (outside : Outside Seed) :
    Reimports platform lossy toVec outside (runCalls platform start calls) ↔
      outside.loadSeed.isSome = true ∧ NoSecondBirth platform start calls := by
  obtain ⟨capsule₀, continuity₀, hcapsule₀, hc₀, hsound₀, hne₀, hborn₀⟩ :=
    initRuntimeState_sound hgenuine hinit
  obtain ⟨capsule, continuity, hcapsule, hc, hsound⟩ :=
    runCalls_keeps (soundState_kept hgenuine) (fun call (_ : call ∈ calls) _ _ => trivial)
      ⟨capsule₀, continuity₀, hcapsule₀, hc₀, hsound₀⟩
  rw [reimports_iff_born lossy toVec outside hcapsule hc hsound, and_congr_right_iff]
  intro _
  rcases runCalls_born_iff platform ⟨capsule₀, hcapsule₀, hne₀, hborn₀⟩ calls with
    ⟨hno, other, hother, -, hborn⟩ | ⟨hyes, other, hother, event, hevent, hkind⟩
  · obtain rfl := Option.some.inj (hcapsule.symm.trans hother)
    exact ⟨fun _ => hno, fun _ => hborn⟩
  · obtain rfl := Option.some.inj (hcapsule.symm.trans hother)
    refine ⟨fun hborn => ?_, fun hno => absurd hno hyes⟩
    -- the birth behind the first event contradicts the single one
    cases hevents : capsule.ledger.events with
    | nil =>
      rw [hevents] at hevent
      simp at hevent
    | cons first rest =>
      rw [hevents] at hborn hevent
      exact absurd hkind (hborn.2.2 event hevent)

end Reimport

/-! ### Runs with and without a second birth -/

theorem samplePlatform_genuine : samplePlatform.Genuine := by
  intro seed key id signature hkey hsign
  have hroot : seed.1 = key := Option.some.inj hkey
  have hsigned := Option.some.inj hsign
  rw [← hsigned, ← hroot]
  simp [samplePlatform]

/-- The seed of a capsule that is born here. -/
def bornSeed : PubKey × PubKey := (⟨fill 32 7⟩, ⟨fill 32 17⟩)

/-- The runtime after the birth of a leaf. -/
def bornState : RuntimeState :=
  (initRuntimeState samplePlatform (some 10) (fun _ => some 20) ⟨none, 0⟩ bornSeed .neste .leaf
    .root).2

/-- A free append of a kind, with the payload of a birth. -/
def freeAppend (kind : UInt8) : RuntimeCall (PubKey × PubKey) :=
  .ledgerAppendEvent ⟨some bornSeed, ⟨some bornSeed, some 40⟩⟩ kind (some [1, 0])

private theorem bornState_init :
    initRuntimeState samplePlatform (some 10) (fun _ => some 20) ⟨none, 0⟩ bornSeed .neste .leaf
      .root = (.ok (), bornState) := by
  have hok : (initRuntimeState samplePlatform (some 10) (fun _ => some 20) ⟨none, 0⟩ bornSeed
      .neste .leaf .root).1 = .ok () := by decide +kernel
  unfold bornState
  rw [← hok]

/-- A starter is created, offered, and the offer ended; another end names no offer. -/
def bornCalls : List (RuntimeCall (PubKey × PubKey)) :=
  [.ledgerAppendEvent ⟨some bornSeed, ⟨some bornSeed, some 40⟩⟩ 5
      (some (StarterCreatedPayload.toBytes ⟨⟨fill 32 3⟩, fill 32 4, .juice, 0⟩)),
    .sendInvitation ⟨some bornSeed, fill 32 8, some 50, ⟨some bornSeed, some 50⟩⟩
      (some ⟨fill 32 8⟩) 0 none,
    .expireInvitation ⟨some bornSeed, ⟨some bornSeed, some 60⟩⟩ (some (fill 32 8)),
    .expireInvitation ⟨some bornSeed, ⟨some bornSeed, some 70⟩⟩ (some (fill 32 9))]

example : (runCalls samplePlatform bornState bornCalls).events.length = 4 := by decide +kernel

/-- What is appended with other kinds comes back. -/
theorem runCalls_reimports_starter :
    Reimports samplePlatform (fun _ => none) (fun _ => []) ⟨some bornSeed, none⟩
      (runCalls samplePlatform bornState bornCalls) :=
  (runCalls_reimports_iff samplePlatform_genuine bornState_init bornCalls (fun _ => none)
    (fun _ => []) ⟨some bornSeed, none⟩).mpr
      ⟨rfl, fun h => (by cases h.1), id, id, id, trivial⟩

/-- A second birth is appended with code 0, and the exported ledger is refused. -/
theorem secondBirth_lost :
    (hivraLedgerAppendEvent samplePlatform ⟨some bornSeed, ⟨some bornSeed, some 40⟩⟩ bornState 0
        (some [1, 0])).1 = 0 ∧
      ¬ Reimports samplePlatform (fun _ => none) (fun _ => []) ⟨some bornSeed, none⟩
        (runCalls samplePlatform bornState [freeAppend 0]) := by
  refine ⟨by decide +kernel, ?_⟩
  obtain ⟨capsule₀, continuity₀, hcapsule₀, hc₀, hsound₀, -, -⟩ :=
    initRuntimeState_sound samplePlatform_genuine bornState_init
  obtain ⟨capsule, continuity, hcapsule, hc, hsound⟩ :=
    runCalls_keeps (soundState_kept samplePlatform_genuine)
      (fun call (_ : call ∈ [freeAppend 0]) _ _ => trivial)
      ⟨capsule₀, continuity₀, hcapsule₀, hc₀, hsound₀⟩
  rw [reimports_iff_born _ _ _ hcapsule hc hsound]
  have hsecond : ((runCalls samplePlatform bornState [freeAppend 0]).events.drop 1).any
      (fun event => event.kind == .capsuleCreated) = true := by decide +kernel
  have hevents : (runCalls samplePlatform bornState [freeAppend 0]).events
      = capsule.ledger.events := by
    unfold RuntimeState.events
    rw [hcapsule]
  rw [hevents, List.any_eq_true] at hsecond
  obtain ⟨event, hevent, hkind⟩ := hsecond
  rintro ⟨-, hborn⟩
  cases hlist : capsule.ledger.events with
  | nil =>
    rw [hlist] at hevent
    simp at hevent
  | cons first rest =>
    rw [hlist] at hborn hevent
    exact hborn.2.2 event hevent (by simpa using hkind)

end Hivra
