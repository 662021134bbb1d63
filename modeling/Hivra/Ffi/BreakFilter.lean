import Hivra.Core.BreakStatus
import Hivra.Ffi.RuntimeRun

namespace Hivra

open ByteString Replay

/-!
# Breaks at the filter

The filter keeps no state of its own: it reads the events of the ledger again, with keys as
the payloads have them and without asking who signed a break.  The view of the core reads the
same events its own way.
-/

/-- The key of a relationship as the filter has it. -/
def filterKey (key : PairKey) : RelationshipKey := ⟨key.1, key.2⟩

/-- The filter reads the event as an establishment of the key. -/
def FilterEstablishes (event : Event) (key : RelationshipKey) : Prop :=
  event.kind = .relationshipEstablished ∧
    relationshipKeyFromEstablishedPayload event.payload = some key

/-- The filter reads the event as a break of the key. -/
def FilterBreaks (event : Event) (key : RelationshipKey) : Prop :=
  event.kind = .relationshipBroken ∧ relationshipKeyFromBrokenPayload event.payload = some key

instance (event : Event) (key : RelationshipKey) : Decidable (FilterEstablishes event key) := by
  unfold FilterEstablishes
  infer_instance

instance (event : Event) (key : RelationshipKey) : Decidable (FilterBreaks event key) := by
  unfold FilterBreaks
  infer_instance

/-! ### What the filter reads -/

/-- One event under the question whether a key is active. -/
def keyActiveStep (key : RelationshipKey) (active : Bool) (event : Event) : Bool :=
  if FilterEstablishes event key then true
  else if FilterBreaks event key then false
  else active

theorem relationshipKeyIsActiveInRuntime_eq (state : RuntimeState) (key : RelationshipKey) :
    relationshipKeyIsActiveInRuntime state key
      = replay (keyActiveStep key) false state.events := by
  unfold relationshipKeyIsActiveInRuntime
  congr 1
  funext active event
  unfold keyActiveStep FilterEstablishes FilterBreaks
  split
  · simp [*]
  · simp [*]
  · simp_all

/-- A remembered timestamp takes another one in. -/
theorem any_laterTimestamp (p : UInt64 → Bool) (latest : Option UInt64) (ts : UInt64)
    (hp : ∀ a b, a ≤ b → p a = true → p b = true) :
    (laterTimestamp latest ts).any p = (latest.any p || p ts) := by
  cases latest with
  | none => rfl
  | some current =>
    show p (max current ts) = (p current || p ts)
    rw [show max current ts = if current ≤ ts then ts else current from rfl]
    split_ifs with hle
    · cases hcurrent : p current with
      | false => rfl
      | true => rw [hp current ts hle hcurrent]; rfl
    · cases hts : p ts with
      | false => simp
      | true => rw [hp ts current (UInt64.le_of_lt (UInt64.not_le.mp hle)) hts]; rfl

/-- The remembered timestamps, asked for one that is high enough. -/
theorem latestTimestamps_any (state : RuntimeState) (key : RelationshipKey) (p : UInt64 → Bool)
    (hp : ∀ a b, a ≤ b → p a = true → p b = true) :
    ((relationshipKeyLatestTimestampsInRuntime state key).1.any p = true ↔
        ∃ event ∈ state.events, FilterEstablishes event key ∧ p event.timestamp = true) ∧
      ((relationshipKeyLatestTimestampsInRuntime state key).2.any p = true ↔
        ∃ event ∈ state.events, FilterBreaks event key ∧ p event.timestamp = true) := by
  unfold relationshipKeyLatestTimestampsInRuntime
  generalize state.events = events
  induction events using List.reverseRecOn with
  | nil => simp
  | append_singleton events event ih =>
    rw [replay_snoc]
    generalize replay _ (none, none) events = latest at ih ⊢
    obtain ⟨hestablished, hbroken⟩ := ih
    have hsplit : ∀ Q : Event → Prop, (∃ other ∈ events ++ [event], Q other) ↔
        (∃ other ∈ events, Q other) ∨ Q event := by
      intro Q
      simp [or_and_right, exists_or]
    rw [hsplit, hsplit, ← hestablished, ← hbroken]
    unfold FilterEstablishes FilterBreaks
    split
    · rename_i hkind
      split_ifs with hkey
      · simp [any_laterTimestamp p _ _ hp, hkind, hkey]
      · simp [hkind, hkey]
    · rename_i hkind
      split_ifs with hkey
      · simp [any_laterTimestamp p _ _ hp, hkind, hkey]
      · simp [hkind, hkey]
    · simp_all

/-- A timestamp is not read as an earlier one. -/
theorem le_normalizeDeliveryTimestamp (raw : UInt64) : raw ≤ normalizeDeliveryTimestamp raw := by
  unfold normalizeDeliveryTimestamp saturatingMul1000
  split_ifs with hzero hsmall hfits
  · rw [hzero]
    exact UInt64.le_refl 0
  · rw [UInt64.le_iff_toNat_le, UInt64.toNat_mul]
    have hmod : raw.toNat * (1000 : UInt64).toNat % 2 ^ 64 = raw.toNat * 1000 :=
      Nat.mod_eq_of_lt hfits
    omega
  · rw [UInt64.le_iff_toNat_le]
    have hbound := raw.toNat_lt
    show raw.toNat ≤ 2 ^ 64 - 1
    omega
  · exact UInt64.le_refl raw

/-- **When a break that names the key of its signer passes the filter**: it is dated behind
    every break and not before any establishment of the key, and the last of these events
    established it. -/
theorem skip_break_iff {state : RuntimeState} {payload : List UInt8}
    {broken : RelationshipBrokenPayload} {root : PubKey}
    (hparse : RelationshipBrokenPayload.fromBytes payload = .ok broken)
    (hroot : broken.peerRootPubkey = some root) (timestamp : UInt64) :
    shouldSkipIncomingDeliveryAppendWithTimestamp state .relationshipBroken payload root
        (some timestamp) = false ↔
      (∀ event ∈ state.events, FilterBreaks event (filterKey broken.key) →
        event.timestamp < normalizeDeliveryTimestamp timestamp) ∧
      (∀ event ∈ state.events, FilterEstablishes event (filterKey broken.key) →
        event.timestamp ≤ normalizeDeliveryTimestamp timestamp) ∧
      relationshipKeyIsActiveInRuntime state (filterKey broken.key) = true := by
  have hskip : shouldSkipIncomingDeliveryAppendWithTimestamp state .relationshipBroken payload root
      (some timestamp) = skipRelationshipBroken state payload root
        (some (normalizeDeliveryTimestamp timestamp)) := by
    unfold shouldSkipIncomingDeliveryAppendWithTimestamp
    simp
  generalize normalizeDeliveryTimestamp timestamp = ts at hskip ⊢
  have hbroken := (latestTimestamps_any state (filterKey broken.key) (fun b => decide (ts ≤ b))
    (fun a b hab ha => by simpa using UInt64.le_trans (by simpa using ha) hab)).2
  have hestablished := (latestTimestamps_any state (filterKey broken.key)
    (fun e => decide (ts < e))
    (fun a b hab ha => by simpa using UInt64.lt_of_lt_of_le (by simpa using ha) hab)).1
  rw [hskip]
  unfold skipRelationshipBroken
  simp only [hparse, hroot, beq_self_eq_true, Bool.true_eq_false, if_false]
  show (if ((relationshipKeyLatestTimestampsInRuntime state (filterKey broken.key)).2.any
      (fun b => decide (ts ≤ b)) || (relationshipKeyLatestTimestampsInRuntime state
        (filterKey broken.key)).1.any (fun e => decide (ts < e))) = true then true
    else !relationshipKeyIsActiveInRuntime state (filterKey broken.key)) = false ↔ _
  split_ifs with hold
  · rw [Bool.or_eq_true, hbroken, hestablished] at hold
    constructor
    · intro h
      cases h
    · rintro ⟨hlate, hnotearly, -⟩
      rcases hold with ⟨event, hevent, hkey, hts⟩ | ⟨event, hevent, hkey, hts⟩
      · exact absurd (by simpa using hts) (UInt64.not_le.mpr (hlate event hevent hkey))
      · exact absurd (by simpa using hts) (UInt64.not_lt.mpr (hnotearly event hevent hkey))
  · rw [Bool.or_eq_true, hbroken, hestablished, not_or] at hold
    obtain ⟨hnobreak, hnoestablished⟩ := hold
    constructor
    · intro h
      refine ⟨fun event hevent hkey => ?_, fun event hevent hkey => ?_, by simpa using h⟩
      · apply UInt64.not_le.mp
        intro hle
        exact hnobreak ⟨event, hevent, hkey, by simpa using hle⟩
      · apply UInt64.not_lt.mp
        intro hlt
        exact hnoestablished ⟨event, hevent, hkey, by simpa using hlt⟩
    · rintro ⟨-, -, hactive⟩
      rw [hactive]
      rfl

/-! ### Events both read the same way -/

/-- The event means to the filter what it means to the core.  A break is one the relationship
    of its key obeys.  An establishment is taken, under the key of its payload, and is dated
    behind the breaks and not before the establishments of the key.  An invitation event
    changes neither date nor status of a relationship it leaves in the view. -/
structure Heeded (localTransport : Option PubKey) (ledger : Ledger) (event : Event) : Prop where
  broken : ∀ broken, breakOf event = some broken →
    ∃ current, relationshipAt ledger localTransport broken.key = some current ∧
      current.establishedAt ≤ event.timestamp ∧
      (LocalSigner ledger.owner localTransport event ∨
        PeerSigner broken event current.peerPubkey current.peerRootPubkey)
  established : ∀ fact, establishedOf event = some fact →
    ∃ taken, takenRelationship ledger.owner localTransport (invitationsWithStatus ledger) fact
        event.timestamp = some taken ∧
      FilterEstablishes event (filterKey taken.key) ∧
      ∀ earlier ∈ ledger.events,
        (FilterEstablishes earlier (filterKey taken.key) → earlier.timestamp ≤ event.timestamp) ∧
        (FilterBreaks earlier (filterKey taken.key) → earlier.timestamp < event.timestamp)
  invitation : event.isInvitation = true → ∀ key after,
    relationshipAt (ledger.extend [event]) localTransport key = some after →
    ∃ before, relationshipAt ledger localTransport key = some before ∧
      before.establishedAt = after.establishedAt ∧ before.statusText = after.statusText

/-- The filter and the view agree: no establishment of a key is dated behind its relationship,
    and an active one is active for the filter and dated behind every break. -/
structure FilterAgrees (localTransport : Option PubKey) (ledger : Ledger) : Prop where
  dated : ∀ key current, relationshipAt ledger localTransport key = some current →
    ∀ event ∈ ledger.events, FilterEstablishes event (filterKey key) →
      event.timestamp ≤ current.establishedAt
  active : ∀ key current, relationshipAt ledger localTransport key = some current →
    current.statusText = "active" →
    replay (keyActiveStep (filterKey key)) false ledger.events = true ∧
      ∀ event ∈ ledger.events, FilterBreaks event (filterKey key) →
        event.timestamp < current.establishedAt

section Keys

variable {event : Event} {key : PairKey}

theorem filterKey_injective {key' : PairKey} (h : filterKey key = filterKey key') : key = key' := by
  have hpeer := congrArg RelationshipKey.peerPubkey h
  have hown := congrArg RelationshipKey.ownStarterId h
  exact Prod.ext hpeer hown

/-- Both read the same breaks. -/
theorem filterBreaks_iff : FilterBreaks event (filterKey key) ↔ BreaksKey event key := by
  unfold FilterBreaks BreaksKey breakOf relationshipKeyFromBrokenPayload filterKey
  cases event.kind <;>
    cases RelationshipBrokenPayload.fromBytes event.payload <;>
    simp [Except.toOption, RelationshipBrokenPayload.key, Prod.ext_iff]

/-- What the filter reads as an establishment the core reads as one, with its own idea of the
    key. -/
theorem establishedOf_of_filter {target : RelationshipKey} (h : FilterEstablishes event target) :
    establishedOf event ≠ none := by
  obtain ⟨hkind, hkey⟩ := h
  unfold establishedOf parseEstablishedFact
  rw [hkind]
  dsimp only
  unfold relationshipKeyFromEstablishedPayload at hkey
  cases hparse : RelationshipEstablishedPayload.fromBytes event.payload with
  | error message =>
    rw [hparse] at hkey
    cases hkey
  | ok payload =>
    have hlength : event.payload.length ≠ 97 := by
      intro hearly
      unfold RelationshipEstablishedPayload.fromBytes at hparse
      rw [if_pos (by omega)] at hparse
      cases hparse
    rw [if_neg hlength]
    simp

theorem filter_of_invitation (h : event.isInvitation = true) (target : RelationshipKey) :
    ¬ FilterEstablishes event target ∧ ¬ FilterBreaks event target := by
  unfold Event.isInvitation at h
  unfold FilterEstablishes FilterBreaks
  cases hkind : event.kind <;> simp_all

end Keys

section Agree

variable {localTransport : Option PubKey} {ledger : Ledger} {event : Event}

/-- The filter looks past an event that is about another key. -/
theorem keyActive_snoc_of_other {key : RelationshipKey} (hnew : ¬ FilterEstablishes event key)
    (hbreak : ¬ FilterBreaks event key) (events : List Event) :
    replay (keyActiveStep key) false (events ++ [event])
      = replay (keyActiveStep key) false events := by
  rw [replay_snoc, keyActiveStep, if_neg hnew, if_neg hbreak]

/-- An event about another key leaves the agreement about this one. -/
theorem FilterAgrees.keep (h : FilterAgrees localTransport ledger) {key : PairKey}
    {before after : ProjectedRelationship}
    (hbefore : relationshipAt ledger localTransport key = some before)
    (hdate : before.establishedAt = after.establishedAt)
    (hstatus : before.statusText = after.statusText)
    (hnew : ¬ FilterEstablishes event (filterKey key))
    (hbreak : ¬ FilterBreaks event (filterKey key)) :
    (∀ other ∈ ledger.events ++ [event], FilterEstablishes other (filterKey key) →
      other.timestamp ≤ after.establishedAt) ∧
    (after.statusText = "active" →
      replay (keyActiveStep (filterKey key)) false (ledger.events ++ [event]) = true ∧
        ∀ other ∈ ledger.events ++ [event], FilterBreaks other (filterKey key) →
          other.timestamp < after.establishedAt) := by
  rw [← hdate, ← hstatus, keyActive_snoc_of_other hnew hbreak]
  refine ⟨fun other hother hkey => ?_, fun hactive => ⟨(h.active key before hbefore hactive).1,
    fun other hother hkey => ?_⟩⟩
  · rcases List.mem_append.mp hother with hold | hlast
    · exact h.dated key before hbefore other hold hkey
    · rw [List.mem_singleton.mp hlast] at hkey
      exact absurd hkey hnew
  · rcases List.mem_append.mp hother with hold | hlast
    · exact (h.active key before hbefore hactive).2 other hold hkey
    · rw [List.mem_singleton.mp hlast] at hkey
      exact absurd hkey hbreak

/-- A relationship that obeys a break is not active behind it. -/
theorem not_active_of_heeded {owner : PubKey} {broken : RelationshipBrokenPayload}
    {current : ProjectedRelationship} (hdate : current.establishedAt ≤ event.timestamp)
    (hsigner : LocalSigner owner localTransport event ∨
      PeerSigner broken event current.peerPubkey current.peerRootPubkey) :
    (breakRelationshipWith owner localTransport broken event current).statusText ≠ "active" := by
  rw [ne_eq, ProjectedRelationship.statusText_active]
  rcases breakRelationshipWith_cases owner localTransport broken event current with
    ⟨hearly | ⟨hforeign, hnopeer⟩, -⟩ | ⟨-, -, heq⟩ | ⟨-, -, -, ⟨hover, heq⟩ | ⟨-, heq⟩⟩
  · exact absurd hdate (UInt64.not_le.mpr hearly)
  · exact absurd hsigner (not_or.mpr ⟨hforeign, hnopeer⟩)
  · rw [heq]
    simp
  · rw [heq, hover.1]
    simp
  · rw [heq]
    simp

/-- **Step rule.** An event that both read the same way keeps filter and view in agreement. -/
theorem filterAgrees_extend (h : FilterAgrees localTransport ledger)
    (hheeded : Heeded localTransport ledger event) :
    FilterAgrees localTransport (ledger.extend [event]) := by
  suffices hall : ∀ key after, relationshipAt (ledger.extend [event]) localTransport key
      = some after →
      (∀ other ∈ ledger.events ++ [event], FilterEstablishes other (filterKey key) →
        other.timestamp ≤ after.establishedAt) ∧
      (after.statusText = "active" →
        replay (keyActiveStep (filterKey key)) false (ledger.events ++ [event]) = true ∧
          ∀ other ∈ ledger.events ++ [event], FilterBreaks other (filterKey key) →
            other.timestamp < after.establishedAt) from
    ⟨fun key after hafter => (hall key after hafter).1,
      fun key after hafter => (hall key after hafter).2⟩
  intro key after hafter
  by_cases hinvitation : event.isInvitation = true
  · obtain ⟨before, hbefore, hdate, hstatus⟩ := hheeded.invitation hinvitation key after hafter
    obtain ⟨hnew, hbreak⟩ := filter_of_invitation hinvitation (filterKey key)
    exact h.keep hbefore hdate hstatus hnew hbreak
  rw [relationshipAt_extend (by simpa using hinvitation)] at hafter
  cases hfact : establishedOf event with
  | some fact =>
    obtain ⟨taken, htaken, htakes, hearlier⟩ := hheeded.established fact hfact
    have hnobreak : ¬ FilterBreaks event (filterKey key) := by
      rw [filterBreaks_iff, BreaksKey, breakOf_eq_none hfact]
      simp
    by_cases hkey : taken.key = key
    · -- the relationship begins with this event, the last and the latest of its key
      subst hkey
      rw [keyStep_of_taken hfact htaken rfl] at hafter
      obtain rfl := Option.some.inj hafter
      have hdate : taken.establishedAt = event.timestamp := by
        obtain ⟨rfl, -⟩ := takenRelationship_eq_some.mp htaken
        exact (orientEstablished_fields fact ledger.owner event.timestamp).1
      rw [hdate, replay_snoc, keyActiveStep, if_pos htakes]
      refine ⟨fun other hother hkey => ?_, fun _ => ⟨rfl, fun other hother hkey => ?_⟩⟩
      · rcases List.mem_append.mp hother with hold | hlast
        · exact (hearlier other hold).1 hkey
        · rw [List.mem_singleton.mp hlast]
          exact UInt64.le_refl _
      · rcases List.mem_append.mp hother with hold | hlast
        · exact (hearlier other hold).2 hkey
        · rw [List.mem_singleton.mp hlast] at hkey
          exact absurd hkey hnobreak
    · have hnew : ¬ FilterEstablishes event (filterKey key) := by
        intro hother
        exact hkey (filterKey_injective (Option.some.inj (htakes.2.symm.trans hother.2)))
      rcases keyStep_established hfact (relationshipAt ledger localTransport key) with
        heq | ⟨other, hother, hsame, -, -⟩
      · exact h.keep (heq.symm.trans hafter) rfl rfl hnew hnobreak
      · rw [htaken] at hother
        obtain rfl := Option.some.inj hother
        exact absurd hsame hkey
  | none =>
    have hnew : ¬ FilterEstablishes event (filterKey key) :=
      fun hfilter => establishedOf_of_filter hfilter hfact
    rcases @keyStep_of_not_established ledger.owner localTransport key event hfact with
      ⟨broken, hbroken, hkey, heq⟩ | ⟨hother, heq⟩
    · -- a break that the relationship obeys: it is not active any more
      subst hkey
      obtain ⟨current, hcurrent, hdate, hsigner⟩ := hheeded.broken broken hbroken
      rw [heq, hcurrent] at hafter
      obtain rfl := Option.some.inj hafter
      rw [breakRelationshipWith_establishedAt]
      refine ⟨fun other hother hestablishes => ?_, fun hactive => ?_⟩
      · rcases List.mem_append.mp hother with hold | hlast
        · exact h.dated _ current hcurrent other hold hestablishes
        · rw [List.mem_singleton.mp hlast] at hestablishes
          exact absurd hestablishes hnew
      · exact absurd hactive (not_active_of_heeded hdate hsigner)
    · rw [heq] at hafter
      exact h.keep hafter rfl rfl hnew (by rwa [filterBreaks_iff])

end Agree

/-! ### Runs -/

/-- Each event of a list is heeded in the ledger it is added to. -/
def HeededAlong (localTransport : Option PubKey) (ledger : Ledger) (events : List Event) : Prop :=
  Along (fun ledger event => ledger.extend [event]) (Heeded localTransport) ledger events

/-- A ledger of heeded events, from its first one on. -/
def HeededLedger (localTransport : Option PubKey) (ledger : Ledger) : Prop :=
  HeededAlong localTransport (.new ledger.owner) ledger.events

/-- What the core makes of a break: the relationship of the key at its place obeys it. -/
def AppliedBreak (localTransport : Option PubKey) (ledger : Ledger) (key : PairKey)
    (event : Event) : Prop :=
  ∃ front back broken current, ledger.events = front ++ event :: back ∧
    breakOf event = some broken ∧ broken.key = key ∧
    replay (keyStep ledger.owner localTransport (invitationsWithStatus ledger) key) none front
      = some current ∧
    current.establishedAt ≤ event.timestamp ∧
    (LocalSigner ledger.owner localTransport event ∨
      PeerSigner broken event current.peerPubkey current.peerRootPubkey)

/-- A break of an active relationship that names and is signed by the root of the peer, and
    is not dated before the relationship or a break the core has applied to it, is not
    skipped. -/
def GenuineBreaksPass (localTransport : Option PubKey) (state : RuntimeState) : Prop :=
  ∀ capsule, state.capsule = some capsule →
  ∀ item ∈ (relationshipCurrentViewV1 capsule.ledger localTransport).relationships,
    item.status = "active" →
  ∀ root, item.peerRootPubkey = some root →
  ∀ payload broken, RelationshipBrokenPayload.fromBytes payload = .ok broken →
    broken.key = item.key → broken.peerRootPubkey = some root →
  ∀ timestamp, item.establishedAt ≤ timestamp →
    (∀ event, AppliedBreak localTransport capsule.ledger item.key event →
      event.timestamp ≤ timestamp) →
    shouldSkipIncomingDeliveryAppendWithTimestamp state .relationshipBroken payload root
      (some timestamp) = false

section Run

variable {Seed : Type} (platform : Platform Seed) {localTransport : Option PubKey}

/-- Every event that a call appends is heeded. -/
def HeededCall (localTransport : Option PubKey) (state : RuntimeState)
    (call : RuntimeCall Seed) : Prop :=
  ∀ capsule new, state.capsule = some capsule →
    StateGrows state (call.apply platform state) new →
    HeededAlong localTransport capsule.ledger new

/-- A call leaves the capsule alone or adds events to its ledger. -/
theorem exists_stateGrows (state : RuntimeState) (call : RuntimeCall Seed) :
    ∃ new, StateGrows state (call.apply platform state) new := by
  have hkept : KeptByAppends platform (fun _ => True)
      (fun state' => ∃ new, StateGrows state state' new) := by
    apply KeptByAppends.of_grows
    rintro state₁ state₂ more hmore - ⟨new, hnew⟩
    exact ⟨new ++ more, hnew.trans hmore⟩
  exact RuntimeCall.keeps hkept (fun _ _ => trivial) ⟨[], .of_capsule_eq rfl⟩

/-- The agreement depends on the owner and the events alone. -/
theorem FilterAgrees.congr {ledger ledger' : Ledger} (howner : ledger'.owner = ledger.owner)
    (hevents : ledger'.events = ledger.events) (h : FilterAgrees localTransport ledger) :
    FilterAgrees localTransport ledger' := by
  have hsame : ∀ key, relationshipAt ledger' localTransport key
      = relationshipAt ledger localTransport key := by
    intro key
    unfold relationshipAt invitationsWithStatus
    rw [howner, hevents]
  constructor
  · intro key current hcurrent
    rw [hevents]
    exact h.dated key current ((hsame key).symm.trans hcurrent)
  · intro key current hcurrent
    rw [hevents]
    exact h.active key current ((hsame key).symm.trans hcurrent)

theorem replay_extend (ledger : Ledger) (events : List Event) :
    replay (fun ledger event => Ledger.extend ledger [event]) ledger events
      = ledger.extend events := by
  induction events generalizing ledger with
  | nil =>
    show ledger = { ledger with events := ledger.events ++ [] }
    rw [List.append_nil]
  | cons event events ih =>
    rw [replay_cons, ih]
    show { ledger with events := (ledger.events ++ [event]) ++ events }
      = { ledger with events := ledger.events ++ event :: events }
    rw [List.append_assoc]
    rfl

/-- Heeded events keep the agreement. -/
theorem filterAgrees_along {ledger ledger' : Ledger} {events : List Event}
    (h : FilterAgrees localTransport ledger)
    (hheeded : HeededAlong localTransport ledger events) (howner : ledger'.owner = ledger.owner)
    (hevents : ledger'.events = ledger.events ++ events) : FilterAgrees localTransport ledger' := by
  have hend := along_invariant hheeded h fun _ _ => filterAgrees_extend
  rw [replay_extend] at hend
  exact @FilterAgrees.congr _ (ledger.extend events) ledger' howner hevents hend

/-- A heeded ledger is read the same way by both. -/
theorem HeededLedger.agrees {ledger : Ledger} (h : HeededLedger localTransport ledger) :
    FilterAgrees localTransport ledger := by
  have hempty : FilterAgrees localTransport (.new ledger.owner) := by
    constructor
    · intro key current hcurrent
      cases hcurrent
    · intro key current hcurrent
      cases hcurrent
  exact @filterAgrees_along _ (.new ledger.owner) ledger ledger.events hempty h rfl rfl

/-- In agreement with the view the filter lets the breaks of the peer pass. -/
theorem FilterAgrees.pass {state : RuntimeState}
    (h : ∀ capsule, state.capsule = some capsule → FilterAgrees localTransport capsule.ledger) :
    GenuineBreaksPass localTransport state := by
  intro capsule hcapsule item hitem hactive root hroot payload broken hparse hkey hnamed timestamp
    hdate _
  have hevents : state.events = capsule.ledger.events := by
    unfold RuntimeState.events
    rw [hcapsule]
  have hrow := relationshipItem_eq_some.mpr ⟨hitem, rfl⟩
  rw [relationshipItem_eq] at hrow
  obtain ⟨current, hcurrent, rfl⟩ := Option.map_eq_some_iff.mp hrow
  obtain ⟨hfilter, hbreaks⟩ := (h capsule hcapsule).active _ current hcurrent hactive
  have hlate : current.establishedAt ≤ normalizeDeliveryTimestamp timestamp :=
    UInt64.le_trans hdate (le_normalizeDeliveryTimestamp timestamp)
  rw [skip_break_iff hparse hnamed, hkey, relationshipKeyIsActiveInRuntime_eq, hevents]
  refine ⟨fun event hevent hbreak => ?_, fun event hevent hestablishes => ?_, hfilter⟩
  · exact UInt64.lt_of_lt_of_le (hbreaks event hevent hbreak) hlate
  · exact UInt64.le_trans ((h capsule hcapsule).dated _ current hcurrent event hevent hestablishes)
      hlate

/-- **Along heeded events no break of the peer is skipped.** -/
theorem genuine_break_admitted {state : RuntimeState} {calls : List (RuntimeCall Seed)}
    (hstart : ∀ capsule, state.capsule = some capsule →
      HeededLedger localTransport capsule.ledger)
    (hcalls : Along (RuntimeCall.apply platform) (HeededCall platform localTransport) state calls) :
    GenuineBreaksPass localTransport (runCalls platform state calls) := by
  apply FilterAgrees.pass
  refine along_invariant (P := fun state : RuntimeState => ∀ capsule, state.capsule = some capsule →
    FilterAgrees localTransport capsule.ledger) hcalls (fun capsule hcapsule =>
      (hstart capsule hcapsule).agrees) ?_
  intro before call hagrees hheeded capsule' hcapsule'
  obtain ⟨new, hgrows⟩ := exists_stateGrows platform before call
  rcases hgrows with ⟨-, hnone, -⟩ | @⟨capsule, other, hcapsule, hother, hgrown⟩
  · rw [hnone] at hcapsule'
    cases hcapsule'
  · obtain rfl := Option.some.inj (hcapsule'.symm.trans hother)
    exact filterAgrees_along (hagrees capsule hcapsule)
      (hheeded capsule new hcapsule (.capsule hcapsule hother hgrown)) hgrown.pubkey hgrown.events

end Run

/-! ### A break of a foreign root -/

/-- The owner of the example. -/
def suppressedSeed : PubKey × PubKey := (⟨fill 32 7⟩, ⟨fill 32 17⟩)

def suppressedOutside (clock : UInt64) : Outside (PubKey × PubKey) := ⟨some suppressedSeed, some clock⟩

/-- The peer 8, whose root key is 9, and the own starter 3. -/
def suppressedKey : PairKey := (⟨fill 32 8⟩, ⟨fill 32 3⟩)

/-- The owner records the relationship. -/
def recordPair (clock : UInt64) : RuntimeCall (PubKey × PubKey) :=
  .ledgerAppendEvent ⟨some suppressedSeed, suppressedOutside clock⟩ 7
    (some (RelationshipEstablishedPayload.toBytes {
      peerPubkey := suppressedKey.1
      ownStarterId := suppressedKey.2
      peerStarterId := ⟨fill 32 4⟩
      kind := .juice
      invitationId := fill 32 1
      senderPubkey := ⟨fill 32 17⟩
      senderStarterType := .juice
      senderStarterId := ⟨fill 32 3⟩
      peerRootPubkey := some ⟨fill 32 9⟩
      senderRootPubkey := some ⟨fill 32 7⟩ }))

/-- A break that names a root and is signed by it. -/
def rootBreak (root : PubKey) (timestamp : UInt64) : Event :=
  let unsigned := Event.newV5 .relationshipBroken
    (RelationshipBrokenPayload.toBytes ⟨suppressedKey.1, suppressedKey.2, some root⟩) timestamp
    ⟨fill 64 0⟩ root
  { unsigned with
    signature := ⟨⟨(unsigned.eventId sampleDigest).toList ++ root.bytes.toList, by simp⟩⟩ }

/-- The delivery of such a break from some transport key. -/
def deliverRootBreak (root : PubKey) (timestamp : UInt64) : RuntimeCall (PubKey × PubKey) :=
  let event := rootBreak root timestamp
  .receive ⟨false, false, suppressedOutside timestamp, suppressedOutside timestamp⟩ suppressedSeed
    suppressedSeed.2 ⟨0, 0, 0, 0, 0, 0, 0, 0, 0, 0, 0, 0, 0, 0⟩
    { fromPubkey := ⟨fill 32 66⟩
      toPubkey := suppressedSeed.2
      kind := 8
      payload := event.payload
      timestamp := timestamp
      domainEvent := some ⟨5, 8, root, event.signature.bytes.toList⟩ }

/-- A capsule with an empty history. -/
def unrelatedState : RuntimeState := ⟨some ⟨.neste, .freshV5 suppressedSeed.1⟩, 0⟩

/-- The pair is related, and a stranger who is nobody's root breaks it in the name of his own. -/
def suppressedState : RuntimeState :=
  runCalls samplePlatform unrelatedState
    [recordPair 1700000000100, deliverRootBreak ⟨fill 32 13⟩ 1700000000200]

/-- **A break of a foreign root shuts out the peer.**  The core passes over it and shows the
    relationship as active; for the filter the key is broken. -/
theorem foreign_break_suppresses : ¬ GenuineBreaksPass (some suppressedSeed.2) suppressedState := by
  intro hpass
  have hrow : (suppressedState.capsule.bind fun capsule =>
      (relationshipAt capsule.ledger (some suppressedSeed.2) suppressedKey).map fun current =>
        (current.statusText, current.peerRootPubkey, current.establishedAt))
      = some ("active", some ⟨fill 32 9⟩, 1700000000100) := by decide +kernel
  have htimes : suppressedState.events.map Event.timestamp = [1700000000100, 1700000000200] := by
    decide +kernel
  obtain ⟨capsule, hcapsule, hrow⟩ := Option.bind_eq_some_iff.mp hrow
  obtain ⟨current, hcurrent, hrow⟩ := Option.map_eq_some_iff.mp hrow
  simp only [Prod.mk.injEq] at hrow
  obtain ⟨hactive, hroot, hdate⟩ := hrow
  have hitem : relationshipItem capsule.ledger (some suppressedSeed.2) suppressedKey
      = some (relationshipCurrentItem (projectRelationships capsule.ledger (some suppressedSeed.2))
        current) := by
    rw [relationshipItem_eq, hcurrent]
    rfl
  have hskip := hpass capsule hcapsule _ (relationshipItem_eq_some.mp hitem).1 hactive _ hroot
    (rootBreak ⟨fill 32 9⟩ 1700000000300).payload ⟨suppressedKey.1, suppressedKey.2, some ⟨fill 32 9⟩⟩
    (by decide +kernel) (relationshipItem_eq_some.mp hitem).2.symm rfl 1700000000300
    (by show current.establishedAt ≤ _; rw [hdate]; decide)
    (by
      rintro event ⟨front, back, -, -, hevents, -⟩
      have hmem : event.timestamp ∈ suppressedState.events.map Event.timestamp := by
        apply List.mem_map_of_mem
        rw [RuntimeState.events, hcapsule]
        show event ∈ capsule.ledger.events
        rw [hevents]
        simp
      rw [htimes] at hmem
      simp only [List.mem_cons, List.not_mem_nil, or_false] at hmem
      rcases hmem with h | h <;> rw [h] <;> decide)
  exact absurd hskip (by decide +kernel)

/-- The event of the record. -/
def recordedPair : Event :=
  ((recordPair 1700000000100).apply samplePlatform unrelatedState).events.headD
    (rootBreak ⟨fill 32 9⟩ 0)

/-- In the pair without the stranger the peer's break passes. -/
theorem genuine_break_admitted_pair : GenuineBreaksPass (some suppressedSeed.2)
    (runCalls samplePlatform unrelatedState [recordPair 1700000000100]) := by
  apply genuine_break_admitted samplePlatform
  · intro capsule hcapsule
    obtain rfl := Option.some.inj hcapsule
    exact trivial
  · refine ⟨?_, trivial⟩
    intro capsule new hcapsule hgrows
    obtain rfl := Option.some.inj hcapsule
    have hnew : ((recordPair 1700000000100).apply samplePlatform unrelatedState).events = new :=
      hgrows.events
    have hevents : ((recordPair 1700000000100).apply samplePlatform unrelatedState).events
        = [recordedPair] := by decide +kernel
    rw [← hnew, hevents]
    refine ⟨?_, trivial⟩
    constructor
    · intro broken hbroken
      rw [show breakOf recordedPair = none by decide +kernel] at hbroken
      cases hbroken
    · intro fact hfact
      have hkey : ((establishedOf recordedPair).bind fun fact =>
          takenRelationship suppressedSeed.1 (some suppressedSeed.2) [] fact
            recordedPair.timestamp).map ProjectedRelationship.key = some suppressedKey := by
        decide +kernel
      rw [hfact] at hkey
      obtain ⟨taken, htaken, hkey⟩ := Option.map_eq_some_iff.mp hkey
      refine ⟨taken, htaken, ?_, by simp [Ledger.freshV5]⟩
      rw [hkey]
      decide +kernel
    · intro hinvitation
      exact absurd hinvitation (by decide +kernel)

end Hivra
