import Hivra.Core.RelationshipKeys

namespace Hivra

open ByteString Replay

/-!
# The status of a relationship through its breaks

What one more event makes of the status the view shows for a relationship.  A break acts on
the relationship it names as the ledger stands; an invitation event acts on all of the past,
since the projection asks for every establishment whether its invitation is dead by now.
-/

/-- The status the view shows for a key. -/
def relationshipStatus (ledger : Ledger) (localTransport : Option PubKey) (key : PairKey) :
    Option String :=
  (relationshipItem ledger localTransport key).map RelationshipCurrentItemV1.status

theorem relationshipStatus_eq (ledger : Ledger) (localTransport : Option PubKey)
    (key : PairKey) : relationshipStatus ledger localTransport key =
      (relationshipAt ledger localTransport key).map ProjectedRelationship.statusText := by
  unfold relationshipStatus
  rw [relationshipItem_eq, Option.map_map]
  rfl

namespace ProjectedRelationship

variable {relationship : ProjectedRelationship}

theorem statusText_broken : relationship.statusText = "broken" ↔ relationship.IsBroken := by
  unfold statusText IsBroken
  cases relationship.isActive <;> cases relationship.hasPendingRemoteBreak <;> simp

theorem statusText_active : relationship.statusText = "active" ↔
    relationship.isActive = true ∧ relationship.hasPendingRemoteBreak = false := by
  unfold statusText
  cases relationship.isActive <;> cases relationship.hasPendingRemoteBreak <;> simp

end ProjectedRelationship

/-- An event of the life of an invitation. -/
def Event.isInvitation (event : Event) : Bool :=
  match event.kind with
  | .invitationSent | .invitationReceived => true
  | .invitationAccepted | .invitationRejected | .invitationExpired => true
  | _ => false

/-- The event establishes a relationship of the key. -/
def EstablishesKey (owner : PubKey) (event : Event) (key : PairKey) : Prop :=
  ∃ fact, establishedOf event = some fact ∧
    (orientEstablished fact owner event.timestamp).key = key

/-- The event breaks the relationship of the key. -/
def BreaksKey (event : Event) (key : PairKey) : Prop :=
  ∃ broken, breakOf event = some broken ∧ broken.key = key

/-- No break of the key is dated before an establishment of it that stands in front. -/
def BreaksDatedBehind (owner : PubKey) (events : List Event) (key : PairKey) : Prop :=
  events.Pairwise fun earlier later =>
    EstablishesKey owner earlier key → BreaksKey later key → earlier.timestamp ≤ later.timestamp

/-! ### One more event -/

variable {records : List InvitationRecord} {event : Event}

theorem invitationStep_of_other {owner : PubKey} (h : event.isInvitation = false) :
    invitationStep owner records event = records := by
  unfold Event.isInvitation at h
  unfold invitationStep
  cases hkind : event.kind <;> simp_all

/-- An event that is no invitation event is one more step. -/
theorem relationshipAt_extend {ledger : Ledger} (h : event.isInvitation = false)
    (localTransport : Option PubKey) (key : PairKey) :
    relationshipAt (ledger.extend [event]) localTransport key =
      keyStep ledger.owner localTransport (invitationsWithStatus ledger) key
        (relationshipAt ledger localTransport key) event := by
  unfold relationshipAt
  rw [invitationsWithStatus_extend, invitationStep_of_other h]
  exact replay_snoc _ _ _ _

/-- An invitation event is another reading of the same past. -/
theorem relationshipAt_extend_invitation {ledger : Ledger} (h : event.isInvitation = true)
    (localTransport : Option PubKey) (key : PairKey) :
    relationshipAt (ledger.extend [event]) localTransport key =
      replay (keyStep ledger.owner localTransport
        (invitationStep ledger.owner (invitationsWithStatus ledger) event) key) none
        ledger.events := by
  have hestablished : establishedOf event = none := by
    unfold Event.isInvitation at h
    unfold establishedOf
    cases hkind : event.kind <;> simp_all
  have hbreak : breakOf event = none := by
    unfold Event.isInvitation at h
    unfold breakOf
    cases hkind : event.kind <;> simp_all
  unfold relationshipAt
  rw [invitationsWithStatus_extend]
  refine (replay_snoc _ _ _ _).trans ?_
  show keyStep ledger.owner localTransport _ key _ event = _
  rw [keyStep, hestablished, hbreak]
  rfl

/-- An established relationship is active, and dated by its event. -/
theorem orientEstablished_fields (fact : EstablishedFact) (owner : PubKey) (timestamp : Timestamp) :
    (orientEstablished fact owner timestamp).establishedAt = timestamp ∧
      (orientEstablished fact owner timestamp).isActive = true ∧
      (orientEstablished fact owner timestamp).hasPendingRemoteBreak = false := by
  unfold orientEstablished
  dsimp only
  split
  · exact ⟨rfl, rfl, rfl⟩
  · split
    · exact ⟨rfl, rfl, rfl⟩
    · exact ⟨rfl, rfl, rfl⟩

/-- What is taken is the established relationship of a living invitation, and it is not about
    the owner itself. -/
theorem takenRelationship_eq_some {owner : PubKey} {localTransport : Option PubKey}
    {fact : EstablishedFact} {timestamp : Timestamp} {relationship : ProjectedRelationship} :
    takenRelationship owner localTransport records fact timestamp = some relationship ↔
      relationship = establishedRelationship owner localTransport (invitationOf records fact) fact
        timestamp ∧
      (invitationOf records fact).any InvitationRecord.isDead = false ∧
      relationship.peerRootPubkey ≠ some owner ∧ localTransport ≠ some relationship.peerPubkey := by
  unfold takenRelationship
  dsimp only
  split_ifs with h
  · constructor
    · intro hnone
      exact absurd hnone (by simp)
    · rintro ⟨rfl, hdead, hroot, htransport⟩
      rw [hdead] at h
      rcases h with h | h | h
      · exact absurd h (by simp)
      · exact absurd h hroot
      · exact absurd h htransport
  · rw [not_or, not_or, Bool.not_eq_true] at h
    constructor
    · intro heq
      rw [← Option.some.inj heq]
      exact ⟨rfl, h⟩
    · rintro ⟨rfl, -⟩
      rfl

/-! ### Later records -/

section Records

variable {owner : PubKey} {localTransport : Option PubKey} {event : Event}
  {record : InvitationRecord}

/-- A dead invitation stays dead. -/
theorem respond_isDead (h : record.isDead = true) : (respond owner event record).isDead = true := by
  have hfinal : record.IsFinal := by
    unfold InvitationRecord.isDead at h
    unfold InvitationRecord.IsFinal
    cases hstatus : record.status <;> simp_all [InvitationStatus.isRejected]
  unfold respond
  split
  · split_ifs
    · rw [applyTerminal_of_final owner event _ record hfinal]
      exact h
    · exact h
  · exact h

/-- An accepted outgoing invitation only gets its flag. -/
theorem respond_of_accepted {record : InvitationRecord} (hdirection : record.direction = .outgoing)
    (haccepted : record.status.isAccepted = true) :
    ∃ flag, respond owner event record = { record with hasLocalTerminal := flag } := by
  unfold respond
  split
  · rename_i id terminal _
    split_ifs
    · rcases applyTerminal_cases owner event terminal record with
        ⟨-, -, h⟩ | ⟨-, flag, -, ⟨h, -⟩ | ⟨hwhen, -⟩⟩
      · exact ⟨record.hasLocalTerminal, h⟩
      · exact ⟨flag, h⟩
      · rcases hwhen with hpending | ⟨hincoming, -⟩
        · rw [hpending] at haccepted
          exact absurd haccepted (by simp [InvitationStatus.isAccepted])
        · rw [hdirection] at hincoming
          exact absurd hincoming (by simp)
    · exact ⟨record.hasLocalTerminal, rfl⟩
  · exact ⟨record.hasLocalTerminal, rfl⟩

/-- A root that an invitation gives it gives for good. -/
theorem respond_root {root : PubKey}
    (h : rootOfInvitation owner localTransport record = some root) :
    rootOfInvitation owner localTransport (respond owner event record) = some root := by
  have hoffered := respond_asOffered owner event record
  have hdirection := congrArg InvitationRecord.direction hoffered
  have hroot := congrArg InvitationRecord.senderRootPubkey hoffered
  simp only [InvitationRecord.asOffered] at hdirection hroot
  cases hd : record.direction with
  | incoming =>
    rw [hd] at hdirection
    unfold rootOfInvitation at h ⊢
    rw [hd] at h
    rw [hdirection, hroot]
    exact h
  | outgoing =>
    have haccepted : record.status.isAccepted = true := by
      unfold rootOfInvitation at h
      rw [hd] at h
      cases hstatus : record.status <;> simp_all [InvitationStatus.isAccepted]
    obtain ⟨flag, heq⟩ := @respond_of_accepted owner event record hd haccepted
    rw [heq]
    exact h

/-- The record of an invitation after one more event. -/
theorem find_record_step {records : List InvitationRecord}
    (hnodup : (records.map InvitationRecord.invitationId).Nodup) {id : InvitationId}
    {record : InvitationRecord}
    (h : records.find? (fun record => record.invitationId == id) = some record) :
    (invitationStep owner records event).find? (fun record => record.invitationId == id)
      = some (respond owner event record) := by
  have hmap : (records.map (respond owner event)).find? (fun record => record.invitationId == id)
      = some (respond owner event record) := by
    rw [List.find?_map]
    have hsame : ((fun record => record.invitationId == id) ∘ respond owner event)
        = fun record : InvitationRecord => record.invitationId == id := by
      ext record
      show ((respond owner event record).invitationId == id) = _
      rw [InvitationRecord.invitationId_of_asOffered (respond_asOffered owner event record)]
    rw [hsame, h]
    rfl
  rcases invitationStep_eq_map owner hnodup event with ⟨heq, -⟩ | ⟨payload, -, -, heq⟩
  · rw [heq, hmap]
  · rw [heq, List.find?_append, hmap]
    rfl

/-- **Later records take no more.** An establishment that one more event leaves taken was
    taken before, under the same key. -/
theorem taken_of_taken_later {records : List InvitationRecord}
    (hnodup : (records.map InvitationRecord.invitationId).Nodup) {fact : EstablishedFact}
    {timestamp : Timestamp} {later : ProjectedRelationship}
    (h : takenRelationship owner localTransport (invitationStep owner records event) fact timestamp
      = some later) :
    takenRelationship owner localTransport records fact timestamp
      = some (establishedRelationship owner localTransport (invitationOf records fact) fact
        timestamp) := by
  obtain ⟨rfl, hdead, hroot, htransport⟩ := takenRelationship_eq_some.mp h
  refine takenRelationship_eq_some.mpr ⟨rfl, ?_, ?_, htransport⟩
  · -- a record that was dead is dead
    cases hold : invitationOf records fact with
    | none => rfl
    | some record =>
      obtain ⟨id, hid, hfound⟩ := Option.bind_eq_some_iff.mp hold
      have hnew : invitationOf (invitationStep owner records event) fact
          = some (respond owner event record) :=
        Option.bind_eq_some_iff.mpr ⟨id, hid, find_record_step hnodup hfound⟩
      rw [hnew] at hdead
      by_contra halive
      have hrecord : record.isDead = true := by simpa using halive
      exact absurd (respond_isDead hrecord) (by simpa using hdead)
  · -- a root that was the owner's is the owner's
    intro hself
    apply hroot
    unfold establishedRelationship at hself ⊢
    dsimp only at hself ⊢
    cases hnamed : (orientEstablished fact owner timestamp).peerRootPubkey with
    | some root =>
      rw [hnamed] at hself
      exact hself
    | none =>
      rw [hnamed] at hself
      obtain ⟨record, hold, hrecord⟩ := Option.bind_eq_some_iff.mp hself
      obtain ⟨id, hid, hfound⟩ := Option.bind_eq_some_iff.mp hold
      have hnew : invitationOf (invitationStep owner records event) fact
          = some (respond owner event record) :=
        Option.bind_eq_some_iff.mpr ⟨id, hid, find_record_step hnodup hfound⟩
      exact Option.bind_eq_some_iff.mpr ⟨_, hnew, respond_root hrecord⟩

end Records

/-! ### What later records leave broken -/

section Later

variable {owner : PubKey} {localTransport : Option PubKey} {records : List InvitationRecord}
  {key : PairKey}

/-- Everything one event does to the relationship of a key. -/
theorem keyStep_cases (current : Option ProjectedRelationship) (event : Event) :
    keyStep owner localTransport records key current event = current ∨
    (∃ fact relationship, establishedOf event = some fact ∧
      takenRelationship owner localTransport records fact event.timestamp = some relationship ∧
      relationship.key = key ∧
      keyStep owner localTransport records key current event = some relationship) ∨
    ∃ broken, breakOf event = some broken ∧ broken.key = key ∧
      keyStep owner localTransport records key current event
        = current.map (breakRelationshipWith owner localTransport broken event) := by
  unfold keyStep
  split
  · rename_i fact hfact
    cases htaken : takenRelationship owner localTransport records fact event.timestamp with
    | none => exact Or.inl rfl
    | some relationship =>
      dsimp only
      split_ifs with hkey
      · exact Or.inr (Or.inl ⟨fact, relationship, hfact, htaken, hkey, rfl⟩)
      · exact Or.inl rfl
  · rename_i broken _ hbroken
    split_ifs with hkey
    · exact Or.inr (Or.inr ⟨broken, hbroken, hkey, rfl⟩)
    · exact Or.inl rfl
  · exact Or.inl rfl

/-- The relationship of a key is dated by an establishment of the key. -/
theorem establishedAt_of_replay {events : List Event} {relationship : ProjectedRelationship}
    (h : replay (keyStep owner localTransport records key) none events = some relationship) :
    ∃ event ∈ events, EstablishesKey owner event key ∧
      relationship.establishedAt = event.timestamp := by
  have hall : ∀ relationship ∈ replay (keyStep owner localTransport records key) none events,
      ∃ event ∈ events, EstablishesKey owner event key ∧
        relationship.establishedAt = event.timestamp := by
    refine replay_invariant (P := fun current : Option ProjectedRelationship =>
      ∀ relationship ∈ current, ∃ event ∈ events, EstablishesKey owner event key ∧
        relationship.establishedAt = event.timestamp) (by simp) ?_
    intro current event hevent hcurrent relationship hrelationship
    rcases @keyStep_cases owner localTransport records key current event with
      heq | ⟨fact, taken, hfact, htaken, hkey, heq⟩ | ⟨broken, -, -, heq⟩
    · rw [heq] at hrelationship
      exact hcurrent relationship hrelationship
    · rw [heq] at hrelationship
      obtain rfl := Option.some.inj hrelationship
      obtain ⟨rfl, -⟩ := takenRelationship_eq_some.mp htaken
      exact ⟨event, hevent, ⟨fact, hfact, hkey⟩,
        (orientEstablished_fields fact owner event.timestamp).1⟩
    · rw [heq] at hrelationship
      obtain ⟨before, hbefore, rfl⟩ := Option.map_eq_some_iff.mp hrelationship
      rw [breakRelationshipWith_establishedAt]
      exact hcurrent before hbefore
  exact hall relationship h

/-- Under later records the relationship is one of before, and broken if that was. -/
def BrokenOrGone (current later : Option ProjectedRelationship) : Prop :=
  ∀ after ∈ later, ∃ before ∈ current, before.IsBroken → after.IsBroken

/-- An establishment leaves the relationship of a key alone or makes a new one. -/
theorem keyStep_established {event : Event} {fact : EstablishedFact}
    (hfact : establishedOf event = some fact) (current : Option ProjectedRelationship) :
    keyStep owner localTransport records key current event = current ∨
      ∃ taken, takenRelationship owner localTransport records fact event.timestamp = some taken ∧
        taken.key = key ∧ ¬ taken.IsBroken ∧
        keyStep owner localTransport records key current event = some taken := by
  rcases @keyStep_cases owner localTransport records key current event with
    heq | ⟨fact', taken, hfact', htaken, hkey, heq⟩ | ⟨broken, hbroken, -, -⟩
  · exact Or.inl heq
  · obtain rfl := Option.some.inj (hfact.symm.trans hfact')
    refine Or.inr ⟨taken, htaken, hkey, ?_, heq⟩
    obtain ⟨rfl, -⟩ := takenRelationship_eq_some.mp htaken
    intro hover
    have hactive := (orientEstablished_fields fact owner event.timestamp).2.1
    exact absurd (hover.1.symm.trans hactive) (by simp)
  · rw [breakOf_eq_none hfact] at hbroken
    exact absurd hbroken (by simp)

/-- A taken establishment of the key makes its relationship. -/
theorem keyStep_of_taken {event : Event} {fact : EstablishedFact}
    {taken : ProjectedRelationship} (hfact : establishedOf event = some fact)
    (htaken : takenRelationship owner localTransport records fact event.timestamp = some taken)
    (hkey : taken.key = key) (current : Option ProjectedRelationship) :
    keyStep owner localTransport records key current event = some taken := by
  unfold keyStep
  rw [hfact]
  dsimp only
  rw [htaken]
  exact if_pos hkey

/-- A break that names the key acts on its relationship, another event of no establishment
    on none. -/
theorem keyStep_of_not_established {event : Event} (hfact : establishedOf event = none) :
    (∃ broken, breakOf event = some broken ∧ broken.key = key ∧
      ∀ records current, keyStep owner localTransport records key current event
        = current.map (breakRelationshipWith owner localTransport broken event)) ∨
    ¬ BreaksKey event key ∧
      ∀ records current, keyStep owner localTransport records key current event = current := by
  unfold BreaksKey
  cases hbreak : breakOf event with
  | none =>
    refine Or.inr ⟨by simp, fun records current => ?_⟩
    rw [keyStep, hfact, hbreak]
  | some broken =>
    by_cases hkey : broken.key = key
    · refine Or.inl ⟨broken, rfl, hkey, fun records current => ?_⟩
      rw [keyStep, hfact, hbreak]
      exact if_pos hkey
    · refine Or.inr ⟨by simpa using hkey, fun records current => ?_⟩
      rw [keyStep, hfact, hbreak]
      exact if_neg hkey

/-- One event under the earlier and the later records. -/
theorem brokenOrGone_step (hnodup : (records.map InvitationRecord.invitationId).Nodup)
    (answer : Event) {current later : Option ProjectedRelationship} {event : Event}
    (hdate : ∀ after ∈ later, BreaksKey event key → after.establishedAt ≤ event.timestamp)
    (h : BrokenOrGone current later) :
    BrokenOrGone (keyStep owner localTransport records key current event)
      (keyStep owner localTransport (invitationStep owner records answer) key later event) := by
  intro after hafter
  cases hfact : establishedOf event with
  | some fact =>
    rcases @keyStep_established owner localTransport (invitationStep owner records answer) key
      event fact hfact later with heq | ⟨taken, htaken, hkey, -, -⟩
    · -- the later records leave the key alone, the earlier ones may renew it
      rw [heq] at hafter
      rcases @keyStep_established owner localTransport records key event fact hfact current with
        hsame | ⟨taken, -, -, hopen, hnew⟩
      · rw [hsame]
        exact h after hafter
      · exact ⟨taken, hnew, fun hover => absurd hover hopen⟩
    · -- what the later records take the earlier ones take, and it is active
      have hearlier := @taken_of_taken_later owner localTransport answer records hnodup fact
        event.timestamp taken htaken
      have hsamekey : (establishedRelationship owner localTransport (invitationOf records fact)
          fact event.timestamp).key = key := by
        obtain ⟨rfl, -⟩ := takenRelationship_eq_some.mp htaken
        exact hkey
      refine ⟨_, keyStep_of_taken hfact hearlier hsamekey current, fun hover => ?_⟩
      have hactive := (orientEstablished_fields fact owner event.timestamp).2.1
      exact absurd (hover.1.symm.trans hactive) (by simp)
  | none =>
    rcases @keyStep_of_not_established owner localTransport key event hfact with
      ⟨broken, hbroken, hkey, heq⟩ | ⟨-, heq⟩
    · rw [heq] at hafter
      obtain ⟨last, hlast, rfl⟩ := Option.map_eq_some_iff.mp hafter
      obtain ⟨before, hbefore, hover⟩ := h last hlast
      rw [heq]
      refine ⟨_, Option.map_eq_some_iff.mpr ⟨before, hbefore, rfl⟩, fun hbroken' => ?_⟩
      rcases local_of_broken owner localTransport broken event hbroken' with hbefore' | hlocal
      · exact breakRelationshipWith_of_broken owner localTransport broken event (hover hbefore')
      · -- the local break meets a relationship that is dated before it
        have hlate := hdate last hlast ⟨broken, hbroken, hkey⟩
        rcases breakRelationshipWith_cases owner localTransport broken event last with
          ⟨hearly | ⟨hforeign, -⟩, -⟩ | ⟨-, -, hended⟩ | ⟨-, hforeign, -⟩
        · exact absurd hlate (UInt64.not_le.mpr hearly)
        · exact absurd hlocal hforeign
        · rw [hended]
          exact ⟨rfl, rfl⟩
        · exact absurd hlocal hforeign
    · rw [heq] at hafter ⊢
      exact h after hafter

/-- **Later records bring no broken relationship back**, as long as the breaks of the key are
    dated behind the establishments they meet. -/
theorem broken_under_later_records (hnodup : (records.map InvitationRecord.invitationId).Nodup)
    (answer : Event) {events : List Event} (hdated : BreaksDatedBehind owner events key) :
    BrokenOrGone (replay (keyStep owner localTransport records key) none events)
      (replay (keyStep owner localTransport (invitationStep owner records answer) key) none
        events) := by
  induction events using List.reverseRecOn with
  | nil => simp [BrokenOrGone]
  | append_singleton events event ih =>
    obtain ⟨hfront, -, hlast⟩ := List.pairwise_append.mp hdated
    rw [replay_snoc, replay_snoc]
    apply brokenOrGone_step hnodup answer _ (ih hfront)
    intro after hafter hbreaks
    obtain ⟨earlier, hearlier, hestablishes, hdate⟩ := establishedAt_of_replay hafter
    rw [hdate]
    exact hlast earlier hearlier event (by simp) hestablishes hbreaks

end Later

/-! ### The law -/

section Law

variable {ledger : Ledger} {localTransport : Option PubKey} {event : Event}
  {broken : RelationshipBrokenPayload}

/-- A break acts on the relationship it names and on no other. -/
theorem relationshipAt_break (hbreak : breakOf event = some broken) (key : PairKey) :
    relationshipAt (ledger.extend [event]) localTransport key =
      if broken.key = key then (relationshipAt ledger localTransport key).map
        (breakRelationshipWith ledger.owner localTransport broken event)
      else relationshipAt ledger localTransport key := by
  have hkind : event.kind = .relationshipBroken := by
    unfold breakOf at hbreak
    cases hkind : event.kind <;> simp_all
  have hother : event.isInvitation = false := by
    unfold Event.isInvitation
    rw [hkind]
  have hfact : establishedOf event = none := by
    unfold establishedOf
    rw [hkind]
  rw [relationshipAt_extend hother, keyStep, hfact, hbreak]

/-- The three things a break can come to in the view. -/
theorem status_after_break (hbreak : breakOf event = some broken) {item : RelationshipCurrentItemV1}
    (hitem : relationshipItem ledger localTransport broken.key = some item) :
    ((event.timestamp < item.establishedAt ∨ ¬ LocalSigner ledger.owner localTransport event ∧
        ¬ PeerSigner broken event item.peerPubkey item.peerRootPubkey) ∧
      relationshipStatus (ledger.extend [event]) localTransport broken.key = some item.status) ∨
    (item.establishedAt ≤ event.timestamp ∧ LocalSigner ledger.owner localTransport event ∧
      relationshipStatus (ledger.extend [event]) localTransport broken.key = some "broken") ∨
    (item.establishedAt ≤ event.timestamp ∧ ¬ LocalSigner ledger.owner localTransport event ∧
      PeerSigner broken event item.peerPubkey item.peerRootPubkey ∧
      (item.status = "active" ∧ relationshipStatus (ledger.extend [event]) localTransport broken.key
          = some "pending_remote_break" ∨
        item.status ≠ "active" ∧ relationshipStatus (ledger.extend [event]) localTransport
          broken.key = some item.status)) := by
  rw [relationshipItem_eq] at hitem
  obtain ⟨current, hcurrent, rfl⟩ := Option.map_eq_some_iff.mp hitem
  have hstatus : relationshipStatus (ledger.extend [event]) localTransport broken.key
      = some (breakRelationshipWith ledger.owner localTransport broken event current).statusText := by
    rw [relationshipStatus_eq, relationshipAt_break hbreak, if_pos rfl, hcurrent]
    rfl
  rw [hstatus]
  rcases breakRelationshipWith_cases ledger.owner localTransport broken event current with
    ⟨hwhen, heq⟩ | ⟨hdate, hlocal, heq⟩ | ⟨hdate, hforeign, hpeer, hwaits⟩
  · rw [heq]
    exact Or.inl ⟨hwhen, rfl⟩
  · rw [heq]
    exact Or.inr (Or.inl ⟨hdate, hlocal, rfl⟩)
  · refine Or.inr (Or.inr ⟨hdate, hforeign, hpeer, ?_⟩)
    show current.statusText = "active" ∧ _ ∨ current.statusText ≠ "active" ∧ _ = some
      current.statusText
    rcases hwaits with ⟨hover, heq⟩ | ⟨hopen, heq⟩
    · rw [heq, ProjectedRelationship.statusText_broken.mpr hover]
      exact Or.inr ⟨by simp, rfl⟩
    · rw [heq]
      by_cases hactive : current.statusText = "active"
      · exact Or.inl ⟨hactive, rfl⟩
      · -- neither broken nor active: the peer has broken it already
        refine Or.inr ⟨hactive, ?_⟩
        have hpending : current.hasPendingRemoteBreak = true := by
          rw [ProjectedRelationship.statusText_active] at hactive
          unfold ProjectedRelationship.IsBroken at hopen
          cases hflag : current.hasPendingRemoteBreak <;> simp_all
        simp [ProjectedRelationship.statusText, hpending]

end Law

/-- **What a break does to a status, and what takes a broken relationship back.**  A break
    counts when it is not dated before the relationship and is signed for the owner or by the
    peer; a local one ends it, one of the peer waits for the owner, and other relationships
    are not touched.  Only an establishment of the key brings back what is broken, or else an
    invitation event where a break of the key is dated before an establishment in front of it. -/
theorem relationship_break_law (ledger : Ledger) (localTransport : Option PubKey) (event : Event) :
    (∀ broken, breakOf event = some broken →
      (∀ item, relationshipItem ledger localTransport broken.key = some item →
        (relationshipStatus (ledger.extend [event]) localTransport broken.key ≠ some item.status →
          item.establishedAt ≤ event.timestamp ∧
            (LocalSigner ledger.owner localTransport event ∨
              PeerSigner broken event item.peerPubkey item.peerRootPubkey)) ∧
        (item.establishedAt ≤ event.timestamp → LocalSigner ledger.owner localTransport event →
          relationshipStatus (ledger.extend [event]) localTransport broken.key = some "broken") ∧
        (¬ LocalSigner ledger.owner localTransport event →
          PeerSigner broken event item.peerPubkey item.peerRootPubkey →
          (item.status = "active" → item.establishedAt ≤ event.timestamp →
            relationshipStatus (ledger.extend [event]) localTransport broken.key
              = some "pending_remote_break") ∧
          (item.status ≠ "active" →
            relationshipStatus (ledger.extend [event]) localTransport broken.key
              = some item.status))) ∧
      ∀ key, key ≠ broken.key → relationshipStatus (ledger.extend [event]) localTransport key
        = relationshipStatus ledger localTransport key) ∧
    ∀ key status, relationshipStatus ledger localTransport key = some "broken" →
      relationshipStatus (ledger.extend [event]) localTransport key = some status →
      status ≠ "broken" →
      EstablishesKey ledger.owner event key ∨
        (event.isInvitation = true ∧ ¬ BreaksDatedBehind ledger.owner ledger.events key) := by
  refine ⟨fun broken hbreak => ⟨fun item hitem => ?_, fun key hkey => ?_⟩, ?_⟩
  · rcases status_after_break hbreak hitem with
      ⟨hwhen, hsame⟩ | ⟨hdate, hlocal, hended⟩ | ⟨hdate, hforeign, hpeer, hwaits⟩
    · -- dated before the relationship, or signed by a foreign key
      refine ⟨fun hchanged => absurd hsame hchanged, fun hdate hlocal => ?_,
        fun hforeign hpeer => ⟨fun _ hdate => ?_, fun _ => hsame⟩⟩
      · rcases hwhen with hearly | ⟨hforeign, -⟩
        · exact absurd hdate (UInt64.not_le.mpr hearly)
        · exact absurd hlocal hforeign
      · rcases hwhen with hearly | ⟨-, hnopeer⟩
        · exact absurd hdate (UInt64.not_le.mpr hearly)
        · exact absurd hpeer hnopeer
    · exact ⟨fun _ => ⟨hdate, Or.inl hlocal⟩, fun _ _ => hended,
        fun hforeign => absurd hlocal hforeign⟩
    · refine ⟨fun _ => ⟨hdate, Or.inr hpeer⟩, fun _ hlocal => absurd hlocal hforeign,
        fun _ _ => ?_⟩
      rcases hwaits with ⟨hactive, hpending⟩ | ⟨hother, hsame⟩
      · exact ⟨fun _ _ => hpending, fun hother => absurd hactive hother⟩
      · exact ⟨fun hactive => absurd hactive hother, fun _ => hsame⟩
  · rw [relationshipStatus_eq, relationshipStatus_eq, relationshipAt_break hbreak,
      if_neg fun h => hkey h.symm]
  · intro key status hbroken hstatus hback
    rw [relationshipStatus_eq] at hbroken hstatus
    obtain ⟨before, hbefore, htext⟩ := Option.map_eq_some_iff.mp hbroken
    obtain ⟨after, hafter, rfl⟩ := Option.map_eq_some_iff.mp hstatus
    have hover : before.IsBroken := ProjectedRelationship.statusText_broken.mp htext
    have hopen : ¬ after.IsBroken := fun h => hback (ProjectedRelationship.statusText_broken.mpr h)
    by_cases hinvitation : event.isInvitation = true
    · -- the past is read again with one more invitation event
      refine Or.inr ⟨hinvitation, fun hdated => ?_⟩
      rw [relationshipAt_extend_invitation hinvitation] at hafter
      obtain ⟨current, hcurrent, hkept⟩ := broken_under_later_records
        (invitation_ids_nodup ledger.owner ledger.events) event hdated after hafter
      obtain rfl := Option.some.inj (hbefore.symm.trans hcurrent)
      exact hopen (hkept hover)
    · rw [relationshipAt_extend (by simpa using hinvitation), hbefore] at hafter
      cases hfact : establishedOf event with
      | some fact =>
        rcases keyStep_established hfact (some before) with heq | ⟨taken, htaken, hkey, -, -⟩
        · obtain rfl := Option.some.inj (hafter.symm.trans heq)
          exact absurd hover hopen
        · obtain ⟨rfl, -⟩ := takenRelationship_eq_some.mp htaken
          exact Or.inl ⟨fact, hfact, hkey⟩
      | none =>
        rcases keyStep_of_not_established hfact with ⟨broken, -, -, heq⟩ | ⟨-, heq⟩
        · rw [heq] at hafter
          obtain rfl := Option.some.inj hafter
          exact absurd (breakRelationshipWith_of_broken _ _ broken event hover) hopen
        · obtain rfl := Option.some.inj (hafter.symm.trans (heq _ _))
          exact absurd hover hopen

/-! ### A break dated before the establishment it meets -/

/-- The keys of the example. -/
def reopenedKey : PairKey := (⟨fill 32 2⟩, ⟨fill 32 4⟩)

/-- The offer of an invitation by the peer. -/
def reopenedOffer (invitationId : InvitationId) (timestamp : Timestamp) : Event :=
  .newV5 .invitationReceived
    (InvitationSentPayload.toBytes ⟨invitationId, ⟨fill 32 5⟩, ⟨fill 32 6⟩, some ⟨fill 32 3⟩⟩)
    timestamp ⟨fill 64 0⟩ ⟨fill 32 2⟩

/-- The establishment that follows an invitation. -/
def reopenedEstablished (invitationId : InvitationId) (timestamp : Timestamp) : Event :=
  .newV5 .relationshipEstablished
    (RelationshipEstablishedPayload.toBytes {
      peerPubkey := reopenedKey.1
      ownStarterId := reopenedKey.2
      peerStarterId := ⟨fill 32 5⟩
      kind := .juice
      invitationId := invitationId
      senderPubkey := ⟨fill 32 6⟩
      senderStarterType := .juice
      senderStarterId := ⟨fill 32 5⟩
      peerRootPubkey := some ⟨fill 32 3⟩
      senderRootPubkey := none })
    timestamp ⟨fill 64 0⟩ ⟨fill 32 1⟩

/-- The owner's break of the relationship. -/
def reopenedBreak (timestamp : Timestamp) : Event :=
  .newV5 .relationshipBroken
    (RelationshipBrokenPayload.toBytes ⟨reopenedKey.1, reopenedKey.2, some ⟨fill 32 3⟩⟩)
    timestamp ⟨fill 64 0⟩ ⟨fill 32 1⟩

/-- Two invitations of one peer; the second establishment is dated before the first, and the
    break between them. -/
def reopenedLedger : Ledger :=
  [reopenedOffer (fill 32 11) 1, reopenedOffer (fill 32 12) 2, reopenedEstablished (fill 32 11) 10,
    reopenedEstablished (fill 32 12) 5, reopenedBreak 7].foldl (Ledger.grownBy sampleDigest)
      (.freshV5 ⟨fill 32 1⟩)

/-- The peer withdraws the second invitation. -/
def reopenedExpiry : Event :=
  .newV5 .invitationExpired (InvitationExpiredPayload.toBytes ⟨fill 32 12⟩) 20 ⟨fill 64 0⟩
    ⟨fill 32 2⟩

/-- **A broken relationship comes back without an establishment.**  With the second invitation
    dead the first establishment stands, and the break is dated before it. -/
theorem broken_reopened_by_expiry :
    reopenedLedger.verifyV5Structure sampleDigest = .ok () ∧
      relationshipStatus reopenedLedger none reopenedKey = some "broken" ∧
      relationshipStatus (reopenedLedger.extend [reopenedExpiry]) none reopenedKey
        = some "active" ∧
      reopenedExpiry.kind ≠ .relationshipEstablished := by
  rw [relationshipStatus_eq, relationshipStatus_eq]
  decide +kernel

/-- The ledger with the first establishment. -/
def establishedLedger : Ledger :=
  (Ledger.freshV5 ⟨fill 32 1⟩).grownBy sampleDigest (reopenedEstablished (fill 32 11) 10)

/-- The owner's break of a relationship it has just established. -/
theorem relationship_break_law_local :
    relationshipStatus (establishedLedger.extend [reopenedBreak 11]) none reopenedKey
      = some "broken" := by
  have hdate : (relationshipAt establishedLedger none reopenedKey).map
      ProjectedRelationship.establishedAt = some 10 := by decide +kernel
  obtain ⟨current, hcurrent, hat⟩ := Option.map_eq_some_iff.mp hdate
  have hitem := relationshipItem_eq establishedLedger none reopenedKey
  rw [hcurrent] at hitem
  refine (((relationship_break_law _ none (reopenedBreak 11)).1
    ⟨reopenedKey.1, reopenedKey.2, some ⟨fill 32 3⟩⟩ (by decide +kernel)).1 _ hitem).2.1 ?_
      (Or.inl (by decide +kernel))
  show current.establishedAt ≤ 11
  rw [hat]
  decide

end Hivra
