import Hivra.Core.PairMentions

namespace Hivra

open ByteString Replay

/-!
# One pair at a time

What the view says about a peer identity does not depend on the events of other peers.  The
transport keys of an identity are those of its rows and records, and those under which a
relationship with it was recorded at any time.

* `transport_of_row` — an event that keeps off an identity gives it no row.
* `pair_not_isolated` — the keys and invitations in the view alone are not enough.
-/

/-! ### What belongs to an identity -/

section Belongs

variable (ledger : Ledger) (localTransport : Option PubKey) (peer : PubKey)

/-- The relationship that an establishment of the ledger records, living or not. -/
def RecordedAs (event : Event) (fact : EstablishedFact) (relationship : ProjectedRelationship) :
    Prop :=
  event ∈ ledger.events ∧ establishedOf event = some fact ∧
    relationship = establishedRelationship ledger.owner localTransport
      (invitationOf (invitationsWithStatus ledger) fact) fact event.timestamp

/-- The transport and root keys in the rows and in the records of an identity. -/
def shownKeys : List PubKey :=
  ((pairRows ledger localTransport peer).flatMap fun row =>
    row.peerPubkey :: row.peerRootPubkey.toList) ++
  (pairRecords ledger localTransport peer).flatMap fun record =>
    (invitationPeer record).1 :: (invitationPeer record).2.toList

/-- The invitations in the records of an identity, and the lineage of its relationships. -/
def shownInvitations : List InvitationId :=
  (pairRecords ledger localTransport peer).map InvitationRecord.invitationId ++
  ledger.events.filterMap fun event =>
    match establishedOf event with
    | none => none
    | some fact =>
      if (pairRows ledger localTransport peer).any fun row =>
          row.key == (orientEstablished fact ledger.owner event.timestamp).key then
        fact.invitationId
      else none

/-- The keys of an identity: itself, the transport keys in its rows and records, and those
    under which a relationship with it was ever recorded. -/
inductive PairKeys : PubKey → Prop
  | self : PairKeys peer
  | row {relationship : ProjectedRelationship} :
      relationship ∈ projectRelationships ledger localTransport →
      peerIdentityOf (projectRelationships ledger localTransport) relationship = peer →
      PairKeys relationship.peerPubkey
  | record {record : InvitationRecord} :
      record ∈ pairRecords ledger localTransport peer → PairKeys (invitationPeer record).1
  | recorded {event : Event} {fact : EstablishedFact} {relationship : ProjectedRelationship} :
      RecordedAs ledger localTransport event fact relationship →
      relationship.peerRootPubkey = some peer → PairKeys relationship.peerPubkey

/-- The invitations of an identity: those in its records, and those of the relationships that
    were ever recorded under one of its keys. -/
inductive PairInvitations : InvitationId → Prop
  | record {record : InvitationRecord} :
      record ∈ pairRecords ledger localTransport peer → PairInvitations record.invitationId
  | lineage {event : Event} {fact : EstablishedFact} {relationship : ProjectedRelationship}
      {id : InvitationId} :
      RecordedAs ledger localTransport event fact relationship →
      PairKeys ledger localTransport peer relationship.peerPubkey →
      fact.invitationId = some id → PairInvitations id

end Belongs

/-! ### The rows of some transport keys -/

section Rows

variable {owner : PubKey} {localTransport : Option PubKey} {records records' : List InvitationRecord}
  {q : PubKey → Bool} {fact : EstablishedFact} {timestamp : Timestamp}

/-- The transport key of what an establishment records. -/
theorem taken_peerPubkey {relationship : ProjectedRelationship}
    (h : takenRelationship owner localTransport records fact timestamp = some relationship) :
    relationship.peerPubkey = (orientEstablished fact owner timestamp).peerPubkey := by
  rw [(takenRelationship_eq_some.mp h).1]
  rfl

/-- An establishment under another transport key. -/
theorem filter_establishStep_of_not (projected : List ProjectedRelationship)
    (h : q (orientEstablished fact owner timestamp).peerPubkey = false) :
    (establishStep owner localTransport records projected fact timestamp).filter
        (fun current => q current.peerPubkey)
      = projected.filter fun current => q current.peerPubkey := by
  rw [establishStep_eq]
  cases htaken : takenRelationship owner localTransport records fact timestamp with
  | none => rfl
  | some relationship =>
    dsimp only
    rw [← taken_peerPubkey htaken] at h
    split_ifs
    · apply filter_updateFirst_of_not
      intro current hkey
      have hsame : current.peerPubkey = relationship.peerPubkey :=
        congrArg Prod.fst (beq_iff_eq.mp hkey)
      exact ⟨by rw [hsame, h], h⟩
    · simp [List.filter_append, h]

/-- An establishment under one of the transport keys is one among their rows. -/
theorem filter_establishStep (projected : List ProjectedRelationship)
    (h : q (orientEstablished fact owner timestamp).peerPubkey = true) :
    (establishStep owner localTransport records projected fact timestamp).filter
        (fun current => q current.peerPubkey)
      = establishStep owner localTransport records
          (projected.filter fun current => q current.peerPubkey) fact timestamp := by
  rw [establishStep_eq, establishStep_eq]
  cases htaken : takenRelationship owner localTransport records fact timestamp with
  | none => rfl
  | some relationship =>
    dsimp only
    rw [← taken_peerPubkey htaken] at h
    have hkey : ∀ current : ProjectedRelationship, (current.key == relationship.key) = true →
        q current.peerPubkey = true := by
      intro current hkey
      have hsame : current.peerPubkey = relationship.peerPubkey :=
        congrArg Prod.fst (beq_iff_eq.mp hkey)
      rw [hsame, h]
    have hany : (projected.filter fun current => q current.peerPubkey).any
        (fun current => current.key == relationship.key)
        = projected.any fun current => current.key == relationship.key := by
      rw [List.any_filter]
      congr 1
      ext current
      cases hq : q current.peerPubkey with
      | true => simp
      | false =>
        have hno : (current.key == relationship.key) = false := by
          rw [← Bool.not_eq_true]
          intro hsame
          exact absurd (hkey current hsame) (by simp [hq])
        simp [hno]
    rw [hany]
    split_ifs
    · exact filter_updateFirst fun current hsame => ⟨hkey current hsame, h⟩
    · simp [List.filter_append, h]

/-- A break among the rows of some transport keys. -/
theorem filter_break (projected : List ProjectedRelationship) (broken : RelationshipBrokenPayload)
    (event : Event) :
    (updateFirst (fun current => current.key == broken.key)
        (breakRelationshipWith owner localTransport broken event) projected).filter
        (fun current => q current.peerPubkey)
      = if q broken.peerPubkey then
          updateFirst (fun current => current.key == broken.key)
            (breakRelationshipWith owner localTransport broken event)
            (projected.filter fun current => q current.peerPubkey)
        else projected.filter fun current => q current.peerPubkey := by
  have hkey : ∀ current : ProjectedRelationship, (current.key == broken.key) = true →
      q current.peerPubkey = q broken.peerPubkey ∧
        q (breakRelationshipWith owner localTransport broken event current).peerPubkey
          = q broken.peerPubkey := by
    intro current hsame
    have hpeer : current.peerPubkey = broken.peerPubkey := congrArg Prod.fst (beq_iff_eq.mp hsame)
    have hpeer' : (breakRelationshipWith owner localTransport broken event current).peerPubkey
        = current.peerPubkey :=
      congrArg Prod.fst (breakRelationshipWith_key owner localTransport broken event current)
    rw [hpeer', hpeer]
    exact ⟨rfl, rfl⟩
  split_ifs with hq
  · apply filter_updateFirst
    intro current hsame
    rw [(hkey current hsame).1, (hkey current hsame).2]
    exact ⟨hq, hq⟩
  · apply filter_updateFirst_of_not
    intro current hsame
    rw [(hkey current hsame).1, (hkey current hsame).2]
    exact ⟨by simpa using hq, by simpa using hq⟩

/-- **The rows of some transport keys come from the events about them.**  Records that say the
    same about the invitations of these establishments leave the rows alone. -/
theorem filter_projected (events : List Event)
    (h : ∀ event ∈ events, ∀ fact, establishedOf event = some fact →
      q (orientEstablished fact owner event.timestamp).peerPubkey = true →
      invitationOf records' fact = invitationOf records fact) :
    (replay (relationshipStep owner localTransport records') [] events).filter
        (fun current => q current.peerPubkey)
      = (replay (relationshipStep owner localTransport records) [] events).filter
          fun current => q current.peerPubkey := by
  refine replay_simulation (R := fun projected' projected : List ProjectedRelationship =>
    projected'.filter (fun current => q current.peerPubkey)
      = projected.filter fun current => q current.peerPubkey) rfl ?_
  intro projected' projected event hevent hsame
  rw [relationshipStep_eq, relationshipStep_eq]
  cases hfact : establishedOf event with
  | some fact =>
    dsimp only
    by_cases hq : q (orientEstablished fact owner event.timestamp).peerPubkey = true
    · -- here the records say the same
      rw [filter_establishStep _ hq, filter_establishStep _ hq, hsame]
      rw [establishStep_eq, establishStep_eq]
      have htaken : takenRelationship owner localTransport records' fact event.timestamp
          = takenRelationship owner localTransport records fact event.timestamp := by
        unfold takenRelationship
        rw [h event hevent fact hfact hq]
      rw [htaken]
    · rw [Bool.not_eq_true] at hq
      rw [filter_establishStep_of_not _ hq, filter_establishStep_of_not _ hq, hsame]
  | none =>
    cases hbreak : breakOf event with
    | none => exact hsame
    | some broken =>
      dsimp only
      rw [filter_break, filter_break, hsame]

end Rows

/-! ### Identities among the rows of some transport keys -/

section Identities

variable {projected : List ProjectedRelationship} {q : PubKey → Bool}

/-- The identities that relationships give to transport keys. -/
def tableOf (projected : List ProjectedRelationship) : List (PubKey × PubKey) :=
  projected.map fun current => (current.peerPubkey, peerIdentityOf projected current)

theorem transportTable_eq (ledger : Ledger) (localTransport : Option PubKey) :
    transportTable ledger localTransport = tableOf (projectRelationships ledger localTransport) :=
  List.map_map

theorem peerIdentityOf_filter {current : ProjectedRelationship} (h : q current.peerPubkey = true) :
    peerIdentityOf (projected.filter fun other => q other.peerPubkey) current
      = peerIdentityOf projected current := by
  unfold peerIdentityOf
  cases current.peerRootPubkey with
  | some root => rfl
  | none =>
    dsimp only
    congr 1
    apply findSome_filter
    intro other _ hout
    rw [if_neg]
    intro hsame
    rw [hsame, h] at hout
    cases hout

theorem tableOf_filter : tableOf (projected.filter fun other => q other.peerPubkey)
    = (tableOf projected).filter fun entry => q entry.1 := by
  unfold tableOf
  rw [List.filter_map]
  apply List.map_congr_left
  intro current hcurrent
  rw [peerIdentityOf_filter (List.mem_filter.mp hcurrent).2]

theorem identityOfTransport_filter {transport : PubKey} (h : q transport = true) :
    identityOfTransport (tableOf (projected.filter fun other => q other.peerPubkey)) transport
      = identityOfTransport (tableOf projected) transport := by
  rw [tableOf_filter]
  apply findSome_filter
  intro entry _ hout
  rw [if_neg]
  rintro rfl
  rw [h] at hout
  cases hout

theorem any_tableOf_filter {transport : PubKey} (h : q transport = true) (p : PubKey → Bool) :
    (tableOf (projected.filter fun other => q other.peerPubkey)).any
        (fun entry => entry.1 == transport && p entry.2)
      = (tableOf projected).any fun entry => entry.1 == transport && p entry.2 := by
  rw [tableOf_filter, List.any_filter]
  congr 1
  ext entry
  by_cases hsame : entry.1 = transport
  · simp [hsame, h]
  · simp [hsame]

/-- The identity that the table has for a transport key is that of a relationship under it. -/
theorem mem_of_identityOfTransport {transport identity : PubKey}
    (h : identityOfTransport (tableOf projected) transport = some identity) :
    ∃ current ∈ projected, current.peerPubkey = transport ∧
      peerIdentityOf projected current = identity := by
  obtain ⟨entry, hentry, hsome⟩ := List.exists_of_findSome?_eq_some h
  obtain ⟨current, hcurrent, rfl⟩ := List.mem_map.mp hentry
  dsimp only at hsome
  split_ifs at hsome with hsame
  exact ⟨current, hcurrent, hsame, Option.some.inj hsome⟩

/-- Where the transport keys of an identity are among the given ones, so are its rows. -/
theorem pairRows_eq {ledger : Ledger} {localTransport : Option PubKey} {peer : PubKey}
    (h : ∀ current ∈ projectRelationships ledger localTransport,
      peerIdentityOf (projectRelationships ledger localTransport) current = peer →
        q current.peerPubkey = true) :
    pairRows ledger localTransport peer =
      let shown := (projectRelationships ledger localTransport).filter fun other => q other.peerPubkey
      (shown.filter fun current => peerIdentityOf shown current == peer).map
        (relationshipCurrentItem shown) := by
  unfold pairRows relationshipCurrentViewV1
  dsimp only
  rw [List.filter_map, List.filter_filter]
  have hsame : (projectRelationships ledger localTransport).filter
        ((fun row => row.peerIdentity == peer) ∘
          relationshipCurrentItem (projectRelationships ledger localTransport))
      = (projectRelationships ledger localTransport).filter fun current =>
          peerIdentityOf ((projectRelationships ledger localTransport).filter fun other =>
            q other.peerPubkey) current == peer && q current.peerPubkey := by
    apply List.filter_congr
    intro current hcurrent
    show (peerIdentityOf _ current == peer) = _
    by_cases hq : q current.peerPubkey = true
    · rw [peerIdentityOf_filter hq, hq, Bool.and_true]
    · have hother : peerIdentityOf (projectRelationships ledger localTransport) current ≠ peer :=
        fun hpeer => hq (h current hcurrent hpeer)
      simp [hq, hother]
  rw [hsame]
  apply List.map_congr_left
  intro current hcurrent
  have hq : q current.peerPubkey = true := by
    have hboth := (List.mem_filter.mp hcurrent).2
    rw [Bool.and_eq_true] at hboth
    exact hboth.2
  unfold relationshipCurrentItem
  rw [peerIdentityOf_filter hq]

end Identities

/-! ### Where a row comes from -/

section Origin

variable {ledger : Ledger} {localTransport : Option PubKey}

/-- A relationship has its key and its root from an establishment. -/
theorem recorded_of_projected {relationship : ProjectedRelationship}
    (h : relationship ∈ projectRelationships ledger localTransport) :
    ∃ event fact recorded, RecordedAs ledger localTransport event fact recorded ∧
      recorded.key = relationship.key ∧
      recorded.peerRootPubkey = relationship.peerRootPubkey := by
  have hnodup : ((projectRelationships ledger localTransport).map ProjectedRelationship.key).Nodup :=
    ((List.mergeSort_perm _ _).map ProjectedRelationship.key).nodup_iff.mpr
      (relationship_keys_nodup ledger.events)
  have hat : relationshipAt ledger localTransport relationship.key = some relationship := by
    rw [← find_projectRelationships]
    exact (find_key_eq_some hnodup).mpr ⟨h, rfl⟩
  have hall : ∀ current ∈ relationshipAt ledger localTransport relationship.key,
      ∃ event fact recorded, RecordedAs ledger localTransport event fact recorded ∧
        recorded.key = current.key ∧ recorded.peerRootPubkey = current.peerRootPubkey := by
    unfold relationshipAt
    refine replay_invariant (P := fun current : Option ProjectedRelationship =>
      ∀ relationship ∈ current, ∃ event fact recorded,
        RecordedAs ledger localTransport event fact recorded ∧
        recorded.key = relationship.key ∧
        recorded.peerRootPubkey = relationship.peerRootPubkey) (by simp) ?_
    intro current event hevent hcurrent later hlater
    rcases @keyStep_cases ledger.owner localTransport (invitationsWithStatus ledger)
        relationship.key current event with
      heq | ⟨fact, taken, hfact, htaken, -, heq⟩ | ⟨broken, -, -, heq⟩
    · rw [heq] at hlater
      exact hcurrent later hlater
    · rw [heq] at hlater
      obtain rfl := Option.some.inj hlater
      exact ⟨event, fact, taken, ⟨hevent, hfact, (takenRelationship_eq_some.mp htaken).1⟩, rfl, rfl⟩
    · rw [heq] at hlater
      obtain ⟨before, hbefore, rfl⟩ := Option.map_eq_some_iff.mp hlater
      obtain ⟨origin, fact, recorded, hrecorded, hkey, hroot⟩ := hcurrent before hbefore
      obtain ⟨active, pending, hbroken⟩ :=
        breakRelationshipWith_eq ledger.owner localTransport broken event before
      refine ⟨origin, fact, recorded, hrecorded, ?_, ?_⟩
      · rw [hkey, breakRelationshipWith_key]
      · rw [hroot, hbroken]
  exact hall relationship hat

/-- The root of a recorded relationship is named by the establishment, or the invitation has it. -/
theorem root_of_recorded {event : Event} {fact : EstablishedFact} {recorded : ProjectedRelationship}
    (h : RecordedAs ledger localTransport event fact recorded) {root : PubKey}
    (hroot : recorded.peerRootPubkey = some root) :
    (orientEstablished fact ledger.owner event.timestamp).peerRootPubkey = some root ∨
    (orientEstablished fact ledger.owner event.timestamp).peerRootPubkey = none ∧
      ∃ id record, fact.invitationId = some id ∧
        (invitationsWithStatus ledger).find? (fun record => record.invitationId == id)
          = some record ∧ rootOfInvitation ledger.owner localTransport record = some root := by
  rw [h.2.2] at hroot
  unfold establishedRelationship at hroot
  dsimp only at hroot
  cases hnamed : (orientEstablished fact ledger.owner event.timestamp).peerRootPubkey with
  | some named =>
    rw [hnamed] at hroot
    exact Or.inl hroot
  | none =>
    rw [hnamed] at hroot
    obtain ⟨record, hrecord, hknown⟩ := Option.bind_eq_some_iff.mp hroot
    obtain ⟨id, hid, hfound⟩ := Option.bind_eq_some_iff.mp hrecord
    exact Or.inr ⟨rfl, id, record, hid, hfound, hknown⟩

end Origin

/-! ### One more event -/

section Isolation

variable {ledger : Ledger} {localTransport : Option PubKey} {peer : PubKey} {event : Event}

open Classical in
/-- The keys of an identity as a filter. -/
noncomputable def isPairKey (ledger : Ledger) (localTransport : Option PubKey) (peer key : PubKey) :
    Bool :=
  decide (PairKeys ledger localTransport peer key)

theorem isPairKey_iff {key : PubKey} :
    isPairKey ledger localTransport peer key = true ↔ PairKeys ledger localTransport peer key := by
  unfold isPairKey
  simp

theorem isPairKey_of_mentioned (h : KeepsOff event (PairKeys ledger localTransport peer)
      (PairInvitations ledger localTransport peer)) {key : PubKey} (hkey : key ∈ mentionedKeys event) :
    isPairKey ledger localTransport peer key = false := by
  rw [← Bool.not_eq_true, isPairKey_iff]
  exact h.keys key hkey

/-- **The rows under the keys of the identity stay**, and their order with them. -/
theorem shown_same (h : KeepsOff event (PairKeys ledger localTransport peer)
      (PairInvitations ledger localTransport peer)) :
    (projectRelationships (ledger.extend [event]) localTransport).filter
        (fun current => isPairKey ledger localTransport peer current.peerPubkey)
      = (projectRelationships ledger localTransport).filter fun current =>
          isPairKey ledger localTransport peer current.peerPubkey := by
  have htrans : ∀ a b c : ProjectedRelationship, decide (b.establishedAt ≤ a.establishedAt) = true →
      decide (c.establishedAt ≤ b.establishedAt) = true →
      decide (c.establishedAt ≤ a.establishedAt) = true := by
    intro a b c hab hbc
    rw [decide_eq_true_eq] at *
    exact UInt64.le_trans hbc hab
  have htotal : ∀ a b : ProjectedRelationship, (decide (b.establishedAt ≤ a.establishedAt) ||
      decide (a.establishedAt ≤ b.establishedAt)) = true := by
    intro a b
    rw [Bool.or_eq_true, decide_eq_true_eq, decide_eq_true_eq]
    exact UInt64.le_total _ _
  unfold projectRelationships
  rw [filter_mergeSort htrans htotal, filter_mergeSort htrans htotal, invitationsWithStatus_extend]
  congr 1
  show (replay (relationshipStep ledger.owner localTransport
    (invitationStep ledger.owner (invitationsWithStatus ledger) event)) []
      (ledger.events ++ [event])).filter _ = _
  have hpast : (replay (relationshipStep ledger.owner localTransport
        (invitationStep ledger.owner (invitationsWithStatus ledger) event)) [] ledger.events).filter
        (fun current => isPairKey ledger localTransport peer current.peerPubkey)
      = (replay (relationshipStep ledger.owner localTransport (invitationsWithStatus ledger)) []
          ledger.events).filter
          fun current => isPairKey ledger localTransport peer current.peerPubkey := by
    apply filter_projected
    intro earlier hearlier fact hfact hkey
    -- the lineage of these establishments is not mentioned
    unfold invitationOf
    cases hid : fact.invitationId with
    | none => rfl
    | some id =>
      apply find_record_other
      intro hmentioned
      exact h.invitations id hmentioned (.lineage ⟨hearlier, hfact, rfl⟩ (isPairKey_iff.mp hkey) hid)
  rw [replay_snoc, relationshipStep_eq]
  cases hfact : establishedOf event with
  | some fact =>
    have hkey := isPairKey_of_mentioned h
      (mentioned_of_established hfact ledger.owner event.timestamp).1
    rw [filter_establishStep_of_not _ hkey, hpast]
  | none =>
    cases hbreak : breakOf event with
    | none => exact hpast
    | some broken =>
      dsimp only
      rw [filter_break, isPairKey_of_mentioned h (mentioned_of_break hbreak)]
      exact hpast

variable {records : List InvitationRecord} {fact : EstablishedFact}

/-- An establishment is no step of the invitations. -/
theorem invitationStep_of_established {owner : PubKey} (h : establishedOf event = some fact) :
    invitationStep owner records event = records := by
  apply invitationStep_of_other
  unfold establishedOf at h
  unfold Event.isInvitation
  split at h
  case h_2 => cases h
  rename_i hkind
  rw [hkind]

/-- The root of a recorded relationship is known from the establishment or from the invitation. -/
theorem recorded_root {timestamp : Timestamp} {root : PubKey}
    (h : (orientEstablished fact ledger.owner timestamp).peerRootPubkey = some root ∨
      (orientEstablished fact ledger.owner timestamp).peerRootPubkey = none ∧
        ∃ id record, fact.invitationId = some id ∧
          records.find? (fun record => record.invitationId == id) = some record ∧
          rootOfInvitation ledger.owner localTransport record = some root) :
    (establishedRelationship ledger.owner localTransport (invitationOf records fact) fact
      timestamp).peerRootPubkey = some root := by
  unfold establishedRelationship
  dsimp only
  rcases h with hnamed | ⟨hunknown, id, record, hid, hfound, hknown⟩
  · rw [hnamed]
  · rw [hunknown]
    have hinvitation : invitationOf records fact = some record :=
      Option.bind_eq_some_iff.mpr ⟨id, hid, hfound⟩
    rw [hinvitation]
    exact hknown

variable {relationship : ProjectedRelationship}

/-- A relationship of the longer ledger with the root `peer` is recorded under a key of `peer`. -/
theorem pairKeys_of_rooted (h : KeepsOff event (PairKeys ledger localTransport peer)
      (PairInvitations ledger localTransport peer))
    (hmem : relationship ∈ projectRelationships (ledger.extend [event]) localTransport)
    (hroot : relationship.peerRootPubkey = some peer) :
    PairKeys ledger localTransport peer relationship.peerPubkey := by
  have hunnamed : peer ∉ mentionedKeys event := fun hkey => h.keys peer hkey .self
  obtain ⟨origin, fact, recorded, hrecorded, hkey, hsame⟩ := recorded_of_projected hmem
  have hpeer : recorded.peerPubkey = relationship.peerPubkey := congrArg Prod.fst hkey
  rw [← hpeer]
  have hsource := root_of_recorded hrecorded (hsame.trans hroot)
  obtain ⟨horigin, hfact, hestablished⟩ := hrecorded
  have htransport : recorded.peerPubkey
      = (orientEstablished fact ledger.owner origin.timestamp).peerPubkey := by
    rw [hestablished]
    rfl
  rw [htransport]
  rcases List.mem_append.mp (show origin ∈ ledger.events ++ [event] from horigin) with hold | hnew
  · -- an establishment of before: its root was known before
    have hbefore : (establishedRelationship ledger.owner localTransport
        (invitationOf (invitationsWithStatus ledger) fact) fact origin.timestamp).peerRootPubkey
          = some peer := by
      apply recorded_root
      rcases hsource with hnamed | ⟨hunknown, id, record, hid, hfound, hknown⟩
      · exact Or.inl hnamed
      · rw [invitationsWithStatus_extend] at hfound
        rcases root_of_step (invitation_ids_nodup ledger.owner ledger.events) hfound hknown with
          hmentioned | ⟨before, hfound, hknown⟩
        · exact absurd hmentioned hunnamed
        · exact Or.inr ⟨hunknown, id, before, hid, hfound, hknown⟩
    have hunder : PairKeys ledger localTransport peer (establishedRelationship ledger.owner
        localTransport (invitationOf (invitationsWithStatus ledger) fact) fact
        origin.timestamp).peerPubkey := .recorded ⟨hold, hfact, rfl⟩ hbefore
    exact hunder
  · -- the event itself would mention the root, or an invitation that has it
    exfalso
    rw [List.mem_singleton.mp hnew] at hfact hsource
    obtain ⟨-, hroots, hids⟩ := mentioned_of_established hfact ledger.owner event.timestamp
    rcases hsource with hnamed | ⟨-, id, record, hid, hfound, hknown⟩
    · exact hunnamed (hroots peer hnamed)
    · rw [invitationsWithStatus_extend, invitationStep_of_established hfact] at hfound
      have hid' : record.invitationId = id := by simpa using List.find?_some hfound
      have hidentity : record ∈ pairRecords ledger localTransport peer := by
        refine List.mem_filter.mpr ⟨List.mem_of_find?_eq_some hfound, ?_⟩
        unfold invitationIdentity
        rw [peer_of_rootOfInvitation hknown]
        exact beq_self_eq_true peer
      exact h.invitations id (hids id hid) (hid' ▸ .record hidentity)

/-- A relationship of the longer ledger with the identity `peer` is under a key of `peer`. -/
theorem transport_of_row (h : KeepsOff event (PairKeys ledger localTransport peer)
      (PairInvitations ledger localTransport peer))
    (hmem : relationship ∈ projectRelationships (ledger.extend [event]) localTransport)
    (hidentity : peerIdentityOf (projectRelationships (ledger.extend [event]) localTransport)
      relationship = peer) : PairKeys ledger localTransport peer relationship.peerPubkey := by
  unfold peerIdentityOf at hidentity
  cases hroot : relationship.peerRootPubkey with
  | some root =>
    rw [hroot] at hidentity
    exact pairKeys_of_rooted h hmem (hroot.trans (congrArg some hidentity))
  | none =>
    rw [hroot] at hidentity
    dsimp only at hidentity
    cases hother : (projectRelationships (ledger.extend [event]) localTransport).findSome?
        fun other => if other.peerPubkey = relationship.peerPubkey then other.peerRootPubkey
          else none with
    | none =>
      rw [hother] at hidentity
      have hself : relationship.peerPubkey = peer := hidentity
      rw [hself]
      exact .self
    | some root =>
      rw [hother] at hidentity
      obtain ⟨other, hmem', hsome⟩ := List.exists_of_findSome?_eq_some hother
      split_ifs at hsome with hsame
      rw [← hsame]
      exact pairKeys_of_rooted h hmem' (hsome.trans (congrArg some hidentity))

/-- **The rows of the identity stay.** -/
theorem pairRows_same (h : KeepsOff event (PairKeys ledger localTransport peer)
      (PairInvitations ledger localTransport peer)) :
    pairRows (ledger.extend [event]) localTransport peer = pairRows ledger localTransport peer := by
  rw [@pairRows_eq (isPairKey ledger localTransport peer) ledger localTransport peer
      fun current hcurrent hidentity => isPairKey_iff.mpr (hidentity ▸ .row hcurrent rfl),
    @pairRows_eq (isPairKey ledger localTransport peer) (ledger.extend [event]) localTransport peer
      fun current hcurrent hidentity => isPairKey_iff.mpr (transport_of_row h hcurrent hidentity),
    shown_same h]

variable {transport : PubKey}

/-- The table says the same of the keys of the identity. -/
theorem identityOfTransport_same (h : KeepsOff event (PairKeys ledger localTransport peer)
      (PairInvitations ledger localTransport peer))
    (hkey : PairKeys ledger localTransport peer transport) :
    identityOfTransport (transportTable (ledger.extend [event]) localTransport) transport
      = identityOfTransport (transportTable ledger localTransport) transport := by
  rw [transportTable_eq, transportTable_eq, ← identityOfTransport_filter (isPairKey_iff.mpr hkey),
    shown_same h, identityOfTransport_filter (isPairKey_iff.mpr hkey)]

theorem any_transportTable_same (h : KeepsOff event (PairKeys ledger localTransport peer)
      (PairInvitations ledger localTransport peer))
    (hkey : PairKeys ledger localTransport peer transport) (p : PubKey → Bool) :
    (transportTable (ledger.extend [event]) localTransport).any
        (fun entry => entry.1 == transport && p entry.2)
      = (transportTable ledger localTransport).any
          fun entry => entry.1 == transport && p entry.2 := by
  rw [transportTable_eq, transportTable_eq, ← any_tableOf_filter (isPairKey_iff.mpr hkey),
    shown_same h, any_tableOf_filter (isPairKey_iff.mpr hkey)]

/-- Of a transport key without a root, the identity `peer` means that it is one of its keys. -/
theorem pairKeys_of_identity (h : KeepsOff event (PairKeys ledger localTransport peer)
      (PairInvitations ledger localTransport peer))
    (hidentity : (identityOfTransport (transportTable (ledger.extend [event]) localTransport)
      transport).getD transport = peer) : PairKeys ledger localTransport peer transport := by
  rw [transportTable_eq] at hidentity
  cases hknown : identityOfTransport
      (tableOf (projectRelationships (ledger.extend [event]) localTransport)) transport with
  | none =>
    rw [hknown] at hidentity
    have hself : transport = peer := hidentity
    rw [hself]
    exact .self
  | some identity =>
    rw [hknown] at hidentity
    obtain ⟨current, hcurrent, rfl, hsame⟩ := mem_of_identityOfTransport hknown
    exact transport_of_row h hcurrent (hsame.trans hidentity)

/-- An invitation is one of the identity after the event iff it was before, and then the event
    left it alone. -/
theorem record_same (h : KeepsOff event (PairKeys ledger localTransport peer)
      (PairInvitations ledger localTransport peer)) {record : InvitationRecord}
    (hmem : record ∈ invitationsWithStatus ledger) :
    (invitationIdentity (transportTable (ledger.extend [event]) localTransport)
        (respond ledger.owner event record) = peer ↔
      invitationIdentity (transportTable ledger localTransport) record = peer) ∧
    (invitationIdentity (transportTable ledger localTransport) record = peer →
      respond ledger.owner event record = record) := by
  have hunnamed : peer ∉ mentionedKeys event := fun hkey => h.keys peer hkey .self
  obtain ⟨htransport, hkeeps, hgives⟩ := @invitationPeer_respond ledger.owner event record
  have hrecord : invitationIdentity (transportTable ledger localTransport) record = peer →
      record ∈ pairRecords ledger localTransport peer := by
    intro hidentity
    exact List.mem_filter.mpr ⟨hmem, beq_iff_eq.mpr hidentity⟩
  constructor
  · unfold invitationIdentity
    rw [htransport]
    cases hroot : (invitationPeer record).2 with
    | some root => rw [hkeeps root hroot]
    | none =>
      cases hroot' : (invitationPeer (respond ledger.owner event record)).2 with
      | some root =>
        -- a new root is mentioned, and an invitation of the identity gets no root
        dsimp only
        constructor
        · rintro rfl
          rcases hgives root hroot' with hknown | hmentioned
          · rw [hroot] at hknown
            cases hknown
          · exact absurd hmentioned hunnamed
        · intro hidentity
          have hbelongs := hrecord (by
            unfold invitationIdentity
            rw [hroot]
            exact hidentity)
          have hsame : respond ledger.owner event record = record :=
            respond_of_other fun hid => h.invitations _ hid (.record hbelongs)
          rw [hsame, hroot] at hroot'
          cases hroot'
      | none =>
        dsimp only
        constructor
        · intro hidentity
          rw [← identityOfTransport_same h (pairKeys_of_identity h hidentity)]
          exact hidentity
        · intro hidentity
          have hbelongs := hrecord (by
            unfold invitationIdentity
            rw [hroot]
            exact hidentity)
          rw [identityOfTransport_same h (.record hbelongs)]
          exact hidentity
  · intro hidentity
    exact respond_of_other fun hid => h.invitations _ hid (.record (hrecord hidentity))

/-- The invitation of a new offer is none of the identity. -/
theorem newRecord_other (h : KeepsOff event (PairKeys ledger localTransport peer)
      (PairInvitations ledger localTransport peer)) {payload : InvitationSentPayload}
    (hoffer : OfferOf event payload) :
    invitationIdentity (transportTable (ledger.extend [event]) localTransport)
      (offerRecord event payload) ≠ peer := by
  obtain ⟨-, hto, -, hcard⟩ := mentioned_of_offer hoffer
  have hmentioned : (invitationPeer (offerRecord event payload)).1 ∈ mentionedKeys event := by
    unfold invitationPeer
    split
    · show (invitationSenderTransport event.payload).getD event.signer ∈ mentionedKeys event
      cases htransport : invitationSenderTransport event.payload with
      | some transport => exact hcard transport htransport
      | none => exact List.mem_cons_self
    · exact hto
  intro hidentity
  unfold invitationIdentity at hidentity
  cases hroot : (invitationPeer (offerRecord event payload)).2 with
  | some root =>
    rw [hroot] at hidentity
    have hsame : root = peer := hidentity
    exact h.keys peer (hsame ▸ mentioned_of_offerRecord hoffer hroot) .self
  | none =>
    rw [hroot] at hidentity
    exact h.keys _ hmentioned (pairKeys_of_identity h hidentity)

/-- **The records of the identity stay.** -/
theorem pairRecords_same (h : KeepsOff event (PairKeys ledger localTransport peer)
      (PairInvitations ledger localTransport peer)) :
    pairRecords (ledger.extend [event]) localTransport peer
      = pairRecords ledger localTransport peer := by
  unfold pairRecords
  rw [invitationsWithStatus_extend]
  have hmap : ((invitationsWithStatus ledger).map (respond ledger.owner event)).filter
        (fun record => invitationIdentity (transportTable (ledger.extend [event]) localTransport)
          record == peer)
      = (invitationsWithStatus ledger).filter fun record =>
          invitationIdentity (transportTable ledger localTransport) record == peer := by
    rw [List.filter_map]
    have hsame : (invitationsWithStatus ledger).filter ((fun record =>
          invitationIdentity (transportTable (ledger.extend [event]) localTransport) record == peer) ∘
          respond ledger.owner event)
        = (invitationsWithStatus ledger).filter fun record =>
            invitationIdentity (transportTable ledger localTransport) record == peer := by
      apply List.filter_congr
      intro record hrecord
      rw [Function.comp_apply, Bool.eq_iff_iff, beq_iff_eq, beq_iff_eq]
      exact (record_same h hrecord).1
    rw [hsame]
    refine (List.map_congr_left ?_).trans (List.map_id _)
    intro record hrecord
    obtain ⟨hmem, hidentity⟩ := List.mem_filter.mp hrecord
    exact (record_same h hmem).2 (beq_iff_eq.mp hidentity)
  rcases invitationStep_eq_map ledger.owner (invitation_ids_nodup ledger.owner ledger.events)
    event with ⟨heq, -⟩ | ⟨payload, hoffer, -, heq⟩
  · rw [show invitationStep ledger.owner (invitationsWithStatus ledger) event = _ from heq]
    exact hmap
  · rw [show invitationStep ledger.owner (invitationsWithStatus ledger) event = _ from heq,
      List.filter_append]
    have hnew : [offerRecord event payload].filter (fun record =>
        invitationIdentity (transportTable (ledger.extend [event]) localTransport) record == peer)
          = [] := by
      simpa using newRecord_other h hoffer
    rw [hnew, List.append_nil]
    exact hmap

/-- **An event that keeps off an identity leaves its item alone.** -/
theorem pair_isolated (h : KeepsOff event (PairKeys ledger localTransport peer)
      (PairInvitations ledger localTransport peer)) :
    pairOf (ledger.extend [event]) localTransport peer = pairOf ledger localTransport peer := by
  rw [pairOf_eq, pairOf_eq, pairAccumulator_eq, pairAccumulator_eq, pairRows_same h,
    pairRecords_same h, Ledger.extend_owner]
  have hgather : ∀ records : List InvitationRecord,
      (∀ record ∈ records, record ∈ pairRecords ledger localTransport peer) →
      gatherPair (transportTable (ledger.extend [event]) localTransport)
          (pairRows ledger localTransport peer) records
        = gatherPair (transportTable ledger localTransport) (pairRows ledger localTransport peer)
            records := by
    intro records hrecords
    unfold gatherPair
    refine replay_simulation (R := Eq) rfl ?_
    rintro pair _ record hrecord rfl
    -- the table says the same of the transport key of the record
    have hany := any_transportTable_same h (.record (hrecords record hrecord)) fun identity =>
      identity != (invitationPeer record).1
    unfold PairAccumulator.addInvitation
    dsimp only
    rw [hany]
  split_ifs
  · rw [hgather [] (by simp)]
  · rw [hgather _ fun _ hrecord => hrecord]

end Isolation

/-! ### A stranger's offer -/

/-- Relationships that come in by date are in the order of the view. -/
theorem projectRelationships_of_sorted {ledger : Ledger} {localTransport : Option PubKey}
    (h : (replay (relationshipStep ledger.owner localTransport (invitationsWithStatus ledger)) []
      ledger.events).Pairwise fun left right => decide (right.establishedAt ≤ left.establishedAt)) :
    projectRelationships ledger localTransport
      = replay (relationshipStep ledger.owner localTransport (invitationsWithStatus ledger)) []
          ledger.events :=
  List.mergeSort_of_pairwise h

/-- The peer 11, whose relationships the examples are about. -/
def isolatedPeer : PubKey := ⟨fill 32 11⟩

/-- A relationship with a root, recorded by the owner. -/
def rootedRelationship (transport ownStarter root lineage : UInt8) (timestamp : Timestamp) : Event :=
  .new .relationshipEstablished
    (RelationshipEstablishedPayload.toBytes {
      peerPubkey := ⟨fill 32 transport⟩
      ownStarterId := ⟨fill 32 ownStarter⟩
      peerStarterId := ⟨fill 32 5⟩
      kind := .juice
      invitationId := fill 32 lineage
      senderPubkey := ⟨fill 32 6⟩
      senderStarterType := .juice
      senderStarterId := ⟨fill 32 5⟩
      peerRootPubkey := some ⟨fill 32 root⟩
      senderRootPubkey := none })
    timestamp ⟨fill 64 0⟩ ⟨fill 32 1⟩

/-- The offer of another peer, whose root is 16, and its withdrawal. -/
def otherOffer : Event :=
  .new .invitationReceived
    (InvitationSentPayload.toBytes ⟨fill 32 22, ⟨fill 32 5⟩, ⟨fill 32 6⟩, some ⟨fill 32 16⟩⟩) 1
    ⟨fill 64 0⟩ ⟨fill 32 16⟩

def otherExpiry : Event :=
  .new .invitationExpired (InvitationExpiredPayload.toBytes ⟨fill 32 22⟩) 40 ⟨fill 64 0⟩
    ⟨fill 32 16⟩

/-- One relationship with the peer. -/
def relatedLedger : Ledger := .ofEvents ⟨fill 32 1⟩ [rootedRelationship 12 13 11 20 30]

/-- Its keys are the peer and the transport key of the relationship. -/
private theorem relatedLedger_keys {key : PubKey}
    (h : PairKeys relatedLedger none isolatedPeer key) :
    key = isolatedPeer ∨ key = ⟨fill 32 12⟩ := by
  have hsorted := @projectRelationships_of_sorted relatedLedger none (by decide +kernel)
  cases h with
  | self => exact Or.inl rfl
  | row hmem _ =>
    rw [hsorted] at hmem
    have hall : ∀ current ∈ replay (relationshipStep relatedLedger.owner none
        (invitationsWithStatus relatedLedger)) [] relatedLedger.events,
        current.peerPubkey = ⟨fill 32 12⟩ := by decide +kernel
    exact Or.inr (hall _ hmem)
  | record hmem =>
    have hnone : invitationsWithStatus relatedLedger = [] := by decide +kernel
    have hrecord := (List.mem_filter.mp hmem).1
    rw [hnone] at hrecord
    cases hrecord
  | recorded hrecorded _ =>
    obtain ⟨hevent, hfact, rfl⟩ := hrecorded
    rw [List.mem_singleton.mp hevent] at hfact
    have htransport : (establishedOf (rootedRelationship 12 13 11 20 30)).map
        (fun fact => (orientEstablished fact relatedLedger.owner 30).peerPubkey)
          = some ⟨fill 32 12⟩ := by decide +kernel
    rw [hfact] at htransport
    rw [List.mem_singleton.mp hevent]
    exact Or.inr (Option.some.inj htransport)

/-- The offer of another peer leaves the item of the peer alone. -/
theorem pair_isolated_stranger :
    pairOf (relatedLedger.extend [otherOffer]) none isolatedPeer
      = pairOf relatedLedger none isolatedPeer := by
  apply pair_isolated
  constructor
  · intro key hkey hpair
    have hall : ((mentionedKeys otherOffer).all fun key =>
        decide (key ≠ isolatedPeer ∧ key ≠ ⟨fill 32 12⟩)) = true := by
      decide +kernel
    have hapart := fun key hkey => of_decide_eq_true (List.all_eq_true.mp hall key hkey)
    rcases relatedLedger_keys hpair with hself | htransport
    · exact (hapart key hkey).1 hself
    · exact (hapart key hkey).2 htransport
  · intro id hid hpair
    have hall : ((mentionedInvitations otherOffer).all fun id => decide (id ≠ fill 32 20)) = true := by
      decide +kernel
    have hapart := fun id hid => of_decide_eq_true (List.all_eq_true.mp hall id hid)
    cases hpair with
    | record hmem =>
      have hnone : invitationsWithStatus relatedLedger = [] := by decide +kernel
      have hrecord := (List.mem_filter.mp hmem).1
      rw [hnone] at hrecord
      cases hrecord
    | lineage hrecorded _ hlineage =>
      obtain ⟨hevent, hfact, -⟩ := hrecorded
      rw [List.mem_singleton.mp hevent] at hfact
      have hknown : (establishedOf (rootedRelationship 12 13 11 20 30)).bind
          EstablishedFact.invitationId = some (fill 32 20) := by decide +kernel
      rw [hfact] at hknown
      exact hapart id hid (Option.some.inj (hlineage.symm.trans hknown))

/-! ### What the view alone does not show -/

/-- Nothing that is shown of the identity is mentioned, and its item stays. -/
def ShownIsolated (ledger : Ledger) (localTransport : Option PubKey) (peer : PubKey)
    (event : Event) : Prop :=
  KeepsOff event (· ∈ shownKeys ledger localTransport peer)
      (· ∈ shownInvitations ledger localTransport peer) →
    pairOf (ledger.extend [event]) localTransport peer = pairOf ledger localTransport peer

theorem keepsOff_of_all {event : Event} {keys : List PubKey} {invitations : List InvitationId}
    (hkeys : ((mentionedKeys event).all fun key => decide (key ∉ keys)) = true)
    (hinvitations : ((mentionedInvitations event).all fun id => decide (id ∉ invitations)) = true) :
    KeepsOff event (· ∈ keys) (· ∈ invitations) where
  keys := fun key hkey => of_decide_eq_true (List.all_eq_true.mp hkeys key hkey)
  invitations := fun id hid => of_decide_eq_true (List.all_eq_true.mp hinvitations id hid)

/-- A relationship with the peer stands behind a later one of the other peer under its key. -/
def coveredLedger : Ledger :=
  .ofEvents ⟨fill 32 1⟩ [otherOffer, rootedRelationship 12 13 11 20 30,
    rootedRelationship 14 15 11 21 10, rootedRelationship 14 15 16 22 20]

/-- Two peers under one transport key, and an invitation to this key that was turned down. -/
def sharedLedger : Ledger :=
  .ofEvents ⟨fill 32 1⟩ [otherOffer, rootedRelationship 14 15 16 22 20,
    rootedRelationship 14 17 11 24 10,
    .new .invitationSent
      (InvitationSentPayload.toBytes ⟨fill 32 23, ⟨fill 32 3⟩, ⟨fill 32 14⟩, none⟩) 21 ⟨fill 64 0⟩
      ⟨fill 32 1⟩,
    .new .invitationRejected (InvitationRejectedPayload.toBytes ⟨fill 32 23, .other⟩) 22
      ⟨fill 64 0⟩ ⟨fill 32 14⟩]

/-- **The end of another peer's invitation changes an item that shows nothing of it.**  A covered
    relationship comes back, or a shared transport key gets another identity. -/
theorem pair_not_isolated : ¬ ShownIsolated coveredLedger none isolatedPeer otherExpiry ∧
    ¬ ShownIsolated sharedLedger none isolatedPeer otherExpiry := by
  have hcovered := @projectRelationships_of_sorted coveredLedger none (by decide +kernel)
  have hcovered' := @projectRelationships_of_sorted (coveredLedger.extend [otherExpiry]) none
    (by decide +kernel)
  have hshared := @projectRelationships_of_sorted sharedLedger none (by decide +kernel)
  have hshared' := @projectRelationships_of_sorted (sharedLedger.extend [otherExpiry]) none
    (by decide +kernel)
  constructor
  · intro h
    have hsame := h (keepsOff_of_all (by
      unfold shownKeys pairRecords transportTable pairRows relationshipCurrentViewV1
      rw [hcovered]
      decide +kernel) (by
      unfold shownInvitations pairRecords transportTable pairRows relationshipCurrentViewV1
      rw [hcovered]
      decide +kernel))
    -- one relationship before, two after
    have hfacts := congrArg (Option.map fun item => item.activeRelationships.length) hsame
    rw [pairOf_facts, pairOf_facts, pairAccumulator_eq, pairAccumulator_eq] at hfacts
    unfold pairRecords transportTable pairRows relationshipCurrentViewV1 at hfacts
    rw [hcovered, hcovered'] at hfacts
    exact absurd hfacts (by decide +kernel)
  · intro h
    have hsame := h (keepsOff_of_all (by
      unfold shownKeys pairRecords transportTable pairRows relationshipCurrentViewV1
      rw [hshared]
      decide +kernel) (by
      unfold shownInvitations pairRecords transportTable pairRows relationshipCurrentViewV1
      rw [hshared]
      decide +kernel))
    -- no invitation before, one after
    have hcount := congrArg (Option.map PairViewItemV1.finalizedInvitationCount) hsame
    rw [pairOf_finalized, pairOf_finalized, pairAccumulator_eq, pairAccumulator_eq] at hcount
    unfold pairRecords transportTable pairRows relationshipCurrentViewV1 at hcount
    rw [hshared, hshared'] at hcount
    exact absurd hcount (by decide +kernel)

end Hivra
