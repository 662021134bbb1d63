import Hivra.Host.ConsensusPreview
import Hivra.Host.PeerIndex

namespace Hivra

open ByteString JsonDocument JsonText Replay Serde

/-!
# The previews of the pairs of the core

What the core writes of a pair is read as it is: no fact and no blocker of a pair view is left
out, and only a pair of one identity has no preview.

* `finalized_le`, `pairs_distinct`, `blocker_code` — what the items of a pair view are like.
-/

/-! ### The count of an item -/

theorem length_invitationStep (owner : PubKey) (records : List InvitationRecord) (event : Event) :
    (invitationStep owner records event).length ≤ records.length + 1 := by
  rcases invitationStep_cases owner records event with
    heq | ⟨payload, -, -, heq⟩ | ⟨id, terminal, front, record, back, -, hrecords, -, -, heq⟩
  · rw [heq]
    omega
  · rw [heq, List.length_append, List.length_singleton]
  · rw [heq, hrecords]
    simp

theorem length_invitationsWithStatus (ledger : Ledger) :
    (invitationsWithStatus ledger).length ≤ ledger.events.length := by
  unfold invitationsWithStatus projectInvitations
  induction ledger.events using List.reverseRecOn with
  | nil => exact Nat.le_refl _
  | append_singleton events event ih =>
    have hstep := length_invitationStep ledger.owner
      (replay (invitationStep ledger.owner) [] events) event
    rw [replay_snoc, List.length_append, List.length_singleton]
    omega

theorem addInvitation_count (table : List (PubKey × PubKey)) (record : InvitationRecord)
    (pair : PairAccumulator) :
    (pair.addInvitation table record).finalizedInvitationCount ≤
      pair.finalizedInvitationCount + 1 := by
  unfold PairAccumulator.addInvitation
  dsimp only
  split_ifs
  · exact Nat.le_succ _
  · exact Nat.le_refl _

theorem addRelationship_count (row : RelationshipCurrentItemV1) (pair : PairAccumulator) :
    (pair.addRelationship row).finalizedInvitationCount = pair.finalizedInvitationCount := by
  unfold PairAccumulator.addRelationship
  dsimp only
  split_ifs <;> rfl

variable {pair : PairAccumulator}

/-- The invitations of an item are some of the ledger. -/
theorem gatherPair_count {table : List (PubKey × PubKey)} {rows : List RelationshipCurrentItemV1}
    {records : List InvitationRecord} (h : gatherPair table rows records = some pair) :
    pair.finalizedInvitationCount ≤ records.length := by
  have hrows : ∀ pair ∈ replay (fun pair row => some (PairAccumulator.addRelationship row
      (pair.getD {}))) none rows, pair.finalizedInvitationCount = 0 := by
    refine replay_invariant (P := fun pair : Option PairAccumulator =>
      ∀ found ∈ pair, found.finalizedInvitationCount = 0) (fun _ h => nomatch h) ?_
    intro pair row _ hpair found hfound
    obtain rfl := Option.some.inj hfound
    rw [addRelationship_count]
    cases pair with
    | none => rfl
    | some pair => exact hpair pair rfl
  unfold gatherPair at h
  generalize replay (fun pair row => some (PairAccumulator.addRelationship row (pair.getD {})))
    none rows = start at h hrows
  induction records using List.reverseRecOn generalizing pair with
  | nil => exact (hrows pair h).le
  | append_singleton records record ih =>
    rw [replay_snoc] at h
    obtain rfl := Option.some.inj h
    rw [List.length_append, List.length_singleton]
    refine (addInvitation_count table record _).trans (Nat.succ_le_succ ?_)
    cases hbefore : replay (fun pair record => some (PairAccumulator.addInvitation table record
        (pair.getD {}))) start records with
    | none => exact Nat.zero_le _
    | some before => exact ih hbefore

variable {localTransport : Option PubKey}

theorem mem_pairs_iff {ledger : Ledger} {item : PairViewItemV1} :
    item ∈ (pairViewV1 ledger localTransport).pairs ↔
      ∃ peer pair, accumulated (pairAccumulators ledger localTransport) peer = some pair ∧
        item = pairItem ledger.owner localTransport peer pair := by
  unfold pairViewV1
  rw [List.mem_map]
  constructor
  · rintro ⟨⟨peer, pair⟩, hmem, rfl⟩
    refine ⟨peer, pair, ?_, rfl⟩
    rw [← mem_iff_accumulated (pairAccumulators_nodup ledger localTransport)]
    exact (List.mergeSort_perm _ _).mem_iff.mp hmem
  · rintro ⟨peer, pair, hfound, rfl⟩
    refine ⟨(peer, pair), (List.mergeSort_perm _ _).mem_iff.mpr ?_, rfl⟩
    rwa [mem_iff_accumulated (pairAccumulators_nodup ledger localTransport)]

theorem finalized_le {ledger : Ledger} {item : PairViewItemV1}
    (h : item ∈ (pairViewV1 ledger localTransport).pairs) :
    item.finalizedInvitationCount ≤ ledger.events.length := by
  obtain ⟨peer, pair, hpair, rfl⟩ := mem_pairs_iff.mp h
  rw [pairAccumulator_eq] at hpair
  have hcount := gatherPair_count hpair
  have hrecords : (pairRecords ledger localTransport peer).length ≤
      (invitationsWithStatus ledger).length := List.length_filter_le _ _
  have hall := length_invitationsWithStatus ledger
  show pair.finalizedInvitationCount ≤ _
  split_ifs at hcount
  · exact hcount.trans (Nat.zero_le _)
  · omega

/-- The pairs of a view have different peers. -/
theorem pairs_distinct (ledger : Ledger) (localTransport : Option PubKey) :
    ((pairViewV1 ledger localTransport).pairs.map PairViewItemV1.peerIdentity).Nodup := by
  have hkeys : (pairViewV1 ledger localTransport).pairs.map PairViewItemV1.peerIdentity =
      ((pairAccumulators ledger localTransport).mergeSort
        fun left right => bytesLe left.1.bytes right.1.bytes).map Prod.fst := by
    unfold pairViewV1
    rw [List.map_map]
    rfl
  rw [hkeys, ((List.mergeSort_perm _ _).map Prod.fst).nodup_iff]
  exact pairAccumulators_nodup ledger localTransport

/-- Each blocker of an item has a code. -/
theorem blocker_code {owner : PubKey} {peer : PubKey} {blocker : PairBlockerV1}
    (h : blocker ∈ (pairItem owner localTransport peer pair).blockers) : blocker.code ≠ "" := by
  unfold pairItem at h
  simp only [List.mem_append, List.mem_map] at h
  rcases h with (⟨subject, -, rfl⟩ | ⟨subject, -, rfl⟩) | h
  · simp
  · simp
  · split_ifs at h
    · rcases List.mem_append.mp h with h | h
      · obtain ⟨subject, -, rfl⟩ := List.mem_map.mp h
        simp
      · rw [List.mem_singleton.mp h]
        simp
    · exact nomatch h

namespace ConsensusProcessor

/-! ### What the host reads -/

section Read

variable {Double : Type} (dart : DartViews Double) (texts : ConsensusTexts)

theorem hexItems_written (out bytes : List UInt8) :
    hexItems dart out (bytes.map fun byte => .num (.inl (byte.toNat : ℤ))) =
      some (some (hexText (out ++ bytes))) := by
  induction bytes generalizing out with
  | nil =>
    rw [List.append_nil]
    rfl
  | cons byte rest ih =>
    rw [List.map_cons]
    rw [hexItems, numberToInt]
    dsimp only
    rw [byteOfInt_toNat]
    dsimp only
    rw [ih, List.append_assoc]
    rfl

theorem hex32_written {bytes : List UInt8} (h : bytes.length = 32) :
    hex32 dart (some (decoded dart (writeBytes bytes))) = some (some (hexText bytes)) := by
  rw [decoded, writeBytes, Json.map, decoded_items]
  show (if _ then _ else _) = _
  rw [List.length_map, if_neg (by simpa using h)]
  exact hexItems_written dart [] bytes

theorem readRows_written {α β : Type} {read : DartRow Double → Option (Option β)}
    {row : α → DartRow Double} {rows : List α} {model : α → Option β}
    (h : ∀ x ∈ rows, read (row x) = some (model x)) :
    readRows read (rows.map fun x => .obj (row x)) = some (rows.filterMap model) := by
  induction rows with
  | nil => rfl
  | cons x rest ih =>
    have hrest := ih fun y hy => h y (List.mem_cons_of_mem x hy)
    rw [List.map_cons, readRows, h x List.mem_cons_self]
    cases hx : model x with
    | none => simp [hx, hrest]
    | some found => simp [hx, hrest]

theorem readRows_all {α β : Type} {read : DartRow Double → Option (Option β)}
    {row : α → DartRow Double} {rows : List α} {model : α → β}
    (h : ∀ x ∈ rows, read (row x) = some (some (model x))) :
    readRows read (rows.map fun x => .obj (row x)) = some (rows.map model) := by
  rw [readRows_written h]
  exact congrArg some (congrFun List.filterMap_eq_map rows)

/-- A fact of the core as the host reads it. -/
def hostFact (fact : PairRelationshipV1) : PairFact where
  relationshipKind := fact.relationshipKind.toNat
  starterPair := sortedTexts dart
    [hexText fact.starterPair.1.toList, hexText fact.starterPair.2.toList]

/-- A blocker of the core as the host reads it. -/
def hostBlocker (blocker : PairBlockerV1) : ConsensusBlockingFact :=
  ⟨blocker.code, some (hexText blocker.subjectId.toList)⟩

/-- The facts of an item, in the order of the host. -/
def hostFacts (item : PairViewItemV1) : List PairFact :=
  dart.sort PairFact.le
    ((overwriteAll PairFact.key (item.activeRelationships.map (hostFact dart))).map Prod.snd)

theorem readFact_of {row : DartRow Double} {kind : ℕ} {first second : DartValue Double}
    {starterA starterB : String}
    (hkind : row.lookup "relationship_kind" = some (.num (.inl (kind : ℤ))))
    (hpair : row.lookup "starter_pair" = some (.arr [first, second]))
    (hfirst : hex32 dart (some first) = some (some starterA))
    (hsecond : hex32 dart (some second) = some (some starterB)) :
    readFact dart row = some (some ⟨kind, sortedTexts dart [starterA, starterB]⟩) := by
  have hnat : nonNegativeInt dart (some (.num (.inl (kind : ℤ)))) = some (some (kind : ℤ)) := by
    show some (if (kind : ℤ) < 0 then none else some _) = _
    rw [if_neg (by omega)]
  unfold readFact
  simp only [hkind, hpair, hnat, hfirst, hsecond]

theorem readFact_written (fact : PairRelationshipV1) :
    readFact dart (decodedRow dart (pairFactMembers fact)) = some (some (hostFact dart fact)) := by
  have hbound := fact.relationshipKind.toNat_lt
  apply readFact_of dart _ _ (hex32_written dart fact.starterPair.1.toList_length)
    (hex32_written dart fact.starterPair.2.toList_length)
  · rw [lookup_decodedRow]
    simp only [pairFactMembers, List.lookup, String.reduceBEq, Option.map_some]
    rw [writeU8, decoded_writeNat dart (by omega)]
  · rw [lookup_decodedRow]
    simp only [pairFactMembers, List.lookup, String.reduceBEq, Option.map_some]
    rfl

theorem readBlocker_written {blocker : PairBlockerV1} (h : blocker.code ≠ "") :
    readBlocker dart (decodedRow dart (pairBlockerMembers blocker)) =
      some (some (hostBlocker blocker)) := by
  have hcode : (decodedRow dart (pairBlockerMembers blocker)).lookup "code" =
      some (.str blocker.code) := by
    rw [lookup_decodedRow]
    simp only [pairBlockerMembers, List.lookup, String.reduceBEq, Option.map_some]
    rfl
  have hsubject : (decodedRow dart (pairBlockerMembers blocker)).lookup "subject_id" =
      some (decoded dart (writeBytes blocker.subjectId.toList)) := by
    rw [lookup_decodedRow]
    simp only [pairBlockerMembers, List.lookup, String.reduceBEq, Option.map_some]
  unfold readBlocker
  rw [hcode, hsubject, hex32_written dart blocker.subjectId.toList_length]
  show (if blocker.code = "" then _ else _) = _
  rw [if_neg h]
  rfl

/-! ### The text of a snapshot -/

def listText (items : List Text) : Text := 91 :: commaJoin items ++ [93]

def memberText (name : String) (value : Text) : Text := quote (text name) ++ 58 :: value

def factText (fact : PairFact) : Text :=
  123 :: commaJoin [memberText "relationship_kind" (decimal fact.relationshipKind),
    memberText "starter_pair" (listText (fact.starterPair.map fun id => quote (text id)))] ++ [125]

def snapshotText (roots : List String) (facts : List PairFact) : Text :=
  123 :: commaJoin [memberText "schema_version" (decimal 3),
    memberText "pair_roots_sorted" (listText (roots.map fun root => quote (text root))),
    memberText "active_relationships" (listText (facts.map factText))] ++ [125]

theorem encodeItems_map {α : Type} {value : α → Value} {written : α → Text} {items : List α}
    (h : ∀ item ∈ items, encode (value item) = some (written item)) :
    encode.encodeItems (items.map value) = some (items.map written) := by
  induction items with
  | nil => rfl
  | cons item rest ih =>
    rw [List.map_cons, encode.encodeItems, h item List.mem_cons_self,
      ih fun other hother => h other (List.mem_cons_of_mem _ hother)]
    rfl

theorem encode_list {α : Type} {value : α → Value} {written : α → Text} {items : List α}
    (h : ∀ item ∈ items, encode (value item) = some (written item)) :
    encode (.arr (items.map value)) = some (listText (items.map written)) := by
  rw [encode, encodeItems_map h]
  rfl

theorem encode_ids (ids : List String) :
    encode (.arr (ids.map fun id => .str (text id))) =
      some (listText (ids.map fun id => quote (text id))) :=
  encode_list fun _ _ => rfl

theorem encode_fact (fact : PairFact) : encode (factValue fact) = some (factText fact) := by
  unfold factValue
  rw [encode, encode.encodeMembers, encode.encodeMembers, encode_ids]
  rfl

theorem encode_snapshot (roots : List String) (facts : List PairFact) :
    encode (snapshotValue roots facts) = some (snapshotText roots facts) := by
  unfold snapshotValue
  rw [encode, encode.encodeMembers, encode.encodeMembers, encode.encodeMembers, encode_ids,
    encode_list fun fact _ => encode_fact fact]
  rfl

theorem pubKey_of_hexText {key key' : PubKey}
    (h : hexText key.bytes.toList = hexText key'.bytes.toList) : key = key' := by
  have hbytes := List.Vector.toList_injective (hexText_inj h)
  cases key
  cases key'
  exact congrArg PubKey.mk hbytes

/-! ### The previews of a view -/

/-- The preview of an item. -/
def previewOf (item : PairViewItemV1) : ConsensusPreview :=
  let ownHex := hexText item.localIdentity.bytes.toList
  let peerHex := hexText item.peerIdentity.bytes.toList
  let roots := sortedTexts dart [ownHex, peerHex]
  { peerHex := peerHex
    peerLabel := texts.capsuleLabel ((hexBytes peerHex.toList).getD [])
    invitationCount := item.finalizedInvitationCount
    relationshipCount := (hostFacts dart item).length
    hashHex := texts.sha256Hex (snapshotText roots (hostFacts dart item))
    canonicalJson := texts.indented (snapshotValue roots (hostFacts dart item))
    blockingFacts := item.blockers.map hostBlocker }

variable {dart}

theorem readPair_of {row : DartRow Double} {ownHex peerHex : String} {facts : List PairFact}
    {blockers : List ConsensusBlockingFact} {count : ℕ}
    (hown : hex32 dart (row.lookup "local_identity") = some (some ownHex))
    (hpeer : hex32 dart (row.lookup "peer_identity") = some (some peerHex))
    (hfacts : relationshipsOf dart (row.lookup "active_relationships") = some facts)
    (hblockers : blockersOf dart (row.lookup "blockers") = some blockers)
    (hcount : row.lookup "finalized_invitation_count" = some (.num (.inl (count : ℤ)))) :
    readPair dart texts row = some (if ownHex = peerHex then none else some {
      peerHex := peerHex
      peerLabel := texts.capsuleLabel ((hexBytes peerHex.toList).getD [])
      invitationCount := count
      relationshipCount := facts.length
      hashHex := texts.sha256Hex (snapshotText (sortedTexts dart [ownHex, peerHex]) facts)
      canonicalJson := texts.indented (snapshotValue (sortedTexts dart [ownHex, peerHex]) facts)
      blockingFacts := blockers }) := by
  have hnat : nonNegativeInt dart (some (.num (.inl (count : ℤ)))) = some (some (count : ℤ)) := by
    show some (if (count : ℤ) < 0 then none else some _) = _
    rw [if_neg (by omega)]
  unfold readPair
  simp only [hown, hpeer, hfacts, hblockers, hcount, hnat, encode_snapshot, Option.map_some,
    Option.getD_some]
  split_ifs <;> rfl

theorem relationshipsOf_written (item : PairViewItemV1) :
    relationshipsOf dart (some (decoded dart (.arr (item.activeRelationships.map fun fact =>
      .obj (pairFactMembers fact))))) = some (hostFacts dart item) := by
  rw [decoded, Json.map, decoded_objects]
  show (readRows (readFact dart) _).map _ = _
  rw [readRows_all fun fact _ => readFact_written dart fact]
  rfl

theorem blockersOf_written {blockers : List PairBlockerV1}
    (h : ∀ blocker ∈ blockers, blocker.code ≠ "") :
    blockersOf dart (some (decoded dart (.arr (blockers.map fun blocker =>
      .obj (pairBlockerMembers blocker))))) = some (blockers.map hostBlocker) := by
  rw [decoded, Json.map, decoded_objects]
  exact readRows_all fun blocker hmem => readBlocker_written dart (h blocker hmem)

theorem readPair_written {item : PairViewItemV1} (hcount : item.finalizedInvitationCount < 2 ^ 63)
    (hcodes : ∀ blocker ∈ item.blockers, blocker.code ≠ "") :
    readPair dart texts (decodedRow dart (pairItemMembers item)) =
      some (if item.localIdentity = item.peerIdentity then none
        else some (previewOf dart texts item)) := by
  have hlookups : (decodedRow dart (pairItemMembers item)).lookup "local_identity" =
        some (decoded dart (writePubKey item.localIdentity)) ∧
      (decodedRow dart (pairItemMembers item)).lookup "peer_identity" =
        some (decoded dart (writePubKey item.peerIdentity)) ∧
      (decodedRow dart (pairItemMembers item)).lookup "active_relationships" =
        some (decoded dart (.arr (item.activeRelationships.map fun fact =>
          .obj (pairFactMembers fact)))) ∧
      (decodedRow dart (pairItemMembers item)).lookup "blockers" =
        some (decoded dart (.arr (item.blockers.map fun blocker =>
          .obj (pairBlockerMembers blocker)))) ∧
      (decodedRow dart (pairItemMembers item)).lookup "finalized_invitation_count" =
        some (.num (.inl (item.finalizedInvitationCount : ℤ))) := by
    refine ⟨?_, ?_, ?_, ?_, ?_⟩ <;> rw [lookup_decodedRow] <;>
      simp only [pairItemMembers, List.lookup, String.reduceBEq, Option.map_some]
    rw [decoded_writeNat dart hcount]
  obtain ⟨hown, hpeer, hfacts, hblockers, hnumber⟩ := hlookups
  have hread := readPair_of texts (hown ▸ hex32_written dart item.localIdentity.bytes.toList_length)
    (hpeer ▸ hex32_written dart item.peerIdentity.bytes.toList_length)
    (hfacts ▸ relationshipsOf_written item) (hblockers ▸ blockersOf_written hcodes) hnumber
  have hsame : hexText item.localIdentity.bytes.toList = hexText item.peerIdentity.bytes.toList ↔
      item.localIdentity = item.peerIdentity := ⟨pubKey_of_hexText, fun h => by rw [h]⟩
  rw [hread]
  simp only [hsame]
  rfl

theorem wellKeyed_pairItem (item : PairViewItemV1) :
    (Json.obj (pairItemMembers item)).WellKeyed := by
  refine ⟨by simp [pairItemMembers], (Json.wellKeyedMembers_iff _).mpr ?_⟩
  simp only [pairItemMembers, List.mem_cons, List.not_mem_nil, or_false, forall_eq_or_imp,
    forall_eq]
  refine ⟨wellKeyed_writeBytes _, wellKeyed_writeBytes _, trivial, Json.wellKeyed_arr ?_,
    Json.wellKeyed_arr ?_⟩
  · intro value hvalue
    obtain ⟨fact, -, rfl⟩ := List.mem_map.mp hvalue
    refine ⟨by simp [pairFactMembers], (Json.wellKeyedMembers_iff _).mpr ?_⟩
    simp only [pairFactMembers, List.mem_cons, List.not_mem_nil, or_false, forall_eq_or_imp,
      forall_eq]
    refine ⟨trivial, Json.wellKeyed_arr fun value hmem => ?_⟩
    rcases List.mem_pair.mp hmem with rfl | rfl
    · exact wellKeyed_writeBytes _
    · exact wellKeyed_writeBytes _
  · intro value hvalue
    obtain ⟨blocker, -, rfl⟩ := List.mem_map.mp hvalue
    refine ⟨by simp [pairBlockerMembers], (Json.wellKeyedMembers_iff _).mpr ?_⟩
    simp only [pairBlockerMembers, List.mem_cons, List.not_mem_nil, or_false, forall_eq_or_imp,
      forall_eq]
    exact ⟨trivial, wellKeyed_writeBytes _⟩

/-- The host reads the pairs of a view of the core. -/
theorem decodePairView_written (ledger : Ledger) (localTransport : Option PubKey) :
    decodePairView dart (some (jsonDecode dart.toDartRuntime
        (pairViewDocument (pairViewV1 ledger localTransport)))) =
      (pairViewV1 ledger localTransport).pairs.map fun item =>
        .obj (decodedRow dart (pairItemMembers item)) := by
  have hkeyed : (pairViewDocument (pairViewV1 ledger localTransport)).WellKeyed := by
    refine ⟨by simp, (Json.wellKeyedMembers_iff _).mpr ?_⟩
    simp only [List.mem_cons, List.not_mem_nil, or_false, forall_eq_or_imp, forall_eq]
    refine ⟨trivial, trivial, trivial, Json.wellKeyed_arr fun value hvalue => ?_⟩
    obtain ⟨item, -, rfl⟩ := List.mem_map.mp hvalue
    exact wellKeyed_pairItem item
  obtain ⟨root, hroot, hschema, hversion, hpairs⟩ := @decoded_view _ dart _ _ "hivra.pair_view"
    "pairs" (pairViewV1 ledger localTransport).pairs pairItemMembers hkeyed rfl rfl rfl
  rw [pairViewDocument, hroot]
  unfold decodePairView
  dsimp only
  rw [if_pos ⟨hschema, hversion⟩, hpairs]

variable (dart)

/-- The view of a ledger as the host gets it. -/
def viewOf (ledger : Ledger) (localTransport : Option PubKey) : DartValue Double :=
  jsonDecode dart.toDartRuntime (pairViewDocument (pairViewV1 ledger localTransport))

variable {dart}

/-- **The previews of a view**: one for each pair of two identities. -/
theorem preview_written {ledger : Ledger} (localTransport : Option PubKey)
    (hlength : ledger.events.length < 2 ^ 63) :
    preview dart texts (some (viewOf dart ledger localTransport)) =
      some (dart.sort (fun left right => decide (left.peerHex ≤ right.peerHex))
        ((pairViewV1 ledger localTransport).pairs.filterMap fun item =>
          if item.localIdentity = item.peerIdentity then none
          else some (previewOf dart texts item))) := by
  unfold preview viewOf
  rw [decodePairView_written, readRows_written (fun item hitem => ?_)]
  · rfl
  · refine readPair_written texts ((finalized_le hitem).trans_lt hlength) fun blocker hblocker => ?_
    obtain ⟨peer, pair, -, rfl⟩ := mem_pairs_iff.mp hitem
    exact blocker_code hblocker

variable {previews : List ConsensusPreview} {localTransport : Option PubKey}

theorem mem_preview {ledger : Ledger} (hlength : ledger.events.length < 2 ^ 63)
    (h : preview dart texts (some (viewOf dart ledger localTransport)) = some previews)
    {row : ConsensusPreview} :
    row ∈ previews ↔ ∃ item ∈ (pairViewV1 ledger localTransport).pairs,
      item.localIdentity ≠ item.peerIdentity ∧ row = previewOf dart texts item := by
  rw [preview_written texts localTransport hlength] at h
  obtain rfl := Option.some.inj h
  rw [(dart.sort_perm _ _).mem_iff, List.mem_filterMap]
  constructor
  · rintro ⟨item, hitem, hrow⟩
    split_ifs at hrow with hself
    exact ⟨item, hitem, hself, (Option.some.inj hrow).symm⟩
  · rintro ⟨item, hitem, hself, rfl⟩
    exact ⟨item, hitem, if_neg hself⟩

/-- **The preview of a peer is that of its pair.** -/
theorem find_preview {ledger : Ledger} (hlength : ledger.events.length < 2 ^ 63)
    (h : preview dart texts (some (viewOf dart ledger localTransport)) = some previews)
    {item : PairViewItemV1} (hitem : item ∈ (pairViewV1 ledger localTransport).pairs)
    (hself : item.localIdentity ≠ item.peerIdentity) :
    previews.find? (fun row => row.peerHex == hexText item.peerIdentity.bytes.toList) =
      some (previewOf dart texts item) := by
  have hmem := (mem_preview texts hlength h).mpr ⟨item, hitem, hself, rfl⟩
  cases hfind : previews.find? fun row => row.peerHex == hexText item.peerIdentity.bytes.toList with
  | none => exact absurd (beq_self_eq_true _) (List.find?_eq_none.mp hfind _ hmem)
  | some row =>
    obtain ⟨other, hother, -, rfl⟩ := (mem_preview texts hlength h).mp
      (List.mem_of_find?_eq_some hfind)
    have hkey := List.find?_some hfind
    have hsame : other.peerIdentity = item.peerIdentity := pubKey_of_hexText (eq_of_beq hkey)
    rw [List.inj_on_of_nodup_map (pairs_distinct ledger localTransport) hother hitem hsame]

end Read

end ConsensusProcessor

end Hivra
