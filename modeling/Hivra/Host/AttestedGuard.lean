import Hivra.Host.AttestationSync
import Hivra.Host.PairHashes
import Hivra.Host.ResponseRuns

namespace Hivra

open ByteString JsonDocument JsonText Replay Serde

namespace ConsensusAttestationSync

open AttestationStore ConsensusAttestationEvidence ConsensusProcessor

/-!
# When a pair is attested

Evidence in store is for a pair and a snapshot; it counts where the commitment of the two is the
one it names and its signature is that of its signer.  Both checks are met exactly where there is
such evidence of both roots for the pair as the core shows it.
-/

/-! ### Texts of digits -/

variable {length : ℕ}

theorem plane_of_isHex {value : String} (h : isHex length value = true) :
    dartLength value = length := by
  obtain ⟨hlength, hdigits⟩ := digits_of_isHex h
  rw [dartLength_of_plane fun c hc => by have := hdigits c hc; omega, hlength]

theorem normalizedHex_of_isHex (hpos : 0 < length) {value : String}
    (h : isHex length (trimmedLower value) = true) :
    normalizedHex value = some (trimmedLower value) := by
  unfold normalizedHex
  refine if_pos ⟨?_, (Bool.and_eq_true_iff.mp h).2⟩
  intro hempty
  have hlength := (digits_of_isHex h).1
  rw [hempty] at hlength
  exact absurd hlength hpos.ne

/-- A text that is normalized to so many units is one of so many digits. -/
theorem isHex_of_normalizedHex {value normalized : String}
    (h : normalizedHex value = some normalized) (hlength : dartLength normalized = length) :
    isHex length normalized = true ∧ normalized = trimmedLower value := by
  unfold normalizedHex at h
  dsimp only at h
  split_ifs at h with hdigits
  obtain rfl := Option.some.inj h
  have hplane : ∀ c ∈ (trimmedLower value).toList, c.toNat < 0x10000 := by
    intro c hc
    have hrange := digit_range (List.all_eq_true.mp hdigits.2 c hc)
    omega
  rw [dartLength_of_plane hplane] at hlength
  exact ⟨Bool.and_eq_true_iff.mpr ⟨beq_iff_eq.mpr hlength, hdigits.2⟩, rfl⟩

theorem isHex_hexText (key : PubKey) : isHex 64 (hexText key.bytes.toList) = true :=
  isHex64_hexText key.bytes.toList_length

/-! ### Commitments -/

/-- The text two roots sign for a snapshot. -/
def commitmentText (roots : List String) (snapshot : String) : Text :=
  123 :: commaJoin [
    ConsensusProcessor.memberText "domain" (quote (text "hivra.pair_consensus.attestation")),
    ConsensusProcessor.memberText "schema_version" (decimal 1),
    ConsensusProcessor.memberText "pair_roots_sorted"
      (listText (roots.map fun root => quote (text root))),
    ConsensusProcessor.memberText "snapshot_hash" (quote (text snapshot))] ++ [125]

theorem encode_commitment (roots : List String) (snapshot : String) :
    encode (commitmentValue roots snapshot) = some (commitmentText roots snapshot) := by
  unfold commitmentValue
  rw [encode, encode.encodeMembers, encode.encodeMembers, encode.encodeMembers,
    encode.encodeMembers, encode_ids]
  rfl

section Guard

variable {Double : Type} {host : SyncHost Double}

/-- The commitment of two roots for a snapshot. -/
def commitmentOf (host : SyncHost Double) (own peer snapshot : String) :
    ConsensusAttestationCommitment :=
  let roots := sortedTexts host.toDartViews [own, peer]
  ⟨roots, snapshot, commitmentText roots snapshot,
    host.texts.sha256Hex (commitmentText roots snapshot)⟩

theorem build_eq_some_iff {own peer snapshot : String} {commitment : ConsensusAttestationCommitment}
    (hown : isHex 64 own = true) (hsnapshot : isHex 64 snapshot = true) :
    buildAttestationCommitment host.toDartViews host.texts own peer snapshot = some commitment ↔
      isHex 64 (trimmedLower peer) = true ∧ own ≠ trimmedLower peer ∧
        commitment = commitmentOf host own (trimmedLower peer) snapshot := by
  have hread : ∀ {value : String}, isHex 64 value = true → normalizedHex value = some value := by
    intro value hvalue
    have htrim := trimmedLower_of_isHex hvalue
    rw [normalizedHex_of_isHex (by omega) (htrim.symm ▸ hvalue), htrim]
  unfold buildAttestationCommitment
  rw [hread hown, hread hsnapshot]
  constructor
  · intro h
    cases hpeer : normalizedHex peer with
    | none =>
      rw [hpeer] at h
      exact nomatch h
    | some normalized =>
      rw [hpeer] at h
      dsimp only at h
      split_ifs at h with hlengths
      simp only [not_or, not_not] at hlengths
      obtain ⟨-, hlength, -, hother⟩ := hlengths
      obtain ⟨hdigits, rfl⟩ := isHex_of_normalizedHex hpeer hlength
      rw [encode_commitment] at h
      exact ⟨hdigits, hother, (Option.some.inj h).symm⟩
  · rintro ⟨hpeer, hother, rfl⟩
    rw [normalizedHex_of_isHex (by omega) hpeer]
    dsimp only
    have hchecked : ¬ (dartLength own ≠ 64 ∨ dartLength (trimmedLower peer) ≠ 64 ∨
        dartLength snapshot ≠ 64 ∨ own = trimmedLower peer) := by
      simp [plane_of_isHex hown, plane_of_isHex hpeer, plane_of_isHex hsnapshot, hother]
    rw [if_neg hchecked, encode_commitment]
    rfl

/-! ### Evidence that counts -/

/-- Evidence of a signer for a pair and a snapshot: the commitment it names is theirs, and the
    signature is that of the signer. -/
structure Attests (host : SyncHost Double) (pair : List String) (snapshot signer : String)
    (evidence : ConsensusAttestationEvidence) : Prop where
  forPair : evidence.pairRootsSorted = pair
  forSnapshot : evidence.snapshotHashHex = snapshot
  signedBy : evidence.signerRootHex = signer
  recomputes : evidence.commitmentHashHex = host.texts.sha256Hex (commitmentText pair snapshot)
  verifies : verifyConsensusSignature host evidence.commitmentHashHex signer
    evidence.signatureHex = true

variable {world : World Double}

theorem verifyEvidence_iff {root : String} {evidence : ConsensusAttestationEvidence}
    (hroot : localRootHex world = some root) (hstored : Stored host.toAttestationHost evidence) :
    verifyEvidence host world evidence = true ↔
      (∃ other, root ≠ other ∧
        evidence.pairRootsSorted = sortedTexts host.toDartViews [root, other]) ∧
      Attests host evidence.pairRootsSorted evidence.snapshotHashHex evidence.signerRootHex
        evidence := by
  have hformed := hstored.wellFormed
  unfold wellFormed at hformed
  simp only [Bool.and_eq_true] at hformed
  have hsnapshot := hformed.1.1.1.1.1.2
  obtain ⟨first, second, hpair, hfirst, hsecond, -⟩ :=
    eq_of_sortedRoots hformed.1.1.1.1.1.1.2
  have hhex : ∀ other ∈ evidence.pairRootsSorted, isHex 64 other = true :=
    isHex_of_sortedRoots hformed.1.1.1.1.1.1.2
  have htake : evidence.pairRootsSorted.take 2 = evidence.pairRootsSorted := by
    rw [hpair]
    rfl
  unfold verifyEvidence
  rw [hroot]
  dsimp only
  constructor
  · intro h
    split_ifs at h with hmem
    split at h
    · next other hother =>
      have hotherMem : other ∈ evidence.pairRootsSorted ∧ other ≠ root := by
        have hin : other ∈ evidence.pairRootsSorted.filter fun other => other != root :=
          hother ▸ List.mem_singleton_self other
        simpa using hin
      have hrootMem : root ∈ evidence.pairRootsSorted := by simpa using hmem
      split at h
      · exact nomatch h
      · next commitment hbuild =>
        split_ifs at h with hsame
        obtain ⟨-, hne, rfl⟩ := (build_eq_some_iff (hhex root hrootMem) hsnapshot).mp hbuild
        rw [trimmedLower_of_isHex (hhex other hotherMem.1), htake] at hsame
        simp only [commitmentOf, not_or, not_not] at hsame
        obtain ⟨hhash, hroots⟩ := hsame
        rw [hroots] at hhash
        exact ⟨⟨other, hotherMem.2.symm, hroots.symm⟩,
          { forPair := rfl, forSnapshot := rfl, signedBy := rfl, recomputes := hhash.symm,
            verifies := h }⟩
    · exact nomatch h
  · rintro ⟨⟨other, hne, hsorted⟩, -, -, -, hcommitment, hsignature⟩
    have hcases := @sortedTexts_cases _ host.toDartViews root other
    rw [← hsorted] at hcases
    have hboth : root ∈ evidence.pairRootsSorted ∧ other ∈ evidence.pairRootsSorted ∧
        (evidence.pairRootsSorted.filter fun other => other != root) = [other] := by
      rcases hcases with hcase | hcase <;> rw [hcase] <;> simp [hne, hne.symm]
    obtain ⟨hrootMem, hotherMem, hfilter⟩ := hboth
    have htrim := trimmedLower_of_isHex (hhex other hotherMem)
    have hbuild := (@build_eq_some_iff _ host _ other _ _ (hhex root hrootMem) hsnapshot).mpr
      ⟨htrim.symm ▸ hhex other hotherMem, htrim.symm ▸ hne, rfl⟩
    rw [if_neg (by simpa using hrootMem), hfilter]
    dsimp only
    rw [hbuild]
    dsimp only
    rw [htrim, htake, if_neg]
    · exact hsignature
    · rw [not_or, not_not, not_not]
      simp only [commitmentOf]
      rw [← hsorted]
      exact ⟨hcommitment.symm, rfl⟩

variable {evidence : List ConsensusAttestationEvidence} {snapshot : String}

theorem matching_eq {roots : List String} (hlength : roots.length = 2)
    (hroots : ∀ root ∈ roots, isHex 64 root = true) (hsnapshot : isHex 64 snapshot = true) :
    matching evidence roots snapshot = evidence.filter fun item =>
      item.snapshotHashHex == snapshot && item.pairRootsSorted == roots := by
  have hsame : roots.map trimmedLower = roots :=
    (List.map_congr_left fun root hroot => trimmedLower_of_isHex (hroots root hroot)).trans
      (List.map_id' _)
  unfold matching
  rw [trimmedLower_of_isHex hsnapshot, hsame, if_neg (by simp [hlength, hsnapshot])]

/-- **The evidence that counts** is that in store for the commitment, of a signer whose signature
    verifies. -/
theorem mem_verified {before after : World Double}
    {files : String → AttestationStore.StoreFile Double} {peerRootHex own peer snapshot : String}
    {item : ConsensusAttestationEvidence} (hown : isHex 64 own = true)
    (hpeer : isHex 64 peer = true) (hsnapshot : isHex 64 snapshot = true) (hother : own ≠ peer)
    (hfound : commitmentFor host before peerRootHex =
      some (some (own, commitmentOf host own peer snapshot)))
    (hevidence : verifiedForPair host before files after peerRootHex = some evidence) :
    (item ∈ evidence → ∃ signer, Attests host (sortedTexts host.toDartViews [own, peer]) snapshot
        signer item ∧ item ∈ AttestationStore.load host.toAttestationHost (files own)) ∧
      (localRootHex after = some own →
        item ∈ AttestationStore.load host.toAttestationHost (files own) → ∀ signer,
        Attests host (sortedTexts host.toDartViews [own, peer]) snapshot signer item →
        item ∈ evidence) := by
  unfold verifiedForPair at hevidence
  rw [hfound] at hevidence
  obtain rfl := Option.some.inj hevidence
  have hcases := @sortedTexts_cases _ host.toDartViews own peer
  have hmem : item ∈ matching ((AttestationStore.load host.toAttestationHost (files own)).filter
        (verifyEvidence host after)) (commitmentOf host own peer snapshot).pairRootsSorted
        (commitmentOf host own peer snapshot).snapshotHashHex ↔
      (item ∈ AttestationStore.load host.toAttestationHost (files own) ∧
        verifyEvidence host after item = true) ∧ item.snapshotHashHex = snapshot ∧
        item.pairRootsSorted = sortedTexts host.toDartViews [own, peer] := by
    simp only [commitmentOf]
    rw [matching_eq _ _ hsnapshot, List.mem_filter, List.mem_filter, Bool.and_eq_true, beq_iff_eq,
      beq_iff_eq]
    · rcases hcases with hcase | hcase <;> rw [hcase] <;> rfl
    · rcases hcases with hcase | hcase <;> rw [hcase] <;> simp [hown, hpeer]
  have hstored : item ∈ AttestationStore.load host.toAttestationHost (files own) →
      Stored host.toAttestationHost item := by
    intro hload
    unfold AttestationStore.load at hload
    cases hsnap : AttestationStore.loadSnapshot host.toAttestationHost (files own) with
    | none =>
      rw [hsnap] at hload
      exact nomatch hload
    | some found =>
      rw [hsnap] at hload
      exact (AttestationStore.inOrder_of_loadSnapshot hsnap).stored item hload
  rw [hmem]
  constructor
  · rintro ⟨⟨hload, hverify⟩, hitemSnapshot, hitemPair⟩
    cases hroot : localRootHex after with
    | none =>
      unfold verifyEvidence at hverify
      rw [hroot] at hverify
      exact nomatch hverify
    | some root =>
      have hattests := ((verifyEvidence_iff hroot (hstored hload)).mp hverify).2
      rw [hitemPair, hitemSnapshot] at hattests
      exact ⟨_, hattests, hload⟩
  · intro hroot hload signer hattests
    refine ⟨⟨hload, (verifyEvidence_iff hroot (hstored hload)).mpr ⟨?_, ?_⟩⟩,
      hattests.forSnapshot, hattests.forPair⟩
    · exact ⟨peer, hother, hattests.forPair⟩
    · rw [hattests.forPair, hattests.forSnapshot, hattests.signedBy]
      exact hattests

/-! ### Both signers -/

/-- Evidence for one pair and one snapshot. -/
def Uniform (pair : List String) (snapshot : String)
    (evidence : List ConsensusAttestationEvidence) : Prop :=
  ∀ item ∈ evidence, item.pairRootsSorted = pair ∧ item.snapshotHashHex = snapshot

variable {pair : List String}

theorem not_signed_nil (hpair : pair.length = 2) :
    ¬ ∀ root ∈ pair, ∃ item ∈ ([] : List ConsensusAttestationEvidence),
      item.signerRootHex = root := by
  intro h
  cases pair with
  | nil => exact nomatch hpair
  | cons first rest =>
    obtain ⟨item, hitem, -⟩ := h first List.mem_cons_self
    exact nomatch hitem

theorem foldl_add (hpair : pair.length = 2) (h : Uniform pair snapshot evidence) (seen : Seen)
    (hroots : seen.pairRoots.getD pair = pair)
    (hhash : seen.snapshotHash.getD snapshot = snapshot) :
    (evidence.foldl Seen.add seen).signers =
        (evidence.map fun item => item.signerRootHex).reverse ++ seen.signers ∧
      (evidence.foldl Seen.add seen).pairRoots =
        if evidence = [] then seen.pairRoots else some pair := by
  induction evidence generalizing seen with
  | nil => exact ⟨rfl, rfl⟩
  | cons item rest ih =>
    obtain ⟨hitemPair, hitemSnapshot⟩ := h item List.mem_cons_self
    have hadd : seen.add item = ⟨item.signerRootHex :: seen.signers, some pair, some snapshot⟩ := by
      unfold Seen.add
      rw [hitemPair, hitemSnapshot, if_neg (by simp [hpair])]
      dsimp only
      rw [hroots, hhash, if_neg (by simp)]
    have hrest := ih (fun other hmem => h other (List.mem_cons_of_mem _ hmem))
      ⟨item.signerRootHex :: seen.signers, some pair, some snapshot⟩ rfl rfl
    rw [List.foldl_cons, hadd, hrest.1, hrest.2]
    refine ⟨by simp, ?_⟩
    rw [if_neg (List.cons_ne_nil _ _), ite_self]

/-- **The loop of the exchange asks for both signers.** -/
theorem hasTwoRootEvidence_iff (hpair : pair.length = 2) (h : Uniform pair snapshot evidence) :
    hasTwoRootEvidence evidence = true ↔
      ∀ root ∈ pair, ∃ item ∈ evidence, item.signerRootHex = root := by
  obtain ⟨hsigners, hroots⟩ := foldl_add hpair h ⟨[], none, none⟩ rfl rfl
  unfold hasTwoRootEvidence
  dsimp only
  rw [hsigners, hroots]
  cases evidence with
  | nil =>
    rw [if_pos rfl]
    exact ⟨fun h => (nomatch h), fun h => absurd h (not_signed_nil hpair)⟩
  | cons item rest =>
    rw [if_neg (List.cons_ne_nil _ _)]
    simp only [List.append_nil, List.all_eq_true, List.contains_iff_mem, List.mem_reverse,
      List.mem_map]

variable {peerRootHex : String} {files : String → AttestationStore.StoreFile Double}

/-- **The guard asks for both signers.** -/
theorem attestedSignable_iff {before after : World Double} {own : ConsensusSignableResult}
    (hown : signable host before peerRootHex = some own) (hsignable : own.isSignable = true)
    (hevidence : verifiedForPair host before files after peerRootHex = some evidence)
    (hpair : pair.length = 2) (h : Uniform pair snapshot evidence)
    (hhash : evidence ≠ [] → own.hashHex = some snapshot) :
    ∃ result, attestedSignable host before files after peerRootHex = some result ∧
      (result.isSignable = true ↔ ∀ root ∈ pair, ∃ item ∈ evidence, item.signerRootHex = root) := by
  have hblocked : ∀ code, (blocked own code).isSignable = false := by
    intro code
    simp [blocked, ConsensusSignableResult.isSignable]
  unfold attestedSignable
  rw [hown, Option.bind_some, hsignable, hevidence]
  simp only [Bool.not_true, Bool.false_eq_true, if_false, Option.map_some]
  cases evidence with
  | nil =>
    refine ⟨_, rfl, ?_⟩
    rw [hblocked]
    exact ⟨fun h => (nomatch h), fun h => absurd h (not_signed_nil hpair)⟩
  | cons item rest =>
    have hexact : (item.pairRootsSorted.length == 2 && (item :: rest).all fun other =>
        other.pairRootsSorted.length == 2 && other.pairRootsSorted == item.pairRootsSorted &&
          some other.snapshotHashHex == own.hashHex) = true := by
      have hfirst := (h item List.mem_cons_self).1
      rw [Bool.and_eq_true, List.all_eq_true]
      refine ⟨by simp [hfirst, hpair], fun other hother => ?_⟩
      obtain ⟨hotherPair, hotherSnapshot⟩ := h other hother
      simp [hotherPair, hotherSnapshot, hfirst, hpair, hhash (List.cons_ne_nil _ _)]
    dsimp only
    rw [hexact, Bool.true_and, (h item List.mem_cons_self).1]
    have hsigners : (pair.all ((item :: rest).map fun item => item.signerRootHex).contains) = true ↔
        ∀ root ∈ pair, ∃ other ∈ item :: rest, other.signerRootHex = root := by
      simp only [List.all_eq_true, List.contains_iff_mem, List.mem_map]
    rw [← hsigners]
    by_cases hall : (pair.all ((item :: rest).map fun item => item.signerRootHex).contains) = true
    · rw [if_pos hall]
      exact ⟨own, rfl, by rw [hsignable, hall]⟩
    · rw [if_neg hall]
      refine ⟨_, rfl, ?_⟩
      rw [hblocked]
      exact ⟨fun h => (nomatch h), fun h => absurd h hall⟩

/-! ### The pair as the core shows it -/

/-- The ledger whose pairs the core shows. -/
def shownLedger (host : SyncHost Double) (world : World Double) : Option Ledger :=
  match world.exportLedger with
  | none => none
  | some ledgerJson =>
    if world.localTransport.isNone && world.localRoot.isNone then none
    else (parseLedgerJson host.lossy ledgerJson).toOption

theorem runtimeInputs_eq (world : World Double) :
    runtimeInputs host world = (shownLedger host world).map fun ledger =>
      viewOf host.toDartViews ledger world.localTransport := by
  unfold runtimeInputs shownLedger hivraProjectPairViewV1
  cases world.exportLedger with
  | none => rfl
  | some ledgerJson =>
    dsimp only
    split_ifs
    · rfl
    · cases parseLedgerJson host.lossy ledgerJson <;> rfl

theorem shownLedger_short {ledger : Ledger} (h : shownLedger host world = some ledger) :
    ledger.events.length < 2 ^ 63 := by
  unfold shownLedger at h
  split at h
  · exact nomatch h
  · next ledgerJson hjson =>
    split_ifs at h
    cases hparse : parseLedgerJson host.lossy ledgerJson with
    | error message =>
      rw [hparse] at h
      exact nomatch h
    | ok found =>
      rw [hparse] at h
      obtain rfl := Option.some.inj h
      exact world.inMemory ledgerJson hjson _ _ hparse

/-- An item of the pair view for a peer, with nothing that blocks it. -/
structure Shown (host : SyncHost Double) (world : World Double) (peerRootHex : String)
    (item : PairViewItemV1) : Prop where
  inView : ∃ ledger, shownLedger host world = some ledger ∧
    item ∈ (pairViewV1 ledger world.localTransport).pairs
  distinct : item.localIdentity ≠ item.peerIdentity
  peer : hexText item.peerIdentity.bytes.toList = trimmedLower peerRootHex
  unblocked : item.blockers = []

/-- The digest of the snapshot of an item. -/
def snapshotHash (host : SyncHost Double) (item : PairViewItemV1) : String :=
  (previewOf host.toDartViews host.texts item).hashHex

theorem isHex_snapshotHash (item : PairViewItemV1) : isHex 64 (snapshotHash host item) = true :=
  host.sha256Hex_hex _

theorem signable_shown {item : PairViewItemV1} (h : Shown host world peerRootHex item) :
    signable host world peerRootHex =
      some ⟨some (previewOf host.toDartViews host.texts item), []⟩ := by
  obtain ⟨ledger, hledger, hitem⟩ := h.inView
  have hwritten := @signable_written _ host.toDartViews host.texts item _ _ (shownLedger_short hledger)
    hitem h.distinct
  have hpeer : normalizedHex peerRootHex =
      normalizedHex (hexText item.peerIdentity.bytes.toList) := by
    rw [normalizedHex_hexText, normalizedHex_of_isHex (by omega) (h.peer ▸ isHex_hexText _), h.peer]
  unfold signable
  rw [runtimeInputs_eq, hledger, Option.map_some]
  dsimp only
  unfold ConsensusProcessor.signable at hwritten ⊢
  rw [hpeer, hwritten, h.unblocked]
  rfl

/-- **The core answers for every peer**, and a digest it answers with is that of an item. -/
theorem signable_total (host : SyncHost Double) (world : World Double) (peerRootHex : String) :
    ∃ result, signable host world peerRootHex = some result ∧
      ∀ hash, result.hashHex = some hash → ∃ item, Shown host world peerRootHex item ∧
        snapshotHash host item = hash := by
  unfold signable
  rw [runtimeInputs_eq]
  cases hledger : shownLedger host world with
  | none => exact ⟨_, rfl, fun hash h => nomatch h⟩
  | some ledger =>
    rw [Option.map_some]
    dsimp only
    unfold ConsensusProcessor.signable
    cases hpeer : (normalizedHex peerRootHex).filter fun peer => dartLength peer == 64 with
    | none => exact ⟨_, rfl, fun hash h => nomatch h⟩
    | some peer =>
      obtain ⟨hnormal, hlength⟩ := Option.filter_eq_some_iff.mp hpeer
      obtain ⟨-, rfl⟩ := isHex_of_normalizedHex hnormal (beq_iff_eq.mp hlength)
      have hshort := shownLedger_short hledger
      cases hpreview : preview host.toDartViews host.texts
          (some (viewOf host.toDartViews ledger world.localTransport)) with
      | none =>
        rw [preview_written host.texts world.localTransport hshort] at hpreview
        exact nomatch hpreview
      | some previews =>
        dsimp only
        rw [Option.map_some]
        cases hfind : previews.find? fun row => row.peerHex == trimmedLower peerRootHex with
        | none => exact ⟨_, rfl, fun hash h => nomatch h⟩
        | some row =>
          refine ⟨_, rfl, fun hash hhash => ?_⟩
          obtain ⟨item, hitem, hdistinct, rfl⟩ := (mem_preview host.texts hshort hpreview).mp
            (List.mem_of_find?_eq_some hfind)
          unfold ConsensusSignableResult.hashHex at hhash
          split_ifs at hhash with hsignable
          have hblockers := (Bool.and_eq_true_iff.mp hsignable).2
          refine ⟨item, ⟨⟨ledger, hledger, hitem⟩, hdistinct, ?_, ?_⟩, Option.some.inj hhash⟩
          · have hfound := List.find?_some hfind
            exact beq_iff_eq.mp hfound
          · exact List.map_eq_nil_iff.mp (List.isEmpty_iff.mp hblockers)

/-- **The commitment of a pair is that of its item in the pair view.** -/
theorem commitmentFor_iff (host : SyncHost Double) (world : World Double) (peerRootHex : String) :
    ∃ found, commitmentFor host world peerRootHex = some found ∧
      ∀ own commitment, found = some (own, commitment) ↔ ∃ root item, world.localRoot = some root ∧
        Shown host world peerRootHex item ∧ root ≠ item.peerIdentity ∧
        own = hexText root.bytes.toList ∧ commitment = commitmentOf host own
          (hexText item.peerIdentity.bytes.toList) (snapshotHash host item) := by
  obtain ⟨result, hresult, hshown⟩ := signable_total host world peerRootHex
  unfold commitmentFor localRootHex
  rw [hresult]
  cases hroot : world.localRoot with
  | none =>
    refine ⟨none, rfl, fun own commitment => ⟨fun h => (nomatch h), ?_⟩⟩
    rintro ⟨root, item, h, -⟩
    exact nomatch h
  | some root =>
    refine ⟨_, rfl, fun own commitment => ?_⟩
    rw [Option.bind_eq_some_iff]
    constructor
    · rintro ⟨snapshot, hsnapshot, hbuild⟩
      obtain ⟨item, hitem, rfl⟩ := hshown snapshot hsnapshot
      obtain ⟨found, hfound, hpair⟩ := Option.map_eq_some_iff.mp hbuild
      obtain ⟨rfl, rfl⟩ := Prod.mk.inj hpair
      obtain ⟨-, hother, rfl⟩ := (build_eq_some_iff (isHex_hexText root)
        (isHex_snapshotHash item)).mp hfound
      rw [← hitem.peer] at hother ⊢
      exact ⟨root, item, rfl, hitem, fun h => hother (by rw [h]), rfl, rfl⟩
    · rintro ⟨found, item, hfound, hitem, hother, rfl, rfl⟩
      obtain rfl := Option.some.inj hfound
      rw [signable_shown hitem] at hresult
      obtain rfl := Option.some.inj hresult
      refine ⟨snapshotHash host item, rfl, Option.map_eq_some_iff.mpr ⟨_, ?_, rfl⟩⟩
      rw [hitem.peer]
      exact (build_eq_some_iff (isHex_hexText root) (isHex_snapshotHash item)).mpr
        ⟨hitem.peer ▸ isHex_hexText _,
          fun h => hother (pubKey_of_hexText (h.trans hitem.peer.symm)), rfl⟩

/-! ### Readiness -/

/-- The core shows the pair with a peer and nothing that blocks it, and there is evidence in store
    for it of the own root and of the peer. -/
def Ready (host : SyncHost Double) (world : World Double)
    (files : String → AttestationStore.StoreFile Double) (peerRootHex : String) : Prop :=
  ∃ root item, world.localRoot = some root ∧ Shown host world peerRootHex item ∧
    root ≠ item.peerIdentity ∧
    ∀ signer, signer = root ∨ signer = item.peerIdentity →
      ∃ evidence ∈ AttestationStore.load host.toAttestationHost
          (files (hexText root.bytes.toList)),
        Attests host (sortedTexts host.toDartViews [hexText root.bytes.toList,
          hexText item.peerIdentity.bytes.toList]) (snapshotHash host item)
          (hexText signer.bytes.toList) evidence

/-- **The evidence that counts** is for one pair, and of both its roots iff the pair is ready. -/
theorem verified_cases (host : SyncHost Double) (before after : World Double)
    (files : String → AttestationStore.StoreFile Double) (peerRootHex : String) :
    ∃ evidence pair snapshot, verifiedForPair host before files after peerRootHex = some evidence ∧
      pair.length = 2 ∧ Uniform pair snapshot evidence ∧
      (∀ result, signable host before peerRootHex = some result → evidence ≠ [] →
        result.hashHex = some snapshot) ∧
      ((∀ root ∈ pair, ∃ item ∈ evidence, item.signerRootHex = root) →
        Ready host before files peerRootHex) ∧
      (localRootHex after = localRootHex before → Ready host before files peerRootHex →
        ∀ root ∈ pair, ∃ item ∈ evidence, item.signerRootHex = root) := by
  obtain ⟨found, hfound, hcommitment⟩ := commitmentFor_iff host before peerRootHex
  cases found with
  | none =>
    refine ⟨[], ["", ""], "", ?_, rfl, fun _ h => (nomatch h), fun _ _ h => absurd rfl h,
      fun h => absurd h (not_signed_nil rfl), ?_⟩
    · unfold verifiedForPair
      rw [hfound]
      rfl
    · rintro - ⟨root, item, hroot, hitem, hother, -⟩
      exact nomatch (hcommitment _ _).mpr ⟨root, item, hroot, hitem, hother, rfl, rfl⟩
  | some found =>
    obtain ⟨own, commitment⟩ := found
    obtain ⟨root, item, hroot, hitem, hother, rfl, rfl⟩ := (hcommitment _ _).mp rfl
    have hshown := signable_shown hitem
    have hhexes : hexText root.bytes.toList ≠ hexText item.peerIdentity.bytes.toList :=
      fun h => hother (pubKey_of_hexText h)
    obtain ⟨evidence, hevidence⟩ : ∃ evidence,
        verifiedForPair host before files after peerRootHex = some evidence := by
      unfold verifiedForPair
      rw [hfound]
      exact ⟨_, rfl⟩
    have hmem := fun other => @mem_verified _ host evidence before after files peerRootHex _ _ _
      other (isHex_hexText root) (isHex_hexText item.peerIdentity) (isHex_snapshotHash item) hhexes
      hfound hevidence
    have hcases := @sortedTexts_cases _ host.toDartViews (hexText root.bytes.toList)
      (hexText item.peerIdentity.bytes.toList)
    have hpair : ∀ signer, signer ∈ sortedTexts host.toDartViews [hexText root.bytes.toList,
        hexText item.peerIdentity.bytes.toList] ↔
        signer = hexText root.bytes.toList ∨ signer = hexText item.peerIdentity.bytes.toList := by
      intro signer
      unfold sortedTexts
      rw [(host.toDartViews.sort_perm _ _).mem_iff, List.mem_pair]
    refine ⟨evidence, sortedTexts host.toDartViews [hexText root.bytes.toList,
      hexText item.peerIdentity.bytes.toList], snapshotHash host item, hevidence,
      ?_, ?_, ?_, ?_, ?_⟩
    · rcases hcases with hcase | hcase <;> rw [hcase] <;> rfl
    · intro other hin
      obtain ⟨signer, hattests, -⟩ := (hmem other).1 hin
      exact ⟨hattests.forPair, hattests.forSnapshot⟩
    · intro result hresult _
      rw [hshown] at hresult
      obtain rfl := Option.some.inj hresult
      rfl
    · intro hsigned
      refine ⟨root, item, hroot, hitem, hother, fun signer hsigner => ?_⟩
      have hin : hexText signer.bytes.toList ∈ sortedTexts host.toDartViews
          [hexText root.bytes.toList, hexText item.peerIdentity.bytes.toList] := by
        rw [hpair]
        exact hsigner.imp (fun h => by rw [h]) fun h => by rw [h]
      obtain ⟨other, hotherIn, hsignedBy⟩ := hsigned _ hin
      obtain ⟨found, hattests, hload⟩ := (hmem other).1 hotherIn
      obtain rfl := hattests.signedBy
      exact ⟨other, hload, hsignedBy ▸ hattests⟩
    · rintro hsame ⟨root', item', hroot', hitem', hother', hsigned⟩ signer hsigner
      obtain rfl : root = root' := Option.some.inj (hroot.symm.trans hroot')
      have hitems : previewOf host.toDartViews host.texts item' =
          previewOf host.toDartViews host.texts item := by
        have hsome := hshown.symm.trans (signable_shown hitem')
        exact (Option.some.inj (congrArg ConsensusSignableResult.preview
          (Option.some.inj hsome))).symm
      have hafter : localRootHex after = some (hexText root.bytes.toList) := by
        rw [hsame, localRootHex, hroot]
        rfl
      have hpeers : item'.peerIdentity = item.peerIdentity :=
        pubKey_of_hexText (hitem'.peer.trans hitem.peer.symm)
      obtain ⟨key, hkey, rfl⟩ : ∃ key, (key = root ∨ key = item'.peerIdentity) ∧
          hexText key.bytes.toList = signer := by
        rcases (hpair signer).mp hsigner with rfl | rfl
        · exact ⟨root, .inl rfl, rfl⟩
        · exact ⟨item.peerIdentity, .inr hpeers.symm, rfl⟩
      obtain ⟨other, hload, hattests⟩ := hsigned key hkey
      unfold snapshotHash at hattests
      rw [hpeers, hitems] at hattests
      exact ⟨other, (hmem other).2 hafter hload _ hattests, hattests.signedBy⟩

/-- **The guard answers that a pair is ready only if it is**, and if it is and the root is still
    the same. -/
theorem guard_answers (before after : World Double)
    (files : String → AttestationStore.StoreFile Double) (peerRootHex : String) :
    ∃ result, attestedSignable host before files after peerRootHex = some result ∧
      (result.isSignable = true → Ready host before files peerRootHex) ∧
      (localRootHex after = localRootHex before → Ready host before files peerRootHex →
        result.isSignable = true) := by
  obtain ⟨own, hown, -⟩ := signable_total host before peerRootHex
  cases hsignable : own.isSignable with
  | false =>
    refine ⟨own, ?_, fun h => ?_, ?_⟩
    · unfold attestedSignable
      rw [hown, Option.bind_some, hsignable]
      rfl
    · rw [hsignable] at h
      exact nomatch h
    · rintro - ⟨root, item, -, hitem, -⟩
      rw [signable_shown hitem] at hown
      obtain rfl := Option.some.inj hown
      exact nomatch hsignable
  | true =>
    obtain ⟨evidence, pair, snapshot, hevidence, hpair, huniform, hhash, hready, hsigned⟩ :=
      verified_cases host before after files peerRootHex
    obtain ⟨result, hresult, hiff⟩ := attestedSignable_iff hown hsignable hevidence hpair huniform
      (hhash own hown)
    exact ⟨result, hresult, fun h => hready (hiff.mp h), fun hsame h => hiff.mpr (hsigned hsame h)⟩

/-! ### The exchange -/

theorem bind_eq_some {α β : Type} {call : Exchange Double α} {next : α → Exchange Double β}
    {turn : Turn Double} {out : β × Turn Double} (h : (call >>= next).run turn = some out) :
    ∃ found after, call.run turn = some (found, after) ∧ (next found).run after = some out := by
  rw [StateT.run_bind] at h
  obtain ⟨⟨found, after⟩, hcall, hnext⟩ := Option.bind_eq_some_iff.mp h
  exact ⟨found, after, hcall, hnext⟩

variable {around : Around Double} {turn after : Turn Double}

/-- What a read of the store returns is what its last read verifies. -/
theorem loadVerified_run
    (h : (loadVerifiedForPair host around peerRootHex).run turn = some (evidence, after)) :
    ∃ read, after.reads.getLast? = some read ∧
      verifiedForPair host read.before read.files after.world peerRootHex = some evidence := by
  have hrun : (loadVerifiedForPair host around peerRootHex).run turn =
      (StateT.lift (verifiedForPair host turn.world (around.await turn.awaits turn.world).files
          (around.await (turn.awaits + 1) (around.await turn.awaits turn.world)) peerRootHex) :
        Exchange Double (List ConsensusAttestationEvidence)).run
        { world := around.await (turn.awaits + 1) (around.await turn.awaits turn.world)
          awaits := turn.awaits + 1 + 1
          reads := turn.reads ++ [⟨turn.world, (around.await turn.awaits turn.world).files⟩] } :=
    rfl
  rw [hrun] at h
  obtain ⟨found, hfound, hpair⟩ := Option.bind_eq_some_iff.mp h
  obtain ⟨rfl, rfl⟩ := Prod.mk.inj (Option.some.inj hpair)
  exact ⟨_, List.getLast?_concat, hfound⟩

/-- What was read last is ready where both roots have signed it. -/
theorem ready_of_run
    (h : (loadVerifiedForPair host around peerRootHex).run turn = some (evidence, after))
    (hsigned : hasTwoRootEvidence evidence = true) :
    ∃ read, after.reads.getLast? = some read ∧ Ready host read.before read.files peerRootHex := by
  obtain ⟨read, hread, hverified⟩ := loadVerified_run h
  obtain ⟨found, pair, snapshot, hfound, hpair, huniform, -, hready, -⟩ :=
    verified_cases host read.before after.world read.files peerRootHex
  rw [hverified] at hfound
  obtain rfl := Option.some.inj hfound
  exact ⟨read, hread, hready ((hasTwoRootEvidence_iff hpair huniform).mp hsigned)⟩

theorem ready_trimmedLower (h : Ready host world files (trimmedLower peerRootHex)) :
    Ready host world files peerRootHex := by
  obtain ⟨root, item, hroot, hitem, hrest⟩ := h
  refine ⟨root, item, hroot, ⟨hitem.inView, hitem.distinct, ?_, hitem.unblocked⟩, hrest⟩
  rw [hitem.peer, trimmedLower_trimmedLower]

/-- **The exchange answers that a pair is ready only if it was at its last read.** -/
theorem ensureForPeer_ready {result : ExchangeResult}
    (h : (ensureForPeer host around peerRootHex).run turn = some (result, after))
    (hstatus : result.status = .ready) :
    ∃ read, after.reads.getLast? = some read ∧ Ready host read.before read.files peerRootHex := by
  have hanswer : ∀ {answer : ExchangeResult} {turn : Turn Double},
      (pure answer : Exchange Double ExchangeResult).run turn = some (result, after) →
        answer = result ∧ turn = after := by
    intro answer turn h
    exact Prod.mk.inj (Option.some.inj h)
  have hlast : ∀ {evidence : List ConsensusAttestationEvidence} {turn : Turn Double},
      (loadVerifiedForPair host around (trimmedLower peerRootHex)).run turn =
        some (evidence, after) → hasTwoRootEvidence evidence = true →
      ∃ read, after.reads.getLast? = some read ∧
        Ready host read.before read.files peerRootHex := by
    intro evidence turn hload hsigned
    obtain ⟨read, hread, hready⟩ := ready_of_run hload hsigned
    exact ⟨read, hread, ready_trimmedLower hready⟩
  unfold ensureForPeer at h
  dsimp only at h
  by_cases hpeer : (!isHex 64 (trimmedLower peerRootHex)) = true
  · rw [if_pos hpeer] at h
    obtain ⟨rfl, rfl⟩ := hanswer h
    exact nomatch hstatus
  rw [if_neg hpeer] at h
  obtain ⟨verified, turn₁, hload, h⟩ := bind_eq_some h
  by_cases hsigned : hasTwoRootEvidence verified = true
  · rw [if_pos hsigned] at h
    obtain ⟨-, rfl⟩ := hanswer h
    exact hlast hload hsigned
  rw [if_neg hsigned] at h
  obtain ⟨received, turn₂, -, h⟩ := bind_eq_some h
  obtain ⟨verified₁, turn₃, hload₁, h⟩ := bind_eq_some h
  by_cases hsigned₁ : hasTwoRootEvidence verified₁ = true
  · rw [if_pos hsigned₁] at h
    obtain ⟨-, rfl⟩ := hanswer h
    exact hlast hload₁ hsigned₁
  rw [if_neg hsigned₁] at h
  obtain ⟨transport, turn₄, -, h⟩ := bind_eq_some h
  cases transport with
  | none =>
    obtain ⟨rfl, rfl⟩ := hanswer h
    exact nomatch hstatus
  | some transport =>
    obtain ⟨sent, turn₅, -, h⟩ := bind_eq_some h
    obtain ⟨effective, turn₆, -, h⟩ := bind_eq_some h
    obtain ⟨verified₂, turn₇, hload₂, h⟩ := bind_eq_some h
    by_cases hsigned₂ : hasTwoRootEvidence verified₂ = true
    · rw [if_pos hsigned₂] at h
      obtain ⟨-, rfl⟩ := hanswer h
      exact hlast hload₂ hsigned₂
    rw [if_neg hsigned₂] at h
    obtain ⟨pairEvidence, turn₈, -, h⟩ := bind_eq_some h
    obtain ⟨rfl, rfl⟩ := hanswer h
    exact nomatch hstatus


variable (host)

/-- **A pair is attested exactly where it is ready.**  The guard always answers; it answers that
    the pair can be signed only if it is ready, and if it is ready and the root is the same after
    the store is read.  The exchange answers that it is ready only if it was at its last read,
    whatever the others and the workers do in between. -/
theorem attested_readiness :
    (∀ before after files peerRootHex, ∃ result,
      attestedSignable host before files after peerRootHex = some result ∧
        (result.isSignable = true → Ready host before files peerRootHex) ∧
        (localRootHex after = localRootHex before → Ready host before files peerRootHex →
          result.isSignable = true)) ∧
      ∀ around peerRootHex turn after result,
        (ensureForPeer host around peerRootHex).run turn = some (result, after) →
        result.status = .ready → ∃ read, after.reads.getLast? = some read ∧
          Ready host read.before read.files peerRootHex :=
  ⟨guard_answers, fun _ _ _ _ _ => ensureForPeer_ready⟩

end Guard

/-! ### A pair with evidence of both roots -/

def sampleSync : SyncHost String :=
  { sampleAttestations with
    texts := ⟨fun _ => repeated 64 '3', fun _ => "", fun _ => []⟩
    sha256Hex_hex := fun _ => isHex_repeated 64 (by decide)
    decodeText := fun _ => none
    lossy := fun _ => none
    verifyEd25519 := fun _ _ _ => true
    signRootDigest32 := fun _ => none }

def sampleRoots : List String :=
  sortedTexts sampleSync.toDartViews [hexText (fill 32 1).toList, hexText (fill 32 11).toList]

def attestedEvidence (signer : Bytes 32) : ConsensusAttestationEvidence where
  schemaVersion := 1
  pairRootsSorted := sampleRoots
  snapshotHashHex := repeated 64 '3'
  commitmentHashHex := repeated 64 '3'
  signerRootHex := hexText signer.toList
  signatureHex := repeated 128 '5'
  createdAtUtc := DeliveryOutbox.sampleIso 0

theorem sampleRoots_eq :
    sampleRoots = [hexText (fill 32 1).toList, hexText (fill 32 11).toList] := by
  have hless : hexText (fill 32 1).toList < hexText (fill 32 11).toList := by
    rw [String.lt_iff, hexText, hexText, String.toList_ofList, String.toList_ofList]
    decide +kernel
  show [hexText (fill 32 1).toList, hexText (fill 32 11).toList].insertionSort
    (fun a b => decide (a ≤ b) = true) = _
  simp [List.insertionSort, hless.le]

theorem attestedEvidence_verifies (signer : Bytes 32)
    (h : hexToBytes (hexText signer.toList) 32 = some signer.toList) :
    Attests sampleSync sampleRoots (repeated 64 '3') (hexText signer.toList)
      (attestedEvidence signer) := by
  have hdigest : hexToBytes (repeated 64 '3') 32 = some (List.replicate 32 0x33) := by
    have hhex : isHex 64 (repeated 64 '3') = true := isHex_repeated 64 (by decide)
    unfold hexToBytes
    rw [trimmedLower_of_isHex hhex, if_pos hhex, repeated, String.toList_ofList]
    decide +kernel
  have hsignature : hexToBytes (repeated 128 '5') 64 = some (List.replicate 64 0x55) := by
    have hhex : isHex 128 (repeated 128 '5') = true := isHex_repeated 128 (by decide)
    unfold hexToBytes
    rw [trimmedLower_of_isHex hhex, if_pos hhex, repeated, String.toList_ofList]
    decide +kernel
  refine ⟨rfl, rfl, rfl, rfl, ?_⟩
  show verifyConsensusSignature sampleSync (repeated 64 '3') (hexText signer.toList)
    (repeated 128 '5') = true
  unfold verifyConsensusSignature
  rw [hdigest, hsignature, h]
  rfl

theorem stored_attestedEvidence {signer : Bytes 32} (h : signer = fill 32 1 ∨ signer = fill 32 11) :
    Stored sampleSync.toAttestationHost (attestedEvidence signer) := by
  have hhex : ∀ key : Bytes 32, isHex 64 (hexText key.toList) = true :=
    fun key => isHex64_hexText key.toList_length
  have hmem : sampleRoots.contains (hexText signer.toList) = true := by
    rw [sampleRoots_eq, List.contains_iff_mem, List.mem_pair]
    exact h.imp (fun h => by rw [h]) fun h => by rw [h]
  have hsorted : sortedRoots sampleRoots = true := by
    rw [sampleRoots_eq, sortedRoots, hhex, hhex, decide_eq_true]
    · rfl
    · rw [String.lt_iff, hexText, hexText, String.toList_ofList, String.toList_ofList]
      decide +kernel
  have hdate := (stored_sampleEvidence  (.inl rfl)).createdAt
  constructor
  · show (decide ((1 : ℤ) = 1) && sortedRoots sampleRoots && isHex 64 (repeated 64 '3') &&
      isHex 64 (repeated 64 '3') && isHex 64 (hexText signer.toList) &&
      isHex 128 (repeated 128 '5') && sampleRoots.contains (hexText signer.toList) &&
      (sampleSync.tryParseUtc (DeliveryOutbox.sampleIso 0)).isSome) = true
    have hparsed : sampleSync.tryParseUtc (DeliveryOutbox.sampleIso 0) = some 0 :=
      sampleSync.tryParseUtc_iso 0
    rw [hsorted, hhex, hmem, isHex_repeated 64 (by decide), isHex_repeated 128 (by decide), hparsed]
    rfl
  · exact hdate

def attestedSnapshot : Snapshot :=
  ⟨storeSchemaVersion, [attestedEvidence (fill 32 1), attestedEvidence (fill 32 11)], []⟩

theorem attestedSnapshot_inOrder : attestedSnapshot.InOrder sampleSync.toAttestationHost := by
  refine ⟨fun item hitem => ?_, ?_, fun _ h => (nomatch h), List.nodup_nil, Nat.zero_le _⟩
  · rcases List.mem_pair.mp hitem with rfl | rfl
    · exact stored_attestedEvidence (.inl rfl)
    · exact stored_attestedEvidence (.inr rfl)
  · have hkeys : (attestedEvidence (fill 32 1)).recordKey ≠
        (attestedEvidence (fill 32 11)).recordKey := by
      intro h
      have hsigners : hexText (fill 32 1).toList = hexText (fill 32 11).toList := by
        have hlists := congrArg String.toList h
        unfold recordKey at hlists
        simp only [String.toList_append] at hlists
        exact String.toList_inj.mp (List.append_cancel_left hlists)
      exact absurd (hexText_inj hsigners) (by decide)
    show [(attestedEvidence (fill 32 1)).recordKey,
      (attestedEvidence (fill 32 11)).recordKey].Nodup
    simp [hkeys]

def attestedFile : StoreFile String :=
  writeSnapshot sampleSync.toAttestationHost attestedSnapshot.attestations
    attestedSnapshot.responseCheckpoints

theorem countFits_relatedLedger : relatedLedger.CountFits := by
  intro continuity hcontinuity
  exact nomatch hcontinuity

/-- The owner of one relationship, with evidence of both roots. -/
def attestedWorld : World String where
  capsuleRootPublicKey := some (fill 32 1).toList
  capsuleNostrPublicKey := none
  exportLedger := some (exportedLedger sampleDigest relatedLedger)
  inMemory := by
    intro ledgerJson hjson lossy ledger hledger
    obtain rfl := Option.some.inj hjson
    rw [parseLedgerJson_export lossy sampleDigest countFits_relatedLedger] at hledger
    obtain rfl := Except.ok.inj hledger
    decide
  files := fun _ => attestedFile
  relationships := []
  invitations := []
  trustedCards := []
  nowUtc := 0

theorem related_item : ∃ item, pairOf relatedLedger none isolatedPeer = some item ∧
    item.localIdentity = relatedLedger.owner ∧ item.blockers = [] := by
  have hrelated := @projectRelationships_of_sorted relatedLedger none (by decide +kernel)
  have hpair : (accumulated (pairAccumulators relatedLedger none) isolatedPeer).map (fun pair =>
      (pair.rooted, pair.pendingInvitations, pair.pendingRemoteBreaks,
        pair.activeRelationships.isEmpty)) = some (true, [], [], false) := by
    rw [pairAccumulator_eq]
    unfold pairRecords transportTable pairRows relationshipCurrentViewV1
    rw [hrelated]
    decide +kernel
  obtain ⟨pair, hfound, hfields⟩ := Option.map_eq_some_iff.mp hpair
  simp only [Prod.mk.injEq] at hfields
  obtain ⟨hrooted, hpending, hbreaks, hactive⟩ := hfields
  refine ⟨_, by rw [pairOf_eq, hfound]; rfl, ?_, ?_⟩
  · show (if pair.rooted then _ else _) = _
    rw [hrooted]
    rfl
  · have hsome : pair.activeRelationships ≠ [] := by
      intro h
      rw [h] at hactive
      exact nomatch hactive
    unfold pairItem
    rw [hpending, hbreaks, if_neg hsome]
    simp

theorem ready_attestedWorld :
    Ready sampleSync attestedWorld attestedWorld.files (hexText (fill 32 11).toList) := by
  obtain ⟨item, hpair, hown, hunblocked⟩ := related_item
  obtain ⟨hitem, hpeer⟩ := pairOf_mem hpair
  have hledger : shownLedger sampleSync attestedWorld = some relatedLedger := by
    show (parseLedgerJson sampleSync.lossy (exportedLedger sampleDigest relatedLedger)).toOption = _
    rw [parseLedgerJson_export sampleSync.lossy sampleDigest countFits_relatedLedger]
    rfl
  have hdistinct : (⟨fill 32 1⟩ : PubKey) ≠ ⟨fill 32 11⟩ := by decide
  have hbytes : ∀ key, key = fill 32 1 ∨ key = fill 32 11 →
      hexToBytes (hexText key.toList) 32 = some key.toList := by
    intro key hkey
    have hhex : isHex 64 (hexText key.toList) = true := isHex64_hexText key.toList_length
    unfold hexToBytes
    rw [trimmedLower_of_isHex hhex, if_pos hhex, hexText, String.toList_ofList]
    rcases hkey with rfl | rfl <;> decide +kernel
  refine ⟨⟨fill 32 1⟩, item, rfl, ⟨⟨relatedLedger, hledger, hitem⟩, ?_, ?_, hunblocked⟩, ?_, ?_⟩
  · rw [hown, hpeer]
    exact hdistinct
  · rw [hpeer, trimmedLower_of_isHex64 (isHex64_hexText (fill 32 11).toList_length)]
    rfl
  · rw [hpeer]
    exact hdistinct
  · rw [hpeer]
    rintro signer (rfl | rfl)
    · exact ⟨_, (mem_load_write attestedSnapshot_inOrder).mpr List.mem_cons_self,
        attestedEvidence_verifies _ (hbytes _ (.inl rfl))⟩
    · exact ⟨_, (mem_load_write attestedSnapshot_inOrder).mpr
          (List.mem_cons_of_mem _ List.mem_cons_self),
        attestedEvidence_verifies _ (hbytes _ (.inr rfl))⟩

theorem attested_readiness_sample : ∃ result,
    attestedSignable sampleSync attestedWorld attestedWorld.files attestedWorld
      (hexText (fill 32 11).toList) = some result ∧ result.isSignable = true := by
  obtain ⟨result, hresult, -, hready⟩ := (attested_readiness sampleSync).1 attestedWorld
    attestedWorld attestedWorld.files (hexText (fill 32 11).toList)
  exact ⟨result, hresult, hready rfl ready_attestedWorld⟩

end ConsensusAttestationSync

end Hivra
