import Hivra.Host.AttestedGuard

namespace Hivra

namespace ConsensusProcessor

open AttestationStore ConsensusAttestationSync

/-!
# Verification of signed hashes

The host compares what the participants signed with a hash it expects, and collects what is wrong
with each of them.  There is a match only if nothing is.
-/

/-- What somebody signed; the hash, the signer and the signature are given as texts. -/
structure ConsensusVerifyParticipant where
  participantId : String
  hashHex : String
  signatureHex : Option String
  deriving Repr, DecidableEq

inductive ConsensusVerifyState where
  | match
  | mismatch
  deriving Repr, DecidableEq

structure ConsensusVerifyResult where
  state : ConsensusVerifyState
  blockingFacts : List ConsensusBlockingFact

/-- A verifier of signatures, of the hash, the signer and the signature. -/
abbrev ConsensusSignatureVerifier := String → String → String → Bool

/-- `_normalizedParticipantIdForVerify`. -/
def normalizedParticipantIdForVerify (value : String) : String :=
  match (normalizedHex (trimmed value)).filter (dartLength · == 64) with
  | some normalized => normalized
  | none => trimmedLower (trimmed value)

section Facts

variable (verifySignature : Option ConsensusSignatureVerifier) (expected : Option String)

def hashFacts (participant : ConsensusVerifyParticipant) : List ConsensusBlockingFact :=
  match normalizedHex participant.hashHex with
  | none => [⟨"invalid_hash", some participant.participantId⟩]
  | some hash =>
    if dartLength hash ≠ 64 then [⟨"invalid_hash", some participant.participantId⟩]
    else if expected.isSome ∧ some hash ≠ expected then
      [⟨"hash_mismatch", some participant.participantId⟩]
    else []

/-- The signature is only looked at where there is a verifier and the hash is the expected one. -/
def signatureFacts (participant : ConsensusVerifyParticipant) : List ConsensusBlockingFact :=
  match participant.signatureHex.bind normalizedHex with
  | none => [⟨"missing_signature", some participant.participantId⟩]
  | some signature =>
    if signature = "" then [⟨"missing_signature", some participant.participantId⟩]
    else if dartLength signature ≠ 128 then
      [⟨"invalid_signature", some participant.participantId⟩]
    else
      match verifySignature, expected with
      | some verifySignature, some expected =>
        if normalizedHex participant.hashHex = some expected then
          let isValid := (normalizedHex participant.participantId).any fun participantIdHex =>
            dartLength participantIdHex == 64 && verifySignature expected participantIdHex signature
          if isValid then [] else [⟨"invalid_signature", some participant.participantId⟩]
        else []
      | _, _ => []

/-- The loop over the participants, with the ids that were seen. -/
def participantsFacts (seenParticipantIds : List String) :
    List ConsensusVerifyParticipant → List ConsensusBlockingFact
  | [] => []
  | participant :: rest =>
    let id := normalizedParticipantIdForVerify participant.participantId
    (if seenParticipantIds.contains id then [⟨"duplicate_participant", some id⟩] else []) ++
      hashFacts expected participant ++ signatureFacts verifySignature expected participant ++
      participantsFacts (id :: seenParticipantIds) rest

end Facts

/-- `ConsensusProcessor.verify`. -/
def verify (verifySignature : Option ConsensusSignatureVerifier) (expectedHashHex : String)
    (participants : List ConsensusVerifyParticipant) : ConsensusVerifyResult :=
  let expected := normalizedHex expectedHashHex
  let blockingFacts :=
    (if verifySignature.isNone then [⟨"signature_verifier_unavailable", none⟩] else []) ++
      (if expected.all (dartLength · != 64) then [⟨"invalid_expected_hash", none⟩] else []) ++
      (if participants.isEmpty then [⟨"empty_signature_set", none⟩] else []) ++
      participantsFacts verifySignature expected [] participants
  ⟨if blockingFacts.isEmpty then .match else .mismatch, blockingFacts⟩

/-! ### What a participant has to have signed -/

/-- A participant signed a hash: the texts are read without white space and in lower case. -/
structure Signed (verifySignature : ConsensusSignatureVerifier) (hash : String)
    (participant : ConsensusVerifyParticipant) : Prop where
  participantId : isHex 64 (trimmedLower participant.participantId) = true
  hashHex : trimmedLower participant.hashHex = hash
  signatureHex : ∃ signature, participant.signatureHex = some signature ∧
    isHex 128 (trimmedLower signature) = true ∧
    verifySignature hash (trimmedLower participant.participantId) (trimmedLower signature) = true

/-- What a list of participants that matches is like. -/
structure Matches (verifySignature : Option ConsensusSignatureVerifier) (expectedHashHex : String)
    (participants : List ConsensusVerifyParticipant) : Prop where
  expected : isHex 64 (trimmedLower expectedHashHex) = true
  nonempty : participants ≠ []
  distinct : (participants.map fun participant =>
    trimmedLower participant.participantId).Nodup
  signed : ∃ verify, verifySignature = some verify ∧
    ∀ participant ∈ participants, Signed verify (trimmedLower expectedHashHex) participant

/-- A normalized text of a length is one of so many digits. -/
theorem normalizedHex_iff {length : ℕ} (hpos : 0 < length) {value normalized : String} :
    normalizedHex value = some normalized ∧ dartLength normalized = length ↔
      isHex length (trimmedLower value) = true ∧ normalized = trimmedLower value := by
  constructor
  · rintro ⟨hnormalized, hlength⟩
    obtain ⟨hhex, heq⟩ := isHex_of_normalizedHex hnormalized hlength
    exact ⟨heq ▸ hhex, heq⟩
  · rintro ⟨hhex, rfl⟩
    exact ⟨normalizedHex_of_isHex hpos hhex, plane_of_isHex hhex⟩

/-- The id that is compared is the text without white space and in lower case, also where it is no
    key. -/
theorem normalizedParticipantIdForVerify_eq (value : String) :
    normalizedParticipantIdForVerify value = trimmedLower value := by
  have htrim : trimmedLower (trimmed value) = trimmedLower value := by
    rw [trimmedLower, trimmed, String.toList_ofList, dartTrim_dartTrim, trimmedLower]
  unfold normalizedParticipantIdForVerify
  rw [← htrim]
  split
  · rename_i normalized h
    obtain ⟨hnormalized, hlength⟩ := Option.filter_eq_some_iff.mp h
    exact (isHex_of_normalizedHex hnormalized (beq_iff_eq.mp hlength)).2
  · rfl

section Loop

variable {verifySignature : Option ConsensusSignatureVerifier} {hash : String}
variable {participant : ConsensusVerifyParticipant}

theorem hashFacts_nil_iff (hhash : isHex 64 hash = true) :
    hashFacts (some hash) participant = [] ↔ trimmedLower participant.hashHex = hash := by
  unfold hashFacts
  constructor
  · intro h
    split at h
    · cases h
    · rename_i found hfound
      split_ifs at h with hlength hother
      have hsame : some found = some hash := by simpa using hother
      rw [← Option.some.inj hsame]
      exact ((normalizedHex_iff (by omega)).mp ⟨hfound, not_not.mp hlength⟩).2.symm
  · intro h
    rw [← h] at hhash ⊢
    obtain ⟨hfound, hlength⟩ := (normalizedHex_iff (by omega)).mpr ⟨hhash, rfl⟩
    rw [hfound]
    dsimp only
    rw [if_neg (not_not.mpr hlength), if_neg (by simp)]

variable {verify : ConsensusSignatureVerifier}

theorem signatureFacts_nil_iff (hhash : isHex 64 hash = true)
    (hsame : trimmedLower participant.hashHex = hash) :
    signatureFacts (some verify) (some hash) participant = [] ↔ Signed verify hash participant := by
  have hfound : normalizedHex participant.hashHex = some hash := by
    rw [← hsame] at hhash ⊢
    exact ((normalizedHex_iff (by omega)).mpr ⟨hhash, rfl⟩).1
  unfold signatureFacts
  rw [hfound]
  constructor
  · intro h
    split at h
    · cases h
    · rename_i signature hsignature
      dsimp only at h
      rw [if_pos rfl] at h
      split_ifs at h with hempty hlength hsigned
      -- The verifier is only asked about a signer that is a key.
      rw [Option.any_eq_true] at hsigned
      obtain ⟨id, hid, hverified⟩ := hsigned
      obtain ⟨hidLength, haccepts⟩ := Bool.and_eq_true_iff.mp hverified
      obtain ⟨hidHex, rfl⟩ := (normalizedHex_iff (by omega)).mp ⟨hid, beq_iff_eq.mp hidLength⟩
      obtain ⟨raw, hraw, hnormalized⟩ := Option.bind_eq_some_iff.mp hsignature
      obtain ⟨hrawHex, rfl⟩ := (normalizedHex_iff (by omega)).mp ⟨hnormalized, not_not.mp hlength⟩
      exact ⟨hidHex, hsame, raw, hraw, hrawHex, haccepts⟩
  · rintro ⟨hid, -, raw, hraw, hrawHex, haccepts⟩
    obtain ⟨hidFound, hidLength⟩ := (normalizedHex_iff (by omega)).mpr ⟨hid, rfl⟩
    obtain ⟨hrawFound, hrawLength⟩ := (normalizedHex_iff (by omega)).mpr ⟨hrawHex, rfl⟩
    have hnonempty : trimmedLower raw ≠ "" := by
      intro hempty
      rw [hempty] at hrawLength
      exact absurd hrawLength (by decide)
    rw [hraw, Option.bind_some, hrawFound]
    dsimp only
    rw [if_neg hnonempty, if_neg (not_not.mpr hrawLength), if_pos rfl, hidFound, Option.any_some,
      hidLength, haccepts]
    rfl

/-- **When the loop finds nothing**: every participant signed the hash, and none is there twice. -/
theorem participantsFacts_nil_iff (hhash : isHex 64 hash = true) {seen : List String}
    {participants : List ConsensusVerifyParticipant} :
    participantsFacts (some verify) (some hash) seen participants = [] ↔
      (∀ participant ∈ participants, Signed verify hash participant) ∧
        (participants.map fun participant => trimmedLower participant.participantId).Nodup ∧
        ∀ participant ∈ participants, trimmedLower participant.participantId ∉ seen := by
  induction participants generalizing seen with
  | nil => simp [participantsFacts]
  | cons participant rest ih =>
    have hfirst : hashFacts (some hash) participant = [] ∧
        signatureFacts (some verify) (some hash) participant = [] ↔
          Signed verify hash participant := by
      constructor
      · rintro ⟨hsame, hfacts⟩
        exact (signatureFacts_nil_iff hhash ((hashFacts_nil_iff hhash).mp hsame)).mp hfacts
      · intro hsigned
        exact ⟨(hashFacts_nil_iff hhash).mpr hsigned.hashHex,
          (signatureFacts_nil_iff hhash hsigned.hashHex).mpr hsigned⟩
    have hfresh : ∀ fact : ConsensusBlockingFact,
        (if seen.contains (trimmedLower participant.participantId) then [fact] else []) = [] ↔
          trimmedLower participant.participantId ∉ seen := by
      intro fact
      rw [← List.contains_iff_mem]
      split_ifs with hseen
      · simpa using hseen
      · simpa using hseen
    have hsplit : participantsFacts (some verify) (some hash) seen (participant :: rest) = [] ↔
        trimmedLower participant.participantId ∉ seen ∧ Signed verify hash participant ∧
          participantsFacts (some verify) (some hash)
            (trimmedLower participant.participantId :: seen) rest = [] := by
      rw [participantsFacts, normalizedParticipantIdForVerify_eq]
      simp only [List.append_eq_nil_iff]
      rw [hfresh, ← hfirst, and_assoc, and_assoc, and_assoc]
    rw [hsplit, ih]
    constructor
    · rintro ⟨hid, hsigned, hrest, hnodup, hseen⟩
      refine ⟨List.forall_mem_cons.mpr ⟨hsigned, hrest⟩, ?_, List.forall_mem_cons.mpr ⟨hid, ?_⟩⟩
      · rw [List.map_cons, List.nodup_cons, List.mem_map]
        refine ⟨?_, hnodup⟩
        rintro ⟨other, hother, hsame⟩
        exact hseen other hother (hsame ▸ List.mem_cons_self)
      · intro other hother hmem
        exact hseen other hother (List.mem_cons_of_mem _ hmem)
    · rintro ⟨hsigned, hnodup, hseen⟩
      rw [List.map_cons, List.nodup_cons, List.mem_map] at hnodup
      rw [List.forall_mem_cons] at hsigned hseen
      refine ⟨hseen.1, hsigned.1, hsigned.2, hnodup.2, ?_⟩
      intro other hother hmem
      rcases List.mem_cons.mp hmem with hsame | hold
      · exact hnodup.1 ⟨other, hother, hsame⟩
      · exact hseen.2 other hother hold

end Loop

variable {verifySignature : Option ConsensusSignatureVerifier} {expectedHashHex : String}
  {participants : List ConsensusVerifyParticipant}

/-- **There is a match exactly** if the verifier is there, the expected hash is one, and the list,
    which is not empty, is of different participants who signed it. -/
theorem verify_match_iff :
    (verify verifySignature expectedHashHex participants).state = .match ↔
      Matches verifySignature expectedHashHex participants := by
  have hstate : ∀ facts : List ConsensusBlockingFact,
      (if facts.isEmpty then ConsensusVerifyState.match else .mismatch) = .match ↔ facts = [] := by
    intro facts
    cases facts with
    | nil => simp
    | cons fact facts => simp
  have hfacts : ∀ (p : Bool) (fact : ConsensusBlockingFact),
      (if p = true then [fact] else []) = [] ↔ p = false := by
    intro p fact
    cases p <;> simp
  unfold verify
  simp only [hstate, List.append_eq_nil_iff, hfacts, Option.isNone_eq_false_iff, List.isEmpty_eq_false_iff]
  constructor
  · rintro ⟨⟨⟨hverifier, hexpected⟩, hnonempty⟩, hrest⟩
    obtain ⟨verify, rfl⟩ := Option.isSome_iff_exists.mp hverifier
    rw [Option.all_eq_false] at hexpected
    obtain ⟨hash, hhash, hlength⟩ := hexpected
    have hlong : dartLength hash = 64 := by simpa using hlength
    obtain ⟨hhex, rfl⟩ := (normalizedHex_iff (by omega)).mp ⟨hhash, hlong⟩
    rw [hhash, participantsFacts_nil_iff hhex] at hrest
    exact ⟨hhex, hnonempty, hrest.2.1, verify, rfl, hrest.1⟩
  · rintro ⟨hhex, hnonempty, hdistinct, verify, rfl, hsigned⟩
    obtain ⟨hhash, hlength⟩ := (normalizedHex_iff (by omega)).mpr ⟨hhex, rfl⟩
    rw [hhash, participantsFacts_nil_iff hhex]
    refine ⟨⟨⟨rfl, ?_⟩, hnonempty⟩, hsigned, hdistinct, fun _ _ => List.not_mem_nil⟩
    rw [Option.all_some, hlength]
    rfl

theorem verify_mismatch_iff :
    (verify verifySignature expectedHashHex participants).state = .mismatch ↔
      ¬Matches verifySignature expectedHashHex participants := by
  rw [← verify_match_iff]
  cases (verify verifySignature expectedHashHex participants).state with
  | «match» => simp
  | mismatch => simp

variable {before after : List ConsensusVerifyParticipant} {participant : ConsensusVerifyParticipant}

/-- A list that matches also matches without one of its participants, if others are left. -/
theorem Matches.without
    (h : Matches verifySignature expectedHashHex (before ++ participant :: after))
    (hothers : before ++ after ≠ []) :
    Matches verifySignature expectedHashHex (before ++ after) where
  expected := h.expected
  nonempty := hothers
  distinct := h.distinct.sublist
    ((List.Sublist.append_left (List.sublist_cons_self participant after) before).map _)
  signed := by
    obtain ⟨verify, hverify, hsigned⟩ := h.signed
    refine ⟨verify, hverify, fun other hother => hsigned other ?_⟩
    exact (List.Sublist.append_left (List.sublist_cons_self participant after) before).subset hother

/-- The participants of a list that matches are different. -/
theorem Matches.fresh
    (h : Matches verifySignature expectedHashHex (before ++ participant :: after)) :
    participant ∉ before ++ after := by
  intro hmem
  have hperm : (before ++ participant :: after).Perm (participant :: (before ++ after)) :=
    List.perm_middle
  have hdistinct : ((participant :: (before ++ after)).map fun participant =>
      trimmedLower participant.participantId).Nodup := (hperm.map _).nodup h.distinct
  rw [List.map_cons, List.nodup_cons] at hdistinct
  exact hdistinct.1 (List.mem_map.mpr ⟨participant, hmem, rfl⟩)

/-- **Verification is exact.**  There is a match exactly if the verifier is there, the expected
    hash is one, and the list, which is not empty, is of different participants who signed it.  So
    one more participant, anywhere in a list that is not empty, does not turn a mismatch into a
    match, and neither does one who is there already; another participant in the place of one does
    only where the others match by themselves, or there are none. -/
theorem verify_exact (verifySignature : Option ConsensusSignatureVerifier)
    (expectedHashHex : String) (before after : List ConsensusVerifyParticipant)
    (participant : ConsensusVerifyParticipant) :
    let state := fun participants =>
      (verify verifySignature expectedHashHex participants).state
    (∀ participants, state participants = .match ↔
        Matches verifySignature expectedHashHex participants) ∧
      (before ++ after ≠ [] → state (before ++ after) = .mismatch →
        state (before ++ participant :: after) = .mismatch) ∧
      (participant ∈ before ++ after → state (before ++ participant :: after) = .mismatch) ∧
      ∀ other, state (before ++ other :: after) = .mismatch →
        state (before ++ participant :: after) = .match →
        (before ++ after = [] ∨ state (before ++ after) = .match) ∧
          ¬Matches verifySignature expectedHashHex (before ++ other :: after) := by
  intro state
  have hmatch : ∀ participants, state participants = .match ↔
      Matches verifySignature expectedHashHex participants := fun _ => verify_match_iff
  have hmismatch : ∀ participants, state participants = .mismatch ↔
      ¬Matches verifySignature expectedHashHex participants := fun _ => verify_mismatch_iff
  refine ⟨hmatch, ?_, ?_, ?_⟩
  · intro hothers hbad
    rw [hmismatch] at hbad ⊢
    exact fun hgood => hbad (hgood.without hothers)
  · intro hmem
    rw [hmismatch]
    exact fun hgood => hgood.fresh hmem
  · intro other hbad hgood
    rw [hmismatch] at hbad
    rw [hmatch] at hgood
    refine ⟨?_, hbad⟩
    by_cases hothers : before ++ after = []
    · exact .inl hothers
    · exact .inr ((hmatch _).mpr (hgood.without hothers))

/-- Somebody who signed a hash. -/
def someoneSigned : ConsensusVerifyParticipant :=
  ⟨repeated 64 '1', repeated 64 '3', some (repeated 128 '2')⟩

/-- A participant who signed turns the mismatch of an empty list into a match, and so does one in
    the place of a participant with another hash. -/
theorem signed_added :
    let state := fun participants =>
      (verify (some fun _ _ _ => true) (repeated 64 '3') participants).state
    state [] = .mismatch ∧ state [{ someoneSigned with hashHex := "" }] = .mismatch ∧
      state [someoneSigned] = .match := by
  have hhash : isHex 64 (repeated 64 '3') = true := isHex_repeated 64 (by decide)
  have hid : isHex 64 (repeated 64 '1') = true := isHex_repeated 64 (by decide)
  have hsignature : isHex 128 (repeated 128 '2') = true := isHex_repeated 128 (by decide)
  refine ⟨?_, ?_, ?_⟩
  · rw [verify_mismatch_iff]
    exact fun h => h.nonempty rfl
  · rw [verify_mismatch_iff]
    intro h
    obtain ⟨verify, -, hsigned⟩ := h.signed
    have hsame := (hsigned _ (List.mem_singleton_self _)).hashHex
    rw [trimmedLower_of_isHex hhash] at hsame
    exact absurd (hsame ▸ hhash) (by decide)
  · rw [verify_match_iff]
    refine ⟨?_, List.cons_ne_nil _ _, List.nodup_singleton _, _, rfl, ?_⟩
    · rw [trimmedLower_of_isHex hhash]
      exact hhash
    · intro participant hparticipant
      rw [List.mem_singleton.mp hparticipant]
      refine ⟨?_, rfl, _, rfl, ?_, rfl⟩
      · show isHex 64 (trimmedLower (repeated 64 '1')) = true
        rw [trimmedLower_of_isHex hid]
        exact hid
      · rw [trimmedLower_of_isHex hsignature]
        exact hsignature

end ConsensusProcessor

end Hivra
