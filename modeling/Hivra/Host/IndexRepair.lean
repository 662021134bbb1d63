import Hivra.Host.CapsuleIndex

namespace Hivra

open Replay OrderedMap

namespace CapsuleIndex

/-!
# What a repair leaves

A repair is determined by the entries of the index and by which directories have their files.  It
changes nothing of an index that it has made, at whatever time, so a read leaves what it answers.
-/

variable {directories : List (String × CapsuleDirectory)}

theorem lookup_replay_adopt {now : ℤ} (hnodup : (directories.map Prod.fst).Nodup)
    {capsules : List (String × CapsuleIndexEntry)} {key : String} (h : lookup capsules key = none) :
    lookup (replay (adopt now) capsules directories) key =
      if isHex64 key = true then
        ((lookup directories key).filter CapsuleDirectory.authoritative).map (synthesizeEntry now key)
      else none := by
  induction directories generalizing capsules with
  | nil => simp [h]
  | cons directory rest ih =>
    rw [List.map_cons, List.nodup_cons] at hnodup
    rw [replay_cons, lookup_cons]
    by_cases hkey : directory.1 = key
    · subst hkey
      have hrest : lookup rest directory.1 = none := lookup_eq_none.mpr hnodup.1
      rw [if_pos rfl, Option.filter_some]
      by_cases hadopted : isHex64 directory.1 = true ∧ directory.2.authoritative = true
      · have hnew : (isHex64 directory.1 && !contains capsules directory.1 &&
            directory.2.authoritative) = true := by
          simp [hadopted, contains, h]
        have hstep : adopt now capsules directory =
            put capsules directory.1 (synthesizeEntry now directory.1 directory.2) := if_pos hnew
        rw [hstep, if_pos hadopted.1, if_pos hadopted.2]
        exact replay_invariant
          (P := fun capsules => lookup capsules directory.1 =
            some (synthesizeEntry now directory.1 directory.2))
          (by rw [lookup_put, if_pos rfl]) fun _ _ _ hcapsules => lookup_adopt hcapsules
      · have hnew : ¬(isHex64 directory.1 && !contains capsules directory.1 &&
            directory.2.authoritative) = true := by
          intro hall
          simp only [Bool.and_eq_true] at hall
          exact hadopted ⟨hall.1.1, hall.2⟩
        have hstep : adopt now capsules directory = capsules := if_neg hnew
        rw [hstep, ih hnodup.2 h, hrest]
        by_cases hhex : isHex64 directory.1 = true
        · rw [if_pos hhex, if_pos hhex, if_neg fun hfiles => hadopted ⟨hhex, hfiles⟩]
          rfl
        · rw [if_neg hhex, if_neg hhex]
    · have hsame : lookup (adopt now capsules directory) key = none := by
        unfold adopt
        split_ifs
        · rw [lookup_put, if_neg hkey]
          exact h
        · exact h
      rw [if_neg hkey, ih hnodup.2 hsame]

/-- **What a repair makes of an entry**: one whose directory has none of its files goes, and a
    directory with them gets one. -/
theorem lookup_repairedCapsules (now : ℤ) (hnodup : (directories.map Prod.fst).Nodup)
    (capsules : List (String × CapsuleIndexEntry)) (key : String) :
    lookup (repairedCapsules now directories capsules) key =
      match lookup capsules key with
      | some entry => if backed directories key = true then some entry else none
      | none =>
        if isHex64 key = true then
          ((lookup directories key).filter CapsuleDirectory.authoritative).map
            (synthesizeEntry now key)
        else none := by
  cases hlookup : lookup capsules key with
  | some entry =>
    dsimp only
    split_ifs with hbacked
    · exact lookup_repaired hlookup hbacked
    · by_contra hsome
      have hcontains : contains (repairedCapsules now directories capsules) key = true :=
        Option.isSome_iff_ne_none.mpr hsome
      exact hbacked (backed_of_repaired hnodup hcontains)
  | none =>
    refine lookup_replay_adopt hnodup ?_
    rw [lookup_filter capsules (backed directories) key, hlookup]
    split_ifs <;> rfl

/-- Two indexes with the same selection and the same entries. -/
structure SameIndex (a b : CapsulesIndex) : Prop where
  active : a.activePubKeyHex = b.activePubKeyHex
  capsules : ∀ key, lookup a.capsules key = lookup b.capsules key

theorem SameIndex.refl (index : CapsulesIndex) : SameIndex index index := ⟨rfl, fun _ => rfl⟩

/-- An index in line with the directories. -/
structure InLine (directories : List (String × CapsuleDirectory)) (index : CapsulesIndex) :
    Prop where
  backed : ∀ key, contains index.capsules key = true → backed directories key = true
  adopted : ∀ key, lookup index.capsules key = none → isHex64 key = true →
    (lookup directories key).filter CapsuleDirectory.authoritative = none
  active : ∀ key, index.activePubKeyHex = some key → contains index.capsules key = true

section InLine

variable {now : ℤ} {directories : List (String × CapsuleDirectory)} {index base : CapsulesIndex}

/-- A directory that does not keep its entry is not adopted. -/
theorem filter_of_not_backed {key : String} (h : ¬backed directories key = true) :
    (lookup directories key).filter CapsuleDirectory.authoritative = none := by
  unfold backed at h
  cases hlookup : lookup directories key with
  | none => rfl
  | some directory =>
    rw [hlookup] at h
    rw [Option.filter_some]
    exact if_neg h

theorem inLine_repaired (hnodup : (directories.map Prod.fst).Nodup) (now : ℤ)
    (index : CapsulesIndex) :
    InLine directories (repairFromCapsuleDirectories now directories index)
    where
  backed := fun _ h => backed_of_repaired hnodup h
  adopted := by
    intro key hnone hkey
    have hlookup := lookup_repairedCapsules now hnodup index.capsules key
    rw [show lookup (repairedCapsules now directories index.capsules) key = none from hnone] at hlookup
    cases hentry : lookup index.capsules key with
    | some entry =>
      rw [hentry] at hlookup
      dsimp only at hlookup
      split_ifs at hlookup with hbacked
      exact filter_of_not_backed hbacked
    | none =>
      rw [hentry] at hlookup
      dsimp only at hlookup
      rw [if_pos hkey] at hlookup
      exact Option.map_eq_none_iff.mp hlookup.symm
  active := fun _ h => (selection_eq_some.mp h).2

/-- **A repair changes nothing** of an index that is in line with the directories. -/
theorem InLine.repaired (h : InLine directories base)
    (hnodup : (directories.map Prod.fst).Nodup) (hsame : SameIndex index base) (now : ℤ) :
    SameIndex (repairFromCapsuleDirectories now directories index) base := by
  have hcapsules : ∀ key, lookup (repairedCapsules now directories index.capsules) key
      = lookup base.capsules key := by
    intro key
    rw [lookup_repairedCapsules now hnodup, hsame.capsules]
    cases hentry : lookup base.capsules key with
    | some entry => exact if_pos (h.backed key (contains_of_lookup hentry))
    | none =>
      dsimp only
      split_ifs with hkey
      · rw [h.adopted key hentry hkey]
        rfl
      · rfl
  refine ⟨?_, hcapsules⟩
  show selection index.activePubKeyHex _ = base.activePubKeyHex
  rw [hsame.active]
  cases hactive : base.activePubKeyHex with
  | none => rfl
  | some key =>
    refine selection_eq_some.mpr ⟨rfl, ?_⟩
    unfold contains
    rw [hcapsules]
    exact h.active key hactive

/-- An index that is written as another one is read as it. -/
theorem SameIndex.stored (h : SameIndex index base) (hinLine : InLine directories base) :
    SameIndex (IndexFile.stored index).index base := by
  refine ⟨?_, h.capsules⟩
  show selection index.activePubKeyHex index.capsules = base.activePubKeyHex
  rw [h.active]
  cases hactive : base.activePubKeyHex with
  | none => rfl
  | some key =>
    refine selection_eq_some.mpr ⟨rfl, ?_⟩
    unfold contains
    rw [h.capsules]
    exact hinLine.active key hactive

end InLine

theorem prefix_adopt (now : ℤ) (capsules : List (String × CapsuleIndexEntry))
    (directory : String × CapsuleDirectory) : capsules <+: adopt now capsules directory := by
  unfold adopt
  split_ifs with hnew
  · have hunknown : directory.1 ∉ capsules.map Prod.fst := by
      rw [← contains_iff]
      simp only [Bool.and_eq_true, Bool.not_eq_true'] at hnew
      rw [hnew.1.2]
      exact Bool.false_ne_true
    rw [put_of_not_mem hunknown]
    exact List.prefix_append _ _
  · exact List.prefix_refl _

/-- A repair that leaves the state of an index leaves the index. -/
theorem repaired_of_same {now : ℤ} (hnodup : (directories.map Prod.fst).Nodup)
    {index : CapsulesIndex}
    (h : sameIndexState index (repairFromCapsuleDirectories now directories index) = true) :
    repairFromCapsuleDirectories now directories index = index := by
  unfold sameIndexState at h
  simp only [Bool.and_eq_true, decide_eq_true_eq, List.all_eq_true] at h
  obtain ⟨⟨hactive, hlength⟩, hentries⟩ := h
  have hkept : index.capsules.filter (fun entry => backed directories entry.1)
      = index.capsules := by
    rw [List.filter_eq_self]
    exact fun entry hentry => backed_of_repaired hnodup (contains_of_lookup (hentries entry hentry))
  have hextends : index.capsules <+: repairedCapsules now directories index.capsules := by
    unfold repairedCapsules
    rw [hkept]
    exact replay_invariant (P := fun capsules => index.capsules <+: capsules)
      (List.prefix_refl _) fun _ directory _ hcapsules =>
        hcapsules.trans (prefix_adopt now _ directory)
  have hcapsules : repairedCapsules now directories index.capsules = index.capsules :=
    (hextends.eq_of_length hlength).symm
  cases index with
  | mk active capsules =>
    unfold repairFromCapsuleDirectories at hactive ⊢
    dsimp only at hactive hcapsules ⊢
    rw [hcapsules] at hactive ⊢
    rw [← hactive]

/-- **What a read leaves is what it answers.** -/
theorem readUnlocked_left {now : ℤ} (hnodup : (directories.map Prod.fst).Nodup)
    {file left : IndexFile} {index : CapsulesIndex}
    (h : readUnlocked now directories file = some (index, left)) :
    left.index = index ∧ left.isUnreadable = false ∧
      index = repairFromCapsuleDirectories now directories file.index := by
  unfold readUnlocked at h
  dsimp only at h
  split_ifs at h with hunreadable hsame
  · obtain ⟨rfl, rfl⟩ := Prod.mk.inj (Option.some.inj h)
    have hrepaired := repaired_of_same hnodup hsame
    refine ⟨hrepaired.symm, ?_, rfl⟩
    cases file with
    | unreadable =>
      rw [hrepaired] at hunreadable
      exact absurd rfl hunreadable
    | missing => rfl
    | stored _ => rfl
  · obtain ⟨rfl, rfl⟩ := Prod.mk.inj (Option.some.inj h)
    refine ⟨?_, rfl, rfl⟩
    unfold IndexFile.index repairFromCapsuleDirectories selection
    dsimp only
    rw [Option.filter_filter]
    simp

theorem readUnlocked_isSome (now : ℤ) (directories : List (String × CapsuleDirectory))
    {file : IndexFile} (h : file.isUnreadable = false) :
    ∃ index left, readUnlocked now directories file = some (index, left) := by
  unfold readUnlocked
  dsimp only
  rw [h, Bool.false_and, if_neg Bool.false_ne_true]
  exact ⟨_, _, rfl⟩

end CapsuleIndex

end Hivra
