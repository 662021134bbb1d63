import Mathlib.Data.List.Permutation
import Mathlib.Data.String.Basic
import Mathlib.Data.Sym.Sym2
import Hivra.Core.PairIsolation
import Hivra.Host.PairPreviews

namespace Hivra

open ByteString JsonDocument JsonText Replay

namespace ConsensusProcessor

/-!
# Equal facts have equal digests

The host writes the facts of a pair in an order that depends on the facts alone, and they can be
read off the text.  Two capsules that see the same facts of each other take the digest of the same
text.
-/

section Hashes

variable {Double : Type} {dart : DartViews Double} (texts : ConsensusTexts)

/-! ### What can be read off a text -/

/-- A fact with a kind and two keys. -/
structure PairFact.WellFormed (fact : PairFact) : Prop where
  kind : ∃ kind : ℕ, fact.relationshipKind = kind
  pair : ∃ first second, fact.starterPair = [first, second] ∧ isHex64 first = true ∧
    isHex64 second = true

variable {fact fact' : PairFact}

theorem PairFact.ext_of (hkind : fact.relationshipKind = fact'.relationshipKind)
    (hpair : fact.starterPair = fact'.starterPair) : fact = fact' := by
  cases fact
  cases fact'
  cases hkind
  cases hpair
  rfl

variable {key : String}

/-- The units of a key: digits, which need no escape. -/
theorem units_of_key (h : isHex64 key = true) :
    (text key).length = 64 ∧ ∀ c ∈ text key, isPlain c = true ∧ c ≠ 125 ∧ c ≠ 58 := by
  obtain ⟨hlength, hdigits⟩ := Bool.and_eq_true_iff.mp h
  refine ⟨(List.length_map _).trans (beq_iff_eq.mp hlength), fun c hc => ?_⟩
  obtain ⟨d, hd, rfl⟩ := List.mem_map.mp hc
  have hrange := digit_range (List.all_eq_true.mp hdigits d hd)
  have hsmall : ∀ n : ℕ, (48 ≤ n ∧ n ≤ 57 ∨ 97 ≤ n ∧ n ≤ 102) → isPlain (UInt16.ofNat n) = true ∧
      UInt16.ofNat n ≠ 125 ∧ UInt16.ofNat n ≠ 58 := by
    intro n hn
    have hbound : n < 103 := by omega
    revert hn
    revert n
    decide +kernel
  exact hsmall d.toNat hrange

theorem key_plane (h : isHex64 key = true) : ∀ c ∈ key.toList, c.toNat < 65536 := by
  intro c hc
  have hrange := digit_range (List.all_eq_true.mp (Bool.and_eq_true_iff.mp h).2 c hc)
  omega

theorem quote_key (h : isHex64 key = true) : quote (text key) = 34 :: text key ++ [34] :=
  quote_plain fun c hc => ((units_of_key h).2 c hc).1

/-- The text of a fact ends with a brace that stands nowhere else in it. -/
theorem endsWith_factText {fact : PairFact} (h : fact.WellFormed) :
    EndsWith 125 (factText fact) := by
  obtain ⟨kind, hkind⟩ := h.kind
  obtain ⟨first, second, hpair, hfirst, hsecond⟩ := h.pair
  have hdigits : (125 : UInt16) ∉ decimal kind := fun hmem =>
    absurd (digits_of_decimal kind _ hmem).2 (by decide)
  have hkey : ∀ {key : String}, isHex64 key = true → (125 : UInt16) ∉ text key := fun h hmem =>
    ((units_of_key h).2 _ hmem).2.1 rfl
  have hnames : (125 : UInt16) ∉ quote (text "relationship_kind") ∧
      (125 : UInt16) ∉ quote (text "starter_pair") := by decide +kernel
  refine ⟨_, rfl, ?_⟩
  rw [hkind, hpair]
  simp [commaJoin, memberText, listText, quote_key hfirst, quote_key hsecond, hdigits,
    hkey hfirst, hkey hsecond, hnames.1, hnames.2]

/-- **A fact can be read off its text.** -/
theorem factText_inj (h : fact.WellFormed) (h' : fact'.WellFormed)
    (hsame : factText fact = factText fact') : fact = fact' := by
  obtain ⟨kind, hkind⟩ := h.kind
  obtain ⟨kind', hkind'⟩ := h'.kind
  obtain ⟨first, second, hpair, hfirst, hsecond⟩ := h.pair
  obtain ⟨first', second', hpair', hfirst', hsecond'⟩ := h'.pair
  have hcomma : ∀ n : ℕ, (44 : UInt16) ∉ decimal n := fun n hmem =>
    absurd (digits_of_decimal n _ hmem).1 (by decide)
  have hwritten : ∀ {key : String}, isHex64 key = true → (quote (text key)).length = 66 := by
    intro key hkey
    rw [quote_key hkey]
    simp [(units_of_key hkey).1]
  have hread : ∀ {key key' : String}, isHex64 key = true → isHex64 key' = true →
      quote (text key) = quote (text key') → key = key' := by
    intro key key' hkey hkey' hquote
    rw [quote_key hkey, quote_key hkey'] at hquote
    exact text_inj (key_plane hkey) (key_plane hkey')
      (List.append_cancel_right (List.cons.inj hquote).2)
  unfold factText at hsame
  rw [hkind, hkind', hpair, hpair'] at hsame
  -- the comma behind the kind, and then the keys, which are as long as each other
  have hbody := List.append_cancel_right (List.cons.inj hsame).2
  simp only [commaJoin, memberText, listText, List.map_cons, List.map_nil, List.append_assoc] at hbody
  have hafter := (List.cons.inj (List.append_cancel_left hbody)).2
  obtain ⟨hdecimal, hpairs⟩ := split_inj (hcomma kind) (hcomma kind') hafter
  have hids := (List.cons.inj (List.cons.inj (List.append_cancel_left hpairs)).2).2
  obtain ⟨hone, hrest⟩ := List.append_inj (List.append_cancel_right hids)
    ((hwritten hfirst).trans (hwritten hfirst').symm)
  have htwo := (List.cons.inj hrest).2
  have hkinds : fact.relationshipKind = fact'.relationshipKind := by
    rw [hkind, hkind', decimal_inj hdecimal]
  have hstarters : fact.starterPair = fact'.starterPair := by
    rw [hpair, hpair', hread hfirst hfirst' hone, hread hsecond hsecond' htwo]
  exact PairFact.ext_of hkinds hstarters

/-- **The facts can be read off the text of a snapshot.** -/
theorem snapshotText_inj {roots : List String} {facts facts' : List PairFact}
    (h : ∀ fact ∈ facts, fact.WellFormed) (h' : ∀ fact ∈ facts', fact.WellFormed)
    (hsame : snapshotText roots facts = snapshotText roots facts') : facts = facts' := by
  unfold snapshotText at hsame
  have hbody := List.append_cancel_right (List.cons.inj hsame).2
  simp only [commaJoin, memberText, listText, List.append_assoc, List.append_cancel_left_eq,
    List.cons_append, List.cons.injEq, true_and, List.append_cancel_right_eq] at hbody
  have htexts : facts.map factText = facts'.map factText := by
    have hclosed : ∀ {facts : List PairFact}, (∀ fact ∈ facts, fact.WellFormed) →
        ∀ t ∈ facts.map factText, EndsWith 125 t := by
      intro facts hfacts t ht
      obtain ⟨fact, hfact, rfl⟩ := List.mem_map.mp ht
      exact endsWith_factText (hfacts fact hfact)
    exact commaJoin_inj (hclosed h) (hclosed h') hbody
  clear hsame hbody
  induction facts generalizing facts' with
  | nil => exact (List.map_eq_nil_iff.mp htexts.symm).symm
  | cons fact rest ih =>
    cases facts' with
    | nil => exact absurd htexts (List.cons_ne_nil _ _)
    | cons fact' rest' =>
      obtain ⟨hfirst, hrest⟩ := List.cons.inj htexts
      rw [factText_inj (h fact List.mem_cons_self) (h' fact' List.mem_cons_self) hfirst,
        ih (fun other hother => h other (List.mem_cons_of_mem _ hother))
          (fun other hother => h' other (List.mem_cons_of_mem _ hother)) hrest]

/-! ### The order of the facts -/

/-- `List.sort` puts a list in order. -/
def SortsWell (dart : DartViews Double) : Prop :=
  ∀ {α : Type} (le : α → α → Bool), (∀ a b, le a b || le b a) →
    (∀ a b c, le a b → le b c → le a c) → ∀ items : List α,
      (dart.sort le items).Pairwise fun a b => le a b = true

/-- Lists of the same items have the same order, where items in both orders are the same. -/
theorem sort_eq_of_perm (hsort : SortsWell dart) {α : Type} {le : α → α → Bool}
    (htotal : ∀ a b, le a b || le b a) (htrans : ∀ a b c, le a b → le b c → le a c)
    {items items' : List α} (hsame : ∀ a ∈ items, ∀ b ∈ items, le a b → le b a → a = b)
    (h : items.Perm items') : dart.sort le items = dart.sort le items' := by
  have hperm : (dart.sort le items).Perm (dart.sort le items') :=
    ((dart.sort_perm le items).trans h).trans (dart.sort_perm le items').symm
  refine hperm.eq_of_pairwise (fun a b ha hb => ?_) (hsort le htotal htrans items)
    (hsort le htotal htrans items')
  have hbmem := h.mem_iff.mpr ((dart.sort_perm le items').mem_iff.mp hb)
  exact hsame a ((dart.sort_perm le items).mem_iff.mp ha) b hbmem

theorem sortedTexts_cases (first second : String) :
    sortedTexts dart [first, second] = [first, second] ∨
      sortedTexts dart [first, second] = [second, first] :=
  List.perm_pair.mp (dart.sort_perm _ _)

/-- **Two texts in order are the unordered pair.** -/
theorem sortedTexts_eq_iff (hsort : SortsWell dart) {first second first' second' : String} :
    sortedTexts dart [first, second] = sortedTexts dart [first', second'] ↔
      s(first, second) = s(first', second') := by
  have hpairs : [first, second].Perm [first', second'] ↔ s(first, second) = s(first', second') := by
    rw [List.perm_pair, Sym2.eq_iff]
    simp
  rw [← hpairs]
  constructor
  · intro h
    have hperm : (sortedTexts dart [first, second]).Perm [first', second'] := by
      rw [h]
      exact dart.sort_perm _ _
    exact (dart.sort_perm _ _).symm.trans hperm
  · refine sort_eq_of_perm hsort (fun a b => ?_) (fun a b c hab hbc => ?_) fun a _ b _ hab hba => ?_
    · rw [Bool.or_eq_true, decide_eq_true_eq, decide_eq_true_eq]
      exact le_total a b
    · rw [decide_eq_true_eq] at hab hbc ⊢
      exact le_trans hab hbc
    · rw [decide_eq_true_eq] at hab hba
      exact le_antisymm hab hba

theorem le_fact_iff {left right : PairFact} :
    left.le right = true ↔ left.relationshipKind < right.relationshipKind ∨
      left.relationshipKind = right.relationshipKind ∧ left.joined ≤ right.joined := by
  unfold PairFact.le
  rw [Bool.or_eq_true, Bool.and_eq_true, decide_eq_true_eq, beq_iff_eq, decide_eq_true_eq]

/-- Two keys can be read off their join. -/
theorem joined_inj (h : fact.WellFormed) (h' : fact'.WellFormed)
    (hsame : fact.joined = fact'.joined) : fact.starterPair = fact'.starterPair := by
  obtain ⟨first, second, hpair, hfirst, hsecond⟩ := h.pair
  obtain ⟨first', second', hpair', hfirst', hsecond'⟩ := h'.pair
  have hjoin : ∀ one two : String, String.intercalate ":" [one, two] = one ++ ":" ++ two :=
    fun _ _ => rfl
  unfold PairFact.joined at hsame
  rw [hpair, hpair', hjoin, hjoin] at hsame
  have hlists := congrArg String.toList hsame
  simp only [String.toList_append, List.append_assoc] at hlists
  have hlength : ∀ {key : String}, isHex64 key = true → key.toList.length = 64 := fun hkey =>
    beq_iff_eq.mp (Bool.and_eq_true_iff.mp hkey).1
  obtain ⟨hone, hrest⟩ := List.append_inj hlists ((hlength hfirst).trans (hlength hfirst').symm)
  have htwo := List.append_cancel_left hrest
  rw [hpair, hpair', String.toList_inj.mp hone, String.toList_inj.mp htwo]

/-- A fact can be read off its key. -/
theorem key_inj (h : fact.WellFormed) (h' : fact'.WellFormed) (hsame : fact.key = fact'.key) :
    fact = fact' := by
  obtain ⟨kind, hkind⟩ := h.kind
  obtain ⟨kind', hkind'⟩ := h'.kind
  have hcolon : ∀ n : ℕ, ':' ∉ (Nat.repr n).toList := fun n hmem =>
    absurd (digits_of_repr n _ hmem).2 (by decide)
  have hlists := congrArg String.toList hsame
  unfold PairFact.key at hlists
  rw [hkind, hkind'] at hlists
  simp only [String.toList_append, List.append_assoc] at hlists
  obtain ⟨hdigits, hjoined⟩ := split_inj (c := ':') (hcolon kind) (hcolon kind') hlists
  have hdecimal : decimal kind = decimal kind' := by
    show (Nat.repr kind).toList.map _ = (Nat.repr kind').toList.map _
    rw [hdigits]
  refine PairFact.ext_of ?_ (joined_inj h h' (String.toList_inj.mp hjoined))
  rw [hkind, hkind', decimal_inj hdecimal]

/-! ### The facts of two items -/

theorem hostFact_wellFormed (fact : PairRelationshipV1) : (hostFact dart fact).WellFormed := by
  refine ⟨⟨_, rfl⟩, ?_⟩
  have hfirst := isHex64_hexText fact.starterPair.1.toList_length
  have hsecond := isHex64_hexText fact.starterPair.2.toList_length
  show ∃ first second, sortedTexts dart [_, _] = [first, second] ∧ _
  rcases @sortedTexts_cases _ dart (hexText fact.starterPair.1.toList)
    (hexText fact.starterPair.2.toList) with h | h
  · exact ⟨_, _, h, hfirst, hsecond⟩
  · exact ⟨_, _, h, hsecond, hfirst⟩

/-- A fact without the order of its starters. -/
def unordered (fact : PairRelationshipV1) : UInt8 × Sym2 (Bytes 32) :=
  (fact.relationshipKind, s(fact.starterPair.1, fact.starterPair.2))

/-- The facts of an item, as a set. -/
def factSet (item : PairViewItemV1) : Set (UInt8 × Sym2 (Bytes 32)) :=
  unordered '' {fact | fact ∈ item.activeRelationships}

theorem hostFact_eq_iff (hsort : SortsWell dart) {fact fact' : PairRelationshipV1} :
    hostFact dart fact = hostFact dart fact' ↔ unordered fact = unordered fact' := by
  have hkeys : Function.Injective fun bytes : Bytes 32 => hexText bytes.toList :=
    fun bytes bytes' h => List.Vector.toList_injective (hexText_inj h)
  have hpair : sortedTexts dart [hexText fact.starterPair.1.toList,
        hexText fact.starterPair.2.toList] = sortedTexts dart [hexText fact'.starterPair.1.toList,
        hexText fact'.starterPair.2.toList] ↔
      s(fact.starterPair.1, fact.starterPair.2) = s(fact'.starterPair.1, fact'.starterPair.2) := by
    rw [sortedTexts_eq_iff hsort]
    exact (Sym2.map.injective hkeys).eq_iff (a := s(fact.starterPair.1, fact.starterPair.2))
      (b := s(fact'.starterPair.1, fact'.starterPair.2))
  constructor
  · intro h
    have hkind := congrArg PairFact.relationshipKind h
    have hstarters := hpair.mp (congrArg PairFact.starterPair h)
    refine Prod.ext (UInt8.toNat_inj.mp ?_) hstarters
    exact Int.natCast_inj.mp hkind
  · intro h
    obtain ⟨hkind, hstarters⟩ := Prod.mk.inj h
    exact PairFact.ext_of (by rw [hostFact, hostFact, hkind]) (hpair.mpr hstarters)

variable {item : PairViewItemV1}

theorem mem_hostFacts {fact : PairFact} :
    fact ∈ hostFacts dart item ↔ ∃ known ∈ item.activeRelationships, hostFact dart known = fact := by
  unfold hostFacts
  rw [(dart.sort_perm _ _).mem_iff, List.mem_map]
  constructor
  · rintro ⟨⟨key, found⟩, hmem, rfl⟩
    obtain ⟨-, front, back, hitems, -⟩ := mem_overwriteAll.mp hmem
    refine List.mem_map.mp ?_
    rw [hitems]
    exact List.mem_append_right _ List.mem_cons_self
  · rintro ⟨known, hknown, rfl⟩
    have hlisted : hostFact dart known ∈ item.activeRelationships.map (hostFact dart) :=
      List.mem_map_of_mem hknown
    obtain ⟨last, hlast, hkey, hmem⟩ :=
      @exists_mem_overwriteAll _ _ _ PairFact.key _ _ hlisted
    obtain ⟨other, -, rfl⟩ := List.mem_map.mp hlast
    -- facts of one key are one fact
    rw [key_inj (hostFact_wellFormed other) (hostFact_wellFormed known) hkey] at hmem
    exact ⟨_, hmem, rfl⟩

theorem hostFacts_wellFormed (item : PairViewItemV1) :
    ∀ fact ∈ hostFacts dart item, fact.WellFormed := by
  intro fact hfact
  obtain ⟨known, -, rfl⟩ := mem_hostFacts.mp hfact
  exact hostFact_wellFormed known

/-- The facts before they are put in order. -/
theorem factsByKey_nodup (facts : List PairFact) :
    ((overwriteAll PairFact.key facts).map Prod.snd).Nodup := by
  refine List.Nodup.of_map PairFact.key ?_
  rw [List.map_map]
  have hkeys : (overwriteAll PairFact.key facts).map (PairFact.key ∘ Prod.snd) =
      (overwriteAll PairFact.key facts).map Prod.fst := by
    refine List.map_congr_left fun entry hentry => ?_
    exact (mem_overwriteAll.mp hentry).1
  rw [hkeys]
  exact overwriteAll_nodup PairFact.key facts

/-- **The facts of two items are in the same order iff they are the same facts.** -/
theorem facts_eq_iff (hsort : SortsWell dart) (item item' : PairViewItemV1) :
    hostFacts dart item = hostFacts dart item' ↔ factSet item = factSet item' := by
  constructor
  · intro h
    have hsub : ∀ {item item' : PairViewItemV1}, hostFacts dart item = hostFacts dart item' →
        factSet item ⊆ factSet item' := by
      rintro item item' hsame _ ⟨fact, hfact, rfl⟩
      have hmem : hostFact dart fact ∈ hostFacts dart item' :=
        hsame ▸ mem_hostFacts.mpr ⟨fact, hfact, rfl⟩
      obtain ⟨known, hknown, heq⟩ := mem_hostFacts.mp hmem
      exact ⟨known, hknown, (hostFact_eq_iff hsort).mp heq⟩
    exact Set.Subset.antisymm (hsub h) (hsub h.symm)
  · intro h
    have hsub : ∀ {item item' : PairViewItemV1}, factSet item ⊆ factSet item' →
        ∀ fact ∈ hostFacts dart item, fact ∈ hostFacts dart item' := by
      intro item item' hsets fact hfact
      obtain ⟨known, hknown, rfl⟩ := mem_hostFacts.mp hfact
      obtain ⟨other, hother, heq⟩ := hsets ⟨known, hknown, rfl⟩
      exact mem_hostFacts.mpr ⟨other, hother, (hostFact_eq_iff hsort).mpr heq⟩
    have hunsorted : ∀ {item : PairViewItemV1} {fact : PairFact}, fact ∈ hostFacts dart item ↔
        fact ∈ (overwriteAll PairFact.key
          (item.activeRelationships.map (hostFact dart))).map Prod.snd :=
      (dart.sort_perm _ _).mem_iff
    refine sort_eq_of_perm hsort (fun a b => ?_) (fun a b c hab hbc => ?_)
      (fun a ha b hb hab hba => ?_) ?_
    · rw [Bool.or_eq_true, le_fact_iff, le_fact_iff]
      rcases lt_trichotomy a.relationshipKind b.relationshipKind with hlt | heq | hlt
      · exact .inl (.inl hlt)
      · rcases le_total a.joined b.joined with hle | hle
        · exact .inl (.inr ⟨heq, hle⟩)
        · exact .inr (.inr ⟨heq.symm, hle⟩)
      · exact .inr (.inl hlt)
    · rw [le_fact_iff] at hab hbc ⊢
      rcases hab with hab | ⟨hab, hab'⟩
      · rcases hbc with hbc | ⟨hbc, -⟩
        · exact .inl (hab.trans hbc)
        · exact .inl (hbc ▸ hab)
      · rcases hbc with hbc | ⟨hbc, hbc'⟩
        · exact .inl (hab ▸ hbc)
        · exact .inr ⟨hab.trans hbc, le_trans hab' hbc'⟩
    · rw [le_fact_iff] at hab hba
      have hkind : a.relationshipKind = b.relationshipKind := by omega
      have hjoined : a.joined = b.joined := by
        rcases hab with hab | ⟨-, hab⟩
        · omega
        · rcases hba with hba | ⟨-, hba⟩
          · omega
          · exact le_antisymm hab hba
      exact PairFact.ext_of hkind (joined_inj (hostFacts_wellFormed item a (hunsorted.mpr ha))
        (hostFacts_wellFormed item b (hunsorted.mpr hb)) hjoined)
    · rw [List.perm_ext_iff_of_nodup (factsByKey_nodup _) (factsByKey_nodup _)]
      intro fact
      rw [← hunsorted, ← hunsorted]
      exact ⟨hsub h.subset fact, hsub h.symm.subset fact⟩

/-! ### The previews of a view -/

theorem normalizedHex_hexText (key : PubKey) :
    normalizedHex (hexText key.bytes.toList) = some (hexText key.bytes.toList) := by
  have hkey := isHex64_hexText key.bytes.toList_length
  unfold normalizedHex
  rw [trimmedLower_hexText]
  exact if_pos ⟨ne_empty_of_isHex64 hkey, (Bool.and_eq_true_iff.mp hkey).2⟩

theorem dartLength_hexText (key : PubKey) : dartLength (hexText key.bytes.toList) = 64 := by
  have hkey := isHex64_hexText key.bytes.toList_length
  rw [dartLength_of_plane (key_plane hkey), length_hexText, key.bytes.toList_length]

/-- **A pair can be signed iff the core reports nothing that blocks it.** -/
theorem signable_written {ledger : Ledger} {localTransport : Option PubKey}
    (hlength : ledger.events.length < 2 ^ 63)
    (hitem : item ∈ (pairViewV1 ledger localTransport).pairs)
    (hself : item.localIdentity ≠ item.peerIdentity) :
    signable dart texts (some (viewOf dart ledger localTransport))
        (hexText item.peerIdentity.bytes.toList) =
      some ⟨some (previewOf dart texts item), item.blockers.map hostBlocker⟩ := by
  unfold signable
  rw [normalizedHex_hexText, Option.filter_some, if_pos (beq_iff_eq.mpr (dartLength_hexText _))]
  dsimp only
  cases h : preview dart texts (some (viewOf dart ledger localTransport)) with
  | none =>
    rw [preview_written texts localTransport hlength] at h
    exact nomatch h
  | some previews =>
    rw [Option.map_some, find_preview texts hlength h hitem hself]
    rfl

variable {localTransport : Option PubKey}

theorem isSignable_iff {ledger : Ledger} (hlength : ledger.events.length < 2 ^ 63)
    (hitem : item ∈ (pairViewV1 ledger localTransport).pairs)
    (hself : item.localIdentity ≠ item.peerIdentity) :
    (signable dart texts (some (viewOf dart ledger localTransport))
        (hexText item.peerIdentity.bytes.toList)).map ConsensusSignableResult.isSignable =
      some true ↔ item.blockers = [] := by
  rw [signable_written texts hlength hitem hself, Option.map_some]
  show some (true && (item.blockers.map hostBlocker).isEmpty) = some true ↔ _
  rw [Bool.true_and, Option.some.injEq, List.isEmpty_iff, List.map_eq_nil_iff]

theorem pairOf_mem {ledger : Ledger} {peer : PubKey}
    (h : pairOf ledger localTransport peer = some item) :
    item ∈ (pairViewV1 ledger localTransport).pairs ∧ item.peerIdentity = peer := by
  have hfound := List.find?_some h
  exact ⟨List.mem_of_find?_eq_some h, eq_of_beq hfound⟩

/-- **Pairs have equal digests iff their facts are equal.**  Of two capsules with different roots
    that both have a rooted pair with the other one, the previews of the two pairs have the same
    digest iff the relationships are the same facts, whatever else is in the ledgers; and a pair
    can be signed iff the core reports nothing that blocks it. -/
theorem pair_hashes_agree (hsort : SortsWell dart) (hinjective : Function.Injective texts.sha256Hex)
    {ledgerA ledgerB : Ledger} (transportA transportB : Option PubKey)
    (hlengthA : ledgerA.events.length < 2 ^ 63) (hlengthB : ledgerB.events.length < 2 ^ 63)
    (hroots : ledgerA.owner ≠ ledgerB.owner) {itemA itemB : PairViewItemV1}
    (hpairA : pairOf ledgerA transportA ledgerB.owner = some itemA)
    (hpairB : pairOf ledgerB transportB ledgerA.owner = some itemB)
    (hrootedA : itemA.localIdentity = ledgerA.owner)
    (hrootedB : itemB.localIdentity = ledgerB.owner) :
    ∃ previewsA previewsB,
      preview dart texts (some (viewOf dart ledgerA transportA)) = some previewsA ∧
      preview dart texts (some (viewOf dart ledgerB transportB)) = some previewsB ∧
      (∃ row ∈ previewsA, row.peerHex = hexText ledgerB.owner.bytes.toList) ∧
      (∃ row ∈ previewsB, row.peerHex = hexText ledgerA.owner.bytes.toList) ∧
      (∀ rowA ∈ previewsA, ∀ rowB ∈ previewsB,
        rowA.peerHex = hexText ledgerB.owner.bytes.toList →
        rowB.peerHex = hexText ledgerA.owner.bytes.toList →
        (rowA.hashHex = rowB.hashHex ↔ factSet itemA = factSet itemB)) ∧
      ∀ item ∈ (pairViewV1 ledgerA transportA).pairs, item.localIdentity ≠ item.peerIdentity →
        ((signable dart texts (some (viewOf dart ledgerA transportA))
            (hexText item.peerIdentity.bytes.toList)).map ConsensusSignableResult.isSignable =
          some true ↔ item.blockers = []) := by
  obtain ⟨hitemA, hpeerA⟩ := pairOf_mem hpairA
  obtain ⟨hitemB, hpeerB⟩ := pairOf_mem hpairB
  have hselfA : itemA.localIdentity ≠ itemA.peerIdentity := by
    rw [hrootedA, hpeerA]
    exact hroots
  have hselfB : itemB.localIdentity ≠ itemB.peerIdentity := by
    rw [hrootedB, hpeerB]
    exact hroots.symm
  have hpreviewA := @preview_written _ dart texts _ transportA hlengthA
  have hpreviewB := @preview_written _ dart texts _ transportB hlengthB
  have hmemA := (mem_preview texts hlengthA hpreviewA).mpr ⟨itemA, hitemA, hselfA, rfl⟩
  have hmemB := (mem_preview texts hlengthB hpreviewB).mpr ⟨itemB, hitemB, hselfB, rfl⟩
  refine ⟨_, _, hpreviewA, hpreviewB, ⟨_, hmemA, by rw [← hpeerA]; rfl⟩,
    ⟨_, hmemB, by rw [← hpeerB]; rfl⟩, ?_, fun item hitem hself =>
      isSignable_iff texts hlengthA hitem hself⟩
  intro rowA hrowA rowB hrowB hhexA hhexB
  obtain ⟨otherA, hotherA, -, rfl⟩ := (mem_preview texts hlengthA hpreviewA).mp hrowA
  obtain ⟨otherB, hotherB, -, rfl⟩ := (mem_preview texts hlengthB hpreviewB).mp hrowB
  -- the rows are those of the two items
  have hsameA : otherA = itemA := List.inj_on_of_nodup_map (pairs_distinct ledgerA transportA)
    hotherA hitemA ((pubKey_of_hexText hhexA).trans hpeerA.symm)
  have hsameB : otherB = itemB := List.inj_on_of_nodup_map (pairs_distinct ledgerB transportB)
    hotherB hitemB ((pubKey_of_hexText hhexB).trans hpeerB.symm)
  subst hsameA hsameB
  have hrootTexts : sortedTexts dart [hexText otherA.localIdentity.bytes.toList,
        hexText otherA.peerIdentity.bytes.toList] =
      sortedTexts dart [hexText otherB.localIdentity.bytes.toList,
        hexText otherB.peerIdentity.bytes.toList] := by
    rw [hrootedA, hpeerA, hrootedB, hpeerB, sortedTexts_eq_iff hsort]
    exact Sym2.eq_swap
  rw [← facts_eq_iff hsort]
  show texts.sha256Hex (snapshotText _ _) = texts.sha256Hex (snapshotText _ _) ↔ _
  rw [hinjective.eq_iff, hrootTexts]
  constructor
  · intro h
    exact snapshotText_inj (hostFacts_wellFormed otherA) (hostFacts_wellFormed otherB) h
  · intro h
    rw [h]

end Hashes

/-! ### Two capsules with one fact -/

theorem sampleViews_sortsWell : SortsWell sampleViews := fun _ htotal htrans items =>
  List.pairwise_mergeSort htrans htotal items

/-- The relationship of the owner 1 as the owner 11 records it. -/
def mirroredRelationship : Event :=
  .new .relationshipEstablished
    (RelationshipEstablishedPayload.toBytes {
      peerPubkey := ⟨fill 32 6⟩
      ownStarterId := ⟨fill 32 5⟩
      peerStarterId := ⟨fill 32 13⟩
      kind := .juice
      invitationId := fill 32 20
      senderPubkey := ⟨fill 32 12⟩
      senderStarterType := .juice
      senderStarterId := ⟨fill 32 13⟩
      peerRootPubkey := some ⟨fill 32 1⟩
      senderRootPubkey := none })
    30 ⟨fill 64 0⟩ isolatedPeer

def mirroredLedger : Ledger := .ofEvents isolatedPeer [mirroredRelationship]

/-- The text of the one fact of the two roots. -/
def agreedText : Text :=
  snapshotText [hexText (List.replicate 32 1), hexText (List.replicate 32 11)]
    [⟨0, [hexText (List.replicate 32 5), hexText (List.replicate 32 13)]⟩]

/-- The digest of this text, and another text for every other one. -/
def agreedSha256 (t : Text) : String :=
  if t = agreedText then "abb3d416062ce16a8096f5754414f2eae7b8ba295e64a22c233c34468574f627"
  else String.ofList (t.map fun c => Char.ofNat (65536 + c.toNat))

def agreedTexts : ConsensusTexts where
  sha256Hex := agreedSha256
  capsuleLabel bytes :=
    if bytes = List.replicate 32 1 then "h1qyqszqgpqy...amkm5g" else "h1pv9skzctpv...unjhfl"
  indented value := (encode value).getD []

theorem agreedSha256_injective : Function.Injective agreedSha256 := by
  have hhigh : ∀ c : UInt16, (Char.ofNat (65536 + c.toNat)).toNat = 65536 + c.toNat := by
    intro c
    have hbound := c.toNat_lt
    have hvalid : Nat.isValidChar (65536 + c.toNat) := Or.inr (by omega)
    unfold Char.ofNat
    rw [dif_pos hvalid]
    rfl
  have hdigest : "abb3d416062ce16a8096f5754414f2eae7b8ba295e64a22c233c34468574f627".toList.head? =
      some 'a' := by decide +kernel
  have hother : ∀ t : Text, String.ofList (t.map fun c => Char.ofNat (65536 + c.toNat)) ≠
      "abb3d416062ce16a8096f5754414f2eae7b8ba295e64a22c233c34468574f627" := by
    intro t h
    -- a digit is below the other characters
    rw [← h, String.toList_ofList] at hdigest
    cases t with
    | nil => exact nomatch hdigest
    | cons c rest =>
      have hcode := congrArg Char.toNat (Option.some.inj hdigest)
      rw [hhigh] at hcode
      have hdigit : 'a'.toNat = 97 := rfl
      omega
  intro t t' h
  unfold agreedSha256 at h
  split_ifs at h with ht ht' ht'
  · rw [ht, ht']
  · exact absurd h.symm (hother t')
  · exact absurd h (hother t)
  · have hlists := congrArg String.toList h
    rw [String.toList_ofList, String.toList_ofList] at hlists
    refine List.map_injective_iff.mpr (fun c d hcd => ?_) hlists
    have hcodes := congrArg Char.toNat hcd
    rw [hhigh, hhigh] at hcodes
    exact UInt16.toNat_inj.mp (by omega)

/-- The pair of a root that is gathered with one. -/
theorem rooted_pair {ledger : Ledger} {peer : PubKey}
    (h : (accumulated (pairAccumulators ledger none) peer).map PairAccumulator.rooted = some true) :
    ∃ item, pairOf ledger none peer = some item ∧ item.localIdentity = ledger.owner := by
  obtain ⟨pair, hpair, hroot⟩ := Option.map_eq_some_iff.mp h
  refine ⟨_, by rw [pairOf_eq, hpair]; rfl, ?_⟩
  show (if pair.rooted then _ else _) = _
  rw [hroot]
  rfl

theorem pair_hashes_agree_mirrored :
    ∃ itemA itemB previewsA previewsB,
      pairOf relatedLedger none isolatedPeer = some itemA ∧
      pairOf mirroredLedger none ⟨fill 32 1⟩ = some itemB ∧
      preview sampleViews agreedTexts (some (viewOf sampleViews relatedLedger none)) =
        some previewsA ∧
      preview sampleViews agreedTexts (some (viewOf sampleViews mirroredLedger none)) =
        some previewsB ∧
      ∀ rowA ∈ previewsA, ∀ rowB ∈ previewsB,
        rowA.peerHex = hexText (fill 32 11).toList → rowB.peerHex = hexText (fill 32 1).toList →
        (rowA.hashHex = rowB.hashHex ↔ factSet itemA = factSet itemB) := by
  have hrelated := @projectRelationships_of_sorted relatedLedger none (by decide +kernel)
  have hmirrored := @projectRelationships_of_sorted mirroredLedger none (by decide +kernel)
  obtain ⟨itemA, hpairA, hrootedA⟩ := @rooted_pair relatedLedger isolatedPeer (by
    rw [pairAccumulator_eq]
    unfold pairRecords transportTable pairRows relationshipCurrentViewV1
    rw [hrelated]
    decide +kernel)
  obtain ⟨itemB, hpairB, hrootedB⟩ := @rooted_pair mirroredLedger ⟨fill 32 1⟩ (by
    rw [pairAccumulator_eq]
    unfold pairRecords transportTable pairRows relationshipCurrentViewV1
    rw [hmirrored]
    decide +kernel)
  obtain ⟨previewsA, previewsB, hpreviewsA, hpreviewsB, -, -, hrows, -⟩ :=
    pair_hashes_agree agreedTexts sampleViews_sortsWell agreedSha256_injective none none
      (by decide) (by decide) (by decide +kernel) hpairA hpairB hrootedA hrootedB
  exact ⟨itemA, itemB, previewsA, previewsB, hpairA, hpairB, hpreviewsA, hpreviewsB, hrows⟩

end ConsensusProcessor

end Hivra
