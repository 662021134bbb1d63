import Hivra.Lib.JsonUnique

namespace JsonText

/-!
# Texts in bytes

A text is encoded in UTF-8 character by character.  A surrogate without its partner is replaced,
so that only a text whose surrogates come in pairs can be read off its bytes; the writer of JSON
escapes the others.

* `utf8Encode_inj` — two paired texts with the same bytes are the same.
* `paired_encode` — every text the writer gives is paired.
-/

/-! ### Characters -/

/-- A text whose surrogates come in pairs. -/
inductive Paired : Text → Prop
  | nil : Paired []
  | unit {c : UInt16} {rest : Text} (hlead : isLead c = false) (htail : isTail c = false)
      (hrest : Paired rest) : Paired (c :: rest)
  | pair {c d : UInt16} {rest : Text} (hlead : isLead c = true) (htail : isTail d = true)
      (hrest : Paired rest) : Paired (c :: d :: rest)

/-- The character of a unit; without its partner a surrogate is replaced. -/
def unitChar (c : UInt16) : Char := if isLead c || isTail c then '\uFFFD' else Char.ofNat c.toNat

/-- The character of a pair of surrogates. -/
def pairChar (c d : UInt16) : Char :=
  Char.ofNat (0x10000 + (c.toNat - 0xD800) * 1024 + (d.toNat - 0xDC00))

def characters : Text → List Char
  | [] => []
  | [c] => [unitChar c]
  | c :: d :: rest =>
    if isLead c && isTail d then pairChar c d :: characters rest
    else unitChar c :: characters (d :: rest)

/-- `utf8.encode` of a text. -/
def utf8Encode (t : Text) : List UInt8 := (String.ofList (characters t)).toUTF8.data.toList

/-- The units of a character. -/
def units (c : Char) : Text :=
  if c.toNat < 0x10000 then [UInt16.ofNat c.toNat]
  else [UInt16.ofNat (0xD800 + (c.toNat - 0x10000) / 1024),
    UInt16.ofNat (0xDC00 + (c.toNat - 0x10000) % 1024)]

/-- The text of any string. -/
def utf16 (s : String) : Text := s.toList.flatMap units

theorem and_high (n : ℕ) : n &&& 0xFC00 = n / 1024 % 64 * 1024 := by
  apply Nat.eq_of_testBit_eq
  intro i
  have hmask : (0xFC00 : ℕ) = (2 ^ 6 - 1) * 2 ^ 10 := by decide
  have h64 : (64 : ℕ) = 2 ^ 6 := by decide
  have h1024 : (1024 : ℕ) = 2 ^ 10 := by decide
  rw [hmask, h64, h1024, Nat.testBit_and, Nat.testBit_mul_two_pow, Nat.testBit_mul_two_pow,
    Nat.testBit_two_pow_sub_one, Nat.testBit_mod_two_pow, Nat.testBit_div_two_pow]
  by_cases hi : 10 ≤ i
  · rw [Nat.sub_add_cancel hi]
    simp [hi, Bool.and_comm]
  · simp [hi]

theorem toNat_and_high (c k : UInt16) :
    (c &&& 0xFC00 == k) = decide (c.toNat / 1024 * 1024 = k.toNat) := by
  have hc : c.toNat < 65536 := c.toNat_lt
  have hhigh : (c &&& 0xFC00).toNat = c.toNat / 1024 * 1024 := by
    show c.toNat &&& 0xFC00 = _
    rw [and_high, Nat.mod_eq_of_lt (by omega)]
  rw [← hhigh, beq_eq_decide, decide_eq_decide]
  exact UInt16.toNat_inj.symm

variable {c : UInt16}

theorem isLead_iff : isLead c = true ↔ 0xD800 ≤ c.toNat ∧ c.toNat < 0xDC00 := by
  have hk : (0xD800 : UInt16).toNat = 0xD800 := rfl
  rw [isLead, toNat_and_high, decide_eq_true_eq, hk]
  omega

theorem isTail_iff : isTail c = true ↔ 0xDC00 ≤ c.toNat ∧ c.toNat < 0xE000 := by
  have hk : (0xDC00 : UInt16).toNat = 0xDC00 := rfl
  rw [isTail, toNat_and_high, decide_eq_true_eq, hk]
  omega

theorem toNat_ofNat_of_valid {n : ℕ} (h : n.isValidChar) : (Char.ofNat n).toNat = n := by
  rw [Char.ofNat, dif_pos h]
  rfl

/-- A unit that is no surrogate is the unit of its character. -/
theorem units_unitChar (hlead : isLead c = false) (htail : isTail c = false) :
    units (unitChar c) = [c] := by
  have hlead' : ¬ (0xD800 ≤ c.toNat ∧ c.toNat < 0xDC00) := fun h => by
    rw [isLead_iff.mpr h] at hlead
    cases hlead
  have htail' : ¬ (0xDC00 ≤ c.toNat ∧ c.toNat < 0xE000) := fun h => by
    rw [isTail_iff.mpr h] at htail
    cases htail
  have hc : c.toNat < 65536 := c.toNat_lt
  have hvalid : c.toNat.isValidChar := by
    rw [Nat.isValidChar]
    omega
  rw [unitChar, hlead, htail, units, Bool.or_self, if_neg Bool.false_ne_true,
    toNat_ofNat_of_valid hvalid, if_pos hc, UInt16.ofNat_toNat]

theorem units_pairChar {c d : UInt16} (hlead : isLead c = true) (htail : isTail d = true) :
    units (pairChar c d) = [c, d] := by
  obtain ⟨hc, hc'⟩ := isLead_iff.mp hlead
  obtain ⟨hd, hd'⟩ := isTail_iff.mp htail
  have hvalid : (0x10000 + (c.toNat - 0xD800) * 1024 + (d.toNat - 0xDC00)).isValidChar := by
    rw [Nat.isValidChar]
    omega
  have hfirst : 0xD800 + (0x10000 + (c.toNat - 0xD800) * 1024 + (d.toNat - 0xDC00) - 0x10000) / 1024
      = c.toNat := by omega
  have hsecond : 0xDC00 + (0x10000 + (c.toNat - 0xD800) * 1024 + (d.toNat - 0xDC00) - 0x10000) % 1024
      = d.toNat := by omega
  rw [pairChar, units, toNat_ofNat_of_valid hvalid, if_neg (by omega), hfirst, hsecond,
    UInt16.ofNat_toNat, UInt16.ofNat_toNat]

theorem isTail_of_isLead (h : isLead c = true) : isTail c = false := by
  rw [← Bool.not_eq_true, isTail_iff]
  have := isLead_iff.mp h
  omega

/-- **A text whose surrogates come in pairs can be read off its characters.** -/
theorem flatMap_characters {t : Text} (h : Paired t) : (characters t).flatMap units = t := by
  induction h with
  | nil => rfl
  | @unit c rest hlead htail _ ih =>
    have hcons : characters (c :: rest) = unitChar c :: characters rest := by
      cases rest with
      | nil => rfl
      | cons d others => rw [characters, hlead, Bool.false_and, if_neg Bool.false_ne_true]
    rw [hcons, List.flatMap_cons, units_unitChar hlead htail, ih]
    rfl
  | @pair c d rest hlead htail _ ih =>
    rw [characters, hlead, htail, Bool.and_self, if_pos rfl, List.flatMap_cons,
      units_pairChar hlead htail, ih]
    rfl

theorem utf8Encode_inj {t t' : Text} (h : Paired t) (h' : Paired t')
    (hsame : utf8Encode t = utf8Encode t') : t = t' := by
  have hbytes : (String.ofList (characters t)).toUTF8 = (String.ofList (characters t')).toUTF8 :=
    ByteArray.ext (Array.toList_inj.mp hsame)
  have hcharacters : characters t = characters t' :=
    String.ofList_inj.mp (String.toByteArray_inj.mp hbytes)
  rw [← flatMap_characters h, hcharacters, flatMap_characters h']

/-! ### Written texts have their surrogates in pairs -/

theorem Paired.append {t t' : Text} (h : Paired t) (h' : Paired t') : Paired (t ++ t') := by
  induction h with
  | nil => exact h'
  | unit hlead htail _ ih => exact Paired.unit hlead htail ih
  | pair hlead htail _ ih => exact Paired.pair hlead htail ih

/-- A unit below the surrogates. -/
def isLow (c : UInt16) : Bool := decide (c.toNat < 0xD800)

theorem Paired.low {rest : Text} (h : isLow c = true) (hrest : Paired rest) :
    Paired (c :: rest) := by
  have hc : c.toNat < 0xD800 := of_decide_eq_true h
  refine Paired.unit ?_ ?_ hrest
  · rw [← Bool.not_eq_true, isLead_iff]
    omega
  · rw [← Bool.not_eq_true, isTail_iff]
    omega

theorem paired_of_low {t : Text} (h : ∀ c ∈ t, isLow c = true) : Paired t := by
  induction t with
  | nil => exact Paired.nil
  | cons c rest ih =>
    exact Paired.low (h c List.mem_cons_self) (ih fun d hd => h d (List.mem_cons_of_mem _ hd))

theorem isLow_of_bare (h : isBare c = true) : isLow c = true := by
  refine decide_eq_true ?_
  simp only [isBare, isDigit, Bool.or_eq_true, Bool.and_eq_true, decide_eq_true_eq, beq_iff_eq,
    UInt16.le_iff_toNat_le] at h
  rcases h with ((((⟨-, h⟩ | ⟨-, h⟩) | rfl) | rfl) | rfl) | rfl
  · exact Nat.lt_of_le_of_lt h (by decide)
  · exact Nat.lt_of_le_of_lt h (by decide)
  · decide
  · decide
  · decide
  · decide

theorem isLow_hexDigit {n : UInt16} (h : n < 16) : isLow (hexDigit n) = true := by
  have hall : ∀ k : Fin 16, isLow (hexDigit (UInt16.ofNat k)) = true := by decide
  have hn : n.toNat < 16 := UInt16.lt_iff_toNat_lt.mp h
  have hsame := hall ⟨n.toNat, hn⟩
  rwa [UInt16.ofNat_toNat] at hsame

theorem paired_escapeUnit {rest : Text} (hrest : Paired rest) : Paired (escapeUnit c ++ rest) := by
  refine Paired.append (paired_of_low ?_) hrest
  unfold escapeUnit
  split_ifs with hmark
  · rcases hmark with rfl | rfl <;> exact List.all_eq_true.mp (by decide)
  · split
    · next letter hletter =>
      unfold controlLetter at hletter
      split_ifs at hletter <;> cases hletter <;> exact List.all_eq_true.mp (by decide)
    · rw [unicodeEscape_eq]
      have hnibble : ∀ k, isLow (hexDigit (nibble c k)) = true := fun k =>
        isLow_hexDigit (nibble_lt c k)
      simp only [List.forall_mem_cons, hnibble, List.not_mem_nil, false_implies, implies_true,
        and_true]
      decide

theorem isLow_of_escaped {prev next : Option UInt16} (h : isEscaped prev c next = true) :
    isLow c = true ∨ isLone prev c next = true := by
  simp only [isEscaped, Bool.or_eq_true, decide_eq_true_eq, beq_iff_eq] at h
  rcases h with ((h | rfl) | rfl) | h
  · have hc : c.toNat < 32 := UInt16.lt_iff_toNat_lt.mp h
    exact Or.inl (decide_eq_true (by omega))
  · exact Or.inl (by decide)
  · exact Or.inl (by decide)
  · exact Or.inr h

theorem not_lead_of_low (h : isLow c = true) : isLead c = false := by
  have hc : c.toNat < 0xD800 := of_decide_eq_true h
  rw [← Bool.not_eq_true, isLead_iff]
  omega

theorem not_tail_of_low (h : isLow c = true) : isTail c = false := by
  have hc : c.toNat < 0xD800 := of_decide_eq_true h
  rw [← Bool.not_eq_true, isTail_iff]
  omega

/-- Behind a lead its partner, if it follows, stands without an escape. -/
def FollowsLead (prev : Option UInt16) (t : Text) : Prop :=
  ∃ p d, prev = some p ∧ t.head? = some d ∧ isLead p = true ∧ isTail d = true

/-- An escaped text has its surrogates in pairs, up to the partner of a lead in front of it. -/
theorem paired_escapeFrom (t : Text) (prev : Option UInt16) :
    (¬ FollowsLead prev t → Paired (escapeFrom prev t)) ∧
      (FollowsLead prev t → ∃ d rest, escapeFrom prev t = d :: rest ∧ isTail d = true ∧
        Paired rest) := by
  induction t generalizing prev with
  | nil =>
    refine ⟨fun _ => Paired.nil, ?_⟩
    rintro ⟨_, _, _, hhead, _⟩
    cases hhead
  | cons c rest ih =>
    have hbehind : isLead c = false → Paired (escapeFrom (some c) rest) := by
      intro hlead
      refine (ih (some c)).1 ?_
      rintro ⟨p, d, hp, -, hplead, -⟩
      rw [← Option.some.inj hp, hlead] at hplead
      cases hplead
    rw [escapeFrom_cons]
    constructor
    · intro hfirst
      cases hescaped : isEscaped prev c rest.head? with
      | true =>
        refine paired_escapeUnit ((ih (some c)).1 ?_)
        -- An escaped lead has no partner behind it.
        rintro ⟨p, d, hp, hhead, hlead, htail⟩
        cases hp
        rcases isLow_of_escaped hescaped with hlow | hlone
        · rw [not_lead_of_low hlow] at hlead
          cases hlead
        · rw [isLone, hhead, hlead, isTail_of_isLead hlead] at hlone
          simp [htail] at hlone
      | false =>
        show Paired (c :: escapeFrom (some c) rest)
        have hlone : isLone prev c rest.head? = false := by
          simp only [isEscaped, Bool.or_eq_false_iff] at hescaped
          exact hescaped.2
        rw [isLone, Bool.or_eq_false_iff] at hlone
        cases hlead : isLead c with
        | true =>
          -- The partner follows, and is no unit of its own.
          rw [hlead, Bool.true_and, Bool.not_eq_false', Option.any_eq_true] at hlone
          obtain ⟨d, hhead, htail⟩ := hlone.1
          obtain ⟨d', rest', heq, htail', hrest'⟩ :=
            (ih (some c)).2 ⟨c, d, rfl, hhead, hlead, htail⟩
          rw [heq]
          exact Paired.pair hlead htail' hrest'
        | false =>
          refine Paired.unit hlead ?_ (hbehind hlead)
          by_contra htail
          rw [Bool.not_eq_false] at htail
          rw [htail, Bool.true_and, Bool.not_eq_false', Option.any_eq_true] at hlone
          obtain ⟨p, hp, hplead⟩ := hlone.2
          exact hfirst ⟨p, c, hp, rfl, hplead, htail⟩
    · rintro ⟨p, d, rfl, hhead, hlead, htail⟩
      cases hhead
      have hnot : isLead c = false := by
        by_contra hc
        rw [Bool.not_eq_false] at hc
        rw [isTail_of_isLead hc] at htail
        cases htail
      have hescaped : isEscaped (some p) c rest.head? = false := by
        by_contra hescaped
        rw [Bool.not_eq_false] at hescaped
        rcases isLow_of_escaped hescaped with hlow | hlone
        · rw [not_tail_of_low hlow] at htail
          cases htail
        · rw [isLone, hnot, htail] at hlone
          simp [hlead] at hlone
      rw [hescaped]
      exact ⟨c, _, rfl, htail, hbehind hnot⟩

theorem paired_quote {t : Text} : Paired (quote t) := by
  have hfirst : ¬ FollowsLead none t := by
    rintro ⟨p, d, hp, -⟩
    cases hp
  refine Paired.low (by decide) (Paired.append ((paired_escapeFrom t none).1 hfirst) ?_)
  exact Paired.low (by decide) Paired.nil

theorem paired_commaJoin {texts : List Text} (h : ∀ t ∈ texts, Paired t) :
    Paired (commaJoin texts) := by
  induction texts with
  | nil => exact Paired.nil
  | cons first rest ih =>
    have hrest := ih fun t ht => h t (List.mem_cons_of_mem _ ht)
    cases rest with
    | nil => exact h first List.mem_cons_self
    | cons second others =>
      exact Paired.append (h first List.mem_cons_self) (Paired.low (by decide) hrest)

mutual

/-- **A written text has its surrogates in pairs.** -/
theorem paired_encode : ∀ {v : Value} {t : Text}, v.Sound IsDouble → encode v = some t → Paired t
  | .null, t, _, h => by
    cases h
    exact paired_of_low (List.all_eq_true.mp (by decide))
  | .bool value, t, _, h => by
    cases h
    cases value <;> exact paired_of_low (List.all_eq_true.mp (by decide))
  | .int value, t, _, h => by
    cases h
    exact paired_of_low fun c hc => isLow_of_bare (isBare_of_digit (decimal_units value c hc))
  | .double shortest, t, hsound, h => by
    obtain ⟨hgood, rfl⟩ := encode_double hsound h
    exact paired_of_low fun c hc => isLow_of_bare (hgood.bare c hc)
  | .str value, t, _, h => by
    cases h
    exact paired_quote
  | .arr items, t, hsound, h => by
    obtain ⟨texts, htexts, rfl⟩ := Option.map_eq_some_iff.mp h
    refine Paired.low (by decide) (Paired.append ?_ (Paired.low (by decide) Paired.nil))
    exact paired_commaJoin (paired_encodeItems hsound htexts)
  | .obj members, t, hsound, h => by
    obtain ⟨texts, htexts, rfl⟩ := Option.map_eq_some_iff.mp h
    refine Paired.low (by decide) (Paired.append ?_ (Paired.low (by decide) Paired.nil))
    exact paired_commaJoin (paired_encodeMembers hsound.2 htexts)

theorem paired_encodeItems : ∀ {items : List Value} {texts : List Text},
    Value.Sound.soundItems IsDouble items → encode.encodeItems items = some texts →
    ∀ t ∈ texts, Paired t
  | [], texts, _, h => by
    cases h
    exact fun t ht => absurd ht List.not_mem_nil
  | item :: items, texts, hsound, h => by
    obtain ⟨first, others, hfirst, hothers, rfl⟩ := encodeItems_cons h
    exact List.forall_mem_cons.mpr ⟨paired_encode hsound.1 hfirst,
      paired_encodeItems hsound.2 hothers⟩

theorem paired_encodeMembers : ∀ {members : List (Text × Value)} {texts : List Text},
    Value.Sound.soundMembers IsDouble members → encode.encodeMembers members = some texts →
    ∀ t ∈ texts, Paired t
  | [], texts, _, h => by
    cases h
    exact fun t ht => absurd ht List.not_mem_nil
  | (name, value) :: members, texts, hsound, h => by
    obtain ⟨first, others, hfirst, hothers, rfl⟩ := encodeMembers_cons h
    refine List.forall_mem_cons.mpr ⟨?_, paired_encodeMembers hsound.2 hothers⟩
    exact Paired.append paired_quote (Paired.low (by decide) (paired_encode hsound.1 hfirst))

end

end JsonText
