import Hivra.Lib.JsonText

namespace JsonText

/-!
# A JSON text is written for one value

What a value is written as can be told apart from what follows it: its first unit says what kind
of value it is, an escape can be read off by itself, and a number ends where a mark begins.

* `unescape_escapeUnit`, `quote_append_inj` — a string is read off up to its closing quote.
-/

/-! ### Escapes -/

/-- Read the escape at the beginning of a text. -/
def unescape : Text → Option (UInt16 × Text)
  | 92 :: 117 :: a :: b :: c :: d :: rest =>
    match hexValue a, hexValue b, hexValue c, hexValue d with
    | some a, some b, some c, some d => some (((a * 16 + b) * 16 + c) * 16 + d, rest)
    | _, _, _, _ => none
  | 92 :: letter :: rest => (simpleEscape letter).map fun value => (value, rest)
  | _ => none

theorem hexValue_hexDigit {n : UInt16} (h : n < 16) : hexValue (hexDigit n) = some n := by
  have hall : ∀ k : Fin 16, hexValue (hexDigit (UInt16.ofNat k)) = some (UInt16.ofNat k) := by
    decide
  have hn : n.toNat < 16 := UInt16.lt_iff_toNat_lt.mp h
  have hsame := hall ⟨n.toNat, hn⟩
  rwa [UInt16.ofNat_toNat] at hsame

/-- A digit of a unit. -/
def nibble (c k : UInt16) : UInt16 := c >>> k &&& 15

theorem toNat_nibble (c : UInt16) (k : UInt16) (hk : k.toNat < 16) :
    (nibble c k).toNat = c.toNat / 2 ^ k.toNat % 16 := by
  rw [nibble, UInt16.toNat_and, UInt16.toNat_shiftRight, Nat.mod_eq_of_lt hk,
    Nat.shiftRight_eq_div_pow]
  exact Nat.and_two_pow_sub_one_eq_mod _ 4

theorem nibble_lt (c k : UInt16) : nibble c k < 16 := by
  rw [nibble, UInt16.lt_iff_toNat_lt, UInt16.toNat_and]
  exact Nat.lt_succ_of_le Nat.and_le_right

theorem low_eq_nibble (c : UInt16) : c &&& 15 = nibble c 0 := by
  rw [nibble, UInt16.shiftRight_zero]

/-- The four digits of a unit make it up again. -/
theorem join_nibbles (c : UInt16) :
    ((nibble c 12 * 16 + nibble c 8) * 16 + nibble c 4) * 16 + nibble c 0 = c := by
  have h12 : (nibble c 12).toNat = c.toNat / 4096 % 16 := toNat_nibble c 12 (by decide)
  have h8 : (nibble c 8).toNat = c.toNat / 256 % 16 := toNat_nibble c 8 (by decide)
  have h4 : (nibble c 4).toNat = c.toNat / 16 % 16 := toNat_nibble c 4 (by decide)
  have h0 : (nibble c 0).toNat = c.toNat / 1 % 16 := toNat_nibble c 0 (by decide)
  have hc : c.toNat < 65536 := c.toNat_lt
  have h16 : (16 : UInt16).toNat = 16 := rfl
  apply UInt16.toNat.inj
  rw [UInt16.toNat_add, UInt16.toNat_mul, UInt16.toNat_add, UInt16.toNat_mul, UInt16.toNat_add,
    UInt16.toNat_mul, h12, h8, h4, h0, h16]
  omega

/-- A unit as its four digits. -/
theorem unicodeEscape_eq (c : UInt16) :
    unicodeEscape c = [92, 117, hexDigit (nibble c 12), hexDigit (nibble c 8),
      hexDigit (nibble c 4), hexDigit (nibble c 0)] := by
  rw [← low_eq_nibble]
  rfl

/-- **An escape can be read off by itself.** -/
theorem unescape_escapeUnit (c : UInt16) (rest : Text) :
    unescape (escapeUnit c ++ rest) = some (c, rest) := by
  unfold escapeUnit
  split_ifs with hmark
  · rcases hmark with rfl | rfl <;> rfl
  · unfold controlLetter
    split_ifs with h h h h h
    · rw [h]; rfl
    · rw [h]; rfl
    · rw [h]; rfl
    · rw [h]; rfl
    · rw [h]; rfl
    · show unescape (unicodeEscape c ++ rest) = _
      rw [unicodeEscape_eq]
      show (match hexValue (hexDigit (nibble c 12)), hexValue (hexDigit (nibble c 8)),
          hexValue (hexDigit (nibble c 4)), hexValue (hexDigit (nibble c 0)) with
        | some a, some b, some c, some d => some (((a * 16 + b) * 16 + c) * 16 + d, rest)
        | _, _, _, _ => none) = _
      rw [hexValue_hexDigit (nibble_lt c 12), hexValue_hexDigit (nibble_lt c 8),
        hexValue_hexDigit (nibble_lt c 4), hexValue_hexDigit (nibble_lt c 0)]
      dsimp only
      rw [join_nibbles]

/-- What stands for a unit. -/
def written (escaped : Bool) (c : UInt16) : Text := if escaped then escapeUnit c else [c]

theorem escapeUnit_head (c : UInt16) : ∃ rest, escapeUnit c = 92 :: rest := by
  unfold escapeUnit
  split_ifs
  · exact ⟨_, rfl⟩
  · split <;> exact ⟨_, rfl⟩

variable {c : UInt16}

/-- A unit that stands by itself is neither a quote nor a backslash. -/
theorem ne_of_not_escaped {prev next : Option UInt16} (h : isEscaped prev c next = false) :
    c ≠ 34 ∧ c ≠ 92 := by
  simp only [isEscaped, Bool.or_eq_false_iff, beq_eq_false_iff_ne] at h
  exact ⟨h.1.1.2, h.1.2⟩

theorem written_append_inj {prev prev' next next' : Option UInt16} {c c' : UInt16}
    {rest rest' : Text}
    (h : written (isEscaped prev c next) c ++ rest = written (isEscaped prev' c' next') c' ++ rest') :
    c = c' ∧ rest = rest' := by
  obtain ⟨tail, htail⟩ := escapeUnit_head c
  obtain ⟨tail', htail'⟩ := escapeUnit_head c'
  cases hescaped : isEscaped prev c next <;> cases hescaped' : isEscaped prev' c' next' <;>
    rw [hescaped, hescaped'] at h
  · exact ⟨(List.cons.inj h).1, (List.cons.inj h).2⟩
  · -- An escape starts with a backslash, and no other unit does.
    rw [written, written, if_pos rfl, htail'] at h
    exact absurd (List.cons.inj h).1 (ne_of_not_escaped hescaped).2
  · rw [written, written, if_pos rfl, htail] at h
    exact absurd (List.cons.inj h).1.symm (ne_of_not_escaped hescaped').2
  · have hread := unescape_escapeUnit c rest
    rw [show escapeUnit c ++ rest = escapeUnit c' ++ rest' from h, unescape_escapeUnit] at hread
    obtain ⟨rfl, rfl⟩ := Prod.mk.inj (Option.some.inj hread)
    exact ⟨rfl, rfl⟩

theorem escapeFrom_cons (prev : Option UInt16) (c : UInt16) (rest : Text) :
    escapeFrom prev (c :: rest) =
      written (isEscaped prev c rest.head?) c ++ escapeFrom (some c) rest := rfl

/-- What stands for a unit does not start with a quote. -/
theorem written_ne_quote (prev next : Option UInt16) (c : UInt16) (rest rest' : Text) :
    written (isEscaped prev c next) c ++ rest ≠ 34 :: rest' := by
  obtain ⟨tail, htail⟩ := escapeUnit_head c
  intro h
  cases hescaped : isEscaped prev c next <;> rw [hescaped] at h
  · exact (ne_of_not_escaped hescaped).1 (List.cons.inj h).1
  · rw [written, if_pos rfl, htail] at h
    exact absurd (List.cons.inj h).1 (by decide)

variable {t t' rest rest' : Text}

theorem escapeFrom_append_inj {prev prev' : Option UInt16}
    (h : escapeFrom prev t ++ 34 :: rest = escapeFrom prev' t' ++ 34 :: rest') :
    t = t' ∧ rest = rest' := by
  induction t generalizing prev prev' t' with
  | nil =>
    cases t' with
    | nil => exact ⟨rfl, (List.cons.inj h).2⟩
    | cons c' tail' =>
      rw [escapeFrom_cons, List.append_assoc] at h
      exact (written_ne_quote _ _ _ _ _ h.symm).elim
  | cons c tail ih =>
    cases t' with
    | nil =>
      rw [escapeFrom_cons, List.append_assoc] at h
      exact (written_ne_quote _ _ _ _ _ h).elim
    | cons c' tail' =>
      rw [escapeFrom_cons, escapeFrom_cons, List.append_assoc, List.append_assoc] at h
      obtain ⟨rfl, htails⟩ := written_append_inj h
      obtain ⟨rfl, hrest⟩ := ih htails
      exact ⟨rfl, hrest⟩

/-- **A string is read off up to its closing quote.** -/
theorem quote_append_inj (h : quote t ++ rest = quote t' ++ rest') : t = t' ∧ rest = rest' := by
  unfold quote at h
  simp only [List.cons_append, List.append_assoc, List.nil_append] at h
  exact escapeFrom_append_inj (List.cons.inj h).2

/-! ### Numbers and literals -/

/-- A text that ends, or goes on with a unit of no number. -/
def Closes (rest : Text) : Prop := ∀ c ∈ rest.head?, isBare c = false

theorem closes_cons {rest : Text} (h : isBare c = false) : Closes (c :: rest) := by
  intro d hd
  rwa [← Option.some.inj hd]

/-- A number is read off up to the mark behind it. -/
theorem bare_append_inj (ht : ∀ c ∈ t, isBare c = true) (ht' : ∀ c ∈ t', isBare c = true)
    (hrest : Closes rest) (hrest' : Closes rest') (h : t ++ rest = t' ++ rest') :
    t = t' ∧ rest = rest' := by
  induction t generalizing t' with
  | nil =>
    cases t' with
    | nil => exact ⟨rfl, h⟩
    | cons c' tail' =>
      have hc' := ht' c' List.mem_cons_self
      rw [hrest c' (by rw [show rest = _ from h]; rfl)] at hc'
      cases hc'
  | cons c tail ih =>
    cases t' with
    | nil =>
      have hc := ht c List.mem_cons_self
      rw [hrest' c (by rw [show rest' = _ from h.symm]; rfl)] at hc
      cases hc
    | cons c' tail' =>
      obtain ⟨rfl, htails⟩ := List.cons.inj h
      obtain ⟨rfl, hsame⟩ := ih (fun d hd => ht d (List.mem_cons_of_mem _ hd))
        (fun d hd => ht' d (List.mem_cons_of_mem _ hd)) htails
      exact ⟨rfl, hsame⟩

/-- The text of a double that is a number: it has a point or an exponent. -/
structure GoodDouble (t : Text) : Prop where
  bare : ∀ c ∈ t, isBare c = true
  starts : ∃ c rest, t = c :: rest ∧ (isDigit c = true ∨ c = 45)
  marked : ∃ c ∈ t, c = 46 ∨ c = 101

theorem decimal_negSucc (n : ℕ) : decimal (Int.negSucc n) = 45 :: decimal (n + 1 : ℕ) := by
  show text ("-" ++ Nat.repr (n + 1)) = _
  rw [text_append]
  rfl

theorem isDigit_decimal (n : ℕ) : ∀ c ∈ decimal n, isDigit c = true := by
  intro c hc
  obtain ⟨hlow, hhigh⟩ := digits_of_decimal n c hc
  rw [isDigit, Bool.and_eq_true, decide_eq_true_eq, decide_eq_true_eq, UInt16.le_iff_toNat_le,
    UInt16.le_iff_toNat_le]
  exact ⟨hlow, hhigh⟩

theorem decimal_ne_nil (n : ℕ) : decimal n ≠ [] := by
  show text (Nat.repr n) ≠ []
  rw [text, ne_eq, List.map_eq_nil_iff, Nat.toList_repr]
  exact Nat.toDigits_ne_nil

/-- An integer is written with digits behind a sign. -/
theorem decimal_units (n : ℤ) : ∀ c ∈ decimal n, isDigit c = true ∨ c = 45 := by
  intro c hc
  cases n with
  | ofNat n => exact Or.inl (isDigit_decimal n c hc)
  | negSucc n =>
    rw [decimal_negSucc] at hc
    rcases List.mem_cons.mp hc with rfl | hc
    · exact Or.inr rfl
    · exact Or.inl (isDigit_decimal (n + 1) c hc)

theorem decimal_starts (n : ℤ) : ∃ c rest, decimal n = c :: rest ∧ (isDigit c = true ∨ c = 45) := by
  cases hn : decimal n with
  | nil =>
    cases n with
    | ofNat n => exact absurd hn (decimal_ne_nil n)
    | negSucc n =>
      rw [decimal_negSucc] at hn
      cases hn
  | cons c rest => exact ⟨c, rest, rfl, decimal_units n c (by rw [hn]; exact List.mem_cons_self)⟩

theorem isBare_of_digit (h : isDigit c = true ∨ c = 45) : isBare c = true := by
  rcases h with h | rfl
  · rw [isBare, h]
    rfl
  · rfl

theorem decimal_int_inj {m n : ℤ} (h : decimal m = decimal n) : m = n := by
  have hsign : ∀ (m n : ℕ), decimal (m : ℤ) ≠ decimal (Int.negSucc n) := by
    intro m n heq
    rw [decimal_negSucc] at heq
    have hdigit := isDigit_decimal m 45 (by rw [heq]; exact List.mem_cons_self)
    exact absurd hdigit (by decide)
  cases m with
  | ofNat m =>
    cases n with
    | ofNat n => exact congrArg Int.ofNat (decimal_inj h)
    | negSucc n => exact absurd h (hsign m n)
  | negSucc m =>
    cases n with
    | ofNat n => exact absurd h.symm (hsign n m)
    | negSucc n =>
      rw [decimal_negSucc, decimal_negSucc] at h
      have hsucc := decimal_inj (List.cons.inj h).2
      rw [Nat.succ.inj hsucc]

/-- No integer is written as a double. -/
theorem decimal_ne_double {n : ℤ} {t : Text} (h : GoodDouble t) : decimal n ≠ t := by
  rintro rfl
  obtain ⟨c, hc, hmark⟩ := h.marked
  rcases decimal_units n c hc with hdigit | rfl
  · rcases hmark with rfl | rfl <;> exact absurd hdigit (by decide)
  · rcases hmark with hmark | hmark <;> exact absurd hmark (by decide)

/-! ### Values -/

/-- What holds of a value that was read: no object repeats a name, and of its doubles. -/
def Value.Sound (D : Text → Prop) : Value → Prop
  | .double shortest => D shortest
  | .arr items => soundItems items
  | .obj members => (members.map Prod.fst).Nodup ∧ soundMembers members
  | _ => True
where
  soundItems : List Value → Prop
    | [] => True
    | item :: rest => item.Sound D ∧ soundItems rest
  soundMembers : List (Text × Value) → Prop
    | [] => True
    | (_, value) :: rest => value.Sound D ∧ soundMembers rest

/-- A double that is infinite or a number. -/
def IsDouble (t : Text) : Prop := t = text "Infinity" ∨ t = text "-Infinity" ∨ GoodDouble t

/-- What the first unit of a text says about its value. -/
def unitKind (c : UInt16) : ℕ :=
  if c = 110 then 0
  else if c = 116 then 1
  else if c = 102 then 2
  else if c = 34 then 4
  else if c = 91 then 5
  else if c = 123 then 6
  else if isDigit c ∨ c = 45 then 3
  else 7

def Value.kind : Value → ℕ
  | .null => 0
  | .bool value => if value then 1 else 2
  | .int _ | .double _ => 3
  | .str _ => 4
  | .arr _ => 5
  | .obj _ => 6

theorem unitKind_of_digit (h : isDigit c = true ∨ c = 45) : unitKind c = 3 := by
  have hne : ∀ d ∈ [110, 116, 102, 34, 91, 123], c ≠ d := by
    rintro d hd rfl
    simp only [List.mem_cons, List.not_mem_nil, or_false] at hd
    rcases hd with rfl | rfl | rfl | rfl | rfl | rfl <;>
      exact h.elim (fun hdigit => absurd hdigit (by decide)) fun heq => absurd heq (by decide)
  unfold unitKind
  rw [if_neg (hne _ (by simp)), if_neg (hne _ (by simp)), if_neg (hne _ (by simp)),
    if_neg (hne _ (by simp)), if_neg (hne _ (by simp)), if_neg (hne _ (by simp)), if_pos h]

/-- A double that is written is a number. -/
theorem encode_double {shortest t : Text} (hgood : IsDouble shortest)
    (h : encode (.double shortest) = some t) : GoodDouble shortest ∧ t = shortest := by
  rw [encode] at h
  split_ifs at h with hinfinite
  rw [not_or] at hinfinite
  refine ⟨?_, (Option.some.inj h).symm⟩
  rcases hgood with heq | heq | hgood
  · exact absurd heq hinfinite.1
  · exact absurd heq hinfinite.2
  · exact hgood

theorem encode_head {v : Value} {t : Text} (hsound : v.Sound IsDouble) (h : encode v = some t) :
    ∃ c rest, t = c :: rest ∧ unitKind c = v.kind := by
  cases v with
  | null =>
    cases h
    exact ⟨_, _, rfl, rfl⟩
  | bool value =>
    cases h
    cases value <;> exact ⟨_, _, rfl, rfl⟩
  | int value =>
    cases h
    obtain ⟨c, rest, heq, hdigit⟩ := decimal_starts value
    exact ⟨c, rest, heq, unitKind_of_digit hdigit⟩
  | double shortest =>
    obtain ⟨hgood, rfl⟩ := encode_double hsound h
    obtain ⟨c, rest, heq, hdigit⟩ := hgood.starts
    exact ⟨c, rest, heq, unitKind_of_digit hdigit⟩
  | str value =>
    cases h
    exact ⟨_, _, rfl, rfl⟩
  | arr items =>
    obtain ⟨texts, -, rfl⟩ := Option.map_eq_some_iff.mp (show (_ : Option _).map _ = some t from h)
    exact ⟨_, _, rfl, rfl⟩
  | obj members =>
    obtain ⟨texts, -, rfl⟩ := Option.map_eq_some_iff.mp (show (_ : Option _).map _ = some t from h)
    exact ⟨_, _, rfl, rfl⟩

/-- No value starts with the closing bracket of an array. -/
theorem encode_ne_close {v : Value} {t rest rest' : Text} (hsound : v.Sound IsDouble)
    (h : encode v = some t) : t ++ rest ≠ 93 :: rest' := by
  obtain ⟨c, tail, rfl, hkind⟩ := encode_head hsound h
  intro hsame
  rw [(List.cons.inj hsame).1] at hkind
  cases v with
  | bool value => exact absurd hkind (by cases value <;> decide)
  | null | int _ | double _ | str _ | arr _ | obj _ =>
    exact absurd hkind (by simp [Value.kind, unitKind, isDigit])

/-! ### Values up to what follows them -/

/-- What follows the first of some texts: a comma and the others, or what comes after all. -/
def behind (texts : List Text) (rest : Text) : Text :=
  if texts = [] then rest else 44 :: (commaJoin texts ++ rest)

theorem commaJoin_cons_append (t : Text) (texts : List Text) (rest : Text) :
    commaJoin (t :: texts) ++ rest = t ++ behind texts rest := by
  cases texts with
  | nil => rfl
  | cons u others =>
    show (t ++ 44 :: commaJoin (u :: others)) ++ rest = t ++ behind (u :: others) rest
    rw [behind, if_neg (List.cons_ne_nil u others), List.append_assoc]
    rfl

theorem closes_behind {mark : UInt16} (hmark : isBare mark = false) (texts : List Text)
    (rest : Text) : Closes (behind texts (mark :: rest)) := by
  unfold behind
  split_ifs
  · exact closes_cons hmark
  · exact closes_cons (by decide)

/-- After the first of some texts what follows is that of the others. -/
theorem behind_inj {mark : UInt16} (hmark : mark ≠ 44) {texts texts' : List Text}
    {rest rest' : Text} (h : behind texts (mark :: rest) = behind texts' (mark :: rest')) :
    commaJoin texts ++ mark :: rest = commaJoin texts' ++ mark :: rest' := by
  unfold behind at h
  split_ifs at h with hnil hnil' hnil'
  · rw [hnil, hnil', h]
  · exact absurd (List.cons.inj h).1 hmark
  · exact absurd (List.cons.inj h).1.symm hmark
  · exact (List.cons.inj h).2

/-- The texts of items: none for none. -/
theorem encodeItems_cons {item : Value} {items : List Value} {texts : List Text}
    (h : encode.encodeItems (item :: items) = some texts) :
    ∃ first others, encode item = some first ∧ encode.encodeItems items = some others ∧
      texts = first :: others := by
  obtain ⟨first, hfirst, h⟩ := Option.bind_eq_some_iff.mp h
  obtain ⟨others, hothers, h⟩ := Option.bind_eq_some_iff.mp h
  exact ⟨first, others, hfirst, hothers, (Option.some.inj h).symm⟩

theorem encodeMembers_cons {name : Text} {value : Value} {members : List (Text × Value)}
    {texts : List Text} (h : encode.encodeMembers ((name, value) :: members) = some texts) :
    ∃ first others, encode value = some first ∧ encode.encodeMembers members = some others ∧
      texts = (quote name ++ 58 :: first) :: others := by
  obtain ⟨first, hfirst, h⟩ := Option.bind_eq_some_iff.mp h
  obtain ⟨others, hothers, h⟩ := Option.bind_eq_some_iff.mp h
  exact ⟨first, others, hfirst, hothers, (Option.some.inj h).symm⟩

/-- What the first units of two texts say agrees. -/
theorem kind_eq {v v' : Value} (hv : v.Sound IsDouble) (hv' : v'.Sound IsDouble)
    (h : encode v = some t) (h' : encode v' = some t') (hsame : t ++ rest = t' ++ rest') :
    v.kind = v'.kind := by
  obtain ⟨c, tail, rfl, hkind⟩ := encode_head hv h
  obtain ⟨c', tail', rfl, hkind'⟩ := encode_head hv' h'
  rw [← hkind, ← hkind', (List.cons.inj hsame).1]

mutual

/-- **A value is read off up to the mark behind it.** -/
theorem encode_append_inj : ∀ (v v' : Value) {t t' rest rest' : Text}, v.Sound IsDouble →
    v'.Sound IsDouble → encode v = some t → encode v' = some t' → Closes rest → Closes rest' →
    t ++ rest = t' ++ rest' → v = v' ∧ rest = rest'
  | .null, v', t, t', rest, rest', hv, hv', h, h', _, _, hsame => by
    have hkind := kind_eq hv hv' h h' hsame
    cases v' with
    | null =>
      cases h
      cases h'
      exact ⟨rfl, List.append_cancel_left hsame⟩
    | bool value => exact absurd hkind (by cases value <;> decide)
    | int _ | double _ | str _ | arr _ | obj _ => exact absurd hkind (by simp [Value.kind])
  | .bool value, v', t, t', rest, rest', hv, hv', h, h', _, _, hsame => by
    have hkind := kind_eq hv hv' h h' hsame
    cases v' with
    | bool value' =>
      have heq : value = value' := by
        cases value <;> cases value' <;> first | rfl | exact absurd hkind (by decide)
      subst heq
      cases h
      cases h'
      exact ⟨rfl, List.append_cancel_left hsame⟩
    | null | int _ | double _ | str _ | arr _ | obj _ =>
      exact absurd hkind (by cases value <;> simp [Value.kind])
  | .int value, v', t, t', rest, rest', hv, hv', h, h', hc, hc', hsame => by
    have hkind := kind_eq hv hv' h h' hsame
    have hbare : ∀ c ∈ decimal value, isBare c = true := fun c hmem =>
      isBare_of_digit (decimal_units value c hmem)
    cases v' with
    | int value' =>
      cases h
      cases h'
      obtain ⟨heq, hrest⟩ := bare_append_inj hbare
        (fun c hmem => isBare_of_digit (decimal_units value' c hmem)) hc hc' hsame
      rw [decimal_int_inj heq]
      exact ⟨rfl, hrest⟩
    | double shortest =>
      cases h
      obtain ⟨hgood, rfl⟩ := encode_double hv' h'
      obtain ⟨heq, -⟩ := bare_append_inj hbare hgood.bare hc hc' hsame
      exact absurd heq (decimal_ne_double hgood)
    | bool value => exact absurd hkind (by cases value <;> simp [Value.kind])
    | null | str _ | arr _ | obj _ => exact absurd hkind (by simp [Value.kind])
  | .double shortest, v', t, t', rest, rest', hv, hv', h, h', hc, hc', hsame => by
    have hkind := kind_eq hv hv' h h' hsame
    obtain ⟨hgood, rfl⟩ := encode_double hv h
    cases v' with
    | int value' =>
      cases h'
      obtain ⟨heq, -⟩ := bare_append_inj hgood.bare
        (fun c hmem => isBare_of_digit (decimal_units value' c hmem)) hc hc' hsame
      exact absurd heq.symm (decimal_ne_double hgood)
    | double shortest' =>
      obtain ⟨hgood', rfl⟩ := encode_double hv' h'
      obtain ⟨rfl, hrest⟩ := bare_append_inj hgood.bare hgood'.bare hc hc' hsame
      exact ⟨rfl, hrest⟩
    | bool value => exact absurd hkind (by cases value <;> simp [Value.kind])
    | null | str _ | arr _ | obj _ => exact absurd hkind (by simp [Value.kind])
  | .str value, v', t, t', rest, rest', hv, hv', h, h', _, _, hsame => by
    have hkind := kind_eq hv hv' h h' hsame
    cases v' with
    | str value' =>
      cases h
      cases h'
      obtain ⟨rfl, hrest⟩ := quote_append_inj hsame
      exact ⟨rfl, hrest⟩
    | bool value => exact absurd hkind (by cases value <;> simp [Value.kind])
    | null | int _ | double _ | arr _ | obj _ => exact absurd hkind (by simp [Value.kind])
  | .arr items, v', t, t', rest, rest', hv, hv', h, h', _, _, hsame => by
    have hkind := kind_eq hv hv' h h' hsame
    cases v' with
    | arr items' =>
      obtain ⟨texts, htexts, rfl⟩ := Option.map_eq_some_iff.mp h
      obtain ⟨texts', htexts', rfl⟩ := Option.map_eq_some_iff.mp h'
      simp only [List.cons_append, List.append_assoc, List.nil_append] at hsame
      obtain ⟨rfl, hrest⟩ := encodeItems_append_inj items items' hv hv' htexts htexts'
        (List.cons.inj hsame).2
      exact ⟨rfl, hrest⟩
    | bool value => exact absurd hkind (by cases value <;> simp [Value.kind])
    | null | int _ | double _ | str _ | obj _ => exact absurd hkind (by simp [Value.kind])
  | .obj members, v', t, t', rest, rest', hv, hv', h, h', _, _, hsame => by
    have hkind := kind_eq hv hv' h h' hsame
    cases v' with
    | obj members' =>
      obtain ⟨texts, htexts, rfl⟩ := Option.map_eq_some_iff.mp h
      obtain ⟨texts', htexts', rfl⟩ := Option.map_eq_some_iff.mp h'
      simp only [List.cons_append, List.append_assoc, List.nil_append] at hsame
      obtain ⟨rfl, hrest⟩ := encodeMembers_append_inj members members' hv.2 hv'.2 htexts htexts'
        (List.cons.inj hsame).2
      exact ⟨rfl, hrest⟩
    | bool value => exact absurd hkind (by cases value <;> simp [Value.kind])
    | null | int _ | double _ | str _ | arr _ => exact absurd hkind (by simp [Value.kind])

theorem encodeItems_append_inj : ∀ (items items' : List Value) {texts texts' : List Text}
    {rest rest' : Text}, Value.Sound.soundItems IsDouble items →
    Value.Sound.soundItems IsDouble items' → encode.encodeItems items = some texts →
    encode.encodeItems items' = some texts' →
    commaJoin texts ++ 93 :: rest = commaJoin texts' ++ 93 :: rest' → items = items' ∧ rest = rest'
  | [], [], texts, texts', rest, rest', _, _, h, h', hsame => by
    cases h
    cases h'
    exact ⟨rfl, (List.cons.inj hsame).2⟩
  | [], item' :: items', texts, texts', rest, rest', _, hitems', h, h', hsame => by
    cases h
    obtain ⟨first, others, hfirst, -, rfl⟩ := encodeItems_cons h'
    rw [commaJoin_cons_append] at hsame
    exact absurd hsame.symm (encode_ne_close hitems'.1 hfirst)
  | item :: items, [], texts, texts', rest, rest', hitems, _, h, h', hsame => by
    cases h'
    obtain ⟨first, others, hfirst, -, rfl⟩ := encodeItems_cons h
    rw [commaJoin_cons_append] at hsame
    exact absurd hsame (encode_ne_close hitems.1 hfirst)
  | item :: items, item' :: items', texts, texts', rest, rest', hitems, hitems', h, h', hsame => by
    obtain ⟨first, others, hfirst, hothers, rfl⟩ := encodeItems_cons h
    obtain ⟨first', others', hfirst', hothers', rfl⟩ := encodeItems_cons h'
    rw [commaJoin_cons_append, commaJoin_cons_append] at hsame
    obtain ⟨rfl, hbehind⟩ := encode_append_inj item item' hitems.1 hitems'.1 hfirst hfirst'
      (closes_behind (by decide) _ _) (closes_behind (by decide) _ _) hsame
    obtain ⟨rfl, hrest⟩ := encodeItems_append_inj items items' hitems.2 hitems'.2 hothers hothers'
      (behind_inj (by decide) hbehind)
    exact ⟨rfl, hrest⟩

theorem encodeMembers_append_inj : ∀ (members members' : List (Text × Value))
    {texts texts' : List Text} {rest rest' : Text}, Value.Sound.soundMembers IsDouble members →
    Value.Sound.soundMembers IsDouble members' → encode.encodeMembers members = some texts →
    encode.encodeMembers members' = some texts' →
    commaJoin texts ++ 125 :: rest = commaJoin texts' ++ 125 :: rest' →
    members = members' ∧ rest = rest'
  | [], [], texts, texts', rest, rest', _, _, h, h', hsame => by
    cases h
    cases h'
    exact ⟨rfl, (List.cons.inj hsame).2⟩
  | [], (_, _) :: _, texts, texts', rest, rest', _, _, h, h', hsame => by
    cases h
    obtain ⟨first, others, -, -, rfl⟩ := encodeMembers_cons h'
    rw [commaJoin_cons_append] at hsame
    exact absurd (List.cons.inj hsame).1 (by decide)
  | (_, _) :: _, [], texts, texts', rest, rest', _, _, h, h', hsame => by
    cases h'
    obtain ⟨first, others, -, -, rfl⟩ := encodeMembers_cons h
    rw [commaJoin_cons_append] at hsame
    exact absurd (List.cons.inj hsame).1 (by decide)
  | (name, value) :: members, (name', value') :: members', texts, texts', rest, rest', hmembers,
      hmembers', h, h', hsame => by
    obtain ⟨first, others, hfirst, hothers, rfl⟩ := encodeMembers_cons h
    obtain ⟨first', others', hfirst', hothers', rfl⟩ := encodeMembers_cons h'
    rw [commaJoin_cons_append, commaJoin_cons_append, List.append_assoc, List.append_assoc] at hsame
    obtain ⟨rfl, hvalues⟩ := quote_append_inj hsame
    obtain ⟨rfl, hbehind⟩ := encode_append_inj value value' hmembers.1 hmembers'.1 hfirst hfirst'
      (closes_behind (by decide) _ _) (closes_behind (by decide) _ _) (List.cons.inj hvalues).2
    obtain ⟨rfl, hrest⟩ := encodeMembers_append_inj members members' hmembers.2 hmembers'.2
      hothers hothers' (behind_inj (by decide) hbehind)
    exact ⟨rfl, hrest⟩

end

/-- **Two values are written as one text only if they are the same.** -/
theorem encode_inj {v v' : Value} {t : Text} (hv : v.Sound IsDouble) (hv' : v'.Sound IsDouble)
    (h : encode v = some t) (h' : encode v' = some t) : v = v' := by
  have hends : Closes [] := fun _ hc => by cases hc
  have hsame : t ++ [] = t ++ [] := rfl
  exact (encode_append_inj v v' hv hv' h h' hends hends hsame).1

end JsonText
