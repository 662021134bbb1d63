import Mathlib.Algebra.Group.Int.Defs
import Mathlib.Algebra.Group.Nat.Defs
import Mathlib.Data.List.Infix

namespace JsonText

/-!
# JSON in text

JSON values and the texts they are written as, over UTF-16 code units.  The writer escapes a
quote, a backslash, a control character and a surrogate without its partner; everything else
stands in the text as it is.

* `quote_plain`, `text_inj`, `decimal_inj`, `commaJoin_inj` — what can be read off a text.
* `decode` — the strict reader; of two members of one name the later value counts.
-/

/-- A text as its code units. -/
abbrev Text := List UInt16

/-- The text of a string without characters beyond the basic plane. -/
def text (s : String) : Text := s.toList.map fun c => UInt16.ofNat c.toNat

inductive Value
  | null
  | bool (value : Bool)
  | int (value : ℤ)
  | double (shortest : Text)
  | str (value : Text)
  | arr (items : List Value)
  | obj (members : List (Text × Value))

/-! ### Members -/

/-- Set the member of a name; a new one comes last. -/
def setMember {α : Type} (name : Text) (value : α) : List (Text × α) → List (Text × α)
  | [] => [(name, value)]
  | (other, old) :: rest =>
    if other = name then (name, value) :: rest else (other, old) :: setMember name value rest

/-- The member of a name. -/
def member? {α : Type} (name : Text) (members : List (Text × α)) : Option α :=
  (members.find? fun entry => entry.1 == name).map Prod.snd

/-! ### Writing -/

def isLead (c : UInt16) : Bool := c &&& 0xFC00 == 0xD800

def isTail (c : UInt16) : Bool := c &&& 0xFC00 == 0xDC00

/-- The unit is a surrogate without its partner beside it. -/
def isLone (prev : Option UInt16) (c : UInt16) (next : Option UInt16) : Bool :=
  (isLead c && !next.any isTail) || (isTail c && !prev.any isLead)

def hexDigit (n : UInt16) : UInt16 := if n < 10 then 48 + n else 87 + n

/-- A unit as a six-unit escape. -/
def unicodeEscape (c : UInt16) : Text :=
  [92, 117, hexDigit (c >>> 12 &&& 15), hexDigit (c >>> 8 &&& 15), hexDigit (c >>> 4 &&& 15),
    hexDigit (c &&& 15)]

/-- The letter of a control character with an escape of its own. -/
def controlLetter (c : UInt16) : Option UInt16 :=
  if c = 8 then some 98
  else if c = 9 then some 116
  else if c = 10 then some 110
  else if c = 12 then some 102
  else if c = 13 then some 114
  else none

/-- The unit has to be escaped between these neighbours. -/
def isEscaped (prev : Option UInt16) (c : UInt16) (next : Option UInt16) : Bool :=
  decide (c < 32) || c == 34 || c == 92 || isLone prev c next

def escapeUnit (c : UInt16) : Text :=
  if c = 34 ∨ c = 92 then [92, c]
  else
    match controlLetter c with
    | some letter => [92, letter]
    | none => unicodeEscape c

/-- Escape a text behind a unit. -/
def escapeFrom (prev : Option UInt16) : Text → Text
  | [] => []
  | c :: rest =>
    (if isEscaped prev c rest.head? then escapeUnit c else [c]) ++ escapeFrom (some c) rest

/-- A text between quotes. -/
def quote (t : Text) : Text := 34 :: escapeFrom none t ++ [34]

/-- Texts with a comma between them. -/
def commaJoin : List Text → Text
  | [] => []
  | [t] => t
  | t :: rest => t ++ 44 :: commaJoin rest

/-- The decimal digits of a number. -/
def decimal (n : ℤ) : Text := text (toString n)

/-- The text of a value; an infinite double has none. -/
def encode : Value → Option Text
  | .null => some (text "null")
  | .bool value => some (text (if value then "true" else "false"))
  | .int value => some (decimal value)
  | .double shortest =>
    if shortest = text "Infinity" ∨ shortest = text "-Infinity" then none else some shortest
  | .str value => some (quote value)
  | .arr items => (encodeItems items).map fun texts => 91 :: commaJoin texts ++ [93]
  | .obj members => (encodeMembers members).map fun texts => 123 :: commaJoin texts ++ [125]
where
  encodeItems : List Value → Option (List Text)
    | [] => some []
    | item :: rest => do
      let first ← encode item
      let others ← encodeItems rest
      some (first :: others)
  encodeMembers : List (Text × Value) → Option (List Text)
    | [] => some []
    | (name, value) :: rest => do
      let first ← encode value
      let others ← encodeMembers rest
      some ((quote name ++ 58 :: first) :: others)

/-! ### What needs no escape -/

/-- No unit of the text is escaped, behind this unit. -/
def verbatimFrom (prev : Option UInt16) : Text → Bool
  | [] => true
  | c :: rest => !isEscaped prev c rest.head? && verbatimFrom (some c) rest

/-- A unit that stands alone without an escape stands between any neighbours without one. -/
theorem isEscaped_mono {prev prev' next next' : Option UInt16} {c : UInt16}
    (hprev : prev = none ∨ prev = prev') (hnext : next = none ∨ next = next')
    (h : isEscaped prev c next = false) : isEscaped prev' c next' = false := by
  unfold isEscaped isLone at *
  rcases hprev with rfl | rfl <;> rcases hnext with rfl | rfl <;> simp_all

/-- A verbatim text in front of another one. -/
theorem escapeFrom_verbatim {t : Text} {prev prev' : Option UInt16} (rest : Text)
    (hprev : prev = none ∨ prev = prev') (h : verbatimFrom prev t = true) :
    ∃ last, escapeFrom prev' (t ++ rest) = t ++ escapeFrom last rest := by
  induction t generalizing prev prev' with
  | nil => exact ⟨prev', rfl⟩
  | cons c tail ih =>
    rw [verbatimFrom, Bool.and_eq_true, Bool.not_eq_true'] at h
    have hnext : tail.head? = none ∨ tail.head? = (tail ++ rest).head? := by
      cases tail with
      | nil => exact Or.inl rfl
      | cons d more => exact Or.inr rfl
    obtain ⟨last, hlast⟩ := ih (Or.inr rfl) h.2
    refine ⟨last, ?_⟩
    show (if isEscaped prev' c (tail ++ rest).head? then escapeUnit c else [c]) ++
      escapeFrom (some c) (tail ++ rest) = _
    rw [isEscaped_mono hprev hnext h.1, hlast]
    rfl

/-! ### What can be read off a text -/

/-- The unit needs no escape, whatever its neighbours are. -/
def isPlain (c : UInt16) : Bool :=
  !decide (c < 32) && c != 34 && c != 92 && !isLead c && !isTail c

theorem verbatimFrom_of_plain {t : Text} (h : ∀ c ∈ t, isPlain c = true) (prev : Option UInt16) :
    verbatimFrom prev t = true := by
  induction t generalizing prev with
  | nil => rfl
  | cons c rest ih =>
    have hc := h c List.mem_cons_self
    simp only [isPlain, Bool.and_eq_true, Bool.not_eq_true', bne_iff_ne] at hc
    obtain ⟨⟨⟨⟨hcontrol, hquote⟩, hbackslash⟩, hlead⟩, htail⟩ := hc
    rw [verbatimFrom, ih (fun d hd => h d (List.mem_cons_of_mem _ hd)), Bool.and_true,
      Bool.not_eq_true']
    simp [isEscaped, isLone, hcontrol, hquote, hbackslash, hlead, htail]

/-- A text of plain units is written as it is. -/
theorem quote_plain {t : Text} (h : ∀ c ∈ t, isPlain c = true) : quote t = 34 :: t ++ [34] := by
  obtain ⟨last, hlast⟩ := @escapeFrom_verbatim t none none [] (.inl rfl) (verbatimFrom_of_plain h none)
  rw [List.append_nil] at hlast
  unfold quote
  rw [hlast]
  simp [escapeFrom]

theorem text_append (s s' : String) : text (s ++ s') = text s ++ text s' := by
  simp [text]

/-- A string without characters beyond the basic plane can be read off its text. -/
theorem map_text {s : String} (h : ∀ c ∈ s.toList, c.toNat < 65536) :
    ((text s).map fun c => Char.ofNat c.toNat) = s.toList := by
  unfold text
  rw [List.map_map]
  refine (List.map_congr_left fun c hc => ?_).trans (List.map_id' _)
  have hc := h c hc
  show Char.ofNat (UInt16.ofNat c.toNat).toNat = c
  rw [UInt16.toNat_ofNat', Nat.mod_eq_of_lt hc, Char.ofNat_toNat]

theorem text_inj {s s' : String} (hs : ∀ c ∈ s.toList, c.toNat < 65536)
    (hs' : ∀ c ∈ s'.toList, c.toNat < 65536) (h : text s = text s') : s = s' := by
  refine String.toList_inj.mp ?_
  rw [← map_text hs, ← map_text hs', h]

/-! ### Numbers -/

theorem digits_of_repr (n : ℕ) : ∀ c ∈ (Nat.repr n).toList, 48 ≤ c.toNat ∧ c.toNat ≤ 57 := by
  intro c hc
  rw [Nat.toList_repr] at hc
  have hdigit := Nat.isDigit_of_mem_toDigits (by decide) (by decide) hc
  rw [Char.isDigit, Bool.and_eq_true, decide_eq_true_eq, decide_eq_true_eq] at hdigit
  exact hdigit

/-- The digits of a number that is not negative. -/
theorem digits_of_decimal (n : ℕ) : ∀ c ∈ decimal n, 48 ≤ c.toNat ∧ c.toNat ≤ 57 := by
  intro c hc
  obtain ⟨d, hd, rfl⟩ := List.mem_map.mp hc
  have hdigit := digits_of_repr n d hd
  rw [UInt16.toNat_ofNat']
  omega

theorem decimal_inj {m n : ℕ} (h : decimal m = decimal n) : m = n := by
  have hplane : ∀ k : ℕ, ∀ c ∈ (Nat.repr k).toList, c.toNat < 65536 := fun k c hc => by
    have := digits_of_repr k c hc
    omega
  have hrepr := congrArg String.toList (text_inj (hplane m) (hplane n) h)
  rw [Nat.toList_repr, Nat.toList_repr] at hrepr
  rw [← Nat.ofDigitChars_ten_toDigits (n := m), hrepr, Nat.ofDigitChars_ten_toDigits]

/-! ### Closed texts -/

/-- A list is split at the first occurrence of an item. -/
theorem split_inj {α : Type*} {c : α} {front front' back back' : List α} (h : c ∉ front)
    (h' : c ∉ front') (hsame : front ++ c :: back = front' ++ c :: back') :
    front = front' ∧ back = back' := by
  induction front generalizing front' with
  | nil =>
    cases front' with
    | nil => exact ⟨rfl, (List.cons.inj hsame).2⟩
    | cons d rest' => exact absurd (List.cons.inj hsame).1 fun heq => h' (heq ▸ List.mem_cons_self)
  | cons d rest ih =>
    cases front' with
    | nil => exact absurd (List.cons.inj hsame).1 fun heq => h (heq ▸ List.mem_cons_self)
    | cons d' rest' =>
      obtain ⟨rfl, hrest⟩ := List.cons.inj hsame
      obtain ⟨rfl, hback⟩ := ih (fun hmem => h (List.mem_cons_of_mem _ hmem))
        (fun hmem => h' (List.mem_cons_of_mem _ hmem)) hrest
      exact ⟨rfl, hback⟩

/-- A unit that ends a text and is nowhere else in it. -/
def EndsWith (last : UInt16) (t : Text) : Prop := ∃ body, t = body ++ [last] ∧ last ∉ body

/-- **Texts that end with a unit of their own can be told apart between commas.** -/
theorem commaJoin_inj {last : UInt16} {texts texts' : List Text}
    (h : ∀ t ∈ texts, EndsWith last t) (h' : ∀ t ∈ texts', EndsWith last t)
    (hsame : commaJoin texts = commaJoin texts') : texts = texts' := by
  have hjoin : ∀ (t : Text) (rest : List Text),
      commaJoin (t :: rest) = t ++ if rest = [] then [] else 44 :: commaJoin rest := by
    intro t rest
    cases rest <;> simp [commaJoin]
  induction texts generalizing texts' with
  | nil =>
    cases texts' with
    | nil => rfl
    | cons t' rest' =>
      obtain ⟨body, rfl, -⟩ := h' t' List.mem_cons_self
      rw [hjoin] at hsame
      simp [commaJoin] at hsame
  | cons t rest ih =>
    obtain ⟨body, rfl, hbody⟩ := h t List.mem_cons_self
    cases texts' with
    | nil =>
      rw [hjoin] at hsame
      simp [commaJoin] at hsame
    | cons t' rest' =>
      obtain ⟨body', rfl, hbody'⟩ := h' t' List.mem_cons_self
      rw [hjoin, hjoin, List.append_assoc, List.append_assoc] at hsame
      -- the first occurrence of the unit is the end of the first text
      obtain ⟨rfl, htails⟩ := split_inj hbody hbody' hsame
      have hrest : rest = rest' := by
        by_cases hnil : rest = []
        · by_cases hnil' : rest' = []
          · rw [hnil, hnil']
          · rw [if_pos hnil, if_neg hnil'] at htails
            exact nomatch htails
        · by_cases hnil' : rest' = []
          · rw [if_neg hnil, if_pos hnil'] at htails
            exact nomatch htails
          · rw [if_neg hnil, if_neg hnil'] at htails
            exact ih (fun t ht => h t (List.mem_cons_of_mem _ ht))
              (fun t ht => h' t (List.mem_cons_of_mem _ ht)) (List.cons.inj htails).2
      rw [hrest]

/-! ### Reading -/

/-- A word of a text: a mark, a string, or a number or literal as it is written. -/
inductive Word
  | mark (c : UInt16)
  | str (value : Text)
  | bare (read : Text)

/-- Where the reader of words is. -/
inductive Lexer
  | between
  | inBare (read : Text)
  | inString (read : Text)
  | inEscape (read : Text)
  | inUnicode (read : Text) (digits : ℕ) (value : UInt16)

def isSpace (c : UInt16) : Bool := c == 32 || c == 9 || c == 10 || c == 13

def isMark (c : UInt16) : Bool :=
  c == 91 || c == 93 || c == 123 || c == 125 || c == 44 || c == 58

def isDigit (c : UInt16) : Bool := decide (48 ≤ c) && decide (c ≤ 57)

/-- A unit of a number or a literal. -/
def isBare (c : UInt16) : Bool :=
  isDigit c || (decide (97 ≤ c) && decide (c ≤ 122)) || c == 43 || c == 45 || c == 46 || c == 69

def hexValue (c : UInt16) : Option UInt16 :=
  if isDigit c then some (c - 48)
  else if 97 ≤ c ∧ c ≤ 102 then some (c - 87)
  else if 65 ≤ c ∧ c ≤ 70 then some (c - 55)
  else none

/-- What a letter behind a backslash stands for. -/
def simpleEscape (c : UInt16) : Option UInt16 :=
  if c = 34 ∨ c = 92 ∨ c = 47 then some c
  else if c = 98 then some 8
  else if c = 102 then some 12
  else if c = 110 then some 10
  else if c = 114 then some 13
  else if c = 116 then some 9
  else none

/-- One unit between words. -/
def lexBetween (words : List Word) (c : UInt16) : Option (Lexer × List Word) :=
  if isSpace c then some (.between, words)
  else if isMark c then some (.between, words ++ [.mark c])
  else if c = 34 then some (.inString [], words)
  else if isBare c then some (.inBare [c], words)
  else none

/-- One unit of a text. -/
def lexStep (state : Lexer × List Word) (c : UInt16) : Option (Lexer × List Word) :=
  match state with
  | (.between, words) => lexBetween words c
  | (.inBare read, words) =>
    if isBare c then some (.inBare (read ++ [c]), words)
    else lexBetween (words ++ [.bare read]) c
  | (.inString read, words) =>
    if c = 34 then some (.between, words ++ [.str read])
    else if c = 92 then some (.inEscape read, words)
    else if c < 32 then none
    else some (.inString (read ++ [c]), words)
  | (.inEscape read, words) =>
    if c = 117 then some (.inUnicode read 0 0, words)
    else (simpleEscape c).map fun value => (.inString (read ++ [value]), words)
  | (.inUnicode read digits value, words) =>
    (hexValue c).map fun digit =>
      if digits = 3 then (.inString (read ++ [value * 16 + digit]), words)
      else (.inUnicode read (digits + 1) (value * 16 + digit), words)

/-- The words of a text. -/
def lex (t : Text) : Option (List Word) :=
  match t.foldlM lexStep (.between, []) with
  | some (.between, words) => some words
  | some (.inBare read, words) => some (words ++ [.bare read])
  | _ => none

/-- The number that some digits spell. -/
def digitsValue (digits : Text) : ℕ :=
  digits.foldl (fun value digit => value * 10 + (digit - 48).toNat) 0

/-- What is left behind a fraction: a point and at least one digit. -/
def dropFraction (t : Text) : Option Text :=
  match t with
  | 46 :: rest =>
    if rest.takeWhile isDigit = [] then none else some (rest.dropWhile isDigit)
  | _ => some t

/-- What is left behind an exponent: its letter, a sign if any, and at least one digit. -/
def dropExponent (t : Text) : Option Text :=
  match t with
  | 101 :: rest | 69 :: rest =>
    let digits := match rest with
      | 43 :: digits => digits
      | 45 :: digits => digits
      | _ => rest
    if digits.takeWhile isDigit = [] then none else some (digits.dropWhile isDigit)
  | _ => some t

/-- The value of a number as it is written; what is no 64-bit integer is a double. -/
def numberValue (doubleText : Text → Text) (read : Text) : Option Value := do
  let (negative, unsigned) := match read with
    | 45 :: rest => (true, rest)
    | _ => (false, read)
  let digits := unsigned.takeWhile isDigit
  let rest := unsigned.dropWhile isDigit
  let behindFraction ← dropFraction rest
  let behind ← dropExponent behindFraction
  if digits = [] ∨ (digits.head? = some 48 ∧ digits ≠ [48]) ∨ behind ≠ [] then none
  else
    let value : ℤ := if negative then -(digitsValue digits : ℤ) else digitsValue digits
    if rest = [] ∧ -2 ^ 63 ≤ value ∧ value < 2 ^ 63 then some (.int value)
    else some (.double (doubleText read))

def bareValue (doubleText : Text → Text) (read : Text) : Option Value :=
  if read = text "null" then some .null
  else if read = text "true" then some (.bool true)
  else if read = text "false" then some (.bool false)
  else numberValue doubleText read

/-- A container that is open. -/
inductive Frame
  | items (read : List Value)
  | members (read : List (Text × Value)) (name : Text)

/-- What the reader of values waits for. -/
inductive Expects
  | value
  | firstItem
  | behindItem (read : List Value)
  | firstName
  | name (read : List (Text × Value))
  | colon (read : List (Text × Value)) (name : Text)
  | behindMember (read : List (Text × Value))
  | nothing (value : Value)

/-- A value is complete inside the open containers. -/
def complete (stack : List Frame) (value : Value) : List Frame × Expects :=
  match stack with
  | [] => ([], .nothing value)
  | .items read :: rest => (rest, .behindItem (read ++ [value]))
  | .members read name :: rest => (rest, .behindMember (setMember name value read))

/-- The word starts a value. -/
def openValue (doubleText : Text → Text) (stack : List Frame) (word : Word) :
    Option (List Frame × Expects) :=
  match word with
  | .mark 91 => some (stack, .firstItem)
  | .mark 123 => some (stack, .firstName)
  | .mark _ => none
  | .str value => some (complete stack (.str value))
  | .bare read => (bareValue doubleText read).map (complete stack)

/-- One word of a text. -/
def readStep (doubleText : Text → Text) (state : List Frame × Expects) (word : Word) :
    Option (List Frame × Expects) :=
  match state.2, word with
  | .value, word => openValue doubleText state.1 word
  | .firstItem, .mark 93 => some (complete state.1 (.arr []))
  | .firstItem, word => openValue doubleText (.items [] :: state.1) word
  | .behindItem read, .mark 44 => some (.items read :: state.1, .value)
  | .behindItem read, .mark 93 => some (complete state.1 (.arr read))
  | .firstName, .mark 125 => some (complete state.1 (.obj []))
  | .firstName, .str name => some (state.1, .colon [] name)
  | .name read, .str name => some (state.1, .colon read name)
  | .colon read name, .mark 58 => some (.members read name :: state.1, .value)
  | .behindMember read, .mark 44 => some (state.1, .name read)
  | .behindMember read, .mark 125 => some (complete state.1 (.obj read))
  | _, _ => none

/-- The value a text is written for. -/
def decode (doubleText : Text → Text) (t : Text) : Option Value := do
  let words ← lex t
  match words.foldlM (readStep doubleText) ([], .value) with
  | some ([], .nothing value) => some value
  | _ => none

example : (decode id (text "\x7b\"a\": [1, \"\\u0062\"], \"a\": [-2.5e1, null]\x7d")).bind encode
    = some (text "\x7b\"a\":[-2.5e1,null]\x7d") := by decide +kernel

end JsonText
