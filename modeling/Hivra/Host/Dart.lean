import Hivra.Ffi.LedgerJson

namespace Hivra

open JsonDocument Serde

/-!
# Documents in the host language

The host decodes a JSON text into its own values and encodes values back.  An integer
literal outside the signed 64-bit range becomes a double, and a double is written with a
fraction or an exponent.  What the language does with doubles is a `DartRuntime`.

* `hostLiteral_int` — which integer literals come back as they were.
-/

/-- What the host language does with doubles and texts. -/
structure DartRuntime (Double : Type) where
  /-- The double of an integer literal outside the 64-bit range. -/
  doubleOfInt : ℤ → Double
  /-- The double of any other literal. -/
  doubleOfText : String → Double
  /-- The literal of a double, with a fraction or an exponent; only a finite one has it. -/
  writeDouble : Double → Option String
  /-- The integer of a double; only a finite one has it. -/
  toInt : Double → Option ℤ
  /-- Whether a double equals an integer. -/
  equalsInt : Double → ℤ → Bool
  /-- `int.tryParse` in a radix, where one is given. -/
  tryParseInt : Option ℕ → List Char → Option ℤ
  base64Decode : List Char → Option (List UInt8)
  /-- `toString` of a value that is not a text. -/
  display : Json (ℤ ⊕ Double) → String

/-- A small runtime for worked examples: a double is the literal of an integer beyond the
    64-bit range, and its integer the largest in the range. -/
def sampleDart : DartRuntime String where
  doubleOfInt value := toString value ++ ".0"
  doubleOfText text := text
  writeDouble text := some text
  toInt _ := some (2 ^ 63 - 1)
  equalsInt text value := text == toString value ++ ".0"
  tryParseInt _ text := (digitsValue 10 0 text).map Int.ofNat
  base64Decode _ := none
  display
    | .num (.inl value) => toString value
    | .num (.inr text) => text
    | _ => ""

/-- A number of the host: a 64-bit integer, or a double. -/
abbrev DartNumber (Double : Type) := ℤ ⊕ Double

/-- A decoded document. -/
abbrev DartValue (Double : Type) := Json (DartNumber Double)

section Dart

variable {Double : Type} (dart : DartRuntime Double)

/-- The number of a literal. -/
def decodeNumber : Literal → DartNumber Double
  | .int value =>
    if -2 ^ 63 ≤ value ∧ value < 2 ^ 63 then .inl value else .inr (dart.doubleOfInt value)
  | .real text => .inr (dart.doubleOfText text)

/-- The literal of a number. -/
def encodeNumber : DartNumber Double → Option Literal
  | .inl value => some (.int value)
  | .inr value => (dart.writeDouble value).map .real

/-- Decode a document; objects are maps. -/
def jsonDecode (doc : Document) : DartValue Double := doc.collapse.map (decodeNumber dart)

/-- Encode a value; this throws on a double that is not finite. -/
def jsonEncode (value : DartValue Double) : Option Document := value.traverse (encodeNumber dart)

/-- Decode a document and encode it again. -/
def recode (doc : Document) : Option Document := jsonEncode dart (jsonDecode dart doc)

/-- What becomes of a literal. -/
def hostLiteral (literal : Literal) : Option Literal :=
  encodeNumber dart (decodeNumber dart literal)

/-- **Decoding and encoding changes the number literals one by one.** -/
theorem recode_eq {doc : Document} (h : doc.WellKeyed) :
    recode dart doc = doc.traverse (hostLiteral dart) := by
  rw [recode, jsonEncode, jsonDecode, Json.collapse_of_wellKeyed doc h, Json.traverse_map]
  rfl

/-- An integer in the 64-bit range comes back as it was. -/
theorem hostLiteral_int {value : ℤ} (h : -2 ^ 63 ≤ value ∧ value < 2 ^ 63) :
    hostLiteral dart (.int value) = some (.int value) := by
  rw [hostLiteral, decodeNumber, if_pos h]
  rfl

/-- What comes back as an integer was that integer, in the 64-bit range. -/
theorem int_of_hostLiteral {literal : Literal} {value : ℤ}
    (h : hostLiteral dart literal = some (.int value)) :
    literal = .int value ∧ -2 ^ 63 ≤ value ∧ value < 2 ^ 63 := by
  have hdouble : ∀ double : Double, encodeNumber dart (.inr double) ≠ some (.int value) := by
    intro double heq
    rw [encodeNumber, Option.map_eq_some_iff] at heq
    obtain ⟨_, -, hreal⟩ := heq
    cases hreal
  cases literal with
  | real text => exact absurd h (hdouble _)
  | int original =>
    rw [hostLiteral, decodeNumber] at h
    split_ifs at h with hrange
    · have heq : original = value := by simpa [encodeNumber] using h
      rw [← heq]
      exact ⟨rfl, hrange⟩
    · exact absurd h (hdouble _)

/-! ### Byte strings -/

/-- White space of the host: the byte order mark counts. -/
def isDartWhite (c : Char) : Bool := isWhite c || c.toNat == 0xFEFF

/-- The text without white space at its ends. -/
def dartTrim (text : List Char) : List Char :=
  ((text.dropWhile isDartWhite).reverse.dropWhile isDartWhite).reverse

/-- Whether a text is 64 lower-case hexadecimal digits. -/
def isHex64 (text : String) : Bool :=
  text.toList.length == 64 && text.toList.all fun c => c.isDigit || ('a' ≤ c && c ≤ 'f')

theorem isDartWhite_digit : ∀ d < 16, isDartWhite (Nat.digitChar d) = false := by decide

theorem dropWhile_of_not_white {text : List Char} (h : ∀ c ∈ text, isDartWhite c = false) :
    text.dropWhile isDartWhite = text := by
  cases text with
  | nil => rfl
  | cons c rest => rw [List.dropWhile_cons_of_neg (by simp [h c List.mem_cons_self])]

theorem dartTrim_of_not_white {text : List Char} (h : ∀ c ∈ text, isDartWhite c = false) :
    dartTrim text = text := by
  rw [dartTrim, dropWhile_of_not_white h, dropWhile_of_not_white (by simpa using h),
    List.reverse_reverse]

theorem not_white_hexText {bytes : List UInt8} :
    ∀ c ∈ (hexText bytes).toList, isDartWhite c = false :=
  forall_hexText isDartWhite_digit bytes

/-- A number as a byte: none when it is out of range. -/
def byteOfInt (value : ℤ) : Option UInt8 :=
  if 0 ≤ value ∧ value ≤ 255 then some (UInt8.ofNat value.toNat) else none

/-- The bytes of hexadecimal digits, two at a time. -/
def hexBytes : List Char → Option (List UInt8)
  | [] => some []
  | high :: low :: rest =>
    match toDigit 16 high, toDigit 16 low, hexBytes rest with
    | some high, some low, some bytes => some (UInt8.ofNat (16 * high + low) :: bytes)
    | _, _, _ => none
  | [_] => none

/-- The bytes of a text: hexadecimal, or else base 64, or else none. -/
def bytesOfText (text : String) : List UInt8 :=
  let trimmed := dartTrim text.toList
  match hexBytes trimmed with
  | some bytes => bytes
  | none => (dart.base64Decode trimmed).getD []

/-- The loop over the items of a byte list; the outcome is none where it throws. -/
def payloadItems (out : List UInt8) : List (DartValue Double) → Option (List UInt8)
  | [] => some out
  | .num (.inl value) :: rest =>
    match byteOfInt value with
    | some byte => payloadItems (out ++ [byte]) rest
    | none => some []
  | .num (.inr double) :: rest =>
    match dart.toInt double with
    | none => none
    | some value =>
      match byteOfInt value with
      | some byte => payloadItems (out ++ [byte]) rest
      | none => some []
  | _ :: _ => some []

/-- The bytes of a value; nothing that is not a byte string has any. -/
def payloadBytes : DartValue Double → Option (List UInt8)
  | .arr items => payloadItems dart [] items
  | .str text => some (bytesOfText dart text)
  | _ => some []

/-- The bytes of a field, if it holds a byte string. -/
def parseBytesField (value : Option (DartValue Double)) : Option (Option (List UInt8)) :=
  match value with
  | some (.arr items) =>
    (payloadItems dart [] items).map fun bytes =>
      if bytes.isEmpty ∧ ¬ items.isEmpty then none else some bytes
  | some (.str text) =>
    let bytes := bytesOfText dart text
    some (if bytes.isEmpty then none else some bytes)
  | _ => some none

/-! ### Ledger documents -/

/-- The members of a ledger document; nothing else than an object has any. -/
def exportLedgerRoot (doc : Document) : Option (List (String × DartValue Double)) :=
  match jsonDecode dart doc with
  | .obj members => some members
  | _ => none

/-- The events of a ledger document. -/
def rootEvents (root : List (String × DartValue Double)) : List (DartValue Double) :=
  match root.lookup "events" with
  | some (.arr events) => events
  | _ => []

/-- The owner of a ledger document in hexadecimal, if it has 32 bytes. -/
def ownerHex (root : List (String × DartValue Double)) : Option (Option String) :=
  (parseBytesField dart (root.lookup "owner")).map fun owner =>
    owner.bind fun bytes => if bytes.length = 32 then some (hexText bytes) else none

end Dart

end Hivra
