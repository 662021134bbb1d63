import Hivra.Lib.Bytes
import Hivra.Lib.Json

namespace Serde

open JsonDocument ByteString

/-!
# Typed reading of documents

The number literals of a JSON text, and how a typed reader takes integers, byte strings,
lists, options and records out of a document.

* `readBytes_writeBytes`, `readNat_writeNat` — what was written is read back.
-/

/-- A number literal: an integer, or anything with a fraction, an exponent or a minus zero,
    as it is written. -/
inductive Literal
  | int (value : ℤ)
  | real (text : String)
  deriving DecidableEq

/-- The document of a JSON text. -/
abbrev Document := Json Literal

/-! ### Integers -/

/-- An integer from zero up to a bound; a literal that is not an integer is refused. -/
def readNat (bound : ℕ) : Document → Option ℕ
  | .num (.int value) => if 0 ≤ value ∧ value < bound then some value.toNat else none
  | _ => none

def readU8 (doc : Document) : Option UInt8 := (readNat (2 ^ 8) doc).map UInt8.ofNat

def readU64 (doc : Document) : Option UInt64 := (readNat (2 ^ 64) doc).map UInt64.ofNat

/-- The literal of a natural number. -/
def writeNat (value : ℕ) : Document := .num (.int value)

def writeU8 (value : UInt8) : Document := writeNat value.toNat

def writeU64 (value : UInt64) : Document := writeNat value.toNat

/-- A number below the bound is read back. -/
theorem readNat_writeNat {bound value : ℕ} (h : value < bound) :
    readNat bound (writeNat value) = some value := by
  have hrange : (0 : ℤ) ≤ value ∧ (value : ℤ) < bound := by omega
  rw [writeNat, readNat, if_pos hrange, Int.toNat_natCast]

@[simp] theorem readU8_writeU8 (value : UInt8) : readU8 (writeU8 value) = some value := by
  rw [readU8, writeU8, readNat_writeNat value.toNat_lt, Option.map_some, UInt8.ofNat_toNat]

@[simp] theorem readU64_writeU64 (value : UInt64) : readU64 (writeU64 value) = some value := by
  rw [readU64, writeU64, readNat_writeNat value.toNat_lt, Option.map_some, UInt64.ofNat_toNat]

/-- What is read as a number was an integer literal. -/
theorem int_of_readNat {bound value : ℕ} {doc : Document} (h : readNat bound doc = some value) :
    ∃ literal : ℤ, doc = .num (.int literal) := by
  unfold readNat at h
  split at h
  · exact ⟨_, rfl⟩
  · cases h

/-! ### Lists and byte strings -/

section Items

variable {α : Type}

/-- Every item read, if each one can be. -/
def readItems (read : Document → Option α) : List Document → Option (List α)
  | [] => some []
  | item :: rest =>
    match read item, readItems read rest with
    | some value, some values => some (value :: values)
    | _, _ => none

def readList (read : Document → Option α) : Document → Option (List α)
  | .arr items => readItems read items
  | _ => none

/-- A value or null. -/
def readOption (read : Document → Option α) : Document → Option (Option α)
  | .null => some none
  | doc => (read doc).map some

/-- **A list is read item by item.** -/
theorem readItems_iff (read : Document → Option α) (items : List Document) (values : List α) :
    readItems read items = some values ↔
      List.Forall₂ (fun item value => read item = some value) items values := by
  induction items generalizing values with
  | nil => simp [readItems, eq_comm]
  | cons item rest ih =>
    rw [readItems, List.forall₂_cons_left_iff]
    cases hitem : read item with
    | none => simp
    | some value =>
      cases hrest : readItems read rest with
      | none => simp [← ih, hrest]
      | some values' =>
        simp only [← ih, hrest, Option.some.injEq]
        constructor
        · rintro rfl
          exact ⟨value, values', rfl, rfl, rfl⟩
        · rintro ⟨_, _, rfl, rfl, rfl⟩
          rfl

/-- Written values are read back. -/
theorem readItems_map {read : Document → Option α} {write : α → Document} {values : List α}
    (h : ∀ value ∈ values, read (write value) = some value) :
    readItems read (values.map write) = some values := by
  rw [readItems_iff, List.forall₂_map_left_iff, List.forall₂_same]
  exact h

end Items

/-- Bytes as an array of numbers. -/
def writeBytes (bytes : List UInt8) : Document := .arr (bytes.map writeU8)

/-- Exactly `n` bytes, as an array of numbers. -/
def readBytes (n : ℕ) (doc : Document) : Option (Bytes n) :=
  match readList readU8 doc with
  | some bytes => if h : bytes.length = n then some ⟨bytes, h⟩ else none
  | none => none

/-- Exactly `n` bytes, as an array of numbers or as the bytes of a text. -/
def readBytesOrText (n : ℕ) : Document → Option (Bytes n)
  | .str text =>
    if h : text.toUTF8.toList.length = n then some ⟨text.toUTF8.toList, h⟩ else none
  | doc => readBytes n doc

@[simp] theorem readList_writeBytes (bytes : List UInt8) :
    readList readU8 (writeBytes bytes) = some bytes :=
  readItems_map fun value _ => readU8_writeU8 value

@[simp] theorem readBytes_writeBytes {n : ℕ} (bytes : Bytes n) :
    readBytes n (writeBytes bytes.toList) = some bytes := by
  rw [readBytes, readList_writeBytes]
  exact dif_pos bytes.2

@[simp] theorem readBytesOrText_writeBytes {n : ℕ} (bytes : Bytes n) :
    readBytesOrText n (writeBytes bytes.toList) = some bytes :=
  readBytes_writeBytes bytes

/-! ### Records -/

/-- The fields of a record by name: the members of an object, where no field repeats and
    other members are skipped, or the items of an array in the order of the fields. -/
def readStruct (names : List String) : Document → Option (String → Option Document)
  | .obj members =>
    if ((members.map Prod.fst).filter fun name => name ∈ names).Nodup then
      some fun name => members.lookup name
    else
      none
  | .arr items =>
    if items.length ≤ names.length then some fun name => items[names.idxOf name]? else none
  | _ => none

/-- The name of a variant without content. -/
def readUnitVariant : Document → Option String
  | .str name => some name
  | .obj [(name, .null)] => some name
  | _ => none

variable {members : List (String × Document)}

/-- The fields of an object that repeats no name. -/
theorem readStruct_obj {names : List String} (h : (members.map Prod.fst).Nodup) :
    readStruct names (.obj members) = some fun name => members.lookup name := by
  rw [readStruct, if_pos (h.filter _)]

/-! ### Reading a changed document -/

section Changed

variable {α β : Type} {f : Literal → Option Literal}

/-- What is read of a field of a changed object is read of the changed value. -/
theorem readField_of_changed {members members' : List (String × Document)}
    (h : List.Forall₂ (fun member member' => member'.1 = member.1 ∧
      member.2.traverse f = some member'.2) members members')
    {name : String} {value : Document} (hlookup : members.lookup name = some value)
    {read : Document → Option α} {a : α} (hread : (members'.lookup name).bind read = some a) :
    ∃ value', value.traverse f = some value' ∧ read value' = some a := by
  rw [Json.lookup_of_forall₂ h, hlookup, Option.bind_some, Option.bind_eq_some_iff] at hread
  exact hread

/-- What is read of a changed array is read of its changed items. -/
theorem readList_of_changed {write : β → Document} {read : Document → Option α} {xs : List β}
    {doc : Document} {values : List α} (hdoc : (Json.arr (xs.map write)).traverse f = some doc)
    (hread : readList read doc = some values) :
    ∀ x ∈ xs, ∃ item value, (write x).traverse f = some item ∧ read item = some value := by
  obtain ⟨items, rfl, hitems⟩ := (Json.traverse_arr_iff _ _).mp hdoc
  have hvalues := (readItems_iff read items values).mp hread
  rw [List.forall₂_map_left_iff] at hitems
  clear hdoc hread
  induction hitems generalizing values with
  | nil => simp
  | @cons x item xs items hitem _ ih =>
    cases hvalues with
    | cons hvalue hrest =>
      intro y hy
      rcases List.mem_cons.mp hy with rfl | hmem
      · exact ⟨item, _, hitem, hvalue⟩
      · exact ih hrest y hmem

/-- The fields of a changed object keep their names. -/
theorem readStruct_of_changed {names : List String} {members members' : List (String × Document)}
    (h : List.Forall₂ (fun member member' => member'.1 = member.1 ∧
      member.2.traverse f = some member'.2) members members')
    (hnames : (members.map Prod.fst).Nodup) :
    readStruct names (.obj members') = some fun name => members'.lookup name :=
  readStruct_obj (by rw [Json.names_of_forall₂ h]; exact hnames)

end Changed

/-- A field whose value is read. -/
theorem readField {α : Type} {read : Document → Option α} {value : Document} {a : α} {name : String}
    (hread : read value = some a) (hlookup : members.lookup name = some value) :
    (members.lookup name).bind read = some a := by
  rw [hlookup, Option.bind_some, hread]

end Serde
