import Mathlib.Data.Vector.Basic

namespace ByteString

/-!
# Fixed-width byte strings

Byte strings of a known length, the reader that cuts one out of a longer payload,
and the big- and little-endian images of a 64-bit word.

* `length_be64`, `be64_injective` — the big-endian image is eight bytes and unique.
-/

/-- A byte string of exactly `n` bytes. -/
abbrev Bytes (n : ℕ) := List.Vector UInt8 n

/-- The byte string that repeats `b`. -/
def fill (n : ℕ) (b : UInt8) : Bytes n := List.Vector.replicate n b

/-- The `n` bytes of `bytes` that start at `start`; missing bytes read as zero. -/
def readFixed (n : ℕ) (bytes : List UInt8) (start : ℕ) : Bytes n :=
  ⟨(bytes.drop start).takeD n 0, List.takeD_length _ _ _⟩

/-- The byte at a position; a missing byte reads as zero. -/
def byteAt (bytes : List UInt8) (i : ℕ) : UInt8 := bytes.getD i 0

/-- The first `n` elements of `b ++ rest` are `b` when `b` has `n` elements. -/
private theorem takeD_append_of_length {n : ℕ} (b rest : List UInt8) (h : b.length = n) :
    (b ++ rest).takeD n 0 = b := by
  induction n generalizing b with
  | zero => rw [List.takeD_zero, List.eq_nil_of_length_eq_zero h]
  | succ n ih =>
    cases b with
    | nil => simp at h
    | cons x xs =>
      have hxs : xs.length = n := by simpa using h
      simp [List.takeD_succ, ih xs hxs]

/-- Reading right after a prefix returns the field that was written there. -/
theorem readFixed_append {n start : ℕ} (pre rest : List UInt8) (b : Bytes n)
    (h : pre.length = start) : readFixed n (pre ++ (b.toList ++ rest)) start = b := by
  apply Subtype.ext
  show ((pre ++ (b.toList ++ rest)).drop start).takeD n 0 = b.toList
  rw [← h, List.drop_left]
  exact takeD_append_of_length _ _ b.2

/-- The byte right after a prefix. -/
theorem byteAt_append {start : ℕ} (pre rest : List UInt8) (b : UInt8)
    (h : pre.length = start) : byteAt (pre ++ (b :: rest)) start = b := by
  simp [byteAt, ← h]

/-! ### Words -/

/-- Byte `i` of a 64-bit word, counted from the least significant one. -/
def wordByte (w : UInt64) (i : ℕ) : UInt8 := UInt8.ofNat (w.toNat / 256 ^ i)

/-- The little-endian image of a 64-bit word. -/
def le64 (w : UInt64) : List UInt8 := (List.range 8).map (wordByte w)

/-- The big-endian image of a 64-bit word. -/
def be64 (w : UInt64) : List UInt8 := (le64 w).reverse

@[simp] theorem length_le64 (w : UInt64) : (le64 w).length = 8 := by simp [le64]

@[simp] theorem length_be64 (w : UInt64) : (be64 w).length = 8 := by simp [be64]

/-- Equal byte `i` means equal base-256 digit `i`. -/
private theorem digit_eq_of_wordByte_eq {a b : UInt64} {i : ℕ} (h : wordByte a i = wordByte b i) :
    a.toNat / 256 ^ i % 256 = b.toNat / 256 ^ i % 256 := by
  have := congrArg UInt8.toNat h
  simpa [wordByte] using this

/-- A word is determined by its eight bytes. -/
theorem le64_injective : Function.Injective le64 := by
  intro a b h
  have hdigit : ∀ i, i < 8 → a.toNat / 256 ^ i % 256 = b.toNat / 256 ^ i % 256 := by
    intro i hi
    apply digit_eq_of_wordByte_eq
    have := congrArg (fun l => l[i]?) h
    simpa [le64, hi] using this
  have ha : a.toNat < 256 ^ 8 := a.toNat_lt
  have hb : b.toNat < 256 ^ 8 := b.toNat_lt
  have h0 := hdigit 0 (by decide)
  have h1 := hdigit 1 (by decide)
  have h2 := hdigit 2 (by decide)
  have h3 := hdigit 3 (by decide)
  have h4 := hdigit 4 (by decide)
  have h5 := hdigit 5 (by decide)
  have h6 := hdigit 6 (by decide)
  have h7 := hdigit 7 (by decide)
  apply UInt64.toNat_inj.mp
  simp only [Nat.reducePow, Nat.div_one] at ha hb h0 h1 h2 h3 h4 h5 h6 h7
  omega

theorem be64_injective : Function.Injective be64 :=
  fun _ _ h => le64_injective (List.reverse_injective h)

end ByteString
