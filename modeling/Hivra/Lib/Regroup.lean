import Mathlib.Data.Nat.Digits.Lemmas
import Mathlib.Tactic.Ring

namespace Regroup

/-!
# Regrouping bits

A list of words of one width, read as the digits of a number, is regrouped into words of another
width.  The number is what the two lists have in common.

* `Regrouped.feed`, `Regrouped.emit` — what one more word, or one word that is put out, does.
* `Regrouped.pad` — the padding multiplies the number.
-/

/-- The number of a list of words of a width, the first word highest. -/
def ofWords (width : ℕ) (words : List ℕ) : ℕ :=
  words.foldl (fun number word => number * 2 ^ width + word) 0

/-- Every word fits the width. -/
def Fits (width : ℕ) (words : List ℕ) : Prop := ∀ word ∈ words, word < 2 ^ width

@[simp] theorem ofWords_nil (width : ℕ) : ofWords width [] = 0 := rfl

@[simp] theorem ofWords_append (width : ℕ) (words : List ℕ) (word : ℕ) :
    ofWords width (words ++ [word]) = ofWords width words * 2 ^ width + word := by
  simp [ofWords]

@[simp] theorem fits_nil (width : ℕ) : Fits width [] := by
  simp [Fits]

@[simp] theorem fits_append {width : ℕ} {words : List ℕ} {word : ℕ} :
    Fits width (words ++ [word]) ↔ Fits width words ∧ word < 2 ^ width := by
  simp [Fits, or_imp, forall_and]

/-- **Words of one width are determined by their number and their count.** -/
theorem ofWords_injective {width : ℕ} {words words' : List ℕ} (h : Fits width words)
    (h' : Fits width words') (hlength : words.length = words'.length)
    (hnumber : ofWords width words = ofWords width words') : words = words' := by
  induction words using List.reverseRecOn generalizing words' with
  | nil => exact (List.length_eq_zero_iff.mp hlength.symm).symm
  | append_singleton words word ih =>
    cases words' using List.reverseRecOn with
    | nil => simp at hlength
    | append_singleton words' word' =>
      rw [fits_append] at h h'
      rw [ofWords_append, ofWords_append] at hnumber
      -- The last word is the number modulo the width, the others are what is before it.
      have hlast : word = word' := by
        have hmod := congrArg (· % 2 ^ width) hnumber
        simpa [Nat.mul_add_mod, Nat.mod_eq_of_lt h.2, Nat.mod_eq_of_lt h'.2] using hmod
      have hrest : ofWords width words = ofWords width words' := by
        rw [hlast, Nat.add_right_cancel_iff] at hnumber
        exact Nat.eq_of_mul_eq_mul_right (by positivity) hnumber
      have hcount : words.length = words'.length := by simpa using hlength
      rw [ih h.1 h'.1 hcount hrest, hlast]

/-- The words that have been put out hold all the bits of the words that were read, but the last
    ones, which are pending. -/
structure Regrouped (fromBits toBits : ℕ) (read out : List ℕ) (bits : ℕ) : Prop where
  fits : Fits toBits out
  length : toBits * out.length + bits = fromBits * read.length
  number : ofWords toBits out = ofWords fromBits read / 2 ^ bits

section Regrouped

variable {fromBits toBits bits : ℕ} {read out : List ℕ}

theorem Regrouped.nil (fromBits toBits : ℕ) : Regrouped fromBits toBits [] [] 0 where
  fits := fits_nil toBits
  length := by simp
  number := by simp

/-- One more word is read. -/
theorem Regrouped.feed (h : Regrouped fromBits toBits read out bits) {word : ℕ}
    (hword : word < 2 ^ fromBits) :
    Regrouped fromBits toBits (read ++ [word]) out (bits + fromBits) where
  fits := h.fits
  length := by
    rw [List.length_append, List.length_singleton, Nat.mul_add, Nat.mul_one, ← h.length]
    omega
  number := by
    rw [h.number, ofWords_append, Nat.add_comm bits fromBits, Nat.pow_add, ← Nat.div_div_eq_div_mul]
    congr 1
    rw [Nat.add_comm, Nat.add_mul_div_right _ _ (by positivity), Nat.div_eq_of_lt hword,
      Nat.zero_add]

/-- A word is put out. -/
theorem Regrouped.emit (h : Regrouped fromBits toBits read out (bits + toBits)) :
    Regrouped fromBits toBits read
      (out ++ [ofWords fromBits read / 2 ^ bits % 2 ^ toBits]) bits where
  fits := fits_append.mpr ⟨h.fits, Nat.mod_lt _ (by positivity)⟩
  length := by
    rw [List.length_append, List.length_singleton, Nat.mul_add, Nat.mul_one, ← h.length]
    omega
  number := by
    rw [ofWords_append, h.number, Nat.pow_add, ← Nat.div_div_eq_div_mul]
    exact Nat.div_add_mod' _ _

/-- The pending bits are put out, with zeros behind them. -/
theorem Regrouped.pad (h : Regrouped fromBits toBits read out bits) (hbits : bits ≤ toBits) :
    let padded := out ++ [ofWords fromBits read * 2 ^ (toBits - bits) % 2 ^ toBits]
    Fits toBits padded ∧ toBits * padded.length = fromBits * read.length + (toBits - bits) ∧
      ofWords toBits padded = ofWords fromBits read * 2 ^ (toBits - bits) := by
  have hsplit : 2 ^ toBits = 2 ^ bits * 2 ^ (toBits - bits) := by
    rw [← Nat.pow_add, Nat.add_sub_cancel' hbits]
  refine ⟨fits_append.mpr ⟨h.fits, Nat.mod_lt _ (by positivity)⟩, ?_, ?_⟩
  · have hlength := h.length
    rw [List.length_append, List.length_singleton, Nat.mul_add, Nat.mul_one]
    omega
  · rw [ofWords_append, h.number, hsplit, Nat.mul_mod_mul_right, ← Nat.mul_assoc, ← Nat.add_mul,
      Nat.div_add_mod']

end Regrouped

end Regroup
