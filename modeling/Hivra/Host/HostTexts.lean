import Mathlib.Data.List.DropRight
import Hivra.Host.IntentHandler

namespace Hivra

/-!
# Texts without white space at their ends

What the host trims once it need not trim again, and the same holds with lower case.  A text of
64 digits is a text of either kind.

* `trimmed_trimmed`, `trimmedLower_trimmedLower` — what has been read once is read as itself.
* `trimmedLower_of_isHex64` — a key is read as itself.
-/

/-- A text without white space at its ends. -/
def trimmed (text : String) : String := String.ofList (dartTrim text.toList)

/-- The length of a text in the host: a character beyond the first plane counts twice. -/
def dartLength (text : String) : ℕ :=
  (text.toList.map fun c => if c.toNat < 0x10000 then 1 else 2).sum

variable {text : String}

theorem dartLength_of_plane (h : ∀ c ∈ text.toList, c.toNat < 0x10000) :
    dartLength text = text.toList.length := by
  have hones : (text.toList.map fun c => if c.toNat < 0x10000 then 1 else 2) =
      text.toList.map fun _ => 1 := List.map_congr_left fun c hc => if_pos (h c hc)
  simp [dartLength, hones]

theorem dartTrim_eq (text : List Char) :
    dartTrim text = (text.dropWhile isDartWhite).rdropWhile isDartWhite := rfl

/-- A trimmed text starts as the text does behind its white space. -/
theorem dropWhile_dartTrim (text : List Char) :
    (dartTrim text).dropWhile isDartWhite = dartTrim text := by
  rw [dartTrim_eq, List.dropWhile_eq_self_iff]
  intro hlength
  have hprefix := List.rdropWhile_prefix isDartWhite (text.dropWhile isDartWhite)
  have hfull := lt_of_lt_of_le hlength hprefix.length_le
  rw [List.IsPrefix.getElem hprefix hlength]
  have hself := List.dropWhile_idempotent isDartWhite text
  exact List.dropWhile_eq_self_iff.mp hself hfull

theorem dartTrim_dartTrim (text : List Char) : dartTrim (dartTrim text) = dartTrim text := by
  rw [dartTrim_eq (dartTrim text), dropWhile_dartTrim, dartTrim_eq, List.rdropWhile_idempotent]

theorem trimmed_trimmed (text : String) : trimmed (trimmed text) = trimmed text := by
  rw [trimmed, trimmed, String.toList_ofList, dartTrim_dartTrim]

theorem toNat_toLower (c : Char) :
    c.toLower.toNat = if 65 ≤ c.toNat ∧ c.toNat ≤ 90 then c.toNat + 32 else c.toNat := by
  unfold Char.toLower
  split_ifs with hupper hrange hrange
  · show (c.val + ('a'.val - 'A'.val)).toNat = c.toNat + 32
    rw [UInt32.toNat_add]
    exact Nat.mod_eq_of_lt (by show c.toNat + 32 < _; omega)
  · exact absurd hupper hrange
  · exact absurd hrange hupper
  · rfl

theorem isDartWhite_of_range {c : Char} (hlow : 33 ≤ c.toNat) (hhigh : c.toNat ≤ 126) :
    isDartWhite c = false := by
  simp only [isDartWhite, isWhite, Bool.or_eq_false_iff, Bool.and_eq_false_iff,
    decide_eq_false_iff_not, beq_eq_false_iff_ne]
  omega

/-- A capital and its small letter are no white space. -/
theorem isDartWhite_toLower (c : Char) : isDartWhite c.toLower = isDartWhite c := by
  have hcode := toNat_toLower c
  split_ifs at hcode with hupper
  · rw [isDartWhite_of_range (c := c) (by omega) (by omega),
      isDartWhite_of_range (by omega) (by omega)]
  · rw [Char.toNat_inj.mp hcode]

/-- Trimming and lower case can be done in either order. -/
theorem dartTrim_map_toLower (text : List Char) :
    dartTrim (text.map Char.toLower) = (dartTrim text).map Char.toLower := by
  have hwhite : isDartWhite ∘ Char.toLower = isDartWhite := funext isDartWhite_toLower
  rw [dartTrim, List.dropWhile_map, hwhite, ← List.map_reverse, List.dropWhile_map, hwhite,
    ← List.map_reverse]
  rfl

theorem toLower_toLower (c : Char) : c.toLower.toLower = c.toLower := by
  have hcode := toNat_toLower c
  have hagain := toNat_toLower c.toLower
  refine Char.toNat_inj.mp ?_
  split_ifs at hcode hagain <;> omega

theorem trimmedLower_trimmedLower (text : String) :
    trimmedLower (trimmedLower text) = trimmedLower text := by
  rw [trimmedLower, trimmedLower, String.toList_ofList, dartTrim_map_toLower, dartTrim_dartTrim,
    List.map_map, show Char.toLower ∘ Char.toLower = Char.toLower from funext toLower_toLower]

/-! ### Keys -/

theorem digit_range {c : Char} (h : (c.isDigit || (decide ('a' ≤ c) && decide (c ≤ 'f'))) = true) :
    48 ≤ c.toNat ∧ c.toNat ≤ 57 ∨ 97 ≤ c.toNat ∧ c.toNat ≤ 102 := by
  rw [Bool.or_eq_true, Bool.and_eq_true, decide_eq_true_eq, decide_eq_true_eq, Char.isDigit,
    Bool.and_eq_true, decide_eq_true_eq, decide_eq_true_eq] at h
  exact h

/-- A digit is no white space and has no capital. -/
theorem digit_facts {c : Char} (h : (c.isDigit || (decide ('a' ≤ c) && decide (c ≤ 'f'))) = true) :
    isDartWhite c = false ∧ c.toLower = c := by
  have hrange := digit_range h
  refine ⟨isDartWhite_of_range (by omega) (by omega), Char.toNat_inj.mp ?_⟩
  rw [toNat_toLower, if_neg (by omega)]

/-- The digits of a key. -/
theorem digit_of_isHex64 (h : isHex64 text = true) :
    ∀ c ∈ text.toList, isDartWhite c = false ∧ c.toLower = c := by
  intro c hc
  have hdigit : (c.isDigit || (decide ('a' ≤ c) && decide (c ≤ 'f'))) = true :=
    List.all_eq_true.mp (Bool.and_eq_true_iff.mp h).2 c hc
  exact digit_facts hdigit

theorem trimmed_of_isHex64 (h : isHex64 text = true) : trimmed text = text := by
  rw [trimmed, dartTrim_of_not_white fun c hc => (digit_of_isHex64 h c hc).1,
    String.ofList_toList]

theorem trimmedLower_of_isHex64 (h : isHex64 text = true) : trimmedLower text = text := by
  have hlower : text.toList.map Char.toLower = text.toList :=
    (List.map_congr_left fun c hc => (digit_of_isHex64 h c hc).2).trans (List.map_id' _)
  rw [trimmedLower, dartTrim_of_not_white fun c hc => (digit_of_isHex64 h c hc).1, hlower,
    String.ofList_toList]

theorem ne_empty_of_isHex64 (h : isHex64 text = true) : text ≠ "" := by
  rintro rfl
  exact absurd h (by decide)

end Hivra
