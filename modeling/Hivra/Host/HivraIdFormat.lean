import Hivra.Lib.Regroup

namespace Hivra

/-!
# Keys as words of five bits

The texts of keys carry their bytes as words of five bits.  The regrouping shifts a machine integer
that is never masked, so it loses the bits it does not need any more.

* `foldlM_feed` — the integer is the number read so far, modulo the machine's size.
* `convertBits_padded`, `convertBits_unpadded` — what is put out in either direction.
-/

namespace HivraIdFormat

open Regroup

/-- The platform's integer. -/
abbrev DartInt := BitVec 64

/-- The accumulator, the number of its bits that are not put out yet, and what was put out. -/
structure Regrouping where
  acc : DartInt
  bits : ℕ
  result : List DartInt
  deriving Repr, DecidableEq

/-- `(1 << toBits) - 1`. -/
def maxv (toBits : ℕ) : DartInt := (1 : DartInt) <<< toBits - 1

/-- `while (bits >= toBits)`; every round takes bits away, so there are at most as many rounds. -/
def emitWords (toBits : ℕ) : ℕ → Regrouping → Regrouping
  | 0, state => state
  | fuel + 1, state =>
    if toBits ≤ state.bits then
      let bits := state.bits - toBits
      emitWords toBits fuel
        ⟨state.acc, bits, state.result ++ [state.acc.sshiftRight bits &&& maxv toBits]⟩
    else state

/-- One round of the loop over the data. -/
def feed (fromBits toBits : ℕ) (state : Regrouping) (value : DartInt) : Option Regrouping :=
  if value.slt 0 ∨ value.sshiftRight fromBits ≠ 0 then none
  else
    let acc := state.acc <<< fromBits ||| value
    let bits := state.bits + fromBits
    some (emitWords toBits bits ⟨acc, bits, state.result⟩)

/-- `_convertBits`. -/
def convertBits (data : List DartInt) (fromBits toBits : ℕ) (pad : Bool) :
    Option (List DartInt) := do
  let state ← data.foldlM (feed fromBits toBits) ⟨0, 0, []⟩
  if pad then
    if 0 < state.bits then
      some (state.result ++ [state.acc <<< (toBits - state.bits) &&& maxv toBits])
    else some state.result
  else if fromBits ≤ state.bits ∨ state.acc <<< (toBits - state.bits) &&& maxv toBits ≠ 0 then none
  else some state.result

/-- Numbers as integers of the platform. -/
def ints (words : List ℕ) : List DartInt := words.map (BitVec.ofNat 64)

@[simp] theorem ints_append (words : List ℕ) (word : ℕ) :
    ints (words ++ [word]) = ints words ++ [BitVec.ofNat 64 word] := by
  simp [ints]

theorem ints_injective {width : ℕ} (hwidth : width ≤ 64) {words words' : List ℕ}
    (h : Fits width words) (h' : Fits width words') (heq : ints words = ints words') :
    words = words' := by
  have hpow : 2 ^ width ≤ 2 ^ 64 := Nat.pow_le_pow_right (by omega) hwidth
  have hback : ∀ {list : List ℕ}, Fits width list → (ints list).map BitVec.toNat = list := by
    intro list hlist
    rw [ints, List.map_map]
    conv => rhs; rw [← List.map_id list]
    apply List.map_congr_left
    intro word hword
    exact Nat.mod_eq_of_lt (lt_of_lt_of_le (hlist word hword) hpow)
  rw [← hback h, heq, hback h']

section Words

variable {number bits width : ℕ}

theorem getElem_number {i : ℕ} (hi : i < 64) : (BitVec.ofNat 64 number)[i] = number.testBit i := by
  rw [BitVec.getElem_eq_testBit_toNat, BitVec.toNat_ofNat, Nat.testBit_mod_two_pow]
  simp [hi]

/-- The mask keeps the lowest bits. -/
theorem getElem_maxv {i : ℕ} (hi : i < 64) : (maxv width)[i] = decide (i < width) := by
  have hmask : maxv width = BitVec.ofNat 64 (2 ^ width - 1) := by
    have hone : BitVec.ofNat 64 (2 ^ width) = (1 : DartInt) <<< width := by
      apply BitVec.eq_of_toNat_eq
      simp [Nat.shiftLeft_eq]
    rw [maxv, ← hone, ← BitVec.ofNat_sub_ofNat_of_le _ _ (by norm_num) Nat.one_le_two_pow]
    rfl
  rw [hmask, getElem_number hi, Nat.testBit_two_pow_sub_one]

/-- What the loop checks of a value. -/
theorem valid_iff (hwidth : width < 64) (value : DartInt) :
    ¬(value.slt 0 ∨ value.sshiftRight width ≠ 0) ↔ value.toNat < 2 ^ width := by
  have hpow : 2 ^ width ≤ 2 ^ 63 := Nat.pow_le_pow_right (by omega) (by omega)
  have hslt : value.slt 0 = value.msb := BitVec.slt_zero_eq_msb
  rw [hslt]
  cases hmsb : value.msb with
  | true =>
    rw [BitVec.msb_eq_decide, decide_eq_true_iff] at hmsb
    simp only [true_or, not_true_eq_false, false_iff]
    omega
  | false =>
    rw [BitVec.sshiftRight_eq_of_msb_false hmsb, ne_eq, ← BitVec.toNat_inj]
    simp [Nat.shiftRight_eq_div_pow, Nat.div_eq_zero_iff]

/-- A value read in. -/
theorem shiftLeft_or {value : ℕ} (hvalue : value < 2 ^ width) :
    BitVec.ofNat 64 number <<< width ||| BitVec.ofNat 64 value
      = BitVec.ofNat 64 (number * 2 ^ width + value) := by
  ext i hi
  rw [BitVec.getElem_or, BitVec.getElem_shiftLeft, getElem_number hi, getElem_number hi,
    Nat.mul_comm, Nat.testBit_two_pow_mul_add _ hvalue]
  by_cases h : i < width
  · simp [h]
  · simp [h, getElem_number (show i - width < 64 by omega), Nat.testBit_lt_two_pow
      (lt_of_lt_of_le hvalue (Nat.pow_le_pow_right (by omega) (Nat.le_of_not_lt h)))]

/-- A word put out: the shift is that of a signed integer, but its sign is not among the word's
    bits. -/
theorem sshiftRight_and (h : bits + width ≤ 64) :
    (BitVec.ofNat 64 number).sshiftRight bits &&& maxv width
      = BitVec.ofNat 64 (number / 2 ^ bits % 2 ^ width) := by
  ext i hi
  rw [BitVec.getElem_and, BitVec.getElem_sshiftRight, getElem_number hi,
    getElem_maxv hi, Nat.testBit_mod_two_pow, Nat.testBit_div_two_pow]
  by_cases hword : i < width
  · have hlt : bits + i < 64 := by omega
    simp [hword, hlt, getElem_number hlt, Nat.add_comm]
  · simp [hword]

/-- The word of the pending bits. -/
theorem shiftLeft_and :
    BitVec.ofNat 64 number <<< bits &&& maxv width
      = BitVec.ofNat 64 (number * 2 ^ bits % 2 ^ width) := by
  ext i hi
  rw [BitVec.getElem_and, BitVec.getElem_shiftLeft, getElem_number hi,
    getElem_maxv hi, Nat.testBit_mod_two_pow, Nat.mul_comm, Nat.testBit_two_pow_mul]
  by_cases hword : i < width
  · by_cases h : i < bits
    · simp [h]
    · simp [h, Nat.le_of_not_lt h, hword, getElem_number (show i - bits < 64 by omega)]
  · simp [hword]

end Words

section Loop

variable {fromBits toBits : ℕ}

/-- The loop that puts words out leaves less than a word. -/
theorem emitWords_spec (hto : 0 < toBits) {fuel bits : ℕ} {read out : List ℕ}
    (h : Regrouped fromBits toBits read out bits) (hfuel : bits ≤ fuel) (hbits : bits ≤ 64) :
    ∃ bits' out',
      emitWords toBits fuel ⟨BitVec.ofNat 64 (ofWords fromBits read), bits, ints out⟩
          = ⟨BitVec.ofNat 64 (ofWords fromBits read), bits', ints out'⟩ ∧
        bits' < toBits ∧ Regrouped fromBits toBits read out' bits' := by
  induction fuel generalizing bits out with
  | zero => exact ⟨bits, out, rfl, by omega, h⟩
  | succ fuel ih =>
    unfold emitWords
    by_cases hmore : toBits ≤ bits
    · rw [if_pos hmore]
      dsimp only
      rw [sshiftRight_and (by omega), ← ints_append]
      have hemit : Regrouped fromBits toBits read out (bits - toBits + toBits) := by
        rw [Nat.sub_add_cancel hmore]
        exact h
      exact ih hemit.emit (by omega) (by omega)
    · rw [if_neg hmore]
      exact ⟨bits, out, rfl, by omega, h⟩

/-- One value is read. -/
theorem feed_spec (hto : 0 < toBits) (hwidth : fromBits + toBits ≤ 64) {bits : ℕ}
    {read out : List ℕ} (h : Regrouped fromBits toBits read out bits) (hbits : bits < toBits)
    {value : ℕ} (hvalue : value < 2 ^ fromBits) :
    ∃ bits' out',
      feed fromBits toBits ⟨BitVec.ofNat 64 (ofWords fromBits read), bits, ints out⟩
          (BitVec.ofNat 64 value)
        = some ⟨BitVec.ofNat 64 (ofWords fromBits (read ++ [value])), bits', ints out'⟩ ∧
        bits' < toBits ∧ Regrouped fromBits toBits (read ++ [value]) out' bits' := by
  obtain ⟨bits', out', hemit, hbits', h'⟩ :=
    emitWords_spec hto (h.feed hvalue) (le_refl _) (by omega)
  refine ⟨bits', out', ?_, hbits', h'⟩
  have hpow : 2 ^ fromBits ≤ 2 ^ 63 := Nat.pow_le_pow_right (by omega) (by omega)
  have hvalid : (BitVec.ofNat 64 value).toNat < 2 ^ fromBits := by
    rw [BitVec.toNat_ofNat, Nat.mod_eq_of_lt (by omega)]
    exact hvalue
  unfold feed
  rw [if_neg ((valid_iff (by omega) _).mpr hvalid), ← hemit, ofWords_append, ← shiftLeft_or hvalue]

variable {state next : Regrouping}

/-- A value that is read fits the width. -/
theorem fits_of_feed (hwidth : fromBits < 64) {value : DartInt}
    (h : feed fromBits toBits state value = some next) : value.toNat < 2 ^ fromBits := by
  unfold feed at h
  split at h
  · cases h
  · rename_i hvalid
    exact (valid_iff hwidth value).mp hvalid

variable {read : List ℕ}

/-- **What the loop over the data has put out**: the accumulator is the number that was read. -/
theorem foldlM_feed (hto : 0 < toBits) (hwidth : fromBits + toBits ≤ 64)
    (hread : Fits fromBits read) :
    ∃ bits out,
      (ints read).foldlM (feed fromBits toBits) ⟨0, 0, []⟩
          = some ⟨BitVec.ofNat 64 (ofWords fromBits read), bits, ints out⟩ ∧
        bits < toBits ∧ Regrouped fromBits toBits read out bits := by
  induction read using List.reverseRecOn with
  | nil => exact ⟨0, [], rfl, hto, Regrouped.nil fromBits toBits⟩
  | append_singleton read value ih =>
    rw [fits_append] at hread
    obtain ⟨bits, out, hfold, hbits, h⟩ := ih hread.1
    obtain ⟨bits', out', hfeed, hbits', h'⟩ := feed_spec hto hwidth h hbits hread.2
    refine ⟨bits', out', ?_, hbits', h'⟩
    rw [ints_append, List.foldlM_append, hfold]
    show (feed fromBits toBits _ _ >>= fun next => pure next) = _
    rw [hfeed]
    rfl

/-- Data that is read is of numbers that fit the width. -/
theorem fits_of_foldlM (hwidth : fromBits < 64) {data : List DartInt}
    (h : data.foldlM (feed fromBits toBits) state = some next) :
    ∃ read, Fits fromBits read ∧ data = ints read := by
  refine ⟨data.map BitVec.toNat, ?_, ?_⟩
  · induction data generalizing state with
    | nil => exact fits_nil fromBits
    | cons value data ih =>
      rw [List.foldlM_cons, Option.bind_eq_bind, Option.bind_eq_some_iff] at h
      obtain ⟨first, hfirst, hrest⟩ := h
      intro word hword
      rcases List.mem_cons.mp hword with rfl | hmem
      · exact fits_of_feed hwidth hfirst
      · exact ih hrest word hmem
  · simp [ints, Function.comp_def]

/-- **With padding** the number is multiplied. -/
theorem convertBits_padded (hto : 0 < toBits) (hwidth : fromBits + toBits ≤ 64)
    (hread : Fits fromBits read) :
    ∃ padding < toBits, ∃ out, convertBits (ints read) fromBits toBits true = some (ints out) ∧
      Fits toBits out ∧ toBits * out.length = fromBits * read.length + padding ∧
      ofWords toBits out = ofWords fromBits read * 2 ^ padding := by
  obtain ⟨bits, out, hfold, hbits, h⟩ := foldlM_feed hto hwidth hread
  unfold convertBits
  rw [hfold]
  dsimp only [Option.bind_eq_bind, Option.bind_some]
  rw [if_pos rfl]
  rcases Nat.eq_zero_or_pos bits with rfl | hpending
  · refine ⟨0, hto, out, if_neg (lt_irrefl 0), h.fits, h.length, ?_⟩
    simpa using h.number
  · rw [if_pos hpending, shiftLeft_and, ← ints_append]
    exact ⟨toBits - bits, by omega, _, rfl, h.pad (by omega)⟩

/-- **Without padding** the last bits are dropped, and have to be few and zero. -/
theorem convertBits_unpadded (hto : 0 < toBits) (hwidth : fromBits + toBits ≤ 64)
    (hread : Fits fromBits read) :
    ∃ padding < toBits, ∃ out, Fits toBits out ∧
      toBits * out.length + padding = fromBits * read.length ∧
      ofWords toBits out = ofWords fromBits read / 2 ^ padding ∧
      convertBits (ints read) fromBits toBits false
        = if fromBits ≤ padding ∨ ofWords fromBits read % 2 ^ padding ≠ 0 then none
          else some (ints out) := by
  obtain ⟨bits, out, hfold, hbits, h⟩ := foldlM_feed hto hwidth hread
  refine ⟨bits, hbits, out, h.fits, h.length, h.number, ?_⟩
  -- The pending bits, moved to the top of a word, are zero exactly if they are zero.
  have hpending : BitVec.ofNat 64 (ofWords fromBits read) <<< (toBits - bits) &&& maxv toBits ≠ 0
      ↔ ofWords fromBits read % 2 ^ bits ≠ 0 := by
    have hsplit : 2 ^ toBits = 2 ^ bits * 2 ^ (toBits - bits) := by
      rw [← Nat.pow_add, Nat.add_sub_cancel' hbits.le]
    have hsmall : 2 ^ toBits ≤ 2 ^ 64 := Nat.pow_le_pow_right (by omega) (by omega)
    have hword : ofWords fromBits read % 2 ^ bits * 2 ^ (toBits - bits) < 2 ^ 64 := by
      refine lt_of_lt_of_le ?_ hsmall
      rw [hsplit]
      exact Nat.mul_lt_mul_of_pos_right (Nat.mod_lt _ (by positivity)) (by positivity)
    rw [shiftLeft_and, hsplit, Nat.mul_mod_mul_right, ne_eq, ne_eq,
      ← BitVec.toNat_inj, BitVec.toNat_ofNat, Nat.mod_eq_of_lt hword]
    simp
  unfold convertBits
  rw [hfold]
  dsimp only [Option.bind_eq_bind, Option.bind_some]
  rw [if_neg Bool.false_ne_true]
  simp only [hpending]

end Loop

/-- The bytes of a list. -/
def octets (bytes : List UInt8) : List DartInt := ints (bytes.map UInt8.toNat)

theorem fits_octets (bytes : List UInt8) : Fits 8 (bytes.map UInt8.toNat) := by
  intro word hword
  obtain ⟨byte, _, rfl⟩ := List.mem_map.mp hword
  exact byte.toNat_lt

/-- Numbers of eight bits are bytes. -/
theorem octets_of_fits {words : List ℕ} (h : Fits 8 words) :
    ∃ bytes, ints words = octets bytes := by
  refine ⟨words.map UInt8.ofNat, ?_⟩
  rw [octets, List.map_map]
  congr 1
  conv => lhs; rw [← List.map_id words]
  apply List.map_congr_left
  intro word hword
  exact (UInt8.toNat_ofNat_of_lt' (h word hword)).symm

variable {words out : List DartInt}

/-- Accepted words fit. -/
theorem fits_of_convertBits (h : convertBits words 5 8 false = some out) :
    ∃ read, Fits 5 read ∧ words = ints read := by
  unfold convertBits at h
  rw [Option.bind_eq_bind, Option.bind_eq_some_iff] at h
  obtain ⟨state, hfold, _⟩ := h
  exact fits_of_foldlM (by omega) hfold

/-- What is accepted stands for bytes. -/
theorem octets_of_convertBits (h : convertBits words 5 8 false = some out) :
    ∃ bytes, out = octets bytes := by
  obtain ⟨read, hread, rfl⟩ := fits_of_convertBits h
  obtain ⟨_, _, out', hout, _, _, hunpad⟩ :=
    convertBits_unpadded (show 0 < 8 by omega) (by omega) hread
  rw [hunpad] at h
  split at h
  · cases h
  · rw [← Option.some.inj h]
    exact octets_of_fits hout

/-- Words are accepted for bytes exactly if they are the bytes' padded ones. -/
theorem accepted_iff (words : List DartInt) (bytes : List UInt8) :
    convertBits words 5 8 false = some (octets bytes)
      ↔ convertBits (octets bytes) 8 5 true = some words := by
  obtain ⟨padding, hpadding, padded, hpad, hfits, hlength, hnumber⟩ :=
    convertBits_padded (show 0 < 5 by omega) (by omega) (fits_octets bytes)
  constructor
  · intro h
    obtain ⟨read, hread, rfl⟩ := fits_of_convertBits h
    obtain ⟨dropped, hdropped, out, hout, houtLength, houtNumber, hunpad⟩ :=
      convertBits_unpadded (show 0 < 8 by omega) (by omega) hread
    rw [hunpad] at h
    split at h
    · cases h
    · rename_i haccepted
      obtain ⟨hfew, hzero⟩ := not_or.mp haccepted
      have hsame := ints_injective (by omega) hout (fits_octets bytes) (Option.some.inj h)
      rw [hsame] at houtLength houtNumber
      -- Both paddings are below five and fill the same bytes up to a multiple of five.
      have hequal : padding = dropped := by omega
      have hback : ofWords 5 padded = ofWords 5 read := by
        rw [hnumber, houtNumber, hequal]
        exact Nat.div_mul_cancel (Nat.dvd_of_mod_eq_zero (not_not.mp hzero))
      rw [octets, hpad, ofWords_injective hfits hread (by omega) hback]
  · intro h
    rw [octets, hpad] at h
    rw [← Option.some.inj h]
    obtain ⟨dropped, hdropped, out, hout, houtLength, houtNumber, hunpad⟩ :=
      convertBits_unpadded (show 0 < 8 by omega) (by omega) hfits
    have hequal : dropped = padding := by omega
    have hback : ofWords 8 out = ofWords 8 (bytes.map UInt8.toNat) := by
      rw [houtNumber, hnumber, hequal]
      exact Nat.mul_div_cancel _ (by positivity)
    have haccepted : ¬(5 ≤ dropped ∨ ofWords 5 padded % 2 ^ dropped ≠ 0) := by
      rw [hnumber, hequal, Nat.mul_mod_left]
      omega
    rw [hunpad, if_neg haccepted, octets,
      ofWords_injective hout (fits_octets bytes) (by omega) hback]

/-- **Regrouping is lossless and canonical.**  Bytes that are regrouped with padding come back;
    whatever is accepted stands for bytes and is what these bytes are regrouped to; and for each
    list of bytes there is exactly one list of words that is accepted. -/
theorem convertBits_lossless :
    (∀ bytes, (convertBits (octets bytes) 8 5 true).bind (convertBits · 5 8 false)
        = some (octets bytes)) ∧
      (∀ words out, convertBits words 5 8 false = some out ↔
        (∃ bytes, out = octets bytes) ∧ convertBits out 8 5 true = some words) ∧
      ∀ bytes, ∃! words, convertBits words 5 8 false = some (octets bytes) := by
  have hencoded : ∀ bytes, ∃ words, convertBits (octets bytes) 8 5 true = some words := by
    intro bytes
    obtain ⟨_, _, padded, hpad, _⟩ :=
      convertBits_padded (show 0 < 5 by omega) (by omega) (fits_octets bytes)
    exact ⟨ints padded, hpad⟩
  refine ⟨?_, ?_, ?_⟩
  · intro bytes
    obtain ⟨words, hwords⟩ := hencoded bytes
    rw [hwords]
    exact (accepted_iff words bytes).mpr hwords
  · intro words out
    constructor
    · intro h
      obtain ⟨bytes, rfl⟩ := octets_of_convertBits h
      exact ⟨⟨bytes, rfl⟩, (accepted_iff words bytes).mp h⟩
    · rintro ⟨⟨bytes, rfl⟩, h⟩
      exact (accepted_iff words bytes).mpr h
  · intro bytes
    obtain ⟨words, hwords⟩ := hencoded bytes
    refine ⟨words, (accepted_iff words bytes).mpr hwords, ?_⟩
    intro other hother
    have hsame := (accepted_iff other bytes).mp hother
    rw [hwords] at hsame
    exact (Option.some.inj hsame).symm

end HivraIdFormat

end Hivra
