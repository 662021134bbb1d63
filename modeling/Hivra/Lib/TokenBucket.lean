import Mathlib.Data.List.Count
import Mathlib.Tactic.Linarith

namespace TokenBucket

/-!
# Token buckets

A bucket holds up to `burst` tokens and gets one back in every period.  It is not filled by a
clock: when it is looked at, the periods since its checkpoint are paid out and the checkpoint
moves on by whole periods.  A bucket that is full may be thrown away, and a new one is full.

* `Kept.refill`, `Kept.take`, `Kept.waste`, `Kept.discard`, `Idle.create` — each operation.
* `Kept.bounded`, `Idle.bounded` — in no window more tokens were taken than it allows.
-/

/-- The periods of a time, the last one begun. -/
def periods (period span : ℕ) : ℕ := (span + (period - 1)) / period

theorem periods_mono {period a b : ℕ} (h : a ≤ b) : periods period a ≤ periods period b :=
  Nat.div_le_div_right (by omega)

theorem le_periods_iff {period n span : ℕ} (hpos : 0 < period) :
    n ≤ periods period span ↔ n * period ≤ span + (period - 1) :=
  Nat.le_div_iff_mul_le hpos

theorem periods_add {period span n : ℕ} (hpos : 0 < period) :
    periods period (span + n * period) = periods period span + n := by
  have hshift : span + n * period + (period - 1) = span + (period - 1) + n * period := by omega
  rw [periods, periods, hshift, Nat.add_mul_div_right _ _ hpos]

/-- The times from one on. -/
def since (start : ℕ) (taken : List ℕ) : ℕ := taken.countP fun t => decide (start ≤ t)

/-- The times of a window. -/
def within (start stop : ℕ) (taken : List ℕ) : ℕ :=
  taken.countP fun t => decide (start ≤ t ∧ t ≤ stop)

theorem within_le_since (start stop : ℕ) (taken : List ℕ) :
    within start stop taken ≤ since start taken := by
  apply List.countP_mono_left
  intro t _ ht
  rw [decide_eq_true_eq] at ht ⊢
  exact ht.1

theorem since_snoc (start now : ℕ) (taken : List ℕ) :
    since start (taken ++ [now]) = since start taken + if start ≤ now then 1 else 0 := by
  rw [since, List.countP_append, List.countP_singleton]
  simp [since]

theorem within_snoc (start stop now : ℕ) (taken : List ℕ) :
    within start stop (taken ++ [now]) =
      within start stop taken + if start ≤ now ∧ now ≤ stop then 1 else 0 := by
  rw [within, List.countP_append, List.countP_singleton]
  simp [within]

theorem since_eq_zero {start : ℕ} {taken : List ℕ} (h : ∀ t ∈ taken, t < start) :
    since start taken = 0 := by
  rw [since, List.countP_eq_zero]
  intro t ht
  have hlt := h t ht
  simpa using hlt

structure Bucket where
  available : ℕ
  checkpoint : ℕ

section Bounds

variable {burst period : ℕ}

/-- In every window there are at most `burst` times and one for each period of the window. -/
def Bounded (burst period : ℕ) (taken : List ℕ) : Prop :=
  ∀ start stop, within start stop taken ≤ burst + periods period (stop - start)

/-- What a bucket says about the times at which its tokens were taken. -/
structure Kept (burst period latest : ℕ) (taken : List ℕ) (bucket : Bucket) : Prop where
  available_le : bucket.available ≤ burst
  checkpoint_le : bucket.checkpoint ≤ latest
  taken_le : ∀ t ∈ taken, t ≤ latest
  taken_lt : ∀ t ∈ taken, t < bucket.checkpoint + period
  owed : ∀ start, since start taken + bucket.available ≤
    burst + periods period (bucket.checkpoint - start)
  bounded : Bounded burst period taken

/-- The same where there is no bucket: a full one could have been thrown away. -/
structure Idle (burst period latest : ℕ) (taken : List ℕ) : Prop where
  taken_le : ∀ t ∈ taken, t ≤ latest
  owed : ∀ start, since start taken ≤ periods period (latest - start)
  bounded : Bounded burst period taken

theorem Idle.nil (burst period latest : ℕ) : Idle burst period latest [] where
  taken_le := by simp
  owed := by simp [since]
  bounded := by simp [Bounded, within]

variable {latest now : ℕ} {taken : List ℕ} {bucket : Bucket}

theorem Idle.mono (h : Idle burst period latest taken) (hnow : latest ≤ now) :
    Idle burst period now taken where
  taken_le t ht := (h.taken_le t ht).trans hnow
  owed start := (h.owed start).trans (periods_mono (by omega))
  bounded := h.bounded

theorem Kept.mono (h : Kept burst period latest taken bucket) (hnow : latest ≤ now) :
    Kept burst period now taken bucket where
  __ := h
  checkpoint_le := h.checkpoint_le.trans hnow
  taken_le t ht := (h.taken_le t ht).trans hnow

/-- A bucket as it is looked at: the whole periods since its checkpoint are paid out. -/
def Bucket.refill (burst period now : ℕ) (bucket : Bucket) : Bucket where
  available := min (bucket.available + (now - bucket.checkpoint) / period) burst
  checkpoint := bucket.checkpoint + (now - bucket.checkpoint) / period * period

/-- A bucket that was looked at is behind by less than a period. -/
theorem Bucket.lt_refill (burst : ℕ) (hpos : 0 < period) (now : ℕ) (bucket : Bucket) :
    now < (bucket.refill burst period now).checkpoint + period := by
  have hlt := Nat.lt_div_mul_add hpos (a := now - bucket.checkpoint)
  show now < bucket.checkpoint + (now - bucket.checkpoint) / period * period + period
  omega

theorem Kept.refill (hpos : 0 < period) (h : Kept burst period latest taken bucket)
    (hnow : latest ≤ now) : Kept burst period now taken (bucket.refill burst period now) := by
  have hcheckpoint := h.checkpoint_le
  have hpaid := Nat.div_mul_le_self (now - bucket.checkpoint) period
  refine ⟨Nat.min_le_right .., ?_, fun t ht => (h.taken_le t ht).trans hnow, ?_, ?_, h.bounded⟩
  · show bucket.checkpoint + (now - bucket.checkpoint) / period * period ≤ now
    omega
  · intro t ht
    have hlt := h.taken_lt t ht
    show t < bucket.checkpoint + (now - bucket.checkpoint) / period * period + period
    omega
  · intro start
    have howed := h.owed start
    have havailable := h.available_le
    show since start taken + min (bucket.available + (now - bucket.checkpoint) / period) burst ≤
      burst + periods period
        (bucket.checkpoint + (now - bucket.checkpoint) / period * period - start)
    generalize (now - bucket.checkpoint) / period = n at hpaid ⊢
    -- the window begins before the checkpoint, less than a period after it, or later
    rcases Nat.lt_or_ge bucket.checkpoint start with hafter | hbefore
    · rcases Nat.lt_or_ge start (bucket.checkpoint + period) with hnear | hfar
      · have hzero : periods period (bucket.checkpoint - start) = 0 := by
          rw [periods, Nat.div_eq_zero_iff]
          omega
        have hn : n ≤ periods period (bucket.checkpoint + n * period - start) := by
          rw [le_periods_iff hpos]
          omega
        omega
      · have hnone : since start taken = 0 :=
          since_eq_zero fun t ht => (h.taken_lt t ht).trans_le hfar
        omega
    · have hspan : bucket.checkpoint + n * period - start =
          bucket.checkpoint - start + n * period := by omega
      rw [hspan, periods_add hpos]
      omega

def Bucket.take (bucket : Bucket) : Bucket := { bucket with available := bucket.available - 1 }

theorem Kept.take (h : Kept burst period now taken bucket) (havailable : 0 < bucket.available)
    (hnow : now < bucket.checkpoint + period) :
    Kept burst period now (taken ++ [now]) bucket.take := by
  have hle := h.available_le
  have hsnoc : ∀ start, since start (taken ++ [now]) + (bucket.available - 1) ≤
      burst + periods period (bucket.checkpoint - start) := by
    intro start
    have howed := h.owed start
    rw [since_snoc]
    split_ifs with hstart
    · omega
    · omega
  refine ⟨?_, h.checkpoint_le, ?_, ?_, hsnoc, ?_⟩
  · show bucket.available - 1 ≤ burst
    omega
  · intro t ht
    rcases List.mem_append.mp ht with hold | hlast
    · exact h.taken_le t hold
    · exact (List.mem_singleton.mp hlast).le
  · intro t ht
    show t < bucket.checkpoint + period
    rcases List.mem_append.mp ht with hold | hlast
    · exact h.taken_lt t hold
    · rw [List.mem_singleton.mp hlast]
      exact hnow
  · intro start stop
    rcases Nat.lt_or_ge stop now with hlater | hreached
    · -- the window is over
      have hbounded := h.bounded start stop
      rw [within_snoc, if_neg (by omega)]
      exact hbounded
    · have hwithin := within_le_since start stop (taken ++ [now])
      have hcheckpoint := h.checkpoint_le
      have hmono : periods period (bucket.checkpoint - start) ≤ periods period (stop - start) :=
        periods_mono (by omega)
      have hall := hsnoc start
      omega

/-- A token is lost. -/
theorem Kept.waste (h : Kept burst period latest taken bucket) :
    Kept burst period latest taken bucket.take where
  __ := h
  available_le := (Nat.sub_le ..).trans h.available_le
  owed start := by
    have howed := h.owed start
    show since start taken + (bucket.available - 1) ≤
      burst + periods period (bucket.checkpoint - start)
    omega

/-- A full bucket is thrown away. -/
theorem Kept.discard (h : Kept burst period latest taken bucket)
    (hfull : bucket.available = burst) : Idle burst period latest taken where
  taken_le := h.taken_le
  owed start := by
    have howed := h.owed start
    have hcheckpoint := h.checkpoint_le
    have hmono : periods period (bucket.checkpoint - start) ≤ periods period (latest - start) :=
      periods_mono (by omega)
    omega
  bounded := h.bounded

/-- A new bucket is full. -/
theorem Idle.create (hpos : 0 < period) (h : Idle burst period now taken) :
    Kept burst period now taken ⟨burst, now⟩ where
  available_le := Nat.le_refl _
  checkpoint_le := Nat.le_refl _
  taken_le := h.taken_le
  taken_lt t ht := by
    have hle := h.taken_le t ht
    show t < now + period
    omega
  owed start := by
    have howed := h.owed start
    show since start taken + burst ≤ burst + periods period (now - start)
    omega
  bounded := h.bounded

end Bounds

end TokenBucket
