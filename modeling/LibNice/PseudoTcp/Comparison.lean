import LibNice.PseudoTcp.Types

/-!
The comparisons of times and sequence numbers that wrap (`agent/pseudotcp.c`).

* `timeDiff_eq_ahead`, `ahead_eq_toInt`: `time_diff` is the signed reading of the difference, at the
  two ends of the range too.
* `largerOrEqual_iff`: `LARGER_OR_EQUAL` in terms of `LARGER`, with the one distance at which they
  differ.
* `ComparisonLaws`: what is asked of the comparisons of two numbers.
* `comparisonLaws_iff`: **they hold** exactly unless the first number is `2 ^ 31 - 1` ahead of the
  second; `largest_not_largerOrEqual` is that distance.
-/

namespace LibNice.PseudoTcp

open LibNice.Foundation

variable {a b : UInt32}

/-! ### Times -/

/-- The signed reading of a difference, in two's complement. -/
lemma ahead_eq_toInt (a b : UInt32) : ahead a b = (a - b).toInt32.toInt := by
  have hlt := (a - b).toNat_lt
  have hread : (a - b).toInt32.toInt = ((a - b).toNat : ℤ).bmod (2 ^ 32) :=
    BitVec.toInt_eq_toNat_bmod _
  rw [hread, ahead, Int.bmod_def]
  split <;> omega

/-- The test of `time_diff`: the later time is not more than half the range after the earlier
one. -/
lemma timeIsBetween_half (later earlier : UInt32) :
    timeIsBetween (earlier + 0x80000000) later earlier = true ↔
      (later - earlier).toNat ≤ 2147483648 := by
  have hl := later.toNat_lt
  have he := earlier.toNat_lt
  simp only [timeIsBetween, UInt32.le_iff_toNat_le, UInt32.lt_iff_toNat_lt, toNat_add, toNat_sub,
    show (0x80000000 : UInt32).toNat = 2147483648 from rfl]
  split
  · simp only [Bool.and_eq_true, decide_eq_true_eq]
    omega
  · simp only [Bool.not_eq_true', Bool.and_eq_false_iff, decide_eq_false_iff_not]
    omega

/-- The difference that `time_diff` takes by way of the largest number. -/
lemma toNat_wrapped_sub (a b : UInt32) :
    (a + (0xFFFFFFFF - b) + 1).toNat = (a - b).toNat := by
  have ha := a.toNat_lt
  have hb := b.toNat_lt
  simp only [toNat_add, toNat_sub, show (0xFFFFFFFF : UInt32).toNat = 4294967295 from rfl,
    show (1 : UInt32).toNat = 1 from rfl]
  omega

/-- **`time_diff`** is the signed reading of the difference.  Half the range apart both branches of
the test would do, and the conversion to 32 bits makes the result negative. -/
theorem timeDiff_eq_ahead (later earlier : UInt32) :
    timeDiff later earlier = ahead later earlier := by
  have hl := later.toNat_lt
  have he := earlier.toNat_lt
  have hsub := toNat_sub later earlier
  have hsub' := toNat_sub earlier later
  have hforward : timeIsBetween (earlier + 0x80000000) later earlier = true →
      timeDiff later earlier = ((later - earlier).toNat : ℤ).bmod (2 ^ 32) := by
    intro hbetween
    rw [timeDiff, if_pos hbetween]
    split
    · rfl
    · rw [toNat_wrapped_sub later earlier]
  have hback : ¬timeIsBetween (earlier + 0x80000000) later earlier = true →
      timeDiff later earlier = (-((earlier - later).toNat : ℤ)).bmod (2 ^ 32) := by
    intro hbetween
    rw [timeDiff, if_neg hbetween]
    split
    · rfl
    · rw [toNat_wrapped_sub earlier later]
  rw [ahead]
  by_cases hbetween : timeIsBetween (earlier + 0x80000000) later earlier = true
  · have hle := (timeIsBetween_half later earlier).mp hbetween
    rw [hforward hbetween, Int.bmod_def]
    split <;> split <;> omega
  · have hlt := mt (timeIsBetween_half later earlier).mpr hbetween
    rw [hback hbetween, Int.bmod_def]
    split <;> split <;> omega

/-! ### Sequence numbers -/

/-- **`LARGER_OR_EQUAL`** is `LARGER` or equality, except at the largest distance ahead. -/
theorem largerOrEqual_iff : largerOrEqual a b = true ↔
    (a = b ∨ larger a b = true) ∧ a - b ≠ 0x7FFFFFFF := by
  have hle : largerOrEqual a b = true ↔ 0 ≤ ahead a b ∧ ahead a b < 2147483647 := by
    rw [show largerOrEqual a b = smallerOrEqual b a from rfl, smallerOrEqual_iff]
    have ha := a.toNat_lt
    have hb := b.toNat_lt
    simp only [ahead, toNat_sub]
    split <;> split <;> omega
  have hmax : a - b = 0x7FFFFFFF ↔ ahead a b = 2147483647 := by
    rw [← UInt32.toNat_inj, show (0x7FFFFFFF : UInt32).toNat = 2147483647 from rfl, ahead]
    have hlt := (a - b).toNat_lt
    split <;> omega
  rw [hle, larger_iff, ← ahead_eq_zero, ne_eq, hmax]
  have hlt := ahead_lt a b
  omega

/-- No two numbers are both ahead of each other. -/
lemma not_larger_of_larger (h : larger a b = true) : larger b a = false := by
  rw [larger_iff] at h
  rw [← Bool.not_eq_true, larger_iff]
  have ha := a.toNat_lt
  have hb := b.toNat_lt
  simp only [ahead, toNat_sub] at h ⊢
  split at h <;> split <;> omega

/-- One of two numbers is ahead of the other, unless they are half the range apart. -/
lemma larger_or_larger (hne : a ≠ b) (hhalf : a - b ≠ 0x80000000) :
    larger a b = true ∨ larger b a = true := by
  rw [larger_iff, larger_iff]
  have ha := a.toNat_lt
  have hb := b.toNat_lt
  rw [ne_eq, ← UInt32.toNat_inj] at hne hhalf
  rw [toNat_sub, show (0x80000000 : UInt32).toNat = 2147483648 from rfl] at hhalf
  simp only [ahead, toNat_sub]
  split <;> split <;> omega

/-- The comparisons order the numbers of a window of half the range as their counts are. -/
theorem larger_ofNat {m n : ℕ} (h1 : m < n + 2147483648) (h2 : n ≤ m + 2147483648) :
    larger (UInt32.ofNat m) (UInt32.ofNat n) = true ↔ n < m := by
  rw [larger_iff, ofNat_ahead h1 h2]
  omega

/-! ### The laws -/

/-- What is asked of the comparisons of two numbers. -/
structure ComparisonLaws (a b : UInt32) : Prop where
  timeDiff : timeDiff a b = (a - b).toInt32.toInt
  largerOrEqual : largerOrEqual a b = true ↔ a = b ∨ larger a b = true
  exclusive : ¬(larger a b = true ∧ larger b a = true)
  total : a ≠ b → a - b ≠ 0x80000000 → larger a b = true ∨ larger b a = true

/-- **The laws of the comparisons** hold exactly unless the first number is the largest distance
ahead of the second. -/
theorem comparisonLaws_iff (a b : UInt32) : ComparisonLaws a b ↔ a - b ≠ 0x7FFFFFFF := by
  constructor
  · intro h hmax
    have hlarger : larger a b = true := by
      rw [larger, hmax]
      decide
    exact (largerOrEqual_iff.mp (h.largerOrEqual.mpr (.inr hlarger))).2 hmax
  · intro hmax
    refine ⟨?_, ?_, ?_, larger_or_larger⟩
    · rw [timeDiff_eq_ahead, ahead_eq_toInt]
    · rw [largerOrEqual_iff]
      exact ⟨fun h => h.1, fun h => ⟨h, hmax⟩⟩
    · rintro ⟨hab, hba⟩
      rw [not_larger_of_larger hab] at hba
      cases hba

/-- **Larger, but not larger or equal**: a number that is `2 ^ 31 - 1` ahead of another one. -/
theorem largest_not_largerOrEqual : ¬∀ a b : UInt32, ComparisonLaws a b := fun h =>
  absurd ((h 0x7FFFFFFF 0).largerOrEqual.mpr (.inr (by decide))) (by decide)

end LibNice.PseudoTcp
