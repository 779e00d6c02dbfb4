import Mathlib.Tactic

/-!
Sequence numbers modulo `2 ^ 32`.

* `ahead a b`: how far `a` is ahead of `b`, as a signed number of at most half the
  range; `ahead_add`, `ahead_sub_add` move either end.
* `ahead_self`, `ahead_eq_zero`, `ahead_inj`: it tells sequence numbers apart.
* `ofNat_ahead`: numbers that count from a common origin and lie within half the
  range of each other are as far apart as their counts.
-/

namespace LibNice.Foundation

/-- How far `a` is ahead of `b`: the signed reading of `a - b`. -/
def ahead (a b : UInt32) : ℤ :=
  if (a - b).toNat < 2147483648 then (a - b).toNat else (a - b).toNat - 4294967296

lemma toNat_sub (a b : UInt32) :
    (a - b).toNat = (4294967296 - b.toNat + a.toNat) % 4294967296 := by
  rw [UInt32.toNat_sub]

lemma toNat_add (a b : UInt32) : (a + b).toNat = (a.toNat + b.toNat) % 4294967296 := by
  rw [UInt32.toNat_add]

lemma toNat_ofNat (n : ℕ) : (UInt32.ofNat n).toNat = n % 4294967296 := by
  rw [UInt32.toNat_ofNat']

/-- A number that fits is what it is. -/
lemma toNat_ofNat_of_lt {n : ℕ} (h : n < 4294967296) : (UInt32.ofNat n).toNat = n := by
  rw [toNat_ofNat, Nat.mod_eq_of_lt h]

lemma ofNat_toNat_sub (a b : UInt32) : b + UInt32.ofNat (a - b).toNat = a := by
  rw [UInt32.ofNat_toNat, UInt32.add_comm, UInt32.sub_add_cancel]

/-- The signed reading of a number of 32 bits: negative from the middle of the range on. -/
lemma bmod_neg_iff {k : ℕ} (h : k < 2 ^ 32) :
    ((k : ℤ).bmod (2 ^ 32) < 0 ↔ 2 ^ 31 ≤ k) ∧ (k < 2 ^ 31 → (k : ℤ).bmod (2 ^ 32) = k) := by
  rw [Int.bmod_def]
  omega

lemma ahead_lt (a b : UInt32) : ahead a b < 2147483648 := by
  have h := (a - b).toNat_lt
  unfold ahead
  split <;> omega

lemma neg_le_ahead (a b : UInt32) : -2147483648 ≤ ahead a b := by
  unfold ahead
  split <;> omega

@[simp] lemma ahead_self (a : UInt32) : ahead a a = 0 := by
  simp [ahead]

lemma ahead_eq_zero {a b : UInt32} : ahead a b = 0 ↔ a = b := by
  constructor
  · intro h
    have ha := a.toNat_lt
    have hb := b.toNat_lt
    simp only [ahead, toNat_sub] at h
    apply UInt32.toNat_inj.mp
    split at h <;> omega
  · rintro rfl
    exact ahead_self a

/-- The sequence number at a given distance. -/
lemma ahead_inj {a b c : UInt32} (h : ahead a c = ahead b c) : a = b := by
  have ha := a.toNat_lt
  have hb := b.toNat_lt
  have hc := c.toNat_lt
  simp only [ahead, toNat_sub] at h
  apply UInt32.toNat_inj.mp
  split at h <;> split at h <;> omega

/-- Moving the first end forward. -/
lemma ahead_add {a b : UInt32} {n : ℕ} (h : ahead a b + n < 2147483648) :
    ahead (a + UInt32.ofNat n) b = ahead a b + n := by
  have ha := a.toNat_lt
  have hb := b.toNat_lt
  have hlow := neg_le_ahead a b
  simp only [ahead, toNat_sub, toNat_add, toNat_ofNat] at h hlow ⊢
  split at h <;> split <;> omega

/-- Moving the second end forward. -/
lemma ahead_sub_add {a b : UInt32} {n : ℕ} (h : -2147483648 ≤ ahead a b - n) :
    ahead a (b + UInt32.ofNat n) = ahead a b - n := by
  have ha := a.toNat_lt
  have hb := b.toNat_lt
  have hup := ahead_lt a b
  simp only [ahead, toNat_sub, toNat_add, toNat_ofNat] at h hup ⊢
  split at h <;> split <;> omega

/-- A number ahead is reached by adding the distance. -/
lemma toNat_sub_of_ahead {a b : UInt32} (h : 0 ≤ ahead a b) : ((a - b).toNat : ℤ) = ahead a b := by
  have hlt := (a - b).toNat_lt
  unfold ahead at h ⊢
  split at h <;> split <;> omega

/-- A number behind is reached by subtracting the distance. -/
lemma toNat_sub_of_ahead_neg {a b : UInt32} (h : ahead a b ≤ 0) (hne : -2147483648 < ahead a b) :
    ((b - a).toNat : ℤ) = -ahead a b := by
  have ha := a.toNat_lt
  have hb := b.toNat_lt
  simp only [ahead, toNat_sub] at h hne ⊢
  split at h <;> split at hne <;> split <;> omega

/-- Counts from a common origin. -/
lemma ofNat_ahead {m n : ℕ} (h1 : m < n + 2147483648) (h2 : n ≤ m + 2147483648) :
    ahead (UInt32.ofNat m) (UInt32.ofNat n) = (m : ℤ) - n := by
  simp only [ahead, toNat_sub, toNat_ofNat]
  split <;> omega

end LibNice.Foundation
