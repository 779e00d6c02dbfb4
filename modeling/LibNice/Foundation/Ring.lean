import Mathlib.Tactic

/-!
Circular buffers.

* `store`, `load`: a run of cells written to and read from a memory.
* `ringAt`: the cell some places behind a position in a circle of cells.
* `ringStore`, `ringLoad`: the same run of cells across the end of the circle, in
  two parts; `ringStore_at` and `ringLoad_eq` say that nobody can tell.
-/

namespace LibNice.Foundation

variable {α : Type*}

/-! ### Runs of cells -/

/-- The memory `m` with the cells `xs` from address `a` on. -/
def store (m : ℕ → α) (a : ℕ) (xs : List α) : ℕ → α :=
  fun i => if a ≤ i then (xs[i - a]?).getD (m i) else m i

/-- The `n` cells of the memory `m` from address `a` on. -/
def load (m : ℕ → α) (a n : ℕ) : List α := (List.range n).map fun i => m (a + i)

@[simp] lemma load_length (m : ℕ → α) (a n : ℕ) : (load m a n).length = n := by
  simp [load]

/-- A stored cell. -/
lemma store_of_lt {m : ℕ → α} {a i : ℕ} {xs : List α} (h : i < xs.length) :
    store m a xs (a + i) = xs[i] := by
  simp [store, h]

/-- A cell before or behind the stored ones. -/
lemma store_of_not {m : ℕ → α} {a i : ℕ} {xs : List α} (h : i < a ∨ a + xs.length ≤ i) :
    store m a xs i = m i := by
  unfold store
  split
  · rw [List.getElem?_eq_none (by omega), Option.getD_none]
  · rfl

/-! ### The circle -/

/-- The cell `k` places behind position `p` in the circle of the first `n` cells. -/
def ringAt (m : ℕ → α) (n p k : ℕ) : α := m ((p + k) % n)

/-- The cells `xs` stored from position `p` of the circle on, those that do not
fit before its end at its start. -/
def ringStore (m : ℕ → α) (n p : ℕ) (xs : List α) : ℕ → α :=
  store (store m p (xs.take (n - p))) 0 (xs.drop (n - p))

/-- The `c` cells from position `p` of the circle on. -/
def ringLoad (m : ℕ → α) (n p c : ℕ) : List α :=
  load m p (min c (n - p)) ++ load m 0 (c - min c (n - p))

/-- A position within one turn goes round the circle at most once. -/
lemma ring_mod {n p k : ℕ} (hp : p < n) (hk : k ≤ n) :
    (p + k) % n = if p + k < n then p + k else p + k - n := by
  split
  next h => exact Nat.mod_eq_of_lt h
  next h => rw [Nat.mod_eq_sub_mod (by omega), Nat.mod_eq_of_lt (by omega)]

/-- Positions add up along the circle. -/
lemma ringAt_add (m : ℕ → α) (n p j k : ℕ) : ringAt m n ((p + j) % n) k = ringAt m n p (j + k) := by
  rw [ringAt, ringAt, Nat.mod_add_mod, add_assoc]

/-- What is behind position `p` after a store `o` places behind it: the stored
cells in their places, and every other cell as it was. -/
lemma ringStore_at {m : ℕ → α} {n p o k : ℕ} {xs : List α} (hp : p < n) (hk : k < n)
    (ho : o + xs.length ≤ n) :
    ringAt (ringStore m n ((p + o) % n) xs) n p k =
      if o ≤ k then (xs[k - o]?).getD (ringAt m n p k) else ringAt m n p k := by
  unfold ringAt ringStore store
  rw [ring_mod hp hk.le, ring_mod hp (by omega : o ≤ n)]
  simp only [List.getElem?_take, List.getElem?_drop, Nat.zero_le, if_true, Nat.sub_zero]
  by_cases hw : p + o < n <;> by_cases hr : p + k < n <;> simp only [hw, hr, if_true, if_false]
  · by_cases hok : o ≤ k
    · rw [if_pos (by omega : p + o ≤ p + k), if_pos (by omega : p + k - (p + o) < n - (p + o)),
        if_pos hok, List.getElem?_eq_none (by omega : xs.length ≤ n - (p + o) + (p + k)),
        Option.getD_none, show p + k - (p + o) = k - o by omega]
    · rw [if_neg (by omega : ¬ p + o ≤ p + k), if_neg hok,
        List.getElem?_eq_none (by omega : xs.length ≤ n - (p + o) + (p + k)), Option.getD_none]
  · rw [if_neg (by omega : ¬ p + o ≤ p + k - n), if_pos (by omega : o ≤ k),
      show n - (p + o) + (p + k - n) = k - o by omega]
  · rw [if_neg (by omega : ¬ o ≤ k), if_pos (by omega : p + o - n ≤ p + k),
      List.getElem?_eq_none (by omega : xs.length ≤ n - (p + o - n) + (p + k)), Option.getD_none]
    split
    · rw [List.getElem?_eq_none (by omega : xs.length ≤ p + k - (p + o - n)), Option.getD_none]
    · rfl
  · by_cases hok : o ≤ k
    · rw [if_pos (by omega : p + o - n ≤ p + k - n),
        if_pos (by omega : p + k - n - (p + o - n) < n - (p + o - n)), if_pos hok,
        List.getElem?_eq_none (by omega : xs.length ≤ n - (p + o - n) + (p + k - n)),
        Option.getD_none, show p + k - n - (p + o - n) = k - o by omega]
    · rw [if_neg (by omega : ¬ p + o - n ≤ p + k - n), if_neg hok,
        List.getElem?_eq_none (by omega : xs.length ≤ n - (p + o - n) + (p + k - n)),
        Option.getD_none]

/-- A store across the end of the circle stays inside it. -/
lemma ringStore_outside {m : ℕ → α} {n p i : ℕ} {xs : List α} (hp : p < n)
    (hlen : xs.length ≤ n) (hi : n ≤ i) : ringStore m n p xs i = m i := by
  have hhead : 0 + (xs.drop (n - p)).length ≤ i := by
    rw [List.length_drop]
    omega
  have htail : p + (xs.take (n - p)).length ≤ i := by
    rw [List.length_take]
    omega
  rw [ringStore, store_of_not (.inr hhead), store_of_not (.inr htail)]

/-- The cells loaded across the end of the circle are the ones behind the position. -/
lemma ringLoad_eq {m : ℕ → α} {n p c : ℕ} (hp : p < n) (hc : c ≤ n) :
    ringLoad m n p c = (List.range c).map (ringAt m n p) := by
  apply List.ext_getElem
  · simp [ringLoad]
  · intro i h1 h2
    simp only [List.length_map, List.length_range] at h2
    simp only [ringLoad, load, List.getElem_map, List.getElem_range, ringAt,
      List.getElem_append, List.length_map, List.length_range]
    rw [ring_mod hp (by omega : i ≤ n)]
    split
    next h => rw [if_pos (by omega)]
    next h =>
      rw [if_neg (by omega)]
      congr 1
      omega

end LibNice.Foundation
