import LibNice.Foundation.Ring

/-!
A queue in a circle of cells.

* `ringQueue`: the cells from the first one of the queue on.
* `ringQueue_take`, `ringQueue_drop`: the front of the queue, and what is behind it.
* `ringQueue_store`: cells stored behind the end of the queue are added to it.
* `ringQueue_grow_iff`: when a full circle is made larger, the queue is the same exactly if what ran
  across the end of the circle is found again behind it.
* `usedCells`, `freeCells`: which cells the queue takes up, and which ones are free behind it.
-/

namespace LibNice.Foundation

variable {α : Type*} {m m' : ℕ → α} {n n' p c k : ℕ}

/-! ### The queue -/

/-- The queue of the `c` cells from position `p` of the circle of the first `n` cells on. -/
def ringQueue (m : ℕ → α) (n p c : ℕ) : List α := (List.range c).map (ringAt m n p)

@[simp] lemma ringQueue_length : (ringQueue m n p c).length = c := by
  simp [ringQueue]

@[simp] lemma ringQueue_zero : ringQueue m n p 0 = [] := rfl

lemma ringQueue_getElem (h : k < (ringQueue m n p c).length) :
    (ringQueue m n p c)[k] = ringAt m n p k := by
  simp [ringQueue]

/-- The front of the queue. -/
lemma ringQueue_take : (ringQueue m n p c).take k = ringQueue m n p (min k c) := by
  rw [ringQueue, ← List.map_take, List.take_range, ringQueue]

/-- What is behind the front of the queue. -/
lemma ringQueue_drop : (ringQueue m n p c).drop k = ringQueue m n ((p + k) % n) (c - k) := by
  apply List.ext_getElem
  · simp
  · intro i h1 h2
    rw [List.getElem_drop, ringQueue_getElem, ringQueue_getElem, ringAt_add]

/-- Cells stored behind the end of the queue are added to it. -/
lemma ringQueue_store {xs : List α} (hp : p < n) (h : c + xs.length ≤ n) :
    ringQueue (ringStore m n ((p + c) % n) xs) n p (c + xs.length) = ringQueue m n p c ++ xs := by
  apply List.ext_getElem
  · simp
  · intro i h1 h2
    rw [ringQueue_length] at h1
    rw [ringQueue_getElem, ringStore_at hp (by omega) h, List.getElem_append]
    by_cases hi : i < c
    · rw [if_neg (by omega), dif_pos (by rwa [ringQueue_length]), ringQueue_getElem]
    · have hback : i - c < xs.length := by omega
      rw [if_pos (by omega), dif_neg (by rwa [ringQueue_length])]
      simp only [ringQueue_length]
      rw [List.getElem?_eq_getElem hback, Option.getD_some]

/-! ### A larger circle -/

/-- When a full circle is made larger, the cells before its end are the same as before, and the ones
that ran across the end are those behind it. -/
lemma ringAt_grow (hsame : ∀ i < n, m' i = m i) (hp : p < n) (hn : 2 * n ≤ n') (hk : k < n) :
    ringAt m' n' p k = if p + k < n then ringAt m n p k else m' (p + k) := by
  rw [ringAt, Nat.mod_eq_of_lt (by omega : p + k < n')]
  split
  next h => rw [hsame _ h, ringAt, Nat.mod_eq_of_lt h]
  next => rfl

/-- **Making a full circle larger** keeps the queue exactly if the cells that ran across the end of
the circle are found again behind it. -/
theorem ringQueue_grow_iff (hsame : ∀ i < n, m' i = m i) (hp : p < n) (hn : 2 * n ≤ n') :
    ringQueue m' n' p n = ringQueue m n p n ↔ ∀ i < p, m' (n + i) = m i := by
  constructor
  · intro h i hi
    have hat : ringAt m' n' p (n - p + i) = ringAt m n p (n - p + i) := by
      have hget := congrArg (fun l => l[n - p + i]?) h
      simpa [ringQueue, List.getElem?_range (by omega : n - p + i < n)] using hget
    rw [ringAt_grow hsame hp hn (by omega), if_neg (by omega), ringAt, ring_mod hp (by omega),
      if_neg (by omega)] at hat
    rwa [show p + (n - p + i) = n + i by omega, show n + i - n = i by omega] at hat
  · intro h
    apply List.ext_getElem
    · simp
    · intro k h1 h2
      rw [ringQueue_length] at h1
      rw [ringQueue_getElem, ringQueue_getElem, ringAt_grow hsame hp hn h1]
      split
      · rfl
      · have hback := h (p + k - n) (by omega)
        rw [show n + (p + k - n) = p + k by omega] at hback
        rw [hback, ringAt, ring_mod hp h1.le, if_neg (by omega)]

/-! ### The cells of the queue and the free ones -/

/-- The cells that the queue takes up, in order. -/
def usedCells (n p c : ℕ) : List ℕ := (List.range c).map fun k => (p + k) % n

/-- The cells behind the end of the queue that it does not take up, in order. -/
def freeCells (n p c : ℕ) : List ℕ := (List.range (n - c)).map fun k => (p + c + k) % n

/-- The cells from the first one of the queue on, once round the circle. -/
lemma usedCells_append_freeCells (hc : c ≤ n) :
    usedCells n p c ++ freeCells n p c = (List.range n).map fun k => (p + k) % n := by
  have hsplit : List.range n = List.range c ++ (List.range (n - c)).map (c + ·) := by
    rw [← List.range_add, Nat.add_sub_cancel' hc]
  rw [hsplit, List.map_append, List.map_map, usedCells, freeCells]
  simp only [Function.comp_def, Nat.add_assoc]

/-- Every cell of the circle is one of the queue or a free one, and none is listed twice. -/
theorem cells_perm (hp : p < n) (hc : c ≤ n) :
    (usedCells n p c ++ freeCells n p c).Perm (List.range n) := by
  rw [usedCells_append_freeCells hc]
  have hinj : ∀ i ∈ List.range n, ∀ j ∈ List.range n, (p + i) % n = (p + j) % n → i = j := by
    intro i hi j hj h
    rw [List.mem_range] at hi hj
    rw [ring_mod hp hi.le, ring_mod hp hj.le] at h
    split at h <;> split at h <;> omega
  refine (List.subperm_of_subset (List.Nodup.map_on hinj List.nodup_range) ?_).perm_of_length_le ?_
  · intro i hi
    obtain ⟨k, -, rfl⟩ := List.mem_map.mp hi
    exact List.mem_range.mpr (Nat.mod_lt _ (by omega))
  · simp

end LibNice.Foundation
