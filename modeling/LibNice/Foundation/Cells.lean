import Mathlib.Data.List.Nodup
import Mathlib.Data.List.Basic

/-!
Linked lists in memory, whose elements are known by their addresses.

* `Cells`: such a list; an element that was deleted has no address in it any more.
* `Cells.deref`, `Cells.next`, `Cells.follow`: reads through an address, which fail for an element
  that is gone.
* `Cells.store`, `Cells.delete`: writes.
* `Cells.deref_append`, `Cells.follow_append`, `Cells.store_append`, `Cells.delete_append`: what
  they come to at an element that is there.
-/

namespace LibNice.Foundation

variable {α : Type*}

/-- A linked list: the addresses of its elements, and what they hold. -/
abbrev Cells (α : Type*) := List (ℕ × α)

namespace Cells

/-- The addresses of the elements. -/
def addresses (l : Cells α) : List ℕ := l.map Prod.fst

/-- What the elements hold. -/
def data (l : Cells α) : List α := l.map Prod.snd

/-- The address of the first element. -/
def head (l : Cells α) : Option ℕ := l.head?.map Prod.fst

/-- The address of the last element. -/
def last (l : Cells α) : Option ℕ := l.getLast?.map Prod.fst

/-- What the element at `p` holds. -/
def deref (l : Cells α) (p : ℕ) : Option α := (l.find? fun c => c.1 = p).map Prod.snd

/-- The link to the next element in the element at `p`. -/
def next : Cells α → ℕ → Option (Option ℕ)
  | [], _ => none
  | c :: l, p => if c.1 = p then some (head l) else next l p

/-- The element behind `prev`, or the first one. -/
def follow (l : Cells α) (prev : Option ℕ) : Option (Option ℕ) :=
  match prev with
  | none => some l.head
  | some p => l.next p

/-- A store into the element at `p`. -/
def store (l : Cells α) (p : ℕ) (a : α) : Cells α := l.map fun c => if c.1 = p then (p, a) else c

/-- The list without the element at `p`. -/
def delete (l : Cells α) (p : ℕ) : Cells α := l.filter fun c => c.1 ≠ p

section Append

variable {pre rest : Cells α} {p : ℕ} {a b : α}

@[simp] lemma addresses_append : addresses (pre ++ rest) = addresses pre ++ addresses rest :=
  List.map_append

@[simp] lemma addresses_cons {c : ℕ × α} : addresses (c :: rest) = c.1 :: addresses rest := rfl

lemma last_append_singleton : last (pre ++ [(p, a)]) = some p := by simp [last]

/-- The addresses that differ from the one of the element in the middle. -/
lemma ne_of_nodup (h : (addresses (pre ++ (p, a) :: rest)).Nodup) :
    (∀ c ∈ pre, c.1 ≠ p) ∧ ∀ c ∈ rest, c.1 ≠ p := by
  rw [addresses_append, addresses_cons, List.nodup_append, List.nodup_cons] at h
  obtain ⟨-, ⟨hrest, -⟩, hdisj⟩ := h
  refine ⟨fun c hc => hdisj c.1 (List.mem_map_of_mem hc) p List.mem_cons_self, fun c hc hp => ?_⟩
  exact hrest (List.mem_map.mpr ⟨c, hc, hp⟩)

lemma deref_append (h : ∀ c ∈ pre, c.1 ≠ p) : deref (pre ++ (p, a) :: rest) p = some a := by
  rw [deref, List.find?_append, List.find?_eq_none.mpr (by simpa using h)]
  simp

lemma next_append (h : ∀ c ∈ pre, c.1 ≠ p) :
    next (pre ++ (p, a) :: rest) p = some (head rest) := by
  induction pre with
  | nil => rw [List.nil_append, next, if_pos rfl]
  | cons c pre ih =>
      rw [List.cons_append, next, if_neg (h c List.mem_cons_self)]
      exact ih fun c hc => h c (List.mem_cons_of_mem _ hc)

/-- **Behind the first part of a list** comes the head of the second one. -/
lemma follow_append (h : (addresses pre).Nodup) :
    follow (pre ++ rest) (last pre) = some (head rest) := by
  rcases List.eq_nil_or_concat pre with rfl | ⟨front, ⟨q, b⟩, rfl⟩
  · rfl
  · rw [List.concat_eq_append] at h ⊢
    rw [last_append_singleton, follow, List.append_assoc, List.singleton_append]
    exact next_append (ne_of_nodup h).1

lemma store_append (h : (addresses (pre ++ (p, a) :: rest)).Nodup) :
    store (pre ++ (p, a) :: rest) p b = pre ++ (p, b) :: rest := by
  obtain ⟨hpre, hrest⟩ := ne_of_nodup h
  have hkeep (l : Cells α) (hl : ∀ c ∈ l, c.1 ≠ p) :
      l.map (fun c => if c.1 = p then (p, b) else c) = l :=
    (List.map_congr_left fun c hc => if_neg (hl c hc)).trans (List.map_id l)
  rw [store, List.map_append, List.map_cons, hkeep pre hpre, hkeep rest hrest, if_pos rfl]

lemma delete_append (h : (addresses (pre ++ (p, a) :: rest)).Nodup) :
    delete (pre ++ (p, a) :: rest) p = pre ++ rest := by
  obtain ⟨hpre, hrest⟩ := ne_of_nodup h
  have hkeep (l : Cells α) (hl : ∀ c ∈ l, c.1 ≠ p) : l.filter (fun c => c.1 ≠ p) = l :=
    List.filter_eq_self.mpr fun c hc => by simpa using hl c hc
  rw [delete, List.filter_append, List.filter_cons_of_neg (by simp), hkeep pre hpre,
    hkeep rest hrest]

end Append

end Cells

end LibNice.Foundation
