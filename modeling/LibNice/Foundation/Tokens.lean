import Mathlib.Tactic

/-!
Texts that are made of tokens, and taken apart again.

* `terminated`: lines, each with its end.
* `split`: the pieces between separators, as `g_strsplit` finds them.
* `split_intercalate`: tokens that are joined by a separator are found again.
* `split_terminated`: the same for lines.
* `caseless`: `g_ascii_strcasecmp` finds two texts equal.
-/

namespace LibNice.Foundation

variable {α : Type*} {sep : α} {tokens : List (List α)}

/-- Lines, each with its end. -/
def terminated (sep : α) (lines : List (List α)) : List α := lines.flatMap fun line => line ++ [sep]

lemma terminated_eq (sep : α) (lines : List (List α)) :
    terminated sep lines = [sep].intercalate (lines ++ [[]]) := by
  induction lines with
  | nil => rfl
  | cons line lines ih =>
      rw [terminated, List.flatMap_cons, ← terminated, ih, List.cons_append,
        List.intercalate_cons_of_ne_nil (by simp), List.append_assoc]

/-- What is in joined tokens is in one of them, or between them. -/
lemma mem_intercalate {x : α} (h : x ∈ [sep].intercalate tokens) :
    x = sep ∨ ∃ token ∈ tokens, x ∈ token := by
  induction tokens with
  | nil => cases h
  | cons token tokens ih =>
      cases tokens with
      | nil =>
          rw [List.intercalate_singleton] at h
          exact .inr ⟨token, List.mem_cons_self, h⟩
      | cons token' tokens =>
          rw [List.intercalate_cons_cons, List.mem_append, List.mem_append] at h
          rcases h with (h | h) | h
          · exact .inr ⟨token, List.mem_cons_self, h⟩
          · exact .inl (List.mem_singleton.mp h)
          · obtain hsep | ⟨t, ht, hx⟩ := ih h
            · exact .inl hsep
            · exact .inr ⟨t, List.mem_cons_of_mem _ ht, hx⟩

variable [DecidableEq α]

/-- `g_strsplit`: the empty text has no pieces. -/
def split (sep : α) (text : List α) : List (List α) :=
  if text = [] then [] else text.splitOn sep

/-- **Joined tokens** are found again. -/
theorem split_intercalate (h : ∀ token ∈ tokens, sep ∉ token) {first : List α}
    (hfirst : first ∈ tokens) (hne : first ≠ []) :
    split sep ([sep].intercalate tokens) = tokens := by
  have htokens : tokens ≠ [] := List.ne_nil_of_mem hfirst
  have hsplit := List.splitOn_intercalate sep h htokens
  rw [split, if_neg fun hnil => ?_, hsplit]
  rw [hnil] at hsplit
  rw [← hsplit] at hfirst
  exact hne (List.mem_singleton.mp hfirst)

/-- **Terminated lines** are found again, with the empty one after the last end. -/
theorem split_terminated {lines : List (List α)} (h : ∀ line ∈ lines, sep ∉ line)
    (hne : lines ≠ []) : split sep (terminated sep lines) = lines ++ [[]] := by
  have hnil : terminated sep lines ≠ [] := by
    obtain ⟨line, rest, rfl⟩ := List.exists_cons_of_ne_nil hne
    simp [terminated]
  rw [split, if_neg hnil, terminated_eq]
  refine List.splitOn_intercalate sep (fun line hline => ?_) (by simp)
  rcases List.mem_append.mp hline with hline | hline
  · exact h line hline
  · rw [List.mem_singleton.mp hline]
    exact List.not_mem_nil

/-- `g_ascii_tolower`. -/
def toLower (b : UInt8) : UInt8 := if 65 ≤ b.toNat ∧ b.toNat ≤ 90 then b + 32 else b

/-- `g_ascii_strcasecmp` finds two texts equal. -/
def caseless (a b : List UInt8) : Bool := a.map toLower = b.map toLower

end LibNice.Foundation
