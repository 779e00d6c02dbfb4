import Mathlib.Tactic

/-!
Ledgers of items that are opened and closed.

* `Entry`: an item is opened, or every item of a set is closed.
* `outstanding`: the items that are open after a list of entries.
* `mem_outstanding`: an item is open exactly when it was opened and not closed
  since.
-/

namespace LibNice.Foundation

/-- An entry of a ledger. -/
inductive Entry (κ : Type*) where
  | opened (k : κ)
  | closed (ks : Set κ)

variable {κ : Type*}

/-- The open items after one more entry. -/
def Entry.apply (s : Set κ) : Entry κ → Set κ
  | opened k => insert k s
  | closed ks => s \ ks

/-- The open items after the entries `es`, the last of which is the latest. -/
def outstanding (es : List (Entry κ)) : Set κ := es.foldl Entry.apply ∅

@[simp] lemma outstanding_nil : outstanding ([] : List (Entry κ)) = ∅ := rfl

@[simp] lemma outstanding_snoc (es : List (Entry κ)) (e : Entry κ) :
    outstanding (es ++ [e]) = e.apply (outstanding es) := by
  simp [outstanding]

/-- An item is open exactly when it was opened and not closed since. -/
theorem mem_outstanding {es : List (Entry κ)} {k : κ} :
    k ∈ outstanding es ↔
      ∃ pre post, es = pre ++ .opened k :: post ∧ ∀ ks, .closed ks ∈ post → k ∉ ks := by
  induction es using List.reverseRecOn with
  | nil => simp
  | append_singleton es e ih =>
      rw [outstanding_snoc]
      constructor
      · intro h
        cases e with
        | opened j =>
            rcases h with rfl | h
            · exact ⟨es, [], rfl, by simp⟩
            · obtain ⟨pre, post, rfl, hpost⟩ := ih.mp h
              exact ⟨pre, post ++ [.opened j], by simp, by simpa using hpost⟩
        | closed js =>
            obtain ⟨hk, hjs⟩ := h
            obtain ⟨pre, post, rfl, hpost⟩ := ih.mp hk
            refine ⟨pre, post ++ [.closed js], by simp, fun ks hks => ?_⟩
            rcases List.mem_append.mp hks with hks | hks
            · exact hpost ks hks
            · obtain rfl : ks = js := by simpa using hks
              exact hjs
      · rintro ⟨pre, post, hes, hpost⟩
        rcases List.eq_nil_or_concat post with rfl | ⟨post, e', rfl⟩
        · obtain ⟨-, rfl⟩ := List.append_inj' hes rfl |>.imp id List.singleton_inj.mp
          exact .inl rfl
        · rw [List.concat_eq_append, ← List.cons_append, ← List.append_assoc] at hes
          obtain ⟨rfl, he⟩ := List.append_inj' hes rfl
          obtain rfl := List.singleton_inj.mp he
          have hk : k ∈ outstanding (pre ++ .opened k :: post) :=
            ih.mpr ⟨pre, post, rfl, fun ks hks => hpost ks (by simp [hks])⟩
          cases e with
          | opened j => exact .inr hk
          | closed js => exact ⟨hk, hpost js (by simp)⟩

end LibNice.Foundation
