import Mathlib.Tactic

/-!
Labels that name the classes of an equivalence relation, over a set that grows.

* `Names`: two elements of the set have one label just when they are related.
* `Names.insert_iff`: when the labels do so with one element more.
* `Names.copied`, `Names.fresh`: an element that gets the label of a related one, and one that is
  related to none and gets a label of its own.
-/

namespace LibNice.Foundation

variable {α β : Type*}

/-- The labels name the classes of `R` in `S`. -/
def Names (R : α → α → Prop) (label : α → β) (S : Set α) : Prop :=
  ∀ a ∈ S, ∀ b ∈ S, label a = label b ↔ R a b

namespace Names

variable {R : α → α → Prop} {label : α → β} {S T : Set α} {x m : α}

lemma empty : Names R label ∅ := fun _ h => absurd h (Set.notMem_empty _)

lemma mono (h : Names R label S) (hT : T ⊆ S) : Names R label T :=
  fun a ha b hb => h a (hT ha) b (hT hb)

/-- One element more. -/
theorem insert_iff (hR : Equivalence R) (h : Names R label S) :
    Names R label (insert x S) ↔ ∀ a ∈ S, label x = label a ↔ R x a := by
  refine ⟨fun hx a ha => hx x (Set.mem_insert _ _) a (Set.mem_insert_of_mem _ ha),
    fun hx a ha b hb => ?_⟩
  rcases Set.mem_insert_iff.mp ha with rfl | has <;> rcases Set.mem_insert_iff.mp hb with rfl | hbs
  · exact ⟨fun _ => hR.refl _, fun _ => rfl⟩
  · exact hx b hbs
  · exact ⟨fun hl => hR.symm ((hx a has).mp hl.symm),
      fun hr => ((hx a has).mpr (hR.symm hr)).symm⟩
  · exact h a has b hbs

/-- **A copied label**: that of a related element. -/
theorem copied (hR : Equivalence R) (h : Names R label S) (hm : m ∈ S) (hxm : R x m)
    (hlabel : label x = label m) : Names R label (insert x S) := by
  refine (insert_iff hR h).mpr fun a ha => ?_
  rw [hlabel, h m hm a ha]
  exact ⟨fun hma => hR.trans hxm hma, fun hxa => hR.trans (hR.symm hxm) hxa⟩

/-- **A fresh label**, for an element that is related to none: it must be no other one's. -/
theorem fresh (hR : Equivalence R) (h : Names R label S) (hx : ∀ a ∈ S, ¬R x a) :
    Names R label (insert x S) ↔ ∀ a ∈ S, label x ≠ label a := by
  rw [insert_iff hR h]
  exact forall₂_congr fun a ha => by simp [hx a ha]

end Names

end LibNice.Foundation
