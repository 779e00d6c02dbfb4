import Mathlib.Tactic

/-!
Loops that need not end.

* `loop`: a loop by its body, run for a bounded number of rounds.
* `loop_eq_none`: a loop with an invariant under which its body never leaves it does not end.
* `loop_leaves`, `loop_goes`: one round.
-/

namespace LibNice.Foundation

variable {σ α : Type*}

/-- A loop whose body goes on with a new state or leaves with a result, or has no result itself.
There is no result after `fuel` rounds either. -/
def loop (body : σ → Option (σ ⊕ α)) : ℕ → σ → Option α
  | 0, _ => none
  | fuel + 1, s =>
      match body s with
      | none => none
      | some (.inl s) => loop body fuel s
      | some (.inr a) => some a

variable {body : σ → Option (σ ⊕ α)} {fuel : ℕ} {s : σ}

lemma loop_leaves {a : α} (h : body s = some (.inr a)) : loop body (fuel + 1) s = some a := by
  rw [loop, h]

lemma loop_goes {s' : σ} (h : body s = some (.inl s')) :
    loop body (fuel + 1) s = loop body fuel s' := by
  rw [loop, h]

/-- **A loop does not end while its body keeps to an invariant and never leaves.** -/
theorem loop_eq_none (I : σ → Prop)
    (hI : ∀ s, I s → body s = none ∨ ∃ s', body s = some (.inl s') ∧ I s') (hs : I s) :
    loop body fuel s = none := by
  induction fuel generalizing s with
  | zero => rfl
  | succ fuel ih =>
      rcases hI s hs with hnone | ⟨s', hgoes, hs'⟩
      · rw [loop, hnone]
      · rw [loop_goes hgoes, ih hs']

end LibNice.Foundation
