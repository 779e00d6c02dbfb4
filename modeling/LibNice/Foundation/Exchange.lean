import Mathlib.Data.Set.Lattice
import Mathlib.Logic.Relation
import Mathlib.Order.CompletePartialOrder

/-!
Two parties over a network that loses messages, repeats them and delivers them in any order.

* `Party`: what a party has sent in each of its states, and the steps that it takes where the
  messages of a set may arrive.  Nothing that was sent is taken back.
* `Exchange`: a step of the one party or of the other, at each of which anything that the other has
  sent so far may arrive.
* `Exchanges.invariant`: **each party may assume what the other guarantees**, where more messages do
  no harm.
* `Exchanges.invariant_within`: the same as long as the states stay within bounds.
* `Exchanges.swap`: the two parties may change places.
-/

namespace LibNice.Foundation

variable {σ τ μ ν : Type*}

/-- A party with the states `σ`, which sends messages of `μ` and gets messages of `ν`. -/
structure Party (σ μ ν : Type*) where
  sent : σ → Set μ
  step : Set ν → σ → σ → Prop
  sent_mono : ∀ {N : Set ν} {s s' : σ}, step N s s' → sent s ⊆ sent s'

/-- One step of either party. -/
inductive Exchange (P : Party σ μ ν) (Q : Party τ ν μ) : σ × τ → σ × τ → Prop
  | left {s s' : σ} {t : τ} : P.step (Q.sent t) s s' → Exchange P Q (s, t) (s', t)
  | right {s : σ} {t t' : τ} : Q.step (P.sent s) t t' → Exchange P Q (s, t) (s, t')

/-- Any number of steps, in any order. -/
abbrev Exchanges (P : Party σ μ ν) (Q : Party τ ν μ) : σ × τ → σ × τ → Prop :=
  Relation.ReflTransGen (Exchange P Q)

namespace Exchanges

variable {P : Party σ μ ν} {Q : Party τ ν μ} {x y : σ × τ}

/-- **Assume and guarantee**, within bounds `B` that an exchange that has left them does not come back
to.  `I` is what the left party keeps, knowing what the right one has sent so far, and `J` what the
right party keeps. -/
theorem invariant_within {I : Set ν → σ → Prop} {J : Set μ → τ → Prop} {B : σ → τ → Prop}
    (hI : Monotone I) (hJ : Monotone J)
    (hB : ∀ x y, Exchange P Q x y → B y.1 y.2 → B x.1 x.2)
    (hleft : ∀ s t s', B s' t → I (Q.sent t) s → J (P.sent s) t → P.step (Q.sent t) s s' →
      I (Q.sent t) s')
    (hright : ∀ s t t', B s t' → I (Q.sent t) s → J (P.sent s) t → Q.step (P.sent s) t t' →
      J (P.sent s) t')
    (h : Exchanges P Q x y) (hy : B y.1 y.2) (hx : I (Q.sent x.2) x.1 ∧ J (P.sent x.1) x.2) :
    I (Q.sent y.2) y.1 ∧ J (P.sent y.1) y.2 := by
  induction h with
  | refl => exact hx
  | tail _ hstep ih =>
      obtain ⟨hs, ht⟩ := ih (hB _ _ hstep hy)
      cases hstep with
      | left hstep => exact ⟨hleft _ _ _ hy hs ht hstep, hJ (P.sent_mono hstep) _ ht⟩
      | right hstep => exact ⟨hI (Q.sent_mono hstep) _ hs, hright _ _ _ hy hs ht hstep⟩

/-- **Assume and guarantee.** -/
theorem invariant {I : Set ν → σ → Prop} {J : Set μ → τ → Prop} (hI : Monotone I) (hJ : Monotone J)
    (hleft : ∀ s t s', I (Q.sent t) s → J (P.sent s) t → P.step (Q.sent t) s s' → I (Q.sent t) s')
    (hright : ∀ s t t', I (Q.sent t) s → J (P.sent s) t → Q.step (P.sent s) t t' → J (P.sent s) t')
    (h : Exchanges P Q x y) (hx : I (Q.sent x.2) x.1 ∧ J (P.sent x.1) x.2) :
    I (Q.sent y.2) y.1 ∧ J (P.sent y.1) y.2 :=
  invariant_within (B := fun _ _ => True) hI hJ (fun _ _ _ _ => trivial)
    (fun s t s' _ => hleft s t s') (fun s t t' _ => hright s t t') h trivial hx

/-- The two parties may change places. -/
theorem swap (h : Exchanges P Q x y) : Exchanges Q P x.swap y.swap := by
  induction h with
  | refl => exact .refl
  | tail _ hstep ih =>
      cases hstep with
      | left hstep => exact ih.tail (.right hstep)
      | right hstep => exact ih.tail (.left hstep)

end Exchanges

end LibNice.Foundation
