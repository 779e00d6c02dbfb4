import Mathlib.Tactic

/-!
Runs of a labelled transition relation.

* `Run`: a finite run with the labels of its steps, the latest step last.
* `Run.invariant`: a property of states that every step preserves holds after
  every run.
* `Run.appended`: a list that every step only adds to holds all that was added.
* `Run.append`: one run after another.
* `Run.mono`: a run of one relation is a run of a larger one.
* `Run.split`: a run passes through a state before and a state after each of its
  labels.
* `Along`: all events of a run are as a property asks, each in the state that it
  finds, where events have one outcome.
* `Along.imp`: what all events are by one property and an invariant, they are by another.
* `Along.congr`: two properties that are the same by an invariant are the same
  along a run.
-/

namespace LibNice.Foundation

variable {σ ε : Type*} {step : σ → ε → σ → Prop}

/-- A finite run from `s` with the labels of its steps. -/
inductive Run (step : σ → ε → σ → Prop) (s : σ) : List ε → σ → Prop
  | nil : Run step s [] s
  | snoc {es : List ε} {t u : σ} {e : ε} : Run step s es t → step t e u → Run step s (es ++ [e]) u

namespace Run

variable {s t u : σ} {es : List ε} {e : ε}

/-- What holds at the start and is preserved by every step holds after a run. -/
theorem invariant {I : σ → Prop} (h₀ : I s) (hstep : ∀ t e u, I t → step t e u → I u)
    (h : Run step s es t) : I t := by
  induction h with
  | nil => exact h₀
  | snoc _ hs ih => exact hstep _ _ _ ih hs

/-- Where every step adds to the end of a list what its label says, a run adds what its
labels say, in order. -/
theorem appended {β : Type*} {f : σ → List β} {g : ε → List β}
    (hstep : ∀ t e u, step t e u → f u = f t ++ g e) (h : Run step s es t) :
    f t = f s ++ es.flatMap g := by
  induction h with
  | nil => simp
  | snoc _ hs ih => rw [hstep _ _ _ hs, ih, List.flatMap_append, List.flatMap_singleton,
      List.append_assoc]

lemma nil_iff : Run step s [] t ↔ t = s := by
  constructor
  · intro h
    generalize hes : ([] : List ε) = es at h
    cases h with
    | nil => rfl
    | snoc => simp at hes
  · rintro rfl
    exact .nil

lemma snoc_iff : Run step s (es ++ [e]) u ↔ ∃ t, Run step s es t ∧ step t e u := by
  constructor
  · intro h
    generalize hes : es ++ [e] = es' at h
    cases h with
    | nil => simp at hes
    | snoc hr hs =>
        obtain ⟨rfl, he⟩ := List.append_inj' hes rfl
        obtain rfl := List.singleton_inj.mp he
        exact ⟨_, hr, hs⟩
  · rintro ⟨t, hr, hs⟩
    exact .snoc hr hs

/-- One run after another. -/
theorem append {es' : List ε} (h : Run step s es t) (h' : Run step t es' u) :
    Run step s (es ++ es') u := by
  induction h' with
  | nil => simpa using h
  | snoc _ hs ih =>
      rw [← List.append_assoc]
      exact .snoc ih hs

/-- A run of one relation is a run of a larger one. -/
theorem mono {step' : σ → ε → σ → Prop} (h : Run step s es t)
    (hstep : ∀ t e u, step t e u → step' t e u) : Run step' s es t := by
  induction h with
  | nil => exact .nil
  | snoc _ hs ih => exact .snoc ih (hstep _ _ _ hs)

/-- A run passes through a state before and a state after each of its labels. -/
theorem split {pre post : List ε} (h : Run step s (pre ++ e :: post) u) :
    ∃ t t', Run step s pre t ∧ step t e t' := by
  induction post using List.reverseRecOn generalizing u with
  | nil =>
      obtain ⟨t, hr, hs⟩ := snoc_iff.mp h
      exact ⟨t, u, hr, hs⟩
  | append_singleton post e' ih =>
      have h' : Run step s ((pre ++ e :: post) ++ [e']) u := by simpa using h
      obtain ⟨t, hr, -⟩ := snoc_iff.mp h'
      exact ih hr

end Run

/-- Each event is as `P` asks, in the state that it finds; `next` is what comes after it. -/
def Along (next : σ → ε → σ) (P : σ → ε → Prop) : σ → List ε → Prop
  | _, [] => True
  | s, e :: es => P s e ∧ Along next P (next s e) es

namespace Along

variable {next : σ → ε → σ} {P Q R : σ → ε → Prop} {I : σ → Prop}

/-- What every event is in every state, all events of a run are. -/
theorem of_forall (h : ∀ s e, P s e) (es : List ε) : ∀ s, Along next P s es := by
  induction es with
  | nil => exact fun _ => trivial
  | cons e es ih => exact fun s => ⟨h s e, ih _⟩

/-- What holds at the start and is preserved by the events of a run holds after it. -/
theorem invariant (hnext : ∀ s e, I s → P s e → I (next s e)) (es : List ε) :
    ∀ s, I s → Along next P s es → I (es.foldl next s) := by
  induction es with
  | nil => exact fun _ hI _ => hI
  | cons e es ih => exact fun s hI h => ih _ (hnext s e hI h.1) h.2

/-- What the events of a run are by one property, and an invariant that it preserves, they are by
another. -/
theorem imp (himp : ∀ s e, I s → P s e → Q s e) (hnext : ∀ s e, I s → P s e → I (next s e))
    (es : List ε) : ∀ s, I s → Along next P s es → Along next Q s es := by
  induction es with
  | nil => exact fun _ _ _ => trivial
  | cons e es ih => exact fun s hI h => ⟨himp s e hI h.1, ih _ (hnext s e hI h.1) h.2⟩

theorem and (es : List ε) :
    ∀ s, Along next P s es → Along next Q s es → Along next (fun s e => P s e ∧ Q s e) s es := by
  induction es with
  | nil => exact fun _ _ _ => trivial
  | cons e es ih => exact fun s hP hQ => ⟨⟨hP.1, hQ.1⟩, ih _ hP.2 hQ.2⟩

/-- Two properties of events that are the same by an invariant, which the one of them preserves, are
the same along a run. -/
theorem congr (hiff : ∀ s e, I s → R s e → (P s e ↔ Q s e))
    (hnext : ∀ s e, I s → R s e → P s e → I (next s e)) (es : List ε) :
    ∀ s, I s → Along next R s es → (Along next P s es ↔ Along next Q s es) := by
  induction es with
  | nil => exact fun _ _ _ => Iff.rfl
  | cons e es ih =>
      intro s hI hR
      constructor
      · intro hP
        have hQ := (hiff s e hI hR.1).mp hP.1
        exact ⟨hQ, (ih _ (hnext s e hI hR.1 hP.1) hR.2).mp hP.2⟩
      · intro hQ
        have hP := (hiff s e hI hR.1).mpr hQ.1
        exact ⟨hP, (ih _ (hnext s e hI hR.1 hP) hR.2).mpr hQ.2⟩

end Along

end LibNice.Foundation
