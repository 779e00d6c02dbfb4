import Mathlib.Tactic

/-!
Postconditions of computations that may fail.

* `Post E P x`: the computation `x` fails only with errors that satisfy `E`, and
  otherwise returns a value that satisfies `P`.  With `E` false `x` does not fail;
  with `E` true the statement is about the values it returns.
* `Post.bind`, `Post.ite`, `Post.foldlM`: the rules for sequences, branches and loops.
* `Post.mono`, `Post.and`, `Post.eq_ok`: weakening, two postconditions of one
  computation, and the strongest one.
-/

namespace LibNice.Foundation

universe u v

variable {ε : Type u} {α β : Type v} {E E' : ε → Prop} {P Q : α → Prop}

/-- `x` fails only with errors in `E`, and otherwise returns a value in `P`. -/
structure Post (E : ε → Prop) (P : α → Prop) (x : Except ε α) : Prop where
  of_ok : ∀ {a : α}, x = .ok a → P a
  of_error : ∀ {e : ε}, x = .error e → E e

namespace Post

lemma ok {a : α} (h : P a) : Post E P (.ok a) where
  of_ok hx := by
    cases hx
    exact h
  of_error hx := by cases hx

lemma error {e : ε} (h : E e) : Post E P (.error e : Except ε α) where
  of_ok hx := by cases hx
  of_error hx := by
    cases hx
    exact h

lemma pure {a : α} (h : P a) : Post E P (Pure.pure a : Except ε α) := ok h

/-- A sequence: what the first part returns is what the second part starts with. -/
lemma bind {x : Except ε α} {f : α → Except ε β} {R : β → Prop} (hx : Post E P x)
    (hf : ∀ a, P a → Post E R (f a)) : Post E R (x >>= f) := by
  cases x with
  | error e => exact error (hx.of_error rfl)
  | ok a => exact hf a (hx.of_ok rfl)

/-- A sequence that ends with what its first part returns, in another form. -/
lemma bind_pure {x : Except ε α} {f : α → β} {R : β → Prop}
    (hx : Post E (fun a => R (f a)) x) : Post E R (x >>= fun a => Pure.pure (f a)) :=
  hx.bind fun _ h => pure h

lemma ite {c : Prop} [Decidable c] {x y : Except ε α} (hx : c → Post E P x)
    (hy : ¬ c → Post E P y) : Post E P (if c then x else y) := by
  split
  next h => exact hx h
  next h => exact hy h

lemma mono {x : Except ε α} (h : Post E P x) (hE : ∀ e, E e → E' e) (hP : ∀ a, P a → Q a) :
    Post E' Q x :=
  ⟨fun hx => hP _ (h.of_ok hx), fun hx => hE _ (h.of_error hx)⟩

lemma imp {x : Except ε α} (h : Post E P x) (hP : ∀ a, P a → Q a) : Post E Q x :=
  h.mono (fun _ he => he) hP

lemma and {x : Except ε α} (hP : Post E P x) (hQ : Post E' Q x) :
    Post (fun e => E e ∧ E' e) (fun a => P a ∧ Q a) x :=
  ⟨fun hx => ⟨hP.of_ok hx, hQ.of_ok hx⟩, fun hx => ⟨hP.of_error hx, hQ.of_error hx⟩⟩

/-- A loop over a list keeps what every pass keeps. -/
lemma foldlM {γ : Type*} {f : α → γ → Except ε α} {l : List γ} {a : α} (ha : P a)
    (hf : ∀ a c, c ∈ l → P a → Post E P (f a c)) : Post E P (l.foldlM f a) := by
  induction l generalizing a with
  | nil => exact pure ha
  | cons c l ih =>
      rw [List.foldlM_cons]
      exact bind (hf a c List.mem_cons_self ha) fun b hb =>
        ih hb fun a c' hc' => hf a c' (List.mem_cons_of_mem c hc')

/-- A computation without errors returns. -/
lemma exists_ok {x : Except ε α} (h : Post (fun _ => False) P x) : ∃ a, x = .ok a ∧ P a := by
  cases x with
  | error e => exact absurd (h.of_error rfl) id
  | ok a => exact ⟨a, rfl, h.of_ok rfl⟩

/-- The value that a computation returns, of one whose errors are known. -/
lemma eq_ok {x : Except ε α} (h : Post E P x) : Post E (fun a => x = .ok a) x :=
  ⟨fun hx => hx, fun hx => h.of_error hx⟩

/-- What can be observed of a computation that returns. -/
lemma exists_of_map {γ : Type*} {x : Except ε α} {f : α → γ} {c : γ} (h : x.map f = .ok c) :
    ∃ a, x = .ok a ∧ f a = c := by
  cases x with
  | error e => cases h
  | ok a =>
      cases h
      exact ⟨a, rfl, rfl⟩

/-- A postcondition from the values alone. -/
lemma of_forall {x : Except ε α} (h : ∀ a, x = .ok a → P a) : Post (fun _ => True) P x :=
  ⟨fun hx => h _ hx, fun _ => trivial⟩

end Post

end LibNice.Foundation
