import LibNice.PseudoTcp.Calls

/-!
The state machine of a socket.

* `CallStep.stays`: no step of a call leaves CLOSED.
* `call_state`: no call fails the assertion of `set_state`, and none leaves CLOSED.
* `state_machine_sound`: **in every run the assertion holds and CLOSED is final**.
-/

namespace LibNice.PseudoTcp

open LibNice.Foundation

namespace PseudoTcpSocket

variable {env : Env} {op : Op} {s s' : PseudoTcpSocket}

lemma SendSteps.state_eq (h : SendSteps env s s') : s'.state = s.state := core_state h.core_eq

/-- No step of a call leaves CLOSED. -/
lemma CallStep.stays (hc : s.state = .closed) (h : CallStep env op s s') : s'.state = .closed := by
  cases h with
  | note h => exact (congrArg (·.state) h).trans hc
  | attempt _ h => exact (attemptSend_core h).2.trans hc
  | retransmit h => exact ((transmitHead_steps _ _ _).of_ok h).state_eq.trans hc
  | packet _ h => exact (core_state (core_of_quiet (packet_ok h).1)).trans hc
  | connect _ hs => simp [hs] at hc
  | accept _ _ _ hs => simp [hs] at hc
  | opened _ _ _ hs => simp [hs] at hc
  | options _ _ _ _ ho => exact (parseOptions_state ho).trans hc
  | confirmed _ _ hs => simp [hs] at hc
  | send _ hs => simp [hs] at hc
  | shutdown | shutdownReads => exact hc
  | finish hs => simp [hc] at hs
  | finAgain _ hs => simp [hs] at hc
  | closedown | closed => rfl
  | fin _ _ _ h => exact absurd hc (finTransition_valid h).2
  | acked | window | read | openWindow => exact hc
  | setRcvBuf _ hs => simp [hs] at hc
  | setSndBuf _ hs => simp [hs] at hc

/-- No call fails the assertion of `set_state`, and none leaves CLOSED. -/
theorem call_state (env : Env) (s : PseudoTcpSocket) (op : Op) :
    Post (· ≠ .setState) (fun r => s.state = .closed → r.1.state = .closed) (s.call env op) := by
  refine (call_called env s op).imp fun r h hc => ?_
  refine h.invariant (I := fun t => t.state = .closed) hc (fun t u ht hs => hs.stays ht) ?_
  rintro seg t u - ht ⟨r, sflags, b, v, -, hv, hu⟩
  exact ((congrArg (·.state) hu).trans (attemptSend_core hv).2).trans ht

end PseudoTcpSocket

/-! ### Runs -/

/-- A call in a run: what it finds outside the socket, the call, and what it returns. -/
structure Event where
  env : Env
  op : Op
  ret : Ret

/-- A call that returns takes the socket from one state to the next. -/
def Step (s : PseudoTcpSocket) (e : Event) (s' : PseudoTcpSocket) : Prop :=
  s.call e.env e.op = .ok (s', e.ret)

/-- A call that meets a condition on the socket before it and the call. -/
def StepWhen (C : PseudoTcpSocket → Event → Prop) (s : PseudoTcpSocket) (e : Event)
    (s' : PseudoTcpSocket) : Prop :=
  Step s e s' ∧ C s e

/-- Calls one after the other. -/
def PseudoTcpSocket.callAll (s : PseudoTcpSocket) : List (Env × Op) → Except Abort PseudoTcpSocket
  | [] => .ok s
  | (env, op) :: rest => do
      let (s, _) ← s.call env op
      callAll s rest

/-- What calls one after the other reach is reached by a run. -/
lemma run_of_callAll {s s' : PseudoTcpSocket} {l : List (Env × Op)} (h : s.callAll l = .ok s') :
    ∃ es, Run Step s es s' := by
  induction l generalizing s with
  | nil =>
      cases h
      exact ⟨[], .nil⟩
  | cons c l ih =>
      obtain ⟨env, op⟩ := c
      rw [PseudoTcpSocket.callAll] at h
      cases hc : s.call env op with
      | error e =>
          rw [hc] at h
          cases h
      | ok r =>
          obtain ⟨t, ret⟩ := r
          rw [hc] at h
          obtain ⟨es, hrun⟩ := ih h
          have hstep : Step s ⟨env, op, ret⟩ t := hc
          exact ⟨_, (Run.nil.snoc hstep).append hrun⟩

/-- A run to a socket of which something can be observed. -/
lemma run_of_observed {α : Type*} {s : PseudoTcpSocket} {l : List (Env × Op)}
    {f : PseudoTcpSocket → α} {a : α} (h : (s.callAll l).map f = .ok a) :
    ∃ es s', Run Step s es s' ∧ f s' = a := by
  obtain ⟨s', hc, hf⟩ := Post.exists_of_map h
  obtain ⟨es, hrun⟩ := run_of_callAll hc
  exact ⟨es, s', hrun, hf⟩

/-- A run keeps what every call keeps. -/
lemma run_invariant {I : PseudoTcpSocket → Prop} {s₀ s : PseudoTcpSocket} {es : List Event}
    (hcall : ∀ env op t u, I t → PseudoTcpSocket.Called env op t u → I u) (h₀ : I s₀)
    (h : Run Step s₀ es s) : I s :=
  h.invariant h₀ fun t e u ht hstep => hcall _ _ t u ht ((t.call_called e.env e.op).of_ok hstep)

/-- **The state machine is sound**: in every run of a socket the assertion of `set_state`
holds, whatever is called next, and a socket in CLOSED stays there. -/
theorem state_machine_sound (s₀ s : PseudoTcpSocket) (es : List Event) (h : Run Step s₀ es s) :
    (∀ env op, s.call env op ≠ .error .setState) ∧ (s₀.state = .closed → s.state = .closed) := by
  constructor
  · intro env op herr
    exact (s.call_state env op).of_error herr rfl
  · intro hc
    exact h.invariant (I := fun t => t.state = .closed) hc fun t e u ht hstep =>
      (t.call_state e.env e.op).of_ok hstep ht

/-- A `connect` on a socket that `shutdown` has closed is refused. -/
theorem state_machine_sound_sample :
    let memory : ℕ → UInt8 := fun _ => 0
    let env : Env := ⟨fun _ => 1000, memory, fun _ _ => .success⟩
    let s₀ := { pseudoTcpSocketNew 7 true memory memory with state := .closed }
    let s := { s₀ with error := some .EINVAL }
    s.call env .connect ≠ .error .setState ∧ s.state = .closed := by
  intro memory env s₀ s
  have hstep : Step s₀ ⟨env, .connect, { value := 0 }⟩ s := rfl
  have h := state_machine_sound s₀ s _ (.snoc .nil hstep)
  exact ⟨h.1 env .connect, h.2 rfl⟩

end LibNice.PseudoTcp
