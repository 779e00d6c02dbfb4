import LibNice.PseudoTcp.States

/-!
`adjust_tcp_clock` of `agent/agent.c`: the timer of the pseudo-TCP socket of a component.

* `TcpClock`: the fields of a component that the function uses.
* `priv_pseudo_tcp_error` and `adjust_tcp_clock`, as `privPseudoTcpError` and `adjustTcpClock`.
* `getNextClock_cases`: the timeout leaves the socket alone, or closes it.
* `adjustTcpClock_tcp`: so does the adjustment.
-/

namespace LibNice.Agent

open LibNice.Foundation LibNice.PseudoTcp

/-! ### The functions -/

/-- The fields of a component for its pseudo-TCP clock.  `tcpClock` is the time for which the
source is armed, in microseconds of the monotonic clock. -/
structure TcpClock where
  tcp : PseudoTcpSocket
  lastClockTimeout : UInt64
  tcpClock : Option UInt64

/-- `G_MAXINT`. -/
def G_MAXINT : ℤ := 2147483647

/-- `priv_pseudo_tcp_error`, of the socket and its clock. -/
def privPseudoTcpError (env : Env) (c : TcpClock) : Except Abort TcpClock := do
  let tcp ← c.tcp.close env true
  return { c with tcp, tcpClock := none }

/-- The interval of a new source for a timeout, with a `long` of 64 bits. -/
def clockInterval (monotonicTime timeout : UInt64) : ℤ :=
  let now := (monotonicTime / 1000).toUInt32
  let interval := ((timeout - now.toUInt64).toNat : ℤ).bmod (2 ^ 64)
  if interval < 0 ∨ interval > G_MAXINT then G_MAXINT else interval

/-- The part of `adjust_tcp_clock` that arms the source, from GLib 2.36 on. -/
def armTcpClock (monotonicTime : UInt64) (c : TcpClock) (timeout : UInt64) : TcpClock :=
  { c with
    lastClockTimeout := timeout
    tcpClock := match c.tcpClock with
      | some _ => some (timeout * 1000)
      | none => some (monotonicTime + UInt64.ofInt (clockInterval monotonicTime timeout) * 1000) }

/-- `adjust_tcp_clock`, at a time of the monotonic clock in microseconds. -/
def adjustTcpClock (env : Env) (monotonicTime : UInt64) (c : TcpClock) : Except Abort TcpClock :=
  if c.tcp.isClosed then .ok c
  else do
    match ← c.tcp.getNextClock env c.lastClockTimeout with
    | (tcp, true, timeout) =>
        let c := { c with tcp }
        return if timeout ≠ c.lastClockTimeout then armTcpClock monotonicTime c timeout else c
    | (tcp, false, _) => privPseudoTcpError env { c with tcp }

/-! ### The socket -/

section socket

variable {env : Env} {s t : PseudoTcpSocket} {c c' : TcpClock} {monotonicTime timeout : UInt64}

@[simp] lemma armTcpClock_tcp : (armTcpClock monotonicTime c timeout).tcp = c.tcp := rfl

lemma isClosed_iff : s.isClosed = true ↔ s.state = .closed := by
  rw [PseudoTcpSocket.isClosed, decide_eq_true_eq]

/-- A socket that is closed stays so. -/
lemma isClosed_of_call {op : Op} {ret : Ret} (h : s.call env op = .ok (t, ret))
    (hs : s.isClosed = true) : t.isClosed = true := by
  rw [isClosed_iff] at hs ⊢
  exact (s.call_state env op).of_ok h hs

/-- A socket is left alone where there is a next clock, and closed where there is none. -/
lemma getNextClock_cases (env : Env) (s : PseudoTcpSocket) (timeout : UInt64) :
    Post (fun _ => True) (fun r => r.2.1 = true ∧ r.1 = s ∨ r.2.1 = false ∧ r.1.isClosed = true)
      (s.getNextClock env timeout) := by
  unfold PseudoTcpSocket.getNextClock
  dsimp only
  refine Post.ite (fun _ => ?_) fun _ => ?_
  · refine Post.bind ((PseudoTcpSocket.closedown_post _ _ _ _ _).mono (fun _ _ => trivial)
      fun _ h => h) ?_
    rintro _ ⟨u, -, rfl⟩
    exact Post.pure (.inr ⟨rfl, rfl⟩)
  refine Post.ite (fun h => Post.ok (.inr ⟨rfl, isClosed_iff.mpr h.2⟩)) fun _ => ?_
  refine Post.ite (fun _ => Post.ok (.inl ⟨rfl, rfl⟩)) fun _ => ?_
  exact Post.ite (fun _ => Post.ok (.inl ⟨rfl, rfl⟩)) fun _ => Post.ok (.inl ⟨rfl, rfl⟩)

/-- The clock of a socket is adjusted without a change of the socket, unless that closes. -/
theorem adjustTcpClock_tcp (h : adjustTcpClock env monotonicTime c = .ok c') :
    c'.tcp = c.tcp ∨ c'.tcp.isClosed = true := by
  unfold adjustTcpClock at h
  by_cases hclosed : c.tcp.isClosed = true
  · rw [if_pos hclosed] at h
    cases h
    exact .inl rfl
  rw [if_neg hclosed] at h
  obtain ⟨⟨tcp, b, timeout⟩, hnext, h⟩ := bind_eq_ok.mp h
  have hcases := (getNextClock_cases env c.tcp c.lastClockTimeout).of_ok hnext
  cases b with
  | true =>
      obtain rfl : tcp = c.tcp := by simpa using hcases
      obtain rfl := Except.ok.inj h
      left
      split <;> rfl
  | false =>
      have htcp : tcp.isClosed = true := by simpa using hcases
      obtain ⟨tcp', hclose, h⟩ := bind_eq_ok.mp h
      cases h
      have hcall : tcp.call env (.close true) = .ok (tcp', {}) := by
        rw [PseudoTcpSocket.call]
        dsimp only at hclose
        rw [hclose]
        rfl
      exact .inr (isClosed_of_call hcall htcp)

end socket

end LibNice.Agent
