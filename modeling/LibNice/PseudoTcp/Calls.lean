import LibNice.PseudoTcp.Sending

/-!
What a call does to a socket, said once.

* `PseudoTcpSocket.streams`: the part of a socket that its two streams depend on.
* `closeStates`: **the way of `closedown` through the states is always a legal one**.
* `CallStep`: the steps that calls are made of, apart from the receive queue: steps of
  sending, changes of state with what comes with them, acknowledgements, options.
* `Received`: what the receive queue does with a segment, and the answer to it.
* `call_steps`: **every call is a sequence of such steps**, at most one segment goes to
  the receive queue, and no call fails the assertion of `set_state`.
-/

namespace LibNice.PseudoTcp

open LibNice.Foundation

/-- The segment that a call takes in. -/
def Op.segment : Op → Option Segment
  | .notifyPacket buffer => parse buffer
  | _ => none

namespace PseudoTcpSocket

variable {env : Env} {op : Op} {s s' t u : PseudoTcpSocket}

/-! ### Changes of state -/

/-- A legal change of state. -/
lemma setState_eq {new : PseudoTcpState} (h : new = s.state ∨ validTransition s.state new = true) :
    s.setState new = .ok { s with state := new } := by
  unfold setState
  by_cases heq : new = s.state
  · rw [if_pos heq, heq]
  · rw [if_neg heq, if_pos (h.resolve_left heq)]

/-- The callbacks that `set_state_closed` makes. -/
def closedCallbacks : Option Errno → List Callback
  | some e => [.closed e]
  | none => []

lemma setStateClosed_eq {err : Option Errno}
    (h : s.state = .closed ∨ validTransition s.state .closed = true) :
    s.setStateClosed err =
      .ok { s with state := .closed, called := s.called ++ closedCallbacks err } := by
  have hs : s.setState .closed = .ok { s with state := .closed } := setState_eq (h.imp_left Eq.symm)
  simp only [setStateClosed, hs]
  cases err with
  | some e => rfl
  | none => simp [closedCallbacks, bind, Except.bind, pure, Except.pure]

lemma setStateEstablished_eq (h : s.state = .synSent ∨ s.state = .synReceived) :
    s.setStateEstablished =
      .ok { adjustMTU { s with state := .established } with called := s.called ++ [.opened] } := by
  have hs : s.setState .established = .ok { s with state := .established } :=
    setState_eq (.inr (by rcases h with h | h <;> rw [h] <;> rfl))
  simp only [setStateEstablished, hs]
  rfl

/-- A chain of legal changes of state. -/
lemma foldlM_setState (path : List PseudoTcpState) (s : PseudoTcpSocket)
    (h : List.IsChain (fun a b => validTransition a b = true) (s.state :: path)) :
    path.foldlM setState s =
      .ok { s with state := (s.state :: path).getLast (List.cons_ne_nil _ _) } := by
  induction path generalizing s with
  | nil => rfl
  | cons a path ih =>
      rw [List.isChain_cons_cons] at h
      have ha : s.setState a = .ok { s with state := a } := setState_eq (.inr h.1)
      rw [List.foldlM_cons, ha]
      exact ih { s with state := a } h.2

/-- **The way of `closedown` through the states is legal** and ends in CLOSED. -/
theorem closeStates (s : PseudoTcpSocket) (err : Option Errno) :
    ((closedownPath s.state).foldlM setState s >>= fun t => t.setStateClosed err) =
      .ok { s with state := .closed, called := s.called ++ closedCallbacks err } := by
  have hchain : ∀ a,
      List.IsChain (fun a b => validTransition a b = true) (a :: closedownPath a) := by
    intro a
    cases a <;> decide
  have hlast : ∀ a, (a :: closedownPath a).getLast (List.cons_ne_nil _ _) = .closed ∨
      validTransition ((a :: closedownPath a).getLast (List.cons_ne_nil _ _)) .closed = true := by
    intro a
    cases a <;> decide
  rw [foldlM_setState _ s (hchain s.state)]
  exact setStateClosed_eq (hlast s.state)

lemma finTransition_valid {state new : PseudoTcpState} {fin isFinAck : Bool}
    (h : finTransition state fin isFinAck = some new) :
    validTransition state new = true ∧ state ≠ .closed := by
  cases state <;> cases fin <;> cases isFinAck <;> simp [finTransition] at h <;> subst h <;>
    decide

/-! ### Queueing -/

/-- What `queue` does when it does not fail. -/
lemma queue_eq {data : Bytes} {flags : TcpFlags}
    (h : data.length ≤ s.sbuf.getWriteRemaining ∨ flags = FLAG_NONE) :
    s.queue data flags =
      let o := pushSegment s.toOutgoing (data.take s.sbuf.getWriteRemaining).length flags
      .ok ({ s with toOutgoing :=
              { o with sbuf := (o.sbuf.write (data.take s.sbuf.getWriteRemaining)).1 } },
        (o.sbuf.write (data.take s.sbuf.getWriteRemaining)).2) := by
  rw [queue, if_neg]
  rintro ⟨h1, h2⟩
  rcases h with h | h
  · omega
  · exact h2 h

lemma queue_post (s : PseudoTcpSocket) (data : Bytes) (flags : TcpFlags) :
    Post (· ≠ .setState) (fun r => s.queue data flags = .ok r) (s.queue data flags) := by
  refine Post.eq_ok (P := fun _ => True) ?_
  unfold queue
  exact Post.ite (fun _ => Post.error (by simp)) fun _ => Post.ok trivial

lemma queueConnectMessage_post (s : PseudoTcpSocket) :
    Post (· ≠ .setState) (fun t => s.queueConnectMessage = .ok t) s.queueConnectMessage :=
  Post.eq_ok (P := fun _ => True) (Post.bind (queue_post _ _ _) fun _ _ => Post.pure trivial)

lemma queueFinMessage_post (s : PseudoTcpSocket) :
    Post (· ≠ .setState) (fun t => s.queueFinMessage = .ok t) s.queueFinMessage := by
  refine Post.eq_ok (P := fun _ => True) (Post.ite (fun _ => ?_) fun _ => Post.error (by simp))
  exact Post.bind (queue_post _ _ _) fun _ _ => Post.pure trivial

lemma queueRstMessage_post (s : PseudoTcpSocket) :
    Post (· ≠ .setState) (fun t => s.queueRstMessage = .ok t) s.queueRstMessage := by
  refine Post.eq_ok (P := fun _ => True) (Post.ite (fun _ => ?_) fun _ => Post.error (by simp))
  exact Post.bind (queue_post _ _ _) fun _ _ => Post.pure trivial

/-- Queueing changes nothing but the outgoing data. -/
lemma queue_frame {data : Bytes} {flags : TcpFlags} {n : ℕ}
    (h : s.queue data flags = .ok (t, n)) : { t with toOutgoing := s.toOutgoing } = s := by
  unfold queue at h
  dsimp only at h
  split at h <;> cases h
  rfl

lemma queueConnectMessage_frame (h : s.queueConnectMessage = .ok t) :
    { t with toOutgoing := s.toOutgoing, sndWnd := s.sndWnd } = s := by
  unfold queueConnectMessage at h
  cases hq : queue { s with sndWnd := UInt32.ofNat s.connectMessage.length } s.connectMessage
      FLAG_CTL with
  | error e =>
      dsimp only at h
      rw [hq] at h
      cases h
  | ok r =>
      dsimp only at h
      rw [hq] at h
      cases h
      exact congrArg (fun u : PseudoTcpSocket => { u with sndWnd := s.sndWnd }) (queue_frame hq)

/-- What a FIN that is queued is. -/
lemma queueFinMessage_eq (h : s.queueFinMessage = .ok t) :
    s.supportFinAck = true ∧ ∃ n, s.queue [] FLAG_FIN = .ok (t, n) := by
  unfold queueFinMessage at h
  split at h
  next hsup =>
    cases hq : s.queue [] FLAG_FIN with
    | error e =>
        rw [hq] at h
        cases h
    | ok r =>
        rw [hq] at h
        cases h
        exact ⟨hsup, r.2, rfl⟩
  next => cases h

/-- What an RST that is queued is. -/
lemma queueRstMessage_eq (h : s.queueRstMessage = .ok t) :
    s.supportFinAck = true ∧ ∃ n, s.queue [] FLAG_RST = .ok (t, n) := by
  unfold queueRstMessage at h
  split at h
  next hsup =>
    cases hq : s.queue [] FLAG_RST with
    | error e =>
        rw [hq] at h
        cases h
    | ok r =>
        rw [hq] at h
        cases h
        exact ⟨hsup, r.2, rfl⟩
  next => cases h

lemma queueFinMessage_frame (h : s.queueFinMessage = .ok t) :
    { t with toOutgoing := s.toOutgoing } = s :=
  let ⟨_, _, hq⟩ := queueFinMessage_eq h
  queue_frame hq

lemma queueRstMessage_frame (h : s.queueRstMessage = .ok t) :
    { t with toOutgoing := s.toOutgoing } = s :=
  let ⟨_, _, hq⟩ := queueRstMessage_eq h
  queue_frame hq

lemma queueFinMessage_state (h : s.queueFinMessage = .ok t) : t.state = s.state :=
  congrArg (·.state) (queueFinMessage_frame h)

/-! ### Closing -/

/-- What comes before the changes of state in `closedown`: nothing if the peer closes the
connection, and an RST segment, where FIN-ACK is supported, if it is closed here. -/
inductive ClosingFrom (env : Env) (s : PseudoTcpSocket) :
    ClosedownSource → PseudoTcpSocket → Prop
  | byPeer : ClosingFrom env s .closedownRemote s
  | withoutRst (h : s.supportFinAck = false) :
      ClosingFrom env s .closedownLocal { s with shutdown := .forceful }
  | withRst {s₁ t : PseudoTcpSocket} {reading : UInt32} (h : s.supportFinAck = true)
      (hq : s.queueRstMessage = .ok s₁) (hs : s₁.attemptSend env .rst reading = .ok t) :
      ClosingFrom env s .closedownLocal t

/-- What `closedown` does. -/
lemma closedown_post (env : Env) (s : PseudoTcpSocket) (err : Option Errno)
    (source : ClosedownSource) (reading : UInt32) :
    Post (· ≠ .setState) (fun s' => ∃ t, ClosingFrom env s source t ∧
        s' = { t with state := .closed, called := t.called ++ closedCallbacks err })
      (s.closedown env err source reading) := by
  have hclose (t : PseudoTcpSocket) (ht : ClosingFrom env s source t) :
      Post (· ≠ .setState) (fun s' => ∃ t, ClosingFrom env s source t ∧
          s' = { t with state := .closed, called := t.called ++ closedCallbacks err })
        ((closedownPath t.state).foldlM setState t >>= fun u => u.setStateClosed err) := by
    rw [closeStates]
    exact Post.ok ⟨t, ht, rfl⟩
  unfold closedown
  refine Post.bind (P := fun t => ClosingFrom env s source t) ?_ hclose
  unfold closedownSource
  refine Post.ite (fun h => ?_) fun h => Post.ite (fun hl => ?_) fun hl => ?_
  · obtain ⟨rfl, hf⟩ := h
    refine Post.bind (queueRstMessage_post s) fun s₁ hq => ?_
    exact (attemptSend_steps env s₁ .rst reading).eq_ok.imp fun _ h => .withRst hf hq h
  · subst hl
    exact Post.ok (.withoutRst (by simpa using h))
  · cases source with
    | closedownLocal => exact absurd rfl hl
    | closedownRemote => exact Post.ok .byPeer

/-! ### The steps of a call -/

/-- The part of a socket that its two streams depend on: the rest is blanked out. -/
def streams (s : PseudoTcpSocket) : PseudoTcpSocket :=
  { s with
    called := []
    error := none
    bReadEnable := false
    bWriteEnable := false
    bOutgoing := false
    lastTraffic := 0
    lastrecv := 0
    lastsend := 0
    mss := 0
    msslevel := 0
    largest := 0
    mtuAdvise := 0
    rtoBase := 0
    tsRecent := 0
    tsLastack := 0
    rxRttvar := 0
    rxSrtt := 0
    rxRto := 0
    ssthresh := 0
    cwnd := 0
    dupAcks := 0
    recover := 0
    tAck := 0 }

/-- Whether a valuable acknowledgement acknowledges the FIN. -/
def isFinAck (s : PseudoTcpSocket) (seg : Segment) : Prop :=
  (seg.ack - s.sndUna).toNat = s.sbuf.dataLength + 1 ∧ s.state.hasSentFin

instance (s : PseudoTcpSocket) (seg : Segment) : Decidable (s.isFinAck seg) :=
  inferInstanceAs (Decidable (_ ∧ _))

/-- The number of bytes that a valuable acknowledgement takes out of the send buffer. -/
def ackedBytes (s : PseudoTcpSocket) (seg : Segment) : ℕ :=
  if s.isFinAck seg then (seg.ack - s.sndUna).toNat - 1 else (seg.ack - s.sndUna).toNat

/-- One step of a call, other than the receipt of data. -/
inductive CallStep (env : Env) (op : Op) (s : PseudoTcpSocket) : PseudoTcpSocket → Prop
  /-- A change that the streams do not depend on. -/
  | note {s' : PseudoTcpSocket} (h : s'.streams = s.streams) : CallStep env op s s'
  /-- `attempt_send`, other than for a FIN or an RST. -/
  | attempt {sflags : SendFlags} {reading : UInt32} {s' : PseudoTcpSocket}
      (hflags : sflags ≠ .fin ∧ sflags ≠ .rst) (h : s.attemptSend env sflags reading = .ok s') :
      CallStep env op s s'
  /-- The first segment of the queue is transmitted again. -/
  | retransmit {now : UInt32} {b : Bool} {s' : PseudoTcpSocket}
      (h : s.transmitHead env now = .ok (s', b)) : CallStep env op s s'
  /-- A packet without payload. -/
  | packet {seq now : UInt32} {r : PseudoTcpWriteResult} {s' : PseudoTcpSocket}
      (hseq : seq = s.sndNxt ∨ seq = s.sndNxt - 1)
      (h : s.packet env seq FLAG_NONE 0 0 now = .ok (s', r)) : CallStep env op s s'
  | connect {s' : PseudoTcpSocket} (hop : op = .connect) (hs : s.state = .listen)
      (h : queueConnectMessage { s with state := .synSent } = .ok s') : CallStep env op s s'
  /-- A CONNECT is answered by a CONNECT. -/
  | accept {seg : Segment} {opts : Bytes} {t s' : PseudoTcpSocket} (hseg : op.segment = some seg)
      (hctl : seg.flags.has FLAG_CTL = true) (hdata : seg.data = CTL_CONNECT :: opts)
      (hs : s.state = .listen) (ho : s.parseOptions env opts = .ok t)
      (h : queueConnectMessage { t with state := .synReceived } = .ok s') : CallStep env op s s'
  /-- A CONNECT answers the one of the socket. -/
  | opened {seg : Segment} {opts : Bytes} {t : PseudoTcpSocket} (hseg : op.segment = some seg)
      (hctl : seg.flags.has FLAG_CTL = true) (hdata : seg.data = CTL_CONNECT :: opts)
      (hs : s.state = .synSent) (ho : s.parseOptions env opts = .ok t) :
      CallStep env op s { t with state := .established }
  /-- A CONNECT in another state. -/
  | options {seg : Segment} {opts : Bytes} {s' : PseudoTcpSocket} (hseg : op.segment = some seg)
      (hctl : seg.flags.has FLAG_CTL = true) (hdata : seg.data = CTL_CONNECT :: opts)
      (hs : s.state ≠ .listen ∧ s.state ≠ .synSent) (ho : s.parseOptions env opts = .ok s') :
      CallStep env op s s'
  /-- The first segment after the CONNECT. -/
  | confirmed {seg : Segment} (hseg : op.segment = some seg)
      (hctl : seg.flags.has FLAG_CTL = false) (hs : s.state = .synReceived) :
      CallStep env op s { s with state := .established }
  | send {data : Bytes} {s' : PseudoTcpSocket} {n : ℕ} (hop : op = .send data)
      (hs : s.state = .established) (h : s.queue data FLAG_NONE = .ok (s', n)) :
      CallStep env op s s'
  | shutdown (h : s.supportFinAck = false) : CallStep env op s { s with shutdown := .graceful }
  | shutdownReads (hop : op = .shutdown .rd ∨ op = .shutdown .rdwr ∨ op = .close false ∨
        op = .close true ∧ s.state = .closed) :
      CallStep env op s { s with shutdownReads := true }
  /-- A FIN is queued and the queue flushed. -/
  | finish {t u : PseudoTcpSocket} {new : PseudoTcpState} {reading : UInt32}
      (hs : (s.state = .synReceived ∨ s.state = .established) ∧ new = .finWait1 ∨
        s.state = .closeWait ∧ new = .lastAck)
      (hq : s.queueFinMessage = .ok t) (ht : t.attemptSend env .fin reading = .ok u) :
      CallStep env op s { u with state := new }
  /-- The clock queues another FIN. -/
  | finAgain {t s' : PseudoTcpSocket} {reading : UInt32} (hop : op = .notifyClock)
      (hs : s.state = .lastAck) (hq : s.queueFinMessage = .ok t)
      (ht : t.attemptSend env .fin reading = .ok s') : CallStep env op s s'
  | closedown {source : ClosedownSource} {t : PseudoTcpSocket} (h : ClosingFrom env s source t) :
      CallStep env op s { t with state := .closed }
  | closed (hs : s.state = .listen ∨ s.state = .synSent ∨ s.state = .timeWait) :
      CallStep env op s { s with state := .closed }
  /-- A FIN, or the acknowledgement of one. -/
  | fin {seg : Segment} {new : PseudoTcpState} {isFinAck : Bool} (hseg : op.segment = some seg)
      (hsup : s.supportFinAck = true)
      (hdata : seg.flags.has FLAG_FIN = true → seg.data = [])
      (h : finTransition s.state (seg.flags.has FLAG_FIN) isFinAck = some new) :
      CallStep env op s { s with state := new }
  /-- A valuable acknowledgement. -/
  | acked {seg : Segment} {sbuf : PseudoTcpFifo} {slist : List SSegment} {largest largest' : ℕ}
      (hseg : op.segment = some seg) (hlarger : larger seg.ack s.sndUna = true)
      (hsmaller : smallerOrEqual seg.ack s.sndNxt = true)
      (hbuf : s.sbuf.consumeReadData (s.ackedBytes seg) = .ok sbuf)
      (hfree : freeAcked (s.ackedBytes seg) s.slist largest = .ok (slist, largest')) :
      CallStep env op s { s with
        sndWnd := seg.wnd.toUInt32 <<< s.swndScale.toUInt32, sndUna := seg.ack, sbuf, slist }
  /-- A duplicate acknowledgement. -/
  | window {seg : Segment} (hseg : op.segment = some seg) (hack : seg.ack = s.sndUna) :
      CallStep env op s { s with sndWnd := seg.wnd.toUInt32 <<< s.swndScale.toUInt32 }
  | read {len : ℕ} (hop : op = .recv len) :
      CallStep env op s { s with rbuf := (s.rbuf.read len).1 }
  /-- The window is opened up to the free space. -/
  | openWindow {len : ℕ} (hop : op = .recv len) :
      CallStep env op s { s with rcvWnd := UInt32.ofNat s.rbuf.getWriteRemaining }
  | setRcvBuf {size : UInt32} {s' : PseudoTcpSocket} (hop : op = .setRcvBuf size)
      (hs : s.state = .listen) (h : s.resizeReceiveBuffer env (max 1 size) = .ok s') :
      CallStep env op s s'
  | setSndBuf {size : UInt32} (hop : op = .setSndBuf size) (hs : s.state = .listen) :
      CallStep env op s (s.resizeSendBuffer env (max 1 size))

/-- A sequence of steps of a call. -/
abbrev CallSteps (env : Env) (op : Op) : PseudoTcpSocket → PseudoTcpSocket → Prop :=
  Relation.ReflTransGen (CallStep env op)

/-- What every step of a call preserves holds after any number of them. -/
theorem CallSteps.invariant {I : PseudoTcpSocket → Prop} (h : CallSteps env op s s') (h₀ : I s)
    (hstep : ∀ t u, I t → CallStep env op t u → I u) : I s' := by
  induction h with
  | refl => exact h₀
  | tail _ hs ih => exact hstep _ _ ih hs

lemma CallStep.steps (h : CallStep env op s s') : CallSteps env op s s' :=
  Relation.ReflTransGen.single h

lemma callSteps_note (h : s'.streams = s.streams) : CallSteps env op s s' :=
  CallStep.steps (.note h)

/-- The receive queue takes a segment, and the socket answers. -/
structure Received (env : Env) (s : PseudoTcpSocket) (seg : Segment) (s' : PseudoTcpSocket) :
    Prop where
  intro ::
  receive : ∃ r sflags b t, s.toIncoming.receive s.ackDelay (s.ignoresData seg) seg =
    .ok (r, sflags, b) ∧ attemptSend env { s with toIncoming := r } sflags (env.clock 1) = .ok t ∧
      s'.streams = t.streams

lemma attemptSend_core {sflags : SendFlags} {reading : UInt32}
    (h : s.attemptSend env sflags reading = .ok s') : s'.core = s.core ∧ s'.state = s.state := by
  have hc := ((attemptSend_steps env s sflags reading).of_ok h).core_eq
  exact ⟨hc, core_state hc⟩

/-- A segment that `process` neither refuses nor takes as the end of the connection. -/
structure Takes (s : PseudoTcpSocket) (seg : Segment) : Prop where
  conv : seg.conv = s.conv
  state : s.state ≠ .closed
  data : s.state.hasSentFin = true → seg.data = []
  rst : seg.flags.has FLAG_RST = false

/-- What a call does: steps, and at most one segment that the receive queue takes. -/
def Called (env : Env) (op : Op) (s s' : PseudoTcpSocket) : Prop :=
  CallSteps env op s s' ∨ ∃ seg t, op.segment = some seg ∧ s.Takes seg ∧
    CallSteps env op s t ∧ Received env t seg s'

lemma CallSteps.of_eq_streams (h : CallSteps env op s t) (ht : s'.streams = t.streams) :
    CallSteps env op s s' := h.tail (.note ht)

/-! ### Parts of calls -/

lemma attemptSend_called (op : Op) (env : Env) (s : PseudoTcpSocket) {sflags : SendFlags}
    (reading : UInt32) (hflags : sflags ≠ .fin ∧ sflags ≠ .rst) :
    Post (· ≠ .setState) (fun t => CallSteps env op s t) (s.attemptSend env sflags reading) :=
  (attemptSend_steps env s sflags reading).eq_ok.imp fun _ h => CallStep.steps (.attempt hflags h)

lemma transmitHead_called (op : Op) (env : Env) (s : PseudoTcpSocket) (now : UInt32) :
    Post (· ≠ .setState) (fun r => CallSteps env op s r.1) (s.transmitHead env now) :=
  (transmitHead_steps env s now).eq_ok.imp fun _ h => CallStep.steps (.retransmit h)

lemma packet_ack_called (op : Op) (env : Env) (s : PseudoTcpSocket) {seq : UInt32} (now : UInt32)
    (hseq : seq = s.sndNxt ∨ seq = s.sndNxt - 1) :
    Post (· ≠ .setState) (fun r => CallSteps env op s r.1) (s.packet env seq FLAG_NONE 0 0 now) :=
  ((packet_ack_steps env s now hseq).mono (fun _ h => h.elim) fun _ h => h).eq_ok.imp
    fun _ h => CallStep.steps (.packet hseq h)

lemma closedown_called (op : Op) (env : Env) (s : PseudoTcpSocket) (err : Option Errno)
    (source : ClosedownSource) (reading : UInt32) :
    Post (· ≠ .setState) (fun t => CallSteps env op s t) (s.closedown env err source reading) := by
  refine (closedown_post env s err source reading).imp ?_
  rintro _ ⟨t, ht, rfl⟩
  exact (CallStep.steps (.closedown ht)).of_eq_streams rfl

lemma parseOptions_post (env : Env) (s : PseudoTcpSocket) (data : Bytes) :
    Post (· ≠ .setState) (fun t => s.parseOptions env data = .ok t) (s.parseOptions env data) := by
  refine Post.eq_ok (P := fun _ => True) ?_
  unfold parseOptions
  refine Post.ite (fun _ => ?_) fun _ => Post.ok trivial
  refine Post.bind (P := fun _ => True) ?_ fun t _ => Post.pure trivial
  unfold withoutWindowScaling
  refine Post.ite (fun _ => ?_) fun _ => Post.ok trivial
  refine Post.bind (P := fun _ => True) ?_ fun t _ => Post.pure trivial
  unfold resizeReceiveBuffer
  refine Post.ite (fun _ => Post.ok trivial) fun _ => ?_
  dsimp only
  split
  · exact Post.error (by simp)
  · exact Post.ok trivial

/-- What the options of a CONNECT segment leave alone: the rest is blanked out. -/
def beyondOptions (s : PseudoTcpSocket) : PseudoTcpSocket :=
  { s with
    rbuf := PseudoTcpFifo.init (fun _ => 0) 0
    rbufLen := 0
    rwndScale := 0
    rcvWnd := 0
    ssthresh := 0
    swndScale := 0
    supportFinAck := false }

lemma resizeReceiveBuffer_beyond {newSize : UInt32}
    (h : s.resizeReceiveBuffer env newSize = .ok t) :
    t.beyondOptions = s.beyondOptions := by
  unfold resizeReceiveBuffer at h
  split at h
  · cases h
    rfl
  · dsimp only at h
    split at h
    · cases h
    · cases h
      rfl

lemma applyOption_beyond (s : PseudoTcpSocket) (kind : UInt8) (data : Bytes) :
    (s.applyOption kind data).beyondOptions = s.beyondOptions := by
  unfold applyOption
  split
  · split <;> rfl
  · split <;> rfl

lemma optionsLoop_beyond (fuel : ℕ) (data : Bytes) (s : PseudoTcpSocket) (o : Options) :
    (optionsLoop fuel data s o).1.beyondOptions = s.beyondOptions := by
  induction fuel generalizing data s o with
  | zero => rfl
  | succ fuel ih =>
      cases data with
      | nil => rfl
      | cons kind data =>
          unfold optionsLoop
          split
          · rfl
          · split
            · exact ih data s o
            · cases data with
              | nil => rfl
              | cons optLen data =>
                  dsimp only
                  split
                  · rfl
                  · exact (ih ..).trans (applyOption_beyond ..)

/-- The options of a CONNECT change the receive buffer, the windows and what is supported. -/
lemma parseOptions_beyond {data : Bytes} (h : s.parseOptions env data = .ok t) :
    t.beyondOptions = s.beyondOptions := by
  unfold parseOptions at h
  have hloop := optionsLoop_beyond data.length data s {}
  generalize optionsLoop data.length data s {} = r at h hloop
  obtain ⟨u, o⟩ := r
  dsimp only at h hloop
  split at h
  · unfold applyMissingOptions withoutWindowScaling at h
    split at h
    · cases hr : u.resizeReceiveBuffer env DEFAULT_RCV_BUF_SIZE with
      | error e =>
          rw [hr] at h
          cases h
      | ok v =>
          rw [hr] at h
          cases h
          refine Eq.trans ?_ ((resizeReceiveBuffer_beyond hr).trans hloop)
          split <;> rfl
    · cases h
      refine Eq.trans ?_ hloop
      split <;> rfl
  · cases h
    exact hloop

lemma parseOptions_state {data : Bytes} (h : s.parseOptions env data = .ok t) :
    t.state = s.state := congrArg (·.state) (parseOptions_beyond h)

/-! ### Taking a packet in -/

lemma receiveControl_called (env : Env) (s : PseudoTcpSocket) {seg : Segment}
    (hseg : op.segment = some seg) :
    Post (· ≠ .setState)
      (fun r => CallSteps env op s r.1 ∧ (r.2 = some false → seg.flags.has FLAG_CTL = false))
      (s.receiveControl env seg) := by
  unfold receiveControl
  refine Post.ite (fun hctl => ?_) fun hctl => Post.ok ⟨.refl, fun _ => by simpa using hctl⟩
  cases hdata : seg.data with
  | nil => exact Post.ok ⟨.refl, by simp⟩
  | cons code opts =>
      dsimp only
      refine Post.ite (fun _ => Post.ok ⟨.refl, by simp⟩) fun hcode => ?_
      rw [not_not] at hcode
      subst hcode
      refine Post.bind (parseOptions_post env s opts) fun t ho => ?_
      have hst := parseOptions_state ho
      suffices h : Post (· ≠ .setState) (fun u => CallSteps env op s u) t.answerConnect from
        Post.bind h fun u hu => Post.pure ⟨hu, by simp⟩
      unfold answerConnect
      split
      next hl =>
        rw [setState_eq (.inr (by rw [hl]; rfl))]
        refine (queueConnectMessage_post _).imp fun u hu => ?_
        exact CallStep.steps (.accept hseg hctl hdata (hst ▸ hl) ho hu)
      next hl =>
        rw [setStateEstablished_eq (.inl hl)]
        refine Post.ok ?_
        exact (CallStep.steps (.opened hseg hctl hdata (hst ▸ hl) ho)).of_eq_streams rfl
      next h1 h2 =>
        refine Post.ok (CallStep.steps (.options hseg hctl hdata ?_ ho))
        exact ⟨fun h => h1 (hst.trans h), fun h => h2 (hst.trans h)⟩

lemma congestionAcked_called (op : Op) (env : Env) (s : PseudoTcpSocket) (nAcked : ℕ)
    (now : UInt32) :
    Post (· ≠ .setState) (fun r => CallSteps env op s r.1) (s.congestionAcked env nAcked now) := by
  unfold congestionAcked
  refine Post.ite (fun _ => ?_) fun _ => ?_
  · refine Post.ite (fun _ => Post.ok (callSteps_note rfl)) fun _ => ?_
    refine Post.bind (transmitHead_called op env s now) ?_
    rintro ⟨t, _ | _⟩ h
    · exact Post.pure h
    · exact Post.pure (h.of_eq_streams rfl)
  · refine Post.ite (fun _ => Post.ok (callSteps_note rfl)) fun _ => ?_
    exact Post.ite (fun _ => Post.error (by simp)) fun _ => Post.ok (callSteps_note rfl)

lemma consumeReadData_post (b : PseudoTcpFifo) (n : ℕ) {E : Abort → Prop}
    (hE : ¬ n ≤ b.dataLength → E .consumeReadData) :
    Post E (fun b' => b.consumeReadData n = .ok b') (b.consumeReadData n) := by
  unfold PseudoTcpFifo.consumeReadData
  split
  next h => exact Post.ok rfl
  next h => exact Post.error (hE h)

lemma freeAcked_post (n : ℕ) (slist : List SSegment) (largest : ℕ) :
    Post (· ≠ .setState) (fun r => freeAcked n slist largest = .ok r)
      (freeAcked n slist largest) := by
  refine Post.eq_ok (P := fun _ => True) ?_
  induction slist generalizing n largest with
  | nil =>
      cases n with
      | zero => exact Post.ok trivial
      | succ n => exact Post.error (by simp)
  | cons g slist ih =>
      cases n with
      | zero => exact Post.ok trivial
      | succ n =>
          unfold freeAcked
          exact Post.ite (fun _ => Post.ok trivial) fun _ => ih _ _

lemma valuableAck_called (env : Env) (s : PseudoTcpSocket) {seg : Segment} (now : UInt32)
    (hseg : op.segment = some seg) (hlarger : larger seg.ack s.sndUna = true)
    (hsmaller : smallerOrEqual seg.ack s.sndNxt = true) :
    Post (· ≠ .setState) (fun r => CallSteps env op s r.1) (s.valuableAck env seg now) := by
  unfold valuableAck
  refine Post.bind (consumeReadData_post _ _ (by simp)) fun sbuf hbuf => ?_
  refine Post.bind (freeAcked_post _ _ _) fun fr hfree => ?_
  have hstep : CallStep env op s { s with
      sndWnd := seg.wnd.toUInt32 <<< s.swndScale.toUInt32, sndUna := seg.ack, sbuf
      slist := fr.1 } := .acked hseg hlarger hsmaller hbuf hfree
  refine Post.bind (congestionAcked_called op env _ _ _) fun r h => Post.pure ?_
  refine Relation.ReflTransGen.trans ?_ h
  exact hstep.steps.of_eq_streams rfl

lemma duplicateAck_called (env : Env) (s : PseudoTcpSocket) {seg : Segment} (now : UInt32)
    (hseg : op.segment = some seg) (hack : seg.ack = s.sndUna) :
    Post (· ≠ .setState) (fun r => CallSteps env op s r.1) (s.duplicateAck env seg now) := by
  have hstep : CallSteps env op s
      { s with sndWnd := seg.wnd.toUInt32 <<< s.swndScale.toUInt32 } :=
    CallStep.steps (.window hseg hack)
  unfold duplicateAck
  dsimp only
  refine Post.ite (fun _ => Post.ok hstep) fun _ => ?_
  refine Post.ite (fun _ => ?_) fun _ => Post.ok (hstep.of_eq_streams rfl)
  refine Post.ite (fun _ => ?_) fun _ => Post.ite (fun _ => Post.ok (hstep.of_eq_streams rfl))
    fun _ => Post.ok (hstep.of_eq_streams rfl)
  refine Post.bind (transmitHead_called op env _ now) ?_
  rintro ⟨t, b⟩ h
  have h' : CallSteps env op s t := by
    refine Relation.ReflTransGen.trans ?_ h
    exact hstep.of_eq_streams rfl
  cases b with
  | false => exact Post.pure h'
  | true => exact Post.pure (h'.of_eq_streams rfl)

lemma updateRtt_streams {seg : Segment} {now : UInt32} (h : s.updateRtt seg now = some s') :
    s'.streams = s.streams := by
  unfold updateRtt at h
  split at h
  · cases h
    rfl
  · dsimp only at h
    split at h
    · cases h
      split <;> rfl
    · cases h

lemma receiveAck_called (env : Env) (s : PseudoTcpSocket) {seg : Segment} (now : UInt32)
    (hseg : op.segment = some seg) :
    Post (· ≠ .setState) (fun r => CallSteps env op s r.1) (s.receiveAck env seg now) := by
  have haborted {t : PseudoTcpSocket} (ht : CallSteps env op s t) :
      Post (· ≠ .setState) (fun r => CallSteps env op s r.1)
        (do
          let u ← t.closedown env (some .ECONNABORTED) .closedownLocal (env.clock 1)
          return ((u, none) : PseudoTcpSocket × Option Bool)) :=
    Post.bind (closedown_called op env t _ _ _) fun u hu => Post.pure (ht.trans hu)
  unfold receiveAck
  dsimp only
  refine Post.ite (fun hval => ?_) fun _ => Post.ite (fun hdup => ?_) fun _ => Post.ok .refl
  · rw [Bool.and_eq_true] at hval
    cases hr : s.updateRtt seg now with
    | none => exact Post.ok .refl
    | some t =>
        have hs := updateRtt_streams hr
        have hst : CallSteps env op s t := callSteps_note hs
        have hu : t.sndUna = s.sndUna := congrArg (·.sndUna) hs
        have hn : t.sndNxt = s.sndNxt := congrArg (·.sndNxt) hs
        refine Post.bind (valuableAck_called env t now hseg (hu ▸ hval.1) (hn ▸ hval.2)) ?_
        rintro ⟨u, f, _ | _⟩ h
        · exact haborted (hst.trans h)
        · exact Post.pure (hst.trans h)
  · refine Post.bind (duplicateAck_called env s now hseg (by simpa using hdup)) ?_
    rintro ⟨u, _ | _⟩ h
    · exact haborted h
    · exact Post.pure h

lemma openOnSegment_called (env : Env) (s : PseudoTcpSocket) {seg : Segment} {bConnect : Bool}
    (hseg : op.segment = some seg) (hctl : bConnect = false → seg.flags.has FLAG_CTL = false) :
    Post (· ≠ .setState) (fun t => CallSteps env op s t) (s.openOnSegment bConnect) := by
  unfold openOnSegment
  refine Post.ite (fun h => ?_) fun _ => Post.ok .refl
  rw [setStateEstablished_eq (.inr h.1)]
  have hc : bConnect = false := by simpa using h.2
  exact Post.ok ((CallStep.steps (.confirmed hseg (hctl hc) h.1)).of_eq_streams rfl)

lemma receiveFin_called (env : Env) (s : PseudoTcpSocket) {seg : Segment} (isFinAck : Bool)
    (hseg : op.segment = some seg) :
    Post (· ≠ .setState) (fun r => CallSteps env op s r.1) (s.receiveFin seg isFinAck) := by
  unfold receiveFin
  refine Post.ite (fun hsup => ?_) fun _ => Post.ok .refl
  refine Post.ite (fun _ => Post.ok .refl) fun hfin => ?_
  have hdata : seg.flags.has FLAG_FIN = true → seg.data = [] := by
    intro h
    simpa [h] using hfin
  split
  next => exact Post.ok .refl
  next h =>
    rw [setStateClosed_eq (.inr (finTransition_valid h).1)]
    exact Post.ok ((CallStep.steps (.fin hseg hsup hdata h)).of_eq_streams rfl)
  next h =>
    rw [setState_eq (.inr (finTransition_valid h).1)]
    exact Post.ok (CallStep.steps (.fin hseg hsup hdata h))

lemma consumeWriteBuffer_post (b : PseudoTcpFifo) (n : ℕ) {E : Abort → Prop}
    (hE : ¬ n ≤ b.bufferLength - b.dataLength → E .consumeWriteBuffer) :
    Post E (fun b' => b.consumeWriteBuffer n = .ok b') (b.consumeWriteBuffer n) := by
  unfold PseudoTcpFifo.consumeWriteBuffer
  split
  next h => exact Post.ok rfl
  next h => exact Post.error (hE h)

lemma recoverLoop_error (r : Incoming) (sflags : SendFlags) (rlist : List RSegment) :
    Post (· ≠ .setState) (fun _ => True) (r.recoverLoop sflags rlist) := by
  induction rlist generalizing r sflags with
  | nil => exact Post.ok trivial
  | cons e rlist ih =>
      unfold Incoming.recoverLoop
      refine Post.ite (fun _ => ?_) fun _ => Post.ok trivial
      refine Post.ite (fun _ => ?_) fun _ => ih _ _
      exact Post.bind (consumeWriteBuffer_post _ _ (by simp)) fun _ _ => ih _ _

lemma receive_error (r : Incoming) (ackDelay : UInt32) (ignoreData : Bool) (seg : Segment) :
    Post (· ≠ .setState) (fun _ => True) (r.receive ackDelay ignoreData seg) := by
  unfold Incoming.receive
  dsimp only
  refine Post.ite (fun _ =>
    Post.ite (fun _ => Post.ok trivial) fun _ => Post.ok trivial) fun _ => ?_
  refine Post.ite (fun _ => ?_) fun _ => Post.ok trivial
  refine Post.ite (fun _ =>
    Post.ite (fun _ => Post.ok trivial) fun _ => Post.ok trivial) fun _ => ?_
  unfold Incoming.receiveData
  dsimp only
  refine Post.ite (fun _ => Post.error (by simp)) fun _ => Post.ite (fun _ => ?_)
    fun _ => Post.ok trivial
  refine Post.bind (consumeWriteBuffer_post _ _ (by simp)) fun _ _ => ?_
  exact Post.bind (recoverLoop_error _ _ _) fun _ _ => Post.pure trivial

lemma receiveData_received (env : Env) (s : PseudoTcpSocket) (seg : Segment) :
    Post (· ≠ .setState) (fun t => Received env s seg t) (s.receiveData env seg) := by
  unfold receiveData
  refine Post.bind (receive_error _ _ _ _).eq_ok fun r hr => ?_
  refine Post.bind (attemptSend_steps env _ _ _).eq_ok fun t ht => Post.pure ?_
  refine ⟨r.1, r.2.1, r.2.2, t, hr, ht, ?_⟩
  split <;> rfl

lemma notifyWritable_streams (s : PseudoTcpSocket) : s.notifyWritable.streams = s.streams := by
  unfold notifyWritable
  dsimp only
  split <;> rfl

lemma updateTimestamp_streams (s : PseudoTcpSocket) (seg : Segment) :
    (s.updateTimestamp seg).streams = s.streams := by
  unfold updateTimestamp
  split <;> rfl

/-- A segment that is neither refused nor a reset. -/
lemma processSegment_called (env : Env) (s : PseudoTcpSocket) {seg : Segment} (now : UInt32)
    (hseg : op.segment = some seg) (htakes : s.Takes seg) :
    Post (· ≠ .setState) (fun r => Called env op s r.1) (s.processSegment env seg now) := by
  unfold processSegment
  refine Post.bind (receiveControl_called env s hseg) ?_
  rintro ⟨t, _ | bConnect⟩ ⟨ht, hctl⟩
  · exact Post.pure (.inl ht)
  have ht' := ht.of_eq_streams (updateTimestamp_streams t seg)
  refine Post.bind (receiveAck_called env _ now hseg) ?_
  rintro ⟨u, _ | isFinAck⟩ hu
  · exact Post.pure (.inl (ht'.trans hu))
  refine Post.bind (openOnSegment_called env u hseg fun h => hctl (by rw [h])) fun w hw => ?_
  refine Post.bind (receiveFin_called env w isFinAck hseg) ?_
  have hw' := (ht'.trans hu).trans hw
  rintro ⟨v, _ | _⟩ hv
  · exact Post.pure (.inl (hw'.trans hv))
  have hv' := CallSteps.of_eq_streams (hw'.trans hv) (notifyWritable_streams v)
  refine Post.bind (receiveData_received env _ seg) fun x hx => ?_
  exact Post.pure (.inr ⟨seg, _, hseg, htakes, hv', hx⟩)

/-- A segment that passes the checks at the start of `process`. -/
lemma takes_of {seg : Segment} (hconv : ¬ seg.conv ≠ s.conv)
    (hopen : ¬ (s.state = .closed ∨ s.state.hasSentFin = true ∧ seg.data.length > 0))
    (hrst : ¬ seg.flags.has FLAG_RST = true) : s.Takes seg := by
  rw [not_or] at hopen
  exact
    { conv := not_not.mp hconv
      state := hopen.1
      data := fun hfin => by
        by_contra hne
        exact hopen.2 ⟨hfin, List.length_pos_of_ne_nil hne⟩
      rst := by simpa using hrst }

lemma process_called (env : Env) (s : PseudoTcpSocket) {seg : Segment}
    (hseg : op.segment = some seg) :
    Post (· ≠ .setState) (fun r => Called env op s r.1) (s.process env seg) := by
  unfold process
  refine Post.ite (fun _ => Post.ok (.inl .refl)) fun hconv => ?_
  dsimp only
  generalize s.getCurrentTime (env.clock 0) = now
  have harr : CallSteps env op s (s.noteArrival now) := callSteps_note rfl
  refine Post.ite (fun _ => ?_) fun hopen => Post.ite (fun _ => ?_) fun hrst => ?_
  · refine Post.ite (fun _ => Post.ok (.inl harr)) fun _ => ?_
    exact Post.bind (closedown_called op env _ _ _ _) fun t ht => Post.pure (.inl (harr.trans ht))
  · exact Post.bind (closedown_called op env _ _ _ _) fun t ht => Post.pure (.inl (harr.trans ht))
  · have htakes : s.Takes seg := takes_of hconv hopen hrst
    refine (processSegment_called env (s.noteArrival now) now hseg { htakes with }).imp ?_
    rintro r (h | ⟨seg', t, h1, -, h2, h3⟩)
    · exact .inl (harr.trans h)
    · obtain rfl : seg' = seg := Option.some.inj (h1.symm.trans hseg)
      exact .inr ⟨seg', t, h1, htakes, harr.trans h2, h3⟩

/-! ### Calls -/

lemma shutdownSocket_called (env : Env) (s : PseudoTcpSocket) (how : PseudoTcpShutdown)
    (hop : how ≠ .wr → op = .shutdown .rd ∨ op = .shutdown .rdwr ∨ op = .close false ∨
      op = .close true ∧ s.state = .closed) :
    Post (· ≠ .setState) (fun t => CallSteps env op s t) (s.shutdownSocket env how) := by
  unfold shutdownSocket
  refine Post.ite (fun hsup => ?_) fun _ => ?_
  · refine Post.ok ?_
    split
    · exact CallStep.steps (.shutdown (by simpa using hsup))
    · exact .refl
  dsimp only
  have hst : CallSteps env op s (if how = .wr then s else { s with shutdownReads := true }) := by
    split
    next => exact .refl
    next h => exact CallStep.steps (.shutdownReads (hop h))
  generalize (if how = .wr then s else { s with shutdownReads := true }) = t at hst
  refine Post.ite (fun _ => Post.ok hst) fun _ => ?_
  have hfin (new : PseudoTcpState)
      (hs : (t.state = .synReceived ∨ t.state = .established) ∧ new = .finWait1 ∨
        t.state = .closeWait ∧ new = .lastAck) :
      Post (· ≠ .setState) (fun s' => CallSteps env op s s')
        (do
          let u ← t.queueFinMessage
          let u ← u.attemptSend env .fin (env.clock 0)
          u.setState new) := by
    refine Post.bind (queueFinMessage_post t) fun u hu => ?_
    refine Post.bind (attemptSend_steps env u _ _).eq_ok fun v hv => ?_
    have hv' : v.state = t.state := (attemptSend_core hv).2.trans (queueFinMessage_state hu)
    rw [setState_eq (.inr ?_)]
    · exact Post.ok (hst.tail (.finish hs hu hv))
    · rw [hv']
      rcases hs with ⟨h | h, rfl⟩ | ⟨h, rfl⟩ <;> rw [h] <;> rfl
  cases hc : t.state with
  | listen | synSent =>
      dsimp only
      rw [setStateClosed_eq (by rw [hc]; decide)]
      refine Post.ok ((hst.tail (.closed ?_)).tail (.note rfl))
      simp [hc]
  | synReceived | established =>
      dsimp only
      refine Post.ite (fun _ => ?_) fun _ => hfin .finWait1 (by simp [hc])
      exact (closedown_called op env t _ _ _).imp fun _ h => hst.trans h
  | closeWait => exact hfin .lastAck (by simp [hc])
  | closing | closed | finWait1 | finWait2 | timeWait | lastAck => exact Post.ok hst

lemma close_called (env : Env) (s : PseudoTcpSocket) (force : Bool) (hop : op = .close force) :
    Post (· ≠ .setState) (fun t => CallSteps env op s t) (s.close env force) := by
  unfold close
  refine Post.ite (fun _ => closedown_called op env s _ _ _) fun h => ?_
  refine shutdownSocket_called env s _ fun _ => ?_
  cases force with
  | false => exact .inr (.inr (.inl hop))
  | true => exact .inr (.inr (.inr ⟨hop, by simpa using h⟩))

lemma clockRetransmit_called (op : Op) (env : Env) (s : PseudoTcpSocket) (now : UInt32) :
    Post (· ≠ .setState) (fun r => CallSteps env op s r.1) (s.clockRetransmit env now) := by
  unfold clockRetransmit
  refine Post.ite (fun _ => Post.ite (fun _ => Post.error (by simp)) fun _ => ?_)
    fun _ => Post.ok .refl
  refine Post.bind (transmitHead_called op env s _) ?_
  rintro ⟨u, _ | _⟩ h
  · exact Post.pure h
  · exact Post.pure (h.of_eq_streams rfl)

lemma clockProbe_called (op : Op) (env : Env) (s : PseudoTcpSocket) (now : UInt32) :
    Post (· ≠ .setState) (fun r => CallSteps env op s r.1) (s.clockProbe env now) := by
  unfold clockProbe
  refine Post.ite (fun _ => Post.ite (fun _ => Post.ok .refl) fun _ => ?_) fun _ => Post.ok .refl
  exact Post.bind (packet_ack_called op env s now (.inr rfl)) fun r h =>
    Post.pure (h.of_eq_streams rfl)

lemma notifyClock_called (env : Env) (s : PseudoTcpSocket) (hop : op = .notifyClock) :
    Post (· ≠ .setState) (fun t => CallSteps env op s t) (s.notifyClock env) := by
  have hclose {t : PseudoTcpSocket} (ht : CallSteps env op s t) :
      Post (· ≠ .setState) (fun u => CallSteps env op s u)
        (t.closedown env (some .ECONNABORTED) .closedownLocal (env.clock 2)) :=
    (closedown_called op env t _ _ _).imp fun _ h => ht.trans h
  unfold notifyClock
  dsimp only
  refine Post.ite (fun _ => Post.ok .refl) fun _ => ?_
  refine Post.bind (P := fun t => CallSteps env op s t) ?_ fun t ht => ?_
  · refine Post.ite (fun h => ?_) fun _ => Post.ok .refl
    rw [setStateClosed_eq (.inr (by rw [h.2]; rfl))]
    exact Post.ok ((CallStep.steps (.closed (.inr (.inr h.2)))).of_eq_streams rfl)
  refine Post.bind (P := fun u => CallSteps env op t u) ?_ fun u hu => ?_
  · refine Post.ite (fun h => ?_) fun _ => Post.ok .refl
    refine Post.bind (queueFinMessage_post _) fun v hv => ?_
    exact (attemptSend_steps env v _ _).eq_ok.imp fun _ hw =>
      CallStep.steps (.finAgain hop h.2 hv hw)
  have hu' := ht.trans hu
  refine Post.bind (clockRetransmit_called op env u _) ?_
  rintro ⟨v, b⟩ hv
  have hv' := hu'.trans hv
  cases b with
  | false => exact hclose hv'
  | true => ?_
  refine Post.bind (clockProbe_called op env v _) ?_
  rintro ⟨w, b⟩ hw
  have hw' := hv'.trans hw
  cases b with
  | false => exact hclose hw'
  | true => ?_
  unfold clockAck
  refine Post.ite (fun _ => ?_) fun _ => Post.ok hw'
  exact Post.bind (packet_ack_called op env w _ (.inl rfl)) fun r h =>
    Post.pure (hw'.trans h)

lemma connect_called (env : Env) (s : PseudoTcpSocket) (hop : op = .connect) :
    Post (· ≠ .setState) (fun r => CallSteps env op s r.1) (s.connect env) := by
  unfold connect
  refine Post.ite (fun _ => Post.ok (callSteps_note rfl)) fun hl => ?_
  rw [not_not] at hl
  have hset : s.setState .synSent = .ok { s with state := .synSent } :=
    setState_eq (.inr (by rw [hl]; rfl))
  refine Post.bind (P := (· = { s with state := .synSent })) (hset ▸ Post.ok rfl) ?_
  rintro _ rfl
  refine Post.bind (queueConnectMessage_post _) fun t ht => ?_
  refine Post.bind (attemptSend_called op env t _ (by decide)) fun u hu => Post.pure ?_
  exact (CallStep.steps (.connect hop hl ht)).trans hu

lemma send_called (env : Env) (s : PseudoTcpSocket) {data : Bytes} (hop : op = .send data) :
    Post (· ≠ .setState) (fun r => CallSteps env op s r.1) (s.send env data) := by
  unfold send
  refine Post.ite (fun _ => Post.ok (callSteps_note rfl)) fun hest => ?_
  rw [not_not] at hest
  refine Post.ite (fun _ => Post.ok (callSteps_note rfl)) fun _ => ?_
  refine Post.bind (queue_post _ _ _) ?_
  rintro ⟨t, n⟩ ht
  refine Post.bind (attemptSend_called op env _ _ (by decide)) fun u hu => Post.pure ?_
  refine CallSteps.of_eq_streams ((CallStep.steps (.send hop hest ht)).trans hu) ?_
  split <;> rfl

lemma recv_called (env : Env) (s : PseudoTcpSocket) {len : ℕ} (hop : op = .recv len) :
    Post (· ≠ .setState) (fun r => CallSteps env op s r.1) (s.recv env len) := by
  unfold recv
  refine Post.ite (fun _ => Post.ok .refl) fun _ => Post.ite (fun _ => Post.ok .refl) fun _ => ?_
  refine Post.ite (fun _ => Post.ok (callSteps_note rfl)) fun _ => ?_
  refine Post.ite (fun _ => Post.ok .refl) fun _ => ?_
  have hread : CallSteps env op s { s with rbuf := (s.rbuf.read len).1 } :=
    CallStep.steps (.read hop)
  dsimp only
  refine Post.ite (fun _ => Post.ok (hread.of_eq_streams rfl)) fun _ =>
    Post.ite (fun _ => ?_) fun _ => Post.ok hread
  have hopen := hread.tail (.openWindow hop)
  refine Post.ite (fun _ => ?_) fun _ => Post.ok hopen
  exact Post.bind (attemptSend_called op env _ _ (by decide)) fun t ht => Post.pure (hopen.trans ht)

lemma getNextClock_called (op : Op) (env : Env) (s : PseudoTcpSocket) (timeout : UInt64) :
    Post (· ≠ .setState) (fun r => CallSteps env op s r.1) (s.getNextClock env timeout) := by
  unfold getNextClock
  dsimp only
  refine Post.ite (fun _ => ?_) fun _ => ?_
  · exact Post.bind (closedown_called op env s _ _ _) fun t h => Post.pure h
  refine Post.ite (fun _ => Post.ok .refl) fun _ => Post.ite (fun _ => Post.ok .refl) fun _ => ?_
  exact Post.ite (fun _ => Post.ok .refl) fun _ => Post.ok .refl

lemma setRcvBuf_called (env : Env) (s : PseudoTcpSocket) {size : UInt32}
    (hop : op = .setRcvBuf size) :
    Post (· ≠ .setState) (fun t => CallSteps env op s t) (s.setRcvBuf env size) := by
  unfold setRcvBuf
  refine Post.ite (fun hl => ?_) fun _ => Post.ok .refl
  cases h : s.resizeReceiveBuffer env (max 1 size) with
  | ok t => exact Post.ok (CallStep.steps (.setRcvBuf hop hl h))
  | error e =>
      refine Post.error ?_
      unfold resizeReceiveBuffer at h
      split at h
      · cases h
      · dsimp only at h
        split at h
        · cases h
          simp
        · cases h

lemma setSndBuf_called (env : Env) (s : PseudoTcpSocket) {size : UInt32}
    (hop : op = .setSndBuf size) : CallSteps env op s (s.setSndBuf env size) := by
  unfold setSndBuf
  split
  next hl => exact CallStep.steps (.setSndBuf hop hl)
  next => exact .refl

lemma notifyMtu_streams (s : PseudoTcpSocket) (mtu : UInt16) :
    (s.notifyMtu mtu).streams = s.streams := by
  unfold notifyMtu
  dsimp only
  split <;> rfl

/-- **Every call is a sequence of steps**, with at most one segment that the receive queue
takes, and none fails the assertion of `set_state`. -/
theorem call_called (env : Env) (s : PseudoTcpSocket) (op : Op) :
    Post (· ≠ .setState) (fun r => Called env op s r.1) (s.call env op) := by
  cases op with
  | connect => exact Post.bind (connect_called env s rfl) fun ⟨_, _⟩ h => Post.pure (.inl h)
  | send data => exact Post.bind (send_called env s rfl) fun ⟨_, _⟩ h => Post.pure (.inl h)
  | recv len => exact Post.bind (recv_called env s rfl) fun ⟨_, _, _⟩ h => Post.pure (.inl h)
  | shutdown how =>
      refine Post.bind (shutdownSocket_called env s how fun h => ?_)
        fun _ h => Post.pure (.inl h)
      cases how with
      | wr => exact absurd rfl h
      | rd => exact .inl rfl
      | rdwr => exact .inr (.inl rfl)
  | close force => exact Post.bind (close_called env s force rfl) fun _ h => Post.pure (.inl h)
  | notifyMtu mtu => exact Post.pure (.inl (callSteps_note (notifyMtu_streams s mtu)))
  | notifyClock => exact Post.bind (notifyClock_called env s rfl) fun _ h => Post.pure (.inl h)
  | getNextClock timeout =>
      exact Post.bind (getNextClock_called (.getNextClock timeout) env s timeout)
        fun ⟨_, _, _⟩ h => Post.pure (.inl h)
  | notifyPacket buffer =>
      refine Post.bind (P := fun r => Called env (.notifyPacket buffer) s r.1) ?_
        fun ⟨_, _⟩ h => Post.pure h
      unfold notifyPacket
      refine Post.ite (fun _ => Post.ok (.inl .refl)) fun _ => ?_
      cases hp : parse buffer with
      | none => exact Post.ok (.inl .refl)
      | some seg => exact process_called env s hp
  | setRcvBuf size => exact Post.bind (setRcvBuf_called env s rfl) fun _ h => Post.pure (.inl h)
  | setSndBuf size => exact Post.pure (.inl (setSndBuf_called env s rfl))

/-- What every step of a call and the receive queue preserve holds after a call. -/
theorem Called.invariant {I : PseudoTcpSocket → Prop} (h : Called env op s s') (h₀ : I s)
    (hstep : ∀ t u, I t → CallStep env op t u → I u)
    (hrecv : ∀ seg t u, op.segment = some seg → I t → Received env t seg u → I u) : I s' := by
  rcases h with h | ⟨seg, t, hseg, -, h, hr⟩
  · exact h.invariant h₀ hstep
  · exact hrecv seg t s' hseg (h.invariant h₀ hstep) hr

end PseudoTcpSocket

end LibNice.PseudoTcp
