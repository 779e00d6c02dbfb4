import LibNice.Agent.TcpClock
import LibNice.Ice.Types
import LibNice.PseudoTcp.NotifyMessage

/-!
The packets that a reliable component keeps until a pair is selected: `process_queued_tcp_packets`
of `agent/agent.c` and its callers.

* `OutputVector`, `Component`: a packet in the queue, and a component.
* `Rest`, `Frame`, `Machine`: what the callers do behind `process_queued_tcp_packets`, how far the
  calls under way have come, and a component with these calls.
* `Machine.processQueuedTcpPackets`, `notifyHead`, `settleHead`, `signalNewSelectedPair`,
  `receive`, `stateChange`: the functions.
* `Action`, `Machine.act`: what can happen to a component.  The callback that tells of new data
  runs with the agent unlocked, so that anything can happen inside.
* `run_work`: the calls under way come to an end.
* `InOrder`, `Meets`, `packets_in_order`: **every packet is passed once, in order**,
  where no packet is refused; `packets_blocked`: what happens where one is.
* `refuses_cause`: why a packet is refused.
-/

namespace LibNice.Agent

open LibNice.Foundation LibNice.PseudoTcp LibNice.Socket
open LibNice.Ice (NiceComponentState)

/-! ### Components -/

/-- The MTU of the pseudo-TCP connection over a selected pair. -/
def MAX_TCP_MTU : UInt16 := 1400

/-- The selected pair of a component: `nice_socket_is_reliable` of the socket of its local
candidate. -/
structure SelectedPair where
  reliable : Bool
deriving DecidableEq, Repr

/-- A `GOutputVector` in the queue, with its address. -/
structure OutputVector where
  addr : ℕ
  buffer : Bytes
deriving DecidableEq, Repr

/-- The fields of a component that the functions use. -/
structure Component extends TcpClock where
  selectedPair : Option SelectedPair
  state : NiceComponentState
  queuedTcpPackets : List OutputVector

/-- What a caller does behind `process_queued_tcp_packets`. -/
inductive Rest where
  /-- Nothing. -/
  | stop
  /-- The caller is `agent_signal_component_state_change`, called by
  `nice_agent_set_selected_remote_candidate`, which signals the new pair. -/
  | signal (pair : SelectedPair)
  /-- `agent_signal_new_selected_pair` connects the socket. -/
  | connect
  /-- `agent_recv_message_unlocked` passes the message on. -/
  | notify (message : NiceInputMessage)
deriving DecidableEq, Repr

/-- How far a call has come. -/
inductive Frame where
  /-- At the start of the loop of `process_queued_tcp_packets`. -/
  | drain (rest : Rest)
  /-- In the callback for new data, in `pseudo_tcp_socket_notify_packet` of a packet. -/
  | readable (vec : OutputVector) (retval : Bool) (rest : Rest)
  /-- Behind `pseudo_tcp_socket_notify_packet` of a packet. -/
  | notified (vec : OutputVector) (retval : Bool) (rest : Rest)
  /-- Behind `process_queued_tcp_packets`. -/
  | rest (rest : Rest)
  /-- In the callback for new data, in `pseudo_tcp_socket_notify_message`. -/
  | readableMessage
  /-- Behind `pseudo_tcp_socket_notify_message`. -/
  | message
deriving DecidableEq, Repr

/-- A component and the calls under way, the innermost first.  `arrived` has the packets that came
for the socket, and `passed` what was passed to it, the latest last. -/
structure Machine extends Component where
  stack : List Frame
  nextAddr : ℕ
  arrived : List Bytes
  passed : List Bytes

namespace Machine

/-! ### The functions -/

/-- The component with its clock adjusted. -/
def adjust (env : Env) (monotonicTime : UInt64) (m : Machine) : Except Abort Machine := do
  let c ← adjustTcpClock env monotonicTime m.toTcpClock
  return { m with toTcpClock := c }

/-- Whether `process_queued_tcp_packets` returns at once. -/
def idle (m : Machine) : Bool :=
  match m.selectedPair with
  | none => true
  | some pair => m.tcp.isClosed || pair.reliable

/-- The start of `process_queued_tcp_packets`. -/
def processQueuedTcpPackets (m : Machine) (rest : Rest) : Machine :=
  { m with stack := (if m.idle then .rest rest else .drain rest) :: m.stack }

/-- Whether the callback for new data was made between two states of a socket. -/
def calledReadable (s t : PseudoTcpSocket) : Bool :=
  Callback.readable ∈ t.called.drop s.called.length

/-- The loop of `process_queued_tcp_packets`, up to the return of
`pseudo_tcp_socket_notify_packet`.  The size of the packet is cut to 32 bits. -/
def notifyHead (env : Env) (m : Machine) (rest : Rest) : Except Abort Machine :=
  match m.queuedTcpPackets with
  | [] => .ok { m with stack := .rest rest :: m.stack }
  | vec :: _ => do
      let buffer := vec.buffer.take (vec.buffer.length % 2 ^ 32)
      let (tcp, retval) ← m.tcp.notifyPacket env buffer
      let frame := if calledReadable m.tcp tcp then .readable vec retval rest
        else .notified vec retval rest
      return { m with tcp, passed := m.passed ++ [buffer], stack := frame :: m.stack }

/-- The loop of `process_queued_tcp_packets` behind `pseudo_tcp_socket_notify_packet`.  The packet
at the head of the queue leaves it, and the packet that was passed is freed. -/
def settleHead (env : Env) (monotonicTime : UInt64) (m : Machine) (vec : OutputVector)
    (retval : Bool) (rest : Rest) : Except Abort Machine :=
  if m.tcp.isClosed then .ok { m with stack := .rest rest :: m.stack }
  else do
    let m ← m.adjust env monotonicTime
    if retval then
      match m.queuedTcpPackets with
      | [] => .error .badPointer
      | head :: queuedTcpPackets =>
          if head.addr = vec.addr then
            .ok { m with queuedTcpPackets, stack := .drain rest :: m.stack }
          else .error .badPointer
    else .ok { m with stack := .rest rest :: m.stack }

/-- `agent_signal_new_selected_pair`, up to its calls on the socket. -/
def signalNewSelectedPair (m : Machine) (pair : SelectedPair) : Machine :=
  if pair.reliable then m else m.processQueuedTcpPackets .connect

/-- `agent_signal_component_state_change`. -/
def stateChange (m : Machine) (state : NiceComponentState) (rest : Rest) : Machine :=
  if m.state ≠ state then processQueuedTcpPackets { m with state } rest
  else { m with stack := .rest rest :: m.stack }

/-- The last part of `agent_recv_message_unlocked`, for a message that a base socket received. -/
def receive (m : Machine) (reliable : Bool) (message : NiceInputMessage) : Machine :=
  if message.length > 0 ∧ ¬ reliable ∧ ¬ m.tcp.isClosed then
    let m := { m with arrived := m.arrived ++ [message.data] }
    match m.selectedPair with
    | none => { m with
        queuedTcpPackets := m.queuedTcpPackets ++ [⟨m.nextAddr, message.data⟩]
        nextAddr := m.nextAddr + 1 }
    | some _ => m.processQueuedTcpPackets (.notify message)
  else m

/-- What comes behind `process_queued_tcp_packets`.  A message that fails an assertion of
`pseudo_tcp_socket_notify_message` is a fault. -/
def goOn (env : Env) (monotonicTime : UInt64) (m : Machine) :
    Rest → Except Fault (Except Abort Machine)
  | .stop => .ok (.ok m)
  | .signal pair => .ok (.ok (m.signalNewSelectedPair pair))
  | .connect => .ok do
      let (tcp, _) ← m.tcp.connect env
      adjust env monotonicTime { m with tcp := tcp.notifyMtu MAX_TCP_MTU }
  | .notify message => do
      let result ← notifyMessage env m.tcp message
      return do
        let (tcp, _) ← result
        let frame := if calledReadable m.tcp tcp then .readableMessage else .message
        return { m with tcp, passed := m.passed ++ [message.data], stack := frame :: m.stack }

end Machine

/-! ### Actions -/

/-- What happens to a component: the innermost call goes on, the callback that it is in returns,
or something new happens, which it can when the agent is not locked. -/
inductive Action where
  | run (env : Env) (monotonicTime : UInt64)
  | done
  /-- A base socket, reliable or not, has received a message. -/
  | receive (reliable : Bool) (message : NiceInputMessage)
  /-- A pair is selected; `nice_agent_set_selected_remote_candidate` changes the state then. -/
  | select (pair : SelectedPair) (state : Option NiceComponentState)
  | clearSelectedPair
  | stateChange (state : NiceComponentState)
  /-- Another call on the socket. -/
  | call (env : Env) (op : Op)
  | adjust (env : Env) (monotonicTime : UInt64)

namespace Machine

/-- Whether the agent is not locked. -/
def unlocked (m : Machine) : Bool :=
  match m.stack with
  | [] | .readable _ _ _ :: _ | .readableMessage :: _ => true
  | _ => false

/-- The innermost call goes on. -/
def run (env : Env) (monotonicTime : UInt64) (m : Machine) :
    Option (Except Fault (Except Abort Machine)) :=
  match m.stack with
  | .drain rest :: stack => some (.ok (notifyHead env { m with stack } rest))
  | .notified vec retval rest :: stack =>
      some (.ok (settleHead env monotonicTime { m with stack } vec retval rest))
  | .rest rest :: stack => some (goOn env monotonicTime { m with stack } rest)
  | .message :: stack => some (.ok (adjust env monotonicTime { m with stack }))
  | _ => none

/-- Whether a call passes a packet to the socket, which is left to the functions above. -/
def passesPacket : Op → Bool
  | .notifyPacket _ => true
  | _ => false

/-- What an action does; there is no result where it cannot happen. -/
def act (m : Machine) : Action → Option (Except Fault (Except Abort Machine))
  | .run env monotonicTime => m.run env monotonicTime
  | .done =>
      match m.stack with
      | .readable vec retval rest :: stack =>
          some (.ok (.ok { m with stack := .notified vec retval rest :: stack }))
      | .readableMessage :: stack => some (.ok (.ok { m with stack := .message :: stack }))
      | _ => none
  | .receive reliable message =>
      if m.unlocked then some (.ok (.ok (m.receive reliable message))) else none
  | .select pair state =>
      if m.unlocked then
        let m := { m with selectedPair := some pair }
        some (.ok (.ok (match state with
          | none => m.signalNewSelectedPair pair
          | some state => m.stateChange state (.signal pair))))
      else none
  | .clearSelectedPair =>
      if m.unlocked then some (.ok (.ok { m with selectedPair := none })) else none
  | .stateChange state =>
      if m.unlocked then some (.ok (.ok (m.stateChange state .stop))) else none
  | .call env op =>
      if m.unlocked ∧ ¬ passesPacket op then
        some (.ok do
          let (tcp, _) ← m.tcp.call env op
          return { m with tcp })
      else none
  | .adjust env monotonicTime =>
      if m.unlocked then some (.ok (m.adjust env monotonicTime)) else none

/-- An action that happens, without a fault, takes a component from one state to the next. -/
def Step (m : Machine) (a : Action) (m' : Machine) : Prop := m.act a = some (.ok (.ok m'))

end Machine

/-! ### The calls under way -/

/-- A packet that is passed on behind the queue. -/
def Rest.packets : Rest → List Bytes
  | .notify message => [message.data]
  | _ => []

@[simp] lemma Rest.packets_stop : Rest.stop.packets = [] := rfl
@[simp] lemma Rest.packets_signal (pair : SelectedPair) : (Rest.signal pair).packets = [] := rfl
@[simp] lemma Rest.packets_connect : Rest.connect.packets = [] := rfl
@[simp] lemma Rest.packets_notify (message : NiceInputMessage) :
    (Rest.notify message).packets = [message.data] := rfl

/-- How often the innermost call can go on behind `process_queued_tcp_packets`, with `n` packets in
the queue. -/
def Rest.work (n : ℕ) : Rest → ℕ
  | .stop => 1
  | .signal _ => 3 * n + 5
  | .connect => 1
  | .notify _ => 2

namespace Machine

variable {env : Env} {monotonicTime : UInt64} {m m' : Machine} {a : Action} {rest : Rest}
  {vec : OutputVector} {retval : Bool} {stack : List Frame}

/-- How often the innermost call can go on. -/
def work (m : Machine) : ℕ :=
  match m.stack with
  | .drain rest :: _ => 3 * m.queuedTcpPackets.length + 2 + rest.work m.queuedTcpPackets.length
  | .notified _ _ rest :: _ =>
      3 * m.queuedTcpPackets.length + 1 + rest.work m.queuedTcpPackets.length
  | .rest rest :: _ => rest.work m.queuedTcpPackets.length
  | .message :: _ => 1
  | _ => 0

/-- The clock is adjusted without a change of the component, unless the socket closes. -/
lemma adjust_eq (h : m.adjust env monotonicTime = .ok m') :
    ∃ c : TcpClock, m' = { m with toTcpClock := c } ∧
      (c.tcp = m.tcp ∨ c.tcp.isClosed = true) := by
  obtain ⟨c, hc, h⟩ := bind_eq_ok.mp h
  cases h
  exact ⟨c, rfl, adjustTcpClock_tcp hc⟩

/-- What `notifyHead` does: it finds an empty queue, or passes the packet at the head. -/
lemma notifyHead_eq (h : m.notifyHead env rest = .ok m') :
    m.queuedTcpPackets = [] ∧ m' = { m with stack := .rest rest :: m.stack } ∨
      ∃ vec queue tcp retval frame, m.queuedTcpPackets = vec :: queue ∧
        m.tcp.notifyPacket env (vec.buffer.take (vec.buffer.length % 2 ^ 32)) =
          .ok (tcp, retval) ∧
        (frame = .readable vec retval rest ∨ frame = .notified vec retval rest) ∧
        m' = { m with
          tcp
          passed := m.passed ++ [vec.buffer.take (vec.buffer.length % 2 ^ 32)]
          stack := frame :: m.stack } := by
  unfold notifyHead at h
  cases hqueue : m.queuedTcpPackets with
  | nil =>
      simp only [hqueue] at h
      cases h
      exact .inl ⟨rfl, rfl⟩
  | cons vec queue =>
      simp only [hqueue] at h
      obtain ⟨⟨tcp, retval⟩, hnotify, h⟩ := bind_eq_ok.mp h
      obtain rfl := Except.ok.inj h
      refine .inr ⟨vec, queue, tcp, retval, _, rfl, hnotify, ?_, rfl⟩
      split
      · exact .inl rfl
      · exact .inr rfl

/-- What `settleHead` does: the loop is over, or the packet leaves the queue and it goes on. -/
lemma settleHead_eq (h : m.settleHead env monotonicTime vec retval rest = .ok m') :
    m.tcp.isClosed = true ∧ m' = { m with stack := .rest rest :: m.stack } ∨
      ∃ c : TcpClock, (c.tcp = m.tcp ∨ c.tcp.isClosed = true) ∧
        (retval = false ∧ m' = { m with toTcpClock := c, stack := .rest rest :: m.stack } ∨
          retval = true ∧ ∃ head queue, m.queuedTcpPackets = head :: queue ∧ m' = { m with
            toTcpClock := c, queuedTcpPackets := queue, stack := .drain rest :: m.stack }) := by
  unfold settleHead at h
  by_cases hclosed : m.tcp.isClosed = true
  · rw [if_pos hclosed] at h
    cases h
    exact .inl ⟨hclosed, rfl⟩
  rw [if_neg hclosed] at h
  obtain ⟨n, hadjust, h⟩ := bind_eq_ok.mp h
  obtain ⟨c, rfl, hc⟩ := adjust_eq hadjust
  refine .inr ⟨c, hc, ?_⟩
  cases retval with
  | false =>
      cases h
      exact .inl ⟨rfl, rfl⟩
  | true =>
      refine .inr ⟨rfl, ?_⟩
      simp only [if_true] at h
      cases hqueue : m.queuedTcpPackets with
      | nil =>
          simp only [hqueue] at h
          cases h
      | cons head queue =>
          simp only [hqueue] at h
          split at h
          · cases h
            exact ⟨head, queue, rfl, rfl⟩
          · cases h

/-- A message is passed to the socket as some packet. -/
lemma notifyMessage_packet {s : PseudoTcpSocket} {message : NiceInputMessage}
    {result : Except Abort (PseudoTcpSocket × Bool)}
    (h : notifyMessage env s message = .ok result) : ∃ p, s.notifyPacket env p = result := by
  have hempty : s.notifyPacket env [] = .ok (s, false) :=
    PseudoTcpSocket.notifyPacket_refused env s (.inl (by decide))
  unfold notifyMessage at h
  split at h
  · cases h
    exact ⟨_, rfl⟩
  · rename_i header data _
    split_ifs at h with hheader hmax hmin
    · cases h
      exact ⟨[], hempty⟩
    · cases h
      exact ⟨[], hempty⟩
    obtain ⟨slice, hslice, h⟩ := bind_eq_ok.mp h
    refine ⟨header ++ slice, ?_⟩
    obtain ⟨-, hslice⟩ := readSlice_eq_ok.mp hslice
    have hlen : ¬ (header ++ slice).length > MAX_PACKET := by
      subst hslice
      simp only [List.length_append, List.length_take, List.length_drop, not_not] at hheader ⊢
      omega
    unfold PseudoTcpSocket.notifyPacket
    rw [if_neg hlen]
    cases hparse : parse (header ++ slice) with
    | none =>
        simp only [hparse] at h ⊢
        exact Except.ok.inj h
    | some seg =>
        simp only [hparse] at h ⊢
        exact Except.ok.inj h
  · cases h

/-- A closed socket stays closed when a packet is passed to it. -/
lemma isClosed_of_packet {s t : PseudoTcpSocket} {p : Bytes} {b : Bool}
    (h : s.notifyPacket env p = .ok (t, b)) (hs : s.isClosed = true) : t.isClosed = true := by
  have hcall : s.call env (.notifyPacket p) = .ok (t, { value := b.toNat }) := by
    rw [PseudoTcpSocket.call, h]
    rfl
  exact isClosed_of_call hcall hs

/-- What comes behind `process_queued_tcp_packets` changes nothing but the calls under way, or
works on the socket, or passes the message. -/
lemma goOn_eq (h : m.goOn env monotonicTime rest = .ok (.ok m')) :
    (∃ frames, m' = { m with stack := frames ++ m.stack } ∧
        (rest = .stop ∧ frames = [] ∨
          ∃ pair, rest = .signal pair ∧ (pair.reliable = true ∧ frames = [] ∨
            pair.reliable = false ∧
              frames = [if m.idle then .rest .connect else .drain .connect]))) ∨
      (rest = .connect ∧ ∃ c : TcpClock, m' = { m with toTcpClock := c } ∧
        (m.tcp.isClosed = true → c.tcp.isClosed = true)) ∨
      ∃ message tcp frame, rest = .notify message ∧
        (m.tcp.isClosed = true → tcp.isClosed = true) ∧
        (frame = .readableMessage ∨ frame = .message) ∧
        m' = { m with tcp, passed := m.passed ++ [message.data], stack := frame :: m.stack } := by
  cases rest with
  | stop =>
      cases h
      exact .inl ⟨[], rfl, .inl ⟨rfl, rfl⟩⟩
  | signal pair =>
      cases h
      left
      unfold signalNewSelectedPair processQueuedTcpPackets
      by_cases hpair : pair.reliable = true
      · rw [if_pos hpair]
        exact ⟨[], rfl, .inr ⟨pair, rfl, .inl ⟨hpair, rfl⟩⟩⟩
      · rw [if_neg hpair]
        exact ⟨_, rfl, .inr ⟨pair, rfl, .inr ⟨by simpa using hpair, rfl⟩⟩⟩
  | connect =>
      obtain ⟨⟨tcp, b⟩, hconnect, h⟩ := bind_eq_ok.mp (Except.ok.inj h)
      obtain ⟨c, rfl, hc⟩ := adjust_eq h
      refine .inr (.inl ⟨rfl, c, rfl, fun hclosed => hc.elim (fun hc => ?_) id⟩)
      rw [hc]
      have hcall : m.tcp.call env .connect = .ok (tcp, { value := b.toNat }) := by
        rw [PseudoTcpSocket.call, hconnect]
        rfl
      have hmtu : tcp.call env (.notifyMtu MAX_TCP_MTU) =
          .ok (tcp.notifyMtu MAX_TCP_MTU, {}) := rfl
      exact isClosed_of_call hmtu (isClosed_of_call hcall hclosed)
  | notify message =>
      obtain ⟨result, hresult, h⟩ := bind_eq_ok.mp h
      obtain ⟨⟨tcp, b⟩, hnotify, h⟩ := bind_eq_ok.mp (Except.ok.inj h)
      obtain ⟨p, hp⟩ := notifyMessage_packet hresult
      obtain rfl := Except.ok.inj h
      refine .inr (.inr ⟨message, tcp, _, rfl, isClosed_of_packet (hp.trans hnotify), ?_, rfl⟩)
      split
      · exact .inl rfl
      · exact .inr rfl

lemma work_mono {n n' : ℕ} (h : n ≤ n') (rest : Rest) : rest.work n ≤ rest.work n' := by
  cases rest <;> simp only [Rest.work] <;> omega

/-- **The calls under way come to an end**: with each step the innermost is over, or there is less
left of it. -/
theorem run_work (h : m.Step (.run env monotonicTime) m') :
    Prod.Lex (· < ·) (· < ·) (m'.stack.length, m'.work) (m.stack.length, m.work) := by
  rw [Prod.lex_def]
  change m.run env monotonicTime = some (.ok (.ok m')) at h
  unfold run at h
  split at h
  · rename_i rest stack hstack
    right
    obtain ⟨hqueue, rfl⟩ | ⟨vec, queue, tcp, retval, frame, hqueue, -, hframe, rfl⟩ :=
      notifyHead_eq (Except.ok.inj (Option.some.inj h))
    · refine ⟨by simp [hstack], ?_⟩
      simp only [work, hstack]
      omega
    · refine ⟨by simp [hstack], ?_⟩
      rcases hframe with rfl | rfl
      · simp only [work, hstack]
        omega
      · simp only [work, hstack]
        omega
  · rename_i vec retval rest stack hstack
    right
    obtain ⟨-, rfl⟩ | ⟨c, -, ⟨-, rfl⟩ | ⟨-, head, queue, hqueue, rfl⟩⟩ :=
      settleHead_eq (Except.ok.inj (Option.some.inj h))
    · refine ⟨by simp [hstack], ?_⟩
      simp only [work, hstack]
      omega
    · refine ⟨by simp [hstack], ?_⟩
      simp only [work, hstack]
      omega
    · refine ⟨by simp [hstack], ?_⟩
      dsimp only at hqueue
      have hwork := work_mono (Nat.le_add_right queue.length 1) rest
      simp only [work, hstack, hqueue, List.length_cons]
      omega
  · rename_i rest stack hstack
    obtain ⟨frames, rfl, hrest⟩ | ⟨-, c, rfl, -⟩ | ⟨message, tcp, frame, rfl, -, hframe, rfl⟩ :=
      goOn_eq (Option.some.inj h)
    · rcases hrest with ⟨-, rfl⟩ | ⟨pair, rfl, ⟨-, rfl⟩ | ⟨-, rfl⟩⟩
      · exact .inl (by simp [hstack])
      · exact .inl (by simp [hstack])
      · refine .inr ⟨by simp [hstack], ?_⟩
        split
        · simp only [work, hstack, Rest.work, List.singleton_append]
          omega
        · simp only [work, hstack, Rest.work, List.singleton_append]
          omega
    · exact .inl (by simp [hstack])
    · refine .inr ⟨by simp [hstack], ?_⟩
      rcases hframe with rfl | rfl
      · simp only [work, hstack, Rest.work]
        omega
      · simp only [work, hstack, Rest.work]
        omega
  · rename_i stack hstack
    obtain ⟨c, rfl, -⟩ := adjust_eq (Except.ok.inj (Option.some.inj h))
    exact .inl (by simp [hstack])
  · cases h

/-- The start of `process_queued_tcp_packets`: the loop, or what comes behind it. -/
lemma processQueuedTcpPackets_eq (m : Machine) (rest : Rest) :
    ∃ frame, m.processQueuedTcpPackets rest = { m with stack := frame :: m.stack } ∧
      (frame = .rest rest ∧ m.idle = true ∨ frame = .drain rest ∧ m.idle = false) := by
  refine ⟨_, rfl, ?_⟩
  cases m.idle with
  | true => exact .inl ⟨rfl, rfl⟩
  | false => exact .inr ⟨rfl, rfl⟩

/-- A change of state starts `process_queued_tcp_packets` if it is one. -/
lemma stateChange_eq (m : Machine) (state : NiceComponentState) (rest : Rest) :
    ∃ frame, m.stateChange state rest = { m with state, stack := frame :: m.stack } ∧
      (frame = .rest rest ∧ (m.idle = true ∨ m.state = state) ∨
        frame = .drain rest ∧ m.idle = false ∧ m.state ≠ state) := by
  unfold stateChange
  by_cases hstate : m.state = state
  · rw [if_neg (not_not.mpr hstate), ← hstate]
    exact ⟨_, rfl, .inl ⟨rfl, .inr rfl⟩⟩
  · rw [if_pos hstate]
    obtain ⟨frame, heq, hframe⟩ := processQueuedTcpPackets_eq { m with state } rest
    exact ⟨frame, heq, hframe.imp (fun h => ⟨h.1, .inl h.2⟩) fun h => ⟨h.1, h.2, hstate⟩⟩

/-- The signal for a new pair starts `process_queued_tcp_packets` if the pair is not reliable. -/
lemma signalNewSelectedPair_eq (m : Machine) (pair : SelectedPair) :
    m.signalNewSelectedPair pair = m ∧ pair.reliable = true ∨
      ∃ frame, m.signalNewSelectedPair pair = { m with stack := frame :: m.stack } ∧
        pair.reliable = false ∧
        (frame = .rest .connect ∧ m.idle = true ∨ frame = .drain .connect ∧ m.idle = false) := by
  unfold signalNewSelectedPair
  by_cases hpair : pair.reliable = true
  · rw [if_pos hpair]
    exact .inl ⟨rfl, hpair⟩
  · rw [if_neg hpair]
    obtain ⟨frame, heq, hframe⟩ := processQueuedTcpPackets_eq m .connect
    exact .inr ⟨frame, heq, by simpa using hpair, hframe⟩

/-- A message that is received waits for a pair, or is passed on behind the queue. -/
lemma receive_eq (m : Machine) (reliable : Bool) (message : NiceInputMessage) :
    m.receive reliable message = m ∨
      message.length > 0 ∧ reliable = false ∧ m.tcp.isClosed = false ∧
        (m.selectedPair = none ∧ m.receive reliable message = { m with
            arrived := m.arrived ++ [message.data]
            queuedTcpPackets := m.queuedTcpPackets ++ [⟨m.nextAddr, message.data⟩]
            nextAddr := m.nextAddr + 1 } ∨
          m.selectedPair ≠ none ∧ ∃ frame, m.receive reliable message = { m with
              arrived := m.arrived ++ [message.data], stack := frame :: m.stack } ∧
            (frame = .rest (.notify message) ∧ m.idle = true ∨
              frame = .drain (.notify message) ∧ m.idle = false)) := by
  unfold receive
  split
  · rename_i h
    refine .inr ⟨h.1, by simpa using h.2.1, by simpa using h.2.2, ?_⟩
    dsimp only
    cases hpair : m.selectedPair with
    | none => exact .inl ⟨rfl, rfl⟩
    | some pair =>
        obtain ⟨frame, heq, hframe⟩ := processQueuedTcpPackets_eq
          { m with arrived := m.arrived ++ [message.data] } (.notify message)
        exact .inr ⟨by simp, frame, heq, hframe⟩
  · exact .inl rfl

/-- The new events change the socket only by calls of its functions. -/
lemma act_tcp (ha : ¬ (a matches .run _ _)) (h : m.Step a m') :
    m'.tcp = m.tcp ∨ m'.tcp.isClosed = true ∨
      ∃ env op ret, m.tcp.call env op = .ok (m'.tcp, ret) := by
  cases a with
  | run env monotonicTime => exact absurd rfl ha
  | done =>
      simp only [Step, act] at h
      split at h
      · cases h
        exact .inl rfl
      · cases h
        exact .inl rfl
      · cases h
  | receive reliable message =>
      simp only [Step, act] at h
      split at h
      · cases h
        left
        obtain heq | ⟨-, -, -, ⟨-, heq⟩ | ⟨-, frame, heq, -⟩⟩ := receive_eq m reliable message
        · rw [heq]
        · rw [heq]
        · rw [heq]
      · cases h
  | select pair state =>
      simp only [Step, act] at h
      split at h
      · left
        obtain rfl := Except.ok.inj (Except.ok.inj (Option.some.inj h))
        cases state with
        | none =>
            obtain ⟨heq, -⟩ | ⟨frame, heq, -⟩ :=
              signalNewSelectedPair_eq { m with selectedPair := some pair } pair
            · exact congrArg (·.tcp) heq
            · exact congrArg (·.tcp) heq
        | some state =>
            obtain ⟨frame, heq, -⟩ :=
              stateChange_eq { m with selectedPair := some pair } state (.signal pair)
            exact congrArg (·.tcp) heq
      · cases h
  | clearSelectedPair =>
      simp only [Step, act] at h
      split at h
      · cases h
        exact .inl rfl
      · cases h
  | stateChange state =>
      simp only [Step, act] at h
      split at h
      · cases h
        obtain ⟨frame, heq, -⟩ := stateChange_eq m state .stop
        exact .inl (congrArg (·.tcp) heq)
      · cases h
  | call env op =>
      simp only [Step, act] at h
      by_cases hcond : m.unlocked = true ∧ ¬ passesPacket op = true
      · rw [if_pos hcond] at h
        obtain ⟨⟨tcp, ret⟩, hcall, h⟩ := bind_eq_ok.mp (Except.ok.inj (Option.some.inj h))
        cases h
        exact .inr (.inr ⟨env, op, ret, hcall⟩)
      · rw [if_neg hcond] at h
        cases h
  | adjust env monotonicTime =>
      simp only [Step, act] at h
      split at h
      · obtain ⟨c, rfl, hc⟩ := adjust_eq (Except.ok.inj (Option.some.inj h))
        exact hc.imp_right .inl
      · cases h

/-- A closed socket stays closed, whatever happens. -/
theorem isClosed_of_step (h : m.Step a m') (hclosed : m.tcp.isClosed = true) :
    m'.tcp.isClosed = true := by
  cases a with
  | run env monotonicTime =>
      change m.run env monotonicTime = some (.ok (.ok m')) at h
      unfold run at h
      split at h
      · obtain ⟨-, rfl⟩ | ⟨vec, queue, tcp, retval, frame, -, hnotify, -, rfl⟩ :=
          notifyHead_eq (Except.ok.inj (Option.some.inj h))
        · exact hclosed
        · exact isClosed_of_packet hnotify hclosed
      · obtain ⟨-, rfl⟩ | ⟨c, hc, ⟨-, rfl⟩ | ⟨-, head, queue, -, rfl⟩⟩ :=
          settleHead_eq (Except.ok.inj (Option.some.inj h))
        · exact hclosed
        · exact hc.elim (fun hc => hc ▸ hclosed) id
        · exact hc.elim (fun hc => hc ▸ hclosed) id
      · obtain ⟨frames, rfl, -⟩ | ⟨-, c, rfl, hc⟩ | ⟨message, tcp, frame, -, htcp, -, rfl⟩ :=
          goOn_eq (Option.some.inj h)
        · exact hclosed
        · exact hc hclosed
        · exact htcp hclosed
      · obtain ⟨c, rfl, hc⟩ := adjust_eq (Except.ok.inj (Option.some.inj h))
        exact hc.elim (fun hc => hc ▸ hclosed) id
      · cases h
  | _ =>
      obtain htcp | htcp | ⟨env, op, ret, hcall⟩ := act_tcp (by simp) h
      · rw [htcp, hclosed]
      · exact htcp
      · exact isClosed_of_call hcall hclosed

end Machine

/-! ### Order -/

/-- A packet that the socket refuses, and stays open. -/
def Refuses (env : Env) (s : PseudoTcpSocket) (p : Bytes) : Prop :=
  match s.notifyPacket env p with
  | .ok (t, false) => t.isClosed = false
  | _ => False

instance (env : Env) (s : PseudoTcpSocket) (p : Bytes) : Decidable (Refuses env s p) := by
  unfold Refuses
  split <;> infer_instance

/-- The packets in the queue. -/
def queuedPackets (queue : List OutputVector) : List Bytes := queue.map (·.buffer)

/-- With a pair selected nothing is left in the queue. -/
def Drained (selectedPair : Option SelectedPair) (queue : List OutputVector) : Prop :=
  selectedPair ≠ none → queue = []

/-- The calls under way, when all are in the callback of `pseudo_tcp_socket_notify_message`. -/
def Calm (stack : List Frame) : Prop := ∀ frame ∈ stack, frame = .readableMessage

/-- The packets that wait to be passed, by the calls under way. -/
inductive Waits (selectedPair : Option SelectedPair) (queue : List OutputVector) :
    List Frame → List Bytes → Prop
  | calm {stack : List Frame} (hcalm : Calm stack) (hdrained : Drained selectedPair queue) :
      Waits selectedPair queue stack (queuedPackets queue)
  | message {stack : List Frame} (hcalm : Calm stack) (hdrained : Drained selectedPair queue) :
      Waits selectedPair queue (.message :: stack) (queuedPackets queue)
  | drain {rest : Rest} {stack : List Frame} (hcalm : Calm stack) :
      Waits selectedPair queue (.drain rest :: stack) (queuedPackets queue ++ rest.packets)
  | readable {vec : OutputVector} {rest : Rest} {behind : List OutputVector}
      {stack : List Frame} (hcalm : Calm stack) (hqueue : queue = vec :: behind) :
      Waits selectedPair queue (.readable vec true rest :: stack)
        (queuedPackets behind ++ rest.packets)
  | notified {vec : OutputVector} {rest : Rest} {behind : List OutputVector}
      {stack : List Frame} (hcalm : Calm stack) (hqueue : queue = vec :: behind) :
      Waits selectedPair queue (.notified vec true rest :: stack)
        (queuedPackets behind ++ rest.packets)
  | rest {rest : Rest} {stack : List Frame} (hcalm : Calm stack)
      (hdrained : Drained selectedPair queue ∨
        ∃ pair, rest = .signal pair ∧ selectedPair = some pair ∧ pair.reliable = false)
      (hnotify : rest.packets ≠ [] → queue = []) :
      Waits selectedPair queue (.rest rest :: stack) (queuedPackets queue ++ rest.packets)
  /-- In the callback for a packet of the queue nothing is left to do. -/
  | inside {rest : Rest} {stack : List Frame} {l : List Bytes}
      (hrest : rest = .stop ∨ ∃ pair, rest = .signal pair ∧ pair.reliable = true)
      (hwaits : Waits selectedPair queue stack l) (hstack : ¬ Calm stack) :
      Waits selectedPair queue (.rest rest :: stack) l

namespace Machine

variable {env : Env} {monotonicTime : UInt64} {m m' : Machine} {a : Action}

/-- What comes behind the loop of `process_queued_tcp_packets`, in the callback for a packet. -/
def inDrain (m : Machine) : Option Rest :=
  match m.stack with
  | .readable _ _ rest :: _ => some rest
  | _ => none

/-- While the socket is open, what was passed and what waits are what arrived. -/
def InOrder (m : Machine) : Prop :=
  m.tcp.isClosed = true ∨
    ∃ l, m.arrived = m.passed ++ l ∧ Waits m.selectedPair m.queuedTcpPackets m.stack l

/-- The condition on an action: no packet of the queue is refused, nor has `2 ^ 32` bytes; nothing
that passes packets happens in the callback for a packet of the queue; and a pair of a reliable
socket is only selected with no packet in the queue. -/
def Meets (m : Machine) : Action → Prop
  | .run env _ =>
      match m.stack, m.queuedTcpPackets with
      | .drain _ :: _, vec :: _ => vec.buffer.length < 2 ^ 32 ∧ ¬ Refuses env m.tcp vec.buffer
      | _, _ => True
  | .receive reliable message =>
      match m.inDrain with
      | some rest => m.tcp.isClosed = true ∨ reliable = true ∨ message.length = 0 ∨
          m.selectedPair = none ∧ rest.packets = []
      | none => True
  | .select pair _ => m.tcp.isClosed = true ∨
      if m.inDrain = none then pair.reliable = true → m.queuedTcpPackets = []
      else pair.reliable = true
  | .stateChange state => m.inDrain ≠ none → m.idle = true ∨ m.state = state
  | _ => True

instance (m : Machine) (a : Action) : Decidable (m.Meets a) := by
  unfold Meets
  repeat' split
  all_goals infer_instance

/-- A component with any packets in its queue, before a pair is selected. -/
structure Starts (m : Machine) : Prop where
  stack : m.stack = []
  selectedPair : m.selectedPair = none
  arrived : m.arrived = queuedPackets m.queuedTcpPackets
  passed : m.passed = []

/-- The packets are passed in the order of their arrival, each of them once; when no call is under
way those in the queue are left, and none with a pair selected. -/
structure Delivers (m : Machine) : Prop where
  order : m.passed <+: m.arrived
  all : m.stack = [] → m.arrived = m.passed ++ queuedPackets m.queuedTcpPackets
  none_left : m.stack = [] → m.selectedPair ≠ none → m.queuedTcpPackets = []

lemma Calm.not_cons {frame : Frame} {stack : List Frame} (h : frame ≠ .readableMessage) :
    ¬ Calm (frame :: stack) := fun hcalm => h (hcalm frame List.mem_cons_self)

lemma Calm.cons {stack : List Frame} (h : Calm stack) : Calm (.readableMessage :: stack) := by
  intro frame hframe
  rcases List.mem_cons.mp hframe with rfl | hmem
  · rfl
  · exact h frame hmem

/-- A step of the innermost call keeps the order. -/
lemma InOrder.run (h : m.InOrder) (hmeets : m.Meets (.run env monotonicTime))
    (hstep : m.Step (.run env monotonicTime) m') : m'.InOrder := by
  rcases h with hclosed | ⟨l, harrived, hwaits⟩
  · exact .inl (isClosed_of_step hstep hclosed)
  change m.run env monotonicTime = some (.ok (.ok m')) at hstep
  unfold Machine.run at hstep
  split at hstep
  · rename_i rest stack hstack
    rw [hstack] at hwaits
    cases hwaits with
    | calm hcalm => exact absurd hcalm (Calm.not_cons (by simp))
    | drain hcalm =>
        obtain ⟨hqueue, rfl⟩ | ⟨vec, queue, tcp, retval, frame, hqueue, hnotify, hframe, rfl⟩ :=
          notifyHead_eq (Except.ok.inj (Option.some.inj hstep))
        · exact .inr ⟨_, harrived, .rest hcalm (.inl fun _ => hqueue) fun _ => hqueue⟩
        dsimp only at hqueue hnotify ⊢
        simp only [Meets, hstack, hqueue] at hmeets
        obtain ⟨hlt, hrefuses⟩ := hmeets
        rw [Nat.mod_eq_of_lt hlt, List.take_length] at hnotify ⊢
        cases hclosed : tcp.isClosed with
        | true => exact .inl hclosed
        | false =>
            cases retval with
            | false =>
                rw [Refuses, hnotify] at hrefuses
                exact absurd hclosed hrefuses
            | true =>
                refine .inr ⟨queuedPackets queue ++ rest.packets, ?_, ?_⟩
                · rw [harrived, hqueue]
                  simp [queuedPackets]
                · rcases hframe with rfl | rfl
                  · exact .readable hcalm hqueue
                  · exact .notified hcalm hqueue
  · rename_i vec retval rest stack hstack
    rw [hstack] at hwaits
    cases hwaits with
    | calm hcalm => exact absurd hcalm (Calm.not_cons (by simp))
    | notified hcalm hqueue =>
        obtain ⟨hclosed, rfl⟩ | ⟨c, hc, ⟨hretval, -⟩ | ⟨-, head, queue, hqueue', rfl⟩⟩ :=
          settleHead_eq (Except.ok.inj (Option.some.inj hstep))
        · exact .inl hclosed
        · cases hretval
        · dsimp only at hqueue'
          rw [hqueue] at hqueue'
          cases hqueue'
          exact .inr ⟨_, harrived, .drain hcalm⟩
  · rename_i rest stack hstack
    rw [hstack] at hwaits
    have hgoOn := goOn_eq (Option.some.inj hstep)
    cases hwaits with
    | calm hcalm => exact absurd hcalm (Calm.not_cons (by simp))
    | rest hcalm hdrained hnotify =>
        obtain ⟨frames, rfl, hrest⟩ | ⟨rfl, c, rfl, -⟩ |
          ⟨message, tcp, frame, rfl, -, hframe, rfl⟩ := hgoOn
        · rcases hrest with ⟨rfl, rfl⟩ | ⟨pair, rfl, ⟨hpair, rfl⟩ | ⟨-, rfl⟩⟩
          · have hdrained := hdrained.resolve_right (by simp)
            rw [Rest.packets_stop, List.append_nil] at harrived
            exact .inr ⟨_, harrived, .calm hcalm hdrained⟩
          · have hdrained := hdrained.resolve_right (by
              rintro ⟨pair', heq, -, hpair'⟩
              cases heq
              rw [hpair] at hpair'
              cases hpair')
            rw [Rest.packets_signal, List.append_nil] at harrived
            exact .inr ⟨_, harrived, .calm hcalm hdrained⟩
          · cases hidle : idle { m with stack } with
            | false => exact .inr ⟨_, harrived, .drain hcalm⟩
            | true =>
                rcases hdrained with hdrained | ⟨pair', heq, hselected, hpair'⟩
                · exact .inr ⟨_, harrived, .rest hcalm (.inl hdrained) fun h => absurd rfl h⟩
                · left
                  simpa [idle, hselected, hpair'] using hidle
        · have hdrained := hdrained.resolve_right (by simp)
          rw [Rest.packets_connect, List.append_nil] at harrived
          exact .inr ⟨_, harrived, .calm hcalm hdrained⟩
        · have hqueue := hnotify (by simp)
          rw [hqueue] at harrived
          refine .inr ⟨queuedPackets m.queuedTcpPackets, ?_, ?_⟩
          · simp [harrived, hqueue, queuedPackets]
          · rcases hframe with rfl | rfl
            · exact .calm (Calm.cons hcalm) fun _ => hqueue
            · exact .message hcalm fun _ => hqueue
    | inside hrest hwaits hinside =>
        rcases hrest with rfl | ⟨pair, rfl, hpair⟩
        · cases hstep
          exact .inr ⟨l, harrived, hwaits⟩
        · obtain ⟨heq, -⟩ | ⟨frame, -, hpair', -⟩ := signalNewSelectedPair_eq { m with stack } pair
          · have hm : signalNewSelectedPair { m with stack } pair = m' := by
              simpa [goOn] using hstep
            rw [← hm, heq]
            exact .inr ⟨l, harrived, hwaits⟩
          · rw [hpair] at hpair'
            cases hpair'
  · rename_i stack hstack
    rw [hstack] at hwaits
    obtain ⟨c, rfl, -⟩ := adjust_eq (Except.ok.inj (Option.some.inj hstep))
    cases hwaits with
    | calm hcalm => exact absurd hcalm (Calm.not_cons (by simp))
    | message hcalm hdrained => exact .inr ⟨_, harrived, .calm hcalm hdrained⟩
  · cases hstep

/-- The return of a callback keeps the order. -/
lemma InOrder.done (h : m.InOrder) (hstep : m.Step .done m') : m'.InOrder := by
  rcases h with hclosed | ⟨l, harrived, hwaits⟩
  · exact .inl (isClosed_of_step hstep hclosed)
  simp only [Step, act] at hstep
  split at hstep
  · rename_i vec retval rest stack hstack
    cases hstep
    rw [hstack] at hwaits
    cases hwaits with
    | calm hcalm => exact absurd hcalm (Calm.not_cons (by simp))
    | readable hcalm hqueue => exact .inr ⟨_, harrived, .notified hcalm hqueue⟩
  · rename_i stack hstack
    cases hstep
    rw [hstack] at hwaits
    cases hwaits with
    | calm hcalm hdrained =>
        exact .inr ⟨_, harrived, .message
          (fun frame hframe => hcalm frame (List.mem_cons_of_mem _ hframe)) hdrained⟩
  · cases hstep

/-- When something new can happen, either the calls under way are all in the callback of
`pseudo_tcp_socket_notify_message`, or the innermost is in that for a packet of the queue. -/
lemma waits_unlocked {l : List Bytes}
    (hwaits : Waits m.selectedPair m.queuedTcpPackets m.stack l) (hunlocked : m.unlocked = true) :
    m.inDrain = none ∧ Calm m.stack ∧ Drained m.selectedPair m.queuedTcpPackets ∧
        l = queuedPackets m.queuedTcpPackets ∨
      ∃ vec rest behind stack, m.inDrain = some rest ∧ m.stack = .readable vec true rest :: stack ∧
        Calm stack ∧ m.queuedTcpPackets = vec :: behind ∧
          l = queuedPackets behind ++ rest.packets := by
  unfold Machine.unlocked at hunlocked
  unfold inDrain
  generalize m.stack = frames at hwaits hunlocked ⊢
  cases hwaits with
  | calm hcalm hdrained =>
      left
      refine ⟨?_, hcalm, hdrained, rfl⟩
      split
      · exact absurd hcalm (Calm.not_cons (by simp))
      · rfl
  | readable hcalm hqueue => exact .inr ⟨_, _, _, _, rfl, rfl, hcalm, hqueue, rfl⟩
  | message | drain | notified | rest | inside => cases hunlocked

/-- A message that is received keeps the order. -/
lemma InOrder.receive {reliable : Bool} {message : NiceInputMessage} (h : m.InOrder)
    (hmeets : m.Meets (.receive reliable message))
    (hstep : m.Step (.receive reliable message) m') : m'.InOrder := by
  rcases h with hclosed | ⟨l, harrived, hwaits⟩
  · exact .inl (isClosed_of_step hstep hclosed)
  simp only [Step, act] at hstep
  split at hstep
  · rename_i hunlocked
    obtain rfl := Except.ok.inj (Except.ok.inj (Option.some.inj hstep))
    obtain heq | ⟨hlen, hreliable, hopen, heq⟩ := receive_eq m reliable message
    · rw [heq]
      exact .inr ⟨l, harrived, hwaits⟩
    obtain ⟨-, hcalm, hdrained, rfl⟩ |
      ⟨vec, rest, behind, stack, hin, hstack, hcalm, hqueue, rfl⟩ :=
      waits_unlocked hwaits hunlocked
    · rcases heq with ⟨hpair, heq⟩ | ⟨hpair, frame, heq, hframe⟩
      · rw [heq]
        refine .inr ⟨queuedPackets (m.queuedTcpPackets ++ [⟨m.nextAddr, message.data⟩]), ?_,
          .calm hcalm fun h => absurd hpair h⟩
        simp [harrived, queuedPackets]
      · rw [heq]
        refine .inr ⟨queuedPackets m.queuedTcpPackets ++ (Rest.notify message).packets, ?_, ?_⟩
        · simp [harrived]
        · rcases hframe with ⟨rfl, -⟩ | ⟨rfl, -⟩
          · exact .rest hcalm (.inl hdrained) fun _ => hdrained hpair
          · exact .drain hcalm
    · simp only [Meets, hin] at hmeets
      obtain hclosed | hreliable' | hzero | ⟨hpair, hpackets⟩ := hmeets
      · rw [hclosed] at hopen
        cases hopen
      · rw [hreliable] at hreliable'
        cases hreliable'
      · omega
      · rcases heq with ⟨-, heq⟩ | ⟨hpair', -⟩
        · rw [heq]
          refine .inr
            ⟨queuedPackets (behind ++ [⟨m.nextAddr, message.data⟩]) ++ rest.packets, ?_, ?_⟩
          · simp [harrived, queuedPackets, hpackets]
          · dsimp only
            rw [hstack]
            exact .readable hcalm (by rw [hqueue, List.cons_append])
        · exact absurd hpair hpair'
  · cases hstep

section Select

variable {pair : SelectedPair} {l : List Bytes}

/-- A pair that is not reliable starts the loop. -/
lemma idle_selected (hopen : m.tcp.isClosed = false) :
    idle { m with selectedPair := some pair } = pair.reliable := by
  cases hpair : pair.reliable <;> simp [idle, hopen, hpair]

/-- A pair that is selected outside the loop is signalled in order. -/
lemma signal_outside (hopen : m.tcp.isClosed = false) (hcalm : Calm m.stack)
    (hnew : pair.reliable = true → Drained (some pair) m.queuedTcpPackets)
    (harrived : m.arrived = m.passed ++ queuedPackets m.queuedTcpPackets) :
    InOrder (signalNewSelectedPair { m with selectedPair := some pair } pair) := by
  obtain ⟨heq, hpair⟩ | ⟨frame, heq, hpair, hframe⟩ :=
    signalNewSelectedPair_eq { m with selectedPair := some pair } pair
  · rw [heq]
    exact .inr ⟨_, harrived, .calm hcalm (hnew hpair)⟩
  · rw [heq]
    rcases hframe with ⟨-, hidle⟩ | ⟨rfl, -⟩
    · rw [idle_selected hopen, hpair] at hidle
      cases hidle
    · exact .inr ⟨queuedPackets m.queuedTcpPackets ++ Rest.connect.packets,
        by simpa using harrived, .drain hcalm⟩

/-- The state of the component may change before. -/
lemma stateChange_outside (state : NiceComponentState) (hcalm : Calm m.stack)
    (hnew : pair.reliable = true → Drained (some pair) m.queuedTcpPackets)
    (harrived : m.arrived = m.passed ++ queuedPackets m.queuedTcpPackets) :
    InOrder (stateChange { m with selectedPair := some pair } state (.signal pair)) := by
  obtain ⟨frame, heq, hframe⟩ :=
    stateChange_eq { m with selectedPair := some pair } state (.signal pair)
  rw [heq]
  refine .inr ⟨queuedPackets m.queuedTcpPackets ++ (Rest.signal pair).packets,
    by simpa using harrived, ?_⟩
  rcases hframe with ⟨rfl, -⟩ | ⟨rfl, -⟩
  · refine .rest hcalm ?_ fun h => absurd rfl h
    cases hpair : pair.reliable with
    | true => exact .inl (hnew hpair)
    | false => exact .inr ⟨pair, rfl, rfl, hpair⟩
  · exact .drain hcalm

/-- In the loop only a reliable pair is selected, which starts nothing. -/
lemma signal_inside (hpair : pair.reliable = true) (harrived : m.arrived = m.passed ++ l)
    (hwaits : Waits (some pair) m.queuedTcpPackets m.stack l) :
    InOrder (signalNewSelectedPair { m with selectedPair := some pair } pair) := by
  obtain ⟨heq, -⟩ | ⟨frame, -, hpair', -⟩ :=
    signalNewSelectedPair_eq { m with selectedPair := some pair } pair
  · rw [heq]
    exact .inr ⟨_, harrived, hwaits⟩
  · rw [hpair] at hpair'
    cases hpair'

lemma stateChange_inside (state : NiceComponentState) (hopen : m.tcp.isClosed = false)
    (hpair : pair.reliable = true) (harrived : m.arrived = m.passed ++ l)
    (hwaits : Waits (some pair) m.queuedTcpPackets m.stack l) (hstack : ¬ Calm m.stack) :
    InOrder (stateChange { m with selectedPair := some pair } state (.signal pair)) := by
  obtain ⟨frame, heq, hframe⟩ :=
    stateChange_eq { m with selectedPair := some pair } state (.signal pair)
  rw [heq]
  rcases hframe with ⟨rfl, -⟩ | ⟨-, hidle, -⟩
  · exact .inr ⟨_, harrived, .inside (.inr ⟨pair, rfl, hpair⟩) hwaits hstack⟩
  · rw [idle_selected hopen, hpair] at hidle
    cases hidle

end Select

/-- A pair that is selected keeps the order. -/
lemma InOrder.select {pair : SelectedPair} {state : Option NiceComponentState} (h : m.InOrder)
    (hmeets : m.Meets (.select pair state)) (hstep : m.Step (.select pair state) m') :
    m'.InOrder := by
  rcases h with hclosed | ⟨l, harrived, hwaits⟩
  · exact .inl (isClosed_of_step hstep hclosed)
  cases hopen : m.tcp.isClosed with
  | true => exact .inl (isClosed_of_step hstep hopen)
  | false =>
  have hcond := hmeets.resolve_left (by simp [hopen])
  simp only [Step, act] at hstep
  split at hstep
  · rename_i hunlocked
    obtain rfl := Except.ok.inj (Except.ok.inj (Option.some.inj hstep))
    obtain ⟨hin, hcalm, hdrained, rfl⟩ |
      ⟨vec, rest, behind, stack, hin, hstack, hcalm, hqueue, rfl⟩ :=
      waits_unlocked hwaits hunlocked
    · rw [if_pos hin] at hcond
      have hnew (hpair : pair.reliable = true) : Drained (some pair) m.queuedTcpPackets :=
        fun _ => hcond hpair
      cases state with
      | none => exact signal_outside hopen hcalm hnew harrived
      | some state => exact stateChange_outside state hcalm hnew harrived
    · rw [if_neg (by simp [hin])] at hcond
      have hwaits' : Waits (some pair) m.queuedTcpPackets m.stack
          (queuedPackets behind ++ rest.packets) := by
        rw [hstack]
        exact .readable hcalm hqueue
      have hbusy : ¬ Calm m.stack := by
        rw [hstack]
        exact Calm.not_cons (by simp)
      cases state with
      | none => exact signal_inside hcond harrived hwaits'
      | some state => exact stateChange_inside state hopen hcond harrived hwaits' hbusy
  · cases hstep

/-- A change of state keeps the order. -/
lemma InOrder.stateChange {state : NiceComponentState} (h : m.InOrder)
    (hmeets : m.Meets (.stateChange state)) (hstep : m.Step (.stateChange state) m') :
    m'.InOrder := by
  rcases h with hclosed | ⟨l, harrived, hwaits⟩
  · exact .inl (isClosed_of_step hstep hclosed)
  simp only [Step, act] at hstep
  split at hstep
  · rename_i hunlocked
    obtain rfl := Except.ok.inj (Except.ok.inj (Option.some.inj hstep))
    obtain ⟨frame, heq, hframe⟩ := stateChange_eq m state .stop
    rw [heq]
    obtain ⟨-, hcalm, hdrained, rfl⟩ |
      ⟨vec, rest, behind, stack, hin, hstack, hcalm, hqueue, rfl⟩ :=
      waits_unlocked hwaits hunlocked
    · refine .inr
        ⟨queuedPackets m.queuedTcpPackets ++ Rest.stop.packets, by simpa using harrived, ?_⟩
      rcases hframe with ⟨rfl, -⟩ | ⟨rfl, -⟩
      · exact .rest hcalm (.inl hdrained) fun h => absurd rfl h
      · exact .drain hcalm
    · rcases hframe with ⟨rfl, -⟩ | ⟨-, hidle, hstate⟩
      · refine .inr ⟨_, harrived, .inside (.inl rfl) hwaits ?_⟩
        rw [hstack]
        exact Calm.not_cons (by simp)
      · rcases hmeets (by simp [hin]) with hidle' | hstate'
        · rw [hidle] at hidle'
          cases hidle'
        · exact absurd hstate' hstate
  · cases hstep

/-- **An action that meets the condition keeps the order.** -/
theorem InOrder.act (h : m.InOrder) (hmeets : m.Meets a) (hstep : m.Step a m') : m'.InOrder := by
  cases a with
  | run env monotonicTime => exact h.run hmeets hstep
  | done => exact h.done hstep
  | receive reliable message => exact h.receive hmeets hstep
  | select pair state => exact h.select hmeets hstep
  | stateChange state => exact h.stateChange hmeets hstep
  | clearSelectedPair =>
      rcases h with hclosed | ⟨l, harrived, hwaits⟩
      · exact .inl (isClosed_of_step hstep hclosed)
      simp only [Step, Machine.act] at hstep
      split at hstep
      · rename_i hunlocked
        cases hstep
        refine .inr ⟨l, harrived, ?_⟩
        dsimp only
        obtain ⟨-, hcalm, -, rfl⟩ | ⟨vec, rest, behind, stack, -, hstack, hcalm, hqueue, rfl⟩ :=
          waits_unlocked hwaits hunlocked
        · exact .calm hcalm fun h => absurd rfl h
        · rw [hstack]
          exact .readable hcalm hqueue
      · cases hstep
  | call env op =>
      rcases h with hclosed | ⟨l, harrived, hwaits⟩
      · exact .inl (isClosed_of_step hstep hclosed)
      simp only [Step, Machine.act] at hstep
      by_cases hcond : m.unlocked = true ∧ ¬ passesPacket op = true
      · rw [if_pos hcond] at hstep
        obtain ⟨⟨tcp, ret⟩, -, hstep⟩ := bind_eq_ok.mp (Except.ok.inj (Option.some.inj hstep))
        cases hstep
        exact .inr ⟨l, harrived, hwaits⟩
      · rw [if_neg hcond] at hstep
        cases hstep
  | adjust env monotonicTime =>
      rcases h with hclosed | ⟨l, harrived, hwaits⟩
      · exact .inl (isClosed_of_step hstep hclosed)
      simp only [Step, Machine.act] at hstep
      split at hstep
      · obtain ⟨c, rfl, -⟩ := adjust_eq (Except.ok.inj (Option.some.inj hstep))
        exact .inr ⟨l, harrived, hwaits⟩
      · cases hstep

/-- A component that is in order delivers. -/
lemma InOrder.delivers (h : m.InOrder) (hopen : m.tcp.isClosed = false) : m.Delivers := by
  rcases h with hclosed | ⟨l, harrived, hwaits⟩
  · rw [hopen] at hclosed
    cases hclosed
  have hempty (hstack : m.stack = []) : Drained m.selectedPair m.queuedTcpPackets ∧
      l = queuedPackets m.queuedTcpPackets := by
    obtain ⟨-, -, hdrained, hl⟩ | ⟨_, _, _, _, -, hstack', -⟩ :=
      waits_unlocked hwaits (by rw [unlocked, hstack])
    · exact ⟨hdrained, hl⟩
    · rw [hstack] at hstack'
      cases hstack'
  refine ⟨⟨l, harrived.symm⟩, fun hstack => ?_, fun hstack => (hempty hstack).1⟩
  rw [harrived, (hempty hstack).2]

/-- **Packets are passed in order**: in every run whose actions meet the condition each packet is
passed once, in the order of arrival, and none is left once a pair is selected. -/
theorem packets_in_order {m₀ m : Machine} {as : List Action} (h₀ : m₀.Starts)
    (h : Run (fun m a m' => m.Step a m' ∧ m.Meets a) m₀ as m) (hopen : m.tcp.isClosed = false) :
    m.Delivers := by
  have hstart : m₀.InOrder := by
    refine .inr
      ⟨queuedPackets m₀.queuedTcpPackets, by rw [h₀.arrived, h₀.passed, List.nil_append], ?_⟩
    rw [h₀.stack]
    exact .calm (fun _ h => absurd h List.not_mem_nil) fun h => absurd h₀.selectedPair h
  exact (h.invariant (I := InOrder) hstart fun m a m' hm hstep => hm.act hstep.2 hstep.1).delivers
    hopen

/-! ### Runs on fixed inputs -/

/-- Actions one after the other, each of which meets a condition. -/
def actAll (C : Machine → Action → Bool) : Machine → List Action → Option Machine
  | m, [] => some m
  | m, a :: as =>
      match C m a, m.act a with
      | true, some (.ok (.ok m')) => m'.actAll C as
      | _, _ => none

/-- What actions one after the other reach is reached by a run. -/
lemma run_of_actAll {C : Machine → Action → Bool} {as : List Action}
    (h : m.actAll C as = some m') : Run (fun m a m' => m.Step a m' ∧ C m a = true) m as m' := by
  induction as generalizing m with
  | nil =>
      cases h
      exact .nil
  | cons a as ih =>
      rw [actAll] at h
      split at h
      · rename_i n hC hact
        exact (Run.nil.snoc ⟨hact, hC⟩).append (ih h)
      · cases h

/-- A component of a reliable agent with packets in its queue, before a pair is selected. -/
def waiting (queue : List OutputVector) : Machine :=
  { tcp := pseudoTcpSocketNew 0 true (fun _ => 0) (fun _ => 0)
    lastClockTimeout := 0
    tcpClock := none
    selectedPair := none
    state := .connecting
    queuedTcpPackets := queue
    stack := []
    nextAddr := queue.length
    arrived := queuedPackets queue
    passed := [] }

/-- A CONNECT segment of the peer. -/
def connectPacket : Bytes :=
  be32 0 ++ be32 0 ++ be32 0 ++ [0, FLAG_CTL] ++ be16 1000 ++ be32 0 ++ be32 0 ++ [CTL_CONNECT]

/-- The innermost call goes on `n` times. -/
def goesOn (n : ℕ) : List Action := List.replicate n (.run calmEnv 1000000)

/-- A CONNECT segment waits; it is passed when a pair is selected. -/
theorem packets_in_order_sample :
    ∃ m : Machine, m.passed = [connectPacket] ∧ m.stack = [] ∧ m.Delivers := by
  have hobs : ((waiting [⟨0, connectPacket⟩]).actAll (fun m a => decide (m.Meets a))
      (.select ⟨false⟩ none :: goesOn 4)).map
      (fun m => (m.passed, m.stack, m.tcp.isClosed)) = some ([connectPacket], [], false) := by
    decide +kernel
  obtain ⟨m, hm, hobs⟩ := Option.map_eq_some_iff.mp hobs
  simp only [Prod.mk.injEq] at hobs
  have hstart : (waiting [⟨0, connectPacket⟩]).Starts := ⟨rfl, rfl, rfl, rfl⟩
  exact ⟨m, hobs.1, hobs.2.1, packets_in_order hstart
    ((run_of_actAll hm).mono fun t e u h => ⟨h.1, of_decide_eq_true h.2⟩) hobs.2.2⟩

/-- **A packet that is refused blocks the ones behind it**: it is passed again with every packet
that comes later, and these are passed before those in the queue. -/
theorem packets_blocked :
    ∃ m : Machine, (∃ as, Run Step (waiting [⟨0, [0]⟩, ⟨1, connectPacket⟩]) as m) ∧
      (waiting [⟨0, [0]⟩, ⟨1, connectPacket⟩]).Starts ∧ m.tcp.isClosed = false ∧ m.stack = [] ∧
      m.selectedPair = some ⟨false⟩ ∧ m.arrived = [[0], connectPacket, [1]] ∧
      m.passed = [[0], [0], [1]] ∧ queuedPackets m.queuedTcpPackets = [[0], connectPacket] ∧
      ¬ m.Delivers := by
  have hobs : ((waiting [⟨0, [0]⟩, ⟨1, connectPacket⟩]).actAll (fun _ _ => true)
      (.select ⟨false⟩ none :: goesOn 3 ++ .receive false ⟨[[1]], 1⟩ :: goesOn 4)).map
      (fun m => decide (m.tcp.isClosed = false ∧ m.stack = [] ∧ m.selectedPair = some ⟨false⟩ ∧
        m.arrived = [[0], connectPacket, [1]] ∧ m.passed = [[0], [0], [1]] ∧
        queuedPackets m.queuedTcpPackets = [[0], connectPacket])) = some true := by
    decide +kernel
  obtain ⟨m, hm, hobs⟩ := Option.map_eq_some_iff.mp hobs
  obtain ⟨hopen, hstack, hpair, harrived, hpassed, hqueue⟩ := of_decide_eq_true hobs
  refine ⟨m, ⟨_, (run_of_actAll hm).mono fun t e u h => h.1⟩, ⟨rfl, rfl, rfl, rfl⟩, hopen, hstack,
    hpair, harrived, hpassed, hqueue, fun h => ?_⟩
  have hnone := h.none_left hstack (by simp [hpair])
  rw [hnone] at hqueue
  cases hqueue

end Machine

/-! ### Packets that are refused -/

section refused

variable {env : Env} {s : PseudoTcpSocket} {seg : Segment} {p : Bytes}

/-- The segments that a socket may refuse and stay open: of another conversation, a reset with
data, control data that is no CONNECT, an acknowledgement of a timestamp of the future, and a FIN
with data. -/
def Refusable (env : Env) (s : PseudoTcpSocket) (seg : Segment) : Prop :=
  seg.conv ≠ s.conv ∨ (seg.flags.has FLAG_RST = true ∧ 0 < seg.data.length) ∨
    ¬ PseudoTcpSocket.AcceptsControl seg ∨
    (seg.tsecr ≠ 0 ∧ timeDiff (s.getCurrentTime (env.clock 0)) seg.tsecr < 0) ∨
    (seg.flags.has FLAG_FIN = true ∧ 0 < seg.data.length)

/-- A closing socket is closed. -/
lemma closedown_isClosed (env : Env) (s : PseudoTcpSocket) (err : Option Errno)
    (source : ClosedownSource) (reading : UInt32) :
    Post (fun _ => True) (fun t => t.isClosed = true) (s.closedown env err source reading) := by
  refine (PseudoTcpSocket.closedown_post env s err source reading).mono (fun _ _ => trivial) ?_
  rintro _ ⟨t, -, rfl⟩
  rfl

/-- An acknowledgement that ends the processing closes the socket, or has a timestamp of the
future. -/
lemma receiveAck_none (env : Env) (s : PseudoTcpSocket) (seg : Segment) (now : UInt32) :
    Post (fun _ => True) (fun r => r.2 = none →
        r.1.isClosed = true ∨ seg.tsecr ≠ 0 ∧ timeDiff now seg.tsecr < 0)
      (s.receiveAck env seg now) := by
  have haborted (t : PseudoTcpSocket) : Post (fun _ => True) (fun r => r.2 = none →
      r.1.isClosed = true ∨ seg.tsecr ≠ 0 ∧ timeDiff now seg.tsecr < 0)
      (t.closedown env (some .ECONNABORTED) .closedownLocal (env.clock 1) >>=
        fun t => pure (t, (none : Option Bool))) :=
    Post.bind (closedown_isClosed env t _ _ _) fun u hu => Post.pure fun _ => .inl hu
  unfold PseudoTcpSocket.receiveAck
  dsimp only
  refine Post.ite (fun _ => ?_) fun _ => Post.ite (fun _ => ?_) fun _ => Post.ok (by simp)
  · cases hrtt : s.updateRtt seg now with
    | none =>
        refine Post.ok fun _ => .inr ?_
        unfold PseudoTcpSocket.updateRtt at hrtt
        by_cases htsecr : seg.tsecr = 0
        · rw [if_pos htsecr] at hrtt
          cases hrtt
        rw [if_neg htsecr] at hrtt
        by_cases hneg : timeDiff now seg.tsecr ≥ 0
        · rw [if_pos hneg] at hrtt
          cases hrtt
        · exact ⟨htsecr, by omega⟩
    | some t =>
        refine Post.bind (P := fun _ => True) ⟨fun _ => trivial, fun _ => trivial⟩ ?_
        rintro ⟨u, isFinAck, _ | _⟩ -
        · exact haborted u
        · exact Post.pure (by simp)
  · refine Post.bind (P := fun _ => True) ⟨fun _ => trivial, fun _ => trivial⟩ ?_
    rintro ⟨u, _ | _⟩ -
    · exact haborted u
    · exact Post.pure (by simp)

/-- Why a segment is refused while the socket stays open. -/
lemma process_refused (env : Env) (s : PseudoTcpSocket) (seg : Segment) :
    Post (fun _ => True) (fun r => r.2 = false → r.1.isClosed = false → Refusable env s seg)
      (s.process env seg) := by
  have hclosed {t : PseudoTcpSocket} (ht : t.isClosed = true) (b : Bool) :
      Post (fun _ => True) (fun r => r.2 = false → r.1.isClosed = false → Refusable env s seg)
        (pure (t, b) : Except Abort (PseudoTcpSocket × Bool)) :=
    Post.pure fun _ hopen => by
      rw [ht] at hopen
      cases hopen
  unfold PseudoTcpSocket.process
  refine Post.ite (fun hconv => Post.ok fun _ _ => .inl hconv) fun _ => ?_
  dsimp only
  refine Post.ite (fun hclose => ?_) fun _ => Post.ite (fun _ => ?_) fun _ => ?_
  · refine Post.ite (fun hrst => Post.ok fun _ hopen => .inr (.inl ⟨hrst, ?_⟩)) fun _ => ?_
    · rcases hclose with hstate | ⟨-, hdata⟩
      · have := isClosed_iff.mpr hstate
        dsimp only at hopen
        rw [this] at hopen
        cases hopen
      · exact hdata
    · exact Post.bind (closedown_isClosed env _ _ _ _) fun t ht => hclosed ht false
  · exact Post.bind (closedown_isClosed env _ _ _ _) fun t ht => hclosed ht false
  unfold PseudoTcpSocket.processSegment
  refine Post.bind (P := fun r => r.2 = none → ¬ PseudoTcpSocket.AcceptsControl seg) ?_ ?_
  · refine ⟨fun {r} hr hnone => ?_, fun _ => trivial⟩
    obtain ⟨t, b⟩ := r
    cases hnone
    exact (PseudoTcpSocket.receiveControl_none hr).2
  rintro ⟨t, _ | bConnect⟩ hcontrol
  · exact Post.pure fun _ _ => .inr (.inr (.inl (hcontrol rfl)))
  refine Post.bind (receiveAck_none env _ seg _) ?_
  rintro ⟨u, _ | isFinAck⟩ hack
  · rcases hack rfl with hu | hrtt
    · exact hclosed hu false
    · exact Post.pure fun _ _ => .inr (.inr (.inr (.inl hrtt)))
  refine Post.bind (P := fun _ => True) ⟨fun _ => trivial, fun _ => trivial⟩ fun v _ => ?_
  refine Post.bind (P := fun r => r.2 = false →
    seg.flags.has FLAG_FIN = true ∧ 0 < seg.data.length) ?_ ?_
  · unfold PseudoTcpSocket.receiveFin
    refine Post.ite (fun _ => Post.ite (fun hfin => Post.ok fun _ => ?_) fun _ => ?_) fun _ =>
      Post.ok (by simp)
    · simp only [Bool.and_eq_true, decide_eq_true_eq] at hfin
      exact ⟨hfin.1, Nat.pos_of_ne_zero hfin.2⟩
    · split
      · exact Post.ok (by simp)
      · exact Post.bind (P := fun _ => True) ⟨fun _ => trivial, fun _ => trivial⟩
          fun _ _ => Post.pure (by simp)
      · exact Post.bind (P := fun _ => True) ⟨fun _ => trivial, fun _ => trivial⟩
          fun _ _ => Post.pure (by simp)
  rintro ⟨w, _ | _⟩ hfin
  · exact Post.pure fun _ _ => .inr (.inr (.inr (.inr (hfin rfl))))
  · exact Post.bind (P := fun _ => True) ⟨fun _ => trivial, fun _ => trivial⟩
      fun _ _ => Post.pure (by simp)

/-- **Why a packet is refused** while the socket stays open: for its length, or for its segment. -/
theorem refuses_cause (h : Refuses env s p) :
    PseudoTcp.Refused p.length ∨ ∃ seg, parse p = some seg ∧ Refusable env s seg := by
  by_cases hlen : PseudoTcp.Refused p.length
  · exact .inl hlen
  right
  unfold Refuses at h
  cases hparse : parse p with
  | none =>
      have hge : HEADER_SIZE ≤ p.length := by
        by_contra hlt
        exact hlen (.inl (by omega))
      obtain ⟨seg, data, -, hsome, -⟩ :=
        PseudoTcpSocket.parse_prefix (List.prefix_refl p) hge
      rw [hparse] at hsome
      cases hsome
  | some seg =>
      refine ⟨seg, rfl, ?_⟩
      rw [PseudoTcpSocket.notifyPacket_accepted env s hlen hparse] at h
      split at h
      · rename_i t ht
        exact (process_refused env s seg).of_ok ht rfl h
      · exact absurd h id

end refused

end LibNice.Agent
