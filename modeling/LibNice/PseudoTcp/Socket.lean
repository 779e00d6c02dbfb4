import LibNice.PseudoTcp.Input
import LibNice.Foundation.Run

/-!
`agent/pseudotcp.c`: the functions that the user of a socket calls.

* `PseudoTcpSocket.connect`, `send`, `recv`, `shutdownSocket`, `close`: the stream.
* `PseudoTcpSocket.notifyMtu`, `notifyClock`, `notifyPacket`, `getNextClock`: what
  drives the socket.
* `Op`, `Ret`, `PseudoTcpSocket.call`: a call of one of them, what it returns, and the
  transition it makes.
-/

namespace LibNice.PseudoTcp

open LibNice.Foundation

namespace PseudoTcpSocket

/-! ### The stream -/

/-- `pseudo_tcp_socket_connect`. -/
def connect (env : Env) (s : PseudoTcpSocket) : Except Abort (PseudoTcpSocket × Bool) :=
  if s.state ≠ .listen then .ok ({ s with error := some .EINVAL }, false)
  else do
    let s ← s.setState .synSent
    let s ← s.queueConnectMessage
    let s ← s.attemptSend env .none (env.clock 0)
    return (s, true)

/-- `pseudo_tcp_socket_get_available_bytes`. -/
def getAvailableBytes (s : PseudoTcpSocket) : ℤ :=
  if s.state ≠ .established then -1 else s.rbuf.getBuffered

/-- `pseudo_tcp_socket_get_available_send_space`. -/
def getAvailableSendSpace (s : PseudoTcpSocket) : PseudoTcpSocket × ℕ :=
  let ret := if s.state = .established then s.sbuf.getWriteRemaining else 0
  (if ret = 0 then { s with bWriteEnable := true } else s, ret)

/-- `pseudo_tcp_socket_is_closed`. -/
def isClosed (s : PseudoTcpSocket) : Bool := s.state = .closed

/-- `pseudo_tcp_socket_is_closed_remotely`. -/
def isClosedRemotely (s : PseudoTcpSocket) : Bool := s.state.hasReceivedFin

/-- `pseudo_tcp_socket_recv`: the value it returns, and the bytes it copies. -/
def recv (env : Env) (s : PseudoTcpSocket) (len : ℕ) :
    Except Abort (PseudoTcpSocket × ℤ × Bytes) :=
  if s.supportFinAck ∧ (s.shutdownReads ∨ s.state.hasReceivedFin) then .ok (s, 0, [])
  else if ¬ s.supportFinAck ∧ s.isClosed then .ok (s, 0, [])
  else if ¬ s.supportFinAck ∧ s.state ≠ .established then
    .ok ({ s with error := some .ENOTCONN }, -1, [])
  else if len = 0 then .ok (s, 0, [])
  else
    let (rbuf, bytes) := s.rbuf.read len
    let s := { s with rbuf }
    if bytes.length = 0 then
      .ok ({ s with bReadEnable := true, error := some .EWOULDBLOCK }, -1, [])
    else
      let availableSpace := s.rbuf.getWriteRemaining
      -- a `gsize` as a `gint`
      let bytesread := (bytes.length : ℤ).bmod (2 ^ 32)
      -- a `gsize` of 64 bits minus a `guint32`
      let gap := (availableSpace + 2 ^ 64 - s.rcvWnd.toNat) % 2 ^ 64
      if gap ≥ (min (s.rbufLen / 2) s.mss).toNat then
        let bWasClosed := s.rcvWnd = 0
        let s := { s with rcvWnd := UInt32.ofNat availableSpace }
        if bWasClosed then do
          let s ← s.attemptSend env .immediateAck (env.clock 0)
          return (s, bytesread, bytes)
        else .ok (s, bytesread, bytes)
      else .ok (s, bytesread, bytes)

/-- `pseudo_tcp_socket_send`. -/
def send (env : Env) (s : PseudoTcpSocket) (data : Bytes) : Except Abort (PseudoTcpSocket × ℤ) :=
  if s.state ≠ .established then
    .ok ({ s with error := some (if s.state.hasSentFin then .EPIPE else .ENOTCONN) }, -1)
  else if s.sbuf.getWriteRemaining = 0 then
    .ok ({ s with bWriteEnable := true, error := some .EWOULDBLOCK }, -1)
  else do
    let (s, queued) ← s.queue data FLAG_NONE
    -- a `guint32` as a `gint`
    let written := (queued : ℤ).bmod (2 ^ 32)
    let s ← s.attemptSend env .none (env.clock 0)
    let s := if written > 0 ∧ written < data.length then { s with bWriteEnable := true } else s
    return (s, written)

/-- `pseudo_tcp_socket_shutdown`. -/
def shutdownSocket (env : Env) (s : PseudoTcpSocket) (how : PseudoTcpShutdown) :
    Except Abort PseudoTcpSocket :=
  if ¬ s.supportFinAck then
    .ok (if s.shutdown = .none then { s with shutdown := .graceful } else s)
  else
    let s := if how = .wr then s else { s with shutdownReads := true }
    if how = .rd then .ok s
    else
      match s.state with
      | .listen | .synSent => s.setStateClosed none
      | .synReceived | .established =>
          if s.getAvailableBytes > 0 then
            s.closedown env (some .ECONNABORTED) .closedownLocal (env.clock 0)
          else do
            let s ← s.queueFinMessage
            let s ← s.attemptSend env .fin (env.clock 0)
            s.setState .finWait1
      | .closeWait => do
          let s ← s.queueFinMessage
          let s ← s.attemptSend env .fin (env.clock 0)
          s.setState .lastAck
      | .closing | .closed | .finWait1 | .finWait2 | .timeWait | .lastAck => .ok s

/-- `pseudo_tcp_socket_close`. -/
def close (env : Env) (s : PseudoTcpSocket) (force : Bool) : Except Abort PseudoTcpSocket :=
  if force ∧ s.state ≠ .closed then
    s.closedown env (some .ECONNABORTED) .closedownLocal (env.clock 0)
  else s.shutdownSocket env .rdwr

/-! ### Clock, MTU and packets -/

/-- `pseudo_tcp_socket_notify_mtu`. -/
def notifyMtu (s : PseudoTcpSocket) (mtu : UInt16) : PseudoTcpSocket :=
  let s := { s with mtuAdvise := mtu.toUInt32 }
  if s.state = .established then s.adjustMTU else s

/-- The part of `pseudo_tcp_socket_notify_clock` for TIME-WAIT. -/
def clockTimeWait (s : PseudoTcpSocket) : Except Abort PseudoTcpSocket :=
  if s.supportFinAck ∧ s.state = .timeWait then s.setStateClosed none else .ok s

/-- The part of `pseudo_tcp_socket_notify_clock` for LAST-ACK. -/
def clockLastAck (env : Env) (s : PseudoTcpSocket) : Except Abort PseudoTcpSocket :=
  if s.supportFinAck ∧ s.state = .lastAck then do
    let s ← s.queueFinMessage
    s.attemptSend env .fin (env.clock 1)
  else .ok s

/-- The part of `pseudo_tcp_socket_notify_clock` that retransmits: `false` where the
source closes the socket. -/
def clockRetransmit (env : Env) (s : PseudoTcpSocket) (now : UInt32) :
    Except Abort (PseudoTcpSocket × Bool) :=
  if s.rtoBase ≠ 0 ∧ timeDiff (s.rtoBase + s.rxRto) now ≤ 0 then
    if s.slist.length = 0 then .error .notifyClock
    else do
      match ← s.transmitHead env now with
      | (s, false) => return (s, false)
      | (s, true) =>
          let nInFlight := s.sndNxt - s.sndUna
          let rtoLimit := if s.state.isConnecting then DEF_RTO else MAX_RTO
          return ({ s with
            ssthresh := max (nInFlight / 2) (2 * s.mss)
            cwnd := s.mss
            rxRto := min rtoLimit (s.rxRto * 2)
            rtoBase := now }, true)
  else .ok (s, true)

/-- The part of `pseudo_tcp_socket_notify_clock` that probes a closed window: `false`
where the source closes the socket. -/
def clockProbe (env : Env) (s : PseudoTcpSocket) (now : UInt32) :
    Except Abort (PseudoTcpSocket × Bool) :=
  if s.sndWnd = 0 ∧ timeDiff (s.lastsend + s.rxRto) now ≤ 0 then
    if timeDiff now s.lastrecv ≥ 15000 then .ok (s, false)
    else do
      let (s, _) ← s.packet env (s.sndNxt - 1) FLAG_NONE 0 0 now
      return ({ s with lastsend := now, rxRto := min MAX_RTO (s.rxRto * 2) }, true)
  else .ok (s, true)

/-- The part of `pseudo_tcp_socket_notify_clock` for delayed acknowledgements. -/
def clockAck (env : Env) (s : PseudoTcpSocket) (now : UInt32) : Except Abort PseudoTcpSocket :=
  if s.tAck ≠ 0 ∧ timeDiff (s.tAck + s.ackDelay) now ≤ 0 then do
    let (s, _) ← s.packet env s.sndNxt FLAG_NONE 0 0 now
    return s
  else .ok s

/-- `pseudo_tcp_socket_notify_clock`. -/
def notifyClock (env : Env) (s : PseudoTcpSocket) : Except Abort PseudoTcpSocket :=
  let now := s.getCurrentTime (env.clock 0)
  if s.state = .closed then .ok s
  else do
    let s ← s.clockTimeWait
    let s ← s.clockLastAck env
    match ← s.clockRetransmit env now with
    | (s, false) => s.closedown env (some .ECONNABORTED) .closedownLocal (env.clock 2)
    | (s, true) =>
        match ← s.clockProbe env now with
        | (s, false) => s.closedown env (some .ECONNABORTED) .closedownLocal (env.clock 2)
        | (s, true) => s.clockAck env now

/-- `pseudo_tcp_socket_notify_packet`. -/
def notifyPacket (env : Env) (s : PseudoTcpSocket) (buffer : Bytes) :
    Except Abort (PseudoTcpSocket × Bool) :=
  if buffer.length > MAX_PACKET then .ok (s, false)
  else
    match parse buffer with
    | none => .ok (s, false)
    | some seg => s.process env seg

/-- `pseudo_tcp_socket_get_next_clock`: whether there is a next clock, and the time. -/
def getNextClock (env : Env) (s : PseudoTcpSocket) (timeout : UInt64) :
    Except Abort (PseudoTcpSocket × Bool × UInt64) :=
  let now := s.getCurrentTime (env.clock 0)
  let closing := s.shutdown = .forceful ∨
    s.shutdown = .graceful ∧ (s.state ≠ .established ∨ s.sbuf.getBuffered = 0 ∧ s.tAck = 0)
  if closing then do
    let s ← s.closedown env none .closedownRemote (env.clock 1)
    return (s, false, timeout)
  else
    let timeWait := s.supportFinAck ∧ s.state = .timeWait
    let closedTimeout := if timeWait then TIME_WAIT_TIMEOUT else CLOSED_TIMEOUT
    if s.supportFinAck ∧ s.state = .closed then .ok (s, false, timeout)
    else
      let timeout := if timeout = 0 ∨ timeout < now.toUInt64 then (now + closedTimeout).toUInt64
        else timeout
      if timeWait then .ok (s, true, min timeout (now + TIME_WAIT_TIMEOUT).toUInt64)
      else if s.state = .closed ∧ ¬ s.supportFinAck then
        .ok (s, true, min timeout (now + CLOSED_TIMEOUT).toUInt64)
      else
        let timeout := min timeout (now + DEFAULT_TIMEOUT).toUInt64
        let timeout := if s.tAck ≠ 0 then min timeout (s.tAck + s.ackDelay).toUInt64 else timeout
        let timeout := if s.rtoBase ≠ 0 then min timeout (s.rtoBase + s.rxRto).toUInt64 else timeout
        let timeout := if s.sndWnd = 0 then min timeout (s.lastsend + s.rxRto).toUInt64 else timeout
        .ok (s, true, timeout)

/-- `resize_send_buffer`. -/
def resizeSendBuffer (env : Env) (s : PseudoTcpSocket) (newSize : UInt32) : PseudoTcpSocket :=
  { s with sbufLen := newSize, sbuf := (s.sbuf.setCapacity env.memory newSize.toNat).1 }

/-- The `rcv-buf` property, of at least 1, which the source refuses to set in other
states than LISTEN. -/
def setRcvBuf (env : Env) (s : PseudoTcpSocket) (size : UInt32) : Except Abort PseudoTcpSocket :=
  if s.state = .listen then s.resizeReceiveBuffer env (max 1 size) else .ok s

/-- The `snd-buf` property, of at least 1, which the source refuses to set in other
states than LISTEN. -/
def setSndBuf (env : Env) (s : PseudoTcpSocket) (size : UInt32) : PseudoTcpSocket :=
  if s.state = .listen then s.resizeSendBuffer env (max 1 size) else s

end PseudoTcpSocket

/-! ### Calls -/

/-- A call of the user of a socket. -/
inductive Op where
  | connect
  | send (data : Bytes)
  | recv (len : ℕ)
  | shutdown (how : PseudoTcpShutdown)
  | close (force : Bool)
  | notifyMtu (mtu : UInt16)
  | notifyClock
  | getNextClock (timeout : UInt64)
  | notifyPacket (buffer : Bytes)
  | setRcvBuf (size : UInt32)
  | setSndBuf (size : UInt32)
deriving DecidableEq, Repr

/-- What a call returns: a value and the bytes it copies. -/
structure Ret where
  value : ℤ := 0
  bytes : Bytes := []
deriving DecidableEq, Repr

namespace PseudoTcpSocket

/-- What a call does: the socket after it, and what it returns. -/
def call (env : Env) (s : PseudoTcpSocket) : Op → Except Abort (PseudoTcpSocket × Ret)
  | .connect => do
      let (s, b) ← s.connect env
      return (s, { value := b.toNat })
  | .send data => do
      let (s, n) ← s.send env data
      return (s, { value := n })
  | .recv len => do
      let (s, n, bytes) ← s.recv env len
      return (s, { value := n, bytes })
  | .shutdown how => do
      let s ← s.shutdownSocket env how
      return (s, {})
  | .close force => do
      let s ← s.close env force
      return (s, {})
  | .notifyMtu mtu => return (s.notifyMtu mtu, {})
  | .notifyClock => do
      let s ← s.notifyClock env
      return (s, {})
  | .getNextClock timeout => do
      let (s, b, _) ← s.getNextClock env timeout
      return (s, { value := b.toNat })
  | .notifyPacket buffer => do
      let (s, b) ← s.notifyPacket env buffer
      return (s, { value := b.toNat })
  | .setRcvBuf size => do
      let s ← s.setRcvBuf env size
      return (s, {})
  | .setSndBuf size => return (s.setSndBuf env size, {})

end PseudoTcpSocket

end LibNice.PseudoTcp
