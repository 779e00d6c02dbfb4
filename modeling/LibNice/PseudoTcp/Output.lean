import LibNice.PseudoTcp.Fifo

/-!
`agent/pseudotcp.c`: the state of a socket, and the functions that send.

* `Incoming`, `Outgoing`, `PseudoTcpSocket`: the private data of a socket; `Env` is
  what a call finds outside it.
* `PseudoTcpSocket.queue`, `packet`, `transmit`, `attemptSend`: the way of a byte
  from the user to the network.
* `PseudoTcpSocket.setState`, `adjustMTU`, `closedown`: changes of state.
-/

namespace LibNice.PseudoTcp

open LibNice.Foundation

/-! ### The state of a socket -/

/-- What a socket keeps of the data that arrives. -/
structure Incoming where
  rlist : List RSegment
  rbufLen : UInt32
  rcvNxt : UInt32
  rcvWnd : UInt32
  rwndScale : UInt8
  rbuf : PseudoTcpFifo

/-- What a socket keeps of the data that leaves.  `unsentSlist` has the addresses of
nodes of `slist`; the next node to be allocated has the address `nextAddr`. -/
structure Outgoing where
  slist : List SSegment
  unsentSlist : List ℕ
  nextAddr : ℕ
  sbufLen : UInt32
  sndNxt : UInt32
  sndUna : UInt32
  sbuf : PseudoTcpFifo

/-- `PseudoTcpSocketPrivate`.  `wire` has the packets given to `WritePacket` and
`called` the other callbacks that were made, the latest last. -/
structure PseudoTcpSocket extends Incoming, Outgoing where
  wire : List Bytes
  called : List Callback
  shutdown : Shutdown
  shutdownReads : Bool
  error : Option Errno
  state : PseudoTcpState
  conv : UInt32
  bReadEnable : Bool
  bWriteEnable : Bool
  bOutgoing : Bool
  lastTraffic : UInt32
  lastrecv : UInt32
  sndWnd : UInt32
  lastsend : UInt32
  swndScale : UInt8
  mss : UInt32
  msslevel : ℕ
  largest : ℕ
  mtuAdvise : UInt32
  rtoBase : UInt32
  tsRecent : UInt32
  tsLastack : UInt32
  rxRttvar : UInt32
  rxSrtt : UInt32
  rxRto : UInt32
  ssthresh : UInt32
  cwnd : UInt32
  dupAcks : UInt8
  recover : UInt32
  tAck : UInt32
  useNagling : Bool
  ackDelay : UInt32
  supportWndScale : Bool
  currentTime : UInt32
  supportFinAck : Bool

/-- What a call finds outside the socket: the readings of the system clock in
milliseconds, one for each place that takes one, the contents of memory that it
allocates, and what `WritePacket` answers to a packet after the ones before it. -/
structure Env where
  clock : ℕ → UInt32
  memory : ℕ → UInt8
  writePacket : List Bytes → Bytes → PseudoTcpWriteResult

/-- `pseudo_tcp_socket_new`, with the value of the `support-fin-ack` property and the
two blocks of memory that it allocates. -/
def pseudoTcpSocketNew (conversation : UInt32) (supportFinAck : Bool)
    (rmemory smemory : ℕ → UInt8) : PseudoTcpSocket :=
  let mss := UInt32.ofNat (MIN_PACKET - PACKET_OVERHEAD)
  { rlist := []
    rbufLen := DEFAULT_RCV_BUF_SIZE
    rcvNxt := 0
    rcvWnd := DEFAULT_RCV_BUF_SIZE
    rwndScale := 0
    rbuf := PseudoTcpFifo.init rmemory DEFAULT_RCV_BUF_SIZE.toNat
    slist := []
    unsentSlist := []
    nextAddr := 0
    sbufLen := DEFAULT_SND_BUF_SIZE
    sndNxt := 0
    sndUna := 0
    sbuf := PseudoTcpFifo.init smemory DEFAULT_SND_BUF_SIZE.toNat
    wire := []
    called := []
    shutdown := .none
    shutdownReads := false
    error := none
    state := .listen
    conv := conversation
    bReadEnable := true
    bWriteEnable := false
    bOutgoing := false
    lastTraffic := 0
    lastrecv := 0
    sndWnd := 1
    lastsend := 0
    swndScale := 0
    mss
    msslevel := 0
    largest := 0
    mtuAdvise := UInt32.ofNat MAX_PACKET
    rtoBase := 0
    tsRecent := 0
    tsLastack := 0
    rxRttvar := 0
    rxSrtt := 0
    rxRto := DEF_RTO
    ssthresh := DEFAULT_RCV_BUF_SIZE
    cwnd := 2 * mss
    dupAcks := 0
    recover := 0
    tAck := 0
    useNagling := true
    ackDelay := DEFAULT_ACK_DELAY
    supportWndScale := true
    currentTime := 0
    supportFinAck }

namespace PseudoTcpSocket

/-- `get_current_time`, where the system clock stands at `reading`. -/
def getCurrentTime (s : PseudoTcpSocket) (reading : UInt32) : UInt32 :=
  if s.currentTime ≠ 0 then s.currentTime else reading

/-- `pseudo_tcp_socket_set_time`. -/
def setTime (s : PseudoTcpSocket) (currentTime : UInt32) : PseudoTcpSocket := { s with currentTime }

/-! ### Queueing -/

/-- The list with the node at an address changed. -/
def updateSegment (l : List SSegment) (a : ℕ) (f : SSegment → SSegment) : List SSegment :=
  l.map fun g => if g.addr = a then f g else g

/-- `g_queue_insert_after (slist, g_queue_find (slist, segment), subseg)`, the segment
by its address, which the list has. -/
def insertAfter (l : List SSegment) (a : ℕ) (subseg : SSegment) : List SSegment :=
  match l with
  | [] => [subseg]
  | g :: l => if g.addr = a then g :: subseg :: l else g :: insertAfter l a subseg

/-- `g_queue_insert_after (unsent_slist, g_queue_find (unsent_slist, segment), subseg)`, of
a segment that the list has. -/
def insertAfterUnsent (l : List ℕ) (a subseg : ℕ) : List ℕ :=
  match l with
  | [] => [subseg]
  | g :: l => if g = a then g :: subseg :: l else g :: insertAfterUnsent l a subseg

/-- The segment list with `len` more bytes of a kind at its end: they join the last
segment if that is of the kind and was not sent yet. -/
def pushSegment (o : Outgoing) (len : ℕ) (flags : TcpFlags) : Outgoing :=
  match o.slist.getLast? with
  | some tail =>
      if tail.flags = flags ∧ tail.xmit = 0 then
        { o with slist := o.slist.dropLast ++ [{ tail with len := tail.len + len }] }
      else newSegment
  | none => newSegment
where
  newSegment : Outgoing :=
    { o with
      slist := o.slist ++ [{
        addr := o.nextAddr
        seq := o.sndUna + UInt32.ofNat o.sbuf.getBuffered
        len, xmit := 0, flags }]
      unsentSlist := o.unsentSlist ++ [o.nextAddr]
      nextAddr := o.nextAddr + 1 }

/-- `queue`: the socket, and how many bytes it takes. -/
def queue (s : PseudoTcpSocket) (data : Bytes) (flags : TcpFlags) :
    Except Abort (PseudoTcpSocket × ℕ) :=
  let availableSpace := s.sbuf.getWriteRemaining
  if data.length > availableSpace ∧ flags ≠ FLAG_NONE then .error .queue
  else
    let data := data.take availableSpace
    let o := pushSegment s.toOutgoing data.length flags
    let (sbuf, written) := o.sbuf.write data
    .ok ({ s with toOutgoing := { o with sbuf } }, written)

/-- The payload of a CONNECT message. -/
def connectMessage (s : PseudoTcpSocket) : Bytes :=
  [CTL_CONNECT] ++
    (if s.supportWndScale then [TCP_OPT_WND_SCALE, 1, s.rwndScale] else []) ++
    (if s.supportFinAck then [TCP_OPT_FIN_ACK, 1, 0] else [])

/-- `queue_connect_message`. -/
def queueConnectMessage (s : PseudoTcpSocket) : Except Abort PseudoTcpSocket := do
  let buf := s.connectMessage
  let s := { s with sndWnd := UInt32.ofNat buf.length }
  let (s, _) ← s.queue buf FLAG_CTL
  return s

/-- `queue_fin_message`. -/
def queueFinMessage (s : PseudoTcpSocket) : Except Abort PseudoTcpSocket :=
  if s.supportFinAck then do
    let (s, _) ← s.queue [] FLAG_FIN
    return s
  else .error .queueFinMessage

/-- `queue_rst_message`. -/
def queueRstMessage (s : PseudoTcpSocket) : Except Abort PseudoTcpSocket :=
  if s.supportFinAck then do
    let (s, _) ← s.queue [] FLAG_RST
    return s
  else .error .queueRstMessage

/-! ### Sending -/

/-- The header of a packet of the socket, as it goes on the wire. -/
def header (s : PseudoTcpSocket) (seq : UInt32) (flags : TcpFlags) (now : UInt32) : Bytes :=
  be32 s.conv ++ be32 seq ++ be32 s.rcvNxt ++ [0, flags] ++
    be16 ((s.rcvWnd >>> s.rwndScale.toUInt32).toNat % 65536) ++ be32 now ++ be32 s.tsRecent

/-- `packet`. -/
def packet (env : Env) (s : PseudoTcpSocket) (seq : UInt32) (flags : TcpFlags) (offset len : ℕ)
    (now : UInt32) : Except Abort (PseudoTcpSocket × PseudoTcpWriteResult) :=
  if (HEADER_SIZE + len) % 2 ^ 32 > MAX_PACKET then .error .packetLength
  else
    let payload := s.sbuf.readOffset len offset
    if len ≠ 0 ∧ payload.length ≠ len then .error .packetRead
    else
      let buffer := s.header seq flags now ++ (if len = 0 then [] else payload)
      let wres := env.writePacket s.wire buffer
      let s := { s with tsLastack := s.rcvNxt, wire := s.wire ++ [buffer] }
      if wres ≠ .success ∧ len ≠ 0 then .ok (s, wres)
      else
        .ok ({ s with
          tAck := 0
          lastsend := if len > 0 then now else s.lastsend
          lastTraffic := now
          bOutgoing := true }, .success)

/-- The socket on the next level of the table of MTUs. -/
def nextLevel (s : PseudoTcpSocket) (mss : UInt32) : PseudoTcpSocket :=
  { s with msslevel := s.msslevel + 1, mss, cwnd := 2 * mss }

/-- The loop of `transmit` that goes down the table of MTUs, from the given rest of it
on, to a maximum segment size below `nTransmit`.  `false` stands for "MTU too small". -/
def lowerMss (s : PseudoTcpSocket) (nTransmit : ℕ) : List ℕ → PseudoTcpSocket × Bool
  | [] => (s, false)
  | 0 :: _ => (s, false)
  | maximum :: rest =>
      let s := s.nextLevel (UInt32.ofNat (maximum - PACKET_OVERHEAD))
      if s.mss.toNat < nTransmit then (s, true) else lowerMss s nTransmit rest

/-- The loop of `transmit` that writes a segment: the number of bytes it wrote, or
`none` where the source returns `FALSE`.  A packet that is too large lowers the
level in the table of MTUs, so `fuel` that is the length of the table is enough. -/
def writeSegment (env : Env) (seq : UInt32) (flags : TcpFlags) (now : UInt32) :
    ℕ → PseudoTcpSocket → ℕ → Except Abort (PseudoTcpSocket × Option ℕ)
  | 0, _, _ => .error .endless
  | fuel + 1, s, nTransmit =>
      if (seq - s.sndUna).toNat > 1024 * 1024 * 64 then .error .transmitAcked
      else do
        let (s, wres) ← s.packet env seq flags (seq - s.sndUna).toNat nTransmit now
        match wres with
        | .success => return (s, some nTransmit)
        | .fail => return (s, none)
        | .tooLarge =>
            match lowerMss s nTransmit (PACKET_MAXIMUMS.drop (s.msslevel + 1)) with
            | (s, false) => return (s, none)
            | (s, true) => writeSegment env seq flags now fuel s s.mss.toNat

/-- A segment that is cut after `n` bytes; the second part is a new node that was
transmitted `xmit` times. -/
def splitSegment (o : Outgoing) (segment : SSegment) (n xmit : ℕ) : Outgoing :=
  let subseg : SSegment :=
    { addr := o.nextAddr
      seq := segment.seq + UInt32.ofNat n
      len := segment.len - n
      xmit
      flags := segment.flags }
  { o with
    slist := insertAfter (updateSegment o.slist segment.addr fun g => { g with len := n })
      segment.addr subseg
    unsentSlist := if subseg.xmit = 0 then insertAfterUnsent o.unsentSlist segment.addr o.nextAddr
      else o.unsentSlist
    nextAddr := o.nextAddr + 1 }

/-- The bookkeeping of `transmit` for a segment of which the first `nTransmit` bytes
are on the wire. -/
def markSent (o : Outgoing) (segment : SSegment) (nTransmit : ℕ) : Except Abort Outgoing :=
  let o := if nTransmit < segment.len then splitSegment o segment nTransmit segment.xmit else o
  let len := min segment.len nTransmit
  let sent (o : Outgoing) : Outgoing :=
    { o with slist := updateSegment o.slist segment.addr fun g => { g with xmit := g.xmit + 1 } }
  if segment.xmit = 0 then
    match o.unsentSlist with
    | a :: unsentSlist =>
        if a = segment.addr then
          let fin := len = 0 ∧ segment.flags.has FLAG_FIN
          .ok (sent { o with
            unsentSlist
            sndNxt := o.sndNxt + UInt32.ofNat len + if fin then 1 else 0 })
        else .error .transmitUnsent
    | [] => .error .transmitUnsent
  else .ok (sent o)

/-- `transmit`, for the segment at an address. -/
def transmit (env : Env) (s : PseudoTcpSocket) (a : ℕ) (now : UInt32) :
    Except Abort (PseudoTcpSocket × Bool) :=
  match s.slist.find? (·.addr = a) with
  | none => .error .badPointer
  | some segment =>
      let nTransmit := min segment.len s.mss.toNat
      if segment.xmit ≥ if s.state = .established then 15 else 30 then .ok (s, false)
      else do
        let (s, written) ← writeSegment env segment.seq segment.flags now PACKET_MAXIMUMS.length s
          nTransmit
        match written with
        | none => return (s, false)
        | some nTransmit =>
            let o ← markSent s.toOutgoing segment nTransmit
            return ({ s with
              toOutgoing := o
              rtoBase := if s.rtoBase = 0 then now else s.rtoBase }, true)

/-- `transmit` for `g_queue_peek_head (&priv->slist)`. -/
def transmitHead (env : Env) (s : PseudoTcpSocket) (now : UInt32) :
    Except Abort (PseudoTcpSocket × Bool) :=
  match s.slist with
  | [] => .error .badPointer
  | segment :: _ => s.transmit env segment.addr now

/-- How many bytes `attempt_send` may send, and the window it finds. -/
def usable (s : PseudoTcpSocket) : ℕ :=
  let cwnd := if s.dupAcks = 1 ∨ s.dupAcks = 2 then s.cwnd + s.dupAcks.toUInt32 * s.mss else s.cwnd
  let nWindow := (min s.sndWnd cwnd).toNat
  let nInFlight := (s.sndNxt - s.sndUna).toNat
  let nUseable := if nInFlight < nWindow then nWindow - nInFlight else 0
  let sndBuffered := s.sbuf.getBuffered
  let nAvailable := if sndBuffered < nInFlight then 0 else min (sndBuffered - nInFlight) s.mss.toNat
  if nAvailable > nUseable then
    if nUseable * 4 % 2 ^ 32 < nWindow then 0 else nUseable
  else nAvailable

/-- The step of `attempt_send` that breaks a segment into two, the first of `nAvailable`
bytes, if it is larger. -/
def cutSegment (s : PseudoTcpSocket) (sseg : SSegment) (nAvailable : ℕ) (flush : Prop)
    [Decidable flush] : PseudoTcpSocket :=
  if sseg.len > nAvailable ∧ ¬ flush then
    { s with toOutgoing := splitSegment s.toOutgoing sseg nAvailable 0 }
  else s

/-- One pass through the loop of `attempt_send`: the socket, and the flags with which
the loop goes on unless the pass returned. -/
def attemptSendPass (env : Env) (s : PseudoTcpSocket) (sflags : SendFlags) (now : UInt32) :
    Except Abort (PseudoTcpSocket × Option SendFlags) :=
  let nAvailable := s.usable
  let flush := sflags = .fin ∨ sflags = .rst
  if nAvailable = 0 ∧ ¬ flush then
    if sflags = .none then .ok (s, none)
    else if sflags = .immediateAck ∨ s.tAck ≠ 0 then do
      let (s, _) ← s.packet env s.sndNxt FLAG_NONE 0 0 now
      return (s, none)
    else .ok ({ s with tAck := now }, none)
  else if s.useNagling ∧ ¬ flush ∧ s.sndNxt > s.sndUna ∧ nAvailable < s.mss.toNat then
    .ok (s, none)
  else
    match s.unsentSlist with
    | [] => .ok (s, none)
    | a :: _ =>
        match s.slist.find? (·.addr = a) with
        | none => .error .badPointer
        | some sseg => do
            match ← (s.cutSegment sseg nAvailable flush).transmit env a now with
            | (s, false) => return (s, none)
            | (s, true) =>
                return (s, some (if sflags = .immediateAck ∨ sflags = .delayedAck then .none
                  else sflags))

/-- The loop of `attempt_send`. -/
def attemptSendLoop (env : Env) (now : UInt32) :
    ℕ → PseudoTcpSocket → SendFlags → Except Abort PseudoTcpSocket
  | 0, _, _ => .error .endless
  | fuel + 1, s, sflags => do
      match ← s.attemptSendPass env sflags now with
      | (s, none) => return s
      | (s, some sflags) => attemptSendLoop env now fuel s sflags

/-- More passes than the loop of `attempt_send` can make: each one sends a byte or a
whole segment, if `mss` is not 0. -/
def attemptSendFuel (s : PseudoTcpSocket) : ℕ :=
  ((s.unsentSlist.filterMap fun a => s.slist.find? (·.addr = a)).map (·.len + 1)).sum + 2

/-- `attempt_send`, where the system clock stands at `reading`. -/
def attemptSend (env : Env) (s : PseudoTcpSocket) (sflags : SendFlags) (reading : UInt32) :
    Except Abort PseudoTcpSocket :=
  let now := s.getCurrentTime reading
  let s := if timeDiff now s.lastsend > s.rxRto.toNat then { s with cwnd := s.mss } else s
  attemptSendLoop env now s.attemptSendFuel s sflags

/-! ### Changes of state -/

/-- The transitions that the assertion of `set_state` lets pass. -/
def validTransition : PseudoTcpState → PseudoTcpState → Bool
  | .closed, .synSent | .synSent, .closed | .closed, .listen | .listen, .closed
  | .listen, .synSent | .listen, .synReceived | .synSent, .synReceived
  | .synReceived, .established | .synSent, .established | .synReceived, .finWait1
  | .established, .finWait1 | .established, .closeWait | .finWait1, .finWait2
  | .finWait1, .closing | .closeWait, .lastAck | .finWait2, .timeWait | .closing, .timeWait
  | .lastAck, .closed | .timeWait, .closed | .synReceived, .listen | .finWait1, .timeWait => true
  | _, _ => false

/-- `set_state`. -/
def setState (s : PseudoTcpSocket) (newState : PseudoTcpState) : Except Abort PseudoTcpSocket :=
  if newState = s.state then .ok s
  else if validTransition s.state newState then .ok { s with state := newState }
  else .error .setState

/-- The loop of `adjustMTU` over the table of MTUs, at a level of it. -/
def mtuLevel (mtuAdvise : ℕ) : List ℕ → ℕ → ℕ
  | maximum :: next :: rest, level =>
      if next = 0 ∨ maximum ≤ mtuAdvise then level
      else mtuLevel mtuAdvise (next :: rest) (level + 1)
  | _, level => level

/-- `adjustMTU`. -/
def adjustMTU (s : PseudoTcpSocket) : PseudoTcpSocket :=
  let mss := s.mtuAdvise - UInt32.ofNat PACKET_OVERHEAD
  { s with
    msslevel := mtuLevel s.mtuAdvise.toNat PACKET_MAXIMUMS 0
    mss
    ssthresh := max s.ssthresh (2 * mss)
    cwnd := max s.cwnd mss }

/-- `set_state_established`. -/
def setStateEstablished (s : PseudoTcpSocket) : Except Abort PseudoTcpSocket := do
  let s ← s.setState .established
  let s := s.adjustMTU
  return { s with called := s.called ++ [.opened] }

/-- `set_state_closed`. -/
def setStateClosed (s : PseudoTcpSocket) (err : Option Errno) : Except Abort PseudoTcpSocket := do
  let s ← s.setState .closed
  match err with
  | some e => return { s with called := s.called ++ [.closed e] }
  | none => return s

/-- The way through the states that `closedown` takes before it closes the socket. -/
def closedownPath : PseudoTcpState → List PseudoTcpState
  | .synReceived | .established => [.finWait1, .finWait2, .timeWait]
  | .finWait1 => [.finWait2, .timeWait]
  | .finWait2 | .closing => [.timeWait]
  | .closeWait => [.lastAck]
  | .listen | .synSent | .lastAck | .timeWait | .closed => []

/-- The part of `closedown` that tells the peer. -/
def closedownSource (env : Env) (s : PseudoTcpSocket) (source : ClosedownSource)
    (reading : UInt32) : Except Abort PseudoTcpSocket :=
  if source = .closedownLocal ∧ s.supportFinAck then do
    let s ← s.queueRstMessage
    s.attemptSend env .rst reading
  else if source = .closedownLocal then .ok { s with shutdown := .forceful }
  else .ok s

/-- `closedown`, where the system clock stands at `reading`. -/
def closedown (env : Env) (s : PseudoTcpSocket) (err : Option Errno) (source : ClosedownSource)
    (reading : UInt32) : Except Abort PseudoTcpSocket := do
  let s ← s.closedownSource env source reading
  let s ← (closedownPath s.state).foldlM setState s
  s.setStateClosed err

end PseudoTcpSocket

end LibNice.PseudoTcp
