import LibNice.PseudoTcp.Output

/-!
`agent/pseudotcp.c`: the functions that take a packet in.

* `PseudoTcpSocket.parseOptions`, `resizeReceiveBuffer`: the options of a CONNECT
  segment and what they change.
* `PseudoTcpSocket.process`: a segment goes through the parts `receiveControl`,
  `receiveAck`, `receiveFin` and `receiveData`; a part answers `none` where the source
  returns `FALSE`.
* `Incoming.receive`: the receive queue, trimming and recovery of segments that
  arrived out of order included.
* `parse`: the header of a packet.
-/

namespace LibNice.PseudoTcp

open LibNice.Foundation

namespace PseudoTcpSocket

/-! ### Options -/

/-- The loop of `resize_receive_buffer` that finds the window scale, over the number of
bits of the size. -/
def scaleFactor : ℕ → UInt32 → UInt8 × UInt32
  | 0, newSize => (0, newSize)
  | bits + 1, newSize =>
      if newSize > 0xFFFF then
        let (scale, size) := scaleFactor bits (newSize >>> 1)
        (scale + 1, size)
      else (0, newSize)

/-- `resize_receive_buffer`. -/
def resizeReceiveBuffer (env : Env) (s : PseudoTcpSocket) (newSize : UInt32) :
    Except Abort PseudoTcpSocket :=
  if s.rbufLen = newSize then .ok s
  else
    let (scale, size) := scaleFactor 32 newSize
    let newSize := size <<< scale.toUInt32
    match s.rbuf.setCapacity env.memory newSize.toNat with
    | (_, false) => .error .resizeReceiveBuffer
    | (rbuf, true) =>
        .ok { s with
          rbuf
          rbufLen := newSize
          rwndScale := scale
          ssthresh := newSize
          rcvWnd := UInt32.ofNat rbuf.getWriteRemaining }

/-- `apply_option`, with the data of the option. -/
def applyOption (s : PseudoTcpSocket) (kind : UInt8) (data : Bytes) : PseudoTcpSocket :=
  if kind = TCP_OPT_WND_SCALE then
    match data with
    | [scaleFactor] => { s with swndScale := scaleFactor }
    | _ => s
  else if kind = TCP_OPT_FIN_ACK then { s with supportFinAck := true }
  else s

/-- What the loop of `parse_options` has found, and whether it came to the end of the
list; otherwise the source returns from within. -/
structure Options where
  hasWindowScalingOption : Bool := false
  hasFinAckOption : Bool := false
  complete : Bool := true
deriving DecidableEq, Repr

/-- The loop of `parse_options`; every pass takes a byte off the data. -/
def optionsLoop : ℕ → Bytes → PseudoTcpSocket → Options → PseudoTcpSocket × Options
  | 0, _, s, o => (s, o)
  | _ + 1, [], s, o => (s, o)
  | fuel + 1, kind :: data, s, o =>
      if kind = TCP_OPT_EOL then (s, o)
      else if kind = TCP_OPT_NOOP then optionsLoop fuel data s o
      else
        match data with
        | [] => (s, { o with complete := false })
        | optLen :: data =>
            if data.length < optLen.toNat then (s, { o with complete := false })
            else
              let s := s.applyOption kind (data.take optLen.toNat)
              let o := { o with
                hasWindowScalingOption := o.hasWindowScalingOption || kind = TCP_OPT_WND_SCALE
                hasFinAckOption := o.hasFinAckOption || kind = TCP_OPT_FIN_ACK }
              optionsLoop fuel (data.drop optLen.toNat) s o

/-- The part of `parse_options` for a peer without window scaling. -/
def withoutWindowScaling (env : Env) (s : PseudoTcpSocket) (o : Options) :
    Except Abort PseudoTcpSocket :=
  if !o.hasWindowScalingOption && s.rwndScale > 0 then do
    let s ← s.resizeReceiveBuffer env DEFAULT_RCV_BUF_SIZE
    return { s with swndScale := 0 }
  else .ok s

/-- The last part of `parse_options`. -/
def applyMissingOptions (env : Env) (s : PseudoTcpSocket) (o : Options) :
    Except Abort PseudoTcpSocket := do
  let s ← s.withoutWindowScaling env o
  return if o.hasFinAckOption then s else { s with supportFinAck := false }

/-- `parse_options`. -/
def parseOptions (env : Env) (s : PseudoTcpSocket) (data : Bytes) :
    Except Abort PseudoTcpSocket :=
  let (s, o) := optionsLoop data.length data s {}
  if o.complete then s.applyMissingOptions env o else .ok s

/-! ### Control data and timestamps -/

/-- The part of `process` that answers a CONNECT. -/
def answerConnect (s : PseudoTcpSocket) : Except Abort PseudoTcpSocket :=
  match s.state with
  | .listen => do
      let s ← s.setState .synReceived
      s.queueConnectMessage
  | .synSent => s.setStateEstablished
  | _ => .ok s

/-- The part of `process` for control data: whether the segment is a CONNECT. -/
def receiveControl (env : Env) (s : PseudoTcpSocket) (seg : Segment) :
    Except Abort (PseudoTcpSocket × Option Bool) :=
  if seg.flags.has FLAG_CTL then
    match seg.data with
    | [] => .ok (s, none)
    | code :: options =>
        if code ≠ CTL_CONNECT then .ok (s, none)
        else do
          let s ← s.parseOptions env options
          let s ← s.answerConnect
          return (s, some true)
  else .ok (s, some false)

/-- The part of `process` that updates the timestamp. -/
def updateTimestamp (s : PseudoTcpSocket) (seg : Segment) : PseudoTcpSocket :=
  if smallerOrEqual seg.seq s.tsLastack &&
      smaller s.tsLastack (seg.seq + UInt32.ofNat seg.data.length) then
    { s with tsRecent := seg.tsval }
  else s

/-! ### Acknowledgements -/

/-- The round-trip time, with a `long` of 64 bits and an `int` of 32; `none` for an
invalid one. -/
def updateRtt (s : PseudoTcpSocket) (seg : Segment) (now : UInt32) : Option PseudoTcpSocket :=
  if seg.tsecr = 0 then some s
  else
    let rtt := timeDiff now seg.tsecr
    if rtt ≥ 0 then
      let s :=
        if s.rxSrtt = 0 then
          { s with rxSrtt := UInt32.ofInt rtt, rxRttvar := UInt32.ofInt (rtt / 2) }
        else
          let delta := ((rtt - s.rxSrtt.toNat).bmod (2 ^ 32)).natAbs
          { s with
            rxRttvar := (3 * s.rxRttvar + UInt32.ofNat delta) / 4
            rxSrtt := UInt32.ofInt (((7 * s.rxSrtt).toNat + rtt) / 8) }
      let rto := bound MIN_RTO (s.rxSrtt + max 1 (4 * s.rxRttvar)) MAX_RTO
      some { s with rxRto := rto }
    else none

/-- The loop of `process` that frees acknowledged segments: what is left of `slist`, and
the largest segment so far. -/
def freeAcked : ℕ → List SSegment → ℕ → Except Abort (List SSegment × ℕ)
  | 0, slist, largest => .ok (slist, largest)
  | _ + 1, [], _ => .error .processSlist
  | nFree + 1, data :: slist, largest =>
      if nFree + 1 < data.len then
        .ok ({ data with
          len := data.len - (nFree + 1)
          seq := data.seq + UInt32.ofNat (nFree + 1) } :: slist, largest)
      else freeAcked (nFree + 1 - data.len) slist (max largest data.len)

/-- Congestion control after an acknowledgement of `nAcked` bytes: `false` where the
source closes the socket. -/
def congestionAcked (env : Env) (s : PseudoTcpSocket) (nAcked : ℕ) (now : UInt32) :
    Except Abort (PseudoTcpSocket × Bool) :=
  if s.dupAcks ≥ 3 then
    if largerOrEqual s.sndUna s.recover then
      let nInFlight := s.sndNxt - s.sndUna
      .ok ({ s with cwnd := min s.ssthresh (nInFlight + s.mss), dupAcks := 0 }, true)
    else do
      match ← s.transmitHead env now with
      | (s, false) => return (s, false)
      | (s, true) => return ({ s with
          cwnd := s.cwnd + (s.mss - min (UInt32.ofNat nAcked) s.cwnd) }, true)
  else
    let s := { s with dupAcks := 0 }
    if s.cwnd < s.ssthresh then .ok ({ s with cwnd := s.cwnd + s.mss }, true)
    else if s.cwnd = 0 then .error .divisionByZero
    else .ok ({ s with cwnd := s.cwnd + max 1 (s.mss * s.mss / s.cwnd) }, true)

/-- The part of `process` for a valuable acknowledgement: whether it acknowledges the FIN,
and `false` after it where the source closes the socket. -/
def valuableAck (env : Env) (s : PseudoTcpSocket) (seg : Segment) (now : UInt32) :
    Except Abort (PseudoTcpSocket × Bool × Bool) := do
  let nAcked := (seg.ack - s.sndUna).toNat
  let isFinAck := nAcked = s.sbuf.dataLength + 1 ∧ s.state.hasSentFin
  let nAcked := if isFinAck then nAcked - 1 else nAcked
  let s := { s with
    sndWnd := seg.wnd.toUInt32 <<< s.swndScale.toUInt32
    sndUna := seg.ack
    rtoBase := if seg.ack = s.sndNxt then 0 else now }
  let sbuf ← s.sbuf.consumeReadData nAcked
  let (slist, largest) ← freeAcked nAcked s.slist s.largest
  let s := { s with sbuf, slist, largest }
  let (s, b) ← s.congestionAcked env nAcked now
  return (s, isFinAck, b)

/-- The part of `process` for a duplicate acknowledgement: `false` where the source closes
the socket. -/
def duplicateAck (env : Env) (s : PseudoTcpSocket) (seg : Segment) (now : UInt32) :
    Except Abort (PseudoTcpSocket × Bool) :=
  let s := { s with sndWnd := seg.wnd.toUInt32 <<< s.swndScale.toUInt32 }
  if seg.data.length > 0 then .ok (s, true)
  else if s.sndUna ≠ s.sndNxt then
    let s := { s with dupAcks := s.dupAcks + 1 }
    if s.dupAcks = 3 then do
      match ← s.transmitHead env now with
      | (s, false) => return (s, false)
      | (s, true) =>
          let nInFlight := s.sndNxt - s.sndUna
          let ssthresh := max (nInFlight / 2) (2 * s.mss)
          return ({ s with
            recover := s.sndNxt
            ssthresh
            cwnd := ssthresh + 3 * s.mss }, true)
    else if s.dupAcks > 3 then .ok ({ s with cwnd := s.cwnd + s.mss }, true)
    else .ok (s, true)
  else .ok ({ s with dupAcks := 0 }, true)

/-- The part of `process` for acknowledgements: whether the FIN was acknowledged. -/
def receiveAck (env : Env) (s : PseudoTcpSocket) (seg : Segment) (now : UInt32) :
    Except Abort (PseudoTcpSocket × Option Bool) :=
  let isValuableAck := larger seg.ack s.sndUna && smallerOrEqual seg.ack s.sndNxt
  let isDuplicateAck := seg.ack = s.sndUna
  let aborted (s : PseudoTcpSocket) : Except Abort (PseudoTcpSocket × Option Bool) := do
    let s ← s.closedown env (some .ECONNABORTED) .closedownLocal (env.clock 1)
    return (s, none)
  if isValuableAck then
    match s.updateRtt seg now with
    | none => .ok (s, none)
    | some s => do
        match ← s.valuableAck env seg now with
        | (s, _, false) => aborted s
        | (s, isFinAck, true) => return (s, some isFinAck)
  else if isDuplicateAck then do
    match ← s.duplicateAck env seg now with
    | (s, false) => aborted s
    | (s, true) => return (s, some false)
  else .ok (s, some false)

/-! ### Connection closure -/

/-- The transitions on the receipt of a FIN or of the acknowledgement of one; `none`
where there is none. -/
def finTransition (state : PseudoTcpState) (fin isFinAck : Bool) : Option PseudoTcpState :=
  match state with
  | .established => if fin then some .closeWait else none
  | .closing => if isFinAck then some .timeWait else none
  | .lastAck => if isFinAck then some .closed else none
  | .finWait1 =>
      if isFinAck && fin then some .timeWait
      else if isFinAck then some .finWait2
      else if fin then some .closing
      else none
  | .finWait2 => if fin then some .timeWait else none
  | .listen | .synSent | .synReceived | .timeWait | .closed | .closeWait => none

/-- The part of `process` that opens the connection on the first segment after the
CONNECT. -/
def openOnSegment (s : PseudoTcpSocket) (bConnect : Bool) : Except Abort PseudoTcpSocket :=
  if s.state = .synReceived ∧ !bConnect then s.setStateEstablished else .ok s

/-- The part of `process` that handles the closure of the connection: `false` where the
source returns. -/
def receiveFin (s : PseudoTcpSocket) (seg : Segment) (isFinAck : Bool) :
    Except Abort (PseudoTcpSocket × Bool) :=
  if s.supportFinAck then
    if seg.flags.has FLAG_FIN && seg.data.length ≠ 0 then .ok (s, false)
    else
      match finTransition s.state (seg.flags.has FLAG_FIN) isFinAck with
      | none => .ok (s, true)
      | some .closed => do
          let s ← s.setStateClosed none
          return (s, true)
      | some state => do
          let s ← s.setState state
          return (s, true)
  else .ok (s, true)

/-- The part of `process` that tells the user that there is room in the send queue. -/
def notifyWritable (s : PseudoTcpSocket) : PseudoTcpSocket :=
  let kIdealRefillSize := (s.sbufLen + s.rbufLen) / 2
  if s.bWriteEnable && s.sbuf.getBuffered < kIdealRefillSize.toNat then
    { s with bWriteEnable := false, called := s.called ++ [.writable] }
  else s

end PseudoTcpSocket

/-! ### The receive queue -/

namespace Incoming

/-- The bytes of a segment that are not too old, with their sequence number. -/
def trimOld (rcvNxt seq : UInt32) (data : Bytes) : UInt32 × Bytes :=
  if smaller seq rcvNxt then
    let nAdjust := (rcvNxt - seq).toNat
    if nAdjust < data.length then (seq + UInt32.ofNat nAdjust, data.drop nAdjust) else (seq, [])
  else (seq, data)

/-- The bytes of a segment that fit into the receive buffer. -/
def trimNew (rcvNxt seq : UInt32) (data : Bytes) (availableSpace : ℕ) : Bytes :=
  let last := (seq + UInt32.ofNat data.length - rcvNxt).toNat
  if last > availableSpace then
    let nAdjust := last - availableSpace
    if nAdjust < data.length then data.take (data.length - nAdjust) else []
  else data

/-- The segment list with a new segment in its place. -/
def insertSegment (rseg : RSegment) : List RSegment → List RSegment
  | [] => [rseg]
  | e :: rlist =>
      if smaller e.seq rseg.seq then e :: insertSegment rseg rlist else rseg :: e :: rlist

/-- The loop of `process` that takes over segments received out of order, along the
segment list. -/
def recoverLoop (r : Incoming) (sflags : SendFlags) :
    List RSegment → Except Abort (Incoming × SendFlags)
  | [] => .ok ({ r with rlist := [] }, sflags)
  | data :: rlist =>
      if smallerOrEqual data.seq r.rcvNxt then
        if larger (data.seq + UInt32.ofNat data.len) r.rcvNxt then do
          let nAdjust := data.seq + UInt32.ofNat data.len - r.rcvNxt
          let rbuf ← r.rbuf.consumeWriteBuffer nAdjust.toNat
          recoverLoop { r with
            rbuf
            rcvNxt := r.rcvNxt + nAdjust
            rcvWnd := r.rcvWnd - nAdjust } .immediateAck rlist
        else recoverLoop r sflags rlist
      else .ok ({ r with rlist := data :: rlist }, sflags)

/-- The data of a segment, after trimming: the receive queue, the flags with which to
send, and whether there is new data to read. -/
def receiveData (r : Incoming) (seq : UInt32) (data : Bytes) (sflags : SendFlags) :
    Except Abort (Incoming × SendFlags × Bool) :=
  let nOffset := (seq - r.rcvNxt).toNat
  let (rbuf, res) := r.rbuf.writeOffset data nOffset
  if res ≠ data.length then .error .processWrite
  else if seq = r.rcvNxt then do
    let rbuf ← rbuf.consumeWriteBuffer data.length
    let len := UInt32.ofNat data.length
    let (r, sflags) ← recoverLoop { r with
      rbuf
      rcvNxt := r.rcvNxt + len
      rcvWnd := r.rcvWnd - len } sflags r.rlist
    return (r, sflags, true)
  else
    .ok ({ r with rbuf, rlist := insertSegment { seq, len := data.length } r.rlist }, sflags, false)

/-- The flags with which to answer a segment, and `rcv_nxt` behind a FIN in order. -/
def ackFlags (r : Incoming) (ackDelay : UInt32) (seg : Segment) : Incoming × SendFlags :=
  if seg.seq ≠ r.rcvNxt then (r, .immediateAck)
  else if seg.data.length ≠ 0 then
    if ackDelay = 0 then (r, .immediateAck) else (r, .delayedAck)
  else if seg.flags.has FLAG_FIN then ({ r with rcvNxt := r.rcvNxt + 1 }, .immediateAck)
  else (r, .none)

/-- The part of `process` for the receive queue; `ignoreData` says that the bytes of the
segment count but are not kept. -/
def receive (r : Incoming) (ackDelay : UInt32) (ignoreData : Bool) (seg : Segment) :
    Except Abort (Incoming × SendFlags × Bool) :=
  let (r, sflags) := r.ackFlags ackDelay seg
  let (seq, data) := trimOld r.rcvNxt seg.seq seg.data
  let data := trimNew r.rcvNxt seq data r.rbuf.getWriteRemaining
  if seg.flags.has FLAG_FIN then
    if seq = r.rcvNxt then .ok ({ r with rcvNxt := r.rcvNxt + 1 }, sflags, false)
    else .ok (r, sflags, false)
  else if data.length > 0 then
    if ignoreData then
      if seq = r.rcvNxt then
        .ok ({ r with rcvNxt := r.rcvNxt + UInt32.ofNat data.length }, sflags, false)
      else .ok (r, sflags, false)
    else r.receiveData seq data sflags
  else .ok (r, sflags, false)

end Incoming

namespace PseudoTcpSocket

/-- Whether the bytes of a segment are not kept. -/
def ignoresData (s : PseudoTcpSocket) (seg : Segment) : Bool :=
  seg.flags.has FLAG_CTL || (!s.supportFinAck && s.shutdown ≠ .none)

/-- The last part of `process`: the receive queue, an answer, and the user. -/
def receiveData (env : Env) (s : PseudoTcpSocket) (seg : Segment) :
    Except Abort PseudoTcpSocket := do
  let (r, sflags, bNewData) ← s.toIncoming.receive s.ackDelay (s.ignoresData seg) seg
  let s ← attemptSend env { s with toIncoming := r } sflags (env.clock 1)
  return if bNewData && s.bReadEnable then { s with called := s.called ++ [.readable] } else s

/-! ### `process` -/

/-- The parts of `process` for a segment that is neither refused nor a reset. -/
def processSegment (env : Env) (s : PseudoTcpSocket) (seg : Segment) (now : UInt32) :
    Except Abort (PseudoTcpSocket × Bool) := do
  match ← s.receiveControl env seg with
  | (s, none) => return (s, false)
  | (s, some bConnect) =>
      let s := s.updateTimestamp seg
      match ← s.receiveAck env seg now with
      | (s, none) => return (s, false)
      | (s, some isFinAck) =>
          let s ← s.openOnSegment bConnect
          match ← s.receiveFin seg isFinAck with
          | (s, false) => return (s, false)
          | (s, true) => do
              let s ← s.notifyWritable.receiveData env seg
              return (s, true)

/-- The socket with the time of an arrival. -/
def noteArrival (s : PseudoTcpSocket) (now : UInt32) : PseudoTcpSocket :=
  { s with lastTraffic := now, lastrecv := now, bOutgoing := false }

/-- `process`. -/
def process (env : Env) (s : PseudoTcpSocket) (seg : Segment) :
    Except Abort (PseudoTcpSocket × Bool) :=
  if seg.conv ≠ s.conv then .ok (s, false)
  else
    let now := s.getCurrentTime (env.clock 0)
    let s := s.noteArrival now
    if s.state = .closed ∨ s.state.hasSentFin ∧ seg.data.length > 0 then
      if seg.flags.has FLAG_RST then .ok (s, false)
      else do
        let s ← s.closedown env none .closedownLocal (env.clock 1)
        return (s, false)
    else if seg.flags.has FLAG_RST then do
      let s ← s.closedown env (some .ECONNRESET) .closedownRemote (env.clock 1)
      return (s, false)
    else s.processSegment env seg now

end PseudoTcpSocket

/-! ### Packets -/

/-- `parse`, up to the call of `process`: the segment in a packet that has a header. -/
def parse (packet : Bytes) : Option Segment :=
  match packet with
  | c0 :: c1 :: c2 :: c3 :: s0 :: s1 :: s2 :: s3 :: a0 :: a1 :: a2 :: a3 :: _ :: flags ::
      w0 :: w1 :: v0 :: v1 :: v2 :: v3 :: e0 :: e1 :: e2 :: e3 :: data =>
      some {
        conv := word32 c0 c1 c2 c3
        seq := word32 s0 s1 s2 s3
        ack := word32 a0 a1 a2 a3
        flags
        wnd := word16 w0 w1
        data
        tsval := word32 v0 v1 v2 v3
        tsecr := word32 e0 e1 e2 e3 }
  | _ => none

end LibNice.PseudoTcp
