import LibNice.Foundation.Memory
import LibNice.Foundation.Ring
import LibNice.Foundation.Sequence

/-!
`agent/pseudotcp.c`: constants, sequence and time arithmetic, and the data types of
a pseudo-TCP socket.

* `larger`, `largerOrEqual`, `smaller`, `smallerOrEqual`, `timeDiff`: the comparisons
  of the source, each with a lemma that reads it off the distance `ahead`.
* `Segment`, `SSegment`, `RSegment`: a packet, an entry of `slist` and an entry of
  `rlist`.
* `PseudoTcpSocket`: the private data of a socket, split into what arrives
  (`Incoming`), what leaves (`Outgoing`) and the rest.
* `Abort`: where a run of the code ends.
-/

namespace LibNice.PseudoTcp

open LibNice.Foundation

/-! ### Constants -/

/-- The standard MTUs; 0 marks the end of the table. -/
def PACKET_MAXIMUMS : List ℕ := [65535, 32000, 17914, 8166, 4352, 2002, 1492, 1006, 508, 296, 0]

/-- The largest packet. -/
def MAX_PACKET : ℕ := 65535

/-- The smallest MTU in use. -/
def MIN_PACKET : ℕ := 296

/-- Size of the header of a packet. -/
def HEADER_SIZE : ℕ := 24

/-- What the headers of UDP, IP and Jingle add to `HEADER_SIZE`. -/
def PACKET_OVERHEAD : ℕ := HEADER_SIZE + 8 + 20 + 64

/-- Lower bound of the retransmission timeout, in milliseconds. -/
def MIN_RTO : UInt32 := 250

/-- Initial retransmission timeout, in milliseconds. -/
def DEF_RTO : UInt32 := 1000

/-- Upper bound of the retransmission timeout, in milliseconds. -/
def MAX_RTO : UInt32 := 60000

/-- Default of the `ack-delay` property, in milliseconds. -/
def DEFAULT_ACK_DELAY : UInt32 := 100

/-- Default of the `rcv-buf` property. -/
def DEFAULT_RCV_BUF_SIZE : UInt32 := 60 * 1024

/-- Default of the `snd-buf` property. -/
def DEFAULT_SND_BUF_SIZE : UInt32 := 90 * 1024

/-- The clock interval of an open socket with nothing pending, in milliseconds. -/
def DEFAULT_TIMEOUT : UInt32 := 4000

/-- The clock interval of a closed socket, in milliseconds. -/
def CLOSED_TIMEOUT : UInt32 := 60000

/-- The clock interval of a socket in TIME-WAIT, in milliseconds. -/
def TIME_WAIT_TIMEOUT : UInt32 := 1

def TCP_OPT_EOL : UInt8 := 0
def TCP_OPT_NOOP : UInt8 := 1
def TCP_OPT_MSS : UInt8 := 2
def TCP_OPT_WND_SCALE : UInt8 := 3
def TCP_OPT_FIN_ACK : UInt8 := 254

/-- The flags of a segment; a packet may carry any byte. -/
abbrev TcpFlags := UInt8

def FLAG_NONE : TcpFlags := 0
def FLAG_FIN : TcpFlags := 1
def FLAG_CTL : TcpFlags := 2
def FLAG_RST : TcpFlags := 4

/-- The control code of a CONNECT segment. -/
def CTL_CONNECT : UInt8 := 0

/-- `flags & flag`. -/
def TcpFlags.has (flags flag : TcpFlags) : Bool := flags &&& flag ≠ 0

/-! ### Sequence numbers and times -/

/-- `LARGER`. -/
def larger (a b : UInt32) : Bool := a - b - 1 < 0x7FFFFFFF

/-- `LARGER_OR_EQUAL`. -/
def largerOrEqual (a b : UInt32) : Bool := a - b < 0x7FFFFFFF

/-- `SMALLER`. -/
def smaller (a b : UInt32) : Bool := larger b a

/-- `SMALLER_OR_EQUAL`. -/
def smallerOrEqual (a b : UInt32) : Bool := largerOrEqual b a

/-- `time_is_between`. -/
def timeIsBetween (later middle earlier : UInt32) : Bool :=
  if earlier ≤ later then earlier ≤ middle && middle ≤ later
  else !(later < middle && middle < earlier)

/-- `time_diff`. -/
def timeDiff (later earlier : UInt32) : ℤ :=
  let LAST : UInt32 := 0xFFFFFFFF
  let HALF : UInt32 := 0x80000000
  if timeIsBetween (earlier + HALF) later earlier then
    if earlier ≤ later then ((later - earlier).toNat : ℤ).bmod (2 ^ 32)
    else ((later + (LAST - earlier) + 1).toNat : ℤ).bmod (2 ^ 32)
  else if later ≤ earlier then (-((earlier - later).toNat : ℤ)).bmod (2 ^ 32)
  else (-((earlier + (LAST - later) + 1).toNat : ℤ)).bmod (2 ^ 32)

/-- `bound`. -/
def bound (lower middle upper : UInt32) : UInt32 := min (max lower middle) upper

lemma larger_iff {a b : UInt32} : larger a b = true ↔ 0 < ahead a b := by
  have ha := a.toNat_lt
  have hb := b.toNat_lt
  simp only [larger, decide_eq_true_eq, UInt32.lt_iff_toNat_lt, ahead, toNat_sub,
    show (1 : UInt32).toNat = 1 from rfl, show (0x7FFFFFFF : UInt32).toNat = 2147483647 from rfl]
  split <;> omega

lemma smaller_iff {a b : UInt32} :
    smaller a b = true ↔ ahead a b < 0 ∧ -2147483648 < ahead a b := by
  have ha := a.toNat_lt
  have hb := b.toNat_lt
  rw [smaller, larger_iff]
  simp only [ahead, toNat_sub]
  split <;> split <;> omega

lemma smallerOrEqual_iff {a b : UInt32} :
    smallerOrEqual a b = true ↔ ahead a b ≤ 0 ∧ -2147483647 < ahead a b := by
  have ha := a.toNat_lt
  have hb := b.toNat_lt
  simp only [smallerOrEqual, largerOrEqual, decide_eq_true_eq, UInt32.lt_iff_toNat_lt, ahead,
    toNat_sub, show (0x7FFFFFFF : UInt32).toNat = 2147483647 from rfl]
  split <;> omega

/-! ### Enumerations -/

/-- `PseudoTcpState`. -/
inductive PseudoTcpState where
  | listen | synSent | synReceived | established | closed | finWait1 | finWait2 | closing
  | timeWait | closeWait | lastAck
deriving DecidableEq, Repr

/-- `state < TCP_ESTABLISHED`. -/
def PseudoTcpState.isConnecting : PseudoTcpState → Bool
  | .listen | .synSent | .synReceived => true
  | _ => false

/-- `pseudo_tcp_state_has_sent_fin`. -/
def PseudoTcpState.hasSentFin : PseudoTcpState → Bool
  | .listen | .synSent | .synReceived | .established | .closeWait => false
  | .closed | .finWait1 | .finWait2 | .closing | .timeWait | .lastAck => true

/-- `pseudo_tcp_state_has_received_fin`. -/
def PseudoTcpState.hasReceivedFin : PseudoTcpState → Bool
  | .listen | .synSent | .synReceived | .established | .finWait1 | .finWait2 => false
  | .closed | .closing | .timeWait | .closeWait | .lastAck => true

/-- `Shutdown`, only used without FIN-ACK support. -/
inductive Shutdown where
  | none | graceful | forceful
deriving DecidableEq, Repr

/-- `PseudoTcpShutdown`: which directions a call of `pseudo_tcp_socket_shutdown` closes. -/
inductive PseudoTcpShutdown where
  | rd | wr | rdwr
deriving DecidableEq, Repr

/-- `SendFlags`. -/
inductive SendFlags where
  | none | delayedAck | immediateAck | fin | rst
deriving DecidableEq, Repr

/-- `ClosedownSource`. -/
inductive ClosedownSource where
  | closedownLocal | closedownRemote
deriving DecidableEq, Repr

/-- `PseudoTcpWriteResult`. -/
inductive PseudoTcpWriteResult where
  | success | tooLarge | fail
deriving DecidableEq, Repr

/-- The values of `errno` that a socket reports. -/
inductive Errno where
  | EINVAL | ENOTCONN | EPIPE | EWOULDBLOCK | ECONNABORTED | ECONNRESET
deriving DecidableEq, Repr

/-- The callbacks that notify the user of a socket. -/
inductive Callback where
  | opened | readable | writable
  | closed (error : Errno)
deriving DecidableEq, Repr

/-- Where a run of the code ends: a failed assertion, an access through a pointer that
is null or whose target was freed, a division by zero, or a loop without end. -/
inductive Abort where
  /-- `pseudo_tcp_fifo_consume_read_data`: `size <= b->data_length`. -/
  | consumeReadData
  /-- `pseudo_tcp_fifo_consume_write_buffer`: `size <= b->buffer_length - b->data_length`. -/
  | consumeWriteBuffer
  /-- `queue_fin_message`: `support_fin_ack`. -/
  | queueFinMessage
  /-- `queue_rst_message`: `support_fin_ack`. -/
  | queueRstMessage
  /-- `queue`: `flags == FLAG_NONE`. -/
  | queue
  /-- `packet`: `HEADER_SIZE + len <= MAX_PACKET`. -/
  | packetLength
  /-- `packet`: `bytes_read == len`. -/
  | packetRead
  /-- `process`: `g_queue_get_length (&priv->slist) != 0`. -/
  | processSlist
  /-- `process`: `res == seg->len`. -/
  | processWrite
  /-- `transmit`: `segment->seq - priv->snd_una <= 1024 * 1024 * 64`. -/
  | transmitAcked
  /-- `transmit`: `g_queue_peek_head (&priv->unsent_slist) == segment`. -/
  | transmitUnsent
  /-- `resize_receive_buffer`: `result`. -/
  | resizeReceiveBuffer
  /-- `set_state`: the transition is valid. -/
  | setState
  /-- `pseudo_tcp_socket_notify_clock`: `g_assert_not_reached`. -/
  | notifyClock
  | badPointer
  | divisionByZero
  | endless
deriving DecidableEq, Repr

/-! ### Segments -/

/-- `Segment`: a packet, taken apart. -/
structure Segment where
  conv : UInt32
  seq : UInt32
  ack : UInt32
  flags : TcpFlags
  wnd : UInt16
  data : Bytes
  tsval : UInt32
  tsecr : UInt32
deriving DecidableEq, Repr

/-- `SSegment`: a segment to send.  The two queues share the nodes, so a segment has an
address. -/
structure SSegment where
  addr : ℕ
  seq : UInt32
  len : ℕ
  xmit : ℕ
  flags : TcpFlags
deriving DecidableEq, Repr

/-- `RSegment`: a segment received out of order. -/
structure RSegment where
  seq : UInt32
  len : ℕ
deriving DecidableEq, Repr

end LibNice.PseudoTcp
