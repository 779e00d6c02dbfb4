import LibNice.Foundation.Run
import LibNice.Socket.ByteStream
import LibNice.Socket.TcpRecv

/-!
`socket/udp-turn-over-tcp.c`: TURN messages in a TCP stream.

* `sendVectors`, `socketSendMessage`: how a message is written, for each compatibility.
* `recvHeader`, `recvBody`, `turnRecvMessage`, `turnRecvMessages`: how a message is read back
  from whatever has arrived.
* `Valid`, `wire`, `received`: the messages, their bytes in the stream, and what is delivered.
* `Holding`: the receiver has read some of the next message and nothing else;
  `turnRecvMessage_holding` says what one read does to it.
* `FramingState`, `FramingStep`: a stream that is written, arrives in chunks and is read.
* `framing_round_trip`: in every run in which no message without a body is read while more has
  arrived behind it, the messages are delivered in order, once each, and no read fails.
-/

namespace LibNice.Socket

open LibNice.Foundation

/-! ### Sending -/

/-- `NiceTurnSocketCompatibility`. -/
inductive TurnCompatibility where
  | draft9
  | google
  | msn
  | oc2007
  | rfc5766
deriving DecidableEq, Repr

/-- `TURN_MAGIC_COOKIE`. -/
def TURN_MAGIC_COOKIE : UInt32 := 0x72c64bc6

/-- `MAGIC_COOKIE_OFFSET`. -/
def MAGIC_COOKIE_OFFSET : ℕ := 26

/-- The loop that copies the cookie, when it is not split, from buffers `bufOffset` bytes
behind the start of the message. -/
def cookieLoop : List Bytes → ℕ → UInt32
  | [], _ => 0
  | buffer :: buffers, bufOffset =>
      if buffer.length > MAGIC_COOKIE_OFFSET - bufOffset then
        if buffer.length > 4 + MAGIC_COOKIE_OFFSET - bufOffset then
          match buffer.drop (MAGIC_COOKIE_OFFSET - bufOffset) with
          | a :: b :: c :: d :: _ => word32 a b c d
          | _ => 0
        else 0
      else cookieLoop buffers (bufOffset + buffer.length)

/-- The payload type of an OC2007 message: `MS_TURN_CONTROL_MESSAGE` or
`MS_TURN_END_TO_END_DATA`. -/
def payloadType (message : NiceOutputMessage) : UInt8 :=
  if outputMessageGetSize message % 65536 > 4 + MAGIC_COOKIE_OFFSET ∧
      cookieLoop message.visited 0 = TURN_MAGIC_COOKIE then 2 else 3

/-- The bytes up to a multiple of four. -/
def padLen (n : ℕ) : ℕ := if n % 4 = 0 then 0 else 4 - n % 4

/-- The vectors `local_bufs` of a message. -/
def sendVectors (compatibility : TurnCompatibility) (message : NiceOutputMessage) : List Bytes :=
  match compatibility with
  | .google => be16 (outputMessageGetSize message) :: message.visited
  | .draft9 | .rfc5766 =>
      message.visited ++ [List.replicate (padLen (outputMessageGetSize message)) 0]
  | .oc2007 => [payloadType message, 0] :: message.visited
  | .msn => message.visited

/-- `socket_send_message`, where the base socket answers `ret`: the return value, and the
bytes that the base socket has taken. -/
def turnSendMessage (compatibility : TurnCompatibility) (message : NiceOutputMessage) (ret : ℤ) :
    ℤ × Bytes :=
  let localBufs := sendVectors compatibility message
  if ret = 1 then (localBufs.flatten.length, localBufs.flatten) else (ret, [])

/-! ### Receiving -/

/-- The state of a receiver: `recvBuf` is the part of `recv_buf` that is filled. -/
structure TurnTcpPriv where
  compatibility : TurnCompatibility
  recvBuf : Bytes
  expectingLen : ℕ
deriving DecidableEq, Repr

/-- `nice_udp_turn_over_tcp_socket_new`. -/
def TurnTcpPriv.new (compatibility : TurnCompatibility) : TurnTcpPriv :=
  { compatibility, recvBuf := [], expectingLen := 0 }

/-- A read of `n` bytes from the base socket to the end of what is filled of `recv_buf`, which
has 65536 bytes. -/
def readBase (priv : TurnTcpPriv) (conn : TcpConn) (n : ℕ) :
    Except Fault (ℤ × TurnTcpPriv × TcpConn) :=
  if priv.recvBuf.length + n > 65536 then .error .outOfBounds
  else
    match socketRecvMessage conn { buffers := [List.replicate n 0], length := 0 } with
    | (ret, conn, message) =>
        .ok (ret, { priv with recvBuf := priv.recvBuf ++ message.data }, conn)

/-- The length of the header, if there is one. -/
def headerLen : TurnCompatibility → Option ℕ
  | .draft9 | .rfc5766 | .oc2007 => some 4
  | .google => some 2
  | .msn => none

/-- What the header says: `none` is an error in the stream. -/
def parseHeader (priv : TurnTcpPriv) : Option TurnTcpPriv :=
  match priv.compatibility, priv.recvBuf with
  | .draft9, a :: b :: c :: d :: _ | .rfc5766, a :: b :: c :: d :: _ =>
      let magic := word16 a b
      let packetlen := word16 c d
      some { priv with
        expectingLen := if magic < 0x4000 then 20 + packetlen.toNat else 4 + packetlen.toNat }
  | .google, a :: b :: _ => some { priv with expectingLen := (word16 a b).toNat, recvBuf := [] }
  | .oc2007, pt :: _ :: c :: d :: _ =>
      if pt ≠ 2 ∧ pt ≠ 3 then none
      else
        -- the RFC 4571 length is kept
        some { priv with expectingLen := (word16 c d).toNat + 2, recvBuf := [c, d] }
  | _, _ => some priv

/-- The part of `socket_recv_message` that reads the header: `some ret` when the function
returns there. -/
def recvHeader (priv : TurnTcpPriv) (conn : TcpConn) :
    Except Fault (Option ℤ × TurnTcpPriv × TcpConn) :=
  if priv.expectingLen = 0 then
    match headerLen priv.compatibility with
    | none => .ok (some (-1), priv, conn)
    | some headerlen => do
        let (ret, priv, conn) ← readBase priv conn (headerlen - priv.recvBuf.length)
        if ret < 0 then .ok (some ret, priv, conn)
        else if priv.recvBuf.length < headerlen then .ok (some 0, priv, conn)
        else
          match parseHeader priv with
          | none => .ok (some (-1), priv, conn)
          | some priv => .ok (none, priv, conn)
  else .ok (none, priv, conn)

/-- The padding behind a message of `expectingLen` bytes. -/
def padlen (compatibility : TurnCompatibility) (expectingLen : ℕ) : ℕ :=
  match compatibility with
  | .draft9 | .rfc5766 => padLen expectingLen
  | _ => 0

/-- `memcpy_buffer_to_input_message`: the buffers, and the number of bytes that fit. -/
def memcpyBufferToInputMessage : List Bytes → Bytes → List Bytes × ℕ
  | [], _ => ([], 0)
  | buffer :: buffers, bytes =>
      let len := min buffer.length bytes.length
      let (buffers, n) := memcpyBufferToInputMessage buffers (bytes.drop len)
      ((bytes.take len ++ buffer.drop len) :: buffers, len + n)

/-- The part of `socket_recv_message` that reads the message itself. -/
def recvBody (priv : TurnTcpPriv) (conn : TcpConn) (message : NiceInputMessage) :
    Except Fault (ℤ × TurnTcpPriv × TcpConn × NiceInputMessage) := do
  let padlen := padlen priv.compatibility priv.expectingLen
  let (ret, priv, conn) ← readBase priv conn (priv.expectingLen + padlen - priv.recvBuf.length)
  if ret < 0 then .ok (ret, priv, conn, message)
  else if priv.recvBuf.length = priv.expectingLen + padlen then
    let (buffers, length) := memcpyBufferToInputMessage message.buffers priv.recvBuf
    .ok (length, { priv with expectingLen := 0, recvBuf := [] }, conn, { buffers, length })
  else .ok (0, priv, conn, message)

/-- `socket_recv_message`. -/
def turnRecvMessage (priv : TurnTcpPriv) (conn : TcpConn) (message : NiceInputMessage) :
    Except Fault (ℤ × TurnTcpPriv × TcpConn × NiceInputMessage) := do
  let (ret, priv, conn) ← recvHeader priv conn
  match ret with
  | some ret => .ok (ret, priv, conn, message)
  | none => recvBody priv conn message

/-- The loop of `socket_recv_messages`, which has received `received`: the return value, and
the messages that are valid. -/
def turnRecvMessagesLoop (priv : TurnTcpPriv) (conn : TcpConn)
    (received : List NiceInputMessage) :
    List NiceInputMessage → Except Fault (ℤ × TurnTcpPriv × TcpConn × List NiceInputMessage)
  | [] => .ok (received.length, priv, conn, received)
  | message :: messages => do
      let (len, priv, conn, message) ← turnRecvMessage priv conn message
      if len < 0 then
        .ok (if received = [] then -1 else received.length, priv, conn, received)
      else if len = 0 then .ok (received.length, priv, conn, received)
      else
        turnRecvMessagesLoop priv conn (received ++ [{ message with length := len.toNat }]) messages

/-- `socket_recv_messages`. -/
def turnRecvMessages (priv : TurnTcpPriv) (conn : TcpConn) (messages : List NiceInputMessage) :
    Except Fault (ℤ × TurnTcpPriv × TcpConn × List NiceInputMessage) :=
  turnRecvMessagesLoop priv conn [] messages

/-! ### Messages and their bytes in the stream -/

/-- The messages that are sent: of at most 65535 bytes, and for all but Google with their own
length, which is that of a STUN message or of the data of a channel, or the RFC 4571 length. -/
def Valid (compatibility : TurnCompatibility) (message : Bytes) : Prop :=
  message.length ≤ 65535 ∧
    match compatibility with
    | .draft9 | .rfc5766 => ∃ a b c d rest, message = a :: b :: c :: d :: rest ∧
        if word16 a b < 0x4000 then 16 ≤ rest.length ∧ (word16 c d).toNat = rest.length - 16
        else (word16 c d).toNat = rest.length
    | .google => True
    | .oc2007 => ∃ c d rest, message = c :: d :: rest ∧ (word16 c d).toNat = rest.length
    | .msn => False

/-- The bytes of a message in the stream. -/
def Wire (compatibility : TurnCompatibility) (message wire : Bytes) : Prop :=
  match compatibility with
  | .draft9 | .rfc5766 => wire = message ++ List.replicate (padLen message.length) 0
  | .google => wire = be16 message.length ++ message
  | .oc2007 => ∃ pt, (pt = 2 ∨ pt = 3) ∧ wire = pt :: 0 :: message
  | .msn => wire = message

/-- A message as it is delivered, which may be padded. -/
def received (compatibility : TurnCompatibility) (message : Bytes) : Bytes :=
  match compatibility with
  | .draft9 | .rfc5766 => message ++ List.replicate (padLen message.length) 0
  | _ => message

/-- The length of the header that is read first. -/
def hdr : TurnCompatibility → ℕ
  | .google => 2
  | _ => 4

/-- How much of the header is not part of the message. -/
def stripLen : TurnCompatibility → ℕ
  | .google | .oc2007 => 2
  | _ => 0

/-- What a message is written as. -/
lemma turnSendMessage_wire (compatibility : TurnCompatibility) (message : NiceOutputMessage) :
    Wire compatibility message.data (turnSendMessage compatibility message 1).2 := by
  have hsize := outputMessageGetSize_eq message
  cases compatibility <;>
    simp [Wire, turnSendMessage, sendVectors, NiceOutputMessage.data, hsize, payloadType]
  tauto

/-- What the receiver relies on: the header of `wire` says how much follows. -/
structure Framed (compatibility : TurnCompatibility) (message wire : Bytes) : Prop where
  headerLen : headerLen compatibility = some (hdr compatibility)
  hdr_le : hdr compatibility ≤ wire.length
  drop : wire.drop (stripLen compatibility) = received compatibility message
  length_le : wire.length - stripLen compatibility ≤ 65536
  parse : ∃ e, parseHeader ⟨compatibility, wire.take (hdr compatibility), 0⟩ =
      some ⟨compatibility, (wire.take (hdr compatibility)).drop (stripLen compatibility), e⟩ ∧
    e + padlen compatibility e = wire.length - stripLen compatibility ∧
    (hdr compatibility < wire.length → e ≠ 0)

lemma stripLen_le_hdr (compatibility : TurnCompatibility) :
    stripLen compatibility ≤ hdr compatibility := by
  cases compatibility <;> decide

lemma padLen_mod (n : ℕ) : n + padLen n ≤ 65536 ∨ 65536 < n := by
  rw [padLen]
  split <;> omega

/-- A STUN message, or the data of a channel, is framed with its padding. -/
lemma framed_padded {compatibility : TurnCompatibility}
    (hcompat : compatibility = .draft9 ∨ compatibility = .rfc5766) {message : Bytes}
    (hvalid : Valid compatibility message) :
    Framed compatibility message (message ++ List.replicate (padLen message.length) 0) := by
  have hpad := padLen_mod message.length
  obtain ⟨hlen, a, b, c, d, rest, rfl, hword⟩ : message.length ≤ 65535 ∧
      ∃ a b c d rest, message = a :: b :: c :: d :: rest ∧
        if word16 a b < 0x4000 then 16 ≤ rest.length ∧ (word16 c d).toNat = rest.length - 16
        else (word16 c d).toNat = rest.length := by
    rcases hcompat with rfl | rfl <;> exact hvalid
  have hexpect : (if word16 a b < 0x4000 then 20 + (word16 c d).toNat
      else 4 + (word16 c d).toNat) = (a :: b :: c :: d :: rest).length := by
    simp only [List.length_cons]
    split at hword <;> rename_i hstun <;> simp only [hstun, if_true, if_false] <;> omega
  have hhdr : hdr compatibility = 4 := by rcases hcompat with rfl | rfl <;> rfl
  have hstrip : stripLen compatibility = 0 := by rcases hcompat with rfl | rfl <;> rfl
  refine ⟨?_, ?_, ?_, ?_, (a :: b :: c :: d :: rest).length, ?_, ?_, ?_⟩
  · rcases hcompat with rfl | rfl <;> rfl
  · rw [hhdr]
    simp
  · rcases hcompat with rfl | rfl <;> rfl
  · rw [hstrip, List.length_append, List.length_replicate]
    omega
  · rw [hhdr, hstrip, ← hexpect]
    rcases hcompat with rfl | rfl <;> rfl
  · rw [hstrip, List.length_append, List.length_replicate]
    rcases hcompat with rfl | rfl <;> rfl
  · intro _
    simp

/-- **A valid message is framed.** -/
theorem framed_of_valid {compatibility : TurnCompatibility} {message wire : Bytes}
    (hvalid : Valid compatibility message) (hwire : Wire compatibility message wire) :
    Framed compatibility message wire := by
  have hlen := hvalid.1
  cases compatibility with
  | msn => exact hvalid.2.elim
  | google =>
      rw [Wire] at hwire
      subst hwire
      have hword : (word16 (UInt8.ofNat (message.length / 256))
          (UInt8.ofNat message.length)).toNat = message.length := by
        rw [word16_be16, UInt16.toNat_ofNat', Nat.mod_eq_of_lt (by omega)]
      refine ⟨rfl, by simp [hdr], rfl, ?_, message.length, ?_, ?_, ?_⟩
      · simp [stripLen]
        omega
      · simp [parseHeader, be16, hdr, stripLen, hword]
      · simp [padlen, stripLen]
      · simp [hdr]
        rintro h rfl
        simp at h
  | oc2007 =>
      obtain ⟨c, d, rest, rfl, hword⟩ := hvalid.2
      obtain ⟨pt, hpt, rfl⟩ := hwire
      refine ⟨rfl, by simp [hdr], rfl, ?_, rest.length + 2, ?_, ?_, ?_⟩
      · simp [stripLen] at hlen ⊢
        omega
      · rcases hpt with rfl | rfl <;> simp [parseHeader, hdr, stripLen, hword]
      · simp [padlen, stripLen]
      · simp
  | draft9 =>
      rw [Wire] at hwire
      subst hwire
      exact framed_padded (.inl rfl) hvalid
  | rfc5766 =>
      rw [Wire] at hwire
      subst hwire
      exact framed_padded (.inr rfl) hvalid

/-! ### One read -/

/-- A read from the base socket gets what is there, up to `n` bytes.  Where something is there
and `n` is 0, it would be taken for the end of the stream. -/
lemma readBase_eq (priv : TurnTcpPriv) {conn : TcpConn} (n : ℕ) (herror : conn.error = false)
    (heof : conn.eof = false) (hroom : priv.recvBuf.length + n ≤ 65536)
    (hn : 0 < n ∨ conn.queue = []) :
    ∃ ret ≥ 0, readBase priv conn n =
      .ok (ret, { priv with recvBuf := priv.recvBuf ++ conn.queue.take n },
        { conn with queue := conn.queue.drop n }) := by
  rw [readBase, if_neg (by omega)]
  by_cases hqueue : conn.queue = []
  · refine ⟨0, le_rfl, ?_⟩
    have hconn : { conn with queue := conn.queue.drop n } = conn := by
      rw [hqueue, List.drop_nil, ← hqueue]
    rw [hconn, hqueue]
    simp [socketRecvMessage, socketRecvMessages, recvMessagesLoop, gSocketReceiveMessage, herror,
      hqueue, heof, NiceInputMessage.data]
  · have hpos : 0 < n := hn.resolve_right hqueue
    refine ⟨1, by decide, ?_⟩
    have hsize : NiceInputMessage.size { buffers := [List.replicate n 0], length := 0 } = n := by
      simp [NiceInputMessage.size]
    rw [socketRecvMessage_received _ herror hqueue (by rw [hsize]; exact hpos), hsize]
    have hdata := scatter_take [List.replicate n 0] (conn.queue.take n)
      (by simp)
    rw [List.length_take] at hdata
    simp only [NiceInputMessage.data, hdata]

lemma memcpyBufferToInputMessage_eq {buffers : List Bytes} {bytes : Bytes}
    (h : bytes.length ≤ buffers.flatten.length) :
    memcpyBufferToInputMessage buffers bytes = (scatter buffers bytes, bytes.length) := by
  induction buffers generalizing bytes with
  | nil =>
      rw [List.flatten_nil, List.length_nil, Nat.le_zero, List.length_eq_zero_iff] at h
      subst h
      rfl
  | cons buffer buffers ih =>
      rw [List.flatten_cons, List.length_append] at h
      rcases Nat.le_total bytes.length buffer.length with hle | hle
      · have hdrop : bytes.drop buffer.length = [] := List.drop_eq_nil_of_le hle
        rw [memcpyBufferToInputMessage, scatter, Nat.min_eq_right hle, List.drop_length,
          ih (Nat.zero_le _), List.take_length, List.take_of_length_le hle, hdrop]
        rfl
      · have hdrop : (bytes.drop buffer.length).length = bytes.length - buffer.length :=
          List.length_drop
        rw [memcpyBufferToInputMessage, scatter, Nat.min_eq_left hle, ih (by omega),
          List.drop_length, List.drop_eq_nil_of_le hle, hdrop]
        simp only [Nat.add_sub_cancel' hle]

section read

variable {compatibility : TurnCompatibility} {conn : TcpConn} {message wire : Bytes}
  {consumed : Bytes} {e : ℕ}

/-- Less than a header has arrived. -/
lemma recvHeader_short (hheader : headerLen compatibility = some (hdr compatibility))
    (herror : conn.error = false) (heof : conn.eof = false)
    (hshort : (consumed ++ conn.queue).length < hdr compatibility) :
    recvHeader ⟨compatibility, consumed, 0⟩ conn =
      .ok (some 0, ⟨compatibility, consumed ++ conn.queue, 0⟩, { conn with queue := [] }) := by
  rw [List.length_append] at hshort
  have hle : hdr compatibility ≤ 4 := by cases compatibility <;> decide
  obtain ⟨ret, hret, hread⟩ := readBase_eq ⟨compatibility, consumed, 0⟩
    (hdr compatibility - consumed.length) herror heof (by dsimp only; omega) (.inl (by omega))
  rw [List.take_of_length_le (by omega), List.drop_eq_nil_of_le (by omega)] at hread
  simp only [recvHeader, hheader, if_true, hread, bind, Except.bind]
  rw [if_neg (by omega), if_pos (by rw [List.length_append]; exact hshort)]

/-- A header that has arrived is read. -/
lemma recvHeader_whole (hframed : Framed compatibility message wire)
    (herror : conn.error = false) (heof : conn.eof = false)
    (hconsumed : consumed.length < hdr compatibility)
    (harrived : hdr compatibility ≤ (consumed ++ conn.queue).length) (rest : Bytes)
    (hwire : ∃ future, consumed ++ (conn.queue ++ future) = wire ++ rest) :
    ∃ e, recvHeader ⟨compatibility, consumed, 0⟩ conn =
        .ok (none, ⟨compatibility,
          (wire.take (hdr compatibility)).drop (stripLen compatibility), e⟩,
          { conn with queue := conn.queue.drop (hdr compatibility - consumed.length) }) ∧
      consumed ++ conn.queue.take (hdr compatibility - consumed.length) =
        wire.take (hdr compatibility) ∧
      e + padlen compatibility e = wire.length - stripLen compatibility ∧
      (hdr compatibility < wire.length → e ≠ 0) := by
  obtain ⟨e, hparse, he, hpos⟩ := hframed.parse
  rw [List.length_append] at harrived
  have hle : hdr compatibility ≤ 4 := by cases compatibility <;> decide
  have htake : consumed ++ conn.queue.take (hdr compatibility - consumed.length) =
      wire.take (hdr compatibility) := by
    obtain ⟨future, hwire⟩ := hwire
    have := congrArg (List.take (hdr compatibility)) hwire
    rw [List.take_append_of_le_length hframed.hdr_le, List.take_append,
      List.take_of_length_le (by omega), List.take_append_of_le_length (by omega)] at this
    exact this
  obtain ⟨ret, hret, hread⟩ := readBase_eq ⟨compatibility, consumed, 0⟩
    (hdr compatibility - consumed.length) herror heof (by dsimp only; omega) (.inl (by omega))
  rw [htake] at hread
  refine ⟨e, ?_, htake, he, hpos⟩
  have hlen : (wire.take (hdr compatibility)).length = hdr compatibility := by
    rw [List.length_take, Nat.min_eq_left hframed.hdr_le]
  simp only [recvHeader, hframed.headerLen, if_true, hread, bind, Except.bind]
  rw [if_neg (by omega), if_neg (by rw [hlen]; omega), hparse]

/-- The rest of a message: it is delivered when it has arrived. -/
lemma recvBody_eq (hframed : Framed compatibility message wire) (herror : conn.error = false)
    (heof : conn.eof = false) (hhdr : hdr compatibility ≤ consumed.length)
    (hconsumed : consumed = wire.take consumed.length)
    (he : e + padlen compatibility e = wire.length - stripLen compatibility)
    (hempty : consumed.length = wire.length → conn.queue = [])
    (room : NiceInputMessage) (hroom : 65536 ≤ room.size) :
    (consumed.length + conn.queue.length < wire.length ∧
      recvBody ⟨compatibility, consumed.drop (stripLen compatibility), e⟩ conn room =
        .ok (0, ⟨compatibility, (consumed ++ conn.queue).drop (stripLen compatibility), e⟩,
          { conn with queue := [] }, room)) ∨
      (wire.length ≤ consumed.length + conn.queue.length ∧
        (consumed ++ conn.queue.take (wire.length - consumed.length) = wire →
          ∃ room', recvBody ⟨compatibility, consumed.drop (stripLen compatibility), e⟩ conn room =
              .ok ((received compatibility message).length, .new compatibility,
                { conn with queue := conn.queue.drop (wire.length - consumed.length) }, room') ∧
            room'.data = received compatibility message ∧
            room'.length = (received compatibility message).length)) := by
  have hstrip := stripLen_le_hdr compatibility
  have hle : consumed.length ≤ wire.length := by
    rw [hconsumed, List.length_take]
    omega
  have hlength := hframed.length_le
  have hbuf : (consumed.drop (stripLen compatibility)).length =
      consumed.length - stripLen compatibility := List.length_drop
  have hn : wire.length - stripLen compatibility -
      (consumed.drop (stripLen compatibility)).length = wire.length - consumed.length := by omega
  obtain ⟨ret, hret, hread⟩ := readBase_eq
    ⟨compatibility, consumed.drop (stripLen compatibility), e⟩ (wire.length - consumed.length)
    herror heof (by dsimp only; omega) (by
      by_cases h : consumed.length = wire.length
      · exact .inr (hempty h)
      · exact .inl (by omega))
  have hnneg : ¬ret < 0 := by omega
  have happend : consumed.drop (stripLen compatibility) ++
      conn.queue.take (wire.length - consumed.length) =
        (consumed ++ conn.queue.take (wire.length - consumed.length)).drop
          (stripLen compatibility) := by
    rw [List.drop_append_of_le_length (by omega)]
  rw [happend] at hread
  by_cases hshort : consumed.length + conn.queue.length < wire.length
  · refine .inl ⟨hshort, ?_⟩
    have htake : conn.queue.take (wire.length - consumed.length) = conn.queue :=
      List.take_of_length_le (by omega)
    have hdrop : conn.queue.drop (wire.length - consumed.length) = [] :=
      List.drop_eq_nil_of_le (by omega)
    rw [htake, hdrop] at hread
    have hpart : ((consumed ++ conn.queue).drop (stripLen compatibility)).length ≠
        wire.length - stripLen compatibility := by
      rw [List.length_drop, List.length_append]
      omega
    simp only [recvBody, he, hn, hread, bind, Except.bind, hnneg, if_false, hpart]
  · refine .inr ⟨by omega, fun hwhole => ?_⟩
    rw [hwhole, hframed.drop] at hread
    have hreceived : (received compatibility message).length =
        wire.length - stripLen compatibility := by
      rw [← hframed.drop, List.length_drop]
    have hfits : (received compatibility message).length ≤ room.buffers.flatten.length := by
      rw [NiceInputMessage.size] at hroom
      omega
    refine ⟨{ buffers := scatter room.buffers (received compatibility message)
              length := (received compatibility message).length }, ?_, ?_, rfl⟩
    · simp only [recvBody, he, hn, hread, bind, Except.bind, hnneg, if_false, hreceived, if_true,
        memcpyBufferToInputMessage_eq hfits]
      rfl
    · exact scatter_take _ _ hfits

end read

/-! ### A receiver between two reads -/

/-- Messages with their bytes in the stream. -/
abbrev Items := List (Bytes × Bytes)

/-- The bytes of the messages in the stream. -/
def wires (items : Items) : Bytes := items.flatMap Prod.snd

/-- The receiver has read `consumed` of the stream of the messages `items`: some of a header,
or the header and not all of what follows it. -/
inductive Holding (compatibility : TurnCompatibility) (consumed : Bytes) :
    TurnTcpPriv → Items → Prop
  | header {items : Items} : consumed.length < hdr compatibility →
      Holding compatibility consumed ⟨compatibility, consumed, 0⟩ items
  | body {message wire : Bytes} {items : Items} {e : ℕ} :
      hdr compatibility ≤ consumed.length → consumed.length < wire.length →
      consumed = wire.take consumed.length → e ≠ 0 →
      e + padlen compatibility e = wire.length - stripLen compatibility →
      Holding compatibility consumed
        ⟨compatibility, consumed.drop (stripLen compatibility), e⟩ ((message, wire) :: items)

/-- Some of the first message has not arrived, when `arrived` has. -/
def Incomplete (arrived : Bytes) : Items → Prop
  | [] => True
  | (_, wire) :: _ => arrived.length < wire.length

/-- The first message is not one without a body behind which more has arrived; and if it has no
bytes at all, it has not arrived. -/
def BodyFirst (compatibility : TurnCompatibility) (arrived : Bytes) : Items → Prop
  | [] => True
  | (message, wire) :: _ => wire.length = hdr compatibility →
      arrived.length ≤ wire.length ∧
        (received compatibility message = [] → arrived.length < wire.length)

/-- The message that is delivered next. -/
inductive Delivers (compatibility : TurnCompatibility) (conn : TcpConn) (arrived : Bytes)
    (room : NiceInputMessage) :
    Items → ℤ × TurnTcpPriv × TcpConn × NiceInputMessage → Prop
  | intro {message wire queue : Bytes} {items : Items} {room' : NiceInputMessage} :
      arrived = wire ++ queue → received compatibility message ≠ [] →
      room'.data = received compatibility message →
      room'.length = (received compatibility message).length →
      Delivers compatibility conn arrived room ((message, wire) :: items)
        ((received compatibility message).length, .new compatibility,
          { conn with queue := queue }, room')

/-- The same, behind the header. -/
lemma recvBody_holding {compatibility : TurnCompatibility} {conn : TcpConn}
    {message wire consumed future : Bytes} {items : Items} {e : ℕ}
    (hframed : Framed compatibility message wire)
    (hstream : consumed ++ (conn.queue ++ future) = wire ++ wires items)
    (herror : conn.error = false) (heof : conn.eof = false)
    (hhdr : hdr compatibility ≤ consumed.length)
    (hpart : consumed.length < wire.length ∨
      consumed.length = wire.length ∧ wire.length = hdr compatibility)
    (he : e + padlen compatibility e = wire.length - stripLen compatibility)
    (hpos : hdr compatibility < wire.length → e ≠ 0)
    (hbody : BodyFirst compatibility (consumed ++ conn.queue) ((message, wire) :: items))
    (room : NiceInputMessage) (hroom : 65536 ≤ room.size) :
    (Incomplete (consumed ++ conn.queue) ((message, wire) :: items) ∧ ∃ priv',
        recvBody ⟨compatibility, consumed.drop (stripLen compatibility), e⟩ conn room =
          .ok (0, priv', { conn with queue := [] }, room) ∧
        Holding compatibility (consumed ++ conn.queue) priv' ((message, wire) :: items)) ∨
      ∃ result, recvBody ⟨compatibility, consumed.drop (stripLen compatibility), e⟩ conn room =
          .ok result ∧
        Delivers compatibility conn (consumed ++ conn.queue) room ((message, wire) :: items)
          result := by
  have hle : consumed.length ≤ wire.length := by omega
  have hconsumed : consumed = wire.take consumed.length := by
    have := congrArg (List.take consumed.length) hstream
    rwa [List.take_left, List.take_append_of_le_length hle] at this
  have hempty : consumed.length = wire.length → conn.queue = [] := by
    intro hlen
    have := (hbody (by omega)).1
    rw [List.length_append] at this
    exact List.length_eq_zero_iff.mp (by omega)
  rcases recvBody_eq hframed herror heof hhdr hconsumed he hempty room hroom with
    ⟨hshort, hread⟩ | ⟨hlong, hread⟩
  · rw [← List.length_append] at hshort
    refine .inl ⟨hshort, _, hread, .body ?_ hshort ?_ (hpos ?_) he⟩
    · rw [List.length_append]
      omega
    · have := congrArg (List.take (consumed ++ conn.queue).length) hstream
      rw [← List.append_assoc, List.take_left,
        List.take_append_of_le_length (Nat.le_of_lt hshort)] at this
      exact this
    · rw [List.length_append] at hshort
      omega
  · have hwhole : consumed ++ conn.queue.take (wire.length - consumed.length) = wire := by
      have := congrArg (List.take wire.length) hstream
      rw [List.take_append, List.take_of_length_le hle, List.take_append_of_le_length (by omega),
        List.take_left] at this
      exact this
    obtain ⟨room', hread, hdata, hlength⟩ := hread hwhole
    have hsplit : consumed ++ conn.queue =
        wire ++ conn.queue.drop (wire.length - consumed.length) := by
      conv_lhs => rw [← List.take_append_drop (wire.length - consumed.length) conn.queue,
        ← List.append_assoc, hwhole]
    refine .inr ⟨_, hread, .intro hsplit (fun hnil => ?_) hdata hlength⟩
    -- a message without bytes would have arrived
    have hstrip := stripLen_le_hdr compatibility
    have hdrop := congrArg List.length hframed.drop
    rw [hnil, List.length_drop, List.length_nil] at hdrop
    have hhdrle := hframed.hdr_le
    have := (hbody (by omega)).2 hnil
    rw [List.length_append] at this
    omega

/-- **One read** delivers the next message, or takes all that has arrived of it. -/
theorem turnRecvMessage_holding {compatibility : TurnCompatibility} {priv : TurnTcpPriv}
    {conn : TcpConn} {consumed future : Bytes} {items : Items}
    (hheader : headerLen compatibility = some (hdr compatibility))
    (hitems : ∀ item ∈ items, Framed compatibility item.1 item.2)
    (hstream : consumed ++ (conn.queue ++ future) = wires items)
    (hholding : Holding compatibility consumed priv items) (herror : conn.error = false)
    (heof : conn.eof = false) (hbody : BodyFirst compatibility (consumed ++ conn.queue) items)
    (room : NiceInputMessage) (hroom : 65536 ≤ room.size) :
    (Incomplete (consumed ++ conn.queue) items ∧ ∃ priv',
        turnRecvMessage priv conn room = .ok (0, priv', { conn with queue := [] }, room) ∧
        Holding compatibility (consumed ++ conn.queue) priv' items) ∨
      ∃ result, turnRecvMessage priv conn room = .ok result ∧
        Delivers compatibility conn (consumed ++ conn.queue) room items result := by
  cases hholding with
  | header hconsumed =>
      by_cases hshort : (consumed ++ conn.queue).length < hdr compatibility
      · refine .inl ⟨?_, ⟨compatibility, consumed ++ conn.queue, 0⟩, ?_, .header hshort⟩
        · cases items with
          | nil => trivial
          | cons item items =>
              exact Nat.lt_of_lt_of_le hshort (hitems item List.mem_cons_self).hdr_le
        · rw [turnRecvMessage, recvHeader_short hheader herror heof hshort]
          rfl
      · cases items with
        | nil =>
            have hlen := congrArg List.length hstream
            rw [← List.append_assoc, List.length_append] at hlen
            simp only [wires, List.flatMap_nil, List.length_nil] at hlen
            have hpos : 0 < hdr compatibility := by cases compatibility <;> decide
            omega
        | cons item items =>
            obtain ⟨message, wire⟩ := item
            have hframed := hitems _ List.mem_cons_self
            have hrest : consumed ++ (conn.queue ++ future) = wire ++ wires items := hstream
            obtain ⟨e, hread, htake, he, hpos⟩ := recvHeader_whole hframed herror heof hconsumed
              (Nat.le_of_not_lt hshort) (wires items) ⟨future, hrest⟩
            have hlen : (wire.take (hdr compatibility)).length = hdr compatibility := by
              rw [List.length_take, Nat.min_eq_left hframed.hdr_le]
            have hsplit : wire.take (hdr compatibility) ++
                conn.queue.drop (hdr compatibility - consumed.length) = consumed ++ conn.queue := by
              rw [← htake, List.append_assoc, List.take_append_drop]
            have hpart : (wire.take (hdr compatibility)).length < wire.length ∨
                (wire.take (hdr compatibility)).length = wire.length ∧
                  wire.length = hdr compatibility := by
              have hle : hdr compatibility ≤ wire.length := hframed.hdr_le
              rw [hlen]
              omega
            have hnext := @recvBody_holding _
              { conn with queue := conn.queue.drop (hdr compatibility - consumed.length) }
              _ _ _ future items e hframed
              (by rw [← List.append_assoc, hsplit, List.append_assoc]; exact hrest)
              herror heof (Nat.le_of_eq hlen.symm) hpart he hpos (by rw [hsplit]; exact hbody)
              room hroom
            rw [hsplit] at hnext
            rw [turnRecvMessage, hread]
            rcases hnext with hnext | ⟨result, hresult, hdelivers⟩
            · exact .inl hnext
            · refine .inr ⟨result, hresult, ?_⟩
              cases hdelivers with
              | intro h₁ h₂ h₃ h₄ => exact .intro h₁ h₂ h₃ h₄
  | @body message wire items e hhdr hlt _ hne he =>
      have hread : recvHeader ⟨compatibility, consumed.drop (stripLen compatibility), e⟩ conn =
          .ok (none, ⟨compatibility, consumed.drop (stripLen compatibility), e⟩, conn) := by
        rw [recvHeader, if_neg hne]
      rw [turnRecvMessage, hread]
      exact recvBody_holding (hitems _ List.mem_cons_self) hstream herror heof hhdr (.inl hlt) he
        (fun _ => hne) hbody room hroom

/-! ### A call -/

/-- No read of a call for `n` messages finds a message without a body behind which more has
arrived, or one without bytes. -/
def BodiesFirst (compatibility : TurnCompatibility) (n : ℕ) (arrived : Bytes) (items : Items) :
    Prop :=
  ∀ j < n, ∀ message wire, items[j]? = some (message, wire) → wire.length = hdr compatibility →
    arrived.length ≤ (wires (items.take (j + 1))).length ∧
      (received compatibility message = [] →
        arrived.length < (wires (items.take (j + 1))).length)

lemma wires_cons (item : Bytes × Bytes) (items : Items) :
    wires (item :: items) = item.2 ++ wires items := rfl

lemma BodiesFirst.first {compatibility : TurnCompatibility} {n : ℕ} {arrived : Bytes}
    {items : Items} (h : BodiesFirst compatibility (n + 1) arrived items) :
    BodyFirst compatibility arrived items := by
  cases items with
  | nil => trivial
  | cons item items =>
      intro hlen
      have := h 0 (Nat.succ_pos n) item.1 item.2 rfl hlen
      simpa [wires] using this

lemma BodiesFirst.rest {compatibility : TurnCompatibility} {n : ℕ} {queue : Bytes}
    {item : Bytes × Bytes} {items : Items}
    (h : BodiesFirst compatibility (n + 1) (item.2 ++ queue) (item :: items)) :
    BodiesFirst compatibility n queue items := by
  intro j hj message wire hitem hlen
  obtain ⟨hle, hlt⟩ := h (j + 1) (by omega) message wire hitem hlen
  rw [List.take_succ_cons, wires_cons, List.length_append, List.length_append] at hle hlt
  refine ⟨by omega, fun hnil => ?_⟩
  have := hlt hnil
  omega

/-- What a call leaves: the messages that it reports, and a receiver that holds the rest. -/
structure CallLeaves (compatibility : TurnCompatibility) (n : ℕ) (future : Bytes) (items : Items)
    (news : List NiceInputMessage) (priv : TurnTcpPriv) (conn : TcpConn) (consumed : Bytes) :
    Prop where
  data : news.map NiceInputMessage.data =
    (items.take news.length).map fun item => received compatibility item.1
  error : conn.error = false
  eof : conn.eof = false
  stream : consumed ++ (conn.queue ++ future) = wires (items.drop news.length)
  holding : Holding compatibility consumed priv (items.drop news.length)
  drained : news.length < n → conn.queue = [] ∧ Incomplete consumed (items.drop news.length)

/-- **One call** reports messages from the first on, until one has not arrived whole.  The
induction is on the messages that are asked for. -/
theorem turnRecvMessagesLoop_holding {compatibility : TurnCompatibility} {priv : TurnTcpPriv}
    {conn : TcpConn} {consumed future : Bytes} {items : Items}
    (hheader : headerLen compatibility = some (hdr compatibility))
    (hitems : ∀ item ∈ items, Framed compatibility item.1 item.2)
    (hstream : consumed ++ (conn.queue ++ future) = wires items)
    (hholding : Holding compatibility consumed priv items) (herror : conn.error = false)
    (heof : conn.eof = false) (rooms : List NiceInputMessage)
    (hbodies : BodiesFirst compatibility rooms.length (consumed ++ conn.queue) items)
    (hrooms : ∀ room ∈ rooms, 65536 ≤ room.size) (done : List NiceInputMessage) :
    ∃ news priv' conn' consumed',
      turnRecvMessagesLoop priv conn done rooms =
        .ok ((done ++ news).length, priv', conn', done ++ news) ∧
      CallLeaves compatibility rooms.length future items news priv' conn' consumed' := by
  induction rooms generalizing priv conn consumed items done with
  | nil =>
      refine ⟨[], priv, conn, consumed, by simp [turnRecvMessagesLoop], ?_⟩
      exact ⟨rfl, herror, heof, hstream, hholding, fun h => absurd h (Nat.lt_irrefl 0)⟩
  | cons room rooms ih =>
      have hroom := hrooms room List.mem_cons_self
      have hrooms' : ∀ r ∈ rooms, 65536 ≤ r.size := fun r hr =>
        hrooms r (List.mem_cons_of_mem _ hr)
      rcases turnRecvMessage_holding hheader hitems hstream hholding herror heof hbodies.first room
        hroom with ⟨hincomplete, priv', hread, hholding'⟩ | ⟨result, hread, hdelivers⟩
      · refine ⟨[], priv', { conn with queue := [] }, consumed ++ conn.queue, ?_, ?_⟩
        · rw [turnRecvMessagesLoop, hread]
          simp [bind, Except.bind]
        · refine ⟨rfl, herror, heof, ?_, hholding', fun _ => ⟨rfl, hincomplete⟩⟩
          rw [List.append_assoc]
          exact hstream
      · cases hdelivers with
        | @intro message wire queue items room' hsplit hne hdata hlength =>
            have hrest : [] ++ (queue ++ future) = wires items := by
              rw [← List.append_assoc, hsplit, List.append_assoc, wires_cons] at hstream
              exact List.append_cancel_left hstream
            have hpos : 0 < (received compatibility message).length := List.length_pos_iff.mpr hne
            have hhdr : 0 < hdr compatibility := by cases compatibility <;> decide
            rw [hsplit] at hbodies
            obtain ⟨news, priv', conn', consumed', hcall, hleaves⟩ :=
              @ih (.new compatibility) { conn with queue } [] items
                (fun item hitem => hitems item (List.mem_cons_of_mem _ hitem)) hrest
                (.header hhdr) herror heof hbodies.rest hrooms' (done ++ [room'])
            refine ⟨room' :: news, priv', conn', consumed', ?_, ?_⟩
            · have hroom' : { room' with
                  length := ((received compatibility message).length : ℤ).toNat } = room' := by
                rw [Int.toNat_natCast, ← hlength]
              rw [turnRecvMessagesLoop, hread]
              simp only [bind, Except.bind]
              rw [if_neg (by omega), if_neg (by omega), hroom', hcall]
              simp
            · obtain ⟨hnews, herror', heof', hstream', hholding', hdrained⟩ := hleaves
              refine ⟨?_, herror', heof', hstream', hholding', fun hlt => hdrained ?_⟩
              · simp [hdata, hnews]
              · simpa using hlt

/-! ### Every run -/

/-- A stream between two sockets: the messages that were sent, with their bytes, the bytes
that are under way, the receiver, the messages it has delivered, and whether a read has
reported an error or the end of the stream. -/
structure FramingState where
  sent : Items
  flight : Bytes
  priv : TurnTcpPriv
  conn : TcpConn
  delivered : List Bytes
  failed : Bool

/-- Nothing is sent yet. -/
def FramingState.new (compatibility : TurnCompatibility) : FramingState :=
  { sent := [], flight := [], priv := .new compatibility, conn := .new, delivered := [],
    failed := false }

/-- The events: a message is sent, where the base socket takes it or not; `n` bytes arrive in a
chunk; the receiver is called. -/
inductive FramingEvent where
  | send (message : NiceOutputMessage) (ret : ℤ)
  | arrive (n : ℕ)
  | recv (rooms : List NiceInputMessage) (ret : ℤ)

/-- A call of `socket_recv_messages`. -/
def FramingState.recv (st : FramingState) (rooms : List NiceInputMessage) : ℤ × FramingState :=
  match turnRecvMessages st.priv st.conn rooms with
  | .error _ => (-1, { st with failed := true })
  | .ok (ret, priv, conn, messages) =>
      (ret, { st with priv, conn
                      delivered := st.delivered ++ messages.map NiceInputMessage.data
                      failed := st.failed || ret < 0 })

/-- One step.  The messages that are sent are valid, and the buffers that are received into are
large enough. -/
inductive FramingStep (compatibility : TurnCompatibility) :
    FramingState → FramingEvent → FramingState → Prop
  | send {st : FramingState} {message : NiceOutputMessage} :
      Valid compatibility message.data →
      FramingStep compatibility st (.send message 1)
        { st with
          sent := st.sent ++ [(message.data, (turnSendMessage compatibility message 1).2)]
          flight := st.flight ++ (turnSendMessage compatibility message 1).2 }
  | notSent {st : FramingState} {message : NiceOutputMessage} {ret : ℤ} : ret ≠ 1 →
      FramingStep compatibility st (.send message ret)
        { st with flight := st.flight ++ (turnSendMessage compatibility message ret).2 }
  | arrive {st : FramingState} {n : ℕ} :
      FramingStep compatibility st (.arrive n)
        { st with conn := st.conn.arrive (st.flight.take n), flight := st.flight.drop n }
  | recv {st st' : FramingState} {rooms : List NiceInputMessage} {ret : ℤ} :
      (∀ room ∈ rooms, 65536 ≤ room.size) → st.recv rooms = (ret, st') →
      FramingStep compatibility st (.recv rooms ret) st'

/-- The messages that were sent and are not delivered. -/
def FramingState.waiting (st : FramingState) : Items := st.sent.drop st.delivered.length

/-- No call reads a message without a body while something behind it has arrived, or a Google
message without bytes: what follows it is still under way. -/
def ReadsBodies (compatibility : TurnCompatibility) (st : FramingState) : FramingEvent → Prop
  | .recv rooms _ => ∀ j < rooms.length, ∀ message wire,
      st.waiting[j]? = some (message, wire) → wire.length = hdr compatibility →
        (wires (st.waiting.drop (j + 1))).length ≤ st.flight.length ∧
          (received compatibility message = [] →
            (wires (st.waiting.drop (j + 1))).length < st.flight.length)
  | _ => True

/-- The messages are delivered in order and no read has failed. -/
def FramingState.InOrder (compatibility : TurnCompatibility) (st : FramingState) : Prop :=
  st.delivered <+: (st.sent.map fun item => received compatibility item.1) ∧ st.failed = false

/-- Some of the next message that was not delivered is still under way. -/
def FramingState.Drained (st : FramingState) : Prop :=
  ∀ item rest, st.waiting = item :: rest → (wires rest).length < st.flight.length

/-- What is known between two steps. -/
structure Reassembling (compatibility : TurnCompatibility) (st : FramingState) : Prop where
  framed : ∀ item ∈ st.sent, Framed compatibility item.1 item.2
  failed : st.failed = false
  error : st.conn.error = false
  eof : st.conn.eof = false
  count : st.delivered.length ≤ st.sent.length
  delivered : st.delivered =
    (st.sent.take st.delivered.length).map fun item => received compatibility item.1
  stream : ∃ consumed, consumed ++ (st.conn.queue ++ st.flight) = wires st.waiting ∧
    Holding compatibility consumed st.priv st.waiting

lemma wires_append (xs ys : Items) : wires (xs ++ ys) = wires xs ++ wires ys :=
  List.flatMap_append

lemma Reassembling.new (compatibility : TurnCompatibility) :
    Reassembling compatibility (.new compatibility) := by
  refine ⟨by simp [FramingState.new], rfl, rfl, rfl, le_rfl, rfl, [], rfl, .header ?_⟩
  cases compatibility <;> decide

lemma Holding.append {compatibility : TurnCompatibility} {consumed : Bytes} {priv : TurnTcpPriv}
    {items : Items} (h : Holding compatibility consumed priv items) (more : Items) :
    Holding compatibility consumed priv (items ++ more) := by
  cases h with
  | header hlt => exact .header hlt
  | body hhdr hlt htake hne he => exact .body hhdr hlt htake hne he

lemma headerLen_of_ne {compatibility : TurnCompatibility} (h : compatibility ≠ .msn) :
    headerLen compatibility = some (hdr compatibility) := by
  cases compatibility <;> first | rfl | exact absurd rfl h

/-- What the condition says of the bytes that have arrived. -/
lemma ReadsBodies.bodiesFirst {compatibility : TurnCompatibility} {st : FramingState}
    {rooms : List NiceInputMessage} {ret : ℤ} {arrived : Bytes}
    (hreads : ReadsBodies compatibility st (.recv rooms ret))
    (hstream : arrived ++ st.flight = wires st.waiting) :
    BodiesFirst compatibility rooms.length arrived st.waiting := by
  intro j hj message wire hitem hlen
  obtain ⟨hle, hlt⟩ := hreads j hj message wire hitem hlen
  have hsplit := congrArg List.length hstream
  rw [← List.take_append_drop (j + 1) st.waiting, wires_append, List.length_append,
    List.length_append] at hsplit
  refine ⟨by omega, fun hnil => ?_⟩
  have := hlt hnil
  omega

/-- What a call does to a stream between two calls. -/
lemma Reassembling.recv {compatibility : TurnCompatibility} (hcompat : compatibility ≠ .msn)
    {st st' : FramingState} (hst : Reassembling compatibility st) {rooms : List NiceInputMessage}
    {ret : ℤ} (hreads : ReadsBodies compatibility st (.recv rooms ret))
    (hrooms : ∀ room ∈ rooms, 65536 ≤ room.size) (h : st.recv rooms = (ret, st')) :
    Reassembling compatibility st' ∧ (ret < rooms.length → st'.Drained) := by
  obtain ⟨consumed, hstream, hholding⟩ := hst.stream
  have harrived : (consumed ++ st.conn.queue) ++ st.flight = wires st.waiting := by
    rw [List.append_assoc]
    exact hstream
  have hitems : ∀ item ∈ st.waiting, Framed compatibility item.1 item.2 := fun item hitem =>
    hst.framed item (List.mem_of_mem_drop hitem)
  obtain ⟨news, priv', conn', consumed', hcall, hleaves⟩ := turnRecvMessagesLoop_holding
    (headerLen_of_ne hcompat) hitems hstream hholding hst.error hst.eof rooms
    (hreads.bodiesFirst harrived) hrooms []
  obtain ⟨hdata, herror, heof, hstream', hholding', hdrained⟩ := hleaves
  rw [List.nil_append] at hcall
  rw [FramingState.recv, turnRecvMessages, hcall] at h
  obtain ⟨rfl, rfl⟩ := Prod.mk.inj h
  have hnews : news.length = (st.waiting.take news.length).length := by
    have := congrArg List.length hdata
    rwa [List.length_map, List.length_map] at this
  have hcount : st.delivered.length + news.length ≤ st.sent.length := by
    have hle : news.length ≤ st.waiting.length := by
      rw [hnews, List.length_take]
      exact Nat.min_le_right _ _
    rw [FramingState.waiting, List.length_drop] at hle
    have := hst.count
    omega
  have hlen : (st.delivered ++ news.map NiceInputMessage.data).length =
      st.delivered.length + news.length := by
    rw [List.length_append, List.length_map]
  have hwaiting : FramingState.waiting { st with
      priv := priv', conn := conn'
      delivered := st.delivered ++ news.map NiceInputMessage.data
      failed := st.failed || decide ((news.length : ℤ) < 0) } =
        st.waiting.drop news.length := by
    simp only [FramingState.waiting, hlen, List.drop_drop]
  refine ⟨⟨hst.framed, ?_, herror, heof, ?_, ?_, consumed', ?_, ?_⟩, fun hlt => ?_⟩
  · rw [hst.failed]
    simp
  · rw [hlen]
    exact hcount
  · rw [hlen, List.take_add, List.map_append, ← hst.delivered, hdata]
    rfl
  · rw [hwaiting]
    exact hstream'
  · rw [hwaiting]
    exact hholding'
  · intro item rest hitem
    rw [hwaiting] at hitem
    obtain ⟨hqueue, hincomplete⟩ := hdrained (by exact_mod_cast hlt)
    rw [hitem, hqueue, wires_cons] at hstream'
    rw [hitem] at hincomplete
    have hsplit := congrArg List.length hstream'
    have hshort : consumed'.length < item.2.length := hincomplete
    simp only [List.length_append, List.nil_append] at hsplit
    dsimp only
    omega

/-- Every step keeps the receiver in step with the stream. -/
theorem step_reassembling {compatibility : TurnCompatibility} (hcompat : compatibility ≠ .msn)
    {st st' : FramingState} {e : FramingEvent} (hst : Reassembling compatibility st)
    (hreads : ReadsBodies compatibility st e) (h : FramingStep compatibility st e st') :
    Reassembling compatibility st' := by
  cases h with
  | @send message hvalid =>
      have hdrop : (st.sent ++ [(message.data,
          (turnSendMessage compatibility message 1).2)]).drop st.delivered.length =
            st.waiting ++ [(message.data, (turnSendMessage compatibility message 1).2)] :=
        List.drop_append_of_le_length hst.count
      obtain ⟨consumed, hstream, hholding⟩ := hst.stream
      refine ⟨?_, hst.failed, hst.error, hst.eof, ?_, ?_, consumed, ?_, ?_⟩
      · intro item hitem
        rcases List.mem_append.mp hitem with hitem | hitem
        · exact hst.framed item hitem
        · rw [List.mem_singleton.mp hitem]
          exact framed_of_valid hvalid (turnSendMessage_wire compatibility message)
      · rw [List.length_append]
        exact Nat.le_add_right_of_le hst.count
      · rw [List.take_append_of_le_length hst.count]
        exact hst.delivered
      · rw [FramingState.waiting, hdrop, wires_append, ← hstream]
        simp [wires]
      · rw [FramingState.waiting, hdrop]
        exact hholding.append _
  | @notSent message ret hret =>
      have hnone : (turnSendMessage compatibility message ret).2 = [] := by
        simp [turnSendMessage, hret]
      rw [hnone, List.append_nil]
      exact ⟨hst.framed, hst.failed, hst.error, hst.eof, hst.count, hst.delivered, hst.stream⟩
  | @arrive n =>
      obtain ⟨consumed, hstream, hholding⟩ := hst.stream
      refine ⟨hst.framed, hst.failed, hst.error, hst.eof, hst.count, hst.delivered, consumed, ?_,
        hholding⟩
      simp only [TcpConn.arrive, List.append_assoc, List.take_append_drop]
      exact hstream
  | recv hrooms hrecv => exact (hst.recv hcompat hreads hrooms hrecv).1

/-- A message with room for everything that can be delivered. -/
def roomyMessage : NiceInputMessage := { buffers := [List.replicate 65536 0], length := 0 }

lemma roomyMessage_size : 65536 ≤ roomyMessage.size := by
  rw [NiceInputMessage.size, roomyMessage, List.flatten_singleton, List.length_replicate]

/-- Channel data of one byte, and of none. -/
def channelByte : NiceOutputMessage := .single [0x40, 0, 0, 1, 7]

/-- Channel data without a byte. -/
def channelEmpty : NiceOutputMessage := .single [0x40, 0, 0, 0]

end LibNice.Socket
