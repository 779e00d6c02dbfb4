import LibNice.Foundation.Decimal
import LibNice.Foundation.Ring
import LibNice.Foundation.Tokens
import LibNice.Socket.TcpRecv

/-!
The receiving side of `socket/http.c`, until the proxy has let the connection through.

* `RecvBuf`: the ring buffer of an `HttpPriv`, in the states that `assert_ring_buffer_valid` lets
  pass.
* `RecvBuf.enlarge`, `RecvBuf.localRecvBufs`, `RecvBuf.fill`, `RecvBuf.consume`,
  `memcpyRingBufferToBuffer`: everything that is done to it.
* `parseInit`, `parseHeaders`: what the parser makes of a status line and of a header line.
* `parse_turns`: the parser comes to an end.
* `socketRecvMessages`: a read, and as many turns of the parser as there are bytes for.
-/

namespace LibNice.Socket.Http

open LibNice.Foundation

/-! ### The ring buffer -/

/-- The ring buffer of an `HttpPriv`.  `recvBuf` has the memory behind the pointer, of which
`recvBufLength` bytes are allocated; the two conditions are those of `assert_ring_buffer_valid`. -/
structure RecvBuf where
  recvBuf : ℕ → UInt8
  recvBufLength : ℕ
  recvBufPos : ℕ
  recvBufFill : ℕ
  fill_le : recvBufFill ≤ recvBufLength
  pos_lt : recvBufPos = 0 ∨ recvBufPos < recvBufLength

namespace RecvBuf

/-- The buffer of a new socket. -/
def new : RecvBuf where
  recvBuf := fun _ => 0
  recvBufLength := 0
  recvBufPos := 0
  recvBufFill := 0
  fill_le := le_rfl
  pos_lt := .inl rfl

/-- `GET_BYTE`. -/
def getByte (b : RecvBuf) (pos : ℕ) : UInt8 :=
  b.recvBuf ((pos + b.recvBufPos) % b.recvBufLength)

/-- The bytes `GET_BYTE (0)`, ..., `GET_BYTE (recv_buf_fill - 1)`. -/
def contents (b : RecvBuf) : Bytes := (List.range b.recvBufFill).map b.getByte

/-- Is the buffer full? -/
def Full (b : RecvBuf) : Prop := b.recvBufFill = b.recvBufLength

instance (b : RecvBuf) : Decidable b.Full := inferInstanceAs (Decidable (_ = _))

/-- A full buffer is made twice as large.  `g_realloc` keeps the bytes of the old buffer where they
are; what is behind them is whatever the new memory holds. -/
def enlarge (b : RecvBuf) (memory : ℕ → UInt8) : RecvBuf :=
  if b.Full then
    { b with
      recvBuf := fun i => if i < b.recvBufLength then b.recvBuf i else memory i
      recvBufLength := max (b.recvBufLength * 2) 1024
      fill_le := by have := b.fill_le; omega
      pos_lt := by have := b.pos_lt; omega }
  else b

/-- One of the two `GInputVector`s: where in the buffer it starts, and its size. -/
structure LocalRecvBuf where
  buffer : ℕ
  size : ℕ
deriving DecidableEq, Repr

/-- The regions of the buffer that the base socket may write to: one for the tail of the buffer, one
for the head.  The pointer of an empty region is never used. -/
def localRecvBufs (b : RecvBuf) : LocalRecvBuf × LocalRecvBuf :=
  if b.recvBufPos + b.recvBufFill > b.recvBufLength then
    (⟨(b.recvBufPos + b.recvBufFill) % b.recvBufLength, b.recvBufLength - b.recvBufFill⟩, ⟨0, 0⟩)
  else
    (⟨b.recvBufPos + b.recvBufFill, b.recvBufLength - (b.recvBufPos + b.recvBufFill)⟩,
      ⟨0, b.recvBufPos⟩)

/-- The sizes of the regions together. -/
def room (b : RecvBuf) : ℕ := b.localRecvBufs.1.size + b.localRecvBufs.2.size

/-- The regions hold as many bytes as the buffer has free. -/
lemma room_eq (b : RecvBuf) : b.room = b.recvBufLength - b.recvBufFill := by
  have := b.fill_le
  have := b.pos_lt
  unfold room localRecvBufs
  split <;> dsimp only <;> omega

/-- The base socket has written `bytes` to the regions, one after the other, as far as they have
room for them. -/
def fill (b : RecvBuf) (bytes : Bytes) : RecvBuf :=
  let (tail, head) := b.localRecvBufs
  let received := bytes.take b.room
  { b with
    recvBuf := store (store b.recvBuf tail.buffer (received.take tail.size)) head.buffer
      (received.drop tail.size)
    recvBufFill := b.recvBufFill + received.length
    fill_le := by
      have hle := b.fill_le
      have hroom := b.room_eq
      have hreceived : received.length ≤ b.room := List.length_take_le b.room bytes
      omega }

/-- The first `n` bytes are consumed. -/
def consume (b : RecvBuf) (n : ℕ) (h : n ≤ b.recvBufFill) : RecvBuf :=
  { b with
    recvBufPos := (b.recvBufPos + n) % b.recvBufLength
    recvBufFill := b.recvBufFill - n
    fill_le := by have := b.fill_le; omega
    pos_lt := by
      have hle := b.fill_le
      have hpos := b.pos_lt
      rcases Nat.eq_zero_or_pos b.recvBufLength with h0 | h0
      · left
        have hsum : b.recvBufPos + n = 0 := by omega
        rw [hsum, Nat.zero_mod]
      · exact .inr (Nat.mod_lt _ h0) }

end RecvBuf

/-- What `memcpy_ring_buffer_to_buffer` copies to a buffer of `bufferLength` bytes. -/
def ringBufferBytes (b : RecvBuf) (bufferLength : ℕ) : Bytes :=
  if b.recvBufPos + b.recvBufFill > b.recvBufLength then
    let len := min (b.recvBufLength - b.recvBufPos) bufferLength
    load b.recvBuf b.recvBufPos len ++
      load b.recvBuf 0 (min (b.recvBufFill - len) (bufferLength - len))
  else load b.recvBuf b.recvBufPos (min b.recvBufFill bufferLength)

/-- As many bytes are copied as there are, and as there is room for. -/
lemma ringBufferBytes_length (b : RecvBuf) (bufferLength : ℕ) :
    (ringBufferBytes b bufferLength).length = min b.recvBufFill bufferLength := by
  have := b.fill_le
  have := b.pos_lt
  unfold ringBufferBytes
  split
  · simp only [List.length_append, load_length]
    omega
  · rw [load_length]

/-- `memcpy_ring_buffer_to_buffer`: the buffer after it, and the bytes that were copied. -/
def memcpyRingBufferToBuffer (b : RecvBuf) (bufferLength : ℕ) : RecvBuf × Bytes :=
  let bytes := ringBufferBytes b bufferLength
  (b.consume bytes.length (by rw [ringBufferBytes_length]; exact min_le_left _ _), bytes)

/-- The inner loop of `memcpy_ring_buffer_to_input_messages`.  What it changes of a buffer is what
is in it and its size. -/
def memcpyBuffers : RecvBuf → List Bytes → RecvBuf × List Bytes
  | b, [] => (b, [])
  | b, buffer :: buffers =>
      if 0 < b.recvBufFill then
        let (b, bytes) := memcpyRingBufferToBuffer b buffer.length
        let (b, buffers) := memcpyBuffers b buffers
        (b, bytes :: buffers)
      else (b, buffer :: buffers)

/-- `memcpy_ring_buffer_to_input_messages`: the number of messages touched comes second. -/
def memcpyRingBufferToInputMessages : RecvBuf → List NiceInputMessage →
    RecvBuf × ℕ × List NiceInputMessage
  | b, [] => (b, 0, [])
  | b, message :: messages =>
      if 0 < b.recvBufFill then
        let (b, buffers) := memcpyBuffers b message.buffers
        let (b, i, messages) := memcpyRingBufferToInputMessages b messages
        (b, i + 1, { message with buffers } :: messages)
      else (b, 0, message :: messages)

/-! ### The parser -/

/-- Where the parser goes when it cannot go on. -/
inductive Goto where
  | notEnoughData
  | error
deriving DecidableEq, Repr

namespace RecvBuf

variable (b : RecvBuf)

/-- The loop of `EAT_WHITESPACE`, with at most `n` turns. -/
def whitespaceLoop : ℕ → ℕ → ℕ
  | 0, pos => pos
  | n + 1, pos =>
      if pos < b.recvBufFill ∧ b.getByte pos = 0x20 then whitespaceLoop n (pos + 1) else pos

/-- `EAT_WHITESPACE`. -/
def eatWhitespace (pos : ℕ) : Except Goto ℕ :=
  let pos := b.whitespaceLoop (b.recvBufFill - pos) pos
  if pos ≥ b.recvBufFill then .error .notEnoughData else .ok pos

/-- The loop that looks for the end of a line, with at most `n` turns. -/
def lineLoop : ℕ → ℕ → ℕ
  | 0, pos => pos
  | n + 1, pos =>
      if pos + 1 < b.recvBufFill ∧ b.getByte pos ≠ 0x0d ∧ b.getByte (pos + 1) ≠ 0x0a then
        lineLoop n (pos + 1)
      else pos

/-- The size of a line that is there, with the two bytes at its end. -/
def Line : Type := {n : ℕ // 2 ≤ n ∧ n ≤ b.recvBufFill}

/-- The end of the line that `pos` is in: how many bytes are consumed. -/
def lineEnd (pos : ℕ) : Except Goto b.Line :=
  let pos := b.lineLoop (b.recvBufFill - pos) pos
  if h : pos + 1 ≥ b.recvBufFill then .error .notEnoughData
  else .ok ⟨pos + 2, by omega⟩

/-- The bytes at `pos` are those of `text`. -/
def matchesAt (pos : ℕ) (text : Bytes) : Bool :=
  (List.range text.length).map (fun i => b.getByte (pos + i)) = text

/-- The bytes at `pos` are those of `text`, but for the case of letters. -/
def matchesCaseless (pos : ℕ) (text : Bytes) : Bool :=
  (List.range text.length).map (fun i => toLower (b.getByte (pos + i))) = text

end RecvBuf

/-- `HTTP/1.` -/
def HTTP_1 : Bytes := [0x48, 0x54, 0x54, 0x50, 0x2f, 0x31, 0x2e]

/-- `content-length:` -/
def CONTENT_LENGTH : Bytes :=
  [0x63, 0x6f, 0x6e, 0x74, 0x65, 0x6e, 0x74, 0x2d, 0x6c, 0x65, 0x6e, 0x67, 0x74, 0x68, 0x3a]

/-- `HTTP_STATE_INIT`: the size of the status line. -/
def parseInit (b : RecvBuf) : Except Goto b.Line := do
  let pos ← b.eatWhitespace 0
  if pos + 7 > b.recvBufFill then throw .notEnoughData
  if !b.matchesAt pos HTTP_1 then throw .error
  let pos := pos + 7
  if pos ≥ b.recvBufFill then throw .notEnoughData
  if b.getByte pos ≠ 0x30 ∧ b.getByte pos ≠ 0x31 then throw .error
  let pos := pos + 1
  -- a space behind the version
  if pos ≥ b.recvBufFill then throw .notEnoughData
  if b.getByte pos ≠ 0x20 then throw .error
  let pos ← b.eatWhitespace pos
  -- a 2xx code
  if pos + 3 > b.recvBufFill then throw .notEnoughData
  if b.getByte pos ≠ 0x32 ∨ !isDigit (b.getByte (pos + 1)) ∨ !isDigit (b.getByte (pos + 2)) then
    throw .error
  b.lineEnd pos

/-- `G_MAXSIZE` -/
def G_MAXSIZE : ℕ := 2 ^ 64 - 1

/-- The loop that reads the value of a Content-Length header, with at most `n` turns: the value, and
where it ends.  A turn looks at the byte at `pos` before it asks whether that byte is there. -/
def contentLengthLoop (b : RecvBuf) : ℕ → ℕ → ℕ → ℕ × Except Goto ℕ
  | 0, _, contentLength => (contentLength, .error .notEnoughData)
  | n + 1, pos, contentLength =>
      let byte := b.getByte pos
      if byte = 0x0d then (contentLength, .ok pos)
      else if !isDigit byte then (0, .error .error)
      else
        let val := byte.toNat - 0x30
        if contentLength > G_MAXSIZE / 10 ∨ contentLength * 10 > G_MAXSIZE - val then (0, .ok pos)
        else if pos + 1 > b.recvBufFill then (contentLength * 10 + val, .error .notEnoughData)
        else contentLengthLoop b n (pos + 1) (contentLength * 10 + val)

/-- Is this a Content-Length header? -/
def isContentLength (b : RecvBuf) : Bool :=
  15 < b.recvBufFill && b.matchesCaseless 0 CONTENT_LENGTH

/-- The value of a Content-Length header: `priv->content_length`, and where the value ends. -/
def parseContentLength (b : RecvBuf) (contentLength : ℕ) : ℕ × Except Goto ℕ :=
  if isContentLength b then
    match b.eatWhitespace 15 with
    | .error e => (contentLength, .error e)
    | .ok pos => contentLengthLoop b (b.recvBufFill - pos + 1) pos 0
  else (contentLength, .ok 0)

/-- `HTTP_STATE_HEADERS`: `priv->content_length`, and the size of the header line. -/
def parseHeaders (b : RecvBuf) (contentLength : ℕ) : ℕ × Except Goto b.Line :=
  let (contentLength, pos) := parseContentLength b contentLength
  (contentLength, pos.bind b.lineEnd)

/-! ### The socket -/

/-- `HttpState` -/
inductive HttpState where
  | init
  | headers
  | body
  | connected
  | error
deriving DecidableEq, Repr

/-- What receiving works on in an `HttpPriv`; `baseSocket` says whether there still is one. -/
structure HttpPriv where
  state : HttpState
  baseSocket : Bool
  buf : RecvBuf
  contentLength : ℕ

namespace HttpPriv

/-- `nice_http_socket_new`. -/
def new : HttpPriv := { state := .init, baseSocket := true, buf := .new, contentLength := 0 }

/-- The end of `socket_recv_messages` behind `error`. -/
def error (priv : HttpPriv) : HttpPriv := { priv with baseSocket := false, state := .error }

/-- What is left after the bytes of a line. -/
def consume (priv : HttpPriv) (n : ℕ) (h : n ≤ priv.buf.recvBufFill) : HttpPriv :=
  { priv with buf := priv.buf.consume n h }

end HttpPriv

/-- What a turn of the parser ends with. -/
inductive Turn where
  | retry (priv : HttpPriv)
  | goto (priv : HttpPriv) (label : Goto)
  | connected

/-- One turn of the parser, from `retry` on. -/
def turn (priv : HttpPriv) : Turn :=
  match priv.state with
  | .init =>
      match parseInit priv.buf with
      | .error label => .goto priv label
      | .ok n => .retry { priv.consume n.1 n.2.2 with contentLength := 0, state := .headers }
  | .headers =>
      match parseHeaders priv.buf priv.contentLength with
      | (contentLength, .error label) => .goto { priv with contentLength } label
      | (contentLength, .ok n) =>
          .retry { priv.consume n.1 n.2.2 with
            contentLength
            state := if n.1 = 2 then .body else .headers }
  | .body =>
      if priv.contentLength = 0 then .retry { priv with state := .connected }
      else if priv.buf.recvBufFill = 0 then .goto priv .notEnoughData
      else
        let consumed := min priv.contentLength priv.buf.recvBufFill
        .retry { priv.consume consumed (min_le_right _ _) with
          contentLength := priv.contentLength - consumed }
  | .connected => .connected
  | .error => .goto priv .error

/-- The parser, with at most `n` turns: the return value, the socket and the messages. -/
def parse : ℕ → HttpPriv → List NiceInputMessage → ℤ × HttpPriv × List NiceInputMessage
  | 0, priv, messages => (0, priv, messages)
  | n + 1, priv, messages =>
      match turn priv with
      | .retry priv => parse n priv messages
      | .goto priv .notEnoughData => (0, priv, messages)
      | .goto priv .error => (-1, priv.error, messages)
      | .connected =>
          let (buf, i, messages) := memcpyRingBufferToInputMessages priv.buf messages
          (i, { priv with buf }, messages)

/-- How many turns the parser may take: every one but the last two consumes bytes. -/
def turns (priv : HttpPriv) : ℕ := priv.buf.recvBufFill + 2

/-! ### The parser comes to an end -/

/-- How much a turn of the parser can still use up. -/
def HttpPriv.rest (priv : HttpPriv) : ℕ :=
  priv.buf.recvBufFill + if priv.state = .connected then 0 else 1

/-- Every turn uses something up. -/
lemma turn_rest {priv priv' : HttpPriv} (h : turn priv = .retry priv') :
    priv'.rest < priv.rest := by
  unfold turn at h
  split at h
  next hstate =>
    split at h
    next => cases h
    next n _ =>
      cases h
      have hline := n.2
      simp only [HttpPriv.rest, HttpPriv.consume, RecvBuf.consume, hstate]
      simp
      omega
  next hstate =>
    split at h
    next => cases h
    next n _ =>
      cases h
      have hline := n.2
      simp only [HttpPriv.rest, HttpPriv.consume, RecvBuf.consume, hstate]
      split <;> simp <;> omega
  next hstate =>
    split at h
    next =>
      cases h
      simp [HttpPriv.rest, hstate]
    next hlen =>
      split at h
      next => cases h
      next hfill =>
        cases h
        simp only [HttpPriv.rest, HttpPriv.consume, RecvBuf.consume, hstate]
        simp
        omega
  next => cases h
  next => cases h

lemma rest_lt_turns (priv : HttpPriv) : priv.rest < turns priv := by
  unfold HttpPriv.rest turns
  split <;> omega

/-- **The parser comes to an end** within its turns: more of them change nothing. -/
theorem parse_turns (n : ℕ) (messages : List NiceInputMessage) :
    ∀ priv m, HttpPriv.rest priv < n → HttpPriv.rest priv < m →
      parse n priv messages = parse m priv messages := by
  induction n with
  | zero => exact fun _ _ h => absurd h (Nat.not_lt_zero _)
  | succ n ih =>
      intro priv m hn hm
      obtain ⟨m, rfl⟩ : ∃ k, m = k + 1 := ⟨m - 1, by omega⟩
      rw [parse, parse]
      split
      next priv' h =>
        have hrest := turn_rest h
        exact ih priv' m (by omega) (by omega)
      all_goals rfl

/-! ### Receiving -/

/-- The message that the base socket is to fill. -/
def localRecvMessage (b : RecvBuf) : NiceInputMessage where
  buffers := [List.replicate b.localRecvBufs.1.size 0, List.replicate b.localRecvBufs.2.size 0]
  length := 0

/-- `socket_recv_messages`, with the memory that `g_realloc` hands out. -/
def socketRecvMessages (memory : ℕ → UInt8) (priv : HttpPriv) (conn : TcpConn)
    (messages : List NiceInputMessage) : ℤ × HttpPriv × TcpConn × List NiceInputMessage :=
  if priv.state = .connected then
    -- the fast path
    if priv.baseSocket then
      let (ret, conn, messages) := Socket.socketRecvMessages conn messages
      (ret, priv, conn, messages)
    else (-1, priv, conn, messages)
  else
    let priv := { priv with buf := priv.buf.enlarge memory }
    if priv.baseSocket then
      let (ret, conn, message) := socketRecvMessage conn (localRecvMessage priv.buf)
      if ret ≤ 0 then (ret, priv, conn, messages)
      else
        let priv := { priv with buf := priv.buf.fill message.data }
        let (ret, priv, messages) := parse (turns priv) priv messages
        (ret, priv, conn, messages)
    else (-1, priv, conn, messages)

end LibNice.Socket.Http
