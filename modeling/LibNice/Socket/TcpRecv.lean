import LibNice.Foundation.Memory

/-!
The receiving side of `socket/tcp-bsd.c`.

* `NiceInputMessage`: the buffers that a message is received into.
* `scatter`: bytes that fill the buffers one after another.
* `TcpConn`: what has arrived on a connection and was not read yet.
* `gSocketReceiveMessage`, `socketRecvMessages`: reading it.
-/

namespace LibNice.Socket

open LibNice.Foundation

/-! ### Messages -/

/-- A `NiceInputMessage`, with what is in those of its buffers that a walk over the message
visits. -/
structure NiceInputMessage where
  buffers : List Bytes
  length : ℕ
deriving DecidableEq, Repr

/-- The bytes that the message holds. -/
def NiceInputMessage.data (message : NiceInputMessage) : Bytes :=
  message.buffers.flatten.take message.length

/-- `input_message_get_size`. -/
def NiceInputMessage.size (message : NiceInputMessage) : ℕ := message.buffers.flatten.length

/-- The buffers after `bytes` were written to them, one buffer after another. -/
def scatter : List Bytes → Bytes → List Bytes
  | [], _ => []
  | buffer :: buffers, bytes =>
      (bytes.take buffer.length ++ buffer.drop bytes.length) ::
        scatter buffers (bytes.drop buffer.length)

/-- Bytes that fit are found again at the start of the buffers. -/
lemma scatter_take (buffers : List Bytes) (bytes : Bytes)
    (h : bytes.length ≤ buffers.flatten.length) :
    (scatter buffers bytes).flatten.take bytes.length = bytes := by
  induction buffers generalizing bytes with
  | nil =>
      rw [List.flatten_nil, List.length_nil, Nat.le_zero, List.length_eq_zero_iff] at h
      subst h
      rfl
  | cons buffer buffers ih =>
      rw [List.flatten_cons, List.length_append] at h
      rw [scatter, List.flatten_cons]
      rcases Nat.le_total bytes.length buffer.length with hle | hle
      · rw [List.take_of_length_le hle, List.append_assoc, List.take_left]
      · have hdrop : (bytes.drop buffer.length).length = bytes.length - buffer.length :=
          List.length_drop
        have hlen : (bytes.take buffer.length).length = buffer.length := by
          rw [List.length_take, Nat.min_eq_left hle]
        rw [List.drop_eq_nil_of_le hle, List.append_nil, List.take_append, hlen, ← hdrop,
          ih _ (by omega), List.take_of_length_le (by omega), List.take_append_drop]

@[simp] lemma scatter_length (buffers : List Bytes) (bytes : Bytes) :
    (scatter buffers bytes).flatten.length = buffers.flatten.length := by
  induction buffers generalizing bytes with
  | nil => rfl
  | cons buffer buffers ih =>
      rw [scatter, List.flatten_cons, List.flatten_cons, List.length_append, List.length_append,
        ih, List.length_append, List.length_take, List.length_drop]
      omega

/-! ### The connection -/

/-- The receiving side of a connected socket: the bytes that have arrived and were not read,
whether the peer has shut the connection down behind them, and `priv->error`. -/
structure TcpConn where
  queue : Bytes
  eof : Bool
  error : Bool
deriving DecidableEq, Repr

/-- A connection on which nothing has arrived yet. -/
def TcpConn.new : TcpConn := { queue := [], eof := false, error := false }

/-- More bytes arrive. -/
def TcpConn.arrive (conn : TcpConn) (bytes : Bytes) : TcpConn :=
  { conn with queue := conn.queue ++ bytes }

/-- `g_socket_get_available_bytes`. -/
def TcpConn.available (conn : TcpConn) : ℕ := conn.queue.length

/-- What `g_socket_receive_message` comes back with. -/
inductive ReceiveResult where
  | received (bytes : Bytes)
  | wouldBlock
deriving DecidableEq, Repr

/-- `g_socket_receive_message`, into room for `n` bytes: what is there and fits.  At the end
of the stream no bytes are received. -/
def gSocketReceiveMessage (conn : TcpConn) (n : ℕ) : ReceiveResult × TcpConn :=
  if conn.queue = [] then
    if conn.eof then (.received [], conn) else (.wouldBlock, conn)
  else (.received (conn.queue.take n), { conn with queue := conn.queue.drop n })

/-- The loop of `socket_recv_messages`, which has received `done`. -/
def recvMessagesLoop : TcpConn → List NiceInputMessage → List NiceInputMessage →
    ℤ × TcpConn × List NiceInputMessage
  | conn, done, [] => (done.length, conn, done)
  | conn, done, message :: messages =>
      match gSocketReceiveMessage conn message.size with
      | (.received bytes, conn) =>
          let message : NiceInputMessage :=
            { buffers := scatter message.buffers bytes, length := bytes.length }
          if bytes = [] then
            (if done = [] then -1 else done.length, { conn with error := true },
              done ++ message :: messages)
          else recvMessagesLoop conn (done ++ [message]) messages
      | (.wouldBlock, conn) => (0, conn, done ++ { message with length := 0 } :: messages)

/-- `socket_recv_messages`: how many messages were received, and the messages. -/
def socketRecvMessages (conn : TcpConn) (messages : List NiceInputMessage) :
    ℤ × TcpConn × List NiceInputMessage :=
  if conn.error then (-1, conn, messages) else recvMessagesLoop conn [] messages

/-- `nice_socket_recv_messages` with one message. -/
def socketRecvMessage (conn : TcpConn) (message : NiceInputMessage) :
    ℤ × TcpConn × NiceInputMessage :=
  let (ret, conn, messages) := socketRecvMessages conn [message]
  (ret, conn, messages.headD message)

/-- One message, read from a connection that has bytes. -/
lemma socketRecvMessage_received {conn : TcpConn} (message : NiceInputMessage)
    (herror : conn.error = false) (hqueue : conn.queue ≠ []) (hsize : 0 < message.size) :
    socketRecvMessage conn message =
      (1, { conn with queue := conn.queue.drop message.size },
        { buffers := scatter message.buffers (conn.queue.take message.size)
          length := min message.size conn.queue.length }) := by
  have hne : conn.queue.take message.size ≠ [] := by
    rw [Ne, List.take_eq_nil_iff, not_or]
    exact ⟨by omega, hqueue⟩
  simp [socketRecvMessage, socketRecvMessages, recvMessagesLoop, gSocketReceiveMessage, herror,
    hqueue, hne]

end LibNice.Socket
