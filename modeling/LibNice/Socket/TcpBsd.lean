import LibNice.Stun.Agent

/-!
`socket/tcp-bsd.c` and the send queue of `socket/socket.c`: a connected TCP socket
and the bytes that the kernel did not take yet.

* `NiceOutputMessage`: the buffers of a message, counted or up to a `NULL`.
* `gSocketSendMessage`: the kernel takes a prefix of what it is given, or fails.
* `copyLoop`, `niceSocketQueueSendWithCallback`: the rest of a message is copied to
  the head or the tail of the queue.
* `socketSendMessage`, `socketSendMessages`, `socketSendMessagesReliable`: sending.
* `flushLoop`, `socketSendMore`: the callback of a writable socket.
-/

namespace LibNice.Socket

open LibNice.Foundation
open LibNice.Stun (intOfSize)

/-! ### Messages -/

/-- A `GOutputVector`, with `none` for a `NULL` buffer. -/
structure GOutputVector where
  buffer : Option Bytes
deriving DecidableEq, Repr

/-- A `NiceOutputMessage`: with a negative `nBuffers` the buffers end at a `NULL`. -/
structure NiceOutputMessage where
  buffers : List GOutputVector
  nBuffers : ℤ
deriving DecidableEq, Repr

namespace NiceOutputMessage

/-- The buffers that a walk over the message visits. -/
def visited (message : NiceOutputMessage) : List Bytes :=
  let vectors :=
    if message.nBuffers ≥ 0 then message.buffers.take message.nBuffers.toNat
    else message.buffers.takeWhile fun v => v.buffer ≠ none
  vectors.map fun v => v.buffer.getD []

/-- The bytes of the message. -/
def data (message : NiceOutputMessage) : Bytes := message.visited.flatten

/-- A message of one buffer. -/
def single (buffer : Bytes) : NiceOutputMessage := ⟨[⟨some buffer⟩], 1⟩

end NiceOutputMessage

/-- `output_message_get_size`. -/
def outputMessageGetSize (message : NiceOutputMessage) : ℕ :=
  message.visited.foldl (fun len buffer => len + buffer.length) 0

/-! ### The kernel -/

/-- The errors that the sending functions tell apart. -/
inductive GIOErrorEnum where
  | wouldBlock
  | failed
  /-- Any other error. -/
  | other
deriving DecidableEq, Repr

/-- What `g_socket_send_message` comes back with. -/
inductive SendResult where
  | sent (n : ℕ)
  | error (gerr : GIOErrorEnum)
deriving DecidableEq, Repr

/-- What a call finds outside the socket: how the kernel answers when it is offered
some bytes for the `i`-th time, and what is in a block that is allocated then. -/
structure Env where
  answer : ℕ → ℕ → SendResult
  memory : ℕ → ℕ → UInt8

/-- `g_socket_send_message`: the answer, and all that the kernel has accepted. -/
def gSocketSendMessage (env : Env) (i : ℕ) (vectors : List Bytes) (accepted : Bytes) :
    SendResult × Bytes :=
  match env.answer i vectors.flatten.length with
  | .sent n => (.sent n, accepted ++ vectors.flatten.take n)
  | .error gerr => (.error gerr, accepted)

/-! ### The send queue -/

/-- A `NiceSocketQueuedSend`; its `length` is that of `buf`. -/
structure NiceSocketQueuedSend where
  buf : Bytes
deriving DecidableEq, Repr

/-- The loop that moves the data of a message to a block of `length` bytes, of which
`buf` is written already; `messageOffset` bytes are still to be skipped. -/
def copyLoop (length : ℕ) : List Bytes → Bytes → ℕ → Bytes
  | [], buf, _ => buf
  | buffer :: buffers, buf, messageOffset =>
      if buffer.length ≤ messageOffset then
        copyLoop length buffers buf (messageOffset - buffer.length)
      else
        let len := min (length - buf.length) (buffer.length - messageOffset)
        copyLoop length buffers (buf ++ (buffer.drop messageOffset).take len)
          (if messageOffset ≥ len then messageOffset - len else 0)

/-- `nice_socket_queue_send_with_callback`: the queue, and whether there is an
`io_source`; `attach` is whether the arguments to create one are there.  What the loop
leaves of the allocated block is as `memory` has it. -/
def niceSocketQueueSendWithCallback (memory : ℕ → UInt8) (sendQueue : List NiceSocketQueuedSend)
    (message : NiceOutputMessage) (messageOffset messageLen : ℕ) (head : Bool)
    (ioSource attach : Bool) : List NiceSocketQueuedSend × Bool :=
  if messageOffset ≥ messageLen then (sendQueue, ioSource)
  else
    let length := messageLen - messageOffset
    let written := copyLoop length message.visited [] messageOffset
    let tbs : NiceSocketQueuedSend :=
      ⟨written ++ (List.range' written.length (length - written.length)).map memory⟩
    (if head then tbs :: sendQueue else sendQueue ++ [tbs], ioSource || attach)

/-! ### The socket -/

/-- A connected TCP socket, with what the kernel has accepted from it so far. -/
structure TcpSocket where
  sendQueue : List NiceSocketQueuedSend
  ioSource : Bool
  error : Bool
  reliable : Bool
  writableCb : Bool
  accepted : Bytes
deriving DecidableEq, Repr

/-- `nice_tcp_bsd_socket_new_from_gsock`. -/
def niceTcpBsdSocketNewFromGsock (reliable : Bool) : TcpSocket :=
  { sendQueue := []
    ioSource := false
    error := false
    reliable
    writableCb := false
    accepted := [] }

/-- The socket with the message from `messageOffset` on in its queue. -/
def TcpSocket.queueSend (sock : TcpSocket) (memory : ℕ → UInt8) (message : NiceOutputMessage)
    (messageOffset messageLen : ℕ) (head : Bool) : TcpSocket :=
  let (sendQueue, ioSource) := niceSocketQueueSendWithCallback memory sock.sendQueue message
    messageOffset messageLen head sock.ioSource true
  { sock with sendQueue, ioSource }

/-- `socket_send_message`, as the `i`-th message of a call. -/
def socketSendMessage (env : Env) (i : ℕ) (sock : TcpSocket) (message : NiceOutputMessage)
    (reliable : Bool) : ℤ × TcpSocket :=
  if sock.error then (-1, sock)
  else
    let messageLen := outputMessageGetSize message
    if sock.sendQueue.isEmpty then
      match gSocketSendMessage env i message.visited sock.accepted with
      | (.error gerr, _) =>
          if gerr = .wouldBlock ∨ gerr = .failed then
            (messageLen, sock.queueSend (env.memory i) message 0 messageLen false)
          else (-1, sock)
      | (.sent ret, accepted) =>
          let sock := { sock with accepted }
          if ret < messageLen then
            (messageLen, sock.queueSend (env.memory i) message ret messageLen true)
          else (ret, sock)
    else if reliable then
      (messageLen, sock.queueSend (env.memory i) message 0 messageLen false)
    else (0, sock)

/-- The loop of `socket_send_messages` from message `i` on. -/
def sendMessagesLoop (env : Env) : ℕ → List NiceOutputMessage → TcpSocket → ℤ × TcpSocket
  | i, [], sock => (i, sock)
  | i, message :: messages, sock =>
      match socketSendMessage env i sock message false with
      | (len, sock) =>
          if len < 0 then if i > 0 then (i, sock) else (len, sock)
          else if len = 0 then (i, sock)
          else sendMessagesLoop env (i + 1) messages sock

/-- `socket_send_messages`: the number of messages that were sent or queued. -/
def socketSendMessages (env : Env) (sock : TcpSocket) (messages : List NiceOutputMessage) :
    ℤ × TcpSocket :=
  sendMessagesLoop env 0 messages sock

/-- The loop of `socket_send_messages_reliable` from message `i` on. -/
def sendMessagesReliableLoop (env : Env) : ℕ → List NiceOutputMessage → TcpSocket → ℤ × TcpSocket
  | i, [], sock => (i, sock)
  | i, message :: messages, sock =>
      match socketSendMessage env i sock message true with
      | (len, sock) =>
          if len < 0 then (-1, sock) else sendMessagesReliableLoop env (i + 1) messages sock

/-- `socket_send_messages_reliable`. -/
def socketSendMessagesReliable (env : Env) (sock : TcpSocket)
    (messages : List NiceOutputMessage) : ℤ × TcpSocket :=
  sendMessagesReliableLoop env 0 messages sock

/-! ### The writable socket -/

/-- The entry that `nice_socket_flush_send_queue_to_socket` puts back for the bytes `buf`
that the kernel did not take. -/
def requeue (memory : ℕ → UInt8) (sendQueue : List NiceSocketQueuedSend) (buf : Bytes) :
    List NiceSocketQueuedSend :=
  (niceSocketQueueSendWithCallback memory sendQueue (.single buf) 0 buf.length true false false).1

/-- The loop of `nice_socket_flush_send_queue_to_socket`, which has offered `i` entries so
far: whether the queue was emptied, the queue, and what the kernel has accepted.  The number
of bytes sent and the length of an entry are converted to `int`. -/
def flushLoop (env : Env) :
    ℕ → List NiceSocketQueuedSend → Bytes → Bool × List NiceSocketQueuedSend × Bytes
  | _, [], accepted => (true, [], accepted)
  | i, tbs :: sendQueue, accepted =>
      match gSocketSendMessage env i [tbs.buf] accepted with
      | (.error gerr, accepted) =>
          if gerr = .wouldBlock then (false, requeue (env.memory i) sendQueue tbs.buf, accepted)
          else flushLoop env (i + 1) sendQueue accepted
      | (.sent n, accepted) =>
          let ret := intOfSize n
          if ret < 0 then flushLoop env (i + 1) sendQueue accepted
          else if ret < intOfSize tbs.buf.length then
            (false, requeue (env.memory i) sendQueue (tbs.buf.drop ret.toNat), accepted)
          else flushLoop env (i + 1) sendQueue accepted

/-- `socket_send_more`, the callback of the `io_source`: whether the source stays, and whether
the writable callback of the agent is called last.  `destroyed` is whether the source that
fires was destroyed meanwhile, `hup` whether the connection hung up. -/
def socketSendMore (env : Env) (sock : TcpSocket) (destroyed hup : Bool) :
    Bool × Bool × TcpSocket :=
  if destroyed then (false, false, sock)
  else if hup then (false, sock.writableCb, { sock with ioSource := false })
  else
    match flushLoop env 0 sock.sendQueue sock.accepted with
    | (true, sendQueue, accepted) =>
        (false, sock.writableCb, { sock with sendQueue, accepted, ioSource := false })
    | (false, sendQueue, accepted) => (true, false, { sock with sendQueue, accepted })

/-! ### Calls -/

/-- The calls on a socket. -/
inductive Call where
  | sendMessages (messages : List NiceOutputMessage)
  | sendMessagesReliable (messages : List NiceOutputMessage)
  | sendMore (destroyed hup : Bool)
  | setWritableCallback (callback : Bool)

/-- What a call returns. -/
inductive Ret where
  | none
  | index (n : ℤ)
  | source (stays called : Bool)
deriving DecidableEq, Repr

/-- A call on a socket. -/
def TcpSocket.call (sock : TcpSocket) (env : Env) : Call → Ret × TcpSocket
  | .sendMessages messages =>
      let (n, sock) := socketSendMessages env sock messages
      (.index n, sock)
  | .sendMessagesReliable messages =>
      let (n, sock) := socketSendMessagesReliable env sock messages
      (.index n, sock)
  | .sendMore destroyed hup =>
      let (stays, called, sock) := socketSendMore env sock destroyed hup
      (.source stays called, sock)
  | .setWritableCallback callback => (.none, { sock with writableCb := callback })

end LibNice.Socket
