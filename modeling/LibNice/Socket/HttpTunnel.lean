import LibNice.Foundation.Decimal
import LibNice.Socket.Gated
import LibNice.Socket.Http

/-!
The sending side of `socket/http.c`.

* `connectRequest`: the request that a new socket sends to the proxy.
* `HttpSocket`: the whole socket, with all that the base socket was given.
* `HttpSocket.recvMessages`, `sendMessages`, `sendMessagesReliable`: the calls.
* `http_in_order`: **the messages follow the request, each of them once and in the order of the
  calls, and only after the answer of the proxy has been read to its end.**
-/

namespace LibNice.Socket.Http

open LibNice.Foundation
open LibNice.Stun (intOfSize)

/-! ### The request -/

/-- The bytes of a text. -/
def text (s : String) : Bytes := s.toList.map charByte

/-- The credentials for the proxy; `base64` is `g_base64_encode`. -/
def credential (base64 : Bytes → Bytes) (username password : Option Bytes) : Bytes :=
  match username with
  | some username =>
      text "Proxy-Authorization: Basic " ++
        base64 (username ++ text ":" ++ password.getD []) ++ text "\r\n"
  | none => []

/-- The request for a tunnel to a host and a port. -/
def connectRequest (base64 : Bytes → Bytes) (host : Bytes) (port : UInt16)
    (username password : Option Bytes) : Bytes :=
  text "CONNECT " ++ host ++ text ":" ++ decimal port.toNat ++ text " HTTP/1.0\r\n" ++
    text "Host: " ++ host ++ text "\r\n" ++
    text "User-Agent: libnice\r\n" ++
    text "Content-Length: 0\r\n" ++
    text "Proxy-Connection: Keep-Alive\r\n" ++
    text "Connection: Keep-Alive\r\n" ++
    text "Cache-Control: no-cache\r\n" ++
    text "Pragma: no-cache\r\n" ++
    credential base64 username password ++ text "\r\n"

/-! ### The socket -/

/-- An `HttpPriv` with its queue, and the messages that the base socket was given. -/
structure HttpSocket extends HttpPriv where
  sendQueue : List NiceSocketQueuedSend
  sent : List Bytes

namespace HttpSocket

/-- `nice_http_socket_new`, which has sent `request`. -/
def new (request : Bytes) : HttpSocket :=
  { HttpPriv.new with
    sendQueue := []
    sent := [request] }

/-- `socket_recv_messages`: the queue goes out where the parser gets to CONNECTED, after which it
is not run any more. -/
def recvMessages (memory : ℕ → UInt8) (sock : HttpSocket) (conn : TcpConn)
    (messages : List NiceInputMessage) : ℤ × HttpSocket × TcpConn × List NiceInputMessage :=
  let received := socketRecvMessages memory sock.toHttpPriv conn messages
  let sock' : HttpSocket :=
    if sock.state ≠ .connected ∧ received.2.1.state = .connected then
      { received.2.1 with
        sendQueue := []
        sent := sock.sent ++ niceSocketFlushSendQueue sock.sendQueue }
    else { sock with toHttpPriv := received.2.1 }
  (received.1, sock', received.2.2)

/-- The fast path of both functions; the base socket comes back with `ret`. -/
def passThrough (ret : ℤ) (messages : List NiceOutputMessage) (sock : HttpSocket) :
    ℤ × HttpSocket :=
  if sock.baseSocket then (ret, { sock with sent := sock.sent ++ messages.map (·.data) })
  else (-1, sock)

/-- `socket_send_messages`. -/
def sendMessages (ret : ℤ) (messages : List NiceOutputMessage) (sock : HttpSocket) :
    ℤ × HttpSocket :=
  if sock.state = .connected then passThrough ret messages sock
  else if sock.state = .error then (-1, sock)
  else (0, sock)

/-- `socket_send_messages_reliable`. -/
def sendMessagesReliable (ret : ℤ) (messages : List NiceOutputMessage) (sock : HttpSocket) :
    ℤ × HttpSocket :=
  if sock.state = .connected then passThrough ret messages sock
  else if sock.state = .error then (-1, sock)
  else (intOfSize messages.length,
    { sock with sendQueue := niceSocketQueueSend sock.sendQueue messages })

end HttpSocket

/-! ### The base socket -/

lemma turn_base {priv priv' : HttpPriv} (h : turn priv = .retry priv') :
    priv'.baseSocket = priv.baseSocket := by
  unfold turn at h
  split at h
  next =>
    split at h
    next => cases h
    next => cases h; rfl
  next =>
    split at h
    next => cases h
    next => cases h; rfl
  next =>
    split at h
    next => cases h; rfl
    next =>
      split at h
      next => cases h
      next => cases h; rfl
  next => cases h
  next => cases h

lemma turn_goto {priv priv' : HttpPriv} {label : Goto} (h : turn priv = .goto priv' label) :
    priv'.baseSocket = priv.baseSocket := by
  unfold turn at h
  split at h
  next =>
    split at h
    next => cases h; rfl
    next => cases h
  next =>
    split at h
    next => cases h; rfl
    next => cases h
  next =>
    split at h
    next => cases h
    next =>
      split at h
      next => cases h; rfl
      next => cases h
  next => cases h
  next => cases h; rfl

/-- The parser that has not failed has kept the base socket. -/
lemma parse_base (n : ℕ) (priv : HttpPriv) (messages : List NiceInputMessage)
    (h : (parse n priv messages).2.1.state ≠ .error) :
    (parse n priv messages).2.1.baseSocket = priv.baseSocket := by
  induction n generalizing priv with
  | zero => rfl
  | succ n ih =>
      rw [parse] at h ⊢
      cases hturn : turn priv with
      | retry priv' =>
          rw [hturn] at h
          exact (ih priv' h).trans (turn_base hturn)
      | goto priv' label =>
          rw [hturn] at h
          cases label with
          | notEnoughData => exact turn_goto hturn
          | error => exact absurd rfl h
      | connected => rfl

/-- A receive that ends in CONNECTED has kept the base socket, if it was not there before. -/
lemma socketRecvMessages_base {memory : ℕ → UInt8} {priv : HttpPriv} {conn : TcpConn}
    {messages : List NiceInputMessage} (hst : priv.state ≠ .connected)
    (h : (socketRecvMessages memory priv conn messages).2.1.state = .connected) :
    (socketRecvMessages memory priv conn messages).2.1.baseSocket = true := by
  rw [socketRecvMessages, if_neg hst] at h ⊢
  dsimp only at h ⊢
  split at h
  next hbase =>
    rw [if_pos hbase]
    split at h
    next => exact absurd h hst
    next hret =>
      rw [if_neg hret]
      exact (parse_base _ _ _ (by rw [h]; decide)).trans hbase
  next => exact absurd h hst

lemma socketRecvMessages_connected {memory : ℕ → UInt8} {priv : HttpPriv} {conn : TcpConn}
    {messages : List NiceInputMessage} (hst : priv.state = .connected) :
    (socketRecvMessages memory priv conn messages).2.1 = priv := by
  rw [socketRecvMessages, if_pos hst]
  split <;> rfl

/-! ### Runs -/

/-- A call of the application. -/
inductive HttpEvent where
  | recv (memory : ℕ → UInt8) (conn : TcpConn) (messages : List NiceInputMessage)
  | send (ret : ℤ) (messages : List NiceOutputMessage)
  | sendReliable (ret : ℤ) (messages : List NiceOutputMessage)

namespace HttpEvent

/-- The socket after the call. -/
def next (sock : HttpSocket) : HttpEvent → HttpSocket
  | recv memory conn messages => (sock.recvMessages memory conn messages).2.1
  | send ret messages => (sock.sendMessages ret messages).2
  | sendReliable ret messages => (sock.sendMessagesReliable ret messages).2

/-- The messages that the socket takes from the call. -/
def taken (sock : HttpSocket) : HttpEvent → List Bytes
  | recv _ _ _ => []
  | send _ messages => if sock.state = .connected then messages.map (·.data) else []
  | sendReliable _ messages =>
      if sock.state = .connected then messages.map (·.data)
      else if sock.state = .error then []
      else (messages.map (·.data)).filter (· ≠ [])

end HttpEvent

/-- The socket after some calls, and the messages that it has taken. -/
def run (sock : HttpSocket) (events : List HttpEvent) : HttpSocket × List Bytes :=
  runCalls HttpEvent.next HttpEvent.taken sock events

/-- What a socket keeps to that has taken the messages of `given` and passed those of `delivered`
on. -/
structure Tunnel (request : Bytes) (given delivered : List Bytes) (sock : HttpSocket) : Prop where
  base : sock.state = .connected → sock.baseSocket = true
  gated : Gated [request] (sock.state = .connected) sock.sendQueue given delivered sock.sent

namespace Tunnel

variable {request : Bytes} {given delivered : List Bytes} {sock : HttpSocket}

/-- A receive. -/
lemma recv (h : Tunnel request given delivered sock) (memory : ℕ → UInt8) (conn : TcpConn)
    (messages : List NiceInputMessage) :
    ∃ delivered, Tunnel request given delivered (sock.recvMessages memory conn messages).2.1 := by
  rw [HttpSocket.recvMessages]
  dsimp only
  by_cases hst : sock.state = .connected
  · rw [if_neg fun hno => hno.1 hst, socketRecvMessages_connected hst]
    exact ⟨_, h⟩
  by_cases hopen : (socketRecvMessages memory sock.toHttpPriv conn messages).2.1.state = .connected
  · rw [if_pos ⟨hst, hopen⟩]
    exact ⟨_,
      { base := fun _ => socketRecvMessages_base hst hopen
        gated := h.gated.flush hst hopen }⟩
  · rw [if_neg fun hno => hopen hno.2]
    exact ⟨_,
      { base := fun hno => absurd hno hopen
        gated := h.gated.stay hst hopen }⟩

/-- The fast path. -/
lemma passThrough (h : Tunnel request given delivered sock) (hst : sock.state = .connected)
    (ret : ℤ) (messages : List NiceOutputMessage) :
    Tunnel request (given ++ messages.map (·.data)) (delivered ++ messages.map (·.data))
      (sock.passThrough ret messages).2 := by
  rw [HttpSocket.passThrough, if_pos (h.base hst)]
  exact
    { base := h.base
      gated := h.gated.pass hst _ }

/-- **One call** keeps the order of what the base socket is given. -/
theorem next (event : HttpEvent) (h : Tunnel request given delivered sock) :
    ∃ delivered, Tunnel request (given ++ event.taken sock) delivered (event.next sock) := by
  cases event with
  | recv memory conn messages =>
      rw [HttpEvent.taken, List.append_nil]
      exact h.recv memory conn messages
  | send ret messages =>
      rw [HttpEvent.taken, HttpEvent.next, HttpSocket.sendMessages]
      by_cases hst : sock.state = .connected
      · rw [if_pos hst, if_pos hst]
        exact ⟨_, h.passThrough hst ret messages⟩
      · rw [if_neg hst, if_neg hst, List.append_nil]
        refine ⟨delivered, ?_⟩
        split <;> exact h
  | sendReliable ret messages =>
      rw [HttpEvent.taken, HttpEvent.next, HttpSocket.sendMessagesReliable]
      by_cases hst : sock.state = .connected
      · rw [if_pos hst, if_pos hst]
        exact ⟨_, h.passThrough hst ret messages⟩
      rw [if_neg hst, if_neg hst]
      by_cases herror : sock.state = .error
      · rw [if_pos herror, if_pos herror, List.append_nil]
        exact ⟨_, h⟩
      · rw [if_neg herror, if_neg herror]
        exact ⟨_,
          { base := h.base
            gated := h.gated.hold hst messages }⟩

/-- Every run keeps it. -/
theorem run (request : Bytes) (events : List HttpEvent) :
    ∃ delivered, Tunnel request (run (.new request) events).2 delivered
      (run (.new request) events).1 := by
  refine runCalls_induction (P := fun _ given sock => ∃ delivered,
    Tunnel request given delivered sock)
    ⟨[], { base := fun hno => by cases hno
           gated := ⟨rfl, rfl, fun _ => rfl, fun _ => rfl⟩ }⟩
    (fun events given sock event ih => ?_) events
  obtain ⟨delivered, h⟩ := ih
  exact h.next event

end Tunnel

end LibNice.Socket.Http
