import LibNice.Socket.Gated

/-!
`socket/pseudossl.c`: a TCP socket that begins with what looks like an SSL handshake.

* `serverHandshakeValid`: the check of the answer; `serverHandshakeValid_iff`: **what is compared.**
* `PseudoSSLPriv`: the socket, with all that the base socket was given.
* `socketRecvMessages`, `socketSendMessages`, `socketSendMessagesReliable`: receiving and sending.
* `pseudossl_in_order`: **the messages follow the handshake of the client, each of them once and in
  the order of the calls, and only after the server has answered with its own.**
-/

namespace LibNice.Socket.PseudoSSL

open LibNice.Foundation
open LibNice.Stun (intOfSize)

/-! ### The handshakes -/

/-- `NicePseudoSSLSocketCompatibility`. -/
inductive NicePseudoSSLSocketCompatibility where
  | google
  | msoc
deriving DecidableEq, Repr

/-- `SSL_SERVER_GOOGLE_HANDSHAKE`. -/
def sslServerGoogleHandshake : Bytes :=
  [0x16, 0x03, 0x01, 0x00, 0x4a, 0x02, 0x00, 0x00, 0x46, 0x03, 0x01, 0x42,
    0x85, 0x45, 0xa7, 0x27, 0xa9, 0x5d, 0xa0, 0xb3, 0xc5, 0xe7, 0x53, 0xda,
    0x48, 0x2b, 0x3f, 0xc6, 0x5a, 0xca, 0x89, 0xc1, 0x58, 0x52, 0xa1, 0x78,
    0x3c, 0x5b, 0x17, 0x46, 0x00, 0x85, 0x3f, 0x20, 0x0e, 0xd3, 0x06, 0x72,
    0x5b, 0x5b, 0x1b, 0x5f, 0x15, 0xac, 0x13, 0xf9, 0x88, 0x53, 0x9d, 0x9b,
    0xe8, 0x3d, 0x7b, 0x0c, 0x30, 0x32, 0x6e, 0x38, 0x4d, 0xa2, 0x75, 0x57,
    0x41, 0x6c, 0x34, 0x5c, 0x00, 0x04, 0x00]

/-- `SSL_CLIENT_GOOGLE_HANDSHAKE`. -/
def sslClientGoogleHandshake : Bytes :=
  [0x80, 0x46, 0x01, 0x03, 0x01, 0x00, 0x2d, 0x00, 0x00, 0x00, 0x10, 0x01,
    0x00, 0x80, 0x03, 0x00, 0x80, 0x07, 0x00, 0xc0, 0x06, 0x00, 0x40, 0x02,
    0x00, 0x80, 0x04, 0x00, 0x80, 0x00, 0x00, 0x04, 0x00, 0xfe, 0xff, 0x00,
    0x00, 0x0a, 0x00, 0xfe, 0xfe, 0x00, 0x00, 0x09, 0x00, 0x00, 0x64, 0x00,
    0x00, 0x62, 0x00, 0x00, 0x03, 0x00, 0x00, 0x06, 0x1f, 0x17, 0x0c, 0xa6,
    0x2f, 0x00, 0x78, 0xfc, 0x46, 0x55, 0x2e, 0xb1, 0x83, 0x39, 0xf1, 0xea]

/-- `SSL_SERVER_MSOC_HANDSHAKE`. -/
def sslServerMsocHandshake : Bytes :=
  [0x16, 0x03, 0x01, 0x00, 0x4e, 0x02, 0x00, 0x00, 0x46, 0x03, 0x01, 0x00,
    0x00, 0x00, 0x00, 0x00, 0x00, 0x00, 0x00, 0x00, 0x00, 0x00, 0x00, 0x00,
    0x00, 0x00, 0x00, 0x00, 0x00, 0x00, 0x00, 0x00, 0x00, 0x00, 0x00, 0x00,
    0x00, 0x00, 0x00, 0x00, 0x00, 0x00, 0x00, 0x20, 0x00, 0x00, 0x00, 0x00,
    0x00, 0x00, 0x00, 0x00, 0x00, 0x00, 0x00, 0x00, 0x00, 0x00, 0x00, 0x00,
    0x00, 0x00, 0x00, 0x00, 0x00, 0x00, 0x00, 0x00, 0x00, 0x00, 0x00, 0x00,
    0x00, 0x00, 0x00, 0x00, 0x00, 0x18, 0x00, 0x0e, 0x00, 0x00, 0x00]

/-- `SSL_CLIENT_MSOC_HANDSHAKE`. -/
def sslClientMsocHandshake : Bytes :=
  [0x16, 0x03, 0x01, 0x00, 0x2d, 0x01, 0x00, 0x00, 0x29, 0x03, 0x01, 0xc1,
    0xfc, 0xd5, 0xa3, 0x6d, 0x93, 0xdd, 0x7e, 0x0b, 0x45, 0x67, 0x3f, 0xec,
    0x79, 0x85, 0xfb, 0xbc, 0x3f, 0xd6, 0x60, 0xc2, 0xce, 0x84, 0x85, 0x08,
    0x1b, 0x81, 0x21, 0xbc, 0xaa, 0x10, 0xfb, 0x00, 0x00, 0x02, 0x00, 0x18,
    0x01, 0x00]

/-- What the client says first. -/
def clientHandshake : NicePseudoSSLSocketCompatibility → Bytes
  | .google => sslClientGoogleHandshake
  | .msoc => sslClientMsocHandshake

/-- What the server answers. -/
def serverHandshake : NicePseudoSSLSocketCompatibility → Bytes
  | .google => sslServerGoogleHandshake
  | .msoc => sslServerMsocHandshake

/-- The bytes of the answer that are its own each time: its random number and the identifier of the
session, with Microsoft's servers. -/
def Free : NicePseudoSSLSocketCompatibility → ℕ → Prop
  | .google, _ => False
  | .msoc, i => (11 ≤ i ∧ i < 11 + 32) ∨ (44 ≤ i ∧ i < 44 + 32)

instance (compatibility : NicePseudoSSLSocketCompatibility) (i : ℕ) :
    Decidable (Free compatibility i) := by
  cases compatibility
  · exact inferInstanceAs (Decidable False)
  · exact inferInstanceAs (Decidable (_ ∨ _))

/-- `server_handshake_valid` on the first `length` bytes of a buffer. -/
def serverHandshakeValid (compatibility : NicePseudoSSLSocketCompatibility) (data : Bytes)
    (length : ℕ) : Bool :=
  match compatibility with
  | .msoc =>
      if length = sslServerMsocHandshake.length then
        -- the two `memset`s
        let buf := data.mapIdx fun i b => if 11 ≤ i ∧ i < 11 + 32 then 0 else b
        let buf := buf.mapIdx fun i b => if 44 ≤ i ∧ i < 44 + 32 then 0 else b
        buf.take sslServerMsocHandshake.length = sslServerMsocHandshake
      else false
  | .google =>
      length = sslServerGoogleHandshake.length ∧
        data.take sslServerGoogleHandshake.length = sslServerGoogleHandshake

/-- The answer has its length, and all that is not free is as expected. -/
def Answers (compatibility : NicePseudoSSLSocketCompatibility) (data : Bytes) (length : ℕ) :
    Prop :=
  length = (serverHandshake compatibility).length ∧
    ∀ i < length, ¬ Free compatibility i → data[i]? = (serverHandshake compatibility)[i]?

lemma take_eq_iff {α : Type*} (l t : List α) :
    l.take t.length = t ↔ ∀ i < t.length, l[i]? = t[i]? := by
  constructor
  · intro h i hi
    have hget := congrArg (fun l => l[i]?) h
    rwa [List.getElem?_take, if_pos hi] at hget
  · intro h
    apply List.ext_getElem?
    intro i
    rw [List.getElem?_take]
    split
    · exact h i ‹_›
    · exact (List.getElem?_eq_none (by omega)).symm

/-- The table has zeroes where the answer is free. -/
lemma sslServerMsocHandshake_free :
    ∀ i < sslServerMsocHandshake.length, Free .msoc i → sslServerMsocHandshake[i]? = some 0 := by
  decide

/-- **What is compared**: the length, and all the bytes that are not free. -/
theorem serverHandshakeValid_iff {compatibility : NicePseudoSSLSocketCompatibility} {data : Bytes}
    (hdata : (serverHandshake compatibility).length ≤ data.length) (length : ℕ) :
    serverHandshakeValid compatibility data length = true ↔ Answers compatibility data length := by
  cases compatibility with
  | google =>
      rw [serverHandshakeValid, decide_eq_true_iff, take_eq_iff, Answers]
      refine and_congr_right fun hlen => ?_
      rw [hlen]
      exact forall₂_congr fun i hi => ⟨fun h _ => h, fun h => h id⟩
  | msoc =>
      rw [serverHandshakeValid, Answers]
      by_cases hlen : length = sslServerMsocHandshake.length
      swap
      · rw [if_neg hlen]
        exact iff_of_false Bool.false_ne_true fun h => hlen h.1
      rw [if_pos hlen, decide_eq_true_iff, take_eq_iff, hlen]
      refine Iff.trans (forall₂_congr fun i hi => ?_) (and_iff_right rfl).symm
      have hsome : i < data.length := lt_of_lt_of_le hi hdata
      rw [List.getElem?_mapIdx, List.getElem?_mapIdx, List.getElem?_eq_getElem hsome]
      by_cases hfree : Free .msoc i
      · have hzero : ((some data[i]).map fun b =>
            if 11 ≤ i ∧ i < 11 + 32 then (0 : UInt8) else b).map
              (fun b => if 44 ≤ i ∧ i < 44 + 32 then 0 else b) = some 0 := by
          rcases hfree with h | h
          · simp [h]
          · simp [h]
        rw [hzero, sslServerMsocHandshake_free i hi hfree]
        exact iff_of_true rfl fun hno => absurd hfree hno
      · obtain ⟨h1, h2⟩ := not_or.mp hfree
        simp only [if_neg h1, if_neg h2, Option.map_some]
        exact ⟨fun h _ => h, fun h => h hfree⟩

/-! ### The socket -/

/-- A `PseudoSSLPriv`, with whether the base socket is there, and the messages that it was given. -/
structure PseudoSSLPriv where
  handshaken : Bool
  baseSocket : Bool
  sendQueue : List NiceSocketQueuedSend
  compatibility : NicePseudoSSLSocketCompatibility
  sent : List Bytes

/-- `nice_pseudossl_socket_new`. -/
def nicePseudosslSocketNew (compatibility : NicePseudoSSLSocketCompatibility) : PseudoSSLPriv :=
  { handshaken := false
    baseSocket := true
    sendQueue := []
    compatibility
    sent := [clientHandshake compatibility] }

/-- What a receive finds: the value of the receive of the base socket, what the local array holds
then, and how long the message is. -/
structure RecvEnv where
  ret : ℤ
  data : Vector UInt8 83
  length : ℕ

/-- `socket_recv_messages`. -/
def socketRecvMessages (env : RecvEnv) (priv : PseudoSSLPriv) : ℤ × PseudoSSLPriv :=
  if priv.handshaken then
    if priv.baseSocket then (env.ret, priv) else (0, priv)
  else
    let ret := if priv.baseSocket then env.ret else -1
    if ret ≤ 0 then (ret, priv)
    else if ret = 1 ∧ serverHandshakeValid priv.compatibility env.data.toList env.length then
      (0, { priv with
        handshaken := true
        sent := priv.sent ++ niceSocketFlushSendQueue priv.sendQueue
        sendQueue := [] })
    else (-1, { priv with baseSocket := false })

/-- The fast path of both functions; the base socket comes back with `ret`. -/
def passThrough (ret : ℤ) (messages : List NiceOutputMessage) (priv : PseudoSSLPriv) :
    ℤ × PseudoSSLPriv :=
  if priv.baseSocket then (ret, { priv with sent := priv.sent ++ messages.map (·.data) })
  else (-1, priv)

/-- `socket_send_messages`. -/
def socketSendMessages (ret : ℤ) (messages : List NiceOutputMessage) (priv : PseudoSSLPriv) :
    ℤ × PseudoSSLPriv :=
  if priv.handshaken then passThrough ret messages priv else (0, priv)

/-- `socket_send_messages_reliable`.  The messages are queued also when the handshake has failed. -/
def socketSendMessagesReliable (ret : ℤ) (messages : List NiceOutputMessage)
    (priv : PseudoSSLPriv) : ℤ × PseudoSSLPriv :=
  if priv.handshaken then passThrough ret messages priv
  else (intOfSize messages.length,
    { priv with sendQueue := niceSocketQueueSend priv.sendQueue messages })

/-! ### Runs -/

/-- A call of the application. -/
inductive PseudoSSLEvent where
  | recv (env : RecvEnv)
  | send (ret : ℤ) (messages : List NiceOutputMessage)
  | sendReliable (ret : ℤ) (messages : List NiceOutputMessage)

namespace PseudoSSLEvent

/-- The socket after the call. -/
def next (priv : PseudoSSLPriv) : PseudoSSLEvent → PseudoSSLPriv
  | recv env => (socketRecvMessages env priv).2
  | send ret messages => (socketSendMessages ret messages priv).2
  | sendReliable ret messages => (socketSendMessagesReliable ret messages priv).2

/-- The messages that the socket takes from the call. -/
def taken (priv : PseudoSSLPriv) : PseudoSSLEvent → List Bytes
  | recv _ => []
  | send _ messages => if priv.handshaken then messages.map (·.data) else []
  | sendReliable _ messages =>
      if priv.handshaken then messages.map (·.data)
      else (messages.map (·.data)).filter (· ≠ [])

/-- The server answers with its handshake. -/
def Answered (compatibility : NicePseudoSSLSocketCompatibility) : PseudoSSLEvent → Prop
  | recv env => Answers compatibility env.data.toList env.length
  | _ => False

end PseudoSSLEvent

/-- The socket after some calls, and the messages that it has taken. -/
def run (priv : PseudoSSLPriv) (events : List PseudoSSLEvent) : PseudoSSLPriv × List Bytes :=
  runCalls PseudoSSLEvent.next PseudoSSLEvent.taken priv events

/-- What a socket keeps to that has taken the messages of `given` and passed those of `delivered`
on. -/
structure Tunnel (compatibility : NicePseudoSSLSocketCompatibility) (events : List PseudoSSLEvent)
    (given delivered : List Bytes) (priv : PseudoSSLPriv) : Prop where
  same : priv.compatibility = compatibility
  base : priv.handshaken = true → priv.baseSocket = true
  gated : Gated [clientHandshake compatibility] (priv.handshaken = true) priv.sendQueue given
    delivered priv.sent
  answered : priv.handshaken = true → ∃ event ∈ events, event.Answered compatibility

namespace Tunnel

variable {compatibility : NicePseudoSSLSocketCompatibility} {events : List PseudoSSLEvent}
  {given delivered : List Bytes} {priv : PseudoSSLPriv}

/-- More calls that leave the socket as it is. -/
lemma more (h : Tunnel compatibility events given delivered priv) (event : PseudoSSLEvent) :
    Tunnel compatibility (events ++ [event]) given delivered priv where
  __ := h
  answered hst := by
    obtain ⟨e, he, hanswered⟩ := h.answered hst
    exact ⟨e, List.mem_append_left _ he, hanswered⟩

/-- A receive. -/
lemma recv (env : RecvEnv) (h : Tunnel compatibility events given delivered priv) :
    ∃ delivered, Tunnel compatibility (events ++ [.recv env]) given delivered
      (socketRecvMessages env priv).2 := by
  have hmore := h.more (.recv env)
  rw [socketRecvMessages]
  by_cases hst : priv.handshaken = true
  · rw [if_pos hst, if_pos (h.base hst)]
    exact ⟨_, hmore⟩
  rw [if_neg hst]
  dsimp only
  by_cases hwait : (if priv.baseSocket then env.ret else -1) ≤ 0
  · rw [if_pos hwait]
    exact ⟨_, hmore⟩
  rw [if_neg hwait]
  by_cases hvalid : (if priv.baseSocket then env.ret else -1) = 1 ∧
      serverHandshakeValid priv.compatibility env.data.toList env.length = true
  · rw [if_pos hvalid]
    have hbase : priv.baseSocket = true := by
      by_contra hno
      rw [if_neg hno] at hwait
      omega
    have hanswers : Answers compatibility env.data.toList env.length := by
      rw [h.same] at hvalid
      refine (serverHandshakeValid_iff ?_ env.length).mp hvalid.2
      rw [Vector.length_toList]
      cases compatibility <;> decide
    exact ⟨_,
      { same := h.same
        base := fun _ => hbase
        gated := h.gated.flush hst rfl
        answered := fun _ => ⟨.recv env, by simp, hanswers⟩ }⟩
  · rw [if_neg hvalid]
    exact ⟨_,
      { same := h.same
        base := fun hno => absurd hno hst
        gated := h.gated
        answered := hmore.answered }⟩

/-- The fast path. -/
lemma passThrough (h : Tunnel compatibility events given delivered priv)
    (hst : priv.handshaken = true) (ret : ℤ) (messages : List NiceOutputMessage) :
    Tunnel compatibility events (given ++ messages.map (·.data))
      (delivered ++ messages.map (·.data)) (passThrough ret messages priv).2 := by
  rw [PseudoSSL.passThrough, if_pos (h.base hst)]
  exact
    { same := h.same
      base := h.base
      gated := h.gated.pass hst _
      answered := h.answered }

/-- **One call** keeps the order of what the base socket is given. -/
theorem next (event : PseudoSSLEvent) (h : Tunnel compatibility events given delivered priv) :
    ∃ delivered, Tunnel compatibility (events ++ [event]) (given ++ event.taken priv) delivered
      (event.next priv) := by
  have hmore := h.more event
  cases event with
  | recv env =>
      rw [PseudoSSLEvent.taken, List.append_nil]
      exact h.recv env
  | send ret messages =>
      rw [PseudoSSLEvent.taken, PseudoSSLEvent.next, socketSendMessages]
      by_cases hst : priv.handshaken = true
      · rw [if_pos hst, if_pos hst]
        exact ⟨_, hmore.passThrough hst ret messages⟩
      · rw [if_neg hst, if_neg hst, List.append_nil]
        exact ⟨_, hmore⟩
  | sendReliable ret messages =>
      rw [PseudoSSLEvent.taken, PseudoSSLEvent.next, socketSendMessagesReliable]
      by_cases hst : priv.handshaken = true
      · rw [if_pos hst, if_pos hst]
        exact ⟨_, hmore.passThrough hst ret messages⟩
      · rw [if_neg hst, if_neg hst]
        exact ⟨_,
          { same := h.same
            base := h.base
            gated := h.gated.hold hst messages
            answered := hmore.answered }⟩

/-- Every run keeps it. -/
theorem run (compatibility : NicePseudoSSLSocketCompatibility) (events : List PseudoSSLEvent) :
    ∃ delivered, Tunnel compatibility events
      (run (nicePseudosslSocketNew compatibility) events).2 delivered
      (run (nicePseudosslSocketNew compatibility) events).1 := by
  refine runCalls_induction (P := fun events given priv => ∃ delivered,
    Tunnel compatibility events given delivered priv)
    ⟨[], { same := rfl
           base := fun _ => rfl
           gated := ⟨rfl, rfl, fun _ => rfl, fun _ => rfl⟩
           answered := fun hno => by cases hno }⟩ (fun events given priv event ih => ?_) events
  obtain ⟨delivered, h⟩ := ih
  exact h.next event

end Tunnel

/-- **The messages follow the handshake of the client, each of them once and in the order of the
calls, and only after the server has answered with its own**: what the base socket was given is the
handshake and the messages that were passed on; these and the ones that wait are those that the
socket has taken. -/
theorem pseudossl_in_order (compatibility : NicePseudoSSLSocketCompatibility)
    (events : List PseudoSSLEvent) :
    ∃ delivered : List Bytes,
      let socket := run (nicePseudosslSocketNew compatibility) events
      socket.1.sent = clientHandshake compatibility :: delivered ∧
      delivered ++ socket.1.sendQueue.map (·.buf) = socket.2 ∧
      (delivered ≠ [] → socket.1.handshaken = true) ∧
      (socket.1.handshaken = true →
        socket.1.sendQueue = [] ∧ ∃ event ∈ events, event.Answered compatibility) := by
  obtain ⟨delivered, h⟩ := Tunnel.run compatibility events
  refine ⟨delivered, h.gated.sent_eq, h.gated.order, fun hne => ?_,
    fun hst => ⟨h.gated.clear hst, h.answered hst⟩⟩
  exact not_not.mp fun hst => hne (h.gated.quiet hst)

end LibNice.Socket.PseudoSSL
