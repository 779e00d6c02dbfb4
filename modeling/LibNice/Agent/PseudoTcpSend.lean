import LibNice.PseudoTcp.SendQueue
import LibNice.PseudoTcp.Window
import LibNice.Socket.ByteStream

/-!
`pseudo_tcp_socket_send_messages` of `agent/agent.c`: messages into the send stream of a
pseudo-TCP socket.

* `sendBuffers`, `sendMessagesFrom`, `pseudoTcpSocketSendMessages`: the function.
* `Writable`, `send_writable`: an open socket, and what it takes of one buffer.
* `Stalls`, `Whole`: the messages that are sent as a whole or not at all.
* `sendMessagesFrom_whole`, `sendMessagesFrom_partial`: the two ways to send, from any message on.
* `send_messages_iff`: **the returned number says what was sent**, exactly under this condition.
-/

namespace LibNice.Agent

open LibNice.Foundation LibNice.PseudoTcp
open LibNice.Socket (NiceOutputMessage outputMessageGetSize outputMessageGetSize_eq GIOErrorEnum)
open LibNice.Stun (intOfSize)

/-! ### The function -/

/-- How the loop over the buffers of a message ends: behind the last one, with `goto out`, or
with an error. -/
inductive BuffersEnd where
  | done
  | out
  | failed (error : GIOErrorEnum)
deriving DecidableEq, Repr

/-- What a buffer that was not taken does to the loop. -/
def refusedEnd (error : Option Errno) : BuffersEnd :=
  if error = some .EWOULDBLOCK then .out
  else if error = some .ENOTCONN ∨ error = some .EPIPE then .failed .wouldBlock
  else .failed .failed

/-- The loop over the buffers of a message, with `bytes_sent` and the number of calls of
`pseudo_tcp_socket_send` so far.  The size of a buffer is cut to the 32 bits of its argument. -/
def sendBuffers (env : ℕ → Env) : List Bytes → PseudoTcpSocket → ℤ → ℕ →
    Except Abort (PseudoTcpSocket × ℤ × ℕ × BuffersEnd)
  | [], self, bytesSent, calls => .ok (self, bytesSent, calls, .done)
  | buffer :: buffers, self, bytesSent, calls => do
      let (self, ret) ← self.send (env calls) (buffer.take (buffer.length % 2 ^ 32))
      if ret < 0 then return (self, bytesSent, calls + 1, refusedEnd self.error)
      else sendBuffers env buffers self ((bytesSent + ret).bmod (2 ^ 32)) (calls + 1)

/-- The loop over the messages from message `i` on: what is returned, and the `GError`. -/
def sendMessagesFrom (env : ℕ → Env) (allowPartial : Bool) :
    List NiceOutputMessage → ℕ → PseudoTcpSocket → ℤ → ℕ →
      Except Abort (PseudoTcpSocket × ℤ × Option GIOErrorEnum)
  | [], i, self, bytesSent, _ =>
      .ok (self, if allowPartial then bytesSent else intOfSize i, none)
  | message :: messages, i, self, bytesSent, calls => do
      let (checked, space) := self.getAvailableSendSpace
      let self := if allowPartial then self else checked
      if ¬ allowPartial ∧ outputMessageGetSize message > space then
        return (self, intOfSize i, none)
      else
        match ← sendBuffers env message.visited self bytesSent calls with
        | (self, bytesSent, calls, .done) =>
            sendMessagesFrom env allowPartial messages (i + 1) self bytesSent calls
        | (self, bytesSent, _, .out) =>
            return (self, if allowPartial then bytesSent else intOfSize i, none)
        | (self, _, _, .failed error) => return (self, -1, some error)

/-- `pseudo_tcp_socket_send_messages`. -/
def pseudoTcpSocketSendMessages (env : ℕ → Env) (self : PseudoTcpSocket)
    (messages : List NiceOutputMessage) (allowPartial : Bool) :
    Except Abort (PseudoTcpSocket × ℤ × Option GIOErrorEnum) :=
  sendMessagesFrom env allowPartial messages 0 self 0 0

/-! ### One buffer -/

/-- An open socket and the bounds of its send buffer. -/
structure Writable (s : PseudoTcpSocket) : Prop where
  state : s.state = .established
  wf : s.sbuf.Wf
  size : s.sbuf.bufferLength < 2 ^ 32

variable {env : ℕ → Env} {s t u : PseudoTcpSocket} {buffers : List Bytes}
  {bytesSent n : ℤ} {calls calls' i : ℕ} {stop : BuffersEnd} {data : Bytes}

/-- The sockets of a run have such a send buffer. -/
lemma run_writable {conversation : UInt32} {supportFinAck : Bool} {rmemory smemory : ℕ → UInt8}
    {es : List Event}
    (h : Run Step (pseudoTcpSocketNew conversation supportFinAck rmemory smemory) es s)
    (hstate : s.state = .established) : Writable s := by
  obtain ⟨sent, unsent, fins, hq⟩ := run_invariant
    (fun _ _ _ _ ht hc => PseudoTcpSocket.Called.queued ht hc)
    (PseudoTcpSocket.new_queued conversation supportFinAck rmemory smemory) h
  exact ⟨hstate, hq.wf, hq.size⟩

/-- A socket after `sent` was added to its stream. -/
structure Added (s : PseudoTcpSocket) (sent : Bytes) (t : PseudoTcpSocket) : Prop where
  writable : Writable t
  contents : t.sbuf.contents = s.sbuf.contents ++ sent
  room : t.sbuf.getWriteRemaining + sent.length = s.sbuf.getWriteRemaining

lemma Added.refl (h : Writable s) : Added s [] s := ⟨h, (List.append_nil _).symm, rfl⟩

lemma Added.trans {x y : Bytes} (h1 : Added s x t) (h2 : Added t y u) : Added s (x ++ y) u := by
  refine ⟨h2.writable, ?_, ?_⟩
  · rw [h2.contents, h1.contents, List.append_assoc]
  · rw [List.length_append, ← h1.room, ← h2.room]
    omega

lemma Added.of_eq {x : Bytes} (h : Added s x t) (hbuf : u.sbuf = t.sbuf)
    (hstate : u.state = t.state) : Added s x u where
  writable :=
    { state := hstate.trans h.writable.state
      wf := by rw [hbuf]; exact h.writable.wf
      size := by rw [hbuf]; exact h.writable.size }
  contents := by rw [hbuf]; exact h.contents
  room := by rw [hbuf]; exact h.room

/-- What is queued is added to the stream. -/
lemma queue_added (h : Writable s) (data : Bytes) :
    ∃ t, s.queue data FLAG_NONE = .ok (t, min data.length s.sbuf.getWriteRemaining) ∧
      Added s (data.take s.sbuf.getWriteRemaining) t ∧ t.error = s.error := by
  obtain ⟨fits, hfits⟩ : ∃ fits, fits = data.take s.sbuf.getWriteRemaining := ⟨_, rfl⟩
  have hroom : s.sbuf.getWriteRemaining = s.sbuf.bufferLength - s.sbuf.dataLength := rfl
  have hlen : fits.length = min data.length s.sbuf.getWriteRemaining := by
    rw [hfits, List.length_take, min_comm]
  have hbuf : (PseudoTcpSocket.pushSegment s.toOutgoing fits.length FLAG_NONE).sbuf = s.sbuf := by
    unfold PseudoTcpSocket.pushSegment PseudoTcpSocket.pushSegment.newSegment
    split
    · split <;> rfl
    · rfl
  obtain ⟨hcontents, hcount⟩ := PseudoTcpFifo.write_contents h.wf fits
  have hall : fits.take (s.sbuf.bufferLength - s.sbuf.dataLength) = fits :=
    List.take_of_length_le (by omega)
  rw [hall] at hcontents
  have hdata := congrArg List.length hcontents
  rw [List.length_append, PseudoTcpFifo.contents_length, PseudoTcpFifo.contents_length] at hdata
  rw [PseudoTcpSocket.queue_eq (.inr rfl)]
  dsimp only
  rw [← hfits, hbuf, hcount, ← hroom, hlen, min_assoc, min_self]
  refine ⟨_, rfl, ⟨⟨h.state, PseudoTcpFifo.write_wf h.wf _, ?_⟩, hcontents, ?_⟩, rfl⟩
  · rw [PseudoTcpFifo.write_bufferLength]
    exact h.size
  · dsimp only [PseudoTcpFifo.getWriteRemaining]
    rw [PseudoTcpFifo.write_bufferLength]
    omega

/-- What an open socket takes of a buffer: as much as there is room for. -/
lemma send_writable (h : Writable s) {env : Env} (hroom : s.sbuf.getWriteRemaining ≠ 0)
    (hsend : s.send env data = .ok (t, n)) :
    Added s (data.take s.sbuf.getWriteRemaining) t ∧ t.error = s.error ∧
      n = ((min data.length s.sbuf.getWriteRemaining : ℕ) : ℤ).bmod (2 ^ 32) := by
  obtain ⟨u, hu, hadded, herror⟩ := queue_added h data
  have hpost : Post (fun _ => True) (fun r => Added s (data.take s.sbuf.getWriteRemaining) r.1 ∧
      r.1.error = s.error ∧
        r.2 = ((min data.length s.sbuf.getWriteRemaining : ℕ) : ℤ).bmod (2 ^ 32))
      (s.send env data) := by
    rw [PseudoTcpSocket.send, if_neg (fun hno => hno h.state), if_neg hroom, hu]
    dsimp only [bind, Except.bind]
    refine Post.bind ((Post.of_forall fun v hv => hv).eq_ok) fun v hv => Post.pure ?_
    have hcore := (PseudoTcpSocket.attemptSend_core hv).1
    have hsbuf := PseudoTcpSocket.core_sbuf hcore
    have hlast := hadded.of_eq hsbuf (PseudoTcpSocket.core_state hcore)
    have hv' : v.error = s.error := (congrArg (·.error) hcore).trans herror
    dsimp only
    refine ⟨?_, ?_, rfl⟩
    · split
      · exact hlast.of_eq rfl rfl
      · exact hlast
    · split
      · exact hv'
      · exact hv'
  exact hpost.of_ok hsend

/-- A socket without room takes nothing, not even an empty buffer. -/
lemma send_full (h : Writable s) {env : Env} (hroom : s.sbuf.getWriteRemaining = 0) :
    s.send env data = .ok ({ s with bWriteEnable := true, error := some .EWOULDBLOCK }, -1) := by
  rw [PseudoTcpSocket.send, if_neg (fun hno => hno h.state), if_pos hroom]

/-! ### The buffers of a message -/

/-- The bytes of a buffer that are handed over. -/
def handed (buffer : Bytes) : Bytes := buffer.take (buffer.length % 2 ^ 32)

/-- The buffers leave a full send buffer in the way of their last one, which is empty. -/
def Stalls (room : ℕ) (buffers : List Bytes) : Prop :=
  buffers.flatten.length = room ∧ buffers.getLast? = some []

/-- A buffer of a size that is negative as a `gint`. -/
def Huge (buffers : List Bytes) : Prop := ∃ buffer ∈ buffers, 2 ^ 31 ≤ buffer.length

/-- The ends of the loop over buffers that fit: they were all taken, or an empty last one was
refused, or a size came back negative. -/
inductive BuffersSent (s : PseudoTcpSocket) (buffers : List Bytes) (t : PseudoTcpSocket) :
    BuffersEnd → Prop
  | all (hadded : Added s buffers.flatten t) (herror : t.error = s.error)
      (hhuge : ¬ Huge buffers) (hstalls : ¬ Stalls s.sbuf.getWriteRemaining buffers) :
      BuffersSent s buffers t .done
  | stalled (hadded : Added s buffers.flatten t)
      (hhuge : ¬ Huge buffers) (hstalls : Stalls s.sbuf.getWriteRemaining buffers) :
      BuffersSent s buffers t .out
  | negative {sent : Bytes} (hadded : Added s sent t) (hne : sent ≠ []) (hhuge : Huge buffers) :
      BuffersSent s buffers t (refusedEnd s.error)

/-- Whether the buffers behind one with room stall. -/
lemma stalls_cons {room : ℕ} {buffer : Bytes} (hroom : room ≠ 0) (hfit : buffer.length ≤ room) :
    Stalls room (buffer :: buffers) ↔ Stalls (room - buffer.length) buffers := by
  cases buffers with
  | nil =>
      refine ⟨?_, by rintro ⟨-, hlast⟩; cases hlast⟩
      rintro ⟨htotal, hlast⟩
      obtain rfl := Option.some.inj hlast
      exact absurd htotal.symm hroom
  | cons next buffers =>
      simp only [Stalls, List.flatten_cons, List.length_append, List.getLast?_cons_cons]
      exact and_congr (by omega) Iff.rfl

lemma huge_cons {buffer : Bytes} :
    Huge (buffer :: buffers) ↔ 2 ^ 31 ≤ buffer.length ∨ Huge buffers := by
  simp only [Huge, List.mem_cons, exists_eq_or_imp]

/-- **What the loop over the buffers of a message that fits does.** -/
lemma sendBuffers_fit (h : Writable s)
    (hfit : buffers.flatten.length ≤ s.sbuf.getWriteRemaining)
    (hsend : sendBuffers env buffers s bytesSent calls = .ok (t, n, calls', stop)) :
    BuffersSent s buffers t stop := by
  induction buffers generalizing s bytesSent calls with
  | nil =>
      cases hsend
      refine .all (.refl h) rfl ?_ ?_
      · rintro ⟨_, hmem, -⟩
        cases hmem
      · rintro ⟨-, hlast⟩
        cases hlast
  | cons buffer buffers ih =>
      have hsize := h.size
      have hspace : s.sbuf.getWriteRemaining = s.sbuf.bufferLength - s.sbuf.dataLength := rfl
      have hfit' := hfit
      rw [List.flatten_cons, List.length_append] at hfit'
      have hmod : buffer.length % 2 ^ 32 = buffer.length := Nat.mod_eq_of_lt (by omega)
      rw [sendBuffers, hmod, List.take_length] at hsend
      by_cases hroom : s.sbuf.getWriteRemaining = 0
      · rw [send_full h hroom] at hsend
        cases hsend
        have hnil : (buffer :: buffers).flatten = [] := List.eq_nil_of_length_eq_zero (by omega)
        have hempty := List.flatten_eq_nil_iff.mp hnil
        refine .stalled ?_ ?_ ⟨by rw [hnil, hroom]; rfl, ?_⟩
        · rw [hnil]
          exact (Added.refl h).of_eq rfl rfl
        · rintro ⟨big, hmem, hbig⟩
          rw [hempty big hmem] at hbig
          cases hbig
        · rw [List.getLast?_eq_some_getLast (List.cons_ne_nil _ _)]
          exact congrArg some (hempty _ (List.getLast_mem _))
      · cases hu : s.send (env calls) buffer with
        | error e =>
            rw [hu] at hsend
            cases hsend
        | ok r =>
            obtain ⟨u, ret⟩ := r
            obtain ⟨hadded, herror, hret⟩ := send_writable h hroom hu
            rw [hu] at hsend
            rw [List.take_of_length_le (by omega)] at hadded
            rw [min_eq_left (by omega)] at hret
            obtain ⟨hneg, -⟩ := bmod_neg_iff (k := buffer.length) (by omega)
            rw [← hret] at hneg
            dsimp only [bind, Except.bind] at hsend
            by_cases hbig : 2 ^ 31 ≤ buffer.length
            · rw [if_pos (hneg.mpr hbig)] at hsend
              cases hsend
              rw [herror]
              exact .negative hadded (List.ne_nil_of_length_pos (by omega))
                (huge_cons.mpr (.inl hbig))
            · rw [if_neg (fun hlt => hbig (hneg.mp hlt))] at hsend
              have hrest := hadded.room
              have hroom' : u.sbuf.getWriteRemaining =
                  s.sbuf.getWriteRemaining - buffer.length := by omega
              have hstalls : Stalls s.sbuf.getWriteRemaining (buffer :: buffers) ↔
                  Stalls u.sbuf.getWriteRemaining buffers :=
                hroom' ▸ stalls_cons hroom (by omega)
              have hhuge : Huge (buffer :: buffers) ↔ Huge buffers :=
                huge_cons.trans (or_iff_right hbig)
              cases ih hadded.writable (by omega) hsend with
              | all hadded' herror' hhuge' hstalls' =>
                  exact .all (hadded.trans hadded') (herror'.trans herror) (mt hhuge.mp hhuge')
                    (mt hstalls.mp hstalls')
              | stalled hadded' hhuge' hstalls' =>
                  exact .stalled (hadded.trans hadded') (mt hhuge.mp hhuge') (hstalls.mpr hstalls')
              | negative hadded' hne' hhuge' =>
                  rw [herror]
                  exact .negative (hadded.trans hadded') (List.append_ne_nil_of_right_ne_nil _ hne')
                    (hhuge.mpr hhuge')

/-! ### Whole messages -/

/-- The bytes of messages. -/
def contentsOf (messages : List NiceOutputMessage) : Bytes :=
  (messages.map NiceOutputMessage.data).flatten

/-- Message `j` is not sent as a whole or not at all: it fits behind the ones before it, but its
last buffer, an empty one, finds the send buffer full, or a size in it comes back negative and is
taken for the refusal that an earlier call has left in `error`. -/
def Breaks (room : ℕ) (error : Option Errno) (messages : List NiceOutputMessage) (j : ℕ) : Prop :=
  ∃ message, messages[j]? = some message ∧ message.data ≠ [] ∧
    (contentsOf (messages.take (j + 1))).length ≤ room ∧
      (Huge message.visited ∧ error = some .EWOULDBLOCK ∨
        (∀ m ∈ messages.take (j + 1), ¬ Huge m.visited) ∧
          (contentsOf (messages.take (j + 1))).length = room ∧
            message.visited.getLast? = some [])

variable {messages : List NiceOutputMessage} {message : NiceOutputMessage} {room j : ℕ}
  {error : Option Errno} {gerror : Option GIOErrorEnum}

@[simp] lemma contentsOf_nil : contentsOf [] = [] := rfl

@[simp] lemma contentsOf_cons :
    contentsOf (message :: messages) = message.data ++ contentsOf messages := rfl

/-- Behind a message that was sent the others break as if they were the only ones. -/
lemma breaks_succ (hfit : message.data.length ≤ room) (hhuge : ¬ Huge message.visited) :
    Breaks room error (message :: messages) (j + 1) ↔
      Breaks (room - message.data.length) error messages j := by
  simp only [Breaks, List.getElem?_cons_succ, List.take_succ_cons, contentsOf_cons,
    List.length_append, List.forall_mem_cons, hhuge, not_false_eq_true, true_and]
  refine exists_congr fun m => and_congr Iff.rfl (and_congr Iff.rfl (and_congr (by omega) ?_))
  exact or_congr Iff.rfl (and_congr Iff.rfl (and_congr (by omega) Iff.rfl))

/-- The first message breaks. -/
lemma breaks_zero :
    Breaks room error (message :: messages) 0 ↔ message.data ≠ [] ∧ message.data.length ≤ room ∧
      (Huge message.visited ∧ error = some .EWOULDBLOCK ∨
        ¬ Huge message.visited ∧ Stalls room message.visited) := by
  simp only [Breaks, List.getElem?_cons_zero, Option.some.injEq, exists_eq_left', zero_add,
    List.take_succ_cons, List.take_zero, contentsOf_cons, contentsOf_nil, List.append_nil,
    List.forall_mem_singleton, Stalls, NiceOutputMessage.data]

/-- The ends of the loop over the messages: a number of whole messages, an error, or a part of a
message. -/
inductive WholeEnd (s : PseudoTcpSocket) (messages : List NiceOutputMessage) (i : ℕ)
    (t : PseudoTcpSocket) : ℤ → Prop
  | whole {k : ℕ} (hk : k ≤ messages.length) (hadded : Added s (contentsOf (messages.take k)) t)
      (hno : ∀ j, ¬ Breaks s.sbuf.getWriteRemaining s.error messages j) :
      WholeEnd s messages i t (intOfSize (i + k))
  | failed {sent : Bytes} (hadded : Added s sent t)
      (hno : ∀ j, ¬ Breaks s.sbuf.getWriteRemaining s.error messages j) :
      WholeEnd s messages i t (-1)
  | part {j : ℕ} {sent : Bytes} (hj : j < messages.length) (hne : sent ≠ [])
      (hadded : Added s (contentsOf (messages.take j) ++ sent) t)
      (hbreaks : Breaks s.sbuf.getWriteRemaining s.error messages j)
      (hfirst : ∀ k < j, ¬ Breaks s.sbuf.getWriteRemaining s.error messages k) :
      WholeEnd s messages i t (intOfSize (i + j))

/-- A message that is too long for the room breaks nothing, nor does one behind it. -/
lemma not_breaks_long (hlong : room < message.data.length) :
    ¬ Breaks room error (message :: messages) j := by
  rintro ⟨_, -, -, hfit, -⟩
  rw [List.take_succ_cons, contentsOf_cons, List.length_append] at hfit
  omega

/-- What the check for room leaves. -/
lemma getAvailableSendSpace_eq (h : Writable s) :
    s.getAvailableSendSpace.2 = s.sbuf.getWriteRemaining ∧
      Added s [] s.getAvailableSendSpace.1 ∧ s.getAvailableSendSpace.1.error = s.error := by
  unfold PseudoTcpSocket.getAvailableSendSpace
  rw [if_pos h.state]
  refine ⟨rfl, ?_, ?_⟩
  · dsimp only
    split
    · exact (Added.refl h).of_eq rfl rfl
    · exact .refl h
  · dsimp only
    split <;> rfl

/-- The end of the loop behind a message that was sent. -/
lemma WholeEnd.cons (hsent : Added s message.data u) (herror : u.error = s.error)
    (hhuge : ¬ Huge message.visited)
    (hstalls : ¬ Stalls s.sbuf.getWriteRemaining message.visited)
    (h : WholeEnd u messages (i + 1) t n) : WholeEnd s (message :: messages) i t n := by
  have hroom := hsent.room
  have hfit : message.data.length ≤ s.sbuf.getWriteRemaining := by omega
  have hsucc (j : ℕ) : Breaks s.sbuf.getWriteRemaining s.error (message :: messages) (j + 1) ↔
      Breaks u.sbuf.getWriteRemaining u.error messages j := by
    rw [breaks_succ hfit hhuge, herror]
    exact iff_of_eq (congrArg (Breaks · _ _ _) (by omega))
  have hzero : ¬ Breaks s.sbuf.getWriteRemaining s.error (message :: messages) 0 := by
    rw [breaks_zero]
    rintro ⟨-, -, ⟨h, -⟩ | ⟨-, h⟩⟩
    · exact hhuge h
    · exact hstalls h
  have hall (hno : ∀ j, ¬ Breaks u.sbuf.getWriteRemaining u.error messages j) (j : ℕ) :
      ¬ Breaks s.sbuf.getWriteRemaining s.error (message :: messages) j := by
    cases j with
    | zero => exact hzero
    | succ j => exact mt (hsucc j).mp (hno j)
  cases h with
  | @whole k hk hadded hno =>
      rw [Nat.add_assoc, Nat.add_comm 1 k]
      exact .whole (Nat.succ_le_succ hk) (hsent.trans hadded) (hall hno)
  | failed hadded hno => exact .failed (hsent.trans hadded) (hall hno)
  | @part j sent hj hne hadded hbreaks hfirst =>
      rw [Nat.add_assoc, Nat.add_comm 1 j]
      refine .part (Nat.succ_lt_succ hj) hne ?_ ((hsucc j).mpr hbreaks) fun k hk => ?_
      · rw [List.take_succ_cons, contentsOf_cons, List.append_assoc]
        exact hsent.trans hadded
      · cases k with
        | zero => exact hzero
        | succ k => exact mt (hsucc k).mp (hfirst k (Nat.lt_of_succ_lt_succ hk))

/-- The end of the loop before anything was sent. -/
lemma WholeEnd.none (hadded : Added s [] t)
    (hno : ∀ j, ¬ Breaks s.sbuf.getWriteRemaining s.error messages j) :
    WholeEnd s messages i t (intOfSize i) := by
  rw [← Nat.add_zero i]
  exact .whole (Nat.zero_le _) hadded hno

/-- The end of the loop in the middle of the first message. -/
lemma WholeEnd.cut {sent : Bytes} (hadded : Added s sent t) (hne : sent ≠ [])
    (hbreaks : Breaks s.sbuf.getWriteRemaining s.error (message :: messages) 0) :
    WholeEnd s (message :: messages) i t (intOfSize i) := by
  rw [← Nat.add_zero i]
  exact .part (Nat.succ_pos _) hne hadded hbreaks fun k hk => absurd hk (Nat.not_lt_zero k)

/-- The end of the loop in a message whose last buffer, an empty one, was refused. -/
lemma WholeEnd.stalled (hadded : Added s message.data t) (hhuge : ¬ Huge message.visited)
    (hstalls : Stalls s.sbuf.getWriteRemaining message.visited) :
    WholeEnd s (message :: messages) i t (intOfSize i) := by
  have htotal : message.data.length = s.sbuf.getWriteRemaining := hstalls.1
  by_cases hnil : message.data = []
  · -- nothing but empty messages fits
    rw [hnil] at hadded htotal
    refine .none hadded fun j => ?_
    rintro ⟨m, hm, hne, hfit, -⟩
    have hempty : contentsOf ((message :: messages).take (j + 1)) = [] :=
      List.eq_nil_of_length_eq_zero (by rw [← htotal] at hfit; exact Nat.le_zero.mp hfit)
    refine hne (List.flatten_eq_nil_iff.mp hempty _ (List.mem_map_of_mem ?_))
    exact List.mem_of_getElem? (i := j) (by rw [List.getElem?_take, if_pos (by omega), hm])
  · exact .cut hadded hnil (breaks_zero.mpr ⟨hnil, htotal.le, .inr ⟨hhuge, hstalls⟩⟩)

/-- A refused buffer ends the loop. -/
lemma refusedEnd_cases (error : Option Errno) :
    refusedEnd error = .out ∨ ∃ gerr, refusedEnd error = .failed gerr := by
  unfold refusedEnd
  split
  · exact .inl rfl
  · split
    · exact .inr ⟨_, rfl⟩
    · exact .inr ⟨_, rfl⟩

/-- The end of the loop in a message of which a size came back negative. -/
lemma WholeEnd.negative {sent : Bytes} (hadded : Added s sent t) (hne : sent ≠ [])
    (hfit : message.data.length ≤ s.sbuf.getWriteRemaining) (hhuge : Huge message.visited) :
    WholeEnd s (message :: messages) i t
      (if refusedEnd s.error = .out then intOfSize i else -1) := by
  have hbig : message.data ≠ [] := by
    obtain ⟨buffer, hmem, hlen⟩ := hhuge
    intro hnil
    rw [List.flatten_eq_nil_iff.mp hnil buffer hmem] at hlen
    cases hlen
  by_cases herror : s.error = some .EWOULDBLOCK
  · rw [refusedEnd, if_pos herror, if_pos rfl]
    exact .cut hadded hne (breaks_zero.mpr ⟨hbig, hfit, .inl ⟨hhuge, herror⟩⟩)
  · have hout : refusedEnd s.error ≠ .out := by
      unfold refusedEnd
      rw [if_neg herror]
      split <;> exact BuffersEnd.noConfusion
    rw [if_neg hout]
    refine .failed hadded fun j => ?_
    rintro ⟨m, -, -, -, ⟨-, h⟩ | ⟨hno, -⟩⟩
    · exact herror h
    · exact hno message (List.mem_cons_self ..) hhuge

/-- A check for room makes no difference. -/
lemma WholeEnd.of_checked (hchecked : Added s [] u) (herror : u.error = s.error)
    (h : WholeEnd u messages i t n) : WholeEnd s messages i t n := by
  have hroom := hchecked.room
  rw [List.length_nil, Nat.add_zero] at hroom
  cases h with
  | whole hk hadded hno =>
      rw [hroom, herror] at hno
      exact .whole hk (hchecked.trans hadded) hno
  | failed hadded hno =>
      rw [hroom, herror] at hno
      exact .failed (hchecked.trans hadded) hno
  | part hj hne hadded hbreaks hfirst =>
      rw [hroom, herror] at hbreaks hfirst
      exact .part hj hne (hchecked.trans hadded) hbreaks hfirst

/-- **What the loop over the messages does without `allow_partial`.** -/
lemma sendMessagesFrom_whole (h : Writable s)
    (hsend : sendMessagesFrom env false messages i s bytesSent calls = .ok (t, n, gerror)) :
    WholeEnd s messages i t n := by
  induction messages generalizing i s bytesSent calls with
  | nil =>
      simp only [sendMessagesFrom, Bool.false_eq_true, if_false, Except.ok.injEq,
        Prod.mk.injEq] at hsend
      obtain ⟨rfl, rfl, -⟩ := hsend
      exact .none (.refl h) (by rintro j ⟨_, hj, -⟩; cases hj)
  | cons message messages ih =>
      obtain ⟨hspace, hchecked, herror⟩ := getAvailableSendSpace_eq h
      obtain ⟨⟨checked, space⟩, hcheck⟩ : ∃ r, s.getAvailableSendSpace = r := ⟨_, rfl⟩
      rw [hcheck] at hspace hchecked herror
      dsimp only at hspace hchecked herror
      rw [sendMessagesFrom, hcheck] at hsend
      simp only [Bool.false_eq_true, if_false, not_false_eq_true, true_and,
        outputMessageGetSize_eq, hspace] at hsend
      have hroom := hchecked.room
      rw [List.length_nil, Nat.add_zero] at hroom
      by_cases hlong : message.data.length > s.sbuf.getWriteRemaining
      · rw [if_pos hlong] at hsend
        simp only [pure, Except.pure, Except.ok.injEq, Prod.mk.injEq] at hsend
        obtain ⟨rfl, rfl, -⟩ := hsend
        exact .none hchecked fun j => not_breaks_long hlong
      rw [if_neg hlong] at hsend
      cases hb : sendBuffers env message.visited checked bytesSent calls with
      | error e =>
          rw [hb] at hsend
          cases hsend
      | ok r =>
          obtain ⟨u, sent, calls', stop⟩ := r
          rw [hb] at hsend
          have hfit : message.visited.flatten.length ≤ checked.sbuf.getWriteRemaining := by
            rw [hroom]
            exact Nat.le_of_not_gt hlong
          refine .of_checked hchecked herror ?_
          cases sendBuffers_fit hchecked.writable hfit hb with
          | all hadded herror hhuge hstalls =>
              exact .cons hadded herror hhuge hstalls (ih hadded.writable hsend)
          | stalled hadded hhuge hstalls =>
              simp only [bind, Except.bind, pure, Except.pure, Except.ok.injEq,
                Prod.mk.injEq] at hsend
              obtain ⟨rfl, rfl, -⟩ := hsend
              exact .stalled hadded hhuge hstalls
          | negative hadded hne hhuge =>
              have hend : WholeEnd checked (message :: messages) i u
                  (if refusedEnd checked.error = .out then intOfSize i else -1) :=
                .negative hadded hne hfit hhuge
              rcases refusedEnd_cases checked.error with hstop | ⟨gerr, hstop⟩
              · rw [hstop, if_pos rfl] at hend
                rw [hstop] at hsend
                simp only [bind, Except.bind, pure, Except.pure, Except.ok.injEq,
                  Prod.mk.injEq] at hsend
                obtain ⟨rfl, rfl, -⟩ := hsend
                exact hend
              · rw [hstop, if_neg BuffersEnd.noConfusion] at hend
                rw [hstop] at hsend
                simp only [bind, Except.bind, pure, Except.pure, Except.ok.injEq,
                  Prod.mk.injEq] at hsend
                obtain ⟨rfl, rfl, -⟩ := hsend
                exact hend

/-! ### Parts of messages -/

/-- What there is room for of the buffers. -/
def roomFor (room : ℕ) (buffers : List Bytes) : Bytes := (buffers.map handed).flatten.take room

/-- What a loop that started with `total` bytes sent, and with room for `sent`, did up to `t`. -/
structure Sends (s : PseudoTcpSocket) (sent : Bytes) (total : ℕ) (appended : Bytes)
    (t : PseudoTcpSocket) : Prop where
  added : Added s appended t
  all : total + sent.length < 2 ^ 31 → appended = sent
  many : 2 ^ 31 ≤ total + sent.length → 2 ^ 31 ≤ total + appended.length

lemma roomFor_cons {buffer : Bytes} (room : ℕ) :
    roomFor room (buffer :: buffers) =
      (handed buffer).take room ++ roomFor (room - (handed buffer).length) buffers := by
  rw [roomFor, List.map_cons, List.flatten_cons, List.take_append, roomFor]

lemma roomFor_append {rest : List Bytes} (room : ℕ) :
    roomFor room (buffers ++ rest) =
      roomFor room buffers ++ roomFor (room - (roomFor room buffers).length) rest := by
  rw [roomFor, List.map_append, List.flatten_append, List.take_append, roomFor, roomFor]
  congr 2
  rw [List.length_take]
  omega

lemma roomFor_zero (buffers : List Bytes) : roomFor 0 buffers = [] := List.take_zero

/-- A loop that did something and then something else. -/
lemma Sends.trans {x y a b : Bytes} {total : ℕ} (h1 : Sends s x total a t) (hadded : Added t b u)
    (h2 : a = x → Sends t y (total + a.length) b u) : Sends s (x ++ y) total (a ++ b) u where
  added := h1.added.trans hadded
  all h := by
    rw [List.length_append] at h
    obtain rfl := h1.all (by omega)
    rw [(h2 rfl).all (by omega)]
  many h := by
    rw [List.length_append] at h ⊢
    rcases Nat.lt_or_ge (total + x.length) (2 ^ 31) with hlt | hge
    · obtain rfl := h1.all hlt
      have := (h2 rfl).many (by omega)
      omega
    · have := h1.many hge
      omega

/-- A loop that did all of it. -/
lemma Sends.whole {x : Bytes} {total : ℕ} (h : Added s x t) : Sends s x total x t :=
  ⟨h, fun _ => rfl, id⟩

/-- A loop that has nothing more to do, or has done too much. -/
lemma Sends.rest {y : Bytes} {total : ℕ} (h : Writable s) (hy : total < 2 ^ 31 → y = []) :
    Sends s y total [] s where
  added := .refl h
  all hlt := (hy (by omega)).symm
  many hge := by
    by_contra hlt
    rw [hy (by simpa using hlt)] at hge
    exact hlt hge

/-- **What the loop over the buffers of a message does when they need not fit.** -/
lemma sendBuffers_partial {total : ℕ} (h : Writable s) (htotal : total < 2 ^ 31 → bytesSent = total)
    (hlt : bytesSent < 2 ^ 31)
    (hsend : sendBuffers env buffers s bytesSent calls = .ok (t, n, calls', stop)) :
    ∃ appended, Sends s (roomFor s.sbuf.getWriteRemaining buffers) total appended t ∧ n < 2 ^ 31 ∧
      (total + appended.length < 2 ^ 31 → n = (total + appended.length : ℕ) ∧
        (stop = .done ∨ stop = .out ∧ t.sbuf.getWriteRemaining = 0)) := by
  induction buffers generalizing s bytesSent calls total with
  | nil =>
      simp only [sendBuffers, Except.ok.injEq, Prod.mk.injEq] at hsend
      obtain ⟨rfl, rfl, -, rfl⟩ := hsend
      exact ⟨[], .rest h fun _ => List.take_nil, hlt, fun h => ⟨htotal h, .inl rfl⟩⟩
  | cons buffer buffers ih =>
      rw [sendBuffers] at hsend
      by_cases hroom : s.sbuf.getWriteRemaining = 0
      · rw [send_full h hroom] at hsend
        simp only [bind, Except.bind, pure, Except.pure] at hsend
        rw [if_pos (by decide)] at hsend
        simp only [Except.ok.injEq, Prod.mk.injEq] at hsend
        obtain ⟨rfl, rfl, -, rfl⟩ := hsend
        have hfull := (Added.refl h).of_eq (u := { s with
          bWriteEnable := true, error := some .EWOULDBLOCK }) rfl rfl
        rw [hroom, roomFor_zero]
        exact ⟨[], .whole hfull, hlt, fun h => ⟨htotal h, .inr ⟨rfl, rfl⟩⟩⟩
      · cases hu : s.send (env calls) (buffer.take (buffer.length % 2 ^ 32)) with
        | error e =>
            rw [hu] at hsend
            cases hsend
        | ok r =>
            obtain ⟨u, ret⟩ := r
            obtain ⟨hadded, herror, hret⟩ := send_writable h hroom hu
            rw [hu] at hsend
            dsimp only [bind, Except.bind] at hsend
            have hsize := h.size
            have hspace : s.sbuf.getWriteRemaining = s.sbuf.bufferLength - s.sbuf.dataLength := rfl
            obtain ⟨first, hfirst⟩ : ∃ first,
                first = (handed buffer).take s.sbuf.getWriteRemaining := ⟨_, rfl⟩
            have hlen : first.length = min (handed buffer).length s.sbuf.getWriteRemaining := by
              rw [hfirst, List.length_take, min_comm]
            replace hret : ret = (first.length : ℤ).bmod (2 ^ 32) := by
              rw [hlen]
              exact hret
            replace hadded : Added s first u := by
              rw [hfirst]
              exact hadded
            have hrest := hadded.room
            obtain ⟨hneg, hsame⟩ := bmod_neg_iff (k := first.length) (by omega)
            rw [← hret] at hneg hsame
            rw [roomFor_cons, ← hfirst]
            by_cases hbig : 2 ^ 31 ≤ first.length
            · rw [if_pos (hneg.mpr hbig)] at hsend
              simp only [pure, Except.pure, Except.ok.injEq, Prod.mk.injEq] at hsend
              obtain ⟨rfl, rfl, -, -⟩ := hsend
              refine ⟨first ++ [], (Sends.whole hadded).trans (.refl hadded.writable) fun _ =>
                .rest hadded.writable fun h => absurd h (by omega), hlt, fun h => ?_⟩
              rw [List.append_nil] at h
              omega
            · rw [if_neg (fun hlt => hbig (hneg.mp hlt))] at hsend
              have hret' := hsame (by omega)
              have htotal' : total + first.length < 2 ^ 31 →
                  (bytesSent + ret).bmod (2 ^ 32) = (total + first.length : ℕ) := by
                intro hlt
                rw [htotal (by omega), hret', ← Nat.cast_add]
                exact (bmod_neg_iff (by omega)).2 hlt
              obtain ⟨appended, hsends, hn, hend⟩ :=
                ih hadded.writable htotal' (Int.bmod_lt (by decide)) hsend
              refine ⟨first ++ appended, (Sends.whole hadded).trans hsends.added fun _ => ?_, hn,
                ?_⟩
              · rw [show s.sbuf.getWriteRemaining - (handed buffer).length =
                  u.sbuf.getWriteRemaining by omega]
                exact hsends
              · rw [List.length_append, ← Nat.add_assoc]
                exact hend

/-- **What the loop over the messages does with `allow_partial`.** -/
lemma sendMessagesFrom_partial {total : ℕ} (h : Writable s)
    (htotal : total < 2 ^ 31 → bytesSent = total) (hlt : bytesSent < 2 ^ 31)
    (hsend : sendMessagesFrom env true messages i s bytesSent calls = .ok (t, n, gerror)) :
    ∃ appended, Sends s (roomFor s.sbuf.getWriteRemaining
        (messages.flatMap NiceOutputMessage.visited)) total appended t ∧
      n < 2 ^ 31 ∧ (total + appended.length < 2 ^ 31 → n = (total + appended.length : ℕ)) := by
  induction messages generalizing i s bytesSent calls total with
  | nil =>
      simp only [sendMessagesFrom, if_true, Except.ok.injEq, Prod.mk.injEq] at hsend
      obtain ⟨rfl, rfl, -⟩ := hsend
      exact ⟨[], .rest h fun _ => List.take_nil, hlt, htotal⟩
  | cons message messages ih =>
      rw [sendMessagesFrom] at hsend
      simp only [not_true_eq_false, false_and, if_false, if_true] at hsend
      rw [List.flatMap_cons, roomFor_append]
      cases hb : sendBuffers env message.visited s bytesSent calls with
      | error e =>
          rw [hb] at hsend
          cases hsend
      | ok r =>
          obtain ⟨u, sent, calls', stop⟩ := r
          rw [hb] at hsend
          obtain ⟨first, hsends, hsent, hend⟩ := sendBuffers_partial h htotal hlt hb
          have hrest := hsends.added.room
          cases stop with
          | done =>
              have htotal' : total + first.length < 2 ^ 31 → sent = (total + first.length : ℕ) :=
                fun h => (hend h).1
              obtain ⟨appended, hsends', hn, hlast⟩ :=
                ih hsends.added.writable htotal' hsent hsend
              refine ⟨first ++ appended, hsends.trans hsends'.added fun hfirst => ?_, hn, ?_⟩
              · rw [← hfirst, show s.sbuf.getWriteRemaining - first.length =
                  u.sbuf.getWriteRemaining by omega]
                exact hsends'
              · rw [List.length_append, ← Nat.add_assoc]
                exact hlast
          | out =>
              simp only [bind, Except.bind, pure, Except.pure, Except.ok.injEq,
                Prod.mk.injEq] at hsend
              obtain ⟨rfl, rfl, -⟩ := hsend
              refine ⟨first ++ [], hsends.trans (.refl hsends.added.writable) fun hfirst =>
                .rest hsends.added.writable fun hlt => ?_, hsent, ?_⟩
              · obtain ⟨-, hno | ⟨-, hfull⟩⟩ := hend hlt
                · cases hno
                · rw [← hfirst, show s.sbuf.getWriteRemaining - first.length = 0 by omega,
                    roomFor_zero]
              · rw [List.append_nil]
                exact fun h => (hend h).1
          | failed gerr =>
              simp only [bind, Except.bind, pure, Except.pure, Except.ok.injEq,
                Prod.mk.injEq] at hsend
              obtain ⟨rfl, rfl, -⟩ := hsend
              have hmany : ¬ total + first.length < 2 ^ 31 := by
                intro h
                obtain ⟨-, hno | ⟨hno, -⟩⟩ := hend h
                · cases hno
                · cases hno
              refine ⟨first ++ [], hsends.trans (.refl hsends.added.writable) fun _ =>
                .rest hsends.added.writable fun h => absurd h hmany, by decide, fun h => ?_⟩
              rw [List.append_nil] at h
              exact absurd h hmany

/-! ### What was sent -/

/-- The returned number says what was appended to the stream: which messages, or with
`allow_partial` how many bytes. -/
def SentAs (allowPartial : Bool) (messages : List NiceOutputMessage) (n : ℤ) (appended : Bytes) :
    Prop :=
  if allowPartial then n = appended.length ∧ appended <+: contentsOf messages
  else 0 ≤ n → n ≤ messages.length ∧ appended = contentsOf (messages.take n.toNat)

/-- The condition for that: no message breaks; with `allow_partial` the sizes, cut to 32 bits,
lose nothing that there is room for, and this is less than 2^31 bytes. -/
def Whole (allowPartial : Bool) (room : ℕ) (error : Option Errno)
    (messages : List NiceOutputMessage) : Prop :=
  if allowPartial then
    let sent := roomFor room (messages.flatMap NiceOutputMessage.visited)
    sent.length < 2 ^ 31 ∧ sent <+: contentsOf messages
  else ∀ j < 2 ^ 31, ¬ Breaks room error messages j

/-- A number of messages, as a `gint`. -/
lemma intOfSize_cases {k : ℕ} (h : k < 2 ^ 32) :
    (k < 2 ^ 31 ∧ intOfSize k = k) ∨ (2 ^ 31 ≤ k ∧ intOfSize k < 0) := by
  obtain ⟨h1, h2⟩ := bmod_neg_iff h
  rcases Nat.lt_or_ge k (2 ^ 31) with hk | hk
  · exact .inl ⟨hk, h2 hk⟩
  · exact .inr ⟨hk, h1.mpr hk⟩

/-- What was appended is unique. -/
lemma appended_iff {x : Bytes} (h : Added s x t) {P : Bytes → Prop} :
    (∃ appended, t.sbuf.contents = s.sbuf.contents ++ appended ∧ P appended) ↔ P x := by
  refine ⟨?_, fun hx => ⟨x, h.contents, hx⟩⟩
  rintro ⟨y, hy, hP⟩
  rwa [List.append_cancel_left (h.contents.symm.trans hy)]

/-- Without `allow_partial`. -/
lemma whole_iff (hlen : messages.length < 2 ^ 32) (h : WholeEnd s messages 0 t n) :
    (∃ appended, t.sbuf.contents = s.sbuf.contents ++ appended ∧
        SentAs false messages n appended) ↔
      Whole false s.sbuf.getWriteRemaining s.error messages := by
  simp only [SentAs, Whole, Bool.false_eq_true, if_false]
  cases h with
  | @whole k hk hadded hno =>
      rw [appended_iff hadded, Nat.zero_add]
      refine iff_of_true (fun hn => ?_) fun j _ => hno j
      rcases intOfSize_cases (k := k) (by omega) with ⟨-, heq⟩ | ⟨-, hneg⟩
      · rw [heq, Int.toNat_natCast]
        exact ⟨Int.ofNat_le.mpr hk, rfl⟩
      · omega
  | failed hadded hno =>
      rw [appended_iff hadded]
      exact iff_of_true (fun hn => absurd hn (by decide)) fun j _ => hno j
  | @part j sent hj hne hadded hbreaks hfirst =>
      rw [appended_iff hadded, Nat.zero_add]
      rcases intOfSize_cases (k := j) (by omega) with ⟨hlt, heq⟩ | ⟨hge, hneg⟩
      · refine iff_of_false (fun hsent => ?_) fun hno => hno j hlt hbreaks
        rw [heq, Int.toNat_natCast] at hsent
        obtain ⟨-, hsame⟩ := hsent (Int.natCast_nonneg j)
        exact hne (List.append_right_eq_self.mp hsame)
      · exact iff_of_true (fun hn => absurd hn (not_le.mpr hneg)) fun k hk =>
          hfirst k (by omega)

/-- With `allow_partial`. -/
lemma partial_iff {appended : Bytes}
    (h : Sends s (roomFor s.sbuf.getWriteRemaining
      (messages.flatMap NiceOutputMessage.visited)) 0 appended t)
    (hlt : n < 2 ^ 31) (hn : 0 + appended.length < 2 ^ 31 → n = (0 + appended.length : ℕ)) :
    (∃ appended, t.sbuf.contents = s.sbuf.contents ++ appended ∧
        SentAs true messages n appended) ↔
      Whole true s.sbuf.getWriteRemaining s.error messages := by
  have hall := h.all
  have hmany := h.many
  rw [appended_iff h.added]
  simp only [SentAs, Whole, if_true, Nat.zero_add] at hn hall hmany ⊢
  generalize roomFor s.sbuf.getWriteRemaining (messages.flatMap NiceOutputMessage.visited) = sent
    at hall hmany
  rcases Nat.lt_or_ge sent.length (2 ^ 31) with hfew | hge
  · obtain rfl := hall hfew
    exact ⟨fun ⟨_, hsent⟩ => ⟨hfew, hsent⟩, fun ⟨_, hsent⟩ => ⟨hn hfew, hsent⟩⟩
  · have := hmany hge
    exact iff_of_false (fun ⟨heq, _⟩ => by omega) fun ⟨hfew, _⟩ => by omega

/-- **The returned number says what was sent**: by an open socket of any run, for all messages,
exactly when no message breaks, and with `allow_partial` when the sizes lose nothing. -/
theorem send_messages_iff (conversation : UInt32) (supportFinAck : Bool)
    (rmemory smemory : ℕ → UInt8) (es : List Event) (s : PseudoTcpSocket)
    (hrun : Run Step (pseudoTcpSocketNew conversation supportFinAck rmemory smemory) es s)
    (hstate : s.state = .established) (messages : List NiceOutputMessage)
    (hlen : messages.length < 2 ^ 32) (allowPartial : Bool) (env : ℕ → Env) (t : PseudoTcpSocket)
    (n : ℤ) (gerror : Option GIOErrorEnum)
    (hsend : pseudoTcpSocketSendMessages env s messages allowPartial = .ok (t, n, gerror)) :
    (∃ appended, t.sbuf.contents = s.sbuf.contents ++ appended ∧
        SentAs allowPartial messages n appended) ↔
      Whole allowPartial s.sbuf.getWriteRemaining s.error messages := by
  have hs := run_writable hrun hstate
  unfold pseudoTcpSocketSendMessages at hsend
  cases allowPartial with
  | false => exact whole_iff hlen (sendMessagesFrom_whole hs hsend)
  | true =>
      have htotal : 0 < 2 ^ 31 → (0 : ℤ) = (0 : ℕ) := fun _ => rfl
      obtain ⟨appended, hsends, hlt, hn⟩ :=
        sendMessagesFrom_partial hs htotal (by decide) hsend
      exact partial_iff hsends hlt hn

/-- The calls that open a socket whose send buffer has `size` bytes. -/
def openCalls (size : UInt32) : List (Env × Op) :=
  [(calmEnv, .setSndBuf size), (calmEnv, .connect),
    (calmEnv, .notifyPacket (connectReply 7 1000))]

/-- A message that fits, with an empty buffer behind it. -/
theorem send_messages_iff_sample :
    let memory : ℕ → UInt8 := fun _ => 0
    ∃ es s t, Run Step (pseudoTcpSocketNew 7 true memory memory) es s ∧
      s.sbuf.getWriteRemaining = 8 ∧
      pseudoTcpSocketSendMessages (fun _ => calmEnv) s
        [⟨[⟨some [1, 2, 3, 4, 5, 6, 7]⟩, ⟨some []⟩], 2⟩] false = .ok (t, 1, none) ∧
      ((∃ appended, t.sbuf.contents = s.sbuf.contents ++ appended ∧
        SentAs false [⟨[⟨some [1, 2, 3, 4, 5, 6, 7]⟩, ⟨some []⟩], 2⟩] 1 appended) ↔
      Whole false 8 s.error [⟨[⟨some [1, 2, 3, 4, 5, 6, 7]⟩, ⟨some []⟩], 2⟩]) := by
  intro memory
  have hobs : ((pseudoTcpSocketNew 7 true (fun _ => 0) (fun _ => 0)).callAll (openCalls 8)).map
      (fun s => (s.state, s.sbuf.getWriteRemaining,
        (pseudoTcpSocketSendMessages (fun _ => calmEnv) s
          [⟨[⟨some [1, 2, 3, 4, 5, 6, 7]⟩, ⟨some []⟩], 2⟩] false).map (·.2))) =
      .ok (.established, 8, .ok (1, none)) := by
    decide +kernel
  obtain ⟨s, hs, hobs⟩ := Post.exists_of_map hobs
  obtain ⟨es, hrun⟩ := run_of_callAll hs
  simp only [Prod.mk.injEq] at hobs
  obtain ⟨hstate, hroom, hsend⟩ := hobs
  obtain ⟨⟨t, r⟩, hsend, rfl⟩ := Post.exists_of_map hsend
  refine ⟨es, s, t, hrun, hroom, hsend, ?_⟩
  have h := send_messages_iff 7 true _ _ es s hrun hstate _ (by decide) false _ t 1 none hsend
  rwa [hroom] at h

/-- **A message is sent although it is not counted**: an empty buffer at its end finds the send
buffer full. -/
theorem send_messages_twice :
    let memory : ℕ → UInt8 := fun _ => 0
    ∃ es s t, Run Step (pseudoTcpSocketNew 7 true memory memory) es s ∧ s.state = .established ∧
      pseudoTcpSocketSendMessages (fun _ => calmEnv) s
        [⟨[⟨some [1, 2, 3, 4, 5, 6, 7]⟩, ⟨some []⟩], 2⟩] false = .ok (t, 0, none) ∧
      t.sbuf.contents = s.sbuf.contents ++ [1, 2, 3, 4, 5, 6, 7] := by
  intro memory
  have hobs : ((pseudoTcpSocketNew 7 true (fun _ => 0) (fun _ => 0)).callAll (openCalls 7)).map
      (fun s => (s.state, (pseudoTcpSocketSendMessages (fun _ => calmEnv) s
        [⟨[⟨some [1, 2, 3, 4, 5, 6, 7]⟩, ⟨some []⟩], 2⟩] false).map
          fun r => (decide (r.1.sbuf.contents = s.sbuf.contents ++ [1, 2, 3, 4, 5, 6, 7]), r.2))) =
      .ok (.established, .ok (true, 0, none)) := by
    decide +kernel
  obtain ⟨s, hs, hobs⟩ := Post.exists_of_map hobs
  obtain ⟨es, hrun⟩ := run_of_callAll hs
  simp only [Prod.mk.injEq] at hobs
  obtain ⟨hstate, hsend⟩ := hobs
  obtain ⟨⟨t, n, gerror⟩, hsend, ht⟩ := Post.exists_of_map hsend
  simp only [Prod.mk.injEq, decide_eq_true_eq] at ht
  obtain ⟨hcontents, rfl, rfl⟩ := ht
  exact ⟨es, s, t, hrun, hstate, hsend, hcontents⟩

end LibNice.Agent
