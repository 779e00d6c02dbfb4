import LibNice.PseudoTcp.ReceiveBuffer
import LibNice.PseudoTcp.Window
import LibNice.Agent.PendingIo
import LibNice.Socket.TcpBsd

/-!
`pseudo_tcp_socket_recv_messages` of `agent/agent.c`: messages out of the receive buffer of a
pseudo-TCP socket.

* `recvBuffer`, `recvBuffers`, `recvMessagesFrom`, `pseudoTcpSocketRecvMessages`: the function.
* `fill`: one flat stream into pieces of given sizes, and where it ends.
* `recvBuffers_spec`, `recvMessagesFrom_spec`: the loops fill the pieces that the iterator has
  not passed.
* `Flat`, `Flows`: messages that were filled as if they were one flat array, and the condition
  for that.
* `recv_messages_iff`: **the messages are filled as one flat array** exactly then.
-/

namespace LibNice.Agent

open LibNice.Foundation LibNice.PseudoTcp
open LibNice.Socket (NiceInputMessage GIOErrorEnum)
open LibNice.Stun (intOfSize)

/-! ### The function -/

/-- How a loop ends: behind its last round, with `goto done`, or when
`pseudo_tcp_socket_recv` returns the negative `len`. -/
inductive RecvEnd where
  | done
  | eos
  | refused (len : ℤ) (error : Option Errno)
deriving DecidableEq, Repr

/-- The bytes of a buffer after `bytes` were copied to the given offset. -/
def overwrite (buffer : Bytes) (offset : ℕ) (bytes : Bytes) : Bytes :=
  buffer.take offset ++ bytes ++ buffer.drop (offset + bytes.length)

/-- The `do … while (iter->offset < buffer->size)`, with `message->length` and the number of calls
of `pseudo_tcp_socket_recv` so far.  The room in the buffer is a `gsize` of 64 bits. -/
def recvBuffer (env : ℕ → Env) (size : ℕ) (self : PseudoTcpSocket) (buffer : Bytes)
    (offset length calls : ℕ) :
    Except Abort (PseudoTcpSocket × Bytes × ℕ × ℕ × ℕ × RecvEnd) :=
  match self.recv (env calls) ((size + 2 ^ 64 - offset) % 2 ^ 64) with
  | .error e => .error e
  | .ok (self, len, bytes) =>
      let buffer := overwrite buffer offset bytes
      if len = 0 then .ok (self, buffer, offset, length, calls + 1, .eos)
      else if len < 0 then
        .ok (self, buffer, offset, length, calls + 1, .refused len self.error)
      else if offset + len.toNat < size then
        recvBuffer env size self buffer (offset + len.toNat) (length + len.toNat) (calls + 1)
      else .ok (self, buffer, offset + len.toNat, length + len.toNat, calls + 1, .done)
termination_by size - offset

/-- The loop over the buffers of a message from `iter->buffer` on. -/
def recvBuffers (env : ℕ → Env) : List Bytes → PseudoTcpSocket → NiceInputMessageIter → ℕ → ℕ →
    Except Abort (PseudoTcpSocket × List Bytes × NiceInputMessageIter × ℕ × ℕ × RecvEnd)
  | [], self, iter, length, calls => .ok (self, [], iter, length, calls, .done)
  | buffer :: buffers, self, iter, length, calls => do
      match ← recvBuffer env buffer.length self buffer iter.offset length calls with
      | (self, buffer, _, length, calls, .done) =>
          let (self, buffers, iter, length, calls, stop) ← recvBuffers env buffers self
            { iter with buffer := iter.buffer + 1, offset := 0 } length calls
          return (self, buffer :: buffers, iter, length, calls, stop)
      | (self, buffer, offset, length, calls, stop) =>
          return (self, buffer :: buffers, { iter with offset }, length, calls, stop)

/-- The loop over the messages from `iter->message` on. -/
def recvMessagesFrom (env : ℕ → Env) : List NiceInputMessage → PseudoTcpSocket →
    NiceInputMessageIter → ℕ →
    Except Abort (PseudoTcpSocket × List NiceInputMessage × NiceInputMessageIter × RecvEnd)
  | [], self, iter, _ => .ok (self, [], iter, .done)
  | message :: messages, self, iter, calls => do
      let length := if iter.buffer = 0 ∧ iter.offset = 0 then 0 else message.length
      let (self, buffers, next, length, calls, stop) ←
        recvBuffers env (message.buffers.drop iter.buffer) self iter length calls
      let message : NiceInputMessage :=
        { buffers := message.buffers.take iter.buffer ++ buffers, length }
      if stop = .done then
        let (self, messages, iter, stop) ← recvMessagesFrom env messages self
          { message := next.message + 1, buffer := 0, offset := next.offset } calls
        return (self, message :: messages, iter, stop)
      else return (self, message :: messages, next, stop)

/-- What the function returns, with the `GError`. -/
def recvResult (iter : NiceInputMessageIter) : RecvEnd → ℤ × Option GIOErrorEnum
  | .done | .eos => (intOfSize (niceInputMessageIterGetNValidMessages iter), none)
  | .refused len error =>
      if error = some .EWOULDBLOCK then
        if niceInputMessageIterGetNValidMessages iter > 0 then
          (intOfSize (niceInputMessageIterGetNValidMessages iter), none)
        else (len, some .wouldBlock)
      else if error = some .ENOTCONN then (len, some .wouldBlock)
      else (len, some .failed)

/-- `pseudo_tcp_socket_recv_messages`. -/
def pseudoTcpSocketRecvMessages (env : ℕ → Env) (self : PseudoTcpSocket)
    (messages : List NiceInputMessage) (iter : NiceInputMessageIter) :
    Except Abort (PseudoTcpSocket × List NiceInputMessage × NiceInputMessageIter × ℤ ×
      Option GIOErrorEnum) := do
  let (self, received, next, stop) ←
    recvMessagesFrom env (messages.drop iter.message) self iter 0
  return (self, messages.take iter.message ++ received, next, recvResult next stop)

/-! ### A flat stream into pieces -/

/-- How the filling of pieces ends: behind the last one, at one without room, in one that is not
filled, or at one that takes 2^31 bytes or more at once. -/
inductive FillEnd where
  | all
  | zero
  | short
  | huge
deriving DecidableEq, Repr

/-- How many of `avail` bytes go into pieces of the given sizes, one after another. -/
def fill : List ℕ → ℕ → ℕ × FillEnd
  | [], _ => (0, .all)
  | p :: pieces, avail =>
      if p = 0 then (0, .zero)
      else if 2 ^ 31 ≤ min avail p then (0, .huge)
      else if avail < p then (avail, .short)
      else (p + (fill pieces (avail - p)).1, (fill pieces (avail - p)).2)

variable {pieces : List ℕ} {avail p j : ℕ}

lemma fill_one (p avail : ℕ) :
    fill [p] avail = if p = 0 then (0, .zero) else if 2 ^ 31 ≤ min avail p then (0, .huge)
      else if avail < p then (avail, .short) else (p, .all) := rfl

lemma fill_le (pieces : List ℕ) (avail : ℕ) :
    (fill pieces avail).1 ≤ avail ∧ (fill pieces avail).1 ≤ pieces.sum := by
  induction pieces generalizing avail with
  | nil => exact ⟨Nat.zero_le _, le_rfl⟩
  | cons p pieces ih =>
      have := ih (avail - p)
      rw [fill, List.sum_cons]
      split_ifs
      · exact ⟨Nat.zero_le _, Nat.zero_le _⟩
      · exact ⟨Nat.zero_le _, Nat.zero_le _⟩
      · exact ⟨le_rfl, by dsimp only; omega⟩
      · dsimp only
        omega

/-- Behind the last piece all of them are full. -/
lemma fill_all (h : (fill pieces avail).2 = .all) : (fill pieces avail).1 = pieces.sum := by
  induction pieces generalizing avail with
  | nil => rfl
  | cons p pieces ih =>
      rw [fill] at h ⊢
      split_ifs at h ⊢
      rw [List.sum_cons]
      exact congrArg (p + ·) (ih h)

/-- A piece that keeps nothing back: if it has no room, the bytes or the room end there, and it
does not take too much at once. -/
def Passes (pieces : List ℕ) (avail j p : ℕ) : Prop :=
  (p = 0 → (pieces.take j).sum ≤ avail →
      avail = (pieces.take j).sum ∨ (pieces.drop j).sum = 0) ∧
    min (avail - (pieces.take j).sum) p < 2 ^ 31

/-- **All bytes that there is room for go into the pieces** exactly when no piece keeps
something back. -/
lemma fill_iff (pieces : List ℕ) (avail : ℕ) :
    (fill pieces avail).1 = min avail pieces.sum ∧ (fill pieces avail).2 ≠ .huge ↔
      ∀ j p, pieces[j]? = some p → Passes pieces avail j p := by
  induction pieces generalizing avail with
  | nil =>
      refine iff_of_true ⟨by simp [fill], FillEnd.noConfusion⟩ ?_
      rintro j p hj
      cases hj
  | cons q pieces ih =>
      have hsucc (j p : ℕ) (hq : q ≤ avail) : Passes (q :: pieces) avail (j + 1) p ↔
          Passes pieces (avail - q) j p := by
        simp only [Passes, List.take_succ_cons, List.drop_succ_cons, List.sum_cons]
        rw [show avail - (q + (pieces.take j).sum) = avail - q - (pieces.take j).sum by omega]
        refine and_congr ?_ Iff.rfl
        rw [show q + (pieces.take j).sum ≤ avail ↔ (pieces.take j).sum ≤ avail - q by omega,
          show avail = q + (pieces.take j).sum ↔ avail - q = (pieces.take j).sum by omega]
      have hsplit : (∀ j p, (q :: pieces)[j]? = some p → Passes (q :: pieces) avail j p) ↔
          Passes (q :: pieces) avail 0 q ∧
            ∀ j p, pieces[j]? = some p → Passes (q :: pieces) avail (j + 1) p := by
        refine ⟨fun h => ⟨h 0 q rfl, fun j p hj => h (j + 1) p hj⟩, ?_⟩
        rintro ⟨h0, hrest⟩ j p hj
        cases j with
        | zero =>
            obtain rfl := Option.some.inj hj
            exact h0
        | succ j => exact hrest j p hj
      rw [hsplit, fill, List.sum_cons]
      by_cases hzero : q = 0
      · subst hzero
        rw [if_pos rfl]
        have hstop : (∀ j p, pieces[j]? = some p → Passes (0 :: pieces) avail (j + 1) p) ∨
            ¬ (avail = 0 ∨ pieces.sum = 0) := by
          refine or_iff_not_imp_right.mpr fun h j p hj => ?_
          rw [not_not] at h
          simp only [Passes, List.take_succ_cons, List.drop_succ_cons, List.sum_cons, Nat.zero_add]
          have hsum := List.sum_take_add_sum_drop pieces j
          have hp : p ≤ (pieces.drop j).sum := by
            rw [List.drop_eq_getElem?_toList_append, hj]
            simp
          rcases h with rfl | h
          · exact ⟨fun _ _ => .inl (by omega), by omega⟩
          · exact ⟨fun _ _ => .inr (by omega), by omega⟩
        have hfirst : Passes (0 :: pieces) avail 0 0 ↔ avail = 0 ∨ pieces.sum = 0 := by
          simp [Passes]
        rw [hfirst]
        refine ⟨fun h => ?_, fun h => ⟨by dsimp only; omega, FillEnd.noConfusion⟩⟩
        have hend : avail = 0 ∨ pieces.sum = 0 := by
          have := h.1
          dsimp only at this
          omega
        exact ⟨hend, hstop.resolve_right (not_not.mpr hend)⟩
      by_cases hhuge : 2 ^ 31 ≤ min avail q
      · rw [if_neg hzero, if_pos hhuge]
        refine iff_of_false (fun h => h.2 rfl) fun h => ?_
        have := h.1.2
        simp only [List.take_zero, List.sum_nil, Nat.sub_zero] at this
        omega
      rw [if_neg hzero, if_neg hhuge]
      have hfirst : Passes (q :: pieces) avail 0 q := by
        refine ⟨fun h => absurd h hzero, ?_⟩
        rw [List.take_zero, List.sum_nil]
        omega
      by_cases hshort : avail < q
      · rw [if_pos hshort]
        refine iff_of_true ⟨by dsimp only; omega, FillEnd.noConfusion⟩
          ⟨hfirst, fun j p hj => ⟨fun _ h => ?_, ?_⟩⟩
        · rw [List.take_succ_cons, List.sum_cons] at h
          omega
        · rw [List.take_succ_cons, List.sum_cons]
          omega
      · rw [if_neg hshort]
        simp only [hfirst, true_and, hsucc _ _ (Nat.le_of_not_lt hshort), ← ih]
        exact and_congr (by omega) Iff.rfl

/-! ### One call -/

/-- An open socket and the bounds of its receive buffer. -/
structure Readable (s : PseudoTcpSocket) : Prop where
  isOpen : s.state = .established ∨ s.supportFinAck = true ∧ s.state ≠ .closed
  bounded : s.toIncoming.Bounded

/-- The peer's FIN was received, or reads were shut down. -/
def Ended (s : PseudoTcpSocket) : Prop :=
  s.supportFinAck = true ∧ (s.shutdownReads = true ∨ s.state.hasReceivedFin = true)

instance (s : PseudoTcpSocket) : Decidable (Ended s) := inferInstanceAs (Decidable (_ ∧ _))

variable {env : ℕ → Env} {s t u : PseudoTcpSocket} {bytes : Bytes} {n : ℤ} {len : ℕ}

/-- A socket after `bytes` were taken out of its receive buffer. -/
structure Took (s : PseudoTcpSocket) (bytes : Bytes) (t : PseudoTcpSocket) : Prop where
  readable : Readable t
  ended : Ended t ↔ Ended s
  contents : s.rbuf.contents = bytes ++ t.rbuf.contents

lemma Took.refl (h : Readable s) : Took s [] s := ⟨h, Iff.rfl, rfl⟩

lemma Took.trans {x y : Bytes} (h1 : Took s x t) (h2 : Took t y u) : Took s (x ++ y) u :=
  ⟨h2.readable, h2.ended.trans h1.ended, by rw [h1.contents, h2.contents, List.append_assoc]⟩

/-- Only the receive buffer and the flags matter. -/
lemma Took.of_eq (h : Took s bytes t) (hbuf : u.rbuf = t.rbuf) (hstate : u.state = t.state)
    (hsup : u.supportFinAck = t.supportFinAck) (hreads : u.shutdownReads = t.shutdownReads) :
    Took s bytes u where
  readable :=
    { isOpen := by rw [hstate, hsup]; exact h.readable.isOpen
      bounded := h.readable.bounded.of_eq hbuf }
  ended := by
    unfold Ended
    rw [hstate, hsup, hreads]
    exact h.ended
  contents := by rw [hbuf]; exact h.contents

/-- A call on a socket that has ended. -/
lemma recv_ended (h : Ended s) (env : Env) (len : ℕ) : s.recv env len = .ok (s, 0, []) := by
  unfold PseudoTcpSocket.recv
  exact if_pos h

/-- An open socket that has not ended gets past the checks. -/
lemma Readable.passes (h : Readable s) :
    ¬ (¬ s.supportFinAck = true ∧ s.isClosed = true) ∧
      ¬ (¬ s.supportFinAck = true ∧ s.state ≠ .established) := by
  rcases h.isOpen with hest | ⟨hfin, -⟩
  · refine ⟨?_, fun hno => hno.2 hest⟩
    rintro ⟨-, hclosed⟩
    rw [PseudoTcpSocket.isClosed, hest] at hclosed
    cases hclosed
  · exact ⟨fun hno => hno.1 hfin, fun hno => hno.1 hfin⟩

/-- A call without room. -/
lemma recv_zero (h : Readable s) (hended : ¬ Ended s) (env : Env) :
    s.recv env 0 = .ok (s, 0, []) := by
  obtain ⟨hclosed, hest⟩ := h.passes
  unfold Ended at hended
  unfold PseudoTcpSocket.recv
  rw [if_neg hended, if_neg hclosed, if_neg hest, if_pos rfl]

/-- What a call with room takes. -/
lemma recv_took (h : Readable s) (hended : ¬ Ended s) (env : Env) (hlen : len ≠ 0) :
    Post (fun _ => True) (fun r => r.2.2 = s.rbuf.contents.take len ∧ Took s r.2.2 r.1 ∧
      (r.2.2 = [] → r.2.1 = -1 ∧ r.1.error = some .EWOULDBLOCK) ∧
      (r.2.2 ≠ [] → r.2.1 = (r.2.2.length : ℤ).bmod (2 ^ 32))) (s.recv env len) := by
  obtain ⟨b, hread, hcons⟩ := PseudoTcpFifo.read_eq h.bounded.wf len
  have hcontents := PseudoTcpFifo.consumeReadData_contents hcons
  have hwf := PseudoTcpFifo.consumeReadData_wf h.bounded.wf hcons
  have hcap : b.bufferLength = s.rbuf.bufferLength := by
    obtain ⟨-, rfl⟩ := PseudoTcpFifo.consumeReadData_eq_ok.mp hcons
    rfl
  obtain ⟨bytes, hbytes⟩ : ∃ bytes, bytes = s.rbuf.contents.take len := ⟨_, rfl⟩
  have htook : Took s bytes { s with rbuf := b } := by
    refine ⟨⟨h.isOpen, hwf, lt_of_eq_of_lt hcap h.bounded.size⟩, Iff.rfl, ?_⟩
    refine Eq.trans ?_ (congrArg (bytes ++ ·) hcontents.symm)
    rw [hbytes, ← PseudoTcpFifo.contents_length, ← List.length_take]
    exact (List.prefix_iff_eq_append.mp (List.take_prefix _ _)).symm
  obtain ⟨hclosed, hest⟩ := h.passes
  unfold Ended at hended
  unfold PseudoTcpSocket.recv
  rw [if_neg hended, if_neg hclosed, if_neg hest, if_neg hlen, hread]
  dsimp only
  rw [← hbytes]
  obtain ⟨m, hm⟩ : ∃ m, m = (bytes.length : ℤ).bmod (2 ^ 32) := ⟨_, rfl⟩
  rw [← hm]
  have hlast {w : PseudoTcpSocket} (hw : Took s bytes w) (hne : ¬ bytes.length = 0) :
      bytes = bytes ∧ Took s bytes w ∧ (bytes = [] → m = -1 ∧ w.error = some .EWOULDBLOCK) ∧
        (bytes ≠ [] → m = (bytes.length : ℤ).bmod (2 ^ 32)) :=
    ⟨rfl, hw, fun hnil => absurd (congrArg List.length hnil) hne, fun _ => hm⟩
  have hwindow := htook.of_eq (u := { s with
    rbuf := b, rcvWnd := UInt32.ofNat b.getWriteRemaining }) rfl rfl rfl rfl
  refine Post.ite (fun h0 => Post.ok ?_) fun h0 => Post.ite (fun _ => Post.ite (fun _ => ?_)
    fun _ => Post.ok (hlast hwindow h0)) fun _ => Post.ok (hlast htook h0)
  · obtain rfl := List.eq_nil_of_length_eq_zero h0
    exact ⟨rfl, htook.of_eq rfl rfl rfl rfl, fun _ => ⟨rfl, rfl⟩, fun hne => absurd rfl hne⟩
  · refine Post.bind ((Post.of_forall fun _ hv => hv).eq_ok) fun w hw => Post.pure (hlast ?_ h0)
    have hcore := (PseudoTcpSocket.attemptSend_core hw).1
    exact hwindow.of_eq
      (congrArg Incoming.rbuf (PseudoTcpSocket.core_incoming hcore))
      (PseudoTcpSocket.core_state hcore) (PseudoTcpSocket.core_supportFinAck hcore)
      (congrArg (·.shutdownReads) hcore)

/-! ### One buffer -/

section buffer

variable {size offset length calls : ℕ} {buffer : Bytes}

lemma overwrite_nil (buffer : Bytes) (offset : ℕ) : overwrite buffer offset [] = buffer := by
  rw [overwrite, List.append_nil, List.length_nil, Nat.add_zero, List.take_append_drop]

@[simp] lemma overwrite_length (h : offset + bytes.length ≤ buffer.length) :
    (overwrite buffer offset bytes).length = buffer.length := by
  simp only [overwrite, List.length_append, List.length_take, List.length_drop]
  omega

/-- How a loop ends when the filling of the pieces does. -/
def EndsAs : FillEnd → RecvEnd → Prop
  | .all, stop => stop = .done
  | .zero, stop => stop = .eos
  | .short, stop => stop = .refused (-1) (some .EWOULDBLOCK)
  | .huge, stop => ∃ len error, len < 0 ∧ stop = .refused len error

/-- The loop ends normally only behind a full piece. -/
lemma endsAs_done {stop : FillEnd} (h : EndsAs stop .done) : stop = .all := by
  cases stop with
  | all => rfl
  | zero => cases h
  | short => cases h
  | huge =>
      obtain ⟨_, _, -, h⟩ := h
      cases h

/-- The room that a socket sees: none once it has ended. -/
def seen (s : PseudoTcpSocket) (p : ℕ) : ℕ := if Ended s then 0 else p

/-- A buffer after the loop over it, from `offset` on: with the bytes that go into a piece of
this size, unless they are too many at once. -/
structure Received (s : PseudoTcpSocket) (buffer : Bytes) (offset length : ℕ) (filled : ℕ × FillEnd)
    (t : PseudoTcpSocket) (buffer' : Bytes) (offset' length' : ℕ) (stop : RecvEnd) : Prop where
  next : offset' = offset + filled.1
  stops : EndsAs filled.2 stop
  took : filled.2 ≠ .huge → Took s (s.rbuf.contents.take filled.1) t
  written : filled.2 ≠ .huge →
    buffer' = overwrite buffer offset (s.rbuf.contents.take filled.1)
  counted : filled.2 ≠ .huge → length' = length + filled.1

/-- The loop that gets nothing. -/
lemma recvBuffer_empty (h : Readable s) (hended : ¬ Ended s) (hroom : offset < size)
    (hsize : size < 2 ^ 64) (hnil : s.rbuf.contents = []) :
    Post (fun _ => True) (fun r => Took s [] r.1 ∧ r.2.1 = buffer ∧ r.2.2.1 = offset ∧
      r.2.2.2.1 = length ∧ r.2.2.2.2.2 = .refused (-1) (some .EWOULDBLOCK))
      (recvBuffer env size s buffer offset length calls) := by
  rw [recvBuffer]
  have hroom' : (size + 2 ^ 64 - offset) % 2 ^ 64 = size - offset := by omega
  rw [hroom']
  have hpost := recv_took h hended (env calls) (show size - offset ≠ 0 by omega)
  cases hr : s.recv (env calls) (size - offset) with
  | error e => exact Post.error trivial
  | ok r =>
      obtain ⟨t, n, bytes⟩ := r
      obtain ⟨hbytes, htook, hempty, -⟩ := hpost.of_ok hr
      dsimp only at hbytes htook hempty ⊢
      rw [hnil, List.take_nil] at hbytes
      subst hbytes
      obtain ⟨rfl, herror⟩ := hempty rfl
      rw [if_neg (by decide), if_pos (by decide), herror]
      exact Post.ok ⟨htook, overwrite_nil _ _, rfl, rfl, rfl⟩

/-- Without room nothing is received. -/
lemma Received.zero (h : Readable s) :
    Received s buffer offset length (0, .zero) s buffer offset length .eos where
  next := rfl
  stops := rfl
  took _ := .refl h
  written _ := (overwrite_nil _ _).symm
  counted _ := rfl

/-- **The loop over a buffer fills one piece.** -/
lemma recvBuffer_spec (h : Readable s) (hoffset : offset ≤ size) (hsize : size < 2 ^ 64) :
    Post (fun _ => True) (fun r => Received s buffer offset length
        (fill [seen s (size - offset)] s.rbuf.contents.length) r.1 r.2.1 r.2.2.1 r.2.2.2.1
        r.2.2.2.2.2)
      (recvBuffer env size s buffer offset length calls) := by
  rw [recvBuffer]
  have hroom : (size + 2 ^ 64 - offset) % 2 ^ 64 = size - offset := by omega
  rw [hroom]
  by_cases hended : Ended s
  · rw [recv_ended hended, seen, if_pos hended]
    dsimp only
    rw [overwrite_nil, if_pos rfl]
    exact Post.ok (.zero h)
  rw [seen, if_neg hended]
  by_cases hfull : size - offset = 0
  · rw [hfull, recv_zero h hended]
    dsimp only
    rw [overwrite_nil, if_pos rfl]
    exact Post.ok (.zero h)
  have hpost := recv_took h hended (env calls) hfull
  cases hr : s.recv (env calls) (size - offset) with
  | error e => exact Post.error trivial
  | ok r =>
      obtain ⟨t, n, bytes⟩ := r
      obtain ⟨hbytes, htook, hempty, hsome⟩ := hpost.of_ok hr
      dsimp only at hbytes htook hempty hsome ⊢
      have hlen : bytes.length = min (size - offset) s.rbuf.contents.length := by
        rw [hbytes, List.length_take]
      have hbound : s.rbuf.contents.length < 2 ^ 32 := by
        have := h.bounded.wf.data
        have := h.bounded.size
        rw [PseudoTcpFifo.contents_length]
        omega
      by_cases hnil : bytes = []
      · -- there is nothing
        obtain ⟨rfl, herror⟩ := hempty hnil
        rw [hnil, List.length_nil] at hlen
        have havail : s.rbuf.contents.length = 0 := by omega
        subst hnil
        have hfill : fill [size - offset] s.rbuf.contents.length = (0, .short) := by
          rw [fill_one, if_neg hfull, havail, if_neg (by omega), if_pos (by omega)]
        rw [hfill, if_neg (by decide), if_pos (by decide), herror, overwrite_nil]
        exact Post.ok
          { next := rfl
            stops := rfl
            took := fun _ => htook
            written := fun _ => (overwrite_nil _ _).symm
            counted := fun _ => rfl }
      have hpos := List.length_pos_of_ne_nil hnil
      obtain ⟨hneg, hsame⟩ := bmod_neg_iff (k := bytes.length) (by omega)
      rw [← hsome hnil] at hneg hsame
      by_cases hbig : 2 ^ 31 ≤ bytes.length
      · -- too much comes back as a negative number
        have hn := hneg.mpr hbig
        have hfill : fill [size - offset] s.rbuf.contents.length = (0, .huge) := by
          rw [fill_one, if_neg hfull, if_pos (by omega)]
        rw [hfill, if_neg hn.ne, if_pos hn]
        exact Post.ok
          { next := rfl
            stops := ⟨_, _, hn, rfl⟩
            took := fun h => absurd rfl h
            written := fun h => absurd rfl h
            counted := fun h => absurd rfl h }
      obtain rfl := hsame (by omega)
      rw [if_neg (show ¬ (bytes.length : ℤ) = 0 by omega),
        if_neg (show ¬ (bytes.length : ℤ) < 0 by omega), Int.toNat_natCast]
      by_cases hshort : s.rbuf.contents.length < size - offset
      · -- the loop asks once more
        have hall : bytes = s.rbuf.contents := by
          rw [hbytes, List.take_of_length_le hshort.le]
        have hrest : t.rbuf.contents = [] := by
          have := htook.contents
          rw [hall] at this
          exact List.append_right_eq_self.mp this.symm
        have hended' : ¬ Ended t := fun h => hended (htook.ended.mp h)
        have hfill : fill [size - offset] s.rbuf.contents.length =
            (s.rbuf.contents.length, .short) := by
          rw [fill_one, if_neg hfull, if_neg (by omega), if_pos hshort]
        rw [hfill, if_pos (show offset + bytes.length < size by omega)]
        refine (recvBuffer_empty htook.readable hended' (by omega) hsize hrest).mono
          (fun _ h => h) ?_
        rintro ⟨v, buffer', offset', length', calls', stop⟩ ⟨hv, hbuffer, hoffset', hlength, hstop⟩
        dsimp only at hv hbuffer hoffset' hlength hstop ⊢
        have hv' := htook.trans hv
        rw [List.append_nil] at hv'
        have hwhole : s.rbuf.contents.take s.rbuf.contents.length = bytes := by
          rw [List.take_length, hall]
        rw [congrArg List.length hall] at hoffset' hlength
        exact
          { next := hoffset'
            stops := hstop
            took := fun _ => by
              show Took s (s.rbuf.contents.take s.rbuf.contents.length) v
              rwa [hwhole]
            written := fun _ => by
              show buffer' = overwrite buffer offset (s.rbuf.contents.take s.rbuf.contents.length)
              rw [hwhole, hbuffer]
            counted := fun _ => hlength }
      · -- the piece is full
        have hpiece : bytes.length = size - offset := by omega
        have hfill : fill [size - offset] s.rbuf.contents.length = (bytes.length, .all) := by
          rw [fill_one, if_neg hfull, if_neg (by omega), if_neg hshort, hpiece]
        rw [hfill, if_neg (show ¬ offset + bytes.length < size by omega)]
        rw [← hpiece] at hbytes
        exact Post.ok
          { next := rfl
            stops := rfl
            took := fun _ => by
              show Took s (s.rbuf.contents.take bytes.length) t
              rwa [← hbytes]
            written := fun _ => by
              show overwrite buffer offset bytes =
                overwrite buffer offset (s.rbuf.contents.take bytes.length)
              rw [← hbytes]
            counted := fun _ => rfl }

end buffer

/-! ### The buffers of a message -/

section buffers

variable {buffers : List Bytes} {iter : NiceInputMessageIter} {offset length calls : ℕ}

/-- The room in buffers, in the first one behind an offset. -/
def piecesOf (offset : ℕ) : List Bytes → List ℕ
  | [] => []
  | buffer :: buffers => (buffer.length - offset) :: buffers.map List.length

/-- An offset inside the first one of the buffers, which have sizes of 64 bits. -/
def Inside (offset : ℕ) : List Bytes → Prop
  | [] => offset = 0
  | buffer :: buffers =>
      offset ≤ buffer.length ∧ buffer.length < 2 ^ 64 ∧ ∀ b ∈ buffers, b.length < 2 ^ 64

/-- The pieces behind one that is full. -/
lemma fill_cons_all (pieces : List ℕ) (h : (fill [p] avail).2 = .all) :
    fill (p :: pieces) avail = (p + (fill pieces (avail - p)).1, (fill pieces (avail - p)).2) ∧
      (fill [p] avail).1 = p ∧ p ≠ 0 ∧ p ≤ avail := by
  rw [fill_one] at h ⊢
  rw [fill]
  split_ifs at h ⊢ with h0 h1 h2
  exact ⟨rfl, rfl, h0, by omega⟩

/-- A piece that is not full is the last one. -/
lemma fill_cons_stop (h : (fill [p] avail).2 ≠ .all) :
    fill (p :: pieces) avail = fill [p] avail := by
  rw [fill_one] at h ⊢
  rw [fill]
  split_ifs at h ⊢ with h0 h1 h2
  · rfl
  · rfl
  · rfl
  · exact absurd rfl h

/-- Bytes inside the first part. -/
lemma overwrite_left {x y : Bytes} (h : offset + bytes.length ≤ x.length) :
    overwrite (x ++ y) offset bytes = overwrite x offset bytes ++ y := by
  rw [overwrite, overwrite, List.take_append_of_le_length (by omega),
    List.drop_append_of_le_length h, List.append_assoc, List.append_assoc, List.append_assoc]

/-- Bytes that reach the end of the first part. -/
lemma overwrite_both {x y a b : Bytes} (h : offset + a.length = x.length) :
    overwrite (x ++ y) offset (a ++ b) = overwrite x offset a ++ overwrite y 0 b := by
  have hx : x.drop (offset + a.length) = [] := List.drop_eq_nil_of_le h.ge
  have hy : (x ++ y).drop (offset + (a ++ b).length) = y.drop b.length := by
    rw [List.length_append, ← Nat.add_assoc, h, List.drop_append]
    simp
  simp only [overwrite, hx, hy, List.take_append_of_le_length (show offset ≤ x.length by omega),
    List.append_nil, List.take_zero, List.nil_append, Nat.zero_add, List.append_assoc]

/-- The buffers after the loop over them. -/
structure ReceivedAll (s : PseudoTcpSocket) (buffers : List Bytes) (iter : NiceInputMessageIter)
    (length : ℕ) (filled : ℕ × FillEnd) (t : PseudoTcpSocket) (buffers' : List Bytes)
    (iter' : NiceInputMessageIter) (length' : ℕ) (stop : RecvEnd) : Prop where
  message : iter'.message = iter.message
  forward : iter.buffer ≤ iter'.buffer
  next : (buffers.take (iter'.buffer - iter.buffer)).flatten.length + iter'.offset =
    iter.offset + filled.1
  all : filled.2 = .all → iter'.buffer = iter.buffer + buffers.length ∧ iter'.offset = 0
  zero : filled.2 = .zero → ¬ Ended s → ∃ buffer,
    buffers[iter'.buffer - iter.buffer]? = some buffer ∧ iter'.offset = buffer.length
  stops : EndsAs filled.2 stop
  took : filled.2 ≠ .huge → Took s (s.rbuf.contents.take filled.1) t
  written : filled.2 ≠ .huge →
    buffers'.flatten = overwrite buffers.flatten iter.offset (s.rbuf.contents.take filled.1)
  sizes : filled.2 ≠ .huge → buffers'.map List.length = buffers.map List.length
  counted : filled.2 ≠ .huge → length' = length + filled.1

/-- What was taken first and what was taken then. -/
lemma took_both {k : ℕ} (c : ℕ)
    (h1 : Took s (s.rbuf.contents.take k) t) :
    s.rbuf.contents.take (k + c) = s.rbuf.contents.take k ++ t.rbuf.contents.take c ∧
      t.rbuf.contents.length = s.rbuf.contents.length - k := by
  have hrest : t.rbuf.contents = s.rbuf.contents.drop k :=
    List.append_cancel_left (h1.contents.symm.trans (List.take_append_drop k _).symm)
  rw [List.take_add, hrest, List.length_drop]
  exact ⟨rfl, rfl⟩

/-- A full buffer and those behind it. -/
lemma ReceivedAll.cons {buffer buffer' : Bytes} {buffers' : List Bytes}
    {iter' : NiceInputMessageIter} {length' : ℕ} {filled : ℕ × FillEnd} {stop : RecvEnd}
    (hoffset : iter.offset ≤ buffer.length)
    (hle : buffer.length - iter.offset ≤ s.rbuf.contents.length)
    (htook : Took s (s.rbuf.contents.take (buffer.length - iter.offset)) t)
    (hwritten : buffer' =
      overwrite buffer iter.offset (s.rbuf.contents.take (buffer.length - iter.offset)))
    (h : ReceivedAll t buffers { iter with buffer := iter.buffer + 1, offset := 0 }
      (length + (buffer.length - iter.offset)) filled u buffers' iter' length' stop) :
    ReceivedAll s (buffer :: buffers) iter length
      (buffer.length - iter.offset + filled.1, filled.2) u (buffer' :: buffers') iter' length'
      stop := by
  obtain ⟨hboth, -⟩ := took_both filled.1 htook
  have hforward : iter.buffer + 1 ≤ iter'.buffer := h.forward
  obtain ⟨j, hj⟩ : ∃ j, iter'.buffer = iter.buffer + 1 + j :=
    ⟨_, (Nat.add_sub_cancel' hforward).symm⟩
  have hindex : iter'.buffer - iter.buffer = j + 1 := by omega
  have hindex' : iter'.buffer - (iter.buffer + 1) = j := by omega
  have hlen : (s.rbuf.contents.take (buffer.length - iter.offset)).length =
      buffer.length - iter.offset := by
    rw [List.length_take, Nat.min_eq_left hle]
  constructor
  · exact h.message
  · omega
  · have hnext := h.next
    dsimp only at hnext ⊢
    rw [hindex'] at hnext
    rw [hindex, List.take_succ_cons, List.flatten_cons, List.length_append]
    omega
  · intro hall
    obtain ⟨hb, ho⟩ := h.all hall
    exact ⟨by rw [hb, List.length_cons]; dsimp only; omega, ho⟩
  · intro hzero hended
    obtain ⟨b, hb, ho⟩ := h.zero hzero fun hno => hended (htook.ended.mp hno)
    dsimp only at hb
    rw [hindex'] at hb
    rw [hindex]
    exact ⟨b, hb, ho⟩
  · exact h.stops
  · intro hhuge
    dsimp only
    rw [hboth]
    exact htook.trans (h.took hhuge)
  · intro hhuge
    dsimp only
    rw [hboth, List.flatten_cons, List.flatten_cons, overwrite_both (by omega), ← hwritten,
      h.written hhuge]
  · intro hhuge
    rw [List.map_cons, List.map_cons, h.sizes hhuge, hwritten, overwrite_length (by omega)]
  · intro hhuge
    rw [h.counted hhuge, Nat.add_assoc]

/-- A buffer that was not filled. -/
lemma ReceivedAll.stop {buffer buffer' : Bytes} {offset' length' : ℕ} {filled : ℕ × FillEnd}
    {stop : RecvEnd} (hoffset : iter.offset ≤ buffer.length) (hstop : filled.2 ≠ .all)
    (hle : filled.1 ≤ buffer.length - iter.offset)
    (hzero : filled.2 = .zero → ¬ Ended s → buffer.length - iter.offset = 0)
    (h : Received s buffer iter.offset length filled t buffer' offset' length' stop) :
    ReceivedAll s (buffer :: buffers) iter length filled t (buffer' :: buffers)
      { iter with offset := offset' } length' stop := by
  have hlen : (s.rbuf.contents.take filled.1).length ≤ filled.1 := List.length_take_le _ _
  constructor
  · rfl
  · exact le_rfl
  · simpa using h.next
  · exact fun hall => absurd hall hstop
  · intro hz hended
    have hnext := h.next
    have := hzero hz hended
    refine ⟨buffer, by simp, ?_⟩
    dsimp only
    omega
  · exact h.stops
  · exact h.took
  · intro hhuge
    rw [List.flatten_cons, List.flatten_cons, overwrite_left (by omega), ← h.written hhuge]
  · intro hhuge
    rw [List.map_cons, List.map_cons, h.written hhuge, overwrite_length (by omega)]
  · exact h.counted

lemma seen_congr (h : Ended t ↔ Ended s) : seen t = seen s := by
  funext p
  simp only [seen, h]

lemma inside_zero (h : ∀ b ∈ buffers, b.length < 2 ^ 64) : Inside 0 buffers := by
  cases buffers with
  | nil => rfl
  | cons buffer buffers =>
      rw [List.forall_mem_cons] at h
      exact ⟨Nat.zero_le _, h⟩

lemma piecesOf_zero (buffers : List Bytes) : piecesOf 0 buffers = buffers.map List.length := by
  cases buffers <;> rfl

/-- **The loop over the buffers of a message fills the pieces.** -/
lemma recvBuffers_spec (h : Readable s) (hinside : Inside iter.offset buffers) :
    Post (fun _ => True) (fun r => ReceivedAll s buffers iter length
        (fill ((piecesOf iter.offset buffers).map (seen s)) s.rbuf.contents.length)
        r.1 r.2.1 r.2.2.1 r.2.2.2.1 r.2.2.2.2.2)
      (recvBuffers env buffers s iter length calls) := by
  induction buffers generalizing s iter length calls with
  | nil =>
      have h0 : iter.offset = 0 := hinside
      exact Post.ok
        { message := rfl
          forward := le_rfl
          next := by simp [piecesOf, fill]
          all := fun _ => ⟨rfl, h0⟩
          zero := fun hz => by cases hz
          stops := rfl
          took := fun _ => .refl h
          written := fun _ => (overwrite_nil _ _).symm
          sizes := fun _ => rfl
          counted := fun _ => rfl }
  | cons buffer buffers ih =>
      obtain ⟨hoffset, hsize, hsizes⟩ := hinside
      rw [recvBuffers, piecesOf, List.map_cons]
      refine Post.bind (recvBuffer_spec h hoffset hsize) ?_
      rintro ⟨t, buffer', offset', length', calls', stop⟩ hone
      dsimp only at hone ⊢
      by_cases hall : (fill [seen s (buffer.length - iter.offset)] s.rbuf.contents.length).2 = .all
      · -- the piece is full, and the loop goes on behind it
        obtain ⟨hfill, hpiece, hne, hle⟩ :=
          fill_cons_all ((buffers.map List.length).map (seen s)) hall
        have hended : ¬ Ended s := fun hended => hne (by rw [seen, if_pos hended])
        have hseen (p : ℕ) : seen s p = p := by rw [seen, if_neg hended]
        have hnhuge : (fill [seen s (buffer.length - iter.offset)]
            s.rbuf.contents.length).2 ≠ .huge := by
          rw [hall]
          exact FillEnd.noConfusion
        have hstop := hone.stops
        have htook := hone.took hnhuge
        have hwritten := hone.written hnhuge
        have hcounted := hone.counted hnhuge
        rw [hall] at hstop
        obtain rfl : stop = .done := hstop
        rw [hpiece, hseen] at htook hwritten hcounted
        rw [hseen] at hle
        rw [hfill, hseen]
        obtain ⟨-, hleft⟩ := took_both 0 htook
        refine Post.bind (ih htook.readable ?_) fun r hr => Post.pure ?_
        · exact inside_zero hsizes
        dsimp only at hr
        rw [piecesOf_zero, seen_congr htook.ended, hleft, hcounted] at hr
        exact .cons hoffset hle htook hwritten hr
      · rw [fill_cons_stop hall]
        have hle := fill_le [seen s (buffer.length - iter.offset)] s.rbuf.contents.length
        have hseen : seen s (buffer.length - iter.offset) ≤ buffer.length - iter.offset := by
          rw [seen]
          split <;> omega
        have hgoal : ReceivedAll s (buffer :: buffers) iter length
            (fill [seen s (buffer.length - iter.offset)] s.rbuf.contents.length) t
            (buffer' :: buffers) { iter with offset := offset' } length' stop := by
          rw [List.sum_cons, List.sum_nil] at hle
          refine .stop hoffset hall (by omega) (fun hz hended => ?_) hone
          rw [fill_one] at hz
          split_ifs at hz with h0
          rwa [seen, if_neg hended] at h0
        cases stop with
        | done => exact absurd (endsAs_done hone.stops) hall
        | eos => exact Post.pure hgoal
        | refused len error => exact Post.pure hgoal

end buffers

/-! ### The messages -/

section messages

variable {messages : List NiceInputMessage} {message : NiceInputMessage}
  {iter iter' : NiceInputMessageIter} {offset length calls : ℕ} {buffers : List Bytes}

/-- The buffers of all messages as one array. -/
def flat (messages : List NiceInputMessage) : Bytes :=
  (messages.map fun message => message.buffers.flatten).flatten

/-- Where an iterator stands in that array. -/
def position (messages : List NiceInputMessage) (iter : NiceInputMessageIter) : ℕ :=
  (flat (messages.take iter.message)).length +
    ((messages[iter.message]?.map fun message =>
      (message.buffers.take iter.buffer).flatten.length).getD 0) + iter.offset

/-- The room in messages, in the first one from an iterator on. -/
def piecesFrom (iter : NiceInputMessageIter) : List NiceInputMessage → List ℕ
  | [] => []
  | message :: messages => piecesOf iter.offset (message.buffers.drop iter.buffer) ++
      messages.flatMap fun message => message.buffers.map List.length

/-- An iterator that stands in the first one of the messages, whose buffers have sizes of 64
bits. -/
def StandsIn (iter : NiceInputMessageIter) : List NiceInputMessage → Prop
  | [] => iter.buffer = 0 ∧ iter.offset = 0
  | message :: messages => iter.buffer ≤ message.buffers.length ∧
      Inside iter.offset (message.buffers.drop iter.buffer) ∧
        ∀ m ∈ messages, ∀ b ∈ m.buffers, b.length < 2 ^ 64

/-- How much of `count` bytes from `start` on is in message `i` of the array. -/
def placedIn (messages : List NiceInputMessage) (start count i : ℕ) : ℕ :=
  min (start + count) (flat (messages.take (i + 1))).length -
    max start (flat (messages.take i)).length

/-- What is in message `i` before: the first one may be filled in part. -/
def lengthBefore (messages : List NiceInputMessage) (iter : NiceInputMessageIter) (i : ℕ) : ℕ :=
  if i = 0 ∧ ¬ (iter.buffer = 0 ∧ iter.offset = 0) then
    (messages.head?.map NiceInputMessage.length).getD 0
  else 0

/-- The messages after the loop over them. -/
structure ReceivedMessages (s : PseudoTcpSocket) (messages : List NiceInputMessage)
    (iter : NiceInputMessageIter) (filled : ℕ × FillEnd) (t : PseudoTcpSocket)
    (messages' : List NiceInputMessage) (iter' : NiceInputMessageIter) (stop : RecvEnd) :
    Prop where
  forward : iter.message ≤ iter'.message
  forward' : iter'.message = iter.message → iter.buffer ≤ iter'.buffer
  next : position messages { iter' with message := iter'.message - iter.message } =
    position messages { iter with message := 0 } + filled.1
  all : filled.2 = .all → iter' = ⟨iter.message + messages.length, 0, 0⟩
  inside : filled.2 ≠ .all → iter'.message - iter.message < messages.length
  zero : filled.2 = .zero → ¬ Ended s → ∃ message buffer,
    messages[iter'.message - iter.message]? = some message ∧
      message.buffers[iter'.buffer]? = some buffer ∧ iter'.offset = buffer.length
  stops : EndsAs filled.2 stop
  took : filled.2 ≠ .huge → Took s (s.rbuf.contents.take filled.1) t
  written : filled.2 ≠ .huge → flat messages' =
    overwrite (flat messages) (position messages { iter with message := 0 })
      (s.rbuf.contents.take filled.1)
  sizes : filled.2 ≠ .huge → (messages'.map fun m => m.buffers.map List.length) =
    messages.map fun m => m.buffers.map List.length
  counted : filled.2 ≠ .huge → ∀ i message, messages'[i]? = some message →
    iter.message + i < niceInputMessageIterGetNValidMessages iter' →
      message.length = lengthBefore messages iter i +
        placedIn messages (position messages { iter with message := 0 }) filled.1 i

@[simp] lemma flat_nil : flat [] = [] := rfl

@[simp] lemma flat_cons : flat (message :: messages) = message.buffers.flatten ++ flat messages :=
  rfl

/-- Pieces behind others. -/
lemma fill_append (ps qs : List ℕ) (avail : ℕ) :
    ((fill ps avail).2 = .all →
      fill (ps ++ qs) avail = ((fill ps avail).1 + (fill qs (avail - (fill ps avail).1)).1,
        (fill qs (avail - (fill ps avail).1)).2)) ∧
    ((fill ps avail).2 ≠ .all → fill (ps ++ qs) avail = fill ps avail) := by
  induction ps generalizing avail with
  | nil => simp [fill]
  | cons p ps ih =>
      obtain ⟨ih1, ih2⟩ := ih (avail - p)
      simp only [List.cons_append, fill]
      split_ifs
      · exact ⟨nofun, fun _ => rfl⟩
      · exact ⟨nofun, fun _ => rfl⟩
      · exact ⟨nofun, fun _ => rfl⟩
      · refine ⟨fun h => ?_, fun h => ?_⟩
        · rw [ih1 h, Nat.add_assoc, Nat.sub_sub]
        · rw [ih2 h]

/-- Bytes behind the first part. -/
lemma overwrite_right (x y z : Bytes) (k : ℕ) :
    overwrite (x ++ y) (x.length + k) z = x ++ overwrite y k z := by
  rw [overwrite, overwrite, Nat.add_assoc, List.take_length_add_append,
    List.drop_length_add_append, List.append_assoc, List.append_assoc, List.append_assoc]

/-- The room in buffers. -/
lemma piecesOf_sum (h : Inside offset buffers) :
    (piecesOf offset buffers).sum + offset = buffers.flatten.length := by
  cases buffers with
  | nil =>
      rw [show offset = 0 from h]
      rfl
  | cons buffer buffers =>
      obtain ⟨hle, -⟩ := h
      rw [piecesOf, List.sum_cons, List.flatten_cons, List.length_append, List.length_flatten]
      omega

lemma seen_sum_le (s : PseudoTcpSocket) (ps : List ℕ) : (ps.map (seen s)).sum ≤ ps.sum := by
  induction ps with
  | nil => exact le_rfl
  | cons p ps ih =>
      have : seen s p ≤ p := by
        rw [seen]
        split
        · exact Nat.zero_le _
        · exact le_rfl
      rw [List.map_cons, List.sum_cons, List.sum_cons]
      omega

/-- Where an iterator stands in the first one of the messages. -/
lemma position_cons (messages : List NiceInputMessage) (b o : ℕ) :
    position (message :: messages) ⟨0, b, o⟩ = (message.buffers.take b).flatten.length + o := by
  simp [position]

/-- Where it stands in those behind. -/
lemma position_succ (k b o : ℕ) :
    position (message :: messages) ⟨k + 1, b, o⟩ =
      message.buffers.flatten.length + position messages ⟨k, b, o⟩ := by
  simp [position, Nat.add_assoc]

lemma position_begin (messages : List NiceInputMessage) : position messages ⟨0, 0, 0⟩ = 0 := by
  cases messages <;> simp [position]

lemma placedIn_zero (messages : List NiceInputMessage) (start count : ℕ) :
    placedIn (message :: messages) start count 0 =
      min (start + count) message.buffers.flatten.length - start := by
  simp [placedIn]

/-- What goes into a message behind one that is full then. -/
lemma placedIn_succ {start k : ℕ} (h : start + k = message.buffers.flatten.length) (count i : ℕ) :
    placedIn (message :: messages) start (k + count) (i + 1) = placedIn messages 0 count i := by
  simp only [placedIn, List.take_succ_cons, flat_cons, List.length_append]
  omega

lemma lengthBefore_zero (iter : NiceInputMessageIter) :
    lengthBefore (message :: messages) iter 0 =
      if iter.buffer = 0 ∧ iter.offset = 0 then 0 else message.length := by
  rw [lengthBefore]
  split_ifs with h1 h2 h2
  · exact absurd h2 h1.2
  · rfl
  · rfl
  · exact absurd ⟨rfl, h2⟩ h1

lemma lengthBefore_succ (iter : NiceInputMessageIter) (i : ℕ) :
    lengthBefore messages iter (i + 1) = 0 := if_neg fun h => absurd h.1 (Nat.succ_ne_zero i)

lemma lengthBefore_begin (k i : ℕ) : lengthBefore messages ⟨k, 0, 0⟩ i = 0 :=
  if_neg fun h => h.2 ⟨rfl, rfl⟩

/-- A message after the loop over its buffers. -/
lemma ReceivedAll.flatten {filled : ℕ × FillEnd} {buffers' : List Bytes} {length' : ℕ}
    {stop : RecvEnd} (h : ReceivedAll s (message.buffers.drop iter.buffer) iter length filled t
      buffers' iter' length' stop) (hhuge : filled.2 ≠ .huge) :
    (message.buffers.take iter.buffer ++ buffers').flatten = overwrite message.buffers.flatten
        ((message.buffers.take iter.buffer).flatten.length + iter.offset)
        (s.rbuf.contents.take filled.1) ∧
      (message.buffers.take iter.buffer ++ buffers').map List.length =
        message.buffers.map List.length := by
  refine ⟨?_, ?_⟩
  · conv_rhs => rw [← List.take_append_drop iter.buffer message.buffers, List.flatten_append]
    rw [List.take_append_drop, overwrite_right, List.flatten_append, h.written hhuge]
  · conv_rhs => rw [← List.take_append_drop iter.buffer message.buffers]
    rw [List.map_append, List.map_append, h.sizes hhuge]

/-- A message that is full, and those behind it. -/
lemma ReceivedMessages.cons {filled rest : ℕ × FillEnd} {buffers' : List Bytes}
    {messages' : List NiceInputMessage} {next : NiceInputMessageIter} {length' : ℕ}
    {stop : RecvEnd} (hall : filled.2 = .all) (hle : filled.1 ≤ s.rbuf.contents.length)
    (hone : ReceivedAll s (message.buffers.drop iter.buffer) iter
      (if iter.buffer = 0 ∧ iter.offset = 0 then 0 else message.length) filled t buffers' next
      length' .done)
    (hrest : ReceivedMessages t messages ⟨next.message + 1, 0, next.offset⟩ rest u messages' iter'
      stop) :
    ReceivedMessages s (message :: messages) iter (filled.1 + rest.1, rest.2) u
      (⟨message.buffers.take iter.buffer ++ buffers', length'⟩ :: messages') iter' stop := by
  have hhuge : filled.2 ≠ .huge := by
    rw [hall]
    exact FillEnd.noConfusion
  obtain ⟨hlast, hoffset⟩ := hone.all hall
  have hmessage := hone.message
  rw [hoffset, hmessage] at hrest
  obtain ⟨hboth, -⟩ := took_both rest.1 (hone.took hhuge)
  obtain ⟨hflat, hsizes⟩ := hone.flatten hhuge
  have hfull : (message.buffers.take iter.buffer).flatten.length + iter.offset + filled.1 =
      message.buffers.flatten.length := by
    have hnext := hone.next
    rw [hlast, Nat.add_sub_cancel_left, List.take_length, hoffset] at hnext
    conv_rhs => rw [← List.take_append_drop iter.buffer message.buffers, List.flatten_append,
      List.length_append]
    omega
  have hlen : (s.rbuf.contents.take filled.1).length = filled.1 := by
    rw [List.length_take, Nat.min_eq_left hle]
  have hforward := hrest.forward
  dsimp only at hforward
  obtain ⟨k, hk⟩ : ∃ k, iter'.message = iter.message + 1 + k :=
    ⟨_, (Nat.add_sub_cancel' hforward).symm⟩
  have hindex : iter'.message - iter.message = k + 1 := by omega
  have hindex' : iter'.message - (iter.message + 1) = k := by omega
  have hstart : position (message :: messages) { iter with message := 0 } =
      (message.buffers.take iter.buffer).flatten.length + iter.offset := position_cons ..
  constructor
  · omega
  · intro h
    omega
  · have hnext := hrest.next
    dsimp only at hnext
    rw [hindex', position_begin, Nat.zero_add] at hnext
    rw [hstart, hindex, position_succ, hnext]
    dsimp only
    omega
  · intro h
    rw [hrest.all h, List.length_cons]
    simp only [NiceInputMessageIter.mk.injEq, and_self, and_true]
    omega
  · intro h
    have hinside := hrest.inside h
    dsimp only at hinside
    rw [List.length_cons]
    omega
  · intro hzero hended
    obtain ⟨m, b, hm, hb, ho⟩ := hrest.zero hzero fun hno =>
      hended ((hone.took hhuge).ended.mp hno)
    dsimp only at hm
    rw [hindex'] at hm
    rw [hindex]
    exact ⟨m, b, hm, hb, ho⟩
  · exact hrest.stops
  · intro h
    dsimp only
    rw [hboth]
    exact (hone.took hhuge).trans (hrest.took h)
  · intro h
    have hwritten := hrest.written h
    dsimp only at hwritten
    rw [position_begin] at hwritten
    rw [hstart, hboth, flat_cons, flat_cons, overwrite_both (by omega), ← hflat, hwritten]
  · intro h
    rw [List.map_cons, List.map_cons, hrest.sizes h, hsizes]
  · intro h i m hm hi
    rw [hstart]
    cases i with
    | zero =>
        obtain rfl := Option.some.inj hm
        rw [placedIn_zero, lengthBefore_zero, hone.counted hhuge]
        dsimp only
        omega
    | succ i =>
        have hcounted := hrest.counted h i m hm (by dsimp only; omega)
        dsimp only at hcounted
        rw [lengthBefore_succ, placedIn_succ hfull, hcounted, lengthBefore_begin, position_begin]

/-- The loop that ends in a message. -/
lemma ReceivedMessages.stop {filled : ℕ × FillEnd} {buffers' : List Bytes}
    {next : NiceInputMessageIter} {length' : ℕ} {stop : RecvEnd}
    (hstop : filled.2 ≠ .all)
    (hle : iter.offset + filled.1 ≤ (message.buffers.drop iter.buffer).flatten.length)
    (hone : ReceivedAll s (message.buffers.drop iter.buffer) iter
      (if iter.buffer = 0 ∧ iter.offset = 0 then 0 else message.length) filled t buffers' next
      length' stop) :
    ReceivedMessages s (message :: messages) iter filled t
      (⟨message.buffers.take iter.buffer ++ buffers', length'⟩ :: messages) next stop := by
  have hmessage := hone.message
  have hforward := hone.forward
  have hindex : next.message - iter.message = 0 := by omega
  have hlen : (s.rbuf.contents.take filled.1).length ≤ filled.1 := List.length_take_le _ _
  have hsize : (message.buffers.take iter.buffer).flatten.length +
      (message.buffers.drop iter.buffer).flatten.length = message.buffers.flatten.length := by
    rw [← List.length_append, ← List.flatten_append, List.take_append_drop]
  have hstart : position (message :: messages) { iter with message := 0 } =
      (message.buffers.take iter.buffer).flatten.length + iter.offset := position_cons ..
  constructor
  · omega
  · exact fun _ => hforward
  · rw [hstart, hindex, position_cons, ← Nat.add_sub_cancel' hforward, List.take_add,
      List.flatten_append, List.length_append, Nat.add_assoc, hone.next, Nat.add_assoc]
  · exact fun h => absurd h hstop
  · intro _
    rw [hindex]
    exact Nat.succ_pos _
  · intro hzero hended
    obtain ⟨b, hb, ho⟩ := hone.zero hzero hended
    refine ⟨message, b, by rw [hindex]; rfl, ?_, ho⟩
    rw [List.getElem?_drop, Nat.add_sub_cancel' hforward] at hb
    exact hb
  · exact hone.stops
  · exact hone.took
  · intro h
    rw [hstart, flat_cons, flat_cons, overwrite_left (by omega), ← (hone.flatten h).1]
  · intro h
    rw [List.map_cons, List.map_cons, (hone.flatten h).2]
  · intro h i m hm hi
    rw [hstart]
    cases i with
    | zero =>
        obtain rfl := Option.some.inj hm
        rw [placedIn_zero, lengthBefore_zero, hone.counted h]
        dsimp only
        omega
    | succ i =>
        rw [niceInputMessageIterGetNValidMessages] at hi
        split at hi <;> omega

lemma standsIn_begin {k : ℕ} (h : ∀ m ∈ messages, ∀ b ∈ m.buffers, b.length < 2 ^ 64) :
    StandsIn ⟨k, 0, 0⟩ messages := by
  cases messages with
  | nil => exact ⟨rfl, rfl⟩
  | cons message messages =>
      rw [List.forall_mem_cons] at h
      exact ⟨Nat.zero_le _, inside_zero h.1, h.2⟩

lemma piecesFrom_begin (k : ℕ) (messages : List NiceInputMessage) :
    piecesFrom ⟨k, 0, 0⟩ messages =
      messages.flatMap fun message => message.buffers.map List.length := by
  cases messages with
  | nil => rfl
  | cons message messages => rw [piecesFrom, List.drop_zero, piecesOf_zero, List.flatMap_cons]

/-- **The loop over the messages fills the pieces.** -/
lemma recvMessagesFrom_spec (h : Readable s) (hstands : StandsIn iter messages) :
    Post (fun _ => True) (fun r => ReceivedMessages s messages iter
        (fill ((piecesFrom iter messages).map (seen s)) s.rbuf.contents.length)
        r.1 r.2.1 r.2.2.1 r.2.2.2)
      (recvMessagesFrom env messages s iter calls) := by
  induction messages generalizing s iter calls with
  | nil =>
      obtain ⟨hb, ho⟩ := hstands
      refine Post.ok
        { forward := le_rfl
          forward' := fun _ => le_rfl
          next := by simp [position, piecesFrom, fill]
          all := fun _ => ?_
          inside := fun h => absurd rfl h
          zero := nofun
          stops := rfl
          took := fun _ => .refl h
          written := fun _ => (overwrite_nil _ _).symm
          sizes := fun _ => rfl
          counted := fun _ i m hm => by cases hm }
      obtain ⟨k, b, o⟩ := iter
      dsimp only at hb ho ⊢
      rw [hb, ho]
      rfl
  | cons message messages ih =>
      obtain ⟨hbuffer, hinside, hsizes⟩ := hstands
      rw [recvMessagesFrom, piecesFrom, List.map_append]
      refine Post.bind (recvBuffers_spec h hinside) ?_
      rintro ⟨t, buffers', next, length', calls', stop⟩ hone
      dsimp only at hone ⊢
      obtain ⟨happend, happend'⟩ := fill_append ((piecesOf iter.offset
        (message.buffers.drop iter.buffer)).map (seen s))
        ((messages.flatMap fun message => message.buffers.map List.length).map (seen s))
        s.rbuf.contents.length
      obtain ⟨hle, hle'⟩ := fill_le ((piecesOf iter.offset
        (message.buffers.drop iter.buffer)).map (seen s)) s.rbuf.contents.length
      generalize fill ((piecesOf iter.offset (message.buffers.drop iter.buffer)).map (seen s))
        s.rbuf.contents.length = filled at hone happend happend' hle hle'
      by_cases hall : filled.2 = .all
      · have hstop := hone.stops
        rw [hall] at hstop
        obtain rfl : stop = .done := hstop
        have htook := hone.took (by rw [hall]; exact FillEnd.noConfusion)
        have hoffset := (hone.all hall).2
        obtain ⟨-, hleft⟩ := took_both 0 htook
        rw [happend hall, if_pos rfl]
        refine Post.bind (ih htook.readable ?_) fun r hr => Post.pure ?_
        · rw [hoffset]
          exact standsIn_begin hsizes
        · have hpieces : piecesFrom ⟨next.message + 1, 0, next.offset⟩ messages =
              messages.flatMap fun message => message.buffers.map List.length := by
            rw [hoffset]
            exact piecesFrom_begin _ _
          rw [hpieces, seen_congr htook.ended, hleft] at hr
          exact .cons hall hle hone hr
      · rw [happend' hall]
        have hsum := piecesOf_sum hinside
        have hseen := seen_sum_le s (piecesOf iter.offset (message.buffers.drop iter.buffer))
        have hgoal : ReceivedMessages s (message :: messages) iter filled t
            (⟨message.buffers.take iter.buffer ++ buffers', length'⟩ :: messages) next stop :=
          .stop hall (by omega) hone
        rw [if_neg fun (hdone : stop = .done) => hall (endsAs_done (hdone ▸ hone.stops))]
        exact Post.pure hgoal

end messages

/-! ### One flat array -/

section flat

variable {messages messages' : List NiceInputMessage} {iter iter' : NiceInputMessageIter}

/-- An iterator of an array of messages, whose buffers have sizes of 64 bits. -/
structure ValidIter (messages : List NiceInputMessage) (iter : NiceInputMessageIter) : Prop where
  le : iter.message ≤ messages.length
  stands : StandsIn iter (messages.drop iter.message)

/-- The messages were filled as if they were one flat array: with the next bytes of the stream
that there is room for, counted in the lengths of the messages up to the last valid one, the
iterator behind them, and the end of the stream reported only where it is. -/
structure Flat (s : PseudoTcpSocket) (messages : List NiceInputMessage)
    (iter : NiceInputMessageIter) (t : PseudoTcpSocket) (messages' : List NiceInputMessage)
    (iter' : NiceInputMessageIter) (ret : ℤ) : Prop where
  written : flat messages' = overwrite (flat messages) (position messages iter)
    (s.rbuf.contents.take ((flat messages).length - position messages iter))
  sizes : (messages'.map fun m => m.buffers.map List.length) =
    messages.map fun m => m.buffers.map List.length
  rest : t.rbuf.contents = s.rbuf.contents.drop ((flat messages).length - position messages iter)
  next : position messages iter' = position messages iter +
    min s.rbuf.contents.length ((flat messages).length - position messages iter)
  counted : ∀ i message', messages'[i]? = some message' → iter.message ≤ i →
    i < niceInputMessageIterGetNValidMessages iter' →
      message'.length = lengthBefore (messages.drop iter.message) iter (i - iter.message) +
        placedIn messages (position messages iter)
          (min s.rbuf.contents.length ((flat messages).length - position messages iter)) i
  ended : ret = 0 → Ended s

/-- The first buffer of all is an empty one, and the iterator stands at it. -/
def FirstEmpty (messages : List NiceInputMessage) (iter : NiceInputMessageIter) : Prop :=
  iter = ⟨0, 0, 0⟩ ∧ ∃ message, messages.head? = some message ∧ message.buffers.head? = some []

/-- The condition for that: a socket that has ended has no more bytes, or there is no room for
them; otherwise there is a message, the first buffer is not an empty one, and no piece of the
room keeps something back. -/
def Flows (s : PseudoTcpSocket) (messages : List NiceInputMessage) (iter : NiceInputMessageIter) :
    Prop :=
  let avail := s.rbuf.contents.length
  let pieces := piecesFrom iter (messages.drop iter.message)
  if Ended s then avail = 0 ∨ pieces.sum = 0
  else messages ≠ [] ∧ ¬ FirstEmpty messages iter ∧
    ∀ j p, pieces[j]? = some p → Passes pieces avail j p

/-- A socket that has ended sees no room at all. -/
lemma fill_ended (hended : Ended s) (pieces : List ℕ) (avail : ℕ) :
    (fill (pieces.map (seen s)) avail).1 = 0 ∧ (fill (pieces.map (seen s)) avail).2 ≠ .huge := by
  cases pieces with
  | nil => exact ⟨rfl, FillEnd.noConfusion⟩
  | cons p pieces =>
      rw [List.map_cons, seen, if_pos hended, fill, if_pos rfl]
      exact ⟨rfl, FillEnd.noConfusion⟩

/-- **All bytes that there is room for are received** exactly when they flow. -/
lemma fill_seen_iff (s : PseudoTcpSocket) (pieces : List ℕ) (avail : ℕ) :
    (fill (pieces.map (seen s)) avail).1 = min avail pieces.sum ∧
        (fill (pieces.map (seen s)) avail).2 ≠ .huge ↔
      if Ended s then avail = 0 ∨ pieces.sum = 0
      else ∀ j p, pieces[j]? = some p → Passes pieces avail j p := by
  by_cases hended : Ended s
  · obtain ⟨h1, h2⟩ := fill_ended hended pieces avail
    rw [if_pos hended, h1]
    refine ⟨fun h => ?_, fun h => ⟨?_, h2⟩⟩
    · have := h.1
      omega
    · omega
  · have hseen : seen s = id := by
      funext p
      rw [seen, if_neg hended]
      rfl
    rw [if_neg hended, hseen, List.map_id, fill_iff]

lemma flat_append (xs ys : List NiceInputMessage) : flat (xs ++ ys) = flat xs ++ flat ys := by
  rw [flat, List.map_append, List.flatten_append, flat, flat]

/-- Where an iterator stands in messages behind others. -/
lemma position_append {xs ys : List NiceInputMessage} {k b o : ℕ} :
    position (xs ++ ys) ⟨xs.length + k, b, o⟩ = (flat xs).length + position ys ⟨k, b, o⟩ := by
  simp only [position, List.take_length_add_append, flat_append, List.length_append,
    List.getElem?_append_right (Nat.le_add_right _ _), Nat.add_sub_cancel_left]
  omega

lemma placedIn_append {xs ys : List NiceInputMessage} (start count i : ℕ) :
    placedIn (xs ++ ys) ((flat xs).length + start) count (xs.length + i) =
      placedIn ys start count i := by
  simp only [placedIn, Nat.add_assoc, List.take_length_add_append, flat_append, List.length_append]
  omega

lemma flat_length (messages : List NiceInputMessage) :
    (messages.flatMap fun message => message.buffers.map List.length).sum =
      (flat messages).length := by
  induction messages with
  | nil => rfl
  | cons message messages ih =>
      rw [List.flatMap_cons, List.sum_append, ih, flat_cons, List.length_append,
        List.length_flatten]

/-- The room in messages. -/
lemma piecesFrom_sum (h : StandsIn iter messages) :
    (piecesFrom iter messages).sum + position messages { iter with message := 0 } =
      (flat messages).length := by
  cases messages with
  | nil =>
      obtain ⟨-, ho⟩ := h
      simp [position, piecesFrom, ho]
  | cons message messages =>
      obtain ⟨-, hinside, -⟩ := h
      have hsum := piecesOf_sum hinside
      have hsize : (message.buffers.take iter.buffer).flatten.length +
          (message.buffers.drop iter.buffer).flatten.length = message.buffers.flatten.length := by
        rw [← List.length_append, ← List.flatten_append, List.take_append_drop]
      rw [position_cons, piecesFrom, List.sum_append, flat_cons, List.length_append, flat_length]
      omega

/-- A piece that takes too much leaves room and bytes behind. -/
lemma fill_huge (pieces : List ℕ) (avail : ℕ) (h : (fill pieces avail).2 = .huge) :
    (fill pieces avail).1 < min avail pieces.sum := by
  induction pieces generalizing avail with
  | nil => cases h
  | cons p pieces ih =>
      rw [fill] at h ⊢
      rw [List.sum_cons]
      split_ifs at h ⊢
      · dsimp only
        omega
      · have := ih _ h
        dsimp only
        omega

/-- A number of messages that is zero as a `gint`. -/
lemma intOfSize_eq_zero {k : ℕ} (h : k < 2 ^ 32) (h0 : intOfSize k = 0) : k = 0 := by
  obtain ⟨h1, h2⟩ := bmod_neg_iff h
  change (k : ℤ).bmod (2 ^ 32) = 0 at h0
  rcases Nat.lt_or_ge k (2 ^ 31) with hlt | hge
  · have := h2 hlt
    omega
  · have := h1.mpr hge
    omega

/-- No message is valid only at the very beginning. -/
lemma nValidMessages_eq_zero (h : niceInputMessageIterGetNValidMessages iter = 0) :
    iter = ⟨0, 0, 0⟩ := by
  obtain ⟨k, b, o⟩ := iter
  rw [niceInputMessageIterGetNValidMessages] at h
  split_ifs at h with hbegin
  · obtain ⟨hb, ho⟩ := hbegin
    dsimp only at h hb ho
    rw [h, hb, ho]

lemma nValidMessages_le (iter : NiceInputMessageIter) :
    niceInputMessageIterGetNValidMessages iter ≤ iter.message + 1 := by
  rw [niceInputMessageIterGetNValidMessages]
  split <;> omega

/-- The end of the stream is reported to an open socket only without messages, or at an empty
buffer before anything was received. -/
lemma recvResult_zero (hended : ¬ Ended s) (hle : iter.message ≤ messages.length)
    (hlen : messages.length < 2 ^ 32) {stop : RecvEnd} {received : List NiceInputMessage}
    {filled : ℕ × FillEnd} (hhuge : filled.2 ≠ .huge)
    (h : ReceivedMessages s (messages.drop iter.message) iter filled t received iter' stop)
    (h0 : (recvResult iter' stop).1 = 0) : messages = [] ∨ FirstEmpty messages iter := by
  have hforward := h.forward
  have hstops := h.stops
  have hdrop : (messages.drop iter.message).length = messages.length - iter.message :=
    List.length_drop
  have hvalid := nValidMessages_le iter'
  cases hend : filled.2 with
  | all =>
      rw [hend] at hstops
      obtain rfl : stop = .done := hstops
      have hlast := h.all hend
      rw [hdrop, Nat.add_sub_cancel' hle] at hlast
      have hn : niceInputMessageIterGetNValidMessages iter' = messages.length := by
        rw [hlast]
        rfl
      rw [recvResult, hn] at h0
      dsimp only at h0
      exact .inl (List.eq_nil_of_length_eq_zero (intOfSize_eq_zero hlen h0))
  | zero =>
      rw [hend] at hstops
      obtain rfl : stop = .eos := hstops
      have hinside := h.inside (by rw [hend]; exact FillEnd.noConfusion)
      rw [recvResult] at h0
      dsimp only at h0
      have hbegin := nValidMessages_eq_zero (intOfSize_eq_zero (by omega) h0)
      obtain ⟨m, b, hm, hb, ho⟩ := h.zero hend hended
      have hnext := h.next
      have hforward' := h.forward'
      obtain ⟨k, b', o⟩ := iter
      dsimp only at *
      subst hbegin
      dsimp only at *
      obtain rfl : k = 0 := Nat.le_zero.mp hforward
      obtain rfl : b' = 0 := Nat.le_zero.mp (hforward' rfl)
      rw [Nat.sub_self, position_begin, List.drop_zero] at hnext
      rw [Nat.sub_self, List.drop_zero] at hm
      cases messages with
      | nil => cases hm
      | cons message messages =>
          obtain rfl := Option.some.inj hm
          rw [position_cons] at hnext
          obtain rfl : o = 0 := by omega
          refine .inr ⟨rfl, message, rfl, ?_⟩
          rw [List.head?_eq_getElem?, hb, List.eq_nil_of_length_eq_zero ho.symm]
  | short =>
      rw [hend] at hstops
      obtain rfl : stop = .refused (-1) (some .EWOULDBLOCK) := hstops
      have hinside := h.inside (by rw [hend]; exact FillEnd.noConfusion)
      rw [recvResult, if_pos rfl] at h0
      by_cases hpos : niceInputMessageIterGetNValidMessages iter' > 0
      · rw [if_pos hpos] at h0
        dsimp only at h0
        have := intOfSize_eq_zero (by omega) h0
        omega
      · rw [if_neg hpos] at h0
        cases h0
  | huge => exact absurd hend hhuge

/-- The messages behind those that the iterator has passed are received. -/
lemma received_iff (hvalid : ValidIter messages iter)
    (hlen : messages.length < 2 ^ 32) {stop : RecvEnd} {received : List NiceInputMessage}
    (hempty : FirstEmpty messages iter → iter' = iter ∧ stop = .eos)
    (hreceived : ReceivedMessages s (messages.drop iter.message) iter
      (fill ((piecesFrom iter (messages.drop iter.message)).map (seen s)) s.rbuf.contents.length)
      t received iter' stop) :
    Flat s messages iter t (messages.take iter.message ++ received) iter'
        (recvResult iter' stop).1 ↔
      Flows s messages iter := by
  obtain ⟨hle, hstands⟩ := hvalid
  have hsum := piecesFrom_sum hstands
  have hfill := fill_seen_iff s (piecesFrom iter (messages.drop iter.message))
    s.rbuf.contents.length
  obtain ⟨hfilled, -⟩ := fill_le ((piecesFrom iter (messages.drop iter.message)).map (seen s))
    s.rbuf.contents.length
  have hsome := fill_huge ((piecesFrom iter (messages.drop iter.message)).map (seen s))
    s.rbuf.contents.length
  have hseen := seen_sum_le s (piecesFrom iter (messages.drop iter.message))
  have hresult (hended : ¬ Ended s) := recvResult_zero hended hle hlen (h := hreceived)
  have hnone (hnil : messages = []) : (fill ((piecesFrom iter (messages.drop
      iter.message)).map (seen s)) s.rbuf.contents.length).2 = .all := by
    rw [hnil, List.drop_nil]
    rfl
  generalize fill ((piecesFrom iter (messages.drop iter.message)).map (seen s))
    s.rbuf.contents.length = filled at *
  unfold Flows
  generalize (piecesFrom iter (messages.drop iter.message)) = pieces at *
  obtain ⟨before, hbefore⟩ : ∃ before, before = messages.take iter.message := ⟨_, rfl⟩
  obtain ⟨rest, hrest⟩ : ∃ rest, rest = messages.drop iter.message := ⟨_, rfl⟩
  have hmessages : messages = before ++ rest := by
    rw [hbefore, hrest, List.take_append_drop]
  have hlength : before.length = iter.message := by
    rw [hbefore, List.length_take, Nat.min_eq_left hle]
  rw [← hrest] at hreceived hsum
  rw [← hbefore]
  have hplace (b o k : ℕ) : position messages ⟨iter.message + k, b, o⟩ =
      (flat before).length + position rest ⟨k, b, o⟩ := by
    rw [hmessages, ← hlength]
    exact position_append
  have hstart : position messages iter =
      (flat before).length + position rest { iter with message := 0 } := hplace _ _ 0
  have hend : position messages iter' = (flat before).length +
      position rest { iter' with message := iter'.message - iter.message } := by
    rw [← hplace, Nat.add_sub_cancel' hreceived.forward]
  have htotal : (flat messages).length = (flat before).length + (flat rest).length := by
    rw [hmessages, flat_append, List.length_append]
  have hroom : (flat messages).length - position messages iter = pieces.sum := by omega
  refine ⟨fun hflat => ?_, fun hflows => ?_⟩
  · have hnext := hflat.next
    rw [hend, hreceived.next, hroom, hstart] at hnext
    have hhuge : filled.2 ≠ .huge := fun h => by
      have := hsome h
      omega
    have hcond := hfill.mp ⟨by omega, hhuge⟩
    by_cases hended : Ended s
    · rwa [if_pos hended] at hcond ⊢
    · rw [if_neg hended] at hcond ⊢
      refine ⟨fun hnil => hended (hflat.ended ?_), fun hfirst => hended (hflat.ended ?_), hcond⟩
      · have hlast := hreceived.all (hnone hnil)
        have hstops := hreceived.stops
        rw [hnone hnil] at hstops
        obtain rfl : stop = .done := hstops
        rw [hrest, hnil, List.drop_nil, List.length_nil, Nat.add_zero] at hlast
        rw [hnil, List.length_nil] at hle
        rw [hlast, Nat.le_zero.mp hle]
        rfl
      · obtain ⟨rfl, rfl⟩ := hempty hfirst
        rw [hfirst.1]
        rfl
  · have hcond : filled.1 = min s.rbuf.contents.length pieces.sum ∧ filled.2 ≠ .huge := by
      rw [hfill]
      by_cases hended : Ended s
      · rwa [if_pos hended] at hflows ⊢
      · rw [if_neg hended] at hflows ⊢
        exact hflows.2.2
    obtain ⟨hcount, hhuge⟩ := hcond
    have htake : s.rbuf.contents.take pieces.sum = s.rbuf.contents.take filled.1 := by
      rw [List.take_eq_take_iff]
      omega
    have htook := hreceived.took hhuge
    constructor
    · rw [hroom, htake, flat_append, hreceived.written hhuge, hmessages, flat_append, ← hmessages,
        hstart, overwrite_right]
    · rw [List.map_append, hreceived.sizes hhuge, ← List.map_append, hmessages]
    · have hcontents := htook.contents
      rw [← htake] at hcontents
      rw [hroom]
      exact List.append_cancel_left (hcontents.symm.trans (List.take_append_drop _ _).symm)
    · rw [hend, hreceived.next, hroom, hstart, hcount, Nat.add_assoc]
    · intro i m hm hi hlt
      obtain ⟨j, rfl⟩ := Nat.exists_eq_add_of_le hi
      rw [← hlength, List.getElem?_append_right (Nat.le_add_right _ _),
        Nat.add_sub_cancel_left] at hm
      rw [hroom, ← hcount, ← hrest, hstart, Nat.add_sub_cancel_left,
        hreceived.counted hhuge j m hm hlt, hmessages, ← hlength, placedIn_append]
    · intro h0
      by_contra hended
      rw [if_neg hended] at hflows
      rcases hresult hended hhuge h0 with hnil | hfirst
      · exact hflows.1 hnil
      · exact hflows.2.1 hfirst

/-- At an empty buffer the loop ends at once. -/
lemma recvMessagesFrom_empty (h : Readable s) {calls : ℕ} (hempty : FirstEmpty messages iter) :
    Post (fun _ => True) (fun r => r.2.2.1 = iter ∧ r.2.2.2 = .eos)
      (recvMessagesFrom env messages s iter calls) := by
  obtain ⟨rfl, message, hhead, hfirst⟩ := hempty
  cases messages with
  | nil => cases hhead
  | cons first messages =>
      obtain rfl := Option.some.inj hhead
      obtain ⟨buffers, hbuffers⟩ : ∃ buffers, first.buffers = [] :: buffers := by
        cases hb : first.buffers with
        | nil =>
            rw [hb] at hfirst
            cases hfirst
        | cons buffer buffers =>
            rw [hb] at hfirst
            exact ⟨buffers, congrArg (· :: buffers) (Option.some.inj hfirst)⟩
      have hcall : s.recv (env calls) 0 = .ok (s, 0, []) := by
        by_cases hended : Ended s
        · exact recv_ended hended _ _
        · exact recv_zero h hended _
      have hone (length : ℕ) : recvBuffer env 0 s [] 0 length calls =
          .ok (s, [], 0, length, calls + 1, .eos) := by
        rw [recvBuffer, show (0 + 2 ^ 64 - 0) % 2 ^ 64 = 0 from rfl, hcall]
        rfl
      rw [recvMessagesFrom, hbuffers, List.drop_zero, recvBuffers]
      dsimp only [List.length_nil]
      rw [hone]
      exact Post.ok ⟨rfl, rfl⟩

end flat

/-- The calls that open a socket and bring it a byte. -/
def byteCalls : List (Env × Op) :=
  [(calmEnv, .connect), (calmEnv, .notifyPacket (connectReply 7 1000)),
    (calmEnv, .notifyPacket (dataPacket 7 7 7 1000 [42]))]

end LibNice.Agent
