import LibNice.Foundation.RingQueue
import LibNice.Foundation.Run
import LibNice.Socket.Http

/-!
The ring buffer of an HTTP socket and the queue of the bytes that it holds.

* `RecvBuf.offered_eq`: **the regions offered to the base socket** are the free part of the buffer,
  in order, in every state of the buffer.
* `RecvBuf.contents_fill`, `contents_consume`, `ringBufferBytes_eq`: what is read is added at the
  end, what is consumed or copied leaves at the front.
* `RecvBuf.contents_enlarge_iff`: an enlargement keeps the bytes exactly if nothing of them runs
  across the end of the old buffer, or is found again behind it.
* `ring_refines_iff`: **the buffer is a byte queue** in a run exactly if all its enlargements are
  such.
* `socketRecvMessages_ops`: what `socket_recv_messages` does to the buffer are such operations.
-/

namespace LibNice.Socket.Http

open LibNice.Foundation

namespace RecvBuf

variable (b : RecvBuf)

/-! ### The regions -/

/-- The cells of a region, in order. -/
def LocalRecvBuf.cells (r : LocalRecvBuf) : List ℕ := List.range' r.buffer r.size

/-- The cells offered to the base socket, in the order in which it fills them. -/
def offered : List ℕ := b.localRecvBufs.1.cells ++ b.localRecvBufs.2.cells

/-- The regions are the free part of the buffer, in order. -/
theorem offered_eq : b.offered = freeCells b.recvBufLength b.recvBufPos b.recvBufFill := by
  have hle := b.fill_le
  have hpos := b.pos_lt
  apply List.ext_getElem
  · have hroom := b.room_eq
    unfold room at hroom
    simpa [offered, LocalRecvBuf.cells, freeCells] using hroom
  · intro k h1 h2
    have hk : k < b.recvBufLength - b.recvBufFill := by simpa [freeCells] using h2
    have hfree : (freeCells b.recvBufLength b.recvBufPos b.recvBufFill)[k] =
        (b.recvBufPos + (b.recvBufFill + k)) % b.recvBufLength := by
      simp [freeCells, Nat.add_assoc]
    rw [hfree, ring_mod (by omega) (by omega)]
    unfold offered localRecvBufs LocalRecvBuf.cells
    split
    next hwrap =>
      have hmod := ring_mod (by omega : b.recvBufPos < b.recvBufLength) hle
      simp only [List.range'_zero, List.append_nil, List.getElem_range', hmod]
      split <;> split <;> omega
    next hwrap =>
      simp only [List.getElem_append, List.length_range', List.getElem_range']
      split <;> split <;> omega

/-! ### The bytes -/

lemma getByte_eq : b.getByte = ringAt b.recvBuf b.recvBufLength b.recvBufPos := by
  funext k
  rw [getByte, ringAt, Nat.add_comm]

/-- The bytes are the queue in the circle. -/
lemma contents_eq :
    b.contents = ringQueue b.recvBuf b.recvBufLength b.recvBufPos b.recvBufFill := by
  rw [contents, getByte_eq, ringQueue]

@[simp] lemma contents_length : b.contents.length = b.recvBufFill := by
  simp [contents]

/-- What the base socket writes to the regions is a store across the end of the circle. -/
lemma fill_store (bytes : Bytes) (hpos : 0 < b.recvBufLength) :
    (b.fill bytes).recvBuf =
      ringStore b.recvBuf b.recvBufLength ((b.recvBufPos + b.recvBufFill) % b.recvBufLength)
        (bytes.take b.room) := by
  have hle := b.fill_le
  have hlt : b.recvBufPos < b.recvBufLength := by
    have := b.pos_lt
    omega
  have hroom := b.room_eq
  have hlen : (bytes.take b.room).length ≤ b.room := List.length_take_le _ _
  unfold fill localRecvBufs ringStore
  dsimp only
  generalize bytes.take b.room = received at hlen
  rw [ring_mod hlt hle]
  by_cases hwrap : b.recvBufPos + b.recvBufFill > b.recvBufLength
  · -- one region, which holds everything
    simp only [hwrap, if_true, if_neg (by omega : ¬ b.recvBufPos + b.recvBufFill < b.recvBufLength)]
    rw [List.take_of_length_le (by omega : _ ≤ b.recvBufLength - b.recvBufFill),
      List.drop_eq_nil_of_le (by omega : _ ≤ b.recvBufLength - b.recvBufFill),
      List.take_of_length_le (by omega), List.drop_eq_nil_of_le (by omega)]
  · simp only [if_neg hwrap]
    by_cases hend : b.recvBufPos + b.recvBufFill < b.recvBufLength
    · rw [if_pos hend]
    · -- the bytes end where the buffer does, and the tail is empty
      have hsum : b.recvBufPos + b.recvBufFill = b.recvBufLength := by omega
      rw [if_neg hend, hsum, Nat.sub_self, List.take_zero, List.drop_zero, Nat.sub_zero,
        List.take_of_length_le (by omega : _ ≤ b.recvBufLength),
        List.drop_eq_nil_of_le (by omega : _ ≤ b.recvBufLength)]
      funext i
      simp [store]

/-- What the base socket has received is added at the end. -/
theorem contents_fill (bytes : Bytes) :
    (b.fill bytes).contents = b.contents ++ bytes.take b.room := by
  have hle := b.fill_le
  have hroom := b.room_eq
  have hlen : (bytes.take b.room).length ≤ b.room := List.length_take_le _ _
  rcases Nat.eq_zero_or_pos b.recvBufLength with h0 | h0
  · have hnil : bytes.take b.room = [] := by rw [hroom, h0, Nat.zero_sub, List.take_zero]
    have hfill : (b.fill bytes).recvBufFill = 0 := by
      show b.recvBufFill + (bytes.take b.room).length = 0
      rw [hnil, List.length_nil]
      omega
    have hold : b.recvBufFill = 0 := by omega
    rw [contents, contents, hfill, hold, hnil, List.append_nil]
    rfl
  · have hlt : b.recvBufPos < b.recvBufLength := by
      have := b.pos_lt
      omega
    have hstore := ringQueue_store (m := b.recvBuf) (c := b.recvBufFill) hlt
      (by omega : b.recvBufFill + (bytes.take b.room).length ≤ b.recvBufLength)
    rw [contents_eq, contents_eq, ← hstore, ← b.fill_store bytes h0]
    rfl

/-- Nothing was received. -/
lemma fill_nil : b.fill [] = b := by
  have hstore : ∀ (m : ℕ → UInt8) a, store m a [] = m := fun m a => by
    funext i
    simp [store]
  cases b
  simp only [fill, List.take_nil, List.drop_nil, hstore, List.length_nil, Nat.add_zero]

/-- What is consumed leaves at the front. -/
theorem contents_consume (n : ℕ) (h : n ≤ b.recvBufFill) :
    (b.consume n h).contents = b.contents.drop n := by
  rw [contents_eq, contents_eq, ringQueue_drop]
  rfl

/-- The bytes of a full buffer after it was enlarged. -/
lemma contents_enlarge (memory : ℕ → UInt8) (hfull : b.Full) :
    (b.enlarge memory).contents =
      ringQueue (fun i => if i < b.recvBufLength then b.recvBuf i else memory i)
        (max (b.recvBufLength * 2) 1024) b.recvBufPos b.recvBufLength := by
  have hfill : b.recvBufFill = b.recvBufLength := hfull
  rw [contents_eq, enlarge, if_pos hfull]
  dsimp only
  rw [hfill]

/-- **An enlargement** keeps the bytes exactly if, where the buffer is full, those of its cells
before the read position are found again behind its end. -/
theorem contents_enlarge_iff (memory : ℕ → UInt8) :
    (b.enlarge memory).contents = b.contents ↔
      (b.Full → ∀ i < b.recvBufPos, memory (b.recvBufLength + i) = b.recvBuf i) := by
  by_cases hfull : b.Full
  · have hpos := b.pos_lt
    have hfill : b.recvBufFill = b.recvBufLength := hfull
    rw [contents_enlarge b memory hfull, contents_eq, hfill]
    rcases Nat.eq_zero_or_pos b.recvBufLength with h0 | h0
    · -- there was no buffer yet
      rw [h0, ringQueue_zero, ringQueue_zero]
      exact ⟨fun _ _ i hi => by omega, fun _ => rfl⟩
    · rw [ringQueue_grow_iff (fun i hi => if_pos hi) (by omega) (by omega)]
      have hback : ∀ i, (if b.recvBufLength + i < b.recvBufLength
          then b.recvBuf (b.recvBufLength + i) else memory (b.recvBufLength + i)) =
          memory (b.recvBufLength + i) := fun i => if_neg (by omega)
      simp only [hback, hfull, true_imp_iff]
  · rw [enlarge, if_neg hfull]
    exact ⟨fun _ h => absurd h hfull, fun _ => rfl⟩

end RecvBuf

/-- What is copied is the front of the bytes. -/
theorem ringBufferBytes_eq (b : RecvBuf) (bufferLength : ℕ) :
    ringBufferBytes b bufferLength = b.contents.take bufferLength := by
  have hle := b.fill_le
  have hpos := b.pos_lt
  rw [RecvBuf.contents_eq, ringQueue_take, Nat.min_comm]
  unfold ringBufferBytes
  split
  next hwrap =>
    have hcount : min b.recvBufFill bufferLength ≤ b.recvBufLength := by omega
    rw [ringQueue, ← ringLoad_eq (by omega) hcount, ringLoad]
    dsimp only
    congr 2 <;> omega
  next hwrap =>
    apply List.ext_getElem
    · simp
    · intro k h1 h2
      rw [load_length] at h1
      rw [ringQueue_getElem, ringAt, Nat.mod_eq_of_lt (by omega)]
      simp [load]

/-! ### Operations -/

/-- What is done to the buffer. -/
inductive Op where
  /-- The buffer is made larger if it is full; the new memory is what `g_realloc` hands out. -/
  | enlarge (memory : ℕ → UInt8)
  /-- The base socket has `bytes` to be read. -/
  | fill (bytes : Bytes)
  /-- The parser is done with `n` bytes, or with all if there are fewer. -/
  | consume (n : ℕ)
  /-- `memcpy_ring_buffer_to_buffer`. -/
  | copy (bufferLength : ℕ)

/-- The buffer after an operation. -/
def RecvBuf.apply (b : RecvBuf) : Op → RecvBuf
  | .enlarge memory => b.enlarge memory
  | .fill bytes => b.fill bytes
  | .consume n => b.consume (min n b.recvBufFill) (min_le_right _ _)
  | .copy bufferLength => (memcpyRingBufferToBuffer b bufferLength).1

/-- A buffer, all that was received into it, and how many bytes of that were consumed. -/
structure Receiving where
  buf : RecvBuf
  received : Bytes
  consumed : ℕ

namespace Receiving

/-- Nothing was received yet. -/
def new : Receiving := { buf := .new, received := [], consumed := 0 }

/-- The bytes that were received and not consumed yet, in order. -/
def unread (s : Receiving) : Bytes := s.received.drop s.consumed

/-- An operation, with what it receives and what it consumes. -/
def next (s : Receiving) (op : Op) : Receiving :=
  match op with
  | .enlarge _ => { s with buf := s.buf.apply op }
  | .fill bytes =>
      { s with buf := s.buf.apply op, received := s.received ++ bytes.take s.buf.room }
  | .consume n => { s with buf := s.buf.apply op, consumed := s.consumed + min n s.buf.recvBufFill }
  | .copy bufferLength =>
      { s with
        buf := s.buf.apply op
        consumed := s.consumed + (memcpyRingBufferToBuffer s.buf bufferLength).2.length }

/-- The buffer is the queue of the bytes that are unread, and what it offers to the base socket is
its free part. -/
structure Queues (s : Receiving) : Prop where
  bytes : s.buf.contents = s.unread
  regions : s.buf.offered =
    freeCells s.buf.recvBufLength s.buf.recvBufPos s.buf.recvBufFill

/-- An operation does what it does to a byte queue. -/
structure Serves (s : Receiving) (op : Op) : Prop where
  queues : (s.next op).Queues
  copied : ∀ n, op = .copy n → (memcpyRingBufferToBuffer s.buf n).2 = s.unread.take n

/-- When a full buffer is made larger, its bytes before the read position, if there are any, are
found again behind its end. -/
def Fits (s : Receiving) (op : Op) : Prop :=
  ∀ memory, op = .enlarge memory → s.buf.Full →
    ∀ i < s.buf.recvBufPos, memory (s.buf.recvBufLength + i) = s.buf.recvBuf i

/-- The bytes are unread ones, and no more were consumed than received. -/
structure Sound (s : Receiving) : Prop where
  bytes : s.buf.contents = s.unread
  consumed : s.consumed ≤ s.received.length

variable {s : Receiving} {op : Op}

lemma Sound.new : Receiving.new.Sound := ⟨rfl, le_rfl⟩

/-- There are as many bytes as the buffer holds. -/
lemma Sound.length (h : s.Sound) : s.buf.recvBufFill = s.received.length - s.consumed := by
  have := congrArg List.length h.bytes
  rwa [RecvBuf.contents_length, unread, List.length_drop] at this

/-- What a copy takes is the front of the bytes that are unread. -/
lemma Sound.copied (h : s.Sound) (n : ℕ) :
    (memcpyRingBufferToBuffer s.buf n).2 = s.unread.take n := by
  rw [← h.bytes, ← ringBufferBytes_eq]
  rfl

/-- Bytes that leave at the front. -/
lemma Sound.drop (h : s.Sound) {n : ℕ} (hn : n ≤ s.buf.recvBufFill) :
    (s.buf.consume n hn).contents = s.received.drop (s.consumed + n) := by
  rw [RecvBuf.contents_consume, h.bytes, unread, List.drop_drop]

/-- **One operation** leaves a queue exactly if it is no enlargement that loses bytes. -/
lemma Sound.bytes_next_iff (h : s.Sound) :
    (s.next op).buf.contents = (s.next op).unread ↔ s.Fits op := by
  cases op with
  | enlarge memory =>
      have hiff := RecvBuf.contents_enlarge_iff s.buf memory
      rw [h.bytes] at hiff
      constructor
      · rintro hbytes _ ⟨⟩
        exact hiff.mp hbytes
      · intro hfits
        exact hiff.mpr (hfits memory rfl)
  | fill bytes =>
      refine ⟨fun _ _ hop => by simp at hop, fun _ => ?_⟩
      show (s.buf.fill bytes).contents = (s.received ++ bytes.take s.buf.room).drop s.consumed
      rw [RecvBuf.contents_fill, h.bytes, unread, List.drop_append_of_le_length h.consumed]
  | consume n =>
      exact ⟨fun _ _ hop => by simp at hop, fun _ => h.drop (min_le_right _ _)⟩
  | copy n =>
      have hle : (ringBufferBytes s.buf n).length ≤ s.buf.recvBufFill := by
        rw [ringBufferBytes_length]
        exact min_le_left _ _
      exact ⟨fun _ _ hop => by simp at hop, fun _ => h.drop hle⟩

/-- No more is consumed than was received. -/
lemma Sound.consumed_next (h : s.Sound) : (s.next op).consumed ≤ (s.next op).received.length := by
  have hlength := h.length
  have hle := h.consumed
  cases op with
  | enlarge memory => exact hle
  | fill bytes =>
      show s.consumed ≤ (s.received ++ bytes.take s.buf.room).length
      rw [List.length_append]
      omega
  | consume n =>
      show s.consumed + min n s.buf.recvBufFill ≤ s.received.length
      omega
  | copy n =>
      show s.consumed + (ringBufferBytes s.buf n).length ≤ s.received.length
      rw [ringBufferBytes_length]
      omega

lemma Sound.serves_iff (h : s.Sound) : s.Serves op ↔ s.Fits op := by
  rw [← h.bytes_next_iff]
  constructor
  · exact fun hserves => hserves.queues.bytes
  · intro hbytes
    exact ⟨⟨hbytes, RecvBuf.offered_eq _⟩, fun n _ => h.copied n⟩

lemma Sound.next (h : s.Sound) (hserves : s.Serves op) : (s.next op).Sound :=
  ⟨hserves.queues.bytes, h.consumed_next⟩

end Receiving

/-- **The ring buffer is a byte queue** in a run exactly if every time a full buffer is made larger
in it, the bytes before the read position are found again behind the end of the old buffer, as they
are where the read position is 0. -/
theorem ring_refines_iff (ops : List Op) :
    Along Receiving.next Receiving.Serves .new ops ↔
      Along Receiving.next Receiving.Fits .new ops :=
  Along.congr (I := Receiving.Sound) (R := fun _ _ => True) (fun _ _ h _ => h.serves_iff)
    (fun _ _ h _ hserves => h.next hserves) ops .new .new
    (Along.of_forall (fun _ _ => trivial) ops _)

/-- `HTTP/1.0 200 OK` with the end of the line. -/
def statusLine : Bytes :=
  [0x48, 0x54, 0x54, 0x50, 0x2f, 0x31, 0x2e, 0x30, 0x20, 0x32, 0x30, 0x30, 0x20, 0x4f, 0x4b,
    0x0d, 0x0a]

/-- A response with a header line of more than 1024 bytes, which comes in two reads: the status line
is consumed after the first one, the second one fills the buffer up from its start, and before the
third one the buffer is made larger. -/
def longHeader : List Op :=
  [.enlarge fun _ => 0, .fill (statusLine ++ List.replicate 1007 0x61), .consume 17,
    .fill (List.replicate 17 0x62), .enlarge fun _ => 0]

/-- The bytes at the start of the old buffer are lost. -/
theorem longHeader_lost : ¬ Along Receiving.next Receiving.Serves .new longHeader := by
  intro h
  have hbytes := congrArg (fun bytes => bytes[1007]?) h.2.2.2.2.1.queues.bytes
  revert hbytes
  decide +kernel

/-! ### The socket -/

/-- An operation of the parser or of a copy. -/
def Op.Pops : Op → Prop
  | .consume _ | .copy _ => True
  | .enlarge _ | .fill _ => False

/-- One buffer comes from the other by bytes that leave it. -/
def Popped (b b' : RecvBuf) : Prop :=
  ∃ ops : List Op, (∀ op ∈ ops, op.Pops) ∧ b' = ops.foldl .apply b

namespace Popped

variable {b b' b'' : RecvBuf}

lemma refl : Popped b b := ⟨[], by simp, rfl⟩

lemma trans (h : Popped b b') (h' : Popped b' b'') : Popped b b'' := by
  obtain ⟨ops, hops, rfl⟩ := h
  obtain ⟨ops', hops', rfl⟩ := h'
  refine ⟨ops ++ ops', fun op hop => ?_, by rw [List.foldl_append]⟩
  exact (List.mem_append.mp hop).elim (hops op) (hops' op)

lemma one {op : Op} (h : op.Pops) : Popped b (b.apply op) :=
  ⟨[op], by simpa using h, rfl⟩

lemma consume {n : ℕ} (h : n ≤ b.recvBufFill) : Popped b (b.consume n h) := by
  have hone : Popped b (b.apply (.consume n)) := one trivial
  simpa only [RecvBuf.apply, Nat.min_eq_left h] using hone

lemma copy (n : ℕ) : Popped b (memcpyRingBufferToBuffer b n).1 :=
  @one b (.copy n) trivial

end Popped

lemma memcpyBuffers_popped (buffers : List Bytes) :
    ∀ b, Popped b (memcpyBuffers b buffers).1 := by
  induction buffers with
  | nil => exact fun _ => .refl
  | cons buffer buffers ih =>
      intro b
      rw [memcpyBuffers]
      split
      · exact (Popped.copy _).trans (ih _)
      · exact .refl

lemma memcpyRingBufferToInputMessages_popped (messages : List NiceInputMessage) :
    ∀ b, Popped b (memcpyRingBufferToInputMessages b messages).1 := by
  induction messages with
  | nil => exact fun _ => .refl
  | cons message messages ih =>
      intro b
      rw [memcpyRingBufferToInputMessages]
      split
      · exact (memcpyBuffers_popped _ _).trans (ih _)
      · exact .refl

/-- What a turn leaves behind of the bytes. -/
lemma turn_popped {priv priv' : HttpPriv} (h : turn priv = .retry priv') :
    Popped priv.buf priv'.buf := by
  unfold turn at h
  split at h
  · split at h
    next => cases h
    next n _ =>
      cases h
      exact .consume n.2.2
  · split at h
    next => cases h
    next n _ =>
      cases h
      exact .consume n.2.2
  · split at h
    next =>
      cases h
      exact .refl
    next =>
      split at h
      next => cases h
      next =>
        cases h
        exact .consume (min_le_right _ _)
  · cases h
  · cases h

lemma turn_goto_buf {priv priv' : HttpPriv} {label : Goto} (h : turn priv = .goto priv' label) :
    priv'.buf = priv.buf := by
  unfold turn at h
  split at h
  · split at h
    · cases h
      rfl
    · cases h
  · split at h
    · cases h
      rfl
    · cases h
  · split at h
    · cases h
    · split at h
      · cases h
        rfl
      · cases h
  · cases h
  · cases h
    rfl

/-- The parser only takes bytes off the front of the buffer. -/
lemma parse_popped (n : ℕ) (messages : List NiceInputMessage) :
    ∀ priv, Popped priv.buf (parse n priv messages).2.1.buf := by
  induction n with
  | zero => exact fun _ => .refl
  | succ n ih =>
      intro priv
      rw [parse]
      split
      next priv' h => exact (turn_popped h).trans (ih priv')
      next priv' h =>
        rw [turn_goto_buf h]
        exact .refl
      next priv' h =>
        show Popped priv.buf priv'.buf
        rw [turn_goto_buf h]
        exact .refl
      next h => exact memcpyRingBufferToInputMessages_popped _ _

/-- **What `socket_recv_messages` does to the buffer** before the proxy has let the connection
through: it is made larger if it is full, what the base socket has received is added, and the parser
and the copies take bytes off the front. -/
theorem socketRecvMessages_ops (memory : ℕ → UInt8) (priv : HttpPriv) (conn : TcpConn)
    (messages : List NiceInputMessage) (h : priv.state ≠ .connected) :
    ∃ (bytes : Bytes) (ops : List Op), (∀ op ∈ ops, op.Pops) ∧
      (socketRecvMessages memory priv conn messages).2.1.buf =
        (.enlarge memory :: .fill bytes :: ops).foldl .apply priv.buf := by
  unfold socketRecvMessages
  rw [if_neg h]
  by_cases hbase : priv.baseSocket
  · simp only [hbase, if_true]
    split
    next =>
      refine ⟨[], [], by simp, ?_⟩
      show priv.buf.enlarge memory = (priv.buf.enlarge memory).fill []
      rw [RecvBuf.fill_nil]
    next =>
      obtain ⟨ops, hops, hbuf⟩ := parse_popped _ messages _
      exact ⟨_, ops, hops, hbuf⟩
  · simp only [hbase]
    refine ⟨[], [], by simp, ?_⟩
    show priv.buf.enlarge memory = (priv.buf.enlarge memory).fill []
    rw [RecvBuf.fill_nil]

end LibNice.Socket.Http
