import LibNice.PseudoTcp.SendQueue

/-!
The receive queue of a socket, seen from the stream that its peer sends.

* `Piece`: a segment with bytes of a stream, at their place in it.
* `Holds`: a byte of the stream is where it will be read, also ahead of the ones in order.
* `Follows`: the bytes that were read and those in the buffer are the front of the stream, and every
  segment saved out of order has its bytes in place.
* `trimOld_piece`, `trimNew_piece`: what is cut off a piece leaves a piece.
* `receive_follows`: **the receive queue follows the stream**, whatever pieces of it arrive in
  whatever order.
-/

namespace LibNice.PseudoTcp

open LibNice.Foundation

variable {k n p m fins : ℕ} {stream delivered : Bytes}

/-! ### Pieces of a stream -/

/-- A segment of a stream whose first `k` bytes are control data: its payload is a stretch of the
stream, of one kind, and a FIN is behind all of it. -/
structure Piece (k : ℕ) (stream : Bytes) (seg : Segment) : Prop where
  data : seg.data ≠ [] → ∃ p, seg.seq = UInt32.ofNat p ∧
    seg.data = (stream.drop p).take seg.data.length ∧
    (seg.flags.has FLAG_CTL = true → p + seg.data.length ≤ k) ∧
    (seg.flags.has FLAG_CTL = false → k ≤ p)
  fin : seg.flags.has FLAG_FIN = true →
    seg.data = [] ∧ seg.seq = UInt32.ofNat stream.length

/-- A stretch of a stream is inside it. -/
lemma stretch_le {data : Bytes} (h : data = (stream.drop p).take data.length) (h0 : data ≠ []) :
    p + data.length ≤ stream.length := by
  have hlen := congrArg List.length h
  have hpos := List.length_pos_of_ne_nil h0
  simp only [List.length_take, List.length_drop] at hlen
  omega

/-- The front of a stream, without the control data, goes on with what follows it. -/
lemma front_append (hk : k ≤ n) (hn : n ≤ stream.length) (m : ℕ) :
    (stream.take (n + m)).drop k = (stream.take n).drop k ++ (stream.drop n).take m := by
  rw [List.take_add, List.drop_append_of_le_length]
  rw [List.length_take]
  omega

/-! ### Bytes in place -/

/-- Byte `j` of the stream is in its place in the buffer, where the data in order end at byte `n`. -/
def Holds (stream : Bytes) (b : PseudoTcpFifo) (n j : ℕ) : Prop :=
  b.dataLength + (j - n) < b.bufferLength ∧
    stream[j]? = some (b.byteAt (b.dataLength + (j - n)))

/-- What is stored at its offset is in place, and what was in place stays there. -/
lemma Holds.store {b : PseudoTcpFifo} (hb : b.Wf) {data : Bytes} (hn : n ≤ p)
    (hdata : data = (stream.drop p).take data.length)
    (hfits : p - n + data.length ≤ b.bufferLength - b.dataLength) {j : ℕ} (hj : n ≤ j)
    (h : Holds stream b n j ∨ p ≤ j ∧ j < p + data.length) :
    Holds stream (b.writeOffset data (p - n)).1 n j := by
  have hle := hb.data
  have hroom : b.dataLength + (j - n) < b.bufferLength := by
    rcases h with h | h
    · exact h.1
    · omega
  refine ⟨by simpa using hroom, ?_⟩
  rw [PseudoTcpFifo.writeOffset_dataLength, PseudoTcpFifo.writeOffset_byteAt hb hfits hroom]
  by_cases hin : p ≤ j ∧ j < p + data.length
  · have hat : data[b.dataLength + (j - n) - (b.dataLength + (p - n))]? = stream[j]? := by
      rw [hdata, List.getElem?_take_of_lt (by omega), List.getElem?_drop]
      congr 1
      omega
    have hend := stretch_le hdata (List.ne_nil_of_length_pos (by omega))
    have hlt : j < stream.length := by omega
    rw [if_pos (by omega), hat, List.getElem?_eq_getElem hlt, Option.getD_some]
  · have hold := (h.resolve_right hin).2
    split
    · have hout : data[b.dataLength + (j - n) - (b.dataLength + (p - n))]? = none :=
        List.getElem?_eq_none (by omega)
      rw [hout, Option.getD_none]
      exact hold
    · exact hold

/-- The bytes in place behind the data in order. -/
lemma Holds.range {b : PseudoTcpFifo}
    (h : ∀ j, n ≤ j → j < n + m → Holds stream b n j) :
    ((List.range m).map fun i => b.byteAt (b.dataLength + i)) = (stream.drop n).take m := by
  apply List.ext_getElem?
  intro i
  by_cases hi : i < m
  · have hbyte := (h (n + i) (by omega) (by omega)).2
    rw [Nat.add_sub_cancel_left] at hbyte
    rw [List.getElem?_take_of_lt hi, List.getElem?_drop, hbyte]
    simp [hi]
  · rw [List.getElem?_eq_none (by simpa using hi),
      List.getElem?_eq_none (by simp only [List.length_take]; omega)]

/-! ### The queue follows the stream -/

/-- The receive queue follows a stream with `k` bytes of control data: the first `n` bytes of it and
`fins` FINs were received in order, the payload of which was `delivered` or is in the buffer, and
what was saved out of order is in place. -/
structure Follows (k : ℕ) (stream delivered : Bytes) (r : Incoming) (n fins : ℕ) : Prop where
  wf : r.rbuf.Wf
  nxt : r.rcvNxt = UInt32.ofNat (n + fins)
  le : n ≤ stream.length
  fin : fins = 0 ∨ fins = 1 ∧ n = stream.length
  front : delivered ++ r.rbuf.contents = (stream.take n).drop k
  saved : ∀ g ∈ r.rlist, k ≤ n ∧ ∃ q, g.seq = UInt32.ofNat q ∧ q + g.len ≤ stream.length ∧
    ∀ j, n ≤ j → q ≤ j → j < q + g.len → Holds stream r.rbuf n j

namespace Follows

variable {r r' : Incoming} {b : PseudoTcpFifo}

/-- Only the buffer, the segments and `rcv_nxt` matter. -/
lemma of_eq (h : Follows k stream delivered r n fins) (hbuf : r'.rbuf = r.rbuf)
    (hnxt : r'.rcvNxt = r.rcvNxt) (hlist : r'.rlist = r.rlist) :
    Follows k stream delivered r' n fins where
  wf := by rw [hbuf]; exact h.wf
  nxt := hnxt.trans h.nxt
  le := h.le
  fin := h.fin
  front := by rw [hbuf]; exact h.front
  saved := by rw [hbuf, hlist]; exact h.saved

/-- Less was saved. -/
lemma of_saved (h : Follows k stream delivered r n fins) {l : List RSegment}
    (hl : ∀ g ∈ l, g ∈ r.rlist) : Follows k stream delivered { r with rlist := l } n fins :=
  { h with saved := fun g hg => h.saved g (hl g hg) }

/-- Bytes in place become data in order. -/
lemma take (h : Follows k stream delivered r n 0) (hk : k ≤ n) (hm : n + m ≤ stream.length)
    (hheld : ∀ j, n ≤ j → j < n + m → Holds stream r.rbuf n j)
    (hb : r.rbuf.consumeWriteBuffer m = .ok b) {q : UInt32} (hq : q = UInt32.ofNat (n + m))
    (wnd : UInt32) :
    Follows k stream delivered { r with rbuf := b, rcvNxt := q, rcvWnd := wnd } (n + m) 0 where
  wf := PseudoTcpFifo.consumeWriteBuffer_wf h.wf hb
  nxt := hq
  le := hm
  fin := .inl rfl
  front := by
    have hcontents := PseudoTcpFifo.consumeWriteBuffer_contents hb
    simp only [hcontents]
    rw [Holds.range hheld, ← List.append_assoc, h.front, front_append hk h.le]
  saved g hg := by
    obtain ⟨-, q, hseq, hlen, hplace⟩ := h.saved g hg
    refine ⟨by omega, q, hseq, hlen, fun j hj hqj hlt => ?_⟩
    obtain ⟨hroom, hbyte⟩ := hplace j (by omega) hqj hlt
    have hat := PseudoTcpFifo.consumeWriteBuffer_byteAt hb
    obtain ⟨-, rfl⟩ := PseudoTcpFifo.consumeWriteBuffer_eq_ok.mp hb
    have hplace : r.rbuf.dataLength + m + (j - (n + m)) = r.rbuf.dataLength + (j - n) := by omega
    refine ⟨by simpa only [hplace] using hroom, ?_⟩
    simp only [hat, hplace]
    exact hbyte

/-- The reader takes bytes. -/
lemma read (h : Follows k stream delivered r n fins) (len : ℕ) :
    Follows k stream (delivered ++ (r.rbuf.read len).2) { r with rbuf := (r.rbuf.read len).1 } n
      fins := by
  obtain ⟨b, hread, hcons⟩ := PseudoTcpFifo.read_eq h.wf len
  have hat := PseudoTcpFifo.consumeReadData_byteAt hcons
  have hcontents := PseudoTcpFifo.consumeReadData_contents hcons
  rw [hread]
  refine
    { wf := PseudoTcpFifo.consumeReadData_wf h.wf hcons
      nxt := h.nxt
      le := h.le
      fin := h.fin
      front := ?_
      saved := fun g hg => ?_ }
  · have hdrop : b.contents = r.rbuf.contents.drop len := by
      rw [hcontents]
      rcases Nat.le_total len r.rbuf.dataLength with hle | hle
      · rw [Nat.min_eq_left hle]
      · rw [Nat.min_eq_right hle, List.drop_eq_nil_of_le (by simp),
          List.drop_eq_nil_of_le (by simpa using hle)]
    simp only [hdrop]
    rw [List.append_assoc, List.take_append_drop]
    exact h.front
  · obtain ⟨hk, q, hseq, hlen, hplace⟩ := h.saved g hg
    refine ⟨hk, q, hseq, hlen, fun j hj hqj hlt => ?_⟩
    obtain ⟨hroom, hbyte⟩ := hplace j hj hqj hlt
    obtain ⟨hle, rfl⟩ := PseudoTcpFifo.consumeReadData_eq_ok.mp hcons
    refine ⟨?_, ?_⟩
    · dsimp only
      omega
    · simp only [hat]
      rw [hbyte]
      congr 2
      omega

end Follows

/-! ### Trimming -/

/-- What is not too old of a piece is a piece, behind the bytes in order. -/
lemma trimOld_piece {data : Bytes} (hn : n < 2147483648) (hlen : p + data.length < 2147483648)
    (hdata : data = (stream.drop p).take data.length) :
    ∃ q rest, Incoming.trimOld (UInt32.ofNat n) (UInt32.ofNat p) data = (UInt32.ofNat q, rest) ∧
      p ≤ q ∧ rest = (stream.drop q).take rest.length ∧ q + rest.length ≤ p + data.length ∧
      (rest ≠ [] → n ≤ q) := by
  have hahead : ahead (UInt32.ofNat p) (UInt32.ofNat n) = (p : ℤ) - n :=
    ofNat_ahead (by omega) (by omega)
  unfold Incoming.trimOld
  by_cases hold : p < n
  · have hsub : (UInt32.ofNat n - UInt32.ofNat p).toNat = n - p := by
      have hback : ahead (UInt32.ofNat p) (UInt32.ofNat n) < 0 := by omega
      have := toNat_sub_of_ahead_neg hback.le (by omega)
      omega
    rw [if_pos (smaller_iff.mpr (by omega))]
    simp only [hsub]
    split
    next hlt =>
      refine ⟨n, data.drop (n - p), ?_, hold.le, ?_, ?_, fun _ => le_rfl⟩
      · rw [← PseudoTcpSocket.ofNat_add, Nat.add_sub_cancel' hold.le]
      · conv_lhs => rw [hdata]
        rw [List.drop_take, List.drop_drop, List.length_drop, Nat.add_sub_cancel' hold.le]
      · rw [List.length_drop]
        omega
    next => exact ⟨p, [], rfl, le_rfl, by simp, by simp, by simp⟩
  · rw [if_neg (by rw [smaller_iff]; omega)]
    exact ⟨p, data, rfl, le_rfl, hdata, le_rfl, fun _ => by omega⟩

/-- What fits of a piece is a piece, and it fits. -/
lemma trimNew_piece {data : Bytes} {w : ℕ} (hlen : p + data.length < 2147483648)
    (hdata : data = (stream.drop p).take data.length) (hnew : data ≠ [] → n ≤ p) :
    ∃ rest, Incoming.trimNew (UInt32.ofNat n) (UInt32.ofNat p) data w = rest ∧
      rest = (stream.drop p).take rest.length ∧ rest.length ≤ data.length ∧
      (rest ≠ [] → p - n + rest.length ≤ w) := by
  refine ⟨_, rfl, ?_⟩
  unfold Incoming.trimNew
  by_cases h0 : data = []
  · subst h0
    dsimp only
    split
    · split <;> simp
    · simp
  have hp := hnew h0
  have hlast : (UInt32.ofNat p + UInt32.ofNat data.length - UInt32.ofNat n).toNat =
      p + data.length - n := by
    rw [← PseudoTcpSocket.ofNat_add]
    have hahead : ahead (UInt32.ofNat (p + data.length)) (UInt32.ofNat n) =
        ((p + data.length : ℕ) : ℤ) - n := ofNat_ahead (by omega) (by omega)
    have := toNat_sub_of_ahead (a := UInt32.ofNat (p + data.length)) (b := UInt32.ofNat n)
      (by omega)
    omega
  simp only [hlast]
  split
  next hbig =>
    split
    next hlt =>
      have hrest : (data.take (data.length - (p + data.length - n - w))).length =
          data.length - (p + data.length - n - w) := by
        rw [List.length_take]
        omega
      have htake := congrArg (List.take (data.length - (p + data.length - n - w))) hdata
      rw [List.take_take, Nat.min_eq_left (by omega)] at htake
      exact ⟨by rw [hrest]; exact htake, by omega, fun _ => by omega⟩
    next => simp
  next => exact ⟨hdata, le_rfl, fun _ => by omega⟩

/-! ### Taking a segment in -/

namespace Incoming

variable {r : Incoming} {seg : Segment}

/-- Segments saved out of order join the data in order. -/
lemma recoverLoop_follows (hlong : stream.length + 1 < 2147483648) (sflags : SendFlags)
    (rlist : List RSegment) (r : Incoming) (n : ℕ)
    (h : Follows k stream delivered { r with rlist } n fins) :
    Post (fun _ => True) (fun p => ∃ n', n ≤ n' ∧ Follows k stream delivered p.1 n' fins)
      (r.recoverLoop sflags rlist) := by
  induction rlist generalizing r sflags n with
  | nil => exact Post.ok ⟨n, le_rfl, h⟩
  | cons g rlist ih =>
      obtain ⟨hk, q, hseq, hlen, hplace⟩ := h.saved g List.mem_cons_self
      have hfin := h.fin
      have hle := h.le
      have hnxt : r.rcvNxt = UInt32.ofNat (n + fins) := h.nxt
      have hend : g.seq + UInt32.ofNat g.len = UInt32.ofNat (q + g.len) := by
        rw [hseq, ← PseudoTcpSocket.ofNat_add]
      have hfar : ahead (g.seq + UInt32.ofNat g.len) r.rcvNxt =
          ((q + g.len : ℕ) : ℤ) - (n + fins : ℕ) := by
        rw [hend, hnxt]
        exact ofNat_ahead (by omega) (by omega)
      have hnear : ahead g.seq r.rcvNxt = (q : ℤ) - (n + fins : ℕ) := by
        rw [hseq, hnxt]
        exact ofNat_ahead (by omega) (by omega)
      have hrest : Follows k stream delivered { r with rlist } n fins :=
        h.of_saved fun x hx => List.mem_cons_of_mem g hx
      unfold recoverLoop
      refine Post.ite (fun hold => ?_) fun _ => Post.ok ⟨n, le_rfl, h⟩
      rw [smallerOrEqual_iff, hnear] at hold
      refine Post.ite (fun hnew => ?_) fun _ => ih _ _ _ hrest
      rw [larger_iff, hfar] at hnew
      -- a segment with new bytes is not behind a FIN
      obtain rfl : fins = 0 := by omega
      have hcount : (g.seq + UInt32.ofNat g.len - r.rcvNxt).toNat = q + g.len - n := by
        have := toNat_sub_of_ahead (a := g.seq + UInt32.ofNat g.len) (b := r.rcvNxt) (by omega)
        omega
      have hq : r.rcvNxt + (g.seq + UInt32.ofNat g.len - r.rcvNxt) =
          UInt32.ofNat (n + (q + g.len - n)) := by
        rw [UInt32.add_comm, UInt32.sub_add_cancel, hend]
        congr 1
        omega
      refine Post.bind (Post.of_forall fun _ hb => hb) fun b hb => ?_
      rw [hcount] at hb
      have htaken := hrest.take hk (by omega) (fun j h1 h2 => hplace j h1 (by omega) (by omega)) hb
        hq (r.rcvWnd - (g.seq + UInt32.ofNat g.len - r.rcvNxt))
      refine (ih _ _ _ htaken).imp ?_
      rintro p ⟨n', hn', hp⟩
      exact ⟨n', by omega, hp⟩

/-- The new segment is in the list, besides the old ones. -/
lemma mem_insertSegment {g x : RSegment} {l : List RSegment} :
    x ∈ insertSegment g l ↔ x = g ∨ x ∈ l := by
  induction l with
  | nil => simp [insertSegment]
  | cons e l ih =>
      unfold insertSegment
      split
      · simp only [List.mem_cons, ih]
        tauto
      · simp only [List.mem_cons]

/-- A piece that fits is stored in its place. -/
lemma receiveData_follows (hlong : stream.length + 1 < 2147483648)
    (h : Follows k stream delivered r n fins) {data : Bytes} (h0 : data ≠ [])
    (hdata : data = (stream.drop p).take data.length) (hk : k ≤ n) (hnew : n + fins ≤ p)
    (hfits : p - (n + fins) + data.length ≤ r.rbuf.getWriteRemaining) (sflags : SendFlags) :
    Post (fun _ => True) (fun q => ∃ n', n ≤ n' ∧ Follows k stream delivered q.1 n' fins)
      (r.receiveData (UInt32.ofNat p) data sflags) := by
  have hend := stretch_le hdata h0
  have hpos := List.length_pos_of_ne_nil h0
  have hnxt := h.nxt
  obtain rfl : fins = 0 := by
    have := h.fin
    omega
  rw [Nat.add_zero] at hnew hfits hnxt
  have hoffset : (UInt32.ofNat p - r.rcvNxt).toNat = p - n := by
    have hahead : ahead (UInt32.ofNat p) r.rcvNxt = (p : ℤ) - n := by
      rw [hnxt]
      exact ofNat_ahead (by omega) (by omega)
    have := toNat_sub_of_ahead (a := UInt32.ofNat p) (b := r.rcvNxt) (by omega)
    omega
  have hheld {j : ℕ} (hj : n ≤ j) (hin : Holds stream r.rbuf n j ∨ p ≤ j ∧ j < p + data.length) :=
    Holds.store h.wf hnew hdata hfits hj hin
  have hstored : Follows k stream delivered
      { r with rbuf := (r.rbuf.writeOffset data (p - n)).1 } n 0 :=
    { h with
      wf := PseudoTcpFifo.writeOffset_wf h.wf _ _
      front := by
        have hcontents : (r.rbuf.writeOffset data (p - n)).1.contents = r.rbuf.contents := by
          apply List.ext_getElem?
          intro i
          by_cases hi : i < r.rbuf.dataLength
          · have hroom := h.wf.data
            rw [PseudoTcpFifo.contents_getElem? (by simpa using hi),
              PseudoTcpFifo.contents_getElem? hi,
              PseudoTcpFifo.writeOffset_byteAt h.wf hfits (by omega), if_neg (by omega)]
          · rw [List.getElem?_eq_none (by simpa using hi), List.getElem?_eq_none (by simpa using hi)]
        simp only [hcontents]
        exact h.front
      saved := fun g hg => by
        obtain ⟨hk', q, hseq, hlen, hplace⟩ := h.saved g hg
        exact ⟨hk', q, hseq, hlen, fun j h1 h2 h3 => hheld h1 (.inl (hplace j h1 h2 h3))⟩ }
  unfold receiveData
  simp only [hoffset]
  refine Post.ite (fun _ => Post.error trivial) fun _ => Post.ite (fun hnext => ?_) fun _ => ?_
  · -- in order
    obtain rfl : p = n := by
      have := congrArg (ahead · r.rcvNxt) hnext
      simp only [ahead_self] at this
      rw [hnxt, ofNat_ahead (by omega) (by omega)] at this
      omega
    refine Post.bind (Post.of_forall fun _ hb => hb) fun b hb => ?_
    have htaken := hstored.take hk hend (fun j h1 h2 => hheld h1 (.inr ⟨h1, h2⟩)) hb
      (q := r.rcvNxt + UInt32.ofNat data.length)
      (by rw [hnxt, PseudoTcpSocket.ofNat_add]) (r.rcvWnd - UInt32.ofNat data.length)
    refine Post.bind (recoverLoop_follows hlong sflags r.rlist _ _ htaken) ?_
    rintro q ⟨n', hn', hq⟩
    exact Post.pure ⟨n', by omega, hq⟩
  · -- out of order
    refine Post.ok ⟨n, le_rfl, ?_⟩
    refine { hstored with saved := fun g hg => ?_ }
    rcases mem_insertSegment.mp hg with rfl | hg
    · exact ⟨hk, p, rfl, hend, fun j h1 h2 h3 => hheld h1 (.inr ⟨h2, h3⟩)⟩
    · exact hstored.saved g hg

lemma ackFlags_of_not_fin (hfin : seg.flags.has FLAG_FIN = false) (ackDelay : UInt32) :
    (r.ackFlags ackDelay seg).1 = r := by
  unfold ackFlags
  split
  · rfl
  · split
    · split <;> rfl
    · simp [hfin]

/-- A FIN behind the whole stream. -/
lemma receive_fin_follows (hlong : stream.length + 1 < 2147483648)
    (h : Follows k stream delivered r n fins) (hfin : seg.flags.has FLAG_FIN = true)
    (hdata : seg.data = []) (hseq : seg.seq = UInt32.ofNat stream.length) (ackDelay : UInt32)
    (ignoreData : Bool) :
    Post (fun _ => True)
      (fun q => ∃ n' fins', n + fins ≤ n' + fins' ∧ Follows k stream delivered q.1 n' fins')
      (r.receive ackDelay ignoreData seg) := by
  have hle := h.le
  have hfins := h.fin
  have hold (q : UInt32) : trimOld q seg.seq seg.data = (seg.seq, []) := by
    unfold trimOld
    rw [hdata]
    split
    · rfl
    · rfl
  unfold receive
  by_cases hnext : seg.seq = r.rcvNxt
  · -- the FIN is in order
    have hack : r.ackFlags ackDelay seg = ({ r with rcvNxt := r.rcvNxt + 1 }, .immediateAck) := by
      simp [ackFlags, hnext, hdata, hfin]
    have hlast : n + fins = stream.length := by
      have := congrArg (ahead · (UInt32.ofNat (n + fins))) (hseq.symm.trans (hnext.trans h.nxt))
      simp only [ahead_self] at this
      rw [ofNat_ahead (by omega) (by omega)] at this
      omega
    obtain rfl : fins = 0 := by omega
    have hne : ¬ seg.seq = r.rcvNxt + 1 := by
      rw [hnext]
      simp
    simp only [hack, hold, hfin, if_true, if_neg hne]
    refine Post.ok ⟨n, 1, by omega, { h with nxt := ?_, fin := .inr ⟨rfl, by omega⟩ }⟩
    rw [h.nxt, Nat.add_zero, PseudoTcpSocket.ofNat_add]
    rfl
  · have hack : r.ackFlags ackDelay seg = (r, .immediateAck) := by simp [ackFlags, hnext]
    simp only [hack, hold, hfin, if_true, if_neg hnext]
    exact Post.ok ⟨n, fins, le_rfl, h⟩

/-- **The receive queue follows the stream**: whatever piece of it arrives is cut to what is new and
fits, and is stored in its place.  Data that arrive ahead of control data would be misplaced. -/
theorem receive_follows (hlong : stream.length + 1 < 2147483648)
    (h : Follows k stream delivered r n fins) (hpiece : Piece k stream seg) {ignoreData : Bool}
    (hignore : ignoreData = seg.flags.has FLAG_CTL)
    (hk : seg.flags.has FLAG_CTL = false → seg.data ≠ [] → k ≤ n + fins) (ackDelay : UInt32) :
    Post (fun _ => True)
      (fun q => ∃ n' fins', n + fins ≤ n' + fins' ∧ Follows k stream delivered q.1 n' fins')
      (r.receive ackDelay ignoreData seg) := by
  cases hfin : seg.flags.has FLAG_FIN with
  | true =>
      obtain ⟨hdata, hseq⟩ := hpiece.fin hfin
      exact receive_fin_follows hlong h hfin hdata hseq _ _
  | false =>
  have hle := h.le
  have hfins := h.fin
  have hnxt := h.nxt
  have hack := ackFlags_of_not_fin (r := r) hfin ackDelay
  unfold receive
  generalize r.ackFlags ackDelay seg = a at hack
  obtain ⟨r₁, sflags⟩ := a
  obtain rfl : r₁ = r := hack
  by_cases h0 : seg.data = []
  · have hold : trimOld r₁.rcvNxt seg.seq [] = (seg.seq, []) := by
      unfold trimOld
      split <;> rfl
    have hnew : trimNew r₁.rcvNxt seg.seq [] r₁.rbuf.getWriteRemaining = [] := by
      simp [trimNew]
    simp only [h0, hold, hnew, hfin, List.length_nil, Nat.lt_irrefl, if_false, Bool.false_eq_true,
      gt_iff_lt]
    exact Post.ok ⟨n, fins, le_rfl, h⟩
  obtain ⟨p, hseq, hdata, hctl, hplain⟩ := hpiece.data h0
  have hend := stretch_le hdata h0
  obtain ⟨q, old, hold, hpq, hstretch, hoend, honew⟩ :=
    trimOld_piece (n := n + fins) (by omega) (by omega) hdata
  obtain ⟨rest, hrest, hrdata, hrlen, hrfits⟩ :=
    trimNew_piece (w := r₁.rbuf.getWriteRemaining) (by omega) hstretch honew
  simp only [hseq, hnxt, hold, hrest, hfin, if_false, Bool.false_eq_true]
  refine Post.ite (fun hpos => ?_) fun _ => Post.ok ⟨n, fins, le_rfl, h⟩
  have hne : rest ≠ [] := List.ne_nil_of_length_pos hpos
  have hnq : n + fins ≤ q := honew (List.ne_nil_of_length_pos (by omega))
  have hrend := stretch_le hrdata hne
  refine Post.ite (fun hig => ?_) fun hig => ?_
  · -- control data count, and are not kept
    have hkq : q + rest.length ≤ k := by
      have := hctl (by rw [← hignore]; exact hig)
      omega
    obtain rfl : fins = 0 := by omega
    have hnk : ¬ k ≤ n := by omega
    refine Post.ite (fun hnext => ?_) fun _ => Post.ok ⟨n, 0, le_rfl, h⟩
    obtain rfl : q = n := by
      have := congrArg (ahead · (UInt32.ofNat (n + 0))) hnext
      simp only [ahead_self] at this
      rw [ofNat_ahead (by omega) (by omega)] at this
      omega
    refine Post.ok ⟨q + rest.length, 0, by omega,
      { h with
        nxt := ?_
        le := hrend
        fin := .inl rfl
        front := ?_
        saved := fun g hg => absurd (h.saved g hg).1 hnk }⟩
    · exact (PseudoTcpSocket.ofNat_add _ _).symm
    · have hfront := h.front
      rw [List.drop_eq_nil_of_le (by rw [List.length_take]; omega)] at hfront
      rw [List.drop_eq_nil_of_le (by rw [List.length_take]; omega)]
      exact hfront
  · have hdataseg : seg.flags.has FLAG_CTL = false := by
      rw [← hignore]
      simpa using hig
    have hkp := hplain hdataseg
    have hkn := hk hdataseg h0
    have hkn' : k ≤ n := by omega
    refine (receiveData_follows hlong h hne hrdata hkn' hnq (hrfits hne) sflags).imp ?_
    rintro x ⟨n', hn', hx⟩
    exact ⟨n', fins, by omega, hx⟩

end Incoming

end LibNice.PseudoTcp
