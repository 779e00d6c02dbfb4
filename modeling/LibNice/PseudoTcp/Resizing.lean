import LibNice.PseudoTcp.ReceiveWindow

/-!
Resizing the buffers of a socket.

* `PseudoTcpFifo.Resizes`: a buffer is resized as its caller expects.
* `PseudoTcpSocket.SizesAgree`: the recorded sizes of the buffers are the real ones.
* `roundedSize_eq`: the size that `resize_receive_buffer` sets.
* `resize_iff`: **resizing works** exactly unless the new size is the amount of data in a larger
  buffer, or less than what is to be sent; `resize_full` is a buffer that keeps its size.
-/

namespace LibNice.PseudoTcp

open LibNice.Foundation

/-! ### Buffers -/

namespace PseudoTcpFifo

variable {b : PseudoTcpFifo} {memory : ℕ → UInt8} {size : ℕ}

/-- A size that is too small is refused and changes nothing; any other becomes the capacity, and
the data stay. -/
structure Resizes (memory : ℕ → UInt8) (b : PseudoTcpFifo) (size : ℕ) : Prop where
  refused_iff : (b.setCapacity memory size).2 = false ↔ size < b.dataLength
  refused : (b.setCapacity memory size).2 = false → (b.setCapacity memory size).1 = b
  bufferLength : (b.setCapacity memory size).2 = true →
    (b.setCapacity memory size).1.bufferLength = size
  contents : (b.setCapacity memory size).2 = true →
    (b.setCapacity memory size).1.contents = b.contents

/-- The new size is not the amount of data in a larger buffer. -/
def Differs (b : PseudoTcpFifo) (size : ℕ) : Prop := size = b.dataLength → b.bufferLength = size

instance (b : PseudoTcpFifo) (size : ℕ) : Decidable (b.Differs size) :=
  inferInstanceAs (Decidable (_ → _))

/-- The capacity after a size that is not too small. -/
lemma setCapacity_bufferLength (memory : ℕ → UInt8) (hb : b.Wf) (h : b.dataLength ≤ size)
    (h0 : 0 < size) :
    (b.setCapacity memory size).1.bufferLength = size ↔ b.Differs size := by
  obtain ⟨b', hset, -, -, -, hlen⟩ := setCapacity_of_le memory hb h h0
  rw [hset]
  dsimp only
  rw [hlen]
  unfold Differs
  by_cases hsize : size = b.dataLength
  · rw [if_pos hsize]
    exact ⟨fun h _ => h, fun h => h hsize⟩
  · rw [if_neg hsize]
    exact iff_of_true rfl fun h => absurd h hsize

/-- **A buffer is resized** unless the new size is the amount of data in a larger buffer. -/
lemma resizes_iff (memory : ℕ → UInt8) (hb : b.Wf) (h0 : 0 < size) :
    b.Resizes memory size ↔ b.Differs size := by
  rcases Nat.lt_or_ge size b.dataLength with hlt | hle
  · have hset : b.setCapacity memory size = (b, false) := setCapacity_of_gt hlt
    refine iff_of_true ⟨?_, ?_, ?_, ?_⟩ fun h => absurd h hlt.ne
    · rw [hset]
      exact iff_of_true rfl hlt
    · rw [hset]
      exact fun _ => rfl
    · rw [hset]
      exact fun h => Bool.noConfusion h
    · rw [hset]
      exact fun h => Bool.noConfusion h
  · rw [← setCapacity_bufferLength memory hb hle h0]
    obtain ⟨b', hset, -, -, hcontents, -⟩ := setCapacity_of_le memory hb hle h0
    refine ⟨fun h => h.bufferLength (by rw [hset]), fun h => ⟨?_, ?_, fun _ => h, ?_⟩⟩
    · rw [hset]
      exact iff_of_false (fun h => Bool.noConfusion h) (by omega)
    · rw [hset]
      exact fun h => Bool.noConfusion h
    · rw [hset]
      exact fun _ => hcontents

end PseudoTcpFifo

/-! ### Sockets -/

namespace PseudoTcpSocket

variable {env : Env} {s s' : PseudoTcpSocket} {newSize : UInt32}

/-- The recorded sizes of the buffers are the real ones, and the size of the receive buffer is a
multiple of its scale. -/
structure SizesAgree (s : PseudoTcpSocket) : Prop where
  rbuf : s.rbuf.Wf
  sbuf : s.sbuf.Wf
  rbufLen : s.rbufLen.toNat = s.rbuf.bufferLength
  sbufLen : s.sbufLen.toNat = s.sbuf.bufferLength
  scaled : 2 ^ s.rwndScale.toNat ∣ s.rbuf.bufferLength

/-- The receive buffer has the wanted size, rounded down to a multiple of its scale, and its
recorded size is its real one. -/
def ReceivesIn (s : PseudoTcpSocket) (newSize : UInt32) : Prop :=
  s.rbufLen.toNat = s.rbuf.bufferLength ∧
    s.rbuf.bufferLength = newSize.toNat / 2 ^ s.rwndScale.toNat * 2 ^ s.rwndScale.toNat

/-- The size that `resize_receive_buffer` sets is the wanted one, rounded down to a multiple of
the scale. -/
lemma roundedSize_eq (h0 : 0 < newSize) :
    (roundedSize newSize).toNat =
      newSize.toNat / 2 ^ (scaleFactor 32 newSize).1.toNat *
        2 ^ (scaleFactor 32 newSize).1.toNat := by
  have hn := newSize.toNat_lt
  have hpos : 0 < newSize.toNat := UInt32.lt_iff_toNat_lt.mp h0
  obtain ⟨h1, h2, h3, h4⟩ := scaleFactor_spec 32 newSize (hn.trans_le (by norm_num)) (by omega)
  unfold roundedSize
  generalize scaleFactor 32 newSize = r at h1 h2 h3 h4
  obtain ⟨scale, size⟩ := r
  dsimp only at h1 h2 h3 h4 ⊢
  have hlt : scale.toNat < 32 := by
    have hsize := h4 hpos
    by_contra hge
    have hscale : scale.toNat = 32 := by omega
    rw [hscale] at h3
    omega
  have hle : size.toNat * 2 ^ scale.toNat ≤ newSize.toNat := by
    rw [h3]
    exact Nat.div_mul_le_self _ _
  have hmod : scale.toUInt32.toNat % 32 = scale.toNat := by
    rw [UInt8.toNat_toUInt32]
    exact Nat.mod_eq_of_lt hlt
  rw [UInt32.toNat_shiftLeft, hmod, Nat.shiftLeft_eq, ← h3]
  exact Nat.mod_eq_of_lt (by omega)

/-- **The receive buffer is resized** unless the new size is the amount of data in a larger
buffer. -/
lemma resizeReceiveBuffer_iff (env : Env) (hs : s.SizesAgree) (h0 : 0 < newSize) :
    (∀ s', s.resizeReceiveBuffer env newSize = .ok s' → s'.ReceivesIn newSize) ↔
      (s.rbufLen ≠ newSize → s.rbuf.Differs (roundedSize newSize).toNat) := by
  have hround := roundedSize_eq h0
  have hpos : 0 < (roundedSize newSize).toNat :=
    (roundedSize_spec newSize).2 (UInt32.lt_iff_toNat_lt.mp h0)
  unfold resizeReceiveBuffer
  by_cases heq : s.rbufLen = newSize
  · rw [if_pos heq]
    refine iff_of_true ?_ fun h => absurd heq h
    rintro s' ⟨⟩
    refine ⟨hs.rbufLen, ?_⟩
    rw [← heq, hs.rbufLen]
    exact (Nat.div_mul_cancel hs.scaled).symm
  · rw [if_neg heq]
    have hsize : (scaleFactor 32 newSize).2 <<< (scaleFactor 32 newSize).1.toUInt32 =
        roundedSize newSize := rfl
    dsimp only
    rw [hsize]
    refine Iff.trans ?_ ⟨fun h _ => h, fun h => h heq⟩
    rcases Nat.lt_or_ge (roundedSize newSize).toNat s.rbuf.dataLength with hlt | hle
    · rw [PseudoTcpFifo.setCapacity_of_gt hlt]
      refine iff_of_true (fun s' h => ?_) fun h => absurd h hlt.ne
      cases h
    · rw [← PseudoTcpFifo.setCapacity_bufferLength env.memory hs.rbuf hle hpos]
      obtain ⟨b', hset, -⟩ := PseudoTcpFifo.setCapacity_of_le env.memory hs.rbuf hle hpos
      rw [hset]
      dsimp only
      constructor
      · intro h
        obtain ⟨hlen, -⟩ := h _ rfl
        exact hlen.symm
      · rintro hlen s' ⟨⟩
        exact ⟨hlen.symm, hlen.trans hround⟩

/-- **The send buffer is resized** unless the new size is the amount of data in a larger buffer, or
less. -/
lemma resizeSendBuffer_iff (env : Env) (hs : s.SizesAgree) (h0 : 0 < newSize) :
    (s.resizeSendBuffer env newSize).sbufLen.toNat =
        (s.resizeSendBuffer env newSize).sbuf.bufferLength ↔
      s.sbuf.dataLength ≤ newSize.toNat ∧ s.sbuf.Differs newSize.toNat := by
  have hdata := hs.sbuf.data
  change newSize.toNat = (s.sbuf.setCapacity env.memory newSize.toNat).1.bufferLength ↔ _
  rcases Nat.lt_or_ge newSize.toNat s.sbuf.dataLength with hlt | hle
  · rw [PseudoTcpFifo.setCapacity_of_gt hlt]
    dsimp only
    exact iff_of_false (by omega) fun h => absurd h.1 (by omega)
  · rw [eq_comm, PseudoTcpFifo.setCapacity_bufferLength env.memory hs.sbuf hle
      (UInt32.lt_iff_toNat_lt.mp h0)]
    exact ⟨fun h => ⟨hle, h⟩, fun h => h.2⟩

end PseudoTcpSocket

open PseudoTcpSocket

/-! ### The condition -/

/-- **Resizing works** exactly unless the new size is the amount of data in a larger buffer, or, of
the send buffer, less than the data in it. -/
theorem resize_iff (env : Env) (b : PseudoTcpFifo) (hb : b.Wf) (size : ℕ) (h0 : 0 < size)
    (s : PseudoTcpSocket) (hs : s.SizesAgree) (newSize : UInt32) (hnew : 0 < newSize) :
    (b.Resizes env.memory size ↔ b.Differs size) ∧
    ((∀ s', s.resizeReceiveBuffer env newSize = .ok s' → s'.ReceivesIn newSize) ↔
      (s.rbufLen ≠ newSize → s.rbuf.Differs (roundedSize newSize).toNat)) ∧
    ((s.resizeSendBuffer env newSize).sbufLen.toNat =
        (s.resizeSendBuffer env newSize).sbuf.bufferLength ↔
      s.sbuf.dataLength ≤ newSize.toNat ∧ s.sbuf.Differs newSize.toNat) :=
  ⟨PseudoTcpFifo.resizes_iff env.memory hb h0, resizeReceiveBuffer_iff env hs hnew,
    resizeSendBuffer_iff env hs hnew⟩

/-- A new buffer of 10 bytes with 5 of them in use. -/
def halfFull : PseudoTcpFifo := ((PseudoTcpFifo.init (fun _ => 0) 10).write [1, 2, 3, 4, 5]).1

lemma halfFull_wf : halfFull.Wf := PseudoTcpFifo.write_wf (PseudoTcpFifo.init_wf (by decide)) _

/-- A buffer that is half full grows to 20 bytes, and a new socket gets a receive buffer of
100000 bytes. -/
theorem resize_iff_sample :
    let env : Env := ⟨fun _ => 0, fun _ => 0, fun _ _ => .success⟩
    let s := pseudoTcpSocketNew 7 true (fun _ => 0) (fun _ => 0)
    halfFull.Resizes env.memory 20 ∧
      ∀ s', s.resizeReceiveBuffer env 100000 = .ok s' → s'.ReceivesIn 100000 := by
  intro env s
  have hs : s.SizesAgree :=
    ⟨PseudoTcpFifo.init_wf (by decide), PseudoTcpFifo.init_wf (by decide), rfl, rfl, by decide⟩
  have h := resize_iff env halfFull halfFull_wf 20 (by decide) s hs 100000 (by decide)
  exact ⟨h.1.mpr (by decide), h.2.1.mpr fun _ => by decide⟩

/-- **A buffer keeps its size** when the new one is the amount of data in it: the call succeeds. -/
theorem resize_full :
    halfFull.Wf ∧ (halfFull.setCapacity (fun _ => 0) 5).2 = true ∧
      (halfFull.setCapacity (fun _ => 0) 5).1.bufferLength = 10 ∧
      ¬ halfFull.Resizes (fun _ => 0) 5 := by
  refine ⟨halfFull_wf, by decide, by decide, fun h => ?_⟩
  exact absurd (h.bufferLength (by decide)) (by decide)

end LibNice.PseudoTcp
