import LibNice.PseudoTcp.Types

/-!
`PseudoTcpFifo`: the ring buffers of a socket.

* `PseudoTcpFifo`: a block of memory with a position and a number of bytes, and the
  operations of the source on it.
* `PseudoTcpFifo.Wf`: the bounds that keep the accesses inside the block.
* `PseudoTcpFifo.byteAt`, `PseudoTcpFifo.contents`: the byte some places behind the read
  position, and the bytes in the buffer.  Every operation has one lemma that says what
  it does to them.
-/

namespace LibNice.PseudoTcp

open LibNice.Foundation

/-! ### The buffer of the source -/

/-- `PseudoTcpFifo`. -/
structure PseudoTcpFifo where
  buffer : ℕ → UInt8
  bufferLength : ℕ
  dataLength : ℕ
  readPosition : ℕ

namespace PseudoTcpFifo

/-- `pseudo_tcp_fifo_init`; nobody has written to the `memory` yet. -/
def init (memory : ℕ → UInt8) (size : ℕ) : PseudoTcpFifo :=
  { buffer := memory, bufferLength := size, dataLength := 0, readPosition := 0 }

/-- `pseudo_tcp_fifo_get_buffered`. -/
def getBuffered (b : PseudoTcpFifo) : ℕ := b.dataLength

/-- `pseudo_tcp_fifo_get_write_remaining`. -/
def getWriteRemaining (b : PseudoTcpFifo) : ℕ := b.bufferLength - b.dataLength

/-- `pseudo_tcp_fifo_set_capacity`, with the block of memory it allocates. -/
def setCapacity (memory : ℕ → UInt8) (b : PseudoTcpFifo) (size : ℕ) : PseudoTcpFifo × Bool :=
  if b.dataLength > size then (b, false)
  else if size ≠ b.dataLength then
    ({ b with
        buffer := store memory 0 (ringLoad b.buffer b.bufferLength b.readPosition b.dataLength)
        bufferLength := size
        readPosition := 0 }, true)
  else (b, true)

/-- `pseudo_tcp_fifo_consume_read_data`. -/
def consumeReadData (b : PseudoTcpFifo) (size : ℕ) : Except Abort PseudoTcpFifo :=
  if size ≤ b.dataLength then
    .ok { b with
      readPosition := (b.readPosition + size) % b.bufferLength
      dataLength := b.dataLength - size }
  else .error .consumeReadData

/-- `pseudo_tcp_fifo_consume_write_buffer`. -/
def consumeWriteBuffer (b : PseudoTcpFifo) (size : ℕ) : Except Abort PseudoTcpFifo :=
  if size ≤ b.bufferLength - b.dataLength then .ok { b with dataLength := b.dataLength + size }
  else .error .consumeWriteBuffer

/-- `pseudo_tcp_fifo_read_offset`: the bytes it copies. -/
def readOffset (b : PseudoTcpFifo) (bytes offset : ℕ) : Bytes :=
  if offset ≥ b.dataLength then []
  else
    ringLoad b.buffer b.bufferLength ((b.readPosition + offset) % b.bufferLength)
      (min bytes (b.dataLength - offset))

/-- `pseudo_tcp_fifo_write_offset`: the buffer, and how many bytes it takes. -/
def writeOffset (b : PseudoTcpFifo) (data : Bytes) (offset : ℕ) : PseudoTcpFifo × ℕ :=
  if b.dataLength + offset ≥ b.bufferLength then (b, 0)
  else
    let copy := min data.length (b.bufferLength - b.dataLength - offset)
    ({ b with
        buffer := ringStore b.buffer b.bufferLength
          ((b.readPosition + b.dataLength + offset) % b.bufferLength) (data.take copy) }, copy)

/-- `pseudo_tcp_fifo_read`. -/
def read (b : PseudoTcpFifo) (bytes : ℕ) : PseudoTcpFifo × Bytes :=
  let data := b.readOffset bytes 0
  ({ b with
      readPosition := (b.readPosition + data.length) % b.bufferLength
      dataLength := b.dataLength - data.length }, data)

/-- `pseudo_tcp_fifo_write`. -/
def write (b : PseudoTcpFifo) (data : Bytes) : PseudoTcpFifo × ℕ :=
  let (b, copy) := b.writeOffset data 0
  ({ b with dataLength := b.dataLength + copy }, copy)

/-! ### What is in a buffer -/

/-- The bounds that keep the accesses to a buffer inside its block. -/
structure Wf (b : PseudoTcpFifo) : Prop where
  position : b.readPosition < b.bufferLength
  data : b.dataLength ≤ b.bufferLength

/-- The byte `k` places behind the read position. -/
def byteAt (b : PseudoTcpFifo) (k : ℕ) : UInt8 := ringAt b.buffer b.bufferLength b.readPosition k

/-- The bytes in the buffer, the next to be read first. -/
def contents (b : PseudoTcpFifo) : Bytes := (List.range b.dataLength).map b.byteAt

variable {b : PseudoTcpFifo} {memory : ℕ → UInt8} {data : Bytes} {n k offset : ℕ}

@[simp] lemma contents_length (b : PseudoTcpFifo) : b.contents.length = b.dataLength := by
  simp [contents]

lemma contents_getElem? (h : k < b.dataLength) : b.contents[k]? = some (b.byteAt k) := by
  simp [contents, h]

@[simp] lemma init_contents (memory : ℕ → UInt8) (size : ℕ) :
    (init memory size).contents = [] := rfl

lemma init_wf {size : ℕ} (h : 0 < size) : (init memory size).Wf := ⟨h, Nat.zero_le _⟩

/-! ### Reading -/

/-- The bytes copied out are the ones behind the offset. -/
lemma readOffset_eq (hb : b.Wf) (n offset : ℕ) :
    b.readOffset n offset = (b.contents.drop offset).take n := by
  unfold readOffset
  split
  next h => rw [List.drop_eq_nil_of_le (by simpa using h), List.take_nil]
  next h =>
    have hpos := hb.position
    have hdata := hb.data
    rw [ringLoad_eq (Nat.mod_lt _ (by omega)) (by omega)]
    apply List.ext_getElem
    · simp
    · intro i h1 h2
      simp only [List.length_map, List.length_range] at h1
      simp [contents, PseudoTcpFifo.byteAt, ringAt_add]

lemma readOffset_length (hb : b.Wf) (n offset : ℕ) :
    (b.readOffset n offset).length = min n (b.dataLength - offset) := by
  rw [readOffset_eq hb]
  simp

@[simp] lemma consumeReadData_eq_ok {b' : PseudoTcpFifo} :
    b.consumeReadData n = .ok b' ↔ n ≤ b.dataLength ∧
      b' = { b with
        readPosition := (b.readPosition + n) % b.bufferLength
        dataLength := b.dataLength - n } := by
  unfold consumeReadData
  split
  next h => simp [h, eq_comm]
  next h => simp [h]

lemma consumeReadData_wf {b' : PseudoTcpFifo} (hb : b.Wf) (h : b.consumeReadData n = .ok b') :
    b'.Wf := by
  obtain ⟨hn, rfl⟩ := consumeReadData_eq_ok.mp h
  have hpos := hb.position
  have hdata := hb.data
  exact ⟨Nat.mod_lt _ (by omega), by simp only; omega⟩

/-- A byte behind the ones that were read has moved up. -/
lemma consumeReadData_byteAt {b' : PseudoTcpFifo} (h : b.consumeReadData n = .ok b') (k : ℕ) :
    b'.byteAt k = b.byteAt (n + k) := by
  obtain ⟨-, rfl⟩ := consumeReadData_eq_ok.mp h
  exact ringAt_add ..

lemma consumeReadData_contents {b' : PseudoTcpFifo} (h : b.consumeReadData n = .ok b') :
    b'.contents = b.contents.drop n := by
  have hat := consumeReadData_byteAt h
  obtain ⟨hn, rfl⟩ := consumeReadData_eq_ok.mp h
  apply List.ext_getElem
  · simp
  · intro i h1 h2
    simp only [contents, List.getElem_map, List.getElem_range, List.getElem_drop]
    exact hat i

/-- Reading takes bytes off the front, as many as there are. -/
lemma read_eq (hb : b.Wf) (n : ℕ) :
    ∃ b', b.read n = (b', b.contents.take n) ∧
      b.consumeReadData (min n b.dataLength) = .ok b' := by
  have hoff : b.readOffset n 0 = b.contents.take n := readOffset_eq hb n 0
  have hlen : (b.contents.take n).length = min n b.dataLength := by simp
  refine ⟨_, ?_, consumeReadData_eq_ok.mpr ⟨min_le_right _ _, rfl⟩⟩
  simp only [read, hoff, hlen]

/-! ### Writing -/

lemma consumeWriteBuffer_eq_ok {b' : PseudoTcpFifo} :
    b.consumeWriteBuffer n = .ok b' ↔
      n ≤ b.bufferLength - b.dataLength ∧ b' = { b with dataLength := b.dataLength + n } := by
  unfold consumeWriteBuffer
  split
  next h => simp [h, eq_comm]
  next h => simp [h]

lemma consumeWriteBuffer_wf {b' : PseudoTcpFifo} (hb : b.Wf)
    (h : b.consumeWriteBuffer n = .ok b') : b'.Wf := by
  obtain ⟨hn, rfl⟩ := consumeWriteBuffer_eq_ok.mp h
  have hdata := hb.data
  exact ⟨hb.position, by simp only; omega⟩

lemma consumeWriteBuffer_byteAt {b' : PseudoTcpFifo} (h : b.consumeWriteBuffer n = .ok b') (k : ℕ) :
    b'.byteAt k = b.byteAt k := by
  obtain ⟨-, rfl⟩ := consumeWriteBuffer_eq_ok.mp h
  rfl

/-- The bytes taken over are the ones that were stored ahead of time. -/
lemma consumeWriteBuffer_contents {b' : PseudoTcpFifo} (h : b.consumeWriteBuffer n = .ok b') :
    b'.contents = b.contents ++ (List.range n).map fun i => b.byteAt (b.dataLength + i) := by
  obtain ⟨-, rfl⟩ := consumeWriteBuffer_eq_ok.mp h
  simp only [contents, List.range_add, List.map_append, List.map_map]
  rfl

lemma writeOffset_wf (hb : b.Wf) (data : Bytes) (offset : ℕ) :
    (b.writeOffset data offset).1.Wf := by
  unfold writeOffset
  split
  · exact hb
  · exact ⟨hb.position, hb.data⟩

@[simp] lemma writeOffset_bufferLength (b : PseudoTcpFifo) (data : Bytes) (offset : ℕ) :
    (b.writeOffset data offset).1.bufferLength = b.bufferLength := by
  unfold writeOffset
  split <;> rfl

@[simp] lemma writeOffset_dataLength (b : PseudoTcpFifo) (data : Bytes) (offset : ℕ) :
    (b.writeOffset data offset).1.dataLength = b.dataLength := by
  unfold writeOffset
  split <;> rfl

@[simp] lemma writeOffset_readPosition (b : PseudoTcpFifo) (data : Bytes) (offset : ℕ) :
    (b.writeOffset data offset).1.readPosition = b.readPosition := by
  unfold writeOffset
  split <;> rfl

/-- As many bytes are taken as fit behind the offset. -/
lemma writeOffset_count (b : PseudoTcpFifo) (data : Bytes) (offset : ℕ) :
    (b.writeOffset data offset).2 = min data.length (b.bufferLength - b.dataLength - offset) := by
  unfold writeOffset
  split
  next h => simp only; omega
  next h => rfl

/-- Bytes that fit are stored behind the offset; every other byte is as it was. -/
lemma writeOffset_byteAt (hb : b.Wf) (h : offset + data.length ≤ b.bufferLength - b.dataLength)
    (hk : k < b.bufferLength) :
    (b.writeOffset data offset).1.byteAt k =
      if b.dataLength + offset ≤ k then (data[k - (b.dataLength + offset)]?).getD (b.byteAt k)
      else b.byteAt k := by
  have hpos := hb.position
  have hdata := hb.data
  unfold writeOffset
  split
  next hfull =>
    have hnil : data = [] := List.eq_nil_of_length_eq_zero (by omega)
    simp [hnil]
  next hfree =>
    have htake : data.take (min data.length (b.bufferLength - b.dataLength - offset)) = data :=
      List.take_of_length_le (by omega)
    simp only [PseudoTcpFifo.byteAt, htake, add_assoc]
    exact ringStore_at hpos hk (by omega)

/-- Writing appends as many bytes as fit. -/
lemma write_contents (hb : b.Wf) (data : Bytes) :
    (b.write data).1.contents = b.contents ++ data.take (b.bufferLength - b.dataLength) ∧
      (b.write data).2 = min data.length (b.bufferLength - b.dataLength) := by
  have hpos := hb.position
  have hdata := hb.data
  have hcount := writeOffset_count b data 0
  refine ⟨?_, by simpa [write] using hcount⟩
  set fits := data.take (b.bufferLength - b.dataLength) with hfits
  have hlen : fits.length = min data.length (b.bufferLength - b.dataLength) := by
    rw [hfits, List.length_take, min_comm]
  have hsame : (b.writeOffset data 0).1 = (b.writeOffset fits 0).1 := by
    unfold writeOffset
    split
    · rfl
    · simp only [hlen, Nat.sub_zero]
      congr 2
      rw [hfits, List.take_take]
      congr 1
      omega
  apply List.ext_getElem
  · simp [write, hcount, hlen]
  · intro i h1 h2
    simp only [contents_length, List.length_append, hlen] at h2
    have hi : i < b.bufferLength := by omega
    have hfit : 0 + fits.length ≤ b.bufferLength - b.dataLength := by
      rw [hlen]
      omega
    have hat := writeOffset_byteAt hb hfit hi
    have hleft : (b.write data).1.contents[i] = (b.writeOffset data 0).1.byteAt i := by
      simp [write, contents, PseudoTcpFifo.byteAt]
    rw [hleft, hsame, hat, Nat.add_zero, List.getElem_append]
    simp only [contents_length]
    split
    next hge =>
      rw [dif_neg (by omega), List.getElem?_eq_getElem (by omega), Option.getD_some]
    next hlt =>
      rw [dif_pos (by omega)]
      simp [contents]

lemma write_wf (hb : b.Wf) (data : Bytes) : (b.write data).1.Wf := by
  have hdata := hb.data
  have hcount := writeOffset_count b data 0
  refine ⟨by simpa [write] using hb.position, ?_⟩
  simp only [write, writeOffset_dataLength, writeOffset_bufferLength, hcount]
  omega

@[simp] lemma write_bufferLength (b : PseudoTcpFifo) (data : Bytes) :
    (b.write data).1.bufferLength = b.bufferLength := by
  simp [write]

/-! ### Resizing -/

/-- The capacity is refused if the data do not fit. -/
lemma setCapacity_of_gt {size : ℕ} (h : size < b.dataLength) :
    b.setCapacity memory size = (b, false) := by
  rw [setCapacity, if_pos h]

/-- Otherwise the data stay, and the capacity is set unless the data fill it. -/
lemma setCapacity_of_le (memory : ℕ → UInt8) (hb : b.Wf) {size : ℕ} (h : b.dataLength ≤ size)
    (h0 : 0 < size) :
    ∃ b', b.setCapacity memory size = (b', true) ∧ b'.Wf ∧ b'.dataLength = b.dataLength ∧
      b'.contents = b.contents ∧
      b'.bufferLength = if size = b.dataLength then b.bufferLength else size := by
  have hpos := hb.position
  have hdata := hb.data
  unfold setCapacity
  rw [if_neg (by omega)]
  by_cases hsize : size = b.dataLength
  · rw [if_neg (by simpa using hsize), if_pos hsize]
    exact ⟨b, rfl, hb, rfl, rfl, rfl⟩
  · rw [if_pos hsize, if_neg hsize]
    refine ⟨_, rfl, ⟨h0, h⟩, rfl, ?_, rfl⟩
    apply List.ext_getElem
    · simp
    · intro i h1 h2
      simp only [contents_length] at h2
      have hi : (0 + i) % size = 0 + i := by
        rw [Nat.zero_add]
        exact Nat.mod_eq_of_lt (by omega)
      simp only [contents, List.getElem_map, List.getElem_range, byteAt, ringAt, hi]
      rw [ringLoad_eq hpos hdata, store_of_lt (by simpa using h2)]
      simp [ringAt]

end PseudoTcpFifo

end LibNice.PseudoTcp
