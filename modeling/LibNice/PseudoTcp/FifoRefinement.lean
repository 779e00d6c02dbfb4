import LibNice.Foundation.AheadQueue
import LibNice.PseudoTcp.Fifo

/-!
`PseudoTcpFifo` is a bounded queue with a write-ahead area.

* `PseudoTcpFifo.apply`: the operations of a buffer; `applyGsize` has them with the arithmetic of
  `gsize`, in the order of the source, and `applyGsize_eq` says that nobody can tell.
* `PseudoTcpFifo.Represents`: a buffer holds a queue and what is stored ahead of its end.
* `FifoStep.simulates`: every operation is one of the queue.
* `fifo_refines`: **a buffer is a queue with a write-ahead area** in every run of operations.
-/

namespace LibNice.PseudoTcp

open LibNice.Foundation

namespace PseudoTcpFifo

variable {b b' : PseudoTcpFifo} {data : Bytes} {n offset : ℕ}

/-! ### Operations -/

/-- An operation: the buffer after it, and what it returns. -/
def apply (b : PseudoTcpFifo) :
    AheadQueue.Op UInt8 → Except Abort (PseudoTcpFifo × AheadQueue.Ret UInt8)
  | .read n =>
      let (b, bytes) := b.read n
      .ok (b, .copied bytes)
  | .readOffset n offset => .ok (b, .copied (b.readOffset n offset))
  | .consumeReadData n => do
      let b ← b.consumeReadData n
      return (b, .none)
  | .write data =>
      let (b, n) := b.write data
      .ok (b, .count n)
  | .writeOffset data offset =>
      let (b, n) := b.writeOffset data offset
      .ok (b, .count n)
  | .consumeWriteBuffer n => do
      let b ← b.consumeWriteBuffer n
      return (b, .none)

/-- The sizes that may be consumed and the offsets that may be written at. -/
def Admits (b : PseudoTcpFifo) : AheadQueue.Op UInt8 → Prop
  | .consumeReadData n => n ≤ b.dataLength
  | .consumeWriteBuffer n => n ≤ b.bufferLength - b.dataLength
  | .writeOffset _ offset => b.dataLength + offset ≤ b.bufferLength
  | .read _ | .readOffset _ _ | .write _ => True

instance (b : PseudoTcpFifo) (op : AheadQueue.Op UInt8) : Decidable (b.Admits op) := by
  unfold Admits
  cases op <;> infer_instance

/-- What consumes bytes returns nothing. -/
lemma consumed_of_ok {m : Except Abort PseudoTcpFifo} {ret : AheadQueue.Ret UInt8}
    (h : (do
      let b ← m
      return (b, AheadQueue.Ret.none)) = .ok (b', ret)) : m = .ok b' ∧ ret = .none := by
  obtain ⟨c, hc, hret⟩ := bind_eq_ok.mp h
  obtain ⟨rfl, rfl⟩ := Prod.mk.inj (Except.ok.inj hret)
  exact ⟨hc, rfl⟩

/-! ### The arithmetic of `gsize` -/

/-- The sum of two `gsize`. -/
def gsizeAdd (m n : ℕ) : ℕ := (m + n) % 2 ^ 64

/-- The difference of two `gsize`. -/
def gsizeSub (m n : ℕ) : ℕ := (m + (2 ^ 64 - n)) % 2 ^ 64

lemma gsizeAdd_eq {m n : ℕ} (h : m + n < 2 ^ 64) : gsizeAdd m n = m + n := Nat.mod_eq_of_lt h

lemma gsizeSub_eq {m n : ℕ} (h : n ≤ m) (hm : m < 2 ^ 64) : gsizeSub m n = m - n := by
  unfold gsizeSub
  omega

/-- `pseudo_tcp_fifo_read_offset`, as the source computes it. -/
def readOffsetGsize (b : PseudoTcpFifo) (bytes offset : ℕ) : Bytes :=
  let available := gsizeSub b.dataLength offset
  let readPosition := gsizeAdd b.readPosition offset % b.bufferLength
  let copy := min bytes available
  let tailCopy := min copy (gsizeSub b.bufferLength readPosition)
  if offset ≥ b.dataLength then []
  else load b.buffer readPosition tailCopy ++ load b.buffer 0 (gsizeSub copy tailCopy)

/-- `pseudo_tcp_fifo_write_offset`, as the source computes it. -/
def writeOffsetGsize (b : PseudoTcpFifo) (data : Bytes) (offset : ℕ) : PseudoTcpFifo × ℕ :=
  let available := gsizeSub (gsizeSub b.bufferLength b.dataLength) offset
  let writePosition := gsizeAdd (gsizeAdd b.readPosition b.dataLength) offset % b.bufferLength
  let copy := min data.length available
  let tailCopy := min copy (gsizeSub b.bufferLength writePosition)
  if gsizeAdd b.dataLength offset ≥ b.bufferLength then (b, 0)
  else
    let buffer := store b.buffer writePosition (data.take tailCopy)
    ({ b with
        buffer := store buffer 0 ((data.drop tailCopy).take (gsizeSub copy tailCopy)) }, copy)

/-- An operation, as the source computes it. -/
def applyGsize (b : PseudoTcpFifo) :
    AheadQueue.Op UInt8 → Except Abort (PseudoTcpFifo × AheadQueue.Ret UInt8)
  | .read n =>
      let bytes := b.readOffsetGsize n 0
      .ok ({ b with
        readPosition := gsizeAdd b.readPosition bytes.length % b.bufferLength
        dataLength := gsizeSub b.dataLength bytes.length }, .copied bytes)
  | .readOffset n offset => .ok (b, .copied (b.readOffsetGsize n offset))
  | .consumeReadData n =>
      if n ≤ b.dataLength then
        .ok ({ b with
          readPosition := gsizeAdd b.readPosition n % b.bufferLength
          dataLength := gsizeSub b.dataLength n }, .none)
      else .error .consumeReadData
  | .write data =>
      let (b, n) := b.writeOffsetGsize data 0
      .ok ({ b with dataLength := gsizeAdd b.dataLength n }, .count n)
  | .writeOffset data offset =>
      let (b, n) := b.writeOffsetGsize data offset
      .ok (b, .count n)
  | .consumeWriteBuffer n =>
      if n ≤ gsizeSub b.bufferLength b.dataLength then
        .ok ({ b with dataLength := gsizeAdd b.dataLength n }, .none)
      else .error .consumeWriteBuffer

/-- Where an operation reads is a `gsize`. -/
def Addressable : AheadQueue.Op UInt8 → Prop
  | .readOffset _ offset => offset < 2 ^ 64
  | _ => True

section gsize

variable (hb : b.Wf) (hcap : b.bufferLength < 2 ^ 63)

include hb hcap

lemma readOffsetGsize_eq (hoff : offset < 2 ^ 64) :
    b.readOffsetGsize n offset = b.readOffset n offset := by
  have hpos := hb.position
  have hdata := hb.data
  unfold readOffsetGsize readOffset ringLoad
  by_cases h : offset ≥ b.dataLength
  · rw [if_pos h, if_pos h]
  · have hlt : (b.readPosition + offset) % b.bufferLength < b.bufferLength :=
      Nat.mod_lt _ (by omega)
    rw [if_neg h, if_neg h, gsizeSub_eq (by omega : offset ≤ b.dataLength) (by omega),
      gsizeAdd_eq (by omega), gsizeSub_eq hlt.le (by omega),
      gsizeSub_eq (min_le_left _ _) (by omega)]

lemma writeOffsetGsize_eq (hoff : b.dataLength + offset ≤ b.bufferLength) :
    b.writeOffsetGsize data offset = b.writeOffset data offset := by
  have hpos := hb.position
  have hdata := hb.data
  unfold writeOffsetGsize writeOffset ringStore
  rw [gsizeAdd_eq (by omega : b.dataLength + offset < 2 ^ 64)]
  by_cases h : b.dataLength + offset ≥ b.bufferLength
  · rw [if_pos h, if_pos h]
  · have hlt : (b.readPosition + b.dataLength + offset) % b.bufferLength < b.bufferLength :=
      Nat.mod_lt _ (by omega)
    rw [if_neg h, if_neg h, gsizeSub_eq (by omega : b.dataLength ≤ b.bufferLength) (by omega),
      gsizeSub_eq (by omega : offset ≤ b.bufferLength - b.dataLength) (by omega),
      gsizeAdd_eq (by omega : b.readPosition + b.dataLength < 2 ^ 64), gsizeAdd_eq (by omega),
      gsizeSub_eq hlt.le (by omega)]
    generalize (b.readPosition + b.dataLength + offset) % b.bufferLength = p at hlt ⊢
    generalize hcopy : min data.length (b.bufferLength - b.dataLength - offset) = copy
    rw [gsizeSub_eq (min_le_left _ _) (by omega)]
    have htail : data.take (min copy (b.bufferLength - p)) =
        (data.take copy).take (b.bufferLength - p) := by
      rw [List.take_take, min_comm]
    have hhead : (data.drop (min copy (b.bufferLength - p))).take
        (copy - min copy (b.bufferLength - p)) = (data.take copy).drop (b.bufferLength - p) := by
      rw [List.drop_take]
      rcases le_total copy (b.bufferLength - p) with hle | hle
      · rw [min_eq_left hle, Nat.sub_self, Nat.sub_eq_zero_of_le hle, List.take_zero,
          List.take_zero]
      · rw [min_eq_right hle]
    rw [htail, hhead]

/-- In a block of memory that can exist, the arithmetic of `gsize` is exact. -/
lemma applyGsize_eq {op : AheadQueue.Op UInt8} (hop : b.Admits op) (haddr : Addressable op) :
    b.applyGsize op = b.apply op := by
  have hpos := hb.position
  have hdata := hb.data
  cases op with
  | read n =>
      have hread := readOffsetGsize_eq (n := n) hb hcap (show 0 < 2 ^ 64 by decide)
      have hlen := readOffset_length hb n 0
      rw [applyGsize, apply, PseudoTcpFifo.read]
      dsimp only
      rw [hread, gsizeAdd_eq (by omega), gsizeSub_eq (by omega) (by omega)]
  | readOffset n offset =>
      rw [applyGsize, apply]
      rw [readOffsetGsize_eq hb hcap haddr]
  | consumeReadData n =>
      have hle : n ≤ b.dataLength := hop
      rw [applyGsize, apply, PseudoTcpFifo.consumeReadData]
      rw [if_pos hle, if_pos hle, gsizeAdd_eq (by omega), gsizeSub_eq hle (by omega)]
      rfl
  | write data =>
      have hwrite : b.writeOffsetGsize data 0 = b.writeOffset data 0 :=
        writeOffsetGsize_eq hb hcap (by omega)
      have hcount := writeOffset_count b data 0
      have hlen := writeOffset_dataLength b data 0
      rw [applyGsize, apply, PseudoTcpFifo.write]
      dsimp only
      rw [hwrite, gsizeAdd_eq (by omega)]
  | writeOffset data offset =>
      rw [applyGsize, apply]
      rw [writeOffsetGsize_eq hb hcap hop]
  | consumeWriteBuffer n =>
      have hle : n ≤ b.bufferLength - b.dataLength := hop
      rw [applyGsize, apply, PseudoTcpFifo.consumeWriteBuffer]
      rw [gsizeSub_eq hdata (by omega), if_pos hle, if_pos hle, gsizeAdd_eq (by omega)]
      rfl

end gsize

/-! ### What a buffer represents -/

/-- A buffer of the given capacity holds a queue and what is stored ahead of its end. -/
structure Represents (b : PseudoTcpFifo) (capacity : ℕ) (a : AheadQueue UInt8) : Prop where
  wf : b.Wf
  bufferLength : b.bufferLength = capacity
  queue : a.queue = b.contents
  ahead : ∀ k x, a.ahead k = some x →
    b.dataLength + k < capacity ∧ b.byteAt (b.dataLength + k) = x

variable {capacity : ℕ} {a : AheadQueue UInt8}

lemma Represents.length_eq (h : b.Represents capacity a) : a.queue.length = b.dataLength := by
  rw [h.queue, contents_length]

lemma represents_init (memory : ℕ → UInt8) (h : 0 < capacity) :
    (init memory capacity).Represents capacity .empty :=
  ⟨init_wf h, rfl, rfl, fun _ _ h => nomatch h⟩

/-- Only the bytes that fit are written. -/
lemma writeOffset_take (b : PseudoTcpFifo) (data : Bytes) (offset : ℕ) :
    (b.writeOffset data offset).1 =
      (b.writeOffset (data.take (b.bufferLength - b.dataLength - offset)) offset).1 := by
  unfold writeOffset
  split
  · rfl
  · dsimp only
    rw [List.take_take, List.length_take]
    congr 3
    omega

/-- Bytes taken off the front. -/
lemma Represents.consumeReadData (h : b.Represents capacity a)
    (hb : b.consumeReadData n = .ok b') :
    b'.Represents capacity { a with queue := a.queue.drop n } := by
  have hat := consumeReadData_byteAt hb
  have hcontents := consumeReadData_contents hb
  have hwf := consumeReadData_wf h.wf hb
  obtain ⟨hn, heq⟩ := consumeReadData_eq_ok.mp hb
  have hlen : b'.dataLength = b.dataLength - n := by rw [heq]
  refine ⟨hwf, ?_, ?_, fun k x hk => ?_⟩
  · rw [heq]
    exact h.bufferLength
  · rw [hcontents]
    exact congrArg (List.drop n) h.queue
  · obtain ⟨hlt, hx⟩ := h.ahead k x hk
    refine ⟨by omega, ?_⟩
    rw [hat, hlen, ← hx]
    congr 1
    omega

/-- Bytes stored ahead. -/
lemma Represents.writeOffset (h : b.Represents capacity a)
    (hoff : b.dataLength + offset ≤ b.bufferLength) :
    (b.writeOffset data offset).1.Represents capacity
      ⟨a.queue, AheadQueue.stored a.ahead offset
        (data.take (b.bufferLength - b.dataLength - offset))⟩ := by
  have hcap := h.bufferLength
  have hdata := h.wf.data
  set fits := data.take (b.bufferLength - b.dataLength - offset) with hfits
  have hlen : fits.length ≤ b.bufferLength - b.dataLength - offset := by
    rw [hfits, List.length_take]
    exact min_le_left _ _
  rw [writeOffset_take, ← hfits]
  have hat (k : ℕ) (hk : k < b.bufferLength) :=
    writeOffset_byteAt (k := k) h.wf (by omega : offset + fits.length ≤ _) hk
  refine ⟨writeOffset_wf h.wf _ _, ?_, ?_, fun k x hk => ?_⟩
  · rw [writeOffset_bufferLength, hcap]
  · apply List.ext_getElem
    · simp [h.queue]
    · intro i h1 h2
      have hi : i < b.dataLength := by simpa using h2
      have hrw := hat i (by omega)
      rw [if_neg (by omega)] at hrw
      simp only [h.queue, contents, List.getElem_map, List.getElem_range, hrw]
  · rw [writeOffset_dataLength]
    dsimp only [AheadQueue.stored] at hk
    split at hk
    next hin =>
      have hlt : b.dataLength + k < b.bufferLength := by omega
      refine ⟨by omega, ?_⟩
      rw [hat _ hlt, if_pos (by omega),
        show b.dataLength + k - (b.dataLength + offset) = k - offset by omega, hk]
      rfl
    next hout =>
      obtain ⟨hlt, hx⟩ := h.ahead k x hk
      refine ⟨hlt, ?_⟩
      rw [hat _ (by omega)]
      split
      · rw [List.getElem?_eq_none (by omega), Option.getD_none, hx]
      · exact hx

/-- Bytes taken over from the write-ahead area. -/
lemma Represents.consumeWriteBuffer (h : b.Represents capacity a)
    (hb : b.consumeWriteBuffer n = .ok b') :
    b'.Represents capacity
      { queue := a.queue ++ (List.range n).map fun i => b.byteAt (b.dataLength + i)
        ahead := AheadQueue.shift a.ahead n } := by
  have hat := consumeWriteBuffer_byteAt hb
  have hcontents := consumeWriteBuffer_contents hb
  have hwf := consumeWriteBuffer_wf h.wf hb
  obtain ⟨hn, heq⟩ := consumeWriteBuffer_eq_ok.mp hb
  have hlen : b'.dataLength = b.dataLength + n := by rw [heq]
  refine ⟨hwf, ?_, ?_, fun k x hk => ?_⟩
  · rw [heq]
    exact h.bufferLength
  · rw [hcontents, h.queue]
  · obtain ⟨hlt, hx⟩ := h.ahead (n + k) x hk
    rw [hat, hlen, Nat.add_assoc]
    exact ⟨by omega, hx⟩

/-- Writing is storing at the end and taking over what was stored. -/
lemma write_eq (b : PseudoTcpFifo) (data : Bytes) :
    (b.writeOffset data 0).1.consumeWriteBuffer (b.writeOffset data 0).2 =
      .ok (b.write data).1 := by
  rw [consumeWriteBuffer_eq_ok]
  refine ⟨?_, rfl⟩
  rw [writeOffset_count, writeOffset_bufferLength, writeOffset_dataLength]
  omega

/-- Bytes appended. -/
lemma Represents.write (h : b.Represents capacity a) :
    (b.write data).1.Represents capacity
      { queue := a.queue ++ data.take (b.write data).2
        ahead := AheadQueue.shift a.ahead (b.write data).2 } := by
  have hdata := h.wf.data
  have hcount : (b.write data).2 = min data.length (b.bufferLength - b.dataLength) :=
    (write_contents h.wf data).2
  have hlen : (data.take (b.bufferLength - b.dataLength - 0)).length = (b.write data).2 := by
    rw [hcount, List.length_take, Nat.sub_zero, min_comm]
  have hroom : b.dataLength + 0 ≤ b.bufferLength := by omega
  have hstored := (h.writeOffset hroom).consumeWriteBuffer (write_eq b data)
  refine ⟨hstored.wf, hstored.bufferLength, ?_, fun k x hk => hstored.ahead k x ?_⟩
  · rw [(write_contents h.wf data).1, h.queue, hcount]
    rcases le_total data.length (b.bufferLength - b.dataLength) with hle | hle
    · rw [min_eq_left hle, List.take_of_length_le le_rfl, List.take_of_length_le hle]
    · rw [min_eq_right hle]
  · rw [← hk]
    change AheadQueue.stored a.ahead 0 _ ((b.write data).2 + k) = a.ahead ((b.write data).2 + k)
    rw [AheadQueue.stored, if_neg]
    rw [hlen]
    omega

/-! ### Simulation -/

/-- An operation that the buffer admits. -/
def FifoStep (b : PseudoTcpFifo) (e : AheadQueue.Op UInt8 × AheadQueue.Ret UInt8)
    (b' : PseudoTcpFifo) : Prop :=
  b.Admits e.1 ∧ b.apply e.1 = .ok (b', e.2)

/-- An operation that the buffer admits does not fail. -/
lemma apply_ok {op : AheadQueue.Op UInt8} (h : b.Admits op) : ∃ r, b.apply op = .ok r := by
  cases op with
  | consumeReadData n =>
      rw [apply]
      rw [consumeReadData_eq_ok.mpr ⟨h, rfl⟩]
      exact ⟨_, rfl⟩
  | consumeWriteBuffer n =>
      rw [apply]
      rw [consumeWriteBuffer_eq_ok.mpr ⟨h, rfl⟩]
      exact ⟨_, rfl⟩
  | read | readOffset | write | writeOffset => exact ⟨_, rfl⟩

/-- **Every operation is one of the queue.** -/
lemma FifoStep.simulates {e : AheadQueue.Op UInt8 × AheadQueue.Ret UInt8}
    (hstep : FifoStep b e b') (h : b.Represents capacity a) :
    ∃ a', AheadQueue.Step capacity a e a' ∧ b'.Represents capacity a' := by
  obtain ⟨op, ret⟩ := e
  obtain ⟨hadm, happ⟩ := hstep
  have hlen := h.length_eq
  have hcap := h.bufferLength
  have hdata := h.wf.data
  cases op with
  | read n =>
      obtain ⟨c, hread, hcons⟩ := read_eq h.wf n
      dsimp only [apply] at happ
      rw [hread] at happ
      obtain ⟨rfl, rfl⟩ := Prod.mk.inj (Except.ok.inj happ)
      rw [← h.queue]
      refine ⟨_, .read n, ?_⟩
      have hrep := h.consumeReadData hcons
      rwa [← hlen, ← List.drop_eq_drop_min] at hrep
  | readOffset n offset =>
      obtain ⟨rfl, rfl⟩ := Prod.mk.inj (Except.ok.inj happ)
      rw [readOffset_eq h.wf, ← h.queue]
      exact ⟨_, .readOffset n offset, h⟩
  | consumeReadData n =>
      obtain ⟨hc, rfl⟩ := consumed_of_ok happ
      exact ⟨_, .consumeReadData (by rw [hlen]; exact hadm), h.consumeReadData hc⟩
  | write data =>
      have hret : ((b.write data).1, AheadQueue.Ret.count (b.write data).2) = (b', ret) :=
        Except.ok.inj happ
      obtain ⟨rfl, rfl⟩ := Prod.mk.inj hret
      refine ⟨_, .write ?_, h.write⟩
      rw [(write_contents h.wf data).2, hlen, hcap]
  | writeOffset data offset =>
      have hret : ((b.writeOffset data offset).1,
          AheadQueue.Ret.count (b.writeOffset data offset).2) = (b', ret) := Except.ok.inj happ
      obtain ⟨rfl, rfl⟩ := Prod.mk.inj hret
      have hrep : (b.writeOffset data offset).1.Represents _ _ := h.writeOffset hadm
      have hcount := writeOffset_count b data offset
      have htake : data.take (b.bufferLength - b.dataLength - offset) =
          data.take (b.writeOffset data offset).2 := by
        rw [hcount]
        rcases le_total data.length (b.bufferLength - b.dataLength - offset) with hle | hle
        · rw [min_eq_left hle, List.take_of_length_le le_rfl, List.take_of_length_le hle]
        · rw [min_eq_right hle]
      rw [htake] at hrep
      exact ⟨_, .writeOffset (by rw [hcount, hlen, hcap]), hrep⟩
  | consumeWriteBuffer n =>
      obtain ⟨hc, rfl⟩ := consumed_of_ok happ
      have hn : n ≤ b.bufferLength - b.dataLength := hadm
      refine ⟨_, .consumeWriteBuffer (by simp) (by omega) fun i x hi hx => ?_,
        h.consumeWriteBuffer hc⟩
      obtain ⟨-, hat⟩ := h.ahead i x hx
      simp [hi, hat]

/-- No operation writes outside the block. -/
lemma FifoStep.outside {e : AheadQueue.Op UInt8 × AheadQueue.Ret UInt8} (hstep : FifoStep b e b')
    (hb : b.Wf) {i : ℕ} (hi : b.bufferLength ≤ i) : b'.buffer i = b.buffer i := by
  have hpos := hb.position
  have hdata := hb.data
  have hwrite (data : Bytes) (offset : ℕ) :
      (b.writeOffset data offset).1.buffer i = b.buffer i := by
    unfold PseudoTcpFifo.writeOffset
    split
    · rfl
    · refine ringStore_outside (Nat.mod_lt _ (by omega)) ?_ hi
      rw [List.length_take]
      omega
  obtain ⟨op, ret⟩ := e
  obtain ⟨-, happ⟩ := hstep
  cases op with
  | read n | readOffset n offset =>
      obtain ⟨rfl, rfl⟩ := Prod.mk.inj (Except.ok.inj happ)
      rfl
  | consumeReadData n =>
      obtain ⟨hc, -⟩ := consumed_of_ok happ
      rw [(consumeReadData_eq_ok.mp hc).2]
  | consumeWriteBuffer n =>
      obtain ⟨hc, -⟩ := consumed_of_ok happ
      rw [(consumeWriteBuffer_eq_ok.mp hc).2]
  | write data =>
      obtain ⟨rfl, rfl⟩ := Prod.mk.inj (Except.ok.inj happ)
      exact hwrite data 0
  | writeOffset data offset =>
      obtain ⟨rfl, rfl⟩ := Prod.mk.inj (Except.ok.inj happ)
      exact hwrite data offset

/-! ### Runs -/

/-- **A buffer is a queue with a write-ahead area**: every run of operations that a new buffer
admits is a run of the queue, with the same results; nothing outside the block is written; and the
next operation neither fails nor, in a block of memory that can exist, depends on the width of
`gsize`. -/
theorem fifo_refines (memory : ℕ → UInt8) (capacity : ℕ) (h0 : 0 < capacity)
    (es : List (AheadQueue.Op UInt8 × AheadQueue.Ret UInt8)) (b : PseudoTcpFifo)
    (h : Run FifoStep (init memory capacity) es b) :
    (∃ a, Run (AheadQueue.Step capacity) .empty es a ∧ b.Represents capacity a) ∧
      (∀ i, capacity ≤ i → b.buffer i = memory i) ∧
      ∀ op, b.Admits op → (∃ r, b.apply op = .ok r) ∧
        (capacity < 2 ^ 63 → Addressable op → b.applyGsize op = b.apply op) := by
  have hrun : (∃ a, Run (AheadQueue.Step capacity) .empty es a ∧ b.Represents capacity a) ∧
      ∀ i, capacity ≤ i → b.buffer i = memory i := by
    induction h with
    | nil => exact ⟨⟨_, .nil, represents_init memory h0⟩, fun _ _ => rfl⟩
    | snoc _ hstep ih =>
        obtain ⟨⟨a, hrun, hrep⟩, hout⟩ := ih
        obtain ⟨a', hstep', hrep'⟩ := hstep.simulates hrep
        refine ⟨⟨a', hrun.snoc hstep', hrep'⟩, fun i hi => ?_⟩
        rw [hstep.outside hrep.wf (by rw [hrep.bufferLength]; exact hi), hout i hi]
  obtain ⟨⟨a, hqueue, hrep⟩, hout⟩ := hrun
  refine ⟨⟨a, hqueue, hrep⟩, hout, fun op hop => ⟨apply_ok hop, fun hcap haddr => ?_⟩⟩
  exact applyGsize_eq hrep.wf (by rw [hrep.bufferLength]; exact hcap) hop haddr

/-- Operations one after the other, each of which the buffer admits, and what they return. -/
def applyAll (b : PseudoTcpFifo) : List (AheadQueue.Op UInt8) →
    Option (PseudoTcpFifo × List (AheadQueue.Op UInt8 × AheadQueue.Ret UInt8))
  | [] => some (b, [])
  | op :: ops =>
      if b.Admits op then
        match b.apply op with
        | .ok (b, ret) => (b.applyAll ops).map fun r => (r.1, (op, ret) :: r.2)
        | .error _ => none
      else none

lemma run_of_applyAll {ops : List (AheadQueue.Op UInt8)}
    {es : List (AheadQueue.Op UInt8 × AheadQueue.Ret UInt8)}
    (h : b.applyAll ops = some (b', es)) : Run FifoStep b es b' := by
  induction ops generalizing b es with
  | nil =>
      cases h
      exact .nil
  | cons op ops ih =>
      rw [applyAll] at h
      by_cases hop : b.Admits op
      · rw [if_pos hop] at h
        cases happ : b.apply op with
        | error e =>
            rw [happ] at h
            cases h
        | ok r =>
            rw [happ] at h
            obtain ⟨⟨c, es'⟩, hc, heq⟩ := Option.map_eq_some_iff.mp h
            cases heq
            have hstep : FifoStep b (op, r.2) r.1 := ⟨hop, happ⟩
            exact (Run.nil.snoc hstep).append (ih hc)
      · rw [if_neg hop] at h
        cases h

/-- A byte that was stored ahead of its place survives a write across the end of the block. -/
theorem fifo_refines_sample :
    ∃ a : AheadQueue UInt8, Run (AheadQueue.Step 4) .empty
      [(.write [1, 2, 3], .count 3), (.read 2, .copied [1, 2]), (.writeOffset [7] 1, .count 1),
        (.write [6], .count 1), (.consumeWriteBuffer 1, .none),
        (.read 9, .copied [3, 6, 7])] a := by
  have hobs : ((init (fun _ => 0) 4).applyAll [.write [1, 2, 3], .read 2, .writeOffset [7] 1,
      .write [6], .consumeWriteBuffer 1, .read 9]).map (·.2) = some
        [(.write [1, 2, 3], .count 3), (.read 2, .copied [1, 2]), (.writeOffset [7] 1, .count 1),
          (.write [6], .count 1), (.consumeWriteBuffer 1, .none),
          (.read 9, .copied [3, 6, 7])] := by
    decide
  obtain ⟨⟨b, es⟩, hrun, rfl⟩ := Option.map_eq_some_iff.mp hobs
  obtain ⟨⟨a, h, -⟩, -⟩ := fifo_refines (fun _ => 0) 4 (by decide) _ b (run_of_applyAll hrun)
  exact ⟨a, h⟩

end PseudoTcpFifo

end LibNice.PseudoTcp
