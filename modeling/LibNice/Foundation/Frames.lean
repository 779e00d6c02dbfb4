import LibNice.Foundation.Memory

/-!
Packets in a stream of bytes, each behind its length in 16 bits.

* `frame`, `frames`: a packet and a list of packets as they are written.
* `payloads`: the packets whose frames a stream holds completely.
* `payloads_frames_append`: written packets are read back, whatever follows them.
* `payloads_of_short`, `payloads_of_incomplete`: a stream that starts with no complete frame.
-/

namespace LibNice.Foundation

/-- The frame of a packet. -/
def frame (packet : Bytes) : Bytes := be16 packet.length ++ packet

/-- The frames of packets, one after another. -/
def frames (packets : List Bytes) : Bytes := packets.flatMap frame

@[simp] lemma frame_length (packet : Bytes) : (frame packet).length = 2 + packet.length := by
  rw [frame, List.length_append, be16_length]

@[simp] lemma frames_nil : frames [] = [] := rfl

lemma frames_append (ps qs : List Bytes) : frames (ps ++ qs) = frames ps ++ frames qs :=
  List.flatMap_append

lemma frames_concat (ps : List Bytes) (p : Bytes) : frames (ps ++ [p]) = frames ps ++ frame p := by
  rw [frames_append, frames, frames, List.flatMap_singleton]

/-- The packets whose frames are complete at the start of a stream. -/
def payloads : Bytes → List Bytes
  | hi :: lo :: rest =>
      let n := (word16 hi lo).toNat
      if n ≤ rest.length then rest.take n :: payloads (rest.drop n) else []
  | _ => []
termination_by stream => stream.length
decreasing_by
  rw [List.length_drop, List.length_cons, List.length_cons]
  omega

lemma payloads_nil : payloads [] = [] := by
  rw [payloads]
  rintro hi lo rest h
  cases h

lemma payloads_singleton (b : UInt8) : payloads [b] = [] := by
  rw [payloads]
  rintro hi lo rest h
  cases h

/-- Less than a header is no complete frame. -/
lemma payloads_of_short {stream : Bytes} (h : stream.length < 2) : payloads stream = [] := by
  match stream, h with
  | [], _ => exact payloads_nil
  | [b], _ => exact payloads_singleton b

/-- What a stream holds that starts with a header. -/
lemma payloads_header {n : ℕ} (hn : n < 65536) (rest : Bytes) :
    payloads (be16 n ++ rest) =
      if n ≤ rest.length then rest.take n :: payloads (rest.drop n) else [] := by
  have hword : (word16 (UInt8.ofNat (n / 256)) (UInt8.ofNat n)).toNat = n := by
    rw [word16_be16, UInt16.toNat_ofNat', Nat.mod_eq_of_lt hn]
  rw [be16, List.cons_append, List.cons_append, List.nil_append, payloads]
  simp only [hword]

/-- A header that is not followed by its packet starts no complete frame. -/
lemma payloads_of_incomplete {n : ℕ} (hn : n < 65536) {rest : Bytes} (h : rest.length < n) :
    payloads (be16 n ++ rest) = [] := by
  rw [payloads_header hn, if_neg (by omega)]

lemma payloads_frame_append {packet : Bytes} (h : packet.length < 65536) (rest : Bytes) :
    payloads (frame packet ++ rest) = packet :: payloads rest := by
  rw [frame, List.append_assoc, payloads_header h,
    if_pos (by rw [List.length_append]; omega), List.take_left, List.drop_left]

/-- **Written packets are read back**, whatever follows them. -/
theorem payloads_frames_append {packets : List Bytes}
    (h : ∀ packet ∈ packets, packet.length < 65536) (rest : Bytes) :
    payloads (frames packets ++ rest) = packets ++ payloads rest := by
  induction packets with
  | nil => rfl
  | cons packet packets ih =>
      rw [frames, List.flatMap_cons, List.append_assoc,
        payloads_frame_append (h packet List.mem_cons_self), List.cons_append]
      exact congrArg _ (ih fun p hp => h p (List.mem_cons_of_mem _ hp))

/-- A stream of two bytes or more starts with a header. -/
lemma exists_header {stream : Bytes} (h : 2 ≤ stream.length) :
    ∃ n < 65536, stream = be16 n ++ stream.drop 2 ∧ stream.take 2 = be16 n := by
  match stream, h with
  | hi :: lo :: rest, _ =>
      refine ⟨(word16 hi lo).toNat, UInt16.toNat_lt _, ?_, ?_⟩
      · rw [be16_word16]
        rfl
      · rw [be16_word16]
        rfl

end LibNice.Foundation
