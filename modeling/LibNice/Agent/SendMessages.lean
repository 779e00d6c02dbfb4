import LibNice.Foundation.Frames
import LibNice.Socket.ByteStream

/-!
`nice_agent_send_messages_nonblocking_internal` of `agent/agent.c`: messages sent over a
reliable socket in RFC 4571 frames.

* `SendEnv`, `SendState`: the answers of the socket, and what the socket has taken.
* `startLoop`, `vectorsLoop`: the buffer in which a frame starts, and the vectors of the frame.
* `splitLoop`, `messagesLoop`, `niceAgentSendMessagesNonblockingInternal`: the function.
* `InOneBuffer`, `frameVectors_later`: a frame behind the first one is read right exactly
  when it lies in one buffer, behind its first byte.
* `splitLoop_message_taken`, `messagesLoop_spec`: what is sent of one message and of all.
* `sentInOrder_iff`: the socket takes the messages in order, each whole and framed, exactly
  when no message is taken behind one that was not, and every frame is read right.
-/

namespace LibNice.Agent

open LibNice.Foundation LibNice.Socket
open LibNice.Stun (intOfSize)

/-! ### The socket -/

/-- How the selected socket answers: the `i`-th call of `nice_socket_send_messages` and the
`i`-th call of `nice_socket_send_messages_reliable`, each with one message, and what a
socket does with the messages that need no frame. -/
structure SendEnv where
  sendMessages : ℕ → ℤ
  sendMessagesReliable : ℕ → ℤ
  sendUnframed : List NiceOutputMessage → ℤ

/-- What happened to a socket so far: the calls of either kind, and the bytes that it has
taken, each piece with the number of the message it belongs to. -/
structure SendState where
  nSent : ℤ
  calls : ℕ
  callsReliable : ℕ
  handed : List (ℕ × Bytes)
deriving DecidableEq, Repr

/-- One message of message `i`, given to the socket with or without `_reliable`. -/
def SendState.send (s : SendState) (env : SendEnv) (reliable : Bool) (i : ℕ) (bytes : Bytes) :
    ℤ × SendState :=
  let ret := if reliable then env.sendMessagesReliable s.callsReliable
    else env.sendMessages s.calls
  let s := if reliable then { s with callsReliable := s.callsReliable + 1 }
    else { s with calls := s.calls + 1 }
  (ret, if ret = 1 then { s with handed := s.handed ++ [(i, bytes)] } else s)

/-! ### The function -/

/-- The largest frame, which leaves room for a TURN header. -/
def frameMax : ℕ := 0xF800

/-- The loop that finds the buffer in which a frame starts: the buffers from there on, the
offset in the first of them, and `current_offset`. -/
def startLoop (offset : ℕ) : List Bytes → ℕ → List Bytes × ℕ × ℕ
  | [], currentOffset => ([], 0, currentOffset)
  | buffer :: buffers, currentOffset =>
      if buffer.length < offset - currentOffset then
        startLoop offset buffers (currentOffset + buffer.length)
      else (buffer :: buffers, offset - currentOffset, offset)

/-- The loop that makes the vectors of a frame, with the bytes that the socket reads
through them. -/
def vectorsLoop : List Bytes → ℕ → ℕ → Except Fault (List Bytes)
  | [], _, _ => .ok []
  | buffer :: buffers, offsetInBuffer, packetLen => do
      let size := min buffer.length packetLen
      let vector ← readSlice buffer offsetInBuffer size
      let vectors ← vectorsLoop buffers 0 (packetLen - size)
      return vector :: vectors

/-- The loop over the frames of message `i`, which has `messageLen` bytes left behind
`offset`. -/
def splitLoop (env : SendEnv) (i : ℕ) (buffers : List Bytes) (messageLen offset : ℕ)
    (s : SendState) : Except Fault SendState :=
  if messageLen = 0 then .ok s
  else
    let packetLen := if messageLen > frameMax then frameMax else messageLen
    match startLoop offset buffers 0 with
    | (rest, offsetInBuffer, currentOffset) =>
        match vectorsLoop rest offsetInBuffer packetLen with
        | .error fault => .error fault
        | .ok vectors =>
            match s.send env (currentOffset ≠ 0) i (be16 packetLen ++ vectors.flatten) with
            | (nSentFramed, s) =>
                let s := if nSentFramed < 0 ∧ s.nSent = 0 then { s with nSent := nSentFramed }
                  else s
                if nSentFramed ≠ 1 then .ok s
                else splitLoop env i buffers (messageLen - packetLen)
                  (offset + vectors.flatten.length)
                  (if messageLen - packetLen = 0 then { s with nSent := s.nSent + 1 } else s)
termination_by messageLen
decreasing_by
  rw [frameMax]
  split <;> omega

/-- The buffers that are counted in `n_bufs`. -/
def countedBuffers (message : NiceOutputMessage) : Except Fault (List Bytes) :=
  if message.nBuffers < -1 then .error .outOfBounds else .ok message.visited

/-- The loop over the messages, from message `i` on. -/
def messagesLoop (env : SendEnv) : ℕ → List NiceOutputMessage → SendState →
    Except Fault SendState
  | _, [], s => .ok s
  | i, message :: messages, s => do
      let buffers ← countedBuffers message
      let s ← splitLoop env i buffers (outputMessageGetSize message) 0 s
      messagesLoop env (i + 1) messages s

/-- The errors that a send comes back with. -/
inductive SendError where
  | brokenPipe
  | wouldBlock
  | failed
deriving DecidableEq, Repr

/-- The outcome of a send. -/
structure SendReturn where
  nSent : ℤ
  error : Option SendError
  handed : List (ℕ × Bytes)
deriving DecidableEq, Repr

/-- The state of a socket before the first call. -/
def SendState.start : SendState := { nSent := 0, calls := 0, callsReliable := 0, handed := [] }

/-- What becomes of `n_sent` once the messages were given to the socket, with the assertions
at the end of the function. -/
def sendResult (messages : List NiceOutputMessage) (allowPartial : Bool) (s : SendState) :
    Except Fault SendReturn :=
  let size := (messages.map outputMessageGetSize).headD 0
  let nSent := if 0 < s.nSent ∧ allowPartial then intOfSize size else s.nSent
  let error : Option SendError := if s.nSent < 0 then some .failed
    else if nSent = 0 then some .wouldBlock else none
  let nSent := if nSent = 0 then -1 else nSent
  if (error.isSome ↔ nSent = -1) ∧
      (nSent < 0 ∨ (¬allowPartial ∧ nSent ≤ messages.length) ∨
        (allowPartial ∧ messages.length = 1 ∧ nSent ≤ size)) then
    .ok { nSent, error, handed := s.handed }
  else .error .assertFailed

/-- `nice_agent_send_messages_nonblocking_internal`.  `component` is `none` where there is no
such component, `some none` while it has no selected pair, and else it says whether the
selected socket is reliable. -/
def niceAgentSendMessagesNonblockingInternal (env : SendEnv) (component : Option (Option Bool))
    (messages : List NiceOutputMessage) (allowPartial : Bool) : Except Fault SendReturn :=
  if messages.length = 1 ∨ ¬allowPartial then
    match component with
    | none => .ok { nSent := -1, error := some .brokenPipe, handed := [] }
    | some none => sendResult messages allowPartial .start
    | some (some false) =>
        sendResult messages allowPartial { SendState.start with nSent := env.sendUnframed messages }
    | some (some true) => do
        let s ← messagesLoop env 0 messages .start
        sendResult messages allowPartial s
  else .error .assertFailed

/-! ### One frame -/

/-- The `len` bytes behind `offset` lie in one buffer, behind its first byte. -/
def InOneBuffer (buffers : List Bytes) (offset len : ℕ) : Prop :=
  ∃ j, (buffers.take j).flatten.length < offset ∧
    offset + len ≤ (buffers.take (j + 1)).flatten.length

lemma startLoop_zero (buffers : List Bytes) : startLoop 0 buffers 0 = (buffers, 0, 0) := by
  cases buffers with
  | nil => rfl
  | cons buffer buffers => simp [startLoop]

/-- A frame behind the first one starts in the first buffer that reaches its offset. -/
lemma startLoop_later {offset : ℕ} (cur : ℕ) {buffers : List Bytes} (hcur : cur < offset)
    (hle : offset ≤ cur + buffers.flatten.length) :
    ∃ j buffer, buffers[j]? = some buffer ∧
      startLoop offset buffers cur =
        (buffer :: buffers.drop (j + 1), offset - (cur + (buffers.take j).flatten.length), offset) ∧
      cur + (buffers.take j).flatten.length < offset ∧
      offset ≤ cur + (buffers.take (j + 1)).flatten.length := by
  induction buffers generalizing cur with
  | nil =>
      rw [List.flatten_nil, List.length_nil] at hle
      omega
  | cons buffer buffers ih =>
      rw [List.flatten_cons, List.length_append] at hle
      by_cases hskip : buffer.length < offset - cur
      · obtain ⟨j, b, hb, hloop, hlt, hge⟩ := ih (cur + buffer.length) (by omega) (by omega)
        refine ⟨j + 1, b, hb, ?_, ?_, ?_⟩
        · rw [startLoop, if_pos hskip, hloop]
          simp [Nat.add_assoc]
        · rw [List.take_succ_cons, List.flatten_cons, List.length_append]
          omega
        · rw [List.take_succ_cons, List.flatten_cons, List.length_append]
          omega
      · refine ⟨0, buffer, rfl, ?_, ?_, ?_⟩
        · rw [startLoop, if_neg hskip]
          simp
        · simpa using hcur
        · simp
          omega

/-- From the start of a buffer the vectors cover the packet. -/
lemma vectorsLoop_start (buffers : List Bytes) (packetLen : ℕ)
    (h : packetLen ≤ buffers.flatten.length) :
    ∃ vectors, vectorsLoop buffers 0 packetLen = .ok vectors ∧
      vectors.flatten = buffers.flatten.take packetLen := by
  induction buffers generalizing packetLen with
  | nil => exact ⟨[], rfl, by simp⟩
  | cons buffer buffers ih =>
      rw [List.flatten_cons, List.length_append] at h
      obtain ⟨vectors, hok, hflat⟩ := ih (packetLen - min buffer.length packetLen)
        (by omega)
      have hread : readSlice buffer 0 (min buffer.length packetLen) =
          .ok (buffer.take (min buffer.length packetLen)) := by
        rw [readSlice_of_le (by omega), List.drop_zero]
      refine ⟨buffer.take (min buffer.length packetLen) :: vectors, ?_, ?_⟩
      · rw [vectorsLoop, hread, hok]
        rfl
      · rw [List.flatten_cons, List.flatten_cons, hflat, List.take_append]
        rcases Nat.le_total buffer.length packetLen with hle | hle
        · rw [Nat.min_eq_left hle, List.take_length, List.take_of_length_le hle]
        · rw [Nat.min_eq_right hle, Nat.sub_self, Nat.sub_eq_zero_of_le hle]

/-- From behind the first byte of a buffer the packet is read when the buffer has it all. -/
lemma vectorsLoop_inside {buffer : Bytes} (buffers : List Bytes) {k packetLen : ℕ}
    (h : k + packetLen ≤ buffer.length) :
    ∃ vectors, vectorsLoop (buffer :: buffers) k packetLen = .ok vectors ∧
      vectors.flatten = (buffer.drop k).take packetLen := by
  obtain ⟨vectors, hok, hflat⟩ := vectorsLoop_start buffers 0
    (Nat.zero_le _)
  have hmin : min buffer.length packetLen = packetLen := by omega
  refine ⟨(buffer.drop k).take packetLen :: vectors, ?_, ?_⟩
  · rw [vectorsLoop, hmin, readSlice_of_le h, Nat.sub_self, hok]
    rfl
  · rw [List.flatten_cons, hflat, List.take_zero, List.append_nil]

/-- Else the vector reaches behind the end of the buffer. -/
lemma vectorsLoop_overread {buffer : Bytes} {buffers : List Bytes} {k packetLen : ℕ} (hk : 0 < k)
    (hk' : k ≤ buffer.length) (hpacket : 0 < packetLen) (h : buffer.length < k + packetLen) :
    vectorsLoop (buffer :: buffers) k packetLen = .error .outOfBounds := by
  rw [vectorsLoop, readSlice_error (by omega) (by omega)]
  rfl

/-- The vectors of a frame behind `offset`. -/
def frameVectors (buffers : List Bytes) (offset packetLen : ℕ) : Except Fault (List Bytes) :=
  vectorsLoop (startLoop offset buffers 0).1 (startLoop offset buffers 0).2.1 packetLen

/-- **A frame behind the first one is read right** exactly when it lies in one buffer. -/
theorem frameVectors_later (buffers : List Bytes) {offset : ℕ} (len : ℕ) (hoffset : 0 < offset)
    (hlen : 0 < len) (hle : offset + len ≤ buffers.flatten.length) :
    (InOneBuffer buffers offset len ∧ ∃ vectors, frameVectors buffers offset len = .ok vectors ∧
        vectors.flatten = (buffers.flatten.drop offset).take len) ∨
      (¬InOneBuffer buffers offset len ∧
        frameVectors buffers offset len = .error .outOfBounds) := by
  obtain ⟨j, buffer, hj, hloop, hlt, hge⟩ := startLoop_later 0 hoffset
    (by omega : offset ≤ 0 + buffers.flatten.length)
  rw [Nat.zero_add] at hlt hge hloop
  have hlength : j < buffers.length := (List.getElem?_eq_some_iff.mp hj).1
  have hbuffer : buffers[j] = buffer := (List.getElem?_eq_some_iff.mp hj).2
  have htake : buffers.take (j + 1) = buffers.take j ++ [buffer] := by
    rw [List.take_succ_eq_append_getElem hlength, hbuffer]
  have hsucc : (buffers.take (j + 1)).flatten.length =
      (buffers.take j).flatten.length + buffer.length := by
    rw [htake, List.flatten_append, List.length_append]
    simp
  have hsplit : buffers.flatten = (buffers.take j).flatten ++
      (buffer ++ (buffers.drop (j + 1)).flatten) := by
    conv_lhs => rw [← List.take_append_drop (j + 1) buffers, htake]
    simp
  have hframe : frameVectors buffers offset len = vectorsLoop (buffer :: buffers.drop (j + 1))
      (offset - (buffers.take j).flatten.length) len := by
    rw [frameVectors, hloop]
  have hdrop : (buffers.take j).flatten.drop offset = [] :=
    List.drop_eq_nil_of_le (Nat.le_of_lt hlt)
  rw [hframe]
  by_cases hin : offset + len ≤ (buffers.take (j + 1)).flatten.length
  · refine .inl ⟨⟨j, hlt, hin⟩, ?_⟩
    obtain ⟨vectors, hok, hflat⟩ := vectorsLoop_inside (buffers.drop (j + 1))
      (by omega : offset - (buffers.take j).flatten.length + len ≤ buffer.length)
    refine ⟨vectors, hok, ?_⟩
    rw [hflat, hsplit, List.drop_append, hdrop, List.nil_append,
      List.drop_append_of_le_length (by omega), List.take_append_of_le_length]
    rw [List.length_drop]
    omega
  · refine .inr ⟨?_, vectorsLoop_overread (by omega) (by omega) hlen (by omega)⟩
    rintro ⟨j', hlt', hin'⟩
    -- the buffer that holds the byte at the offset is the one where the frame starts
    have hmono : ∀ a b, a ≤ b →
        (buffers.take a).flatten.length ≤ (buffers.take b).flatten.length := by
      intro a b hab
      rw [← Nat.add_sub_cancel' hab, List.take_add, List.flatten_append, List.length_append]
      omega
    rcases Nat.lt_trichotomy j j' with hjj | hjj | hjj
    · have := hmono (j + 1) j' hjj
      omega
    · subst hjj
      omega
    · have := hmono (j' + 1) j hjj
      omega

/-! ### One message -/

/-- The frames of a message from number `f` on lie each in one buffer. -/
def LaterFramesInside (buffers : List Bytes) (f : ℕ) : Prop :=
  ∀ g ≥ f, g * frameMax < buffers.flatten.length →
    InOneBuffer buffers (g * frameMax) (min frameMax (buffers.flatten.length - g * frameMax))

/-- Packets that cover the data, none longer than a frame may be. -/
def Covers (packets : List Bytes) (data : Bytes) : Prop :=
  packets.flatten = data ∧ ∀ packet ∈ packets, packet.length ≤ frameMax

lemma Covers.ne_nil {packets : List Bytes} {data : Bytes} (h : Covers packets data)
    (hdata : data ≠ []) : packets ≠ [] := by
  rintro rfl
  exact hdata h.1.symm

/-- The pieces that the socket takes for the packets of message `i`. -/
def framesOf (i : ℕ) (packets : List Bytes) : List (ℕ × Bytes) :=
  packets.map fun packet => (i, frame packet)

/-- Every call with `_reliable` takes the message. -/
def SendEnv.ReliableTakes (env : SendEnv) : Prop := ∀ n, env.sendMessagesReliable n = 1

section step

variable {env : SendEnv} {i : ℕ} {buffers : List Bytes} {messageLen offset : ℕ} {s s' : SendState}

lemma packetLen_eq (messageLen : ℕ) :
    (if messageLen > frameMax then frameMax else messageLen) = min frameMax messageLen := by
  split <;> omega

lemma splitLoop_error {fault : Fault} (h : messageLen ≠ 0)
    (herror : frameVectors buffers offset (min frameMax messageLen) = .error fault) :
    splitLoop env i buffers messageLen offset s = .error fault := by
  rw [frameVectors] at herror
  rw [splitLoop, if_neg h]
  simp only [packetLen_eq, herror]

/-- A frame that the socket takes. -/
lemma splitLoop_taken {vectors : List Bytes} (h : messageLen ≠ 0)
    (hok : frameVectors buffers offset (min frameMax messageLen) = .ok vectors)
    (hsend : s.send env ((startLoop offset buffers 0).2.2 ≠ 0) i
      (be16 (min frameMax messageLen) ++ vectors.flatten) = (1, s')) :
    splitLoop env i buffers messageLen offset s =
      if messageLen - min frameMax messageLen = 0 then .ok { s' with nSent := s'.nSent + 1 }
      else splitLoop env i buffers (messageLen - min frameMax messageLen)
        (offset + vectors.flatten.length) s' := by
  rw [frameVectors] at hok
  rw [splitLoop, if_neg h]
  have hnone : ¬((1 : ℤ) < 0 ∧ s'.nSent = 0) := by omega
  have hone : ¬((1 : ℤ) ≠ 1) := by omega
  simp only [packetLen_eq, hok, hsend]
  rw [if_neg hnone, if_neg hone]
  split
  next hlast => rw [hlast, splitLoop, if_pos rfl]
  next => rfl

/-- A frame for which the socket would block. -/
lemma splitLoop_blocked {vectors : List Bytes} (h : messageLen ≠ 0)
    (hok : frameVectors buffers offset (min frameMax messageLen) = .ok vectors)
    (hsend : s.send env ((startLoop offset buffers 0).2.2 ≠ 0) i
      (be16 (min frameMax messageLen) ++ vectors.flatten) = (0, s')) :
    splitLoop env i buffers messageLen offset s = .ok s' := by
  rw [frameVectors] at hok
  rw [splitLoop, if_neg h]
  have hnone : ¬((0 : ℤ) < 0 ∧ s'.nSent = 0) := by omega
  have hzero : (0 : ℤ) ≠ 1 := by omega
  simp only [packetLen_eq, hok, hsend]
  rw [if_pos hzero, if_neg hnone]

end step

/-- The frames behind the first one: all are read right and taken, or one is not read right.
The induction is on the number of bytes that are left. -/
lemma splitLoop_later {env : SendEnv} (henv : env.ReliableTakes) (i : ℕ) {buffers : List Bytes}
    {f messageLen : ℕ} (hf : 0 < f) (hpos : 0 < messageLen)
    (hlen : f * frameMax + messageLen = buffers.flatten.length) (s : SendState) :
    (LaterFramesInside buffers f ∧ ∃ packets calls,
        Covers packets (buffers.flatten.drop (f * frameMax)) ∧
        splitLoop env i buffers messageLen (f * frameMax) s =
          .ok { s with nSent := s.nSent + 1, callsReliable := calls,
                       handed := s.handed ++ framesOf i packets }) ∨
      (¬LaterFramesInside buffers f ∧
        splitLoop env i buffers messageLen (f * frameMax) s = .error .outOfBounds) := by
  induction messageLen using Nat.strong_induction_on generalizing f s with
  | _ messageLen ih =>
  have hoffset : 0 < f * frameMax := Nat.mul_pos hf (by decide)
  have hmax : 0 < frameMax := by decide
  have hfirst : LaterFramesInside buffers f →
      InOneBuffer buffers (f * frameMax) (min frameMax messageLen) := by
    intro hin
    have := hin f le_rfl (by omega)
    rwa [← hlen, Nat.add_sub_cancel_left] at this
  rcases frameVectors_later buffers (min frameMax messageLen) hoffset
    (by omega) (by omega) with ⟨hin, vectors, hok, hflat⟩ | ⟨hin, herror⟩
  swap
  · exact .inr ⟨fun h => hin (hfirst h), splitLoop_error (by omega) herror⟩
  -- the frame is read right, and `current_offset` is not 0
  obtain ⟨j, buffer, -, hloop, -, -⟩ := startLoop_later 0 hoffset
    (by omega : f * frameMax ≤ 0 + buffers.flatten.length)
  have hpacket : vectors.flatten.length = min frameMax messageLen := by
    rw [hflat, List.length_take, List.length_drop]
    omega
  have hframe : be16 (min frameMax messageLen) ++ vectors.flatten = frame vectors.flatten := by
    rw [frame, hpacket]
  have hsend : s.send env ((startLoop (f * frameMax) buffers 0).2.2 ≠ 0) i
      (be16 (min frameMax messageLen) ++ vectors.flatten) =
        (1, { s with callsReliable := s.callsReliable + 1,
                     handed := s.handed ++ [(i, frame vectors.flatten)] }) := by
    rw [hloop, hframe, SendState.send]
    simp [henv s.callsReliable, Nat.pos_iff_ne_zero.mp hoffset]
  rw [splitLoop_taken (by omega) hok hsend, hpacket]
  have hsplit : buffers.flatten.drop (f * frameMax) =
      vectors.flatten ++ buffers.flatten.drop (f * frameMax + min frameMax messageLen) := by
    rw [hflat, ← List.drop_drop, List.take_append_drop]
  have hstep : LaterFramesInside buffers (f + 1) → LaterFramesInside buffers f := by
    intro h g hg hlt
    rcases Nat.eq_or_lt_of_le hg with rfl | hg
    · rwa [← hlen, Nat.add_sub_cancel_left]
    · exact h g hg hlt
  by_cases hlast : messageLen - min frameMax messageLen = 0
  · -- the last frame
    have hdrop : buffers.flatten.drop (f * frameMax + min frameMax messageLen) = [] :=
      List.drop_eq_nil_of_le (by omega)
    refine .inl ⟨hstep fun g hg hlt => ?_, [vectors.flatten], s.callsReliable + 1, ⟨?_, ?_⟩, ?_⟩
    · have := Nat.mul_le_mul_right frameMax hg
      rw [Nat.add_mul, Nat.one_mul] at this
      omega
    · rw [hsplit, hdrop]
      simp
    · intro packet hmem
      rw [List.mem_singleton.mp hmem, hpacket]
      omega
    · rw [if_pos hlast]
      rfl
  · have hnext : f * frameMax + min frameMax messageLen = (f + 1) * frameMax := by
      rw [Nat.add_mul, Nat.one_mul]
      omega
    rw [if_neg hlast, hnext]
    rcases ih (messageLen - min frameMax messageLen) (by omega) (Nat.succ_pos f) (by omega)
      (by rw [← hnext]; omega)
      { s with callsReliable := s.callsReliable + 1,
               handed := s.handed ++ [(i, frame vectors.flatten)] } with
      ⟨hlater, packets, calls, hcovers, hrest⟩ | ⟨hlater, hrest⟩
    · refine .inl ⟨hstep hlater, vectors.flatten :: packets, calls, ⟨?_, ?_⟩, ?_⟩
      · rw [List.flatten_cons, hcovers.1, hsplit, hnext]
      · intro packet hmem
        rcases List.mem_cons.mp hmem with rfl | hmem
        · rw [hpacket]
          omega
        · exact hcovers.2 packet hmem
      · rw [hrest]
        simp [framesOf]
    · exact .inr ⟨fun h => hlater fun g hg => h g (by omega), hrest⟩

section message

variable {env : SendEnv} {i : ℕ} {buffers : List Bytes} {s : SendState}

/-- The first frame of a message is read right. -/
lemma frameVectors_first (buffers : List Bytes) :
    ∃ vectors, frameVectors buffers 0 (min frameMax buffers.flatten.length) = .ok vectors ∧
      vectors.flatten = buffers.flatten.take (min frameMax buffers.flatten.length) := by
  rw [frameVectors, startLoop_zero]
  exact vectorsLoop_start _ _ (Nat.min_le_right _ _)

/-- A message for whose first frame the socket would block leaves nothing behind. -/
lemma splitLoop_message_blocked (hdata : buffers.flatten ≠ [])
    (hblock : env.sendMessages s.calls = 0) :
    splitLoop env i buffers buffers.flatten.length 0 s = .ok { s with calls := s.calls + 1 } := by
  obtain ⟨vectors, hok, -⟩ := frameVectors_first buffers
  have hlen : buffers.flatten.length ≠ 0 := by rwa [Ne, List.length_eq_zero_iff]
  refine splitLoop_blocked hlen hok ?_
  rw [startLoop_zero, SendState.send]
  simp [hblock]

/-- **A message whose first frame the socket takes** is sent whole when its later frames lie
each in one buffer; else the function reads behind the end of a buffer. -/
theorem splitLoop_message_taken (henv : env.ReliableTakes) (hdata : buffers.flatten ≠ [])
    (htake : env.sendMessages s.calls = 1) :
    (LaterFramesInside buffers 1 ∧ ∃ packets calls, Covers packets buffers.flatten ∧
        splitLoop env i buffers buffers.flatten.length 0 s =
          .ok { nSent := s.nSent + 1, calls := s.calls + 1, callsReliable := calls,
                handed := s.handed ++ framesOf i packets }) ∨
      (¬LaterFramesInside buffers 1 ∧
        splitLoop env i buffers buffers.flatten.length 0 s = .error .outOfBounds) := by
  obtain ⟨vectors, hok, hflat⟩ := frameVectors_first buffers
  have hlen : buffers.flatten.length ≠ 0 := by rwa [Ne, List.length_eq_zero_iff]
  have hpacket : vectors.flatten.length = min frameMax buffers.flatten.length := by
    rw [hflat, List.length_take, Nat.min_eq_left (Nat.min_le_right _ _)]
  have hsend : s.send env ((startLoop 0 buffers 0).2.2 ≠ 0) i
      (be16 (min frameMax buffers.flatten.length) ++ vectors.flatten) =
        (1, { s with calls := s.calls + 1
                     handed := s.handed ++ [(i, frame vectors.flatten)] }) := by
    rw [startLoop_zero, SendState.send, frame, hpacket]
    simp [htake]
  rw [splitLoop_taken hlen hok hsend]
  by_cases hlast : buffers.flatten.length - min frameMax buffers.flatten.length = 0
  · refine .inl ⟨fun g hg hlt => ?_, [vectors.flatten], s.callsReliable, ⟨?_, ?_⟩, ?_⟩
    · have := Nat.mul_le_mul_right frameMax hg
      omega
    · rw [List.flatten_singleton, hflat]
      exact List.take_of_length_le (by omega)
    · intro packet hmem
      rw [List.mem_singleton.mp hmem, hpacket]
      omega
    · rw [if_pos hlast]
      rfl
  · have hnext : 0 + min frameMax buffers.flatten.length = 1 * frameMax := by omega
    rw [if_neg hlast, hpacket, hnext]
    have hrestLen : 1 * frameMax + (buffers.flatten.length -
        min frameMax buffers.flatten.length) = buffers.flatten.length := by omega
    rcases splitLoop_later henv i Nat.one_pos (Nat.pos_of_ne_zero hlast) hrestLen
      { s with calls := s.calls + 1, handed := s.handed ++ [(i, frame vectors.flatten)] } with
      ⟨hlater, packets, calls, hcovers, hrest⟩ | ⟨hlater, hrest⟩
    · refine .inl ⟨hlater, vectors.flatten :: packets, calls, ⟨?_, ?_⟩, ?_⟩
      · rw [List.flatten_cons, hcovers.1, hflat, ← hnext, Nat.zero_add, List.take_append_drop]
      · intro packet hmem
        rcases List.mem_cons.mp hmem with rfl | hmem
        · rw [hpacket]
          omega
        · exact hcovers.2 packet hmem
      · rw [hrest]
        simp [framesOf]
    · exact .inr ⟨hlater, hrest⟩

end message

/-! ### All messages -/

/-- A message as the callers give it: its buffers are counted or end at a `NULL`, and it has
bytes. -/
def Sendable (message : NiceOutputMessage) : Prop :=
  -1 ≤ message.nBuffers ∧ message.data ≠ []

/-- The socket takes a message or would block. -/
def SendEnv.TakesOrBlocks (env : SendEnv) : Prop :=
  (∀ n, env.sendMessages n = 1 ∨ env.sendMessages n = 0) ∧ env.ReliableTakes

/-- The numbers of those of the `n` messages from `i` on that the socket takes. -/
def taken (env : SendEnv) (i n : ℕ) : List ℕ :=
  (List.range' i n).filter fun j => env.sendMessages j = 1

/-- The frames of the messages `js`. -/
def framesOfAll (packets : ℕ → List Bytes) (js : List ℕ) : List (ℕ × Bytes) :=
  js.flatMap fun j => framesOf j (packets j)

/-- One message, taken or not: what the loop over its frames leaves. -/
lemma splitLoop_message {env : SendEnv} (henv : env.TakesOrBlocks) {message : NiceOutputMessage}
    (hmessage : Sendable message) (s : SendState) :
    ((env.sendMessages s.calls = 1 → LaterFramesInside message.visited 1) ∧
        ∃ packets calls, (env.sendMessages s.calls = 1 → Covers packets message.data) ∧
          splitLoop env s.calls message.visited message.data.length 0 s =
            .ok { nSent := s.nSent + if env.sendMessages s.calls = 1 then 1 else 0
                  calls := s.calls + 1
                  callsReliable := calls
                  handed := s.handed ++
                    if env.sendMessages s.calls = 1 then framesOf s.calls packets else [] }) ∨
      ((env.sendMessages s.calls = 1 ∧ ¬LaterFramesInside message.visited 1) ∧
        splitLoop env s.calls message.visited message.data.length 0 s = .error .outOfBounds) := by
  rcases henv.1 s.calls with htake | hblock
  · rcases splitLoop_message_taken henv.2 hmessage.2 (i := s.calls) htake with
      ⟨hlater, packets, calls, hcovers, hok⟩ | ⟨hlater, herror⟩
    · refine .inl ⟨fun _ => hlater, packets, calls, fun _ => hcovers, ?_⟩
      rw [if_pos htake, if_pos htake]
      exact hok
    · exact .inr ⟨⟨htake, hlater⟩, herror⟩
  · have hne : env.sendMessages s.calls ≠ 1 := by omega
    refine .inl ⟨fun h => absurd h hne, [], s.callsReliable, fun h => absurd h hne, ?_⟩
    rw [NiceOutputMessage.data, splitLoop_message_blocked hmessage.2 hblock, if_neg hne, if_neg hne]
    simp

lemma messagesLoop_cons {env : SendEnv} {i : ℕ} {message : NiceOutputMessage}
    (hmessage : Sendable message) (messages : List NiceOutputMessage) (s : SendState) :
    messagesLoop env i (message :: messages) s =
      splitLoop env i message.visited message.data.length 0 s >>=
        messagesLoop env (i + 1) messages := by
  have hcounted : countedBuffers message = .ok message.visited := by
    rw [countedBuffers, if_neg (by have := hmessage.1; omega)]
  rw [messagesLoop, hcounted, outputMessageGetSize_eq]
  rfl

lemma taken_succ (env : SendEnv) (i n : ℕ) :
    taken env i (n + 1) =
      if env.sendMessages i = 1 then i :: taken env (i + 1) n else taken env (i + 1) n := by
  rw [taken, taken, List.range'_succ, List.filter_cons]
  simp

lemma mem_taken {env : SendEnv} {i j n : ℕ} :
    j ∈ taken env i n ↔ (i ≤ j ∧ j < i + n) ∧ env.sendMessages j = 1 := by
  rw [taken, List.mem_filter, List.mem_range'_1, decide_eq_true_iff]

lemma framesOfAll_congr {packets packets' : ℕ → List Bytes} {js : List ℕ}
    (h : ∀ j ∈ js, packets j = packets' j) : framesOfAll packets js = framesOfAll packets' js := by
  refine List.flatMap_congr fun j hj => ?_
  rw [h j hj]

/-- What the loop over the messages does: each message that the socket takes is sent whole,
unless one of them has a later frame that does not lie in one buffer.  The induction is on
the messages, which the socket is offered one call each. -/
lemma messagesLoop_spec {env : SendEnv} (henv : env.TakesOrBlocks)
    {messages : List NiceOutputMessage} (hmessages : ∀ message ∈ messages, Sendable message)
    (s : SendState) :
    ((∀ j message, messages[j]? = some message → env.sendMessages (s.calls + j) = 1 →
          LaterFramesInside message.visited 1) ∧
        ∃ (packets : ℕ → List Bytes) (calls : ℕ),
          (∀ j message, messages[j]? = some message → env.sendMessages (s.calls + j) = 1 →
            Covers (packets (s.calls + j)) message.data) ∧
          messagesLoop env s.calls messages s =
            .ok { nSent := s.nSent + (taken env s.calls messages.length).length
                  calls := s.calls + messages.length
                  callsReliable := calls
                  handed := s.handed ++
                    framesOfAll packets (taken env s.calls messages.length) }) ∨
      ((∃ j message, messages[j]? = some message ∧ env.sendMessages (s.calls + j) = 1 ∧
          ¬LaterFramesInside message.visited 1) ∧
        messagesLoop env s.calls messages s = .error .outOfBounds) := by
  induction messages generalizing s with
  | nil =>
      refine .inl ⟨by simp, fun _ => [], s.callsReliable, by simp, ?_⟩
      simp [messagesLoop, taken, framesOfAll]
  | cons message messages ih =>
      have hfirst := hmessages message List.mem_cons_self
      have hrest : ∀ m ∈ messages, Sendable m := fun m hm => hmessages m (List.mem_cons_of_mem _ hm)
      rw [messagesLoop_cons hfirst]
      rcases splitLoop_message henv hfirst s with
        ⟨hlater, first, calls, hcovers, hok⟩ | ⟨⟨htaken, hlater⟩, herror⟩
      swap
      · exact .inr ⟨⟨0, message, rfl, htaken, hlater⟩, by rw [herror]; rfl⟩
      rw [hok]
      have hnext := ih hrest { nSent := s.nSent + if env.sendMessages s.calls = 1 then 1 else 0
                               calls := s.calls + 1
                               callsReliable := calls
                               handed := s.handed ++ if env.sendMessages s.calls = 1 then
                                 framesOf s.calls first else [] }
      simp only [Nat.add_right_comm s.calls 1] at hnext
      rcases hnext with ⟨hin, packets, calls', hpackets, hloop⟩ | ⟨⟨j, m, hm, htaken, hout⟩, hloop⟩
      swap
      · exact .inr ⟨⟨j + 1, m, hm, htaken, hout⟩, hloop⟩
      refine .inl ⟨?_, fun n => if n = s.calls then first else packets n, calls', ?_, ?_⟩
      · rintro (_ | j) m hm htaken
        · obtain rfl : message = m := by simpa using hm
          exact hlater htaken
        · exact hin j m hm htaken
      · rintro (_ | j) m hm htaken
        · obtain rfl : message = m := by simpa using hm
          simpa using hcovers htaken
        · have hne : s.calls + (j + 1) ≠ s.calls := by omega
          simpa [hne, Nat.add_assoc] using hpackets j m hm htaken
      · have hframes : framesOfAll packets (taken env (s.calls + 1) messages.length) =
            framesOfAll (fun n => if n = s.calls then first else packets n)
              (taken env (s.calls + 1) messages.length) := by
          refine framesOfAll_congr fun j hj => (if_neg ?_).symm
          have := (mem_taken.mp hj).1.1
          omega
        refine Eq.trans hloop ?_
        rw [hframes, List.length_cons, taken_succ]
        by_cases htaken : env.sendMessages s.calls = 1
        · simp [htaken, framesOfAll, Int.add_assoc, Nat.add_assoc, Nat.add_comm]
        · simp [htaken, Nat.add_assoc]

/-! ### In order -/

/-- The bytes of the pieces, each with the number of its message. -/
def taggedBytes (handed : List (ℕ × Bytes)) : List (ℕ × UInt8) :=
  handed.flatMap fun piece => piece.2.map fun byte => (piece.1, byte)

/-- The socket was handed the first `k` messages, in order, each covered by its frames, and
nothing else. -/
def HandedInOrder (messages : List NiceOutputMessage) (k : ℕ) (handed : List (ℕ × Bytes)) : Prop :=
  ∃ packets : ℕ → List Bytes,
    (∀ j message, messages[j]? = some message → j < k → Covers (packets j) message.data) ∧
      taggedBytes handed = taggedBytes (framesOfAll packets (List.range k))

/-- The messages are sent in order: `n_sent` is the number of leading messages that were
handed over in full, where a send of none is reported as one that would block. -/
def SentInOrder (messages : List NiceOutputMessage) (result : Except Fault SendReturn) : Prop :=
  ∃ k ≤ messages.length, ∃ r, result = .ok r ∧ HandedInOrder messages k r.handed ∧
    r.nSent = (if k = 0 then -1 else (k : ℤ)) ∧ r.error = if k = 0 then some .wouldBlock else none

/-- A message has left bytes exactly when it has packets. -/
lemma tag_mem_framesOfAll (packets : ℕ → List Bytes) (js : List ℕ) (j : ℕ) :
    (∃ byte, (j, byte) ∈ taggedBytes (framesOfAll packets js)) ↔ j ∈ js ∧ packets j ≠ [] := by
  constructor
  · rintro ⟨byte, hmem⟩
    obtain ⟨piece, hpiece, hbyte⟩ := List.mem_flatMap.mp hmem
    obtain ⟨i, hi, hframes⟩ := List.mem_flatMap.mp hpiece
    obtain ⟨packet, hpacket, rfl⟩ := List.mem_map.mp hframes
    obtain ⟨b, -, heq⟩ := List.mem_map.mp hbyte
    obtain rfl : i = j := congrArg Prod.fst heq
    exact ⟨hi, List.ne_nil_of_mem hpacket⟩
  · rintro ⟨hj, hne⟩
    obtain ⟨packet, hpacket⟩ := List.exists_mem_of_ne_nil _ hne
    refine ⟨UInt8.ofNat (packet.length / 256), List.mem_flatMap.mpr ⟨(j, frame packet), ?_, ?_⟩⟩
    · exact List.mem_flatMap.mpr ⟨j, hj, List.mem_map.mpr ⟨packet, hpacket, rfl⟩⟩
    · exact List.mem_map.mpr ⟨_, by simp [frame, be16], rfl⟩

/-- A set of numbers below `n` without gaps is an initial segment. -/
lemma exists_initial_segment (P : ℕ → Prop) (n : ℕ) (h : ∀ i j, i < j → j < n → P j → P i) :
    ∃ k ≤ n, ∀ j < n, P j ↔ j < k := by
  induction n with
  | zero => exact ⟨0, le_rfl, by omega⟩
  | succ n ih =>
      by_cases hn : P n
      · refine ⟨n + 1, le_rfl, fun j hj => iff_of_true ?_ hj⟩
        rcases Nat.eq_or_lt_of_le (Nat.le_of_lt_succ hj) with rfl | hlt
        · exact hn
        · exact h j n hlt (Nat.lt_succ_self n) hn
      · obtain ⟨k, hk, hiff⟩ := ih fun i j hij hj => h i j hij (Nat.lt_succ_of_lt hj)
        refine ⟨k, Nat.le_succ_of_le hk, fun j hj => ?_⟩
        rcases Nat.eq_or_lt_of_le (Nat.le_of_lt_succ hj) with rfl | hlt
        · exact iff_of_false hn (by omega)
        · exact hiff j hlt

lemma taken_eq_range {env : SendEnv} {k n : ℕ} (hk : k ≤ n)
    (h : ∀ j < n, env.sendMessages j = 1 ↔ j < k) : taken env 0 n = List.range k := by
  have hfilter : taken env 0 n = (List.range n).filter fun j => j < k := by
    rw [taken, ← List.range_eq_range']
    refine List.filter_congr fun j hj => ?_
    simp only [h j (List.mem_range.mp hj)]
  have hsplit : List.range n = List.range k ++ List.range' k (n - k) := by
    have happend := List.range'_append_1 (s := 0) (m := k) (n := n - k)
    rw [Nat.zero_add, Nat.add_sub_cancel' hk] at happend
    rw [List.range_eq_range', List.range_eq_range', happend]
  rw [hfilter, hsplit, List.filter_append, List.filter_eq_self.mpr (by simp),
    List.filter_eq_nil_iff.mpr, List.append_nil]
  intro j hj
  have := (List.mem_range'_1.mp hj).1
  simp
  omega

/-- The number of messages that were sent, as it is returned. -/
lemma sendResult_count {messages : List NiceOutputMessage} {n : ℕ} (hn : n ≤ messages.length)
    (calls callsReliable : ℕ) (handed : List (ℕ × Bytes)) :
    sendResult messages false { nSent := n, calls, callsReliable, handed } =
      .ok { nSent := if n = 0 then -1 else n
            error := if n = 0 then some .wouldBlock else none
            handed } := by
  rcases Nat.eq_zero_or_pos n with rfl | hpos
  · simp [sendResult]
  · have hne : n ≠ 0 := by omega
    have hnneg : ¬((n : ℤ) < 0) := by omega
    have hone : ¬((n : ℤ) = -1) := by omega
    simp [sendResult, hne, hnneg, hone, hn]

/-- What the function does with a socket that takes messages or would block. -/
lemma send_spec {env : SendEnv} (henv : env.TakesOrBlocks) {messages : List NiceOutputMessage}
    (hmessages : ∀ message ∈ messages, Sendable message) :
    ((∀ j message, messages[j]? = some message → env.sendMessages j = 1 →
          LaterFramesInside message.visited 1) ∧
        ∃ packets : ℕ → List Bytes,
          (∀ j message, messages[j]? = some message → env.sendMessages j = 1 →
            Covers (packets j) message.data) ∧
          niceAgentSendMessagesNonblockingInternal env (some (some true)) messages false =
            .ok { nSent := if (taken env 0 messages.length).length = 0 then -1
                    else (taken env 0 messages.length).length
                  error := if (taken env 0 messages.length).length = 0 then some .wouldBlock
                    else none
                  handed := framesOfAll packets (taken env 0 messages.length) }) ∨
      ((∃ j message, messages[j]? = some message ∧ env.sendMessages j = 1 ∧
          ¬LaterFramesInside message.visited 1) ∧
        niceAgentSendMessagesNonblockingInternal env (some (some true)) messages false =
          .error .outOfBounds) := by
  have hrun : niceAgentSendMessagesNonblockingInternal env (some (some true)) messages false =
      messagesLoop env 0 messages .start >>= sendResult messages false := by
    rw [niceAgentSendMessagesNonblockingInternal, if_pos (.inr (by simp))]
  have hloop := messagesLoop_spec henv hmessages .start
  simp only [SendState.start, Nat.zero_add, Int.zero_add, List.nil_append] at hloop
  rw [hrun, SendState.start]
  rcases hloop with ⟨hin, packets, calls, hcovers, hok⟩ | ⟨hout, herror⟩
  · refine .inl ⟨hin, packets, hcovers, ?_⟩
    have hcount : (taken env 0 messages.length).length ≤ messages.length := by
      refine (List.length_filter_le _ _).trans ?_
      rw [List.length_range']
    rw [hok]
    exact sendResult_count hcount _ _ _
  · refine .inr ⟨hout, ?_⟩
    rw [herror]
    rfl

/-- **Framing on send**: over a socket that takes messages or would block, the function sends
the leading messages whole, in frames, and nothing of any other message, exactly when the
socket takes no message behind one for which it would block and the later frames of every
message that it takes lie each in one buffer, behind its first byte. -/
theorem sentInOrder_iff {env : SendEnv} (henv : env.TakesOrBlocks)
    {messages : List NiceOutputMessage} (hmessages : ∀ message ∈ messages, Sendable message) :
    SentInOrder messages
        (niceAgentSendMessagesNonblockingInternal env (some (some true)) messages false) ↔
      (∀ i j, i < j → j < messages.length → env.sendMessages j = 1 → env.sendMessages i = 1) ∧
        ∀ j message, messages[j]? = some message → env.sendMessages j = 1 →
          LaterFramesInside message.visited 1 := by
  rcases send_spec henv hmessages with
    ⟨hin, packets, hcovers, hrun⟩ | ⟨⟨j, message, hj, htaken, hout⟩, hrun⟩
  swap
  · -- a frame reaches behind the end of its buffer
    rw [hrun]
    refine iff_of_false ?_ fun h => hout (h.2 j message hj htaken)
    rintro ⟨k, -, r, hr, -⟩
    exact absurd hr (by simp)
  have hdata : ∀ j < messages.length, ∀ ps : ℕ → List Bytes,
      (∀ message, messages[j]? = some message → Covers (ps j) message.data) → ps j ≠ [] := by
    intro j hj ps hps
    have hmessage := List.getElem?_eq_getElem hj
    exact (hps _ hmessage).ne_nil (hmessages _ (List.mem_of_getElem? hmessage)).2
  rw [hrun]
  constructor
  · rintro ⟨k, hk, r, hr, ⟨packets', hcovers', htags⟩, -, -⟩
    cases hr
    -- the same messages have left bytes on both sides
    have hiff : ∀ j < messages.length, env.sendMessages j = 1 ↔ j < k := by
      intro j hj
      have hl := tag_mem_framesOfAll packets (taken env 0 messages.length) j
      have hr := tag_mem_framesOfAll packets' (List.range k) j
      rw [htags, hr, mem_taken, List.mem_range] at hl
      constructor
      · intro htaken
        exact (hl.mpr ⟨⟨⟨Nat.zero_le j, by omega⟩, htaken⟩,
          hdata j hj packets fun m hm => hcovers j m hm htaken⟩).1
      · intro hlt
        exact (hl.mp ⟨hlt, hdata j hj packets' fun m hm => hcovers' j m hm hlt⟩).1.2
    refine ⟨fun i j hij hj htaken => ?_, hin⟩
    have := (hiff j hj).mp htaken
    exact (hiff i (by omega)).mpr (by omega)
  · rintro ⟨hgap, -⟩
    obtain ⟨k, hk, hiff⟩ := exists_initial_segment (fun j => env.sendMessages j = 1)
      messages.length hgap
    have htaken := taken_eq_range hk hiff
    refine ⟨k, hk, _, rfl, ⟨packets, fun j m hm hlt => ?_, ?_⟩, ?_, ?_⟩
    · exact hcovers j m hm ((hiff j (List.getElem?_eq_some_iff.mp hm).1).mpr hlt)
    · rw [htaken]
    · rw [htaken, List.length_range]
    · rw [htaken, List.length_range]

/-- A socket that takes every message from the `n`-th on. -/
def takesFrom (n : ℕ) : SendEnv :=
  { sendMessages := fun m => if m < n then 0 else 1
    sendMessagesReliable := fun _ => 1
    sendUnframed := fun _ => 0 }

lemma takesFrom_takesOrBlocks (n : ℕ) : (takesFrom n).TakesOrBlocks := by
  refine ⟨fun m => ?_, fun _ => rfl⟩
  rw [takesFrom]
  dsimp only
  split
  · exact .inr rfl
  · exact .inl rfl

lemma laterFramesInside_of_short {buffers : List Bytes} (h : buffers.flatten.length ≤ frameMax) :
    LaterFramesInside buffers 1 := by
  intro g hg hlt
  have := Nat.mul_le_mul_right frameMax hg
  omega

lemma sendable_single {bytes : Bytes} (h : bytes ≠ []) : Sendable (.single bytes) := by
  have hcount : (-1 : ℤ) ≤ 1 := by decide
  refine ⟨hcount, ?_⟩
  simpa [NiceOutputMessage.data, NiceOutputMessage.visited, NiceOutputMessage.single] using h

theorem sentInOrder_two :
    SentInOrder [.single [1], .single [2]]
      (niceAgentSendMessagesNonblockingInternal (takesFrom 0) (some (some true))
        [.single [1], .single [2]] false) := by
  refine (sentInOrder_iff (takesFrom_takesOrBlocks 0) ?_).mpr ⟨fun i j _ _ _ => rfl, ?_⟩
  · intro message hmem
    rcases List.mem_pair.mp hmem with rfl | rfl <;> exact sendable_single (by decide)
  · intro j message hj _
    rcases List.mem_pair.mp (List.mem_of_getElem? hj) with rfl | rfl <;>
      exact laterFramesInside_of_short (by decide)

/-- A message whose second frame is its second buffer. -/
def boundaryMessage : NiceOutputMessage := ⟨[⟨some (List.replicate 0xF800 0)⟩, ⟨some [1]⟩], 2⟩

lemma boundaryMessage_visited :
    boundaryMessage.visited = [List.replicate 0xF800 0, [1]] := rfl

/-- A frame that starts at the end of a buffer is not behind the first byte of the next one. -/
lemma not_inOneBuffer_boundary (a b : Bytes) {len : ℕ} (hlen : 0 < len) :
    ¬InOneBuffer [a, b] a.length len := by
  rintro ⟨_ | _ | j, hlt, hle⟩
  · simp at hle
    omega
  · simp at hlt
  · simp at hlt

/-- The second of two messages overtakes the first one, for which the socket would block; and
of a message whose second frame starts at the end of a buffer nothing is sent: the function
reads behind the buffer. -/
theorem not_sentInOrder :
    ¬SentInOrder [.single [1], .single [2]]
        (niceAgentSendMessagesNonblockingInternal (takesFrom 1) (some (some true))
          [.single [1], .single [2]] false) ∧
      ¬SentInOrder [boundaryMessage]
        (niceAgentSendMessagesNonblockingInternal (takesFrom 0) (some (some true))
          [boundaryMessage] false) := by
  constructor
  · have hmessages : ∀ message ∈ [NiceOutputMessage.single [1], .single [2]], Sendable message := by
      intro message hmem
      rcases List.mem_pair.mp hmem with rfl | rfl <;> exact sendable_single (by decide)
    rintro ⟨k, -, r, hr, ⟨packets', -, htags⟩, hnSent, -⟩
    rcases send_spec (takesFrom_takesOrBlocks 1) hmessages with
      ⟨-, packets, hcovers, hrun⟩ | ⟨-, hrun⟩
    · rw [hrun] at hr
      cases hr
      -- the only message that left bytes is number 1, and `n_sent` is 1
      have htaken : taken (takesFrom 1) 0 2 = [1] := by decide
      have hlength : [NiceOutputMessage.single [1], .single [2]].length = 2 := rfl
      rw [hlength, htaken] at htags hnSent
      have hk : k = 1 := by
        have hone : (1 : ℤ) = if k = 0 then -1 else (k : ℤ) := hnSent
        split at hone <;> omega
      have hmem := tag_mem_framesOfAll packets [1] 1
      have hmem' := tag_mem_framesOfAll packets' (List.range k) 1
      rw [htags, hmem', hk] at hmem
      have hne : packets 1 ≠ [] := by
        refine (hcovers 1 (.single [2]) rfl rfl).ne_nil ?_
        exact (sendable_single (by decide)).2
      exact absurd (hmem.mpr ⟨List.mem_singleton_self 1, hne⟩).1 (by decide)
    · rw [hrun] at hr
      cases hr
  · have hlength : (boundaryMessage.visited.flatten).length = frameMax + 1 := by
      rw [boundaryMessage_visited, List.flatten_cons, List.length_append, List.length_replicate]
      rfl
    have hmessages : ∀ message ∈ [boundaryMessage], Sendable message := by
      intro message hmem
      obtain rfl := List.mem_singleton.mp hmem
      refine ⟨by decide, fun hnil => ?_⟩
      rw [NiceOutputMessage.data] at hnil
      rw [hnil] at hlength
      exact absurd hlength (by decide)
    rintro ⟨k, -, r, hr, -⟩
    rcases send_spec (takesFrom_takesOrBlocks 0) hmessages with ⟨hin, -⟩ | ⟨-, hrun⟩
    · have hsecond := hin 0 boundaryMessage rfl rfl 1 le_rfl (by omega)
      rw [hlength, boundaryMessage_visited] at hsecond
      have hmax : 1 * frameMax = (List.replicate 0xF800 (0 : UInt8)).length := by
        rw [List.length_replicate, Nat.one_mul, frameMax]
      have hmaxPos : 0 < frameMax := by decide
      have hpos : 0 < min frameMax (frameMax + 1 - (List.replicate 0xF800 (0 : UInt8)).length) := by
        rw [← hmax]
        omega
      rw [hmax] at hsecond
      exact not_inOneBuffer_boundary _ _ hpos hsecond
    · rw [hrun] at hr
      cases hr

end LibNice.Agent
