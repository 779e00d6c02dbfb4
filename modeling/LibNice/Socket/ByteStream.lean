import LibNice.Foundation.Run
import LibNice.Socket.TcpBsd

/-!
The stream of bytes through a TCP socket.

* `CutsWell`: where a partial write may stop so that the rest of the message is copied
  right; `copyLoop_eq_iff` says that the copy is right exactly then.
* `TcpSocket.stream`: what the kernel has accepted, followed by the queue.
* `socketSendMessage_stream`, `flushLoop_stream`: what one message and one flush do to it.
* `stream_preserved`: in every run whose partial writes stop well, the stream is what the
  calls have reported as sent; `late_cut_loses_bytes` is a partial write that does not.
-/

namespace LibNice.Socket

open LibNice.Foundation
open LibNice.Stun (intOfSize)

/-! ### Copying the rest of a message -/

/-- A partial write of `k` bytes of the buffers stops in the first half of a buffer, or at
its end, or in the last buffer with bytes in it. -/
def CutsWell : List Bytes → ℕ → Prop
  | [], _ => True
  | buffer :: buffers, k =>
      if buffer.length ≤ k then CutsWell buffers (k - buffer.length)
      else 2 * k ≤ buffer.length ∨ buffers.flatten = []

lemma CutsWell.zero (buffers : List Bytes) : CutsWell buffers 0 := by
  induction buffers with
  | nil => trivial
  | cons buffer buffers ih =>
      rw [CutsWell]
      split
      · rw [Nat.zero_sub]
        exact ih
      · exact .inl (by omega)

lemma copyLoop_skip {length k : ℕ} {buffer buf : Bytes} (buffers : List Bytes)
    (h : buffer.length ≤ k) :
    copyLoop length (buffer :: buffers) buf k =
      copyLoop length buffers buf (k - buffer.length) := by
  rw [copyLoop, if_pos h]

lemma copyLoop_copy {length k len : ℕ} {buffer buf : Bytes} (buffers : List Bytes)
    (h : ¬ buffer.length ≤ k) (hlen : min (length - buf.length) (buffer.length - k) = len) :
    copyLoop length (buffer :: buffers) buf k =
      copyLoop length buffers (buf ++ (buffer.drop k).take len)
        (if k ≥ len then k - len else 0) := by
  subst hlen
  rw [copyLoop, if_neg h]

/-- The loop copies no more than what is left behind the offset. -/
lemma copyLoop_length_le (length : ℕ) (buffers : List Bytes) (buf : Bytes) (k : ℕ) :
    (copyLoop length buffers buf k).length ≤ buf.length + (buffers.flatten.length - k) := by
  induction buffers generalizing buf k with
  | nil => simp [copyLoop]
  | cons buffer buffers ih =>
      rw [List.flatten_cons, List.length_append]
      by_cases hskip : buffer.length ≤ k
      · rw [copyLoop_skip buffers hskip]
        have := ih buf (k - buffer.length)
        omega
      · obtain ⟨len, hlen⟩ : ∃ len, min (length - buf.length) (buffer.length - k) = len := ⟨_, rfl⟩
        rw [copyLoop_copy buffers hskip hlen]
        have hrest := ih (buf ++ (buffer.drop k).take len) (if k ≥ len then k - len else 0)
        have hcopied : (buf ++ (buffer.drop k).take len).length = buf.length + len := by
          rw [List.length_append, List.length_take, List.length_drop]
          omega
        omega

/-- From empty buffers nothing is copied. -/
lemma copyLoop_of_flatten_eq_nil (length : ℕ) {buffers : List Bytes} (buf : Bytes) (k : ℕ)
    (h : buffers.flatten = []) : copyLoop length buffers buf k = buf := by
  induction buffers generalizing k with
  | nil => rfl
  | cons buffer buffers ih =>
      rw [List.flatten_cons, List.append_eq_nil_iff] at h
      rw [copyLoop_skip buffers (by rw [h.1]; exact Nat.zero_le k)]
      exact ih _ h.2

/-- **The loop copies the rest of the message** exactly when the write before it has stopped
well.  The induction is on the buffers; a buffer that is not skipped is copied from the
offset on, and the offset has to be 0 from then on. -/
theorem copyLoop_eq_iff (length : ℕ) (buffers : List Bytes) (buf : Bytes) (k : ℕ)
    (hlength : length = buf.length + (buffers.flatten.length - k)) :
    copyLoop length buffers buf k = buf ++ buffers.flatten.drop k ↔ CutsWell buffers k := by
  induction buffers generalizing buf k with
  | nil => simp [copyLoop, CutsWell]
  | cons buffer buffers ih =>
      rw [List.flatten_cons, List.length_append] at hlength
      rw [CutsWell, List.flatten_cons]
      by_cases hskip : buffer.length ≤ k
      · rw [copyLoop_skip buffers hskip, if_pos hskip, List.drop_append,
          List.drop_eq_nil_of_le hskip, List.nil_append]
        exact ih buf (k - buffer.length) (by omega)
      have hlen : min (length - buf.length) (buffer.length - k) = buffer.length - k := by omega
      have htake : (buffer.drop k).take (buffer.length - k) = buffer.drop k :=
        List.take_of_length_le (by rw [List.length_drop])
      have hdrop : (buffer ++ buffers.flatten).drop k = buffer.drop k ++ buffers.flatten := by
        rw [List.drop_append, Nat.sub_eq_zero_of_le (by omega), List.drop_zero]
      rw [copyLoop_copy buffers hskip hlen, if_neg hskip, htake, hdrop, ← List.append_assoc]
      have hbuf : (buf ++ buffer.drop k).length = buf.length + (buffer.length - k) := by
        rw [List.length_append, List.length_drop]
      by_cases hnil : buffers.flatten = []
      · rw [copyLoop_of_flatten_eq_nil _ _ _ hnil, hnil, List.append_nil]
        simp
      by_cases hhalf : 2 * k ≤ buffer.length
      · -- what is left of the buffer is at least as long as the offset
        have hzero : (if k ≥ buffer.length - k then k - (buffer.length - k) else 0) = 0 := by
          split <;> omega
        have hrest := ih (buf ++ buffer.drop k) 0 (by rw [hbuf]; omega)
        rw [List.drop_zero] at hrest
        rw [hzero, hrest]
        exact iff_of_true (.zero buffers) (.inl hhalf)
      · -- an offset is left over, and some bytes of the next buffers are skipped
        refine iff_of_false (fun heq => ?_) (by simp [hhalf, hnil])
        have hle := copyLoop_length_le length buffers (buf ++ buffer.drop k)
          (if k ≥ buffer.length - k then k - (buffer.length - k) else 0)
        have hpos := List.length_pos_iff.mpr hnil
        rw [heq, if_pos (by omega), List.length_append] at hle
        omega

/-! ### The stream -/

/-- The bytes of a queue, head first. -/
def queued (sendQueue : List NiceSocketQueuedSend) : Bytes := sendQueue.flatMap (·.buf)

/-- The bytes that the kernel has accepted, followed by those in the queue. -/
def TcpSocket.stream (sock : TcpSocket) : Bytes := sock.accepted ++ queued sock.sendQueue

/-- The kernel takes a prefix of what it is given, at least one byte if there is one, or
would block. -/
def Env.Fair (env : Env) : Prop :=
  ∀ i len, match env.answer i len with
    | .sent n => n ≤ len ∧ (0 < len → 1 ≤ n)
    | .error gerr => gerr = .wouldBlock

lemma outputMessageGetSize_eq (message : NiceOutputMessage) :
    outputMessageGetSize message = message.data.length := by
  rw [outputMessageGetSize, NiceOutputMessage.data, List.length_flatten, List.sum_eq_foldl,
    List.foldl_map]

/-- What a queue holds after the rest of a message was put to its head or its tail. -/
lemma queueSend_queued (memory : ℕ → UInt8) (sendQueue : List NiceSocketQueuedSend)
    (message : NiceOutputMessage) {k : ℕ} (head ioSource attach : Bool)
    (h : CutsWell message.visited k) :
    queued (niceSocketQueueSendWithCallback memory sendQueue message k
        (outputMessageGetSize message) head ioSource attach).1 =
      if head then message.data.drop k ++ queued sendQueue
      else queued sendQueue ++ message.data.drop k := by
  rw [niceSocketQueueSendWithCallback]
  by_cases hk : k ≥ outputMessageGetSize message
  · have hnil : message.data.drop k = [] :=
      List.drop_eq_nil_of_le (outputMessageGetSize_eq message ▸ hk)
    rw [if_pos hk, hnil]
    cases head <;> simp
  · have hsize := outputMessageGetSize_eq message
    have hcopy := (copyLoop_eq_iff (outputMessageGetSize message - k) message.visited [] k (by
      rw [hsize, List.length_nil, Nat.zero_add, NiceOutputMessage.data])).mpr h
    rw [List.nil_append] at hcopy
    have hfull : outputMessageGetSize message - k -
        (message.visited.flatten.drop k).length = 0 := by
      rw [hsize, NiceOutputMessage.data, List.length_drop, Nat.sub_self]
    rw [if_neg hk]
    simp only [hcopy, hfull, List.range'_zero, List.map_nil, List.append_nil]
    cases head <;> simp [queued, NiceOutputMessage.data]

lemma requeue_queued (memory : ℕ → UInt8) (sendQueue : List NiceSocketQueuedSend)
    (buf : Bytes) : queued (requeue memory sendQueue buf) = buf ++ queued sendQueue := by
  have hdata : (NiceOutputMessage.single buf).data = buf := by
    simp [NiceOutputMessage.single, NiceOutputMessage.data, NiceOutputMessage.visited]
  have hsize : outputMessageGetSize (.single buf) = buf.length := by
    rw [outputMessageGetSize_eq, hdata]
  have h := queueSend_queued memory sendQueue (.single buf) true false false (CutsWell.zero _)
  rw [hsize, hdata, if_pos rfl, List.drop_zero] at h
  exact h

/-- What a message in a queue adds to the stream of the socket. -/
lemma TcpSocket.queueSend_stream (sock : TcpSocket) (memory : ℕ → UInt8)
    (message : NiceOutputMessage) {k : ℕ} {head : Bool} (h : CutsWell message.visited k)
    (hhead : head = true → sock.sendQueue = []) :
    (sock.queueSend memory message k (outputMessageGetSize message) head).stream =
      sock.stream ++ message.data.drop k := by
  have hqueue := queueSend_queued memory sock.sendQueue message head sock.ioSource true h
  have hstream : (sock.queueSend memory message k (outputMessageGetSize message) head).stream =
      sock.accepted ++ queued (niceSocketQueueSendWithCallback memory sock.sendQueue message k
        (outputMessageGetSize message) head sock.ioSource true).1 := rfl
  rw [hstream, hqueue, TcpSocket.stream]
  cases head with
  | false => rw [if_neg (by simp), List.append_assoc]
  | true =>
      rw [hhead rfl, if_pos rfl]
      simp [queued]

/-! ### One message -/

/-- What a message does to the stream: a socket in error stays as it is; else the message is
refused, and the stream stays as it is, or all of the message is added to it. -/
theorem socketSendMessage_stream {env : Env} (hfair : env.Fair) (i : ℕ) (sock : TcpSocket)
    (message : NiceOutputMessage) (reliable : Bool)
    (hcuts : ∀ k, env.answer i (outputMessageGetSize message) = .sent k →
      CutsWell message.visited k) :
    (sock.error = true → socketSendMessage env i sock message reliable = (-1, sock)) ∧
    (sock.error = false → ∃ ret sock',
      socketSendMessage env i sock message reliable = (ret, sock') ∧ 0 ≤ ret ∧
      sock'.error = false ∧
      (reliable = true ∨ 0 < ret → sock'.stream = sock.stream ++ message.data) ∧
      (reliable = false ∧ ret = 0 → sock'.stream = sock.stream)) := by
  constructor
  · intro herr
    rw [socketSendMessage, if_pos herr]
  intro herr
  have hsize := outputMessageGetSize_eq message
  rw [socketSendMessage, if_neg (by simp [herr])]
  by_cases hqueue : sock.sendQueue = []
  swap
  · rw [if_neg (by simpa using hqueue)]
    cases reliable with
    | false => exact ⟨0, sock, rfl, le_rfl, herr, by simp, fun _ => rfl⟩
    | true =>
        refine ⟨_, _, rfl, by omega, herr, fun _ => ?_, by simp⟩
        rw [sock.queueSend_stream _ _ (.zero _) (by simp), List.drop_zero]
  rw [if_pos (by simp [hqueue]), gSocketSendMessage]
  have hanswer := hfair i message.visited.flatten.length
  have hlen : message.visited.flatten.length = outputMessageGetSize message := hsize.symm
  rw [hlen] at hanswer ⊢
  cases hans : env.answer i (outputMessageGetSize message) with
  | error gerr =>
      rw [hans] at hanswer
      obtain rfl : gerr = .wouldBlock := hanswer
      refine ⟨_, _, rfl, by omega, herr, fun _ => ?_, fun hret => ?_⟩
      · rw [sock.queueSend_stream _ _ (.zero _) (by simp), List.drop_zero]
      · have hnil : message.data = [] := List.length_eq_zero_iff.mp (by omega)
        rw [sock.queueSend_stream _ _ (.zero _) (by simp), List.drop_zero, hnil, List.append_nil]
  | sent k =>
      rw [hans] at hanswer
      obtain ⟨hk, hpos⟩ : k ≤ outputMessageGetSize message ∧
        (0 < outputMessageGetSize message → 1 ≤ k) := hanswer
      simp only
      -- the kernel has accepted `k` bytes
      set taken : TcpSocket := { sock with accepted := sock.accepted ++ message.data.take k }
        with htaken
      have hstream : taken.stream = sock.stream ++ message.data.take k := by
        simp [htaken, TcpSocket.stream, hqueue, queued]
      have hall : sock.stream ++ message.data.take k ++ message.data.drop k =
          sock.stream ++ message.data := by
        rw [List.append_assoc, List.take_append_drop]
      by_cases hpart : k < outputMessageGetSize message
      · rw [if_pos hpart]
        refine ⟨_, _, rfl, by omega, herr, fun _ => ?_, fun hret => by omega⟩
        rw [← hall, ← hstream]
        exact taken.queueSend_stream _ _ (hcuts k hans) fun _ => hqueue
      · rw [if_neg hpart]
        have hdrop : message.data.drop k = [] := List.drop_eq_nil_of_le (by omega)
        rw [hdrop, List.append_nil] at hall
        refine ⟨_, _, rfl, by omega, herr, fun _ => hstream.trans hall, fun hret => ?_⟩
        have hnil : message.data = [] := List.length_eq_zero_iff.mp (by omega)
        exact (hstream.trans hall).trans (by rw [hnil, List.append_nil])

/-! ### Calls -/

/-- Every partial write of one of the messages, the first of which is the `i`-th of the call,
stops well. -/
def CutsAllWell (env : Env) (i : ℕ) (messages : List NiceOutputMessage) : Prop :=
  ∀ j message k, messages[j]? = some message →
    env.answer (i + j) (outputMessageGetSize message) = .sent k → CutsWell message.visited k

lemma CutsAllWell.head {env : Env} {i : ℕ} {message : NiceOutputMessage}
    {messages : List NiceOutputMessage} (h : CutsAllWell env i (message :: messages)) (k : ℕ)
    (hk : env.answer i (outputMessageGetSize message) = .sent k) : CutsWell message.visited k :=
  h 0 message k rfl hk

lemma CutsAllWell.tail {env : Env} {i : ℕ} {message : NiceOutputMessage}
    {messages : List NiceOutputMessage} (h : CutsAllWell env i (message :: messages)) :
    CutsAllWell env (i + 1) messages := by
  intro j m k hj hk
  refine h (j + 1) m k hj ?_
  rw [← hk]
  congr 1
  omega

/-- A loop that has sent a message returns no error. -/
lemma sendMessagesLoop_ge (env : Env) {i : ℕ} (messages : List NiceOutputMessage)
    (sock : TcpSocket) (hi : 0 < i) : (i : ℤ) ≤ (sendMessagesLoop env i messages sock).1 := by
  induction messages generalizing i sock with
  | nil => exact le_rfl
  | cons message messages ih =>
      rw [sendMessagesLoop]
      rcases socketSendMessage env i sock message false with ⟨len, sock'⟩
      simp only
      split
      · exact le_rfl
      split
      · exact le_rfl
      · have := ih sock' (show 0 < i + 1 by omega)
        omega

/-- `socket_send_messages` adds the messages that it reports. -/
lemma sendMessagesLoop_stream {env : Env} (hfair : env.Fair) (i : ℕ)
    (messages : List NiceOutputMessage) (sock : TcpSocket) (hcuts : CutsAllWell env i messages) :
    (sendMessagesLoop env i messages sock).2.stream =
      sock.stream ++ (messages.take
        ((sendMessagesLoop env i messages sock).1 - i).toNat).flatMap (·.data) := by
  induction messages generalizing i sock with
  | nil => simp [sendMessagesLoop]
  | cons message messages ih =>
      obtain ⟨herr, hok⟩ := socketSendMessage_stream hfair i sock message false hcuts.head
      rw [sendMessagesLoop]
      cases he : sock.error with
      | true =>
          rw [herr he]
          simp only [show (-1 : ℤ) < 0 by omega, if_true]
          split
          · simp
          · have hneg : (-1 - (i : ℤ)).toNat = 0 := by omega
            rw [hneg]
            simp
      | false =>
          obtain ⟨ret, sock', hsend, hret, -, hadded, hrefused⟩ := hok he
          rw [hsend]
          simp only [show ¬ ret < 0 by omega, if_false]
          by_cases h0 : ret = 0
          · rw [if_pos h0, hrefused ⟨rfl, h0⟩]
            simp
          · rw [if_neg h0, ih (i + 1) sock' hcuts.tail, hadded (.inr (by omega))]
            -- the loop went on past this message
            have hnext := sendMessagesLoop_ge env messages sock' (show 0 < i + 1 by omega)
            obtain ⟨n, hn⟩ : ∃ n : ℕ, (sendMessagesLoop env (i + 1) messages sock').1 =
                ((i + 1 + n : ℕ) : ℤ) :=
              ⟨((sendMessagesLoop env (i + 1) messages sock').1 - (i + 1 : ℕ)).toNat, by omega⟩
            have h₁ : ((i + 1 + n : ℕ) : ℤ) - ((i + 1 : ℕ) : ℤ) = n := by omega
            have h₂ : ((i + 1 + n : ℕ) : ℤ) - (i : ℤ) = ((n + 1 : ℕ) : ℤ) := by omega
            rw [hn, h₁, h₂, Int.toNat_natCast, Int.toNat_natCast, List.take_succ_cons,
              List.flatMap_cons, List.append_assoc]

/-- `socket_send_messages_reliable` adds all messages, or fails and leaves the stream as it
is. -/
lemma sendMessagesReliableLoop_stream {env : Env} (hfair : env.Fair) (i : ℕ)
    (messages : List NiceOutputMessage) (sock : TcpSocket) (hcuts : CutsAllWell env i messages) :
    (sock.error = true → messages ≠ [] →
      sendMessagesReliableLoop env i messages sock = (-1, sock)) ∧
    (sock.error = false ∨ messages = [] → 0 ≤ (sendMessagesReliableLoop env i messages sock).1 ∧
      (sendMessagesReliableLoop env i messages sock).2.stream =
        sock.stream ++ messages.flatMap (·.data)) := by
  induction messages generalizing i sock with
  | nil => simp [sendMessagesReliableLoop]
  | cons message messages ih =>
      obtain ⟨herr, hok⟩ := socketSendMessage_stream hfair i sock message true hcuts.head
      rw [sendMessagesReliableLoop]
      refine ⟨fun he _ => ?_, fun he => ?_⟩
      · rw [herr he]
        rfl
      · obtain ⟨ret, sock', hsend, hret, herr', hadded, -⟩ := hok (he.resolve_right (by simp))
        rw [hsend]
        simp only [show ¬ ret < 0 by omega, if_false]
        obtain ⟨hpos, hstream⟩ := (ih (i + 1) sock' hcuts.tail).2 (.inl herr')
        refine ⟨hpos, ?_⟩
        rw [hstream, hadded (.inl rfl), List.flatMap_cons, List.append_assoc]

/-- A flush leaves the stream as it is. -/
theorem flushLoop_stream {env : Env} (hfair : env.Fair) (i : ℕ)
    (sendQueue : List NiceSocketQueuedSend) (accepted : Bytes)
    (hsmall : ∀ tbs ∈ sendQueue, tbs.buf.length < 2 ^ 31) :
    (flushLoop env i sendQueue accepted).2.2 ++ queued (flushLoop env i sendQueue accepted).2.1 =
      accepted ++ queued sendQueue := by
  induction sendQueue generalizing i accepted with
  | nil => rfl
  | cons tbs sendQueue ih =>
      have hrest (accepted : Bytes) := ih (i + 1) accepted fun t ht => hsmall t (by simp [ht])
      have hlt := hsmall tbs (by simp)
      have hcons : queued (tbs :: sendQueue) = tbs.buf ++ queued sendQueue := rfl
      have hflatten : ([tbs.buf] : List Bytes).flatten = tbs.buf := by simp
      have hanswer := hfair i tbs.buf.length
      rw [flushLoop, gSocketSendMessage, hflatten]
      cases hans : env.answer i tbs.buf.length with
      | error gerr =>
          rw [hans] at hanswer
          obtain rfl : gerr = .wouldBlock := hanswer
          simp only [if_true, requeue_queued, hcons]
      | sent n =>
          rw [hans] at hanswer
          obtain ⟨hn, -⟩ : n ≤ tbs.buf.length ∧ (0 < tbs.buf.length → 1 ≤ n) := hanswer
          -- both conversions to `int` keep the value
          have hint {m : ℕ} (hm : m ≤ tbs.buf.length) : intOfSize m = m := by
            unfold intOfSize
            rw [Int.bmod_def]
            omega
          simp only [hint hn, hint le_rfl, show ¬ (n : ℤ) < 0 by omega, if_false]
          by_cases hpart : (n : ℤ) < tbs.buf.length
          · simp only [if_pos hpart, requeue_queued, hcons, Int.toNat_natCast]
            rw [List.append_assoc, ← List.append_assoc (tbs.buf.take n), List.take_append_drop]
          · rw [if_neg hpart, hrest, hcons, List.take_of_length_le (by omega), List.append_assoc]

/-! ### Runs -/

/-- A call in a run: what it finds outside the socket, the call, and what it returns. -/
structure Event where
  env : Env
  call : Call
  ret : Ret

/-- The messages of a call. -/
def Call.messages : Call → List NiceOutputMessage
  | .sendMessages messages | .sendMessagesReliable messages => messages
  | _ => []

/-- The bytes of the messages that a call reports as sent: those before the returned index, or
all of a call of `socket_send_messages_reliable` that does not fail. -/
def Event.reported (e : Event) : Bytes :=
  match e.call, e.ret with
  | .sendMessages messages, .index n => (messages.take n.toNat).flatMap (·.data)
  | .sendMessagesReliable messages, .index n => if n < 0 then [] else messages.flatMap (·.data)
  | _, _ => []

/-- A call with a kernel that takes something or would block. -/
def Step (s : TcpSocket) (e : Event) (s' : TcpSocket) : Prop :=
  e.env.Fair ∧ s.call e.env e.call = (e.ret, s')

/-- The condition on a call: every partial write of a message stops well, and a flush finds no
entry of `2 ^ 31` bytes or more. -/
structure KeepsStream (s : TcpSocket) (e : Event) : Prop where
  cuts : CutsAllWell e.env 0 e.call.messages
  small : ∀ destroyed hup, e.call = .sendMore destroyed hup →
    ∀ tbs ∈ s.sendQueue, tbs.buf.length < 2 ^ 31

/-- A call that meets the condition. -/
def StepWhen (s : TcpSocket) (e : Event) (s' : TcpSocket) : Prop :=
  Step s e s' ∧ KeepsStream s e

/-- A call adds what it reports. -/
lemma step_stream {s s' : TcpSocket} {e : Event} (h : StepWhen s e s') :
    s'.stream = s.stream ++ e.reported := by
  obtain ⟨env, call, ret⟩ := e
  obtain ⟨⟨hfair, hcall⟩, hkeeps⟩ := h
  change env.Fair at hfair
  change s.call env call = (ret, s') at hcall
  have hcuts : CutsAllWell env 0 call.messages := hkeeps.cuts
  cases call with
  | sendMessages messages =>
      obtain ⟨rfl, rfl⟩ := Prod.mk.inj hcall
      have h := sendMessagesLoop_stream hfair 0 messages s hcuts
      rw [Int.ofNat_zero, Int.sub_zero] at h
      exact h
  | sendMessagesReliable messages =>
      obtain ⟨rfl, rfl⟩ := Prod.mk.inj hcall
      obtain ⟨hfail, hok⟩ := sendMessagesReliableLoop_stream hfair 0 messages s hcuts
      simp only [Event.reported]
      by_cases he : s.error = false ∨ messages = []
      · obtain ⟨hpos, hstream⟩ := hok he
        rw [if_neg (by omega)]
        exact hstream
      · rw [not_or] at he
        rw [hfail (by simpa using he.1) he.2, if_pos (by omega), List.append_nil]
  | sendMore destroyed hup =>
      obtain ⟨-, hs'⟩ := Prod.mk.inj hcall
      have hflush := flushLoop_stream hfair 0 s.sendQueue s.accepted
        (hkeeps.small destroyed hup rfl)
      have hnone : Event.reported ⟨env, .sendMore destroyed hup, ret⟩ = [] := rfl
      rw [hnone, List.append_nil, ← hs']
      change (socketSendMore env s destroyed hup).2.2.stream = s.stream
      rw [socketSendMore]
      cases destroyed with
      | true => rfl
      | false =>
          cases hup with
          | true => rfl
          | false =>
              rcases hloop : flushLoop env 0 s.sendQueue s.accepted with ⟨done, q, a⟩
              rw [hloop] at hflush
              cases done <;> exact hflush
  | setWritableCallback callback =>
      obtain ⟨rfl, rfl⟩ := Prod.mk.inj hcall
      rw [Event.reported, List.append_nil]
      rfl

/-- **The send queue preserves the stream.**  In every run of a new socket whose partial
writes stop well and whose flushes find no huge entry, the bytes that the kernel has accepted
followed by those in the queue are the messages that the calls have reported as sent, in the
order of the calls. -/
theorem stream_preserved (reliable : Bool) (es : List Event) (s : TcpSocket)
    (h : Run StepWhen (niceTcpBsdSocketNewFromGsock reliable) es s) :
    s.accepted ++ queued s.sendQueue = es.flatMap Event.reported :=
  h.appended (f := TcpSocket.stream) (g := Event.reported) fun _ _ _ hstep => step_stream hstep

/-- A kernel that takes up to `n` bytes at a time, and zeros in allocated blocks. -/
def kernelTaking (n : ℕ) : Env := ⟨fun _ len => .sent (min n len), fun _ _ => 0⟩

lemma kernelTaking_fair {n : ℕ} (hn : 0 < n) : (kernelTaking n).Fair := by
  intro i len
  exact ⟨Nat.min_le_right _ _, fun hlen => by omega⟩

/-- A message of two buffers. -/
def twoBuffers (first second : Bytes) : NiceOutputMessage := ⟨[⟨some first⟩, ⟨some second⟩], 2⟩

/-- A message whose first byte is taken at once, and the rest by a flush, a byte at a time. -/
theorem stream_preserved_sample :
    ∃ es s, Run StepWhen (niceTcpBsdSocketNewFromGsock true) es s ∧ s.accepted = [1, 2] ∧
      queued s.sendQueue = [3] ∧ s.accepted ++ queued s.sendQueue = es.flatMap Event.reported := by
  have hsend : StepWhen (niceTcpBsdSocketNewFromGsock true)
      ⟨kernelTaking 1, .sendMessages [twoBuffers [1, 2] [3]], .index 1⟩
      ⟨[⟨[2, 3]⟩], true, false, true, false, [1]⟩ := by
    refine ⟨⟨kernelTaking_fair (by omega), rfl⟩, fun j message k hj hk => ?_, by simp⟩
    cases j with
    | zero =>
        obtain rfl := Option.some.inj hj
        obtain rfl : 1 = k := SendResult.sent.inj hk
        exact .inl (by decide)
    | succ j => cases hj
  have hflush : StepWhen ⟨[⟨[2, 3]⟩], true, false, true, false, [1]⟩
      ⟨kernelTaking 1, .sendMore false false, .source true false⟩
      ⟨[⟨[3]⟩], true, false, true, false, [1, 2]⟩ := by
    refine ⟨⟨kernelTaking_fair (by omega), by rfl⟩, ⟨?_, ?_⟩⟩
    · intro j message k hj
      cases hj
    rintro - - - tbs htbs
    obtain rfl := List.mem_singleton.mp htbs
    exact show 2 < 2 ^ 31 by decide
  have hrun := (Run.nil.snoc hsend).snoc hflush
  exact ⟨_, _, hrun, rfl, rfl, stream_preserved true _ _ hrun⟩

/-- **A partial write that stops late**: of a message of the buffers `1, 2, 3` and `4` the kernel
takes two bytes; the loop skips the second buffer too, and the queue ends with a byte that is not
of the message. -/
theorem late_cut_loses_bytes :
    ∃ es s, Run Step (niceTcpBsdSocketNewFromGsock true) es s ∧
      es.flatMap Event.reported = [1, 2, 3, 4] ∧ s.accepted = [1, 2] ∧
      queued s.sendQueue = [3, 0] ∧
      ¬ s.accepted ++ queued s.sendQueue = es.flatMap Event.reported := by
  have hsend : Step (niceTcpBsdSocketNewFromGsock true)
      ⟨kernelTaking 2, .sendMessages [twoBuffers [1, 2, 3] [4]], .index 1⟩
      ⟨[⟨[3, 0]⟩], true, false, true, false, [1, 2]⟩ := ⟨kernelTaking_fair (by omega), rfl⟩
  exact ⟨_, _, Run.nil.snoc hsend, rfl, rfl, rfl, by decide⟩

end LibNice.Socket