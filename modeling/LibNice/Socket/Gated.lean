import LibNice.Socket.ByteStream

/-!
The sockets over a proxy: what is sent before the proxy has let the connection through waits in a
queue.

* `niceSocketQueueSend`, `niceSocketFlushSendQueue`: the queue of `socket/socket.c`.
* `Gated`: what such a socket keeps to, between what it was given and what the base socket was
  given; `Gated.greet`, `Gated.hold`, `Gated.flush`, `Gated.pass`: **what it may do.**
* `runCalls`: a run; `runCalls_induction`: **what every call keeps holds after every run.**
-/

namespace LibNice.Socket

open LibNice.Foundation

/-! ### The queue -/

/-- The loop that copies the buffers of a message to a block with room for `remaining` bytes. -/
def compactLoop : List Bytes → ℕ → Bytes
  | [], _ => []
  | buffer :: buffers, remaining =>
      let len := min buffer.length remaining
      buffer.take len ++ compactLoop buffers (remaining - len)

/-- The loop of `nice_socket_queue_send`, without the destinations. -/
def niceSocketQueueSend (sendQueue : List NiceSocketQueuedSend) :
    List NiceOutputMessage → List NiceSocketQueuedSend
  | [] => sendQueue
  | message :: messages =>
      if outputMessageGetSize message = 0 then niceSocketQueueSend sendQueue messages
      else niceSocketQueueSend
        (sendQueue ++ [⟨compactLoop message.visited (outputMessageGetSize message)⟩]) messages

/-- `nice_socket_flush_send_queue`: what the base socket is given, a message an entry. -/
def niceSocketFlushSendQueue (sendQueue : List NiceSocketQueuedSend) : List Bytes :=
  sendQueue.map (·.buf)

lemma compactLoop_eq (buffers : List Bytes) :
    compactLoop buffers buffers.flatten.length = buffers.flatten := by
  induction buffers with
  | nil => rfl
  | cons buffer buffers ih =>
      rw [compactLoop, List.flatten_cons, List.length_append, Nat.min_eq_left (by omega),
        List.take_length, Nat.add_sub_cancel_left, ih]

/-- The messages that are not empty are queued, each in one block. -/
lemma niceSocketQueueSend_eq (sendQueue : List NiceSocketQueuedSend)
    (messages : List NiceOutputMessage) :
    (niceSocketQueueSend sendQueue messages).map (·.buf) =
      sendQueue.map (·.buf) ++ (messages.map (·.data)).filter (· ≠ []) := by
  induction messages generalizing sendQueue with
  | nil => simp [niceSocketQueueSend]
  | cons message messages ih =>
      have hsize : outputMessageGetSize message = message.data.length :=
        outputMessageGetSize_eq message
      rw [niceSocketQueueSend, hsize]
      by_cases hempty : message.data = []
      · rw [if_pos (List.length_eq_zero_iff.mpr hempty), ih]
        simp [hempty]
      · have hblock : compactLoop message.visited message.data.length = message.data :=
          compactLoop_eq message.visited
        rw [if_neg fun h => hempty (List.length_eq_zero_iff.mp h), ih, hblock]
        simp [hempty]

/-! ### The gate -/

/-- A socket that was given the messages of `given`, and the base socket those of `sent`: these are
the messages of `opening`, which belong to the handshake, and those of `delivered`.  The other ones
wait in the queue; none has gone out before the gate is open, and none waits after it. -/
structure Gated (opening : List Bytes) (isOpen : Prop) (sendQueue : List NiceSocketQueuedSend)
    (given delivered sent : List Bytes) : Prop where
  sent_eq : sent = opening ++ delivered
  order : delivered ++ sendQueue.map (·.buf) = given
  quiet : ¬ isOpen → delivered = []
  clear : isOpen → sendQueue = []

namespace Gated

variable {opening : List Bytes} {isOpen isOpen' : Prop} {sendQueue : List NiceSocketQueuedSend}
  {given delivered sent : List Bytes}

/-- A gate that is closed stays so. -/
lemma stay (h : Gated opening isOpen sendQueue given delivered sent) (hclosed : ¬ isOpen)
    (hstay : ¬ isOpen') : Gated opening isOpen' sendQueue given delivered sent where
  sent_eq := h.sent_eq
  order := h.order
  quiet _ := h.quiet hclosed
  clear hopen := absurd hopen hstay

/-- The handshake goes on. -/
lemma greet (h : Gated opening isOpen sendQueue given delivered sent) (hclosed : ¬ isOpen)
    (hstay : ¬ isOpen') (message : Bytes) :
    Gated (opening ++ [message]) isOpen' sendQueue given delivered (sent ++ [message]) where
  sent_eq := by
    rw [h.sent_eq, h.quiet hclosed]
    simp
  order := h.order
  quiet _ := h.quiet hclosed
  clear hopen := absurd hopen hstay

/-- Messages wait in front of a closed gate; those that are empty are dropped. -/
lemma hold (h : Gated opening isOpen sendQueue given delivered sent) (hclosed : ¬ isOpen)
    (messages : List NiceOutputMessage) :
    Gated opening isOpen (niceSocketQueueSend sendQueue messages)
      (given ++ (messages.map (·.data)).filter (· ≠ [])) delivered sent where
  sent_eq := h.sent_eq
  order := by rw [niceSocketQueueSend_eq, ← List.append_assoc, h.order]
  quiet := h.quiet
  clear hopen := absurd hopen hclosed

/-- **The gate opens**, and the queue goes out. -/
lemma flush (h : Gated opening isOpen sendQueue given delivered sent) (hclosed : ¬ isOpen)
    (hopen : isOpen') :
    Gated opening isOpen' [] given (niceSocketFlushSendQueue sendQueue)
      (sent ++ niceSocketFlushSendQueue sendQueue) where
  sent_eq := by rw [h.sent_eq, h.quiet hclosed, List.append_nil]
  order := by
    rw [← h.order, h.quiet hclosed]
    simp [niceSocketFlushSendQueue]
  quiet hno := absurd hopen hno
  clear _ := rfl

/-- Messages pass an open gate. -/
lemma pass (h : Gated opening isOpen sendQueue given delivered sent) (hopen : isOpen)
    (messages : List Bytes) :
    Gated opening isOpen sendQueue (given ++ messages) (delivered ++ messages)
      (sent ++ messages) where
  sent_eq := by rw [h.sent_eq, List.append_assoc]
  order := by
    rw [← h.order, h.clear hopen]
    simp
  quiet hno := absurd hopen hno
  clear := h.clear

end Gated

/-! ### Runs -/

section Runs

variable {σ ε : Type*} {next : σ → ε → σ} {taken : σ → ε → List Bytes}

/-- The socket after some calls, and the messages that it has taken. -/
def runCalls (next : σ → ε → σ) (taken : σ → ε → List Bytes) (start : σ) (events : List ε) :
    σ × List Bytes :=
  events.foldl (fun r event => (next r.1 event, r.2 ++ taken r.1 event)) (start, [])

lemma runCalls_append (start : σ) (events : List ε) (event : ε) :
    runCalls next taken start (events ++ [event]) =
      (next (runCalls next taken start events).1 event, (runCalls next taken start events).2 ++
        taken (runCalls next taken start events).1 event) := by
  rw [runCalls, List.foldl_append]
  rfl

/-- **What every call keeps holds after every run.** -/
theorem runCalls_induction {P : List ε → List Bytes → σ → Prop} {start : σ}
    (hstart : P [] [] start)
    (hnext : ∀ events given s event, P events given s →
      P (events ++ [event]) (given ++ taken s event) (next s event)) (events : List ε) :
    P events (runCalls next taken start events).2 (runCalls next taken start events).1 := by
  induction events using List.reverseRecOn with
  | nil => exact hstart
  | append_singleton events event ih =>
      rw [runCalls_append]
      exact hnext events _ _ event ih

end Runs

end LibNice.Socket
