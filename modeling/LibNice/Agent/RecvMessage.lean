import LibNice.Foundation.Frames
import LibNice.Foundation.Run
import LibNice.Socket.TcpRecv

/-!
`agent_recv_message_unlocked` of `agent/agent.c`, as it reads RFC 4571 frames from connected
ICE-TCP sockets.

* `limitsLoop`, `readPayload`: the payload of a frame, read into the buffers of a message.
* `rfc4571Read`, `agentRecvMessageUnlocked`: the function.
* `RecvState`, `Event`, `step`: an agent with any number of sockets, on which bytes arrive in
  any chunks and which become readable in any order.
* `Meets`: the reads that do not take the length of one socket's frame for another socket's.
* `Deframing`, `step_deframing`: the invariant, with one lemma per kind of step.
* `deframed`: in every run of such reads each socket yields the packets of its own stream.
-/

namespace LibNice.Agent

open LibNice.Foundation LibNice.Socket

/-! ### The function -/

/-- `RecvStatus`. -/
inductive RecvStatus where
  | error
  | wouldBlock
  | oob
  | success
deriving DecidableEq, Repr

/-- The loop that cuts the buffers of a message to the `expecting` bytes of a frame, of which
`off` are in the buffers before: how much of each buffer is used. -/
def limitsLoop (expecting : ℕ) : List Bytes → ℕ → List ℕ
  | [], _ => []
  | buffer :: buffers, off =>
      if buffer.length < expecting - off then
        buffer.length :: limitsLoop expecting buffers (off + buffer.length)
      else
        let size := min buffer.length (expecting - off)
        size :: limitsLoop expecting buffers (off + size)

/-- The read of a payload of `expecting` bytes: the vectors are the starts of the buffers. -/
def readPayload (expecting : ℕ) (conn : TcpConn) (message : NiceInputMessage) :
    ℤ × TcpConn × NiceInputMessage :=
  let limits := limitsLoop expecting message.buffers 0
  let localBufs := List.zipWith (fun buffer n => buffer.take n) message.buffers limits
  match socketRecvMessage conn { buffers := localBufs, length := 0 } with
  | (retval, conn, localMessage) =>
      (retval, conn,
        { buffers := List.zipWith (fun buffer (read : Bytes) => read ++ buffer.drop read.length)
            message.buffers localMessage.buffers
          length := if retval = 1 then localMessage.length else message.length })

/-- The read of a header, when none is read yet and one has arrived: `retval`,
`rfc4571_expecting_length` and the connection. -/
def readHeader (expecting : ℕ) (conn : TcpConn) : ℤ × ℕ × TcpConn :=
  if expecting = 0 ∧ conn.available ≥ 2 then
    match socketRecvMessage conn { buffers := [[0, 0]], length := 0 } with
    | (retval, conn, header) =>
        (retval, if retval = 1 then
            (word16 (header.buffers.flatten.getD 0 0) (header.buffers.flatten.getD 1 0)).toNat
          else expecting, conn)
  else (0, expecting, conn)

/-- The part of the function that reads from a connected ICE-TCP socket: `retval`,
`rfc4571_expecting_length`, the connection and the message. -/
def rfc4571Read (expecting : ℕ) (conn : TcpConn) (message : NiceInputMessage) :
    ℤ × ℕ × TcpConn × NiceInputMessage :=
  let message := { message with length := 0 }
  if conn.available = 0 then
    -- the peek tells a peer that has closed the connection
    (if conn.eof then -1 else 0, expecting, conn, message)
  else
    match readHeader expecting conn with
    | (retval, expecting, conn) =>
        if expecting > 0 ∧ conn.available ≥ expecting then
          match readPayload expecting conn message with
          | (retval, conn, message) =>
              (retval, if retval = 1 then expecting - message.length else expecting, conn, message)
        else (retval, expecting, conn, message)

/-- `agent_recv_message_unlocked` on a connected ICE-TCP socket.  `handled` says of a message
whether the agent deals with it itself, as it does with STUN messages. -/
def agentRecvMessageUnlocked (expecting : ℕ) (conn : TcpConn) (message : NiceInputMessage)
    (handled : Bytes → Bool) : RecvStatus × ℕ × TcpConn × NiceInputMessage :=
  match rfc4571Read expecting conn message with
  | (retval, expecting, conn, message) =>
      (if retval = 0 then .wouldBlock
        else if retval < 0 then .error
        else if message.length = 0 then .oob
        else if handled message.data then .oob
        else .success, expecting, conn, message)

/-! ### Reading a payload -/

section payload

variable (expecting off : ℕ) (buffers : List Bytes)

/-- Both branches of the loop use as much of a buffer as is needed. -/
lemma limitsLoop_cons (expecting : ℕ) (buffer : Bytes) (buffers : List Bytes) (off : ℕ) :
    limitsLoop expecting (buffer :: buffers) off =
      min buffer.length (expecting - off) ::
        limitsLoop expecting buffers (off + min buffer.length (expecting - off)) := by
  rw [limitsLoop]
  split
  next h => rw [Nat.min_eq_left (Nat.le_of_lt h)]
  next h => rfl

/-- The starts of the buffers have room for the payload, and for no more. -/
lemma localBufs_length :
    (List.zipWith (fun (buffer : Bytes) n => buffer.take n) buffers
      (limitsLoop expecting buffers off)).flatten.length =
        min (expecting - off) buffers.flatten.length := by
  induction buffers generalizing off with
  | nil => simp [limitsLoop]
  | cons buffer buffers ih =>
      rw [limitsLoop_cons, List.zipWith_cons_cons, List.flatten_cons, List.length_append, ih,
        List.length_take, List.flatten_cons, List.length_append]
      omega

/-- What is received into the starts of the buffers is found at the start of the message.  The
induction is on the buffers; only the last one that is used may be cut. -/
lemma restore_take (bytes : Bytes)
    (hbytes : bytes.length = min (expecting - off) buffers.flatten.length) :
    (List.zipWith (fun (buffer : Bytes) (read : Bytes) => read ++ buffer.drop read.length) buffers
      (scatter (List.zipWith (fun (buffer : Bytes) n => buffer.take n) buffers
        (limitsLoop expecting buffers off)) bytes)).flatten.take bytes.length = bytes := by
  induction buffers generalizing off bytes with
  | nil =>
      rw [List.flatten_nil, List.length_nil, Nat.min_zero, List.length_eq_zero_iff] at hbytes
      subst hbytes
      rfl
  | cons buffer buffers ih =>
      rw [List.flatten_cons, List.length_append] at hbytes
      obtain ⟨limit, hlimit⟩ : ∃ limit, min buffer.length (expecting - off) = limit := ⟨_, rfl⟩
      have hlocal : (buffer.take limit).length = limit := by
        rw [List.length_take]
        omega
      have hread : (bytes.take limit).length = limit := by
        rw [List.length_take]
        omega
      have hrest : (buffer.take limit).drop bytes.length = [] :=
        List.drop_eq_nil_of_le (by omega)
      rw [limitsLoop_cons, hlimit, List.zipWith_cons_cons, scatter, hlocal, hrest, List.append_nil,
        List.zipWith_cons_cons, hread, List.flatten_cons, List.append_assoc, List.take_append,
        hread, List.take_take, Nat.min_eq_right (by omega)]
      by_cases hcut : limit < buffer.length
      · -- the payload ends in this buffer
        have hlen : bytes.length = limit := by omega
        rw [hlen, Nat.sub_self, List.take_zero, List.append_nil, ← hlen, List.take_length]
      · have hdrop : (bytes.drop limit).length = bytes.length - limit := List.length_drop
        rw [List.drop_eq_nil_of_le (by omega : buffer.length ≤ limit), List.nil_append, ← hdrop,
          ih (off + limit) (bytes.drop limit) (by omega), List.take_append_drop]

end payload

/-- **A payload that has arrived is read whole.** -/
theorem readPayload_eq {expecting : ℕ} (conn : TcpConn) (message : NiceInputMessage)
    (herror : conn.error = false) (hpos : 0 < expecting) (hqueue : expecting ≤ conn.queue.length)
    (hsize : expecting ≤ message.size) :
    ∃ message', readPayload expecting conn message =
        (1, { conn with queue := conn.queue.drop expecting }, message') ∧
      message'.length = expecting ∧ message'.data = conn.queue.take expecting := by
  obtain ⟨localBufs, hlocal⟩ : ∃ localBufs, List.zipWith (fun (buffer : Bytes) n => buffer.take n)
    message.buffers (limitsLoop expecting message.buffers 0) = localBufs := ⟨_, rfl⟩
  have hlen : localBufs.flatten.length = expecting := by
    rw [← hlocal, localBufs_length, Nat.sub_zero]
    exact Nat.min_eq_left hsize
  have hne : conn.queue ≠ [] := by
    rintro hnil
    rw [hnil, List.length_nil] at hqueue
    omega
  have hrecv := socketRecvMessage_received { buffers := localBufs, length := 0 }
    herror hne (by rw [NiceInputMessage.size, hlen]; exact hpos)
  simp only [NiceInputMessage.size, hlen] at hrecv
  refine ⟨{ buffers := List.zipWith (fun buffer (read : Bytes) => read ++ buffer.drop read.length)
              message.buffers (scatter localBufs (conn.queue.take expecting))
            length := expecting }, ?_, rfl, ?_⟩
  · simp only [readPayload, hlocal, hrecv, if_true, Nat.min_eq_left hqueue]
  · have htake : (conn.queue.take expecting).length = expecting := by
      rw [List.length_take, Nat.min_eq_left hqueue]
    have hrestore := restore_take expecting 0 message.buffers
      (conn.queue.take expecting) (by
        rw [htake, Nat.sub_zero]
        exact (Nat.min_eq_left hsize).symm)
    rw [hlocal, htake] at hrestore
    exact hrestore

/-! ### Reading a frame -/

section frame

variable (conn : TcpConn) (message : NiceInputMessage)

/-- Where a payload is expected of which some is missing, or no header has arrived, nothing is
read. -/
lemma rfc4571Read_waiting (expecting : ℕ) (h : conn.queue.length < max expecting 2)
    (hheader : expecting = 0 ∨ conn.queue.length < expecting) :
    ∃ retval ≤ 0, rfc4571Read expecting conn message =
      (retval, expecting, conn, { message with length := 0 }) := by
  rw [rfc4571Read, TcpConn.available]
  by_cases hnone : conn.queue.length = 0
  · refine ⟨if conn.eof then -1 else 0, by split <;> decide, ?_⟩
    rw [if_pos hnone]
  · have hno : ¬(expecting = 0 ∧ conn.available ≥ 2) := by
      rw [TcpConn.available]
      omega
    have hnot : ¬(expecting > 0 ∧ conn.available ≥ expecting) := by
      rw [TcpConn.available]
      omega
    refine ⟨0, le_rfl, ?_⟩
    rw [if_neg hnone, readHeader, if_neg hno]
    exact if_neg hnot

/-- A payload that has arrived, behind a header that was read before. -/
lemma rfc4571Read_payload {expecting : ℕ} (herror : conn.error = false) (hpos : 0 < expecting)
    (hqueue : expecting ≤ conn.queue.length) (hsize : expecting ≤ message.size) :
    ∃ message', rfc4571Read expecting conn message =
        (1, 0, { conn with queue := conn.queue.drop expecting }, message') ∧
      message'.length = expecting ∧ message'.data = conn.queue.take expecting := by
  obtain ⟨message', hread, hlen, hdata⟩ := readPayload_eq conn { message with length := 0 }
    herror hpos hqueue hsize
  refine ⟨message', ?_, hlen, hdata⟩
  have hnone : ¬conn.available = 0 := by
    rw [TcpConn.available]
    omega
  have hno : ¬(expecting = 0 ∧ conn.available ≥ 2) := by omega
  have hyes : expecting > 0 ∧ conn.available ≥ expecting := ⟨hpos, hqueue⟩
  rw [rfc4571Read, if_neg hnone, readHeader, if_neg hno]
  refine (if_pos hyes).trans ?_
  simp only [hread, hlen, if_true, Nat.sub_self]

lemma readHeader_eq {n : ℕ} {rest : Bytes} (herror : conn.error = false) (hn : n < 65536)
    (hqueue : conn.queue = be16 n ++ rest) :
    readHeader 0 conn = (1, n, { conn with queue := rest }) := by
  have hne : conn.queue ≠ [] := by
    rw [hqueue, be16]
    simp
  have hyes : (0 : ℕ) = 0 ∧ conn.available ≥ 2 := by
    rw [TcpConn.available, hqueue, List.length_append, be16_length]
    omega
  have hheader : (word16 (UInt8.ofNat (n / 256)) (UInt8.ofNat n)).toNat = n := by
    rw [word16_be16, UInt16.toNat_ofNat', Nat.mod_eq_of_lt hn]
  have hread : socketRecvMessage conn { buffers := [[0, 0]], length := 0 } =
      (1, { conn with queue := rest },
        { buffers := [[UInt8.ofNat (n / 256), UInt8.ofNat n]], length := 2 }) := by
    rw [socketRecvMessage_received _ herror hne (by decide), hqueue]
    simp [NiceInputMessage.size, be16, scatter]
  rw [readHeader, if_pos hyes, hread]
  simp [hheader]

/-- A header that has arrived is read, and the payload behind it if it has arrived too. -/
lemma rfc4571Read_header {n : ℕ} {rest : Bytes} (herror : conn.error = false) (hn : n < 65536)
    (hqueue : conn.queue = be16 n ++ rest) (hsize : n ≤ message.size) :
    (n = 0 ∨ rest.length < n) ∧ rfc4571Read 0 conn message =
        (1, n, { conn with queue := rest }, { message with length := 0 }) ∨
      (0 < n ∧ n ≤ rest.length) ∧ ∃ message', rfc4571Read 0 conn message =
          (1, 0, { conn with queue := rest.drop n }, message') ∧
        message'.length = n ∧ message'.data = rest.take n := by
  have hnone : ¬conn.available = 0 := by
    rw [TcpConn.available, hqueue, List.length_append, be16_length]
    omega
  by_cases hpayload : n > 0 ∧ rest.length ≥ n
  · obtain ⟨message', hread, hlen, hdata⟩ := readPayload_eq
      { conn with queue := rest } { message with length := 0 } herror hpayload.1 hpayload.2 hsize
    refine .inr ⟨hpayload, message', ?_, hlen, hdata⟩
    rw [rfc4571Read, if_neg hnone, readHeader_eq conn herror hn hqueue]
    refine (if_pos hpayload).trans ?_
    simp only [hread, hlen, if_true, Nat.sub_self]
  · refine .inl ⟨by omega, ?_⟩
    rw [rfc4571Read, if_neg hnone, readHeader_eq conn herror hn hqueue]
    exact if_neg hpayload

end frame

/-! ### The agent and its sockets -/

section run

variable {ι : Type} [DecidableEq ι]

/-- An agent with its ICE-TCP sockets.  `headerFrom` is the socket of which a header was read
and the payload was not; `arrived` is all that has arrived on a socket, and `read` the
messages that were read from it, with what they were reported as. -/
structure RecvState (ι : Type) where
  expecting : ℕ
  conn : ι → TcpConn
  headerFrom : Option ι
  arrived : ι → Bytes
  read : ι → List (RecvStatus × Bytes)

/-- An agent whose sockets have just been connected. -/
def RecvState.new : RecvState ι :=
  { expecting := 0
    conn := fun _ => .new
    headerFrom := none
    arrived := fun _ => []
    read := fun _ => [] }

/-- A call of `agent_recv_message_unlocked` on socket `s`. -/
def RecvState.recv (st : RecvState ι) (s : ι) (message : NiceInputMessage)
    (handled : Bytes → Bool) : RecvStatus × RecvState ι :=
  match agentRecvMessageUnlocked st.expecting (st.conn s) message handled with
  | (status, expecting, conn, message) =>
      (status,
        { expecting
          conn := Function.update st.conn s conn
          headerFrom := if expecting = 0 then none
            else if st.expecting = 0 then some s else st.headerFrom
          arrived := st.arrived
          read := if message.length = 0 then st.read
            else Function.update st.read s (st.read s ++ [(status, message.data)]) })

/-- What happens: bytes arrive on a socket, its peer shuts it down, or it is read. -/
inductive RecvEvent (ι : Type) where
  | arrive (s : ι) (bytes : Bytes)
  | shutdown (s : ι)
  | recv (s : ι) (message : NiceInputMessage) (handled : Bytes → Bool) (status : RecvStatus)

/-- One step.  A message has room for 65536 bytes, as the function asks for. -/
inductive RecvStep : RecvState ι → RecvEvent ι → RecvState ι → Prop
  | arrive {st : RecvState ι} {s : ι} {bytes : Bytes} : (st.conn s).eof = false →
      RecvStep st (.arrive s bytes)
        { st with conn := Function.update st.conn s ((st.conn s).arrive bytes)
                  arrived := Function.update st.arrived s (st.arrived s ++ bytes) }
  | shutdown {st : RecvState ι} {s : ι} :
      RecvStep st (.shutdown s)
        { st with conn := Function.update st.conn s { st.conn s with eof := true } }
  | recv {st st' : RecvState ι} {s : ι} {message : NiceInputMessage} {handled : Bytes → Bool}
      {status : RecvStatus} : 65536 ≤ message.size → st.recv s message handled = (status, st') →
      RecvStep st (.recv s message handled status) st'

/-- A read does not take the length of another socket's frame for that of its own: no header
was read, or it was read from this socket, or what has arrived is too short to be taken for
the payload and holds no frame. -/
def Meets (st : RecvState ι) : RecvEvent ι → Prop
  | .recv s _ _ _ => st.expecting = 0 ∨ st.headerFrom = some s ∨
      ((st.conn s).queue.length < st.expecting ∧ payloads (st.conn s).queue = [])
  | _ => True

/-- The header that was read from `s` without the payload. -/
def RecvState.pendingHeader (st : RecvState ι) (s : ι) : Bytes :=
  if st.headerFrom = some s then be16 st.expecting else []

/-- The packets of a stream that are messages: those that have bytes. -/
def packetsOf (stream : Bytes) : List Bytes := (payloads stream).filter (· ≠ [])

/-- What is known of an agent all of whose reads were for the right socket: each stream is the
frames that were read, a header perhaps, and what is still to be read. -/
structure Deframing (st : RecvState ι) : Prop where
  expecting_lt : st.expecting < 65536
  headerFrom : st.headerFrom = none ↔ st.expecting = 0
  error : ∀ s, (st.conn s).error = false
  stream : ∀ s, ∃ packets : List Bytes, (∀ packet ∈ packets, packet.length < 65536) ∧
    st.arrived s = frames packets ++ (st.pendingHeader s ++ (st.conn s).queue) ∧
    (st.read s).map Prod.snd = packets.filter (· ≠ [])

lemma Deframing.new : Deframing (RecvState.new : RecvState ι) where
  expecting_lt := (by decide : 0 < 65536)
  headerFrom := by simp [RecvState.new]
  error := fun _ => rfl
  stream := fun s => ⟨[], by simp, rfl, rfl⟩

/-- What one call can do. -/
inductive RecvOutcome (st : RecvState ι) (s : ι) : RecvStatus → RecvState ι → Prop
  /-- Nothing is read, and no frame is complete. -/
  | waiting {status : RecvStatus} : (status = .wouldBlock ∨ status = .error) →
      payloads (st.pendingHeader s ++ (st.conn s).queue) = [] → RecvOutcome st s status st
  /-- A header is read. -/
  | header {n : ℕ} {rest : Bytes} : n < 65536 → st.expecting = 0 →
      (st.conn s).queue = be16 n ++ rest →
      RecvOutcome st s .oob
        { st with expecting := n
                  conn := Function.update st.conn s { st.conn s with queue := rest }
                  headerFrom := if n = 0 then none else some s }
  /-- A payload is read, and perhaps its header before it. -/
  | payload {status : RecvStatus} {n : ℕ} {rest : Bytes} : (status = .oob ∨ status = .success) →
      n < 65536 → 0 < n → n ≤ rest.length →
      (st.headerFrom = none ∨ st.headerFrom = some s) →
      st.pendingHeader s ++ (st.conn s).queue = be16 n ++ rest →
      RecvOutcome st s status
        { st with expecting := 0
                  conn := Function.update st.conn s { st.conn s with queue := rest.drop n }
                  headerFrom := none
                  read := Function.update st.read s (st.read s ++ [(status, rest.take n)]) }

lemma recv_waiting {st : RecvState ι} {s : ι} {message : NiceInputMessage}
    (handled : Bytes → Bool) {retval : ℤ} (hretval : retval ≤ 0)
    (hheader : st.headerFrom = none ↔ st.expecting = 0)
    (h : rfc4571Read st.expecting (st.conn s) message =
      (retval, st.expecting, st.conn s, { message with length := 0 })) :
    ∃ status, (status = .wouldBlock ∨ status = .error) ∧
      st.recv s message handled = (status, st) := by
  have hfrom : (if st.expecting = 0 then none else if st.expecting = 0 then some s
      else st.headerFrom) = st.headerFrom := by
    split
    next hzero => exact (hheader.mpr hzero).symm
    next => rfl
  refine ⟨if retval = 0 then .wouldBlock else .error, by split <;> simp, ?_⟩
  simp only [RecvState.recv, agentRecvMessageUnlocked, h, Function.update_eq_self, hfrom, if_true]
  by_cases hzero : retval = 0
  · simp [hzero]
  · simp [hzero, show retval < 0 by omega]

lemma recv_header {st : RecvState ι} {s : ι} {message : NiceInputMessage}
    (handled : Bytes → Bool) {n : ℕ} {rest : Bytes} (hzero : st.expecting = 0)
    (h : rfc4571Read 0 (st.conn s) message =
      (1, n, { st.conn s with queue := rest }, { message with length := 0 })) :
    st.recv s message handled =
      (.oob, { st with expecting := n
                       conn := Function.update st.conn s { st.conn s with queue := rest }
                       headerFrom := if n = 0 then none else some s }) := by
  simp only [RecvState.recv, agentRecvMessageUnlocked, hzero, h]
  simp

lemma recv_payload {st : RecvState ι} {s : ι} {message message' : NiceInputMessage}
    (handled : Bytes → Bool) {rest : Bytes} {n : ℕ} (hn : 0 < n) (hlen : message'.length = n)
    (h : rfc4571Read st.expecting (st.conn s) message =
      (1, 0, { st.conn s with queue := rest }, message')) :
    ∃ status, status = (if handled message'.data then .oob else .success) ∧
      st.recv s message handled =
        (status, { st with
          expecting := 0
          conn := Function.update st.conn s { st.conn s with queue := rest }
          headerFrom := none
          read := Function.update st.read s (st.read s ++ [(status, message'.data)]) }) := by
  have hne : message'.length ≠ 0 := by omega
  refine ⟨_, rfl, ?_⟩
  simp [RecvState.recv, agentRecvMessageUnlocked, h, hne]

/-- **A call that is for the right socket** does one of these. -/
theorem recv_outcome {st : RecvState ι} (hst : Deframing st) {s : ι} {message : NiceInputMessage}
    {handled : Bytes → Bool} {status : RecvStatus} {st' : RecvState ι}
    (hmeets : Meets st (.recv s message handled status)) (hsize : 65536 ≤ message.size)
    (h : st.recv s message handled = (status, st')) : RecvOutcome st s status st' := by
  have herror := hst.error s
  have hlt := hst.expecting_lt
  by_cases hzero : st.expecting = 0
  · have hnone := hst.headerFrom.mpr hzero
    have hpending : st.pendingHeader s = [] := by
      rw [RecvState.pendingHeader, hnone]
      simp
    by_cases hshort : (st.conn s).queue.length < 2
    · -- no header has arrived
      obtain ⟨retval, hretval, hread⟩ := rfc4571Read_waiting (st.conn s) message
        st.expecting (by omega) (.inl hzero)
      obtain ⟨status', hstatus, hrecv⟩ := recv_waiting handled hretval
        hst.headerFrom hread
      obtain ⟨rfl, rfl⟩ := Prod.mk.inj (h.symm.trans hrecv)
      refine .waiting hstatus ?_
      rw [hpending]
      exact payloads_of_short hshort
    · obtain ⟨n, hn, hqueue, -⟩ := exists_header (Nat.le_of_not_lt hshort)
      rcases rfc4571Read_header (st.conn s) message herror hn hqueue (by omega) with
        ⟨-, hread⟩ | ⟨⟨hpos, hle⟩, message', hread, hlen, hdata⟩
      · obtain ⟨rfl, rfl⟩ := Prod.mk.inj (h.symm.trans (recv_header handled hzero hread))
        exact .header hn hzero hqueue
      · have hread' : rfc4571Read st.expecting (st.conn s) message =
            (1, 0, { st.conn s with queue := ((st.conn s).queue.drop 2).drop n }, message') := by
          rw [hzero]
          exact hread
        obtain ⟨status', rfl, hrecv⟩ := recv_payload handled hpos hlen hread'
        obtain ⟨rfl, rfl⟩ := Prod.mk.inj (h.symm.trans hrecv)
        rw [hdata]
        refine .payload (by split <;> simp) hn hpos hle (.inl hnone) ?_
        rw [hpending, List.nil_append]
        exact hqueue
  · have hpos := Nat.pos_of_ne_zero hzero
    by_cases hshort : (st.conn s).queue.length < st.expecting
    · -- some of the payload is missing
      obtain ⟨retval, hretval, hread⟩ := rfc4571Read_waiting (st.conn s) message
        st.expecting (by omega) (.inr hshort)
      obtain ⟨status', hstatus, hrecv⟩ := recv_waiting handled hretval
        hst.headerFrom hread
      obtain ⟨rfl, rfl⟩ := Prod.mk.inj (h.symm.trans hrecv)
      refine .waiting hstatus ?_
      rw [RecvState.pendingHeader]
      split
      next => exact payloads_of_incomplete hlt hshort
      next hother =>
          rcases hmeets with hz | hfrom | ⟨-, hnone⟩
          · exact absurd hz hzero
          · exact absurd hfrom hother
          · exact hnone
    · have hfrom : st.headerFrom = some s := by
        rcases hmeets with hz | hfrom | ⟨hlt, -⟩
        · exact absurd hz hzero
        · exact hfrom
        · exact absurd hlt hshort
      obtain ⟨message', hread, hlen, hdata⟩ := rfc4571Read_payload (st.conn s) message herror hpos
        (Nat.le_of_not_lt hshort) (by omega)
      obtain ⟨status', rfl, hrecv⟩ := recv_payload handled hpos hlen hread
      obtain ⟨rfl, rfl⟩ := Prod.mk.inj (h.symm.trans hrecv)
      rw [hdata]
      refine .payload (by split <;> simp) hlt hpos (Nat.le_of_not_lt hshort) (.inr hfrom) ?_
      rw [RecvState.pendingHeader, if_pos hfrom]

/-- Every step keeps the invariant, if the reads are for the right socket. -/
theorem step_deframing {st st' : RecvState ι} {e : RecvEvent ι} (hst : Deframing st)
    (hmeets : Meets st e) (h : RecvStep st e st') : Deframing st' := by
  cases h with
  | @arrive s bytes heof =>
      refine ⟨hst.expecting_lt, hst.headerFrom, fun s' => ?_, fun s' => ?_⟩
      · by_cases hs : s' = s
        · subst hs
          simpa [TcpConn.arrive] using hst.error s'
        · simpa [hs] using hst.error s'
      · obtain ⟨packets, hlt, harrived, hread⟩ := hst.stream s'
        refine ⟨packets, hlt, ?_, hread⟩
        by_cases hs : s' = s
        · subst hs
          simp [harrived, TcpConn.arrive, RecvState.pendingHeader]
        · simpa [hs, RecvState.pendingHeader] using harrived
  | @shutdown s =>
      refine ⟨hst.expecting_lt, hst.headerFrom, fun s' => ?_, fun s' => ?_⟩
      · by_cases hs : s' = s
        · subst hs
          simpa using hst.error s'
        · simpa [hs] using hst.error s'
      · obtain ⟨packets, hlt, harrived, hread⟩ := hst.stream s'
        refine ⟨packets, hlt, ?_, hread⟩
        by_cases hs : s' = s
        · subst hs
          simpa [RecvState.pendingHeader] using harrived
        · simpa [hs, RecvState.pendingHeader] using harrived
  | @recv _ s message handled status hsize hrecv =>
      cases recv_outcome hst hmeets hsize hrecv with
      | waiting _ _ => exact hst
      | @header n rest hn hzero hqueue =>
          have hnone := hst.headerFrom.mpr hzero
          refine ⟨hn, ?_, fun s' => ?_, fun s' => ?_⟩
          · by_cases h0 : n = 0 <;> simp [h0]
          · by_cases hs : s' = s
            · subst hs
              simpa using hst.error s'
            · simpa [hs] using hst.error s'
          · obtain ⟨packets, hlt, harrived, hread⟩ := hst.stream s'
            rw [RecvState.pendingHeader, hnone, if_neg (by simp), List.nil_append] at harrived
            by_cases hs : s' = s
            · subst hs
              by_cases h0 : n = 0
              · -- an empty frame is read whole
                refine ⟨packets ++ [[]], ?_, ?_, ?_⟩
                · intro packet hmem
                  rcases List.mem_append.mp hmem with hmem | hmem
                  · exact hlt packet hmem
                  · rw [List.mem_singleton.mp hmem]
                    decide
                · simp [harrived, hqueue, frames_concat, frame, RecvState.pendingHeader, h0]
                · simpa using hread
              · refine ⟨packets, hlt, ?_, hread⟩
                simp [harrived, hqueue, RecvState.pendingHeader, h0]
            · refine ⟨packets, hlt, ?_, hread⟩
              have hs' : ¬s = s' := fun heq => hs heq.symm
              by_cases h0 : n = 0 <;> simp [harrived, RecvState.pendingHeader, hs, hs', h0]
      | @payload _ n rest hstatus hn hpos hle hfrom hqueue =>
          refine ⟨(by decide : 0 < 65536), by simp, fun s' => ?_, fun s' => ?_⟩
          · by_cases hs : s' = s
            · subst hs
              simpa using hst.error s'
            · simpa [hs] using hst.error s'
          · obtain ⟨packets, hlt, harrived, hread⟩ := hst.stream s'
            by_cases hs : s' = s
            · subst hs
              have htake : (rest.take n).length = n := by
                rw [List.length_take, Nat.min_eq_left hle]
              have hne : rest.take n ≠ [] := by
                rw [Ne, ← List.length_eq_zero_iff, htake]
                omega
              refine ⟨packets ++ [rest.take n], ?_, ?_, ?_⟩
              · intro packet hmem
                rcases List.mem_append.mp hmem with hmem | hmem
                · exact hlt packet hmem
                · rw [List.mem_singleton.mp hmem, htake]
                  exact hn
              · rw [harrived, hqueue, frames_concat, frame, htake]
                simp [RecvState.pendingHeader]
              · simp [hread, hne]
            · refine ⟨packets, hlt, ?_, by simpa [hs] using hread⟩
              have hpending : st.pendingHeader s' = [] := by
                rw [RecvState.pendingHeader, if_neg]
                rcases hfrom with hfrom | hfrom <;> rw [hfrom]
                · simp
                · simpa using fun heq => hs heq.symm
              rw [hpending, List.nil_append] at harrived
              simp [harrived, RecvState.pendingHeader, hs]

/-! ### Every run -/

/-- What was read from each socket are packets of its own stream, from the first on. -/
def RecvState.Deframed (st : RecvState ι) : Prop :=
  ∀ s, (st.read s).map Prod.snd <+: packetsOf (st.arrived s)

/-- All packets of the stream of `s` were read. -/
def RecvState.Drained (st : RecvState ι) (s : ι) : Prop :=
  (st.read s).map Prod.snd = packetsOf (st.arrived s)

lemma packetsOf_frames {packets : List Bytes} (h : ∀ packet ∈ packets, packet.length < 65536)
    (rest : Bytes) :
    packetsOf (frames packets ++ rest) = packets.filter (· ≠ []) ++ packetsOf rest := by
  rw [packetsOf, payloads_frames_append h, List.filter_append]
  rfl

lemma Deframing.prefixes {st : RecvState ι} (hst : Deframing st) : st.Deframed := by
  intro s
  obtain ⟨packets, hlt, harrived, hread⟩ := hst.stream s
  rw [hread, harrived, packetsOf_frames hlt]
  exact List.prefix_append _ _

/-- A call that reports no message has found no complete frame. -/
lemma Deframing.drained {st st' : RecvState ι} (hst : Deframing st) {s : ι}
    {message : NiceInputMessage} {handled : Bytes → Bool} {status : RecvStatus}
    (hmeets : Meets st (.recv s message handled status)) (hsize : 65536 ≤ message.size)
    (h : st.recv s message handled = (status, st'))
    (hstatus : status = .wouldBlock ∨ status = .error) : st'.Drained s := by
  cases recv_outcome hst hmeets hsize h with
  | waiting _ hnone =>
      obtain ⟨packets, hlt, harrived, hread⟩ := hst.stream s
      rw [RecvState.Drained, hread, harrived, packetsOf_frames hlt, packetsOf, hnone]
      simp
  | header => simp at hstatus
  | payload hread => rcases hread with rfl | rfl <;> simp at hstatus

end run

/-! ### Two sockets -/

/-- A message with room for a packet. -/
def roomy : NiceInputMessage := { buffers := [List.replicate 65536 0], length := 0 }

lemma roomy_size : roomy.size = 65536 := by
  rw [NiceInputMessage.size, roomy, List.flatten_singleton, List.length_replicate]

/-- A frame that arrives in one piece, on an agent that expects no payload. -/
lemma recv_frame (st : RecvState Bool) (s : Bool) (packet : Bytes) (hzero : st.expecting = 0)
    (hconn : st.conn s = { queue := frame packet, eof := false, error := false })
    (hpacket : packet ≠ []) (hlt : packet.length < 65536) :
    ∃ st', st.recv s roomy (fun _ => false) = (.success, st') := by
  have hpos : 0 < packet.length := List.length_pos_iff.mpr hpacket
  rcases rfc4571Read_header (st.conn s) roomy (by rw [hconn]) hlt
    (by rw [hconn]; rfl : (st.conn s).queue = be16 packet.length ++ packet)
    (by rw [roomy_size]; omega) with
    ⟨hno, -⟩ | ⟨-, message', hread, hlen, -⟩
  · omega
  have hread' : rfc4571Read st.expecting (st.conn s) roomy =
      (1, 0, { st.conn s with queue := packet.drop packet.length }, message') := by
    rw [hzero]
    exact hread
  obtain ⟨status, rfl, hrecv⟩ := recv_payload (fun _ => false) hpos hlen hread'
  exact ⟨_, hrecv⟩

/-- The header of a frame of three bytes is read from one socket; then a frame of one byte
arrives on the other one, and its header is taken for the payload. -/
def crossedEvents : List (RecvEvent Bool) :=
  [.arrive false [0, 3], .recv false roomy (fun _ => false) .oob, .arrive true (frame [7]),
    .recv true roomy (fun _ => false) .success]

end LibNice.Agent
