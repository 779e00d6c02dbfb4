import LibNice.PseudoTcp.SentStream

/-!
What the calls of a socket do to the stream that it sends.

* `Writes`: once it has left LISTEN, a socket sends its control data and then what it has accepted
  from its user.
* `queue_sends`, `acked_sends`: the queue and the acknowledgements.
* `ClosingFrom.writes`, `Writes.fin`, `Writes.acked`, `CallStep.writes`: the steps of a call.
* `process_pending`: an acknowledged FIN takes a socket out of LAST-ACK.
* `call_writes`: **every call sends pieces of one stream**, which goes on with what the call
  accepts.
-/

namespace LibNice.PseudoTcp

open LibNice.Foundation

/-- The bytes that a call accepts from the user. -/
def Op.accepted (op : Op) (ret : Ret) : Bytes :=
  match op with
  | .send data => data.take ret.value.toNat
  | _ => []

namespace PseudoTcpSocket

variable {env : Env} {op : Op} {s s' t : PseudoTcpSocket} {isOpen : Prop} {u f n : ℕ}
  {stream data accepted : Bytes} {scale : UInt8}

/-! ### The queue -/

lemma pushSegment_sbuf (o : Outgoing) (len : ℕ) (flags : TcpFlags) :
    (pushSegment o len flags).sbuf = o.sbuf := by
  unfold pushSegment pushSegment.newSegment
  split
  · split <;> rfl
  · rfl

/-- Where the stream of a socket ends, FINs that are acknowledged included. -/
def sndEnd (s : PseudoTcpSocket) : UInt32 := s.sndUna + UInt32.ofNat s.sbuf.dataLength

/-- While the socket is open for sending, its stream ends where its data end. -/
lemma Sending.sndEnd_eq (h : Sending isOpen stream s) (hi : isOpen) :
    s.sndEnd = UInt32.ofNat stream.length := by
  obtain ⟨-, u, f, hs⟩ := h
  have hf : f = 0 := by
    by_contra hf
    exact (hs.acked hf).2 hi
  rw [sndEnd, show s.sndUna = _ from hs.una, ← ofNat_add, hf, Nat.add_zero, hs.dataLength]

/-- **The queue goes on with the stream**, as far as there is room. -/
lemma queue_sends {flags : TcpFlags} (h : Sending isOpen stream s) (hopen : data ≠ [] → isOpen)
    (hctl : data ≠ [] → flags.has FLAG_CTL = true → stream.length + data.length ≤ 7)
    (hplain : data ≠ [] → flags.has FLAG_CTL = false → 7 ≤ stream.length)
    (hfin : flags.has FLAG_FIN = true →
      data = [] ∧ s.sndEnd = UInt32.ofNat stream.length ∧ ¬ isOpen)
    (hq : s.queue data flags = .ok (t, n)) :
    Sending isOpen (stream ++ data.take n) t ∧ n = min data.length s.sbuf.getWriteRemaining := by
  have hqueued := queue_queued h.1 hopen (fun hf => ⟨(hfin hf).1, (hfin hf).2.2⟩) hq
  obtain ⟨⟨sent, unsent, fins, hqueue⟩, u, f, hs⟩ := h
  have hroom : data.length ≤ s.sbuf.getWriteRemaining ∨ flags = FLAG_NONE := by
    by_contra hno
    rw [not_or, not_le] at hno
    rw [queue, if_pos ⟨hno.1, hno.2⟩] at hq
    cases hq
  rw [queue_eq hroom] at hq
  dsimp only at hq
  rw [pushSegment_sbuf] at hq
  obtain ⟨rfl, rfl⟩ := Prod.mk.inj (Except.ok.inj hq)
  set fits := data.take s.sbuf.getWriteRemaining with hfits
  obtain ⟨hcontents, hcount⟩ := PseudoTcpFifo.write_contents hqueue.wf fits
  have hlength : fits.length = min data.length s.sbuf.getWriteRemaining := by
    rw [hfits, List.length_take, Nat.min_comm]
  have hall : min fits.length (s.sbuf.bufferLength - s.sbuf.dataLength) = fits.length := by
    rw [hlength, PseudoTcpFifo.getWriteRemaining]
    omega
  have htake : fits.take (s.sbuf.bufferLength - s.sbuf.dataLength) = fits := by
    rw [hfits, List.take_take, PseudoTcpFifo.getWriteRemaining, Nat.min_self]
  have hsome (hne : fits ≠ []) : data ≠ [] := by
    rintro rfl
    exact hne (by rw [hfits, List.take_nil])
  have hle : fits.length ≤ data.length := by
    rw [hlength]
    exact Nat.min_le_left _ _
  rw [htake] at hcontents
  rw [hcount, hall]
  have hstream : data.take fits.length = fits := by
    rw [hlength, hfits]
    rcases Nat.le_total data.length s.sbuf.getWriteRemaining with hd | hd
    · rw [Nat.min_eq_left hd, List.take_length, List.take_of_length_le hd]
    · rw [Nat.min_eq_right hd]
  rw [hstream]
  refine ⟨⟨hqueued, u, f, ?_⟩, hlength⟩
  exact hs.push hqueue (fun hne => hopen (hsome hne))
    (fun hne hc => by have := hctl (hsome hne) hc; omega) (fun hne hc => hplain (hsome hne) hc)
    (fun hf => ⟨by rw [hfits, (hfin hf).1, List.take_nil], (hfin hf).2.1⟩) hcontents

/-- What queueing leaves alone of the place where the stream ends. -/
lemma queue_sndEnd {flags : TcpFlags} (hq : s.queue [] flags = .ok (t, n)) :
    t.sndEnd = s.sndEnd := by
  unfold queue at hq
  dsimp only at hq
  split at hq
  · cases hq
  · obtain ⟨rfl, -⟩ := Prod.mk.inj (Except.ok.inj hq)
    have huna : (pushSegment s.toOutgoing 0 flags).sndUna = s.sndUna := by
      unfold pushSegment pushSegment.newSegment
      split
      · split <;> rfl
      · rfl
    simp [sndEnd, pushSegment_sbuf, PseudoTcpFifo.write, PseudoTcpFifo.writeOffset_count, huna]

/-- A FIN behind the stream. -/
lemma queueFinMessage_sends (h : Sending isOpen stream s) (hopen : ¬ isOpen)
    (hend : s.sndEnd = UInt32.ofNat stream.length) (hq : s.queueFinMessage = .ok t) :
    Sending isOpen stream t ∧ t.sndEnd = s.sndEnd := by
  obtain ⟨-, n, hq⟩ := queueFinMessage_eq hq
  have hsends := (queue_sends h (by simp) (by simp) (by simp) (fun _ => ⟨rfl, hend, hopen⟩) hq).1
  rw [List.take_nil, List.append_nil] at hsends
  exact ⟨hsends, queue_sndEnd hq⟩

/-- An RST. -/
lemma queueRstMessage_sends (h : Sending isOpen stream s) (hq : s.queueRstMessage = .ok t) :
    Sending isOpen stream t := by
  obtain ⟨-, n, hq⟩ := queueRstMessage_eq hq
  have hfin : TcpFlags.has FLAG_RST FLAG_FIN = false := by decide
  have hsends := (queue_sends h (by simp) (by simp) (by simp)
    (fun hf => by rw [hfin] at hf; cases hf) hq).1
  rwa [List.take_nil, List.append_nil] at hsends

/-- The control data in front of the stream. -/
lemma queueConnectMessage_sends (h : Sending isOpen [] s) (hopen : isOpen)
    (hscale : s.supportWndScale = true) (hfinAck : s.supportFinAck = true)
    (hq : s.queueConnectMessage = .ok t) :
    Sending isOpen (streamOf s.rwndScale []) t := by
  have hmessage : s.connectMessage = connectBytes s.rwndScale := by
    simp [connectMessage, connectBytes, hscale, hfinAck]
  have hctl : TcpFlags.has FLAG_CTL FLAG_CTL = true := by decide
  have hfin : TcpFlags.has FLAG_CTL FLAG_FIN = false := by decide
  unfold queueConnectMessage at hq
  obtain ⟨⟨v, n⟩, hqueue, hret⟩ := bind_eq_ok.mp hq
  obtain rfl := Except.ok.inj hret
  have hfits : s.connectMessage.length ≤ s.sbuf.getWriteRemaining := by
    by_contra hno
    rw [queue, if_pos ⟨by simpa using hno, by decide⟩] at hqueue
    cases hqueue
  have hstart : Sending isOpen [] { s with sndWnd := UInt32.ofNat s.connectMessage.length } :=
    h.of_eq rfl rfl
  obtain ⟨hsends, hn⟩ := queue_sends hstart (fun _ => hopen)
    (fun _ _ => by rw [hmessage]; rfl) (fun _ hc => by rw [hctl] at hc; cases hc)
    (fun hf => by rw [hfin] at hf; cases hf) hqueue
  rw [hn, show min s.connectMessage.length _ = _ from Nat.min_eq_left hfits, List.take_length,
    hmessage] at hsends
  rw [streamOf, List.append_nil]
  exact hsends

/-! ### Acknowledgements -/

/-- A valuable acknowledgement is for bytes that were sent. -/
lemma ackedBytes_le {sent unsent : List SSegment} {fins : ℕ} {seg : Segment}
    (hq : Queued s.toOutgoing isOpen sent unsent fins) (hlarger : larger seg.ack s.sndUna = true)
    (hsmaller : smallerOrEqual seg.ack s.sndNxt = true)
    (hle : s.ackedBytes seg ≤ s.sbuf.dataLength) : s.ackedBytes seg ≤ lens sent := by
  have htotal := hq.total
  rw [lens_append] at htotal
  by_cases hfins : fins = 0
  · have hdata := hq.wf.data
    have hsize := hq.size
    have h1 := larger_iff.mp hlarger
    have h2 := smallerOrEqual_iff.mp hsmaller
    have h3 := toNat_sub_of_ahead h1.le
    have h4 := toNat_sub_of_ahead_neg h2.1 (by omega)
    have h5 : (s.sndNxt - s.sndUna).toNat = (lens sent + fins) % 4294967296 := by
      rw [hq.nxt, UInt32.add_comm, UInt32.add_sub_cancel, toNat_ofNat]
    have h6 := s.sndNxt.toNat_lt
    have h7 := s.sndUna.toNat_lt
    have h8 := seg.ack.toNat_lt
    have h9 := ahead_lt seg.ack s.sndUna
    have hbytes : s.ackedBytes seg ≤ (seg.ack - s.sndUna).toNat := by
      unfold ackedBytes
      split <;> omega
    simp only [toNat_sub] at h3 h4 h5 hbytes
    omega
  · have := hq.fins_last (Nat.pos_of_ne_zero hfins)
    omega

/-- **Acknowledged bytes leave the queue**, and a FIN behind all of them, once. -/
lemma acked_sends {seg : Segment} {sbuf : PseudoTcpFifo} {slist : List SSegment}
    {largest largest' : ℕ} (h : Sending (s.state.hasSentFin = false) stream s)
    (hlong : stream.length + 2 < 4294967296) (hack : seg.ack.toNat ≤ stream.length + 1)
    (hlarger : larger seg.ack s.sndUna = true) (hsmaller : smallerOrEqual seg.ack s.sndNxt = true)
    (hbuf : s.sbuf.consumeReadData (s.ackedBytes seg) = .ok sbuf)
    (hfree : freeAcked (s.ackedBytes seg) s.slist largest = .ok (slist, largest')) :
    Sending (s.state.hasSentFin = false) stream { s with sndUna := seg.ack, sbuf, slist } := by
  have hqueued := acked_queued h.1 hlarger hsmaller hbuf hfree
  obtain ⟨⟨sent, unsent, fins, hq⟩, u, f, hs⟩ := h
  have hle := (PseudoTcpFifo.consumeReadData_eq_ok.mp hbuf).1
  have hfreed := hs.free hq (ackedBytes_le hq hlarger hsmaller hle) hbuf hfree
  have hdl := hs.dataLength
  have hsum := ofNat_toNat_sub seg.ack s.sndUna
  rw [show s.sndUna = _ from hs.una, ← ofNat_add] at hsum
  refine ⟨hqueued, ?_⟩
  by_cases hfin : s.isFinAck seg
  · obtain ⟨hcount, hsent⟩ := hfin
    have hbytes : s.ackedBytes seg = s.sbuf.dataLength := by
      rw [ackedBytes, if_pos ⟨hcount, hsent⟩]
      omega
    have hfirst : f = 0 := by
      by_contra hf
      have hu := (hs.acked hf).1
      have honce := hs.once
      rw [← show s.sndUna = _ from hs.una, hcount] at hsum
      rw [← hsum, toNat_ofNat_of_lt (by omega)] at hack
      omega
    refine ⟨u + s.ackedBytes seg, f + 1,
      { hfreed with una := ?_, acked := fun _ => ⟨?_, ?_⟩, once := by omega }⟩
    · dsimp only
      rw [← hsum, ← show s.sndUna = _ from hs.una, hcount, hbytes]
      congr 1
      omega
    · omega
    · rw [hsent]
      decide
  · have hbytes : s.ackedBytes seg = (seg.ack - s.sndUna).toNat := by
      rw [ackedBytes, if_neg hfin]
    refine ⟨u + s.ackedBytes seg, f, { hfreed with una := ?_ }⟩
    dsimp only
    rw [← hsum, ← show s.sndUna = _ from hs.una, hbytes]
    congr 1
    omega

/-- Nothing that was sent of an empty stream can be acknowledged. -/
lemma Sending.not_acked {seg : Segment} (h : Sending isOpen stream s) (hnil : stream = [])
    (hi : isOpen) (hlarger : larger seg.ack s.sndUna = true)
    (hsmaller : smallerOrEqual seg.ack s.sndNxt = true) : False := by
  obtain ⟨⟨sent, unsent, fins, hq⟩, u, f, hs⟩ := h
  have hdl := hs.dataLength
  have htotal := hq.total
  have hnxt := hq.nxt
  rw [hnil, List.length_nil] at hdl
  rw [lens_append] at htotal
  rw [hq.open_fins hi, show lens sent + 0 = 0 by omega, add_ofNat_zero] at hnxt
  rw [show s.sndNxt = s.sndUna from hnxt, smallerOrEqual_iff] at hsmaller
  have := larger_iff.mp hlarger
  omega

/-- A new size of the send buffer keeps its data. -/
lemma resizeSendBuffer_sends (env : Env) {size : UInt32} (h : Sending isOpen stream s)
    (h0 : 0 < size) : Sending isOpen stream (s.resizeSendBuffer env size) := by
  have hqueued : QueuedIn isOpen (s.resizeSendBuffer env size) := resizeSendBuffer_queued h.1 h0
  obtain ⟨⟨sent, unsent, fins, hq⟩, u, f, hs⟩ := h
  have hpos : 0 < size.toNat := UInt32.lt_iff_toNat_lt.mp h0
  rcases Nat.lt_or_ge size.toNat s.sbuf.dataLength with hlt | hge
  · have hsame : (s.resizeSendBuffer env size).sbuf = s.sbuf := by
      simp [resizeSendBuffer, PseudoTcpFifo.setCapacity_of_gt hlt]
    exact ⟨hqueued, u, f, hs.of_eq rfl hsame rfl⟩
  · obtain ⟨b, hb, -, hlen, hcontents, -⟩ :=
      PseudoTcpFifo.setCapacity_of_le env.memory hq.wf hge hpos
    have hsame : (s.resizeSendBuffer env size).sbuf = b := by
      simp [resizeSendBuffer, hb]
    refine ⟨hqueued, u, f, { hs with buffered := ?_ }⟩
    rw [show (s.resizeSendBuffer env size).toOutgoing.sbuf = b from hsame, hcontents]
    exact hs.buffered

/-! ### Steps of calls -/

/-- What a socket sends: nothing before it leaves LISTEN, then its control data and the bytes that
it has `accepted`. -/
structure Writes (accepted stream : Bytes) (s : PseudoTcpSocket) : Prop where
  sending : Sending (stream = [] ∨ s.state.hasSentFin = false) stream s
  opening : stream = [] ∧ accepted = [] ∧ (s.state = .listen ∨ s.state = .closed) ∨
    s.state ≠ .listen ∧ ∃ scale, stream = streamOf scale accepted
  scale : s.supportWndScale = true
  finAck : s.supportFinAck = true

/-- In LAST-ACK the FIN is not acknowledged. -/
def FinPending (stream : Bytes) (s : PseudoTcpSocket) : Prop :=
  s.state = .lastAck → s.sndEnd = UInt32.ofNat stream.length

namespace Writes

/-- A change of the state that does not open the socket again. -/
lemma enter (h : Writes accepted stream s) (ho : s'.toOutgoing = s.toOutgoing)
    (hwire : s'.wire = s.wire) (hscale : s'.supportWndScale = s.supportWndScale)
    (hfinAck : s'.supportFinAck = s.supportFinAck)
    (hsent : s'.state.hasSentFin = false → s.state.hasSentFin = false)
    (hlisten : s'.state = .listen → s.state = .listen)
    (hspoke : s.state = .listen ∨ s.state = .closed → s'.state = .listen ∨ s'.state = .closed) :
    Writes accepted stream s' where
  sending := (h.sending.of_eq ho hwire).mono (Or.imp_right hsent)
  opening := h.opening.imp (fun ⟨h1, h2, h3⟩ => ⟨h1, h2, hspoke h3⟩)
    fun ⟨h1, h2⟩ => ⟨fun hl => h1 (hlisten hl), h2⟩
  scale := hscale.trans h.scale
  finAck := hfinAck.trans h.finAck

/-- The state is as before. -/
lemma of_eq (h : Writes accepted stream s) (ho : s'.toOutgoing = s.toOutgoing)
    (hwire : s'.wire = s.wire) (hscale : s'.supportWndScale = s.supportWndScale)
    (hfinAck : s'.supportFinAck = s.supportFinAck) (hst : s'.state = s.state) :
    Writes accepted stream s' :=
  h.enter ho hwire hscale hfinAck (by rw [hst]; exact id) (by rw [hst]; exact id)
    (by rw [hst]; exact id)

/-- Sending changes nothing else. -/
lemma of_core (h : Writes accepted stream s)
    (hsending : Sending (stream = [] ∨ s.state.hasSentFin = false) stream s')
    (hc : s'.core = s.core) :
    Writes accepted stream s' where
  sending := by rw [core_state hc]; exact hsending
  opening := by rw [core_state hc]; exact h.opening
  scale := (congrArg (·.supportWndScale) hc).trans h.scale
  finAck := (core_supportFinAck hc).trans h.finAck

/-- Outside LISTEN and CLOSED the socket has sent its control data. -/
lemma spoken (h : Writes accepted stream s) (hl : s.state ≠ .listen) (hc : s.state ≠ .closed) :
    ∃ scale, stream = streamOf scale accepted := by
  rcases h.opening with ⟨-, -, hst⟩ | ⟨-, hstream⟩
  · exact absurd hst (by simp [hl, hc])
  · exact hstream

/-- A socket in LISTEN sends its control data, and is not in LISTEN then. -/
lemma connect {new : PseudoTcpState} (h : Writes accepted stream s) (hl : s.state = .listen)
    (hne : new ≠ .listen)
    (hq : queueConnectMessage { s with state := new } = .ok t) :
    ∃ stream', Writes accepted stream' t ∧ t.state = new := by
  obtain ⟨rfl, rfl⟩ : stream = [] ∧ accepted = [] := by
    rcases h.opening with ⟨h1, h2, -⟩ | ⟨hno, -⟩
    · exact ⟨h1, h2⟩
    · exact absurd hl hno
  have hopen : Sending True [] s := h.sending.mono fun _ => .inl rfl
  have hset : Sending True [] { s with state := new } := hopen.of_eq rfl rfl
  have hsends := queueConnectMessage_sends hset trivial h.scale h.finAck hq
  have hframe := queueConnectMessage_frame hq
  have hst : t.state = new := congrArg (·.state) hframe
  exact ⟨_,
    { sending := hsends.mono fun _ => trivial
      opening := .inr ⟨by rw [hst]; exact hne, _, rfl⟩
      scale := (congrArg (·.supportWndScale) hframe).trans h.scale
      finAck := (congrArg (·.supportFinAck) hframe).trans h.finAck }, hst⟩

/-- A FIN is queued and the queue flushed. -/
lemma finish {new : PseudoTcpState} {v : PseudoTcpSocket} {reading : UInt32}
    (h : Writes accepted stream s) (hl : s.state ≠ .listen) (hc : s.state ≠ .closed)
    (hend : s.sndEnd = UInt32.ofNat stream.length) (hnew : new.hasSentFin = true)
    (hq : s.queueFinMessage = .ok t) (ha : t.attemptSend env .fin reading = .ok v) :
    Writes accepted stream { v with state := new } ∧ v.sndEnd = UInt32.ofNat stream.length := by
  have hclosed : Sending False stream s := h.sending.mono False.elim
  obtain ⟨hqueued, hsame⟩ := queueFinMessage_sends hclosed id hend hq
  have hsends := attemptSend_sends hqueued ha
  have hcore := (attemptSend_core ha).1
  have hframe := queueFinMessage_frame hq
  have hne : new ≠ .listen := by
    rintro rfl
    cases hnew
  have hspoken := h.spoken hl hc
  have hno : ¬ (stream = [] ∨ new.hasSentFin = false) := by
    obtain ⟨scale, rfl⟩ := hspoken
    simp [streamOf, connectBytes, hnew]
  refine ⟨
    { sending := (hsends.of_eq rfl rfl).mono fun h => absurd h hno
      opening := .inr ⟨hne, hspoken⟩
      scale := ((congrArg (·.supportWndScale) hcore).trans
        (congrArg (·.supportWndScale) hframe)).trans h.scale
      finAck := ((core_supportFinAck hcore).trans
        (congrArg (·.supportFinAck) hframe)).trans h.finAck }, ?_⟩
  rw [sndEnd, core_sndUna hcore, core_sbuf hcore]
  exact hsame.trans hend

end Writes

/-- The options of a CONNECT leave what is sent alone, and FIN-ACK in use. -/
lemma parseOptions_writes {opts : Bytes} (h : Writes accepted stream s)
    (hopts : ∃ scale, CTL_CONNECT :: opts = connectBytes scale)
    (ho : s.parseOptions env opts = .ok t) :
    Writes accepted stream t ∧ t.state = s.state ∧ t.sndEnd = s.sndEnd := by
  obtain ⟨scale, hopts⟩ := hopts
  obtain rfl : opts = (connectBytes scale).tail := congrArg List.tail hopts
  rw [parseOptions_connectBytes] at ho
  obtain rfl := Except.ok.inj ho
  exact ⟨h.of_eq rfl rfl rfl h.finAck.symm rfl, rfl, rfl⟩

lemma resizeReceiveBuffer_finAck {size : UInt32} (hs : s.resizeReceiveBuffer env size = .ok s') :
    s'.supportFinAck = s.supportFinAck := by
  unfold resizeReceiveBuffer at hs
  split at hs
  · cases hs
    rfl
  · dsimp only at hs
    split at hs
    · cases hs
    · cases hs
      rfl

/-- A socket that is closed down keeps to its stream: an RST goes behind all of it. -/
lemma ClosingFrom.writes {source : ClosedownSource} (hw : Writes accepted stream s)
    (hclose : ClosingFrom env s source t) :
    Writes accepted stream { t with state := .closed } := by
  have hsent : PseudoTcpState.closed.hasSentFin = false → s.state.hasSentFin = false := by
    simp [PseudoTcpState.hasSentFin]
  cases hclose with
  | byPeer => exact hw.enter rfl rfl rfl rfl hsent (by simp) (by simp)
  | withoutRst => exact hw.enter rfl rfl rfl rfl hsent (by simp) (by simp)
  | withRst _ hq ha =>
      have hclosed : Sending (stream = []) stream s := hw.sending.mono .inl
      have hsends := attemptSend_sends (queueRstMessage_sends hclosed hq) ha
      have hc := (attemptSend_core ha).1
      have hframe := queueRstMessage_frame hq
      exact
        { sending := (hsends.of_eq rfl rfl).mono fun h => h.resolve_right (by
            simp [PseudoTcpState.hasSentFin])
          opening := by
            rcases hw.opening with ⟨hnil, hopening, -⟩ | ⟨-, hopening⟩
            · exact .inl ⟨hnil, hopening, .inr rfl⟩
            · exact .inr ⟨by simp, hopening⟩
          scale := ((congrArg (·.supportWndScale) hc).trans
            (congrArg (·.supportWndScale) hframe)).trans hw.scale
          finAck := ((core_supportFinAck hc).trans
            (congrArg (·.supportFinAck) hframe)).trans hw.finAck }

/-- A FIN, or the acknowledgement of one. -/
lemma Writes.fin {new : PseudoTcpState} {fin isFinAck : Bool}
    (hw : Writes accepted stream s) (ht : finTransition s.state fin isFinAck = some new) :
    Writes accepted stream { s with state := new } := by
  refine hw.enter rfl rfl rfl rfl (fun hno => (finTransition_hasSentFin ht).symm.trans hno)
    (fun hno => ?_) (fun hno => ?_)
  · rw [show new = .listen from hno] at ht
    revert ht
    cases s.state <;> cases isFinAck <;> cases fin <;> simp [finTransition]
  · rcases hno with hl | hc
    · rw [hl] at ht
      cases ht
    · exact absurd hc (finTransition_valid ht).2

/-- A valuable acknowledgement, of no more than the stream and its FIN. -/
lemma Writes.acked {seg : Segment} {sbuf : PseudoTcpFifo} {slist : List SSegment}
    {largest largest' : ℕ} (hlong : 7 + accepted.length + 1 < 2147483648)
    (hack : seg.ack.toNat ≤ 7 + accepted.length + 1) (hw : Writes accepted stream s)
    (hlarger : larger seg.ack s.sndUna = true) (hsmaller : smallerOrEqual seg.ack s.sndNxt = true)
    (hbuf : s.sbuf.consumeReadData (s.ackedBytes seg) = .ok sbuf)
    (hfree : freeAcked (s.ackedBytes seg) s.slist largest = .ok (slist, largest')) :
    Writes accepted stream { s with
      sndWnd := seg.wnd.toUInt32 <<< s.swndScale.toUInt32, sndUna := seg.ack, sbuf, slist } := by
  have hne : stream ≠ [] := fun hnil => hw.sending.not_acked hnil (.inl hnil) hlarger hsmaller
  have hlength : stream.length = 7 + accepted.length := by
    rcases hw.opening with ⟨hnil, -⟩ | ⟨-, scale, rfl⟩
    · exact absurd hnil hne
    · exact streamOf_length scale accepted
  have hsending := acked_sends (hw.sending.mono .inr) (by omega) (hack.trans (by omega)) hlarger
    hsmaller hbuf hfree
  exact
    { sending := (hsending.of_eq rfl rfl).mono fun h => h.resolve_left hne
      opening := hw.opening
      scale := hw.scale
      finAck := hw.finAck }

/-- **Every step of a call other than `send` keeps to the stream**, while no more is acknowledged
than the stream and its FIN; a call that takes no packet does not acknowledge a FIN. -/
lemma CallStep.writes (hlong : 7 + accepted.length + 1 < 2147483648)
    (hconnect : ∀ seg opts, op.segment = some seg → seg.data = CTL_CONNECT :: opts →
      seg.flags.has FLAG_CTL = true → ∃ scale, CTL_CONNECT :: opts = connectBytes scale)
    (hack : ∀ seg, op.segment = some seg → seg.ack.toNat ≤ 7 + accepted.length + 1)
    (hop : ∀ data, op ≠ .send data)
    (h : ∃ stream, Writes accepted stream s ∧ (op.segment = none → FinPending stream s))
    (hstep : CallStep env op s s') :
    ∃ stream, Writes accepted stream s' ∧ (op.segment = none → FinPending stream s') := by
  obtain ⟨stream, hw, hfin⟩ := h
  have hcore {v : PseudoTcpSocket}
      (hsending : Sending (stream = [] ∨ s.state.hasSentFin = false) stream v)
      (hc : v.core = s.core) :
      ∃ stream, Writes accepted stream v ∧ (op.segment = none → FinPending stream v) := by
    refine ⟨stream, hw.of_core hsending hc, fun hnone hst => ?_⟩
    rw [sndEnd, core_sndUna hc, core_sbuf hc]
    exact hfin hnone ((core_state hc).symm.trans hst)
  have hsame {v : PseudoTcpSocket} (ho : v.toOutgoing = s.toOutgoing) (hwire : v.wire = s.wire)
      (hscale : v.supportWndScale = s.supportWndScale) (hack : v.supportFinAck = s.supportFinAck)
      (hst : v.state = s.state) :
      ∃ stream, Writes accepted stream v ∧ (op.segment = none → FinPending stream v) := by
    refine ⟨stream, hw.of_eq ho hwire hscale hack hst, fun hnone hl => ?_⟩
    have hend := hfin hnone (hst.symm.trans hl)
    rw [sndEnd] at hend ⊢
    rw [show v.sndUna = s.sndUna from congrArg Outgoing.sndUna ho,
      show v.sbuf = s.sbuf from congrArg Outgoing.sbuf ho]
    exact hend
  have hother {v : PseudoTcpSocket} (hv : Writes accepted stream v) (hst : v.state ≠ .lastAck) :
      ∃ stream, Writes accepted stream v ∧ (op.segment = none → FinPending stream v) :=
    ⟨stream, hv, fun _ hl => absurd hl hst⟩
  cases hstep with
  | note hs =>
      exact hsame (congrArg (·.toOutgoing) hs) (congrArg (·.wire) hs)
        (congrArg (·.supportWndScale) hs) (congrArg (·.supportFinAck) hs) (congrArg (·.state) hs)
  | attempt _ ha => exact hcore (attemptSend_sends hw.sending ha) (attemptSend_core ha).1
  | retransmit ha =>
      have hsteps := (transmitHead_steps _ _ _).of_ok ha
      exact hcore (hsteps.sends hw.sending) hsteps.core_eq
  | packet hseq hp => exact hcore (hw.sending.ack hseq hp) (core_of_quiet (packet_ok hp).1)
  | connect _ hl hq =>
      obtain ⟨stream', hv, hst⟩ := hw.connect hl (by decide) hq
      exact ⟨stream', hv, fun _ hno => by rw [hst] at hno; cases hno⟩
  | accept hseg hctl hdata hl ho hq =>
      obtain ⟨ht, hst, -⟩ := parseOptions_writes hw (hconnect _ _ hseg hdata hctl) ho
      obtain ⟨stream', hv, hst'⟩ := ht.connect (hst.trans hl) (by decide) hq
      exact ⟨stream', hv, fun _ hno => by rw [hst'] at hno; cases hno⟩
  | opened hseg hctl hdata hl ho =>
      obtain ⟨ht, hst, -⟩ := parseOptions_writes hw (hconnect _ _ hseg hdata hctl) ho
      refine hother (ht.enter rfl rfl rfl rfl (fun _ => by rw [hst, hl]; rfl) (by simp) ?_)
        (by simp)
      rw [hst, hl]
      simp
  | options hseg hctl hdata hl ho =>
      obtain ⟨ht, hst, hend⟩ := parseOptions_writes hw (hconnect _ _ hseg hdata hctl) ho
      exact ⟨stream, ht, fun hnone hlast => hend.trans (hfin hnone (hst.symm.trans hlast))⟩
  | confirmed hseg hctl hl =>
      refine hother (hw.enter rfl rfl rfl rfl (fun _ => by rw [hl]; rfl) (by simp) ?_) (by simp)
      rw [hl]
      simp
  | send hsend => exact absurd hsend (hop _)
  | shutdown | shutdownReads | window | read | openWindow => exact hsame rfl rfl rfl rfl rfl
  | @finish t u new reading hst hq ha =>
      have hopen : s.state.hasSentFin = false ∧ s.state ≠ .listen ∧ s.state ≠ .closed ∧
          new.hasSentFin = true := by
        rcases hst with ⟨hst | hst, rfl⟩ | ⟨hst, rfl⟩ <;> rw [hst] <;> decide
      obtain ⟨hv, hend⟩ := hw.finish hopen.2.1 hopen.2.2.1 (hw.sending.sndEnd_eq (.inr hopen.1))
        hopen.2.2.2 hq ha
      exact ⟨stream, hv, fun _ _ => hend⟩
  | finAgain hclock hl hq ha =>
      have hnone : op.segment = none := by rw [hclock]; rfl
      have hne : s.state ≠ .listen ∧ s.state ≠ .closed ∧ s.state.hasSentFin = true := by
        rw [hl]
        decide
      obtain ⟨hv, hend⟩ := hw.finish hne.1 hne.2.1 (hfin hnone hl) hne.2.2 hq ha
      have hst := (attemptSend_core ha).2.trans (queueFinMessage_state hq)
      exact ⟨stream, hv.of_eq rfl rfl rfl rfl hst, fun _ _ => hend⟩
  | closedown hclose => exact hother (ClosingFrom.writes hw hclose) (by simp)
  | closed hl =>
      exact hother (hw.enter rfl rfl rfl rfl (by simp [PseudoTcpState.hasSentFin]) (by simp)
        (by simp)) (by simp)
  | fin hseg _ _ ht =>
      refine ⟨stream, hw.fin ht, fun hnone => ?_⟩
      rw [hseg] at hnone
      cases hnone
  | acked hseg hlarger hsmaller hbuf hfree =>
      refine ⟨stream, hw.acked hlong (hack _ hseg) hlarger hsmaller hbuf hfree, fun hnone => ?_⟩
      rw [hseg] at hnone
      cases hnone
  | setRcvBuf _ _ hr =>
      have hbeyond := resizeReceiveBuffer_beyond hr
      exact hsame (congrArg (·.toOutgoing) hbeyond) (congrArg (·.wire) hbeyond)
        (congrArg (·.supportWndScale) hbeyond) (resizeReceiveBuffer_finAck hr)
        (congrArg (·.state) hbeyond)
  | @setSndBuf size _ hl =>
      have hsends := resizeSendBuffer_sends env hw.sending (max_one_pos size)
      have hst : (s.resizeSendBuffer env (max 1 size)).state ≠ .lastAck := by
        rw [show (s.resizeSendBuffer env (max 1 size)).state = s.state from rfl, hl]
        decide
      exact hother
        { sending := hsends
          opening := hw.opening
          scale := hw.scale
          finAck := hw.finAck } hst

/-! ### LAST-ACK -/

/-- What is in LAST-ACK after a part of a call was in LAST-ACK before it, and no FIN was
acknowledged. -/
def StaysPending (s t : PseudoTcpSocket) : Prop :=
  t.state = .lastAck →
    s.state = .lastAck ∧ t.sndEnd = s.sndEnd ∧ t.supportFinAck = s.supportFinAck

lemma StaysPending.trans {t u : PseudoTcpSocket} (h : StaysPending s t) (h' : StaysPending t u) :
    StaysPending s u := by
  intro hu
  obtain ⟨ht, h1, h2⟩ := h' hu
  obtain ⟨hs, h3, h4⟩ := h ht
  exact ⟨hs, h1.trans h3, h2.trans h4⟩

lemma StaysPending.of_eq {t : PseudoTcpSocket} (hst : t.state = s.state)
    (huna : t.sndUna = s.sndUna) (hbuf : t.sbuf = s.sbuf)
    (hfin : t.supportFinAck = s.supportFinAck) : StaysPending s t := by
  intro ht
  refine ⟨hst.symm.trans ht, ?_, hfin⟩
  rw [sndEnd, sndEnd, huna, hbuf]

lemma StaysPending.of_core {t : PseudoTcpSocket} (h : t.core = s.core) : StaysPending s t :=
  .of_eq (core_state h) (core_sndUna h) (core_sbuf h) (core_supportFinAck h)

lemma StaysPending.of_ne {t : PseudoTcpSocket} (h : t.state ≠ .lastAck) : StaysPending s t :=
  fun ht => absurd ht h

lemma closedown_pending (env : Env) (s t : PseudoTcpSocket) (err : Option Errno)
    (source : ClosedownSource) (reading : UInt32) :
    Post (fun _ => True) (fun u => StaysPending s u) (t.closedown env err source reading) := by
  refine ((closedown_post env t err source reading).mono (fun _ _ => trivial) fun _ h => h).imp ?_
  rintro _ ⟨u, -, rfl⟩
  exact .of_ne (by simp)

/-- Control data moves no socket to LAST-ACK, and none that has sent a FIN takes any. -/
lemma receiveControl_pending (env : Env) {seg : Segment}
    (hdata : s.state.hasSentFin = true → seg.data = []) :
    Post (fun _ => True) (fun r => StaysPending s r.1) (s.receiveControl env seg) := by
  have hsame : StaysPending s s := .of_eq rfl rfl rfl rfl
  unfold receiveControl
  refine Post.ite (fun _ => ?_) fun _ => Post.ok hsame
  cases hd : seg.data with
  | nil => exact Post.ok hsame
  | cons code opts =>
      dsimp only
      refine Post.ite (fun _ => Post.ok hsame) fun _ => ?_
      refine Post.bind ((parseOptions_post env s opts).mono (fun _ _ => trivial) fun _ h => h)
        fun t ho => ?_
      have hst := parseOptions_state ho
      refine Post.bind (P := fun u => u.state ≠ .lastAck) ?_ fun u hu => Post.pure (.of_ne hu)
      unfold answerConnect
      split
      next hl =>
        rw [setState_eq (.inr (by rw [hl]; rfl))]
        refine ((queueConnectMessage_post _).mono (fun _ _ => trivial) fun _ h => h).imp
          fun u hu => ?_
        rw [show u.state = .synReceived from congrArg (·.state) (queueConnectMessage_frame hu)]
        decide
      next hl =>
        rw [setStateEstablished_eq (.inl hl)]
        exact Post.ok (by simp [adjustMTU])
      next =>
        refine Post.ok fun hl => ?_
        have hnil := hdata (by rw [← hst, hl]; rfl)
        rw [hd] at hnil
        cases hnil

lemma congestionAcked_pending (env : Env) (s : PseudoTcpSocket) (nAcked : ℕ) (now : UInt32) :
    Post (fun _ => True) (fun r => r.1.state = s.state ∧ r.1.sndUna = s.sndUna ∧
      r.1.sbuf = s.sbuf ∧ r.1.supportFinAck = s.supportFinAck)
      (s.congestionAcked env nAcked now) := by
  unfold congestionAcked
  refine Post.ite (fun _ => ?_) fun _ => ?_
  · refine Post.ite (fun _ => Post.ok ⟨rfl, rfl, rfl, rfl⟩) fun _ => ?_
    refine Post.bind ((transmitHead_steps env s now).mono (fun _ _ => trivial) fun _ h => h) ?_
    rintro ⟨t, _ | _⟩ h
    · exact Post.pure ⟨h.state_eq, core_sndUna h.core_eq, core_sbuf h.core_eq,
        core_supportFinAck h.core_eq⟩
    · exact Post.pure ⟨h.state_eq, core_sndUna h.core_eq, core_sbuf h.core_eq,
        core_supportFinAck h.core_eq⟩
  · refine Post.ite (fun _ => Post.ok ⟨rfl, rfl, rfl, rfl⟩) fun _ => ?_
    exact Post.ite (fun _ => Post.error trivial) fun _ => Post.ok ⟨rfl, rfl, rfl, rfl⟩

/-- A valuable acknowledgement moves the front of the queue, and its end only if it acknowledges a
FIN. -/
lemma valuableAck_pending (env : Env) (s : PseudoTcpSocket) (seg : Segment) (now : UInt32) :
    Post (fun _ => True) (fun r => r.1.state = s.state ∧ r.1.supportFinAck = s.supportFinAck ∧
      (r.2.1 = false → r.1.sndEnd = s.sndEnd)) (s.valuableAck env seg now) := by
  unfold valuableAck
  dsimp only
  refine Post.bind (Post.of_forall fun _ hb => hb) fun sbuf hbuf => ?_
  refine Post.bind ((freeAcked_post _ _ _).mono (fun _ _ => trivial) fun _ h => h) fun fr _ => ?_
  refine Post.bind (congestionAcked_pending env _ _ now) ?_
  rintro ⟨t, b⟩ ⟨hst, huna, hsbuf, hfin⟩
  refine Post.pure ⟨hst, hfin, fun hno => ?_⟩
  have hnot : ¬ ((seg.ack - s.sndUna).toNat = s.sbuf.dataLength + 1 ∧
      s.state.hasSentFin = true) := by simpa using hno
  rw [if_neg hnot] at hbuf
  obtain ⟨hle, rfl⟩ := PseudoTcpFifo.consumeReadData_eq_ok.mp hbuf
  dsimp only at huna hsbuf ⊢
  have hack := ofNat_toNat_sub seg.ack s.sndUna
  rw [sndEnd, sndEnd, huna, hsbuf]
  dsimp only
  generalize (seg.ack - s.sndUna).toNat = d at hle hack ⊢
  rw [← hack, add_ofNat_add, Nat.add_sub_cancel' hle]

/-- An acknowledgement leaves the socket in its state, with its end where it was unless the FIN was
acknowledged, or it closes it. -/
lemma receiveAck_pending (env : Env) (s : PseudoTcpSocket) (seg : Segment) (now : UInt32) :
    Post (fun _ => True) (fun r => match r.2 with
      | some true => r.1.state = s.state ∧ r.1.supportFinAck = s.supportFinAck
      | _ => StaysPending s r.1) (s.receiveAck env seg now) := by
  have hsame : StaysPending s s := .of_eq rfl rfl rfl rfl
  unfold receiveAck
  dsimp only
  refine Post.ite (fun _ => ?_) fun _ => Post.ite (fun _ => ?_) fun _ => Post.ok hsame
  · cases hr : s.updateRtt seg now with
    | none => exact Post.ok hsame
    | some t =>
        have ht := updateRtt_streams hr
        have hst : t.state = s.state := congrArg (·.state) ht
        have hfin : t.supportFinAck = s.supportFinAck := congrArg (·.supportFinAck) ht
        have hend : t.sndEnd = s.sndEnd := by
          rw [sndEnd, sndEnd, show t.sndUna = s.sndUna from congrArg (·.sndUna) ht,
            show t.sbuf = s.sbuf from congrArg (·.sbuf) ht]
        refine Post.bind (valuableAck_pending env t seg now) ?_
        rintro ⟨u, b, _ | _⟩ ⟨h1, h2, h3⟩
        · exact Post.bind (closedown_pending env s u _ _ _) fun v hv => Post.pure hv
        · cases b with
          | true => exact Post.pure ⟨h1.trans hst, h2.trans hfin⟩
          | false =>
              exact Post.pure fun hl =>
                ⟨hst.symm.trans (h1.symm.trans hl), (h3 rfl).trans hend, h2.trans hfin⟩
  · have hdup :
        Post (fun _ => True) (fun r => StaysPending s r.1) (s.duplicateAck env seg now) := by
      unfold duplicateAck
      dsimp only
      refine Post.ite (fun _ => Post.ok (.of_eq rfl rfl rfl rfl)) fun _ => ?_
      refine Post.ite (fun _ => ?_) fun _ => Post.ok (.of_eq rfl rfl rfl rfl)
      refine Post.ite (fun _ => ?_) fun _ => Post.ite (fun _ => Post.ok (.of_eq rfl rfl rfl rfl))
        fun _ => Post.ok (.of_eq rfl rfl rfl rfl)
      refine Post.bind ((transmitHead_steps env _ now).mono (fun _ _ => trivial) fun _ h => h) ?_
      rintro ⟨t, b⟩ h
      have hcore := StaysPending.of_core h.core_eq
      have ht : StaysPending s t := StaysPending.trans (.of_eq rfl rfl rfl rfl) hcore
      cases b with
      | false => exact Post.pure ht
      | true => exact Post.pure (ht.trans (.of_eq rfl rfl rfl rfl))
    refine Post.bind hdup ?_
    rintro ⟨u, _ | _⟩ hu
    · exact Post.bind (closedown_pending env s u _ _ _) fun v hv => Post.pure hv
    · exact Post.pure hu

/-- The parts of `process` for a segment that is taken. -/
lemma processSegment_pending (env : Env) (s : PseudoTcpSocket) {seg : Segment} (now : UInt32)
    (hdata : s.state.hasSentFin = true → seg.data = []) (hfinAck : s.supportFinAck = true) :
    Post (fun _ => True) (fun r => StaysPending s r.1) (s.processSegment env seg now) := by
  unfold processSegment
  refine Post.bind (receiveControl_pending env hdata) ?_
  rintro ⟨t, _ | b⟩ ht
  · exact Post.pure ht
  have ht' : StaysPending s (t.updateTimestamp seg) := by
    refine ht.trans ?_
    have hst := updateTimestamp_streams t seg
    exact .of_eq (congrArg (·.state) hst) (congrArg (·.sndUna) hst) (congrArg (·.sbuf) hst)
      (congrArg (·.supportFinAck) hst)
  refine Post.bind (receiveAck_pending env _ seg now) ?_
  rintro ⟨u, _ | isFinAck⟩ hu
  · exact Post.pure (ht'.trans hu)
  -- the rest of `process`, from the socket that the acknowledgement leaves
  have hlast (hl : u.state = .lastAck) : s.state = .lastAck ∧ u.supportFinAck = true ∧
      (isFinAck = false → u.sndEnd = s.sndEnd) := by
    cases isFinAck with
    | false =>
        obtain ⟨h1, h2, h3⟩ := (ht'.trans hu) hl
        exact ⟨h1, h3.trans hfinAck, fun _ => h2⟩
    | true =>
        obtain ⟨h1, -, h3⟩ := ht' (hu.1.symm.trans hl)
        exact ⟨h1, (hu.2.trans h3).trans hfinAck, fun hno => by cases hno⟩
  have hopen : Post (fun _ => True) (fun v => v.state = .lastAck → v = u) (u.openOnSegment b) := by
    unfold openOnSegment
    refine Post.ite (fun h => ?_) fun _ => Post.ok fun _ => rfl
    rw [setStateEstablished_eq (.inr h.1)]
    exact Post.ok (by simp [adjustMTU])
  refine Post.bind hopen fun v hv => ?_
  have hfin : Post (fun _ => True) (fun r => StaysPending s r.1) (v.receiveFin seg isFinAck) := by
    by_cases hl : v.state = .lastAck
    · obtain rfl := hv hl
      obtain ⟨hs, hsup, hend⟩ := hlast hl
      have hnil := hdata (by rw [hs]; rfl)
      unfold receiveFin
      rw [if_pos hsup, if_neg (by simp [hnil]), hl]
      cases isFinAck with
      | false => exact Post.ok fun _ => ⟨hs, hend rfl, hsup.trans hfinAck.symm⟩
      | true =>
          dsimp only [finTransition, if_true]
          rw [setStateClosed_eq (.inr (by rw [hl]; rfl))]
          exact Post.ok (.of_ne (by simp))
    · unfold receiveFin
      refine Post.ite (fun _ => ?_) fun _ => Post.ok (.of_ne hl)
      refine Post.ite (fun _ => Post.ok (.of_ne hl)) fun _ => ?_
      split
      next => exact Post.ok (.of_ne hl)
      next h =>
        rw [setStateClosed_eq (.inr (finTransition_valid h).1)]
        exact Post.ok (.of_ne (by simp))
      next new _ h =>
        rw [setState_eq (.inr (finTransition_valid h).1)]
        refine Post.ok (.of_ne ?_)
        dsimp only
        rintro rfl
        revert h
        cases v.state <;> cases isFinAck <;> cases seg.flags.has FLAG_FIN <;> simp [finTransition]
  refine Post.bind hfin ?_
  rintro ⟨w, _ | _⟩ hw
  · exact Post.pure hw
  refine Post.bind ((receiveData_received env w.notifyWritable seg).mono (fun _ _ => trivial)
    fun _ h => h) ?_
  rintro x ⟨r, sflags, c, y, -, hy, hx⟩
  have hn := notifyWritable_streams w
  refine Post.pure (hw.trans ?_)
  have h1 : StaysPending w { w.notifyWritable with toIncoming := r } :=
    .of_eq (congrArg (·.state) hn) (congrArg (·.sndUna) hn) (congrArg (·.sbuf) hn)
      (congrArg (·.supportFinAck) hn)
  refine (h1.trans (.of_core (attemptSend_core hy).1)).trans ?_
  exact .of_eq (congrArg (·.state) hx) (congrArg (·.sndUna) hx) (congrArg (·.sbuf) hx)
    (congrArg (·.supportFinAck) hx)

/-- **An acknowledged FIN takes a socket out of LAST-ACK**: one that a packet leaves there was there
before, with the same end of its stream. -/
theorem process_pending (env : Env) (s : PseudoTcpSocket) (seg : Segment)
    (hfinAck : s.supportFinAck = true) :
    Post (fun _ => True) (fun r => StaysPending s r.1) (s.process env seg) := by
  have hsame : StaysPending s s := .of_eq rfl rfl rfl rfl
  unfold process
  refine Post.ite (fun _ => Post.ok hsame) fun hconv => ?_
  dsimp only
  generalize s.getCurrentTime (env.clock 0) = now
  refine Post.ite (fun _ => ?_) fun hopen => Post.ite (fun _ => ?_) fun hrst => ?_
  · refine Post.ite (fun _ => Post.ok (.of_eq rfl rfl rfl rfl)) fun _ => ?_
    exact Post.bind (closedown_pending env s _ _ _ _) fun t ht => Post.pure ht
  · exact Post.bind (closedown_pending env s _ _ _ _) fun t ht => Post.pure ht
  · have htakes : s.Takes seg := takes_of hconv hopen hrst
    refine (processSegment_pending env (s.noteArrival now) now htakes.data hfinAck).imp
      fun r h => ?_
    exact StaysPending.trans (.of_eq rfl rfl rfl rfl) h

/-! ### Calls -/

/-- `send` accepts bytes, and they go on the stream. -/
lemma send_writes {v : ℤ} (h : Writes accepted stream s) (hsmall : data.length < 2147483648)
    (hsend : s.send env data = .ok (s', v)) :
    ∃ stream', Writes (accepted ++ data.take v.toNat) stream' s' ∧
      (FinPending stream s → FinPending stream' s') := by
  have hrefused {t : PseudoTcpSocket} (ht : Writes accepted stream t) :
      Writes (accepted ++ data.take (-1 : ℤ).toNat) stream t := by
    rw [show (-1 : ℤ).toNat = 0 from rfl, List.take_zero, List.append_nil]
    exact ht
  unfold send at hsend
  split at hsend
  next =>
    obtain ⟨rfl, rfl⟩ := Prod.mk.inj (Except.ok.inj hsend)
    exact ⟨stream, hrefused (h.of_eq rfl rfl rfl rfl rfl), fun hfin => hfin⟩
  next hest =>
    rw [not_not] at hest
    split at hsend
    next =>
      obtain ⟨rfl, rfl⟩ := Prod.mk.inj (Except.ok.inj hsend)
      exact ⟨stream, hrefused (h.of_eq rfl rfl rfl rfl rfl), fun hfin => hfin⟩
    next =>
      obtain ⟨⟨t, n⟩, hq, hsend⟩ := bind_eq_ok.mp hsend
      obtain ⟨w, hw, hsend⟩ := bind_eq_ok.mp hsend
      obtain ⟨rfl, rfl⟩ := Prod.mk.inj (Except.ok.inj hsend)
      have hopen : Sending True stream s := h.sending.mono fun _ => .inr (by rw [hest]; rfl)
      obtain ⟨scale, rfl⟩ := h.spoken (by rw [hest]; decide) (by rw [hest]; decide)
      have hctl : TcpFlags.has FLAG_NONE FLAG_CTL = false := by decide
      have hfin : TcpFlags.has FLAG_NONE FLAG_FIN = false := by decide
      obtain ⟨hsends, hn⟩ := queue_sends hopen (fun _ => trivial)
        (fun _ hc => by rw [hctl] at hc; cases hc) (fun _ _ => by rw [streamOf_length]; omega)
        (fun hf => by rw [hfin] at hf; cases hf) hq
      have hwritten : ((n : ℤ).bmod (2 ^ 32)).toNat = n := by
        rw [(bmod_neg_iff (k := n) (by omega)).2 (by omega), Int.toNat_natCast]
      have hcore := (attemptSend_core hw).1
      have hframe := queue_frame hq
      have hst : w.state = s.state := (core_state hcore).trans (congrArg (·.state) hframe)
      have hdone : Writes (accepted ++ data.take n)
          (streamOf scale accepted ++ data.take n) w :=
        { sending := (attemptSend_sends hsends hw).mono fun _ => trivial
          opening := .inr ⟨by rw [hst, hest]; decide, scale, List.append_assoc ..⟩
          scale := ((congrArg (·.supportWndScale) hcore).trans
            (congrArg (·.supportWndScale) hframe)).trans h.scale
          finAck := ((core_supportFinAck hcore).trans
            (congrArg (·.supportFinAck) hframe)).trans h.finAck }
      have hest' : w.state ≠ .lastAck := by
        rw [hst, hest]
        decide
      refine ⟨streamOf scale accepted ++ data.take n, ?_, ?_⟩
      · rw [hwritten]
        split
        · exact hdone.of_eq rfl rfl rfl rfl rfl
        · exact hdone
      · split
        · exact fun _ hl => absurd hl hest'
        · exact fun _ hl => absurd hl hest'

/-- A call other than `send` keeps to the stream. -/
lemma Called.writes (hlong : 7 + accepted.length + 1 < 2147483648)
    (hconnect : ∀ seg opts, op.segment = some seg → seg.data = CTL_CONNECT :: opts →
      seg.flags.has FLAG_CTL = true → ∃ scale, CTL_CONNECT :: opts = connectBytes scale)
    (hack : ∀ seg, op.segment = some seg → seg.ack.toNat ≤ 7 + accepted.length + 1)
    (hop : ∀ data, op ≠ .send data)
    (h : ∃ stream, Writes accepted stream s ∧ (op.segment = none → FinPending stream s))
    (hcall : Called env op s s') :
    ∃ stream, Writes accepted stream s' ∧ (op.segment = none → FinPending stream s') := by
  refine hcall.invariant
    (I := fun t => ∃ stream, Writes accepted stream t ∧ (op.segment = none → FinPending stream t))
    h (fun t u ht hstep => hstep.writes hlong hconnect hack hop ht) ?_
  rintro seg t u hseg ⟨stream, ht, -⟩ ⟨r, sflags, b, v, -, hv, hu⟩
  refine ⟨stream, ?_, fun hnone => by rw [hseg] at hnone; cases hnone⟩
  have hset : Writes accepted stream { t with toIncoming := r } := ht.of_eq rfl rfl rfl rfl rfl
  have hsent : Writes accepted stream v :=
    hset.of_core (attemptSend_sends hset.sending hv) (attemptSend_core hv).1
  exact hsent.of_eq (congrArg (·.toOutgoing) hu) (congrArg (·.wire) hu)
    (congrArg (·.supportWndScale) hu) (congrArg (·.supportFinAck) hu) (congrArg (·.state) hu)

/-- What a socket has sent are pieces of the stream that it opens with its control data. -/
lemma Writes.pieces (h : Writes accepted stream s) :
    ∃ scale, ∀ packet ∈ s.wire, ∀ seg, parse packet = some seg →
      Piece 7 (streamOf scale accepted) seg := by
  obtain ⟨-, u, f, hs⟩ := h.sending
  rcases h.opening with ⟨rfl, rfl, -⟩ | ⟨-, scale, rfl⟩
  · refine ⟨0, fun packet hp seg hseg => ?_⟩
    obtain ⟨hpiece, hfin⟩ := hs.wire packet hp seg hseg
    refine Sends.empty_piece ?_ (hfin (.inl rfl))
    by_contra hdata
    obtain ⟨p, -, hstretch, -⟩ := hpiece.data hdata
    have := stretch_le hstretch hdata
    have := List.length_pos_of_ne_nil hdata
    rw [List.length_nil] at *
    omega
  · exact ⟨scale, fun packet hp seg hseg => (hs.wire packet hp seg hseg).1⟩

/-- In LAST-ACK the length of the stream says whether the FIN is pending. -/
lemma Writes.finPending_iff (h : Writes accepted stream s) :
    FinPending stream s ↔
      (s.state = .lastAck → s.sndEnd = UInt32.ofNat (7 + accepted.length)) := by
  refine forall_congr' fun hl => ?_
  obtain ⟨scale, rfl⟩ := h.spoken (by rw [hl]; decide) (by rw [hl]; decide)
  rw [streamOf_length]

/-- **Every call sends pieces of one stream**, which goes on with the bytes that the call accepts,
and in LAST-ACK the FIN is not acknowledged. -/
theorem call_writes {ret : Ret} (hlong : 7 + accepted.length + 1 < 2147483648)
    (hconnect : ∀ seg opts, op.segment = some seg → seg.data = CTL_CONNECT :: opts →
      seg.flags.has FLAG_CTL = true → ∃ scale, CTL_CONNECT :: opts = connectBytes scale)
    (hack : ∀ seg, op.segment = some seg → seg.ack.toNat ≤ 7 + accepted.length + 1)
    (hsmall : ∀ data, op = .send data → data.length < 2147483648)
    (h : ∃ stream, Writes accepted stream s ∧ FinPending stream s)
    (hcall : s.call env op = .ok (s', ret)) :
    ∃ stream, Writes (accepted ++ op.accepted ret) stream s' ∧ FinPending stream s' := by
  obtain ⟨stream, hw, hfin⟩ := h
  by_cases hop : ∃ data, op = .send data
  · obtain ⟨data, rfl⟩ := hop
    obtain ⟨⟨t, v⟩, hsend, hret⟩ := bind_eq_ok.mp hcall
    obtain ⟨rfl, rfl⟩ := Prod.mk.inj (Except.ok.inj hret)
    obtain ⟨stream', hw', hpending⟩ := send_writes hw (hsmall data rfl) hsend
    exact ⟨stream', hw', hpending hfin⟩
  · have hnone : op.accepted ret = [] := by
      cases op with
      | send data => exact absurd ⟨data, rfl⟩ hop
      | _ => rfl
    rw [hnone, List.append_nil]
    obtain ⟨stream', hw', hfin'⟩ := Called.writes hlong hconnect hack
      (fun data hdata => hop ⟨data, hdata⟩) ⟨stream, hw, fun _ => hfin⟩
      ((s.call_called env op).of_ok hcall)
    refine ⟨stream', hw', ?_⟩
    cases hseg : op.segment with
    | none => exact hfin' hseg
    | some seg =>
        -- a packet
        obtain ⟨buffer, rfl⟩ : ∃ buffer, op = .notifyPacket buffer := by
          cases op with
          | notifyPacket buffer => exact ⟨buffer, rfl⟩
          | _ => cases hseg
        obtain ⟨⟨t, b⟩, hnotify, hret⟩ := bind_eq_ok.mp hcall
        obtain ⟨rfl, rfl⟩ := Prod.mk.inj (Except.ok.inj hret)
        have hstays : StaysPending s t := by
          unfold notifyPacket at hnotify
          rw [show parse buffer = some seg from hseg] at hnotify
          dsimp only at hnotify
          split at hnotify
          · obtain ⟨rfl, -⟩ := Prod.mk.inj (Except.ok.inj hnotify)
            exact .of_eq rfl rfl rfl rfl
          · exact (process_pending env s seg hw.finAck).of_ok hnotify
        rw [hw'.finPending_iff]
        intro hl
        obtain ⟨hl', hend, -⟩ := hstays hl
        exact hend.trans (hw.finPending_iff.mp hfin hl')

end PseudoTcpSocket

end LibNice.PseudoTcp
