import LibNice.PseudoTcp.Acknowledging
import LibNice.PseudoTcp.ReceiveBuffer
import LibNice.PseudoTcp.Reassembly

/-!
What the calls of a socket do to the stream that it receives.

* `connectBytes`: the control data in front of a stream.
* `Reads`: the receive queue of a socket follows the stream of its peer.
* `Regular`, `Orderly`: the calls that keep this; a CONNECT is whole, and no payload overtakes it.
* `recv_reads`: what `recv` returns is what comes next of the stream.
* `Called.reads`, `call_reads`: **every orderly call follows the stream**.
-/

namespace LibNice.PseudoTcp

open LibNice.Foundation

/-- The control data of a socket that supports window scaling and FIN-ACK. -/
def connectBytes (scale : UInt8) : Bytes :=
  [CTL_CONNECT, TCP_OPT_WND_SCALE, 1, scale, TCP_OPT_FIN_ACK, 1, 0]

@[simp] lemma connectBytes_length (scale : UInt8) : (connectBytes scale).length = 7 := rfl

/-- The stream of a socket: its control data, and the bytes that were accepted from its user. -/
def streamOf (scale : UInt8) (accepted : Bytes) : Bytes := connectBytes scale ++ accepted

@[simp] lemma streamOf_length (scale : UInt8) (accepted : Bytes) :
    (streamOf scale accepted).length = 7 + accepted.length := by
  simp [streamOf]

namespace PseudoTcpSocket

variable {env : Env} {op : Op} {s s' t : PseudoTcpSocket} {scale : UInt8}
  {accepted delivered : Bytes}

/-- The options of a whole CONNECT change no more than the scale of the window. -/
lemma parseOptions_connectBytes (env : Env) (s : PseudoTcpSocket) (scale : UInt8) :
    s.parseOptions env (connectBytes scale).tail =
      .ok { s with swndScale := scale, supportFinAck := true } := rfl

/-- The receive queue follows the stream of a peer, and FIN-ACK is in use. -/
structure Reads (stream delivered : Bytes) (s : PseudoTcpSocket) : Prop where
  queue : ∃ n fins, Follows 7 stream delivered s.toIncoming n fins
  finAck : s.supportFinAck = true

lemma Reads.of_eq {stream : Bytes} (h : Reads stream delivered s) (hbuf : s'.rbuf = s.rbuf)
    (hnxt : s'.rcvNxt = s.rcvNxt) (hlist : s'.rlist = s.rlist)
    (hfin : s'.supportFinAck = s.supportFinAck) : Reads stream delivered s' :=
  let ⟨n, fins, hfollows⟩ := h.queue
  ⟨⟨n, fins, hfollows.of_eq hbuf hnxt hlist⟩, hfin.trans h.finAck⟩

lemma Reads.of_incoming {stream : Bytes} (h : Reads stream delivered s)
    (hin : s'.toIncoming = s.toIncoming) (hfin : s'.supportFinAck = s.supportFinAck) :
    Reads stream delivered s' :=
  h.of_eq (congrArg Incoming.rbuf hin) (congrArg Incoming.rcvNxt hin)
    (congrArg Incoming.rlist hin) hfin

/-- A regular call: a CONNECT that comes in is in one piece, the receive buffer is not resized after
the first packet, and what `send` returns has 31 bits. -/
structure Regular (s : PseudoTcpSocket) (op : Op) : Prop where
  whole : ∀ seg, op.segment = some seg → seg.flags.has FLAG_CTL = true → seg.data ≠ [] →
    seg.data.length = 7
  resize : ∀ size, op = .setRcvBuf size → s.rcvNxt = 0
  small : ∀ data, op = .send data → data.length < 2147483648

/-- A regular call in which no payload overtakes the CONNECT. -/
structure Orderly (s : PseudoTcpSocket) (op : Op) : Prop extends Regular s op where
  late : ∀ seg, op.segment = some seg → seg.flags.has FLAG_CTL = false → seg.data ≠ [] →
    7 ≤ s.rcvNxt.toNat

/-- A whole CONNECT of a stream is the front of it. -/
lemma piece_connect {seg : Segment} (h : Piece 7 (streamOf scale accepted) seg)
    (hctl : seg.flags.has FLAG_CTL = true) (hlen : seg.data.length = 7) :
    seg.data = connectBytes scale := by
  obtain ⟨p, -, hdata, hle, -⟩ := h.data (List.ne_nil_of_length_pos (by omega))
  have hp : p = 0 := by
    have := hle hctl
    omega
  rw [hdata, hlen, hp, List.drop_zero, streamOf, List.take_append_of_le_length (by simp)]
  rfl

/-! ### Calls -/

/-- `recv` takes what comes next out of the buffer. -/
lemma recv_reads {stream bytes : Bytes} {len : ℕ} {v : ℤ} (h : Reads stream delivered s)
    (hrecv : s.recv env len = .ok (s', v, bytes)) : Reads stream (delivered ++ bytes) s' := by
  have hnone {t : PseudoTcpSocket} (ht : Reads stream delivered t) :
      Reads stream (delivered ++ []) t := by
    rw [List.append_nil]
    exact ht
  obtain ⟨n, fins, hfollows⟩ := h.queue
  have hread : Reads stream (delivered ++ (s.rbuf.read len).2)
      { s with rbuf := (s.rbuf.read len).1 } :=
    ⟨⟨n, fins, hfollows.read len⟩, h.finAck⟩
  unfold recv at hrecv
  split at hrecv
  · cases hrecv
    exact hnone h
  split at hrecv
  · cases hrecv
    exact hnone h
  split at hrecv
  · cases hrecv
    exact hnone (h.of_incoming rfl rfl)
  split at hrecv
  · cases hrecv
    exact hnone h
  generalize s.rbuf.read len = p at hrecv hread
  obtain ⟨rbuf, data⟩ := p
  dsimp only at hrecv hread
  split at hrecv
  next hnil =>
    simp only [Except.ok.injEq, Prod.mk.injEq] at hrecv
    obtain ⟨rfl, -, rfl⟩ := hrecv
    rw [List.length_eq_zero_iff.mp hnil] at hread
    exact hread.of_incoming rfl rfl
  next =>
    split at hrecv
    · split at hrecv
      · obtain ⟨u, hu, hret⟩ := bind_eq_ok.mp hrecv
        simp only [pure, Except.pure, Except.ok.injEq, Prod.mk.injEq] at hret
        obtain ⟨rfl, -, rfl⟩ := hret
        have hcore := (attemptSend_core hu).1
        have hopen : Reads stream (delivered ++ data) { s with
            rbuf, rcvWnd := UInt32.ofNat rbuf.getWriteRemaining } :=
          hread.of_eq rfl rfl rfl rfl
        exact hopen.of_incoming (core_incoming hcore) (core_supportFinAck hcore)
      · simp only [Except.ok.injEq, Prod.mk.injEq] at hrecv
        obtain ⟨rfl, -, rfl⟩ := hrecv
        exact hread.of_eq rfl rfl rfl rfl
    · simp only [Except.ok.injEq, Prod.mk.injEq] at hrecv
      obtain ⟨rfl, -, rfl⟩ := hrecv
      exact hread

/-- Nothing was received yet where `rcv_nxt` is 0, and a new size of the buffer does no harm. -/
lemma resizeReceiveBuffer_reads {stream : Bytes} {size : UInt32}
    (hlong : stream.length + 1 < 2147483648) (h : Reads stream delivered s)
    (hbounded : s.toIncoming.Bounded) (h0 : 0 < size) (hnxt : s.rcvNxt = 0)
    (hs : s.resizeReceiveBuffer env size = .ok s') : Reads stream delivered s' := by
  have hbounded' := resizeReceiveBuffer_bounded hbounded h0 hs
  obtain ⟨n, fins, hfollows⟩ := h.queue
  have hle := hfollows.le
  have hfins := hfollows.fin
  have hzero : n + fins = 0 := by
    have := congrArg UInt32.toNat (hfollows.nxt.symm.trans hnxt)
    rw [toNat_ofNat_of_lt (by omega)] at this
    exact this
  obtain ⟨rfl, rfl⟩ : n = 0 ∧ fins = 0 := by omega
  have hnone : s.rlist = [] := List.eq_nil_iff_forall_not_mem.mpr fun g hg =>
    absurd (hfollows.saved g hg).1 (by decide)
  have hempty : delivered = [] ∧ s.rbuf.contents = [] := by
    have := hfollows.front
    rwa [List.take_zero, List.drop_nil, List.append_eq_nil_iff] at this
  have hbeyond := resizeReceiveBuffer_beyond hs
  have hdata : s'.rbuf.dataLength = s.rbuf.dataLength := by
    unfold resizeReceiveBuffer at hs
    split at hs
    · cases hs
      rfl
    · dsimp only at hs
      split at hs
      · cases hs
      next hset =>
        cases hs
        unfold PseudoTcpFifo.setCapacity at hset
        split at hset
        · cases hset
        · split at hset
          · cases hset
            rfl
          · cases hset
            rfl
  have hempty' : s'.rbuf.contents = [] := by
    apply List.eq_nil_of_length_eq_zero
    rw [PseudoTcpFifo.contents_length, hdata, ← PseudoTcpFifo.contents_length, hempty.2,
      List.length_nil]
  have hlist' : s'.rlist = s.rlist := congrArg (·.rlist) hbeyond
  have hnxt' : s'.rcvNxt = s.rcvNxt := congrArg (·.rcvNxt) hbeyond
  refine ⟨⟨0, 0,
    { wf := hbounded'.wf
      nxt := hnxt'.trans hnxt
      le := Nat.zero_le _
      fin := .inl rfl
      front := by rw [hempty.1, hempty', List.take_zero, List.drop_nil]; rfl
      saved := fun g hg => by
        rw [show s'.toIncoming.rlist = s.rlist from hlist', hnone] at hg
        cases hg }⟩, ?_⟩
  unfold resizeReceiveBuffer at hs
  split at hs
  · cases hs
    exact h.finAck
  · dsimp only at hs
    split at hs
    · cases hs
    · cases hs
      exact h.finAck

/-- The options of a whole CONNECT leave the receive queue alone. -/
lemma parseOptions_reads {stream opts : Bytes} (h : Reads stream delivered s)
    (hopts : CTL_CONNECT :: opts = connectBytes scale) (ho : s.parseOptions env opts = .ok t) :
    Reads stream delivered t := by
  obtain rfl : opts = (connectBytes scale).tail := congrArg List.tail hopts
  rw [parseOptions_connectBytes] at ho
  obtain rfl := Except.ok.inj ho
  exact h.of_incoming rfl h.finAck.symm

/-- Every step of a call other than `recv` follows the stream. -/
lemma CallStep.reads (hlong : 7 + accepted.length + 1 < 2147483648)
    (hpiece : ∀ seg, op.segment = some seg → Piece 7 (streamOf scale accepted) seg)
    (hwhole : ∀ seg, op.segment = some seg → seg.flags.has FLAG_CTL = true → seg.data ≠ [] →
      seg.data.length = 7)
    (hop : ∀ len, op ≠ .recv len) (hresize : ∀ size, op = .setRcvBuf size → s.rcvNxt = 0)
    (hbounded : s.toIncoming.Bounded) (h : Reads (streamOf scale accepted) delivered s)
    (hstep : CallStep env op s s') : Reads (streamOf scale accepted) delivered s' := by
  have hcore {u v : PseudoTcpSocket} (hu : Reads (streamOf scale accepted) delivered u)
      (hc : v.core = u.core) : Reads (streamOf scale accepted) delivered v :=
    hu.of_incoming (core_incoming hc) (core_supportFinAck hc)
  have hconnect {seg : Segment} {opts : Bytes} {u : PseudoTcpSocket}
      (hseg : op.segment = some seg) (hctl : seg.flags.has FLAG_CTL = true)
      (hdata : seg.data = CTL_CONNECT :: opts) (ho : s.parseOptions env opts = .ok u) :
      Reads (streamOf scale accepted) delivered u := by
    have hlen := hwhole seg hseg hctl (by rw [hdata]; simp)
    exact parseOptions_reads h (hdata.symm.trans (piece_connect (hpiece seg hseg) hctl hlen)) ho
  cases hstep with
  | note hs => exact h.of_incoming (congrArg (·.toIncoming) hs) (congrArg (·.supportFinAck) hs)
  | attempt _ ha => exact hcore h (attemptSend_core ha).1
  | retransmit ha => exact hcore h ((transmitHead_steps _ _ _).of_ok ha).core_eq
  | packet _ ha => exact hcore h (core_of_quiet (packet_ok ha).1)
  | connect _ _ hq =>
      have hframe := queueConnectMessage_frame hq
      exact h.of_incoming (congrArg (·.toIncoming) hframe) (congrArg (·.supportFinAck) hframe)
  | accept hseg hctl hdata _ ho hq =>
      have hframe := queueConnectMessage_frame hq
      exact (hconnect hseg hctl hdata ho).of_incoming (congrArg (·.toIncoming) hframe)
        (congrArg (·.supportFinAck) hframe)
  | opened hseg hctl hdata _ ho => exact (hconnect hseg hctl hdata ho).of_incoming rfl rfl
  | options hseg hctl hdata _ ho => exact hconnect hseg hctl hdata ho
  | send _ _ hq =>
      have hframe := queue_frame hq
      exact h.of_incoming (congrArg (·.toIncoming) hframe) (congrArg (·.supportFinAck) hframe)
  | finish _ hq ha =>
      have hframe := queueFinMessage_frame hq
      have hsent := hcore (h.of_incoming (congrArg (·.toIncoming) hframe)
        (congrArg (·.supportFinAck) hframe)) (attemptSend_core ha).1
      exact hsent.of_incoming rfl rfl
  | finAgain _ _ hq ha =>
      have hframe := queueFinMessage_frame hq
      exact hcore (h.of_incoming (congrArg (·.toIncoming) hframe)
        (congrArg (·.supportFinAck) hframe)) (attemptSend_core ha).1
  | @closedown source t hclose =>
      have ht : Reads (streamOf scale accepted) delivered t := by
        cases hclose with
        | byPeer => exact h
        | withoutRst => exact h.of_incoming rfl rfl
        | withRst _ hq ha =>
            have hframe := queueRstMessage_frame hq
            exact hcore (h.of_incoming (congrArg (·.toIncoming) hframe)
              (congrArg (·.supportFinAck) hframe)) (attemptSend_core ha).1
      exact ht.of_incoming rfl rfl
  | confirmed | shutdown | shutdownReads | closed | fin | acked | window | setSndBuf =>
      exact h.of_incoming rfl rfl
  | read hrecv | openWindow hrecv => exact absurd hrecv (hop _)
  | @setRcvBuf size _ hset _ hr =>
      exact resizeReceiveBuffer_reads (by simpa using hlong) h hbounded (max_one_pos size)
        (hresize size hset) hr

/-- A call other than `recv` follows the stream, and takes nothing of it back. -/
theorem Called.reads (hlong : 7 + accepted.length + 1 < 2147483648)
    (hpiece : ∀ seg, op.segment = some seg → Piece 7 (streamOf scale accepted) seg)
    (horderly : s.Orderly op) (hop : ∀ len, op ≠ .recv len) (hbounded : s.toIncoming.Bounded)
    (h : Reads (streamOf scale accepted) delivered s) (hcall : Called env op s s') :
    Reads (streamOf scale accepted) delivered s' ∧ s.rcvNxt.toNat ≤ s'.rcvNxt.toNat := by
  have hsteps {t : PseudoTcpSocket} (ht : CallSteps env op s t) :
      t.toIncoming.Bounded ∧ Reads (streamOf scale accepted) delivered t ∧
        t.rcvNxt = s.rcvNxt := by
    refine ht.invariant (I := fun t => t.toIncoming.Bounded ∧
      Reads (streamOf scale accepted) delivered t ∧ t.rcvNxt = s.rcvNxt) ⟨hbounded, h, rfl⟩ ?_
    rintro u v ⟨hub, hu, hnxt⟩ hstep
    have hv := hstep.reads hlong hpiece horderly.whole hop
      (fun size hsize => hnxt.trans (horderly.resize size hsize)) hub hu
    exact ⟨hstep.bounded hub, hv, hstep.answers.nxt.trans hnxt⟩
  rcases hcall with hall | ⟨seg, t, hseg, -, ht, ⟨r, sflags, b, v, hr, hv, hs'⟩⟩
  · obtain ⟨-, hreads, hnxt⟩ := hsteps hall
    exact ⟨hreads, hnxt ▸ le_rfl⟩
  · obtain ⟨-, hreads, hnxt⟩ := hsteps ht
    obtain ⟨n, fins, hfollows⟩ := hreads.queue
    have hle := hfollows.le
    have hfins := hfollows.fin
    rw [streamOf_length] at hle hfins
    have hcount : s.rcvNxt.toNat = n + fins := by
      rw [← hnxt, show t.rcvNxt = _ from hfollows.nxt, toNat_ofNat_of_lt (by omega)]
    have hignore : t.ignoresData seg = seg.flags.has FLAG_CTL := by
      simp [ignoresData, hreads.finAck]
    have hlate (hctl : seg.flags.has FLAG_CTL = false) (hdata : seg.data ≠ []) :
        7 ≤ n + fins := by
      have := horderly.late seg hseg hctl hdata
      omega
    obtain ⟨n', fins', hmore, hr'⟩ := (Incoming.receive_follows (by simpa using hlong) hfollows
      (hpiece seg hseg) hignore hlate t.ackDelay).of_ok hr
    have hin : s'.toIncoming = r :=
      (congrArg (·.toIncoming) hs').trans (core_incoming (attemptSend_core hv).1)
    have hfin : s'.supportFinAck = t.supportFinAck :=
      (congrArg (·.supportFinAck) hs').trans (core_supportFinAck (attemptSend_core hv).1)
    have hle' := hr'.le
    have hfins' := hr'.fin
    rw [streamOf_length] at hle' hfins'
    have hcount' : s'.rcvNxt.toNat = n' + fins' := by
      rw [show s'.rcvNxt = _ from (congrArg Incoming.rcvNxt hin).trans hr'.nxt,
        toNat_ofNat_of_lt (by omega)]
    exact ⟨⟨⟨n', fins', hin ▸ hr'⟩, hfin.trans hreads.finAck⟩, by omega⟩

/-- Only `recv` returns bytes. -/
lemma call_bytes {ret : Ret} (hop : ∀ len, op ≠ .recv len) (hcall : s.call env op = .ok (s', ret)) :
    ret.bytes = [] := by
  cases op with
  | recv len => exact absurd rfl (hop len)
  | notifyMtu | setSndBuf =>
      obtain ⟨-, rfl⟩ := Prod.mk.inj (Except.ok.inj hcall)
      rfl
  | connect | send | getNextClock | notifyPacket | shutdown | close | notifyClock | setRcvBuf =>
      obtain ⟨_, -, hret⟩ := bind_eq_ok.mp hcall
      obtain ⟨-, rfl⟩ := Prod.mk.inj (Except.ok.inj hret)
      rfl

/-- **Every orderly call follows the stream**: what it returns is what comes next of it. -/
theorem call_reads (hlong : 7 + accepted.length + 1 < 2147483648) {ret : Ret}
    (hpiece : ∀ seg, op.segment = some seg → Piece 7 (streamOf scale accepted) seg)
    (horderly : s.Orderly op) (hbounded : s.toIncoming.Bounded)
    (h : Reads (streamOf scale accepted) delivered s) (hcall : s.call env op = .ok (s', ret)) :
    Reads (streamOf scale accepted) (delivered ++ ret.bytes) s' ∧
      s.rcvNxt.toNat ≤ s'.rcvNxt.toNat := by
  have hcalled := (s.call_called env op).of_ok hcall
  by_cases hop : ∃ len, op = .recv len
  · obtain ⟨len, rfl⟩ := hop
    obtain ⟨⟨t, v, bytes⟩, hrecv, hret⟩ := bind_eq_ok.mp hcall
    obtain ⟨rfl, rfl⟩ := Prod.mk.inj (Except.ok.inj hret)
    exact ⟨recv_reads h hrecv, by rw [hcalled.answers.2.2 rfl]⟩
  · rw [call_bytes (fun len hlen => hop ⟨len, hlen⟩) hcall, List.append_nil]
    exact Called.reads hlong hpiece horderly (fun len hlen => hop ⟨len, hlen⟩) hbounded h hcalled

end PseudoTcpSocket

end LibNice.PseudoTcp
