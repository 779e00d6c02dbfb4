import LibNice.PseudoTcp.ReceiveWindow

/-!
The receive buffer.

* `Incoming.Bounded`: its position is inside its block, its data fit, and its size has 32 bits.
* `CallStep.bounded`, `Called.bounded`: every call keeps this.
* `run_bounded`: **the receive buffer is bounded** in every run of a new socket.
-/

namespace LibNice.PseudoTcp

open LibNice.Foundation

/-! ### The receive queue -/

namespace Incoming

variable {r : Incoming} {seg : Segment} {sflags : SendFlags}

/-- The bounds of a receive buffer. -/
structure Bounded (r : Incoming) : Prop where
  wf : r.rbuf.Wf
  size : r.rbuf.bufferLength < 2 ^ 32

lemma Bounded.of_eq {r' : Incoming} (h : r.Bounded) (hbuf : r'.rbuf = r.rbuf) : r'.Bounded :=
  ⟨hbuf ▸ h.wf, hbuf ▸ h.size⟩

/-- Bytes that become part of the data. -/
lemma Bounded.take {r' : Incoming} (h : r.Bounded) {n : ℕ}
    (hbuf : r.rbuf.consumeWriteBuffer n = .ok r'.rbuf) : r'.Bounded := by
  refine ⟨PseudoTcpFifo.consumeWriteBuffer_wf h.wf hbuf, ?_⟩
  obtain ⟨-, heq⟩ := PseudoTcpFifo.consumeWriteBuffer_eq_ok.mp hbuf
  rw [heq]
  exact h.size

lemma recoverLoop_bounded (sflags : SendFlags) (rlist : List RSegment) (r : Incoming)
    (h : r.Bounded) :
    Post (fun _ => True) (fun p => p.1.Bounded) (r.recoverLoop sflags rlist) := by
  induction rlist generalizing r sflags with
  | nil => exact Post.ok (h.of_eq rfl)
  | cons e rlist ih =>
      unfold recoverLoop
      refine Post.ite (fun _ => Post.ite (fun _ => ?_) fun _ => ih _ _ h) fun _ =>
        Post.ok (h.of_eq rfl)
      exact Post.bind (Post.of_forall fun _ hb => hb) fun b hb => ih _ _ (h.take hb)

lemma receiveData_bounded (h : r.Bounded) (seq : UInt32) (data : Bytes) (sflags : SendFlags) :
    Post (fun _ => True) (fun p => p.1.Bounded) (r.receiveData seq data sflags) := by
  unfold receiveData
  have hwrite : Bounded { r with rbuf := (r.rbuf.writeOffset data (seq - r.rcvNxt).toNat).1 } := by
    refine ⟨PseudoTcpFifo.writeOffset_wf h.wf _ _, ?_⟩
    rw [PseudoTcpFifo.writeOffset_bufferLength]
    exact h.size
  dsimp only
  refine Post.ite (fun _ => Post.error trivial) fun _ => Post.ite (fun _ => ?_) fun _ =>
    Post.ok (hwrite.of_eq rfl)
  refine Post.bind (Post.of_forall fun _ hb => hb) fun b hb => ?_
  exact Post.bind (recoverLoop_bounded _ _ _ (hwrite.take hb)) fun p hp => Post.pure hp

/-- **The receive queue keeps the bounds.** -/
lemma receive_bounded (h : r.Bounded) (ackDelay : UInt32) (ignoreData : Bool) (seg : Segment) :
    Post (fun _ => True) (fun p => p.1.Bounded) (r.receive ackDelay ignoreData seg) := by
  unfold receive
  have hack : (r.ackFlags ackDelay seg).1.Bounded := by
    unfold ackFlags
    split
    · exact h
    · split
      · split <;> exact h
      · split
        · exact h.of_eq rfl
        · exact h
  generalize r.ackFlags ackDelay seg = p at hack
  obtain ⟨r₁, sflags⟩ := p
  dsimp only at hack ⊢
  refine Post.ite (fun _ => Post.ite (fun _ => Post.ok (hack.of_eq rfl)) fun _ => Post.ok hack)
    fun _ => Post.ite (fun _ => Post.ite (fun _ => ?_) fun _ => receiveData_bounded hack _ _ _)
      fun _ => Post.ok hack
  exact Post.ite (fun _ => Post.ok (hack.of_eq rfl)) fun _ => Post.ok hack

end Incoming

/-! ### Calls -/

namespace PseudoTcpSocket

open Incoming

variable {env : Env} {op : Op} {s s' t : PseudoTcpSocket}

lemma resizeReceiveBuffer_bounded {size : UInt32} (h : s.toIncoming.Bounded) (h0 : 0 < size)
    (hs : s.resizeReceiveBuffer env size = .ok s') : s'.toIncoming.Bounded := by
  obtain ⟨-, hpos⟩ := roundedSize_spec size
  have hpos' := hpos (UInt32.lt_iff_toNat_lt.mp h0)
  unfold roundedSize at hpos'
  unfold resizeReceiveBuffer at hs
  split at hs
  · cases hs
    exact h
  · generalize scaleFactor 32 size = p at hs hpos'
    obtain ⟨scale, size'⟩ := p
    dsimp only at hs hpos'
    have hlt := (size' <<< scale.toUInt32).toNat_lt
    generalize (size' <<< scale.toUInt32) = new at hs hpos' hlt
    rcases Nat.lt_or_ge new.toNat s.rbuf.dataLength with hgt | hle
    · rw [PseudoTcpFifo.setCapacity_of_gt hgt] at hs
      cases hs
    · obtain ⟨b, hb, hwf, -, -, hcap⟩ :=
        PseudoTcpFifo.setCapacity_of_le env.memory h.wf hle hpos'
      rw [hb] at hs
      cases hs
      refine ⟨hwf, ?_⟩
      rw [hcap]
      split
      · exact h.size
      · exact hlt

lemma parseOptions_bounded {opts : Bytes} (h : s.toIncoming.Bounded)
    (ho : s.parseOptions env opts = .ok t) : t.toIncoming.Bounded := by
  rcases parseOptions_incoming ho with hin | ⟨-, -, -, u, v, hu, hv, hin⟩
  · exact hin ▸ h
  · exact hin ▸ resizeReceiveBuffer_bounded (hu ▸ h) (by decide) hv

/-- Every step of a call keeps the bounds. -/
lemma CallStep.bounded (h : s.toIncoming.Bounded) (hstep : CallStep env op s s') :
    s'.toIncoming.Bounded := by
  have hkeeps {t u : PseudoTcpSocket} (ht : t.toIncoming.Bounded)
      (hin : u.toIncoming = t.toIncoming) : u.toIncoming.Bounded := hin ▸ ht
  cases hstep with
  | note hs => exact hkeeps h (congrArg (·.toIncoming) hs)
  | attempt _ ha => exact hkeeps h (core_incoming (attemptSend_core ha).1)
  | retransmit ha => exact hkeeps h (core_incoming ((transmitHead_steps _ _ _).of_ok ha).core_eq)
  | packet _ ha => exact hkeeps h (core_incoming (core_of_quiet (packet_ok ha).1))
  | connect _ _ hq => exact hkeeps h (congrArg (·.toIncoming) (queueConnectMessage_frame hq))
  | accept _ _ _ _ ho hq =>
      exact hkeeps (parseOptions_bounded h ho)
        (congrArg (·.toIncoming) (queueConnectMessage_frame hq))
  | opened _ _ _ _ ho => exact hkeeps (parseOptions_bounded h ho) rfl
  | options _ _ _ _ ho => exact parseOptions_bounded h ho
  | send _ _ hq => exact hkeeps h (congrArg (·.toIncoming) (queue_frame hq))
  | finish _ hq ha =>
      exact hkeeps h ((core_incoming (attemptSend_core ha).1).trans
        (congrArg (·.toIncoming) (queueFinMessage_frame hq)))
  | finAgain _ _ hq ha =>
      exact hkeeps h ((core_incoming (attemptSend_core ha).1).trans
        (congrArg (·.toIncoming) (queueFinMessage_frame hq)))
  | @closedown source t hclose =>
      refine hkeeps h (Eq.trans rfl (?_ : t.toIncoming = s.toIncoming))
      cases hclose with
      | byPeer => rfl
      | withoutRst => rfl
      | withRst _ hq ha =>
          exact (core_incoming (attemptSend_core ha).1).trans
            (congrArg (·.toIncoming) (queueRstMessage_frame hq))
  | confirmed | shutdown | shutdownReads | closed | fin | acked | window | setSndBuf => exact h
  | @read len =>
      obtain ⟨b, hread, hcons⟩ := PseudoTcpFifo.read_eq h.wf len
      refine ⟨?_, ?_⟩
      · rw [hread]
        exact PseudoTcpFifo.consumeReadData_wf h.wf hcons
      · exact h.size
  | openWindow => exact h.of_eq rfl
  | @setRcvBuf size _ _ _ hr => exact resizeReceiveBuffer_bounded h (max_one_pos size) hr

/-- A call keeps the bounds. -/
lemma Called.bounded (h : s.toIncoming.Bounded) (hcall : Called env op s s') :
    s'.toIncoming.Bounded := by
  have hsteps {t : PseudoTcpSocket} (ht : CallSteps env op s t) : t.toIncoming.Bounded :=
    ht.invariant h fun _ _ hu hstep => hstep.bounded hu
  rcases hcall with hall | ⟨seg, t, -, -, ht, ⟨r, sflags, b, v, hr, hv, hs'⟩⟩
  · exact hsteps hall
  · have hr' : r.Bounded := (receive_bounded (hsteps ht) _ _ _).of_ok hr
    have hin : s'.toIncoming = r :=
      (congrArg (·.toIncoming) hs').trans (core_incoming (attemptSend_core hv).1)
    exact hin ▸ hr'

end PseudoTcpSocket

open PseudoTcpSocket

/-- **The receive buffer is bounded** in every run of a new socket. -/
theorem run_bounded {conversation : UInt32} {supportFinAck : Bool} {rmemory smemory : ℕ → UInt8}
    {es : List Event} {s : PseudoTcpSocket}
    (h : Run Step (pseudoTcpSocketNew conversation supportFinAck rmemory smemory) es s) :
    s.toIncoming.Bounded :=
  run_invariant (I := fun t => t.toIncoming.Bounded) (fun _ _ _ _ ht hc => hc.bounded ht)
    ⟨PseudoTcpFifo.init_wf (by decide), show DEFAULT_RCV_BUF_SIZE.toNat < 2 ^ 32 by decide⟩ h

end LibNice.PseudoTcp
