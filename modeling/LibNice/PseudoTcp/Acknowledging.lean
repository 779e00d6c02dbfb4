import LibNice.PseudoTcp.Window

/-!
What a socket acknowledges, and what is acknowledged to it.

* `SendSteps.acks`: a packet acknowledges what the socket has received in order.
* `Answers`: what a step of a call does to the two.
* `Called.answers`: **every packet of a call acknowledges what was received** before the call or
  after it, and only the segment that a call takes in acknowledges something to the socket.
-/

namespace LibNice.PseudoTcp

open LibNice.Foundation

namespace PseudoTcpSocket

variable {env : Env} {op : Op} {s s' t : PseudoTcpSocket}

lemma Wrote.mono {P Q : Segment → Prop} (h : Wrote P s t) (hpq : ∀ seg, P seg → Q seg) :
    Wrote Q s t :=
  let ⟨added, hw, hp⟩ := h
  ⟨added, hw, fun p hmem seg hseg => hpq seg (hp p hmem seg hseg)⟩

/-- Nothing that was written is taken back. -/
lemma Wrote.subset {Q : Segment → Prop} (h : Wrote Q s t) : s.wire ⊆ t.wire := by
  obtain ⟨added, hw, -⟩ := h
  rw [hw]
  exact List.subset_append_left _ _

/-! ### Sending -/

/-- A packet acknowledges what the socket has received in order. -/
lemma SendStep.acks (h : SendStep env s s') : Wrote (fun seg => seg.ack = s.rcvNxt) s s' := by
  cases h with
  | delayAck | restart | split => exact .of_eq rfl
  | lower n rest => exact .of_eq (lowerMss_core s n rest).2.2
  | ack _ hp => exact packet_wrote hp rfl
  | refused _ _ hp _ => exact packet_wrote hp rfl
  | @sent g n now s₁ o _ _ hp _ =>
      have hpacket : Wrote (fun seg => seg.ack = s.rcvNxt) s s₁ := packet_wrote hp rfl
      exact hpacket.trans (.of_eq rfl)

lemma SendSteps.acks (h : SendSteps env s s') : Wrote (fun seg => seg.ack = s.rcvNxt) s s' := by
  induction h with
  | refl => exact .of_eq rfl
  | tail hsteps hstep ih =>
      have hnxt := congrArg Incoming.rcvNxt (core_incoming (SendSteps.core_eq hsteps))
      exact ih.trans (hstep.acks.mono fun seg hack => hack.trans hnxt)

lemma attemptSend_acks {sflags : SendFlags} {reading : UInt32}
    (h : s.attemptSend env sflags reading = .ok t) : Wrote (fun seg => seg.ack = s.rcvNxt) s t :=
  ((attemptSend_steps env s sflags reading).of_ok h).acks

/-! ### Steps of calls -/

/-- What a step of a call acknowledges, and what is acknowledged in it. -/
structure Answers (op : Op) (s s' : PseudoTcpSocket) : Prop where
  nxt : s'.rcvNxt = s.rcvNxt
  acks : Wrote (fun seg => seg.ack = s.rcvNxt) s s'
  una : s'.sndUna = s.sndUna ∨ ∃ seg, op.segment = some seg ∧ s'.sndUna = seg.ack

namespace Answers

lemma of_eq (hnxt : s'.rcvNxt = s.rcvNxt) (hwire : s'.wire = s.wire)
    (huna : s'.sndUna = s.sndUna) : Answers op s s' :=
  ⟨hnxt, .of_eq hwire, .inl huna⟩

lemma trans (h : Answers op s t) (h' : Answers op t s') : Answers op s s' where
  nxt := h'.nxt.trans h.nxt
  acks := h.acks.trans (h'.acks.mono fun _ hack => hack.trans h.nxt)
  una := by
    rcases h'.una with huna | huna
    · rw [huna]
      exact h.una
    · exact .inr huna

/-- Sending changes neither. -/
lemma of_core (hcore : s'.core = s.core) (hacks : Wrote (fun seg => seg.ack = s.rcvNxt) s s') :
    Answers op s s' :=
  ⟨congrArg Incoming.rcvNxt (core_incoming hcore), hacks, .inl (core_sndUna hcore)⟩

lemma attempt {sflags : SendFlags} {reading : UInt32}
    (h : s.attemptSend env sflags reading = .ok t) : Answers op s t :=
  of_core (attemptSend_core h).1 (attemptSend_acks h)

/-- The options of a CONNECT. -/
lemma options {data : Bytes} (h : s.parseOptions env data = .ok t) : Answers op s t :=
  have hbeyond := parseOptions_beyond h
  .of_eq (congrArg (·.rcvNxt) hbeyond) (congrArg (·.wire) hbeyond) (congrArg (·.sndUna) hbeyond)

/-- What is queued is neither sent nor acknowledged. -/
lemma queue {data : Bytes} {flags : TcpFlags} {n : ℕ} (h : s.queue data flags = .ok (t, n)) :
    Answers op s t := by
  have hframe := queue_frame h
  refine .of_eq (congrArg (·.rcvNxt) hframe) (congrArg (·.wire) hframe) ?_
  unfold PseudoTcpSocket.queue at h
  dsimp only at h
  split at h
  · cases h
  · obtain ⟨rfl, -⟩ := Prod.mk.inj (Except.ok.inj h)
    unfold pushSegment pushSegment.newSegment
    split
    · split <;> rfl
    · rfl

lemma queueConnect (h : s.queueConnectMessage = .ok t) : Answers op s t := by
  unfold queueConnectMessage at h
  obtain ⟨⟨v, n⟩, hq, hret⟩ := bind_eq_ok.mp h
  obtain rfl := Except.ok.inj hret
  refine Answers.trans ?_ (queue hq)
  exact .of_eq rfl rfl rfl

lemma queueFin (h : s.queueFinMessage = .ok t) : Answers op s t :=
  let ⟨_, _, hq⟩ := queueFinMessage_eq h
  queue hq

lemma queueRst (h : s.queueRstMessage = .ok t) : Answers op s t :=
  let ⟨_, _, hq⟩ := queueRstMessage_eq h
  queue hq

end Answers

/-- A step of a call acknowledges what was received before it, and leaves that alone. -/
lemma CallStep.answers (h : CallStep env op s s') : Answers op s s' := by
  have hset {u : PseudoTcpSocket} {new : PseudoTcpState} (hu : Answers op s u) :
      Answers op s { u with state := new } := hu.trans (.of_eq rfl rfl rfl)
  cases h with
  | note hs =>
      exact .of_eq (congrArg (·.rcvNxt) hs) (congrArg (·.wire) hs) (congrArg (·.sndUna) hs)
  | attempt _ ha => exact .attempt ha
  | retransmit ha =>
      have hsteps := (transmitHead_steps _ _ _).of_ok ha
      exact .of_core hsteps.core_eq hsteps.acks
  | packet _ hp => exact .of_core (core_of_quiet (packet_ok hp).1) (packet_wrote hp rfl)
  | connect _ _ hq =>
      refine Answers.trans ?_ (.queueConnect hq)
      exact .of_eq rfl rfl rfl
  | accept _ _ _ _ ho hq => exact (hset (.options ho)).trans (.queueConnect hq)
  | opened _ _ _ _ ho => exact hset (.options ho)
  | options _ _ _ _ ho => exact .options ho
  | send _ _ hq => exact .queue hq
  | finish _ hq ha => exact hset ((Answers.queueFin hq).trans (.attempt ha))
  | finAgain _ _ hq ha => exact (Answers.queueFin hq).trans (.attempt ha)
  | @closedown source t hclose =>
      cases hclose with
      | byPeer | withoutRst => exact .of_eq rfl rfl rfl
      | withRst _ hq ha => exact hset ((Answers.queueRst hq).trans (.attempt ha))
  | confirmed | shutdown | shutdownReads | closed | fin | window | read | openWindow | setSndBuf =>
      exact .of_eq rfl rfl rfl
  | acked hseg => exact ⟨rfl, .of_eq rfl, .inr ⟨_, hseg, rfl⟩⟩
  | setRcvBuf _ _ hr =>
      have hbeyond := resizeReceiveBuffer_beyond hr
      exact .of_eq (congrArg (·.rcvNxt) hbeyond) (congrArg (·.wire) hbeyond)
        (congrArg (·.sndUna) hbeyond)

lemma CallSteps.answers (h : CallSteps env op s s') : Answers op s s' := by
  induction h with
  | refl => exact .of_eq rfl rfl rfl
  | tail _ hstep ih => exact ih.trans hstep.answers

/-! ### Calls -/

/-- **Every packet of a call acknowledges what was received in order** before the call or after it;
only the segment that the call takes in acknowledges something, and only the receipt of a segment
makes more of the stream received. -/
theorem Called.answers (h : Called env op s s') :
    Wrote (fun seg => seg.ack = s.rcvNxt ∨ seg.ack = s'.rcvNxt) s s' ∧
      (s'.sndUna = s.sndUna ∨ ∃ seg, op.segment = some seg ∧ s'.sndUna = seg.ack) ∧
      (op.segment = none → s'.rcvNxt = s.rcvNxt) := by
  rcases h with hsteps | ⟨seg, t, hseg, -, hsteps, ⟨r, sflags, b, v, -, ha, hs'⟩⟩
  · have hanswers := hsteps.answers
    exact ⟨hanswers.acks.mono fun _ => .inl, hanswers.una, fun _ => hanswers.nxt⟩
  · have hanswers := hsteps.answers
    have hcore := (attemptSend_core ha).1
    have hnxt : s'.rcvNxt = r.rcvNxt :=
      (congrArg (·.rcvNxt) hs').trans (congrArg Incoming.rcvNxt (core_incoming hcore))
    have hsent : Wrote (fun seg => seg.ack = s'.rcvNxt) t s' :=
      ((Wrote.of_eq rfl).trans ((attemptSend_acks ha).mono fun _ hack => hack.trans hnxt.symm)).trans
        (.of_eq (congrArg (·.wire) hs'))
    have huna : s'.sndUna = t.sndUna :=
      (congrArg (·.sndUna) hs').trans (core_sndUna hcore)
    refine ⟨(hanswers.acks.mono fun _ => .inl).trans (hsent.mono fun _ => .inr), ?_, ?_⟩
    · rw [huna]
      exact hanswers.una
    · rw [hseg]
      simp

end PseudoTcpSocket

end LibNice.PseudoTcp
