import LibNice.PseudoTcp.SendQueue

/-!
The send window.

* `parse_packetBytes`: what `parse` reads in a packet of `packet`.
* `Wrote`: the packets that a part of a call writes.
* `usable_le`: `attempt_send` finds no more room than the window of the peer leaves.
* `Attempts`: the calls of `attempt_send` that a call makes.
* `attempts_in_window`: **what `attempt_send` transmits ends inside the window of the
  peer**, unless it flushes the queue for a FIN or an RST.
* `flush_ignores_window`: the flush does not look at the window.
-/

namespace LibNice.PseudoTcp

open LibNice.Foundation

namespace PseudoTcpSocket

variable {env : Env} {op : Op} {s s' t t' u : PseudoTcpSocket} {g : SSegment}

/-! ### Packets -/

/-- The segment in a packet of the socket with the given header fields and payload. -/
def segmentOf (s : PseudoTcpSocket) (seq : UInt32) (flags : TcpFlags) (offset len : ℕ)
    (now : UInt32) : Segment :=
  { conv := s.conv
    seq
    ack := s.rcvNxt
    flags
    wnd := UInt16.ofNat ((s.rcvWnd >>> s.rwndScale.toUInt32).toNat % 65536)
    data := if len = 0 then [] else s.sbuf.readOffset len offset
    tsval := now
    tsecr := s.tsRecent }

/-- A packet is read as it was written. -/
lemma parse_packetBytes (s : PseudoTcpSocket) (seq : UInt32) (flags : TcpFlags) (offset len : ℕ)
    (now : UInt32) :
    parse (s.packetBytes seq flags offset len now) =
      some (s.segmentOf seq flags offset len now) := by
  simp only [packetBytes, header, be32, be16, List.cons_append, List.nil_append, parse, segmentOf,
    word16_be16, word32_be32]

/-- The packets written on the way from one socket to another have segments in `Q`. -/
def Wrote (Q : Segment → Prop) (s s' : PseudoTcpSocket) : Prop :=
  ∃ added, s'.wire = s.wire ++ added ∧ ∀ p ∈ added, ∀ seg, parse p = some seg → Q seg

variable {Q : Segment → Prop}

lemma Wrote.of_eq (h : s'.wire = s.wire) : Wrote Q s s' := ⟨[], by simpa using h, by simp⟩

lemma Wrote.trans (h : Wrote Q s t) (h' : Wrote Q t u) : Wrote Q s u := by
  obtain ⟨added, hw, hq⟩ := h
  obtain ⟨added', hw', hq'⟩ := h'
  refine ⟨added ++ added', by rw [hw', hw, List.append_assoc], fun p hp => ?_⟩
  rcases List.mem_append.mp hp with hp | hp
  · exact hq p hp
  · exact hq' p hp

/-- `packet` writes its one segment. -/
lemma packet_wrote {seq : UInt32} {flags : TcpFlags} {offset len : ℕ} {now : UInt32}
    {r : PseudoTcpWriteResult} (h : s.packet env seq flags offset len now = .ok (s', r))
    (hq : Q (s.segmentOf seq flags offset len now)) : Wrote Q s s' := by
  refine ⟨[s.packetBytes seq flags offset len now], (packet_ok h).2.1, fun p hp seg hseg => ?_⟩
  rw [List.mem_singleton.mp hp, parse_packetBytes] at hseg
  cases hseg
  exact hq

lemma segmentOf_length (h : len ≠ 0 → (s.sbuf.readOffset len offset).length = len) {seq : UInt32}
    {flags : TcpFlags} {now : UInt32} :
    (s.segmentOf seq flags offset len now).data.length = len := by
  unfold segmentOf
  dsimp only
  split
  next h0 => simp [h0]
  next h0 => exact h h0

/-- Every packet for a segment has its sequence number, and not more than its bytes. -/
lemma writeSegment_wrote {seq : UInt32} {flags : TcpFlags} {now : UInt32} {n : ℕ} (fuel : ℕ)
    (s : PseudoTcpSocket) (m : ℕ) (hm : m ≤ n)
    (hq : ∀ seg : Segment, seg.seq = seq → seg.data.length ≤ n → Q seg) :
    Post (fun _ => True) (fun r => Wrote Q s r.1) (writeSegment env seq flags now fuel s m) := by
  induction fuel generalizing s m with
  | zero => exact Post.error trivial
  | succ fuel ih =>
      unfold writeSegment
      refine Post.ite (fun _ => Post.error trivial) fun _ => ?_
      cases hp : s.packet env seq flags (seq - s.sndUna).toNat m now with
      | error e => exact Post.error trivial
      | ok r =>
          obtain ⟨t, wres⟩ := r
          have ht : Wrote Q s t := by
            refine packet_wrote hp (hq _ rfl ?_)
            rw [segmentOf_length (packet_ok hp).2.2.2.1]
            exact hm
          dsimp only [bind, Except.bind]
          cases wres with
          | success => exact Post.pure ht
          | fail => exact Post.pure ht
          | tooLarge =>
              have hw := (lowerMss_core t m (PACKET_MAXIMUMS.drop (t.msslevel + 1))).2.2
              have hlt := fun u (hl : lowerMss t m (PACKET_MAXIMUMS.drop (t.msslevel + 1)) =
                (u, true)) => lowerMss_lt hl
              generalize lowerMss t m (PACKET_MAXIMUMS.drop (t.msslevel + 1)) = r at hw hlt
              obtain ⟨u, b⟩ := r
              have hu : Wrote Q s u := ht.trans (.of_eq hw)
              cases b with
              | false => exact Post.pure hu
              | true =>
                  have := hlt u rfl
                  exact (ih u u.mss.toNat (by omega)).imp fun _ h => hu.trans h

/-- Every packet of `transmit` has the sequence number of the segment, and not more than
its bytes. -/
lemma transmit_wrote {now : UInt32} (hg : s.slist.find? (·.addr = g.addr) = some g)
    (hq : ∀ seg : Segment, seg.seq = g.seq → seg.data.length ≤ g.len → Q seg) :
    Post (fun _ => True) (fun r => Wrote Q s r.1) (s.transmit env g.addr now) := by
  unfold transmit
  rw [hg]
  dsimp only
  refine Post.ite (fun _ => Post.ok (.of_eq rfl)) fun _ => ?_
  refine Post.bind (writeSegment_wrote _ s _ (min_le_left g.len s.mss.toNat) hq) ?_
  rintro ⟨t, _ | n⟩ ht
  · exact Post.pure ht
  · refine Post.bind (P := fun _ => True) (Post.of_forall fun _ _ => trivial) fun o _ =>
      Post.pure ?_
    exact ht.trans (.of_eq rfl)

/-! ### The room that `attempt_send` finds -/

/-- What `attempt_send` may send fits into the window, with what is in flight. -/
lemma usable_le (h : s.usable ≠ 0) :
    (s.sndNxt - s.sndUna).toNat + s.usable ≤ s.sndWnd.toNat := by
  unfold usable at h ⊢
  generalize (if s.dupAcks = 1 ∨ s.dupAcks = 2 then s.cwnd + s.dupAcks.toUInt32 * s.mss
    else s.cwnd) = cwnd at h ⊢
  have hwnd : (min s.sndWnd cwnd).toNat ≤ s.sndWnd.toNat := by
    change (if s.sndWnd ≤ cwnd then s.sndWnd else cwnd).toNat ≤ _
    split
    next => exact le_rfl
    next h =>
      rw [UInt32.le_iff_toNat_le] at h
      omega
  dsimp only at h ⊢
  generalize (min s.sndWnd cwnd).toNat = nWindow at h hwnd ⊢
  generalize (s.sndNxt - s.sndUna).toNat = nInFlight at h ⊢
  generalize (if s.sbuf.getBuffered < nInFlight then 0
    else min (s.sbuf.getBuffered - nInFlight) s.mss.toNat) = nAvailable at h ⊢
  by_cases hw : nInFlight < nWindow
  · rw [if_pos hw] at h ⊢
    by_cases ha : nAvailable > nWindow - nInFlight
    · rw [if_pos ha] at h ⊢
      by_cases hs : (nWindow - nInFlight) * 4 % 2 ^ 32 < nWindow
      · rw [if_pos hs] at h
        exact absurd rfl h
      · rw [if_neg hs]
        omega
    · rw [if_neg ha]
      omega
  · rw [if_neg hw] at h ⊢
    by_cases ha : nAvailable > 0
    · rw [if_pos ha] at h
      split at h <;> exact absurd rfl h
    · rw [if_neg ha] at h
      omega

/-! ### `attempt_send` -/

/-- The data of a segment end inside the window of the peer. -/
def EndsInWindow (s : PseudoTcpSocket) (seg : Segment) : Prop :=
  seg.data ≠ [] → (seg.seq - s.sndUna).toNat + seg.data.length ≤ s.sndWnd.toNat

/-- The first unsent segment with data starts at `snd_nxt`. -/
lemma Queued.head_seq {o : Outgoing} {isOpen : Prop} {sent post : List SSegment} {fins : ℕ}
    (h : Queued o isOpen sent (g :: post) fins) (hg : 0 < g.len) : g.seq = o.sndNxt := by
  have hf : fins = 0 := by
    by_contra h0
    have := h.fins_last (Nat.pos_of_ne_zero h0)
    rw [lens_cons] at this
    omega
  rcases h.segments.contiguous with hc | ⟨-, hc⟩
  · rw [h.nxt, hf, Nat.add_zero]
    exact (contiguous_append.mp hc).2.1
  · have := hc g (by simp)
    omega

/-- The segment that `attempt_send` transmits is the first unsent one, cut to the room. -/
lemma cutSegment_find {isOpen : Prop} {n : ℕ} {flush : Prop} [Decidable flush] (hflush : ¬ flush)
    (hs : QueuedIn isOpen s) (hg : s.slist.find? (·.addr = g.addr) = some g)
    (hu : s.unsentSlist.head? = some g.addr) :
    ∃ g', (s.cutSegment g n flush).slist.find? (·.addr = g'.addr) = some g' ∧
      g'.addr = g.addr ∧ g'.seq = g.seq ∧ g'.len ≤ n ∧ g'.len ≤ g.len := by
  obtain ⟨sent, unsent, fins, hq⟩ := hs
  obtain ⟨post, rfl⟩ := hq.head_unsent hg hu
  unfold cutSegment
  by_cases hlen : g.len > n
  · rw [if_pos ⟨hlen, hflush⟩]
    have hcut := hq.cut_unsent hlen.le
    refine ⟨headPart g n, ?_, rfl, rfl, le_rfl, hlen.le⟩
    rw [show ({ s with toOutgoing := splitSegment s.toOutgoing g n 0 } : PseudoTcpSocket).slist =
      (splitSegment s.toOutgoing g n 0).slist from rfl, hcut.slist]
    exact find_of_split hcut.segments.nodup
  · rw [if_neg fun h => hlen h.1]
    exact ⟨g, hg, rfl, rfl, by omega, le_rfl⟩

lemma attemptSendPass_wrote {isOpen : Prop} {sflags : SendFlags} (hs : QueuedIn isOpen s)
    (now : UInt32) (hflags : sflags ≠ .fin ∧ sflags ≠ .rst) :
    Post (fun _ => True)
      (fun r => Wrote s.EndsInWindow s r.1 ∧
        ∀ flags, r.2 = some flags → flags ≠ .fin ∧ flags ≠ .rst)
      (s.attemptSendPass env sflags now) := by
  have hflush : ¬ (sflags = .fin ∨ sflags = .rst) := fun h => h.elim hflags.1 hflags.2
  unfold attemptSendPass
  dsimp only
  refine Post.ite (fun _ => ?_) fun hsend => ?_
  · refine Post.ite (fun _ => Post.ok ⟨.of_eq rfl, by simp⟩) fun _ => ?_
    refine Post.ite (fun _ => ?_) fun _ => Post.ok ⟨.of_eq rfl, by simp⟩
    cases hp : s.packet env s.sndNxt FLAG_NONE 0 0 now with
    | error e => exact Post.error trivial
    | ok r => exact Post.pure ⟨packet_wrote hp fun h => absurd rfl h, by simp⟩
  · have huse : s.usable ≠ 0 := fun h0 => hsend ⟨h0, hflush⟩
    refine Post.ite (fun _ => Post.ok ⟨.of_eq rfl, by simp⟩) fun _ => ?_
    cases hu : s.unsentSlist with
    | nil => exact Post.ok ⟨.of_eq rfl, by simp⟩
    | cons a rest =>
        dsimp only
        cases hf : s.slist.find? (·.addr = a) with
        | none => exact Post.error trivial
        | some g =>
            have ha : g.addr = a := by simpa using List.find?_some hf
            subst ha
            have hhead : s.unsentSlist.head? = some g.addr := by rw [hu]; rfl
            obtain ⟨g', hg', haddr, hseq, hn, hle⟩ :=
              cutSegment_find (n := s.usable) hflush hs hf hhead
            have hq (seg : Segment) (h1 : seg.seq = g'.seq) (h2 : seg.data.length ≤ g'.len) :
                s.EndsInWindow seg := by
              intro hne
              have hpos := List.length_pos_of_ne_nil hne
              obtain ⟨sent, unsent, fins, hqueue⟩ := hs
              obtain ⟨post, rfl⟩ := hqueue.head_unsent hf hhead
              have hnxt := hqueue.head_seq (by omega : 0 < g.len)
              have := usable_le huse
              rw [h1, hseq, hnxt]
              omega
            have hcut :
                (s.cutSegment g s.usable (sflags = .fin ∨ sflags = .rst)).wire = s.wire := by
              unfold cutSegment
              split <;> rfl
            have htransmit := @transmit_wrote env _ _ _ now hg' hq
            rw [haddr] at htransmit
            refine Post.bind htransmit ?_
            rintro ⟨t, _ | _⟩ ht
            · exact Post.pure ⟨(Wrote.of_eq hcut).trans ht, by simp⟩
            · refine Post.pure ⟨(Wrote.of_eq hcut).trans ht, fun flags h => ?_⟩
              obtain rfl := Option.some.inj h
              split
              · exact ⟨by simp, by simp⟩
              · exact hflags

lemma endsInWindow_of_core (h : t.core = s.core) : t.EndsInWindow = s.EndsInWindow := by
  funext seg
  rw [EndsInWindow, EndsInWindow, core_sndUna h, core_sndWnd h]

lemma attemptSendLoop_wrote {isOpen : Prop} {sflags : SendFlags} (now : UInt32) (fuel : ℕ)
    (s : PseudoTcpSocket) (hs : QueuedIn isOpen s) (hflags : sflags ≠ .fin ∧ sflags ≠ .rst) :
    Post (fun _ => True) (fun t => Wrote s.EndsInWindow s t)
      (attemptSendLoop env now fuel s sflags) := by
  induction fuel generalizing s sflags with
  | zero => exact Post.error trivial
  | succ fuel ih =>
      unfold attemptSendLoop
      have hsteps := (attemptSendPass_steps env s sflags now).mono (fun _ _ => trivial) fun _ h => h
      refine Post.bind ((attemptSendPass_wrote hs now hflags).and hsteps |>.mono
        (fun _ h => h.1) fun _ h => h) ?_
      rintro ⟨t, _ | flags⟩ ⟨⟨ht, hnext⟩, hst⟩
      · exact Post.pure ht
      · refine (ih t (hst.queued hs) (hnext flags rfl)).imp fun u hu => ?_
        rw [endsInWindow_of_core hst.core_eq] at hu
        exact ht.trans hu

/-- What `attempt_send` transmits ends inside the window, unless it flushes the queue. -/
lemma attemptSend_wrote {isOpen : Prop} {sflags : SendFlags} {reading : UInt32}
    (hs : QueuedIn isOpen s) (hflags : sflags ≠ .fin ∧ sflags ≠ .rst)
    (h : s.attemptSend env sflags reading = .ok t) : Wrote s.EndsInWindow s t := by
  unfold attemptSend at h
  dsimp only at h
  split at h
  · exact (attemptSendLoop_wrote _ _ { s with cwnd := s.mss } (hs.of_eq rfl) hflags).of_ok h
  · exact (attemptSendLoop_wrote _ _ s hs hflags).of_ok h

/-! ### Runs -/

/-- A call of `op` comes to a call of `attempt_send` that takes one socket to another. -/
inductive Attempts (env : Env) (op : Op) (s : PseudoTcpSocket) :
    SendFlags → PseudoTcpSocket → PseudoTcpSocket → Prop
  /-- In `connect`, `send` and `recv`. -/
  | plain {sflags : SendFlags} {reading : UInt32} {t t' : PseudoTcpSocket}
      (h : CallSteps env op s t) (hflags : sflags ≠ .fin ∧ sflags ≠ .rst)
      (ha : t.attemptSend env sflags reading = .ok t') : Attempts env op s sflags t t'
  /-- At the end of `process`. -/
  | received {seg : Segment} {r : Incoming} {sflags : SendFlags} {b : Bool}
      {t t' : PseudoTcpSocket} (hseg : op.segment = some seg) (h : CallSteps env op s t)
      (hr : t.toIncoming.receive t.ackDelay (t.ignoresData seg) seg = .ok (r, sflags, b))
      (ha : attemptSend env { t with toIncoming := r } sflags (env.clock 1) = .ok t') :
      Attempts env op s sflags { t with toIncoming := r } t'
  /-- Behind a FIN. -/
  | fin {reading : UInt32} {t u t' : PseudoTcpSocket} (h : CallSteps env op s t)
      (hq : t.queueFinMessage = .ok u) (ha : u.attemptSend env .fin reading = .ok t') :
      Attempts env op s .fin u t'
  /-- Behind an RST. -/
  | rst {reading : UInt32} {t u t' : PseudoTcpSocket} (h : CallSteps env op s t)
      (hq : t.queueRstMessage = .ok u) (ha : u.attemptSend env .rst reading = .ok t') :
      Attempts env op s .rst u t'

lemma CallSteps.queued (hs : QueueInv s) (h : CallSteps env op s t) : QueueInv t :=
  h.invariant hs fun _ _ ht hstep => hstep.queued ht

end PseudoTcpSocket

open PseudoTcpSocket

/-- **The sender respects the window of the peer**: in every run of a new socket, every
data segment that `attempt_send` transmits ends at most `snd_wnd` behind `snd_una`, unless
it flushes the queue for a FIN or an RST. -/
theorem attempts_in_window (conversation : UInt32) (supportFinAck : Bool)
    (rmemory smemory : ℕ → UInt8) (es : List Event) (s t t' : PseudoTcpSocket) (env : Env) (op : Op)
    (sflags : SendFlags)
    (h : Run Step (pseudoTcpSocketNew conversation supportFinAck rmemory smemory) es s)
    (ha : Attempts env op s sflags t t') (hflags : sflags ≠ .fin ∧ sflags ≠ .rst) :
    ∃ added, t'.wire = t.wire ++ added ∧ ∀ p ∈ added, ∀ seg, parse p = some seg → seg.data ≠ [] →
      (seg.seq - t.sndUna).toNat + seg.data.length ≤ t.sndWnd.toNat := by
  have hs : QueueInv s := run_invariant (fun _ _ _ _ ht hc => hc.queued ht)
    (new_queued conversation supportFinAck rmemory smemory) h
  cases ha with
  | plain hst _ ha => exact attemptSend_wrote (hst.queued hs) hflags ha
  | @received seg r _ b t _ hseg hst hr ha =>
      have ht : QueueInv { t with toIncoming := r } := (hst.queued hs).of_eq rfl
      exact attemptSend_wrote ht hflags ha
  | fin => exact absurd rfl hflags.1
  | rst => exact absurd rfl hflags.2

/-- The surroundings of a sample run: a clock that stands still and a network that takes
every packet. -/
def calmEnv : Env := ⟨fun _ => 1000, fun _ => 0, fun _ _ => .success⟩

/-- The CONNECT of a peer that supports everything, with the given window, in answer to a
CONNECT of 7 bytes. -/
def connectReply (conv : UInt32) (wnd : UInt16) : Bytes :=
  be32 conv ++ be32 0 ++ be32 7 ++ [0, FLAG_CTL] ++ be16 wnd.toNat ++ be32 0 ++ be32 0 ++
    [CTL_CONNECT, TCP_OPT_WND_SCALE, 1, 0, TCP_OPT_FIN_ACK, 1, 0]

/-- The CONNECT of a new socket is inside the initial window. -/
theorem attempts_in_window_sample :
    let memory : ℕ → UInt8 := fun _ => 0
    ∃ t t', Attempts calmEnv .connect (pseudoTcpSocketNew 7 true memory memory) .none t t' ∧
      t'.wire.length = 1 ∧
      ∃ added, t'.wire = t.wire ++ added ∧ ∀ p ∈ added, ∀ seg, parse p = some seg →
        seg.data ≠ [] → (seg.seq - t.sndUna).toNat + seg.data.length ≤ t.sndWnd.toNat := by
  intro memory
  have hobs : (queueConnectMessage { pseudoTcpSocketNew 7 true (fun _ => 0) (fun _ => 0) with
      state := .synSent }).map (fun t => (t.attemptSend calmEnv .none 1000).map (·.wire.length)) =
        .ok (.ok 1) := by decide
  obtain ⟨t, ht, hobs⟩ := Post.exists_of_map hobs
  obtain ⟨t', ht', hlen⟩ := Post.exists_of_map hobs
  have ha : Attempts calmEnv .connect (pseudoTcpSocketNew 7 true memory memory) .none t t' :=
    .plain (CallStep.steps (.connect rfl rfl ht)) (by decide) ht'
  exact ⟨t, t', ha, hlen, attempts_in_window 7 true memory memory [] _ t t' calmEnv .connect .none
    .nil ha (by decide)⟩

/-- **The flush ignores the window**: a peer that answers with a window of 0 is sent a byte
when the socket is shut down. -/
theorem flush_ignores_window :
    let memory : ℕ → UInt8 := fun _ => 0
    ∃ es s t t', Run Step (pseudoTcpSocketNew 7 true memory memory) es s ∧
      s.call calmEnv (.shutdown .wr) = .ok ({ t' with state := .finWait1 }, {}) ∧
      Attempts calmEnv (.shutdown .wr) s .fin t t' ∧
      ¬ ∃ added, t'.wire = t.wire ++ added ∧ ∀ p ∈ added, ∀ seg, parse p = some seg →
        seg.data ≠ [] → (seg.seq - t.sndUna).toNat + seg.data.length ≤ t.sndWnd.toNat := by
  intro memory
  let calls : List (Env × Op) :=
    [(calmEnv, .connect), (calmEnv, .notifyPacket (connectReply 7 0)), (calmEnv, .send [42])]
  have hopen : ((pseudoTcpSocketNew 7 true (fun _ => 0) (fun _ => 0)).callAll calls).map
      (fun s => (s.supportFinAck, s.state, s.getAvailableBytes)) = .ok (true, .established, 0) := by
    decide +kernel
  have hsent : ((pseudoTcpSocketNew 7 true (fun _ => 0) (fun _ => 0)).callAll calls).map
      (fun s => s.queueFinMessage.map fun t => (t.attemptSend calmEnv .fin 1000).map fun t' =>
        (t.sndUna, t.sndWnd, (t'.wire.drop t.wire.length).head?.bind parse)) =
      .ok (.ok (.ok (7, 0, some {
        conv := 7, seq := 7, ack := 7, flags := 0, wnd := 61440, data := [42], tsval := 1000
        tsecr := 0 }))) := by
    decide +kernel
  obtain ⟨s, hs, hopen⟩ := Post.exists_of_map hopen
  obtain ⟨es, hrun⟩ := run_of_callAll hs
  rw [hs] at hsent
  obtain ⟨t, ht, hsent⟩ := Post.exists_of_map (Except.ok.inj hsent)
  obtain ⟨t', ht', hsent⟩ := Post.exists_of_map hsent
  simp only [Prod.mk.injEq] at hopen hsent
  obtain ⟨hsup, hst, hav⟩ := hopen
  obtain ⟨huna, hwnd, hseg⟩ := hsent
  refine ⟨es, s, t, t', hrun, ?_, .fin .refl ht ht', ?_⟩
  · have hst' : t'.state = .established :=
      ((attemptSend_core ht').2.trans (queueFinMessage_state ht)).trans hst
    have hset : t'.setState .finWait1 = .ok { t' with state := .finWait1 } :=
      setState_eq (.inr (by rw [hst']; rfl))
    have hcall : s.shutdownSocket calmEnv .wr = .ok { t' with state := .finWait1 } := by
      unfold shutdownSocket
      rw [if_neg (by simp [hsup]), if_pos rfl, if_neg (by decide), hst, ← hset]
      dsimp only
      rw [if_neg (by simp [hav]), ht]
      change (t.attemptSend calmEnv .fin 1000 >>= fun u => u.setState .finWait1) = _
      rw [ht']
      rfl
    rw [call, hcall]
    rfl
  · rintro ⟨added, hw, hall⟩
    rw [hw, List.drop_left] at hseg
    cases added with
    | nil => cases hseg
    | cons p added =>
        have hp := hall p List.mem_cons_self _ hseg (by decide)
        rw [huna, hwnd] at hp
        exact absurd hp (by decide)

end LibNice.PseudoTcp
