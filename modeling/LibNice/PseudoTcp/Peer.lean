import LibNice.PseudoTcp.States

/-!
What a socket keeps of its peer.

* `Peer`, `PseudoTcpSocket.peer`: the acknowledgements, the window and the options of the peer.
* `PseudoTcpSocket.process_peer`: a segment changes them only where `receiveControl` and
  `receiveAck` take it.
* `PseudoTcpSocket.call_peer`: no other call than `connect` changes them, and that one only the
  window.
-/

namespace LibNice.PseudoTcp

open LibNice.Foundation

/-- What a socket keeps of its peer. -/
structure Peer where
  sndUna : UInt32
  sndWnd : UInt32
  swndScale : UInt8
  supportFinAck : Bool
  dupAcks : UInt8
  recover : UInt32
deriving DecidableEq, Repr

namespace PseudoTcpSocket

variable {env : Env} {op : Op} {s s' t u : PseudoTcpSocket}

/-- What a socket keeps of its peer. -/
def peer (s : PseudoTcpSocket) : Peer :=
  { sndUna := s.sndUna
    sndWnd := s.sndWnd
    swndScale := s.swndScale
    supportFinAck := s.supportFinAck
    dupAcks := s.dupAcks
    recover := s.recover }

/-! ### Parts of calls -/

lemma core_peer (h : s'.core = s.core) : s'.peer = s.peer := congrArg (·.peer) h

lemma attemptSend_peer {sflags : SendFlags} {reading : UInt32}
    (h : s.attemptSend env sflags reading = .ok s') : s'.peer = s.peer :=
  core_peer (attemptSend_core h).1

lemma transmitHead_peer (env : Env) (s : PseudoTcpSocket) (now : UInt32) :
    Post (· ≠ .setState) (fun r => r.1.peer = s.peer ∧ r.1.state = s.state)
      (s.transmitHead env now) :=
  (transmitHead_steps env s now).imp fun _ h => ⟨core_peer h.core_eq, h.state_eq⟩

lemma packet_ack_peer (env : Env) (s : PseudoTcpSocket) {seq : UInt32} (now : UInt32)
    (hseq : seq = s.sndNxt ∨ seq = s.sndNxt - 1) :
    Post (· ≠ .setState) (fun r => r.1.peer = s.peer) (s.packet env seq FLAG_NONE 0 0 now) :=
  (packet_ack_steps env s now hseq).mono (fun _ h => h.elim) fun _ h => core_peer h.core_eq

/-- What is queued is not known to the peer yet. -/
lemma queue_peer {data : Bytes} {flags : TcpFlags} {n : ℕ}
    (h : s.queue data flags = .ok (t, n)) : t.peer = s.peer := by
  unfold queue at h
  dsimp only at h
  split at h
  · cases h
  · cases h
    unfold pushSegment pushSegment.newSegment
    split
    · split <;> rfl
    · rfl

lemma queueFinMessage_peer (h : s.queueFinMessage = .ok t) : t.peer = s.peer :=
  let ⟨_, _, hq⟩ := queueFinMessage_eq h
  queue_peer hq

lemma queueRstMessage_peer (h : s.queueRstMessage = .ok t) : t.peer = s.peer :=
  let ⟨_, _, hq⟩ := queueRstMessage_eq h
  queue_peer hq

/-- A CONNECT message changes the window. -/
lemma queueConnectMessage_peer (h : s.queueConnectMessage = .ok t) :
    t.peer = { s.peer with sndWnd := UInt32.ofNat s.connectMessage.length } := by
  unfold queueConnectMessage at h
  obtain ⟨⟨u, n⟩, hq, h⟩ := bind_eq_ok.mp h
  cases h
  exact queue_peer hq

lemma queueConnectMessage_sndNxt (h : s.queueConnectMessage = .ok t) : t.sndNxt = s.sndNxt := by
  unfold queueConnectMessage at h
  obtain ⟨⟨u, n⟩, hq, h⟩ := bind_eq_ok.mp h
  cases h
  unfold queue at hq
  dsimp only at hq
  split at hq
  · cases hq
  · cases hq
    unfold pushSegment pushSegment.newSegment
    split
    · split <;> rfl
    · rfl

lemma closedown_peer (env : Env) (s : PseudoTcpSocket) (err : Option Errno)
    (source : ClosedownSource) (reading : UInt32) :
    Post (· ≠ .setState) (fun t => t.peer = s.peer) (s.closedown env err source reading) := by
  refine (closedown_post env s err source reading).imp ?_
  rintro _ ⟨t, ht, rfl⟩
  cases ht with
  | byPeer => rfl
  | withoutRst => rfl
  | withRst _ hq ha => exact (attemptSend_peer ha).trans (queueRstMessage_peer hq)

lemma openOnSegment_peer (s : PseudoTcpSocket) (bConnect : Bool) :
    Post (· ≠ .setState) (fun t => t.peer = s.peer) (s.openOnSegment bConnect) := by
  unfold openOnSegment
  refine Post.ite (fun h => ?_) fun _ => Post.ok rfl
  rw [setStateEstablished_eq (.inr h.1)]
  exact Post.ok rfl

lemma receiveFin_peer (s : PseudoTcpSocket) (seg : Segment) (isFinAck : Bool) :
    Post (· ≠ .setState) (fun r => r.1.peer = s.peer) (s.receiveFin seg isFinAck) := by
  unfold receiveFin
  refine Post.ite (fun _ => ?_) fun _ => Post.ok rfl
  refine Post.ite (fun _ => Post.ok rfl) fun _ => ?_
  split
  next => exact Post.ok rfl
  next h =>
    rw [setStateClosed_eq (.inr (finTransition_valid h).1)]
    exact Post.ok rfl
  next h =>
    rw [setState_eq (.inr (finTransition_valid h).1)]
    exact Post.ok rfl

lemma notifyWritable_peer (s : PseudoTcpSocket) : s.notifyWritable.peer = s.peer := by
  unfold notifyWritable
  dsimp only
  split <;> rfl

lemma updateTimestamp_peer (s : PseudoTcpSocket) (seg : Segment) :
    (s.updateTimestamp seg).peer = s.peer := by
  unfold updateTimestamp
  split <;> rfl

lemma toIncoming_peer (s : PseudoTcpSocket) (r : Incoming) :
    ({ s with toIncoming := r } : PseudoTcpSocket).peer = s.peer := rfl

lemma receiveData_peer (env : Env) (s : PseudoTcpSocket) (seg : Segment) :
    Post (· ≠ .setState) (fun t => t.peer = s.peer) (s.receiveData env seg) := by
  unfold receiveData
  refine Post.bind (receive_error _ _ _ _) fun r _ => ?_
  refine Post.bind (attemptSend_steps env _ _ _).eq_ok fun t ht => Post.pure ?_
  have htpeer := (attemptSend_peer ht).trans (toIncoming_peer s r.1)
  split
  · exact htpeer
  · exact htpeer

/-! ### Acknowledgements -/

/-- The window of a segment. -/
def windowOf (s : PseudoTcpSocket) (seg : Segment) : UInt32 :=
  seg.wnd.toUInt32 <<< s.swndScale.toUInt32

/-- What an acknowledgement leaves of what the socket keeps of its peer. -/
inductive Acknowledged (s : PseudoTcpSocket) (seg : Segment) : Peer → Prop
  | ignored (hack : seg.ack ≠ s.sndUna) : Acknowledged s seg s.peer
  /-- New data is acknowledged; recovery ends at `recover`. -/
  | valuable (hlarger : larger seg.ack s.sndUna = true) :
      Acknowledged s seg { s.peer with
        sndUna := seg.ack
        sndWnd := s.windowOf seg
        dupAcks := if s.dupAcks ≥ 3 ∧ ¬ largerOrEqual seg.ack s.recover then s.dupAcks else 0 }
  /-- A duplicate with data. -/
  | window (hack : seg.ack = s.sndUna) (hdata : seg.data ≠ []) :
      Acknowledged s seg { s.peer with sndWnd := s.windowOf seg }
  /-- A duplicate when nothing is on the way. -/
  | idle (hack : seg.ack = s.sndUna) (hdata : seg.data = []) (heq : s.sndUna = s.sndNxt) :
      Acknowledged s seg { s.peer with sndWnd := s.windowOf seg, dupAcks := 0 }
  /-- A duplicate that counts; the third one starts recovery. -/
  | counted (recover : UInt32) (hack : seg.ack = s.sndUna) (hdata : seg.data = [])
      (hne : s.sndUna ≠ s.sndNxt) (hrecover : s.dupAcks + 1 ≠ 3 → recover = s.recover) :
      Acknowledged s seg { s.peer with
        sndWnd := s.windowOf seg, dupAcks := s.dupAcks + 1, recover }

lemma congestionAcked_peer (env : Env) (s : PseudoTcpSocket) (nAcked : ℕ) (now : UInt32) :
    Post (· ≠ .setState) (fun r => r.1.peer = { s.peer with
        dupAcks := if s.dupAcks ≥ 3 ∧ ¬ largerOrEqual s.sndUna s.recover then s.dupAcks else 0 })
      (s.congestionAcked env nAcked now) := by
  unfold congestionAcked
  refine Post.ite (fun hthree => ?_) fun hthree => ?_
  · refine Post.ite (fun hrecover => ?_) fun hrecover => ?_
    · rw [if_neg (by simp [hrecover])]
      exact Post.ok rfl
    · rw [if_pos ⟨hthree, hrecover⟩]
      refine Post.bind (transmitHead_peer env s now) ?_
      rintro ⟨t, _ | _⟩ ⟨ht, -⟩
      · exact Post.pure ht
      · exact Post.pure ht
  · rw [if_neg (fun h => hthree h.1)]
    refine Post.ite (fun _ => Post.ok rfl) fun _ => ?_
    exact Post.ite (fun _ => Post.error (by simp)) fun _ => Post.ok rfl

lemma valuableAck_peer (env : Env) (s : PseudoTcpSocket) (seg : Segment) (now : UInt32) :
    Post (· ≠ .setState) (fun r => r.1.peer = { s.peer with
        sndUna := seg.ack
        sndWnd := s.windowOf seg
        dupAcks := if s.dupAcks ≥ 3 ∧ ¬ largerOrEqual seg.ack s.recover then s.dupAcks else 0 })
      (s.valuableAck env seg now) := by
  unfold valuableAck
  refine Post.bind (consumeReadData_post _ _ (by simp)) fun sbuf _ => ?_
  refine Post.bind (freeAcked_post _ _ _) fun fr _ => ?_
  exact Post.bind (congestionAcked_peer env _ _ _) fun r h => Post.pure h

lemma duplicateAck_peer (env : Env) (s : PseudoTcpSocket) {seg : Segment} (now : UInt32)
    (hack : seg.ack = s.sndUna) :
    Post (· ≠ .setState) (fun r => Acknowledged s seg r.1.peer) (s.duplicateAck env seg now) := by
  unfold duplicateAck
  dsimp only
  refine Post.ite (fun hdata => ?_) fun hdata => ?_
  · exact Post.ok (.window hack (List.ne_nil_of_length_pos hdata))
  · have hnil : seg.data = [] := List.eq_nil_of_length_eq_zero (by omega)
    refine Post.ite (fun hne => ?_) fun heq => ?_
    · refine Post.ite (fun hthree => ?_) fun hthree => ?_
      · refine Post.bind (transmitHead_peer env _ now) ?_
        rintro ⟨t, _ | _⟩ ⟨ht, -⟩
        · refine Post.pure ?_
          dsimp only at ht ⊢
          rw [ht]
          exact .counted s.recover hack hnil hne fun _ => rfl
        · refine Post.pure ?_
          have hpeer : ({ t.peer with recover := t.sndNxt } : Peer) =
              { s.peer with
                sndWnd := s.windowOf seg, dupAcks := s.dupAcks + 1, recover := t.sndNxt } := by
            rw [ht]
            rfl
          change Acknowledged s seg { t.peer with recover := t.sndNxt }
          rw [hpeer]
          exact .counted t.sndNxt hack hnil hne fun h => absurd hthree h
      · exact Post.ite
          (fun _ => Post.ok (.counted s.recover hack hnil hne fun _ => rfl))
          fun _ => Post.ok (.counted s.recover hack hnil hne fun _ => rfl)
    · exact Post.ok (.idle hack hnil (not_not.mp heq))

lemma updateRtt_peer {seg : Segment} {now : UInt32} (h : s.updateRtt seg now = some s') :
    s'.peer = s.peer := by
  unfold updateRtt at h
  split at h
  · cases h
    rfl
  · dsimp only at h
    split at h
    · cases h
      split <;> rfl
    · cases h

/-- What `receiveAck` does to what the socket keeps of its peer. -/
lemma receiveAck_peer (env : Env) (s : PseudoTcpSocket) (seg : Segment) (now : UInt32) :
    Post (· ≠ .setState) (fun r => Acknowledged s seg r.1.peer) (s.receiveAck env seg now) := by
  have haborted {t : PseudoTcpSocket} (ht : Acknowledged s seg t.peer) :
      Post (· ≠ .setState) (fun r => Acknowledged s seg r.1.peer)
        (do
          let u ← t.closedown env (some .ECONNABORTED) .closedownLocal (env.clock 1)
          return ((u, none) : PseudoTcpSocket × Option Bool)) :=
    Post.bind (closedown_peer env t _ _ _) fun u hu => Post.pure (by rw [hu]; exact ht)
  unfold receiveAck
  dsimp only
  refine Post.ite (fun hval => ?_) fun hval => Post.ite (fun hdup => ?_) fun hdup => ?_
  · rw [Bool.and_eq_true] at hval
    have hne : seg.ack ≠ s.sndUna := by
      intro heq
      rw [heq, larger_iff, ahead_self] at hval
      exact absurd hval.1 (by decide)
    cases hr : s.updateRtt seg now with
    | none => exact Post.ok (.ignored hne)
    | some t =>
        have ht := updateRtt_peer hr
        refine Post.bind (valuableAck_peer env t seg now) ?_
        have hpeer : ({ t.peer with
            sndUna := seg.ack
            sndWnd := t.windowOf seg
            dupAcks := if t.dupAcks ≥ 3 ∧ ¬ largerOrEqual seg.ack t.recover then t.dupAcks
              else 0 } : Peer) = { s.peer with
            sndUna := seg.ack
            sndWnd := s.windowOf seg
            dupAcks := if s.dupAcks ≥ 3 ∧ ¬ largerOrEqual seg.ack s.recover then s.dupAcks
              else 0 } := by
          have hdup : t.dupAcks = s.dupAcks := congrArg (·.dupAcks) ht
          have hrec : t.recover = s.recover := congrArg (·.recover) ht
          have hscale : t.swndScale = s.swndScale := congrArg (·.swndScale) ht
          rw [ht, hdup, hrec, windowOf, windowOf, hscale]
        rintro ⟨u, f, _ | _⟩ hu
        · exact haborted (by rw [hu, hpeer]; exact .valuable hval.1)
        · exact Post.pure (by rw [hu, hpeer]; exact .valuable hval.1)
  · refine Post.bind (duplicateAck_peer env s now (by simpa using hdup)) ?_
    rintro ⟨u, _ | _⟩ hu
    · exact haborted hu
    · exact Post.pure hu
  · exact Post.ok (.ignored (by simpa using hdup))

/-! ### A segment -/

/-- A packet is longer than the data in it. -/
lemma parse_length {buffer : Bytes} {seg : Segment} (h : parse buffer = some seg) :
    buffer.length = HEADER_SIZE + seg.data.length := by
  unfold parse at h
  split at h
  · cases h
    simp [HEADER_SIZE]
    omega
  · cases h

/-- The control data of a segment is none or a CONNECT. -/
def AcceptsControl (seg : Segment) : Prop :=
  seg.flags.has FLAG_CTL = true → seg.data.head? = some CTL_CONNECT

/-- A segment that is refused for its control data changes nothing. -/
lemma receiveControl_none {seg : Segment} (h : s.receiveControl env seg = .ok (t, none)) :
    t = s ∧ ¬ AcceptsControl seg := by
  unfold receiveControl at h
  split at h
  next hctl =>
    split at h
    next hdata =>
      cases h
      refine ⟨rfl, fun haccept => ?_⟩
      have hhead := haccept hctl
      rw [hdata] at hhead
      cases hhead
    next code options hdata =>
      split at h
      next hcode =>
        cases h
        refine ⟨rfl, fun haccept => hcode ?_⟩
        have hhead := haccept hctl
        rw [hdata] at hhead
        exact Option.some.inj hhead
      next =>
        obtain ⟨u, -, h⟩ := bind_eq_ok.mp h
        obtain ⟨v, -, h⟩ := bind_eq_ok.mp h
        cases h
  next => cases h

/-- What the control data of a segment changes: nothing, or what the options of a CONNECT say,
and the window where it is answered. -/
lemma receiveControl_some {seg : Segment} {b : Bool}
    (h : s.receiveControl env seg = .ok (t, some b)) :
    seg.flags.has FLAG_CTL = false ∧ t = s ∨
      ∃ options u, seg.flags.has FLAG_CTL = true ∧ seg.data = CTL_CONNECT :: options ∧
        s.parseOptions env options = .ok u ∧ t.sndNxt = u.sndNxt ∧
        (t.peer = u.peer ∨
          ∃ v : PseudoTcpSocket, t.peer = { u.peer with
            sndWnd := UInt32.ofNat v.connectMessage.length }) := by
  unfold receiveControl at h
  split at h
  next hctl =>
    split at h
    next => cases h
    next code options hdata =>
      split at h
      next => cases h
      next hcode =>
        rw [not_not] at hcode
        subst hcode
        obtain ⟨u, hu, h⟩ := bind_eq_ok.mp h
        obtain ⟨v, hv, h⟩ := bind_eq_ok.mp h
        cases h
        refine .inr ⟨options, u, hctl, hdata, hu, ?_⟩
        unfold answerConnect at hv
        split at hv
        next hl =>
          obtain ⟨w, hw, hv⟩ := bind_eq_ok.mp hv
          rw [setState_eq (.inr (by rw [hl]; rfl))] at hw
          cases hw
          have hnxt := queueConnectMessage_sndNxt hv
          have hpeer := queueConnectMessage_peer hv
          exact ⟨hnxt, .inr ⟨_, hpeer⟩⟩
        next hl =>
          rw [setStateEstablished_eq (.inl hl)] at hv
          cases hv
          exact ⟨rfl, .inl rfl⟩
        next =>
          cases hv
          exact ⟨rfl, .inl rfl⟩
  next hctl =>
    cases h
    exact .inl ⟨by simpa using hctl, rfl⟩

/-- The parts of `process` behind the acknowledgement leave alone what it has changed. -/
lemma processSegment_peer (env : Env) (s : PseudoTcpSocket) {seg : Segment} (now : UInt32)
    (hseg : op.segment = some seg) :
    Post (· ≠ .setState)
      (fun r => r.1.peer = s.peer ∧ ¬ AcceptsControl seg ∨
        ∃ t b u, s.receiveControl env seg = .ok (t, some b) ∧
          (t.updateTimestamp seg).receiveAck env seg now = .ok u ∧ r.1.peer = u.1.peer)
      (s.processSegment env seg now) := by
  unfold processSegment
  refine Post.bind (receiveControl_called env s hseg).eq_ok ?_
  rintro ⟨t, _ | b⟩ hcontrol
  · obtain ⟨rfl, hrefused⟩ := receiveControl_none hcontrol
    exact Post.pure (.inl ⟨rfl, hrefused⟩)
  · refine Post.bind (receiveAck_called env _ now hseg).eq_ok ?_
    rintro ⟨u, _ | isFinAck⟩ hack
    · exact Post.pure (.inr ⟨t, b, _, hcontrol, hack, rfl⟩)
    · refine Post.bind (openOnSegment_peer u b) fun v hv => ?_
      refine Post.bind (receiveFin_peer v seg isFinAck) ?_
      rintro ⟨w, _ | _⟩ hw
      · exact Post.pure (.inr ⟨t, b, _, hcontrol, hack, hw.trans hv⟩)
      · refine Post.bind (receiveData_peer env w.notifyWritable seg) fun x hx => Post.pure ?_
        exact .inr ⟨t, b, _, hcontrol, hack,
          ((hx.trans (notifyWritable_peer w)).trans hw).trans hv⟩

/-- **A segment changes what the socket keeps of its peer** only where `receiveControl` and
`receiveAck` take it. -/
theorem process_peer (env : Env) (s : PseudoTcpSocket) {seg : Segment}
    (hseg : op.segment = some seg) :
    Post (· ≠ .setState)
      (fun r => r.1.peer = s.peer ∧ ¬ (s.Takes seg ∧ AcceptsControl seg) ∨
        s.Takes seg ∧ ∃ now t b u, (s.noteArrival now).receiveControl env seg = .ok (t, some b) ∧
          (t.updateTimestamp seg).receiveAck env seg now = .ok u ∧ r.1.peer = u.1.peer)
      (s.process env seg) := by
  unfold process
  refine Post.ite (fun hconv => Post.ok (.inl ⟨rfl, fun h => hconv h.1.conv⟩)) fun hconv => ?_
  dsimp only
  generalize s.getCurrentTime (env.clock 0) = now
  have hclosed (err : Option Errno) (source : ClosedownSource) :
      Post (· ≠ .setState) (fun t => t.peer = s.peer)
        ((s.noteArrival now).closedown env err source (env.clock 1)) :=
    closedown_peer env (s.noteArrival now) err source (env.clock 1)
  refine Post.ite (fun hclose => ?_) fun hopen => Post.ite (fun hrst => ?_) fun hrst => ?_
  · have hno : ¬ (s.Takes seg ∧ AcceptsControl seg) := by
      rintro ⟨htakes, -⟩
      rcases hclose with hst | ⟨hfin, hdata⟩
      · exact htakes.state hst
      · rw [htakes.data hfin] at hdata
        exact absurd hdata (by simp)
    refine Post.ite (fun _ => Post.ok (.inl ⟨rfl, hno⟩)) fun _ => ?_
    exact Post.bind (hclosed _ _) fun t ht => Post.pure (.inl ⟨ht, hno⟩)
  · have hno : ¬ (s.Takes seg ∧ AcceptsControl seg) := by
      rintro ⟨htakes, -⟩
      rw [htakes.rst] at hrst
      exact absurd hrst (by decide)
    exact Post.bind (hclosed _ _) fun t ht => Post.pure (.inl ⟨ht, hno⟩)
  · have htakes : s.Takes seg := takes_of hconv hopen hrst
    refine (processSegment_peer env (s.noteArrival now) now hseg).imp ?_
    rintro r (⟨h, hno⟩ | ⟨t, b, u, hcontrol, hack, hr⟩)
    · exact .inl ⟨h, fun hc => hno hc.2⟩
    · exact .inr ⟨htakes, now, t, b, u, hcontrol, hack, hr⟩

/-- A segment that a call takes in: it is for this connection, the connection is open for it, and
its control data is accepted. -/
structure TakesIn (s : PseudoTcpSocket) (op : Op) (seg : Segment) : Prop where
  packet : ∃ buffer, op = .notifyPacket buffer ∧ buffer.length ≤ MAX_PACKET ∧
    parse buffer = some seg
  takes : s.Takes seg
  control : AcceptsControl seg

/-- A packet changes what the socket keeps of its peer only where its segment is taken in, by
`receiveControl` and `receiveAck`. -/
theorem notifyPacket_peer {buffer : Bytes} {ret : Ret}
    (h : s.call env (.notifyPacket buffer) = .ok (s', ret)) :
    s'.peer = s.peer ∧ (∀ seg, ¬ s.TakesIn (.notifyPacket buffer) seg) ∨
      ∃ seg, s.TakesIn (.notifyPacket buffer) seg ∧ ∃ now t b u,
        (s.noteArrival now).receiveControl env seg = .ok (t, some b) ∧
        (t.updateTimestamp seg).receiveAck env seg now = .ok u ∧ s'.peer = u.1.peer := by
  obtain ⟨r, hr, h⟩ := bind_eq_ok.mp h
  cases h
  unfold notifyPacket at hr
  have hbuffer {seg : Segment} (hin : s.TakesIn (.notifyPacket buffer) seg) :
      buffer.length ≤ MAX_PACKET ∧ parse buffer = some seg := by
    obtain ⟨b, hb, hlen, hparse⟩ := hin.packet
    cases hb
    exact ⟨hlen, hparse⟩
  split at hr
  next hlong =>
    cases hr
    exact .inl ⟨rfl, fun seg hin => absurd (hbuffer hin).1 (by omega)⟩
  next hshort =>
    split at hr
    next hparse =>
      cases hr
      refine .inl ⟨rfl, fun seg hin => ?_⟩
      rw [(hbuffer hin).2] at hparse
      cases hparse
    next seg hparse =>
      have hseg : (Op.notifyPacket buffer).segment = some seg := hparse
      rcases (process_peer env s hseg).of_ok hr with
        ⟨hpeer, hno⟩ | ⟨htakes, now, t, b, u, hc, ha, hpeer⟩
      · refine .inl ⟨hpeer, fun seg' hin => hno ?_⟩
        have hsame : seg' = seg := Option.some.inj ((hbuffer hin).2.symm.trans hparse)
        exact hsame ▸ ⟨hin.takes, hin.control⟩
      · refine .inr
          ⟨seg, ⟨⟨buffer, rfl, by omega, hparse⟩, htakes, ?_⟩, now, t, b, u, hc, ha, hpeer⟩
        rcases receiveControl_some hc with ⟨hctl, -⟩ | ⟨options, v, -, hdata, -⟩
        · intro hctl'
          rw [hctl] at hctl'
          cases hctl'
        · intro _
          rw [hdata]
          rfl

/-! ### The other calls -/

lemma setStateClosed_peer {err : Option Errno}
    (h : s.state = .closed ∨ validTransition s.state .closed = true) :
    Post (· ≠ .setState) (fun t => t.peer = s.peer) (s.setStateClosed err) := by
  rw [setStateClosed_eq h]
  exact Post.ok rfl

lemma shutdownSocket_peer (env : Env) (s : PseudoTcpSocket) (how : PseudoTcpShutdown) :
    Post (· ≠ .setState) (fun t => t.peer = s.peer) (s.shutdownSocket env how) := by
  unfold shutdownSocket
  refine Post.ite (fun _ => Post.ok (by split <;> rfl)) fun _ => ?_
  dsimp only
  obtain ⟨t, ht, hpeer⟩ : ∃ t, t = (if how = .wr then s else { s with shutdownReads := true }) ∧
      t.peer = s.peer := ⟨_, rfl, by split <;> rfl⟩
  rw [← ht, ← hpeer]
  refine Post.ite (fun _ => Post.ok rfl) fun _ => ?_
  have hfin (new : PseudoTcpState) (hnew : validTransition t.state new = true) :
      Post (· ≠ .setState) (fun s' => s'.peer = t.peer)
        (do
          let u ← t.queueFinMessage
          let u ← u.attemptSend env .fin (env.clock 0)
          u.setState new) := by
    refine Post.bind (queueFinMessage_post t) fun u hu => ?_
    refine Post.bind (attemptSend_steps env u _ _).eq_ok fun v hv => ?_
    have hstate : v.state = t.state := (attemptSend_core hv).2.trans (queueFinMessage_state hu)
    rw [setState_eq (.inr (by rw [hstate]; exact hnew))]
    exact Post.ok ((attemptSend_peer hv).trans (queueFinMessage_peer hu))
  cases hc : t.state with
  | listen | synSent => exact setStateClosed_peer (by rw [hc]; decide)
  | synReceived | established =>
      dsimp only
      refine Post.ite (fun _ => closedown_peer env t _ _ _) fun _ => hfin _ (by rw [hc]; rfl)
  | closeWait => exact hfin _ (by rw [hc]; rfl)
  | closing | closed | finWait1 | finWait2 | timeWait | lastAck => exact Post.ok rfl

lemma notifyClock_peer (env : Env) (s : PseudoTcpSocket) :
    Post (· ≠ .setState) (fun t => t.peer = s.peer) (s.notifyClock env) := by
  have hclose {t : PseudoTcpSocket} (ht : t.peer = s.peer) :
      Post (· ≠ .setState) (fun u => u.peer = s.peer)
        (t.closedown env (some .ECONNABORTED) .closedownLocal (env.clock 2)) :=
    (closedown_peer env t _ _ _).imp fun _ h => h.trans ht
  unfold notifyClock
  dsimp only
  refine Post.ite (fun _ => Post.ok rfl) fun _ => ?_
  refine Post.bind (P := fun t => t.peer = s.peer) ?_ fun t ht => ?_
  · exact Post.ite (fun h => setStateClosed_peer (.inr (by rw [h.2]; rfl))) fun _ => Post.ok rfl
  refine Post.bind (P := fun u => u.peer = s.peer) ?_ fun u hu => ?_
  · refine Post.ite (fun _ => ?_) fun _ => Post.ok ht
    refine Post.bind (queueFinMessage_post _) fun v hv => ?_
    exact (attemptSend_steps env v _ _).eq_ok.imp fun w hw =>
      ((attemptSend_peer hw).trans (queueFinMessage_peer hv)).trans ht
  refine Post.bind (P := fun r => r.1.peer = s.peer) ?_ ?_
  · refine Post.ite (fun _ => Post.ite (fun _ => Post.error (by simp)) fun _ => ?_)
      fun _ => Post.ok hu
    refine Post.bind (transmitHead_peer env u _) ?_
    rintro ⟨v, _ | _⟩ hv
    · exact Post.pure (hv.1.trans hu)
    · exact Post.pure (hv.1.trans hu)
  rintro ⟨v, _ | _⟩ hv
  · exact hclose hv
  refine Post.bind (P := fun r => r.1.peer = s.peer) ?_ ?_
  · refine Post.ite (fun _ => Post.ite (fun _ => Post.ok hv) fun _ => ?_) fun _ => Post.ok hv
    exact Post.bind (packet_ack_peer env v _ (.inr rfl)) fun r hr => Post.pure (hr.trans hv)
  rintro ⟨w, _ | _⟩ hw
  · exact hclose hw
  refine Post.ite (fun _ => ?_) fun _ => Post.ok hw
  exact Post.bind (packet_ack_peer env w _ (.inl rfl)) fun r hr => Post.pure (hr.trans hw)

lemma send_peer (env : Env) (s : PseudoTcpSocket) (data : Bytes) :
    Post (· ≠ .setState) (fun r => r.1.peer = s.peer) (s.send env data) := by
  unfold send
  refine Post.ite (fun _ => Post.ok rfl) fun _ => Post.ite (fun _ => Post.ok rfl) fun _ => ?_
  refine Post.bind (queue_post _ _ _) fun r hr => ?_
  refine Post.bind (attemptSend_steps env _ _ _).eq_ok fun t ht => Post.pure ?_
  have hpeer : t.peer = s.peer := (attemptSend_peer ht).trans (queue_peer hr)
  dsimp only
  split
  · exact hpeer
  · exact hpeer

lemma recv_peer (env : Env) (s : PseudoTcpSocket) (len : ℕ) :
    Post (· ≠ .setState) (fun r => r.1.peer = s.peer) (s.recv env len) := by
  unfold recv
  refine Post.ite (fun _ => Post.ok rfl) fun _ => Post.ite (fun _ => Post.ok rfl) fun _ => ?_
  refine Post.ite (fun _ => Post.ok rfl) fun _ => Post.ite (fun _ => Post.ok rfl) fun _ => ?_
  generalize s.rbuf.read len = r
  dsimp only
  refine Post.ite (fun _ => Post.ok rfl) fun _ => Post.ite (fun _ => ?_) fun _ => Post.ok rfl
  refine Post.ite (fun _ => ?_) fun _ => Post.ok rfl
  refine Post.bind (attemptSend_steps env _ _ _).eq_ok fun t ht => Post.pure ?_
  have hpeer := attemptSend_peer ht
  exact hpeer

lemma getNextClock_peer (env : Env) (s : PseudoTcpSocket) (timeout : UInt64) :
    Post (· ≠ .setState) (fun r => r.1.peer = s.peer) (s.getNextClock env timeout) := by
  unfold getNextClock
  dsimp only
  refine Post.ite (fun _ => ?_) fun _ => ?_
  · exact Post.bind (closedown_peer env s _ _ _) fun t ht => Post.pure ht
  refine Post.ite (fun _ => Post.ok rfl) fun _ => Post.ite (fun _ => Post.ok rfl) fun _ => ?_
  exact Post.ite (fun _ => Post.ok rfl) fun _ => Post.ok rfl

lemma resizeReceiveBuffer_peer {newSize : UInt32} (h : s.resizeReceiveBuffer env newSize = .ok t) :
    t.peer = s.peer := by
  unfold resizeReceiveBuffer at h
  split at h
  · cases h
    rfl
  · dsimp only at h
    split at h
    · cases h
    · cases h
      rfl

lemma setRcvBuf_peer (env : Env) (s : PseudoTcpSocket) (size : UInt32)
    (h : s.setRcvBuf env size = .ok t) :
    t.peer = s.peer := by
  unfold setRcvBuf at h
  split at h
  · exact resizeReceiveBuffer_peer h
  · cases h
    rfl

/-- **No other call changes what the socket keeps of its peer**, but `connect` the window. -/
theorem call_peer {ret : Ret} (hop : ∀ buffer, op ≠ .notifyPacket buffer)
    (h : s.call env op = .ok (s', ret)) :
    s'.peer = s.peer ∨ op = .connect ∧
      ∃ t : PseudoTcpSocket,
        s'.peer = { s.peer with sndWnd := UInt32.ofNat t.connectMessage.length } := by
  cases op with
  | connect =>
      obtain ⟨r, hr, h⟩ := bind_eq_ok.mp h
      cases h
      unfold connect at hr
      split at hr
      · cases hr
        exact .inl rfl
      · obtain ⟨t, ht, hr⟩ := bind_eq_ok.mp hr
        obtain ⟨u, hu, hr⟩ := bind_eq_ok.mp hr
        obtain ⟨v, hv, hr⟩ := bind_eq_ok.mp hr
        cases hr
        have htpeer : t.peer = s.peer := by
          unfold setState at ht
          split at ht
          · cases ht
            rfl
          · split at ht
            · cases ht
              rfl
            · cases ht
        refine .inr ⟨rfl, t, ?_⟩
        rw [attemptSend_peer hv, queueConnectMessage_peer hu, htpeer]
  | send data =>
      obtain ⟨r, hr, h⟩ := bind_eq_ok.mp h
      cases h
      exact .inl ((send_peer env s data).of_ok hr)
  | recv len =>
      obtain ⟨r, hr, h⟩ := bind_eq_ok.mp h
      cases h
      exact .inl ((recv_peer env s len).of_ok hr)
  | shutdown how =>
      obtain ⟨r, hr, h⟩ := bind_eq_ok.mp h
      cases h
      exact .inl ((shutdownSocket_peer env s how).of_ok hr)
  | close force =>
      obtain ⟨r, hr, h⟩ := bind_eq_ok.mp h
      cases h
      unfold close at hr
      split at hr
      · exact .inl ((closedown_peer env s _ _ _).of_ok hr)
      · exact .inl ((shutdownSocket_peer env s _).of_ok hr)
  | notifyMtu mtu =>
      cases h
      unfold notifyMtu
      dsimp only
      split
      · exact .inl rfl
      · exact .inl rfl
  | notifyClock =>
      obtain ⟨r, hr, h⟩ := bind_eq_ok.mp h
      cases h
      exact .inl ((notifyClock_peer env s).of_ok hr)
  | getNextClock timeout =>
      obtain ⟨r, hr, h⟩ := bind_eq_ok.mp h
      cases h
      exact .inl ((getNextClock_peer env s timeout).of_ok hr)
  | notifyPacket buffer => exact absurd rfl (hop buffer)
  | setRcvBuf size =>
      obtain ⟨r, hr, h⟩ := bind_eq_ok.mp h
      cases h
      exact .inl (setRcvBuf_peer env s size hr)
  | setSndBuf size =>
      cases h
      unfold setSndBuf
      split
      · exact .inl rfl
      · exact .inl rfl

end PseudoTcpSocket

end LibNice.PseudoTcp
