import LibNice.PseudoTcp.ConnectOptions
import LibNice.Socket.TcpRecv

/-!
`pseudo_tcp_socket_notify_message`: a packet in one buffer or two.

* `notifyMessage`: the function.
* `HoldsPacket`, `Agrees`: a message that holds a packet, and the messages that are taken like
  the packet itself.
* `notifyMessage_eq`: a message that agrees is taken like its packet.
* `telling`, `lengths_told_apart`: sockets that tell two lengths of the same packet apart.
* `notifyMessage_iff`: **a message is taken like its packet** by every socket exactly when it
  agrees.
-/

namespace LibNice.PseudoTcp

open LibNice.Foundation LibNice.Socket

/-! ### Two ways in -/

/-- `pseudo_tcp_socket_notify_message`.  The `size` of a buffer is cut to the 32 bits of the
argument of `pseudo_tcp_socket_notify_packet`. -/
def notifyMessage (env : Env) (s : PseudoTcpSocket) (message : NiceInputMessage) :
    Except Fault (Except Abort (PseudoTcpSocket × Bool)) :=
  match message.buffers with
  | [buffer] => .ok (s.notifyPacket env (buffer.take (buffer.length % 2 ^ 32)))
  | [header, data] =>
      if header.length ≠ HEADER_SIZE then .error .assertFailed
      else if message.length > MAX_PACKET then .ok (.ok (s, false))
      else if message.length < HEADER_SIZE then .ok (.ok (s, false))
      else do
        let data ← readSlice data 0 (message.length - HEADER_SIZE)
        match parse (header ++ data) with
        | none => .ok (.ok (s, false))
        | some seg => .ok (s.process env seg)
  | _ => .error .assertFailed

/-- A message holds a packet: in one buffer, or in a buffer for the header and one for the data,
each possibly larger than needed. -/
structure HoldsPacket (message : NiceInputMessage) (p : Bytes) : Prop where
  buffers : (∃ buffer, message.buffers = [buffer]) ∨
    ∃ header data, message.buffers = [header, data] ∧ header.length = HEADER_SIZE
  packet : p <+: message.buffers.flatten
  length : message.length = p.length
  lt : p.length < 2 ^ 32

/-- A packet of a length that is refused. -/
def Refused (n : ℕ) : Prop := n < HEADER_SIZE ∨ MAX_PACKET < n

/-- A packet whose data does not matter beyond its first byte: a reset, or one whose control data
is not accepted. -/
def Blind (p : Bytes) : Prop :=
  ∃ seg, parse p = some seg ∧
    (seg.flags.has FLAG_RST = true ∨
      seg.flags.has FLAG_CTL = true ∧ seg.data.head? ≠ some CTL_CONNECT)

/-- The messages that are taken like their packet: of two buffers, or of one whose size, cut to
32 bits, is the length of the packet, or is refused like it, or does not matter. -/
def Agrees (message : NiceInputMessage) (p : Bytes) : Prop :=
  message.buffers.length = 2 ∨
    let len := message.size % 2 ^ 32
    len = p.length ∨ Refused len ∧ Refused p.length ∨
      HEADER_SIZE < len ∧ len ≤ MAX_PACKET ∧ HEADER_SIZE < p.length ∧ p.length ≤ MAX_PACKET ∧
        Blind p

namespace PseudoTcpSocket

variable {env : Env} {s t : PseudoTcpSocket} {p : Bytes} {seg seg' : Segment}

/-! ### Packets -/

/-- A packet with a header is taken apart. -/
lemma parse_append {header : Bytes} (h : header.length = HEADER_SIZE) :
    ∃ f : Bytes → Segment, (∀ data, parse (header ++ data) = some (f data)) ∧
      ∀ data, f data = { f [] with data } := by
  match header, h with
  | [c0, c1, c2, c3, s0, s1, s2, s3, a0, a1, a2, a3, x, flags, w0, w1, v0, v1, v2, v3, e0, e1, e2,
      e3], _ => exact ⟨_, fun data => rfl, fun data => rfl⟩

lemma parse_none (h : p.length < HEADER_SIZE) : parse p = none := by
  cases hp : parse p with
  | none => rfl
  | some seg =>
      have hlen := parse_length hp
      omega

/-- A packet of a length that is refused. -/
lemma notifyPacket_refused (env : Env) (s : PseudoTcpSocket) (h : Refused p.length) :
    s.notifyPacket env p = .ok (s, false) := by
  unfold notifyPacket
  split
  · rfl
  · rename_i hmax
    rw [parse_none (h.resolve_right (by omega))]

lemma notifyPacket_accepted (env : Env) (s : PseudoTcpSocket) (h : ¬ Refused p.length)
    (hp : parse p = some seg) : s.notifyPacket env p = s.process env seg := by
  unfold notifyPacket
  rw [if_neg (fun hmax => h (.inr hmax)), hp]

/-! ### Data that does not matter -/

/-- A segment that is blind to its data. -/
lemma process_blind {data data' : Bytes} (env : Env) (s : PseudoTcpSocket) (hdata : data ≠ [])
    (hdata' : data' ≠ []) (hhead : data.head? = data'.head?)
    (hblind : seg.flags.has FLAG_RST = true ∨
      seg.flags.has FLAG_CTL = true ∧ data.head? ≠ some CTL_CONNECT) :
    s.process env { seg with data } = s.process env { seg with data := data' } := by
  have hpos := List.length_pos_of_ne_nil hdata
  have hpos' := List.length_pos_of_ne_nil hdata'
  by_cases hrst : seg.flags.has FLAG_RST = true
  · simp only [process, hpos, hpos', hrst, if_true]
  · obtain ⟨hctl, hno⟩ := hblind.resolve_left hrst
    have hrefused {data : Bytes} (hdata : data ≠ []) (hno : data.head? ≠ some CTL_CONNECT)
        (t : PseudoTcpSocket) (now : UInt32) :
        t.processSegment env { seg with data } now = .ok (t, false) := by
      cases data with
      | nil => exact absurd rfl hdata
      | cons code rest =>
          have hcode : code ≠ CTL_CONNECT := fun h => hno (by rw [h]; rfl)
          simp only [processSegment, receiveControl, hctl, if_true, hcode, ne_eq, not_false_eq_true]
          rfl
    simp only [process, hpos, hpos', hrefused hdata hno, hrefused hdata' (hhead ▸ hno)]

/-- A packet with data, and the same packet with more of it. -/
lemma parse_prefix {q : Bytes} (hpq : p <+: q) (hp : HEADER_SIZE ≤ p.length) :
    ∃ (seg : Segment) (data data' : Bytes), parse p = some { seg with data } ∧
      parse q = some { seg with data := data' } ∧ data <+: data' ∧
      HEADER_SIZE + data.length = p.length ∧ HEADER_SIZE + data'.length = q.length := by
  obtain ⟨rest, rfl⟩ := hpq
  have hheader : (p.take HEADER_SIZE).length = HEADER_SIZE := by
    rw [List.length_take]
    omega
  obtain ⟨f, hparse, hf⟩ := parse_append hheader
  have hsplit : p.take HEADER_SIZE ++ p.drop HEADER_SIZE = p := List.take_append_drop _ _
  refine ⟨f [], p.drop HEADER_SIZE, p.drop HEADER_SIZE ++ rest, ?_, ?_, List.prefix_append _ _, ?_,
    ?_⟩
  · rw [← hf, ← hparse, hsplit]
  · rw [← hf, ← hparse, ← List.append_assoc, hsplit]
  · rw [List.length_drop]
    omega
  · rw [List.length_append, List.length_append, List.length_drop]
    omega

/-- The first byte of the data is that of all of it. -/
lemma head_of_le {data data' : Bytes} (h : data <+: data') (hne : data ≠ []) :
    data.head? = data'.head? := by
  obtain ⟨rest, rfl⟩ := h
  cases data with
  | nil => exact absurd rfl hne
  | cons x data => rfl

/-- A packet is blind to its data however long it is. -/
lemma blind_iff {q : Bytes} (hpq : p <+: q) (hp : HEADER_SIZE < p.length) :
    Blind p ↔ Blind q := by
  obtain ⟨seg, data, data', hparse, hparse', hdata, hlen, -⟩ := parse_prefix hpq hp.le
  have hne : data ≠ [] := List.ne_nil_of_length_pos (by omega)
  simp only [Blind, hparse, hparse', Option.some.injEq, exists_eq_left', head_of_le hdata hne]

/-- Packets that are blind to their data are taken alike. -/
lemma notifyPacket_blind {q : Bytes} (env : Env) (s : PseudoTcpSocket) (hpq : p <+: q)
    (hp : HEADER_SIZE < p.length) (hq : q.length ≤ MAX_PACKET) (hblind : Blind p) :
    s.notifyPacket env p = s.notifyPacket env q := by
  have hle := hpq.length_le
  obtain ⟨seg, data, data', hparse, hparse', hdata, hlen, hlen'⟩ := parse_prefix hpq hp.le
  have hne : data ≠ [] := List.ne_nil_of_length_pos (by omega)
  have hne' : data' ≠ [] := List.ne_nil_of_length_pos (by omega)
  have hok {n : ℕ} (h1 : HEADER_SIZE < n) (h2 : n ≤ MAX_PACKET) : ¬ Refused n := by
    rintro (h | h) <;> omega
  rw [notifyPacket_accepted env s (hok hp (by omega)) hparse,
    notifyPacket_accepted env s (hok (by omega) hq) hparse']
  obtain ⟨_, hsome, hcond⟩ := hblind
  rw [hparse] at hsome
  cases hsome
  exact process_blind env s hne hne' (head_of_le hdata hne) hcond

/-- The packet that a single buffer is taken for, and the one that it holds. -/
lemma holdsPacket_single {message : NiceInputMessage} {buffer : Bytes} (h : HoldsPacket message p)
    (hbuffers : message.buffers = [buffer]) :
    p <+: buffer ∧ message.size = buffer.length ∧
      (buffer.take (buffer.length % 2 ^ 32)).length = buffer.length % 2 ^ 32 := by
  have hp := h.packet
  rw [hbuffers, List.flatten_singleton] at hp
  refine ⟨hp, ?_, ?_⟩
  · rw [NiceInputMessage.size, hbuffers, List.flatten_singleton]
  · rw [List.length_take, Nat.min_eq_left (Nat.mod_le _ _)]

/-- Of two prefixes of a buffer one is a prefix of the other. -/
lemma prefix_total {buffer q : Bytes} (hp : p <+: buffer) (hq : q <+: buffer) :
    p <+: q ∨ q <+: p := by
  rcases Nat.le_total p.length q.length with hle | hle
  · exact .inl (List.prefix_of_prefix_length_le hp hq hle)
  · exact .inr (List.prefix_of_prefix_length_le hq hp hle)

/-- **A message that agrees is taken like its packet.** -/
theorem notifyMessage_eq {message : NiceInputMessage} (h : HoldsPacket message p)
    (hagrees : Agrees message p) (env : Env) (s : PseudoTcpSocket) :
    notifyMessage env s message = .ok (s.notifyPacket env p) := by
  rcases h.buffers with ⟨buffer, hbuffers⟩ | ⟨header, data, hbuffers, hheader⟩
  · obtain ⟨hp, hsize, hlen⟩ := holdsPacket_single h hbuffers
    simp only [notifyMessage, hbuffers, Except.ok.injEq]
    obtain ⟨q, hq⟩ : ∃ q, q = buffer.take (buffer.length % 2 ^ 32) := ⟨_, rfl⟩
    rw [← hq] at hlen ⊢
    have hqb : q <+: buffer := hq ▸ List.take_prefix _ _
    rcases hagrees with htwo | hagrees
    · rw [hbuffers] at htwo
      cases htwo
    · dsimp only at hagrees
      rw [hsize, ← hlen] at hagrees
      rcases hagrees with heq | ⟨hrefused, hrefused'⟩ | ⟨h1, h2, h3, h4, hblind⟩
      · rw [(prefix_total hqb hp).elim (fun hle => hle.eq_of_length heq)
          fun hle => (hle.eq_of_length heq.symm).symm]
      · rw [notifyPacket_refused env s hrefused, notifyPacket_refused env s hrefused']
      · rcases prefix_total hp hqb with hpq | hqp
        · exact (notifyPacket_blind env s hpq h3 h2 hblind).symm
        · exact notifyPacket_blind env s hqp h1 h4 ((blind_iff hqp h1).mpr hblind)
  · have hp := h.packet
    rw [hbuffers, List.flatten_cons, List.flatten_singleton] at hp
    simp only [notifyMessage, hbuffers, ne_eq, hheader, not_true_eq_false, if_false, h.length]
    by_cases hmax : p.length > MAX_PACKET
    · rw [if_pos hmax, notifyPacket_refused env s (.inr hmax)]
    rw [if_neg hmax]
    by_cases hmin : p.length < HEADER_SIZE
    · rw [if_pos hmin, notifyPacket_refused env s (.inl hmin)]
    rw [if_neg hmin]
    -- the data is what the packet has behind its header
    have hle := hp.length_le
    rw [List.length_append, hheader] at hle
    have hsplit : header ++ data.take (p.length - HEADER_SIZE) = p := by
      rw [List.prefix_iff_eq_take] at hp
      have hall : header.take p.length = header := List.take_of_length_le (by omega)
      conv_rhs => rw [hp]
      rw [List.take_append, hheader, hall]
    rw [readSlice_of_le (by omega)]
    simp only [List.drop_zero, bind, Except.bind, hsplit]
    obtain ⟨seg, hparse⟩ : ∃ seg, parse p = some seg := by
      obtain ⟨seg, _, _, hparse, -⟩ := parse_prefix (List.prefix_refl p) (by omega)
      exact ⟨_, hparse⟩
    rw [hparse, notifyPacket_accepted env s (by rintro (h | h) <;> omega) hparse]

/-! ### Lengths that are told apart -/

/-- An environment whose clock stands at 1. -/
def oneEnv : Env := ⟨fun _ => 1, fun _ => 0, fun _ _ => .success⟩

/-- A socket without FIN-ACK support whose reads are shut down, with nothing in its queues, in a
state.  It has sent nothing that `seg` acknowledges, and what it acknowledged last is behind `n`
bytes of `seg`. -/
def telling (state : PseudoTcpState) (seg : Segment) (n : ℕ) : PseudoTcpSocket :=
  { pseudoTcpSocketNew seg.conv false (fun _ => 0) (fun _ => 0) with
    state
    shutdown := .graceful
    sndUna := seg.ack + 1
    sndNxt := seg.ack + 1
    tsLastack := seg.seq + UInt32.ofNat n
    tsRecent := seg.tsval + 1 }

/-- A closed socket notes the arrival of a segment. -/
lemma process_closed (seg : Segment) (n : ℕ) :
    Post (fun _ => True) (fun r => r.1.lastrecv = 1)
      ((telling .closed seg n).process oneEnv seg) := by
  unfold process
  rw [if_neg (fun h => h rfl)]
  dsimp only
  rw [if_pos (.inl rfl)]
  refine Post.ite (fun _ => Post.ok rfl) fun _ => ?_
  refine Post.bind ((closedown_post _ _ _ _ _).mono (fun _ _ => trivial) fun _ h => h) ?_
  rintro _ ⟨t, ht, rfl⟩
  refine Post.pure ?_
  cases ht with
  | withoutRst => rfl
  | withRst h => cases h

/-- A packet that is taken, of a socket that refuses the other one. -/
lemma refused_told_apart {q : Bytes} (hp : Refused p.length) (hq : ¬ Refused q.length)
    (hparse : parse q = some seg) :
    (telling .closed seg 0).notifyPacket oneEnv p ≠
      (telling .closed seg 0).notifyPacket oneEnv q := by
  rw [notifyPacket_refused _ _ hp, notifyPacket_accepted _ _ hq hparse]
  intro heq
  have hlast := (process_closed seg 0).of_ok heq.symm
  exact absurd (show (0 : UInt32) = 1 from hlast) (by decide)

/-- A socket without FIN-ACK support closes without a packet. -/
lemma closedown_withoutRst (env : Env) {err : Option Errno} (reading : UInt32)
    (h : s.supportFinAck = false) :
    s.closedown env err .closedownLocal reading = .ok { s with
      shutdown := .forceful, state := .closed, called := s.called ++ closedCallbacks err } := by
  unfold closedown closedownSource
  rw [if_neg (by simp [h]), if_pos rfl]
  exact closeStates { s with shutdown := .forceful } err

/-- An acknowledgement of nothing that was sent. -/
lemma receiveAck_telling (env : Env) (now : UInt32)
    (hu : s.sndUna = seg.ack + 1) : s.receiveAck env seg now = .ok (s, some false) := by
  have hlarger : larger seg.ack s.sndUna = false := by
    rw [hu, larger, show seg.ack - (seg.ack + 1) - 1 = 0xFFFFFFFE by
      apply UInt32.toNat_inj.mp
      rw [toNat_sub, toNat_sub, toNat_add]
      have := seg.ack.toNat_lt
      simp only [show (1 : UInt32).toNat = 1 from rfl,
        show (0xFFFFFFFE : UInt32).toNat = 4294967294 from rfl]
      omega]
    decide
  have hne : ¬ seg.ack = s.sndUna := by
    rw [hu]
    intro h
    have := congrArg UInt32.toNat h
    rw [toNat_add, show (1 : UInt32).toNat = 1 from rfl] at this
    omega
  simp [receiveAck, hlarger, hne]

/-- What comes behind an acknowledgement of nothing keeps the timestamp, and, without FIN-ACK
support, the state. -/
lemma receiveData_keeps (env : Env) (s : PseudoTcpSocket) (seg : Segment) :
    Post (fun _ => True) (fun t => t.state = s.state ∧ t.tsRecent = s.tsRecent)
      (s.receiveData env seg) := by
  unfold receiveData
  refine Post.bind ((receive_error _ _ _ _).mono (fun _ _ => trivial) fun _ h => h) fun r _ => ?_
  refine Post.bind ((attemptSend_steps env _ _ _).mono (fun _ _ => trivial) fun _ h => h)
    fun t ht => Post.pure ?_
  have hcore := ht.core_eq
  have hstate := core_state hcore
  have hrecent := congrArg (·.tsRecent) hcore
  split
  · exact ⟨hstate, hrecent⟩
  · exact ⟨hstate, hrecent⟩

lemma notifyWritable_keeps (s : PseudoTcpSocket) :
    s.notifyWritable.state = s.state ∧ s.notifyWritable.tsRecent = s.tsRecent := by
  unfold notifyWritable
  dsimp only
  split <;> exact ⟨rfl, rfl⟩

lemma updateTimestamp_keeps (s : PseudoTcpSocket) (seg : Segment) :
    (s.updateTimestamp seg).state = s.state ∧ (s.updateTimestamp seg).sndUna = s.sndUna ∧
      (s.updateTimestamp seg).supportFinAck = s.supportFinAck := by
  unfold updateTimestamp
  split <;> exact ⟨rfl, rfl, rfl⟩

variable (seg) in
/-- A socket that has sent a FIN keeps its state when a segment without data and without RST
comes in. -/
lemma process_finWait1 (hdata : seg.data = []) (hrst : ¬ seg.flags.has FLAG_RST = true) :
    Post (fun _ => True) (fun r => r.1.state = .finWait1)
      ((telling .finWait1 seg 0).process oneEnv seg) := by
  unfold process
  rw [if_neg (fun h => h rfl)]
  dsimp only
  rw [if_neg (by rw [hdata]; rintro (h | ⟨-, h⟩) <;> cases h), if_neg hrst]
  obtain ⟨s, hs⟩ : ∃ s, s = (telling .finWait1 seg 0).noteArrival
      ((telling .finWait1 seg 0).getCurrentTime (oneEnv.clock 0)) := ⟨_, rfl⟩
  have hstate : s.state = .finWait1 := by rw [hs]; rfl
  have huna : s.sndUna = seg.ack + 1 := by rw [hs]; rfl
  have hsup : s.supportFinAck = false := by rw [hs]; rfl
  rw [← hs]
  unfold processSegment
  by_cases hctl : seg.flags.has FLAG_CTL = true
  · have hcontrol : s.receiveControl oneEnv seg = .ok (s, none) := by
      simp only [receiveControl, hctl, if_true, hdata]
    rw [hcontrol]
    exact Post.ok hstate
  · have hcontrol : s.receiveControl oneEnv seg = .ok (s, some false) := by
      simp only [receiveControl, hctl, Bool.false_eq_true, if_false]
    obtain ⟨h1, h2, h3⟩ := updateTimestamp_keeps s seg
    have hopen : (s.updateTimestamp seg).openOnSegment false = .ok (s.updateTimestamp seg) := by
      rw [openOnSegment, if_neg (by rw [h1, hstate]; rintro ⟨h, -⟩; cases h)]
    have hfin : (s.updateTimestamp seg).receiveFin seg false =
        .ok (s.updateTimestamp seg, true) := by
      rw [receiveFin, if_neg (by rw [h3, hsup]; decide)]
    simp only [hcontrol, receiveAck_telling oneEnv _ (h2.trans huna), hopen, hfin, bind,
      Except.bind]
    obtain ⟨h4, -⟩ := notifyWritable_keeps (s.updateTimestamp seg)
    exact Post.bind (receiveData_keeps _ _ _) fun t ht =>
      Post.pure (((ht.1.trans h4).trans h1).trans hstate)

variable (seg) in
/-- A reset without data closes a socket that has sent a FIN. -/
lemma process_finWait1_reset (hdata : seg.data = []) (hrst : seg.flags.has FLAG_RST = true) :
    Post (fun _ => True) (fun r => r.1.state = .closed)
      ((telling .finWait1 seg 0).process oneEnv seg) := by
  unfold process
  rw [if_neg (fun h => h rfl)]
  dsimp only
  rw [if_neg (by rw [hdata]; rintro (h | ⟨-, h⟩) <;> cases h), if_pos hrst]
  refine Post.bind ((closedown_post _ _ _ _ _).mono (fun _ _ => trivial) fun _ h => h) ?_
  rintro _ ⟨t, -, rfl⟩
  exact Post.pure rfl

variable (seg) in
/-- What a socket that has sent a FIN does with data: it ignores it with a reset, and closes
otherwise. -/
lemma process_finWait1_data (hdata : seg.data ≠ []) :
    ∃ t, (telling .finWait1 seg 0).process oneEnv seg = .ok (t, false) ∧
      t.state = if seg.flags.has FLAG_RST then .finWait1 else .closed := by
  have hpos := List.length_pos_of_ne_nil hdata
  unfold process
  rw [if_neg (fun h => h rfl)]
  dsimp only
  rw [if_pos (.inr ⟨rfl, hpos⟩)]
  by_cases hrst : seg.flags.has FLAG_RST = true
  · rw [if_pos hrst, if_pos hrst]
    exact ⟨_, rfl, rfl⟩
  · rw [if_neg hrst, if_neg hrst, closedown_withoutRst _ _ rfl]
    exact ⟨_, rfl, rfl⟩

/-- A segment with data and one without, of a socket that has sent a FIN. -/
lemma data_told_apart {data : Bytes} (hdata : data ≠ []) :
    (telling .finWait1 seg 0).process oneEnv { seg with data := [] } ≠
      (telling .finWait1 seg 0).process oneEnv { seg with data } := by
  intro heq
  obtain ⟨t, ht, hstate⟩ := process_finWait1_data { seg with data } hdata
  rw [show (telling .finWait1 seg 0).process oneEnv { seg with data } = _ from ht] at heq
  dsimp only at hstate
  by_cases hrst : seg.flags.has FLAG_RST = true
  · rw [if_pos hrst] at hstate
    have hclosed :=
      (process_finWait1_reset { seg with data := [] } rfl hrst).of_ok heq
    rw [show t.state = _ from hclosed] at hstate
    cases hstate
  · rw [if_neg hrst] at hstate
    have hopen := (process_finWait1 { seg with data := [] } rfl hrst).of_ok heq
    rw [show t.state = _ from hopen] at hstate
    cases hstate

/-! ### Timestamps -/

variable (seg) in
/-- A timestamp is taken from a segment that has more data than was acknowledged, and from no
shorter one. -/
lemma updateTimestamp_telling {n m : ℕ} (hn : n ≤ m) (hm : m < 65536) (hdata : seg.data.length = m)
    (hs : s.tsLastack = seg.seq + UInt32.ofNat n) :
    (s.updateTimestamp seg).tsRecent = if n < m then seg.tsval else s.tsRecent := by
  have hseq := seg.seq.toNat_lt
  have hle : smallerOrEqual seg.seq s.tsLastack = true := by
    simp only [smallerOrEqual, largerOrEqual, hs, decide_eq_true_eq, UInt32.lt_iff_toNat_lt,
      toNat_sub, toNat_add, toNat_ofNat, show (0x7FFFFFFF : UInt32).toNat = 2147483647 from rfl]
    omega
  have hlt : smaller s.tsLastack (seg.seq + UInt32.ofNat m) = true ↔ n < m := by
    simp only [smaller, larger, hs, decide_eq_true_eq, UInt32.lt_iff_toNat_lt, toNat_sub, toNat_add,
      toNat_ofNat, show (0x7FFFFFFF : UInt32).toNat = 2147483647 from rfl,
      show (1 : UInt32).toNat = 1 from rfl]
    omega
  rw [updateTimestamp, hle, hdata, Bool.true_and]
  by_cases h : n < m
  · rw [if_pos (hlt.mpr h), if_pos h]
  · rw [if_neg (fun h' => h (hlt.mp h')), if_neg h]

/-- With nothing to send `attempt_send` makes one pass. -/
lemma attemptSend_idle (env : Env) (sflags : SendFlags) (reading : UInt32)
    (hu : s.unsentSlist = []) :
    ∃ t, s.attemptSend env sflags reading = .ok t ∧ t.tsRecent = s.tsRecent := by
  have hpass (s : PseudoTcpSocket) (now : UInt32) (hu : s.unsentSlist = []) :
      Post (fun _ => False) (fun r => r.2 = none) (s.attemptSendPass env sflags now) := by
    unfold attemptSendPass
    dsimp only
    refine Post.ite (fun _ => ?_) fun _ => Post.ite (fun _ => Post.ok rfl) fun _ => ?_
    · refine Post.ite (fun _ => Post.ok rfl) fun _ => Post.ite (fun _ => ?_) fun _ => Post.ok rfl
      exact Post.bind (packet_ack_steps env s now (.inl rfl)) fun _ _ => Post.pure rfl
    · rw [hu]
      exact Post.ok rfl
  suffices hok : ∃ t, s.attemptSend env sflags reading = .ok t by
    obtain ⟨t, ht⟩ := hok
    exact ⟨t, ht, congrArg (·.tsRecent) (attemptSend_core ht).1⟩
  unfold attemptSend
  dsimp only
  generalize hs : (if timeDiff (s.getCurrentTime reading) s.lastsend > s.rxRto.toNat then
    { s with cwnd := s.mss } else s) = t
  have ht : t.unsentSlist = [] := by
    rw [← hs]
    split
    · exact hu
    · exact hu
  obtain ⟨⟨u, o⟩, hu', ho⟩ := (hpass t (s.getCurrentTime reading) ht).exists_ok
  dsimp only at ho
  subst ho
  refine ⟨u, ?_⟩
  have hfuel : t.attemptSendFuel = 2 := by rw [attemptSendFuel, ht]; rfl
  rw [hfuel, attemptSendLoop, hu']
  rfl

/-- A socket that scales no window takes any options. -/
lemma parseOptions_unscaled (env : Env) (s : PseudoTcpSocket) (options : Bytes)
    (h : s.rwndScale = 0) : ∃ t, s.parseOptions env options = .ok t := by
  obtain ⟨opts, complete, hl⟩ := exists_lists options
  rw [parseOptions_eq env s hl]
  cases complete with
  | false => exact ⟨_, rfl⟩
  | true =>
      have hscale : (s.withOptions opts).rwndScale = 0 := h
      obtain ⟨t, ht, -⟩ := (applyMissingOptions_iff env (s.withOptions opts)
        (Options.found {} opts true) (P := fun _ _ => True)).mpr
          ⟨fun hrevert => absurd hrevert.2 (by rw [hscale]; decide), trivial⟩
      exact ⟨t, ht⟩

/-- The part of a socket that tells lengths apart. -/
structure Tells (s : PseudoTcpSocket) (seg : Segment) : Prop where
  state : s.state = .established
  sndUna : s.sndUna = seg.ack + 1
  unsent : s.unsentSlist = []
  ignores : s.ignoresData seg = true

/-- An open socket takes the control data of a segment. -/
lemma receiveControl_tells (htells : s.Tells seg) (hscale : s.rwndScale = 0)
    (hcontrol : AcceptsControl seg) :
    ∃ t b, s.receiveControl oneEnv seg = .ok (t, some b) ∧ t.Tells seg ∧
      t.tsRecent = s.tsRecent ∧ t.tsLastack = s.tsLastack := by
  unfold receiveControl
  by_cases hctl : seg.flags.has FLAG_CTL = true
  · rw [if_pos hctl]
    have hhead := hcontrol hctl
    cases hdata : seg.data with
    | nil =>
        rw [hdata] at hhead
        cases hhead
    | cons code options =>
        rw [hdata] at hhead
        obtain rfl := Option.some.inj hhead
        obtain ⟨t, ht⟩ := parseOptions_unscaled oneEnv s options hscale
        have hbeyond := parseOptions_beyond ht
        have hstate : t.state = .established := (congrArg (·.state) hbeyond).trans htells.state
        refine ⟨t, true, ?_, ⟨hstate, (congrArg (·.sndUna) hbeyond).trans htells.sndUna,
          (congrArg (·.unsentSlist) hbeyond).trans htells.unsent, by simp [ignoresData, hctl]⟩,
          congrArg (·.tsRecent) hbeyond, congrArg (·.tsLastack) hbeyond⟩
        dsimp only
        rw [if_neg (fun h => h rfl), ht]
        simp only [bind, Except.bind, answerConnect, hstate]
        rfl
  · rw [if_neg hctl]
    exact ⟨s, false, rfl, htells, rfl, rfl⟩

lemma updateTimestamp_tells (htells : s.Tells seg) : (s.updateTimestamp seg).Tells seg := by
  unfold updateTimestamp
  split
  · exact { htells with ignores := htells.ignores }
  · exact htells

lemma notifyWritable_tells (htells : s.Tells seg) : s.notifyWritable.Tells seg := by
  unfold notifyWritable
  dsimp only
  split
  · exact { htells with ignores := htells.ignores }
  · exact htells

/-- A segment with data is not the end of the connection for an open socket. -/
lemma receiveFin_tells (htells : s.Tells seg) (hdata : seg.data ≠ []) :
    ∃ b, s.receiveFin seg false = .ok (s, b) := by
  have hlen : seg.data.length ≠ 0 := fun h => hdata (List.eq_nil_of_length_eq_zero h)
  unfold receiveFin
  by_cases hsup : s.supportFinAck = true
  · rw [if_pos hsup]
    cases hfin : seg.flags.has FLAG_FIN with
    | true => exact ⟨false, by simp [hlen]⟩
    | false => exact ⟨true, by simp [htells.state, finTransition]⟩
  · rw [if_neg hsup]
    exact ⟨true, rfl⟩

/-- A socket that ignores data has an answer to it. -/
lemma receiveData_tells (htells : s.Tells seg) :
    ∃ t, s.receiveData oneEnv seg = .ok t ∧ t.tsRecent = s.tsRecent := by
  have hreceive : ∃ r sflags, s.toIncoming.receive s.ackDelay (s.ignoresData seg) seg =
      .ok (r, sflags, false) := by
    rw [htells.ignores]
    unfold Incoming.receive
    dsimp only
    split
    · split
      · exact ⟨_, _, rfl⟩
      · exact ⟨_, _, rfl⟩
    · split
      · rw [if_pos rfl]
        split
        · exact ⟨_, _, rfl⟩
        · exact ⟨_, _, rfl⟩
      · exact ⟨_, _, rfl⟩
  obtain ⟨r, sflags, hr⟩ := hreceive
  obtain ⟨t, ht, hrecent⟩ := attemptSend_idle (s := { s with toIncoming := r }) oneEnv sflags
    (oneEnv.clock 1) htells.unsent
  refine ⟨t, ?_, hrecent⟩
  unfold receiveData
  rw [hr]
  dsimp only [bind, Except.bind]
  rw [ht]
  rfl

variable (seg) in
/-- An open socket takes a segment with data whose control data it accepts. -/
lemma process_established {n : ℕ} (hdata : seg.data ≠ []) (hrst : ¬ seg.flags.has FLAG_RST = true)
    (hcontrol : AcceptsControl seg) :
    ∃ r, (telling .established seg n).process oneEnv seg = .ok r ∧
      r.1.tsRecent = ((telling .established seg n).updateTimestamp seg).tsRecent := by
  unfold process
  rw [if_neg (fun h => h rfl)]
  dsimp only
  rw [if_neg (by rintro (h | ⟨h, -⟩) <;> cases h), if_neg hrst]
  obtain ⟨s, hs⟩ : ∃ s, s = (telling .established seg n).noteArrival
      ((telling .established seg n).getCurrentTime (oneEnv.clock 0)) := ⟨_, rfl⟩
  have htells : s.Tells seg := by
    rw [hs]
    exact ⟨rfl, rfl, rfl, by simp [ignoresData, noteArrival, telling, pseudoTcpSocketNew]⟩
  have hrecent : s.tsRecent = (telling .established seg n).tsRecent := by rw [hs]; rfl
  have hlast : s.tsLastack = (telling .established seg n).tsLastack := by rw [hs]; rfl
  obtain ⟨t, b, ht, htells', hrecent', hlast'⟩ :=
    receiveControl_tells htells (by rw [hs]; rfl) hcontrol
  have hv := updateTimestamp_tells htells'
  have hvrecent : (t.updateTimestamp seg).tsRecent =
      ((telling .established seg n).updateTimestamp seg).tsRecent := by
    have heq (u : PseudoTcpSocket) : (u.updateTimestamp seg).tsRecent =
        if smallerOrEqual seg.seq u.tsLastack &&
          smaller u.tsLastack (seg.seq + UInt32.ofNat seg.data.length) then seg.tsval
        else u.tsRecent := by
      unfold updateTimestamp
      split <;> rfl
    rw [heq, heq, hlast', hlast, hrecent', hrecent]
  obtain ⟨c, hfin⟩ := receiveFin_tells hv hdata
  have hopen : (t.updateTimestamp seg).openOnSegment b = .ok (t.updateTimestamp seg) := by
    rw [openOnSegment, if_neg (by rw [hv.state]; rintro ⟨h, -⟩; cases h)]
  rw [← hs]
  unfold processSegment
  simp only [ht, receiveAck_telling oneEnv _ hv.sndUna, hopen, hfin, bind, Except.bind]
  cases c with
  | false => exact ⟨_, rfl, hvrecent⟩
  | true =>
      obtain ⟨u, hu, hurecent⟩ := receiveData_tells (notifyWritable_tells hv)
      refine ⟨(u, true), ?_, ?_⟩
      · dsimp only
        rw [hu]
        rfl
      · exact (hurecent.trans (notifyWritable_keeps _).2).trans hvrecent

/-! ### The condition -/

/-- The control data of a packet that is not blind to its data is accepted. -/
lemma acceptsControl_of_not_blind (hp : parse p = some seg) (h : ¬ Blind p) :
    ¬ seg.flags.has FLAG_RST = true ∧ AcceptsControl seg := by
  refine ⟨fun hrst => h ⟨seg, hp, .inl hrst⟩, fun hctl => ?_⟩
  by_contra hno
  exact h ⟨seg, hp, .inr ⟨hctl, hno⟩⟩

/-- A packet and the same one with more behind it are told apart, unless both are refused or
blind to their data. -/
lemma lengths_told_apart {q : Bytes} (hpq : p <+: q) (hlt : p.length < q.length)
    (hrefused : ¬ (Refused p.length ∧ Refused q.length))
    (hblind : ¬ (HEADER_SIZE < p.length ∧ q.length ≤ MAX_PACKET ∧ Blind p)) :
    ∃ s : PseudoTcpSocket, s.notifyPacket oneEnv p ≠ s.notifyPacket oneEnv q := by
  have hmax : MAX_PACKET = 65535 := rfl
  have hheader : HEADER_SIZE = 24 := rfl
  by_cases hp : Refused p.length
  · -- the longer one is taken
    have hq : ¬ Refused q.length := fun hq => hrefused ⟨hp, hq⟩
    obtain ⟨_, _, _, hparse, -⟩ :=
      parse_prefix (List.prefix_refl q) (by by_contra h; exact hq (.inl (by omega)))
    exact ⟨_, refused_told_apart hp hq hparse⟩
  obtain ⟨seg, data, data', hparse, hparse', hdata, hlen, hlen'⟩ :=
    parse_prefix hpq (by by_contra h; exact hp (.inl (by omega)))
  by_cases hq : Refused q.length
  · exact ⟨_, (refused_told_apart hq hp hparse).symm⟩
  have hqmax : q.length ≤ MAX_PACKET := by
    by_contra h
    exact hq (.inr (by omega))
  have hne' : data' ≠ [] := List.ne_nil_of_length_pos (by omega)
  rcases Nat.eq_or_lt_of_le (show HEADER_SIZE ≤ p.length by omega) with heq | hgt
  · -- only the longer one has data
    have hnil : data = [] := List.eq_nil_of_length_eq_zero (by omega)
    subst hnil
    refine ⟨telling .finWait1 seg 0, ?_⟩
    rw [notifyPacket_accepted _ _ hp hparse, notifyPacket_accepted _ _ hq hparse']
    exact data_told_apart hne'
  · -- the longer one has the newer timestamp
    have hnot : ¬ Blind p := fun h => hblind ⟨hgt, hqmax, h⟩
    have hne : data ≠ [] := List.ne_nil_of_length_pos (by omega)
    obtain ⟨hrst, hcontrol⟩ := acceptsControl_of_not_blind hparse hnot
    obtain ⟨hrst', hcontrol'⟩ :=
      acceptsControl_of_not_blind hparse' fun h => hnot ((blind_iff hpq hgt).mpr h)
    refine ⟨telling .established seg data.length, fun heq => ?_⟩
    rw [notifyPacket_accepted _ _ hp hparse, notifyPacket_accepted _ _ hq hparse'] at heq
    obtain ⟨r, hr, hrecent⟩ :=
      process_established { seg with data } (n := data.length) hne hrst hcontrol
    obtain ⟨r', hr', hrecent'⟩ :=
      process_established { seg with data := data' } (n := data.length) hne' hrst' hcontrol'
    have hsame : r = r' := Except.ok.inj (hr.symm.trans (heq.trans hr'))
    have hle := hdata.length_le
    have hold := updateTimestamp_telling { seg with data }
      (s := telling .established seg data.length) le_rfl (show data.length < 65536 by omega) rfl rfl
    have hnew := updateTimestamp_telling { seg with data := data' }
      (s := telling .established seg data.length) hle (show data'.length < 65536 by omega) rfl rfl
    rw [if_neg (lt_irrefl _)] at hold
    rw [if_pos (show data.length < data'.length by omega)] at hnew
    have hcontra : seg.tsval + 1 = seg.tsval :=
      calc seg.tsval + 1 = r.1.tsRecent := (hrecent.trans hold).symm
        _ = r'.1.tsRecent := by rw [hsame]
        _ = seg.tsval := hrecent'.trans hnew
    have := congrArg UInt32.toNat hcontra
    rw [toNat_add, show (1 : UInt32).toNat = 1 from rfl] at this
    omega

/-- A message that does not agree is told apart from its packet. -/
lemma disagrees_told_apart {message : NiceInputMessage} (h : HoldsPacket message p)
    (hdisagrees : ¬ Agrees message p) :
    ∃ s : PseudoTcpSocket, notifyMessage oneEnv s message ≠ .ok (s.notifyPacket oneEnv p) := by
  rcases h.buffers with ⟨buffer, hbuffers⟩ | ⟨header, data, hbuffers, -⟩
  · obtain ⟨hp, hsize, hlen⟩ := holdsPacket_single h hbuffers
    simp only [notifyMessage, hbuffers, ne_eq, Except.ok.injEq]
    obtain ⟨q, hq⟩ : ∃ q, q = buffer.take (buffer.length % 2 ^ 32) := ⟨_, rfl⟩
    rw [← hq] at hlen ⊢
    have hqb : q <+: buffer := hq ▸ List.take_prefix _ _
    simp only [Agrees, hsize, ← hlen, not_or] at hdisagrees
    obtain ⟨-, hne, hrefused, hblind⟩ := hdisagrees
    rcases prefix_total hp hqb with hpq | hqp
    · obtain ⟨s, hs⟩ := lengths_told_apart hpq (lt_of_le_of_ne hpq.length_le (Ne.symm hne))
        (fun hboth => hrefused ⟨hboth.2, hboth.1⟩)
        fun ⟨h1, h2, hb⟩ => hblind ⟨h1.trans_le hpq.length_le, h2, h1, hpq.length_le.trans h2, hb⟩
      exact ⟨s, hs.symm⟩
    · exact lengths_told_apart hqp (lt_of_le_of_ne hqp.length_le hne) hrefused
        fun ⟨h1, h2, hb⟩ => hblind ⟨h1, hqp.length_le.trans h2, h1.trans_le hqp.length_le, h2,
          (blind_iff hqp h1).mp hb⟩
  · exact absurd (.inl (by rw [hbuffers]; rfl)) hdisagrees

/-- **A message is taken like its packet** by every socket exactly when it has two buffers, or
one whose size is the length of the packet, or one where the two lengths make no difference. -/
theorem notifyMessage_iff {message : NiceInputMessage} (h : HoldsPacket message p) :
    (∀ env s, notifyMessage env s message = .ok (s.notifyPacket env p)) ↔ Agrees message p := by
  refine ⟨fun hall => ?_, notifyMessage_eq h⟩
  by_contra hdisagrees
  obtain ⟨s, hs⟩ := disagrees_told_apart h hdisagrees
  exact hs (hall oneEnv s)

/-- A packet with one byte of data, for a socket that has opened with `connectReply`. -/
def onePacket : Bytes :=
  be32 7 ++ be32 7 ++ be32 7 ++ [0, FLAG_NONE] ++ be16 1000 ++ be32 0 ++ be32 0 ++ [42]

/-- The packet in two buffers, the second one larger than needed. -/
theorem notifyMessage_iff_sample :
    let s := pseudoTcpSocketNew 7 true (fun _ => 0) (fun _ => 0)
    notifyMessage calmEnv s ⟨[onePacket.take HEADER_SIZE, [42, 0, 0]], 25⟩ =
      .ok (s.notifyPacket calmEnv onePacket) :=
  (notifyMessage_iff
    { buffers := .inr ⟨_, _, rfl, rfl⟩
      packet := ⟨[0, 0], rfl⟩
      length := rfl
      lt := by decide }).mpr (.inl rfl) calmEnv _

/-- **A buffer that is larger than the packet** appends what it holds behind the packet to the
stream. -/
theorem notifyMessage_garbage :
    let memory : ℕ → UInt8 := fun _ => 0
    let message : NiceInputMessage := ⟨[onePacket ++ [0, 0]], 25⟩
    HoldsPacket message onePacket ∧
      ∃ es s t t', Run Step (pseudoTcpSocketNew 7 true memory memory) es s ∧
        s.notifyPacket calmEnv onePacket = .ok (t, true) ∧
        notifyMessage calmEnv s message = .ok (.ok (t', true)) ∧
        t.getAvailableBytes = 1 ∧ t'.getAvailableBytes = 3 := by
  intro memory message
  let calls : List (Env × Op) :=
    [(calmEnv, .connect), (calmEnv, .notifyPacket (connectReply 7 1000))]
  have hopen : ((pseudoTcpSocketNew 7 true (fun _ => 0) (fun _ => 0)).callAll calls).map
      (fun s => ((s.notifyPacket calmEnv onePacket).map fun r => (r.1.getAvailableBytes, r.2),
        (s.notifyPacket calmEnv (onePacket ++ [0, 0])).map fun r => (r.1.getAvailableBytes, r.2))) =
      .ok (.ok (1, true), .ok (3, true)) := by
    decide
  obtain ⟨s, hs, hopen⟩ := Post.exists_of_map hopen
  obtain ⟨es, hrun⟩ := run_of_callAll hs
  simp only [Prod.mk.injEq] at hopen
  obtain ⟨⟨t, b⟩, ht, hobs⟩ := Post.exists_of_map hopen.1
  obtain ⟨⟨t', b'⟩, ht', hobs'⟩ := Post.exists_of_map hopen.2
  simp only [Prod.mk.injEq] at hobs hobs'
  obtain ⟨havail, rfl⟩ := hobs
  obtain ⟨havail', rfl⟩ := hobs'
  exact ⟨⟨.inl ⟨_, rfl⟩, ⟨[0, 0], rfl⟩, rfl, by decide⟩, es, s, t, t', hrun, ht,
    congrArg Except.ok ht', havail, havail'⟩

end PseudoTcpSocket

end LibNice.PseudoTcp
