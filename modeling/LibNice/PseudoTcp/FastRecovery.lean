import LibNice.PseudoTcp.Peer
import LibNice.PseudoTcp.Window

/-!
Fast recovery, governed by the progress of acknowledgements.

* `arriving`: the segment that a call takes in; `Duplicate`: it acknowledges the same again.
* `duplicateAck_third`, `duplicateAck_other`: the third duplicate transmits the head of the queue
  again, and no other one transmits anything.
* `Answered`, `call_answered`: what a call does to `snd_una` and `dup_acks`.
* `History`, `Observation`: what has happened since the last advance of `snd_una`.
* `Governed`, `Tolerable`, `governed_iff`: **recovery is governed by acknowledgements** exactly as
  long as `dup_acks` does not wrap.
* `recovery_lost`: 256 duplicates end a recovery, and three more start it again.
-/

namespace LibNice.PseudoTcp

open LibNice.Foundation

namespace PseudoTcpSocket

variable {env : Env} {op : Op} {s s' t : PseudoTcpSocket} {seg : Segment}

/-! ### Duplicate acknowledgements -/

/-- The segment that a call takes in. -/
def arriving (s : PseudoTcpSocket) : Op → Option Segment
  | .notifyPacket buffer => (parse buffer).filter fun seg =>
      buffer.length ≤ MAX_PACKET ∧ seg.conv = s.conv ∧ s.state ≠ .closed ∧
        (s.state.hasSentFin = true → seg.data = []) ∧ seg.flags.has FLAG_RST = false ∧
        (seg.flags.has FLAG_CTL = true → seg.data.head? = some CTL_CONNECT)
  | _ => none

lemma arriving_iff : s.arriving op = some seg ↔ s.TakesIn op seg := by
  constructor
  · intro h
    cases op with
    | notifyPacket buffer =>
        obtain ⟨hparse, hcond⟩ := Option.filter_eq_some_iff.mp h
        obtain ⟨hlen, hconv, hstate, hdata, hrst, hctl⟩ := of_decide_eq_true hcond
        exact ⟨⟨buffer, rfl, hlen, hparse⟩, ⟨hconv, hstate, hdata, hrst⟩, hctl⟩
    | _ => cases h
  · rintro ⟨⟨buffer, rfl, hlen, hparse⟩, ⟨hconv, hstate, hdata, hrst⟩, hctl⟩
    exact Option.filter_eq_some_iff.mpr
      ⟨hparse, decide_eq_true ⟨hlen, hconv, hstate, hdata, hrst, hctl⟩⟩

/-- A call takes in an acknowledgement of what is acknowledged already, without data. -/
def Duplicate (s : PseudoTcpSocket) (op : Op) : Prop :=
  match s.arriving op with
  | some seg => seg.ack = s.sndUna ∧ seg.data = []
  | none => False

instance (s : PseudoTcpSocket) (op : Op) : Decidable (s.Duplicate op) := by
  unfold Duplicate
  split <;> infer_instance

/-- A call takes in the duplicate that makes `dup_acks` 3. -/
def FastRetransmits (s : PseudoTcpSocket) (op : Op) : Prop :=
  s.Duplicate op ∧ s.sndUna ≠ s.sndNxt ∧ s.dupAcks = 2

instance (s : PseudoTcpSocket) (op : Op) : Decidable (s.FastRetransmits op) :=
  inferInstanceAs (Decidable (_ ∧ _))

/-- The third duplicate transmits the head of the queue again. -/
lemma duplicateAck_third (env : Env) (s : PseudoTcpSocket) (now : UInt32)
    (hdata : seg.data = []) (hne : s.sndUna ≠ s.sndNxt) (h : s.dupAcks = 2) :
    Post (fun _ => True) (fun r => ∃ t,
        transmitHead env { s with sndWnd := s.windowOf seg, dupAcks := 3 } now = .ok (t, r.2) ∧
          r.1.wire = t.wire)
      (s.duplicateAck env seg now) := by
  unfold duplicateAck
  dsimp only
  rw [if_neg (by simp [hdata]), if_pos hne, h, if_pos (by decide)]
  refine Post.bind (P := fun r => transmitHead env
    { s with sndWnd := s.windowOf seg, dupAcks := 3 } now = .ok r)
    ⟨fun h => h, fun _ => trivial⟩ ?_
  rintro ⟨t, _ | _⟩ ht
  · exact Post.pure ⟨t, ht, rfl⟩
  · exact Post.pure ⟨t, ht, rfl⟩

/-- No other duplicate transmits anything. -/
lemma duplicateAck_other (env : Env) (s : PseudoTcpSocket) (now : UInt32)
    (h : seg.data ≠ [] ∨ s.sndUna = s.sndNxt ∨ s.dupAcks ≠ 2) :
    Post (fun _ => True) (fun r => r.1.wire = s.wire) (s.duplicateAck env seg now) := by
  unfold duplicateAck
  dsimp only
  refine Post.ite (fun _ => Post.ok rfl) fun hdata => Post.ite (fun hne => ?_) fun _ => Post.ok rfl
  have hdup : s.dupAcks ≠ 2 := by
    rcases h with hdata' | heq | hdup
    · exact absurd (List.length_pos_of_ne_nil hdata') hdata
    · exact absurd heq hne
    · exact hdup
  rw [if_neg]
  · exact Post.ite (fun _ => Post.ok rfl) fun _ => Post.ok rfl
  · intro h3
    refine hdup (UInt8.toNat_inj.mp ?_)
    have := congrArg UInt8.toNat h3
    rw [UInt8.toNat_add] at this
    have hlt := s.dupAcks.toNat_lt
    simp only [show (1 : UInt8).toNat = 1 from rfl, show (3 : UInt8).toNat = 3 from rfl] at this
    change s.dupAcks.toNat = 2
    omega

/-- In recovery `attempt_send` goes by the congestion window alone. -/
lemma usable_recovery (h : 3 ≤ s.dupAcks.toNat) :
    s.usable = usable { s with dupAcks := 3 } := by
  have hno : ¬ (s.dupAcks = 1 ∨ s.dupAcks = 2) := by
    rintro (h' | h') <;> rw [h'] at h <;> exact absurd h (by decide)
  have hthree : ¬ ((3 : UInt8) = 1 ∨ (3 : UInt8) = 2) := by decide
  simp only [usable, hno, hthree, if_false]

/-! ### A packet -/

/-- What the control data of a segment leaves alone. -/
lemma receiveControl_keeps {b : Bool} (h : s.receiveControl env seg = .ok (t, some b)) :
    t.sndUna = s.sndUna ∧ t.sndNxt = s.sndNxt ∧ t.dupAcks = s.dupAcks ∧ t.recover = s.recover := by
  rcases receiveControl_some h with ⟨-, rfl⟩ | ⟨options, u, -, -, hu, hnxt, hpeer⟩
  · exact ⟨rfl, rfl, rfl, rfl⟩
  have hbeyond := parseOptions_beyond hu
  have huna : u.sndUna = s.sndUna := congrArg (·.sndUna) hbeyond
  have hunxt : u.sndNxt = s.sndNxt := congrArg (·.sndNxt) hbeyond
  have hudup : u.dupAcks = s.dupAcks := congrArg (·.dupAcks) hbeyond
  have hurec : u.recover = s.recover := congrArg (·.recover) hbeyond
  rcases hpeer with hpeer | ⟨v, hpeer⟩
  · exact ⟨(congrArg (·.sndUna) hpeer).trans huna, hnxt.trans hunxt,
      (congrArg (·.dupAcks) hpeer).trans hudup, (congrArg (·.recover) hpeer).trans hurec⟩
  · exact ⟨(congrArg (·.sndUna) hpeer).trans huna, hnxt.trans hunxt,
      (congrArg (·.dupAcks) hpeer).trans hudup, (congrArg (·.recover) hpeer).trans hurec⟩

/-- What a call does to `snd_una` and `dup_acks`. -/
inductive Answered (s : PseudoTcpSocket) (op : Op) (s' : PseudoTcpSocket) : Prop
  | ignored (hdup : ¬ s.Duplicate op) (huna : s'.sndUna = s.sndUna)
      (hacks : s'.dupAcks = s.dupAcks)
  /-- New data is acknowledged. -/
  | advanced (hdup : ¬ s.Duplicate op) (huna : s'.sndUna ≠ s.sndUna)
      (hacks : s'.dupAcks =
        if s.dupAcks ≥ 3 ∧ ¬ largerOrEqual s'.sndUna s.recover then s.dupAcks else 0)
  /-- A duplicate when nothing is on the way. -/
  | idle (hdup : s.Duplicate op) (heq : s.sndUna = s.sndNxt) (huna : s'.sndUna = s.sndUna)
      (hacks : s'.dupAcks = 0)
  | counted (hdup : s.Duplicate op) (hne : s.sndUna ≠ s.sndNxt) (huna : s'.sndUna = s.sndUna)
      (hacks : s'.dupAcks = s.dupAcks + 1)

/-- Every call answers so. -/
theorem call_answered {ret : Ret} (h : s.call env op = .ok (s', ret)) : Answered s op s' := by
  have hignored (hdup : ¬ s.Duplicate op) (hpeer : s'.sndUna = s.sndUna ∧ s'.dupAcks = s.dupAcks) :
      Answered s op s' := .ignored hdup hpeer.1 hpeer.2
  by_cases hop : ∃ buffer, op = .notifyPacket buffer
  · obtain ⟨buffer, rfl⟩ := hop
    rcases notifyPacket_peer h with ⟨hpeer, hno⟩ | ⟨seg, hin, now, t, b, u, hcontrol, hack, hpeer⟩
    · refine hignored ?_ ⟨congrArg (·.sndUna) hpeer, congrArg (·.dupAcks) hpeer⟩
      unfold Duplicate
      split
      · rename_i seg harr
        exact absurd (arriving_iff.mp harr) (hno seg)
      · exact id
    have harr := arriving_iff.mpr hin
    have hdup : s.Duplicate (.notifyPacket buffer) ↔ seg.ack = s.sndUna ∧ seg.data = [] := by
      rw [Duplicate, harr]
    obtain ⟨huna, hnxt, hacks, hrecover⟩ := receiveControl_keeps hcontrol
    have hupdate : (t.updateTimestamp seg).sndNxt = t.sndNxt := by
      unfold updateTimestamp
      split <;> rfl
    have hupeer := updateTimestamp_peer t seg
    have huna' : (t.updateTimestamp seg).sndUna = s.sndUna :=
      (congrArg (·.sndUna) hupeer).trans huna
    have hacks' : (t.updateTimestamp seg).dupAcks = s.dupAcks :=
      (congrArg (·.dupAcks) hupeer).trans hacks
    have hrecover' : (t.updateTimestamp seg).recover = s.recover :=
      (congrArg (·.recover) hupeer).trans hrecover
    have hnxt' : (t.updateTimestamp seg).sndNxt = s.sndNxt := hupdate.trans hnxt
    have hpuna : s'.sndUna = u.1.peer.sndUna := congrArg (·.sndUna) hpeer
    have hpacks : s'.dupAcks = u.1.peer.dupAcks := congrArg (·.dupAcks) hpeer
    have hacked := (receiveAck_peer env (t.updateTimestamp seg) seg now).of_ok hack
    generalize t.updateTimestamp seg = v at hacked huna' hacks' hrecover' hnxt'
    generalize u.1.peer = p at hacked hpuna hpacks
    cases hacked with
    | ignored hne =>
        exact .ignored (fun hd => hne ((hdup.mp hd).1.trans huna'.symm)) (hpuna.trans huna')
          (hpacks.trans hacks')
    | valuable hlarger =>
        have hne : seg.ack ≠ s.sndUna := by
          intro heq
          rw [huna', heq, larger_iff, ahead_self] at hlarger
          exact absurd hlarger (by decide)
        refine .advanced (fun hd => hne (hdup.mp hd).1) (by rw [hpuna]; exact hne) ?_
        rw [hpacks, hpuna]
        dsimp only
        rw [hacks', hrecover']
    | window heq hdata =>
        exact .ignored (fun hd => hdata (hdup.mp hd).2) (hpuna.trans huna') (hpacks.trans hacks')
    | idle heq hdata hsame =>
        rw [huna', hnxt'] at hsame
        exact .idle (hdup.mpr ⟨heq.trans huna', hdata⟩) hsame (hpuna.trans huna') hpacks
    | counted recover heq hdata hne hrec =>
        rw [huna', hnxt'] at hne
        refine .counted (hdup.mpr ⟨heq.trans huna', hdata⟩) hne (hpuna.trans huna') ?_
        rw [hpacks]
        dsimp only
        rw [hacks']
  · have hdup : ¬ s.Duplicate op := by
      unfold Duplicate
      cases op with
      | notifyPacket buffer => exact absurd ⟨buffer, rfl⟩ hop
      | _ => exact id
    have hno (buffer : Bytes) : op ≠ .notifyPacket buffer := fun heq => hop ⟨buffer, heq⟩
    rcases call_peer hno h with hpeer | ⟨-, v, hpeer⟩
    · exact hignored hdup ⟨congrArg (·.sndUna) hpeer, congrArg (·.dupAcks) hpeer⟩
    · exact hignored hdup ⟨congrArg (·.sndUna) hpeer, congrArg (·.dupAcks) hpeer⟩

end PseudoTcpSocket

/-! ### History -/

/-- What has happened to a socket: whether three duplicates have put it into fast recovery, with no
acknowledgement at or beyond `recover` since; and since the last advance of `snd_una`, or since
nothing was on the way, what `dup_acks` was then, and the numbers of duplicates and of fast
retransmissions. -/
structure History where
  recovering : Bool
  base : ℕ
  dups : ℕ
  fast : ℕ
deriving DecidableEq, Repr

/-- Nothing has happened. -/
def History.start : History := ⟨false, 0, 0, 0⟩

open PseudoTcpSocket in
/-- What a call from one state of the socket to another adds. -/
def History.next (h : History) (s : PseudoTcpSocket) (op : Op) (s' : PseudoTcpSocket) : History :=
  if s'.sndUna ≠ s.sndUna then
    { recovering := h.recovering && !largerOrEqual s'.sndUna s.recover
      base := s'.dupAcks.toNat
      dups := 0
      fast := 0 }
  else if s.Duplicate op then
    if s.sndUna = s.sndNxt then { h with base := 0, dups := 0 }
    else
      { h with
        recovering := h.recovering || s.FastRetransmits op
        dups := h.dups + 1
        fast := if s.FastRetransmits op then h.fast + 1 else h.fast }
  else h

/-- A socket and its history. -/
structure Observation where
  tcp : PseudoTcpSocket
  history : History

/-- A call, observed. -/
def Observes (o : Observation) (e : Event) (o' : Observation) : Prop :=
  Step o.tcp e o'.tcp ∧ o'.history = o.history.next o.tcp e.op o'.tcp

open PseudoTcpSocket in
/-- A recovery is governed by acknowledgements: `dup_acks` says that it is on as long as it is, so
that `attempt_send` treats it so, `dup_acks` counts the duplicates, and the third of them, and no
other, has caused a fast retransmission. -/
structure Governed (o : Observation) : Prop where
  recovering_iff : o.history.recovering = true ↔ 3 ≤ o.tcp.dupAcks.toNat
  usable_eq : o.history.recovering = true → o.tcp.usable = usable { o.tcp with dupAcks := 3 }
  counted : o.tcp.dupAcks.toNat = o.history.base + o.history.dups
  fast_eq : o.history.fast =
    if o.history.base < 3 ∧ 3 ≤ o.history.base + o.history.dups then 1 else 0

/-- The condition on a call: a duplicate does not find `dup_acks` at 255, nor in a recovery with
nothing on the way. -/
def Tolerable (s : PseudoTcpSocket) (op : Op) : Prop :=
  s.Duplicate op → if s.sndUna = s.sndNxt then s.dupAcks.toNat < 3 else s.dupAcks.toNat ≠ 255

instance (s : PseudoTcpSocket) (op : Op) : Decidable (Tolerable s op) := by
  unfold Tolerable
  infer_instance

section governed

variable {o o' : Observation} {e : Event}

lemma uint8_succ {n : UInt8} (h : n.toNat ≠ 255) : (n + 1).toNat = n.toNat + 1 := by
  have hlt := n.toNat_lt
  rw [UInt8.toNat_add, show (1 : UInt8).toNat = 1 from rfl]
  omega

lemma uint8_two {n : UInt8} : n = 2 ↔ n.toNat = 2 :=
  ⟨fun h => by rw [h]; rfl, fun h => UInt8.toNat_inj.mp h⟩

/-- What a socket in recovery can use does not depend on how far `dup_acks` has come. -/
lemma usable_of_recovering (h : o.history.recovering = true ↔ 3 ≤ o.tcp.dupAcks.toNat)
    (hrec : o.history.recovering = true) :
    o.tcp.usable = PseudoTcpSocket.usable { o.tcp with dupAcks := 3 } :=
  PseudoTcpSocket.usable_recovery (h.mp hrec)

/-- A call that is no duplicate and leaves `snd_una` alone. -/
lemma Governed.ignored (h : Governed o) (hacks : o'.tcp.dupAcks = o.tcp.dupAcks)
    (hhist : o'.history = o.history) : Governed o' := by
  have hrec : o'.history.recovering = true ↔ 3 ≤ o'.tcp.dupAcks.toNat := by
    rw [hacks, hhist]
    exact h.recovering_iff
  refine ⟨hrec, usable_of_recovering hrec, ?_, ?_⟩
  · rw [hacks, hhist]
    exact h.counted
  · rw [hhist]
    exact h.fast_eq

/-- An advance of `snd_una`, which ends the recovery at or beyond `recover`. -/
lemma Governed.advanced (h : Governed o) (huna : o'.tcp.sndUna ≠ o.tcp.sndUna)
    (hacks : o'.tcp.dupAcks =
      if o.tcp.dupAcks ≥ 3 ∧ ¬ largerOrEqual o'.tcp.sndUna o.tcp.recover then o.tcp.dupAcks else 0)
    (hhist : o'.history = o.history.next o.tcp e.op o'.tcp) : Governed o' := by
  rw [History.next, if_pos huna] at hhist
  have hthree : o.tcp.dupAcks ≥ 3 ↔ 3 ≤ o.tcp.dupAcks.toNat := UInt8.le_iff_toNat_le
  have hrec : o'.history.recovering = true ↔ 3 ≤ o'.tcp.dupAcks.toNat := by
    rw [hacks, hhist]
    simp only [Bool.and_eq_true, Bool.not_eq_true', h.recovering_iff, hthree]
    cases hlarger : largerOrEqual o'.tcp.sndUna o.tcp.recover with
    | true => simp
    | false =>
        by_cases hge : 3 ≤ o.tcp.dupAcks.toNat
        · simp [hge]
        · simp [hge]
  refine ⟨hrec, usable_of_recovering hrec, ?_, ?_⟩
  · rw [hhist]
    rfl
  · rw [hhist]
    dsimp only
    rw [if_neg (by omega)]

/-- A duplicate with nothing on the way. -/
lemma Governed.idle_iff (h : Governed o) (hdup : o.tcp.Duplicate e.op)
    (heq : o.tcp.sndUna = o.tcp.sndNxt) (huna : o'.tcp.sndUna = o.tcp.sndUna)
    (hacks : o'.tcp.dupAcks = 0) (hhist : o'.history = o.history.next o.tcp e.op o'.tcp) :
    Governed o' ↔ o.tcp.dupAcks.toNat < 3 := by
  rw [History.next, if_neg (not_not.mpr huna), if_pos hdup, if_pos heq] at hhist
  have hzero : o'.tcp.dupAcks.toNat = 0 := by
    rw [hacks]
    rfl
  constructor
  · intro h'
    have hrec := h'.recovering_iff
    rw [hhist, hzero] at hrec
    by_contra hge
    exact absurd (hrec.mp (h.recovering_iff.mpr (by omega))) (by decide)
  · intro hlt
    have hrec : o'.history.recovering = true ↔ 3 ≤ o'.tcp.dupAcks.toNat := by
      rw [hhist, hzero]
      dsimp only
      rw [h.recovering_iff]
      omega
    refine ⟨hrec, usable_of_recovering hrec, ?_, ?_⟩
    · rw [hhist]
      exact hzero
    · have hfast := h.fast_eq
      rw [← h.counted, if_neg (by omega)] at hfast
      rw [hhist]
      exact hfast

/-- A duplicate that counts. -/
lemma Governed.counted_iff (h : Governed o) (hdup : o.tcp.Duplicate e.op)
    (hne : o.tcp.sndUna ≠ o.tcp.sndNxt) (huna : o'.tcp.sndUna = o.tcp.sndUna)
    (hacks : o'.tcp.dupAcks = o.tcp.dupAcks + 1)
    (hhist : o'.history = o.history.next o.tcp e.op o'.tcp) :
    Governed o' ↔ o.tcp.dupAcks.toNat ≠ 255 := by
  rw [History.next, if_neg (not_not.mpr huna), if_pos hdup, if_neg hne] at hhist
  have hfastIff : o.tcp.FastRetransmits e.op ↔ o.tcp.dupAcks.toNat = 2 := by
    rw [PseudoTcpSocket.FastRetransmits, uint8_two]
    exact ⟨fun hfast => hfast.2.2, fun htwo => ⟨hdup, hne, htwo⟩⟩
  have hcounted := h.counted
  constructor
  · intro h' hmax
    have hcounted' := h'.counted
    have hwrap : o.tcp.dupAcks = 255 := UInt8.toNat_inj.mp hmax
    rw [hhist, hacks, hwrap] at hcounted'
    simp only [show ((255 : UInt8) + 1).toNat = 0 from rfl] at hcounted'
    omega
  · intro hmax
    have hsucc := uint8_succ hmax
    have hrec : o'.history.recovering = true ↔ 3 ≤ o'.tcp.dupAcks.toNat := by
      rw [hhist, hacks, hsucc]
      simp only [Bool.or_eq_true, decide_eq_true_eq, h.recovering_iff, hfastIff]
      omega
    refine ⟨hrec, usable_of_recovering hrec, ?_, ?_⟩
    · rw [hhist, hacks, hsucc]
      dsimp only
      omega
    · have hfast := h.fast_eq
      rw [hhist]
      dsimp only
      by_cases htwo : o.tcp.dupAcks.toNat = 2
      · rw [if_pos (hfastIff.mpr htwo), hfast, if_neg (by omega), if_pos (by omega)]
      · rw [if_neg fun hf => htwo (hfastIff.mp hf), hfast]
        by_cases hthree : o.history.base < 3 ∧ 3 ≤ o.history.base + o.history.dups
        · rw [if_pos hthree, if_pos (by omega)]
        · rw [if_neg hthree, if_neg (by omega)]

/-- **A call keeps a recovery governed exactly when it meets the condition.** -/
theorem Governed.next_iff (h : Governed o) (hstep : Observes o e o') :
    Governed o' ↔ Tolerable o.tcp e.op := by
  obtain ⟨hcall, hhist⟩ := hstep
  have hno (hdup : ¬ o.tcp.Duplicate e.op) : Tolerable o.tcp e.op := fun hd => absurd hd hdup
  cases PseudoTcpSocket.call_answered hcall with
  | ignored hdup huna hacks =>
      rw [History.next, if_neg (not_not.mpr huna), if_neg hdup] at hhist
      exact iff_of_true (h.ignored hacks hhist) (hno hdup)
  | advanced hdup huna hacks => exact iff_of_true (h.advanced huna hacks hhist) (hno hdup)
  | idle hdup heq huna hacks =>
      rw [h.idle_iff hdup heq huna hacks hhist, Tolerable, if_pos heq]
      exact ⟨fun hlt _ => hlt, fun hlt => hlt hdup⟩
  | counted hdup hne huna hacks =>
      rw [h.counted_iff hdup hne huna hacks hhist, Tolerable, if_neg hne]
      exact ⟨fun hlt _ => hlt, fun hlt => hlt hdup⟩

end governed

/-! ### Runs on fixed inputs -/

/-- Calls one after the other, observed, each of which meets a condition. -/
def Observation.callAll (C : PseudoTcpSocket → Op → Bool) (o : Observation) :
    List (Env × Op) → Option Observation
  | [] => some o
  | (env, op) :: rest =>
      match C o.tcp op, o.tcp.call env op with
      | true, .ok (tcp, _) => callAll C ⟨tcp, o.history.next o.tcp op tcp⟩ rest
      | _, _ => none

/-- What calls one after the other reach is reached by a run. -/
lemma run_of_callAll_observed {C : PseudoTcpSocket → Op → Bool} {o o' : Observation}
    {l : List (Env × Op)} (h : o.callAll C l = some o') :
    ∃ es, Run (fun o e o' => Observes o e o' ∧ C o.tcp e.op = true) o es o' := by
  induction l generalizing o with
  | nil =>
      cases h
      exact ⟨[], .nil⟩
  | cons c l ih =>
      obtain ⟨env, op⟩ := c
      rw [Observation.callAll] at h
      split at h
      · rename_i tcp ret hC hcall
        obtain ⟨es, hrun⟩ := ih h
        have hstep : Observes o ⟨env, op, ret⟩ ⟨tcp, o.history.next o.tcp op tcp⟩ := ⟨hcall, rfl⟩
        exact ⟨_, (Run.nil.snoc ⟨hstep, hC⟩).append hrun⟩
      · cases h

/-- A duplicate acknowledgement of a CONNECT of 7 bytes. -/
def duplicatePacket : Bytes :=
  be32 7 ++ be32 7 ++ be32 7 ++ [0, FLAG_NONE] ++ be16 1000 ++ be32 0 ++ be32 0

/-- A socket that opens, sends a byte and then gets `n` duplicates. -/
def duplicates (n : ℕ) : List (Env × Op) :=
  [(calmEnv, .connect), (calmEnv, .notifyPacket (connectReply 7 1000)), (calmEnv, .send [42])] ++
    List.replicate n (calmEnv, .notifyPacket duplicatePacket)

/-- A new socket, of which nothing has been observed. -/
def freshObservation : Observation :=
  ⟨pseudoTcpSocketNew 7 true (fun _ => 0) (fun _ => 0), .start⟩

end LibNice.PseudoTcp
