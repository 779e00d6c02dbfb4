import LibNice.PseudoTcp.Socket
import LibNice.Foundation.Post

/-!
What sending does to a socket, said once.

* `PseudoTcpSocket.core`: the part of a socket that sending leaves alone.
* `SendStep`: the steps that sending is made of, an acknowledgement, a segment that the
  network refuses or takes, a segment that is cut in two, and changes of the estimates.
* `transmit_steps`, `attemptSend_steps`: `transmit` and `attempt_send` are sequences of
  such steps, and never fail the assertion of `set_state`.
* `SendSteps.invariant`: what every step preserves holds after them.
-/

namespace LibNice.PseudoTcp

open LibNice.Foundation

namespace PseudoTcpSocket

variable {env : Env} {s s' s₁ : PseudoTcpSocket}

/-! ### What sending leaves alone -/

/-- The part of a socket that sending leaves alone: the rest is blanked out. -/
def core (s : PseudoTcpSocket) : PseudoTcpSocket :=
  { s with
    slist := []
    unsentSlist := []
    nextAddr := 0
    sndNxt := 0
    wire := []
    bOutgoing := false
    lastTraffic := 0
    lastsend := 0
    mss := 0
    msslevel := 0
    rtoBase := 0
    tsLastack := 0
    cwnd := 0
    tAck := 0 }

/-- The part of a socket that writing a packet leaves alone. -/
def quiet (s : PseudoTcpSocket) : PseudoTcpSocket :=
  { s with
    wire := []
    bOutgoing := false
    lastTraffic := 0
    lastsend := 0
    tsLastack := 0
    tAck := 0 }

lemma core_quiet (s : PseudoTcpSocket) : s.quiet.core = s.core := rfl

lemma core_of_quiet (h : s'.quiet = s.quiet) : s'.core = s.core := by
  rw [← core_quiet s', h, core_quiet]

section core

variable (h : s'.core = s.core)
include h

lemma core_incoming : s'.toIncoming = s.toIncoming := congrArg (·.toIncoming) h
lemma core_state : s'.state = s.state := congrArg (·.state) h
lemma core_sndUna : s'.sndUna = s.sndUna := congrArg (·.sndUna) h
lemma core_sbuf : s'.sbuf = s.sbuf := congrArg (·.sbuf) h
lemma core_sbufLen : s'.sbufLen = s.sbufLen := congrArg (·.sbufLen) h
lemma core_supportFinAck : s'.supportFinAck = s.supportFinAck := congrArg (·.supportFinAck) h
lemma core_shutdown : s'.shutdown = s.shutdown := congrArg (·.shutdown) h
lemma core_conv : s'.conv = s.conv := congrArg (·.conv) h
lemma core_sndWnd : s'.sndWnd = s.sndWnd := congrArg (·.sndWnd) h
lemma core_dupAcks : s'.dupAcks = s.dupAcks := congrArg (·.dupAcks) h
lemma core_recover : s'.recover = s.recover := congrArg (·.recover) h
lemma core_ssthresh : s'.ssthresh = s.ssthresh := congrArg (·.ssthresh) h

end core

/-! ### Packets -/

/-- The packet of a socket with the given header fields and payload. -/
def packetBytes (s : PseudoTcpSocket) (seq : UInt32) (flags : TcpFlags) (offset len : ℕ)
    (now : UInt32) : Bytes :=
  s.header seq flags now ++ if len = 0 then [] else s.sbuf.readOffset len offset

/-- What `packet` does: it writes one packet, whose payload has the length asked for. -/
lemma packet_post {E : Abort → Prop} (env : Env) (s : PseudoTcpSocket) (seq : UInt32)
    (flags : TcpFlags) (offset len : ℕ) (now : UInt32)
    (hlen : MAX_PACKET < (HEADER_SIZE + len) % 2 ^ 32 → E .packetLength)
    (hread : len ≠ 0 → (s.sbuf.readOffset len offset).length ≠ len → E .packetRead) :
    Post E (fun r => r.1.quiet = s.quiet ∧
        r.1.wire = s.wire ++ [s.packetBytes seq flags offset len now] ∧
        (HEADER_SIZE + len) % 2 ^ 32 ≤ MAX_PACKET ∧
        (len ≠ 0 → (s.sbuf.readOffset len offset).length = len) ∧
        (r.2 ≠ .success → env.writePacket s.wire (s.packetBytes seq flags offset len now) = r.2))
      (s.packet env seq flags offset len now) := by
  unfold packet packetBytes
  refine Post.ite (fun h => Post.error (hlen h)) fun h24 => ?_
  refine Post.ite (fun h => Post.error (hread h.1 h.2)) fun hok => ?_
  have hok' : len ≠ 0 → (s.sbuf.readOffset len offset).length = len := by
    intro h
    by_contra hne
    exact hok ⟨h, hne⟩
  refine Post.ite (fun _ => ?_) fun _ => ?_
  · exact Post.ok ⟨rfl, rfl, by omega, hok', fun _ => rfl⟩
  · exact Post.ok ⟨rfl, rfl, by omega, hok', fun h => absurd rfl h⟩

/-! ### The steps of sending -/

/-- One step of sending. -/
inductive SendStep (env : Env) (s : PseudoTcpSocket) : PseudoTcpSocket → Prop
  /-- An acknowledgement is put off. -/
  | delayAck (now : UInt32) : SendStep env s { s with tAck := now }
  /-- The congestion window starts again. -/
  | restart : SendStep env s { s with cwnd := s.mss }
  /-- The maximum segment size goes down the table. -/
  | lower (n : ℕ) (rest : List ℕ) : SendStep env s (lowerMss s n rest).1
  /-- A packet without payload. -/
  | ack {seq now : UInt32} {s' : PseudoTcpSocket} {r : PseudoTcpWriteResult}
      (hseq : seq = s.sndNxt ∨ seq = s.sndNxt - 1)
      (h : s.packet env seq FLAG_NONE 0 0 now = .ok (s', r)) : SendStep env s s'
  /-- A segment, or the first `n` bytes of it, that the network refuses. -/
  | refused {g : SSegment} {n : ℕ} {now : UInt32} {s' : PseudoTcpSocket}
      {r : PseudoTcpWriteResult} (hg : s.slist.find? (·.addr = g.addr) = some g) (hn : n ≤ g.len)
      (h : s.packet env g.seq g.flags (g.seq - s.sndUna).toNat n now = .ok (s', r))
      (hr : r ≠ .success) : SendStep env s s'
  /-- A segment, or the first `n` bytes of it, that the network takes. -/
  | sent {g : SSegment} {n : ℕ} {now : UInt32} {s₁ : PseudoTcpSocket} {o : Outgoing}
      (hg : s.slist.find? (·.addr = g.addr) = some g) (hn : n ≤ g.len)
      (h : s.packet env g.seq g.flags (g.seq - s.sndUna).toNat n now = .ok (s₁, .success))
      (ho : markSent s₁.toOutgoing g n = .ok o) :
      SendStep env s { s₁ with
        toOutgoing := o
        rtoBase := if s₁.rtoBase = 0 then now else s₁.rtoBase }
  /-- The first unsent segment is cut in two. -/
  | split {g : SSegment} {n : ℕ} (hu : s.unsentSlist.head? = some g.addr)
      (hg : s.slist.find? (·.addr = g.addr) = some g) (h0 : 0 < n) (hn : n < g.len) :
      SendStep env s { s with toOutgoing := splitSegment s.toOutgoing g n 0 }

/-- A sequence of steps of sending. -/
abbrev SendSteps (env : Env) : PseudoTcpSocket → PseudoTcpSocket → Prop :=
  Relation.ReflTransGen (SendStep env)

/-- What every step of sending preserves holds after any number of them. -/
theorem SendSteps.invariant {I : PseudoTcpSocket → Prop} (h : SendSteps env s s') (h₀ : I s)
    (hstep : ∀ t u, I t → SendStep env t u → I u) : I s' := by
  induction h with
  | refl => exact h₀
  | tail _ hs ih => exact hstep _ _ ih hs

/-- A postcondition of `packet` when it returns. -/
lemma packet_ok {seq : UInt32} {flags : TcpFlags} {offset len : ℕ} {now : UInt32}
    {r : PseudoTcpWriteResult} (h : s.packet env seq flags offset len now = .ok (s', r)) :
    s'.quiet = s.quiet ∧ s'.wire = s.wire ++ [s.packetBytes seq flags offset len now] ∧
      (HEADER_SIZE + len) % 2 ^ 32 ≤ MAX_PACKET ∧
      (len ≠ 0 → (s.sbuf.readOffset len offset).length = len) ∧
      (r ≠ .success → env.writePacket s.wire (s.packetBytes seq flags offset len now) = r) :=
  (packet_post (E := fun _ => True) env s seq flags offset len now (fun _ => trivial)
    fun _ _ => trivial).of_ok h

/-- Going down the table of MTUs, level by level. -/
lemma lowerMss_cons (s : PseudoTcpSocket) (n m : ℕ) (rest : List ℕ) (hm : m ≠ 0) :
    lowerMss s n (m :: rest) =
      if (UInt32.ofNat (m - PACKET_OVERHEAD)).toNat < n then
        (s.nextLevel (UInt32.ofNat (m - PACKET_OVERHEAD)), true)
      else lowerMss (s.nextLevel (UInt32.ofNat (m - PACKET_OVERHEAD))) n rest := by
  rw [lowerMss]
  · rfl
  · simpa using hm

lemma lowerMss_zero (s : PseudoTcpSocket) (n : ℕ) (rest : List ℕ) :
    lowerMss s n (0 :: rest) = (s, false) := rfl

/-- Going down the table changes nothing but the estimates. -/
lemma lowerMss_core (s : PseudoTcpSocket) (n : ℕ) (rest : List ℕ) :
    (lowerMss s n rest).1.core = s.core ∧ (lowerMss s n rest).1.toOutgoing = s.toOutgoing ∧
      (lowerMss s n rest).1.wire = s.wire := by
  induction rest generalizing s with
  | nil => exact ⟨rfl, rfl, rfl⟩
  | cons m rest ih =>
      by_cases hm : m = 0
      · subst hm
        exact ⟨rfl, rfl, rfl⟩
      · rw [lowerMss_cons s n m rest hm]
        generalize UInt32.ofNat (m - PACKET_OVERHEAD) = mss
        split
        · exact ⟨rfl, rfl, rfl⟩
        · exact ih _

/-- If the way down the table ends well, the maximum segment size is below the segment. -/
lemma lowerMss_lt {n : ℕ} {rest : List ℕ} (h : lowerMss s n rest = (s', true)) :
    s'.mss.toNat < n := by
  induction rest generalizing s with
  | nil => simp [lowerMss] at h
  | cons m rest ih =>
      by_cases hm : m = 0
      · subst hm
        simp [lowerMss] at h
      · rw [lowerMss_cons s n m rest hm] at h
        split at h
        next hlt =>
          cases h
          exact hlt
        next => exact ih h

/-- What `markSent` leaves alone of the outgoing data. -/
lemma markSent_ok {o o' : Outgoing} {g : SSegment} {n : ℕ} (h : markSent o g n = .ok o') :
    o'.sndUna = o.sndUna ∧ o'.sbuf = o.sbuf ∧ o'.sbufLen = o.sbufLen := by
  unfold markSent splitSegment at h
  simp only at h
  split at h
  · split at h
    · split at h
      · cases h
        split <;> exact ⟨rfl, rfl, rfl⟩
      · cases h
    · cases h
  · cases h
    split <;> exact ⟨rfl, rfl, rfl⟩

/-- A step of sending leaves the core alone. -/
lemma SendStep.core_eq (h : SendStep env s s') : s'.core = s.core := by
  cases h with
  | delayAck => rfl
  | restart => rfl
  | lower n rest => exact (lowerMss_core s n rest).1
  | ack _ h => exact core_of_quiet (packet_ok h).1
  | refused _ _ h _ => exact core_of_quiet (packet_ok h).1
  | @sent g n now s₁ o _ _ h ho =>
      have hq := core_of_quiet (packet_ok h).1
      obtain ⟨h1, h2, h3⟩ := markSent_ok ho
      calc _ = { s₁.core with sndUna := o.sndUna, sbuf := o.sbuf, sbufLen := o.sbufLen } := rfl
        _ = s₁.core := by rw [h1, h2, h3]; rfl
        _ = s.core := hq
  | split => rfl

lemma SendSteps.core_eq (h : SendSteps env s s') : s'.core = s.core :=
  SendSteps.invariant (I := fun t => t.core = s.core) h rfl fun _ _ ht hs => hs.core_eq.trans ht

/-! ### `transmit` -/

/-- The postcondition of `writeSegment`: refused packets, and at last one that is taken. -/
def Written (env : Env) (s : PseudoTcpSocket) (g : SSegment) (now : UInt32)
    (r : PseudoTcpSocket × Option ℕ) : Prop :=
  match r.2 with
  | none => SendSteps env s r.1
  | some n => ∃ t, SendSteps env s t ∧ t.toOutgoing = s.toOutgoing ∧ n ≤ g.len ∧
      t.packet env g.seq g.flags (g.seq - t.sndUna).toNat n now = .ok (r.1, .success)

lemma writeSegment_steps {g : SSegment} {now : UInt32} (fuel : ℕ) (s : PseudoTcpSocket) (n : ℕ)
    (hg : s.slist.find? (·.addr = g.addr) = some g) (hn : n ≤ g.len) :
    Post (· ≠ .setState) (Written env s g now) (writeSegment env g.seq g.flags now fuel s n) := by
  induction fuel generalizing s n with
  | zero => exact Post.error (by simp)
  | succ fuel ih =>
      unfold writeSegment
      refine Post.ite (fun _ => Post.error (by simp)) fun _ => ?_
      cases hp : s.packet env g.seq g.flags (g.seq - s.sndUna).toNat n now with
      | error e =>
          have := (packet_post (E := (· ≠ .setState)) env s g.seq g.flags (g.seq - s.sndUna).toNat n
            now (by simp) (by simp)).of_error hp
          exact Post.error this
      | ok r =>
          obtain ⟨s₁, wres⟩ := r
          have hq := (packet_ok hp).1
          have ho : s₁.toOutgoing = s.toOutgoing := congrArg (·.toOutgoing) hq
          dsimp only [bind, Except.bind]
          cases wres with
          | success => exact Post.pure ⟨s, .refl, rfl, hn, hp⟩
          | fail => exact Post.pure (Relation.ReflTransGen.single (.refused hg hn hp (by simp)))
          | tooLarge =>
              have hstep : SendStep env s s₁ := .refused hg hn hp (by simp)
              cases hl : lowerMss s₁ n (PACKET_MAXIMUMS.drop (s₁.msslevel + 1)) with
              | mk s₂ b =>
                  have h₂ : SendSteps env s s₂ := by
                    refine (Relation.ReflTransGen.single hstep).tail ?_
                    have hlower : SendStep env s₁
                        (lowerMss s₁ n (PACKET_MAXIMUMS.drop (s₁.msslevel + 1))).1 := .lower _ _
                    rwa [hl] at hlower
                  have ho₂ : s₂.toOutgoing = s.toOutgoing := by
                    have := (lowerMss_core s₁ n (PACKET_MAXIMUMS.drop (s₁.msslevel + 1))).2.1
                    rw [hl] at this
                    exact this.trans ho
                  cases b with
                  | false => exact Post.pure h₂
                  | true =>
                      have hlt := lowerMss_lt hl
                      have hg₂ : s₂.slist.find? (·.addr = g.addr) = some g := by
                        rw [show s₂.slist = s.slist from congrArg Outgoing.slist ho₂]
                        exact hg
                      refine (ih s₂ s₂.mss.toNat hg₂ (by omega)).imp ?_
                      rintro ⟨s₃, _ | n₃⟩ h₃
                      · exact h₂.trans h₃
                      · obtain ⟨t, ht, hot, hn₃, hp₃⟩ := h₃
                        exact ⟨t, h₂.trans ht, hot.trans ho₂, hn₃, hp₃⟩

lemma transmit_steps (env : Env) (s : PseudoTcpSocket) (a : ℕ) (now : UInt32) :
    Post (· ≠ .setState) (fun r => SendSteps env s r.1) (s.transmit env a now) := by
  unfold transmit
  cases hf : s.slist.find? (·.addr = a) with
  | none => exact Post.error (by simp)
  | some g =>
      have ha : g.addr = a := by simpa using List.find?_some hf
      subst ha
      simp only
      refine Post.ite (fun _ => Post.ok .refl) fun _ => ?_
      refine Post.bind (writeSegment_steps _ s _ hf (min_le_left _ _)) ?_
      rintro ⟨s₁, _ | n⟩ h
      · exact Post.pure h
      · obtain ⟨t, ht, hot, hn, hp⟩ := h
        cases hm : markSent s₁.toOutgoing g n with
        | error e =>
            have he : e ≠ .setState := by
              unfold markSent at hm
              simp only at hm
              split at hm
              · split at hm
                · split at hm <;> cases hm
                  simp
                · cases hm
                  simp
              · cases hm
            simp only [hm]
            exact Post.error he
        | ok o =>
            have hgt : t.slist.find? (·.addr = g.addr) = some g := by
              rw [show t.slist = s.slist from congrArg Outgoing.slist hot]
              exact hf
            simp only [hm]
            exact Post.pure (ht.tail (.sent hgt hn hp hm))

lemma transmitHead_steps (env : Env) (s : PseudoTcpSocket) (now : UInt32) :
    Post (· ≠ .setState) (fun r => SendSteps env s r.1) (s.transmitHead env now) := by
  unfold transmitHead
  split
  · exact Post.error (by simp)
  · exact transmit_steps env s _ now

/-! ### `attempt_send` -/

/-- A packet without payload is always written. -/
lemma packet_ack_steps (env : Env) (s : PseudoTcpSocket) {seq : UInt32} (now : UInt32)
    (hseq : seq = s.sndNxt ∨ seq = s.sndNxt - 1) :
    Post (fun _ => False) (fun r => SendSteps env s r.1) (s.packet env seq FLAG_NONE 0 0 now) := by
  cases h : s.packet env seq FLAG_NONE 0 0 now with
  | error e =>
      exact Post.error ((packet_post (E := fun _ => False) env s seq FLAG_NONE 0 0 now
        (by simp [MAX_PACKET, HEADER_SIZE]) (by simp)).of_error h)
  | ok r => exact Post.ok (Relation.ReflTransGen.single (.ack hseq h))

lemma cutSegment_steps {g : SSegment} {n : ℕ} {flush : Prop} [Decidable flush]
    (hu : s.unsentSlist.head? = some g.addr) (hg : s.slist.find? (·.addr = g.addr) = some g)
    (hn : ¬ flush → 0 < n) : SendSteps env s (s.cutSegment g n flush) := by
  unfold cutSegment
  split
  next h => exact Relation.ReflTransGen.single (.split hu hg (hn h.2) h.1)
  next => exact .refl

lemma attemptSendPass_steps (env : Env) (s : PseudoTcpSocket) (sflags : SendFlags) (now : UInt32) :
    Post (· ≠ .setState) (fun r => SendSteps env s r.1) (s.attemptSendPass env sflags now) := by
  unfold attemptSendPass
  simp only
  refine Post.ite (fun _ => ?_) fun hsend => ?_
  · refine Post.ite (fun _ => Post.ok .refl) fun _ => ?_
    refine Post.ite (fun _ => ?_) fun _ => Post.ok (Relation.ReflTransGen.single (.delayAck now))
    refine Post.bind ((packet_ack_steps env s now (.inl rfl)).mono (by simp) fun _ h => h) ?_
    exact fun r h => Post.pure h
  · refine Post.ite (fun _ => Post.ok .refl) fun _ => ?_
    cases hu : s.unsentSlist with
    | nil => exact Post.ok .refl
    | cons a rest =>
        dsimp only
        cases hf : s.slist.find? (·.addr = a) with
        | none => exact Post.error (by simp)
        | some g =>
            have ha : g.addr = a := by simpa using List.find?_some hf
            subst ha
            have hcut : SendSteps env s
                (s.cutSegment g s.usable (sflags = .fin ∨ sflags = .rst)) :=
              cutSegment_steps (by rw [hu]; rfl) hf
                fun hflush => Nat.pos_of_ne_zero fun h0 => hsend ⟨h0, hflush⟩
            refine Post.bind ((transmit_steps env _ g.addr now).imp fun r h => hcut.trans h) ?_
            rintro ⟨s₁, _ | _⟩ h
            · exact Post.pure h
            · exact Post.pure h

lemma attemptSendLoop_steps (env : Env) (now : UInt32) (fuel : ℕ) (s : PseudoTcpSocket)
    (sflags : SendFlags) :
    Post (· ≠ .setState) (fun s' => SendSteps env s s')
      (attemptSendLoop env now fuel s sflags) := by
  induction fuel generalizing s sflags with
  | zero => exact Post.error (by simp)
  | succ fuel ih =>
      unfold attemptSendLoop
      refine Post.bind (attemptSendPass_steps env s sflags now) ?_
      rintro ⟨s₁, _ | flags⟩ h
      · exact Post.pure h
      · exact (ih s₁ flags).imp fun _ h' => Relation.ReflTransGen.trans h h'

/-- **`attempt_send` is a sequence of steps of sending.** -/
theorem attemptSend_steps (env : Env) (s : PseudoTcpSocket) (sflags : SendFlags)
    (reading : UInt32) :
    Post (· ≠ .setState) (fun s' => SendSteps env s s') (s.attemptSend env sflags reading) := by
  unfold attemptSend
  simp only
  have h₀ : SendSteps env s (if timeDiff (s.getCurrentTime reading) s.lastsend > s.rxRto.toNat then
      { s with cwnd := s.mss } else s) := by
    split
    · exact Relation.ReflTransGen.single .restart
    · exact .refl
  exact (attemptSendLoop_steps env _ _ _ sflags).imp fun _ h => h₀.trans h

end PseudoTcpSocket

end LibNice.PseudoTcp
