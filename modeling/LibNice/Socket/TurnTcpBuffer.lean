import LibNice.Socket.UdpTurnOverTcp

/-!
`socket/udp-turn-over-tcp.c`: the reads of `socket_recv_message` and the bounds of `recv_buf`.

* `BaseRead`, `baseReads`: what a call asks of the base socket, and when that lies inside
  `recv_buf`.
* `HeaderFits`, `completedHeader`: the headers whose message fits into `recv_buf`, and the header
  that a call completes.
* `Bounded`, `turnRecvMessage_bounded`: what is in `recv_buf` between two calls.
* `Receiver`, `ReceiverStep`: a socket whose stream arrives in chunks, ends or fails.
* `reads_inside_reachable`: in every reachable state a call stays inside `recv_buf` exactly when
  the message of the header that it completes fits.
-/

namespace LibNice.Socket

open LibNice.Foundation

/-! ### The reads of a call -/

/-- A read into `recv_buf`, of which `filled` bytes are in use, that is to fill it up to `upTo`:
the size that is requested is the difference. -/
structure BaseRead where
  filled : ℕ
  upTo : ℕ
deriving DecidableEq, Repr

/-- The difference does not underflow, and the read ends inside the 65536 bytes. -/
def BaseRead.Inside (r : BaseRead) : Prop := r.filled ≤ r.upTo ∧ r.upTo ≤ 65536

/-- The read of the header. -/
def headerRead (priv : TurnTcpPriv) : List BaseRead :=
  if priv.expectingLen = 0 then
    match headerLen priv.compatibility with
    | some headerlen => [⟨priv.recvBuf.length, headerlen⟩]
    | none => []
  else []

/-- The read of the message. -/
def bodyRead (priv : TurnTcpPriv) : BaseRead :=
  ⟨priv.recvBuf.length, priv.expectingLen + padlen priv.compatibility priv.expectingLen⟩

/-- The reads of a call of `socket_recv_message`. -/
def baseReads (priv : TurnTcpPriv) (conn : TcpConn) : List BaseRead :=
  headerRead priv ++
    match recvHeader priv conn with
    | .ok (none, priv, _) => [bodyRead priv]
    | _ => []

/-! ### Headers -/

/-- The message of a header, with its padding, has at most 65536 bytes. -/
def HeaderFits : TurnCompatibility → Bytes → Prop
  | .draft9, a :: b :: c :: d :: _ | .rfc5766, a :: b :: c :: d :: _ =>
      (word16 c d).toNat ≤ if word16 a b < 0x4000 then 65516 else 65532
  | .oc2007, pt :: _ :: c :: d :: _ => pt = 2 ∨ pt = 3 → (word16 c d).toNat ≤ 65534
  | _, _ => True

/-- What a read of `n` bytes gets from the base socket. -/
def taken (conn : TcpConn) (n : ℕ) : Bytes := if conn.error then [] else conn.queue.take n

/-- The header that a call completes from what has arrived. -/
def completedHeader (priv : TurnTcpPriv) (conn : TcpConn) : Option Bytes :=
  match headerLen priv.compatibility with
  | some headerlen =>
      let header := priv.recvBuf ++ taken conn (headerlen - priv.recvBuf.length)
      if priv.expectingLen = 0 ∧ header.length = headerlen then some header else none
  | none => none

/-- What is in `recv_buf` between two calls: some of a header, or all of one that is an error in
the stream, or some of a message that fits. -/
structure Bounded (priv : TurnTcpPriv) : Prop where
  filled : priv.recvBuf.length ≤ 65536
  header : priv.expectingLen = 0 → ∀ headerlen, headerLen priv.compatibility = some headerlen →
    priv.recvBuf.length ≤ headerlen ∧
      (priv.recvBuf.length = headerlen → parseHeader priv = none)
  body : priv.expectingLen ≠ 0 → (bodyRead priv).Inside

/-- A receiver that has read nothing. -/
lemma Bounded.new (compatibility : TurnCompatibility) : Bounded (.new compatibility) where
  filled := by simp [TurnTcpPriv.new]
  header _ headerlen h := by
    cases compatibility <;> simp [TurnTcpPriv.new, headerLen] at h ⊢ <;> omega
  body h := absurd rfl h

/-- A length with its padding is at most a multiple of four when the length is. -/
lemma add_padLen_le {n m : ℕ} (hm : m % 4 = 0) : n + padLen n ≤ m ↔ n ≤ m := by
  rw [padLen]
  split <;> omega

/-- What a whole header says: the bytes that stay in `recv_buf` are part of the message, which
fits exactly when the header does. -/
lemma parseHeader_whole {priv priv' : TurnTcpPriv} {headerlen : ℕ}
    (hheader : headerLen priv.compatibility = some headerlen)
    (hlen : priv.recvBuf.length = headerlen) (h : parseHeader priv = some priv') :
    priv'.compatibility = priv.compatibility ∧ (bodyRead priv').filled ≤ (bodyRead priv').upTo ∧
      (priv'.expectingLen = 0 → priv'.recvBuf = []) ∧
      ((bodyRead priv').upTo ≤ 65536 ↔ HeaderFits priv.compatibility priv.recvBuf) := by
  obtain ⟨compatibility, recvBuf, e⟩ := priv
  dsimp only at hheader hlen
  have hfour : headerlen = 4 → ∃ a b c d, recvBuf = [a, b, c, d] := by
    rintro rfl
    match recvBuf, hlen with
    | [a, b, c, d], _ => exact ⟨a, b, c, d, rfl⟩
  have hpadded (a b c d : UInt8) (hcompat : compatibility = .draft9 ∨ compatibility = .rfc5766)
      (hbuf : recvBuf = [a, b, c, d]) :
      priv'.compatibility = compatibility ∧ (bodyRead priv').filled ≤ (bodyRead priv').upTo ∧
        (priv'.expectingLen = 0 → priv'.recvBuf = []) ∧
        ((bodyRead priv').upTo ≤ 65536 ↔ HeaderFits compatibility recvBuf) := by
    have hparse : priv' = ⟨compatibility, [a, b, c, d],
        if word16 a b < 0x4000 then 20 + (word16 c d).toNat else 4 + (word16 c d).toNat⟩ := by
      rcases hcompat with rfl | rfl <;> subst hbuf <;> exact (Option.some.inj h).symm
    have hpad (n : ℕ) : padlen compatibility n = padLen n := by
      rcases hcompat with rfl | rfl <;> rfl
    have hfits : HeaderFits compatibility recvBuf ↔
        (word16 c d).toNat ≤ if word16 a b < 0x4000 then 65516 else 65532 := by
      rcases hcompat with rfl | rfl <;> subst hbuf <;> rfl
    rw [hfits, hparse]
    simp only [bodyRead, hpad, add_padLen_le (show 65536 % 4 = 0 from rfl), List.length_cons,
      List.length_nil]
    by_cases hstun : word16 a b < 0x4000
    · simp only [hstun, if_true]
      exact ⟨trivial, by omega, fun h0 => by omega, by omega⟩
    · simp only [hstun, if_false]
      exact ⟨trivial, by omega, fun h0 => by omega, by omega⟩
  cases compatibility with
  | msn => cases hheader
  | draft9 =>
      obtain ⟨a, b, c, d, hbuf⟩ := hfour (Option.some.inj hheader).symm
      exact hpadded a b c d (.inl rfl) hbuf
  | rfc5766 =>
      obtain ⟨a, b, c, d, hbuf⟩ := hfour (Option.some.inj hheader).symm
      exact hpadded a b c d (.inr rfl) hbuf
  | google =>
      obtain rfl := Option.some.inj hheader
      match recvBuf, hlen with
      | [a, b], _ =>
          have hword := (word16 a b).toNat_lt
          obtain rfl := Option.some.inj h
          simp only [bodyRead, HeaderFits, padlen, List.length_nil, iff_true]
          exact ⟨trivial, Nat.zero_le _, fun _ => trivial, by omega⟩
  | oc2007 =>
      obtain ⟨a, b, c, d, rfl⟩ := hfour (Option.some.inj hheader).symm
      simp only [parseHeader] at h
      split at h
      · cases h
      · rename_i hpt
        obtain rfl := Option.some.inj h
        have hpt : a = 2 ∨ a = 3 := by tauto
        simp only [bodyRead, HeaderFits, padlen, List.length_cons, List.length_nil, hpt,
          forall_const]
        exact ⟨trivial, by omega, fun h0 => by omega, by omega⟩

/-- A header that is an error in the stream says nothing about a message. -/
lemma HeaderFits.of_wrong {priv : TurnTcpPriv} (h : parseHeader priv = none) :
    HeaderFits priv.compatibility priv.recvBuf := by
  obtain ⟨compatibility, recvBuf, e⟩ := priv
  simp only [parseHeader] at h
  split at h
  · cases h
  · cases h
  · cases h
  · split at h
    · rename_i hpt
      rintro (rfl | rfl) <;> simp at hpt
    · cases h
  · cases h

/-! ### One read -/

lemma length_taken_le (conn : TcpConn) (n : ℕ) : (taken conn n).length ≤ n := by
  rw [taken]
  split
  · exact Nat.zero_le _
  · exact List.length_take_le _ _

/-- What a read from the base socket adds to `recv_buf`. -/
lemma readBase_ok (priv : TurnTcpPriv) (conn : TcpConn) {n : ℕ}
    (hroom : priv.recvBuf.length + n ≤ 65536) :
    ∃ ret conn', readBase priv conn n =
        .ok (ret, { priv with recvBuf := priv.recvBuf ++ taken conn n }, conn') ∧
      (ret < 0 → taken conn n = []) := by
  have hsize : NiceInputMessage.size { buffers := [List.replicate n 0], length := 0 } = n := by
    simp [NiceInputMessage.size]
  rw [readBase, if_neg (by omega)]
  cases herror : conn.error with
  | true =>
      refine ⟨-1, conn, ?_, fun _ => by simp [taken, herror]⟩
      simp [socketRecvMessage, socketRecvMessages, herror, NiceInputMessage.data, taken]
  | false =>
      by_cases hqueue : conn.queue = []
      · have htaken : taken conn n = [] := by simp [taken, hqueue]
        cases heof : conn.eof <;>
          simp [socketRecvMessage, socketRecvMessages, recvMessagesLoop, gSocketReceiveMessage,
            herror, hqueue, heof, NiceInputMessage.data, htaken]
      · rcases Nat.eq_zero_or_pos n with rfl | hn
        · -- nothing is asked for, and it is taken for the end of the stream
          have htaken : taken conn 0 = [] := by simp [taken]
          have hempty : NiceInputMessage.size { buffers := [[]], length := 0 } = 0 := rfl
          simp [socketRecvMessage, socketRecvMessages, recvMessagesLoop, gSocketReceiveMessage,
            herror, hqueue, hempty, NiceInputMessage.data, htaken]
        · refine ⟨1, { conn with queue := conn.queue.drop n }, ?_, fun h => absurd h (by decide)⟩
          rw [socketRecvMessage_received _ herror hqueue (by rw [hsize]; exact hn), hsize]
          have hdata := scatter_take [List.replicate n 0] (conn.queue.take n) (by simp)
          rw [List.length_take] at hdata
          simp only [NiceInputMessage.data, hdata, taken, herror, Bool.false_eq_true, if_false]

/-! ### One call -/

section call

variable {priv priv' : TurnTcpPriv} {conn conn' : TcpConn}

/-- What the part of a call that reads the header returns, and the state that it leaves: nothing
is complete, or the header is wrong, or there was none to read, or it says what follows. -/
inductive HeaderRead (priv : TurnTcpPriv) (conn : TcpConn) : Option ℤ → TurnTcpPriv → Prop
  | skipped (h : priv.expectingLen ≠ 0) : HeaderRead priv conn none priv
  | noHeader (ret : ℤ) (h : headerLen priv.compatibility = none) :
      HeaderRead priv conn (some ret) priv
  | part (ret : ℤ) (headerlen : ℕ) (header : Bytes)
      (hlen : headerLen priv.compatibility = some headerlen)
      (hheader : header = priv.recvBuf ++ taken conn (headerlen - priv.recvBuf.length))
      (h0 : priv.expectingLen = 0) (hle : header.length ≤ headerlen)
      (hwrong : header.length = headerlen →
        parseHeader ⟨priv.compatibility, header, priv.expectingLen⟩ = none) :
      HeaderRead priv conn (some ret) ⟨priv.compatibility, header, priv.expectingLen⟩
  | whole (headerlen : ℕ) (header : Bytes) (priv' : TurnTcpPriv)
      (hlen : headerLen priv.compatibility = some headerlen)
      (hheader : completedHeader priv conn = some header) (heq : header.length = headerlen)
      (hparse : parseHeader ⟨priv.compatibility, header, priv.expectingLen⟩ = some priv') :
      HeaderRead priv conn none priv'

/-- A header has at most four bytes. -/
lemma headerLen_le_four {compatibility : TurnCompatibility} {headerlen : ℕ}
    (h : headerLen compatibility = some headerlen) : 0 < headerlen ∧ headerlen ≤ 4 := by
  cases compatibility <;> simp [headerLen] at h <;> omega

/-- What the part of a call that reads the header does. -/
lemma recvHeader_read (hp : Bounded priv) (conn : TcpConn) :
    ∃ o priv' conn', recvHeader priv conn = .ok (o, priv', conn') ∧
      HeaderRead priv conn o priv' := by
  rw [recvHeader]
  by_cases h0 : priv.expectingLen = 0
  · rw [if_pos h0]
    cases hlen : headerLen priv.compatibility with
    | none => exact ⟨_, _, _, rfl, .noHeader _ hlen⟩
    | some headerlen =>
        obtain ⟨hle, hwrong⟩ := hp.header h0 _ hlen
        have hfour := (headerLen_le_four hlen).2
        obtain ⟨ret, conn', hread, hnil⟩ := readBase_ok priv conn
          (show priv.recvBuf.length + (headerlen - priv.recvBuf.length) ≤ 65536 by omega)
        have htaken := length_taken_le conn (headerlen - priv.recvBuf.length)
        obtain ⟨header, hheader⟩ : ∃ header,
            header = priv.recvBuf ++ taken conn (headerlen - priv.recvBuf.length) := ⟨_, rfl⟩
        have hsum : header.length ≤ headerlen := by
          rw [hheader, List.length_append]
          omega
        rw [← hheader] at hread
        simp only [hread, bind, Except.bind]
        by_cases hret : ret < 0
        · -- an error of the base socket adds nothing
          rw [if_pos hret]
          refine ⟨_, _, _, rfl, .part _ headerlen header hlen hheader h0 hsum fun heq => ?_⟩
          rw [hnil hret, List.append_nil] at hheader
          rw [hheader] at heq ⊢
          exact hwrong heq
        · rw [if_neg hret]
          by_cases hshort : header.length < headerlen
          · rw [if_pos hshort]
            exact ⟨_, _, _, rfl, .part _ headerlen header hlen hheader h0 hsum fun heq =>
              absurd heq (by omega)⟩
          · rw [if_neg hshort]
            have heq : header.length = headerlen := by omega
            cases hparse : parseHeader ⟨priv.compatibility, header, priv.expectingLen⟩ with
            | none => exact ⟨_, _, _, rfl, .part _ headerlen header hlen hheader h0 hsum
                fun _ => hparse⟩
            | some t =>
                refine ⟨_, _, _, rfl, .whole headerlen header t hlen ?_ heq hparse⟩
                simp only [completedHeader, hlen]
                rw [← hheader, if_pos ⟨h0, heq⟩]
  · rw [if_neg h0]
    exact ⟨_, _, _, rfl, .skipped h0⟩

/-- The read of the header is inside `recv_buf`. -/
lemma headerRead_inside (hp : Bounded priv) : ∀ r ∈ headerRead priv, r.Inside := by
  intro r hr
  rw [headerRead] at hr
  split at hr
  · rename_i h0
    split at hr
    · rename_i headerlen hlen
      obtain rfl := List.mem_singleton.mp hr
      obtain ⟨hle, -⟩ := hp.header h0 _ hlen
      have hfour := (headerLen_le_four hlen).2
      exact ⟨hle, by dsimp only; omega⟩
    · cases hr
  · cases hr

/-- Where a message follows, what is in `recv_buf` is part of it. -/
lemma HeaderRead.follows (hp : Bounded priv) (h : HeaderRead priv conn none priv') :
    (bodyRead priv').filled ≤ (bodyRead priv').upTo ∧
      (priv'.expectingLen = 0 → priv'.recvBuf = []) := by
  cases h with
  | skipped h0 => exact ⟨(hp.body h0).1, fun h => absurd h h0⟩
  | whole headerlen header t hlen hcomplete heq hparse =>
      obtain ⟨-, hfilled, hnil, -⟩ :=
        parseHeader_whole (show headerLen (TurnTcpPriv.mk _ header _).compatibility = _ from hlen)
          heq hparse
      exact ⟨hfilled, hnil⟩

/-- The reads of a call are inside `recv_buf` exactly when the message of the header that it
completes fits. -/
lemma reads_inside_iff (hp : Bounded priv) (conn : TcpConn) :
    (∀ r ∈ baseReads priv conn, r.Inside) ↔
      ∀ header, completedHeader priv conn = some header →
        HeaderFits priv.compatibility header := by
  obtain ⟨o, priv', conn', hread, hcase⟩ := recvHeader_read hp conn
  have hheader := headerRead_inside hp
  simp only [baseReads, hread, List.mem_append]
  cases hcase with
  | skipped h =>
      have hnone : completedHeader priv conn = none := by
        rw [completedHeader]
        split
        · rw [if_neg (fun hc => h hc.1)]
        · rfl
      simp only [List.mem_singleton, hnone, reduceCtorEq, false_implies, implies_true, iff_true]
      intro r hr
      rcases hr with hr | rfl
      · exact hheader r hr
      · exact hp.body h
  | noHeader ret h =>
      have hnone : completedHeader priv conn = none := by simp only [completedHeader, h]
      simp only [List.not_mem_nil, or_false, hnone, reduceCtorEq, false_implies, implies_true,
        iff_true]
      exact hheader
  | part ret headerlen header hlen hheader' h0 hle hwrong =>
      simp only [List.not_mem_nil, or_false]
      refine ⟨fun _ header' hc => ?_, fun _ => hheader⟩
      simp only [completedHeader, hlen] at hc
      rw [← hheader'] at hc
      split at hc
      · rename_i heq
        cases hc
        exact HeaderFits.of_wrong (hwrong heq.2)
      · cases hc
  | whole headerlen header _ hlen hcomplete heq hparse =>
      obtain ⟨-, hfilled, -, hfits⟩ :=
        parseHeader_whole (show headerLen (TurnTcpPriv.mk _ header _).compatibility = _ from hlen)
          heq hparse
      simp only [List.mem_singleton, hcomplete, Option.some.injEq, forall_eq']
      rw [← hfits]
      refine ⟨fun hall => (hall _ (.inr rfl)).2, fun hbody r hr => ?_⟩
      rcases hr with hr | rfl
      · exact hheader r hr
      · exact ⟨hfilled, hbody⟩

/-- A call overruns `recv_buf` unless its reads are inside. -/
lemma turnRecvMessage_ok_iff (hp : Bounded priv) (conn : TcpConn) (message : NiceInputMessage) :
    (∃ r, turnRecvMessage priv conn message = .ok r) ↔ ∀ r ∈ baseReads priv conn, r.Inside := by
  obtain ⟨o, t, conn', hread, hcase⟩ := recvHeader_read hp conn
  have hheader := headerRead_inside hp
  cases o with
  | some ret =>
      simp only [turnRecvMessage, baseReads, hread, bind, Except.bind, List.append_nil]
      exact ⟨fun _ => hheader, fun _ => ⟨_, rfl⟩⟩
  | none =>
      have hfilled := (hcase.follows hp).1
      have hinside : (∀ r ∈ baseReads priv conn, r.Inside) ↔ (bodyRead t).upTo ≤ 65536 := by
        simp only [baseReads, hread, List.mem_append, List.mem_singleton]
        refine ⟨fun hall => (hall _ (.inr rfl)).2, fun hbody r hr => ?_⟩
        rcases hr with hr | rfl
        · exact hheader r hr
        · exact ⟨hfilled, hbody⟩
      rw [hinside]
      simp only [bodyRead] at hfilled ⊢
      simp only [turnRecvMessage, recvBody, hread, bind, Except.bind]
      by_cases hroom : t.expectingLen + padlen t.compatibility t.expectingLen ≤ 65536
      · obtain ⟨ret, conn'', hbase, -⟩ := readBase_ok t conn' (show t.recvBuf.length +
          (t.expectingLen + padlen t.compatibility t.expectingLen - t.recvBuf.length) ≤ 65536
            by omega)
        simp only [hbase, iff_true, hroom]
        split_ifs <;> exact ⟨_, rfl⟩
      · rw [readBase, if_pos (by omega)]
        simp [hroom]

/-- A receiver between two messages. -/
lemma Bounded.empty (h0 : priv.expectingLen = 0) (hnil : priv.recvBuf = []) : Bounded priv where
  filled := by simp [hnil]
  header _ headerlen hlen := by
    have hpos := (headerLen_le_four hlen).1
    rw [hnil]
    exact ⟨Nat.zero_le _, fun heq => absurd heq hpos.ne⟩
  body h := absurd h0 h

/-- A receiver within a message that fits. -/
lemma Bounded.within (hnil : priv.expectingLen = 0 → priv.recvBuf = [])
    (hbody : (bodyRead priv).Inside) : Bounded priv := by
  by_cases h0 : priv.expectingLen = 0
  · exact .empty h0 (hnil h0)
  · exact ⟨hbody.1.trans hbody.2, fun h => absurd h h0, fun _ => hbody⟩

/-- The part of a call that reads the message. -/
lemma recvBody_bounded {ret : ℤ} {message message' : NiceInputMessage}
    (hnil : priv.expectingLen = 0 → priv.recvBuf = [])
    (hfilled : (bodyRead priv).filled ≤ (bodyRead priv).upTo)
    (h : recvBody priv conn message = .ok (ret, priv', conn', message')) : Bounded priv' := by
  simp only [bodyRead] at hfilled
  simp only [recvBody] at h
  obtain ⟨⟨ret', t, conn₁⟩, hread, h⟩ := bind_eq_ok.mp h
  have hroom : priv.recvBuf.length + (priv.expectingLen +
      padlen priv.compatibility priv.expectingLen - priv.recvBuf.length) ≤ 65536 := by
    by_contra hroom
    rw [readBase, if_pos (Nat.lt_of_not_le hroom)] at hread
    cases hread
  obtain ⟨ret'', conn₂, hok, -⟩ := readBase_ok priv conn hroom
  rw [hread] at hok
  cases hok
  have htaken := length_taken_le conn (priv.expectingLen +
    padlen priv.compatibility priv.expectingLen - priv.recvBuf.length)
  obtain ⟨bytes, hbytes⟩ : ∃ bytes, bytes = taken conn (priv.expectingLen +
    padlen priv.compatibility priv.expectingLen - priv.recvBuf.length) := ⟨_, rfl⟩
  rw [← hbytes] at h htaken
  have hwithin : Bounded ⟨priv.compatibility, priv.recvBuf ++ bytes, priv.expectingLen⟩ := by
    refine .within (fun h0 => ?_) ⟨?_, ?_⟩
    · have h0 : priv.expectingLen = 0 := h0
      have hpad : padlen priv.compatibility 0 = 0 := by cases priv.compatibility <;> rfl
      rw [hnil h0, h0, hpad] at htaken
      rw [hnil h0, List.nil_append]
      exact List.eq_nil_of_length_eq_zero (Nat.le_zero.mp htaken)
    · simp only [bodyRead, List.length_append]
      omega
    · simp only [bodyRead]
      omega
  dsimp only at h
  split at h
  · cases h
    exact hwithin
  · split at h
    · cases h
      exact .empty rfl rfl
    · cases h
      exact hwithin

/-- **A call keeps `recv_buf` within its bounds.** -/
theorem turnRecvMessage_bounded {ret : ℤ} {message message' : NiceInputMessage} (hp : Bounded priv)
    (h : turnRecvMessage priv conn message = .ok (ret, priv', conn', message')) :
    Bounded priv' := by
  obtain ⟨o, t, conn₁, hread, hcase⟩ := recvHeader_read hp conn
  simp only [turnRecvMessage, hread, bind, Except.bind] at h
  cases o with
  | none => exact recvBody_bounded (hcase.follows hp).2 (hcase.follows hp).1 h
  | some r =>
      cases hcase with
      | noHeader _ hnone =>
          cases h
          exact hp
      | part _ headerlen header hlen hheader h0 hle hwrong =>
          cases h
          have hfour := (headerLen_le_four hlen).2
          refine ⟨by dsimp only; omega, fun _ n hn => ?_, fun h => absurd h0 h⟩
          rw [show n = headerlen from Option.some.inj (hn.symm.trans hlen)]
          exact ⟨hle, hwrong⟩

end call

/-! ### Runs -/

/-- A socket, and what its base socket holds. -/
structure Receiver where
  priv : TurnTcpPriv
  conn : TcpConn
deriving DecidableEq, Repr

/-- A socket that has just been made. -/
def Receiver.new (compatibility : TurnCompatibility) : Receiver := ⟨.new compatibility, .new⟩

/-- What can happen to a socket. -/
inductive ReceiverEvent where
  /-- A chunk of the stream arrives. -/
  | arrive (bytes : Bytes)
  /-- The server ends the stream. -/
  | hangUp
  /-- The base socket fails. -/
  | fail
  /-- A message is read. -/
  | recv (message : NiceInputMessage)
deriving DecidableEq, Repr

/-- A step of a socket. -/
inductive ReceiverStep : Receiver → ReceiverEvent → Receiver → Prop
  | arrive (st : Receiver) (bytes : Bytes) :
      ReceiverStep st (.arrive bytes) ⟨st.priv, st.conn.arrive bytes⟩
  | hangUp (st : Receiver) : ReceiverStep st .hangUp ⟨st.priv, { st.conn with eof := true }⟩
  | fail (st : Receiver) : ReceiverStep st .fail ⟨st.priv, { st.conn with error := true }⟩
  | recv {st : Receiver} {message message' : NiceInputMessage} {ret : ℤ} {priv' : TurnTcpPriv}
      {conn' : TcpConn}
      (h : turnRecvMessage st.priv st.conn message = .ok (ret, priv', conn', message')) :
      ReceiverStep st (.recv message) ⟨priv', conn'⟩

/-- A step keeps `recv_buf` within its bounds. -/
lemma ReceiverStep.bounded {t u : Receiver} {e : ReceiverEvent} (ht : Bounded t.priv)
    (h : ReceiverStep t e u) : Bounded u.priv := by
  cases h with
  | arrive | hangUp | fail => exact ht
  | recv h => exact turnRecvMessage_bounded ht h

section runs

variable {compatibility : TurnCompatibility} {es : List ReceiverEvent} {st : Receiver}

/-- In every reachable state `recv_buf` is within its bounds. -/
lemma bounded_of_run (h : Run ReceiverStep (.new compatibility) es st) : Bounded st.priv := by
  refine h.invariant (I := fun t => Bounded t.priv) (.new compatibility) fun t e u ht hstep => ?_
  exact hstep.bounded ht

/-- **In every reachable state a call stays inside `recv_buf`** exactly when the message of the
header that it completes fits, and no step has overrun it. -/
theorem reads_inside_reachable (h : Run ReceiverStep (.new compatibility) es st) :
    st.priv.recvBuf.length ≤ 65536 ∧
      ((∀ r ∈ baseReads st.priv st.conn, r.Inside) ↔
        ∀ header, completedHeader st.priv st.conn = some header →
          HeaderFits st.priv.compatibility header) ∧
      ∀ message, (∃ r, turnRecvMessage st.priv st.conn message = .ok r) ↔
        ∀ r ∈ baseReads st.priv st.conn, r.Inside := by
  have hp := bounded_of_run h
  exact ⟨hp.filled, reads_inside_iff hp st.conn, turnRecvMessage_ok_iff hp st.conn⟩

/-- A Binding request without attributes that arrives in two chunks. -/
theorem reads_inside_reachable_sample :
    ∃ st, Run ReceiverStep (.new .rfc5766) [.arrive [0, 1, 0], .recv ⟨[], 0⟩, .arrive [0]] st ∧
      ∀ r ∈ baseReads st.priv st.conn, r.Inside := by
  obtain ⟨st, hst, hrun⟩ : ∃ st, st = ⟨⟨.rfc5766, [0, 1, 0], 0⟩, ⟨[0], false, false⟩⟩ ∧
      Run ReceiverStep (.new .rfc5766) [.arrive [0, 1, 0], .recv ⟨[], 0⟩, .arrive [0]] st := by
    refine ⟨_, rfl, .snoc (.snoc (.snoc .nil (.arrive _ _)) (.recv rfl)) (.arrive _ _)⟩
  refine ⟨st, hrun, (reads_inside_reachable hrun).2.1.mpr ?_⟩
  subst hst
  rintro header hheader
  cases hheader
  exact show (word16 0 0).toNat ≤ if word16 0 1 < 0x4000 then 65516 else 65532 by decide

/-- A header that says 65535: the read of the message ends 20 bytes behind `recv_buf`. -/
theorem header_overruns :
    ¬∀ (compatibility : TurnCompatibility) (es : List ReceiverEvent) (st : Receiver),
      Run ReceiverStep (.new compatibility) es st →
        st.priv.recvBuf.length ≤ 65536 ∧ ∀ r ∈ baseReads st.priv st.conn, r.Inside := by
  intro h
  obtain ⟨-, hall⟩ := h .rfc5766 [.arrive [0, 1, 255, 255]]
    ⟨⟨.rfc5766, [], 0⟩, ⟨[0, 1, 255, 255], false, false⟩⟩ (.snoc .nil (.arrive _ _))
  have hbody := (hall ⟨4, 65556⟩ (by decide)).2
  exact absurd hbody (by decide)

end runs


end LibNice.Socket
