import LibNice.PseudoTcp.Window
import LibNice.PseudoTcp.ReceivedStream

/-!
The send queue of a socket, and the stream that it sends.

* `Laid`: the segments of the queue lie one behind the other on the stream.
* `Sends`: the send buffer has the rest of the stream, and every packet is a piece of it.
* `SendStep.sends`: sending, splitting and sending again keep this.
* `Sends.push`, `Sends.acked`: so do what the user adds, and what the peer acknowledges.
-/

namespace LibNice.PseudoTcp

open LibNice.Foundation

namespace PseudoTcpSocket

variable {env : Env} {s s' t : PseudoTcpSocket} {o o' : Outgoing} {isOpen : Prop}
  {sent unsent pre post l : List SSegment} {g : SSegment} {k n p u f fins : ℕ}
  {stream more : Bytes} {wire : List Bytes}

/-! ### Segments on a stream -/

/-- A segment with data lies at byte `p` of a stream with `k` bytes of control data. -/
def LiesAt (k p : ℕ) (g : SSegment) : Prop :=
  g.len ≠ 0 → g.seq = UInt32.ofNat p ∧ (g.flags.has FLAG_CTL = true → p + g.len ≤ k) ∧
    (g.flags.has FLAG_CTL = false → k ≤ p)

/-- The segments lie one behind the other, from byte `p` on. -/
def Laid (k : ℕ) : ℕ → List SSegment → Prop
  | _, [] => True
  | p, g :: l => LiesAt k p g ∧ Laid k (p + g.len) l

lemma laid_cons : Laid k p (g :: l) ↔ LiesAt k p g ∧ Laid k (p + g.len) l := Iff.rfl

lemma laid_append {l₁ l₂ : List SSegment} :
    Laid k p (l₁ ++ l₂) ↔ Laid k p l₁ ∧ Laid k (p + lens l₁) l₂ := by
  induction l₁ generalizing p with
  | nil => simp [Laid]
  | cons g l₁ ih => rw [List.cons_append, laid_cons, laid_cons, ih, lens_cons, ← Nat.add_assoc,
      and_assoc]

/-- The two parts of a segment lie where it lay. -/
lemma LiesAt.cut (h : LiesAt k p g) (hn : n ≤ g.len) (xmit addr : ℕ) :
    LiesAt k p (headPart g n) ∧ LiesAt k (p + n) (tailPart g n xmit addr) := by
  constructor
  · intro h0
    obtain ⟨hseq, hctl, hplain⟩ := h (by simp only [headPart] at h0; omega)
    exact ⟨hseq, fun hc => (Nat.add_le_add_left hn p).trans (hctl hc), hplain⟩
  · intro h0
    simp only [tailPart] at h0 ⊢
    obtain ⟨hseq, hctl, hplain⟩ := h (by omega)
    refine ⟨by rw [hseq, ← ofNat_add], fun hc => ?_, fun hc => ?_⟩
    · have := hctl hc
      omega
    · have := hplain hc
      omega

/-- A segment that is cut in its place. -/
lemma Laid.cut (h : Laid k p (pre ++ g :: post)) (hn : n ≤ g.len) (xmit addr : ℕ) :
    Laid k p (pre ++ headPart g n :: tailPart g n xmit addr :: post) := by
  rw [laid_append, laid_cons] at h ⊢
  rw [laid_cons]
  obtain ⟨hpre, hg, hpost⟩ := h
  obtain ⟨h1, h2⟩ := hg.cut hn xmit addr
  refine ⟨hpre, h1, h2, ?_⟩
  have hlen : p + lens pre + (headPart g n).len + (tailPart g n xmit addr).len =
      p + lens pre + g.len := by
    simp only [headPart, tailPart]
    omega
  rw [hlen]
  exact hpost

/-- How often a segment was transmitted does not matter. -/
lemma laid_touch (a : ℕ) : Laid k p (updateSegment l a fun x => { x with xmit := x.xmit + 1 }) ↔
    Laid k p l := by
  induction l generalizing p with
  | nil => exact Iff.rfl
  | cons g l ih =>
      have hlen : (if g.addr = a then { g with xmit := g.xmit + 1 } else g).len = g.len := by
        split <;> rfl
      have hlies : LiesAt k p (if g.addr = a then { g with xmit := g.xmit + 1 } else g) ↔
          LiesAt k p g := by
        split <;> exact Iff.rfl
      simp only [updateSegment, List.map_cons, laid_cons, hlen, hlies]
      rw [← ih]
      rfl

lemma mem_touch {a : ℕ} {x : SSegment}
    (h : x ∈ updateSegment l a fun x => { x with xmit := x.xmit + 1 }) :
    ∃ y ∈ l, y.seq = x.seq ∧ y.flags = x.flags := by
  obtain ⟨y, hy, rfl⟩ := List.mem_map.mp h
  refine ⟨y, hy, ?_⟩
  split <;> exact ⟨rfl, rfl⟩

/-! ### The stream that a socket sends -/

/-- What a socket sends of a stream with 7 bytes of control data: the first `u` bytes of it are
acknowledged and `f` FINs, at most one, the rest is in the buffer and in the segments, and every
packet that was written is a piece. -/
structure Sends (isOpen : Prop) (stream : Bytes) (o : Outgoing) (wire : List Bytes) (u f : ℕ) :
    Prop where
  una : o.sndUna = UInt32.ofNat (u + f)
  le : u ≤ stream.length
  buffered : o.sbuf.contents = stream.drop u
  laid : Laid 7 u o.slist
  acked : f ≠ 0 → u = stream.length ∧ ¬ isOpen
  once : f ≤ 1
  fins : ∀ g ∈ o.slist, g.flags.has FLAG_FIN = true → g.seq = UInt32.ofNat stream.length
  wire : ∀ packet ∈ wire, ∀ seg, parse packet = some seg →
    Piece 7 stream seg ∧ (isOpen → seg.flags.has FLAG_FIN = false)

namespace Sends

/-- Only the front of the queue, the buffer, the segments and the packets matter. -/
lemma of_eq (h : Sends isOpen stream o wire u f) (huna : o'.sndUna = o.sndUna)
    (hbuf : o'.sbuf = o.sbuf) (hlist : o'.slist = o.slist) : Sends isOpen stream o' wire u f where
  una := huna.trans h.una
  le := h.le
  buffered := by rw [hbuf]; exact h.buffered
  laid := by rw [hlist]; exact h.laid
  acked := h.acked
  once := h.once
  fins := by rw [hlist]; exact h.fins
  wire := h.wire

/-- A socket that is closed for sending promises less. -/
lemma mono {isOpen' : Prop} (h : Sends isOpen stream o wire u f) (ho : isOpen' → isOpen) :
    Sends isOpen' stream o wire u f :=
  { h with
    acked := fun hf => ⟨(h.acked hf).1, fun hi => (h.acked hf).2 (ho hi)⟩
    wire := fun packet hp seg hseg =>
      ⟨(h.wire packet hp seg hseg).1, fun hi => (h.wire packet hp seg hseg).2 (ho hi)⟩ }

/-- How much of the stream is in the buffer. -/
lemma dataLength (h : Sends isOpen stream o wire u f) :
    u + o.sbuf.dataLength = stream.length := by
  have hlen := congrArg List.length h.buffered
  have hle := h.le
  rw [PseudoTcpFifo.contents_length, List.length_drop] at hlen
  omega

/-- One more packet, with a piece in it. -/
lemma write (h : Sends isOpen stream o wire u f) {packet : Bytes}
    (hpacket : ∀ seg, parse packet = some seg →
      Piece 7 stream seg ∧ (isOpen → seg.flags.has FLAG_FIN = false)) :
    Sends isOpen stream o (wire ++ [packet]) u f :=
  { h with
    wire := fun q hq => by
      rcases List.mem_append.mp hq with hq | hq
      · exact h.wire q hq
      · rw [List.mem_singleton.mp hq]
        exact hpacket }

/-- A packet without payload and without FIN is a piece of every stream. -/
lemma empty_piece {seg : Segment} (hdata : seg.data = []) (hfin : seg.flags.has FLAG_FIN = false) :
    Piece 7 stream seg :=
  { data := fun h => absurd hdata h
    fin := fun h => by rw [hfin] at h; cases h }

/-- **What goes out of the queue is a piece of the stream.** -/
lemma piece (hq : Queued s.toOutgoing isOpen sent unsent fins)
    (h : Sends isOpen stream s.toOutgoing wire u f) (hg : s.slist.find? (·.addr = g.addr) = some g)
    (hn : n ≤ g.len) (now : UInt32)
    (hread : n ≠ 0 → (s.sbuf.readOffset n (g.seq - s.sndUna).toNat).length = n) :
    Piece 7 stream (s.segmentOf g.seq g.flags (g.seq - s.sndUna).toNat n now) ∧
      (isOpen → g.flags.has FLAG_FIN = false) := by
  have hmem : g ∈ sent ++ unsent := by
    rw [← hq.slist]
    exact List.mem_of_find?_eq_some hg
  refine ⟨⟨fun hdata => ?_, fun hfin => ?_⟩, fun hi => hq.segments.no_fin hi g hmem⟩
  · have hlength : (s.segmentOf g.seq g.flags (g.seq - s.sndUna).toNat n now).data.length = n :=
      segmentOf_length hread
    have h0 : n ≠ 0 := by
      rintro rfl
      exact hdata (List.eq_nil_of_length_eq_zero hlength)
    obtain ⟨pre, post, hlist⟩ := find_split hg
    have hlaid := h.laid
    have htotal := hq.total
    have hdl := h.dataLength
    have hsize := hq.size
    have hroom := hq.wf.data
    rw [hlist, laid_append, laid_cons] at hlaid
    rw [← hq.slist, hlist, lens_append, lens_cons] at htotal
    obtain ⟨hseq, hctl, hplain⟩ := hlaid.2.1 (by omega)
    -- there is data in the queue, so that no FIN is acknowledged
    have hf : f = 0 := by
      by_contra hf
      have := (h.acked hf).1
      omega
    have hoffset : (g.seq - s.sndUna).toNat = lens pre := by
      rw [hseq, h.una, hf, toNat_sub, toNat_ofNat, toNat_ofNat]
      omega
    refine ⟨u + lens pre, hseq, ?_, fun hc => ?_, hplain⟩
    · rw [hlength]
      simp only [segmentOf, if_neg h0]
      rw [hoffset, PseudoTcpFifo.readOffset_eq hq.wf, h.buffered, List.drop_drop]
    · rw [hlength]
      have := hctl hc
      omega
  · have hlen := hq.segments.fin_len g hmem hfin
    obtain rfl : n = 0 := by omega
    refine ⟨by simp [segmentOf], h.fins g ?_ hfin⟩
    rw [hq.slist]
    exact hmem

/-- A segment that is cut in its place. -/
lemma cut (h : Sends isOpen stream o wire u f) (hq : Queued o isOpen sent unsent fins)
    (hg : o.slist.find? (·.addr = g.addr) = some g) (hn : n < g.len) (xmit : ℕ) :
    Sends isOpen stream (splitSegment o g n xmit) wire u f := by
  obtain ⟨pre, post, hlist⟩ := find_split hg
  have hnodup := hq.segments.nodup
  rw [← hq.slist, hlist] at hnodup
  have hslist := Queued.splitSegment_slist hlist hnodup n xmit
  have hmem : g ∈ o.slist := List.mem_of_find?_eq_some hg
  have hlaid := h.laid
  rw [hlist] at hlaid
  refine
    { h with
      laid := by
        rw [hslist]
        exact hlaid.cut hn.le xmit o.nextAddr
      fins := fun x hx hfin => ?_ }
  have hdata : g.flags.has FLAG_FIN = false := by
    cases hf : g.flags.has FLAG_FIN with
    | false => rfl
    | true =>
        have := hq.segments.fin_len g (by rw [← hq.slist]; exact hmem) hf
        omega
  rw [hslist] at hx
  simp only [List.mem_append, List.mem_cons] at hx
  rcases hx with hx | rfl | rfl | hx
  · exact h.fins x (by rw [hlist]; simp [hx]) hfin
  · rw [show (headPart g n).flags = g.flags from rfl, hdata] at hfin
    cases hfin
  · rw [show (tailPart g n xmit o.nextAddr).flags = g.flags from rfl, hdata] at hfin
    cases hfin
  · exact h.fins x (by rw [hlist]; simp [hx]) hfin

/-- The bookkeeping of `transmit`. -/
lemma markSent (h : Sends isOpen stream o wire u f) (hq : Queued o isOpen sent unsent fins)
    (hg : o.slist.find? (·.addr = g.addr) = some g) (ho : markSent o g n = .ok o') :
    Sends isOpen stream o' wire u f := by
  obtain ⟨o₁, ho₁, h₁⟩ : ∃ o₁, (if n < g.len then splitSegment o g n g.xmit else o) = o₁ ∧
      Sends isOpen stream o₁ wire u f := by
    refine ⟨_, rfl, ?_⟩
    split
    next hn => exact h.cut hq hg hn g.xmit
    next => exact h
  have hslist : o'.slist = updateSegment o₁.slist g.addr fun x => { x with xmit := x.xmit + 1 } := by
    unfold PseudoTcpSocket.markSent at ho
    rw [ho₁] at ho
    dsimp only at ho
    split at ho
    · split at ho
      · split at ho
        · cases ho
          rfl
        · cases ho
      · cases ho
    · cases ho
      rfl
  obtain ⟨huna, hbuf, -⟩ := markSent_ok ho
  have hfirst : o₁.sndUna = o.sndUna ∧ o₁.sbuf = o.sbuf := by
    rw [← ho₁]
    split <;> exact ⟨rfl, rfl⟩
  exact
    { una := (huna.trans hfirst.1.symm).trans h₁.una
      le := h.le
      buffered := by
        rw [hbuf, ← hfirst.2]
        exact h₁.buffered
      laid := by
        rw [hslist, laid_touch]
        exact h₁.laid
      acked := h.acked
      once := h.once
      fins := fun x hx hfin => by
        rw [hslist] at hx
        obtain ⟨y, hy, hseq, hflags⟩ := mem_touch hx
        rw [← hseq]
        exact h₁.fins y hy (by rw [hflags]; exact hfin)
      wire := h.wire }

/-- The bytes of a piece are there in a longer stream as well. -/
lemma piece_append {seg : Segment} (h : Piece k stream seg) (hfin : seg.flags.has FLAG_FIN = false) :
    Piece k (stream ++ more) seg where
  data hdata := by
    obtain ⟨p, hseq, hstretch, hkinds⟩ := h.data hdata
    have hle := stretch_le hstretch hdata
    refine ⟨p, hseq, ?_, hkinds⟩
    rw [List.drop_append_of_le_length (by omega),
      List.take_append_of_le_length (by rw [List.length_drop]; omega)]
    exact hstretch
  fin hf := by
    rw [hfin] at hf
    cases hf

/-- The stream goes on with what the buffer was given, where the segments are still laid out. -/
lemma extend (h : Sends isOpen stream o wire u f) (q : Outgoing) {sbuf : PseudoTcpFifo}
    (hopen : more ≠ [] → isOpen) (hsbuf : sbuf.contents = o.sbuf.contents ++ more)
    (huna : q.sndUna = o.sndUna) (hlaid : Laid 7 u q.slist)
    (hfins : ∀ g ∈ q.slist, g.flags.has FLAG_FIN = true →
      g.seq = UInt32.ofNat (stream ++ more).length) :
    Sends isOpen (stream ++ more) { q with sbuf } wire u f where
  una := huna.trans h.una
  le := h.le.trans (by simp)
  buffered := by
    rw [List.drop_append_of_le_length h.le, ← h.buffered]
    exact hsbuf
  laid := hlaid
  acked hf := by
    obtain ⟨hu, hclosed⟩ := h.acked hf
    have hnil : more = [] := by_contra fun hne => hclosed (hopen hne)
    exact ⟨by rw [hnil, List.append_nil]; exact hu, hclosed⟩
  once := h.once
  fins := hfins
  wire packet hp seg hseg := by
    obtain ⟨hpiece, hnofin⟩ := h.wire packet hp seg hseg
    refine ⟨?_, hnofin⟩
    by_cases hnil : more = []
    · rw [hnil, List.append_nil]
      exact hpiece
    · exact piece_append hpiece (hnofin (hopen hnil))

/-- What the queue is given at its end goes on with the stream: only an open socket takes bytes, and
a FIN is behind all of them. -/
lemma push (h : Sends isOpen stream o wire u f) (hq : Queued o isOpen sent unsent fins)
    {flags : TcpFlags} {sbuf : PseudoTcpFifo} (hopen : more ≠ [] → isOpen)
    (hctl : more ≠ [] → flags.has FLAG_CTL = true → stream.length + more.length ≤ 7)
    (hplain : more ≠ [] → flags.has FLAG_CTL = false → 7 ≤ stream.length)
    (hfin : flags.has FLAG_FIN = true → more = [] ∧
      o.sndUna + UInt32.ofNat o.sbuf.dataLength = UInt32.ofNat stream.length)
    (hsbuf : sbuf.contents = o.sbuf.contents ++ more) :
    Sends isOpen (stream ++ more) { pushSegment o more.length flags with sbuf } wire u f := by
  have hdl := h.dataLength
  have htotal := hq.total
  have hsegs := hq.segments
  rw [← hq.slist] at htotal hsegs
  have hpos (h0 : more.length ≠ 0) : more ≠ [] := fun hnil => h0 (by rw [hnil]; rfl)
  have hopened (h0 : more.length ≠ 0) : f = 0 ∧ ∀ g ∈ o.slist, g.flags.has FLAG_FIN = false := by
    have hi := hopen (hpos h0)
    exact ⟨by_contra fun hf => (h.acked hf).2 hi, hsegs.no_fin hi⟩
  have hone (g : SSegment) (hg : g ∈ o.slist) (hf : g.flags.has FLAG_FIN = true) :
      g.seq = UInt32.ofNat (stream ++ more).length := by
    by_cases h0 : more.length = 0
    · rw [List.length_append, h0, Nat.add_zero]
      exact h.fins g hg hf
    · rw [(hopened h0).2 g hg] at hf
      cases hf
  have hnew : Sends isOpen (stream ++ more)
      { pushSegment.newSegment o more.length flags with sbuf } wire u f := by
    refine h.extend (pushSegment.newSegment o more.length flags) hopen hsbuf rfl ?_
      fun g hg hf => ?_
    · simp only [pushSegment.newSegment]
      rw [laid_append, laid_cons, htotal]
      refine ⟨h.laid, fun h0 => ?_, trivial⟩
      obtain ⟨rfl, -⟩ := hopened h0
      refine ⟨?_, fun hc => ?_, fun hc => ?_⟩
      · dsimp only [PseudoTcpFifo.getBuffered]
        rw [h.una, Nat.add_zero, ← ofNat_add]
      · have := hctl (hpos h0) hc
        dsimp only
        omega
      · have := hplain (hpos h0) hc
        omega
    · simp only [pushSegment.newSegment, List.mem_append, List.mem_singleton] at hg
      rcases hg with hg | rfl
      · exact hone g hg hf
      · obtain ⟨hnil, hend⟩ := hfin hf
        rw [hnil, List.append_nil]
        exact hend
  unfold pushSegment
  cases htail : o.slist.getLast? with
  | none => exact hnew
  | some tail =>
      dsimp only
      split
      next hjoin =>
        obtain ⟨rfl, -⟩ := hjoin
        obtain ⟨front, hfront⟩ : ∃ front, o.slist = front ++ [tail] := by
          obtain ⟨front, hfront⟩ := List.getLast?_eq_some_iff.mp htail
          exact ⟨front, hfront⟩
        have hlaid := h.laid
        rw [hfront, laid_append, laid_cons] at hlaid
        rw [hfront, lens_append, lens_cons, lens_nil, Nat.add_zero] at htotal
        refine h.extend { o with slist := o.slist.dropLast ++
          [{ tail with len := tail.len + more.length }] } hopen hsbuf rfl ?_ fun g hg hf => ?_
        · dsimp only
          rw [hfront, List.dropLast_concat, laid_append, laid_cons]
          refine ⟨hlaid.1, ?_, trivial⟩
          by_cases h0 : more.length = 0
          · rw [h0]
            exact hlaid.2.1
          intro _
          obtain ⟨rfl, -⟩ := hopened h0
          have hseq : tail.seq = UInt32.ofNat (u + lens front) := by
            have hcont := hsegs.contiguous.resolve_right fun hc => hc.1 (hopen (hpos h0))
            rw [hfront, contiguous_append, contiguous_cons, h.una, Nat.add_zero,
              ← ofNat_add] at hcont
            exact hcont.2.1
          refine ⟨hseq, fun hc => ?_, fun hc => ?_⟩
          · have := hctl (hpos h0) hc
            dsimp only
            omega
          · have := hplain (hpos h0) hc
            by_cases hempty : tail.len = 0
            · omega
            · exact (hlaid.2.1 hempty).2.2 hc
        · rw [hfront, List.dropLast_concat] at hg
          rcases List.mem_append.mp hg with hg | hg
          · exact hone g (by rw [hfront]; simp [hg]) hf
          · rw [List.mem_singleton.mp hg] at hf ⊢
            exact hone tail (by rw [hfront]; simp) hf
      next => exact hnew

/-- The acknowledged bytes leave the queue. -/
lemma free (h : Sends isOpen stream o wire u f) (hq : Queued o isOpen sent unsent fins)
    (hn : n ≤ lens sent) {sbuf : PseudoTcpFifo} (hbuf : o.sbuf.consumeReadData n = .ok sbuf)
    {largest largest' : ℕ} {slist : List SSegment}
    (hfree : freeAcked n o.slist largest = .ok (slist, largest')) :
    Sends isOpen stream { o with sndUna := UInt32.ofNat (u + n + f), sbuf, slist } wire (u + n)
      f := by
  have hdl := h.dataLength
  have hle := (PseudoTcpFifo.consumeReadData_eq_ok.mp hbuf).1
  have hlaid := h.laid
  have hcases := hfree
  rw [hq.slist] at hcases hlaid
  have hkeep (hl : Laid 7 (u + n) slist)
      (hmem : ∀ g ∈ slist, g.flags.has FLAG_FIN = true → g ∈ o.slist) :
      Sends isOpen stream { o with sndUna := UInt32.ofNat (u + n + f), sbuf, slist } wire (u + n)
        f :=
    { una := rfl
      le := by omega
      buffered := by
        rw [PseudoTcpFifo.consumeReadData_contents hbuf, h.buffered, List.drop_drop]
      laid := hl
      acked := fun hf => ⟨by have := (h.acked hf).1; omega, (h.acked hf).2⟩
      once := h.once
      fins := fun g hg hf => h.fins g (hmem g hg hf) hf
      wire := h.wire }
  rcases Queued.freeAcked_cases hn hcases with
    ⟨pre, post, rfl, rfl, rfl⟩ | ⟨pre, g, post, i, rfl, hi, rfl, rfl⟩
  · rw [List.append_assoc, laid_append] at hlaid
    refine hkeep hlaid.2 fun g hg _ => ?_
    rw [hq.slist, List.append_assoc]
    exact List.mem_append_right pre hg
  · rw [List.append_assoc, laid_append, List.cons_append, laid_cons] at hlaid
    obtain ⟨-, hg, hrest⟩ := hlaid
    refine hkeep ⟨fun h0 => ?_, ?_⟩ fun x hx hf => ?_
    · obtain ⟨hseq, hctl, hplain⟩ := hg (by omega)
      refine ⟨?_, fun hc => ?_, fun hc => ?_⟩
      · dsimp only
        rw [hseq, ← ofNat_add, Nat.add_assoc]
      · have := hctl hc
        dsimp only
        omega
      · have := hplain hc
        omega
    · have hpos : u + (lens pre + i) + (g.len - i) = u + lens pre + g.len := by omega
      dsimp only
      rw [hpos]
      exact hrest
    · rw [hq.slist, List.append_assoc, List.cons_append]
      rcases List.mem_cons.mp hx with rfl | hx
      · have := hq.segments.fin_len g (by simp) hf
        omega
      · exact List.mem_append_right pre (List.mem_cons_of_mem g hx)

end Sends

/-- The queue of a socket sends a stream. -/
def Sending (isOpen : Prop) (stream : Bytes) (s : PseudoTcpSocket) : Prop :=
  QueuedIn isOpen s ∧ ∃ u f, Sends isOpen stream s.toOutgoing s.wire u f

lemma Sending.of_eq (h : Sending isOpen stream s) (ho : s'.toOutgoing = s.toOutgoing)
    (hwire : s'.wire = s.wire) : Sending isOpen stream s' := by
  obtain ⟨hq, u, f, hs⟩ := h
  refine ⟨hq.of_eq ho, u, f, ?_⟩
  rw [ho, hwire]
  exact hs

lemma Sending.mono {isOpen' : Prop} (h : Sending isOpen stream s) (ho : isOpen' → isOpen) :
    Sending isOpen' stream s :=
  let ⟨hq, u, f, hs⟩ := h
  ⟨hq.mono ho, u, f, hs.mono ho⟩

/-- A packet of the socket. -/
lemma packetBytes_piece {seq : UInt32} {flags : TcpFlags} {offset : ℕ} {now : UInt32}
    {Q : Segment → Prop} (h : Q (s.segmentOf seq flags offset n now)) :
    ∀ seg, parse (s.packetBytes seq flags offset n now) = some seg → Q seg := by
  intro seg hseg
  rw [parse_packetBytes] at hseg
  obtain rfl := Option.some.inj hseg
  exact h

/-- A packet without payload. -/
lemma Sending.ack (h : Sending isOpen stream s) {seq now : UInt32} {r : PseudoTcpWriteResult}
    (hseq : seq = s.sndNxt ∨ seq = s.sndNxt - 1)
    (hp : s.packet env seq FLAG_NONE 0 0 now = .ok (s', r)) : Sending isOpen stream s' := by
  obtain ⟨hq, u, f, hs⟩ := h
  obtain ⟨hquiet, hwire, -⟩ := packet_ok hp
  refine ⟨(SendStep.ack hseq hp).queued hq, u, f, ?_⟩
  rw [hwire, show s'.toOutgoing = s.toOutgoing from congrArg (·.toOutgoing) hquiet]
  have hfin : TcpFlags.has FLAG_NONE FLAG_FIN = false := by decide
  refine hs.write (packetBytes_piece ⟨Sends.empty_piece ?_ hfin, fun _ => hfin⟩)
  simp [segmentOf]

/-- **Sending keeps what is sent to the stream.** -/
lemma SendStep.sends (h : Sending isOpen stream s) (hstep : SendStep env s s') :
    Sending isOpen stream s' := by
  have hqueued := hstep.queued h.1
  cases hstep with
  | delayAck => exact h.of_eq rfl rfl
  | restart => exact h.of_eq rfl rfl
  | lower m rest => exact h.of_eq (lowerMss_core s m rest).2.1 (lowerMss_core s m rest).2.2
  | ack hseq hp => exact h.ack hseq hp
  | @refused g n now _ r hg hn hp hr =>
      obtain ⟨⟨sent, unsent, fins, hq⟩, u, f, hs⟩ := h
      obtain ⟨hquiet, hwire, -, hread, -⟩ := packet_ok hp
      refine ⟨hqueued, u, f, ?_⟩
      rw [hwire, show s'.toOutgoing = s.toOutgoing from congrArg (·.toOutgoing) hquiet]
      exact hs.write (packetBytes_piece (Sends.piece hq hs hg hn now hread))
  | @sent g n now s₁ o hg hn hp ho =>
      obtain ⟨⟨sent, unsent, fins, hq⟩, u, f, hs⟩ := h
      obtain ⟨hquiet, hwire, -, hread, -⟩ := packet_ok hp
      rw [show s₁.toOutgoing = s.toOutgoing from congrArg (·.toOutgoing) hquiet] at ho
      refine ⟨hqueued, u, f, ?_⟩
      dsimp only
      rw [hwire]
      exact (hs.write (packetBytes_piece (Sends.piece hq hs hg hn now hread))).markSent hq hg ho
  | @split g n hu hg h0 hn =>
      obtain ⟨⟨sent, unsent, fins, hq⟩, u, f, hs⟩ := h
      exact ⟨hqueued, u, f, hs.cut hq hg hn 0⟩

lemma SendSteps.sends (h : Sending isOpen stream s) (hsteps : SendSteps env s s') :
    Sending isOpen stream s' :=
  hsteps.invariant h fun _ _ ht hstep => hstep.sends ht

lemma attemptSend_sends {sflags : SendFlags} {reading : UInt32} (h : Sending isOpen stream s)
    (ha : s.attemptSend env sflags reading = .ok s') : Sending isOpen stream s' :=
  ((attemptSend_steps env s sflags reading).of_ok ha).sends h

end PseudoTcpSocket

end LibNice.PseudoTcp
