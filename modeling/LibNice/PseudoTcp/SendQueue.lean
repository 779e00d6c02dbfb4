import LibNice.PseudoTcp.States

/-!
The send queue: the two segment lists and the send buffer.

* `Contiguous`, `Covers`: segments that follow one another in sequence space.
* `Queued`: `slist` is the sent segments followed by the unsent ones, which
  `unsent_slist` has, the segments cover the send buffer, and `snd_nxt` is behind the
  sent ones and the FINs.
* `Queued.markSent`, `Queued.split`, `Queued.push`, `Queued.acked`: what splits,
  appends, trims and frees segments preserves it.
* `send_queue_represented`: **the lists and the buffer agree in every run**.
-/

namespace LibNice.PseudoTcp

open LibNice.Foundation

namespace PseudoTcpSocket

/-! ### Segments in sequence space -/

/-- The number of bytes of some segments. -/
def lens (l : List SSegment) : ℕ := (l.map (·.len)).sum

@[simp] lemma lens_nil : lens [] = 0 := rfl

@[simp] lemma lens_cons (g : SSegment) (l : List SSegment) : lens (g :: l) = g.len + lens l := by
  simp [lens]

@[simp] lemma lens_append (l₁ l₂ : List SSegment) : lens (l₁ ++ l₂) = lens l₁ + lens l₂ := by
  simp [lens]

lemma lens_eq_zero {l : List SSegment} : lens l = 0 ↔ ∀ g ∈ l, g.len = 0 := by
  induction l with
  | nil => simp
  | cons g l ih => simp [ih]

/-- The segments follow one another from sequence number `q` on. -/
def Contiguous : UInt32 → List SSegment → Prop
  | _, [] => True
  | q, g :: l => g.seq = q ∧ Contiguous (q + UInt32.ofNat g.len) l

lemma ofNat_add (m n : ℕ) : UInt32.ofNat (m + n) = UInt32.ofNat m + UInt32.ofNat n := by
  apply UInt32.toNat_inj.mp
  simp only [toNat_add, toNat_ofNat]
  omega

lemma add_ofNat_add (q : UInt32) (m n : ℕ) :
    q + UInt32.ofNat m + UInt32.ofNat n = q + UInt32.ofNat (m + n) := by
  rw [ofNat_add, UInt32.add_assoc]

@[simp] lemma add_ofNat_zero (q : UInt32) : q + UInt32.ofNat 0 = q := by
  simp

@[simp] lemma contiguous_nil (q : UInt32) : Contiguous q [] := trivial

lemma contiguous_cons {q : UInt32} {g : SSegment} {l : List SSegment} :
    Contiguous q (g :: l) ↔ g.seq = q ∧ Contiguous (q + UInt32.ofNat g.len) l := Iff.rfl

lemma contiguous_append {q : UInt32} {l₁ l₂ : List SSegment} :
    Contiguous q (l₁ ++ l₂) ↔ Contiguous q l₁ ∧ Contiguous (q + UInt32.ofNat (lens l₁)) l₂ := by
  induction l₁ generalizing q with
  | nil => simp
  | cons g l₁ ih =>
      rw [List.cons_append, contiguous_cons, contiguous_cons, ih, lens_cons, add_ofNat_add,
        and_assoc]

/-- The segments are contiguous from `q` on, have each a byte, and `n` bytes in all. -/
def Covers : UInt32 → List SSegment → ℕ → Prop
  | _, [], n => n = 0
  | q, g :: l, n =>
      g.seq = q ∧ 0 < g.len ∧ g.len ≤ n ∧ Covers (q + UInt32.ofNat g.len) l (n - g.len)

/-- Contiguous segments without the empty ones cover their bytes. -/
lemma Contiguous.covers {q : UInt32} {l : List SSegment} (h : Contiguous q l) :
    Covers q (l.filter (·.len ≠ 0)) (lens l) := by
  induction l generalizing q with
  | nil => rfl
  | cons g l ih =>
      obtain ⟨hq, hl⟩ := h
      by_cases h0 : g.len = 0
      · rw [List.filter_cons_of_neg (by simp [h0]), lens_cons, h0, Nat.zero_add]
        rw [h0, add_ofNat_zero] at hl
        exact ih hl
      · rw [List.filter_cons_of_pos (by simp [h0])]
        refine ⟨hq, by omega, by simp, ?_⟩
        rw [lens_cons, Nat.add_sub_cancel_left]
        exact ih hl

lemma covers_of_empty {q : UInt32} {l : List SSegment} (h : ∀ g ∈ l, g.len = 0) :
    Covers q (l.filter (·.len ≠ 0)) (lens l) := by
  have hnil : l.filter (·.len ≠ 0) = [] := by
    rw [List.filter_eq_nil_iff]
    intro g hg
    simp [h g hg]
  rw [hnil]
  exact lens_eq_zero.mpr h

/-! ### Nodes -/

/-- The addresses of some nodes. -/
def addrs (l : List SSegment) : List ℕ := l.map (·.addr)

@[simp] lemma addrs_append (l₁ l₂ : List SSegment) : addrs (l₁ ++ l₂) = addrs l₁ ++ addrs l₂ := by
  simp [addrs]

@[simp] lemma addrs_cons (g : SSegment) (l : List SSegment) :
    addrs (g :: l) = g.addr :: addrs l := rfl

@[simp] lemma addrs_nil : addrs [] = [] := rfl

lemma mem_addrs {l : List SSegment} {g : SSegment} (h : g ∈ l) : g.addr ∈ addrs l :=
  List.mem_map_of_mem h

lemma updateSegment_of_not_mem {l : List SSegment} {a : ℕ} {f : SSegment → SSegment}
    (h : a ∉ addrs l) : updateSegment l a f = l := by
  induction l with
  | nil => rfl
  | cons g l ih =>
      simp only [addrs_cons, List.mem_cons, not_or] at h
      have hg : ¬ g.addr = a := fun hga => h.1 hga.symm
      simp only [updateSegment, List.map_cons, if_neg hg]
      congr 1
      exact ih h.2

/-- The node at an address is changed in its place. -/
lemma updateSegment_append {pre post : List SSegment} {g : SSegment} {f : SSegment → SSegment}
    (h : (addrs (pre ++ g :: post)).Nodup) :
    updateSegment (pre ++ g :: post) g.addr f = pre ++ f g :: post := by
  rw [addrs_append, addrs_cons, List.nodup_append] at h
  obtain ⟨-, hgp, hdisj⟩ := h
  have hpre : g.addr ∉ addrs pre := fun hmem => hdisj _ hmem _ List.mem_cons_self rfl
  have hpost : g.addr ∉ addrs post := (List.nodup_cons.mp hgp).1
  have hsplit : updateSegment (pre ++ g :: post) g.addr f =
      updateSegment pre g.addr f ++ f g :: updateSegment post g.addr f := by
    simp [updateSegment]
  rw [hsplit, updateSegment_of_not_mem hpre, updateSegment_of_not_mem hpost]

/-- A new node behind the one at an address. -/
lemma insertAfter_append {pre post : List SSegment} {g subseg : SSegment}
    (h : g.addr ∉ addrs pre) :
    insertAfter (pre ++ g :: post) g.addr subseg = pre ++ g :: subseg :: post := by
  induction pre with
  | nil => simp [insertAfter]
  | cons x pre ih =>
      simp only [addrs_cons, List.mem_cons, not_or] at h
      have hx : ¬ x.addr = g.addr := fun hxg => h.1 hxg.symm
      simp only [List.cons_append, insertAfter, if_neg hx, ih h.2]

/-- The node that is found at an address, in its place. -/
lemma find_split {l : List SSegment} {g : SSegment}
    (h : l.find? (·.addr = g.addr) = some g) : ∃ pre post, l = pre ++ g :: post := by
  obtain ⟨-, pre, post, hl, -⟩ := List.find?_eq_some_iff_append.mp h
  exact ⟨pre, post, hl⟩

lemma find_of_split {pre post : List SSegment} {g : SSegment}
    (h : (addrs (pre ++ g :: post)).Nodup) :
    (pre ++ g :: post).find? (·.addr = g.addr) = some g := by
  rw [addrs_append, addrs_cons, List.nodup_append] at h
  obtain ⟨-, -, hdisj⟩ := h
  rw [List.find?_append, List.find?_eq_none.mpr, Option.none_or, List.find?_cons_of_pos (by simp)]
  intro x hx
  have hne : ¬ x.addr = g.addr := hdisj _ (mem_addrs hx) _ List.mem_cons_self
  simpa using hne

/-- A cut segment: its first `n` bytes, and a new node with the rest. -/
def headPart (g : SSegment) (n : ℕ) : SSegment := { g with len := n }

/-- The new node of a cut segment. -/
def tailPart (g : SSegment) (n xmit addr : ℕ) : SSegment :=
  { addr, seq := g.seq + UInt32.ofNat n, len := g.len - n, xmit, flags := g.flags }

/-- What holds of the segment list as a whole: fresh addresses, contiguous segments (or,
behind an acknowledged FIN, empty ones), and no data behind a FIN.  While the socket is
open for sending there is no FIN. -/
structure Segments (una : UInt32) (next : ℕ) (isOpen : Prop) (l : List SSegment) : Prop where
  addr_lt : ∀ g ∈ l, g.addr < next
  nodup : (addrs l).Nodup
  contiguous : Contiguous una l ∨ ¬ isOpen ∧ ∀ g ∈ l, g.len = 0
  no_fin : isOpen → ∀ g ∈ l, g.flags.has FLAG_FIN = false
  fin_len : ∀ g ∈ l, g.flags.has FLAG_FIN = true → g.len = 0
  fin_last : l.Pairwise fun a b => a.flags.has FLAG_FIN = true → b.len = 0

namespace Segments

variable {una : UInt32} {next n : ℕ} {isOpen isOpen' : Prop} {pre post l : List SSegment}
  {g : SSegment}

/-- A socket that is closed for sending promises less. -/
lemma mono (h : Segments una next isOpen l) (ho : isOpen' → isOpen) :
    Segments una next isOpen' l :=
  { h with
    contiguous := h.contiguous.imp id fun hc => ⟨fun hi => hc.1 (ho hi), hc.2⟩
    no_fin := fun hi => h.no_fin (ho hi) }

/-- A segment is cut in two. -/
lemma cut (h : Segments una next isOpen (pre ++ g :: post)) (hn : n ≤ g.len) (xmit : ℕ) :
    Segments una (next + 1) isOpen
      (pre ++ headPart g n :: tailPart g n xmit next :: post) where
  addr_lt x hx := by
    have hg := h.addr_lt g (by simp)
    have hlt := fun x hx => h.addr_lt x hx
    simp only [List.mem_append, List.mem_cons] at hx hlt
    rcases hx with hx | rfl | rfl | hx
    · exact (hlt x (.inl hx)).trans (Nat.lt_succ_self _)
    · exact hg.trans (Nat.lt_succ_self _)
    · exact Nat.lt_succ_self _
    · exact (hlt x (.inr (.inr hx))).trans (Nat.lt_succ_self _)
  nodup := by
    have hnext : next ∉ addrs (pre ++ g :: post) := by
      intro hmem
      obtain ⟨x, hx, hxa⟩ := List.mem_map.mp hmem
      exact absurd (h.addr_lt x hx) (by omega)
    have hperm : (addrs (pre ++ headPart g n :: tailPart g n xmit next :: post)).Perm
        (next :: addrs (pre ++ g :: post)) := by
      simp only [addrs_append, addrs_cons, headPart, tailPart]
      refine (List.Perm.append_left _ (List.Perm.swap _ _ _)).trans ?_
      exact List.perm_middle
    exact hperm.nodup_iff.mpr (List.nodup_cons.mpr ⟨hnext, h.nodup⟩)
  contiguous := by
    refine h.contiguous.imp (fun hc => ?_) fun ⟨hopen, h0⟩ => ⟨hopen, ?_⟩
    · rw [contiguous_append, contiguous_cons] at hc ⊢
      obtain ⟨hpre, hg, hpost⟩ := hc
      refine ⟨hpre, hg, ?_, ?_⟩
      · simp only [headPart, tailPart, hg]
      · simp only [headPart, tailPart]
        rw [add_ofNat_add, Nat.add_sub_cancel' hn]
        exact hpost
    · have hg := h0 g (by simp)
      intro x hx
      simp only [List.mem_append, List.mem_cons] at hx
      rcases hx with hx | rfl | rfl | hx
      · exact h0 x (by simp [hx])
      · simp only [headPart]
        omega
      · simp only [tailPart]
        omega
      · exact h0 x (by simp [hx])
  no_fin hi x hx := by
    have hg := h.no_fin hi g (by simp)
    simp only [List.mem_append, List.mem_cons] at hx
    rcases hx with hx | rfl | rfl | hx
    · exact h.no_fin hi x (by simp [hx])
    · exact hg
    · exact hg
    · exact h.no_fin hi x (by simp [hx])
  fin_len x hx hfin := by
    have hg := h.fin_len g (by simp)
    simp only [List.mem_append, List.mem_cons] at hx
    rcases hx with hx | rfl | rfl | hx
    · exact h.fin_len x (by simp [hx]) hfin
    · have := hg hfin
      simp only [headPart]
      omega
    · have := hg hfin
      simp only [tailPart]
      omega
    · exact h.fin_len x (by simp [hx]) hfin
  fin_last := by
    have hg := h.fin_len g (by simp)
    have hlast := h.fin_last
    simp only [List.pairwise_append, List.pairwise_cons, List.mem_cons, forall_eq_or_imp]
      at hlast ⊢
    obtain ⟨hpre, ⟨hgp, hpost⟩, hcross⟩ := hlast
    refine ⟨hpre, ⟨⟨fun hfin => ?_, hgp⟩, hgp, hpost⟩, fun x hx => ⟨fun hfin => ?_, fun hfin => ?_,
      (hcross x hx).2⟩⟩
    · have := hg hfin
      simp only [tailPart]
      omega
    · have := (hcross x hx).1 hfin
      simp only [headPart]
      omega
    · have := (hcross x hx).1 hfin
      simp only [tailPart]
      omega

/-- A segment is transmitted once more. -/
lemma touch (h : Segments una next isOpen (pre ++ g :: post)) (xmit : ℕ) :
    Segments una next isOpen (pre ++ { g with xmit } :: post) where
  addr_lt x hx := by
    have hlt := fun x hx => h.addr_lt x hx
    simp only [List.mem_append, List.mem_cons] at hx hlt
    rcases hx with hx | rfl | hx
    · exact hlt x (.inl hx)
    · exact hlt g (.inr (.inl rfl))
    · exact hlt x (.inr (.inr hx))
  nodup := by
    have := h.nodup
    simpa using this
  contiguous := by
    refine h.contiguous.imp (fun hc => ?_) fun ⟨hopen, h0⟩ => ⟨hopen, ?_⟩
    · rw [contiguous_append, contiguous_cons] at hc ⊢
      exact hc
    · intro x hx
      simp only [List.mem_append, List.mem_cons] at hx
      rcases hx with hx | rfl | hx
      · exact h0 x (by simp [hx])
      · exact h0 g (by simp)
      · exact h0 x (by simp [hx])
  no_fin hi x hx := by
    simp only [List.mem_append, List.mem_cons] at hx
    rcases hx with hx | rfl | hx
    · exact h.no_fin hi x (by simp [hx])
    · exact h.no_fin hi g (by simp)
    · exact h.no_fin hi x (by simp [hx])
  fin_len x hx hfin := by
    simp only [List.mem_append, List.mem_cons] at hx
    rcases hx with hx | rfl | hx
    · exact h.fin_len x (by simp [hx]) hfin
    · exact h.fin_len g (by simp) hfin
    · exact h.fin_len x (by simp [hx]) hfin
  fin_last := by
    have hlast := h.fin_last
    simp only [List.pairwise_append, List.pairwise_cons, List.mem_cons, forall_eq_or_imp]
      at hlast ⊢
    exact hlast

/-- A new segment at the end: only an open socket takes bytes, and only one that is not
open a FIN. -/
lemma push (h : Segments una next isOpen l) (hg : g.addr = next)
    (hseq : g.seq = una + UInt32.ofNat (lens l)) (hopen : g.len ≠ 0 → isOpen)
    (hfin : g.flags.has FLAG_FIN = true → g.len = 0 ∧ ¬ isOpen) :
    Segments una (next + 1) isOpen (l ++ [g]) where
  addr_lt x hx := by
    rcases List.mem_append.mp hx with hx | hx
    · exact (h.addr_lt x hx).trans (Nat.lt_succ_self _)
    · rw [List.mem_singleton.mp hx, hg]
      exact Nat.lt_succ_self _
  nodup := by
    rw [addrs_append, addrs_cons, addrs_nil, ← List.concat_eq_append, List.nodup_concat]
    refine ⟨fun hmem => ?_, h.nodup⟩
    obtain ⟨x, hx, hxa⟩ := List.mem_map.mp hmem
    exact absurd (h.addr_lt x hx) (by omega)
  contiguous := by
    rcases h.contiguous with hl | ⟨hclosed, hl⟩
    · exact .inl (contiguous_append.mpr ⟨hl, hseq, trivial⟩)
    · refine .inr ⟨hclosed, fun x hx => ?_⟩
      rcases List.mem_append.mp hx with hx | hx
      · exact hl x hx
      · rw [List.mem_singleton.mp hx]
        by_contra h0
        exact hclosed (hopen h0)
  no_fin hi x hx := by
    rcases List.mem_append.mp hx with hx | hx
    · exact h.no_fin hi x hx
    · rw [List.mem_singleton.mp hx]
      by_contra hf
      exact (hfin (by simpa using hf)).2 hi
  fin_len x hx hf := by
    rcases List.mem_append.mp hx with hx | hx
    · exact h.fin_len x hx hf
    · rw [List.mem_singleton.mp hx] at hf ⊢
      exact (hfin hf).1
  fin_last := by
    rw [List.pairwise_append]
    refine ⟨h.fin_last, List.pairwise_singleton _ _, fun x hx y hy hf => ?_⟩
    rw [List.mem_singleton.mp hy]
    by_contra h0
    have := h.no_fin (hopen h0) x hx
    rw [this] at hf
    cases hf

/-- The last segment takes more bytes. -/
lemma grow (h : Segments una next isOpen (l ++ [g])) {k : ℕ} (hk : k ≠ 0 → isOpen) :
    Segments una next isOpen (l ++ [{ g with len := g.len + k }]) := by
  by_cases h0 : k = 0
  · subst h0
    exact h
  have hopen := hk h0
  have hfin := h.no_fin hopen
  have hflags : ∀ x ∈ l ++ [{ g with len := g.len + k }], x.flags.has FLAG_FIN = false := by
    intro x hx
    simp only [List.mem_append, List.mem_singleton] at hx
    rcases hx with hx | rfl
    · exact hfin x (by simp [hx])
    · exact hfin g (by simp)
  refine
    { addr_lt := fun x hx => ?_
      nodup := by simpa using h.nodup
      contiguous := ?_
      no_fin := fun _ => hflags
      fin_len := fun x hx hf => by simp [hflags x hx] at hf
      fin_last := ?_ }
  · have hlt := fun x hx => h.addr_lt x hx
    simp only [List.mem_append, List.mem_singleton] at hx hlt
    rcases hx with hx | rfl
    · exact hlt x (.inl hx)
    · exact hlt g (.inr rfl)
  · have hl := h.contiguous.resolve_right fun hc => hc.1 hopen
    rw [contiguous_append] at hl
    exact .inl (contiguous_append.mpr ⟨hl.1, hl.2.1, trivial⟩)
  · refine (List.pairwise_of_forall_mem_list (r := fun _ _ => True) (by simp)).imp_of_mem ?_
    intro x y hx _ _ hf
    simp [hflags x hx] at hf

/-- The front of the list goes away. -/
lemma drop (h : Segments una next isOpen (pre ++ l)) :
    Segments (una + UInt32.ofNat (lens pre)) next isOpen l where
  addr_lt x hx := h.addr_lt x (by simp [hx])
  nodup := by
    have := h.nodup
    rw [addrs_append] at this
    exact (List.nodup_append.mp this).2.1
  contiguous := by
    refine h.contiguous.imp (fun hc => (contiguous_append.mp hc).2) fun ⟨hopen, h0⟩ => ⟨hopen, ?_⟩
    exact fun x hx => h0 x (by simp [hx])
  no_fin hi x hx := h.no_fin hi x (by simp [hx])
  fin_len x hx hf := h.fin_len x (by simp [hx]) hf
  fin_last := (List.pairwise_append.mp h.fin_last).2.1

/-- The first segment loses its front. -/
lemma trim (h : Segments una next isOpen (g :: l)) {k : ℕ} (hk : k < g.len) :
    Segments (una + UInt32.ofNat k) next isOpen
      ({ g with len := g.len - k, seq := g.seq + UInt32.ofNat k } :: l) where
  addr_lt x hx := by
    rcases List.mem_cons.mp hx with rfl | hx
    · exact h.addr_lt g (by simp)
    · exact h.addr_lt x (by simp [hx])
  nodup := by
    have := h.nodup
    simpa using this
  contiguous := by
    rcases h.contiguous with ⟨hg, hl⟩ | ⟨hopen, h0⟩
    · refine .inl ⟨by simp only [hg], ?_⟩
      simp only
      rw [add_ofNat_add, Nat.add_sub_cancel' hk.le]
      exact hl
    · exact absurd (h0 g (by simp)) (by omega)
  no_fin hi x hx := by
    rcases List.mem_cons.mp hx with rfl | hx
    · exact h.no_fin hi g (by simp)
    · exact h.no_fin hi x (by simp [hx])
  fin_len x hx hf := by
    rcases List.mem_cons.mp hx with rfl | hx
    · exact absurd (h.fin_len g (by simp) hf) (by omega)
    · exact h.fin_len x (by simp [hx]) hf
  fin_last := by
    have hlast := h.fin_last
    rw [List.pairwise_cons] at hlast ⊢
    exact hlast

/-- Behind an acknowledged FIN empty segments are fine at any sequence number. -/
lemma of_empty (h : Segments una next isOpen l) (hopen : ¬ isOpen) (h0 : ∀ g ∈ l, g.len = 0)
    (una' : UInt32) : Segments una' next isOpen l :=
  { h with contiguous := .inr ⟨hopen, h0⟩ }

end Segments

/-! ### The queue -/

/-- The send queue: the segments `sent` and then the segments `unsent`, of which `fins`
FINs are sent and not acknowledged. -/
structure Queued (o : Outgoing) (isOpen : Prop) (sent unsent : List SSegment) (fins : ℕ) :
    Prop where
  slist : o.slist = sent ++ unsent
  unsentSlist : o.unsentSlist = addrs unsent
  sent_xmit : ∀ g ∈ sent, g.xmit ≠ 0
  unsent_xmit : ∀ g ∈ unsent, g.xmit = 0
  segments : Segments o.sndUna o.nextAddr isOpen (sent ++ unsent)
  total : lens (sent ++ unsent) = o.sbuf.dataLength
  wf : o.sbuf.Wf
  size : o.sbuf.bufferLength < 4294967296
  nxt : o.sndNxt = o.sndUna + UInt32.ofNat (lens sent + fins)
  fins_last : 0 < fins → lens unsent = 0
  open_fins : isOpen → fins = 0

namespace Queued

variable {o o' : Outgoing} {isOpen isOpen' : Prop} {sent unsent pre post : List SSegment}
  {fins n : ℕ} {g : SSegment}

lemma mono (h : Queued o isOpen sent unsent fins) (ho : isOpen' → isOpen) :
    Queued o isOpen' sent unsent fins :=
  { h with
    segments := h.segments.mono ho
    open_fins := fun hi => h.open_fins (ho hi) }

/-- What the claim says of the queue. -/
lemma filter_unsent (h : Queued o isOpen sent unsent fins) :
    o.slist.filter (·.xmit = 0) = unsent := by
  have hs : sent.filter (·.xmit = 0) = [] := by
    rw [List.filter_eq_nil_iff]
    intro g hg
    simpa using h.sent_xmit g hg
  have hu : unsent.filter (·.xmit = 0) = unsent := by
    rw [List.filter_eq_self]
    intro g hg
    simpa using h.unsent_xmit g hg
  rw [h.slist, List.filter_append, hs, hu, List.nil_append]

lemma covers (h : Queued o isOpen sent unsent fins) :
    Covers o.sndUna (o.slist.filter (·.len ≠ 0)) o.sbuf.dataLength := by
  rw [h.slist, ← h.total]
  rcases h.segments.contiguous with hc | hc
  · exact hc.covers
  · exact covers_of_empty hc.2

/-- A node that is found is a sent or an unsent segment. -/
lemma find_mem (h : Queued o isOpen sent unsent fins)
    (hg : o.slist.find? (·.addr = g.addr) = some g) : g ∈ sent ∨ g ∈ unsent := by
  have := List.mem_of_find?_eq_some hg
  rwa [h.slist, List.mem_append] at this

/-- The head of `unsent_slist` is the first unsent segment. -/
lemma head_unsent (h : Queued o isOpen sent unsent fins)
    (hg : o.slist.find? (·.addr = g.addr) = some g)
    (hu : o.unsentSlist.head? = some g.addr) : ∃ post, unsent = g :: post := by
  rw [h.unsentSlist] at hu
  cases hun : unsent with
  | nil => simp [hun] at hu
  | cons x post =>
      have hx : x.addr = g.addr := by simpa [hun] using hu
      have hnd := h.segments.nodup
      have hfind := hg
      rw [hun] at hnd
      rw [h.slist, hun, ← hx, find_of_split hnd] at hfind
      exact ⟨post, by rw [Option.some.inj hfind]⟩

/-- A segment that was not sent is behind the ones that were. -/
lemma unsent_of_xmit (h : Queued o isOpen sent unsent fins)
    (hg : o.slist.find? (·.addr = g.addr) = some g) (hx : g.xmit ≠ 0) :
    ∃ pre post, sent = pre ++ g :: post := by
  rcases h.find_mem hg with hm | hm
  · exact List.append_of_mem hm
  · exact absurd (h.unsent_xmit g hm) hx

/-! ### Sending -/

lemma splitSegment_slist (hl : o.slist = pre ++ g :: post)
    (hnd : (addrs (pre ++ g :: post)).Nodup) (n xmit : ℕ) :
    (splitSegment o g n xmit).slist =
      pre ++ headPart g n :: tailPart g n xmit o.nextAddr :: post := by
  have hpre : (headPart g n).addr ∉ addrs pre := by
    rw [addrs_append, addrs_cons, List.nodup_append] at hnd
    exact fun hmem => hnd.2.2 _ hmem _ List.mem_cons_self rfl
  simp only [splitSegment, hl]
  rw [updateSegment_append hnd]
  exact insertAfter_append (g := headPart g n) hpre

lemma lens_cut (pre post : List SSegment) (hn : n ≤ g.len) (xmit addr : ℕ) :
    lens (pre ++ headPart g n :: tailPart g n xmit addr :: post) = lens (pre ++ g :: post) := by
  simp only [lens_append, lens_cons, headPart, tailPart]
  omega

/-- A segment that was sent is cut in two. -/
lemma cut_sent (h : Queued o isOpen (pre ++ g :: post) unsent fins) (hn : n ≤ g.len) :
    Queued (splitSegment o g n g.xmit) isOpen
      (pre ++ headPart g n :: tailPart g n g.xmit o.nextAddr :: post) unsent fins := by
  have hx : g.xmit ≠ 0 := h.sent_xmit g (by simp)
  have hl : o.slist = pre ++ g :: (post ++ unsent) := by simpa using h.slist
  have hseg : Segments o.sndUna o.nextAddr isOpen (pre ++ g :: (post ++ unsent)) := by
    simpa using h.segments
  have hslist := splitSegment_slist hl hseg.nodup n g.xmit
  have hcut := hseg.cut hn g.xmit
  have hlens := lens_cut pre post hn g.xmit o.nextAddr
  refine
    { h with
      slist := by simpa using hslist
      unsentSlist := by simpa [splitSegment, hx] using h.unsentSlist
      sent_xmit := fun y hy => ?_
      segments := by
        show Segments o.sndUna (o.nextAddr + 1) isOpen _
        simpa using hcut
      total := by
        rw [lens_append, hlens, ← lens_append]
        exact h.total
      nxt := by
        rw [hlens]
        exact h.nxt }
  simp only [List.mem_append, List.mem_cons] at hy
  rcases hy with hy | rfl | rfl | hy
  · exact h.sent_xmit y (by simp [hy])
  · exact hx
  · exact hx
  · exact h.sent_xmit y (by simp [hy])

/-- The first segment that was not sent is cut in two. -/
lemma cut_unsent (h : Queued o isOpen sent (g :: post) fins) (hn : n ≤ g.len) :
    Queued (splitSegment o g n 0) isOpen sent (headPart g n :: tailPart g n 0 o.nextAddr :: post)
      fins := by
  have hslist := splitSegment_slist h.slist h.segments.nodup n 0
  have hlens := lens_cut sent post hn 0 o.nextAddr
  refine
    { h with
      slist := hslist
      unsentSlist := by simp [splitSegment, h.unsentSlist, insertAfterUnsent, headPart, tailPart]
      unsent_xmit := fun y hy => ?_
      segments := h.segments.cut hn 0
      total := by
        rw [hlens]
        exact h.total
      fins_last := fun hf => ?_ }
  · have hx := h.unsent_xmit g (by simp)
    simp only [List.mem_cons] at hy
    rcases hy with rfl | rfl | hy
    · exact hx
    · rfl
    · exact h.unsent_xmit y (by simp [hy])
  · have := h.fins_last hf
    simp only [lens_cons, headPart, tailPart] at this ⊢
    omega

/-- The bookkeeping for a segment that was on the wire before. -/
lemma sent_again (h : Queued o isOpen (pre ++ g :: post) unsent fins) :
    Queued { o with slist := updateSegment o.slist g.addr fun x => { x with xmit := x.xmit + 1 } }
      isOpen (pre ++ { g with xmit := g.xmit + 1 } :: post) unsent fins := by
  have hl : o.slist = pre ++ g :: (post ++ unsent) := by simpa using h.slist
  have hseg : Segments o.sndUna o.nextAddr isOpen (pre ++ g :: (post ++ unsent)) := by
    simpa using h.segments
  have hslist : updateSegment o.slist g.addr (fun x => { x with xmit := x.xmit + 1 }) =
      pre ++ { g with xmit := g.xmit + 1 } :: (post ++ unsent) := by
    rw [hl]
    exact updateSegment_append hseg.nodup
  have htouch := hseg.touch (g.xmit + 1)
  refine
    { h with
      slist := by simpa using hslist
      sent_xmit := fun y hy => ?_
      segments := by simpa using htouch
      total := by simpa using h.total
      nxt := by simpa using h.nxt }
  simp only [List.mem_append, List.mem_cons] at hy
  rcases hy with hy | rfl | hy
  · exact h.sent_xmit y (by simp [hy])
  · exact Nat.succ_ne_zero _
  · exact h.sent_xmit y (by simp [hy])

/-- The bookkeeping for the first segment that was not on the wire before. -/
lemma sent_first (h : Queued o isOpen sent (g :: post) fins) :
    Queued { o with
        slist := updateSegment o.slist g.addr fun x => { x with xmit := x.xmit + 1 }
        unsentSlist := addrs post
        sndNxt := o.sndNxt + UInt32.ofNat g.len +
          if g.len = 0 ∧ g.flags.has FLAG_FIN then 1 else 0 }
      isOpen (sent ++ [{ g with xmit := g.xmit + 1 }]) post
      (fins + if g.len = 0 ∧ g.flags.has FLAG_FIN then 1 else 0) := by
  have hslist : updateSegment o.slist g.addr (fun x => { x with xmit := x.xmit + 1 }) =
      sent ++ { g with xmit := g.xmit + 1 } :: post := by
    rw [h.slist]
    exact updateSegment_append h.segments.nodup
  have htouch := h.segments.touch (g.xmit + 1)
  refine
    { h with
      slist := by simpa using hslist
      unsentSlist := rfl
      sent_xmit := fun y hy => ?_
      unsent_xmit := fun y hy => h.unsent_xmit y (by simp [hy])
      segments := by simpa using htouch
      total := by simpa using h.total
      nxt := ?_
      fins_last := fun hf => ?_
      open_fins := fun hi => ?_ }
  · rcases List.mem_append.mp hy with hy | hy
    · exact h.sent_xmit y hy
    · rw [List.mem_singleton.mp hy]
      exact Nat.succ_ne_zero _
  · have hone : (if g.len = 0 ∧ g.flags.has FLAG_FIN = true then (1 : UInt32) else 0) =
        UInt32.ofNat (if g.len = 0 ∧ g.flags.has FLAG_FIN = true then 1 else 0) := by
      split <;> rfl
    simp only [hone, h.nxt, lens_append, lens_cons, lens_nil, add_ofNat_add]
    congr 2
    omega
  · by_cases hfin : g.len = 0 ∧ g.flags.has FLAG_FIN = true
    · have hlast := (List.pairwise_append.mp h.segments.fin_last).2.1
      exact lens_eq_zero.mpr fun y hy => (List.pairwise_cons.mp hlast).1 y hy hfin.2
    · rw [if_neg hfin, Nat.add_zero] at hf
      have := h.fins_last hf
      rw [lens_cons] at this
      omega
  · have hg := h.segments.no_fin hi g (by simp)
    rw [if_neg (by simp [hg]), Nat.add_zero]
    exact h.open_fins hi

lemma headPart_len (g : SSegment) : headPart g g.len = g := rfl

/-- **The bookkeeping of `transmit` keeps the queue.** -/
lemma markSent (h : Queued o isOpen sent unsent fins)
    (hg : o.slist.find? (·.addr = g.addr) = some g) (hn : n ≤ g.len)
    (ho : markSent o g n = .ok o') :
    ∃ sent' unsent' fins', Queued o' isOpen sent' unsent' fins' := by
  unfold PseudoTcpSocket.markSent at ho
  rw [min_eq_right hn] at ho
  dsimp only at ho
  by_cases hx : g.xmit = 0
  · rw [if_pos hx, hx] at ho
    have hhead {o₁ : Outgoing} {g₁ : SSegment} {post : List SSegment} (hlen : g₁.len = n)
        (haddr : g₁.addr = g.addr) (hflags : g₁.flags = g.flags)
        (h₁ : Queued o₁ isOpen sent (g₁ :: post) fins) :
        ∃ sent' unsent' fins', Queued { o₁ with
          slist := updateSegment o₁.slist g.addr fun g => { g with xmit := g.xmit + 1 }
          unsentSlist := addrs post
          sndNxt := o₁.sndNxt + UInt32.ofNat n +
            if n = 0 ∧ g.flags.has FLAG_FIN = true then 1 else 0 } isOpen sent' unsent' fins' := by
      rw [← haddr, ← hlen, ← hflags]
      exact ⟨_, _, _, h₁.sent_first⟩
    have hu : ∃ post, unsent = g :: post := by
      have hmem : g ∈ unsent := by
        refine (h.find_mem hg).resolve_left fun hm => ?_
        exact h.sent_xmit g hm hx
      obtain ⟨x, post, rfl⟩ : ∃ x post, unsent = x :: post := by
        cases unsent with
        | nil => simp at hmem
        | cons x post => exact ⟨x, post, rfl⟩
      refine h.head_unsent hg ?_
      have hlist : (if n < g.len then splitSegment o g n 0 else o).unsentSlist.head? =
          some x.addr := by
        split
        · simp only [splitSegment, h.unsentSlist, addrs_cons, insertAfterUnsent, if_pos]
          split <;> rfl
        · simp [h.unsentSlist]
      cases hc : (if n < g.len then splitSegment o g n 0 else o).unsentSlist with
      | nil => simp [hc] at hlist
      | cons y rest =>
          have hy : y = x.addr := by simpa [hc] using hlist
          rw [hc] at ho
          dsimp only at ho
          split at ho
          next hya => simp [h.unsentSlist, ← hy, hya]
          next => cases ho
    obtain ⟨post, rfl⟩ := hu
    by_cases hlt : n < g.len
    · simp only [if_pos hlt] at ho
      have h₁ := h.cut_unsent hn
      rw [h₁.unsentSlist, addrs_cons] at ho
      dsimp only at ho
      rw [if_pos (show (headPart g n).addr = g.addr from rfl)] at ho
      cases ho
      refine hhead ?_ ?_ ?_ h₁ <;> rfl
    · simp only [if_neg hlt] at ho
      have hlen : g.len = n := by omega
      rw [h.unsentSlist, addrs_cons] at ho
      dsimp only at ho
      rw [if_pos rfl] at ho
      cases ho
      exact hhead hlen rfl rfl h
  · rw [if_neg hx] at ho
    obtain ⟨pre, post, rfl⟩ := h.unsent_of_xmit hg hx
    by_cases hlt : n < g.len
    · rw [if_pos hlt] at ho
      cases ho
      exact ⟨_, _, _, (h.cut_sent hn).sent_again⟩
    · rw [if_neg hlt] at ho
      cases ho
      exact ⟨_, _, _, h.sent_again⟩

/-! ### Queueing -/

/-- Bytes or a flag at the end of the queue. -/
lemma pushSegment (h : Queued o isOpen sent unsent fins) {flags : TcpFlags} (hopen : n ≠ 0 → isOpen)
    (hfin : flags.has FLAG_FIN = true → n = 0 ∧ ¬ isOpen) {sbuf : PseudoTcpFifo}
    (hlen : sbuf.dataLength = o.sbuf.dataLength + n) (hwf : sbuf.Wf)
    (hsize : sbuf.bufferLength = o.sbuf.bufferLength) :
    ∃ unsent', Queued { pushSegment o n flags with sbuf } isOpen sent unsent' fins := by
  have hun (y : SSegment) (hy : y.xmit = 0) {l : List SSegment} (hl : ∀ g ∈ l, g.xmit = 0) :
      ∀ g ∈ l ++ [y], g.xmit = 0 := by
    intro g hg
    rcases List.mem_append.mp hg with hg | hg
    · exact hl g hg
    · rw [List.mem_singleton.mp hg]
      exact hy
  have hfins (l : ℕ) (hl : 0 < fins → l = 0) (hf : 0 < fins) : l + n = 0 := by
    by_contra h0
    have := h.open_fins (hopen (by have := hl hf; omega))
    omega
  have hnew : ∃ unsent', Queued { pushSegment.newSegment o n flags with sbuf } isOpen sent unsent'
      fins := by
    have hseg := h.segments.push (g := {
        addr := o.nextAddr, seq := o.sndUna + UInt32.ofNat o.sbuf.getBuffered, len := n,
        xmit := 0, flags }) rfl ?_ hopen hfin
    · refine ⟨_,
        { h with
          slist := by
            simp only [pushSegment.newSegment, h.slist]
            exact List.append_assoc ..
          unsentSlist := by
            simp only [pushSegment.newSegment, h.unsentSlist, addrs_append]
            rfl
          unsent_xmit := hun _ rfl h.unsent_xmit
          segments := by
            rw [← List.append_assoc]
            exact hseg
          total := ?_
          wf := hwf
          size := by
            rw [hsize]
            exact h.size
          fins_last := fun hf => ?_ }⟩
      · simp only [← List.append_assoc, lens_append, lens_cons, lens_nil, hlen, ← h.total]
        rfl
      · simp only [lens_append, lens_cons, lens_nil]
        exact hfins _ h.fins_last hf
    · simp only [PseudoTcpFifo.getBuffered, h.total]
  unfold PseudoTcpSocket.pushSegment
  cases htail : o.slist.getLast? with
  | none => exact hnew
  | some tail =>
      dsimp only
      split
      next hjoin =>
        obtain ⟨rfl, hx⟩ := hjoin
        have hmem : tail ∉ sent := fun hm => h.sent_xmit tail hm hx
        obtain ⟨l, hl⟩ : ∃ l, unsent = l ++ [tail] := by
          rw [h.slist] at htail
          cases unsent using List.reverseRecOn with
          | nil =>
              rw [List.append_nil] at htail
              exact absurd (List.mem_of_getLast? htail) hmem
          | append_singleton l x =>
              rw [← List.append_assoc, List.getLast?_concat] at htail
              exact ⟨l, by rw [Option.some.inj htail]⟩
        subst hl
        have hslist := h.slist
        have hgrow := h.segments
        rw [← List.append_assoc] at hslist hgrow
        have hgrown := hgrow.grow hopen
        refine ⟨l ++ [{ tail with len := tail.len + n }],
          { h with
            slist := by simp [hslist]
            unsentSlist := by simpa using h.unsentSlist
            unsent_xmit := hun { tail with len := tail.len + n } hx fun g hg =>
              h.unsent_xmit g (by simp [hg])
            segments := by
              rw [← List.append_assoc]
              exact hgrown
            total := ?_
            wf := hwf
            size := by
              rw [hsize]
              exact h.size
            fins_last := fun hf => ?_ }⟩
        · have := h.total
          simp only [lens_append, lens_cons, lens_nil] at this ⊢
          omega
        · have := hfins _ h.fins_last hf
          simp only [lens_append, lens_cons, lens_nil] at this ⊢
          omega
      next => exact hnew

/-! ### Acknowledgements -/

/-- What the loop that frees acknowledged segments leaves, if they were all sent. -/
lemma freeAcked_cases {largest largest' : ℕ} {l : List SSegment} (hn : n ≤ lens sent)
    (h : freeAcked n (sent ++ unsent) largest = .ok (l, largest')) :
    (∃ pre post, sent = pre ++ post ∧ l = post ++ unsent ∧ n = lens pre) ∨
      ∃ pre g post k, sent = pre ++ g :: post ∧ k < g.len ∧ n = lens pre + k ∧
        l = { g with len := g.len - k, seq := g.seq + UInt32.ofNat k } :: (post ++ unsent) := by
  induction sent generalizing n largest with
  | nil =>
      obtain rfl : n = 0 := by simpa using hn
      rw [freeAcked] at h
      cases h
      exact .inl ⟨[], [], rfl, rfl, rfl⟩
  | cons g sent ih =>
      cases n with
      | zero =>
          rw [freeAcked] at h
          cases h
          exact .inl ⟨[], g :: sent, rfl, rfl, rfl⟩
      | succ n =>
          rw [List.cons_append, freeAcked] at h
          split at h
          next hlt =>
            cases h
            exact .inr ⟨[], g, sent, n + 1, rfl, hlt, by simp, rfl⟩
          next hge =>
            rw [lens_cons] at hn
            rcases ih (by omega) h with
              ⟨pre, post, rfl, hl, hk⟩ | ⟨pre, x, post, k, rfl, hk, hn', hl⟩
            · exact .inl ⟨g :: pre, post, rfl, hl, by rw [lens_cons]; omega⟩
            · exact .inr ⟨g :: pre, x, post, k, rfl, hk, by rw [lens_cons]; omega, hl⟩

/-- Acknowledged bytes leave the queue. -/
lemma free (h : Queued o isOpen sent unsent fins) (hn : n ≤ lens sent) {sbuf : PseudoTcpFifo}
    (hbuf : o.sbuf.consumeReadData n = .ok sbuf) {largest largest' : ℕ} {slist : List SSegment}
    (hfree : freeAcked n o.slist largest = .ok (slist, largest')) :
    ∃ sent', Queued { o with sndUna := o.sndUna + UInt32.ofNat n, sbuf, slist } isOpen sent' unsent
      fins := by
  have hwf := PseudoTcpFifo.consumeReadData_wf h.wf hbuf
  obtain ⟨hle, rfl⟩ := PseudoTcpFifo.consumeReadData_eq_ok.mp hbuf
  have htotal := h.total
  have hseg := h.segments
  have hnxt := h.nxt
  rw [h.slist] at hfree
  have hmove {l : ℕ} (hl : lens sent = n + l) :
      o.sndNxt = o.sndUna + UInt32.ofNat n + UInt32.ofNat (l + fins) := by
    rw [hnxt, add_ofNat_add, hl, add_assoc]
  rcases freeAcked_cases hn hfree with
    ⟨pre, post, rfl, rfl, rfl⟩ | ⟨pre, g, post, k, rfl, hk, rfl, rfl⟩
  · rw [List.append_assoc] at hseg htotal
    refine ⟨post,
      { h with
        slist := rfl
        sent_xmit := fun g hg => h.sent_xmit g (by simp [hg])
        segments := hseg.drop
        total := ?_
        wf := hwf
        nxt := hmove (lens_append _ _) }⟩
    rw [lens_append] at htotal
    dsimp only
    omega
  · rw [List.append_assoc, List.cons_append] at hseg htotal
    refine ⟨{ g with len := g.len - k, seq := g.seq + UInt32.ofNat k } :: post,
      { h with
        slist := rfl
        sent_xmit := fun x hx => ?_
        segments := ?_
        total := ?_
        wf := hwf
        nxt := hmove ?_ }⟩
    · rcases List.mem_cons.mp hx with rfl | hx
      · exact h.sent_xmit g (by simp)
      · exact h.sent_xmit x (by simp [hx])
    · have := hseg.drop.trim hk
      rw [add_ofNat_add] at this
      exact this
    · simp only [lens_append, lens_cons, List.cons_append] at htotal ⊢
      omega
    · simp only [lens_append, lens_cons]
      omega

/-- An acknowledged FIN leaves the queue, behind all bytes. -/
lemma freeFin (h : Queued o isOpen sent unsent (fins + 1)) (h0 : o.sbuf.dataLength = 0) :
    Queued { o with sndUna := o.sndUna + 1 } isOpen sent unsent fins := by
  have hopen : ¬ isOpen := fun hi => by
    have := h.open_fins hi
    omega
  have hempty : ∀ g ∈ sent ++ unsent, g.len = 0 := lens_eq_zero.mp (h.total.trans h0)
  have hone : (1 : UInt32) = UInt32.ofNat 1 := rfl
  refine
    { h with
      segments := h.segments.of_empty hopen hempty _
      nxt := ?_
      fins_last := fun _ => h.fins_last (Nat.succ_pos _)
      open_fins := fun hi => absurd hi hopen }
  rw [h.nxt, hone, add_ofNat_add]
  congr 2
  omega

end Queued

/-! ### Calls -/

variable {env : Env} {op : Op} {s s' t : PseudoTcpSocket} {isOpen : Prop}

/-- The lists and the send buffer of a socket represent a queue. -/
def QueuedIn (isOpen : Prop) (s : PseudoTcpSocket) : Prop :=
  ∃ sent unsent fins, Queued s.toOutgoing isOpen sent unsent fins

lemma QueuedIn.mono {isOpen' : Prop} (h : QueuedIn isOpen s) (ho : isOpen' → isOpen) :
    QueuedIn isOpen' s :=
  let ⟨sent, unsent, fins, hq⟩ := h
  ⟨sent, unsent, fins, hq.mono ho⟩

lemma QueuedIn.of_eq (h : QueuedIn isOpen s) (ho : s'.toOutgoing = s.toOutgoing) :
    QueuedIn isOpen s' := by
  unfold QueuedIn
  rw [ho]
  exact h

/-- A step of sending keeps the queue. -/
lemma SendStep.queued (hs : QueuedIn isOpen s) (h : SendStep env s s') : QueuedIn isOpen s' := by
  cases h with
  | delayAck => exact hs
  | restart => exact hs
  | lower n rest => exact hs.of_eq (lowerMss_core s n rest).2.1
  | ack _ h => exact hs.of_eq (congrArg (·.toOutgoing) (packet_ok h).1)
  | refused _ _ h _ => exact hs.of_eq (congrArg (·.toOutgoing) (packet_ok h).1)
  | @sent g n now s₁ o hg hn h ho =>
      have hq : s₁.toOutgoing = s.toOutgoing := congrArg (·.toOutgoing) (packet_ok h).1
      obtain ⟨sent, unsent, fins, hqueue⟩ := hs
      rw [hq] at ho
      exact hqueue.markSent hg hn ho
  | @split g n hu hg h0 hn =>
      obtain ⟨sent, unsent, fins, hqueue⟩ := hs
      obtain ⟨post, rfl⟩ := hqueue.head_unsent hg hu
      exact ⟨_, _, _, hqueue.cut_unsent hn.le⟩

lemma SendSteps.queued (hs : QueuedIn isOpen s) (h : SendSteps env s s') : QueuedIn isOpen s' :=
  h.invariant hs fun _ _ ht hstep => hstep.queued ht

lemma attemptSend_queued {sflags : SendFlags} {reading : UInt32} (hs : QueuedIn isOpen s)
    (h : s.attemptSend env sflags reading = .ok s') : QueuedIn isOpen s' :=
  ((attemptSend_steps env s sflags reading).of_ok h).queued hs

/-- What is queued stays in the queue. -/
lemma queue_queued {data : Bytes} {flags : TcpFlags} {n : ℕ} (hs : QueuedIn isOpen s)
    (hopen : data ≠ [] → isOpen) (hfin : flags.has FLAG_FIN = true → data = [] ∧ ¬ isOpen)
    (h : s.queue data flags = .ok (s', n)) : QueuedIn isOpen s' := by
  obtain ⟨sent, unsent, fins, hq⟩ := hs
  have hqueue : data.length ≤ s.sbuf.getWriteRemaining ∨ flags = FLAG_NONE := by
    unfold queue at h
    by_contra hno
    rw [not_or, not_le] at hno
    rw [if_pos ⟨hno.1, hno.2⟩] at h
    cases h
  rw [queue_eq hqueue] at h
  cases h
  have hbuf : (pushSegment s.toOutgoing (data.take s.sbuf.getWriteRemaining).length flags).sbuf =
      s.sbuf := by
    unfold pushSegment pushSegment.newSegment
    split
    · split <;> rfl
    · rfl
  set fits := data.take s.sbuf.getWriteRemaining with hfits
  have hopen' : fits.length ≠ 0 → isOpen := by
    intro h0
    refine hopen fun hnil => h0 ?_
    rw [hfits, hnil, List.take_nil, List.length_nil]
  have hfin' : flags.has FLAG_FIN = true → fits.length = 0 ∧ ¬ isOpen := by
    intro hf
    rw [hfits, (hfin hf).1, List.take_nil]
    exact ⟨rfl, (hfin hf).2⟩
  have hlen : (s.sbuf.write fits).1.dataLength = s.sbuf.dataLength + fits.length := by
    have hwrite := congrArg List.length (PseudoTcpFifo.write_contents hq.wf fits).1
    have hfit : fits.length ≤ s.sbuf.bufferLength - s.sbuf.dataLength := by
      rw [hfits, List.length_take]
      exact min_le_left _ _
    simpa [hfit] using hwrite
  obtain ⟨unsent', hq'⟩ := hq.pushSegment hopen' hfin' hlen (PseudoTcpFifo.write_wf hq.wf _)
    (PseudoTcpFifo.write_bufferLength _ _)
  refine ⟨sent, unsent', fins, ?_⟩
  rw [hbuf]
  exact hq'

lemma queueConnectMessage_queued (hs : QueuedIn isOpen s) (hopen : isOpen)
    (h : s.queueConnectMessage = .ok s') : QueuedIn isOpen s' := by
  unfold queueConnectMessage at h
  dsimp only at h
  cases hq : queue { s with sndWnd := UInt32.ofNat s.connectMessage.length } s.connectMessage
      FLAG_CTL with
  | error e =>
      rw [hq] at h
      cases h
  | ok r =>
      rw [hq] at h
      cases h
      exact queue_queued (s := { s with sndWnd := UInt32.ofNat s.connectMessage.length })
        (hs.of_eq rfl) (fun _ => hopen) (fun hf => absurd hf (by decide)) hq

lemma queueFinMessage_queued (hs : QueuedIn isOpen s) (hopen : ¬ isOpen)
    (h : s.queueFinMessage = .ok s') : QueuedIn isOpen s' :=
  let ⟨_, _, hq⟩ := queueFinMessage_eq h
  queue_queued hs (by simp) (fun _ => ⟨rfl, hopen⟩) hq

lemma queueRstMessage_queued (hs : QueuedIn isOpen s) (h : s.queueRstMessage = .ok s') :
    QueuedIn isOpen s' :=
  let ⟨_, _, hq⟩ := queueRstMessage_eq h
  queue_queued hs (by simp) (fun hf => absurd hf (by decide)) hq

/-- **A valuable acknowledgement keeps the queue**: it acknowledges bytes that were sent, and
at most one FIN behind them. -/
lemma acked_queued {seg : Segment} {sbuf : PseudoTcpFifo} {slist : List SSegment}
    {largest largest' : ℕ} (hs : QueuedIn (s.state.hasSentFin = false) s)
    (hlarger : larger seg.ack s.sndUna = true) (hsmaller : smallerOrEqual seg.ack s.sndNxt = true)
    (hbuf : s.sbuf.consumeReadData (s.ackedBytes seg) = .ok sbuf)
    (hfree : freeAcked (s.ackedBytes seg) s.slist largest = .ok (slist, largest')) :
    QueuedIn (s.state.hasSentFin = false) { s with sndUna := seg.ack, sbuf, slist } := by
  obtain ⟨sent, unsent, fins, hq⟩ := hs
  have htotal := hq.total
  have hdata := hq.wf.data
  have hsize := hq.size
  have hack := ofNat_toNat_sub seg.ack s.sndUna
  have hle := (PseudoTcpFifo.consumeReadData_eq_ok.mp hbuf).1
  rw [lens_append] at htotal
  -- the two distances add up to what is in flight
  have hsum : (seg.ack - s.sndUna).toNat + (s.sndNxt - seg.ack).toNat =
      (lens sent + fins) % 4294967296 := by
    have h1 := larger_iff.mp hlarger
    have h2 := smallerOrEqual_iff.mp hsmaller
    have h3 := toNat_sub_of_ahead h1.le
    have h4 := toNat_sub_of_ahead_neg h2.1 (by omega)
    have h5 := ahead_lt seg.ack s.sndUna
    have h6 : (s.sndNxt - s.sndUna).toNat = (lens sent + fins) % 4294967296 := by
      rw [hq.nxt, UInt32.add_comm, UInt32.add_sub_cancel, toNat_ofNat]
    have h7 := s.sndNxt.toNat_lt
    have h8 := s.sndUna.toNat_lt
    have h9 := seg.ack.toNat_lt
    simp only [toNat_sub] at h3 h4 h6 ⊢
    omega
  have hn : s.ackedBytes seg ≤ lens sent := by
    by_cases hf : fins = 0
    · have : s.ackedBytes seg ≤ (seg.ack - s.sndUna).toNat := by
        unfold ackedBytes
        split <;> omega
      omega
    · have := hq.fins_last (Nat.pos_of_ne_zero hf)
      omega
  obtain ⟨sent', hfreed⟩ := hq.free hn hbuf hfree
  unfold ackedBytes at hn hfreed hbuf
  by_cases hfin : s.isFinAck seg
  · rw [if_pos hfin] at hn hfreed hbuf
    obtain ⟨hD, hsent⟩ := hfin
    cases fins with
    | zero => omega
    | succ fins =>
        have h0 : sbuf.dataLength = 0 := by
          obtain ⟨-, rfl⟩ := PseudoTcpFifo.consumeReadData_eq_ok.mp hbuf
          dsimp only
          omega
        have hfreed' := hfreed.freeFin h0
        have hone : (1 : UInt32) = UInt32.ofNat 1 := rfl
        dsimp only at hfreed'
        rw [hone, add_ofNat_add, Nat.sub_add_cancel (by omega), hack] at hfreed'
        exact ⟨_, _, _, hfreed'⟩
  · rw [if_neg hfin, hack] at hfreed
    exact ⟨_, _, _, hfreed⟩

lemma max_one_pos (size : UInt32) : 0 < max 1 size := by
  change 0 < if 1 ≤ size then size else 1
  split
  next h => exact UInt32.lt_of_lt_of_le (by decide) h
  next => decide

/-- A new size of the send buffer keeps the queue. -/
lemma resizeSendBuffer_queued {size : UInt32} (hs : QueuedIn isOpen s) (h0 : 0 < size) :
    QueuedIn isOpen (s.resizeSendBuffer env size) := by
  obtain ⟨sent, unsent, fins, hq⟩ := hs
  have hpos : 0 < size.toNat := UInt32.lt_iff_toNat_lt.mp h0
  rcases Nat.lt_or_ge size.toNat s.sbuf.dataLength with hlt | hge
  · refine ⟨sent, unsent, fins, ?_⟩
    simp only [resizeSendBuffer, PseudoTcpFifo.setCapacity_of_gt hlt]
    exact { hq with }
  · obtain ⟨b, hb, hwf, hlen, -, hsize⟩ :=
      PseudoTcpFifo.setCapacity_of_le env.memory hq.wf hge hpos
    refine ⟨sent, unsent, fins, ?_⟩
    simp only [resizeSendBuffer, hb]
    refine
      { hq with
        total := hq.total.trans hlen.symm
        wf := hwf
        size := ?_ }
    rw [hsize]
    split
    · exact hq.size
    · exact size.toNat_lt

/-- The queue of a socket that is open for sending as long as it has not sent a FIN. -/
def QueueInv (s : PseudoTcpSocket) : Prop := QueuedIn (s.state.hasSentFin = false) s

/-- A change of state that does not open the socket again. -/
lemma QueuedIn.enter (hs : QueuedIn isOpen s) (ho : s'.toOutgoing = s.toOutgoing)
    (hst : s'.state.hasSentFin = false → isOpen) : QueueInv s' :=
  (hs.of_eq ho).mono hst

/-- A FIN or its acknowledgement does not change whether the socket has sent a FIN. -/
lemma finTransition_hasSentFin {state new : PseudoTcpState} {fin isFinAck : Bool}
    (h : finTransition state fin isFinAck = some new) : new.hasSentFin = state.hasSentFin := by
  cases state <;> cases fin <;> cases isFinAck <;> simp [finTransition] at h <;> subst h <;> rfl

/-- Every step of a call keeps the queue. -/
lemma CallStep.queued (hs : QueueInv s) (h : CallStep env op s s') : QueueInv s' := by
  cases h with
  | note h =>
      have ho : s'.toOutgoing = s.toOutgoing := congrArg (·.toOutgoing) h
      have hst : s'.state = s.state := congrArg (·.state) h
      exact hs.enter ho (by rw [hst]; exact id)
  | attempt _ h =>
      have hst : s'.state = s.state := (attemptSend_core h).2
      exact (attemptSend_queued hs h).mono (by rw [hst]; exact id)
  | retransmit h =>
      have hsteps := (transmitHead_steps _ _ _).of_ok h
      have hst : s'.state = s.state := hsteps.state_eq
      exact (hsteps.queued hs).mono (by rw [hst]; exact id)
  | packet hseq h =>
      have hst : s'.state = s.state := core_state (core_of_quiet (packet_ok h).1)
      exact ((SendStep.ack hseq h).queued hs).mono (by rw [hst]; exact id)
  | connect hop hl h =>
      have hopen : QueuedIn True s := hs.mono fun _ => by rw [hl]; rfl
      have hset : QueuedIn True { s with state := .synSent } := hopen.of_eq rfl
      exact (queueConnectMessage_queued hset trivial h).mono fun _ => trivial
  | @accept seg opts t _ hseg hctl hdata hl ho h =>
      have hopen : QueuedIn True s := hs.mono fun _ => by rw [hl]; rfl
      have hout := congrArg (·.toOutgoing) (parseOptions_beyond ho)
      have hset : QueuedIn True { t with state := .synReceived } := hopen.of_eq hout
      exact (queueConnectMessage_queued hset trivial h).mono fun _ => trivial
  | opened hseg hctl hdata hl ho =>
      have hopen : QueuedIn True s := hs.mono fun _ => by rw [hl]; rfl
      exact hopen.enter (congrArg (·.toOutgoing) (parseOptions_beyond ho)) fun _ => trivial
  | options hseg hctl hdata hl ho =>
      have hst := parseOptions_state ho
      exact hs.enter (congrArg (·.toOutgoing) (parseOptions_beyond ho)) (by rw [hst]; exact id)
  | confirmed hseg hctl hl =>
      have hopen : QueuedIn True s := hs.mono fun _ => by rw [hl]; rfl
      exact hopen.enter rfl fun _ => trivial
  | send hop hl h =>
      have hopen : QueuedIn True s := hs.mono fun _ => by rw [hl]; rfl
      exact (queue_queued hopen (fun _ => trivial) (fun hf => absurd hf (by decide)) h).mono
        fun _ => trivial
  | shutdown | shutdownReads | window | read | openWindow => exact hs.of_eq rfl
  | @finish t u new reading hst hq ht =>
      have hclosed : QueuedIn False s := hs.mono False.elim
      have hu := attemptSend_queued (queueFinMessage_queued hclosed id hq) ht
      refine hu.enter rfl ?_
      rcases hst with ⟨-, rfl⟩ | ⟨-, rfl⟩ <;> simp [PseudoTcpState.hasSentFin]
  | finAgain hop hl hq ht =>
      have hst := (attemptSend_core ht).2.trans (queueFinMessage_state hq)
      have hclosed : QueuedIn False s := hs.mono False.elim
      refine (attemptSend_queued (queueFinMessage_queued hclosed id hq) ht).mono ?_
      rw [hst, hl]
      simp [PseudoTcpState.hasSentFin]
  | @closedown source t h =>
      have hclosed : QueuedIn False s := hs.mono False.elim
      have ht : QueuedIn False t := by
        cases h with
        | byPeer => exact hclosed
        | withoutRst => exact hclosed.of_eq rfl
        | withRst _ hq hs => exact attemptSend_queued (queueRstMessage_queued hclosed hq) hs
      exact ht.enter rfl (by simp [PseudoTcpState.hasSentFin])
  | closed hl => exact hs.enter rfl (by simp [PseudoTcpState.hasSentFin])
  | fin hseg hsup hdata h =>
      exact hs.enter rfl fun hnew => (finTransition_hasSentFin h).symm.trans hnew
  | acked hseg hlarger hsmaller hbuf hfree =>
      exact (acked_queued hs hlarger hsmaller hbuf hfree).of_eq rfl
  | setRcvBuf hop hl h =>
      have hbeyond := resizeReceiveBuffer_beyond h
      have hst : s'.state = s.state := congrArg (·.state) hbeyond
      exact hs.enter (congrArg (·.toOutgoing) hbeyond) (by rw [hst]; exact id)
  | @setSndBuf size hop hl =>
      exact resizeSendBuffer_queued hs (max_one_pos size)

/-- A call keeps the queue. -/
lemma Called.queued (hs : QueueInv s) (h : Called env op s s') : QueueInv s' := by
  refine h.invariant hs (fun t u ht hstep => hstep.queued ht) ?_
  rintro seg t u - ht ⟨r, sflags, b, v, -, hv, hu⟩
  have hv' := attemptSend_queued (s := { t with toIncoming := r }) (ht.of_eq rfl) hv
  have ho : u.toOutgoing = v.toOutgoing := congrArg (·.toOutgoing) hu
  have hst : u.state = t.state := (congrArg (·.state) hu).trans (attemptSend_core hv).2
  exact hv'.enter ho (by rw [hst]; exact id)

/-- A new socket has an empty queue. -/
lemma new_queued (conversation : UInt32) (supportFinAck : Bool) (rmemory smemory : ℕ → UInt8) :
    QueueInv (pseudoTcpSocketNew conversation supportFinAck rmemory smemory) := by
  refine ⟨[], [], 0,
    { slist := rfl
      unsentSlist := rfl
      sent_xmit := by simp
      unsent_xmit := by simp
      segments :=
        { addr_lt := by simp
          nodup := List.nodup_nil
          contiguous := .inl trivial
          no_fin := by simp
          fin_len := by simp
          fin_last := List.Pairwise.nil }
      total := rfl
      wf := PseudoTcpFifo.init_wf (by decide)
      size := show DEFAULT_SND_BUF_SIZE.toNat < 4294967296 by decide
      nxt := rfl
      fins_last := by simp
      open_fins := by simp }⟩

end PseudoTcpSocket

open PseudoTcpSocket

/-- **The send queue is represented by its two lists**: in every run of a new socket
`unsent_slist` has, in order, the nodes of `slist` that were not transmitted, these are at
its end, and the segments with data follow one another and cover the send buffer. -/
theorem send_queue_represented (conversation : UInt32) (supportFinAck : Bool)
    (rmemory smemory : ℕ → UInt8) (es : List Event) (s : PseudoTcpSocket)
    (h : Run Step (pseudoTcpSocketNew conversation supportFinAck rmemory smemory) es s) :
    s.unsentSlist = addrs (s.slist.filter (·.xmit = 0)) ∧ (addrs s.slist).Nodup ∧
      s.slist.filter (·.xmit = 0) <:+ s.slist ∧
      Covers s.sndUna (s.slist.filter (·.len ≠ 0)) s.sbuf.dataLength := by
  obtain ⟨sent, unsent, fins, hq⟩ := run_invariant (fun _ _ _ _ ht hc => hc.queued ht)
    (new_queued conversation supportFinAck rmemory smemory) h
  have hfilter := hq.filter_unsent
  refine ⟨?_, ?_, ?_, hq.covers⟩
  · rw [hfilter]
    exact hq.unsentSlist
  · rw [hq.slist]
    exact hq.segments.nodup
  · rw [hfilter, hq.slist]
    exact List.suffix_append _ _

/-- The CONNECT message of a new socket is in its queue. -/
theorem send_queue_represented_sample :
    let memory : ℕ → UInt8 := fun _ => 0
    ∃ es s, Run Step (pseudoTcpSocketNew 7 true memory memory) es s ∧ s.sbuf.dataLength = 7 ∧
      s.unsentSlist = addrs (s.slist.filter (·.xmit = 0)) ∧ (addrs s.slist).Nodup ∧
      s.slist.filter (·.xmit = 0) <:+ s.slist ∧
      Covers s.sndUna (s.slist.filter (·.len ≠ 0)) s.sbuf.dataLength := by
  intro memory
  have hrun : ((pseudoTcpSocketNew 7 true (fun _ => 0) (fun _ => 0)).callAll
      [(⟨fun _ => 1000, fun _ => 0, fun _ _ => .success⟩, .connect)]).map (·.sbuf.dataLength) =
        .ok 7 := by decide
  obtain ⟨es, s, hs, hlen⟩ := run_of_observed hrun
  exact ⟨es, s, hs, hlen, send_queue_represented 7 true memory memory es s hs⟩

end LibNice.PseudoTcp
