import LibNice.Foundation.Loop
import LibNice.PseudoTcp.Peer
import LibNice.PseudoTcp.Window

/-!
The options of a CONNECT segment.

* `optionsPass`, `parseOptionsAt`: `parse_options` with its position and its reads.
* `Lists`: the options that a payload lists, up to an end-of-list marker or a truncation.
* `parseOptionsAt_eq`: `parse_options` ends, reads only inside the payload, and does what
  `parseOptions` does.
* `optionsLoop_eq`: what it does with the options that the payload lists.
* `OptionsHold`, `OptionsFit`: what is expected of a CONNECT segment, and the segments of which
  it holds.
* `connect_options`: **what a CONNECT segment says is kept, and the window is exact**, in every
  run whose CONNECT segments fit.
-/

namespace LibNice.PseudoTcp

open LibNice.Foundation

namespace PseudoTcpSocket

variable {env : Env} {op : Op} {s s' t u : PseudoTcpSocket}

/-! ### The loop with its position -/

/-- One pass through the loop of `parse_options` over the `len` bytes of `data`: the loop goes on
at a position or is left.  A read outside the payload has no result. -/
def optionsPass (data : Bytes) (len : UInt32) :
    UInt32 × PseudoTcpSocket × Options →
      Option ((UInt32 × PseudoTcpSocket × Options) ⊕ (PseudoTcpSocket × Options))
  | (pos, s, o) =>
      let truncated : PseudoTcpSocket × Options := (s, { o with complete := false })
      if pos < len then
        if len < pos + 1 then some (.inr truncated)
        else do
          let kind ← data[pos.toNat]?
          let pos := pos + 1
          if kind = TCP_OPT_EOL then some (.inr (s, o))
          else if kind = TCP_OPT_NOOP then some (.inl (pos, s, o))
          else if len < pos + 1 then some (.inr truncated)
          else
            let optLen ← data[pos.toNat]?
            let pos := pos + 1
            if len < pos + optLen.toUInt32 then some (.inr truncated)
            else if optLen.toUInt32 ≤ len - pos then
              let content ← (readSlice data pos.toNat optLen.toNat).toOption
              some (.inl (pos + optLen.toUInt32, s.applyOption kind content, { o with
                hasWindowScalingOption := o.hasWindowScalingOption || kind = TCP_OPT_WND_SCALE
                hasFinAckOption := o.hasFinAckOption || kind = TCP_OPT_FIN_ACK }))
            else some (.inr truncated)
      else some (.inr (s, o))

/-- `parse_options` with at most `fuel` passes through its loop. -/
def parseOptionsAt (env : Env) (fuel : ℕ) (s : PseudoTcpSocket) (data : Bytes) :
    Option (Except Abort PseudoTcpSocket) :=
  (loop (optionsPass data (UInt32.ofNat data.length)) fuel (0, s, {})).map fun (s, o) =>
    if o.complete then s.applyMissingOptions env o else .ok s

section position

variable {data rest : Bytes} {len pos : UInt32} {x : UInt8}

/-- The byte at a position, and what is behind it. -/
lemma drop_eq_cons {n : ℕ} (h : data.drop n = x :: rest) :
    data[n]? = some x ∧ data.drop (n + 1) = rest ∧ n + 1 + rest.length = data.length := by
  have hlen := congrArg List.length h
  rw [List.length_drop, List.length_cons] at hlen
  refine ⟨?_, ?_, by omega⟩
  · have hget : (data.drop n)[0]? = some x := by rw [h]; rfl
    rw [List.getElem?_drop] at hget
    exact hget
  · have htail : (data.drop n).drop 1 = rest := by rw [h]; rfl
    rw [List.drop_drop] at htail
    exact htail

/-- The loop at a position does what `optionsLoop` does with the rest of the payload. -/
lemma loop_optionsPass (hlen : len.toNat = data.length) (hsmall : data.length < 4294967295)
    (fuel fuel' : ℕ) (s : PseudoTcpSocket) (o : Options) (hpos : pos.toNat ≤ data.length)
    (hfuel : data.length - pos.toNat < fuel) (hfuel' : data.length - pos.toNat ≤ fuel') :
    loop (optionsPass data len) fuel (pos, s, o) =
      some (optionsLoop fuel' (data.drop pos.toNat) s o) := by
  induction fuel generalizing pos s o fuel' with
  | zero => omega
  | succ fuel ih =>
      have hone : (1 : UInt32).toNat = 1 := rfl
      cases hrest : data.drop pos.toNat with
      | nil =>
          have hend : ¬ pos < len := by
            rw [List.drop_eq_nil_iff] at hrest
            rw [UInt32.lt_iff_toNat_lt]
            omega
          have hpass : optionsPass data len (pos, s, o) = some (.inr (s, o)) := by
            simp only [optionsPass, if_neg hend]
          rw [loop_leaves hpass]
          cases fuel' <;> rfl
      | cons kind rest =>
          obtain ⟨hkind, hdrop, hlength⟩ := drop_eq_cons hrest
          obtain ⟨fuel', rfl⟩ : ∃ f, fuel' = f + 1 := ⟨fuel' - 1, by omega⟩
          have hpos1 : (pos + 1).toNat = pos.toNat + 1 := by
            rw [toNat_add, hone]
            omega
          have hlt : pos < len := by
            rw [UInt32.lt_iff_toNat_lt]
            omega
          have hnot : ¬ len < pos + 1 := by
            rw [UInt32.lt_iff_toNat_lt]
            omega
          by_cases heol : kind = TCP_OPT_EOL
          · have hpass : optionsPass data len (pos, s, o) = some (.inr (s, o)) := by
              simp [optionsPass, hlt, hnot, hkind, heol]
            rw [loop_leaves hpass, optionsLoop.eq_def]
            dsimp only
            rw [if_pos heol]
          by_cases hnoop : kind = TCP_OPT_NOOP
          · have hpass : optionsPass data len (pos, s, o) = some (.inl (pos + 1, s, o)) := by
              simp only [optionsPass, if_pos hlt, if_neg hnot, hkind, bind, Option.bind,
                if_neg heol, if_pos hnoop]
            rw [loop_goes hpass, ih fuel' s o (by omega) (by omega) (by omega), hpos1, hdrop,
              optionsLoop.eq_def (fuel' + 1)]
            dsimp only
            rw [if_neg heol, if_pos hnoop]
          cases hrest1 : rest with
          | nil =>
              rw [hrest1, List.length_nil] at hlength
              have hshort : len < pos + 1 + 1 := by
                rw [UInt32.lt_iff_toNat_lt, toNat_add, hpos1, hone]
                omega
              have hpass : optionsPass data len (pos, s, o) =
                  some (.inr (s, { o with complete := false })) := by
                simp only [optionsPass, if_pos hlt, if_neg hnot, hkind, bind, Option.bind,
                  if_neg heol, if_neg hnoop, if_pos hshort]
              rw [loop_leaves hpass, optionsLoop, if_neg heol, if_neg hnoop]
          | cons optLen content =>
              obtain ⟨hoptLen, hdrop2, hlength2⟩ := drop_eq_cons (hdrop.trans hrest1)
              have hpos2 : (pos + 1 + 1).toNat = pos.toNat + 1 + 1 := by
                rw [toNat_add, hpos1, hone]
                omega
              have hroom : ¬ len < pos + 1 + 1 := by
                rw [UInt32.lt_iff_toNat_lt]
                omega
              have hoptNat : optLen.toUInt32.toNat = optLen.toNat := UInt8.toNat_toUInt32 optLen
              have hleft : (len - (pos + 1 + 1)).toNat = content.length := by
                rw [toNat_sub, hpos2]
                omega
              rw [optionsLoop, if_neg heol, if_neg hnoop]
              dsimp only
              by_cases hshort : content.length < optLen.toNat
              · -- the first test may wrap, and then the second one fails
                have hle : ¬ optLen.toUInt32 ≤ len - (pos + 1 + 1) := by
                  rw [UInt32.le_iff_toNat_le]
                  omega
                have hpass : optionsPass data len (pos, s, o) =
                    some (.inr (s, { o with complete := false })) := by
                  simp only [optionsPass, if_pos hlt, if_neg hnot, hkind, bind, Option.bind,
                    if_neg heol, if_neg hnoop, if_neg hroom, hpos1, hoptLen, if_neg hle, ite_self]
                rw [loop_leaves hpass, if_pos hshort]
              · have hfits : ¬ len < pos + 1 + 1 + optLen.toUInt32 := by
                  rw [UInt32.lt_iff_toNat_lt, toNat_add]
                  omega
                have hle : optLen.toUInt32 ≤ len - (pos + 1 + 1) := by
                  rw [UInt32.le_iff_toNat_le]
                  omega
                have hread : readSlice data (pos.toNat + 1 + 1) optLen.toNat =
                    .ok (content.take optLen.toNat) := by
                  rw [readSlice, if_pos (.inr (by omega)), hdrop2]
                have hpos3 : (pos + 1 + 1 + optLen.toUInt32).toNat =
                    pos.toNat + 1 + 1 + optLen.toNat := by
                  rw [toNat_add]
                  omega
                have hdrop3 : data.drop (pos.toNat + 1 + 1 + optLen.toNat) =
                    content.drop optLen.toNat := by
                  rw [← hdrop2, List.drop_drop]
                obtain ⟨o', ho'⟩ : ∃ o' : Options, o' = { o with
                    hasWindowScalingOption := o.hasWindowScalingOption || kind = TCP_OPT_WND_SCALE
                    hasFinAckOption := o.hasFinAckOption || kind = TCP_OPT_FIN_ACK } := ⟨_, rfl⟩
                have hpass : optionsPass data len (pos, s, o) =
                    some (.inl (pos + 1 + 1 + optLen.toUInt32,
                      s.applyOption kind (content.take optLen.toNat), o')) := by
                  simp only [optionsPass, if_pos hlt, if_neg hnot, hkind, bind, Option.bind,
                    if_neg heol, if_neg hnoop, if_neg hroom, hpos1, hoptLen, if_neg hfits,
                    if_pos hle, hpos2, hread, Except.toOption, ho']
                rw [loop_goes hpass, ih fuel' _ o' (by omega) (by omega) (by omega), hpos3,
                  hdrop3, if_neg hshort, ho']

end position

/-- **`parse_options` ends, reads only inside the payload**, and does what `parseOptions` does. -/
theorem parseOptionsAt_eq (env : Env) (s : PseudoTcpSocket) {data : Bytes} {fuel : ℕ}
    (hsmall : data.length < 4294967295) (hfuel : data.length < fuel) :
    parseOptionsAt env fuel s data = some (s.parseOptions env data) := by
  have hlen : (UInt32.ofNat data.length).toNat = data.length := toNat_ofNat_of_lt (by omega)
  have hzero : (0 : UInt32).toNat = 0 := rfl
  rw [parseOptionsAt, loop_optionsPass hlen hsmall fuel data.length s {} (by omega) (by omega)
    (by omega), hzero, List.drop_zero]
  rfl

/-! ### The options of a payload -/

/-- The options that a payload lists before an end-of-list marker or a truncation, and whether
there is no truncation. -/
inductive Lists : Bytes → List (UInt8 × Bytes) → Bool → Prop
  | nil : Lists [] [] true
  | endOfList (data : Bytes) : Lists (TCP_OPT_EOL :: data) [] true
  | noop {data : Bytes} {opts : List (UInt8 × Bytes)} {complete : Bool}
      (h : Lists data opts complete) : Lists (TCP_OPT_NOOP :: data) opts complete
  | option {kind optLen : UInt8} {content data : Bytes} {opts : List (UInt8 × Bytes)}
      {complete : Bool} (hkind : kind ≠ TCP_OPT_EOL ∧ kind ≠ TCP_OPT_NOOP)
      (hlen : content.length = optLen.toNat) (h : Lists data opts complete) :
      Lists (kind :: optLen :: (content ++ data)) ((kind, content) :: opts) complete
  | noLength {kind : UInt8} (hkind : kind ≠ TCP_OPT_EOL ∧ kind ≠ TCP_OPT_NOOP) :
      Lists [kind] [] false
  | short {kind optLen : UInt8} {data : Bytes} (hkind : kind ≠ TCP_OPT_EOL ∧ kind ≠ TCP_OPT_NOOP)
      (hlen : data.length < optLen.toNat) : Lists (kind :: optLen :: data) [] false

/-- Every payload lists something. -/
lemma exists_lists (data : Bytes) : ∃ opts complete, Lists data opts complete := by
  induction hn : data.length using Nat.strong_induction_on generalizing data with
  | _ n ih =>
    cases data with
    | nil => exact ⟨_, _, .nil⟩
    | cons kind rest =>
        rw [List.length_cons] at hn
        by_cases heol : kind = TCP_OPT_EOL
        · subst heol
          exact ⟨_, _, .endOfList rest⟩
        by_cases hnoop : kind = TCP_OPT_NOOP
        · subst hnoop
          obtain ⟨opts, complete, h⟩ := ih rest.length (by omega) rest rfl
          exact ⟨opts, complete, h.noop⟩
        cases rest with
        | nil => exact ⟨_, _, .noLength ⟨heol, hnoop⟩⟩
        | cons optLen rest =>
            rcases Nat.lt_or_ge rest.length optLen.toNat with hlt | hge
            · exact ⟨_, _, .short ⟨heol, hnoop⟩ hlt⟩
            · obtain ⟨opts, complete, h⟩ := ih (rest.drop optLen.toNat).length
                (by rw [List.length_drop]; rw [List.length_cons] at hn; omega) _ rfl
              have hlen : (rest.take optLen.toNat).length = optLen.toNat := by
                rw [List.length_take]
                omega
              have hlists := Lists.option ⟨heol, hnoop⟩ hlen h
              rw [List.take_append_drop] at hlists
              exact ⟨_, _, hlists⟩

/-- The scale that an option announces. -/
def scaleOf : UInt8 × Bytes → Option UInt8
  | (kind, [scaleFactor]) => if kind = TCP_OPT_WND_SCALE then some scaleFactor else none
  | _ => none

/-- The scale that the last of some options announces. -/
def lastScale : List (UInt8 × Bytes) → Option UInt8
  | [] => none
  | opt :: opts => (lastScale opts).or (scaleOf opt)

/-- There is an option of a kind. -/
def hasOption (kind : UInt8) (opts : List (UInt8 × Bytes)) : Bool := opts.any (·.1 = kind)

/-- The socket after some options. -/
def withOptions (s : PseudoTcpSocket) (opts : List (UInt8 × Bytes)) : PseudoTcpSocket :=
  { s with
    swndScale := (lastScale opts).getD s.swndScale
    supportFinAck := s.supportFinAck || hasOption TCP_OPT_FIN_ACK opts }

lemma applyOption_eq (s : PseudoTcpSocket) (kind : UInt8) (content : Bytes) :
    s.applyOption kind content = s.withOptions [(kind, content)] := by
  have hne : TCP_OPT_WND_SCALE ≠ TCP_OPT_FIN_ACK := by decide
  unfold applyOption
  by_cases hscale : kind = TCP_OPT_WND_SCALE
  · subst hscale
    rw [if_pos rfl]
    split
    · simp [withOptions, lastScale, scaleOf, hasOption, hne]
    · rename_i hno
      have hnone : scaleOf (TCP_OPT_WND_SCALE, content) = none := by
        match content with
        | [] => rfl
        | [x] => exact absurd rfl (hno x)
        | _ :: _ :: _ => rfl
      simp [withOptions, lastScale, hnone, hasOption, hne]
  · rw [if_neg hscale]
    have hnone : scaleOf (kind, content) = none := by
      match content with
      | [] => rfl
      | [x] => exact if_neg hscale
      | _ :: _ :: _ => rfl
    split
    · rename_i hfin
      subst hfin
      simp [withOptions, lastScale, hnone, hasOption]
    · rename_i hfin
      simp [withOptions, lastScale, hnone, hasOption, hfin]

/-- Options one after the other. -/
lemma withOptions_cons (s : PseudoTcpSocket) (opt : UInt8 × Bytes) (opts : List (UInt8 × Bytes)) :
    (s.withOptions [opt]).withOptions opts = s.withOptions (opt :: opts) := by
  have hscale : (lastScale opts).getD ((lastScale [opt]).getD s.swndScale) =
      (lastScale (opt :: opts)).getD s.swndScale := by
    cases h : lastScale opts <;> simp [lastScale, h]
  simp only [withOptions, hscale, hasOption, List.any_cons, List.any_nil, Bool.or_false,
    Bool.or_assoc]

/-- What the loop finds in some options. -/
def Options.found (o : Options) (opts : List (UInt8 × Bytes)) (complete : Bool) : Options :=
  { hasWindowScalingOption := o.hasWindowScalingOption || hasOption TCP_OPT_WND_SCALE opts
    hasFinAckOption := o.hasFinAckOption || hasOption TCP_OPT_FIN_ACK opts
    complete := o.complete && complete }

/-- **The loop of `parse_options` applies the options that the payload lists.** -/
theorem optionsLoop_eq {data : Bytes} {opts : List (UInt8 × Bytes)} {complete : Bool}
    (h : Lists data opts complete) (fuel : ℕ) (s : PseudoTcpSocket) (o : Options)
    (hfuel : data.length ≤ fuel) :
    optionsLoop fuel data s o = (s.withOptions opts, o.found opts complete) := by
  have hnil (complete : Bool) (s : PseudoTcpSocket) (o : Options) :
      (s.withOptions [], o.found [] complete) =
        (s, { o with complete := o.complete && complete }) := by
    simp [withOptions, lastScale, hasOption, Options.found]
  induction h generalizing fuel s o with
  | nil =>
      rw [hnil, Bool.and_true]
      cases fuel <;> rfl
  | endOfList data =>
      obtain ⟨fuel, rfl⟩ : ∃ f, fuel = f + 1 := ⟨fuel - 1, by rw [List.length_cons] at hfuel; omega⟩
      rw [hnil, Bool.and_true, optionsLoop.eq_def]
      dsimp only
      rw [if_pos rfl]
  | noop h ih =>
      rw [List.length_cons] at hfuel
      obtain ⟨fuel, rfl⟩ : ∃ f, fuel = f + 1 := ⟨fuel - 1, by omega⟩
      rw [optionsLoop.eq_def]
      dsimp only
      rw [if_neg (by decide), if_pos rfl]
      exact ih fuel s o (by omega)
  | @option kind optLen content data opts complete hkind hlen h ih =>
      simp only [List.length_cons, List.length_append] at hfuel
      obtain ⟨fuel, rfl⟩ : ∃ f, fuel = f + 1 := ⟨fuel - 1, by omega⟩
      rw [optionsLoop, if_neg hkind.1, if_neg hkind.2]
      dsimp only
      rw [if_neg (by rw [List.length_append]; omega), ← hlen, List.take_left, List.drop_left,
        applyOption_eq, ih fuel _ _ (by omega), withOptions_cons]
      simp [Options.found, hasOption, Bool.or_assoc]
  | noLength hkind =>
      obtain ⟨fuel, rfl⟩ : ∃ f, fuel = f + 1 := ⟨fuel - 1, by rw [List.length_cons] at hfuel; omega⟩
      rw [hnil, Bool.and_false, optionsLoop, if_neg hkind.1, if_neg hkind.2]
  | short hkind hlen =>
      obtain ⟨fuel, rfl⟩ : ∃ f, fuel = f + 1 := ⟨fuel - 1, by rw [List.length_cons] at hfuel; omega⟩
      rw [hnil, Bool.and_false, optionsLoop, if_neg hkind.1, if_neg hkind.2]
      dsimp only
      rw [if_pos hlen]

/-! ### What is expected of a CONNECT segment -/

/-- A window of 16 bits, scaled, is the product, and the shift is one of a 32 bit word. -/
def ScaleExact (swndScale : UInt8) : Prop :=
  swndScale.toNat < 32 ∧ ∀ wnd : UInt16,
    (wnd.toUInt32 <<< swndScale.toUInt32).toNat = wnd.toNat * 2 ^ swndScale.toNat

/-- `parse_options` ends, reads only inside the payload, and the socket supports FIN-ACK exactly
when there is such an option among those listed; and it scales windows without loss. -/
def OptionsHold (env : Env) (s : PseudoTcpSocket) (data : Bytes) (opts : List (UInt8 × Bytes)) :
    Prop :=
  ∃ t, (∀ fuel > data.length, parseOptionsAt env fuel s data = some (.ok t)) ∧
    (t.supportFinAck = hasOption TCP_OPT_FIN_ACK opts) ∧ ScaleExact t.swndScale

/-- The segments of which that holds. -/
structure OptionsFit (s : PseudoTcpSocket) (opts : List (UInt8 × Bytes)) (complete : Bool) :
    Prop where
  /-- A list that is cut off has a FIN-ACK option before, unless the socket has no support. -/
  finAck : s.supportFinAck = true → complete = true ∨ hasOption TCP_OPT_FIN_ACK opts = true
  /-- The data in the receive buffer fits into one of the default size where it is resized. -/
  resize : complete = true → hasOption TCP_OPT_WND_SCALE opts = false → 0 < s.rwndScale →
    s.rbufLen = DEFAULT_RCV_BUF_SIZE ∨ s.rbuf.dataLength ≤ DEFAULT_RCV_BUF_SIZE.toNat
  /-- The scale is at most 16. -/
  scale : ∀ scale, lastScale opts = some scale → scale.toNat ≤ 16

/-- A window is scaled without loss exactly up to a scale of 16. -/
lemma scaleExact_iff (swndScale : UInt8) : ScaleExact swndScale ↔ swndScale.toNat ≤ 16 := by
  have hshift (wnd : UInt16) : (wnd.toUInt32 <<< swndScale.toUInt32).toNat =
      wnd.toNat * 2 ^ (swndScale.toNat % 32) % 2 ^ 32 := by
    rw [UInt32.toNat_shiftLeft, UInt8.toNat_toUInt32, UInt16.toNat_toUInt32, Nat.shiftLeft_eq]
  constructor
  · rintro ⟨hlt, hexact⟩
    by_contra hgt
    have hmax := hexact 65535
    rw [hshift, Nat.mod_eq_of_lt hlt] at hmax
    have hpow : 2 ^ 17 ≤ 2 ^ swndScale.toNat := Nat.pow_le_pow_right (by decide) (by omega)
    have hmod : 65535 * 2 ^ swndScale.toNat % 2 ^ 32 < 2 ^ 32 := Nat.mod_lt _ (by decide)
    rw [show (65535 : UInt16).toNat = 65535 from rfl] at hmax
    omega
  · intro hle
    refine ⟨by omega, fun wnd => ?_⟩
    have hwnd := wnd.toNat_lt
    have hpow : 2 ^ swndScale.toNat ≤ 2 ^ 16 := Nat.pow_le_pow_right (by decide) hle
    rw [hshift, Nat.mod_eq_of_lt (show swndScale.toNat < 32 by omega), Nat.mod_eq_of_lt]
    calc wnd.toNat * 2 ^ swndScale.toNat ≤ 65535 * 2 ^ 16 := Nat.mul_le_mul (by omega) hpow
      _ < 2 ^ 32 := by decide

/-- The receive buffer takes its default size when its data fits. -/
lemma resizeReceiveBuffer_default (env : Env) (s : PseudoTcpSocket) :
    (∃ t, s.resizeReceiveBuffer env DEFAULT_RCV_BUF_SIZE = .ok t) ↔
      s.rbufLen = DEFAULT_RCV_BUF_SIZE ∨ s.rbuf.dataLength ≤ DEFAULT_RCV_BUF_SIZE.toNat := by
  have hscale : scaleFactor 32 DEFAULT_RCV_BUF_SIZE = (0, DEFAULT_RCV_BUF_SIZE) := by decide
  have hsize : DEFAULT_RCV_BUF_SIZE <<< (0 : UInt8).toUInt32 = DEFAULT_RCV_BUF_SIZE := by decide
  unfold resizeReceiveBuffer
  by_cases heq : s.rbufLen = DEFAULT_RCV_BUF_SIZE
  · rw [if_pos heq]
    exact ⟨fun _ => .inl heq, fun _ => ⟨s, rfl⟩⟩
  · rw [if_neg heq]
    simp only [hscale, hsize, PseudoTcpFifo.setCapacity]
    by_cases hgt : s.rbuf.dataLength > DEFAULT_RCV_BUF_SIZE.toNat
    · rw [if_pos hgt]
      simp [heq, hgt]
    · rw [if_neg hgt]
      refine ⟨fun _ => .inr (by omega), fun _ => ?_⟩
      by_cases hne : DEFAULT_RCV_BUF_SIZE.toNat ≠ s.rbuf.dataLength
      · rw [if_pos hne]
        exact ⟨_, rfl⟩
      · rw [if_neg hne]
        exact ⟨_, rfl⟩

/-- What `parse_options` does with the options that a payload lists. -/
lemma parseOptions_eq (env : Env) (s : PseudoTcpSocket) {data : Bytes}
    {opts : List (UInt8 × Bytes)} {complete : Bool} (h : Lists data opts complete) :
    s.parseOptions env data =
      if complete then
        (s.withOptions opts).applyMissingOptions env (Options.found {} opts complete)
      else .ok (s.withOptions opts) := by
  unfold parseOptions
  rw [optionsLoop_eq h data.length s {} le_rfl]
  cases complete <;> rfl

lemma lastScale_eq_none {opts : List (UInt8 × Bytes)}
    (h : hasOption TCP_OPT_WND_SCALE opts = false) : lastScale opts = none := by
  induction opts with
  | nil => rfl
  | cons opt opts ih =>
      rw [hasOption, List.any_cons, Bool.or_eq_false_iff] at h
      obtain ⟨kind, content⟩ := opt
      have hkind : ¬ kind = TCP_OPT_WND_SCALE := by simpa using h.1
      have hnone : scaleOf (kind, content) = none := by
        match content with
        | [] => rfl
        | [x] => exact if_neg hkind
        | _ :: _ :: _ => rfl
      rw [lastScale, ih h.2, hnone]
      rfl

/-- The scale after some options is at most 16 when the one that they announce is. -/
lemma getD_scale_le {o : Option UInt8} {scale : UInt8} (hscale : scale.toNat ≤ 16) :
    (o.getD scale).toNat ≤ 16 ↔ ∀ x, o = some x → x.toNat ≤ 16 := by
  cases o with
  | none => simpa using hscale
  | some x => simp

/-- What is left to do behind the list: the socket after it, where it can be. -/
lemma applyMissingOptions_iff (env : Env) (s : PseudoTcpSocket) (o : Options)
    {P : Bool → UInt8 → Prop} :
    (∃ t, s.applyMissingOptions env o = .ok t ∧ P t.supportFinAck t.swndScale) ↔
      ((o.hasWindowScalingOption = false ∧ 0 < s.rwndScale →
          s.rbufLen = DEFAULT_RCV_BUF_SIZE ∨ s.rbuf.dataLength ≤ DEFAULT_RCV_BUF_SIZE.toNat) ∧
        P (if o.hasFinAckOption then s.supportFinAck else false)
          (if o.hasWindowScalingOption = false ∧ 0 < s.rwndScale then 0 else s.swndScale)) := by
  have hresize := resizeReceiveBuffer_default env s
  unfold applyMissingOptions withoutWindowScaling
  by_cases hrevert : o.hasWindowScalingOption = false ∧ 0 < s.rwndScale
  · simp only [hrevert, if_true, true_implies, and_self]
    rw [if_pos (by simp), ← hresize]
    cases hr : s.resizeReceiveBuffer env DEFAULT_RCV_BUF_SIZE with
    | error e => simp [bind, Except.bind]
    | ok t =>
        have hsup : t.supportFinAck = s.supportFinAck :=
          congrArg (·.supportFinAck) (resizeReceiveBuffer_peer hr)
        cases hfin : o.hasFinAckOption <;> simp [bind, Except.bind, pure, Except.pure, hsup]
  · rw [if_neg (by simpa using hrevert), if_neg hrevert]
    cases hfin : o.hasFinAckOption <;> simp [bind, Except.bind, pure, Except.pure, hrevert]

/-- **What is expected of a CONNECT segment holds exactly of those that fit**, where the scale
was at most 16 before. -/
theorem optionsHold_iff (env : Env) (s : PseudoTcpSocket) {data : Bytes}
    {opts : List (UInt8 × Bytes)} {complete : Bool} (hsmall : data.length < 4294967295)
    (hscale : s.swndScale.toNat ≤ 16) (h : Lists data opts complete) :
    OptionsHold env s data opts ↔ OptionsFit s opts complete := by
  have hat (t : PseudoTcpSocket) :
      (∀ fuel > data.length, parseOptionsAt env fuel s data = some (.ok t)) ↔
        s.parseOptions env data = .ok t := by
    constructor
    · intro hall
      have hone := hall (data.length + 1) (Nat.lt_succ_self _)
      rw [parseOptionsAt_eq env s hsmall (Nat.lt_succ_self _)] at hone
      exact Option.some.inj hone
    · intro heq fuel hfuel
      rw [parseOptionsAt_eq env s hsmall hfuel, heq]
  have hlast := getD_scale_le (o := lastScale opts) hscale
  simp only [OptionsHold, hat, parseOptions_eq env s h, scaleExact_iff]
  cases complete with
  | false =>
      simp only [Bool.false_eq_true, if_false, Except.ok.injEq, exists_eq_left']
      rw [withOptions, hlast]
      constructor
      · rintro ⟨hfin, hfits⟩
        exact ⟨fun hsup => .inr (by rw [← hfin, hsup, Bool.true_or]), fun h => absurd h (by decide),
          hfits⟩
      · rintro ⟨hfin, -, hfits⟩
        refine ⟨?_, hfits⟩
        cases hsup : s.supportFinAck with
        | false => exact Bool.false_or _
        | true => exact ((hfin hsup).resolve_left (by decide)).symm
  | true =>
      simp only [if_true]
      rw [applyMissingOptions_iff env (s.withOptions opts) _
        (P := fun support scale => support = hasOption TCP_OPT_FIN_ACK opts ∧ scale.toNat ≤ 16)]
      have hfin : (if (Options.found {} opts true).hasFinAckOption then
          (s.withOptions opts).supportFinAck else false) = hasOption TCP_OPT_FIN_ACK opts := by
        cases hfin : hasOption TCP_OPT_FIN_ACK opts <;> simp [Options.found, withOptions, hfin]
      have hwnd : (Options.found {} opts true).hasWindowScalingOption =
          hasOption TCP_OPT_WND_SCALE opts := by simp [Options.found]
      have hscale' : (if hasOption TCP_OPT_WND_SCALE opts = false ∧ 0 < s.rwndScale then 0
          else (s.withOptions opts).swndScale).toNat ≤ 16 ↔
            ∀ x, lastScale opts = some x → x.toNat ≤ 16 := by
        by_cases hrevert : hasOption TCP_OPT_WND_SCALE opts = false ∧ 0 < s.rwndScale
        · rw [if_pos hrevert, lastScale_eq_none hrevert.1]
          simp
        · rw [if_neg hrevert]
          exact hlast
      rw [hfin, hwnd]
      simp only [true_and]
      rw [show (s.withOptions opts).rwndScale = s.rwndScale from rfl, hscale']
      constructor
      · rintro ⟨hresize, hfits⟩
        exact ⟨fun _ => .inl rfl, fun _ hno hpos => hresize ⟨hno, hpos⟩, hfits⟩
      · rintro ⟨-, hresize, hfits⟩
        exact ⟨fun hrevert => hresize rfl hrevert.1 hrevert.2, hfits⟩

/-! ### Runs -/

/-- A call takes in a CONNECT segment with some options. -/
structure Connects (s : PseudoTcpSocket) (op : Op) (options : Bytes) : Prop where
  intro ::
  segment : ∃ buffer seg, op = .notifyPacket buffer ∧ buffer.length ≤ MAX_PACKET ∧
    parse buffer = some seg ∧ s.Takes seg ∧ seg.flags.has FLAG_CTL = true ∧
      seg.data = CTL_CONNECT :: options

/-- The CONNECT segments of a call fit. -/
def ConnectFits (s : PseudoTcpSocket) (e : Event) : Prop :=
  ∀ options opts complete, Connects s e.op options → Lists options opts complete →
    OptionsFit s opts complete

lemma Connects.small {options : Bytes} (h : Connects s op options) :
    options.length < 4294967295 := by
  obtain ⟨buffer, seg, -, hlen, hparse, -, -, hdata⟩ := h.segment
  have hsize := parse_length hparse
  rw [hdata, List.length_cons] at hsize
  simp only [HEADER_SIZE, MAX_PACKET] at hsize hlen
  omega

/-- What a CONNECT segment that fits leaves. -/
lemma parseOptions_fits {data : Bytes} (hsmall : data.length < 4294967295)
    (hscale : s.swndScale.toNat ≤ 16)
    (hfits : ∀ opts complete, Lists data opts complete → OptionsFit s opts complete)
    (h : s.parseOptions env data = .ok t) :
    t.swndScale.toNat ≤ 16 ∧ ∀ opts complete, Lists data opts complete →
      t.supportFinAck = hasOption TCP_OPT_FIN_ACK opts := by
  have hhold {opts : List (UInt8 × Bytes)} {complete : Bool} (hl : Lists data opts complete) :
      t.swndScale.toNat ≤ 16 ∧ t.supportFinAck = hasOption TCP_OPT_FIN_ACK opts := by
    obtain ⟨u, hu, hsup, hexact⟩ :=
      (optionsHold_iff env s hsmall hscale hl).mpr (hfits _ _ hl)
    have hat := hu (data.length + 1) (Nat.lt_succ_self _)
    rw [parseOptionsAt_eq env s hsmall (Nat.lt_succ_self _), h] at hat
    cases hat
    exact ⟨(scaleExact_iff _).mp hexact, hsup⟩
  obtain ⟨opts, complete, hl⟩ := exists_lists data
  exact ⟨(hhold hl).1, fun _ _ hl' => (hhold hl').2⟩

/-- An acknowledgement changes the window to that of its segment, if at all. -/
lemma Acknowledged.window_eq {seg : Segment} {p : Peer} (h : Acknowledged s seg p) :
    p.swndScale = s.swndScale ∧ p.supportFinAck = s.supportFinAck ∧
      (p.sndWnd = s.sndWnd ∨ p.sndWnd = s.windowOf seg) := by
  cases h with
  | ignored => exact ⟨rfl, rfl, .inl rfl⟩
  | valuable | window | idle | counted => exact ⟨rfl, rfl, .inr rfl⟩

/-- The window is as it was, or that of the CONNECT message that is being sent, or the one of the
segment that a call has taken in, without loss. -/
def WindowExact (s : PseudoTcpSocket) (op : Op) (s' : PseudoTcpSocket) : Prop :=
  s'.sndWnd = s.sndWnd ∨
    (∃ t : PseudoTcpSocket, s'.sndWnd = UInt32.ofNat t.connectMessage.length) ∨
    ∃ seg, op.segment = some seg ∧ s'.sndWnd.toNat = seg.wnd.toNat * 2 ^ s'.swndScale.toNat

lemma Connects.takesIn {options : Bytes} (h : Connects s op options) :
    ∃ seg, s.TakesIn op seg ∧ seg.flags.has FLAG_CTL = true ∧
      seg.data = CTL_CONNECT :: options := by
  obtain ⟨buffer, seg, hop, hlen, hparse, htakes, hctl, hdata⟩ := h.segment
  refine ⟨seg, ⟨⟨buffer, hop, hlen, hparse⟩, htakes, fun _ => ?_⟩, hctl, hdata⟩
  rw [hdata]
  rfl

/-- A call takes in one segment. -/
lemma TakesIn.unique {seg seg' : Segment} (h : s.TakesIn op seg) (h' : s.TakesIn op seg') :
    seg' = seg := by
  obtain ⟨buffer, rfl, -, hparse⟩ := h.packet
  obtain ⟨buffer', hop, -, hparse'⟩ := h'.packet
  cases hop
  exact Option.some.inj (hparse'.symm.trans hparse)

/-- What `receiveControl` leaves of a segment that fits. -/
lemma receiveControl_fits {e : Event} {seg : Segment} {now : UInt32} {b : Bool}
    (hscale : s.swndScale.toNat ≤ 16) (hfits : ConnectFits s e) (hin : s.TakesIn e.op seg)
    (h : (s.noteArrival now).receiveControl e.env seg = .ok (t, some b)) :
    t.swndScale.toNat ≤ 16 ∧
      (t.sndWnd = s.sndWnd ∨
        ∃ v : PseudoTcpSocket, t.sndWnd = UInt32.ofNat v.connectMessage.length) ∧
      ∀ options opts complete, Connects s e.op options → Lists options opts complete →
        t.supportFinAck = hasOption TCP_OPT_FIN_ACK opts := by
  rcases receiveControl_some h with ⟨hctl, rfl⟩ | ⟨options, v, hctl, hdata, hv, -, hpeer⟩
  · refine ⟨hscale, .inl rfl, fun options opts complete hconnect _ => ?_⟩
    obtain ⟨seg', hin', hctl', -⟩ := hconnect.takesIn
    rw [hin.unique hin', hctl] at hctl'
    cases hctl'
  · obtain ⟨buffer, hop, hlen, hparse⟩ := hin.packet
    have hconnect : Connects s e.op options :=
      ⟨buffer, seg, hop, hlen, hparse, hin.takes, hctl, hdata⟩
    obtain ⟨hle, hsup⟩ := parseOptions_fits (s := s.noteArrival now) hconnect.small hscale
      (fun opts complete hl => { hfits options opts complete hconnect hl with }) hv
    have hwnd : v.sndWnd = s.sndWnd := congrArg (·.sndWnd) (parseOptions_beyond hv)
    have hfields : t.swndScale = v.swndScale ∧ t.supportFinAck = v.supportFinAck ∧
        (t.sndWnd = s.sndWnd ∨
          ∃ w : PseudoTcpSocket, t.sndWnd = UInt32.ofNat w.connectMessage.length) := by
      rcases hpeer with hpeer | ⟨w, hpeer⟩
      · exact ⟨congrArg (·.swndScale) hpeer, congrArg (·.supportFinAck) hpeer,
          .inl ((congrArg (·.sndWnd) hpeer).trans hwnd)⟩
      · exact ⟨congrArg (·.swndScale) hpeer, congrArg (·.supportFinAck) hpeer,
          .inr ⟨w, congrArg (·.sndWnd) hpeer⟩⟩
    refine ⟨hfields.1 ▸ hle, hfields.2.2, fun options' opts complete hconnect' hl => ?_⟩
    obtain ⟨seg', hin', -, hdata'⟩ := hconnect'.takesIn
    rw [hin.unique hin', hdata] at hdata'
    cases hdata'
    exact hfields.2.1.trans (hsup opts complete hl)

/-- What a call leaves when its CONNECT segments fit. -/
lemma step_options {e : Event} (hscale : s.swndScale.toNat ≤ 16) (h : StepWhen ConnectFits s e s') :
    s'.swndScale.toNat ≤ 16 ∧ WindowExact s e.op s' ∧
      ∀ options opts complete, Connects s e.op options → Lists options opts complete →
        s'.supportFinAck = hasOption TCP_OPT_FIN_ACK opts := by
  obtain ⟨hcall, hfits⟩ := h
  obtain ⟨env, op, ret⟩ := e
  dsimp only [Step] at hcall hfits ⊢
  by_cases hop : ∃ buffer, op = .notifyPacket buffer
  · obtain ⟨buffer, rfl⟩ := hop
    rcases notifyPacket_peer hcall with ⟨hpeer, hno⟩ | ⟨seg, hin, now, t, b, u, hc, ha, hpeer⟩
    · have hwnd : s'.sndWnd = s.sndWnd := congrArg (·.sndWnd) hpeer
      have hsame : s'.swndScale = s.swndScale := congrArg (·.swndScale) hpeer
      refine ⟨hsame ▸ hscale, .inl hwnd, fun options opts complete hconnect _ => ?_⟩
      obtain ⟨seg, hin, -⟩ := hconnect.takesIn
      exact absurd hin (hno seg)
    · obtain ⟨hle, hwnd, hsup⟩ := receiveControl_fits hscale hfits hin hc
      obtain ⟨hscale', hsup', hwnd'⟩ := ((receiveAck_peer env _ seg now).of_ok ha).window_eq
      have ht := updateTimestamp_peer t seg
      rw [← hpeer] at hscale' hsup' hwnd'
      have h1 : s'.swndScale = t.swndScale := hscale'.trans (congrArg (·.swndScale) ht)
      have h2 : s'.supportFinAck = t.supportFinAck := hsup'.trans (congrArg (·.supportFinAck) ht)
      refine ⟨h1 ▸ hle, ?_, fun options opts complete hconnect hl =>
        h2.trans (hsup options opts complete hconnect hl)⟩
      rcases hwnd' with hwnd' | hwnd'
      · have h3 : s'.sndWnd = t.sndWnd := hwnd'.trans (congrArg (·.sndWnd) ht)
        rcases hwnd with hwnd | ⟨v, hwnd⟩
        · exact .inl (h3.trans hwnd)
        · exact .inr (.inl ⟨v, h3.trans hwnd⟩)
      · obtain ⟨buffer', hbuffer, -, hparse⟩ := hin.packet
        cases hbuffer
        refine .inr (.inr ⟨seg, hparse, ?_⟩)
        have hexact := ((scaleExact_iff _).mpr hle).2 seg.wnd
        have hts : (t.updateTimestamp seg).swndScale = t.swndScale := congrArg (·.swndScale) ht
        rw [show s'.sndWnd = (t.updateTimestamp seg).windowOf seg from hwnd', windowOf, hts, h1]
        exact hexact
  · have hno : ∀ buffer, op ≠ .notifyPacket buffer := fun buffer h => hop ⟨buffer, h⟩
    have hnone (options : Bytes) : ¬ Connects s op options := by
      rintro ⟨buffer, seg, hbuffer, -⟩
      exact hno buffer hbuffer
    rcases call_peer hno hcall with hpeer | ⟨-, t, hpeer⟩
    · have hsame : s'.swndScale = s.swndScale := congrArg (·.swndScale) hpeer
      exact ⟨hsame ▸ hscale, .inl (congrArg (·.sndWnd) hpeer),
        fun options _ _ hconnect _ => absurd hconnect (hnone options)⟩
    · have hsame : s'.swndScale = s.swndScale := congrArg (·.swndScale) hpeer
      exact ⟨hsame ▸ hscale, .inr (.inl ⟨t, congrArg (·.sndWnd) hpeer⟩),
        fun options _ _ hconnect _ => absurd hconnect (hnone options)⟩

end PseudoTcpSocket

open PseudoTcpSocket

/-- A CONNECT with some options, to a socket with the conversation 7. -/
def connectWith (options : Bytes) : Bytes :=
  be32 7 ++ be32 0 ++ be32 0 ++ [0, FLAG_CTL] ++ be16 1000 ++ be32 0 ++ be32 0 ++
    CTL_CONNECT :: options

/-- A socket that is opening takes it in. -/
lemma connects_with {s : PseudoTcpSocket} (hconv : s.conv = 7)
    (hstate : s.state = .listen ∨ s.state = .synSent) {options : Bytes}
    (hlen : options.length ≤ 1000) :
    Connects s (.notifyPacket (connectWith options)) options := by
  have hparse : parse (connectWith options) =
      some ⟨7, 0, 0, FLAG_CTL, 1000, CTL_CONNECT :: options, 0, 0⟩ := rfl
  refine ⟨_, _, rfl, ?_, hparse, ⟨hconv.symm, ?_, ?_, ?_⟩, ?_, rfl⟩
  · rw [parse_length hparse]
    simp only [HEADER_SIZE, MAX_PACKET, List.length_cons]
    omega
  · rcases hstate with h | h <;> rw [h] <;> decide
  · rcases hstate with h | h <;> rw [h] <;> exact fun h => absurd h (by decide)
  · exact show FLAG_CTL.has FLAG_RST = false by decide
  · exact show FLAG_CTL.has FLAG_CTL = true by decide

end LibNice.PseudoTcp
