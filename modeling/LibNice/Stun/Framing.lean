import LibNice.Stun.Message

/-!
The framing of messages: `stun_message_validate_buffer_length` accepts exactly
the blocks that `Framed` describes.

* `Framed`: the grammar, a header whose first two bits are zero and whose length
  field announces a tiling of the rest by attributes.
* `validateBufferLoop_spec`: the walk over the attributes decides `Tiled`.
* `validate_of_bits` to `validate_of_complete`: the five ways the function can
  go, each with the verdict it leads to.
* `validate_pos_iff`, `validate_prefix`, `validate_extend`: acceptance is the
  grammar, a proper prefix of a message is incomplete, and a verdict other than
  that one survives any extension.
-/

namespace LibNice.Stun

open LibNice.Foundation

/-! ### Alignment -/

lemma stunAlign_mod (l : ℕ) : stunAlign l % 4 = 0 := by
  rw [stunAlign]; omega

lemma le_stunAlign (l : ℕ) : l ≤ stunAlign l := by
  rw [stunAlign]; omega

lemma stunAlign_lt (l : ℕ) : stunAlign l < l + 4 := by
  rw [stunAlign]; omega

lemma stunAlign_eq (l : ℕ) : stunAlign l = l + stunPadding l := by
  rw [stunAlign, stunPadding]; omega

lemma stunPadding_eq_zero_iff (l : ℕ) : stunPadding l = 0 ↔ 4 ∣ l := by
  rw [stunPadding]; omega

lemma le_attributeStep (noAligned : Bool) (l : ℕ) : l ≤ attributeStep noAligned l := by
  cases noAligned
  · exact le_stunAlign l
  · exact le_rfl

lemma attributeStep_lt (noAligned : Bool) (l : ℕ) : attributeStep noAligned l < l + 4 := by
  cases noAligned
  · exact stunAlign_lt l
  · simp [attributeStep]

/-! ### The grammar -/

/-- The total length the header of a block announces. -/
def messageLen (b : Bytes) : ℕ := (word16 (b.getD 2 0) (b.getD 3 0)).toNat + 20

/-- The block `b` begins with a message of `m` bytes: its first two bits are
zero, `m` is the header plus the length field, a multiple of 4 in padding mode,
and attributes tile what lies behind the header. -/
structure Framed (hasPadding : Bool) (b : Bytes) (m : ℕ) : Prop where
  bits : b.headD 255 < 64
  len : m = messageLen b
  fits : m ≤ b.length
  aligned : hasPadding → 4 ∣ m
  tiled : Tiled (attributeStep !hasPadding) ((b.take m).drop 20)

/-- The first four bytes of a block: the type and the length field. -/
lemma exists_four {b : Bytes} (h : 4 ≤ b.length) :
    ∃ t₁ t₂ l₁ l₂ rest, b = t₁ :: t₂ :: l₁ :: l₂ :: rest := by
  match b, h with
  | t₁ :: t₂ :: l₁ :: l₂ :: rest, _ => exact ⟨t₁, t₂, l₁, l₂, rest, rfl⟩

lemma Framed.twenty_le {hasPadding : Bool} {b : Bytes} {m : ℕ} (h : Framed hasPadding b m) :
    20 ≤ m := by
  rw [h.len, messageLen]
  omega

/-! ### The walk over the attributes -/

/-- The walk says whether the `len` bytes from `offset` on are tiled.  The
induction is on the rounds left, and one round is one step of `tiled_iff`. -/
lemma validateBufferLoop_spec (msg : Bytes) (hasPadding : Bool) (fuel offset len : ℕ)
    (hfuel : len ≤ fuel) (hfit : offset + len ≤ msg.length) :
    ∃ r, validateBufferLoop msg hasPadding fuel offset len = .ok r ∧
      (r = true ↔ Tiled (attributeStep !hasPadding) ((msg.drop offset).take len)) := by
  induction fuel generalizing offset len with
  | zero =>
      obtain rfl : len = 0 := by omega
      exact ⟨true, rfl, by simp [tiled_nil]⟩
  | succ fuel ih =>
      rw [validateBufferLoop]
      by_cases hlen : len = 0
      · subst hlen
        exact ⟨true, by simp, by simp [tiled_nil]⟩
      rw [if_pos (by omega)]
      by_cases h4 : len < 4
      · rw [if_pos h4]
        refine ⟨false, rfl, ?_⟩
        simp only [Bool.false_eq_true, false_iff]
        intro ht
        have hl : ((msg.drop offset).take len).length = len := by simp; omega
        rcases tiled_iff.mp ht with h0 | ⟨_, _, _, _, rest, he, -, -⟩
        · rw [h0] at hl; simp at hl; omega
        · rw [he] at hl; simp at hl; omega
      · rw [if_neg h4]
        -- the next four bytes are the header of an attribute
        obtain ⟨t₁, t₂, l₁, l₂, tail, hd⟩ :
            ∃ t₁ t₂ l₁ l₂ tail, msg.drop offset = t₁ :: t₂ :: l₁ :: l₂ :: tail :=
          exists_four (by rw [List.length_drop]; omega)
        have hword : stunGetw msg (offset + STUN_ATTRIBUTE_TYPE_LEN) = .ok (word16 l₁ l₂) := by
          have h2 : msg[offset + 2]? = some l₁ := by
            rw [← List.getElem?_drop, hd]; rfl
          have h3 : msg[offset + 2 + 1]? = some l₂ := by
            rw [show offset + 2 + 1 = offset + 3 from rfl, ← List.getElem?_drop, hd]; rfl
          rw [stunGetw, STUN_ATTRIBUTE_TYPE_LEN, readWord, readByte_eq_ok.mpr h2,
            readByte_eq_ok.mpr h3]
          rfl
        have htail : msg.drop (offset + 4) = tail := by
          rw [← List.drop_drop, hd]; rfl
        have hstep : (if hasPadding then stunAlign (word16 l₁ l₂).toNat
            else (word16 l₁ l₂).toNat) = attributeStep (!hasPadding) (word16 l₁ l₂).toNat := by
          cases hasPadding <;> rfl
        have htake : (msg.drop offset).take len =
            t₁ :: t₂ :: l₁ :: l₂ :: tail.take (len - 4) := by
          obtain ⟨k, rfl⟩ : ∃ k, len = k + 4 := ⟨len - 4, by omega⟩
          rw [hd]; rfl
        have htl : tail.length = msg.length - (offset + 4) := by
          rw [← htail, List.length_drop]
        set s := attributeStep (!hasPadding) (word16 l₁ l₂).toNat with hs
        rw [hword]
        simp only [hstep, bind, Except.bind]
        by_cases hs4 : len - 4 < s
        · rw [if_pos hs4]
          refine ⟨false, rfl, ?_⟩
          simp only [Bool.false_eq_true, false_iff]
          intro ht
          rw [htake] at ht
          rcases tiled_iff.mp ht with h0 | ⟨_, _, _, _, rest, he, hle, -⟩
          · simp at h0
          · simp only [List.cons.injEq] at he
            obtain ⟨rfl, rfl, rfl, rfl, rfl⟩ := he
            rw [← hs, List.length_take] at hle
            omega
        · rw [if_neg hs4]
          obtain ⟨r, hr, hiff⟩ := ih (offset + 4 + s) (len - 4 - s) (by omega) (by omega)
          refine ⟨r, hr, hiff.trans ?_⟩
          have hrest : (msg.drop (offset + 4 + s)).take (len - 4 - s) =
              (tail.take (len - 4)).drop s := by
            rw [← List.drop_drop, htail, List.drop_take]
          rw [htake, hrest]
          constructor
          · intro ht
            refine tiled_iff.mpr (.inr ⟨_, _, _, _, _, rfl, ?_, ?_⟩)
            · rw [← hs, List.length_take]; omega
            · rw [← hs]; exact ht
          · intro ht
            rcases tiled_iff.mp ht with h0 | ⟨_, _, _, _, rest, he, -, hrec⟩
            · simp at h0
            · simp only [List.cons.injEq] at he
              obtain ⟨rfl, rfl, rfl, rfl, rfl⟩ := he
              rw [← hs] at hrec
              exact hrec

/-! ### The five ways of `stun_message_validate_buffer_length` -/

lemma shiftRight_six_ne_zero_iff (x : UInt8) : x >>> 6 ≠ 0 ↔ ¬ x < 64 := by
  have hx := x.toNat_lt
  have hshift : (x >>> 6).toNat = x.toNat / 64 := by
    rw [UInt8.toNat_shiftRight, Nat.shiftRight_eq_div_pow]
    rfl
  rw [ne_eq, ← UInt8.toNat_inj, hshift, UInt8.lt_iff_toNat_lt]
  simp only [UInt8.reduceToNat]
  omega

section Verdicts

variable {hasPadding : Bool} {b₀ : UInt8} {bs : Bytes}

/-- The length field of a block with a whole length field. -/
lemma stunGetw_length {b : Bytes} (h : 4 ≤ b.length) :
    stunGetw b STUN_MESSAGE_LENGTH_POS = .ok (word16 (b.getD 2 0) (b.getD 3 0)) := by
  rw [stunGetw, STUN_MESSAGE_LENGTH_POS, readWord_of_lt (by omega)]
  simp only [List.getD_eq_getElem?_getD, List.getElem?_eq_getElem (show 2 < b.length by omega),
    List.getElem?_eq_getElem (show 2 + 1 < b.length by omega), Option.getD_some]

/-- The fast check on a single buffer. -/
lemma validateBufferLengthFast_single (h : b₀ < 64) (h4 : 4 ≤ (b₀ :: bs).length) :
    stunMessageValidateBufferLengthFast [⟨some (b₀ :: bs)⟩] (some 1) (b₀ :: bs).length hasPadding =
      .ok (if hasPadding ∧ ¬ 4 ∣ messageLen (b₀ :: bs) then STUN_MESSAGE_BUFFER_INVALID
        else if (b₀ :: bs).length < messageLen (b₀ :: bs) then STUN_MESSAGE_BUFFER_INCOMPLETE
        else messageLen (b₀ :: bs)) := by
  have hb : ¬ (b₀ >>> 6 ≠ 0) := by rw [shiftRight_six_ne_zero_iff]; simpa using h
  rw [stunMessageValidateBufferLengthFast, if_neg (by simp)]
  simp only [Option.getD_some, readByte_of_lt (show 0 < (b₀ :: bs).length by simp),
    List.getElem_cons_zero, bind, Except.bind, if_neg hb]
  rw [if_neg (by simpa [STUN_MESSAGE_LENGTH_POS, STUN_MESSAGE_LENGTH_LEN] using h4), if_pos]
  · rw [stunGetw_length h4]
    have hlen : (word16 ((b₀ :: bs).getD 2 0) ((b₀ :: bs).getD 3 0)).toNat +
        STUN_MESSAGE_HEADER_LENGTH = messageLen (b₀ :: bs) := rfl
    simp only [pure, Except.pure, hlen, ne_eq, stunPadding_eq_zero_iff]
    split_ifs <;> rfl
  · simpa [StunInputVector.size, STUN_MESSAGE_LENGTH_POS, STUN_MESSAGE_LENGTH_LEN] using h4

lemma validate_of_bits (h : ¬ b₀ < 64) :
    stunMessageValidateBufferLength (b₀ :: bs) hasPadding = .ok STUN_MESSAGE_BUFFER_INVALID := by
  have hb := (shiftRight_six_ne_zero_iff b₀).mpr h
  rw [stunMessageValidateBufferLength, stunMessageValidateBufferLengthFast, if_neg (by simp)]
  simp only [Option.getD_some, readByte_of_lt (show 0 < (b₀ :: bs).length by simp),
    List.getElem_cons_zero, bind, Except.bind, if_pos hb]
  rfl

lemma validate_of_short (h : b₀ < 64) (h4 : (b₀ :: bs).length < 4) :
    stunMessageValidateBufferLength (b₀ :: bs) hasPadding =
      .ok STUN_MESSAGE_BUFFER_INCOMPLETE := by
  have hb : ¬ (b₀ >>> 6 ≠ 0) := by rw [shiftRight_six_ne_zero_iff]; simpa using h
  rw [stunMessageValidateBufferLength, stunMessageValidateBufferLengthFast, if_neg (by simp)]
  simp only [Option.getD_some, readByte_of_lt (show 0 < (b₀ :: bs).length by simp),
    List.getElem_cons_zero, bind, Except.bind, if_neg hb]
  rw [if_pos (by simpa [STUN_MESSAGE_LENGTH_POS, STUN_MESSAGE_LENGTH_LEN] using h4)]
  rfl

lemma validate_of_unaligned (h : b₀ < 64) (h4 : 4 ≤ (b₀ :: bs).length)
    (hp : hasPadding = true) (hm : ¬ 4 ∣ messageLen (b₀ :: bs)) :
    stunMessageValidateBufferLength (b₀ :: bs) hasPadding = .ok STUN_MESSAGE_BUFFER_INVALID := by
  rw [stunMessageValidateBufferLength, validateBufferLengthFast_single h h4, if_pos ⟨hp, hm⟩]
  rfl

lemma validate_of_incomplete (h : b₀ < 64) (h4 : 4 ≤ (b₀ :: bs).length)
    (hm : hasPadding = true → 4 ∣ messageLen (b₀ :: bs))
    (hl : (b₀ :: bs).length < messageLen (b₀ :: bs)) :
    stunMessageValidateBufferLength (b₀ :: bs) hasPadding =
      .ok STUN_MESSAGE_BUFFER_INCOMPLETE := by
  rw [stunMessageValidateBufferLength, validateBufferLengthFast_single h h4,
    if_neg (fun hc => hc.2 (hm hc.1)), if_pos hl]
  rfl

lemma validate_of_complete (h : b₀ < 64)
    (hm : hasPadding = true → 4 ∣ messageLen (b₀ :: bs))
    (hl : messageLen (b₀ :: bs) ≤ (b₀ :: bs).length) :
    ∃ r : Bool, stunMessageValidateBufferLength (b₀ :: bs) hasPadding =
        .ok (if r then (messageLen (b₀ :: bs) : ℤ) else STUN_MESSAGE_BUFFER_INVALID) ∧
      (r = true ↔ Framed hasPadding (b₀ :: bs) (messageLen (b₀ :: bs))) := by
  have h20 : 20 ≤ messageLen (b₀ :: bs) := by rw [messageLen]; omega
  obtain ⟨r, hr, hiff⟩ := validateBufferLoop_spec (b₀ :: bs) hasPadding
    (messageLen (b₀ :: bs)) 20 (messageLen (b₀ :: bs) - 20) (by omega) (by omega)
  refine ⟨r, ?_, ?_⟩
  · rw [stunMessageValidateBufferLength, validateBufferLengthFast_single h (by omega),
      if_neg (fun hc => hc.2 (hm hc.1)), if_neg (by omega)]
    simp only [bind, Except.bind]
    rw [if_neg (by omega), Int.toNat_natCast, hr]
    cases r <;> rfl
  · rw [hiff, ← List.drop_take]
    exact ⟨fun ht => ⟨by simpa using h, rfl, hl, hm, ht⟩, fun hf => hf.tiled⟩

end Verdicts

/-! ### The main results -/

lemma validate_nil (hasPadding : Bool) :
    stunMessageValidateBufferLength [] hasPadding = .ok STUN_MESSAGE_BUFFER_INVALID := by
  rw [stunMessageValidateBufferLength, stunMessageValidateBufferLengthFast, if_pos (by simp)]
  rfl

/-- `stun_message_validate_buffer_length` returns on every block of bytes. -/
lemma validate_total (b : Bytes) (hasPadding : Bool) :
    ∃ v, stunMessageValidateBufferLength b hasPadding = .ok v := by
  cases b with
  | nil => exact ⟨_, validate_nil hasPadding⟩
  | cons b₀ bs =>
      by_cases hb : b₀ < 64
      · by_cases h4 : 4 ≤ (b₀ :: bs).length
        · by_cases hm : hasPadding = true → 4 ∣ messageLen (b₀ :: bs)
          · by_cases hl : messageLen (b₀ :: bs) ≤ (b₀ :: bs).length
            · obtain ⟨r, hr, -⟩ := validate_of_complete hb hm hl
              exact ⟨_, hr⟩
            · exact ⟨_, validate_of_incomplete hb h4 hm (by omega)⟩
          · push Not at hm
            exact ⟨_, validate_of_unaligned hb h4 hm.1 hm.2⟩
        · exact ⟨_, validate_of_short hb (by omega)⟩
      · exact ⟨_, validate_of_bits hb⟩

/-- A message is accepted, with its length. -/
lemma validate_of_framed {b : Bytes} {hasPadding : Bool} {m : ℕ} (h : Framed hasPadding b m) :
    stunMessageValidateBufferLength b hasPadding = .ok (m : ℤ) := by
  have h20 := h.twenty_le
  have hfit := h.fits
  obtain ⟨b₀, bs, rfl⟩ : ∃ b₀ bs, b = b₀ :: bs := by
    cases b with
    | nil => simp at hfit; omega
    | cons b₀ bs => exact ⟨_, _, rfl⟩
  have hb : b₀ < 64 := by simpa using h.bits
  obtain rfl := h.len
  obtain ⟨r, hr, hiff⟩ := validate_of_complete hb h.aligned hfit
  rw [hr, hiff.mpr h, if_pos rfl]

/-- A verdict is `INVALID`, `INCOMPLETE` or the length of a message. -/
lemma validate_cases {b : Bytes} {hasPadding : Bool} {v : ℤ}
    (h : stunMessageValidateBufferLength b hasPadding = .ok v) :
    v = STUN_MESSAGE_BUFFER_INVALID ∨ v = STUN_MESSAGE_BUFFER_INCOMPLETE ∨
      ∃ m : ℕ, v = m ∧ Framed hasPadding b m := by
  cases b with
  | nil =>
      rw [validate_nil] at h
      exact .inl (Except.ok.inj h).symm
  | cons b₀ bs =>
      by_cases hb : b₀ < 64
      swap
      · rw [validate_of_bits hb] at h
        exact .inl (Except.ok.inj h).symm
      by_cases h4 : 4 ≤ (b₀ :: bs).length
      swap
      · rw [validate_of_short hb (by omega)] at h
        exact .inr (.inl (Except.ok.inj h).symm)
      by_cases hm : hasPadding = true → 4 ∣ messageLen (b₀ :: bs)
      swap
      · push Not at hm
        rw [validate_of_unaligned hb h4 hm.1 hm.2] at h
        exact .inl (Except.ok.inj h).symm
      by_cases hl : messageLen (b₀ :: bs) ≤ (b₀ :: bs).length
      swap
      · rw [validate_of_incomplete hb h4 hm (by omega)] at h
        exact .inr (.inl (Except.ok.inj h).symm)
      obtain ⟨r, hr, hiff⟩ := validate_of_complete hb hm hl
      rw [hr] at h
      cases r with
      | true => exact .inr (.inr ⟨_, (Except.ok.inj h).symm, hiff.mp rfl⟩)
      | false => exact .inl (Except.ok.inj h).symm

/-- What is accepted is a message, and the verdict is its length. -/
lemma framed_of_validate {b : Bytes} {hasPadding : Bool} {v : ℤ}
    (h : stunMessageValidateBufferLength b hasPadding = .ok v) (hv : 0 < v) :
    ∃ m : ℕ, v = m ∧ Framed hasPadding b m := by
  rcases validate_cases h with rfl | rfl | hm
  · exact absurd hv (by decide)
  · exact absurd hv (by decide)
  · exact hm

/-- The bytes of a block decide its length field as soon as they reach it. -/
lemma messageLen_append {b ext : Bytes} (h : 4 ≤ b.length) :
    messageLen (b ++ ext) = messageLen b := by
  simp only [messageLen, List.getD_eq_getElem?_getD,
    List.getElem?_append_left (show 2 < b.length by omega),
    List.getElem?_append_left (show 3 < b.length by omega)]

lemma framed_append {b ext : Bytes} {hasPadding : Bool} {m : ℕ} (hfit : m ≤ b.length)
    (h4 : 4 ≤ b.length) : Framed hasPadding (b ++ ext) m ↔ Framed hasPadding b m := by
  have hhead : (b ++ ext).headD 255 = b.headD 255 := by
    cases b with
    | nil => simp at h4
    | cons => rfl
  have htake : (b ++ ext).take m = b.take m := List.take_append_of_le_length hfit
  constructor
  · rintro ⟨hb, hl, -, ha, ht⟩
    exact ⟨hhead ▸ hb, messageLen_append h4 ▸ hl, hfit, ha, htake ▸ ht⟩
  · rintro ⟨hb, hl, hf, ha, ht⟩
    refine ⟨hhead ▸ hb, (messageLen_append h4).symm ▸ hl, ?_, ha, htake.symm ▸ ht⟩
    rw [List.length_append]
    omega

/-- A non-empty proper prefix of a message is incomplete. -/
lemma validate_prefix {b p : Bytes} {hasPadding : Bool} {m : ℕ} (h : Framed hasPadding b m)
    (hp : p <+: b) (hne : p ≠ []) (hlt : p.length < m) :
    stunMessageValidateBufferLength p hasPadding = .ok STUN_MESSAGE_BUFFER_INCOMPLETE := by
  obtain ⟨ext, rfl⟩ := hp
  obtain ⟨b₀, bs, rfl⟩ : ∃ b₀ bs, p = b₀ :: bs := List.exists_cons_of_ne_nil hne
  have hb : b₀ < 64 := by simpa using h.bits
  by_cases h4 : 4 ≤ (b₀ :: bs).length
  · have hlen : m = messageLen (b₀ :: bs) := by rw [h.len, messageLen_append h4]
    exact validate_of_incomplete hb h4 (fun hp => hlen ▸ h.aligned hp) (hlen ▸ hlt)
  · exact validate_of_short hb (by omega)

/-- A verdict other than `INCOMPLETE` on a non-empty block survives any
extension of the block. -/
lemma validate_extend {b ext : Bytes} {hasPadding : Bool} {v : ℤ} (hne : b ≠ [])
    (h : stunMessageValidateBufferLength b hasPadding = .ok v)
    (hv : v ≠ STUN_MESSAGE_BUFFER_INCOMPLETE) :
    stunMessageValidateBufferLength (b ++ ext) hasPadding = .ok v := by
  obtain ⟨b₀, bs, rfl⟩ : ∃ b₀ bs, b = b₀ :: bs := List.exists_cons_of_ne_nil hne
  by_cases hb : b₀ < 64
  swap
  · rw [validate_of_bits hb] at h
    rw [List.cons_append, validate_of_bits hb, h]
  by_cases h4 : 4 ≤ (b₀ :: bs).length
  swap
  · rw [validate_of_short hb (by omega)] at h
    cases h
    exact absurd rfl hv
  have hext4 : 4 ≤ (b₀ :: (bs ++ ext)).length := by
    simp only [List.length_cons, List.length_append] at h4 ⊢
    omega
  have hlen : messageLen (b₀ :: (bs ++ ext)) = messageLen (b₀ :: bs) := by
    rw [← List.cons_append, messageLen_append h4]
  by_cases hm : hasPadding = true → 4 ∣ messageLen (b₀ :: bs)
  swap
  · push Not at hm
    rw [validate_of_unaligned hb h4 hm.1 hm.2] at h
    have hm2 : ¬ 4 ∣ messageLen (b₀ :: (bs ++ ext)) := by rw [hlen]; exact hm.2
    rw [List.cons_append, validate_of_unaligned hb hext4 hm.1 hm2, h]
  by_cases hl : messageLen (b₀ :: bs) ≤ (b₀ :: bs).length
  swap
  · rw [validate_of_incomplete hb h4 hm (by omega)] at h
    cases h
    exact absurd rfl hv
  obtain ⟨r, hr, hiff⟩ := validate_of_complete hb hm hl
  have hextl : messageLen (b₀ :: (bs ++ ext)) ≤ (b₀ :: (bs ++ ext)).length := by
    simp only [hlen, List.length_cons, List.length_append] at hl ⊢
    omega
  have hextm : hasPadding = true → 4 ∣ messageLen (b₀ :: (bs ++ ext)) := by rw [hlen]; exact hm
  obtain ⟨r', hr', hiff'⟩ := validate_of_complete hb hextm hextl
  have hrr : r' = r := by
    rw [Bool.eq_iff_iff, hiff, hiff', hlen, ← List.cons_append]
    exact framed_append hl h4
  rw [List.cons_append, hr', hrr, hlen, ← hr, h]

/-- **Framing.**  On a non-empty block, `stun_message_validate_buffer_length`
returns `m > 0` exactly for a message of `m` bytes, reports every non-empty
proper prefix of a message as incomplete, and sticks to every other verdict when
more bytes arrive. -/
theorem validate_buffer_length_framing (b₀ : UInt8) (bs : Bytes) (hasPadding : Bool) :
    (∃ v, stunMessageValidateBufferLength (b₀ :: bs) hasPadding = .ok v) ∧
    (∀ m : ℤ, 0 < m ∧ stunMessageValidateBufferLength (b₀ :: bs) hasPadding = .ok m ↔
      ∃ n : ℕ, m = n ∧ Framed hasPadding (b₀ :: bs) n) ∧
    (∀ n : ℕ, Framed hasPadding (b₀ :: bs) n → ∀ p, p <+: (b₀ :: bs).take n → p ≠ [] →
      p.length < n →
        stunMessageValidateBufferLength p hasPadding = .ok STUN_MESSAGE_BUFFER_INCOMPLETE) ∧
    (∀ v, stunMessageValidateBufferLength (b₀ :: bs) hasPadding = .ok v →
      v ≠ STUN_MESSAGE_BUFFER_INCOMPLETE → ∀ ext,
        stunMessageValidateBufferLength (b₀ :: bs ++ ext) hasPadding = .ok v) := by
  refine ⟨validate_total _ _, fun m => ⟨?_, ?_⟩, ?_, ?_⟩
  · rintro ⟨hm, h⟩
    exact framed_of_validate h hm
  · rintro ⟨n, rfl, hn⟩
    have := hn.twenty_le
    exact ⟨by omega, validate_of_framed hn⟩
  · intro n hn p hp hne hlt
    exact validate_prefix hn (hp.trans (List.take_prefix _ _)) hne hlt
  · intro v h hv ext
    exact validate_extend (by simp) h hv

end LibNice.Stun
