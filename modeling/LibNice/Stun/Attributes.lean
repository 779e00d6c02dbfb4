import LibNice.Stun.Framing
import LibNice.Stun.Agent

/-!
Messages as lists of attributes.

* `Visible`: the attributes the functions of the library see in a message.
  `find_visible` reads `stun_message_find` as a search in that list, and
  `findUnknowns_visible` does so for `stun_agent_find_unknowns`.
* `Framed.visible`: a message that `stun_message_validate_buffer_length` accepts
  shows the attributes of its tiling, or none when its length wraps around.
* `Laid`: a message under construction, with free room behind its attributes;
  `append_laid` and `writeValue_laid` are the two halves of an append.  The
  message after an append may be longer than 16 bits hold (`Filled`).
-/

namespace LibNice.Stun

open LibNice.Foundation

/-- An attribute on the wire. -/
abbrev Attribute (noAligned : Bool) := Tlv (attributeStep noAligned)

variable {na : Bool}

/-- The functions that read the message `msg` see the attributes `rs` in it. -/
structure Visible (na : Bool) (msg : StunMessage) (rs : List (Attribute na)) : Prop where
  noAligned : msg.noAligned = na
  area : ∃ pre tail, pre.length = 20 ∧ msg.buffer = pre ++ (encodeAll rs ++ tail)
  length : ∃ len : UInt16, stunMessageLength msg = .ok len ∧
    (len.toNat = 20 + (encodeAll rs).length ∨ len.toNat < 20 ∧ rs = [])

/-! ### Searching -/

lemma length_le_encodeAll (rs : List (Attribute na)) : rs.length ≤ (encodeAll rs).length := by
  induction rs with
  | nil => simp
  | cons r rs ih =>
      simp only [encodeAll_cons, List.length_cons, List.length_append, Tlv.encode_length]
      omega

/-- The search in a buffer is the search in its attributes.  The induction is on
the attributes; `pre` is what the search has left behind. -/
lemma findLoop_eq (type : StunAttribute) (rs : List (Attribute na)) :
    ∀ (pre tail : Bytes) (fuel : ℕ), rs.length ≤ fuel →
      stunMessageFindLoop (pre ++ (encodeAll rs ++ tail)) na type
          (pre.length + (encodeAll rs).length) fuel pre.length =
        .ok (scan (misordered type) type pre.length rs) := by
  induction rs with
  | nil =>
      intro pre tail fuel _
      cases fuel <;> simp [stunMessageFindLoop, scan]
  | cons r rs ih =>
      intro pre tail fuel hfuel
      obtain ⟨fuel, rfl⟩ : ∃ k, fuel = k + 1 := ⟨fuel - 1, by simp at hfuel; omega⟩
      have hlt : pre.length < pre.length + (encodeAll (r :: rs)).length := by
        simp only [encodeAll_cons, List.length_append, Tlv.encode_length]
        omega
      have htype : stunGetw (pre ++ (encodeAll (r :: rs) ++ tail)) pre.length = .ok r.type := by
        have h := readWord_type pre (encodeAll rs ++ tail) r
        rw [stunGetw, encodeAll_cons, List.append_assoc, h]
      have hlen : stunGetw (pre ++ (encodeAll (r :: rs) ++ tail))
          (pre.length + STUN_ATTRIBUTE_TYPE_LEN) = .ok r.len := by
        have h := readWord_len pre (encodeAll rs ++ tail) r
        rw [stunGetw, encodeAll_cons, List.append_assoc, STUN_ATTRIBUTE_TYPE_LEN, h]
      rw [stunMessageFindLoop, if_pos hlt, htype, hlen, scan]
      simp only [bind, Except.bind]
      by_cases ht : r.type = type
      · rw [if_pos ht, if_pos ht]
        rfl
      rw [if_neg ht, if_neg ht]
      by_cases hm : misordered type r.type = true
      · rw [if_pos hm, if_pos hm]
        rfl
      rw [if_neg hm, if_neg hm]
      -- the rest of the search is the search behind this attribute
      have hrest := ih (pre ++ r.encode) tail fuel (by simp at hfuel; omega)
      have hoff : (pre ++ r.encode).length =
          pre.length + STUN_ATTRIBUTE_VALUE_POS + attributeStep na r.len.toNat := by
        simp only [List.length_append, Tlv.encode_length, STUN_ATTRIBUTE_VALUE_POS]
        omega
      have hend : (pre ++ r.encode).length + (encodeAll rs).length =
          pre.length + (encodeAll (r :: rs)).length := by
        simp only [encodeAll_cons, List.length_append]
        omega
      have hbuf : pre ++ r.encode ++ (encodeAll rs ++ tail) =
          pre ++ (encodeAll (r :: rs) ++ tail) := by simp
      rw [hend, hbuf] at hrest
      rw [← hoff, hrest, List.length_append]

/-- `stun_message_find` is a search in the attributes of a message. -/
theorem find_visible {msg : StunMessage} {rs : List (Attribute na)} (h : Visible na msg rs)
    (type : StunAttribute) :
    stunMessageFind msg type =
      .ok (scan (misordered (msg.wireType type)) (msg.wireType type) 20 rs) := by
  obtain ⟨hna, ⟨pre, tail, hpre, hbuf⟩, len, hlen, hcase⟩ := h
  rw [stunMessageFind, hlen]
  simp only [bind, Except.bind, hna]
  rcases hcase with heq | ⟨hlt, rfl⟩
  · have hfuel : rs.length ≤ len.toNat := by
      have := length_le_encodeAll rs
      omega
    have hloop := findLoop_eq (msg.wireType type) rs pre tail len.toNat hfuel
    rw [hpre, ← heq] at hloop
    rw [hbuf]
    exact hloop
  · cases hn : len.toNat with
    | zero => rfl
    | succ n =>
        rw [stunMessageFindLoop, if_neg (by simp [STUN_MESSAGE_ATTRIBUTES_POS]; omega)]
        rfl

lemma hasAttribute_visible {msg : StunMessage} {rs : List (Attribute na)}
    (h : Visible na msg rs) (type : StunAttribute) :
    stunMessageHasAttribute msg type =
      .ok (scan (misordered (msg.wireType type)) (msg.wireType type) 20 rs).isSome := by
  rw [stunMessageHasAttribute, find_visible h]
  rfl

/-- What a search finds is the value of one of the attributes, and lies inside
the message. -/
lemma scan_value {msg : StunMessage} {rs : List (Attribute na)} (h : Visible na msg rs)
    {stop : UInt16 → Bool} {type : UInt16} {ptr : ℕ} {len : UInt16}
    (hs : scan stop type 20 rs = some (ptr, len)) :
    ∃ r ∈ rs, r.type = type ∧ r.len = len ∧
      ptr + attributeStep na len.toNat ≤ 20 + (encodeAll rs).length ∧
      20 + (encodeAll rs).length ≤ msg.buffer.length ∧ 24 ≤ ptr ∧
      ∀ n ≤ r.body.length, readSlice msg.buffer ptr n = .ok (r.body.take n) := by
  obtain ⟨-, ⟨pre, tail, hpre, hbuf⟩, -⟩ := h
  obtain ⟨before, r, after, rfl, hr, -, hp⟩ := scan_eq_some.mp hs
  obtain ⟨rfl, rfl⟩ := Prod.mk.inj hp
  refine ⟨r, by simp, hr, rfl, ?_, ?_, by omega, fun n hn => ?_⟩
  · simp only [encodeAll_append, encodeAll_cons, List.length_append, Tlv.encode_length]
    omega
  · simp only [hbuf, List.length_append, hpre]
    omega
  · have hsplit : msg.buffer =
        (pre ++ encodeAll before) ++ (r.encode ++ (encodeAll after ++ tail)) := by
      simp [hbuf]
    have hoff : 20 + (encodeAll before).length + 4 = (pre ++ encodeAll before).length + 4 := by
      simp only [List.length_append, hpre]
    rw [hsplit, hoff, readSlice_body _ _ _ hn]

/-- The value of an attribute, as the library reads it. -/
lemma attributeValue_visible {msg : StunMessage} {rs : List (Attribute na)}
    (h : Visible na msg rs) (type : StunAttribute) :
    ∃ v, attributeValue msg type = .ok v ∧
      (v.isSome ↔ (scan (misordered (msg.wireType type)) (msg.wireType type) 20 rs).isSome) := by
  rw [attributeValue, find_visible h]
  cases hs : scan (misordered (msg.wireType type)) (msg.wireType type) 20 rs with
  | none => exact ⟨none, rfl, by simp⟩
  | some p =>
      obtain ⟨ptr, len⟩ := p
      obtain ⟨r, -, -, rfl, -, -, -, hread⟩ := scan_value h hs
      have hle : r.len.toNat ≤ r.body.length := by
        rw [r.body_length]
        exact le_attributeStep na _
      refine ⟨some (r.body.take r.len.toNat), ?_, by simp⟩
      simp only [bind, Except.bind, hread _ hle]
      rfl

/-! ### Unknown attributes -/

/-- The mandatory attributes among `rs` that an agent does not know. -/
def unknowns (agent : StunAgentConfig) (rs : List (Attribute na)) : List StunAttribute :=
  (rs.map (·.type)).filter fun t => !stunOptional t && stunAgentIsUnknown agent t

lemma findUnknownsLoop_eq (agent : StunAgentConfig) (max : ℕ)
    (hna : agent.usageFlags.noAlignedAttributes = na) (rs : List (Attribute na)) :
    ∀ (pre tail : Bytes) (fuel : ℕ) (list : List StunAttribute), rs.length ≤ fuel →
      list.length ≤ max →
      findUnknownsLoop agent (pre ++ (encodeAll rs ++ tail)) (pre.length + (encodeAll rs).length)
          max fuel pre.length list =
        .ok ((list ++ unknowns agent rs).take max) := by
  induction rs with
  | nil =>
      intro pre tail fuel list _ hmax
      have htake : (list ++ unknowns agent ([] : List (Attribute na))).take max = list := by
        simp [unknowns, hmax]
      rw [htake]
      cases fuel <;> simp [findUnknownsLoop]
  | cons r rs ih =>
      intro pre tail fuel list hfuel hmax
      obtain ⟨fuel, rfl⟩ : ∃ k, fuel = k + 1 := ⟨fuel - 1, by simp at hfuel; omega⟩
      have hlt : pre.length < pre.length + (encodeAll (r :: rs)).length := by
        simp only [encodeAll_cons, List.length_append, Tlv.encode_length]
        omega
      by_cases hroom : list.length < max
      swap
      · rw [findUnknownsLoop, if_neg (fun hc => hroom hc.2)]
        rw [List.take_append_of_le_length (by omega), List.take_of_length_le (by omega)]
      have htype : stunGetw (pre ++ (encodeAll (r :: rs) ++ tail)) pre.length = .ok r.type := by
        have h := readWord_type pre (encodeAll rs ++ tail) r
        rw [stunGetw, encodeAll_cons, List.append_assoc, h]
      have hlen : stunGetw (pre ++ (encodeAll (r :: rs) ++ tail))
          (pre.length + STUN_ATTRIBUTE_TYPE_LEN) = .ok r.len := by
        have h := readWord_len pre (encodeAll rs ++ tail) r
        rw [stunGetw, encodeAll_cons, List.append_assoc, STUN_ATTRIBUTE_TYPE_LEN, h]
      rw [findUnknownsLoop, if_pos ⟨hlt, hroom⟩, htype, hlen]
      simp only [bind, Except.bind, hna]
      set list' := if (!stunOptional r.type && stunAgentIsUnknown agent r.type) = true
        then list ++ [r.type] else list with hlist'
      have hmax' : list'.length ≤ max := by
        rw [hlist']
        split
        · simpa using hroom
        · omega
      have hcons : list' ++ unknowns agent rs = list ++ unknowns agent (r :: rs) := by
        rw [hlist', unknowns, unknowns, List.map_cons, List.filter_cons]
        split <;> simp
      have hrest := ih (pre ++ r.encode) tail fuel list' (by simp at hfuel; omega) hmax'
      have hoff : (pre ++ r.encode).length =
          pre.length + STUN_ATTRIBUTE_VALUE_POS + attributeStep na r.len.toNat := by
        simp only [List.length_append, Tlv.encode_length, STUN_ATTRIBUTE_VALUE_POS]
        omega
      have hend : (pre ++ r.encode).length + (encodeAll rs).length =
          pre.length + (encodeAll (r :: rs)).length := by
        simp only [encodeAll_cons, List.length_append]
        omega
      have hbuf : pre ++ r.encode ++ (encodeAll rs ++ tail) =
          pre ++ (encodeAll (r :: rs) ++ tail) := by simp
      rw [hend, hbuf, hoff, hcons] at hrest
      exact hrest

/-- `stun_agent_find_unknowns` lists the unknown mandatory attributes. -/
theorem findUnknowns_visible {agent : StunAgentConfig} {msg : StunMessage}
    {rs : List (Attribute na)} (h : Visible na msg rs)
    (hna : agent.usageFlags.noAlignedAttributes = na) (max : ℕ) :
    stunAgentFindUnknowns agent msg max = .ok ((unknowns agent rs).take max) := by
  obtain ⟨-, ⟨pre, tail, hpre, hbuf⟩, len, hlen, hcase⟩ := h
  rw [stunAgentFindUnknowns, hlen]
  simp only [bind, Except.bind]
  rcases hcase with heq | ⟨hlt, rfl⟩
  · have hfuel : rs.length ≤ len.toNat := by
      have := length_le_encodeAll rs
      omega
    have hloop := findUnknownsLoop_eq agent max hna rs pre tail len.toNat [] hfuel (by simp)
    rw [hpre, ← heq] at hloop
    rw [hbuf]
    exact hloop
  · have htake : (unknowns agent ([] : List (Attribute na))).take max = [] := by simp [unknowns]
    rw [htake]
    cases hn : len.toNat with
    | zero => rfl
    | succ n =>
        rw [findUnknownsLoop, if_neg (by simp [STUN_MESSAGE_ATTRIBUTES_POS]; omega)]

/-- What a message shows depends on its agent and its bytes alone. -/
lemma Visible.congr {msg msg' : StunMessage} {rs : List (Attribute na)} (h : Visible na msg rs)
    (hagent : msg'.agent = msg.agent) (hbuf : msg'.buffer = msg.buffer) : Visible na msg' rs := by
  obtain ⟨hna, harea, len, hlen, hcase⟩ := h
  refine ⟨?_, hbuf ▸ harea, len, ?_, hcase⟩
  · rw [← hna, StunMessage.noAligned, StunMessage.noAligned, hagent]
  · rw [← hlen, stunMessageLength, stunMessageLength, hbuf]

/-! ### Accepted messages -/

/-- The length field of a block and the length it announces. -/
lemma stunMessageLength_eq {msg : StunMessage} (h : 4 ≤ msg.buffer.length) :
    ∃ len : UInt16, stunMessageLength msg = .ok len ∧
      len.toNat = messageLen msg.buffer % 65536 := by
  refine ⟨word16 (msg.buffer.getD 2 0) (msg.buffer.getD 3 0) +
    UInt16.ofNat STUN_MESSAGE_HEADER_LENGTH, ?_, ?_⟩
  · rw [stunMessageLength, stunGetw_length h]
    rfl
  · rw [UInt16.toNat_add, messageLen]
    rfl

/-- An accepted message shows the attributes that tile it.  A message of 65536
bytes or more shows none, since its length wraps around to less than a header. -/
theorem Framed.visible {msg : StunMessage} {m : ℕ} (hna : msg.noAligned = na)
    (h : Framed (!na) msg.buffer m) : ∃ rs : List (Attribute na), Visible na msg rs := by
  have h20 := h.twenty_le
  have hfit := h.fits
  have hm := h.len
  have hmax : m < 65536 + 20 := by
    have := (word16 (msg.buffer.getD 2 0) (msg.buffer.getD 3 0)).toNat_lt
    rw [hm, messageLen]
    omega
  obtain ⟨len, hlen, hval⟩ := stunMessageLength_eq (show 4 ≤ msg.buffer.length by omega)
  have hpre : (msg.buffer.take 20).length = 20 := by
    rw [List.length_take]
    omega
  by_cases hwrap : m < 65536
  · obtain ⟨rs, hrs⟩ : Tiled (attributeStep na) ((msg.buffer.take m).drop 20) := by
      simpa using h.tiled
    refine ⟨rs, hna, ⟨msg.buffer.take 20, msg.buffer.drop m, hpre, ?_⟩, len, hlen, .inl ?_⟩
    · have htake : msg.buffer.take 20 = (msg.buffer.take m).take 20 := by
        rw [List.take_take, Nat.min_eq_left h20]
      rw [← hrs, htake, ← List.append_assoc, List.take_append_drop, List.take_append_drop]
    · have := congrArg List.length hrs
      rw [List.length_drop, List.length_take] at this
      omega
  · refine ⟨[], hna, ⟨msg.buffer.take 20, msg.buffer.drop 20, hpre, ?_⟩, len, hlen,
      .inr ⟨by omega, rfl⟩⟩
    rw [encodeAll_nil, List.nil_append, List.take_append_drop]

/-! ### Messages under construction -/

/-- The message `msg` has the type field `ty`, the transaction id `id` and the
attributes `rs`, and `tail` is the free room behind them. -/
structure Laid (na : Bool) (msg : StunMessage) (ty id : Bytes) (rs : List (Attribute na))
    (tail : Bytes) : Prop where
  noAligned : msg.noAligned = na
  ty_length : ty.length = 2
  id_length : id.length = 16
  lt : 20 + (encodeAll rs).length < 65536
  buffer : msg.buffer = ty ++ be16 (encodeAll rs).length ++ id ++ encodeAll rs ++ tail

/-- A message under construction whose attributes fit the length field, even if the message with
its header is too long for 16 bits. -/
structure Filled (na : Bool) (msg : StunMessage) (ty id : Bytes) (rs : List (Attribute na))
    (tail : Bytes) : Prop where
  noAligned : msg.noAligned = na
  ty_length : ty.length = 2
  id_length : id.length = 16
  lt : (encodeAll rs).length < 65536
  buffer : msg.buffer = ty ++ be16 (encodeAll rs).length ++ id ++ encodeAll rs ++ tail

section Laid

variable {msg : StunMessage} {ty id tail : Bytes} {rs : List (Attribute na)}

lemma Filled.laid (h : Filled na msg ty id rs tail) (hlt : 20 + (encodeAll rs).length < 65536) :
    Laid na msg ty id rs tail :=
  ⟨h.noAligned, h.ty_length, h.id_length, hlt, h.buffer⟩

lemma Laid.filled (h : Laid na msg ty id rs tail) : Filled na msg ty id rs tail :=
  ⟨h.noAligned, h.ty_length, h.id_length, (Nat.le_add_left _ _).trans_lt h.lt, h.buffer⟩

lemma Laid.bufferLen (h : Laid na msg ty id rs tail) :
    msg.buffer.length = 20 + (encodeAll rs).length + tail.length := by
  simp only [h.buffer, List.length_append, h.ty_length, h.id_length, be16_length]

lemma Laid.messageLength (h : Laid na msg ty id rs tail) :
    stunMessageLength msg = .ok (UInt16.ofNat (20 + (encodeAll rs).length)) := by
  have hlt := h.lt
  have hword : stunGetw msg.buffer STUN_MESSAGE_LENGTH_POS =
      .ok (UInt16.ofNat (encodeAll rs).length) := by
    have := @readWord_append ty (id ++ encodeAll rs ++ tail) 2 (encodeAll rs).length h.ty_length
    simpa [stunGetw, h.buffer, STUN_MESSAGE_LENGTH_POS] using this
  rw [stunMessageLength, hword]
  simp only [bind, Except.bind, pure, Except.pure, Except.ok.injEq]
  apply UInt16.toNat_inj.mp
  simp only [UInt16.toNat_add, UInt16.toNat_ofNat', STUN_MESSAGE_HEADER_LENGTH,
    STUN_MESSAGE_ATTRIBUTES_POS]
  omega

lemma Laid.visible (h : Laid na msg ty id rs tail) : Visible na msg rs := by
  have hlt := h.lt
  refine ⟨h.noAligned, ⟨ty ++ be16 (encodeAll rs).length ++ id, tail, ?_, ?_⟩, _, h.messageLength,
    .inl ?_⟩
  · simp only [List.length_append, h.ty_length, h.id_length, be16_length]
  · simp [h.buffer]
  · rw [UInt16.toNat_ofNat']
    omega

lemma Laid.messageId (h : Laid na msg ty id rs tail) : stunMessageId msg = .ok id := by
  have hlen := h.bufferLen
  have hdrop : msg.buffer.drop 4 = id ++ (encodeAll rs ++ tail) := by
    have h4 : (ty ++ be16 (encodeAll rs).length).length = 4 := by
      simp only [List.length_append, h.ty_length, be16_length]
    rw [h.buffer, List.append_assoc, List.append_assoc, ← h4, List.drop_left]
  rw [stunMessageId, STUN_MESSAGE_TRANS_ID_POS, STUN_MESSAGE_TRANS_ID_LEN,
    readSlice_of_le (by omega), hdrop, List.take_left' h.id_length]

/-- Whether a transaction id begins with the magic cookie. -/
def hasCookie (id : Bytes) : Bool := id.take 4 = be32 STUN_MAGIC_COOKIE

lemma Laid.cookie (h : Laid na msg ty id rs tail) :
    stunMessageHasCookie msg = .ok (hasCookie id) := by
  rw [stunMessageHasCookie, h.messageId]
  rfl

end Laid

/-! ### Appending -/

/-- The length field of an attribute with a value of `length` bytes. -/
def wireLength (na cookie : Bool) (length : ℕ) : ℕ :=
  if na || cookie then length else stunAlign length

/-- The padding behind a value of `length` bytes. -/
def wirePadding (na : Bool) (length : ℕ) : Bytes :=
  if na then [] else List.replicate (stunPadding length) 0x20

lemma wireLength_step (na cookie : Bool) (length : ℕ) :
    attributeStep na (wireLength na cookie length) = attributeStep na length := by
  cases na <;> cases cookie <;> simp [attributeStep, wireLength, stunAlign]
  omega

lemma wirePadding_length (na : Bool) (length : ℕ) :
    length + (wirePadding na length).length = attributeStep na length := by
  cases na
  · simp [wirePadding, attributeStep, stunAlign_eq]
  · simp [wirePadding, attributeStep]

/-- The attribute with the value `v`, as it is laid out. -/
def attributeOf (na cookie : Bool) (type : StunAttribute) (v : Bytes) (h : v.length + 3 < 65536) :
    Attribute na where
  type := type
  len := UInt16.ofNat (wireLength na cookie v.length)
  body := v ++ wirePadding na v.length
  body_length := by
    have hlt : wireLength na cookie v.length < 65536 := by
      have := stunAlign_lt v.length
      rw [wireLength]
      split <;> omega
    rw [UInt16.toNat_ofNat', Nat.mod_eq_of_lt hlt, wireLength_step, List.length_append,
      wirePadding_length]

@[simp] lemma attributeOf_type (cookie : Bool) (type : StunAttribute) (v : Bytes)
    (h : v.length + 3 < 65536) : (attributeOf na cookie type v h).type = type := rfl

lemma attributeOf_encode_length (cookie : Bool) (type : StunAttribute) (v : Bytes)
    (h : v.length + 3 < 65536) :
    (attributeOf na cookie type v h).encode.length = 4 + attributeStep na v.length := by
  have hbody := (attributeOf na cookie type v h).body_length
  rw [Tlv.encode_length, ← hbody, attributeOf, List.length_append, wirePadding_length]

section Append

variable {msg : StunMessage} {ty id tail : Bytes} {rs : List (Attribute na)}

/-- `stun_message_append` makes room for a value: the attribute is there, with
the old contents `old` of the room as its value. -/
lemma append_filled (type : StunAttribute) {hd old pad : Bytes} {n : ℕ}
    (h : Laid na msg ty id rs (hd ++ (old ++ (pad ++ tail)))) (hhd : hd.length = 4)
    (hold : old.length = n) (hpad : pad.length = (wirePadding na n).length)
    (hlt : (encodeAll rs).length + 4 + attributeStep na n < 65536)
    (hn : old.length + 3 < 65536) :
    ∃ buffer, stunMessageAppend msg type n =
        .ok ({ msg with buffer }, some (20 + (encodeAll rs).length + 4)) ∧
      Filled na { msg with buffer } ty id
        (rs ++ [attributeOf na (hasCookie id) (msg.wireType type) old hn]) tail := by
  subst hold
  have hsmall := h.lt
  have hpadlen := wirePadding_length na old.length
  obtain ⟨hd₁, hd₂, rfl, h₁, h₂⟩ : ∃ hd₁ hd₂, hd = hd₁ ++ hd₂ ∧ hd₁.length = 2 ∧ hd₂.length = 2 :=
    ⟨hd.take 2, hd.drop 2, (List.take_append_drop 2 hd).symm, by simp [hhd], by simp [hhd]⟩
  set record := attributeOf na (hasCookie id) (msg.wireType type) old hn with hrecord
  set wtype := (msg.wireType type).toNat with hwtype
  set wlen := wireLength na (hasCookie id) old.length with hwlen
  set pre := ty ++ be16 (encodeAll rs).length ++ id ++ encodeAll rs with hpre
  have hprelen : pre.length = 20 + (encodeAll rs).length := by
    simp only [hpre, List.length_append, h.ty_length, h.id_length, be16_length]
  have hbuf : msg.buffer = pre ++ (hd₁ ++ (hd₂ ++ (old ++ (pad ++ tail)))) := by
    rw [h.buffer, hpre, List.append_assoc hd₁]
  have hrecenc : record.encode =
      be16 wtype ++ (be16 wlen ++ (old ++ wirePadding na old.length)) := by
    have hw : wlen < 65536 := by
      have hstep : wlen ≤ attributeStep na wlen := le_attributeStep na wlen
      rw [hwlen, wireLength_step] at hstep
      omega
    rw [Tlv.encode, hrecord, attributeOf, UInt16.toNat_ofNat', Nat.mod_eq_of_lt hw,
      List.append_assoc]
  have hencrec : encodeAll (rs ++ [record]) = encodeAll rs ++ record.encode := by
    rw [encodeAll_append, encodeAll_singleton]
  have henclen : (encodeAll (rs ++ [record])).length =
      (encodeAll rs).length + (4 + attributeStep na old.length) := by
    rw [hencrec, List.length_append, attributeOf_encode_length]
  -- the four stores, one after the other
  have hst₁ : stunSetw msg.buffer (20 + (encodeAll rs).length) wtype =
      .ok (pre ++ (be16 wtype ++ (hd₂ ++ (old ++ (pad ++ tail))))) := by
    rw [stunSetw, hbuf, writeSlice_append hprelen (by simp [h₁])]
  have hst₂ : stunSetw (pre ++ (be16 wtype ++ (hd₂ ++ (old ++ (pad ++ tail)))))
      (20 + (encodeAll rs).length + 2) wlen =
      .ok (pre ++ be16 wtype ++ (be16 wlen ++ (old ++ (pad ++ tail)))) := by
    rw [stunSetw, ← List.append_assoc, writeSlice_append (by simp [hprelen]) (by simp [h₂])]
  have hst₃ : writeSlice (pre ++ be16 wtype ++ (be16 wlen ++ (old ++ (pad ++ tail))))
      (20 + (encodeAll rs).length + 4 + old.length) (wirePadding na old.length) =
      .ok (pre ++ be16 wtype ++ be16 wlen ++ old ++ (wirePadding na old.length ++ tail)) := by
    rw [← List.append_assoc, ← List.append_assoc, writeSlice_append (by simp [hprelen]; omega) hpad]
  have hst₄ : stunSetw
      (pre ++ be16 wtype ++ be16 wlen ++ old ++ (wirePadding na old.length ++ tail))
        STUN_MESSAGE_LENGTH_POS (encodeAll (rs ++ [record])).length =
      .ok (ty ++ be16 (encodeAll (rs ++ [record])).length ++ id ++ encodeAll (rs ++ [record]) ++
        tail) := by
    have hsplit : pre ++ be16 wtype ++ be16 wlen ++ old ++ (wirePadding na old.length ++ tail) =
        ty ++ (be16 (encodeAll rs).length ++ (id ++ encodeAll (rs ++ [record]) ++ tail)) := by
      simp only [hpre, hencrec, hrecenc, List.append_assoc]
    have hset := @writeSlice_append ty (be16 (encodeAll rs).length)
      (id ++ encodeAll (rs ++ [record]) ++ tail) (be16 (encodeAll (rs ++ [record])).length) 2
      h.ty_length rfl
    rw [stunSetw, hsplit, STUN_MESSAGE_LENGTH_POS, hset]
    simp only [List.append_assoc]
  -- the length that goes into the header
  have hnat : (UInt16.ofNat (20 + (encodeAll rs).length)).toNat = 20 + (encodeAll rs).length := by
    rw [UInt16.toNat_ofNat']
    omega
  have hnewlen (p : ℕ) (hp : old.length + p = attributeStep na old.length) :
      (UInt16.ofNat (20 + (encodeAll rs).length) + UInt16.ofNat p + UInt16.ofNat (4 + old.length) -
        UInt16.ofNat STUN_MESSAGE_HEADER_LENGTH).toNat = (encodeAll (rs ++ [record])).length := by
    rw [henclen, UInt16.toNat_sub, UInt16.toNat_add, UInt16.toNat_add]
    simp only [UInt16.toNat_ofNat', STUN_MESSAGE_HEADER_LENGTH, STUN_MESSAGE_ATTRIBUTES_POS]
    omega
  have hcookie : stunMessageHasCookie
      { msg with buffer := pre ++ (be16 wtype ++ (hd₂ ++ (old ++ (pad ++ tail)))) } =
        .ok (hasCookie id) := by
    have hlaid : Laid na
        { msg with buffer := pre ++ (be16 wtype ++ (hd₂ ++ (old ++ (pad ++ tail)))) }
        ty id rs (be16 wtype ++ (hd₂ ++ (old ++ (pad ++ tail)))) :=
      ⟨h.noAligned, h.ty_length, h.id_length, h.lt, rfl⟩
    exact hlaid.cookie
  have hroom : ¬ (20 + (encodeAll rs).length + STUN_ATTRIBUTE_HEADER_LENGTH + old.length >
      msg.bufferLen) := by
    rw [StunMessage.bufferLen, hbuf]
    simp only [List.length_append, hprelen, STUN_ATTRIBUTE_HEADER_LENGTH,
      STUN_ATTRIBUTE_VALUE_POS]
    omega
  have hstore : storeLengthAndPadding
      { msg with buffer := pre ++ (be16 wtype ++ (hd₂ ++ (old ++ (pad ++ tail)))) }
        (20 + (encodeAll rs).length) old.length =
      .ok (pre ++ be16 wtype ++ be16 wlen ++ old ++ (wirePadding na old.length ++ tail),
        (wirePadding na old.length).length) := by
    have hna : StunMessage.noAligned
        { msg with buffer := pre ++ (be16 wtype ++ (hd₂ ++ (old ++ (pad ++ tail)))) } = na :=
      h.noAligned
    rw [storeLengthAndPadding, hna]
    simp only [bind, Except.bind]
    cases na with
    | true =>
        have hw : wlen = old.length := by rw [hwlen]; rfl
        have hsame := Except.ok.inj ((writeSlice_nil _ _).symm.trans hst₃)
        rw [if_pos rfl, ← hw, hst₂, hsame]
        rfl
    | false =>
        have hw : (if hasCookie id = true then old.length else stunAlign old.length) = wlen := by
          rw [hwlen, wireLength, Bool.false_or]
        have hpad' : List.replicate (stunPadding old.length) 0x20 = wirePadding false old.length :=
          rfl
        rw [if_neg (by simp), hcookie]
        simp only
        rw [hw, hst₂]
        simp only
        rw [hpad', hst₃]
        simp [wirePadding, pure, Except.pure]
  refine ⟨ty ++ be16 (encodeAll (rs ++ [record])).length ++ id ++ encodeAll (rs ++ [record]) ++
      tail,
    ?_, h.noAligned, h.ty_length, h.id_length, by omega, rfl⟩
  rw [stunMessageAppend, h.messageLength]
  simp only [bind, Except.bind, hnat]
  rw [if_neg hroom, hst₁]
  simp only
  rw [hstore]
  simp only
  rw [hnewlen _ hpadlen, hst₄]
  rfl

lemma append_laid (type : StunAttribute) {hd old pad : Bytes} {n : ℕ}
    (h : Laid na msg ty id rs (hd ++ (old ++ (pad ++ tail)))) (hhd : hd.length = 4)
    (hold : old.length = n) (hpad : pad.length = (wirePadding na n).length)
    (hlt : 20 + (encodeAll rs).length + 4 + attributeStep na n < 65536)
    (hn : old.length + 3 < 65536) :
    ∃ buffer, stunMessageAppend msg type n =
        .ok ({ msg with buffer }, some (20 + (encodeAll rs).length + 4)) ∧
      Laid na { msg with buffer } ty id
        (rs ++ [attributeOf na (hasCookie id) (msg.wireType type) old hn]) tail := by
  obtain ⟨buffer, happ, hfilled⟩ := append_filled type h hhd hold hpad (by omega) hn
  refine ⟨buffer, happ, hfilled.laid ?_⟩
  rw [encodeAll_append, encodeAll_singleton, List.length_append, attributeOf_encode_length, hold]
  omega

/-- Storing the value of the last attribute. -/
lemma writeValue_filled {cookie : Bool} {wtype : StunAttribute} {old v : Bytes}
    {hold : old.length + 3 < 65536}
    (h : Filled na msg ty id (rs ++ [attributeOf na cookie wtype old hold]) tail)
    (hv : v.length = old.length) :
    ∃ buffer, writeSlice msg.buffer (20 + (encodeAll rs).length + 4) v = .ok buffer ∧
      Filled na { msg with buffer } ty id
        (rs ++ [attributeOf na cookie wtype v (hv ▸ hold)]) tail := by
  set pre := ty ++ be16 (encodeAll (rs ++ [attributeOf na cookie wtype old hold])).length ++ id ++
    encodeAll rs ++ be16 wtype.toNat ++
    be16 (attributeOf na cookie wtype old hold).len.toNat with hpre
  have hprelen : pre.length = 20 + (encodeAll rs).length + 4 := by
    simp only [hpre, List.length_append, h.ty_length, h.id_length, be16_length]
  have hbuf : msg.buffer = pre ++ (old ++ (wirePadding na old.length ++ tail)) := by
    rw [h.buffer, hpre, encodeAll_append, encodeAll_singleton, Tlv.encode]
    simp only [attributeOf, List.append_assoc]
  have hlenrec : (attributeOf na cookie wtype v (hv ▸ hold)).len =
      (attributeOf na cookie wtype old hold).len := by
    simp only [attributeOf, hv]
  have henclen : (encodeAll (rs ++ [attributeOf na cookie wtype v (hv ▸ hold)])).length =
      (encodeAll (rs ++ [attributeOf na cookie wtype old hold])).length := by
    rw [encodeAll_append, encodeAll_append, encodeAll_singleton, encodeAll_singleton,
      List.length_append, List.length_append, attributeOf_encode_length,
      attributeOf_encode_length, hv]
  have henc : encodeAll (rs ++ [attributeOf na cookie wtype v (hv ▸ hold)]) = encodeAll rs ++
      (be16 wtype.toNat ++ be16 (attributeOf na cookie wtype old hold).len.toNat ++
        (v ++ wirePadding na old.length)) := by
    rw [encodeAll_append, encodeAll_singleton, Tlv.encode, hlenrec]
    simp only [attributeOf, hv]
  refine ⟨pre ++ (v ++ (wirePadding na old.length ++ tail)), ?_, h.noAligned, h.ty_length,
    h.id_length, henclen ▸ h.lt, ?_⟩
  · rw [hbuf, writeSlice_append hprelen hv.symm]
  · rw [henclen, henc, hpre]
    simp only [List.append_assoc]

lemma writeValue_laid {cookie : Bool} {wtype : StunAttribute} {old v : Bytes}
    {hold : old.length + 3 < 65536}
    (h : Laid na msg ty id (rs ++ [attributeOf na cookie wtype old hold]) tail)
    (hv : v.length = old.length) :
    ∃ buffer, writeSlice msg.buffer (20 + (encodeAll rs).length + 4) v = .ok buffer ∧
      Laid na { msg with buffer } ty id
        (rs ++ [attributeOf na cookie wtype v (hv ▸ hold)]) tail := by
  have hlt := h.lt
  obtain ⟨buffer, hwrite, hfilled⟩ := writeValue_filled h.filled hv
  refine ⟨buffer, hwrite, hfilled.laid ?_⟩
  rw [encodeAll_append, encodeAll_singleton, List.length_append, attributeOf_encode_length] at hlt ⊢
  rw [hv]
  exact hlt

/-- `stun_message_append_bytes` adds an attribute with the given value. -/
theorem appendBytes_filled (type : StunAttribute) {room data : Bytes}
    (h : Laid na msg ty id rs (room ++ tail))
    (hroom : room.length = 4 + attributeStep na data.length)
    (hlt : (encodeAll rs).length + 4 + attributeStep na data.length < 65536)
    (hdata : data.length + 3 < 65536) :
    ∃ buffer, stunMessageAppendBytes msg type data = .ok ({ msg with buffer }, .success) ∧
      Filled na { msg with buffer } ty id
        (rs ++ [attributeOf na (hasCookie id) (msg.wireType type) data hdata]) tail := by
  have hpad := wirePadding_length na data.length
  obtain ⟨hd, old, pad, rfl, hhd, hold, hpadlen⟩ : ∃ hd old pad : Bytes,
      room = hd ++ (old ++ pad) ∧ hd.length = 4 ∧ old.length = data.length ∧
        pad.length = (wirePadding na data.length).length := by
    refine ⟨room.take 4, (room.drop 4).take data.length, (room.drop 4).drop data.length, ?_, ?_,
      ?_, ?_⟩
    · rw [List.take_append_drop, List.take_append_drop]
    · rw [List.length_take]; omega
    · rw [List.length_take, List.length_drop]; omega
    · rw [List.length_drop, List.length_drop]; omega
  rw [List.append_assoc, List.append_assoc] at h
  obtain ⟨b₁, happ, hfilled⟩ := append_filled type h hhd hold hpadlen hlt (hold ▸ hdata)
  obtain ⟨b₂, hwrite, hfilled'⟩ := writeValue_filled hfilled hold.symm
  refine ⟨b₂, ?_, hfilled'⟩
  rw [stunMessageAppendBytes, happ]
  simp only [bind, Except.bind, hwrite]
  rfl

theorem appendBytes_laid (type : StunAttribute) {room data : Bytes}
    (h : Laid na msg ty id rs (room ++ tail))
    (hroom : room.length = 4 + attributeStep na data.length)
    (hlt : 20 + (encodeAll rs).length + 4 + attributeStep na data.length < 65536)
    (hdata : data.length + 3 < 65536) :
    ∃ buffer, stunMessageAppendBytes msg type data = .ok ({ msg with buffer }, .success) ∧
      Laid na { msg with buffer } ty id
        (rs ++ [attributeOf na (hasCookie id) (msg.wireType type) data hdata]) tail := by
  obtain ⟨buffer, happ, hfilled⟩ := appendBytes_filled type h hroom (by omega) hdata
  refine ⟨buffer, happ, hfilled.laid ?_⟩
  rw [encodeAll_append, encodeAll_singleton, List.length_append, attributeOf_encode_length]
  omega

end Append

end LibNice.Stun
