import LibNice.Stun.Reply

/-!
Appending an attribute to a message that stands in a larger buffer.

* `AppendCall`: the calls that append an attribute, `stun_message_append_error` among them.
* `Appends`: a call adds its attribute to a message, or changes nothing.
* `appendBytes_success`, `appendBytes_frame`: what a store does, wherever it goes.
* `append_atomic_iff`: **appending is atomic** exactly when the call is refused, or the attribute
  fits the buffer with its padding and the message its length field; `append_atomic_padding` is a
  message whose padding is written behind the buffer.
-/

namespace LibNice.Stun

open LibNice.Foundation

/-! ### The calls -/

/-- A call that appends an attribute, of any kind. -/
inductive AppendCall where
  | plain (op : Append)
  | error (code : ℕ)

namespace AppendCall

/-- The call itself. -/
def run (msg : StunMessage) : AppendCall → Except Fault (StunMessage × StunMessageReturn)
  | plain op => op.run msg
  | error code => stunMessageAppendError msg code

/-- The type of the attribute. -/
def type : AppendCall → StunAttribute
  | plain op => op.type
  | error _ => STUN_ATTRIBUTE_ERROR_CODE

/-- The value of the attribute. -/
def value (id : Vector UInt8 16) : AppendCall → Bytes
  | plain op => op.value id
  | error code => errorValue code

/-- The calls that do not refuse the address they are given. -/
def Supported : AppendCall → Prop
  | plain op => op.Supported
  | error _ => True

end AppendCall

/-- The transaction id of a block of bytes. -/
def blockId (b : Bytes) : Vector UInt8 16 := Vector.ofFn fun i => b.getD (4 + i) 0

/-- The attribute `r` has the type `type` and the value `v`. -/
structure IsAttribute (na cookie : Bool) (type : StunAttribute) (v : Bytes) (r : Attribute na) :
    Prop where
  type : r.type = type
  len : r.len.toNat = wireLength na cookie v.length
  body : r.body = v ++ wirePadding na v.length

/-- In `msg'` the attribute `r` stands behind those of the message of `m` bytes in `msg`; the
message is well-formed and lies in the buffer. -/
structure Extended (na : Bool) (msg msg' : StunMessage) (m : ℕ) (r : Attribute na) : Prop where
  valid : stunMessageValidateBufferLength msg'.buffer (!na) = .ok ↑(m + r.encode.length)
  fits : m + r.encode.length ≤ msg.bufferLen
  attributes : (msg'.buffer.take (m + r.encode.length)).drop 20 =
    (msg.buffer.take m).drop 20 ++ r.encode

/-- The call stays inside the buffer, and either adds its attribute to the message of `m` bytes in
`msg` or fails and changes nothing. -/
def Appends (msg : StunMessage) (m : ℕ) (call : AppendCall) : Prop :=
  ∃ msg' val, call.run msg = .ok (msg', val) ∧ msg'.bufferLen = msg.bufferLen ∧
    (val = .success → ∃ r : Attribute msg.noAligned, Extended msg.noAligned msg msg' m r ∧
      IsAttribute msg.noAligned (hasCookie (blockId msg.buffer).toList) (msg.wireType call.type)
        (call.value (blockId msg.buffer)) r) ∧
    (val ≠ .success → msg' = msg)

/-- The call is refused, or its attribute fits a buffer of `c` bytes with its padding and the
message `b` its length field. -/
def AppendCall.Fits (na : Bool) (b : Bytes) (c : ℕ) (call : AppendCall) : Prop :=
  ¬ call.Supported ∨
    c < b.length % 65536 + STUN_ATTRIBUTE_HEADER_LENGTH + (call.value (blockId b)).length ∨
    b.length < 65536 ∧
      b.length + STUN_ATTRIBUTE_HEADER_LENGTH + attributeStep na (call.value (blockId b)).length ≤
        c ∧
      b.length + STUN_ATTRIBUTE_HEADER_LENGTH + attributeStep na (call.value (blockId b)).length ≤
        STUN_MESSAGE_HEADER_LENGTH + 65535

/-! ### Ids and addresses -/

lemma blockId_toList {b : Bytes} (h : 20 ≤ b.length) :
    (blockId b).toList = (b.drop 4).take 16 := by
  refine List.ext_getElem (by simp; omega) fun i hi hi' => ?_
  have h16 : i < 16 := by simpa using hi
  simp [blockId, List.getD_eq_getElem?_getD, List.getElem?_eq_getElem (show 4 + i < b.length by
    omega)]

lemma blockId_append {b rest : Bytes} (h : 20 ≤ b.length) : blockId (b ++ rest) = blockId b := by
  refine Vector.toList_inj.mp ?_
  rw [blockId_toList h, blockId_toList (by rw [List.length_append]; omega),
    List.drop_append_of_le_length (by omega), List.take_append_of_le_length (by simp; omega)]

lemma readVector_blockId {b : Bytes} (h : 20 ≤ b.length) :
    readVector b 4 16 = .ok (blockId b) := by
  rw [readVector, dif_pos (by omega)]
  congr 1
  refine Vector.toList_inj.mp ?_
  rw [blockId_toList h]
  rfl

/-- An address that is not supported is refused. -/
lemma appendAddr_unsupported (msg : StunMessage) (type : StunAttribute) {a : Sockaddr}
    {addrlen : ℕ} (ha : ¬ a.Supported addrlen) :
    ∃ val, stunMessageAppendAddr msg type a addrlen = .ok (msg, val) ∧ val ≠ .success := by
  unfold stunMessageAppendAddr
  by_cases hlen : addrlen < SIZEOF_SOCKADDR
  · exact ⟨.invalid, if_pos hlen, by decide⟩
  rw [if_neg hlen]
  cases a with
  | ip4 port addr => exact absurd (Nat.le_of_not_lt hlen) ha
  | ip6 port addr => exact ⟨.invalid, if_pos (Nat.lt_of_not_le ha), by decide⟩
  | other => exact ⟨.unsupportedAddress, rfl, by decide⟩

lemma appendXorAddr_unsupported (msg : StunMessage) (type : StunAttribute) {a : Sockaddr}
    {addrlen : ℕ} (ha : ¬ a.Supported addrlen) :
    ∃ val, stunMessageAppendXorAddr msg type a addrlen = .ok (msg, val) ∧ val ≠ .success := by
  unfold stunMessageAppendXorAddr stunMessageAppendXorAddrFull
  dsimp only
  cases a with
  | ip4 port addr =>
      have hlen : addrlen < SIZEOF_SOCKADDR_IN := Nat.lt_of_not_le ha
      have hclip : ¬ addrlen > SIZEOF_SOCKADDR_STORAGE := by
        rw [SIZEOF_SOCKADDR_IN] at hlen
        rw [SIZEOF_SOCKADDR_STORAGE]
        omega
      rw [if_neg hclip, stunXorAddress.eq_def]
      dsimp only
      rw [if_pos hlen]
      exact ⟨.invalid, rfl, by decide⟩
  | ip6 port addr =>
      have hlen : addrlen < SIZEOF_SOCKADDR_IN6 := Nat.lt_of_not_le ha
      have hclip : ¬ addrlen > SIZEOF_SOCKADDR_STORAGE := by
        rw [SIZEOF_SOCKADDR_IN6] at hlen
        rw [SIZEOF_SOCKADDR_STORAGE]
        omega
      rw [if_neg hclip, stunXorAddress.eq_def]
      dsimp only
      rw [if_pos hlen]
      exact ⟨.invalid, rfl, by decide⟩
  | other => exact ⟨.unsupportedAddress, rfl, by decide⟩

namespace AppendCall

variable {call : AppendCall} {msg : StunMessage}

lemma run_unsupported (msg : StunMessage) (h : ¬ call.Supported) :
    ∃ val, call.run msg = .ok (msg, val) ∧ val ≠ .success := by
  cases call with
  | error code => exact absurd trivial h
  | plain op =>
      cases op with
      | bytes type data => exact absurd trivial h
      | flag type => exact absurd trivial h
      | word32 type value => exact absurd trivial h
      | word64 type value => exact absurd trivial h
      | addr type a addrlen => exact appendAddr_unsupported msg type h
      | xorAddr type a addrlen => exact appendXorAddr_unsupported msg type h

/-- A call that refuses no address appends its value. -/
lemma run_supported (h20 : 20 ≤ msg.buffer.length) (h : call.Supported) :
    call.run msg = stunMessageAppendBytes msg call.type (call.value (blockId msg.buffer)) := by
  cases call with
  | error code => rfl
  | plain op => exact Append.run_of_id (readVector_blockId h20) h

end AppendCall

/-! ### Stores -/

section Stores

variable {msg msg' : StunMessage} {len : UInt16} {type : StunAttribute} {data : Bytes}
  {val : StunMessageReturn}

/-- A store of a word leaves what lies behind it. -/
lemma stunSetw_frame {b b' : Bytes} {i v j : ℕ} (h : stunSetw b i v = .ok b') (hj : i + 2 ≤ j) :
    b'[j]? = b[j]? :=
  writeSlice_getElem? h hj

lemma stunSetw_length {b b' : Bytes} {i v : ℕ} (h : stunSetw b i v = .ok b') :
    b'.length = b.length :=
  (writeSlice_eq_ok h).1

/-- The length field and the padding of an attribute leave what lies behind it. -/
lemma storeLengthAndPadding_frame {a n p : ℕ} {b : Bytes}
    (h : storeLengthAndPadding msg a n = .ok (b, p)) :
    b.length = msg.bufferLen ∧
      ∀ j, a + 4 + attributeStep msg.noAligned n ≤ j → b[j]? = msg.buffer[j]? := by
  have hstep := le_attributeStep msg.noAligned n
  unfold storeLengthAndPadding at h
  by_cases hna : msg.noAligned = true
  · rw [if_pos hna] at h
    obtain ⟨b₁, hset, hret⟩ := bind_eq_ok.mp h
    obtain ⟨rfl, -⟩ := Prod.mk.inj (Except.ok.inj hret)
    exact ⟨stunSetw_length hset, fun j hj => stunSetw_frame hset (by omega)⟩
  · rw [if_neg hna] at h
    have hfalse : msg.noAligned = false := by simpa using hna
    obtain ⟨cookie, -, h⟩ := bind_eq_ok.mp h
    obtain ⟨b₁, hset, h⟩ := bind_eq_ok.mp h
    obtain ⟨b₂, hpad, hret⟩ := bind_eq_ok.mp h
    obtain ⟨rfl, -⟩ := Prod.mk.inj (Except.ok.inj hret)
    refine ⟨(writeSlice_eq_ok hpad).1.trans (stunSetw_length hset), fun j hj => ?_⟩
    have hpadded := stunAlign_eq n
    rw [hfalse] at hj
    simp only [attributeStep, Bool.false_eq_true, if_false] at hj
    rw [writeSlice_getElem? hpad (by rw [List.length_replicate]; omega),
      stunSetw_frame hset (by omega)]

/-- An attribute without room is refused. -/
lemma appendBytes_refused (hlen : stunMessageLength msg = .ok len)
    (hfull : msg.bufferLen < len.toNat + STUN_ATTRIBUTE_HEADER_LENGTH + data.length) :
    stunMessageAppendBytes msg type data = .ok (msg, .notEnoughSpace) := by
  rw [stunMessageAppendBytes, stunMessageAppend, hlen]
  simp only [bind, Except.bind]
  rw [if_pos hfull]
  rfl

/-- An attribute with room for its value is not refused, and its stores leave what lies behind
them. -/
lemma appendBytes_frame (hlen : stunMessageLength msg = .ok len)
    (hroom : len.toNat + STUN_ATTRIBUTE_HEADER_LENGTH + data.length ≤ msg.bufferLen)
    (h : stunMessageAppendBytes msg type data = .ok (msg', val)) :
    val = .success ∧ ∀ j, 4 ≤ j → len.toNat + 4 + attributeStep msg.noAligned data.length ≤ j →
      msg'.buffer[j]? = msg.buffer[j]? := by
  have hstep := le_attributeStep msg.noAligned data.length
  unfold stunMessageAppendBytes at h
  obtain ⟨⟨m₁, ptr⟩, happ, h⟩ := bind_eq_ok.mp h
  unfold stunMessageAppend at happ
  rw [hlen] at happ
  obtain ⟨_, ⟨⟩, happ⟩ := bind_eq_ok.mp happ
  rw [if_neg (Nat.not_lt_of_le hroom)] at happ
  dsimp only at happ
  obtain ⟨b₁, htype, happ⟩ := bind_eq_ok.mp happ
  obtain ⟨⟨b₂, p⟩, hstore, happ⟩ := bind_eq_ok.mp happ
  obtain ⟨b₃, hset, hret⟩ := bind_eq_ok.mp happ
  obtain ⟨rfl, rfl⟩ := Prod.mk.inj (Except.ok.inj hret)
  obtain ⟨b₄, hwrite, hret⟩ := bind_eq_ok.mp h
  obtain ⟨rfl, rfl⟩ := Prod.mk.inj (Except.ok.inj hret)
  obtain ⟨-, hbehind⟩ := storeLengthAndPadding_frame hstore
  refine ⟨rfl, fun j h4 hj => ?_⟩
  change b₄[j]? = _
  rw [writeSlice_getElem? hwrite (by omega),
    stunSetw_frame hset (by rw [STUN_MESSAGE_LENGTH_POS]; omega), hbehind j hj]
  exact stunSetw_frame htype (by omega)

end Stores

/-! ### Well-formed messages -/

section Messages

variable {na : Bool} {msg : StunMessage} {b rest : Bytes}

/-- A well-formed message of less than 65536 bytes, with what stands behind it, is laid out as its
attributes. -/
lemma Framed.laid (hna : msg.noAligned = na) (hb : Framed (!na) b b.length)
    (hlt : b.length < 65536) (hbuf : msg.buffer = b ++ rest) :
    ∃ (hi lo : UInt8) (rs : List (Attribute na)),
      Laid na msg [hi, lo] (blockId b).toList rs rest ∧ hi < 64 ∧
        20 + (encodeAll rs).length = b.length ∧ b.drop 20 = encodeAll rs := by
  have h20 := hb.twenty_le
  have hlen := hb.len
  have hbits := hb.bits
  obtain ⟨rs, hrs⟩ : Tiled (attributeStep na) (b.drop 20) := by
    have := hb.tiled
    rwa [List.take_of_length_le le_rfl, Bool.not_not] at this
  have hsize : 20 + (encodeAll rs).length = b.length := by
    rw [← hrs, List.length_drop]
    omega
  obtain ⟨hi, lo, l₁, l₂, tail, rfl⟩ := exists_four (show 4 ≤ b.length by omega)
  have hword : (word16 l₁ l₂).toNat = (encodeAll rs).length := by
    have hm : (word16 l₁ l₂).toNat + 20 = messageLen (hi :: lo :: l₁ :: l₂ :: tail) := rfl
    omega
  refine ⟨hi, lo, rs, ⟨hna, rfl, by simp, by omega, ?_⟩, hbits, hsize, hrs⟩
  have htail : tail = tail.take 16 ++ encodeAll rs := by
    rw [← hrs]
    exact (List.take_append_drop 16 tail).symm
  rw [hbuf, blockId_toList h20, ← hword, be16_word16]
  change hi :: lo :: l₁ :: l₂ :: (tail ++ rest) =
    hi :: lo :: l₁ :: l₂ :: (tail.take 16 ++ encodeAll rs ++ rest)
  rw [← htail]

/-- The length of a well-formed message, in 16 bits. -/
lemma Framed.messageLength (hb : Framed (!na) b b.length) (hbuf : msg.buffer = b ++ rest) :
    ∃ len : UInt16, stunMessageLength msg = .ok len ∧ len.toNat = b.length % 65536 := by
  have h20 := hb.twenty_le
  have h4 : 4 ≤ msg.buffer.length := by
    rw [hbuf, List.length_append]
    omega
  obtain ⟨len, hlen, hval⟩ := stunMessageLength_eq h4
  refine ⟨len, hlen, ?_⟩
  rw [hval, hbuf, messageLen_append (by omega), ← hb.len]

/-- An attribute with a given value has its length. -/
lemma IsAttribute.encode_length {cookie : Bool} {type : StunAttribute} {v : Bytes}
    {r : Attribute na} (h : IsAttribute na cookie type v r) :
    r.encode.length = 4 + attributeStep na v.length := by
  rw [Tlv.encode_length, h.len, wireLength_step]

/-- The length field of a message holds 16 bits. -/
lemma length_le_of_valid {b : Bytes} {hasPadding : Bool} {m : ℕ}
    (h : stunMessageValidateBufferLength b hasPadding = .ok (m : ℤ)) : m ≤ 20 + 65535 := by
  rcases Nat.eq_zero_or_pos m with rfl | hpos
  · exact Nat.zero_le _
  obtain ⟨m', hm, hframed⟩ := framed_of_validate h (by exact_mod_cast hpos)
  obtain rfl : m = m' := by exact_mod_cast hm
  have hword := (word16 (b.getD 2 0) (b.getD 3 0)).toNat_lt
  rw [hframed.len, messageLen]
  omega

/-- An attribute that fits is appended, wherever the message stands. -/
lemma appendBytes_extends {type : StunAttribute} {data : Bytes} (hna : msg.noAligned = na)
    (hb : Framed (!na) b b.length) (hlt : b.length < 65536) (hbuf : msg.buffer = b ++ rest)
    (hroom : b.length + 4 + attributeStep na data.length ≤ msg.bufferLen)
    (hfield : b.length + 4 + attributeStep na data.length ≤ 20 + 65535) :
    ∃ msg', stunMessageAppendBytes msg type data = .ok (msg', .success) ∧
      msg'.bufferLen = msg.bufferLen ∧
      ∃ r : Attribute na, Extended na msg msg' b.length r ∧
        IsAttribute na (hasCookie (blockId msg.buffer).toList) (msg.wireType type) data r := by
  obtain ⟨hi, lo, rs, hlaid, hhi, hsize, hrs⟩ := hb.laid hna hlt hbuf
  have hstep := le_attributeStep na data.length
  have hrest : b.length + rest.length = msg.bufferLen := by
    rw [StunMessage.bufferLen, hbuf, List.length_append]
  have hdata : data.length + 3 < 65536 := by omega
  obtain ⟨room, tail, rfl, hlen⟩ : ∃ room tail, rest = room ++ tail ∧
      room.length = 4 + attributeStep na data.length :=
    ⟨rest.take (4 + attributeStep na data.length), rest.drop (4 + attributeStep na data.length),
      (List.take_append_drop _ rest).symm, by
        rw [List.length_take]
        omega⟩
  obtain ⟨buffer, happ, hfilled⟩ := appendBytes_filled type hlaid hlen (by omega) hdata
  have hid : blockId msg.buffer = blockId b := by rw [hbuf, blockId_append (by omega)]
  rw [← hid] at hfilled
  set r := attributeOf na (hasCookie (blockId msg.buffer).toList) (msg.wireType type) data hdata
  have hr : IsAttribute na (hasCookie (blockId msg.buffer).toList) (msg.wireType type) data r := by
    refine ⟨rfl, ?_, rfl⟩
    have hwire := le_attributeStep na
      (wireLength na (hasCookie (blockId msg.buffer).toList) data.length)
    rw [wireLength_step] at hwire
    exact Nat.mod_eq_of_lt (by omega)
  have htotal : b.length + r.encode.length = 20 + (encodeAll (rs ++ [r])).length := by
    rw [encodeAll_append, encodeAll_singleton, List.length_append]
    omega
  have hall := hfilled.attributes
  rw [← htotal, encodeAll_append, encodeAll_singleton, ← hrs] at hall
  refine ⟨_, happ, ?_, r, ⟨?_, ?_, ?_⟩, hr⟩
  · change buffer.length = _
    have hbuffer := congrArg List.length hfilled.buffer
    simp only [List.length_append, hfilled.ty_length, hfilled.id_length, be16_length] at hbuffer
    rw [hbuffer, ← hrest, List.length_append, hlen, ← hr.encode_length]
    omega
  · rw [htotal]
    exact validate_of_framed (hfilled.framed hhi)
  · rw [hr.encode_length]
    omega
  · rw [hall, hbuf, List.take_left]

end Messages

/-! ### The condition -/

section Condition

variable {msg : StunMessage} {b rest : Bytes} {c : ℕ} {call : AppendCall}

/-- The header of a message stands in front of its buffer. -/
lemma header_of_buffer (h20 : 20 ≤ b.length) (hbuf : msg.buffer = b ++ rest) :
    20 ≤ msg.buffer.length ∧ blockId msg.buffer = blockId b := by
  rw [hbuf, List.length_append, blockId_append h20]
  exact ⟨by omega, rfl⟩

lemma bufferLen_of_filled (hbuf : msg.buffer = b ++ List.replicate (c - b.length) 255)
    (hc : b.length ≤ c) : msg.bufferLen = c := by
  rw [StunMessage.bufferLen, hbuf, List.length_append, List.length_replicate]
  omega

/-- A call that has room for its value appends an attribute, if it is atomic, and stores nothing
behind it. -/
lemma Appends.of_room (h : Appends msg b.length call) (hb : Framed (!msg.noAligned) b b.length)
    (hbuf : msg.buffer = b ++ rest) (hcall : call.Supported)
    (hroom : b.length % 65536 + STUN_ATTRIBUTE_HEADER_LENGTH +
      (call.value (blockId b)).length ≤ msg.bufferLen) :
    ∃ (msg' : StunMessage) (r : Attribute msg.noAligned),
      Extended msg.noAligned msg msg' b.length r ∧
      IsAttribute msg.noAligned (hasCookie (blockId b).toList) (msg.wireType call.type)
        (call.value (blockId b)) r ∧
      ∀ j, 4 ≤ j → b.length % 65536 + 4 + attributeStep msg.noAligned
        (call.value (blockId b)).length ≤ j → msg'.buffer[j]? = msg.buffer[j]? := by
  obtain ⟨msg', val, hrun, -, hsuccess, -⟩ := h
  obtain ⟨hlong, hid⟩ := header_of_buffer hb.twenty_le hbuf
  obtain ⟨len, hlen, hval⟩ := hb.messageLength hbuf
  rw [call.run_supported hlong hcall, hid] at hrun
  obtain ⟨hok, hframe⟩ := appendBytes_frame hlen (by rw [hval]; exact hroom) hrun
  obtain ⟨r, hext, hr⟩ := hsuccess hok
  rw [hid] at hr
  rw [hval] at hframe
  exact ⟨msg', r, hext, hr, hframe⟩

/-- A call that fits appends its attribute, and one that is refused changes nothing. -/
lemma appends_of_fits (hb : Framed (!msg.noAligned) b b.length) (hbuf : msg.buffer = b ++ rest)
    (h : call.Fits msg.noAligned b msg.bufferLen) : Appends msg b.length call := by
  obtain ⟨hlong, hid⟩ := header_of_buffer hb.twenty_le hbuf
  by_cases hcall : call.Supported
  swap
  · obtain ⟨val, hrun, hval⟩ := call.run_unsupported msg hcall
    exact ⟨msg, val, hrun, rfl, fun h => absurd h hval, fun _ => rfl⟩
  have hrun := call.run_supported hlong hcall
  rcases h with h | hfull | ⟨hlt, hroom, hfield⟩
  · exact absurd hcall h
  · obtain ⟨len, hlen, hval⟩ := hb.messageLength hbuf
    rw [← hval, ← hid] at hfull
    rw [appendBytes_refused hlen hfull] at hrun
    exact ⟨msg, _, hrun, rfl, nofun, fun _ => rfl⟩
  · rw [← hid] at hroom hfield
    obtain ⟨msg', happ, hlen, hext⟩ := appendBytes_extends rfl hb hlt hbuf hroom hfield
    exact ⟨msg', _, hrun.trans happ, hlen, fun _ => hext, fun h => absurd rfl h⟩

/-- A message of 65536 bytes or more whose length wraps around gets no attribute: the stores go to
its front, and what stood behind it stays. -/
lemma not_appends_of_wrap (hb : Framed (!msg.noAligned) b b.length)
    (hbuf : msg.buffer = b ++ List.replicate (c - b.length) 255) (hge : 65536 ≤ b.length)
    (hcall : call.Supported)
    (hroom : b.length % 65536 + STUN_ATTRIBUTE_HEADER_LENGTH +
      (call.value (blockId b)).length ≤ c) (hc : b.length ≤ c) :
    ¬ Appends msg b.length call := by
  intro happends
  have h20 := hb.twenty_le
  have hbufferLen := bufferLen_of_filled hbuf hc
  obtain ⟨msg', r, hext, hr, hframe⟩ := happends.of_room hb hbuf hcall (by omega)
  have hsize := hr.encode_length
  have hstep := le_attributeStep msg.noAligned r.len.toNat
  rw [hr.len, wireLength_step, ← hr.len] at hstep
  have hfits := hext.fits
  have hfield := length_le_of_valid hext.valid
  -- the attribute would stand where the buffer holds its old bytes
  have hold : msg'.buffer[b.length + 2]? = some 255 := by
    rw [hframe _ (by omega) (by omega), hbuf, List.getElem?_append_right (by omega),
      List.getElem?_replicate, if_pos (by omega)]
  have hnew : msg'.buffer[b.length + 2]? = some (UInt8.ofNat (r.len.toNat / 256)) := by
    have hbyte := congrArg (fun l => l[b.length - 20 + 2]?) hext.attributes
    have hfront : ((msg.buffer.take b.length).drop 20).length = b.length - 20 := by
      rw [hbuf, List.take_left, List.length_drop]
    rw [List.getElem?_drop, List.getElem?_take, if_pos (by omega),
      List.getElem?_append_right (by omega), hfront, encode_eq] at hbyte
    rw [show b.length + 2 = 20 + (b.length - 20 + 2) by omega, hbyte,
      show b.length - 20 + 2 - (b.length - 20) = 2 by omega]
    rfl
  rw [hold, show r.len.toNat / 256 = 0 by omega] at hnew
  exact absurd (Option.some.inj hnew) (by decide)

/-- A call that has room for its value but does not fit is not atomic. -/
lemma not_appends_of_not_fits (hb : Framed (!msg.noAligned) b b.length)
    (hbuf : msg.buffer = b ++ List.replicate (c - b.length) 255) (hc : b.length ≤ c)
    (h : ¬ call.Fits msg.noAligned b c) : ¬ Appends msg b.length call := by
  unfold AppendCall.Fits at h
  push Not at h
  obtain ⟨hcall, hroom, hover⟩ := h
  rcases Nat.lt_or_ge b.length 65536 with hlt | hge
  swap
  · exact not_appends_of_wrap hb hbuf hge hcall hroom hc
  intro happends
  have h20 := hb.twenty_le
  have hbufferLen := bufferLen_of_filled hbuf hc
  obtain ⟨msg', r, hext, hr, -⟩ := happends.of_room hb hbuf hcall (by omega)
  have hsize := hr.encode_length
  have hfits := hext.fits
  have hfield := length_le_of_valid hext.valid
  rw [STUN_ATTRIBUTE_HEADER_LENGTH, STUN_ATTRIBUTE_VALUE_POS, STUN_MESSAGE_HEADER_LENGTH,
    STUN_MESSAGE_ATTRIBUTES_POS] at hover
  have hroom' := hover hlt (by omega)
  omega

end Condition

/-- **Appending is atomic**, whatever stands behind the message in its buffer of `c` bytes, exactly
when the call is refused, or its attribute fits the buffer with its padding and the message its
length field. -/
theorem append_atomic_iff (msg : StunMessage) (b : Bytes) (c : ℕ) (call : AppendCall)
    (hb : stunMessageValidateBufferLength b (!msg.noAligned) = .ok ↑b.length)
    (hc : b.length ≤ c) :
    (∀ rest : Bytes, b.length + rest.length = c →
      Appends { msg with buffer := b ++ rest } b.length call) ↔ call.Fits msg.noAligned b c := by
  have hframed : Framed (!msg.noAligned) b b.length := by
    have hpos : 0 < b.length := by
      refine Nat.pos_of_ne_zero fun h0 => ?_
      rw [List.eq_nil_of_length_eq_zero h0, validate_nil] at hb
      exact absurd (Except.ok.inj hb) (by decide)
    obtain ⟨m, hm, h⟩ := framed_of_validate hb (by exact_mod_cast hpos)
    obtain rfl : b.length = m := by exact_mod_cast hm
    exact h
  constructor
  · intro h
    by_contra hfits
    have hrest : b.length + (List.replicate (c - b.length) (255 : UInt8)).length = c := by
      rw [List.length_replicate]
      omega
    refine not_appends_of_not_fits ?_ ?_ hc ?_ (h _ hrest)
    · exact hframed
    · rfl
    · exact hfits
  · intro h rest hrest
    refine appends_of_fits ?_ rfl ?_
    · exact hframed
    · change call.Fits msg.noAligned b (b ++ rest).length
      rwa [List.length_append, hrest]

/-- A Binding request without attributes, with the magic cookie. -/
def emptyRequest : Bytes :=
  [0, 1, 0, 0, 0x21, 0x12, 0xa4, 0x42, 1, 2, 3, 4, 5, 6, 7, 8, 9, 10, 11, 12]

/-- A message without an agent, as its attributes are appended. -/
def looseMessage (buffer : Bytes) : StunMessage := ⟨none, buffer, none, [], false⟩

/-- A word is appended to a request in a buffer of 28 bytes. -/
theorem append_atomic_iff_sample :
    Appends (looseMessage (emptyRequest ++ [0, 0, 0, 0, 0, 0, 0, 0])) 20
      (.plain (.word32 STUN_ATTRIBUTE_MAPPED_ADDRESS 7)) := by
  have hfits : (AppendCall.plain (.word32 STUN_ATTRIBUTE_MAPPED_ADDRESS 7)).Fits false
      emptyRequest 28 := .inr (.inr (by decide))
  exact (append_atomic_iff (looseMessage []) emptyRequest 28
    (.plain (.word32 STUN_ATTRIBUTE_MAPPED_ADDRESS 7)) (by decide) (by decide)).mpr hfits
    [0, 0, 0, 0, 0, 0, 0, 0] rfl

/-- **Padding is written behind the buffer**: a value of 5 bytes fits a buffer of 29 bytes, but its
3 bytes of padding do not. -/
theorem append_atomic_padding :
    stunMessageValidateBufferLength emptyRequest true = .ok 20 ∧
      (looseMessage (emptyRequest ++ List.replicate 9 0)).bufferLen = 29 ∧
      stunMessageAppendBytes (looseMessage (emptyRequest ++ List.replicate 9 0))
        STUN_ATTRIBUTE_USERNAME [1, 2, 3, 4, 5] = .error .outOfBounds ∧
      ¬ Appends (looseMessage (emptyRequest ++ List.replicate 9 0)) 20
        (.plain (.bytes STUN_ATTRIBUTE_USERNAME [1, 2, 3, 4, 5])) := by
  have hrun : stunMessageAppendBytes (looseMessage (emptyRequest ++ List.replicate 9 0))
      STUN_ATTRIBUTE_USERNAME [1, 2, 3, 4, 5] = .error .outOfBounds := by decide
  refine ⟨by decide, rfl, hrun, ?_⟩
  rintro ⟨msg', val, h, -⟩
  cases hrun.symm.trans h

end LibNice.Stun
