import LibNice.Stun.Attributes

/-!
The attribute codec: what is appended to a message is found in it.

* `Append`: the calls that append an attribute, and `appendAll`, a sequence of
  them.
* `init_laid`, `run_laid`, `appendAll_laid`: a fresh message, the message after
  one call, and the message after a sequence of calls, as lists of attributes.
* `FirstOf`: the call whose attribute a lookup is meant to find.
* `Holds.flag` to `Holds.xorAddr`: the typed lookups read a value back.
* `append_find_round_trip`: the lookups in a message that was built by any
  sequence of calls.
-/

namespace LibNice.Stun

open LibNice.Foundation

/-! ### Sequences of appends -/

/-- A call that appends an attribute. -/
inductive Append where
  | bytes (type : StunAttribute) (data : Bytes)
  | flag (type : StunAttribute)
  | word32 (type : StunAttribute) (value : UInt32)
  | word64 (type : StunAttribute) (value : UInt64)
  | addr (type : StunAttribute) (addr : Sockaddr) (addrlen : ℕ)
  | xorAddr (type : StunAttribute) (addr : Sockaddr) (addrlen : ℕ)

namespace Append

/-- The call itself. -/
def run (msg : StunMessage) : Append → Except Fault (StunMessage × StunMessageReturn)
  | bytes type data => stunMessageAppendBytes msg type data
  | flag type => stunMessageAppendFlag msg type
  | word32 type value => stunMessageAppend32 msg type value
  | word64 type value => stunMessageAppend64 msg type value
  | addr type a addrlen => stunMessageAppendAddr msg type a addrlen
  | xorAddr type a addrlen => stunMessageAppendXorAddr msg type a addrlen

/-- The type of the attribute. -/
def type : Append → StunAttribute
  | bytes type _ | flag type | word32 type _ | word64 type _ | addr type _ _ | xorAddr type _ _ =>
      type

end Append

/-- An IPv4 or IPv6 address in as many bytes as its family needs. -/
def Sockaddr.Supported (addrlen : ℕ) : Sockaddr → Prop
  | ip4 .. => SIZEOF_SOCKADDR_IN ≤ addrlen
  | ip6 .. => SIZEOF_SOCKADDR_IN6 ≤ addrlen
  | other => False

/-- An address masked with the magic cookie and the transaction id. -/
def Sockaddr.masked (id : Vector UInt8 16) : Sockaddr → Sockaddr
  | ip4 port a =>
      .ip4 (port ^^^ (STUN_MAGIC_COOKIE >>> 16).toUInt16)
        (a.zipWith (· ^^^ ·) (⟨(be32 STUN_MAGIC_COOKIE).toArray, rfl⟩ : Vector UInt8 4))
  | ip6 port a => .ip6 (port ^^^ (STUN_MAGIC_COOKIE >>> 16).toUInt16) (a.zipWith (· ^^^ ·) id)
  | other => .other

/-- An address masked with another cookie and the transaction id. -/
def Sockaddr.maskedBy (cookie : UInt32) (id : Vector UInt8 16) : Sockaddr → Sockaddr
  | ip4 port a =>
      .ip4 (port ^^^ (cookie >>> 16).toUInt16)
        (a.zipWith (· ^^^ ·) (⟨(be32 cookie).toArray, be32_length cookie⟩ : Vector UInt8 4))
  | ip6 port a => .ip6 (port ^^^ (cookie >>> 16).toUInt16) (a.zipWith (· ^^^ ·) id)
  | other => .other

lemma Sockaddr.maskedBy_magic (id : Vector UInt8 16) (a : Sockaddr) :
    a.maskedBy STUN_MAGIC_COOKIE id = a.masked id := by
  cases a <;> rfl

namespace Append

/-- The value of the attribute. -/
def value (id : Vector UInt8 16) : Append → Bytes
  | bytes _ data => data
  | flag _ => []
  | word32 _ value => be32 value
  | word64 _ value => be32 (value >>> 32).toUInt32 ++ be32 value.toUInt32
  | addr _ a _ => a.attribute
  | xorAddr _ a _ => (a.masked id).attribute

/-- The calls that do not refuse the address they are given. -/
def Supported : Append → Prop
  | addr _ a addrlen | xorAddr _ a addrlen => a.Supported addrlen
  | _ => True

end Append

/-- The calls `ops` one after the other: the message after them, and what each
returns. -/
def appendAll (msg : StunMessage) : List Append →
    Except Fault (StunMessage × List StunMessageReturn)
  | [] => .ok (msg, [])
  | op :: ops => do
      let (msg, val) ← op.run msg
      let (msg, vals) ← appendAll msg ops
      return (msg, val :: vals)

/-- The size of a message with the attributes of the calls `ops`. -/
def messageSize (na : Bool) (id : Vector UInt8 16) (ops : List Append) : ℕ :=
  20 + (ops.map fun op => 4 + attributeStep na (op.value id).length).sum

variable {na : Bool} {id : Vector UInt8 16}

/-- The attribute `r` of a message with transaction id `id` is the one that `op`
appends. -/
structure Encodes (wire : StunAttribute → StunAttribute) (id : Vector UInt8 16) (op : Append)
    (r : Attribute na) : Prop where
  type : r.type = wire op.type
  len : r.len.toNat = wireLength na (hasCookie id.toList) (op.value id).length
  body : r.body = op.value id ++ wirePadding na (op.value id).length

lemma encodes_attributeOf (wire : StunAttribute → StunAttribute) (op : Append)
    (h : (op.value id).length + 3 < 65536) :
    Encodes wire id op
      (attributeOf na (hasCookie id.toList) (wire op.type) (op.value id) h) := by
  refine ⟨rfl, ?_, rfl⟩
  have := stunAlign_lt (op.value id).length
  rw [attributeOf, UInt16.toNat_ofNat', Nat.mod_eq_of_lt]
  rw [wireLength]
  split <;> omega

/-- A message with enough room for its header is initialised. -/
lemma init_laid {msg : StunMessage} {c : StunClass} {m : StunMethod} (hna : msg.noAligned = na)
    (h : 20 ≤ msg.buffer.length) :
    ∃ buffer tail, stunMessageInit msg c m id.toList = .ok ({ msg with buffer }, true) ∧
      Laid na { msg with buffer } (stunTypeBytes c m) id.toList [] tail ∧
      20 + tail.length = msg.buffer.length := by
  obtain ⟨o₁, o₂, o₃, tail, hbuf, h₁, h₂, h₃⟩ : ∃ o₁ o₂ o₃ tail : Bytes,
      msg.buffer = o₁ ++ (o₂ ++ (o₃ ++ tail)) ∧ o₁.length = 2 ∧ o₂.length = 2 ∧ o₃.length = 16 := by
    refine ⟨msg.buffer.take 2, (msg.buffer.drop 2).take 2, (msg.buffer.drop 4).take 16,
      msg.buffer.drop 20, ?_, ?_, ?_, ?_⟩
    · have h₁ : msg.buffer.drop 20 = (msg.buffer.drop 4).drop 16 := by rw [List.drop_drop]
      have h₂ : msg.buffer.drop 4 = (msg.buffer.drop 2).drop 2 := by rw [List.drop_drop]
      rw [h₁, List.take_append_drop, h₂, List.take_append_drop, List.take_append_drop]
    all_goals simp only [List.length_take, List.length_drop]; omega
  have hw₁ : writeSlice msg.buffer 0 [0, 0, 0, 0] = .ok ([0, 0, 0, 0] ++ (o₃ ++ tail)) := by
    have := @writeSlice_append [] (o₁ ++ o₂) (o₃ ++ tail) [0, 0, 0, 0] 0 rfl (by simp [h₁, h₂])
    simpa [hbuf] using this
  have hw₂ : writeSlice ([0, 0, 0, 0] ++ (o₃ ++ tail)) 0 (stunTypeBytes c m) =
      .ok (stunTypeBytes c m ++ be16 0 ++ (o₃ ++ tail)) := by
    have := @writeSlice_append [] [0, 0] ([0, 0] ++ (o₃ ++ tail)) (stunTypeBytes c m) 0 rfl rfl
    simpa [be16] using this
  have hw₃ : writeSlice (stunTypeBytes c m ++ be16 0 ++ (o₃ ++ tail)) 4 id.toList =
      .ok (stunTypeBytes c m ++ be16 0 ++ (id.toList ++ tail)) := by
    rw [writeSlice_append (by simp [stunTypeBytes]) (by simp [h₃])]
  refine ⟨stunTypeBytes c m ++ be16 0 ++ (id.toList ++ tail), tail, ?_, ⟨hna, rfl, by simp, by simp,
    by simp⟩, ?_⟩
  · rw [stunMessageInit, if_neg (by simp [StunMessage.bufferLen, STUN_MESSAGE_HEADER_LENGTH,
      STUN_MESSAGE_ATTRIBUTES_POS]; omega), hw₁]
    simp only [bind, Except.bind, hw₂, STUN_MESSAGE_TRANS_ID_POS, hw₃]
    rfl
  · rw [hbuf]
    simp only [List.length_append, h₁, h₂, h₃]
    omega

/-- The transaction id of a message, as it is read from the buffer. -/
lemma Laid.readId {msg : StunMessage} {ty tail : Bytes} {rs : List (Attribute na)}
    (h : Laid na msg ty id.toList rs tail) : readVector msg.buffer 4 16 = .ok id := by
  have h4 : (ty ++ be16 (encodeAll rs).length).length = 4 := by
    simp only [List.length_append, h.ty_length, be16_length]
  have := @readVector_append _ (encodeAll rs ++ tail) 4 16 id h4
  simpa [h.buffer] using this

/-- The mask of an address is the one of the transaction id. -/
lemma stunXorAddress_of_id {msg : StunMessage} (hid : readVector msg.buffer 4 16 = .ok id)
    (cookie : UInt32) {a : Sockaddr} {addrlen : ℕ} (ha : a.Supported addrlen) :
    stunXorAddress msg a addrlen cookie = .ok (.success, a.maskedBy cookie id) := by
  cases a with
  | ip4 port a =>
      rw [stunXorAddress, if_neg (by simpa [Sockaddr.Supported] using ha)]
      rfl
  | ip6 port a =>
      rw [stunXorAddress, if_neg (by simpa [Sockaddr.Supported] using ha), hid]
      rfl
  | other => exact ha.elim

lemma stunXorAddress_maskedBy {msg : StunMessage} {ty tail : Bytes} {rs : List (Attribute na)}
    (h : Laid na msg ty id.toList rs tail) (cookie : UInt32) {a : Sockaddr} {addrlen : ℕ}
    (ha : a.Supported addrlen) :
    stunXorAddress msg a addrlen cookie = .ok (.success, a.maskedBy cookie id) :=
  stunXorAddress_of_id h.readId cookie ha

lemma stunXorAddress_laid {msg : StunMessage} {ty tail : Bytes} {rs : List (Attribute na)}
    (h : Laid na msg ty id.toList rs tail) {a : Sockaddr} {addrlen : ℕ}
    (ha : a.Supported addrlen) :
    stunXorAddress msg a addrlen STUN_MAGIC_COOKIE = .ok (.success, a.masked id) := by
  rw [stunXorAddress_maskedBy h _ ha, Sockaddr.maskedBy_magic]

/-- Masking an address twice gives it back. -/
lemma Sockaddr.maskedBy_maskedBy (cookie : UInt32) (a : Sockaddr) :
    (a.maskedBy cookie id).maskedBy cookie id = a := by
  cases a with
  | ip4 port a =>
      simp only [maskedBy, Sockaddr.ip4.injEq]
      constructor
      · rw [UInt16.xor_assoc, UInt16.xor_self, UInt16.xor_zero]
      · ext i hi
        simp [UInt8.xor_assoc]
  | ip6 port a =>
      simp only [maskedBy, Sockaddr.ip6.injEq]
      constructor
      · rw [UInt16.xor_assoc, UInt16.xor_self, UInt16.xor_zero]
      · ext i hi
        simp [UInt8.xor_assoc]
  | other => rfl

lemma Sockaddr.masked_masked (a : Sockaddr) : (a.masked id).masked id = a := by
  rw [← maskedBy_magic, ← maskedBy_magic, maskedBy_maskedBy]

/-- A masked address has the family of the address. -/
lemma Sockaddr.Supported.maskedBy {a : Sockaddr} {addrlen : ℕ} (h : a.Supported addrlen)
    (cookie : UInt32) (id : Vector UInt8 16) : (a.maskedBy cookie id).Supported addrlen := by
  cases a <;> exact h

lemma Sockaddr.attribute_maskedBy_length (a : Sockaddr) (cookie : UInt32) (id : Vector UInt8 16) :
    (a.maskedBy cookie id).attribute.length = a.attribute.length := by
  cases a <;> simp [maskedBy, Sockaddr.attribute]

/-- What `stun_message_append_xor_addr_full` clips the length of an address to does not
matter. -/
lemma Sockaddr.Supported.clip {a : Sockaddr} {addrlen : ℕ} (h : a.Supported addrlen) :
    a.Supported
      (if addrlen > SIZEOF_SOCKADDR_STORAGE then SIZEOF_SOCKADDR_STORAGE else addrlen) := by
  cases a with
  | ip4 port addr =>
      have h16 : 16 ≤ addrlen := h
      rw [Sockaddr.Supported, SIZEOF_SOCKADDR_IN, SIZEOF_SOCKADDR_STORAGE]
      split <;> omega
  | ip6 port addr =>
      have h28 : 28 ≤ addrlen := h
      rw [Sockaddr.Supported, SIZEOF_SOCKADDR_IN6, SIZEOF_SOCKADDR_STORAGE]
      split <;> omega
  | other => exact h.elim

/-- An address that is not refused is appended as it is. -/
lemma appendAddr_supported {msg : StunMessage} (type : StunAttribute) {a : Sockaddr} {addrlen : ℕ}
    (ha : a.Supported addrlen) :
    stunMessageAppendAddr msg type a addrlen = stunMessageAppendBytes msg type a.attribute := by
  cases a with
  | ip4 port addr =>
      rw [stunMessageAppendAddr, if_neg (by
        simpa [Sockaddr.Supported, SIZEOF_SOCKADDR, SIZEOF_SOCKADDR_IN] using ha)]
  | ip6 port addr =>
      have h28 : 28 ≤ addrlen := ha
      rw [stunMessageAppendAddr, if_neg (by rw [SIZEOF_SOCKADDR]; omega)]
      exact if_neg (by rw [SIZEOF_SOCKADDR_IN6]; omega)
  | other => exact ha.elim

lemma appendXorAddrFull_of_id {msg : StunMessage} (hid : readVector msg.buffer 4 16 = .ok id)
    (type : StunAttribute) (cookie : UInt32) {a : Sockaddr} {addrlen : ℕ}
    (ha : a.Supported addrlen) :
    stunMessageAppendXorAddrFull msg type a addrlen cookie =
      stunMessageAppendBytes msg type (a.maskedBy cookie id).attribute := by
  have hxor := stunXorAddress_of_id hid cookie ha.clip
  rw [stunMessageAppendXorAddrFull, hxor]
  simp only [bind, Except.bind, if_true]
  exact appendAddr_supported type (ha.clip.maskedBy cookie id)

lemma appendXorAddrFull_supported {msg : StunMessage} {ty tail : Bytes} {rs : List (Attribute na)}
    (h : Laid na msg ty id.toList rs tail) (type : StunAttribute) (cookie : UInt32) {a : Sockaddr}
    {addrlen : ℕ} (ha : a.Supported addrlen) :
    stunMessageAppendXorAddrFull msg type a addrlen cookie =
      stunMessageAppendBytes msg type (a.maskedBy cookie id).attribute :=
  appendXorAddrFull_of_id h.readId type cookie ha

/-- A call that refuses no address appends its value. -/
lemma Append.run_of_id {msg : StunMessage} (hid : readVector msg.buffer 4 16 = .ok id)
    {op : Append} (hop : op.Supported) :
    op.run msg = stunMessageAppendBytes msg op.type (op.value id) := by
  cases op with
  | bytes type data => rfl
  | flag type => rfl
  | word32 type value => rfl
  | word64 type value => rfl
  | addr type a addrlen => exact appendAddr_supported type hop
  | xorAddr type a addrlen =>
      change stunMessageAppendXorAddr msg type a addrlen =
        stunMessageAppendBytes msg type (a.masked id).attribute
      rw [stunMessageAppendXorAddr, appendXorAddrFull_of_id hid type _ hop,
        Sockaddr.maskedBy_magic]

/-- One call adds one attribute. -/
lemma run_laid {msg : StunMessage} {ty room tail : Bytes} {rs : List (Attribute na)} {op : Append}
    (h : Laid na msg ty id.toList rs (room ++ tail)) (hop : op.Supported)
    (hroom : room.length = 4 + attributeStep na (op.value id).length)
    (hlt : 20 + (encodeAll rs).length + 4 + attributeStep na (op.value id).length < 65536)
    (hv : (op.value id).length + 3 < 65536) :
    ∃ buffer, op.run msg = .ok ({ msg with buffer }, .success) ∧
      Laid na { msg with buffer } ty id.toList
        (rs ++ [attributeOf na (hasCookie id.toList) (msg.wireType op.type) (op.value id) hv])
        tail := by
  rw [Append.run_of_id h.readId hop]
  exact appendBytes_laid op.type h hroom hlt hv

/-- A sequence of calls adds one attribute each.  The induction is on the calls;
the room they need is cut off the free room of the message one by one. -/
theorem appendAll_laid {ty : Bytes} (ops : List Append) (hops : ∀ op ∈ ops, op.Supported) :
    ∀ (msg : StunMessage) (rs : List (Attribute na)) (tail : Bytes),
      Laid na msg ty id.toList rs tail →
      (encodeAll rs).length + messageSize na id ops < 65536 →
      messageSize na id ops ≤ 20 + tail.length →
      ∃ buffer rs' tail', appendAll msg ops =
          .ok ({ msg with buffer }, List.replicate ops.length .success) ∧
        Laid na { msg with buffer } ty id.toList (rs ++ rs') tail' ∧
        List.Forall₂ (Encodes msg.wireType id) ops rs' ∧
        20 + tail.length = messageSize na id ops + tail'.length := by
  induction ops with
  | nil =>
      intro msg rs tail h _ _
      exact ⟨msg.buffer, [], tail, rfl, by simpa using h, .nil, by simp [messageSize]⟩
  | cons op ops ih =>
      intro msg rs tail h hlt hfit
      have hsize : messageSize na id (op :: ops) =
          4 + attributeStep na (op.value id).length + messageSize na id ops := by
        simp only [messageSize, List.map_cons, List.sum_cons]
        omega
      have h20 : 20 ≤ messageSize na id ops := by
        rw [messageSize]
        omega
      have hle := le_attributeStep na (op.value id).length
      have hroom : (tail.take (4 + attributeStep na (op.value id).length)).length =
          4 + attributeStep na (op.value id).length := by
        rw [List.length_take]
        omega
      rw [← List.take_append_drop (4 + attributeStep na (op.value id).length) tail] at h
      obtain ⟨b₁, hrun, hlaid⟩ := run_laid h (hops op (by simp)) hroom (by omega) (by omega)
      obtain ⟨b₂, rs', tail', hall, hlaid', hrs', htail'⟩ :=
        ih (fun o ho => hops o (by simp [ho])) { msg with buffer := b₁ } _ _ hlaid
          (by
            rw [encodeAll_append, encodeAll_singleton, List.length_append,
              attributeOf_encode_length]
            omega)
          (by rw [List.length_drop]; omega)
      rw [List.append_assoc] at hlaid'
      refine ⟨b₂, _ :: rs', tail', ?_, hlaid',
        .cons (encodes_attributeOf msg.wireType op (by omega)) hrs', ?_⟩
      · rw [appendAll, hrun]
        simp only [bind, Except.bind, hall]
        rfl
      · rw [List.length_drop] at htail'
        omega

/-! ### Lookups -/

lemma wireType_inj {msg : StunMessage} {t u : StunAttribute} :
    msg.wireType t = msg.wireType u ↔ t = u := by
  unfold StunMessage.wireType
  have hne : STUN_ATTRIBUTE_REALM ≠ STUN_ATTRIBUTE_NONCE := by decide
  grind

lemma misordered_wireType {msg : StunMessage} {t u : StunAttribute} :
    misordered (msg.wireType t) (msg.wireType u) = misordered t u := by
  have hkeep (v w : StunAttribute) (hr : w ≠ STUN_ATTRIBUTE_REALM)
      (hn : w ≠ STUN_ATTRIBUTE_NONCE) : msg.wireType v = w ↔ v = w := by
    have hw : msg.wireType w = w := by
      unfold StunMessage.wireType
      grind
    calc msg.wireType v = w ↔ msg.wireType v = msg.wireType w := by rw [hw]
      _ ↔ v = w := wireType_inj
  simp only [misordered, ne_eq, hkeep _ STUN_ATTRIBUTE_MESSAGE_INTEGRITY (by decide) (by decide),
    hkeep _ STUN_ATTRIBUTE_FINGERPRINT (by decide) (by decide)]

/-- `op` is the call whose attribute a lookup of `t` is meant to find: the first
one of its type, with no FINGERPRINT before it and, unless the lookup is for a
FINGERPRINT, no MESSAGE-INTEGRITY. -/
def FirstOf (t : StunAttribute) (ops : List Append) (op : Append) : Prop :=
  ∃ pre post, ops = pre ++ op :: post ∧ op.type = t ∧
    ∀ o ∈ pre, o.type ≠ t ∧ o.type ≠ STUN_ATTRIBUTE_FINGERPRINT ∧
      (t ≠ STUN_ATTRIBUTE_FINGERPRINT → o.type ≠ STUN_ATTRIBUTE_MESSAGE_INTEGRITY)

lemma misordered_eq_false {t u : StunAttribute} :
    misordered t u = false ↔ u ≠ STUN_ATTRIBUTE_FINGERPRINT ∧
      (t ≠ STUN_ATTRIBUTE_FINGERPRINT → u ≠ STUN_ATTRIBUTE_MESSAGE_INTEGRITY) := by
  simp only [misordered, decide_eq_false_iff_not, not_or, not_and]
  tauto

/-- The attribute behind a call splits the attributes as the call does the
calls. -/
lemma forall₂_split {α β : Type*} {R : α → β → Prop} {l₁ : List α} {a : α} {l₂ : List α}
    {rs : List β} (h : List.Forall₂ R (l₁ ++ a :: l₂) rs) :
    ∃ r₁ r r₂, rs = r₁ ++ r :: r₂ ∧ List.Forall₂ R l₁ r₁ ∧ R a r ∧ List.Forall₂ R l₂ r₂ := by
  induction l₁ generalizing rs with
  | nil =>
      rw [List.nil_append] at h
      obtain ⟨r, r₂, har, hr₂, rfl⟩ := List.forall₂_cons_left_iff.mp h
      exact ⟨[], r, r₂, rfl, .nil, har, hr₂⟩
  | cons x xs ih =>
      rw [List.cons_append] at h
      obtain ⟨y, ys, hxy, hys, rfl⟩ := List.forall₂_cons_left_iff.mp h
      obtain ⟨r₁, r, r₂, rfl, h₁, har, h₂⟩ := ih hys
      exact ⟨y :: r₁, r, r₂, rfl, .cons hxy h₁, har, h₂⟩

lemma forall₂_mem_right {α β : Type*} {R : α → β → Prop} {l : List α} {rs : List β}
    (h : List.Forall₂ R l rs) {r : β} (hr : r ∈ rs) : ∃ a ∈ l, R a r := by
  induction h with
  | nil => simp at hr
  | cons hab _ ih =>
      rcases List.mem_cons.mp hr with rfl | hr
      · exact ⟨_, by simp, hab⟩
      · obtain ⟨a, ha, har⟩ := ih hr
        exact ⟨a, by simp [ha], har⟩

/-- A lookup of `t` finds the value `v` in the message, padded as it is. -/
def Finds (na : Bool) (id : Vector UInt8 16) (msg : StunMessage) (t : StunAttribute) (v : Bytes) :
    Prop :=
  ∃ ptr len pre post, stunMessageFind msg t = .ok (some (ptr, len)) ∧
    len.toNat = wireLength na (hasCookie id.toList) v.length ∧
    pre.length = ptr ∧ msg.buffer = pre ++ (v ++ (wirePadding na v.length ++ post))

/-- What a lookup finds of a value: the value itself, extended with spaces to a
multiple of 4 in a padded message without the cookie. -/
def foundValue (na : Bool) (id : Vector UInt8 16) (v : Bytes) : Bytes :=
  if na || hasCookie id.toList then v else v ++ List.replicate (stunPadding v.length) 0x20

lemma Finds.value {msg : StunMessage} {t : StunAttribute} {v : Bytes} (h : Finds na id msg t v) :
    ∃ ptr len, stunMessageFind msg t = .ok (some (ptr, len)) ∧
      readSlice msg.buffer ptr len.toNat = .ok (foundValue na id v) := by
  obtain ⟨ptr, len, pre, post, hfind, hlen, rfl, hbuf⟩ := h
  refine ⟨pre.length, len, hfind, readSlice_eq_ok.mpr ⟨.inr ?_, ?_⟩⟩
  · have := wirePadding_length na v.length
    have hle := le_attributeStep na (wireLength na (hasCookie id.toList) v.length)
    rw [wireLength_step] at hle
    rw [hbuf, hlen]
    simp only [List.length_append]
    omega
  · rw [hbuf, List.drop_left, hlen, wireLength, foundValue]
    cases hc : na || hasCookie id.toList with
    | true => simp
    | false =>
        obtain ⟨rfl, -⟩ := Bool.or_eq_false_iff.mp hc
        rw [← List.append_assoc, if_neg (by simp), if_neg (by simp), List.take_left']
        · rfl
        · rw [List.length_append, wirePadding_length]
          rfl

/-- The size of a message is what its attributes take. -/
lemma messageSize_eq {wire : StunAttribute → StunAttribute} {ops : List Append}
    {rs : List (Attribute na)} (h : List.Forall₂ (Encodes wire id) ops rs) :
    20 + (encodeAll rs).length = messageSize na id ops := by
  induction h with
  | nil => rfl
  | @cons op r ops rs hr _ ih =>
      have hbody := r.body_length
      rw [hr.body, List.length_append, wirePadding_length] at hbody
      simp only [messageSize, List.map_cons, List.sum_cons, encodeAll_cons, List.length_append,
        Tlv.encode_length] at ih ⊢
      omega

/-- Where a lookup finds the value of a call: right behind the attributes of the
calls before it. -/
lemma find_at {msg : StunMessage} {ty tail : Bytes} {rs : List (Attribute na)}
    {pre post : List Append} {op : Append} (h : Laid na msg ty id.toList rs tail)
    (hrs : List.Forall₂ (Encodes msg.wireType id) (pre ++ op :: post) rs)
    (hpre : ∀ o ∈ pre, o.type ≠ op.type ∧ o.type ≠ STUN_ATTRIBUTE_FINGERPRINT ∧
      (op.type ≠ STUN_ATTRIBUTE_FINGERPRINT → o.type ≠ STUN_ATTRIBUTE_MESSAGE_INTEGRITY)) :
    ∃ len front rest,
      stunMessageFind msg op.type = .ok (some (messageSize na id pre + 4, len)) ∧
      len.toNat = wireLength na (hasCookie id.toList) (op.value id).length ∧
      front.length = messageSize na id pre + 4 ∧
      msg.buffer = front ++ (op.value id ++ (wirePadding na (op.value id).length ++ rest)) := by
  obtain ⟨r₁, r, r₂, rfl, h₁, hr, h₂⟩ := forall₂_split hrs
  have hscan : scan (misordered (msg.wireType op.type)) (msg.wireType op.type) 20
      (r₁ ++ r :: r₂) = some (20 + (encodeAll r₁).length + 4, r.len) := by
    refine scan_eq_some.mpr ⟨r₁, r, r₂, rfl, hr.type, fun s hs => ?_, rfl⟩
    obtain ⟨o, ho, hos⟩ := forall₂_mem_right h₁ hs
    rw [hos.type, ne_eq, wireType_inj, misordered_wireType, misordered_eq_false]
    exact hpre o ho
  rw [← messageSize_eq h₁]
  refine ⟨r.len, ty ++ be16 (encodeAll (r₁ ++ r :: r₂)).length ++ id.toList ++ encodeAll r₁ ++
    be16 r.type.toNat ++ be16 r.len.toNat, encodeAll r₂ ++ tail, ?_, hr.len, ?_, ?_⟩
  · rw [find_visible h.visible, hscan]
  · simp only [List.length_append, h.ty_length, h.id_length, be16_length]
  · rw [h.buffer]
    simp only [encodeAll_append, encodeAll_cons, Tlv.encode, hr.body, List.append_assoc]

/-- A lookup finds the value of the call it is meant to find. -/
lemma finds_of_firstOf {msg : StunMessage} {ty tail : Bytes} {rs : List (Attribute na)}
    {ops : List Append} (h : Laid na msg ty id.toList rs tail)
    (hrs : List.Forall₂ (Encodes msg.wireType id) ops rs) {t : StunAttribute} {op : Append}
    (hop : FirstOf t ops op) : Finds na id msg t (op.value id) := by
  obtain ⟨pre, post, rfl, rfl, hpre⟩ := hop
  exact ⟨_, find_at h hrs hpre⟩

/-- A lookup that is meant to find nothing finds nothing. -/
lemma find_none_of_firstOf {msg : StunMessage} {ty tail : Bytes} {rs : List (Attribute na)}
    {ops : List Append} (h : Laid na msg ty id.toList rs tail)
    (hrs : List.Forall₂ (Encodes msg.wireType id) ops rs) {t : StunAttribute}
    (hno : ∀ op, ¬ FirstOf t ops op) : stunMessageFind msg t = .ok none := by
  rw [find_visible h.visible]
  congr 1
  refine scan_eq_none.mpr fun r₁ r r₂ hsplit hr => ?_
  subst hsplit
  obtain ⟨pre, op, post, rfl, h₁, hop, -⟩ := forall₂_split (List.Forall₂.flip hrs)
  by_contra hbad
  push Not at hbad
  have htype : op.type = t := wireType_inj.mp (hop.type.symm.trans hr)
  refine hno op ⟨pre, post, rfl, htype, fun o ho => ?_⟩
  obtain ⟨s, hs, hos⟩ := forall₂_mem_right h₁ ho
  have hs' := hbad s hs
  rw [hos.type, ne_eq, wireType_inj, misordered_wireType, ne_eq, Bool.not_eq_true,
    misordered_eq_false] at hs'
  exact hs'

/-! ### Typed lookups -/

section Typed

variable {msg : StunMessage} {t : StunAttribute}

lemma Finds.flag (h : Finds na id msg t []) : stunMessageFindFlag msg t = .ok .success := by
  obtain ⟨ptr, len, pre, post, hfind, hlen, -, -⟩ := h
  have h0 : len = 0 := by
    apply UInt16.toNat_inj.mp
    rw [hlen, wireLength]
    split <;> rfl
  rw [stunMessageFindFlag, hfind]
  simp only [bind, Except.bind, if_pos h0]
  rfl

/-- A value that needs no padding has its own length. -/
lemma Finds.aligned {v : Bytes} (h : Finds na id msg t v) (hv : 4 ∣ v.length) :
    ∃ ptr pre post, stunMessageFind msg t = .ok (some (ptr, UInt16.ofNat v.length)) ∧
      pre.length = ptr ∧ msg.buffer = pre ++ (v ++ post) := by
  obtain ⟨ptr, len, pre, post, hfind, hlen, hpre, hbuf⟩ := h
  have hlen' : len = UInt16.ofNat v.length := by
    have hw : wireLength na (hasCookie id.toList) v.length = v.length := by
      rw [wireLength, stunAlign]
      split <;> omega
    rw [hw] at hlen
    rw [← hlen, UInt16.ofNat_toNat]
  exact ⟨ptr, pre, _, hlen' ▸ hfind, hpre, hbuf⟩

lemma Finds.word32 {value : UInt32} (h : Finds na id msg t (be32 value)) :
    stunMessageFind32 msg t = .ok (.success, some value) := by
  obtain ⟨ptr, pre, post, hfind, hpre, hbuf⟩ := h.aligned (by simp)
  have hread : readWord32 msg.buffer ptr = .ok value := by
    rw [hbuf, ← List.append_assoc, readWord32_append hpre]
  have hlen : UInt16.ofNat (be32 value).length = 4 := rfl
  rw [stunMessageFind32, hfind]
  simp only [bind, Except.bind, if_pos hlen, hread]
  rfl

/-- A 64 bit word is put together from its halves. -/
lemma join_halves (value : UInt64) :
    (value >>> 32).toUInt32.toUInt64 <<< 32 ||| value.toUInt32.toUInt64 = value := by
  have hv := value.toNat_lt
  have hhi : (value >>> 32).toUInt32.toUInt64.toNat = value.toNat / 4294967296 := by
    rw [UInt32.toNat_toUInt64, UInt64.toNat_toUInt32, UInt64.toNat_shiftRight,
      Nat.shiftRight_eq_div_pow]
    simp only [UInt64.reduceToNat, Nat.reduceMod, Nat.reducePow]
    omega
  have hlo : value.toUInt32.toUInt64.toNat = value.toNat % 4294967296 := by
    rw [UInt32.toNat_toUInt64, UInt64.toNat_toUInt32]
  apply UInt64.toNat_inj.mp
  rw [UInt64.toNat_or, UInt64.toNat_shiftLeft, hhi, hlo]
  simp only [UInt64.reduceToNat, Nat.reduceMod, Nat.reducePow]
  have hshift : (value.toNat / 4294967296) <<< 32 % 18446744073709551616 =
      (value.toNat / 4294967296) <<< 32 := by
    rw [Nat.shiftLeft_eq]
    omega
  rw [hshift, ← Nat.shiftLeft_add_eq_or_of_lt (by omega), Nat.shiftLeft_eq]
  omega

lemma Finds.word64 {value : UInt64}
    (h : Finds na id msg t (be32 (value >>> 32).toUInt32 ++ be32 value.toUInt32)) :
    stunMessageFind64 msg t = .ok (.success, some value) := by
  obtain ⟨ptr, pre, post, hfind, hpre, hbuf⟩ := h.aligned (by simp)
  have hhi : readWord32 msg.buffer ptr = .ok (value >>> 32).toUInt32 := by
    rw [hbuf, List.append_assoc, ← List.append_assoc, readWord32_append hpre]
  have hlo : readWord32 msg.buffer (ptr + 4) = .ok value.toUInt32 := by
    have hpre' : (pre ++ be32 (value >>> 32).toUInt32).length = ptr + 4 := by
      rw [List.length_append, hpre, be32_length]
    rw [hbuf, List.append_assoc, ← List.append_assoc, ← List.append_assoc,
      readWord32_append hpre']
  have hlen : UInt16.ofNat (be32 (value >>> 32).toUInt32 ++ be32 value.toUInt32).length = 8 := rfl
  rw [stunMessageFind64, hfind]
  simp only [bind, Except.bind, if_pos hlen, hhi, hlo, pure, Except.pure, join_halves]

/-- The size of an address. -/
def Sockaddr.size : Sockaddr → ℕ
  | ip4 .. => SIZEOF_SOCKADDR_IN
  | ip6 .. => SIZEOF_SOCKADDR_IN6
  | other => 0

lemma Finds.addr {a : Sockaddr} {addrlen room : ℕ} (ha : a.Supported addrlen)
    (h : Finds na id msg t a.attribute) (hroom : SIZEOF_SOCKADDR_IN6 ≤ room) :
    stunMessageFindAddr msg t room = .ok (.success, some a, a.size) := by
  have h28 : 28 ≤ room := hroom
  cases a with
  | ip4 port addr =>
      obtain ⟨ptr, pre, post, hfind, hpre, hbuf⟩ := h.aligned (by simp [Sockaddr.attribute])
      have hfamily : readByte msg.buffer (ptr + 1) = .ok 1 := by
        have := @readByte_append (pre ++ [0]) (be16 port.toNat ++ addr.toList ++ post) (ptr + 1) 1
          (by simp [hpre])
        simpa [hbuf, Sockaddr.attribute] using this
      have hport : stunGetw msg.buffer (ptr + 2) = .ok port := by
        have := @readWord_append (pre ++ [0, 1]) (addr.toList ++ post) (ptr + 2) port.toNat
          (by simp [hpre])
        simpa [stunGetw, hbuf, Sockaddr.attribute] using this
      have haddr : readVector msg.buffer (ptr + 4) 4 = .ok addr := by
        have := @readVector_append (pre ++ [0, 1] ++ be16 port.toNat) post (ptr + 4) 4 addr
          (by simp [hpre])
        simpa [hbuf, Sockaddr.attribute] using this
      have hlen : UInt16.ofNat (Sockaddr.attribute (.ip4 port addr)).length = 8 := by
        simp [Sockaddr.attribute]
      rw [stunMessageFindAddr, hfind]
      have hfits : ¬ (room < SIZEOF_SOCKADDR_IN ∨ (8 : UInt16) ≠ 8) := by
        rw [SIZEOF_SOCKADDR_IN]
        simp only [ne_eq, not_true, or_false]
        omega
      simp only [bind, Except.bind, hlen, hfamily, hport, haddr, if_neg hfits]
      rfl
  | ip6 port addr =>
      obtain ⟨ptr, pre, post, hfind, hpre, hbuf⟩ := h.aligned (by simp [Sockaddr.attribute])
      have hfamily : readByte msg.buffer (ptr + 1) = .ok 2 := by
        have := @readByte_append (pre ++ [0]) (be16 port.toNat ++ addr.toList ++ post) (ptr + 1) 2
          (by simp [hpre])
        simpa [hbuf, Sockaddr.attribute] using this
      have hport : stunGetw msg.buffer (ptr + 2) = .ok port := by
        have := @readWord_append (pre ++ [0, 2]) (addr.toList ++ post) (ptr + 2) port.toNat
          (by simp [hpre])
        simpa [stunGetw, hbuf, Sockaddr.attribute] using this
      have haddr : readVector msg.buffer (ptr + 4) 16 = .ok addr := by
        have := @readVector_append (pre ++ [0, 2] ++ be16 port.toNat) post (ptr + 4) 16 addr
          (by simp [hpre])
        simpa [hbuf, Sockaddr.attribute] using this
      have hlen : UInt16.ofNat (Sockaddr.attribute (.ip6 port addr)).length = 20 := by
        simp [Sockaddr.attribute]
      rw [stunMessageFindAddr, hfind]
      have hfits : ¬ (room < SIZEOF_SOCKADDR_IN6 ∨ (20 : UInt16) ≠ 20) := by
        simp only [ne_eq, not_true, or_false]
        omega
      simp only [bind, Except.bind, hlen, hfamily, hport, haddr, if_neg hfits]
      rfl
  | other => exact ha.elim

lemma Finds.xorAddrFull {ty tail : Bytes} {rs : List (Attribute na)} {a : Sockaddr}
    {addrlen room : ℕ} {cookie : UInt32} (hlaid : Laid na msg ty id.toList rs tail)
    (ha : a.Supported addrlen) (h : Finds na id msg t (a.maskedBy cookie id).attribute)
    (hroom : SIZEOF_SOCKADDR_IN6 ≤ room) :
    stunMessageFindXorAddrFull msg t room cookie = .ok (.success, some a) := by
  have hmasked := ha.maskedBy cookie id
  have hsize : (a.maskedBy cookie id).Supported (a.maskedBy cookie id).size := by
    cases a with
    | ip4 => exact le_rfl
    | ip6 => exact le_rfl
    | other => exact ha.elim
  rw [stunMessageFindXorAddrFull, h.addr hmasked hroom]
  simp only [bind, Except.bind]
  rw [stunXorAddress_maskedBy hlaid cookie hsize, Sockaddr.maskedBy_maskedBy]
  rfl

lemma Finds.xorAddr {ty tail : Bytes} {rs : List (Attribute na)} {a : Sockaddr} {addrlen room : ℕ}
    (hlaid : Laid na msg ty id.toList rs tail) (ha : a.Supported addrlen)
    (h : Finds na id msg t (a.masked id).attribute) (hroom : SIZEOF_SOCKADDR_IN6 ≤ room) :
    stunMessageFindXorAddr msg t room = .ok (.success, some a) := by
  rw [← Sockaddr.maskedBy_magic] at h
  exact h.xorAddrFull hlaid ha hroom

end Typed

/-! ### The round trip -/

/-- The typed lookup that goes with a call gives back what was appended. -/
def Append.ReadBack (msg : StunMessage) : Append → Prop
  | bytes _ _ => True
  | flag t => stunMessageFindFlag msg t = .ok .success
  | word32 t value => stunMessageFind32 msg t = .ok (.success, some value)
  | word64 t value => stunMessageFind64 msg t = .ok (.success, some value)
  | addr t a _ => ∀ room, SIZEOF_SOCKADDR_IN6 ≤ room →
      stunMessageFindAddr msg t room = .ok (.success, some a, a.size)
  | xorAddr t a _ => ∀ room, SIZEOF_SOCKADDR_IN6 ≤ room →
      stunMessageFindXorAddr msg t room = .ok (.success, some a)

/-- Every lookup of `t` reports that there is none. -/
structure NotFound (msg : StunMessage) (t : StunAttribute) : Prop where
  find : stunMessageFind msg t = .ok none
  flag : stunMessageFindFlag msg t = .ok .notFound
  word32 : stunMessageFind32 msg t = .ok (.notFound, none)
  word64 : stunMessageFind64 msg t = .ok (.notFound, none)
  addr : ∀ room, stunMessageFindAddr msg t room = .ok (.notFound, none, room)
  xorAddr : ∀ room, stunMessageFindXorAddr msg t room = .ok (.notFound, none)

lemma notFound_of_find {msg : StunMessage} {t : StunAttribute}
    (h : stunMessageFind msg t = .ok none) : NotFound msg t := by
  have haddr (room : ℕ) : stunMessageFindAddr msg t room = .ok (.notFound, none, room) := by
    rw [stunMessageFindAddr, h]
    rfl
  refine ⟨h, ?_, ?_, ?_, haddr, fun room => ?_⟩
  · rw [stunMessageFindFlag, h]
    rfl
  · rw [stunMessageFind32, h]
    rfl
  · rw [stunMessageFind64, h]
    rfl
  · rw [stunMessageFindXorAddr, stunMessageFindXorAddrFull, haddr]
    rfl

/-- **The attribute codec round trip.**  Any sequence of appends onto a fresh
message that fits in its buffer succeeds, and a lookup of any type then finds the
first value of that type unless a FINGERPRINT, or a MESSAGE-INTEGRITY for a type
other than FINGERPRINT, comes before it; the typed lookups read the value back,
and every lookup of a type that is not there says so. -/
theorem append_find_round_trip (msg : StunMessage) (c : StunClass) (m : StunMethod)
    (id : Vector UInt8 16) (ops : List Append) (hops : ∀ op ∈ ops, op.Supported)
    (hfit : messageSize msg.noAligned id ops ≤ msg.bufferLen)
    (hlt : messageSize msg.noAligned id ops < 65516) :
    ∃ msg₀ msg', stunMessageInit msg c m id.toList = .ok (msg₀, true) ∧
      appendAll msg₀ ops = .ok (msg', List.replicate ops.length .success) ∧
      ∀ t, (∀ op, FirstOf t ops op →
          (∃ ptr len, stunMessageFind msg' t = .ok (some (ptr, len)) ∧
            readSlice msg'.buffer ptr len.toNat =
              .ok (foundValue msg.noAligned id (op.value id))) ∧
          op.ReadBack msg') ∧
        ((∀ op, ¬ FirstOf t ops op) → NotFound msg' t) := by
  have h20 : 20 ≤ msg.buffer.length := by
    rw [StunMessage.bufferLen, messageSize] at hfit
    omega
  obtain ⟨b₀, tail₀, hinit, hlaid₀, htail₀⟩ := @init_laid _ id msg c m rfl h20
  obtain ⟨b, rs, tail, hall, hlaid, hrs, -⟩ := appendAll_laid ops hops _ [] tail₀ hlaid₀
    (by rw [encodeAll_nil, List.length_nil]; omega) (by rw [htail₀]; exact hfit)
  rw [List.nil_append] at hlaid
  refine ⟨_, _, hinit, hall, fun t => ⟨fun op hop => ?_, fun hno => ?_⟩⟩
  · have hfinds := finds_of_firstOf hlaid hrs hop
    refine ⟨hfinds.value, ?_⟩
    have hmem : op ∈ ops := by
      obtain ⟨pre, post, rfl, -, -⟩ := hop
      simp
    have hsup := hops op hmem
    obtain ⟨-, -, -, rfl, -⟩ := hop
    cases op with
    | bytes t data => trivial
    | flag t => exact hfinds.flag
    | word32 t value => exact hfinds.word32
    | word64 t value => exact hfinds.word64
    | addr t a addrlen => exact fun room hroom => hfinds.addr hsup hroom
    | xorAddr t a addrlen => exact fun room hroom => hfinds.xorAddr hlaid hsup hroom
  · exact notFound_of_find (find_none_of_firstOf hlaid hrs hno)

/-- A USERNAME of three bytes, a 32 bit word and an IPv4 address in a padded
message of 60 bytes. -/
theorem append_find_round_trip_sample :
    ∃ msg₀ msg', stunMessageInit ⟨none, List.replicate 60 0, none, [], false⟩ .request 1
        (Vector.replicate 16 7).toList = .ok (msg₀, true) ∧
      appendAll msg₀ [.bytes STUN_ATTRIBUTE_USERNAME [1, 2, 3], .word32 0x24 5,
        .xorAddr STUN_ATTRIBUTE_XOR_MAPPED_ADDRESS (.ip4 80 (Vector.replicate 4 9)) 16] =
          .ok (msg', [.success, .success, .success]) ∧
      stunMessageFind32 msg' 0x24 = .ok (.success, some 5) := by
  obtain ⟨msg₀, msg', hinit, hall, hfind⟩ := append_find_round_trip
    ⟨none, List.replicate 60 0, none, [], false⟩ .request 1 (Vector.replicate 16 7)
    [.bytes STUN_ATTRIBUTE_USERNAME [1, 2, 3], .word32 0x24 5,
      .xorAddr STUN_ATTRIBUTE_XOR_MAPPED_ADDRESS (.ip4 80 (Vector.replicate 4 9)) 16]
    (by simp [Append.Supported, Sockaddr.Supported, SIZEOF_SOCKADDR_IN])
    (by decide +kernel) (by decide +kernel)
  have hfirst : FirstOf 0x24 [.bytes STUN_ATTRIBUTE_USERNAME [1, 2, 3], .word32 0x24 5,
      .xorAddr STUN_ATTRIBUTE_XOR_MAPPED_ADDRESS (.ip4 80 (Vector.replicate 4 9)) 16]
      (.word32 0x24 5) :=
    ⟨[.bytes STUN_ATTRIBUTE_USERNAME [1, 2, 3]], [.xorAddr STUN_ATTRIBUTE_XOR_MAPPED_ADDRESS
      (.ip4 80 (Vector.replicate 4 9)) 16], rfl, rfl, by simp [Append.type]; decide⟩
  exact ⟨msg₀, msg', hinit, hall, ((hfind 0x24).1 _ hfirst).2⟩

end LibNice.Stun
