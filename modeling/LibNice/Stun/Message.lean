import LibNice.Stun.Types

/-!
`stun/utils.c` and `stun/stunmessage.c`: reading and writing messages.

Every access to the buffer of a message is a checked access of
`Foundation.Memory`; a length that the source keeps in a `uint16_t` is a
`UInt16` here, one in a `size_t` is a natural number.
-/

namespace LibNice.Stun

open LibNice.Foundation

/-! ### `utils.c` -/

/-- `stun_padding`: how many bytes `l` is short of a multiple of 4. -/
def stunPadding (l : ℕ) : ℕ := (4 - l % 4) % 4

/-- `stun_align`: `l` rounded up to a multiple of 4. -/
def stunAlign (l : ℕ) : ℕ := (l + 3) / 4 * 4

/-- `stun_getw`: the word at an offset of the buffer. -/
def stunGetw (buffer : Bytes) (offset : ℕ) : Except Fault UInt16 := readWord buffer offset

/-- `stun_setw`: store a word, of which only the low 16 bits are kept. -/
def stunSetw (buffer : Bytes) (offset value : ℕ) : Except Fault Bytes :=
  writeSlice buffer offset (be16 value)

/-- The type field that `stun_set_type` builds from a class and a method. -/
def stunTypeBytes (c : StunClass) (m : StunMethod) : Bytes :=
  let h0 : UInt16 := (c.toBits >>> 1) ||| ((m >>> 6) &&& (0x3e : UInt16))
  let h1 : UInt16 := ((c.toBits <<< 4) &&& (0x10 : UInt16)) |||
    ((m <<< 1) &&& (0xe0 : UInt16)) ||| (m &&& (0x0f : UInt16))
  [h0.toUInt8, h1.toUInt8]

/-! ### Headers -/

/-- `stun_message_length`: the length field plus the header, modulo `2 ^ 16`. -/
def stunMessageLength (msg : StunMessage) : Except Fault UInt16 := do
  let l ← stunGetw msg.buffer STUN_MESSAGE_LENGTH_POS
  return l + UInt16.ofNat STUN_MESSAGE_HEADER_LENGTH

/-- `stun_message_id`. -/
def stunMessageId (msg : StunMessage) : Except Fault StunTransactionId :=
  readSlice msg.buffer STUN_MESSAGE_TRANS_ID_POS STUN_MESSAGE_TRANS_ID_LEN

/-- The type field of a message, with the data indication `0x0115` of some
implementations read as the `0x0017` it stands for. -/
def stunMessageType (msg : StunMessage) : Except Fault UInt16 := do
  let t ← stunGetw msg.buffer 0
  return if t = 0x0115 then 0x0017 else t

/-- `stun_message_get_method`. -/
def stunMessageGetMethod (msg : StunMessage) : Except Fault StunMethod := do
  let t ← stunMessageType msg
  return ((t &&& (0x3e00 : UInt16)) >>> 2) ||| ((t &&& (0x00e0 : UInt16)) >>> 1) |||
    (t &&& (0x000f : UInt16))

/-- `stun_message_get_class`. -/
def stunMessageGetClass (msg : StunMessage) : Except Fault StunClass := do
  let t ← stunMessageType msg
  return .ofBits (((t &&& (0x0100 : UInt16)) >>> 7) ||| ((t &&& (0x0010 : UInt16)) >>> 4))

/-- `stun_message_has_cookie` (`stun5389.c`): the id begins with the cookie. -/
def stunMessageHasCookie (msg : StunMessage) : Except Fault Bool := do
  let id ← stunMessageId msg
  return id.take 4 = be32 STUN_MAGIC_COOKIE

/-- `stun_message_init`: a header without attributes, or `FALSE` for a buffer
that cannot hold one. -/
def stunMessageInit (msg : StunMessage) (c : StunClass) (m : StunMethod)
    (id : StunTransactionId) : Except Fault (StunMessage × Bool) :=
  if msg.bufferLen < STUN_MESSAGE_HEADER_LENGTH then .ok (msg, false)
  else do
    let buffer ← writeSlice msg.buffer 0 [0, 0, 0, 0]
    let buffer ← writeSlice buffer 0 (stunTypeBytes c m)
    let buffer ← writeSlice buffer STUN_MESSAGE_TRANS_ID_POS id
    return ({ msg with buffer }, true)

/-- Whether attributes are laid out without padding. -/
def StunMessage.noAligned (msg : StunMessage) : Bool :=
  match msg.agent with
  | some agent => agent.usageFlags.noAlignedAttributes
  | none => false

/-- How many bytes the value of an attribute of length `l` takes. -/
def attributeStep (noAligned : Bool) (l : ℕ) : ℕ := if noAligned then l else stunAlign l

/-- The type an attribute has on the wire: MS-TURN swaps the numbers of REALM
and NONCE. -/
def StunMessage.wireType (msg : StunMessage) (type : StunAttribute) : StunAttribute :=
  match msg.agent with
  | some agent =>
      if agent.compatibility = .oc2007 then
        if type = STUN_ATTRIBUTE_REALM then STUN_ATTRIBUTE_NONCE
        else if type = STUN_ATTRIBUTE_NONCE then STUN_ATTRIBUTE_REALM
        else type
      else type
  | none => type

/-! ### Looking attributes up -/

/-- Whether an attribute of type `atype` ends the search for `type`: only a
FINGERPRINT may come behind a MESSAGE-INTEGRITY, and nothing behind a
FINGERPRINT. -/
def misordered (type atype : StunAttribute) : Bool :=
  (atype = STUN_ATTRIBUTE_MESSAGE_INTEGRITY ∧ type ≠ STUN_ATTRIBUTE_FINGERPRINT) ∨
    atype = STUN_ATTRIBUTE_FINGERPRINT

/-- The loop of `stun_message_find`.  Every round moves `offset` by at least 4,
so `length` rounds are enough. -/
def stunMessageFindLoop (buffer : Bytes) (noAligned : Bool) (type : StunAttribute)
    (length : ℕ) : ℕ → ℕ → Except Fault (Option (ℕ × UInt16))
  | 0, _ => .ok none
  | fuel + 1, offset =>
      if offset < length then do
        let atype ← stunGetw buffer offset
        let alen ← stunGetw buffer (offset + STUN_ATTRIBUTE_TYPE_LEN)
        if atype = type then
          return some (offset + STUN_ATTRIBUTE_VALUE_POS, alen)
        else if misordered type atype then
          return none
        else
          stunMessageFindLoop buffer noAligned type length fuel
            (offset + STUN_ATTRIBUTE_VALUE_POS + attributeStep noAligned alen.toNat)
      else .ok none

/-- `stun_message_find`: the offset of the value and the length of an
attribute, or `NULL`. -/
def stunMessageFind (msg : StunMessage) (type : StunAttribute) :
    Except Fault (Option (ℕ × UInt16)) := do
  let length ← stunMessageLength msg
  stunMessageFindLoop msg.buffer msg.noAligned (msg.wireType type) length.toNat length.toNat
    STUN_MESSAGE_ATTRIBUTES_POS

/-- `stun_message_has_attribute`. -/
def stunMessageHasAttribute (msg : StunMessage) (type : StunAttribute) : Except Fault Bool := do
  let ptr ← stunMessageFind msg type
  return ptr.isSome

/-- `stun_message_find_flag`. -/
def stunMessageFindFlag (msg : StunMessage) (type : StunAttribute) :
    Except Fault StunMessageReturn := do
  match ← stunMessageFind msg type with
  | none => return .notFound
  | some (_, len) => return if len = 0 then .success else .invalid

/-- `stun_message_find32`. -/
def stunMessageFind32 (msg : StunMessage) (type : StunAttribute) :
    Except Fault (StunMessageReturn × Option UInt32) := do
  match ← stunMessageFind msg type with
  | none => return (.notFound, none)
  | some (ptr, len) =>
      if len = 4 then
        let val ← readWord32 msg.buffer ptr
        return (.success, some val)
      else return (.invalid, none)

/-- `stun_message_find64`. -/
def stunMessageFind64 (msg : StunMessage) (type : StunAttribute) :
    Except Fault (StunMessageReturn × Option UInt64) := do
  match ← stunMessageFind msg type with
  | none => return (.notFound, none)
  | some (ptr, len) =>
      if len = 8 then
        let hi ← readWord32 msg.buffer ptr
        let lo ← readWord32 msg.buffer (ptr + 4)
        return (.success, some (hi.toUInt64 <<< 32 ||| lo.toUInt64))
      else return (.invalid, none)

/-- `stun_message_find_error`: the code of an ERROR-CODE attribute. -/
def stunMessageFindError (msg : StunMessage) : Except Fault (StunMessageReturn × ℕ) := do
  match ← stunMessageFind msg STUN_ATTRIBUTE_ERROR_CODE with
  | none => return (.notFound, 0)
  | some (ptr, alen) =>
      if alen < 4 then return (.invalid, 0)
      else
        let class_ ← readByte msg.buffer (ptr + 2)
        let number ← readByte msg.buffer (ptr + 3)
        let class_ := class_ &&& 0x7
        if class_ < 3 ∨ class_ > 6 ∨ number > 99 then return (.invalid, 0)
        else return (.success, class_.toNat * 100 + number.toNat)

/-! ### Addresses -/

/-- A socket address: an IPv4 or IPv6 port and address, or another family. -/
inductive Sockaddr where
  | ip4 (port : UInt16) (addr : Vector UInt8 4)
  | ip6 (port : UInt16) (addr : Vector UInt8 16)
  | other
deriving DecidableEq, Repr

/-- `sizeof (struct sockaddr)`. -/
def SIZEOF_SOCKADDR : ℕ := 16

/-- `sizeof (struct sockaddr_in)`. -/
def SIZEOF_SOCKADDR_IN : ℕ := 16

/-- `sizeof (struct sockaddr_in6)`. -/
def SIZEOF_SOCKADDR_IN6 : ℕ := 28

/-- `sizeof (struct sockaddr_storage)`. -/
def SIZEOF_SOCKADDR_STORAGE : ℕ := 128

/-- `stun_message_find_addr`, with `addrlen` the room the caller offers. -/
def stunMessageFindAddr (msg : StunMessage) (type : StunAttribute) (addrlen : ℕ) :
    Except Fault (StunMessageReturn × Option Sockaddr × ℕ) := do
  match ← stunMessageFind msg type with
  | none => return (.notFound, none, addrlen)
  | some (ptr, len) =>
      if len < 4 then return (.invalid, none, addrlen)
      else
        let family ← readByte msg.buffer (ptr + 1)
        if family = 1 then
          if addrlen < SIZEOF_SOCKADDR_IN ∨ len ≠ 8 then
            return (.invalid, none, SIZEOF_SOCKADDR_IN)
          else
            let port ← stunGetw msg.buffer (ptr + 2)
            let addr ← readVector msg.buffer (ptr + 4) 4
            return (.success, some (.ip4 port addr), SIZEOF_SOCKADDR_IN)
        else if family = 2 then
          if addrlen < SIZEOF_SOCKADDR_IN6 ∨ len ≠ 20 then
            return (.invalid, none, SIZEOF_SOCKADDR_IN6)
          else
            let port ← stunGetw msg.buffer (ptr + 2)
            let addr ← readVector msg.buffer (ptr + 4) 16
            return (.success, some (.ip6 port addr), SIZEOF_SOCKADDR_IN6)
        else return (.unsupportedAddress, none, addrlen)

/-- `stun_xor_address` (`utils.c`): an IPv4 address is masked with the cookie, an
IPv6 address with the cookie field and the transaction id of the message. -/
def stunXorAddress (msg : StunMessage) (addr : Sockaddr) (addrlen : ℕ) (magicCookie : UInt32) :
    Except Fault (StunMessageReturn × Sockaddr) :=
  match addr with
  | .ip4 port a =>
      if addrlen < SIZEOF_SOCKADDR_IN then .ok (.invalid, addr)
      else
        let mask : Vector UInt8 4 := ⟨(be32 magicCookie).toArray, rfl⟩
        .ok (.success, .ip4 (port ^^^ (magicCookie >>> 16).toUInt16) (a.zipWith (· ^^^ ·) mask))
  | .ip6 port a =>
      if addrlen < SIZEOF_SOCKADDR_IN6 then .ok (.invalid, addr)
      else do
        let mask ← readVector msg.buffer 4 16
        return (.success, .ip6 (port ^^^ (magicCookie >>> 16).toUInt16)
          (a.zipWith (· ^^^ ·) mask))
  | .other => .ok (.unsupportedAddress, addr)

/-- `stun_message_find_xor_addr_full`. -/
def stunMessageFindXorAddrFull (msg : StunMessage) (type : StunAttribute) (addrlen : ℕ)
    (magicCookie : UInt32) : Except Fault (StunMessageReturn × Option Sockaddr) := do
  let (val, addr, addrlen) ← stunMessageFindAddr msg type addrlen
  match addr with
  | none => return (val, none)
  | some a =>
      let (val, a) ← stunXorAddress msg a addrlen magicCookie
      return (val, some a)

/-- `stun_message_find_xor_addr`. -/
def stunMessageFindXorAddr (msg : StunMessage) (type : StunAttribute) (addrlen : ℕ) :
    Except Fault (StunMessageReturn × Option Sockaddr) :=
  stunMessageFindXorAddrFull msg type addrlen STUN_MAGIC_COOKIE

/-! ### Appending attributes -/

/-- The part of `stun_message_append` between the type and the length of the
message: the length field of the attribute at offset `a` and the padding behind
its value, and how many bytes of padding there are. -/
def storeLengthAndPadding (msg : StunMessage) (a length : ℕ) : Except Fault (Bytes × ℕ) :=
  if msg.noAligned then do
    let buffer ← stunSetw msg.buffer (a + 2) length
    return (buffer, 0)
  else do
    -- without the cookie the length is forced to a multiple of 4 (RFC 3489)
    let cookie ← stunMessageHasCookie msg
    let buffer ← stunSetw msg.buffer (a + 2) (if cookie then length else stunAlign length)
    let buffer ← writeSlice buffer (a + 4 + length) (List.replicate (stunPadding length) 0x20)
    return (buffer, stunPadding length)

/-- `stun_message_append`: the message with room for a value of `length` bytes
and the offset of that room, or `NULL` when the block is too small. -/
def stunMessageAppend (msg : StunMessage) (type : StunAttribute) (length : ℕ) :
    Except Fault (StunMessage × Option ℕ) := do
  let mlen ← stunMessageLength msg
  if mlen.toNat + STUN_ATTRIBUTE_HEADER_LENGTH + length > msg.bufferLen then
    return (msg, none)
  else
    let a := mlen.toNat
    let buffer ← stunSetw msg.buffer a (msg.wireType type).toNat
    let (buffer, padding) ← storeLengthAndPadding { msg with buffer } a length
    let mlen := mlen + UInt16.ofNat padding + UInt16.ofNat (4 + length)
    let buffer ← stunSetw buffer STUN_MESSAGE_LENGTH_POS
      (mlen - UInt16.ofNat STUN_MESSAGE_HEADER_LENGTH).toNat
    return ({ msg with buffer }, some (a + 4))

/-- `stun_message_append_bytes`. -/
def stunMessageAppendBytes (msg : StunMessage) (type : StunAttribute) (data : Bytes) :
    Except Fault (StunMessage × StunMessageReturn) := do
  match ← stunMessageAppend msg type data.length with
  | (msg, none) => return (msg, .notEnoughSpace)
  | (msg, some ptr) =>
      let buffer ← writeSlice msg.buffer ptr data
      return ({ msg with buffer }, .success)

/-- `stun_message_append_flag`. -/
def stunMessageAppendFlag (msg : StunMessage) (type : StunAttribute) :
    Except Fault (StunMessage × StunMessageReturn) :=
  stunMessageAppendBytes msg type []

/-- `stun_message_append32`. -/
def stunMessageAppend32 (msg : StunMessage) (type : StunAttribute) (value : UInt32) :
    Except Fault (StunMessage × StunMessageReturn) :=
  stunMessageAppendBytes msg type (be32 value)

/-- `stun_message_append64`. -/
def stunMessageAppend64 (msg : StunMessage) (type : StunAttribute) (value : UInt64) :
    Except Fault (StunMessage × StunMessageReturn) :=
  stunMessageAppendBytes msg type (be32 (value >>> 32).toUInt32 ++ be32 value.toUInt32)

/-- The bytes of an address attribute. -/
def Sockaddr.attribute : Sockaddr → Bytes
  | .ip4 port addr => [0, 1] ++ be16 port.toNat ++ addr.toList
  | .ip6 port addr => [0, 2] ++ be16 port.toNat ++ addr.toList
  | .other => []

/-- `stun_message_append_addr`. -/
def stunMessageAppendAddr (msg : StunMessage) (type : StunAttribute) (addr : Sockaddr)
    (addrlen : ℕ) : Except Fault (StunMessage × StunMessageReturn) :=
  if addrlen < SIZEOF_SOCKADDR then .ok (msg, .invalid)
  else
    match addr with
    | .ip4 .. => stunMessageAppendBytes msg type addr.attribute
    | .ip6 .. =>
        if addrlen < SIZEOF_SOCKADDR_IN6 then .ok (msg, .invalid)
        else stunMessageAppendBytes msg type addr.attribute
    | .other => .ok (msg, .unsupportedAddress)

/-- `stun_message_append_xor_addr_full`. -/
def stunMessageAppendXorAddrFull (msg : StunMessage) (type : StunAttribute) (addr : Sockaddr)
    (addrlen : ℕ) (magicCookie : UInt32) : Except Fault (StunMessage × StunMessageReturn) := do
  let addrlen := if addrlen > SIZEOF_SOCKADDR_STORAGE then SIZEOF_SOCKADDR_STORAGE else addrlen
  let (val, tmpaddr) ← stunXorAddress msg addr addrlen magicCookie
  if val = .success then stunMessageAppendAddr msg type tmpaddr addrlen else return (msg, val)

/-- `stun_message_append_xor_addr`. -/
def stunMessageAppendXorAddr (msg : StunMessage) (type : StunAttribute) (addr : Sockaddr)
    (addrlen : ℕ) : Except Fault (StunMessage × StunMessageReturn) :=
  stunMessageAppendXorAddrFull msg type addr addrlen STUN_MAGIC_COOKIE

/-! ### The length of a message in a buffer -/

/-- A buffer of a vector, `NULL` or a block of `size` bytes. -/
structure StunInputVector where
  buffer : Option Bytes
deriving DecidableEq, Repr

/-- The `size` of a buffer. -/
def StunInputVector.size (v : StunInputVector) : ℕ := (v.buffer.getD []).length

/-- The loop that skips `skip` bytes of a vector, of `n` buffers if counted and
up to a `NULL` otherwise: what is left from the buffer it stops at, and the bytes
to skip in that one. -/
def skipBuffers : Option ℕ → List StunInputVector → ℕ → List StunInputVector × ℕ
  | _, [], skip => ([], skip)
  | n, v :: vs, skip =>
      if n = some 0 ∨ (n = none ∧ v.buffer = none) then (v :: vs, skip)
      else if v.size ≤ skip then skipBuffers (n.map (· - 1)) vs (skip - v.size)
      else (v :: vs, skip)

/-- The length field of a message whose first buffer does not hold it. -/
def slowLength (nBuffers : Option ℕ) (buffers : List StunInputVector) : Except Fault ℕ :=
  match skipBuffers nBuffers buffers STUN_MESSAGE_LENGTH_POS with
  | ([], _) => .error .outOfBounds
  | (v :: vs, skip) =>
      -- the difference of the sizes is a `size_t`, which wraps below zero
      if v.size < skip ∨ v.size - skip > 1 then do
        let w ← stunGetw (v.buffer.getD []) skip
        return w.toNat
      else do
        let hi ← readByte (v.buffer.getD []) skip
        match vs with
        | [] => throw .outOfBounds
        | u :: _ =>
            let lo ← readByte (u.buffer.getD []) 0
            return (word16 hi lo).toNat

/-- `stun_message_validate_buffer_length_fast`, on `nBuffers` buffers or, for
`none`, on a vector that ends with a `NULL`. -/
def stunMessageValidateBufferLengthFast (buffers : List StunInputVector) (nBuffers : Option ℕ)
    (totalLength : ℕ) (hasPadding : Bool) : Except Fault ℤ :=
  match buffers with
  | [] => if totalLength < 1 ∨ nBuffers = some 0 then .ok STUN_MESSAGE_BUFFER_INVALID
      else .error .outOfBounds
  | v :: _ =>
      if totalLength < 1 ∨ nBuffers = some 0 ∨ v.buffer = none then
        .ok STUN_MESSAGE_BUFFER_INVALID
      else do
        let b ← readByte (v.buffer.getD []) 0
        if b >>> 6 ≠ 0 then return STUN_MESSAGE_BUFFER_INVALID
        else if totalLength < STUN_MESSAGE_LENGTH_POS + STUN_MESSAGE_LENGTH_LEN then
          return STUN_MESSAGE_BUFFER_INCOMPLETE
        else
          let l ←
            if v.size ≥ STUN_MESSAGE_LENGTH_POS + STUN_MESSAGE_LENGTH_LEN then do
              let w ← stunGetw (v.buffer.getD []) STUN_MESSAGE_LENGTH_POS
              pure w.toNat
            else slowLength nBuffers buffers
          let mlen := l + STUN_MESSAGE_HEADER_LENGTH
          if hasPadding ∧ stunPadding mlen ≠ 0 then return STUN_MESSAGE_BUFFER_INVALID
          else if totalLength < mlen then return STUN_MESSAGE_BUFFER_INCOMPLETE
          else return mlen

/-- The loop of `stun_message_validate_buffer_length`: `len` bytes are left at
offset `offset`.  Every round takes at least 4 of them. -/
def validateBufferLoop (msg : Bytes) (hasPadding : Bool) : ℕ → ℕ → ℕ → Except Fault Bool
  | 0, _, len => .ok (len = 0)
  | fuel + 1, offset, len =>
      if len > 0 then
        if len < 4 then .ok false
        else do
          let l ← stunGetw msg (offset + STUN_ATTRIBUTE_TYPE_LEN)
          let alen := if hasPadding then stunAlign l.toNat else l.toNat
          if len - 4 < alen then return false
          else validateBufferLoop msg hasPadding fuel (offset + 4 + alen) (len - 4 - alen)
      else .ok true

/-- `stun_message_validate_buffer_length`. -/
def stunMessageValidateBufferLength (msg : Bytes) (hasPadding : Bool) : Except Fault ℤ := do
  let fastRetval ← stunMessageValidateBufferLengthFast [⟨some msg⟩] (some 1) msg.length hasPadding
  if fastRetval ≤ 0 then return fastRetval
  else
    let mlen := fastRetval.toNat
    let ok ← validateBufferLoop msg hasPadding mlen 20 (mlen - 20)
    return if ok then mlen else STUN_MESSAGE_BUFFER_INVALID

end LibNice.Stun
