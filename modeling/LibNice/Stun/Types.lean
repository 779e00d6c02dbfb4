import LibNice.Foundation.Tlv

/-!
The data types of `stun/constants.h`, `stun/stunmessage.h` and
`stun/stunagent.h`.

* `StunClass`, `StunCompatibility`, `StunValidationStatus`,
  `StunMessageReturn`: the enumerations; the attribute types and the methods are
  16 bit words, since a message may carry any of them.
* `StunAgentConfig`, `StunAgentSavedIds`, `StunAgent`: what `stun_agent_init`
  fixes for the life of an agent, a slot of its transaction table, and the
  agent itself.
* `StunMessage`: a message, whose block `buffer` has `buffer_len` bytes.
-/

namespace LibNice.Stun

open LibNice.Foundation

/-! ### `constants.h` -/

/-- Offset of the length field of a message. -/
def STUN_MESSAGE_LENGTH_POS : ℕ := 2

/-- Width of the length field of a message. -/
def STUN_MESSAGE_LENGTH_LEN : ℕ := 2

/-- Offset of the transaction id of a message. -/
def STUN_MESSAGE_TRANS_ID_POS : ℕ := 4

/-- Width of the transaction id of a message. -/
def STUN_MESSAGE_TRANS_ID_LEN : ℕ := 16

/-- Offset of the first attribute of a message. -/
def STUN_MESSAGE_ATTRIBUTES_POS : ℕ := 20

/-- Size of the message header. -/
def STUN_MESSAGE_HEADER_LENGTH : ℕ := STUN_MESSAGE_ATTRIBUTES_POS

/-- Width of the type field of an attribute. -/
def STUN_ATTRIBUTE_TYPE_LEN : ℕ := 2

/-- Offset of the value in an attribute. -/
def STUN_ATTRIBUTE_VALUE_POS : ℕ := 4

/-- Size of the header of an attribute. -/
def STUN_ATTRIBUTE_HEADER_LENGTH : ℕ := STUN_ATTRIBUTE_VALUE_POS

/-- How many transactions an agent can have outstanding. -/
def STUN_AGENT_MAX_SAVED_IDS : ℕ := 200

lemma savedIds_pos : 0 < STUN_AGENT_MAX_SAVED_IDS := by decide

/-- The cookie in the first four bytes of an RFC 5389 transaction id. -/
def STUN_MAGIC_COOKIE : UInt32 := 0x2112A442

/-! ### Attribute types -/

/-- The type of an attribute; a message may carry any 16 bit value. -/
abbrev StunAttribute := UInt16

def STUN_ATTRIBUTE_MAPPED_ADDRESS : StunAttribute := 0x0001
def STUN_ATTRIBUTE_USERNAME : StunAttribute := 0x0006
def STUN_ATTRIBUTE_MESSAGE_INTEGRITY : StunAttribute := 0x0008
def STUN_ATTRIBUTE_ERROR_CODE : StunAttribute := 0x0009
def STUN_ATTRIBUTE_REALM : StunAttribute := 0x0014
def STUN_ATTRIBUTE_NONCE : StunAttribute := 0x0015
def STUN_ATTRIBUTE_XOR_MAPPED_ADDRESS : StunAttribute := 0x0020
def STUN_ATTRIBUTE_SOFTWARE : StunAttribute := 0x8022
def STUN_ATTRIBUTE_FINGERPRINT : StunAttribute := 0x8028

/-! ### Enumerations -/

/-- The class of a message. -/
inductive StunClass where
  | request
  | indication
  | response
  | error
deriving DecidableEq, Repr

/-- The number of a class in the type field of a message. -/
def StunClass.toBits : StunClass → UInt16
  | request => 0
  | indication => 1
  | response => 2
  | error => 3

/-- The class with the given number. -/
def StunClass.ofBits (n : UInt16) : StunClass :=
  if n = 0 then request else if n = 1 then indication else if n = 2 then response else error

/-- The method of a message. -/
abbrev StunMethod := UInt16

/-- A transaction id, `STUN_MESSAGE_TRANS_ID_LEN` bytes. -/
abbrev StunTransactionId := Bytes

/-- The protocol flavour an agent speaks. -/
inductive StunCompatibility where
  | rfc3489
  | rfc5389
  | wlm2009
  | oc2007
deriving DecidableEq, Repr

/-- The flavours whose messages carry the magic cookie. -/
def StunCompatibility.usesCookie (c : StunCompatibility) : Bool :=
  c = .rfc5389 ∨ c = .wlm2009

/-- The result of `stun_agent_validate`. -/
inductive StunValidationStatus where
  | success
  | notStun
  | incompleteStun
  | badRequest
  | unauthorizedBadRequest
  | unauthorized
  | unmatchedResponse
  | unknownRequestAttribute
  | unknownAttribute
deriving DecidableEq, Repr

/-- The result of the functions that look attributes up or append them. -/
inductive StunMessageReturn where
  | success
  | notFound
  | invalid
  | notEnoughSpace
  | unsupportedAddress
deriving DecidableEq, Repr

/-- What `stun_message_validate_buffer_length` returns for a partial message. -/
def STUN_MESSAGE_BUFFER_INCOMPLETE : ℤ := 0

/-- What `stun_message_validate_buffer_length` returns for other data. -/
def STUN_MESSAGE_BUFFER_INVALID : ℤ := -1

/-! ### Agents and messages -/

/-- The usage flags of an agent. -/
structure StunAgentUsageFlags where
  shortTermCredentials : Bool
  longTermCredentials : Bool
  useFingerprint : Bool
  addSoftware : Bool
  ignoreCredentials : Bool
  noIndicationAuth : Bool
  forceValidater : Bool
  noAlignedAttributes : Bool
deriving DecidableEq, Repr

/-- The fields of an agent that no function of the library changes after
`stun_agent_init` and `stun_agent_set_software`: the only ones a message reads
through its `agent` pointer.  `knownAttributes` is the array up to its
terminating zero. -/
structure StunAgentConfig where
  compatibility : StunCompatibility
  knownAttributes : List StunAttribute
  usageFlags : StunAgentUsageFlags
  softwareAttribute : Option Bytes
deriving DecidableEq, Repr

/-- A slot of the transaction table.  A released slot keeps its other fields. -/
structure StunAgentSavedIds where
  id : StunTransactionId
  method : StunMethod
  key : Option Bytes
  longTermKey : Bytes
  longTermValid : Bool
  valid : Bool
deriving DecidableEq, Repr

/-- An agent. -/
structure StunAgent extends StunAgentConfig where
  sentIds : Vector StunAgentSavedIds STUN_AGENT_MAX_SAVED_IDS

/-- A message.  `buffer` is the whole block the message lies in, so
`buffer_len` is its length; a `key` is `NULL` or the bytes it points to. -/
structure StunMessage where
  agent : Option StunAgentConfig
  buffer : Bytes
  key : Option Bytes
  longTermKey : Bytes
  longTermValid : Bool
deriving DecidableEq, Repr

/-- The block size of a message. -/
def StunMessage.bufferLen (msg : StunMessage) : ℕ := msg.buffer.length

end LibNice.Stun
