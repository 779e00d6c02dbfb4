import LibNice.Ice.Types

/-!
`stun/usages/ice.c` and `stun/usages/bind.c`: connectivity checks, as STUN
messages, and the STUN agent of a component.

The bytes of these messages are the business of `LibNice.Stun`; here a message
is what its receiver finds in it, and building one takes care of the room it
needs, since that decides whether it is sent at all.

* `niceAgentInitStunAgent`: the STUN agent of a component.
* `builtLength`: the length of a message that is put together attribute by
  attribute, if it fits its buffer.
* `stunUsageIceConncheckCreate`, `stunUsageIceConncheckProcess`: a check and
  what comes of its answer.
* `stunUsageIceConncheckCreateReply`: the answer to a check, and the role of the
  agent after it.
* `validateCheck`, `finishRequest`: what `stun_agent_validate` and
  `stun_agent_finish_message` do to the transaction table.
-/

namespace LibNice.Ice

open LibNice.Foundation LibNice.Stun

/-! ### The STUN agent of a component -/

/-- `STUN_ALL_KNOWN_ATTRIBUTES`. -/
def STUN_ALL_KNOWN_ATTRIBUTES : List StunAttribute :=
  [0x0001, 0x0002, 0x0003, 0x0004, 0x0005, 0x0006, 0x0007, 0x0008, 0x0009, 0x000A, 0x000B, 0x000C,
    0x000D, 0x000F, 0x0010, 0x0011, 0x0012, 0x0012, 0x0012, 0x0013, 0x0014, 0x0015, 0x0016, 0x0016,
    0x0016, 0x0017, 0x0018, 0x0018, 0x0018, 0x0019, 0x001A, 0x0020, 0x0021, 0x0022, 0x0022, 0x0023,
    0x0024, 0x0025]

/-- A table of zeroes. -/
def noSentIds : Vector StunAgentSavedIds STUN_AGENT_MAX_SAVED_IDS :=
  Vector.replicate STUN_AGENT_MAX_SAVED_IDS
    { id := [], method := 0, key := none, longTermKey := [], longTermValid := false,
      valid := false }

/-- The flavour of STUN that an agent speaks. -/
def NiceCompatibility.stun : NiceCompatibility → StunCompatibility
  | google | msn | oc2007 => .rfc3489
  | wlm2009 | oc2007r2 => .wlm2009
  | rfc5245 => .rfc5389

/-- The usage flags of the STUN agent of a component. -/
def NiceCompatibility.usageFlags (compatibility : NiceCompatibility) : StunAgentUsageFlags where
  shortTermCredentials := true
  longTermCredentials := false
  useFingerprint := compatibility = .wlm2009 ∨ compatibility = .oc2007r2 ∨ compatibility = .rfc5245
  addSoftware := false
  ignoreCredentials := compatibility = .google
  noIndicationAuth := false
  forceValidater := compatibility = .msn ∨ compatibility = .oc2007
  noAlignedAttributes := compatibility = .oc2007 ∨ compatibility = .oc2007r2

/-- `nice_agent_init_stun_agent`, on an agent of zeroes. -/
def niceAgentInitStunAgent (compatibility : NiceCompatibility) (software : Option Bytes) :
    StunAgent where
  compatibility := compatibility.stun
  knownAttributes := STUN_ALL_KNOWN_ATTRIBUTES
  usageFlags := compatibility.usageFlags
  softwareAttribute := software
  sentIds := noSentIds

/-- `agent_to_ice_compatibility`. -/
def agentToIceCompatibility : NiceCompatibility → StunUsageIceCompatibility
  | .google => .google
  | .msn => .msn
  | .wlm2009 => .wlm2009
  | .oc2007 => .msn
  | .oc2007r2 => .wlm2009
  | .rfc5245 => .rfc5245

/-! ### The room a message takes -/

/-- `stun_message_append` of `length` bytes to a message of `mlen`: its length
with the attribute. -/
def appendLength (agent : StunAgentConfig) (bufferLen mlen length : ℕ) : Option ℕ :=
  if mlen + STUN_ATTRIBUTE_HEADER_LENGTH + length > bufferLen then none
  else some (mlen + STUN_ATTRIBUTE_VALUE_POS +
    attributeStep agent.usageFlags.noAlignedAttributes length)

/-- The size of the SOFTWARE attribute, for a text that ends with a zero. -/
def softwareLength (software : Option Bytes) : ℕ :=
  match softwareLoop (software.getD PACKAGE_STRING) 128 0 with
  | .ok length => length
  | .error _ => 0

/-- The length of a message that has been initialised: its header and, where
there is room for it, the SOFTWARE attribute. -/
def initLength (agent : StunAgentConfig) (bufferLen : ℕ) : ℕ :=
  if agent.compatibility.usesCookie ∧
      (agent.softwareAttribute.isSome ∨ agent.usageFlags.addSoftware) then
    (appendLength agent bufferLen STUN_MESSAGE_HEADER_LENGTH
      (softwareLength agent.softwareAttribute)).getD STUN_MESSAGE_HEADER_LENGTH
  else STUN_MESSAGE_HEADER_LENGTH

/-- The length of a message with attributes of the given sizes, if it fits. -/
def builtLength (agent : StunAgentConfig) (bufferLen : ℕ) (lengths : List ℕ) : Option ℕ :=
  lengths.foldlM (appendLength agent bufferLen) (initLength agent bufferLen)

/-- The sizes of the attributes that `stun_agent_finish_message` adds. -/
def finishLengths (agent : StunAgentConfig) (integrity : Bool) : List ℕ :=
  (if integrity then [20] else []) ++ if agent.fingerprinted then [4] else []

/-! ### Transactions -/

/-- `stun_agent_finish_message` on a request that has room for what it adds: the
agent that remembers the transaction, unless its table is full. -/
def finishRequest (agent : StunAgent) (id : StunTransactionId) (key : Option Bytes) :
    Option StunAgent :=
  (freeSentId agent .request).map fun (idx : Fin STUN_AGENT_MAX_SAVED_IDS) =>
    { agent with
      sentIds := agent.sentIds.set idx
        { id, method := STUN_BINDING, key
          longTermKey := List.replicate 16 0
          longTermValid := false
          valid := true } idx.isLt }

/-- `stun_agent_validate` on a message for which its checks of the framing and of
the credentials come to `status`: the transaction of an answer that is taken is
closed. -/
def validateCheck (agent : StunAgent) (msg : IceMessage) (status : StunValidationStatus) :
    StunAgent × StunValidationStatus :=
  if status = .notStun ∨ status = .incompleteStun ∨ status = .badRequest then (agent, status)
  else if msg.cls = .response ∨ msg.cls = .error then
    match agent.sentIds.findFinIdx? fun s => s.valid && s.method = msg.method && s.id = msg.id with
    | none => (agent, .unmatchedResponse)
    | some idx =>
        if status = .success ∨ status = .unknownAttribute then
          (agent.release (.found idx), status)
        else (agent, status)
  else (agent, status)

/-! ### Checks -/

/-- The sizes of the attributes of a check, in the order in which they are
appended. -/
def checkLengths (username : Bytes) (candUse : Bool) (candidateIdentifier : Option Bytes)
    (compatibility : StunUsageIceCompatibility) : List ℕ :=
  (if compatibility = .rfc5245 ∨ compatibility = .wlm2009 then
      (if candUse then [0] else []) ++ [4, 8]
    else []) ++
  (if username ≠ [] then [username.length] else []) ++
  (if compatibility = .wlm2009 then [stunAlign (candidateIdentifier.getD []).length] else [])

/-- The message of a check. -/
def checkMessage (id : StunTransactionId) (username : Bytes) (password : Option Bytes)
    (candUse controlling : Bool) (priority : UInt32) (tie : UInt64)
    (candidateIdentifier : Option Bytes) (compatibility : StunUsageIceCompatibility) :
    IceMessage :=
  let roles := compatibility = .rfc5245 ∨ compatibility = .wlm2009
  { cls := .request
    method := STUN_BINDING
    id
    useCandidate := roles ∧ candUse
    priority := if roles then some priority else none
    iceControlling := if roles ∧ controlling then some tie else none
    iceControlled := if roles ∧ ¬controlling then some tie else none
    username := if username ≠ [] then some username else none
    candidateIdentifier := if compatibility = .wlm2009 then candidateIdentifier else none
    mappedAddress := none
    errorCode := none
    integrity := password.isSome }

/-- `stun_usage_ice_conncheck_create`: the message, and the agent that remembers
it if it was finished. -/
def stunUsageIceConncheckCreate (agent : StunAgent) (id : StunTransactionId) (bufferLen : ℕ)
    (username : Bytes) (password : Option Bytes) (candUse controlling : Bool) (priority : UInt32)
    (tie : UInt64) (candidateIdentifier : Option Bytes)
    (compatibility : StunUsageIceCompatibility) : IceMessage × Option StunAgent :=
  let lengths := checkLengths username candUse candidateIdentifier compatibility ++
    finishLengths agent.toStunAgentConfig password.isSome
  (checkMessage id username password candUse controlling priority tie candidateIdentifier
      compatibility,
    if (builtLength agent.toStunAgentConfig bufferLen lengths).isSome then
      finishRequest agent id password
    else none)

/-- `stun_usage_ice_conncheck_process`; the address it finds is the mapped one. -/
def stunUsageIceConncheckProcess (msg : IceMessage) : StunUsageIceReturn :=
  if msg.method ≠ STUN_BINDING then .invalid
  else
    match msg.cls with
    | .request => .invalid
    | .indication => .invalid
    | .response => if msg.mappedAddress.isSome then .success else .noMappedAddress
    | .error =>
        match msg.errorCode with
        | none => .invalid
        | some code => if code = STUN_ERROR_ROLE_CONFLICT then .roleConflict else .error

/-- `stun_usage_bind_keepalive`: an indication. -/
def stunUsageBindKeepalive (id : StunTransactionId) : IceMessage :=
  { cls := .indication, method := STUN_BINDING, id, useCandidate := false, priority := none
    iceControlling := none, iceControlled := none, username := none, candidateIdentifier := none
    mappedAddress := none, errorCode := none, integrity := false }

/-! ### Replies -/

/-- The length of the text that `stun_strerror` has for the errors of a check. -/
def stunStrerrorLength (code : ℕ) : ℕ :=
  if code = 400 then 11 else if code = 401 then 12 else if code = 420 then 17
  else if code = STUN_ERROR_ROLE_CONFLICT then 13 else 0

/-- An error reply to a request. -/
def errorReply (req : IceMessage) (code : ℕ) : IceMessage :=
  { cls := .error, method := req.method, id := req.id, useCandidate := false, priority := none
    iceControlling := none, iceControlled := none, username := none, candidateIdentifier := none
    mappedAddress := none, errorCode := some code, integrity := req.integrity }

/-- `stun_bind_error`. -/
def stunBindError (agent : StunAgentConfig) (bufferLen : ℕ) (req : IceMessage) (code : ℕ) :
    Option IceMessage :=
  if (builtLength agent bufferLen
      ((4 + stunStrerrorLength code) :: finishLengths agent req.integrity)).isSome then
    some (errorReply req code)
  else none

/-- The success reply to a request from `src`. -/
def successReply (req : IceMessage) (src : NiceAddress) : IceMessage :=
  { cls := .response, method := req.method, id := req.id, useCandidate := false, priority := none
    iceControlling := none, iceControlled := none, username := req.username
    candidateIdentifier := none, mappedAddress := some src, errorCode := none
    integrity := req.integrity }

/-- The sizes of the attributes of the success reply. -/
def successLengths (req : IceMessage) (src : NiceAddress) : List ℕ :=
  (if src.ip6 then 20 else 8) :: (req.username.map List.length).toList

/-- The part of `stun_usage_ice_conncheck_create_reply` that builds the success
reply, and the results in which it fails (`finish` failing is an `assert (0)`
there). -/
def buildReply (agent : StunAgentConfig) (bufferLen : ℕ) (req : IceMessage) (src : NiceAddress)
    (ret : StunUsageIceReturn) : StunUsageIceReturn × Option IceMessage :=
  if (builtLength agent bufferLen (successLengths req src)).isNone then (.memoryError, none)
  else if (builtLength agent bufferLen
      (successLengths req src ++ finishLengths agent req.integrity)).isNone then (.error, none)
  else (ret, some (successReply req src))

/-- `stun_usage_ice_conncheck_create_reply`: its result, the reply, and the role
`*control` after it. -/
def stunUsageIceConncheckCreateReply (agent : StunAgentConfig) (bufferLen : ℕ) (req : IceMessage)
    (src : NiceAddress) (control : Bool) (tie : UInt64) :
    StunUsageIceReturn × Option IceMessage × Bool :=
  if req.cls ≠ .request then (.invalidRequest, none, control)
  else if req.method ≠ STUN_BINDING then
    (.invalidMethod, stunBindError agent bufferLen req 400, control)
  else
    match req.role control with
    | some q =>
        if tie < q then
          let (ret, msg) := buildReply agent bufferLen req src .roleConflict
          (ret, msg, !control)
        else (.success, stunBindError agent bufferLen req STUN_ERROR_ROLE_CONFLICT, control)
    | none =>
        let (ret, msg) := buildReply agent bufferLen req src .success
        (ret, msg, control)

/-- `stun_usage_ice_conncheck_priority`. -/
def stunUsageIceConncheckPriority (msg : IceMessage) : UInt32 := msg.priority.getD 0

/-- `stun_usage_ice_conncheck_use_candidate`. -/
def stunUsageIceConncheckUseCandidate (msg : IceMessage) : Bool := msg.useCandidate

end LibNice.Ice
