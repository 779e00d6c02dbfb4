import LibNice.Stun.Integrity

/-!
`stun/stunagent.c`: agents, which build messages and validate them.

* `stunAgentInit`, `stunAgentInitRequest`, `stunAgentInitIndication`: fresh
  agents and fresh messages.
* `stunAgentValidate`: the checks an incoming message goes through.  The parts
  that the source writes in line are functions of their own here, `demux`,
  `matchSentId`, `ignoreCredentials`, `lacksCredentials`, `validateKey`,
  `checkIntegrity`.
* `stunAgentForgetTransaction`, `stunAgentFinishMessage`: the other two
  operations on the transaction table.
-/

namespace LibNice.Stun

open LibNice.Foundation

/-! ### Agents -/

/-- `stun_agent_init`: only the `valid` flag of a slot is initialised. -/
def stunAgentInit (agent : StunAgent) (knownAttributes : List StunAttribute)
    (compatibility : StunCompatibility) (usageFlags : StunAgentUsageFlags) : StunAgent :=
  { knownAttributes, compatibility, usageFlags
    softwareAttribute := none
    sentIds := agent.sentIds.map fun s => { s with valid := false } }

/-- `stun_agent_set_software`. -/
def stunAgentSetSoftware (agent : StunAgent) (software : Option Bytes) : StunAgent :=
  { agent with softwareAttribute := software }

/-- A `StunMessageIntegrityValidate` callback: from the agent, the message, the
username or `NULL` and the key known so far to `none` for `FALSE` and the key,
which may be `NULL`, for `TRUE`. -/
abbrev StunMessageIntegrityValidate :=
  StunAgent → StunMessage → Option Bytes → Option Bytes → Option (Option Bytes)

/-- An entry of the user data of `stun_agent_default_validater`. -/
structure StunDefaultValidaterData where
  username : Bytes
  password : Bytes
deriving DecidableEq, Repr

/-- `stun_agent_default_validater`: the password of the first entry with the
username; no username at all is one of length 0. -/
def stunAgentDefaultValidater (val : List StunDefaultValidaterData) :
    StunMessageIntegrityValidate :=
  fun _ _ username _ =>
    (val.find? fun v => v.username = username.getD []).map fun v => some v.password

/-! ### Unknown attributes -/

/-- `stun_optional`: an attribute that a receiver may ignore. -/
def stunOptional (t : StunAttribute) : Bool := t >>> 15 = 1

/-- `stun_agent_is_unknown`. -/
def stunAgentIsUnknown (agent : StunAgentConfig) (type : StunAttribute) : Bool :=
  !(agent.knownAttributes.takeWhile (· ≠ 0)).contains type

/-- The loop of `stun_agent_find_unknowns`, which has found `list` so far. -/
def findUnknownsLoop (agent : StunAgentConfig) (buffer : Bytes) (len max : ℕ) :
    ℕ → ℕ → List StunAttribute → Except Fault (List StunAttribute)
  | 0, _, list => .ok list
  | fuel + 1, offset, list =>
      if offset < len ∧ list.length < max then do
        let alen ← stunGetw buffer (offset + STUN_ATTRIBUTE_TYPE_LEN)
        let atype ← stunGetw buffer offset
        let list := if !stunOptional atype && stunAgentIsUnknown agent atype then list ++ [atype]
          else list
        findUnknownsLoop agent buffer len max fuel
          (offset + STUN_ATTRIBUTE_VALUE_POS +
            attributeStep agent.usageFlags.noAlignedAttributes alen.toNat) list
      else .ok list

/-- `stun_agent_find_unknowns`: the first `max` mandatory attributes that the
agent does not know. -/
def stunAgentFindUnknowns (agent : StunAgentConfig) (msg : StunMessage) (max : ℕ) :
    Except Fault (List StunAttribute) := do
  let len ← stunMessageLength msg
  findUnknownsLoop agent msg.buffer len.toNat max len.toNat STUN_MESSAGE_ATTRIBUTES_POS []

/-! ### `stun_agent_validate` -/

/-- The conversion of a `size_t` to an `int`. -/
def intOfSize (n : ℕ) : ℤ := (n : ℤ).bmod (2 ^ 32)

/-- A size below `2 ^ 31` is not changed by the conversion to an `int`. -/
lemma intOfSize_of_lt {n : ℕ} (h : n < 2 ^ 31) : intOfSize n = n := by
  have hmod : (n : ℤ).bmod 4294967296 = n := by
    rw [Int.bmod_eq_of_le]
    · omega
    · omega
  exact hmod

/-- Whether an agent demands a FINGERPRINT in a message and adds one. -/
def StunAgentConfig.fingerprinted (agent : StunAgentConfig) : Bool :=
  agent.compatibility.usesCookie && agent.usageFlags.useFingerprint

/-- The FINGERPRINT check: whether the message passes. -/
def checkFingerprint (agent : StunAgentConfig) (msg : StunMessage) : Except Fault Bool := do
  match ← stunMessageFind32 msg STUN_ATTRIBUTE_FINGERPRINT with
  | (.success, some fpr) =>
      let len ← stunMessageLength msg
      let crc32 ← stunFingerprint msg.buffer len (agent.compatibility = .wlm2009)
      return fpr = crc32
  | _ => return false

/-- The message over a received buffer. -/
def receivedMessage (agent : StunAgent) (msg : StunMessage) (buffer : Bytes) : StunMessage :=
  { msg with agent := some agent.toStunAgentConfig, buffer, key := none, longTermValid := false }

/-- The checks that tell a message of the agent from other data: the message
over the buffer, and the status with which it is refused, if it is. -/
def demux (agent : StunAgent) (msg : StunMessage) (buffer : Bytes) :
    Except Fault (StunMessage × Option StunValidationStatus) := do
  let len ← stunMessageValidateBufferLength buffer !agent.usageFlags.noAlignedAttributes
  if len = STUN_MESSAGE_BUFFER_INVALID then return (msg, some .notStun)
  else if len = STUN_MESSAGE_BUFFER_INCOMPLETE then return (msg, some .incompleteStun)
  else if len ≠ intOfSize buffer.length then return (msg, some .notStun)
  else
    let msg := receivedMessage agent msg buffer
    if ← pure agent.compatibility.usesCookie <&&> not <$> stunMessageHasCookie msg then
      return (msg, some .badRequest)
    else if ← pure agent.fingerprinted <&&>
        not <$> checkFingerprint agent.toStunAgentConfig msg then
      return (msg, some .badRequest)
    else return (msg, none)

/-- The slot of a response or an error message in the transaction table. -/
inductive SentId where
  /-- A request or an indication, which has none. -/
  | none
  /-- The slot of the request it answers. -/
  | found (idx : Fin STUN_AGENT_MAX_SAVED_IDS)
  /-- It answers no outstanding request. -/
  | unmatched
deriving DecidableEq, Repr

/-- The search for the slot of a message. -/
def matchSentId (agent : StunAgent) (msg : StunMessage) : Except Fault SentId := do
  let c ← stunMessageGetClass msg
  if c = .response ∨ c = .error then
    let msgId ← stunMessageId msg
    let method ← stunMessageGetMethod msg
    match agent.sentIds.findFinIdx? fun s => s.valid && s.method = method && s.id = msgId with
    | some idx => return .found idx
    | .none => return .unmatched
  else return .none

/-- The slot that a message has been matched with. -/
def StunAgent.savedId (agent : StunAgent) : SentId → Option StunAgentSavedIds
  | .found idx => some (agent.sentIds.get idx)
  | _ => .none

/-- Whether an error message carries one of the given codes. -/
def hasErrorCode (msg : StunMessage) (codes : List ℕ) : Except Fault Bool := do
  if (← stunMessageGetClass msg) = .error then
    match ← stunMessageFindError msg with
    | (.success, errorCode) => return codes.contains errorCode
    | _ => return false
  else return false

/-- `ignore_credentials`: the messages that need no authentication. -/
def ignoreCredentials (agent : StunAgentConfig) (msg : StunMessage) : Except Fault Bool := do
  if agent.usageFlags.ignoreCredentials then return true
  else if ← hasErrorCode msg [400, 401, 438] then return true
  else
    let c ← stunMessageGetClass msg
    return c = .indication ∧
      (agent.usageFlags.longTermCredentials ∨ agent.usageFlags.noIndicationAuth)

/-- Whether one of the attributes is missing. -/
def lacksAttribute (msg : StunMessage) (types : List StunAttribute) : Except Fault Bool :=
  types.anyM fun type => not <$> stunMessageHasAttribute msg type

/-- Whether a request or an indication lacks attributes that the agent demands. -/
def lacksCredentials (agent : StunAgentConfig) (msg : StunMessage) : Except Fault Bool := do
  let c ← stunMessageGetClass msg
  if c = .request ∨ c = .indication then
    (pure agent.usageFlags.shortTermCredentials <&&>
        lacksAttribute msg [STUN_ATTRIBUTE_USERNAME, STUN_ATTRIBUTE_MESSAGE_INTEGRITY]) <||>
      (pure (agent.usageFlags.longTermCredentials && c = .request) <&&>
        lacksAttribute msg [STUN_ATTRIBUTE_USERNAME, STUN_ATTRIBUTE_MESSAGE_INTEGRITY,
          STUN_ATTRIBUTE_NONCE, STUN_ATTRIBUTE_REALM]) <||>
      (pure !agent.usageFlags.ignoreCredentials <&&>
        stunMessageHasAttribute msg STUN_ATTRIBUTE_USERNAME <&&>
        lacksAttribute msg [STUN_ATTRIBUTE_MESSAGE_INTEGRITY])
  else return false

/-- The value of an attribute, or `NULL`. -/
def attributeValue (msg : StunMessage) (type : StunAttribute) : Except Fault (Option Bytes) := do
  match ← stunMessageFind msg type with
  | none => return none
  | some (ptr, len) =>
      let v ← readSlice msg.buffer ptr len.toNat
      return some v

/-- The key that the message is checked against, from the one `key` of the
request it answers and from the validater, or the status with which the message
is refused. -/
def validateKey (agent : StunAgent) (msg : StunMessage) (ignore : Bool) (key : Option Bytes)
    (validater : Option StunMessageIntegrityValidate) :
    Except Fault (StunValidationStatus ⊕ Option Bytes) := do
  if ← pure (key.isNone && !ignore) <&&> lacksCredentials agent.toStunAgentConfig msg then
    return .inl .unauthorizedBadRequest
  else if ← stunMessageHasAttribute msg STUN_ATTRIBUTE_MESSAGE_INTEGRITY <&&>
      pure ((key.isNone && !ignore) || agent.usageFlags.forceValidater) then
    let username ← attributeValue msg STUN_ATTRIBUTE_USERNAME
    match validater with
    | none => return .inl .unauthorized
    | some validater =>
        match validater agent msg username key with
        | none => return .inl .unauthorized
        | some key => return .inr key
  else return .inr key

/-- The MESSAGE-INTEGRITY that a received message should carry at `hash`. -/
def expectedSha1 (crypto : StunCrypto) (agent : StunAgentConfig) (msg : StunMessage) (hash : ℕ)
    (key : Bytes) : Except Fault Bytes :=
  match agent.compatibility with
  | .rfc3489 | .oc2007 => stunSha1 crypto msg.buffer (hash + 20) hash key true
  | .wlm2009 => do
      let len ← stunMessageLength msg
      stunSha1 crypto msg.buffer (hash + 20) (len - 20).toNat key true
  | .rfc5389 => stunSha1 crypto msg.buffer (hash + 20) hash key false

/-- The long-term key of a received message: the one of the request it answers,
or the one of the user it names, and `none` when it names none. -/
def receivedLongTermKey (crypto : StunCrypto) (msg : StunMessage) (key : Bytes)
    (saved : Option Bytes) : Except Fault (Option Bytes) := do
  match saved with
  | some md5 => return some md5
  | none =>
      let realm ← attributeValue msg STUN_ATTRIBUTE_REALM
      let username ← attributeValue msg STUN_ATTRIBUTE_USERNAME
      match username, realm with
      | some username, some realm =>
          let md5 ← stunHashCreds crypto realm username key
          return some md5
      | _, _ => return none

/-- The comparison of the MESSAGE-INTEGRITY at `hash` with the one under the key
`sha1Key`: all 20 bytes are compared, whatever the length of the attribute. -/
def compareIntegrity (crypto : StunCrypto) (agent : StunAgentConfig) (msg : StunMessage)
    (hash : ℕ) (sha1Key key : Bytes) : Except Fault (StunMessage × Bool) := do
  let sha ← expectedSha1 crypto agent msg hash sha1Key
  let received ← readSlice msg.buffer hash 20
  return if sha = received then ({ msg with key := some key }, true) else (msg, false)

/-- The integrity check with a key: the message with its keys, and whether it
passes. -/
def checkIntegrity (crypto : StunCrypto) (agent : StunAgentConfig) (msg : StunMessage)
    (key : Bytes) (saved : Option Bytes) : Except Fault (StunMessage × Bool) := do
  match ← stunMessageFind msg STUN_ATTRIBUTE_MESSAGE_INTEGRITY with
  | some (hash, _) =>
      if agent.usageFlags.longTermCredentials then
        match ← receivedLongTermKey crypto msg key saved with
        | none => return (msg, false)
        | some md5 =>
            compareIntegrity crypto agent { msg with longTermKey := md5, longTermValid := true }
              hash md5 key
      else compareIntegrity crypto agent msg hash key key
  | none =>
      let exempt ← hasErrorCode msg [400, 401]
      return (msg, exempt)

/-- The integrity check of a message that needs one and for which there is a key
that is neither `NULL` nor empty. -/
def authenticate (crypto : StunCrypto) (agent : StunAgentConfig) (msg : StunMessage)
    (ignore : Bool) (key saved : Option Bytes) : Except Fault (StunMessage × Bool) :=
  if ignore then .ok (msg, true)
  else
    match key with
    | none => .ok (msg, true)
    | some key =>
        if key.length > 0 then checkIntegrity crypto agent msg key saved else .ok (msg, true)

/-- The agent with the slot of an accepted response released. -/
def StunAgent.release (agent : StunAgent) : SentId → StunAgent
  | .found idx =>
      { agent with
        sentIds := agent.sentIds.set idx { agent.sentIds.get idx with valid := false } idx.isLt }
  | _ => agent

/-- The long-term key of the request that a message answers. -/
def StunAgent.savedLongTermKey (agent : StunAgent) (slot : SentId) : Option Bytes :=
  match agent.savedId slot with
  | some s => if s.longTermValid then some s.longTermKey else none
  | none => none

/-- The last part of `stun_agent_validate`: the integrity check, the release of
the slot, and the search for unknown attributes. -/
def validateMessage (crypto : StunCrypto) (agent : StunAgent) (msg : StunMessage) (slot : SentId)
    (ignore : Bool) (key : Option Bytes) :
    Except Fault (StunValidationStatus × StunMessage × StunAgent) := do
  let (msg, passes) ← authenticate crypto agent.toStunAgentConfig msg ignore key
    (agent.savedLongTermKey slot)
  if !passes then return (.unauthorized, msg, agent)
  else
    let agent := agent.release slot
    let unknowns ← stunAgentFindUnknowns agent.toStunAgentConfig msg 1
    if unknowns.length > 0 then
      let c ← stunMessageGetClass msg
      return (if c = .request then .unknownRequestAttribute else .unknownAttribute, msg, agent)
    else return (.success, msg, agent)

/-- `stun_agent_validate`. -/
def stunAgentValidate (crypto : StunCrypto) (agent : StunAgent) (msg : StunMessage)
    (buffer : Bytes) (validater : Option StunMessageIntegrityValidate) :
    Except Fault (StunValidationStatus × StunMessage × StunAgent) := do
  match ← demux agent msg buffer with
  | (msg, some status) => return (status, msg, agent)
  | (msg, none) =>
      let slot ← matchSentId agent msg
      if slot = .unmatched then return (.unmatchedResponse, msg, agent)
      else
        let ignore ← ignoreCredentials agent.toStunAgentConfig msg
        match ← validateKey agent msg ignore ((agent.savedId slot).bind (·.key)) validater with
        | .inl status => return (status, msg, agent)
        | .inr key => validateMessage crypto agent msg slot ignore key

/-! ### Building messages -/

/-- `stun_agent_forget_transaction`. -/
def stunAgentForgetTransaction (agent : StunAgent) (id : StunTransactionId) : StunAgent × Bool :=
  match agent.sentIds.findFinIdx? fun s => s.valid && s.id = id with
  | some idx => (agent.release (.found idx), true)
  | none => (agent, false)

/-- The magic cookie over the first bytes of the transaction id, for the agents
that use it. -/
def storeCookie (agent : StunAgent) (msg : StunMessage) : Except Fault StunMessage :=
  if agent.compatibility.usesCookie then do
    let buffer ← writeSlice msg.buffer STUN_MESSAGE_TRANS_ID_POS (be32 STUN_MAGIC_COOKIE)
    return { msg with buffer }
  else .ok msg

/-- `stun_agent_init_request`, with `id` the transaction id that
`stun_make_transid` comes up with. -/
def stunAgentInitRequest (agent : StunAgent) (msg : StunMessage) (buffer : Bytes) (m : StunMethod)
    (id : StunTransactionId) : Except Fault (StunMessage × Bool) := do
  let msg := { msg with agent := some agent.toStunAgentConfig, buffer, key := none,
                        longTermValid := false }
  let (msg, ret) ← stunMessageInit msg .request m id
  if ret then
    let msg ← storeCookie agent msg
    if agent.compatibility.usesCookie &&
        (agent.softwareAttribute.isSome || agent.usageFlags.addSoftware) then
      let (msg, _) ← stunMessageAppendSoftware msg agent.softwareAttribute
      return (msg, ret)
    else return (msg, ret)
  else return (msg, ret)

/-- `stun_agent_init_indication`. -/
def stunAgentInitIndication (agent : StunAgent) (msg : StunMessage) (buffer : Bytes)
    (m : StunMethod) (id : StunTransactionId) : Except Fault (StunMessage × Bool) := do
  let msg := { msg with agent := some agent.toStunAgentConfig, buffer, key := none,
                        longTermValid := false }
  let (msg, ret) ← stunMessageInit msg .indication m id
  if ret then
    let msg ← storeCookie agent msg
    return (msg, ret)
  else return (msg, ret)

/-- The MESSAGE-INTEGRITY of a message that `stun_agent_finish_message` has just
made room for. -/
def builtSha1 (crypto : StunCrypto) (agent : StunAgentConfig) (msg : StunMessage) (key : Bytes) :
    Except Fault Bytes := do
  let len ← stunMessageLength msg
  match agent.compatibility with
  | .rfc3489 | .oc2007 => stunSha1 crypto msg.buffer len.toNat (len - 20).toNat key true
  | .wlm2009 =>
      let minus := if agent.usageFlags.useFingerprint then 20 - 8 else 20
      stunSha1 crypto msg.buffer len.toNat (len - minus).toNat key true
  | .rfc5389 => stunSha1 crypto msg.buffer len.toNat (len - 20).toNat key false

/-- The message with its long-term key, and whether its MESSAGE-INTEGRITY is
skipped for want of a user to compute it for. -/
def builtLongTermKey (crypto : StunCrypto) (agent : StunAgentConfig) (msg : StunMessage)
    (key : Bytes) : Except Fault (StunMessage × Bool) := do
  if msg.longTermValid then return (msg, false)
  else if agent.usageFlags.longTermCredentials then
    let realm ← attributeValue msg STUN_ATTRIBUTE_REALM
    let username ← attributeValue msg STUN_ATTRIBUTE_USERNAME
    match username, realm with
    | some username, some realm =>
        let md5 ← stunHashCreds crypto realm username key
        return ({ msg with longTermKey := md5, longTermValid := true }, false)
    | _, _ => return (msg, true)
  else return (msg, false)

/-- The MESSAGE-INTEGRITY that `stun_agent_finish_message` adds to a message if
there is a key, and whether there was room for it. -/
def appendIntegrity (crypto : StunCrypto) (agent : StunAgentConfig) (msg : StunMessage)
    (key : Option Bytes) : Except Fault (StunMessage × Bool) :=
  match key with
  | none => .ok (msg, true)
  | some key => do
      let (msg, skip) ← builtLongTermKey crypto agent msg key
      if skip then return (msg, true)
      else
        match ← stunMessageAppend msg STUN_ATTRIBUTE_MESSAGE_INTEGRITY 20 with
        | (msg, none) => return (msg, false)
        | (msg, some ptr) =>
            let sha ← builtSha1 crypto agent msg
              (if agent.usageFlags.longTermCredentials then msg.longTermKey else key)
            let buffer ← writeSlice msg.buffer ptr sha
            return ({ msg with buffer }, true)

/-- The FINGERPRINT that `stun_agent_finish_message` adds, and whether there was
room for it. -/
def appendFingerprint (agent : StunAgentConfig) (msg : StunMessage) :
    Except Fault (StunMessage × Bool) := do
  if agent.fingerprinted then
    match ← stunMessageAppend msg STUN_ATTRIBUTE_FINGERPRINT 4 with
    | (msg, none) => return (msg, false)
    | (msg, some ptr) =>
        let len ← stunMessageLength msg
        let fpr ← stunFingerprint msg.buffer len (agent.compatibility = .wlm2009)
        let buffer ← writeSlice msg.buffer ptr (be32 fpr)
        return ({ msg with buffer }, true)
  else return (msg, true)

/-- The slot that the transaction of a message of class `c` goes to: a free one
for a request, if there is one. -/
def freeSentId (agent : StunAgent) (c : StunClass) : Option (Fin STUN_AGENT_MAX_SAVED_IDS) :=
  if c = .request then agent.sentIds.findFinIdx? fun s => !s.valid else some ⟨0, by decide⟩

/-- The agent with the transaction of a finished request in slot `idx`. -/
def saveTransaction (agent : StunAgent) (msg : StunMessage) (key : Option Bytes)
    (idx : Fin STUN_AGENT_MAX_SAVED_IDS) : Except Fault StunAgent := do
  if (← stunMessageGetClass msg) = .request then
    let id ← stunMessageId msg
    let method ← stunMessageGetMethod msg
    let slot : StunAgentSavedIds :=
      { id, method, key
        longTermKey := msg.longTermKey
        longTermValid := msg.longTermValid
        valid := true }
    return { agent with sentIds := agent.sentIds.set idx slot idx.isLt }
  else return agent

/-- `stun_agent_finish_message`: the length of the finished message, or 0. -/
def stunAgentFinishMessage (crypto : StunCrypto) (agent : StunAgent) (msg : StunMessage)
    (key : Option Bytes) : Except Fault (ℕ × StunMessage × StunAgent) := do
  let c ← stunMessageGetClass msg
  match freeSentId agent c with
  | none => return (0, msg, agent)
  | some idx =>
      let key := msg.key.or key
      let (msg, fits) ← appendIntegrity crypto agent.toStunAgentConfig msg key
      if !fits then return (0, msg, agent)
      else
        let (msg, fits) ← appendFingerprint agent.toStunAgentConfig msg
        if !fits then return (0, msg, agent)
        else
          let agent ← saveTransaction agent msg key idx
          let msg := { msg with key }
          let len ← stunMessageLength msg
          return (len.toNat, msg, agent)

end LibNice.Stun
