import LibNice.Stun.Reply
import LibNice.Ice.Usage

/-!
The replies of `stun/usages/ice.c`, byte by byte.

* `stunUsageIceConncheckCreateReply`: the reply to a connectivity check, with
  `buf` the block of `*plen` bytes that it is built in.
* `stunUsageIceConncheckProcess`: what the sender of the check finds in it.
* `Checked`: what `stun_agent_validate` makes sure of in a request, whatever the
  caller does with its keys and with the bytes of its attributes afterwards.
* `ReplyFits`: the room that a reply needs.
* `createReply_clean_iff`: a call returns and reports its failures exactly with
  that room.
-/

namespace LibNice.Ice.Wire

open LibNice.Foundation LibNice.Stun

/-! ### The functions -/

def STUN_ATTRIBUTE_ICE_CONTROLLED : StunAttribute := 0x8029
def STUN_ATTRIBUTE_ICE_CONTROLLING : StunAttribute := 0x802A

/-- What `stun_usage_ice_conncheck_create_reply` leaves behind: its result, the
reply, the agent, `*plen` and `*control`. -/
structure Reply where
  ret : StunUsageIceReturn
  msg : StunMessage
  agent : StunAgent
  plen : ℕ
  control : Bool

/-- `stun_bind_error`: the length of the reply, or 0. -/
def stunBindError (crypto : StunCrypto) (agent : StunAgent) (msg : StunMessage) (buf : Bytes)
    (req : StunMessage) (code : ℕ) : Except Fault (ℕ × StunMessage × StunAgent) := do
  let (msg, val) ← stunAgentInitError agent msg buf req code
  if !val then return (0, msg, agent)
  else stunAgentFinishMessage crypto agent msg none

/-- The attribute in which a peer claims the role that the agent has. -/
def roleAttribute (control : Bool) : StunAttribute :=
  if control then STUN_ATTRIBUTE_ICE_CONTROLLING else STUN_ATTRIBUTE_ICE_CONTROLLED

/-- The first four bytes of a transaction id, as a number in network order. -/
def transidCookie (id : StunTransactionId) : UInt32 :=
  word32 (id.getD 0 0) (id.getD 1 0) (id.getD 2 0) (id.getD 3 0)

/-- The attribute with the address of the peer: each flavour has its own. -/
def appendMappedAddress (msg : StunMessage) (src : Sockaddr) (srclen : ℕ)
    (compatibility : StunUsageIceCompatibility) :
    Except Fault (StunMessage × StunMessageReturn) := do
  if compatibility = .msn then
    let transid ← stunMessageId msg
    stunMessageAppendXorAddrFull msg STUN_ATTRIBUTE_XOR_MAPPED_ADDRESS src srclen
      (transidCookie transid)
  else if (← stunMessageHasCookie msg) && compatibility ≠ .google then
    stunMessageAppendXorAddr msg STUN_ATTRIBUTE_XOR_MAPPED_ADDRESS src srclen
  else stunMessageAppendAddr msg STUN_ATTRIBUTE_MAPPED_ADDRESS src srclen

/-- The USERNAME of the request, sent back. -/
def appendUsername (msg req : StunMessage) : Except Fault (StunMessage × StunMessageReturn) := do
  match ← attributeValue req STUN_ATTRIBUTE_USERNAME with
  | none => return (msg, .success)
  | some username => stunMessageAppendBytes msg STUN_ATTRIBUTE_USERNAME username

/-- The `failure` label: the result that goes with `val`. -/
def failure (val : StunMessageReturn) : Except Fault StunUsageIceReturn :=
  match val with
  | .notEnoughSpace => .ok .memoryError
  | .invalid | .unsupportedAddress => .ok .invalidAddress
  | .success => .error .assertFailed
  | .notFound => .ok .error

/-- The way out of `stun_usage_ice_conncheck_create_reply` through that label. -/
def failed (msg : StunMessage) (agent : StunAgent) (control : Bool) (val : StunMessageReturn) :
    Except Fault Reply := do
  let ret ← failure val
  return ⟨ret, msg, agent, 0, control⟩

/-- The end of `stun_usage_ice_conncheck_create_reply`, with `ret` its result if it
gets there. -/
def signReply (crypto : StunCrypto) (agent : StunAgent) (msg : StunMessage) (control : Bool)
    (ret : StunUsageIceReturn) : Except Fault Reply := do
  let (len, msg, agent) ← stunAgentFinishMessage crypto agent msg none
  if len = 0 then failed msg agent control .success
  else return ⟨ret, msg, agent, len, control⟩

/-- The part of it from the USERNAME on. -/
def finishReply (crypto : StunCrypto) (agent : StunAgent) (req msg : StunMessage) (control : Bool)
    (ret : StunUsageIceReturn) : Except Fault Reply := do
  let (msg, val) ← appendUsername msg req
  if val ≠ .success then failed msg agent control val
  else signReply crypto agent msg control ret

/-- The part of `stun_usage_ice_conncheck_create_reply` that builds a success
reply. -/
def buildReply (crypto : StunCrypto) (agent : StunAgent) (req msg : StunMessage) (buf : Bytes)
    (src : Sockaddr) (srclen : ℕ) (control : Bool) (compatibility : StunUsageIceCompatibility)
    (ret : StunUsageIceReturn) : Except Fault Reply := do
  let (msg, created) ← stunAgentInitResponse agent msg buf req
  if !created then failed msg agent control .success
  else
    let (msg, val) ← appendMappedAddress msg src srclen compatibility
    if val ≠ .success then failed msg agent control val
    else finishReply crypto agent req msg control ret

/-- `stun_usage_ice_conncheck_create_reply`. -/
def stunUsageIceConncheckCreateReply (crypto : StunCrypto) (agent : StunAgent)
    (req msg : StunMessage) (buf : Bytes) (src : Sockaddr) (srclen : ℕ) (control : Bool)
    (tie : UInt64) (compatibility : StunUsageIceCompatibility) : Except Fault Reply := do
  if (← stunMessageGetClass req) ≠ .request then
    return ⟨.invalidRequest, msg, agent, 0, control⟩
  else if (← stunMessageGetMethod req) ≠ STUN_BINDING then
    let (len, msg, agent) ← stunBindError crypto agent msg buf req 400
    return ⟨.invalidMethod, msg, agent, len, control⟩
  else
    match ← stunMessageFind64 req (roleAttribute control) with
    | (.success, some q) =>
        if tie < q then
          buildReply crypto agent req msg buf src srclen (!control) compatibility .roleConflict
        else
          let (len, msg, agent) ← stunBindError crypto agent msg buf req STUN_ERROR_ROLE_CONFLICT
          return ⟨.success, msg, agent, len, control⟩
    | _ => buildReply crypto agent req msg buf src srclen control compatibility .success

/-- `stun_usage_ice_conncheck_process`, with `addrlen` the room for the address:
its result and the address. -/
def stunUsageIceConncheckProcess (msg : StunMessage) (addrlen : ℕ)
    (compatibility : StunUsageIceCompatibility) :
    Except Fault (StunUsageIceReturn × Option Sockaddr) := do
  if (← stunMessageGetMethod msg) ≠ STUN_BINDING then return (.invalid, none)
  else
    match ← stunMessageGetClass msg with
    | .request | .indication => return (.invalid, none)
    | .error =>
        let (val, code) ← stunMessageFindError msg
        if val ≠ .success then return (.invalid, none)
        else if code = STUN_ERROR_ROLE_CONFLICT then return (.roleConflict, none)
        else return (.error, none)
    | .response =>
        let (val, addr) ←
          if compatibility = .msn then do
            let transid ← stunMessageId msg
            stunMessageFindXorAddrFull msg STUN_ATTRIBUTE_XOR_MAPPED_ADDRESS addrlen
              (transidCookie transid)
          else stunMessageFindXorAddr msg STUN_ATTRIBUTE_XOR_MAPPED_ADDRESS addrlen
        if val = .success then return (.success, addr)
        else
          -- the lookup that failed may have changed `*addrlen`
          let (_, _, addrlen) ← stunMessageFindAddr msg STUN_ATTRIBUTE_XOR_MAPPED_ADDRESS addrlen
          let (val, addr, _) ← stunMessageFindAddr msg STUN_ATTRIBUTE_MAPPED_ADDRESS addrlen
          if val = .success then return (.success, addr) else return (.noMappedAddress, none)

/-! ### Requests that have been checked -/

/-- What `stun_agent_validate` makes sure of in a request: it is one message of the
agent.  Neither another key nor other bytes in its attributes change that. -/
structure Checked (agent : StunAgentConfig) (req : StunMessage) : Prop where
  config : ∃ cfg, req.agent = some cfg ∧
    cfg.usageFlags.noAlignedAttributes = agent.usageFlags.noAlignedAttributes
  length : ∃ n : ℤ, 0 < n ∧
    stunMessageValidateBufferLength req.buffer (!agent.usageFlags.noAlignedAttributes) = .ok n
  cookie : agent.compatibility.usesCookie → stunMessageHasCookie req = .ok true

section Checked

variable {crypto : StunCrypto} {agent agent' : StunAgent} {msg req : StunMessage} {buffer : Bytes}
  {validater : Option StunMessageIntegrityValidate}

/-- What the first checks of a message make sure of. -/
lemma demux_passed {m : StunMessage} (h : demux agent msg buffer = .ok (m, none)) :
    (∃ n : ℤ, 0 < n ∧ stunMessageValidateBufferLength buffer
      (!agent.usageFlags.noAlignedAttributes) = .ok n) ∧
    (agent.compatibility.usesCookie → stunMessageHasCookie m = .ok true) := by
  rw [demux] at h
  obtain ⟨len, hlen, h⟩ := bind_eq_ok.mp h
  split at h
  · cases Except.ok.inj h
  next hinv =>
  split at h
  · cases Except.ok.inj h
  next hinc =>
  split at h
  · cases Except.ok.inj h
  obtain ⟨noCookie, hcookie, h⟩ := bind_eq_ok.mp h
  split at h
  · cases Except.ok.inj h
  next hno =>
  obtain ⟨badFpr, -, h⟩ := bind_eq_ok.mp h
  split at h
  · cases Except.ok.inj h
  obtain ⟨rfl, -⟩ := Prod.mk.inj (Except.ok.inj h)
  obtain ⟨k, rfl, hframed⟩ := ((validate_cases hlen).resolve_left hinv).resolve_left hinc
  refine ⟨⟨k, by have := hframed.twenty_le; omega, hlen⟩, fun huses => ?_⟩
  rw [huses] at hcookie
  obtain ⟨c, hc, hnot⟩ := map_eq_ok.mp hcookie
  rw [hc]
  cases c with
  | true => rfl
  | false => exact absurd hnot.symm hno

/-- An accepted message has been checked. -/
lemma Checked.of_validate {status : StunValidationStatus}
    (h : stunAgentValidate crypto agent msg buffer validater = .ok (status, req, agent'))
    (hacc : status.Accepted) : Checked agent.toStunAgentConfig req := by
  rcases validate_reaches h with hno | ⟨m, slot, ignore, key, hreach, hval⟩
  · exact absurd hacc hno
  obtain ⟨rfl, -⟩ := hreach.visible
  obtain ⟨hlen, hcookie⟩ := demux_passed hreach.demuxed
  obtain ⟨hbuf, hagent⟩ := validateMessage_same hval
  refine ⟨⟨_, hagent, rfl⟩, ?_, fun huses => ?_⟩
  · rw [hbuf]
    exact hlen
  · rw [← hcookie huses, stunMessageHasCookie, stunMessageHasCookie, stunMessageId, stunMessageId,
      hbuf]

lemma Checked.twenty_le (h : Checked agent.toStunAgentConfig req) : 20 ≤ req.buffer.length := by
  obtain ⟨n, hn, hlen⟩ := h.length
  obtain ⟨m, -, hframed⟩ := framed_of_validate hlen hn
  exact hframed.twenty_le.trans hframed.fits

/-- What a checked message shows. -/
lemma Checked.visible (h : Checked agent.toStunAgentConfig req) :
    ∃ rs : List (Attribute agent.usageFlags.noAlignedAttributes),
      Visible agent.usageFlags.noAlignedAttributes req rs := by
  obtain ⟨n, hn, hlen⟩ := h.length
  obtain ⟨m, -, hframed⟩ := framed_of_validate hlen hn
  obtain ⟨cfg, hcfg, hna⟩ := h.config
  refine hframed.visible ?_
  rw [StunMessage.noAligned, hcfg]
  exact hna

end Checked

/-! ### The room for a reply -/

/-- The length of a reply before its caller appends to it. -/
def replyLength (agent : StunAgentConfig) (size : ℕ) : ℕ :=
  if agent.namesSoftware ∧ 24 + (softwareValue agent.softwareAttribute).length ≤ size then
    24 + attributeStep agent.usageFlags.noAlignedAttributes
      (softwareValue agent.softwareAttribute).length
  else 20

/-- The room for the MESSAGE-INTEGRITY and the FINGERPRINT of a reply. -/
def signatureRoom (agent : StunAgentConfig) (req : StunMessage) : ℕ :=
  agent.integrityRoom req + agent.fingerprintRoom

/-- The attributes of an error reply fit the buffer with their padding if they fit it
without. -/
structure ErrorPads (agent : StunAgentConfig) (size code : ℕ) : Prop where
  software : agent.SoftwareFits size
  error : replyLength agent size + 4 + (errorValue code).length ≤ size →
    replyLength agent size + 4 +
      attributeStep agent.usageFlags.noAlignedAttributes (errorValue code).length ≤ size

section Room

variable {crypto : StunCrypto} {agent : StunAgent} {msg req : StunMessage} {buf : Bytes}
  {id : Vector UInt8 16} {m : StunMethod} {code : ℕ}

lemma messageSize_ownReply (agent : StunAgentConfig) (id : Vector UInt8 16) (size : ℕ) :
    messageSize agent.usageFlags.noAlignedAttributes id (agent.ownReply size) =
      replyLength agent size := by
  rw [StunAgentConfig.ownReply, replyLength]
  split
  · have h := messageSize_append_bytes agent.usageFlags.noAlignedAttributes id []
      STUN_ATTRIBUTE_SOFTWARE (softwareValue agent.softwareAttribute)
    have h20 : messageSize agent.usageFlags.noAlignedAttributes id [] = 20 := rfl
    rw [List.nil_append, h20] at h
    exact h
  · rfl

lemma replyLength_le (agent : StunAgentConfig) (size : ℕ) : replyLength agent size ≤ 800 :=
  messageSize_ownReply agent (Vector.replicate 16 0) size ▸ ownReply_size_le agent _ size

lemma signatureRoom_le (agent : StunAgentConfig) (req : StunMessage) :
    signatureRoom agent req ≤ 32 := by
  rw [signatureRoom, StunAgentConfig.integrityRoom, StunAgentConfig.fingerprintRoom]
  split <;> split <;> omega

/-- The attributes of an error reply. -/
def errorOps (agent : StunAgentConfig) (size code : ℕ) : List Append :=
  agent.ownReply size ++ [.bytes STUN_ATTRIBUTE_ERROR_CODE (errorValue code)]

lemma errorOps_size (agent : StunAgentConfig) (id : Vector UInt8 16) (size code : ℕ) :
    messageSize agent.usageFlags.noAlignedAttributes id (errorOps agent size code) =
      replyLength agent size + 4 +
        attributeStep agent.usageFlags.noAlignedAttributes (errorValue code).length := by
  rw [errorOps, messageSize_append_bytes, messageSize_ownReply]

/-- The start of an error reply. -/
lemma initError_spec (hclass : stunMessageGetClass req = .ok .request)
    (hid : stunMessageId req = .ok id.toList) (hm : stunMessageGetMethod req = .ok m)
    (h20 : 20 ≤ buf.length) (hcode : (errorValue code).length ≤ 40) :
    (ErrorPads agent.toStunAgentConfig buf.length code →
      ∃ msg' val, stunAgentInitError agent msg buf req code = .ok (msg', val) ∧
        (val = true → replyLength agent.toStunAgentConfig buf.length + 4 +
          (errorValue code).length ≤ buf.length ∧
          Answer agent.toStunAgentConfig req id (stunTypeBytes .error m) buf.length
            (errorOps agent.toStunAgentConfig buf.length code) msg') ∧
        (val = false → buf.length < replyLength agent.toStunAgentConfig buf.length + 4 +
          (errorValue code).length)) ∧
    ∀ r, stunAgentInitError agent msg buf req code = .ok r →
      ErrorPads agent.toStunAgentConfig buf.length code := by
  obtain ⟨hmade, hfits⟩ := @initReply_answer agent msg req buf .error m id hid hm h20
  have h800 := replyLength_le agent.toStunAgentConfig buf.length
  have hstep := attributeStep_lt agent.usageFlags.noAlignedAttributes (errorValue code).length
  have hown := messageSize_ownReply agent.toStunAgentConfig id buf.length
  have hsize := errorOps_size agent.toStunAgentConfig id buf.length code
  rw [stunAgentInitError, hclass]
  simp only [bind, Except.bind, ne_eq, not_true, if_false]
  by_cases hsoft : agent.SoftwareFits buf.length
  swap
  · refine ⟨fun h => absurd h.software hsoft, fun r hr => ?_⟩
    cases hinit : stunAgentInitReply agent msg buf .error req with
    | error e => simp [hinit] at hr
    | ok p => exact absurd (hfits p hinit) hsoft
  obtain ⟨msg₁, hinit, hans⟩ := hmade hsoft
  simp only [hinit, if_true, stunMessageAppendError]
  by_cases hraw : replyLength agent.toStunAgentConfig buf.length + 4 + (errorValue code).length ≤
      buf.length
  swap
  · rw [hans.appendBytes_full _ (by omega)]
    exact ⟨fun _ => ⟨msg₁, false, rfl, nofun, fun _ => by omega⟩,
      fun _ _ => ⟨hsoft, fun h => absurd h hraw⟩⟩
  by_cases hpad : replyLength agent.toStunAgentConfig buf.length + 4 +
      attributeStep agent.usageFlags.noAlignedAttributes (errorValue code).length ≤ buf.length
  · rw [errorOps] at hsize
    obtain ⟨msg₂, hrun, hans₂⟩ := hans.appendBytes_fits STUN_ATTRIBUTE_ERROR_CODE (errorValue code)
      (by omega) (by omega)
    rw [hrun]
    exact ⟨fun _ => ⟨msg₂, true, rfl, fun _ => ⟨hraw, hans₂⟩, nofun⟩,
      fun _ _ => ⟨hsoft, fun _ => hpad⟩⟩
  · rw [errorOps] at hsize
    rw [hans.appendBytes_overflow _ (by omega) (by omega)]
    exact ⟨fun h => absurd (h.error hraw) hpad, fun r hr => by cases hr⟩

lemma errorOps_realm (agent : StunAgentConfig) (size code : ℕ) :
    ∀ op ∈ errorOps agent size code, op.type ≠ STUN_ATTRIBUTE_REALM := by
  intro op hop
  rcases List.mem_append.mp hop with hop | hop
  · rw [ownReply_type hop]
    decide
  · obtain rfl := List.mem_singleton.mp hop
    change STUN_ATTRIBUTE_ERROR_CODE ≠ STUN_ATTRIBUTE_REALM
    decide

/-- `stun_bind_error` on a buffer without room for a header. -/
lemma stunBindError_short (hclass : stunMessageGetClass req = .ok .request)
    (hid : stunMessageId req = .ok id.toList) (hm : stunMessageGetMethod req = .ok m)
    (hshort : buf.length < 20) :
    ∃ msg', stunBindError crypto agent msg buf req code = .ok (0, msg', agent) := by
  obtain ⟨msg', hinit⟩ := @initReply_short agent msg req buf .error m id hid hm hshort
  rw [stunBindError, stunAgentInitError, hclass]
  simp only [bind, Except.bind, ne_eq, not_true, if_false, hinit]
  exact ⟨msg', rfl⟩

/-- `stun_bind_error` has a result exactly when the attributes fit with their padding. -/
lemma stunBindError_ok_iff (hclass : stunMessageGetClass req = .ok .request)
    (hid : stunMessageId req = .ok id.toList) (hm : stunMessageGetMethod req = .ok m)
    (hcode : (errorValue code).length ≤ 40) :
    (∃ r, stunBindError crypto agent msg buf req code = .ok r) ↔
      (20 ≤ buf.length → ErrorPads agent.toStunAgentConfig buf.length code) := by
  by_cases h20 : 20 ≤ buf.length
  swap
  · obtain ⟨msg', hrun⟩ := @stunBindError_short crypto agent msg req buf id m code hclass hid hm
      (by omega)
    exact ⟨fun _ h => absurd h h20, fun _ => ⟨_, hrun⟩⟩
  obtain ⟨hmade, hpads⟩ := @initError_spec agent msg req buf id m code hclass hid hm h20 hcode
  constructor
  · rintro ⟨r, hr⟩ -
    rw [stunBindError] at hr
    obtain ⟨p, hp, -⟩ := bind_eq_ok.mp hr
    exact hpads p hp
  · intro h
    obtain ⟨msg', val, hinit, hans, -⟩ := hmade (h h20)
    rw [stunBindError, hinit]
    simp only [bind, Except.bind]
    cases val with
    | false => exact ⟨_, rfl⟩
    | true =>
        have hsize := errorOps_size agent.toStunAgentConfig id buf.length code
        have h800 := replyLength_le agent.toStunAgentConfig buf.length
        have h32 := signatureRoom_le agent.toStunAgentConfig req
        have hstep := attributeStep_lt agent.usageFlags.noAlignedAttributes
          (errorValue code).length
        rw [signatureRoom] at h32
        exact (hans rfl).2.finish_total (errorOps_realm _ _ _) (by omega) crypto

/-- The type field of an answer to a Binding request. -/
lemma binding_header {na : Bool} {c : StunClass} {tail : Bytes} {rs : List (Attribute na)}
    (h : Laid na msg (stunTypeBytes c STUN_BINDING) id.toList rs tail) :
    stunMessageGetClass msg = .ok c ∧ stunMessageGetMethod msg = .ok STUN_BINDING := by
  have hword : stunMessageType msg = do
      let t ← stunGetw (stunTypeBytes c STUN_BINDING) 0
      return if t = 0x0115 then 0x0017 else t := by
    rw [stunMessageType, h.buffer]
    rfl
  rw [stunMessageGetClass, stunMessageGetMethod, hword]
  cases c <;> exact ⟨rfl, rfl⟩

/-- **The error reply to a Binding request**: it is whole, or it is not there. -/
lemma stunBindError_binding (hclass : stunMessageGetClass req = .ok .request)
    (hid : stunMessageId req = .ok id.toList)
    (hm : stunMessageGetMethod req = .ok STUN_BINDING) (h20 : 20 ≤ buf.length)
    (hpads : ErrorPads agent.toStunAgentConfig buf.length code)
    (hcode : (errorValue code).length ≤ 40) :
    (replyLength agent.toStunAgentConfig buf.length + 4 +
        attributeStep agent.usageFlags.noAlignedAttributes (errorValue code).length +
        signatureRoom agent.toStunAgentConfig req ≤ buf.length →
      ∃ n msg' sha fpr, stunBindError crypto agent msg buf req code = .ok (n, msg', agent) ∧
        Finished crypto agent.toStunAgentConfig req id (stunTypeBytes .error STUN_BINDING)
          buf.length (errorOps agent.toStunAgentConfig buf.length code) msg' n sha fpr) ∧
    (buf.length < replyLength agent.toStunAgentConfig buf.length + 4 +
        attributeStep agent.usageFlags.noAlignedAttributes (errorValue code).length +
        signatureRoom agent.toStunAgentConfig req →
      ∃ msg', stunBindError crypto agent msg buf req code = .ok (0, msg', agent)) := by
  obtain ⟨msg', val, hinit, hans, hfull⟩ :=
    (@initError_spec agent msg req buf id _ code hclass hid hm h20 hcode).1 hpads
  have hsize := errorOps_size agent.toStunAgentConfig id buf.length code
  have h800 := replyLength_le agent.toStunAgentConfig buf.length
  have h32 := signatureRoom_le agent.toStunAgentConfig req
  have hle := le_attributeStep agent.usageFlags.noAlignedAttributes (errorValue code).length
  have hstep := attributeStep_lt agent.usageFlags.noAlignedAttributes (errorValue code).length
  rw [signatureRoom] at h32 ⊢
  rw [stunBindError, hinit]
  simp only [bind, Except.bind]
  cases val with
  | false =>
      have hfull := hfull rfl
      exact ⟨fun hfit => by omega, fun _ => ⟨msg', rfl⟩⟩
  | true =>
      obtain ⟨-, hans⟩ := hans rfl
      obtain ⟨rs, tail, hlaid, -⟩ := hans.laid
      obtain ⟨hmade, hnone⟩ := hans.finish (errorOps_realm _ _ _) (binding_header hlaid).1
        (by decide) (fun _ => by omega) (fun _ => by omega) crypto
      refine ⟨fun hfit => ?_, fun hfull => hnone (by omega)⟩
      obtain ⟨n, msg₂, sha, fpr, hrun, -, hfin⟩ := hmade (by omega)
      exact ⟨n, msg₂, sha, fpr, hrun, hfin⟩

end Room

/-! ### The attributes of a success reply -/

/-- The type of the attribute with the address of the peer. -/
def mappedType (id : Vector UInt8 16) (compatibility : StunUsageIceCompatibility) :
    StunAttribute :=
  if compatibility = .msn ∨ (hasCookie id.toList ∧ compatibility ≠ .google) then
    STUN_ATTRIBUTE_XOR_MAPPED_ADDRESS
  else STUN_ATTRIBUTE_MAPPED_ADDRESS

/-- Its value. -/
def mappedValue (id : Vector UInt8 16) (compatibility : StunUsageIceCompatibility)
    (src : Sockaddr) : Bytes :=
  if compatibility = .msn then (src.maskedBy (transidCookie id.toList) id).attribute
  else if hasCookie id.toList ∧ compatibility ≠ .google then
    (src.maskedBy STUN_MAGIC_COOKIE id).attribute
  else src.attribute

lemma mappedValue_length (id : Vector UInt8 16) (compatibility : StunUsageIceCompatibility)
    (src : Sockaddr) : (mappedValue id compatibility src).length = src.attribute.length := by
  rw [mappedValue]
  split
  · exact src.attribute_maskedBy_length _ _
  split
  · exact src.attribute_maskedBy_length _ _
  · rfl

/-- An address needs no padding. -/
lemma attribute_step (na : Bool) (src : Sockaddr) :
    attributeStep na src.attribute.length = src.attribute.length := by
  refine attributeStep_of_dvd _ ?_
  cases src <;> simp [Sockaddr.attribute]

lemma attribute_length_le (src : Sockaddr) : src.attribute.length ≤ 20 := by
  cases src <;> simp [Sockaddr.attribute]

/-- The attributes of a success reply to a request with the USERNAME `user`. -/
def replyOps (agent : StunAgentConfig) (size : ℕ) (id : Vector UInt8 16) (src : Sockaddr)
    (compatibility : StunUsageIceCompatibility) (user : Option Bytes) : List Append :=
  agent.ownReply size ++
    [.bytes (mappedType id compatibility) (mappedValue id compatibility src)] ++
    (user.map fun u => .bytes STUN_ATTRIBUTE_USERNAME u).toList

/-- The room for a USERNAME whose value takes `step` of its length. -/
def usernameRoom (step : ℕ → ℕ) (user : Option Bytes) : ℕ :=
  user.elim 0 fun u => 4 + step u.length

/-- The length of a success reply without its signature. -/
def paddedLength (agent : StunAgentConfig) (size : ℕ) (src : Sockaddr) (user : Option Bytes) : ℕ :=
  replyLength agent size + 4 + src.attribute.length +
    usernameRoom (attributeStep agent.usageFlags.noAlignedAttributes) user

/-- The same without the padding of the USERNAME. -/
def rawLength (agent : StunAgentConfig) (size : ℕ) (src : Sockaddr) (user : Option Bytes) : ℕ :=
  replyLength agent size + 4 + src.attribute.length + usernameRoom (fun n => n) user

section Success

variable {crypto : StunCrypto} {agent : StunAgentConfig} {msg req : StunMessage} {buf ty : Bytes}
  {id : Vector UInt8 16} {size srclen : ℕ} {ops : List Append} {src : Sockaddr}
  {compatibility : StunUsageIceCompatibility} {user : Option Bytes}

lemma replyOps_size (agent : StunAgentConfig) (size : ℕ) (id : Vector UInt8 16) (src : Sockaddr)
    (compatibility : StunUsageIceCompatibility) (user : Option Bytes) :
    messageSize agent.usageFlags.noAlignedAttributes id
        (replyOps agent size id src compatibility user) =
      paddedLength agent size src user := by
  have hmapped := messageSize_append_bytes agent.usageFlags.noAlignedAttributes id
    (agent.ownReply size) (mappedType id compatibility) (mappedValue id compatibility src)
  rw [messageSize_ownReply, mappedValue_length, attribute_step] at hmapped
  rw [paddedLength, replyOps]
  cases user with
  | none => simpa [usernameRoom] using hmapped
  | some u =>
      rw [Option.map_some, Option.toList_some, messageSize_append_bytes, hmapped, usernameRoom,
        Option.elim_some]
      omega

/-- An address that is not refused. -/
lemma appendMappedAddress_supported (h : Answer agent req id ty size ops msg)
    (ha : src.Supported srclen) :
    appendMappedAddress msg src srclen compatibility =
      stunMessageAppendBytes msg (mappedType id compatibility)
        (mappedValue id compatibility src) := by
  obtain ⟨rs, tail, hlaid, -⟩ := h.laid
  rw [appendMappedAddress, mappedType, mappedValue, hlaid.messageId, hlaid.cookie]
  simp only [bind, Except.bind]
  by_cases hmsn : compatibility = .msn
  · rw [if_pos hmsn, if_pos (.inl hmsn), if_pos hmsn]
    exact appendXorAddrFull_supported hlaid _ _ ha
  rw [if_neg hmsn, if_neg hmsn]
  by_cases hxor : hasCookie id.toList = true ∧ compatibility ≠ .google
  · rw [if_pos (by simpa using hxor), if_pos (.inr hxor), if_pos hxor]
    exact appendXorAddrFull_supported hlaid _ _ ha
  · rw [if_neg (by simpa using hxor), if_neg (by simpa [hmsn] using hxor), if_neg hxor]
    exact appendAddr_supported _ ha

/-- An address that is refused. -/
lemma appendMappedAddress_refused (h : Answer agent req id ty size ops msg)
    (ha : ¬src.Supported srclen) :
    ∃ val, appendMappedAddress msg src srclen compatibility = .ok (msg, val) ∧
      (val = .invalid ∨ val = .unsupportedAddress) := by
  obtain ⟨rs, tail, hlaid, -⟩ := h.laid
  have hclip (n : ℕ) (hn : n ≤ 28) : srclen < n →
      (if srclen > SIZEOF_SOCKADDR_STORAGE then SIZEOF_SOCKADDR_STORAGE else srclen) < n := by
    intro hlt
    rw [if_neg (by rw [SIZEOF_SOCKADDR_STORAGE]; omega)]
    exact hlt
  have hfull (type : StunAttribute) (cookie : UInt32) :
      ∃ val, stunMessageAppendXorAddrFull msg type src srclen cookie = .ok (msg, val) ∧
        (val = .invalid ∨ val = .unsupportedAddress) := by
    rw [stunMessageAppendXorAddrFull]
    cases src with
    | ip4 port a =>
        rw [stunXorAddress, if_pos (hclip SIZEOF_SOCKADDR_IN (by decide) (by
          simpa [Sockaddr.Supported] using ha))]
        exact ⟨_, rfl, .inl rfl⟩
    | ip6 port a =>
        rw [stunXorAddress, if_pos (hclip SIZEOF_SOCKADDR_IN6 (by decide) (by
          simpa [Sockaddr.Supported] using ha))]
        exact ⟨_, rfl, .inl rfl⟩
    | other => exact ⟨_, rfl, .inr rfl⟩
  have haddr (type : StunAttribute) :
      ∃ val, stunMessageAppendAddr msg type src srclen = .ok (msg, val) ∧
        (val = .invalid ∨ val = .unsupportedAddress) := by
    rw [stunMessageAppendAddr.eq_def]
    split
    · exact ⟨_, rfl, .inl rfl⟩
    next hlen =>
      cases src with
      | ip4 port a =>
          have h16 : 16 ≤ srclen := by simpa [SIZEOF_SOCKADDR] using hlen
          exact absurd h16 ha
      | ip6 port a =>
          simp only
          rw [if_pos (by simpa [Sockaddr.Supported] using ha)]
          exact ⟨_, rfl, .inl rfl⟩
      | other => exact ⟨_, rfl, .inr rfl⟩
  rw [appendMappedAddress, hlaid.messageId, hlaid.cookie]
  simp only [bind, Except.bind]
  split
  · exact hfull _ _
  split
  · exact hfull _ _
  · exact haddr _

end Success

/-! ### Success replies -/

/-- There is room for a success reply with the USERNAME `user`: for its header, and
for its padding and its signature if there is room for the rest. -/
structure SuccessFits (agent : StunAgentConfig) (req : StunMessage) (src : Sockaddr)
    (srclen size : ℕ) (user : Option Bytes) : Prop where
  header : 20 ≤ size
  software : agent.SoftwareFits size
  rest : src.Supported srclen → rawLength agent size src user ≤ size →
    paddedLength agent size src user + signatureRoom agent req ≤ size

/-- The length of a success reply does not wrap around. -/
def NoWrap (agent : StunAgentConfig) (req : StunMessage) (src : Sockaddr) (size : ℕ)
    (user : Option Bytes) : Prop :=
  size < 65536 ∨ paddedLength agent size src user + signatureRoom agent req < 65536

section Build

variable {crypto : StunCrypto} {agent : StunAgent} {msg req : StunMessage} {buf : Bytes}
  {id : Vector UInt8 16} {size srclen : ℕ} {src : Sockaddr} {control : Bool}
  {compatibility : StunUsageIceCompatibility} {ret : StunUsageIceReturn} {user : Option Bytes}

/-- What `buildReply` leaves behind: a whole reply, or a failure. -/
structure Built (crypto : StunCrypto) (config : StunAgent) (req : StunMessage)
    (id : Vector UInt8 16) (src : Sockaddr) (compatibility : StunUsageIceCompatibility)
    (user : Option Bytes) (size : ℕ) (ctl : Bool) (ret : StunUsageIceReturn) (r : Reply) :
    Prop where
  agent : r.agent = config
  control : r.control = ctl
  outcome : (r.ret = ret ∧ ∃ sha fpr, Finished crypto config.toStunAgentConfig req id
      (stunTypeBytes .response STUN_BINDING) size
      (replyOps config.toStunAgentConfig size id src compatibility user) r.msg r.plen sha fpr) ∨
    ((r.ret = .memoryError ∨ r.ret = .invalidAddress) ∧ r.plen = 0)

lemma replyOps_realm (agent : StunAgentConfig) (size : ℕ) (id : Vector UInt8 16) (src : Sockaddr)
    (compatibility : StunUsageIceCompatibility) (user : Option Bytes) :
    ∀ op ∈ replyOps agent size id src compatibility user, op.type ≠ STUN_ATTRIBUTE_REALM := by
  intro op hop
  rcases List.mem_append.mp hop with hop | hop
  · rcases List.mem_append.mp hop with hop | hop
    · rw [ownReply_type hop]
      decide
    · obtain rfl := List.mem_singleton.mp hop
      change mappedType id compatibility ≠ STUN_ATTRIBUTE_REALM
      rw [mappedType]
      split <;> decide
  · cases user with
    | none => simp at hop
    | some u =>
        obtain rfl : op = .bytes STUN_ATTRIBUTE_USERNAME u := by simpa using hop
        change STUN_ATTRIBUTE_USERNAME ≠ STUN_ATTRIBUTE_REALM
        decide

/-- A reply with all its attributes is signed, or there is no room for that. -/
lemma signReply_spec (hans : Answer agent.toStunAgentConfig req id
      (stunTypeBytes .response STUN_BINDING) size
      (replyOps agent.toStunAgentConfig size id src compatibility user) msg)
    (hwrap : NoWrap agent.toStunAgentConfig req src size user) :
    (paddedLength agent.toStunAgentConfig size src user +
        signatureRoom agent.toStunAgentConfig req ≤ size →
      ∃ r, signReply crypto agent msg control ret = .ok r ∧
        Built crypto agent req id src compatibility user size control ret r) ∧
    (size < paddedLength agent.toStunAgentConfig size src user +
        signatureRoom agent.toStunAgentConfig req →
      signReply crypto agent msg control ret = .error .assertFailed) := by
  have hsize := replyOps_size agent.toStunAgentConfig size id src compatibility user
  obtain ⟨rs, tail, hlaid, -⟩ := hans.laid
  rw [NoWrap, signatureRoom] at hwrap
  rw [signatureRoom]
  obtain ⟨hmade, hnone⟩ := hans.finish (replyOps_realm _ _ _ _ _ _) (binding_header hlaid).1
    (by decide) (fun hfit => by rcases hwrap with hw | hw <;> omega)
    (fun hfit => by rcases hwrap with hw | hw <;> omega) crypto
  constructor
  · intro hfit
    obtain ⟨n, msg', sha, fpr, hrun, hn, hfin⟩ := hmade (by omega)
    have h20 := hfin.header.2.2.1
    rw [signReply, hrun]
    simp only [bind, Except.bind]
    rw [if_neg (by omega)]
    exact ⟨_, rfl, rfl, rfl, .inl ⟨rfl, sha, fpr, hfin⟩⟩
  · intro hfull
    obtain ⟨msg', hrun⟩ := hnone (by omega)
    rw [signReply, hrun]
    rfl

/-- The end of a reply behind the address of the peer. -/
lemma finishReply_spec (hans : Answer agent.toStunAgentConfig req id
      (stunTypeBytes .response STUN_BINDING) size
      (replyOps agent.toStunAgentConfig size id src compatibility none) msg)
    (huser : attributeValue req STUN_ATTRIBUTE_USERNAME = .ok user)
    (hwrap : NoWrap agent.toStunAgentConfig req src size user) :
    ((rawLength agent.toStunAgentConfig size src user ≤ size →
        paddedLength agent.toStunAgentConfig size src user +
          signatureRoom agent.toStunAgentConfig req ≤ size) →
      ∃ r, finishReply crypto agent req msg control ret = .ok r ∧
        Built crypto agent req id src compatibility user size control ret r) ∧
    ∀ r, finishReply crypto agent req msg control ret = .ok r →
      rawLength agent.toStunAgentConfig size src user ≤ size →
        paddedLength agent.toStunAgentConfig size src user +
          signatureRoom agent.toStunAgentConfig req ≤ size := by
  have hsize := replyOps_size agent.toStunAgentConfig size id src compatibility none
  have hsize' := replyOps_size agent.toStunAgentConfig size id src compatibility user
  have hle := hans.size_le
  rw [finishReply, appendUsername, huser]
  -- the signature decides as soon as the USERNAME is there
  have hsigned {m : StunMessage} (hm : Answer agent.toStunAgentConfig req id
      (stunTypeBytes .response STUN_BINDING) size
      (replyOps agent.toStunAgentConfig size id src compatibility user) m)
      (hraw : rawLength agent.toStunAgentConfig size src user ≤ size) :
      ((rawLength agent.toStunAgentConfig size src user ≤ size →
        paddedLength agent.toStunAgentConfig size src user +
          signatureRoom agent.toStunAgentConfig req ≤ size) →
        ∃ r, signReply crypto agent m control ret = .ok r ∧
          Built crypto agent req id src compatibility user size control ret r) ∧
      ∀ r, signReply crypto agent m control ret = .ok r →
        rawLength agent.toStunAgentConfig size src user ≤ size →
          paddedLength agent.toStunAgentConfig size src user +
            signatureRoom agent.toStunAgentConfig req ≤ size := by
    obtain ⟨hmade, hnone⟩ := @signReply_spec crypto agent m req id size src control compatibility
      ret user hm hwrap
    refine ⟨fun h => hmade (h hraw), fun r hr _ => ?_⟩
    by_contra hfull
    rw [hnone (by omega)] at hr
    cases hr
  cases user with
  | none =>
      exact hsigned hans (by
        rw [rawLength, usernameRoom, Option.elim_none]
        rw [paddedLength, usernameRoom, Option.elim_none] at hsize
        omega)
  | some u =>
      have hstep := le_attributeStep agent.usageFlags.noAlignedAttributes u.length
      have happ := messageSize_append_bytes agent.usageFlags.noAlignedAttributes id
        (replyOps agent.toStunAgentConfig size id src compatibility none) STUN_ATTRIBUTE_USERNAME u
      have hops : replyOps agent.toStunAgentConfig size id src compatibility none ++
          [.bytes STUN_ATTRIBUTE_USERNAME u] =
            replyOps agent.toStunAgentConfig size id src compatibility (some u) := by
        simp [replyOps]
      have hraw : rawLength agent.toStunAgentConfig size src (some u) =
          paddedLength agent.toStunAgentConfig size src none + 4 + u.length := by
        simp only [rawLength, paddedLength, usernameRoom, Option.elim_some, Option.elim_none]
        omega
      simp only [bind, Except.bind]
      by_cases hfit : rawLength agent.toStunAgentConfig size src (some u) ≤ size
      swap
      · rw [hans.appendBytes_full _ (by omega)]
        exact ⟨fun _ => ⟨_, rfl, rfl, rfl, .inr ⟨.inl rfl, rfl⟩⟩, fun _ _ h => absurd h hfit⟩
      by_cases hpad : paddedLength agent.toStunAgentConfig size src (some u) ≤ size
      · obtain ⟨msg', hrun, hans'⟩ := hans.appendBytes_fits STUN_ATTRIBUTE_USERNAME u
          (by rw [hops]; rcases hwrap with hw | hw <;> omega) (by rw [hops]; omega)
        rw [hops] at hans'
        rw [hrun]
        exact hsigned hans' hfit
      · rw [hans.appendBytes_overflow _ (by omega) (by rw [hops]; omega)]
        refine ⟨fun h => absurd (h hfit) (by omega), fun r hr => by cases hr⟩

/-- **A success reply.**  It is built, or the failure reported, exactly when it has
room. -/
lemma buildReply_spec (hclass : stunMessageGetClass req = .ok .request)
    (hid : stunMessageId req = .ok id.toList)
    (hm : stunMessageGetMethod req = .ok STUN_BINDING)
    (huser : attributeValue req STUN_ATTRIBUTE_USERNAME = .ok user)
    (hwrap : NoWrap agent.toStunAgentConfig req src buf.length user) :
    (SuccessFits agent.toStunAgentConfig req src srclen buf.length user →
      ∃ r, buildReply crypto agent req msg buf src srclen control compatibility ret = .ok r ∧
        Built crypto agent req id src compatibility user buf.length control ret r) ∧
    ∀ r, buildReply crypto agent req msg buf src srclen control compatibility ret = .ok r →
      SuccessFits agent.toStunAgentConfig req src srclen buf.length user := by
  rw [buildReply, stunAgentInitResponse, hclass]
  simp only [bind, Except.bind, ne_eq, not_true, if_false]
  by_cases h20 : 20 ≤ buf.length
  swap
  · obtain ⟨msg', hinit⟩ := @initReply_short agent msg req buf .response _ id hid hm (by omega)
    rw [hinit]
    exact ⟨fun h => absurd h.header h20, fun r hr => by cases hr⟩
  obtain ⟨hmade, hfits⟩ := @initReply_answer agent msg req buf .response _ id hid hm h20
  by_cases hsoft : agent.SoftwareFits buf.length
  swap
  · refine ⟨fun h => absurd h.software hsoft, fun r hr => ?_⟩
    cases hinit : stunAgentInitReply agent msg buf .response req with
    | error e => simp [hinit] at hr
    | ok p => exact absurd (hfits p hinit) hsoft
  obtain ⟨msg₁, hinit, hans⟩ := hmade hsoft
  rw [hinit]
  simp only [Bool.not_true, Bool.false_eq_true, if_false]
  by_cases hsup : src.Supported srclen
  swap
  · obtain ⟨val, hrun, hval⟩ := @appendMappedAddress_refused _ _ _ _ _ _ srclen _ src compatibility
      hans hsup
    rw [hrun]
    refine ⟨fun _ => ?_, fun _ _ => ⟨h20, hsoft, fun h => absurd h hsup⟩⟩
    rcases hval with rfl | rfl <;> exact ⟨_, rfl, rfl, rfl, .inr ⟨.inr rfl, rfl⟩⟩
  rw [appendMappedAddress_supported hans hsup]
  have h800 := replyLength_le agent.toStunAgentConfig buf.length
  have haddr := attribute_length_le src
  have hmapped := mappedValue_length id compatibility src
  have hown := messageSize_ownReply agent.toStunAgentConfig id buf.length
  have hsize := replyOps_size agent.toStunAgentConfig buf.length id src compatibility none
  have hnone : paddedLength agent.toStunAgentConfig buf.length src none =
      replyLength agent.toStunAgentConfig buf.length + 4 + src.attribute.length := rfl
  have hraw : paddedLength agent.toStunAgentConfig buf.length src none ≤
      rawLength agent.toStunAgentConfig buf.length src user := by
    rw [hnone, rawLength]
    omega
  have hops : agent.ownReply buf.length ++
      [.bytes (mappedType id compatibility) (mappedValue id compatibility src)] =
        replyOps agent.toStunAgentConfig buf.length id src compatibility none := by
    simp [replyOps]
  by_cases hfit : paddedLength agent.toStunAgentConfig buf.length src none ≤ buf.length
  swap
  · rw [hans.appendBytes_full _ (by omega)]
    exact ⟨fun _ => ⟨_, rfl, rfl, rfl, .inr ⟨.inl rfl, rfl⟩⟩,
      fun _ _ => ⟨h20, hsoft, fun _ h => by omega⟩⟩
  obtain ⟨msg₂, hrun, hans₂⟩ := hans.appendBytes_fits (mappedType id compatibility)
    (mappedValue id compatibility src) (by rw [hops]; omega) (by rw [hops]; omega)
  rw [hops] at hans₂
  rw [hrun]
  simp only [not_true, if_false]
  obtain ⟨hdone, hroom⟩ := @finishReply_spec crypto agent _ req id buf.length src control
    compatibility ret user hans₂ huser hwrap
  exact ⟨fun h => hdone (h.rest hsup), fun r hr => ⟨h20, hsoft, fun _ => hroom r hr⟩⟩

end Build



/-! ### Failures -/

/-- The request claims the role of the agent, and the agent keeps it. -/
def Refuses (req : StunMessage) (control : Bool) (tie : UInt64) : Prop :=
  ∃ q, stunMessageFind64 req (roleAttribute control) = .ok (.success, some q) ∧ ¬tie < q

/-- The room that a reply needs: padding for the error to a request of another method, a
whole error for a role conflict, and a whole reply otherwise. -/
structure ReplyFits (agent : StunAgentConfig) (req : StunMessage) (src : Sockaddr) (srclen : ℕ)
    (control : Bool) (tie : UInt64) (size : ℕ) : Prop where
  other : stunMessageGetMethod req ≠ .ok STUN_BINDING → 20 ≤ size → ErrorPads agent size 400
  refused : stunMessageGetMethod req = .ok STUN_BINDING → Refuses req control tie →
    20 ≤ size ∧ agent.SoftwareFits size ∧
      replyLength agent size + 4 + attributeStep agent.usageFlags.noAlignedAttributes
        (errorValue STUN_ERROR_ROLE_CONFLICT).length + signatureRoom agent req ≤ size
  success : stunMessageGetMethod req = .ok STUN_BINDING → ¬Refuses req control tie →
    ∀ user, attributeValue req STUN_ATTRIBUTE_USERNAME = .ok user →
      SuccessFits agent req src srclen size user

/-- What a caller may rely on: with a success, `plen` bytes of the buffer are a message
with the method and the transaction id of the request; with a failure, `plen` is 0. -/
structure Clean (agent : StunAgentConfig) (req : StunMessage) (size : ℕ) (r : Reply) : Prop where
  made : r.ret = .success ∨ r.ret = .roleConflict →
    0 < r.plen ∧ r.plen ≤ size ∧
      stunMessageValidateBufferLength (r.msg.buffer.take r.plen)
        (!agent.usageFlags.noAlignedAttributes) = .ok r.plen ∧
      stunMessageGetMethod { r.msg with buffer := r.msg.buffer.take r.plen } =
        stunMessageGetMethod req ∧
      stunMessageId { r.msg with buffer := r.msg.buffer.take r.plen } = stunMessageId req
  failed : r.ret ≠ .success → r.ret ≠ .roleConflict → r.ret ≠ .invalidMethod → r.plen = 0

section Clean

variable {crypto : StunCrypto} {agent : StunAgent} {msg req : StunMessage} {buf : Bytes}
  {id : Vector UInt8 16} {size srclen : ℕ} {src : Sockaddr} {control : Bool} {tie : UInt64}
  {compatibility : StunUsageIceCompatibility} {ret : StunUsageIceReturn} {user : Option Bytes}

/-- A 64 bit attribute can always be read. -/
lemma find64_total {na : Bool} {rs : List (Attribute na)} (h : Visible na msg rs)
    (type : StunAttribute) : ∃ r, stunMessageFind64 msg type = .ok r := by
  rw [stunMessageFind64, find_visible h]
  cases hs : scan (misordered (msg.wireType type)) (msg.wireType type) 20 rs with
  | none => exact ⟨_, rfl⟩
  | some p =>
      obtain ⟨ptr, len⟩ := p
      obtain ⟨r, -, -, rfl, hle, hfit, -, -⟩ := scan_value h hs
      simp only [bind, Except.bind]
      by_cases h8 : r.len = 8
      · have hstep := le_attributeStep na r.len.toNat
        have h8' : r.len.toNat = 8 := by rw [h8]; rfl
        rw [if_pos h8, readWord32_of_lt (show ptr + 3 < msg.buffer.length by omega),
          readWord32_of_lt (show ptr + 4 + 3 < msg.buffer.length by omega)]
        exact ⟨_, rfl⟩
      · rw [if_neg h8]
        exact ⟨_, rfl⟩

/-- The transaction id of a message with a header. -/
lemma exists_messageId (h : 20 ≤ req.buffer.length) :
    ∃ id : Vector UInt8 16, stunMessageId req = .ok id.toList := by
  have hlen : ((req.buffer.drop STUN_MESSAGE_TRANS_ID_POS).take
      STUN_MESSAGE_TRANS_ID_LEN).length = 16 := by
    rw [List.length_take, List.length_drop, STUN_MESSAGE_TRANS_ID_POS, STUN_MESSAGE_TRANS_ID_LEN]
    omega
  refine ⟨⟨_, hlen⟩, ?_⟩
  rw [stunMessageId, readSlice_of_le (by
    rw [STUN_MESSAGE_TRANS_ID_POS, STUN_MESSAGE_TRANS_ID_LEN]
    omega)]
  rfl

/-- A finished reply is what a caller may rely on. -/
lemma made_of_finished {c : StunClass} {ops : List Append} {n : ℕ} {sha : Bytes} {fpr : UInt32}
    (h : Finished crypto agent.toStunAgentConfig req id (stunTypeBytes c STUN_BINDING) size ops msg
      n sha fpr) (hid : stunMessageId req = .ok id.toList)
    (hm : stunMessageGetMethod req = .ok STUN_BINDING) :
    0 < n ∧ n ≤ size ∧
      stunMessageValidateBufferLength (msg.buffer.take n)
        (!agent.usageFlags.noAlignedAttributes) = .ok n ∧
      stunMessageGetMethod { msg with buffer := msg.buffer.take n } =
        stunMessageGetMethod req ∧
      stunMessageId { msg with buffer := msg.buffer.take n } = stunMessageId req := by
  obtain ⟨hid', hm', h20, hle⟩ := h.header
  obtain ⟨rs, tail, hlaid, -⟩ := h.answer.laid
  exact ⟨by omega, hle, validate_of_framed h.framed,
    hm'.trans ((binding_header hlaid).2.trans hm.symm), hid'.trans hid.symm⟩

/-- A success reply is what a caller may rely on. -/
lemma Built.clean {r : Reply} (h : Built crypto agent req id src compatibility user size control
      ret r) (hid : stunMessageId req = .ok id.toList)
    (hm : stunMessageGetMethod req = .ok STUN_BINDING)
    (hret : ret = .success ∨ ret = .roleConflict) : Clean agent.toStunAgentConfig req size r := by
  rcases h.outcome with ⟨hr, sha, fpr, hfin⟩ | ⟨hr, hplen⟩
  · refine ⟨fun _ => made_of_finished hfin hid hm, fun hs hc => ?_⟩
    rw [hr] at hs hc
    rcases hret with rfl | rfl
    · exact absurd rfl hs
    · exact absurd rfl hc
  · refine ⟨fun hs => ?_, fun _ _ _ => hplen⟩
    rcases hr with hr | hr <;> rw [hr] at hs <;> simp at hs

/-- An error that is sent had room. -/
lemma stunBindError_room {n : ℕ} {m : StunMessage} {a : StunAgent} {code : ℕ}
    (hclass : stunMessageGetClass req = .ok .request) (hid : stunMessageId req = .ok id.toList)
    (hm : stunMessageGetMethod req = .ok STUN_BINDING) (hcode : (errorValue code).length ≤ 40)
    (hrun : stunBindError crypto agent msg buf req code = .ok (n, m, a)) (hpos : 0 < n) :
    20 ≤ buf.length ∧ agent.SoftwareFits buf.length ∧
      replyLength agent.toStunAgentConfig buf.length + 4 +
        attributeStep agent.usageFlags.noAlignedAttributes (errorValue code).length +
        signatureRoom agent.toStunAgentConfig req ≤ buf.length := by
  have hshort : 20 ≤ buf.length := by
    by_contra hshort
    obtain ⟨m', hrun'⟩ := @stunBindError_short crypto agent msg req buf id _ code hclass hid hm
      (by omega)
    obtain ⟨rfl, -⟩ := Prod.mk.inj (Except.ok.inj (hrun.symm.trans hrun'))
    exact absurd hpos (lt_irrefl 0)
  have hpads := (stunBindError_ok_iff hclass hid hm hcode).mp ⟨_, hrun⟩ hshort
  refine ⟨hshort, hpads.software, ?_⟩
  by_contra hfull
  obtain ⟨m', hrun'⟩ := (@stunBindError_binding crypto agent msg req buf id code hclass hid hm
    hshort hpads hcode).2 (by omega)
  obtain ⟨rfl, -⟩ := Prod.mk.inj (Except.ok.inj (hrun.symm.trans hrun'))
  exact absurd hpos (lt_irrefl 0)

/-- The error that refuses to give up the role. -/
lemma refused_clean_iff (hclass : stunMessageGetClass req = .ok .request)
    (hid : stunMessageId req = .ok id.toList)
    (hm : stunMessageGetMethod req = .ok STUN_BINDING) :
    (∃ n m a, stunBindError crypto agent msg buf req STUN_ERROR_ROLE_CONFLICT = .ok (n, m, a) ∧
        Clean agent.toStunAgentConfig req buf.length ⟨.success, m, a, n, control⟩) ↔
      20 ≤ buf.length ∧ agent.SoftwareFits buf.length ∧
        replyLength agent.toStunAgentConfig buf.length + 4 +
          attributeStep agent.usageFlags.noAlignedAttributes
            (errorValue STUN_ERROR_ROLE_CONFLICT).length +
          signatureRoom agent.toStunAgentConfig req ≤ buf.length := by
  have hcode : (errorValue STUN_ERROR_ROLE_CONFLICT).length ≤ 40 := by decide
  constructor
  · rintro ⟨n, m, a, hrun, hclean⟩
    exact stunBindError_room hclass hid hm hcode hrun (hclean.made (.inl rfl)).1
  · rintro ⟨h20, hsoft, hfit⟩
    have hpads : ErrorPads agent.toStunAgentConfig buf.length STUN_ERROR_ROLE_CONFLICT :=
      ⟨hsoft, fun _ => by omega⟩
    obtain ⟨n, m, sha, fpr, hrun, hfin⟩ := (@stunBindError_binding crypto agent msg req buf id
      STUN_ERROR_ROLE_CONFLICT hclass hid hm h20 hpads hcode).1 hfit
    exact ⟨n, m, agent, hrun, fun _ => made_of_finished hfin hid hm, fun h => absurd rfl h⟩

/-- **Clean failures.**  The call returns, and its caller may rely on what it returns,
exactly when there is room for the reply to the request. -/
theorem createReply_clean_iff (crypto : StunCrypto) (agent : StunAgent) (req msg : StunMessage)
    (buf : Bytes) (src : Sockaddr) (srclen : ℕ) (control : Bool) (tie : UInt64)
    (compatibility : StunUsageIceCompatibility) (h : Checked agent.toStunAgentConfig req)
    (hwrap : ∀ user, attributeValue req STUN_ATTRIBUTE_USERNAME = .ok user →
      NoWrap agent.toStunAgentConfig req src buf.length user) :
    (∃ r, stunUsageIceConncheckCreateReply crypto agent req msg buf src srclen control tie
        compatibility = .ok r ∧ Clean agent.toStunAgentConfig req buf.length r) ↔
      (stunMessageGetClass req = .ok .request →
        ReplyFits agent.toStunAgentConfig req src srclen control tie buf.length) := by
  obtain ⟨⟨c, hclass⟩, ⟨m, hm⟩, -⟩ := @header_total req h.twenty_le
  obtain ⟨id, hid⟩ := exists_messageId h.twenty_le
  obtain ⟨rs, hvis⟩ := h.visible
  obtain ⟨user, huser, -⟩ := attributeValue_visible hvis STUN_ATTRIBUTE_USERNAME
  obtain ⟨⟨val, q⟩, hfind⟩ := find64_total hvis (roleAttribute control)
  have hwrap := hwrap user huser
  rw [stunUsageIceConncheckCreateReply]
  simp only [hclass, hm, hfind, bind, Except.bind]
  by_cases hreq : c = .request
  swap
  · rw [if_pos hreq]
    exact ⟨fun _ h => absurd (Except.ok.inj h) hreq, fun _ => ⟨_, rfl, fun hs => by simp at hs,
      fun _ _ _ => rfl⟩⟩
  subst hreq
  refine Iff.trans ?_ (forall_prop_of_true rfl).symm
  rw [if_neg (by simp)]
  have hcode : (errorValue 400).length ≤ 40 := by decide
  by_cases hbind : m = STUN_BINDING
  swap
  · rw [if_pos hbind]
    have hok := @stunBindError_ok_iff crypto agent msg req buf id m 400 hclass hid hm hcode
    constructor
    · rintro ⟨r, hr, -⟩
      have hpads := hok.mp (by
        cases hrun : stunBindError crypto agent msg buf req 400 with
        | error e => simp [hrun] at hr
        | ok p => exact ⟨p, rfl⟩)
      have hne : stunMessageGetMethod req ≠ .ok STUN_BINDING := by
        rw [hm]
        exact fun he => hbind (Except.ok.inj he)
      exact ⟨fun _ => hpads, fun he => absurd he hne, fun he => absurd he hne⟩
    · intro hfits
      obtain ⟨⟨n, m', a⟩, hrun⟩ := hok.mpr (hfits.other (by
        rw [hm]
        exact fun he => hbind (Except.ok.inj he)))
      rw [hrun]
      exact ⟨_, rfl, fun hs => by simp at hs, fun _ _ hne => absurd rfl hne⟩
  subst hbind
  rw [if_neg (by simp)]
  -- the reply to a request that the agent does not refuse
  have hbuild {ctl : Bool} {ret : StunUsageIceReturn} (hret : ret = .success ∨ ret = .roleConflict)
      (hno : ¬Refuses req control tie) :
      (∃ r, buildReply crypto agent req msg buf src srclen ctl compatibility ret = .ok r ∧
        Clean agent.toStunAgentConfig req buf.length r) ↔
      ReplyFits agent.toStunAgentConfig req src srclen control tie buf.length := by
    obtain ⟨hmade, hfits⟩ := @buildReply_spec crypto agent msg req buf id srclen src ctl
      compatibility ret user hclass hid hm huser hwrap
    constructor
    · rintro ⟨r, hr, -⟩
      refine ⟨fun hne => absurd hm hne, fun _ hyes => absurd hyes hno, fun _ _ user' huser' => ?_⟩
      obtain rfl := Except.ok.inj (huser.symm.trans huser')
      exact hfits r hr
    · intro hfit
      obtain ⟨r, hr, hbuilt⟩ := hmade (hfit.success hm hno user huser)
      exact ⟨r, hr, hbuilt.clean hid hm hret⟩
  have hother (hne : ∀ q', (val, q) ≠ (.success, some q')) : ¬Refuses req control tie := by
    rintro ⟨q', hq', -⟩
    exact hne q' (Except.ok.inj (hfind.symm.trans hq'))
  cases val with
  | notFound => exact hbuild (.inl rfl) (hother nofun)
  | invalid => exact hbuild (.inl rfl) (hother nofun)
  | notEnoughSpace => exact hbuild (.inl rfl) (hother nofun)
  | unsupportedAddress => exact hbuild (.inl rfl) (hother nofun)
  | success =>
      cases q with
      | none => exact hbuild (.inl rfl) (hother nofun)
      | some q =>
          by_cases htie : tie < q
          · simp only [if_pos htie]
            refine hbuild (.inr rfl) ?_
            rintro ⟨q', hq', hn⟩
            obtain ⟨-, hqq⟩ := Prod.mk.inj (Except.ok.inj (hfind.symm.trans hq'))
            obtain rfl := Option.some.inj hqq
            exact hn htie
          · have href : Refuses req control tie := ⟨q, hfind, htie⟩
            simp only [if_neg htie]
            have hiff := @refused_clean_iff crypto agent msg req buf id control hclass hid hm
            constructor
            · rintro ⟨r, hr, hclean⟩
              refine ⟨fun hne => absurd hm hne, fun _ _ => hiff.mp ?_, fun _ hno => absurd href hno⟩
              cases hrun : stunBindError crypto agent msg buf req STUN_ERROR_ROLE_CONFLICT with
              | error e => simp [hrun] at hr
              | ok p =>
                  rw [hrun] at hr
                  obtain rfl := Except.ok.inj hr
                  exact ⟨p.1, p.2.1, p.2.2, rfl, hclean⟩
            · intro hfits
              obtain ⟨n, m', a, hrun, hclean⟩ := hiff.mpr (hfits.refused hm href)
              rw [hrun]
              exact ⟨_, rfl, hclean⟩

end Clean

/-! ### A reply without room for its signature -/

/-- An RFC 5245 agent. -/
def sampleAgent : StunAgent := niceAgentInitStunAgent .rfc5245 none

/-- A Binding request of the user `aaaa`, as that agent accepts it. -/
def sampleRequest : StunMessage :=
  { agent := some sampleAgent.toStunAgentConfig
    buffer := [0, 1, 0, 40] ++ be32 STUN_MAGIC_COOKIE ++ List.replicate 12 7 ++
      [0, 6, 0, 4, 97, 97, 97, 97] ++ [0, 8, 0, 20] ++ List.replicate 20 0 ++
      [128, 40, 0, 4, 202, 230, 152, 214]
    key := some [1]
    longTermKey := []
    longTermValid := false }

/-- Its source. -/
def sampleSource : Sockaddr := .ip4 80 (Vector.replicate 4 9)

lemma sampleRequest_validated :
    ∃ a, stunAgentValidate (constantCrypto 0) sampleAgent (plainRequest 0 []) sampleRequest.buffer
      (some fun _ _ _ _ => some (some [1])) = .ok (.success, sampleRequest, a) :=
  ok_of_finish (by decide +kernel)

/-- The reply to that request in a buffer of 100 bytes. -/
theorem createReply_clean_sample :
    ∃ r, stunUsageIceConncheckCreateReply (constantCrypto 0) sampleAgent sampleRequest
        (plainRequest 0 []) (List.replicate 100 0) sampleSource 128 true 0 .rfc5245 = .ok r ∧
      Clean sampleAgent.toStunAgentConfig sampleRequest 100 r := by
  obtain ⟨a, hval⟩ := sampleRequest_validated
  have hm : stunMessageGetMethod sampleRequest = .ok STUN_BINDING := by decide +kernel
  have hfind : stunMessageFind64 sampleRequest (roleAttribute true) = .ok (.notFound, none) := by
    decide +kernel
  have huser : attributeValue sampleRequest STUN_ATTRIBUTE_USERNAME =
      .ok (some [97, 97, 97, 97]) := by decide +kernel
  have hno : ¬Refuses sampleRequest true 0 := by
    rintro ⟨q, hq, -⟩
    cases hfind.symm.trans hq
  refine (createReply_clean_iff (constantCrypto 0) sampleAgent sampleRequest (plainRequest 0 [])
    (List.replicate 100 0) sampleSource 128 true 0 .rfc5245 (.of_validate hval (.inl rfl))
    fun _ _ => .inl (by decide)).mpr fun _ => ⟨fun hne => absurd hm hne,
      fun _ hyes => absurd hyes hno, fun _ _ user hu => ?_⟩
  obtain rfl := Except.ok.inj (huser.symm.trans hu)
  exact ⟨by decide, fun hsoft => absurd hsoft (by decide), fun _ _ => by decide⟩

/-- In a buffer of 60 bytes there is room for the address and the USERNAME of the reply
but not for its MESSAGE-INTEGRITY, and `assert (0)` is reached. -/
theorem unsigned_reply_aborts :
    ∃ a, stunAgentValidate (constantCrypto 0) sampleAgent (plainRequest 0 []) sampleRequest.buffer
        (some fun _ _ _ _ => some (some [1])) = .ok (.success, sampleRequest, a) ∧
      stunUsageIceConncheckCreateReply (constantCrypto 0) sampleAgent sampleRequest
        (plainRequest 0 []) (List.replicate 60 0) sampleSource 128 true 0 .rfc5245 =
          .error .assertFailed := by
  obtain ⟨a, hval⟩ := sampleRequest_validated
  refine ⟨a, hval, ?_⟩
  have hrun : (match stunUsageIceConncheckCreateReply (constantCrypto 0) sampleAgent sampleRequest
      (plainRequest 0 []) (List.replicate 60 0) sampleSource 128 true 0 .rfc5245 with
    | .ok _ => false
    | .error e => decide (e = .assertFailed)) = true := by decide +kernel
  split at hrun
  · cases hrun
  next e he => rw [he, of_decide_eq_true hrun]

end LibNice.Ice.Wire
