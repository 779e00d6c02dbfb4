import LibNice.Stun.RoundTrip

/-!
Replies of an agent, byte by byte: the reply functions of `stun/stunagent.c` and
`stun/stunmessage.c`.

* `stunStrerror`, `stunMessageAppendError`: the ERROR-CODE attribute.
* `stunAgentInitResponse`, `stunAgentInitError`: fresh replies.
* `append_full`, `append_overflow`: an attribute that does not fit a buffer, and
  one that fits it only without its padding.
* `Answer`: a reply under construction, with the attributes it has so far.
* `Answer.finish_ok`: what `stun_agent_finish_message` makes of a reply.
-/

namespace LibNice.Stun

open LibNice.Foundation

/-! ### Errors -/

/-- The bytes of a text. -/
def ascii (s : String) : Bytes := s.toList.map fun c => UInt8.ofNat c.toNat

/-- The phrases of `stun_strerror`. -/
def stunStrerrorTable : List (ℕ × String) :=
  [(300, "Try alternate server"), (400, "Bad request"), (401, "Unauthorized"),
    (420, "Unknown Attribute"), (437, "Allocation Mismatch"), (438, "Stale Nonce"),
    (439, "Active Destination Already Set"), (440, "Address Family not Supported"),
    (442, "Unsupported Transport Protocol"), (443, "Invalid IP Address"), (444, "Invalid Port"),
    (445, "Operation for TCP Only"), (446, "Connection Already Exists"),
    (486, "Allocation Quota Reached"), (487, "Role conflict"), (500, "Server Error"),
    (507, "Insufficient Capacity"), (508, "Insufficient Capacity")]

/-- `stun_strerror`. -/
def stunStrerror (code : ℕ) : Bytes :=
  ascii ((stunStrerrorTable.lookup code).getD "Unknown error")

/-- The value of an ERROR-CODE attribute. -/
def errorValue (code : ℕ) : Bytes :=
  [0, 0, UInt8.ofNat (code / 100), UInt8.ofNat (code % 100)] ++ stunStrerror code

/-- `stun_message_append_error`. -/
def stunMessageAppendError (msg : StunMessage) (code : ℕ) :
    Except Fault (StunMessage × StunMessageReturn) :=
  stunMessageAppendBytes msg STUN_ATTRIBUTE_ERROR_CODE (errorValue code)

/-! ### Fresh replies -/

/-- Whether an agent adds a SOFTWARE attribute by itself. -/
def StunAgentConfig.namesSoftware (agent : StunAgentConfig) : Bool :=
  agent.compatibility.usesCookie &&
    (agent.softwareAttribute.isSome || agent.usageFlags.addSoftware)

/-- What `stun_agent_init_response` and `stun_agent_init_error` do alike: a message
of class `c` with the method, the transaction id and the keys of a request. -/
def stunAgentInitReply (agent : StunAgent) (msg : StunMessage) (buffer : Bytes) (c : StunClass)
    (request : StunMessage) : Except Fault (StunMessage × Bool) := do
  let msg := { msg with
    agent := some agent.toStunAgentConfig, buffer, key := request.key
    longTermKey := request.longTermKey, longTermValid := request.longTermValid }
  let id ← stunMessageId request
  let m ← stunMessageGetMethod request
  let (msg, ret) ← stunMessageInit msg c m id
  if ret && agent.namesSoftware then
    let (msg, _) ← stunMessageAppendSoftware msg agent.softwareAttribute
    return (msg, ret)
  else return (msg, ret)

/-- `stun_agent_init_response`. -/
def stunAgentInitResponse (agent : StunAgent) (msg : StunMessage) (buffer : Bytes)
    (request : StunMessage) : Except Fault (StunMessage × Bool) := do
  if (← stunMessageGetClass request) ≠ .request then return (msg, false)
  else stunAgentInitReply agent msg buffer .response request

/-- `stun_agent_init_error`. -/
def stunAgentInitError (agent : StunAgent) (msg : StunMessage) (buffer : Bytes)
    (request : StunMessage) (err : ℕ) : Except Fault (StunMessage × Bool) := do
  if (← stunMessageGetClass request) ≠ .request then return (msg, false)
  else
    let (msg, ret) ← stunAgentInitReply agent msg buffer .error request
    if ret then
      let (msg, val) ← stunMessageAppendError msg err
      return (msg, val = .success)
    else return (msg, false)

/-! ### Attributes that do not fit -/

section Room

variable {na : Bool} {msg : StunMessage} {ty id tail : Bytes} {rs : List (Attribute na)}

/-- There is no room for an attribute. -/
lemma append_full (h : Laid na msg ty id rs tail) (type : StunAttribute) {n : ℕ}
    (hfull : msg.buffer.length < 20 + (encodeAll rs).length + 4 + n) :
    stunMessageAppend msg type n = .ok (msg, none) := by
  have hlt := h.lt
  have hnat : (UInt16.ofNat (20 + (encodeAll rs).length)).toNat = 20 + (encodeAll rs).length := by
    rw [UInt16.toNat_ofNat', Nat.mod_eq_of_lt hlt]
  rw [stunMessageAppend, h.messageLength]
  simp only [bind, Except.bind, hnat, STUN_ATTRIBUTE_HEADER_LENGTH, STUN_ATTRIBUTE_VALUE_POS,
    StunMessage.bufferLen]
  rw [if_pos hfull]
  rfl

lemma appendBytes_full (h : Laid na msg ty id rs tail) (type : StunAttribute) {data : Bytes}
    (hfull : msg.buffer.length < 20 + (encodeAll rs).length + 4 + data.length) :
    stunMessageAppendBytes msg type data = .ok (msg, .notEnoughSpace) := by
  rw [stunMessageAppendBytes, append_full h type hfull]
  rfl

/-- There is room for an attribute, but not for the padding behind it, which is
written behind the buffer. -/
lemma append_overflow (h : Laid na msg ty id rs tail) (type : StunAttribute) {n : ℕ}
    (hfit : 20 + (encodeAll rs).length + 4 + n ≤ msg.buffer.length)
    (hover : msg.buffer.length < 20 + (encodeAll rs).length + 4 + attributeStep na n) :
    stunMessageAppend msg type n = .error .outOfBounds := by
  have hlt := h.lt
  have hlen := h.bufferLen
  obtain rfl : na = false := by
    cases na with
    | false => rfl
    | true =>
        simp only [attributeStep, if_true] at hover
        omega
  have hpad := stunAlign_eq n
  simp only [attributeStep, Bool.false_eq_true, if_false] at hover
  have hnat : (UInt16.ofNat (20 + (encodeAll rs).length)).toNat = 20 + (encodeAll rs).length := by
    rw [UInt16.toNat_ofNat', Nat.mod_eq_of_lt hlt]
  have hfull : ¬20 + (encodeAll rs).length + 4 + n > msg.buffer.length := by omega
  obtain ⟨t₁, t₂, rfl, h₁⟩ : ∃ t₁ t₂ : Bytes, tail = t₁ ++ t₂ ∧ t₁.length = 2 :=
    ⟨tail.take 2, tail.drop 2, (List.take_append_drop 2 tail).symm, by
      rw [List.length_take]; omega⟩
  set pre := ty ++ be16 (encodeAll rs).length ++ id ++ encodeAll rs with hpre
  have hprelen : pre.length = 20 + (encodeAll rs).length := by
    simp only [hpre, List.length_append, h.ty_length, h.id_length, be16_length]
  set wtype := (msg.wireType type).toNat
  have hst : stunSetw msg.buffer (20 + (encodeAll rs).length) wtype =
      .ok (pre ++ (be16 wtype ++ t₂)) := by
    rw [stunSetw, h.buffer, ← hpre, writeSlice_append hprelen (by simp [h₁])]
  have hlaid : Laid false { msg with buffer := pre ++ (be16 wtype ++ t₂) } ty id rs
      (be16 wtype ++ t₂) := ⟨h.noAligned, h.ty_length, h.id_length, h.lt, rfl⟩
  have hlen' : (pre ++ (be16 wtype ++ t₂)).length = msg.buffer.length := by
    simp only [List.length_append, hprelen, be16_length, hlen, h₁]
  have hna : StunMessage.noAligned { msg with buffer := pre ++ (be16 wtype ++ t₂) } = false :=
    h.noAligned
  rw [stunMessageAppend, h.messageLength]
  simp only [bind, Except.bind, hnat, STUN_ATTRIBUTE_HEADER_LENGTH, STUN_ATTRIBUTE_VALUE_POS,
    StunMessage.bufferLen]
  rw [if_neg hfull, hst]
  simp only [storeLengthAndPadding, hna, Bool.false_eq_true, if_false, hlaid.cookie, bind,
    Except.bind]
  have hset : stunSetw (pre ++ (be16 wtype ++ t₂)) (20 + (encodeAll rs).length + 2)
      (if hasCookie id = true then n else stunAlign n) = .ok _ :=
    writeSlice_of_le (by rw [hlen', be16_length]; omega)
  obtain ⟨hkeep, -⟩ := writeSlice_eq_ok hset
  rw [hset]
  simp only
  rw [writeSlice, if_neg (by rw [List.replicate_eq_nil_iff]; omega), if_neg]
  rw [List.length_replicate, hkeep, hlen']
  omega

lemma appendBytes_overflow (h : Laid na msg ty id rs tail) (type : StunAttribute) {data : Bytes}
    (hfit : 20 + (encodeAll rs).length + 4 + data.length ≤ msg.buffer.length)
    (hover : msg.buffer.length < 20 + (encodeAll rs).length + 4 + attributeStep na data.length) :
    stunMessageAppendBytes msg type data = .error .outOfBounds := by
  rw [stunMessageAppendBytes, append_overflow h type hfit hover]
  rfl

end Room

/-! ### Replies under construction -/

/-- A reply to `req` with the type field `ty` and the attributes of the calls `ops`, which
an agent builds in a block of `size` bytes. -/
structure Answer (agent : StunAgentConfig) (req : StunMessage) (id : Vector UInt8 16) (ty : Bytes)
    (size : ℕ) (ops : List Append) (msg : StunMessage) : Prop where
  config : msg.agent = some agent
  key : msg.key = req.key
  longTermKey : msg.longTermKey = req.longTermKey
  longTermValid : msg.longTermValid = req.longTermValid
  size : msg.buffer.length = size
  laid : ∃ rs tail, Laid agent.usageFlags.noAlignedAttributes msg ty id.toList rs tail ∧
    List.Forall₂ (Encodes msg.wireType id) ops rs

lemma messageSize_append_bytes (na : Bool) (id : Vector UInt8 16) (ops : List Append)
    (type : StunAttribute) (data : Bytes) :
    messageSize na id (ops ++ [.bytes type data]) =
      messageSize na id ops + 4 + attributeStep na data.length := by
  simp only [messageSize, List.map_append, List.sum_append, List.map_cons, List.map_nil,
    List.sum_cons, List.sum_nil, Append.value]
  omega

namespace Answer

variable {agent : StunAgentConfig} {req msg : StunMessage} {id : Vector UInt8 16} {ty : Bytes}
  {size : ℕ} {ops : List Append}

lemma size_le (h : Answer agent req id ty size ops msg) :
    messageSize agent.usageFlags.noAlignedAttributes id ops ≤ size := by
  obtain ⟨rs, tail, hlaid, hrs⟩ := h.laid
  have hlen := hlaid.bufferLen
  have hsize := messageSize_eq hrs
  have := h.size
  omega

lemma appendBytes_full (h : Answer agent req id ty size ops msg) (type : StunAttribute)
    {data : Bytes} (hfull : size < messageSize agent.usageFlags.noAlignedAttributes id ops + 4 +
      data.length) :
    stunMessageAppendBytes msg type data = .ok (msg, .notEnoughSpace) := by
  obtain ⟨rs, tail, hlaid, hrs⟩ := h.laid
  have hsize := messageSize_eq hrs
  exact Stun.appendBytes_full hlaid type (by rw [h.size]; omega)

lemma appendBytes_overflow (h : Answer agent req id ty size ops msg) (type : StunAttribute)
    {data : Bytes}
    (hfit : messageSize agent.usageFlags.noAlignedAttributes id ops + 4 + data.length ≤ size)
    (hover : size < messageSize agent.usageFlags.noAlignedAttributes id
      (ops ++ [.bytes type data])) :
    stunMessageAppendBytes msg type data = .error .outOfBounds := by
  obtain ⟨rs, tail, hlaid, hrs⟩ := h.laid
  have hsize := messageSize_eq hrs
  rw [messageSize_append_bytes] at hover
  exact Stun.appendBytes_overflow hlaid type (by rw [h.size]; omega) (by rw [h.size]; omega)

/-- The reply with another buffer of the same size. -/
lemma of_buffer (h : Answer agent req id ty size ops msg) {buffer : Bytes} {ops' : List Append}
    {rs tail} (hlaid : Laid agent.usageFlags.noAlignedAttributes { msg with buffer } ty id.toList
      rs tail) (hrs : List.Forall₂ (Encodes msg.wireType id) ops' rs)
    (hlen : messageSize agent.usageFlags.noAlignedAttributes id ops' + tail.length = size) :
    Answer agent req id ty size ops' { msg with buffer } := by
  refine ⟨h.config, h.key, h.longTermKey, h.longTermValid, ?_, rs, tail, hlaid, hrs⟩
  rw [hlaid.bufferLen, messageSize_eq hrs]
  exact hlen

lemma appendBytes_fits (h : Answer agent req id ty size ops msg) (type : StunAttribute)
    (data : Bytes)
    (hlt : messageSize agent.usageFlags.noAlignedAttributes id (ops ++ [.bytes type data]) < 65536)
    (hfit : messageSize agent.usageFlags.noAlignedAttributes id (ops ++ [.bytes type data]) ≤
      size) :
    ∃ msg', stunMessageAppendBytes msg type data = .ok (msg', .success) ∧
      Answer agent req id ty size (ops ++ [.bytes type data]) msg' := by
  obtain ⟨rs, tail, hlaid, hrs⟩ := h.laid
  have hsize := messageSize_eq hrs
  have hlen := hlaid.bufferLen
  have hle := le_attributeStep agent.usageFlags.noAlignedAttributes data.length
  have hblock := h.size
  have happ := messageSize_append_bytes agent.usageFlags.noAlignedAttributes id ops type data
  have hroom : (tail.take (4 + attributeStep agent.usageFlags.noAlignedAttributes
      data.length)).length =
        4 + attributeStep agent.usageFlags.noAlignedAttributes data.length := by
    rw [List.length_take]
    omega
  rw [← List.take_append_drop (4 + attributeStep agent.usageFlags.noAlignedAttributes
    data.length) tail] at hlaid
  obtain ⟨buffer, hrun, hlaid'⟩ := appendBytes_laid type hlaid hroom (by omega) (by omega)
  refine ⟨_, hrun, h.of_buffer hlaid' (List.rel_append hrs (.cons
    (encodes_attributeOf msg.wireType (.bytes type data) (by
      have : ((Append.bytes type data).value id).length = data.length := rfl
      omega)) .nil)) ?_⟩
  rw [List.length_drop]
  omega

end Answer

/-! ### The start of a reply -/

/-- The walk over a SOFTWARE text stops inside the text, after 128 characters at most. -/
lemma softwareLoop_lt {software : Bytes} {room ptr q : ℕ}
    (h : softwareLoop software room ptr = .ok q) : q < software.length ∧ q ≤ ptr + 6 * room := by
  induction room generalizing ptr with
  | zero =>
      rw [softwareLoop] at h
      obtain ⟨c, hc, h⟩ := bind_eq_ok.mp h
      obtain ⟨hlt, -⟩ := List.getElem?_eq_some_iff.mp (readByte_eq_ok.mp hc)
      split at h <;> obtain rfl := Except.ok.inj h <;> exact ⟨hlt, by omega⟩
  | succ room ih =>
      rw [softwareLoop] at h
      obtain ⟨c, hc, h⟩ := bind_eq_ok.mp h
      obtain ⟨hlt, -⟩ := List.getElem?_eq_some_iff.mp (readByte_eq_ok.mp hc)
      have hskip : utf8SkipData c ≤ 6 := by
        rw [utf8SkipData]
        repeat' split
        all_goals omega
      split at h
      · obtain rfl := Except.ok.inj h
        exact ⟨hlt, by omega⟩
      · obtain ⟨hq, hle⟩ := ih h
        exact ⟨hq, by omega⟩

lemma softwareValue_length_le (software : Option Bytes) :
    (softwareValue software).length ≤ 768 := by
  rw [softwareValue]
  split
  next ptr h =>
    have := (softwareLoop_lt h).2
    rw [List.length_take]
    omega
  next => simp

/-- The SOFTWARE attribute that an agent adds by itself is a text that ends where
it should, and it fits a buffer with its padding if it fits without. -/
def StunAgentConfig.SoftwareFits (agent : StunAgentConfig) (size : ℕ) : Prop :=
  agent.namesSoftware →
    (∃ ptr, softwareLoop (agent.softwareAttribute.getD PACKAGE_STRING) 128 0 = .ok ptr) ∧
      (24 + (softwareValue agent.softwareAttribute).length ≤ size →
        24 + attributeStep agent.usageFlags.noAlignedAttributes
          (softwareValue agent.softwareAttribute).length ≤ size)

/-- What the agent appends to a reply by itself. -/
def StunAgentConfig.ownReply (agent : StunAgentConfig) (size : ℕ) : List Append :=
  if agent.namesSoftware ∧ 24 + (softwareValue agent.softwareAttribute).length ≤ size then
    [.bytes STUN_ATTRIBUTE_SOFTWARE (softwareValue agent.softwareAttribute)]
  else []

lemma ownReply_type {agent : StunAgentConfig} {size : ℕ} {op : Append}
    (h : op ∈ agent.ownReply size) : op.type = STUN_ATTRIBUTE_SOFTWARE := by
  rw [StunAgentConfig.ownReply] at h
  split at h
  · obtain rfl := List.mem_singleton.mp h
    rfl
  · simp at h

lemma ownReply_size_le (agent : StunAgentConfig) (id : Vector UInt8 16) (size : ℕ) :
    messageSize agent.usageFlags.noAlignedAttributes id (agent.ownReply size) ≤ 800 := by
  rw [StunAgentConfig.ownReply]
  split
  · have h768 := softwareValue_length_le agent.softwareAttribute
    have hstep := attributeStep_lt agent.usageFlags.noAlignedAttributes
      (softwareValue agent.softwareAttribute).length
    have := messageSize_append_bytes agent.usageFlags.noAlignedAttributes id []
      STUN_ATTRIBUTE_SOFTWARE
      (softwareValue agent.softwareAttribute)
    simp only [List.nil_append] at this
    have h20 : messageSize agent.usageFlags.noAlignedAttributes id [] = 20 := rfl
    omega
  · have h20 : messageSize agent.usageFlags.noAlignedAttributes id [] = 20 := rfl
    omega

section Init

variable {agent : StunAgent} {msg req : StunMessage} {buffer : Bytes} {c : StunClass}
  {m : StunMethod} {id : Vector UInt8 16}

lemma appendSoftware_eq {software : Option Bytes} {ptr : ℕ}
    (h : softwareLoop (software.getD PACKAGE_STRING) 128 0 = .ok ptr) :
    stunMessageAppendSoftware msg software =
      stunMessageAppendBytes msg STUN_ATTRIBUTE_SOFTWARE (softwareValue software) := by
  have hlt := (softwareLoop_lt h).1
  have hvalue : readSlice (software.getD PACKAGE_STRING) 0 ptr = .ok (softwareValue software) := by
    rw [readSlice_of_le (by omega), softwareValue, h]
    rfl
  rw [stunMessageAppendSoftware, h]
  simp only [bind, Except.bind, hvalue]

lemma softwareLoop_of_append {software : Option Bytes} {r : StunMessage × StunMessageReturn}
    (h : stunMessageAppendSoftware msg software = .ok r) :
    ∃ ptr, softwareLoop (software.getD PACKAGE_STRING) 128 0 = .ok ptr := by
  rw [stunMessageAppendSoftware] at h
  obtain ⟨ptr, hptr, -⟩ := bind_eq_ok.mp h
  exact ⟨ptr, hptr⟩

/-- The SOFTWARE attribute of a reply. -/
lemma Answer.software {size : ℕ} {ty : Bytes}
    (h : Answer agent.toStunAgentConfig req id ty size [] msg)
    (hsoft : agent.namesSoftware = true) :
    (agent.SoftwareFits size →
      ∃ msg' val, stunMessageAppendSoftware msg agent.softwareAttribute = .ok (msg', val) ∧
        Answer agent.toStunAgentConfig req id ty size (agent.ownReply size) msg') ∧
    ∀ r, stunMessageAppendSoftware msg agent.softwareAttribute = .ok r →
      agent.SoftwareFits size := by
  have h20 : messageSize agent.usageFlags.noAlignedAttributes id [] = 20 := rfl
  have happ := messageSize_append_bytes agent.usageFlags.noAlignedAttributes id []
    STUN_ATTRIBUTE_SOFTWARE (softwareValue agent.softwareAttribute)
  have hle := softwareValue_length_le agent.softwareAttribute
  have hstep := attributeStep_lt agent.usageFlags.noAlignedAttributes
    (softwareValue agent.softwareAttribute).length
  constructor
  · intro hfits
    obtain ⟨⟨ptr, hloop⟩, hpad⟩ := hfits hsoft
    rw [appendSoftware_eq hloop]
    by_cases hfit : 24 + (softwareValue agent.softwareAttribute).length ≤ size
    · have hpad := hpad hfit
      obtain ⟨msg', hrun, hans⟩ := h.appendBytes_fits STUN_ATTRIBUTE_SOFTWARE
        (softwareValue agent.softwareAttribute) (by omega) (by omega)
      refine ⟨msg', .success, hrun, ?_⟩
      rw [StunAgentConfig.ownReply, if_pos ⟨hsoft, hfit⟩]
      exact hans
    · refine ⟨msg, .notEnoughSpace, h.appendBytes_full _ (by omega), ?_⟩
      rw [StunAgentConfig.ownReply, if_neg fun h => hfit h.2]
      exact h
  · intro r hr _
    obtain ⟨ptr, hloop⟩ := softwareLoop_of_append hr
    refine ⟨⟨ptr, hloop⟩, fun hfit => ?_⟩
    by_contra hover
    rw [appendSoftware_eq hloop, h.appendBytes_overflow _ (by omega) (by omega)] at hr
    cases hr

/-- A buffer without room for a header. -/
lemma initReply_short (hid : stunMessageId req = .ok id.toList)
    (hm : stunMessageGetMethod req = .ok m) (hshort : buffer.length < 20) :
    ∃ msg', stunAgentInitReply agent msg buffer c req = .ok (msg', false) := by
  have hinit (msg : StunMessage) (hmsg : msg.buffer = buffer) :
      stunMessageInit msg c m id.toList = .ok (msg, false) :=
    if_pos (by subst hmsg; exact hshort)
  rw [stunAgentInitReply, hid, hm]
  simp only [bind, Except.bind, hinit]
  exact ⟨_, rfl⟩

/-- **The start of a reply**: it has a result exactly when the SOFTWARE attribute fits. -/
lemma initReply_answer (hid : stunMessageId req = .ok id.toList)
    (hm : stunMessageGetMethod req = .ok m) (h20 : 20 ≤ buffer.length) :
    (agent.SoftwareFits buffer.length →
      ∃ msg', stunAgentInitReply agent msg buffer c req = .ok (msg', true) ∧
        Answer agent.toStunAgentConfig req id (stunTypeBytes c m) buffer.length
          (agent.ownReply buffer.length) msg') ∧
    ∀ r, stunAgentInitReply agent msg buffer c req = .ok r → agent.SoftwareFits buffer.length := by
  obtain ⟨b, tail, hinit, hlaid, htail⟩ := @init_laid agent.usageFlags.noAlignedAttributes id
    { msg with
      agent := some agent.toStunAgentConfig, buffer, key := req.key
      longTermKey := req.longTermKey, longTermValid := req.longTermValid } c m rfl h20
  simp only at htail
  generalize hmsg₁ : ({ msg with
      agent := some agent.toStunAgentConfig, buffer := b, key := req.key
      longTermKey := req.longTermKey, longTermValid := req.longTermValid } : StunMessage) = msg₁
    at hinit hlaid
  have hans : Answer agent.toStunAgentConfig req id (stunTypeBytes c m) buffer.length [] msg₁ := by
    subst hmsg₁
    refine ⟨rfl, rfl, rfl, rfl, ?_, [], tail, hlaid, .nil⟩
    rw [hlaid.bufferLen, encodeAll_nil, List.length_nil]
    omega
  rw [stunAgentInitReply, hid, hm]
  simp only [bind, Except.bind, hinit, Bool.true_and]
  by_cases hsoft : agent.namesSoftware = true
  · obtain ⟨hgood, hbad⟩ := hans.software hsoft
    rw [if_pos hsoft]
    constructor
    · intro hfits
      obtain ⟨msg₂, val, hrun, hans₂⟩ := hgood hfits
      rw [hrun]
      exact ⟨msg₂, rfl, hans₂⟩
    · intro r hr
      cases hrun : stunMessageAppendSoftware msg₁ agent.softwareAttribute with
      | error e =>
          rw [hrun] at hr
          cases hr
      | ok p => exact hbad p hrun
  · rw [if_neg hsoft]
    refine ⟨fun _ => ⟨msg₁, rfl, ?_⟩, fun _ _ h => absurd h hsoft⟩
    rw [StunAgentConfig.ownReply, if_neg fun h => hsoft h.1]
    exact hans

end Init

/-! ### The end of a reply -/

/-- Whether `stun_agent_finish_message` adds a MESSAGE-INTEGRITY to a reply to `req`:
there is a key and, for long-term credentials, it belongs to a user. -/
def StunAgentConfig.signsReply (agent : StunAgentConfig) (req : StunMessage) : Bool :=
  req.key.isSome && (req.longTermValid || !agent.usageFlags.longTermCredentials)

/-- The attributes that `stun_agent_finish_message` appends to a reply. -/
def StunAgentConfig.replySignature (agent : StunAgentConfig) (req : StunMessage) (sha : Bytes)
    (fpr : UInt32) : List Append :=
  (if agent.signsReply req then [.bytes STUN_ATTRIBUTE_MESSAGE_INTEGRITY sha] else []) ++
    if agent.fingerprinted then [.word32 STUN_ATTRIBUTE_FINGERPRINT fpr] else []

/-- The room that they take. -/
def StunAgentConfig.integrityRoom (agent : StunAgentConfig) (req : StunMessage) : ℕ :=
  if agent.signsReply req then 24 else 0

def StunAgentConfig.fingerprintRoom (agent : StunAgentConfig) : ℕ :=
  if agent.fingerprinted then 8 else 0

/-- The key of the MESSAGE-INTEGRITY of a reply. -/
def StunAgentConfig.replyKey (agent : StunAgentConfig) (req : StunMessage) : Bytes :=
  if agent.usageFlags.longTermCredentials then req.longTermKey else req.key.getD []

lemma messageSize_append (na : Bool) (id : Vector UInt8 16) (ops ops' : List Append) :
    messageSize na id (ops ++ ops') + 20 = messageSize na id ops + messageSize na id ops' := by
  simp only [messageSize, List.map_append, List.sum_append]
  omega

namespace Answer

variable {agent : StunAgentConfig} {req msg : StunMessage} {id : Vector UInt8 16} {ty : Bytes}
  {size : ℕ} {ops : List Append} {crypto : StunCrypto}

/-- The long-term key of a reply is the one of the request. -/
lemma builtLongTermKey (h : Answer agent req id ty size ops msg)
    (hrealm : ∀ op ∈ ops, op.type ≠ STUN_ATTRIBUTE_REALM) (key : Bytes) :
    Stun.builtLongTermKey crypto agent msg key =
      .ok (msg, !(req.longTermValid || !agent.usageFlags.longTermCredentials)) := by
  obtain ⟨rs, tail, hlaid, hrs⟩ := h.laid
  rw [Stun.builtLongTermKey, h.longTermValid]
  cases hv : req.longTermValid with
  | true => rfl
  | false =>
      cases hl : agent.usageFlags.longTermCredentials with
      | false => rfl
      | true =>
          have hnone : attributeValue msg STUN_ATTRIBUTE_REALM = .ok none := by
            rw [attributeValue, find_none_of_firstOf hlaid hrs]
            · rfl
            · rintro op ⟨pre, post, rfl, ht, -⟩
              exact hrealm op (by simp) ht
          obtain ⟨username, husername, -⟩ :=
            attributeValue_visible hlaid.visible STUN_ATTRIBUTE_USERNAME
          simp only [Bool.false_eq_true, if_false, if_true, hnone, husername, bind, Except.bind]
          cases username <;> rfl

/-- A reply that is not signed. -/
lemma appendIntegrity_none (h : Answer agent req id ty size ops msg)
    (hrealm : ∀ op ∈ ops, op.type ≠ STUN_ATTRIBUTE_REALM) (hno : agent.signsReply req = false) :
    appendIntegrity crypto agent msg req.key = .ok (msg, true) := by
  rw [StunAgentConfig.signsReply] at hno
  cases hk : req.key with
  | none => rfl
  | some key =>
      rw [hk] at hno
      rw [appendIntegrity, h.builtLongTermKey hrealm]
      simp only [Option.isSome_some, Bool.true_and] at hno
      simp only [hno, bind, Except.bind, Bool.not_false, if_true]
      rfl

/-- There is no room for the MESSAGE-INTEGRITY. -/
lemma appendIntegrity_full (h : Answer agent req id ty size ops msg)
    (hrealm : ∀ op ∈ ops, op.type ≠ STUN_ATTRIBUTE_REALM) (hsigns : agent.signsReply req = true)
    (hfull : size < messageSize agent.usageFlags.noAlignedAttributes id ops + 24) :
    appendIntegrity crypto agent msg req.key = .ok (msg, false) := by
  rw [StunAgentConfig.signsReply, Bool.and_eq_true] at hsigns
  obtain ⟨hsome, hvalid⟩ := hsigns
  obtain ⟨key, hk⟩ := Option.isSome_iff_exists.mp hsome
  obtain ⟨rs, tail, hlaid, hrs⟩ := h.laid
  have hsize := messageSize_eq hrs
  rw [hk, appendIntegrity, h.builtLongTermKey hrealm]
  simp only [hvalid, bind, Except.bind, Bool.not_true, Bool.false_eq_true, if_false,
    append_full hlaid STUN_ATTRIBUTE_MESSAGE_INTEGRITY
      (show msg.buffer.length < 20 + (encodeAll rs).length + 4 + 20 by rw [h.size]; omega)]
  rfl

/-- The MESSAGE-INTEGRITY of a reply. -/
lemma appendIntegrity_fits (h : Answer agent req id ty size ops msg)
    (hrealm : ∀ op ∈ ops, op.type ≠ STUN_ATTRIBUTE_REALM) (hsigns : agent.signsReply req = true)
    (hlt : messageSize agent.usageFlags.noAlignedAttributes id ops + 24 < 65536)
    (hfit : messageSize agent.usageFlags.noAlignedAttributes id ops + 24 ≤ size) :
    ∃ msg' sha, appendIntegrity crypto agent msg req.key = .ok (msg', true) ∧ sha.length = 20 ∧
      Answer agent req id ty size (ops ++ [.bytes STUN_ATTRIBUTE_MESSAGE_INTEGRITY sha]) msg' ∧
      sha = crypto.hmacSha1 (agent.replyKey req) (integrityText agent.compatibility msg'.buffer
        (messageSize agent.usageFlags.noAlignedAttributes id ops + 4)
        (messageSize agent.usageFlags.noAlignedAttributes id ops + 24 +
          agent.fingerprintRoom)) := by
  rw [StunAgentConfig.signsReply, Bool.and_eq_true] at hsigns
  obtain ⟨hsome, hvalid⟩ := hsigns
  obtain ⟨key, hk⟩ := Option.isSome_iff_exists.mp hsome
  obtain ⟨rs, tail, hlaid, hrs⟩ := h.laid
  have hsize := messageSize_eq hrs
  have hlen := hlaid.bufferLen
  have hblock := h.size
  have hstep : attributeStep agent.usageFlags.noAlignedAttributes 20 = 20 :=
    attributeStep_of_dvd _ (by decide)
  obtain ⟨b₂, tail', old, hold', hold, htail', happ, hlaid₂⟩ := append_room
    STUN_ATTRIBUTE_MESSAGE_INTEGRITY (n := 20) hlaid (by omega) (by omega) (by omega)
  have henc := @attributeOf_encode_length agent.usageFlags.noAlignedAttributes
    (hasCookie id.toList) (msg.wireType STUN_ATTRIBUTE_MESSAGE_INTEGRITY) old hold'
  rw [hold, hstep] at henc
  have hderived : (if agent.usageFlags.longTermCredentials then msg.longTermKey else key) =
      agent.replyKey req := by
    rw [StunAgentConfig.replyKey, h.longTermKey, hk]
    rfl
  have hbuilt := @builtSha1_laid _ id crypto _ _ _ _ agent _ hlaid₂ henc (agent.replyKey req)
  rw [integrityText_laid hlaid₂] at hbuilt
  set text := _ ++ integrityPadding agent.compatibility _ with htext
  have hshalen : (crypto.hmacSha1 (agent.replyKey req) text).length = old.length := by
    rw [crypto.hmacSha1_length, hold]
  obtain ⟨b₃, hwrite, hlaid₃⟩ := writeValue_laid hlaid₂ hshalen
  refine ⟨{ msg with buffer := b₃ }, crypto.hmacSha1 (agent.replyKey req) text, ?_,
    crypto.hmacSha1_length _ _, h.of_buffer hlaid₃ (List.rel_append hrs (.cons
      (encodes_attributeOf msg.wireType (.bytes STUN_ATTRIBUTE_MESSAGE_INTEGRITY _)
        (hshalen ▸ hold')) .nil)) ?_, ?_⟩
  · rw [hk, appendIntegrity, h.builtLongTermKey hrealm]
    simp only [hvalid, bind, Except.bind, Bool.not_true, Bool.false_eq_true, if_false, happ,
      hderived]
    simp only [hbuilt, hwrite]
    rfl
  · rw [messageSize_append_bytes, crypto.hmacSha1_length, hstep]
    omega
  · rw [← hsize, StunAgentConfig.fingerprintRoom, integrityText_laid hlaid₃]

/-- There is no room for the FINGERPRINT. -/
lemma appendFingerprint_full (h : Answer agent req id ty size ops msg)
    (hfpr : agent.fingerprinted = true)
    (hfull : size < messageSize agent.usageFlags.noAlignedAttributes id ops + 8) :
    appendFingerprint agent msg = .ok (msg, false) := by
  obtain ⟨rs, tail, hlaid, hrs⟩ := h.laid
  have hsize := messageSize_eq hrs
  rw [appendFingerprint, if_pos hfpr, append_full hlaid STUN_ATTRIBUTE_FINGERPRINT
    (show msg.buffer.length < 20 + (encodeAll rs).length + 4 + 4 by rw [h.size]; omega)]
  rfl

/-- The FINGERPRINT of a reply. -/
lemma appendFingerprint_fits (h : Answer agent req id ty size ops msg)
    (hfpr : agent.fingerprinted = true)
    (hlt : messageSize agent.usageFlags.noAlignedAttributes id ops + 8 < 65536)
    (hfit : messageSize agent.usageFlags.noAlignedAttributes id ops + 8 ≤ size) :
    ∃ msg' fpr, appendFingerprint agent msg = .ok (msg', true) ∧
      Answer agent req id ty size (ops ++ [.word32 STUN_ATTRIBUTE_FINGERPRINT fpr]) msg' ∧
      stunFingerprint msg'.buffer
        (UInt16.ofNat (messageSize agent.usageFlags.noAlignedAttributes id ops + 8))
        (agent.compatibility = .wlm2009) = .ok fpr := by
  obtain ⟨rs, tail, hlaid, hrs⟩ := h.laid
  have hsize := messageSize_eq hrs
  have hlen := hlaid.bufferLen
  have hblock := h.size
  have hstep : attributeStep agent.usageFlags.noAlignedAttributes 4 = 4 :=
    attributeStep_of_dvd _ (by decide)
  obtain ⟨b₁, tail', old, hold', hold, htail', happ, hlaid₁⟩ := append_room
    STUN_ATTRIBUTE_FINGERPRINT (n := 4) hlaid (by omega) (by omega) (by omega)
  have henc (v : Bytes) (hv : v.length + 3 < 65536) (h4 : v.length = 4) :
      (attributeOf agent.usageFlags.noAlignedAttributes (hasCookie id.toList)
        (msg.wireType STUN_ATTRIBUTE_FINGERPRINT) v hv).encode.length = 8 := by
    rw [attributeOf_encode_length, h4, hstep]
  have hfp := stunFingerprint_laid hlaid₁ (henc old hold' hold) (agent.compatibility = .wlm2009)
  have hlength := hlaid₁.messageLength
  set fpr := stunCrc32 [ty, be16 ((encodeAll rs).length + 8), id.toList ++ encodeAll rs]
    (decide (agent.compatibility = .wlm2009)) ^^^ 0x5354554e
  obtain ⟨b₂, hwrite, hlaid₂⟩ := writeValue_laid hlaid₁ (v := be32 fpr) (by rw [hold, be32_length])
  refine ⟨{ msg with buffer := b₂ }, fpr, ?_, h.of_buffer hlaid₂ (List.rel_append hrs (.cons
    (encodes_attributeOf msg.wireType (.word32 STUN_ATTRIBUTE_FINGERPRINT fpr) (by
      have : ((Append.word32 STUN_ATTRIBUTE_FINGERPRINT fpr).value id).length = 4 := rfl
      omega)) .nil)) ?_, ?_⟩
  · rw [appendFingerprint, if_pos hfpr, happ]
    simp only [bind, Except.bind, hlength]
    simp only [hfp, hwrite]
    rfl
  · have h4 : messageSize agent.usageFlags.noAlignedAttributes id
        [.word32 STUN_ATTRIBUTE_FINGERPRINT fpr] = 28 := by
      simp [messageSize, Append.value, hstep]
    have := messageSize_append agent.usageFlags.noAlignedAttributes id ops
      [.word32 STUN_ATTRIBUTE_FINGERPRINT fpr]
    omega
  · have hfp₂ := stunFingerprint_laid hlaid₂ (henc _ _ rfl) (agent.compatibility = .wlm2009)
    rw [encodeAll_append, encodeAll_singleton, List.length_append, henc _ _ rfl] at hfp₂
    rw [← hsize, Nat.add_assoc]
    exact hfp₂

/-- A reply has a class. -/
lemma header (h : Answer agent req id ty size ops msg) :
    (∃ c, stunMessageGetClass msg = .ok c) ∧ (∃ m, stunMessageGetMethod msg = .ok m) ∧
      stunMessageId msg = .ok id.toList := by
  obtain ⟨rs, tail, hlaid, -⟩ := h.laid
  have hlen := hlaid.bufferLen
  obtain ⟨hc, hm, -, -⟩ := @header_total msg (by omega)
  exact ⟨hc, hm, hlaid.messageId⟩

end Answer

/-- The attribute of a call is determined by it. -/
lemma encodes_unique {na : Bool} {wire : StunAttribute → StunAttribute} {id : Vector UInt8 16} :
    Relator.RightUnique (@Encodes na wire id) := by
  intro op r r' h h'
  obtain ⟨type, len, body, hbody⟩ := r
  obtain ⟨type', len', body', hbody'⟩ := r'
  obtain rfl : type = type' := h.type.trans h'.type.symm
  obtain rfl : len = len' := UInt16.toNat_inj.mp (h.len.trans h'.len.symm)
  obtain rfl : body = body' := h.body.trans h'.body.symm
  rfl

/-- The text of the MESSAGE-INTEGRITY behind the attributes `ops` does not depend on what
comes behind it. -/
lemma Answer.integrityText_eq {agent : StunAgentConfig} {req msg msg' : StunMessage}
    {id : Vector UInt8 16} {ty : Bytes} {size : ℕ} {ops more more' : List Append}
    (h : Answer agent req id ty size (ops ++ more) msg)
    (h' : Answer agent req id ty size (ops ++ more') msg') (total : ℕ) :
    integrityText agent.compatibility msg.buffer
        (messageSize agent.usageFlags.noAlignedAttributes id ops + 4) total =
      integrityText agent.compatibility msg'.buffer
        (messageSize agent.usageFlags.noAlignedAttributes id ops + 4) total := by
  have split {m : StunMessage} {more : List Append} {rs tail} (hm : m.agent = some agent)
      (hlaid : Laid agent.usageFlags.noAlignedAttributes m ty id.toList rs tail)
      (hrs : List.Forall₂ (Encodes m.wireType id) (ops ++ more) rs) :
      ∃ r₁ r₂, Laid agent.usageFlags.noAlignedAttributes m ty id.toList (r₁ ++ r₂) tail ∧
        List.Forall₂ (Encodes msg.wireType id) ops r₁ := by
    rw [← wireType_congr (hm.trans h.config.symm)]
    refine ⟨rs.take ops.length, rs.drop ops.length, by rwa [List.take_append_drop], ?_⟩
    have htake := List.forall₂_take ops.length hrs
    rwa [List.take_left] at htake
  obtain ⟨rs, tail, hlaid, hrs⟩ := h.laid
  obtain ⟨rs', tail', hlaid', hrs'⟩ := h'.laid
  obtain ⟨r₁, r₂, hlaid, hr₁⟩ := split h.config hlaid hrs
  obtain ⟨r₁', r₂', hlaid', hr₁'⟩ := split h'.config hlaid' hrs'
  obtain rfl := encodes_unique.forall₂ hr₁ hr₁'
  rw [← messageSize_eq hr₁, integrityText_laid hlaid, integrityText_laid hlaid']

/-- What `stun_agent_finish_message` makes of a reply: `msg` with `n` bytes. -/
structure Finished (crypto : StunCrypto) (agent : StunAgentConfig) (req : StunMessage)
    (id : Vector UInt8 16) (ty : Bytes) (size : ℕ) (ops : List Append) (msg : StunMessage) (n : ℕ)
    (sha : Bytes) (fpr : UInt32) : Prop where
  answer : Answer agent req id ty size (ops ++ agent.replySignature req sha fpr) msg
  length : n = messageSize agent.usageFlags.noAlignedAttributes id
    (ops ++ agent.replySignature req sha fpr)
  lt : n < 65536
  sha_length : sha.length = 20
  sha_eq : agent.signsReply req = true → sha = crypto.hmacSha1 (agent.replyKey req)
    (integrityText agent.compatibility msg.buffer
      (messageSize agent.usageFlags.noAlignedAttributes id ops + 4) n)
  fpr_eq : agent.fingerprinted = true →
    stunFingerprint msg.buffer (UInt16.ofNat n) (agent.compatibility = .wlm2009) = .ok fpr


namespace Answer

variable {agent : StunAgent} {req msg : StunMessage} {id : Vector UInt8 16} {ty : Bytes}
  {size : ℕ} {ops : List Append} {crypto : StunCrypto}

/-- The MESSAGE-INTEGRITY, if there is one. -/
lemma sign (h : Answer agent.toStunAgentConfig req id ty size ops msg)
    (hrealm : ∀ op ∈ ops, op.type ≠ STUN_ATTRIBUTE_REALM)
    (hlt :
      messageSize agent.usageFlags.noAlignedAttributes id ops + agent.integrityRoom req ≤ size →
      messageSize agent.usageFlags.noAlignedAttributes id ops + agent.integrityRoom req < 65536)
    (crypto : StunCrypto) :
    (messageSize agent.usageFlags.noAlignedAttributes id ops + agent.integrityRoom req ≤ size →
      ∃ msg' sha, appendIntegrity crypto agent.toStunAgentConfig msg req.key = .ok (msg', true) ∧
        sha.length = 20 ∧
        Answer agent.toStunAgentConfig req id ty size (ops ++ if agent.signsReply req then
          [.bytes STUN_ATTRIBUTE_MESSAGE_INTEGRITY sha] else []) msg' ∧
        (agent.signsReply req = true → sha = crypto.hmacSha1 (agent.replyKey req)
          (integrityText agent.compatibility msg'.buffer
            (messageSize agent.usageFlags.noAlignedAttributes id ops + 4)
            (messageSize agent.usageFlags.noAlignedAttributes id ops + agent.integrityRoom req +
              agent.fingerprintRoom)))) ∧
    (size < messageSize agent.usageFlags.noAlignedAttributes id ops + agent.integrityRoom req →
      appendIntegrity crypto agent.toStunAgentConfig msg req.key = .ok (msg, false)) := by
  have hle := h.size_le
  cases hs : agent.signsReply req with
  | false =>
      simp only [StunAgentConfig.integrityRoom, hs, Bool.false_eq_true, if_false,
        Nat.add_zero] at hlt ⊢
      refine ⟨fun _ => ⟨msg, List.replicate 20 0, h.appendIntegrity_none hrealm hs, by simp,
        by simpa using h, nofun⟩, fun hfull => by omega⟩
  | true =>
      simp only [StunAgentConfig.integrityRoom, hs, if_true] at hlt ⊢
      refine ⟨fun hfit => ?_, h.appendIntegrity_full hrealm hs⟩
      obtain ⟨msg', sha, hrun, hsha, hans, heq⟩ := h.appendIntegrity_fits hrealm hs (hlt hfit) hfit
      exact ⟨msg', sha, hrun, hsha, hans, fun _ => heq⟩

/-- The FINGERPRINT, if there is one. -/
lemma stamp (h : Answer agent.toStunAgentConfig req id ty size ops msg)
    (hlt : messageSize agent.usageFlags.noAlignedAttributes id ops + agent.fingerprintRoom ≤ size →
      messageSize agent.usageFlags.noAlignedAttributes id ops + agent.fingerprintRoom < 65536) :
    (messageSize agent.usageFlags.noAlignedAttributes id ops + agent.fingerprintRoom ≤ size →
      ∃ msg' fpr, appendFingerprint agent.toStunAgentConfig msg = .ok (msg', true) ∧
        Answer agent.toStunAgentConfig req id ty size (ops ++ if agent.fingerprinted then
          [.word32 STUN_ATTRIBUTE_FINGERPRINT fpr] else []) msg' ∧
        (agent.fingerprinted = true → stunFingerprint msg'.buffer
          (UInt16.ofNat (messageSize agent.usageFlags.noAlignedAttributes id ops +
            agent.fingerprintRoom)) (agent.compatibility = .wlm2009) = .ok fpr)) ∧
    (size < messageSize agent.usageFlags.noAlignedAttributes id ops + agent.fingerprintRoom →
      appendFingerprint agent.toStunAgentConfig msg = .ok (msg, false)) := by
  have hle := h.size_le
  cases hf : agent.fingerprinted with
  | false =>
      simp only [StunAgentConfig.fingerprintRoom, hf, Bool.false_eq_true, if_false,
        Nat.add_zero] at hlt ⊢
      refine ⟨fun _ => ⟨msg, 0, ?_, by simpa using h, nofun⟩, fun hfull => by omega⟩
      rw [appendFingerprint, hf]
      rfl
  | true =>
      simp only [StunAgentConfig.fingerprintRoom, hf, if_true] at hlt ⊢
      refine ⟨fun hfit => ?_, h.appendFingerprint_full hf⟩
      obtain ⟨msg', fpr, hrun, hans, heq⟩ := h.appendFingerprint_fits hf (hlt hfit) hfit
      exact ⟨msg', fpr, hrun, hans, fun _ => heq⟩

/-- The class of a reply is in its type field. -/
lemma class_congr {msg' : StunMessage} {size' : ℕ} {ops' : List Append}
    (h : Answer agent.toStunAgentConfig req id ty size ops msg)
    (h' : Answer agent.toStunAgentConfig req id ty size' ops' msg') :
    stunMessageGetClass msg = stunMessageGetClass msg' := by
  have take {m : StunMessage} {rs tail} (hm : Laid agent.usageFlags.noAlignedAttributes m ty
      id.toList rs tail) : m.buffer.take 2 = ty := by
    rw [hm.buffer]
    simp only [List.append_assoc]
    rw [← hm.ty_length, List.take_left]
  obtain ⟨rs, tail, hlaid, -⟩ := h.laid
  obtain ⟨rs', tail', hlaid', -⟩ := h'.laid
  exact stunMessageGetClass_congr ((take hlaid).trans (take hlaid').symm)

/-- The size of a reply that has been signed. -/
lemma signed_size (agent : StunAgentConfig) (req : StunMessage) (id : Vector UInt8 16)
    (ops : List Append) {sha : Bytes} (hsha : sha.length = 20) :
    messageSize agent.usageFlags.noAlignedAttributes id (ops ++ if agent.signsReply req then
      [.bytes STUN_ATTRIBUTE_MESSAGE_INTEGRITY sha] else []) =
        messageSize agent.usageFlags.noAlignedAttributes id ops + agent.integrityRoom req := by
  rw [StunAgentConfig.integrityRoom]
  cases agent.signsReply req with
  | false => simp
  | true =>
      simp only [if_true]
      rw [messageSize_append_bytes, hsha, attributeStep_of_dvd _ (by decide)]

lemma stamped_size (agent : StunAgentConfig) (id : Vector UInt8 16) (ops : List Append)
    (fpr : UInt32) :
    messageSize agent.usageFlags.noAlignedAttributes id (ops ++ if agent.fingerprinted then
      [.word32 STUN_ATTRIBUTE_FINGERPRINT fpr] else []) =
        messageSize agent.usageFlags.noAlignedAttributes id ops + agent.fingerprintRoom := by
  rw [StunAgentConfig.fingerprintRoom]
  cases agent.fingerprinted with
  | false => simp
  | true =>
      have hstep : attributeStep agent.usageFlags.noAlignedAttributes 4 = 4 :=
        attributeStep_of_dvd _ (by decide)
      have h4 : messageSize agent.usageFlags.noAlignedAttributes id
          [.word32 STUN_ATTRIBUTE_FINGERPRINT fpr] = 28 := by
        simp [messageSize, Append.value, hstep]
      have := messageSize_append agent.usageFlags.noAlignedAttributes id ops
        [.word32 STUN_ATTRIBUTE_FINGERPRINT fpr]
      simp only [if_true]
      omega

/-- **The end of a reply.**  With room for its signature it is finished; without,
`stun_agent_finish_message` returns 0. -/
theorem finish (h : Answer agent.toStunAgentConfig req id ty size ops msg)
    (hrealm : ∀ op ∈ ops, op.type ≠ STUN_ATTRIBUTE_REALM) {c : StunClass}
    (hclass : stunMessageGetClass msg = .ok c) (hc : c ≠ .request)
    (hlt₁ : messageSize agent.usageFlags.noAlignedAttributes id ops + agent.integrityRoom req ≤
        size →
      messageSize agent.usageFlags.noAlignedAttributes id ops + agent.integrityRoom req < 65536)
    (hlt₂ : messageSize agent.usageFlags.noAlignedAttributes id ops + agent.integrityRoom req +
        agent.fingerprintRoom ≤ size →
      messageSize agent.usageFlags.noAlignedAttributes id ops + agent.integrityRoom req +
        agent.fingerprintRoom < 65536) (crypto : StunCrypto) :
    (messageSize agent.usageFlags.noAlignedAttributes id ops + agent.integrityRoom req +
        agent.fingerprintRoom ≤ size →
      ∃ n msg' sha fpr, stunAgentFinishMessage crypto agent msg none = .ok (n, msg', agent) ∧
        n = messageSize agent.usageFlags.noAlignedAttributes id ops + agent.integrityRoom req +
          agent.fingerprintRoom ∧
        Finished crypto agent.toStunAgentConfig req id ty size ops msg' n sha fpr) ∧
    (size < messageSize agent.usageFlags.noAlignedAttributes id ops + agent.integrityRoom req +
        agent.fingerprintRoom →
      ∃ msg', stunAgentFinishMessage crypto agent msg none = .ok (0, msg', agent)) := by
  obtain ⟨hsign, hunsigned⟩ := h.sign hrealm hlt₁ crypto
  have hfree : ∃ idx, freeSentId agent c = some idx := by
    rw [freeSentId, if_neg hc]
    exact ⟨_, rfl⟩
  obtain ⟨idx, hfree⟩ := hfree
  have hkey : msg.key.or none = req.key := by rw [Option.or_none, h.key]
  rw [stunAgentFinishMessage, hclass]
  simp only [bind, Except.bind, hfree, hkey]
  by_cases hfit₁ : messageSize agent.usageFlags.noAlignedAttributes id ops +
      agent.integrityRoom req ≤ size
  swap
  · rw [hunsigned (by omega)]
    exact ⟨fun hfit => by omega, fun _ => ⟨msg, rfl⟩⟩
  obtain ⟨msg₁, sha, hrun₁, hsha, hans₁, hsha_eq⟩ := hsign hfit₁
  have hsize₁ := signed_size agent.toStunAgentConfig req id ops hsha
  obtain ⟨hstamp, hunstamped⟩ := hans₁.stamp (by rw [hsize₁]; exact hlt₂)
  rw [hrun₁]
  simp only [Bool.not_true, Bool.false_eq_true, if_false]
  by_cases hfit₂ : messageSize agent.usageFlags.noAlignedAttributes id ops +
      agent.integrityRoom req + agent.fingerprintRoom ≤ size
  swap
  · rw [hunstamped (by rw [hsize₁]; omega)]
    exact ⟨fun hfit => by omega, fun _ => ⟨msg₁, rfl⟩⟩
  obtain ⟨msg₂, fpr, hrun₂, hans₂, hfpr⟩ := hstamp (by rw [hsize₁]; exact hfit₂)
  have hsize₂ := stamped_size agent.toStunAgentConfig id (ops ++ if agent.signsReply req then
      [.bytes STUN_ATTRIBUTE_MESSAGE_INTEGRITY sha] else []) fpr
  rw [hsize₁] at hsize₂ hfpr
  have hsave : saveTransaction agent msg₂ req.key idx = .ok agent := by
    rw [saveTransaction, ← h.class_congr hans₂, hclass]
    simp only [bind, Except.bind, if_neg hc]
    rfl
  have hlen : stunMessageLength { msg₂ with key := req.key } =
      .ok (UInt16.ofNat (messageSize agent.usageFlags.noAlignedAttributes id ops +
        agent.integrityRoom req + agent.fingerprintRoom)) := by
    obtain ⟨rs, tail, hlaid, hrs⟩ := hans₂.laid
    have := hlaid.messageLength
    rw [messageSize_eq hrs, hsize₂] at this
    exact this
  have hsame : { msg₂ with key := req.key } = msg₂ := by rw [← hans₂.key]
  rw [hrun₂]
  simp only [Bool.not_true, Bool.false_eq_true, if_false, hsave, hlen]
  have hnat : (UInt16.ofNat (messageSize agent.usageFlags.noAlignedAttributes id ops +
      agent.integrityRoom req + agent.fingerprintRoom)).toNat =
      messageSize agent.usageFlags.noAlignedAttributes id ops + agent.integrityRoom req +
        agent.fingerprintRoom := by
    rw [UInt16.toNat_ofNat', Nat.mod_eq_of_lt (hlt₂ hfit₂)]
  refine ⟨fun _ => ⟨_, _, sha, fpr, by rw [hnat, hsame]; rfl, rfl, ?_⟩, fun hfull => by omega⟩
  rw [List.append_assoc] at hans₂ hsize₂
  refine ⟨hans₂, hsize₂.symm, hlt₂ hfit₂, hsha, fun hs => ?_, hfpr⟩
  rw [hsha_eq hs, hans₁.integrityText_eq hans₂]

/-- A reply of any class has an end. -/
lemma finish_total (h : Answer agent.toStunAgentConfig req id ty size ops msg)
    (hrealm : ∀ op ∈ ops, op.type ≠ STUN_ATTRIBUTE_REALM)
    (hlt : messageSize agent.usageFlags.noAlignedAttributes id ops + agent.integrityRoom req +
        agent.fingerprintRoom < 65536) (crypto : StunCrypto) :
    ∃ r, stunAgentFinishMessage crypto agent msg none = .ok r := by
  obtain ⟨⟨c, hclass⟩, -⟩ := h.header
  obtain ⟨hsign, hunsigned⟩ := h.sign hrealm (fun _ => by omega) crypto
  have hkey : msg.key.or none = req.key := by rw [Option.or_none, h.key]
  rw [stunAgentFinishMessage, hclass]
  simp only [bind, Except.bind, hkey]
  cases freeSentId agent c with
  | none => exact ⟨_, rfl⟩
  | some idx =>
      by_cases hfit₁ : messageSize agent.usageFlags.noAlignedAttributes id ops +
          agent.integrityRoom req ≤ size
      swap
      · rw [hunsigned (by omega)]
        exact ⟨_, rfl⟩
      obtain ⟨msg₁, sha, hrun₁, hsha, hans₁, -⟩ := hsign hfit₁
      have hsize₁ := signed_size agent.toStunAgentConfig req id ops hsha
      obtain ⟨hstamp, hunstamped⟩ := hans₁.stamp (by omega)
      simp only [hrun₁, Bool.not_true, Bool.false_eq_true, if_false]
      by_cases hfit₂ : messageSize agent.usageFlags.noAlignedAttributes id ops +
          agent.integrityRoom req + agent.fingerprintRoom ≤ size
      swap
      · rw [hunstamped (by rw [hsize₁]; omega)]
        exact ⟨_, rfl⟩
      obtain ⟨msg₂, fpr, hrun₂, hans₂, -⟩ := hstamp (by rw [hsize₁]; exact hfit₂)
      obtain ⟨⟨c₂, hc₂⟩, ⟨m₂, hm₂⟩, hid₂⟩ := hans₂.header
      obtain ⟨rs, tail, hlaid, -⟩ := hans₂.laid
      have hlen : stunMessageLength { msg₂ with key := req.key } = .ok _ := hlaid.messageLength
      have hsave : ∃ a, saveTransaction agent msg₂ req.key idx = .ok a := by
        rw [saveTransaction, hc₂, hm₂, hid₂]
        simp only [bind, Except.bind]
        split <;> exact ⟨_, rfl⟩
      obtain ⟨a, hsave⟩ := hsave
      simp only [hrun₂, Bool.not_true, Bool.false_eq_true, if_false, hsave, hlen]
      exact ⟨_, rfl⟩

end Answer

/-! ### The bytes of a reply -/

/-- The first two bits of the type field are zero. -/
lemma stunTypeBytes_hi (c : StunClass) (m : StunMethod) :
    ∃ hi lo : UInt8, stunTypeBytes c m = [hi, lo] ∧ hi < 64 := by
  refine ⟨_, _, rfl, ?_⟩
  have hc : (c.toBits >>> 1).toNat < 2 ^ 6 := by cases c <;> decide
  have hm : ((m >>> 6) &&& (0x3e : UInt16)).toNat < 2 ^ 6 := by
    rw [UInt16.toNat_and]
    exact lt_of_le_of_lt Nat.and_le_right (by decide)
  have hor : (c.toBits >>> 1 ||| (m >>> 6) &&& (0x3e : UInt16)).toNat < 2 ^ 6 := by
    rw [UInt16.toNat_or]
    exact Nat.or_lt_two_pow hc hm
  rw [UInt8.lt_iff_toNat_lt, UInt16.toNat_toUInt8]
  have h64 : (64 : UInt8).toNat = 64 := rfl
  omega

section Finished

variable {crypto : StunCrypto} {agent : StunAgentConfig} {req msg m : StunMessage}
  {id : Vector UInt8 16} {size n : ℕ} {ops : List Append} {sha : Bytes} {fpr : UInt32}
  {c : StunClass} {method : StunMethod}

/-- The first `n` bytes of a finished reply are the reply. -/
lemma Finished.laid_take
    (h : Finished crypto agent req id (stunTypeBytes c method) size ops msg n sha fpr)
    (hbuf : m.buffer = msg.buffer.take n) (hagent : m.agent.map (·.usageFlags.noAlignedAttributes) =
      some agent.usageFlags.noAlignedAttributes) :
    ∃ rs, Laid agent.usageFlags.noAlignedAttributes m (stunTypeBytes c method) id.toList rs [] ∧
      List.Forall₂ (Encodes msg.wireType id) (ops ++ agent.replySignature req sha fpr) rs ∧
      n = 20 + (encodeAll rs).length := by
  obtain ⟨rs, tail, hlaid, hrs⟩ := h.answer.laid
  have hn : n = 20 + (encodeAll rs).length := by rw [h.length, messageSize_eq hrs]
  refine ⟨rs, hlaid.take (by rw [hbuf, hn]) ?_, hrs, hn⟩
  rw [StunMessage.noAligned]
  cases hm : m.agent with
  | none => simp [hm] at hagent
  | some a => simpa [hm] using hagent

/-- The length of a finished reply. -/
lemma Finished.size_eq
    (h : Finished crypto agent req id (stunTypeBytes c method) size ops msg n sha fpr) :
    n = messageSize agent.usageFlags.noAlignedAttributes id ops + agent.integrityRoom req +
      agent.fingerprintRoom := by
  have hsigned := Answer.signed_size agent req id ops h.sha_length
  have hstamped := Answer.stamped_size agent id (ops ++ if agent.signsReply req then
    [.bytes STUN_ATTRIBUTE_MESSAGE_INTEGRITY sha] else []) fpr
  rw [hsigned, List.append_assoc] at hstamped
  exact h.length.trans hstamped

/-- A finished reply is framed. -/
lemma Finished.framed
    (h : Finished crypto agent req id (stunTypeBytes c method) size ops msg n sha fpr) :
    Framed (!agent.usageFlags.noAlignedAttributes) (msg.buffer.take n) n := by
  obtain ⟨rs, hlaid, -, hn⟩ := @Finished.laid_take _ _ _ _ { msg with buffer := msg.buffer.take n }
    _ _ _ _ _ _ _ _ h rfl (by
      change msg.agent.map _ = _
      rw [h.answer.config]
      rfl)
  obtain ⟨hi, lo, hty, hhi⟩ := stunTypeBytes_hi c method
  rw [hty] at hlaid
  have := hlaid.framed hhi
  rwa [← hn] at this

/-- The header of a finished reply. -/
lemma Finished.header
    (h : Finished crypto agent req id (stunTypeBytes c method) size ops msg n sha fpr) :
    stunMessageId { msg with buffer := msg.buffer.take n } = .ok id.toList ∧
      stunMessageGetMethod { msg with buffer := msg.buffer.take n } =
        stunMessageGetMethod msg ∧ 20 ≤ n ∧ n ≤ size := by
  obtain ⟨rs, hlaid, -, hn⟩ := @Finished.laid_take _ _ _ _ { msg with buffer := msg.buffer.take n }
    _ _ _ _ _ _ _ _ h rfl (by
      change msg.agent.map _ = _
      rw [h.answer.config]
      rfl)
  have htake : (msg.buffer.take n).take 2 = msg.buffer.take 2 := by
    rw [List.take_take, Nat.min_eq_left (by omega)]
  refine ⟨hlaid.messageId, ?_, by omega, h.length ▸ h.answer.size_le⟩
  rw [stunMessageGetMethod, stunMessageGetMethod, stunMessageType, stunMessageType, stunGetw,
    stunGetw, readWord_congr htake le_rfl]

end Finished

end LibNice.Stun
