import LibNice.Ice.Reply

/-!
`stun_agent_build_unknown_attributes_error` (`stun/stunagent.c`): the reply to a request with
attributes that an agent must understand and does not know.

* `stunAgentBuildUnknownAttributesError`: the reply, with the array of attribute types that it is
  built from.
* `unknownIds`: the types that the reply is meant to list.
* `buildUnknown_spec`: what the reply lists, read from the attributes that the library sees.
* `unknown_attributes_iff`: **the reply lists the unknown attributes of the request** exactly when
  the request is shorter than 65536 bytes or has none; `unknown_attributes_unseen` is a request
  whose length wraps around.
-/

namespace LibNice.Ice.Wire

open LibNice.Foundation LibNice.Stun

/-! ### The reply -/

/-- `STUN_AGENT_MAX_UNKNOWN_ATTRIBUTES`. -/
def STUN_AGENT_MAX_UNKNOWN_ATTRIBUTES : ℕ := 256

def STUN_ATTRIBUTE_UNKNOWN_ATTRIBUTES : StunAttribute := 0x000A

/-- `STUN_ERROR_UNKNOWN_ATTRIBUTE`. -/
def STUN_ERROR_UNKNOWN_ATTRIBUTE : ℕ := 420

/-- The store of one more type into the array `ids`. -/
def storeId (ids : List StunAttribute) (id : StunAttribute) : Except Fault (List StunAttribute) :=
  if ids.length < STUN_AGENT_MAX_UNKNOWN_ATTRIBUTES then .ok (ids ++ [id]) else .error .outOfBounds

/-- The list made even: without the cookie, an odd number of types is padded with the first one
for RFC 3489. -/
def padIds (cookie : Bool) (ids : List StunAttribute) : Except Fault (List StunAttribute) :=
  if !cookie && ids.length % 2 == 1 then storeId ids (ids.headD 0) else .ok ids

/-- `stun_agent_build_unknown_attributes_error`. -/
def stunAgentBuildUnknownAttributesError (crypto : StunCrypto) (agent : StunAgent)
    (msg : StunMessage) (buffer : Bytes) (request : StunMessage) :
    Except Fault (ℕ × StunMessage × StunAgent) := do
  let ids ← stunAgentFindUnknowns agent.toStunAgentConfig request
    STUN_AGENT_MAX_UNKNOWN_ATTRIBUTES
  let (msg, ret) ← stunAgentInitError agent msg buffer request STUN_ERROR_UNKNOWN_ATTRIBUTE
  if !ret then return (0, msg, agent)
  else
    let cookie ← stunMessageHasCookie request
    let ids ← padIds cookie ids
    let (msg, val) ← stunMessageAppendBytes msg STUN_ATTRIBUTE_UNKNOWN_ATTRIBUTES
      (ids.flatMap fun t => be16 t.toNat)
    if val = .success then stunAgentFinishMessage crypto agent msg request.key
    else return (0, msg, agent)

/-- The types that the reply to a request with the attributes `rs` lists: the first 256 that the
agent must understand and does not know, and the first once more if their number is odd and there
is no cookie. -/
def unknownIds {na : Bool} (agent : StunAgentConfig) (cookie : Bool) (rs : List (Attribute na)) :
    List StunAttribute :=
  let ids := (unknowns agent rs).take STUN_AGENT_MAX_UNKNOWN_ATTRIBUTES
  if !cookie && ids.length % 2 == 1 then ids ++ ids.take 1 else ids

/-- The bytes of the types. -/
def idsValue (ids : List StunAttribute) : Bytes := ids.flatMap fun t => be16 t.toNat

/-- The size of the reply with the types `ids`. -/
def unknownErrorSize (agent : StunAgentConfig) (req : StunMessage) (ids : List StunAttribute) : ℕ :=
  let step := attributeStep agent.usageFlags.noAlignedAttributes
  STUN_MESSAGE_HEADER_LENGTH +
    (if agent.namesSoftware then 4 + step (softwareValue agent.softwareAttribute).length else 0) +
    (4 + step (errorValue STUN_ERROR_UNKNOWN_ATTRIBUTE).length) + (4 + step (idsValue ids).length) +
    signatureRoom agent req

/-- In every buffer that is large enough, the reply to `req` lists the types `ids`. -/
def Lists (crypto : StunCrypto) (agent : StunAgent) (req : StunMessage)
    (ids : List StunAttribute) : Prop :=
  ∀ (msg : StunMessage) (buffer : Bytes),
    unknownErrorSize agent.toStunAgentConfig req ids ≤ buffer.length →
    ∃ n msg', stunAgentBuildUnknownAttributesError crypto agent msg buffer req =
        .ok (n, msg', agent) ∧ 0 < n ∧ msg'.bufferLen = buffer.length ∧
      attributeValue { msg' with buffer := msg'.buffer.take n }
        STUN_ATTRIBUTE_UNKNOWN_ATTRIBUTES = .ok (some (idsValue ids))

/-! ### The class of an error -/

lemma stunTypeBytes_error (m : StunMethod) :
    ∃ hi lo : UInt8, stunTypeBytes .error m = [hi, lo] ∧ lo.toNat.testBit 4 = true := by
  refine ⟨_, _, rfl, ?_⟩
  rw [UInt16.toNat_toUInt8, Nat.testBit_mod_two_pow]
  have h16 : Nat.testBit 16 4 = true := rfl
  simp [StunClass.toBits, h16]

/-- The class of an error is not that of a request, whatever its method. -/
lemma getClass_error {na : Bool} {msg : StunMessage} {m : StunMethod} {id tail : Bytes}
    {rs : List (Attribute na)} (h : Laid na msg (stunTypeBytes .error m) id rs tail) :
    ∃ c, stunMessageGetClass msg = .ok c ∧ c ≠ .request := by
  obtain ⟨hi, lo, hty, hlo⟩ := stunTypeBytes_error m
  have hread : stunGetw msg.buffer 0 = .ok (word16 hi lo) := by
    rw [h.buffer, hty]
    rfl
  have hl := lo.toNat_lt
  have h4 : (word16 hi lo).toNat.testBit 4 = true := by
    rw [← hlo, word16_toNat, Nat.testBit_eq_decide_div_mod_eq, Nat.testBit_eq_decide_div_mod_eq]
    congr 2
    omega
  have hand4 : word16 hi lo &&& (0x0010 : UInt16) = 0x0010 := by
    apply UInt16.toNat_inj.mp
    rw [UInt16.toNat_and]
    have := Nat.two_pow_and (word16 hi lo).toNat 4
    rw [h4, Nat.and_comm] at this
    simpa using this
  rw [stunMessageGetClass, stunMessageType, hread]
  refine ⟨_, rfl, ?_⟩
  by_cases hdata : word16 hi lo = 0x0115
  · rw [if_pos hdata]
    decide
  · have hone : ((0x0010 : UInt16) >>> 4) = 1 := rfl
    rw [if_neg hdata, hand4, hone]
    intro hzero
    have hbits : ((word16 hi lo &&& (0x0100 : UInt16)) >>> 7) ||| 1 = 0 := by
      by_contra hne
      rw [StunClass.ofBits, if_neg hne] at hzero
      split_ifs at hzero
    have hnat := congrArg UInt16.toNat hbits
    rw [UInt16.toNat_or] at hnat
    exact absurd (Nat.or_eq_zero_iff.mp hnat).2 (by decide)

/-! ### What the reply lists -/

section Build

variable {crypto : StunCrypto} {agent : StunAgent} {msg req : StunMessage} {buffer : Bytes}
  {id : Vector UInt8 16} {m : StunMethod}

/-- The key that `stun_agent_finish_message` is given does not matter when the message has the same
one. -/
lemma finishMessage_key (h : msg.key = req.key) :
    stunAgentFinishMessage crypto agent msg req.key =
      stunAgentFinishMessage crypto agent msg none := by
  have hkey : msg.key.or req.key = msg.key.or none := by
    rw [h, Option.or_none]
    cases req.key <;> rfl
  unfold stunAgentFinishMessage
  simp only [hkey]

/-- The types that are listed, with one repeated, fit the array. -/
lemma padIds_eq (cookie : Bool) {ids : List StunAttribute}
    (h : ids.length ≤ STUN_AGENT_MAX_UNKNOWN_ATTRIBUTES) :
    padIds cookie ids =
      .ok (if !cookie && ids.length % 2 == 1 then ids ++ ids.take 1 else ids) := by
  unfold padIds
  by_cases hodd : (!cookie && ids.length % 2 == 1) = true
  · rw [if_pos hodd, if_pos hodd]
    rw [Bool.and_eq_true, beq_iff_eq] at hodd
    rw [STUN_AGENT_MAX_UNKNOWN_ATTRIBUTES] at h
    rw [storeId, STUN_AGENT_MAX_UNKNOWN_ATTRIBUTES, if_pos (by omega)]
    cases ids with
    | nil => simp at hodd
    | cons id ids => rfl
  · rw [if_neg hodd, if_neg hodd]

lemma idsValue_length (ids : List StunAttribute) : (idsValue ids).length = 2 * ids.length := by
  induction ids with
  | nil => rfl
  | cons id ids ih =>
      change (be16 id.toNat ++ idsValue ids).length = _
      rw [List.length_append, be16_length, ih, List.length_cons]
      omega

/-- A list of types that was made even needs no padding. -/
lemma foundValue_ids (na : Bool) {ids : List StunAttribute}
    (h : hasCookie id.toList = false → ids.length % 2 = 0) :
    foundValue na id (idsValue ids) = idsValue ids := by
  unfold foundValue
  by_cases hplain : (na || hasCookie id.toList) = true
  · rw [if_pos hplain]
  · rw [if_neg hplain]
    have hcookie : hasCookie id.toList = false := by
      rw [Bool.or_eq_true, not_or] at hplain
      simpa using hplain.2
    have heven := h hcookie
    have hpad : stunPadding (idsValue ids).length = 0 := by
      rw [stunPadding_eq_zero_iff, idsValue_length]
      omega
    rw [hpad, List.replicate_zero, List.append_nil]

lemma unknownIds_length_le {na : Bool} (agent : StunAgentConfig) (cookie : Bool)
    (rs : List (Attribute na)) : (unknownIds agent cookie rs).length ≤ 257 := by
  have htake := List.length_take_le STUN_AGENT_MAX_UNKNOWN_ATTRIBUTES (unknowns agent rs)
  have hone := List.length_take_le 1
    ((unknowns agent rs).take STUN_AGENT_MAX_UNKNOWN_ATTRIBUTES)
  rw [STUN_AGENT_MAX_UNKNOWN_ATTRIBUTES] at htake hone
  unfold unknownIds
  rw [STUN_AGENT_MAX_UNKNOWN_ATTRIBUTES]
  dsimp only
  by_cases h : (!cookie && ((unknowns agent rs).take 256).length % 2 == 1) = true
  · rw [if_pos h, List.length_append]
    omega
  · rw [if_neg h]
    omega

/-- Without the cookie the number of types is even. -/
lemma unknownIds_even {na : Bool} (agent : StunAgentConfig) (rs : List (Attribute na)) :
    (unknownIds agent false rs).length % 2 = 0 := by
  unfold unknownIds
  dsimp only
  generalize (unknowns agent rs).take STUN_AGENT_MAX_UNKNOWN_ATTRIBUTES = ids
  by_cases h : (!false && ids.length % 2 == 1) = true
  · rw [if_pos h, List.length_append, List.length_take]
    rw [Bool.not_false, Bool.true_and, beq_iff_eq] at h
    omega
  · rw [if_neg h]
    rw [Bool.not_false, Bool.true_and, beq_iff_eq] at h
    omega

/-- The attributes of an error before its list of types. -/
lemma errorOps_type {agent : StunAgentConfig} {size code : ℕ} {op : Append}
    (h : op ∈ errorOps agent size code) :
    op.type = STUN_ATTRIBUTE_SOFTWARE ∨ op.type = STUN_ATTRIBUTE_ERROR_CODE := by
  rcases List.mem_append.mp h with h | h
  · exact .inl (ownReply_type h)
  · obtain rfl := List.mem_singleton.mp h
    exact .inr rfl

lemma firstOf_unknown (agent : StunAgentConfig) (size code : ℕ) (data : Bytes)
    (post : List Append) :
    FirstOf STUN_ATTRIBUTE_UNKNOWN_ATTRIBUTES
      (errorOps agent size code ++ [.bytes STUN_ATTRIBUTE_UNKNOWN_ATTRIBUTES data] ++ post)
      (.bytes STUN_ATTRIBUTE_UNKNOWN_ATTRIBUTES data) := by
  refine ⟨errorOps agent size code, post, by simp, rfl, fun op hop => ?_⟩
  rcases errorOps_type hop with h | h
  · rw [h]
    decide
  · rw [h]
    decide

/-- The start of a reply takes the header and the SOFTWARE attribute, if there is one. -/
lemma replyLength_le_room (agent : StunAgentConfig) (size : ℕ) :
    replyLength agent size ≤ 20 + if agent.namesSoftware then
      4 + attributeStep agent.usageFlags.noAlignedAttributes
        (softwareValue agent.softwareAttribute).length else 0 := by
  unfold replyLength
  by_cases hnames : agent.namesSoftware = true
  · rw [if_pos hnames]
    by_cases hfit : agent.namesSoftware = true ∧
        24 + (softwareValue agent.softwareAttribute).length ≤ size
    · rw [if_pos hfit]
      omega
    · rw [if_neg hfit]
      omega
  · rw [if_neg hnames, if_neg fun h => hnames h.1]

/-- **What the reply lists**, read from the attributes that the library sees in the request. -/
lemma buildUnknown_lists {rs : List (Attribute agent.usageFlags.noAlignedAttributes)}
    (hclass : stunMessageGetClass req = .ok .request) (hid : stunMessageId req = .ok id.toList)
    (hm : stunMessageGetMethod req = .ok m)
    (hvis : Visible agent.usageFlags.noAlignedAttributes req rs)
    (hsoft : ∃ ptr, softwareLoop (agent.softwareAttribute.getD PACKAGE_STRING) 128 0 = .ok ptr) :
    Lists crypto agent req
      (unknownIds agent.toStunAgentConfig (hasCookie id.toList) rs) := by
  intro msg buffer hsize
  set ids := unknownIds agent.toStunAgentConfig (hasCookie id.toList) rs with hids
  have hlen : ids.length ≤ 257 :=
    unknownIds_length_le agent.toStunAgentConfig (hasCookie id.toList) rs
  have hvalue := idsValue_length ids
  have hcode : (errorValue STUN_ERROR_UNKNOWN_ATTRIBUTE).length ≤ 40 := by decide
  have hreply := replyLength_le agent.toStunAgentConfig buffer.length
  have hstep := attributeStep_lt agent.usageFlags.noAlignedAttributes (idsValue ids).length
  have hcodeStep := attributeStep_lt agent.usageFlags.noAlignedAttributes
    (errorValue STUN_ERROR_UNKNOWN_ATTRIBUTE).length
  have hcodeLe := le_attributeStep agent.usageFlags.noAlignedAttributes
    (errorValue STUN_ERROR_UNKNOWN_ATTRIBUTE).length
  have hsign := signatureRoom_le agent.toStunAgentConfig req
  unfold unknownErrorSize at hsize
  dsimp only at hsize
  rw [STUN_MESSAGE_HEADER_LENGTH, STUN_MESSAGE_ATTRIBUTES_POS] at hsize
  -- the reply up to the list
  have hroom : replyLength agent.toStunAgentConfig buffer.length + 4 +
      attributeStep agent.usageFlags.noAlignedAttributes
        (errorValue STUN_ERROR_UNKNOWN_ATTRIBUTE).length + 4 +
      attributeStep agent.usageFlags.noAlignedAttributes (idsValue ids).length +
      signatureRoom agent.toStunAgentConfig req ≤ buffer.length := by
    have hown := replyLength_le_room agent.toStunAgentConfig buffer.length
    omega
  have hpads : ErrorPads agent.toStunAgentConfig buffer.length STUN_ERROR_UNKNOWN_ATTRIBUTE := by
    refine ⟨fun hnames => ⟨hsoft, fun _ => ?_⟩, fun _ => by omega⟩
    rw [if_pos hnames] at hsize
    omega
  obtain ⟨msg₁, val, hinit, htrue, hfalse⟩ := (@initError_spec agent msg req buffer id m
    STUN_ERROR_UNKNOWN_ATTRIBUTE hclass hid hm (by omega) hcode).1 hpads
  cases val with
  | false => exact absurd (hfalse rfl) (by omega)
  | true =>
      obtain ⟨-, hans⟩ := htrue rfl
      have hops := errorOps_size agent.toStunAgentConfig id buffer.length
        STUN_ERROR_UNKNOWN_ATTRIBUTE
      have happ := messageSize_append_bytes agent.usageFlags.noAlignedAttributes id
        (errorOps agent.toStunAgentConfig buffer.length STUN_ERROR_UNKNOWN_ATTRIBUTE)
        STUN_ATTRIBUTE_UNKNOWN_ATTRIBUTES (idsValue ids)
      obtain ⟨msg₂, hrun, hans₂⟩ := hans.appendBytes_fits STUN_ATTRIBUTE_UNKNOWN_ATTRIBUTES
        (idsValue ids) (by omega) (by omega)
      have hrealm : ∀ op ∈ errorOps agent.toStunAgentConfig buffer.length
          STUN_ERROR_UNKNOWN_ATTRIBUTE ++
            [.bytes STUN_ATTRIBUTE_UNKNOWN_ATTRIBUTES (idsValue ids)],
          op.type ≠ STUN_ATTRIBUTE_REALM := by
        intro op hop
        rcases List.mem_append.mp hop with hop | hop
        · exact errorOps_realm _ _ _ op hop
        · obtain rfl := List.mem_singleton.mp hop
          change STUN_ATTRIBUTE_UNKNOWN_ATTRIBUTES ≠ STUN_ATTRIBUTE_REALM
          decide
      obtain ⟨rs', tail, hlaid, -⟩ := hans₂.laid
      obtain ⟨c, hc, hne⟩ := getClass_error hlaid
      have hsignature : signatureRoom agent.toStunAgentConfig req =
        agent.integrityRoom req + agent.fingerprintRoom := rfl
      obtain ⟨n, msg₃, sha, fpr, hfinish, -, hfin⟩ := (hans₂.finish hrealm hc hne
        (fun _ => by omega) (fun _ => by omega) crypto).1 (by omega)
      have hcookie : stunMessageHasCookie req = .ok (hasCookie id.toList) := by
        rw [stunMessageHasCookie, hid]
        rfl
      have hfound := findUnknowns_visible hvis rfl STUN_AGENT_MAX_UNKNOWN_ATTRIBUTES
      refine ⟨n, msg₃, ?_, ?_, hfin.answer.size, ?_⟩
      · rw [stunAgentBuildUnknownAttributesError, hfound]
        simp only [bind, Except.bind]
        rw [hinit]
        have hpad : padIds (hasCookie id.toList) ((unknowns agent.toStunAgentConfig rs).take
            STUN_AGENT_MAX_UNKNOWN_ATTRIBUTES) = .ok ids :=
          padIds_eq _ (List.length_take_le _ _)
        have hrun' : stunMessageAppendBytes msg₁ STUN_ATTRIBUTE_UNKNOWN_ATTRIBUTES
            (ids.flatMap fun t => be16 t.toNat) = .ok (msg₂, .success) := hrun
        simp only [Bool.not_true, Bool.false_eq_true, if_false, hcookie, hpad, hrun']
        exact (finishMessage_key hans₂.key).trans hfinish
      · exact lt_of_lt_of_le (by norm_num) hfin.header.2.2.1
      · obtain ⟨rs₃, hlaid₃, hrs₃, -⟩ := @Finished.laid_take _ _ _ _
          { msg₃ with buffer := msg₃.buffer.take n } _ _ _ _ _ _ _ _ hfin rfl (by
            change msg₃.agent.map _ = _
            rw [hfin.answer.config]
            rfl)
        rw [attributeValue_firstOf hlaid₃ hrs₃ (firstOf_unknown _ _ _ _ _)]
        refine congrArg (fun v => Except.ok (some v)) (foundValue_ids _ fun hno => ?_)
        rw [hids, hno]
        exact unknownIds_even _ rs

end Build

/-! ### The condition -/

section Condition

variable {crypto : StunCrypto} {agent agent' : StunAgent} {received req : StunMessage}
  {buffer : Bytes} {validater : Option StunMessageIntegrityValidate}
  {status : StunValidationStatus}

/-- **What the library sees of a message**: its attributes, or none when its length wraps
around. -/
lemma visible_eq {na : Bool} {msg : StunMessage} {m : ℕ} {rs seen : List (Attribute na)}
    (hframed : Framed (!na) msg.buffer m) (hvis : Visible na msg seen)
    (hrs : (msg.buffer.take m).drop 20 = encodeAll rs) :
    (m < 65536 → seen = rs) ∧ (65536 ≤ m → seen = []) := by
  have h20 := hframed.twenty_le
  have hfits := hframed.fits
  have hmessage := hframed.len
  have hword := (word16 (msg.buffer.getD 2 0) (msg.buffer.getD 3 0)).toNat_lt
  have hmax : m < 65536 + 20 := by
    rw [hmessage, messageLen]
    omega
  obtain ⟨len, hlen, hval⟩ := @stunMessageLength_eq msg (by omega)
  obtain ⟨-, ⟨pre, tail, hpre, hbuf⟩, len', hlen', hcase⟩ := hvis
  obtain rfl : len = len' := Except.ok.inj (hlen.symm.trans hlen')
  rw [← hmessage] at hval
  refine ⟨fun hlt => ?_, fun hge => ?_⟩
  · have hsize : m = 20 + (encodeAll seen).length := by
      rcases hcase with h | ⟨h, -⟩ <;> omega
    refine encodeAll_injective (hrs ▸ ?_)
    rw [hsize, hbuf, ← hpre, ← List.append_assoc, ← List.length_append, List.take_left,
      List.drop_left]
  · rcases hcase with h | ⟨-, h⟩
    · omega
    · exact h

/-- A validated message is the buffer. -/
lemma validated_buffer
    (h : stunAgentValidate crypto agent received buffer validater = .ok (status, req, agent'))
    (hacc : status.Accepted) : req.buffer = buffer := by
  rcases validate_reaches h with hno | ⟨m, slot, ignore, key, hreach, hval⟩
  · exact absurd hacc hno
  · obtain ⟨rfl, -⟩ := hreach.visible
    exact (validateMessage_same hval).1

/-- A message that is validated as having an unknown attribute shows one. -/
lemma unknowns_of_validate {seen : List (Attribute agent.usageFlags.noAlignedAttributes)}
    (h : stunAgentValidate crypto agent received buffer validater =
      .ok (.unknownRequestAttribute, req, agent'))
    (hvis : Visible agent.usageFlags.noAlignedAttributes req seen) :
    unknowns agent.toStunAgentConfig seen ≠ [] := by
  rcases validate_reaches h with hno | ⟨m, slot, ignore, key, hreach, hval⟩
  · exact absurd (.inr (.inl rfl)) hno
  rw [validateMessage] at hval
  obtain ⟨⟨m', passes⟩, hauth, hval⟩ := bind_eq_ok.mp hval
  obtain ⟨hbuf, hagent⟩ := authenticate_same hauth
  have hflags : (agent.release slot).toStunAgentConfig = agent.toStunAgentConfig := by
    cases slot <;> rfl
  cases passes with
  | false => simp [pure, Except.pure] at hval
  | true =>
      simp only [Bool.not_true, Bool.false_eq_true, if_false, hflags] at hval
      obtain ⟨ids, hids, hval⟩ := bind_eq_ok.mp hval
      by_cases hpos : ids.length > 0
      · rw [if_pos hpos] at hval
        obtain ⟨c, -, hval⟩ := bind_eq_ok.mp hval
        obtain ⟨-, hmsg⟩ := Prod.mk.inj (Except.ok.inj hval)
        obtain ⟨rfl, -⟩ := Prod.mk.inj hmsg
        obtain rfl := Except.ok.inj
          (hids.symm.trans (findUnknowns_visible hvis rfl 1))
        intro hnil
        rw [hnil] at hpos
        simp at hpos
      · rw [if_neg hpos] at hval
        simp [pure, Except.pure] at hval

/-- The reply lists nothing exactly when there is nothing to list. -/
lemma unknownIds_eq_nil {na : Bool} {agent : StunAgentConfig} {cookie : Bool}
    {rs : List (Attribute na)} : unknownIds agent cookie rs = [] ↔ unknowns agent rs = [] := by
  unfold unknownIds
  dsimp only
  rw [STUN_AGENT_MAX_UNKNOWN_ATTRIBUTES]
  have htake : (unknowns agent rs).take 256 = [] ↔ unknowns agent rs = [] := by
    rw [List.take_eq_nil_iff]
    simp
  by_cases hodd : (!cookie && ((unknowns agent rs).take 256).length % 2 == 1) = true
  · rw [if_pos hodd, List.append_eq_nil_iff, htake]
    exact ⟨And.left, fun hnil => ⟨hnil, by simp [hnil]⟩⟩
  · rw [if_neg hodd, htake]

/-- Two lists of types that the same reply lists are both empty or neither is. -/
lemma Lists.eq_nil {ids : List StunAttribute} (h : Lists crypto agent req ids)
    (hnil : Lists crypto agent req []) : ids = [] := by
  let buffer : Bytes := List.replicate (max (unknownErrorSize agent.toStunAgentConfig req ids)
    (unknownErrorSize agent.toStunAgentConfig req [])) 0
  have hlen : buffer.length = max (unknownErrorSize agent.toStunAgentConfig req ids)
    (unknownErrorSize agent.toStunAgentConfig req []) := List.length_replicate
  obtain ⟨n, msg, hbuild, -, -, hvalue⟩ := h req buffer (by omega)
  obtain ⟨n', msg', hbuild', -, -, hvalue'⟩ := hnil req buffer (by omega)
  obtain ⟨rfl, hmsg⟩ := Prod.mk.inj (Except.ok.inj (hbuild.symm.trans hbuild'))
  obtain ⟨rfl, -⟩ := Prod.mk.inj hmsg
  have hsame := congrArg List.length (Option.some.inj (Except.ok.inj (hvalue.symm.trans hvalue')))
  rw [idsValue_length, idsValue_length, List.length_nil] at hsame
  exact List.length_eq_zero_iff.mp (by omega)

/-- A request has no slot, so that its validation leaves the agent as it was. -/
lemma validated_request_agent
    (h : stunAgentValidate crypto agent received buffer validater = .ok (status, req, agent'))
    (hacc : status.Accepted) (hclass : stunMessageGetClass req = .ok .request) :
    agent' = agent := by
  rcases validate_reaches h with hno | ⟨m, slot, ignore, key, hreach, hval⟩
  · exact absurd hacc hno
  have hbuf := (validateMessage_same hval).1
  obtain ⟨c, hc, hslot⟩ := matchSentId_spec hreach.slotted
  have hreq : c = .request := by
    rw [stunMessageGetClass, stunMessageType, hbuf] at hclass
    rw [stunMessageGetClass, stunMessageType] at hc
    exact Except.ok.inj (hc.symm.trans hclass)
  obtain ⟨-, hspec⟩ := validateMessage_spec hval
  rcases hspec with ⟨-, hsame⟩ | ⟨-, hrelease, -⟩
  · exact hsame
  · rcases hslot with ⟨rfl, -⟩ | ⟨hans, -⟩
    · exact hrelease
    · subst hreq
      simp at hans

/-- **The 420 reply lists the unknown attributes of the request.**  For a request that
`stun_agent_validate` accepts, the reply in every buffer that is large enough lists the types of
`unknownIds`, of which there is one when the request was found to have an unknown attribute,
exactly when the request is shorter than 65536 bytes or has no unknown attribute: the length of a
longer one wraps around, and none of its attributes is seen. -/
theorem unknown_attributes_iff (crypto : StunCrypto) (agent agent' : StunAgent)
    (received req : StunMessage) (buffer : Bytes)
    (validater : Option StunMessageIntegrityValidate) (status : StunValidationStatus)
    (cookie : Bool) (rs : List (Attribute agent.usageFlags.noAlignedAttributes))
    (hval : stunAgentValidate crypto agent received buffer validater = .ok (status, req, agent'))
    (hacc : status.Accepted) (hclass : stunMessageGetClass req = .ok .request)
    (hcookie : stunMessageHasCookie req = .ok cookie)
    (hrs : (buffer.take (messageLen buffer)).drop 20 = encodeAll rs)
    (hsoft : ∃ ptr, softwareLoop (agent.softwareAttribute.getD PACKAGE_STRING) 128 0 = .ok ptr) :
    (Lists crypto agent' req (unknownIds agent.toStunAgentConfig cookie rs) ∧
      (status = .unknownRequestAttribute →
        unknownIds agent.toStunAgentConfig cookie rs ≠ [])) ↔
      messageLen buffer < 65536 ∨ unknowns agent.toStunAgentConfig rs = [] := by
  obtain rfl := validated_request_agent hval hacc hclass
  have hbuf := validated_buffer hval hacc
  have hchecked := Checked.of_validate hval hacc
  obtain ⟨seen, hvis⟩ := hchecked.visible
  obtain ⟨id, hid⟩ := exists_messageId hchecked.twenty_le
  obtain ⟨-, ⟨m, hm⟩, -, -⟩ := header_total hchecked.twenty_le
  obtain ⟨n, hn, hlen⟩ := hchecked.length
  obtain ⟨k, -, hframed⟩ := framed_of_validate hlen hn
  have hk : k = messageLen buffer := by rw [← hbuf, hframed.len]
  obtain ⟨hshort, hlong⟩ := visible_eq hframed hvis (by rw [hbuf, hk, hrs])
  rw [hk] at hshort hlong
  have hcookie' : cookie = hasCookie id.toList := by
    rw [stunMessageHasCookie, hid] at hcookie
    exact (Except.ok.inj hcookie).symm
  have hlists := @buildUnknown_lists crypto agent' req id m seen hclass hid hm hvis hsoft
  rw [← hcookie'] at hlists
  have hfound : status = .unknownRequestAttribute →
      unknowns agent'.toStunAgentConfig seen ≠ [] := by
    rintro rfl
    exact unknowns_of_validate hval hvis
  rcases Nat.lt_or_ge (messageLen buffer) 65536 with hlt | hge
  · obtain rfl := hshort hlt
    exact iff_of_true ⟨hlists, fun hs hnil => hfound hs (unknownIds_eq_nil.mp hnil)⟩ (.inl hlt)
  · obtain rfl := hlong hge
    have hnone : unknowns agent'.toStunAgentConfig
      ([] : List (Attribute agent'.usageFlags.noAlignedAttributes)) = [] := rfl
    rw [unknownIds_eq_nil.mpr hnone] at hlists
    constructor
    · rintro ⟨hl, -⟩
      exact .inr (unknownIds_eq_nil.mp (hl.eq_nil hlists))
    · rintro (hlt | hnil)
      · omega
      · rw [unknownIds_eq_nil.mpr hnil]
        exact ⟨hlists, fun hs => absurd hnone (hfound hs)⟩

end Condition

/-- A request with an attribute that the agent must understand and does not know. -/
theorem unknown_attributes_iff_sample :
    ∃ req, Lists (constantCrypto 0) plainAgent req [0x7777, 0x7777] := by
  let r : Attribute plainAgent.usageFlags.noAlignedAttributes := ⟨0x7777, 0, [], rfl⟩
  obtain ⟨req, agent', h⟩ := @ok_of_status _ _ (stunAgentValidate (constantCrypto 0) plainAgent
    (plainRequest 0 []) (plainRequest 4 [0x77, 0x77, 0, 0]).buffer none) .unknownRequestAttribute
    (by decide +kernel)
  have hbuf := validated_buffer h (.inr (.inl rfl))
  have hclass : stunMessageGetClass req = .ok .request := by
    rw [stunMessageGetClass, stunMessageType, hbuf]
    decide
  have hcookie : stunMessageHasCookie req = .ok false := by
    rw [stunMessageHasCookie, stunMessageId, hbuf]
    decide
  obtain rfl := validated_request_agent h (.inr (.inl rfl)) hclass
  have hids : unknownIds plainAgent.toStunAgentConfig false [r] = [0x7777, 0x7777] := by
    decide +kernel
  have hlists := ((unknown_attributes_iff (constantCrypto 0) plainAgent plainAgent
    (plainRequest 0 []) req _ none .unknownRequestAttribute false [r] h (.inr (.inl rfl)) hclass
    hcookie (by decide +kernel) ⟨PACKAGE_STRING.length - 1, by decide +kernel⟩).mpr
      (.inl (by decide +kernel))).1
  rw [hids] at hlists
  exact ⟨req, hlists⟩

/-! ### A request whose attributes are not seen -/

/-- An agent without credentials accepts a request that shows no attributes. -/
lemma validate_unseen (crypto : StunCrypto) {received : StunMessage} {buffer : Bytes}
    (hframed : Framed true buffer buffer.length) (hlen : 65536 ≤ buffer.length)
    (hclass : stunMessageGetClass (receivedMessage plainAgent received buffer) = .ok .request) :
    stunAgentValidate crypto plainAgent received buffer none =
      .ok (.success, receivedMessage plainAgent received buffer, plainAgent) := by
  set m := receivedMessage plainAgent received buffer with hm
  have hshort : buffer.length < 65536 + 20 := by
    have hword := (word16 (buffer.getD 2 0) (buffer.getD 3 0)).toNat_lt
    rw [hframed.len, messageLen]
    omega
  obtain ⟨seen, hvis⟩ := @Framed.visible false m _ rfl hframed
  obtain ⟨rs, hrs⟩ := hframed.tiled
  obtain rfl := (@visible_eq false m _ _ _ hframed hvis hrs).2 hlen
  have hinv : (buffer.length : ℤ) ≠ STUN_MESSAGE_BUFFER_INVALID := by
    rw [STUN_MESSAGE_BUFFER_INVALID]
    omega
  have hinc : (buffer.length : ℤ) ≠ STUN_MESSAGE_BUFFER_INCOMPLETE := by
    rw [STUN_MESSAGE_BUFFER_INCOMPLETE]
    omega
  have hsize : ¬ ((buffer.length : ℤ) ≠ intOfSize buffer.length) := by
    rw [intOfSize_of_lt (by omega)]
    simp
  have hdemux : demux plainAgent received buffer = .ok (m, none) := by
    rw [demux]
    have hval : stunMessageValidateBufferLength buffer
        (!plainAgent.usageFlags.noAlignedAttributes) = .ok (buffer.length : ℤ) :=
      validate_of_framed hframed
    rw [hval]
    simp only [bind, Except.bind, if_neg hinv, if_neg hinc, if_neg hsize, ← hm]
    rfl
  have hslot : matchSentId plainAgent m = .ok .none := by
    rw [matchSentId, hclass]
    rfl
  have hlacks := lacksCredentials_eq hvis plainAgent.toStunAgentConfig hclass
  have hkey : validateKey plainAgent m false none none = .ok (.inr none) := by
    rw [validateKey, hlacks, hasAttribute_eq hvis]
    rfl
  have hignore : ignoreCredentials plainAgent.toStunAgentConfig m = .ok false := by
    rw [ignoreCredentials, hasErrorCode, hclass]
    rfl
  have hauth : authenticate crypto plainAgent.toStunAgentConfig m false none
      (plainAgent.savedLongTermKey .none) = .ok (m, true) := rfl
  have hfind : stunAgentFindUnknowns (plainAgent.release .none).toStunAgentConfig m 1 = .ok [] :=
    findUnknowns_visible hvis rfl 1
  have hnone : validateMessage crypto plainAgent m .none false none =
      .ok (.success, m, plainAgent) := by
    rw [validateMessage, hauth]
    simp only [bind, Except.bind, Bool.not_true, Bool.false_eq_true, if_false, hfind]
    rfl
  rw [← hnone]
  exact (Reaches.mk hdemux hslot (by simp) hignore hkey).validate

/-- A request of 65540 bytes with one attribute that the agent does not know: it is accepted, and
the reply to it lists nothing. -/
theorem unknown_attributes_unseen :
    ∃ crypto agent received req buffer cookie agent',
      ∃ rs : List (Attribute agent.usageFlags.noAlignedAttributes),
        stunAgentValidate crypto agent received buffer none = .ok (.success, req, agent') ∧
        stunMessageGetClass req = .ok .request ∧ stunMessageHasCookie req = .ok cookie ∧
        (buffer.take (messageLen buffer)).drop 20 = encodeAll rs ∧
        ¬ Lists crypto agent' req (unknownIds agent.toStunAgentConfig cookie rs) := by
  obtain ⟨data, hdata⟩ : ∃ data : Bytes, data.length = 65516 :=
    ⟨List.replicate 65516 0, List.length_replicate⟩
  let r : Attribute false := ⟨0x7777, 65516, data, hdata⟩
  let buffer := (plainRequest 65520 (encodeAll [r])).buffer
  let m := receivedMessage plainAgent (plainRequest 0 []) buffer
  have hlen : buffer.length = 65540 := by
    simp only [buffer, plainRequest, List.length_append, encodeAll_singleton, Tlv.encode_length,
      List.length_replicate, be16_length]
    change 2 + 2 + 16 + (4 + attributeStep false 65516) = 65540
    decide +kernel
  have hmessage : messageLen buffer = 65540 := by
    change (word16 0xff 0xf0).toNat + 20 = 65540
    decide +kernel
  have hrs : (buffer.take buffer.length).drop 20 = encodeAll [r] := by
    rw [List.take_length]
    rfl
  have hframed : Framed true buffer buffer.length := by
    have hfirst : (0 : UInt8) < 64 := by decide
    refine ⟨hfirst, by rw [hlen, hmessage], le_rfl, fun _ => ?_, [r], hrs⟩
    rw [hlen]
    decide
  have hval := @validate_unseen (constantCrypto 0) (plainRequest 0 []) buffer hframed (by omega) rfl
  refine ⟨constantCrypto 0, plainAgent, plainRequest 0 [], m, buffer, false, plainAgent, [r],
    hval, rfl, rfl, ?_, fun hlists => ?_⟩
  · rw [hmessage, ← hlen]
    exact hrs
  · have hchecked := Checked.of_validate hval (.inl rfl)
    obtain ⟨seen, hvis⟩ := hchecked.visible
    obtain rfl := (@visible_eq false m _ _ _ hframed hvis hrs).2 (by omega)
    obtain ⟨id, hid⟩ := exists_messageId hchecked.twenty_le
    have hnil := @buildUnknown_lists (constantCrypto 0) plainAgent m id 1 [] rfl hid rfl hvis
      ⟨PACKAGE_STRING.length - 1, by decide +kernel⟩
    rw [unknownIds_eq_nil.mpr rfl] at hnil
    have hempty : (([0x7777] : List StunAttribute).filter fun t =>
        !stunOptional t && stunAgentIsUnknown plainAgent.toStunAgentConfig t) = [] :=
      unknownIds_eq_nil.mp (hlists.eq_nil hnil)
    exact absurd hempty (by decide +kernel)

end LibNice.Ice.Wire
