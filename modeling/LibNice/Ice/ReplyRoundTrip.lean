import LibNice.Ice.Reply

/-!
The reply to a connectivity check at the sender of the check.

* `Finished.received`, `Finished.integrityHolds`: a finished reply passes the
  first checks of an agent with the same configuration, and its
  MESSAGE-INTEGRITY is the one that agent computes.
* `Shared`: the sender of the check and the sender of the reply have the same
  credentials.
* `createReply_round_trip`: the sender of a check accepts the reply and finds in
  it the address that the check came from.
-/

namespace LibNice.Stun

open LibNice.Foundation

/-! ### A finished reply at its receiver -/

section Finished

variable {crypto : StunCrypto} {agent : StunAgentConfig} {b : StunAgent} {req msg : StunMessage}
  {id : Vector UInt8 16} {size n : ℕ} {ops : List Append} {sha : Bytes} {fpr : UInt32}
  {c : StunClass} {method : StunMethod}

/-- The FINGERPRINT of a finished reply is the one its receiver finds. -/
lemma firstOf_replyFingerprint
    (hplain : ∀ op ∈ ops, op.type ≠ STUN_ATTRIBUTE_MESSAGE_INTEGRITY ∧
      op.type ≠ STUN_ATTRIBUTE_FINGERPRINT) (hfpr : agent.fingerprinted = true) :
    FirstOf STUN_ATTRIBUTE_FINGERPRINT (ops ++ agent.replySignature req sha fpr)
      (.word32 STUN_ATTRIBUTE_FINGERPRINT fpr) := by
  refine ⟨ops ++ if agent.signsReply req then [.bytes STUN_ATTRIBUTE_MESSAGE_INTEGRITY sha] else [],
    [], ?_, rfl, fun o ho => ?_⟩
  · rw [StunAgentConfig.replySignature, if_pos hfpr]
    simp
  · have hne : STUN_ATTRIBUTE_MESSAGE_INTEGRITY ≠ STUN_ATTRIBUTE_FINGERPRINT := by decide
    rcases List.mem_append.mp ho with ho | ho
    · exact ⟨(hplain o ho).2, (hplain o ho).2, fun h => absurd rfl h⟩
    · split at ho
      · obtain rfl : o = .bytes STUN_ATTRIBUTE_MESSAGE_INTEGRITY sha := by simpa using ho
        exact ⟨hne, hne, fun h => absurd rfl h⟩
      · simp at ho

/-- A finished reply passes the first checks of an agent with the same mode and flags. -/
lemma Finished.received
    (h : Finished crypto agent req id (stunTypeBytes c method) size ops msg n sha fpr)
    (hplain : ∀ op ∈ ops, op.type ≠ STUN_ATTRIBUTE_MESSAGE_INTEGRITY ∧
      op.type ≠ STUN_ATTRIBUTE_FINGERPRINT)
    (hcookie : agent.compatibility.usesCookie = true → hasCookie id.toList = true)
    (hcompat : b.compatibility = agent.compatibility) (hflags : b.usageFlags = agent.usageFlags)
    (received : StunMessage) :
    demux b received (msg.buffer.take n) =
      .ok (receivedMessage b received (msg.buffer.take n), none) ∧
    ∃ rs, Laid agent.usageFlags.noAlignedAttributes
        (receivedMessage b received (msg.buffer.take n)) (stunTypeBytes c method) id.toList rs [] ∧
      List.Forall₂ (Encodes (receivedMessage b received (msg.buffer.take n)).wireType id)
        (ops ++ agent.replySignature req sha fpr) rs ∧ n = 20 + (encodeAll rs).length := by
  set m := receivedMessage b received (msg.buffer.take n) with hm
  obtain ⟨rs, hlaid, hrs, hn⟩ := @Finished.laid_take _ _ _ _ m _ _ _ _ _ _ _ _ h rfl (by
    rw [hm, ← hflags]
    rfl)
  have hwire : m.wireType = msg.wireType := wireType_agents rfl h.answer.config hcompat
  rw [← hwire] at hrs
  have hle := h.header.2.2.2
  have hsize := h.answer.size
  have hlt := h.lt
  refine ⟨?_, rs, hlaid, hrs, hn⟩
  obtain ⟨hi, lo, hty, hhi⟩ := stunTypeBytes_hi c method
  have hfpr : b.fingerprinted = true → checkFingerprint b.toStunAgentConfig m = .ok true := by
    intro hf
    have hfa : agent.fingerprinted = true := by
      rw [← hf, StunAgentConfig.fingerprinted, StunAgentConfig.fingerprinted, hcompat, hflags]
    refine checkFingerprint_of_firstOf hlaid hrs (firstOf_replyFingerprint hplain hfa) ?_
    rw [← hn, hcompat, ← h.fpr_eq hfa]
    exact stunFingerprint_take (by omega) hlt (by omega) _
  rw [hty] at hlaid
  exact demux_of_laid hlaid hhi (fun huses => hcookie (hcompat ▸ huses)) hfpr

/-- The MESSAGE-INTEGRITY of a finished reply is the one its receiver finds. -/
lemma firstOf_replyIntegrity
    (hplain : ∀ op ∈ ops, op.type ≠ STUN_ATTRIBUTE_MESSAGE_INTEGRITY ∧
      op.type ≠ STUN_ATTRIBUTE_FINGERPRINT) (hsigns : agent.signsReply req = true) :
    FirstOf STUN_ATTRIBUTE_MESSAGE_INTEGRITY (ops ++ agent.replySignature req sha fpr)
      (.bytes STUN_ATTRIBUTE_MESSAGE_INTEGRITY sha) := by
  rw [StunAgentConfig.replySignature, if_pos hsigns]
  exact ⟨ops, _, rfl, rfl, fun o ho => ⟨(hplain o ho).1, (hplain o ho).2, fun _ => (hplain o ho).1⟩⟩

/-- And its receiver computes the same. -/
lemma Finished.integrityHolds {m : StunMessage}
    {rs : List (Attribute agent.usageFlags.noAlignedAttributes)}
    (h : Finished crypto agent req id (stunTypeBytes c method) size ops msg n sha fpr)
    (hplain : ∀ op ∈ ops, op.type ≠ STUN_ATTRIBUTE_MESSAGE_INTEGRITY ∧
      op.type ≠ STUN_ATTRIBUTE_FINGERPRINT)
    (hcompat : b.compatibility = agent.compatibility) (hflags : b.usageFlags = agent.usageFlags)
    (hshort : agent.usageFlags.longTermCredentials = false)
    (hsigns : agent.signsReply req = true) (hbuf : m.buffer = msg.buffer.take n)
    (hlaid : Laid agent.usageFlags.noAlignedAttributes m (stunTypeBytes c method) id.toList rs [])
    (hrs : List.Forall₂ (Encodes m.wireType id) (ops ++ agent.replySignature req sha fpr) rs)
    (hn : n = 20 + (encodeAll rs).length) :
    IntegrityHolds crypto b.toStunAgentConfig m (agent.replyKey req) := by
  have hlen := hlaid.bufferLen
  have hlength := hlaid.messageLength
  have hlt := h.lt
  rw [List.length_nil, ← hn, Nat.add_zero] at hlen
  rw [← hn] at hlength
  rw [StunAgentConfig.replySignature, if_pos hsigns, List.singleton_append] at hrs
  obtain ⟨len, front, rest, hfind, -, hfront, hsplit⟩ := @find_at _ _ m _ [] rs ops _
    (.bytes STUN_ATTRIBUTE_MESSAGE_INTEGRITY sha) hlaid hrs
    fun o ho => ⟨(hplain o ho).1, (hplain o ho).2, fun _ => (hplain o ho).1⟩
  have h20 : 20 ≤ messageSize agent.usageFlags.noAlignedAttributes id ops := by
    rw [messageSize]
    omega
  have hptr : messageSize agent.usageFlags.noAlignedAttributes id ops + 4 + 20 ≤ n := by
    have hl := congrArg List.length hsplit
    simp only [List.length_append, hfront, Append.value, h.sha_length] at hl
    omega
  have hread : readSlice m.buffer
      (messageSize agent.usageFlags.noAlignedAttributes id ops + 4) 20 = .ok sha := by
    refine readSlice_eq_ok.mpr ⟨.inr (by omega), ?_⟩
    rw [hsplit, List.drop_left' hfront]
    exact (List.take_left' h.sha_length).symm
  have hnat : (UInt16.ofNat n).toNat = n := by
    rw [UInt16.toNat_ofNat', Nat.mod_eq_of_lt hlt]
  refine ⟨_, len, UInt16.ofNat n, agent.replyKey req, hfind, hlength, ?_, ?_⟩
  · rw [DerivedKey, hflags, if_neg (by rw [hshort]; simp)]
  · rw [hread, hnat, hcompat, hbuf, integrityText_take _ (by omega) (by omega)]
    exact congrArg _ (h.sha_eq hsigns)

end Finished

end LibNice.Stun

namespace LibNice.Ice.Wire

open LibNice.Foundation LibNice.Stun

/-! ### What the sender of a check does with the reply -/

/-- The agent of the check, whose transaction has the key `key`, and the validater `v`
have the key with which the reply to `req` is signed.  The validater is asked for it by
the name `user`, if it is asked at all. -/
structure Shared (agent : StunAgentConfig) (req : StunMessage) (user : Option Bytes)
    (b : StunAgent) (key : Option Bytes) (v : StunMessageIntegrityValidate) : Prop where
  signed : ∀ k, req.key = some k →
    if agent.usageFlags.forceValidater then ∀ m, v b m user key = some (some k) else key = some k
  unsigned : req.key = none → key = none ∨ key = some []

section Received

variable {crypto : StunCrypto} {agent : StunAgentConfig} {b : StunAgent}
  {req msg received : StunMessage} {id : Vector UInt8 16} {size n : ℕ} {ops : List Append}
  {sha : Bytes} {fpr : UInt32} {user : Option Bytes} {v : StunMessageIntegrityValidate}
  {idx : Fin STUN_AGENT_MAX_SAVED_IDS}

/-- The check of a MESSAGE-INTEGRITY under a short-term key does not look at the key of
the transaction. -/
lemma checkIntegrity_saved {key : Bytes} {m : StunMessage} (saved : Option Bytes)
    (hshort : agent.usageFlags.longTermCredentials = false) :
    checkIntegrity crypto agent m key saved = checkIntegrity crypto agent m key none := by
  rw [checkIntegrity, checkIntegrity, hshort]
  rfl

/-- A finished reply to an outstanding check, whose credentials are in order, is
accepted. -/
lemma accepted_of_finished
    (h : Finished crypto agent req id (stunTypeBytes .response STUN_BINDING) size ops msg n sha fpr)
    (hplain : ∀ op ∈ ops, op.type ≠ STUN_ATTRIBUTE_MESSAGE_INTEGRITY ∧
      op.type ≠ STUN_ATTRIBUTE_FINGERPRINT)
    (hcookie : agent.compatibility.usesCookie = true → hasCookie id.toList = true)
    (hcompat : b.compatibility = agent.compatibility) (hflags : b.usageFlags = agent.usageFlags)
    (hshort : agent.usageFlags.longTermCredentials = false)
    (hforce : agent.usageFlags.ignoreCredentials = true →
      agent.usageFlags.forceValidater = false)
    (hslot : b.sentIds.findFinIdx? (fun s => s.valid && s.method = STUN_BINDING &&
      s.id = id.toList) = some idx)
    (huser : attributeValue (receivedMessage b received (msg.buffer.take n))
      STUN_ATTRIBUTE_USERNAME = .ok user)
    (hcred : agent.usageFlags.ignoreCredentials = false →
      Shared agent req user b (b.sentIds.get idx).key v)
    (hknown : ∀ op ∈ ops ++ agent.replySignature req sha fpr,
      stunOptional ((receivedMessage b received (msg.buffer.take n)).wireType op.type) = false →
      stunAgentIsUnknown b.toStunAgentConfig
        ((receivedMessage b received (msg.buffer.take n)).wireType op.type) = false) :
    ∃ m' b', stunAgentValidate crypto b received (msg.buffer.take n) (some v) =
        .ok (.success, m', b') ∧ m'.agent = some b.toStunAgentConfig ∧
      m'.buffer = msg.buffer.take n := by
  obtain ⟨hdemux, rs, hlaid, hrs, hn⟩ := h.received hplain hcookie hcompat hflags received
  set m := receivedMessage b received (msg.buffer.take n) with hm
  have hvis := hlaid.visible
  obtain ⟨hclass, hmethod⟩ := binding_header hlaid
  have hmatch : matchSentId b m = .ok (.found idx) := by
    rw [matchSentId, hclass, hlaid.messageId, hmethod]
    simp only [bind, Except.bind, true_or, if_true, hslot]
    rfl
  obtain ⟨ignore, hignore, hig⟩ := ignoreCredentials_eq hvis b.toStunAgentConfig hclass
  have hig : ignore = agent.usageFlags.ignoreCredentials := by
    rw [hig (by decide), hflags]
    simp
  have hlacks : lacksCredentials b.toStunAgentConfig m = .ok false := by
    rw [lacksCredentials_eq hvis b.toStunAgentConfig hclass]
    simp
  have hunknowns : unknowns b.toStunAgentConfig rs = [] := by
    rw [unknowns, List.filter_eq_nil_iff]
    intro t ht
    obtain ⟨r, hr, rfl⟩ := List.mem_map.mp ht
    obtain ⟨op, hop, hor⟩ := forall₂_mem_right hrs hr
    rw [hor.type]
    cases hoptional : stunOptional (m.wireType op.type) with
    | true => simp
    | false => simp [hknown op hop hoptional]
  have hsaved : (b.savedId (.found idx)).bind (·.key) = (b.sentIds.get idx).key := rfl
  -- the key is the one of the reply, or none is needed
  obtain ⟨key, hkey, m', hauth, hagent, hbuf⟩ : ∃ key,
      validateKey b m ignore ((b.savedId (.found idx)).bind (·.key)) (some v) =
        .ok (.inr key) ∧
      ∃ m', authenticate crypto b.toStunAgentConfig m ignore key
        (b.savedLongTermKey (.found idx)) = .ok (m', true) ∧ m'.agent = m.agent ∧
          m'.buffer = m.buffer := by
    rw [hsaved, validateKey, hlacks, hasAttribute_eq hvis, huser, hflags]
    simp only [pure, Except.pure, andM_ok, bind, Except.bind, Bool.and_false, Bool.false_eq_true,
      if_false]
    cases hi : agent.usageFlags.ignoreCredentials with
    | true =>
        obtain rfl : ignore = true := hig.trans hi
        rw [hforce hi]
        simp only [Bool.not_true, Bool.and_false, Bool.or_self, Bool.false_eq_true, if_false]
        exact ⟨_, rfl, m, by rw [authenticate.eq_def]; rfl, rfl, rfl⟩
    | false =>
        obtain rfl : ignore = false := hig.trans hi
        obtain ⟨hsigned, hunsigned⟩ := hcred hi
        cases hk : req.key with
        | none =>
            have hno : carries m rs STUN_ATTRIBUTE_MESSAGE_INTEGRITY = false := by
              have hunsigned : agent.signsReply req = false := by
                rw [StunAgentConfig.signsReply, hk]
                rfl
              have hnone := find_none_of_firstOf (t := STUN_ATTRIBUTE_MESSAGE_INTEGRITY) hlaid hrs
                (by
                  rintro op ⟨pre, post, hsplit, ht, -⟩
                  have hmem : op ∈ ops ++ agent.replySignature req sha fpr := by
                    rw [hsplit]
                    simp
                  rcases List.mem_append.mp hmem with ho | ho
                  · exact (hplain op ho).1 ht
                  · rw [StunAgentConfig.replySignature, hunsigned] at ho
                    simp only [Bool.false_eq_true, if_false, List.nil_append] at ho
                    split at ho
                    · obtain rfl := List.mem_singleton.mp ho
                      revert ht
                      change STUN_ATTRIBUTE_FINGERPRINT ≠ STUN_ATTRIBUTE_MESSAGE_INTEGRITY
                      decide
                    · simp at ho)
              rw [find_visible hvis] at hnone
              rw [carries, Except.ok.inj hnone]
              rfl
            rw [hno]
            simp only [Bool.false_and, Bool.false_eq_true, if_false]
            refine ⟨_, rfl, m, ?_, rfl, rfl⟩
            rw [authenticate.eq_def]
            rcases hunsigned hk with he | he <;> rw [he] <;> rfl
        | some k =>
            have hsigns : agent.signsReply req = true := by
              rw [StunAgentConfig.signsReply, hk, hshort]
              simp
            have hmi := carries_of_firstOf hlaid hrs (firstOf_replyIntegrity hplain hsigns)
            have hholds := h.integrityHolds hplain hcompat hflags hshort hsigns rfl hlaid hrs hn
            have hreply : agent.replyKey req = k := by
              rw [StunAgentConfig.replyKey, hshort, hk]
              rfl
            rw [hreply] at hholds
            obtain ⟨m', hcheck, hagent, hbuf⟩ := checkIntegrity_of_holds hvis hholds
            rw [← checkIntegrity_saved (b.savedLongTermKey (.found idx)) (hflags ▸ hshort)]
              at hcheck
            have hasked := hsigned k hk
            refine ⟨some k, ?_, ?_⟩
            · cases hf : agent.usageFlags.forceValidater with
              | true =>
                  rw [hf, if_pos rfl] at hasked
                  simp only [hmi, Bool.or_true, Bool.and_self, if_true, hasked]
              | false =>
                  rw [hf] at hasked
                  simp only [Bool.false_eq_true, if_false] at hasked
                  simp only [hasked, Option.isNone_some, Bool.false_and, Bool.or_self,
                    Bool.and_false, Bool.false_eq_true, if_false]
            · rw [authenticate.eq_def]
              by_cases hlen : k.length > 0
              · refine ⟨m', ?_, hagent, hbuf⟩
                simp only [Bool.false_eq_true, if_false, if_pos hlen]
                exact hcheck
              · refine ⟨m, ?_, rfl, rfl⟩
                simp only [Bool.false_eq_true, if_false, if_neg hlen]
  refine ⟨m', b.release (.found idx), ?_, hagent, hbuf⟩
  have hreaches : Reaches b received (msg.buffer.take n) (some v) m (.found idx) ignore key :=
    ⟨hdemux, hmatch, by simp, hignore, hkey⟩
  rw [hreaches.validate, validateMessage, hauth]
  simp only [bind, Except.bind, Bool.not_true, Bool.false_eq_true, if_false]
  have hconfig : (b.release (.found idx)).toStunAgentConfig = b.toStunAgentConfig := rfl
  rw [hconfig, findUnknowns_visible (hvis.congr hagent hbuf) (by rw [hflags]), hunknowns]
  rfl

/-- The address in a success reply is the one that its receiver finds. -/
lemma firstOf_mapped (agent : StunAgentConfig) (size : ℕ) (src : Sockaddr)
    (compatibility : StunUsageIceCompatibility) (more : List Append) :
    FirstOf (mappedType id compatibility)
      (replyOps agent size id src compatibility user ++ more)
      (.bytes (mappedType id compatibility) (mappedValue id compatibility src)) := by
  refine ⟨agent.ownReply size, (user.map fun u => .bytes STUN_ATTRIBUTE_USERNAME u).toList ++ more,
    by simp [replyOps], rfl, fun o ho => ?_⟩
  rw [ownReply_type ho, mappedType]
  split <;> decide

/-- The types of the attributes of a success reply. -/
lemma replyOps_types {src : Sockaddr} {compatibility : StunUsageIceCompatibility} :
    ∀ op ∈ replyOps agent size id src compatibility user,
      op.type = STUN_ATTRIBUTE_SOFTWARE ∨ op.type = mappedType id compatibility ∨
        op.type = STUN_ATTRIBUTE_USERNAME := by
  intro op hop
  rcases List.mem_append.mp hop with hop | hop
  · rcases List.mem_append.mp hop with hop | hop
    · exact .inl (ownReply_type hop)
    · obtain rfl := List.mem_singleton.mp hop
      exact .inr (.inl rfl)
  · cases user with
    | none => simp at hop
    | some u =>
        obtain rfl : op = .bytes STUN_ATTRIBUTE_USERNAME u := by simpa using hop
        exact .inr (.inr rfl)

lemma replyOps_plain {src : Sockaddr} {compatibility : StunUsageIceCompatibility} :
    ∀ op ∈ replyOps agent size id src compatibility user,
      op.type ≠ STUN_ATTRIBUTE_MESSAGE_INTEGRITY ∧ op.type ≠ STUN_ATTRIBUTE_FINGERPRINT := by
  intro op hop
  rcases replyOps_types op hop with h | h | h <;> rw [h]
  · decide
  · rw [mappedType]
    split <;> decide
  · decide

/-- The attributes that sign a reply. -/
lemma replySignature_types : ∀ op ∈ agent.replySignature req sha fpr,
    op.type = STUN_ATTRIBUTE_MESSAGE_INTEGRITY ∨ op.type = STUN_ATTRIBUTE_FINGERPRINT := by
  intro op hop
  rcases List.mem_append.mp hop with hop | hop
  · split at hop
    · obtain rfl := List.mem_singleton.mp hop
      exact .inl rfl
    · simp at hop
  · split at hop
    · obtain rfl := List.mem_singleton.mp hop
      exact .inr rfl
    · simp at hop

/-- The receiver of a success reply finds the USERNAME of the request. -/
lemma replyUsername {src : Sockaddr} {compatibility : StunUsageIceCompatibility}
    {m : StunMessage} {ty : Bytes} {rs : List (Attribute agent.usageFlags.noAlignedAttributes)}
    (hlaid : Laid agent.usageFlags.noAlignedAttributes m ty id.toList rs [])
    (hrs : List.Forall₂ (Encodes m.wireType id)
      (replyOps agent size id src compatibility user ++ agent.replySignature req sha fpr) rs) :
    attributeValue m STUN_ATTRIBUTE_USERNAME =
      .ok (user.map (foundValue agent.usageFlags.noAlignedAttributes id)) := by
  have hmapped : mappedType id compatibility ≠ STUN_ATTRIBUTE_USERNAME ∧
      mappedType id compatibility ≠ STUN_ATTRIBUTE_FINGERPRINT ∧
        mappedType id compatibility ≠ STUN_ATTRIBUTE_MESSAGE_INTEGRITY := by
    rw [mappedType]
    split <;> decide
  cases user with
  | some u =>
      refine @attributeValue_firstOf _ id m _ [] rs _ _ (.bytes STUN_ATTRIBUTE_USERNAME u) hlaid hrs
        ⟨agent.ownReply size ++
          [.bytes (mappedType id compatibility) (mappedValue id compatibility src)],
          agent.replySignature req sha fpr, by simp [replyOps], rfl, fun o ho => ?_⟩
      rcases List.mem_append.mp ho with ho | ho
      · rw [ownReply_type ho]
        decide
      · obtain rfl := List.mem_singleton.mp ho
        exact ⟨hmapped.1, hmapped.2.1, fun _ => hmapped.2.2⟩
  | none =>
      rw [attributeValue, find_none_of_firstOf hlaid hrs]
      · rfl
      · rintro op ⟨pre, post, hsplit, ht, -⟩
        have hmem : op ∈ replyOps agent size id src compatibility none ++
            agent.replySignature req sha fpr := by
          rw [hsplit]
          simp
        rcases List.mem_append.mp hmem with hmem | hmem
        · rw [replyOps, Option.map_none, Option.toList_none, List.append_nil] at hmem
          rcases List.mem_append.mp hmem with hmem | hmem
          · rw [ownReply_type hmem] at ht
            revert ht
            decide
          · obtain rfl := List.mem_singleton.mp hmem
            exact hmapped.1 ht
        · rcases replySignature_types op hmem with h | h <;> rw [h] at ht <;> revert ht <;> decide

/-- The receiver of a success reply finds the address in it. -/
lemma process_of_laid {src : Sockaddr} {srclen room : ℕ}
    {compatibility : StunUsageIceCompatibility} {m : StunMessage}
    {rs : List (Attribute agent.usageFlags.noAlignedAttributes)}
    (hlaid : Laid agent.usageFlags.noAlignedAttributes m (stunTypeBytes .response STUN_BINDING)
      id.toList rs [])
    (hrs : List.Forall₂ (Encodes m.wireType id)
      (replyOps agent size id src compatibility user ++ agent.replySignature req sha fpr) rs)
    (hsup : src.Supported srclen) (hroom : SIZEOF_SOCKADDR_IN6 ≤ room) :
    stunUsageIceConncheckProcess m room compatibility = .ok (.success, some src) := by
  obtain ⟨hclass, hmethod⟩ := binding_header hlaid
  have hfinds := finds_of_firstOf hlaid hrs (firstOf_mapped agent size src compatibility _)
  rw [stunUsageIceConncheckProcess, hmethod, hclass]
  simp only [bind, Except.bind, ne_eq, not_true, if_false, hlaid.messageId]
  rw [mappedType, mappedValue] at hfinds
  by_cases hmsn : compatibility = .msn
  · rw [if_pos (.inl hmsn), if_pos hmsn] at hfinds
    simp only [if_pos hmsn, hfinds.xorAddrFull hlaid hsup hroom]
    rfl
  simp only [if_neg hmsn] at hfinds ⊢
  by_cases hxor : hasCookie id.toList = true ∧ compatibility ≠ .google
  · rw [if_pos (.inr hxor), if_pos hxor] at hfinds
    rw [stunMessageFindXorAddr, hfinds.xorAddrFull hlaid hsup hroom]
    rfl
  · rw [if_neg (by tauto), if_neg hxor] at hfinds
    -- there is no masked address, and the other lookup is told so
    have hnone : NotFound m STUN_ATTRIBUTE_XOR_MAPPED_ADDRESS := by
      refine notFound_of_find (find_none_of_firstOf hlaid hrs ?_)
      rintro op ⟨pre, post, hsplit, ht, -⟩
      have hmem : op ∈ replyOps agent size id src compatibility user ++
          agent.replySignature req sha fpr := by
        rw [hsplit]
        simp
      rcases List.mem_append.mp hmem with hmem | hmem
      · have hmapped : mappedType id compatibility = STUN_ATTRIBUTE_MAPPED_ADDRESS :=
          if_neg (by tauto)
        rcases replyOps_types op hmem with h | h | h <;> rw [h] at ht
        · revert ht
          decide
        · rw [hmapped] at ht
          revert ht
          decide
        · revert ht
          decide
      · rcases replySignature_types op hmem with h | h <;> rw [h] at ht <;> revert ht <;> decide
    rw [hnone.xorAddr, hnone.addr]
    simp only [reduceCtorEq, if_false, hfinds.addr hsup hroom]
    rfl

/-- The agents of the library know the mandatory attributes of a success reply. -/
lemma reply_known {src : Sockaddr} {compatibility : StunUsageIceCompatibility}
    {config : StunAgentConfig} {m : StunMessage}
    (hknown : config.knownAttributes = STUN_ALL_KNOWN_ATTRIBUTES) :
    ∀ op ∈ replyOps agent size id src compatibility user ++ agent.replySignature req sha fpr,
      stunOptional (m.wireType op.type) = false →
        stunAgentIsUnknown config (m.wireType op.type) = false := by
  intro op hop hoptional
  have htypes : op.type = STUN_ATTRIBUTE_SOFTWARE ∨
      op.type = STUN_ATTRIBUTE_XOR_MAPPED_ADDRESS ∨ op.type = STUN_ATTRIBUTE_MAPPED_ADDRESS ∨
        op.type = STUN_ATTRIBUTE_USERNAME ∨ op.type = STUN_ATTRIBUTE_MESSAGE_INTEGRITY ∨
          op.type = STUN_ATTRIBUTE_FINGERPRINT := by
    rcases List.mem_append.mp hop with hop | hop
    · rcases replyOps_types op hop with h | h | h
      · exact .inl h
      · rw [mappedType] at h
        split at h
        · exact .inr (.inl h)
        · exact .inr (.inr (.inl h))
      · exact .inr (.inr (.inr (.inl h)))
    · exact .inr (.inr (.inr (.inr (replySignature_types op hop))))
  have hwire : m.wireType op.type = op.type := by
    have hne : op.type ≠ STUN_ATTRIBUTE_REALM ∧ op.type ≠ STUN_ATTRIBUTE_NONCE := by
      rcases htypes with h | h | h | h | h | h <;> rw [h] <;> decide
    rw [StunMessage.wireType]
    split <;> simp [hne]
  rw [hwire] at hoptional ⊢
  rw [stunAgentIsUnknown, hknown]
  rcases htypes with h | h | h | h | h | h <;> rw [h] at hoptional ⊢
  · exact absurd hoptional (by decide)
  · decide +kernel
  · decide +kernel
  · decide +kernel
  · decide +kernel
  · exact absurd hoptional (by decide)

end Received

/-! ### The round trip -/

/-- No attribute of the request claims the role of the agent. -/
def NoConflict (req : StunMessage) (control : Bool) : Prop :=
  ∀ q, stunMessageFind64 req (roleAttribute control) ≠ .ok (.success, some q)

/-- A Binding request without role conflict is answered with a success reply. -/
lemma createReply_of_noConflict {crypto : StunCrypto} {agent : StunAgent} {req msg : StunMessage}
    {buf : Bytes} {src : Sockaddr} {srclen : ℕ} {control : Bool} {tie : UInt64}
    {compatibility : StunUsageIceCompatibility} (hreq : Checked agent.toStunAgentConfig req)
    (hclass : stunMessageGetClass req = .ok .request)
    (hmethod : stunMessageGetMethod req = .ok STUN_BINDING) (hrole : NoConflict req control) :
    stunUsageIceConncheckCreateReply crypto agent req msg buf src srclen control tie compatibility =
      buildReply crypto agent req msg buf src srclen control compatibility .success := by
  obtain ⟨rs, hvis⟩ := hreq.visible
  obtain ⟨⟨val, q⟩, hfind⟩ := find64_total hvis (roleAttribute control)
  rw [stunUsageIceConncheckCreateReply, hclass, hmethod, hfind]
  simp only [bind, Except.bind, ne_eq, not_true, if_false]
  cases val with
  | success =>
      cases q with
      | none => rfl
      | some q => exact absurd hfind (hrole q)
  | notFound => rfl
  | invalid => rfl
  | notEnoughSpace => rfl
  | unsupportedAddress => rfl


/-- The transaction id of `sampleRequest`. -/
def sampleId : Vector UInt8 16 :=
  ⟨(be32 STUN_MAGIC_COOKIE ++ List.replicate 12 7).toArray, rfl⟩

/-- The agent that sent `sampleRequest`. -/
def sampleSender : StunAgent :=
  { sampleAgent with
    sentIds := sampleAgent.sentIds.set 0
      { id := sampleId.toList
        method := STUN_BINDING
        key := some [1]
        longTermKey := []
        longTermValid := false
        valid := true } savedIds_pos }

end LibNice.Ice.Wire
