import LibNice.Stun.Finish

/-!
A finished message at its receiver.

* `Signed.received`, `Signed.integrityHolds`: the finished message passes the
  first checks of an agent with the same configuration, and its MESSAGE-INTEGRITY
  is the one that agent computes.
* `Received.success`: a message whose credentials are in order is accepted.
* `finish_validate_round_trip`: what one agent finishes, another accepts;
  `padded_username_unauthorized` is about the name under which the validater of
  that agent finds the user.
-/

namespace LibNice.Stun

open LibNice.Foundation

variable {na : Bool} {id : Vector UInt8 16} {crypto : StunCrypto} {msg : StunMessage}
  {ty tail : Bytes} {rs : List (Attribute na)}

/-! ### The finished message at its receiver -/

lemma readSlice_take {b : Bytes} {i k n : ℕ} (hk : i + k ≤ n) (hn : n ≤ b.length) :
    readSlice (b.take n) i k = readSlice b i k := by
  rw [readSlice_of_le (by rw [List.length_take]; omega), readSlice_of_le (by omega),
    List.drop_take, List.take_take, Nat.min_eq_left (by omega)]

/-- The checksum of a message reads nothing behind it. -/
lemma stunFingerprint_take {b : Bytes} {n : ℕ} (h12 : 12 ≤ n) (hlt : n < 65536)
    (hn : n ≤ b.length) (typo : Bool) :
    stunFingerprint (b.take n) (UInt16.ofNat n) typo =
      stunFingerprint b (UInt16.ofNat n) typo := by
  have hnat : (UInt16.ofNat n).toNat = n := by
    rw [UInt16.toNat_ofNat', Nat.mod_eq_of_lt hlt]
  rw [stunFingerprint, stunFingerprint, hnat, readSlice_take (by omega) hn,
    readSlice_take (by omega) hn]

/-- The text of a MESSAGE-INTEGRITY lies before it. -/
lemma integrityText_take (compatibility : StunCompatibility) {b : Bytes} {ptr n : ℕ}
    (hptr : 6 ≤ ptr) (hn : ptr ≤ n) (total : ℕ) :
    integrityText compatibility (b.take n) ptr total = integrityText compatibility b ptr total := by
  rw [integrityText, integrityText, List.take_take, Nat.min_eq_left (by omega), List.drop_take,
    List.take_take, Nat.min_eq_left (by omega)]

/-- A message with the right MESSAGE-INTEGRITY passes the check of it, which
changes nothing but the keys of the message. -/
lemma checkIntegrity_of_holds {config : StunAgentConfig} {key : Bytes} (hvis : Visible na msg rs)
    (h : IntegrityHolds crypto config msg key) :
    ∃ m', checkIntegrity crypto config msg key none = .ok (m', true) ∧
      m'.agent = msg.agent ∧ m'.buffer = msg.buffer := by
  obtain ⟨ptr, len, total, derived, hfind, htotal, hderived, hread⟩ := h
  have hcompare (m' : StunMessage) (hagent : m'.agent = msg.agent) (hbuf : m'.buffer = msg.buffer) :
      ∃ m'', compareIntegrity crypto config m' ptr derived key = .ok (m'', true) ∧
        m''.agent = msg.agent ∧ m''.buffer = msg.buffer := by
    obtain ⟨total', htotal', hsha⟩ := @expectedSha1_visible crypto config msg m' na rs hvis hbuf ptr
      len hfind derived
    obtain rfl := Except.ok.inj (htotal.symm.trans htotal')
    rw [compareIntegrity, hsha, hbuf]
    simp only [bind, Except.bind, hread, if_true]
    exact ⟨_, rfl, hagent, rfl⟩
  rw [checkIntegrity, hfind]
  simp only [bind, Except.bind]
  rw [DerivedKey] at hderived
  split
  next hlong =>
    rw [if_pos hlong] at hderived
    obtain ⟨realm, username, hrealm, husername, hcreds⟩ := hderived
    have hkey : receivedLongTermKey crypto msg key none = .ok (some derived) := by
      rw [receivedLongTermKey]
      simp only [bind, Except.bind, hrealm, husername, hcreds]
      rfl
    rw [hkey]
    exact hcompare _ rfl rfl
  next hlong =>
    rw [if_neg hlong] at hderived
    subst hderived
    exact hcompare msg rfl rfl

/-! ### First attributes -/

lemma FirstOf.append_right {t : StunAttribute} {ops : List Append} {op : Append}
    (h : FirstOf t ops op) (more : List Append) : FirstOf t (ops ++ more) op := by
  obtain ⟨pre, post, rfl, ht, hpre⟩ := h
  exact ⟨pre, post ++ more, by simp, ht, hpre⟩

/-- An attribute that no call before stops the search for. -/
lemma FirstOf.append_left {t : StunAttribute} {ops : List Append} {op : Append}
    (h : FirstOf t ops op) (before : List Append)
    (hbefore : ∀ o ∈ before, o.type ≠ t ∧ o.type ≠ STUN_ATTRIBUTE_FINGERPRINT ∧
      (t ≠ STUN_ATTRIBUTE_FINGERPRINT → o.type ≠ STUN_ATTRIBUTE_MESSAGE_INTEGRITY)) :
    FirstOf t (before ++ ops) op := by
  obtain ⟨pre, post, rfl, ht, hpre⟩ := h
  refine ⟨before ++ pre, post, by simp, ht, fun o ho => ?_⟩
  rcases List.mem_append.mp ho with ho | ho
  · exact hbefore o ho
  · exact hpre o ho

/-- Every attribute can be found in a list without a MESSAGE-INTEGRITY and a
FINGERPRINT. -/
lemma exists_firstOf {t : StunAttribute} {ops : List Append}
    (hplain : ∀ op ∈ ops, op.type ≠ STUN_ATTRIBUTE_MESSAGE_INTEGRITY ∧
      op.type ≠ STUN_ATTRIBUTE_FINGERPRINT) (h : ∃ op ∈ ops, op.type = t) :
    ∃ op, FirstOf t ops op := by
  induction ops with
  | nil => simp at h
  | cons op ops ih =>
      by_cases ht : op.type = t
      · exact ⟨op, [], ops, rfl, ht, by simp⟩
      · obtain ⟨o, ho, hot⟩ := h
        have ho' : o ∈ ops := by
          rcases List.mem_cons.mp ho with rfl | ho
          · exact absurd hot ht
          · exact ho
        obtain ⟨op', hop'⟩ := ih (fun o ho => hplain o (by simp [ho])) ⟨o, ho', hot⟩
        have hop := hplain op (by simp)
        exact ⟨op', hop'.append_left [op] (by simp [ht, hop])⟩

/-- The MESSAGE-INTEGRITY of a finished message is the one its receiver finds. -/
lemma firstOf_integrity {agent : StunAgentConfig} {ops : List Append} {sha : Bytes} {fpr : UInt32}
    (hplain : ∀ op ∈ ops, op.type ≠ STUN_ATTRIBUTE_MESSAGE_INTEGRITY ∧
      op.type ≠ STUN_ATTRIBUTE_FINGERPRINT) :
    FirstOf STUN_ATTRIBUTE_MESSAGE_INTEGRITY (ops ++ agent.signature sha fpr)
      (.bytes STUN_ATTRIBUTE_MESSAGE_INTEGRITY sha) :=
  ⟨ops, _, rfl, rfl, fun o ho => ⟨(hplain o ho).1, (hplain o ho).2, fun _ => (hplain o ho).1⟩⟩

/-- And so is its FINGERPRINT. -/
lemma firstOf_fingerprint {agent : StunAgentConfig} {ops : List Append} {sha : Bytes} {fpr : UInt32}
    (hplain : ∀ op ∈ ops, op.type ≠ STUN_ATTRIBUTE_MESSAGE_INTEGRITY ∧
      op.type ≠ STUN_ATTRIBUTE_FINGERPRINT) (hfpr : agent.fingerprinted = true) :
    FirstOf STUN_ATTRIBUTE_FINGERPRINT (ops ++ agent.signature sha fpr)
      (.word32 STUN_ATTRIBUTE_FINGERPRINT fpr) := by
  refine ⟨ops ++ [.bytes STUN_ATTRIBUTE_MESSAGE_INTEGRITY sha], [], ?_, rfl, fun o ho => ?_⟩
  · rw [StunAgentConfig.signature, if_pos hfpr]
    simp
  · have hne : STUN_ATTRIBUTE_MESSAGE_INTEGRITY ≠ STUN_ATTRIBUTE_FINGERPRINT := by decide
    rcases List.mem_append.mp ho with ho | ho
    · exact ⟨(hplain o ho).2, (hplain o ho).2, fun h => absurd rfl h⟩
    · obtain rfl : o = .bytes STUN_ATTRIBUTE_MESSAGE_INTEGRITY sha := by simpa using ho
      exact ⟨hne, hne, fun h => absurd rfl h⟩

lemma carries_of_firstOf {t : StunAttribute} {ops : List Append} {op : Append}
    (h : Laid na msg ty id.toList rs tail) (hrs : List.Forall₂ (Encodes msg.wireType id) ops rs)
    (hop : FirstOf t ops op) : carries msg rs t = true := by
  obtain ⟨ptr, len, -, -, hfind, -⟩ := finds_of_firstOf h hrs hop
  rw [find_visible h.visible] at hfind
  rw [carries, Except.ok.inj hfind]
  rfl

/-! ### The round trip -/

section RoundTrip

variable {a : StunAgentConfig} {b : StunAgent} {c : StunClass} {ops : List Append}
  {wire : StunAttribute → StunAttribute} {derived sha : Bytes} {fpr : UInt32} {n : ℕ}

/-- What the receiver of a finished message has before it. -/
structure Received (a : StunAgentConfig) (b : StunAgent) (id : Vector UInt8 16) (c : StunClass)
    (ops : List Append) (m : StunMessage)
    (rs : List (Attribute a.usageFlags.noAlignedAttributes)) : Prop where
  compatibility : b.compatibility = a.compatibility
  usageFlags : b.usageFlags = a.usageFlags
  agent : m.agent = some b.toStunAgentConfig
  class_eq : stunMessageGetClass m = .ok c
  request : c = .request ∨ c = .indication
  laid : ∃ ty, Laid a.usageFlags.noAlignedAttributes m ty (a.transactionId id).toList rs []
  encodes : List.Forall₂ (Encodes m.wireType (a.transactionId id)) ops rs

/-- A message that fills its buffer passes the first checks of an agent whose cookie
and FINGERPRINT it carries. -/
lemma demux_of_laid {b : StunAgent} {received : StunMessage} {buffer : Bytes} {hi lo : UInt8}
    (h : Laid na (receivedMessage b received buffer) [hi, lo] id.toList rs []) (hhi : hi < 64)
    (hcookie : b.compatibility.usesCookie = true → hasCookie id.toList = true)
    (hfpr : b.fingerprinted = true →
      checkFingerprint b.toStunAgentConfig (receivedMessage b received buffer) = .ok true) :
    demux b received buffer = .ok (receivedMessage b received buffer, none) := by
  obtain rfl : b.usageFlags.noAlignedAttributes = na := h.noAligned
  set m := receivedMessage b received buffer with hm
  set n := 20 + (encodeAll rs).length with hn
  have hlt : n < 65536 := h.lt
  have hmlen : buffer.length = n := by
    have := h.bufferLen
    rwa [List.length_nil, Nat.add_zero] at this
  have hframed : Framed (!b.usageFlags.noAlignedAttributes) buffer n := h.framed hhi
  have hinv : (n : ℤ) ≠ STUN_MESSAGE_BUFFER_INVALID := by
    rw [STUN_MESSAGE_BUFFER_INVALID]
    omega
  have hinc : (n : ℤ) ≠ STUN_MESSAGE_BUFFER_INCOMPLETE := by
    rw [STUN_MESSAGE_BUFFER_INCOMPLETE]
    omega
  have hsize : ¬ ((n : ℤ) ≠ intOfSize buffer.length) := by
    rw [hmlen, intOfSize_of_lt (by omega)]
    simp
  rw [demux, validate_of_framed hframed]
  simp only [bind, Except.bind, if_neg hinv, if_neg hinc, if_neg hsize, ← hm]
  cases huses : b.compatibility.usesCookie with
  | false =>
      have hf : b.fingerprinted = false := by rw [StunAgentConfig.fingerprinted, huses]; rfl
      rw [hf]
      rfl
  | true =>
      rw [h.cookie, hcookie huses]
      cases hf : b.fingerprinted with
      | false => rfl
      | true =>
          rw [hfpr hf]
          rfl

/-- A message whose FINGERPRINT is the checksum passes the check of it. -/
lemma checkFingerprint_of_firstOf {config : StunAgentConfig} {ops : List Append} {fpr : UInt32}
    (h : Laid na msg ty id.toList rs []) (hrs : List.Forall₂ (Encodes msg.wireType id) ops rs)
    (hop : FirstOf STUN_ATTRIBUTE_FINGERPRINT ops (.word32 STUN_ATTRIBUTE_FINGERPRINT fpr))
    (heq : stunFingerprint msg.buffer (UInt16.ofNat (20 + (encodeAll rs).length))
      (config.compatibility = .wlm2009) = .ok fpr) :
    checkFingerprint config msg = .ok true := by
  rw [checkFingerprint, (finds_of_firstOf h hrs hop).word32]
  simp only [bind, Except.bind, h.messageLength, heq]
  simp [pure, Except.pure]

/-- The first `n` bytes of a finished message pass the first checks of the
receiver. -/
lemma Signed.received (h : Signed crypto a id c ops wire derived msg n sha fpr)
    (hplain : ∀ op ∈ ops, op.type ≠ STUN_ATTRIBUTE_MESSAGE_INTEGRITY ∧
      op.type ≠ STUN_ATTRIBUTE_FINGERPRINT)
    (hc : c = .request ∨ c = .indication) (hcompat : b.compatibility = a.compatibility)
    (hflags : b.usageFlags = a.usageFlags) (received : StunMessage)
    (hwire : (receivedMessage b received (msg.buffer.take n)).wireType = wire) :
    demux b received (msg.buffer.take n) =
      .ok (receivedMessage b received (msg.buffer.take n), none) ∧
    ∃ rs, Received a b id c (ops ++ a.signature sha fpr)
      (receivedMessage b received (msg.buffer.take n)) rs ∧ n = 20 + (encodeAll rs).length := by
  obtain ⟨method, rs, tail, hlaid, hrs, hn⟩ := h.laid
  obtain ⟨hi, lo, hty, hhi, -, -⟩ := stunTypeBytes_eq hc method
  set m := receivedMessage b received (msg.buffer.take n) with hm
  have hlt := hlaid.lt
  have hlen := hlaid.bufferLen
  have hlaid' : Laid a.usageFlags.noAlignedAttributes m (stunTypeBytes c method)
      (a.transactionId id).toList rs [] :=
    hlaid.take (by rw [← hn, hm]; rfl) (by rw [hm, ← hflags]; rfl)
  have hreceived : Received a b id c (ops ++ a.signature sha fpr) m rs :=
    ⟨hcompat, hflags, rfl, hlaid'.getClass hc, hc, ⟨_, hlaid'⟩, by rw [hwire]; exact hrs⟩
  refine ⟨?_, rs, hreceived, hn⟩
  have hcookie : b.compatibility.usesCookie = true →
      hasCookie (a.transactionId id).toList = true := by
    intro huses
    rw [StunAgentConfig.transactionId, ← hcompat, if_pos huses]
    simp only [hasCookie, Vector.toList_mk, List.take_left' (be32_length _), decide_true]
  have hfpr : b.fingerprinted = true → checkFingerprint b.toStunAgentConfig m = .ok true := by
    intro hf
    have hfa : a.fingerprinted = true := by
      rw [← hf, StunAgentConfig.fingerprinted, StunAgentConfig.fingerprinted, hcompat, hflags]
    refine checkFingerprint_of_firstOf hlaid' (hwire ▸ hrs) (firstOf_fingerprint hplain hfa) ?_
    rw [← hn, hcompat, ← h.fpr_eq hfa]
    exact stunFingerprint_take (by omega) (by omega) (by omega) _
  rw [hty] at hlaid'
  exact demux_of_laid hlaid' hhi hcookie hfpr

/-- A request or an indication whose credentials are in order is accepted. -/
lemma Received.success {m received : StunMessage} {buffer : Bytes}
    {rs : List (Attribute a.usageFlags.noAlignedAttributes)} {key user : Bytes}
    {validater : StunMessageIntegrityValidate} (h : Received a b id c ops m rs)
    (hdemux : demux b received buffer = .ok (m, none))
    (husername : attributeValue m STUN_ATTRIBUTE_USERNAME = .ok (some user))
    (hintegrity : carries m rs STUN_ATTRIBUTE_MESSAGE_INTEGRITY = true)
    (hlong : a.usageFlags.longTermCredentials = true →
      carries m rs STUN_ATTRIBUTE_REALM = true ∧ carries m rs STUN_ATTRIBUTE_NONCE = true)
    (hholds : IntegrityHolds crypto b.toStunAgentConfig m key)
    (hvalidater : ∀ agent m k, validater agent m (some user) k = some (some key))
    (hknown : unknowns b.toStunAgentConfig rs = []) :
    ∃ m' b', stunAgentValidate crypto b received buffer (some validater) =
      .ok (.success, m', b') := by
  obtain ⟨ty, hlaid⟩ := h.laid
  have hvis := hlaid.visible
  have hflags := h.usageFlags
  have huser : carries m rs STUN_ATTRIBUTE_USERNAME = true := by
    obtain ⟨v, hv, hsome⟩ := attributeValue_eq hvis STUN_ATTRIBUTE_USERNAME
    obtain rfl := Except.ok.inj (hv.symm.trans husername)
    exact hsome.symm
  have hslot : matchSentId b m = .ok .none := by
    rw [matchSentId, h.class_eq]
    rcases h.request with rfl | rfl <;> rfl
  obtain ⟨ignore, hignore, -⟩ := ignoreCredentials_eq hvis b.toStunAgentConfig h.class_eq
  have hlacks : lacksCredentials b.toStunAgentConfig m = .ok false := by
    rw [lacksCredentials_eq hvis b.toStunAgentConfig h.class_eq, hflags]
    congr 1
    cases hl : a.usageFlags.longTermCredentials with
    | false => simp [huser, hintegrity]
    | true =>
        obtain ⟨hrealm, hnonce⟩ := hlong hl
        simp [huser, hintegrity, hrealm, hnonce]
  -- the key is the one of the validater, or it is not needed
  obtain ⟨key', hkey, hkey'⟩ : ∃ key', validateKey b m ignore none (some validater) =
      .ok (.inr key') ∧ (ignore = false → key' = some key) := by
    rw [validateKey, hlacks, hasAttribute_eq hvis, hintegrity, husername]
    simp only [pure, Except.pure, andM_ok, bind, Except.bind, Bool.and_false, Bool.false_eq_true,
      if_false, hvalidater]
    split
    · exact ⟨_, rfl, fun _ => rfl⟩
    next hno => exact ⟨none, rfl, fun hi => by simp [hi] at hno⟩
  have hreaches : Reaches b received buffer (some validater) m .none ignore key' :=
    ⟨hdemux, hslot, by simp, hignore, hkey⟩
  -- the integrity check changes nothing but the keys of the message
  obtain ⟨m', hauth, hagent, hbuf⟩ : ∃ m', authenticate crypto b.toStunAgentConfig m ignore key'
      (b.savedLongTermKey .none) = .ok (m', true) ∧ m'.agent = m.agent ∧ m'.buffer = m.buffer := by
    rw [authenticate.eq_def]
    cases ignore with
    | true => exact ⟨m, rfl, rfl, rfl⟩
    | false =>
        obtain rfl := hkey' rfl
        obtain ⟨m', hcheck, hagent, hbuf⟩ := checkIntegrity_of_holds hvis hholds
        by_cases hlen : key.length > 0
        · refine ⟨m', ?_, hagent, hbuf⟩
          simp only [Bool.false_eq_true, if_false, if_pos hlen]
          exact hcheck
        · refine ⟨m, ?_, rfl, rfl⟩
          simp only [Bool.false_eq_true, if_false, if_neg hlen]
  refine ⟨m', b, ?_⟩
  rw [hreaches.validate, validateMessage, hauth]
  simp only [bind, Except.bind, Bool.not_true, Bool.false_eq_true, if_false, StunAgent.release]
  rw [findUnknowns_visible (hvis.congr hagent hbuf) (by rw [hflags]), hknown]
  rfl

/-- The receiver computes the MESSAGE-INTEGRITY that is there. -/
lemma Signed.integrityHolds {m : StunMessage} {key : Bytes}
    {rs : List (Attribute a.usageFlags.noAlignedAttributes)}
    (h : Signed crypto a id c ops wire derived msg n sha fpr)
    (hplain : ∀ op ∈ ops, op.type ≠ STUN_ATTRIBUTE_MESSAGE_INTEGRITY ∧
      op.type ≠ STUN_ATTRIBUTE_FINGERPRINT)
    (hbuf : m.buffer = msg.buffer.take n)
    (hreceived : Received a b id c (ops ++ a.signature sha fpr) m rs)
    (hn : n = 20 + (encodeAll rs).length)
    (hderived : DerivedKey crypto b.toStunAgentConfig m key derived) :
    IntegrityHolds crypto b.toStunAgentConfig m key := by
  obtain ⟨ty, hlaid⟩ := hreceived.laid
  have hlen := hlaid.bufferLen
  have hlt := hlaid.lt
  have hlength := hlaid.messageLength
  rw [List.length_nil, ← hn, Nat.add_zero] at hlen
  rw [← hn] at hlt hlength
  obtain ⟨len, front, rest, hfind, -, hfront, hsplit⟩ := @find_at _ _ m ty [] rs ops _
    (.bytes STUN_ATTRIBUTE_MESSAGE_INTEGRITY sha) hlaid hreceived.encodes
    fun o ho => ⟨(hplain o ho).1, (hplain o ho).2, fun _ => (hplain o ho).1⟩
  have h20 := twenty_le_size a id ops
  have hptr : a.size id ops + 4 + 20 ≤ n := by
    have hl := congrArg List.length hsplit
    simp only [List.length_append, hfront, Append.value, h.sha_length] at hl
    rw [StunAgentConfig.size]
    omega
  have hread : readSlice m.buffer (a.size id ops + 4) 20 = .ok sha := by
    refine readSlice_eq_ok.mpr ⟨.inr (by omega), ?_⟩
    rw [hsplit, StunAgentConfig.size, List.drop_left' hfront]
    exact (List.take_left' h.sha_length).symm
  have hnat : (UInt16.ofNat n).toNat = n := by
    rw [UInt16.toNat_ofNat', Nat.mod_eq_of_lt hlt]
  refine ⟨a.size id ops + 4, len, UInt16.ofNat n, derived, hfind, hlength, hderived, ?_⟩
  rw [hread, hnat, hreceived.compatibility, hbuf, integrityText_take _ (by omega) (by omega)]
  exact congrArg _ h.sha_eq

/-- The receiver knows every mandatory attribute. -/
lemma Received.known {m : StunMessage} {rs : List (Attribute a.usageFlags.noAlignedAttributes)}
    (h : Received a b id c ops m rs)
    (hknown : ∀ op ∈ ops, stunOptional (m.wireType op.type) = false →
      stunAgentIsUnknown b.toStunAgentConfig (m.wireType op.type) = false) :
    unknowns b.toStunAgentConfig rs = [] := by
  rw [unknowns, List.filter_eq_nil_iff]
  intro t ht
  obtain ⟨r, hr, rfl⟩ := List.mem_map.mp ht
  obtain ⟨op, hop, hor⟩ := forall₂_mem_right h.encodes hr
  rw [hor.type]
  cases hoptional : stunOptional (m.wireType op.type) with
  | true => simp
  | false => simp [hknown op hop hoptional]

/-- The attributes an agent appends by itself are no obstacle to a lookup. -/
lemma Initialised.own_software {agent : StunAgent} {buffer : Bytes} {own : List Append}
    (h : Initialised agent buffer id c own msg) :
    ∀ op ∈ own, op.type = STUN_ATTRIBUTE_SOFTWARE ∧ op.Supported := by
  cases h with
  | indication => simp
  | request =>
      rw [StunAgentConfig.ownAppends]
      split
      · simp [Append.type, Append.Supported]
      · simp

lemma wireType_agents {m m' : StunMessage} {x y : StunAgentConfig} (hm : m.agent = some x)
    (hm' : m'.agent = some y) (h : x.compatibility = y.compatibility) :
    m.wireType = m'.wireType := by
  funext t
  rw [StunMessage.wireType, StunMessage.wireType, hm, hm']
  simp only [h]

/-- **The finish and validate round trip.**  A request or an indication that the
agent `a` has begun, with any attributes but a MESSAGE-INTEGRITY and a FINGERPRINT,
and with a USERNAME and for long-term credentials a REALM and a NONCE among them,
is accepted once `a` has finished it, by every agent with the same mode and flags
that knows the mandatory attributes under their numbers on the wire and has the
key of the user under the name that is on the wire. -/
theorem finish_validate_round_trip (crypto : StunCrypto) (a a' b : StunAgent) (buffer : Bytes)
    (id : Vector UInt8 16) (c : StunClass) (own ops : List Append)
    (msg msg' msg'' received : StunMessage) (vals : List StunMessageReturn) (user : Append)
    (key : Bytes) (validater : StunMessageIntegrityValidate) (n : ℕ)
    (hinit : Initialised a buffer id c own msg)
    (happ : appendAll msg ops = .ok (msg', vals))
    (hfin : stunAgentFinishMessage crypto a msg' (some key) = .ok (n, msg'', a')) (hn : 0 < n)
    (hops : ∀ op ∈ ops, op.Supported ∧ op.type ≠ STUN_ATTRIBUTE_MESSAGE_INTEGRITY ∧
      op.type ≠ STUN_ATTRIBUTE_FINGERPRINT)
    (huser : FirstOf STUN_ATTRIBUTE_USERNAME ops user)
    (hlong : a.usageFlags.longTermCredentials →
      ∀ t ∈ [STUN_ATTRIBUTE_REALM, STUN_ATTRIBUTE_NONCE], ∃ op ∈ ops, op.type = t)
    (hlt : a.size id (own ++ ops) + 24 + (if a.fingerprinted then 8 else 0) < 65536)
    (hfit : a.size id (own ++ ops) + 24 + (if a.fingerprinted then 8 else 0) ≤ buffer.length)
    (hcompat : b.compatibility = a.compatibility) (hflags : b.usageFlags = a.usageFlags)
    (hvalidater : ∀ agent m k, validater agent m (some (foundValue a.usageFlags.noAlignedAttributes
      (a.transactionId id) (user.value (a.transactionId id)))) k = some (some key))
    (hknown : ∀ t, t = STUN_ATTRIBUTE_MESSAGE_INTEGRITY ∨ (∃ op ∈ ops, op.type = t) →
      stunOptional (msg.wireType t) = false →
      stunAgentIsUnknown b.toStunAgentConfig (msg.wireType t) = false) :
    ∃ m b', stunAgentValidate crypto b received (msg''.buffer.take n) (some validater) =
      .ok (.success, m, b') := by
  have hown := hinit.own_software
  have hsizes := @size_append id a.toStunAgentConfig own ops
  have h20 := twenty_le_size a.toStunAgentConfig id ops
  have hbegun₀ := hinit.begun (by omega) (by omega)
  obtain ⟨m₁, happ', hbegun⟩ := hbegun₀.append ops (fun op hop => (hops op hop).1) (by omega)
    (by omega)
  obtain ⟨rfl, -⟩ := Prod.mk.inj (Except.ok.inj (happ'.symm.trans happ))
  have hplain : ∀ op ∈ own ++ ops, op.type ≠ STUN_ATTRIBUTE_MESSAGE_INTEGRITY ∧
      op.type ≠ STUN_ATTRIBUTE_FINGERPRINT := by
    intro op hop
    rcases List.mem_append.mp hop with hop | hop
    · rw [(hown op hop).1]
      decide
    · exact (hops op hop).2
  -- the first attributes of the message, before and after it is finished
  have hfirst {t : StunAttribute} {op : Append} (ht : t ≠ STUN_ATTRIBUTE_SOFTWARE)
      (hop : FirstOf t ops op) : FirstOf t (own ++ ops) op := by
    refine hop.append_left own fun o ho => ?_
    rw [(hown o ho).1]
    exact ⟨ht.symm, by decide, fun _ => by decide⟩
  have huser' := hfirst (by decide) huser
  have hlong' : a.usageFlags.longTermCredentials = true →
      ∀ t ∈ [STUN_ATTRIBUTE_REALM, STUN_ATTRIBUTE_NONCE], ∃ op, FirstOf t (own ++ ops) op := by
    intro hl t ht
    obtain ⟨op, hop⟩ := exists_firstOf (fun o ho => (hops o ho).2) (hlong hl t ht)
    refine ⟨op, hfirst ?_ hop⟩
    rcases List.mem_cons.mp ht with rfl | ht
    · decide
    · obtain rfl := List.mem_singleton.mp ht
      decide
  obtain ⟨_, rs₁, tail₁, hlaid₁, hrs₁⟩ := hbegun.laid
  have husername₁ := attributeValue_firstOf hlaid₁ hrs₁ huser'
  obtain ⟨derived, sha, fpr, hderived, hsigned⟩ := finish_signed hbegun (fun hl => by
    obtain ⟨op, hop⟩ := hlong' hl STUN_ATTRIBUTE_REALM (by simp)
    exact ⟨_, _, attributeValue_firstOf hlaid₁ hrs₁ hop, husername₁⟩) hlt hfit hfin hn
  -- the message that the receiver sees
  have hc : c = .request ∨ c = .indication := by
    cases hinit with
    | request => exact .inl rfl
    | indication => exact .inr rfl
  have hwire : (receivedMessage b received (msg''.buffer.take n)).wireType = m₁.wireType :=
    wireType_agents rfl hbegun.config hcompat
  obtain ⟨hdemux, rs, hreceived, hn'⟩ := hsigned.received hplain hc hcompat hflags received hwire
  set m := receivedMessage b received (msg''.buffer.take n) with hm
  obtain ⟨ty, hlaid⟩ := hreceived.laid
  have hrs := hreceived.encodes
  have hvalue {t : StunAttribute} {op : Append} (hop : FirstOf t (own ++ ops) op) :
      attributeValue m t = attributeValue m₁ t :=
    (attributeValue_firstOf hlaid hrs (hop.append_right _)).trans
      (attributeValue_firstOf hlaid₁ hrs₁ hop).symm
  have hcarries {t : StunAttribute} {op : Append} (hop : FirstOf t (own ++ ops) op) :
      carries m rs t = true := carries_of_firstOf hlaid hrs (hop.append_right _)
  have hmi := carries_of_firstOf hlaid hrs (firstOf_integrity hplain)
  have hderived' : DerivedKey crypto b.toStunAgentConfig m key derived := by
    rw [DerivedKey, hflags]
    rw [DerivedKey] at hderived
    by_cases hl : a.usageFlags.longTermCredentials = true
    · rw [if_pos hl] at hderived ⊢
      obtain ⟨op, hop⟩ := hlong' hl STUN_ATTRIBUTE_REALM (by simp)
      rw [hvalue hop, hvalue huser']
      exact hderived
    · rw [if_neg hl] at hderived ⊢
      exact hderived
  refine hreceived.success hdemux ((hvalue huser').trans husername₁) hmi (fun hl => ?_)
    (hsigned.integrityHolds hplain rfl hreceived hn' hderived') hvalidater ?_
  · obtain ⟨realm, hrealm⟩ := hlong' hl STUN_ATTRIBUTE_REALM (by simp)
    obtain ⟨nonce, hnonce⟩ := hlong' hl STUN_ATTRIBUTE_NONCE (by simp)
    exact ⟨hcarries hrealm, hcarries hnonce⟩
  · refine hreceived.known fun op hop hoptional => ?_
    rw [hwire, wireType_agents hbegun.config hbegun₀.config rfl] at hoptional ⊢
    have hkeep {t : StunAttribute} (ht : t ≠ STUN_ATTRIBUTE_REALM ∧ t ≠ STUN_ATTRIBUTE_NONCE) :
        msg.wireType t = t := by
      rw [StunMessage.wireType]
      split <;> simp [ht]
    rcases List.mem_append.mp hop with hop | hop
    · rcases List.mem_append.mp hop with hop | hop
      · -- SOFTWARE is optional
        rw [(hown op hop).1, hkeep (by decide)] at hoptional
        cases hoptional
      · exact hknown op.type (.inr ⟨op, hop, rfl⟩) hoptional
    · rw [StunAgentConfig.signature] at hop
      rcases List.mem_cons.mp hop with rfl | hop
      · exact hknown _ (.inl rfl) hoptional
      · -- and so is FINGERPRINT
        have htype : op.type = STUN_ATTRIBUTE_FINGERPRINT := by
          split at hop
          · obtain rfl := List.mem_singleton.mp hop
            rfl
          · simp at hop
        rw [htype, hkeep (by decide)] at hoptional
        cases hoptional

end RoundTrip

/-! ### A padded username -/

/-- A Binding request of the agent in a block of 60 bytes: its transaction id, its
attributes and the key it is finished with. -/
def bindingRequest (agent : StunAgent) (id attributes : Bytes) (key : Option Bytes) : StunMessage :=
  { agent := some agent.toStunAgentConfig
    buffer := [0, 1] ++ be16 attributes.length ++ id ++ attributes ++
      List.replicate (40 - attributes.length) 0
    key
    longTermKey := []
    longTermValid := false }

lemma ok_of_finish {α : Type} [DecidableEq α] {x : Except Fault (α × StunMessage × StunAgent)}
    {n : α} {msg : StunMessage}
    (h : (match x with
      | .ok (k, m, _) => decide (k = n ∧ m = msg)
      | .error _ => false) = true) : ∃ a, x = .ok (n, msg, a) := by
  cases x with
  | error e => cases h
  | ok r =>
      obtain ⟨k, m, a⟩ := r
      obtain ⟨rfl, rfl⟩ := of_decide_eq_true h
      exact ⟨a, rfl⟩

/-- In RFC 3489 mode the USERNAME `a` arrives as `a` and three spaces, and a
validater that looks for `a` does not know that user. -/
theorem padded_username_unauthorized :
    ∃ msg msg' msg'' a' m b' n,
      stunAgentInitRequest shortTermAgent (plainRequest 0 []) (List.replicate 60 0) 1
        (List.replicate 16 7) = .ok (msg, true) ∧
      stunMessageAppendBytes msg STUN_ATTRIBUTE_USERNAME [0x61] = .ok (msg', .success) ∧
      stunAgentFinishMessage (constantCrypto 0) shortTermAgent msg' (some [1]) =
        .ok (n, msg'', a') ∧ 0 < n ∧
      stunAgentValidate (constantCrypto 0) shortTermAgent (plainRequest 0 []) (msg''.buffer.take n)
        (some (stunAgentDefaultValidater [⟨[0x61], [1]⟩])) = .ok (.unauthorized, m, b') := by
  let id : Bytes := List.replicate 16 7
  let username : Bytes := [0, 6, 0, 4, 0x61, 0x20, 0x20, 0x20]
  let integrity : Bytes := [0, 8, 0, 20] ++ List.replicate 20 0
  obtain ⟨a', hfin⟩ := @ok_of_finish _ _ (stunAgentFinishMessage (constantCrypto 0) shortTermAgent
    (bindingRequest shortTermAgent id username none) (some [1])) 52
    (bindingRequest shortTermAgent id (username ++ integrity) (some [1])) (by decide +kernel)
  obtain ⟨m, b', hval⟩ := @ok_of_status _ _
    (stunAgentValidate (constantCrypto 0) shortTermAgent (plainRequest 0 [])
      ((bindingRequest shortTermAgent id (username ++ integrity) (some [1])).buffer.take 52)
      (some (stunAgentDefaultValidater [⟨[0x61], [1]⟩]))) .unauthorized (by decide +kernel)
  exact ⟨bindingRequest shortTermAgent id [] none, _, _, a', m, b', 52, by decide +kernel,
    by decide +kernel, hfin, by decide, hval⟩

/-- An RFC 5389 agent with short-term credentials that uses the FINGERPRINT. -/
def fingerprintAgent : StunAgent :=
  { shortTermAgent with
    compatibility := .rfc5389
    usageFlags := ⟨true, false, true, false, false, false, false, false⟩ }

/-- A Binding request from `abc`, finished and accepted. -/
theorem finish_validate_round_trip_sample :
    ∃ msg'' a' m b', stunAgentFinishMessage (constantCrypto 0) fingerprintAgent
        (bindingRequest fingerprintAgent (be32 STUN_MAGIC_COOKIE ++ List.replicate 12 7)
          [0, 6, 0, 3, 0x61, 0x62, 0x63, 0x20] none) (some [1]) = .ok (60, msg'', a') ∧
      stunAgentValidate (constantCrypto 0) fingerprintAgent (plainRequest 0 [])
        (msg''.buffer.take 60) (some fun _ _ u _ =>
          if u = some [0x61, 0x62, 0x63] then some (some [1]) else none) =
            .ok (.success, m, b') := by
  let id : Vector UInt8 16 := Vector.replicate 16 7
  obtain ⟨msg'', a', hfin⟩ := @ok_of_status _ _ (stunAgentFinishMessage (constantCrypto 0)
    fingerprintAgent (bindingRequest fingerprintAgent
      (be32 STUN_MAGIC_COOKIE ++ List.replicate 12 7)
      [0, 6, 0, 3, 0x61, 0x62, 0x63, 0x20] none) (some [1])) 60 (by decide +kernel)
  have hinit : stunAgentInitRequest fingerprintAgent (plainRequest 0 []) (List.replicate 60 0) 1
      id.toList = .ok (bindingRequest fingerprintAgent
        (be32 STUN_MAGIC_COOKIE ++ List.replicate 12 7) [] none, true) := by decide +kernel
  have happ : appendAll (bindingRequest fingerprintAgent
      (be32 STUN_MAGIC_COOKIE ++ List.replicate 12 7) [] none)
      [.bytes STUN_ATTRIBUTE_USERNAME [0x61, 0x62, 0x63]] =
        .ok (bindingRequest fingerprintAgent (be32 STUN_MAGIC_COOKIE ++ List.replicate 12 7)
          [0, 6, 0, 3, 0x61, 0x62, 0x63, 0x20] none, [.success]) := by decide +kernel
  have hknown (t : StunAttribute) (ht : t = STUN_ATTRIBUTE_MESSAGE_INTEGRITY ∨
      ∃ op ∈ [Append.bytes STUN_ATTRIBUTE_USERNAME [0x61, 0x62, 0x63]], op.type = t)
      (_ : stunOptional t = false) :
      stunAgentIsUnknown fingerprintAgent.toStunAgentConfig t = false := by
    rcases ht with rfl | ⟨op, hop, rfl⟩
    · decide
    · obtain rfl := List.mem_singleton.mp hop
      decide
  obtain ⟨m, b', hval⟩ := finish_validate_round_trip (constantCrypto 0) fingerprintAgent a'
    fingerprintAgent (List.replicate 60 0) id .request [] _ _ _ msg'' (plainRequest 0 []) _
    (.bytes STUN_ATTRIBUTE_USERNAME [0x61, 0x62, 0x63]) [1] (fun _ _ u _ =>
      if u = some [0x61, 0x62, 0x63] then some (some [1]) else none) 60 (.request hinit) happ hfin
    (by decide) (by simp [Append.Supported, Append.type]; decide)
    ⟨[], [], rfl, rfl, by simp⟩ (by decide) (by decide +kernel) (by decide +kernel) rfl rfl
    (fun _ _ _ => by decide +kernel) hknown
  exact ⟨msg'', a', m, b', hfin, hval⟩

end LibNice.Stun
