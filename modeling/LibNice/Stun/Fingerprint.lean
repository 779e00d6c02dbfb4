import LibNice.Stun.Authentication

/-!
What the FINGERPRINT check of `stun_agent_validate` says about a message.

* `demux_none`: what a message has gone through that is not refused as other data.
* `EndsWithFingerprint`: a message whose last attribute is the checksum of all that precedes it.
* `FirstLikeLast`: the last attribute is a FINGERPRINT with the value of the first one.
* `fingerprint_iff`: **a message that passes the check ends with its fingerprint** exactly when the
  first FINGERPRINT, which alone is looked at, is like the last attribute, and the buffer is no
  larger than the message; `fingerprint_middle` is a message with an attribute behind it.
-/

namespace LibNice.Stun

open LibNice.Foundation

variable {agent agent' : StunAgent} {msg msg' m : StunMessage} {buffer : Bytes}

/-! ### The first checks -/

/-- **A message that is not refused as other data** is the whole buffer up to the width of an
`int`, and has passed the FINGERPRINT check if there is one. -/
lemma demux_none (h : demux agent msg buffer = .ok (m, none)) :
    ∃ len : ℕ, Framed (!agent.usageFlags.noAlignedAttributes) buffer len ∧
      (len : ℤ) = intOfSize buffer.length ∧ m = receivedMessage agent msg buffer ∧
      (agent.fingerprinted = true → checkFingerprint agent.toStunAgentConfig m = .ok true) := by
  rw [demux] at h
  obtain ⟨len, hlen, h⟩ := bind_eq_ok.mp h
  by_cases hinv : len = STUN_MESSAGE_BUFFER_INVALID
  · rw [if_pos hinv] at h
    cases Except.ok.inj h
  by_cases hinc : len = STUN_MESSAGE_BUFFER_INCOMPLETE
  · rw [if_neg hinv, if_pos hinc] at h
    cases Except.ok.inj h
  by_cases hsize : len ≠ intOfSize buffer.length
  · rw [if_neg hinv, if_neg hinc, if_pos hsize] at h
    cases Except.ok.inj h
  rw [if_neg hinv, if_neg hinc, if_neg hsize] at h
  obtain ⟨n, rfl, hframed⟩ := ((validate_cases hlen).resolve_left hinv).resolve_left hinc
  obtain ⟨noCookie, -, h⟩ := bind_eq_ok.mp h
  by_cases hcookie : noCookie = true
  · rw [if_pos hcookie] at h
    cases Except.ok.inj h
  rw [if_neg hcookie] at h
  obtain ⟨badFpr, hfpr, h⟩ := bind_eq_ok.mp h
  by_cases hbad : badFpr = true
  · rw [if_pos hbad] at h
    cases Except.ok.inj h
  rw [if_neg hbad] at h
  obtain ⟨rfl, -⟩ := Prod.mk.inj (Except.ok.inj h)
  refine ⟨n, hframed, not_not.mp hsize, rfl, fun hon => ?_⟩
  rw [hon] at hfpr
  cases hcheck : checkFingerprint agent.toStunAgentConfig (receivedMessage agent msg buffer) with
  | error e =>
      rw [hcheck] at hfpr
      cases hfpr
  | ok passes =>
      rw [hcheck] at hfpr
      cases passes with
      | true => rfl
      | false => exact absurd (Except.ok.inj hfpr).symm hbad

/-- Data that is no message of the agent is refused as such. -/
lemma demux_some {status : StunValidationStatus}
    (h : demux agent msg buffer = .ok (m, some status)) :
    status = .notStun ∨ status = .incompleteStun ∨ status = .badRequest := by
  rw [demux] at h
  obtain ⟨len, -, h⟩ := bind_eq_ok.mp h
  by_cases hinv : len = STUN_MESSAGE_BUFFER_INVALID
  · rw [if_pos hinv] at h
    cases Except.ok.inj h
    exact .inl rfl
  by_cases hinc : len = STUN_MESSAGE_BUFFER_INCOMPLETE
  · rw [if_neg hinv, if_pos hinc] at h
    cases Except.ok.inj h
    exact .inr (.inl rfl)
  by_cases hsize : len ≠ intOfSize buffer.length
  · rw [if_neg hinv, if_neg hinc, if_pos hsize] at h
    cases Except.ok.inj h
    exact .inl rfl
  rw [if_neg hinv, if_neg hinc, if_neg hsize] at h
  obtain ⟨noCookie, -, h⟩ := bind_eq_ok.mp h
  by_cases hcookie : noCookie = true
  · rw [if_pos hcookie] at h
    cases Except.ok.inj h
    exact .inr (.inr rfl)
  rw [if_neg hcookie] at h
  obtain ⟨badFpr, -, h⟩ := bind_eq_ok.mp h
  by_cases hbad : badFpr = true
  · rw [if_pos hbad] at h
    cases Except.ok.inj h
    exact .inr (.inr rfl)
  · rw [if_neg hbad] at h
    cases (Prod.mk.inj (Except.ok.inj h)).2

/-! ### The checksum -/

/-- A checksum runs over its blocks as over one. -/
lemma stunCrc32_flatten (data : List Bytes) (typo : Bool) :
    stunCrc32 data typo = stunCrc32 [data.flatten] typo := by
  rw [stunCrc32, stunCrc32, List.foldl_cons, List.foldl_nil, List.foldl_flatten]

/-- The fingerprint of what precedes it: its checksum, masked. -/
def fingerprintOf (agent : StunAgentConfig) (pre : Bytes) : UInt32 :=
  stunCrc32 [pre] (agent.compatibility = .wlm2009) ^^^ 0x5354554e

/-- **The fingerprint of a whole buffer** is that of all but its last 8 bytes: the length field
that is summed is the one that is there. -/
lemma stunFingerprint_eq {agent : StunAgentConfig} {len : UInt16} (h28 : 28 ≤ buffer.length)
    (hlen : len.toNat = buffer.length) (hmessage : messageLen buffer = buffer.length) :
    stunFingerprint buffer len (agent.compatibility = .wlm2009) =
      .ok (fingerprintOf agent (buffer.take (buffer.length - 8))) := by
  obtain ⟨t₁, t₂, l₁, l₂, rest, rfl⟩ := exists_four (show 4 ≤ buffer.length by omega)
  set n := (t₁ :: t₂ :: l₁ :: l₂ :: rest).length with hn
  have hrest : n = rest.length + 4 := rfl
  have hfield : be16 (len - 20).toNat = [l₁, l₂] := by
    have hword : (word16 l₁ l₂).toNat + 20 = n := hmessage
    have h20 : (20 : UInt16).toNat = 20 := rfl
    have hle : (20 : UInt16) ≤ len := by
      rw [UInt16.le_iff_toNat_le, hlen, h20]
      omega
    have hsub : len - 20 = word16 l₁ l₂ := by
      refine UInt16.toNat_inj.mp ?_
      rw [UInt16.toNat_sub_of_le _ _ hle, hlen, h20, ← hword, Nat.add_sub_cancel]
    rw [hsub, be16_word16]
  have htake : (t₁ :: t₂ :: l₁ :: l₂ :: rest).take (n - 8) =
      t₁ :: t₂ :: l₁ :: l₂ :: rest.take (n - 12) := by
    rw [show n - 8 = n - 12 + 4 by omega]
    rfl
  have h12 : ¬ len < 12 := by
    have h12 : (12 : UInt16).toNat = 12 := rfl
    rw [UInt16.lt_iff_toNat_lt, hlen, h12]
    omega
  rw [stunFingerprint, if_neg h12, hlen, readSlice_of_le (by rw [← hn]; omega),
    readSlice_of_le (by rw [← hn]; omega), hfield, fingerprintOf, htake]
  simp only [bind, Except.bind, pure, Except.pure]
  rw [stunCrc32_flatten]
  simp

/-! ### Messages with a fingerprint -/

/-- The last attribute of the message, which takes the whole buffer, is a FINGERPRINT of length 4
with the value `v`, and `v` is the checksum of all that precedes it. -/
structure EndsWithFingerprint (agent : StunAgentConfig) (buffer : Bytes) (v : UInt32) : Prop where
  message : messageLen buffer = buffer.length
  last : ∃ (header : Bytes) (rs : List (Attribute agent.usageFlags.noAlignedAttributes))
    (r : Attribute agent.usageFlags.noAlignedAttributes),
    header.length = 20 ∧ buffer = header ++ encodeAll (rs ++ [r]) ∧
      r.type = STUN_ATTRIBUTE_FINGERPRINT ∧ r.len = 4 ∧ r.value = be32 v ∧
      v = fingerprintOf agent (header ++ encodeAll rs)

/-- The last attribute is a FINGERPRINT of length 4 and has the value of the first FINGERPRINT. -/
def FirstLikeLast (na : Bool) (buffer : Bytes) : Prop :=
  ∃ (header : Bytes) (rs : List (Attribute na)) (first last : Attribute na),
    header.length = 20 ∧ buffer = header ++ encodeAll rs ∧
      rs.find? (fun r => r.type = STUN_ATTRIBUTE_FINGERPRINT) = some first ∧
      rs.getLast? = some last ∧ last.type = STUN_ATTRIBUTE_FINGERPRINT ∧ last.len = 4 ∧
      last.value = first.value

/-- A FINGERPRINT is sought up to the first one. -/
lemma scan_fingerprint {na : Bool} {rs : List (Attribute na)} {off : ℕ} {p : ℕ × UInt16}
    (h : scan (misordered STUN_ATTRIBUTE_FINGERPRINT) STUN_ATTRIBUTE_FINGERPRINT off rs = some p) :
    ∃ pre r post, rs = pre ++ r :: post ∧ p = (off + (encodeAll pre).length + 4, r.len) ∧
      rs.find? (fun r => r.type = STUN_ATTRIBUTE_FINGERPRINT) = some r := by
  obtain ⟨pre, r, post, rfl, hr, hpre, rfl⟩ := scan_eq_some.mp h
  refine ⟨pre, r, post, rfl, rfl, ?_⟩
  rw [List.find?_append, List.find?_eq_none.mpr fun s hs => by simpa using (hpre s hs).1,
    Option.none_or, List.find?_cons_of_pos (by simpa using hr)]

/-- The type FINGERPRINT is the same for every agent. -/
lemma wireType_fingerprint (msg : StunMessage) :
    msg.wireType STUN_ATTRIBUTE_FINGERPRINT = STUN_ATTRIBUTE_FINGERPRINT := by
  unfold StunMessage.wireType
  cases msg.agent with
  | none => rfl
  | some agent =>
      dsimp only
      by_cases h : agent.compatibility = .oc2007
      · rw [if_pos h]
        rfl
      · rw [if_neg h]

/-- A word that is read from an attribute is its value. -/
lemma value_of_readWord32 {na : Bool} {pre rest : Bytes} {r : Attribute na} {v : UInt32}
    (h4 : r.len = 4) (hread : readWord32 (pre ++ (r.encode ++ rest)) (pre.length + 4) = .ok v) :
    r.value = be32 v := by
  have hlen : r.len.toNat = 4 := by
    rw [h4]
    rfl
  have hbody : r.body.length = 4 := by
    rw [r.body_length, hlen]
    cases na <;> rfl
  obtain ⟨a, b, c, d, tail, hbytes⟩ := exists_four hbody.ge
  obtain rfl : tail = [] := by
    rw [hbytes] at hbody
    simpa using hbody
  have hsplit : pre ++ (r.encode ++ rest) =
      (pre ++ be16 r.type.toNat ++ be16 r.len.toNat) ++ be32 (word32 a b c d) ++ rest := by
    rw [Tlv.encode, hbytes, be32_word32]
    simp only [List.append_assoc]
  have hword := @readWord32_append (pre ++ be16 r.type.toNat ++ be16 r.len.toNat) rest
    (pre.length + 4) (word32 a b c d) (by simp)
  rw [hsplit, hword] at hread
  rw [← Except.ok.inj hread, be32_word32, Tlv.value, hbytes, hlen]
  rfl

/-- **A message that passes the check** has a first FINGERPRINT of length 4 whose value is the
checksum of all but the last 8 bytes. -/
lemma checkFingerprint_first
    (hframed : Framed (!agent.usageFlags.noAlignedAttributes) buffer buffer.length)
    (hcheck : checkFingerprint agent.toStunAgentConfig (receivedMessage agent msg buffer) =
      .ok true) :
    ∃ (header : Bytes) (rs : List (Attribute agent.usageFlags.noAlignedAttributes))
      (first : Attribute agent.usageFlags.noAlignedAttributes),
      header.length = 20 ∧ buffer = header ++ encodeAll rs ∧
        rs.find? (fun r => r.type = STUN_ATTRIBUTE_FINGERPRINT) = some first ∧
        first.value =
          be32 (fingerprintOf agent.toStunAgentConfig (buffer.take (buffer.length - 8))) := by
  set na := agent.usageFlags.noAlignedAttributes with hna
  obtain ⟨rs, hvis⟩ := @Framed.visible na (receivedMessage agent msg buffer) _ rfl hframed
  have h20 := hframed.twenty_le
  obtain ⟨len, hlen, hval⟩ := stunMessageLength_eq (show
    4 ≤ (receivedMessage agent msg buffer).buffer.length from by
      change 4 ≤ buffer.length
      omega)
  have hmessage : messageLen buffer = buffer.length := hframed.len.symm
  have hcopy := hvis
  obtain ⟨-, ⟨header, tail, hheader, hbuf⟩, len', hlen', hcase⟩ := hcopy
  obtain rfl : len = len' := Except.ok.inj (hlen.symm.trans hlen')
  replace hval : len.toNat = buffer.length % 65536 := hmessage ▸ hval
  replace hbuf : buffer = header ++ (encodeAll rs ++ tail) := hbuf
  rw [checkFingerprint, stunMessageFind32, find_visible hvis, wireType_fingerprint] at hcheck
  cases hs : scan (misordered STUN_ATTRIBUTE_FINGERPRINT) STUN_ATTRIBUTE_FINGERPRINT 20 rs with
  | none =>
      rw [hs] at hcheck
      exact absurd (Except.ok.inj hcheck) (by decide)
  | some p =>
      obtain ⟨pre, first, post, rfl, rfl, hfind⟩ := scan_fingerprint hs
      -- the attributes end with the buffer
      have hword := (word16 (buffer.getD 2 0) (buffer.getD 3 0)).toNat_lt
      have hsize : len.toNat = 20 + (encodeAll (pre ++ first :: post)).length :=
        hcase.resolve_right fun h => by simpa using h.2
      have htotal := congrArg List.length hbuf
      rw [List.length_append, List.length_append, hheader] at htotal
      have hfull : len.toNat = buffer.length := by
        rw [messageLen] at hmessage
        omega
      obtain rfl : tail = [] := List.eq_nil_of_length_eq_zero (by omega)
      rw [hs] at hcheck
      simp only [bind, Except.bind] at hcheck
      by_cases h4 : first.len = 4
      swap
      · rw [if_neg h4] at hcheck
        exact absurd (Except.ok.inj hcheck) (by decide)
      rw [if_pos h4] at hcheck
      have hfirst : first.encode.length = 8 := by
        rw [Tlv.encode_length, h4]
        cases na <;> rfl
      have hlong : 28 ≤ buffer.length := by
        rw [encodeAll_append, encodeAll_cons, List.length_append, List.length_append] at hsize
        omega
      cases hw : readWord32 buffer (20 + (encodeAll pre).length + 4) with
      | error e =>
          rw [show (receivedMessage agent msg buffer).buffer = buffer from rfl, hw] at hcheck
          cases hcheck
      | ok v =>
          rw [show (receivedMessage agent msg buffer).buffer = buffer from rfl, hw] at hcheck
          simp only [pure, Except.pure, hlen, stunFingerprint_eq hlong hfull hmessage] at hcheck
          have hv : v = fingerprintOf agent.toStunAgentConfig (buffer.take (buffer.length - 8)) :=
            of_decide_eq_true (Except.ok.inj hcheck)
          refine ⟨header, _, first, hheader, by rw [hbuf, List.append_nil], hfind, ?_⟩
          rw [← hv]
          have hsplit : buffer =
              (header ++ encodeAll pre) ++ (first.encode ++ encodeAll post) := by
            rw [hbuf]
            simp
          have hoff : 20 + (encodeAll pre).length + 4 = (header ++ encodeAll pre).length + 4 := by
            rw [List.length_append, hheader]
          rw [hoff, hsplit] at hw
          exact value_of_readWord32 h4 hw

/-- The checksum of a message without its fingerprint. -/
def prefixCrc (agent : StunAgentConfig) (buffer : Bytes) : UInt32 :=
  stunCrc32 [buffer.take (buffer.length - 8)] (agent.compatibility = .wlm2009)

/-- What precedes a last attribute of 8 bytes. -/
lemma take_last {na : Bool} {header : Bytes} {rs : List (Attribute na)} {r : Attribute na}
    (h4 : r.len = 4) :
    (header ++ encodeAll (rs ++ [r])).take ((header ++ encodeAll (rs ++ [r])).length - 8) =
      header ++ encodeAll rs := by
  have hr : r.encode.length = 8 := by
    rw [Tlv.encode_length, h4]
    cases na <;> rfl
  rw [encodeAll_append, encodeAll_singleton, ← List.append_assoc, List.length_append, hr,
    Nat.add_sub_cancel, List.take_left]

lemma drop_last {na : Bool} {header : Bytes} {rs : List (Attribute na)} {r : Attribute na}
    (h4 : r.len = 4) :
    (header ++ encodeAll (rs ++ [r])).drop ((header ++ encodeAll (rs ++ [r])).length - 8) =
      r.encode := by
  have hr : r.encode.length = 8 := by
    rw [Tlv.encode_length, h4]
    cases na <;> rfl
  rw [encodeAll_append, encodeAll_singleton, ← List.append_assoc, List.length_append, hr,
    Nat.add_sub_cancel, List.drop_left]

/-- A fingerprint is the masked checksum of what precedes it. -/
lemma EndsWithFingerprint.prefixCrc_eq {agent : StunAgentConfig} {v : UInt32}
    (h : EndsWithFingerprint agent buffer v) : prefixCrc agent buffer = v ^^^ 0x5354554e := by
  obtain ⟨-, header, rs, r, -, rfl, -, h4, -, rfl⟩ := h
  rw [prefixCrc, take_last h4, fingerprintOf, UInt32.xor_assoc, UInt32.xor_self, UInt32.xor_zero]

/-- A message is split in one way into its header and its attributes. -/
lemma header_encodeAll_inj {na : Bool} {header header' : Bytes} {rs rs' : List (Attribute na)}
    (h : header.length = 20) (h' : header'.length = 20)
    (heq : header ++ encodeAll rs = header' ++ encodeAll rs') : header = header' ∧ rs = rs' := by
  obtain ⟨hheader, hrs⟩ := List.append_inj heq (h.trans h'.symm)
  exact ⟨hheader, encodeAll_injective hrs⟩

/-- A message that has passed the check ends with its fingerprint when its last attribute is like
the first FINGERPRINT. -/
lemma endsWithFingerprint_iff
    (hframed : Framed (!agent.usageFlags.noAlignedAttributes) buffer buffer.length)
    (hcheck : checkFingerprint agent.toStunAgentConfig (receivedMessage agent msg buffer) =
      .ok true) :
    (∃ v, EndsWithFingerprint agent.toStunAgentConfig buffer v) ↔
      FirstLikeLast agent.usageFlags.noAlignedAttributes buffer := by
  obtain ⟨header, rs, first, hheader, hbuf, hfind, hfirst⟩ := checkFingerprint_first hframed hcheck
  constructor
  · rintro ⟨v, -, header', rs', last, hheader', hbuf', htype, h4, hvalue, hv⟩
    obtain ⟨rfl, rfl⟩ := header_encodeAll_inj hheader hheader' (hbuf.symm.trans hbuf')
    refine ⟨header, _, first, last, hheader, hbuf, hfind, List.getLast?_concat, htype, h4, ?_⟩
    rw [hvalue, hfirst, hv, hbuf, take_last h4]
  · rintro ⟨header', rs', first', last, hheader', hbuf', hfind', hlast, htype, h4, hvalue⟩
    obtain ⟨rfl, rfl⟩ := header_encodeAll_inj hheader hheader' (hbuf.symm.trans hbuf')
    obtain rfl : first = first' := Option.some.inj (hfind.symm.trans hfind')
    obtain ⟨init, rfl⟩ : ∃ init, rs = init ++ [last] := List.getLast?_eq_some_iff.mp hlast
    refine ⟨_, hframed.len.symm, header, init, last, hheader, hbuf, htype, h4,
      hvalue.trans hfirst, ?_⟩
    conv_lhs => rw [hbuf, take_last h4]

/-- **A message that passes the FINGERPRINT check ends with its fingerprint** exactly when the
first FINGERPRINT has the value of the last attribute, a FINGERPRINT too, and the buffer is shorter
than what an `int` counts; messages with one fingerprint then have one checksum. -/
theorem fingerprint_iff (crypto : StunCrypto) (agent : StunAgent) (msg : StunMessage)
    (buffer : Bytes) (validater : Option StunMessageIntegrityValidate)
    (status : StunValidationStatus) (msg' : StunMessage) (agent' : StunAgent)
    (hon : agent.fingerprinted = true)
    (h : stunAgentValidate crypto agent msg buffer validater = .ok (status, msg', agent'))
    (hstatus : status ≠ .notStun ∧ status ≠ .incompleteStun ∧ status ≠ .badRequest) :
    ((∃ v, EndsWithFingerprint agent.toStunAgentConfig buffer v) ↔
      buffer.length < 2 ^ 31 ∧ FirstLikeLast agent.usageFlags.noAlignedAttributes buffer) ∧
    ∀ v, EndsWithFingerprint agent.toStunAgentConfig buffer v →
      ∀ other, EndsWithFingerprint agent.toStunAgentConfig other v →
        prefixCrc agent.toStunAgentConfig buffer = prefixCrc agent.toStunAgentConfig other := by
  refine ⟨?_, fun v hv other hother => hv.prefixCrc_eq.trans hother.prefixCrc_eq.symm⟩
  rw [stunAgentValidate] at h
  obtain ⟨⟨m, refused⟩, hdemux, h⟩ := bind_eq_ok.mp h
  cases refused with
  | some s =>
      obtain ⟨rfl, -⟩ := Prod.mk.inj (Except.ok.inj h)
      obtain ⟨h1, h2, h3⟩ := hstatus
      rcases demux_some hdemux with hs | hs | hs
      · exact absurd hs h1
      · exact absurd hs h2
      · exact absurd hs h3
  | none =>
      obtain ⟨len, hframed, hlen, rfl, hcheck⟩ := demux_none hdemux
      have hword := (word16 (buffer.getD 2 0) (buffer.getD 3 0)).toNat_lt
      have hmessage : len = messageLen buffer := hframed.len
      have hmax : len < 65536 + 20 := by
        rw [hmessage, messageLen]
        omega
      by_cases hsize : buffer.length < 2 ^ 31
      · have hint := intOfSize_of_lt hsize
        obtain rfl : len = buffer.length := by
          rw [hint] at hlen
          exact_mod_cast hlen
        rw [endsWithFingerprint_iff hframed (hcheck hon), and_iff_right hsize]
      · refine iff_of_false ?_ fun hc => hsize hc.1
        rintro ⟨v, hfull, -⟩
        omega

/-- An RFC 5389 agent that demands a FINGERPRINT and no credentials. -/
def checksumAgent : StunAgent :=
  { plainAgent with
    compatibility := .rfc5389
    usageFlags := ⟨false, false, true, false, true, false, false, false⟩ }

/-- A Binding request with the magic cookie and the attributes `attributes`. -/
def cookieRequest (attributes : Bytes) : Bytes :=
  [0, 1] ++ be16 attributes.length ++ be32 STUN_MAGIC_COOKIE ++ List.replicate 12 7 ++ attributes

/-- A request that consists of a header and its fingerprint. -/
theorem fingerprint_iff_sample :
    ∃ v, EndsWithFingerprint checksumAgent.toStunAgentConfig
      (cookieRequest [0x80, 0x28, 0, 4, 64, 78, 133, 45]) v := by
  obtain ⟨msg', agent', h⟩ := @ok_of_status _ _ (stunAgentValidate (constantCrypto 0)
    checksumAgent (plainRequest 0 []) (cookieRequest [0x80, 0x28, 0, 4, 64, 78, 133, 45]) none)
    .success (by decide +kernel)
  let r : Attribute false := ⟨STUN_ATTRIBUTE_FINGERPRINT, 4, [64, 78, 133, 45], rfl⟩
  exact (fingerprint_iff (constantCrypto 0) checksumAgent (plainRequest 0 []) _ none .success msg'
    agent' rfl h (by decide)).1.mpr ⟨by decide,
      (cookieRequest [0x80, 0x28, 0, 4, 64, 78, 133, 45]).take 20, [r], r, r, by decide, by decide,
      rfl, rfl, rfl, rfl, rfl⟩

/-- **An attribute behind the fingerprint**: a request that is accepted although it ends with an
empty SOFTWARE attribute, whose 4 bytes the checksum leaves out. -/
theorem fingerprint_middle :
    ∃ msg' agent', stunAgentValidate (constantCrypto 0) checksumAgent (plainRequest 0 [])
        (cookieRequest [0x80, 0x28, 0, 4, 44, 10, 61, 75, 0x80, 0x22, 0, 0]) none =
          .ok (.success, msg', agent') ∧
      ¬ ∃ v, EndsWithFingerprint checksumAgent.toStunAgentConfig
        (cookieRequest [0x80, 0x28, 0, 4, 44, 10, 61, 75, 0x80, 0x22, 0, 0]) v := by
  obtain ⟨msg', agent', h⟩ := @ok_of_status _ _ (stunAgentValidate (constantCrypto 0)
    checksumAgent (plainRequest 0 [])
    (cookieRequest [0x80, 0x28, 0, 4, 44, 10, 61, 75, 0x80, 0x22, 0, 0]) none)
    .success (by decide +kernel)
  refine ⟨msg', agent', h, ?_⟩
  rintro ⟨v, -, header, rs, r, hheader, hbuf, htype, h4, -⟩
  -- the last 8 bytes are not those of a FINGERPRINT
  have hlast := @drop_last _ header rs _ h4
  rw [← hbuf] at hlast
  have hfront := congrArg List.head? hlast
  rw [encode_eq, htype, List.head?_cons] at hfront
  exact absurd hfront (by decide)

end LibNice.Stun
