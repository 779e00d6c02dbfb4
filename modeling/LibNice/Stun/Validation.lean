import LibNice.Stun.Attributes

/-!
The checks of `stun_agent_validate` on a message whose attributes are known.

* `carries`: whether a message has an attribute, as a lookup sees it.
* `lacksCredentials_eq`, `ignoreCredentials_eq`, `checkFingerprint_eq`: the
  checks as conditions on what the message carries; none of them reads outside
  the buffer.
* `integrityText`, `expectedSha1_eq`: the bytes that a MESSAGE-INTEGRITY is
  computed over.
* `privTrimVar_ok_iff`: when the quotes around a value can be trimmed.
-/

namespace LibNice.Stun

open LibNice.Foundation

variable {na : Bool}

/-! ### What a message carries -/

/-- Whether a lookup of `t` in the attributes `rs` of the message finds one. -/
def carries (msg : StunMessage) (rs : List (Attribute na)) (t : StunAttribute) : Bool :=
  (scan (misordered (msg.wireType t)) (msg.wireType t) 20 rs).isSome

lemma andM_ok (a b : Bool) :
    ((Except.ok a : Except Fault Bool) <&&> Except.ok b) = .ok (a && b) := by
  cases a <;> rfl

lemma orM_ok (a b : Bool) :
    ((Except.ok a : Except Fault Bool) <||> Except.ok b) = .ok (a || b) := by
  cases a <;> rfl

section Visible

variable {msg : StunMessage} {rs : List (Attribute na)}

lemma hasAttribute_eq (h : Visible na msg rs) (t : StunAttribute) :
    stunMessageHasAttribute msg t = .ok (carries msg rs t) :=
  hasAttribute_visible h t

lemma lacksAttribute_eq (h : Visible na msg rs) (types : List StunAttribute) :
    lacksAttribute msg types = .ok (types.any fun t => !carries msg rs t) := by
  rw [lacksAttribute]
  induction types with
  | nil => rfl
  | cons t types ih =>
      rw [List.anyM, hasAttribute_eq h, List.any_cons]
      cases hc : carries msg rs t with
      | true => exact ih
      | false => rfl

/-- Whether a message of class `c` lacks attributes that the agent demands. -/
theorem lacksCredentials_eq (h : Visible na msg rs) (agent : StunAgentConfig) {c : StunClass}
    (hc : stunMessageGetClass msg = .ok c) :
    lacksCredentials agent msg = .ok ((c = .request ∨ c = .indication) &&
      ((agent.usageFlags.shortTermCredentials &&
          [STUN_ATTRIBUTE_USERNAME, STUN_ATTRIBUTE_MESSAGE_INTEGRITY].any
            fun t => !carries msg rs t) ||
        ((agent.usageFlags.longTermCredentials && c = .request) &&
          [STUN_ATTRIBUTE_USERNAME, STUN_ATTRIBUTE_MESSAGE_INTEGRITY, STUN_ATTRIBUTE_NONCE,
            STUN_ATTRIBUTE_REALM].any fun t => !carries msg rs t) ||
        (!agent.usageFlags.ignoreCredentials && (carries msg rs STUN_ATTRIBUTE_USERNAME &&
          [STUN_ATTRIBUTE_MESSAGE_INTEGRITY].any fun t => !carries msg rs t)))) := by
  rw [lacksCredentials, hc]
  simp only [bind, Except.bind]
  by_cases hreq : c = .request ∨ c = .indication
  · rw [if_pos hreq, lacksAttribute_eq h, lacksAttribute_eq h, lacksAttribute_eq h,
      hasAttribute_eq h]
    simp only [pure, Except.pure, andM_ok, orM_ok, hreq, decide_true, Bool.true_and, Bool.or_assoc]
  · rw [if_neg hreq]
    simp [hreq, pure, Except.pure]

/-- The error code of a message can always be read. -/
lemma findError_total (h : Visible na msg rs) : ∃ r, stunMessageFindError msg = .ok r := by
  rw [stunMessageFindError, find_visible h]
  cases hs : scan (misordered (msg.wireType STUN_ATTRIBUTE_ERROR_CODE))
      (msg.wireType STUN_ATTRIBUTE_ERROR_CODE) 20 rs with
  | none => exact ⟨_, rfl⟩
  | some p =>
      obtain ⟨ptr, len⟩ := p
      obtain ⟨r, -, -, rfl, hle, hfit, -, -⟩ := scan_value h hs
      simp only [bind, Except.bind]
      by_cases h4 : r.len < 4
      · rw [if_pos h4]
        exact ⟨_, rfl⟩
      · have h4' : 4 ≤ r.len.toNat := by simpa [UInt16.lt_iff_toNat_lt] using h4
        have := le_attributeStep na r.len.toNat
        rw [if_neg h4, readByte_of_lt (show ptr + 2 < msg.buffer.length by omega),
          readByte_of_lt (show ptr + 3 < msg.buffer.length by omega)]
        simp only
        split <;> exact ⟨_, rfl⟩

lemma hasErrorCode_total (h : Visible na msg rs) {c : StunClass}
    (hc : stunMessageGetClass msg = .ok c) (codes : List ℕ) :
    ∃ b, hasErrorCode msg codes = .ok b ∧ (c ≠ .error → b = false) := by
  rw [hasErrorCode, hc]
  simp only [bind, Except.bind]
  by_cases herr : c = .error
  · rw [if_pos herr]
    obtain ⟨⟨val, code⟩, hfind⟩ := findError_total h
    rw [hfind]
    cases val <;> exact ⟨_, rfl, fun hne => absurd herr hne⟩
  · rw [if_neg herr]
    exact ⟨false, rfl, fun _ => rfl⟩

/-- Whether a message needs no authentication; the error code matters only in an
error message. -/
theorem ignoreCredentials_eq (h : Visible na msg rs) (agent : StunAgentConfig) {c : StunClass}
    (hc : stunMessageGetClass msg = .ok c) :
    ∃ b, ignoreCredentials agent msg = .ok b ∧
      (c ≠ .error → b = (agent.usageFlags.ignoreCredentials ||
      (c = .indication &&
        (agent.usageFlags.longTermCredentials || agent.usageFlags.noIndicationAuth)))) := by
  rw [ignoreCredentials]
  cases hi : agent.usageFlags.ignoreCredentials with
  | true => exact ⟨true, by simp [pure, Except.pure], fun _ => by simp⟩
  | false =>
      obtain ⟨b, hb, hbc⟩ := hasErrorCode_total h hc [400, 401, 438]
      rw [if_neg (by simp), hb]
      simp only [bind, Except.bind]
      cases b with
      | true => exact ⟨true, by simp [pure, Except.pure], fun hne => by simpa using hbc hne⟩
      | false =>
          rw [hc]
          exact ⟨_, rfl, fun _ => by simp⟩

/-- The value of an attribute can always be read. -/
lemma attributeValue_eq (h : Visible na msg rs) (t : StunAttribute) :
    ∃ v, attributeValue msg t = .ok v ∧ v.isSome = carries msg rs t := by
  obtain ⟨v, hv, hiff⟩ := attributeValue_visible h t
  exact ⟨v, hv, by rw [carries, Bool.eq_iff_iff]; exact hiff⟩

/-- The FINGERPRINT check never reads outside the buffer. -/
lemma checkFingerprint_total (h : Visible na msg rs) (agent : StunAgentConfig) :
    ∃ b, checkFingerprint agent msg = .ok b := by
  have hvis := h
  obtain ⟨-, ⟨pre, tail, hpre, hbuf⟩, len, hlen, hcase⟩ := hvis
  rw [checkFingerprint, stunMessageFind32, find_visible h]
  cases hs : scan (misordered (msg.wireType STUN_ATTRIBUTE_FINGERPRINT))
      (msg.wireType STUN_ATTRIBUTE_FINGERPRINT) 20 rs with
  | none => exact ⟨false, rfl⟩
  | some p =>
      obtain ⟨ptr, l⟩ := p
      obtain ⟨r, hr, -, rfl, hle, hfit, -, -⟩ := scan_value h hs
      simp only [bind, Except.bind]
      by_cases h4 : r.len = 4
      · have hstep := le_attributeStep na r.len.toNat
        have h4' : r.len.toNat = 4 := by rw [h4]; rfl
        have hl : len.toNat = 20 + (encodeAll rs).length := by
          rcases hcase with hl | ⟨-, rfl⟩
          · exact hl
          · simp at hr
        rw [if_pos h4, readWord32_of_lt (show ptr + 3 < msg.buffer.length by omega)]
        simp only [pure, Except.pure, hlen]
        rw [stunFingerprint, if_neg (by rw [UInt16.lt_iff_toNat_lt, hl]; simp; omega),
          readSlice_of_le (show 0 + 2 ≤ msg.buffer.length by omega),
          readSlice_of_le (show 4 + (len.toNat - 12) ≤ msg.buffer.length by omega)]
        exact ⟨_, rfl⟩
      · rw [if_neg h4]
        exact ⟨false, rfl⟩

end Visible

/-! ### The text of a MESSAGE-INTEGRITY -/

/-- The zeros behind a text of `n` bytes in the modes that pad it. -/
def integrityPadding (compatibility : StunCompatibility) (n : ℕ) : Bytes :=
  if compatibility ≠ .rfc5389 ∧ n % 64 > 0 then List.replicate (64 - n % 64) 0 else []

/-- The bytes that the MESSAGE-INTEGRITY with its value at `ptr` is computed over:
the message `b` up to that attribute, with the length up to the end of that
attribute in its length field, or in the WLM 2009 mode the length `total` of the
whole message. -/
def integrityText (compatibility : StunCompatibility) (b : Bytes) (ptr total : ℕ) : Bytes :=
  b.take 2 ++ be16 (if compatibility = .wlm2009 then total - 20 else ptr) ++
    (b.drop 4).take (ptr - 8) ++ integrityPadding compatibility (ptr - 4)

/-- `stun_sha1` over the prefix of a message. -/
lemma stunSha1_eq {crypto : StunCrypto} {b key : Bytes} {ptr msgLen : ℕ} {padding : Bool}
    (hptr : 24 ≤ ptr) (hfit : ptr ≤ b.length) :
    stunSha1 crypto b (ptr + 20) msgLen key padding =
      .ok (crypto.hmacSha1 key (b.take 2 ++ be16 msgLen ++ (b.drop 4).take (ptr - 8) ++
        if padding ∧ (ptr - 4) % 64 > 0 then List.replicate (64 - (ptr - 4) % 64) 0 else [])) := by
  have h28 : ptr + 20 - 28 = ptr - 8 := by omega
  have h24 : ptr + 20 - 24 = ptr - 4 := by omega
  rw [stunSha1, if_neg (by omega), h28, h24, readSlice_of_le (by omega), readSlice_of_le (by omega)]
  rfl

/-- What a received MESSAGE-INTEGRITY is compared with. -/
theorem expectedSha1_eq {crypto : StunCrypto} {agent : StunAgentConfig} {msg : StunMessage}
    {key : Bytes} {ptr : ℕ} {total : UInt16} (hptr : 24 ≤ ptr) (hfit : ptr ≤ msg.buffer.length)
    (htotal : stunMessageLength msg = .ok total) (h20 : 20 ≤ total.toNat) :
    expectedSha1 crypto agent msg ptr key =
      .ok (crypto.hmacSha1 key
        (integrityText agent.compatibility msg.buffer ptr total.toNat)) := by
  have hsub : (total - 20).toNat = total.toNat - 20 :=
    UInt16.toNat_sub_of_le _ _ (by rw [UInt16.le_iff_toNat_le]; exact h20)
  rw [expectedSha1.eq_def]
  cases agent.compatibility with
  | rfc3489 => simp [stunSha1_eq hptr hfit, integrityText, integrityPadding]
  | oc2007 => simp [stunSha1_eq hptr hfit, integrityText, integrityPadding]
  | rfc5389 => simp [stunSha1_eq hptr hfit, integrityText, integrityPadding]
  | wlm2009 =>
      simp [htotal, bind, Except.bind, hsub, stunSha1_eq hptr hfit, integrityText,
        integrityPadding]

/-! ### Trimming quotes -/

/-- A value from which `priv_trim_var` leaves something. -/
def Trimmable (v : Bytes) : Prop := ∃ c ∈ v, c ≠ quoteChar ∧ c ≠ 0

lemma skipQuotes_of_mem {v : Bytes} (h : ∃ c ∈ v, c ≠ quoteChar) : ∃ p, skipQuotes v = .ok p := by
  induction v with
  | nil => simp at h
  | cons c cs ih =>
      rw [skipQuotes]
      split
      next hc =>
        refine ih ?_
        obtain ⟨d, hd, hne⟩ := h
        rcases List.mem_cons.mp hd with rfl | hd
        · exact absurd hc hne
        · exact ⟨d, hd, hne⟩
      next => exact ⟨_, rfl⟩

lemma dropTail_ok_iff {v : Bytes} : (∃ p, dropTail v = .ok p) ↔ Trimmable v := by
  induction v with
  | nil => simp [dropTail, Trimmable]
  | cons c cs ih =>
      rw [dropTail]
      split
      next hc =>
        rw [ih]
        constructor
        · rintro ⟨d, hd, hne⟩
          exact ⟨d, by simp [hd], hne⟩
        · rintro ⟨d, hd, hq, h0⟩
          rcases List.mem_cons.mp hd with rfl | hd
          · rcases hc with hc | hc
            · exact absurd hc hq
            · exact absurd hc h0
          · exact ⟨d, hd, hq, h0⟩
      next hc =>
        refine ⟨fun _ => ⟨c, by simp, fun hq => hc (.inl hq), fun h0 => hc (.inr h0)⟩, fun _ => ?_⟩
        exact ⟨_, rfl⟩

/-- `priv_trim_var` stays inside a value exactly when there is something left of
it: a byte that is neither a quote nor zero. -/
theorem privTrimVar_ok_iff {v : Bytes} : (∃ p, privTrimVar v = .ok p) ↔ Trimmable v := by
  have hrev : Trimmable v.reverse ↔ Trimmable v := by simp [Trimmable]
  constructor
  · rintro ⟨p, hp⟩
    rw [privTrimVar] at hp
    obtain ⟨ptr, -, hp⟩ := bind_eq_ok.mp hp
    obtain ⟨rest, hrest, -⟩ := bind_eq_ok.mp hp
    exact hrev.mp (dropTail_ok_iff.mp ⟨rest, hrest⟩)
  · intro h
    obtain ⟨ptr, hptr⟩ := skipQuotes_of_mem (by
      obtain ⟨c, hc, hq, -⟩ := h
      exact ⟨c, hc, hq⟩)
    obtain ⟨rest, hrest⟩ := dropTail_ok_iff.mpr (hrev.mpr h)
    rw [privTrimVar, hptr]
    simp only [bind, Except.bind, hrest]
    exact ⟨_, rfl⟩

lemma stunHashCreds_ok_iff {crypto : StunCrypto} {realm username password : Bytes} :
    (∃ md5, stunHashCreds crypto realm username password = .ok md5) ↔
      Trimmable realm ∧ Trimmable username ∧ Trimmable password := by
  constructor
  · rintro ⟨md5, h⟩
    rw [stunHashCreds] at h
    obtain ⟨u, hu, h⟩ := bind_eq_ok.mp h
    obtain ⟨p, hp, h⟩ := bind_eq_ok.mp h
    obtain ⟨r, hr, -⟩ := bind_eq_ok.mp h
    exact ⟨privTrimVar_ok_iff.mp ⟨r, hr⟩, privTrimVar_ok_iff.mp ⟨u, hu⟩,
      privTrimVar_ok_iff.mp ⟨p, hp⟩⟩
  · rintro ⟨hr, hu, hp⟩
    obtain ⟨r, hr⟩ := privTrimVar_ok_iff.mpr hr
    obtain ⟨u, hu⟩ := privTrimVar_ok_iff.mpr hu
    obtain ⟨p, hp⟩ := privTrimVar_ok_iff.mpr hp
    rw [stunHashCreds, hu]
    simp only [bind, Except.bind, hp, hr]
    exact ⟨_, rfl⟩

end LibNice.Stun
