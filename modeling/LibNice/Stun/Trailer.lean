import LibNice.Stun.Authentication
import LibNice.Stun.Finish

/-!
What the attributes behind a MESSAGE-INTEGRITY do to the validation of a message.

* `SharesIntegrity`: two messages that agree up to and including a
  MESSAGE-INTEGRITY, apart from the length field of the header.
* `Agree`: what the checks before the search for unknown attributes see of a
  message; each of them gives the same on two messages that agree.
* `Authenticated`: whether a message comes as far as that search.
* `trailer_independent_iff`: when the status and the lookups are the same for both
  messages; `unknown_trailer_changes_status` is an attribute behind the
  MESSAGE-INTEGRITY that changes the status.
-/

namespace LibNice.Stun

open LibNice.Foundation

variable {na : Bool}

/-! ### Two messages with one MESSAGE-INTEGRITY -/

/-- The buffers `b₁` and `b₂` hold well-formed messages that agree, the length field
apart, up to and including the MESSAGE-INTEGRITY `mi` behind the attributes `rs`. -/
structure SharesIntegrity (b₁ b₂ : Bytes) (rs : List (Attribute na)) (mi : Attribute na)
    (ts₁ ts₂ : List (Attribute na)) : Prop where
  wellFormed₁ : stunMessageValidateBufferLength b₁ (!na) = .ok b₁.length
  wellFormed₂ : stunMessageValidateBufferLength b₂ (!na) = .ok b₂.length
  type : b₁.take 2 = b₂.take 2
  id : (b₁.drop 4).take 16 = (b₂.drop 4).take 16
  attributes₁ : b₁.drop 20 = encodeAll (rs ++ mi :: ts₁)
  attributes₂ : b₂.drop 20 = encodeAll (rs ++ mi :: ts₂)
  integrity : mi.type = STUN_ATTRIBUTE_MESSAGE_INTEGRITY
  twenty : mi.len = 20

/-- The length of the message in the buffer wraps around in the 16 bits of
`stun_message_length`. -/
def Wraps (b : Bytes) : Prop := 65536 ≤ b.length

instance (b : Bytes) : Decidable (Wraps b) := inferInstanceAs (Decidable (65536 ≤ b.length))

/-- The attributes `rs` of the message in the buffer `b`, as far as the lookups see them. -/
def seen (b : Bytes) (rs : List (Attribute na)) : List (Attribute na) := if Wraps b then [] else rs

/-- A buffer that holds a message with the attributes `rs` shows them, unless its length
wraps. -/
lemma visible_of_wellFormed {msg : StunMessage} {rs : List (Attribute na)}
    (hna : msg.noAligned = na)
    (h : stunMessageValidateBufferLength msg.buffer (!na) = .ok msg.buffer.length)
    (hrs : msg.buffer.drop 20 = encodeAll rs) :
    20 ≤ msg.buffer.length ∧ msg.buffer.length < 65556 ∧
      Visible na msg (seen msg.buffer rs) := by
  obtain ⟨m, hm, hframed⟩ : ∃ m : ℕ, (msg.buffer.length : ℤ) = m ∧
      Framed (!na) msg.buffer m := by
    refine framed_of_validate h ?_
    rcases Nat.eq_zero_or_pos msg.buffer.length with h0 | hpos
    · rw [List.length_eq_zero_iff] at h0
      rw [h0, validate_nil] at h
      cases Except.ok.inj h
    · exact_mod_cast hpos
  obtain rfl : msg.buffer.length = m := by exact_mod_cast hm
  have h20 := hframed.twenty_le
  obtain ⟨len, hlen, hval⟩ := stunMessageLength_eq (show 4 ≤ msg.buffer.length by omega)
  rw [← hframed.len] at hval
  have hmax : msg.buffer.length < 65536 + 20 := by
    have := (word16 (msg.buffer.getD 2 0) (msg.buffer.getD 3 0)).toNat_lt
    rw [hframed.len, messageLen]
    omega
  have hpre : (msg.buffer.take 20).length = 20 := by
    rw [List.length_take]
    omega
  by_cases hw : Wraps msg.buffer
  · rw [seen, if_pos hw]
    unfold Wraps at hw
    exact ⟨h20, hmax, hna, ⟨_, msg.buffer.drop 20, hpre, by simp⟩, len, hlen, .inr ⟨by omega, rfl⟩⟩
  · rw [seen, if_neg hw]
    unfold Wraps at hw
    have hsize := congrArg List.length hrs
    rw [List.length_drop] at hsize
    exact ⟨h20, hmax, hna, ⟨_, [], hpre, by rw [← hrs]; simp⟩, len, hlen, .inl (by omega)⟩

/-! ### What the checks see -/

/-- The messages `m₁` and `m₂` agree, the length field apart, on their first `e` bytes, and
every lookup of another attribute than FINGERPRINT leads to the same value inside them. -/
structure Agree (e : ℕ) (m₁ m₂ : StunMessage) : Prop where
  twenty_le : 20 ≤ e
  fits₁ : e ≤ m₁.buffer.length
  fits₂ : e ≤ m₂.buffer.length
  type : m₁.buffer.take 2 = m₂.buffer.take 2
  body : (m₁.buffer.drop 4).take (e - 4) = (m₂.buffer.drop 4).take (e - 4)
  find : ∀ t, t ≠ STUN_ATTRIBUTE_FINGERPRINT → stunMessageFind m₁ t = stunMessageFind m₂ t
  value : ∀ t ptr len, t ≠ STUN_ATTRIBUTE_FINGERPRINT →
    stunMessageFind m₁ t = .ok (some (ptr, len)) → 24 ≤ ptr ∧ ptr + len.toNat ≤ e
  integrity : ∀ ptr len, stunMessageFind m₁ STUN_ATTRIBUTE_MESSAGE_INTEGRITY =
    .ok (some (ptr, len)) → ptr + 20 ≤ e

namespace Agree

variable {e : ℕ} {m₁ m₂ : StunMessage}

/-- Behind the length field both messages read the same. -/
lemma readSlice_eq (h : Agree e m₁ m₂) {i n : ℕ} (hi : 4 ≤ i) (hn : i + n ≤ e) :
    readSlice m₁.buffer i n = readSlice m₂.buffer i n := by
  have h₁ := h.fits₁
  have h₂ := h.fits₂
  rw [readSlice_of_le (by omega), readSlice_of_le (by omega)]
  have hcut (b : Bytes) :
      (b.drop i).take n = (((b.drop 4).take (e - 4)).drop (i - 4)).take n := by
    rw [List.drop_take, List.take_take, List.drop_drop, Nat.min_eq_left (by omega)]
    congr 2
    omega
  rw [hcut, hcut m₂.buffer, h.body]

lemma readByte_eq (h : Agree e m₁ m₂) {i : ℕ} (hi : 4 ≤ i) (hn : i < e) :
    readByte m₁.buffer i = readByte m₂.buffer i := by
  have h₁ := h.fits₁
  have h₂ := h.fits₂
  have hslice := h.readSlice_eq hi (show i + 1 ≤ e by omega)
  rw [readSlice_of_le (by omega), readSlice_of_le (by omega)] at hslice
  have hget := congrArg (·[0]?) (Except.ok.inj hslice)
  simp only [List.getElem?_take, List.getElem?_drop, Nat.add_zero, Nat.zero_lt_one, if_true]
    at hget
  rw [readByte, readByte, hget]

lemma getClass (h : Agree e m₁ m₂) : stunMessageGetClass m₁ = stunMessageGetClass m₂ :=
  stunMessageGetClass_congr h.type

lemma getMethod (h : Agree e m₁ m₂) : stunMessageGetMethod m₁ = stunMessageGetMethod m₂ := by
  rw [stunMessageGetMethod, stunMessageGetMethod, stunMessageType, stunMessageType, stunGetw,
    stunGetw, readWord_congr h.type le_rfl]

lemma messageId (h : Agree e m₁ m₂) : stunMessageId m₁ = stunMessageId m₂ :=
  h.readSlice_eq le_rfl h.twenty_le

lemma hasCookie (h : Agree e m₁ m₂) : stunMessageHasCookie m₁ = stunMessageHasCookie m₂ := by
  rw [stunMessageHasCookie, stunMessageHasCookie, h.messageId]

lemma matchSentId (h : Agree e m₁ m₂) (agent : StunAgent) :
    Stun.matchSentId agent m₁ = Stun.matchSentId agent m₂ := by
  rw [Stun.matchSentId, Stun.matchSentId, h.getClass, h.messageId, h.getMethod]

lemma hasAttribute (h : Agree e m₁ m₂) {t : StunAttribute}
    (ht : t ≠ STUN_ATTRIBUTE_FINGERPRINT) :
    stunMessageHasAttribute m₁ t = stunMessageHasAttribute m₂ t := by
  rw [stunMessageHasAttribute, stunMessageHasAttribute, h.find t ht]

lemma lacksAttribute (h : Agree e m₁ m₂) (types : List StunAttribute)
    (ht : STUN_ATTRIBUTE_FINGERPRINT ∉ types) :
    Stun.lacksAttribute m₁ types = Stun.lacksAttribute m₂ types := by
  rw [Stun.lacksAttribute, Stun.lacksAttribute]
  induction types with
  | nil => rfl
  | cons t types ih =>
      rw [List.mem_cons, not_or] at ht
      rw [List.anyM, List.anyM, h.hasAttribute (Ne.symm ht.1), ih ht.2]

lemma attributeValue (h : Agree e m₁ m₂) {t : StunAttribute}
    (ht : t ≠ STUN_ATTRIBUTE_FINGERPRINT) :
    Stun.attributeValue m₁ t = Stun.attributeValue m₂ t := by
  rw [Stun.attributeValue, Stun.attributeValue, ← h.find t ht]
  cases hfind : stunMessageFind m₁ t with
  | error err => rfl
  | ok p =>
      cases p with
      | none => rfl
      | some p =>
          obtain ⟨ptr, len⟩ := p
          obtain ⟨hptr, hend⟩ := h.value t ptr len ht hfind
          simp only [bind, Except.bind, h.readSlice_eq (show 4 ≤ ptr by omega) hend]

lemma findError (h : Agree e m₁ m₂) : stunMessageFindError m₁ = stunMessageFindError m₂ := by
  have hne : STUN_ATTRIBUTE_ERROR_CODE ≠ STUN_ATTRIBUTE_FINGERPRINT := by decide
  rw [stunMessageFindError, stunMessageFindError, ← h.find _ hne]
  cases hfind : stunMessageFind m₁ STUN_ATTRIBUTE_ERROR_CODE with
  | error err => rfl
  | ok p =>
      cases p with
      | none => rfl
      | some p =>
          obtain ⟨ptr, len⟩ := p
          obtain ⟨hptr, hend⟩ := h.value _ ptr len hne hfind
          simp only [bind, Except.bind]
          by_cases h4 : len < 4
          · rw [if_pos h4, if_pos h4]
          · have h4' : 4 ≤ len.toNat := by simpa [UInt16.lt_iff_toNat_lt] using h4
            rw [if_neg h4, if_neg h4, h.readByte_eq (show 4 ≤ ptr + 2 by omega) (by omega),
              h.readByte_eq (show 4 ≤ ptr + 3 by omega) (by omega)]

lemma hasErrorCode (h : Agree e m₁ m₂) (codes : List ℕ) :
    Stun.hasErrorCode m₁ codes = Stun.hasErrorCode m₂ codes := by
  rw [Stun.hasErrorCode, Stun.hasErrorCode, h.getClass, h.findError]

lemma ignoreCredentials (h : Agree e m₁ m₂) (agent : StunAgentConfig) :
    Stun.ignoreCredentials agent m₁ = Stun.ignoreCredentials agent m₂ := by
  rw [Stun.ignoreCredentials, Stun.ignoreCredentials, h.getClass, h.hasErrorCode]

lemma lacksCredentials (h : Agree e m₁ m₂) (agent : StunAgentConfig) :
    Stun.lacksCredentials agent m₁ = Stun.lacksCredentials agent m₂ := by
  rw [Stun.lacksCredentials, Stun.lacksCredentials, h.getClass,
    h.lacksAttribute [STUN_ATTRIBUTE_USERNAME, STUN_ATTRIBUTE_MESSAGE_INTEGRITY] (by decide),
    h.lacksAttribute [STUN_ATTRIBUTE_USERNAME, STUN_ATTRIBUTE_MESSAGE_INTEGRITY,
      STUN_ATTRIBUTE_NONCE, STUN_ATTRIBUTE_REALM] (by decide),
    h.lacksAttribute [STUN_ATTRIBUTE_MESSAGE_INTEGRITY] (by decide),
    h.hasAttribute (show STUN_ATTRIBUTE_USERNAME ≠ STUN_ATTRIBUTE_FINGERPRINT by decide)]

/-- A validater that gives the same answers on both messages, or none, leads to the same
key. -/
lemma validateKey (h : Agree e m₁ m₂) (agent : StunAgent) (ignore : Bool) (key : Option Bytes)
    {validater : Option StunMessageIntegrityValidate}
    (hval : ∀ v, validater = some v → ∀ username key,
      v agent m₁ username key = v agent m₂ username key) :
    Stun.validateKey agent m₁ ignore key validater =
      Stun.validateKey agent m₂ ignore key validater := by
  rw [Stun.validateKey, Stun.validateKey, h.lacksCredentials, h.hasAttribute (by decide),
    h.attributeValue (by decide)]
  cases validater with
  | none => rfl
  | some v => simp only [hval v rfl]

/-- What a comparison of the MESSAGE-INTEGRITY comes to, without the padding of the old
modes. -/
lemma compareIntegrity (h : Agree e m₁ m₂) (crypto : StunCrypto) {agent : StunAgentConfig}
    (hcompat : agent.compatibility = .rfc5389) (m₁' m₂' : StunMessage) {hash : ℕ}
    (h₁ : m₁'.buffer = m₁.buffer) (h₂ : m₂'.buffer = m₂.buffer) (hhash : 24 ≤ hash)
    (hend : hash + 20 ≤ e) (sha1Key key : Bytes) :
    (·.2) <$> Stun.compareIntegrity crypto agent m₁' hash sha1Key key =
      (·.2) <$> Stun.compareIntegrity crypto agent m₂' hash sha1Key key := by
  have hsha : expectedSha1 crypto agent m₁' hash sha1Key =
      expectedSha1 crypto agent m₂' hash sha1Key := by
    have htype : readSlice m₁.buffer 0 2 = readSlice m₂.buffer 0 2 := by
      have h20 := h.twenty_le
      have hfits₁ := h.fits₁
      have hfits₂ := h.fits₂
      rw [readSlice_of_le (by omega), readSlice_of_le (by omega), List.drop_zero, List.drop_zero,
        h.type]
    rw [expectedSha1.eq_def, expectedSha1.eq_def, hcompat]
    simp only [stunSha1, h₁, h₂, htype,
      h.readSlice_eq (show 4 ≤ 4 by omega) (show 4 + (hash + 20 - 28) ≤ e by omega)]
  rw [Stun.compareIntegrity, Stun.compareIntegrity, hsha, h₁, h₂,
    h.readSlice_eq (show 4 ≤ hash by omega) hend]
  cases expectedSha1 crypto agent m₂' hash sha1Key with
  | error err => rfl
  | ok sha =>
      cases readSlice m₂.buffer hash 20 with
      | error err => rfl
      | ok received =>
          simp only [bind, Except.bind, Functor.map, Except.map, pure, Except.pure]
          split <;> rfl

lemma checkIntegrity (h : Agree e m₁ m₂) (crypto : StunCrypto) {agent : StunAgentConfig}
    (hcompat : agent.compatibility = .rfc5389) (key : Bytes) (saved : Option Bytes) :
    (·.2) <$> Stun.checkIntegrity crypto agent m₁ key saved =
      (·.2) <$> Stun.checkIntegrity crypto agent m₂ key saved := by
  have hne : STUN_ATTRIBUTE_MESSAGE_INTEGRITY ≠ STUN_ATTRIBUTE_FINGERPRINT := by decide
  have hlong : receivedLongTermKey crypto m₁ key saved =
      receivedLongTermKey crypto m₂ key saved := by
    rw [receivedLongTermKey.eq_def, receivedLongTermKey.eq_def, h.attributeValue (by decide),
      h.attributeValue (by decide)]
  rw [Stun.checkIntegrity, Stun.checkIntegrity, ← h.find _ hne, hlong, h.hasErrorCode]
  cases hfind : stunMessageFind m₁ STUN_ATTRIBUTE_MESSAGE_INTEGRITY with
  | error err => rfl
  | ok p =>
      cases p with
      | none =>
          simp only [bind, Except.bind]
          cases Stun.hasErrorCode m₂ [400, 401] <;> rfl
      | some p =>
          obtain ⟨hash, len⟩ := p
          have hhash := (h.value _ hash len hne hfind).1
          have hend := h.integrity hash len hfind
          simp only [bind, Except.bind]
          split
          · cases receivedLongTermKey crypto m₂ key saved with
            | error err => rfl
            | ok md5 =>
                cases md5 with
                | none => rfl
                | some md5 =>
                    exact h.compareIntegrity crypto hcompat
                      { m₁ with longTermKey := md5, longTermValid := true }
                      { m₂ with longTermKey := md5, longTermValid := true } rfl rfl hhash hend md5
                      key
          · exact h.compareIntegrity crypto hcompat m₁ m₂ rfl rfl hhash hend key key

/-- Both messages pass the integrity check, or neither does. -/
lemma authenticate (h : Agree e m₁ m₂) (crypto : StunCrypto) {agent : StunAgentConfig}
    (hcompat : agent.compatibility = .rfc5389) (ignore : Bool) (key saved : Option Bytes) :
    (·.2) <$> Stun.authenticate crypto agent m₁ ignore key saved =
      (·.2) <$> Stun.authenticate crypto agent m₂ ignore key saved := by
  rw [Stun.authenticate.eq_def, Stun.authenticate.eq_def]
  split
  · rfl
  · cases key with
    | none => rfl
    | some key =>
        simp only
        split
        · exact h.checkIntegrity crypto hcompat key saved
        · rfl

end Agree

/-! ### Messages that share a MESSAGE-INTEGRITY -/

/-- The first attribute is a FINGERPRINT, which ends every search for another one. -/
def HiddenByFirst (rs : List (Attribute na)) : Prop :=
  ∃ r ∈ rs.head?, r.type = STUN_ATTRIBUTE_FINGERPRINT

lemma misordered_integrity {t : StunAttribute} (ht : t ≠ STUN_ATTRIBUTE_FINGERPRINT) :
    misordered t STUN_ATTRIBUTE_MESSAGE_INTEGRITY = true := by
  simp [misordered, ht]

lemma scan_hidden {rs : List (Attribute na)} {t : StunAttribute} (off : ℕ)
    (hrs : HiddenByFirst rs) (ht : t ≠ STUN_ATTRIBUTE_FINGERPRINT) (ts : List (Attribute na)) :
    scan (misordered t) t off (rs ++ ts) = none := by
  obtain ⟨r, hr, hfpr⟩ := hrs
  obtain ⟨rest, rfl⟩ : ∃ rest, rs = r :: rest := by
    cases rs with
    | nil => cases hr
    | cons x xs => exact ⟨xs, by rw [Option.some.inj hr]⟩
  rw [List.cons_append, scan, hfpr, if_neg (Ne.symm ht), if_pos (by simp [misordered])]

section Shared

variable {b₁ b₂ : Bytes} {rs ts₁ ts₂ : List (Attribute na)} {mi : Attribute na}

namespace SharesIntegrity

lemma symm (h : SharesIntegrity b₁ b₂ rs mi ts₁ ts₂) : SharesIntegrity b₂ b₁ rs mi ts₂ ts₁ :=
  ⟨h.wellFormed₂, h.wellFormed₁, h.type.symm, h.id.symm, h.attributes₂, h.attributes₁,
    h.integrity, h.twenty⟩

/-- A search for another attribute than FINGERPRINT ends at the MESSAGE-INTEGRITY at the
latest. -/
lemma scan_cut (h : SharesIntegrity b₁ b₂ rs mi ts₁ ts₂) {t : StunAttribute}
    (ht : t ≠ STUN_ATTRIBUTE_FINGERPRINT) (ts : List (Attribute na)) :
    scan (misordered t) t 20 (rs ++ mi :: ts) = scan (misordered t) t 20 (rs ++ [mi]) :=
  scan_append_stop (.inr (h.integrity ▸ misordered_integrity ht)) 20 rs ts

/-- What a search finds before it ends lies in the common part. -/
lemma scan_inside (h : SharesIntegrity b₁ b₂ rs mi ts₁ ts₂) {t : StunAttribute} {ptr : ℕ}
    {len : UInt16} (hs : scan (misordered t) t 20 (rs ++ [mi]) = some (ptr, len)) :
    24 ≤ ptr ∧ ptr + len.toNat ≤ 20 + (encodeAll (rs ++ [mi])).length ∧
      (t = STUN_ATTRIBUTE_MESSAGE_INTEGRITY →
        ptr + 20 ≤ 20 + (encodeAll (rs ++ [mi])).length) := by
  obtain ⟨pre, r, post, hsplit, hr, -, hp⟩ := scan_eq_some.mp hs
  obtain ⟨rfl, rfl⟩ := Prod.mk.inj hp
  have hstep := le_attributeStep na r.len.toNat
  have hlen : (encodeAll (rs ++ [mi])).length =
      (encodeAll pre).length + (4 + attributeStep na r.len.toNat) + (encodeAll post).length := by
    rw [hsplit, encodeAll_append, encodeAll_cons, List.length_append, List.length_append,
      Tlv.encode_length]
    omega
  refine ⟨by omega, by omega, fun _ => ?_⟩
  -- the MESSAGE-INTEGRITY that is found is the last attribute, or has it behind it
  have htwenty : mi.len.toNat = 20 := by rw [h.twenty]; rfl
  have hmi := le_attributeStep na mi.len.toNat
  rcases List.eq_nil_or_concat post with rfl | ⟨post', last, rfl⟩
  · have hlast : mi = r := (List.append_inj' hsplit rfl).2 |> List.singleton_inj.mp
    subst hlast
    rw [encodeAll_nil, List.length_nil] at hlen
    omega
  · have hlast : mi = last := by
      have hsplit' : rs ++ [mi] = (pre ++ r :: post') ++ [last] := by simpa using hsplit
      exact (List.append_inj' hsplit' rfl).2 |> List.singleton_inj.mp
    subst hlast
    have hpost : (encodeAll (post'.concat mi)).length =
        (encodeAll post').length + (4 + attributeStep na mi.len.toNat) := by
      rw [List.concat_eq_append, encodeAll_append, encodeAll_singleton, List.length_append,
        Tlv.encode_length]
    omega

/-- The bytes of the common part behind the length field. -/
lemma body (h : SharesIntegrity b₁ b₂ rs mi ts₁ ts₂) :
    (b₁.drop 4).take (16 + (encodeAll (rs ++ [mi])).length) =
      (b₂.drop 4).take (16 + (encodeAll (rs ++ [mi])).length) := by
  have hcut (b : Bytes) {ts : List (Attribute na)} (hb : b.drop 20 = encodeAll (rs ++ mi :: ts)) :
      (b.drop 4).take (16 + (encodeAll (rs ++ [mi])).length) =
        (b.drop 4).take 16 ++ encodeAll (rs ++ [mi]) := by
    have hrest : b.drop 20 = encodeAll (rs ++ [mi]) ++ encodeAll ts := by
      rw [hb, ← encodeAll_append, List.append_assoc, List.singleton_append]
    rw [List.take_add, List.drop_drop, hrest, List.take_left]
  rw [hcut b₁ h.attributes₁, hcut b₂ h.attributes₂, h.id]

end SharesIntegrity

variable {m₁ m₂ : StunMessage}

/-- **Lookups.**  Every lookup of another attribute than FINGERPRINT gives the same on both
messages exactly when both lengths wrap or neither does, or the first attribute hides all
the others. -/
theorem find_same_iff (h : SharesIntegrity m₁.buffer m₂.buffer rs mi ts₁ ts₂)
    (hwire₁ : ∀ t, m₁.wireType t = t) (hwire₂ : ∀ t, m₂.wireType t = t)
    (h₁ : Visible na m₁ (seen m₁.buffer (rs ++ mi :: ts₁)))
    (h₂ : Visible na m₂ (seen m₂.buffer (rs ++ mi :: ts₂))) :
    (∀ t, t ≠ STUN_ATTRIBUTE_FINGERPRINT → stunMessageFind m₁ t = stunMessageFind m₂ t) ↔
      (Wraps m₁.buffer ↔ Wraps m₂.buffer) ∨ HiddenByFirst rs := by
  have hfind₁ (t : StunAttribute) := find_visible h₁ t
  have hfind₂ (t : StunAttribute) := find_visible h₂ t
  simp only [hwire₁, hwire₂] at hfind₁ hfind₂
  -- one message that wraps and one that does not
  have hone {b b' : Bytes} {ts ts' : List (Attribute na)} (hw : Wraps b) (hw' : ¬ Wraps b')
      (hsame : ∀ t, t ≠ STUN_ATTRIBUTE_FINGERPRINT →
        scan (misordered t) t 20 (seen b (rs ++ mi :: ts)) =
          scan (misordered t) t 20 (seen b' (rs ++ mi :: ts'))) : HiddenByFirst rs := by
    rw [seen, seen, if_pos hw, if_neg hw'] at hsame
    cases rs with
    | nil =>
        have := hsame mi.type (by rw [h.integrity]; decide)
        rw [List.nil_append, scan, scan, if_pos rfl] at this
        cases this
    | cons r rest =>
        refine ⟨r, rfl, ?_⟩
        by_contra hne
        have := hsame r.type hne
        rw [List.cons_append, scan, scan, if_pos rfl] at this
        cases this
  constructor
  · intro hsame
    have hscan (t : StunAttribute) (ht : t ≠ STUN_ATTRIBUTE_FINGERPRINT) :=
      Except.ok.inj ((hfind₁ t).symm.trans ((hsame t ht).trans (hfind₂ t)))
    by_cases hw₁ : Wraps m₁.buffer <;> by_cases hw₂ : Wraps m₂.buffer
    · exact .inl (iff_of_true hw₁ hw₂)
    · exact .inr (hone hw₁ hw₂ hscan)
    · exact .inr (hone hw₂ hw₁ fun t ht => (hscan t ht).symm)
    · exact .inl (iff_of_false hw₁ hw₂)
  · intro hcond t ht
    rw [hfind₁, hfind₂]
    rcases hcond with hw | hhide
    · by_cases hw₁ : Wraps m₁.buffer
      · rw [seen, seen, if_pos hw₁, if_pos (hw.mp hw₁)]
      · rw [seen, seen, if_neg hw₁, if_neg (mt hw.mpr hw₁), h.scan_cut ht ts₁,
          h.scan_cut ht ts₂]
    · have hnone (b : Bytes) (ts : List (Attribute na)) :
          scan (misordered t) t 20 (seen b (rs ++ mi :: ts)) = none := by
        rw [seen]
        split
        · rfl
        · exact scan_hidden 20 hhide ht _
      rw [hnone, hnone]

/-- When the lookups give the same, the messages agree up to the end of the
MESSAGE-INTEGRITY. -/
lemma SharesIntegrity.agree (h : SharesIntegrity m₁.buffer m₂.buffer rs mi ts₁ ts₂)
    (hwire₁ : ∀ t, m₁.wireType t = t) (h₁ : Visible na m₁ (seen m₁.buffer (rs ++ mi :: ts₁)))
    (h20₁ : 20 ≤ m₁.buffer.length) (h20₂ : 20 ≤ m₂.buffer.length)
    (hfind : ∀ t, t ≠ STUN_ATTRIBUTE_FINGERPRINT → stunMessageFind m₁ t = stunMessageFind m₂ t) :
    Agree (20 + (encodeAll (rs ++ [mi])).length) m₁ m₂ := by
  have hfits {b : Bytes} {ts : List (Attribute na)} (h20 : 20 ≤ b.length)
      (hb : b.drop 20 = encodeAll (rs ++ mi :: ts)) :
      20 + (encodeAll (rs ++ [mi])).length ≤ b.length := by
    have hlen := congrArg List.length hb
    rw [List.length_drop, encodeAll_append, encodeAll_cons, List.length_append,
      List.length_append] at hlen
    rw [encodeAll_append, encodeAll_singleton, List.length_append]
    omega
  have hinside {t : StunAttribute} {ptr : ℕ} {len : UInt16} (ht : t ≠ STUN_ATTRIBUTE_FINGERPRINT)
      (hs : stunMessageFind m₁ t = .ok (some (ptr, len))) :
      scan (misordered t) t 20 (rs ++ [mi]) = some (ptr, len) := by
    have hvis := find_visible h₁ t
    rw [hwire₁, hs] at hvis
    have hscan := Except.ok.inj hvis
    rw [seen] at hscan
    split at hscan
    · cases hscan
    · rw [← h.scan_cut ht ts₁]
      exact hscan.symm
  refine ⟨by omega, hfits h20₁ h.attributes₁, hfits h20₂ h.attributes₂, h.type, ?_, hfind,
    fun t ptr len ht hs => ?_, fun ptr len hs => ?_⟩
  · have hsub : 20 + (encodeAll (rs ++ [mi])).length - 4 =
        16 + (encodeAll (rs ++ [mi])).length := by omega
    rw [hsub]
    exact h.body
  · obtain ⟨hptr, hend, -⟩ := h.scan_inside (hinside ht hs)
    exact ⟨hptr, hend⟩
  · exact (h.scan_inside (hinside (by decide) hs)).2.2 rfl

end Shared

/-! ### The status -/

/-- The checks of `stun_agent_validate` on a well-formed message, up to the search for
unknown attributes: the status with which one of them refuses the message. -/
def refusal (crypto : StunCrypto) (agent : StunAgent) (m : StunMessage)
    (validater : Option StunMessageIntegrityValidate) :
    Except Fault (Option StunValidationStatus) := do
  if ← not <$> stunMessageHasCookie m then return some .badRequest
  else
    let slot ← matchSentId agent m
    if slot = .unmatched then return some .unmatchedResponse
    else
      let ignore ← ignoreCredentials agent.toStunAgentConfig m
      match ← validateKey agent m ignore ((agent.savedId slot).bind (·.key)) validater with
      | .inl status => return some status
      | .inr key =>
          let passes ← (·.2) <$> authenticate crypto agent.toStunAgentConfig m ignore key
            (agent.savedLongTermKey slot)
          return if passes then none else some .unauthorized

/-- The status of a message that comes as far as the search for unknown attributes. -/
def scanStatus (agent : StunAgentConfig) (c : StunClass) (rs : List (Attribute na)) :
    StunValidationStatus :=
  if unknowns agent rs = [] then .success
  else if c = .request then .unknownRequestAttribute else .unknownAttribute

/-- The same checks refuse messages that agree. -/
lemma Agree.refusal {e : ℕ} {m₁ m₂ : StunMessage} (h : Agree e m₁ m₂) (crypto : StunCrypto)
    {agent : StunAgent} (hcompat : agent.compatibility = .rfc5389)
    {validater : Option StunMessageIntegrityValidate}
    (hval : ∀ v, validater = some v → ∀ username key,
      v agent m₁ username key = v agent m₂ username key) :
    Stun.refusal crypto agent m₁ validater = Stun.refusal crypto agent m₂ validater := by
  unfold Stun.refusal
  simp only [h.hasCookie, h.matchSentId, h.ignoreCredentials, h.validateKey agent _ _ hval,
    h.authenticate crypto hcompat]

/-- The first checks of an RFC 5389 agent without fingerprints on a well-formed message. -/
lemma demux_wellFormed {agent : StunAgent} (msg : StunMessage) {b : Bytes} {cookie : Bool}
    (hcompat : agent.compatibility = .rfc5389) (hfpr : agent.usageFlags.useFingerprint = false)
    (h : stunMessageValidateBufferLength b (!agent.usageFlags.noAlignedAttributes) =
      .ok b.length) (h20 : 20 ≤ b.length) (hmax : b.length < 65556)
    (hcookie : stunMessageHasCookie (receivedMessage agent msg b) = .ok cookie) :
    demux agent msg b = .ok (receivedMessage agent msg b,
      if cookie then none else some .badRequest) := by
  have hinv : (b.length : ℤ) ≠ STUN_MESSAGE_BUFFER_INVALID := by
    unfold STUN_MESSAGE_BUFFER_INVALID
    omega
  have hinc : (b.length : ℤ) ≠ STUN_MESSAGE_BUFFER_INCOMPLETE := by
    unfold STUN_MESSAGE_BUFFER_INCOMPLETE
    omega
  have hint : intOfSize b.length = b.length := by
    unfold intOfSize
    rw [Int.bmod_def]
    omega
  have hfprd : agent.fingerprinted = false := by
    rw [StunAgentConfig.fingerprinted, hfpr, Bool.and_false]
  have huses : agent.compatibility.usesCookie = true := by
    rw [hcompat]
    rfl
  rw [demux, h]
  simp only [bind, Except.bind]
  rw [if_neg hinv, if_neg hinc, if_neg (by rw [hint]; simp)]
  simp only [hcookie, hfprd, huses, Functor.map, Except.map, pure, Except.pure, andM_ok,
    Bool.true_and]
  cases cookie <;> rfl

/-- The status of a well-formed message. -/
lemma validate_status {crypto : StunCrypto} {agent : StunAgent} {msg : StunMessage} {b : Bytes}
    {validater : Option StunMessageIntegrityValidate}
    (hcompat : agent.compatibility = .rfc5389) (hfpr : agent.usageFlags.useFingerprint = false)
    (h : stunMessageValidateBufferLength b (!agent.usageFlags.noAlignedAttributes) =
      .ok b.length) (h20 : 20 ≤ b.length) (hmax : b.length < 65556) {c : StunClass}
    (hc : stunMessageGetClass (receivedMessage agent msg b) = .ok c)
    {rs : List (Attribute agent.usageFlags.noAlignedAttributes)}
    (hvis : Visible agent.usageFlags.noAlignedAttributes (receivedMessage agent msg b) rs) :
    (·.1) <$> stunAgentValidate crypto agent msg b validater =
      (fun refused => refused.getD (scanStatus agent.toStunAgentConfig c rs)) <$>
        refusal crypto agent (receivedMessage agent msg b) validater := by
  obtain ⟨-, -, -, cookie, hcookie⟩ := @header_total (receivedMessage agent msg b) h20
  rw [stunAgentValidate, demux_wellFormed msg hcompat hfpr h h20 hmax hcookie, refusal, hcookie]
  set m := receivedMessage agent msg b
  cases cookie with
  | false => rfl
  | true =>
      simp only [bind, Except.bind, Functor.map, Except.map, Bool.not_true, Bool.false_eq_true,
        if_false, if_true]
      cases hslot : matchSentId agent m with
      | error err => rfl
      | ok slot =>
          simp only
          by_cases hun : slot = .unmatched
          · rw [if_pos hun, if_pos hun]
            rfl
          rw [if_neg hun, if_neg hun]
          cases hignore : ignoreCredentials agent.toStunAgentConfig m with
          | error err => rfl
          | ok ignore =>
              simp only
              cases hkey : validateKey agent m ignore ((agent.savedId slot).bind (·.key))
                  validater with
              | error err => rfl
              | ok key =>
                  cases key with
                  | inl status => rfl
                  | inr key =>
                      simp only [validateMessage, bind, Except.bind]
                      cases hauth : authenticate crypto agent.toStunAgentConfig m ignore key
                          (agent.savedLongTermKey slot) with
                      | error err => rfl
                      | ok r =>
                          obtain ⟨m', passes⟩ := r
                          cases passes with
                          | false => rfl
                          | true =>
                              obtain ⟨hbuf, hagent⟩ := authenticate_same hauth
                              have hvis' := hvis.congr hagent hbuf
                              have hflags : (agent.release slot).toStunAgentConfig =
                                  agent.toStunAgentConfig := by
                                cases slot <;> rfl
                              have hc' : stunMessageGetClass m' = .ok c := by
                                rw [← hc]
                                exact stunMessageGetClass_congr (by rw [hbuf])
                              simp only [Bool.not_true, Bool.false_eq_true, if_false, hflags,
                                findUnknowns_visible hvis' rfl, hc', pure, Except.pure]
                              unfold scanStatus
                              cases hun' : unknowns agent.toStunAgentConfig rs with
                              | nil => rfl
                              | cons t ts => rfl

/-- **What the attributes behind a MESSAGE-INTEGRITY change.**  For an RFC 5389 agent that
does not use fingerprints, and two well-formed messages that agree, the length field apart,
up to and including a MESSAGE-INTEGRITY: the status and the lookups of all attributes but
FINGERPRINT are the same for both exactly when the length of both messages wraps or of
neither, or their first attribute is a FINGERPRINT, and when the agent finds an unknown
mandatory attribute in both or in neither, provided that the checks before let the first
message through. -/
theorem trailer_independent_iff (crypto : StunCrypto) (agent : StunAgent) (msg : StunMessage)
    (validater : Option StunMessageIntegrityValidate) (b₁ b₂ : Bytes)
    (rs ts₁ ts₂ : List (Attribute agent.usageFlags.noAlignedAttributes))
    (mi : Attribute agent.usageFlags.noAlignedAttributes)
    (hcompat : agent.compatibility = .rfc5389) (hfpr : agent.usageFlags.useFingerprint = false)
    (h : SharesIntegrity b₁ b₂ rs mi ts₁ ts₂)
    (hval : ∀ v, validater = some v → ∀ username key,
      v agent (receivedMessage agent msg b₁) username key =
        v agent (receivedMessage agent msg b₂) username key) :
    ((·.1) <$> stunAgentValidate crypto agent msg b₁ validater =
        (·.1) <$> stunAgentValidate crypto agent msg b₂ validater ∧
      ∀ t, t ≠ STUN_ATTRIBUTE_FINGERPRINT →
        stunMessageFind (receivedMessage agent msg b₁) t =
          stunMessageFind (receivedMessage agent msg b₂) t) ↔
    ((Wraps b₁ ↔ Wraps b₂) ∨ HiddenByFirst rs) ∧
      (refusal crypto agent (receivedMessage agent msg b₁) validater = .ok none →
        (unknowns agent.toStunAgentConfig (seen b₁ (rs ++ mi :: ts₁)) = [] ↔
          unknowns agent.toStunAgentConfig (seen b₂ (rs ++ mi :: ts₂)) = [])) := by
  have hwire (b : Bytes) (t : StunAttribute) : (receivedMessage agent msg b).wireType t = t := by
    simp [receivedMessage, StunMessage.wireType, hcompat]
  have hvisible (b : Bytes) (ts : List (Attribute agent.usageFlags.noAlignedAttributes))
      (hb : stunMessageValidateBufferLength b (!agent.usageFlags.noAlignedAttributes) =
        .ok b.length) (hattributes : b.drop 20 = encodeAll (rs ++ mi :: ts)) :
      20 ≤ b.length ∧ b.length < 65556 ∧ Visible agent.usageFlags.noAlignedAttributes
        (receivedMessage agent msg b) (seen b (rs ++ mi :: ts)) :=
    @visible_of_wellFormed agent.usageFlags.noAlignedAttributes (receivedMessage agent msg b) _ rfl
      hb hattributes
  obtain ⟨h20₁, hmax₁, hvis₁⟩ := hvisible b₁ ts₁ h.wellFormed₁ h.attributes₁
  obtain ⟨h20₂, hmax₂, hvis₂⟩ := hvisible b₂ ts₂ h.wellFormed₂ h.attributes₂
  obtain ⟨⟨c, hc₁⟩, -⟩ := @header_total (receivedMessage agent msg b₁) h20₁
  have hc₂ : stunMessageGetClass (receivedMessage agent msg b₂) = .ok c := by
    rw [← hc₁]
    exact stunMessageGetClass_congr h.type.symm
  have hstatus₁ := @validate_status crypto agent msg b₁ validater hcompat hfpr h.wellFormed₁ h20₁
    hmax₁ c hc₁ _ hvis₁
  have hstatus₂ := @validate_status crypto agent msg b₂ validater hcompat hfpr h.wellFormed₂ h20₂
    hmax₂ c hc₂ _ hvis₂
  have hsame : (∀ t, t ≠ STUN_ATTRIBUTE_FINGERPRINT →
      stunMessageFind (receivedMessage agent msg b₁) t =
        stunMessageFind (receivedMessage agent msg b₂) t) ↔
      (Wraps b₁ ↔ Wraps b₂) ∨ HiddenByFirst rs :=
    @find_same_iff _ _ _ _ _ (receivedMessage agent msg b₁)
      (receivedMessage agent msg b₂) h (hwire b₁) (hwire b₂) hvis₁ hvis₂
  rw [and_comm, hsame]
  refine and_congr_right fun hcond => ?_
  have hagree := @SharesIntegrity.agree _ _ _ _ _ (receivedMessage agent msg b₁)
    (receivedMessage agent msg b₂) h (hwire b₁) hvis₁ h20₁ h20₂ (hsame.mpr hcond)
  rw [hstatus₁, hstatus₂, ← hagree.refusal crypto hcompat hval]
  -- a message that is refused before has the status of that check
  cases hrefusal : refusal crypto agent (receivedMessage agent msg b₁) validater with
  | error err => simp [Functor.map, Except.map]
  | ok refused =>
      cases refused with
      | some status => simp [Functor.map, Except.map]
      | none =>
          simp only [Functor.map, Except.map, Option.getD_none, Except.ok.injEq, scanStatus,
            forall_const]
          by_cases h₁ : unknowns agent.toStunAgentConfig (seen b₁ (rs ++ mi :: ts₁)) = [] <;>
            by_cases h₂ : unknowns agent.toStunAgentConfig (seen b₂ (rs ++ mi :: ts₂)) = [] <;>
            by_cases hreq : c = .request <;> simp [h₁, h₂, hreq]

/-- An RFC 5389 agent with short-term credentials that knows USERNAME and
MESSAGE-INTEGRITY. -/
def rfc5389Agent : StunAgent := { shortTermAgent with compatibility := .rfc5389 }

/-- The USERNAME `user`. -/
def userAttribute : Attribute false := ⟨STUN_ATTRIBUTE_USERNAME, 4, [0x75, 0x73, 0x65, 0x72], rfl⟩

/-- A MESSAGE-INTEGRITY of 20 zeros. -/
def zeroIntegrity : Attribute false :=
  ⟨STUN_ATTRIBUTE_MESSAGE_INTEGRITY, 20, List.replicate 20 0, rfl⟩

/-- An attribute without a value. -/
def emptyAttribute (type : StunAttribute) : Attribute false := ⟨type, 0, [], rfl⟩

/-- A Binding request from `user` with a MESSAGE-INTEGRITY and the attributes `ts` behind
it. -/
def trailedRequest (ts : List (Attribute false)) : Bytes :=
  [0, 1] ++ be16 (encodeAll ([userAttribute] ++ zeroIntegrity :: ts)).length ++
    be32 STUN_MAGIC_COOKIE ++ List.replicate 12 7 ++
      encodeAll ([userAttribute] ++ zeroIntegrity :: ts)

lemma trailedRequest_shares {type : StunAttribute}
    (h : stunMessageValidateBufferLength (trailedRequest [emptyAttribute type]) true = .ok 56) :
    SharesIntegrity (trailedRequest []) (trailedRequest [emptyAttribute type]) [userAttribute]
      zeroIntegrity [] [emptyAttribute type] :=
  ⟨by rfl, h, rfl, rfl, rfl, rfl, rfl, rfl⟩

/-- An attribute that receivers may ignore changes nothing behind the
MESSAGE-INTEGRITY. -/
theorem trailer_independent_iff_sample :
    (·.1) <$> stunAgentValidate (constantCrypto 0) rfc5389Agent (plainRequest 0 [])
        (trailedRequest []) (some fun _ _ _ _ => some (some [1])) =
      (·.1) <$> stunAgentValidate (constantCrypto 0) rfc5389Agent (plainRequest 0 [])
        (trailedRequest [emptyAttribute 0x8022]) (some fun _ _ _ _ => some (some [1])) := by
  refine ((trailer_independent_iff (constantCrypto 0) rfc5389Agent (plainRequest 0 [])
    (some fun _ _ _ _ => some (some [1])) _ _ [userAttribute] [] [emptyAttribute 0x8022]
    zeroIntegrity rfl rfl (trailedRequest_shares rfl) ?_).mpr ⟨.inl ?_, fun _ => ?_⟩).1
  · rintro v hv username key
    obtain rfl := Option.some.inj hv
    rfl
  · decide +kernel
  · decide +kernel

/-- **An unknown attribute behind the MESSAGE-INTEGRITY** changes the status, although
nothing vouches for it. -/
theorem unknown_trailer_changes_status :
    ∃ crypto agent msg v b₁ b₂ rs mi ts₁ ts₂, agent.compatibility = .rfc5389 ∧
      agent.usageFlags.shortTermCredentials = true ∧ agent.usageFlags.useFingerprint = false ∧
      @SharesIntegrity false b₁ b₂ rs mi ts₁ ts₂ ∧
      (∀ m₁ m₂ username key, v agent m₁ username key = v agent m₂ username key) ∧
      (∃ msg' agent', stunAgentValidate crypto agent msg b₁ (some v) =
        .ok (.success, msg', agent')) ∧
      ∃ msg' agent', stunAgentValidate crypto agent msg b₂ (some v) =
        .ok (.unknownRequestAttribute, msg', agent') := by
  refine ⟨constantCrypto 0, rfc5389Agent, plainRequest 0 [], fun _ _ _ _ => some (some [1]),
    _, _, _, _, _, _, rfl, rfl, rfl, @trailedRequest_shares 0x7777 rfl, fun _ _ _ _ => rfl, ?_, ?_⟩
  · exact ok_of_status (by decide +kernel)
  · exact ok_of_status (by decide +kernel)

end LibNice.Stun
