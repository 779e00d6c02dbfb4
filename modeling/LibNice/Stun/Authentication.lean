import LibNice.Stun.Validation
import LibNice.Stun.Transactions

/-!
What `stun_agent_validate` checks, and what it reads while it does.

* `demux_visible`: a message that passes the first checks shows the attributes of
  its tiling.
* `validate_accepted`: an accepted message went through every check.
* `accepted_request_authenticated`: an accepted request names a user that the
  validater knows, and unless the key of that user is empty its MESSAGE-INTEGRITY
  is the HMAC under that key; `empty_key_skips_integrity` is about an empty one.
* `IntegrityCheck`, `CheckFits`: the message that is checked against a key, and
  the condition under which the check stays inside the message.
* `validate_ok_iff`: `stun_agent_validate` has a result exactly when the integrity
  check, if there is one, stays inside; `short_integrity_overreads` is a message
  for which it does not.
-/

namespace LibNice.Stun

open LibNice.Foundation

variable {crypto : StunCrypto} {agent agent' : StunAgent} {msg msg' : StunMessage}
  {buffer : Bytes} {validater : Option StunMessageIntegrityValidate}

/-! ### The first checks -/

/-- The header of a message with a whole header can be read. -/
lemma header_total {m : StunMessage} (h : 20 ≤ m.buffer.length) :
    (∃ c, stunMessageGetClass m = .ok c) ∧ (∃ method, stunMessageGetMethod m = .ok method) ∧
      (∃ id, stunMessageId m = .ok id) ∧ ∃ cookie, stunMessageHasCookie m = .ok cookie := by
  have hword : stunGetw m.buffer 0 = _ := readWord_of_lt (by omega)
  have hid : stunMessageId m = _ := readSlice_of_le (by
    simp only [STUN_MESSAGE_TRANS_ID_POS, STUN_MESSAGE_TRANS_ID_LEN]; omega)
  refine ⟨?_, ?_, ⟨_, hid⟩, ?_⟩
  · rw [stunMessageGetClass, stunMessageType, hword]
    exact ⟨_, rfl⟩
  · rw [stunMessageGetMethod, stunMessageType, hword]
    exact ⟨_, rfl⟩
  · rw [stunMessageHasCookie, hid]
    exact ⟨_, rfl⟩

/-- A buffer that passes the check of its length holds a message. -/
lemma receivedMessage_visible {len : ℤ} (msg : StunMessage)
    (hlen : stunMessageValidateBufferLength buffer (!agent.usageFlags.noAlignedAttributes) =
      .ok len) (hinv : len ≠ STUN_MESSAGE_BUFFER_INVALID)
    (hinc : len ≠ STUN_MESSAGE_BUFFER_INCOMPLETE) :
    20 ≤ buffer.length ∧ ∃ rs : List (Attribute agent.usageFlags.noAlignedAttributes),
      Visible agent.usageFlags.noAlignedAttributes (receivedMessage agent msg buffer) rs := by
  obtain ⟨m, -, hframed⟩ := ((validate_cases hlen).resolve_left hinv).resolve_left hinc
  refine ⟨hframed.twenty_le.trans hframed.fits, ?_⟩
  exact @Framed.visible _ (receivedMessage agent msg buffer) m rfl hframed

/-- The first checks have a result, and a message that passes them shows the
attributes of its tiling. -/
lemma demux_visible (agent : StunAgent) (msg : StunMessage) (buffer : Bytes) :
    ∃ m refused, demux agent msg buffer = .ok (m, refused) ∧
      (refused = none → m = receivedMessage agent msg buffer ∧ 20 ≤ buffer.length ∧
        ∃ rs : List (Attribute agent.usageFlags.noAlignedAttributes),
          Visible agent.usageFlags.noAlignedAttributes m rs) := by
  obtain ⟨len, hlen⟩ := validate_total buffer (!agent.usageFlags.noAlignedAttributes)
  rw [demux, hlen]
  simp only [bind, Except.bind]
  by_cases hinv : len = STUN_MESSAGE_BUFFER_INVALID
  · rw [if_pos hinv]
    exact ⟨_, _, rfl, fun h => by cases h⟩
  rw [if_neg hinv]
  by_cases hinc : len = STUN_MESSAGE_BUFFER_INCOMPLETE
  · rw [if_pos hinc]
    exact ⟨_, _, rfl, fun h => by cases h⟩
  rw [if_neg hinc]
  by_cases hsize : len ≠ intOfSize buffer.length
  · rw [if_pos hsize]
    exact ⟨_, _, rfl, fun h => by cases h⟩
  rw [if_neg hsize]
  obtain ⟨h20, rs, hvis⟩ := receivedMessage_visible msg hlen hinv hinc
  obtain ⟨-, -, -, cookie, hcookie⟩ := @header_total (receivedMessage agent msg buffer) h20
  obtain ⟨fpr, hfpr⟩ := checkFingerprint_total hvis agent.toStunAgentConfig
  simp only [hcookie, hfpr, Functor.map, Except.map, pure, Except.pure, andM_ok]
  split
  · exact ⟨_, _, rfl, fun h => by cases h⟩
  split
  · exact ⟨_, _, rfl, fun h => by cases h⟩
  · exact ⟨_, _, rfl, fun _ => ⟨rfl, h20, rs, hvis⟩⟩

/-! ### What an accepted message went through -/

/-- The message `m` over the buffer comes as far as the integrity check, with the
slot `slot` and the key `key`. -/
structure Reaches (agent : StunAgent) (msg : StunMessage) (buffer : Bytes)
    (validater : Option StunMessageIntegrityValidate) (m : StunMessage) (slot : SentId)
    (ignore : Bool) (key : Option Bytes) : Prop where
  demuxed : demux agent msg buffer = .ok (m, none)
  slotted : matchSentId agent m = .ok slot
  matched : slot ≠ .unmatched
  ignored : ignoreCredentials agent.toStunAgentConfig m = .ok ignore
  keyed : validateKey agent m ignore ((agent.savedId slot).bind (·.key)) validater = .ok (.inr key)

/-- A message is refused early, or comes as far as the integrity check. -/
lemma validate_reaches {r : StunValidationStatus × StunMessage × StunAgent}
    (h : stunAgentValidate crypto agent msg buffer validater = .ok r) :
    ¬ r.1.Accepted ∨ ∃ m slot ignore key, Reaches agent msg buffer validater m slot ignore key ∧
      validateMessage crypto agent m slot ignore key = .ok r := by
  rw [stunAgentValidate] at h
  obtain ⟨⟨m, refused⟩, hdemux, h⟩ := bind_eq_ok.mp h
  rcases demux_spec hdemux with ⟨s, rfl, hs⟩ | ⟨rfl, -⟩
  · obtain rfl := Except.ok.inj h
    exact .inl hs
  obtain ⟨slot, hslot, h⟩ := bind_eq_ok.mp h
  by_cases hun : slot = .unmatched
  · rw [if_pos hun] at h
    obtain rfl := Except.ok.inj h
    exact .inl (by simp [StunValidationStatus.Accepted])
  rw [if_neg hun] at h
  obtain ⟨ignore, hignore, h⟩ := bind_eq_ok.mp h
  obtain ⟨key, hkey, h⟩ := bind_eq_ok.mp h
  cases key with
  | inl s =>
      obtain rfl := Except.ok.inj h
      exact .inl (validateKey_spec hkey)
  | inr key => exact .inr ⟨m, slot, ignore, key, ⟨hdemux, hslot, hun, hignore, hkey⟩, h⟩

/-- A message that comes as far as the integrity check goes on to it. -/
lemma Reaches.validate {m : StunMessage} {slot : SentId} {ignore : Bool} {key : Option Bytes}
    (h : Reaches agent msg buffer validater m slot ignore key) :
    stunAgentValidate crypto agent msg buffer validater =
      validateMessage crypto agent m slot ignore key := by
  rw [stunAgentValidate, h.demuxed]
  simp only [bind, Except.bind, h.slotted, if_neg h.matched, h.ignored, h.keyed]

lemma Reaches.visible {m : StunMessage} {slot : SentId} {ignore : Bool} {key : Option Bytes}
    (h : Reaches agent msg buffer validater m slot ignore key) :
    m = receivedMessage agent msg buffer ∧ 20 ≤ buffer.length ∧
      ∃ rs : List (Attribute agent.usageFlags.noAlignedAttributes),
        Visible agent.usageFlags.noAlignedAttributes m rs := by
  obtain ⟨m', refused, hdemux, hvis⟩ := demux_visible agent msg buffer
  obtain ⟨rfl, rfl⟩ := Prod.mk.inj (Except.ok.inj (hdemux.symm.trans h.demuxed))
  exact hvis rfl

/-- The keys that `stun_sha1` is given: the long-term key of the user that the
message names, or the key itself. -/
def DerivedKey (crypto : StunCrypto) (agent : StunAgentConfig) (m : StunMessage)
    (key derived : Bytes) : Prop :=
  if agent.usageFlags.longTermCredentials then
    ∃ realm username, attributeValue m STUN_ATTRIBUTE_REALM = .ok (some realm) ∧
      attributeValue m STUN_ATTRIBUTE_USERNAME = .ok (some username) ∧
      stunHashCreds crypto realm username key = .ok derived
  else derived = key

/-- The 20 bytes at the value of the MESSAGE-INTEGRITY of `m` are the HMAC of the
message up to that attribute under the key derived from `key`. -/
def IntegrityHolds (crypto : StunCrypto) (agent : StunAgentConfig) (m : StunMessage)
    (key : Bytes) : Prop :=
  ∃ ptr len total derived,
    stunMessageFind m STUN_ATTRIBUTE_MESSAGE_INTEGRITY = .ok (some (ptr, len)) ∧
    stunMessageLength m = .ok total ∧ DerivedKey crypto agent m key derived ∧
    readSlice m.buffer ptr 20 = .ok (crypto.hmacSha1 derived
      (integrityText agent.compatibility m.buffer ptr total.toNat))

/-- What `expectedSha1` computes for an attribute that the message carries. -/
lemma expectedSha1_visible {config : StunAgentConfig} {m m' : StunMessage} {na : Bool}
    {rs : List (Attribute na)} (h : Visible na m rs) (hbuf : m'.buffer = m.buffer) {ptr : ℕ}
    {len : UInt16} (hfind : stunMessageFind m STUN_ATTRIBUTE_MESSAGE_INTEGRITY =
      .ok (some (ptr, len))) (key : Bytes) :
    ∃ total, stunMessageLength m = .ok total ∧ expectedSha1 crypto config m' ptr key =
      .ok (crypto.hmacSha1 key (integrityText config.compatibility m.buffer ptr total.toNat)) := by
  obtain ⟨-, -, total, htotal, hcase⟩ := id h
  rw [find_visible h] at hfind
  obtain ⟨r, hr, -, rfl, hle, hfit, h24, -⟩ := scan_value h (Except.ok.inj hfind)
  have h20 : 20 ≤ total.toNat := by
    rcases hcase with hl | ⟨-, rfl⟩
    · omega
    · simp at hr
  have htotal' : stunMessageLength m' = .ok total := by
    rw [← htotal]
    exact stunMessageLength_congr (by rw [hbuf])
  refine ⟨total, htotal, ?_⟩
  have := @expectedSha1_eq crypto config m' key ptr total h24 (by rw [hbuf]; omega) htotal' h20
  rw [this, hbuf]

/-- The outcome of a comparison, which stays inside the message when 20 bytes are
left from the value of the attribute on. -/
lemma compareIntegrity_eq {config : StunAgentConfig} {m m' : StunMessage} {na : Bool}
    {rs : List (Attribute na)} (hvis : Visible na m rs) (hbuf : m'.buffer = m.buffer) {ptr : ℕ}
    {len : UInt16} (hfind : stunMessageFind m STUN_ATTRIBUTE_MESSAGE_INTEGRITY =
      .ok (some (ptr, len))) (sha1Key key : Bytes) :
    ((∃ r, compareIntegrity crypto config m' ptr sha1Key key = .ok r) ↔
      ptr + 20 ≤ m.buffer.length) ∧
    ∀ m'', compareIntegrity crypto config m' ptr sha1Key key = .ok (m'', true) →
      ∃ total, stunMessageLength m = .ok total ∧
        readSlice m.buffer ptr 20 = .ok (crypto.hmacSha1 sha1Key
          (integrityText config.compatibility m.buffer ptr total.toNat)) := by
  obtain ⟨total, htotal, hsha⟩ := @expectedSha1_visible crypto config m m' na rs hvis hbuf ptr len
    hfind sha1Key
  rw [compareIntegrity, hsha, hbuf]
  simp only [bind, Except.bind]
  by_cases hfit : ptr + 20 ≤ m.buffer.length
  · rw [readSlice_of_le hfit]
    refine ⟨⟨fun _ => hfit, fun _ => ⟨_, rfl⟩⟩, fun m'' h => ⟨total, htotal, ?_⟩⟩
    simp only at h
    split at h
    next heq => rw [heq]
    next => cases Except.ok.inj h
  · rw [readSlice_error (by omega) (by omega)]
    refine ⟨⟨?_, fun h => absurd h hfit⟩, fun m'' h => (by cases h)⟩
    rintro ⟨r, hr⟩
    cases hr

/-- A message that passes the integrity check with its MESSAGE-INTEGRITY there
and no saved long-term key has the right one. -/
lemma checkIntegrity_holds {config : StunAgentConfig} {m m' : StunMessage} {na : Bool}
    {rs : List (Attribute na)} (hvis : Visible na m rs) {key : Bytes}
    (hmi : carries m rs STUN_ATTRIBUTE_MESSAGE_INTEGRITY = true)
    (h : checkIntegrity crypto config m key none = .ok (m', true)) :
    IntegrityHolds crypto config m key := by
  obtain ⟨⟨ptr, len⟩, hscan⟩ := Option.isSome_iff_exists.mp hmi
  have hfind : stunMessageFind m STUN_ATTRIBUTE_MESSAGE_INTEGRITY = .ok (some (ptr, len)) := by
    rw [find_visible hvis, hscan]
  rw [checkIntegrity, hfind] at h
  simp only [bind, Except.bind] at h
  split at h
  next hlong =>
    -- long-term credentials: the key is the one of the user the message names
    cases hmd5 : receivedLongTermKey crypto m key none with
    | error e => simp [hmd5] at h
    | ok md5 =>
        rw [hmd5] at h
        cases md5 with
        | none => cases Except.ok.inj h
        | some md5 =>
            obtain ⟨total, htotal, hread⟩ := (@compareIntegrity_eq crypto config m
              { m with longTermKey := md5, longTermValid := true } na rs hvis rfl ptr len hfind
              md5 key).2 m' h
            refine ⟨ptr, len, total, md5, hfind, htotal, ?_, hread⟩
            rw [DerivedKey, if_pos hlong]
            rw [receivedLongTermKey] at hmd5
            obtain ⟨realm, hrealm, hmd5⟩ := bind_eq_ok.mp hmd5
            obtain ⟨username, husername, hmd5⟩ := bind_eq_ok.mp hmd5
            cases username with
            | none => cases realm <;> cases Except.ok.inj hmd5
            | some username =>
                cases realm with
                | none => cases Except.ok.inj hmd5
                | some realm =>
                    obtain ⟨derived, hcreds, hmd5⟩ := bind_eq_ok.mp hmd5
                    obtain rfl := Option.some.inj (Except.ok.inj hmd5)
                    exact ⟨realm, username, hrealm, husername, hcreds⟩
  next hlong =>
    obtain ⟨total, htotal, hread⟩ := (@compareIntegrity_eq crypto config m m na rs hvis rfl ptr len
      hfind key key).2 m' h
    exact ⟨ptr, len, total, key, hfind, htotal, by rw [DerivedKey, if_neg hlong], hread⟩

/-- **Authentication of requests.**  A request that an agent with short-term or
long-term credentials accepts carries a USERNAME that the validater accepts and a
MESSAGE-INTEGRITY, and unless the key that the validater returns is `NULL` or
empty, the 20 bytes at the value of that attribute are the HMAC of the message up
to it under the key derived from the one of the validater. -/
theorem accepted_request_authenticated (crypto : StunCrypto) (agent agent' : StunAgent)
    (msg msg' : StunMessage) (buffer : Bytes) (validater : Option StunMessageIntegrityValidate)
    (status : StunValidationStatus)
    (hcred : agent.usageFlags.shortTermCredentials ∨ agent.usageFlags.longTermCredentials)
    (hignore : agent.usageFlags.ignoreCredentials = false)
    (h : stunAgentValidate crypto agent msg buffer validater = .ok (status, msg', agent'))
    (hacc : status.Accepted)
    (hreq : stunMessageGetClass (receivedMessage agent msg buffer) = .ok .request) :
    ∃ v username ptr len key, validater = some v ∧
      attributeValue (receivedMessage agent msg buffer) STUN_ATTRIBUTE_USERNAME =
        .ok (some username) ∧
      stunMessageFind (receivedMessage agent msg buffer) STUN_ATTRIBUTE_MESSAGE_INTEGRITY =
        .ok (some (ptr, len)) ∧
      v agent (receivedMessage agent msg buffer) (some username) none = some key ∧
      ∀ k, key = some k → k ≠ [] →
        IntegrityHolds crypto agent.toStunAgentConfig (receivedMessage agent msg buffer) k := by
  rcases validate_reaches h with hno | ⟨m, slot, ignore, key, hreach, hval⟩
  · exact absurd hacc hno
  obtain ⟨rfl, -, rs, hvis⟩ := hreach.visible
  set m := receivedMessage agent msg buffer
  -- a request has no slot, hence no key to begin with
  obtain ⟨c, hc, hslot⟩ := matchSentId_spec hreach.slotted
  obtain rfl := Except.ok.inj (hc.symm.trans hreq)
  obtain rfl : slot = .none := by
    rcases hslot with ⟨rfl, -⟩ | ⟨hresp, -⟩
    · rfl
    · simp at hresp
  -- and its credentials are not ignored
  obtain ⟨b, hb, hbc⟩ := ignoreCredentials_eq hvis agent.toStunAgentConfig hreq
  obtain rfl := Except.ok.inj (hb.symm.trans hreach.ignored)
  obtain rfl : b = false := by rw [hbc (by decide), hignore]; rfl
  have hkey := hreach.keyed
  rw [validateKey, lacksCredentials_eq hvis agent.toStunAgentConfig hreq, hasAttribute_eq hvis]
    at hkey
  simp only [StunAgent.savedId, Option.bind_none, Option.isNone_none, Bool.not_false, Bool.and_self,
    pure, Except.pure, andM_ok, bind, Except.bind, Bool.true_or, Bool.and_true] at hkey
  split at hkey
  next => cases Except.ok.inj hkey
  next hlacks =>
  -- so it carries a USERNAME and a MESSAGE-INTEGRITY
  have hcarries : carries m rs STUN_ATTRIBUTE_USERNAME = true ∧
      carries m rs STUN_ATTRIBUTE_MESSAGE_INTEGRITY = true := by
    simp only [List.any_cons, List.any_nil] at hlacks
    rcases hcred with hs | hl
    · simp [hs] at hlacks
      exact hlacks.1.1
    · simp [hl] at hlacks
      exact ⟨hlacks.1.2.1, hlacks.1.2.2.1⟩
  rw [if_pos hcarries.2] at hkey
  obtain ⟨username, husername, hsome⟩ := attributeValue_eq hvis STUN_ATTRIBUTE_USERNAME
  rw [hcarries.1] at hsome
  obtain ⟨u, rfl⟩ := Option.isSome_iff_exists.mp hsome
  rw [husername] at hkey
  cases validater with
  | none => cases Except.ok.inj hkey
  | some v =>
      simp only at hkey
      cases hv : v agent m (some u) none with
      | none =>
          rw [hv] at hkey
          cases Except.ok.inj hkey
      | some k =>
          rw [hv] at hkey
          obtain rfl := Sum.inr.inj (Except.ok.inj hkey)
          obtain ⟨⟨ptr, len⟩, hscan⟩ := Option.isSome_iff_exists.mp hcarries.2
          refine ⟨v, u, ptr, len, k, rfl, husername, by rw [find_visible hvis, hscan], hv, ?_⟩
          rintro key rfl hne
          -- an accepted message has passed the integrity check
          rw [validateMessage] at hval
          obtain ⟨⟨m', passes⟩, hauth, hval⟩ := bind_eq_ok.mp hval
          have hpasses : passes = true := by
            cases passes with
            | true => rfl
            | false =>
                obtain ⟨rfl, -⟩ := Prod.mk.inj (Except.ok.inj hval)
                simp [StunValidationStatus.Accepted] at hacc
          subst hpasses
          rw [authenticate.eq_def] at hauth
          have hlen : key.length > 0 := List.length_pos_iff.mpr hne
          simp only [Bool.false_eq_true, if_false, if_pos hlen, StunAgent.savedLongTermKey,
            StunAgent.savedId] at hauth
          exact checkIntegrity_holds hvis hcarries.2 hauth

/-! ### An empty key -/

/-- An agent with short-term credentials that knows USERNAME and
MESSAGE-INTEGRITY. -/
def shortTermAgent : StunAgent :=
  { plainAgent with
    usageFlags := ⟨true, false, false, false, false, false, false, false⟩
    knownAttributes := [STUN_ATTRIBUTE_USERNAME, STUN_ATTRIBUTE_MESSAGE_INTEGRITY] }

/-- A Binding request from `user` with the given MESSAGE-INTEGRITY. -/
def signedRequest (integrity : Bytes) : Bytes :=
  [0, 1] ++ be16 (12 + integrity.length) ++ List.replicate 16 7 ++
    [0, 6, 0, 4, 0x75, 0x73, 0x65, 0x72] ++ [0, 8] ++ be16 integrity.length ++ integrity

/-- A hash function that always gives the same bytes. -/
def constantCrypto (b : UInt8) : StunCrypto :=
  ⟨fun _ _ => List.replicate 20 b, fun _ => List.replicate 16 b, fun _ _ => List.length_replicate,
    fun _ => List.length_replicate⟩

lemma ok_of_status {α : Type} [DecidableEq α] {x : Except Fault (α × StunMessage × StunAgent)}
    {status : α}
    (h : (match x with
      | .ok (s, _, _) => decide (s = status)
      | .error _ => false) = true) : ∃ m a, x = .ok (status, m, a) := by
  cases x with
  | error e => cases h
  | ok r =>
      obtain ⟨s, m, a⟩ := r
      obtain rfl : s = status := of_decide_eq_true h
      exact ⟨m, a, rfl⟩

/-- A validater that accepts a user with an empty key: the request is accepted,
although its MESSAGE-INTEGRITY is no HMAC of anything under any key. -/
theorem empty_key_skips_integrity :
    ∃ crypto agent msg buffer v msg' agent' ptr len,
      agent.usageFlags.shortTermCredentials = true ∧
      agent.usageFlags.ignoreCredentials = false ∧
      stunAgentValidate crypto agent msg buffer (some v) = .ok (.success, msg', agent') ∧
      stunMessageGetClass (receivedMessage agent msg buffer) = .ok .request ∧
      stunMessageFind (receivedMessage agent msg buffer) STUN_ATTRIBUTE_MESSAGE_INTEGRITY =
        .ok (some (ptr, len)) ∧
      ∀ key text, readSlice buffer ptr 20 ≠ .ok (crypto.hmacSha1 key text) := by
  obtain ⟨msg', agent', hval⟩ := @ok_of_status _ _
    (stunAgentValidate (constantCrypto 1) shortTermAgent (plainRequest 0 [])
      (signedRequest (List.replicate 20 0)) (some fun _ _ _ _ => some (some []))) .success
    (by decide +kernel)
  exact ⟨_, _, _, _, _, msg', agent', 32, 20, rfl, rfl, hval, rfl, by decide +kernel,
    fun key text => by change readSlice _ 32 20 ≠ .ok (List.replicate 20 1); decide +kernel⟩

/-- A request with the right MESSAGE-INTEGRITY under the key of its user. -/
theorem accepted_request_authenticated_sample :
    IntegrityHolds (constantCrypto 0) shortTermAgent.toStunAgentConfig
      (receivedMessage shortTermAgent (plainRequest 0 []) (signedRequest (List.replicate 20 0)))
      [1] := by
  obtain ⟨msg', agent', hval⟩ := @ok_of_status _ _
    (stunAgentValidate (constantCrypto 0) shortTermAgent (plainRequest 0 [])
      (signedRequest (List.replicate 20 0)) (some fun _ _ _ _ => some (some [1]))) .success
    (by decide +kernel)
  obtain ⟨v, u, ptr, len, key, hv, -, -, hkey, hholds⟩ := accepted_request_authenticated _ _ _ _ _
    _ _ _ (.inl rfl) rfl hval (.inl rfl) rfl
  obtain rfl := Option.some.inj hv
  exact hholds [1] (Option.some.inj hkey).symm (by simp)

/-! ### What is read -/

/-- The check of the message `m` against `key` stays inside the message when its
MESSAGE-INTEGRITY is at `ptr`: 20 bytes are left there, and of the user that a
long-term key has to be computed for something is left without the quotes.  A
message that names no such user is refused before either matters. -/
def CheckFits (agent : StunAgentConfig) (m : StunMessage) (key : Bytes) (saved : Option Bytes)
    (ptr : ℕ) : Prop :=
  if agent.usageFlags.longTermCredentials = true ∧ saved = none then
    ∀ realm username, attributeValue m STUN_ATTRIBUTE_REALM = .ok (some realm) →
      attributeValue m STUN_ATTRIBUTE_USERNAME = .ok (some username) →
      Trimmable realm ∧ Trimmable username ∧ Trimmable key ∧ ptr + 20 ≤ m.buffer.length
  else ptr + 20 ≤ m.buffer.length

/-- When the integrity check has a result. -/
lemma checkIntegrity_ok_iff {config : StunAgentConfig} {m : StunMessage} {na : Bool}
    {rs : List (Attribute na)} (hvis : Visible na m rs) (h20 : 20 ≤ m.buffer.length) (key : Bytes)
    (saved : Option Bytes) :
    (∃ r, checkIntegrity crypto config m key saved = .ok r) ↔
      ∀ ptr len, stunMessageFind m STUN_ATTRIBUTE_MESSAGE_INTEGRITY = .ok (some (ptr, len)) →
        CheckFits config m key saved ptr := by
  obtain ⟨⟨c, hc⟩, -⟩ := header_total h20
  rw [checkIntegrity]
  cases hfind : scan (misordered (m.wireType STUN_ATTRIBUTE_MESSAGE_INTEGRITY))
      (m.wireType STUN_ATTRIBUTE_MESSAGE_INTEGRITY) 20 rs with
  | none =>
      obtain ⟨b, hb, -⟩ := hasErrorCode_total hvis hc [400, 401]
      have hnone : stunMessageFind m STUN_ATTRIBUTE_MESSAGE_INTEGRITY = .ok none := by
        rw [find_visible hvis, hfind]
      rw [hnone]
      simp only [bind, Except.bind, hb]
      exact ⟨fun _ ptr len h => (by cases Except.ok.inj h), fun _ => ⟨_, rfl⟩⟩
  | some p =>
      obtain ⟨ptr, len⟩ := p
      have hsome : stunMessageFind m STUN_ATTRIBUTE_MESSAGE_INTEGRITY = .ok (some (ptr, len)) := by
        rw [find_visible hvis, hfind]
      have hforall : (∀ ptr' len', (Except.ok (some (ptr, len)) : Except Fault _) =
          .ok (some (ptr', len')) → CheckFits config m key saved ptr') ↔
            CheckFits config m key saved ptr := by
        constructor
        · exact fun h => h ptr len rfl
        · rintro h ptr' len' heq
          obtain ⟨rfl, rfl⟩ := Prod.mk.inj (Option.some.inj (Except.ok.inj heq))
          exact h
      rw [hsome, hforall]
      simp only [bind, Except.bind]
      by_cases hlong : config.usageFlags.longTermCredentials = true
      swap
      · rw [if_neg hlong, CheckFits, if_neg (fun h => hlong h.1)]
        exact (compareIntegrity_eq hvis rfl hsome key key).1
      rw [if_pos hlong]
      cases saved with
      | some md5 =>
          rw [CheckFits, if_neg (by simp)]
          exact (@compareIntegrity_eq crypto config m
            { m with longTermKey := md5, longTermValid := true } _ rs hvis rfl ptr len hsome md5
            key).1
      | none =>
          rw [CheckFits, if_pos ⟨hlong, rfl⟩, receivedLongTermKey]
          obtain ⟨realm, hrealm, -⟩ := attributeValue_eq hvis STUN_ATTRIBUTE_REALM
          obtain ⟨username, husername, -⟩ := attributeValue_eq hvis STUN_ATTRIBUTE_USERNAME
          simp only [bind, Except.bind, hrealm, husername]
          cases username with
          | none =>
              refine ⟨fun _ realm' username' _ h => (by cases Except.ok.inj h), fun _ => ?_⟩
              cases realm <;> exact ⟨_, rfl⟩
          | some username =>
              cases realm with
              | none =>
                  exact ⟨fun _ realm' username' h _ => (by cases Except.ok.inj h),
                    fun _ => ⟨_, rfl⟩⟩
              | some realm =>
                  have hone : (∀ realm' username',
                      (Except.ok (some realm) : Except Fault _) = .ok (some realm') →
                      (Except.ok (some username) : Except Fault _) = .ok (some username') →
                      Trimmable realm' ∧ Trimmable username' ∧ Trimmable key ∧
                        ptr + 20 ≤ m.buffer.length) ↔
                      (Trimmable realm ∧ Trimmable username ∧ Trimmable key) ∧
                        ptr + 20 ≤ m.buffer.length := by
                    constructor
                    · intro h
                      obtain ⟨h₁, h₂, h₃, h₄⟩ := h realm username rfl rfl
                      exact ⟨⟨h₁, h₂, h₃⟩, h₄⟩
                    · rintro ⟨⟨h₁, h₂, h₃⟩, h₄⟩ realm' username' hr hu
                      obtain rfl := Option.some.inj (Except.ok.inj hr)
                      obtain rfl := Option.some.inj (Except.ok.inj hu)
                      exact ⟨h₁, h₂, h₃, h₄⟩
                  rw [hone, ← @stunHashCreds_ok_iff crypto]
                  cases hmd5 : stunHashCreds crypto realm username key with
                  | error e => simp [hmd5]
                  | ok md5 =>
                      have hcompare := (@compareIntegrity_eq crypto config m
                        { m with longTermKey := md5, longTermValid := true } _ rs hvis rfl ptr len
                        hsome md5 key).1
                      simp only [hmd5, pure, Except.pure]
                      rw [hcompare]
                      simp

/-- The slot of a message can always be looked up, and so can its key. -/
lemma matchSentId_total {m : StunMessage} (h : 20 ≤ m.buffer.length) :
    ∃ slot, matchSentId agent m = .ok slot := by
  obtain ⟨⟨c, hc⟩, ⟨method, hm⟩, ⟨id, hid⟩, -⟩ := header_total h
  rw [matchSentId, hc]
  simp only [bind, Except.bind, hid, hm]
  split
  · split <;> exact ⟨_, rfl⟩
  · exact ⟨_, rfl⟩

lemma validateKey_total {m : StunMessage} {na : Bool} {rs : List (Attribute na)}
    (hvis : Visible na m rs) (h20 : 20 ≤ m.buffer.length) (ignore : Bool) (key : Option Bytes) :
    ∃ r, validateKey agent m ignore key validater = .ok r := by
  obtain ⟨⟨c, hc⟩, -⟩ := header_total h20
  obtain ⟨username, husername, -⟩ := attributeValue_eq hvis STUN_ATTRIBUTE_USERNAME
  rw [validateKey, lacksCredentials_eq hvis agent.toStunAgentConfig hc, hasAttribute_eq hvis,
    husername]
  simp only [pure, Except.pure, andM_ok, bind, Except.bind]
  split
  · exact ⟨_, rfl⟩
  split
  · split
    · exact ⟨_, rfl⟩
    · split <;> exact ⟨_, rfl⟩
  · exact ⟨_, rfl⟩

/-- The end of `stun_agent_validate` has a result when the integrity check has
one. -/
lemma validateMessage_ok_iff {m : StunMessage}
    {rs : List (Attribute agent.usageFlags.noAlignedAttributes)}
    (hvis : Visible agent.usageFlags.noAlignedAttributes m rs) (h20 : 20 ≤ m.buffer.length)
    (slot : SentId) (ignore : Bool) (key : Option Bytes) :
    (∃ r, validateMessage crypto agent m slot ignore key = .ok r) ↔
      ∃ r, authenticate crypto agent.toStunAgentConfig m ignore key
        (agent.savedLongTermKey slot) = .ok r := by
  rw [validateMessage]
  constructor
  · rintro ⟨r, h⟩
    obtain ⟨a, ha, -⟩ := bind_eq_ok.mp h
    exact ⟨a, ha⟩
  · rintro ⟨⟨m', passes⟩, h⟩
    obtain ⟨hbuf, hagent⟩ := authenticate_same h
    have hvis' := hvis.congr hagent hbuf
    obtain ⟨⟨c, hc⟩, -⟩ := @header_total m' (by rw [hbuf]; exact h20)
    have hflags : (agent.release slot).toStunAgentConfig = agent.toStunAgentConfig := by
      cases slot <;> rfl
    rw [h]
    simp only [bind, Except.bind]
    cases passes with
    | false => exact ⟨_, rfl⟩
    | true =>
        simp only [Bool.not_true, Bool.false_eq_true, if_false, hflags,
          findUnknowns_visible hvis' rfl, hc]
        split <;> exact ⟨_, rfl⟩

/-- **Reads of the validation.**  `stun_agent_validate` has a result, so that it
reads no byte outside the buffer and fails no assertion, exactly when the check of
its MESSAGE-INTEGRITY against a key, if the message comes as far as that, stays
inside the message. -/
theorem validate_ok_iff (crypto : StunCrypto) (agent : StunAgent) (msg : StunMessage)
    (buffer : Bytes) (validater : Option StunMessageIntegrityValidate) :
    (∃ r, stunAgentValidate crypto agent msg buffer validater = .ok r) ↔
      ∀ slot key ptr len,
        Reaches agent msg buffer validater (receivedMessage agent msg buffer) slot false
          (some key) → key ≠ [] →
        stunMessageFind (receivedMessage agent msg buffer) STUN_ATTRIBUTE_MESSAGE_INTEGRITY =
          .ok (some (ptr, len)) →
        CheckFits agent.toStunAgentConfig (receivedMessage agent msg buffer) key
          (agent.savedLongTermKey slot) ptr := by
  constructor
  · rintro ⟨r, h⟩ slot key ptr len hreach hne hfind
    obtain ⟨-, h20, rs, hvis⟩ := hreach.visible
    rw [hreach.validate] at h
    obtain ⟨a, ha⟩ := (validateMessage_ok_iff hvis h20 slot false (some key)).mp ⟨r, h⟩
    rw [authenticate.eq_def] at ha
    simp only [Bool.false_eq_true, if_false, if_pos (List.length_pos_iff.mpr hne)] at ha
    exact (checkIntegrity_ok_iff hvis h20 key _).mp ⟨a, ha⟩ ptr len hfind
  · intro hfits
    obtain ⟨m, refused, hdemux, hvis⟩ := demux_visible agent msg buffer
    cases refused with
    | some status =>
        rw [stunAgentValidate, hdemux]
        exact ⟨_, rfl⟩
    | none =>
        obtain ⟨rfl, h20, rs, hvis⟩ := hvis rfl
        obtain ⟨⟨c, hc⟩, -⟩ := @header_total (receivedMessage agent msg buffer) h20
        obtain ⟨slot, hslot⟩ := @matchSentId_total agent (receivedMessage agent msg buffer) h20
        by_cases hun : slot = .unmatched
        · rw [stunAgentValidate, hdemux]
          simp only [bind, Except.bind, hslot, if_pos hun]
          exact ⟨_, rfl⟩
        obtain ⟨ignore, hignore, -⟩ := ignoreCredentials_eq hvis agent.toStunAgentConfig hc
        obtain ⟨r, hr⟩ := @validateKey_total agent validater _ _ rs hvis h20 ignore
          ((agent.savedId slot).bind (·.key))
        cases r with
        | inl status =>
            rw [stunAgentValidate, hdemux]
            simp only [bind, Except.bind, hslot, if_neg hun, hignore, hr]
            exact ⟨_, rfl⟩
        | inr key =>
            have hreach : Reaches agent msg buffer validater (receivedMessage agent msg buffer)
                slot ignore key := ⟨hdemux, hslot, hun, hignore, hr⟩
            rw [hreach.validate, validateMessage_ok_iff hvis h20, authenticate.eq_def]
            cases ignore with
            | true => exact ⟨_, rfl⟩
            | false =>
                cases key with
                | none => exact ⟨_, rfl⟩
                | some key =>
                    simp only [Bool.false_eq_true, if_false]
                    split
                    next hpos =>
                      exact (checkIntegrity_ok_iff hvis h20 key _).mpr fun ptr len hfind =>
                        hfits slot key ptr len hreach (List.length_pos_iff.mp hpos) hfind
                    next => exact ⟨_, rfl⟩

/-- A MESSAGE-INTEGRITY of length 0 at the end of the buffer: the 20 bytes that
it is compared with lie behind the buffer. -/
theorem short_integrity_overreads :
    ∃ crypto agent msg buffer v,
      stunAgentValidate crypto agent msg buffer (some v) = .error .outOfBounds := by
  refine ⟨constantCrypto 0, shortTermAgent, plainRequest 0 [], signedRequest [],
    fun _ _ _ _ => some (some [1]), ?_⟩
  have h : (match stunAgentValidate (constantCrypto 0) shortTermAgent (plainRequest 0 [])
      (signedRequest []) (some fun _ _ _ _ => some (some [1])) with
    | .ok _ => false
    | .error e => decide (e = .outOfBounds)) = true := by decide +kernel
  cases hval : stunAgentValidate (constantCrypto 0) shortTermAgent (plainRequest 0 [])
      (signedRequest []) (some fun _ _ _ _ => some (some [1])) with
  | ok r => simp [hval] at h
  | error e =>
      rw [hval] at h
      rw [of_decide_eq_true h]

end LibNice.Stun
