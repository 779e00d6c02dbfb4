import LibNice.Foundation.Ledger
import LibNice.Foundation.Run
import LibNice.Stun.Attributes

/-!
The transaction table of an agent.

* `finish_spec`, `validate_spec`, `forget_spec`: what each of the three
  operations on the table does to it.
* `Step`, `Event`, `ledger`: calls on an agent, what they come to, and the
  transactions that are outstanding after a sequence of events.
* `Tracks.step`, `run_tracks`: the table holds what the ledger says, in every run
  without a request of 65536 bytes.
* `transactions_matched`: every accepted response answers an outstanding request.
* `finish_zero_saves`: what goes wrong with a request of 65536 bytes.
-/

namespace LibNice.Stun

open LibNice.Foundation

/-! ### What an append leaves alone -/

lemma writeSlice_take {b b' v : Bytes} {i k : ℕ} (h : writeSlice b i v = .ok b') (hk : k ≤ i) :
    b'.take k = b.take k := by
  obtain ⟨-, hb'⟩ := writeSlice_eq_ok h
  by_cases hv : v = []
  · subst hv
    rw [writeSlice_nil] at h
    cases h
    rfl
  · obtain ⟨hle, rfl⟩ := hb' hv
    have hlen : (b.take i).length = i := by
      rw [List.length_take]
      omega
    rw [List.append_assoc, List.take_append_of_le_length (by omega), List.take_take,
      Nat.min_eq_left hk]

lemma readWord_congr {b b' : Bytes} {i k : ℕ} (h : b.take k = b'.take k) (hk : i + 2 ≤ k) :
    readWord b i = readWord b' i := by
  have hget (j : ℕ) (hj : j < k) : b[j]? = b'[j]? := by
    have := congrArg (·[j]?) h
    simpa [List.getElem?_take, hj] using this
  have hbyte (j : ℕ) (hj : j < k) : readByte b j = readByte b' j := by
    rw [readByte, readByte, hget j hj]
  rw [readWord, readWord, hbyte i (by omega), hbyte (i + 1) (by omega)]

lemma readWord_setw {b b' : Bytes} {i v : ℕ} (h : stunSetw b i v = .ok b') :
    readWord b' i = .ok (UInt16.ofNat v) := by
  obtain ⟨-, hb'⟩ := writeSlice_eq_ok h
  obtain ⟨hle, rfl⟩ := hb' (by simp [be16])
  rw [be16_length] at hle
  refine readWord_append ?_
  rw [List.length_take]
  omega

/-- The length of a message depends on its first four bytes. -/
lemma stunMessageLength_congr {msg msg' : StunMessage}
    (h : msg.buffer.take 4 = msg'.buffer.take 4) :
    stunMessageLength msg = stunMessageLength msg' := by
  rw [stunMessageLength, stunMessageLength, stunGetw, stunGetw, STUN_MESSAGE_LENGTH_POS,
    readWord_congr h le_rfl]

/-- The class of a message depends on its first two bytes. -/
lemma stunMessageGetClass_congr {msg msg' : StunMessage}
    (h : msg.buffer.take 2 = msg'.buffer.take 2) :
    stunMessageGetClass msg = stunMessageGetClass msg' := by
  rw [stunMessageGetClass, stunMessageGetClass, stunMessageType, stunMessageType, stunGetw,
    stunGetw, readWord_congr h le_rfl]

/-- What `stun_message_append` does when it makes room for a value: the length
grows, modulo `2 ^ 16`, and a message of at least 4 bytes keeps its type. -/
lemma append_spec {msg msg' : StunMessage} {type : StunAttribute} {n ptr : ℕ}
    (h : stunMessageAppend msg type n = .ok (msg', some ptr)) :
    ∃ a pad, stunMessageLength msg = .ok a ∧ ptr = a.toNat + 4 ∧
      (pad = 0 ∨ pad = stunPadding n) ∧
      stunMessageLength msg' = .ok (a + UInt16.ofNat pad + UInt16.ofNat (4 + n)) ∧
      (4 ≤ a.toNat → msg'.buffer.take 2 = msg.buffer.take 2) := by
  rw [stunMessageAppend] at h
  obtain ⟨a, ha, h⟩ := bind_eq_ok.mp h
  split at h
  next => simp [pure, Except.pure] at h
  next =>
    obtain ⟨b₁, hb₁, h⟩ := bind_eq_ok.mp h
    obtain ⟨⟨b₂, pad⟩, hb₂, h⟩ := bind_eq_ok.mp h
    obtain ⟨b₃, hb₃, h⟩ := bind_eq_ok.mp h
    obtain ⟨rfl, hptr⟩ := Prod.mk.inj (Except.ok.inj h)
    have hpad : (pad = 0 ∨ pad = stunPadding n) ∧ (4 ≤ a.toNat → b₂.take 4 = b₁.take 4) := by
      rw [storeLengthAndPadding] at hb₂
      split at hb₂
      next =>
        obtain ⟨b, hb, hb₂⟩ := bind_eq_ok.mp hb₂
        obtain ⟨rfl, rfl⟩ := Prod.mk.inj (Except.ok.inj hb₂)
        exact ⟨.inl rfl, fun ha4 => writeSlice_take hb (by omega)⟩
      next =>
        obtain ⟨cookie, -, hb₂⟩ := bind_eq_ok.mp hb₂
        obtain ⟨b, hb, hb₂⟩ := bind_eq_ok.mp hb₂
        obtain ⟨b', hb', hb₂⟩ := bind_eq_ok.mp hb₂
        obtain ⟨rfl, rfl⟩ := Prod.mk.inj (Except.ok.inj hb₂)
        exact ⟨.inr rfl, fun ha4 => (writeSlice_take hb' (by omega)).trans
          (writeSlice_take hb (by omega))⟩
    refine ⟨a, pad, ha, (Option.some.inj hptr).symm, hpad.1, ?_, fun ha4 => ?_⟩
    · rw [stunMessageLength, stunGetw, readWord_setw hb₃]
      simp only [bind, Except.bind, pure, Except.pure, UInt16.ofNat_toNat]
      rw [UInt16.sub_add_cancel]
    · have h₁ : b₁.take 2 = msg.buffer.take 2 := writeSlice_take hb₁ (by omega)
      have h₂ : b₂.take 2 = b₁.take 2 := by
        have := congrArg (List.take 2) (hpad.2 ha4)
        simpa [List.take_take] using this
      have h₃ : b₃.take 2 = b₂.take 2 := writeSlice_take hb₃ le_rfl
      exact h₃.trans (h₂.trans h₁)

/-- A value stored at the end of a message leaves its header alone. -/
lemma take_of_write {b b' v : Bytes} {i k : ℕ} (h : writeSlice b (i + 4) v = .ok b') (hk : k ≤ 4) :
    b'.take k = b.take k :=
  writeSlice_take h (by omega)

/-! ### Slots -/

/-- The slot that a search finds passes the test. -/
lemma findFinIdx_some {α : Type} {n : ℕ} {p : α → Bool} {t : Vector α n} {i : Fin n}
    (h : t.findFinIdx? p = some i) : p (t.get i) = true := by
  have hfind := @Vector.find?_eq_map_findFinIdx?_getElem α n t p
  rw [h, Option.map_some] at hfind
  exact Vector.find?_some hfind

/-! ### Finishing a message -/

section Finish

variable {crypto : StunCrypto} {agent : StunAgentConfig} {msg msg' : StunMessage}

lemma stunSha1_length {b key sha : Bytes} {len msgLen : ℕ} {padding : Bool}
    (h : stunSha1 crypto b len msgLen key padding = .ok sha) : 44 ≤ len := by
  rw [stunSha1] at h
  split at h
  next => cases h
  next hlen => omega

lemma builtSha1_length {key sha : Bytes} (h : builtSha1 crypto agent msg key = .ok sha) :
    ∃ len, stunMessageLength msg = .ok len ∧ 44 ≤ len.toNat := by
  rw [builtSha1] at h
  obtain ⟨len, hlen, h⟩ := bind_eq_ok.mp h
  refine ⟨len, hlen, ?_⟩
  split at h <;> exact stunSha1_length h

lemma builtLongTermKey_buffer {key : Bytes} {skip : Bool}
    (h : builtLongTermKey crypto agent msg key = .ok (msg', skip)) : msg'.buffer = msg.buffer := by
  rw [builtLongTermKey] at h
  split at h
  · obtain ⟨rfl, -⟩ := Prod.mk.inj (Except.ok.inj h)
    rfl
  split at h
  · obtain ⟨realm, -, h⟩ := bind_eq_ok.mp h
    obtain ⟨username, -, h⟩ := bind_eq_ok.mp h
    split at h
    · obtain ⟨md5, -, h⟩ := bind_eq_ok.mp h
      obtain ⟨rfl, -⟩ := Prod.mk.inj (Except.ok.inj h)
      rfl
    · obtain ⟨rfl, -⟩ := Prod.mk.inj (Except.ok.inj h)
      rfl
  · obtain ⟨rfl, -⟩ := Prod.mk.inj (Except.ok.inj h)
    rfl

/-- A MESSAGE-INTEGRITY is only added to a message that is long enough for the
assertion of `stun_sha1`, and leaves its type alone. -/
lemma appendIntegrity_spec {key : Option Bytes} {fits : Bool}
    (h : appendIntegrity crypto agent msg key = .ok (msg', fits)) (hfits : fits = true) :
    msg'.buffer.take 2 = msg.buffer.take 2 ∧
      (msg'.buffer = msg.buffer ∨ ∃ len, stunMessageLength msg' = .ok len ∧ 44 ≤ len.toNat) := by
  cases key with
  | none =>
      obtain ⟨rfl, -⟩ := Prod.mk.inj (Except.ok.inj h)
      exact ⟨rfl, .inl rfl⟩
  | some key =>
      rw [appendIntegrity] at h
      obtain ⟨⟨msg₁, skip⟩, hkey, h⟩ := bind_eq_ok.mp h
      have hbuf := builtLongTermKey_buffer hkey
      simp only at h
      split at h
      · obtain ⟨rfl, -⟩ := Prod.mk.inj (Except.ok.inj h)
        exact ⟨by rw [hbuf], .inl hbuf⟩
      · obtain ⟨⟨msg₂, ptr⟩, happ, h⟩ := bind_eq_ok.mp h
        cases ptr with
        | none =>
            obtain ⟨-, rfl⟩ := Prod.mk.inj (Except.ok.inj h)
            simp at hfits
        | some ptr =>
            obtain ⟨sha, hsha, h⟩ := bind_eq_ok.mp h
            obtain ⟨buffer, hwrite, h⟩ := bind_eq_ok.mp h
            obtain ⟨rfl, -⟩ := Prod.mk.inj (Except.ok.inj h)
            obtain ⟨len, hlen, h44⟩ := builtSha1_length hsha
            obtain ⟨a, pad, -, rfl, hpad, hlen', htake⟩ := append_spec happ
            -- a message of at least 44 bytes behind the append had 20 before it
            have ha : 4 ≤ a.toNat := by
              have hpad0 : pad = 0 := by
                rcases hpad with rfl | rfl <;> rfl
              obtain rfl := Except.ok.inj (hlen.symm.trans hlen')
              subst hpad0
              have := a.toNat_lt
              simp only [UInt16.toNat_add, UInt16.toNat_ofNat'] at h44
              omega
            refine ⟨?_, .inr ⟨len, ?_, h44⟩⟩
            · rw [← hbuf, ← htake ha]
              exact take_of_write hwrite (by omega)
            · rw [← hlen]
              exact stunMessageLength_congr (take_of_write hwrite le_rfl)

/-- A FINGERPRINT is only added to a message that is long enough for the sums of
`stun_fingerprint`, and leaves its type alone. -/
lemma appendFingerprint_spec {fits : Bool} (h : appendFingerprint agent msg = .ok (msg', fits))
    (hfits : fits = true) :
    msg'.buffer.take 2 = msg.buffer.take 2 ∧
      (msg' = msg ∨ ∃ len, stunMessageLength msg' = .ok len ∧ 12 ≤ len.toNat) := by
  rw [appendFingerprint] at h
  split at h
  · obtain ⟨⟨msg₁, ptr⟩, happ, h⟩ := bind_eq_ok.mp h
    cases ptr with
    | none =>
        obtain ⟨-, rfl⟩ := Prod.mk.inj (Except.ok.inj h)
        simp at hfits
    | some ptr =>
        obtain ⟨len, hlen, h⟩ := bind_eq_ok.mp h
        obtain ⟨fpr, hfpr, h⟩ := bind_eq_ok.mp h
        obtain ⟨buffer, hwrite, h⟩ := bind_eq_ok.mp h
        obtain ⟨rfl, -⟩ := Prod.mk.inj (Except.ok.inj h)
        have h12 : 12 ≤ len.toNat := by
          rw [stunFingerprint] at hfpr
          split at hfpr
          next => cases hfpr
          next hlt => simpa [UInt16.lt_iff_toNat_lt] using hlt
        obtain ⟨a, pad, -, rfl, hpad, hlen', htake⟩ := append_spec happ
        have ha : 4 ≤ a.toNat := by
          have hpad0 : pad = 0 := by
            rcases hpad with rfl | rfl <;> rfl
          obtain rfl := Except.ok.inj (hlen.symm.trans hlen')
          subst hpad0
          have := a.toNat_lt
          simp only [UInt16.toNat_add, UInt16.toNat_ofNat'] at h12
          omega
        refine ⟨?_, .inr ⟨len, ?_, h12⟩⟩
        · rw [← htake ha]
          exact take_of_write hwrite (by omega)
        · rw [← hlen]
          exact stunMessageLength_congr (take_of_write hwrite le_rfl)
  · obtain ⟨rfl, -⟩ := Prod.mk.inj (Except.ok.inj h)
    exact ⟨rfl, .inl rfl⟩

/-- The request `msg` is 65536 bytes long, which `stun_message_length` takes for
0, and there is a free slot for it. -/
def LengthWraps (agent : StunAgent) (msg : StunMessage) : Prop :=
  stunMessageGetClass msg = .ok .request ∧ (∃ idx, (agent.sentIds.get idx).valid = false) ∧
    stunMessageLength msg = .ok 0

/-- `stun_agent_finish_message` leaves the table alone, or puts the transaction
of the finished request into a free slot; when it then returns 0, the length of
the request has wrapped around. -/
lemma finish_spec {agent agent' : StunAgent} {key : Option Bytes} {n : ℕ}
    (h : stunAgentFinishMessage crypto agent msg key = .ok (n, msg', agent')) :
    (agent' = agent ∧ (n ≠ 0 → ∃ c, stunMessageGetClass msg' = .ok c ∧ c ≠ .request)) ∨
    ∃ idx slot, stunMessageGetClass msg' = .ok .request ∧
      (agent.sentIds.get idx).valid = false ∧ slot.valid = true ∧
      stunMessageId msg' = .ok slot.id ∧ stunMessageGetMethod msg' = .ok slot.method ∧
      agent' = { agent with sentIds := agent.sentIds.set idx slot idx.isLt } ∧
      (n = 0 → LengthWraps agent msg) := by
  rw [stunAgentFinishMessage] at h
  obtain ⟨c, hc, h⟩ := bind_eq_ok.mp h
  cases hfree : freeSentId agent c with
  | none =>
      rw [hfree] at h
      obtain ⟨hn, hrest⟩ := Prod.mk.inj (Except.ok.inj h)
      obtain ⟨-, rfl⟩ := Prod.mk.inj hrest
      exact .inl ⟨rfl, fun h0 => absurd hn.symm h0⟩
  | some idx =>
      rw [hfree] at h
      obtain ⟨⟨msg₁, fits₁⟩, happ₁, h⟩ := bind_eq_ok.mp h
      cases fits₁ with
      | false =>
          obtain ⟨hn, hrest⟩ := Prod.mk.inj (Except.ok.inj h)
          obtain ⟨-, rfl⟩ := Prod.mk.inj hrest
          exact .inl ⟨rfl, fun h0 => absurd hn.symm h0⟩
      | true =>
          obtain ⟨⟨msg₂, fits₂⟩, happ₂, h⟩ := bind_eq_ok.mp h
          cases fits₂ with
          | false =>
              obtain ⟨hn, hrest⟩ := Prod.mk.inj (Except.ok.inj h)
              obtain ⟨-, rfl⟩ := Prod.mk.inj hrest
              exact .inl ⟨rfl, fun h0 => absurd hn.symm h0⟩
          | true =>
              obtain ⟨agent₁, hsave, h⟩ := bind_eq_ok.mp h
              obtain ⟨len, hlen, h⟩ := bind_eq_ok.mp h
              obtain ⟨hn, hrest⟩ := Prod.mk.inj (Except.ok.inj h)
              obtain ⟨rfl, rfl⟩ := Prod.mk.inj hrest
              obtain ⟨htake₁, hlen₁⟩ := appendIntegrity_spec happ₁ rfl
              obtain ⟨htake₂, hlen₂⟩ := appendFingerprint_spec happ₂ rfl
              have hclass : stunMessageGetClass msg₂ = .ok c := by
                rw [← hc]
                exact stunMessageGetClass_congr (htake₂.trans htake₁)
              rw [saveTransaction] at hsave
              obtain ⟨c₂, hc₂, hsave⟩ := bind_eq_ok.mp hsave
              obtain rfl := Except.ok.inj (hclass.symm.trans hc₂)
              by_cases hreq : c = .request
              swap
              · rw [if_neg hreq] at hsave
                obtain rfl := Except.ok.inj hsave
                exact .inl ⟨rfl, fun _ => ⟨c, hclass, hreq⟩⟩
              rw [if_pos hreq] at hsave
              obtain ⟨id, hid, hsave⟩ := bind_eq_ok.mp hsave
              obtain ⟨method, hmethod, hsave⟩ := bind_eq_ok.mp hsave
              obtain rfl := Except.ok.inj hsave
              have hvalid : (agent.sentIds.get idx).valid = false := by
                rw [freeSentId, if_pos hreq] at hfree
                simpa using findFinIdx_some hfree
              subst hreq
              let slot : StunAgentSavedIds :=
                { id, method
                  key := msg.key.or key
                  longTermKey := msg₂.longTermKey
                  longTermValid := msg₂.longTermValid
                  valid := true }
              refine .inr ⟨idx, slot, hclass, hvalid, rfl, hid, hmethod, rfl, fun h0 => ?_⟩
              refine ⟨hc, ⟨idx, hvalid⟩, ?_⟩
              -- a length of 0 rules out that anything was appended
              have hzero : stunMessageLength msg₂ = .ok 0 := by
                rw [← UInt16.toNat_inj.mp ((hn.trans h0 : len.toNat = (0 : UInt16).toNat))]
                exact hlen
              have h₂ : msg₂ = msg₁ := by
                rcases hlen₂ with rfl | ⟨len₂, hl, hle⟩
                · rfl
                · obtain rfl := Except.ok.inj (hl.symm.trans hzero)
                  simp at hle
              subst h₂
              rcases hlen₁ with hbuf | ⟨len₁, hl, hle⟩
              · rw [← hzero]
                exact stunMessageLength_congr (by rw [hbuf])
              · obtain rfl := Except.ok.inj (hl.symm.trans hzero)
                simp at hle

end Finish

/-! ### Validating and forgetting -/

section Validate

variable {crypto : StunCrypto} {agent agent' : StunAgent} {msg msg' : StunMessage}

/-- The statuses with which a message is accepted. -/
def StunValidationStatus.Accepted (status : StunValidationStatus) : Prop :=
  status = .success ∨ status = .unknownRequestAttribute ∨ status = .unknownAttribute

/-- The keys of the message `msg'` apart, it is the message `msg`. -/
def SameMessage (msg' msg : StunMessage) : Prop :=
  msg'.buffer = msg.buffer ∧ msg'.agent = msg.agent

lemma compareIntegrity_same {config : StunAgentConfig} {hash : ℕ} {sha1Key key : Bytes}
    {passes : Bool} (h : compareIntegrity crypto config msg hash sha1Key key = .ok (msg', passes)) :
    SameMessage msg' msg := by
  rw [compareIntegrity] at h
  obtain ⟨sha, -, h⟩ := bind_eq_ok.mp h
  obtain ⟨received, -, h⟩ := bind_eq_ok.mp h
  have h := Except.ok.inj h
  split at h <;> obtain ⟨rfl, -⟩ := Prod.mk.inj h <;> exact ⟨rfl, rfl⟩

lemma checkIntegrity_same {config : StunAgentConfig} {key : Bytes} {saved : Option Bytes}
    {passes : Bool} (h : checkIntegrity crypto config msg key saved = .ok (msg', passes)) :
    SameMessage msg' msg := by
  rw [checkIntegrity] at h
  obtain ⟨ptr, -, h⟩ := bind_eq_ok.mp h
  cases ptr with
  | none =>
      obtain ⟨exempt, -, h⟩ := bind_eq_ok.mp h
      obtain ⟨rfl, -⟩ := Prod.mk.inj (Except.ok.inj h)
      exact ⟨rfl, rfl⟩
  | some p =>
      simp only at h
      split at h
      · obtain ⟨md5, -, h⟩ := bind_eq_ok.mp h
        cases md5 with
        | none =>
            obtain ⟨rfl, -⟩ := Prod.mk.inj (Except.ok.inj h)
            exact ⟨rfl, rfl⟩
        | some md5 =>
            change compareIntegrity crypto config
              { msg with longTermKey := md5, longTermValid := true } p.1 md5 key =
                .ok (msg', passes) at h
            have hsame := compareIntegrity_same h
            exact hsame
      · exact compareIntegrity_same h

lemma authenticate_same {config : StunAgentConfig} {ignore passes : Bool}
    {key saved : Option Bytes}
    (h : authenticate crypto config msg ignore key saved = .ok (msg', passes)) :
    SameMessage msg' msg := by
  rw [authenticate.eq_def] at h
  split at h
  · obtain ⟨rfl, -⟩ := Prod.mk.inj (Except.ok.inj h)
    exact ⟨rfl, rfl⟩
  · cases key with
    | none =>
        obtain ⟨rfl, -⟩ := Prod.mk.inj (Except.ok.inj h)
        exact ⟨rfl, rfl⟩
    | some key =>
        simp only at h
        split at h
        · exact checkIntegrity_same h
        · obtain ⟨rfl, -⟩ := Prod.mk.inj (Except.ok.inj h)
          exact ⟨rfl, rfl⟩

lemma validateMessage_same {slot : SentId} {ignore : Bool} {key : Option Bytes}
    {status : StunValidationStatus}
    (h : validateMessage crypto agent msg slot ignore key = .ok (status, msg', agent')) :
    SameMessage msg' msg := by
  rw [validateMessage] at h
  obtain ⟨⟨msg₁, passes⟩, hauth, h⟩ := bind_eq_ok.mp h
  have hsame := authenticate_same hauth
  cases passes with
  | false =>
      obtain ⟨-, hrest⟩ := Prod.mk.inj (Except.ok.inj h)
      obtain ⟨rfl, -⟩ := Prod.mk.inj hrest
      exact hsame
  | true =>
      obtain ⟨unknowns, -, h⟩ := bind_eq_ok.mp h
      split at h
      · obtain ⟨c, -, h⟩ := bind_eq_ok.mp h
        obtain ⟨-, hrest⟩ := Prod.mk.inj (Except.ok.inj h)
        obtain ⟨rfl, -⟩ := Prod.mk.inj hrest
        exact hsame
      · obtain ⟨-, hrest⟩ := Prod.mk.inj (Except.ok.inj h)
        obtain ⟨rfl, -⟩ := Prod.mk.inj hrest
        exact hsame

/-- The end of `stun_agent_validate` refuses the message, or accepts it and
releases its slot. -/
lemma validateMessage_spec {slot : SentId} {ignore : Bool} {key : Option Bytes}
    {status : StunValidationStatus}
    (h : validateMessage crypto agent msg slot ignore key = .ok (status, msg', agent')) :
    msg'.buffer = msg.buffer ∧
      ((¬ status.Accepted ∧ agent' = agent) ∨
        (status.Accepted ∧ agent' = agent.release slot ∧
          (status = .unknownRequestAttribute → stunMessageGetClass msg' = .ok .request))) := by
  rw [validateMessage] at h
  obtain ⟨⟨msg₁, passes⟩, hauth, h⟩ := bind_eq_ok.mp h
  have hbuf := (authenticate_same hauth).1
  cases passes with
  | false =>
      obtain ⟨rfl, hrest⟩ := Prod.mk.inj (Except.ok.inj h)
      obtain ⟨rfl, rfl⟩ := Prod.mk.inj hrest
      exact ⟨hbuf, .inl ⟨by simp [StunValidationStatus.Accepted], rfl⟩⟩
  | true =>
      obtain ⟨unknowns, -, h⟩ := bind_eq_ok.mp h
      split at h
      · obtain ⟨c, hc, h⟩ := bind_eq_ok.mp h
        obtain ⟨hs, hrest⟩ := Prod.mk.inj (Except.ok.inj h)
        obtain ⟨rfl, rfl⟩ := Prod.mk.inj hrest
        refine ⟨hbuf, .inr ⟨?_, rfl, fun hstatus => ?_⟩⟩
        · rw [← hs, StunValidationStatus.Accepted]
          split <;> simp
        · rw [hstatus] at hs
          split at hs
          next hreq => rw [hc, hreq]
          next => cases hs
      · obtain ⟨rfl, hrest⟩ := Prod.mk.inj (Except.ok.inj h)
        obtain ⟨rfl, rfl⟩ := Prod.mk.inj hrest
        exact ⟨hbuf, .inr ⟨.inl rfl, rfl, by simp⟩⟩

/-- The slot of a message that has one is in use, for its id and method. -/
lemma matchSentId_spec {slot : SentId} (h : matchSentId agent msg = .ok slot) :
    ∃ c, stunMessageGetClass msg = .ok c ∧
      ((slot = .none ∧ c ≠ .response ∧ c ≠ .error) ∨
        ((c = .response ∨ c = .error) ∧ (slot = .unmatched ∨ ∃ idx, slot = .found idx ∧
          (agent.sentIds.get idx).valid = true ∧
          stunMessageId msg = .ok (agent.sentIds.get idx).id ∧
          stunMessageGetMethod msg = .ok (agent.sentIds.get idx).method))) := by
  rw [matchSentId] at h
  obtain ⟨c, hc, h⟩ := bind_eq_ok.mp h
  refine ⟨c, hc, ?_⟩
  split at h
  next hresp =>
    obtain ⟨id, hid, h⟩ := bind_eq_ok.mp h
    obtain ⟨method, hmethod, h⟩ := bind_eq_ok.mp h
    refine .inr ⟨hresp, ?_⟩
    split at h
    next idx hfind =>
      obtain rfl := Except.ok.inj h
      have hp := findFinIdx_some hfind
      simp only [Bool.and_eq_true, decide_eq_true_eq] at hp
      obtain ⟨⟨hv, hm⟩, hi⟩ := hp
      exact .inr ⟨idx, rfl, hv, by rw [hi, hid], by rw [hm, hmethod]⟩
    next =>
      obtain rfl := Except.ok.inj h
      exact .inl rfl
  next hresp =>
    obtain rfl := Except.ok.inj h
    exact .inl ⟨rfl, fun hc => hresp (.inl hc), fun hc => hresp (.inr hc)⟩

lemma demux_spec {buffer : Bytes} {status : Option StunValidationStatus}
    (h : demux agent msg buffer = .ok (msg', status)) :
    (∃ s, status = some s ∧ ¬ s.Accepted) ∨
      (status = none ∧ msg' = receivedMessage agent msg buffer) := by
  rw [demux] at h
  obtain ⟨len, -, h⟩ := bind_eq_ok.mp h
  split at h
  · obtain ⟨-, rfl⟩ := Prod.mk.inj (Except.ok.inj h)
    exact .inl ⟨_, rfl, by simp [StunValidationStatus.Accepted]⟩
  split at h
  · obtain ⟨-, rfl⟩ := Prod.mk.inj (Except.ok.inj h)
    exact .inl ⟨_, rfl, by simp [StunValidationStatus.Accepted]⟩
  split at h
  · obtain ⟨-, rfl⟩ := Prod.mk.inj (Except.ok.inj h)
    exact .inl ⟨_, rfl, by simp [StunValidationStatus.Accepted]⟩
  obtain ⟨noCookie, -, h⟩ := bind_eq_ok.mp h
  split at h
  · obtain ⟨-, rfl⟩ := Prod.mk.inj (Except.ok.inj h)
    exact .inl ⟨_, rfl, by simp [StunValidationStatus.Accepted]⟩
  obtain ⟨badFpr, -, h⟩ := bind_eq_ok.mp h
  split at h
  · obtain ⟨-, rfl⟩ := Prod.mk.inj (Except.ok.inj h)
    exact .inl ⟨_, rfl, by simp [StunValidationStatus.Accepted]⟩
  · obtain ⟨rfl, rfl⟩ := Prod.mk.inj (Except.ok.inj h)
    exact .inr ⟨rfl, rfl⟩

lemma validateKey_spec {ignore : Bool} {key : Option Bytes}
    {validater : Option StunMessageIntegrityValidate} {status : StunValidationStatus}
    (h : validateKey agent msg ignore key validater = .ok (.inl status)) : ¬ status.Accepted := by
  rw [validateKey] at h
  obtain ⟨lacks, -, h⟩ := bind_eq_ok.mp h
  split at h
  · obtain rfl := Sum.inl.inj (Except.ok.inj h)
    simp [StunValidationStatus.Accepted]
  obtain ⟨calls, -, h⟩ := bind_eq_ok.mp h
  split at h
  · obtain ⟨username, -, h⟩ := bind_eq_ok.mp h
    split at h
    · obtain rfl := Sum.inl.inj (Except.ok.inj h)
      simp [StunValidationStatus.Accepted]
    split at h
    · obtain rfl := Sum.inl.inj (Except.ok.inj h)
      simp [StunValidationStatus.Accepted]
    · cases Except.ok.inj h
  · cases Except.ok.inj h

/-- `stun_agent_validate` leaves the table alone unless it accepts a response or
an error message; then it releases the slot of the request that the message
answers. -/
lemma validate_spec {buffer : Bytes} {validater : Option StunMessageIntegrityValidate}
    {status : StunValidationStatus}
    (h : stunAgentValidate crypto agent msg buffer validater = .ok (status, msg', agent')) :
    (agent' = agent ∧ (status.Accepted →
      ∃ c, stunMessageGetClass msg' = .ok c ∧ c ≠ .response ∧ c ≠ .error)) ∨
    (status.Accepted ∧ status ≠ .unknownRequestAttribute ∧
      ∃ idx c, stunMessageGetClass msg' = .ok c ∧ (c = .response ∨ c = .error) ∧
        (agent.sentIds.get idx).valid = true ∧
        stunMessageId msg' = .ok (agent.sentIds.get idx).id ∧
        stunMessageGetMethod msg' = .ok (agent.sentIds.get idx).method ∧
        agent' = agent.release (.found idx)) := by
  rw [stunAgentValidate] at h
  obtain ⟨⟨msg₁, refused⟩, hdemux, h⟩ := bind_eq_ok.mp h
  rcases demux_spec hdemux with ⟨s, rfl, hs⟩ | ⟨rfl, -⟩
  · obtain ⟨rfl, hrest⟩ := Prod.mk.inj (Except.ok.inj h)
    obtain ⟨rfl, rfl⟩ := Prod.mk.inj hrest
    exact .inl ⟨rfl, fun hacc => absurd hacc hs⟩
  obtain ⟨slot, hslot, h⟩ := bind_eq_ok.mp h
  obtain ⟨c, hc, hcase⟩ := matchSentId_spec hslot
  by_cases hun : slot = .unmatched
  · rw [if_pos hun] at h
    obtain ⟨rfl, hrest⟩ := Prod.mk.inj (Except.ok.inj h)
    obtain ⟨rfl, rfl⟩ := Prod.mk.inj hrest
    exact .inl ⟨rfl, fun hacc => by simp [StunValidationStatus.Accepted] at hacc⟩
  rw [if_neg hun] at h
  obtain ⟨ignore, -, h⟩ := bind_eq_ok.mp h
  obtain ⟨key, hkey, h⟩ := bind_eq_ok.mp h
  cases key with
  | inl s =>
      obtain ⟨rfl, hrest⟩ := Prod.mk.inj (Except.ok.inj h)
      obtain ⟨rfl, rfl⟩ := Prod.mk.inj hrest
      exact .inl ⟨rfl, fun hacc => absurd hacc (validateKey_spec hkey)⟩
  | inr key =>
      obtain ⟨hbuf, hres⟩ := validateMessage_spec h
      have hclass : stunMessageGetClass msg' = .ok c := by
        rw [← hc]
        exact stunMessageGetClass_congr (by rw [hbuf])
      rcases hres with ⟨hno, rfl⟩ | ⟨hacc, rfl, hreq⟩
      · exact .inl ⟨rfl, fun hacc => absurd hacc hno⟩
      · rcases hcase with ⟨rfl, hresp, herr⟩ | ⟨hresp, rfl | ⟨idx, rfl, hv, hid, hm⟩⟩
        · exact .inl ⟨rfl, fun _ => ⟨c, hclass, hresp, herr⟩⟩
        · exact absurd rfl hun
        · refine .inr ⟨hacc, fun hs => ?_, idx, c, hclass, hresp, hv, ?_, ?_, rfl⟩
          · have hreq' := Except.ok.inj (hclass.symm.trans (hreq hs))
            rw [hreq'] at hresp
            simp at hresp
          · rw [← hid, stunMessageId, stunMessageId, hbuf]
          · rw [← hm, stunMessageGetMethod, stunMessageGetMethod, stunMessageType,
              stunMessageType, hbuf]

/-- `stun_agent_forget_transaction` releases a slot with the given id if there is
one in use. -/
lemma forget_spec {id : StunTransactionId} {found : Bool}
    (h : stunAgentForgetTransaction agent id = (agent', found)) :
    (found = false ∧ agent' = agent) ∨
    (found = true ∧ ∃ idx, (agent.sentIds.get idx).valid = true ∧
      (agent.sentIds.get idx).id = id ∧ agent' = agent.release (.found idx)) := by
  rw [stunAgentForgetTransaction] at h
  split at h
  next idx hfind =>
    obtain ⟨rfl, rfl⟩ := Prod.mk.inj h
    have hp := findFinIdx_some hfind
    simp only [Bool.and_eq_true, decide_eq_true_eq] at hp
    exact .inr ⟨rfl, idx, hp.1, hp.2, rfl⟩
  next =>
    obtain ⟨rfl, rfl⟩ := Prod.mk.inj h
    exact .inl ⟨rfl, rfl⟩

end Validate

/-! ### The outstanding transactions -/

/-- The transactions in the table of an agent. -/
def outstandingIds (agent : StunAgent) : Set (StunTransactionId × StunMethod) :=
  {p | ∃ idx, (agent.sentIds.get idx).valid = true ∧ (agent.sentIds.get idx).id = p.1 ∧
    (agent.sentIds.get idx).method = p.2}

/-- No two slots in use are for the same id. -/
def SlotsDistinct (agent : StunAgent) : Prop :=
  ∀ i j, (agent.sentIds.get i).valid = true → (agent.sentIds.get j).valid = true →
    (agent.sentIds.get i).id = (agent.sentIds.get j).id → i = j

lemma get_set {α : Type} {n : ℕ} (t : Vector α n) (i j : Fin n) (x : α) :
    (t.set i x i.isLt).get j = if i = j then x else t.get j := by
  change (t.set i x i.isLt)[j.1] = if i = j then x else t[j.1]
  rw [Vector.getElem_set]
  simp only [Fin.ext_iff]

section Table

variable {agent : StunAgent} {idx : Fin STUN_AGENT_MAX_SAVED_IDS} {slot : StunAgentSavedIds}

/-- A transaction that is put into a free slot is added to the others. -/
lemma outstandingIds_set (hfree : (agent.sentIds.get idx).valid = false)
    (hslot : slot.valid = true) :
    outstandingIds { agent with sentIds := agent.sentIds.set idx slot idx.isLt } =
      insert (slot.id, slot.method) (outstandingIds agent) := by
  ext p
  simp only [outstandingIds, Set.mem_ofPred_eq, Set.mem_insert_iff, get_set]
  constructor
  · rintro ⟨j, hv, hid, hm⟩
    split at hv
    next hj =>
      rw [if_pos hj] at hid hm
      exact .inl (Prod.ext hid.symm hm.symm)
    next hj =>
      rw [if_neg hj] at hid hm
      exact .inr ⟨j, hv, hid, hm⟩
  · rintro (rfl | ⟨j, hv, hid, hm⟩)
    · exact ⟨idx, by simpa using hslot⟩
    · have hj : idx ≠ j := by
        rintro rfl
        rw [hv] at hfree
        cases hfree
      exact ⟨j, by simpa [hj] using ⟨hv, hid, hm⟩⟩

lemma SlotsDistinct.set (h : SlotsDistinct agent)
    (hnew : ∀ p ∈ outstandingIds agent, p.1 ≠ slot.id) :
    SlotsDistinct { agent with sentIds := agent.sentIds.set idx slot idx.isLt } := by
  intro i j hi hj hij
  simp only [get_set] at hi hj hij
  by_cases hii : idx = i
  · by_cases hjj : idx = j
    · exact hii.symm.trans hjj
    · rw [if_pos hii, if_neg hjj] at hij
      rw [if_neg hjj] at hj
      exact absurd hij.symm (hnew ((agent.sentIds.get j).id, _) ⟨j, hj, rfl, rfl⟩)
  · rw [if_neg hii] at hi hij
    by_cases hjj : idx = j
    · rw [if_pos hjj] at hij
      exact absurd hij (hnew ((agent.sentIds.get i).id, _) ⟨i, hi, rfl, rfl⟩)
    · rw [if_neg hjj] at hj hij
      exact h i j hi hj hij

lemma release_get (j : Fin STUN_AGENT_MAX_SAVED_IDS) :
    ((agent.release (.found idx)).sentIds.get j) =
      if idx = j then { agent.sentIds.get idx with valid := false } else agent.sentIds.get j :=
  get_set _ _ _ _

/-- The transactions with the id of a released slot are gone. -/
lemma outstandingIds_release (h : SlotsDistinct agent)
    (hv : (agent.sentIds.get idx).valid = true) :
    outstandingIds (agent.release (.found idx)) =
      outstandingIds agent \ {p | p.1 = (agent.sentIds.get idx).id} := by
  ext p
  simp only [outstandingIds, Set.mem_ofPred_eq, Set.mem_sdiff, release_get]
  constructor
  · rintro ⟨j, hvj, hid, hm⟩
    split at hvj
    next => cases hvj
    next hj =>
      rw [if_neg hj] at hid hm
      exact ⟨⟨j, hvj, hid, hm⟩, fun hp => hj (h idx j hv hvj (hp.symm.trans hid.symm))⟩
  · rintro ⟨⟨j, hvj, hid, hm⟩, hp⟩
    have hj : idx ≠ j := by
      rintro rfl
      exact hp hid.symm
    exact ⟨j, by simpa [hj] using ⟨hvj, hid, hm⟩⟩

lemma SlotsDistinct.release (h : SlotsDistinct agent) :
    SlotsDistinct (agent.release (.found idx)) := by
  intro i j hi hj hij
  rw [release_get] at hi hj
  rw [release_get, release_get] at hij
  split at hi
  next => cases hi
  next hii =>
    split at hj
    next => cases hj
    next hjj =>
      rw [if_neg hii, if_neg hjj] at hij
      exact h i j hi hj hij

end Table

/-! ### Runs -/

/-- A call on an agent. -/
inductive Call where
  | finish (msg : StunMessage) (key : Option Bytes)
  | validate (msg : StunMessage) (buffer : Bytes)
      (validater : Option StunMessageIntegrityValidate)
  | forget (id : StunTransactionId)

/-- What a call comes to, as far as transactions go. -/
inductive Event where
  /-- A request was finished. -/
  | sent (id : StunTransactionId) (method : StunMethod)
  /-- A response or an error message was accepted. -/
  | answered (id : StunTransactionId) (method : StunMethod)
  /-- A transaction was forgotten. -/
  | forgotten (id : StunTransactionId)
  /-- `stun_agent_finish_message` returned 0. -/
  | dropped
  /-- `stun_agent_validate` did not end in `SUCCESS` or `UNKNOWN_ATTRIBUTE`. -/
  | refused
  /-- Another message was finished or accepted, or there was nothing to forget. -/
  | other
deriving DecidableEq

/-- A call on an agent, what it comes to, and the agent after it. -/
inductive Step (crypto : StunCrypto) : StunAgent → Call × Event → StunAgent → Prop
  | sent {agent agent' msg msg' key n id method} :
      stunAgentFinishMessage crypto agent msg key = .ok (n, msg', agent') → n ≠ 0 →
      stunMessageGetClass msg' = .ok .request → stunMessageId msg' = .ok id →
      stunMessageGetMethod msg' = .ok method →
      Step crypto agent (.finish msg key, .sent id method) agent'
  | finished {agent agent' msg msg' key n c} :
      stunAgentFinishMessage crypto agent msg key = .ok (n, msg', agent') → n ≠ 0 →
      stunMessageGetClass msg' = .ok c → c ≠ .request →
      Step crypto agent (.finish msg key, .other) agent'
  | dropped {agent agent' msg msg' key} :
      stunAgentFinishMessage crypto agent msg key = .ok (0, msg', agent') →
      Step crypto agent (.finish msg key, .dropped) agent'
  | answered {agent agent' msg msg' buffer validater status c id method} :
      stunAgentValidate crypto agent msg buffer validater = .ok (status, msg', agent') →
      status = .success ∨ status = .unknownAttribute →
      stunMessageGetClass msg' = .ok c → c = .response ∨ c = .error →
      stunMessageId msg' = .ok id → stunMessageGetMethod msg' = .ok method →
      Step crypto agent (.validate msg buffer validater, .answered id method) agent'
  | received {agent agent' msg msg' buffer validater status c} :
      stunAgentValidate crypto agent msg buffer validater = .ok (status, msg', agent') →
      status = .success ∨ status = .unknownAttribute →
      stunMessageGetClass msg' = .ok c → c ≠ .response → c ≠ .error →
      Step crypto agent (.validate msg buffer validater, .other) agent'
  | refused {agent agent' msg msg' buffer validater status} :
      stunAgentValidate crypto agent msg buffer validater = .ok (status, msg', agent') →
      status ≠ .success → status ≠ .unknownAttribute →
      Step crypto agent (.validate msg buffer validater, .refused) agent'
  | forgotten {agent agent' id} :
      stunAgentForgetTransaction agent id = (agent', true) →
      Step crypto agent (.forget id, .forgotten id) agent'
  | unknown {agent agent' id} :
      stunAgentForgetTransaction agent id = (agent', false) →
      Step crypto agent (.forget id, .other) agent'

/-- The calls that do not run into the wrapped length of a request. -/
def Call.Safe (agent : StunAgent) : Call → Prop
  | finish msg _ => ¬ LengthWraps agent msg
  | _ => True

/-- A step whose call does not run into the wrapped length of a request. -/
def SafeStep (crypto : StunCrypto) (agent : StunAgent) (l : Call × Event) (agent' : StunAgent) :
    Prop :=
  Step crypto agent l agent' ∧ l.1.Safe agent

/-- The entry of an event in the ledger of transactions. -/
def Event.entry : Event → Option (Entry (StunTransactionId × StunMethod))
  | sent id method => some (.opened (id, method))
  | answered id method => some (.closed {(id, method)})
  | forgotten id => some (.closed {p | p.1 = id})
  | _ => none

/-- The id of the request that an event is about to send. -/
def Event.sentId : Event → Option StunTransactionId
  | sent id _ => some id
  | _ => none

/-- What the table of an agent should hold after the events `es`. -/
def ledger (es : List Event) : Set (StunTransactionId × StunMethod) :=
  outstanding (es.filterMap Event.entry)

lemma ledger_snoc (es : List Event) (e : Event) :
    ledger (es ++ [e]) = match e.entry with
      | some x => x.apply (ledger es)
      | none => ledger es := by
  rw [ledger, List.filterMap_append]
  cases h : e.entry with
  | none => simp [ledger, h]
  | some x => simp [ledger, h]

section Runs

variable {crypto : StunCrypto} {agent agent' : StunAgent}

/-- The table of an agent agrees with the events so far. -/
structure Tracks (agent : StunAgent) (es : List Event) : Prop where
  table : outstandingIds agent = ledger es
  distinct : SlotsDistinct agent
  known : ∀ p ∈ ledger es, p.1 ∈ es.filterMap Event.sentId
  count : ∀ p, es.count (.answered p.1 p.2) + (ledger es).indicator 1 p ≤ es.count (.sent p.1 p.2)

/-- An event that changes neither the table nor the ledger. -/
lemma Tracks.quiet {es : List Event} {e : Event} (h : Tracks agent es) (he : e.entry = none) :
    Tracks agent (es ++ [e]) := by
  have hledger : ledger (es ++ [e]) = ledger es := by rw [ledger_snoc, he]
  refine ⟨hledger ▸ h.table, h.distinct, fun p hp => ?_, fun p => ?_⟩
  · rw [hledger] at hp
    rw [List.filterMap_append]
    exact List.mem_append_left _ (h.known p hp)
  · have := h.count p
    rw [hledger, List.count_append, List.count_append]
    cases e with
    | sent => cases he
    | answered => cases he
    | forgotten => cases he
    | dropped | refused | other => simpa using this

/-- A request with a new id is sent. -/
lemma Tracks.sent {es : List Event} {idx : Fin STUN_AGENT_MAX_SAVED_IDS}
    {slot : StunAgentSavedIds} (h : Tracks agent es)
    (hfree : (agent.sentIds.get idx).valid = false) (hslot : slot.valid = true)
    (hnew : slot.id ∉ es.filterMap Event.sentId) :
    Tracks { agent with sentIds := agent.sentIds.set idx slot idx.isLt }
      (es ++ [.sent slot.id slot.method]) := by
  have hledger : ledger (es ++ [.sent slot.id slot.method]) =
      insert (slot.id, slot.method) (ledger es) := ledger_snoc _ _
  have hout : (slot.id, slot.method) ∉ ledger es := fun hp => hnew (h.known _ hp)
  refine ⟨?_, h.distinct.set ?_, fun p hp => ?_, fun p => ?_⟩
  · rw [outstandingIds_set hfree hslot, hledger, h.table]
  · intro p hp hid
    rw [h.table] at hp
    exact hnew (hid ▸ h.known p hp)
  · rw [hledger] at hp
    rw [List.filterMap_append, List.mem_append]
    rcases hp with rfl | hp
    · exact .inr (by simp [Event.sentId])
    · exact .inl (h.known p hp)
  · have := h.count p
    rw [hledger, List.count_append, List.count_append]
    by_cases hp : p = (slot.id, slot.method)
    · subst hp
      simp only [Set.indicator_of_notMem hout, Set.indicator_of_mem (Set.mem_insert _ _)] at this ⊢
      simp
      omega
    · have hind : (insert (slot.id, slot.method) (ledger es)).indicator
          (1 : StunTransactionId × StunMethod → ℕ) p = (ledger es).indicator 1 p := by
        by_cases hm : p ∈ ledger es
        · rw [Set.indicator_of_mem (Set.mem_insert_of_mem _ hm), Set.indicator_of_mem hm]
        · rw [Set.indicator_of_notMem (by simp [hp, hm]), Set.indicator_of_notMem hm]
      simp only [hind, List.count_singleton, beq_iff_eq, reduceCtorEq, if_false]
      omega

/-- The slot of an outstanding request is released. -/
lemma Tracks.release {es : List Event} {e : Event} {idx : Fin STUN_AGENT_MAX_SAVED_IDS}
    (h : Tracks agent es) (hv : (agent.sentIds.get idx).valid = true)
    (he : e = .answered (agent.sentIds.get idx).id (agent.sentIds.get idx).method ∨
      e = .forgotten (agent.sentIds.get idx).id) :
    Tracks (agent.release (.found idx)) (es ++ [e]) := by
  have hin : ((agent.sentIds.get idx).id, (agent.sentIds.get idx).method) ∈ ledger es := by
    rw [← h.table]
    exact ⟨idx, hv, rfl, rfl⟩
  -- by distinctness, the only transaction with the id is the one of the slot
  have hsingle : ledger es \ {((agent.sentIds.get idx).id, (agent.sentIds.get idx).method)} =
      ledger es \ {p | p.1 = (agent.sentIds.get idx).id} := by
    ext p
    simp only [Set.mem_sdiff, Set.mem_singleton_iff, Set.mem_ofPred_eq, and_congr_right_iff]
    intro hp
    rw [← h.table] at hp
    obtain ⟨j, hvj, hid, hm⟩ := hp
    constructor
    · intro hne heq
      obtain rfl := h.distinct idx j hv hvj (heq.symm.trans hid.symm)
      exact hne (Prod.ext hid.symm hm.symm)
    · rintro hne rfl
      exact hne rfl
  have hledger : ledger (es ++ [e]) = ledger es \ {p | p.1 = (agent.sentIds.get idx).id} := by
    rcases he with rfl | rfl
    · rw [← hsingle]
      exact ledger_snoc _ _
    · exact ledger_snoc _ _
  have hsub : ledger (es ++ [e]) ⊆ ledger es := hledger ▸ Set.sdiff_subset
  refine ⟨?_, h.distinct.release, fun p hp => ?_, fun p => ?_⟩
  · rw [outstandingIds_release h.distinct hv, hledger, h.table]
  · rw [List.filterMap_append]
    exact List.mem_append_left _ (h.known p (hsub hp))
  · have hcount := h.count p
    have hle : (ledger (es ++ [e])).indicator (1 : StunTransactionId × StunMethod → ℕ) p ≤
        (ledger es).indicator 1 p :=
      Set.indicator_le_indicator_of_subset hsub (fun _ => Nat.zero_le _) p
    rw [List.count_append, List.count_append]
    rcases he with rfl | rfl
    · by_cases hp : p = ((agent.sentIds.get idx).id, (agent.sentIds.get idx).method)
      · subst hp
        have hout : ((agent.sentIds.get idx).id, (agent.sentIds.get idx).method) ∉
            ledger (es ++
              [.answered (agent.sentIds.get idx).id (agent.sentIds.get idx).method]) := by
          rw [hledger]
          exact fun hmem => hmem.2 rfl
        rw [Set.indicator_of_notMem hout]
        rw [Set.indicator_of_mem hin] at hcount
        simp at hcount ⊢
        omega
      · have hne : Event.answered (agent.sentIds.get idx).id (agent.sentIds.get idx).method ≠
            .answered p.1 p.2 := by
          intro heq
          rw [Event.answered.injEq] at heq
          exact hp (Prod.ext heq.1.symm heq.2.symm)
        simp only [List.count_singleton, beq_iff_eq, if_neg hne, reduceCtorEq, if_false]
        omega
    · simp only [List.count_singleton, beq_iff_eq, reduceCtorEq, if_false]
      omega

/-- The dropped and the refused calls leave the agent as it is. -/
lemma safeStep_frame {l : Call × Event} (h : SafeStep crypto agent l agent')
    (hl : l.2 = .dropped ∨ l.2 = .refused) : agent' = agent := by
  obtain ⟨hstep, hsafe⟩ := h
  cases hstep with
  | dropped hf =>
      rcases finish_spec hf with ⟨rfl, -⟩ | ⟨idx, slot, -, -, -, -, -, -, hwrap⟩
      · rfl
      · exact absurd (hwrap rfl) hsafe
  | refused hv hs hu =>
      rcases validate_spec hv with ⟨rfl, -⟩ | ⟨hacc, hreq, -⟩
      · rfl
      · rcases hacc with hacc | hacc | hacc
        · exact absurd hacc hs
        · exact absurd hacc hreq
        · exact absurd hacc hu
  | sent | finished | answered | received | forgotten | unknown => simp at hl

/-- One step keeps the table and the events in agreement. -/
lemma Tracks.step {es : List Event} {l : Call × Event} (h : Tracks agent es)
    (hstep : SafeStep crypto agent l agent')
    (hnew : ∀ id, l.2.sentId = some id → id ∉ es.filterMap Event.sentId) :
    Tracks agent' (es ++ [l.2]) := by
  obtain ⟨hs, hsafe⟩ := id hstep
  cases hs with
  | sent hf h0 hc hid hm =>
      rcases finish_spec hf with ⟨rfl, hother⟩ | ⟨idx, slot, -, hfree, hv, hid', hm', rfl, -⟩
      · obtain ⟨c, hc', hne⟩ := hother h0
        exact absurd (Except.ok.inj (hc'.symm.trans hc)) hne
      · obtain rfl := Except.ok.inj (hid'.symm.trans hid)
        obtain rfl := Except.ok.inj (hm'.symm.trans hm)
        exact h.sent hfree hv (hnew _ rfl)
  | finished hf h0 hc hne =>
      rcases finish_spec hf with ⟨rfl, -⟩ | ⟨idx, slot, hc', -⟩
      · exact h.quiet rfl
      · exact absurd (Except.ok.inj (hc.symm.trans hc')) hne
  | dropped hf =>
      obtain rfl := safeStep_frame hstep (.inl rfl)
      exact h.quiet rfl
  | answered hv hs hc hresp hid hm =>
      rcases validate_spec hv with ⟨rfl, hother⟩ | ⟨-, -, idx, c, -, -, hvalid, hid', hm', rfl⟩
      · obtain ⟨c', hc', hnr, hne⟩ := hother (by
          rcases hs with rfl | rfl
          · exact .inl rfl
          · exact .inr (.inr rfl))
        obtain rfl := Except.ok.inj (hc'.symm.trans hc)
        rcases hresp with hresp | hresp
        · exact absurd hresp hnr
        · exact absurd hresp hne
      · obtain rfl := Except.ok.inj (hid'.symm.trans hid)
        obtain rfl := Except.ok.inj (hm'.symm.trans hm)
        exact h.release hvalid (.inl rfl)
  | received hv hs hc hnr hne =>
      rcases validate_spec hv with ⟨rfl, -⟩ | ⟨-, -, idx, c, hc', hresp, -⟩
      · exact h.quiet rfl
      · obtain rfl := Except.ok.inj (hc'.symm.trans hc)
        rcases hresp with hresp | hresp
        · exact absurd hresp hnr
        · exact absurd hresp hne
  | refused hv hs hu =>
      obtain rfl := safeStep_frame hstep (.inr rfl)
      exact h.quiet rfl
  | forgotten hf =>
      rcases forget_spec hf with ⟨hfalse, -⟩ | ⟨-, idx, hvalid, rfl, rfl⟩
      · cases hfalse
      · exact h.release hvalid (.inr rfl)
  | unknown hf =>
      rcases forget_spec hf with ⟨-, rfl⟩ | ⟨htrue, -⟩
      · exact h.quiet rfl
      · cases htrue

/-- A fresh agent has no outstanding transaction. -/
lemma tracks_init (known : List StunAttribute) (compatibility : StunCompatibility)
    (flags : StunAgentUsageFlags) :
    Tracks (stunAgentInit agent known compatibility flags) [] := by
  have hfree (idx : Fin STUN_AGENT_MAX_SAVED_IDS) :
      ((stunAgentInit agent known compatibility flags).sentIds.get idx).valid = false := by
    change ((agent.sentIds.map fun s : StunAgentSavedIds =>
      { s with valid := false })[idx.1]).valid = false
    rw [Vector.getElem_map]
  refine ⟨?_, fun i j hi => ?_, fun p hp => absurd hp (Set.notMem_empty p), fun p => ?_⟩
  · ext p
    simp [outstandingIds, hfree, ledger]
  · rw [hfree] at hi
    cases hi
  · simp [ledger]

/-- The table of an agent agrees with the events of every run. -/
theorem run_tracks {known : List StunAttribute} {compatibility : StunCompatibility}
    {flags : StunAgentUsageFlags} {ls : List (Call × Event)}
    (h : Run (SafeStep crypto) (stunAgentInit agent known compatibility flags) ls agent')
    (hd : (ls.filterMap (·.2.sentId)).Nodup) : Tracks agent' (ls.map Prod.snd) := by
  induction h with
  | nil => exact tracks_init known compatibility flags
  | @snoc es t u e _ hs ih =>
      rw [List.filterMap_append] at hd
      have hsent : (es.map Prod.snd).filterMap Event.sentId = es.filterMap (·.2.sentId) := by
        rw [List.filterMap_map]
        rfl
      rw [List.map_append]
      refine (ih (List.nodup_append.mp hd).1).step hs fun id hid hmem => ?_
      rw [hsent] at hmem
      exact (List.nodup_append.mp hd).2.2 id hmem id (by simp [hid]) rfl

/-- What is in the ledger was sent, and neither answered nor forgotten since. -/
lemma mem_ledger {es : List Event} {id : StunTransactionId} {method : StunMethod}
    (h : (id, method) ∈ ledger es) :
    ∃ before after, es = before ++ .sent id method :: after ∧
      ∀ e ∈ after, e ≠ .answered id method ∧ e ≠ .forgotten id := by
  obtain ⟨pre, post, hes, hpost⟩ := mem_outstanding.mp h
  obtain ⟨es₁, es₂, rfl, rfl, hes₂⟩ := List.filterMap_eq_append_iff.mp hes
  obtain ⟨es₃, e, es₄, rfl, -, he, rfl⟩ := List.filterMap_eq_cons_iff.mp hes₂
  obtain rfl : e = .sent id method := by
    cases e with
    | sent i m => simpa [Event.entry] using he
    | answered | forgotten | dropped | refused | other => simp [Event.entry] at he
  refine ⟨es₁ ++ es₃, es₄, by simp, fun e he => ⟨?_, ?_⟩⟩
  · rintro rfl
    exact hpost {(id, method)} (List.mem_filterMap.mpr ⟨_, he, rfl⟩) rfl
  · rintro rfl
    exact hpost {p | p.1 = id} (List.mem_filterMap.mpr ⟨_, he, rfl⟩) rfl

/-- **The transaction table.**  In every run of a fresh agent in which requests
have distinct ids and no request with a free slot is 65536 bytes long, a response
or an error message is accepted only between the sending of a request with its id
and method and the acceptance or forgetting of that request, at most as often as
such requests were sent; and the calls that are dropped or refused leave the
outstanding transactions as they are. -/
theorem transactions_matched (crypto : StunCrypto) (agent agent' : StunAgent)
    (known : List StunAttribute) (compatibility : StunCompatibility) (flags : StunAgentUsageFlags)
    (ls : List (Call × Event))
    (h : Run (SafeStep crypto) (stunAgentInit agent known compatibility flags) ls agent')
    (hd : (ls.filterMap (·.2.sentId)).Nodup) :
    (∀ pre call id method post, ls = pre ++ (call, .answered id method) :: post →
      ∃ before call' after, pre = before ++ (call', .sent id method) :: after ∧
        ∀ l ∈ after, l.2 ≠ .answered id method ∧ l.2 ≠ .forgotten id) ∧
    (∀ id method, (ls.map Prod.snd).count (.answered id method) ≤
      (ls.map Prod.snd).count (.sent id method)) ∧
    (∀ a l a', SafeStep crypto a l a' → l.2 = .dropped ∨ l.2 = .refused →
      outstandingIds a' = outstandingIds a) := by
  refine ⟨?_, fun id method => ?_, fun a l a' hstep hl => by rw [safeStep_frame hstep hl]⟩
  · rintro pre call id method post rfl
    obtain ⟨t, t', hpre, hstep⟩ := h.split
    rw [List.filterMap_append] at hd
    have htracks := run_tracks hpre (List.nodup_append.mp hd).1
    have hout : (id, method) ∈ ledger (pre.map Prod.snd) := by
      rw [← htracks.table]
      obtain ⟨hs, -⟩ := hstep
      generalize hl : (call, Event.answered id method) = l at hs
      cases hs with
      | answered hv hacc hc hresp hid hm =>
          obtain ⟨-, hl⟩ := Prod.mk.inj hl
          obtain ⟨rfl, rfl⟩ := Event.answered.inj hl
          rcases validate_spec hv with ⟨rfl, hother⟩ | ⟨-, -, idx, c, -, -, hvalid, hid', hm', -⟩
          · obtain ⟨c', hc', hnr, hne⟩ := hother (by
              rcases hacc with rfl | rfl
              · exact .inl rfl
              · exact .inr (.inr rfl))
            obtain rfl := Except.ok.inj (hc'.symm.trans hc)
            rcases hresp with hresp | hresp
            · exact absurd hresp hnr
            · exact absurd hresp hne
          · exact ⟨idx, hvalid, Except.ok.inj (hid'.symm.trans hid),
              Except.ok.inj (hm'.symm.trans hm)⟩
      | sent | finished | dropped | received | refused | forgotten | unknown =>
          simp at hl
    obtain ⟨before, after, hmap, hafter⟩ := mem_ledger hout
    obtain ⟨ls₁, ls₂, rfl, rfl, hls₂⟩ := List.map_eq_append_iff.mp hmap
    obtain ⟨⟨call', e⟩, ls₃, rfl, he, rfl⟩ := List.map_eq_cons_iff.mp hls₂
    obtain rfl : e = .sent id method := he
    exact ⟨ls₁, call', ls₃, rfl, fun l hl => hafter l.2 (List.mem_map_of_mem hl)⟩
  · exact (Nat.le_add_right _ _).trans ((run_tracks h hd).count (id, method))

end Runs

/-! ### A finished request of 65536 bytes -/

/-- A request that nothing is added to is put into the table as it is. -/
lemma finish_plain {crypto : StunCrypto} {agent : StunAgent} {msg : StunMessage}
    {idx : Fin STUN_AGENT_MAX_SAVED_IDS} {id : StunTransactionId} {method : StunMethod}
    {len : UInt16} (hclass : stunMessageGetClass msg = .ok .request)
    (hfree : freeSentId agent .request = some idx) (hkey : msg.key = none)
    (hfpr : agent.fingerprinted = false) (hid : stunMessageId msg = .ok id)
    (hmethod : stunMessageGetMethod msg = .ok method) (hlen : stunMessageLength msg = .ok len) :
    stunAgentFinishMessage crypto agent msg none =
      .ok (len.toNat, { msg with key := none },
        { agent with
          sentIds := agent.sentIds.set idx
            { id, method
              key := none
              longTermKey := msg.longTermKey
              longTermValid := msg.longTermValid
              valid := true } idx.isLt }) := by
  have hlen' : stunMessageLength { msg with key := none } = .ok len := hlen
  rw [stunAgentFinishMessage, hclass]
  simp only [bind, Except.bind, hfree, hkey, Option.or, appendIntegrity, appendFingerprint,
    hfpr, Bool.false_eq_true, if_false, Bool.not_true, pure, Except.pure, saveTransaction, hclass,
    if_true, hid, hmethod]
  rw [hlen']

/-- An agent without credentials. -/
def plainAgent : StunAgent :=
  { compatibility := .rfc3489
    knownAttributes := []
    usageFlags := ⟨false, false, false, false, false, false, false, false⟩
    softwareAttribute := none
    sentIds := Vector.replicate _ ⟨[], 0, none, [], false, false⟩ }

/-- A Binding request whose length field is `l`, with the bytes `body` behind the
header. -/
def plainRequest (l : ℕ) (body : Bytes) : StunMessage :=
  { agent := none
    buffer := [0, 1] ++ be16 l ++ List.replicate 16 7 ++ body
    key := none
    longTermKey := []
    longTermValid := false }

lemma plainAgent_free : freeSentId plainAgent .request = some ⟨0, by decide⟩ := by
  rw [freeSentId, if_pos rfl]
  decide +kernel

/-- The request is finished and put into the table, whatever its length. -/
lemma finish_plainRequest (crypto : StunCrypto) (l : ℕ) (body : Bytes) :
    ∃ agent', stunAgentFinishMessage crypto plainAgent (plainRequest l body) none =
        .ok ((UInt16.ofNat l + 20).toNat, plainRequest l body, agent') ∧
      outstandingIds agent' = insert (List.replicate 16 7, 1) (outstandingIds plainAgent) := by
  have hid : stunMessageId (plainRequest l body) = .ok (List.replicate 16 7) := by
    rw [stunMessageId, readSlice_of_le (by
      simp [plainRequest, STUN_MESSAGE_TRANS_ID_POS, STUN_MESSAGE_TRANS_ID_LEN]; omega)]
    rfl
  have hlen : stunMessageLength (plainRequest l body) = .ok (UInt16.ofNat l + 20) := by
    have hword := @readWord_append [0, 1] (List.replicate 16 7 ++ body) 2 l rfl
    rw [stunMessageLength, stunGetw, STUN_MESSAGE_LENGTH_POS]
    simp only [plainRequest, List.append_assoc] at hword ⊢
    rw [hword]
    rfl
  refine ⟨_, finish_plain rfl plainAgent_free rfl rfl hid rfl hlen, ?_⟩
  exact outstandingIds_set (by decide +kernel) rfl

/-- A message of 65536 bytes, as `stun_message_append_bytes` builds it from a
value of 65512 bytes: `stun_agent_finish_message` returns 0 for it, and puts its
transaction into the table. -/
theorem finish_zero_saves :
    ∃ crypto agent msg msg' agent', Framed true msg.buffer 65536 ∧
      stunAgentFinishMessage crypto agent msg none = .ok (0, msg', agent') ∧
      outstandingIds agent' ≠ outstandingIds agent := by
  let crypto : StunCrypto :=
    ⟨fun _ _ => List.replicate 20 0, fun _ => List.replicate 16 0, fun _ _ => rfl, fun _ => rfl⟩
  let value : Attribute false :=
    ⟨0x8022, 65512, List.replicate 65512 0, List.length_replicate⟩
  obtain ⟨agent', hfin, hout⟩ := finish_plainRequest crypto 65516 (encodeAll [value])
  refine ⟨crypto, plainAgent, plainRequest 65516 (encodeAll [value]), _, agent', ?_, hfin, ?_⟩
  · have hlen : (plainRequest 65516 (encodeAll [value])).buffer.length = 65536 := by
      simp only [plainRequest, List.length_append, encodeAll_singleton, Tlv.encode_length,
        List.length_replicate, be16_length]
      decide +kernel
    refine ⟨by decide, by decide +kernel, hlen.ge, fun _ => by decide, [value], ?_⟩
    rw [List.take_of_length_le hlen.le]
    rfl
  · rw [hout]
    intro heq
    have hin : (List.replicate 16 7, (1 : StunMethod)) ∈ outstandingIds plainAgent :=
      heq ▸ Set.mem_insert _ _
    obtain ⟨idx, hv, -⟩ := hin
    have hfree : (plainAgent.sentIds.get idx).valid = false := by
      change ((Vector.replicate STUN_AGENT_MAX_SAVED_IDS
        (⟨[], 0, none, [], false, false⟩ : StunAgentSavedIds))[idx.1]).valid = false
      rw [Vector.getElem_replicate]
    rw [hfree] at hv
    cases hv

/-- A Binding request of 20 bytes is sent, and the response to it accepted. -/
theorem transactions_matched_sample :
    ∃ crypto ls agent', Run (SafeStep crypto)
        (stunAgentInit plainAgent [] .rfc3489 plainAgent.usageFlags) ls agent' ∧
      ls.map Prod.snd = [.sent (List.replicate 16 7) 1, .answered (List.replicate 16 7) 1] ∧
      (ls.map Prod.snd).count (.answered (List.replicate 16 7) 1) ≤
        (ls.map Prod.snd).count (.sent (List.replicate 16 7) 1) := by
  let crypto : StunCrypto :=
    ⟨fun _ _ => List.replicate 20 0, fun _ => List.replicate 16 0, fun _ _ => rfl, fun _ => rfl⟩
  let agent := stunAgentInit plainAgent [] .rfc3489 plainAgent.usageFlags
  let request := plainRequest 0 []
  let response : Bytes := [1, 1, 0, 0] ++ List.replicate 16 7
  have hfree : freeSentId agent .request = some ⟨0, by decide⟩ := by
    rw [freeSentId, if_pos rfl]
    decide +kernel
  have hfin := @finish_plain crypto agent request ⟨0, by decide⟩ (List.replicate 16 7) 1 20 rfl
    hfree rfl rfl rfl rfl rfl
  set agent₁ : StunAgent :=
    { agent with
      sentIds := agent.sentIds.set 0 ⟨List.replicate 16 7, 1, none, [], false, true⟩ } with hagent₁
  have hcheck : (match stunAgentValidate crypto agent₁ request response none with
      | .ok (status, msg, _) => decide (status = .success ∧
          stunMessageGetClass msg = .ok .response ∧
          stunMessageId msg = .ok (List.replicate 16 7) ∧ stunMessageGetMethod msg = .ok 1)
      | .error _ => false) = true := by decide +kernel
  split at hcheck
  case h_2 => cases hcheck
  case h_1 status msg agent₂ hval =>
    obtain ⟨hs, hc, hid, hm⟩ := of_decide_eq_true hcheck
    have hsafe : Call.Safe agent (.finish request none) := by
      rintro ⟨-, -, hlen⟩
      exact absurd hlen (by decide)
    have hrun₁ : Run (SafeStep crypto) agent _ agent₁ :=
      .snoc .nil ⟨.sent hfin (by decide) rfl rfl rfl, hsafe⟩
    have hrun : Run (SafeStep crypto) agent _ agent₂ :=
      .snoc hrun₁ ⟨.answered hval (.inl hs) hc (.inl rfl) hid hm, trivial⟩
    refine ⟨crypto, _, agent₂, hrun, rfl, ?_⟩
    exact (transactions_matched crypto plainAgent agent₂ [] .rfc3489 plainAgent.usageFlags _ hrun
      (by simp [Event.sentId])).2.1 _ _

end LibNice.Stun
