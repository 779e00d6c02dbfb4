import LibNice.Stun.Authentication
import LibNice.Socket.UdpTurn.BindingRuns

/-!
`socket/udp-turn.c`: `nice_udp_turn_socket_parse_recv` on the bytes of a packet.

* `readMessage`: what the accessors find in a message of the server.
* `recvLabel`: the label `recv`, at which ChannelData and all that is not
  understood are handed on.
* `dispatchPacket`: what comes before the label, `parseMessage` included.
* `niceUdpTurnSocketParseRecv`: both; a read of a byte that is not there is a
  fault.
* `parse_recv_inside`: **when the function stays inside the packet**.
-/

namespace LibNice.UdpTurn

open LibNice.Foundation LibNice.Stun LibNice.Ice

/-! ### The accessors -/

def STUN_ATTRIBUTE_MAGIC_COOKIE : StunAttribute := 0x000f
def STUN_ATTRIBUTE_REMOTE_ADDRESS : StunAttribute := 0x0012
def STUN_ATTRIBUTE_DATA : StunAttribute := 0x0013
def STUN_ATTRIBUTE_OPTIONS : StunAttribute := 0x8001

/-- `nice_address_set_from_sockaddr`, for the families that it knows. -/
def niceAddressSetFromSockaddr : Sockaddr → Option NiceAddress
  | .ip4 port addr => some { ip6 := false, ip := addr.toList, port := port.toNat, scopeId := 0 }
  | .ip6 port addr => some { ip6 := true, ip := addr.toList, port := port.toNat, scopeId := 0 }
  | .other => none

/-- The address in REMOTE-ADDRESS, or XOR-PEER-ADDRESS where there are channels. -/
def readRemoteAddress (compatibility : NiceTurnSocketCompatibility) (msg : StunMessage) :
    Except Fault (Option NiceAddress) := do
  if compatibility.hasChannels then
    match ← stunMessageFindXorAddr msg STUN_ATTRIBUTE_REMOTE_ADDRESS SIZEOF_SOCKADDR_STORAGE with
    | (.success, some addr) => return niceAddressSetFromSockaddr addr
    | _ => return none
  else
    match ← stunMessageFindAddr msg STUN_ATTRIBUTE_REMOTE_ADDRESS SIZEOF_SOCKADDR_STORAGE with
    | (.success, some addr, _) => return niceAddressSetFromSockaddr addr
    | _ => return none

/-- A number in an attribute. -/
def readWord32Attribute (msg : StunMessage) (type : StunAttribute) :
    Except Fault (Option UInt32) := do
  match ← stunMessageFind32 msg type with
  | (.success, value) => return value
  | _ => return none

/-- The code in ERROR-CODE. -/
def readErrorCode (msg : StunMessage) : Except Fault (Option ℕ) := do
  match ← stunMessageFindError msg with
  | (.success, code) => return some code
  | _ => return none

/-- What the accessors find in a message.  The source calls them where it needs
them; they all stay inside a message that has been validated (`readMessage_total`), so
it does not matter when. -/
def readMessage (compatibility : NiceTurnSocketCompatibility) (msg : StunMessage) :
    Except Fault ReceivedMessage := do
  let cls ← stunMessageGetClass msg
  let method ← stunMessageGetMethod msg
  let id ← stunMessageId msg
  let errorCode ← readErrorCode msg
  let realm ← attributeValue msg STUN_ATTRIBUTE_REALM
  let nonce ← attributeValue msg STUN_ATTRIBUTE_NONCE
  let magicCookie ← readWord32Attribute msg STUN_ATTRIBUTE_MAGIC_COOKIE
  let options ← readWord32Attribute msg STUN_ATTRIBUTE_OPTIONS
  let remoteAddress ← readRemoteAddress compatibility msg
  let data ← attributeValue msg STUN_ATTRIBUTE_DATA
  return { cls, method, id, errorCode, realm, nonce, magicCookie, options, remoteAddress, data }

/-! ### Parsing -/

/-- What `nice_udp_turn_socket_parse_recv` reports: whether it sets `from_sock` to
the socket, the sender, and the bytes that it stores. -/
structure Reported where
  fromSock : Bool
  sender : Option NiceAddress
  data : Bytes
deriving DecidableEq, Repr

/-- What is handed on. -/
def Reported.parsed (r : Reported) : Parsed := { sender := r.sender, data := r.data }

/-- Data that no binding claims. -/
def copyOut (buf : Bytes) (len recvLen : ℕ) (recvFrom : NiceAddress) : Except Fault Reported := do
  let data ← readSlice buf 0 (min len recvLen)
  return { fromSock := false, sender := some recvFrom, data }

/-- The label `recv`, with `recv_buf` at the start of `buf`. -/
def recvLabel (s : UdpTurnPriv) (len : ℕ) (buf : Bytes) (recvLen : ℕ) (recvFrom : NiceAddress) :
    Except Fault Reported :=
  match s.channels with
  | [] => copyOut buf len recvLen recvFrom
  | b :: _ =>
      if s.compatibility.hasChannels then do
        let number ← stunGetw buf 0
        match s.channels.find? fun b => b.channel = number with
        | some b => do
            let length ← stunGetw buf 2
            let data ← readSlice buf 4 (min len length.toNat)
            return { fromSock := true, sender := some b.peer, data }
        | none => copyOut buf len recvLen recvFrom
      else do
        let data ← readSlice buf 0 (min len recvLen)
        return { fromSock := true, sender := some b.peer, data }

/-- The messages that end at the label `recv`. -/
def fallsThrough (s : UdpTurnPriv) (msg : ReceivedMessage) : Bool :=
  (¬s.compatibility.hasChannels ∧ msg.magicCookie ≠ some TURN_MAGIC_COOKIE) ∨
    (msg.method ∉ [STUN_SEND, STUN_OLD_SET_ACTIVE_DST, STUN_CHANNELBIND, STUN_CREATEPERMISSION] ∧
      ¬(msg.cls = .indication ∧ msg.method = STUN_IND_DATA ∧ msg.remoteAddress.isSome ∧
        msg.data.isSome))

variable (env : Env) (crypto : StunCrypto) (msg₀ : StunMessage)

/-- The validation of `recvLen` bytes.  Where that is more than there are, the first
byte that is read is not there. -/
def validatePacket (agent : StunAgent) (buf : Bytes) (recvLen : ℕ) :
    Except Fault (StunValidationStatus × StunMessage × StunAgent) :=
  if recvLen ≤ buf.length then stunAgentValidate crypto agent msg₀ (buf.take recvLen) none
  else .error .outOfBounds

/-- The part of `nice_udp_turn_socket_parse_recv` before the label `recv`: what is
reported, or nothing where it comes to the label. -/
def dispatchPacket (s : UdpTurnPriv) (len : ℕ) (buf : Bytes) (recvLen : ℕ)
    (recvFrom : NiceAddress) : Except Fault (UdpTurnPriv × Option Reported) :=
  if recvFrom = s.serverAddr then do
    let (valid, msg, agent) ← validatePacket crypto msg₀ s.agent buf recvLen
    let s := { s with agent }
    if valid = .success then
      let msg ← readMessage s.compatibility msg
      if fallsThrough s msg then return (s, none)
      else
        let (s, parsed) := parseMessage env s msg len buf recvFrom
        return (s, some
          { fromSock := parsed.sender.isSome, sender := parsed.sender, data := parsed.data })
    else return (s, none)
  else return (s, none)

/-- `recv_len`, after the frame of a reliable socket has been taken off: a `size_t`. -/
def receivedLength (s : UdpTurnPriv) (recvLen : ℕ) : ℕ :=
  if s.baseReliable then (recvLen + 2 ^ 64 - 2) % 2 ^ 64 else recvLen

/-- `nice_udp_turn_socket_parse_recv` on a packet of `recvLen` bytes, where `recvBuf`
are the bytes from `_recv_buf` on that may be read, and `msg₀` is what is in the
local `msg` to begin with. -/
def niceUdpTurnSocketParseRecv (s : UdpTurnPriv) (len : ℕ) (recvFrom : NiceAddress)
    (mem : Bytes) (recvLen : ℕ) : Except Fault (UdpTurnPriv × Reported) := do
  let buf := recvBuf s mem
  let recvLen := receivedLength s recvLen
  match ← dispatchPacket env crypto msg₀ s len buf recvLen recvFrom with
  | (s, some reported) => return (s, reported)
  | (s, none) =>
      let reported ← recvLabel s len buf recvLen recvFrom
      return (s, reported)

/-! ### The accessors stay inside the message -/

section Accessors

variable {na : Bool} {msg : StunMessage} {rs : List (Attribute na)}

/-- What a lookup finds lies inside the message, behind its header. -/
lemma find_inside (h : Visible na msg rs) (type : StunAttribute) :
    ∃ r, stunMessageFind msg type = .ok r ∧
      ∀ ptr len, r = some (ptr, len) → 24 ≤ ptr ∧ ptr + len.toNat ≤ msg.buffer.length := by
  refine ⟨_, find_visible h type, fun ptr len hs => ?_⟩
  obtain ⟨r, -, -, rfl, hle, hfit, h24, -⟩ := scan_value h hs
  have hstep := le_attributeStep na r.len.toNat
  exact ⟨h24, by omega⟩

lemma readWord32Attribute_total (h : Visible na msg rs) (type : StunAttribute) :
    ∃ r, readWord32Attribute msg type = .ok r := by
  obtain ⟨r, hr, hin⟩ := find_inside h type
  rw [readWord32Attribute, stunMessageFind32, hr]
  cases r with
  | none => exact ⟨_, rfl⟩
  | some p =>
      obtain ⟨ptr, len⟩ := p
      obtain ⟨-, hfit⟩ := hin ptr len rfl
      simp only [bind, Except.bind]
      by_cases h4 : len = 4
      · have h4' : len.toNat = 4 := by rw [h4]; rfl
        rw [if_pos h4, readWord32_of_lt (show ptr + 3 < msg.buffer.length by omega)]
        exact ⟨_, rfl⟩
      · rw [if_neg h4]
        exact ⟨_, rfl⟩

lemma readErrorCode_total (h : Visible na msg rs) : ∃ r, readErrorCode msg = .ok r := by
  obtain ⟨⟨val, code⟩, hr⟩ := findError_total h
  rw [readErrorCode, hr]
  simp only [bind, Except.bind]
  cases val <;> exact ⟨_, rfl⟩

lemma findAddr_total (h : Visible na msg rs) (type : StunAttribute) (addrlen : ℕ) :
    ∃ r, stunMessageFindAddr msg type addrlen = .ok r := by
  obtain ⟨r, hr, hin⟩ := find_inside h type
  rw [stunMessageFindAddr, hr]
  cases r with
  | none => exact ⟨_, rfl⟩
  | some p =>
      obtain ⟨ptr, len⟩ := p
      obtain ⟨-, hfit⟩ := hin ptr len rfl
      simp only [bind, Except.bind]
      by_cases h4 : len < 4
      · rw [if_pos h4]
        exact ⟨_, rfl⟩
      · have h4' : 4 ≤ len.toNat := by simpa [UInt16.lt_iff_toNat_lt] using h4
        have hget : stunGetw msg.buffer (ptr + 2) = _ := readWord_of_lt (by omega)
        rw [if_neg h4, readByte_of_lt (show ptr + 1 < msg.buffer.length by omega)]
        simp only
        split
        · split
          · exact ⟨_, rfl⟩
          · next hno =>
              have hlen : len = 8 := by tauto
              have h8 : len.toNat = 8 := by rw [hlen]; rfl
              rw [hget]
              simp only [readVector, dif_pos (show ptr + 4 + 4 ≤ msg.buffer.length by omega)]
              exact ⟨_, rfl⟩
        · split
          · split
            · exact ⟨_, rfl⟩
            · next hno =>
                have hlen : len = 20 := by tauto
                have h20 : len.toNat = 20 := by rw [hlen]; rfl
                rw [hget]
                simp only [readVector, dif_pos (show ptr + 4 + 16 ≤ msg.buffer.length by omega)]
                exact ⟨_, rfl⟩
          · exact ⟨_, rfl⟩

lemma xorAddress_total (h : 20 ≤ msg.buffer.length) (addr : Sockaddr) (addrlen : ℕ)
    (cookie : UInt32) : ∃ r, stunXorAddress msg addr addrlen cookie = .ok r := by
  cases addr with
  | ip4 port a =>
      simp only [stunXorAddress]
      split <;> exact ⟨_, rfl⟩
  | ip6 port a =>
      simp only [stunXorAddress]
      split
      · exact ⟨_, rfl⟩
      · simp only [readVector, dif_pos (show 4 + 16 ≤ msg.buffer.length by omega)]
        exact ⟨_, rfl⟩
  | other => exact ⟨_, rfl⟩

lemma readRemoteAddress_total (h : Visible na msg rs) (h20 : 20 ≤ msg.buffer.length)
    (compatibility : NiceTurnSocketCompatibility) :
    ∃ r, readRemoteAddress compatibility msg = .ok r := by
  obtain ⟨⟨val, addr, addrlen⟩, hr⟩ :=
    findAddr_total h STUN_ATTRIBUTE_REMOTE_ADDRESS SIZEOF_SOCKADDR_STORAGE
  rw [readRemoteAddress]
  split
  · rw [stunMessageFindXorAddr, stunMessageFindXorAddrFull, hr]
    cases addr with
    | none => cases val <;> exact ⟨_, rfl⟩
    | some a =>
        obtain ⟨⟨val', a'⟩, hx⟩ := xorAddress_total h20 a addrlen STUN_MAGIC_COOKIE
        simp only [bind, Except.bind, hx]
        cases val' <;> exact ⟨_, rfl⟩
  · rw [hr]
    cases addr <;> cases val <;> exact ⟨_, rfl⟩

lemma attributeValue_inside (h : Visible na msg rs) (type : StunAttribute) :
    ∃ r, attributeValue msg type = .ok r ∧ ∀ v, r = some v → v <:+: msg.buffer.drop 20 := by
  obtain ⟨r, hr, hin⟩ := find_inside h type
  rw [attributeValue, hr]
  cases r with
  | none => exact ⟨none, rfl, by simp⟩
  | some p =>
      obtain ⟨ptr, len⟩ := p
      obtain ⟨h24, hfit⟩ := hin ptr len rfl
      simp only [bind, Except.bind, readSlice_of_le hfit]
      refine ⟨_, rfl, fun v hv => ?_⟩
      obtain rfl := Option.some.inj hv
      have hdrop : msg.buffer.drop ptr = (msg.buffer.drop 20).drop (ptr - 20) := by
        rw [List.drop_drop, Nat.add_sub_cancel' (by omega)]
      rw [hdrop]
      exact (List.take_prefix _ _).isInfix.trans (List.drop_suffix _ _).isInfix

/-- **The accessors stay inside a message that has been validated.** -/
theorem readMessage_total (h : Visible na msg rs) (h20 : 20 ≤ msg.buffer.length)
    (compatibility : NiceTurnSocketCompatibility) :
    ∃ m, readMessage compatibility msg = .ok m ∧
      ∀ v, m.data = some v → v <:+: msg.buffer.drop 20 := by
  obtain ⟨⟨cls, hcls⟩, ⟨method, hmethod⟩, ⟨id, hid⟩, -⟩ := header_total h20
  obtain ⟨errorCode, herror⟩ := readErrorCode_total h
  obtain ⟨realm, hrealm, -⟩ := attributeValue_inside h STUN_ATTRIBUTE_REALM
  obtain ⟨nonce, hnonce, -⟩ := attributeValue_inside h STUN_ATTRIBUTE_NONCE
  obtain ⟨cookie, hcookie⟩ := readWord32Attribute_total h STUN_ATTRIBUTE_MAGIC_COOKIE
  obtain ⟨options, hoptions⟩ := readWord32Attribute_total h STUN_ATTRIBUTE_OPTIONS
  obtain ⟨remote, hremote⟩ := readRemoteAddress_total h h20 compatibility
  obtain ⟨data, hdata, hin⟩ := attributeValue_inside h STUN_ATTRIBUTE_DATA
  simp only [readMessage, hcls, hmethod, hid, herror, hrealm, hnonce, hcookie, hoptions, hremote,
    hdata, bind, Except.bind]
  exact ⟨_, rfl, hin⟩

end Accessors

/-- A message that is valid has been framed. -/
lemma validate_success_visible {crypto : StunCrypto} {msg₀ msg : StunMessage}
    {agent agent' : StunAgent} {buffer : Bytes} {validater : Option StunMessageIntegrityValidate}
    (h : stunAgentValidate crypto agent msg₀ buffer validater = .ok (.success, msg, agent')) :
    msg.buffer = buffer ∧ 20 ≤ buffer.length ∧
      ∃ rs : List (Attribute agent.usageFlags.noAlignedAttributes),
        Visible agent.usageFlags.noAlignedAttributes msg rs := by
  rcases validate_reaches h with hno | ⟨m, slot, ignore, key, hreach, hval⟩
  · exact absurd (by simp [StunValidationStatus.Accepted]) hno
  · obtain ⟨rfl, h20, rs, hvis⟩ := hreach.visible
    rw [validateMessage] at hval
    obtain ⟨⟨m', passes⟩, hauth, hval⟩ := bind_eq_ok.mp hval
    obtain ⟨hbuf, hagent⟩ := authenticate_same hauth
    have hm : msg = m' := by
      cases passes with
      | false => simp [pure, Except.pure] at hval
      | true =>
          simp only [Bool.not_true, Bool.false_eq_true, if_false] at hval
          obtain ⟨unknowns, -, hval⟩ := bind_eq_ok.mp hval
          split at hval
          · obtain ⟨c, -, hval⟩ := bind_eq_ok.mp hval
            obtain ⟨-, hmm⟩ := Prod.mk.inj (Except.ok.inj hval)
            exact (Prod.mk.inj hmm).1.symm
          · obtain ⟨-, hmm⟩ := Prod.mk.inj (Except.ok.inj hval)
            exact (Prod.mk.inj hmm).1.symm
    subst hm
    exact ⟨hbuf, h20, rs, hvis.congr hagent hbuf⟩

/-! ### The label -/

/-- `k` bytes from `offset` on can be read. -/
def InRange (buf : Bytes) (offset k : ℕ) : Prop := k = 0 ∨ offset + k ≤ buf.length

/-- What is read at the label `recv` is there: the header where there are channels, and
the bytes that are handed on, as many as the length field of ChannelData says. -/
def LabelFits (s : UdpTurnPriv) (len : ℕ) (buf : Bytes) (recvLen : ℕ) : Prop :=
  if s.channels ≠ [] ∧ s.compatibility.hasChannels then
    2 ≤ buf.length ∧
      match s.channels.find? fun b => b.channel = ntohs buf with
      | some _ => 4 ≤ buf.length ∧ InRange buf 4 (min len (ntohs (buf.drop 2)).toNat)
      | none => InRange buf 0 (min len recvLen)
  else InRange buf 0 (min len recvLen)

lemma stunGetw_ntohs {buf : Bytes} {i : ℕ} (h : i + 2 ≤ buf.length) :
    stunGetw buf i = .ok (ntohs (buf.drop i)) := by
  rw [stunGetw, readWord_of_lt (by omega)]
  simp only [ntohs, word16, List.getD_eq_getElem?_getD, List.getElem?_drop, Nat.add_zero,
    List.getElem?_eq_getElem (show i < buf.length by omega),
    List.getElem?_eq_getElem (show i + 1 < buf.length by omega), Option.getD_some]

lemma readSlice_ok_iff {buf : Bytes} {offset k : ℕ} :
    (∃ v, readSlice buf offset k = .ok v) ↔ InRange buf offset k := by
  constructor
  · rintro ⟨v, hv⟩
    exact (readSlice_eq_ok.mp hv).1
  · exact fun h => ⟨_, readSlice_eq_ok.mpr ⟨h, rfl⟩⟩

section Label

variable {s : UdpTurnPriv} {len recvLen : ℕ} {buf : Bytes} {recvFrom : NiceAddress}

/-- What is handed on at the label `recv`: data that no binding claims, ChannelData of
a binding, or data for the only binding that there is. -/
inductive Labelled (s : UdpTurnPriv) (len : ℕ) (buf : Bytes) (recvLen : ℕ)
    (recvFrom : NiceAddress) : Reported → Prop
  | plain (hr : InRange buf 0 (min len recvLen))
      (hno : s.channels ≠ [] → s.compatibility.hasChannels →
        s.channels.find? (fun b => b.channel = ntohs buf) = none) :
      Labelled s len buf recvLen recvFrom
        { fromSock := false, sender := some recvFrom, data := buf.take (min len recvLen) }
  | channel (b : ChannelBinding) (hs : s.compatibility.hasChannels)
      (hf : s.channels.find? (fun b => b.channel = ntohs buf) = some b) (h4 : 4 ≤ buf.length)
      (hr : InRange buf 4 (min len (ntohs (buf.drop 2)).toNat)) :
      Labelled s len buf recvLen recvFrom
        { fromSock := true, sender := some b.peer
          data := (buf.drop 4).take (min len (ntohs (buf.drop 2)).toNat) }
  | only (b : ChannelBinding) (hs : ¬s.compatibility.hasChannels)
      (hr : InRange buf 0 (min len recvLen)) :
      Labelled s len buf recvLen recvFrom
        { fromSock := true, sender := some b.peer, data := buf.take (min len recvLen) }

lemma copyOut_spec {r : Reported} (h : copyOut buf len recvLen recvFrom = .ok r) :
    InRange buf 0 (min len recvLen) ∧
      r = { fromSock := false, sender := some recvFrom, data := buf.take (min len recvLen) } := by
  obtain ⟨data, hdata, hr⟩ := bind_eq_ok.mp h
  obtain ⟨hin, rfl⟩ := readSlice_eq_ok.mp hdata
  exact ⟨hin, (Except.ok.inj hr).symm⟩

/-- **What is reported at the label.** -/
theorem labelled_recvLabel {r : Reported} (h : recvLabel s len buf recvLen recvFrom = .ok r) :
    Labelled s len buf recvLen recvFrom r := by
  simp only [recvLabel] at h
  cases hc : s.channels with
  | nil =>
      rw [hc] at h
      obtain ⟨hin, rfl⟩ := copyOut_spec h
      exact .plain hin fun hne => absurd hc hne
  | cons b rest =>
      rw [hc] at h
      simp only at h
      rw [← hc] at h
      by_cases hs : s.compatibility.hasChannels
      · rw [if_pos hs] at h
        obtain ⟨number, hnumber, h⟩ := bind_eq_ok.mp h
        have h2 : 2 ≤ buf.length := by
          by_contra hlt
          rw [stunGetw, readWord_error (by omega)] at hnumber
          cases hnumber
        rw [stunGetw_ntohs (by omega), List.drop_zero] at hnumber
        obtain rfl := Except.ok.inj hnumber
        cases hf : s.channels.find? fun b => b.channel = ntohs buf with
        | none =>
            rw [hf] at h
            obtain ⟨hin, rfl⟩ := copyOut_spec h
            exact .plain hin fun _ _ => hf
        | some b =>
            rw [hf] at h
            obtain ⟨length, hlength, h⟩ := bind_eq_ok.mp h
            have h4 : 4 ≤ buf.length := by
              by_contra hlt
              rw [stunGetw, readWord_error (by omega)] at hlength
              cases hlength
            rw [stunGetw_ntohs (by omega)] at hlength
            obtain rfl := Except.ok.inj hlength
            obtain ⟨data, hdata, hr⟩ := bind_eq_ok.mp h
            obtain ⟨hin, rfl⟩ := readSlice_eq_ok.mp hdata
            obtain rfl := Except.ok.inj hr
            exact .channel b hs hf h4 hin
      · rw [if_neg hs] at h
        obtain ⟨data, hdata, hr⟩ := bind_eq_ok.mp h
        obtain ⟨hin, rfl⟩ := readSlice_eq_ok.mp hdata
        obtain rfl := Except.ok.inj hr
        exact .only b hs hin

/-- **The label stays inside the buffer** exactly when what it reads is there. -/
theorem recvLabel_ok_iff :
    (∃ r, recvLabel s len buf recvLen recvFrom = .ok r) ↔ LabelFits s len buf recvLen := by
  have hcopy : (∃ r, copyOut buf len recvLen recvFrom = .ok r) ↔
      InRange buf 0 (min len recvLen) := by
    constructor
    · rintro ⟨r, hr⟩
      exact (copyOut_spec hr).1
    · intro hin
      obtain ⟨v, hv⟩ := readSlice_ok_iff.mpr hin
      rw [copyOut, hv]
      exact ⟨_, rfl⟩
  simp only [LabelFits, recvLabel]
  cases hc : s.channels with
  | nil => simpa using hcopy
  | cons b rest =>
      simp only [ne_eq, reduceCtorEq, not_false_eq_true, true_and]
      rw [← hc]
      by_cases hs : s.compatibility.hasChannels
      · simp only [if_pos hs]
        by_cases h2 : 2 ≤ buf.length
        · rw [stunGetw_ntohs (by omega), List.drop_zero]
          simp only [bind, Except.bind, h2, true_and]
          cases s.channels.find? fun b => b.channel = ntohs buf with
          | none => exact hcopy
          | some b =>
              simp only
              by_cases h4 : 4 ≤ buf.length
              · rw [stunGetw_ntohs (by omega), ← readSlice_ok_iff]
                simp only [h4, true_and]
                cases readSlice buf 4 (min len (ntohs (buf.drop 2)).toNat) with
                | error e => simp
                | ok v => simp [pure, Except.pure]
              · rw [stunGetw, readWord_error (by omega)]
                simp [h4]
        · rw [stunGetw, readWord_error (by omega)]
          simp [h2, bind, Except.bind]
      · simp only [if_neg hs]
        rw [← readSlice_ok_iff]
        cases readSlice buf 0 (min len recvLen) with
        | error e => simp [bind, Except.bind]
        | ok v => simp [bind, Except.bind, pure, Except.pure]

end Label

/-! ### The message -/

section Message

variable {env : Env} {crypto : StunCrypto} {msg₀ : StunMessage} {s t : UdpTurnPriv}
  {len recvLen : ℕ} {buf : Bytes} {recvFrom : NiceAddress}

/-- A packet that comes to the label `recv`: it is not from the server, or it is not a
message that the agent takes, or a message that falls through. -/
def ReachesLabel (crypto : StunCrypto) (msg₀ : StunMessage) (s : UdpTurnPriv) (buf : Bytes)
    (recvLen : ℕ) (recvFrom : NiceAddress) : Prop :=
  recvFrom = s.serverAddr → ∀ msg agent m,
    validatePacket crypto msg₀ s.agent buf recvLen = .ok (.success, msg, agent) →
    readMessage s.compatibility msg = .ok m → fallsThrough s m

/-- A Data indication that is handed on, with what it holds. -/
structure DataIndication (s : UdpTurnPriv) (m : ReceivedMessage) (peer : NiceAddress)
    (data : Bytes) : Prop where
  cls : m.cls = .indication
  method : m.method = STUN_IND_DATA
  sender : m.remoteAddress.map unscoped = some peer
  data : m.data = some data
  cookie : ¬s.compatibility.hasChannels → m.magicCookie = some TURN_MAGIC_COOKIE

/-- A message that does not fall through is swallowed, or is a Data indication. -/
lemma parseMessage_parsed {m : ReceivedMessage} (hf : ¬fallsThrough s m) :
    (parseMessage env s m len buf recvFrom).2 = .nothing ∨
      ∃ peer data, DataIndication s m peer data ∧
        (parseMessage env s m len buf recvFrom).2 =
          { sender := some peer, data := data.take len } := by
  simp only [fallsThrough, decide_eq_true_eq, not_or] at hf
  obtain ⟨hcookie, hrest⟩ := hf
  rw [parseMessage, if_neg hcookie]
  by_cases h4 : m.method = STUN_SEND
  · exact .inl (by rw [if_pos h4])
  by_cases h6 : m.method = STUN_OLD_SET_ACTIVE_DST
  · exact .inl (by rw [if_neg h4, if_pos h6])
  by_cases h9 : m.method = STUN_CHANNELBIND
  · exact .inl (by rw [if_neg h4, if_neg h6, if_pos h9])
  by_cases h8 : m.method = STUN_CREATEPERMISSION
  · exact .inl (by rw [if_neg h4, if_neg h6, if_neg h9, if_pos h8])
  have hind : m.cls = .indication ∧ m.method = STUN_IND_DATA ∧ m.remoteAddress.isSome ∧
      m.data.isSome := by
    by_contra hno
    exact hrest ⟨by simp [h4, h6, h9, h8], hno⟩
  obtain ⟨hcls, h7, haddr, hdata⟩ := hind
  obtain ⟨a, ha⟩ := Option.isSome_iff_exists.mp haddr
  obtain ⟨data, hdata⟩ := Option.isSome_iff_exists.mp hdata
  refine .inr ⟨unscoped a, data, ⟨hcls, h7, by rw [ha]; rfl, hdata, ?_⟩, ?_⟩
  · intro hs
    by_contra hno
    exact hcookie ⟨hs, hno⟩
  · rw [if_neg h4, if_neg h6, if_neg h9, if_neg h8, if_pos ⟨hcls, h7⟩, parseIndData, ha, hdata]

/-- What comes of the part before the label. -/
inductive Dispatched (crypto : StunCrypto) (msg₀ : StunMessage) (s : UdpTurnPriv) (len : ℕ)
    (buf : Bytes) (recvLen : ℕ) (recvFrom : NiceAddress) : Option Reported → Prop
  | label (h : ReachesLabel crypto msg₀ s buf recvLen recvFrom) :
      Dispatched crypto msg₀ s len buf recvLen recvFrom none
  | swallowed (h : ¬ReachesLabel crypto msg₀ s buf recvLen recvFrom) :
      Dispatched crypto msg₀ s len buf recvLen recvFrom
        (some { fromSock := false, sender := none, data := [] })
  | indication (msg : StunMessage) (agent : StunAgent) (m : ReceivedMessage)
      (peer : NiceAddress) (data : Bytes)
      (h : ¬ReachesLabel crypto msg₀ s buf recvLen recvFrom)
      (hfrom : recvFrom = s.serverAddr)
      (hval : validatePacket crypto msg₀ s.agent buf recvLen = .ok (.success, msg, agent))
      (hread : readMessage s.compatibility msg = .ok m)
      (hind : DataIndication s m peer data) (hin : data <:+: (buf.take recvLen).drop 20) :
      Dispatched crypto msg₀ s len buf recvLen recvFrom
        (some { fromSock := true, sender := some peer, data := data.take len })

lemma validatePacket_ok {agent : StunAgent}
    {r : StunValidationStatus × StunMessage × StunAgent}
    (h : validatePacket crypto msg₀ agent buf recvLen = .ok r) :
    recvLen ≤ buf.length ∧
      stunAgentValidate crypto agent msg₀ (buf.take recvLen) none = .ok r := by
  rw [validatePacket] at h
  by_cases hle : recvLen ≤ buf.length
  · exact ⟨hle, by rwa [if_pos hle] at h⟩
  · rw [if_neg hle] at h
    cases h

/-- A message that is taken can be read. -/
lemma readMessage_validated {agent agent' : StunAgent} {msg : StunMessage}
    (h : validatePacket crypto msg₀ agent buf recvLen = .ok (.success, msg, agent'))
    (compatibility : NiceTurnSocketCompatibility) :
    ∃ m, readMessage compatibility msg = .ok m ∧
      ∀ v, m.data = some v → v <:+: (buf.take recvLen).drop 20 := by
  obtain ⟨-, hval⟩ := validatePacket_ok h
  obtain ⟨hbuf, h20, rs, hvis⟩ := validate_success_visible hval
  obtain ⟨m, hm, hin⟩ := readMessage_total hvis (hbuf ▸ h20) compatibility
  exact ⟨m, hm, fun v hv => hbuf ▸ hin v hv⟩

/-- **What comes of the part before the label.** -/
theorem dispatched_dispatchPacket {o : Option Reported}
    (h : dispatchPacket env crypto msg₀ s len buf recvLen recvFrom = .ok (t, o)) :
    Dispatched crypto msg₀ s len buf recvLen recvFrom o ∧
      (o = none → t.channels = s.channels ∧ t.compatibility = s.compatibility) := by
  rw [dispatchPacket] at h
  by_cases hfrom : recvFrom = s.serverAddr
  · rw [if_pos hfrom] at h
    obtain ⟨⟨valid, msg, agent⟩, hval, h⟩ := bind_eq_ok.mp h
    simp only at h
    by_cases hsucc : valid = .success
    · subst hsucc
      rw [if_pos rfl] at h
      obtain ⟨m, hread, h⟩ := bind_eq_ok.mp h
      obtain ⟨m', hread', hin⟩ := readMessage_validated hval s.compatibility
      obtain rfl : m' = m := Except.ok.inj (hread'.symm.trans hread)
      have hfall : fallsThrough { s with agent } m' = fallsThrough s m' := rfl
      rw [hfall] at h
      by_cases hf : fallsThrough s m'
      · rw [if_pos hf] at h
        obtain ⟨rfl, rfl⟩ := Prod.mk.inj (Except.ok.inj h)
        refine ⟨.label fun _ msg₁ agent₁ m₁ hval₁ hread₁ => ?_, fun _ => ⟨rfl, rfl⟩⟩
        obtain ⟨-, h₁⟩ := Prod.mk.inj (Except.ok.inj (hval₁.symm.trans hval))
        obtain ⟨rfl, rfl⟩ := Prod.mk.inj h₁
        obtain rfl := Except.ok.inj (hread₁.symm.trans hread)
        exact hf
      · rw [if_neg hf] at h
        have hlabel : ¬ReachesLabel crypto msg₀ s buf recvLen recvFrom :=
          fun hl => hf (hl hfrom _ _ _ hval hread)
        obtain ⟨rfl, rfl⟩ := Prod.mk.inj (Except.ok.inj h)
        refine ⟨?_, nofun⟩
        rcases @parseMessage_parsed env { s with agent } len buf recvFrom m' hf with
          hno | ⟨peer, data, hind, hp⟩
        · rw [hno]
          exact .swallowed hlabel
        · rw [hp]
          exact .indication msg agent m' peer data hlabel hfrom hval hread
            ⟨hind.cls, hind.method, hind.sender, hind.data, hind.cookie⟩ (hin data hind.data)
    · rw [if_neg hsucc] at h
      obtain ⟨rfl, rfl⟩ := Prod.mk.inj (Except.ok.inj h)
      refine ⟨.label fun _ msg₁ agent₁ m₁ hval₁ _ => ?_, fun _ => ⟨rfl, rfl⟩⟩
      obtain ⟨hv, -⟩ := Prod.mk.inj (Except.ok.inj (hval₁.symm.trans hval))
      exact absurd hv.symm hsucc
  · rw [if_neg hfrom] at h
    obtain ⟨rfl, rfl⟩ := Prod.mk.inj (Except.ok.inj h)
    exact ⟨.label fun hs => absurd hs hfrom, fun _ => ⟨rfl, rfl⟩⟩

/-- The part before the label has a result exactly when the validation has one. -/
lemma dispatchPacket_ok_iff :
    (∃ r, dispatchPacket env crypto msg₀ s len buf recvLen recvFrom = .ok r) ↔
      (recvFrom = s.serverAddr →
        ∃ r, validatePacket crypto msg₀ s.agent buf recvLen = .ok r) := by
  rw [dispatchPacket]
  by_cases hfrom : recvFrom = s.serverAddr
  · rw [if_pos hfrom]
    constructor
    · rintro ⟨r, h⟩ -
      obtain ⟨v, hv, -⟩ := bind_eq_ok.mp h
      exact ⟨v, hv⟩
    · intro h
      obtain ⟨⟨valid, msg, agent⟩, hval⟩ := h hfrom
      rw [hval]
      simp only [bind, Except.bind]
      by_cases hsucc : valid = .success
      · subst hsucc
        obtain ⟨m, hread, -⟩ := readMessage_validated hval s.compatibility
        simp only [if_true, hread]
        split
        · exact ⟨_, rfl⟩
        · exact ⟨_, rfl⟩
      · rw [if_neg hsucc]
        exact ⟨_, rfl⟩
  · rw [if_neg hfrom]
    simp [hfrom, pure, Except.pure]

end Message

/-! ### The whole function -/

/-- The integrity check of a message stays inside its bytes. -/
def IntegrityFits (agent : StunAgent) (msg : StunMessage) (buffer : Bytes) : Prop :=
  ∀ slot key ptr len,
    Reaches agent msg buffer none (receivedMessage agent msg buffer) slot false (some key) →
    key ≠ [] →
    stunMessageFind (receivedMessage agent msg buffer) STUN_ATTRIBUTE_MESSAGE_INTEGRITY =
      .ok (some (ptr, len)) →
    CheckFits agent.toStunAgentConfig (receivedMessage agent msg buffer) key
      (agent.savedLongTermKey slot) ptr

/-- What the function reads of a packet is there: for a packet of the server the header
of the frame and what the integrity check reads, and at the label what is read
there. -/
structure PacketFits (crypto : StunCrypto) (msg₀ : StunMessage) (s : UdpTurnPriv) (len : ℕ)
    (recvFrom : NiceAddress) (packet : Bytes) : Prop where
  frame : recvFrom = s.serverAddr → s.baseReliable → 2 ≤ packet.length
  integrity : recvFrom = s.serverAddr → IntegrityFits s.agent msg₀ (recvBuf s packet)
  label :
    ReachesLabel crypto msg₀ s (recvBuf s packet) (receivedLength s packet.length) recvFrom →
      LabelFits s len (recvBuf s packet) (receivedLength s packet.length)

/-- The bytes that can be payload: behind the header of ChannelData, or all. -/
def payloads (s : UdpTurnPriv) (buf : Bytes) : Bytes :=
  if s.compatibility.hasChannels ∧ s.channels.any fun b => b.channel = ntohs buf then buf.drop 4
  else buf

section Packets

variable {env : Env} {crypto : StunCrypto} {msg₀ : StunMessage} {s : UdpTurnPriv} {len : ℕ}
  {recvFrom : NiceAddress} {packet : Bytes}

/-- The length that is gone on with is that of the bytes, save where the frame has only
one byte. -/
lemma receivedLength_le_iff (h1 : 1 ≤ packet.length) (hsz : packet.length < 2 ^ 64) :
    receivedLength s packet.length ≤ (recvBuf s packet).length ↔
      (s.baseReliable → 2 ≤ packet.length) := by
  cases hr : s.baseReliable <;> simp only [receivedLength, recvBuf, hr, if_true, if_false,
    Bool.false_eq_true, List.length_drop, forall_const, le_refl, IsEmpty.forall_iff]
  omega

lemma take_receivedLength (hsz : packet.length < 2 ^ 64)
    (h2 : s.baseReliable → 2 ≤ packet.length) :
    (recvBuf s packet).take (receivedLength s packet.length) = recvBuf s packet := by
  refine List.take_of_length_le ?_
  cases hr : s.baseReliable
  · simp [receivedLength, recvBuf, hr]
  · have h2 := h2 hr
    simp only [receivedLength, recvBuf, hr, if_true, List.length_drop]
    omega

/-- The validation stays inside the packet. -/
lemma validatePacket_ok_iff (h1 : 1 ≤ packet.length) (hsz : packet.length < 2 ^ 64) :
    (∃ r, validatePacket crypto msg₀ s.agent (recvBuf s packet)
        (receivedLength s packet.length) = .ok r) ↔
      (s.baseReliable → 2 ≤ packet.length) ∧
        IntegrityFits s.agent msg₀ (recvBuf s packet) := by
  rw [validatePacket]
  by_cases h2 : s.baseReliable → 2 ≤ packet.length
  · rw [if_pos ((receivedLength_le_iff h1 hsz).mpr h2), take_receivedLength hsz h2,
      validate_ok_iff]
    exact (and_iff_right h2).symm
  · rw [if_neg fun hle => h2 ((receivedLength_le_iff h1 hsz).mp hle)]
    simp [h2]

/-- What is handed on at the label is payload. -/
lemma Labelled.payload {recvLen : ℕ} {buf : Bytes} {r : Reported}
    (h : Labelled s len buf recvLen recvFrom r) : r.data <:+: payloads s buf := by
  cases h with
  | plain hr hno =>
      have hall : payloads s buf = buf := by
        rw [payloads]
        by_cases hs : s.compatibility.hasChannels ∧ s.channels.any fun b => b.channel = ntohs buf
        · obtain ⟨hs, hany⟩ := hs
          obtain ⟨b, hb, hnum⟩ := List.any_eq_true.mp hany
          have hne := List.ne_nil_of_mem hb
          exact absurd hnum (List.find?_eq_none.mp (hno hne hs) b hb)
        · rw [if_neg hs]
      rw [hall]
      exact (List.take_prefix _ _).isInfix
  | channel b hs hf h4 hr =>
      have hany : s.channels.any fun b => b.channel = ntohs buf :=
        List.any_eq_true.mpr ⟨b, List.mem_of_find?_eq_some hf, by simpa using List.find?_some hf⟩
      rw [payloads, if_pos ⟨hs, hany⟩]
      exact (List.take_prefix _ _).isInfix
  | only b hs hr =>
      rw [payloads, if_neg fun h => hs h.1]
      exact (List.take_prefix _ _).isInfix

/-- What the part before the label hands on is payload. -/
lemma Dispatched.payload {recvLen : ℕ} {buf : Bytes} {r : Reported}
    (h : Dispatched crypto msg₀ s len buf recvLen recvFrom (some r)) :
    r.data <:+: payloads s buf := by
  cases h with
  | swallowed h => exact List.nil_infix
  | indication msg agent m peer data hl hfrom hval hread hind hin =>
      refine ((List.take_prefix len data).isInfix.trans hin).trans ?_
      refine ((List.take_prefix recvLen buf).drop 20).isInfix.trans ?_
      rw [payloads]
      split
      · have h20 : buf.drop 20 = (buf.drop 4).drop 16 := by rw [List.drop_drop]
        rw [h20]
        exact (List.drop_suffix _ _).isInfix
      · exact (List.drop_suffix _ _).isInfix

/-- **The function stays inside the packet**, and what it hands on is payload of the
packet, exactly when what it reads is there. -/
theorem parse_recv_inside (env : Env) (crypto : StunCrypto) (msg₀ : StunMessage)
    (s : UdpTurnPriv) (len : ℕ) (recvFrom : NiceAddress) (packet : Bytes)
    (h1 : 1 ≤ packet.length) (hsz : packet.length < 2 ^ 64) :
    (∃ t r, niceUdpTurnSocketParseRecv env crypto msg₀ s len recvFrom packet packet.length =
        .ok (t, r) ∧ r.data <:+: payloads s (recvBuf s packet)) ↔
      PacketFits crypto msg₀ s len recvFrom packet := by
  have hlabel : ∀ t : UdpTurnPriv, t.channels = s.channels ∧ t.compatibility = s.compatibility →
      ∀ buf recvLen, LabelFits t len buf recvLen = LabelFits s len buf recvLen := by
    rintro t ⟨hc, hs⟩ buf recvLen
    simp only [LabelFits, hc, hs]
  constructor
  · rintro ⟨t, r, h, -⟩
    rw [niceUdpTurnSocketParseRecv] at h
    obtain ⟨⟨u, o⟩, hdisp, h⟩ := bind_eq_ok.mp h
    have hval := fun hfrom => (validatePacket_ok_iff h1 hsz).mp
      (dispatchPacket_ok_iff.mp ⟨_, hdisp⟩ hfrom)
    obtain ⟨hd, hsame⟩ := dispatched_dispatchPacket hdisp
    refine ⟨fun hfrom => (hval hfrom).1, fun hfrom => (hval hfrom).2, fun hl => ?_⟩
    cases hd with
    | label _ =>
        obtain ⟨r', hr, -⟩ := bind_eq_ok.mp h
        rw [← hlabel u (hsame rfl)]
        exact recvLabel_ok_iff.mp ⟨r', hr⟩
    | swallowed hno => exact absurd hl hno
    | indication _ _ _ _ _ hno => exact absurd hl hno
  · rintro ⟨hframe, hint, hfits⟩
    obtain ⟨⟨u, o⟩, hdisp⟩ := (@dispatchPacket_ok_iff env crypto msg₀ s len
        (receivedLength s packet.length) (recvBuf s packet) recvFrom).mpr fun hfrom =>
      (validatePacket_ok_iff h1 hsz).mpr ⟨hframe hfrom, hint hfrom⟩
    obtain ⟨hd, hsame⟩ := dispatched_dispatchPacket hdisp
    rw [niceUdpTurnSocketParseRecv, hdisp]
    simp only [bind, Except.bind]
    cases o with
    | some r => exact ⟨u, r, rfl, hd.payload⟩
    | none =>
        have hs := hsame rfl
        cases hd with
        | label hl =>
            obtain ⟨r, hr⟩ := (@recvLabel_ok_iff u len (receivedLength s packet.length)
              (recvBuf s packet) recvFrom).mpr ((hlabel u hs _ _).mpr (hfits hl))
            simp only [hr]
            refine ⟨u, r, rfl, ?_⟩
            have hp := (labelled_recvLabel hr).payload
            have hsame' : payloads u (recvBuf s packet) = payloads s (recvBuf s packet) := by
              simp only [payloads, hs.1, hs.2]
            rwa [hsame'] at hp

end Packets

/-! ### Sample packets -/

/-- A socket on which the channel 0x4000 is bound to the first peer. -/
def boundEvents : List (Timeval × Event) :=
  atOnce [.setPeer (samplePeer 1), sampleAnswer .response STUN_CHANNELBIND 0 none]

/-- ChannelData with a length field that is larger than the packet: whoever sends it,
three bytes behind the packet are read. -/
theorem long_channel_data_overreads :
    ¬∀ ls s, Run (Step sampleEnv) (sampleSocket .rfc5766) ls s →
      ∀ crypto msg₀ len recvFrom packet, 1 ≤ packet.length → packet.length < 2 ^ 64 →
        ∃ t r, niceUdpTurnSocketParseRecv sampleEnv crypto msg₀ s len recvFrom packet
          packet.length = .ok (t, r) ∧ r.data <:+: payloads s (recvBuf s packet) := by
  intro h
  have hrun : Possible sampleEnv (fun _ _ => True) (sampleSocket .rfc5766) boundEvents :=
    ⟨rfl, trivial, rfl, trivial, trivial⟩
  obtain ⟨t, r, hr, -⟩ := h _ _ (hrun.run.mono fun _ _ _ hs => hs.2) (constantCrypto 0)
    (plainRequest 0 []) 5 (samplePeer 9) [0x40, 0, 0, 4, 1] (by decide) (by decide)
  have herr : (match niceUdpTurnSocketParseRecv sampleEnv (constantCrypto 0) (plainRequest 0 [])
      (runEvents sampleEnv (sampleSocket .rfc5766) boundEvents) 5 (samplePeer 9)
      [0x40, 0, 0, 4, 1] 5 with
    | .ok _ => false
    | .error e => decide (e = .outOfBounds)) = true := by decide +kernel
  have hlen : ([0x40, 0, 0, 4, 1] : Bytes).length = 5 := rfl
  rw [hlen] at hr
  rw [hr] at herr
  cases herr

/-- The case of ChannelData with all its data. -/
theorem parse_recv_inside_sample :
    PacketFits (constantCrypto 0) (plainRequest 0 [])
      (runEvents sampleEnv (sampleSocket .rfc5766) boundEvents) 5 (samplePeer 9)
      [0x40, 0, 0, 1, 7] := by
  refine (parse_recv_inside sampleEnv (constantCrypto 0) (plainRequest 0 []) _ 5 (samplePeer 9)
    [0x40, 0, 0, 1, 7] (by decide) (by decide)).mp ?_
  have hlen : ([0x40, 0, 0, 1, 7] : Bytes).length = 5 := rfl
  rw [hlen]
  have hok : (match niceUdpTurnSocketParseRecv sampleEnv (constantCrypto 0) (plainRequest 0 [])
      (runEvents sampleEnv (sampleSocket .rfc5766) boundEvents) 5 (samplePeer 9)
      [0x40, 0, 0, 1, 7] 5 with
    | .ok (_, r) => decide (r.data = [7])
    | .error _ => false) = true := by decide +kernel
  have hpay : [7] <:+: payloads (runEvents sampleEnv (sampleSocket .rfc5766) boundEvents)
      (recvBuf (runEvents sampleEnv (sampleSocket .rfc5766) boundEvents) [0x40, 0, 0, 1, 7]) := by
    decide +kernel
  cases hf : niceUdpTurnSocketParseRecv sampleEnv (constantCrypto 0) (plainRequest 0 [])
      (runEvents sampleEnv (sampleSocket .rfc5766) boundEvents) 5 (samplePeer 9)
      [0x40, 0, 0, 1, 7] 5 with
  | error e =>
      rw [hf] at hok
      cases hok
  | ok p =>
      obtain ⟨t, r⟩ := p
      rw [hf] at hok
      exact ⟨t, r, rfl, of_decide_eq_true hok ▸ hpay⟩

end LibNice.UdpTurn
