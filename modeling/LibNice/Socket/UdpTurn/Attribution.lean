import LibNice.Socket.UdpTurn.Packet

/-!
`socket/udp-turn.c`: who the data that a UDP-TURN socket hands on come from.

* `Attributed`: data of a peer came from the server, as ChannelData on a channel of
  the peer or in a Data indication.
* `Misattributed`: ChannelData from elsewhere, or with less data than its length
  field says.
* `relay_attribution`: **when data are attributed to the peer that sent them.**
-/

namespace LibNice.UdpTurn

open LibNice.Foundation LibNice.Stun LibNice.Ice

/-! ### The packet -/

/-- The part of the memory at `_recv_buf` that has been received, without the header of
the frame. -/
def received (s : UdpTurnPriv) (mem : Bytes) (n : ℕ) : Bytes := recvBuf s (mem.take n)

section Received

variable {s : UdpTurnPriv} {mem buf packet : Bytes} {n : ℕ}

lemma received_isPrefix (s : UdpTurnPriv) (mem : Bytes) (n : ℕ) :
    received s mem n <+: recvBuf s mem := by
  rw [received, recvBuf, recvBuf]
  split
  · exact (List.take_prefix n mem).drop 2
  · exact List.take_prefix n mem

lemma length_received_le (s : UdpTurnPriv) (mem : Bytes) (n : ℕ) :
    (received s mem n).length ≤ n := by
  rw [received, recvBuf]
  split <;> simp only [List.length_drop, List.length_take] <;> omega

/-- What is validated is what has been received. -/
lemma take_recvBuf (hn : n < 2 ^ 64) (h2 : s.baseReliable → 2 ≤ n) :
    (recvBuf s mem).take (receivedLength s n) = received s mem n := by
  rw [received, receivedLength, recvBuf, recvBuf]
  cases hr : s.baseReliable
  · rfl
  · have h2 := h2 hr
    have hmod : (n + 2 ^ 64 - 2) % 2 ^ 64 = n - 2 := by omega
    simp only [if_true, hmod]
    rw [List.drop_take]

lemma ntohs_packet (h : packet <+: buf) (h2 : 2 ≤ packet.length) : ntohs packet = ntohs buf := by
  obtain ⟨rest, rfl⟩ := h
  simp only [ntohs, List.getD_eq_getElem?_getD,
    List.getElem?_append_left (show 0 < packet.length by omega),
    List.getElem?_append_left (show 1 < packet.length by omega)]

lemma take_drop_packet {k l : ℕ} (h : packet <+: buf) (hk : k + l ≤ packet.length) :
    (buf.drop k).take l = (packet.drop k).take l := by
  obtain ⟨rest, rfl⟩ := h
  rw [List.drop_append_of_le_length (by omega),
    List.take_append_of_le_length (by rw [List.length_drop]; omega)]

end Received

/-! ### Attribution -/

/-- Data that came on the channel of `peer`: all that the length field covers, and all
of it in the packet. -/
def ChannelDataOf (s : UdpTurnPriv) (packet : Bytes) (peer : NiceAddress) (data : Bytes) : Prop :=
  (∃ b ∈ s.channels, b.peer = peer ∧ b.channel = ntohs packet) ∧
    4 + (ntohs (packet.drop 2)).toNat ≤ packet.length ∧
      data = (packet.drop 4).take (ntohs (packet.drop 2)).toNat

/-- Data that came in a valid Data indication for `peer`. -/
def DataIndicationOf (crypto : StunCrypto) (msg₀ : StunMessage) (s : UdpTurnPriv)
    (packet : Bytes) (peer : NiceAddress) (data : Bytes) : Prop :=
  ∃ msg agent m, stunAgentValidate crypto s.agent msg₀ packet none = .ok (.success, msg, agent) ∧
    readMessage s.compatibility msg = .ok m ∧ DataIndication s m peer data

/-- What is handed on as data of a peer came from the server. -/
def Attributed (crypto : StunCrypto) (msg₀ : StunMessage) (s : UdpTurnPriv) (packet : Bytes)
    (recvFrom : NiceAddress) (r : Reported) : Prop :=
  r.fromSock → r.data ≠ [] →
    ∃ peer, r.sender = some peer ∧ recvFrom = s.serverAddr ∧
      (ChannelDataOf s packet peer r.data ∨ DataIndicationOf crypto msg₀ s packet peer r.data)

/-- At the label `recv` the channel of a binding is read, with a length, and the packet
is not from the server or does not have as many data.  `buf` is the memory from
`recv_buf` on, of which `packet` has been received. -/
def Misattributed (crypto : StunCrypto) (msg₀ : StunMessage) (s : UdpTurnPriv) (n : ℕ)
    (buf packet : Bytes) (recvFrom : NiceAddress) : Prop :=
  ReachesLabel crypto msg₀ s buf (receivedLength s n) recvFrom ∧
    (s.channels.find? fun b => b.channel = ntohs buf).isSome ∧ ntohs (buf.drop 2) ≠ 0 ∧
      (recvFrom ≠ s.serverAddr ∨ packet.length < 4 + (ntohs (buf.drop 2)).toNat)

section Attribution

variable {env : Env} {crypto : StunCrypto} {msg₀ : StunMessage} {s : UdpTurnPriv} {n len : ℕ}
  {recvFrom : NiceAddress} {buf : Bytes}

/-- A Data indication does not fall through. -/
lemma DataIndication.stays {m : ReceivedMessage} {peer : NiceAddress} {data : Bytes}
    (h : DataIndication s m peer data) : ¬fallsThrough s m := by
  obtain ⟨hcls, hmethod, hsender, hdata, hcookie⟩ := h
  have haddr : m.remoteAddress.isSome := by
    cases ha : m.remoteAddress with
    | none => simp [ha] at hsender
    | some a => rfl
  simp only [fallsThrough, decide_eq_true_eq, not_or]
  refine ⟨fun h => h.2 (hcookie h.1), fun h => h.2 ⟨hcls, hmethod, haddr, ?_⟩⟩
  rw [hdata]
  rfl

/-- A message from the server that is handed on has all bytes of its frame. -/
lemma frame_of_validated {r : StunValidationStatus × StunMessage × StunAgent} {mem : Bytes}
    (h1 : 1 ≤ n) (hn : n ≤ mem.length) (hsz : mem.length < 2 ^ 64)
    (h : validatePacket crypto msg₀ s.agent (recvBuf s mem) (receivedLength s n) = .ok r) :
    (s.baseReliable → 2 ≤ n) ∧
      stunAgentValidate crypto s.agent msg₀ (received s mem n) none = .ok r := by
  obtain ⟨hle, hval⟩ := validatePacket_ok h
  have h2 : s.baseReliable → 2 ≤ n := by
    intro hr
    simp only [receivedLength, recvBuf, hr, if_true, List.length_drop] at hle
    omega
  rw [take_recvBuf (by omega) h2] at hval
  exact ⟨h2, hval⟩

/-- A message that is taken is one for the function. -/
lemma validatePacket_received {msg : StunMessage} {agent : StunAgent} {mem : Bytes}
    (hn : n ≤ mem.length) (hsz : mem.length < 2 ^ 64)
    (h : stunAgentValidate crypto s.agent msg₀ (received s mem n) none =
      .ok (.success, msg, agent)) :
    validatePacket crypto msg₀ s.agent (recvBuf s mem) (receivedLength s n) =
      .ok (.success, msg, agent) := by
  obtain ⟨-, h20, -⟩ := validate_success_visible h
  have hpn := length_received_le s mem n
  have htake := @take_recvBuf s mem n (by omega) fun _ => by omega
  have hle : receivedLength s n ≤ (recvBuf s mem).length := by
    cases hr : s.baseReliable <;> simp only [receivedLength, recvBuf, hr, if_true, if_false,
      Bool.false_eq_true, List.length_drop] <;> omega
  rw [validatePacket, if_pos hle, htake, h]

/-- **Data are attributed to the peer that sent them through the server**, unless the
packet is misattributed ChannelData.  `mem` is the memory at `_recv_buf`, of which `n`
bytes have been received. -/
theorem relay_attribution (env : Env) (crypto : StunCrypto) (msg₀ : StunMessage)
    (s : UdpTurnPriv) (len n : ℕ) (recvFrom : NiceAddress) (mem : Bytes) (t : UdpTurnPriv)
    (r : Reported) (hs : s.compatibility.hasChannels) (h1 : 1 ≤ n) (hn : n ≤ mem.length)
    (hsz : mem.length < 2 ^ 64) (hlen : n ≤ len)
    (h : niceUdpTurnSocketParseRecv env crypto msg₀ s len recvFrom mem n = .ok (t, r)) :
    Attributed crypto msg₀ s (received s mem n) recvFrom r ↔
      ¬Misattributed crypto msg₀ s n (recvBuf s mem) (received s mem n) recvFrom := by
  have hpre := received_isPrefix s mem n
  have hpn := length_received_le s mem n
  rw [niceUdpTurnSocketParseRecv] at h
  obtain ⟨⟨u, o⟩, hdisp, h⟩ := bind_eq_ok.mp h
  obtain ⟨hd, hsame⟩ := dispatched_dispatchPacket hdisp
  cases hd with
  | swallowed hno =>
      obtain ⟨-, rfl⟩ := Prod.mk.inj (Except.ok.inj h)
      exact ⟨fun _ hm => hno hm.1, fun _ hf => (by cases hf)⟩
  | indication msg agent m peer data hno hfrom hval hread hind hin =>
      obtain ⟨-, rfl⟩ := Prod.mk.inj (Except.ok.inj h)
      refine ⟨fun _ hm => hno hm.1, fun _ _ _ => ⟨peer, rfl, hfrom, .inr ?_⟩⟩
      obtain ⟨h2, hval⟩ := frame_of_validated h1 hn hsz hval
      rw [take_recvBuf (by omega) h2] at hin
      have hdata : data.take len = data := by
        refine List.take_of_length_le (hin.length_le.trans ?_)
        rw [List.length_drop]
        omega
      exact ⟨msg, agent, m, hval, hread, hdata.symm ▸ hind⟩
  | label hl =>
      obtain ⟨hc, hcomp⟩ := hsame rfl
      obtain ⟨r', hrec, h⟩ := bind_eq_ok.mp h
      obtain ⟨-, rfl⟩ := Prod.mk.inj (Except.ok.inj h)
      have hlab := labelled_recvLabel hrec
      cases hlab with
      | plain hr hno =>
          refine ⟨fun _ hm => ?_, fun _ hf => (by cases hf)⟩
          obtain ⟨-, hf, -⟩ := hm
          obtain ⟨b, hb⟩ := Option.isSome_iff_exists.mp hf
          have hne : u.channels ≠ [] := by
            rw [hc]
            exact List.ne_nil_of_mem (List.mem_of_find?_eq_some hb)
          have hnone := hno hne (hcomp ▸ hs)
          rw [hc, hb] at hnone
          cases hnone
      | channel b hs' hf h4 hr =>
          rw [hc] at hf
          have hlong : 4 + (ntohs ((recvBuf s mem).drop 2)).toNat ≤ (received s mem n).length →
              ntohs (received s mem n) = ntohs (recvBuf s mem) ∧
                ntohs ((received s mem n).drop 2) = ntohs ((recvBuf s mem).drop 2) := fun hle =>
            ⟨ntohs_packet hpre (by omega),
              ntohs_packet (hpre.drop 2) (by rw [List.length_drop]; omega)⟩
          constructor
          · rintro hatt ⟨-, -, hne, hbad⟩
            have hpos : (ntohs ((recvBuf s mem).drop 2)).toNat ≠ 0 := by
              simpa [← UInt16.toNat_inj] using hne
            have hdata : ((recvBuf s mem).drop 4).take
                (min len (ntohs ((recvBuf s mem).drop 2)).toNat) ≠ [] := by
              intro hnil
              have hlen0 := congrArg List.length hnil
              rw [List.length_take, List.length_drop, List.length_nil] at hlen0
              rcases hr with hr | hr <;> omega
            obtain ⟨peer, -, hfrom, hor⟩ := hatt rfl hdata
            have hshort := hbad.resolve_left fun hno => hno hfrom
            rcases hor with ⟨-, hfit, -⟩ | ⟨msg, agent, m, hval, hread, hind⟩
            · have heq := ntohs_packet (hpre.drop 2) (by rw [List.length_drop]; omega)
              rw [heq] at hfit
              omega
            · exact hind.stays (hl hfrom _ _ _ (validatePacket_received hn hsz hval) hread)
          · intro hok _ hdata
            have hpos : ntohs ((recvBuf s mem).drop 2) ≠ 0 := by
              rintro h0
              simp only at hdata
              rw [h0] at hdata
              exact hdata (by simp)
            have hgood : recvFrom = s.serverAddr ∧
                4 + (ntohs ((recvBuf s mem).drop 2)).toNat ≤ (received s mem n).length := by
              by_contra hno
              refine hok ⟨hl, by rw [hf]; rfl, hpos, ?_⟩
              by_cases hfrom : recvFrom = s.serverAddr
              · exact .inr (not_le.mp fun hle => hno ⟨hfrom, hle⟩)
              · exact .inl hfrom
            obtain ⟨hfrom, hle⟩ := hgood
            obtain ⟨hnumber, hlength⟩ := hlong hle
            have hmin : min len (ntohs ((recvBuf s mem).drop 2)).toNat =
                (ntohs ((recvBuf s mem).drop 2)).toNat := by omega
            refine ⟨b.peer, rfl, hfrom, .inl ⟨⟨b, List.mem_of_find?_eq_some hf, rfl, ?_⟩, ?_, ?_⟩⟩
            · rw [hnumber]
              simpa using List.find?_some hf
            · rw [hlength]
              exact hle
            · simp only [hmin, hlength]
              exact take_drop_packet hpre hle
      | only b hs' hr => exact absurd (hcomp ▸ hs) hs'

end Attribution

/-! ### Sample packets -/

/-- The socket on which the channel 0x4000 is bound to the first peer. -/
def boundSocket : UdpTurnPriv := runEvents sampleEnv (sampleSocket .rfc5766) boundEvents

/-- ChannelData with one byte. -/
def channelData : Bytes := [0x40, 0, 0, 1, 7]

/-- What is made of ChannelData that comes from `recvFrom`. -/
lemma parse_channelData (recvFrom : NiceAddress)
    (h : (match niceUdpTurnSocketParseRecv sampleEnv (constantCrypto 0) (plainRequest 0 [])
        boundSocket 5 recvFrom channelData 5 with
      | .ok (_, r) => decide (r = { fromSock := true, sender := some (samplePeer 1), data := [7] })
      | .error _ => false) = true) :
    ∃ t, niceUdpTurnSocketParseRecv sampleEnv (constantCrypto 0) (plainRequest 0 []) boundSocket 5
      recvFrom channelData 5 =
        .ok (t, { fromSock := true, sender := some (samplePeer 1), data := [7] }) := by
  cases hf : niceUdpTurnSocketParseRecv sampleEnv (constantCrypto 0) (plainRequest 0 [])
      boundSocket 5 recvFrom channelData 5 with
  | error e =>
      rw [hf] at h
      cases h
  | ok p =>
      obtain ⟨t, r⟩ := p
      rw [hf] at h
      exact ⟨t, by rw [of_decide_eq_true h]⟩

/-- ChannelData that a stranger sends, not the server, is attributed to the peer of the
channel. -/
theorem forged_channel_data :
    ¬∀ ls s, Run (Step sampleEnv) (sampleSocket .rfc5766) ls s →
      ∀ crypto msg₀ n recvFrom mem t r, 1 ≤ n → n ≤ mem.length → mem.length < 2 ^ 64 →
        niceUdpTurnSocketParseRecv sampleEnv crypto msg₀ s n recvFrom mem n = .ok (t, r) →
        Attributed crypto msg₀ s (received s mem n) recvFrom r := by
  intro h
  have hrun : Possible sampleEnv (fun _ _ => True) (sampleSocket .rfc5766) boundEvents :=
    ⟨rfl, trivial, rfl, trivial, trivial⟩
  obtain ⟨t, hr⟩ := parse_channelData (samplePeer 9) (by decide +kernel)
  obtain ⟨-, -, hfrom, -⟩ := h _ _ (hrun.run.mono fun _ _ _ hs => hs.2) _ _ _ _ _ _ _
    (by decide) (by decide) (by decide) hr rfl (by decide)
  have hne : samplePeer 9 ≠ (runEvents sampleEnv (sampleSocket .rfc5766) boundEvents).serverAddr :=
    by decide +kernel
  exact hne hfrom

/-- The case of ChannelData from the server. -/
theorem relay_attribution_sample :
    Attributed (constantCrypto 0) (plainRequest 0 []) boundSocket
      (received boundSocket channelData 5) (samplePeer 0)
      { fromSock := true, sender := some (samplePeer 1), data := [7] } := by
  obtain ⟨t, hr⟩ := parse_channelData (samplePeer 0) (by decide +kernel)
  refine (relay_attribution sampleEnv (constantCrypto 0) (plainRequest 0 []) boundSocket 5 5
    (samplePeer 0) channelData t _ (by decide +kernel) (by decide) (by decide) (by decide)
    (by decide) hr).mpr ?_
  rintro ⟨-, -, -, hbad⟩
  revert hbad
  decide +kernel

end LibNice.UdpTurn
