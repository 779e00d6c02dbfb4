import Mathlib.Data.Nat.Bitwise
import LibNice.Stun.Authentication
import LibNice.Stun.Codec

/-!
Messages that an agent begins and finishes.

* `Laid.getClass`, `Laid.framed`: the class of a request or an indication is read
  back, and the message alone is framed.
* `Initialised`, `Begun`: the messages of `stun_agent_init_request` and
  `stun_agent_init_indication`, with the attributes appended to them so far.
* `builtSha1_laid`, `stunFingerprint_laid`: the digests of a message under
  construction, which are those of the message that it will be in the end.
* `Signed`, `finish_signed`: what `stun_agent_finish_message` makes of a message.
-/

namespace LibNice.Stun

open LibNice.Foundation

variable {na : Bool} {id : Vector UInt8 16} {crypto : StunCrypto} {msg : StunMessage}
  {ty tail : Bytes} {rs : List (Attribute na)}

/-! ### The header -/

/-- The type field of a request or an indication: the two bits of its class are
where `stun_message_get_class` looks for them. -/
lemma stunTypeBytes_eq {c : StunClass} (hc : c = .request ∨ c = .indication) (m : StunMethod) :
    ∃ hi lo : UInt8, stunTypeBytes c m = [hi, lo] ∧ hi < 64 ∧ hi.toNat.testBit 0 = false ∧
      lo.toNat.testBit 4 = decide (c = .indication) := by
  have hshift : c.toBits >>> 1 = 0 := by rcases hc with rfl | rfl <;> rfl
  refine ⟨_, _, rfl, ?_, ?_, ?_⟩
  · have hle : (m.toNat >>> 6 % 256 &&& 62) ≤ 62 := Nat.and_le_right
    rw [hshift, UInt8.lt_iff_toNat_lt]
    simp
    omega
  · rw [hshift, UInt16.toNat_toUInt8, Nat.testBit_mod_two_pow]
    simp
  · rw [UInt16.toNat_toUInt8, Nat.testBit_mod_two_pow]
    have h16 : Nat.testBit 16 4 = true := rfl
    have h224 : Nat.testBit 224 4 = false := rfl
    have h15 : Nat.testBit 15 4 = false := rfl
    rcases hc with rfl | rfl
    · simp [StunClass.toBits, h224, h15]
    · simp [StunClass.toBits, h16]

/-- The class of a request or an indication is read back. -/
lemma Laid.getClass {c : StunClass} {m : StunMethod}
    (h : Laid na msg (stunTypeBytes c m) id.toList rs tail) (hc : c = .request ∨ c = .indication) :
    stunMessageGetClass msg = .ok c := by
  obtain ⟨hi, lo, hty, -, hhi, hlo⟩ := stunTypeBytes_eq hc m
  have hread : stunGetw msg.buffer 0 = .ok (word16 hi lo) := by
    rw [h.buffer, hty]
    rfl
  have hl := lo.toNat_lt
  have hhi' : hi.toNat % 2 = 0 := by simpa using hhi
  have h8 : (word16 hi lo).toNat.testBit 8 = false := by
    rw [word16_toNat, Nat.testBit_eq_decide_div_mod_eq]
    simp
    omega
  have h4 : (word16 hi lo).toNat.testBit 4 = decide (c = .indication) := by
    rw [← hlo, word16_toNat, Nat.testBit_eq_decide_div_mod_eq, Nat.testBit_eq_decide_div_mod_eq]
    congr 2
    omega
  have hne : word16 hi lo ≠ 0x0115 := by
    intro heq
    rw [heq] at h8
    cases h8
  have hand8 : word16 hi lo &&& (0x0100 : UInt16) = 0 := by
    apply UInt16.toNat_inj.mp
    rw [UInt16.toNat_and]
    have := Nat.two_pow_and (word16 hi lo).toNat 8
    rw [h8, Nat.and_comm] at this
    simpa using this
  have hand4 : word16 hi lo &&& (0x0010 : UInt16) = c.toBits <<< 4 := by
    apply UInt16.toNat_inj.mp
    rw [UInt16.toNat_and]
    have := Nat.two_pow_and (word16 hi lo).toNat 4
    rw [h4, Nat.and_comm] at this
    rcases hc with rfl | rfl <;> simpa [StunClass.toBits] using this
  rw [stunMessageGetClass, stunMessageType, hread]
  simp only [bind, Except.bind, pure, Except.pure, if_neg hne, hand8, hand4]
  rcases hc with rfl | rfl <;> rfl

/-! ### The finished message as a block of bytes -/

lemma four_dvd_encodeAll (rs : List (Attribute false)) : 4 ∣ (encodeAll rs).length := by
  induction rs with
  | nil => simp
  | cons r rs ih =>
      rw [encodeAll_cons, List.length_append, Tlv.encode_length]
      simp only [attributeStep, stunAlign, Bool.false_eq_true, if_false]
      omega

/-- The attributes of a message under construction, between its header and its end. -/
lemma Filled.attributes {ty id : Bytes} (h : Filled na msg ty id rs tail) :
    (msg.buffer.take (20 + (encodeAll rs).length)).drop 20 = encodeAll rs := by
  have hpre : (ty ++ be16 (encodeAll rs).length ++ id).length = 20 := by
    simp [h.ty_length, h.id_length]
  rw [h.buffer, ← hpre, ← List.length_append, List.take_left, List.drop_left]

/-- A message under construction is framed. -/
lemma Filled.framed {hi lo : UInt8} {id : Bytes} (h : Filled na msg [hi, lo] id rs tail)
    (hhi : hi < 64) : Framed (!na) msg.buffer (20 + (encodeAll rs).length) := by
  have hlt := h.lt
  have hbuf := h.buffer
  have hpre : ([hi, lo] ++ be16 (encodeAll rs).length ++ id).length = 20 := by
    simp [h.id_length]
  have hlen : msg.buffer.length = 20 + (encodeAll rs).length + tail.length := by
    rw [hbuf, List.length_append, List.length_append, hpre]
  have hget : messageLen msg.buffer = 20 + (encodeAll rs).length := by
    have hword : word16 (UInt8.ofNat ((encodeAll rs).length / 256))
        (UInt8.ofNat (encodeAll rs).length) = UInt16.ofNat (encodeAll rs).length := word16_be16 _
    rw [messageLen, hbuf]
    simp only [be16, List.cons_append, List.nil_append, List.getD_cons_succ, List.getD_cons_zero,
      hword, UInt16.toNat_ofNat']
    omega
  refine ⟨by simpa [hbuf] using hhi, hget.symm, ?_, fun hna => ?_, ?_⟩
  · rw [hlen]
    omega
  · obtain rfl : na = false := by simpa using hna
    have := four_dvd_encodeAll rs
    omega
  · rw [h.attributes, Bool.not_not]
    exact ⟨rs, rfl⟩

/-- A message with nothing behind its attributes is framed. -/
lemma Laid.framed {hi lo : UInt8} (h : Laid na msg [hi, lo] id.toList rs []) (hhi : hi < 64) :
    Framed (!na) msg.buffer (20 + (encodeAll rs).length) :=
  h.filled.framed hhi

/-- Cutting off the free room behind the attributes. -/
lemma Laid.take (h : Laid na msg ty id.toList rs tail) {m : StunMessage}
    (hm : m.buffer = msg.buffer.take (20 + (encodeAll rs).length)) (hna : m.noAligned = na) :
    Laid na m ty id.toList rs [] := by
  refine ⟨hna, h.ty_length, h.id_length, h.lt, ?_⟩
  have hlen : (ty ++ be16 (encodeAll rs).length ++ id.toList ++ encodeAll rs).length =
      20 + (encodeAll rs).length := by
    simp only [List.length_append, h.ty_length, h.id_length, be16_length]
  rw [hm, h.buffer, ← hlen, List.take_left, List.append_nil]

/-! ### Messages that an agent begins -/

/-- The transaction id of a message of the agent: the cookie takes the place of
its first four bytes. -/
def StunAgentConfig.transactionId (agent : StunAgentConfig) (id : Vector UInt8 16) :
    Vector UInt8 16 :=
  if agent.compatibility.usesCookie then
    ⟨(be32 STUN_MAGIC_COOKIE ++ id.toList.drop 4).toArray, by simp⟩
  else id

/-- The text of a SOFTWARE attribute. -/
def softwareValue (software : Option Bytes) : Bytes :=
  match softwareLoop (software.getD PACKAGE_STRING) 128 0 with
  | .ok ptr => (software.getD PACKAGE_STRING).take ptr
  | .error _ => []

/-- What `stun_agent_init_request` appends to a message by itself. -/
def StunAgentConfig.ownAppends (agent : StunAgentConfig) : List Append :=
  if agent.compatibility.usesCookie &&
      (agent.softwareAttribute.isSome || agent.usageFlags.addSoftware) then
    [.bytes STUN_ATTRIBUTE_SOFTWARE (softwareValue agent.softwareAttribute)]
  else []

/-- `msg` is a message that the agent has begun in the block `buffer`, and `own`
are the attributes it has already. -/
inductive Initialised (agent : StunAgent) (buffer : Bytes) (id : Vector UInt8 16) :
    StunClass → List Append → StunMessage → Prop
  | request {msg₀ m msg}
      (h : stunAgentInitRequest agent msg₀ buffer m id.toList = .ok (msg, true)) :
      Initialised agent buffer id .request agent.ownAppends msg
  | indication {msg₀ m msg}
      (h : stunAgentInitIndication agent msg₀ buffer m id.toList = .ok (msg, true)) :
      Initialised agent buffer id .indication [] msg

/-- Storing the cookie gives the message the transaction id of the agent. -/
lemma storeCookie_laid {agent : StunAgent} (h : Laid na msg ty id.toList [] tail) :
    ∃ buffer, storeCookie agent msg = .ok { msg with buffer } ∧
      Laid na { msg with buffer } ty (agent.transactionId id).toList [] tail := by
  rw [storeCookie, StunAgentConfig.transactionId]
  cases agent.compatibility.usesCookie with
  | false => exact ⟨msg.buffer, rfl, h⟩
  | true =>
      have hsplit : msg.buffer =
          (ty ++ be16 0) ++ (id.toList.take 4 ++ (id.toList.drop 4 ++ tail)) := by
        rw [← List.append_assoc (id.toList.take 4), List.take_append_drop, h.buffer]
        simp
      have hwrite := @writeSlice_append (ty ++ be16 0) (id.toList.take 4) (id.toList.drop 4 ++ tail)
        (be32 STUN_MAGIC_COOKIE) 4 (by simp [h.ty_length]) (by simp)
      rw [← hsplit] at hwrite
      refine ⟨ty ++ be16 0 ++ (be32 STUN_MAGIC_COOKIE ++ (id.toList.drop 4 ++ tail)), ?_,
        h.noAligned, h.ty_length, by simp, by simp, by simp⟩
      rw [if_pos rfl, STUN_MESSAGE_TRANS_ID_POS, hwrite]
      rfl

/-- A message of class `c` that an agent has begun in a block of `size` bytes,
with the attributes of the calls `ops`. -/
structure Begun (agent : StunAgentConfig) (id : Vector UInt8 16) (size : ℕ) (c : StunClass)
    (ops : List Append) (msg : StunMessage) : Prop where
  config : msg.agent = some agent
  key : msg.key = none
  longTermValid : msg.longTermValid = false
  size : msg.buffer.length = size
  laid : ∃ m rs tail, Laid agent.usageFlags.noAlignedAttributes msg (stunTypeBytes c m)
      (agent.transactionId id).toList rs tail ∧
    List.Forall₂ (Encodes msg.wireType (agent.transactionId id)) ops rs

/-- The size of a message of the agent with the attributes of the calls `ops`. -/
def StunAgentConfig.size (agent : StunAgentConfig) (id : Vector UInt8 16) (ops : List Append) : ℕ :=
  messageSize agent.usageFlags.noAlignedAttributes (agent.transactionId id) ops

section Begun

variable {agent : StunAgentConfig} {size : ℕ} {c : StunClass} {ops : List Append}

lemma twenty_le_size (agent : StunAgentConfig) (id : Vector UInt8 16) (ops : List Append) :
    20 ≤ agent.size id ops := by
  rw [StunAgentConfig.size, messageSize]
  omega

lemma size_append (ops' : List Append) : agent.size id (ops ++ ops') + 20 =
    agent.size id ops + agent.size id ops' := by
  simp only [StunAgentConfig.size, messageSize, List.map_append, List.sum_append]
  omega

lemma Begun.append (h : Begun agent id size c ops msg) (ops' : List Append)
    (hops : ∀ op ∈ ops', op.Supported) (hlt : agent.size id (ops ++ ops') < 65536)
    (hfit : agent.size id (ops ++ ops') ≤ size) :
    ∃ msg', appendAll msg ops' = .ok (msg', List.replicate ops'.length .success) ∧
      Begun agent id size c (ops ++ ops') msg' := by
  obtain ⟨m, rs, tail, hlaid, hrs⟩ := h.laid
  have hsize := messageSize_eq hrs
  have happ := @size_append id agent ops ops'
  have hlen := hlaid.bufferLen
  have hblock := h.size
  rw [StunAgentConfig.size, StunAgentConfig.size, StunAgentConfig.size] at *
  obtain ⟨b, rs', tail', hall, hlaid', hrs', htail'⟩ := appendAll_laid ops' hops msg rs tail hlaid
    (by omega) (by omega)
  refine ⟨_, hall, h.config, h.key, h.longTermValid, ?_, m, rs ++ rs', tail', hlaid',
    List.rel_append hrs hrs'⟩
  have hlen' : b.length = _ := hlaid'.bufferLen
  have hsize' : 20 + (encodeAll (rs ++ rs')).length = messageSize _ _ (ops ++ ops') :=
    messageSize_eq (List.rel_append hrs hrs')
  change b.length = size
  omega

/-- A call appends its attribute. -/
lemma Begun.run (h : Begun agent id size c ops msg) (op : Append) (hop : op.Supported)
    (hlt : agent.size id (ops ++ [op]) < 65536) (hfit : agent.size id (ops ++ [op]) ≤ size) :
    ∃ msg', op.run msg = .ok (msg', .success) ∧ Begun agent id size c (ops ++ [op]) msg' := by
  obtain ⟨msg', hall, hbegun⟩ := h.append [op] (by simpa using hop) hlt hfit
  rw [appendAll] at hall
  obtain ⟨⟨msg'', val⟩, hrun, hall⟩ := bind_eq_ok.mp hall
  obtain ⟨rfl, hval⟩ := Prod.mk.inj (Except.ok.inj hall)
  obtain rfl : val = .success := by simpa using hval
  exact ⟨_, hrun, hbegun⟩

end Begun

section Init

variable {agent : StunAgent} {buffer : Bytes} {c : StunClass} {m : StunMethod}
  {msg₀ : StunMessage} {r : Bool}

/-- The first half of `stun_agent_init_request` and `stun_agent_init_indication`. -/
lemma stunMessageInit_begun (h : stunMessageInit { msg₀ with
        agent := some agent.toStunAgentConfig, buffer, key := none, longTermValid := false }
      c m id.toList = .ok (msg, r)) (h20 : 20 ≤ buffer.length) :
    ∃ msg', storeCookie agent msg = .ok msg' ∧
      Begun agent.toStunAgentConfig id buffer.length c [] msg' := by
  obtain ⟨b₁, tail, hinit, hlaid, htail⟩ := @init_laid agent.usageFlags.noAlignedAttributes id
    { msg₀ with
      agent := some agent.toStunAgentConfig, buffer, key := none, longTermValid := false }
    c m rfl h20
  obtain ⟨rfl, -⟩ := Prod.mk.inj (Except.ok.inj (hinit.symm.trans h))
  obtain ⟨b₂, hcookie, hlaid'⟩ := @storeCookie_laid _ _ _ _ _ agent hlaid
  refine ⟨_, hcookie, rfl, rfl, rfl, ?_, m, [], tail, hlaid', .nil⟩
  have hlen : b₂.length = _ := hlaid'.bufferLen
  have htail : 20 + tail.length = buffer.length := htail
  change b₂.length = buffer.length
  rw [hlen, encodeAll_nil, List.length_nil]
  omega

/-- What `stun_message_append_software` appends. -/
lemma stunMessageAppendSoftware_eq {software : Option Bytes} {r : StunMessage × StunMessageReturn}
    (h : stunMessageAppendSoftware msg software = .ok r) :
    (Append.bytes STUN_ATTRIBUTE_SOFTWARE (softwareValue software)).run msg = .ok r := by
  rw [stunMessageAppendSoftware] at h
  obtain ⟨ptr, hptr, h⟩ := bind_eq_ok.mp h
  obtain ⟨data, hdata, h⟩ := bind_eq_ok.mp h
  obtain ⟨-, rfl⟩ := readSlice_eq_ok.mp hdata
  rw [Append.run, softwareValue, hptr]
  exact h

/-- A message that an agent has begun. -/
theorem Initialised.begun {own : List Append} (h : Initialised agent buffer id c own msg)
    (hlt : agent.size id own < 65536) (hfit : agent.size id own ≤ buffer.length) :
    Begun agent.toStunAgentConfig id buffer.length c own msg := by
  have h20 : 20 ≤ buffer.length := by
    rw [StunAgentConfig.size, messageSize] at hfit
    omega
  cases h with
  | indication h =>
      rw [stunAgentInitIndication] at h
      obtain ⟨⟨msg₁, r⟩, hinit, h⟩ := bind_eq_ok.mp h
      obtain ⟨msg₂, hcookie, hbegun⟩ := stunMessageInit_begun hinit h20
      cases r with
      | false => cases Except.ok.inj h
      | true =>
          simp only [if_pos, hcookie, bind, Except.bind, pure, Except.pure] at h
          obtain ⟨rfl, -⟩ := Prod.mk.inj (Except.ok.inj h)
          exact hbegun
  | request h =>
      rw [stunAgentInitRequest] at h
      obtain ⟨⟨msg₁, r⟩, hinit, h⟩ := bind_eq_ok.mp h
      obtain ⟨msg₂, hcookie, hbegun⟩ := stunMessageInit_begun hinit h20
      cases r with
      | false => cases Except.ok.inj h
      | true =>
          simp only [if_pos, hcookie, bind, Except.bind] at h
          rw [StunAgentConfig.ownAppends] at hlt hfit ⊢
          split at h
          next hsoft =>
            rw [if_pos hsoft] at hlt hfit ⊢
            split at h
            next => cases h
            next r happ =>
              obtain ⟨rfl, -⟩ := Prod.mk.inj (Except.ok.inj h)
              obtain ⟨msg₃, hrun, hbegun'⟩ := hbegun.run (.bytes STUN_ATTRIBUTE_SOFTWARE
                (softwareValue agent.softwareAttribute)) trivial hlt hfit
              rw [stunMessageAppendSoftware_eq happ] at hrun
              obtain rfl := Except.ok.inj hrun
              exact hbegun'
          next hsoft =>
            obtain ⟨rfl, -⟩ := Prod.mk.inj (Except.ok.inj h)
            rw [if_neg hsoft]
            exact hbegun

end Init

/-! ### The digests of a message under construction -/

section Digest

variable {more : List (Attribute na)}

/-- What a MESSAGE-INTEGRITY behind the attributes `rs` is computed over. -/
lemma integrityText_laid (h : Laid na msg ty id.toList (rs ++ more) tail)
    (compatibility : StunCompatibility) (total : ℕ) :
    integrityText compatibility msg.buffer (20 + (encodeAll rs).length + 4) total =
      ty ++ be16 (if compatibility = .wlm2009 then total - 20
        else 20 + (encodeAll rs).length + 4) ++ (id.toList ++ encodeAll rs) ++
          integrityPadding compatibility (20 + (encodeAll rs).length) := by
  have h4 : (ty ++ be16 (encodeAll (rs ++ more)).length).length = 4 := by
    simp only [List.length_append, h.ty_length, be16_length]
  have htake : msg.buffer.take 2 = ty := by
    rw [h.buffer]
    simp only [List.append_assoc]
    rw [← h.ty_length, List.take_left]
  have hbody : (msg.buffer.drop 4).take (20 + (encodeAll rs).length + 4 - 8) =
      id.toList ++ encodeAll rs := by
    have hlen : (id.toList ++ encodeAll rs).length = 20 + (encodeAll rs).length + 4 - 8 := by
      simp only [List.length_append, h.id_length]
      omega
    have hsplit : msg.buffer = ty ++ be16 (encodeAll (rs ++ more)).length ++
        ((id.toList ++ encodeAll rs) ++ (encodeAll more ++ tail)) := by
      rw [h.buffer]
      simp only [encodeAll_append, List.append_assoc]
    rw [hsplit, List.drop_left' h4, List.take_left' hlen]
  rw [integrityText, htake, hbody, Nat.add_sub_cancel]

/-- The checksum behind the attributes `rs` does not depend on itself. -/
lemma stunFingerprint_laid {r : Attribute na} (h : Laid na msg ty id.toList (rs ++ [r]) tail)
    (hr : r.encode.length = 8) (typo : Bool) :
    stunFingerprint msg.buffer (UInt16.ofNat (20 + (encodeAll (rs ++ [r])).length)) typo =
      .ok (stunCrc32 [ty, be16 ((encodeAll rs).length + 8), id.toList ++ encodeAll rs] typo ^^^
        0x5354554e) := by
  have hlt := h.lt
  have hlen := h.bufferLen
  have henc : (encodeAll (rs ++ [r])).length = (encodeAll rs).length + 8 := by
    rw [encodeAll_append, encodeAll_singleton, List.length_append, hr]
  rw [henc] at hlt hlen ⊢
  have hnat : (UInt16.ofNat (20 + ((encodeAll rs).length + 8))).toNat =
      (encodeAll rs).length + 28 := by
    rw [UInt16.toNat_ofNat']
    omega
  have hsub : (UInt16.ofNat (20 + ((encodeAll rs).length + 8)) - 20).toNat =
      (encodeAll rs).length + 8 := by
    rw [UInt16.toNat_sub_of_le _ _ (by rw [UInt16.le_iff_toNat_le, hnat]; simp), hnat]
    simp
  have h4 : (ty ++ be16 ((encodeAll rs).length + 8)).length = 4 := by
    simp only [List.length_append, h.ty_length, be16_length]
  have hbody : (msg.buffer.drop 4).take ((encodeAll rs).length + 28 - 12) =
      id.toList ++ encodeAll rs := by
    have hl : (id.toList ++ encodeAll rs).length = (encodeAll rs).length + 28 - 12 := by
      simp only [List.length_append, h.id_length]
      omega
    have hsplit : msg.buffer = ty ++ be16 ((encodeAll rs).length + 8) ++
        ((id.toList ++ encodeAll rs) ++ (r.encode ++ tail)) := by
      rw [h.buffer, henc]
      simp only [encodeAll_append, encodeAll_singleton, List.append_assoc]
    rw [hsplit, List.drop_left' h4, List.take_left' hl]
  have htake : (msg.buffer.drop 0).take 2 = ty := by
    rw [List.drop_zero, h.buffer]
    simp only [List.append_assoc]
    rw [← h.ty_length, List.take_left]
  rw [stunFingerprint, if_neg (by rw [UInt16.lt_iff_toNat_lt, hnat]; simp), hnat, hsub,
    readSlice_of_le (by omega), readSlice_of_le (by omega), htake, hbody]
  rfl

/-- The MESSAGE-INTEGRITY of a message that has just got room for it is computed
over the message that it will be: in the WLM 2009 mode with its final length, and
in the others up to the MESSAGE-INTEGRITY. -/
lemma builtSha1_laid {agent : StunAgentConfig} {r : Attribute na}
    (h : Laid na msg ty id.toList (rs ++ [r]) tail) (hr : r.encode.length = 24) (key : Bytes) :
    builtSha1 crypto agent msg key = .ok (crypto.hmacSha1 key
      (integrityText agent.compatibility msg.buffer (20 + (encodeAll rs).length + 4)
        (20 + (encodeAll rs).length + 24 + if agent.fingerprinted then 8 else 0))) := by
  have hlt := h.lt
  have hlen := h.bufferLen
  have henc : (encodeAll (rs ++ [r])).length = (encodeAll rs).length + 24 := by
    rw [encodeAll_append, encodeAll_singleton, List.length_append, hr]
  have hlength := h.messageLength
  rw [henc] at hlt hlen hlength
  set len := UInt16.ofNat (20 + ((encodeAll rs).length + 24)) with hlen'
  have hnat : len.toNat = 20 + (encodeAll rs).length + 4 + 20 := by
    rw [hlen', UInt16.toNat_ofNat']
    omega
  have hsub (k : UInt16) (hk : k ≤ 20) : (len - k).toNat = len.toNat - k.toNat := by
    have : k.toNat ≤ 20 := UInt16.le_iff_toNat_le.mp hk
    exact UInt16.toNat_sub_of_le _ _ (by rw [UInt16.le_iff_toNat_le, hnat]; omega)
  have hsha (msgLen : ℕ) (padding : Bool) := @stunSha1_eq crypto msg.buffer key
    (20 + (encodeAll rs).length + 4) msgLen padding (by omega) (by omega)
  have h20 : (len - 20).toNat = 20 + (encodeAll rs).length + 4 := by
    rw [hsub 20 (by decide), hnat]
    rfl
  rw [builtSha1, hlength]
  simp only [bind, Except.bind, StunAgentConfig.fingerprinted]
  obtain ⟨compatibility, known, flags, software⟩ := agent
  cases compatibility with
  | rfc3489 => simp only [h20, hnat, hsha]; simp [integrityText, integrityPadding]
  | oc2007 => simp only [h20, hnat, hsha]; simp [integrityText, integrityPadding]
  | rfc5389 => simp only [h20, hnat, hsha]; simp [integrityText, integrityPadding]
  | wlm2009 =>
      have h12 : (len - 12).toNat = 20 + (encodeAll rs).length + 12 := by
        rw [hsub 12 (by decide), hnat]
        rfl
      simp only [hnat, hsha]
      by_cases hfpr : flags.useFingerprint = true
      · have hminus : (20 : UInt16) - 8 = 12 := rfl
        have htotal :
            20 + (encodeAll rs).length + 24 + 8 - 20 = 20 + (encodeAll rs).length + 12 := by
          omega
        simp [hfpr, hminus, h12, integrityText, integrityPadding, StunCompatibility.usesCookie,
          htotal]
      · have htotal : 20 + (encodeAll rs).length + 24 - 20 = 20 + (encodeAll rs).length + 4 := by
          omega
        simp [hfpr, h20, integrityText, integrityPadding, htotal]

end Digest

/-! ### Finishing a message -/

lemma attributeStep_of_dvd (na : Bool) {n : ℕ} (h : 4 ∣ n) : attributeStep na n = n := by
  rw [attributeStep, stunAlign]
  split <;> omega

/-- Room for a value is cut off the free room of a message. -/
lemma append_room (type : StunAttribute) {n : ℕ} (h : Laid na msg ty id.toList rs tail)
    (hroom : 4 + attributeStep na n ≤ tail.length) (hn : n + 3 < 65536)
    (hlt : 20 + (encodeAll rs).length + 4 + attributeStep na n < 65536) :
    ∃ buffer tail' old, ∃ hold : old.length + 3 < 65536, old.length = n ∧
      tail.length = 4 + attributeStep na n + tail'.length ∧
      stunMessageAppend msg type n =
        .ok ({ msg with buffer }, some (20 + (encodeAll rs).length + 4)) ∧
      Laid na { msg with buffer } ty id.toList
        (rs ++ [attributeOf na (hasCookie id.toList) (msg.wireType type) old hold]) tail' := by
  have hpad := wirePadding_length na n
  obtain ⟨hd, old, pad, rest, rfl, hhd, hold, hpadlen⟩ : ∃ hd old pad rest : Bytes,
      tail = hd ++ (old ++ (pad ++ rest)) ∧ hd.length = 4 ∧ old.length = n ∧
        pad.length = (wirePadding na n).length := by
    refine ⟨tail.take 4, (tail.drop 4).take n,
      ((tail.drop 4).drop n).take (wirePadding na n).length,
      ((tail.drop 4).drop n).drop (wirePadding na n).length, ?_, ?_, ?_, ?_⟩
    · simp only [List.take_append_drop]
    all_goals simp only [List.length_take, List.length_drop]; omega
  have hold' : old.length + 3 < 65536 := by omega
  obtain ⟨buffer, happ, hlaid⟩ := append_laid type h hhd hold hpadlen hlt hold'
  refine ⟨buffer, rest, old, hold', hold, ?_, happ, hlaid⟩
  simp only [List.length_append]
  omega

/-- The value of the first attribute of its type. -/
lemma attributeValue_firstOf {ops : List Append} {t : StunAttribute} {op : Append}
    (h : Laid na msg ty id.toList rs tail) (hrs : List.Forall₂ (Encodes msg.wireType id) ops rs)
    (hop : FirstOf t ops op) :
    attributeValue msg t = .ok (some (foundValue na id (op.value id))) := by
  obtain ⟨ptr, len, hfind, hread⟩ := (finds_of_firstOf h hrs hop).value
  rw [attributeValue, hfind]
  simp only [bind, Except.bind, hread]
  rfl

/-- The attributes that `stun_agent_finish_message` appends. -/
def StunAgentConfig.signature (agent : StunAgentConfig) (sha : Bytes) (fpr : UInt32) :
    List Append :=
  .bytes STUN_ATTRIBUTE_MESSAGE_INTEGRITY sha ::
    if agent.fingerprinted then [.word32 STUN_ATTRIBUTE_FINGERPRINT fpr] else []

section Finish

variable {agent : StunAgentConfig} {size : ℕ} {c : StunClass} {ops : List Append}
  {msg' : StunMessage}

/-- The long-term key is the one of the user that the message names. -/
lemma builtLongTermKey_derived {key : Bytes} {skip : Bool} (hvalid : msg.longTermValid = false)
    (h : builtLongTermKey crypto agent msg key = .ok (msg', skip))
    (hlong : agent.usageFlags.longTermCredentials → ∃ realm username,
      attributeValue msg STUN_ATTRIBUTE_REALM = .ok (some realm) ∧
      attributeValue msg STUN_ATTRIBUTE_USERNAME = .ok (some username)) :
    skip = false ∧ msg' = { msg with
      longTermKey := msg'.longTermKey, longTermValid := msg'.longTermValid } ∧
    DerivedKey crypto agent msg key
      (if agent.usageFlags.longTermCredentials then msg'.longTermKey else key) := by
  rw [builtLongTermKey, hvalid] at h
  simp only [Bool.false_eq_true, if_false] at h
  by_cases hl : agent.usageFlags.longTermCredentials = true
  · obtain ⟨realm, username, hrealm, husername⟩ := hlong hl
    rw [if_pos hl, hrealm, husername] at h
    simp only [bind, Except.bind] at h
    cases hmd5 : stunHashCreds crypto realm username key with
    | error e => simp [hmd5] at h
    | ok md5 =>
        rw [hmd5] at h
        obtain ⟨rfl, rfl⟩ := Prod.mk.inj (Except.ok.inj h)
        refine ⟨rfl, rfl, ?_⟩
        rw [DerivedKey, if_pos hl, if_pos hl]
        exact ⟨realm, username, hrealm, husername, hmd5⟩
  · rw [if_neg hl] at h
    obtain ⟨rfl, rfl⟩ := Prod.mk.inj (Except.ok.inj h)
    exact ⟨rfl, rfl, by rw [DerivedKey, if_neg hl, if_neg hl]⟩

/-- `stun_agent_finish_message` appends the MESSAGE-INTEGRITY of the message that
it will be in the end. -/
lemma appendIntegrity_laid {key : Bytes} {fits : Bool}
    (hlaid : Laid na msg ty id.toList rs tail) (hroom : 24 ≤ tail.length)
    (hlt : 20 + (encodeAll rs).length + 24 < 65536) (hvalid : msg.longTermValid = false)
    (hlong : agent.usageFlags.longTermCredentials → ∃ realm username,
      attributeValue msg STUN_ATTRIBUTE_REALM = .ok (some realm) ∧
      attributeValue msg STUN_ATTRIBUTE_USERNAME = .ok (some username))
    (h : appendIntegrity crypto agent msg (some key) = .ok (msg', fits)) :
    fits = true ∧ msg'.agent = msg.agent ∧ ∃ derived sha tail', ∃ hsha : sha.length + 3 < 65536,
      sha.length = 20 ∧ tail.length = 24 + tail'.length ∧
      DerivedKey crypto agent msg key derived ∧
      sha = crypto.hmacSha1 derived (integrityText agent.compatibility msg'.buffer
        (20 + (encodeAll rs).length + 4)
        (20 + (encodeAll rs).length + 24 + if agent.fingerprinted then 8 else 0)) ∧
      Laid na msg' ty id.toList (rs ++ [attributeOf na (hasCookie id.toList)
        (msg.wireType STUN_ATTRIBUTE_MESSAGE_INTEGRITY) sha hsha]) tail' := by
  have hstep : attributeStep na 20 = 20 := attributeStep_of_dvd na (by decide)
  rw [appendIntegrity] at h
  obtain ⟨⟨msg₁, skip⟩, hkey, h⟩ := bind_eq_ok.mp h
  obtain ⟨rfl, hmsg₁, hderived⟩ := builtLongTermKey_derived hvalid hkey hlong
  have hlaid₁ : Laid na msg₁ ty id.toList rs tail := by
    rw [hmsg₁]
    exact ⟨hlaid.noAligned, hlaid.ty_length, hlaid.id_length, hlaid.lt, hlaid.buffer⟩
  have hagent₁ : msg₁.agent = msg.agent := by rw [hmsg₁]
  have hwire : msg₁.wireType = msg.wireType := by rw [hmsg₁]; rfl
  obtain ⟨b₂, tail', old, hold', hold, htail', happ, hlaid₂⟩ := append_room
    STUN_ATTRIBUTE_MESSAGE_INTEGRITY (n := 20) hlaid₁ (by omega) (by omega) (by omega)
  have henc := @attributeOf_encode_length na (hasCookie id.toList)
    (msg₁.wireType STUN_ATTRIBUTE_MESSAGE_INTEGRITY) old hold'
  rw [hold, hstep] at henc
  have hbuilt := @builtSha1_laid na id crypto _ _ _ _ agent _ hlaid₂ henc
    (if agent.usageFlags.longTermCredentials then msg₁.longTermKey else key)
  simp only [Bool.false_eq_true, if_false, happ, bind, Except.bind] at h
  generalize (if agent.usageFlags.longTermCredentials then msg₁.longTermKey else key) = derived
    at h hderived hbuilt
  rw [integrityText_laid hlaid₂] at hbuilt
  set text := _ ++ integrityPadding agent.compatibility _ with htext
  have hshalen : (crypto.hmacSha1 derived text).length = old.length := by
    rw [crypto.hmacSha1_length, hold]
  obtain ⟨b₃, hwrite, hlaid₃⟩ := writeValue_laid hlaid₂ hshalen
  simp only [hbuilt, hwrite] at h
  obtain ⟨rfl, rfl⟩ := Prod.mk.inj (Except.ok.inj h)
  rw [hwire] at hlaid₃
  refine ⟨rfl, hagent₁, derived, _, tail', hshalen ▸ hold', crypto.hmacSha1_length _ _, by omega,
    hderived, ?_, hlaid₃⟩
  rw [integrityText_laid hlaid₃]

/-- `stun_agent_finish_message` appends the FINGERPRINT of the message that it
will be in the end. -/
lemma appendFingerprint_laid {fits : Bool} (hlaid : Laid na msg ty id.toList rs tail)
    (hroom : 8 ≤ tail.length) (hlt : 20 + (encodeAll rs).length + 8 < 65536)
    (hfpr : agent.fingerprinted = true) (h : appendFingerprint agent msg = .ok (msg', fits)) :
    fits = true ∧ msg'.agent = msg.agent ∧ ∃ fpr tail', ∃ hlen : (be32 fpr).length + 3 < 65536,
      stunFingerprint msg'.buffer (UInt16.ofNat (28 + (encodeAll rs).length))
        (agent.compatibility = .wlm2009) = .ok fpr ∧
      Laid na msg' ty id.toList (rs ++ [attributeOf na (hasCookie id.toList)
        (msg.wireType STUN_ATTRIBUTE_FINGERPRINT) (be32 fpr) hlen]) tail' := by
  have hstep : attributeStep na 4 = 4 := attributeStep_of_dvd na (by decide)
  obtain ⟨b₁, tail', old, hold', hold, -, happ, hlaid₁⟩ := append_room
    STUN_ATTRIBUTE_FINGERPRINT (n := 4) hlaid (by omega) (by omega) (by omega)
  have henc (v : Bytes) (hv : v.length + 3 < 65536) (h4 : v.length = 4) :
      (attributeOf na (hasCookie id.toList) (msg.wireType STUN_ATTRIBUTE_FINGERPRINT) v
        hv).encode.length = 8 := by
    rw [attributeOf_encode_length, h4, hstep]
  have hsize (v : Bytes) (hv : v.length + 3 < 65536) (h4 : v.length = 4) :
      20 + (encodeAll (rs ++ [attributeOf na (hasCookie id.toList)
        (msg.wireType STUN_ATTRIBUTE_FINGERPRINT) v hv])).length = 28 + (encodeAll rs).length := by
    rw [encodeAll_append, encodeAll_singleton, List.length_append, henc v hv h4]
    omega
  have hfp := stunFingerprint_laid hlaid₁ (henc old hold' hold) (agent.compatibility = .wlm2009)
  have hlength := hlaid₁.messageLength
  set fpr := stunCrc32 [ty, be16 ((encodeAll rs).length + 8), id.toList ++ encodeAll rs]
    (decide (agent.compatibility = .wlm2009)) ^^^ 0x5354554e
  obtain ⟨b₂, hwrite, hlaid₂⟩ := writeValue_laid hlaid₁ (v := be32 fpr) (by rw [hold, be32_length])
  rw [appendFingerprint, if_pos hfpr, happ] at h
  simp only [bind, Except.bind, hlength] at h
  simp only [hfp, hwrite] at h
  obtain ⟨rfl, rfl⟩ := Prod.mk.inj (Except.ok.inj h)
  refine ⟨rfl, rfl, fpr, tail', by simp, ?_, hlaid₂⟩
  have hfp₂ := stunFingerprint_laid hlaid₂ (henc _ _ rfl) (agent.compatibility = .wlm2009)
  rw [hsize _ _ rfl] at hfp₂
  exact hfp₂

lemma wireType_congr (h : msg'.agent = msg.agent) : msg'.wireType = msg.wireType := by
  funext t
  rw [StunMessage.wireType, StunMessage.wireType, h]

/-- The message `msg'` of `n` bytes is the message with the attributes of the
calls `ops`, signed with the key `derived`. -/
structure Signed (crypto : StunCrypto) (agent : StunAgentConfig) (id : Vector UInt8 16)
    (c : StunClass) (ops : List Append) (wire : StunAttribute → StunAttribute) (derived : Bytes)
    (msg' : StunMessage) (n : ℕ) (sha : Bytes) (fpr : UInt32) : Prop where
  laid : ∃ m rs tail, Laid agent.usageFlags.noAlignedAttributes msg' (stunTypeBytes c m)
      (agent.transactionId id).toList rs tail ∧
    List.Forall₂ (Encodes wire (agent.transactionId id)) (ops ++ agent.signature sha fpr) rs ∧
    n = 20 + (encodeAll rs).length
  sha_length : sha.length = 20
  sha_eq : sha = crypto.hmacSha1 derived
    (integrityText agent.compatibility msg'.buffer (agent.size id ops + 4) n)
  fpr_eq : agent.fingerprinted = true →
    stunFingerprint msg'.buffer (UInt16.ofNat n) (agent.compatibility = .wlm2009) = .ok fpr

/-- `stun_agent_finish_message` after the MESSAGE-INTEGRITY: a FINGERPRINT, if
the agent uses it. -/
lemma appendFingerprint_encodes {fits : Bool} {wire : StunAttribute → StunAttribute}
    (hlaid : Laid na msg ty id.toList rs tail) (hrs : List.Forall₂ (Encodes wire id) ops rs)
    (hwire : msg.wireType = wire)
    (hroom : (if agent.fingerprinted then 8 else 0) ≤ tail.length)
    (hlt : 20 + (encodeAll rs).length + (if agent.fingerprinted then 8 else 0) < 65536)
    (h : appendFingerprint agent msg = .ok (msg', fits)) :
    fits = true ∧ ∃ fpr more tail', Laid na msg' ty id.toList (rs ++ more) tail' ∧
      List.Forall₂ (Encodes wire id)
        (ops ++ if agent.fingerprinted then [.word32 STUN_ATTRIBUTE_FINGERPRINT fpr] else [])
        (rs ++ more) ∧
      (encodeAll (rs ++ more)).length =
        (encodeAll rs).length + (if agent.fingerprinted then 8 else 0) ∧
      (agent.fingerprinted = true → stunFingerprint msg'.buffer
        (UInt16.ofNat (20 + (encodeAll (rs ++ more)).length))
        (agent.compatibility = .wlm2009) = .ok fpr) := by
  by_cases hfpr : agent.fingerprinted = true
  · rw [if_pos hfpr] at hroom hlt
    obtain ⟨rfl, -, fpr, tail', hlen, hfp, hlaid'⟩ :=
      appendFingerprint_laid hlaid hroom hlt hfpr h
    have hrecord : (attributeOf na (hasCookie id.toList) (msg.wireType STUN_ATTRIBUTE_FINGERPRINT)
        (be32 fpr) hlen).encode.length = 8 := by
      rw [attributeOf_encode_length, be32_length, attributeStep_of_dvd na (by decide)]
    have henc : (encodeAll (rs ++ [attributeOf na (hasCookie id.toList)
        (msg.wireType STUN_ATTRIBUTE_FINGERPRINT) (be32 fpr) hlen])).length =
        (encodeAll rs).length + 8 := by
      rw [encodeAll_append, encodeAll_singleton, List.length_append, hrecord]
    refine ⟨rfl, fpr, _, tail', hlaid', ?_, by rw [henc, if_pos hfpr], fun _ => ?_⟩
    · rw [if_pos hfpr, hwire]
      exact List.rel_append hrs (.cons
        (encodes_attributeOf wire (.word32 STUN_ATTRIBUTE_FINGERPRINT fpr) hlen) .nil)
    · rw [henc, ← hfp]
      congr 2
      omega
  · rw [appendFingerprint, if_neg hfpr] at h
    obtain ⟨rfl, rfl⟩ := Prod.mk.inj (Except.ok.inj h)
    refine ⟨rfl, 0, [], tail, by simpa using hlaid, by simpa [hfpr] using hrs, by simp [hfpr],
      fun hf => absurd hf hfpr⟩

/-- A message that `stun_agent_finish_message` has finished is signed. -/
theorem finish_signed {a a' : StunAgent} {key : Bytes} {n : ℕ}
    (h : Begun a.toStunAgentConfig id size c ops msg)
    (hlong : a.usageFlags.longTermCredentials → ∃ realm username,
      attributeValue msg STUN_ATTRIBUTE_REALM = .ok (some realm) ∧
      attributeValue msg STUN_ATTRIBUTE_USERNAME = .ok (some username))
    (hlt : a.size id ops + 24 + (if a.fingerprinted then 8 else 0) < 65536)
    (hfit : a.size id ops + 24 + (if a.fingerprinted then 8 else 0) ≤ size)
    (hfin : stunAgentFinishMessage crypto a msg (some key) = .ok (n, msg', a')) (hn : 0 < n) :
    ∃ derived sha fpr, DerivedKey crypto a.toStunAgentConfig msg key derived ∧
      Signed crypto a.toStunAgentConfig id c ops msg.wireType derived msg' n sha fpr := by
  obtain ⟨m, rs, tail, hlaid, hrs⟩ := h.laid
  have hsize := messageSize_eq hrs
  have hlen := hlaid.bufferLen
  rw [h.size, hsize] at hlen
  rw [StunAgentConfig.size] at hlt hfit
  rw [stunAgentFinishMessage] at hfin
  obtain ⟨c', hc', hfin⟩ := bind_eq_ok.mp hfin
  cases hfree : freeSentId a c' with
  | none =>
      rw [hfree] at hfin
      obtain ⟨rfl, -⟩ := Prod.mk.inj (Except.ok.inj hfin)
      omega
  | some idx =>
  rw [hfree, h.key, Option.none_or] at hfin
  obtain ⟨⟨msg₁, fits₁⟩, hintegrity, hfin⟩ := bind_eq_ok.mp hfin
  obtain ⟨rfl, hagent₁, derived, sha, tail₁, hsha, hsha20, htail₁, hderived, htext,
      hlaid₁⟩ :=
    appendIntegrity_laid hlaid (by omega) (by omega) h.longTermValid hlong hintegrity
  have hrs₁ := List.rel_append hrs (.cons (encodes_attributeOf msg.wireType
    (.bytes STUN_ATTRIBUTE_MESSAGE_INTEGRITY sha) hsha) .nil)
  have hlen₁ : (encodeAll (rs ++ [attributeOf a.usageFlags.noAlignedAttributes
      (hasCookie (a.transactionId id).toList)
      (msg.wireType STUN_ATTRIBUTE_MESSAGE_INTEGRITY) sha hsha])).length =
      (encodeAll rs).length + 24 := by
    rw [encodeAll_append, encodeAll_singleton, List.length_append, attributeOf_encode_length,
      hsha20, attributeStep_of_dvd _ (by decide)]
  obtain ⟨⟨msg₂, fits₂⟩, hfpr, hfin⟩ := bind_eq_ok.mp hfin
  obtain ⟨rfl, fpr, more, tail₂, hlaid₂, hrs₂, hlen₂, hfp⟩ := appendFingerprint_encodes hlaid₁ hrs₁
    (wireType_congr hagent₁) (by omega) (by omega) hfpr
  obtain ⟨a₂, hsave, hfin⟩ := bind_eq_ok.mp hfin
  obtain ⟨len, hlen₃, hfin⟩ := bind_eq_ok.mp hfin
  obtain ⟨rfl, hmsg⟩ := Prod.mk.inj (Except.ok.inj hfin)
  obtain ⟨rfl, rfl⟩ := Prod.mk.inj hmsg
  have hlaid₃ : Laid a.usageFlags.noAlignedAttributes { msg₂ with key := some key }
      (stunTypeBytes c m) (a.transactionId id).toList _ tail₂ :=
    ⟨hlaid₂.noAligned, hlaid₂.ty_length, hlaid₂.id_length, hlaid₂.lt, hlaid₂.buffer⟩
  obtain rfl := Except.ok.inj (hlaid₃.messageLength.symm.trans hlen₃)
  have hlt₂ := hlaid₂.lt
  have hn' : (UInt16.ofNat (20 + (encodeAll (rs ++ [attributeOf a.usageFlags.noAlignedAttributes
      (hasCookie (a.transactionId id).toList)
      (msg.wireType STUN_ATTRIBUTE_MESSAGE_INTEGRITY) sha hsha] ++ more)).length)).toNat =
      20 + (encodeAll rs).length + 24 + if a.fingerprinted then 8 else 0 := by
    rw [UInt16.toNat_ofNat', Nat.mod_eq_of_lt hlt₂, hlen₂, hlen₁]
    omega
  have hlaid₄ := hlaid₃
  rw [List.append_assoc] at hlaid₄
  refine ⟨derived, sha, fpr, hderived, ⟨m, _, tail₂, hlaid₃, ?_, ?_⟩, hsha20, ?_, fun hf => ?_⟩
  · rw [StunAgentConfig.signature, ← List.singleton_append, ← List.append_assoc]
    exact hrs₂
  · rw [hn', hlen₂, hlen₁]
    omega
  · rw [hn', htext, StunAgentConfig.size, ← hsize, integrityText_laid hlaid₁,
      integrityText_laid hlaid₄]
  · rw [UInt16.ofNat_toNat]
    exact hfp hf

end Finish

end LibNice.Stun
