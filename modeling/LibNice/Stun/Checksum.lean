import LibNice.Foundation.Crc
import LibNice.Stun.Fingerprint

/-!
What the FINGERPRINT of a message detects.

* `crc32Tab_eq`: the table is that of the polynomial `0xedb88320`.
* `stunCrc32_burst`: **a burst of up to 32 wrong bits changes the checksum.**
* `burst_refused`: **a message that such a burst has hit is refused.**
* `typo_misses_burst`: with the table of WLM 2009 a burst of 32 bits may go unnoticed.
-/

namespace LibNice.Stun

open LibNice.Foundation

variable {agent agent' : StunAgent} {msg msg' : StunMessage} {buffer buffer' : Bytes}

/-! ### The checksum -/

/-- The polynomial, without its highest term, and with the others from the low bit up. -/
def crc32Poly : BitVec 32 := 0xedb88320#32

/-- The bits of a text in the order of the checksum: the low bit of a byte comes first. -/
def bitsOf (data : Bytes) : List Bool := data.flatMap fun b => byteBits b.toBitVec

/-- **The table is that of the polynomial.** -/
lemma crc32Tab_eq (i : BitVec 8) :
    (crc32Tab.getD i.toNat 0).toBitVec = (crcShift crc32Poly)^[8] (i.setWidth 32) := by
  have hall : ∀ n < 256, (crc32Tab.getD n 0).toBitVec =
      (crcShift crc32Poly)^[8] ((BitVec.ofNat 8 n).setWidth 32) := by decide +kernel
  have hi := hall i.toNat i.isLt
  rwa [BitVec.ofNat_toNat, BitVec.setWidth_eq] at hi

/-- A byte of the loop takes the bits of the byte. -/
lemma crc32Step_eq (crc : UInt32) (p : UInt8) :
    (crc32Step false crc p).toBitVec = crcBits crc32Poly crc.toBitVec (byteBits p.toBitVec) := by
  have hindex : ((crc ^^^ p.toUInt32) &&& 0xFF).toNat =
      (crc.toBitVec.setWidth 8 ^^^ p.toBitVec).toNat := by
    have h255 : (0xFF : UInt32).toNat = 2 ^ 8 - 1 := rfl
    have hp := p.toNat_lt
    rw [UInt32.toNat_and, h255, Nat.and_two_pow_sub_one_eq_mod, UInt32.toNat_xor,
      BitVec.toNat_xor, BitVec.toNat_setWidth, Nat.xor_mod_two_pow]
    simp only [UInt32.toNat_toBitVec, UInt8.toNat_toBitVec, UInt8.toNat_toUInt32]
    rw [Nat.mod_eq_of_lt (show p.toNat < 2 ^ 8 from hp)]
  rw [crcBits_byte (by decide) crc32Tab_eq]
  simp only [crc32Step, Bool.false_eq_true, and_false, if_false, UInt32.toBitVec_xor,
    UInt32.toBitVec_shiftRight, hindex]
  rfl

lemma foldl_crc32Step (data : Bytes) (crc : UInt32) :
    (data.foldl (crc32Step false) crc).toBitVec =
      crcBits crc32Poly crc.toBitVec (bitsOf data) := by
  induction data generalizing crc with
  | nil => rfl
  | cons p data ih =>
      rw [List.foldl_cons, ih, crc32Step_eq, bitsOf, bitsOf, List.flatMap_cons, crcBits_append]

/-- **A burst of up to 32 wrong bits changes the checksum.** -/
theorem stunCrc32_burst {xs ys : Bytes} (h : Burst 32 (bitsOf xs) (bitsOf ys)) :
    stunCrc32 [xs] false ≠ stunCrc32 [ys] false := by
  intro heq
  have hxor := congrArg (· ^^^ 0xffffffff) heq
  simp only [stunCrc32, List.foldl_cons, List.foldl_nil, UInt32.xor_assoc, UInt32.xor_self,
    UInt32.xor_zero] at hxor
  have hbits := congrArg UInt32.toBitVec hxor
  rw [foldl_crc32Step, foldl_crc32Step] at hbits
  exact crcBits_burst (by decide) h _ hbits

/-! ### Messages -/

/-- The first FINGERPRINT of a message, if it has one, is its last 8 bytes. -/
def FirstFingerprintLast (na : Bool) (buffer : Bytes) : Prop :=
  ∀ (header : Bytes) (rs : List (Attribute na)) (first : Attribute na), header.length = 20 →
    buffer = header ++ encodeAll rs →
    rs.find? (fun r => r.type = STUN_ATTRIBUTE_FINGERPRINT) = some first →
    first.encode = buffer.drop (buffer.length - 8)

/-- **A message that a burst of up to 32 wrong bits has hit is refused**: if the sender has put its
fingerprint behind it, the burst is in front of the fingerprint, and what it has hit does not look
like another one, then the message is no STUN message to the agent, or a bad request. -/
theorem burst_refused (crypto : StunCrypto) (agent : StunAgent) (msg : StunMessage)
    (buffer buffer' : Bytes) (v : UInt32) (validater : Option StunMessageIntegrityValidate)
    (status : StunValidationStatus) (msg' : StunMessage) (agent' : StunAgent)
    (hon : agent.fingerprinted = true) (hcompat : agent.compatibility ≠ .wlm2009)
    (hsent : EndsWithFingerprint agent.toStunAgentConfig buffer v)
    (hlen : buffer'.length = buffer.length)
    (hburst : Burst 32 (bitsOf (buffer.take (buffer.length - 8)))
      (bitsOf (buffer'.take (buffer.length - 8))))
    (hend : buffer'.drop (buffer.length - 8) = buffer.drop (buffer.length - 8))
    (hfirst : FirstFingerprintLast agent.usageFlags.noAlignedAttributes buffer')
    (h : stunAgentValidate crypto agent msg buffer' validater = .ok (status, msg', agent')) :
    status = .notStun ∨ status = .incompleteStun ∨ status = .badRequest := by
  rw [stunAgentValidate] at h
  obtain ⟨⟨m, refused⟩, hdemux, h⟩ := bind_eq_ok.mp h
  cases refused with
  | some s =>
      obtain ⟨rfl, -⟩ := Prod.mk.inj (Except.ok.inj h)
      exact demux_some hdemux
  | none =>
      obtain ⟨len, hframed, hint, rfl, hcheck⟩ := demux_none hdemux
      obtain ⟨hmessage, header, rs, last, hheader, hbuffer, -, h4, hvalue, hv⟩ := hsent
      have hsize : buffer'.length < 2 ^ 31 := by
        have hword := (word16 (buffer.getD 2 0) (buffer.getD 3 0)).toNat_lt
        rw [messageLen] at hmessage
        omega
      obtain rfl : len = buffer'.length := by
        rw [intOfSize_of_lt hsize] at hint
        exact_mod_cast hint
      obtain ⟨header', rs', first, hheader', hbuffer', hfind, hfirstValue⟩ :=
        checkFingerprint_first hframed (hcheck hon)
      have hlast : first.encode = last.encode := by
        rw [hfirst header' rs' first hheader' hbuffer' hfind, hlen, hend, hbuffer, drop_last h4]
      have hsame : first = last := by
        have := encodeAll_injective (show encodeAll [first] = encodeAll [last] by
          rw [encodeAll_singleton, encodeAll_singleton, hlast])
        exact (List.cons.inj this).1
      have hfront : buffer.take (buffer.length - 8) = header ++ encodeAll rs := by
        rw [hbuffer]
        exact take_last h4
      -- the fingerprint is that of the message before and after the burst
      have hword : fingerprintOf agent.toStunAgentConfig (buffer'.take (buffer'.length - 8)) =
          fingerprintOf agent.toStunAgentConfig (buffer.take (buffer.length - 8)) := by
        have hbytes := hfirstValue.symm.trans (hsame ▸ hvalue)
        have hread := congrArg
          (fun l => word32 (l.getD 0 0) (l.getD 1 0) (l.getD 2 0) (l.getD 3 0)) hbytes
        rw [hfront, ← hv]
        exact (word32_be32 _).symm.trans (hread.trans (word32_be32 v))
      have htypo : decide (agent.compatibility = .wlm2009) = false := by simpa using hcompat
      rw [fingerprintOf, fingerprintOf, hlen, htypo] at hword
      have hcrc := congrArg (· ^^^ 0x5354554e) hword
      simp only [UInt32.xor_assoc, UInt32.xor_self, UInt32.xor_zero] at hcrc
      exact absurd hcrc.symm (stunCrc32_burst hburst)

/-- The request of `fingerprint_iff_sample`, with a byte of its transaction id changed. -/
def strayRequest : Bytes :=
  [0, 1] ++ be16 8 ++ be32 STUN_MAGIC_COOKIE ++ 8 :: List.replicate 11 7 ++
    [0x80, 0x28, 0, 4, 64, 78, 133, 45]

/-- A request with one wrong byte in its transaction id. -/
theorem burst_refused_sample :
    ∃ status msg' agent', stunAgentValidate (constantCrypto 0) checksumAgent (plainRequest 0 [])
        strayRequest none = .ok (status, msg', agent') ∧
      (status = .notStun ∨ status = .incompleteStun ∨ status = .badRequest) := by
  obtain ⟨msg', agent', h⟩ := @ok_of_status _ _ (stunAgentValidate (constantCrypto 0)
    checksumAgent (plainRequest 0 []) strayRequest none) .badRequest (by decide +kernel)
  let r : Attribute false := ⟨STUN_ATTRIBUTE_FINGERPRINT, 4, [64, 78, 133, 45], rfl⟩
  refine ⟨.badRequest, msg', agent', h, burst_refused (constantCrypto 0) checksumAgent
    (plainRequest 0 []) (cookieRequest [0x80, 0x28, 0, 4, 64, 78, 133, 45]) strayRequest
    (word32 64 78 133 45) none .badRequest msg' agent' rfl (by decide)
    ⟨by decide, (cookieRequest [0x80, 0x28, 0, 4, 64, 78, 133, 45]).take 20, [], r, rfl,
      by decide, rfl, rfl, rfl, by decide +kernel⟩ rfl
    ⟨bitsOf (strayRequest.take 8), byteBits 7, byteBits 8, bitsOf (List.replicate 11 7),
      by decide +kernel, by decide +kernel, rfl, by decide, by decide⟩ rfl ?_ h⟩
  intro header rs first hheader hbuffer hfind
  obtain ⟨-, rfl⟩ := header_encodeAll_inj hheader
    (show (strayRequest.take 20).length = 20 by decide) (hbuffer.symm.trans
      (show strayRequest = strayRequest.take 20 ++ encodeAll [r] by decide))
  obtain rfl : r = first := Option.some.inj hfind
  decide

/-- The agent of WLM 2009 that demands a FINGERPRINT and no credentials. -/
def typoAgent : StunAgent := { checksumAgent with compatibility := .wlm2009 }

/-- A request with `word` in the middle of its transaction id, and a fingerprint. -/
def wordRequest (word : Bytes) : Bytes :=
  [0, 1] ++ be16 8 ++ be32 STUN_MAGIC_COOKIE ++ List.replicate 4 7 ++ word ++
    List.replicate 4 7 ++ [0x80, 0x28, 0, 4, 31, 214, 179, 239]

/-- **The wrong table entry misses a burst**: two requests that differ in 32 bits of the transaction
id have the same fingerprint, and an agent of WLM 2009 accepts them both. -/
theorem typo_misses_burst :
    Burst 32 (bitsOf (wordRequest [23, 237, 155, 147])) (bitsOf (wordRequest [141, 145, 158, 96])) ∧
    (∃ msg' agent', stunAgentValidate (constantCrypto 0) typoAgent (plainRequest 0 [])
      (wordRequest [23, 237, 155, 147]) none = .ok (.success, msg', agent')) ∧
    (∃ msg' agent', stunAgentValidate (constantCrypto 0) typoAgent (plainRequest 0 [])
      (wordRequest [141, 145, 158, 96]) none = .ok (.success, msg', agent')) :=
  ⟨⟨bitsOf ((wordRequest []).take 12), bitsOf [23, 237, 155, 147], bitsOf [141, 145, 158, 96],
      bitsOf ((wordRequest []).drop 12), by decide +kernel, by decide +kernel, rfl, by decide,
      by decide⟩,
    @ok_of_status _ _ _ StunValidationStatus.success (by decide +kernel),
    @ok_of_status _ _ _ StunValidationStatus.success (by decide +kernel)⟩

end LibNice.Stun
