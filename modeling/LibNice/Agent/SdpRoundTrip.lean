import LibNice.Agent.Sdp
import LibNice.Ice.Unfreezing

/-!
What is read from the SDP that was generated (`agent/agent.c`).

* `SdpCandidate.Local`, `SdpStream.Local`: the candidates and the streams that SDP is generated for.
* `AddressText.Documented`: what is relied on of the text of an address.
* `generateCandidateSdp_eq`: the line of a candidate, token by token.
* `parseCandidate_generated`: **what is read from it** is `SdpCandidate.reread`.
* `parseStream_generated`: what is read from the SDP of a stream.
* `sdp_roundTrip_iff`: when that is what was generated.
-/

namespace LibNice.Sdp

open LibNice.Foundation LibNice.Stun LibNice.Ice

/-! ### What SDP is generated for -/

/-- An `ice-char`: a letter, a digit, `+` or `/`. -/
def isIceChar (b : UInt8) : Bool :=
  isDigit b || (65 ≤ b.toNat && b.toNat ≤ 90) || (97 ≤ b.toNat && b.toNat ≤ 122) ||
    b = charByte '+' || b = charByte '/'

/-- An address with a port, as a socket has it. -/
structure AddressWithPort (addr : NiceAddress) : Prop where
  length : addr.ip.length = if addr.ip6 then 16 else 4
  pos : addr.port ≠ 0
  lt : addr.port < 2 ^ 16

/-- A candidate with a foundation of 1 to 32 ICE characters, whose addresses have ports. -/
structure SdpCandidate.Local (candidate : SdpCandidate) : Prop where
  pos : 1 ≤ candidate.foundation.length
  le : candidate.foundation.length ≤ 32
  ice : ∀ b ∈ candidate.foundation, isIceChar b = true
  addr : AddressWithPort candidate.addr
  base : ∀ baseAddr, candidate.baseAddr = some baseAddr → AddressWithPort baseAddr

/-- A stream of such candidates.  Its credentials are those of ICE and its name is a media type, so
none of them has a line end. -/
structure SdpStream.Local (stream : SdpStream) : Prop where
  candidates : ∀ candidate ∈ stream.candidates, candidate.Local
  name : ∀ name, stream.name = some name → newline ∉ name
  ufrag : newline ∉ stream.localUfrag
  password : newline ∉ stream.localPassword

/-- A text without blanks and line ends. -/
def Graphic (text : Bytes) : Prop := ∀ b ∈ text, 32 < b.toNat

/-- The text of an IP is read as this IP, without a port and a scope, and is graphic. -/
structure AddressText.Documented (text : AddressText) : Prop where
  reads : ∀ ip6 ip, ip.length = (if ip6 then 16 else 4) →
    text.getaddrinfo (text.inetNtop ip6 ip) = some ⟨ip6, ip, 0, 0⟩
  graphic : ∀ ip6 ip, Graphic (text.inetNtop ip6 ip)

/-! ### What is asked -/

/-- The base address is written: it is valid and another one than the address. -/
def SdpCandidate.WritesBase (candidate : SdpCandidate) (baseAddr : NiceAddress) : Prop :=
  candidate.baseAddr = some baseAddr ∧ candidate.addr ≠ baseAddr

/-- `read` is what `candidate` is, as far as SDP tells. -/
structure SdpCandidate.Same (candidate read : SdpCandidate) : Prop where
  foundation : read.foundation = candidate.foundation
  componentId : read.componentId = candidate.componentId
  transport : read.transport = candidate.transport
  priority : read.priority = candidate.priority
  type : read.type = candidate.type
  addr : read.addr = candidate.addr
  base : ∀ baseAddr, candidate.WritesBase baseAddr → read.baseAddr = some baseAddr

/-- The addresses that are written have no scope, and a base address has the port of the address. -/
def SdpCandidate.Fits (candidate : SdpCandidate) : Prop :=
  candidate.addr.scopeId = 0 ∧ ∀ baseAddr, candidate.WritesBase baseAddr →
    baseAddr.scopeId = 0 ∧ baseAddr.port = candidate.addr.port

/-- What is read of a candidate. -/
def SdpCandidate.reread (candidate : SdpCandidate) (sid : StreamId) : SdpCandidate :=
  { candidate with
    streamId := sid
    addr := { candidate.addr with scopeId := 0 }
    baseAddr := candidate.baseAddr.bind fun baseAddr =>
      if candidate.addr ≠ baseAddr then
        some { baseAddr with port := candidate.addr.port, scopeId := 0 }
      else none }

/-- **A candidate is read as it was** just when it fits. -/
lemma SdpCandidate.same_reread_iff {candidate : SdpCandidate} {sid : StreamId} :
    candidate.Same (candidate.reread sid) ↔ candidate.Fits := by
  have haddr (addr : NiceAddress) (port : ℕ) :
      { addr with port, scopeId := 0 } = addr ↔ addr.scopeId = 0 ∧ addr.port = port := by
    cases addr
    simp only [NiceAddress.mk.injEq, true_and]
    tauto
  have hread {baseAddr : NiceAddress} (h : candidate.WritesBase baseAddr) :
      (candidate.reread sid).baseAddr =
        some { baseAddr with port := candidate.addr.port, scopeId := 0 } := by
    rw [reread]
    dsimp only
    rw [h.1, Option.bind_some, if_pos h.2]
  constructor
  · intro h
    refine ⟨((haddr _ _).mp h.addr).1, fun baseAddr hb => ?_⟩
    have hbase := h.base baseAddr hb
    rw [hread hb, Option.some.injEq] at hbase
    exact (haddr _ _).mp hbase
  · rintro ⟨hscope, hbase⟩
    refine ⟨rfl, rfl, rfl, rfl, rfl, (haddr _ _).mpr ⟨hscope, rfl⟩, fun baseAddr hb => ?_⟩
    rw [hread hb, (haddr _ _).mpr (hbase baseAddr hb)]

/-! ### The line of a candidate -/

section Graphic

variable {s t : Bytes}

lemma Graphic.append (hs : Graphic s) (ht : Graphic t) : Graphic (s ++ t) := fun b hb =>
  (List.mem_append.mp hb).elim (hs b) (ht b)

lemma Graphic.not_mem {b : UInt8} (h : Graphic s) (hb : b.toNat ≤ 32) : b ∉ s :=
  fun hmem => absurd (h b hmem) (not_lt.mpr hb)

lemma graphic_of_isDigit (h : ∀ b ∈ s, isDigit b = true) : Graphic s := fun b hb => by
  have hdigit := h b hb
  simp only [isDigit, Bool.and_eq_true, decide_eq_true_eq] at hdigit
  omega

lemma graphic_decimal (n : ℕ) : Graphic (decimal n) := graphic_of_isDigit fun _ => mem_decimal

lemma graphic_formatWord (x : UInt32) : Graphic (formatWord x) := fun b hb => by
  rcases mem_signedDecimal hb with h | rfl
  · simp only [isDigit, Bool.and_eq_true, decide_eq_true_eq] at h
    omega
  · decide

lemma graphic_of_isIceChar (h : ∀ b ∈ s, isIceChar b = true) : Graphic s := fun b hb => by
  have hice := h b hb
  simp only [isIceChar, isDigit, Bool.or_eq_true, Bool.and_eq_true, decide_eq_true_eq] at hice
  rcases hice with (((h | h) | h) | rfl) | rfl
  · omega
  · omega
  · omega
  · decide
  · decide

instance : Decidable (Graphic s) := inferInstanceAs (Decidable (∀ b ∈ s, 32 < b.toNat))

lemma graphic_candTypeToSdp (type : NiceCandidateType) : Graphic (candTypeToSdp type) := by
  cases type <;> decide +kernel

lemma graphic_transportToSdp (transport : NiceCandidateTransport) :
    Graphic (transportToSdp transport) := by
  cases transport <;> decide +kernel

lemma graphic_transportToSdpTcptype (transport : NiceCandidateTransport) :
    Graphic (transportToSdpTcptype transport) := by
  cases transport <;> decide +kernel

end Graphic

section Candidate

variable {text : AddressText} {candidate : SdpCandidate} {sid : StreamId}

/-- The tokens of a base address. -/
def baseTokens (text : AddressText) (candidate : SdpCandidate) : List Bytes :=
  match candidate.baseAddr with
  | some baseAddr =>
      if candidate.addr ≠ baseAddr then
        [ascii "raddr", text.toText baseAddr, ascii "rport", sdpPort candidate.addr.port]
      else []
  | none => []

/-- The tokens of a TCP candidate. -/
def tcpTokens (candidate : SdpCandidate) : List Bytes :=
  if candidate.transport ≠ .udp then
    [ascii "tcptype", transportToSdpTcptype candidate.transport]
  else []

/-- The tokens of a candidate. -/
def candidateTokens (text : AddressText) (candidate : SdpCandidate) : List Bytes :=
  candidate.foundation :: formatWord candidate.componentId :: transportToSdp candidate.transport ::
    formatWord candidate.priority :: text.toText candidate.addr :: sdpPort candidate.addr.port ::
    ascii "typ" :: candTypeToSdp candidate.type ::
      (baseTokens text candidate ++ tcpTokens candidate)

/-- **The line of a candidate**: its tokens with blanks between them. -/
lemma generateCandidateSdp_eq (h : candidate.foundation.length ≤ 32) :
    generateCandidateSdp text candidate =
      ascii "a=candidate:" ++ [32].intercalate (candidateTokens text candidate) := by
  have hblank : ascii " " = [32] := rfl
  have htyp : ascii " typ " = [32] ++ ascii "typ" ++ [32] := rfl
  have hraddr : ascii " raddr " = [32] ++ ascii "raddr" ++ [32] := rfl
  have hrport : ascii " rport " = [32] ++ ascii "rport" ++ [32] := rfl
  have htcptype : ascii " tcptype " = [32] ++ ascii "tcptype" ++ [32] := rfl
  have hfoundation : candidate.foundation.take NICE_CANDIDATE_MAX_FOUNDATION =
      candidate.foundation := List.take_of_length_le (by rw [NICE_CANDIDATE_MAX_FOUNDATION]; omega)
  rw [generateCandidateSdp, candidateTokens, baseTokens, tcpTokens, hblank, htyp, hraddr, hrport,
    htcptype, hfoundation]
  cases candidate.baseAddr with
  | none =>
      dsimp only
      split_ifs <;> simp [List.intercalate_cons_cons]
  | some baseAddr =>
      dsimp only
      split_ifs <;> simp [List.intercalate_cons_cons]

lemma graphic_candidateTokens (htext : text.Documented) (h : candidate.Local) :
    ∀ token ∈ candidateTokens text candidate, Graphic token := by
  have hport : Graphic (sdpPort candidate.addr.port) := graphic_decimal _
  have hbase : ∀ token ∈ baseTokens text candidate, Graphic token := by
    rw [baseTokens]
    cases candidate.baseAddr with
    | none => exact fun _ ht => absurd ht List.not_mem_nil
    | some baseAddr =>
        dsimp only
        split_ifs
        · simp only [List.forall_mem_cons]
          exact ⟨by decide +kernel, htext.graphic _ _, by decide +kernel, hport, by simp⟩
        · exact fun _ ht => absurd ht List.not_mem_nil
  have htcp : ∀ token ∈ tcpTokens candidate, Graphic token := by
    rw [tcpTokens]
    split_ifs
    · simp only [List.forall_mem_cons]
      exact ⟨by decide +kernel, graphic_transportToSdpTcptype _, by simp⟩
    · exact fun _ ht => absurd ht List.not_mem_nil
  rw [candidateTokens]
  simp only [List.forall_mem_cons]
  refine ⟨graphic_of_isIceChar h.ice, graphic_formatWord _, graphic_transportToSdp _,
    graphic_formatWord _, htext.graphic _ _, hport, by decide +kernel, graphic_candTypeToSdp _,
    fun token ht => ?_⟩
  exact (List.mem_append.mp ht).elim (hbase token) (htcp token)

lemma split_candidateTokens (htext : text.Documented) (h : candidate.Local) :
    split 32 ([32].intercalate (candidateTokens text candidate)) =
      candidateTokens text candidate := by
  have hfoundation : candidate.foundation ∈ candidateTokens text candidate := List.mem_cons_self
  have hne : candidate.foundation ≠ [] := List.ne_nil_of_length_pos h.pos
  exact split_intercalate
    (fun token ht => (graphic_candidateTokens htext h token ht).not_mem le_rfl)
    hfoundation hne

/-! ### What is read from it -/

section Keys

variable {ext : Extensions} {value : Bytes}

@[simp] lemma set_typ : ext.set (ascii "typ") value = { ext with type := some value } := if_pos rfl

@[simp] lemma set_raddr : ext.set (ascii "raddr") value = { ext with raddr := some value } := by
  rw [Extensions.set, if_neg (by decide), if_pos rfl]

@[simp] lemma set_rport :
    ext.set (ascii "rport") value = { ext with rport := (strtoull value).toUInt16 } := by
  rw [Extensions.set, if_neg (by decide), if_neg (by decide), if_pos rfl]

@[simp] lemma set_tcptype :
    ext.set (ascii "tcptype") value = { ext with tcptype := some value } := by
  rw [Extensions.set, if_neg (by decide), if_neg (by decide), if_neg (by decide), if_pos rfl]

end Keys

lemma typeOfName_candTypeToSdp (type : NiceCandidateType) :
    typeOfName (candTypeToSdp type) = some type := by
  cases type <;> decide

/-- The transport that is written, with its kind of TCP. -/
lemma transportOfName_written (transport : NiceCandidateTransport) :
    transportOfName (transportToSdp transport)
      (if transport ≠ .udp then some (transportToSdpTcptype transport) else none) =
        some transport := by
  cases transport <;> decide

/-- A port is read as it was written. -/
lemma strtoull_sdpPort {port : ℕ} (hpos : port ≠ 0) (hlt : port < 2 ^ 16) :
    (strtoull (sdpPort port)).toUInt16.toNat = port := by
  rw [sdpPort, if_neg hpos, strtoull_decimal (by omega), UInt64.toNat_toUInt16,
    UInt64.toNat_ofNat']
  omega

lemma ofText_toText (htext : text.Documented) {addr : NiceAddress} (h : AddressWithPort addr)
    (port : UInt16) :
    text.ofText (text.toText addr) port =
      some { addr with port := port.toNat, scopeId := 0 } := by
  rw [AddressText.ofText, AddressText.toText, htext.reads _ _ h.length]
  rfl

/-- The tokens behind the port, as they are read. -/
lemma parseExtensions_written (candidate : SdpCandidate) :
    parseExtensions (ascii "typ" :: candTypeToSdp candidate.type ::
        (baseTokens text candidate ++ tcpTokens candidate)) ⟨none, none, 0, none⟩ =
      some
        { type := some (candTypeToSdp candidate.type)
          raddr := candidate.baseAddr.bind fun baseAddr =>
            if candidate.addr ≠ baseAddr then some (text.toText baseAddr) else none
          rport := (candidate.baseAddr.bind fun baseAddr =>
            if candidate.addr ≠ baseAddr then
              some (strtoull (sdpPort candidate.addr.port)).toUInt16
            else none).getD 0
          tcptype := if candidate.transport ≠ .udp then
            some (transportToSdpTcptype candidate.transport) else none } := by
  rw [baseTokens, tcpTokens]
  cases candidate.baseAddr with
  | none => split_ifs <;> simp [parseExtensions]
  | some baseAddr =>
      dsimp only
      split_ifs <;> simp_all [parseExtensions]

/-- **What is read from the line of a candidate.** -/
theorem parseCandidate_generated (htext : text.Documented) (h : candidate.Local) (hsid : 1 ≤ sid) :
    parseRemoteCandidateSdp text sid (generateCandidateSdp text candidate) =
      some (candidate.reread sid) := by
  have hscheme (rest : Bytes) : (ascii "a=candidate:").isPrefixOf (ascii "a=candidate:" ++ rest) :=
    List.isPrefixOf_iff_prefix.mpr (List.prefix_append _ _)
  have hport := strtoull_sdpPort h.addr.pos h.addr.lt
  have hrport : (strtoull (sdpPort candidate.addr.port)).toUInt16 ≠ 0 := fun h0 => h.addr.pos (by
    rw [← hport, h0]
    rfl)
  have hdrop (rest : Bytes) : (ascii "a=candidate:" ++ rest).drop 12 = rest := rfl
  have hread (rest : Bytes) :
      ¬(sid < 1 ∨ (!(ascii "a=candidate:").isPrefixOf (ascii "a=candidate:" ++ rest)) = true) := by
    rw [hscheme, Bool.not_true]
    exact fun hor => hor.elim (not_lt.mpr hsid) Bool.false_ne_true
  rw [parseRemoteCandidateSdp, generateCandidateSdp_eq h.le, if_neg (hread _), hdrop,
    split_candidateTokens htext h, candidateTokens]
  dsimp only
  rw [parseExtensions_written]
  simp only [Option.bind_eq_bind, Option.bind_some, typeOfName_candTypeToSdp,
    transportOfName_written, ofText_toText htext h.addr, hport, strtoull_formatWord]
  have hfoundation : candidate.foundation.take (NICE_CANDIDATE_MAX_FOUNDATION - 1) =
      candidate.foundation := List.take_of_length_le h.le
  rw [hfoundation, SdpCandidate.reread]
  cases hbase : candidate.baseAddr with
  | none => rfl
  | some baseAddr =>
      rw [Option.bind_some, Option.bind_some, Option.bind_some]
      by_cases hne : candidate.addr = baseAddr
      · rw [if_neg (not_not.mpr hne), if_neg (not_not.mpr hne), if_neg (not_not.mpr hne)]
      · rw [if_pos hne, if_pos hne, if_pos hne]
        dsimp only
        rw [Option.getD_some, if_pos hrport, ofText_toText htext (h.base baseAddr hbase), hport]
        rfl

end Candidate

/-! ### Streams -/

section Stream

variable {text : AddressText} {stream : SdpStream} {sid : StreamId} {ufrag pwd : Bool}

lemma newline_toNat : newline.toNat ≤ 32 := by decide

/-- A line that does not begin as `start` does. -/
lemma isPrefixOf_append_false {start line rest : Bytes} (h : start.length ≤ line.length)
    (hne : line.take start.length ≠ start) : start.isPrefixOf (line ++ rest) = false := by
  rw [← Bool.not_eq_true, List.isPrefixOf_iff_prefix, List.prefix_iff_eq_take,
    List.take_append_of_le_length h]
  exact fun heq => hne heq.symm

/-- Lines that are not about candidates leave them alone. -/
lemma parseLines_others {lines rest : List Bytes}
    (h : ∀ line ∈ lines, (ascii "a=candidate:").isPrefixOf line = false) (parsed : ParsedStream) :
    ∃ u p, parseLines text sid ufrag pwd (lines ++ rest) parsed =
      parseLines text sid ufrag pwd rest { parsed with ufrag := u, pwd := p } := by
  induction lines generalizing parsed with
  | nil => exact ⟨parsed.ufrag, parsed.pwd, rfl⟩
  | cons line lines ih =>
      have ih := ih fun l hl => h l (List.mem_cons_of_mem _ hl)
      have hline := h line List.mem_cons_self
      rw [List.cons_append, parseLines, hline, if_neg (@Bool.false_ne_true)]
      split_ifs
      · exact ih { parsed with ufrag := some (line.drop 12) }
      · exact ih { parsed with pwd := some (line.drop 10) }
      · exact ih parsed

/-- Lines of candidates, one after another. -/
lemma parseLines_candidates (htext : text.Documented) (hsid : 1 ≤ sid)
    {candidates : List SdpCandidate} (h : ∀ candidate ∈ candidates, candidate.Local)
    (rest : List Bytes) (parsed : ParsedStream) :
    parseLines text sid ufrag pwd (candidates.map (generateCandidateSdp text) ++ rest) parsed =
      parseLines text sid ufrag pwd rest { parsed with
        candidates := (candidates.map fun c => c.reread sid).reverse ++ parsed.candidates } := by
  induction candidates generalizing parsed with
  | nil => rfl
  | cons candidate candidates ih =>
      have hlocal := h candidate List.mem_cons_self
      have hstart := @generateCandidateSdp_eq text candidate hlocal.le
      have hufrag : (ascii "a=ice-ufrag:").isPrefixOf (generateCandidateSdp text candidate) =
          false := by
        rw [hstart]
        exact isPrefixOf_append_false (by decide) (by decide)
      have hpwd :
          (ascii "a=ice-pwd:").isPrefixOf (generateCandidateSdp text candidate) = false := by
        rw [hstart]
        exact isPrefixOf_append_false (by decide) (by decide)
      have hcandidate : (ascii "a=candidate:").isPrefixOf (generateCandidateSdp text candidate) =
          true := by
        rw [hstart]
        exact List.isPrefixOf_iff_prefix.mpr (List.prefix_append _ _)
      rw [List.map_cons, List.cons_append, parseLines, hufrag, hpwd, hcandidate, Bool.and_false,
        Bool.and_false, if_neg Bool.false_ne_true, if_neg Bool.false_ne_true, if_pos rfl,
        parseCandidate_generated htext hlocal hsid]
      dsimp only
      rw [ih fun c hc => h c (List.mem_cons_of_mem _ hc)]
      simp

/-- The lines before the candidates. -/
def headLines (text : AddressText) (stream : SdpStream) (includeNonIce : Bool) : List Bytes :=
  (if includeNonIce then nonIceLines text stream else []) ++
    [ascii "a=ice-ufrag:" ++ stream.localUfrag, ascii "a=ice-pwd:" ++ stream.localPassword]

lemma generateStreamSdp_eq (includeNonIce : Bool) :
    generateStreamSdp text stream includeNonIce = terminated newline
      (headLines text stream includeNonIce ++
        stream.candidates.map (generateCandidateSdp text)) := by
  rw [generateStreamSdp, headLines, SdpStream.candidates, List.map_flatMap]

/-- The lines before the candidates are no lines of candidates, and each of them is one line. -/
lemma headLines_spec (htext : text.Documented) (h : stream.Local) (includeNonIce : Bool) :
    ∀ line ∈ headLines text stream includeNonIce,
      (ascii "a=candidate:").isPrefixOf line = false ∧ newline ∉ line := by
  have hdecimal (n : ℕ) : newline ∉ decimal n := (graphic_decimal n).not_mem newline_toNat
  have htoText (addr : NiceAddress) : newline ∉ text.toText addr :=
    (htext.graphic _ _).not_mem newline_toNat
  have hname : newline ∉ stream.name.getD (ascii "-") := by
    cases hname : stream.name with
    | none => decide
    | some name => exact h.name name hname
  have hcredentials : ∀ line ∈
      [ascii "a=ice-ufrag:" ++ stream.localUfrag, ascii "a=ice-pwd:" ++ stream.localPassword],
      (ascii "a=candidate:").isPrefixOf line = false ∧ newline ∉ line := by
    simp only [List.forall_mem_cons, List.mem_append, not_or]
    refine ⟨⟨isPrefixOf_append_false (by decide) (by decide), by decide, h.ufrag⟩, ⟨?_, by decide,
      h.password⟩, by simp⟩
    rfl
  have hnonIce : ∀ line ∈ nonIceLines text stream,
      (ascii "a=candidate:").isPrefixOf line = false ∧ newline ∉ line := by
    rw [nonIceLines, List.forall_mem_append]
    constructor
    · simp only [List.forall_mem_cons, List.mem_append, not_or]
      exact ⟨⟨rfl, ⟨⟨⟨by decide, hname⟩, by decide⟩, hdecimal _⟩, by decide⟩,
        ⟨rfl, by decide, htoText _⟩, by simp⟩
    · split_ifs
      · simp only [List.forall_mem_cons, List.mem_append, not_or]
        exact ⟨⟨rfl, by decide, hdecimal _⟩, by simp⟩
      · exact fun _ hl => absurd hl List.not_mem_nil
  intro line hline
  rcases List.mem_append.mp hline with hline | hline
  · split_ifs at hline
    · exact hnonIce line hline
    · cases hline
  · exact hcredentials line hline

/-- A line of a candidate is one line. -/
lemma newline_notMem_generate (htext : text.Documented) {candidate : SdpCandidate}
    (h : candidate.Local) : newline ∉ generateCandidateSdp text candidate := by
  rw [generateCandidateSdp_eq h.le, List.mem_append, not_or]
  refine ⟨by decide, fun hmem => ?_⟩
  obtain heq | ⟨token, htoken, hmem⟩ := mem_intercalate hmem
  · exact absurd heq (by decide)
  · exact (graphic_candidateTokens htext h token htoken).not_mem newline_toNat hmem

/-- **What is read from the SDP of a stream**: its candidates, the last one first. -/
theorem parseStream_generated (htext : text.Documented) (h : stream.Local) {agent : NiceAgent}
    (hsid : 1 ≤ sid) (hstream : sid ∈ agent.streams) (includeNonIce : Bool) :
    (parseRemoteStreamSdp text agent sid (generateStreamSdp text stream includeNonIce) ufrag
      pwd).candidates = (stream.candidates.map fun c => c.reread sid).reverse := by
  have hspec := headLines_spec htext h includeNonIce
  have hlines : ∀ line ∈ headLines text stream includeNonIce ++
      stream.candidates.map (generateCandidateSdp text), newline ∉ line := by
    intro line hline
    rcases List.mem_append.mp hline with hline | hline
    · exact (hspec line hline).2
    · obtain ⟨candidate, hc, rfl⟩ := List.mem_map.mp hline
      exact newline_notMem_generate htext (h.candidates candidate hc)
  have hne : headLines text stream includeNonIce ++
      stream.candidates.map (generateCandidateSdp text) ≠ [] := by
    rw [headLines]
    simp
  rw [parseRemoteStreamSdp, if_neg (not_lt.mpr hsid), agentFindStream_of_mem hstream]
  dsimp only
  rw [generateStreamSdp_eq, split_terminated hlines hne, List.append_assoc]
  obtain ⟨u, p, hhead⟩ := @parseLines_others text sid ufrag pwd _
    (stream.candidates.map (generateCandidateSdp text) ++ [[]])
    (fun line hline => (hspec line hline).1) ⟨[], none, none⟩
  rw [hhead, parseLines_candidates htext hsid h.candidates]
  obtain ⟨u', p', hlast⟩ := @parseLines_others text sid ufrag pwd [[]] []
    (fun line hline => by rw [List.mem_singleton.mp hline]; rfl)
    ⟨(stream.candidates.map fun c => c.reread sid).reverse ++ [], u, p⟩
  rw [List.append_nil] at hlast
  rw [hlast]
  exact List.append_nil _

end Stream

/-! ### The round trip -/

/-- A candidate is read from its line as it was. -/
def CandidateRoundTrips (text : AddressText) (sid : StreamId) (candidate : SdpCandidate) : Prop :=
  ∃ read, parseRemoteCandidateSdp text sid (generateCandidateSdp text candidate) = some read ∧
    candidate.Same read

/-- The candidates that are read from the SDP of a stream, the first one last, are those of the
stream. -/
def StreamRoundTrips (text : AddressText) (agent : NiceAgent) (sid : StreamId) (stream : SdpStream)
    (includeNonIce ufrag pwd : Bool) : Prop :=
  List.Forall₂ SdpCandidate.Same stream.candidates
    (parseRemoteStreamSdp text agent sid (generateStreamSdp text stream includeNonIce) ufrag
      pwd).candidates.reverse

/-- **The round trip through SDP**: a candidate is read as it was just when it fits, and so are the
candidates of a stream. -/
theorem sdp_roundTrip_iff (text : AddressText) (htext : text.Documented) (agent : NiceAgent)
    (sid : StreamId) (hsid : 1 ≤ sid) (hstream : sid ∈ agent.streams) :
    (∀ candidate : SdpCandidate, candidate.Local →
      (CandidateRoundTrips text sid candidate ↔ candidate.Fits)) ∧
    ∀ stream : SdpStream, stream.Local → ∀ includeNonIce ufrag pwd,
      (StreamRoundTrips text agent sid stream includeNonIce ufrag pwd ↔
        ∀ candidate ∈ stream.candidates, candidate.Fits) := by
  constructor
  · intro candidate hlocal
    rw [CandidateRoundTrips, parseCandidate_generated htext hlocal hsid,
      ← @SdpCandidate.same_reread_iff candidate sid]
    constructor
    · rintro ⟨read, hread, hsame⟩
      rw [Option.some.inj hread]
      exact hsame
    · exact fun hsame => ⟨_, rfl, hsame⟩
  · intro stream hlocal includeNonIce ufrag pwd
    rw [StreamRoundTrips, parseStream_generated htext hlocal hsid hstream, List.reverse_reverse,
      List.forall₂_map_right_iff, List.forall₂_same]
    exact forall₂_congr fun candidate _ => SdpCandidate.same_reread_iff

/-- The text of IPv4 addresses, and bytes with colons between them for IPv6. -/
def dottedText : AddressText where
  inetNtop ip6 ip :=
    [charByte (if ip6 then ':' else '.')].intercalate (ip.map fun b => decimal b.toNat)
  getaddrinfo text :=
    let ofBytes (bytes : List Bytes) : Bytes := bytes.map fun b => UInt8.ofNat (decimalValue b)
    let four := text.splitOn (charByte '.')
    let sixteen := text.splitOn (charByte ':')
    if four.length = 4 then some ⟨false, ofBytes four, 0, 0⟩
    else if sixteen.length = 16 then some ⟨true, ofBytes sixteen, 0, 0⟩
    else none

lemma dottedText_documented : dottedText.Documented := by
  have hdigits {ip : Bytes} {token : Bytes} (h : token ∈ ip.map fun b => decimal b.toNat) :
      ∀ b ∈ token, isDigit b = true := by
    obtain ⟨b, -, rfl⟩ := List.mem_map.mp h
    exact fun _ => mem_decimal
  have hvalue (ip : Bytes) :
      (ip.map fun b => decimal b.toNat).map (fun b => UInt8.ofNat (decimalValue b)) = ip := by
    rw [List.map_map]
    exact (List.map_congr_left fun b _ => by
      rw [Function.comp_apply, decimalValue_decimal, UInt8.ofNat_toNat, id]).trans (List.map_id ip)
  have hsplit {sep : UInt8} (hsep : isDigit sep = false) {ip : Bytes} (hne : ip ≠ []) :
      ([sep].intercalate (ip.map fun b => decimal b.toNat)).splitOn sep =
        ip.map fun b => decimal b.toNat :=
    List.splitOn_intercalate sep
      (fun token htoken hmem => isDigit_ne (hdigits htoken sep hmem) hsep rfl)
      (by simpa using hne)
  refine ⟨fun ip6 ip hlen => ?_, fun ip6 ip b hb => ?_⟩
  · have hne : ip ≠ [] := fun hnil => by
      rw [hnil, List.length_nil] at hlen
      split_ifs at hlen
    have hcolon := @hsplit (charByte ':') (by decide) ip hne
    have hdot := @hsplit (charByte '.') (by decide) ip hne
    have hlen' : (ip.map fun b => decimal b.toNat).length = if ip6 then 16 else 4 := by
      rw [List.length_map, hlen]
    rw [dottedText]
    dsimp only
    cases ip6 with
    | false =>
        rw [if_neg Bool.false_ne_true] at hlen' ⊢
        rw [hdot, if_pos hlen', hvalue]
    | true =>
        have hone : ([charByte ':'].intercalate (ip.map fun b => decimal b.toNat)).splitOn
            (charByte '.') = [[charByte ':'].intercalate (ip.map fun b => decimal b.toNat)] := by
          refine List.splitOn_eq_singleton fun hmem => ?_
          obtain heq | ⟨token, htoken, hmem⟩ := mem_intercalate hmem
          · exact absurd heq (by decide)
          · exact isDigit_ne (hdigits htoken _ hmem) (by decide) rfl
        have hfour : ¬[[charByte ':'].intercalate (ip.map fun b => decimal b.toNat)].length = 4 :=
          by rw [List.length_singleton]; decide
        rw [if_pos rfl] at hlen' ⊢
        rw [hone, if_neg hfour, hcolon, if_pos hlen', hvalue]
  · obtain rfl | ⟨token, htoken, hmem⟩ := mem_intercalate hb
    · cases ip6 <;> decide
    · exact graphic_of_isDigit (hdigits htoken) b hmem

/-- A candidate of the base 10.0.0.1:5000 with the given type and address. -/
def udpCandidate (type : NiceCandidateType) (addr : NiceAddress) : SdpCandidate :=
  { type, transport := .udp, addr, baseAddr := some ⟨false, [10, 0, 0, 1], 5000, 0⟩
    priority := 2130706431, streamId := 1, componentId := 1, foundation := ascii "1" }

lemma udpCandidate_local {type : NiceCandidateType} {addr : NiceAddress}
    (h : AddressWithPort addr) :
    (udpCandidate type addr).Local := by
  have hfoundation : 1 ≤ (ascii "1").length ∧ (ascii "1").length ≤ 32 ∧
      ∀ b ∈ ascii "1", isIceChar b = true := by decide +kernel
  refine ⟨hfoundation.1, hfoundation.2.1, hfoundation.2.2, h, fun baseAddr hb => ?_⟩
  obtain rfl := Option.some.inj hb
  exact ⟨rfl, by decide, by decide⟩

/-- A host candidate is read as it was. -/
theorem sdp_roundTrip_sample : CandidateRoundTrips dottedText 1
    (udpCandidate .host ⟨false, [10, 0, 0, 1], 5000, 0⟩) := by
  refine ((sdp_roundTrip_iff dottedText dottedText_documented (twoStreamAgent []) 1 le_rfl
    List.mem_cons_self).1 _ (udpCandidate_local ⟨rfl, by decide, by decide⟩)).mpr
    ⟨rfl, fun baseAddr hb => ?_⟩
  exact absurd (Option.some.inj hb.1) hb.2

/-- **The port of a base address is lost**: a server reflexive candidate is read with the port of
its own address there. -/
theorem base_port_lost :
    ¬∀ (text : AddressText) (agent : NiceAgent) (sid : StreamId), text.Documented → 1 ≤ sid →
      sid ∈ agent.streams →
      (∀ candidate : SdpCandidate, candidate.Local → CandidateRoundTrips text sid candidate) ∧
      ∀ stream : SdpStream, stream.Local → ∀ includeNonIce ufrag pwd,
        StreamRoundTrips text agent sid stream includeNonIce ufrag pwd := by
  intro h
  have hlocal : (udpCandidate .serverReflexive ⟨false, [1, 2, 3, 4], 6000, 0⟩).Local :=
    udpCandidate_local ⟨rfl, by decide, by decide⟩
  obtain ⟨read, hread, hsame⟩ := (h dottedText (twoStreamAgent []) 1 dottedText_documented le_rfl
    List.mem_cons_self).1 _ hlocal
  rw [parseCandidate_generated dottedText_documented hlocal le_rfl] at hread
  obtain rfl := Option.some.inj hread
  have hport := (SdpCandidate.same_reread_iff.mp hsame).2 ⟨false, [10, 0, 0, 1], 5000, 0⟩
    ⟨rfl, by decide⟩
  exact absurd hport.2 (by decide)

end LibNice.Sdp
