import LibNice.Foundation.HostOrder
import LibNice.Socket.UdpTurn.Packet
import LibNice.Stun.Finish

/-!
`socket/udp-turn.c`: the sequence numbers of MS-TURN, in the bytes of the requests.

* `MsTurn`, `niceUdpTurnSocketSetMsConnectionId`: the connection id and the sequence number, and
  what a message of the server makes of them.
* `buildSend`, `buildSetActiveDst`: the two requests that carry them.
* `Request`, `Request.Fits`: a request with all that it is built from, and those that can be built.
* `Building`: a message under construction, with the attributes that it has so far.
* `Request.build_eq`: **a request that fits** is built, and carries the next number.
* `msSequence_iff`: **the numbers go on from the one of the server** exactly if that one has no
  other bits than those of its highest byte.
-/

namespace LibNice.UdpTurn.Ms

open LibNice.Foundation LibNice.Stun

/-! ### The connection -/

def STUN_ATTRIBUTE_DESTINATION_ADDRESS : StunAttribute := 0x0011
def STUN_ATTRIBUTE_MS_VERSION : StunAttribute := 0x8008
def STUN_ATTRIBUTE_MS_SEQUENCE_NUMBER : StunAttribute := 0x8050

/-- The fields of `UdpTurnPriv` about the connection to an MS-TURN server. -/
structure MsTurn where
  msConnectionId : Vector UInt8 20
  msSequenceNum : UInt32
  msConnectionIdValid : Bool
deriving DecidableEq, Repr

/-- `nice_udp_turn_socket_set_ms_connection_id`.  `*(ms_seq_num + 20)` is one byte, which is
converted to a word before `ntohl` is applied to it. -/
def niceUdpTurnSocketSetMsConnectionId (o : ByteOrder) (s : MsTurn) (msg : StunMessage) :
    Except Fault MsTurn := do
  match ← stunMessageFind msg STUN_ATTRIBUTE_MS_SEQUENCE_NUMBER with
  | none => return s
  | some (msSeqNum, alen) =>
      if alen = 24 then
        let id ← readVector msg.buffer msSeqNum 20
        let byte ← readByte msg.buffer (msSeqNum + 20)
        return { msConnectionId := id, msSequenceNum := ntohl o byte.toUInt32,
                 msConnectionIdValid := true }
      else return s

/-- `stun_message_append_ms_connection_id`. -/
def stunMessageAppendMsConnectionId (o : ByteOrder) (msg : StunMessage)
    (msConnectionId : Vector UInt8 20) (msSequenceNum : UInt32) :
    Except Fault (StunMessage × StunMessageReturn) :=
  stunMessageAppendBytes msg STUN_ATTRIBUTE_MS_SEQUENCE_NUMBER
    (msConnectionId.toList ++ hostBytes o (ntohl o msSequenceNum))

/-- `stun_message_ensure_ms_realm`. -/
def stunMessageEnsureMsRealm (msg : StunMessage) (realm : Bytes) : Except Fault StunMessage := do
  let method ← stunMessageGetMethod msg
  if method = STUN_SEND ∨ method = STUN_OLD_SET_ACTIVE_DST then
    let (msg, _) ← stunMessageAppendBytes msg STUN_ATTRIBUTE_REALM realm
    return msg
  else return msg

/-! ### The requests -/

/-- What a request is for: to send data to a peer, or to make a peer the one that data without a
header go to. -/
inductive Purpose where
  | send (data : Bytes)
  | setActiveDst
deriving DecidableEq, Repr

/-- A request, with all that it is built from but the number: the peer, the transaction id, the
memory of the message, the transactions that the agent knows, the credentials and the realm. -/
structure Request where
  purpose : Purpose
  peer : Sockaddr
  id : Vector UInt8 16
  memory : Vector UInt8 STUN_MAX_MESSAGE_SIZE
  sentIds : Vector StunAgentSavedIds STUN_AGENT_MAX_SAVED_IDS
  username : Bytes
  password : Option Bytes
  msRealm : Bytes

/-- The STUN agent of an OC2007 socket, with the transactions that it knows. -/
def Request.agent (r : Request) : StunAgent :=
  { niceUdpTurnSocketNewAgent .oc2007 with sentIds := r.sentIds }

/-- An append whose result is looked at. -/
def checked (x : Except Fault (StunMessage × StunMessageReturn)) :
    Except Fault (Option StunMessage) := do
  let (msg, ret) ← x
  return if ret = .success then some msg else none

/-- What both requests begin with. -/
def Request.begin (r : Request) (m : StunMethod) : Except Fault (Option StunMessage) := do
  let (msg, ret) ← stunAgentInitRequest r.agent ⟨none, [], none, [], false⟩ r.memory.toList m
    r.id.toList
  if !ret then return none
  else
    match ← checked (stunMessageAppend32 msg STUN_ATTRIBUTE_MAGIC_COOKIE TURN_MAGIC_COOKIE) with
    | none => return none
    | some msg =>
        if r.username.length > 0 then
          checked (stunMessageAppendBytes msg STUN_ATTRIBUTE_USERNAME r.username)
        else return some msg

/-- What OC2007 adds to both, where no result is looked at. -/
def Request.appendMs (o : ByteOrder) (r : Request) (s : MsTurn) (msg : StunMessage) :
    Except Fault (StunMessage × MsTurn) := do
  if s.msConnectionIdValid then
    let s := { s with msSequenceNum := s.msSequenceNum + 1 }
    let (msg, _) ← stunMessageAppendMsConnectionId o msg s.msConnectionId s.msSequenceNum
    let msg ← stunMessageEnsureMsRealm msg r.msRealm
    return (msg, s)
  else
    let msg ← stunMessageEnsureMsRealm msg r.msRealm
    return (msg, s)

/-- `stun_agent_finish_message`: the message, unless its length is 0. -/
def Request.finish (crypto : StunCrypto) (r : Request) (msg : StunMessage) :
    Except Fault (Option StunMessage) := do
  let (len, msg, _) ← stunAgentFinishMessage crypto r.agent msg r.password
  return if len > 0 then some msg else none

variable (o : ByteOrder) (crypto : StunCrypto)

/-- The request that `socket_send_message` builds for a peer without a binding. -/
def buildSend (r : Request) (data : Bytes) (s : MsTurn) :
    Except Fault (Option StunMessage × MsTurn) := do
  match ← r.begin STUN_SEND with
  | none => return (none, s)
  | some msg =>
      match ← checked (stunMessageAppendAddr msg STUN_ATTRIBUTE_DESTINATION_ADDRESS r.peer
          SIZEOF_SOCKADDR_STORAGE) with
      | none => return (none, s)
      | some msg =>
          let (msg, _) ← stunMessageAppend32 msg STUN_ATTRIBUTE_MS_VERSION 1
          let (msg, s) ← r.appendMs o s msg
          match ← checked (stunMessageAppendBytes msg STUN_ATTRIBUTE_DATA data) with
          | none => return (none, s)
          | some msg =>
              let msg ← r.finish crypto msg
              return (msg, s)

/-- The request that `priv_add_channel_binding` builds. -/
def buildSetActiveDst (r : Request) (s : MsTurn) : Except Fault (Option StunMessage × MsTurn) := do
  match ← r.begin STUN_OLD_SET_ACTIVE_DST with
  | none => return (none, s)
  | some msg =>
      let (msg, s) ← r.appendMs o s msg
      match ← checked (stunMessageAppendAddr msg STUN_ATTRIBUTE_DESTINATION_ADDRESS r.peer
          SIZEOF_SOCKADDR_STORAGE) with
      | none => return (none, s)
      | some msg =>
          let msg ← r.finish crypto msg
          return (msg, s)

/-- The request, if it is built, and the connection after it. -/
def Request.build (r : Request) (s : MsTurn) : Except Fault (Option StunMessage × MsTurn) :=
  match r.purpose with
  | .send data => buildSend o crypto r data s
  | .setActiveDst => buildSetActiveDst o crypto r s

/-- The requests that are built one after another. -/
def built : List Request → MsTurn → Except Fault (List StunMessage)
  | [], _ => .ok []
  | r :: rs, s => do
      let (msg, s) ← r.build o crypto s
      let msgs ← built rs s
      return msg.toList ++ msgs

/-! ### Messages under construction -/

variable {o crypto} {r : Request} {m : StunMethod} {ops : List Append} {msg : StunMessage}

/-- The message has the method `m` and the attributes of the calls `ops`. -/
def Attributes (r : Request) (m : StunMethod) (ops : List Append) (msg : StunMessage) : Prop :=
  ∃ rs tail, Laid true msg (stunTypeBytes .request m) r.id.toList rs tail ∧
    List.Forall₂ (Encodes msg.wireType r.id) ops rs

/-- The size of a message with the attributes of the calls `ops`. -/
def Request.size (r : Request) (ops : List Append) : ℕ := messageSize true r.id ops

/-- A message of the method `m`, with the attributes of the calls `ops`. -/
structure Building (r : Request) (m : StunMethod) (ops : List Append) (msg : StunMessage) :
    Prop where
  agent : msg.agent = some r.agent.toStunAgentConfig
  key : msg.key = none
  longTermValid : msg.longTermValid = false
  size : msg.buffer.length = STUN_MAX_MESSAGE_SIZE
  laid : Attributes r m ops msg

lemma size_append (ops' : List Append) :
    r.size (ops ++ ops') + 20 = r.size ops + r.size ops' := by
  simp only [Request.size, messageSize, List.map_append, List.sum_append]
  omega

/-- A call appends its attribute. -/
lemma Building.run (h : Building r m ops msg) (op : Append) (hop : op.Supported)
    (hlt : r.size (ops ++ [op]) < 65536) :
    ∃ msg', op.run msg = .ok (msg', .success) ∧ Building r m (ops ++ [op]) msg' := by
  obtain ⟨rs, tail, hlaid, hrs⟩ := h.laid
  have hsize := messageSize_eq hrs
  have happ := @size_append r ops [op]
  have hlen := hlaid.bufferLen
  rw [h.size, STUN_MAX_MESSAGE_SIZE] at hlen
  simp only [Request.size] at hlt happ
  obtain ⟨b, rs', tail', hall, hlaid', hrs', htail'⟩ := appendAll_laid [op] (by simpa using hop)
    msg rs tail hlaid (by omega) (by omega)
  rw [appendAll] at hall
  obtain ⟨⟨msg', val⟩, hrun, hall⟩ := bind_eq_ok.mp hall
  obtain ⟨rfl, hval⟩ := Prod.mk.inj (Except.ok.inj hall)
  obtain rfl : val = .success := by simpa using hval
  have hlen' : b.length = _ := hlaid'.bufferLen
  have hsize' : 20 + (encodeAll (rs ++ rs')).length = messageSize _ _ (ops ++ [op]) :=
    messageSize_eq (List.rel_append hrs hrs')
  refine ⟨_, hrun, h.agent, h.key, h.longTermValid, ?_, rs ++ rs', tail', hlaid',
    List.rel_append hrs hrs'⟩
  show b.length = STUN_MAX_MESSAGE_SIZE
  rw [STUN_MAX_MESSAGE_SIZE]
  omega

/-- The method is read back. -/
lemma Attributes.getMethod (h : Attributes r m ops msg)
    (hm : m = STUN_SEND ∨ m = STUN_OLD_SET_ACTIVE_DST) : stunMessageGetMethod msg = .ok m := by
  obtain ⟨rs, tail, hlaid, -⟩ := h
  have hread : stunGetw msg.buffer 0 = .ok m := by
    rw [hlaid.buffer]
    rcases hm with rfl | rfl <;> rfl
  rw [stunMessageGetMethod, stunMessageType, hread]
  rcases hm with rfl | rfl <;> rfl

/-- The value of the first attribute of its type. -/
lemma Attributes.value {t : StunAttribute} {op : Append} (h : Attributes r m ops msg)
    (hop : FirstOf t ops op) : attributeValue msg t = .ok (some (op.value r.id)) := by
  obtain ⟨rs, tail, hlaid, hrs⟩ := h
  exact attributeValue_firstOf hlaid hrs hop

/-- There is no attribute of the type. -/
lemma Attributes.value_none {t : StunAttribute} (h : Attributes r m ops msg)
    (hno : ∀ op ∈ ops, op.type ≠ t) : attributeValue msg t = .ok none := by
  obtain ⟨rs, tail, hlaid, hrs⟩ := h
  have hfind : stunMessageFind msg t = .ok none := by
    refine find_none_of_firstOf hlaid hrs fun op hop => ?_
    obtain ⟨pre, post, rfl, htype, -⟩ := hop
    exact hno op (by simp) htype
  rw [attributeValue, hfind]
  rfl

/-- The attribute that comes first stays so when others follow. -/
lemma firstOf_append {t : StunAttribute} {op : Append} (h : FirstOf t ops op)
    (ops' : List Append) : FirstOf t (ops ++ ops') op := by
  obtain ⟨pre, post, rfl, htype, hpre⟩ := h
  exact ⟨pre, post ++ ops', by simp, htype, hpre⟩

/-! ### Finishing a message -/

/-- The request gets a MESSAGE-INTEGRITY: there is a password, and a user. -/
def Request.Signs (r : Request) : Prop := r.password.isSome ∧ r.username.length > 0

instance (r : Request) : Decidable r.Signs := inferInstanceAs (Decidable (_ ∧ _))

/-- The credentials that the MESSAGE-INTEGRITY of a request is computed with, which
`priv_trim_var` has to find something in. -/
structure Request.Keyed (r : Request) : Prop where
  realm : Trimmable r.msRealm
  username : Trimmable r.username
  password : Trimmable (r.password.getD [])

/-- The attributes that the long-term key is looked up in. -/
structure Named (r : Request) (ops : List Append) : Prop where
  realm : FirstOf STUN_ATTRIBUTE_REALM ops (.bytes STUN_ATTRIBUTE_REALM r.msRealm)
  username : r.username.length > 0 →
    FirstOf STUN_ATTRIBUTE_USERNAME ops (.bytes STUN_ATTRIBUTE_USERNAME r.username)
  no_username : ¬ r.username.length > 0 → ∀ op ∈ ops, op.type ≠ STUN_ATTRIBUTE_USERNAME

/-- The MESSAGE-INTEGRITY goes behind the attributes. -/
lemma Building.signed {key : Bytes} (h : Building r m ops msg) (hnamed : Named r ops)
    (hpassword : r.password = some key) (huser : r.username.length > 0) (hkeyed : r.Keyed)
    (hlt : r.size ops + 24 < 65536) :
    ∃ msg' op, appendIntegrity crypto r.agent.toStunAgentConfig msg (some key) =
        .ok (msg', true) ∧ Attributes r m (ops ++ [op]) msg' := by
  have hstep : attributeStep true 20 = 20 := rfl
  obtain ⟨md5, hmd5⟩ : ∃ md5, stunHashCreds crypto r.msRealm r.username key = .ok md5 := by
    refine stunHashCreds_ok_iff.mpr ⟨hkeyed.realm, hkeyed.username, ?_⟩
    simpa [hpassword] using hkeyed.password
  have hbuilt : builtLongTermKey crypto r.agent.toStunAgentConfig msg key =
      .ok ({ msg with longTermKey := md5, longTermValid := true }, false) := by
    rw [builtLongTermKey, h.longTermValid, h.laid.value hnamed.realm,
      h.laid.value (hnamed.username huser)]
    simp only [Append.value, bind, Except.bind, hmd5]
    rfl
  obtain ⟨rs, tail, hlaid, hrs⟩ := h.laid
  have hsize := messageSize_eq hrs
  have hlen := hlaid.bufferLen
  rw [h.size, STUN_MAX_MESSAGE_SIZE] at hlen
  rw [Request.size] at hlt
  have hlaid₁ : Laid true { msg with longTermKey := md5, longTermValid := true }
      (stunTypeBytes .request m) r.id.toList rs tail :=
    ⟨hlaid.noAligned, hlaid.ty_length, hlaid.id_length, hlaid.lt, hlaid.buffer⟩
  obtain ⟨b₂, tail', old, hold', hold, htail', happ, hlaid₂⟩ := append_room
    STUN_ATTRIBUTE_MESSAGE_INTEGRITY (n := 20) hlaid₁ (by omega) (by omega) (by omega)
  have henc := @attributeOf_encode_length true (hasCookie r.id.toList)
    (msg.wireType STUN_ATTRIBUTE_MESSAGE_INTEGRITY) old hold'
  rw [hold, hstep] at henc
  have hsha := @builtSha1_laid true r.id crypto _ _ _ _ r.agent.toStunAgentConfig _ hlaid₂ henc md5
  obtain ⟨sha, hsha, hsha20⟩ : ∃ sha, builtSha1 crypto r.agent.toStunAgentConfig _ md5 = .ok sha ∧
      sha.length = old.length :=
    ⟨_, hsha, by rw [crypto.hmacSha1_length, hold]⟩
  obtain ⟨b₃, hwrite, hlaid₃⟩ := writeValue_laid hlaid₂ hsha20
  refine ⟨_, .bytes STUN_ATTRIBUTE_MESSAGE_INTEGRITY sha, ?_, _, tail', hlaid₃,
    List.rel_append hrs (.cons (encodes_attributeOf msg.wireType
      (.bytes STUN_ATTRIBUTE_MESSAGE_INTEGRITY sha) (hsha20 ▸ hold')) .nil)⟩
  have hlong : r.agent.usageFlags.longTermCredentials = true := rfl
  rw [appendIntegrity, hbuilt]
  simp only [bind, Except.bind, Bool.false_eq_true, if_false, happ, hlong, if_true, hsha, hwrite]
  rfl

/-- A message without a user gets no MESSAGE-INTEGRITY. -/
lemma Building.unsigned (h : Building r m ops msg) (hnamed : Named r ops) (hsigns : ¬ r.Signs) :
    appendIntegrity crypto r.agent.toStunAgentConfig msg r.password = .ok (msg, true) := by
  cases hpassword : r.password with
  | none => rfl
  | some key =>
      have huser : ¬ r.username.length > 0 := fun huser => hsigns ⟨by simp [hpassword], huser⟩
      have hbuilt : builtLongTermKey crypto r.agent.toStunAgentConfig msg key =
          .ok (msg, true) := by
        rw [builtLongTermKey, h.longTermValid, h.laid.value hnamed.realm,
          h.laid.value_none (hnamed.no_username huser)]
        rfl
      rw [appendIntegrity, hbuilt]
      rfl

variable (crypto) in
/-- **A message that has room for it** is finished, and keeps its attributes. -/
lemma Building.finish (h : Building r m ops msg)
    (hm : m = STUN_SEND ∨ m = STUN_OLD_SET_ACTIVE_DST) (hnamed : Named r ops)
    (hkeyed : r.Signs → r.Keyed) (hslot : (freeSentId r.agent .request).isSome)
    (hlt : r.size ops + (if r.Signs then 24 else 0) < 65536) :
    ∃ msg' ops', r.finish crypto msg = .ok (some msg') ∧ Attributes r m (ops ++ ops') msg' := by
  obtain ⟨msg₁, ops', hintegrity, hattributes⟩ : ∃ msg₁ ops',
      appendIntegrity crypto r.agent.toStunAgentConfig msg r.password = .ok (msg₁, true) ∧
        Attributes r m (ops ++ ops') msg₁ := by
    by_cases hsigns : r.Signs
    · obtain ⟨key, hkey⟩ := Option.isSome_iff_exists.mp hsigns.1
      rw [if_pos hsigns] at hlt
      obtain ⟨msg₁, op, hintegrity, hattributes⟩ :=
        h.signed hnamed hkey hsigns.2 (hkeyed hsigns) hlt
      exact ⟨msg₁, [op], by rw [hkey, hintegrity], hattributes⟩
    · exact ⟨msg, [], h.unsigned hnamed hsigns, by simpa using h.laid⟩
  obtain ⟨idx, hidx⟩ := Option.isSome_iff_exists.mp hslot
  obtain ⟨rs, tail, hlaid, hrs⟩ := h.laid
  obtain ⟨rs₁, tail₁, hlaid₁, hrs₁⟩ := hattributes
  have hclass := hlaid.getClass (.inl rfl)
  have hclass₁ := hlaid₁.getClass (.inl rfl)
  have hmethod₁ := Attributes.getMethod ⟨rs₁, tail₁, hlaid₁, hrs₁⟩ hm
  have hfingerprint : appendFingerprint r.agent.toStunAgentConfig msg₁ = .ok (msg₁, true) := rfl
  have hlt₁ := hlaid₁.lt
  have hpos : (UInt16.ofNat (20 + (encodeAll rs₁).length)).toNat > 0 := by
    rw [UInt16.toNat_ofNat']
    omega
  have hlaid₂ : Laid true { msg₁ with key := r.password } (stunTypeBytes .request m) r.id.toList
      rs₁ tail₁ :=
    ⟨hlaid₁.noAligned, hlaid₁.ty_length, hlaid₁.id_length, hlaid₁.lt, hlaid₁.buffer⟩
  refine ⟨{ msg₁ with key := r.password }, ops', ?_, rs₁, tail₁, hlaid₂, hrs₁⟩
  rw [Request.finish, stunAgentFinishMessage, hclass]
  simp only [bind, Except.bind, hidx, h.key, Option.none_or, hintegrity, hfingerprint,
    Bool.not_true, Bool.false_eq_true, if_false, saveTransaction, hclass₁, if_true,
    hlaid₁.messageId, hmethod₁, pure, Except.pure, hlaid₂.messageLength, if_pos hpos]

/-! ### The requests in bytes -/

/-- The attributes that a request begins with. -/
def Request.firstAttributes (r : Request) : List Append :=
  .word32 STUN_ATTRIBUTE_MAGIC_COOKIE TURN_MAGIC_COOKIE ::
    if r.username.length > 0 then [.bytes STUN_ATTRIBUTE_USERNAME r.username] else []

/-- The connection id and the sequence number. -/
def connection (s : MsTurn) : Append :=
  .bytes STUN_ATTRIBUTE_MS_SEQUENCE_NUMBER (s.msConnectionId.toList ++ be32 s.msSequenceNum)

/-- The attributes of a request on a connection, but for the MESSAGE-INTEGRITY. -/
def Request.attributes (r : Request) (s : MsTurn) : List Append :=
  match r.purpose with
  | .send data =>
      r.firstAttributes ++
        [.addr STUN_ATTRIBUTE_DESTINATION_ADDRESS r.peer SIZEOF_SOCKADDR_STORAGE,
          .word32 STUN_ATTRIBUTE_MS_VERSION 1, connection s, .bytes STUN_ATTRIBUTE_REALM r.msRealm,
          .bytes STUN_ATTRIBUTE_DATA data]
  | .setActiveDst =>
      r.firstAttributes ++
        [connection s, .bytes STUN_ATTRIBUTE_REALM r.msRealm,
          .addr STUN_ATTRIBUTE_DESTINATION_ADDRESS r.peer SIZEOF_SOCKADDR_STORAGE]

/-- The next number. -/
def MsTurn.next (s : MsTurn) : MsTurn := { s with msSequenceNum := s.msSequenceNum + 1 }

lemma twenty_le_size : 20 ≤ r.size ops := by
  rw [Request.size, messageSize]
  omega

/-- A message is no larger than one with more attributes. -/
lemma size_mono {ops' : List Append} (h : ops <+: ops') : r.size ops ≤ r.size ops' := by
  obtain ⟨post, rfl⟩ := h
  have happ := @size_append r ops post
  have hpost := @twenty_le_size r post
  omega

/-- A call whose result is looked at. -/
lemma Building.checked (h : Building r m ops msg) (op : Append) (hop : op.Supported)
    (hlt : r.size (ops ++ [op]) < 65536) :
    ∃ msg', Ms.checked (op.run msg) = .ok (some msg') ∧ Building r m (ops ++ [op]) msg' := by
  obtain ⟨msg', hrun, h'⟩ := h.run op hop hlt
  exact ⟨msg', by rw [Ms.checked, hrun]; rfl, h'⟩

/-- `stun_agent_init_request` makes a message without attributes. -/
lemma Request.init_building (r : Request) (m : StunMethod) :
    ∃ msg, stunAgentInitRequest r.agent ⟨none, [], none, [], false⟩ r.memory.toList m r.id.toList =
        .ok (msg, true) ∧ Building r m [] msg := by
  have hmemory : r.memory.toList.length = STUN_MAX_MESSAGE_SIZE := Vector.length_toList
  obtain ⟨b, tail, hinit, hlaid, htail⟩ := @init_laid true r.id
    ⟨some r.agent.toStunAgentConfig, r.memory.toList, none, [], false⟩ .request m rfl
    (by rw [hmemory]; decide)
  have hsize : b.length = STUN_MAX_MESSAGE_SIZE := by
    have hlen : b.length = _ := hlaid.bufferLen
    have hroom : 20 + tail.length = r.memory.toList.length := htail
    rw [hlen, encodeAll_nil, List.length_nil, ← hmemory, ← hroom]
  refine ⟨⟨some r.agent.toStunAgentConfig, b, none, [], false⟩, ?_, rfl, rfl, rfl, hsize,
    [], tail, hlaid, .nil⟩
  rw [stunAgentInitRequest]
  simp only [bind, Except.bind, hinit]
  rfl

/-- The message of a request is begun. -/
lemma Request.begin_building (hlt : r.size r.firstAttributes < 65536) :
    ∃ msg, r.begin m = .ok (some msg) ∧ Building r m r.firstAttributes msg := by
  obtain ⟨msg₀, hinit, h₀⟩ := r.init_building m
  obtain ⟨msg₁, hcookie, h₁⟩ := h₀.checked
    (.word32 STUN_ATTRIBUTE_MAGIC_COOKIE TURN_MAGIC_COOKIE) trivial
    ((size_mono ⟨_, rfl⟩).trans_lt hlt)
  replace hcookie : Ms.checked (stunMessageAppend32 msg₀ STUN_ATTRIBUTE_MAGIC_COOKIE
      TURN_MAGIC_COOKIE) = .ok (some msg₁) := hcookie
  rw [Request.begin, hinit]
  simp only [bind, Except.bind, Bool.not_true, Bool.false_eq_true, if_false, hcookie]
  by_cases huser : r.username.length > 0
  · have hfirst : r.firstAttributes = [.word32 STUN_ATTRIBUTE_MAGIC_COOKIE TURN_MAGIC_COOKIE] ++
        [.bytes STUN_ATTRIBUTE_USERNAME r.username] := by
      rw [Request.firstAttributes, if_pos huser]
      rfl
    rw [hfirst] at hlt ⊢
    rw [if_pos huser]
    exact h₁.checked (.bytes STUN_ATTRIBUTE_USERNAME r.username) trivial hlt
  · have hfirst : r.firstAttributes =
        [.word32 STUN_ATTRIBUTE_MAGIC_COOKIE TURN_MAGIC_COOKIE] := by
      rw [Request.firstAttributes, if_neg huser]
    rw [hfirst, if_neg huser]
    exact ⟨msg₁, rfl, h₁⟩

/-- What OC2007 adds: the next number, and the realm. -/
lemma Building.appendMs {s : MsTurn} (h : Building r m ops msg)
    (hm : m = STUN_SEND ∨ m = STUN_OLD_SET_ACTIVE_DST) (hvalid : s.msConnectionIdValid = true)
    (hlt : r.size (ops ++ [connection s.next, .bytes STUN_ATTRIBUTE_REALM r.msRealm]) < 65536) :
    ∃ msg', r.appendMs o s msg = .ok (msg', s.next) ∧
      Building r m (ops ++ [connection s.next, .bytes STUN_ATTRIBUTE_REALM r.msRealm]) msg' := by
  obtain ⟨msg₁, hnumber, h₁⟩ := h.run (connection s.next) trivial
    ((size_mono ⟨[.bytes STUN_ATTRIBUTE_REALM r.msRealm], by simp⟩).trans_lt hlt)
  replace hnumber : stunMessageAppendMsConnectionId o msg s.msConnectionId (s.msSequenceNum + 1) =
      .ok (msg₁, .success) := by
    rw [stunMessageAppendMsConnectionId, hostBytes_ntohl]
    exact hnumber
  obtain ⟨msg₂, hrealm, h₂⟩ := h₁.run (.bytes STUN_ATTRIBUTE_REALM r.msRealm) trivial
    (by simpa using hlt)
  replace hrealm : stunMessageAppendBytes msg₁ STUN_ATTRIBUTE_REALM r.msRealm =
      .ok (msg₂, .success) := hrealm
  refine ⟨msg₂, ?_, by simpa using h₂⟩
  rw [Request.appendMs, if_pos hvalid]
  simp only [bind, Except.bind, hnumber, stunMessageEnsureMsRealm, h₁.laid.getMethod hm, if_pos hm,
    hrealm]
  rfl

/-! ### Requests that fit -/

/-- The connection of a new socket. -/
def MsTurn.new : MsTurn :=
  { msConnectionId := Vector.replicate 20 0, msSequenceNum := 0, msConnectionIdValid := false }

/-- A request that can be built: the peer has an IPv4 or an IPv6 address, the message is short
enough for its length field, there is room for one more transaction, and the credentials have
something in them if the message is signed. -/
structure Request.Fits (r : Request) : Prop where
  peer : r.peer.Supported SIZEOF_SOCKADDR_STORAGE
  size : r.size (r.attributes .new) + (if r.Signs then 24 else 0) < 65536
  slot : (freeSentId r.agent .request).isSome
  keyed : r.Signs → r.Keyed

/-- Every number takes as much room as any other. -/
lemma size_attributes (s : MsTurn) : r.size (r.attributes s) = r.size (r.attributes .new) := by
  unfold Request.attributes
  cases r.purpose <;> simp [Request.size, messageSize, connection, Append.value]

/-- An attribute behind others of the types `ts` is the first one of its type. -/
lemma firstOf_mid {t : StunAttribute} {op : Append} {pre post : List Append}
    (ts : List StunAttribute) (hpre : ∀ o ∈ pre, o.type ∈ ts) (htype : op.type = t)
    (hts : (ts.all fun u => u ≠ t ∧ u ≠ STUN_ATTRIBUTE_FINGERPRINT ∧
      (t ≠ STUN_ATTRIBUTE_FINGERPRINT → u ≠ STUN_ATTRIBUTE_MESSAGE_INTEGRITY)) = true) :
    FirstOf t (pre ++ op :: post) op :=
  ⟨pre, post, rfl, htype, fun o ho => of_decide_eq_true (List.all_eq_true.mp hts _ (hpre o ho))⟩

lemma firstAttributes_type (op : Append) (hop : op ∈ r.firstAttributes) :
    op.type = STUN_ATTRIBUTE_MAGIC_COOKIE ∨
      r.username.length > 0 ∧ op.type = STUN_ATTRIBUTE_USERNAME := by
  unfold Request.firstAttributes at hop
  split at hop
  next huser =>
    rcases List.mem_pair.mp hop with rfl | rfl
    · exact .inl rfl
    · exact .inr ⟨huser, rfl⟩
  next =>
    rw [List.mem_singleton.mp hop]
    exact .inl rfl

/-- The attributes of a request name the user that it is signed for. -/
lemma Request.named (r : Request) (s : MsTurn) : Named r (r.attributes s) := by
  obtain ⟨pre, post, hrest, hpre, hpost⟩ : ∃ pre post, r.attributes s =
      r.firstAttributes ++ (pre ++ .bytes STUN_ATTRIBUTE_REALM r.msRealm :: post) ∧
      (∀ op ∈ pre, op.type ∈ [STUN_ATTRIBUTE_DESTINATION_ADDRESS, STUN_ATTRIBUTE_MS_VERSION,
        STUN_ATTRIBUTE_MS_SEQUENCE_NUMBER]) ∧
      ∀ op ∈ post, op.type ∈ [STUN_ATTRIBUTE_DATA, STUN_ATTRIBUTE_DESTINATION_ADDRESS] := by
    unfold Request.attributes
    cases r.purpose with
    | send data =>
        exact ⟨[_, _, connection s], [_], rfl, by simp [Append.type, connection],
          by simp [Append.type]⟩
    | setActiveDst =>
        exact ⟨[connection s], [_], rfl, by simp [Append.type, connection], by simp [Append.type]⟩
  rw [hrest]
  refine ⟨?_, fun huser => ?_, fun huser op hop => ?_⟩
  · rw [← List.append_assoc]
    refine firstOf_mid [STUN_ATTRIBUTE_MAGIC_COOKIE, STUN_ATTRIBUTE_USERNAME,
      STUN_ATTRIBUTE_DESTINATION_ADDRESS, STUN_ATTRIBUTE_MS_VERSION,
      STUN_ATTRIBUTE_MS_SEQUENCE_NUMBER] (fun op hop => ?_) rfl (by decide)
    rcases List.mem_append.mp hop with hop | hop
    · rcases firstAttributes_type op hop with h | h <;> simp [h]
    · have := hpre op hop
      simp only [List.mem_cons, List.not_mem_nil, or_false] at this ⊢
      tauto
  · rw [Request.firstAttributes, if_pos huser]
    exact @firstOf_mid _ _ [.word32 STUN_ATTRIBUTE_MAGIC_COOKIE TURN_MAGIC_COOKIE] _
      [STUN_ATTRIBUTE_MAGIC_COOKIE] (by simp [Append.type]) rfl (by decide)
  · rcases List.mem_append.mp hop with hop | hop
    · rcases firstAttributes_type op hop with h | h
      · rw [h]
        decide
      · exact absurd h.1 huser
    · rcases List.mem_append.mp hop with hop | hop
      · have hne : ([STUN_ATTRIBUTE_DESTINATION_ADDRESS, STUN_ATTRIBUTE_MS_VERSION,
            STUN_ATTRIBUTE_MS_SEQUENCE_NUMBER].all fun t => t ≠ STUN_ATTRIBUTE_USERNAME) = true := by
          decide
        exact of_decide_eq_true (List.all_eq_true.mp hne _ (hpre op hop))
      · rcases List.mem_cons.mp hop with rfl | hop
        · show STUN_ATTRIBUTE_REALM ≠ STUN_ATTRIBUTE_USERNAME
          decide
        · have hne : ([STUN_ATTRIBUTE_DATA, STUN_ATTRIBUTE_DESTINATION_ADDRESS].all
              fun t => t ≠ STUN_ATTRIBUTE_USERNAME) = true := by decide
          exact of_decide_eq_true (List.all_eq_true.mp hne _ (hpost op hop))

/-- The connection id and the number are found in the request. -/
lemma Request.first_connection (r : Request) (s : MsTurn) :
    FirstOf STUN_ATTRIBUTE_MS_SEQUENCE_NUMBER (r.attributes s) (connection s) := by
  obtain ⟨pre, post, hsplit, hpre⟩ : ∃ pre post, r.attributes s =
      r.firstAttributes ++ (pre ++ connection s :: post) ∧ ∀ op ∈ pre, op.type ∈
        [STUN_ATTRIBUTE_DESTINATION_ADDRESS, STUN_ATTRIBUTE_MS_VERSION] := by
    unfold Request.attributes
    cases r.purpose with
    | send data => exact ⟨[_, _], _, rfl, by simp [Append.type]⟩
    | setActiveDst => exact ⟨[], _, rfl, by simp⟩
  rw [hsplit, ← List.append_assoc]
  refine firstOf_mid [STUN_ATTRIBUTE_MAGIC_COOKIE, STUN_ATTRIBUTE_USERNAME,
    STUN_ATTRIBUTE_DESTINATION_ADDRESS, STUN_ATTRIBUTE_MS_VERSION] (fun op hop => ?_) rfl
    (by decide)
  rcases List.mem_append.mp hop with hop | hop
  · rcases firstAttributes_type op hop with h | h <;> simp [h]
  · have := hpre op hop
    simp only [List.mem_cons, List.not_mem_nil, or_false] at this ⊢
    tauto

section Build

variable {s : MsTurn} (hvalid : s.msConnectionIdValid = true) (hfits : r.Fits)

include hvalid hfits

/-- The Send request. -/
lemma buildSend_eq {data : Bytes} (hpurpose : r.purpose = .send data) :
    ∃ msg ops', buildSend o crypto r data s = .ok (some msg, s.next) ∧
      Attributes r STUN_SEND (r.attributes s.next ++ ops') msg := by
  have hsize := hfits.size
  rw [← size_attributes s.next] at hsize
  have hops : r.attributes s.next = r.firstAttributes ++
      [.addr STUN_ATTRIBUTE_DESTINATION_ADDRESS r.peer SIZEOF_SOCKADDR_STORAGE] ++
      [.word32 STUN_ATTRIBUTE_MS_VERSION 1] ++
      [connection s.next, .bytes STUN_ATTRIBUTE_REALM r.msRealm] ++
      [.bytes STUN_ATTRIBUTE_DATA data] := by
    rw [Request.attributes, hpurpose]
    simp
  have hsub : ∀ pre, pre <+: r.attributes s.next → r.size pre < 65536 := fun pre hpre => by
    have := size_mono (r := r) hpre
    omega
  rw [hops] at hsub
  obtain ⟨msg₁, hbegin, h₁⟩ := r.begin_building (m := STUN_SEND) (hsub _ (by simp))
  obtain ⟨msg₂, hpeer, h₂⟩ := h₁.checked (.addr STUN_ATTRIBUTE_DESTINATION_ADDRESS r.peer
    SIZEOF_SOCKADDR_STORAGE) hfits.peer (hsub _ (by simp))
  obtain ⟨msg₃, hversion, h₃⟩ := h₂.run (.word32 STUN_ATTRIBUTE_MS_VERSION 1) trivial
    (hsub _ (by simp))
  obtain ⟨msg₄, hms, h₄⟩ := h₃.appendMs (o := o) (.inl rfl) hvalid (hsub _ (by simp))
  obtain ⟨msg₅, hdata, h₅⟩ := h₄.checked (.bytes STUN_ATTRIBUTE_DATA data) trivial
    (hsub _ (by simp))
  rw [← hops] at h₅
  obtain ⟨msg, ops', hfinish, hattributes⟩ := h₅.finish crypto (.inl rfl) (r.named _) hfits.keyed
    hfits.slot hsize
  refine ⟨msg, ops', ?_, hattributes⟩
  simp only [Append.run] at hpeer hversion hdata
  rw [buildSend, hbegin]
  simp only [bind, Except.bind, hpeer, hversion, hms, hdata, hfinish]
  rfl

/-- The Set Active Destination request. -/
lemma buildSetActiveDst_eq (hpurpose : r.purpose = .setActiveDst) :
    ∃ msg ops', buildSetActiveDst o crypto r s = .ok (some msg, s.next) ∧
      Attributes r STUN_OLD_SET_ACTIVE_DST (r.attributes s.next ++ ops') msg := by
  have hsize := hfits.size
  rw [← size_attributes s.next] at hsize
  have hops : r.attributes s.next = r.firstAttributes ++
      [connection s.next, .bytes STUN_ATTRIBUTE_REALM r.msRealm] ++
      [.addr STUN_ATTRIBUTE_DESTINATION_ADDRESS r.peer SIZEOF_SOCKADDR_STORAGE] := by
    rw [Request.attributes, hpurpose]
    simp
  have hsub : ∀ pre, pre <+: r.attributes s.next → r.size pre < 65536 := fun pre hpre => by
    have := size_mono (r := r) hpre
    omega
  rw [hops] at hsub
  obtain ⟨msg₁, hbegin, h₁⟩ := r.begin_building (m := STUN_OLD_SET_ACTIVE_DST)
    (hsub _ (by simp))
  obtain ⟨msg₂, hms, h₂⟩ := h₁.appendMs (o := o) (.inr rfl) hvalid (hsub _ (by simp))
  obtain ⟨msg₃, hpeer, h₃⟩ := h₂.checked (.addr STUN_ATTRIBUTE_DESTINATION_ADDRESS r.peer
    SIZEOF_SOCKADDR_STORAGE) hfits.peer (hsub _ (by simp))
  rw [← hops] at h₃
  obtain ⟨msg, ops', hfinish, hattributes⟩ := h₃.finish crypto (.inr rfl) (r.named _) hfits.keyed
    hfits.slot hsize
  refine ⟨msg, ops', ?_, hattributes⟩
  simp only [Append.run] at hpeer
  rw [buildSetActiveDst, hbegin]
  simp only [bind, Except.bind, hms, hpeer, hfinish]
  rfl

/-- **A request that fits** is built, and carries the next number. -/
theorem Request.build_eq :
    ∃ msg, r.build o crypto s = .ok (some msg, s.next) ∧
      attributeValue msg STUN_ATTRIBUTE_MS_SEQUENCE_NUMBER =
        .ok (some (s.msConnectionId.toList ++ be32 (s.msSequenceNum + 1))) := by
  rw [Request.build]
  cases hpurpose : r.purpose with
  | send data =>
      obtain ⟨msg, ops', hbuild, hattributes⟩ := buildSend_eq hvalid hfits hpurpose
      exact ⟨msg, hbuild, hattributes.value (firstOf_append (r.first_connection s.next) ops')⟩
  | setActiveDst =>
      obtain ⟨msg, ops', hbuild, hattributes⟩ := buildSetActiveDst_eq hvalid hfits hpurpose
      exact ⟨msg, hbuild, hattributes.value (firstOf_append (r.first_connection s.next) ops')⟩

end Build

/-! ### Runs -/

/-- The requests that fit are all built, and carry the numbers behind the one of the
connection. -/
lemma built_eq (rs : List Request) :
    ∀ s : MsTurn, s.msConnectionIdValid = true → (∀ r ∈ rs, r.Fits) →
      ∃ msgs, built o crypto rs s = .ok msgs ∧ msgs.length = rs.length ∧
        ∀ k msg, msgs[k]? = some msg →
          attributeValue msg STUN_ATTRIBUTE_MS_SEQUENCE_NUMBER = .ok (some
            (s.msConnectionId.toList ++ be32 (s.msSequenceNum + UInt32.ofNat (k + 1)))) := by
  induction rs with
  | nil => exact fun _ _ _ => ⟨[], rfl, rfl, by simp⟩
  | cons r rs ih =>
      intro s hvalid hfits
      obtain ⟨msg, hbuild, hvalue⟩ :=
        @Request.build_eq o crypto r s hvalid (hfits r (by simp))
      obtain ⟨msgs, hbuilt, hlength, hvalues⟩ :=
        ih s.next hvalid fun r hr => hfits r (by simp [hr])
      refine ⟨msg :: msgs, ?_, by simp [hlength], fun k msg' hk => ?_⟩
      · rw [built, hbuild]
        simp only [bind, Except.bind, hbuilt]
        rfl
      · cases k with
        | zero =>
            obtain rfl : msg = msg' := by simpa using hk
            exact hvalue
        | succ k =>
            have hnumber : s.next.msSequenceNum + UInt32.ofNat (k + 1) =
                s.msSequenceNum + UInt32.ofNat (k + 1 + 1) := by
              rw [UInt32.ofNat_add (k + 1) 1, UInt32.add_comm (UInt32.ofNat (k + 1)),
                ← UInt32.add_assoc]
              rfl
            rw [← hnumber]
            exact hvalues k msg' (by simpa using hk)

/-- The `k`-th request that is built on the connection carries the connection id `c` and the
number `n + k`, modulo `2 ^ 32`. -/
def Numbered (o : ByteOrder) (crypto : StunCrypto) (c : Vector UInt8 20) (n : UInt32) (s : MsTurn)
    (rs : List Request) : Prop :=
  ∃ msgs, built o crypto rs s = .ok msgs ∧ ∀ k msg, msgs[k]? = some msg →
    attributeValue msg STUN_ATTRIBUTE_MS_SEQUENCE_NUMBER =
      .ok (some (c.toList ++ be32 (n + UInt32.ofNat (k + 1))))

lemma be32_injective : Function.Injective be32 := fun x y h => by
  have hx := word32_be32 x
  have hy := word32_be32 y
  simp only [be32, List.cons.injEq, and_true] at h
  obtain ⟨h1, h2, h3, h4⟩ := h
  rw [← hx, h1, h2, h3, h4, hy]

/-- The numbers go on from `n` exactly if the one of the connection is `n`. -/
lemma numbered_iff {s : MsTurn} {n : UInt32} {rs : List Request}
    (hvalid : s.msConnectionIdValid = true) (hfits : ∀ r ∈ rs, r.Fits) :
    Numbered o crypto s.msConnectionId n s rs ↔ rs = [] ∨ s.msSequenceNum = n := by
  obtain ⟨msgs, hbuilt, hlength, hvalues⟩ := @built_eq o crypto rs s hvalid hfits
  constructor
  · rintro ⟨msgs', hbuilt', hvalues'⟩
    obtain rfl := Except.ok.inj (hbuilt.symm.trans hbuilt')
    cases rs with
    | nil => exact .inl rfl
    | cons r rs =>
        right
        obtain ⟨msg, hmsg⟩ : ∃ msg, msgs[0]? = some msg :=
          ⟨_, List.getElem?_eq_getElem (by simp [hlength])⟩
        have heq := (hvalues 0 msg hmsg).symm.trans (hvalues' 0 msg hmsg)
        simp only [Except.ok.injEq, Option.some.injEq, List.append_cancel_left_eq] at heq
        exact (UInt32.add_left_inj _).mp (be32_injective heq)
  · rintro (rfl | rfl)
    · exact ⟨[], rfl, by simp⟩
    · exact ⟨msgs, hbuilt, hvalues⟩

/-- What the attribute of a message makes of a connection. -/
lemma setMsConnectionId_eq {s : MsTurn} {c : Vector UInt8 20} {n : UInt32}
    (hmsg : attributeValue msg STUN_ATTRIBUTE_MS_SEQUENCE_NUMBER =
      .ok (some (c.toList ++ be32 n))) :
    niceUdpTurnSocketSetMsConnectionId o s msg =
      .ok { msConnectionId := c
            msSequenceNum := ntohl o (UInt8.ofNat (n.toNat / 16777216)).toUInt32
            msConnectionIdValid := true } := by
  rw [attributeValue] at hmsg
  obtain ⟨found, hfind, hmsg⟩ := bind_eq_ok.mp hmsg
  cases found with
  | none => cases hmsg
  | some found =>
      obtain ⟨ptr, len⟩ := found
      obtain ⟨v, hread, hmsg⟩ := bind_eq_ok.mp hmsg
      obtain rfl : v = c.toList ++ be32 n := Option.some.inj (Except.ok.inj hmsg)
      obtain ⟨hle, hv⟩ := readSlice_eq_ok.mp hread
      have hlen : (c.toList ++ be32 n).length = 24 := by simp
      have htake := congrArg List.length hv
      rw [hlen, List.length_take, List.length_drop] at htake
      have hlen24 : len = 24 := by
        rw [← UInt16.toNat_inj]
        show len.toNat = 24
        omega
      have hsplit : msg.buffer = msg.buffer.take ptr ++
          (c.toList ++ (be32 n ++ (msg.buffer.drop ptr).drop len.toNat)) := by
        rw [← List.append_assoc c.toList, hv, List.take_append_drop, List.take_append_drop]
      have hpre : (msg.buffer.take ptr).length = ptr := by
        rw [List.length_take]
        omega
      have hid : readVector msg.buffer ptr 20 = .ok c := by
        rw [hsplit]
        exact readVector_append c hpre
      have hbyte : readByte msg.buffer (ptr + 20) = .ok (UInt8.ofNat (n.toNat / 16777216)) := by
        rw [readByte_eq_ok, hsplit, ← List.append_assoc, List.getElem?_append_right (by simp)]
        simp [hpre, be32]
      rw [niceUdpTurnSocketSetMsConnectionId, hfind]
      simp only [bind, Except.bind, if_pos hlen24, hid, hbyte]
      rfl

/-- **MS-TURN sequence numbers.** After a message of the server with the connection id `c` and the
number `n`, the requests that are built carry `c` and the numbers behind `n` exactly if `n` has no
other bits than those of its highest byte, or is 0 on a host with the byte order of the network. -/
theorem msSequence_iff (o : ByteOrder) (crypto : StunCrypto) (c : Vector UInt8 20) (n : UInt32)
    (msg : StunMessage) (s : MsTurn) (rs : List Request)
    (hmsg : attributeValue msg STUN_ATTRIBUTE_MS_SEQUENCE_NUMBER =
      .ok (some (c.toList ++ be32 n)))
    (hfits : ∀ r ∈ rs, r.Fits) :
    (∃ s', niceUdpTurnSocketSetMsConnectionId o s msg = .ok s' ∧
      Numbered o crypto c n s' rs) ↔ rs = [] ∨ WholeInByte o n := by
  rw [← ntohl_byte_eq_iff, setMsConnectionId_eq hmsg]
  constructor
  · rintro ⟨s', hs', hnumbered⟩
    obtain rfl := Except.ok.inj hs'
    exact (numbered_iff rfl hfits).mp hnumbered
  · intro h
    exact ⟨_, rfl, (numbered_iff rfl hfits).mpr h⟩

/-! ### A server that begins with 1 -/

/-- A message with the connection id of zeros and the number `n`. -/
def helloMessage (n : UInt32) : StunMessage where
  agent := none
  buffer := [1, 3, 0, 28] ++ List.replicate 16 7 ++ [0x80, 0x50, 0, 24] ++ List.replicate 20 0 ++
    be32 n
  key := none
  longTermKey := []
  longTermValid := false

/-- A request without credentials, for data of one byte. -/
def oneByteRequest : Request where
  purpose := .send [0x61]
  peer := .ip4 1000 (Vector.replicate 4 1)
  id := Vector.replicate 16 7
  memory := Vector.replicate STUN_MAX_MESSAGE_SIZE 0
  sentIds := Ice.noSentIds
  username := []
  password := none
  msRealm := [0x72]

lemma oneByteRequest_fits : oneByteRequest.Fits where
  peer := by
    show SIZEOF_SOCKADDR_IN ≤ SIZEOF_SOCKADDR_STORAGE
    decide
  size := by decide
  slot := by decide +kernel
  keyed := fun h => absurd h (by decide)

/-- On a little-endian host the number 1 is taken for 0. -/
theorem first_number_repeated : ¬ ∃ s', niceUdpTurnSocketSetMsConnectionId .littleEndian .new
    (helloMessage 1) = .ok s' ∧ Numbered .littleEndian (constantCrypto 0) (Vector.replicate 20 0) 1
      s' [oneByteRequest] := by
  have hmsg : attributeValue (helloMessage 1) STUN_ATTRIBUTE_MS_SEQUENCE_NUMBER =
      .ok (some ((Vector.replicate 20 0).toList ++ be32 1)) := by
    decide +kernel
  rintro ⟨s', hs', hnumbered⟩
  obtain rfl := Except.ok.inj ((setMsConnectionId_eq hmsg).symm.trans hs')
  have hiff := (numbered_iff (s := ⟨Vector.replicate 20 0, _, true⟩) rfl
    (by simpa using oneByteRequest_fits)).mp hnumbered
  revert hiff
  decide +kernel

theorem msSequence_iff_sample :
    (∃ s', niceUdpTurnSocketSetMsConnectionId .littleEndian .new (helloMessage 0x05000000) =
      .ok s' ∧ Numbered .littleEndian (constantCrypto 0) (Vector.replicate 20 0) 0x05000000 s'
        [oneByteRequest, oneByteRequest]) :=
  (msSequence_iff .littleEndian (constantCrypto 0) (Vector.replicate 20 0) 0x05000000
    (helloMessage 0x05000000) .new [oneByteRequest, oneByteRequest] (by decide +kernel)
    (by simpa using oneByteRequest_fits)).mpr (.inr (by decide))

end LibNice.UdpTurn.Ms
