import LibNice.Foundation.Decimal
import LibNice.Foundation.Tokens
import LibNice.Ice.CheckList
import LibNice.Stun.Reply

/-!
The SDP of the candidates of a stream (`agent/agent.c`): how it is generated and how it is parsed.

* `SdpCandidate`, `SdpStream`: what of a candidate and of a stream is written and read.
* `AddressText`: the functions of the system that turn addresses into text and back.
* `generateCandidateSdp`, `generateStreamSdp`: the lines of a candidate and of a stream.
* `parseRemoteCandidateSdp`, `parseRemoteStreamSdp`: what is read from them.
-/

namespace LibNice.Sdp

open LibNice.Foundation LibNice.Stun LibNice.Ice

/-! ### Candidates and streams -/

/-- A candidate, as far as SDP tells of it.  `baseAddr` is none while its family is unspecified. -/
structure SdpCandidate where
  type : NiceCandidateType
  transport : NiceCandidateTransport
  addr : NiceAddress
  baseAddr : Option NiceAddress
  priority : UInt32
  streamId : StreamId
  componentId : UInt32
  foundation : Bytes
deriving DecidableEq, Repr

/-- A component with its local candidates. -/
structure SdpComponent where
  id : ComponentId
  localCandidates : List SdpCandidate

/-- A stream with what is generated from it. -/
structure SdpStream where
  name : Option Bytes
  localUfrag : Bytes
  localPassword : Bytes
  components : List SdpComponent

/-- The local candidates of a stream. -/
def SdpStream.candidates (stream : SdpStream) : List SdpCandidate :=
  stream.components.flatMap SdpComponent.localCandidates

/-- `inet_ntop`, and `getaddrinfo` with `AI_NUMERICHOST`, whose first result is taken. -/
structure AddressText where
  inetNtop : (ip6 : Bool) → (ip : Bytes) → Bytes
  getaddrinfo : Bytes → Option NiceAddress

/-- `NICE_COMPONENT_TYPE_RTP`. -/
def NICE_COMPONENT_TYPE_RTP : ComponentId := 1

/-- `NICE_COMPONENT_TYPE_RTCP`. -/
def NICE_COMPONENT_TYPE_RTCP : ComponentId := 2

/-! ### Generating -/

/-- `_cand_type_to_sdp`. -/
def candTypeToSdp : NiceCandidateType → Bytes
  | .serverReflexive => ascii "srflx"
  | .peerReflexive => ascii "prflx"
  | .relayed => ascii "relay"
  | .host => ascii "host"

/-- `_transport_to_sdp`. -/
def transportToSdp : NiceCandidateTransport → Bytes
  | .udp => ascii "UDP"
  | .tcpActive | .tcpPassive | .tcpSo => ascii "TCP"

/-- `_transport_to_sdp_tcptype`. -/
def transportToSdpTcptype : NiceCandidateTransport → Bytes
  | .udp => ascii ""
  | .tcpActive => ascii "active"
  | .tcpPassive => ascii "passive"
  | .tcpSo => ascii "so"

/-- `nice_address_to_string`. -/
def AddressText.toText (text : AddressText) (addr : NiceAddress) : Bytes :=
  text.inetNtop addr.ip6 addr.ip

/-- A port in SDP: the discard port instead of none. -/
def sdpPort (port : ℕ) : Bytes := decimal (if port = 0 then 9 else port)

/-- `_generate_candidate_sdp`. -/
def generateCandidateSdp (text : AddressText) (candidate : SdpCandidate) : Bytes :=
  let sdp := ascii "a=candidate:" ++ candidate.foundation.take NICE_CANDIDATE_MAX_FOUNDATION ++
    ascii " " ++ formatWord candidate.componentId ++ ascii " " ++
    transportToSdp candidate.transport ++ ascii " " ++ formatWord candidate.priority ++ ascii " " ++
    text.toText candidate.addr ++ ascii " " ++ sdpPort candidate.addr.port
  let sdp := sdp ++ (ascii " typ " ++ candTypeToSdp candidate.type)
  let sdp := match candidate.baseAddr with
    | some baseAddr =>
        if candidate.addr ≠ baseAddr then
          -- the port is the one of `addr` here too
          sdp ++ (ascii " raddr " ++ text.toText baseAddr ++ ascii " rport " ++
            sdpPort candidate.addr.port)
        else sdp
    | none => sdp
  if candidate.transport ≠ .udp then
    sdp ++ (ascii " tcptype " ++ transportToSdpTcptype candidate.transport)
  else sdp

/-- The choice of `_get_default_local_candidate_locked` for the RTP component: the IPv4 candidate
with the lowest priority, the first of them. -/
def defaultRtpCandidate (component : SdpComponent) : Option SdpCandidate :=
  (component.localCandidates.filter fun c => !c.addr.ip6).foldl (fun default c =>
    match default with
    | none => some c
    | some d => if c.priority < d.priority then some c else some d) none

/-- `_get_default_local_candidate_locked`. -/
def getDefaultLocalCandidate (stream : SdpStream) (component : SdpComponent) :
    Option SdpCandidate :=
  if component.id = NICE_COMPONENT_TYPE_RTP then defaultRtpCandidate component
  else do
    let rtp ← stream.components.find? fun c => c.id = NICE_COMPONENT_TYPE_RTP
    let rtp ← defaultRtpCandidate rtp
    component.localCandidates.find? fun c => !c.addr.ip6 &&
      c.foundation.take NICE_CANDIDATE_MAX_FOUNDATION =
        rtp.foundation.take NICE_CANDIDATE_MAX_FOUNDATION

/-- The address of the default candidate of the last component with the id that has one, else
0.0.0.0 and no port. -/
def defaultAddress (stream : SdpStream) (id : ComponentId) : NiceAddress :=
  stream.components.foldl (fun addr component =>
    if component.id = id then
      match getDefaultLocalCandidate stream component with
      | some candidate => candidate.addr
      | none => addr
    else addr) ⟨false, [0, 0, 0, 0], 0, 0⟩

/-- The end of a line. -/
def newline : UInt8 := 10

/-- The lines of `_generate_stream_sdp` that are not about ICE. -/
def nonIceLines (text : AddressText) (stream : SdpStream) : List Bytes :=
  let rtp := defaultAddress stream NICE_COMPONENT_TYPE_RTP
  let rtcp := defaultAddress stream NICE_COMPONENT_TYPE_RTCP
  [ascii "m=" ++ stream.name.getD (ascii "-") ++ ascii " " ++ decimal rtp.port ++
      ascii " ICE/SDP",
    ascii "c=IN IP4 " ++ text.toText rtp] ++
    if rtcp.port ≠ 0 then [ascii "a=rtcp:" ++ decimal rtcp.port] else []

/-- `_generate_stream_sdp`. -/
def generateStreamSdp (text : AddressText) (stream : SdpStream) (includeNonIce : Bool) : Bytes :=
  terminated newline
    ((if includeNonIce then nonIceLines text stream else []) ++
      [ascii "a=ice-ufrag:" ++ stream.localUfrag, ascii "a=ice-pwd:" ++ stream.localPassword] ++
      stream.components.flatMap fun component =>
        component.localCandidates.map (generateCandidateSdp text))

/-! ### Parsing -/

/-- The tokens behind the port: pairs of a key and a value. -/
structure Extensions where
  type : Option Bytes
  raddr : Option Bytes
  rport : UInt16
  tcptype : Option Bytes

/-- The pair `key`, `value`. -/
def Extensions.set (ext : Extensions) (key value : Bytes) : Extensions :=
  if key = ascii "typ" then { ext with type := some value }
  else if key = ascii "raddr" then { ext with raddr := some value }
  else if key = ascii "rport" then { ext with rport := (strtoull value).toUInt16 }
  else if key = ascii "tcptype" then { ext with tcptype := some value }
  else ext

/-- The loop of `nice_agent_parse_remote_candidate_sdp` from the token 6 on.  A key without a value
is an error. -/
def parseExtensions : List Bytes → Extensions → Option Extensions
  | [], ext => some ext
  | [_], _ => none
  | key :: value :: tokens, ext => parseExtensions tokens (ext.set key value)

/-- The search in `type_names`. -/
def typeOfName (type : Bytes) : Option NiceCandidateType :=
  if type = ascii "host" then some .host
  else if type = ascii "srflx" then some .serverReflexive
  else if type = ascii "prflx" then some .peerReflexive
  else if type = ascii "relay" then some .relayed
  else none

/-- The transport of a candidate.  `g_ascii_strcasecmp` finds a `tcptype` that is `NULL` equal to
the first that it is compared with. -/
def transportOfName (transport : Bytes) (tcptype : Option Bytes) : Option NiceCandidateTransport :=
  let isType (name : String) : Bool := match tcptype with
    | some tcptype => caseless tcptype (ascii name)
    | none => true
  if caseless transport (ascii "UDP") then some .udp
  else if caseless transport (ascii "TCP-SO") then some .tcpSo
  else if caseless transport (ascii "TCP-ACT") then some .tcpActive
  else if caseless transport (ascii "TCP-PASS") then some .tcpPassive
  else if caseless transport (ascii "TCP") then
    if isType "so" then some .tcpSo
    else if isType "active" then some .tcpActive
    else if isType "passive" then some .tcpPassive
    else none
  else none

/-- `nice_address_set_from_string` and `nice_address_set_port`. -/
def AddressText.ofText (text : AddressText) (addr : Bytes) (port : UInt16) : Option NiceAddress :=
  (text.getaddrinfo addr).map fun addr => { addr with port := port.toNat }

/-- `nice_agent_parse_remote_candidate_sdp`. -/
def parseRemoteCandidateSdp (text : AddressText) (sid : StreamId) (sdp : Bytes) :
    Option SdpCandidate :=
  if sid < 1 ∨ !(ascii "a=candidate:").isPrefixOf sdp then none
  else
    match split 32 (sdp.drop 12) with
    | foundation :: componentId :: transport :: priority :: addr :: port :: tokens => do
        let ext ← parseExtensions tokens ⟨none, none, 0, none⟩
        let type ← typeOfName (← ext.type)
        let transport ← transportOfName transport ext.tcptype
        let addr ← text.ofText addr (strtoull port).toUInt16
        let baseAddr ← match ext.raddr with
          | some raddr =>
              if ext.rport ≠ 0 then (text.ofText raddr ext.rport).map some else some none
          | none => some none
        some
          { type, transport, addr, baseAddr, streamId := sid
            priority := (strtoull priority).toUInt32
            componentId := (strtoull componentId).toUInt32
            foundation := foundation.take (NICE_CANDIDATE_MAX_FOUNDATION - 1) }
    | _ => none -- `type` is `NULL`

/-- What is read from the SDP of a stream: the candidates, the latest first, and the credentials. -/
structure ParsedStream where
  candidates : List SdpCandidate
  ufrag : Option Bytes
  pwd : Option Bytes

/-- The loop of `nice_agent_parse_remote_stream_sdp`.  `ufrag` and `pwd` say that the credentials
are asked for.  A candidate that cannot be read leaves none. -/
def parseLines (text : AddressText) (sid : StreamId) (ufrag pwd : Bool) :
    List Bytes → ParsedStream → ParsedStream
  | [], parsed => parsed
  | line :: lines, parsed =>
      if ufrag && (ascii "a=ice-ufrag:").isPrefixOf line then
        parseLines text sid ufrag pwd lines { parsed with ufrag := some (line.drop 12) }
      else if pwd && (ascii "a=ice-pwd:").isPrefixOf line then
        parseLines text sid ufrag pwd lines { parsed with pwd := some (line.drop 10) }
      else if (ascii "a=candidate:").isPrefixOf line then
        match parseRemoteCandidateSdp text sid line with
        | none => { parsed with candidates := [] }
        | some candidate =>
            parseLines text sid ufrag pwd lines
              { parsed with candidates := candidate :: parsed.candidates }
      else parseLines text sid ufrag pwd lines parsed

/-- `nice_agent_parse_remote_stream_sdp`. -/
def parseRemoteStreamSdp (text : AddressText) (agent : NiceAgent) (sid : StreamId) (sdp : Bytes)
    (ufrag pwd : Bool) : ParsedStream :=
  if sid < 1 then ⟨[], none, none⟩
  else
    match agentFindStream agent sid with
    | none => ⟨[], none, none⟩
    | some sid => parseLines text sid ufrag pwd (split newline sdp) ⟨[], none, none⟩

end LibNice.Sdp
