import LibNice.Stun.Agent

/-!
The data types of `agent/candidate.h`, `agent/conncheck.h`, `agent/component.h`,
`agent/stream.h` and `agent/agent-priv.h`, as far as the connectivity checks
read and write them.

* `NiceAddress`, `NiceSocket`, `NiceCandidate`: where a packet can come from.
* `IceMessage`: a STUN message of a connectivity check, by the attributes that
  the accessors of the library find in it.
* `CandidateCheckPair`, `IncomingCheck`, `CandidatePair`: a check of a check
  list, a check that came too early, and the selected pair.
* `Component`, `Stream`, `NiceAgent`: the state.  Candidates, check pairs and
  streams are objects that the source knows by their address; here they are
  known by a number, and the agent holds what each number stands for.
* `Trace`: what an agent does that can be seen from outside.
-/

namespace LibNice.Ice

open LibNice.Foundation LibNice.Stun

/-! ### Constants -/

/-- `NICE_CANDIDATE_MAX_FOUNDATION`, with the terminating zero. -/
def NICE_CANDIDATE_MAX_FOUNDATION : ℕ := 33

/-- `NICE_CANDIDATE_PAIR_MAX_FOUNDATION`. -/
def NICE_CANDIDATE_PAIR_MAX_FOUNDATION : ℕ := NICE_CANDIDATE_MAX_FOUNDATION * 2

/-- `NICE_STREAM_MAX_UNAME`. -/
def NICE_STREAM_MAX_UNAME : ℕ := 256 * 2 + 1 + 1

/-- `NICE_AGENT_MAX_REMOTE_CANDIDATES`. -/
def NICE_AGENT_MAX_REMOTE_CANDIDATES : ℕ := 25

/-- `MAX_STUN_DATAGRAM_PAYLOAD`, the room for a reply. -/
def MAX_STUN_DATAGRAM_PAYLOAD : ℕ := 1300

/-- `STUN_MAX_MESSAGE_SIZE_IPV6`, the room for a request. -/
def STUN_MAX_MESSAGE_SIZE_IPV6 : ℕ := 1280

/-- The method of a connectivity check. -/
def STUN_BINDING : StunMethod := 0x0001

/-- The error of a check whose sender claims the role of its receiver. -/
def STUN_ERROR_ROLE_CONFLICT : ℕ := 487

/-! ### Enumerations -/

/-- Which draft or vendor the agent speaks with. -/
inductive NiceCompatibility where
  | rfc5245
  | google
  | msn
  | wlm2009
  | oc2007
  | oc2007r2
deriving DecidableEq, Repr

/-- How connectivity checks are written. -/
inductive StunUsageIceCompatibility where
  | rfc5245
  | google
  | msn
  | wlm2009
deriving DecidableEq, Repr

/-- What the functions of `stun/usages/ice.c` find. -/
inductive StunUsageIceReturn where
  | success
  | error
  | invalid
  | roleConflict
  | invalidRequest
  | invalidMethod
  | memoryError
  | invalidAddress
  | noMappedAddress
deriving DecidableEq, Repr

/-- What a retransmission timer says when it is asked. -/
inductive StunUsageTimerReturn where
  | success
  | retransmit
  | timeout
deriving DecidableEq, Repr

/-- The kind of a candidate. -/
inductive NiceCandidateType where
  | host
  | serverReflexive
  | peerReflexive
  | relayed
deriving DecidableEq, Repr

/-- The transport of a candidate. -/
inductive NiceCandidateTransport where
  | udp
  | tcpActive
  | tcpPassive
  | tcpSo
deriving DecidableEq, Repr

/-- The kind of a socket, as far as it is asked for. -/
inductive NiceSocketType where
  | udpBsd
  | udpTurn
  | other
deriving DecidableEq, Repr

/-- The state of a check. -/
inductive NiceCheckState where
  | waiting
  | inProgress
  | succeeded
  | failed
  | frozen
  | cancelled
  | discovered
deriving DecidableEq, Repr

/-- The state of a component. -/
inductive NiceComponentState where
  | disconnected
  | gathering
  | connecting
  | connected
  | ready
  | failed
deriving DecidableEq, Repr

/-! ### Addresses and sockets -/

/-- A transport address; only the two IP families have addresses here. -/
structure NiceAddress where
  ip6 : Bool
  ip : Bytes
  port : ℕ
  scopeId : ℕ
deriving DecidableEq, Repr

/-- `nice_address_equal_no_port`. -/
def NiceAddress.equalNoPort (a b : NiceAddress) : Bool :=
  a.ip6 = b.ip6 && a.ip = b.ip && a.scopeId = b.scopeId

/-- A socket.  `id` is its identity; `fileno` says that it has a file. -/
structure NiceSocket where
  id : ℕ
  addr : NiceAddress
  type : NiceSocketType
  reliable : Bool
  fileno : Bool
deriving DecidableEq, Repr

/-! ### Messages -/

/-- A STUN message of a connectivity check.  `integrity` says that it carries a
MESSAGE-INTEGRITY. -/
structure IceMessage where
  cls : StunClass
  method : StunMethod
  id : StunTransactionId
  useCandidate : Bool
  priority : Option UInt32
  iceControlling : Option UInt64
  iceControlled : Option UInt64
  username : Option Bytes
  candidateIdentifier : Option Bytes
  mappedAddress : Option NiceAddress
  errorCode : Option ℕ
  integrity : Bool
deriving DecidableEq, Repr

/-- The role attribute of a message that claims the given role. -/
def IceMessage.role (msg : IceMessage) (controlling : Bool) : Option UInt64 :=
  if controlling then msg.iceControlling else msg.iceControlled

/-! ### Candidates and pairs -/

/-- The address of a candidate. -/
abbrev CandidateId := ℕ

/-- The address of a check pair. -/
abbrev PairId := ℕ

/-- The id of a stream. -/
abbrev StreamId := ℕ

/-- The id of a component in its stream, from 1. -/
abbrev ComponentId := ℕ

/-- A local or a remote candidate. -/
structure NiceCandidate where
  type : NiceCandidateType
  transport : NiceCandidateTransport
  addr : NiceAddress
  baseAddr : NiceAddress
  priority : UInt32
  streamId : StreamId
  componentId : ComponentId
  foundation : Bytes
  username : Option Bytes
  password : Option Bytes
  turnServer : Option NiceAddress
  sockptr : Option NiceSocket
deriving DecidableEq, Repr

/-- A pair of a check list.  `stunMessage` is its request while
`stun_message.buffer` is set. -/
structure CandidateCheckPair where
  streamId : StreamId
  componentId : ComponentId
  localCand : CandidateId
  remoteCand : CandidateId
  sockptr : Option NiceSocket
  foundation : Bytes
  state : NiceCheckState
  nominated : Bool
  controlling : Bool
  timerRestarted : Bool
  priority : UInt64
  stunMessage : Option IceMessage
deriving DecidableEq, Repr

/-- A check that came before the candidates of the peer. -/
structure IncomingCheck where
  fromAddr : NiceAddress
  localSocket : NiceSocket
  priority : UInt32
  useCandidate : Bool
  username : Option Bytes
deriving DecidableEq, Repr

/-- The selected pair.  `keepalive` is the request of its keepalive check while
`keepalive.stun_message.buffer` is set, and `tick` says that the keepalive has a
retransmission timer. -/
structure CandidatePair where
  localCand : Option CandidateId
  remoteCand : Option CandidateId
  priority : UInt64
  keepalive : Option IceMessage
  tick : Bool
deriving DecidableEq, Repr

/-- A selected pair of zeroes. -/
def CandidatePair.clear : CandidatePair :=
  { localCand := none, remoteCand := none, priority := 0, keepalive := none, tick := false }

/-! ### Components, streams and agents -/

/-- A component of a stream. -/
structure Component where
  state : NiceComponentState
  localCandidates : List CandidateId
  remoteCandidates : List CandidateId
  incomingChecks : List IncomingCheck
  selectedPair : CandidatePair
  turnCandidate : Option CandidateId
  stunAgent : StunAgent

/-- A stream, whose components have the ids 1 to `nComponents`. -/
structure Stream where
  nComponents : ℕ
  component : ComponentId → Component
  conncheckList : List PairId
  localUfrag : Bytes
  localPassword : Bytes
  remoteUfrag : Bytes
  remotePassword : Bytes
  initialBindingRequestReceived : Bool

/-- The ids of the components, in the order of `stream->components`. -/
def Stream.components (s : Stream) : List ComponentId := List.range' 1 s.nComponents

/-- A discovery of `agent->discovery_list`. -/
structure CandidateDiscovery where
  streamId : StreamId
  done : Bool
deriving DecidableEq, Repr

/-- What can be seen of an agent from outside: the packets it sends and the
signals it queues.  The last two are what its debug log says: that it handled a
role conflict, and that it dropped a request which its STUN agent still
remembers. -/
inductive Trace where
  /-- `agent_socket_send`. -/
  | send (sock : Option NiceSocket) (addr : NiceAddress) (msg : IceMessage)
  /-- `component-state-changed`. -/
  | stateChanged (sid : StreamId) (cid : ComponentId) (state : NiceComponentState)
  /-- `new-selected-pair`. -/
  | newSelectedPair (sid : StreamId) (cid : ComponentId) (lcand rcand : CandidateId)
  /-- `new-remote-candidate`. -/
  | newRemoteCandidate (cand : CandidateId)
  /-- `initial-binding-request-received`. -/
  | initialBindingRequestReceived (sid : StreamId)
  /-- `priv_check_for_role_conflict` ran, and the role it was asked for. -/
  | roleConflict (control : Bool)
  /-- A request was dropped while its transaction was outstanding. -/
  | abandoned (sid : StreamId) (cid : ComponentId) (id : StunTransactionId)
deriving DecidableEq, Repr

/-- An agent.  `nextCandidate` and `nextPair` are the first numbers not in use,
`transids` is how many transaction ids have been made up, and `otherIds` are the
transactions that the STUN agents of discoveries and TURN refreshes have
outstanding. -/
structure NiceAgent where
  controllingMode : Bool
  tieBreaker : UInt64
  compatibility : NiceCompatibility
  softwareAttribute : Option Bytes
  reliable : Bool
  keepaliveConncheck : Bool
  maxConnChecks : ℕ
  mediaAfterTick : Bool
  nextStreamId : StreamId
  nextCandidateId : ℕ
  streams : List StreamId
  stream : StreamId → Stream
  nextCandidate : CandidateId
  candidate : CandidateId → NiceCandidate
  nextPair : PairId
  pair : PairId → CandidateCheckPair
  discoveryList : List CandidateDiscovery
  otherIds : List StunTransactionId
  conncheckTimer : Bool
  keepaliveTimer : Bool
  transids : ℕ
  trace : List Trace

/-- What the agent gets from outside: `stun_make_transid`, by the number of the
call, GLib's base64 and what a TCP connection attempt comes to. -/
structure Env where
  transid : ℕ → StunTransactionId
  base64Encode : Bytes → Bytes
  base64Decode : Bytes → Bytes
  tcpActiveSocketConnect : NiceSocket → NiceAddress → Option NiceSocket

end LibNice.Ice
