import LibNice.Ice.Timer
import LibNice.Ice.Usage

/-!
`socket/udp-turn.c`: the state of a UDP-TURN socket.

* `NiceTurnSocketCompatibility`, `niceUdpTurnSocketNewAgent`: the protocols such
  a socket can speak, and its STUN agent for each.
* `TURNMessage`, `ReceivedMessage`: a request in flight, and a message from the
  server, by what the accessors find in them.
* `ChannelBinding`, `SendRequest`, `SendData`: the entries of the lists.
* `Bindings`, `Permissions`, `UdpTurnPriv`: the state.  The two halves of it
  that the ChannelBind and the CreatePermission requests are about are
  structures of their own.
* `Env`: what the socket gets from outside.
* `Trace`: what the socket has done.
-/

namespace LibNice.UdpTurn

open LibNice.Foundation LibNice.Stun LibNice.Ice

/-! ### Constants -/

/-- `STUN_MAX_MESSAGE_SIZE`, the room for a message. -/
def STUN_MAX_MESSAGE_SIZE : ℕ := 65552

/-- `STUN_MAX_MS_REALM_LEN`. -/
def STUN_MAX_MS_REALM_LEN : ℕ := 128

/-- `TURN_MAGIC_COOKIE`. -/
def TURN_MAGIC_COOKIE : UInt32 := 0x72c64bc6

def STUN_SEND : StunMethod := 0x0004
def STUN_OLD_SET_ACTIVE_DST : StunMethod := 0x0006
def STUN_IND_SEND : StunMethod := 0x0006
def STUN_IND_DATA : StunMethod := 0x0007
def STUN_CREATEPERMISSION : StunMethod := 0x0008
def STUN_CHANNELBIND : StunMethod := 0x0009

/-! ### Compatibility -/

/-- `NiceTurnSocketCompatibility`. -/
inductive NiceTurnSocketCompatibility where
  | draft9
  | google
  | msn
  | oc2007
  | rfc5766
deriving DecidableEq, Repr

/-- The protocols with channels. -/
def NiceTurnSocketCompatibility.hasChannels (c : NiceTurnSocketCompatibility) : Bool :=
  c = .draft9 ∨ c = .rfc5766

/-- The flavour of STUN of a TURN socket. -/
def NiceTurnSocketCompatibility.stun : NiceTurnSocketCompatibility → StunCompatibility
  | draft9 | rfc5766 => .rfc5389
  | msn | google => .rfc3489
  | oc2007 => .oc2007

/-- The usage flags of the STUN agent of a TURN socket. -/
def NiceTurnSocketCompatibility.usageFlags (c : NiceTurnSocketCompatibility) :
    StunAgentUsageFlags where
  shortTermCredentials := c = .msn ∨ c = .google
  longTermCredentials := c = .draft9 ∨ c = .rfc5766 ∨ c = .oc2007
  useFingerprint := false
  addSoftware := false
  ignoreCredentials := c = .google
  noIndicationAuth := c = .msn
  forceValidater := false
  noAlignedAttributes := c = .oc2007

/-- The STUN agent that `nice_udp_turn_socket_new` sets up. -/
def niceUdpTurnSocketNewAgent (compatibility : NiceTurnSocketCompatibility) : StunAgent where
  compatibility := compatibility.stun
  knownAttributes := STUN_ALL_KNOWN_ATTRIBUTES
  usageFlags := compatibility.usageFlags
  softwareAttribute := none
  sentIds := noSentIds

/-! ### Messages -/

/-- An address that has gone through a STUN attribute, which has no scope. -/
def unscoped (a : NiceAddress) : NiceAddress := { a with scopeId := 0 }

/-- A request in flight.  `peer` is what XOR-PEER-ADDRESS holds, `realm` what
REALM holds. -/
structure TURNMessage where
  method : StunMethod
  id : StunTransactionId
  peer : NiceAddress
  realm : Option Bytes
  length : ℕ
  timer : StunTimer
deriving DecidableEq, Repr

/-- A message from the server.  `remoteAddress` is the address in
REMOTE-ADDRESS. -/
structure ReceivedMessage where
  cls : StunClass
  method : StunMethod
  id : StunTransactionId
  errorCode : Option ℕ
  realm : Option Bytes
  nonce : Option Bytes
  magicCookie : Option UInt32
  options : Option UInt32
  remoteAddress : Option NiceAddress
  data : Option Bytes
deriving DecidableEq, Repr

/-- What is handed to the server for a peer. -/
inductive Datagram where
  | sendIndication (peer : NiceAddress) (data : Bytes)
  | sendRequest (peer : NiceAddress) (data : Bytes)
  | channelData (channel : UInt16) (data : Bytes)
  /-- The data as they are. -/
  | bare (data : Bytes)
deriving DecidableEq, Repr

/-- The data of the application in a datagram. -/
def Datagram.data : Datagram → Bytes
  | sendIndication _ data | sendRequest _ data | channelData _ data | bare data => data

/-! ### Entries -/

/-- The callback of a timer of a binding. -/
inductive GSourceFunc where
  | bindingTimeout
  | bindingExpiredTimeout
deriving DecidableEq, Repr

/-- A timer of a binding; `id` is its identity. -/
structure GSource where
  id : ℕ
  function : GSourceFunc
deriving DecidableEq, Repr

structure ChannelBinding where
  peer : NiceAddress
  channel : UInt16
  renew : Bool
  timeoutSource : Option GSource
deriving DecidableEq, Repr

/-- A SEND request whose answer is waited for. -/
structure SendRequest where
  id : StunTransactionId
  source : ℕ
deriving DecidableEq, Repr

/-- A datagram of `length` bytes that waits for a permission. -/
structure SendData where
  datagram : Datagram
  length : ℕ
  reliable : Bool
deriving DecidableEq, Repr

/-! ### The state -/

/-- What a socket has done: datagrams that the base socket took, queued datagrams
that it refused, and requests for a new binding, with the bindings at that
time. -/
inductive Trace where
  | data (peer : NiceAddress) (datagram : Datagram)
  | lost (peer : NiceAddress) (datagram : Datagram)
  | newBinding (channels : List ChannelBinding) (peer : NiceAddress)
deriving DecidableEq, Repr

/-- The bindings. -/
structure Bindings where
  channels : List ChannelBinding
  pendingBindings : List NiceAddress
  currentBinding : Option ChannelBinding
  currentBindingMsg : Option TURNMessage

/-- The permissions.  A peer without an entry in `send_data_queues` has no
queued data. -/
structure Permissions where
  permissions : List NiceAddress
  sentPermissions : List NiceAddress
  pendingPermissions : List TURNMessage
  sendDataQueues : NiceAddress → List SendData

/-- `UdpTurnPriv`.  The two tick sources and the permission timer are known by
whether they are there.  The last six fields are the clock, how many messages
the base socket has been given, how many transaction ids and timers have been
made up, and what the socket has done so far. -/
structure UdpTurnPriv extends Bindings, Permissions where
  agent : StunAgent
  tickSourceChannelBind : Bool
  tickSourceCreatePermission : Bool
  baseReliable : Bool
  serverAddr : NiceAddress
  username : Bytes
  password : Option Bytes
  compatibility : NiceTurnSocketCompatibility
  sendRequests : List SendRequest
  msRealm : Bytes
  msConnectionIdValid : Bool
  permissionTimeoutSource : Bool
  clock : Timeval
  sends : ℕ
  transids : ℕ
  sources : ℕ
  trace : List Trace

/-- The socket with other CreatePermission requests in flight. -/
def UdpTurnPriv.withPending (s : UdpTurnPriv) (msgs : List TURNMessage) : UdpTurnPriv :=
  { s with pendingPermissions := msgs }

/-- What the socket gets from outside: `stun_make_transid`, by the number of the
call, and what the base socket says to each message it is given. -/
structure Env where
  transid : ℕ → StunTransactionId
  answer : ℕ → ℤ

/-- `nice_udp_turn_socket_new`, with the username and the password as they are
used. -/
def niceUdpTurnSocketNew (serverAddr : NiceAddress) (baseReliable : Bool) (username : Bytes)
    (password : Bytes) (compatibility : NiceTurnSocketCompatibility) : UdpTurnPriv where
  channels := []
  pendingBindings := []
  currentBinding := none
  currentBindingMsg := none
  permissions := []
  sentPermissions := []
  pendingPermissions := []
  sendDataQueues := fun _ => []
  agent := niceUdpTurnSocketNewAgent compatibility
  tickSourceChannelBind := false
  tickSourceCreatePermission := false
  baseReliable
  serverAddr
  username
  password := if compatibility = .google then none else some password
  compatibility
  sendRequests := []
  msRealm := []
  msConnectionIdValid := false
  permissionTimeoutSource := false
  clock := ⟨0, 0⟩
  sends := 0
  transids := 0
  sources := 0
  trace := []

end LibNice.UdpTurn
