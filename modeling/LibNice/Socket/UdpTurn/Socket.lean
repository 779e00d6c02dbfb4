import LibNice.Foundation.Run
import LibNice.Socket.UdpTurn.Requests

/-!
`socket/udp-turn.c`: what happens to a UDP-TURN socket.

* `socketSendMessage`: data for a peer.
* `validateReceived`: what `stun_agent_validate` does to the transaction table.
* `parseRecv`: a datagram from the base socket, with `parseSend`,
  `parseSetActiveDst`, `parseChannelBind`, `parseCreatePermission`,
  `parseIndData`, `recvChannel` and `msnGoogleLock` for its parts.
* `privRetransmissionsTick`, `privBindingTimeout`, `privBindingExpiredTimeout`,
  `privPermissionTimeout`, `privForgetSendRequest`: the timers.
* `Event`, `handle`, `Step`: the socket as a state machine.
-/

namespace LibNice.UdpTurn

open LibNice.Foundation LibNice.Stun LibNice.Ice

variable (env : Env)

/-! ### Sending -/

/-- `priv_send_create_permission`, with the ticks of the socket. -/
def createPermission (s : UdpTurnPriv) (resp : Option ReceivedMessage) (peer : NiceAddress) :
    UdpTurnPriv :=
  privSendCreatePermission env (fun s => (privRetransmissionsTickUnlocked env s).1) s resp peer

/-- A request for a permission, unless one is in flight. -/
def ensurePermission (s : UdpTurnPriv) (peer : NiceAddress) : UdpTurnPriv :=
  if privIsPeerInList s.sentPermissions peer then s else createPermission env s none peer

/-- The message that `socket_send_message` puts the data for a peer without a
binding in: `none` where it gives up, else the length of the message, 0 if it is
not finished, and the socket. -/
def buildSend (s : UdpTurnPriv) (peer : NiceAddress) (data : Bytes) :
    Option (ℕ × UdpTurnPriv) :=
  let agent := s.agent.toStunAgentConfig
  let id := env.transid s.transids
  let s := { s with transids := s.transids + 1 }
  if s.compatibility.hasChannels then
    ((appendLength agent STUN_MAX_MESSAGE_SIZE STUN_MESSAGE_HEADER_LENGTH
      (addressLength peer)).bind fun mlen =>
        appendLength agent STUN_MAX_MESSAGE_SIZE mlen data.length).map fun mlen =>
      match finishMessage s.agent .indication STUN_IND_SEND id s.password mlen false with
      | some (length, _) => (length, s)
      | none => (0, s)
  else
    let named := s.username.length > 0
    let lengths := 4 :: (if named then [s.username.length] else []) ++ [addressLength peer]
    (builtLength agent STUN_MAX_MESSAGE_SIZE lengths).bind fun mlen =>
      let mlen := if s.compatibility = .google ∧ s.currentBinding.map (·.peer) = some peer then
          appendUnchecked agent mlen 4 else mlen
      let (mlen, realm) := appendOc2007 s true mlen
      (appendLength agent STUN_MAX_MESSAGE_SIZE mlen data.length).map fun mlen =>
        match finishMessage s.agent .request STUN_SEND id s.password mlen (named ∧ realm) with
        | some (length, agent) =>
            (length,
              { s with
                agent, sources := s.sources + 1
                sendRequests := s.sendRequests ++ [{ id, source := s.sources }] })
        | none => (0, s)

/-- The transmission of a datagram of `length` bytes to the server, for which
`ret` is returned. -/
def transmitData (s : UdpTurnPriv) (peer : NiceAddress) (datagram : Datagram) (length ret : ℕ) :
    UdpTurnPriv × ℤ :=
  let (s', answer) := socketSendWrapped env s length
  if env.answer s.sends = 1 then ({ s' with trace := s'.trace ++ [.data peer datagram] }, ret)
  else (s', answer)

/-- The last part of `socket_send_message`, with a message of `length` bytes to
send. -/
def sendOrEnqueue (s : UdpTurnPriv) (peer : NiceAddress) (datagram : Datagram) (length : ℕ)
    (reliable : Bool) : UdpTurnPriv × ℤ :=
  if s.compatibility = .rfc5766 ∧ ¬privIsPeerInList s.permissions peer then
    (socketEnqueueData (ensurePermission env s peer) peer { datagram, length, reliable }, length)
  else transmitData env s peer datagram length length

/-- `socket_send_message`. -/
def socketSendMessage (s : UdpTurnPriv) (peer : NiceAddress) (data : Bytes) (reliable : Bool) :
    UdpTurnPriv × ℤ :=
  match s.channels.find? (·.peer = peer) with
  | some binding =>
      if s.compatibility.hasChannels then
        if data.length + 4 ≤ STUN_MAX_MESSAGE_SIZE then
          sendOrEnqueue env s peer (.channelData binding.channel data) (data.length + 4) reliable
        else (s, -1)
      else transmitData env s peer (.bare data) data.length data.length
  | none =>
      match buildSend env s peer data with
      | none => ({ s with transids := s.transids + 1 }, -1)
      | some (0, s) => transmitData env s peer (.bare data) data.length data.length
      | some (length + 1, s) =>
          sendOrEnqueue env s peer
            (if s.compatibility.hasChannels then .sendIndication (unscoped peer) data
              else .sendRequest (unscoped peer) data)
            (length + 1) reliable

/-! ### Receiving -/

/-- `stun_agent_validate` on a message for which its checks of the framing and of
the credentials come to `status`: the transaction of an answer that is taken is
closed. -/
def validateReceived (agent : StunAgent) (msg : ReceivedMessage) (status : StunValidationStatus) :
    StunAgent × StunValidationStatus :=
  if status = .notStun ∨ status = .incompleteStun ∨ status = .badRequest then (agent, status)
  else if msg.cls = .response ∨ msg.cls = .error then
    match agent.sentIds.findFinIdx? fun s => s.valid && s.method = msg.method && s.id = msg.id with
    | none => (agent, .unmatchedResponse)
    | some idx =>
        if status = .success ∨ status = .unknownAttribute then
          (agent.release (.found idx), status)
        else (agent, status)
  else (agent, status)

/-- The socket after `stun_agent_validate`. -/
def validated (s : UdpTurnPriv) (msg : ReceivedMessage) (status : StunValidationStatus) :
    UdpTurnPriv :=
  { s with agent := (validateReceived s.agent msg status).1 }

/-- What `nice_udp_turn_socket_parse_recv` hands on: data and their sender. -/
structure Parsed where
  sender : Option NiceAddress
  data : Bytes
deriving DecidableEq, Repr

/-- Nothing is handed on. -/
def Parsed.nothing : Parsed := { sender := none, data := [] }

/-- The big-endian number at the start of some bytes. -/
def ntohs (buf : Bytes) : UInt16 := UInt16.ofNat ((buf.getD 0 0).toNat * 256 + (buf.getD 1 0).toNat)

/-- The label `recv` of `nice_udp_turn_socket_parse_recv`: data that are not a
message, or ChannelData. -/
def recvChannel (s : UdpTurnPriv) (len : ℕ) (buf : Bytes) (recvFrom : NiceAddress) : Parsed :=
  if s.compatibility.hasChannels then
    match s.channels.find? fun b => b.channel = ntohs buf with
    | some b =>
        { sender := some b.peer, data := (buf.drop 4).take (min len (ntohs (buf.drop 2)).toNat) }
    | none => { sender := some recvFrom, data := buf.take len }
  else
    match s.channels with
    | b :: _ => { sender := some b.peer, data := buf.take len }
    | [] => { sender := some recvFrom, data := buf.take len }

/-- The label `msn_google_lock`. -/
def msnGoogleLock (s : UdpTurnPriv) : UdpTurnPriv :=
  match s.currentBinding with
  | some b => privProcessPendingBindings env { s with channels := [b], currentBinding := none }
  | none => s

/-- The part about SEND. -/
def parseSend (s : UdpTurnPriv) (msg : ReceivedMessage) : UdpTurnPriv :=
  if msg.cls = .response then
    let s := { s with sendRequests := s.sendRequests.eraseP fun r => r.id = msg.id }
    if s.compatibility = .google ∧ msg.options.any fun opts => opts &&& 1 ≠ 0 then
      msnGoogleLock env s
    else s
  else s

/-- The part about Set Active Destination. -/
def parseSetActiveDst (s : UdpTurnPriv) (msg : ReceivedMessage) : UdpTurnPriv :=
  match s.currentBinding, s.currentBindingMsg with
  | some _, some request =>
      if request.id = msg.id then
        let s := { s with currentBindingMsg := none }
        if msg.cls = .response ∧ (s.compatibility = .oc2007 ∨ s.compatibility = .msn) then
          msnGoogleLock env s
        else { s with currentBinding := none }
      else s
  | _, _ => s

/-- Whether an error answer to a request asks for it to be sent again with the
realm and the nonce of the answer. -/
def unauthorized (request : TURNMessage) (msg : ReceivedMessage) : Bool :=
  msg.errorCode = some 438 ∨
    msg.errorCode = some 401 ∧
      ¬((msg.realm.getD []).length > 0 ∧ msg.realm = request.realm)

/-- The binding that a ChannelBind request is about. -/
def requestedBinding (s : UdpTurnPriv) (request : TURNMessage) : Option ChannelBinding :=
  s.currentBinding.or (s.channels.find? fun b => b.peer = request.peer)

/-- A list of which the first entry with `p` is changed. -/
def updateFirst (p : ChannelBinding → Bool) (f : ChannelBinding → ChannelBinding) :
    List ChannelBinding → List ChannelBinding
  | [] => []
  | b :: rest => if p b then f b :: rest else b :: updateFirst p f rest

/-- A binding that the server has just granted, with the timer `source`. -/
def ChannelBinding.granted (b : ChannelBinding) (source : ℕ) : ChannelBinding :=
  { b with renew := false, timeoutSource := some { id := source, function := .bindingTimeout } }

/-- The bindings after the ChannelBind `request` was granted. -/
def grantBinding (s : UdpTurnPriv) (request : TURNMessage) : UdpTurnPriv :=
  match s.currentBinding with
  | some b =>
      { s with
        sources := s.sources + 1
        channels := s.channels ++ [b.granted s.sources]
        currentBinding := none }
  | none =>
      { s with
        sources := s.sources + 1
        channels := updateFirst (fun b => b.peer = request.peer) (·.granted s.sources)
          s.channels }

/-- The part about ChannelBind. -/
def parseChannelBind (s : UdpTurnPriv) (msg : ReceivedMessage) : UdpTurnPriv :=
  match s.currentBindingMsg with
  | none => s
  | some request =>
      if request.id = msg.id then
        match msg.cls with
        | .error =>
            if unauthorized request msg then
              let binding := requestedBinding s request
              let s := { s with currentBindingMsg := none }
              match binding with
              | some b => (privSendChannelBind env s (some msg) b.peer).1
              | none => s
            else
              privProcessPendingBindings env
                { s with currentBinding := none, currentBindingMsg := none }
        | .response =>
            privProcessPendingBindings env
              (grantBinding { s with currentBindingMsg := none } request)
        | .request | .indication => s
      else s

/-- The permission timer, which starts with the first permission that is granted. -/
def startPermissionTimer (s : UdpTurnPriv) (msg : ReceivedMessage) : UdpTurnPriv :=
  if msg.cls = .response then { s with permissionTimeoutSource := true } else s

/-- The part about CreatePermission. -/
def parseCreatePermission (s : UdpTurnPriv) (msg : ReceivedMessage) : UdpTurnPriv :=
  match s.pendingPermissions.find? fun request => request.id = msg.id with
  | none => s
  | some request =>
      let rest := s.pendingPermissions.eraseP fun request => request.id = msg.id
      if msg.cls = .error ∧ unauthorized request msg then
        createPermission env (s.withPending rest) (some msg) request.peer
      else (permitPeer env (startPermissionTimer s msg) request.peer).withPending rest

/-- The part about Data indications. -/
def parseIndData (s : UdpTurnPriv) (msg : ReceivedMessage) (len : ℕ) (buf : Bytes)
    (recvFrom : NiceAddress) : UdpTurnPriv × Parsed :=
  match msg.remoteAddress, msg.data with
  | some sender, some data =>
      let sender := unscoped sender
      let s := if s.compatibility = .rfc5766 ∧ ¬privIsPeerInList s.permissions sender then
          ensurePermission env s sender else s
      (s, { sender := some sender, data := data.take len })
  | _, _ => (s, recvChannel s len buf recvFrom)

/-- `nice_udp_turn_socket_parse_recv` on a message from the server that
`stun_agent_validate` has accepted. -/
def parseMessage (s : UdpTurnPriv) (msg : ReceivedMessage) (len : ℕ) (buf : Bytes)
    (recvFrom : NiceAddress) : UdpTurnPriv × Parsed :=
  if ¬s.compatibility.hasChannels ∧ msg.magicCookie ≠ some TURN_MAGIC_COOKIE then
    (s, recvChannel s len buf recvFrom)
  else if msg.method = STUN_SEND then (parseSend env s msg, .nothing)
  else if msg.method = STUN_OLD_SET_ACTIVE_DST then (parseSetActiveDst env s msg, .nothing)
  else if msg.method = STUN_CHANNELBIND then (parseChannelBind env s msg, .nothing)
  else if msg.method = STUN_CREATEPERMISSION then (parseCreatePermission env s msg, .nothing)
  else if msg.cls = .indication ∧ msg.method = STUN_IND_DATA then
    parseIndData env s msg len buf recvFrom
  else (s, recvChannel s len buf recvFrom)

/-- What `nice_udp_turn_socket_parse_recv` reads of a datagram: on a reliable
socket there is a frame header in front. -/
def recvBuf (s : UdpTurnPriv) (buf : Bytes) : Bytes := if s.baseReliable then buf.drop 2 else buf

/-- `nice_udp_turn_socket_parse_recv`: a datagram `buf`, in which the accessors
find `msg` and of which `stun_agent_validate` thinks `status`, with `len` bytes
of room. -/
def parseRecv (s : UdpTurnPriv) (len : ℕ) (buf : Bytes) (recvFrom : NiceAddress)
    (msg : ReceivedMessage) (status : StunValidationStatus) : UdpTurnPriv × Parsed :=
  if recvFrom = s.serverAddr then
    let t := validated s msg status
    if (validateReceived s.agent msg status).2 = .success then
      parseMessage env t msg len (recvBuf s buf) recvFrom
    else (t, recvChannel t len (recvBuf s buf) recvFrom)
  else (s, recvChannel s len (recvBuf s buf) recvFrom)

/-! ### Timers -/

/-- `priv_retransmissions_tick`. -/
def privRetransmissionsTick (s : UdpTurnPriv) : UdpTurnPriv :=
  let (s, ret) := privRetransmissionsTickUnlocked env s
  if ret then s else { s with tickSourceChannelBind := false }

/-- A binding that asks for its renewal, with the timer `source`. -/
def ChannelBinding.expiring (b : ChannelBinding) (source : ℕ) : ChannelBinding :=
  { b with
    renew := true
    timeoutSource := some { id := source, function := .bindingExpiredTimeout } }

/-- `priv_binding_timeout`, as the callback of `source`. -/
def privBindingTimeout (s : UdpTurnPriv) (source : GSource) : UdpTurnPriv :=
  match s.channels.find? fun b => b.timeoutSource = some source with
  | none => s
  | some b =>
      let s :=
        { s with
          sources := s.sources + 1
          channels := updateFirst (fun b => b.timeoutSource = some source)
            (·.expiring s.sources) s.channels }
      if s.currentBindingMsg.isNone then (privSendChannelBind env s none b.peer).1 else s

/-- `priv_binding_expired_timeout`, as the callback of `source`. -/
def privBindingExpiredTimeout (s : UdpTurnPriv) (source : GSource) : UdpTurnPriv :=
  match s.channels.find? fun b => b.timeoutSource = some source with
  | none => s
  | some b =>
      let s := { s with channels := s.channels.eraseP fun b => b.timeoutSource = some source }
      match s.currentBindingMsg, s.currentBinding with
      | some request, none =>
          -- a binding that is being refreshed counts as a new one from now on
          if b.peer = request.peer then { s with currentBinding := some b }
          else (privAddChannelBinding env s b.peer).1
      | _, _ => (privAddChannelBinding env s b.peer).1

/-- `priv_permission_timeout`. -/
def privPermissionTimeout (s : UdpTurnPriv) : UdpTurnPriv := { s with permissions := [] }

/-- `priv_forget_send_request`, as the callback of `source`. -/
def privForgetSendRequest (s : UdpTurnPriv) (source : ℕ) : UdpTurnPriv :=
  match s.sendRequests.find? fun r => r.source = source with
  | none => s
  | some r =>
      { s with
        agent := (stunAgentForgetTransaction s.agent r.id).1
        sendRequests := s.sendRequests.eraseP fun r => r.source = source }

/-! ### Microsoft's extensions -/

/-- `nice_udp_turn_socket_set_ms_realm`, with the REALM of a message. -/
def setMsRealm (s : UdpTurnPriv) (realm : Bytes) : UdpTurnPriv :=
  if realm.length ≤ STUN_MAX_MS_REALM_LEN then { s with msRealm := realm.takeWhile (· ≠ 0) }
  else s

/-- `nice_udp_turn_socket_set_ms_connection_id`, with a MS-SEQUENCE-NUMBER of
`length` bytes. -/
def setMsConnectionId (s : UdpTurnPriv) (length : ℕ) : UdpTurnPriv :=
  if length = 24 then { s with msConnectionIdValid := true } else s

/-! ### The state machine -/

/-- What can happen to a socket. -/
inductive Event where
  | setPeer (peer : NiceAddress)
  | sendMessage (peer : NiceAddress) (data : Bytes) (reliable : Bool)
  | recv (len : ℕ) (buf : Bytes) (recvFrom : NiceAddress) (msg : ReceivedMessage)
      (status : StunValidationStatus)
  | retransmissionsTick
  | createPermissionTick
  | bindingTimeout (source : ℕ)
  | bindingExpiredTimeout (source : ℕ)
  | permissionTimeout
  | forgetSendRequest (source : ℕ)
  | setMsRealm (realm : Bytes)
  | setMsConnectionId (length : ℕ)
deriving DecidableEq, Repr

/-- Whether an event can happen: the ticks and the permission timer have to have
been set up.  The other timers find by themselves what they belong to. -/
def Event.enabled (s : UdpTurnPriv) : Event → Bool
  | .retransmissionsTick => s.tickSourceChannelBind
  | .createPermissionTick => s.tickSourceCreatePermission
  | .permissionTimeout => s.permissionTimeoutSource
  | _ => true

/-- An event, and what the call returns where it is a SEND. -/
def handle (s : UdpTurnPriv) : Event → UdpTurnPriv × ℤ
  | .setPeer peer => ((privAddChannelBinding env s peer).1, 0)
  | .sendMessage peer data reliable => socketSendMessage env s peer data reliable
  | .recv len buf recvFrom msg status => ((parseRecv env s len buf recvFrom msg status).1, 0)
  | .retransmissionsTick => (privRetransmissionsTick env s, 0)
  | .createPermissionTick => (privScheduleTick env s, 0)
  | .bindingTimeout source =>
      (privBindingTimeout env s { id := source, function := .bindingTimeout }, 0)
  | .bindingExpiredTimeout source =>
      (privBindingExpiredTimeout env s { id := source, function := .bindingExpiredTimeout }, 0)
  | .permissionTimeout => (privPermissionTimeout s, 0)
  | .forgetSendRequest source => (privForgetSendRequest s source, 0)
  | .setMsRealm realm => (setMsRealm s realm, 0)
  | .setMsConnectionId length => (setMsConnectionId s length, 0)

/-- An event at a time, and what comes of it. -/
structure Label where
  now : Timeval
  event : Event
  ret : ℤ
deriving DecidableEq, Repr

/-- A step of the socket. -/
def Step (s : UdpTurnPriv) (l : Label) (s' : UdpTurnPriv) : Prop :=
  l.event.enabled s ∧ handle env { s with clock := l.now } l.event = (s', l.ret)

/-- The socket after some events at given times. -/
def runEvents (s : UdpTurnPriv) (es : List (Timeval × Event)) : UdpTurnPriv :=
  es.foldl (fun s e => (handle env { s with clock := e.1 } e.2).1) s

/-- Some events at given times, with what comes of them. -/
def labels : UdpTurnPriv → List (Timeval × Event) → List Label
  | _, [] => []
  | s, (now, event) :: es =>
      let (s', ret) := handle env { s with clock := now } event
      { now, event, ret } :: labels s' es

/-- Some events can happen one after the other, each where `P` holds. -/
def Possible (P : UdpTurnPriv → Event → Prop) : UdpTurnPriv → List (Timeval × Event) → Prop
  | _, [] => True
  | s, (now, event) :: es =>
      event.enabled s ∧ P s event ∧ Possible P (handle env { s with clock := now } event).1 es

/-- **Events that can happen make a run.** -/
theorem Possible.run {P : UdpTurnPriv → Event → Prop} {s : UdpTurnPriv}
    {es : List (Timeval × Event)} (h : Possible env P s es) :
    Run (fun t l u => P t l.event ∧ Step env t l u) s (labels env s es) (runEvents env s es) := by
  induction es generalizing s with
  | nil => exact .nil
  | cons e es ih =>
      obtain ⟨now, event⟩ := e
      obtain ⟨he, hp, hes⟩ := h
      exact Run.append (.snoc .nil ⟨hp, he, rfl⟩) (ih hes)

end LibNice.UdpTurn
