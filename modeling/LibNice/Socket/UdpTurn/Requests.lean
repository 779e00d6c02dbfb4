import LibNice.Socket.UdpTurn.Types

/-!
`socket/udp-turn.c`: the requests of a UDP-TURN socket and their
retransmission.

* `finishMessage`, `finishRequest`: the transaction table while messages are
  built.
* `privRemovePeerFromList`, `socketEnqueueData`, `socketDequeueAllData`: the
  lists of the permissions.
* `schedulePermissions`: the part of `priv_schedule_tick` about CreatePermission
  requests.
* `privSendTurnMessage`, `privSendCreatePermission`, `privSendChannelBind`: the
  requests.
* `freeChannel`, `privAddChannelBinding`, `privProcessPendingBindings`: the
  bindings.
* `privRetransmissionsTickUnlocked`, `privScheduleTick`: the ticks.

`priv_schedule_tick` and `priv_retransmissions_tick_unlocked` call each other,
through a request that times out and gives way to another one.  A request that
has just been sent has not timed out, so here a request is sent with the ticks
that it needs, and `privScheduleTick` comes last; `privSendTurnMessage_eq` is
the equation of the source.
-/

namespace LibNice.UdpTurn

open LibNice.Foundation LibNice.Stun LibNice.Ice

/-! ### Building messages -/

/-- The length of an address in an attribute. -/
def addressLength (a : NiceAddress) : ℕ := if a.ip6 then 20 else 8

/-- The agent with the transaction of a request in a slot. -/
def saveId (agent : StunAgent) (idx : Fin STUN_AGENT_MAX_SAVED_IDS) (method : StunMethod)
    (id : StunTransactionId) (key : Option Bytes) : StunAgent :=
  { agent with
    sentIds := agent.sentIds.set idx
      { id, method, key
        longTermKey := List.replicate 16 0
        longTermValid := false
        valid := true } idx.isLt }

/-- `stun_agent_finish_message` on a message of `mlen` bytes; `named` says that
it has a USERNAME and a REALM.  The length of the finished message and the
agent, if it is finished. -/
def finishMessage (agent : StunAgent) (cls : StunClass) (method : StunMethod)
    (id : StunTransactionId) (key : Option Bytes) (mlen : ℕ) (named : Bool) :
    Option (ℕ × StunAgent) :=
  match freeSentId agent cls with
  | none => none
  | some idx =>
      let integrity := key.isSome && (!agent.usageFlags.longTermCredentials || named)
      ((finishLengths agent.toStunAgentConfig integrity).foldlM
        (appendLength agent.toStunAgentConfig STUN_MAX_MESSAGE_SIZE) mlen).map fun len =>
          (len, if cls = .request then saveId agent idx method id key else agent)

/-- A request with attributes of the given sizes: its length and the agent, if
it is built. -/
def finishRequest (s : UdpTurnPriv) (method : StunMethod) (id : StunTransactionId)
    (lengths : List ℕ) (named : Bool) : Option (ℕ × StunAgent) :=
  (builtLength s.agent.toStunAgentConfig STUN_MAX_MESSAGE_SIZE lengths).bind fun mlen =>
    finishMessage s.agent .request method id s.password mlen named

/-- `stun_message_append` of `length` bytes, where the result is not looked at. -/
def appendUnchecked (agent : StunAgentConfig) (mlen length : ℕ) : ℕ :=
  (appendLength agent STUN_MAX_MESSAGE_SIZE mlen length).getD mlen

/-- The attributes that OC2007 adds: MS-VERSION in a message for a peer, the
connection id, and the realm.  The length of the message with them, and whether
it has the realm. -/
def appendOc2007 (s : UdpTurnPriv) (version : Bool) (mlen : ℕ) : ℕ × Bool :=
  if s.compatibility = .oc2007 then
    let agent := s.agent.toStunAgentConfig
    let mlen := if version then appendUnchecked agent mlen 4 else mlen
    let mlen := if s.msConnectionIdValid then appendUnchecked agent mlen 24 else mlen
    (appendUnchecked agent mlen s.msRealm.length,
      (appendLength agent STUN_MAX_MESSAGE_SIZE mlen s.msRealm.length).isSome)
  else (mlen, false)

/-! ### The base socket -/

variable (env : Env)

/-- `_socket_send_wrapped`, and `_socket_send_messages_wrapped` with one message
of `len` bytes: the length, or what the base socket said. -/
def socketSendWrapped (s : UdpTurnPriv) (len : ℕ) : UdpTurnPriv × ℤ :=
  ({ s with sends := s.sends + 1 },
    if env.answer s.sends = 1 then len else env.answer s.sends)

/-- The transmission of a new request: reliably and, where that fails on an
unreliable socket, unreliably. -/
def transmit (s : UdpTurnPriv) (len : ℕ) : UdpTurnPriv :=
  let (s, ret) := socketSendWrapped env s len
  if s.baseReliable then s else if ret < 0 then (socketSendWrapped env s len).1 else s

/-- The timer of a new request. -/
def startTimer (s : UdpTurnPriv) : StunTimer :=
  if s.baseReliable then stunTimerStartReliable s.clock STUN_TIMER_DEFAULT_RELIABLE_TIMEOUT
  else stunTimerStart s.clock STUN_TIMER_DEFAULT_TIMEOUT STUN_TIMER_DEFAULT_MAX_RETRANSMISSIONS

/-! ### Permissions -/

/-- `priv_is_peer_in_list`. -/
def privIsPeerInList (list : List NiceAddress) (peer : NiceAddress) : Bool := list.contains peer

/-- `priv_remove_peer_from_list`.  After it has removed the head of the list the
loop ends; after it has removed another entry it goes on from the second one. -/
def privRemovePeerFromList (list : List NiceAddress) (peer : NiceAddress) : List NiceAddress :=
  match list with
  | [] => []
  | address :: rest =>
      if address = peer then rest else address :: rest.filter fun address => address ≠ peer

/-- `socket_enqueue_data`. -/
def socketEnqueueData (s : UdpTurnPriv) (peer : NiceAddress) (data : SendData) : UdpTurnPriv :=
  { s with
    sendDataQueues := Function.update s.sendDataQueues peer (s.sendDataQueues peer ++ [data]) }

/-- The loop of `socket_dequeue_all_data`. -/
def dequeueLoop (peer : NiceAddress) : List SendData → UdpTurnPriv → UdpTurnPriv
  | [], s => s
  | data :: rest, s =>
      let note : Trace := if env.answer s.sends = 1 then .data peer data.datagram
        else .lost peer data.datagram
      let s := (socketSendWrapped env s data.length).1
      dequeueLoop peer rest { s with trace := s.trace ++ [note] }

/-- `socket_dequeue_all_data`. -/
def socketDequeueAllData (s : UdpTurnPriv) (peer : NiceAddress) : UdpTurnPriv :=
  let s := dequeueLoop env peer (s.sendDataQueues peer) s
  { s with sendDataQueues := Function.update s.sendDataQueues peer [] }

/-- What the answer to a CreatePermission request for `peer` does, and its
timeout: the permission is taken for granted, and the data are sent. -/
def permitPeer (s : UdpTurnPriv) (peer : NiceAddress) : UdpTurnPriv :=
  socketDequeueAllData env
    { s with
      sentPermissions := privRemovePeerFromList s.sentPermissions peer
      permissions := s.permissions ++ [peer] } peer

/-- The timeout of a CreatePermission request. -/
def permissionTimedOut (s : UdpTurnPriv) (msg : TURNMessage) : UdpTurnPriv :=
  permitPeer env { s with agent := (stunAgentForgetTransaction s.agent msg.id).1 } msg.peer

/-- `priv_retransmissions_create_permission_tick_unlocked`, to which the loop of
`priv_schedule_tick` comes back while the timer of the request is over: the
request, if it is kept.  `n` bounds the number of rounds. -/
def permissionTick : ℕ → TURNMessage → UdpTurnPriv → UdpTurnPriv × Option TURNMessage
  | 0, msg, s => (s, some msg)
  | n + 1, msg, s =>
      if stunTimerRemainder s.clock msg.timer > 0 then (s, some msg)
      else
        match stunTimerRefresh s.clock msg.timer with
        | (_, .timeout) => (permissionTimedOut env s msg, none)
        | (timer, .retransmit) =>
            permissionTick n { msg with timer } (socketSendWrapped env s msg.length).1
        | (_, .success) => (s, some msg)

/-- The loop of `priv_schedule_tick` over the requests in flight: those that are
kept. -/
def permissionLoop : List TURNMessage → UdpTurnPriv → UdpTurnPriv × List TURNMessage
  | [], s => (s, [])
  | msg :: rest, s =>
      let (s, kept) := permissionTick env (msg.timer.left + 1) msg s
      let (s, rest) := permissionLoop rest s
      (s, kept.toList ++ rest)

/-- The second half of `priv_schedule_tick`. -/
def schedulePermissions (s : UdpTurnPriv) : UdpTurnPriv :=
  let (s, pending) := permissionLoop env s.pendingPermissions s
  { s.withPending pending with tickSourceCreatePermission := pending ≠ [] }

/-! ### Requests -/

/-- `priv_schedule_tick`, where `tick` is what comes of a binding request whose
timer is over. -/
def scheduleTickWith (tick : UdpTurnPriv → UdpTurnPriv) (s : UdpTurnPriv) : UdpTurnPriv :=
  let s := { s with tickSourceChannelBind := false }
  let s := match s.currentBindingMsg with
    | none => s
    | some msg =>
        if stunTimerRemainder s.clock msg.timer > 0 then { s with tickSourceChannelBind := true }
        else tick s
  schedulePermissions env s

/-- `priv_send_turn_message`. -/
def privSendTurnMessage (s : UdpTurnPriv) (msg : TURNMessage) : UdpTurnPriv :=
  let s := { s with currentBindingMsg := none }
  let s := transmit env s msg.length
  scheduleTickWith env id { s with currentBindingMsg := some { msg with timer := startTimer s } }

/-- The sizes of the attributes of a CreatePermission request, with the nonce and
the realm of `resp`. -/
def createPermissionLengths (s : UdpTurnPriv) (resp : Option ReceivedMessage)
    (peer : NiceAddress) : List ℕ :=
  addressLength peer :: ((resp.bind (·.nonce)).map List.length).toList ++
    ((resp.bind (·.realm)).map List.length).toList ++ [s.username.length]

/-- `stun_usage_turn_create_permission`: the length of the request and the agent,
if it is built. -/
def stunUsageTurnCreatePermission (s : UdpTurnPriv) (id : StunTransactionId)
    (resp : Option ReceivedMessage) (peer : NiceAddress) : Option (ℕ × StunAgent) :=
  finishRequest s STUN_CREATEPERMISSION id (createPermissionLengths s resp peer)
    (resp.bind (·.realm)).isSome

/-- `priv_has_sent_permission_for_peer`, `priv_add_sent_permission_for_peer`. -/
def addSentPermission (s : UdpTurnPriv) (peer : NiceAddress) : UdpTurnPriv :=
  if privIsPeerInList s.sentPermissions peer then s
  else { s with sentPermissions := s.sentPermissions ++ [peer] }

/-- `priv_send_create_permission`. -/
def privSendCreatePermission (tick : UdpTurnPriv → UdpTurnPriv) (s : UdpTurnPriv)
    (resp : Option ReceivedMessage) (peer : NiceAddress) : UdpTurnPriv :=
  let s := addSentPermission s peer
  let id := env.transid s.transids
  match stunUsageTurnCreatePermission s id resp peer with
  | some (length, agent) =>
      let s := transmit env { s with agent, transids := s.transids + 1 } length
      let msg : TURNMessage :=
        { method := STUN_CREATEPERMISSION, id, peer := unscoped peer
          realm := resp.bind (·.realm), length, timer := startTimer s }
      scheduleTickWith env tick (s.withPending (s.pendingPermissions ++ [msg]))
  | none => { s with transids := s.transids + 1 }

/-- The sizes of the attributes of a ChannelBind request. -/
def channelBindLengths (s : UdpTurnPriv) (resp : Option ReceivedMessage) (peer : NiceAddress) :
    List ℕ :=
  4 :: addressLength peer :: (if s.username.length > 0 then [s.username.length] else []) ++
    ((resp.bind (·.realm)).map List.length).toList ++
    ((resp.bind (·.nonce)).map List.length).toList

/-- A ChannelBind request: its length and the agent, if it is built. -/
def buildChannelBind (s : UdpTurnPriv) (id : StunTransactionId) (resp : Option ReceivedMessage)
    (peer : NiceAddress) : Option (ℕ × StunAgent) :=
  finishRequest s STUN_CHANNELBIND id (channelBindLengths s resp peer)
    (s.username.length > 0 ∧ (resp.bind (·.realm)).isSome)

/-- `priv_send_channel_bind`.  The number of the channel goes into the request
and nowhere else. -/
def privSendChannelBind (s : UdpTurnPriv) (resp : Option ReceivedMessage) (peer : NiceAddress) :
    UdpTurnPriv × Bool :=
  let id := env.transid s.transids
  match buildChannelBind s id resp peer with
  | some (length, agent) =>
      (privSendTurnMessage env { s with agent, transids := s.transids + 1 }
        { method := STUN_CHANNELBIND, id, peer := unscoped peer, realm := resp.bind (·.realm)
          length, timer := startTimer s }, true)
  | none => ({ s with transids := s.transids + 1 }, false)

/-! ### Bindings -/

/-- The search for a channel number.  A number that an entry has sends the loop
back to the head of the list, from which it goes on to the second entry.  `n`
bounds the number of times. -/
def freeChannelLoop (channels : List ChannelBinding) : ℕ → List ChannelBinding → UInt16 → UInt16
  | 0, _, channel => channel
  | n + 1, i, channel =>
      if i.any fun b => channel = b.channel then
        freeChannelLoop channels n channels.tail (channel + 1)
      else channel

/-- The channel number that `priv_add_channel_binding` finds. -/
def freeChannel (channels : List ChannelBinding) : UInt16 :=
  freeChannelLoop channels (channels.length + 1) channels 0x4000

/-- A binding that has just been made up. -/
def newChannelBinding (peer : NiceAddress) (channel : UInt16) : ChannelBinding :=
  { peer, channel, renew := false, timeoutSource := none }

/-- A Set Active Destination request: its length and the agent, if it is built. -/
def buildSetActiveDst (s : UdpTurnPriv) (id : StunTransactionId) (peer : NiceAddress) :
    Option (ℕ × StunAgent) :=
  let lengths := 4 :: if s.username.length > 0 then [s.username.length] else []
  (builtLength s.agent.toStunAgentConfig STUN_MAX_MESSAGE_SIZE lengths).bind fun mlen =>
    let (mlen, realm) := appendOc2007 s false mlen
    (appendLength s.agent.toStunAgentConfig STUN_MAX_MESSAGE_SIZE mlen (addressLength peer)).bind
      fun mlen => finishMessage s.agent .request STUN_OLD_SET_ACTIVE_DST id s.password mlen
        (s.username.length > 0 ∧ realm)

/-- `priv_add_channel_binding` in MSN and OC2007. -/
def addActiveDst (s : UdpTurnPriv) (peer : NiceAddress) : UdpTurnPriv × Bool :=
  let id := env.transid s.transids
  match buildSetActiveDst s id peer with
  | some (length, agent) =>
      (privSendTurnMessage env
        { s with
          agent, transids := s.transids + 1
          currentBinding := some (newChannelBinding peer 0) }
        { method := STUN_OLD_SET_ACTIVE_DST, id, peer := unscoped peer, realm := none
          length, timer := startTimer s }, true)
  | none => ({ s with transids := s.transids + 1 }, false)

/-- `priv_add_channel_binding` in DRAFT9 and RFC5766. -/
def addChannel (s : UdpTurnPriv) (peer : NiceAddress) : UdpTurnPriv × Bool :=
  let channel := freeChannel s.channels
  if 0x4000 ≤ channel ∧ channel < 0xffff then
    match privSendChannelBind env s none peer with
    | (s', true) =>
        ({ s' with
            currentBinding := some (newChannelBinding peer channel)
            trace := s'.trace ++ [.newBinding s.channels peer] }, true)
    | (s', false) => (s', false)
  else (s, false)

/-- `priv_add_channel_binding`. -/
def privAddChannelBinding (s : UdpTurnPriv) (peer : NiceAddress) : UdpTurnPriv × Bool :=
  if s.currentBinding.isSome then
    ({ s with pendingBindings := s.pendingBindings ++ [peer] }, false)
  else
    match s.compatibility with
    | .draft9 | .rfc5766 => addChannel env s peer
    | .msn | .oc2007 => addActiveDst env s peer
    | .google => ({ s with currentBinding := some (newChannelBinding peer 0) }, true)

/-- The loop of `priv_process_pending_bindings`, for at most `n` peers. -/
def processPendingLoop : ℕ → UdpTurnPriv → UdpTurnPriv
  | 0, s => s
  | n + 1, s =>
      match s.pendingBindings with
      | [] => s
      | peer :: _ =>
          let (s, ret) := privAddChannelBinding env s peer
          let s := { s with pendingBindings := s.pendingBindings.tail }
          if ret then s else processPendingLoop n s

/-- The renewal of the first binding that asks for it. -/
def renewBinding (s : UdpTurnPriv) : UdpTurnPriv :=
  match s.channels.find? (·.renew) with
  | some b => (privSendChannelBind env s none b.peer).1
  | none => s

/-- `priv_process_pending_bindings`, which is called with no binding being
requested. -/
def privProcessPendingBindings (s : UdpTurnPriv) : UdpTurnPriv :=
  let s := processPendingLoop env s.pendingBindings.length s
  if s.pendingBindings = [] ∧ s.currentBindingMsg.isNone then renewBinding env s else s

/-! ### Ticks -/

/-- The timeout of a binding request. -/
def bindingTimedOut (s : UdpTurnPriv) (msg : TURNMessage) : UdpTurnPriv :=
  privProcessPendingBindings env
    { s with
      agent := (stunAgentForgetTransaction s.agent msg.id).1
      currentBinding := none
      currentBindingMsg := none }

/-- `priv_retransmissions_tick_unlocked`, with at most `n` retransmissions. -/
def retransmissionsTick : ℕ → UdpTurnPriv → UdpTurnPriv × Bool
  | n, s =>
      match s.currentBindingMsg with
      | none => (s, false)
      | some msg =>
          match stunTimerRefresh s.clock msg.timer with
          | (_, .timeout) => (bindingTimedOut env s msg, false)
          | (timer, .retransmit) =>
              let s := { s with currentBindingMsg := some { msg with timer } }
              let s := (socketSendWrapped env s msg.length).1
              match n with
              | 0 => (s, true)
              | n + 1 => (scheduleTickWith env (fun s => (retransmissionsTick n s).1) s, true)
          | (_, .success) => (scheduleTickWith env id s, true)

/-- How often the binding request in flight can be retransmitted. -/
def retransmissionsLeft (s : UdpTurnPriv) : ℕ :=
  (s.currentBindingMsg.map (·.timer.left)).getD 0

/-- `priv_retransmissions_tick_unlocked`. -/
def privRetransmissionsTickUnlocked (s : UdpTurnPriv) : UdpTurnPriv × Bool :=
  retransmissionsTick env (retransmissionsLeft s) s

/-- `priv_schedule_tick`. -/
def privScheduleTick : UdpTurnPriv → UdpTurnPriv :=
  scheduleTickWith env fun s => (privRetransmissionsTickUnlocked env s).1

end LibNice.UdpTurn
