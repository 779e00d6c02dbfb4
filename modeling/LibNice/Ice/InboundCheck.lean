import LibNice.Ice.CheckPairs

/-!
`conn_check_handle_inbound_stun` (`agent/conncheck.c`) on a request: the check of a peer.

* `privScheduleTriggeredCheck`: the check that answers it.
* `privReplyToConnCheck`, `privStorePendingCheck`: the reply, and what is kept of a check that comes
  before the candidates of the peer.
* `privCheckForRoleConflict`: another role.
* `refusal`: the error responses that are sent before the request is looked into.
* `connCheckHandleInboundRequest`: the function.

What `stun_agent_validate` makes of the bytes of the request is taken as given (`Verdict`): it
changes nothing in the agent, whichever STUN agent has the last word.
-/

namespace LibNice.Ice

open LibNice.Foundation LibNice.Stun

/-! ### Triggered checks -/

/-- The pair that a check from `remoteCand` over `localSocket` is for. -/
def triggers (agent : NiceAgent) (cid : ComponentId) (localSocket : NiceSocket)
    (remoteCand : CandidateId) (p : PairId) : Bool :=
  let pair := agent.pair p
  let loc := agent.candidate pair.localCand
  pair.componentId = cid && pair.remoteCand = remoteCand &&
    if loc.transport = .tcpPassive then pair.sockptr = some localSocket
    else loc.sockptr = some localSocket

/-- What `priv_schedule_triggered_check` does with that pair. -/
def triggerPair (env : Env) (agent : NiceAgent) (sid : StreamId) (cid : ComponentId) (p : PairId) :
    NiceAgent :=
  match (agent.pair p).state with
  | .waiting | .frozen => privConnCheckInitiate env agent p
  | .inProgress =>
      -- the timer starts again
      if ¬(agent.pair p).sockptr.any (·.reliable) ∧ ¬(agent.pair p).timerRestarted then
        agent.setPair p { agent.pair p with timerRestarted := true }
      else agent
  | .succeeded | .discovered =>
      let agent := privUpdateCheckListStateForReady agent sid cid
      let compatibility := agent.compatibility
      -- note: to take care of the controlling-controlling case in aggressive nomination mode
      if (compatibility = .rfc5245 ∨ compatibility = .wlm2009 ∨ compatibility = .oc2007r2) ∧
          agent.controllingMode then
        privConnCheckInitiate env agent p
      else agent
  | .failed => privConnCheckInitiate env agent p
  | .cancelled => agent

/-- `priv_schedule_triggered_check`. -/
def privScheduleTriggeredCheck (env : Env) (agent : NiceAgent) (sid : StreamId)
    (cid : ComponentId) (localSocket : NiceSocket) (remoteCand : CandidateId)
    (useCandidate : Bool) : NiceAgent × Bool :=
  match (agent.stream sid).conncheckList.find? (triggers agent cid localSocket remoteCand) with
  | some p => (triggerPair env agent sid cid p, true)
  | none =>
      match ((agent.stream sid).component cid).localCandidates.find? fun l =>
          (agent.candidate l).sockptr = some localSocket with
      | some l => (privAddNewCheckPair agent sid cid l remoteCand .waiting useCandidate, true)
      | none => (agent, false)

/-! ### Replies -/

/-- `priv_reply_to_conn_check`, for a candidate with the address of the request.  A reply that had
no room is a packet of no bytes, which is left out. -/
def privReplyToConnCheck (env : Env) (agent : NiceAgent) (sid : StreamId) (cid : ComponentId)
    (rcand : Option CandidateId) (toaddr : NiceAddress) (sockptr : NiceSocket)
    (msg : Option IceMessage) (useCandidate : Bool) : NiceAgent :=
  let agent :=
    match msg with
    | some msg => agent.emit (.send (some sockptr) toaddr msg)
    | none => agent
  match rcand with
  | some rcand =>
      let (agent, _) :=
        privScheduleTriggeredCheck env agent sid cid sockptr rcand useCandidate
      if useCandidate then privMarkPairNominated env agent sid cid rcand else agent
  | none => agent

/-- `priv_store_pending_check`: the component, and whether there was no room. -/
def privStorePendingCheck (component : Component) (src : NiceAddress) (sockptr : NiceSocket)
    (username : Option Bytes) (priority : UInt32) (useCandidate : Bool) : Component × Bool :=
  if component.incomingChecks ≠ [] ∧
      component.incomingChecks.length ≥ NICE_AGENT_MAX_REMOTE_CANDIDATES then
    (component, true)
  else
    let icheck : IncomingCheck :=
      { fromAddr := src, localSocket := sockptr, priority, useCandidate
        username := username.filter (· ≠ []) }
    ({ component with incomingChecks := component.incomingChecks ++ [icheck] }, false)

/-! ### Roles -/

/-- `priv_recalculate_pair_priorities`. -/
def privRecalculatePairPriorities (agent : NiceAgent) : NiceAgent :=
  (agent.streams.flatMap fun sid => (agent.stream sid).conncheckList).foldl (fun agent p =>
    let pair := agent.pair p
    agent.setPair p { pair with
      priority := agentCandidatePairPriority agent (agent.candidate pair.localCand)
        (agent.candidate pair.remoteCand) }) agent

/-- `priv_check_for_role_conflict`. -/
def privCheckForRoleConflict (agent : NiceAgent) (control : Bool) : NiceAgent :=
  let agent := agent.emit (.roleConflict control)
  if control ≠ agent.controllingMode then
    privRecalculatePairPriorities { agent with controllingMode := control }
  else agent

/-! ### The request -/

/-- `agent_signal_initial_binding_request_received`. -/
def agentSignalInitialBindingRequestReceived (agent : NiceAgent) (sid : StreamId) : NiceAgent :=
  if (agent.stream sid).initialBindingRequestReceived then agent
  else
    { agent with
      stream := Function.update agent.stream sid
        { agent.stream sid with initialBindingRequestReceived := true } }.emit
      (.initialBindingRequestReceived sid)

/-- What is known of a request when it has been validated: the status, whether the STUN agent of a
discovery or of a TURN refresh gave it, and how many unknown attributes are reported. -/
structure Verdict where
  valid : StunValidationStatus
  discoveryMsg : Bool
  unknowns : ℕ

/-- An error response of the given code, with attributes of the given sizes behind the text. -/
def errorResponse (stun : StunAgentConfig) (req : IceMessage) (code : ℕ) (lengths : List ℕ) :
    Option IceMessage :=
  if (builtLength stun MAX_STUN_DATAGRAM_PAYLOAD
      ((4 + stunStrerrorLength code) :: lengths)).isSome then some (errorReply req code)
  else none

/-- The error response to a request that is not valid: an agent of the MSN kind sends none. -/
def refusal (agent : NiceAgent) (stun : StunAgentConfig) (req : IceMessage) (verdict : Verdict) :
    Option IceMessage :=
  if agent.compatibility = .msn ∨ agent.compatibility = .oc2007 then none
  else
    match verdict.valid with
    | .unknownRequestAttribute =>
        errorResponse stun req 420 (2 * verdict.unknowns :: finishLengths stun req.integrity)
    -- the key of the request is not known
    | .unauthorized => errorResponse stun { req with integrity := false } 401
        (finishLengths stun false)
    | .unauthorizedBadRequest => errorResponse stun { req with integrity := false } 400
        (finishLengths stun false)
    | _ => none

/-- The candidates whose username a check has, which is how the Google and the MSN kinds find
them. -/
def usernameCandidates (env : Env) (agent : NiceAgent) (sid : StreamId) (cid : ComponentId)
    (username : Option Bytes) : Option (CandidateId × CandidateId) :=
  let component := (agent.stream sid).component cid
  let pairs := component.remoteCandidates.flatMap fun r =>
    component.localCandidates.map fun l => (r, l)
  pairs.find? fun (r, l) => username = some (privCreateUsername env agent (some (agent.stream sid))
    cid (some (agent.candidate r)) (some (agent.candidate l)) NICE_STREAM_MAX_UNAME true)

/-- The MSN kind has its own username written over that of the request. -/
def overwriteUsername (env : Env) (agent : NiceAgent) (sid : StreamId) (cid : ComponentId)
    (remoteCand localCand : CandidateId) (req : IceMessage) : IceMessage :=
  let uname := privCreateUsername env agent (some (agent.stream sid)) cid
    (some (agent.candidate remoteCand)) (some (agent.candidate localCand)) NICE_STREAM_MAX_UNAME
    false
  { req with
    username := req.username.map fun username =>
      uname.take username.length ++ username.drop uname.length }

/-- The candidates that a request is from and to. -/
structure RequestCandidates where
  remoteCandidate : Option CandidateId
  remoteCandidate2 : Option CandidateId
  localCandidate : Option CandidateId

/-- The remote candidate of a request.  One that is not known is learned, where the candidates of
the peer have come. -/
def requestCandidate (env : Env) (agent : NiceAgent) (sid : StreamId) (cid : ComponentId)
    (nicesock : NiceSocket) (src : NiceAddress) (priority : UInt32) (cands : RequestCandidates) :
    NiceAgent × Option CandidateId :=
  if ((agent.stream sid).component cid).remoteCandidates ≠ [] ∧ cands.remoteCandidate = none then
    let (agent, rcand) := discoveryLearnRemotePeerReflexiveCandidate env agent sid cid priority
      src nicesock cands.localCandidate cands.remoteCandidate2
    match cands.localCandidate.filter fun l => (agent.candidate l).transport = .tcpPassive with
    | some l =>
        (privConnCheckAddForCandidatePairMatched agent sid cid l rcand .discovered, some rcand)
    | none => ((connCheckAddForCandidate agent sid cid rcand).1, some rcand)
  else (agent, cands.remoteCandidate)

/-- The part of `conn_check_handle_inbound_stun` that comes after the reply has been built. -/
def acceptRequest (env : Env) (agent : NiceAgent) (sid : StreamId) (cid : ComponentId)
    (nicesock : NiceSocket) (src : NiceAddress) (req : IceMessage) (cands : RequestCandidates)
    (reply : Option IceMessage) : NiceAgent :=
  let useCandidate := stunUsageIceConncheckUseCandidate req || agent.controllingMode ||
    agent.compatibility = .google || agent.compatibility = .msn || agent.compatibility = .oc2007
  let priority := stunUsageIceConncheckPriority req
  let agent := agentSignalInitialBindingRequestReceived agent sid
  let (agent, rcand) := requestCandidate env agent sid cid nicesock src priority cands
  let agent := privReplyToConnCheck env agent sid cid rcand src nicesock reply useCandidate
  let component := (agent.stream sid).component cid
  if component.remoteCandidates = [] then
    agent.setComponent sid cid
      (privStorePendingCheck component src nicesock req.username priority useCandidate).1
  else agent

/-- `conn_check_handle_inbound_stun` on a request from `src` over `nicesock`: the agent, and what is
returned. -/
def connCheckHandleInboundRequest (env : Env) (agent : NiceAgent) (sid : StreamId)
    (cid : ComponentId) (nicesock : NiceSocket) (src : NiceAddress) (req : IceMessage)
    (verdict : Verdict) : NiceAgent × Bool :=
  let component := (agent.stream sid).component cid
  let stun := component.stunAgent.toStunAgentConfig
  let valid := verdict.valid
  let compatibility := agent.compatibility
  if valid = .notStun ∨ valid = .incompleteStun ∨ valid = .badRequest then (agent, false)
  else if valid = .unknownRequestAttribute ∨ valid = .unauthorized ∨
      valid = .unauthorizedBadRequest then
    match refusal agent stun req verdict with
    | some reply => (agent.emit (.send (some nicesock) src reply), true)
    | none => (agent, true)
  else
    let matched :=
      if compatibility = .google ∨ compatibility = .msn ∨ compatibility = .oc2007 then
        usernameCandidates env agent sid cid req.username
      else none
    let cands : RequestCandidates :=
      { remoteCandidate := component.remoteCandidates.find? fun c => (agent.candidate c).addr = src
        remoteCandidate2 := matched.map Prod.fst
        localCandidate := (matched.map Prod.snd).or
          (component.localCandidates.find? fun c => (agent.candidate c).addr = nicesock.addr) }
    if component.remoteCandidates ≠ [] ∧ compatibility = .google ∧ cands.localCandidate = none ∧
        verdict.discoveryMsg = false then (agent, true)
    else if valid ≠ .success then (agent, false)
    else if (compatibility = .msn ∨ compatibility = .oc2007) ∧ matched = none then (agent, true)
    else
      let req :=
        match matched with
        | some (r, l) =>
            if compatibility = .msn then overwriteUsername env agent sid cid r l req else req
        | none => req
      let (res, reply, control) := stunUsageIceConncheckCreateReply stun
        MAX_STUN_DATAGRAM_PAYLOAD req src agent.controllingMode agent.tieBreaker
      let agent := if res = .roleConflict then privCheckForRoleConflict agent control else agent
      if res = .success ∨ res = .roleConflict then
        (acceptRequest env agent sid cid nicesock src req cands reply, true)
      else (agent, false)

end LibNice.Ice
