import LibNice.Ice.Selection
import Mathlib.Data.List.Sort

/-!
The pairs of a check list, as `agent/conncheck.c` and `agent/discovery.c` form them from local and
remote candidates.

* `privAddNewCheckPair`, `privLimitConnCheckListSize`: a new pair in the sorted list, which then is
  cut.
* `connCheckAddForCandidatePair`, `connCheckAddForCandidate`: the pairs of a remote candidate.
* `privAssignRemoteFoundation`, `discoveryLearnRemotePeerReflexiveCandidate`: a remote candidate
  that is learned from a check.
-/

namespace LibNice.Ice

open LibNice.Foundation LibNice.Stun

/-! ### New pairs -/

/-- A store of the check list of a stream. -/
def NiceAgent.setCheckList (agent : NiceAgent) (sid : StreamId) (list : List PairId) : NiceAgent :=
  { agent with
    stream := Function.update agent.stream sid { agent.stream sid with conncheckList := list } }

/-- `g_slist_insert_sorted` with `conn_check_compare`: the pair comes before the first one whose
priority is no higher. -/
def insertPair (agent : NiceAgent) (list : List PairId) (p : PairId) : List PairId :=
  list.orderedInsert (fun a b => (agent.pair b).priority ≤ (agent.pair a).priority) p

/-- A round of `priv_limit_conn_check_list_size`, with `valid`. -/
def limitPair (upperLimit : ℕ) (acc : NiceAgent × ℕ) (p : PairId) : NiceAgent × ℕ :=
  if (acc.1.pair p).state ≠ .cancelled then
    (if acc.2 + 1 > upperLimit then acc.1.setPairState p .cancelled else acc.1, acc.2 + 1)
  else acc

/-- `priv_limit_conn_check_list_size`. -/
def privLimitConnCheckListSize (agent : NiceAgent) (list : List PairId) (upperLimit : ℕ) :
    NiceAgent :=
  (list.foldl (limitPair upperLimit) (agent, 0)).1

/-- The pair that `priv_add_new_check_pair` makes. -/
def newCheckPair (agent : NiceAgent) (sid : StreamId) (cid : ComponentId)
    (localCand remoteCand : CandidateId) (initialState : NiceCheckState) (useCandidate : Bool) :
    CandidateCheckPair :=
  let loc := agent.candidate localCand
  let remote := agent.candidate remoteCand
  { streamId := sid
    componentId := cid
    localCand
    remoteCand
    sockptr := if remote.type = .peerReflexive then remote.sockptr else loc.sockptr
    foundation := (loc.foundation ++ [colon] ++ remote.foundation).take
      (NICE_CANDIDATE_PAIR_MAX_FOUNDATION - 1)
    state := initialState
    nominated := useCandidate
    controlling := agent.controllingMode
    timerRestarted := false
    priority := agentCandidatePairPriority agent loc remote
    stunMessage := none }

/-- `priv_add_new_check_pair`. -/
def privAddNewCheckPair (agent : NiceAgent) (sid : StreamId) (cid : ComponentId)
    (localCand remoteCand : CandidateId) (initialState : NiceCheckState) (useCandidate : Bool) :
    NiceAgent :=
  let p := agent.nextPair
  let pair := newCheckPair agent sid cid localCand remoteCand initialState useCandidate
  let agent : NiceAgent := { agent.setPair p pair with nextPair := p + 1 }
  let agent := agent.setCheckList sid (insertPair agent (agent.stream sid).conncheckList p)
  if agent.compatibility = .rfc5245 then
    privLimitConnCheckListSize agent (agent.stream sid).conncheckList agent.maxConnChecks
  else agent

/-- `conn_check_match_transport`. -/
def connCheckMatchTransport : NiceCandidateTransport → NiceCandidateTransport
  | .tcpActive => .tcpPassive
  | .tcpPassive => .tcpActive
  | .tcpSo => .tcpSo
  | .udp => .udp

/-- `priv_conn_check_add_for_candidate_pair_matched`. -/
def privConnCheckAddForCandidatePairMatched (agent : NiceAgent) (sid : StreamId)
    (cid : ComponentId) (localCand remoteCand : CandidateId) (initialState : NiceCheckState) :
    NiceAgent :=
  let agent := privAddNewCheckPair agent sid cid localCand remoteCand initialState false
  let state := ((agent.stream sid).component cid).state
  agentSignalComponentStateChange agent sid cid
    (if state = .connected ∨ state = .ready then .connected else .connecting)

/-- `conn_check_add_for_candidate_pair`. -/
def connCheckAddForCandidatePair (agent : NiceAgent) (sid : StreamId) (cid : ComponentId)
    (localCand remoteCand : CandidateId) : NiceAgent × Bool :=
  let loc := agent.candidate localCand
  let remote := agent.candidate remoteCand
  let compatibility := agent.compatibility
  -- note: do not create pairs where the local candidate is a srv-reflexive
  if (compatibility = .rfc5245 ∨ compatibility = .wlm2009 ∨ compatibility = .oc2007r2) ∧
      loc.type = .serverReflexive then (agent, false)
  else if loc.transport = .tcpPassive then (agent, false)
  else if loc.transport = connCheckMatchTransport remote.transport ∧
      loc.addr.ip6 = remote.addr.ip6 then
    (privConnCheckAddForCandidatePairMatched agent sid cid localCand remoteCand .frozen, true)
  else (agent, false)

/-- `conn_check_add_for_candidate`: the agent, and how many pairs were added. -/
def connCheckAddForCandidate (agent : NiceAgent) (sid : StreamId) (cid : ComponentId)
    (remoteCand : CandidateId) : NiceAgent × ℕ :=
  ((agent.stream sid).component cid).localCandidates.foldl (fun acc localCand =>
    let (agent, ret) := connCheckAddForCandidatePair acc.1 sid cid localCand remoteCand
    (agent, if ret then acc.2 + 1 else acc.2)) (agent, 0)

/-! ### Learned candidates -/

/-- The foundation `remote-n`. -/
def remoteFoundation (n : ℕ) : Bytes := ascii ("remote-" ++ toString n)

/-- `priv_highest_remote_foundation`: the first number from 1 that no remote candidate of the
component has.  One more number than candidates is enough to find it. -/
def privHighestRemoteFoundation (agent : NiceAgent) (component : Component) : ℕ :=
  let taken n := component.remoteCandidates.any fun c =>
    (agent.candidate c).foundation = remoteFoundation n
  ((List.range' 1 (component.remoteCandidates.length + 1)).find? fun n => !taken n).getD 1

/-- The remote candidates of all components, in the order of the streams. -/
def allRemoteCandidates (agent : NiceAgent) : List CandidateId :=
  agent.streams.flatMap fun sid => (agent.stream sid).components.flatMap fun cid =>
    ((agent.stream sid).component cid).remoteCandidates

/-- `priv_assign_remote_foundation`.  The component whose numbers are looked at is the last one of
the agent with the id of the candidate, whatever its stream. -/
def privAssignRemoteFoundation (agent : NiceAgent) (candidate : NiceCandidate) : NiceCandidate :=
  match (allRemoteCandidates agent).find? fun n =>
      candidate.type = (agent.candidate n).type &&
        candidate.transport = (agent.candidate n).transport &&
        candidate.streamId = (agent.candidate n).streamId &&
        candidate.addr.equalNoPort (agent.candidate n).addr with
  | some n =>
      { candidate with
        foundation := (agent.candidate n).foundation
        username := (agent.candidate n).username.or candidate.username
        password := (agent.candidate n).password.or candidate.password }
  | none =>
      match (agent.streams.filter fun sid =>
          candidate.componentId ∈ (agent.stream sid).components).getLast? with
      | some sid =>
          { candidate with
            foundation := remoteFoundation (privHighestRemoteFoundation agent
              ((agent.stream sid).component candidate.componentId)) }
      | none => candidate

/-- The transport of a candidate that is learned from a check. -/
def learnedTransport (agent : NiceAgent) (nicesock : NiceSocket)
    (localCand remoteCand : Option CandidateId) : NiceCandidateTransport :=
  match remoteCand, localCand with
  | some r, _ => (agent.candidate r).transport
  | none, some l => connCheckMatchTransport (agent.candidate l).transport
  | none, none =>
      if nicesock.type = .udpBsd ∨ nicesock.type = .udpTurn then .udp else .tcpActive

/-- Its credentials: those of the remote candidate, if there is one. -/
def learnedCredentials (env : Env) (agent : NiceAgent) (candidate : NiceCandidate)
    (localCand remoteCand : Option CandidateId) : Option Bytes × Option Bytes :=
  match remoteCand with
  | none => (candidate.username, candidate.password)
  | some r =>
      let remote := agent.candidate r
      match localCand with
      | some l =>
          if agent.compatibility = .msn ∨ agent.compatibility = .oc2007 then
            (some (env.base64Encode ((remote.username.map env.base64Decode).getD [] ++
              (((agent.candidate l).username.map env.base64Decode).getD []))), remote.password)
          else (remote.username, remote.password)
      | none => (remote.username, remote.password)

/-- The candidate that is learned from a check with the given priority. -/
def learnedCandidate (env : Env) (agent : NiceAgent) (sid : StreamId) (cid : ComponentId)
    (priority : UInt32) (remoteAddress : NiceAddress) (nicesock : NiceSocket)
    (localCand remoteCand : Option CandidateId) : NiceCandidate :=
  let candidate : NiceCandidate :=
    { type := .peerReflexive
      transport := learnedTransport agent nicesock localCand remoteCand
      addr := remoteAddress
      baseAddr := remoteAddress
      priority := 0
      streamId := sid
      componentId := cid
      foundation := []
      username := none
      password := none
      turnServer := none
      sockptr := some nicesock }
  -- if the check didn't contain the PRIORITY attribute, then the priority is 0
  let candidate := { candidate with
    priority :=
      if priority ≠ 0 then priority
      else candidatePriority agent.compatibility agent.reliable candidate false }
  let candidate := privAssignRemoteFoundation agent candidate
  let (username, password) := learnedCredentials env agent candidate localCand remoteCand
  { candidate with username, password }

/-- `discovery_learn_remote_peer_reflexive_candidate`. -/
def discoveryLearnRemotePeerReflexiveCandidate (env : Env) (agent : NiceAgent) (sid : StreamId)
    (cid : ComponentId) (priority : UInt32) (remoteAddress : NiceAddress) (nicesock : NiceSocket)
    (localCand remoteCand : Option CandidateId) : NiceAgent × CandidateId :=
  let c := agent.nextCandidate
  let candidate :=
    learnedCandidate env agent sid cid priority remoteAddress nicesock localCand remoteCand
  let agent : NiceAgent := { agent with
    candidate := Function.update agent.candidate c candidate, nextCandidate := c + 1 }
  let component := (agent.stream sid).component cid
  let agent := agent.setComponent sid cid
    { component with remoteCandidates := component.remoteCandidates ++ [c] }
  (agent.emit (.newRemoteCandidate c), c)

end LibNice.Ice
