import LibNice.Ice.InboundCheck
import LibNice.Ice.LocalFoundations
import LibNice.Ice.Unfreezing

/-!
The response to a check (`agent/conncheck.c`).

* `privAddPeerReflexivePair`: the valid pair of a candidate that a response shows.
* `matchingLocal`, `pairOf`, `privProcessResponseCheckForPeerReflexive`: what becomes of the pair
  whose check succeeded, and the pair that is valid with it.
* `privAnswered`, `privMapReplyToConnCheckRequest`: the response as a whole.
* `pruneCancelledConnCheck`: the pairs that are freed after it.
-/

namespace LibNice.Ice

open LibNice.Foundation LibNice.Stun

/-! ### Peer reflexive candidates -/

/-- `prune_cancelled_conn_check`, on the check list of a stream. -/
def pruneCancelledConnCheck (agent : NiceAgent) (sid : StreamId) : NiceAgent :=
  agent.setCheckList sid
    ((agent.stream sid).conncheckList.filter fun p => (agent.pair p).state ≠ .cancelled)

/-- The pair that `priv_add_peer_reflexive_pair` makes. -/
def peerReflexivePair (agent : NiceAgent) (sid : StreamId) (cid : ComponentId)
    (localCand : CandidateId) (parentPair : PairId) : CandidateCheckPair :=
  let remoteCand := (agent.pair parentPair).remoteCand
  let loc := agent.candidate localCand
  let remote := agent.candidate remoteCand
  { streamId := sid
    componentId := cid
    localCand
    remoteCand
    sockptr := loc.sockptr
    foundation := (loc.foundation ++ [colon] ++ remote.foundation).take
      (NICE_CANDIDATE_PAIR_MAX_FOUNDATION - 1)
    state := .discovered
    nominated := false
    controlling := agent.controllingMode
    timerRestarted := false
    priority := agentCandidatePairPriority agent loc remote
    stunMessage := none }

/-- `priv_add_peer_reflexive_pair`. -/
def privAddPeerReflexivePair (agent : NiceAgent) (sid : StreamId) (cid : ComponentId)
    (localCand : CandidateId) (parentPair : PairId) : NiceAgent × PairId :=
  let p := agent.nextPair
  let pair := peerReflexivePair agent sid cid localCand parentPair
  let agent : NiceAgent := { agent.setPair p pair with nextPair := p + 1 }
  (agent.setCheckList sid (insertPair agent (agent.stream sid).conncheckList p), p)

/-- The local candidate that has the mapped address of a response. -/
def matchingLocal (agent : NiceAgent) (sid : StreamId) (cid : ComponentId) (mapped : NiceAddress) :
    Option CandidateId :=
  ((agent.stream sid).component cid).localCandidates.find? fun c =>
    (agent.candidate c).addr = mapped

/-- The first pair of two candidates. -/
def pairOf (agent : NiceAgent) (sid : StreamId) (cand : CandidateId)
    (remoteCandidate : Option CandidateId) : Option PairId :=
  (agent.stream sid).conncheckList.find? fun q =>
    (agent.pair q).localCand = cand && remoteCandidate = some (agent.pair q).remoteCand

/-- `priv_process_response_check_for_peer_reflexive`.  A candidate that could not be added would be
a `NULL` that is read. -/
def privProcessResponseCheckForPeerReflexive (env : Env) (agent : NiceAgent) (sid : StreamId)
    (cid : ComponentId) (p : PairId) (sockptr : NiceSocket) (mapped : NiceAddress)
    (localCandidate remoteCandidate : Option CandidateId) :
    Except Fault (NiceAgent × Option PairId) :=
  match matchingLocal agent sid cid mapped with
  | some cand =>
      let newPair := pairOf agent sid cand remoteCandidate
      return (← privConnCheckUnfreezeRelated (agent.setPairState p .succeeded) sid p, newPair)
  | none =>
      let (agent, cand) := discoveryAddPeerReflexiveCandidate env agent sid cid mapped sockptr
        localCandidate remoteCandidate
      match cand with
      | some cand =>
          let (agent, newPair) :=
            privAddPeerReflexivePair (agent.setPairState p .failed) sid cid cand p
          return (agent, some newPair)
      | none => throw .outOfBounds

/-! ### The response -/

/-- A pair without its request. -/
def withoutRequest (agent : NiceAgent) (p : PairId) : NiceAgent :=
  agent.setPair p { agent.pair p with stunMessage := none }

/-- The selected pair and the state of the component after the check of the pair `p` has been
answered, where `okPair` is the pair that is valid. -/
def selectAnswered (env : Env) (agent : NiceAgent) (sid : StreamId) (cid : ComponentId)
    (okPair : PairId) : NiceAgent :=
  if (agent.pair okPair).nominated then
    let agent := privUpdateSelectedPair env agent sid cid okPair
    -- do not step down to CONNECTED if we're already at state READY
    if ((agent.stream sid).component cid).state ≠ .ready then
      agentSignalComponentStateChange agent sid cid .connected
    else agent
  else agent

/-- The part of `priv_map_reply_to_conn_check_request` on a response from the address that the check
was sent to, up to the update of the state of the component. -/
def privAnswered (env : Env) (agent : NiceAgent) (sid : StreamId) (cid : ComponentId) (p : PairId)
    (sockptr : NiceSocket) (localCandidate remoteCandidate : Option CandidateId)
    (mapped : Option NiceAddress) : Except Fault NiceAgent := do
  let agent := withoutRequest agent p
  let (agent, okPair) ← match mapped with
    | none =>
        pure (← privConnCheckUnfreezeRelated (agent.setPairState p .succeeded) sid p, none)
    | some mapped =>
        privProcessResponseCheckForPeerReflexive env agent sid cid p sockptr mapped localCandidate
          remoteCandidate
  return selectAnswered env agent sid cid (okPair.getD p)

/-- `priv_map_reply_to_conn_check_request`: the agent, and whether there was a check for the
response. -/
def privMapReplyToConnCheckRequest (env : Env) (agent : NiceAgent) (sid : StreamId)
    (cid : ComponentId) (sockptr : NiceSocket) (src : NiceAddress)
    (localCandidate remoteCandidate : Option CandidateId) (resp : IceMessage) :
    Except Fault (NiceAgent × Bool) :=
  match (agent.stream sid).conncheckList.find? fun p =>
      (agent.pair p).stunMessage.any fun msg => msg.id = resp.id with
  | none => return (pruneCancelledConnCheck agent sid, false)
  | some p => do
      let agent ← match stunUsageIceConncheckProcess resp with
        | .success | .noMappedAddress =>
            if src ≠ (agent.candidate (agent.pair p).remoteCand).addr then
              pure ((withoutRequest agent p).setPairState p .failed)
            else do
              let agent ← privAnswered env agent sid cid p sockptr localCandidate remoteCandidate
                resp.mappedAddress
              pure (privUpdateCheckListStateForReady agent sid cid)
        | .roleConflict =>
            -- our role might already have changed due to an incoming request
            let agent := privCheckForRoleConflict agent !(agent.pair p).controlling
            pure ((withoutRequest agent p).setPairState p .waiting)
        | _ => pure (withoutRequest agent p)
      return (pruneCancelledConnCheck agent sid, true)

end LibNice.Ice
