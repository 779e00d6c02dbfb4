import LibNice.Foundation.Run
import LibNice.Ice.Moves

/-!
What an agent does between two packets, and what a packet makes it do.

* `AgentCall`: the functions that an agent calls by itself, each a row of moves.
* `AgentEvent`: one of them, a request or a response; `agentNext` is the agent after it.
* `privCheckForRoleConflict_eq`: what another role changes.
* `inboundRequest_answered`, `mapReply_moves`: **a packet is a row of moves, with another role before
  them** where the role of the agent is in conflict with that of its peer.
-/

namespace LibNice.Ice

open LibNice.Foundation LibNice.Stun

/-! ### Calls -/

/-- A function that an agent calls by itself: for the results of gathering, for what the
application signals, for the stored checks of a peer, or by a timer. -/
inductive AgentCall where
  | addLocalCandidate (sid : StreamId) (cid : ComponentId) (candidate : NiceCandidate)
      (finish : NiceCandidate → Option NiceCandidate)
  | addRemoteCandidate (sid : StreamId) (cid : ComponentId) (type : NiceCandidateType)
      (addr baseAddr : NiceAddress) (transport : NiceCandidateTransport) (priority : UInt32)
      (username password : Option Bytes) (foundation : Bytes)
  | addForCandidatePair (sid : StreamId) (cid : ComponentId) (localCand remoteCand : CandidateId)
  | addForCandidate (sid : StreamId) (cid : ComponentId) (remoteCand : CandidateId)
  | learnRemote (sid : StreamId) (cid : ComponentId) (priority : UInt32)
      (remoteAddress : NiceAddress) (nicesock : NiceSocket)
      (localCand remoteCand : Option CandidateId)
  | scheduleTriggeredCheck (sid : StreamId) (cid : ComponentId) (localSocket : NiceSocket)
      (remoteCand : CandidateId) (useCandidate : Bool)
  | markPairNominated (sid : StreamId) (cid : ComponentId) (remoteCand : CandidateId)
  | pruneSocket (sid : StreamId) (cid : ComponentId) (sock : Option NiceSocket)
  | pruneStream (sid : StreamId)
  | tick (clock : PairClock)
  | keepaliveTick

/-- `conn_check_prune_stream`, which calls `conn_check_stop` when no list is left. -/
def connCheckPruneStream (agent : NiceAgent) (sid : StreamId) : NiceAgent :=
  let agent := agent.setCheckList sid []
  if agent.streams.any fun s => (agent.stream s).conncheckList ≠ [] then agent
  else { agent with conncheckTimer := false }

/-- The agent after a call. -/
def AgentCall.run (env : Env) (agent : NiceAgent) : AgentCall → NiceAgent
  | .addLocalCandidate sid cid candidate finish =>
      (LibNice.Ice.addLocalCandidate agent sid cid candidate finish).1
  | .addRemoteCandidate sid cid type addr baseAddr transport priority username password
      foundation =>
      (privAddRemoteCandidate agent sid cid type addr baseAddr transport priority username password
        foundation).1
  | .addForCandidatePair sid cid l r => (connCheckAddForCandidatePair agent sid cid l r).1
  | .addForCandidate sid cid r => (connCheckAddForCandidate agent sid cid r).1
  | .learnRemote sid cid priority remoteAddress nicesock l r =>
      (discoveryLearnRemotePeerReflexiveCandidate env agent sid cid priority remoteAddress nicesock
        l r).1
  | .scheduleTriggeredCheck sid cid localSocket r useCandidate =>
      (privScheduleTriggeredCheck env agent sid cid localSocket r useCandidate).1
  | .markPairNominated sid cid r => privMarkPairNominated env agent sid cid r
  | .pruneSocket sid cid sock => connCheckPruneSocket agent sid cid sock
  | .pruneStream sid => connCheckPruneStream agent sid
  | .tick clock => (privConnCheckTick env clock agent).1
  | .keepaliveTick => (privConnKeepaliveTick env agent).1

/-- What happens to an agent: a call, a request that it has validated, or a response. -/
inductive AgentEvent where
  | call (call : AgentCall)
  | request (sid : StreamId) (cid : ComponentId) (nicesock : NiceSocket) (src : NiceAddress)
      (req : IceMessage) (verdict : Verdict)
  | response (sid : StreamId) (cid : ComponentId) (sockptr : NiceSocket) (src : NiceAddress)
      (localCandidate remoteCandidate : Option CandidateId) (resp : IceMessage)

/-- The agent after an event.  A response that would have a `NULL` read is not taken. -/
def agentNext (env : Env) (agent : NiceAgent) : AgentEvent → NiceAgent
  | .call call => call.run env agent
  | .request sid cid nicesock src req verdict =>
      (connCheckHandleInboundRequest env agent sid cid nicesock src req verdict).1
  | .response sid cid sockptr src localCandidate remoteCandidate resp =>
      match privMapReplyToConnCheckRequest env agent sid cid sockptr src localCandidate
        remoteCandidate resp with
      | .ok (agent, _) => agent
      | .error _ => agent

lemma connCheckPruneStream_moves {env : Env} {replies : IceMessage → Prop} {a : NiceAgent}
    {sid : StreamId} : Moves env replies a (connCheckPruneStream a sid) := by
  have hfilter : Moves env replies a (a.setCheckList sid []) := by
    have hmove : Move env replies a _ := .filter sid fun _ => false
    rw [List.filter_false] at hmove
    exact .single hmove
  rw [connCheckPruneStream]
  split
  · exact hfilter
  · exact hfilter.tail (.elsewhere ⟨rfl, rfl, rfl, rfl, rfl, fun _ => rfl, fun _ _ => rfl, le_rfl,
      le_rfl, rfl⟩)

/-- **A call is a row of moves.** -/
lemma AgentCall.moves {env : Env} {replies : IceMessage → Prop} (agent : NiceAgent)
    (call : AgentCall) : Moves env replies agent (call.run env agent) := by
  cases call with
  | addLocalCandidate sid cid candidate finish => exact addLocalCandidate_moves candidate finish
  | addRemoteCandidate sid cid type addr baseAddr transport priority username password foundation =>
      exact privAddRemoteCandidate_moves _ _ _ _ _ _ _ _
  | addForCandidatePair sid cid l r => exact connCheckAddForCandidatePair_moves l r
  | addForCandidate sid cid r => exact connCheckAddForCandidate_moves r
  | learnRemote sid cid priority remoteAddress nicesock l r =>
      exact discoveryLearnRemotePeerReflexiveCandidate_moves _ _ _ _ _
  | scheduleTriggeredCheck sid cid localSocket r useCandidate =>
      exact privScheduleTriggeredCheck_moves _ _ _
  | markPairNominated sid cid r => exact privMarkPairNominated_moves r
  | pruneSocket sid cid sock => exact connCheckPruneSocket_moves sock
  | pruneStream sid => exact connCheckPruneStream_moves
  | tick clock => exact privConnCheckTick_moves clock
  | keepaliveTick => exact privConnKeepaliveTick_moves

/-! ### Roles -/

section Roles

variable {env : Env} {a b : NiceAgent} {sid : StreamId} {cid : ComponentId} {p : PairId}

/-- `priv_recalculate_pair_priorities` writes into the priorities of the listed pairs only. -/
lemma privRecalculatePairPriorities_eq (a : NiceAgent) :
    privRecalculatePairPriorities a = { a with
      pair := fun p =>
        if p ∈ a.streams.flatMap fun sid => (a.stream sid).conncheckList then
          { a.pair p with
            priority := agentCandidatePairPriority a (a.candidate (a.pair p).localCand)
              (a.candidate (a.pair p).remoteCand) }
        else a.pair p } := by
  have hloop (list : List PairId) : ∀ x : NiceAgent,
      list.foldl (fun agent p =>
        let pair := agent.pair p
        agent.setPair p { pair with
          priority := agentCandidatePairPriority agent (agent.candidate pair.localCand)
            (agent.candidate pair.remoteCand) }) x =
      { x with
        pair := fun p =>
          if p ∈ list then
            { x.pair p with
              priority := agentCandidatePairPriority x (x.candidate (x.pair p).localCand)
                (x.candidate (x.pair p).remoteCand) }
          else x.pair p } := by
    induction list with
    | nil => exact fun x => by simp
    | cons q list ih =>
        intro x
        rw [List.foldl_cons, ih]
        refine congrArg (fun f => { x with pair := f }) (funext fun p => ?_)
        have hprio (loc remote : NiceCandidate) (pair : CandidateCheckPair) :
            agentCandidatePairPriority (x.setPair q pair) loc remote =
              agentCandidatePairPriority x loc remote := rfl
        by_cases hpq : p = q
        · subst hpq
          simp only [setPair_pair_self, hprio, List.mem_cons, true_or, if_true]
          split <;> rfl
        · simp only [setPair_pair_of_ne hpq, hprio, List.mem_cons, hpq, false_or]
          rfl
  exact hloop _ a

/-- **Another role** changes the priorities of the listed pairs, and nothing else of the agent. -/
lemma privCheckForRoleConflict_eq (control : Bool) :
    privCheckForRoleConflict a control =
      if control ≠ a.controllingMode then
        { a with
          controllingMode := control
          trace := a.trace ++ [.roleConflict control]
          pair := fun p =>
            if p ∈ a.streams.flatMap fun sid => (a.stream sid).conncheckList then
              { a.pair p with
                priority := agentCandidatePairPriority { a with controllingMode := control }
                  (a.candidate (a.pair p).localCand) (a.candidate (a.pair p).remoteCand) }
            else a.pair p }
      else a.emit (.roleConflict control) := by
  by_cases h : control ≠ a.controllingMode
  · rw [if_pos h]
    exact (if_pos h).trans (privRecalculatePairPriorities_eq _)
  · rw [if_neg h]
    exact if_neg h

/-! ### Requests -/

/-- A reply to a request of which the verdict is known, by an agent that keeps its role: a 487 if the
request claims that role with no higher tie-breaker, and a success if the request does not claim
it. -/
structure RepliesTo (agent : NiceAgent) (req : IceMessage) (verdict : Verdict) (msg : IceMessage) :
    Prop where
  cls : msg.cls ≠ .request
  conflict : stunUsageIceConncheckProcess msg = .roleConflict → verdict.valid = .success ∧
    req.cls = .request ∧ msg.id = req.id ∧
    ∃ q, req.role agent.controllingMode = some q ∧ q ≤ agent.tieBreaker
  accepted : msg.cls = .response → verdict.valid = .success ∧ req.cls = .request ∧
    msg.id = req.id ∧ req.role agent.controllingMode = none

/-- A success reply to the request. -/
structure Accepts (req msg : IceMessage) : Prop where
  cls : msg.cls = .response
  id : msg.id = req.id

/-- The request claims the role of the agent, whose tie-breaker is lower. -/
def Conflicts (agent : NiceAgent) (req : IceMessage) : Prop :=
  req.cls = .request ∧ ∃ q, req.role agent.controllingMode = some q ∧ agent.tieBreaker < q

lemma response_process {msg : IceMessage} (h : msg.cls = .response) :
    stunUsageIceConncheckProcess msg ≠ .roleConflict := by
  intro hprocess
  rw [stunUsageIceConncheckProcess, h] at hprocess
  dsimp only at hprocess
  split_ifs at hprocess

lemma errorReply_process {req : IceMessage} {code : ℕ} (h : code ≠ STUN_ERROR_ROLE_CONFLICT) :
    stunUsageIceConncheckProcess (errorReply req code) ≠ .roleConflict := by
  intro hprocess
  rw [stunUsageIceConncheckProcess, errorReply] at hprocess
  dsimp only at hprocess
  rw [if_neg h] at hprocess
  split at hprocess <;> cases hprocess

/-- A success reply that is built. -/
lemma buildReply_accepts {stun : StunAgentConfig} {bufferLen : ℕ} {req msg : IceMessage}
    {src : NiceAddress} {ret : StunUsageIceReturn}
    (h : (buildReply stun bufferLen req src ret).2 = some msg) : Accepts req msg := by
  rw [buildReply] at h
  split_ifs at h
  obtain rfl := Option.some.inj h
  exact ⟨rfl, rfl⟩

lemma buildReply_result {stun : StunAgentConfig} {bufferLen : ℕ} {req : IceMessage}
    {src : NiceAddress} {ret res : StunUsageIceReturn} (hres : res = .success ∨ res = .roleConflict)
    (h : (buildReply stun bufferLen req src ret).1 = res) : ret = res := by
  rw [buildReply] at h
  split_ifs at h
  · rcases hres with rfl | rfl <;> cases h
  · rcases hres with rfl | rfl <;> cases h
  · exact h

/-- **The reply.**  The role changes for a conflict that the agent loses, and what is sent is a
reply to the request. -/
lemma createReply_replies {stun : StunAgentConfig} {bufferLen : ℕ} {req : IceMessage}
    {src : NiceAddress} {verdict : Verdict} {res : StunUsageIceReturn} {reply : Option IceMessage}
    {control : Bool} (hvalid : verdict.valid = .success)
    (h : stunUsageIceConncheckCreateReply stun bufferLen req src a.controllingMode a.tieBreaker =
      (res, reply, control)) :
    (res = .roleConflict → Conflicts a req ∧ control = (!a.controllingMode) ∧
        ∀ msg, reply = some msg → Accepts req msg) ∧
      (res = .success → ∀ msg, reply = some msg → RepliesTo a req verdict msg) := by
  rw [stunUsageIceConncheckCreateReply] at h
  split_ifs at h with hcls hmethod
  · cases h
    exact ⟨(by simp), by simp⟩
  · cases h
    exact ⟨(by simp), by simp⟩
  have hcls := not_not.mp hcls
  split at h
  next q hq =>
    split_ifs at h with hlt
    · cases h
      refine ⟨fun _ => ⟨⟨hcls, q, hq, hlt⟩, rfl, fun msg hmsg => buildReply_accepts hmsg⟩,
        fun hres => ?_⟩
      cases buildReply_result (.inl rfl) hres
    · cases h
      refine ⟨(by simp), fun _ msg hmsg => ?_⟩
      rw [stunBindError] at hmsg
      split_ifs at hmsg
      obtain rfl := Option.some.inj hmsg
      exact ⟨(by simp [errorReply]), fun _ => ⟨hvalid, hcls, rfl, q, hq, UInt64.not_lt.mp hlt⟩,
        by simp [errorReply]⟩
  next hnone =>
    cases h
    refine ⟨fun hres => ?_, fun _ msg hmsg => ?_⟩
    · cases buildReply_result (.inr rfl) hres
    · have haccepts := buildReply_accepts hmsg
      exact ⟨(by simp [haccepts.cls]), fun hprocess => absurd hprocess (response_process haccepts.cls),
        fun _ => ⟨hvalid, hcls, haccepts.id, hnone⟩⟩

/-- What is sent for a request that is not valid. -/
lemma refusal_replies {stun : StunAgentConfig} {req reply : IceMessage} {verdict : Verdict}
    (h : refusal a stun req verdict = some reply) : RepliesTo a req verdict reply := by
  have herror {req' : IceMessage} {code : ℕ} {lengths : List ℕ}
      (hcode : code ≠ STUN_ERROR_ROLE_CONFLICT)
      (h : errorResponse stun req' code lengths = some reply) : RepliesTo a req verdict reply := by
    rw [errorResponse] at h
    split_ifs at h
    obtain rfl := Option.some.inj h
    exact ⟨(by simp [errorReply]), fun hprocess => absurd hprocess (errorReply_process hcode),
      by simp [errorReply]⟩
  rw [refusal] at h
  split_ifs at h
  split at h
  · exact herror (by decide) h
  · exact herror (by decide) h
  · exact herror (by decide) h
  · cases h

/-- The two requests differ in nothing that a role is decided by. -/
structure SameClaim (req req' : IceMessage) : Prop where
  cls : req'.cls = req.cls
  id : req'.id = req.id
  role : ∀ control, req'.role control = req.role control

lemma RepliesTo.of_same {req req' msg : IceMessage} {verdict : Verdict}
    (h : RepliesTo a req' verdict msg) (hsame : SameClaim req req') :
    RepliesTo a req verdict msg := by
  refine ⟨h.cls, fun hprocess => ?_, fun hcls => ?_⟩
  · obtain ⟨hvalid, hc, hi, q, hq, hle⟩ := h.conflict hprocess
    exact ⟨hvalid, hsame.cls ▸ hc, hi.trans hsame.id, q, hsame.role _ ▸ hq, hle⟩
  · obtain ⟨hvalid, hc, hi, hnone⟩ := h.accepted hcls
    exact ⟨hvalid, hsame.cls ▸ hc, hi.trans hsame.id, hsame.role _ ▸ hnone⟩

/-- What a request is answered with, and what comes of it. -/
def Answered (env : Env) (a : NiceAgent) (req : IceMessage) (verdict : Verdict) (b : NiceAgent) :
    Prop :=
  Moves env (RepliesTo a req verdict) a b ∨
    verdict.valid = .success ∧ Conflicts a req ∧
      Moves env (Accepts req) (privCheckForRoleConflict a !a.controllingMode) b

/-- The reply to a request, or to one that differs from it in the username only. -/
lemma repliedRequest_answered {nicesock : NiceSocket} {src : NiceAddress} {req req' : IceMessage}
    {verdict : Verdict} {stun : StunAgentConfig} {cands : RequestCandidates}
    {res : StunUsageIceReturn} {reply : Option IceMessage} {control : Bool}
    (hsame : SameClaim req req') (hvalid : verdict.valid = .success)
    (hcreate : stunUsageIceConncheckCreateReply stun MAX_STUN_DATAGRAM_PAYLOAD req' src
      a.controllingMode a.tieBreaker = (res, reply, control)) :
    Answered env a req verdict
      (if res = .success ∨ res = .roleConflict then
        (acceptRequest env
          (if res = .roleConflict then privCheckForRoleConflict a control else a) sid cid nicesock
          src req' cands reply, true)
      else (if res = .roleConflict then privCheckForRoleConflict a control else a, false)).1 := by
  obtain ⟨hconflict, hreplies⟩ := createReply_replies hvalid hcreate
  by_cases hres : res = .roleConflict
  · obtain ⟨⟨hc, q, hq, hlt⟩, rfl, haccepts⟩ := hconflict hres
    rw [if_pos hres, if_pos (.inr hres)]
    refine .inr ⟨hvalid, ⟨hsame.cls ▸ hc, q, hsame.role _ ▸ hq, hlt⟩,
      acceptRequest_moves _ _ _ _ _ fun msg hmsg => ?_⟩
    exact ⟨(haccepts msg hmsg).cls, (haccepts msg hmsg).id.trans hsame.id⟩
  · rw [if_neg hres]
    split
    next hok =>
      exact .inl (acceptRequest_moves _ _ _ _ _ fun msg hmsg =>
        (hreplies (hok.resolve_right hres) msg hmsg).of_same hsame)
    · exact .inl .refl

/-- **A request is a row of moves**, with another role before them for a conflict that the agent
loses. -/
theorem inboundRequest_answered (env : Env) (a : NiceAgent) (sid : StreamId) (cid : ComponentId)
    (nicesock : NiceSocket) (src : NiceAddress) (req : IceMessage) (verdict : Verdict) :
    Answered env a req verdict
      (connCheckHandleInboundRequest env a sid cid nicesock src req verdict).1 := by
  rw [connCheckHandleInboundRequest]
  dsimp only
  split
  · exact .inl .refl
  split
  · split
    next reply hreply =>
      refine .inl (.single (.signal _ (by simp) fun sock addr msg h => .inr ?_))
      cases h
      exact refusal_replies hreply
    · exact .inl .refl
  generalize (if a.compatibility = .google ∨ a.compatibility = .msn ∨ a.compatibility = .oc2007 then
    usernameCandidates env a sid cid req.username else none) = matched
  split
  · exact .inl .refl
  split
  · exact .inl .refl
  next hvalid =>
  have hvalid := not_not.mp hvalid
  cases matched with
  | none =>
      split
      · exact .inl .refl
      · exact repliedRequest_answered ⟨rfl, rfl, fun _ => rfl⟩ hvalid rfl
  | some cands =>
      obtain ⟨r, l⟩ := cands
      -- the MSN kind has the username written over, on which no claim depends
      have hsame : SameClaim req (if a.compatibility = .msn then
          overwriteUsername env a sid cid r l req else req) := by
        split
        · exact ⟨rfl, rfl, fun _ => rfl⟩
        · exact ⟨rfl, rfl, fun _ => rfl⟩
      split
      · exact .inl .refl
      · exact repliedRequest_answered hsame hvalid rfl

/-! ### Responses -/

/-- The pair whose request a response is for. -/
def answeredCheck (agent : NiceAgent) (sid : StreamId) (resp : IceMessage) : Option PairId :=
  (agent.stream sid).conncheckList.find? fun p =>
    (agent.pair p).stunMessage.any fun msg => msg.id = resp.id

lemma answeredCheck_spec {resp : IceMessage} (h : answeredCheck a sid resp = some p) :
    p ∈ (a.stream sid).conncheckList ∧
      ∃ msg, (a.pair p).stunMessage = some msg ∧ msg.id = resp.id := by
  rw [answeredCheck] at h
  refine ⟨List.mem_of_find?_eq_some h, ?_⟩
  simpa [Option.any_eq_true] using List.find?_some h

/-- **A response is a row of moves**, with another role before them for a 487 to the check of a
pair. -/
theorem mapReply_moves {replies : IceMessage → Prop} {sockptr : NiceSocket} {src : NiceAddress}
    {l r : Option CandidateId} {resp : IceMessage} {found : Bool}
    (h : privMapReplyToConnCheckRequest env a sid cid sockptr src l r resp = .ok (b, found)) :
    (answeredCheck a sid resp = none ∨ stunUsageIceConncheckProcess resp ≠ .roleConflict) ∧
        Moves env replies a b ∨
      ∃ p, answeredCheck a sid resp = some p ∧
        stunUsageIceConncheckProcess resp = .roleConflict ∧
        Moves env replies (privCheckForRoleConflict a !(a.pair p).controlling) b := by
  rw [privMapReplyToConnCheckRequest] at h
  split at h
  next hp =>
    cases h
    exact .inl ⟨.inl hp, pruneCancelledConnCheck_moves⟩
  next p hp =>
    have hanswer (hx : (if src ≠ (a.candidate (a.pair p).remoteCand).addr then
          .ok (pruneCancelledConnCheck ((withoutRequest a p).setPairState p .failed) sid, true)
        else
          privAnswered env a sid cid p sockptr l r resp.mappedAddress >>= fun agent =>
            .ok (pruneCancelledConnCheck (privUpdateCheckListStateForReady agent sid cid) sid, true) :
        Except Fault (NiceAgent × Bool)) = .ok (b, found)) : Moves env replies a b := by
      split_ifs at hx
      · cases hx
        exact (withoutRequest_moves.trans (setPairState_moves _)).trans
          pruneCancelledConnCheck_moves
      · obtain ⟨y, hy, hyx⟩ := bind_eq_ok.mp hx
        cases hyx
        exact ((privAnswered_moves hy).trans privUpdateCheckListStateForReady_moves).trans
          pruneCancelledConnCheck_moves
    dsimp only at h
    generalize hprocess : stunUsageIceConncheckProcess resp = res at h
    cases res with
    | roleConflict =>
        cases h
        exact .inr ⟨p, hp, rfl, (withoutRequest_moves.trans (setPairState_moves _)).trans
          pruneCancelledConnCheck_moves⟩
    | success => exact .inl ⟨.inr (by simp), hanswer h⟩
    | noMappedAddress => exact .inl ⟨.inr (by simp), hanswer h⟩
    | _ =>
        cases h
        exact .inl ⟨.inr (by simp), withoutRequest_moves.trans pruneCancelledConnCheck_moves⟩

end Roles

end LibNice.Ice
