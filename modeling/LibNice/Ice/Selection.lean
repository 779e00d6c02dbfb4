import LibNice.Ice.ConnCheckSend

/-!
The end of the checks of a component (`agent/conncheck.c`, `agent/component.c`): the pairs that a
nomination makes needless, the selected pair and the state of the component.

* `candidateCheckPairFail`, `privPrunePendingChecks`: checks that are given up.
* `agentSignalComponentStateChange`, `privUpdateCheckListStateForReady`: the state of a component.
* `privConnKeepaliveTick`: the keepalives of the selected pairs.
* `componentUpdateSelectedPair`, `privUpdateSelectedPair`: another selected pair.
* `privMarkPairNominated`: the peer has nominated a candidate.

The pseudo-TCP socket of a reliable component, which is told of these changes too, is the business
of `LibNice.PseudoTcp`.
-/

namespace LibNice.Ice

open LibNice.Foundation LibNice.Stun

/-! ### Signals -/

/-- Something that can be seen from outside. -/
def NiceAgent.emit (agent : NiceAgent) (event : Trace) : NiceAgent :=
  { agent with trace := agent.trace ++ [event] }

/-- `agent_signal_component_state_change`. -/
def agentSignalComponentStateChange (agent : NiceAgent) (sid : StreamId) (cid : ComponentId)
    (state : NiceComponentState) : NiceAgent :=
  match agentFindComponent agent sid cid with
  | none => agent
  | some sid =>
      let component := (agent.stream sid).component cid
      if component.state ≠ state then
        (agent.setComponent sid cid { component with state }).emit (.stateChanged sid cid state)
      else agent

/-- `agent_signal_new_selected_pair`. -/
def agentSignalNewSelectedPair (agent : NiceAgent) (sid : StreamId) (cid : ComponentId)
    (lcand rcand : CandidateId) : NiceAgent :=
  match agentFindComponent agent sid cid with
  | none => agent
  | some sid => agent.emit (.newSelectedPair sid cid lcand rcand)

/-! ### Checks that are given up -/

/-- The STUN agent of a component without a transaction. -/
def forgetCheck (agent : NiceAgent) (sid : StreamId) (cid : ComponentId) (id : StunTransactionId) :
    NiceAgent :=
  let component := (agent.stream sid).component cid
  agent.setComponent sid cid
    { component with stunAgent := (stunAgentForgetTransaction component.stunAgent id).1 }

/-- `candidate_check_pair_fail`. -/
def candidateCheckPairFail (agent : NiceAgent) (sid : StreamId) (p : PairId) : NiceAgent :=
  let pair := agent.pair p
  let agent :=
    match pair.stunMessage with
    | some msg => forgetCheck agent sid pair.componentId msg.id
    | none => agent
  agent.setPair p { pair with state := .failed, stunMessage := none }

/-- A nominated valid pair of the component. -/
def nominatedOf (agent : NiceAgent) (cid : ComponentId) (p : PairId) : Bool :=
  (agent.pair p).componentId = cid && (agent.pair p).valid && (agent.pair p).nominated

/-- The first loop of `priv_prune_pending_checks`. -/
def highestNominatedPriority (agent : NiceAgent) (list : List PairId) (cid : ComponentId) :
    UInt64 :=
  list.foldl (fun highest p =>
    if nominatedOf agent cid p ∧ highest < (agent.pair p).priority then (agent.pair p).priority
    else highest) 0

/-- A round of the second one, with `in_progress`. -/
def prunePair (highest : UInt64) (cid : ComponentId) (acc : NiceAgent × ℕ) (p : PairId) :
    NiceAgent × ℕ :=
  let pair := acc.1.pair p
  if pair.componentId = cid then
    if pair.state = .frozen ∨ pair.state = .waiting then (acc.1.setPairState p .cancelled, acc.2)
    else if pair.state = .inProgress then
      if highest ≠ 0 ∧ pair.priority < highest then
        (acc.1.setPair p { pair with state := .cancelled, stunMessage := none }, acc.2)
      else (acc.1, acc.2 + 1)
    else acc
  else acc

/-- `priv_prune_pending_checks`. -/
def privPrunePendingChecks (agent : NiceAgent) (sid : StreamId) (cid : ComponentId) :
    NiceAgent × ℕ :=
  let list := (agent.stream sid).conncheckList
  list.foldl (prunePair (highestNominatedPriority agent list cid) cid) (agent, 0)

/-- `priv_update_check_list_state_for_ready`. -/
def privUpdateCheckListStateForReady (agent : NiceAgent) (sid : StreamId) (cid : ComponentId) :
    NiceAgent :=
  if (agent.stream sid).conncheckList.any (nominatedOf agent cid) then
    let (agent, inProgress) := privPrunePendingChecks agent sid cid
    if inProgress = 0 then agentSignalComponentStateChange agent sid cid .ready else agent
  else agent

/-! ### Keepalives -/

/-- The keepalive of a selected pair between `loc` and `remote` as a check, and whether it could be
sent. -/
def keepaliveCheck (env : Env) (agent : NiceAgent) (sid : StreamId) (cid : ComponentId)
    (loc remote : NiceCandidate) : NiceAgent × Bool :=
  let component := (agent.stream sid).component cid
  let uname := privCreateUsername env agent (some (agent.stream sid)) cid (some remote) (some loc)
    NICE_STREAM_MAX_UNAME false
  if uname.length > 0 then
    match stunUsageIceConncheckCreate component.stunAgent (env.transid agent.transids)
        STUN_MAX_MESSAGE_SIZE_IPV6 uname
        (privGetPassword agent (some (agent.stream sid)) (some remote)) agent.controllingMode
        agent.controllingMode (peerReflexiveCandidatePriority agent loc) agent.tieBreaker none
        (agentToIceCompatibility agent.compatibility) with
    | (msg, some stunAgent) =>
        let agent := agent.setComponent sid cid
          { component with
            stunAgent
            selectedPair := { component.selectedPair with keepalive := some msg, tick := true } }
        ({ agent with transids := agent.transids + 1, mediaAfterTick := false }.emit
          (.send loc.sockptr remote.addr msg), true)
    | (msg, none) =>
        let agent := agent.setComponent sid cid
          { component with selectedPair := { component.selectedPair with keepalive := some msg } }
        ({ agent with transids := agent.transids + 1 }, false)
  else (agent, true)

/-- The keepalive as an indication, and whether it could be sent. -/
def keepaliveIndication (env : Env) (agent : NiceAgent) (sid : StreamId) (cid : ComponentId)
    (loc remote : NiceCandidate) : NiceAgent × Bool :=
  let component := (agent.stream sid).component cid
  let stun := component.stunAgent.toStunAgentConfig
  let msg := stunUsageBindKeepalive (env.transid agent.transids)
  let agent := agent.setComponent sid cid
    { component with selectedPair := { component.selectedPair with keepalive := some msg } }
  let agent := { agent with transids := agent.transids + 1 }
  if (builtLength stun STUN_MAX_MESSAGE_SIZE_IPV6 (finishLengths stun false)).isSome then
    (agent.emit (.send loc.sockptr remote.addr msg), true)
  else (agent, false)

/-- A keepalive of the selected pair, if it is a UDP one, and `errors`. -/
def keepaliveComponent (env : Env) (acc : NiceAgent × ℕ) (sid : StreamId) (cid : ComponentId) :
    NiceAgent × ℕ :=
  let agent := acc.1
  let selectedPair := ((agent.stream sid).component cid).selectedPair
  match selectedPair.localCand, selectedPair.remoteCand with
  | some l, some r =>
      if (agent.candidate l).transport ≠ .udp then acc
      else
        let (agent, sent) :=
          if agent.compatibility = .google ∨ agent.keepaliveConncheck then
            keepaliveCheck env agent sid cid (agent.candidate l) (agent.candidate r)
          else keepaliveIndication env agent sid cid (agent.candidate l) (agent.candidate r)
        (agent, if sent then acc.2 else acc.2 + 1)
  | _, _ => acc

/-- `priv_conn_keepalive_tick_unlocked`, without the requests to the STUN server: the agent, and
whether the timer keeps going. -/
def privConnKeepaliveTick (env : Env) (agent : NiceAgent) : NiceAgent × Bool :=
  let acc := agent.streams.foldl (fun acc sid =>
    (acc.1.stream sid).components.foldl (fun acc cid => keepaliveComponent env acc sid cid) acc)
    (agent, 0)
  (acc.1, acc.2 = 0)

/-! ### The selected pair -/

/-- `agent_candidate_pair_priority`. -/
def agentCandidatePairPriority (agent : NiceAgent) (loc remote : NiceCandidate) : UInt64 :=
  if agent.controllingMode then niceCandidatePairPriority loc.priority remote.priority
  else niceCandidatePairPriority remote.priority loc.priority

/-- `component_find_pair`. -/
def componentFindPair (agent : NiceAgent) (component : Component)
    (lfoundation rfoundation : Bytes) : Option CandidatePair :=
  match component.localCandidates.find? fun l => (agent.candidate l).foundation = lfoundation,
    component.remoteCandidates.find? fun r => (agent.candidate r).foundation = rfoundation with
  | some l, some r =>
      some { CandidatePair.clear with
        localCand := some l
        remoteCand := some r
        priority := agentCandidatePairPriority agent (agent.candidate l) (agent.candidate r) }
  | _, _ => none

/-- `conn_check_prune_socket`. -/
def connCheckPruneSocket (agent : NiceAgent) (sid : StreamId) (cid : ComponentId)
    (sock : Option NiceSocket) : NiceAgent :=
  let component := (agent.stream sid).component cid
  let selected := component.selectedPair.localCand.any fun l => (agent.candidate l).sockptr = sock
  let agent :=
    if selected ∧ component.state = .ready then
      agentSignalComponentStateChange agent sid cid .failed
    else agent
  (agent.stream sid).conncheckList.foldl (fun agent p =>
    if (agent.candidate (agent.pair p).localCand).sockptr = sock ∨
        (agent.candidate (agent.pair p).remoteCand).sockptr = sock then
      candidateCheckPairFail agent sid p
    else agent) agent

/-- `component_detach_socket`, as far as the stored checks go. -/
def componentDetachSocket (component : Component) (sock : Option NiceSocket) : Component :=
  { component with
    incomingChecks := component.incomingChecks.filter fun c => some c.localSocket ≠ sock }

/-- `component_update_selected_pair`. -/
def componentUpdateSelectedPair (agent : NiceAgent) (sid : StreamId) (cid : ComponentId)
    (pair : CandidatePair) : NiceAgent :=
  let component := (agent.stream sid).component cid
  let agent :=
    match component.turnCandidate with
    | none => agent
    | some turn =>
        if component.selectedPair.localCand = some turn then
          let sock := (agent.candidate turn).sockptr
          let agent := connCheckPruneSocket agent sid cid sock
          agent.setComponent sid cid
            { componentDetachSocket ((agent.stream sid).component cid) sock with
              turnCandidate := none }
        else agent
  agent.setComponent sid cid
    { (agent.stream sid).component cid with
      selectedPair := { CandidatePair.clear with
        localCand := pair.localCand, remoteCand := pair.remoteCand, priority := pair.priority } }

/-- `priv_update_selected_pair`, for the component `cid` of the stream `sid`. -/
def privUpdateSelectedPair (env : Env) (agent : NiceAgent) (sid : StreamId) (cid : ComponentId)
    (p : PairId) : NiceAgent :=
  let pair := agent.pair p
  let component := (agent.stream sid).component cid
  let found := componentFindPair agent component (agent.candidate pair.localCand).foundation
    (agent.candidate pair.remoteCand).foundation
  match found with
  | some cpair =>
      if component.selectedPair.priority < pair.priority then
        let agent := componentUpdateSelectedPair agent sid cid cpair
        let agent := (privConnKeepaliveTick env agent).1
        agentSignalNewSelectedPair agent pair.streamId cid pair.localCand pair.remoteCand
      else agent
  | none => agent

/-! ### Nomination by the peer -/

/-- A round of the loop of `priv_mark_pair_nominated`. -/
def markPair (env : Env) (sid : StreamId) (cid : ComponentId) (remotecand : CandidateId)
    (agent : NiceAgent) (p : PairId) : NiceAgent :=
  if (agent.pair p).remoteCand = remotecand then
    let agent := agent.setPair p { agent.pair p with nominated := true }
    let agent :=
      if (agent.pair p).valid then privUpdateSelectedPair env agent sid cid p else agent
    privUpdateCheckListStateForReady agent sid cid
  else agent

/-- `priv_mark_pair_nominated`. -/
def privMarkPairNominated (env : Env) (agent : NiceAgent) (sid : StreamId) (cid : ComponentId)
    (remotecand : CandidateId) : NiceAgent :=
  (agent.stream sid).conncheckList.foldl (markPair env sid cid remotecand) agent

/-! ### What is left alone -/

section Frames

variable {env : Env} {agent : NiceAgent} {sid : StreamId} {cid : ComponentId} {p : PairId}

lemma agentFindComponent_of_mem (hsid : sid ∈ agent.streams)
    (hcid : cid ∈ (agent.stream sid).components) : agentFindComponent agent sid cid = some sid := by
  rw [agentFindComponent, agentFindStream_of_mem hsid]
  simp [hcid]

/-- A loop leaves alone what each round does. -/
lemma Frame.foldl {α β : Type} {f : β → α → β} {g : β → NiceAgent}
    (h : ∀ acc x, Frame (g acc) (g (f acc x))) (list : List α) :
    ∀ acc, Frame (g acc) (g (list.foldl f acc)) := by
  induction list with
  | nil => exact fun _ => .refl
  | cons x list ih => exact fun acc => (h acc x).trans (ih (f acc x))

/-- The other things that a step may change. -/
lemma settings_frame (transids : ℕ) (mediaAfterTick : Bool) :
    Frame agent { agent with transids, mediaAfterTick } :=
  { @Frame.refl agent with trace := ⟨[], by simp⟩ }

lemma emit_frame (event : Trace) : Frame agent (agent.emit event) :=
  { @Frame.refl agent with trace := ⟨[event], rfl⟩ }

lemma agentSignalComponentStateChange_frame (state : NiceComponentState) :
    Frame agent (agentSignalComponentStateChange agent sid cid state) := by
  rw [agentSignalComponentStateChange]
  cases agentFindComponent agent sid cid with
  | none => exact .refl
  | some s =>
      dsimp only
      split
      · exact (Frame.setComponent (by rfl) (by rfl) (by rfl)).trans (emit_frame _)
      · exact .refl

lemma agentSignalNewSelectedPair_frame (lcand rcand : CandidateId) :
    Frame agent (agentSignalNewSelectedPair agent sid cid lcand rcand) := by
  rw [agentSignalNewSelectedPair]
  cases agentFindComponent agent sid cid with
  | none => exact .refl
  | some s => exact emit_frame _

lemma stunAgentForgetTransaction_config (stun : StunAgent) (id : StunTransactionId) :
    (stunAgentForgetTransaction stun id).1.toStunAgentConfig = stun.toStunAgentConfig := by
  rw [stunAgentForgetTransaction]
  cases stun.sentIds.findFinIdx? fun s => s.valid && s.id = id <;> rfl

lemma forgetCheck_frame (id : StunTransactionId) : Frame agent (forgetCheck agent sid cid id) :=
  .setStunAgent (stunAgentForgetTransaction_config _ _)

lemma candidateCheckPairFail_frame (agent : NiceAgent) (sid : StreamId) (p : PairId) :
    Frame agent (candidateCheckPairFail agent sid p) := by
  rw [candidateCheckPairFail]
  cases (agent.pair p).stunMessage with
  | none => exact .setPair rfl
  | some msg => exact (forgetCheck_frame msg.id).trans (.setPair rfl)

lemma prunePair_frame (highest : UInt64) (acc : NiceAgent × ℕ) (p : PairId) :
    Frame acc.1 (prunePair highest cid acc p).1 := by
  rw [prunePair]
  split
  · split
    · exact .setPairState
    · split
      · split
        · exact .setPair rfl
        · exact .refl
      · exact .refl
  · exact .refl

lemma privPrunePendingChecks_frame (agent : NiceAgent) (sid : StreamId) (cid : ComponentId) :
    Frame agent (privPrunePendingChecks agent sid cid).1 :=
  @Frame.foldl _ _ _ Prod.fst (prunePair_frame _) _ (agent, 0)

lemma privUpdateCheckListStateForReady_frame (agent : NiceAgent) (sid : StreamId)
    (cid : ComponentId) : Frame agent (privUpdateCheckListStateForReady agent sid cid) := by
  rw [privUpdateCheckListStateForReady]
  split
  · have hprune := privPrunePendingChecks_frame agent sid cid
    cases hpruned : privPrunePendingChecks agent sid cid with
    | mk agent' inProgress =>
        rw [hpruned] at hprune
        dsimp only
        split
        · exact hprune.trans (agentSignalComponentStateChange_frame _)
        · exact hprune
  · exact .refl

lemma keepaliveCheck_frame (loc remote : NiceCandidate) :
    Frame agent (keepaliveCheck env agent sid cid loc remote).1 := by
  rw [keepaliveCheck]
  dsimp only
  split
  · split
    next msg stun hcreate =>
      refine Frame.trans (Frame.trans (Frame.setComponent ?_ ?_ ?_) (settings_frame _ _))
        (emit_frame _)
      · exact conncheckCreate_config (congrArg Prod.snd hcreate)
      · rfl
      · rfl
    next msg hcreate =>
      exact (Frame.setComponent (by rfl) (by rfl) (by rfl)).trans (settings_frame _ _)
  · exact .refl

lemma keepaliveIndication_frame (loc remote : NiceCandidate) :
    Frame agent (keepaliveIndication env agent sid cid loc remote).1 := by
  rw [keepaliveIndication]
  dsimp only
  split
  · exact ((Frame.setComponent (by rfl) (by rfl) (by rfl)).trans (settings_frame _ _)).trans
      (emit_frame _)
  · exact (Frame.setComponent (by rfl) (by rfl) (by rfl)).trans (settings_frame _ _)

lemma keepaliveComponent_frame (acc : NiceAgent × ℕ) (sid : StreamId) (cid : ComponentId) :
    Frame acc.1 (keepaliveComponent env acc sid cid).1 := by
  rw [keepaliveComponent]
  dsimp only
  split
  · split
    · exact .refl
    · split
      · exact keepaliveCheck_frame _ _
      · exact keepaliveIndication_frame _ _
  · exact .refl

lemma privConnKeepaliveTick_frame (env : Env) (agent : NiceAgent) :
    Frame agent (privConnKeepaliveTick env agent).1 :=
  @Frame.foldl _ _ _ Prod.fst
    (fun acc sid => @Frame.foldl _ _ _ Prod.fst
      (fun acc cid => keepaliveComponent_frame acc sid cid) _ acc) _ (agent, 0)

lemma connCheckPruneSocket_frame (sock : Option NiceSocket) :
    Frame agent (connCheckPruneSocket agent sid cid sock) := by
  have hloop (a : NiceAgent) (list : List PairId) : Frame a (list.foldl (fun agent p =>
      if (agent.candidate (agent.pair p).localCand).sockptr = sock ∨
          (agent.candidate (agent.pair p).remoteCand).sockptr = sock then
        candidateCheckPairFail agent sid p
      else agent) a) := by
    refine @Frame.foldl _ _ _ id (fun acc p => ?_) list a
    dsimp only [id]
    split
    · exact candidateCheckPairFail_frame _ _ _
    · exact .refl
  rw [connCheckPruneSocket]
  split
  · exact (agentSignalComponentStateChange_frame _).trans (hloop _ _)
  · exact hloop _ _

lemma componentUpdateSelectedPair_frame (pair : CandidatePair) :
    Frame agent (componentUpdateSelectedPair agent sid cid pair) := by
  rw [componentUpdateSelectedPair]
  dsimp only
  cases ((agent.stream sid).component cid).turnCandidate with
  | none => exact .setComponent rfl rfl rfl
  | some turn =>
      dsimp only
      split
      · refine Frame.trans ?_ (.setComponent rfl rfl rfl)
        exact (connCheckPruneSocket_frame _).trans (.setComponent rfl rfl rfl)
      · exact .setComponent rfl rfl rfl

lemma privUpdateSelectedPair_frame (env : Env) (agent : NiceAgent) (sid : StreamId)
    (cid : ComponentId) (p : PairId) :
    Frame agent (privUpdateSelectedPair env agent sid cid p) := by
  rw [privUpdateSelectedPair]
  dsimp only
  split
  · split
    · exact ((componentUpdateSelectedPair_frame _).trans (privConnKeepaliveTick_frame env _)).trans
        (agentSignalNewSelectedPair_frame _ _)
    · exact .refl
  · exact .refl

lemma markPair_frame (env : Env) (sid : StreamId) (cid : ComponentId) (remotecand : CandidateId)
    (agent : NiceAgent) (p : PairId) : Frame agent (markPair env sid cid remotecand agent p) := by
  rw [markPair]
  split
  · refine Frame.trans ?_ (privUpdateCheckListStateForReady_frame _ sid cid)
    have hset := @Frame.setPair agent p { agent.pair p with nominated := true } rfl
    split
    · exact hset.trans (privUpdateSelectedPair_frame env _ sid cid p)
    · exact hset
  · exact .refl

lemma privMarkPairNominated_frame (env : Env) (agent : NiceAgent) (sid : StreamId)
    (cid : ComponentId) (remotecand : CandidateId) :
    Frame agent (privMarkPairNominated env agent sid cid remotecand) :=
  @Frame.foldl _ _ _ id (markPair_frame env sid cid remotecand) _ agent

end Frames

/-! ### What pruning leaves -/

section Prune

variable {agent : NiceAgent} {sid : StreamId} {cid : ComponentId} {highest : UInt64} {p q : PairId}
  {pair : CandidateCheckPair}

/-- A priority is lower than the highest one exactly when it is lower than some. -/
lemma lt_highestNominatedPriority (x : UInt64) (list : List PairId) :
    x < highestNominatedPriority agent list cid ↔
      ∃ q ∈ list, nominatedOf agent cid q = true ∧ x < (agent.pair q).priority := by
  have hloop (list : List PairId) : ∀ h : UInt64, x < list.foldl (fun highest p =>
      if nominatedOf agent cid p ∧ highest < (agent.pair p).priority then (agent.pair p).priority
      else highest) h ↔ x < h ∨
        ∃ q ∈ list, nominatedOf agent cid q = true ∧ x < (agent.pair q).priority := by
    induction list with
    | nil => simp
    | cons p list ih =>
        intro h
        rw [List.foldl_cons, ih, List.exists_mem_cons_iff, ← or_assoc]
        refine or_congr ?_ Iff.rfl
        by_cases hp : nominatedOf agent cid p = true
        · simp only [hp, true_and]
          split
          next hlt =>
            simp only [UInt64.lt_iff_toNat_lt] at hlt ⊢
            omega
          next hle =>
            simp only [UInt64.lt_iff_toNat_lt] at hle ⊢
            omega
        · simp [hp]
  rw [highestNominatedPriority, hloop, or_iff_right]
  simp [UInt64.lt_iff_toNat_lt]

/-- A pair of the list after `priv_prune_pending_checks`. -/
def prunedPair (highest : UInt64) (cid : ComponentId) (pair : CandidateCheckPair) :
    CandidateCheckPair :=
  if pair.componentId = cid then
    if pair.state = .frozen ∨ pair.state = .waiting then { pair with state := .cancelled }
    else if pair.state = .inProgress ∧ pair.priority < highest then
      { pair with state := .cancelled, stunMessage := none }
    else pair
  else pair

lemma prunePair_pair (acc : NiceAgent × ℕ) (p : PairId) :
    (prunePair highest cid acc p).1.pair =
      Function.update acc.1.pair p (prunedPair highest cid (acc.1.pair p)) := by
  have hne : (acc.1.pair p).priority < highest → highest ≠ 0 := by
    rintro hlt rfl
    simp [UInt64.lt_iff_toNat_lt] at hlt
  rw [prunePair, prunedPair]
  split
  · split
    · rfl
    next hwait =>
      by_cases hprogress : (acc.1.pair p).state = .inProgress
      · by_cases hlt : (acc.1.pair p).priority < highest
        · rw [if_pos hprogress, if_pos ⟨hne hlt, hlt⟩, if_pos ⟨hprogress, hlt⟩]
          rfl
        · rw [if_pos hprogress, if_neg fun h => hlt h.2, if_neg fun h => hlt h.2,
            Function.update_eq_self]
      · rw [if_neg hprogress, if_neg fun h => hprogress h.1, Function.update_eq_self]
  · rw [Function.update_eq_self]

lemma prunePair_stream (acc : NiceAgent × ℕ) (p : PairId) :
    (prunePair highest cid acc p).1.stream = acc.1.stream ∧
      (prunePair highest cid acc p).1.trace = acc.1.trace := by
  rw [prunePair]
  split
  · split
    · exact ⟨rfl, rfl⟩
    · split
      · split <;> exact ⟨rfl, rfl⟩
      · exact ⟨rfl, rfl⟩
  · exact ⟨rfl, rfl⟩

lemma prunedPair_prunedPair :
    prunedPair highest cid (prunedPair highest cid pair) = prunedPair highest cid pair := by
  by_cases hc : pair.componentId = cid
  · by_cases hwait : pair.state = .frozen ∨ pair.state = .waiting
    · simp [prunedPair, hc, hwait]
    · by_cases hlow : pair.state = .inProgress ∧ pair.priority < highest
      · simp [prunedPair, hc, hlow]
      · simp [prunedPair, hc, hwait, hlow]
  · simp [prunedPair, hc]

/-- **Pruning**: the pairs of the list are pruned, one by one. -/
lemma privPrunePendingChecks_spec (agent : NiceAgent) (sid : StreamId) (cid : ComponentId) :
    (∀ q, (privPrunePendingChecks agent sid cid).1.pair q =
      if q ∈ (agent.stream sid).conncheckList then
        prunedPair (highestNominatedPriority agent (agent.stream sid).conncheckList cid) cid
          (agent.pair q)
      else agent.pair q) ∧
    (privPrunePendingChecks agent sid cid).1.stream = agent.stream ∧
    (privPrunePendingChecks agent sid cid).1.trace = agent.trace := by
  have hloop (highest : UInt64) (list : List PairId) : ∀ acc : NiceAgent × ℕ,
      (∀ q, (list.foldl (prunePair highest cid) acc).1.pair q =
        if q ∈ list then prunedPair highest cid (acc.1.pair q) else acc.1.pair q) ∧
      (list.foldl (prunePair highest cid) acc).1.stream = acc.1.stream ∧
      (list.foldl (prunePair highest cid) acc).1.trace = acc.1.trace := by
    induction list with
    | nil => exact fun acc => ⟨fun q => rfl, rfl, rfl⟩
    | cons p list ih =>
        intro acc
        obtain ⟨hpair, hstream, htrace⟩ := ih (prunePair highest cid acc p)
        obtain ⟨hstream', htrace'⟩ := @prunePair_stream cid highest acc p
        refine ⟨fun q => ?_, hstream.trans hstream', htrace.trans htrace'⟩
        rw [List.foldl_cons, hpair, prunePair_pair]
        by_cases hqp : q = p
        · subst hqp
          rw [Function.update_self, prunedPair_prunedPair, ite_self, if_pos List.mem_cons_self]
        · rw [Function.update_of_ne hqp]
          simp [hqp]
  exact hloop _ _ (agent, 0)

/-- The state of a component, and nothing else of the streams and the pairs. -/
lemma agentSignalComponentStateChange_spec (agent : NiceAgent) (sid : StreamId) (cid : ComponentId)
    (state : NiceComponentState) :
    (agentSignalComponentStateChange agent sid cid state).pair = agent.pair ∧
    (∀ s c, ∃ st, ((agentSignalComponentStateChange agent sid cid state).stream s).component c =
      { (agent.stream s).component c with state := st }) ∧
    ∃ events, (agentSignalComponentStateChange agent sid cid state).trace =
      agent.trace ++ events ∧ ∀ e ∈ events, ∃ s c st, e = .stateChanged s c st := by
  have hsame : agent.pair = agent.pair ∧
      (∀ s c, ∃ st, (agent.stream s).component c =
        { (agent.stream s).component c with state := st }) ∧
      ∃ events, agent.trace = agent.trace ++ events ∧ ∀ e ∈ events, ∃ s c st,
        e = .stateChanged s c st :=
    ⟨rfl, fun s c => ⟨((agent.stream s).component c).state, rfl⟩, [], by simp, by simp⟩
  rw [agentSignalComponentStateChange]
  cases agentFindComponent agent sid cid with
  | none => exact hsame
  | some s' =>
      dsimp only
      split
      · refine ⟨rfl, fun s c => ?_, [.stateChanged s' cid state], rfl, fun e he =>
          ⟨s', cid, state, List.mem_singleton.mp he⟩⟩
        by_cases hsc : (s, c) = (s', cid)
        · obtain ⟨rfl, rfl⟩ := Prod.mk.inj hsc
          exact ⟨state, setComponent_component_self⟩
        · exact ⟨((agent.stream s).component c).state, setComponent_component_of_ne hsc⟩
      · exact hsame

/-- **The list state for READY**: the pairs are pruned if there is a nominated valid one. -/
lemma privUpdateCheckListStateForReady_spec (agent : NiceAgent) (sid : StreamId)
    (cid : ComponentId) :
    (∀ q, (privUpdateCheckListStateForReady agent sid cid).pair q =
      if (∃ p ∈ (agent.stream sid).conncheckList, nominatedOf agent cid p = true) ∧
          q ∈ (agent.stream sid).conncheckList then
        prunedPair (highestNominatedPriority agent (agent.stream sid).conncheckList cid) cid
          (agent.pair q)
      else agent.pair q) ∧
    (∀ s c, ∃ st, ((privUpdateCheckListStateForReady agent sid cid).stream s).component c =
      { (agent.stream s).component c with state := st }) ∧
    ∃ events, (privUpdateCheckListStateForReady agent sid cid).trace =
      agent.trace ++ events ∧ ∀ e ∈ events, ∃ s c st, e = .stateChanged s c st := by
  rw [privUpdateCheckListStateForReady]
  by_cases hany : (agent.stream sid).conncheckList.any (nominatedOf agent cid) = true
  · have hex := List.any_eq_true.mp hany
    obtain ⟨hpair, hstream, htrace⟩ := privPrunePendingChecks_spec agent sid cid
    rw [if_pos hany]
    cases hpruned : privPrunePendingChecks agent sid cid with
    | mk agent' inProgress =>
        rw [hpruned] at hpair hstream htrace
        dsimp only at hpair hstream htrace ⊢
        simp only [hex, true_and]
        split
        · obtain ⟨hpair', hcomp, events, hevents, hkind⟩ :=
            agentSignalComponentStateChange_spec agent' sid cid .ready
          refine ⟨fun q => (congrFun hpair' q).trans (hpair q), fun s c => ?_, events,
            htrace ▸ hevents, hkind⟩
          rw [← hstream]
          exact hcomp s c
        · exact ⟨hpair, fun s c => ⟨((agent.stream s).component c).state, by rw [hstream]⟩, [],
            by rw [htrace, List.append_nil], by simp⟩
  · have hex : ¬∃ p ∈ (agent.stream sid).conncheckList, nominatedOf agent cid p = true :=
      mt List.any_eq_true.mpr hany
    rw [if_neg hany]
    exact ⟨fun q => (if_neg fun h => hex h.1).symm,
      fun s c => ⟨((agent.stream s).component c).state, rfl⟩, [], by simp, by simp⟩

end Prune

/-! ### The priorities of the two agents -/

/-- The priority of a pair in natural numbers, from the priorities of the candidates of the
controlling and of the controlled agent. -/
def exactPairPriority (g d : UInt32) : ℕ :=
  2 ^ 32 * min g.toNat d.toNat + 2 * max g.toNat d.toNat + tieBit g d

/-- What is asked of the priority of a pair: it is the exact one, the two agents find the same, and
priorities below `2 ^ 31` order the pairs lexicographically. -/
structure PriorityAgreed (g d : UInt32) : Prop where
  value : (niceCandidatePairPriority g d).toNat = exactPairPriority g d % 2 ^ 64
  agents : ∀ (controlling controlled : NiceAgent) (loc remote loc' remote' : NiceCandidate),
    controlling.controllingMode = true → controlled.controllingMode = false →
    loc.priority = g → remote.priority = d → loc'.priority = d → remote'.priority = g →
      agentCandidatePairPriority controlling loc remote =
        agentCandidatePairPriority controlled loc' remote'
  order : ∀ g' d' : UInt32, g.toNat < 2 ^ 31 → d.toNat < 2 ^ 31 → g'.toNat < 2 ^ 31 →
    d'.toNat < 2 ^ 31 →
      (niceCandidatePairPriority g d < niceCandidatePairPriority g' d' ↔
        minPrio g d < minPrio g' d' ∨ minPrio g d = minPrio g' d' ∧
          (max g.toNat d.toNat < max g'.toNat d'.toNat ∨
            max g.toNat d.toNat = max g'.toNat d'.toNat ∧ tieBit g d < tieBit g' d'))

/-- A priority below `2 ^ 31` can be doubled in 32 bits. -/
lemma maxPrio_of_lt {g d : UInt32} (hg : g.toNat < 2 ^ 31) (hd : d.toNat < 2 ^ 31) :
    maxPrio g d = 2 * max g.toNat d.toNat := by
  rw [maxPrio, Nat.mod_eq_of_lt]
  omega

/-- **The two agents agree**, whatever the priorities are. -/
lemma agentCandidatePairPriority_agree {controlling controlled : NiceAgent}
    {loc remote loc' remote' : NiceCandidate} (hc : controlling.controllingMode = true)
    (hd : controlled.controllingMode = false) (hl : remote'.priority = loc.priority)
    (hr : loc'.priority = remote.priority) :
    agentCandidatePairPriority controlling loc remote =
      agentCandidatePairPriority controlled loc' remote' := by
  rw [agentCandidatePairPriority, agentCandidatePairPriority, hc, hd, hl, hr]
  rfl

/-- The doubled priority is the exact one just below `2 ^ 31`. -/
lemma pairPriority_value_iff (g d : UInt32) :
    (niceCandidatePairPriority g d).toNat = exactPairPriority g d % 2 ^ 64 ↔
      g.toNat < 2 ^ 31 ∧ d.toNat < 2 ^ 31 := by
  have hg := g.toNat_lt
  have hd := d.toNat_lt
  have htie : tieBit g d ≤ 1 := by
    unfold tieBit
    split <;> omega
  have hmin := minPrio_lt g d
  rw [niceCandidatePairPriority_toNat, exactPairPriority]
  constructor
  · intro h
    by_contra hbig
    -- the doubled priority has lost `2 ^ 32`
    have hlost : maxPrio g d + 2 ^ 32 = 2 * max g.toNat d.toNat := by
      unfold maxPrio
      omega
    rw [minPrio] at h hmin
    omega
  · rintro ⟨hg', hd'⟩
    rw [maxPrio_of_lt hg' hd', Nat.mod_eq_of_lt] <;> rw [minPrio] at * <;> omega

/-- **The priority of a pair is the exact one just for priorities below `2 ^ 31`.** -/
theorem priorityAgreed_iff (g d : UInt32) :
    PriorityAgreed g d ↔ g.toNat < 2 ^ 31 ∧ d.toNat < 2 ^ 31 := by
  constructor
  · exact fun h => (pairPriority_value_iff g d).mp h.value
  · intro h
    refine ⟨(pairPriority_value_iff g d).mpr h, ?_, ?_⟩
    · intro controlling controlled loc remote loc' remote' hc hd hl hr hl' hr'
      exact agentCandidatePairPriority_agree hc hd (by rw [hl, hr']) (by rw [hr, hl'])
    · intro g' d' hg hd hg' hd'
      have ht : tieBit g d ≤ 1 := by unfold tieBit; split <;> omega
      have ht' : tieBit g' d' ≤ 1 := by unfold tieBit; split <;> omega
      rw [niceCandidatePairPriority_lt_iff, maxPrio_of_lt hg hd, maxPrio_of_lt hg' hd']
      constructor
      · rintro (h | ⟨h, h'⟩) <;> omega
      · rintro (h | ⟨h, h' | ⟨h', h''⟩⟩) <;> omega

/-- The doubled priority of a remote candidate with the priority `2 ^ 31` is lost. -/
theorem priority_doubled_away : ¬PriorityAgreed 0 0x80000000 := fun h =>
  absurd h.value (by decide)

end LibNice.Ice
