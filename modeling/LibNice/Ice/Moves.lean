import LibNice.Ice.CheckResponse
import LibNice.Ice.FailedComponents
import LibNice.Ice.Nomination
import LibNice.Ice.RemoteFoundations
import Mathlib.Logic.Relation

/-!
What the functions of `agent/conncheck.c` and `agent/discovery.c` do to the check lists of an agent,
said once.

* `Elsewhere`: a store that touches neither pairs nor lists, nor sends anything.
* `SameCheck`: a pair that is another check of the same candidates.
* `Asks`: a request that is made now.
* `Move`: a store elsewhere, a packet, a store into a pair, a request, a new pair, pairs that are
  taken from a list, or another candidate.  The role of the agent is not changed by any of them.
* `Moves`: some of them in a row; each function of the source is one such row.

What holds of every move holds of every function.
-/

namespace LibNice.Ice

open LibNice.Foundation LibNice.Stun

/-! ### Moves -/

/-- A store that touches neither pairs nor lists, and no candidate that there is. -/
structure Elsewhere (a b : NiceAgent) : Prop where
  controllingMode : b.controllingMode = a.controllingMode
  tieBreaker : b.tieBreaker = a.tieBreaker
  streams : b.streams = a.streams
  pair : b.pair = a.pair
  nextPair : b.nextPair = a.nextPair
  list : ∀ s, (b.stream s).conncheckList = (a.stream s).conncheckList
  candidate : ∀ c < a.nextCandidate, b.candidate c = a.candidate c
  nextCandidate : a.nextCandidate ≤ b.nextCandidate
  transids : a.transids ≤ b.transids
  trace : b.trace = a.trace

/-- The pair `y` is a check of the same candidates as `x`. -/
structure SameCheck (x y : CandidateCheckPair) : Prop where
  streamId : y.streamId = x.streamId
  componentId : y.componentId = x.componentId
  localCand : y.localCand = x.localCand
  remoteCand : y.remoteCand = x.remoteCand
  foundation : y.foundation = x.foundation
  controlling : y.controlling = x.controlling
  priority : y.priority = x.priority

/-- A request that the agent makes now: it has the next transaction id, and claims no other role
than that of the agent. -/
structure Asks (env : Env) (agent : NiceAgent) (msg : IceMessage) : Prop where
  cls : msg.cls = .request
  id : msg.id = env.transid agent.transids
  role : ∀ control q, msg.role control = some q →
    control = agent.controllingMode ∧ q = agent.tieBreaker

/-- A pair that is made now, of two candidates. -/
structure Made (agent : NiceAgent) (sid : StreamId) (pair : CandidateCheckPair) : Prop where
  streamId : pair.streamId = sid
  controlling : pair.controlling = agent.controllingMode
  stunMessage : pair.stunMessage = none
  foundation : pair.foundation = ((agent.candidate pair.localCand).foundation ++ [colon] ++
    (agent.candidate pair.remoteCand).foundation).take (NICE_CANDIDATE_PAIR_MAX_FOUNDATION - 1)
  priority : pair.priority = agentCandidatePairPriority agent (agent.candidate pair.localCand)
    (agent.candidate pair.remoteCand)

/-- The agent with a new pair in the sorted list. -/
def withPair (agent : NiceAgent) (sid : StreamId) (pair : CandidateCheckPair) : NiceAgent :=
  let p := agent.nextPair
  let agent : NiceAgent := { agent.setPair p pair with nextPair := p + 1 }
  agent.setCheckList sid (insertPair agent (agent.stream sid).conncheckList p)

/-- One thing that a function does, which may send what `replies` holds of. -/
inductive Move (env : Env) (replies : IceMessage → Prop) : NiceAgent → NiceAgent → Prop where
  | elsewhere {a b} : Elsewhere a b → Move env replies a b
  | signal {a} (event : Trace) : (∀ control, event ≠ .roleConflict control) →
      (∀ sock addr msg, event = .send sock addr msg → msg.cls = .indication ∨ replies msg) →
      Move env replies a (a.emit event)
  | store {a} (p : PairId) (pair : CandidateCheckPair) : SameCheck (a.pair p) pair →
      pair.stunMessage = none ∨ pair.stunMessage = (a.pair p).stunMessage →
      Move env replies a (a.setPair p pair)
  | ask {a} (p : PairId) (pair : CandidateCheckPair) (sock : Option NiceSocket)
      (addr : NiceAddress) (msg : IceMessage) : Asks env a msg → SameCheck (a.pair p) pair →
      pair.stunMessage = some msg →
      Move env replies a
        ({ a.setPair p pair with transids := a.transids + 1 }.emit (.send sock addr msg))
  | keepalive {a} (sock : Option NiceSocket) (addr : NiceAddress) (msg : IceMessage) :
      Asks env a msg →
      Move env replies a ({ a with transids := a.transids + 1 }.emit (.send sock addr msg))
  | resend {a} (sid : StreamId) (p : PairId) (sock : Option NiceSocket) (addr : NiceAddress)
      (msg : IceMessage) : p ∈ (a.stream sid).conncheckList → (a.pair p).stunMessage = some msg →
      Move env replies a (a.emit (.send sock addr msg))
  | insert {a} (sid : StreamId) (pair : CandidateCheckPair) : Made a sid pair →
      Move env replies a (withPair a sid pair)
  | filter {a} (sid : StreamId) (keep : PairId → Bool) :
      Move env replies a (a.setCheckList sid ((a.stream sid).conncheckList.filter keep))
  | update {a} (c : CandidateId) (candidate : NiceCandidate) :
      Move env replies a { a with candidate := Function.update a.candidate c candidate }

/-- Some of them in a row. -/
abbrev Moves (env : Env) (replies : IceMessage → Prop) : NiceAgent → NiceAgent → Prop :=
  Relation.ReflTransGen (Move env replies)

section Moves

variable {env : Env} {replies : IceMessage → Prop} {a b c : NiceAgent} {sid : StreamId}
  {cid : ComponentId} {p : PairId}

lemma Elsewhere.moves (h : Elsewhere a b) : Moves env replies a b := .single (.elsewhere h)

/-- A loop of moves. -/
lemma Moves.foldl {α β : Type} {f : β → α → β} {g : β → NiceAgent}
    (hf : ∀ acc x, Moves env replies (g acc) (g (f acc x))) (list : List α) :
    ∀ acc, Moves env replies (g acc) (g (list.foldl f acc)) := by
  induction list with
  | nil => exact fun _ => .refl
  | cons x list ih => exact fun acc => (hf acc x).trans (ih (f acc x))

/-- More may be sent. -/
lemma Moves.mono {replies' : IceMessage → Prop} (hr : ∀ msg, replies msg → replies' msg)
    (h : Moves env replies a b) : Moves env replies' a b := by
  refine Relation.ReflTransGen.mono (fun x y hmove => ?_) _ _ h
  cases hmove with
  | elsewhere h => exact .elsewhere h
  | signal event hrole hsend =>
      exact .signal event hrole fun sock addr msg h => (hsend sock addr msg h).imp_right (hr msg)
  | store p pair h hmsg => exact .store p pair h hmsg
  | ask p pair sock addr msg hasks h hmsg => exact .ask p pair sock addr msg hasks h hmsg
  | keepalive sock addr msg hasks => exact .keepalive sock addr msg hasks
  | resend sid p sock addr msg hp h => exact .resend sid p sock addr msg hp h
  | insert sid pair h => exact .insert sid pair h
  | filter sid keep => exact .filter sid keep
  | update c candidate => exact .update c candidate

/-- A signal to the application. -/
def Trace.silent : Trace → Bool
  | .roleConflict _ | .send _ _ _ => false
  | _ => true

lemma signal_moves (event : Trace) (h : event.silent = true) :
    Moves env replies a (a.emit event) := by
  refine .single (.signal event (fun control he => ?_) fun sock addr msg he => ?_)
  · rw [he] at h
    cases h
  · rw [he] at h
    cases h

lemma SameCheck.refl {x : CandidateCheckPair} : SameCheck x x := ⟨rfl, rfl, rfl, rfl, rfl, rfl, rfl⟩

/-- A store into a component. -/
lemma setComponent_moves (component : Component) :
    Moves env replies a (a.setComponent sid cid component) := by
  refine Elsewhere.moves ⟨rfl, rfl, rfl, rfl, rfl, fun s => ?_, fun _ _ => rfl, le_rfl, le_rfl, rfl⟩
  obtain ⟨f, hf⟩ := @setComponent_stream a sid cid component s
  rw [hf]

lemma setPairState_moves (state : NiceCheckState) :
    Moves env replies a (a.setPairState p state) :=
  .single (.store p _ ⟨rfl, rfl, rfl, rfl, rfl, rfl, rfl⟩ (.inr rfl))

/-! ### Signals -/

lemma agentSignalComponentStateChange_moves (state : NiceComponentState) :
    Moves env replies a (agentSignalComponentStateChange a sid cid state) := by
  rw [agentSignalComponentStateChange]
  split
  · exact .refl
  · dsimp only
    split
    · exact (setComponent_moves _).trans (signal_moves _ rfl)
    · exact .refl

lemma agentSignalNewSelectedPair_moves (l r : CandidateId) :
    Moves env replies a (agentSignalNewSelectedPair a sid cid l r) := by
  rw [agentSignalNewSelectedPair]
  split
  · exact .refl
  · exact signal_moves _ rfl

lemma agentSignalInitialBindingRequestReceived_moves :
    Moves env replies a (agentSignalInitialBindingRequestReceived a sid) := by
  rw [agentSignalInitialBindingRequestReceived]
  split
  · exact .refl
  · refine Relation.ReflTransGen.trans (Elsewhere.moves (b := { a with
      stream := Function.update a.stream sid
        { a.stream sid with initialBindingRequestReceived := true } })
      ⟨rfl, rfl, rfl, rfl, rfl, fun s => ?_, fun _ _ => rfl, le_rfl, le_rfl, rfl⟩)
      (signal_moves (.initialBindingRequestReceived sid) rfl)
    rcases eq_or_ne s sid with rfl | hs
    · simp
    · simp [hs]

/-! ### Checks -/

/-- The message that `stun_usage_ice_conncheck_create` makes for the agent. -/
lemma checkMessage_asks {username : Bytes} {password : Option Bytes} {priority : UInt32}
    {candidateIdentifier : Option Bytes} {compatibility : StunUsageIceCompatibility} :
    Asks env a (checkMessage (env.transid a.transids) username password a.controllingMode
      a.controllingMode priority a.tieBreaker candidateIdentifier compatibility) := by
  refine ⟨rfl, rfl, fun control q hrole => ?_⟩
  rw [IceMessage.role, checkMessage] at hrole
  cases control <;> cases hmode : a.controllingMode <;> simp_all

lemma connCheckSend_moves : Moves env replies a (connCheckSend env a p).1 := by
  rw [connCheckSend]
  split
  · exact .refl
  next s hs =>
    have hnone (transids : ℕ) (hle : a.transids ≤ transids) : Moves env replies a
        { a.setPair p { a.checkPair p with stunMessage := none } with transids } :=
      Relation.ReflTransGen.tail (.single (.store p { a.checkPair p with stunMessage := none }
        ⟨rfl, rfl, rfl, rfl, rfl, rfl, rfl⟩ (.inl rfl)))
        (.elsewhere ⟨rfl, rfl, rfl, rfl, rfl, fun _ => rfl, fun _ _ => rfl, le_rfl, hle, rfl⟩)
    dsimp only
    split
    · split
      next msg stunAgent hcreate =>
        have hmsg := congrArg Prod.fst hcreate
        rw [createCheck, stunUsageIceConncheckCreate] at hmsg
        dsimp only at hmsg ⊢
        refine (@setComponent_moves env replies a s (a.checkPair p).componentId
          { (a.stream s).component (a.checkPair p).componentId with stunAgent }).tail ?_
        refine .ask p { a.checkPair p with
          stunMessage := some msg, sockptr := checkSocket env a (a.checkPair p) }
          _ _ msg ?_ ⟨rfl, rfl, rfl, rfl, rfl, rfl, rfl⟩ rfl
        rw [← hmsg]
        exact checkMessage_asks
      · exact hnone _ (Nat.le_succ _)
    · exact hnone _ le_rfl

lemma privConnCheckInitiate_moves : Moves env replies a (privConnCheckInitiate env a p) :=
  (setPairState_moves .inProgress).trans connCheckSend_moves

lemma forgetCheck_moves (id : StunTransactionId) : Moves env replies a (forgetCheck a sid cid id) :=
  setComponent_moves _

lemma candidateCheckPairFail_moves : Moves env replies a (candidateCheckPairFail a sid p) := by
  rw [candidateCheckPairFail]
  split
  next msg _ =>
    exact (@forgetCheck_moves env replies a sid (a.pair p).componentId msg.id).tail
      (.store p _ ⟨rfl, rfl, rfl, rfl, rfl, rfl, rfl⟩ (.inl rfl))
  · exact .single (.store p _ ⟨rfl, rfl, rfl, rfl, rfl, rfl, rfl⟩ (.inl rfl))

lemma prunePair_moves (highest : UInt64) (acc : NiceAgent × ℕ) :
    Moves env replies acc.1 (prunePair highest cid acc p).1 := by
  rw [prunePair]
  split_ifs
  · exact setPairState_moves _
  · exact .single (.store p _ ⟨rfl, rfl, rfl, rfl, rfl, rfl, rfl⟩ (.inl rfl))
  · exact .refl
  · exact .refl
  · exact .refl

lemma privUpdateCheckListStateForReady_moves :
    Moves env replies a (privUpdateCheckListStateForReady a sid cid) := by
  rw [privUpdateCheckListStateForReady]
  split
  · have hprune : Moves env replies a (privPrunePendingChecks a sid cid).1 :=
      @Moves.foldl env replies _ _ _ Prod.fst (fun acc q => prunePair_moves _ acc) _ (a, 0)
    dsimp only
    split
    · exact hprune.trans (agentSignalComponentStateChange_moves _)
    · exact hprune
  · exact .refl

lemma failComponent_moves : Moves env replies a (failComponent sid a cid) := by
  rw [failComponent]
  split
  · exact .refl
  · split
    · exact agentSignalComponentStateChange_moves _
    · exact .refl

lemma privUpdateCheckListFailedComponents_moves :
    Moves env replies a (privUpdateCheckListFailedComponents a sid) := by
  rw [privUpdateCheckListFailedComponents]
  split
  · exact .refl
  · split
    · exact .refl
    · exact @Moves.foldl env replies _ _ _ id (fun acc c => failComponent_moves) _ a

/-! ### Keepalives and the selected pair -/

lemma keepaliveCheck_moves (loc remote : NiceCandidate) :
    Moves env replies a (keepaliveCheck env a sid cid loc remote).1 := by
  rw [keepaliveCheck]
  dsimp only
  split
  · split
    next msg stunAgent hcreate =>
      have hmsg := congrArg Prod.fst hcreate
      rw [stunUsageIceConncheckCreate] at hmsg
      dsimp only at hmsg ⊢
      refine Relation.ReflTransGen.trans (@setComponent_moves env replies a sid cid
        { (a.stream sid).component cid with
          stunAgent
          selectedPair := { ((a.stream sid).component cid).selectedPair with
            keepalive := some msg, tick := true } }) ?_
      refine Relation.ReflTransGen.head (.elsewhere (b := { a.setComponent sid cid
        { (a.stream sid).component cid with
          stunAgent
          selectedPair := { ((a.stream sid).component cid).selectedPair with
            keepalive := some msg, tick := true } } with mediaAfterTick := false })
        ⟨rfl, rfl, rfl, rfl, rfl, fun _ => rfl, fun _ _ => rfl, le_rfl, le_rfl, rfl⟩)
        (.single (.keepalive _ _ msg ?_))
      rw [← hmsg]
      exact checkMessage_asks
    next msg _ =>
      refine Relation.ReflTransGen.tail (@setComponent_moves env replies a sid cid
        { (a.stream sid).component cid with
          selectedPair := { ((a.stream sid).component cid).selectedPair with
            keepalive := some msg } }) (.elsewhere ?_)
      exact ⟨rfl, rfl, rfl, rfl, rfl, fun _ => rfl, fun _ _ => rfl, le_rfl, Nat.le_succ _, rfl⟩
  · exact .refl

lemma keepaliveIndication_moves (loc remote : NiceCandidate) :
    Moves env replies a (keepaliveIndication env a sid cid loc remote).1 := by
  have hmade : Moves env replies a
      { a.setComponent sid cid
          { (a.stream sid).component cid with
            selectedPair := { ((a.stream sid).component cid).selectedPair with
              keepalive := some (stunUsageBindKeepalive (env.transid a.transids)) } } with
        transids := a.transids + 1 } :=
    (setComponent_moves _).tail (.elsewhere ⟨rfl, rfl, rfl, rfl, rfl, fun _ => rfl,
      fun _ _ => rfl, le_rfl, Nat.le_succ _, rfl⟩)
  rw [keepaliveIndication]
  dsimp only
  split
  · refine hmade.tail (.signal _ (by simp) fun sock addr msg h => .inl ?_)
    cases h
    rfl
  · exact hmade

lemma keepaliveComponent_moves (acc : NiceAgent × ℕ) :
    Moves env replies acc.1 (keepaliveComponent env acc sid cid).1 := by
  rw [keepaliveComponent]
  dsimp only
  split
  · split
    · exact .refl
    · split
      · exact keepaliveCheck_moves _ _
      · exact keepaliveIndication_moves _ _
  · exact .refl

lemma privConnKeepaliveTick_moves : Moves env replies a (privConnKeepaliveTick env a).1 :=
  @Moves.foldl env replies _ _ _ Prod.fst (fun acc _ =>
    @Moves.foldl env replies _ _ _ Prod.fst (fun acc _ => keepaliveComponent_moves acc) _ acc) _
    (a, 0)

lemma connCheckPruneSocket_moves (sock : Option NiceSocket) :
    Moves env replies a (connCheckPruneSocket a sid cid sock) := by
  have hloop (x : NiceAgent) (list : List PairId) : Moves env replies x
      (list.foldl (fun agent p =>
        if (agent.candidate (agent.pair p).localCand).sockptr = sock ∨
            (agent.candidate (agent.pair p).remoteCand).sockptr = sock then
          candidateCheckPairFail agent sid p
        else agent) x) := by
    refine @Moves.foldl env replies _ _ _ id (fun acc q => ?_) list x
    dsimp only [id]
    split
    · exact candidateCheckPairFail_moves
    · exact .refl
  rw [connCheckPruneSocket]
  split
  · exact (agentSignalComponentStateChange_moves _).trans (hloop _ _)
  · exact hloop _ _

lemma componentUpdateSelectedPair_moves (pair : CandidatePair) :
    Moves env replies a (componentUpdateSelectedPair a sid cid pair) := by
  rw [componentUpdateSelectedPair]
  split
  · exact setComponent_moves _
  · split
    · exact ((connCheckPruneSocket_moves _).trans (setComponent_moves _)).trans
        (setComponent_moves _)
    · exact setComponent_moves _

lemma privUpdateSelectedPair_moves :
    Moves env replies a (privUpdateSelectedPair env a sid cid p) := by
  rw [privUpdateSelectedPair]
  dsimp only
  split
  · split
    · exact ((componentUpdateSelectedPair_moves _).trans privConnKeepaliveTick_moves).trans
        (agentSignalNewSelectedPair_moves _ _)
    · exact .refl
  · exact .refl

/-! ### Nominations -/

lemma markPair_moves (remoteCand : CandidateId) :
    Moves env replies a (markPair env sid cid remoteCand a p) := by
  rw [markPair]
  dsimp only
  split
  · have hmark : Moves env replies a (a.setPair p { a.pair p with nominated := true }) :=
      .single (.store p _ ⟨rfl, rfl, rfl, rfl, rfl, rfl, rfl⟩ (.inr rfl))
    split
    · exact (hmark.trans privUpdateSelectedPair_moves).trans privUpdateCheckListStateForReady_moves
    · exact hmark.trans privUpdateCheckListStateForReady_moves
  · exact .refl

lemma privMarkPairNominated_moves (remoteCand : CandidateId) :
    Moves env replies a (privMarkPairNominated env a sid cid remoteCand) :=
  @Moves.foldl env replies _ _ _ id (fun _ _ => markPair_moves remoteCand) _ a

lemma tickPair_moves (clock : PairClock) (hp : p ∈ (a.stream sid).conncheckList) :
    Moves env replies a (tickPair clock sid a p).1 := by
  rw [tickPair]
  split
  · split
    · exact setPairState_moves _
    · exact .refl
    · exact candidateCheckPairFail_moves
    next msg hmsg _ => exact .single (.resend sid p _ _ msg hp hmsg)
    · exact .refl
  · exact .refl

lemma tickPairs_moves (clock : PairClock) (list : List PairId) :
    ∀ (a : NiceAgent) (counts : TickCounts), (∀ q ∈ list, q ∈ (a.stream sid).conncheckList) →
      Moves env replies a (tickPairs clock sid list (a, counts)).1 := by
  induction list with
  | nil => exact fun _ _ _ => .refl
  | cons q list ih =>
      intro a counts hlist
      refine (tickPair_moves clock (hlist q List.mem_cons_self)).trans (ih _ _ fun q' hq' => ?_)
      rw [(tickPair_ticked clock sid a q).frame.list]
      exact hlist q' (List.mem_cons_of_mem _ hq')

lemma nominateComponent_moves : Moves env replies a (nominateComponent env sid a cid) := by
  rw [nominateComponent]
  split
  next q _ =>
    refine Relation.ReflTransGen.trans (.single ?_) privConnCheckInitiate_moves
    exact .store q _ ⟨rfl, rfl, rfl, rfl, rfl, rfl, rfl⟩ (.inr rfl)
  · exact .refl

lemma privConnCheckTickStream_moves (clock : PairClock) :
    Moves env replies a (privConnCheckTickStream env clock a sid).1 := by
  have hfirst := @tickPairs_moves env replies sid clock (a.stream sid).conncheckList a
    ⟨false, 0, 0, 0⟩ fun _ hq => hq
  rw [privConnCheckTickStream]
  generalize tickPairs clock sid (a.stream sid).conncheckList (a, ⟨false, 0, 0, 0⟩) = ticked
    at hfirst ⊢
  obtain ⟨x, counts⟩ := ticked
  dsimp only
  split_ifs
  · exact hfirst.trans (@Moves.foldl env replies ComponentId NiceAgent (nominateComponent env sid) id
      (fun y c => @nominateComponent_moves env replies y sid c) _ x)
  · exact hfirst
  · exact hfirst

/-! ### Unfreezing -/

lemma privConnCheckUnfreezeNext_moves : Moves env replies a (privConnCheckUnfreezeNext a).2 := by
  rw [privConnCheckUnfreezeNext]
  split
  · exact setPairState_moves _
  · exact .refl

lemma unfreezeLoop_moves {okCheck : PairId} {eligible : StreamId → Bool} (list : List PairId)
    (acc : NiceAgent × ℕ) :
    Moves env replies acc.1 (list.foldl (unfreezeRound okCheck eligible) acc).1 := by
  refine @Moves.foldl env replies _ _ _ Prod.fst (fun acc q => ?_) list acc
  rw [unfreezeRound]
  split
  · exact setPairState_moves _
  · exact .refl

lemma unfreezeOthers_moves {okCheck : PairId} (streams : List StreamId) :
    ∀ acc : NiceAgent × ℕ,
      Moves env replies acc.1 (unfreezeOthers sid okCheck streams acc).1 := by
  induction streams with
  | nil => exact fun _ => .refl
  | cons s streams ih =>
      intro acc
      rw [unfreezeOthers]
      split
      · exact unfreezeLoop_moves _ _
      · exact (unfreezeLoop_moves _ _).trans (ih _)

lemma privConnCheckUnfreezeRelated_moves {okCheck : PairId}
    (h : privConnCheckUnfreezeRelated a sid okCheck = .ok b) : Moves env replies a b := by
  have hloop := @unfreezeLoop_moves env replies okCheck
    (fun t => t = (a.pair okCheck).streamId) (a.stream sid).conncheckList (a, 0)
  rw [privConnCheckUnfreezeRelated] at h
  split_ifs at h
  dsimp only at h
  generalize (a.stream sid).conncheckList.foldl (unfreezeRound okCheck fun t =>
    t = (a.pair okCheck).streamId) (a, 0) = acc at h hloop
  split at h
  · cases h
  next s _ =>
    obtain rfl := Except.ok.inj h
    have hothers : Moves env replies a (if streamAllComponentsReady (acc.1.stream s) then
        unfreezeOthers s okCheck acc.1.streams acc else acc).1 := by
      split
      · exact hloop.trans (unfreezeOthers_moves _ _)
      · exact hloop
    generalize (if streamAllComponentsReady (acc.1.stream s) then
      unfreezeOthers s okCheck acc.1.streams acc else acc) = others at hothers ⊢
    split
    · exact hothers.trans privConnCheckUnfreezeNext_moves
    · exact hothers

/-! ### New pairs -/

lemma limitPair_moves (limit : ℕ) (acc : NiceAgent × ℕ) :
    Moves env replies acc.1 (limitPair limit acc p).1 := by
  rw [limitPair]
  split_ifs
  · exact setPairState_moves _
  · exact .refl
  · exact .refl

lemma newCheckPair_made (l r : CandidateId) (state : NiceCheckState) (useCandidate : Bool) :
    Made a sid (newCheckPair a sid cid l r state useCandidate) :=
  ⟨rfl, rfl, rfl, rfl, rfl⟩

lemma privAddNewCheckPair_moves (l r : CandidateId) (state : NiceCheckState)
    (useCandidate : Bool) :
    Moves env replies a (privAddNewCheckPair a sid cid l r state useCandidate) := by
  have hinsert : Moves env replies a
      (withPair a sid (newCheckPair a sid cid l r state useCandidate)) :=
    .single (.insert sid _ (newCheckPair_made l r state useCandidate))
  rw [privAddNewCheckPair]
  dsimp only
  split
  · exact hinsert.trans
      (@Moves.foldl env replies _ _ _ Prod.fst (fun acc q => limitPair_moves _ acc) _ (_, 0))
  · exact hinsert

lemma addForCandidatePairMatched_moves (l r : CandidateId) (state : NiceCheckState) :
    Moves env replies a (privConnCheckAddForCandidatePairMatched a sid cid l r state) :=
  (privAddNewCheckPair_moves l r state false).trans (agentSignalComponentStateChange_moves _)

lemma connCheckAddForCandidatePair_moves (l r : CandidateId) :
    Moves env replies a (connCheckAddForCandidatePair a sid cid l r).1 := by
  rw [connCheckAddForCandidatePair]
  split_ifs
  · exact .refl
  · exact .refl
  · exact addForCandidatePairMatched_moves _ _ _
  · exact .refl

lemma connCheckAddForCandidate_moves (r : CandidateId) :
    Moves env replies a (connCheckAddForCandidate a sid cid r).1 :=
  @Moves.foldl env replies CandidateId (NiceAgent × ℕ) _ Prod.fst
    (fun acc l => @connCheckAddForCandidatePair_moves env replies acc.1 sid cid l r) _ (a, 0)

lemma connCheckAddForLocalCandidate_moves (l : CandidateId) :
    Moves env replies a (connCheckAddForLocalCandidate a sid cid l).1 :=
  @Moves.foldl env replies CandidateId (NiceAgent × ℕ) _ Prod.fst
    (fun acc r => @connCheckAddForCandidatePair_moves env replies acc.1 sid cid l r) _ (a, 0)

/-! ### Candidates -/

/-- A new candidate in a list of the component. -/
lemma newCandidate_moves (candidate : NiceCandidate) (component : Component) :
    Moves env replies a (NiceAgent.setComponent { a with
      candidate := Function.update a.candidate a.nextCandidate candidate
      nextCandidate := a.nextCandidate + 1 } sid cid component) := by
  refine Relation.ReflTransGen.trans (Elsewhere.moves (b := { a with
    candidate := Function.update a.candidate a.nextCandidate candidate
    nextCandidate := a.nextCandidate + 1 }) ?_) (setComponent_moves component)
  exact ⟨rfl, rfl, rfl, rfl, rfl, fun _ => rfl, fun c hc => Function.update_of_ne hc.ne _ _,
    Nat.le_succ _, le_rfl, rfl⟩

lemma discoveryLearnRemotePeerReflexiveCandidate_moves (priority : UInt32)
    (remoteAddress : NiceAddress) (nicesock : NiceSocket) (l r : Option CandidateId) :
    Moves env replies a (discoveryLearnRemotePeerReflexiveCandidate env a sid cid priority
      remoteAddress nicesock l r).1 :=
  (newCandidate_moves _ _).trans (signal_moves _ rfl)

lemma addLocalCandidate_moves (candidate : NiceCandidate)
    (finish : NiceCandidate → Option NiceCandidate) :
    Moves env replies a (addLocalCandidate a sid cid candidate finish).1 := by
  have hassign : Moves env replies a (privAssignFoundation a candidate).1 := by
    rw [privAssignFoundation]
    split
    · exact .refl
    · exact Elsewhere.moves ⟨rfl, rfl, rfl, rfl, rfl, fun _ => rfl, fun _ _ => rfl, le_rfl, le_rfl,
        rfl⟩
  rw [addLocalCandidate]
  split
  · exact .refl
  · dsimp only
    split
    · exact hassign
    · refine hassign.trans ?_
      rw [privAddLocalCandidatePruned]
      split
      · exact .refl
      · exact (newCandidate_moves _ _).trans (connCheckAddForLocalCandidate_moves _)

lemma privAddRemoteCandidate_moves (type : NiceCandidateType) (addr baseAddr : NiceAddress)
    (transport : NiceCandidateTransport) (priority : UInt32) (username password : Option Bytes)
    (foundation : Bytes) :
    Moves env replies a (privAddRemoteCandidate a sid cid type addr baseAddr transport priority
      username password foundation).1 := by
  rw [privAddRemoteCandidate]
  split
  · exact .refl
  · dsimp only
    split
    · exact Relation.ReflTransGen.head (.update _ _) (connCheckAddForCandidate_moves _)
    · split
      · exact .refl
      · exact (newCandidate_moves _ _).trans (connCheckAddForCandidate_moves _)

/-! ### Inbound checks -/

/-- A check that a controlling agent sends again. -/
lemma initiateIf_moves (h : Prop) [Decidable h] :
    Moves env replies a (if h then privConnCheckInitiate env a p else a) := by
  split
  · exact privConnCheckInitiate_moves
  · exact .refl

lemma triggerPair_moves : Moves env replies a (triggerPair env a sid cid p) := by
  rw [triggerPair]
  split
  · exact privConnCheckInitiate_moves
  · exact privConnCheckInitiate_moves
  · split
    · exact .single (.store p _ ⟨rfl, rfl, rfl, rfl, rfl, rfl, rfl⟩ (.inr rfl))
    · exact .refl
  · exact privUpdateCheckListStateForReady_moves.trans (initiateIf_moves _)
  · exact privUpdateCheckListStateForReady_moves.trans (initiateIf_moves _)
  · exact privConnCheckInitiate_moves
  · exact .refl

lemma privScheduleTriggeredCheck_moves (localSocket : NiceSocket) (r : CandidateId)
    (useCandidate : Bool) :
    Moves env replies a (privScheduleTriggeredCheck env a sid cid localSocket r useCandidate).1 := by
  rw [privScheduleTriggeredCheck]
  split
  · exact triggerPair_moves
  · split
    · exact privAddNewCheckPair_moves _ _ _ _
    · exact .refl

lemma privReplyToConnCheck_moves (rcand : Option CandidateId) (toaddr : NiceAddress)
    (sockptr : NiceSocket) (msg : Option IceMessage) (useCandidate : Bool)
    (hreply : ∀ m, msg = some m → replies m) :
    Moves env replies a
      (privReplyToConnCheck env a sid cid rcand toaddr sockptr msg useCandidate) := by
  have hscheduled (x : NiceAgent) : Moves env replies x
      (privReplyToConnCheck env x sid cid rcand toaddr sockptr none useCandidate) := by
    unfold privReplyToConnCheck
    cases rcand with
    | none => exact .refl
    | some rcand =>
        dsimp only
        split
        · exact (privScheduleTriggeredCheck_moves _ _ _).trans (privMarkPairNominated_moves _)
        · exact privScheduleTriggeredCheck_moves _ _ _
  cases msg with
  | none => exact hscheduled a
  | some m =>
      refine Relation.ReflTransGen.head (.signal (.send (some sockptr) toaddr m) (by simp)
        fun sock addr msg h => .inr ?_) (hscheduled _)
      cases h
      exact hreply m rfl

lemma requestCandidate_moves (nicesock : NiceSocket) (src : NiceAddress) (priority : UInt32)
    (cands : RequestCandidates) :
    Moves env replies a (requestCandidate env a sid cid nicesock src priority cands).1 := by
  rw [requestCandidate]
  split
  · dsimp only
    split
    · exact (discoveryLearnRemotePeerReflexiveCandidate_moves _ _ _ _ _).trans
        (addForCandidatePairMatched_moves _ _ _)
    · exact (discoveryLearnRemotePeerReflexiveCandidate_moves _ _ _ _ _).trans
        (connCheckAddForCandidate_moves _)
  · exact .refl

lemma acceptRequest_moves (nicesock : NiceSocket) (src : NiceAddress) (req : IceMessage)
    (cands : RequestCandidates) (reply : Option IceMessage)
    (hreply : ∀ m, reply = some m → replies m) :
    Moves env replies a (acceptRequest env a sid cid nicesock src req cands reply) := by
  have hlearned : Moves env replies a (requestCandidate env
      (agentSignalInitialBindingRequestReceived a sid) sid cid nicesock src
      (stunUsageIceConncheckPriority req) cands).1 :=
    agentSignalInitialBindingRequestReceived_moves.trans (requestCandidate_moves _ _ _ _)
  rw [acceptRequest]
  dsimp only
  split
  · exact (hlearned.trans (privReplyToConnCheck_moves _ _ _ _ _ hreply)).trans
      (setComponent_moves _)
  · exact hlearned.trans (privReplyToConnCheck_moves _ _ _ _ _ hreply)

/-! ### Answers -/

lemma withoutRequest_moves : Moves env replies a (withoutRequest a p) :=
  .single (.store p _ ⟨rfl, rfl, rfl, rfl, rfl, rfl, rfl⟩ (.inl rfl))

lemma pruneCancelledConnCheck_moves : Moves env replies a (pruneCancelledConnCheck a sid) :=
  .single (.filter sid _)

lemma privAddPeerReflexivePair_moves (l : CandidateId) :
    Moves env replies a (privAddPeerReflexivePair a sid cid l p).1 :=
  .single (.insert sid _ ⟨rfl, rfl, rfl, rfl, rfl⟩)

lemma selectAnswered_moves : Moves env replies a (selectAnswered env a sid cid p) := by
  rw [selectAnswered]
  split
  · dsimp only
    split
    · exact privUpdateSelectedPair_moves.trans (agentSignalComponentStateChange_moves _)
    · exact privUpdateSelectedPair_moves
  · exact .refl

/-- **The answer to a check**, up to the update of the state of the component. -/
lemma privAnswered_moves {sockptr : NiceSocket} {l r : Option CandidateId}
    {mapped : Option NiceAddress}
    (h : privAnswered env a sid cid p sockptr l r mapped = .ok b) : Moves env replies a b := by
  have hset (state : NiceCheckState) (x : NiceAgent) (hx : Moves env replies (withoutRequest a p) x) :
      Moves env replies a (x.setPairState p state) :=
    (withoutRequest_moves.trans hx).trans (setPairState_moves state)
  unfold privAnswered at h
  cases mapped with
  | none =>
      obtain ⟨y, hy, hb⟩ := bind_eq_ok.mp h
      obtain rfl := Except.ok.inj hb
      exact ((hset .succeeded _ .refl).trans (privConnCheckUnfreezeRelated_moves hy)).trans
        selectAnswered_moves
  | some mapped =>
      obtain ⟨⟨x, okPair⟩, hx, hb⟩ := bind_eq_ok.mp h
      obtain rfl := Except.ok.inj hb
      refine Relation.ReflTransGen.trans ?_ selectAnswered_moves
      rw [privProcessResponseCheckForPeerReflexive] at hx
      split at hx
      · obtain ⟨y, hy, hxy⟩ := bind_eq_ok.mp hx
        cases hxy
        exact (hset .succeeded _ .refl).trans (privConnCheckUnfreezeRelated_moves hy)
      · dsimp only at hx
        split at hx
        · cases hx
          exact (hset .failed _ (addLocalCandidate_moves _ _)).trans
            (privAddPeerReflexivePair_moves _)
        · cases hx

/-! ### The timer -/

/-- `priv_conn_check_find_next_waiting`. -/
def privConnCheckFindNextWaiting (agent : NiceAgent) (list : List PairId) : Option PairId :=
  list.find? fun p => (agent.pair p).state = .waiting

/-- The first half of `priv_conn_check_tick_unlocked`: a check is sent, or a frozen pair set going,
and whether there was one. -/
def sendNextCheck (env : Env) (agent : NiceAgent) : NiceAgent × Bool :=
  match agent.streams.findSome? fun sid =>
      privConnCheckFindNextWaiting agent (agent.stream sid).conncheckList with
  | some p => (privConnCheckInitiate env agent p, true)
  | none =>
      let (unfrozen, agent) := privConnCheckUnfreezeNext agent
      (agent, unfrozen)

/-- The update of the components of a stream, when there is no work left. -/
def settleStream (agent : NiceAgent) (sid : StreamId) : NiceAgent :=
  let agent := privUpdateCheckListFailedComponents agent sid
  (agent.stream sid).components.foldl (fun agent cid =>
    privUpdateCheckListStateForReady agent sid cid) agent

/-- `priv_conn_check_tick_unlocked`: the agent, and whether the timer keeps going. -/
def privConnCheckTick (env : Env) (clock : PairClock) (agent : NiceAgent) : NiceAgent × Bool :=
  let (agent, keepTimerGoing) := agent.streams.foldl (fun acc sid =>
    let (agent, res) := privConnCheckTickStream env clock acc.1 sid
    (agent, acc.2 || res)) (sendNextCheck env agent)
  if keepTimerGoing then (agent, true)
  else ({ agent.streams.foldl settleStream agent with conncheckTimer := false }, false)

lemma settleStream_moves : Moves env replies a (settleStream a sid) :=
  privUpdateCheckListFailedComponents_moves.trans
    (@Moves.foldl env replies _ _ _ id (fun _ _ => privUpdateCheckListStateForReady_moves) _ _)

lemma settleStreams_moves : Moves env replies a
    { a.streams.foldl settleStream a with conncheckTimer := false } :=
  (@Moves.foldl env replies StreamId NiceAgent settleStream id
    (fun x s => @settleStream_moves env replies x s) a.streams a).tail
    (.elsewhere ⟨rfl, rfl, rfl, rfl, rfl, fun _ => rfl, fun _ _ => rfl, le_rfl, le_rfl, rfl⟩)

/-- **The timer.** -/
lemma privConnCheckTick_moves (clock : PairClock) :
    Moves env replies a (privConnCheckTick env clock a).1 := by
  have hsend : Moves env replies a (sendNextCheck env a).1 := by
    rw [sendNextCheck]
    split
    · exact privConnCheckInitiate_moves
    · exact privConnCheckUnfreezeNext_moves
  have hticks := hsend.trans (@Moves.foldl env replies _ _
    (fun acc sid => ((privConnCheckTickStream env clock acc.1 sid).1,
      acc.2 || (privConnCheckTickStream env clock acc.1 sid).2)) Prod.fst
    (fun _ _ => privConnCheckTickStream_moves clock) a.streams (sendNextCheck env a))
  rw [privConnCheckTick]
  dsimp only
  split
  · exact hticks
  · exact hticks.trans settleStreams_moves

end Moves

end LibNice.Ice
