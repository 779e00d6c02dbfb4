import LibNice.Ice.CheckList
import LibNice.Ice.Priority
import LibNice.Ice.Username

/-!
`conn_check_send` and `priv_conn_check_initiate` (`agent/conncheck.c`): a connectivity check is
built and sent.

* `connCheckSend`: the function, over the parts of it that are functions of their own.
* `Frame`: what such a step leaves alone, in the agent at large.
* `CanSend`: the check of a pair can be built, and its STUN agent can remember it.
* `connCheckSend_sent`, `connCheckSend_unsent`: what becomes of the pair, in either case.
-/

namespace LibNice.Ice

open LibNice.Foundation LibNice.Stun

/-! ### The functions -/

/-- `agent_find_component`: the stream, if it has the component. -/
def agentFindComponent (agent : NiceAgent) (sid : StreamId) (cid : ComponentId) :
    Option StreamId :=
  (agentFindStream agent sid).filter fun s => cid ∈ (agent.stream s).components

/-- A store of the component `cid` of the stream `sid`. -/
def NiceAgent.setComponent (agent : NiceAgent) (sid : StreamId) (cid : ComponentId)
    (component : Component) : NiceAgent :=
  { agent with
    stream := Function.update agent.stream sid
      { agent.stream sid with
        component := Function.update (agent.stream sid).component cid component } }

/-- `priv_get_password`. -/
def privGetPassword (agent : NiceAgent) (stream : Option Stream) (remote : Option NiceCandidate) :
    Option Bytes :=
  if agent.compatibility = .google then none
  else (remote.bind (·.password)).or (stream.map (·.remotePassword))

/-- `peer_reflexive_candidate_priority`. -/
def peerReflexiveCandidatePriority (agent : NiceAgent) (loc : NiceCandidate) : UInt32 :=
  candidatePriority agent.compatibility agent.reliable { loc with type := .peerReflexive } false

/-- The username of the check of a pair in the stream `sid`. -/
def checkUsername (env : Env) (agent : NiceAgent) (sid : StreamId) (pair : CandidateCheckPair) :
    Bytes :=
  privCreateUsername env agent (some (agent.stream sid)) pair.componentId
    (some (agent.candidate pair.remoteCand)) (some (agent.candidate pair.localCand))
    NICE_STREAM_MAX_UNAME false

/-- Its password. -/
def checkPassword (env : Env) (agent : NiceAgent) (sid : StreamId) (pair : CandidateCheckPair) :
    Option Bytes :=
  let password := privGetPassword agent (some (agent.stream sid))
    (some (agent.candidate pair.remoteCand))
  if agent.compatibility = .msn ∨ agent.compatibility = .oc2007 then
    password.map env.base64Decode
  else password

/-- The check of a pair, as `stun_usage_ice_conncheck_create` builds it for the STUN agent of its
component. -/
def createCheck (env : Env) (agent : NiceAgent) (sid : StreamId) (pair : CandidateCheckPair) :
    IceMessage × Option StunAgent :=
  stunUsageIceConncheckCreate ((agent.stream sid).component pair.componentId).stunAgent
    (env.transid agent.transids) STUN_MAX_MESSAGE_SIZE_IPV6 (checkUsername env agent sid pair)
    (checkPassword env agent sid pair) agent.controllingMode agent.controllingMode
    (peerReflexiveCandidatePriority agent (agent.candidate pair.localCand)) agent.tieBreaker
    (some (agent.candidate pair.localCand).foundation)
    (agentToIceCompatibility agent.compatibility)

/-- The socket of a check: a TCP-ACTIVE candidate has to connect a new one. -/
def checkSocket (env : Env) (agent : NiceAgent) (pair : CandidateCheckPair) :
    Option NiceSocket :=
  pair.sockptr.map fun sock =>
    if sock.fileno = false ∧ (agent.candidate pair.localCand).transport = .tcpActive then
      (env.tcpActiveSocketConnect sock (agent.candidate pair.remoteCand).addr).getD sock
    else sock

/-- The end of `conn_check_send`, with `stunAgent` the STUN agent that remembers the check. -/
def sendCheck (env : Env) (agent : NiceAgent) (sid : StreamId) (p : PairId)
    (pair : CandidateCheckPair) (msg : IceMessage) (stunAgent : StunAgent) : NiceAgent :=
  let component := (agent.stream sid).component pair.componentId
  let sock := checkSocket env agent pair
  let agent := (agent.setComponent sid pair.componentId { component with stunAgent }).setPair p
    { pair with stunMessage := some msg, sockptr := sock }
  { agent with
    transids := agent.transids + 1
    trace := agent.trace ++ [.send sock (agent.candidate pair.remoteCand).addr msg] }

/-- The pair that a check is sent for: a controlling agent nominates it. -/
def NiceAgent.checkPair (agent : NiceAgent) (p : PairId) : CandidateCheckPair :=
  { agent.pair p with nominated := agent.controllingMode || (agent.pair p).nominated }

/-- `conn_check_send`: the agent after it, and whether the check was sent. -/
def connCheckSend (env : Env) (agent : NiceAgent) (p : PairId) : NiceAgent × Bool :=
  match agentFindComponent agent (agent.pair p).streamId (agent.pair p).componentId with
  | none => (agent, false)
  | some sid =>
      let pair := agent.checkPair p
      if (checkUsername env agent sid pair).length > 0 then
        match createCheck env agent sid pair with
        | (msg, some stunAgent) => (sendCheck env agent sid p pair msg stunAgent, true)
        | (_, none) =>
            ({ agent.setPair p { pair with stunMessage := none } with
              transids := agent.transids + 1 }, false)
      else (agent.setPair p { pair with stunMessage := none }, false)

/-- `priv_conn_check_initiate`. -/
def privConnCheckInitiate (env : Env) (agent : NiceAgent) (p : PairId) : NiceAgent :=
  (connCheckSend env (agent.setPairState p .inProgress) p).1

/-! ### What is left alone -/

/-- The streams, the candidates and the settings of the agent are what they were, whatever became
of its pairs and its transactions; the trace has grown. -/
structure Frame (agent agent' : NiceAgent) : Prop where
  streams : agent'.streams = agent.streams
  list : ∀ s, (agent'.stream s).conncheckList = (agent.stream s).conncheckList
  nComponents : ∀ s, (agent'.stream s).nComponents = (agent.stream s).nComponents
  localUfrag : ∀ s, (agent'.stream s).localUfrag = (agent.stream s).localUfrag
  remoteUfrag : ∀ s, (agent'.stream s).remoteUfrag = (agent.stream s).remoteUfrag
  remotePassword : ∀ s, (agent'.stream s).remotePassword = (agent.stream s).remotePassword
  config : ∀ s c, ((agent'.stream s).component c).stunAgent.toStunAgentConfig =
    ((agent.stream s).component c).stunAgent.toStunAgentConfig
  localCandidates : ∀ s c, ((agent'.stream s).component c).localCandidates =
    ((agent.stream s).component c).localCandidates
  remoteCandidates : ∀ s c, ((agent'.stream s).component c).remoteCandidates =
    ((agent.stream s).component c).remoteCandidates
  candidate : agent'.candidate = agent.candidate
  owner : ∀ q, (agent'.pair q).streamId = (agent.pair q).streamId
  controllingMode : agent'.controllingMode = agent.controllingMode
  compatibility : agent'.compatibility = agent.compatibility
  trace : ∃ sent, agent'.trace = agent.trace ++ sent

lemma Frame.refl {agent : NiceAgent} : Frame agent agent :=
  ⟨by rfl, fun _ => by rfl, fun _ => by rfl, fun _ => by rfl, fun _ => by rfl, fun _ => by rfl,
    fun _ _ => by rfl, fun _ _ => by rfl, fun _ _ => by rfl, by rfl, fun _ => by rfl, by rfl,
    by rfl, [], by simp⟩

lemma Frame.trans {a b c : NiceAgent} (h : Frame a b) (h' : Frame b c) : Frame a c := by
  obtain ⟨sent, hsent⟩ := h.trace
  obtain ⟨sent', hsent'⟩ := h'.trace
  exact ⟨h'.streams.trans h.streams, fun s => (h'.list s).trans (h.list s),
    fun s => (h'.nComponents s).trans (h.nComponents s),
    fun s => (h'.localUfrag s).trans (h.localUfrag s),
    fun s => (h'.remoteUfrag s).trans (h.remoteUfrag s),
    fun s => (h'.remotePassword s).trans (h.remotePassword s),
    fun s c => (h'.config s c).trans (h.config s c),
    fun s c => (h'.localCandidates s c).trans (h.localCandidates s c),
    fun s c => (h'.remoteCandidates s c).trans (h.remoteCandidates s c),
    h'.candidate.trans h.candidate, fun q => (h'.owner q).trans (h.owner q),
    h'.controllingMode.trans h.controllingMode, h'.compatibility.trans h.compatibility,
    sent ++ sent', by rw [hsent', hsent, List.append_assoc]⟩

section Frames

variable {env : Env} {agent agent' : NiceAgent} {sid : StreamId} {cid : ComponentId} {p : PairId}
  {pair : CandidateCheckPair}

lemma Frame.components (h : Frame agent agent') :
    (agent'.stream sid).components = (agent.stream sid).components := by
  rw [Stream.components, Stream.components, h.nComponents]

/-- A store of the pair `p`, which stays in its stream. -/
lemma Frame.setPair (h : pair.streamId = (agent.pair p).streamId) :
    Frame agent (agent.setPair p pair) := by
  refine ⟨rfl, fun _ => rfl, fun _ => rfl, fun _ => rfl, fun _ => rfl, fun _ => rfl,
    fun _ _ => rfl, fun _ _ => rfl, fun _ _ => rfl, rfl, fun q => ?_, rfl, rfl, [],
    by simp [NiceAgent.setPair]⟩
  by_cases hq : q = p
  · subst hq
    rw [setPair_pair_self, h]
  · rw [setPair_pair_of_ne hq]

lemma Frame.setPairState {state : NiceCheckState} : Frame agent (agent.setPairState p state) :=
  .setPair rfl

@[simp] lemma setComponent_pair {component : Component} :
    (agent.setComponent sid cid component).pair = agent.pair := rfl

lemma setComponent_component_self {component : Component} :
    ((agent.setComponent sid cid component).stream sid).component cid = component := by
  simp [NiceAgent.setComponent]

lemma setComponent_component_of_ne {component : Component} {s : StreamId} {c : ComponentId}
    (h : (s, c) ≠ (sid, cid)) :
    ((agent.setComponent sid cid component).stream s).component c =
      (agent.stream s).component c := by
  by_cases hs : s = sid
  · subst hs
    have hc : c ≠ cid := fun hc => h (by rw [hc])
    simp [NiceAgent.setComponent, hc]
  · simp [NiceAgent.setComponent, hs]

lemma setComponent_stream {component : Component} (s : StreamId) :
    ∃ f, (agent.setComponent sid cid component).stream s =
      { agent.stream s with component := f } := by
  by_cases hs : s = sid
  · subst hs
    exact ⟨Function.update (agent.stream s).component cid component,
      by simp [NiceAgent.setComponent]⟩
  · exact ⟨(agent.stream s).component, by simp [NiceAgent.setComponent, hs]⟩

/-- A store of a component that keeps its candidates, and the configuration of its STUN agent. -/
lemma Frame.setComponent {component : Component}
    (hconfig : component.stunAgent.toStunAgentConfig =
      ((agent.stream sid).component cid).stunAgent.toStunAgentConfig)
    (hlocal : component.localCandidates = ((agent.stream sid).component cid).localCandidates)
    (hremote : component.remoteCandidates = ((agent.stream sid).component cid).remoteCandidates) :
    Frame agent (agent.setComponent sid cid component) := by
  have hstream := @setComponent_stream agent sid cid component
  refine ⟨rfl, fun s => ?_, fun s => ?_, fun s => ?_, fun s => ?_, fun s => ?_, fun s c => ?_,
    fun s c => ?_, fun s c => ?_, rfl, fun _ => rfl, rfl, rfl, [],
    by simp [NiceAgent.setComponent]⟩
  · obtain ⟨f, hf⟩ := hstream s
    rw [hf]
  · obtain ⟨f, hf⟩ := hstream s
    rw [hf]
  · obtain ⟨f, hf⟩ := hstream s
    rw [hf]
  · obtain ⟨f, hf⟩ := hstream s
    rw [hf]
  · obtain ⟨f, hf⟩ := hstream s
    rw [hf]
  · by_cases hsc : (s, c) = (sid, cid)
    · obtain ⟨rfl, rfl⟩ := Prod.mk.inj hsc
      rw [setComponent_component_self, hconfig]
    · rw [setComponent_component_of_ne hsc]
  · by_cases hsc : (s, c) = (sid, cid)
    · obtain ⟨rfl, rfl⟩ := Prod.mk.inj hsc
      rw [setComponent_component_self, hlocal]
    · rw [setComponent_component_of_ne hsc]
  · by_cases hsc : (s, c) = (sid, cid)
    · obtain ⟨rfl, rfl⟩ := Prod.mk.inj hsc
      rw [setComponent_component_self, hremote]
    · rw [setComponent_component_of_ne hsc]

/-- Another STUN agent with the same configuration. -/
lemma Frame.setStunAgent {stunAgent : StunAgent}
    (h : stunAgent.toStunAgentConfig =
      ((agent.stream sid).component cid).stunAgent.toStunAgentConfig) :
    Frame agent (agent.setComponent sid cid
      { (agent.stream sid).component cid with stunAgent }) :=
  .setComponent h rfl rfl

/-- A check that is built leaves the configuration of the STUN agent. -/
lemma finishRequest_config {stun stun' : StunAgent} {id : StunTransactionId} {key : Option Bytes}
    (h : finishRequest stun id key = some stun') :
    stun'.toStunAgentConfig = stun.toStunAgentConfig := by
  rw [finishRequest] at h
  obtain ⟨idx, -, rfl⟩ := Option.map_eq_some_iff.mp h
  rfl

lemma conncheckCreate_config {stun stun' : StunAgent} {id : StunTransactionId} {bufferLen : ℕ}
    {username : Bytes} {password : Option Bytes} {candUse controlling : Bool} {priority : UInt32}
    {tie : UInt64} {candidateIdentifier : Option Bytes}
    {compatibility : StunUsageIceCompatibility}
    (h : (stunUsageIceConncheckCreate stun id bufferLen username password candUse controlling
      priority tie candidateIdentifier compatibility).2 = some stun') :
    stun'.toStunAgentConfig = stun.toStunAgentConfig := by
  rw [stunUsageIceConncheckCreate] at h
  dsimp only at h
  split at h
  · exact finishRequest_config h
  · cases h

lemma createCheck_config {msg : IceMessage} {stun : StunAgent}
    (h : createCheck env agent sid pair = (msg, some stun)) :
    stun.toStunAgentConfig =
      ((agent.stream sid).component pair.componentId).stunAgent.toStunAgentConfig :=
  conncheckCreate_config (congrArg Prod.snd h)

/-- A sent check, or the attempt to send one, leaves the rest of the agent alone. -/
lemma connCheckSend_frame (env : Env) (agent : NiceAgent) (p : PairId) :
    Frame agent (connCheckSend env agent p).1 := by
  rw [connCheckSend]
  cases hfind : agentFindComponent agent (agent.pair p).streamId (agent.pair p).componentId with
  | none => exact .refl
  | some sid =>
      dsimp only
      split
      · split
        next msg stun hcreate =>
          have hset := @Frame.setStunAgent agent sid (agent.pair p).componentId stun
            (createCheck_config hcreate)
          have hpair := hset.trans (@Frame.setPair _ p
            { agent.checkPair p with
              stunMessage := some msg
              sockptr := checkSocket env agent (agent.checkPair p) } rfl)
          obtain ⟨sent, hsent⟩ := hpair.trace
          exact { hpair with trace := ⟨sent ++ _, by rw [← List.append_assoc, ← hsent]; rfl⟩ }
        next =>
          have hpair := @Frame.setPair agent p { agent.checkPair p with stunMessage := none } rfl
          exact { hpair with trace := hpair.trace }
      · exact .setPair rfl

lemma connCheckSend_pair_of_ne {q : PairId} (h : q ≠ p) :
    (connCheckSend env agent p).1.pair q = agent.pair q := by
  rw [connCheckSend]
  cases hfind : agentFindComponent agent (agent.pair p).streamId (agent.pair p).componentId with
  | none => rfl
  | some sid =>
      dsimp only
      split
      · split
        · exact setPair_pair_of_ne h
        · exact setPair_pair_of_ne h
      · exact setPair_pair_of_ne h

/-- What becomes of the pair of a check, whether it is sent or not. -/
lemma connCheckSend_pair (env : Env) (agent : NiceAgent) (p : PairId) :
    (connCheckSend env agent p).1.pair p = agent.pair p ∨
      ∃ msg sock, (connCheckSend env agent p).1.pair p =
        { agent.checkPair p with stunMessage := msg, sockptr := sock } := by
  rw [connCheckSend]
  cases hfind : agentFindComponent agent (agent.pair p).streamId (agent.pair p).componentId with
  | none => exact .inl rfl
  | some sid =>
      right
      dsimp only
      split
      · split
        · exact ⟨_, _, setPair_pair_self⟩
        · exact ⟨none, (agent.pair p).sockptr, setPair_pair_self⟩
      · exact ⟨none, (agent.pair p).sockptr, setPair_pair_self⟩

/-- Its state and its component do not change. -/
lemma connCheckSend_same (env : Env) (agent : NiceAgent) (p : PairId) :
    ((connCheckSend env agent p).1.pair p).state = (agent.pair p).state ∧
      ((connCheckSend env agent p).1.pair p).componentId = (agent.pair p).componentId := by
  rcases connCheckSend_pair env agent p with h | ⟨msg, sock, h⟩
  · rw [h]
    exact ⟨rfl, rfl⟩
  · rw [h]
    exact ⟨rfl, rfl⟩

/-- A check leaves the other components alone. -/
lemma connCheckSend_component_of_ne {s : StreamId} {c : ComponentId}
    (h : (s, c) ≠ ((agent.pair p).streamId, (agent.pair p).componentId)) :
    ((connCheckSend env agent p).1.stream s).component c = (agent.stream s).component c := by
  rw [connCheckSend]
  cases hfind : agentFindComponent agent (agent.pair p).streamId (agent.pair p).componentId with
  | none => rfl
  | some sid =>
      obtain ⟨hstream, -⟩ := Option.filter_eq_some_iff.mp hfind
      have hsid : sid = (agent.pair p).streamId := by
        rw [agentFindStream] at hstream
        simpa using List.find?_some hstream
      dsimp only
      split
      · split
        · exact setComponent_component_of_ne (hsid ▸ h)
        · rfl
      · rfl

end Frames

/-! ### Whether a check is sent -/

/-- The STUN agent has a free slot for a transaction. -/
def HasSlot (stun : StunAgent) : Prop := (freeSentId stun .request).isSome = true

/-- There are credentials for the check of a pair, and room for its attributes. -/
structure Buildable (env : Env) (agent : NiceAgent) (sid : StreamId) (pair : CandidateCheckPair) :
    Prop where
  username : checkUsername env agent sid pair ≠ []
  room : (builtLength ((agent.stream sid).component pair.componentId).stunAgent.toStunAgentConfig
    STUN_MAX_MESSAGE_SIZE_IPV6
    (checkLengths (checkUsername env agent sid pair) agent.controllingMode
        (some (agent.candidate pair.localCand).foundation)
        (agentToIceCompatibility agent.compatibility) ++
      finishLengths ((agent.stream sid).component pair.componentId).stunAgent.toStunAgentConfig
        (checkPassword env agent sid pair).isSome)).isSome = true

/-- The check of a pair can be built, and its transaction remembered. -/
structure CanSend (env : Env) (agent : NiceAgent) (sid : StreamId) (pair : CandidateCheckPair) :
    Prop where
  buildable : Buildable env agent sid pair
  slot : HasSlot ((agent.stream sid).component pair.componentId).stunAgent

section Send

variable {env : Env} {agent agent' : NiceAgent} {sid : StreamId} {p : PairId}
  {pair pair' : CandidateCheckPair}

lemma createCheck_isSome (hroom : Buildable env agent sid pair) :
    (createCheck env agent sid pair).2.isSome = true ↔
      HasSlot ((agent.stream sid).component pair.componentId).stunAgent := by
  rw [createCheck, stunUsageIceConncheckCreate]
  dsimp only
  rw [if_pos hroom.room, finishRequest, Option.isSome_map, HasSlot]

lemma createCheck_none (huser : checkUsername env agent sid pair ≠ [])
    (hroom : ¬Buildable env agent sid pair) : (createCheck env agent sid pair).2 = none := by
  rw [createCheck, stunUsageIceConncheckCreate]
  dsimp only
  rw [if_neg fun h => hroom ⟨huser, h⟩]

/-- **A check that can be sent** is sent: its pair has the message, and is nominated by a
controlling agent. -/
lemma connCheckSend_sent
    (hfind : agentFindComponent agent (agent.pair p).streamId (agent.pair p).componentId = some sid)
    (h : CanSend env agent sid (agent.pair p)) :
    ∃ msg sock, (connCheckSend env agent p).1.pair p =
        { agent.checkPair p with stunMessage := some msg, sockptr := sock } ∧
      (connCheckSend env agent p).1.trace = agent.trace ++
        [.send sock (agent.candidate (agent.pair p).remoteCand).addr msg] := by
  have huser : (checkUsername env agent sid (agent.checkPair p)).length > 0 :=
    List.length_pos_iff.mpr h.buildable.username
  obtain ⟨stun, hstun⟩ := Option.isSome_iff_exists.mp ((createCheck_isSome h.buildable).mpr h.slot)
  have hcreate : createCheck env agent sid (agent.checkPair p) =
      ((createCheck env agent sid (agent.pair p)).1, some stun) := by
    rw [← hstun]
    rfl
  rw [connCheckSend, hfind]
  dsimp only
  rw [if_pos huser, hcreate]
  exact ⟨_, _, setPair_pair_self, rfl⟩

/-- A check that cannot be sent is cancelled: its pair has no message. -/
lemma connCheckSend_unsent
    (hfind : agentFindComponent agent (agent.pair p).streamId (agent.pair p).componentId = some sid)
    (h : ¬CanSend env agent sid (agent.pair p)) :
    ((connCheckSend env agent p).1.pair p).stunMessage = none := by
  have hsame : checkUsername env agent sid (agent.checkPair p) =
      checkUsername env agent sid (agent.pair p) := rfl
  rw [connCheckSend, hfind]
  dsimp only
  rw [hsame]
  by_cases huser : checkUsername env agent sid (agent.pair p) = []
  · rw [huser, if_neg (by simp)]
    exact congrArg (·.stunMessage) setPair_pair_self
  · have hnone : (createCheck env agent sid (agent.pair p)).2 = none := by
      by_cases hroom : Buildable env agent sid (agent.pair p)
      · have hslot : ¬HasSlot
            ((agent.stream sid).component (agent.pair p).componentId).stunAgent :=
          fun hslot => h ⟨hroom, hslot⟩
        rw [← createCheck_isSome hroom] at hslot
        simpa using hslot
      · exact createCheck_none huser hroom
    have hcreate : createCheck env agent sid (agent.checkPair p) =
        ((createCheck env agent sid (agent.pair p)).1, none) := by
      rw [← hnone]
      rfl
    rw [if_pos (List.length_pos_iff.mpr huser), hcreate]
    exact congrArg (·.stunMessage) setPair_pair_self

/-- The username of a check depends on what a step leaves alone. -/
lemma Frame.checkUsername (h : Frame agent agent')
    (hc : pair'.componentId = pair.componentId) (hloc : pair'.localCand = pair.localCand)
    (hrem : pair'.remoteCand = pair.remoteCand) :
    checkUsername env agent' sid pair' = checkUsername env agent sid pair := by
  unfold LibNice.Ice.checkUsername privCreateUsername
  simp only [Option.map_some, h.localUfrag, h.remoteUfrag, h.candidate, h.compatibility, hc, hloc,
    hrem]

lemma Frame.checkPassword (h : Frame agent agent') (hrem : pair'.remoteCand = pair.remoteCand) :
    checkPassword env agent' sid pair' = checkPassword env agent sid pair := by
  unfold LibNice.Ice.checkPassword privGetPassword
  simp only [Option.map_some, h.remotePassword, h.candidate, h.compatibility, hrem]

/-- So does whether it can be built. -/
lemma Frame.buildable (h : Frame agent agent')
    (hc : pair'.componentId = pair.componentId) (hloc : pair'.localCand = pair.localCand)
    (hrem : pair'.remoteCand = pair.remoteCand) :
    Buildable env agent' sid pair' ↔ Buildable env agent sid pair := by
  have huser := @Frame.checkUsername env agent agent' sid pair pair' h hc hloc hrem
  have hpass := @Frame.checkPassword env agent agent' sid pair pair' h hrem
  constructor
  · rintro ⟨hne, hroom⟩
    rw [huser] at hne hroom
    rw [hc, hloc, h.config, hpass, h.controllingMode, h.candidate, h.compatibility] at hroom
    exact ⟨hne, hroom⟩
  · rintro ⟨hne, hroom⟩
    refine ⟨huser ▸ hne, ?_⟩
    rw [huser, hc, hloc, h.config, hpass, h.controllingMode, h.candidate, h.compatibility]
    exact hroom

end Send

end LibNice.Ice
