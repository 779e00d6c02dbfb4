import LibNice.Ice.InboundCheck
import LibNice.Ice.Unfreezing

/-!
Checks that `conn_check_handle_inbound_stun` answers with an error response.

* `Unchanged`: the role, the candidates, the stored checks, the check lists and the selected pairs
  of an agent are what they were.
* `Refuses`: a request is answered with a given error response.
* `LeavesAlone`: nothing comes of a request that is processed.
* `Wanes`, `Intact`: pairs are only nominated and only grow older, and in the end none has.
* `refused_unchanged_iff`: **a refused check changes nothing** exactly when the error is no role
  conflict, or nothing would have come of the check; `refused_check_stored` is one that is kept.
-/

namespace LibNice.Ice

open LibNice.Foundation LibNice.Stun

/-! ### What is asked for -/

/-- A packet is sent, or a pair is selected. -/
def Trace.isEffect : Trace → Bool
  | .send _ _ _ => true
  | .newSelectedPair _ _ _ _ => true
  | _ => false

/-- The packets that an agent has sent and the pairs that it has selected. -/
def effects (agent : NiceAgent) : List Trace := agent.trace.filter Trace.isEffect

/-- The role, the remote candidates, the stored checks, the check lists and the selected pairs of
the agent are what they were. -/
structure Unchanged (agent agent' : NiceAgent) : Prop where
  role : agent'.controllingMode = agent.controllingMode
  remoteCandidates : ∀ s c, ((agent'.stream s).component c).remoteCandidates =
    ((agent.stream s).component c).remoteCandidates
  candidate : ∀ s c, ∀ r ∈ ((agent.stream s).component c).remoteCandidates,
    agent'.candidate r = agent.candidate r
  incomingChecks : ∀ s c, ((agent'.stream s).component c).incomingChecks =
    ((agent.stream s).component c).incomingChecks
  list : ∀ s, (agent'.stream s).conncheckList = (agent.stream s).conncheckList
  state : ∀ s, ∀ p ∈ (agent.stream s).conncheckList, (agent'.pair p).state = (agent.pair p).state
  nominated : ∀ s, ∀ p ∈ (agent.stream s).conncheckList,
    (agent'.pair p).nominated = (agent.pair p).nominated
  selectedPair : ∀ s c, ((agent'.stream s).component c).selectedPair =
    ((agent.stream s).component c).selectedPair

/-- A Binding request from `src` is answered with the error response `reply`. -/
inductive Refuses (agent : NiceAgent) (sid : StreamId) (cid : ComponentId) (src : NiceAddress)
    (req : IceMessage) (verdict : Verdict) : IceMessage → Prop where
  /-- The request is not valid. -/
  | invalid {reply : IceMessage} :
      verdict.valid = .unknownRequestAttribute ∨ verdict.valid = .unauthorized ∨
        verdict.valid = .unauthorizedBadRequest →
      refusal agent ((agent.stream sid).component cid).stunAgent.toStunAgentConfig req verdict =
        some reply →
      Refuses agent sid cid src req verdict reply
  /-- Its sender claims the role of the agent, which keeps it. -/
  | roleConflict {reply : IceMessage} : verdict.valid = .success →
      req.cls = .request → req.method = STUN_BINDING →
      (stunUsageIceConncheckCreateReply
        ((agent.stream sid).component cid).stunAgent.toStunAgentConfig MAX_STUN_DATAGRAM_PAYLOAD req
        src agent.controllingMode agent.tieBreaker).2.1 = some reply →
      reply.cls = .error → Refuses agent sid cid src req verdict reply

/-! ### The condition -/

/-- No pair is left to be pruned: where the component has a nominated valid pair, none of its pairs
waits, and none in progress has a lower priority. -/
def Settled (agent : NiceAgent) (sid : StreamId) (cid : ComponentId) : Prop :=
  ∀ q ∈ (agent.stream sid).conncheckList, nominatedOf agent cid q = true →
    ∀ p ∈ (agent.stream sid).conncheckList, (agent.pair p).componentId = cid →
      (agent.pair p).state ≠ .frozen ∧ (agent.pair p).state ≠ .waiting ∧
        ((agent.pair p).state = .inProgress → ¬(agent.pair p).priority < (agent.pair q).priority)

/-- The pair has a higher priority than the selected one, and the foundations of its candidates are
found. -/
def Selects (agent : NiceAgent) (sid : StreamId) (cid : ComponentId) (p : PairId) : Prop :=
  ((agent.stream sid).component cid).selectedPair.priority < (agent.pair p).priority ∧
    (componentFindPair agent ((agent.stream sid).component cid)
      (agent.candidate (agent.pair p).localCand).foundation
      (agent.candidate (agent.pair p).remoteCand).foundation).isSome = true

/-- Nothing comes of the nomination of the candidate for the pair `p`. -/
def MarkIdle (agent : NiceAgent) (sid : StreamId) (cid : ComponentId) (remoteCand : CandidateId)
    (p : PairId) : Prop :=
  (agent.pair p).remoteCand = remoteCand → (agent.pair p).nominated = true ∧
    ((agent.pair p).valid = true → ¬Selects agent sid cid p) ∧ Settled agent sid cid

/-- Nothing comes of a triggered check for the pair `p`. -/
def PairIdle (agent : NiceAgent) (sid : StreamId) (cid : ComponentId) (p : PairId) : Prop :=
  (agent.pair p).state = .inProgress ∨ (agent.pair p).state = .cancelled ∨
    (agent.pair p).valid = true ∧ agent.controllingMode = false ∧ Settled agent sid cid

/-- Nothing comes of a triggered check: its pair is in progress or cancelled, or it is valid, the
agent is controlled and no pair is left to be pruned; or there is neither a pair nor a local
candidate for a new one. -/
structure TriggerIdle (agent : NiceAgent) (sid : StreamId) (cid : ComponentId)
    (nicesock : NiceSocket) (remoteCand : CandidateId) : Prop where
  pair : ∀ p, (agent.stream sid).conncheckList.find? (triggers agent cid nicesock remoteCand) =
    some p → PairIdle agent sid cid p
  fresh : (agent.stream sid).conncheckList.find? (triggers agent cid nicesock remoteCand) = none →
    ∀ l ∈ ((agent.stream sid).component cid).localCandidates,
      (agent.candidate l).sockptr ≠ some nicesock

/-- Nothing comes of a check from `src`: there are no remote candidates and no room to keep it, or
it is from a known one, and nothing comes of the triggered check and of the nomination. -/
structure LeavesAlone (agent : NiceAgent) (sid : StreamId) (cid : ComponentId)
    (nicesock : NiceSocket) (src : NiceAddress) (useCandidate : Bool) : Prop where
  unknown : ((agent.stream sid).component cid).remoteCandidates = [] →
    NICE_AGENT_MAX_REMOTE_CANDIDATES ≤ ((agent.stream sid).component cid).incomingChecks.length
  known : ((agent.stream sid).component cid).remoteCandidates ≠ [] → ∃ rc,
    ((agent.stream sid).component cid).remoteCandidates.find? (fun c =>
      (agent.candidate c).addr = src) = some rc ∧
    TriggerIdle agent sid cid nicesock rc ∧ (useCandidate = true →
      ∀ p ∈ (agent.stream sid).conncheckList, MarkIdle agent sid cid rc p)

/-! ### Effects -/

section Effects

variable {a b c : NiceAgent}

lemma Frame.effects (h : Frame a b) : ∃ more, effects b = LibNice.Ice.effects a ++ more := by
  obtain ⟨sent, hsent⟩ := h.trace
  exact ⟨sent.filter Trace.isEffect, by rw [LibNice.Ice.effects, hsent, List.filter_append]; rfl⟩

/-- Where two steps have no effect, neither of them has one. -/
lemma effects_between (h : Frame a b) (h' : Frame b c) (heq : effects c = effects a) :
    effects b = effects a ∧ effects c = effects b := by
  obtain ⟨more, hmore⟩ := h.effects
  obtain ⟨more', hmore'⟩ := h'.effects
  have hlen := congrArg List.length (hmore'.symm.trans heq)
  rw [hmore, List.length_append, List.length_append] at hlen
  have hnil : more = [] := List.length_eq_zero_iff.mp (by omega)
  rw [hnil, List.append_nil] at hmore
  exact ⟨hmore, heq.trans hmore.symm⟩

lemma effects_emit {event : Trace} (h : event.isEffect = false) :
    effects (a.emit event) = effects a := by
  rw [effects, NiceAgent.emit, List.filter_append]
  simp [h, effects]

lemma effects_emit_effect {event : Trace} (h : event.isEffect = true) :
    effects (a.emit event) = effects a ++ [event] := by
  rw [effects, NiceAgent.emit, List.filter_append]
  simp [h, effects]

end Effects

/-! ### Agents that are the same -/

/-- Nothing that the condition asks for is different. -/
structure Same (a b : NiceAgent) : Prop where
  frame : Frame a b
  pair : ∀ p, ∃ t, b.pair p = { a.pair p with timerRestarted := t }
  selectedPair : ∀ s c, ((b.stream s).component c).selectedPair =
    ((a.stream s).component c).selectedPair
  incomingChecks : ∀ s c, ((b.stream s).component c).incomingChecks =
    ((a.stream s).component c).incomingChecks

section Same

variable {a b c : NiceAgent} {sid : StreamId} {cid : ComponentId} {p : PairId}
  {nicesock : NiceSocket} {rc : CandidateId}

lemma Same.refl : Same a a :=
  ⟨.refl, fun p => ⟨(a.pair p).timerRestarted, rfl⟩, fun _ _ => rfl, fun _ _ => rfl⟩

lemma Same.trans (h : Same a b) (h' : Same b c) : Same a c := by
  refine ⟨h.frame.trans h'.frame, fun p => ?_,
    fun s d => (h'.selectedPair s d).trans (h.selectedPair s d),
    fun s d => (h'.incomingChecks s d).trans (h.incomingChecks s d)⟩
  obtain ⟨t, ht⟩ := h.pair p
  obtain ⟨t', ht'⟩ := h'.pair p
  exact ⟨t', by rw [ht', ht]⟩

lemma Same.state (h : Same a b) (p : PairId) : (b.pair p).state = (a.pair p).state := by
  obtain ⟨t, ht⟩ := h.pair p
  rw [ht]

lemma Same.nominated (h : Same a b) (p : PairId) :
    (b.pair p).nominated = (a.pair p).nominated := by
  obtain ⟨t, ht⟩ := h.pair p
  rw [ht]

lemma Same.valid (h : Same a b) (p : PairId) : (b.pair p).valid = (a.pair p).valid := by
  obtain ⟨t, ht⟩ := h.pair p
  rw [ht]
  rfl

lemma Same.nominatedOf (h : Same a b) (p : PairId) : nominatedOf b cid p = nominatedOf a cid p := by
  obtain ⟨t, ht⟩ := h.pair p
  rw [LibNice.Ice.nominatedOf, ht]
  rfl

lemma Same.unchanged (h : Same a b) : Unchanged a b :=
  ⟨h.frame.controllingMode, h.frame.remoteCandidates, fun _ _ _ _ => by rw [h.frame.candidate],
    h.incomingChecks, h.frame.list, fun _ p _ => h.state p, fun _ p _ => h.nominated p,
    h.selectedPair⟩

lemma Same.settled (h : Same a b) : Settled b sid cid ↔ Settled a sid cid := by
  have hpair (p : PairId) : (b.pair p).componentId = (a.pair p).componentId ∧
      (b.pair p).priority = (a.pair p).priority := by
    obtain ⟨t, ht⟩ := h.pair p
    rw [ht]
    exact ⟨rfl, rfl⟩
  unfold Settled
  simp only [h.frame.list, h.nominatedOf, h.state, hpair]

lemma Same.selects (h : Same a b) : Selects b sid cid p ↔ Selects a sid cid p := by
  obtain ⟨t, ht⟩ := h.pair p
  have hpriority : agentCandidatePairPriority b = agentCandidatePairPriority a := by
    funext loc remote
    rw [agentCandidatePairPriority, agentCandidatePairPriority, h.frame.controllingMode]
  unfold Selects componentFindPair
  simp only [ht, h.selectedPair, h.frame.candidate, h.frame.localCandidates,
    h.frame.remoteCandidates, hpriority]

lemma Same.markIdle (h : Same a b) : MarkIdle b sid cid rc p ↔ MarkIdle a sid cid rc p := by
  have hremote : (b.pair p).remoteCand = (a.pair p).remoteCand := by
    obtain ⟨t, ht⟩ := h.pair p
    rw [ht]
  rw [MarkIdle, MarkIdle, hremote, h.nominated, h.valid, h.selects, h.settled]

lemma Same.pairIdle (h : Same a b) : PairIdle b sid cid p ↔ PairIdle a sid cid p := by
  rw [PairIdle, PairIdle, h.state, h.valid, h.frame.controllingMode, h.settled]

lemma Same.triggers (h : Same a b) :
    triggers b cid nicesock rc p = triggers a cid nicesock rc p := by
  obtain ⟨t, ht⟩ := h.pair p
  rw [LibNice.Ice.triggers, LibNice.Ice.triggers, ht, h.frame.candidate]

lemma Same.triggerIdle (h : Same a b) :
    TriggerIdle b sid cid nicesock rc ↔ TriggerIdle a sid cid nicesock rc := by
  have hfind : (b.stream sid).conncheckList.find? (LibNice.Ice.triggers b cid nicesock rc) =
      (a.stream sid).conncheckList.find? (LibNice.Ice.triggers a cid nicesock rc) := by
    rw [h.frame.list]
    exact congrArg (fun f => List.find? f _) (funext fun p => h.triggers)
  constructor
  · rintro ⟨hpair, hfresh⟩
    rw [hfind] at hfresh
    rw [h.frame.localCandidates, h.frame.candidate] at hfresh
    exact ⟨fun p hp => h.pairIdle.mp (hpair p (hfind.trans hp)), hfresh⟩
  · rintro ⟨hpair, hfresh⟩
    refine ⟨fun p hp => h.pairIdle.mpr (hpair p (hfind.symm.trans hp)), fun hnone => ?_⟩
    rw [h.frame.localCandidates, h.frame.candidate]
    exact hfresh (hfind.symm.trans hnone)

end Same

/-! ### Agents that grow older -/

/-- How far the check of a pair has come, while none fails. -/
def NiceCheckState.age : NiceCheckState → ℕ
  | .cancelled => 2
  | .inProgress => 1
  | _ => 0

/-- As long as nothing is sent or selected, pairs only grow older, and are only nominated. -/
structure Wanes (a b : NiceAgent) : Prop where
  frame : Frame a b
  older : effects b = effects a → ∀ p, (a.pair p).state.age ≤ (b.pair p).state.age ∧
    ((a.pair p).nominated = true → (b.pair p).nominated = true)

/-- Nothing is sent or selected, and no pair of the stream is older or newly nominated. -/
structure Intact (a b : NiceAgent) (sid : StreamId) : Prop where
  effects : effects b = effects a
  young : ∀ p ∈ (a.stream sid).conncheckList, (b.pair p).state.age ≤ (a.pair p).state.age ∧
    ((b.pair p).nominated = true → (a.pair p).nominated = true)

section Wanes

variable {a b c : NiceAgent} {sid : StreamId}

lemma Wanes.refl : Wanes a a := ⟨.refl, fun _ _ => ⟨le_rfl, id⟩⟩

lemma Wanes.trans (h : Wanes a b) (h' : Wanes b c) : Wanes a c := by
  refine ⟨h.frame.trans h'.frame, fun heq p => ?_⟩
  obtain ⟨hab, hbc⟩ := effects_between h.frame h'.frame heq
  obtain ⟨hage, hnominated⟩ := h.older hab p
  obtain ⟨hage', hnominated'⟩ := h'.older hbc p
  exact ⟨hage.trans hage', fun hp => hnominated' (hnominated hp)⟩

lemma Same.wanes (h : Same a b) : Wanes a b :=
  ⟨h.frame, fun _ p => ⟨(congrArg NiceCheckState.age (h.state p)).ge,
    fun hp => (h.nominated p).trans hp⟩⟩

/-- What is intact in the end was so halfway. -/
lemma Intact.left (h : Intact a c sid) (hab : Wanes a b) (hbc : Wanes b c) : Intact a b sid := by
  obtain ⟨heq, heq'⟩ := effects_between hab.frame hbc.frame h.effects
  refine ⟨heq, fun p hp => ?_⟩
  obtain ⟨hage, hnominated⟩ := h.young p hp
  obtain ⟨hage', hnominated'⟩ := hbc.older heq' p
  exact ⟨hage'.trans hage, fun hb => hnominated (hnominated' hb)⟩

lemma Intact.right (h : Intact a c sid) (hab : Wanes a b) (hbc : Wanes b c) : Intact b c sid := by
  obtain ⟨heq, heq'⟩ := effects_between hab.frame hbc.frame h.effects
  refine ⟨heq', fun p hp => ?_⟩
  rw [hab.frame.list] at hp
  obtain ⟨hage, hnominated⟩ := h.young p hp
  obtain ⟨hage', hnominated'⟩ := hab.older heq p
  exact ⟨hage.trans hage', fun hc => hnominated' (hnominated hc)⟩

end Wanes

/-! ### Steps -/

section Steps

variable {env : Env} {a b : NiceAgent} {sid : StreamId} {cid : ComponentId} {rc : CandidateId}
  {p : PairId} {list : List PairId} {highest : UInt64} {pair : CandidateCheckPair}

lemma age_le_cancelled (state : NiceCheckState) : state.age ≤ NiceCheckState.cancelled.age := by
  cases state <;> decide

lemma prunedPair_older : pair.state.age ≤ (prunedPair highest cid pair).state.age ∧
    (prunedPair highest cid pair).nominated = pair.nominated := by
  rw [prunedPair]
  split
  · split
    · exact ⟨age_le_cancelled _, rfl⟩
    · split
      · exact ⟨age_le_cancelled _, rfl⟩
      · exact ⟨le_rfl, rfl⟩
  · exact ⟨le_rfl, rfl⟩

lemma updateForReady_effects :
    effects (privUpdateCheckListStateForReady a sid cid) = effects a := by
  obtain ⟨-, -, events, htrace, hkind⟩ := privUpdateCheckListStateForReady_spec a sid cid
  have hnone : events.filter Trace.isEffect = [] := by
    refine List.filter_eq_nil_iff.mpr fun e he => ?_
    obtain ⟨s, c, st, rfl⟩ := hkind e he
    nofun
  rw [effects, htrace, List.filter_append, hnone, List.append_nil, effects]

lemma updateForReady_wanes : Wanes a (privUpdateCheckListStateForReady a sid cid) := by
  refine ⟨privUpdateCheckListStateForReady_frame a sid cid, fun _ p => ?_⟩
  rw [(privUpdateCheckListStateForReady_spec a sid cid).1]
  split
  · exact ⟨prunedPair_older.1, fun h => prunedPair_older.2.trans h⟩
  · exact ⟨le_rfl, id⟩

/-- Where no pair is left to be pruned, only the state of the component changes. -/
lemma updateForReady_same (h : Settled a sid cid) :
    Same a (privUpdateCheckListStateForReady a sid cid) := by
  obtain ⟨hpair, hcomp, -⟩ := privUpdateCheckListStateForReady_spec a sid cid
  refine ⟨privUpdateCheckListStateForReady_frame a sid cid,
    fun p => ⟨(a.pair p).timerRestarted, ?_⟩, fun s c => ?_, fun s c => ?_⟩
  · rw [hpair]
    split
    next hp =>
      obtain ⟨⟨q, hq, hnominated⟩, hp⟩ := hp
      rw [prunedPair]
      split
      next hc =>
        obtain ⟨hfrozen, hwaiting, -⟩ := h q hq hnominated p hp hc
        rw [if_neg (not_or.mpr ⟨hfrozen, hwaiting⟩), if_neg]
        rintro ⟨hprogress, hlt⟩
        obtain ⟨q', hq', hnominated', hlt'⟩ := (lt_highestNominatedPriority _ _).mp hlt
        exact (h q' hq' hnominated' p hp hc).2.2 hprogress hlt'
      · rfl
    · rfl
  · obtain ⟨st, hst⟩ := hcomp s c
    rw [hst]
  · obtain ⟨st, hst⟩ := hcomp s c
    rw [hst]

/-- Where no pair is older, none was left to be pruned. -/
lemma updateForReady_intact (h : Intact a (privUpdateCheckListStateForReady a sid cid) sid) :
    Settled a sid cid := by
  intro q hq hnominated p hp hc
  obtain ⟨hpair, -⟩ := privUpdateCheckListStateForReady_spec a sid cid
  obtain ⟨hage, -⟩ := h.young p hp
  rw [hpair, if_pos ⟨⟨q, hq, hnominated⟩, hp⟩, prunedPair, if_pos hc] at hage
  refine ⟨fun hs => ?_, fun hs => ?_, fun hs hlt => ?_⟩
  · rw [if_pos (.inl hs), hs] at hage
    exact Nat.not_succ_le_zero 1 hage
  · rw [if_pos (.inr hs), hs] at hage
    exact Nat.not_succ_le_zero 1 hage
  · rw [if_neg (by simp [hs]),
      if_pos ⟨hs, (lt_highestNominatedPriority _ _).mpr ⟨q, hq, hnominated, hlt⟩⟩, hs] at hage
    exact Nat.not_succ_le_self 1 hage

/-- The stream and the component are those of the agent, and the pairs belong to the stream. -/
structure Within (a : NiceAgent) (sid : StreamId) (cid : ComponentId) (list : List PairId) :
    Prop where
  stream : sid ∈ a.streams
  component : cid ∈ (a.stream sid).components
  owner : ∀ p ∈ list, (a.pair p).streamId = sid

lemma Within.of_frame (hw : Within a sid cid list) (h : Frame a b) : Within b sid cid list :=
  ⟨h.streams ▸ hw.stream, h.components ▸ hw.component,
    fun p hp => (h.owner p).trans (hw.owner p hp)⟩

lemma updateSelectedPair_of_not (h : ¬Selects a sid cid p) :
    privUpdateSelectedPair env a sid cid p = a := by
  rw [privUpdateSelectedPair]
  dsimp only
  split
  next cpair hfound => rw [if_neg fun hlt => h ⟨hlt, by rw [hfound]; rfl⟩]
  · rfl

lemma updateSelectedPair_effects (hw : Within a sid cid list) (hp : p ∈ list)
    (h : Selects a sid cid p) : effects (privUpdateSelectedPair env a sid cid p) ≠ effects a := by
  obtain ⟨hlt, hfound⟩ := h
  obtain ⟨cpair, hcpair⟩ := Option.isSome_iff_exists.mp hfound
  rw [privUpdateSelectedPair]
  dsimp only
  rw [hcpair]
  dsimp only
  rw [if_pos hlt, hw.owner p hp]
  have hframe := (@componentUpdateSelectedPair_frame a sid cid cpair).trans
    (privConnKeepaliveTick_frame env _)
  have hw' := hw.of_frame hframe
  rw [agentSignalNewSelectedPair, agentFindComponent_of_mem hw'.stream hw'.component]
  dsimp only
  obtain ⟨more, hmore⟩ := hframe.effects
  rw [effects_emit_effect rfl, hmore]
  intro heq
  have hlen := congrArg List.length heq
  simp only [List.length_append, List.length_cons, List.length_nil] at hlen
  omega

lemma updateSelectedPair_wanes (hw : Within a sid cid list) (hp : p ∈ list) :
    Wanes a (privUpdateSelectedPair env a sid cid p) := by
  by_cases h : Selects a sid cid p
  · exact ⟨privUpdateSelectedPair_frame env a sid cid p,
      fun heq => absurd heq (updateSelectedPair_effects hw hp h)⟩
  · rw [updateSelectedPair_of_not h]
    exact .refl

/-- The agent with the pair `p` nominated. -/
def nominate (a : NiceAgent) (p : PairId) : NiceAgent :=
  a.setPair p { a.pair p with nominated := true }

lemma nominate_pair : (nominate a p).pair p = { a.pair p with nominated := true } :=
  setPair_pair_self

lemma nominate_wanes : Wanes a (nominate a p) := by
  refine ⟨.setPair rfl, fun _ q => ?_⟩
  by_cases hq : q = p
  · subst hq
    rw [nominate_pair]
    exact ⟨le_rfl, fun _ => rfl⟩
  · rw [nominate, setPair_pair_of_ne hq]
    exact ⟨le_rfl, id⟩

lemma nominate_same (h : (a.pair p).nominated = true) : Same a (nominate a p) := by
  refine ⟨.setPair rfl, fun q => ⟨(a.pair q).timerRestarted, ?_⟩, fun _ _ => rfl, fun _ _ => rfl⟩
  by_cases hq : q = p
  · subst hq
    rw [nominate_pair, ← h]
  · rw [nominate, setPair_pair_of_ne hq]

/-- The selected pair after the nomination of `p`. -/
def reselect (env : Env) (a : NiceAgent) (sid : StreamId) (cid : ComponentId) (p : PairId) :
    NiceAgent :=
  if (a.pair p).valid then privUpdateSelectedPair env a sid cid p else a

lemma markPair_eq (h : (a.pair p).remoteCand = rc) : markPair env sid cid rc a p =
    privUpdateCheckListStateForReady (reselect env (nominate a p) sid cid p) sid cid := by
  rw [markPair, if_pos h]
  rfl

lemma reselect_wanes (hw : Within a sid cid list) (hp : p ∈ list) :
    Wanes a (reselect env a sid cid p) := by
  rw [reselect]
  split
  · exact updateSelectedPair_wanes hw hp
  · exact .refl

lemma markPair_wanes (hw : Within a sid cid list) (hp : p ∈ list) :
    Wanes a (markPair env sid cid rc a p) := by
  by_cases h : (a.pair p).remoteCand = rc
  · rw [markPair_eq h]
    have hnominate := @nominate_wanes a p
    exact (hnominate.trans (reselect_wanes (hw.of_frame hnominate.frame) hp)).trans
      updateForReady_wanes
  · rw [markPair, if_neg h]
    exact .refl

/-- A round that nothing comes of. -/
lemma markPair_same (h : MarkIdle a sid cid rc p) :
    Same a (markPair env sid cid rc a p) ∧ effects (markPair env sid cid rc a p) = effects a := by
  by_cases hrc : (a.pair p).remoteCand = rc
  · obtain ⟨hnominated, hselects, hsettled⟩ := h hrc
    have hsame := nominate_same hnominated
    have hreselect : reselect env (nominate a p) sid cid p = nominate a p := by
      rw [reselect]
      split
      next hv =>
        refine updateSelectedPair_of_not (mt hsame.selects.mp (hselects ?_))
        rw [← hsame.valid, hv]
      · rfl
    rw [markPair_eq hrc, hreselect]
    exact ⟨hsame.trans (updateForReady_same (hsame.settled.mpr hsettled)),
      updateForReady_effects⟩
  · rw [markPair, if_neg hrc]
    exact ⟨.refl, rfl⟩

/-- A round after which nothing is older. -/
lemma markPair_intact (hw : Within a sid cid list) (hp : p ∈ list)
    (hlist : p ∈ (a.stream sid).conncheckList)
    (h : Intact a (markPair env sid cid rc a p) sid) : MarkIdle a sid cid rc p := by
  intro hrc
  rw [markPair_eq hrc] at h
  have hnominate := @nominate_wanes a p
  have hw' := hw.of_frame hnominate.frame
  have hreselect := @reselect_wanes env _ sid cid p list hw' hp
  have hready := @updateForReady_wanes (reselect env (nominate a p) sid cid p) sid cid
  have hfirst := h.left hnominate (hreselect.trans hready)
  have hrest := h.right hnominate (hreselect.trans hready)
  have hnominated : (a.pair p).nominated = true :=
    (hfirst.young p hlist).2 (by rw [nominate_pair])
  have hsame := nominate_same hnominated
  have hnot : (a.pair p).valid = true → ¬Selects a sid cid p := by
    intro hv hselects
    refine absurd (hrest.left hreselect hready).effects ?_
    rw [reselect, if_pos (by rw [hsame.valid, hv])]
    exact updateSelectedPair_effects hw' hp (hsame.selects.mpr hselects)
  have hsame' : Same a (reselect env (nominate a p) sid cid p) := by
    rw [reselect]
    split
    next hv =>
      rw [updateSelectedPair_of_not (mt hsame.selects.mp (hnot (by rw [← hsame.valid, hv])))]
      exact hsame
    · exact hsame
  exact ⟨hnominated, hnot,
    hsame'.settled.mp (updateForReady_intact (hrest.right hreselect hready))⟩

/-- The loop of `priv_mark_pair_nominated` over a part of the list. -/
lemma markPairs_wanes (list : List PairId) : ∀ a, Within a sid cid list →
    Wanes a (list.foldl (markPair env sid cid rc) a) := by
  induction list with
  | nil => exact fun _ _ => .refl
  | cons p list ih =>
      intro a hw
      have hstep := @markPair_wanes env a sid cid rc p (p :: list) hw List.mem_cons_self
      have hw' := hw.of_frame hstep.frame
      exact hstep.trans (ih _ ⟨hw'.stream, hw'.component,
        fun q hq => hw'.owner q (List.mem_cons_of_mem _ hq)⟩)

lemma markPairs_same (list : List PairId) : ∀ a, (∀ p ∈ list, MarkIdle a sid cid rc p) →
    Same a (list.foldl (markPair env sid cid rc) a) ∧
      effects (list.foldl (markPair env sid cid rc) a) = effects a := by
  induction list with
  | nil => exact fun _ _ => ⟨.refl, rfl⟩
  | cons p list ih =>
      intro a h
      obtain ⟨hsame, heffects⟩ := @markPair_same env a sid cid rc p (h p List.mem_cons_self)
      obtain ⟨hsame', heffects'⟩ := ih (markPair env sid cid rc a p)
        fun q hq => hsame.markIdle.mpr (h q (List.mem_cons_of_mem _ hq))
      exact ⟨hsame.trans hsame', heffects'.trans heffects⟩

lemma markPairs_intact (list : List PairId) : ∀ a, Within a sid cid list →
    (∀ p ∈ list, p ∈ (a.stream sid).conncheckList) →
    Intact a (list.foldl (markPair env sid cid rc) a) sid →
    ∀ p ∈ list, MarkIdle a sid cid rc p := by
  induction list with
  | nil => exact fun _ _ _ _ p hp => by simp at hp
  | cons q list ih =>
      intro a hw hlist h p hp
      have hstep := @markPair_wanes env a sid cid rc q (q :: list) hw List.mem_cons_self
      have hw' := hw.of_frame hstep.frame
      have hw'' : Within (markPair env sid cid rc a q) sid cid list :=
        ⟨hw'.stream, hw'.component, fun r hr => hw'.owner r (List.mem_cons_of_mem _ hr)⟩
      have hrest := @markPairs_wanes env sid cid rc list _ hw''
      have hq := markPair_intact hw List.mem_cons_self (hlist q List.mem_cons_self)
        (h.left hstep hrest)
      rcases List.mem_cons.mp hp with rfl | hp
      · exact hq
      · refine (markPair_same hq).1.markIdle.mp (ih _ hw'' (fun r hr => ?_)
          (h.right hstep hrest) p hp)
        rw [hstep.frame.list]
        exact hlist r (List.mem_cons_of_mem _ hr)

end Steps

/-! ### Triggered checks -/

section Trigger

variable {env : Env} {a b : NiceAgent} {sid : StreamId} {cid : ComponentId} {rc : CandidateId}
  {p : PairId} {nicesock : NiceSocket} {useCandidate : Bool}

lemma initiate_state :
    ((privConnCheckInitiate env a p).pair p).state = .inProgress := by
  rw [privConnCheckInitiate, (connCheckSend_same env _ p).1, setPairState_state_self]

/-- A check that is sent makes its pair older, if the check was not in progress or cancelled. -/
lemma initiate_wanes (h : (a.pair p).state.age = 0) : Wanes a (privConnCheckInitiate env a p) := by
  have hframe : Frame a (privConnCheckInitiate env a p) :=
    Frame.setPairState.trans (connCheckSend_frame env _ p)
  refine ⟨hframe, fun _ q => ?_⟩
  by_cases hq : q = p
  · subst hq
    refine ⟨by rw [h]; exact Nat.zero_le _, fun hnominated => ?_⟩
    have hset : ((a.setPairState q .inProgress).pair q).nominated = true := by
      rw [NiceAgent.setPairState, setPair_pair_self, hnominated]
    rcases connCheckSend_pair env (a.setPairState q .inProgress) q with hpair | ⟨msg, sock, hpair⟩
    · rw [privConnCheckInitiate, hpair, hset]
    · rw [privConnCheckInitiate, hpair]
      exact (congrArg (_ || ·) hset).trans (Bool.or_true _)
  · rw [privConnCheckInitiate, connCheckSend_pair_of_ne hq, setPairState_pair_of_ne hq]
    exact ⟨le_rfl, id⟩

/-- A valid pair is not pruned. -/
lemma updateForReady_of_valid (h : (a.pair p).valid = true) :
    (privUpdateCheckListStateForReady a sid cid).pair p = a.pair p := by
  rw [CandidateCheckPair.valid, Bool.or_eq_true, decide_eq_true_eq, decide_eq_true_eq] at h
  rw [(privUpdateCheckListStateForReady_spec a sid cid).1]
  split
  · rw [prunedPair]
    split
    · rw [if_neg (by rcases h with h | h <;> simp [h]),
        if_neg (by rcases h with h | h <;> simp [h])]
    · rfl
  · rfl

/-- The timer of the pair starts again. -/
lemma restart_same : Same a (a.setPair p { a.pair p with timerRestarted := true }) := by
  refine ⟨.setPair rfl, fun q => ?_, fun _ _ => rfl, fun _ _ => rfl⟩
  by_cases hq : q = p
  · subst hq
    exact ⟨true, setPair_pair_self⟩
  · exact ⟨(a.pair q).timerRestarted, setPair_pair_of_ne hq⟩

/-- A triggered check for a valid pair. -/
lemma triggerPair_valid (hcompat : a.compatibility = .rfc5245) (h : (a.pair p).valid = true) :
    triggerPair env a sid cid p =
      if a.controllingMode then
        privConnCheckInitiate env (privUpdateCheckListStateForReady a sid cid) p
      else privUpdateCheckListStateForReady a sid cid := by
  have hframe := privUpdateCheckListStateForReady_frame a sid cid
  rw [CandidateCheckPair.valid, Bool.or_eq_true, decide_eq_true_eq, decide_eq_true_eq] at h
  rw [triggerPair]
  rcases h with h | h
  · rw [h]
    simp [hframe.compatibility, hframe.controllingMode, hcompat]
  · rw [h]
    simp [hframe.compatibility, hframe.controllingMode, hcompat]

/-- The states of a pair that is not valid, and what a triggered check does with it. -/
lemma triggerPair_cases (p : PairId) :
    (a.pair p).valid = true ∨
      (a.pair p).state.age = 0 ∧ triggerPair env a sid cid p = privConnCheckInitiate env a p ∨
      ((a.pair p).state = .inProgress ∨ (a.pair p).state = .cancelled) ∧
        Same a (triggerPair env a sid cid p) ∧
        effects (triggerPair env a sid cid p) = effects a := by
  rw [CandidateCheckPair.valid, triggerPair]
  cases hstate : (a.pair p).state with
  | waiting => exact .inr (.inl ⟨rfl, rfl⟩)
  | frozen => exact .inr (.inl ⟨rfl, rfl⟩)
  | failed => exact .inr (.inl ⟨rfl, rfl⟩)
  | succeeded => exact .inl rfl
  | discovered => exact .inl rfl
  | cancelled => exact .inr (.inr ⟨.inr rfl, .refl, rfl⟩)
  | inProgress =>
      refine .inr (.inr ⟨.inl rfl, ?_⟩)
      dsimp only
      split
      · exact ⟨restart_same, rfl⟩
      · exact ⟨.refl, rfl⟩

lemma age_of_valid (h : (a.pair p).valid = true) : (a.pair p).state.age = 0 := by
  rw [CandidateCheckPair.valid, Bool.or_eq_true, decide_eq_true_eq, decide_eq_true_eq] at h
  rcases h with h | h
  · rw [h]
    rfl
  · rw [h]
    rfl

lemma triggerPair_frame (env : Env) (a : NiceAgent) (sid : StreamId) (cid : ComponentId)
    (p : PairId) : Frame a (triggerPair env a sid cid p) := by
  have hinitiate (x : NiceAgent) : Frame x (privConnCheckInitiate env x p) :=
    Frame.setPairState.trans (connCheckSend_frame env _ p)
  have hready := privUpdateCheckListStateForReady_frame a sid cid
  rw [triggerPair]
  cases (a.pair p).state with
  | waiting => exact hinitiate a
  | frozen => exact hinitiate a
  | failed => exact hinitiate a
  | cancelled => exact .refl
  | inProgress =>
      dsimp only
      split
      · exact .setPair rfl
      · exact .refl
  | succeeded =>
      dsimp only
      split
      · exact hready.trans (hinitiate _)
      · exact hready
  | discovered =>
      dsimp only
      split
      · exact hready.trans (hinitiate _)
      · exact hready

lemma triggerPair_wanes (hcompat : a.compatibility = .rfc5245) (p : PairId) :
    Wanes a (triggerPair env a sid cid p) := by
  rcases @triggerPair_cases env a sid cid p with hv | ⟨hage, h⟩ | ⟨-, hsame, -⟩
  · rw [triggerPair_valid hcompat hv]
    split
    · refine updateForReady_wanes.trans (initiate_wanes ?_)
      rw [updateForReady_of_valid hv, age_of_valid hv]
    · exact updateForReady_wanes
  · rw [h]
    exact initiate_wanes hage
  · exact hsame.wanes

lemma triggerPair_same (hcompat : a.compatibility = .rfc5245) (h : PairIdle a sid cid p) :
    Same a (triggerPair env a sid cid p) ∧
      effects (triggerPair env a sid cid p) = effects a := by
  have hunmoved {state : NiceCheckState} (hstate : (a.pair p).state = state)
      (hs : state = .inProgress ∨ state = .cancelled) : Same a (triggerPair env a sid cid p) ∧
        effects (triggerPair env a sid cid p) = effects a := by
    rcases @triggerPair_cases env a sid cid p with hv | ⟨hage, -⟩ | ⟨-, hsame⟩
    · rw [CandidateCheckPair.valid, hstate] at hv
      rcases hs with rfl | rfl <;> cases hv
    · rw [hstate] at hage
      rcases hs with rfl | rfl <;> cases hage
    · exact hsame
  rcases h with hstate | hstate | ⟨hv, hcontrol, hsettled⟩
  · exact hunmoved hstate (.inl rfl)
  · exact hunmoved hstate (.inr rfl)
  · rw [triggerPair_valid hcompat hv, hcontrol]
    exact ⟨updateForReady_same hsettled, updateForReady_effects⟩

lemma triggerPair_intact (hcompat : a.compatibility = .rfc5245)
    (hp : p ∈ (a.stream sid).conncheckList) (h : Intact a (triggerPair env a sid cid p) sid) :
    PairIdle a sid cid p := by
  obtain ⟨hage', -⟩ := h.young p hp
  rcases @triggerPair_cases env a sid cid p with hv | ⟨hage, heq⟩ | ⟨hstate, -⟩
  · rw [triggerPair_valid hcompat hv] at h hage'
    by_cases hcontrol : a.controllingMode = true
    · rw [if_pos hcontrol, initiate_state, age_of_valid hv] at hage'
      exact absurd hage' (Nat.not_succ_le_zero 0)
    · rw [if_neg hcontrol] at h
      exact .inr (.inr ⟨hv, by simpa using hcontrol, updateForReady_intact h⟩)
  · rw [heq, initiate_state, hage] at hage'
    exact absurd hage' (Nat.not_succ_le_zero 0)
  · exact hstate.elim .inl fun h => .inr (.inl h)

/-- The length of the list with a new pair. -/
lemma addNewCheckPair_length (agent : NiceAgent) (l r : CandidateId) (state : NiceCheckState) :
    ((privAddNewCheckPair agent sid cid l r state useCandidate).stream sid).conncheckList.length =
      (agent.stream sid).conncheckList.length + 1 ∧
    ∀ s, ((privAddNewCheckPair agent sid cid l r state useCandidate).stream s).component =
      (agent.stream s).component := by
  have hlimit (list : List PairId) (limit : ℕ) (x : NiceAgent) :
      (privLimitConnCheckListSize x list limit).stream = x.stream := by
    have hloop : ∀ acc : NiceAgent × ℕ,
        (list.foldl (limitPair limit) acc).1.stream = acc.1.stream := by
      induction list with
      | nil => exact fun _ => rfl
      | cons q list ih =>
          intro acc
          refine (ih (limitPair limit acc q)).trans ?_
          rw [limitPair]
          split
          · dsimp only
            split <;> rfl
          · rfl
    exact hloop (x, 0)
  have hstream (x : NiceAgent) (list : List PairId) (s : StreamId) :
      ((x.setCheckList sid list).stream s).component = (x.stream s).component := by
    by_cases hs : s = sid
    · subst hs
      simp [NiceAgent.setCheckList]
    · simp [NiceAgent.setCheckList, hs]
  rw [privAddNewCheckPair]
  dsimp only
  split
  · refine ⟨?_, fun s => ?_⟩
    · rw [hlimit, NiceAgent.setCheckList]
      simp [insertPair, List.orderedInsert_length]
    · rw [hlimit, hstream]
      rfl
  · refine ⟨?_, fun s => ?_⟩
    · rw [NiceAgent.setCheckList]
      simp [insertPair, List.orderedInsert_length]
    · rw [hstream]
      rfl

/-- **A triggered check**: either it only makes pairs older, or it adds a pair. -/
lemma scheduleTriggeredCheck_cases (hcompat : a.compatibility = .rfc5245) :
    (Wanes a (privScheduleTriggeredCheck env a sid cid nicesock rc useCandidate).1 ∧
      (Intact a (privScheduleTriggeredCheck env a sid cid nicesock rc useCandidate).1 sid →
        TriggerIdle a sid cid nicesock rc)) ∨
    (((privScheduleTriggeredCheck env a sid cid nicesock rc
        useCandidate).1.stream sid).conncheckList.length =
      (a.stream sid).conncheckList.length + 1 ∧
      ∀ s, ((privScheduleTriggeredCheck env a sid cid nicesock rc useCandidate).1.stream
        s).component = (a.stream s).component) := by
  rw [privScheduleTriggeredCheck]
  cases hfind : (a.stream sid).conncheckList.find? (triggers a cid nicesock rc) with
  | some p =>
      refine .inl ⟨triggerPair_wanes hcompat p, fun h => ⟨fun q hq => ?_, fun hnone => ?_⟩⟩
      · obtain rfl := Option.some.inj (hfind.symm.trans hq)
        exact triggerPair_intact hcompat (List.mem_of_find?_eq_some hfind) h
      · rw [hfind] at hnone
        cases hnone
  | none =>
      dsimp only
      cases hlocal : ((a.stream sid).component cid).localCandidates.find? fun l =>
          (a.candidate l).sockptr = some nicesock with
      | some l => exact .inr (addNewCheckPair_length a l rc .waiting)
      | none =>
          refine .inl ⟨.refl, fun _ => ⟨fun q hq => ?_, fun _ l hl => ?_⟩⟩
          · rw [hfind] at hq
            cases hq
          · simpa using List.find?_eq_none.mp hlocal l hl

/-- Nothing comes of a triggered check. -/
lemma scheduleTriggeredCheck_same (hcompat : a.compatibility = .rfc5245)
    (h : TriggerIdle a sid cid nicesock rc) :
    Same a (privScheduleTriggeredCheck env a sid cid nicesock rc useCandidate).1 ∧
      effects (privScheduleTriggeredCheck env a sid cid nicesock rc useCandidate).1 =
        effects a := by
  rw [privScheduleTriggeredCheck]
  cases hfind : (a.stream sid).conncheckList.find? (triggers a cid nicesock rc) with
  | some p => exact triggerPair_same hcompat (h.pair p hfind)
  | none =>
      dsimp only
      have hlocal : ((a.stream sid).component cid).localCandidates.find? (fun l =>
          (a.candidate l).sockptr = some nicesock) = none := by
        refine List.find?_eq_none.mpr fun l hl => ?_
        simpa using h.fresh hfind l hl
      rw [hlocal]
      exact ⟨.refl, rfl⟩

end Trigger

/-! ### The request -/

section Request

variable {env : Env} {agent a b : NiceAgent} {sid : StreamId} {cid : ComponentId}
  {rc : CandidateId} {nicesock : NiceSocket} {src : NiceAddress} {req : IceMessage}
  {verdict : Verdict} {reply : IceMessage} {useCandidate : Bool} {cands : RequestCandidates}

/-- The signal of the first request. -/
lemma initialRequest_same : Same a (agentSignalInitialBindingRequestReceived a sid) ∧
    effects (agentSignalInitialBindingRequestReceived a sid) = effects a ∧
    ∀ s, ((agentSignalInitialBindingRequestReceived a sid).stream s).component =
      (a.stream s).component := by
  rw [agentSignalInitialBindingRequestReceived]
  split
  · exact ⟨.refl, rfl, fun _ => rfl⟩
  · have hstream (s : StreamId) : (NiceAgent.emit { a with
        stream := Function.update a.stream sid
          { a.stream sid with initialBindingRequestReceived := true } }
        (.initialBindingRequestReceived sid)).stream s =
          { a.stream s with
            initialBindingRequestReceived := if s = sid then true
              else (a.stream s).initialBindingRequestReceived } := by
      by_cases hs : s = sid
      · subst hs
        simp [NiceAgent.emit]
      · simp [NiceAgent.emit, hs]
    refine ⟨⟨⟨rfl, fun s => ?_, fun s => ?_, fun s => ?_, fun s => ?_, fun s => ?_, fun s c => ?_,
      fun s c => ?_, fun s c => ?_, rfl, fun _ => rfl, rfl, rfl, [_], rfl⟩,
      fun p => ⟨(a.pair p).timerRestarted, rfl⟩, fun s c => ?_, fun s c => ?_⟩,
      effects_emit rfl, fun s => ?_⟩
    all_goals rw [hstream]

lemma emit_same (event : Trace) : Same a (a.emit event) :=
  ⟨emit_frame event, fun p => ⟨(a.pair p).timerRestarted, rfl⟩, fun _ _ => rfl, fun _ _ => rfl⟩

/-- The remote candidates are what they were. -/
def KeepsRemote (a b : NiceAgent) : Prop :=
  ∀ s c, ((b.stream s).component c).remoteCandidates = ((a.stream s).component c).remoteCandidates

lemma KeepsRemote.trans {c : NiceAgent} (h : KeepsRemote a b) (h' : KeepsRemote b c) :
    KeepsRemote a c := fun s d => (h' s d).trans (h s d)

lemma addForCandidatePairMatched_keeps (l r : CandidateId) (state : NiceCheckState) :
    KeepsRemote a (privConnCheckAddForCandidatePairMatched a sid cid l r state) := by
  obtain ⟨-, hcomp⟩ := @addNewCheckPair_length sid cid false a l r state
  refine KeepsRemote.trans (fun s c => ?_)
    (agentSignalComponentStateChange_frame _).remoteCandidates
  rw [hcomp]

lemma addForCandidate_keeps (r : CandidateId) :
    KeepsRemote a (connCheckAddForCandidate a sid cid r).1 := by
  have hpair (x : NiceAgent) (l : CandidateId) :
      KeepsRemote x (connCheckAddForCandidatePair x sid cid l r).1 := by
    rw [connCheckAddForCandidatePair]
    split
    · exact fun _ _ => rfl
    · split
      · exact fun _ _ => rfl
      · split
        · exact addForCandidatePairMatched_keeps l r .frozen
        · exact fun _ _ => rfl
  have hloop (list : List CandidateId) : ∀ acc : NiceAgent × ℕ,
      KeepsRemote acc.1 (list.foldl (fun acc l =>
        ((connCheckAddForCandidatePair acc.1 sid cid l r).1,
          if (connCheckAddForCandidatePair acc.1 sid cid l r).2 then acc.2 + 1 else acc.2))
        acc).1 := by
    induction list with
    | nil => exact fun _ _ _ => rfl
    | cons l list ih => exact fun acc => (hpair acc.1 l).trans (ih _)
  exact hloop _ (a, 0)

lemma scheduleTriggeredCheck_keeps :
    KeepsRemote a (privScheduleTriggeredCheck env a sid cid nicesock rc useCandidate).1 := by
  rw [privScheduleTriggeredCheck]
  cases (a.stream sid).conncheckList.find? (triggers a cid nicesock rc) with
  | some p => exact (triggerPair_frame env a sid cid p).remoteCandidates
  | none =>
      dsimp only
      cases ((a.stream sid).component cid).localCandidates.find? fun l =>
          (a.candidate l).sockptr = some nicesock with
      | some l =>
          intro s c
          dsimp only
          rw [(addNewCheckPair_length a l rc .waiting).2]
      | none => exact fun _ _ => rfl

lemma replyToConnCheck_keeps (rcand : Option CandidateId) :
    KeepsRemote a (privReplyToConnCheck env a sid cid rcand src nicesock (some reply)
      useCandidate) := by
  rw [privReplyToConnCheck.eq_def]
  cases rcand with
  | none => exact fun _ _ => rfl
  | some rc =>
      have hschedule := @scheduleTriggeredCheck_keeps env
        (a.emit (.send (some nicesock) src reply)) sid cid rc nicesock useCandidate
      dsimp only
      split
      · exact KeepsRemote.trans hschedule
          (privMarkPairNominated_frame env _ sid cid rc).remoteCandidates
      · exact hschedule

/-- Storing a check keeps the remote candidates. -/
lemma storePendingCheck_keeps (username : Option Bytes) (priority : UInt32) :
    KeepsRemote a (a.setComponent sid cid (privStorePendingCheck ((a.stream sid).component cid) src
      nicesock username priority useCandidate).1) := by
  intro s c
  by_cases hsc : (s, c) = (sid, cid)
  · obtain ⟨rfl, rfl⟩ := Prod.mk.inj hsc
    rw [setComponent_component_self, privStorePendingCheck]
    split <;> rfl
  · rw [setComponent_component_of_ne hsc]

/-- Whether a check nominates its candidate, for an RFC 5245 agent. -/
def nominates (agent : NiceAgent) (req : IceMessage) : Bool :=
  req.useCandidate || agent.controllingMode

lemma useCandidate_eq (hcompat : a.compatibility = .rfc5245) :
    (stunUsageIceConncheckUseCandidate req || a.controllingMode || a.compatibility = .google ||
      a.compatibility = .msn || a.compatibility = .oc2007) = nominates a req := by
  rw [hcompat, nominates, stunUsageIceConncheckUseCandidate]
  simp

/-- A check before the candidates of the peer is kept. -/
lemma acceptRequest_unknown (hcompat : a.compatibility = .rfc5245)
    (hnone : ((a.stream sid).component cid).remoteCandidates = [])
    (hcand : cands.remoteCandidate = none) :
    acceptRequest env a sid cid nicesock src req cands (some reply) =
      ((agentSignalInitialBindingRequestReceived a sid).emit
        (.send (some nicesock) src reply)).setComponent sid cid
        (privStorePendingCheck ((a.stream sid).component cid) src nicesock req.username
          (stunUsageIceConncheckPriority req) (nominates a req)).1 := by
  have hcomp := (@initialRequest_same a sid).2.2 sid
  have hcandidate : requestCandidate env (agentSignalInitialBindingRequestReceived a sid) sid cid
      nicesock src (stunUsageIceConncheckPriority req) cands =
        (agentSignalInitialBindingRequestReceived a sid, none) := by
    rw [requestCandidate, hcomp, if_neg fun h => h.1 hnone, hcand]
  rw [acceptRequest]
  dsimp only
  rw [useCandidate_eq hcompat, hcandidate]
  dsimp only
  rw [privReplyToConnCheck.eq_def]
  dsimp only
  have hcomp' : (((agentSignalInitialBindingRequestReceived a sid).emit
      (.send (some nicesock) src reply)).stream sid).component = (a.stream sid).component := hcomp
  rw [hcomp', if_pos hnone]

/-- The rest of a request, once its candidate is there. -/
lemma acceptRequest_of_some (hcompat : a.compatibility = .rfc5245) {b : NiceAgent}
    (hcandidate : requestCandidate env (agentSignalInitialBindingRequestReceived a sid) sid cid
      nicesock src (stunUsageIceConncheckPriority req) cands = (b, some rc))
    (hne : ((b.stream sid).component cid).remoteCandidates ≠ []) :
    acceptRequest env a sid cid nicesock src req cands (some reply) =
      privReplyToConnCheck env b sid cid (some rc) src nicesock (some reply) (nominates a req) := by
  have hkeeps := @replyToConnCheck_keeps env b sid cid nicesock src reply (nominates a req)
    (some rc)
  rw [acceptRequest]
  dsimp only
  rw [useCandidate_eq hcompat, hcandidate]
  dsimp only
  rw [if_neg]
  rw [hkeeps]
  exact hne

/-- A check from a known candidate. -/
lemma requestCandidate_known (hcand : cands.remoteCandidate = some rc) (priority : UInt32) :
    requestCandidate env a sid cid nicesock src priority cands = (a, some rc) := by
  rw [requestCandidate, if_neg (by simp [hcand]), hcand]

/-- A check from an unknown address has a remote candidate learned. -/
lemma requestCandidate_learned
    (hne : ((a.stream sid).component cid).remoteCandidates ≠ [])
    (hcand : cands.remoteCandidate = none) (priority : UInt32) :
    ∃ b rc, requestCandidate env a sid cid nicesock src priority cands = (b, some rc) ∧
      ((b.stream sid).component cid).remoteCandidates =
        ((a.stream sid).component cid).remoteCandidates ++ [rc] := by
  have hlearned : (((discoveryLearnRemotePeerReflexiveCandidate env a sid cid priority src nicesock
      cands.localCandidate cands.remoteCandidate2).1.stream sid).component cid).remoteCandidates =
        ((a.stream sid).component cid).remoteCandidates ++ [a.nextCandidate] := by
    rw [discoveryLearnRemotePeerReflexiveCandidate]
    exact congrArg (·.remoteCandidates) setComponent_component_self
  rw [requestCandidate, if_pos ⟨hne, hcand⟩]
  dsimp only
  split
  · exact ⟨_, _, rfl, (addForCandidatePairMatched_keeps _ _ _ _ _).trans hlearned⟩
  · exact ⟨_, _, rfl, (addForCandidate_keeps _ _ _).trans hlearned⟩

lemma setComponent_self_same :
    Same a (a.setComponent sid cid ((a.stream sid).component cid)) := by
  refine ⟨.setComponent rfl rfl rfl, fun p => ⟨(a.pair p).timerRestarted, rfl⟩, fun s c => ?_,
    fun s c => ?_⟩
  · by_cases hsc : (s, c) = (sid, cid)
    · obtain ⟨rfl, rfl⟩ := Prod.mk.inj hsc
      rw [setComponent_component_self]
    · rw [setComponent_component_of_ne hsc]
  · by_cases hsc : (s, c) = (sid, cid)
    · obtain ⟨rfl, rfl⟩ := Prod.mk.inj hsc
      rw [setComponent_component_self]
    · rw [setComponent_component_of_ne hsc]

/-- What is asked of a refused check: the agent is unchanged, and the error response is sent. -/
def OnlyAnswers (agent agent' : NiceAgent) (nicesock : NiceSocket) (src : NiceAddress)
    (reply : IceMessage) : Prop :=
  Unchanged agent agent' ∧
    effects agent' = effects agent ++ [.send (some nicesock) src reply]

/-- A reply to a known candidate leaves the agent unchanged exactly when nothing comes of the
triggered check and of the nomination. -/
lemma replyToConnCheck_iff (hcompat : a.compatibility = .rfc5245)
    (hw : Within a sid cid (a.stream sid).conncheckList) (hsame : Same agent a)
    (heffects : effects a = effects agent) :
    OnlyAnswers agent (privReplyToConnCheck env a sid cid (some rc) src nicesock (some reply)
      useCandidate) nicesock src reply ↔
      TriggerIdle agent sid cid nicesock rc ∧ (useCandidate = true →
        ∀ p ∈ (agent.stream sid).conncheckList, MarkIdle agent sid cid rc p) := by
  set a₁ := a.emit (.send (some nicesock) src reply) with ha₁
  have hsame₁ : Same agent a₁ := hsame.trans (emit_same _)
  have heffects₁ : effects a₁ = effects agent ++ [.send (some nicesock) src reply] := by
    rw [ha₁, effects_emit_effect rfl, heffects]
  have hw₁ : Within a₁ sid cid (a.stream sid).conncheckList := hw.of_frame (emit_frame _)
  have hcompat₁ : a₁.compatibility = .rfc5245 := hcompat
  have hreply : privReplyToConnCheck env a sid cid (some rc) src nicesock (some reply)
      useCandidate =
        if useCandidate then
          privMarkPairNominated env
            (privScheduleTriggeredCheck env a₁ sid cid nicesock rc useCandidate).1 sid cid rc
        else (privScheduleTriggeredCheck env a₁ sid cid nicesock rc useCandidate).1 := by
    rw [privReplyToConnCheck.eq_def]
  have hmark := privMarkPairNominated_frame env
    (privScheduleTriggeredCheck env a₁ sid cid nicesock rc useCandidate).1 sid cid rc
  rw [hreply]
  constructor
  · rintro ⟨hunchanged, heff⟩
    rw [← heffects₁] at heff
    rcases @scheduleTriggeredCheck_cases env a₁ sid cid rc nicesock useCandidate hcompat₁ with
      ⟨hwanes, htrigger⟩ | ⟨hlength, -⟩
    · -- no pair is older in the end, hence none was so after the triggered check
      have hw₂ := hw₁.of_frame hwanes.frame
      have hintact {b : NiceAgent} (hb : Unchanged agent b) (hbeff : effects b = effects a₁) :
          Intact a₁ b sid := by
        refine ⟨hbeff, fun p hp => ?_⟩
        rw [hsame₁.frame.list] at hp
        rw [hsame₁.state, hsame₁.nominated, hb.state sid p hp, hb.nominated sid p hp]
        exact ⟨le_rfl, id⟩
      split at hunchanged
      next huse =>
        rw [if_pos huse] at heff
        have hall := hintact hunchanged heff
        have hlist : (a.stream sid).conncheckList =
            ((privScheduleTriggeredCheck env a₁ sid cid nicesock rc useCandidate).1.stream
              sid).conncheckList := (hwanes.frame.list sid).symm
        have hmarks := @markPairs_wanes env sid cid rc _ _ (hlist ▸ hw₂)
        have hidle := htrigger (hall.left hwanes hmarks)
        obtain ⟨hsame₂, -⟩ :=
          @scheduleTriggeredCheck_same env a₁ sid cid rc nicesock useCandidate hcompat₁ hidle
        have hmarked := @markPairs_intact env sid cid rc _ _ (hlist ▸ hw₂) (fun p hp => hp)
          (hall.right hwanes hmarks)
        refine ⟨hsame₁.triggerIdle.mp hidle, fun _ p hp => ?_⟩
        refine (hsame₁.trans hsame₂).markIdle.mp (hmarked p ?_)
        rw [(hsame₁.trans hsame₂).frame.list]
        exact hp
      next huse =>
        rw [if_neg huse] at heff
        exact ⟨hsame₁.triggerIdle.mp (htrigger (hintact hunchanged heff)), fun h => absurd h huse⟩
    · -- the list has a new pair
      have hlist := hunchanged.list sid
      have hbefore := hsame₁.frame.list sid
      split at hlist
      · rw [hmark.list] at hlist
        rw [hlist, hbefore] at hlength
        omega
      · rw [hlist, hbefore] at hlength
        omega
  · rintro ⟨htrigger, hmarked⟩
    obtain ⟨hsame₂, heffects₂⟩ := @scheduleTriggeredCheck_same env a₁ sid cid rc nicesock
      useCandidate hcompat₁ (hsame₁.triggerIdle.mpr htrigger)
    have hsame₂ := hsame₁.trans hsame₂
    split
    next huse =>
      obtain ⟨hsame₃, heffects₃⟩ := @markPairs_same env sid cid rc
        ((privScheduleTriggeredCheck env a₁ sid cid nicesock rc useCandidate).1.stream
          sid).conncheckList _ fun p hp => hsame₂.markIdle.mpr
            (hmarked huse p (hsame₂.frame.list sid ▸ hp))
      exact ⟨(hsame₂.trans hsame₃).unchanged, heffects₃.trans (heffects₂.trans heffects₁)⟩
    · exact ⟨hsame₂.unchanged, heffects₂.trans heffects₁⟩

/-- What comes after the reply leaves the agent unchanged exactly under the condition. -/
lemma acceptRequest_iff (hcompat : agent.compatibility = .rfc5245)
    (hw : Within agent sid cid (agent.stream sid).conncheckList)
    (hcand : cands.remoteCandidate = ((agent.stream sid).component cid).remoteCandidates.find?
      fun c => (agent.candidate c).addr = src) :
    OnlyAnswers agent (acceptRequest env agent sid cid nicesock src req cands (some reply)) nicesock
        src reply ↔
      LeavesAlone agent sid cid nicesock src (nominates agent req) := by
  obtain ⟨hsame, heffects, hcomp⟩ := @initialRequest_same agent sid
  by_cases hnone : ((agent.stream sid).component cid).remoteCandidates = []
  · have hfind : cands.remoteCandidate = none := by rw [hcand, hnone]; rfl
    rw [acceptRequest_unknown hcompat hnone hfind, privStorePendingCheck]
    set a := (agentSignalInitialBindingRequestReceived agent sid).emit
      (.send (some nicesock) src reply) with ha
    have hcomp' : (a.stream sid).component cid = (agent.stream sid).component cid := by
      rw [ha, NiceAgent.emit, hcomp]
    split
    next hfull =>
      -- there is no room
      refine iff_of_true ⟨?_, ?_⟩ ⟨fun _ => hfull.2, fun hne => absurd hnone hne⟩
      · dsimp only
        rw [← hcomp']
        exact (hsame.trans ((emit_same _).trans setComponent_self_same)).unchanged
      · rw [← heffects]
        exact effects_emit_effect rfl
    next hroom =>
      refine iff_of_false (fun h => ?_) fun h => hroom ⟨?_, h.unknown hnone⟩
      · have hchecks := h.1.incomingChecks sid cid
        rw [setComponent_component_self] at hchecks
        simp at hchecks
      · intro hnil
        have hlen := h.unknown hnone
        rw [hnil] at hlen
        exact absurd hlen (by decide)
  · cases hfind : ((agent.stream sid).component cid).remoteCandidates.find?
        fun c => (agent.candidate c).addr = src with
    | none =>
        -- a candidate is learned
        rw [hfind] at hcand
        obtain ⟨b, rc, hb, hremote⟩ := @requestCandidate_learned env
          (agentSignalInitialBindingRequestReceived agent sid) sid cid nicesock src cands
          (by rw [hcomp]; exact hnone) hcand (stunUsageIceConncheckPriority req)
        rw [hcomp] at hremote
        rw [acceptRequest_of_some hcompat hb (by rw [hremote]; simp)]
        refine iff_of_false (fun h => ?_) fun h => ?_
        · have hkeeps := h.1.remoteCandidates sid cid
          rw [replyToConnCheck_keeps, hremote] at hkeeps
          simp at hkeeps
        · obtain ⟨rc, hrc, -⟩ := h.known hnone
          rw [hfind] at hrc
          cases hrc
    | some rc =>
        rw [hfind] at hcand
        rw [acceptRequest_of_some hcompat (requestCandidate_known hcand _)
          (by rw [hcomp]; exact hnone)]
        have hw' := hw.of_frame hsame.frame
        rw [← hsame.frame.list] at hw'
        rw [replyToConnCheck_iff (hsame.frame.compatibility.trans hcompat) hw' hsame heffects]
        constructor
        · exact fun h => ⟨fun hnil => absurd hnil hnone, fun _ => ⟨rc, hfind, h⟩⟩
        · intro h
          obtain ⟨rc', hrc', hidle⟩ := h.known hnone
          obtain rfl := Option.some.inj (hfind.symm.trans hrc')
          exact hidle

/-- The replies to a conflicting request and to one that is not. -/
lemma createReply_error {stun : StunAgentConfig} {control : Bool} {tie : UInt64}
    (hreq : req.cls = .request) (hmethod : req.method = STUN_BINDING)
    (hreply : (stunUsageIceConncheckCreateReply stun MAX_STUN_DATAGRAM_PAYLOAD req src control
      tie).2.1 = some reply) (herror : reply.cls = .error) :
    stunUsageIceConncheckCreateReply stun MAX_STUN_DATAGRAM_PAYLOAD req src control tie =
        (.success, some reply, control) ∧
      reply.errorCode = some STUN_ERROR_ROLE_CONFLICT := by
  have hbuild (ret : StunUsageIceReturn)
      (h : (buildReply stun MAX_STUN_DATAGRAM_PAYLOAD req src ret).2 = some reply) : False := by
    rw [buildReply] at h
    split at h
    · cases h
    · split at h
      · cases h
      · obtain rfl := Option.some.inj h
        cases herror
  rw [stunUsageIceConncheckCreateReply, if_neg (not_not.mpr hreq),
    if_neg (not_not.mpr hmethod)] at hreply ⊢
  cases hrole : req.role control with
  | none =>
      rw [hrole] at hreply
      exact (hbuild _ hreply).elim
  | some q =>
      rw [hrole] at hreply
      dsimp only at hreply ⊢
      split at hreply
      · exact (hbuild _ hreply).elim
      next hlt =>
        rw [if_neg hlt]
        dsimp only at hreply ⊢
        refine ⟨by rw [hreply], ?_⟩
        rw [stunBindError] at hreply
        split at hreply
        · obtain rfl := Option.some.inj hreply
          rfl
        · cases hreply

lemma refusal_errorCode {stun : StunAgentConfig}
    (h : refusal agent stun req verdict = some reply) :
    reply.errorCode ≠ some STUN_ERROR_ROLE_CONFLICT := by
  have hcode {req : IceMessage} {code : ℕ} {lengths : List ℕ} (hne : code ≠ 487)
      (h : errorResponse stun req code lengths = some reply) :
      reply.errorCode ≠ some STUN_ERROR_ROLE_CONFLICT := by
    rw [errorResponse] at h
    split at h
    · obtain rfl := Option.some.inj h
      exact fun heq => hne (Option.some.inj heq)
    · cases h
  rw [refusal] at h
  split at h
  · cases h
  · split at h
    · exact hcode (by decide) h
    · exact hcode (by decide) h
    · exact hcode (by decide) h
    · cases h

end Request

/-- **Refused checks.**  A request of which an RFC 5245 agent says 400, 401 or 420 leaves the agent
unchanged; one of which it says 487 does so exactly when nothing comes of it, since it is processed
like any other. -/
theorem refused_unchanged_iff (env : Env) (agent : NiceAgent) (sid : StreamId) (cid : ComponentId)
    (nicesock : NiceSocket) (src : NiceAddress) (req : IceMessage) (verdict : Verdict)
    (reply : IceMessage) (hcompat : agent.compatibility = .rfc5245) (howned : ListsOwned agent)
    (hsid : sid ∈ agent.streams) (hcid : cid ∈ (agent.stream sid).components)
    (hrefuses : Refuses agent sid cid src req verdict reply) :
    OnlyAnswers agent
      (connCheckHandleInboundRequest env agent sid cid nicesock src req verdict).1 nicesock src
        reply ↔
      (reply.errorCode = some STUN_ERROR_ROLE_CONFLICT →
        LeavesAlone agent sid cid nicesock src (nominates agent req)) := by
  cases hrefuses with
  | invalid hvalid hreply =>
      refine iff_of_true ?_ fun h => absurd h (refusal_errorCode hreply)
      have hhandle : connCheckHandleInboundRequest env agent sid cid nicesock src req verdict =
          (agent.emit (.send (some nicesock) src reply), true) := by
        rw [connCheckHandleInboundRequest]
        dsimp only
        rw [if_neg (by rcases hvalid with h | h | h <;> simp [h]), if_pos hvalid, hreply]
      rw [hhandle]
      exact ⟨(emit_same _).unchanged, effects_emit_effect rfl⟩
  | roleConflict hvalid hreq hmethod hreply herror =>
      obtain ⟨hcreate, hcode⟩ := createReply_error hreq hmethod hreply herror
      have hw : Within agent sid cid (agent.stream sid).conncheckList :=
        ⟨hsid, hcid, howned.owner sid hsid⟩
      rw [connCheckHandleInboundRequest]
      dsimp only
      rw [hvalid, hcompat]
      simp only [reduceCtorEq, or_self, if_false, ne_eq, not_true, false_and, and_false,
        Option.map_none, hcreate, true_or, if_true, hcode, forall_const]
      exact acceptRequest_iff hcompat hw rfl

/-- A socket. -/
def plainSocket : NiceSocket :=
  { id := 0, addr := ⟨false, [], 0, 0⟩, type := .udpBsd, reliable := false, fileno := true }

/-- An agent with one stream, whose component has the remote candidates `remote` and a pair that is
being checked. -/
def conflictAgent (controlling : Bool) (remote : List CandidateId) : NiceAgent :=
  { twoStreamAgent [] with
    controllingMode := controlling
    streams := [1]
    stream := fun _ =>
      { readyStream [0] with
        component := fun _ =>
          { readyComponent with localCandidates := [0], remoteCandidates := remote } }
    candidate := fun _ => { blankCandidate with sockptr := some plainSocket }
    pair := fun _ => blankPair 1 .inProgress 30 }

lemma conflictAgent_owned {controlling : Bool} {remote : List CandidateId} :
    ListsOwned (conflictAgent controlling remote) :=
  ⟨List.nodup_singleton 1, fun _ hsid _ _ => (List.mem_singleton.mp hsid).symm⟩

/-- A request whose sender claims either role. -/
def conflictRequest : IceMessage :=
  { cls := .request, method := STUN_BINDING, id := List.replicate 16 0, useCandidate := false
    priority := some 1, iceControlling := some 0, iceControlled := some 0, username := none
    candidateIdentifier := none, mappedAddress := none, errorCode := none, integrity := false }

lemma conflictRequest_refused {controlling : Bool} {remote : List CandidateId} :
    Refuses (conflictAgent controlling remote) 1 1 blankCandidate.addr conflictRequest
      ⟨.success, false, 0⟩ (errorReply conflictRequest STUN_ERROR_ROLE_CONFLICT) := by
  have hreply : ∀ controlling, (stunUsageIceConncheckCreateReply
      (niceAgentInitStunAgent .rfc5245 none).toStunAgentConfig MAX_STUN_DATAGRAM_PAYLOAD
      conflictRequest blankCandidate.addr controlling 0).2.1 =
        some (errorReply conflictRequest STUN_ERROR_ROLE_CONFLICT) := by
    decide +kernel
  exact .roleConflict rfl rfl rfl (hreply controlling) rfl

/-- A controlled agent says 487 of a check whose pair is in progress. -/
theorem refused_unchanged_sample :
    OnlyAnswers (conflictAgent false [0]) (connCheckHandleInboundRequest plainEnv
      (conflictAgent false [0]) 1 1 plainSocket blankCandidate.addr conflictRequest
        ⟨.success, false, 0⟩).1 plainSocket blankCandidate.addr
          (errorReply conflictRequest STUN_ERROR_ROLE_CONFLICT) := by
  refine (refused_unchanged_iff plainEnv (conflictAgent false [0]) 1 1 plainSocket
    blankCandidate.addr conflictRequest ⟨.success, false, 0⟩ _ rfl conflictAgent_owned (by decide)
    (by decide) conflictRequest_refused).mpr fun _ => ⟨nofun, fun _ => ⟨0, rfl, ⟨?_, nofun⟩, nofun⟩⟩
  exact fun p _ => .inl rfl

/-- **A refused check is kept**: the candidates of the peer have not come, and the check that was
answered with 487 is stored for when they do. -/
theorem refused_check_stored :
    ∃ env agent sid cid nicesock src req verdict reply, agent.compatibility = .rfc5245 ∧
      ListsOwned agent ∧ sid ∈ agent.streams ∧ cid ∈ (agent.stream sid).components ∧
      Refuses agent sid cid src req verdict reply ∧
      ¬OnlyAnswers agent
        (connCheckHandleInboundRequest env agent sid cid nicesock src req verdict).1 nicesock src
          reply := by
  refine ⟨plainEnv, conflictAgent true [], 1, 1, plainSocket, blankCandidate.addr, conflictRequest,
    ⟨.success, false, 0⟩, _, rfl, conflictAgent_owned, by decide, by decide,
    conflictRequest_refused, fun h => ?_⟩
  have hchecks := congrArg List.length (h.1.incomingChecks 1 1)
  have hstored : ((((connCheckHandleInboundRequest plainEnv (conflictAgent true []) 1 1 plainSocket
      blankCandidate.addr conflictRequest ⟨.success, false, 0⟩).1.stream 1).component
        1).incomingChecks).length = 1 := by
    decide +kernel
  rw [hstored] at hchecks
  cases hchecks

end LibNice.Ice
