import LibNice.Foundation.Run
import LibNice.Ice.NominatedPairs
import LibNice.Ice.Nomination

/-!
When the checks of a component are concluded (`agent/conncheck.c`).

* `Concluded`: what READY is to mean.
* `CheckEvent`: a round of a nomination by the peer, a call of
  `priv_update_check_list_state_for_ready` by itself, an answered check, and anything else.
* `CheckEvent.calls`: the state in which the event comes to that call.
* `Covered`: the selected pair of each component has at least the priority of its nominated valid
  pairs; `covered_after`: what keeps it so when a pair becomes one of them.
* `CheckEvent.Keeps`, `CheckEvent.Fits`: what is asked of an event, and what it takes.
* `concluded_run`: **READY means concluded** in every run whose events fit; `ready_below_nominated`
  is one that does not.
* `privMarkPairNominated_events`, `mapReply_events`, `triggerPair_leaves`, `tickStream_leaves`: the
  functions of the source as events.
-/

namespace LibNice.Ice

open LibNice.Foundation LibNice.Stun

/-! ### What READY is to mean -/

/-- The selected pair of the component has at least the priority of the pair `p`. -/
structure Covers (agent : NiceAgent) (sid : StreamId) (cid : ComponentId) (p : PairId) : Prop where
  selected : ((agent.stream sid).component cid).Selected
  le : (agent.pair p).priority ≤ ((agent.stream sid).component cid).selectedPair.priority

/-- The checks of the component are concluded: it has a nominated valid pair, its selected pair is
set and has at least the priority of each of them, and no pair is left to be checked. -/
structure Concluded (agent : NiceAgent) (sid : StreamId) (cid : ComponentId) : Prop where
  nominated : ∃ p ∈ (agent.stream sid).conncheckList, nominatedOf agent cid p = true
  selected : ((agent.stream sid).component cid).Selected
  highest : ∀ p ∈ (agent.stream sid).conncheckList, nominatedOf agent cid p = true →
    (agent.pair p).priority ≤ ((agent.stream sid).component cid).selectedPair.priority
  settled : ∀ p ∈ (agent.stream sid).conncheckList, (agent.pair p).componentId = cid →
    (agent.pair p).settled

/-! ### Events -/

/-- What happens to the checks of an agent: a round of `priv_mark_pair_nominated`, a call of
`priv_update_check_list_state_for_ready` by the timer or a triggered check, an answer to the check
of the pair `p`, or anything else, after which the agent is `agent`. -/
inductive CheckEvent where
  | mark (env : Env) (sid : StreamId) (cid : ComponentId) (remoteCand : CandidateId) (p : PairId)
  | update (sid : StreamId) (cid : ComponentId)
  | answer (env : Env) (sid : StreamId) (cid : ComponentId) (p : PairId) (sockptr : NiceSocket)
      (localCandidate remoteCandidate : Option CandidateId) (mapped : Option NiceAddress)
  | other (agent : NiceAgent)

/-- The state in which an event calls `priv_update_check_list_state_for_ready`, and the component
that it is called for. -/
def CheckEvent.calls (agent : NiceAgent) : CheckEvent → Option (NiceAgent × StreamId × ComponentId)
  | .mark env sid cid remoteCand p =>
      if (agent.pair p).remoteCand = remoteCand then
        some (reselect env (nominate agent p) sid cid p, sid, cid)
      else none
  | .update sid cid => some (agent, sid, cid)
  | .answer env sid cid p sockptr localCandidate remoteCandidate mapped =>
      match privAnswered env agent sid cid p sockptr localCandidate remoteCandidate mapped with
      | .ok agent => some (agent, sid, cid)
      | .error _ => none
  | .other _ => none

/-- The agent after an event. -/
def checkNext (agent : NiceAgent) (e : CheckEvent) : NiceAgent :=
  match e.calls agent with
  | some (called, sid, cid) => privUpdateCheckListStateForReady called sid cid
  | none =>
      match e with
      | .other agent => agent
      | _ => agent

/-- The pair of an event is one of its stream only. -/
def CheckEvent.Possible (agent : NiceAgent) : CheckEvent → Prop
  | .mark _ sid _ _ p => ∀ s ∈ agent.streams, p ∈ (agent.stream s).conncheckList → s = sid
  | .update _ _ => True
  | .answer _ sid _ p _ _ _ _ => ∀ s ∈ agent.streams, p ∈ (agent.stream s).conncheckList → s = sid
  | .other _ => True

/-- A component that is moved to READY by an event is concluded then. -/
def CheckEvent.Keeps (agent : NiceAgent) (e : CheckEvent) : Prop :=
  ∀ called sid cid, e.calls agent = some (called, sid, cid) →
    ((called.stream sid).component cid).state ≠ .ready →
    (((privUpdateCheckListStateForReady called sid cid).stream sid).component cid).state = .ready →
    Concluded (privUpdateCheckListStateForReady called sid cid) sid cid

/-! ### What it takes -/

/-- The pair `p` has a higher priority than the selected one, and `found` is what
`component_find_pair` finds for its foundations. -/
structure Reselects (agent : NiceAgent) (sid : StreamId) (cid : ComponentId) (p : PairId)
    (found : CandidatePair) : Prop where
  lt : ((agent.stream sid).component cid).selectedPair.priority < (agent.pair p).priority
  found : componentFindPair agent ((agent.stream sid).component cid)
    (agent.candidate (agent.pair p).localCand).foundation
    (agent.candidate (agent.pair p).remoteCand).foundation = some found

/-- What it takes to look for a better pair than the selected one in `best`, when `new` becomes a
nominated valid one: what is found has at least the priority of all such pairs of the component, and
where nothing is, the selected pair has that of `new`. -/
structure Fitting (agent : NiceAgent) (sid : StreamId) (cid : ComponentId)
    (best new : Option PairId) : Prop where
  found : ∀ p ∈ best, ∀ found, Reselects agent sid cid p found →
    ∀ q ∈ (agent.stream sid).conncheckList,
      nominatedOf agent cid q = true ∨ q ∈ new ∧ (agent.pair q).componentId = cid →
        (agent.pair q).priority ≤ found.priority
  kept : ∀ q ∈ new,
    ((agent.pair q).componentId = cid → ∀ p ∈ best, ∀ found, ¬Reselects agent sid cid p found) →
      Covers agent sid (agent.pair q).componentId q

/-- The answer makes the pair of the check succeed. -/
def succeeds (agent : NiceAgent) (sid : StreamId) (cid : ComponentId)
    (mapped : Option NiceAddress) : Bool :=
  mapped.all fun mapped => (matchingLocal agent sid cid mapped).isSome

/-- The pair that is valid with it: the first one of the local candidate that has the mapped
address. -/
def validPair (agent : NiceAgent) (sid : StreamId) (cid : ComponentId) (p : PairId)
    (remoteCandidate : Option CandidateId) (mapped : Option NiceAddress) : PairId :=
  ((mapped.bind (matchingLocal agent sid cid)).bind fun cand =>
    pairOf agent sid cand remoteCandidate).getD p

/-- The pair, if it is nominated. -/
def ifNominated (agent : NiceAgent) (p : PairId) : Option PairId :=
  if (agent.pair p).nominated then some p else none

/-- What an event takes. -/
def CheckEvent.Fits (agent : NiceAgent) : CheckEvent → Prop
  | .mark _ sid cid remoteCand p =>
      (agent.pair p).remoteCand = remoteCand → (agent.pair p).valid = true →
        Fitting agent sid cid (some p) (some p)
  | .update _ _ => True
  | .answer _ sid cid p _ _ remoteCandidate mapped =>
      succeeds agent sid cid mapped = true →
        Fitting agent sid cid
          (ifNominated agent (validPair agent sid cid p remoteCandidate mapped))
          (ifNominated agent p)
  | .other agent' => Leaves agent agent'

/-- The selected pair of each component has at least the priority of its nominated valid pairs. -/
def Covered (agent : NiceAgent) : Prop :=
  ∀ sid ∈ agent.streams, ∀ cid, ∀ p ∈ (agent.stream sid).conncheckList,
    nominatedOf agent cid p = true → Covers agent sid cid p

/-! ### What covers the pairs -/

section Covered

variable {env : Env} {a b c : NiceAgent} {sid : StreamId} {cid : ComponentId} {p : PairId}
  {best new : Option PairId}

lemma Covered.leaves (h : Covered a) (h' : Leaves a b) : Covered b := by
  intro s hs c q hq hn
  have hstill := h' s hs c q hq hn
  obtain ⟨hselected, hle⟩ := h s hstill.stream c q hstill.mem hstill.nominated
  exact ⟨hstill.selected hselected, UInt64.le_trans hstill.priority (UInt64.le_trans hle hstill.le)⟩

/-- What is found is one pair. -/
lemma Reselects.unique {found found' : CandidatePair} (h : Reselects a sid cid p found)
    (h' : Reselects a sid cid p found') : found' = found :=
  Option.some.inj (h'.found.symm.trans h.found)

/-- What happens to the selected pairs between `a` and `b`: the component `cid` takes what it finds
for `best`, or there is nothing to take. -/
inductive Chosen (a b : NiceAgent) (sid : StreamId) (cid : ComponentId) (best : Option PairId) :
    Prop where
  | found (p : PairId) (found : CandidatePair) : p ∈ best → Reselects a sid cid p found →
      ((b.stream sid).component cid).selection =
        (found.localCand, found.remoteCand, found.priority) →
      (∀ s c, (s, c) ≠ (sid, cid) →
        ((b.stream s).component c).selection = ((a.stream s).component c).selection) →
      Chosen a b sid cid best
  | kept : (∀ p ∈ best, ∀ found, ¬Reselects a sid cid p found) →
      (∀ s c, ((b.stream s).component c).selection = ((a.stream s).component c).selection) →
      Chosen a b sid cid best

lemma Covers.selection {s : StreamId} {d : ComponentId} {q : PairId} (h : Covers a s d q)
    (hselection : ((b.stream s).component d).selection = ((a.stream s).component d).selection)
    (hprio : (b.pair q).priority = (a.pair q).priority) : Covers b s d q := by
  obtain ⟨hselected, hpriority⟩ := selected_of_selection hselection
  exact ⟨hselected.mp h.selected, by rw [hprio, hpriority]; exact h.le⟩

/-- **The selected pairs are as high as they have to be** after a pair has become a nominated valid
one, where that fits. -/
lemma covered_after (h : Covered a) (hfits : Fitting a sid cid best new)
    (hstreams : b.streams = a.streams)
    (hlist : ∀ s, (b.stream s).conncheckList = (a.stream s).conncheckList)
    (honly : ∀ p ∈ new, ∀ s ∈ a.streams, p ∈ (a.stream s).conncheckList → s = sid)
    (hnew : ∀ q d, nominatedOf b d q = true → (b.pair q).priority = (a.pair q).priority ∧
      (nominatedOf a d q = true ∨ q ∈ new ∧ (a.pair q).componentId = d))
    (hchosen : Chosen a b sid cid best) : Covered b := by
  intro s hs d q hq hn
  rw [hstreams] at hs
  rw [hlist] at hq
  obtain ⟨hprio, hwas⟩ := hnew q d hn
  cases hchosen with
  | kept hnone hselection =>
      refine Covers.selection ?_ (hselection s d) hprio
      rcases hwas with hwas | ⟨hmem, rfl⟩
      · exact h s hs d q hq hwas
      · obtain rfl := honly q hmem s hs hq
        exact hfits.kept q hmem fun _ => hnone
  | found p found hbest hreselects hself hother =>
      by_cases hsd : (s, d) = (sid, cid)
      · obtain ⟨rfl, rfl⟩ := Prod.mk.inj hsd
        obtain ⟨hlocal, hrest⟩ := Prod.mk.inj hself
        obtain ⟨hremote, hpriority⟩ := Prod.mk.inj hrest
        obtain ⟨hl, hr⟩ := componentFindPair_selected hreselects.found
        refine ⟨⟨by rw [hlocal, hl], by rw [hremote, hr]⟩, ?_⟩
        rw [hprio, hpriority]
        exact hfits.found p hbest found hreselects q hq hwas
      · refine Covers.selection ?_ (hother s d hsd) hprio
        rcases hwas with hwas | ⟨hmem, rfl⟩
        · exact h s hs d q hq hwas
        · obtain rfl := honly q hmem s hs hq
          exact hfits.kept q hmem fun hc => absurd (by rw [hc]) hsd

/-- What `priv_update_selected_pair` chooses for a pair. -/
lemma updateSelectedPair_chosen :
    Chosen a (privUpdateSelectedPair env a sid cid p) sid cid (some p) ∧
      ∀ q d, nominatedOf (privUpdateSelectedPair env a sid cid p) d q = true →
        nominatedOf a d q = true ∧
          ((privUpdateSelectedPair env a sid cid p).pair q).priority = (a.pair q).priority := by
  by_cases hselects : ∃ found, Reselects a sid cid p found
  · obtain ⟨found, hreselects⟩ := hselects
    have h := @updateSelectedPair_reselected env a sid cid p found hreselects.found hreselects.lt
    exact ⟨.found p found rfl hreselects h.self h.other, h.pair⟩
  · have hsame : privUpdateSelectedPair env a sid cid p = a := by
      refine updateSelectedPair_of_not fun ⟨hlt, hfound⟩ => hselects ?_
      obtain ⟨found, hfound⟩ := Option.isSome_iff_exists.mp hfound
      exact ⟨found, hlt, hfound⟩
    rw [hsame]
    refine ⟨.kept (fun q hq found hreselects => ?_) fun _ _ => rfl, fun q d hq => ⟨hq, rfl⟩⟩
    obtain rfl := Option.some.inj hq
    exact hselects ⟨found, hreselects⟩

/-- The candidates and the selected pairs are the same, and so is what matters of the pair `p`. -/
structure SameChoice (a b : NiceAgent) (p : PairId) : Prop where
  stream : b.stream = a.stream
  candidate : b.candidate = a.candidate
  controllingMode : b.controllingMode = a.controllingMode
  localCand : (b.pair p).localCand = (a.pair p).localCand
  remoteCand : (b.pair p).remoteCand = (a.pair p).remoteCand
  priority : (b.pair p).priority = (a.pair p).priority

lemma SameChoice.reselects (h : SameChoice a b p) {found : CandidatePair} :
    Reselects b sid cid p found ↔ Reselects a sid cid p found := by
  have hfind (component : Component) (l r : Bytes) :
      componentFindPair b component l r = componentFindPair a component l r := by
    have hprio (loc remote : NiceCandidate) :
        agentCandidatePairPriority b loc remote = agentCandidatePairPriority a loc remote := by
      rw [agentCandidatePairPriority, agentCandidatePairPriority, h.controllingMode]
    rw [componentFindPair, componentFindPair]
    simp only [h.candidate, hprio]
  constructor
  · rintro ⟨hlt, hfound⟩
    rw [h.stream, h.priority] at hlt
    rw [hfind, h.stream, h.candidate, h.localCand, h.remoteCand] at hfound
    exact ⟨hlt, hfound⟩
  · rintro ⟨hlt, hfound⟩
    refine ⟨by rwa [h.stream, h.priority], ?_⟩
    rwa [hfind, h.stream, h.candidate, h.localCand, h.remoteCand]

/-- What is chosen does not depend on the rest of the agent. -/
lemma Chosen.of_same (h : Chosen b c sid cid best) (hsame : ∀ p ∈ best, SameChoice a b p)
    (hstream : b.stream = a.stream) : Chosen a c sid cid best := by
  cases h with
  | found p found hbest hreselects hself hother =>
      exact .found p found hbest ((hsame p hbest).reselects.mp hreselects) hself
        fun s d hne => (hother s d hne).trans (by rw [hstream])
  | kept hnone hselection =>
      exact .kept (fun p hp found hreselects => hnone p hp found
        ((hsame p hp).reselects.mpr hreselects)) fun s d => (hselection s d).trans (by rw [hstream])

end Covered

/-! ### One event -/

section Events

variable {env : Env} {a b called : NiceAgent} {sid : StreamId} {cid : ComponentId} {p : PairId}
  {sockptr : NiceSocket} {localCandidate remoteCandidate : Option CandidateId}
  {mapped : Option NiceAddress}

/-- A nomination by the peer. -/
lemma mark_covered (h : Covered a)
    (honly : ∀ s ∈ a.streams, p ∈ (a.stream s).conncheckList → s = sid)
    (hfits : (a.pair p).valid = true → Fitting a sid cid (some p) (some p)) :
    Covered (reselect env (nominate a p) sid cid p) := by
  have hself := @nominate_pair a p
  rw [reselect]
  by_cases hvalid : (a.pair p).valid = true
  · rw [if_pos (by rw [hself]; exact hvalid)]
    obtain ⟨hchosen, hpairs⟩ := @updateSelectedPair_chosen env (nominate a p) sid cid p
    have hframe := privUpdateSelectedPair_frame env (nominate a p) sid cid p
    have hsame : SameChoice a (nominate a p) p :=
      ⟨rfl, rfl, rfl, by rw [hself], by rw [hself], by rw [hself]⟩
    have hchosen' : Chosen a (privUpdateSelectedPair env (nominate a p) sid cid p) sid cid
        (some p) := hchosen.of_same (fun q hq => Option.some.inj hq ▸ hsame) rfl
    refine covered_after h (hfits hvalid) hframe.streams hframe.list
      (fun q hq => ?_) (fun q d hq => ?_) hchosen'
    · obtain rfl := Option.some.inj hq
      exact honly
    · obtain ⟨hn, hprio⟩ := hpairs q d hq
      by_cases hqp : q = p
      · subst hqp
        have hcomponent := (valid_of_nominatedOf hn).1
        rw [hself] at hcomponent hprio
        exact ⟨hprio, .inr ⟨rfl, hcomponent⟩⟩
      · rw [nominatedOf, nominate, setPair_pair_of_ne hqp] at hn
        rw [nominate, setPair_pair_of_ne hqp] at hprio
        exact ⟨hprio, .inl hn⟩
  · rw [if_neg (by rw [hself]; exact hvalid)]
    exact h.leaves (@Quiet.setPair a p { a.pair p with nominated := true } rfl
      fun hv => absurd hv hvalid).leaves

lemma withoutRequest_pair (q : PairId) :
    (withoutRequest a p).pair q = a.pair q ∨
      (withoutRequest a p).pair q = { a.pair q with stunMessage := none } := by
  by_cases hqp : q = p
  · subst hqp
    exact .inr setPair_pair_self
  · exact .inl (setPair_pair_of_ne hqp)

lemma withoutRequest_pairOf (cand : CandidateId) :
    pairOf (withoutRequest a p) sid cand remoteCandidate = pairOf a sid cand remoteCandidate := by
  refine congrArg (fun f => List.find? f _) (funext fun q => ?_)
  rcases @withoutRequest_pair a p q with hq | hq
  · rw [hq]
  · rw [hq]

lemma withoutRequest_quiet : Quiet a (withoutRequest a p) :=
  .setPair rfl fun hvalid hnominated => ⟨hvalid, hnominated, rfl, rfl⟩

/-- **An answered check**: its pair succeeds and others are unfrozen, or it shows a candidate that
was not known. -/
lemma answered_cases
    (h : privAnswered env a sid cid p sockptr localCandidate remoteCandidate mapped =
      .ok called) :
    (succeeds a sid cid mapped = true ∧ ∃ thawed,
      Thawed ((withoutRequest a p).setPairState p .succeeded) thawed ∧
      called = selectAnswered env thawed sid cid
        (validPair a sid cid p remoteCandidate mapped)) ∨
    Leaves a called := by
  unfold privAnswered at h
  cases mapped with
  | none =>
      refine .inl ⟨rfl, ?_⟩
      dsimp only at h
      cases hunfreeze : privConnCheckUnfreezeRelated
          ((withoutRequest a p).setPairState p .succeeded) sid p with
      | error fault =>
          rw [hunfreeze] at h
          cases h
      | ok thawed =>
          rw [hunfreeze] at h
          exact ⟨thawed, unfreezeRelated_thawed hunfreeze, (Except.ok.inj h).symm⟩
  | some mapped =>
      dsimp only at h
      rw [privProcessResponseCheckForPeerReflexive] at h
      have hlocal : matchingLocal (withoutRequest a p) sid cid mapped =
          matchingLocal a sid cid mapped := rfl
      cases hmatch : matchingLocal a sid cid mapped with
      | some cand =>
          rw [hlocal, hmatch] at h
          dsimp only at h
          refine .inl ⟨by rw [succeeds, Option.all_some, hmatch]; rfl, ?_⟩
          cases hunfreeze : privConnCheckUnfreezeRelated
              ((withoutRequest a p).setPairState p .succeeded) sid p with
          | error fault =>
              rw [hunfreeze] at h
              cases h
          | ok thawed =>
              rw [hunfreeze, withoutRequest_pairOf] at h
              refine ⟨thawed, unfreezeRelated_thawed hunfreeze, ?_⟩
              rw [validPair, Option.bind_some, hmatch, Option.bind_some]
              exact (Except.ok.inj h).symm
      | none =>
          right
          rw [hlocal, hmatch] at h
          dsimp only at h
          have hdiscover :=
            @discoveryAddPeerReflexiveCandidate_leaves env (withoutRequest a p) sid cid
            mapped sockptr localCandidate remoteCandidate
          cases hcand : discoveryAddPeerReflexiveCandidate env (withoutRequest a p) sid cid mapped
              sockptr localCandidate remoteCandidate with
          | mk agent cand =>
              rw [hcand] at h hdiscover
              cases cand with
              | none => cases h
              | some cand =>
                  obtain ⟨hadded, hnot⟩ :=
                    @addPeerReflexivePair_leaves (agent.setPairState p .failed) sid cid cand p
                  have hcalled : called = (privAddPeerReflexivePair (agent.setPairState p .failed)
                      sid cid cand p).1 := by
                    refine (Except.ok.inj h).symm.trans ?_
                    exact if_neg (by rw [Option.getD_some, hnot]; exact Bool.false_ne_true)
                  have hfailed : Quiet agent (agent.setPairState p .failed) :=
                    setPairState_quiet nofun nofun
                  rw [hcalled]
                  exact ((withoutRequest_quiet.leaves.trans hdiscover).trans hfailed.leaves).trans
                    hadded

/-- The pair of an answered check, and the others, after it. -/
lemma answered_pair {thawed : NiceAgent}
    (h : Thawed ((withoutRequest a p).setPairState p .succeeded) thawed) (q : PairId) :
    ∃ state stunMessage, thawed.pair q =
      { a.pair q with state := state, stunMessage := stunMessage } := by
  have hset : ((withoutRequest a p).setPairState p .succeeded).pair q = a.pair q ∨
      ((withoutRequest a p).setPairState p .succeeded).pair q =
        { a.pair q with state := .succeeded, stunMessage := none } := by
    by_cases hqp : q = p
    · subst hqp
      right
      rw [NiceAgent.setPairState, setPair_pair_self, withoutRequest, setPair_pair_self]
    · left
      rw [setPairState_pair_of_ne hqp, withoutRequest, setPair_pair_of_ne hqp]
  rcases h.pair q with hq | hq <;> rcases hset with hs | hs
  · exact ⟨(a.pair q).state, (a.pair q).stunMessage, by rw [hq, hs]⟩
  · exact ⟨.succeeded, none, by rw [hq, hs]⟩
  · exact ⟨.waiting, (a.pair q).stunMessage, by rw [hq, hs]⟩
  · exact ⟨.waiting, none, by rw [hq, hs]⟩

/-- No other pair than that of the check becomes a nominated valid one. -/
lemma answered_nominatedOf {thawed : NiceAgent} {q : PairId} {d : ComponentId}
    (h : Thawed ((withoutRequest a p).setPairState p .succeeded) thawed)
    (hq : nominatedOf thawed d q = true) : (thawed.pair q).priority = (a.pair q).priority ∧
      (nominatedOf a d q = true ∨ q ∈ ifNominated a p ∧ (a.pair q).componentId = d) := by
  obtain ⟨state, stunMessage, hpair⟩ := answered_pair h q
  refine ⟨by rw [hpair], ?_⟩
  by_cases hqp : q = p
  · subst hqp
    obtain ⟨hcomponent, -, hnominated⟩ := valid_of_nominatedOf hq
    rw [hpair] at hcomponent hnominated
    exact .inr ⟨by rw [ifNominated, if_pos hnominated]; rfl, hcomponent⟩
  · have hsame : thawed.pair q = a.pair q := by
      rw [h.nominatedOf hq, setPairState_pair_of_ne hqp, withoutRequest, setPair_pair_of_ne hqp]
    rw [nominatedOf, hsame] at hq
    exact .inl hq

/-- What is selected after an answer. -/
lemma selectAnswered_chosen (a : NiceAgent) (p : PairId) :
    Chosen a (selectAnswered env a sid cid p) sid cid (ifNominated a p) ∧
      Frame a (selectAnswered env a sid cid p) ∧
      ∀ q d, nominatedOf (selectAnswered env a sid cid p) d q = true → nominatedOf a d q = true ∧
        ((selectAnswered env a sid cid p).pair q).priority = (a.pair q).priority := by
  rw [selectAnswered, ifNominated]
  by_cases hnominated : (a.pair p).nominated = true
  · rw [if_pos hnominated, if_pos hnominated]
    obtain ⟨hchosen, hpairs⟩ := @updateSelectedPair_chosen env a sid cid p
    have hframe := privUpdateSelectedPair_frame env a sid cid p
    dsimp only
    split
    · have hquiet := @signalStateChange_quiet (privUpdateSelectedPair env a sid cid p) sid cid
        .connected
      refine ⟨?_, hframe.trans hquiet.frame, fun q d hq => ?_⟩
      · cases hchosen with
        | found p found hbest hreselects hself hother =>
            exact .found p found hbest hreselects ((hquiet.selection sid cid).trans hself)
              fun s d hne => (hquiet.selection s d).trans (hother s d hne)
        | kept hnone hselection =>
            exact .kept hnone fun s d => (hquiet.selection s d).trans (hselection s d)
      · obtain ⟨hn, hprio⟩ := hquiet.pair q d hq
        obtain ⟨hn', hprio'⟩ := hpairs q d hn
        exact ⟨hn', hprio.trans hprio'⟩
    · exact ⟨hchosen, hframe, hpairs⟩
  · rw [if_neg hnominated, if_neg hnominated]
    exact ⟨.kept nofun fun _ _ => rfl, .refl, fun q d hq => ⟨hq, rfl⟩⟩

/-- An answer. -/
lemma answer_covered (h : Covered a)
    (honly : ∀ s ∈ a.streams, p ∈ (a.stream s).conncheckList → s = sid)
    (hfits : succeeds a sid cid mapped = true → Fitting a sid cid
      (ifNominated a (validPair a sid cid p remoteCandidate mapped)) (ifNominated a p))
    (hanswered : privAnswered env a sid cid p sockptr localCandidate remoteCandidate mapped =
      .ok called) : Covered called := by
  rcases answered_cases hanswered with ⟨hsucceeds, thawed, hthawed, rfl⟩ | hleaves
  · set okPair := validPair a sid cid p remoteCandidate mapped with hok
    obtain ⟨hchosen, hframe, hpairs⟩ := @selectAnswered_chosen env sid cid thawed okPair
    have hnominated : ifNominated thawed okPair = ifNominated a okPair := by
      obtain ⟨state, stunMessage, hpair⟩ := answered_pair hthawed okPair
      rw [ifNominated, ifNominated, hpair]
    have hsame (q : PairId) : SameChoice a thawed q := by
      obtain ⟨state, stunMessage, hpair⟩ := answered_pair hthawed q
      exact ⟨hthawed.stream, hthawed.candidate, hthawed.controllingMode, by rw [hpair],
        by rw [hpair], by rw [hpair]⟩
    rw [hnominated] at hchosen
    refine covered_after h (hfits hsucceeds) (hframe.streams.trans hthawed.streams)
      (fun s => (hframe.list s).trans (by rw [hthawed.stream]; rfl)) (fun q hq => ?_)
      (fun q d hq => ?_) (hchosen.of_same (fun q _ => hsame q) hthawed.stream)
    · rw [ifNominated] at hq
      split_ifs at hq
      · obtain rfl := Option.some.inj hq
        exact honly
      · cases hq
    · obtain ⟨hn, hprio⟩ := hpairs q d hq
      obtain ⟨hprio', hwas⟩ := answered_nominatedOf hthawed hn
      exact ⟨hprio.trans hprio', hwas⟩
  · exact h.leaves hleaves

/-- The selected pairs are as high as they have to be where an event calls
`priv_update_check_list_state_for_ready`. -/
lemma CheckEvent.called_covered {e : CheckEvent} (h : Covered a) (hposs : e.Possible a)
    (hfits : e.Fits a) (hcalls : e.calls a = some (called, sid, cid)) : Covered called := by
  cases e with
  | mark env s c remoteCand p =>
      rw [CheckEvent.calls] at hcalls
      split_ifs at hcalls with hremote
      obtain ⟨rfl, -⟩ := Prod.mk.inj (Option.some.inj hcalls)
      exact mark_covered h hposs (hfits hremote)
  | update s c =>
      obtain ⟨rfl, -⟩ := Prod.mk.inj (Option.some.inj hcalls)
      exact h
  | answer env s c p sockptr l r mapped =>
      rw [CheckEvent.calls] at hcalls
      split at hcalls
      next x hanswered =>
        obtain ⟨rfl, -⟩ := Prod.mk.inj (Option.some.inj hcalls)
        exact answer_covered h hposs hfits hanswered
      · cases hcalls
  | other agent => cases hcalls

lemma checkNext_of_calls {e : CheckEvent} (h : e.calls a = some (called, sid, cid)) :
    checkNext a e = privUpdateCheckListStateForReady called sid cid := by
  unfold checkNext
  rw [h]

/-- **What an event preserves.** -/
lemma Covered.event {e : CheckEvent} (h : Covered a) (hposs : e.Possible a) (hfits : e.Fits a) :
    Covered (checkNext a e) := by
  cases hcalls : e.calls a with
  | some call =>
      obtain ⟨called, sid, cid⟩ := call
      rw [checkNext_of_calls hcalls]
      exact (CheckEvent.called_covered h hposs hfits hcalls).leaves
        (updateForReady_quiet called sid cid).leaves
  | none =>
      cases e with
      | other agent => exact h.leaves hfits
      | mark env s c remoteCand p =>
          unfold checkNext
          rw [hcalls]
          exact h
      | update s c => cases hcalls
      | answer env s c p sockptr l r mapped =>
          unfold checkNext
          rw [hcalls]
          exact h

/-- **One event.**  A component that it moves to READY is concluded. -/
lemma CheckEvent.keeps_of_fits {e : CheckEvent} (h : Covered a) (hposs : e.Possible a)
    (hfits : e.Fits a) : e.Keeps a := by
  intro called sid cid hcalls hbefore hafter
  have hframe := privUpdateCheckListStateForReady_frame called sid cid
  have hcovered := (CheckEvent.called_covered h hposs hfits hcalls).leaves
    (updateForReady_quiet called sid cid).leaves
  obtain ⟨hsid, ⟨p, hp, hnominated⟩, hsettled⟩ := updateForReady_moved hbefore hafter
  rw [← hframe.list] at hp hsettled
  rw [← hframe.streams] at hsid
  exact ⟨⟨p, hp, hnominated⟩, (hcovered sid hsid cid p hp hnominated).selected,
    fun q hq hn => (hcovered sid hsid cid q hq hn).le, hsettled⟩

/-- **READY means concluded**: in every run whose events fit, from an agent without pairs, each move
of a component to READY finds its checks concluded. -/
theorem concluded_run (agent : NiceAgent) (es : List CheckEvent)
    (hnone : ∀ sid ∈ agent.streams, (agent.stream sid).conncheckList = [])
    (hposs : Along checkNext (fun a e => e.Possible a) agent es)
    (hfits : Along checkNext (fun a e => e.Fits a) agent es) :
    Along checkNext (fun a e => e.Keeps a) agent es := by
  have hstart : Covered agent := by
    intro sid hsid cid p hp
    rw [hnone sid hsid] at hp
    simp at hp
  exact Along.imp (I := Covered) (fun a e h hboth => CheckEvent.keeps_of_fits h hboth.1 hboth.2)
    (fun a e h hboth => h.event hboth.1 hboth.2) es agent hstart (.and es agent hposs hfits)

/-! ### The functions as events -/

/-- A nomination by the peer is a round for each pair. -/
lemma privMarkPairNominated_events (remoteCand : CandidateId) :
    privMarkPairNominated env a sid cid remoteCand =
      ((a.stream sid).conncheckList.map (CheckEvent.mark env sid cid remoteCand)).foldl checkNext
        a := by
  rw [privMarkPairNominated, List.foldl_map]
  refine congrArg (fun f => List.foldl f a _) (funext fun x => funext fun q => ?_)
  by_cases hremote : (x.pair q).remoteCand = remoteCand
  · have hcalls : (CheckEvent.mark env sid cid remoteCand q).calls x =
        some (reselect env (nominate x q) sid cid q, sid, cid) := if_pos hremote
    rw [markPair_eq hremote, checkNext_of_calls hcalls]
  · have hcalls : (CheckEvent.mark env sid cid remoteCand q).calls x = none := if_neg hremote
    unfold checkNext
    rw [markPair, if_neg hremote, hcalls]

lemma pruneCancelled_leaves : Leaves a (pruneCancelledConnCheck a sid) := by
  refine .of rfl (fun s q hq c hn => ⟨?_, hn, rfl⟩) fun s c => ?_
  · by_cases hs : s = sid
    · subst hs
      simp only [pruneCancelledConnCheck, NiceAgent.setCheckList, Function.update_self] at hq
      exact List.mem_of_mem_filter hq
    · simpa [pruneCancelledConnCheck, NiceAgent.setCheckList, hs] using hq
  · by_cases hs : s = sid
    · subst hs
      simp [pruneCancelledConnCheck, NiceAgent.setCheckList]
    · simp [pruneCancelledConnCheck, NiceAgent.setCheckList, hs]

/-- A response to a check is an answer, and what comes after it fits. -/
lemma mapReply_events {src : NiceAddress} {resp : IceMessage}
    (hfind : (a.stream sid).conncheckList.find? (fun p =>
      (a.pair p).stunMessage.any fun msg => msg.id = resp.id) = some p)
    (hres : stunUsageIceConncheckProcess resp = .success ∨
      stunUsageIceConncheckProcess resp = .noMappedAddress)
    (hsrc : src = (a.candidate (a.pair p).remoteCand).addr)
    (hanswered : privAnswered env a sid cid p sockptr localCandidate remoteCandidate
      resp.mappedAddress = .ok called) :
    ∃ after, privMapReplyToConnCheckRequest env a sid cid sockptr src localCandidate
        remoteCandidate resp = .ok (after, true) ∧
      Leaves (checkNext a (.answer env sid cid p sockptr localCandidate remoteCandidate
        resp.mappedAddress)) after := by
  have hcalls : (CheckEvent.answer env sid cid p sockptr localCandidate remoteCandidate
      resp.mappedAddress).calls a = some (called, sid, cid) := by
    rw [CheckEvent.calls, hanswered]
  rw [checkNext_of_calls hcalls, privMapReplyToConnCheckRequest, hfind]
  refine ⟨pruneCancelledConnCheck (privUpdateCheckListStateForReady called sid cid) sid, ?_,
    pruneCancelled_leaves⟩
  rcases hres with hres | hres
  · rw [hres]
    dsimp only
    rw [if_neg (not_not.mpr hsrc), hanswered]
    rfl
  · rw [hres]
    dsimp only
    rw [if_neg (not_not.mpr hsrc), hanswered]
    rfl

/-- A triggered check for a valid pair is a call by itself, and what comes after it fits; for
another pair there is no call. -/
lemma triggerPair_leaves : Leaves
    (if (a.pair p).valid then checkNext a (.update sid cid) else a)
    (triggerPair env a sid cid p) := by
  have hready : checkNext a (.update sid cid) = privUpdateCheckListStateForReady a sid cid :=
    checkNext_of_calls rfl
  rw [hready, CandidateCheckPair.valid, triggerPair]
  cases (a.pair p).state with
  | waiting => exact privConnCheckInitiate_quiet.leaves
  | frozen => exact privConnCheckInitiate_quiet.leaves
  | failed => exact privConnCheckInitiate_quiet.leaves
  | cancelled => exact .refl
  | inProgress =>
      refine Quiet.leaves (?_ : Quiet a _)
      dsimp only
      split
      · exact .setPair rfl fun hvalid hnominated => ⟨hvalid, hnominated, rfl, rfl⟩
      · exact .refl
  | succeeded =>
      refine Quiet.leaves (?_ : Quiet (privUpdateCheckListStateForReady a sid cid) _)
      dsimp only
      split
      · exact privConnCheckInitiate_quiet
      · exact .refl
  | discovered =>
      refine Quiet.leaves (?_ : Quiet (privUpdateCheckListStateForReady a sid cid) _)
      dsimp only
      split
      · exact privConnCheckInitiate_quiet
      · exact .refl

/-- The timer of a stream fits. -/
lemma tickStream_leaves (clock : PairClock) :
    Leaves a (privConnCheckTickStream env clock a sid).1 := by
  have htick (x : NiceAgent) (q : PairId) : Quiet x (tickPair clock sid x q).1 := by
    rw [tickPair]
    split
    · split
      · exact setPairState_quiet (by decide) (by decide)
      · exact .refl
      · exact pairFail_quiet _ _ _
      · exact emit_quiet _
      · exact .refl
    · exact .refl
  have hloop (list : List PairId) : ∀ (x : NiceAgent) (counts : TickCounts),
      Quiet x (tickPairs clock sid list (x, counts)).1 := by
    induction list with
    | nil => exact fun _ _ => .refl
    | cons q list ih => exact fun x counts => (htick x q).trans (ih _ _)
  have hnominate (x : NiceAgent) (c : ComponentId) : Quiet x (nominateComponent env sid x c) := by
    rw [nominateComponent]
    split
    · exact initiate_quiet rfl
    · exact .refl
  have hnominates (x : NiceAgent) (components : List ComponentId) :
      Quiet x (nominateComponents env sid x components) :=
    @Quiet.foldl _ _ _ id hnominate components x
  have hfirst := hloop (a.stream sid).conncheckList a ⟨false, 0, 0, 0⟩
  rw [privConnCheckTickStream]
  dsimp only
  split
  · split
    · exact (hfirst.trans (hnominates _ _)).leaves
    · exact hfirst.leaves
  · exact hfirst.leaves

end Events

/-! ### A run -/

/-- The transaction ids of the checks are numbered. -/
def numberedEnv : Env := { plainEnv with transid := fun n => List.replicate 16 (UInt8.ofNat n) }

/-- An address of the network 10.0.0.0. -/
def hostAddress (host port : ℕ) : NiceAddress := ⟨false, [10, 0, 0, UInt8.ofNat host], port, 0⟩

/-- A host candidate of the first component. -/
def hostCandidateAt (host port : ℕ) (priority : UInt32) (foundation : Bytes) : NiceCandidate :=
  { blankCandidate with
    addr := hostAddress host port, baseAddr := hostAddress host port, priority, streamId := 1
    foundation }

/-- An agent with a local candidate and two remote ones, of which the second has a higher priority
and the given foundation. -/
def twoRemotesAgent (foundation : Bytes) : NiceAgent :=
  { twoStreamAgent [] with
    streams := [1]
    stream := fun _ =>
      { readyStream [] with
        component := fun _ => { readyComponent with
          state := .connecting, localCandidates := [0], remoteCandidates := [1, 2] }
        localUfrag := [97], remoteUfrag := [98], remotePassword := [99] }
    nextCandidate := 3
    candidate := fun c =>
      if c = 0 then { hostCandidateAt 1 1000 10 [49] with sockptr := some (hostSocket 1000) }
      else if c = 1 then hostCandidateAt 2 1001 1 [50]
      else hostCandidateAt 2 1002 2 foundation
    nextPair := 0 }

/-- The agent with the pairs of both remote candidates. -/
def pairedAgent (foundation : Bytes) : NiceAgent :=
  (connCheckAddForCandidate
    (connCheckAddForCandidate (twoRemotesAgent foundation) 1 1 1).1 1 1 2).1

/-- The agent that has sent a check for each of them. -/
def checkingAgent (foundation : Bytes) : NiceAgent :=
  privConnCheckInitiate numberedEnv (privConnCheckInitiate numberedEnv (pairedAgent foundation) 0) 1

/-- The answer to the check of the second pair. -/
def secondAnswer : CheckEvent :=
  .answer numberedEnv 1 1 1 (hostSocket 1000) (some 0) (some 2) (some (hostAddress 1 1000))

lemma twoRemotesAgent_none (foundation : Bytes) : ∀ sid ∈ (twoRemotesAgent foundation).streams,
    ((twoRemotesAgent foundation).stream sid).conncheckList = [] := fun _ _ => rfl

lemma secondAnswer_possible (foundation : Bytes) : Along checkNext (fun a e => e.Possible a)
    (twoRemotesAgent foundation) [.other (checkingAgent foundation), secondAnswer] := by
  have hstreams : (checkingAgent foundation).streams = [1] := by
    have hpaired : (pairedAgent foundation).streams = [1] :=
      (connCheckAddForCandidate_keeps 2).streams.trans (connCheckAddForCandidate_keeps 1).streams
    exact (privConnCheckInitiate_quiet.frame.streams.trans
      privConnCheckInitiate_quiet.frame.streams).trans hpaired
  refine ⟨trivial, fun s hs _ => ?_, trivial⟩
  change s ∈ (checkingAgent foundation).streams at hs
  rw [hstreams] at hs
  exact List.mem_singleton.mp hs

lemma checkingAgent_leaves (foundation : Bytes) :
    Leaves (twoRemotesAgent foundation) (checkingAgent foundation) := by
  have hpaired : Leaves (twoRemotesAgent foundation) (pairedAgent foundation) :=
    (connCheckAddForCandidate_leaves 1).trans (connCheckAddForCandidate_leaves 2)
  exact hpaired.trans (privConnCheckInitiate_quiet.trans privConnCheckInitiate_quiet).leaves

/-- Where the foundations of the remote candidates differ, the pair of the second one is selected,
and the component is ready. -/
theorem concluded_run_sample : Along checkNext (fun a e => e.Keeps a) (twoRemotesAgent [51])
    [.other (checkingAgent [51]), secondAnswer] := by
  refine concluded_run (twoRemotesAgent [51]) _ (twoRemotesAgent_none _) (secondAnswer_possible _)
    ⟨checkingAgent_leaves _, fun _ => ?_, trivial⟩
  have hbest : ifNominated (checkingAgent [51])
      (validPair (checkingAgent [51]) 1 1 1 (some 2) (some (hostAddress 1 1000))) = some 1 := by
    decide +kernel
  have hnew : ifNominated (checkingAgent [51]) 1 = some 1 := by decide +kernel
  have hlt : (((checkingAgent [51]).stream 1).component 1).selectedPair.priority <
      ((checkingAgent [51]).pair 1).priority := by decide +kernel
  have hfound : (componentFindPair (checkingAgent [51])
    (((checkingAgent [51]).stream 1).component 1)
      ((checkingAgent [51]).candidate ((checkingAgent [51]).pair 1).localCand).foundation
      ((checkingAgent [51]).candidate ((checkingAgent [51]).pair 1).remoteCand).foundation).any
        (fun found => ((checkingAgent [51]).stream 1).conncheckList.all fun q =>
          ((checkingAgent [51]).pair q).priority ≤ found.priority) = true := by decide +kernel
  obtain ⟨found, hfind, hall⟩ := (Option.any_eq_true _ _).mp hfound
  have hreselects : Reselects (checkingAgent [51]) 1 1 1 found := ⟨hlt, hfind⟩
  change Fitting (checkingAgent [51]) 1 1 (ifNominated (checkingAgent [51])
    (validPair (checkingAgent [51]) 1 1 1 (some 2) (some (hostAddress 1 1000))))
    (ifNominated (checkingAgent [51]) 1)
  rw [hbest, hnew]
  refine ⟨fun p hp found' hfound' q hq _ => ?_, fun q hq hnot => ?_⟩
  · obtain rfl := Option.some.inj hp
    obtain rfl := hreselects.unique hfound'
    exact of_decide_eq_true (List.all_eq_true.mp hall q hq)
  · obtain rfl := Option.some.inj hq
    exact absurd hreselects (hnot (by decide +kernel) 1 rfl found)

/-- **READY below a nominated pair.**  The two remote candidates have one foundation, and the pair
of the first one is found for that of the second, which is nominated and has a higher priority. -/
theorem ready_below_nominated : ∃ agent es,
    (∀ sid ∈ agent.streams, (agent.stream sid).conncheckList = []) ∧
    Along checkNext (fun a e => e.Possible a) agent es ∧
    ¬Along checkNext (fun a e => e.Keeps a) agent es := by
  refine ⟨twoRemotesAgent [50], [.other (checkingAgent [50]), secondAnswer],
    twoRemotesAgent_none _, secondAnswer_possible _, fun h => ?_⟩
  have hready : (secondAnswer.calls (checkingAgent [50])).any (fun call =>
      decide (((call.1.stream 1).component 1).state ≠ .ready) &&
        decide ((((privUpdateCheckListStateForReady call.1 1 1).stream 1).component 1).state =
          .ready) &&
        ((privUpdateCheckListStateForReady call.1 1 1).stream 1).conncheckList.any (fun q =>
          nominatedOf (privUpdateCheckListStateForReady call.1 1 1) 1 q &&
            !decide (((privUpdateCheckListStateForReady call.1 1 1).pair q).priority ≤
              (((privUpdateCheckListStateForReady call.1 1 1).stream 1).component
                1).selectedPair.priority)) &&
        decide (call.2 = (1, 1))) = true := by decide +kernel
  obtain ⟨⟨called, sid, cid⟩, hcalls, htest⟩ := (Option.any_eq_true _ _).mp hready
  simp only [Bool.and_eq_true, decide_eq_true_eq, List.any_eq_true, Bool.not_eq_true',
    decide_eq_false_iff_not] at htest
  obtain ⟨⟨⟨hbefore, hafter⟩, q, hq, hnominated, hlow⟩, heq⟩ := htest
  obtain ⟨rfl, rfl⟩ := Prod.mk.inj heq
  exact hlow ((h.2.1 called 1 1 hcalls hbefore hafter).highest q hq hnominated)

end LibNice.Ice
