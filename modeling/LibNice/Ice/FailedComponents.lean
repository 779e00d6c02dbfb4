import LibNice.Ice.CheckPairs
import LibNice.Ice.Unfreezing

/-!
The components whose checks have failed (`priv_update_check_list_failed_components` of
`agent/conncheck.c`).

* `checksFailed`, `failComponent`, `privUpdateCheckListFailedComponents`: the function.
* `finished`: a component has remote candidates, and none of its pairs can succeed any more.
* `FailuresSignalled`: what is asked of the function, that it fails just the finished components.
* `FailedWalk`: what it does to the components that it has come by.
* `failuresSignalled_iff`: it does what is asked when no finished component has a cancelled pair.
-/

namespace LibNice.Ice

open LibNice.Foundation LibNice.Stun

/-! ### The function -/

/-- The loop over the pairs of the component `cid` comes to the end of the list. -/
def checksFailed (agent : NiceAgent) (list : List PairId) (cid : ComponentId) : Bool :=
  list.all fun p => (agent.pair p).componentId ≠ cid || (agent.pair p).state = .failed

/-- A round of the loop over the components. -/
def failComponent (sid : StreamId) (agent : NiceAgent) (cid : ComponentId) : NiceAgent :=
  match agentFindComponent agent sid cid with
  | none => agent
  | some s =>
      -- the component is failed only if it actually had remote candidates that failed
      if checksFailed agent (agent.stream sid).conncheckList cid ∧
          ((agent.stream s).component cid).remoteCandidates ≠ [] then
        agentSignalComponentStateChange agent sid cid .failed
      else agent

/-- `priv_update_check_list_failed_components`. -/
def privUpdateCheckListFailedComponents (agent : NiceAgent) (sid : StreamId) : NiceAgent :=
  if agent.discoveryList.any fun d => d.streamId = sid && !d.done then agent
  else if agent.discoveryList ≠ [] then agent
  else (agent.stream sid).components.foldl (failComponent sid) agent

/-! ### What is asked of it -/

/-- The states of the pairs of a component. -/
def checkStates (agent : NiceAgent) (sid : StreamId) (cid : ComponentId) : List NiceCheckState :=
  ((agent.stream sid).conncheckList.filter fun p => (agent.pair p).componentId = cid).map
    fun p => (agent.pair p).state

/-- The component has remote candidates, and all its pairs have come to an end without success. -/
def finished (agent : NiceAgent) (sid : StreamId) (cid : ComponentId) : Bool :=
  ((agent.stream sid).component cid).remoteCandidates ≠ [] &&
    (checkStates agent sid cid).all fun state => state = .failed || state = .cancelled

/-- The signals that some components have failed, as far as they had not. -/
def failureSignals (agent : NiceAgent) (sid : StreamId) (failing : ComponentId → Bool)
    (list : List ComponentId) : List Trace :=
  (list.filter fun cid => failing cid && ((agent.stream sid).component cid).state ≠ .failed).map
    fun cid => .stateChanged sid cid .failed

/-- Just the finished components of the stream are failed, and that is signalled. -/
structure FailuresSignalled (agent agent' : NiceAgent) (sid : StreamId) : Prop where
  state : ∀ cid ∈ (agent.stream sid).components, ((agent'.stream sid).component cid).state =
    if finished agent sid cid then .failed else ((agent.stream sid).component cid).state
  trace : agent'.trace = agent.trace ++
    failureSignals agent sid (finished agent sid) (agent.stream sid).components

/-! ### What the function does -/

/-- The components that the function fails: those with remote candidates whose pairs are all in the
state FAILED. -/
def fails (agent : NiceAgent) (sid : StreamId) (cid : ComponentId) : Bool :=
  ((agent.stream sid).component cid).remoteCandidates ≠ [] &&
    (checkStates agent sid cid).all fun state => state = .failed

/-- What the walk over the components has done after those of `visited`. -/
structure FailedWalk (agent agent' : NiceAgent) (sid : StreamId) (visited : List ComponentId) :
    Prop where
  streams : agent'.streams = agent.streams
  pair : agent'.pair = agent.pair
  list : (agent'.stream sid).conncheckList = (agent.stream sid).conncheckList
  nComponents : (agent'.stream sid).nComponents = (agent.stream sid).nComponents
  component : ∀ cid, (agent'.stream sid).component cid =
    if cid ∈ visited ∧ fails agent sid cid then
      { (agent.stream sid).component cid with state := .failed }
    else (agent.stream sid).component cid
  trace : agent'.trace = agent.trace ++ failureSignals agent sid (fails agent sid) visited

section Walk

variable {agent agent' : NiceAgent} {sid : StreamId} {cid : ComponentId}
  {visited : List ComponentId}

lemma checksFailed_eq : checksFailed agent (agent.stream sid).conncheckList cid =
    (checkStates agent sid cid).all fun state => state = .failed := by
  rw [checksFailed, checkStates, List.all_map, List.all_filter]
  congr 1
  funext p
  by_cases h : (agent.pair p).componentId = cid <;> simp [h]

/-- A component that is failed is finished. -/
lemma finished_of_fails (h : fails agent sid cid = true) : finished agent sid cid = true := by
  rw [fails, Bool.and_eq_true, List.all_eq_true] at h
  rw [finished, Bool.and_eq_true, List.all_eq_true]
  exact ⟨h.1, fun state hs => by simp [of_decide_eq_true (h.2 state hs)]⟩

/-- A finished component is failed if none of its pairs was cancelled. -/
lemma fails_iff : fails agent sid cid = true ↔
    finished agent sid cid = true ∧ .cancelled ∉ checkStates agent sid cid := by
  refine ⟨fun h => ⟨finished_of_fails h, fun hmem => ?_⟩, fun ⟨h, hnone⟩ => ?_⟩
  · rw [fails, Bool.and_eq_true, List.all_eq_true] at h
    cases of_decide_eq_true (h.2 _ hmem)
  · rw [finished, Bool.and_eq_true, List.all_eq_true] at h
    rw [fails, Bool.and_eq_true, List.all_eq_true]
    refine ⟨h.1, fun state hs => ?_⟩
    rcases Bool.or_eq_true_iff.mp (h.2 state hs) with hfailed | hcancelled
    · exact hfailed
    · exact absurd (of_decide_eq_true hcancelled ▸ hs) hnone

lemma failComponent_eq (hsid : sid ∈ agent.streams) (hcid : cid ∈ (agent.stream sid).components) :
    failComponent sid agent cid =
      if fails agent sid cid = true ∧ ((agent.stream sid).component cid).state ≠ .failed then
        (agent.setComponent sid cid
          { (agent.stream sid).component cid with state := .failed }).emit
            (.stateChanged sid cid .failed)
      else agent := by
  rw [failComponent, agentFindComponent_of_mem hsid hcid]
  dsimp only
  rw [checksFailed_eq, agentSignalComponentStateChange, agentFindComponent_of_mem hsid hcid]
  dsimp only
  by_cases hfails : fails agent sid cid = true
  · have h := hfails
    rw [fails, Bool.and_eq_true, decide_eq_true_eq] at h
    rw [if_pos ⟨h.2, h.1⟩]
    simp only [hfails, true_and]
  · have h := hfails
    rw [fails, Bool.and_eq_true, decide_eq_true_eq] at h
    rw [if_neg fun hboth => h ⟨hboth.2, hboth.1⟩, if_neg fun hboth => hfails hboth.1]

lemma FailedWalk.refl : FailedWalk agent agent sid [] :=
  ⟨rfl, rfl, rfl, rfl, fun _ => by simp, by simp [failureSignals]⟩

/-- What is asked of a component does not change while others are failed. -/
lemma FailedWalk.fails_eq (h : FailedWalk agent agent' sid visited) (cid : ComponentId) :
    fails agent' sid cid = fails agent sid cid := by
  have hremote : ((agent'.stream sid).component cid).remoteCandidates =
      ((agent.stream sid).component cid).remoteCandidates := by
    rw [h.component]
    split_ifs <;> rfl
  rw [fails, fails, checkStates, checkStates, hremote, h.list, h.pair]

/-- **One component more.** -/
lemma FailedWalk.step (h : FailedWalk agent agent' sid visited) (hsid : sid ∈ agent.streams)
    (hcid : cid ∈ (agent.stream sid).components) (hnew : cid ∉ visited) :
    FailedWalk agent (failComponent sid agent' cid) sid (visited ++ [cid]) := by
  have hsame : (agent'.stream sid).component cid = (agent.stream sid).component cid := by
    rw [h.component, if_neg fun hv => hnew hv.1]
  have hcid' : cid ∈ (agent'.stream sid).components := by
    rwa [Stream.components, h.nComponents]
  have hsignals : failureSignals agent sid (fails agent sid) (visited ++ [cid]) =
      failureSignals agent sid (fails agent sid) visited ++
        failureSignals agent sid (fails agent sid) [cid] := by
    simp only [failureSignals, List.filter_append, List.map_append]
  rw [failComponent_eq (h.streams ▸ hsid) hcid', h.fails_eq, hsame]
  split_ifs with hfails
  · refine ⟨h.streams, h.pair, ?_, ?_, fun c => ?_, ?_⟩
    · simp [NiceAgent.emit, NiceAgent.setComponent, h.list]
    · simp [NiceAgent.emit, NiceAgent.setComponent, h.nComponents]
    · rcases eq_or_ne c cid with rfl | hne
      · simp [NiceAgent.emit, NiceAgent.setComponent, hfails.1]
      · simp [NiceAgent.emit, NiceAgent.setComponent, hne, h.component]
    · rw [hsignals, ← List.append_assoc, ← h.trace]
      simp [failureSignals, NiceAgent.emit, NiceAgent.setComponent, hfails.1, hfails.2]
  · refine ⟨h.streams, h.pair, h.list, h.nComponents, fun c => ?_, ?_⟩
    · rcases eq_or_ne c cid with rfl | hne
      · rw [hsame]
        split_ifs with hboth
        · -- it has been in the state FAILED all the time
          have hstate : ((agent.stream sid).component c).state = .failed :=
            by_contra fun hs => hfails ⟨hboth.2, hs⟩
          rw [← hstate]
        · rfl
      · rw [h.component]
        simp [hne]
    · have hnone : failureSignals agent sid (fails agent sid) [cid] = [] := by
        rw [failureSignals, List.filter_cons_of_neg, List.filter_nil, List.map_nil]
        simpa using hfails
      rw [hsignals, hnone, List.append_nil, h.trace]

/-- **The walk over the components.** -/
theorem failComponents_walk (hsid : sid ∈ agent.streams) (list : List ComponentId) :
    ∀ visited agent', FailedWalk agent agent' sid visited →
      (∀ cid ∈ list, cid ∈ (agent.stream sid).components) → (visited ++ list).Nodup →
      FailedWalk agent (list.foldl (failComponent sid) agent') sid (visited ++ list) := by
  induction list with
  | nil => exact fun visited agent' h _ _ => by rwa [List.append_nil]
  | cons cid list ih =>
      intro visited agent' h hmem hnodup
      have hsplit : visited ++ cid :: list = visited ++ [cid] ++ list := by simp
      have hnew : cid ∉ visited := fun hv =>
        (List.nodup_append.mp hnodup).2.2 cid hv cid List.mem_cons_self rfl
      rw [List.foldl_cons, hsplit]
      exact ih _ _ (h.step hsid (hmem cid List.mem_cons_self) hnew)
        (fun c hc => hmem c (List.mem_cons_of_mem _ hc)) (hsplit ▸ hnodup)

/-- The whole function, with no discovery pending. -/
theorem updateFailedComponents_walk (hsid : sid ∈ agent.streams)
    (hdiscovery : agent.discoveryList = []) :
    FailedWalk agent (privUpdateCheckListFailedComponents agent sid) sid
      (agent.stream sid).components := by
  rw [privUpdateCheckListFailedComponents, hdiscovery]
  exact failComponents_walk hsid _ [] agent .refl (fun _ h => h) List.nodup_range'

/-- Nothing is failed while a discovery is pending. -/
lemma updateFailedComponents_of_discovery (h : agent.discoveryList ≠ []) :
    privUpdateCheckListFailedComponents agent sid = agent := by
  rw [privUpdateCheckListFailedComponents, if_pos h, ite_self]

end Walk

/-! ### Exactness -/

/-- The components that may be failed by mistake, or not at all: those not failed yet that have
remote candidates and a cancelled pair, and nothing to wait for. -/
def CancelledLast (agent : NiceAgent) (sid : StreamId) (cid : ComponentId) : Prop :=
  ((agent.stream sid).component cid).state ≠ .failed ∧
  ((agent.stream sid).component cid).remoteCandidates ≠ [] ∧
  .cancelled ∈ checkStates agent sid cid ∧
  ∀ state ∈ checkStates agent sid cid, state = .failed ∨ state = .cancelled

section Exactness

variable {agent agent' other : NiceAgent} {sid : StreamId} {cid : ComponentId}

lemma cancelledLast_iff : CancelledLast agent sid cid ↔
    ((agent.stream sid).component cid).state ≠ .failed ∧
      finished agent sid cid = true ∧ fails agent sid cid = false := by
  rw [CancelledLast, ← Bool.not_eq_true, fails_iff, finished, Bool.and_eq_true,
    decide_eq_true_eq, List.all_eq_true]
  simp only [Bool.or_eq_true, decide_eq_true_eq]
  tauto

/-- The component comes to the same end in all agents that have the same pairs for it. -/
lemma updateFailedComponents_independent (hsid : sid ∈ agent.streams)
    (hdiscovery : agent.discoveryList = []) (hcid : cid ∈ (agent.stream sid).components)
    (hsid' : sid ∈ other.streams) (hdiscovery' : other.discoveryList = [])
    (hcid' : cid ∈ (other.stream sid).components)
    (hcomponent : (other.stream sid).component cid = (agent.stream sid).component cid)
    (hstates : checkStates other sid cid = checkStates agent sid cid) :
    ((privUpdateCheckListFailedComponents other sid).stream sid).component cid =
      ((privUpdateCheckListFailedComponents agent sid).stream sid).component cid := by
  have hfails : fails other sid cid = fails agent sid cid := by
    rw [fails, fails, hcomponent, hstates]
  rw [(updateFailedComponents_walk hsid hdiscovery).component,
    (updateFailedComponents_walk hsid' hdiscovery').component, hfails, hcomponent]
  simp only [hcid, hcid', true_and]

lemma FailedWalk.failuresSignalled (h : FailedWalk agent agent' sid (agent.stream sid).components)
    (hnone : ∀ cid ∈ (agent.stream sid).components, ¬CancelledLast agent sid cid) :
    FailuresSignalled agent agent' sid := by
  have hsame : ∀ cid ∈ (agent.stream sid).components,
      ((agent.stream sid).component cid).state ≠ .failed →
        fails agent sid cid = finished agent sid cid := by
    intro cid hcid hstate
    cases hfinished : finished agent sid cid with
    | false =>
        cases hfails : fails agent sid cid with
        | false => rfl
        | true => rw [finished_of_fails hfails] at hfinished; cases hfinished
    | true =>
        cases hfails : fails agent sid cid with
        | false => exact absurd (cancelledLast_iff.mpr ⟨hstate, hfinished, hfails⟩) (hnone cid hcid)
        | true => rfl
  refine ⟨fun cid hcid => ?_, ?_⟩
  · rw [h.component]
    by_cases hstate : ((agent.stream sid).component cid).state = .failed
    · split_ifs <;> simp [hstate]
    · rw [hsame cid hcid hstate]
      simp only [hcid, true_and]
      split_ifs <;> rfl
  · rw [h.trace, failureSignals, failureSignals]
    congr 2
    refine List.filter_congr fun cid hcid => ?_
    by_cases hstate : ((agent.stream sid).component cid).state = .failed
    · simp [hstate]
    · rw [hsame cid hcid hstate]

/-- **`priv_update_check_list_failed_components`**, with no discovery pending: what becomes of a
component depends on its own pairs only, and just the finished components are failed if and only if
no component is left where a cancelled pair is all there is to wait for. -/
theorem failuresSignalled_iff (agent : NiceAgent) (sid : StreamId) (hsid : sid ∈ agent.streams)
    (hdiscovery : agent.discoveryList = []) :
    (∀ other cid, sid ∈ other.streams → other.discoveryList = [] →
      cid ∈ (agent.stream sid).components → cid ∈ (other.stream sid).components →
      (other.stream sid).component cid = (agent.stream sid).component cid →
      checkStates other sid cid = checkStates agent sid cid →
      ((privUpdateCheckListFailedComponents other sid).stream sid).component cid =
        ((privUpdateCheckListFailedComponents agent sid).stream sid).component cid) ∧
    (FailuresSignalled agent (privUpdateCheckListFailedComponents agent sid) sid ↔
      ∀ cid ∈ (agent.stream sid).components, ¬CancelledLast agent sid cid) := by
  have hwalk := updateFailedComponents_walk hsid hdiscovery
  refine ⟨fun other cid hsid' hdiscovery' hcid hcid' hcomponent hstates => ?_, ?_, ?_⟩
  · exact updateFailedComponents_independent hsid hdiscovery hcid hsid' hdiscovery' hcid'
      hcomponent hstates
  · intro hexact cid hcid hlast
    obtain ⟨hstate, hfinished, hfails⟩ := cancelledLast_iff.mp hlast
    have hafter := hexact.state cid hcid
    rw [hwalk.component, hfinished, hfails] at hafter
    exact hstate (by simpa using hafter)
  · exact hwalk.failuresSignalled

end Exactness

/-- An agent with one stream and two components.  The pairs 0 and 1 are the first one's, with the
given states, and the pair 2 is the second one's and has succeeded. -/
def failureAgent (first second : NiceCheckState) : NiceAgent :=
  { twoStreamAgent [] with
    streams := [1]
    stream := fun _ =>
      { readyStream [0, 1, 2] with
        nComponents := 2
        component := fun cid =>
          { (readyStream []).component cid with state := .connecting, remoteCandidates := [cid] } }
    pair := fun p =>
      if p = 0 then blankPair 1 first 30
      else if p = 1 then blankPair 1 second 20
      else { blankPair 1 .succeeded 10 with componentId := 2 } }

/-- Two failed pairs fail their component. -/
theorem failuresSignalled_sample :
    FailuresSignalled (failureAgent .failed .failed)
      (privUpdateCheckListFailedComponents (failureAgent .failed .failed) 1) 1 := by
  refine (failuresSignalled_iff (failureAgent .failed .failed) 1 (by decide) rfl).2.mpr
    fun cid _ hlast => ?_
  have hcancelled := hlast.2.2.1
  obtain ⟨p, -, hp⟩ := List.mem_map.mp hcancelled
  simp only [failureAgent] at hp
  split_ifs at hp <;> cases hp

/-- **The last pair was cancelled**: the other one has failed, and their component stays
CONNECTING. -/
theorem cancelled_pair_unfinished :
    ¬∀ (agent : NiceAgent) (sid : StreamId), sid ∈ agent.streams → agent.discoveryList = [] →
      FailuresSignalled agent (privUpdateCheckListFailedComponents agent sid) sid := by
  intro h
  have hstate := (h (failureAgent .failed .cancelled) 1 (by decide) rfl).state 1 (by decide)
  revert hstate
  decide

end LibNice.Ice
