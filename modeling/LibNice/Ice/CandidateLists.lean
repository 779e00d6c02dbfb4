import LibNice.Ice.CheckPairs

/-!
The candidates in the lists of the components of an agent.

* `listedIn`: the candidates of all lists of one kind.
* `ListsSound`: they have numbers in use, and belong to the stream of their list.
* `Listed`: one candidate more in the list of a component.
* `connCheckAddForLocalCandidate`: the pairs of a new local candidate.
* `KeepsCandidates`: what the functions that make pairs leave alone.
-/

namespace LibNice.Ice

open LibNice.Foundation LibNice.Stun

/-! ### Pairs of a local candidate -/

/-- `conn_check_add_for_local_candidate`: the agent, and how many pairs were added. -/
def connCheckAddForLocalCandidate (agent : NiceAgent) (sid : StreamId) (cid : ComponentId)
    (localCand : CandidateId) : NiceAgent × ℕ :=
  ((agent.stream sid).component cid).remoteCandidates.foldl (fun acc remoteCand =>
    let (agent, ret) := connCheckAddForCandidatePair acc.1 sid cid localCand remoteCand
    (agent, if ret then acc.2 + 1 else acc.2)) (agent, 0)

/-! ### Lists -/

/-- The candidates of the lists of all components, in the order of the streams. -/
def listedIn (lists : Component → List CandidateId) (agent : NiceAgent) : List CandidateId :=
  agent.streams.flatMap fun sid => (agent.stream sid).components.flatMap fun cid =>
    lists ((agent.stream sid).component cid)

/-- The candidates of the lists have numbers in use, and belong to the stream of their list. -/
structure ListsSound (lists : Component → List CandidateId) (agent : NiceAgent) : Prop where
  fresh : ∀ c ∈ listedIn lists agent, c < agent.nextCandidate
  owner : ∀ sid ∈ agent.streams, ∀ cid ∈ (agent.stream sid).components,
    ∀ c ∈ lists ((agent.stream sid).component cid), (agent.candidate c).streamId = sid

/-- The lists of an agent with the candidate `candidate` more in the component. -/
structure Listed (lists : Component → List CandidateId) (agent agent' : NiceAgent)
    (sid : StreamId) (cid : ComponentId) (candidate : NiceCandidate) : Prop where
  streams : agent'.streams = agent.streams
  nComponents : ∀ s, (agent'.stream s).nComponents = (agent.stream s).nComponents
  lists : ∀ s d, lists ((agent'.stream s).component d) =
    if s = sid ∧ d = cid then lists ((agent.stream s).component d) ++ [agent.nextCandidate]
    else lists ((agent.stream s).component d)
  candidate : agent'.candidate = Function.update agent.candidate agent.nextCandidate candidate
  nextCandidate : agent'.nextCandidate = agent.nextCandidate + 1
  compatibility : agent'.compatibility = agent.compatibility

/-! ### Pairs leave the candidates alone -/

/-- The candidates and the lists of them are what they were. -/
structure KeepsCandidates (a b : NiceAgent) : Prop where
  streams : b.streams = a.streams
  nComponents : ∀ s, (b.stream s).nComponents = (a.stream s).nComponents
  localCandidates : ∀ s c,
    ((b.stream s).component c).localCandidates = ((a.stream s).component c).localCandidates
  remoteCandidates : ∀ s c,
    ((b.stream s).component c).remoteCandidates = ((a.stream s).component c).remoteCandidates
  candidate : b.candidate = a.candidate
  nextCandidate : b.nextCandidate = a.nextCandidate
  nextCandidateId : b.nextCandidateId = a.nextCandidateId
  compatibility : b.compatibility = a.compatibility

section Keeps

variable {a b c : NiceAgent} {sid : StreamId} {cid : ComponentId}

lemma KeepsCandidates.refl : KeepsCandidates a a :=
  ⟨rfl, fun _ => rfl, fun _ _ => rfl, fun _ _ => rfl, rfl, rfl, rfl, rfl⟩

lemma KeepsCandidates.trans (h : KeepsCandidates a b) (h' : KeepsCandidates b c) :
    KeepsCandidates a c :=
  ⟨h'.streams.trans h.streams, fun s => (h'.nComponents s).trans (h.nComponents s),
    fun s d => (h'.localCandidates s d).trans (h.localCandidates s d),
    fun s d => (h'.remoteCandidates s d).trans (h.remoteCandidates s d),
    h'.candidate.trans h.candidate, h'.nextCandidate.trans h.nextCandidate,
    h'.nextCandidateId.trans h.nextCandidateId, h'.compatibility.trans h.compatibility⟩

/-- The limit writes into pairs only. -/
lemma limitPairs_pair (limit : ℕ) (list : List PairId) :
    ∀ acc : NiceAgent × ℕ, ∃ pair, (list.foldl (limitPair limit) acc).1 = { acc.1 with pair } := by
  induction list with
  | nil => exact fun acc => ⟨acc.1.pair, rfl⟩
  | cons p list ih =>
      intro acc
      obtain ⟨pair, hpair⟩ := ih (limitPair limit acc p)
      have hround : ∃ pair, (limitPair limit acc p).1 = { acc.1 with pair } := by
        rw [limitPair]
        split_ifs
        · exact ⟨_, rfl⟩
        · exact ⟨_, rfl⟩
        · exact ⟨_, rfl⟩
      obtain ⟨pair', hpair'⟩ := hround
      exact ⟨pair, by rw [List.foldl_cons, hpair, hpair']⟩

lemma limit_keeps (list : List PairId) (limit : ℕ) :
    KeepsCandidates a (privLimitConnCheckListSize a list limit) := by
  obtain ⟨pair, hpair⟩ := limitPairs_pair limit list (a, 0)
  rw [privLimitConnCheckListSize, hpair]
  exact ⟨rfl, fun _ => rfl, fun _ _ => rfl, fun _ _ => rfl, rfl, rfl, rfl, rfl⟩

lemma setCheckList_keeps (list : List PairId) : KeepsCandidates a (a.setCheckList sid list) := by
  have hstream (s : StreamId) : ((a.setCheckList sid list).stream s).nComponents =
      (a.stream s).nComponents ∧
      ((a.setCheckList sid list).stream s).component = (a.stream s).component := by
    rcases eq_or_ne s sid with rfl | hs
    · simp [NiceAgent.setCheckList]
    · simp [NiceAgent.setCheckList, hs]
  refine ⟨rfl, fun s => (hstream s).1, fun s d => ?_, fun s d => ?_, rfl, rfl, rfl, rfl⟩
  all_goals rw [(hstream s).2]

lemma addNewCheckPair_keeps (l r : CandidateId) (state : NiceCheckState) (useCandidate : Bool) :
    KeepsCandidates a (privAddNewCheckPair a sid cid l r state useCandidate) := by
  have hinsert (pair : CandidateCheckPair) (list : List PairId) :
      KeepsCandidates a (NiceAgent.setCheckList
        { a.setPair a.nextPair pair with nextPair := a.nextPair + 1 } sid list) := by
    refine KeepsCandidates.trans ?_ (setCheckList_keeps list)
    exact ⟨rfl, fun _ => rfl, fun _ _ => rfl, fun _ _ => rfl, rfl, rfl, rfl, rfl⟩
  rw [privAddNewCheckPair]
  dsimp only
  split_ifs
  · exact (hinsert _ _).trans (limit_keeps _ _)
  · exact hinsert _ _

lemma setState_keeps (state : NiceComponentState) :
    KeepsCandidates a (a.setComponent sid cid { (a.stream sid).component cid with state }) := by
  refine ⟨rfl, fun s => ?_, fun s d => ?_, fun s d => ?_, rfl, rfl, rfl, rfl⟩
  all_goals
    rcases eq_or_ne s sid with rfl | hs
    · first
      | simp [NiceAgent.setComponent]; done
      | rcases eq_or_ne d cid with rfl | hd <;> simp [NiceAgent.setComponent, *]
    · simp [NiceAgent.setComponent, hs]

lemma signalStateChange_keeps (state : NiceComponentState) :
    KeepsCandidates a (agentSignalComponentStateChange a sid cid state) := by
  rw [agentSignalComponentStateChange]
  cases agentFindComponent a sid cid with
  | none => exact .refl
  | some s =>
      dsimp only
      split_ifs
      · refine (@setState_keeps a s cid state).trans ?_
        exact ⟨rfl, fun _ => rfl, fun _ _ => rfl, fun _ _ => rfl, rfl, rfl, rfl, rfl⟩
      · exact .refl

lemma addForCandidatePair_keeps (l r : CandidateId) :
    KeepsCandidates a (connCheckAddForCandidatePair a sid cid l r).1 := by
  rw [connCheckAddForCandidatePair]
  split_ifs
  · exact .refl
  · exact .refl
  · exact (addNewCheckPair_keeps l r .frozen false).trans (signalStateChange_keeps _)
  · exact .refl

/-- A loop of additions. -/
lemma addForCandidatePairs_keeps {f : NiceAgent × ℕ → CandidateId → NiceAgent × ℕ}
    (hf : ∀ acc x, KeepsCandidates acc.1 (f acc x).1) (list : List CandidateId) :
    ∀ acc : NiceAgent × ℕ, KeepsCandidates acc.1 (list.foldl f acc).1 := by
  induction list with
  | nil => exact fun _ => .refl
  | cons x list ih => exact fun acc => (hf acc x).trans (ih _)

lemma addForLocalCandidate_keeps (l : CandidateId) :
    KeepsCandidates a (connCheckAddForLocalCandidate a sid cid l).1 :=
  addForCandidatePairs_keeps (fun _ r => addForCandidatePair_keeps l r) _ (a, 0)

lemma connCheckAddForCandidate_keeps (r : CandidateId) :
    KeepsCandidates a (connCheckAddForCandidate a sid cid r).1 :=
  addForCandidatePairs_keeps (fun _ l => addForCandidatePair_keeps l r) _ (a, 0)

end Keeps

/-! ### One candidate more -/

section Lists

variable {lists : Component → List CandidateId} {agent agent' : NiceAgent} {sid : StreamId}
  {cid : ComponentId} {c : CandidateId} {candidate : NiceCandidate}

lemma mem_listedIn : c ∈ listedIn lists agent ↔
    ∃ sid ∈ agent.streams, ∃ cid ∈ (agent.stream sid).components,
      c ∈ lists ((agent.stream sid).component cid) := by
  simp [listedIn, List.mem_flatMap]

lemma Listed.keeps (h : Listed lists agent agent' sid cid candidate) {agent'' : NiceAgent}
    (h' : KeepsCandidates agent' agent'')
    (hlists : ∀ s d,
      lists ((agent''.stream s).component d) = lists ((agent'.stream s).component d)) :
    Listed lists agent agent'' sid cid candidate :=
  ⟨h'.streams.trans h.streams, fun s => (h'.nComponents s).trans (h.nComponents s),
    fun s d => (hlists s d).trans (h.lists s d), h'.candidate.trans h.candidate,
    h'.nextCandidate.trans h.nextCandidate, h'.compatibility.trans h.compatibility⟩

lemma Listed.mem_iff (h : Listed lists agent agent' sid cid candidate)
    (hsid : sid ∈ agent.streams) (hcid : cid ∈ (agent.stream sid).components) :
    c ∈ listedIn lists agent' ↔ c ∈ listedIn lists agent ∨ c = agent.nextCandidate := by
  simp only [mem_listedIn, Stream.components, h.streams, h.nComponents, h.lists]
  constructor
  · rintro ⟨s, hs, d, hd, hc⟩
    split_ifs at hc with heq
    · rcases List.mem_append.mp hc with hc | hc
      · exact .inl ⟨s, hs, d, hd, hc⟩
      · exact .inr (List.mem_singleton.mp hc)
    · exact .inl ⟨s, hs, d, hd, hc⟩
  · rintro (⟨s, hs, d, hd, hc⟩ | rfl)
    · refine ⟨s, hs, d, hd, ?_⟩
      split_ifs
      · exact List.mem_append_left _ hc
      · exact hc
    · refine ⟨sid, hsid, cid, hcid, ?_⟩
      rw [if_pos ⟨rfl, rfl⟩]
      exact List.mem_append_right _ List.mem_cons_self

/-- The old candidates are what they were. -/
lemma Listed.candidate_of_lt (h : Listed lists agent agent' sid cid candidate)
    (hc : c < agent.nextCandidate) : agent'.candidate c = agent.candidate c := by
  rw [h.candidate, Function.update_of_ne hc.ne]

lemma Listed.candidate_new (h : Listed lists agent agent' sid cid candidate) :
    agent'.candidate agent.nextCandidate = candidate := by
  rw [h.candidate, Function.update_self]

/-- **The lists are sound with one candidate more.** -/
lemma Listed.sound (h : Listed lists agent agent' sid cid candidate) (hsid : sid ∈ agent.streams)
    (hcid : cid ∈ (agent.stream sid).components) (hsound : ListsSound lists agent)
    (howner : candidate.streamId = sid) : ListsSound lists agent' := by
  refine ⟨fun c hc => ?_, fun s hs d hd c hc => ?_⟩
  · rw [h.nextCandidate]
    rcases (h.mem_iff hsid hcid).mp hc with hc | rfl
    · exact (hsound.fresh c hc).trans (Nat.lt_succ_self _)
    · exact Nat.lt_succ_self _
  · rw [h.streams] at hs
    rw [Stream.components, h.nComponents] at hd
    rw [h.lists] at hc
    have hold (hc : c ∈ lists ((agent.stream s).component d)) :
        (agent'.candidate c).streamId = s := by
      rw [h.candidate_of_lt (hsound.fresh c (mem_listedIn.mpr ⟨s, hs, d, hd, hc⟩))]
      exact hsound.owner s hs d hd c hc
    split_ifs at hc with heq
    · rcases List.mem_append.mp hc with hc | hc
      · exact hold hc
      · rw [List.mem_singleton.mp hc, h.candidate_new, howner, heq.1]
    · exact hold hc

end Lists

end LibNice.Ice
