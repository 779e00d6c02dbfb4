import LibNice.Foundation.Run
import LibNice.Ice.CheckPairs
import LibNice.Ice.Unfreezing

/-!
The limit of a check list (`priv_limit_conn_check_list_size` of `agent/conncheck.c`), over all that
happens to the lists of an agent.

* `CandidateCheckPair.live`, `CandidateCheckPair.result`: a pair that is not cancelled, and one that
  has come to something.
* `LimitKeeps`: what is asked of an addition, `HasRoom`: what it takes.
* `Limited`: what the loop of `priv_limit_conn_check_list_size` does, pair by pair.
* `ListEvent`, `listEvent`: additions with anything else between them.
* `limitKeeps_run_iff`: no result is cancelled along a run just when there is room for all of them
  at each addition.
-/

namespace LibNice.Ice

open LibNice.Foundation LibNice.Stun

/-! ### Results -/

/-- The pair is not cancelled. -/
def CandidateCheckPair.live (pair : CandidateCheckPair) : Bool := pair.state ≠ .cancelled

/-- The pair has succeeded, was discovered or is nominated. -/
def CandidateCheckPair.result (pair : CandidateCheckPair) : Bool := pair.valid || pair.nominated

/-- The agent with a new pair in the list, which is not cut yet. -/
def insertedPair (agent : NiceAgent) (sid : StreamId) (cid : ComponentId)
    (localCand remoteCand : CandidateId) (initialState : NiceCheckState) (useCandidate : Bool) :
    NiceAgent :=
  let p := agent.nextPair
  let pair := newCheckPair agent sid cid localCand remoteCand initialState useCandidate
  let agent : NiceAgent := { agent.setPair p pair with nextPair := p + 1 }
  agent.setCheckList sid (insertPair agent (agent.stream sid).conncheckList p)

/-- What is asked of the limit: the list is not too long, unless there are more results than it may
hold, and no result is cancelled. -/
structure LimitKeeps (agent agent' : NiceAgent) (sid : StreamId) : Prop where
  bound : (agent'.stream sid).conncheckList.countP (fun p => (agent'.pair p).live) ≤
      agent'.maxConnChecks ∨
    agent'.maxConnChecks <
      (agent'.stream sid).conncheckList.countP fun p => (agent'.pair p).result
  results : ∀ p ∈ (agent.stream sid).conncheckList,
    (agent.pair p).result → (agent.pair p).live → (agent'.pair p).live

/-- Each result that is not cancelled is among the first `maxConnChecks` pairs that are not. -/
def HasRoom (agent : NiceAgent) (sid : StreamId) : Prop :=
  ∀ pre p post, (agent.stream sid).conncheckList = pre ++ p :: post →
    (agent.pair p).result → (agent.pair p).live →
      pre.countP (fun q => (agent.pair q).live) < agent.maxConnChecks

/-! ### The loop -/

/-- What the loop does to the pairs of `list`, when it has come by `n` pairs before that are not
cancelled. -/
structure Limited (limit n : ℕ) (agent agent' : NiceAgent) (list : List PairId) : Prop where
  stream : agent'.stream = agent.stream
  settings : agent'.nextPair = agent.nextPair ∧ agent'.maxConnChecks = agent.maxConnChecks ∧
    agent'.compatibility = agent.compatibility
  other : ∀ p ∉ list, agent'.pair p = agent.pair p
  pair : ∀ pre p post, list = pre ++ p :: post → agent'.pair p =
    if (agent.pair p).live ∧ limit ≤ n + pre.countP (fun q => (agent.pair q).live) then
      { agent.pair p with state := .cancelled }
    else agent.pair p
  count : n + list.countP (fun p => (agent'.pair p).live) ≤ max n limit

section Loop

variable {agent agent' : NiceAgent} {limit n : ℕ} {p : PairId} {list : List PairId}

/-- A round of the loop. -/
lemma limitPair_eq : limitPair limit (agent, n) p =
    if (agent.pair p).live then
      (if n + 1 > limit then agent.setPairState p .cancelled else agent, n + 1)
    else (agent, n) := by
  rw [limitPair]
  by_cases h : (agent.pair p).state = .cancelled <;> simp [CandidateCheckPair.live, h]

/-- **The loop of `priv_limit_conn_check_list_size`.** -/
theorem limitPairs_limited (limit : ℕ) (list : List PairId) :
    ∀ (agent : NiceAgent) (n : ℕ), list.Nodup →
      Limited limit n agent (list.foldl (limitPair limit) (agent, n)).1 list := by
  induction list with
  | nil =>
      intro agent n _
      exact ⟨rfl, ⟨rfl, rfl, rfl⟩, fun _ _ => rfl, fun pre p post h => by simp at h, by simp⟩
  | cons q list ih =>
      intro agent n hnodup
      obtain ⟨hq, hnodup⟩ := List.nodup_cons.mp hnodup
      rw [List.foldl_cons, limitPair_eq]
      by_cases hlive : (agent.pair q).live
      · rw [if_pos hlive]
        set agent₁ : NiceAgent := if n + 1 > limit then agent.setPairState q .cancelled else agent
          with hagent₁
        have hother : ∀ p ≠ q, agent₁.pair p = agent.pair p := by
          intro p hp
          rw [hagent₁]
          split_ifs
          · exact setPairState_pair_of_ne hp
          · rfl
        have hself : agent₁.pair q =
            if limit ≤ n then { agent.pair q with state := .cancelled } else agent.pair q := by
          rw [hagent₁]
          by_cases hn : limit ≤ n
          · rw [if_pos (by omega), if_pos hn]
            exact setPair_pair_self
          · rw [if_neg (by omega), if_neg hn]
        have h := ih agent₁ (n + 1) hnodup
        have hstream : agent₁.stream = agent.stream ∧ agent₁.nextPair = agent.nextPair ∧
            agent₁.maxConnChecks = agent.maxConnChecks ∧
            agent₁.compatibility = agent.compatibility := by
          rw [hagent₁]
          split_ifs <;> exact ⟨rfl, rfl, rfl, rfl⟩
        refine ⟨h.stream.trans hstream.1, ⟨h.settings.1.trans hstream.2.1,
          h.settings.2.1.trans hstream.2.2.1, h.settings.2.2.trans hstream.2.2.2⟩,
          fun p hp => ?_, fun pre p post hsplit => ?_, ?_⟩
        · rw [h.other p fun hmem => hp (List.mem_cons_of_mem _ hmem),
            hother p fun heq => hp (heq ▸ List.mem_cons_self)]
        · cases pre with
          | nil =>
              obtain ⟨rfl, rfl⟩ := List.cons.inj hsplit
              rw [h.other q hq, hself]
              simp [hlive]
          | cons q' pre =>
              obtain ⟨rfl, rfl⟩ := List.cons.inj hsplit
              have hne : p ≠ q := fun heq => hq (by simp [heq])
              have hpre : pre.countP (fun x => (agent₁.pair x).live) =
                  pre.countP fun x => (agent.pair x).live := by
                refine List.countP_congr fun x hx => ?_
                rw [hother x fun heq => hq (by simp [← heq, hx])]
              have hsum (k : ℕ) : n + 1 + k = n + (k + 1) := by omega
              rw [h.pair pre p post rfl, hother p hne, hpre, List.countP_cons, if_pos hlive, hsum]
        · have hcount := h.count
          rw [List.countP_cons]
          have hq' := h.other q hq
          rw [hself] at hq'
          by_cases hn : limit ≤ n
          · rw [if_pos hn] at hq'
            have hdead : ¬({ agent.pair q with state := .cancelled } : CandidateCheckPair).live :=
              by simp [CandidateCheckPair.live]
            rw [hq', if_neg hdead]
            omega
          · rw [if_neg hn] at hq'
            rw [hq', if_pos hlive]
            omega
      · rw [if_neg hlive]
        have h := ih agent n hnodup
        refine ⟨h.stream, h.settings, fun p hp => h.other p fun hmem =>
          hp (List.mem_cons_of_mem _ hmem), fun pre p post hsplit => ?_, ?_⟩
        · cases pre with
          | nil =>
              obtain ⟨rfl, rfl⟩ := List.cons.inj hsplit
              rw [h.other q hq]
              simp [hlive]
          | cons q' pre =>
              obtain ⟨rfl, rfl⟩ := List.cons.inj hsplit
              rw [h.pair pre p post rfl, List.countP_cons, if_neg hlive, Nat.add_zero]
        · rw [List.countP_cons, h.other q hq, if_neg hlive, Nat.add_zero]
          exact h.count

end Loop

/-! ### An addition -/

/-- The lists of an agent: their pairs have numbers in use, and none comes twice. -/
structure SoundLists (agent : NiceAgent) : Prop where
  fresh : ∀ sid, ∀ p ∈ (agent.stream sid).conncheckList, p < agent.nextPair
  nodup : ∀ sid, (agent.stream sid).conncheckList.Nodup

section Addition

variable {agent agent' : NiceAgent} {sid : StreamId} {cid : ComponentId} {l r : CandidateId}
  {state : NiceCheckState} {useCandidate : Bool}

lemma privAddNewCheckPair_eq (h : agent.compatibility = .rfc5245) :
    privAddNewCheckPair agent sid cid l r state useCandidate =
      privLimitConnCheckListSize (insertedPair agent sid cid l r state useCandidate)
        ((insertedPair agent sid cid l r state useCandidate).stream sid).conncheckList
        agent.maxConnChecks := by
  rw [privAddNewCheckPair]
  exact if_pos h

/-- The new pair has a number of its own. -/
lemma SoundLists.insertedPair (h : SoundLists agent) :
    SoundLists (insertedPair agent sid cid l r state useCandidate) := by
  have hperm : ((LibNice.Ice.insertedPair agent sid cid l r state useCandidate).stream
      sid).conncheckList.Perm (agent.nextPair :: (agent.stream sid).conncheckList) := by
    simp only [LibNice.Ice.insertedPair, NiceAgent.setCheckList, Function.update_self]
    exact List.perm_orderedInsert _ _ _
  have hother (s : StreamId) (hs : s ≠ sid) :
      ((LibNice.Ice.insertedPair agent sid cid l r state useCandidate).stream s).conncheckList =
        (agent.stream s).conncheckList := by
    simp [LibNice.Ice.insertedPair, NiceAgent.setCheckList, hs, NiceAgent.setPair]
  have hnew : agent.nextPair ∉ (agent.stream sid).conncheckList := fun hmem =>
    Nat.lt_irrefl _ (h.fresh sid _ hmem)
  refine ⟨fun s p hp => Nat.lt_succ_of_le ?_, fun s => ?_⟩
  · rcases eq_or_ne s sid with rfl | hs
    · rcases List.mem_cons.mp (hperm.mem_iff.mp hp) with rfl | hp
      · exact le_rfl
      · exact (h.fresh s p hp).le
    · rw [hother s hs] at hp
      exact (h.fresh s p hp).le
  · rcases eq_or_ne s sid with rfl | hs
    · exact hperm.nodup_iff.mpr (List.nodup_cons.mpr ⟨hnew, h.nodup s⟩)
    · rw [hother s hs]
      exact h.nodup s

/-- What the limit makes of the list with the new pair. -/
lemma addNewCheckPair_limited (hcompat : agent.compatibility = .rfc5245) (h : SoundLists agent) :
    Limited agent.maxConnChecks 0 (insertedPair agent sid cid l r state useCandidate)
      (privAddNewCheckPair agent sid cid l r state useCandidate)
      ((insertedPair agent sid cid l r state useCandidate).stream sid).conncheckList := by
  rw [privAddNewCheckPair_eq hcompat]
  exact limitPairs_limited _ _ _ 0 (h.insertedPair.nodup sid)

lemma SoundLists.addNewCheckPair (hcompat : agent.compatibility = .rfc5245)
    (h : SoundLists agent) :
    SoundLists (privAddNewCheckPair agent sid cid l r state useCandidate) ∧
      (privAddNewCheckPair agent sid cid l r state useCandidate).compatibility = .rfc5245 := by
  have hlimited := @addNewCheckPair_limited agent sid cid l r state useCandidate hcompat h
  have hsound := @SoundLists.insertedPair agent sid cid l r state useCandidate h
  refine ⟨⟨fun s p hp => ?_, fun s => ?_⟩, hlimited.settings.2.2.trans hcompat⟩
  · rw [hlimited.stream] at hp
    rw [hlimited.settings.1]
    exact hsound.fresh s p hp
  · rw [hlimited.stream]
    exact hsound.nodup s

/-- **An addition keeps all results** just when there is room for them. -/
lemma Limited.keeps_iff {limit : ℕ} (hmax : limit = agent.maxConnChecks)
    (h : Limited limit 0 agent agent' (agent.stream sid).conncheckList) :
    LimitKeeps agent agent' sid ↔ HasRoom agent sid := by
  subst hmax
  constructor
  · intro hkeeps pre p post hsplit hresult hlive
    have hafter := hkeeps.results p (by simp [hsplit]) hresult hlive
    rw [h.pair pre p post hsplit, Nat.zero_add] at hafter
    by_contra hroom
    rw [if_pos ⟨hlive, not_lt.mp hroom⟩] at hafter
    simp [CandidateCheckPair.live] at hafter
  · intro hroom
    refine ⟨.inl ?_, fun p hp hresult hlive => ?_⟩
    · have hcount := h.count
      rw [h.stream, h.settings.2.1]
      omega
    · obtain ⟨pre, post, hsplit⟩ := List.append_of_mem hp
      have hlt := hroom pre p post hsplit hresult hlive
      rw [h.pair pre p post hsplit, if_neg fun hboth => by omega]
      exact hlive

/-- There is room for all results in a list that is not too long. -/
lemma hasRoom_of_count (h : (agent.stream sid).conncheckList.countP (fun p => (agent.pair p).live) ≤
    agent.maxConnChecks) : HasRoom agent sid := by
  intro pre p post hsplit _ hlive
  rw [hsplit, List.countP_append, List.countP_cons, if_pos hlive] at h
  omega

end Addition

/-! ### Runs -/

/-- What happens to the lists of an agent: a pair is added, or anything else, after which the agent
is `agent`: ticks, answers and requests change pairs, and lists are pruned. -/
inductive ListEvent where
  | add (sid : StreamId) (cid : ComponentId) (localCand remoteCand : CandidateId)
      (initialState : NiceCheckState) (useCandidate : Bool)
  | check (agent : NiceAgent)

/-- The agent after an event. -/
def listEvent (agent : NiceAgent) : ListEvent → NiceAgent
  | .add sid cid l r state useCandidate => privAddNewCheckPair agent sid cid l r state useCandidate
  | .check agent => agent

/-- The compatibility of an agent does not change, and the numbers of its pairs are not used
again. -/
def ListEvent.Possible (agent : NiceAgent) : ListEvent → Prop
  | .add .. => True
  | .check agent' => SoundLists agent' ∧ agent'.compatibility = agent.compatibility

/-- What is asked of an event. -/
def ListEvent.Keeps (agent : NiceAgent) : ListEvent → Prop
  | .add sid cid l r state useCandidate =>
      LimitKeeps (insertedPair agent sid cid l r state useCandidate)
        (privAddNewCheckPair agent sid cid l r state useCandidate) sid
  | .check _ => True

/-- An addition for which there is room. -/
def ListEvent.Fits (agent : NiceAgent) : ListEvent → Prop
  | .add sid cid l r state useCandidate =>
      HasRoom (insertedPair agent sid cid l r state useCandidate) sid
  | .check _ => True

section Runs

variable {agent : NiceAgent} {e : ListEvent}

/-- What one event preserves. -/
lemma SoundLists.event (h : SoundLists agent) (hcompat : agent.compatibility = .rfc5245)
    (hposs : e.Possible agent) :
    SoundLists (listEvent agent e) ∧ (listEvent agent e).compatibility = .rfc5245 := by
  cases e with
  | add sid cid l r state useCandidate => exact h.addNewCheckPair hcompat
  | check agent' => exact ⟨hposs.1, hposs.2.trans hcompat⟩

lemma ListEvent.keeps_iff (h : SoundLists agent) (hcompat : agent.compatibility = .rfc5245) :
    e.Keeps agent ↔ e.Fits agent := by
  cases e with
  | add sid cid l r state useCandidate =>
      exact (addNewCheckPair_limited hcompat h).keeps_iff rfl
  | check agent' => exact Iff.rfl

/-- The pairs of a candidate come about by additions. -/
lemma addForCandidatePairMatched_events (sid : StreamId) (cid : ComponentId) (l r : CandidateId)
    (state : NiceCheckState) :
    privConnCheckAddForCandidatePairMatched agent sid cid l r state =
      [.add sid cid l r state false,
        .check (privConnCheckAddForCandidatePairMatched agent sid cid l r state)].foldl
          listEvent agent := rfl

/-- The checks that leave the lists and the numbers alone are events. -/
lemma ListEvent.possible_of_frame {agent' : NiceAgent} (h : SoundLists agent)
    (hframe : Frame agent agent') (hnext : agent'.nextPair = agent.nextPair) :
    (ListEvent.check agent').Possible agent :=
  ⟨⟨fun s p hp => by
      rw [hnext]
      exact h.fresh s p (hframe.list s ▸ hp),
    fun s => hframe.list s ▸ h.nodup s⟩, hframe.compatibility⟩

/-- **No result is cancelled along a run** just when there is room for all results at each of its
additions. -/
theorem limitKeeps_run_iff (agent : NiceAgent) (es : List ListEvent)
    (hcompat : agent.compatibility = .rfc5245) (hsound : SoundLists agent)
    (hposs : Along listEvent (fun a e => e.Possible a) agent es) :
    Along listEvent (fun a e => e.Keeps a) agent es ↔
      Along listEvent (fun a e => e.Fits a) agent es :=
  Along.congr (I := fun a => SoundLists a ∧ a.compatibility = .rfc5245)
    (fun _ _ h _ => ListEvent.keeps_iff h.1 h.2) (fun _ _ h hposs _ => h.1.event h.2 hposs) es agent
    ⟨hsound, hcompat⟩ hposs

end Runs

/-- An agent that may have `n` checks, without any.  The candidates 0 and 1 have the given
priorities. -/
def limitedAgent (n : ℕ) (low high : UInt32) : NiceAgent :=
  { twoStreamAgent [] with
    maxConnChecks := n
    streams := [1]
    stream := fun _ => readyStream []
    candidate := fun c => { blankCandidate with priority := if c = 0 then low else high }
    nextPair := 0
    pair := fun _ => blankPair 1 .frozen 0 }

/-- The check of the first pair succeeds, and then a second one is added. -/
def limitedEvents (n : ℕ) (low high : UInt32) : List ListEvent :=
  let first := privAddNewCheckPair (limitedAgent n low high) 1 1 0 0 .frozen false
  [.add 1 1 0 0 .frozen false, .check (first.setPairState 0 .succeeded),
    .add 1 1 0 1 .frozen false]

lemma limitedEvents_possible (n : ℕ) (low high : UInt32) :
    (limitedAgent n low high).compatibility = .rfc5245 ∧ SoundLists (limitedAgent n low high) ∧
      Along listEvent (fun a e => e.Possible a) (limitedAgent n low high)
        (limitedEvents n low high) := by
  have hsound : SoundLists (limitedAgent n low high) :=
    ⟨fun _ p (hp : p ∈ []) => absurd hp List.not_mem_nil, fun _ => List.nodup_nil⟩
  have hfirst := @SoundLists.addNewCheckPair (limitedAgent n low high) 1 1 0 0 .frozen false rfl
    hsound
  refine ⟨rfl, hsound, trivial, ⟨⟨hfirst.1.fresh, hfirst.1.nodup⟩, rfl⟩, trivial, trivial⟩

/-- There is room for two pairs. -/
theorem limitKeeps_run_sample :
    Along listEvent (fun a e => e.Keeps a) (limitedAgent 2 1 2) (limitedEvents 2 1 2) := by
  obtain ⟨hcompat, hsound, hposs⟩ := limitedEvents_possible 2 1 2
  exact (limitKeeps_run_iff _ (limitedEvents 2 1 2) hcompat hsound hposs).mpr
    ⟨hasRoom_of_count (by decide), trivial, hasRoom_of_count (by decide), trivial⟩

/-- **The working path is dropped**: a pair of a higher priority is added where there may be only
one. -/
theorem succeeded_pair_cancelled :
    ¬∀ (es : List ListEvent) (agent : NiceAgent), agent.compatibility = .rfc5245 →
      SoundLists agent → Along listEvent (fun a e => e.Possible a) agent es →
      Along listEvent (fun a e => e.Keeps a) agent es := by
  intro h
  obtain ⟨hcompat, hsound, hposs⟩ := limitedEvents_possible 1 1 2
  have hkeeps := h _ _ hcompat hsound hposs
  have hlive := hkeeps.2.2.1.results 0
  revert hlive
  decide

end LibNice.Ice
