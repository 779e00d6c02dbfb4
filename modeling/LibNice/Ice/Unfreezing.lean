import LibNice.Ice.CheckList
import LibNice.Ice.Usage

/-!
`priv_conn_check_unfreeze_related` and `priv_conn_check_unfreeze_next` (`agent/conncheck.c`): the
frozen checks that a successful check sets going.

* `privConnCheckUnfreezeNext`, `privConnCheckUnfreezeRelated`: the functions.
* `Related`: the frozen pairs with the foundation of the successful one.
* `Unfreezes`: what is asked of the second function, over all streams.
* `unfreeze_related_iff`: **the related pairs are unfrozen** exactly when, whenever it comes to
  another stream, its only related pair is also the next one of the agent;
  `two_related_one_unfrozen` is a stream with two.
-/

namespace LibNice.Ice

open LibNice.Foundation LibNice.Stun

/-! ### The functions -/

/-- `priv_conn_check_unfreeze_next`. -/
def privConnCheckUnfreezeNext (agent : NiceAgent) : Bool × NiceAgent :=
  match agent.streams.findSome? fun sid =>
      (maxFrozen agent (agent.stream sid).conncheckList).2 with
  | some pair => (true, agent.setPairState pair .waiting)
  | none => (false, agent)

/-- A round of the two loops of `priv_conn_check_unfreeze_related`, with `eligible` the test of the
stream: the agent and `unfrozen`. -/
def unfreezeRound (okCheck : PairId) (eligible : StreamId → Bool) (acc : NiceAgent × ℕ)
    (p : PairId) : NiceAgent × ℕ :=
  if eligible (acc.1.pair p).streamId && (acc.1.pair p).state = .frozen &&
      (acc.1.pair p).foundation = (acc.1.pair okCheck).foundation then
    (acc.1.setPairState p .waiting, acc.2 + 1)
  else acc

/-- Step (2) of `priv_conn_check_unfreeze_related`.  Its inner loop walks the list of the stream
`sid` of the successful check, whichever stream `s` the outer loop has come to. -/
def unfreezeOthers (sid : StreamId) (okCheck : PairId) :
    List StreamId → NiceAgent × ℕ → NiceAgent × ℕ
  | [], acc => acc
  | s :: streams, acc =>
      let acc := (acc.1.stream sid).conncheckList.foldl
        (unfreezeRound okCheck fun t => t = s && t ≠ (acc.1.pair okCheck).streamId) acc
      -- only unfreeze check from one stream at a time
      if acc.2 ≠ 0 then acc else unfreezeOthers sid okCheck streams acc

/-- `priv_conn_check_unfreeze_related`. -/
def privConnCheckUnfreezeRelated (agent : NiceAgent) (sid : StreamId) (okCheck : PairId) :
    Except Fault NiceAgent :=
  if (agent.pair okCheck).state ≠ .succeeded then .error .assertFailed
  else if sid ≠ (agent.pair okCheck).streamId then .error .assertFailed
  else
    let acc := (agent.stream sid).conncheckList.foldl
      (unfreezeRound okCheck fun t => t = (agent.pair okCheck).streamId) (agent, 0)
    match agentFindStream acc.1 (agent.pair okCheck).streamId with
    | none => .error .outOfBounds
    | some sid =>
        let acc :=
          if streamAllComponentsReady (acc.1.stream sid) then
            unfreezeOthers sid okCheck acc.1.streams acc
          else acc
        .ok (if acc.2 = 0 then (privConnCheckUnfreezeNext acc.1).2 else acc.1)

/-! ### What is asked for -/

/-- A frozen pair with the foundation of the successful check. -/
def Related (agent : NiceAgent) (okCheck p : PairId) : Prop :=
  (agent.pair p).state = .frozen ∧ (agent.pair p).foundation = (agent.pair okCheck).foundation

/-- The stream of the check is done and has no related pair, and `t`, between `before` and `after`,
is the first stream that has one. -/
structure NextStream (agent : NiceAgent) (sid : StreamId) (okCheck : PairId)
    (before : List StreamId) (t : StreamId) (after : List StreamId) : Prop where
  ready : streamAllComponentsReady (agent.stream sid) = true
  own : ∀ p ∈ (agent.stream sid).conncheckList, ¬Related agent okCheck p
  streams : agent.streams = before ++ t :: after
  first : ∀ s ∈ before, ∀ p ∈ (agent.stream s).conncheckList, ¬Related agent okCheck p
  related : ∃ p ∈ (agent.stream t).conncheckList, Related agent okCheck p

/-- What `priv_conn_check_unfreeze_related` is for: `agent'` is `agent` with the related pairs
unfrozen, those of the stream itself, or those of the first stream that has any. -/
structure Unfreezes (agent agent' : NiceAgent) (sid : StreamId) (okCheck : PairId) : Prop where
  own : ∀ p ∈ (agent.stream sid).conncheckList, ¬Related agent' okCheck p
  other : ∀ before t after, NextStream agent sid okCheck before t after →
    (∀ p ∈ (agent.stream t).conncheckList, Related agent okCheck p →
      (agent'.pair p).state = .waiting) ∧
    (∀ s ∈ after, ∀ p ∈ (agent.stream s).conncheckList, agent'.pair p = agent.pair p) ∧
    ∀ s ∈ agent.streams, ∀ p ∈ (agent.stream s).conncheckList,
      (agent.pair p).state = .frozen →
        (agent.pair p).foundation ≠ (agent.pair okCheck).foundation →
          (agent'.pair p).state = .frozen

/-- The next pair of the agent is the only related pair of the stream `t`: no stream before it has
a frozen pair with a priority. -/
structure OnlyNext (agent : NiceAgent) (okCheck : PairId) (before : List StreamId) (t : StreamId) :
    Prop where
  first : ∀ s ∈ before, ∀ p ∈ (agent.stream s).conncheckList,
    (agent.pair p).state = .frozen → (agent.pair p).priority.toNat = 0
  only : ∃ u, Highest agent (agent.stream t).conncheckList u ∧
    ∀ p ∈ (agent.stream t).conncheckList, Related agent okCheck p → p = u

/-! ### The loops -/

section Loops

variable {agent : NiceAgent} {sid : StreamId} {okCheck p : PairId} {eligible : StreamId → Bool}
  {n : ℕ}

lemma unfreezeRound_hit
    (h : eligible (agent.pair p).streamId = true ∧ Related agent okCheck p) :
    unfreezeRound okCheck eligible (agent, n) p = (agent.setPairState p .waiting, n + 1) := by
  obtain ⟨he, hstate, hfoundation⟩ := h
  rw [unfreezeRound, if_pos (by simp [he, hstate, hfoundation])]

lemma unfreezeRound_miss
    (h : ¬(eligible (agent.pair p).streamId = true ∧ Related agent okCheck p)) :
    unfreezeRound okCheck eligible (agent, n) p = (agent, n) := by
  rw [unfreezeRound, if_neg]
  intro hall
  simp only [Bool.and_eq_true, decide_eq_true_eq] at hall
  exact h ⟨hall.1.1, hall.1.2, hall.2⟩

/-- A loop that meets no related pair changes nothing. -/
lemma unfreezeLoop_of_none {list : List PairId}
    (h : ∀ p ∈ list, eligible (agent.pair p).streamId = true → ¬Related agent okCheck p) :
    list.foldl (unfreezeRound okCheck eligible) (agent, n) = (agent, n) := by
  induction list with
  | nil => rfl
  | cons p list ih =>
      have hskip : unfreezeRound okCheck eligible (agent, n) p = (agent, n) :=
        unfreezeRound_miss fun hp => h p List.mem_cons_self hp.1 hp.2
      rw [List.foldl_cons, hskip]
      exact ih fun q hq => h q (List.mem_cons_of_mem _ hq)

/-- What a loop leaves of the agent. -/
structure Swept (agent : NiceAgent) (okCheck : PairId) (eligible : StreamId → Bool)
    (list : List PairId) (agent' : NiceAgent) : Prop where
  streams : agent'.streams = agent.streams
  stream : agent'.stream = agent.stream
  streamId : ∀ q, (agent'.pair q).streamId = (agent.pair q).streamId
  foundation : ∀ q, (agent'.pair q).foundation = (agent.pair q).foundation
  thawed : ∀ p ∈ list, eligible (agent.pair p).streamId = true → ¬Related agent' okCheck p
  frozen : ∀ q, (agent'.pair q).state = .frozen → (agent.pair q).state = .frozen

/-- A loop unfreezes the related pairs of its list, and counts them. -/
lemma unfreezeLoop_swept (list : List PairId) :
    ∀ (agent : NiceAgent) (n : ℕ),
      Swept agent okCheck eligible list (list.foldl (unfreezeRound okCheck eligible) (agent, n)).1 ∧
      ((∃ p ∈ list, eligible (agent.pair p).streamId = true ∧ Related agent okCheck p) →
        n < (list.foldl (unfreezeRound okCheck eligible) (agent, n)).2) ∧
      n ≤ (list.foldl (unfreezeRound okCheck eligible) (agent, n)).2 := by
  induction list with
  | nil => exact fun agent n => ⟨⟨rfl, rfl, fun _ => rfl, fun _ => rfl, by simp, fun _ h => h⟩,
      by simp, le_rfl⟩
  | cons p list ih =>
      intro agent n
      rw [List.foldl_cons]
      by_cases hp : eligible (agent.pair p).streamId = true ∧ Related agent okCheck p
      · rw [unfreezeRound_hit hp]
        obtain ⟨hswept, -, hle⟩ := ih (agent.setPairState p .waiting) (n + 1)
        refine ⟨⟨hswept.streams, hswept.stream, fun q => ?_, fun q => ?_, fun q hq he => ?_,
          fun q hq => ?_⟩, fun _ => hle, by omega⟩
        · rw [hswept.streamId, setPairState_streamId]
        · rw [hswept.foundation, setPairState_foundation]
        · rcases List.mem_cons.mp hq with rfl | hq
          · intro hrel
            have hstate := hswept.frozen q hrel.1
            rw [setPairState_state_self] at hstate
            cases hstate
          · exact hswept.thawed q hq (by rwa [setPairState_streamId])
        · have hstate := hswept.frozen q hq
          by_cases hqp : q = p
          · subst hqp
            exact hp.2.1
          · rwa [setPairState_pair_of_ne hqp] at hstate
      · rw [unfreezeRound_miss hp]
        obtain ⟨hswept, hcount, hle⟩ := ih agent n
        refine ⟨⟨hswept.streams, hswept.stream, hswept.streamId, hswept.foundation,
          fun q hq he => ?_, hswept.frozen⟩, fun ⟨q, hq, he⟩ => hcount ?_, hle⟩
        · rcases List.mem_cons.mp hq with rfl | hq
          · intro hrel
            have hframe := hswept.frozen q hrel.1
            refine hp ⟨he, hframe, ?_⟩
            rw [← hswept.foundation q, hrel.2, hswept.foundation]
          · exact hswept.thawed q hq he
        · rcases List.mem_cons.mp hq with rfl | hq
          · exact absurd he hp
          · exact ⟨q, hq, he⟩

/-- Step (2) does nothing: the pairs it walks are all of the stream of the check. -/
lemma unfreezeOthers_eq (howned : ListsOwned agent) (hsid : sid ∈ agent.streams)
    (hok : (agent.pair okCheck).streamId = sid) (streams : List StreamId) :
    unfreezeOthers sid okCheck streams (agent, n) = (agent, n) := by
  induction streams with
  | nil => rfl
  | cons s streams ih =>
      have hloop : (agent.stream sid).conncheckList.foldl
          (unfreezeRound okCheck fun t => t = s && t ≠ (agent.pair okCheck).streamId) (agent, n) =
            (agent, n) := by
        refine unfreezeLoop_of_none fun p hp he => ?_
        have hown := howned.owner sid hsid p hp
        simp [hown, hok] at he
      rw [unfreezeOthers]
      dsimp only
      rw [hloop, ih, ite_self]

lemma Swept.owned {list : List PairId} {agent' : NiceAgent}
    (h : Swept agent okCheck eligible list agent') (howned : ListsOwned agent) :
    ListsOwned agent' := by
  refine ⟨h.streams ▸ howned.nodup, fun sid hsid p hp => ?_⟩
  rw [h.streams] at hsid
  rw [h.stream] at hp
  rw [h.streamId]
  exact howned.owner sid hsid p hp

/-- What comes after step (1), which leaves `acc`: the next pair, if nothing was unfrozen. -/
lemma unfreezeRelated_eq (howned : ListsOwned agent) (hsid : sid ∈ agent.streams)
    (hstate : (agent.pair okCheck).state = .succeeded)
    (hok : (agent.pair okCheck).streamId = sid) {acc : NiceAgent × ℕ}
    (hacc : (agent.stream sid).conncheckList.foldl
      (unfreezeRound okCheck fun t => t = (agent.pair okCheck).streamId) (agent, 0) = acc) :
    privConnCheckUnfreezeRelated agent sid okCheck =
      .ok (if acc.2 = 0 then (privConnCheckUnfreezeNext acc.1).2 else acc.1) := by
  obtain ⟨hswept, -⟩ := @unfreezeLoop_swept okCheck (fun t => t = (agent.pair okCheck).streamId)
    (agent.stream sid).conncheckList agent 0
  rw [hacc] at hswept
  have hsid' : sid ∈ acc.1.streams := by rwa [hswept.streams]
  have hothers := @unfreezeOthers_eq acc.1 sid okCheck acc.2 (hswept.owned howned) hsid'
    (by rw [hswept.streamId, hok]) acc.1.streams
  rw [privConnCheckUnfreezeRelated, if_neg (by simp [hstate]), if_neg (by simp [hok])]
  rw [hacc]
  simp only [hok, agentFindStream_of_mem hsid']
  by_cases hready : streamAllComponentsReady (acc.1.stream sid) = true
  · simp only [if_pos hready, hothers]
  · simp only [if_neg hready]

/-- The next pair of an agent: the highest frozen one of the first stream that has one. -/
lemma unfreezeNext_cases (agent : NiceAgent) :
    (privConnCheckUnfreezeNext agent).2 = agent ∨
      ∃ before s after u, agent.streams = before ++ s :: after ∧
        (∀ t ∈ before, ∀ p ∈ (agent.stream t).conncheckList, (agent.pair p).state = .frozen →
          (agent.pair p).priority.toNat = 0) ∧
        Highest agent (agent.stream s).conncheckList u ∧
        (privConnCheckUnfreezeNext agent).2 = agent.setPairState u .waiting := by
  rw [privConnCheckUnfreezeNext]
  cases hfind : agent.streams.findSome? fun sid =>
      (maxFrozen agent (agent.stream sid).conncheckList).2 with
  | none => exact .inl rfl
  | some u =>
      obtain ⟨before, s, after, hsplit, hs, hbefore⟩ := List.findSome?_eq_some_iff.mp hfind
      exact .inr ⟨before, s, after, u, hsplit, fun t ht => maxFrozen_eq_none (hbefore t ht),
        maxFrozen_eq_some hs, rfl⟩

end Loops

/-! ### The condition -/

/-- **Unfreezing across streams.**  After a successful check the related pairs are unfrozen exactly
when, if its own stream is done and has none, the next pair of the agent is the only one of the
first other stream that has any. -/
theorem unfreeze_related_iff (agent : NiceAgent) (sid : StreamId) (okCheck : PairId)
    (howned : ListsOwned agent) (hsid : sid ∈ agent.streams)
    (hstate : (agent.pair okCheck).state = .succeeded)
    (hok : (agent.pair okCheck).streamId = sid) :
    (∃ agent', privConnCheckUnfreezeRelated agent sid okCheck = .ok agent' ∧
        Unfreezes agent agent' sid okCheck) ↔
      ∀ before t after, NextStream agent sid okCheck before t after →
        OnlyNext agent okCheck before t := by
  by_cases hown : ∃ p ∈ (agent.stream sid).conncheckList, Related agent okCheck p
  · -- step (1) finds a pair
    obtain ⟨p, hp, hrel⟩ := hown
    obtain ⟨hswept, hcount, -⟩ := @unfreezeLoop_swept okCheck
      (fun t => t = (agent.pair okCheck).streamId) (agent.stream sid).conncheckList agent 0
    have hpos := hcount ⟨p, hp, by simp [howned.owner sid hsid p hp, hok], hrel⟩
    refine iff_of_true ⟨_, unfreezeRelated_eq howned hsid hstate hok rfl, ?_, ?_⟩ ?_
    · rw [if_neg (by omega)]
      exact fun q hq => hswept.thawed q hq (by simp [howned.owner sid hsid q hq, hok])
    · exact fun before t after hnext => absurd hrel (hnext.own p hp)
    · exact fun before t after hnext => absurd hrel (hnext.own p hp)
  · push Not at hown
    have hloop := @unfreezeLoop_of_none agent okCheck
      (fun t => t = (agent.pair okCheck).streamId) 0 (agent.stream sid).conncheckList
      fun p hp _ => hown p hp
    rw [unfreezeRelated_eq howned hsid hstate hok hloop, if_pos rfl]
    constructor
    · rintro ⟨agent', hrun, hunfreezes⟩ before t after hnext
      obtain rfl := Except.ok.inj hrun
      obtain ⟨hwaiting, -⟩ := hunfreezes.other before t after hnext
      obtain ⟨q, hq, hqrel⟩ := hnext.related
      have hqstate := hwaiting q hq hqrel
      rcases unfreezeNext_cases agent with hsame | ⟨before', s, after', u, hsplit, hfirst, hu, hset⟩
      · rw [hsame, hqrel.1] at hqstate
        cases hqstate
      · -- every related pair of `t` is the pair that was unfrozen
        have honly : ∀ p ∈ (agent.stream t).conncheckList, Related agent okCheck p → p = u := by
          intro p hp hrel
          by_contra hne
          have hpstate := hwaiting p hp hrel
          rw [hset, setPairState_pair_of_ne hne, hrel.1] at hpstate
          cases hpstate
        obtain rfl := honly q hq hqrel
        have hmemt : t ∈ agent.streams := by simp [hnext.streams]
        have hmems : s ∈ agent.streams := by simp [hsplit]
        have hst : s = t :=
          (howned.owner s hmems q hu.mem).symm.trans (howned.owner t hmemt q hq)
        subst hst
        have hnodup := howned.nodup
        rw [hsplit, List.nodup_middle, List.nodup_cons, List.mem_append, not_or] at hnodup
        obtain ⟨rfl, -, -⟩ := (List.append_cons_inj_of_notMem hnodup.1.1 hnodup.1.2).mp
          (hsplit.symm.trans hnext.streams)
        exact ⟨hfirst, q, hu, honly⟩
    · intro honly
      refine ⟨_, rfl, ?_, ?_⟩
      · intro p hp hrel
        rcases unfreezeNext_cases agent with hsame | ⟨before, s, after, u, -, -, -, hset⟩
        · rw [hsame] at hrel
          exact hown p hp hrel
        · rw [hset] at hrel
          by_cases hpu : p = u
          · subst hpu
            have hwaiting := hrel.1
            rw [setPairState_state_self] at hwaiting
            cases hwaiting
          · refine hown p hp ⟨?_, ?_⟩
            · rw [← hrel.1, setPairState_pair_of_ne hpu]
            · simpa using hrel.2
      · intro before t after hnext
        obtain ⟨hfirst, u, hu, hall⟩ := honly before t after hnext
        obtain ⟨q, hq, hqrel⟩ := hnext.related
        obtain rfl := hall q hq hqrel
        have hfind : (agent.streams.findSome? fun sid =>
            (maxFrozen agent (agent.stream sid).conncheckList).2) = some q :=
          List.findSome?_eq_some_iff.mpr ⟨before, t, after, hnext.streams, maxFrozen_of_highest hu,
            fun s hs => maxFrozen_of_zero (hfirst s hs)⟩
        rw [privConnCheckUnfreezeNext, hfind]
        refine ⟨fun p hp hrel => ?_, fun s hs p hp => ?_, fun s hs p hp hfrozen hne => ?_⟩
        · rw [hall p hp hrel, setPairState_state_self]
        · refine setPairState_pair_of_ne fun hpq => ?_
          subst hpq
          have hmemt : t ∈ agent.streams := by simp [hnext.streams]
          have hmems : s ∈ agent.streams := by simp [hnext.streams, hs]
          have hst : s = t := (howned.owner s hmems p hp).symm.trans (howned.owner t hmemt p hq)
          have hnodup := howned.nodup
          rw [hnext.streams, List.nodup_append] at hnodup
          exact (List.nodup_cons.mp hnodup.2.1).1 (hst ▸ hs)
        · have hpq : p ≠ q := by
            rintro rfl
            exact hne hqrel.2
          rw [setPairState_pair_of_ne hpq, hfrozen]

/-- A component that is ready, without candidates. -/
def readyComponent : Component :=
  { state := .ready, localCandidates := [], remoteCandidates := [], incomingChecks := []
    selectedPair := .clear, turnCandidate := none
    stunAgent := niceAgentInitStunAgent .rfc5245 none }

/-- A stream of one such component with the check list `list`. -/
def readyStream (list : List PairId) : Stream :=
  { nComponents := 1, component := fun _ => readyComponent, conncheckList := list
    localUfrag := [], localPassword := [], remoteUfrag := [], remotePassword := []
    initialBindingRequestReceived := true }

/-- A candidate without an address. -/
def blankCandidate : NiceCandidate :=
  { type := .host, transport := .udp, addr := ⟨false, [], 0, 0⟩, baseAddr := ⟨false, [], 0, 0⟩
    priority := 0, streamId := 0, componentId := 1, foundation := [], username := none
    password := none, turnServer := none, sockptr := none }

/-- A pair of the stream `sid` with the given state and priority. -/
def blankPair (sid : StreamId) (state : NiceCheckState) (priority : UInt64) : CandidateCheckPair :=
  { streamId := sid, componentId := 1, localCand := 0, remoteCand := 0, sockptr := none
    foundation := [1], state, nominated := false, controlling := true, timerRestarted := false
    priority, stunMessage := none }

/-- An agent whose stream 1 has the successful pair 0, and whose stream 2 has the frozen pairs
`list`, all with one foundation. -/
def twoStreamAgent (list : List PairId) : NiceAgent :=
  { controllingMode := true, tieBreaker := 0, compatibility := .rfc5245
    softwareAttribute := none, reliable := false, keepaliveConncheck := false, maxConnChecks := 100
    mediaAfterTick := false, nextStreamId := 3, nextCandidateId := 0, streams := [1, 2]
    stream := fun sid => if sid = 1 then readyStream [0] else readyStream list
    nextCandidate := 0, candidate := fun _ => blankCandidate, nextPair := 3
    pair := fun p =>
      if p = 0 then blankPair 1 .succeeded 30 else blankPair 2 .frozen (20 - UInt64.ofNat p)
    discoveryList := [], otherIds := [], conncheckTimer := true, keepaliveTimer := true
    transids := 0, trace := [] }

lemma twoStreamAgent_owned {list : List PairId} (h : 0 ∉ list) :
    ListsOwned (twoStreamAgent list) := by
  refine ⟨show [1, 2].Nodup by decide, fun sid hsid p hp => ?_⟩
  have hcases : sid = 1 ∨ sid = 2 := by simpa [twoStreamAgent] using hsid
  rcases hcases with rfl | rfl
  · obtain rfl : p = 0 := by simpa [twoStreamAgent, readyStream] using hp
    rfl
  · have hmem : p ∈ list := by simpa [twoStreamAgent, readyStream] using hp
    have hne : p ≠ 0 := fun h0 => h (h0 ▸ hmem)
    simp [twoStreamAgent, hne, blankPair]

/-- One related pair in the other stream is unfrozen. -/
theorem unfreeze_related_sample :
    ∃ agent', privConnCheckUnfreezeRelated (twoStreamAgent [1]) 1 0 = .ok agent' ∧
      Unfreezes (twoStreamAgent [1]) agent' 1 0 := by
  refine (unfreeze_related_iff (twoStreamAgent [1]) 1 0 (twoStreamAgent_owned (by decide))
    (by decide) rfl rfl).mpr fun before t after hnext => ?_
  obtain ⟨-, hown, hsplit, hfirst, p, hp, hrel⟩ := hnext
  have hsplit : [1, 2] = before ++ t :: after := hsplit
  rcases before with _ | ⟨s, _ | ⟨s', before⟩⟩
  · obtain ⟨rfl, -⟩ := List.cons.inj hsplit
    exact absurd hrel (hown p hp)
  · obtain ⟨rfl, hrest⟩ := List.cons.inj hsplit
    obtain ⟨rfl, -⟩ := List.cons.inj hrest
    refine ⟨fun s hs p hp hfrozen => ?_, 1, ⟨rfl, by decide, [], [], rfl, by simp, by simp⟩,
      fun q hq _ => List.mem_singleton.mp hq⟩
    obtain rfl := List.mem_singleton.mp hs
    obtain rfl : p = 0 := List.mem_singleton.mp hp
    cases hfrozen
  · have hlen := congrArg List.length hsplit
    simp at hlen

/-- **Two related pairs in the other stream**: the second one stays frozen. -/
theorem two_related_one_unfrozen :
    ∃ agent sid okCheck agent', ListsOwned agent ∧ sid ∈ agent.streams ∧
      (agent.pair okCheck).state = .succeeded ∧ (agent.pair okCheck).streamId = sid ∧
      privConnCheckUnfreezeRelated agent sid okCheck = .ok agent' ∧
      ¬Unfreezes agent agent' sid okCheck := by
  refine ⟨twoStreamAgent [1, 2], 1, 0, (twoStreamAgent [1, 2]).setPairState 1 .waiting,
    twoStreamAgent_owned (by decide), by decide, rfl, rfl, ?_, fun h => ?_⟩
  · have hloop := @unfreezeLoop_of_none (twoStreamAgent [1, 2]) 0 (fun t => t = 1) 0 [0]
      fun p hp _ hrel => by
        obtain rfl := List.mem_singleton.mp hp
        cases hrel.1
    exact @unfreezeRelated_eq (twoStreamAgent [1, 2]) 1 0 (twoStreamAgent_owned (by decide))
      (by decide) rfl rfl _ hloop
  · have hnext : NextStream (twoStreamAgent [1, 2]) 1 0 [1] 2 [] := by
      refine ⟨by decide, fun p hp hrel => ?_, rfl, fun s hs p hp hrel => ?_, 1, by decide, rfl, rfl⟩
      · obtain rfl : p = 0 := List.mem_singleton.mp hp
        cases hrel.1
      · obtain rfl := List.mem_singleton.mp hs
        obtain rfl : p = 0 := List.mem_singleton.mp hp
        cases hrel.1
    have hwaiting := (h.other [1] 2 [] hnext).1 2 (by decide) ⟨rfl, rfl⟩
    cases hwaiting

end LibNice.Ice
