import LibNice.Ice.Selection
import LibNice.Ice.Unfreezing

/-!
`priv_conn_check_tick_stream` (`agent/conncheck.c`): the timers of the checks of a stream, and the
nomination of its pairs.

* `tickPair`, `tickPairs`: the first loop, with its counters.
* `nominateComponent`, `nominateComponents`: the second one.
* `privConnCheckTickStream`: the function.  The clock is taken as given: it says of every pair
  whether its timer has expired, and what `stun_timer_refresh` then comes to.
* `Reaches`: what is asked of it, over all components of the stream.
* `tick_nominates_iff`: **every component gets its nominated pair, and no other one does**, exactly
  under `Nominable`; `nomination_repeated` is a component that is nominated again.
-/

namespace LibNice.Ice

open LibNice.Foundation LibNice.Stun

/-! ### The first loop -/

/-- What the timers of the pairs say: `none` while `priv_timer_expired` is false. -/
abbrev PairClock := PairId → Option StunUsageTimerReturn

/-- What the first loop does with a pair, and whether it sets `keep_timer_going`. -/
def tickPair (clock : PairClock) (sid : StreamId) (agent : NiceAgent) (p : PairId) :
    NiceAgent × Bool :=
  if (agent.pair p).state = .inProgress then
    match (agent.pair p).stunMessage, clock p with
    | none, _ => (agent.setPairState p .failed, false)
    | some _, none => (agent, false)
    | some _, some .timeout => (candidateCheckPairFail agent sid p, false)
    | some msg, some .retransmit =>
        ({ agent with
            trace := agent.trace ++ [.send (agent.pair p).sockptr
              (agent.candidate (agent.pair p).remoteCand).addr msg] }, true)
    | some _, some .success => (agent, true)
  else (agent, false)

/-- The counters of the first loop that are used after it, and `keep_timer_going`. -/
structure TickCounts where
  keepTimerGoing : Bool
  inProgress : ℕ
  nominated : ℕ
  waitingForNomination : ℕ

/-- The counters with the pair as it is now. -/
def TickCounts.count (counts : TickCounts) (keep : Bool) (pair : CandidateCheckPair) :
    TickCounts where
  keepTimerGoing := counts.keepTimerGoing || keep
  inProgress := counts.inProgress + if pair.state = .inProgress then 1 else 0
  nominated := counts.nominated + if pair.valid && pair.nominated then 1 else 0
  waitingForNomination :=
    counts.waitingForNomination + if pair.valid && !pair.nominated then 1 else 0

/-- The first loop. -/
def tickPairs (clock : PairClock) (sid : StreamId) :
    List PairId → NiceAgent × TickCounts → NiceAgent × TickCounts
  | [], acc => acc
  | p :: list, (agent, counts) =>
      let (agent, keep) := tickPair clock sid agent p
      tickPairs clock sid list (agent, counts.count keep (agent.pair p))

/-! ### The second loop -/

/-- The first valid pair of a component in a check list. -/
def firstValid (agent : NiceAgent) (list : List PairId) (cid : ComponentId) : Option PairId :=
  list.find? fun p => (agent.pair p).componentId = cid && (agent.pair p).valid

/-- A round of the second loop: the first valid pair of the component is nominated, and its check
sent again. -/
def nominateComponent (env : Env) (sid : StreamId) (agent : NiceAgent) (cid : ComponentId) :
    NiceAgent :=
  match firstValid agent (agent.stream sid).conncheckList cid with
  | some p =>
      privConnCheckInitiate env (agent.setPair p { agent.pair p with nominated := true }) p
  | none => agent

/-- The second loop. -/
def nominateComponents (env : Env) (sid : StreamId) (agent : NiceAgent)
    (components : List ComponentId) : NiceAgent :=
  components.foldl (nominateComponent env sid) agent

/-- `priv_conn_check_tick_stream`: the agent, and whether the timer keeps going. -/
def privConnCheckTickStream (env : Env) (clock : PairClock) (agent : NiceAgent) (sid : StreamId) :
    NiceAgent × Bool :=
  let (agent, counts) :=
    tickPairs clock sid (agent.stream sid).conncheckList (agent, ⟨false, 0, 0, 0⟩)
  let keepTimerGoing := counts.keepTimerGoing || counts.inProgress ≠ 0
  if counts.nominated < (agent.stream sid).nComponents ∧ counts.waitingForNomination ≠ 0 then
    if agent.controllingMode then
      (nominateComponents env sid agent (agent.stream sid).components, true)
    else (agent, true)
  else (agent, keepTimerGoing)

/-! ### What is asked for -/

/-- A valid pair of the component. -/
structure ValidOf (agent : NiceAgent) (sid : StreamId) (cid : ComponentId) (p : PairId) : Prop where
  mem : p ∈ (agent.stream sid).conncheckList
  component : (agent.pair p).componentId = cid
  valid : (agent.pair p).valid = true

/-- The component has a valid pair, and no nominated one that is valid or being checked. -/
structure Needs (agent : NiceAgent) (sid : StreamId) (cid : ComponentId) : Prop where
  valid : ∃ p, ValidOf agent sid cid p
  fresh : ∀ p ∈ (agent.stream sid).conncheckList, (agent.pair p).componentId = cid →
    (agent.pair p).nominated = true →
      (agent.pair p).valid = false ∧ (agent.pair p).state ≠ .inProgress

/-- The component has a nominated pair that has succeeded. -/
def Done (agent : NiceAgent) (sid : StreamId) (cid : ComponentId) : Prop :=
  ∃ p ∈ (agent.stream sid).conncheckList, (agent.pair p).componentId = cid ∧
    (agent.pair p).nominated = true ∧ (agent.pair p).state = .succeeded

/-- The pair `p` is nominated in `agent'`, and its check has been sent since `agent`. -/
structure Renominated (agent agent' : NiceAgent) (p : PairId) : Prop where
  nominated : (agent'.pair p).nominated = true
  state : (agent'.pair p).state = .inProgress
  sent : ∃ msg sent, (agent'.pair p).stunMessage = some msg ∧ agent'.trace = agent.trace ++ sent ∧
    .send (agent'.pair p).sockptr (agent.candidate (agent.pair p).remoteCand).addr msg ∈ sent

/-- What the tick that leads from `agent` to `agent'` is for: a component that needs it has its
valid pair of the highest priority nominated, and one that is done keeps its valid pairs. -/
structure Reaches (agent agent' : NiceAgent) (sid : StreamId) : Prop where
  reached : ∀ cid ∈ (agent.stream sid).components, Needs agent sid cid →
    ∃ p, ValidOf agent sid cid p ∧
      (∀ q, ValidOf agent sid cid q →
        (agent.pair q).priority.toNat ≤ (agent.pair p).priority.toNat) ∧
      Renominated agent agent' p
  spared : ∀ cid ∈ (agent.stream sid).components, Done agent sid cid →
    ∀ p, ValidOf agent sid cid p → agent'.pair p = agent.pair p

/-- A check of the component that times out in the tick has a slot of its STUN agent. -/
def Frees (clock : PairClock) (agent : NiceAgent) (list : List PairId) (sid : StreamId)
    (cid : ComponentId) : Prop :=
  ∃ q ∈ list, (agent.pair q).componentId = cid ∧ (agent.pair q).state = .inProgress ∧
    clock q = some .timeout ∧ ∃ msg idx, (agent.pair q).stunMessage = some msg ∧
      (((agent.stream sid).component cid).stunAgent.sentIds.get idx).valid = true ∧
        (((agent.stream sid).component cid).stunAgent.sentIds.get idx).id = msg.id

/-- The first valid pair of the component has the highest priority, and its check can be sent
again: there are credentials and room for it, and a slot that is free or that a check of the
component gives up. -/
structure Ready (env : Env) (clock : PairClock) (agent : NiceAgent) (sid : StreamId)
    (cid : ComponentId) (p : PairId) : Prop where
  first : firstValid agent (agent.stream sid).conncheckList cid = some p
  highest : ∀ q, ValidOf agent sid cid q →
    (agent.pair q).priority.toNat ≤ (agent.pair p).priority.toNat
  buildable : Buildable env agent sid (agent.pair p)
  slot : HasSlot ((agent.stream sid).component cid).stunAgent ∨
    Frees clock agent (agent.stream sid).conncheckList sid cid

/-- How many valid pairs of the stream are nominated, of all its components. -/
def nominatedPairs (agent : NiceAgent) (sid : StreamId) : ℕ :=
  (agent.stream sid).conncheckList.countP fun p =>
    (agent.pair p).valid && (agent.pair p).nominated

/-- A nomination is due: the stream has fewer nominated valid pairs than components, and a valid
pair that is not nominated. -/
def Due (agent : NiceAgent) (sid : StreamId) : Prop :=
  nominatedPairs agent sid < (agent.stream sid).nComponents ∧
    ∃ p ∈ (agent.stream sid).conncheckList, (agent.pair p).valid = true ∧
      (agent.pair p).nominated = false

/-- When the counters over all components do what is asked for each. -/
structure Nominable (env : Env) (clock : PairClock) (agent : NiceAgent) (sid : StreamId) :
    Prop where
  due : Due agent sid → ∀ cid ∈ (agent.stream sid).components,
    ¬Done agent sid cid ∧ (Needs agent sid cid → ∃ p, Ready env clock agent sid cid p)
  idle : ¬Due agent sid → ∀ cid ∈ (agent.stream sid).components, ¬Needs agent sid cid

/-! ### What the first loop leaves -/

/-- The first loop changes pairs that are being checked, which may fail, and nothing else that the
second one reads. -/
structure Ticked (agent agent' : NiceAgent) : Prop where
  frame : Frame agent agent'
  quiet : ∀ q, (agent.pair q).state ≠ .inProgress → agent'.pair q = agent.pair q
  busy : ∀ q, (agent.pair q).state = .inProgress →
    (agent'.pair q).state = .inProgress ∨ (agent'.pair q).state = .failed
  component : ∀ q, (agent'.pair q).componentId = (agent.pair q).componentId
  nominated : ∀ q, (agent'.pair q).nominated = (agent.pair q).nominated

section Ticked

variable {clock : PairClock} {agent agent' : NiceAgent} {sid : StreamId} {p q : PairId}

lemma Ticked.refl : Ticked agent agent :=
  ⟨.refl, fun _ _ => rfl, fun _ h => .inl h, fun _ => rfl, fun _ => rfl⟩

lemma Ticked.trans {a b c : NiceAgent} (h : Ticked a b) (h' : Ticked b c) : Ticked a c := by
  refine ⟨h.frame.trans h'.frame, fun q hq => ?_, fun q hq => ?_,
    fun q => (h'.component q).trans (h.component q),
    fun q => (h'.nominated q).trans (h.nominated q)⟩
  · have hb := h.quiet q hq
    rw [h'.quiet q (by rwa [hb]), hb]
  · rcases h.busy q hq with hb | hb
    · exact h'.busy q hb
    · right
      rw [h'.quiet q (by rw [hb]; decide), hb]

lemma Ticked.valid (h : Ticked agent agent') (q : PairId) :
    (agent'.pair q).valid = (agent.pair q).valid := by
  by_cases hq : (agent.pair q).state = .inProgress
  · rw [CandidateCheckPair.valid, CandidateCheckPair.valid, hq]
    rcases h.busy q hq with hb | hb
    · rw [hb]
    · rw [hb]
      rfl
  · rw [h.quiet q hq]

/-- A store of a pair that is being checked. -/
lemma Ticked.setPair {pair : CandidateCheckPair} (hp : (agent.pair p).state = .inProgress)
    (hs : pair.streamId = (agent.pair p).streamId)
    (hstate : pair.state = .failed) (hc : pair.componentId = (agent.pair p).componentId)
    (hn : pair.nominated = (agent.pair p).nominated) : Ticked agent (agent.setPair p pair) := by
  refine ⟨.setPair hs, fun q hq => setPair_pair_of_ne fun h => hq (h ▸ hp), fun q hq => ?_,
    fun q => ?_, fun q => ?_⟩
  · by_cases h : q = p
    · subst h
      exact .inr (by rw [setPair_pair_self, hstate])
    · exact .inl (by rw [setPair_pair_of_ne h, hq])
  · by_cases h : q = p
    · subst h
      rw [setPair_pair_self, hc]
    · rw [setPair_pair_of_ne h]
  · by_cases h : q = p
    · subst h
      rw [setPair_pair_self, hn]
    · rw [setPair_pair_of_ne h]

/-- A step that leaves the pairs as they are. -/
lemma Ticked.of_frame (h : Frame agent agent') (hpair : agent'.pair = agent.pair) :
    Ticked agent agent' :=
  ⟨h, fun q _ => congrFun hpair q, fun q hq => .inl (by rw [hpair, hq]), fun q => by rw [hpair],
    fun q => by rw [hpair]⟩

lemma forgetCheck_ticked (cid : ComponentId) (id : StunTransactionId) :
    Ticked agent (forgetCheck agent sid cid id) :=
  .of_frame (.setStunAgent (stunAgentForgetTransaction_config _ _)) rfl

/-- One round of the first loop. -/
lemma tickPair_ticked (clock : PairClock) (sid : StreamId) (agent : NiceAgent) (p : PairId) :
    Ticked agent (tickPair clock sid agent p).1 := by
  rw [tickPair]
  by_cases hp : (agent.pair p).state = .inProgress
  · rw [if_pos hp]
    split
    · exact .setPair hp rfl rfl rfl rfl
    · exact .refl
    next msg hmsg hclock =>
      rw [candidateCheckPairFail, hmsg]
      exact (forgetCheck_ticked _ _).trans (.setPair hp rfl rfl rfl rfl)
    next msg hmsg hclock =>
      refine .of_frame ?_ rfl
      exact { @Frame.refl agent with trace := ⟨_, rfl⟩ }
    · exact .refl
  · rw [if_neg hp]
    exact .refl

/-- **The first loop**: the pairs that are not being checked are left alone, and the counters are
over what they were before it. -/
lemma tickPairs_ticked (list : List PairId) :
    ∀ (agent : NiceAgent) (counts : TickCounts),
      Ticked agent (tickPairs clock sid list (agent, counts)).1 ∧
      (tickPairs clock sid list (agent, counts)).2.nominated = counts.nominated +
        list.countP (fun p => (agent.pair p).valid && (agent.pair p).nominated) ∧
      (tickPairs clock sid list (agent, counts)).2.waitingForNomination =
        counts.waitingForNomination +
          list.countP fun p => (agent.pair p).valid && !(agent.pair p).nominated := by
  induction list with
  | nil => exact fun agent counts => ⟨.refl, rfl, rfl⟩
  | cons p list ih =>
      intro agent counts
      have hstep := tickPair_ticked clock sid agent p
      set counts' := counts.count (tickPair clock sid agent p).2
        ((tickPair clock sid agent p).1.pair p) with hcounts
      have hloop : tickPairs clock sid (p :: list) (agent, counts) =
          tickPairs clock sid list ((tickPair clock sid agent p).1, counts') := rfl
      obtain ⟨hrest, hnominated, hwaiting⟩ := ih (tickPair clock sid agent p).1 counts'
      simp only [hstep.valid, hstep.nominated] at hnominated hwaiting
      have hn : counts'.nominated = counts.nominated +
          if (agent.pair p).valid && (agent.pair p).nominated then 1 else 0 := by
        rw [hcounts, TickCounts.count, hstep.valid, hstep.nominated]
      have hw : counts'.waitingForNomination = counts.waitingForNomination +
          if (agent.pair p).valid && !(agent.pair p).nominated then 1 else 0 := by
        rw [hcounts, TickCounts.count, hstep.valid, hstep.nominated]
      rw [hloop]
      refine ⟨hstep.trans hrest, ?_, ?_⟩
      · rw [hnominated, hn, List.countP_cons]
        omega
      · rw [hwaiting, hw, List.countP_cons]
        omega

end Ticked

/-! ### The slots that time out -/

section Slots

variable {clock : PairClock} {agent : NiceAgent} {sid : StreamId} {cid : ComponentId}
  {stun : StunAgent} {id : StunTransactionId}

lemma hasSlot_iff : HasSlot stun ↔ ∃ idx, (stun.sentIds.get idx).valid = false := by
  rw [HasSlot, freeSentId, if_pos rfl]
  constructor
  · intro h
    obtain ⟨idx, hidx⟩ := Option.isSome_iff_exists.mp h
    exact ⟨idx, by simpa using findFinIdx_some hidx⟩
  · rintro ⟨idx, hidx⟩
    cases hfind : stun.sentIds.findFinIdx? fun s => !s.valid with
    | some idx => rfl
    | none =>
        have hall := Vector.findFinIdx?_eq_none_iff.mp hfind (stun.sentIds.get idx)
          (Vector.getElem_mem idx.isLt)
        simp [hidx] at hall

/-- A transaction that is forgotten frees its slot; otherwise nothing changes. -/
lemma forgetTransaction_cases (stun : StunAgent) (id : StunTransactionId) :
    ((∃ idx, (stun.sentIds.get idx).valid = true ∧ (stun.sentIds.get idx).id = id) ∧
        HasSlot (stunAgentForgetTransaction stun id).1) ∨
      ((¬∃ idx, (stun.sentIds.get idx).valid = true ∧ (stun.sentIds.get idx).id = id) ∧
        (stunAgentForgetTransaction stun id).1 = stun) := by
  rw [stunAgentForgetTransaction]
  cases hfind : stun.sentIds.findFinIdx? fun s => s.valid && s.id = id with
  | some idx =>
      have hidx := findFinIdx_some hfind
      rw [Bool.and_eq_true, decide_eq_true_eq] at hidx
      refine .inl ⟨⟨idx, hidx⟩, hasSlot_iff.mpr ⟨idx, ?_⟩⟩
      change ((stun.sentIds.set idx _)[idx.1]).valid = false
      rw [Vector.getElem_set_self]
  | none =>
      refine .inr ⟨?_, rfl⟩
      rintro ⟨idx, hv, hid⟩
      have hall := Vector.findFinIdx?_eq_none_iff.mp hfind (stun.sentIds.get idx)
        (Vector.getElem_mem idx.isLt)
      simp [hv, hid] at hall

/-- A round of the first loop forgets a transaction of the component of a check that times out, and
of no other. -/
lemma tickPair_component (p : PairId) :
    ((tickPair clock sid agent p).1.stream sid).component cid =
      if (agent.pair p).state = .inProgress ∧ clock p = some .timeout ∧
          (agent.pair p).componentId = cid then
        match (agent.pair p).stunMessage with
        | some msg =>
            { (agent.stream sid).component cid with
              stunAgent := (stunAgentForgetTransaction
                ((agent.stream sid).component cid).stunAgent msg.id).1 }
        | none => (agent.stream sid).component cid
      else (agent.stream sid).component cid := by
  rw [tickPair]
  by_cases hp : (agent.pair p).state = .inProgress
  swap
  · rw [if_neg hp, if_neg fun h => hp h.1]
  rw [if_pos hp]
  split
  next hmsg =>
    rw [hmsg]
    exact (ite_self _).symm
  next hclock => rw [if_neg (by simp [hclock])]
  next msg hmsg hclock =>
    rw [candidateCheckPairFail, hmsg]
    dsimp only
    rw [setPair_stream, forgetCheck]
    by_cases hc : (agent.pair p).componentId = cid
    · rw [if_pos ⟨hp, hclock, hc⟩, hc]
      exact setComponent_component_self
    · rw [if_neg fun h => hc h.2.2]
      exact setComponent_component_of_ne fun h => hc (Prod.mk.inj h).2.symm
  next hclock => rw [if_neg (by simp [hclock])]
  next hclock => rw [if_neg (by simp [hclock])]

/-- A round changes no other pair. -/
lemma tickPair_pair_of_ne {p q : PairId} (h : q ≠ p) :
    (tickPair clock sid agent p).1.pair q = agent.pair q := by
  rw [tickPair]
  split
  · split
    · exact setPairState_pair_of_ne h
    · rfl
    next msg hmsg hclock =>
      rw [candidateCheckPairFail, hmsg]
      exact setPair_pair_of_ne h
    · rfl
    · rfl
  · rfl

/-- A check that times out has failed. -/
lemma tickPair_timeout {p : PairId} (h : clock p = some .timeout) :
    ((tickPair clock sid agent p).1.pair p).state ≠ .inProgress := by
  rw [tickPair, h]
  split
  · split
    · rw [setPairState_state_self]
      decide
    next hclock => cases hclock
    next msg hmsg hclock =>
      rw [candidateCheckPairFail, setPair_pair_self]
      intro h
      cases h
    next hclock => cases hclock
    next hclock => cases hclock
  next hp => exact hp

/-- A round that frees no slot leaves it to the rest of the list. -/
lemma frees_cons {p : PairId} {list : List PairId}
    (hcomponent : ((tickPair clock sid agent p).1.stream sid).component cid =
      (agent.stream sid).component cid) (hp : ¬Frees clock agent [p] sid cid) :
    Frees clock (tickPair clock sid agent p).1 list sid cid ↔
      Frees clock agent (p :: list) sid cid := by
  constructor
  · rintro ⟨q, hq, hc, hstate, hclock, msg, idx, hmsg, hv, hid⟩
    have hne : q ≠ p := fun h => tickPair_timeout (h ▸ hclock) (h ▸ hstate)
    rw [tickPair_pair_of_ne hne] at hc hstate hmsg
    rw [hcomponent] at hv hid
    exact ⟨q, List.mem_cons_of_mem _ hq, hc, hstate, hclock, msg, idx, hmsg, hv, hid⟩
  · rintro ⟨q, hq, hfree⟩
    have hne : q ≠ p := by
      rintro rfl
      exact hp ⟨q, List.mem_singleton_self q, hfree⟩
    obtain ⟨hc, hstate, hclock, msg, idx, hmsg, hv, hid⟩ := hfree
    refine ⟨q, (List.mem_cons.mp hq).resolve_left hne, ?_, ?_, hclock, msg, idx, ?_, ?_, ?_⟩
    · rw [tickPair_pair_of_ne hne, hc]
    · rw [tickPair_pair_of_ne hne, hstate]
    · rw [tickPair_pair_of_ne hne, hmsg]
    · rw [hcomponent, hv]
    · rw [hcomponent, hid]

/-- **A slot after the first loop**: there was one before it, or a check of the component has timed
out and given up its own. -/
lemma tickPairs_hasSlot (list : List PairId) :
    ∀ (agent : NiceAgent) (counts : TickCounts),
      HasSlot (((tickPairs clock sid list (agent, counts)).1.stream sid).component cid).stunAgent ↔
        HasSlot ((agent.stream sid).component cid).stunAgent ∨
          Frees clock agent list sid cid := by
  induction list with
  | nil => exact fun agent counts => ⟨.inl, fun h => h.elim id fun ⟨q, hq, _⟩ => by simp at hq⟩
  | cons p list ih =>
      intro agent counts
      have hcomponent := @tickPair_component clock agent sid cid p
      refine (ih (tickPair clock sid agent p).1 _).trans ?_
      by_cases hp : (agent.pair p).state = .inProgress ∧ clock p = some .timeout ∧
          (agent.pair p).componentId = cid
      · rw [if_pos hp] at hcomponent
        cases hmsg : (agent.pair p).stunMessage with
        | none =>
            rw [hmsg] at hcomponent
            rw [frees_cons hcomponent, hcomponent]
            rintro ⟨q, hq, -, -, -, msg, -, hsome, -⟩
            obtain rfl := List.mem_singleton.mp hq
            rw [hmsg] at hsome
            cases hsome
        | some msg =>
            rw [hmsg] at hcomponent
            rcases forgetTransaction_cases ((agent.stream sid).component cid).stunAgent msg.id with
              ⟨⟨idx, hv, hid⟩, hslot⟩ | ⟨hnone, hsame⟩
            · refine iff_of_true (.inl (by rw [hcomponent]; exact hslot)) (.inr ?_)
              exact ⟨p, List.mem_cons_self, hp.2.2, hp.1, hp.2.1, msg, idx, hmsg, hv, hid⟩
            · dsimp only at hcomponent
              rw [hsame] at hcomponent
              rw [frees_cons hcomponent, hcomponent]
              rintro ⟨q, hq, -, -, -, msg', idx, hmsg', hv, hid⟩
              obtain rfl := List.mem_singleton.mp hq
              obtain rfl := Option.some.inj (hmsg'.symm.trans hmsg)
              exact hnone ⟨idx, hv, hid⟩
      · rw [if_neg hp] at hcomponent
        rw [frees_cons hcomponent, hcomponent]
        rintro ⟨q, hq, hc, hstate, hclock, -⟩
        obtain rfl := List.mem_singleton.mp hq
        exact hp ⟨hstate, hclock, hc⟩

end Slots

/-! ### What the second loop leaves -/

section Nominate

variable {env : Env} {agent agent' a : NiceAgent} {sid : StreamId} {cid : ComponentId}
  {p q : PairId} {list : List PairId}

lemma firstValid_spec (h : firstValid agent list cid = some p) :
    p ∈ list ∧ (agent.pair p).componentId = cid ∧ (agent.pair p).valid = true := by
  have hp := List.find?_some h
  rw [Bool.and_eq_true, decide_eq_true_eq] at hp
  exact ⟨List.mem_of_find?_eq_some h, hp⟩

/-- The first valid pair depends on the components and the validity of the pairs. -/
lemma firstValid_congr (h : ∀ q ∈ list, (agent'.pair q).componentId = cid ∧
      (agent'.pair q).valid = true ↔ (agent.pair q).componentId = cid ∧
        (agent.pair q).valid = true) :
    firstValid agent' list cid = firstValid agent list cid := by
  unfold firstValid
  induction list with
  | nil => rfl
  | cons p list ih =>
      have hp := h p List.mem_cons_self
      have hsame : ((agent'.pair p).componentId = cid && (agent'.pair p).valid) =
          ((agent.pair p).componentId = cid && (agent.pair p).valid) := by
        rw [Bool.eq_iff_iff]
        simpa using hp
      rw [List.find?_cons, List.find?_cons, hsame, ih fun q hq => h q (List.mem_cons_of_mem _ hq)]

lemma exists_firstValid (h : ValidOf agent sid cid p) :
    ∃ p₀, firstValid agent (agent.stream sid).conncheckList cid = some p₀ := by
  refine Option.isSome_iff_exists.mp (List.find?_isSome.mpr ⟨p, h.mem, ?_⟩)
  simp [h.component, h.valid]

/-- The agent whose `conn_check_send` is called for the nominated pair. -/
def nominating (agent : NiceAgent) (p : PairId) : NiceAgent :=
  (agent.setPair p { agent.pair p with nominated := true }).setPairState p .inProgress

lemma nominating_pair_self :
    (nominating agent p).pair p =
      { agent.pair p with nominated := true, state := .inProgress } := by
  rw [nominating, NiceAgent.setPairState, setPair_pair_self, setPair_pair_self]

lemma nominating_frame : Frame agent (nominating agent p) :=
  (@Frame.setPair agent p { agent.pair p with nominated := true } rfl).trans .setPairState

lemma nominateComponent_of_some
    (h : firstValid agent (agent.stream sid).conncheckList cid = some p) :
    nominateComponent env sid agent cid = (connCheckSend env (nominating agent p) p).1 := by
  rw [nominateComponent, h]
  rfl

lemma nominateComponent_frame (env : Env) (sid : StreamId) (agent : NiceAgent)
    (cid : ComponentId) : Frame agent (nominateComponent env sid agent cid) := by
  cases h : firstValid agent (agent.stream sid).conncheckList cid with
  | none =>
      rw [nominateComponent, h]
      exact .refl
  | some p =>
      rw [nominateComponent_of_some h]
      exact nominating_frame.trans (connCheckSend_frame env _ p)

lemma nominateComponent_pair_of_ne
    (h : firstValid agent (agent.stream sid).conncheckList cid ≠ some q) :
    (nominateComponent env sid agent cid).pair q = agent.pair q := by
  cases hfirst : firstValid agent (agent.stream sid).conncheckList cid with
  | none => rw [nominateComponent, hfirst]
  | some p =>
      have hne : q ≠ p := fun hqp => h (hqp ▸ hfirst)
      rw [nominateComponent_of_some hfirst, connCheckSend_pair_of_ne hne, nominating,
        setPairState_pair_of_ne hne, setPair_pair_of_ne hne]

lemma nominateComponent_same
    (h : firstValid agent (agent.stream sid).conncheckList cid = some p) :
    ((nominateComponent env sid agent cid).pair p).state = .inProgress ∧
      ((nominateComponent env sid agent cid).pair p).componentId = cid := by
  obtain ⟨hstate, hc⟩ := connCheckSend_same env (nominating agent p) p
  rw [nominating_pair_self] at hstate hc
  rw [nominateComponent_of_some h]
  exact ⟨hstate, hc.trans (firstValid_spec h).2.1⟩

/-- The other components keep their first valid pair, and their transactions. -/
lemma nominateComponent_other {c : ComponentId} (hne : c ≠ cid) :
    firstValid (nominateComponent env sid agent cid) list c = firstValid agent list c ∧
      ((nominateComponent env sid agent cid).stream sid).component c =
        (agent.stream sid).component c := by
  cases hfirst : firstValid agent (agent.stream sid).conncheckList cid with
  | none =>
      rw [nominateComponent, hfirst]
      exact ⟨rfl, rfl⟩
  | some p =>
      obtain ⟨-, hcomponent, -⟩ := firstValid_spec hfirst
      refine ⟨firstValid_congr fun q _ => ?_, ?_⟩
      · by_cases hqp : q = p
        · subst hqp
          obtain ⟨-, hc⟩ := @nominateComponent_same env agent sid cid q hfirst
          rw [hc, hcomponent]
          exact iff_of_false (fun h => hne h.1.symm) fun h => hne h.1.symm
        · rw [nominateComponent_pair_of_ne fun h =>
            hqp (Option.some.inj (h.symm.trans hfirst))]
      · rw [nominateComponent_of_some hfirst]
        refine (connCheckSend_component_of_ne fun h => hne ?_).trans rfl
        rw [nominating_pair_self] at h
        exact (Prod.mk.inj h).2.trans hcomponent

/-- What the second loop does for the component `cid`: it comes to it in some agent `a`. -/
structure Visited (env : Env) (sid : StreamId) (agent agent' : NiceAgent) (cid : ComponentId)
    (p : PairId) (a : NiceAgent) : Prop where
  frame : Frame agent a
  first : firstValid a (a.stream sid).conncheckList cid = some p
  pair : a.pair p = agent.pair p
  component : (a.stream sid).component cid = (agent.stream sid).component cid
  made : agent'.pair p = (nominateComponent env sid a cid).pair p
  rest : ∃ sent, agent'.trace = (nominateComponent env sid a cid).trace ++ sent

/-- **The second loop**: the first valid pair of each component is nominated and sent, and no other
pair is touched. -/
lemma nominateComponents_visited (env : Env) (sid : StreamId) (components : List ComponentId) :
    ∀ agent : NiceAgent, components.Nodup →
      Frame agent (nominateComponents env sid agent components) ∧
      (∀ q, (∀ c ∈ components,
          firstValid agent (agent.stream sid).conncheckList c ≠ some q) →
        (nominateComponents env sid agent components).pair q = agent.pair q) ∧
      ∀ c ∈ components, ∀ p, firstValid agent (agent.stream sid).conncheckList c = some p →
        ∃ a, Visited env sid agent (nominateComponents env sid agent components) c p a := by
  induction components with
  | nil => exact fun agent _ => ⟨.refl, fun _ _ => rfl, fun c hc => by simp at hc⟩
  | cons c components ih =>
      intro agent hnodup
      obtain ⟨hc, hrest⟩ := List.nodup_cons.mp hnodup
      have hframe := nominateComponent_frame env sid agent c
      obtain ⟨hframe', hsame, hvisited⟩ := ih (nominateComponent env sid agent c) hrest
      have hlist := hframe.list sid
      have hother {c' : ComponentId} (hc' : c' ∈ components) :=
        @nominateComponent_other env agent sid c (agent.stream sid).conncheckList c'
          fun h => hc (h ▸ hc')
      simp only [hlist] at hsame hvisited
      change Frame agent (nominateComponents env sid (nominateComponent env sid agent c) components)
        ∧ (∀ q, _ → (nominateComponents env sid (nominateComponent env sid agent c)
          components).pair q = _) ∧ ∀ c' ∈ c :: components, ∀ p, _ → ∃ a, Visited env sid agent
            (nominateComponents env sid (nominateComponent env sid agent c) components) c' p a
      refine ⟨hframe.trans hframe', fun q hq => ?_, fun c' hc' p hp => ?_⟩
      · rw [hsame q fun c' hc' => (hother hc').1 ▸ hq c' (List.mem_cons_of_mem _ hc')]
        exact nominateComponent_pair_of_ne (hq c List.mem_cons_self)
      · rcases List.mem_cons.mp hc' with rfl | hc'
        · refine ⟨agent, .refl, hp, rfl, rfl, hsame p fun c hcin hfirst => ?_, hframe'.trace⟩
          rw [(hother hcin).1] at hfirst
          have hcc := (firstValid_spec hfirst).2.1.symm.trans (firstValid_spec hp).2.1
          exact hc (hcc ▸ hcin)
        · obtain ⟨a, ha⟩ := hvisited c' hc' p ((hother hc').1.trans hp)
          have hpair : (nominateComponent env sid agent c).pair p = agent.pair p := by
            refine nominateComponent_pair_of_ne fun hfirst => hc ?_
            have hcc := (firstValid_spec hfirst).2.1.symm.trans (firstValid_spec hp).2.1
            exact hcc ▸ hc'
          exact ⟨a, hframe.trans ha.frame, ha.first, ha.pair.trans hpair,
            ha.component.trans (hother hc').2, ha.made, ha.rest⟩

end Nominate

/-! ### The condition -/

section Tick

variable {env : Env} {clock : PairClock} {agent agent' a : NiceAgent} {sid : StreamId}
  {cid : ComponentId} {p : PairId}

/-- The agent after the first loop. -/
def ticked (clock : PairClock) (agent : NiceAgent) (sid : StreamId) : NiceAgent :=
  (tickPairs clock sid (agent.stream sid).conncheckList (agent, ⟨false, 0, 0, 0⟩)).1

lemma ticked_ticked : Ticked agent (ticked clock agent sid) :=
  (tickPairs_ticked (agent.stream sid).conncheckList agent ⟨false, 0, 0, 0⟩).1

lemma Ticked.firstValid (h : Ticked agent agent') (list : List PairId) :
    firstValid agent' list cid = LibNice.Ice.firstValid agent list cid :=
  firstValid_congr fun q _ => by rw [h.component, h.valid]

/-- The counters say whether a nomination is due. -/
lemma counts_due :
    (tickPairs clock sid (agent.stream sid).conncheckList (agent, ⟨false, 0, 0, 0⟩)).2.nominated <
        ((ticked clock agent sid).stream sid).nComponents ∧
      (tickPairs clock sid (agent.stream sid).conncheckList
        (agent, ⟨false, 0, 0, 0⟩)).2.waitingForNomination ≠ 0 ↔ Due agent sid := by
  obtain ⟨hticked, hnominated, hwaiting⟩ :=
    @tickPairs_ticked clock sid (agent.stream sid).conncheckList agent ⟨false, 0, 0, 0⟩
  rw [hnominated, hwaiting, Nat.zero_add, Nat.zero_add, ← Nat.pos_iff_ne_zero,
    List.countP_pos_iff, ticked, hticked.frame.nComponents, Due, nominatedPairs]
  simp only [Bool.and_eq_true, Bool.not_eq_true']

/-- The tick of a controlling agent. -/
lemma tickStream_of_due (hcontrol : agent.controllingMode = true) (h : Due agent sid) :
    (privConnCheckTickStream env clock agent sid).1 =
      nominateComponents env sid (ticked clock agent sid) (agent.stream sid).components := by
  have hframe := (@ticked_ticked clock agent sid).frame
  have hcounts := (@counts_due clock agent sid).mpr h
  rw [ticked] at hframe hcounts
  rw [privConnCheckTickStream]
  dsimp only
  rw [if_pos hcounts, if_pos (hframe.controllingMode.trans hcontrol), hframe.components, ticked]

lemma tickStream_of_not_due (h : ¬Due agent sid) :
    (privConnCheckTickStream env clock agent sid).1 = ticked clock agent sid := by
  have hcounts := mt (@counts_due clock agent sid).mp h
  rw [ticked] at hcounts
  rw [privConnCheckTickStream]
  dsimp only
  rw [if_neg hcounts, ticked]

/-- A valid pair is not being checked. -/
lemma ValidOf.quiet (h : ValidOf agent sid cid p) : (agent.pair p).state ≠ .inProgress := by
  intro hstate
  have hvalid := h.valid
  rw [CandidateCheckPair.valid, hstate] at hvalid
  cases hvalid

/-- A valid pair that the tick comes to is sent exactly when its check can be built, and there is
a slot for it after the first loop. -/
lemma Visited.renominated_iff (howned : ListsOwned agent) (hsid : sid ∈ agent.streams)
    (hcid : cid ∈ (agent.stream sid).components) (hp : ValidOf agent sid cid p)
    (h : Visited env sid (ticked clock agent sid) agent' cid p a) :
    Renominated agent agent' p ↔ Buildable env agent sid (agent.pair p) ∧
      (HasSlot ((agent.stream sid).component cid).stunAgent ∨
        Frees clock agent (agent.stream sid).conncheckList sid cid) := by
  have hticked := @ticked_ticked clock agent sid
  have hpair : a.pair p = agent.pair p := h.pair.trans (hticked.quiet p hp.quiet)
  have hself := @nominating_pair_self a p
  rw [hpair] at hself
  have hframe : Frame agent (nominating a p) :=
    hticked.frame.trans (h.frame.trans nominating_frame)
  have hslot : HasSlot
      (((nominating a p).stream sid).component ((nominating a p).pair p).componentId).stunAgent ↔
        HasSlot ((agent.stream sid).component cid).stunAgent ∨
          Frees clock agent (agent.stream sid).conncheckList sid cid := by
    rw [hself]
    change HasSlot ((a.stream sid).component (agent.pair p).componentId).stunAgent ↔ _
    rw [hp.component, h.component]
    exact tickPairs_hasSlot _ _ _
  have hbuild : Buildable env (nominating a p) sid ((nominating a p).pair p) ↔
      Buildable env agent sid (agent.pair p) := by
    rw [hself]
    exact hframe.buildable rfl rfl rfl
  have hfind : agentFindComponent (nominating a p) ((nominating a p).pair p).streamId
      ((nominating a p).pair p).componentId = some sid := by
    rw [hself]
    change agentFindComponent _ (agent.pair p).streamId (agent.pair p).componentId = _
    rw [howned.owner sid hsid p hp.mem, hp.component]
    exact agentFindComponent_of_mem (hframe.streams ▸ hsid) (hframe.components ▸ hcid)
  have hmade : agent'.pair p = (connCheckSend env (nominating a p) p).1.pair p := by
    rw [h.made, nominateComponent_of_some h.first]
  constructor
  · intro hre
    by_cases hsend : CanSend env (nominating a p) sid ((nominating a p).pair p)
    · exact ⟨hbuild.mp hsend.buildable, hslot.mp hsend.slot⟩
    · obtain ⟨msg, -, hmsg, -⟩ := hre.sent
      rw [hmade, connCheckSend_unsent hfind hsend] at hmsg
      cases hmsg
  · rintro ⟨hb, hs⟩
    obtain ⟨msg, sock, hsent, htrace⟩ := connCheckSend_sent hfind
      ⟨hbuild.mpr hb, hslot.mpr hs⟩
    rw [hsent] at hmade
    obtain ⟨before, hbefore⟩ := hframe.trace
    obtain ⟨after, hafter⟩ := h.rest
    rw [nominateComponent_of_some h.first, htrace, hbefore] at hafter
    rw [NiceAgent.checkPair, hself] at hmade
    refine ⟨?_, ?_, msg, _, ?_, hafter.trans (List.append_assoc _ _ _ |>.trans
      (List.append_assoc _ _ _)), ?_⟩
    · rw [hmade]
      exact Bool.or_true _
    · rw [hmade]
    · rw [hmade]
    · rw [hmade, hself, hframe.candidate]
      simp

/-- **Nomination.**  After a tick of a controlling agent every component that needs it has its best
pair nominated and sent, and no component that is done is touched, exactly when the counters over
all components say so and every check can be sent. -/
theorem tick_nominates_iff (env : Env) (clock : PairClock) (agent : NiceAgent) (sid : StreamId)
    (hcontrol : agent.controllingMode = true) (howned : ListsOwned agent)
    (hsid : sid ∈ agent.streams) :
    Reaches agent (privConnCheckTickStream env clock agent sid).1 sid ↔
      Nominable env clock agent sid := by
  have hticked := @ticked_ticked clock agent sid
  have hvisited := nominateComponents_visited env sid (agent.stream sid).components
    (ticked clock agent sid) List.nodup_range'
  by_cases hdue : Due agent sid
  · rw [tickStream_of_due hcontrol hdue]
    obtain ⟨-, hsame, hvisit⟩ := hvisited
    simp only [hticked.frame.list, hticked.firstValid] at hsame hvisit
    constructor
    · intro h
      refine ⟨fun _ cid hcid => ⟨fun hdone => ?_, fun hneeds => ?_⟩, fun hnot => absurd hdue hnot⟩
      · -- the first valid pair of a component that is done is restarted
        obtain ⟨q, hq, hc, -, hstate⟩ := id hdone
        have hq : ValidOf agent sid cid q := ⟨hq, hc, by rw [CandidateCheckPair.valid, hstate]; rfl⟩
        obtain ⟨p, hfirst⟩ := exists_firstValid hq
        obtain ⟨hmem, hpc, hpv⟩ := firstValid_spec hfirst
        have hp : ValidOf agent sid cid p := ⟨hmem, hpc, hpv⟩
        obtain ⟨a, ha⟩ := hvisit cid hcid p hfirst
        have hspared := h.spared cid hcid hdone p hp
        rw [ha.made] at hspared
        exact hp.quiet (hspared ▸ (nominateComponent_same ha.first).1)
      · -- the pair that was sent again is the first valid one
        obtain ⟨p, hp, hhigh, hre⟩ := h.reached cid hcid hneeds
        obtain ⟨p₀, hfirst⟩ := exists_firstValid hp
        have hpp : p₀ = p := by
          by_contra hne
          have hleft := hsame p fun c _ hc => by
            have hcc := (firstValid_spec hc).2.1.symm.trans hp.component
            subst hcc
            exact hne (Option.some.inj (hfirst.symm.trans hc))
          rw [hticked.quiet p hp.quiet] at hleft
          exact hp.quiet (hleft ▸ hre.state)
        subst hpp
        obtain ⟨a, ha⟩ := hvisit cid hcid p₀ hfirst
        obtain ⟨hb, hs⟩ := (ha.renominated_iff howned hsid hcid hp).mp hre
        exact ⟨p₀, hfirst, hhigh, hb, hs⟩
    · intro h
      refine ⟨fun cid hcid hneeds => ?_, fun cid hcid hdone => absurd hdone (h.due hdue cid hcid).1⟩
      obtain ⟨p, hready⟩ := (h.due hdue cid hcid).2 hneeds
      obtain ⟨hmem, hpc, hpv⟩ := firstValid_spec hready.first
      have hp : ValidOf agent sid cid p := ⟨hmem, hpc, hpv⟩
      obtain ⟨a, ha⟩ := hvisit cid hcid p hready.first
      exact ⟨p, hp, hready.highest,
        (ha.renominated_iff howned hsid hcid hp).mpr ⟨hready.buildable, hready.slot⟩⟩
  · rw [tickStream_of_not_due hdue]
    constructor
    · refine fun h => ⟨fun hd => absurd hd hdue, fun _ cid hcid hneeds => ?_⟩
      obtain ⟨p, hp, -, hre⟩ := h.reached cid hcid hneeds
      exact hp.quiet (hticked.quiet p hp.quiet ▸ hre.state)
    · exact fun h => ⟨fun cid hcid hneeds => absurd hneeds (h.idle hdue cid hcid),
        fun cid _ _ p hp => hticked.quiet p hp.quiet⟩

end Tick

/-- A controlling agent with one stream, of `n` components: the pair `p` is a successful one of the
component `p + 1`, and those of the other components than the first are nominated. -/
def nominationAgent (n : ℕ) (list : List PairId) : NiceAgent :=
  { twoStreamAgent [] with
    streams := [1]
    stream := fun _ =>
      { readyStream list with
        nComponents := n, localUfrag := [97], remoteUfrag := [98], remotePassword := [99] }
    pair := fun p =>
      { blankPair 1 .succeeded 30 with componentId := p + 1, nominated := decide (p ≠ 0) } }

lemma nominationAgent_owned {n : ℕ} {list : List PairId} :
    ListsOwned (nominationAgent n list) :=
  ⟨List.nodup_singleton 1, fun _ hsid _ _ => (List.mem_singleton.mp hsid).symm⟩

/-- The only pair of a stream of one component is nominated. -/
theorem tick_nominates_sample :
    Reaches (nominationAgent 1 [0])
      (privConnCheckTickStream plainEnv (fun _ => none) (nominationAgent 1 [0]) 1).1 1 := by
  have hdue : Due (nominationAgent 1 [0]) 1 := ⟨by decide, 0, by decide, rfl, rfl⟩
  refine (tick_nominates_iff plainEnv (fun _ => none) (nominationAgent 1 [0]) 1 rfl
    nominationAgent_owned (by decide)).mpr ⟨fun _ cid hcid => ?_, fun h => absurd hdue h⟩
  obtain rfl : cid = 1 := List.mem_singleton.mp hcid
  refine ⟨fun hdone => ?_, fun _ => ⟨0, rfl, fun q hq => le_of_eq ?_, ?_, ?_⟩⟩
  · obtain ⟨p, hp, -, hnominated, -⟩ := hdone
    obtain rfl : p = 0 := List.mem_singleton.mp hp
    cases hnominated
  · obtain rfl : q = 0 := List.mem_singleton.mp hq.mem
    rfl
  · constructor
    · decide +kernel
    · decide +kernel
  · left
    rw [HasSlot]
    decide +kernel

/-- **A component is nominated again**: the second component has its nominated pair, and its check
is restarted because the first one has none. -/
theorem nomination_repeated :
    ∃ env clock agent sid, agent.controllingMode = true ∧ ListsOwned agent ∧ sid ∈ agent.streams ∧
      ¬Reaches agent (privConnCheckTickStream env clock agent sid).1 sid := by
  refine ⟨plainEnv, fun _ => none, nominationAgent 2 [1, 0], 1, rfl, nominationAgent_owned,
    by decide, fun h => ?_⟩
  have hdone : Done (nominationAgent 2 [1, 0]) 1 2 := ⟨1, by decide, rfl, rfl, rfl⟩
  have hspared := h.spared 2 (by decide) hdone 1 ⟨by decide, rfl, rfl⟩
  have hrestarted : ((privConnCheckTickStream plainEnv (fun _ => none)
      (nominationAgent 2 [1, 0]) 1).1.pair 1).state = .inProgress := by
    decide +kernel
  rw [hspared] at hrestarted
  cases hrestarted

end LibNice.Ice
