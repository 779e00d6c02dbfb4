import LibNice.Ice.CheckResponse
import LibNice.Ice.RefusedCheck

/-!
The nominated valid pairs of the components of an agent, and their selected pairs.

* `Component.selection`: what matters of a selected pair.
* `Quiet`: no pair becomes a nominated valid one, and the selected pairs stay, while the lists are
  what they were; `Leaves`: the same where pairs are added.
* `Reselected`, `updateSelectedPair_reselected`: what `priv_update_selected_pair` does.
* `updateForReady_quiet`, `updateForReady_moved`: what `priv_update_check_list_state_for_ready`
  does, and what holds when it moves a component to READY.
-/

namespace LibNice.Ice

open LibNice.Foundation LibNice.Stun

/-! ### Selections -/

/-- The candidates and the priority of the selected pair. -/
def Component.selection (component : Component) :
    Option CandidateId × Option CandidateId × UInt64 :=
  (component.selectedPair.localCand, component.selectedPair.remoteCand,
    component.selectedPair.priority)

/-- The selected pair of a component is set. -/
def Component.Selected (component : Component) : Prop :=
  component.selectedPair.localCand.isSome = true ∧ component.selectedPair.remoteCand.isSome = true

/-- No pair becomes a nominated valid one, and the selected pairs and the lists stay. -/
structure Quiet (a b : NiceAgent) : Prop where
  frame : Frame a b
  pair : ∀ q c, nominatedOf b c q = true →
    nominatedOf a c q = true ∧ (b.pair q).priority = (a.pair q).priority
  selection : ∀ s c, ((b.stream s).component c).selection = ((a.stream s).component c).selection

/-- A nominated valid pair of `b` was one of `a`, with no lower priority, and the selected pair of
its component is set as it was, with no lower priority. -/
structure Still (a b : NiceAgent) (sid : StreamId) (cid : ComponentId) (p : PairId) : Prop where
  stream : sid ∈ a.streams
  mem : p ∈ (a.stream sid).conncheckList
  nominated : nominatedOf a cid p = true
  priority : (b.pair p).priority ≤ (a.pair p).priority
  selected : ((a.stream sid).component cid).Selected → ((b.stream sid).component cid).Selected
  le : ((a.stream sid).component cid).selectedPair.priority ≤
    ((b.stream sid).component cid).selectedPair.priority

/-- No pair becomes a nominated valid one, and the selected pairs stay. -/
def Leaves (a b : NiceAgent) : Prop :=
  ∀ sid ∈ b.streams, ∀ cid, ∀ p ∈ (b.stream sid).conncheckList, nominatedOf b cid p = true →
    Still a b sid cid p

section Quiet

variable {env : Env} {a b c : NiceAgent} {sid : StreamId} {cid : ComponentId} {p : PairId}

lemma Quiet.refl : Quiet a a := ⟨.refl, fun _ _ h => ⟨h, rfl⟩, fun _ _ => rfl⟩

lemma Quiet.trans (h : Quiet a b) (h' : Quiet b c) : Quiet a c := by
  refine ⟨h.frame.trans h'.frame, fun q d hq => ?_,
    fun s d => (h'.selection s d).trans (h.selection s d)⟩
  obtain ⟨hb, hprio⟩ := h'.pair q d hq
  obtain ⟨ha, hprio'⟩ := h.pair q d hb
  exact ⟨ha, hprio.trans hprio'⟩

/-- The pairs are what they were. -/
lemma Quiet.of_pair (h : Frame a b) (hpair : b.pair = a.pair)
    (hselection : ∀ s c, ((b.stream s).component c).selection =
      ((a.stream s).component c).selection) : Quiet a b := by
  refine ⟨h, fun q c hq => ?_, hselection⟩
  rw [nominatedOf, hpair] at hq
  rw [hpair]
  exact ⟨hq, rfl⟩

lemma Quiet.foldl {α β : Type} {f : β → α → β} {g : β → NiceAgent}
    (h : ∀ acc x, Quiet (g acc) (g (f acc x))) (list : List α) :
    ∀ acc, Quiet (g acc) (g (list.foldl f acc)) := by
  induction list with
  | nil => exact fun acc => .refl
  | cons x list ih => exact fun acc => (h acc x).trans (ih (f acc x))

lemma selected_of_selection {x y : Component} (h : y.selection = x.selection) :
    (x.Selected ↔ y.Selected) ∧ y.selectedPair.priority = x.selectedPair.priority := by
  obtain ⟨hlocal, hrest⟩ := Prod.mk.inj h
  obtain ⟨hremote, hprio⟩ := Prod.mk.inj hrest
  rw [Component.Selected, Component.Selected, hlocal, hremote]
  exact ⟨Iff.rfl, hprio⟩

/-- A change that adds no nominated valid pair to the lists, and leaves the selected pairs. -/
lemma Leaves.of (hstreams : b.streams = a.streams)
    (hlist : ∀ s, ∀ q ∈ (b.stream s).conncheckList, ∀ c, nominatedOf b c q = true →
      q ∈ (a.stream s).conncheckList ∧ nominatedOf a c q = true ∧
        (b.pair q).priority = (a.pair q).priority)
    (hselection : ∀ s c, ((b.stream s).component c).selection =
      ((a.stream s).component c).selection) : Leaves a b := by
  intro s hs c q hq hn
  obtain ⟨hmem, hnominated, hprio⟩ := hlist s q hq c hn
  obtain ⟨hselected, hpriority⟩ := selected_of_selection (hselection s c)
  exact ⟨hstreams ▸ hs, hmem, hnominated, hprio ▸ UInt64.le_refl _, hselected.mp,
    hpriority ▸ UInt64.le_refl _⟩

lemma Leaves.refl : Leaves a a := .of rfl (fun _ _ hq _ hn => ⟨hq, hn, rfl⟩) fun _ _ => rfl

lemma Leaves.trans (h : Leaves a b) (h' : Leaves b c) : Leaves a c := by
  intro s hs d q hq hn
  have hbc := h' s hs d q hq hn
  have hab := h s hbc.stream d q hbc.mem hbc.nominated
  exact ⟨hab.stream, hab.mem, hab.nominated, UInt64.le_trans hbc.priority hab.priority,
    fun hsel => hbc.selected (hab.selected hsel), UInt64.le_trans hab.le hbc.le⟩

lemma Quiet.leaves (h : Quiet a b) : Leaves a b := by
  refine .of h.frame.streams (fun s q hq c hn => ?_) h.selection
  obtain ⟨hnominated, hprio⟩ := h.pair q c hn
  exact ⟨h.frame.list s ▸ hq, hnominated, hprio⟩

/-! ### Pairs and components -/

/-- A pair that is written over by one that is not a nominated valid one, or that is so as it was
before. -/
lemma Quiet.setPair {pair : CandidateCheckPair} (howner : pair.streamId = (a.pair p).streamId)
    (h : pair.valid = true → pair.nominated = true → (a.pair p).valid = true ∧
      (a.pair p).nominated = true ∧ pair.componentId = (a.pair p).componentId ∧
      pair.priority = (a.pair p).priority) : Quiet a (a.setPair p pair) := by
  refine ⟨.setPair howner, fun q c hq => ?_, fun _ _ => rfl⟩
  by_cases hqp : q = p
  · subst hqp
    rw [nominatedOf, setPair_pair_self] at hq
    simp only [Bool.and_eq_true, decide_eq_true_eq] at hq
    obtain ⟨hvalid, hnominated, hcomponent, hprio⟩ := h hq.1.2 hq.2
    rw [setPair_pair_self, nominatedOf, hvalid, hnominated, ← hcomponent, hq.1.1]
    exact ⟨by simp, hprio⟩
  · rw [nominatedOf, setPair_pair_of_ne hqp] at hq
    rw [setPair_pair_of_ne hqp]
    exact ⟨hq, rfl⟩

/-- A component that keeps its selected pair. -/
lemma setComponent_selection {component : Component}
    (h : component.selection = ((a.stream sid).component cid).selection) (s : StreamId)
    (c : ComponentId) : (((a.setComponent sid cid component).stream s).component c).selection =
      ((a.stream s).component c).selection := by
  by_cases hsc : (s, c) = (sid, cid)
  · obtain ⟨rfl, rfl⟩ := Prod.mk.inj hsc
    rw [setComponent_component_self, h]
  · rw [setComponent_component_of_ne hsc]

lemma Quiet.setComponent {component : Component}
    (hconfig : component.stunAgent.toStunAgentConfig =
      ((a.stream sid).component cid).stunAgent.toStunAgentConfig)
    (hlocal : component.localCandidates = ((a.stream sid).component cid).localCandidates)
    (hremote : component.remoteCandidates = ((a.stream sid).component cid).remoteCandidates)
    (hselection : component.selection = ((a.stream sid).component cid).selection) :
    Quiet a (a.setComponent sid cid component) :=
  .of_pair (.setComponent hconfig hlocal hremote) rfl (setComponent_selection hselection)

lemma emit_quiet (event : Trace) : Quiet a (a.emit event) :=
  .of_pair (emit_frame event) rfl fun _ _ => rfl

lemma signalStateChange_quiet (state : NiceComponentState) :
    Quiet a (agentSignalComponentStateChange a sid cid state) := by
  obtain ⟨hpair, hcomponent, -⟩ := agentSignalComponentStateChange_spec a sid cid state
  refine .of_pair (agentSignalComponentStateChange_frame state) hpair fun s c => ?_
  obtain ⟨st, hst⟩ := hcomponent s c
  rw [hst]
  rfl

lemma signalNewSelectedPair_quiet (l r : CandidateId) :
    Quiet a (agentSignalNewSelectedPair a sid cid l r) := by
  rw [agentSignalNewSelectedPair]
  split
  · exact .refl
  · exact emit_quiet _

lemma forgetCheck_quiet (id : StunTransactionId) : Quiet a (forgetCheck a sid cid id) :=
  .setComponent (stunAgentForgetTransaction_config _ _) rfl rfl rfl

lemma pairFail_quiet (a : NiceAgent) (sid : StreamId) (p : PairId) :
    Quiet a (candidateCheckPairFail a sid p) := by
  have hfail (x : NiceAgent) (hx : x.pair = a.pair) :
      Quiet x (x.setPair p { a.pair p with state := .failed, stunMessage := none }) := by
    refine .setPair ?_ fun hvalid => ?_
    · rw [hx]
    · cases hvalid
  rw [candidateCheckPairFail]
  cases (a.pair p).stunMessage with
  | none => exact hfail a rfl
  | some msg => exact (forgetCheck_quiet msg.id).trans (hfail _ rfl)

lemma pruneSocket_quiet (sock : Option NiceSocket) :
    Quiet a (connCheckPruneSocket a sid cid sock) := by
  have hloop (x : NiceAgent) (list : List PairId) : Quiet x (list.foldl (fun agent p =>
      if (agent.candidate (agent.pair p).localCand).sockptr = sock ∨
          (agent.candidate (agent.pair p).remoteCand).sockptr = sock then
        candidateCheckPairFail agent sid p
      else agent) x) := by
    refine @Quiet.foldl _ _ _ id (fun acc p => ?_) list x
    dsimp only [id]
    split
    · exact pairFail_quiet _ _ _
    · exact .refl
  rw [connCheckPruneSocket]
  split
  · exact (signalStateChange_quiet _).trans (hloop _ _)
  · exact hloop _ _

/-! ### Keepalives -/

/-- The other things that a step may change. -/
lemma settings_quiet (transids : ℕ) (mediaAfterTick : Bool) :
    Quiet a { a with transids, mediaAfterTick } :=
  .of_pair (settings_frame _ _) rfl fun _ _ => rfl

lemma keepaliveCheck_quiet (loc remote : NiceCandidate) :
    Quiet a (keepaliveCheck env a sid cid loc remote).1 := by
  rw [keepaliveCheck]
  dsimp only
  split
  · split
    next msg stun hcreate =>
      refine Quiet.trans (Quiet.trans (Quiet.setComponent ?_ ?_ ?_ ?_) (settings_quiet _ _))
        (emit_quiet _)
      · exact conncheckCreate_config (congrArg Prod.snd hcreate)
      all_goals rfl
    next msg hcreate =>
      exact (Quiet.setComponent (by rfl) (by rfl) (by rfl) (by rfl)).trans (settings_quiet _ _)
  · exact .refl

lemma keepaliveIndication_quiet (loc remote : NiceCandidate) :
    Quiet a (keepaliveIndication env a sid cid loc remote).1 := by
  rw [keepaliveIndication]
  dsimp only
  split
  · exact ((Quiet.setComponent (by rfl) (by rfl) (by rfl) (by rfl)).trans
      (settings_quiet _ _)).trans (emit_quiet _)
  · exact (Quiet.setComponent (by rfl) (by rfl) (by rfl) (by rfl)).trans (settings_quiet _ _)

lemma keepaliveComponent_quiet (acc : NiceAgent × ℕ) (sid : StreamId) (cid : ComponentId) :
    Quiet acc.1 (keepaliveComponent env acc sid cid).1 := by
  rw [keepaliveComponent]
  dsimp only
  split
  · split
    · exact .refl
    · split
      · exact keepaliveCheck_quiet _ _
      · exact keepaliveIndication_quiet _ _
  · exact .refl

lemma privConnKeepaliveTick_quiet (env : Env) (a : NiceAgent) :
    Quiet a (privConnKeepaliveTick env a).1 :=
  @Quiet.foldl _ _ _ Prod.fst
    (fun acc sid => @Quiet.foldl _ _ _ Prod.fst
      (fun acc cid => keepaliveComponent_quiet acc sid cid) _ acc) _ (a, 0)

/-! ### The selected pair -/

/-- The pair `cpair` is selected in the component, and nothing else of what matters changes. -/
structure Reselected (a b : NiceAgent) (sid : StreamId) (cid : ComponentId)
    (cpair : CandidatePair) :
    Prop where
  frame : Frame a b
  pair : ∀ q c, nominatedOf b c q = true →
    nominatedOf a c q = true ∧ (b.pair q).priority = (a.pair q).priority
  self : ((b.stream sid).component cid).selection =
    (cpair.localCand, cpair.remoteCand, cpair.priority)
  other : ∀ s c, (s, c) ≠ (sid, cid) →
    ((b.stream s).component c).selection = ((a.stream s).component c).selection

lemma Quiet.reselected {cpair : CandidatePair} (h : Quiet a b) (h' : Reselected b c sid cid cpair) :
    Reselected a c sid cid cpair := by
  refine ⟨h.frame.trans h'.frame, fun q d hq => ?_, h'.self,
    fun s d hne => (h'.other s d hne).trans (h.selection s d)⟩
  obtain ⟨hb, hprio⟩ := h'.pair q d hq
  obtain ⟨ha, hprio'⟩ := h.pair q d hb
  exact ⟨ha, hprio.trans hprio'⟩

lemma Reselected.quiet {cpair : CandidatePair} (h : Reselected a b sid cid cpair) (h' : Quiet b c) :
    Reselected a c sid cid cpair := by
  refine ⟨h.frame.trans h'.frame, fun q d hq => ?_, (h'.selection sid cid).trans h.self,
    fun s d hne => (h'.selection s d).trans (h.other s d hne)⟩
  obtain ⟨hb, hprio⟩ := h'.pair q d hq
  obtain ⟨ha, hprio'⟩ := h.pair q d hb
  exact ⟨ha, hprio.trans hprio'⟩

/-- The last step of `component_update_selected_pair`. -/
lemma setSelectedPair_reselected (cpair : CandidatePair) :
    Reselected a (a.setComponent sid cid
      { (a.stream sid).component cid with
        selectedPair := { CandidatePair.clear with
          localCand := cpair.localCand, remoteCand := cpair.remoteCand
          priority := cpair.priority } }) sid cid cpair := by
  refine ⟨.setComponent rfl rfl rfl, fun q c hq => ⟨hq, rfl⟩, ?_, fun s c hne => ?_⟩
  · rw [setComponent_component_self]
    rfl
  · rw [setComponent_component_of_ne hne]

lemma componentUpdateSelectedPair_reselected (cpair : CandidatePair) :
    Reselected a (componentUpdateSelectedPair a sid cid cpair) sid cid cpair := by
  rw [componentUpdateSelectedPair]
  dsimp only
  cases ((a.stream sid).component cid).turnCandidate with
  | none => exact setSelectedPair_reselected cpair
  | some turn =>
      dsimp only
      split
      · refine Quiet.reselected ?_ (setSelectedPair_reselected cpair)
        exact (pruneSocket_quiet _).trans (.setComponent rfl rfl rfl rfl)
      · exact setSelectedPair_reselected cpair

/-- **The selected pair.**  The pair that is found for the foundations of `p` is selected, if `p`
has a higher priority than the selected one. -/
lemma updateSelectedPair_reselected {cpair : CandidatePair}
    (hfound : componentFindPair a ((a.stream sid).component cid)
      (a.candidate (a.pair p).localCand).foundation
      (a.candidate (a.pair p).remoteCand).foundation = some cpair)
    (hlt : ((a.stream sid).component cid).selectedPair.priority < (a.pair p).priority) :
    Reselected a (privUpdateSelectedPair env a sid cid p) sid cid cpair := by
  rw [privUpdateSelectedPair]
  dsimp only
  rw [hfound]
  dsimp only
  rw [if_pos hlt]
  exact ((componentUpdateSelectedPair_reselected cpair).quiet
    (privConnKeepaliveTick_quiet env _)).quiet (signalNewSelectedPair_quiet _ _)

lemma componentFindPair_selected {component : Component} {lfoundation rfoundation : Bytes}
    {cpair : CandidatePair}
    (h : componentFindPair a component lfoundation rfoundation = some cpair) :
    cpair.localCand.isSome = true ∧ cpair.remoteCand.isSome = true := by
  rw [componentFindPair] at h
  split at h
  · obtain rfl := Option.some.inj h
    exact ⟨rfl, rfl⟩
  · cases h

/-! ### The state of the component -/

lemma valid_of_nominatedOf (h : nominatedOf a cid p = true) :
    (a.pair p).componentId = cid ∧ (a.pair p).valid = true ∧ (a.pair p).nominated = true := by
  simpa [nominatedOf, and_assoc] using h

/-- A valid pair was not pruned. -/
lemma prunedPair_of_valid {highest : UInt64} {pair : CandidateCheckPair}
    (h : (prunedPair highest cid pair).valid = true) : prunedPair highest cid pair = pair := by
  rw [prunedPair] at h ⊢
  split_ifs at h ⊢
  · cases h
  · cases h
  · rfl
  · rfl

lemma prunedPair_componentId {highest : UInt64} {pair : CandidateCheckPair} :
    (prunedPair highest cid pair).componentId = pair.componentId := by
  rw [prunedPair]
  split_ifs <;> rfl

/-- **The state of the component.**  No pair becomes a nominated valid one by it. -/
lemma updateForReady_quiet (a : NiceAgent) (sid : StreamId) (cid : ComponentId) :
    Quiet a (privUpdateCheckListStateForReady a sid cid) := by
  obtain ⟨hpair, hcomp, -⟩ := privUpdateCheckListStateForReady_spec a sid cid
  refine ⟨privUpdateCheckListStateForReady_frame a sid cid, fun q c hq => ?_, fun s c => ?_⟩
  · have hsame : (privUpdateCheckListStateForReady a sid cid).pair q = a.pair q := by
      have hvalid := (valid_of_nominatedOf hq).2.1
      rw [hpair] at hvalid ⊢
      split_ifs at hvalid ⊢
      · exact prunedPair_of_valid hvalid
      · rfl
    rw [nominatedOf, hsame] at hq
    rw [hsame]
    exact ⟨hq, rfl⟩
  · obtain ⟨st, hst⟩ := hcomp s c
    rw [hst]
    rfl

/-- The pair is not left to be checked. -/
def CandidateCheckPair.settled (pair : CandidateCheckPair) : Prop :=
  pair.state ≠ .frozen ∧ pair.state ≠ .waiting ∧ pair.state ≠ .inProgress

/-- A pair that a round of pruning does not count is settled. -/
lemma prunePair_count {highest : UInt64} {acc : NiceAgent × ℕ}
    (h : (prunePair highest cid acc p).2 = 0) :
    acc.2 = 0 ∧ ((acc.1.pair p).componentId = cid →
      (prunedPair highest cid (acc.1.pair p)).settled) := by
  have hne (hlt : (acc.1.pair p).priority < highest) : highest ≠ 0 := by
    rintro rfl
    simp [UInt64.lt_iff_toNat_lt] at hlt
  rw [prunePair] at h
  by_cases hc : (acc.1.pair p).componentId = cid
  · rw [if_pos hc] at h
    rw [prunedPair, if_pos hc, CandidateCheckPair.settled]
    by_cases hwait : (acc.1.pair p).state = .frozen ∨ (acc.1.pair p).state = .waiting
    · rw [if_pos hwait] at h ⊢
      exact ⟨h, fun _ => by simp⟩
    · rw [if_neg hwait] at h ⊢
      by_cases hprogress : (acc.1.pair p).state = .inProgress
      · rw [if_pos hprogress] at h
        by_cases hlow : (acc.1.pair p).priority < highest
        · rw [if_pos ⟨hne hlow, hlow⟩] at h
          rw [if_pos ⟨hprogress, hlow⟩]
          exact ⟨h, fun _ => by simp⟩
        · rw [if_neg fun hboth => hlow hboth.2] at h
          exact absurd h (Nat.succ_ne_zero _)
      · rw [if_neg hprogress] at h
        rw [if_neg fun hboth => hprogress hboth.1]
        exact ⟨h, fun _ => ⟨fun hs => hwait (.inl hs), fun hs => hwait (.inr hs), hprogress⟩⟩
  · rw [if_neg hc] at h
    exact ⟨h, fun hcid => absurd hcid hc⟩

/-- The loop of `priv_prune_pending_checks` counts every pair that it leaves to be checked. -/
lemma prunePairs_count {highest : UInt64} (list : List PairId) : ∀ acc : NiceAgent × ℕ,
    (list.foldl (prunePair highest cid) acc).2 = 0 → acc.2 = 0 ∧
      ∀ q ∈ list, (acc.1.pair q).componentId = cid →
        (prunedPair highest cid (acc.1.pair q)).settled := by
  induction list with
  | nil => exact fun acc h => ⟨h, by simp⟩
  | cons r list ih =>
      intro acc h
      obtain ⟨hcount, hrest⟩ := ih _ h
      obtain ⟨hzero, hr⟩ := prunePair_count hcount
      refine ⟨hzero, fun q hq hc => ?_⟩
      by_cases hqr : q = r
      · subst hqr
        exact hr hc
      · rcases List.mem_cons.mp hq with rfl | hq
        · exact absurd rfl hqr
        · have hsettled := hrest q hq
          rw [prunePair_pair, Function.update_of_ne hqr] at hsettled
          exact hsettled hc

lemma agentFindComponent_mem {s : StreamId} (h : agentFindComponent a sid cid = some s) :
    sid ∈ a.streams := by
  obtain ⟨hstream, -⟩ := Option.filter_eq_some_iff.mp h
  rw [agentFindStream] at hstream
  have hs : s = sid := by simpa using List.find?_some hstream
  exact hs ▸ List.mem_of_find?_eq_some hstream

/-- What holds when the component is moved to READY: its stream is one of the agent, it has a
nominated valid pair, and none of its pairs is left to be checked. -/
lemma updateForReady_moved (hbefore : ((a.stream sid).component cid).state ≠ .ready)
    (hafter : (((privUpdateCheckListStateForReady a sid cid).stream sid).component cid).state =
      .ready) :
    sid ∈ a.streams ∧ (∃ p ∈ (a.stream sid).conncheckList,
      nominatedOf (privUpdateCheckListStateForReady a sid cid) cid p = true) ∧
    ∀ p ∈ (a.stream sid).conncheckList,
      ((privUpdateCheckListStateForReady a sid cid).pair p).componentId = cid →
        ((privUpdateCheckListStateForReady a sid cid).pair p).settled := by
  obtain ⟨hpair, -⟩ := privUpdateCheckListStateForReady_spec a sid cid
  have hpruned := (privPrunePendingChecks_spec a sid cid).2.1
  have hmoved : (∃ p ∈ (a.stream sid).conncheckList, nominatedOf a cid p = true) ∧
      (privPrunePendingChecks a sid cid).2 = 0 ∧
      ((agentSignalComponentStateChange (privPrunePendingChecks a sid cid).1 sid cid .ready).stream
        sid).component cid ≠ (a.stream sid).component cid := by
    rw [privUpdateCheckListStateForReady] at hafter
    by_cases hany : (a.stream sid).conncheckList.any (nominatedOf a cid) = true
    · rw [if_pos hany] at hafter
      dsimp only at hafter
      by_cases hcount : (privPrunePendingChecks a sid cid).2 = 0
      · rw [if_pos hcount] at hafter
        exact ⟨List.any_eq_true.mp hany, hcount, fun heq => hbefore (heq ▸ hafter)⟩
      · rw [if_neg hcount, hpruned] at hafter
        exact absurd hafter hbefore
    · rw [if_neg hany] at hafter
      exact absurd hafter hbefore
  obtain ⟨⟨p, hp, hnominated⟩, hcount, hchanged⟩ := hmoved
  have hsid : sid ∈ a.streams := by
    rw [← (privPrunePendingChecks_frame a sid cid).streams]
    cases hfind : agentFindComponent (privPrunePendingChecks a sid cid).1 sid cid with
    | none =>
        rw [agentSignalComponentStateChange, hfind, hpruned] at hchanged
        exact absurd rfl hchanged
    | some s => exact agentFindComponent_mem hfind
  simp only [show (∃ p ∈ (a.stream sid).conncheckList, nominatedOf a cid p = true) from
    ⟨p, hp, hnominated⟩, true_and] at hpair
  refine ⟨hsid, ⟨p, hp, ?_⟩, fun q hq hc => ?_⟩
  · rw [nominatedOf, updateForReady_of_valid (valid_of_nominatedOf hnominated).2.1]
    exact hnominated
  · rw [hpair, if_pos hq] at hc ⊢
    refine (prunePairs_count _ (a, 0) hcount).2 q hq ?_
    rwa [prunedPair_componentId] at hc

/-! ### Unfreezing and sending -/

/-- A pair that is not valid now is not a nominated valid one. -/
lemma setPairState_quiet {state : NiceCheckState} (hs : state ≠ .succeeded)
    (hd : state ≠ .discovered) : Quiet a (a.setPairState p state) :=
  .setPair rfl fun hvalid => by simp [CandidateCheckPair.valid, hs, hd] at hvalid

/-- Pairs wait that did not, and nothing else changes. -/
structure Thawed (a b : NiceAgent) : Prop where
  streams : b.streams = a.streams
  stream : b.stream = a.stream
  candidate : b.candidate = a.candidate
  controllingMode : b.controllingMode = a.controllingMode
  pair : ∀ q, b.pair q = a.pair q ∨ b.pair q = { a.pair q with state := .waiting }

lemma Thawed.refl : Thawed a a := ⟨rfl, rfl, rfl, rfl, fun _ => .inl rfl⟩

lemma Thawed.trans (h : Thawed a b) (h' : Thawed b c) : Thawed a c := by
  refine ⟨h'.streams.trans h.streams, h'.stream.trans h.stream, h'.candidate.trans h.candidate,
    h'.controllingMode.trans h.controllingMode, fun q => ?_⟩
  rcases h.pair q with hb | hb
  · rw [← hb]
    exact h'.pair q
  · rcases h'.pair q with hc | hc
    · exact .inr (hc.trans hb)
    · exact .inr (hc.trans (by rw [hb]))

lemma setPairState_thawed : Thawed a (a.setPairState p .waiting) := by
  refine ⟨rfl, rfl, rfl, rfl, fun q => ?_⟩
  by_cases hqp : q = p
  · subst hqp
    exact .inr setPair_pair_self
  · exact .inl (setPairState_pair_of_ne hqp)

lemma unfreezeLoop_thawed {okCheck : PairId} {eligible : StreamId → Bool} (list : List PairId) :
    ∀ acc : NiceAgent × ℕ, Thawed acc.1 (list.foldl (unfreezeRound okCheck eligible) acc).1 := by
  induction list with
  | nil => exact fun acc => .refl
  | cons q list ih =>
      intro acc
      refine Thawed.trans ?_ (ih _)
      rw [unfreezeRound]
      split
      · exact setPairState_thawed
      · exact .refl

lemma unfreezeOthers_thawed {okCheck : PairId} (streams : List StreamId) :
    ∀ acc : NiceAgent × ℕ, Thawed acc.1 (unfreezeOthers sid okCheck streams acc).1 := by
  induction streams with
  | nil => exact fun acc => .refl
  | cons s streams ih =>
      intro acc
      rw [unfreezeOthers]
      split
      · exact unfreezeLoop_thawed _ acc
      · exact (unfreezeLoop_thawed _ acc).trans (ih _)

lemma unfreezeNext_thawed (a : NiceAgent) : Thawed a (privConnCheckUnfreezeNext a).2 := by
  rw [privConnCheckUnfreezeNext]
  split
  · exact setPairState_thawed
  · exact .refl

/-- **Unfreezing** makes pairs wait. -/
lemma unfreezeRelated_thawed {okCheck : PairId}
    (h : privConnCheckUnfreezeRelated a sid okCheck = .ok b) : Thawed a b := by
  rw [privConnCheckUnfreezeRelated] at h
  split_ifs at h
  dsimp only at h
  set acc := (a.stream sid).conncheckList.foldl
    (unfreezeRound okCheck fun t => t = (a.pair okCheck).streamId) (a, 0) with hacc
  have hloop : Thawed a acc.1 := unfreezeLoop_thawed _ (a, 0)
  split at h
  · cases h
  next s hs =>
    obtain rfl := Except.ok.inj h
    have hothers : Thawed acc.1 (if streamAllComponentsReady (acc.1.stream s) then
        unfreezeOthers s okCheck acc.1.streams acc else acc).1 := by
      split
      · exact unfreezeOthers_thawed _ acc
      · exact .refl
    have hnext (acc : NiceAgent × ℕ) :
        Thawed acc.1 (if acc.2 = 0 then (privConnCheckUnfreezeNext acc.1).2 else acc.1) := by
      split
      · exact unfreezeNext_thawed _
      · exact .refl
    exact (hloop.trans hothers).trans (hnext _)

lemma Thawed.nominatedOf (h : Thawed a b) (hq : nominatedOf b cid p = true) :
    b.pair p = a.pair p := by
  rcases h.pair p with hp | hp
  · exact hp
  · have hvalid := (valid_of_nominatedOf hq).2.1
    rw [hp] at hvalid
    cases hvalid

lemma connCheckSend_quiet (h : (a.pair p).valid = false) : Quiet a (connCheckSend env a p).1 := by
  refine ⟨connCheckSend_frame env a p, fun q c hq => ?_, fun s c => ?_⟩
  · by_cases hqp : q = p
    · subst hqp
      have hvalid := (valid_of_nominatedOf hq).2.1
      rw [CandidateCheckPair.valid, (connCheckSend_same env a q).1] at hvalid
      exact absurd hvalid (by rw [← CandidateCheckPair.valid, h]; exact Bool.false_ne_true)
    · rw [nominatedOf, connCheckSend_pair_of_ne hqp] at hq
      rw [connCheckSend_pair_of_ne hqp]
      exact ⟨hq, rfl⟩
  · rw [connCheckSend]
    split
    · rfl
    next t ht =>
      dsimp only
      split
      · split
        next msg stunAgent hcreate =>
          exact @setComponent_selection a t (a.pair p).componentId
            { (a.stream t).component (a.pair p).componentId with stunAgent } rfl s c
        · rfl
      · rfl

/-- A check that is sent takes its pair out of the valid ones, whatever else is set in it. -/
lemma initiate_quiet {pair : CandidateCheckPair} (h : pair.streamId = (a.pair p).streamId) :
    Quiet a (privConnCheckInitiate env (a.setPair p pair) p) := by
  have hset : (a.setPair p pair).setPairState p .inProgress =
      a.setPair p { pair with state := .inProgress } := by
    simp [NiceAgent.setPairState, NiceAgent.setPair]
  have hpair : Quiet a (a.setPair p { pair with state := .inProgress }) :=
    .setPair h fun hvalid => by cases hvalid
  rw [privConnCheckInitiate, hset]
  refine hpair.trans (connCheckSend_quiet ?_)
  rw [setPair_pair_self]
  rfl

lemma privConnCheckInitiate_quiet : Quiet a (privConnCheckInitiate env a p) := by
  have hset : a.setPair p (a.pair p) = a := by simp [NiceAgent.setPair]
  have h := @initiate_quiet env a p (a.pair p) rfl
  rwa [hset] at h

/-! ### New pairs -/

/-- A new pair that is not a nominated valid one. -/
lemma insertedPair_leaves {pair : CandidateCheckPair}
    (h : (pair.valid && pair.nominated) = false) {list : List PairId}
    (hlist : ∀ q ∈ list, q = p ∨ q ∈ (a.stream sid).conncheckList) (nextPair : PairId) :
    Leaves a (NiceAgent.setCheckList { a.setPair p pair with nextPair } sid list) := by
  refine .of rfl (fun s q hq c hn => ?_) fun s c => ?_
  · have hqp : q ≠ p := by
      rintro rfl
      have hnominated := valid_of_nominatedOf hn
      simp only [NiceAgent.setCheckList, setPair_pair_self] at hnominated
      rw [hnominated.2.1, hnominated.2.2] at h
      cases h
    have hpair : (NiceAgent.setCheckList { a.setPair p pair with nextPair } sid list).pair q =
        a.pair q := setPair_pair_of_ne hqp
    rw [nominatedOf, hpair] at hn
    refine ⟨?_, hn, congrArg CandidateCheckPair.priority hpair⟩
    by_cases hs : s = sid
    · subst hs
      simp only [NiceAgent.setCheckList, Function.update_self] at hq
      exact (hlist q hq).resolve_left hqp
    · simpa [NiceAgent.setCheckList, hs] using hq
  · by_cases hs : s = sid
    · subst hs
      simp [NiceAgent.setCheckList, NiceAgent.setPair]
    · simp [NiceAgent.setCheckList, NiceAgent.setPair, hs]

lemma mem_insertPair {list : List PairId} {q : PairId} (h : q ∈ insertPair a list p) :
    q = p ∨ q ∈ list := by
  rwa [insertPair, List.mem_orderedInsert] at h

lemma limit_quiet (list : List PairId) (limit : ℕ) :
    Quiet a (privLimitConnCheckListSize a list limit) := by
  refine @Quiet.foldl _ _ _ Prod.fst (fun acc q => ?_) list (a, 0)
  rw [limitPair]
  split_ifs
  · exact setPairState_quiet (by decide) (by decide)
  · exact .refl
  · exact .refl

lemma addNewCheckPair_leaves {state : NiceCheckState} {useCandidate : Bool}
    (hs : state ≠ .succeeded) (hd : state ≠ .discovered) (l r : CandidateId) :
    Leaves a (privAddNewCheckPair a sid cid l r state useCandidate) := by
  have hvalid : (newCheckPair a sid cid l r state useCandidate).valid = false := by
    simp [newCheckPair, CandidateCheckPair.valid, hs, hd]
  have hinsert := @insertedPair_leaves a sid a.nextPair
    (newCheckPair a sid cid l r state useCandidate) (by rw [hvalid, Bool.false_and])
  rw [privAddNewCheckPair]
  dsimp only
  split
  · exact (hinsert (fun q hq => mem_insertPair hq) _).trans (limit_quiet _ _).leaves
  · exact hinsert (fun q hq => mem_insertPair hq) _

lemma addForCandidatePair_leaves (l r : CandidateId) :
    Leaves a (connCheckAddForCandidatePair a sid cid l r).1 := by
  rw [connCheckAddForCandidatePair]
  split_ifs
  · exact .refl
  · exact .refl
  · exact (@addNewCheckPair_leaves a sid cid .frozen false (by decide) (by decide) l r).trans
      (signalStateChange_quiet _).leaves
  · exact .refl

/-- A loop of additions. -/
lemma Leaves.foldl {α : Type} {f : NiceAgent × ℕ → α → NiceAgent × ℕ}
    (h : ∀ acc x, Leaves acc.1 (f acc x).1) (list : List α) :
    ∀ acc : NiceAgent × ℕ, Leaves acc.1 (list.foldl f acc).1 := by
  induction list with
  | nil => exact fun acc => .refl
  | cons x list ih => exact fun acc => (h acc x).trans (ih _)

/-- **The pairs of a new candidate**, local or remote. -/
lemma addForLocalCandidate_leaves (l : CandidateId) :
    Leaves a (connCheckAddForLocalCandidate a sid cid l).1 :=
  .foldl (fun _ r => addForCandidatePair_leaves l r) _ (a, 0)

lemma connCheckAddForCandidate_leaves (r : CandidateId) :
    Leaves a (connCheckAddForCandidate a sid cid r).1 :=
  .foldl (fun _ l => addForCandidatePair_leaves l r) _ (a, 0)

lemma listedCandidate_leaves (candidate : NiceCandidate) :
    Leaves a (listedCandidate a sid cid candidate) := by
  let named : NiceAgent := { a with
    candidate := Function.update a.candidate a.nextCandidate candidate
    nextCandidate := a.nextCandidate + 1 }
  let component : Component := { (a.stream sid).component cid with
    localCandidates := ((a.stream sid).component cid).localCandidates ++ [a.nextCandidate] }
  refine .of rfl (fun s q hq c hn => ⟨?_, hn, rfl⟩) fun s c =>
    @setComponent_selection named sid cid component rfl s c
  obtain ⟨f, hf⟩ := @setComponent_stream named sid cid component s
  change q ∈ ((named.setComponent sid cid component).stream s).conncheckList at hq
  rwa [hf] at hq

lemma assignFoundation_leaves (candidate : NiceCandidate) :
    Leaves a (privAssignFoundation a candidate).1 := by
  rw [privAssignFoundation]
  split
  · exact .refl
  · exact .of rfl (fun s q hq c hn => ⟨hq, hn, rfl⟩) fun _ _ => rfl

lemma addLocalCandidatePruned_leaves (candidate : NiceCandidate) :
    Leaves a (privAddLocalCandidatePruned a sid cid candidate).1 := by
  rw [privAddLocalCandidatePruned]
  split
  · exact .refl
  · exact (listedCandidate_leaves candidate).trans (addForLocalCandidate_leaves _)

lemma discoveryAddPeerReflexiveCandidate_leaves (address : NiceAddress) (baseSocket : NiceSocket)
    (localCand remoteCand : Option CandidateId) :
    Leaves a (discoveryAddPeerReflexiveCandidate env a sid cid address baseSocket localCand
      remoteCand).1 := by
  rw [discoveryAddPeerReflexiveCandidate, addLocalCandidate]
  split
  · exact .refl
  · dsimp only
    split
    · exact assignFoundation_leaves _
    · exact (assignFoundation_leaves _).trans (addLocalCandidatePruned_leaves _)

lemma addPeerReflexivePair_leaves (cand : CandidateId) (q : PairId) :
    Leaves a (privAddPeerReflexivePair a sid cid cand q).1 ∧
      (((privAddPeerReflexivePair a sid cid cand q).1).pair
        (privAddPeerReflexivePair a sid cid cand q).2).nominated = false := by
  refine ⟨insertedPair_leaves (Bool.and_false _) (fun q hq => mem_insertPair hq) _, ?_⟩
  exact congrArg CandidateCheckPair.nominated setPair_pair_self

end Quiet

end LibNice.Ice
