import LibNice.Ice.AgentEvents
import LibNice.Ice.Concluding

/-!
What holds of an agent after any run of events.

* `Kept`, `Move.kept_or_insert`: what a move leaves as it was, said once for all invariants.
* `agentNext_invariant`: what every move and every change of the role preserves, every event does.
* `CheckListsSound`, `agentRun_checkListsSound`: **a pair is in one check list, once**, and it belongs to the
  stream of that list.
* `RequestsSound`, `agentRun_requests`: **each request that an agent sends is a new one, which claims
  the role that the agent has then, or one that it has sent before.**
-/

namespace LibNice.Ice

open LibNice.Foundation LibNice.Stun

/-! ### Moves, from outside -/

/-- The agent has sent the message. -/
def SentBy (agent : NiceAgent) (msg : IceMessage) : Prop :=
  ∃ sock addr, Trace.send sock addr msg ∈ agent.trace

/-- What a move that makes no pair leaves as it was. -/
structure Kept (env : Env) (replies : IceMessage → Prop) (a b : NiceAgent) : Prop where
  mode : b.controllingMode = a.controllingMode
  tie : b.tieBreaker = a.tieBreaker
  streams : b.streams = a.streams
  list : ∀ s, (b.stream s).conncheckList.Sublist (a.stream s).conncheckList
  nextPair : b.nextPair = a.nextPair
  check : ∀ p, SameCheck (a.pair p) (b.pair p)
  transids : a.transids ≤ b.transids
  message : ∀ p msg, (b.pair p).stunMessage = some msg → (a.pair p).stunMessage = some msg ∨
    Asks env a msg ∧ a.transids < b.transids ∧ SentBy b msg
  trace : b.trace = a.trace ∨ ∃ event, b.trace = a.trace ++ [event] ∧
    (∀ control, event ≠ .roleConflict control) ∧
    ∀ sock addr msg, event = .send sock addr msg → (msg.cls = .indication ∨ replies msg) ∨
      Asks env a msg ∧ a.transids < b.transids ∨
      ∃ s, ∃ p ∈ (a.stream s).conncheckList, (a.pair p).stunMessage = some msg

section Kept

variable {env : Env} {replies : IceMessage → Prop} {a b : NiceAgent}

/-- A store into one pair. -/
lemma setPair_check {p : PairId} {pair : CandidateCheckPair} (h : SameCheck (a.pair p) pair)
    (q : PairId) : SameCheck (a.pair q) ((a.setPair p pair).pair q) := by
  by_cases hq : q = p
  · subst hq
    rwa [setPair_pair_self]
  · rw [setPair_pair_of_ne hq]
    exact .refl

/-- **A move** keeps what there is, or makes a pair. -/
theorem Move.kept_or_insert (h : Move env replies a b) :
    Kept env replies a b ∨ ∃ sid pair, Made a sid pair ∧ b = withPair a sid pair := by
  cases h with
  | elsewhere h =>
      refine .inl ⟨h.controllingMode, h.tieBreaker, h.streams, fun s => ?_, h.nextPair, fun p => ?_,
        h.transids, fun p msg hp => .inl ?_, .inl h.trace⟩
      · rw [h.list s]
      · rw [h.pair]
        exact .refl
      · rwa [← h.pair]
  | signal event hrole hsend =>
      exact .inl ⟨rfl, rfl, rfl, fun _ => .refl _, rfl, fun _ => .refl, le_rfl, fun _ _ hp => .inl hp,
        .inr ⟨event, rfl, hrole, fun sock addr msg hmsg => .inl (hsend sock addr msg hmsg)⟩⟩
  | store p pair hsame hmsg =>
      refine .inl ⟨rfl, rfl, rfl, fun _ => .refl _, rfl, setPair_check hsame, le_rfl,
        fun q msg hq => .inl ?_, .inl rfl⟩
      by_cases hqp : q = p
      · subst hqp
        rw [setPair_pair_self] at hq
        rcases hmsg with hmsg | hmsg
        · rw [hmsg] at hq
          cases hq
        · rwa [← hmsg]
      · rwa [setPair_pair_of_ne hqp] at hq
  | ask p pair sock addr msg hasks hsame hmsg =>
      have hlast : Trace.send sock addr msg ∈ a.trace ++ [.send sock addr msg] := by simp
      refine .inl ⟨rfl, rfl, rfl, fun _ => .refl _, rfl, setPair_check hsame, Nat.le_succ _,
        fun q m hq => ?_, .inr ⟨_, rfl, (by simp), fun s r m hm => .inr (.inl ?_)⟩⟩
      · by_cases hqp : q = p
        · subst hqp
          refine .inr ?_
          have hm : (a.setPair q pair).pair q = pair := setPair_pair_self
          change ((a.setPair q pair).pair q).stunMessage = some m at hq
          rw [hm, hmsg] at hq
          obtain rfl := Option.some.inj hq
          exact ⟨hasks, Nat.lt_succ_self _, sock, addr, hlast⟩
        · refine .inl ?_
          change ((a.setPair p pair).pair q).stunMessage = some m at hq
          rwa [setPair_pair_of_ne hqp] at hq
      · cases hm
        exact ⟨hasks, Nat.lt_succ_self _⟩
  | keepalive sock addr msg hasks =>
      refine .inl ⟨rfl, rfl, rfl, fun _ => .refl _, rfl, fun _ => .refl, Nat.le_succ _,
        fun _ _ hq => .inl hq, .inr ⟨_, rfl, (by simp), fun s r m hm => .inr (.inl ?_)⟩⟩
      cases hm
      exact ⟨hasks, Nat.lt_succ_self _⟩
  | resend sid p sock addr msg hp hmsg =>
      refine .inl ⟨rfl, rfl, rfl, fun _ => .refl _, rfl, fun _ => .refl, le_rfl,
        fun _ _ hq => .inl hq, .inr ⟨_, rfl, (by simp), fun s r m hm => .inr (.inr ?_)⟩⟩
      cases hm
      exact ⟨sid, p, hp, hmsg⟩
  | insert sid pair hmade => exact .inr ⟨sid, pair, hmade, rfl⟩
  | filter sid keep =>
      refine .inl ⟨rfl, rfl, rfl, fun s => ?_, rfl, fun _ => .refl, le_rfl, fun _ _ hq => .inl hq,
        .inl rfl⟩
      rcases eq_or_ne s sid with rfl | hs
      · simp [NiceAgent.setCheckList]
      · simp [NiceAgent.setCheckList, hs]
  | update c candidate =>
      exact .inl ⟨rfl, rfl, rfl, fun _ => .refl _, rfl, fun _ => .refl, le_rfl,
        fun _ _ hq => .inl hq, .inl rfl⟩

/-! ### Another role, from outside -/

/-- What another role leaves as it was. -/
structure Switched (a : NiceAgent) (control : Bool) (b : NiceAgent) : Prop where
  mode : b.controllingMode = control
  tie : b.tieBreaker = a.tieBreaker
  streams : b.streams = a.streams
  stream : b.stream = a.stream
  nextPair : b.nextPair = a.nextPair
  transids : b.transids = a.transids
  trace : b.trace = a.trace ++ [.roleConflict control]
  streamId : ∀ p, (b.pair p).streamId = (a.pair p).streamId
  controlling : ∀ p, (b.pair p).controlling = (a.pair p).controlling
  message : ∀ p, (b.pair p).stunMessage = (a.pair p).stunMessage

lemma privCheckForRoleConflict_switched (control : Bool) :
    Switched a control (privCheckForRoleConflict a control) := by
  rw [privCheckForRoleConflict_eq]
  split
  · refine ⟨rfl, rfl, rfl, rfl, rfl, rfl, rfl, fun p => ?_, fun p => ?_, fun p => ?_⟩ <;>
    · dsimp only
      split <;> rfl
  next h =>
    exact ⟨(not_not.mp h).symm, rfl, rfl, rfl, rfl, rfl, rfl, fun _ => rfl, fun _ => rfl,
      fun _ => rfl⟩

end Kept

/-! ### Events -/

section Events

variable {env : Env} {replies : IceMessage → Prop} {I : NiceAgent → Prop} {a b : NiceAgent} {K : ℕ}

lemma Move.transids_le (h : Move env replies a b) : a.transids ≤ b.transids := by
  rcases h.kept_or_insert with hkept | ⟨sid, pair, -, rfl⟩
  · exact hkept.transids
  · exact le_rfl

lemma Moves.transids_le (h : Moves env replies a b) : a.transids ≤ b.transids := by
  induction h with
  | refl => exact le_rfl
  | tail _ hmove ih => exact ih.trans hmove.transids_le

/-- What every move preserves, as long as no more than `K` transaction ids are made up, a row of
moves does. -/
lemma Moves.invariant (hmove : ∀ a b, I a → Move env replies a b → b.transids ≤ K → I b)
    (h : Moves env replies a b) (hK : b.transids ≤ K) (ha : I a) : I b := by
  induction h with
  | refl => exact ha
  | tail _ hlast ih => exact hmove _ _ (ih (hlast.transids_le.trans hK)) hlast hK

/-- **An event is a row of moves**, after a change of the role or without one. -/
theorem agentNext_moves (env : Env) (agent : NiceAgent) (event : AgentEvent) :
    ∃ start, (start = agent ∨ ∃ control, start = privCheckForRoleConflict agent control) ∧
      ∃ replies : IceMessage → Prop, (∀ msg, replies msg → msg.cls ≠ .request) ∧
        Moves env replies start (agentNext env agent event) := by
  have hnone : ∀ msg : IceMessage, False → msg.cls ≠ .request := fun _ h => h.elim
  cases event with
  | call call => exact ⟨agent, .inl rfl, _, hnone, call.moves agent⟩
  | request sid cid nicesock src req verdict =>
      rcases inboundRequest_answered env agent sid cid nicesock src req verdict with hab | ⟨-, -, hab⟩
      · exact ⟨agent, .inl rfl, _, fun _ hreply => hreply.cls, hab⟩
      · refine ⟨_, .inr ⟨_, rfl⟩, _, fun msg hreply => ?_, hab⟩
        rw [hreply.cls]
        decide
  | response sid cid sockptr src l r resp =>
      rw [agentNext]
      split
      next b found hmap =>
        rcases mapReply_moves hmap with ⟨-, hab⟩ | ⟨p, -, -, hab⟩
        · exact ⟨agent, .inl rfl, _, hnone, hab⟩
        · exact ⟨_, .inr ⟨_, rfl⟩, _, hnone, hab⟩
      · exact ⟨agent, .inl rfl, _, hnone, .refl⟩

/-- **What every move and every change of the role preserves, every event does.** -/
theorem agentNext_invariant
    (hmove : ∀ (replies : IceMessage → Prop) a b, (∀ msg, replies msg → msg.cls ≠ .request) → I a →
      Move env replies a b → b.transids ≤ K → I b)
    (hrole : ∀ a control, I a → I (privCheckForRoleConflict a control)) {agent : NiceAgent}
    {event : AgentEvent} (hK : (agentNext env agent event).transids ≤ K) (h : I agent) :
    I (agentNext env agent event) := by
  obtain ⟨start, hstart, replies, hreplies, hmoves⟩ := agentNext_moves env agent event
  refine hmoves.invariant (fun a b ha => hmove replies a b hreplies ha) hK ?_
  rcases hstart with rfl | ⟨control, rfl⟩
  · exact h
  · exact hrole agent control h

lemma agentNext_transids_le (agent : NiceAgent) (event : AgentEvent) :
    agent.transids ≤ (agentNext env agent event).transids :=
  agentNext_invariant (I := fun x => agent.transids ≤ x.transids)
    (fun _ _ _ _ ha hmove _ => ha.trans hmove.transids_le)
    (fun _ control ha => ha.trans (privCheckForRoleConflict_switched control).transids.ge) le_rfl
    le_rfl

/-- An invariant of every run. -/
lemma agentRun_invariant
    (hmove : ∀ (replies : IceMessage → Prop) a b, (∀ msg, replies msg → msg.cls ≠ .request) → I a →
      Move env replies a b → b.transids ≤ K → I b)
    (hrole : ∀ a control, I a → I (privCheckForRoleConflict a control)) {agent : NiceAgent}
    (h : I agent) (events : List AgentEvent) :
    (events.foldl (agentNext env) agent).transids ≤ K → I (events.foldl (agentNext env) agent) := by
  induction events using List.reverseRecOn with
  | nil => exact fun _ => h
  | append_singleton events event ih =>
      rw [List.foldl_append]
      intro hK
      exact agentNext_invariant hmove hrole hK (ih ((agentNext_transids_le _ event).trans hK))

end Events

/-- An agent without checks that has sent nothing. -/
structure Fresh (agent : NiceAgent) : Prop where
  list : ∀ s, (agent.stream s).conncheckList = []
  trace : agent.trace = []

/-! ### Lists -/

/-- A pair is in one list, once, and belongs to the stream of that list. -/
structure CheckListsSound (agent : NiceAgent) : Prop where
  nodup : ∀ s, (agent.stream s).conncheckList.Nodup
  owner : ∀ s, ∀ p ∈ (agent.stream s).conncheckList, (agent.pair p).streamId = s
  used : ∀ s, ∀ p ∈ (agent.stream s).conncheckList, p < agent.nextPair

section Lists

variable {env : Env} {a b : NiceAgent} {sid : StreamId} {pair : CandidateCheckPair}

lemma withPair_list (s : StreamId) : ((withPair a sid pair).stream s).conncheckList =
    if s = sid then insertPair (a.setPair a.nextPair pair) (a.stream sid).conncheckList a.nextPair
    else (a.stream s).conncheckList := by
  rcases eq_or_ne s sid with rfl | hs
  · simp [withPair, NiceAgent.setCheckList, insertPair]
  · simp [withPair, NiceAgent.setCheckList, hs]

/-- What is in a list after a pair is made. -/
lemma mem_withPair_list {s : StreamId} {p : PairId} :
    p ∈ ((withPair a sid pair).stream s).conncheckList ↔
      (s = sid ∧ p = a.nextPair) ∨ p ∈ (a.stream s).conncheckList := by
  rw [withPair_list]
  split
  next hs =>
    subst hs
    simp [insertPair, List.mem_orderedInsert]
  next hs => simp [hs]

lemma withPair_pair_of_ne {p : PairId} (h : p ≠ a.nextPair) :
    (withPair a sid pair).pair p = a.pair p := setPair_pair_of_ne h

lemma withPair_pair_self : (withPair a sid pair).pair a.nextPair = pair := setPair_pair_self

lemma CheckListsSound.withPair (h : CheckListsSound a) (hmade : Made a sid pair) :
    CheckListsSound (withPair a sid pair) := by
  have hfresh (s : StreamId) : a.nextPair ∉ (a.stream s).conncheckList :=
    fun hp => lt_irrefl _ (h.used s _ hp)
  refine ⟨fun s => ?_, fun s p hp => ?_, fun s p hp => ?_⟩
  · rw [withPair_list]
    split
    · exact ((List.perm_orderedInsert _ _ _).nodup_iff).mpr
        (List.nodup_cons.mpr ⟨hfresh sid, h.nodup sid⟩)
    · exact h.nodup s
  · rcases mem_withPair_list.mp hp with ⟨rfl, rfl⟩ | hp
    · rw [withPair_pair_self]
      exact hmade.streamId
    · rw [withPair_pair_of_ne (h.used s p hp).ne]
      exact h.owner s p hp
  · rcases mem_withPair_list.mp hp with ⟨rfl, rfl⟩ | hp
    · exact Nat.lt_succ_self _
    · exact (h.used s p hp).trans (Nat.lt_succ_self _)

/-- **One move** keeps the lists sound. -/
lemma CheckListsSound.move {replies : IceMessage → Prop} (h : CheckListsSound a)
    (hmove : Move env replies a b) : CheckListsSound b := by
  rcases hmove.kept_or_insert with hkept | ⟨sid, pair, hmade, rfl⟩
  · refine ⟨fun s => (h.nodup s).sublist (hkept.list s), fun s p hp => ?_, fun s p hp => ?_⟩
    · rw [(hkept.check p).streamId]
      exact h.owner s p ((hkept.list s).subset hp)
    · rw [hkept.nextPair]
      exact h.used s p ((hkept.list s).subset hp)
  · exact h.withPair hmade

lemma CheckListsSound.switched {control : Bool} (h : CheckListsSound a) (hs : Switched a control b) :
    CheckListsSound b := by
  refine ⟨fun s => ?_, fun s p hp => ?_, fun s p hp => ?_⟩
  · rw [hs.stream]
    exact h.nodup s
  · rw [hs.stream] at hp
    rw [hs.streamId]
    exact h.owner s p hp
  · rw [hs.stream] at hp
    rw [hs.nextPair]
    exact h.used s p hp

lemma Fresh.checkListsSound {agent : NiceAgent} (h : Fresh agent) : CheckListsSound agent := by
  refine ⟨fun s => ?_, fun s p hp => ?_, fun s p hp => ?_⟩
  · rw [h.list s]
    exact List.nodup_nil
  · rw [h.list s] at hp
    cases hp
  · rw [h.list s] at hp
    cases hp

/-- **After every run** the check lists are sound. -/
theorem agentRun_checkListsSound (events : List AgentEvent) {agent : NiceAgent} (h : Fresh agent) :
    CheckListsSound (events.foldl (agentNext env) agent) :=
  agentRun_invariant (fun _ _ _ _ ha hmove _ => ha.move hmove)
    (fun _ control ha => ha.switched (privCheckForRoleConflict_switched control)) h.checkListsSound
    events le_rfl

end Lists

/-- A check that is made, sent and sent again. -/
def checkedTwice : List AgentEvent :=
  [.call (.scheduleTriggeredCheck 1 1 (hostSocket 1000) 1 false), .call (.tick fun _ => none),
    .call (.tick fun _ => some .retransmit)]

lemma twoRemotesAgent_fresh (foundation : Bytes) : Fresh (twoRemotesAgent foundation) :=
  ⟨fun _ => rfl, rfl⟩

/-- One pair is listed. -/
theorem agentRun_checkListsSound_sample :
    (((checkedTwice.foldl (agentNext numberedEnv) (twoRemotesAgent [51])).stream 1).conncheckList =
      [0]) ∧
      CheckListsSound (checkedTwice.foldl (agentNext numberedEnv) (twoRemotesAgent [51])) :=
  ⟨by decide +kernel, agentRun_checkListsSound checkedTwice (twoRemotesAgent_fresh [51])⟩

/-! ### Requests -/

/-- The role of an agent after the events of its trace. -/
def roleAfter (role : Bool) (trace : List Trace) : Bool :=
  trace.foldl (fun role event =>
    match event with
    | .roleConflict control => control
    | _ => role) role

/-- What a request is that is sent after the events of `before`: one that was sent before, or a new
one, with an id that no request had, for which the tie-breaker and the role of that time are
claimed. -/
def Sends (env : Env) (role : Bool) (tie : UInt64) (before : List Trace) (msg : IceMessage) : Prop :=
  (∃ sock addr, Trace.send sock addr msg ∈ before) ∨
    (∀ sock addr m, Trace.send sock addr m ∈ before → m.cls = .request → m.id ≠ msg.id) ∧
      (∃ n, msg.id = env.transid n) ∧
      ∀ control q, msg.role control = some q → control = roleAfter role before ∧ q = tie

/-- The requests of an agent that started with the role. -/
structure RequestsSound (env : Env) (role : Bool) (agent : NiceAgent) : Prop where
  mode : agent.controllingMode = roleAfter role agent.trace
  held : ∀ s, ∀ p ∈ (agent.stream s).conncheckList, ∀ msg, (agent.pair p).stunMessage = some msg →
    msg.cls = .request ∧ SentBy agent msg
  tie : ∀ msg, SentBy agent msg → msg.cls = .request → ∀ control q, msg.role control = some q →
    q = agent.tieBreaker
  number : ∀ msg, SentBy agent msg → msg.cls = .request → ∃ n < agent.transids, msg.id = env.transid n
  unique : ∀ msg msg', SentBy agent msg → SentBy agent msg' → msg.cls = .request →
    msg'.cls = .request → msg.id = msg'.id → msg = msg'
  sends : ∀ before sock addr msg after, agent.trace = before ++ .send sock addr msg :: after →
    msg.cls = .request → Sends env role agent.tieBreaker before msg

section Requests

variable {env : Env} {role : Bool} {a b : NiceAgent} {K : ℕ}

lemma roleAfter_snoc {trace : List Trace} {event : Trace}
    (h : ∀ control, event ≠ .roleConflict control) :
    roleAfter role (trace ++ [event]) = roleAfter role trace := by
  rw [roleAfter, List.foldl_append]
  cases event with
  | roleConflict control => exact absurd rfl (h control)
  | _ => rfl

lemma roleAfter_conflict {trace : List Trace} {control : Bool} :
    roleAfter role (trace ++ [.roleConflict control]) = control := by
  rw [roleAfter, List.foldl_append]
  rfl

lemma SentBy.mono {msg : IceMessage} (htrace : a.trace <+: b.trace) (h : SentBy a msg) :
    SentBy b msg := by
  obtain ⟨sock, addr, hmem⟩ := h
  exact ⟨sock, addr, htrace.subset hmem⟩

/-- An event more in the trace: if it is a request that is sent, then it is as it should be. -/
lemma sends_snoc {tie : UInt64} {trace : List Trace} {event : Trace}
    (hsends : ∀ before sock addr msg after, trace = before ++ .send sock addr msg :: after →
      msg.cls = .request → Sends env role tie before msg)
    (hevent : ∀ sock addr msg, event = .send sock addr msg → msg.cls = .request →
      Sends env role tie trace msg) (before : List Trace) (sock : Option NiceSocket)
    (addr : NiceAddress) (msg : IceMessage) (after : List Trace)
    (h : trace ++ [event] = before ++ .send sock addr msg :: after) (hcls : msg.cls = .request) :
    Sends env role tie before msg := by
  rcases List.eq_nil_or_concat after with rfl | ⟨after', last, rfl⟩
  · obtain ⟨rfl, he⟩ := List.append_inj' h rfl
    exact hevent sock addr msg (List.singleton_inj.mp he) hcls
  · rw [List.concat_eq_append, ← List.cons_append, ← List.append_assoc] at h
    obtain ⟨htrace, -⟩ := List.append_inj' h rfl
    exact hsends before sock addr msg after' htrace hcls

/-- No request has the id of one that is made now. -/
lemma RequestsSound.fresh_id (henv : Set.InjOn env.transid (Set.Iio K)) (hK : a.transids < K)
    (h : RequestsSound env role a) {msg m : IceMessage} (hasks : Asks env a msg) (hm : SentBy a m)
    (hcls : m.cls = .request) : m.id ≠ msg.id := by
  intro hid
  obtain ⟨n, hn, hmid⟩ := h.number m hm hcls
  rw [hid, hasks.id] at hmid
  exact hn.ne' (henv hK (hn.trans hK) hmid)

/-- A request that is made now. -/
lemma RequestsSound.asks (henv : Set.InjOn env.transid (Set.Iio K)) (hK : a.transids < K)
    (h : RequestsSound env role a) {msg : IceMessage} (hasks : Asks env a msg) :
    Sends env role a.tieBreaker a.trace msg := by
  refine .inr ⟨fun sock addr m hm hcls => h.fresh_id henv hK hasks ⟨sock, addr, hm⟩ hcls,
    ⟨_, hasks.id⟩, fun control q hq => ?_⟩
  rw [← h.mode]
  exact hasks.role control q hq

/-- What is kept keeps the requests that are held, where the trace only grows. -/
lemma RequestsSound.kept_held {replies : IceMessage → Prop} (h : RequestsSound env role a)
    (hkept : Kept env replies a b) (htrace : a.trace <+: b.trace) :
    ∀ s, ∀ p ∈ (b.stream s).conncheckList, ∀ msg, (b.pair p).stunMessage = some msg →
      msg.cls = .request ∧ SentBy b msg := by
  intro s p hp msg hmsg
  rcases hkept.message p msg hmsg with hold | ⟨hasks, -, hsent⟩
  · exact (h.held s p ((hkept.list s).subset hp) msg hold).imp_right fun h => h.mono htrace
  · exact ⟨hasks.cls, hsent⟩

/-- Nothing is sent. -/
lemma RequestsSound.kept_silent {replies : IceMessage → Prop} (h : RequestsSound env role a)
    (hkept : Kept env replies a b) (heq : b.trace = a.trace) : RequestsSound env role b := by
  have hsent (msg : IceMessage) : SentBy b msg ↔ SentBy a msg := by rw [SentBy, heq, SentBy]
  refine ⟨?_, h.kept_held hkept (by rw [heq]), ?_, fun msg hmsg hcls => ?_, ?_,
    fun before sock addr msg after htrace hcls => ?_⟩
  · rw [hkept.mode, heq]
    exact h.mode
  · simpa only [hsent, hkept.tie] using h.tie
  · obtain ⟨n, hn, hid⟩ := h.number msg ((hsent msg).mp hmsg) hcls
    exact ⟨n, hn.trans_le hkept.transids, hid⟩
  · simpa only [hsent] using h.unique
  · rw [hkept.tie]
    exact h.sends before sock addr msg after (heq ▸ htrace) hcls

/-- An event: a request that is sent there is new, or it is repeated. -/
lemma RequestsSound.kept_event (henv : Set.InjOn env.transid (Set.Iio K)) (hK : b.transids ≤ K)
    {replies : IceMessage → Prop} {event : Trace} (h : RequestsSound env role a)
    (hkept : Kept env replies a b) (heq : b.trace = a.trace ++ [event])
    (hrole : ∀ control, event ≠ .roleConflict control)
    (hnew : ∀ sock addr msg, event = .send sock addr msg → msg.cls = .request →
      Asks env a msg ∧ a.transids < b.transids ∨ SentBy a msg) : RequestsSound env role b := by
  have hsent (msg : IceMessage) (hmsg : SentBy b msg) (hcls : msg.cls = .request) :
      SentBy a msg ∨ (Asks env a msg ∧ a.transids < b.transids) ∧
        ∃ sock addr, event = .send sock addr msg := by
    obtain ⟨sock, addr, hmem⟩ := hmsg
    rw [heq, List.mem_append, List.mem_singleton] at hmem
    rcases hmem with hmem | hmem
    · exact .inl ⟨sock, addr, hmem⟩
    · rcases hnew sock addr msg hmem.symm hcls with hasks | hold
      · exact .inr ⟨hasks, sock, addr, hmem.symm⟩
      · exact .inl hold
  refine ⟨?_, h.kept_held hkept (by rw [heq]; exact List.prefix_append _ _),
    fun msg hmsg hcls control q hq => ?_, fun msg hmsg hcls => ?_,
    fun msg msg' hmsg hmsg' hcls hcls' hid => ?_, ?_⟩
  · rw [hkept.mode, heq, roleAfter_snoc hrole]
    exact h.mode
  · rw [hkept.tie]
    rcases hsent msg hmsg hcls with hold | ⟨⟨hasks, -⟩, -⟩
    · exact h.tie msg hold hcls control q hq
    · exact (hasks.role control q hq).2
  · rcases hsent msg hmsg hcls with hold | ⟨⟨hasks, hlt⟩, -⟩
    · obtain ⟨n, hn, hid⟩ := h.number msg hold hcls
      exact ⟨n, hn.trans_le hkept.transids, hid⟩
    · exact ⟨_, hlt, hasks.id⟩
  · rcases hsent msg hmsg hcls with hold | ⟨⟨hasks, hlt⟩, sock, addr, he⟩ <;>
    rcases hsent msg' hmsg' hcls' with hold' | ⟨⟨hasks', hlt'⟩, sock', addr', he'⟩
    · exact h.unique msg msg' hold hold' hcls hcls' hid
    · exact absurd hid (h.fresh_id henv (hlt'.trans_le hK) hasks' hold hcls)
    · exact absurd hid.symm (h.fresh_id henv (hlt.trans_le hK) hasks hold' hcls')
    · rw [he] at he'
      cases he'
      rfl
  · rw [heq, hkept.tie]
    refine sends_snoc h.sends fun sock addr msg he hcls => ?_
    rcases hnew sock addr msg he hcls with ⟨hasks, hlt⟩ | hsent
    · exact h.asks henv (hlt.trans_le hK) hasks
    · exact .inl hsent

/-- **One move** keeps the requests sound. -/
lemma RequestsSound.move (henv : Set.InjOn env.transid (Set.Iio K)) (hK : b.transids ≤ K)
    {replies : IceMessage → Prop} (hreplies : ∀ msg, replies msg → msg.cls ≠ .request)
    (hlists : CheckListsSound a) (h : RequestsSound env role a) (hmove : Move env replies a b) :
    RequestsSound env role b := by
  rcases hmove.kept_or_insert with hkept | ⟨sid, pair, hmade, rfl⟩
  · rcases hkept.trace with heq | ⟨event, heq, hrole, hevent⟩
    · exact h.kept_silent hkept heq
    · refine h.kept_event henv hK hkept heq hrole fun sock addr msg he hcls => ?_
      rcases hevent sock addr msg he with (hind | hreply) | hasks | ⟨s, p, hp, hmsg⟩
      · rw [hind] at hcls
        cases hcls
      · exact absurd hcls (hreplies msg hreply)
      · exact .inl hasks
      · exact .inr (h.held s p hp msg hmsg).2
  · refine ⟨h.mode, fun s p hp msg hmsg => ?_, h.tie, h.number, h.unique, h.sends⟩
    rcases mem_withPair_list.mp hp with ⟨-, rfl⟩ | hp
    · rw [withPair_pair_self, hmade.stunMessage] at hmsg
      cases hmsg
    · rw [withPair_pair_of_ne (hlists.used s p hp).ne] at hmsg
      exact h.held s p hp msg hmsg

lemma RequestsSound.switched {control : Bool} (h : RequestsSound env role a)
    (hs : Switched a control b) : RequestsSound env role b := by
  have hsent (msg : IceMessage) : SentBy b msg ↔ SentBy a msg := by
    simp [SentBy, hs.trace]
  refine ⟨?_, fun s p hp msg hmsg => ?_, ?_, fun msg hmsg hcls => ?_, ?_, ?_⟩
  · rw [hs.mode, hs.trace, roleAfter_conflict]
  · rw [hs.stream] at hp
    rw [hs.message] at hmsg
    exact (h.held s p hp msg hmsg).imp_right (hsent msg).mpr
  · simpa only [hsent, hs.tie] using h.tie
  · rw [hs.transids]
    exact h.number msg ((hsent msg).mp hmsg) hcls
  · simpa only [hsent] using h.unique
  · rw [hs.trace, hs.tie]
    exact sends_snoc h.sends (by simp)

lemma Fresh.requestsSound {agent : NiceAgent} (h : Fresh agent) :
    RequestsSound env agent.controllingMode agent := by
  refine ⟨?_, fun s p hp => ?_, fun msg hmsg => ?_, fun msg hmsg => ?_, fun msg msg' hmsg => ?_,
    fun before sock addr msg after htrace => ?_⟩
  · rw [h.trace]
    rfl
  · rw [h.list s] at hp
    cases hp
  · simp [SentBy, h.trace] at hmsg
  · simp [SentBy, h.trace] at hmsg
  · simp [SentBy, h.trace] at hmsg
  · simp [h.trace] at htrace

/-- **After every run** in which no transaction id is made up twice, the requests of an agent are
sound. -/
theorem agentRun_requests (events : List AgentEvent) {agent : NiceAgent} (h : Fresh agent)
    (henv : Set.InjOn env.transid
      (Set.Iio (events.foldl (agentNext env) agent).transids)) :
    RequestsSound env agent.controllingMode (events.foldl (agentNext env) agent) := by
  refine (agentRun_invariant (I := fun x => CheckListsSound x ∧
    RequestsSound env agent.controllingMode x) (fun replies x y hr hx hmove hK => ?_)
    (fun x control hx => ?_) ⟨h.checkListsSound, h.requestsSound⟩ events le_rfl).2
  · exact ⟨hx.1.move hmove, hx.2.move henv hK hr hx.1 hmove⟩
  · have hs := privCheckForRoleConflict_switched (a := x) control
    exact ⟨hx.1.switched hs, hx.2.switched hs⟩

lemma numberedEnv_injOn : Set.InjOn numberedEnv.transid (Set.Iio 2) := by
  intro m hm n hn h
  have hm : m < 2 := hm
  have hn : n < 2 := hn
  interval_cases m <;> interval_cases n <;> first | rfl | exact absurd h (by decide)

/-- The request is sent twice, with one id. -/
theorem agentRun_requests_sample : RequestsSound numberedEnv true
    (checkedTwice.foldl (agentNext numberedEnv) (twoRemotesAgent [51])) := by
  refine agentRun_requests checkedTwice (twoRemotesAgent_fresh [51]) ?_
  refine numberedEnv_injOn.mono (Set.Iio_subset_Iio ?_)
  decide +kernel

end Requests

end LibNice.Ice
