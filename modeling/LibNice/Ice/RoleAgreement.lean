import Mathlib
import LibNice.Foundation.Exchange
import LibNice.Ice.AgentRuns

/-!
Two agents that resolve a role conflict, over a network that loses messages, repeats them and
delivers them in any order.

* `agentParty`: an agent as a party; what is validated was sent by the peer.
* `Yields`, `Holds`: what the agent with the lower tie-breaker keeps, and the other one.
* `Yields.next`, `Holds.next`: **one event** keeps it.
* `role_agreement`: **the agent with the higher tie-breaker keeps its role; the other one takes the
  opposite role at most once, for good; and no check that claims a role succeeds before the roles
  are opposite.**
-/

namespace LibNice.Ice

open LibNice.Foundation LibNice.Stun

/-! ### Parties -/

/-- An event of an agent whose peer has sent the messages of `N`.  A request of anyone may come in,
but only one of the peer is valid, and a response has to be one of the peer. -/
def Arrives (N : Set IceMessage) : AgentEvent → Prop
  | .call _ => True
  | .request _ _ _ _ req verdict => verdict.valid = .success → req ∈ N
  | .response _ _ _ _ _ _ resp => resp ∈ N

/-- A trace only grows. -/
lemma agentNext_trace (env : Env) (agent : NiceAgent) (event : AgentEvent) :
    agent.trace <+: (agentNext env agent event).trace := by
  refine agentNext_invariant (I := fun x => agent.trace <+: x.trace)
    (fun replies a b _ ha hmove _ => ?_) (fun a control ha => ?_) le_rfl (List.prefix_refl _)
  · rcases hmove.kept_or_insert with hkept | ⟨sid, pair, -, rfl⟩
    · rcases hkept.trace with heq | ⟨e, heq, -⟩
      · rwa [heq]
      · rw [heq]
        exact ha.trans (List.prefix_append _ _)
    · exact ha
  · rw [(privCheckForRoleConflict_switched control).trace]
    exact ha.trans (List.prefix_append _ _)

/-- An agent as a party of an exchange in which it makes up at most `K` transaction ids. -/
def agentParty (env : Env) (K : ℕ) : Party NiceAgent IceMessage IceMessage where
  sent agent := {msg | SentBy agent msg}
  step N agent agent' :=
    ∃ event, Arrives N event ∧ agent' = agentNext env agent event ∧ agent'.transids ≤ K
  sent_mono := by
    rintro N agent - ⟨event, -, rfl, -⟩ msg hmsg
    exact SentBy.mono (agentNext_trace env agent event) hmsg

/-! ### What the agents keep -/

/-- The message claims the role. -/
def IceMessage.Claims (msg : IceMessage) (role : Bool) : Prop := ∃ q, msg.role role = some q

/-- The agent has answered only requests of the peer with a success, and those that claim the role
of the peer only when it had the opposite one. -/
def Accepted (N : Set IceMessage) (role mode : Bool) (msg : IceMessage) : Prop :=
  msg.cls = .response →
    ∃ req ∈ N, req.cls = .request ∧ req.id = msg.id ∧ (req.Claims role → mode = !role)

/-- How far the agent is that yields to a peer with the role: it has that role too and has never had
another one, or it has the opposite role. -/
inductive Phase (agent : NiceAgent) (role : Bool) : Prop
  | same : agent.controllingMode = role →
      (∀ s, ∀ p ∈ (agent.stream s).conncheckList, (agent.pair p).controlling = role) →
      (∀ msg, SentBy agent msg → msg.cls = .request → ¬msg.Claims !role) → Phase agent role
  | opposite : agent.controllingMode = (!role) →
      (∀ s, ∀ p ∈ (agent.stream s).conncheckList, ∀ msg, (agent.pair p).stunMessage = some msg →
        msg.Claims role → (agent.pair p).controlling = role) → Phase agent role

/-- What the agent with the lower tie-breaker keeps, where the peer has the role and has sent the
messages of `N`. -/
structure Yields (env : Env) (role₀ role : Bool) (tie : UInt64) (N : Set IceMessage)
    (agent : NiceAgent) : Prop where
  tie : agent.tieBreaker = tie
  lists : CheckListsSound agent
  requests : RequestsSound env role₀ agent
  phase : Phase agent role
  honest : ∀ msg, SentBy agent msg → stunUsageIceConncheckProcess msg ≠ .roleConflict
  accepted : ∀ msg, SentBy agent msg → Accepted N role agent.controllingMode msg

/-- What the agent with the higher tie-breaker keeps, where the peer has sent the messages of
`M`. -/
structure Holds (env : Env) (role : Bool) (tie : UInt64) (M : Set IceMessage) (agent : NiceAgent) :
    Prop where
  tie : agent.tieBreaker = tie
  mode : agent.controllingMode = role
  lists : CheckListsSound agent
  requests : RequestsSound env role agent
  claims : ∀ msg, SentBy agent msg → msg.cls = .request → ¬msg.Claims !role
  conflicts : ∀ msg, SentBy agent msg → stunUsageIceConncheckProcess msg = .roleConflict →
    ∃ req ∈ M, req.cls = .request ∧ req.id = msg.id ∧ req.Claims role
  accepted : ∀ msg, SentBy agent msg → msg.cls = .response →
    ∃ req ∈ M, req.cls = .request ∧ req.id = msg.id ∧ ¬req.Claims role

section Parties

variable {env env' : Env} {role₀ role : Bool} {tie tie' : UInt64} {N M : Set IceMessage}
  {a b : NiceAgent} {replies : IceMessage → Prop} {K K' : ℕ}

lemma request_process {msg : IceMessage} (h : msg.cls = .request ∨ msg.cls = .indication) :
    stunUsageIceConncheckProcess msg ≠ .roleConflict := by
  intro hprocess
  rw [stunUsageIceConncheckProcess] at hprocess
  split at hprocess
  · cases hprocess
  · rcases h with h | h
    · rw [h] at hprocess
      cases hprocess
    · rw [h] at hprocess
      cases hprocess

/-- What is sent in a move, by whom it is asked for. -/
lemma Move.sent (hmove : Move env replies a b) (hrequests : RequestsSound env role₀ a)
    {msg : IceMessage} (h : SentBy b msg) :
    SentBy a msg ∨ msg.cls = .indication ∨ replies msg ∨ Asks env a msg := by
  rcases hmove.kept_or_insert with hkept | ⟨sid, pair, -, rfl⟩
  · rcases hkept.trace with heq | ⟨event, heq, -, hevent⟩
    · rw [SentBy, heq] at h
      exact .inl h
    · obtain ⟨sock, addr, hmem⟩ := h
      rw [heq, List.mem_append, List.mem_singleton] at hmem
      rcases hmem with hmem | hmem
      · exact .inl ⟨sock, addr, hmem⟩
      · rcases hevent sock addr msg hmem.symm with (hind | hreply) | ⟨hasks, -⟩ | ⟨s, p, hp, hmsg⟩
        · exact .inr (.inl hind)
        · exact .inr (.inr (.inl hreply))
        · exact .inr (.inr (.inr hasks))
        · exact .inl (hrequests.held s p hp msg hmsg).2
  · exact .inl h

lemma Asks.not_claims {msg : IceMessage} (h : Asks env a msg) (hmode : a.controllingMode = role) :
    ¬msg.Claims !role := by
  rintro ⟨q, hq⟩
  have := (h.role _ q hq).1
  rw [hmode] at this
  cases role <;> cases this

/-! ### The agent that yields -/

lemma Phase.move (hlists : CheckListsSound a) (hrequests : RequestsSound env role₀ a)
    (hreplies : ∀ msg, replies msg → msg.cls ≠ .request) (h : Phase a role)
    (hmove : Move env replies a b) : Phase b role := by
  have hkept := hmove.kept_or_insert
  cases h with
  | same hmode hpairs hclaims =>
      have hmodeb : b.controllingMode = role := by
        rcases hkept with hkept | ⟨sid, pair, -, rfl⟩
        · rw [hkept.mode, hmode]
        · exact hmode
      refine .same hmodeb (fun s p hp => ?_) fun msg hmsg hcls => ?_
      · rcases hkept with hkept | ⟨sid, pair, hmade, rfl⟩
        · rw [(hkept.check p).controlling]
          exact hpairs s p ((hkept.list s).subset hp)
        · rcases mem_withPair_list.mp hp with ⟨-, rfl⟩ | hp
          · rw [withPair_pair_self, hmade.controlling, hmode]
          · rw [withPair_pair_of_ne (hlists.used s p hp).ne]
            exact hpairs s p hp
      · rcases hmove.sent hrequests hmsg with hold | hind | hreply | hasks
        · exact hclaims msg hold hcls
        · rw [hind] at hcls
          cases hcls
        · exact absurd hcls (hreplies msg hreply)
        · exact hasks.not_claims hmode
  | opposite hmode hpairs =>
      rcases hkept with hkept | ⟨sid, pair, hmade, rfl⟩
      · refine .opposite (by rw [hkept.mode, hmode]) fun s p hp msg hmsg hclaims => ?_
        rw [(hkept.check p).controlling]
        rcases hkept.message p msg hmsg with hold | ⟨hasks, -, -⟩
        · exact hpairs s p ((hkept.list s).subset hp) msg hold hclaims
        · have hnot := hasks.not_claims hmode
          rw [Bool.not_not] at hnot
          exact absurd hclaims hnot
      · refine .opposite hmode fun s p hp msg hmsg hclaims => ?_
        rcases mem_withPair_list.mp hp with ⟨-, rfl⟩ | hp
        · rw [withPair_pair_self, hmade.stunMessage] at hmsg
          cases hmsg
        · rw [withPair_pair_of_ne (hlists.used s p hp).ne] at hmsg ⊢
          exact hpairs s p hp msg hmsg hclaims

/-- What a reply of the agent that yields is. -/
structure Yielding (N : Set IceMessage) (role mode : Bool) (msg : IceMessage) : Prop where
  cls : msg.cls ≠ .request
  process : stunUsageIceConncheckProcess msg ≠ .roleConflict
  accepted : Accepted N role mode msg

/-- **One move** of the agent that yields. -/
lemma Yields.move (henv : Set.InjOn env.transid (Set.Iio K)) {mode : Bool}
    (hreplies : ∀ msg, replies msg → Yielding N role mode msg)
    (h : Yields env role₀ role tie N a ∧ a.controllingMode = mode) (hmove : Move env replies a b)
    (hK : b.transids ≤ K) : Yields env role₀ role tie N b ∧ b.controllingMode = mode := by
  obtain ⟨h, rfl⟩ := h
  have hcls (msg : IceMessage) (hmsg : replies msg) : msg.cls ≠ .request := (hreplies msg hmsg).cls
  have hsame : b.controllingMode = a.controllingMode ∧ b.tieBreaker = a.tieBreaker := by
    rcases hmove.kept_or_insert with hkept | ⟨sid, pair, -, rfl⟩
    · exact ⟨hkept.mode, hkept.tie⟩
    · exact ⟨rfl, rfl⟩
  refine ⟨⟨hsame.2.trans h.tie, h.lists.move hmove, h.requests.move henv hK hcls h.lists hmove,
    h.phase.move h.lists h.requests hcls hmove, fun msg hmsg => ?_, fun msg hmsg => ?_⟩, hsame.1⟩
  · rcases hmove.sent h.requests hmsg with hold | hind | hreply | hasks
    · exact h.honest msg hold
    · exact request_process (.inr hind)
    · exact (hreplies msg hreply).process
    · exact request_process (.inl hasks.cls)
  · rw [hsame.1]
    rcases hmove.sent h.requests hmsg with hold | hind | hreply | hasks
    · exact h.accepted msg hold
    · intro hresponse
      rw [hind] at hresponse
      cases hresponse
    · exact (hreplies msg hreply).accepted
    · intro hresponse
      rw [hasks.cls] at hresponse
      cases hresponse

/-- The agent that yields takes the opposite role. -/
lemma Yields.switched (h : Yields env role₀ role tie N a) (hs : Switched a (!role) b) :
    Yields env role₀ role tie N b := by
  have hsent (msg : IceMessage) : SentBy b msg ↔ SentBy a msg := by
    simp [SentBy, hs.trace]
  have hphase : Phase b role := by
    refine .opposite hs.mode fun s p hp msg hmsg hclaims => ?_
    rw [hs.stream] at hp
    rw [hs.message] at hmsg
    rw [hs.controlling]
    cases h.phase with
    | same _ hpairs _ => exact hpairs s p hp
    | opposite _ hpairs => exact hpairs s p hp msg hmsg hclaims
  refine ⟨hs.tie.trans h.tie, h.lists.switched hs, h.requests.switched hs, hphase,
    fun msg hmsg => h.honest msg ((hsent msg).mp hmsg), fun msg hmsg hresponse => ?_⟩
  obtain ⟨req, hreq, hcls, hid, -⟩ := h.accepted msg ((hsent msg).mp hmsg) hresponse
  exact ⟨req, hreq, hcls, hid, fun _ => hs.mode⟩

/-- A 487 of the peer is for a check of a pair that was made in the role of the peer. -/
lemma Yields.refused (h : Yields env role₀ role tie N a)
    (hpeer : Holds env' role tie' {msg | SentBy a msg} b) {sid : StreamId} {resp : IceMessage}
    {p : PairId} (hresp : SentBy b resp) (hp : answeredCheck a sid resp = some p)
    (hprocess : stunUsageIceConncheckProcess resp = .roleConflict) :
    (a.pair p).controlling = role := by
  obtain ⟨req, hreq, hcls, hid, hclaims⟩ := hpeer.conflicts resp hresp hprocess
  obtain ⟨hlisted, msg, hmsg, hmid⟩ := answeredCheck_spec hp
  obtain ⟨hmcls, hmsent⟩ := h.requests.held sid p hlisted msg hmsg
  obtain rfl := h.requests.unique msg req hmsent hreq hmcls hcls (hmid.trans hid.symm)
  cases h.phase with
  | same _ hpairs _ => exact hpairs sid p hlisted
  | opposite _ hpairs => exact hpairs sid p hlisted msg hmsg hclaims

/-- **One event** of the agent that yields: it keeps its role, or takes the opposite one. -/
theorem Yields.next (henv : Set.InjOn env.transid (Set.Iio K)) (htie : tie < tie')
    (h : Yields env role₀ role tie N a) (hpeer : Holds env' role tie' {msg | SentBy a msg} b)
    (hN : N = {msg | SentBy b msg}) {event : AgentEvent} (hevent : Arrives N event)
    (hK : (agentNext env a event).transids ≤ K) :
    Yields env role₀ role tie N (agentNext env a event) ∧
      ((agentNext env a event).controllingMode = a.controllingMode ∨
        (agentNext env a event).controllingMode = !role) := by
  have hclaim {req : IceMessage} {control : Bool} {q : UInt64} (hreq : req ∈ N)
      (hcls : req.cls = .request) (hq : req.role control = some q) : control = role ∧ q = tie' := by
    rw [hN] at hreq
    refine ⟨?_, (hpeer.requests.tie req hreq hcls control q hq).trans hpeer.tie⟩
    by_contra hne
    obtain rfl : control = !role := by cases control <;> cases role <;> simp_all
    exact hpeer.claims req hreq hcls ⟨q, hq⟩
  have hnone {x y : NiceAgent} (hx : Yields env role₀ role tie N x)
      (hmoves : Moves env (fun _ => False) x y) (hK : y.transids ≤ K) :
      Yields env role₀ role tie N y ∧ y.controllingMode = x.controllingMode :=
    hmoves.invariant (fun _ _ => Yields.move henv fun _ hreply => hreply.elim) hK ⟨hx, rfl⟩
  cases event with
  | call call =>
      exact (hnone h (call.moves a) hK).imp_right .inl
  | request sid cid nicesock src req verdict =>
      have hreq (hvalid : verdict.valid = .success) : req ∈ N := hevent hvalid
      rcases inboundRequest_answered env a sid cid nicesock src req verdict with
        hmoves | ⟨hvalid, ⟨hcls, q, hq, -⟩, hmoves⟩
      · refine (hmoves.invariant (fun _ _ => Yields.move henv fun msg hreply => ?_) hK
          ⟨h, rfl⟩).imp_right .inl
        refine ⟨hreply.cls, fun hprocess => ?_, fun hresponse => ?_⟩
        · -- a 487 would say that the tie-breaker of the peer is no higher
          obtain ⟨hvalid, hcls, -, q, hq, hle⟩ := hreply.conflict hprocess
          obtain ⟨-, rfl⟩ := hclaim (hreq hvalid) hcls hq
          rw [h.tie] at hle
          exact absurd htie (UInt64.not_lt.mpr hle)
        · obtain ⟨hvalid, hcls, hid, hnot⟩ := hreply.accepted hresponse
          refine ⟨req, hreq hvalid, hcls, hid.symm, ?_⟩
          rintro ⟨q, hq⟩
          cases hmode : a.controllingMode <;> cases role <;> simp_all
      · obtain ⟨hmode, -⟩ := hclaim (hreq hvalid) hcls hq
        have hs := privCheckForRoleConflict_switched (a := a) (!role)
        have haccepts (msg : IceMessage) (hreply : Accepts req msg) : Yielding N role (!role) msg :=
          ⟨by simp [hreply.cls], response_process hreply.cls,
            fun _ => ⟨req, hreq hvalid, hcls, hreply.id.symm, fun _ => rfl⟩⟩
        rw [hmode] at hmoves
        obtain ⟨hy, hrole⟩ := hmoves.invariant (fun _ _ => Yields.move henv haccepts) hK
          ⟨h.switched hs, hs.mode⟩
        exact ⟨hy, .inr hrole⟩
  | response sid cid sockptr src l r resp =>
      rw [agentNext] at hK ⊢
      split at hK
      next y found hmap =>
        rcases mapReply_moves hmap with ⟨-, hmoves⟩ | ⟨p, hp, hprocess, hmoves⟩
        · exact (hnone h hmoves hK).imp_right .inl
        · have hresp : resp ∈ N := hevent
          rw [hN] at hresp
          rw [h.refused hpeer hresp hp hprocess] at hmoves
          have hs := privCheckForRoleConflict_switched (a := a) (!role)
          obtain ⟨hy, hrole⟩ := hnone (h.switched hs) hmoves hK
          exact ⟨hy, .inr (hrole.trans hs.mode)⟩
      · exact ⟨h, .inl rfl⟩

/-! ### The agent that holds -/

/-- What a reply of the agent that holds is. -/
structure Holding (M : Set IceMessage) (role : Bool) (msg : IceMessage) : Prop where
  cls : msg.cls ≠ .request
  conflict : stunUsageIceConncheckProcess msg = .roleConflict →
    ∃ req ∈ M, req.cls = .request ∧ req.id = msg.id ∧ req.Claims role
  accepted : msg.cls = .response →
    ∃ req ∈ M, req.cls = .request ∧ req.id = msg.id ∧ ¬req.Claims role

/-- **One move** of the agent that holds. -/
lemma Holds.move (henv : Set.InjOn env.transid (Set.Iio K))
    (hreplies : ∀ msg, replies msg → Holding M role msg) (h : Holds env role tie M a)
    (hmove : Move env replies a b) (hK : b.transids ≤ K) : Holds env role tie M b := by
  have hcls (msg : IceMessage) (hmsg : replies msg) : msg.cls ≠ .request := (hreplies msg hmsg).cls
  have hsame : b.controllingMode = a.controllingMode ∧ b.tieBreaker = a.tieBreaker := by
    rcases hmove.kept_or_insert with hkept | ⟨sid, pair, -, rfl⟩
    · exact ⟨hkept.mode, hkept.tie⟩
    · exact ⟨rfl, rfl⟩
  refine ⟨hsame.2.trans h.tie, hsame.1.trans h.mode, h.lists.move hmove,
    h.requests.move henv hK hcls h.lists hmove, fun msg hmsg hrequest => ?_, fun msg hmsg hprocess => ?_,
    fun msg hmsg hresponse => ?_⟩
  · rcases hmove.sent h.requests hmsg with hold | hind | hreply | hasks
    · exact h.claims msg hold hrequest
    · rw [hind] at hrequest
      cases hrequest
    · exact absurd hrequest (hcls msg hreply)
    · exact hasks.not_claims h.mode
  · rcases hmove.sent h.requests hmsg with hold | hind | hreply | hasks
    · exact h.conflicts msg hold hprocess
    · exact absurd hprocess (request_process (.inr hind))
    · exact (hreplies msg hreply).conflict hprocess
    · exact absurd hprocess (request_process (.inl hasks.cls))
  · rcases hmove.sent h.requests hmsg with hold | hind | hreply | hasks
    · exact h.accepted msg hold hresponse
    · rw [hind] at hresponse
      cases hresponse
    · exact (hreplies msg hreply).accepted hresponse
    · rw [hasks.cls] at hresponse
      cases hresponse

/-- **One event** of the agent that holds. -/
theorem Holds.next (henv : Set.InjOn env.transid (Set.Iio K)) (htie : tie' < tie)
    (h : Holds env role tie M a) (hpeer : Yields env' role₀ role tie' {msg | SentBy a msg} b)
    (hM : M = {msg | SentBy b msg}) {event : AgentEvent} (hevent : Arrives M event)
    (hK : (agentNext env a event).transids ≤ K) : Holds env role tie M (agentNext env a event) := by
  have hnone {x : NiceAgent} (hmoves : Moves env (fun _ => False) a x) (hK : x.transids ≤ K) :
      Holds env role tie M x :=
    hmoves.invariant (fun _ _ => Holds.move henv fun _ hreply => hreply.elim) hK h
  cases event with
  | call call => exact hnone (call.moves a) hK
  | request sid cid nicesock src req verdict =>
      have hreq (hvalid : verdict.valid = .success) : req ∈ M := hevent hvalid
      rcases inboundRequest_answered env a sid cid nicesock src req verdict with
        hmoves | ⟨hvalid, ⟨hcls, q, hq, hlt⟩, -⟩
      · refine hmoves.invariant (fun _ _ => Holds.move henv fun msg hreply => ?_) hK h
        refine ⟨hreply.cls, fun hprocess => ?_, fun hresponse => ?_⟩
        · obtain ⟨hvalid, hcls, hid, q, hq, -⟩ := hreply.conflict hprocess
          exact ⟨req, hreq hvalid, hcls, hid.symm, q, h.mode ▸ hq⟩
        · obtain ⟨hvalid, hcls, hid, hnot⟩ := hreply.accepted hresponse
          refine ⟨req, hreq hvalid, hcls, hid.symm, ?_⟩
          rintro ⟨q, hq⟩
          rw [h.mode, hq] at hnot
          cases hnot
      · -- no tie-breaker of the peer is higher
        have hsent := hreq hvalid
        rw [hM] at hsent
        rw [hpeer.requests.tie req hsent hcls _ q hq, hpeer.tie, h.tie] at hlt
        exact absurd (UInt64.lt_trans hlt htie) (UInt64.lt_irrefl _)
  | response sid cid sockptr src l r resp =>
      rw [agentNext] at hK ⊢
      split at hK
      next y found hmap =>
        rcases mapReply_moves hmap with ⟨-, hmoves⟩ | ⟨p, -, hprocess, -⟩
        · exact hnone hmoves hK
        · have hresp : resp ∈ M := hevent
          rw [hM] at hresp
          exact absurd hprocess (hpeer.honest resp hresp)
      · exact h

end Parties

/-! ### Sessions -/

/-- The start of a session: two agents that have sent nothing, the left one with the lower
tie-breaker. -/
structure Opens (x : NiceAgent × NiceAgent) : Prop where
  left : Fresh x.1
  right : Fresh x.2
  tie : x.1.tieBreaker < x.2.tieBreaker

section Sessions

variable {env env' : Env} {K K' : ℕ} {x y z : NiceAgent × NiceAgent}

lemma yields_monotone {role₀ role : Bool} {tie : UInt64} : Monotone (Yields env role₀ role tie) := by
  intro N N' hsub agent h
  refine ⟨h.tie, h.lists, h.requests, h.phase, h.honest, fun msg hmsg hresponse => ?_⟩
  obtain ⟨req, hreq, hrest⟩ := h.accepted msg hmsg hresponse
  exact ⟨req, hsub hreq, hrest⟩

lemma holds_monotone {role : Bool} {tie : UInt64} : Monotone (Holds env role tie) := by
  intro M M' hsub agent h
  refine ⟨h.tie, h.mode, h.lists, h.requests, h.claims, fun msg hmsg hprocess => ?_,
    fun msg hmsg hresponse => ?_⟩
  · obtain ⟨req, hreq, hrest⟩ := h.conflicts msg hmsg hprocess
    exact ⟨req, hsub hreq, hrest⟩
  · obtain ⟨req, hreq, hrest⟩ := h.accepted msg hmsg hresponse
    exact ⟨req, hsub hreq, hrest⟩

lemma Fresh.not_sent {agent : NiceAgent} (h : Fresh agent) (msg : IceMessage) :
    ¬SentBy agent msg := by
  simp [SentBy, h.trace]

lemma Fresh.yields {agent : NiceAgent} (h : Fresh agent) (role : Bool) (N : Set IceMessage) :
    Yields env agent.controllingMode role agent.tieBreaker N agent := by
  have hnone (s : StreamId) (p : PairId) : p ∉ (agent.stream s).conncheckList := by
    rw [h.list s]
    exact List.not_mem_nil
  have hphase : Phase agent role := by
    by_cases hrole : agent.controllingMode = role
    · exact .same hrole (fun s p hp => absurd hp (hnone s p))
        fun msg hmsg => absurd hmsg (h.not_sent msg)
    · refine .opposite ?_ fun s p hp => absurd hp (hnone s p)
      cases role <;> simpa using hrole
  exact ⟨rfl, h.checkListsSound, h.requestsSound, hphase, fun msg hmsg => absurd hmsg (h.not_sent msg),
    fun msg hmsg => absurd hmsg (h.not_sent msg)⟩

lemma Fresh.holds {agent : NiceAgent} (h : Fresh agent) (M : Set IceMessage) :
    Holds env agent.controllingMode agent.tieBreaker M agent :=
  ⟨rfl, rfl, h.checkListsSound, h.requestsSound, fun msg hmsg => absurd hmsg (h.not_sent msg),
    fun msg hmsg => absurd hmsg (h.not_sent msg), fun msg hmsg => absurd hmsg (h.not_sent msg)⟩

/-- **In every session** the one agent yields and the other one holds. -/
theorem session_invariant (henv : Set.InjOn env.transid (Set.Iio K))
    (henv' : Set.InjOn env'.transid (Set.Iio K')) (hx : Opens x)
    (hxy : Exchanges (agentParty env K) (agentParty env' K') x y) :
    Yields env x.1.controllingMode x.2.controllingMode x.1.tieBreaker {msg | SentBy y.2 msg} y.1 ∧
      Holds env' x.2.controllingMode x.2.tieBreaker {msg | SentBy y.1 msg} y.2 := by
  refine Exchanges.invariant yields_monotone holds_monotone (fun s t s' hs ht hstep => ?_)
    (fun s t t' hs ht hstep => ?_) hxy ⟨hx.left.yields _ _, hx.right.holds _⟩
  · obtain ⟨event, hevent, rfl, hK⟩ := hstep
    exact (hs.next henv hx.tie ht rfl hevent hK).1
  · obtain ⟨event, hevent, rfl, hK⟩ := hstep
    exact ht.next henv' hx.tie hs rfl hevent hK

/-- Once the roles are opposite, they stay so. -/
lemma session_opposite (henv : Set.InjOn env.transid (Set.Iio K))
    (henv' : Set.InjOn env'.transid (Set.Iio K')) (hx : Opens x)
    (hxy : Exchanges (agentParty env K) (agentParty env' K') x y)
    (hyz : Exchanges (agentParty env K) (agentParty env' K') y z)
    (hopposite : y.1.controllingMode = !y.2.controllingMode) :
    z.1.controllingMode = !z.2.controllingMode := by
  have hy := session_invariant henv henv' hx hxy
  have hI : Monotone fun N agent => Yields env x.1.controllingMode x.2.controllingMode
      x.1.tieBreaker N agent ∧ agent.controllingMode = !x.2.controllingMode :=
    fun N N' hsub agent h => ⟨yields_monotone hsub agent h.1, h.2⟩
  rw [hy.2.mode] at hopposite
  have hJ : Monotone (Holds env' x.2.controllingMode x.2.tieBreaker) := holds_monotone
  have hz := Exchanges.invariant hI hJ (fun s t s' hs ht hstep => ?_) (fun s t t' hs ht hstep => ?_) hyz
    ⟨⟨hy.1, hopposite⟩, hy.2⟩
  · rw [hz.1.2, hz.2.mode]
  · obtain ⟨event, hevent, rfl, hK⟩ := hstep
    obtain ⟨hnext, hmode⟩ := hs.1.next henv hx.tie ht rfl hevent hK
    exact ⟨hnext, hmode.elim (fun h => h.trans hs.2) id⟩
  · obtain ⟨event, hevent, rfl, hK⟩ := hstep
    exact ht.next henv' hx.tie hs.1 rfl hevent hK

/-- **Roles**: whatever the network does, the agent with the higher tie-breaker keeps its role, and
the other one changes its role only to the opposite, which it then keeps. -/
theorem role_agreement (henv : Set.InjOn env.transid (Set.Iio K))
    (henv' : Set.InjOn env'.transid (Set.Iio K')) (hx : Opens x)
    (hxy : Exchanges (agentParty env K) (agentParty env' K') x y)
    (hyz : Exchanges (agentParty env K) (agentParty env' K') y z) :
    z.2.controllingMode = x.2.controllingMode ∧
      (y.1.controllingMode ≠ y.2.controllingMode → z.1.controllingMode ≠ z.2.controllingMode) := by
  refine ⟨(session_invariant henv henv' hx (hxy.trans hyz)).2.mode, fun hne => ?_⟩
  have hopposite : y.1.controllingMode = !y.2.controllingMode := by
    cases hl : y.1.controllingMode <;> cases hr : y.2.controllingMode <;> simp_all
  rw [session_opposite henv henv' hx hxy hyz hopposite]
  cases z.2.controllingMode <;> simp

/-- **Checks**: when an agent has answered with a success a request of the other one that claims a
role, then the roles are opposite. -/
theorem answered_opposite (henv : Set.InjOn env.transid (Set.Iio K))
    (henv' : Set.InjOn env'.transid (Set.Iio K')) (hx : Opens x)
    (hxy : Exchanges (agentParty env K) (agentParty env' K') x y) {req reply : IceMessage}
    {control : Bool} (hreq : req.cls = .request) (hclaims : req.Claims control)
    (hreply : reply.cls = .response) (hid : reply.id = req.id)
    (hsent : SentBy y.2 req ∧ SentBy y.1 reply ∨ SentBy y.1 req ∧ SentBy y.2 reply) :
    y.1.controllingMode ≠ y.2.controllingMode := by
  obtain ⟨hyields, hholds⟩ := session_invariant henv henv' hx hxy
  have hopposite : y.1.controllingMode = !x.2.controllingMode := by
    rcases hsent with ⟨hsent, hanswer⟩ | ⟨hsent, hanswer⟩
    · obtain ⟨req', hreq', hcls', hid', hmode⟩ := hyields.accepted reply hanswer hreply
      obtain rfl := hholds.requests.unique req' req hreq' hsent hcls' hreq (hid'.trans hid)
      refine hmode ?_
      by_contra hnot
      obtain rfl : control = !x.2.controllingMode := by
        cases control <;> cases hr : x.2.controllingMode <;> simp_all
      exact hholds.claims req' hsent hreq hclaims
    · obtain ⟨req', hreq', hcls', hid', hnot⟩ := hholds.accepted reply hanswer hreply
      obtain rfl := hyields.requests.unique req' req hreq' hsent hcls' hreq (hid'.trans hid)
      obtain rfl : control = !x.2.controllingMode := by
        cases control <;> cases hr : x.2.controllingMode <;> simp_all
      cases hyields.phase with
      | same _ _ hnever => exact absurd hclaims (hnever req' hsent hreq)
      | opposite hmode _ => exact hmode
  rw [hopposite, hholds.mode]
  cases x.2.controllingMode <;> simp

/-- **Refusals**: a 487 that reaches the agent with the lower tie-breaker while the check that it is
for is outstanding makes the roles opposite. -/
theorem refused_opposite (henv : Set.InjOn env.transid (Set.Iio K))
    (henv' : Set.InjOn env'.transid (Set.Iio K')) (hx : Opens x)
    (hxy : Exchanges (agentParty env K) (agentParty env' K') x y) {sid : StreamId}
    {cid : ComponentId} {sockptr : NiceSocket} {src : NiceAddress} {l r : Option CandidateId}
    {resp : IceMessage} {b : NiceAgent} {found : Bool} {p : PairId} (hresp : SentBy y.2 resp)
    (hp : answeredCheck y.1 sid resp = some p)
    (hprocess : stunUsageIceConncheckProcess resp = .roleConflict)
    (hmap : privMapReplyToConnCheckRequest env y.1 sid cid sockptr src l r resp = .ok (b, found)) :
    b.controllingMode = !y.2.controllingMode := by
  obtain ⟨hyields, hholds⟩ := session_invariant henv henv' hx hxy
  have hmode {u v : NiceAgent} (hmoves : Moves env (fun _ => False) u v) :
      v.controllingMode = u.controllingMode := by
    refine hmoves.invariant (I := fun w => w.controllingMode = u.controllingMode)
      (fun c d hc hmove _ => ?_) le_rfl rfl
    rcases hmove.kept_or_insert with hkept | ⟨sid, pair, -, rfl⟩
    · exact hkept.mode.trans hc
    · exact hc
  rcases mapReply_moves hmap with ⟨hnot, -⟩ | ⟨q, hq, -, hmoves⟩
  · rcases hnot with hnot | hnot
    · rw [hp] at hnot
      cases hnot
    · exact absurd hprocess hnot
  · obtain rfl := Option.some.inj (hp.symm.trans hq)
    rw [hmode hmoves, hyields.refused hholds hresp hp hprocess,
      (privCheckForRoleConflict_switched _).mode, hholds.mode]

end Sessions

/-! ### A session -/

/-- Two controlling agents, of which the right one has the higher tie-breaker. -/
def conflictingAgents : NiceAgent × NiceAgent :=
  (twoRemotesAgent [51], { twoRemotesAgent [51] with tieBreaker := 1 })

/-- The left agent checks its first pair. -/
def checkingLeft : NiceAgent :=
  agentNext numberedEnv
    (agentNext numberedEnv conflictingAgents.1
      (.call (.scheduleTriggeredCheck 1 1 (hostSocket 1000) 1 false)))
    (.call (.tick fun _ => none))

/-- The check that the left agent sends in the given role, for the `n`-th time. -/
def leftCheck (n : ℕ) (control : Bool) : IceMessage :=
  { cls := .request, method := STUN_BINDING, id := numberedEnv.transid n, useCandidate := control
    priority := some 1845494271, iceControlling := if control then some 0 else none
    iceControlled := if control then none else some 0, username := some [98, 58, 97]
    candidateIdentifier := none, mappedAddress := none, errorCode := none, integrity := true }

/-- A valid request from the first remote candidate. -/
def validRequest (req : IceMessage) : AgentEvent :=
  .request 1 1 (hostSocket 1000) (hostAddress 2 1001) req ⟨.success, false, 0⟩

/-- The right agent refuses the first check. -/
def refusingRight : NiceAgent :=
  agentNext numberedEnv conflictingAgents.2 (validRequest (leftCheck 0 true))

/-- The left agent gets the 487, and checks the pair again. -/
def settledLeft : NiceAgent :=
  agentNext numberedEnv
    (agentNext numberedEnv checkingLeft
      (.response 1 1 (hostSocket 1000) (hostAddress 2 1001) (some 0) (some 1)
        (errorReply (leftCheck 0 true) STUN_ERROR_ROLE_CONFLICT)))
    (.call (.tick fun _ => none))

/-- The right agent accepts the second check. -/
def acceptingRight : NiceAgent :=
  agentNext numberedEnv refusingRight (validRequest (leftCheck 1 false))

lemma conflictingAgents_opens : Opens conflictingAgents :=
  ⟨⟨fun _ => rfl, rfl⟩, ⟨fun _ => rfl, rfl⟩, by decide⟩

/-- A step of the left agent. -/
lemma left_step {s s' t : NiceAgent} (event : AgentEvent) (h : Arrives {msg | SentBy t msg} event)
    (hnext : s' = agentNext numberedEnv s event) (hK : s'.transids ≤ 2) :
    Exchanges (agentParty numberedEnv 2) (agentParty numberedEnv 2) (s, t) (s', t) :=
  .single (.left ⟨event, h, hnext, hK⟩)

/-- A step of the right agent. -/
lemma right_step {s t t' : NiceAgent} (event : AgentEvent) (h : Arrives {msg | SentBy s msg} event)
    (hnext : t' = agentNext numberedEnv t event) (hK : t'.transids ≤ 2) :
    Exchanges (agentParty numberedEnv 2) (agentParty numberedEnv 2) (s, t) (s, t') :=
  .single (.right ⟨event, h, hnext, hK⟩)

lemma refusing_exchange : Exchanges (agentParty numberedEnv 2) (agentParty numberedEnv 2)
    conflictingAgents (checkingLeft, refusingRight) := by
  have hpaired := left_step (t := conflictingAgents.2)
    (.call (.scheduleTriggeredCheck 1 1 (hostSocket 1000) 1 false)) trivial
    (rfl : _ = agentNext numberedEnv conflictingAgents.1 _) (by decide +kernel)
  have hchecking : Exchanges (agentParty numberedEnv 2) (agentParty numberedEnv 2) _
      (checkingLeft, conflictingAgents.2) :=
    hpaired.trans (left_step (.call (.tick fun _ => none)) trivial rfl (by decide +kernel))
  exact hchecking.trans (right_step (validRequest (leftCheck 0 true))
    (fun _ => ⟨some (hostSocket 1000), hostAddress 2 1001, by decide +kernel⟩) rfl
    (by decide +kernel))

/-- The 487 is sent. -/
lemma refusal_sent :
    SentBy refusingRight (errorReply (leftCheck 0 true) STUN_ERROR_ROLE_CONFLICT) :=
  ⟨some (hostSocket 1000), hostAddress 2 1001, by decide +kernel⟩

lemma settled_exchange : Exchanges (agentParty numberedEnv 2) (agentParty numberedEnv 2)
    conflictingAgents (settledLeft, refusingRight) := by
  have hanswered := left_step (t := refusingRight)
    (.response 1 1 (hostSocket 1000) (hostAddress 2 1001) (some 0) (some 1)
      (errorReply (leftCheck 0 true) STUN_ERROR_ROLE_CONFLICT)) refusal_sent
    (rfl : _ = agentNext numberedEnv checkingLeft _) (by decide +kernel)
  exact refusing_exchange.trans (hanswered.trans
    (left_step (.call (.tick fun _ => none)) trivial rfl (by decide +kernel)))

lemma accepting_exchange : Exchanges (agentParty numberedEnv 2) (agentParty numberedEnv 2)
    (settledLeft, refusingRight) (settledLeft, acceptingRight) :=
  right_step (validRequest (leftCheck 1 false))
    (fun _ => ⟨some (hostSocket 1000), hostAddress 2 1001, by decide +kernel⟩) rfl
    (by decide +kernel)

/-- After the 487 the left agent is controlled, and stays so. -/
theorem role_agreement_sample : acceptingRight.controllingMode = true ∧
    settledLeft.controllingMode ≠ acceptingRight.controllingMode := by
  have h := role_agreement numberedEnv_injOn numberedEnv_injOn conflictingAgents_opens
    settled_exchange accepting_exchange
  exact ⟨h.1, h.2 (by decide +kernel)⟩

/-- The second check is answered with a success. -/
theorem answered_opposite_sample :
    settledLeft.controllingMode ≠ acceptingRight.controllingMode := by
  have hclaims : (leftCheck 1 false).Claims false := ⟨0, rfl⟩
  have hreq : SentBy settledLeft (leftCheck 1 false) :=
    ⟨some (hostSocket 1000), hostAddress 2 1001, by decide +kernel⟩
  have hreply : SentBy acceptingRight (successReply (leftCheck 1 false) (hostAddress 2 1001)) :=
    ⟨some (hostSocket 1000), hostAddress 2 1001, by decide +kernel⟩
  have hcls : (successReply (leftCheck 1 false) (hostAddress 2 1001)).cls = .response := rfl
  exact answered_opposite numberedEnv_injOn numberedEnv_injOn conflictingAgents_opens
    (settled_exchange.trans accepting_exchange) rfl hclaims hcls rfl (.inr ⟨hreq, hreply⟩)

/-- The 487 to the first check. -/
theorem refused_opposite_sample : ∃ b found,
    privMapReplyToConnCheckRequest numberedEnv checkingLeft 1 1 (hostSocket 1000)
      (hostAddress 2 1001) (some 0) (some 1)
      (errorReply (leftCheck 0 true) STUN_ERROR_ROLE_CONFLICT) = .ok (b, found) ∧
      b.controllingMode = !refusingRight.controllingMode := by
  have hok : (privMapReplyToConnCheckRequest numberedEnv checkingLeft 1 1 (hostSocket 1000)
      (hostAddress 2 1001) (some 0) (some 1)
      (errorReply (leftCheck 0 true) STUN_ERROR_ROLE_CONFLICT)).isOk = true := by decide +kernel
  cases hmap : privMapReplyToConnCheckRequest numberedEnv checkingLeft 1 1 (hostSocket 1000)
      (hostAddress 2 1001) (some 0) (some 1)
      (errorReply (leftCheck 0 true) STUN_ERROR_ROLE_CONFLICT) with
  | error fault =>
      rw [hmap] at hok
      cases hok
  | ok result =>
      obtain ⟨b, found⟩ := result
      refine ⟨b, found, rfl, ?_⟩
      exact refused_opposite (p := 0) numberedEnv_injOn numberedEnv_injOn conflictingAgents_opens
        refusing_exchange refusal_sent (by decide +kernel) (by decide) hmap

end LibNice.Ice
