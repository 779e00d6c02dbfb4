import LibNice.Ice.Types
import Mathlib.Data.List.Basic

/-!
The check lists of an agent, as `agent/conncheck.c` walks and changes them.

* `NiceAgent.setPair`, `NiceAgent.setPairState`: a store into one check pair.
* `agentFindStream`, `streamAllComponentsReady`: what is asked about streams.
* `ListsOwned`: the pairs of a check list belong to its stream.
* `Highest`, `maxFrozen`: the frozen pair of the highest priority of a check list.
-/

namespace LibNice.Ice

open LibNice.Foundation LibNice.Stun

/-! ### Stores -/

/-- A store of the pair `p`. -/
def NiceAgent.setPair (agent : NiceAgent) (p : PairId) (pair : CandidateCheckPair) : NiceAgent :=
  { agent with pair := Function.update agent.pair p pair }

/-- A store of the state of the pair `p`. -/
def NiceAgent.setPairState (agent : NiceAgent) (p : PairId) (state : NiceCheckState) : NiceAgent :=
  agent.setPair p { agent.pair p with state }

section Stores

variable {agent : NiceAgent} {p q : PairId} {pair : CandidateCheckPair} {state : NiceCheckState}

@[simp] lemma setPair_streams : (agent.setPair p pair).streams = agent.streams := rfl

@[simp] lemma setPair_stream : (agent.setPair p pair).stream = agent.stream := rfl

@[simp] lemma setPair_pair_self : (agent.setPair p pair).pair p = pair := by
  simp [NiceAgent.setPair]

lemma setPair_pair_of_ne (h : q ≠ p) : (agent.setPair p pair).pair q = agent.pair q := by
  simp [NiceAgent.setPair, h]

@[simp] lemma setPairState_streams : (agent.setPairState p state).streams = agent.streams := rfl

@[simp] lemma setPairState_stream : (agent.setPairState p state).stream = agent.stream := rfl

@[simp] lemma setPairState_state_self : ((agent.setPairState p state).pair p).state = state := by
  simp [NiceAgent.setPairState]

lemma setPairState_pair_of_ne (h : q ≠ p) :
    (agent.setPairState p state).pair q = agent.pair q :=
  setPair_pair_of_ne h

@[simp] lemma setPairState_foundation :
    ((agent.setPairState p state).pair q).foundation = (agent.pair q).foundation := by
  by_cases h : q = p
  · subst h
    simp [NiceAgent.setPairState]
  · rw [setPairState_pair_of_ne h]

@[simp] lemma setPairState_streamId :
    ((agent.setPairState p state).pair q).streamId = (agent.pair q).streamId := by
  by_cases h : q = p
  · subst h
    simp [NiceAgent.setPairState]
  · rw [setPairState_pair_of_ne h]

end Stores

/-- The pair is valid: its check has succeeded, or it was discovered by one. -/
def CandidateCheckPair.valid (pair : CandidateCheckPair) : Bool :=
  pair.state = .succeeded || pair.state = .discovered

/-! ### Streams -/

/-- `agent_find_stream`. -/
def agentFindStream (agent : NiceAgent) (sid : StreamId) : Option StreamId :=
  agent.streams.find? fun s => s = sid

/-- `stream_all_components_ready`. -/
def streamAllComponentsReady (stream : Stream) : Bool :=
  stream.components.all fun c =>
    (stream.component c).state = .connected || (stream.component c).state = .ready

lemma agentFindStream_of_mem {agent : NiceAgent} {sid : StreamId} (h : sid ∈ agent.streams) :
    agentFindStream agent sid = some sid := by
  rw [agentFindStream]
  cases hfind : agent.streams.find? fun s => s = sid with
  | none =>
      have hne := List.find?_eq_none.mp hfind sid h
      simp at hne
  | some s => simpa using List.find?_some hfind

/-- The ids of the streams differ, and the pairs of a check list are those of its stream, as
`priv_add_new_check_pair` makes them. -/
structure ListsOwned (agent : NiceAgent) : Prop where
  nodup : agent.streams.Nodup
  owner : ∀ sid ∈ agent.streams, ∀ p ∈ (agent.stream sid).conncheckList,
    (agent.pair p).streamId = sid

lemma ListsOwned.setPairState {agent : NiceAgent} (h : ListsOwned agent) (p : PairId)
    (state : NiceCheckState) : ListsOwned (agent.setPairState p state) :=
  ⟨h.nodup, fun sid hsid q hq => by simpa using h.owner sid hsid q hq⟩

/-! ### The frozen pair of the highest priority -/

/-- The first frozen pair of the highest priority in a check list, if that priority is positive. -/
structure Highest (agent : NiceAgent) (list : List PairId) (u : PairId) : Prop where
  frozen : (agent.pair u).state = .frozen
  pos : 0 < (agent.pair u).priority.toNat
  first : ∃ pre post, list = pre ++ u :: post ∧
    (∀ p ∈ pre, (agent.pair p).state = .frozen →
      (agent.pair p).priority.toNat < (agent.pair u).priority.toNat) ∧
    ∀ p ∈ post, (agent.pair p).state = .frozen →
      (agent.pair p).priority.toNat ≤ (agent.pair u).priority.toNat

lemma Highest.mem {agent : NiceAgent} {list : List PairId} {u : PairId}
    (h : Highest agent list u) : u ∈ list := by
  obtain ⟨pre, post, rfl, -⟩ := h.first
  simp

/-- There is one first pair of the highest priority. -/
lemma Highest.unique {agent : NiceAgent} {list : List PairId} {u v : PairId}
    (hu : Highest agent list u) (hv : Highest agent list v) : u = v := by
  obtain ⟨pre, post, rfl, hpre, hpost⟩ := hu.first
  obtain ⟨pre', post', hsplit, hpre', hpost'⟩ := hv.first
  rcases List.append_eq_append_iff.mp hsplit with ⟨mid, rfl, hmid⟩ | ⟨mid, rfl, hmid⟩
  · cases mid with
    | nil => exact (List.cons.inj hmid).1
    | cons w mid =>
        obtain ⟨rfl, rfl⟩ := List.cons.inj hmid
        have hlt := hpre' u (by simp) hu.frozen
        have hle := hpost v (by simp) hv.frozen
        omega
  · cases mid with
    | nil => exact (List.cons.inj hmid).1.symm
    | cons w mid =>
        obtain ⟨rfl, rfl⟩ := List.cons.inj hmid
        have hlt := hpre v (by simp) hv.frozen
        have hle := hpost' u (by simp) hu.frozen
        omega

/-- The inner loop of `priv_conn_check_unfreeze_next`: `max_frozen_priority` and `pair`. -/
def maxFrozen (agent : NiceAgent) (list : List PairId) : UInt64 × Option PairId :=
  list.foldl (fun best p =>
    if (agent.pair p).state = .frozen ∧ best.1 < (agent.pair p).priority then
      ((agent.pair p).priority, some p)
    else best) (0, none)

/-- What the loop has found in the pairs behind it. -/
inductive Found (agent : NiceAgent) (list : List PairId) : UInt64 × Option PairId → Prop where
  /-- No frozen pair with a priority. -/
  | nothing : (∀ p ∈ list, (agent.pair p).state = .frozen → (agent.pair p).priority.toNat = 0) →
      Found agent list (0, none)
  /-- The pair `u`. -/
  | best (u : PairId) : Highest agent list u → Found agent list ((agent.pair u).priority, some u)

/-- One round of the loop. -/
lemma Found.step {agent : NiceAgent} {list : List PairId} {best : UInt64 × Option PairId}
    (h : Found agent list best) (p : PairId) :
    Found agent (list ++ [p])
      (if (agent.pair p).state = .frozen ∧ best.1 < (agent.pair p).priority then
        ((agent.pair p).priority, some p)
      else best) := by
  cases h with
  | nothing hnone =>
      by_cases hp : (agent.pair p).state = .frozen ∧ (0 : UInt64) < (agent.pair p).priority
      · rw [if_pos hp]
        have hpos : 0 < (agent.pair p).priority.toNat := UInt64.lt_iff_toNat_lt.mp hp.2
        refine .best p ⟨hp.1, hpos, list, [], rfl, fun q hq hf => ?_, by simp⟩
        rw [hnone q hq hf]
        exact hpos
      · rw [if_neg hp]
        refine .nothing fun q hq hf => ?_
        rcases List.mem_append.mp hq with hq | hq
        · exact hnone q hq hf
        · obtain rfl := List.mem_singleton.mp hq
          have hzero : ¬(0 : UInt64) < (agent.pair q).priority := fun hlt => hp ⟨hf, hlt⟩
          rw [UInt64.lt_iff_toNat_lt] at hzero
          have h0 : (0 : UInt64).toNat = 0 := rfl
          omega
  | best u hu =>
      obtain ⟨hfrozen, hpos, pre, post, rfl, hpre, hpost⟩ := hu
      by_cases hp : (agent.pair p).state = .frozen ∧
          (agent.pair u).priority < (agent.pair p).priority
      · have hlt := UInt64.lt_iff_toNat_lt.mp hp.2
        rw [if_pos hp]
        refine .best p ⟨hp.1, by omega, pre ++ u :: post, [], by simp, fun q hq hf => ?_, by simp⟩
        rcases List.mem_append.mp hq with hq | hq
        · exact (hpre q hq hf).trans hlt
        · rcases List.mem_cons.mp hq with rfl | hq
          · exact hlt
          · exact (hpost q hq hf).trans_lt hlt
      · rw [if_neg hp]
        refine .best u ⟨hfrozen, hpos, pre, post ++ [p], by simp, hpre, fun q hq hf => ?_⟩
        rcases List.mem_append.mp hq with hq | hq
        · exact hpost q hq hf
        · obtain rfl := List.mem_singleton.mp hq
          by_contra hlt
          exact hp ⟨hf, UInt64.lt_iff_toNat_lt.mpr (by omega)⟩

/-- The loop finds the frozen pair of the highest priority. -/
lemma maxFrozen_found (agent : NiceAgent) (list : List PairId) :
    Found agent list (maxFrozen agent list) := by
  induction list using List.reverseRecOn with
  | nil => exact .nothing (by simp)
  | append_singleton list p ih =>
      rw [maxFrozen, List.foldl_append]
      exact ih.step p

lemma maxFrozen_eq_none {agent : NiceAgent} {list : List PairId}
    (h : (maxFrozen agent list).2 = none) :
    ∀ p ∈ list, (agent.pair p).state = .frozen → (agent.pair p).priority.toNat = 0 := by
  have hfound := maxFrozen_found agent list
  cases hbest : maxFrozen agent list with
  | mk best u =>
      rw [hbest] at hfound h
      cases hfound with
      | nothing hnone => exact hnone
      | best u hu => cases h

lemma maxFrozen_eq_some {agent : NiceAgent} {list : List PairId} {u : PairId}
    (h : (maxFrozen agent list).2 = some u) : Highest agent list u := by
  have hfound := maxFrozen_found agent list
  cases hbest : maxFrozen agent list with
  | mk best v =>
      rw [hbest] at hfound h
      cases hfound with
      | nothing => cases h
      | best v hv =>
          obtain rfl := Option.some.inj h
          exact hv

/-- A list without a frozen pair that has a priority has no such pair. -/
lemma maxFrozen_of_zero {agent : NiceAgent} {list : List PairId}
    (h : ∀ p ∈ list, (agent.pair p).state = .frozen → (agent.pair p).priority.toNat = 0) :
    (maxFrozen agent list).2 = none := by
  cases hbest : (maxFrozen agent list).2 with
  | none => rfl
  | some u =>
      have hu := maxFrozen_eq_some hbest
      have hpos := hu.pos
      have hzero := h u hu.mem hu.frozen
      omega

lemma maxFrozen_of_highest {agent : NiceAgent} {list : List PairId} {u : PairId}
    (h : Highest agent list u) : (maxFrozen agent list).2 = some u := by
  cases hbest : (maxFrozen agent list).2 with
  | none =>
      have hpos := h.pos
      have hzero := maxFrozen_eq_none hbest u h.mem h.frozen
      omega
  | some v => rw [(maxFrozen_eq_some hbest).unique h]

end LibNice.Ice
