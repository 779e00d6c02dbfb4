import LibNice.Foundation.Decimal
import LibNice.Ice.LocalFoundations

/-!
The foundations of remote candidates that are learned from checks (`agent/discovery.c`), next to
those that the peer signals (`agent/agent.c`).

* `privAddRemoteCandidate`: a signalled candidate.
* `remoteFoundation_injective`, `privHighestRemoteFoundation_spec`: the search for a free number.
* `sharesOrigin`, `learnedUnnamed`: what a foundation is copied for, and a learned candidate without
  one.
* `Learning`, `RemoteEvent`, `learnNext`: the agent and the candidates it has learned, and what
  happens to them.
* `RemoteEvent.Keeps`, `RemoteEvent.Fits`: what is asked of an event, and what it takes.
* `remoteFoundations_run_iff`: the one holds along a run just when the other does.
-/

namespace LibNice.Ice

open LibNice.Foundation LibNice.Stun

/-! ### Signalled candidates -/

/-- `component_find_remote_candidate`. -/
def componentFindRemoteCandidate (agent : NiceAgent) (component : Component) (addr : NiceAddress)
    (transport : NiceCandidateTransport) : Option CandidateId :=
  component.remoteCandidates.find? fun c =>
    (agent.candidate c).addr = addr && (agent.candidate c).transport = transport

/-- `g_strlcpy` into the foundation of a candidate. -/
def strlcpyFoundation (foundation : Bytes) : Bytes :=
  foundation.take (NICE_CANDIDATE_MAX_FOUNDATION - 1)

/-- An existing candidate with the signalled attributes. -/
def updatedCandidate (candidate : NiceCandidate) (type : NiceCandidateType)
    (baseAddr : NiceAddress) (priority : UInt32) (username password : Option Bytes)
    (foundation : Bytes) : NiceCandidate :=
  { candidate with
    type, baseAddr, priority
    foundation := strlcpyFoundation foundation
    username := username.or candidate.username
    password := password.or candidate.password }

/-- `priv_add_remote_candidate`. -/
def privAddRemoteCandidate (agent : NiceAgent) (sid : StreamId) (cid : ComponentId)
    (type : NiceCandidateType) (addr baseAddr : NiceAddress) (transport : NiceCandidateTransport)
    (priority : UInt32) (username password : Option Bytes) (foundation : Bytes) :
    NiceAgent × Bool :=
  match agentFindComponent agent sid cid with
  | none => (agent, false)
  | some sid =>
      let component := (agent.stream sid).component cid
      match componentFindRemoteCandidate agent component addr transport with
      | some c =>
          -- case 1: an existing candidate, update the attributes
          let candidate := updatedCandidate (agent.candidate c) type baseAddr priority username
            password foundation
          let agent := { agent with candidate := Function.update agent.candidate c candidate }
          ((connCheckAddForCandidate agent sid cid c).1, true)
      | none =>
          -- case 2: add a new candidate, unless it is a peer reflexive one
          if type = .peerReflexive then (agent, false)
          else
            let c := agent.nextCandidate
            let candidate := { niceCandidateNew type transport sid cid addr baseAddr none with
              priority, username, password, foundation := strlcpyFoundation foundation }
            let agent : NiceAgent := { agent with
              candidate := Function.update agent.candidate c candidate, nextCandidate := c + 1 }
            let agent := agent.setComponent sid cid
              { component with remoteCandidates := component.remoteCandidates ++ [c] }
            ((connCheckAddForCandidate agent sid cid c).1, true)

/-! ### The search for a number -/

/-- A remote candidate of the component has the foundation `remote-n`. -/
def Taken (agent : NiceAgent) (component : Component) (n : ℕ) : Prop :=
  ∃ c ∈ component.remoteCandidates, (agent.candidate c).foundation = remoteFoundation n

lemma ascii_toString (n : ℕ) : ascii (toString n) = decimal n := by
  rw [ascii, Nat.toString_eq_repr, Nat.toList_repr]
  rfl

lemma remoteFoundation_eq (n : ℕ) : remoteFoundation n = ascii "remote-" ++ decimal n := by
  rw [← ascii_toString, remoteFoundation, ascii, ascii, ascii, String.toList_append,
    List.map_append]

/-- Different numbers are different names. -/
lemma remoteFoundation_injective : Function.Injective remoteFoundation := fun m n h => by
  rw [remoteFoundation_eq, remoteFoundation_eq] at h
  exact decimal_injective (List.append_cancel_left h)

/-- **The search** finds the least number from 1 that the component has no candidate for. -/
theorem privHighestRemoteFoundation_spec (agent : NiceAgent) (component : Component) :
    1 ≤ privHighestRemoteFoundation agent component ∧
      ¬Taken agent component (privHighestRemoteFoundation agent component) ∧
      ∀ j, 1 ≤ j → j < privHighestRemoteFoundation agent component → Taken agent component j := by
  have htaken (n : ℕ) : (component.remoteCandidates.any fun c =>
      (agent.candidate c).foundation = remoteFoundation n) = true ↔ Taken agent component n := by
    rw [List.any_eq_true]
    simp [Taken]
  rw [privHighestRemoteFoundation]
  dsimp only
  set list := List.range' 1 (component.remoteCandidates.length + 1) with hlist
  cases hfind : list.find? fun n => !component.remoteCandidates.any fun c =>
      (agent.candidate c).foundation = remoteFoundation n with
  | none =>
      -- one number more than candidates: two of them would be taken by one candidate
      have hall : ∀ n ∈ list, Taken agent component n := fun n hn => by
        have hnot := List.find?_eq_none.mp hfind n hn
        rw [← htaken]
        simpa using hnot
      have hnodup : (list.map remoteFoundation).Nodup :=
        List.Nodup.map remoteFoundation_injective List.nodup_range'
      have hsub : list.map remoteFoundation ⊆
          component.remoteCandidates.map fun c => (agent.candidate c).foundation := by
        intro f hf
        obtain ⟨n, hn, rfl⟩ := List.mem_map.mp hf
        obtain ⟨c, hc, hname⟩ := hall n hn
        exact List.mem_map.mpr ⟨c, hc, hname⟩
      have hle := (hnodup.subperm hsub).length_le
      rw [List.length_map, List.length_map, hlist, List.length_range'] at hle
      omega
  | some n =>
      obtain ⟨hfree, hmem, hleast⟩ := List.find?_range'_eq_some.mp hfind
      rw [Option.getD_some, ← htaken]
      refine ⟨(List.mem_range'_1.mp hmem).1, by simpa using hfree, fun j hj hlt => ?_⟩
      have hnot := hleast j hj hlt
      rw [← htaken]
      simpa using hnot

/-- The number is known by what it is. -/
lemma privHighestRemoteFoundation_eq {agent : NiceAgent} {component : Component} {k : ℕ}
    (hk : 1 ≤ k) (hfree : ¬Taken agent component k)
    (hleast : ∀ j, 1 ≤ j → j < k → Taken agent component j) :
    privHighestRemoteFoundation agent component = k := by
  obtain ⟨hk', hfree', hleast'⟩ := privHighestRemoteFoundation_spec agent component
  rcases lt_trichotomy (privHighestRemoteFoundation agent component) k with hlt | heq | hgt
  · exact absurd (hleast _ hk' hlt) hfree'
  · exact heq
  · exact absurd (hleast' k hk hgt) hfree

/-! ### Learned candidates -/

/-- The test of `priv_assign_remote_foundation`. -/
def sharesOrigin (candidate n : NiceCandidate) : Bool :=
  candidate.type = n.type && candidate.transport = n.transport &&
    candidate.streamId = n.streamId && candidate.addr.equalNoPort n.addr

/-- The first remote candidate whose foundation a candidate copies. -/
def firstOrigin (agent : NiceAgent) (candidate : NiceCandidate) : Option CandidateId :=
  (allRemoteCandidates agent).find? fun n => sharesOrigin candidate (agent.candidate n)

/-- The stream whose component is searched for a free number: the last one that has a component with
the id. -/
def searchedStream (agent : NiceAgent) (cid : ComponentId) : Option StreamId :=
  (agent.streams.filter fun sid => cid ∈ (agent.stream sid).components).getLast?

/-- A candidate that is learned, without its foundation and its credentials. -/
def learnedUnnamed (agent : NiceAgent) (sid : StreamId) (cid : ComponentId) (priority : UInt32)
    (remoteAddress : NiceAddress) (nicesock : NiceSocket)
    (localCand remoteCand : Option CandidateId) : NiceCandidate :=
  let candidate := niceCandidateNew .peerReflexive
    (learnedTransport agent nicesock localCand remoteCand) sid cid remoteAddress remoteAddress
    (some nicesock)
  { candidate with
    priority :=
      if priority ≠ 0 then priority
      else candidatePriority agent.compatibility agent.reliable candidate false }

/-- An agent, and the candidates that it has learned from checks. -/
structure Learning where
  agent : NiceAgent
  learned : List CandidateId

/-- What happens to remote candidates: one is learned from a check, one is signalled, or anything
else, after which the agent is `agent`. -/
inductive RemoteEvent where
  | learn (env : Env) (sid : StreamId) (cid : ComponentId) (priority : UInt32)
      (remoteAddress : NiceAddress) (nicesock : NiceSocket)
      (localCand remoteCand : Option CandidateId)
  | signal (sid : StreamId) (cid : ComponentId) (type : NiceCandidateType)
      (addr baseAddr : NiceAddress) (transport : NiceCandidateTransport) (priority : UInt32)
      (username password : Option Bytes) (foundation : Bytes)
  | other (agent : NiceAgent)

/-- The agent after an event. -/
def learnNext (s : Learning) : RemoteEvent → Learning
  | .learn env sid cid priority remoteAddress nicesock loc remote =>
      let (agent, c) := discoveryLearnRemotePeerReflexiveCandidate env s.agent sid cid priority
        remoteAddress nicesock loc remote
      { agent, learned := s.learned ++ [c] }
  | .signal sid cid type addr baseAddr transport priority username password foundation =>
      { s with
        agent := (privAddRemoteCandidate s.agent sid cid type addr baseAddr transport priority
          username password foundation).1 }
  | .other agent => { s with agent }

/-- The remote candidates, as far as foundations are concerned, are what they were. -/
structure KeepsRemotes (a b : NiceAgent) : Prop where
  streams : b.streams = a.streams
  nComponents : ∀ s, (b.stream s).nComponents = (a.stream s).nComponents
  remoteCandidates : ∀ s c,
    ((b.stream s).component c).remoteCandidates = ((a.stream s).component c).remoteCandidates
  candidate : ∀ c ∈ allRemoteCandidates a, (b.candidate c).type = (a.candidate c).type ∧
    (b.candidate c).transport = (a.candidate c).transport ∧
    (b.candidate c).streamId = (a.candidate c).streamId ∧
    (b.candidate c).addr = (a.candidate c).addr ∧
    (b.candidate c).foundation = (a.candidate c).foundation
  nextCandidate : a.nextCandidate ≤ b.nextCandidate

/-- Checks come to components of the agent, and nothing but a check or the peer changes the remote
candidates. -/
def RemoteEvent.Possible (s : Learning) : RemoteEvent → Prop
  | .learn _ sid cid _ _ _ _ _ => sid ∈ s.agent.streams ∧ cid ∈ (s.agent.stream sid).components
  | .signal .. => True
  | .other agent => KeepsRemotes s.agent agent

/-- Two candidates have one transport and one IP. -/
def SameOrigin (a b : NiceCandidate) : Prop :=
  a.transport = b.transport ∧ a.addr.equalNoPort b.addr = true

/-- Learned candidates of a stream that are still peer reflexive have one foundation just when they
have one transport and one IP. -/
def LearnedExact (s : Learning) : Prop :=
  ∀ c ∈ s.learned, ∀ d ∈ s.learned, (s.agent.candidate c).type = .peerReflexive →
    (s.agent.candidate d).type = .peerReflexive →
    (s.agent.candidate c).streamId = (s.agent.candidate d).streamId →
    ((s.agent.candidate c).foundation = (s.agent.candidate d).foundation ↔
      SameOrigin (s.agent.candidate c) (s.agent.candidate d))

/-- The foundation of `candidate` is none of a remote candidate of its stream with another type,
transport or IP. -/
def NamedApart (agent : NiceAgent) (candidate : NiceCandidate) : Prop :=
  ∀ n ∈ allRemoteCandidates agent, (agent.candidate n).streamId = candidate.streamId →
    ¬(candidate.type = (agent.candidate n).type ∧ SameOrigin candidate (agent.candidate n)) →
    candidate.foundation ≠ (agent.candidate n).foundation

/-- What is asked of an event. -/
def RemoteEvent.Keeps (s : Learning) (e : RemoteEvent) : Prop :=
  LearnedExact (learnNext s e) ∧
    match e with
    | .learn .. => NamedApart s.agent ((learnNext s e).agent.candidate s.agent.nextCandidate)
    | _ => True

/-- The foundation that a candidate copies from `m` is that of the learned candidates of its origin,
and of no candidate of its stream with another one. -/
def CopyFits (s : Learning) (candidate : NiceCandidate) (m : CandidateId) : Prop :=
  (∀ n ∈ allRemoteCandidates s.agent, (s.agent.candidate n).streamId = candidate.streamId →
    sharesOrigin candidate (s.agent.candidate n) = false →
    (s.agent.candidate n).foundation ≠ (s.agent.candidate m).foundation) ∧
  ∀ n ∈ s.learned, sharesOrigin candidate (s.agent.candidate n) →
    (s.agent.candidate n).foundation = (s.agent.candidate m).foundation

/-- The least number that the searched component has no candidate for is no name in the stream
either. -/
def NameFits (agent : NiceAgent) (candidate : NiceCandidate) : Prop :=
  ∀ searched, searchedStream agent candidate.componentId = some searched →
    ∀ k, 1 ≤ k → ¬Taken agent ((agent.stream searched).component candidate.componentId) k →
      (∀ j, 1 ≤ j → j < k →
        Taken agent ((agent.stream searched).component candidate.componentId) j) →
      ∀ n ∈ allRemoteCandidates agent, (agent.candidate n).streamId = candidate.streamId →
        (agent.candidate n).foundation ≠ remoteFoundation k

/-- A learned candidate that is signalled as peer reflexive gets the foundation of the others of its
origin. -/
def UpdateFits (s : Learning) (c : CandidateId) (foundation : Bytes) : Prop :=
  c ∈ s.learned → ∀ d ∈ s.learned, d ≠ c → (s.agent.candidate d).type = .peerReflexive →
    (s.agent.candidate c).streamId = (s.agent.candidate d).streamId →
    (strlcpyFoundation foundation = (s.agent.candidate d).foundation ↔
      SameOrigin (s.agent.candidate c) (s.agent.candidate d))

/-- What it takes. -/
def RemoteEvent.Fits (s : Learning) : RemoteEvent → Prop
  | .learn _ sid cid priority remoteAddress nicesock loc remote =>
      let candidate :=
        learnedUnnamed s.agent sid cid priority remoteAddress nicesock loc remote
      match firstOrigin s.agent candidate with
      | some m => CopyFits s candidate m
      | none => NameFits s.agent candidate
  | .signal sid cid type addr _ transport _ _ _ foundation =>
      ∀ c, sid ∈ s.agent.streams → cid ∈ (s.agent.stream sid).components →
        componentFindRemoteCandidate s.agent ((s.agent.stream sid).component cid) addr transport =
          some c →
        type = .peerReflexive → UpdateFits s c foundation
  | .other _ => True

/-- What holds all along. -/
structure Learnt (s : Learning) : Prop where
  exact : LearnedExact s
  lists : ListsSound Component.remoteCandidates s.agent
  listed : ∀ c ∈ s.learned, c ∈ allRemoteCandidates s.agent

section Learned

variable {agent agent' : NiceAgent} {sid : StreamId} {cid : ComponentId} {c : CandidateId}
  {candidate m n : NiceCandidate}

lemma sharesOrigin_iff : sharesOrigin m n = true ↔
    m.type = n.type ∧ m.streamId = n.streamId ∧ SameOrigin m n := by
  simp only [sharesOrigin, SameOrigin, Bool.and_eq_true, decide_eq_true_eq]
  tauto

lemma sameOrigin_equivalence : Equivalence SameOrigin :=
  ⟨fun _ => ⟨rfl, equalNoPort_equivalence.refl _⟩,
    fun h => ⟨h.1.symm, equalNoPort_equivalence.symm h.2⟩,
    fun h h' => ⟨h.1.trans h'.1, equalNoPort_equivalence.trans h.2 h'.2⟩⟩

lemma searchedStream_isSome (hsid : sid ∈ agent.streams)
    (hcid : cid ∈ (agent.stream sid).components) : ∃ s, searchedStream agent cid = some s := by
  have hne : agent.streams.filter (fun s => cid ∈ (agent.stream s).components) ≠ [] :=
    List.ne_nil_of_mem (List.mem_filter.mpr ⟨hsid, by simpa using hcid⟩)
  exact ⟨_, List.getLast?_eq_some_getLast hne⟩

/-- **The foundation of a learned candidate** is copied from the first one of its origin, or it is
the first free name of the searched component. -/
lemma assignRemoteFoundation_eq (candidate : NiceCandidate) :
    (∃ c, firstOrigin agent candidate = some c ∧
      (privAssignRemoteFoundation agent candidate).foundation = (agent.candidate c).foundation) ∨
    (firstOrigin agent candidate = none ∧
      ∀ s, searchedStream agent candidate.componentId = some s →
        (privAssignRemoteFoundation agent candidate).foundation =
          remoteFoundation (privHighestRemoteFoundation agent
            ((agent.stream s).component candidate.componentId))) := by
  rw [privAssignRemoteFoundation]
  cases hfirst : firstOrigin agent candidate with
  | some c =>
      refine .inl ⟨c, rfl, ?_⟩
      rw [firstOrigin] at hfirst
      simp only [sharesOrigin] at hfirst
      rw [hfirst]
  | none =>
      refine .inr ⟨rfl, fun s hs => ?_⟩
      rw [firstOrigin] at hfirst
      simp only [sharesOrigin] at hfirst
      rw [searchedStream] at hs
      rw [hfirst]
      dsimp only
      rw [hs]

variable {env : Env} {priority : UInt32} {remoteAddress : NiceAddress} {nicesock : NiceSocket}
  {loc remote : Option CandidateId}

/-- What a learned candidate is. -/
lemma learnedCandidate_fields :
    let unnamed := learnedUnnamed agent sid cid priority remoteAddress nicesock loc remote
    let learned := learnedCandidate env agent sid cid priority remoteAddress nicesock loc remote
    learned.type = .peerReflexive ∧ learned.streamId = sid ∧
      SameOrigin learned unnamed ∧
      learned.foundation = (privAssignRemoteFoundation agent unnamed).foundation := by
  have hassign (c : NiceCandidate) : ∃ foundation username password,
      privAssignRemoteFoundation agent c = { c with foundation, username, password } := by
    rw [privAssignRemoteFoundation]
    split
    · exact ⟨_, _, _, rfl⟩
    · split
      · exact ⟨_, c.username, c.password, rfl⟩
      · exact ⟨c.foundation, c.username, c.password, rfl⟩
  obtain ⟨foundation, username, password, hnamed⟩ :=
    hassign (learnedUnnamed agent sid cid priority remoteAddress nicesock loc remote)
  have hlearned : learnedCandidate env agent sid cid priority remoteAddress nicesock loc remote =
      { privAssignRemoteFoundation agent
          (learnedUnnamed agent sid cid priority remoteAddress nicesock loc remote) with
        username := (learnedCredentials env agent (privAssignRemoteFoundation agent
          (learnedUnnamed agent sid cid priority remoteAddress nicesock loc remote)) loc remote).1
        password := (learnedCredentials env agent (privAssignRemoteFoundation agent
          (learnedUnnamed agent sid cid priority remoteAddress nicesock loc remote)) loc
            remote).2 } := rfl
  dsimp only
  rw [hlearned, hnamed]
  exact ⟨rfl, rfl, ⟨rfl, equalNoPort_equivalence.refl _⟩, rfl⟩

/-- A remote candidate more in the list of a component. -/
lemma appendRemote_listed (x : NiceAgent) (hx : ∃ trace, x = { NiceAgent.setComponent
      { agent with
        candidate := Function.update agent.candidate agent.nextCandidate candidate
        nextCandidate := agent.nextCandidate + 1 } sid cid
      { (agent.stream sid).component cid with
        remoteCandidates :=
          ((agent.stream sid).component cid).remoteCandidates ++ [agent.nextCandidate] } with
      trace }) : Listed Component.remoteCandidates agent x sid cid candidate := by
  obtain ⟨trace, rfl⟩ := hx
  refine ⟨rfl, fun s => ?_, fun s d => ?_, rfl, rfl, rfl⟩
  · rcases eq_or_ne s sid with rfl | hs
    · simp [NiceAgent.setComponent]
    · simp [NiceAgent.setComponent, hs]
  · rcases eq_or_ne s sid with rfl | hs
    · rcases eq_or_ne d cid with rfl | hd
      · simp [NiceAgent.setComponent]
      · simp [NiceAgent.setComponent, hd]
    · simp [NiceAgent.setComponent, hs]

lemma learn_listed :
    Listed Component.remoteCandidates agent
      (discoveryLearnRemotePeerReflexiveCandidate env agent sid cid priority remoteAddress nicesock
        loc remote).1 sid cid
      (learnedCandidate env agent sid cid priority remoteAddress nicesock loc remote) :=
  appendRemote_listed _ ⟨_, rfl⟩

end Learned

/-! ### One event -/

/-- The learned candidates of a stream that are still peer reflexive. -/
def learnedOf (s : Learning) (sid : StreamId) : Set NiceCandidate :=
  { n | ∃ c ∈ s.learned, s.agent.candidate c = n ∧ n.type = .peerReflexive ∧ n.streamId = sid }

section Events

variable {s : Learning} {agent agent' : NiceAgent} {sid : StreamId} {cid : ComponentId}
  {candidate : NiceCandidate}

lemma learnedExact_iff :
    LearnedExact s ↔ ∀ sid, Names SameOrigin NiceCandidate.foundation (learnedOf s sid) := by
  constructor
  · rintro h sid _ ⟨c, hc, rfl, htype, hstream⟩ _ ⟨d, hd, rfl, htype', hstream'⟩
    exact h c hc d hd htype htype' (hstream.trans hstream'.symm)
  · intro h c hc d hd htype htype' hstream
    exact h _ _ ⟨c, hc, rfl, htype, hstream⟩ _ ⟨d, hd, rfl, htype', rfl⟩

lemma Learnt.lt_next (h : Learnt s) {c : CandidateId} (hc : c ∈ s.learned) :
    c < s.agent.nextCandidate := h.lists.fresh c (h.listed c hc)

/-- The learned candidates with one more. -/
lemma Learnt.learnedOf_snoc (h : Learnt s)
    (hlisted : Listed Component.remoteCandidates s.agent agent' sid cid candidate)
    (htype : candidate.type = .peerReflexive) (hstream : candidate.streamId = sid) (t : StreamId) :
    learnedOf { agent := agent', learned := s.learned ++ [s.agent.nextCandidate] } t =
      if t = sid then insert candidate (learnedOf s t) else learnedOf s t := by
  ext n
  have hold {c : CandidateId} (hc : c ∈ s.learned) :
      agent'.candidate c = s.agent.candidate c := hlisted.candidate_of_lt (h.lt_next hc)
  constructor
  · rintro ⟨c, hc, rfl, hct, hcs⟩
    dsimp only at hct hcs ⊢
    rcases List.mem_append.mp hc with hc | hc
    · rw [hold hc] at hct hcs ⊢
      have hmem : s.agent.candidate c ∈ learnedOf s t := ⟨c, hc, rfl, hct, hcs⟩
      split_ifs
      · exact .inr hmem
      · exact hmem
    · rw [List.mem_singleton.mp hc, hlisted.candidate_new] at hcs ⊢
      rw [if_pos (hcs.symm.trans hstream)]
      exact .inl rfl
  · intro hn
    have hmem (hn : n ∈ learnedOf s t) : n ∈ learnedOf
        { agent := agent', learned := s.learned ++ [s.agent.nextCandidate] } t := by
      obtain ⟨c, hc, rfl, hct, hcs⟩ := hn
      exact ⟨c, List.mem_append_left _ hc, hold hc, hct, hcs⟩
    split_ifs at hn with ht
    · rcases hn with rfl | hn
      · exact ⟨_, List.mem_append_right _ List.mem_cons_self, hlisted.candidate_new, htype,
          hstream.trans ht.symm⟩
      · exact hmem hn
    · exact hmem hn

/-- **A candidate more is named right** among the learned ones. -/
lemma Learnt.learnedExact_snoc (h : Learnt s)
    (hlisted : Listed Component.remoteCandidates s.agent agent' sid cid candidate)
    (htype : candidate.type = .peerReflexive) (hstream : candidate.streamId = sid) :
    LearnedExact { agent := agent', learned := s.learned ++ [s.agent.nextCandidate] } ↔
      ∀ a ∈ learnedOf s sid, candidate.foundation = a.foundation ↔ SameOrigin candidate a := by
  have hexact := learnedExact_iff.mp h.exact
  rw [learnedExact_iff]
  constructor
  · intro hafter
    have hsid := hafter sid
    rw [h.learnedOf_snoc hlisted htype hstream, if_pos rfl] at hsid
    exact (Names.insert_iff sameOrigin_equivalence (hexact sid)).mp hsid
  · intro hnew t
    rw [h.learnedOf_snoc hlisted htype hstream]
    split_ifs with ht
    · subst ht
      exact (Names.insert_iff sameOrigin_equivalence (hexact t)).mpr hnew
    · exact hexact t

/-- **A learned candidate** keeps what is asked just when its name fits. -/
lemma Learnt.learn_iff (h : Learnt s) (env : Env) (hsid : sid ∈ s.agent.streams)
    (hcid : cid ∈ (s.agent.stream sid).components) (priority : UInt32)
    (remoteAddress : NiceAddress) (nicesock : NiceSocket) (loc remote : Option CandidateId) :
    let e := RemoteEvent.learn env sid cid priority remoteAddress nicesock loc remote
    e.Keeps s ↔ e.Fits s := by
  set unnamed := learnedUnnamed s.agent sid cid priority remoteAddress nicesock loc remote
    with hunnamed
  set learned := learnedCandidate env s.agent sid cid priority remoteAddress nicesock loc remote
    with hlearned
  obtain ⟨htype, hstream, horigin, hfoundation⟩ := @learnedCandidate_fields s.agent sid cid env
    priority remoteAddress nicesock loc remote
  rw [← hlearned] at htype hstream horigin hfoundation
  rw [← hunnamed] at horigin hfoundation
  have hlisted := @learn_listed s.agent sid cid env priority remoteAddress nicesock loc remote
  rw [← hlearned] at hlisted
  have hutype : unnamed.type = .peerReflexive := rfl
  have hustream : unnamed.streamId = sid := rfl
  -- the test of the search, for a candidate of the stream
  have hshares {n : NiceCandidate} (hn : n.streamId = sid) :
      sharesOrigin unnamed n = true ↔ learned.type = n.type ∧ SameOrigin learned n := by
    rw [sharesOrigin_iff, hutype, hustream, htype]
    exact ⟨fun hs => ⟨hs.1, sameOrigin_equivalence.trans horigin hs.2.2⟩, fun hs => ⟨hs.1, hn.symm,
      sameOrigin_equivalence.trans (sameOrigin_equivalence.symm horigin) hs.2⟩⟩
  have happly : (RemoteEvent.learn env sid cid priority remoteAddress nicesock loc remote).Keeps s ↔
      (∀ a ∈ learnedOf s sid, learned.foundation = a.foundation ↔ SameOrigin learned a) ∧
        NamedApart s.agent learned := by
    rw [RemoteEvent.Keeps, ← h.learnedExact_snoc hlisted htype hstream]
    have hnew : (learnNext s (.learn env sid cid priority remoteAddress nicesock loc
        remote)).agent.candidate s.agent.nextCandidate = learned := hlisted.candidate_new
    rw [hnew]
    exact Iff.rfl
  have hmem {a : NiceCandidate} (ha : a ∈ learnedOf s sid) : ∃ c ∈ s.learned,
      c ∈ allRemoteCandidates s.agent ∧ s.agent.candidate c = a ∧ a.type = .peerReflexive ∧
        a.streamId = sid := by
    obtain ⟨c, hc, hca, hat, has⟩ := ha
    exact ⟨c, hc, h.listed c hc, hca, hat, has⟩
  dsimp only
  rw [happly]
  rcases @assignRemoteFoundation_eq s.agent unnamed with ⟨m, hm, hname⟩ | ⟨hnone, hname⟩
  · -- the foundation of `m`
    have hfits : (RemoteEvent.learn env sid cid priority remoteAddress nicesock loc remote).Fits s ↔
        CopyFits s unnamed m := by
      rw [RemoteEvent.Fits, ← hunnamed]
      rw [hm]
    rw [hfits, CopyFits, NamedApart, hfoundation, hname, hstream, hustream]
    constructor
    · rintro ⟨hexact, hapart⟩
      refine ⟨fun n hn hns hnot => (hapart n hn hns fun hs => ?_).symm, fun n hn hs => ?_⟩
      · rw [(hshares hns).mpr hs] at hnot
        cases hnot
      · have hns : (s.agent.candidate n).streamId = sid :=
          (sharesOrigin_iff.mp hs).2.1.symm.trans hustream
        obtain ⟨hnt, hno⟩ := (hshares hns).mp hs
        exact ((hexact _ ⟨n, hn, rfl, hnt.symm.trans htype, hns⟩).mpr hno).symm
    · rintro ⟨hother, hsame⟩
      refine ⟨fun a ha => ?_, fun n hn hns hnot => ?_⟩
      · obtain ⟨c, hc, hall, rfl, hat, has⟩ := hmem ha
        constructor
        · intro hf
          by_contra hno
          have hnot : sharesOrigin unnamed (s.agent.candidate c) = false := by
            rw [← Bool.not_eq_true, hshares has]
            exact fun hs => hno hs.2
          exact hother c hall has hnot hf.symm
        · exact fun hno => (hsame c hc ((hshares has).mpr ⟨htype.trans hat.symm, hno⟩)).symm
      · have hnot : sharesOrigin unnamed (s.agent.candidate n) = false := by
          rw [← Bool.not_eq_true, hshares hns]
          exact hnot
        exact (hother n hn hns hnot).symm
  · -- a name of its own
    have hfits : (RemoteEvent.learn env sid cid priority remoteAddress nicesock loc remote).Fits s ↔
        NameFits s.agent unnamed := by
      rw [RemoteEvent.Fits, ← hunnamed]
      rw [hnone]
    obtain ⟨t, ht⟩ := searchedStream_isSome hsid hcid
    have hname := hname t ht
    obtain ⟨hk, hfree, hleast⟩ := privHighestRemoteFoundation_spec s.agent
      ((s.agent.stream t).component unnamed.componentId)
    set k := privHighestRemoteFoundation s.agent
      ((s.agent.stream t).component unnamed.componentId) with hkdef
    have hno : ∀ n ∈ allRemoteCandidates s.agent, (s.agent.candidate n).streamId = sid →
        ¬(learned.type = (s.agent.candidate n).type ∧
          SameOrigin learned (s.agent.candidate n)) := fun n hn hns hs =>
      List.find?_eq_none.mp hnone n hn ((hshares hns).mpr hs)
    rw [hfits, NamedApart, hfoundation, hname, hstream]
    constructor
    · rintro ⟨-, hapart⟩ t' ht' k' hk' hfree' hleast' n hn hns
      obtain rfl : t = t' := Option.some.inj (ht.symm.trans ht')
      have heq : k = k' := privHighestRemoteFoundation_eq hk' hfree' hleast'
      rw [← heq]
      exact (hapart n hn hns (hno n hn hns)).symm
    · intro hfits
      have hfresh := hfits t ht k hk hfree hleast
      refine ⟨fun a ha => ?_, fun n hn hns _ => (hfresh n hn hns).symm⟩
      obtain ⟨c, hc, hall, rfl, hat, has⟩ := hmem ha
      exact ⟨fun hf => absurd hf.symm (hfresh c hall has),
        fun hs => absurd ⟨htype.trans hat.symm, hs⟩ (hno c hall has)⟩

/-- The lists are as sound after it. -/
lemma Learnt.learn (h : Learnt s) {env : Env} (hsid : sid ∈ s.agent.streams)
    (hcid : cid ∈ (s.agent.stream sid).components) {priority : UInt32}
    {remoteAddress : NiceAddress} {nicesock : NiceSocket} {loc remote : Option CandidateId}
    (hkeeps : (RemoteEvent.learn env sid cid priority remoteAddress nicesock loc remote).Keeps s) :
    Learnt (learnNext s
      (.learn env sid cid priority remoteAddress nicesock loc remote)) := by
  have hlisted := @learn_listed s.agent sid cid env priority remoteAddress nicesock loc remote
  obtain ⟨-, hstream, -, -⟩ := @learnedCandidate_fields s.agent sid cid env priority remoteAddress
    nicesock loc remote
  refine ⟨hkeeps.1, hlisted.sound hsid hcid h.lists hstream, fun c hc => ?_⟩
  refine (hlisted.mem_iff hsid hcid).mpr ?_
  rcases List.mem_append.mp hc with hc | hc
  · exact .inl (h.listed c hc)
  · exact .inr (List.mem_singleton.mp hc)

/-! ### A signalled candidate -/

/-- What a signalled candidate comes to: nothing, a candidate of the component that has new
attributes, or a candidate more in its list. -/
inductive Signalled (agent : NiceAgent) (sid : StreamId) (cid : ComponentId)
    (type : NiceCandidateType) (addr : NiceAddress) (transport : NiceCandidateTransport)
    (foundation : Bytes) (agent' : NiceAgent) : Prop where
  | nothing :
      (sid ∈ agent.streams → cid ∈ (agent.stream sid).components →
        componentFindRemoteCandidate agent ((agent.stream sid).component cid) addr transport =
          none) →
      agent' = agent →
      Signalled agent sid cid type addr transport foundation agent'
  | updated (c : CandidateId) (candidate : NiceCandidate) (middle : NiceAgent) :
      sid ∈ agent.streams → cid ∈ (agent.stream sid).components →
      componentFindRemoteCandidate agent ((agent.stream sid).component cid) addr transport =
        some c →
      candidate.type = type → candidate.transport = (agent.candidate c).transport →
      candidate.streamId = (agent.candidate c).streamId →
      candidate.addr = (agent.candidate c).addr →
      candidate.foundation = strlcpyFoundation foundation →
      middle = { agent with candidate := Function.update agent.candidate c candidate } →
      KeepsCandidates middle agent' →
      Signalled agent sid cid type addr transport foundation agent'
  | added (candidate : NiceCandidate) :
      sid ∈ agent.streams → cid ∈ (agent.stream sid).components →
      componentFindRemoteCandidate agent ((agent.stream sid).component cid) addr transport =
        none →
      candidate.type = type → type ≠ .peerReflexive → candidate.streamId = sid →
      Listed Component.remoteCandidates agent agent' sid cid candidate →
      Signalled agent sid cid type addr transport foundation agent'

lemma addRemoteCandidate_signalled (type : NiceCandidateType) (addr baseAddr : NiceAddress)
    (transport : NiceCandidateTransport) (priority : UInt32) (username password : Option Bytes)
    (foundation : Bytes) :
    Signalled agent sid cid type addr transport foundation
      (privAddRemoteCandidate agent sid cid type addr baseAddr transport priority username password
        foundation).1 := by
  rw [privAddRemoteCandidate]
  cases hfind : agentFindComponent agent sid cid with
  | none =>
      refine .nothing (fun hsid hcid => ?_) rfl
      rw [agentFindComponent_of_mem hsid hcid] at hfind
      cases hfind
  | some t =>
      obtain ⟨hstream, hcid⟩ := Option.filter_eq_some_iff.mp hfind
      have ht : t = sid := by simpa using List.find?_some hstream
      subst ht
      have hsid : t ∈ agent.streams := List.mem_of_find?_eq_some hstream
      have hcid : cid ∈ (agent.stream t).components := by simpa using hcid
      dsimp only
      cases hremote : componentFindRemoteCandidate agent ((agent.stream t).component cid) addr
          transport with
      | some c =>
          exact .updated c (updatedCandidate (agent.candidate c) type baseAddr priority username
            password foundation) _ hsid hcid hremote rfl rfl rfl rfl rfl rfl
            (connCheckAddForCandidate_keeps c)
      | none =>
          dsimp only
          split_ifs with htype
          · exact .nothing (fun _ _ => hremote) rfl
          · refine .added _ hsid hcid hremote rfl htype rfl
              ((appendRemote_listed _ ⟨_, rfl⟩).keeps (connCheckAddForCandidate_keeps _)
                fun s d => (connCheckAddForCandidate_keeps _).remoteCandidates s d)

/-- The learned candidates are named as they were where nothing that matters has changed. -/
lemma learnedExact_congr {agent : NiceAgent}
    (h : ∀ c ∈ s.learned, (agent.candidate c).type = (s.agent.candidate c).type ∧
      (agent.candidate c).transport = (s.agent.candidate c).transport ∧
      (agent.candidate c).streamId = (s.agent.candidate c).streamId ∧
      (agent.candidate c).addr = (s.agent.candidate c).addr ∧
      (agent.candidate c).foundation = (s.agent.candidate c).foundation) :
    LearnedExact { s with agent } ↔ LearnedExact s := by
  refine forall₂_congr fun c hc => forall₂_congr fun d hd => ?_
  obtain ⟨htype, htransport, hstream, haddr, hfoundation⟩ := h c hc
  obtain ⟨htype', htransport', hstream', haddr', hfoundation'⟩ := h d hd
  simp only [SameOrigin, htype, htransport, hstream, haddr, hfoundation, htype', htransport',
    hstream', haddr', hfoundation']

/-- A learned candidate with new attributes. -/
lemma Learnt.updated_iff (h : Learnt s) {c : CandidateId}
    (htransport : candidate.transport = (s.agent.candidate c).transport)
    (hstream : candidate.streamId = (s.agent.candidate c).streamId)
    (haddr : candidate.addr = (s.agent.candidate c).addr) {agent : NiceAgent}
    (hagent : agent.candidate = Function.update s.agent.candidate c candidate) :
    LearnedExact { s with agent } ↔ (candidate.type = .peerReflexive → c ∈ s.learned →
      ∀ d ∈ s.learned, d ≠ c → (s.agent.candidate d).type = .peerReflexive →
        (s.agent.candidate c).streamId = (s.agent.candidate d).streamId →
        (candidate.foundation = (s.agent.candidate d).foundation ↔
          SameOrigin (s.agent.candidate c) (s.agent.candidate d))) := by
  have hself : agent.candidate c = candidate := by rw [hagent, Function.update_self]
  have hother {d : CandidateId} (hd : d ≠ c) : agent.candidate d = s.agent.candidate d := by
    rw [hagent, Function.update_of_ne hd]
  have horigin (n : NiceCandidate) :
      SameOrigin candidate n ↔ SameOrigin (s.agent.candidate c) n := by
    rw [SameOrigin, SameOrigin, htransport, haddr]
  constructor
  · intro hafter htype hc d hd hne hdt hds
    have hiff := hafter c hc d hd
    dsimp only at hiff
    rw [hself, hother hne, horigin] at hiff
    exact hiff htype hdt (hstream.trans hds)
  · intro hfits a ha b hb hat hbt hstreams
    dsimp only at hat hbt hstreams ⊢
    by_cases hac : a = c <;> by_cases hbc : b = c
    · rw [hac, hbc]
      exact ⟨fun _ => sameOrigin_equivalence.refl _, fun _ => rfl⟩
    · subst hac
      rw [hself] at hat hstreams ⊢
      rw [hother hbc] at hbt hstreams ⊢
      rw [horigin]
      exact hfits hat ha b hb hbc hbt (hstream.symm.trans hstreams)
    · subst hbc
      rw [hself] at hbt hstreams ⊢
      rw [hother hac] at hat hstreams ⊢
      have hiff := hfits hbt hb a ha hac hat (hstream.symm.trans hstreams.symm)
      rw [eq_comm, hiff, ← horigin]
      exact ⟨sameOrigin_equivalence.symm, sameOrigin_equivalence.symm⟩
    · rw [hother hac] at hat hstreams ⊢
      rw [hother hbc] at hbt hstreams ⊢
      exact h.exact a ha b hb hat hbt hstreams

/-- **The invariant where the lists stay**: a candidate may have other attributes. -/
lemma Learnt.keeps (h : Learnt s) {agent : NiceAgent} (hexact : LearnedExact { s with agent })
    (hstreams : agent.streams = s.agent.streams)
    (hcomponents : ∀ t, (agent.stream t).nComponents = (s.agent.stream t).nComponents)
    (hlists : ∀ t d, ((agent.stream t).component d).remoteCandidates =
      ((s.agent.stream t).component d).remoteCandidates)
    (howner : ∀ c ∈ allRemoteCandidates s.agent,
      (agent.candidate c).streamId = (s.agent.candidate c).streamId)
    (hnext : s.agent.nextCandidate ≤ agent.nextCandidate) : Learnt { s with agent } := by
  have hall : allRemoteCandidates agent = allRemoteCandidates s.agent := by
    simp only [allRemoteCandidates, Stream.components, hstreams, hcomponents, hlists]
  refine ⟨hexact, ⟨fun c hc => ?_, fun t ht d hd c hc => ?_⟩, fun c hc => ?_⟩
  · change c ∈ allRemoteCandidates agent at hc
    rw [hall] at hc
    exact (h.lists.fresh c hc).trans_le hnext
  · dsimp only at ht hd hc ⊢
    rw [hstreams] at ht
    rw [Stream.components, hcomponents] at hd
    rw [hlists] at hc
    rw [howner c (mem_listedIn.mpr ⟨t, ht, d, hd, hc⟩)]
    exact h.lists.owner t ht d hd c hc
  · change c ∈ allRemoteCandidates agent
    rw [hall]
    exact h.listed c hc

/-- **A signalled candidate** keeps what is asked just when its foundation fits. -/
lemma Learnt.signal (h : Learnt s) (type : NiceCandidateType) (addr baseAddr : NiceAddress)
    (transport : NiceCandidateTransport) (priority : UInt32) (username password : Option Bytes)
    (foundation : Bytes) :
    let e := RemoteEvent.signal sid cid type addr baseAddr transport priority username password
      foundation
    (e.Keeps s ↔ e.Fits s) ∧ (e.Keeps s → Learnt (learnNext s e)) := by
  set agent' := (privAddRemoteCandidate s.agent sid cid type addr baseAddr transport priority
    username password foundation).1 with hagent'
  have hkeeps : (RemoteEvent.signal sid cid type addr baseAddr transport priority username password
      foundation).Keeps s ↔ LearnedExact { s with agent := agent' } :=
    and_iff_left trivial
  have hnext : learnNext s (.signal sid cid type addr baseAddr transport priority username password
      foundation) = { s with agent := agent' } := rfl
  dsimp only
  rw [hkeeps, hnext, RemoteEvent.Fits]
  cases @addRemoteCandidate_signalled s.agent sid cid type addr baseAddr transport priority username
      password foundation with
  | nothing hnone heq =>
      rw [← hagent'] at heq
      rw [heq]
      refine ⟨⟨fun _ c hsid hcid hc => ?_, fun _ => h.exact⟩, fun _ => h⟩
      rw [hnone hsid hcid] at hc
      cases hc
  | updated c candidate middle hsid hcid hc htype htransport hstream haddr hfoundation hmiddle
      hrest =>
      rw [← hagent'] at hrest
      subst hmiddle
      have hiff := h.updated_iff htransport hstream haddr hrest.candidate
      refine ⟨?_, fun hexact => ?_⟩
      · rw [hiff, htype, hfoundation]
        constructor
        · intro hfits c' _ _ hc' ht
          obtain rfl := Option.some.inj (hc.symm.trans hc')
          exact hfits ht
        · exact fun hfits ht => hfits c hsid hcid hc ht
      · refine h.keeps hexact hrest.streams hrest.nComponents hrest.remoteCandidates
          (fun d _ => ?_) hrest.nextCandidate.ge
        rw [hrest.candidate]
        dsimp only
        rcases eq_or_ne d c with rfl | hd
        · rw [Function.update_self, hstream]
        · rw [Function.update_of_ne hd]
  | added candidate hsid hcid hc htype hpeer hstream hlisted =>
      rw [← hagent'] at hlisted
      have hexact : LearnedExact { s with agent := agent' } :=
        (learnedExact_congr fun c hc => by
          rw [hlisted.candidate_of_lt (h.lt_next hc)]
          exact ⟨rfl, rfl, rfl, rfl, rfl⟩).mpr h.exact
      refine ⟨⟨fun _ c _ _ _ ht => absurd ht hpeer, fun _ => hexact⟩, fun _ => ⟨hexact,
        hlisted.sound hsid hcid h.lists hstream, fun c hc => ?_⟩⟩
      exact (hlisted.mem_iff hsid hcid).mpr (.inl (h.listed c hc))

/-- **What one event does** to the foundations of learned candidates. -/
theorem Learnt.event (h : Learnt s) (e : RemoteEvent) (hposs : e.Possible s) :
    (e.Keeps s ↔ e.Fits s) ∧ (e.Keeps s → Learnt (learnNext s e)) := by
  cases e with
  | learn env sid cid priority remoteAddress nicesock loc remote =>
      exact ⟨h.learn_iff env hposs.1 hposs.2 priority remoteAddress nicesock loc remote,
        h.learn hposs.1 hposs.2⟩
  | signal sid cid type addr baseAddr transport priority username password foundation =>
      exact h.signal type addr baseAddr transport priority username password foundation
  | other agent =>
      have hkept : KeepsRemotes s.agent agent := hposs
      have hexact : LearnedExact { s with agent } :=
        (learnedExact_congr fun c hc => hkept.candidate c (h.listed c hc)).mpr h.exact
      refine ⟨⟨fun _ => trivial, fun _ => ⟨hexact, trivial⟩⟩, fun _ => ?_⟩
      exact h.keeps hexact hkept.streams hkept.nComponents hkept.remoteCandidates
        (fun c hc => (hkept.candidate c hc).2.2.1) hkept.nextCandidate

/-- **Foundations of learned candidates along a run** from an agent without remote candidates: they
are right after each of its events just when a copied foundation, a free number of the searched
component and a signalled foundation fit the stream. -/
theorem remoteFoundations_run_iff (agent : NiceAgent) (es : List RemoteEvent)
    (hempty : allRemoteCandidates agent = [])
    (hposs : Along learnNext (fun s e => e.Possible s) ⟨agent, []⟩ es) :
    Along learnNext (fun s e => e.Keeps s) ⟨agent, []⟩ es ↔
      Along learnNext (fun s e => e.Fits s) ⟨agent, []⟩ es := by
  have hnone : ∀ c, c ∉ allRemoteCandidates agent := by simp [hempty]
  have hstart : Learnt ⟨agent, []⟩ := by
    refine ⟨fun c hc => ?_, ⟨fun c hc => absurd hc (hnone c), fun t ht d hd c hc => ?_⟩,
      fun c hc => ?_⟩
    · cases hc
    · exact absurd (mem_listedIn.mpr ⟨t, ht, d, hd, hc⟩) (hnone c)
    · cases hc
  exact Along.congr (fun s e hs hp => (hs.event e hp).1)
    (fun s e hs hp hkeeps => (hs.event e hp).2 hkeeps) es _ hstart hposs

end Events

/-- An agent with one stream of two components. -/
def twoComponentAgent : NiceAgent :=
  { twoStreamAgent [] with
    streams := [1], stream := fun _ => { readyStream [] with nComponents := 2 } }

/-- An environment without TCP. -/
def udpEnv : Env :=
  { transid := fun _ => [], base64Encode := id, base64Decode := id
    tcpActiveSocketConnect := fun _ _ => none }

/-- A check on the component `cid` from the host with the last byte `n`. -/
def checkFrom (cid : ComponentId) (n : UInt8) : RemoteEvent :=
  .learn udpEnv 1 cid 1 ⟨false, [10, 0, 0, n], 5000, 0⟩ (hostSocket 5000) none none

/-- A first learned candidate gets the name `remote-1`. -/
theorem remoteFoundations_run_sample :
    Along learnNext (fun s e => e.Keeps s) ⟨twoComponentAgent, []⟩ [checkFrom 1 2] := by
  have hposs : Along learnNext (fun s e => e.Possible s) ⟨twoComponentAgent, []⟩ [checkFrom 1 2] :=
    ⟨⟨List.mem_cons_self, show 1 ∈ [1, 2] by decide⟩, trivial⟩
  refine (remoteFoundations_run_iff twoComponentAgent _ rfl hposs).mpr ⟨?_, trivial⟩
  intro searched _ k _ _ _ n hn
  cases hn

/-- **Two candidates with one foundation** that are learned on two components from two hosts: the
number 1 is free in each of the components. -/
theorem remote_name_taken_twice :
    ¬∀ (agent : NiceAgent) (es : List RemoteEvent), allRemoteCandidates agent = [] →
      Along learnNext (fun s e => e.Possible s) ⟨agent, []⟩ es →
      Along learnNext (fun s e => e.Keeps s) ⟨agent, []⟩ es := by
  intro h
  have hposs : Along learnNext (fun s e => e.Possible s) ⟨twoComponentAgent, []⟩
      [checkFrom 1 2, checkFrom 2 3] :=
    ⟨⟨List.mem_cons_self, show 1 ∈ [1, 2] by decide⟩,
      ⟨List.mem_cons_self, show 2 ∈ [1, 2] by decide⟩, trivial⟩
  have hexact := (h twoComponentAgent [checkFrom 1 2, checkFrom 2 3] rfl hposs).2.1.1
  have hsame := (hexact 0 (show 0 ∈ [0, 1] by decide) 1 (show 1 ∈ [0, 1] by decide) rfl rfl
    rfl).mp rfl
  exact absurd hsame.2 Bool.false_ne_true

end LibNice.Ice
