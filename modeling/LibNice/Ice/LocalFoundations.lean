import LibNice.Foundation.Classes
import LibNice.Foundation.Run
import LibNice.Ice.CandidateLists
import LibNice.Ice.Unfreezing

/-!
The foundations of local candidates (`agent/discovery.c`).

* `privCompareTurnServers`, `privAssignFoundation`, `privAddLocalCandidatePruned`: a candidate gets
  its foundation and is put into the list of its component.
* `discoveryAddLocalHostCandidate`, `discoveryAddServerReflexiveCandidate`,
  `discoveryAddRelayCandidate`, `discoveryAddPeerReflexiveCandidate`: what gathering comes to.
* `Gathering`, `GatherEvent`, `gather`: the agent with its TURN servers, and what happens to them.
* `SameFoundation`, `FoundationsExact`: what foundations are to say.
* `foundationsExact_run_iff`: they say it along a run just when no number is used again and no TURN
  server is replaced in the middle of it.

The signals for new candidates and the attaching of sockets are left out.
-/

namespace LibNice.Ice

open LibNice.Foundation LibNice.Stun

/-! ### Foundations -/

/-- The local candidates of all components, in the order of the streams. -/
def allLocalCandidates (agent : NiceAgent) : List CandidateId :=
  agent.streams.flatMap fun sid => (agent.stream sid).components.flatMap fun cid =>
    ((agent.stream sid).component cid).localCandidates

/-- `priv_compare_turn_servers`, by the addresses of the servers: a server has one address. -/
def privCompareTurnServers (turn1 turn2 : Option NiceAddress) : Bool :=
  match turn1, turn2 with
  | none, none => true
  | some server1, some server2 => server1.equalNoPort server2
  | _, _ => false

/-- The test of `priv_assign_foundation`. -/
def sharesFoundation (compatibility : NiceCompatibility) (candidate n : NiceCandidate) : Bool :=
  candidate.type = n.type && candidate.transport = n.transport &&
    candidate.streamId = n.streamId && candidate.baseAddr.equalNoPort n.baseAddr &&
    (candidate.type ≠ .relayed || privCompareTurnServers candidate.turnServer n.turnServer) &&
    !(compatibility = .google && n.type = .relayed)

/-- The foundation with the number `n`. -/
def localFoundation (n : ℕ) : Bytes := ascii (toString n)

/-- `priv_assign_foundation`.  `next_candidate_id` is a `guint`. -/
def privAssignFoundation (agent : NiceAgent) (candidate : NiceCandidate) :
    NiceAgent × NiceCandidate :=
  match (allLocalCandidates agent).find? fun n =>
      sharesFoundation agent.compatibility candidate (agent.candidate n) with
  | some n =>
      (agent, { candidate with
        foundation := (agent.candidate n).foundation
        username := (agent.candidate n).username.or candidate.username
        password := (agent.candidate n).password.or candidate.password })
  | none =>
      ({ agent with nextCandidateId := (agent.nextCandidateId + 1) % 2 ^ 32 },
        { candidate with foundation := localFoundation agent.nextCandidateId })

/-- A local candidate of the component is the same as `candidate`. -/
def redundant (agent : NiceAgent) (sid : StreamId) (cid : ComponentId) (candidate : NiceCandidate) :
    Bool :=
  ((agent.stream sid).component cid).localCandidates.any fun c =>
    (agent.candidate c).baseAddr = candidate.baseAddr &&
      (agent.candidate c).addr = candidate.addr &&
      (agent.candidate c).transport = candidate.transport

/-- The agent with `candidate` in the list of the component. -/
def listedCandidate (agent : NiceAgent) (sid : StreamId) (cid : ComponentId)
    (candidate : NiceCandidate) : NiceAgent :=
  let c := agent.nextCandidate
  let component := (agent.stream sid).component cid
  let agent : NiceAgent := { agent with
    candidate := Function.update agent.candidate c candidate, nextCandidate := c + 1 }
  agent.setComponent sid cid
    { component with localCandidates := component.localCandidates ++ [c] }

/-- `priv_add_local_candidate_pruned`: the candidate, if it is not redundant. -/
def privAddLocalCandidatePruned (agent : NiceAgent) (sid : StreamId) (cid : ComponentId)
    (candidate : NiceCandidate) : NiceAgent × Option CandidateId :=
  if redundant agent sid cid candidate then (agent, none)
  else
    let c := agent.nextCandidate
    ((connCheckAddForLocalCandidate (listedCandidate agent sid cid candidate) sid cid c).1, some c)

/-! ### Discovered candidates -/

/-- `nice_candidate_new`, with the fields that all discoveries set. -/
def niceCandidateNew (type : NiceCandidateType) (transport : NiceCandidateTransport)
    (sid : StreamId) (cid : ComponentId) (addr baseAddr : NiceAddress)
    (sockptr : Option NiceSocket) : NiceCandidate :=
  { type, transport, addr, baseAddr, priority := 0, streamId := sid, componentId := cid
    foundation := [], username := none, password := none, turnServer := none, sockptr }

/-- `priv_generate_candidate_credentials`, with the text that it makes of random bytes. -/
def privGenerateCandidateCredentials (rng : Bytes × Bytes) (agent : NiceAgent)
    (candidate : NiceCandidate) : NiceCandidate :=
  match agent.compatibility with
  | .msn | .oc2007 => { candidate with username := some rng.1, password := some rng.2 }
  | .google => { candidate with username := some rng.1, password := none }
  | .rfc5245 | .wlm2009 | .oc2007r2 => candidate

/-- The candidate with its priority. -/
def prioritized (agent : NiceAgent) (candidate : NiceCandidate) (natAssisted : Bool) :
    NiceCandidate :=
  { candidate with
    priority := candidatePriority agent.compatibility agent.reliable candidate natAssisted }

/-- What the discoveries have in common: the candidate gets its foundation and, if `finish` makes
something of it, is added. -/
def addLocalCandidate (agent : NiceAgent) (sid : StreamId) (cid : ComponentId)
    (candidate : NiceCandidate) (finish : NiceCandidate → Option NiceCandidate) :
    NiceAgent × Option CandidateId :=
  match agentFindComponent agent sid cid with
  | none => (agent, none)
  | some sid =>
      let (agent, candidate) := privAssignFoundation agent candidate
      match finish candidate with
      | none => (agent, none)
      | some candidate => privAddLocalCandidatePruned agent sid cid candidate

/-- A host candidate, before its foundation. -/
def localHostCandidate (rng : Bytes × Bytes) (agent : NiceAgent) (sid : StreamId)
    (cid : ComponentId)
    (address : NiceAddress) (transport : NiceCandidateTransport) : NiceCandidate :=
  privGenerateCandidateCredentials rng agent
    (prioritized agent (niceCandidateNew .host transport sid cid address address none) false)

/-- The host candidate with its socket, if that could be created. -/
def boundCandidate (bound : Option NiceSocket) (candidate : NiceCandidate) :
    Option NiceCandidate :=
  bound.map fun nicesock => { candidate with
    sockptr := some nicesock, addr := nicesock.addr, baseAddr := nicesock.addr }

/-- `discovery_add_local_host_candidate`, where `bound` is the socket of the address. -/
def discoveryAddLocalHostCandidate (rng : Bytes × Bytes) (agent : NiceAgent) (sid : StreamId)
    (cid : ComponentId) (address : NiceAddress) (transport : NiceCandidateTransport)
    (bound : Option NiceSocket) : NiceAgent × Option CandidateId :=
  addLocalCandidate agent sid cid (localHostCandidate rng agent sid cid address transport)
    (boundCandidate bound)

/-- A server reflexive candidate, before its foundation. -/
def serverReflexiveCandidate (rng : Bytes × Bytes) (agent : NiceAgent) (sid : StreamId)
    (cid : ComponentId) (address : NiceAddress) (transport : NiceCandidateTransport)
    (baseSocket : NiceSocket) (natAssisted : Bool) : NiceCandidate :=
  privGenerateCandidateCredentials rng agent
    (prioritized agent (niceCandidateNew .serverReflexive transport sid cid address
      baseSocket.addr (some baseSocket)) natAssisted)

/-- `discovery_add_server_reflexive_candidate`. -/
def discoveryAddServerReflexiveCandidate (rng : Bytes × Bytes) (agent : NiceAgent)
    (sid : StreamId) (cid : ComponentId) (address : NiceAddress)
    (transport : NiceCandidateTransport) (baseSocket : NiceSocket) (natAssisted : Bool) :
    NiceAgent × Option CandidateId :=
  addLocalCandidate agent sid cid
    (serverReflexiveCandidate rng agent sid cid address transport baseSocket natAssisted) some

/-- A relayed candidate from the TURN server at `server`, before its foundation.  Google takes
`turnUsername` for its username. -/
def relayedCandidate (rng : Bytes × Bytes) (agent : NiceAgent) (sid : StreamId)
    (cid : ComponentId) (address : NiceAddress) (transport : NiceCandidateTransport)
    (baseSocket relaySocket : NiceSocket) (server : NiceAddress) (turnUsername : Bytes) :
    NiceCandidate :=
  let candidate := privGenerateCandidateCredentials rng agent
    (prioritized agent (niceCandidateNew .relayed transport sid cid address baseSocket.addr
      (some relaySocket)) false)
  { candidate with
    turnServer := some server
    username :=
      if agent.compatibility = .google then some turnUsername else candidate.username }

/-- `discovery_add_relay_candidate`, where `relaySocket` is the TURN socket over `baseSocket`. -/
def discoveryAddRelayCandidate (rng : Bytes × Bytes) (agent : NiceAgent) (sid : StreamId)
    (cid : ComponentId) (address : NiceAddress) (transport : NiceCandidateTransport)
    (baseSocket relaySocket : NiceSocket) (server : NiceAddress) (turnUsername : Bytes) :
    NiceAgent × Option CandidateId :=
  addLocalCandidate agent sid cid
    (relayedCandidate rng agent sid cid address transport baseSocket relaySocket server
      turnUsername) some

/-- The transport of a peer reflexive candidate. -/
def reflexiveTransport (agent : NiceAgent) (baseSocket : NiceSocket)
    (localCand remoteCand : Option CandidateId) : NiceCandidateTransport :=
  match localCand, remoteCand with
  | some l, _ => (agent.candidate l).transport
  | none, some r => connCheckMatchTransport (agent.candidate r).transport
  | none, none =>
      if baseSocket.type = .udpBsd ∨ baseSocket.type = .udpTurn then .udp else .tcpPassive

/-- A peer reflexive candidate, before its foundation. -/
def peerReflexiveCandidate (agent : NiceAgent) (sid : StreamId) (cid : ComponentId)
    (address : NiceAddress) (baseSocket : NiceSocket) (localCand remoteCand : Option CandidateId) :
    NiceCandidate :=
  prioritized agent (niceCandidateNew .peerReflexive
    (reflexiveTransport agent baseSocket localCand remoteCand) sid cid address baseSocket.addr
    (some baseSocket)) false

/-- Its credentials: those of the local candidate, if there is one. -/
def reflexiveCredentials (env : Env) (agent : NiceAgent)
    (localCand remoteCand : Option CandidateId) (candidate : NiceCandidate) :
    Option NiceCandidate :=
  match localCand with
  | none => some candidate
  | some l =>
      let loc := agent.candidate l
      match remoteCand with
      | some r =>
          if agent.compatibility = .msn ∨ agent.compatibility = .oc2007 then
            some { candidate with
              username := some (env.base64Encode ((loc.username.map env.base64Decode).getD [] ++
                (((agent.candidate r).username.map env.base64Decode).getD [])))
              password := loc.password }
          else some { candidate with username := loc.username, password := loc.password }
      | none => some { candidate with username := loc.username, password := loc.password }

/-- `discovery_add_peer_reflexive_candidate`. -/
def discoveryAddPeerReflexiveCandidate (env : Env) (agent : NiceAgent) (sid : StreamId)
    (cid : ComponentId) (address : NiceAddress) (baseSocket : NiceSocket)
    (localCand remoteCand : Option CandidateId) : NiceAgent × Option CandidateId :=
  addLocalCandidate agent sid cid
    (peerReflexiveCandidate agent sid cid address baseSocket localCand remoteCand)
    (reflexiveCredentials env agent localCand remoteCand)

/-! ### Gathering -/

/-- The address of a `TurnServer`. -/
abbrev TurnServerId := ℕ

/-- An agent with its TURN servers.  `turn` is the server of a relayed candidate, and `server` the
address that a server has now. -/
structure Gathering where
  agent : NiceAgent
  turn : CandidateId → Option TurnServerId
  server : TurnServerId → NiceAddress

/-- What comes of gathering: the results of discoveries, the answer that another TURN server is to
be asked, and candidates that are taken from the list of a component. -/
inductive GatherEvent where
  | host (rng : Bytes × Bytes) (sid : StreamId) (cid : ComponentId) (address : NiceAddress)
      (transport : NiceCandidateTransport) (bound : Option NiceSocket)
  | serverReflexive (rng : Bytes × Bytes) (sid : StreamId) (cid : ComponentId)
      (address : NiceAddress) (transport : NiceCandidateTransport) (baseSocket : NiceSocket)
      (natAssisted : Bool)
  | relay (rng : Bytes × Bytes) (sid : StreamId) (cid : ComponentId) (address : NiceAddress)
      (transport : NiceCandidateTransport) (baseSocket relaySocket : NiceSocket)
      (turn : TurnServerId) (turnUsername : Bytes)
  | peerReflexive (env : Env) (sid : StreamId) (cid : ComponentId) (address : NiceAddress)
      (baseSocket : NiceSocket) (localCand remoteCand : Option CandidateId)
  | alternateServer (turn : TurnServerId) (address : NiceAddress)
  | remove (sid : StreamId) (cid : ComponentId) (keep : CandidateId → Bool)

/-- The agent whose candidates of the server `turn` have it at `address`. -/
def redirected (g : Gathering) (turn : TurnServerId) (address : NiceAddress) : NiceAgent :=
  { g.agent with
    candidate := fun c =>
      if g.turn c = some turn then { g.agent.candidate c with turnServer := some address }
      else g.agent.candidate c }

/-- The agent after an event.  `priv_map_reply_to_relay_request` writes the address of an alternate
server into the `TurnServer` that it was asked for. -/
def gather (g : Gathering) : GatherEvent → Gathering
  | .host rng sid cid address transport bound =>
      { g with agent :=
          (discoveryAddLocalHostCandidate rng g.agent sid cid address transport bound).1 }
  | .serverReflexive rng sid cid address transport baseSocket natAssisted =>
      { g with agent := (discoveryAddServerReflexiveCandidate rng g.agent sid cid address transport
          baseSocket natAssisted).1 }
  | .relay rng sid cid address transport baseSocket relaySocket turn turnUsername =>
      let (agent, candidate) := discoveryAddRelayCandidate rng g.agent sid cid address transport
        baseSocket relaySocket (g.server turn) turnUsername
      { g with
        agent
        turn := match candidate with
          | some c => Function.update g.turn c (some turn)
          | none => g.turn }
  | .peerReflexive env sid cid address baseSocket loc remote =>
      { g with agent :=
          (discoveryAddPeerReflexiveCandidate env g.agent sid cid address baseSocket loc remote).1 }
  | .alternateServer turn address =>
      { g with agent := redirected g turn address, server := Function.update g.server turn address }
  | .remove sid cid keep =>
      let component := (g.agent.stream sid).component cid
      let agent := g.agent.setComponent sid cid
        { component with localCandidates := component.localCandidates.filter keep }
      { g with agent }

/-! ### What foundations say -/

/-- The candidates of a stream are of one kind and come from one address. -/
structure SameBase (a b : NiceCandidate) : Prop where
  stream : a.streamId = b.streamId
  type : a.type = b.type
  transport : a.transport = b.transport
  base : a.baseAddr.equalNoPort b.baseAddr

/-- What two local candidates with one foundation have in common: relayed ones also the address of
their TURN servers. -/
structure SameFoundation (a b : NiceCandidate) : Prop extends SameBase a b where
  server : a.type = .relayed → privCompareTurnServers a.turnServer b.turnServer

/-- The local candidates of the agent. -/
def localsOf (agent : NiceAgent) : Set NiceCandidate :=
  { n | ∃ c ∈ allLocalCandidates agent, agent.candidate c = n }

/-- The foundations of the local candidates are equal just where they have to be, and never in two
streams. -/
def FoundationsExact (agent : NiceAgent) : Prop :=
  Names SameFoundation NiceCandidate.foundation (localsOf agent)

section Equivalence

variable {a b c : NiceAddress} {s t u : Option NiceAddress} {m n o : NiceCandidate}

lemma equalNoPort_iff :
    a.equalNoPort b = true ↔ a.ip6 = b.ip6 ∧ a.ip = b.ip ∧ a.scopeId = b.scopeId := by
  simp [NiceAddress.equalNoPort, and_assoc]

lemma equalNoPort_equivalence : Equivalence fun a b : NiceAddress => a.equalNoPort b = true := by
  refine ⟨fun a => equalNoPort_iff.mpr ⟨rfl, rfl, rfl⟩, fun h => ?_, fun h h' => ?_⟩
  · obtain ⟨h₁, h₂, h₃⟩ := equalNoPort_iff.mp h
    exact equalNoPort_iff.mpr ⟨h₁.symm, h₂.symm, h₃.symm⟩
  · obtain ⟨h₁, h₂, h₃⟩ := equalNoPort_iff.mp h
    obtain ⟨h₁', h₂', h₃'⟩ := equalNoPort_iff.mp h'
    exact equalNoPort_iff.mpr ⟨h₁.trans h₁', h₂.trans h₂', h₃.trans h₃'⟩

lemma compareTurnServers_equivalence :
    Equivalence fun s t : Option NiceAddress => privCompareTurnServers s t = true := by
  refine ⟨fun s => ?_, fun {s t} h => ?_, fun {s t u} h h' => ?_⟩
  · cases s with
    | none => rfl
    | some s => exact equalNoPort_equivalence.refl s
  · cases s <;> cases t
    · rfl
    · cases h
    · cases h
    · exact equalNoPort_equivalence.symm h
  · cases s with
    | none =>
        cases t with
        | none => exact h'
        | some t => cases h
    | some s =>
        cases t with
        | none => cases h
        | some t =>
            cases u with
            | none => cases h'
            | some u => exact equalNoPort_equivalence.trans h h'

/-- Foundations name the classes of an equivalence relation. -/
lemma sameFoundation_equivalence : Equivalence SameFoundation := by
  refine ⟨fun n => ⟨⟨rfl, rfl, rfl, equalNoPort_equivalence.refl _⟩,
    fun _ => compareTurnServers_equivalence.refl _⟩, fun h => ?_, fun h h' => ?_⟩
  · exact ⟨⟨h.stream.symm, h.type.symm, h.transport.symm, equalNoPort_equivalence.symm h.base⟩,
      fun ht => compareTurnServers_equivalence.symm (h.server (h.type.trans ht))⟩
  · exact ⟨⟨h.stream.trans h'.stream, h.type.trans h'.type, h.transport.trans h'.transport,
      equalNoPort_equivalence.trans h.base h'.base⟩,
      fun ht => compareTurnServers_equivalence.trans (h.server ht)
        (h'.server (h.type.symm.trans ht))⟩

/-- A foundation and credentials do not matter. -/
lemma sameFoundation_named (foundation : Bytes) (username password : Option Bytes) :
    SameFoundation { m with foundation, username, password } m :=
  ⟨⟨rfl, rfl, rfl, equalNoPort_equivalence.refl _⟩,
    fun _ => compareTurnServers_equivalence.refl _⟩

/-- **The test of `priv_assign_foundation`** is the relation that foundations are to say. -/
lemma sharesFoundation_iff {compatibility : NiceCompatibility} (h : compatibility = .rfc5245) :
    sharesFoundation compatibility m n = true ↔ SameFoundation m n := by
  subst h
  simp only [sharesFoundation, Bool.and_eq_true, decide_eq_true_eq, Bool.or_eq_true, ne_eq,
    Bool.not_eq_true', decide_eq_false_iff_not]
  constructor
  · rintro ⟨⟨⟨⟨⟨htype, htransport⟩, hstream⟩, hbase⟩, hserver⟩, -⟩
    exact ⟨⟨hstream, htype, htransport, hbase⟩,
      fun ht => hserver.resolve_left (not_not.mpr ht)⟩
  · intro h
    refine ⟨⟨⟨⟨⟨h.type, h.transport⟩, h.stream⟩, h.base⟩, ?_⟩, by simp⟩
    by_cases ht : m.type = .relayed
    · exact .inr (h.server ht)
    · exact .inl ht

end Equivalence

/-! ### A discovered candidate -/

/-- The number of the next foundation names another candidate, and `candidate`, which is related to
none, would get it. -/
def Collides (agent : NiceAgent) (sid : StreamId) (cid : ComponentId) (candidate : NiceCandidate)
    (finish : NiceCandidate → Option NiceCandidate) : Prop :=
  let foundation := localFoundation agent.nextCandidateId
  (∀ n ∈ localsOf agent, ¬SameFoundation candidate n) ∧
  (∃ n ∈ localsOf agent, n.foundation = foundation) ∧
  ∃ finished, finish { candidate with foundation } = some finished ∧
    redundant agent sid cid finished = false

/-- `finish` keeps what foundations tell, and the foundation itself. -/
def Finishes (candidate : NiceCandidate) (finish : NiceCandidate → Option NiceCandidate) : Prop :=
  ∀ c finished, SameFoundation c candidate → c.baseAddr = candidate.baseAddr →
    finish c = some finished →
    SameFoundation finished candidate ∧ finished.foundation = c.foundation ∧
      finished.turnServer = c.turnServer

section Discovery

variable {agent agent' : NiceAgent} {sid : StreamId} {cid : ComponentId} {c : CandidateId}
  {candidate : NiceCandidate} {finish : NiceCandidate → Option NiceCandidate}

lemma mem_allLocalCandidates : c ∈ allLocalCandidates agent ↔
    ∃ sid ∈ agent.streams, ∃ cid ∈ (agent.stream sid).components,
      c ∈ ((agent.stream sid).component cid).localCandidates := mem_listedIn

/-- The list with the new candidate. -/
lemma listedCandidate_listed :
    Listed Component.localCandidates agent (listedCandidate agent sid cid candidate) sid cid
      candidate := by
  refine ⟨rfl, fun s => ?_, fun s d => ?_, rfl, rfl, rfl⟩
  · rcases eq_or_ne s sid with rfl | hs
    · simp [listedCandidate, NiceAgent.setComponent]
    · simp [listedCandidate, NiceAgent.setComponent, hs]
  · rcases eq_or_ne s sid with rfl | hs
    · rcases eq_or_ne d cid with rfl | hd
      · simp [listedCandidate, NiceAgent.setComponent]
      · simp [listedCandidate, NiceAgent.setComponent, hd]
    · simp [listedCandidate, NiceAgent.setComponent, hs]

lemma Listed.localsOf (h : Listed Component.localCandidates agent agent' sid cid candidate)
    (hsid : sid ∈ agent.streams) (hcid : cid ∈ (agent.stream sid).components)
    (hsound : ListsSound Component.localCandidates agent) :
    localsOf agent' = insert candidate (localsOf agent) := by
  ext n
  constructor
  · rintro ⟨c, hc, rfl⟩
    rcases (h.mem_iff hsid hcid).mp hc with hc | rfl
    · exact .inr ⟨c, hc, (h.candidate_of_lt (hsound.fresh c hc)).symm⟩
    · exact .inl h.candidate_new
  · rintro (rfl | ⟨c, hc, rfl⟩)
    · exact ⟨_, (h.mem_iff hsid hcid).mpr (.inr rfl), h.candidate_new⟩
    · exact ⟨c, (h.mem_iff hsid hcid).mpr (.inl hc), h.candidate_of_lt (hsound.fresh c hc)⟩

/-- **The foundation of a candidate** is copied from one that it is related to, or new. -/
lemma assignFoundation_cases (hcompat : agent.compatibility = .rfc5245) :
    (∃ n ∈ localsOf agent, SameFoundation candidate n ∧ ∃ username password,
      privAssignFoundation agent candidate =
        (agent, { candidate with foundation := n.foundation, username, password })) ∨
    ((∀ n ∈ localsOf agent, ¬SameFoundation candidate n) ∧
      privAssignFoundation agent candidate =
        ({ agent with nextCandidateId := (agent.nextCandidateId + 1) % 2 ^ 32 },
          { candidate with foundation := localFoundation agent.nextCandidateId })) := by
  rw [privAssignFoundation]
  cases hfind : (allLocalCandidates agent).find? fun n =>
      sharesFoundation agent.compatibility candidate (agent.candidate n) with
  | some n =>
      have htest := List.find?_some hfind
      exact .inl ⟨agent.candidate n, ⟨n, List.mem_of_find?_eq_some hfind, rfl⟩,
        (sharesFoundation_iff hcompat).mp htest, _, _, rfl⟩
  | none =>
      refine .inr ⟨?_, rfl⟩
      rintro _ ⟨n, hn, rfl⟩ hsame
      exact List.find?_eq_none.mp hfind n hn ((sharesFoundation_iff hcompat).mpr hsame)

/-- The list of the component with the candidate, unless it is redundant. -/
lemma addLocalCandidatePruned_cases :
    (redundant agent sid cid candidate = true ∧
      privAddLocalCandidatePruned agent sid cid candidate = (agent, none)) ∨
    (redundant agent sid cid candidate = false ∧ ∃ agent',
      privAddLocalCandidatePruned agent sid cid candidate = (agent', some agent.nextCandidate) ∧
        Listed Component.localCandidates agent agent' sid cid candidate) := by
  rw [privAddLocalCandidatePruned]
  cases redundant agent sid cid candidate with
  | true => exact .inl ⟨rfl, if_pos rfl⟩
  | false =>
      refine .inr ⟨rfl, _, if_neg Bool.false_ne_true, ?_⟩
      exact listedCandidate_listed.keeps (addForLocalCandidate_keeps _) fun s d =>
        (addForLocalCandidate_keeps _).localCandidates s d

/-- What a discovery comes to: the lists are what they were, or they have one candidate more, whose
foundation is copied or new. -/
inductive Discovered (agent : NiceAgent) (sid : StreamId) (cid : ComponentId)
    (candidate : NiceCandidate) (finish : NiceCandidate → Option NiceCandidate) :
    NiceAgent × Option CandidateId → Prop where
  | nothing (nextCandidateId : ℕ) :
      (∀ s, agentFindComponent agent sid cid = some s →
        ¬Collides agent sid cid candidate finish) →
      Discovered agent sid cid candidate finish ({ agent with nextCandidateId }, none)
  | copied (agent' : NiceAgent) (n finished : NiceCandidate) :
      sid ∈ agent.streams → cid ∈ (agent.stream sid).components → n ∈ localsOf agent →
      SameFoundation finished n → SameFoundation finished candidate →
      finished.foundation = n.foundation → finished.turnServer = candidate.turnServer →
      Listed Component.localCandidates agent agent' sid cid finished →
      Discovered agent sid cid candidate finish (agent', some agent.nextCandidate)
  | fresh (agent' : NiceAgent) (finished : NiceCandidate) :
      sid ∈ agent.streams → cid ∈ (agent.stream sid).components →
      (∀ n ∈ localsOf agent, ¬SameFoundation candidate n) → SameFoundation finished candidate →
      finished.foundation = localFoundation agent.nextCandidateId →
      finished.turnServer = candidate.turnServer →
      finish { candidate with foundation := localFoundation agent.nextCandidateId } =
        some finished →
      redundant agent sid cid finished = false →
      Listed Component.localCandidates agent agent' sid cid finished →
      Discovered agent sid cid candidate finish (agent', some agent.nextCandidate)

lemma Listed.of_settings {nextCandidateId : ℕ}
    (h : Listed Component.localCandidates { agent with nextCandidateId } agent' sid cid candidate) :
    Listed Component.localCandidates agent agent' sid cid candidate :=
  ⟨h.streams, h.nComponents, h.lists, h.candidate, h.nextCandidate, h.compatibility⟩

/-- **A discovery**, step by step. -/
theorem addLocalCandidate_discovered (hcompat : agent.compatibility = .rfc5245)
    (hfinish : Finishes candidate finish) :
    Discovered agent sid cid candidate finish
      (addLocalCandidate agent sid cid candidate finish) := by
  rw [addLocalCandidate]
  cases hfind : agentFindComponent agent sid cid with
  | none => exact .nothing agent.nextCandidateId fun s hs => by rw [hfind] at hs; cases hs
  | some s =>
      obtain ⟨hstream, hcid⟩ := Option.filter_eq_some_iff.mp hfind
      have hs : s = sid := by simpa using List.find?_some hstream
      subst hs
      have hsid : s ∈ agent.streams := List.mem_of_find?_eq_some hstream
      have hcid : cid ∈ (agent.stream s).components := by simpa using hcid
      dsimp only
      rcases @assignFoundation_cases agent candidate hcompat with
        ⟨n, hn, hsame, username, password, hassign⟩ | ⟨hnone, hassign⟩
      · -- the foundation of `n`
        rw [hassign]
        dsimp only
        cases hdone : finish { candidate with foundation := n.foundation, username, password } with
        | none => exact .nothing agent.nextCandidateId fun _ _ hc => hc.1 n hn hsame
        | some finished =>
            obtain ⟨hsame', hfoundation, hturn⟩ := hfinish _ finished
              (sameFoundation_named n.foundation username password) rfl hdone
            dsimp only
            rcases @addLocalCandidatePruned_cases agent s cid finished with
              ⟨-, hpruned⟩ | ⟨-, agent', hpruned, hlisted⟩
            · rw [hpruned]
              exact .nothing agent.nextCandidateId fun _ _ hc => hc.1 n hn hsame
            · rw [hpruned]
              exact .copied agent' n finished hsid hcid hn
                (sameFoundation_equivalence.trans hsame' hsame) hsame' hfoundation hturn hlisted
      · rw [hassign]
        dsimp only
        cases hdone : finish
            { candidate with foundation := localFoundation agent.nextCandidateId } with
        | none =>
            refine .nothing _ fun _ _ hc => ?_
            obtain ⟨finished, hsome, -⟩ := hc.2.2
            rw [hdone] at hsome
            cases hsome
        | some finished =>
            obtain ⟨hsame', hfoundation, hturn⟩ := hfinish _ finished
              (sameFoundation_named (localFoundation agent.nextCandidateId) candidate.username
                candidate.password) rfl hdone
            dsimp only
            rcases @addLocalCandidatePruned_cases
                { agent with nextCandidateId := (agent.nextCandidateId + 1) % 2 ^ 32 } s cid
                finished with ⟨hred, hpruned⟩ | ⟨hred, agent', hpruned, hlisted⟩
            · rw [hpruned]
              refine .nothing _ fun _ _ hc => ?_
              obtain ⟨finished', hsome, hred'⟩ := hc.2.2
              rw [hdone] at hsome
              obtain rfl := Option.some.inj hsome
              have hred : redundant agent s cid finished = true := hred
              rw [hred] at hred'
              cases hred'
            · rw [hpruned]
              exact .fresh agent' finished hsid hcid hnone hsame' hfoundation hturn hdone hred
                hlisted.of_settings

/-- **A discovery names its candidate right** just when no number is used again. -/
theorem Discovered.exact_iff {r : NiceAgent × Option CandidateId}
    (h : Discovered agent sid cid candidate finish r) (hexact : FoundationsExact agent)
    (hsound : ListsSound Component.localCandidates agent) :
    FoundationsExact r.1 ↔
      ∀ s, agentFindComponent agent sid cid = some s →
        ¬Collides agent sid cid candidate finish := by
  cases h with
  | nothing nextCandidateId hfree => exact ⟨fun _ => hfree, fun _ => hexact⟩
  | copied agent' n finished hsid hcid hn hsame hfinished hfoundation _ hlisted =>
      have hrelated : SameFoundation candidate n := sameFoundation_equivalence.trans
        (sameFoundation_equivalence.symm hfinished) hsame
      refine ⟨fun _ s _ hc => hc.1 n hn hrelated, fun _ => ?_⟩
      rw [FoundationsExact, hlisted.localsOf hsid hcid hsound]
      exact Names.copied sameFoundation_equivalence hexact hn hsame hfoundation
  | fresh agent' finished hsid hcid hnone hfinished hfoundation _ hdone hred hlisted =>
      have hnone' : ∀ n ∈ localsOf agent, ¬SameFoundation finished n := fun n hn hsame =>
        hnone n hn (sameFoundation_equivalence.trans
          (sameFoundation_equivalence.symm hfinished) hsame)
      rw [FoundationsExact, hlisted.localsOf hsid hcid hsound,
        Names.fresh sameFoundation_equivalence hexact hnone', hfoundation]
      constructor
      · rintro hfree s - ⟨-, ⟨n, hn, hname⟩, -⟩
        exact hfree n hn hname.symm
      · intro hfree n hn hname
        exact hfree sid (agentFindComponent_of_mem hsid hcid)
          ⟨hnone, ⟨n, hn, hname.symm⟩, finished, hdone, hred⟩

/-- What the lists are after a discovery. -/
lemma Discovered.sound {r : NiceAgent × Option CandidateId}
    (h : Discovered agent sid cid candidate finish r)
    (hsound : ListsSound Component.localCandidates agent)
    (howner : candidate.streamId = sid) : ListsSound Component.localCandidates r.1 := by
  cases h with
  | nothing nextCandidateId hfree => exact ⟨hsound.fresh, hsound.owner⟩
  | copied agent' n finished hsid hcid hn hsame hfinished hfoundation _ hlisted =>
      exact hlisted.sound hsid hcid hsound (hfinished.stream.trans howner)
  | fresh agent' finished hsid hcid hnone hfinished hfoundation _ hdone hred hlisted =>
      exact hlisted.sound hsid hcid hsound (hfinished.stream.trans howner)

/-- The candidates after a discovery are the old ones, and the new one if there is one. -/
lemma Discovered.candidates {r : NiceAgent × Option CandidateId}
    (h : Discovered agent sid cid candidate finish r)
    (hsound : ListsSound Component.localCandidates agent) :
    r.1.compatibility = agent.compatibility ∧
    ∀ c ∈ allLocalCandidates r.1,
      (c ∈ allLocalCandidates agent ∧ r.1.candidate c = agent.candidate c ∧
        r.2 ≠ some c) ∨
      (r.2 = some c ∧ (r.1.candidate c).type = candidate.type ∧
        (r.1.candidate c).turnServer = candidate.turnServer) := by
  have hadded {agent' : NiceAgent} {finished : NiceCandidate}
      (hlisted : Listed Component.localCandidates agent agent' sid cid finished)
      (hsid : sid ∈ agent.streams)
      (hcid : cid ∈ (agent.stream sid).components) (hfinished : SameFoundation finished candidate)
      (hturn : finished.turnServer = candidate.turnServer) : ∀ c ∈ allLocalCandidates agent',
      (c ∈ allLocalCandidates agent ∧ agent'.candidate c = agent.candidate c ∧
        some agent.nextCandidate ≠ some c) ∨
      (some agent.nextCandidate = some c ∧ (agent'.candidate c).type = candidate.type ∧
        (agent'.candidate c).turnServer = candidate.turnServer) := by
    intro c hc
    rcases (hlisted.mem_iff hsid hcid).mp hc with hc | rfl
    · have hlt := hsound.fresh c hc
      exact .inl ⟨hc, hlisted.candidate_of_lt hlt, fun heq => hlt.ne' (Option.some.inj heq)⟩
    · rw [hlisted.candidate_new]
      exact .inr ⟨rfl, hfinished.type, hturn⟩
  cases h with
  | nothing nextCandidateId hfree =>
      exact ⟨rfl, fun c hc => .inl ⟨hc, rfl, (Option.some_ne_none c).symm⟩⟩
  | copied agent' n finished hsid hcid hn hsame hfinished hfoundation hturn hlisted =>
      exact ⟨hlisted.compatibility, hadded hlisted hsid hcid hfinished hturn⟩
  | fresh agent' finished hsid hcid hnone hfinished hfoundation hturn hdone hred hlisted =>
      exact ⟨hlisted.compatibility, hadded hlisted hsid hcid hfinished hturn⟩

end Discovery

/-! ### Runs -/

/-- A socket that was bound to an address has its IP. -/
def GatherEvent.Possible : GatherEvent → Prop
  | .host _ _ _ address _ (some nicesock) => nicesock.addr.equalNoPort address
  | _ => True

/-- The number of the next foundation is not used again for `candidate`. -/
def NumberFree (agent : NiceAgent) (sid : StreamId) (cid : ComponentId)
    (candidate : NiceCandidate) (finish : NiceCandidate → Option NiceCandidate) : Prop :=
  ∀ s, agentFindComponent agent sid cid = some s → ¬Collides agent sid cid candidate finish

/-- A relayed candidate of the server `turn` has a server with the IP of that of another candidate
of its base before the server is moved to `address` just if it has afterwards. -/
def KeepsServers (g : Gathering) (turn : TurnServerId) (address : NiceAddress) : Prop :=
  ∀ c ∈ allLocalCandidates g.agent, ∀ d ∈ allLocalCandidates g.agent,
    g.turn c = some turn → g.turn d ≠ some turn →
    SameBase (g.agent.candidate c) (g.agent.candidate d) → (g.agent.candidate c).type = .relayed →
    (privCompareTurnServers (some (g.server turn)) (g.agent.candidate d).turnServer ↔
      privCompareTurnServers (some address) (g.agent.candidate d).turnServer)

/-- What it takes for foundations to stay right. -/
def GatherEvent.Fits (g : Gathering) : GatherEvent → Prop
  | .host rng sid cid address transport bound =>
      NumberFree g.agent sid cid (localHostCandidate rng g.agent sid cid address transport)
        (boundCandidate bound)
  | .serverReflexive rng sid cid address transport baseSocket natAssisted =>
      NumberFree g.agent sid cid
        (serverReflexiveCandidate rng g.agent sid cid address transport baseSocket natAssisted) some
  | .relay rng sid cid address transport baseSocket relaySocket turn turnUsername =>
      NumberFree g.agent sid cid (relayedCandidate rng g.agent sid cid address transport baseSocket
        relaySocket (g.server turn) turnUsername) some
  | .peerReflexive env sid cid address baseSocket loc remote =>
      NumberFree g.agent sid cid
        (peerReflexiveCandidate g.agent sid cid address baseSocket loc remote)
        (reflexiveCredentials env g.agent loc remote)
  | .alternateServer turn address => KeepsServers g turn address
  | .remove _ _ _ => True

/-- What holds all along: foundations say what they are to say, the lists are sound, and a relayed
candidate has the address that its TURN server has now. -/
structure Gathered (g : Gathering) : Prop where
  exact : FoundationsExact g.agent
  lists : ListsSound Component.localCandidates g.agent
  turn : ∀ c ∈ allLocalCandidates g.agent, (g.agent.candidate c).type = .relayed →
    ∃ turn, g.turn c = some turn ∧ (g.agent.candidate c).turnServer = some (g.server turn)
  compat : g.agent.compatibility = .rfc5245

section Runs

variable {g : Gathering} {agent : NiceAgent} {sid : StreamId} {cid : ComponentId}
  {candidate : NiceCandidate} {finish : NiceCandidate → Option NiceCandidate}

lemma generateCredentials_eq (h : agent.compatibility = .rfc5245) (rng : Bytes × Bytes) :
    privGenerateCandidateCredentials rng agent candidate = candidate := by
  rw [privGenerateCandidateCredentials, h]

lemma finishes_some : Finishes candidate some := by
  intro c finished hsame _ hfinished
  obtain rfl := Option.some.inj hfinished
  exact ⟨hsame, rfl, rfl⟩

lemma finishes_reflexive (env : Env) (loc remote : Option CandidateId) :
    Finishes candidate (reflexiveCredentials env agent loc remote) := by
  intro c finished hsame _ hfinished
  have hnamed : ∃ username password, finished = { c with username, password } := by
    unfold reflexiveCredentials at hfinished
    cases loc with
    | none => exact ⟨c.username, c.password, (Option.some.inj hfinished).symm⟩
    | some l =>
        cases remote with
        | none => exact ⟨_, _, (Option.some.inj hfinished).symm⟩
        | some r =>
            dsimp only at hfinished
            split_ifs at hfinished
            · exact ⟨_, _, (Option.some.inj hfinished).symm⟩
            · exact ⟨_, _, (Option.some.inj hfinished).symm⟩
  obtain ⟨username, password, rfl⟩ := hnamed
  exact ⟨sameFoundation_equivalence.trans
    (sameFoundation_named c.foundation username password) hsame, rfl, rfl⟩

lemma finishes_bound {bound : Option NiceSocket}
    (h : ∀ nicesock, bound = some nicesock → nicesock.addr.equalNoPort candidate.baseAddr) :
    Finishes candidate (boundCandidate bound) := by
  intro c finished hsame hbase hfinished
  obtain ⟨nicesock, hbound, rfl⟩ := Option.map_eq_some_iff.mp hfinished
  exact ⟨⟨⟨hsame.stream, hsame.type, hsame.transport, h nicesock hbound⟩, hsame.server⟩, rfl, rfl⟩

/-- **A discovery without a TURN server**, as an event. -/
lemma Gathered.discovered (h : Gathered g) (hfinish : Finishes candidate finish)
    (howner : candidate.streamId = sid) (htype : candidate.type ≠ .relayed) :
    (FoundationsExact (addLocalCandidate g.agent sid cid candidate finish).1 ↔
      NumberFree g.agent sid cid candidate finish) ∧
    (FoundationsExact (addLocalCandidate g.agent sid cid candidate finish).1 →
      Gathered { g with agent := (addLocalCandidate g.agent sid cid candidate finish).1 }) := by
  have hdisc := @addLocalCandidate_discovered g.agent sid cid candidate finish h.compat hfinish
  obtain ⟨hcompat, hcandidates⟩ := hdisc.candidates h.lists
  refine ⟨hdisc.exact_iff h.exact h.lists, fun hexact =>
    ⟨hexact, hdisc.sound h.lists howner, fun c hc hrelayed => ?_, hcompat.trans h.compat⟩⟩
  rcases hcandidates c hc with ⟨hold, hsame, -⟩ | ⟨-, hnew, -⟩
  · have hrelayed : (g.agent.candidate c).type = .relayed := hsame ▸ hrelayed
    obtain ⟨turn, hturn, hserver⟩ := h.turn c hold hrelayed
    exact ⟨turn, hturn, (congrArg NiceCandidate.turnServer hsame).trans hserver⟩
  · exact absurd (hnew.symm.trans hrelayed) htype

/-- **A relayed candidate**, as an event. -/
lemma Gathered.relayed (h : Gathered g) (rng : Bytes × Bytes) (address : NiceAddress)
    (transport : NiceCandidateTransport) (baseSocket relaySocket : NiceSocket)
    (turn : TurnServerId) (turnUsername : Bytes) :
    let e := GatherEvent.relay rng sid cid address transport baseSocket relaySocket turn
      turnUsername
    (FoundationsExact (gather g e).agent ↔ e.Fits g) ∧
      (FoundationsExact (gather g e).agent → Gathered (gather g e)) := by
  set candidate := relayedCandidate rng g.agent sid cid address transport baseSocket relaySocket
    (g.server turn) turnUsername with hcandidate
  have hserver : candidate.turnServer = some (g.server turn) := rfl
  have howner : candidate.streamId = sid := by
    rw [hcandidate, relayedCandidate, generateCredentials_eq h.compat]
    rfl
  have hdisc := @addLocalCandidate_discovered g.agent sid cid candidate some h.compat finishes_some
  obtain ⟨hcompat, hcandidates⟩ := hdisc.candidates h.lists
  refine ⟨hdisc.exact_iff h.exact h.lists, fun hexact =>
    ⟨hexact, hdisc.sound h.lists howner, fun c hc hrelayed => ?_, hcompat.trans h.compat⟩⟩
  have hturns : (gather g (.relay rng sid cid address transport baseSocket relaySocket turn
      turnUsername)).turn = match (addLocalCandidate g.agent sid cid candidate some).2 with
        | some c => Function.update g.turn c (some turn)
        | none => g.turn := rfl
  rw [hturns]
  rcases hcandidates c hc with ⟨hold, hsame, hne⟩ | ⟨hnew, -, hserver'⟩
  · have hrelayed : (g.agent.candidate c).type = .relayed := hsame ▸ hrelayed
    obtain ⟨turn', hturn, hserver⟩ := h.turn c hold hrelayed
    refine ⟨turn', ?_, (congrArg NiceCandidate.turnServer hsame).trans hserver⟩
    cases hadded : (addLocalCandidate g.agent sid cid candidate some).2 with
    | none => exact hturn
    | some c' =>
        have hne : c ≠ c' := fun heq => hne (heq ▸ hadded)
        dsimp only
        rw [Function.update_of_ne hne, hturn]
  · rw [hnew]
    exact ⟨turn, Function.update_self .., hserver'.trans hserver⟩

lemma foundationsExact_iff : FoundationsExact agent ↔
    ∀ c ∈ allLocalCandidates agent, ∀ d ∈ allLocalCandidates agent,
      (agent.candidate c).foundation = (agent.candidate d).foundation ↔
        SameFoundation (agent.candidate c) (agent.candidate d) := by
  constructor
  · exact fun h c hc d hd => h _ ⟨c, hc, rfl⟩ _ ⟨d, hd, rfl⟩
  · rintro h _ ⟨c, hc, rfl⟩ _ ⟨d, hd, rfl⟩
    exact h c hc d hd

lemma sameFoundation_of_relayed {a b : NiceCandidate} (hbase : SameBase a b)
    (h : a.type = .relayed) :
    SameFoundation a b ↔ privCompareTurnServers a.turnServer b.turnServer = true :=
  ⟨fun hsame => hsame.server h, fun hserver => ⟨hbase, fun _ => hserver⟩⟩

/-- A candidate of the server `turn` with it at `address`, and any other one as it was. -/
lemma redirected_candidate {turn : TurnServerId} {address : NiceAddress} (c : CandidateId) :
    (redirected g turn address).candidate c =
      if g.turn c = some turn then { g.agent.candidate c with turnServer := some address }
      else g.agent.candidate c := rfl

lemma redirected_base {turn : TurnServerId} {address : NiceAddress} (c d : CandidateId) :
    SameBase ((redirected g turn address).candidate c) ((redirected g turn address).candidate d) ↔
      SameBase (g.agent.candidate c) (g.agent.candidate d) := by
  rw [redirected_candidate, redirected_candidate]
  constructor
  · intro h
    split_ifs at h <;> exact ⟨h.stream, h.type, h.transport, h.base⟩
  · intro h
    split_ifs <;> exact ⟨h.stream, h.type, h.transport, h.base⟩

/-- **An alternate server** leaves the foundations right just when it separates and joins no
candidates. -/
lemma Gathered.redirected_iff (h : Gathered g) (turn : TurnServerId) (address : NiceAddress) :
    FoundationsExact (redirected g turn address) ↔ KeepsServers g turn address := by
  have hserver {c : CandidateId} (hc : c ∈ allLocalCandidates g.agent)
      (hturn : g.turn c = some turn) (hrelayed : (g.agent.candidate c).type = .relayed) :
      (g.agent.candidate c).turnServer = some (g.server turn) := by
    obtain ⟨turn', hturn', hserver⟩ := h.turn c hc hrelayed
    obtain rfl := Option.some.inj (hturn.symm.trans hturn')
    exact hserver
  have hfoundation (c : CandidateId) : ((redirected g turn address).candidate c).foundation =
      (g.agent.candidate c).foundation := by
    rw [redirected_candidate]
    split_ifs <;> rfl
  have htype (c : CandidateId) : ((redirected g turn address).candidate c).type =
      (g.agent.candidate c).type := by
    rw [redirected_candidate]
    split_ifs <;> rfl
  have hmoved {c : CandidateId} (hturn : g.turn c = some turn) :
      ((redirected g turn address).candidate c).turnServer = some address := by
    rw [redirected_candidate, if_pos hturn]
  have hstays {c : CandidateId} (hturn : g.turn c ≠ some turn) :
      (redirected g turn address).candidate c = g.agent.candidate c := by
    rw [redirected_candidate, if_neg hturn]
  -- of a relayed candidate of the server and one of another server
  have hone {c d : CandidateId} (hc : c ∈ allLocalCandidates g.agent) (hturn : g.turn c = some turn)
      (hturn' : g.turn d ≠ some turn) (hbase : SameBase (g.agent.candidate c) (g.agent.candidate d))
      (hrelayed : (g.agent.candidate c).type = .relayed) :
      (SameFoundation (g.agent.candidate c) (g.agent.candidate d) ↔
        privCompareTurnServers (some (g.server turn)) (g.agent.candidate d).turnServer = true) ∧
      (SameFoundation ((redirected g turn address).candidate c)
          ((redirected g turn address).candidate d) ↔
        privCompareTurnServers (some address) (g.agent.candidate d).turnServer = true) := by
    have hbase' := (@redirected_base g turn address c d).mpr hbase
    have hrelayed' := (htype c).trans hrelayed
    rw [sameFoundation_of_relayed hbase hrelayed, sameFoundation_of_relayed hbase' hrelayed',
      hserver hc hturn hrelayed, hmoved hturn, hstays hturn']
    exact ⟨Iff.rfl, Iff.rfl⟩
  rw [foundationsExact_iff]
  have hexact := foundationsExact_iff.mp h.exact
  constructor
  · intro hafter c hc d hd hturn hturn' hbase hrelayed
    obtain ⟨hbefore, hthen⟩ := hone hc hturn hturn' hbase hrelayed
    have hiff := hafter c hc d hd
    rw [hfoundation, hfoundation, hexact c hc d hd, hbefore, hthen] at hiff
    exact hiff
  · intro hkeeps c hc d hd
    have hc : c ∈ allLocalCandidates g.agent := hc
    have hd : d ∈ allLocalCandidates g.agent := hd
    rw [hfoundation, hfoundation, hexact c hc d hd]
    by_cases hbase : SameBase (g.agent.candidate c) (g.agent.candidate d)
    · have hbase' := (@redirected_base g turn address c d).mpr hbase
      by_cases hrelayed : (g.agent.candidate c).type = .relayed
      · have hrelayed' : (g.agent.candidate d).type = .relayed := hbase.type.symm.trans hrelayed
        by_cases hturn : g.turn c = some turn <;> by_cases hturn' : g.turn d = some turn
        · -- both move
          rw [sameFoundation_of_relayed hbase hrelayed,
            sameFoundation_of_relayed hbase' ((htype c).trans hrelayed), hserver hc hturn hrelayed,
            hserver hd hturn' hrelayed', hmoved hturn, hmoved hturn']
          exact ⟨fun _ => compareTurnServers_equivalence.refl _,
            fun _ => compareTurnServers_equivalence.refl _⟩
        · obtain ⟨hbefore, hthen⟩ := hone hc hturn hturn' hbase hrelayed
          rw [hbefore, hthen]
          exact hkeeps c hc d hd hturn hturn' hbase hrelayed
        · have hback : SameBase (g.agent.candidate d) (g.agent.candidate c) :=
            ⟨hbase.stream.symm, hbase.type.symm, hbase.transport.symm,
              equalNoPort_equivalence.symm hbase.base⟩
          obtain ⟨hbefore, hthen⟩ := hone hd hturn' hturn hback hrelayed'
          have hiff := hkeeps d hd c hc hturn' hturn hback hrelayed'
          rw [← hbefore, ← hthen] at hiff
          exact ⟨fun hs => sameFoundation_equivalence.symm
              (hiff.mp (sameFoundation_equivalence.symm hs)),
            fun hs => sameFoundation_equivalence.symm
              (hiff.mpr (sameFoundation_equivalence.symm hs))⟩
        · rw [hstays hturn, hstays hturn']
      · refine ⟨fun _ => ⟨hbase', fun hr => absurd ((htype c).symm.trans hr) hrelayed⟩,
          fun _ => ⟨hbase, fun hr => absurd hr hrelayed⟩⟩
    · exact ⟨fun hs => absurd hs.toSameBase hbase,
        fun hs => absurd ((@redirected_base g turn address c d).mp hs.toSameBase) hbase⟩

/-- The invariant after an alternate server. -/
lemma Gathered.redirected (h : Gathered g) {turn : TurnServerId} {address : NiceAddress}
    (hexact : FoundationsExact (redirected g turn address)) :
    Gathered (gather g (.alternateServer turn address)) := by
  refine ⟨hexact, ⟨h.lists.fresh, fun s hs d hd c hc => ?_⟩, fun c hc hrelayed => ?_, h.compat⟩
  · have howner := h.lists.owner s hs d hd c hc
    change ((LibNice.Ice.redirected g turn address).candidate c).streamId = s
    rw [redirected_candidate]
    split_ifs
    · exact howner
    · exact howner
  · change ((LibNice.Ice.redirected g turn address).candidate c).type = .relayed at hrelayed
    change ∃ t, g.turn c = some t ∧
      ((LibNice.Ice.redirected g turn address).candidate c).turnServer =
        some (Function.update g.server turn address t)
    rw [redirected_candidate] at hrelayed ⊢
    by_cases hturn : g.turn c = some turn
    · rw [if_pos hturn]
      exact ⟨turn, hturn, by rw [Function.update_self]⟩
    · rw [if_neg hturn] at hrelayed ⊢
      obtain ⟨turn', hturn', hserver⟩ := h.turn c hc hrelayed
      refine ⟨turn', hturn', ?_⟩
      rw [Function.update_of_ne fun heq : turn' = turn => hturn (heq ▸ hturn'), hserver]

/-- **Candidates that are removed** leave the rest as it was. -/
lemma Gathered.removed (h : Gathered g) (sid : StreamId) (cid : ComponentId)
    (keep : CandidateId → Bool) : Gathered (gather g (.remove sid cid keep)) := by
  have hstream (s : StreamId) : ((gather g (.remove sid cid keep)).agent.stream s).components =
      (g.agent.stream s).components := by
    rcases eq_or_ne s sid with rfl | hs
    · simp [gather, NiceAgent.setComponent, Stream.components]
    · simp [gather, NiceAgent.setComponent, Stream.components, hs]
  have hlocal (s : StreamId) (d : ComponentId) :
      ((((gather g (.remove sid cid keep)).agent.stream s).component d).localCandidates).Sublist
        ((g.agent.stream s).component d).localCandidates := by
    rcases eq_or_ne s sid with rfl | hs
    · rcases eq_or_ne d cid with rfl | hd
      · simp [gather, NiceAgent.setComponent]
      · simp [gather, NiceAgent.setComponent, hd]
    · simp [gather, NiceAgent.setComponent, hs]
  have hsub : ∀ c ∈ allLocalCandidates (gather g (.remove sid cid keep)).agent,
      c ∈ allLocalCandidates g.agent := by
    intro c hc
    obtain ⟨s, hs, d, hd, hc⟩ := mem_allLocalCandidates.mp hc
    exact mem_allLocalCandidates.mpr ⟨s, hs, d, hstream s ▸ hd, (hlocal s d).subset hc⟩
  refine ⟨h.exact.mono ?_, ⟨fun c hc => h.lists.fresh c (hsub c hc), fun s hs d hd c hc => ?_⟩,
    fun c hc => h.turn c (hsub c hc), h.compat⟩
  · rintro _ ⟨c, hc, rfl⟩
    exact ⟨c, hsub c hc, rfl⟩
  · exact h.lists.owner s hs d (hstream s ▸ hd) c ((hlocal s d).subset hc)

/-- **What one event does** to the foundations. -/
theorem Gathered.event (h : Gathered g) (e : GatherEvent) (hposs : e.Possible) :
    (FoundationsExact (gather g e).agent ↔ e.Fits g) ∧
      (FoundationsExact (gather g e).agent → Gathered (gather g e)) := by
  cases e with
  | host rng sid cid address transport bound =>
      have hcred := @generateCredentials_eq g.agent
        (prioritized g.agent (niceCandidateNew .host transport sid cid address address none) false)
        h.compat rng
      refine h.discovered (finishes_bound fun nicesock hbound => ?_) ?_ ?_
      · subst hbound
        rw [localHostCandidate, hcred]
        exact hposs
      · rw [localHostCandidate, hcred]
        rfl
      · rw [localHostCandidate, hcred]
        exact fun ht => by cases ht
  | serverReflexive rng sid cid address transport baseSocket natAssisted =>
      refine h.discovered finishes_some ?_ ?_
      · rw [serverReflexiveCandidate, generateCredentials_eq h.compat]
        rfl
      · rw [serverReflexiveCandidate, generateCredentials_eq h.compat]
        exact fun ht => by cases ht
  | relay rng sid cid address transport baseSocket relaySocket turn turnUsername =>
      exact h.relayed rng address transport baseSocket relaySocket turn turnUsername
  | peerReflexive env sid cid address baseSocket loc remote =>
      exact h.discovered (finishes_reflexive env loc remote) rfl fun ht => by cases ht
  | alternateServer turn address => exact ⟨h.redirected_iff turn address, h.redirected⟩
  | remove sid cid keep =>
      exact ⟨⟨fun _ => trivial, fun _ => (h.removed sid cid keep).exact⟩,
        fun _ => h.removed sid cid keep⟩

/-- **Foundations along a run** from an agent without local candidates: they are right after each of
its events just when no number is used again and no alternate server separates or joins
candidates. -/
theorem foundationsExact_run_iff (g : Gathering) (es : List GatherEvent)
    (hcompat : g.agent.compatibility = .rfc5245) (hempty : allLocalCandidates g.agent = [])
    (hposs : ∀ e ∈ es, e.Possible) :
    Along gather (fun t e => FoundationsExact (gather t e).agent) g es ↔
      Along gather (fun t e => e.Fits t) g es := by
  have hnone : ∀ c, c ∉ allLocalCandidates g.agent := by simp [hempty]
  have hstart : Gathered g := by
    refine ⟨?_, ⟨fun c hc => absurd hc (hnone c), fun s hs d hd c hc => ?_⟩,
      fun c hc => absurd hc (hnone c), hcompat⟩
    · rintro _ ⟨c, hc, -⟩
      exact absurd hc (hnone c)
    · exact absurd (mem_allLocalCandidates.mpr ⟨s, hs, d, hd, hc⟩) (hnone c)
  have halong : ∀ (es : List GatherEvent) (t : Gathering), (∀ e ∈ es, e.Possible) →
      Along gather (fun _ e => e.Possible) t es := by
    intro es
    induction es with
    | nil => exact fun _ _ => trivial
    | cons e es ih =>
        exact fun t h => ⟨h e List.mem_cons_self,
          ih _ fun e' he' => h e' (List.mem_cons_of_mem _ he')⟩
  exact Along.congr (fun t e ht hp => (ht.event e hp).1)
    (fun t e ht hp hexact => (ht.event e hp).2 hexact) es g hstart (halong es g hposs)

end Runs

/-- An agent with one stream and one component, whose TURN servers are all at 1.1.1.1. -/
def relayGathering : Gathering :=
  { agent := { twoStreamAgent [] with
      streams := [1], stream := fun _ => readyStream [], nextCandidateId := 1, nextCandidate := 0 }
    turn := fun _ => none
    server := fun turn => ⟨false, [1, 1, 1, 1], 3478 + turn, 0⟩ }

/-- A UDP socket of the host with the port `port`. -/
def hostSocket (port : ℕ) : NiceSocket :=
  { id := port, addr := ⟨false, [10, 0, 0, 1], port, 0⟩, type := .udpBsd, reliable := false
    fileno := true }

/-- A first host candidate gets a foundation of its own. -/
theorem foundationsExact_run_sample :
    Along gather (fun t e => FoundationsExact (gather t e).agent) relayGathering
      [.host ([], []) 1 1 ⟨false, [10, 0, 0, 1], 0, 0⟩ .udp (some (hostSocket 5000))] := by
  refine (foundationsExact_run_iff relayGathering _ rfl rfl ?_).mpr ⟨fun s _ hc => ?_, trivial⟩
  · intro e he
    obtain rfl := List.mem_singleton.mp he
    change (NiceAddress.equalNoPort _ _) = true
    decide
  · obtain ⟨n, ⟨c, hc, -⟩, -⟩ := hc.2.1
    cases hc

/-- Two relayed candidates of one base from two servers, the first of which then is moved to
2.2.2.2. -/
def redirectedEvents : List GatherEvent :=
  [.relay ([], []) 1 1 ⟨false, [1, 1, 1, 1], 1, 0⟩ .udp (hostSocket 5000) (hostSocket 1) 0 [],
    .relay ([], []) 1 1 ⟨false, [1, 1, 1, 1], 2, 0⟩ .udp (hostSocket 5000) (hostSocket 2) 1 [],
    .alternateServer 0 ⟨false, [2, 2, 2, 2], 3478, 0⟩]

/-- **The server is replaced in a candidate that it did not serve**: the candidates still share a
foundation, and their servers have different addresses. -/
theorem foundation_after_alternate :
    ¬∀ (g : Gathering) (es : List GatherEvent), g.agent.compatibility = .rfc5245 →
      allLocalCandidates g.agent = [] → (∀ e ∈ es, e.Possible) →
      Along gather (fun t e => FoundationsExact (gather t e).agent) g es := by
  intro h
  have hposs : ∀ e ∈ redirectedEvents, e.Possible := by
    simp [redirectedEvents, GatherEvent.Possible]
  have hexact := (h relayGathering redirectedEvents rfl rfl hposs).2.2.1
  have hsame := (foundationsExact_iff.mp hexact 0 ?_ 1 ?_).mp rfl
  · have hserver := hsame.server rfl
    revert hserver
    decide
  · change 0 ∈ [0, 1]
    decide
  · change 1 ∈ [0, 1]
    decide

end LibNice.Ice
