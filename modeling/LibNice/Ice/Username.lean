import LibNice.Stun.Reply
import LibNice.Ice.Usage

/-!
The usernames of connectivity checks, from `agent/conncheck.c`.

* `privGenUsername`, `privCreateUsername`: the username of an outbound check.
* `conncheckStunValidater`: the user that a check is from, and its password.
* `Built`: the usernames of the checks of an RFC 5245 peer.
* `Agreement`: the two agree about a username.
* `username_agreement_iff`: they do, unless a ufrag that only begins the username
  comes first; `foreign_username_accepted` is a username of another session.
-/

namespace LibNice.Ice

open LibNice.Foundation LibNice.Stun

/-! ### The functions -/

/-- `:`. -/
def colon : UInt8 := 0x3a

/-- `priv_gen_username`: the username in a block of `destLen` bytes, or nothing. -/
def privGenUsername (env : Env) (compatibility : NiceCompatibility) (componentId : ComponentId)
    (remote loc : Bytes) (destLen : ℕ) : Bytes :=
  if remote.length > 0 ∧ loc.length > 0 then
    match compatibility with
    | .rfc5245 =>
        if destLen ≥ remote.length + loc.length + 1 then remote ++ [colon] ++ loc else []
    | .wlm2009 | .oc2007r2 =>
        if destLen ≥ remote.length + loc.length + 4 then
          let dest := remote ++ [colon] ++ loc
          dest ++ List.replicate (stunPadding dest.length) 0
        else []
    | .google => if destLen ≥ remote.length + loc.length then remote ++ loc else []
    | .msn | .oc2007 =>
        let componentStr := (ascii (toString componentId)).take 9
        let localDecoded := env.base64Decode loc
        let remoteDecoded := env.base64Decode remote
        let totalLen := remoteDecoded.length + localDecoded.length + 3 + 2 * componentStr.length
        let padding := 4 - totalLen % 4
        if destLen ≥ totalLen + padding then
          remoteDecoded ++ [colon] ++ componentStr ++ [colon] ++ localDecoded ++ [colon] ++
            componentStr ++ List.replicate padding 0
        else []
  else []

/-- The username of a candidate or, where it has none, the ufrag of the stream. -/
def usernameOf (cand : Option NiceCandidate) (ufrag : Option Bytes) : Option Bytes :=
  (cand.bind (·.username)).or ufrag

/-- `priv_create_username`. -/
def privCreateUsername (env : Env) (agent : NiceAgent) (stream : Option Stream)
    (componentId : ComponentId) (remote loc : Option NiceCandidate) (destLen : ℕ)
    (inbound : Bool) : Bytes :=
  match usernameOf loc (stream.map (·.localUfrag)),
    usernameOf remote (stream.map (·.remoteUfrag)) with
  | some localUsername, some remoteUsername =>
      if inbound then
        privGenUsername env agent.compatibility componentId localUsername remoteUsername destLen
      else
        privGenUsername env agent.compatibility componentId remoteUsername localUsername destLen
  | _, _ => []

/-- The ufrag by which a local candidate is known. -/
def localName (stream : Stream) (cand : NiceCandidate) : Bytes :=
  cand.username.getD stream.localUfrag

/-- Its password. -/
def localPass (stream : Stream) (cand : NiceCandidate) : Option Bytes :=
  cand.password.or (if stream.localPassword ≠ [] then some stream.localPassword else none)

/-- The loop of `conncheck_stun_validater`, with `key` what `*password` was before. -/
def validaterLoop (env : Env) (decode : Bool) (stream : Stream) (username : Bytes)
    (key : Option Bytes) : List NiceCandidate → Option (Option Bytes)
  | [] => none
  | cand :: cands =>
      let ufrag := if decode then env.base64Decode (localName stream cand)
        else localName stream cand
      if ufrag.length > 0 ∧ username.length ≥ ufrag.length ∧
          username.take ufrag.length = ufrag then
        match localPass stream cand with
        | some pass => some (some (if decode then env.base64Decode pass else pass))
        | none => some key
      else validaterLoop env decode stream username key cands

/-- `conncheck_stun_validater`, with the agent, the stream and the component of its user
data. -/
def conncheckStunValidater (env : Env) (agent : NiceAgent) (stream : Stream)
    (component : Component) : StunMessageIntegrityValidate :=
  fun _ message username key =>
    let decode := agent.compatibility = .msn ∨ agent.compatibility = .oc2007
    let candidates :=
      if agent.compatibility = .oc2007 then
        match stunMessageGetClass message with
        | .ok .response => component.remoteCandidates
        | _ => component.localCandidates
      else component.localCandidates
    validaterLoop env decode stream (username.getD []) key (candidates.map agent.candidate)

/-! ### The user of a check -/

/-- The local candidates of a component. -/
def localCands (agent : NiceAgent) (component : Component) : List NiceCandidate :=
  component.localCandidates.map agent.candidate

/-- The ufrag of the candidate begins the username. -/
def begins (stream : Stream) (username : Bytes) (cand : NiceCandidate) : Bool :=
  localName stream cand ≠ [] && (localName stream cand).isPrefixOf username

/-- The part of a username before its first `:`. -/
def userPart (username : Bytes) : Bytes := username.takeWhile (· ≠ colon)

/-- A ufrag of ICE characters. -/
def IceUfrag (ufrag : Bytes) : Prop := ufrag ≠ [] ∧ colon ∉ ufrag

section Validater

variable {env : Env} {agent : NiceAgent} {stream : Stream} {component : Component}
  {username ufrag : Bytes} {key : Option Bytes}

lemma begins_iff (cand : NiceCandidate) :
    begins stream username cand = true ↔ (localName stream cand).length > 0 ∧
      username.length ≥ (localName stream cand).length ∧
        username.take (localName stream cand).length = localName stream cand := by
  rw [begins, Bool.and_eq_true, decide_eq_true_eq, List.isPrefixOf_iff_prefix,
    List.prefix_iff_eq_take, gt_iff_lt, List.length_pos_iff]
  refine and_congr_right fun _ => ⟨fun h => ⟨?_, h.symm⟩, fun h => h.2.symm⟩
  have := congrArg List.length h
  rw [List.length_take] at this
  omega

/-- The validater looks for the first candidate whose ufrag begins the username. -/
lemma validaterLoop_eq (cands : List NiceCandidate) :
    validaterLoop env false stream username none cands =
      (cands.find? (begins stream username)).map (localPass stream) := by
  induction cands with
  | nil => rfl
  | cons cand cands ih =>
      rw [validaterLoop, List.find?_cons]
      simp only [Bool.false_eq_true, if_false]
      by_cases hb : begins stream username cand = true
      · rw [if_pos ((begins_iff cand).mp hb), hb]
        cases hp : localPass stream cand <;> simp [hp]
      · rw [if_neg fun h => hb ((begins_iff cand).mpr h)]
        simp only [hb]
        exact ih

/-- The same for the request of an RFC 5245 agent. -/
lemma conncheckStunValidater_eq (hcompat : agent.compatibility = .rfc5245) (stun : StunAgent)
    (message : StunMessage) :
    conncheckStunValidater env agent stream component stun message (some username) none =
      ((localCands agent component).find? (begins stream username)).map (localPass stream) := by
  rw [conncheckStunValidater, hcompat]
  exact validaterLoop_eq _

/-- The part before the `:` of a username that is built from two ufrags. -/
lemma userPart_append (h : colon ∉ ufrag) (rest : Bytes) :
    userPart (ufrag ++ [colon] ++ rest) = ufrag := by
  have hall : ∀ c ∈ ufrag, decide (c ≠ colon) = true := fun c hc =>
    decide_eq_true fun he => h (he ▸ hc)
  rw [userPart, List.append_assoc, List.takeWhile_append_of_pos hall]
  simp

end Validater

/-! ### Agreement -/

/-- The username of a check that an RFC 5245 peer sends to the component: the peer knows
one of its candidates by the ufrag `remote`, and itself has the ufrag `loc`. -/
structure Built (agent : NiceAgent) (stream : Stream) (component : Component)
    (username : Bytes) : Prop where
  sent : username ≠ []
  built : ∃ (env : Env) (peer : NiceAgent) (peerStream : Stream) (componentId : ComponentId)
      (remote loc : Option NiceCandidate) (cand : NiceCandidate) (ufrag : Bytes),
    peer.compatibility = .rfc5245 ∧ cand ∈ localCands agent component ∧
      usernameOf remote (some peerStream.remoteUfrag) = some (localName stream cand) ∧
      usernameOf loc (some peerStream.localUfrag) = some ufrag ∧ IceUfrag ufrag ∧
      username = privCreateUsername env peer (some peerStream) componentId remote loc
        NICE_STREAM_MAX_UNAME false

/-- What the validater has to do with a username: a check of the peer gets the password of a
candidate with the ufrag before the `:`, and no other username is accepted. -/
structure Agreement (env : Env) (agent : NiceAgent) (stream : Stream) (component : Component)
    (stun : StunAgent) (message : StunMessage) (username : Bytes) : Prop where
  accepts : Built agent stream component username →
    ∃ cand ∈ localCands agent component, localName stream cand = userPart username ∧
      conncheckStunValidater env agent stream component stun message (some username) none =
        some (localPass stream cand)
  only : ∀ key,
    conncheckStunValidater env agent stream component stun message (some username) none =
      some key → ∃ cand ∈ localCands agent component, localName stream cand = userPart username

/-- The first candidate whose ufrag begins the username is none that only begins it: there
is a candidate with the ufrag before the `:`, and for a check of the peer it has the same
password. -/
def FirstNamed (agent : NiceAgent) (stream : Stream) (component : Component)
    (username : Bytes) : Prop :=
  ∀ first, (localCands agent component).find? (begins stream username) = some first →
    ∃ cand ∈ localCands agent component, localName stream cand = userPart username ∧
      (Built agent stream component username → localPass stream first = localPass stream cand)

/-- A check of the peer begins with a ufrag of the component and a `:`. -/
lemma Built.eq_append {agent : NiceAgent} {stream : Stream} {component : Component}
    {username : Bytes} (h : Built agent stream component username) :
    ∃ cand ∈ localCands agent component, ∃ rest,
      username = localName stream cand ++ [colon] ++ rest := by
  obtain ⟨env, peer, peerStream, componentId, remote, loc, cand, ufrag, hcompat, hcand, hremote,
    hloc, -, hname⟩ := h.built
  have hne := h.sent
  refine ⟨cand, hcand, ufrag, ?_⟩
  rw [hname, privCreateUsername] at hne ⊢
  simp only [Option.map_some, hremote, hloc, Bool.false_eq_true, if_false, privGenUsername,
    hcompat] at hne ⊢
  by_cases hpos : (localName stream cand).length > 0 ∧ ufrag.length > 0
  · rw [if_pos hpos] at hne ⊢
    split at hne
    next hroom => rw [if_pos hroom]
    next => exact absurd rfl hne
  · rw [if_neg hpos] at hne
    exact absurd rfl hne

/-- **Username agreement.**  An RFC 5245 agent treats a username as its peer means it
exactly when no ufrag that only begins the username comes first. -/
theorem username_agreement_iff (env : Env) (agent : NiceAgent) (stream : Stream)
    (component : Component) (stun : StunAgent) (message : StunMessage) (username : Bytes)
    (hcompat : agent.compatibility = .rfc5245)
    (hufrags : ∀ cand ∈ localCands agent component, IceUfrag (localName stream cand)) :
    Agreement env agent stream component stun message username ↔
      FirstNamed agent stream component username := by
  have hval := @conncheckStunValidater_eq env agent stream component username hcompat stun message
  constructor
  · intro h first hfirst
    rw [hfirst, Option.map_some] at hval
    by_cases hbuilt : Built agent stream component username
    · obtain ⟨cand, hcand, hname, hpass⟩ := h.accepts hbuilt
      exact ⟨cand, hcand, hname, fun _ => Option.some.inj (hval.symm.trans hpass)⟩
    · obtain ⟨cand, hcand, hname⟩ := h.only _ hval
      exact ⟨cand, hcand, hname, fun hyes => absurd hyes hbuilt⟩
  · intro h
    refine ⟨fun hbuilt => ?_, fun key hkey => ?_⟩
    · obtain ⟨known, hknown, rest, hname⟩ := hbuilt.eq_append
      have hbegins : begins stream username known = true := by
        rw [begins, Bool.and_eq_true, decide_eq_true_eq, List.isPrefixOf_iff_prefix, hname,
          List.append_assoc]
        exact ⟨(hufrags known hknown).1, List.prefix_append _ _⟩
      obtain ⟨first, hfirst⟩ := Option.isSome_iff_exists.mp
        (List.find?_isSome.mpr ⟨known, hknown, hbegins⟩)
      obtain ⟨cand, hcand, hpart, hpass⟩ := h first hfirst
      refine ⟨cand, hcand, hpart, ?_⟩
      rw [hval, hfirst, Option.map_some, hpass hbuilt]
    · rw [hval] at hkey
      obtain ⟨first, hfirst, -⟩ := Option.map_eq_some_iff.mp hkey
      obtain ⟨cand, hcand, hpart, -⟩ := h first hfirst
      exact ⟨cand, hcand, hpart⟩

/-! ### A username of another session -/

/-- A host candidate without a username of its own. -/
def hostCandidate : NiceCandidate :=
  { type := .host
    transport := .udp
    addr := ⟨false, [10, 0, 0, 1], 9, 0⟩
    baseAddr := ⟨false, [10, 0, 0, 1], 9, 0⟩
    priority := 1
    streamId := 1
    componentId := 1
    foundation := ascii "1"
    username := none
    password := none
    turnServer := none
    sockptr := none }

/-- A component with that candidate. -/
def hostComponent : Component :=
  { state := .connecting
    localCandidates := [0]
    remoteCandidates := []
    incomingChecks := []
    selectedPair := .clear
    turnCandidate := none
    stunAgent := niceAgentInitStunAgent .rfc5245 none }

/-- Its stream, with the ufrag `abcd`. -/
def hostStream : Stream :=
  { nComponents := 1
    component := fun _ => hostComponent
    conncheckList := []
    localUfrag := ascii "abcd"
    localPassword := ascii "secret"
    remoteUfrag := ascii "wxyz"
    remotePassword := ascii "hidden"
    initialBindingRequestReceived := false }

/-- An RFC 5245 agent with that stream. -/
def hostAgent : NiceAgent :=
  { controllingMode := true
    tieBreaker := 0
    compatibility := .rfc5245
    softwareAttribute := none
    reliable := false
    keepaliveConncheck := false
    maxConnChecks := 100
    mediaAfterTick := false
    nextStreamId := 2
    nextCandidateId := 2
    streams := [1]
    stream := fun _ => hostStream
    nextCandidate := 1
    candidate := fun _ => hostCandidate
    nextPair := 0
    pair := fun _ =>
      { streamId := 1
        componentId := 1
        localCand := 0
        remoteCand := 0
        sockptr := none
        foundation := []
        state := .frozen
        nominated := false
        controlling := true
        timerRestarted := false
        priority := 0
        stunMessage := none }
    discoveryList := []
    otherIds := []
    conncheckTimer := false
    keepaliveTimer := false
    transids := 0
    trace := [] }

/-- An environment without base64 and without TCP. -/
def plainEnv : Env :=
  { transid := fun _ => List.replicate 16 0
    base64Encode := fun b => b
    base64Decode := fun b => b
    tcpActiveSocketConnect := fun _ _ => none }

/-- The username `abcd:wxyz`. -/
theorem username_agreement_sample :
    Agreement plainEnv hostAgent hostStream hostComponent hostComponent.stunAgent
      ⟨none, [], none, [], false⟩ (ascii "abcd:wxyz") := by
  have hcand : hostCandidate ∈ localCands hostAgent hostComponent := by simp [localCands, hostAgent,
    hostComponent]
  have honly (cand : NiceCandidate) (h : cand ∈ localCands hostAgent hostComponent) :
      cand = hostCandidate := by
    simpa [localCands, hostAgent, hostComponent] using h
  refine (username_agreement_iff plainEnv hostAgent hostStream hostComponent
    hostComponent.stunAgent ⟨none, [], none, [], false⟩ (ascii "abcd:wxyz") rfl ?_).mpr ?_
  · intro cand h
    rw [honly cand h]
    exact ⟨by decide, by decide⟩
  · intro first h
    rw [honly first (List.mem_of_find?_eq_some h)]
    exact ⟨hostCandidate, hcand, by decide, fun _ => rfl⟩

/-- With the local ufrag `abcd`, a check for the user `abcdefgh` of another session is
accepted under the password of this one. -/
theorem foreign_username_accepted :
    conncheckStunValidater plainEnv hostAgent hostStream hostComponent hostComponent.stunAgent
        ⟨none, [], none, [], false⟩ (some (ascii "abcdefgh:wxyz")) none =
      some (some (ascii "secret")) ∧
    userPart (ascii "abcdefgh:wxyz") = ascii "abcdefgh" ∧
    ∀ cand ∈ localCands hostAgent hostComponent,
      localName hostStream cand ≠ ascii "abcdefgh" := by
  refine ⟨by decide, by decide, fun cand h => ?_⟩
  obtain rfl : cand = hostCandidate := by simpa [localCands, hostAgent, hostComponent] using h
  decide

end LibNice.Ice
