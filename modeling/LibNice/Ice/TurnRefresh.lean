import LibNice.Stun.Agent
import LibNice.Ice.Timer

/-!
TURN allocations and their refreshes (`stun/usages/turn.c`, `agent/conncheck.c`).

* `stunUsageTurnProcess`, `stunUsageTurnRefreshProcess`: what is read from the answer to an Allocate
  and to a Refresh request.
* `privAddNewTurnRefresh`, `relayRequestReply`: the refreshes of a new allocation.
* `privMapReplyToRelayRefresh`: a refresh that was answered.
* `InTime`: what is asked of the timer of a refresh; `refreshInterval_inTime_iff`: **it comes in
  time just for lifetimes from 60 to 4295027 seconds**.
* `turnRefresh_inTime_iff`: the same for both ways to arm it.
-/

namespace LibNice.Ice

open LibNice.Foundation LibNice.Stun

/-! ### Answers of the server -/

/-- The method of a TURN allocation. -/
def STUN_ALLOCATE : StunMethod := 0x0003

/-- The method of a refresh. -/
def STUN_REFRESH : StunMethod := 0x0004

def STUN_ATTRIBUTE_LIFETIME : StunAttribute := 0x000D
def STUN_ATTRIBUTE_BANDWIDTH : StunAttribute := 0x0010
def STUN_ATTRIBUTE_RELAY_ADDRESS : StunAttribute := 0x0016
def STUN_ATTRIBUTE_MSN_MAPPED_ADDRESS : StunAttribute := 0x8000
def STUN_ATTRIBUTE_MS_XOR_MAPPED_ADDRESS : StunAttribute := 0x8020
def STUN_ATTRIBUTE_ALTERNATE_SERVER : StunAttribute := 0x8023

/-- How TURN requests are written. -/
inductive StunUsageTurnCompatibility where
  | draft9
  | google
  | msn
  | oc2007
  | rfc5766
deriving DecidableEq, Repr

/-- What the functions of `stun/usages/turn.c` find. -/
inductive StunUsageTurnReturn where
  | relaySuccess
  | mappedSuccess
  | error
  | invalid
  | alternateServer
deriving DecidableEq, Repr

/-- `agent_to_turn_compatibility`. -/
def agentToTurnCompatibility : NiceCompatibility → StunUsageTurnCompatibility
  | .google => .google
  | .msn | .wlm2009 => .msn
  | .oc2007 | .oc2007r2 => .oc2007
  | .rfc5245 => .rfc5766

/-- What an answer says, of what the caller of the functions below reads.  An attribute that is not
there is not written. -/
structure TurnReply where
  ret : StunUsageTurnReturn
  relayAddr : Option Sockaddr
  mappedAddr : Option Sockaddr
  alternateServer : Option Sockaddr
  bandwidth : Option UInt32
  lifetime : Option UInt32
deriving DecidableEq, Repr

/-- An answer without data. -/
def TurnReply.of (ret : StunUsageTurnReturn) : TurnReply :=
  { ret, relayAddr := none, mappedAddr := none, alternateServer := none, bandwidth := none,
    lifetime := none }

/-- An address of the answer, where it can be read. -/
def findAddress (msg : StunMessage) (type : StunAttribute) : Except Fault (Option Sockaddr) := do
  match ← stunMessageFindAddr msg type SIZEOF_SOCKADDR_STORAGE with
  | (.success, addr, _) => return addr
  | _ => return none

/-- An address that is masked with `cookie`. -/
def findXorAddress (msg : StunMessage) (type : StunAttribute) (cookie : UInt32) :
    Except Fault (Option Sockaddr) := do
  match ← stunMessageFindXorAddrFull msg type SIZEOF_SOCKADDR_STORAGE cookie with
  | (.success, addr) => return addr
  | _ => return none

/-- The mapped address, which the dialects write in their own ways. -/
def findMappedAddress (msg : StunMessage) :
    StunUsageTurnCompatibility → Except Fault (Option Sockaddr)
  | .draft9 | .rfc5766 => findXorAddress msg STUN_ATTRIBUTE_XOR_MAPPED_ADDRESS STUN_MAGIC_COOKIE
  | .google => .ok none
  | .msn => findAddress msg STUN_ATTRIBUTE_MSN_MAPPED_ADDRESS
  | .oc2007 => do
      -- the mask is the field of the cookie, whatever it holds
      let cookie ← readWord32 msg.buffer 4
      findXorAddress msg STUN_ATTRIBUTE_MS_XOR_MAPPED_ADDRESS cookie

/-- The relayed address. -/
def findRelayAddress (msg : StunMessage) :
    StunUsageTurnCompatibility → Except Fault (Option Sockaddr)
  | .draft9 | .rfc5766 => findXorAddress msg STUN_ATTRIBUTE_RELAY_ADDRESS STUN_MAGIC_COOKIE
  | .google | .msn | .oc2007 => findAddress msg STUN_ATTRIBUTE_MAPPED_ADDRESS

/-- An error answer to an Allocate request. -/
def turnError (msg : StunMessage) : Except Fault TurnReply := do
  match ← stunMessageFindError msg with
  | (.success, code) =>
      if code / 100 = 3 then
        match ← findAddress msg STUN_ATTRIBUTE_ALTERNATE_SERVER with
        | some addr => return { TurnReply.of .alternateServer with alternateServer := some addr }
        | none => return .of .error
      else return .of .error
  | _ => return .of .invalid

/-- A success answer to it. -/
def turnSuccess (msg : StunMessage) (compatibility : StunUsageTurnCompatibility) :
    Except Fault TurnReply := do
  let mappedAddr ← findMappedAddress msg compatibility
  match ← findRelayAddress msg compatibility with
  | none => return { TurnReply.of .error with mappedAddr }
  | some relay =>
      let (_, lifetime) ← stunMessageFind32 msg STUN_ATTRIBUTE_LIFETIME
      let (_, bandwidth) ← stunMessageFind32 msg STUN_ATTRIBUTE_BANDWIDTH
      return { TurnReply.of (if mappedAddr.isSome then .mappedSuccess else .relaySuccess) with
        relayAddr := some relay, mappedAddr, bandwidth, lifetime }

/-- `stun_usage_turn_process`. -/
def stunUsageTurnProcess (msg : StunMessage) (compatibility : StunUsageTurnCompatibility) :
    Except Fault TurnReply := do
  if (← stunMessageGetMethod msg) ≠ STUN_ALLOCATE then return .of .invalid
  else
    match ← stunMessageGetClass msg with
    | .request | .indication => return .of .invalid
    | .error => turnError msg
    | .response => turnSuccess msg compatibility

/-- `stun_usage_turn_refresh_process`. -/
def stunUsageTurnRefreshProcess (msg : StunMessage) (compatibility : StunUsageTurnCompatibility) :
    Except Fault TurnReply := do
  let refresh := if compatibility = .draft9 ∨ compatibility = .rfc5766 then STUN_REFRESH
    else STUN_ALLOCATE
  if (← stunMessageGetMethod msg) ≠ refresh then return .of .invalid
  else
    match ← stunMessageGetClass msg with
    | .request | .indication => return .of .invalid
    | .error =>
        match ← stunMessageFindError msg with
        | (.success, _) => return .of .error
        | _ => return .of .invalid
    | .response =>
        let (_, lifetime) ← stunMessageFind32 msg STUN_ATTRIBUTE_LIFETIME
        return { TurnReply.of .relaySuccess with lifetime }

/-! ### Refreshes -/

/-- A timeout source of the main loop, with the time in milliseconds at which it was attached. -/
structure TimeoutSource where
  attached : ℕ
  interval : UInt32
deriving DecidableEq, Repr

/-- When the source fires. -/
def TimeoutSource.fires (source : TimeoutSource) : ℕ := source.attached + source.interval.toNat

/-- `agent_timeout_add_with_context`. -/
def agentTimeoutAddWithContext (now : ℕ) (interval : UInt32) : TimeoutSource :=
  { attached := now, interval }

/-- A refresh of `agent->refresh_list`.  `stunMessage` is its request while `stun_message.buffer`
is set, and `stunRespMsg` the answer that it has its credentials from. -/
structure CandidateRefresh where
  candidate : CandidateId
  stunMessage : Option StunMessage
  stunRespMsg : Option StunMessage
  timer : Option StunTimer
  timerSource : Option TimeoutSource
  tickSource : Option TimeoutSource

/-- What a refresh gets from outside: the time in milliseconds, and what
`stun_usage_turn_create_refresh` builds, if it has the room. -/
structure RefreshEnv where
  now : ℕ
  request : CandidateRefresh → StunMessage × Bool

/-- The interval of a refresh that is to be sent a minute before the allocation expires. -/
def refreshInterval (lifetime : UInt32) : UInt32 := (lifetime - 60) * 1000

/-- `priv_add_new_turn_refresh`, with the answer in `cdisco->stun_resp_msg`. -/
def privAddNewTurnRefresh (now : ℕ) (refreshList : List CandidateRefresh)
    (stunRespMsg : Option StunMessage) (relayCand : CandidateId) (lifetime : UInt32) :
    List CandidateRefresh :=
  refreshList ++
    [{ candidate := relayCand
       stunMessage := none
       stunRespMsg
       timer := none
       timerSource := some (agentTimeoutAddWithContext now (refreshInterval lifetime))
       tickSource := none }]

/-- What `priv_map_reply_to_relay_request` does to the refreshes: `relayCands` are the candidates
that `discovery_add_relay_candidate` adds, and `stale` is what its `lifetime` holds before. -/
def relayRequestReply (now : ℕ) (compatibility : NiceCompatibility)
    (refreshList : List CandidateRefresh) (stunRespMsg : Option StunMessage) (resp : StunMessage)
    (relayCands : List CandidateId) (stale : UInt32) : Except Fault (List CandidateRefresh) := do
  let reply ← stunUsageTurnProcess resp (agentToTurnCompatibility compatibility)
  if reply.ret = .relaySuccess ∨ reply.ret = .mappedSuccess then
    if compatibility = .oc2007 ∨ compatibility = .oc2007r2 then return refreshList
    else
      return relayCands.foldl (fun refreshList relayCand =>
        privAddNewTurnRefresh now refreshList stunRespMsg relayCand (reply.lifetime.getD stale))
        refreshList
  else return refreshList

/-- `priv_turn_allocate_refresh_tick_unlocked`. -/
def privTurnAllocateRefreshTick (env : RefreshEnv) (cand : CandidateRefresh) : CandidateRefresh :=
  let (msg, built) := env.request cand
  let cand := { cand with stunMessage := some msg, tickSource := none }
  if built then
    let timer := stunTimerStart ⟨env.now / 1000, env.now % 1000 * 1000⟩ STUN_TIMER_DEFAULT_TIMEOUT
      STUN_TIMER_DEFAULT_MAX_RETRANSMISSIONS
    { cand with
      timer := some timer
      tickSource := some (agentTimeoutAddWithContext env.now
        (UInt32.ofNat STUN_TIMER_DEFAULT_TIMEOUT)) }
  else cand

/-- Whether the answer is one to the request of the refresh. -/
def answersRefresh (cand : CandidateRefresh) (resp : StunMessage) : Except Fault Bool := do
  match cand.stunMessage with
  | none => return false
  | some msg =>
      let refreshId ← stunMessageId msg
      let responseId ← stunMessageId resp
      return refreshId = responseId

/-- An error answer to a refresh: the refresh after it, or nothing where it is cancelled. -/
def refreshError (env : RefreshEnv) (compatibility : NiceCompatibility) (resp : StunMessage)
    (cand : CandidateRefresh) : Except Fault (Option CandidateRefresh) := do
  let sentRealm ← match cand.stunMessage with
    | some msg => attributeValue msg STUN_ATTRIBUTE_REALM
    | none => pure none
  let recvRealm ← attributeValue resp STUN_ATTRIBUTE_REALM
  let cls ← stunMessageGetClass resp
  let (ret, code) ← stunMessageFindError resp
  if compatibility = .rfc5245 ∧ cls = .error ∧ ret = .success ∧
      (recvRealm.any fun realm => 0 < realm.length) then
    if code = 438 ∨ (code = 401 ∧ recvRealm ≠ sentRealm) then
      return some (privTurnAllocateRefreshTick env { cand with stunRespMsg := some resp })
    else return none
  else return none

/-- `priv_map_reply_to_relay_refresh`: the refreshes after it, and whether a transaction was found.
An error ends the search, and a success does not. -/
def privMapReplyToRelayRefresh (env : RefreshEnv) (compatibility : NiceCompatibility)
    (resp : StunMessage) (stale : UInt32) :
    List CandidateRefresh → Except Fault (List CandidateRefresh × Bool)
  | [] => .ok ([], false)
  | cand :: list => do
      if ← answersRefresh cand resp then
        let reply ← stunUsageTurnRefreshProcess resp (agentToTurnCompatibility compatibility)
        let lifetime := reply.lifetime.getD stale
        if reply.ret = .relaySuccess then
          let cand := { cand with
            timerSource := some (agentTimeoutAddWithContext env.now (refreshInterval lifetime))
            tickSource := none }
          let (list, found) ← privMapReplyToRelayRefresh env compatibility resp lifetime list
          return (cand :: list, found)
        else if reply.ret = .error then
          let cand ← refreshError env compatibility resp cand
          return (cand.toList ++ list, true)
        else
          let (list, found) ← privMapReplyToRelayRefresh env compatibility resp lifetime list
          return (cand :: list, found)
      else
        let (list, found) ← privMapReplyToRelayRefresh env compatibility resp stale list
        return (cand :: list, found)

/-! ### In time -/

/-- What is asked of the timer of a refresh whose allocation lives for `lifetime` seconds: it fires
before they are over, for a lifetime of more than a minute not at once, and its interval is a minute
less than the lifetime. -/
structure InTime (lifetime : UInt32) (source : TimeoutSource) : Prop where
  before : source.fires < source.attached + lifetime.toNat * 1000
  later : 60 < lifetime.toNat → source.attached < source.fires
  exact : (source.interval.toNat : ℤ) = ((lifetime.toNat : ℤ) - 60) * 1000

/-- **The refresh comes in time** just for a lifetime of at least a minute whose interval is less
than `2 ^ 32` milliseconds. -/
lemma refreshInterval_inTime_iff (now : ℕ) (lifetime : UInt32) :
    InTime lifetime (agentTimeoutAddWithContext now (refreshInterval lifetime)) ↔
      60 ≤ lifetime.toNat ∧ lifetime.toNat ≤ 4295027 := by
  have hlt := lifetime.toNat_lt
  have hinterval : (refreshInterval lifetime).toNat =
      (2 ^ 32 - 60 + lifetime.toNat) % 2 ^ 32 * 1000 % 2 ^ 32 := by
    rw [refreshInterval, UInt32.toNat_mul, UInt32.toNat_sub]
    rfl
  have hiff : InTime lifetime (agentTimeoutAddWithContext now (refreshInterval lifetime)) ↔
      (now + (refreshInterval lifetime).toNat < now + lifetime.toNat * 1000 ∧
        (60 < lifetime.toNat → now < now + (refreshInterval lifetime).toNat) ∧
        ((refreshInterval lifetime).toNat : ℤ) = ((lifetime.toNat : ℤ) - 60) * 1000) :=
    ⟨fun h => ⟨h.before, h.later, h.exact⟩, fun ⟨h₁, h₂, h₃⟩ => ⟨h₁, h₂, h₃⟩⟩
  rw [hiff]
  clear hiff
  generalize (refreshInterval lifetime).toNat = interval at hinterval ⊢
  generalize lifetime.toNat = seconds at hlt hinterval ⊢
  by_cases hlow : seconds < 60
  · -- the difference wraps below zero
    constructor
    · rintro ⟨-, -, hexact⟩
      omega
    · omega
  · have hminute : (2 ^ 32 - 60 + seconds) % 2 ^ 32 = seconds - 60 := by omega
    rw [hminute] at hinterval
    by_cases hhigh : seconds ≤ 4295027
    · rw [Nat.mod_eq_of_lt (by omega)] at hinterval
      omega
    · -- the product does not fit 32 bits
      constructor
      · rintro ⟨-, -, hexact⟩
        omega
      · omega

/-- The answer to an Allocate request grants an allocation for `lifetime` seconds. -/
def GrantsAllocation (compatibility : NiceCompatibility) (resp : StunMessage)
    (lifetime : UInt32) : Prop :=
  ∃ reply, stunUsageTurnProcess resp (agentToTurnCompatibility compatibility) = .ok reply ∧
    (reply.ret = .relaySuccess ∨ reply.ret = .mappedSuccess) ∧ reply.lifetime = some lifetime

/-- The answer to a refresh prolongs an allocation for `lifetime` seconds. -/
def GrantsRefresh (compatibility : NiceCompatibility) (resp : StunMessage)
    (lifetime : UInt32) : Prop :=
  ∃ reply, stunUsageTurnRefreshProcess resp (agentToTurnCompatibility compatibility) = .ok reply ∧
    reply.ret = .relaySuccess ∧ reply.lifetime = some lifetime

/-- The timer of the refresh runs from `now` on, for an allocation of `lifetime` seconds. -/
def RefreshedInTime (now : ℕ) (lifetime : UInt32) (cand : CandidateRefresh) : Prop :=
  ∃ source, cand.timerSource = some source ∧ source.attached = now ∧ InTime lifetime source

section Replies

variable {env : RefreshEnv} {now : ℕ} {compatibility : NiceCompatibility} {resp : StunMessage}
  {stunRespMsg : Option StunMessage} {lifetime stale : UInt32}

lemma refreshedInTime_iff {cand : CandidateRefresh}
    (h : cand.timerSource = some (agentTimeoutAddWithContext now (refreshInterval lifetime))) :
    RefreshedInTime now lifetime cand ↔ 60 ≤ lifetime.toNat ∧ lifetime.toNat ≤ 4295027 := by
  rw [← refreshInterval_inTime_iff now lifetime]
  constructor
  · rintro ⟨source, hsource, -, hin⟩
    rw [h] at hsource
    rwa [Option.some.inj hsource]
  · exact fun hin => ⟨_, h, rfl, hin⟩

/-- **A new allocation** gets a refresh for each candidate. -/
lemma relayRequestReply_eq (hgrants : GrantsAllocation compatibility resp lifetime)
    (hms : compatibility ≠ .oc2007 ∧ compatibility ≠ .oc2007r2)
    (refreshList : List CandidateRefresh) (relayCands : List CandidateId) :
    ∃ added, relayRequestReply now compatibility refreshList stunRespMsg resp relayCands stale =
        .ok (refreshList ++ added) ∧
      added.map (·.candidate) = relayCands ∧
      ∀ cand ∈ added, cand.timerSource =
        some (agentTimeoutAddWithContext now (refreshInterval lifetime)) := by
  obtain ⟨reply, hreply, hret, hlifetime⟩ := hgrants
  have hrun : relayRequestReply now compatibility refreshList stunRespMsg resp relayCands stale =
      .ok (relayCands.foldl (fun refreshList relayCand =>
        privAddNewTurnRefresh now refreshList stunRespMsg relayCand lifetime) refreshList) := by
    refine bind_eq_ok.mpr ⟨reply, hreply, ?_⟩
    rw [if_pos hret, if_neg (by tauto), hlifetime]
    rfl
  rw [hrun]
  clear hrun
  induction relayCands generalizing refreshList with
  | nil => exact ⟨[], by simp, rfl, by simp⟩
  | cons relayCand relayCands ih =>
      obtain ⟨added, hadded, hcands, htimers⟩ :=
        ih (privAddNewTurnRefresh now refreshList stunRespMsg relayCand lifetime)
      rw [List.foldl_cons, hadded, privAddNewTurnRefresh, List.append_assoc]
      refine ⟨_, rfl, by simp [hcands], fun cand hcand => ?_⟩
      rcases List.mem_append.mp hcand with h | h
      · rw [List.mem_singleton.mp h]
      · exact htimers cand h

/-- **A prolonged allocation** gets its timer armed again, and no other refresh changes. -/
lemma privMapReplyToRelayRefresh_spec (hgrants : GrantsRefresh compatibility resp lifetime)
    (list : List CandidateRefresh) :
    ∀ {stale : UInt32} {list' : List CandidateRefresh} {found : Bool},
      privMapReplyToRelayRefresh env compatibility resp stale list = .ok (list', found) →
      List.Forall₂ (fun cand cand' =>
        (answersRefresh cand resp = .ok true ∧ cand'.timerSource =
          some (agentTimeoutAddWithContext env.now (refreshInterval lifetime))) ∨
        (answersRefresh cand resp = .ok false ∧ cand' = cand)) list list' := by
  obtain ⟨reply, hreply, hret, hlifetime⟩ := hgrants
  induction list with
  | nil =>
      intro stale list' found h
      obtain ⟨rfl, -⟩ := Prod.mk.inj (Except.ok.inj h)
      exact .nil
  | cons cand list ih =>
      intro stale list' found h
      rw [privMapReplyToRelayRefresh] at h
      obtain ⟨answers, hanswers, h⟩ := bind_eq_ok.mp h
      cases answers with
      | true =>
          rw [if_pos rfl] at h
          obtain ⟨reply', hreply', h⟩ := bind_eq_ok.mp h
          obtain rfl := Except.ok.inj (hreply.symm.trans hreply')
          rw [if_pos hret, hlifetime] at h
          obtain ⟨⟨rest, found'⟩, hrest, h⟩ := bind_eq_ok.mp h
          obtain ⟨rfl, -⟩ := Prod.mk.inj (Except.ok.inj h)
          exact .cons (.inl ⟨hanswers, rfl⟩) (ih hrest)
      | false =>
          rw [if_neg Bool.false_ne_true] at h
          obtain ⟨⟨rest, found'⟩, hrest, h⟩ := bind_eq_ok.mp h
          obtain ⟨rfl, -⟩ := Prod.mk.inj (Except.ok.inj h)
          exact .cons (.inr ⟨hanswers, rfl⟩) (ih hrest)

end Replies

/-- **The refreshes come in time** just for lifetimes from 60 to 4295027 seconds, both for a new
allocation and for a prolonged one. -/
theorem turnRefresh_inTime_iff (compatibility : NiceCompatibility) (lifetime : UInt32) :
    (∀ (now : ℕ) (refreshList : List CandidateRefresh) (stunRespMsg : Option StunMessage)
      (resp : StunMessage) (relayCands : List CandidateId) (stale : UInt32),
      GrantsAllocation compatibility resp lifetime →
      compatibility ≠ .oc2007 ∧ compatibility ≠ .oc2007r2 →
      ∃ added, relayRequestReply now compatibility refreshList stunRespMsg resp relayCands stale =
          .ok (refreshList ++ added) ∧
        added.map (·.candidate) = relayCands ∧
        ∀ cand ∈ added, RefreshedInTime now lifetime cand ↔
          60 ≤ lifetime.toNat ∧ lifetime.toNat ≤ 4295027) ∧
    ∀ (env : RefreshEnv) (refreshList : List CandidateRefresh) (resp : StunMessage)
      (stale : UInt32) (refreshList' : List CandidateRefresh) (found : Bool),
      GrantsRefresh compatibility resp lifetime →
      privMapReplyToRelayRefresh env compatibility resp stale refreshList =
        .ok (refreshList', found) →
      List.Forall₂ (fun cand cand' =>
        (answersRefresh cand resp = .ok true ∧
          (RefreshedInTime env.now lifetime cand' ↔
            60 ≤ lifetime.toNat ∧ lifetime.toNat ≤ 4295027)) ∨
        (answersRefresh cand resp = .ok false ∧ cand' = cand)) refreshList refreshList' := by
  constructor
  · intro now refreshList stunRespMsg resp relayCands stale hgrants hms
    obtain ⟨added, hrun, hcands, htimers⟩ :=
      @relayRequestReply_eq now compatibility resp stunRespMsg lifetime stale hgrants hms
        refreshList relayCands
    exact ⟨added, hrun, hcands, fun cand hcand => refreshedInTime_iff (htimers cand hcand)⟩
  · intro env refreshList resp stale refreshList' found hgrants hrun
    refine (privMapReplyToRelayRefresh_spec hgrants refreshList hrun).imp ?_
    rintro cand cand' (⟨hanswers, htimer⟩ | hother)
    · exact .inl ⟨hanswers, refreshedInTime_iff htimer⟩
    · exact .inr hother

/-- The success answer to a refresh with the given transaction id and lifetime. -/
def refreshResponse (id : Bytes) (lifetime : UInt32) : StunMessage :=
  { agent := none
    buffer := [0x01, 0x04, 0x00, 0x08] ++ id ++ [0x00, 0x0D, 0x00, 0x04] ++ be32 lifetime
    key := none
    longTermKey := []
    longTermValid := false }

/-- A refresh that waits for its answer. -/
def waitingRefresh (id : Bytes) : CandidateRefresh :=
  { candidate := 0
    stunMessage := some
      { agent := none, buffer := [0x00, 0x04, 0x00, 0x00] ++ id, key := none, longTermKey := [],
        longTermValid := false }
    stunRespMsg := none
    timer := none
    timerSource := none
    tickSource := none }

/-- The transaction id of the samples. -/
def sampleId : Bytes := be32 STUN_MAGIC_COOKIE ++ List.replicate 12 7

/-- The success answer to an Allocate request, with a relayed address. -/
def allocateResponse (id : Bytes) (lifetime : UInt32) : StunMessage :=
  { agent := none
    buffer := [0x01, 0x03, 0x00, 0x14] ++ id ++
      [0x00, 0x16, 0x00, 0x08, 0x00, 0x01, 0x11, 0x22, 0x01, 0x02, 0x03, 0x04] ++
      [0x00, 0x0D, 0x00, 0x04] ++ be32 lifetime
    key := none
    longTermKey := []
    longTermValid := false }

/-- An allocation for ten minutes, and its refresh. -/
theorem turnRefresh_inTime_sample :
    (∃ added, relayRequestReply 5 .rfc5245 [] none (allocateResponse sampleId 600) [1] 0 =
        .ok added ∧ added.map (·.candidate) = [1] ∧ ∀ cand ∈ added, RefreshedInTime 5 600 cand) ∧
    ∃ cand found, privMapReplyToRelayRefresh ⟨7, fun _ => (refreshResponse sampleId 600, false)⟩
        .rfc5245 (refreshResponse sampleId 600) 0 [waitingRefresh sampleId] = .ok ([cand], found) ∧
      RefreshedInTime 7 600 cand := by
  obtain ⟨hadd, hprolong⟩ := turnRefresh_inTime_iff .rfc5245 600
  constructor
  · have hreply : ∃ reply, stunUsageTurnProcess (allocateResponse sampleId 600) .rfc5766 =
        .ok reply ∧ reply.ret = .relaySuccess ∧ reply.lifetime = some 600 :=
      ⟨_, rfl, by decide +kernel, by decide +kernel⟩
    obtain ⟨reply, hprocess, hret, hlifetime⟩ := hreply
    obtain ⟨added, hrun, hcands, htimers⟩ := hadd 5 [] none (allocateResponse sampleId 600) [1] 0
      ⟨reply, hprocess, .inl hret, hlifetime⟩ (by decide)
    exact ⟨added, hrun, hcands, fun cand hcand => (htimers cand hcand).mpr (by decide)⟩
  · have hgrants : GrantsRefresh .rfc5245 (refreshResponse sampleId 600) 600 :=
      ⟨{ TurnReply.of .relaySuccess with lifetime := some 600 }, by decide +kernel, rfl, rfl⟩
    refine ⟨_, false, rfl, ?_⟩
    have hrun := hprolong ⟨7, fun _ => (refreshResponse sampleId 600, false)⟩
      [waitingRefresh sampleId] (refreshResponse sampleId 600) 0 _ false hgrants rfl
    rcases List.forall₂_cons.mp hrun with ⟨⟨-, hiff⟩ | ⟨hanswers, -⟩, -⟩
    · exact hiff.mpr (by decide)
    · exact absurd hanswers (by decide +kernel)

/-- A refresh whose allocation lives for half a minute longer is armed for almost 50 days. -/
theorem turnRefresh_too_late :
    ¬∀ (lifetime : UInt32) (env : RefreshEnv) (refreshList : List CandidateRefresh)
      (resp : StunMessage) (stale : UInt32) (refreshList' : List CandidateRefresh) (found : Bool),
      1 ≤ lifetime.toNat → GrantsRefresh .rfc5245 resp lifetime →
      privMapReplyToRelayRefresh env .rfc5245 resp stale refreshList = .ok (refreshList', found) →
      List.Forall₂ (fun cand cand' =>
        (answersRefresh cand resp = .ok true ∧ RefreshedInTime env.now lifetime cand') ∨
        (answersRefresh cand resp = .ok false ∧ cand' = cand)) refreshList refreshList' := by
  intro h
  have hgrants : GrantsRefresh .rfc5245 (refreshResponse sampleId 30) 30 :=
    ⟨{ TurnReply.of .relaySuccess with lifetime := some 30 }, by decide +kernel, rfl, rfl⟩
  have hrun := h 30 ⟨0, fun _ => (refreshResponse sampleId 30, false)⟩ [waitingRefresh sampleId]
    (refreshResponse sampleId 30) 0 _ _ (by decide) hgrants rfl
  rcases List.forall₂_cons.mp hrun with ⟨⟨-, source, hsource, -, hin⟩ | ⟨hanswers, -⟩, -⟩
  · have hbefore := hin.before
    rw [← Option.some.inj hsource] at hbefore
    revert hbefore
    decide +kernel
  · exact absurd hanswers (by decide +kernel)

end LibNice.Ice
