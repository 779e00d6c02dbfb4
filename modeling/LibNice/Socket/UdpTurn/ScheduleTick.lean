import LibNice.Foundation.Cells
import LibNice.Ice.TimerSchedule
import LibNice.Socket.UdpTurn.BindingRuns

/-!
`priv_schedule_tick` (`socket/udp-turn.c`) on the linked list of its CreatePermission requests, and
with the intervals of the sources that it makes.

* `TickSource`, `privTimeoutAddWithContext`: a timeout source, by the arguments it is made with.
* `TickState`: the socket, with the elements of `pending_permissions` at their addresses.
* `permissionTickUnlocked`, `scheduleLoop`, `scheduleTick`: the walk over the list.
* `retransmissionsTickUnlocked`, `privScheduleTickIn`: the recursion through the binding request.
* `Spent`: every deadline that a timer has left has passed.
* `scheduleLoop_spec`, `privScheduleTickIn_spec`: **the function ends**, never touches an element
  that was freed, and comes to `Scheduled`.
* `scheduled_inTime_iff`: the sources fire when they should just when no request is left.
-/

namespace LibNice.UdpTurn

open LibNice.Foundation LibNice.Stun LibNice.Ice

/-! ### Sources -/

/-- A timeout source: what `g_timeout_source_new` or `g_timeout_source_new_seconds` was given. -/
structure TickSource where
  interval : ℕ
  seconds : Bool
deriving DecidableEq, Repr

/-- After how many milliseconds the source is to fire. -/
def TickSource.delay (source : TickSource) : ℕ :=
  if source.seconds then source.interval * 1000 else source.interval

/-- `priv_timeout_add_with_context`. -/
def privTimeoutAddWithContext (interval : ℕ) (seconds : Bool) : TickSource := { interval, seconds }

/-- `G_MAXUINT`. -/
def G_MAXUINT : ℕ := 2 ^ 32 - 1

/-! ### The state -/

/-- The socket, with the list `pending_permissions` as it lies in memory and the two tick sources.
`processed` are the elements that `priv_retransmissions_create_permission_tick_unlocked` was called
for. -/
structure TickState where
  priv : UdpTurnPriv
  pending : Cells TURNMessage
  channelBind : Option TickSource
  createPermission : Option TickSource
  processed : List ℕ

/-- Why a walk comes to nothing: it has touched an element that was freed, or it has not ended. -/
inductive TickFault where
  | freed
  | rounds
deriving DecidableEq, Repr

variable (env : Env)

/-! ### The walk over the list -/

/-- `priv_retransmissions_create_permission_tick_unlocked`, for the element at `p`. -/
def permissionTickUnlocked (s : TickState) (p : ℕ) : Except TickFault (TickState × Bool) :=
  match s.pending.deref p with
  | none => .error .freed
  | some msg =>
      let s := { s with processed := s.processed ++ [p] }
      match stunTimerRefreshWord s.priv.clock msg.timer with
      | (_, .timeout) =>
          .ok ({ s with
            priv := permissionTimedOut env s.priv msg
            pending := s.pending.delete p }, false)
      | (timer, .retransmit) =>
          .ok ({ s with
            priv := (socketSendWrapped env s.priv msg.length).1
            pending := s.pending.store p { msg with timer } }, true)
      | (_, .success) => .ok (s, true)

/-- The loop of `priv_schedule_tick` at the element `i`, with `prev` and `min_timeout`. -/
def scheduleLoop : ℕ → TickState → Option ℕ → Option ℕ → ℕ → Except TickFault (TickState × ℕ)
  | _, s, none, _, minTimeout => .ok (s, minTimeout)
  | 0, _, some _, _, _ => .error .rounds
  | rounds + 1, s, some i, prev, minTimeout =>
      match s.pending.deref i, s.pending.next i with
      | some msg, some next =>
          let timeout := stunTimerRemainderWord s.priv.clock msg.timer
          if timeout > 0 then scheduleLoop rounds s next (some i) (min minTimeout timeout)
          else
            match permissionTickUnlocked env s i with
            | .error e => .error e
            | .ok (s, _) =>
                match s.pending.follow prev with
                | none => .error .freed
                | some next => scheduleLoop rounds s next prev minTimeout
      | _, _ => .error .freed

/-- The second half of `priv_schedule_tick`.  The source is made with `FALSE` for the interval and
`min_timeout` for `seconds`. -/
def scheduleCells (rounds : ℕ) (s : TickState) : Except TickFault TickState := do
  let s := { s with createPermission := none }
  let (s, minTimeout) ← scheduleLoop env rounds s s.pending.head none G_MAXUINT
  return if minTimeout ≠ G_MAXUINT then
      { s with createPermission := some (privTimeoutAddWithContext 0 (minTimeout ≠ 0)) }
    else s

/-- `priv_schedule_tick`, where `tick` is `priv_retransmissions_tick_unlocked`. -/
def scheduleTick (rounds : ℕ) (tick : TickState → Except TickFault TickState) (s : TickState) :
    Except TickFault TickState := do
  let s := { s with channelBind := none }
  let s ← match s.priv.currentBindingMsg with
    | none => .ok s
    | some msg =>
        let timeout := stunTimerRemainderWord s.priv.clock msg.timer
        if timeout > 0 then
          .ok { s with channelBind := some (privTimeoutAddWithContext timeout false) }
        else tick s
  scheduleCells env rounds s

/-! ### The binding request -/

section Schedule

variable (schedule : TickState → Except TickFault TickState)

/-- `priv_send_turn_message`. -/
def sendTurnMessage (s : TickState) (msg : TURNMessage) : Except TickFault TickState :=
  let priv := transmit env { s.priv with currentBindingMsg := none } msg.length
  schedule
    { s with priv := { priv with currentBindingMsg := some { msg with timer := startTimer priv } } }

/-- `priv_send_channel_bind`. -/
def sendChannelBind (s : TickState) (resp : Option ReceivedMessage) (peer : NiceAddress) :
    Except TickFault (TickState × Bool) :=
  let priv := s.priv
  let id := env.transid priv.transids
  match buildChannelBind priv id resp peer with
  | some (length, agent) => do
      let s ← sendTurnMessage env schedule
        { s with priv := { priv with agent, transids := priv.transids + 1 } }
        { method := STUN_CHANNELBIND, id, peer := unscoped peer, realm := resp.bind (·.realm)
          length, timer := startTimer priv }
      return (s, true)
  | none => .ok ({ s with priv := { priv with transids := priv.transids + 1 } }, false)

/-- `priv_add_channel_binding` in MSN and OC2007. -/
def addActiveDstIn (s : TickState) (peer : NiceAddress) : Except TickFault (TickState × Bool) :=
  let priv := s.priv
  let id := env.transid priv.transids
  match buildSetActiveDst priv id peer with
  | some (length, agent) => do
      let s ← sendTurnMessage env schedule
        { s with
          priv := { priv with
            agent, transids := priv.transids + 1
            currentBinding := some (newChannelBinding peer 0) } }
        { method := STUN_OLD_SET_ACTIVE_DST, id, peer := unscoped peer, realm := none
          length, timer := startTimer priv }
      return (s, true)
  | none => .ok ({ s with priv := { priv with transids := priv.transids + 1 } }, false)

/-- `priv_add_channel_binding` in DRAFT9 and RFC5766. -/
def addChannelIn (s : TickState) (peer : NiceAddress) : Except TickFault (TickState × Bool) := do
  let channels := s.priv.channels
  let channel := freeChannel channels
  if 0x4000 ≤ channel ∧ channel < 0xffff then
    let (s, ret) ← sendChannelBind env schedule s none peer
    if ret then
      return ({ s with
        priv := { s.priv with
          currentBinding := some (newChannelBinding peer channel)
          trace := s.priv.trace ++ [.newBinding channels peer] } }, true)
    else return (s, false)
  else return (s, false)

/-- `priv_add_channel_binding`. -/
def addChannelBindingIn (s : TickState) (peer : NiceAddress) :
    Except TickFault (TickState × Bool) :=
  let priv := s.priv
  if priv.currentBinding.isSome then
    .ok ({ s with priv := { priv with pendingBindings := priv.pendingBindings ++ [peer] } }, false)
  else
    match priv.compatibility with
    | .draft9 | .rfc5766 => addChannelIn env schedule s peer
    | .msn | .oc2007 => addActiveDstIn env schedule s peer
    | .google =>
        .ok ({ s with priv := { priv with currentBinding := some (newChannelBinding peer 0) } },
          true)

/-- The loop of `priv_process_pending_bindings`, for at most `n` peers. -/
def processPendingIn : ℕ → TickState → Except TickFault TickState
  | 0, s => .ok s
  | n + 1, s =>
      match s.priv.pendingBindings with
      | [] => .ok s
      | peer :: _ => do
          let (s, ret) ← addChannelBindingIn env schedule s peer
          let s := { s with
            priv := { s.priv with pendingBindings := s.priv.pendingBindings.tail } }
          if ret then return s else processPendingIn n s

/-- `priv_process_pending_bindings`. -/
def processPendingBindingsIn (s : TickState) : Except TickFault TickState := do
  let s ← processPendingIn env schedule s.priv.pendingBindings.length s
  if s.priv.pendingBindings = [] ∧ s.priv.currentBindingMsg.isNone then
    match s.priv.channels.find? (·.renew) with
    | some b =>
        let (s, _) ← sendChannelBind env schedule s none b.peer
        return s
    | none => return s
  else return s

/-- `priv_retransmissions_tick_unlocked`, where `schedule` is `priv_schedule_tick`. -/
def retransmissionsTickUnlocked (s : TickState) : Except TickFault (TickState × Bool) :=
  let priv := s.priv
  match priv.currentBindingMsg with
  | none => .ok (s, false)
  | some msg =>
      match stunTimerRefreshWord priv.clock msg.timer with
      | (_, .timeout) => do
          let s ← processPendingBindingsIn env schedule
            { s with
              priv := { priv with
                agent := (stunAgentForgetTransaction priv.agent msg.id).1
                currentBinding := none
                currentBindingMsg := none } }
          return (s, false)
      | (timer, .retransmit) => do
          let priv := { priv with currentBindingMsg := some { msg with timer } }
          let s ← schedule { s with priv := (socketSendWrapped env priv msg.length).1 }
          return (s, true)
      | (_, .success) => do
          let s ← schedule s
          return (s, true)

end Schedule

/-- `priv_schedule_tick`, where the calls of it by itself are at most `depth` deep and each walk
over the list takes at most `rounds` rounds. -/
def privScheduleTickIn (rounds : ℕ) : ℕ → TickState → Except TickFault TickState
  | 0, _ => .error .rounds
  | depth + 1, s =>
      scheduleTick env rounds (fun s => do
        let (s, _) ← retransmissionsTickUnlocked env (privScheduleTickIn rounds depth) s
        return s) s

/-! ### Timers that are over -/

/-- The timer after a retransmission. -/
def retransmitted (timer : StunTimer) : StunTimer :=
  let delay := timer.delay * 2 % 2 ^ 32
  { timer with
    deadline := addDelay timer.deadline delay
    delay
    retransmissions := (timer.retransmissions + 1) % 2 ^ 32 }

/-- What becomes of a timer that is asked until it has time left: `none` if it times out.  `n`
bounds the number of rounds. -/
def settleTimer (clock : Timeval) : ℕ → StunTimer → Option StunTimer
  | 0, timer => some timer
  | n + 1, timer =>
      if stunTimerRemainderWord clock timer > 0 then some timer
      else if timer.retransmissions ≥ timer.maxRetransmissions then none
      else settleTimer clock n (retransmitted timer)

/-- The same, with rounds enough. -/
def settled (clock : Timeval) (timer : StunTimer) : Option StunTimer :=
  settleTimer clock (timer.left + 1) timer

/-- Every deadline that the timer has left has passed. -/
def Spent (clock : Timeval) (timer : StunTimer) : Prop :=
  ∀ k ≤ timer.left, stunTimerRemainderWord clock (retransmitted^[k] timer) = 0

/-- The requests that are kept, with their timers. -/
def settledCells (clock : Timeval) (cells : Cells TURNMessage) : Cells TURNMessage :=
  cells.filterMap fun c => (settled clock c.2.timer).map fun timer => (c.1, { c.2 with timer })

section Timers

variable {clock : Timeval} {timer timer' : StunTimer}

lemma stunTimerRefreshWord_eq (h : stunTimerRemainderWord clock timer = 0) :
    stunTimerRefreshWord clock timer =
      if timer.retransmissions ≥ timer.maxRetransmissions then (timer, .timeout)
      else (retransmitted timer, .retransmit) := by
  rw [stunTimerRefreshWord, if_pos h]
  rfl

/-- The words of a timer. -/
lemma retransmitted_left (hmax : timer.maxRetransmissions < 2 ^ 32)
    (h : timer.retransmissions < timer.maxRetransmissions) :
    (retransmitted timer).left + 1 = timer.left := by
  have hmod : (timer.retransmissions + 1) % 2 ^ 32 = timer.retransmissions + 1 :=
    Nat.mod_eq_of_lt (by omega)
  simp only [StunTimer.left, retransmitted, hmod]
  omega

lemma settled_of_left (h : 0 < stunTimerRemainderWord clock timer) :
    settled clock timer = some timer := by
  rw [settled, settleTimer, if_pos h]

lemma settled_of_over (h : stunTimerRemainderWord clock timer = 0)
    (hmax : timer.maxRetransmissions ≤ timer.retransmissions) : settled clock timer = none := by
  rw [settled, settleTimer, if_neg (by omega), if_pos hmax]

lemma settled_of_retransmitted (h : stunTimerRemainderWord clock timer = 0)
    (hword : timer.maxRetransmissions < 2 ^ 32)
    (hmax : timer.retransmissions < timer.maxRetransmissions) :
    settled clock timer = settled clock (retransmitted timer) := by
  rw [settled, settleTimer, if_neg (by omega), if_neg (by omega), settled,
    retransmitted_left hword hmax]

/-- An induction over the retransmissions of a timer at one time of the clock. -/
lemma timer_induction {P : StunTimer → Prop} (clock : Timeval)
    (hleft : ∀ timer, 0 < stunTimerRemainderWord clock timer → P timer)
    (hover : ∀ timer, stunTimerRemainderWord clock timer = 0 →
      timer.maxRetransmissions ≤ timer.retransmissions → P timer)
    (hagain : ∀ timer, stunTimerRemainderWord clock timer = 0 →
      timer.maxRetransmissions < 2 ^ 32 → timer.retransmissions < timer.maxRetransmissions →
      P (retransmitted timer) → P timer)
    (timer : StunTimer) (hword : timer.maxRetransmissions < 2 ^ 32) : P timer := by
  induction hn : timer.left generalizing timer with
  | zero =>
      rcases Nat.eq_zero_or_pos (stunTimerRemainderWord clock timer) with h | h
      · exact hover timer h (by simp only [StunTimer.left] at hn; omega)
      · exact hleft timer h
  | succ n ih =>
      rcases Nat.eq_zero_or_pos (stunTimerRemainderWord clock timer) with h | h
      · have hlt : timer.retransmissions < timer.maxRetransmissions := by
          simp only [StunTimer.left] at hn
          omega
        have hnext := retransmitted_left hword hlt
        exact hagain timer h hword hlt (ih (retransmitted timer) hword (by omega))
      · exact hleft timer h

/-- What is kept has time left, and no more retransmissions than before. -/
lemma settled_spec (hword : timer.maxRetransmissions < 2 ^ 32) :
    ∀ timer', settled clock timer = some timer' →
      0 < stunTimerRemainderWord clock timer' ∧
        timer'.maxRetransmissions = timer.maxRetransmissions ∧ timer'.left ≤ timer.left := by
  refine timer_induction (P := fun timer => ∀ timer', settled clock timer = some timer' →
    0 < stunTimerRemainderWord clock timer' ∧
      timer'.maxRetransmissions = timer.maxRetransmissions ∧ timer'.left ≤ timer.left)
    clock ?keeps ?ends ?again timer hword
  case keeps =>
      intro timer h timer' ht
      rw [settled_of_left h, Option.some.injEq] at ht
      exact ht ▸ ⟨h, rfl, le_rfl⟩
  case ends =>
      intro timer h hmax timer' ht
      rw [settled_of_over h hmax] at ht
      cases ht
  case again =>
      intro timer h hword hmax ih timer' ht
      rw [settled_of_retransmitted h hword hmax] at ht
      obtain ⟨hpos, hmax', hle⟩ := ih timer' ht
      have hnext := retransmitted_left hword hmax
      exact ⟨hpos, hmax', by omega⟩

/-- **A timer times out at once** just when all its deadlines have passed. -/
lemma settled_eq_none_iff (hword : timer.maxRetransmissions < 2 ^ 32) :
    settled clock timer = none ↔ Spent clock timer := by
  refine timer_induction (P := fun timer => settled clock timer = none ↔ Spent clock timer)
    clock ?keeps ?ends ?again timer hword
  case keeps =>
      intro timer h
      rw [settled_of_left h]
      refine ⟨fun hn => absurd hn (Option.some_ne_none _), fun hs => ?_⟩
      have hzero := hs 0 (Nat.zero_le _)
      rw [Function.iterate_zero_apply] at hzero
      omega
  case ends =>
      intro timer h hmax
      refine ⟨fun _ k hk => ?_, fun _ => settled_of_over h hmax⟩
      have hzero : k = 0 := by
        simp only [StunTimer.left] at hk
        omega
      rw [hzero]
      exact h
  case again =>
      intro timer h hword hmax ih
      have hnext := retransmitted_left hword hmax
      rw [settled_of_retransmitted h hword hmax, ih]
      constructor
      · intro hs k hk
        cases k with
        | zero => exact h
        | succ k =>
            rw [Function.iterate_succ_apply]
            exact hs k (by omega)
      · intro hs k hk
        have := hs (k + 1) (by omega)
        rwa [Function.iterate_succ_apply] at this

end Timers

/-! ### Invariants -/

/-- The timer of a request is over. -/
def Over (clock : Timeval) (c : ℕ × TURNMessage) : Prop :=
  stunTimerRemainderWord clock c.2.timer = 0

/-- The elements have addresses of their own, the clock has less than a million microseconds, and
the timers are made of words. -/
structure TickState.Wf (s : TickState) : Prop where
  nodup : s.pending.addresses.Nodup
  usec : s.priv.clock.usec < 1000000
  word : ∀ c ∈ s.pending, c.2.timer.maxRetransmissions < 2 ^ 32
  bindingWord : ∀ msg, s.priv.currentBindingMsg = some msg → msg.timer.maxRetransmissions < 2 ^ 32

/-- What `s` has been processed to: the requests whose timers were over have been, and no other
one. -/
structure TicksSettled (s s' : TickState) : Prop where
  clock : s'.priv.clock = s.priv.clock
  pending : s'.pending = settledCells s.priv.clock s.pending
  processed : ∃ log, s'.processed = s.processed ++ log ∧
    ∀ p, p ∈ log ↔ ∃ c ∈ s.pending, c.1 = p ∧ Over s.priv.clock c

/-- The source of the binding request is armed for what its timer has left. -/
def BindingArmed (s : TickState) : Prop :=
  ∀ msg, s.priv.currentBindingMsg = some msg →
    0 < stunTimerRemainderWord s.priv.clock msg.timer ∧
    s.channelBind = some ⟨stunTimerRemainderWord s.priv.clock msg.timer, false⟩

/-- How many rounds a walk takes. -/
def roundsOf (cells : Cells TURNMessage) : ℕ := (cells.map fun c => c.2.timer.left + 1).sum

section Cells

variable {clock : Timeval} {cells pre rest : Cells TURNMessage} {c : ℕ × TURNMessage}

lemma settledCells_append : settledCells clock (pre ++ rest) =
    settledCells clock pre ++ settledCells clock rest := List.filterMap_append ..

lemma settledCells_cons_left (h : ¬Over clock c) :
    settledCells clock (c :: rest) = c :: settledCells clock rest := by
  rw [settledCells, List.filterMap_cons, settled_of_left (Nat.pos_of_ne_zero h)]
  rfl

lemma settledCells_cons_none (h : settled clock c.2.timer = none) :
    settledCells clock (c :: rest) = settledCells clock rest := by
  rw [settledCells, List.filterMap_cons, h]
  rfl

lemma settledCells_cons_congr {c' : ℕ × TURNMessage} (haddr : c'.1 = c.1)
    (hmsg : ∀ timer, { c'.2 with timer } = { c.2 with timer })
    (h : settled clock c.2.timer = settled clock c'.2.timer) :
    settledCells clock (c :: rest) = settledCells clock (c' :: rest) := by
  rw [settledCells, settledCells, List.filterMap_cons, List.filterMap_cons, h, haddr]
  simp only [hmsg]

lemma settledCells_of_left (h : ∀ c ∈ cells, ¬Over clock c) : settledCells clock cells = cells := by
  induction cells with
  | nil => rfl
  | cons c cells ih =>
      rw [settledCells_cons_left (h c List.mem_cons_self),
        ih fun c hc => h c (List.mem_cons_of_mem _ hc)]

/-- A kept request has time left. -/
lemma mem_settledCells (hword : ∀ c ∈ cells, c.2.timer.maxRetransmissions < 2 ^ 32)
    (hc : c ∈ settledCells clock cells) :
    ¬Over clock c ∧ c.2.timer.maxRetransmissions < 2 ^ 32 := by
  obtain ⟨⟨p, msg⟩, hmem, hmap⟩ := List.mem_filterMap.mp hc
  obtain ⟨timer, htimer, rfl⟩ := Option.map_eq_some_iff.mp hmap
  obtain ⟨hpos, hmax, -⟩ := settled_spec (hword _ hmem) timer htimer
  exact ⟨hpos.ne', hmax ▸ hword _ hmem⟩

/-- Kept requests are kept again at the same time. -/
lemma settledCells_settledCells (hword : ∀ c ∈ cells, c.2.timer.maxRetransmissions < 2 ^ 32) :
    settledCells clock (settledCells clock cells) = settledCells clock cells :=
  settledCells_of_left fun _ hc => (mem_settledCells hword hc).1

lemma settledCells_addresses_sublist :
    (settledCells clock cells).addresses.Sublist cells.addresses := by
  induction cells with
  | nil => exact .slnil
  | cons c cells ih =>
      rw [settledCells, List.filterMap_cons]
      cases settled clock c.2.timer with
      | none => exact ih.cons _
      | some timer => exact ih.cons_cons _

lemma roundsOf_settledCells (hword : ∀ c ∈ cells, c.2.timer.maxRetransmissions < 2 ^ 32) :
    roundsOf (settledCells clock cells) ≤ roundsOf cells := by
  induction cells with
  | nil => rfl
  | cons c cells ih =>
      have hrest := ih fun c hc => hword c (List.mem_cons_of_mem _ hc)
      rw [settledCells, List.filterMap_cons]
      cases ht : settled clock c.2.timer with
      | none =>
          simp only [roundsOf, settledCells, Option.map_none, List.map_cons,
            List.sum_cons] at hrest ⊢
          omega
      | some timer =>
          obtain ⟨-, -, hle⟩ := settled_spec (hword c List.mem_cons_self) timer ht
          simp only [roundsOf, settledCells, Option.map_some, List.map_cons,
            List.sum_cons] at hrest ⊢
          omega

lemma settledCells_eq_nil_iff (hword : ∀ c ∈ cells, c.2.timer.maxRetransmissions < 2 ^ 32) :
    settledCells clock cells = [] ↔ ∀ c ∈ cells, Spent clock c.2.timer := by
  rw [settledCells, List.filterMap_eq_nil_iff]
  refine forall₂_congr fun c hc => ?_
  rw [Option.map_eq_none_iff]
  exact settled_eq_none_iff (hword c hc)

end Cells

/-! ### The walk -/

/-- What the walk over the part `rest` of the list comes to. -/
structure Walked (s s' : TickState) (pre rest : Cells TURNMessage) : Prop where
  clock : s'.priv.clock = s.priv.clock
  binding : s'.priv.currentBindingMsg = s.priv.currentBindingMsg
  channelBind : s'.channelBind = s.channelBind
  createPermission : s'.createPermission = s.createPermission
  pending : s'.pending = pre ++ settledCells s.priv.clock rest
  processed : ∃ log, s'.processed = s.processed ++ log ∧
    ∀ p, p ∈ log ↔ ∃ c ∈ rest, c.1 = p ∧ Over s.priv.clock c

/-- The least of the remaining times of some requests, and `minTimeout`. -/
def minRemainder (clock : Timeval) (cells : Cells TURNMessage) (minTimeout : ℕ) : ℕ :=
  cells.foldl (fun m c => min m (stunTimerRemainderWord clock c.2.timer)) minTimeout

section Walk

variable {env : Env} {s s' : TickState} {pre rest : Cells TURNMessage} {c : ℕ × TURNMessage}

lemma dequeueLoop_keeps (peer : NiceAddress) (queue : List SendData) :
    ∀ s : UdpTurnPriv, (dequeueLoop env peer queue s).clock = s.clock ∧
      (dequeueLoop env peer queue s).currentBindingMsg = s.currentBindingMsg := by
  induction queue with
  | nil => exact fun s => ⟨rfl, rfl⟩
  | cons data queue ih => exact fun s => ih _

lemma permissionTimedOut_keeps (priv : UdpTurnPriv) (msg : TURNMessage) :
    (permissionTimedOut env priv msg).clock = priv.clock ∧
      (permissionTimedOut env priv msg).currentBindingMsg = priv.currentBindingMsg :=
  dequeueLoop_keeps _ _ _

/-- A request whose timer is over for good. -/
lemma permissionTickUnlocked_timeout {p : ℕ} {msg : TURNMessage}
    (hderef : s.pending.deref p = some msg)
    (hzero : stunTimerRemainderWord s.priv.clock msg.timer = 0)
    (hmax : msg.timer.maxRetransmissions ≤ msg.timer.retransmissions) :
    permissionTickUnlocked env s p =
      .ok ({ s with
        priv := permissionTimedOut env s.priv msg
        pending := s.pending.delete p
        processed := s.processed ++ [p] }, false) := by
  rw [permissionTickUnlocked, hderef]
  dsimp only
  rw [stunTimerRefreshWord_eq hzero, if_pos hmax]

/-- A request that is sent again. -/
lemma permissionTickUnlocked_retransmit {p : ℕ} {msg : TURNMessage}
    (hderef : s.pending.deref p = some msg)
    (hzero : stunTimerRemainderWord s.priv.clock msg.timer = 0)
    (hmax : msg.timer.retransmissions < msg.timer.maxRetransmissions) :
    permissionTickUnlocked env s p =
      .ok ({ s with
        priv := (socketSendWrapped env s.priv msg.length).1
        pending := s.pending.store p { msg with timer := retransmitted msg.timer }
        processed := s.processed ++ [p] }, true) := by
  rw [permissionTickUnlocked, hderef]
  dsimp only
  rw [stunTimerRefreshWord_eq hzero, if_neg (not_le.mpr hmax)]

/-- The walk goes on after an element that was processed. -/
lemma Walked.after {s₁ : TickState} {rest' : Cells TURNMessage} (h : Walked s₁ s' pre rest')
    (hclock : s₁.priv.clock = s.priv.clock)
    (hbinding : s₁.priv.currentBindingMsg = s.priv.currentBindingMsg)
    (hchannel : s₁.channelBind = s.channelBind)
    (hcreate : s₁.createPermission = s.createPermission)
    (hprocessed : s₁.processed = s.processed ++ [c.1])
    (hover : Over s.priv.clock c)
    (hkept : settledCells s.priv.clock rest' = settledCells s.priv.clock (c :: rest))
    (hrest : ∀ c' ∈ rest', c'.1 = c.1 ∨ c' ∈ rest) (hmem : ∀ c' ∈ rest, c' ∈ rest') :
    Walked s s' pre (c :: rest) := by
  obtain ⟨log, hlog, hiff⟩ := h.processed
  refine ⟨h.clock.trans hclock, h.binding.trans hbinding, h.channelBind.trans hchannel,
    h.createPermission.trans hcreate, ?_, c.1 :: log, ?_, fun p => ?_⟩
  · rw [h.pending, hclock, hkept]
  · rw [hlog, hprocessed, List.append_assoc, List.singleton_append]
  · rw [List.mem_cons, hiff, hclock]
    constructor
    · rintro (rfl | ⟨c', hc', rfl, hover'⟩)
      · exact ⟨c, List.mem_cons_self, rfl, hover⟩
      · rcases hrest c' hc' with haddr | hc'
        · exact ⟨c, List.mem_cons_self, haddr.symm, hover⟩
        · exact ⟨c', List.mem_cons_of_mem _ hc', rfl, hover'⟩
    · rintro ⟨c', hc', rfl, hover'⟩
      rcases List.mem_cons.mp hc' with rfl | hc'
      · exact .inl rfl
      · exact .inr ⟨c', hmem c' hc', rfl, hover'⟩

/-- **The walk over the list** ends, touches no element that was freed, processes the requests whose
timers are over and keeps what is left of them. -/
theorem scheduleLoop_spec (env : Env) (rounds : ℕ) :
    ∀ (s : TickState) (pre rest : Cells TURNMessage) (minTimeout : ℕ),
      s.pending = pre ++ rest → s.pending.addresses.Nodup →
      (∀ c ∈ rest, c.2.timer.maxRetransmissions < 2 ^ 32) → roundsOf rest ≤ rounds →
      ∃ s', scheduleLoop env rounds s (Cells.head rest) (Cells.last pre) minTimeout =
          .ok (s', minRemainder s.priv.clock (settledCells s.priv.clock rest) minTimeout) ∧
        Walked s s' pre rest := by
  induction rounds with
  | zero =>
      intro s pre rest minTimeout hpending hnodup hword hrounds
      cases rest with
      | nil => exact ⟨s, rfl, rfl, rfl, rfl, rfl, hpending, [], by simp, by simp⟩
      | cons c rest =>
          rw [roundsOf, List.map_cons, List.sum_cons] at hrounds
          omega
  | succ rounds ih =>
      intro s pre rest minTimeout hpending hnodup hword hrounds
      cases rest with
      | nil => exact ⟨s, rfl, rfl, rfl, rfl, rfl, hpending, [], by simp, by simp⟩
      | cons c rest =>
          obtain ⟨p, msg⟩ := c
          have hrounds : msg.timer.left + 1 + roundsOf rest ≤ rounds + 1 := hrounds
          rw [hpending] at hnodup
          obtain ⟨hpre, hrest⟩ := Cells.ne_of_nodup hnodup
          have hword' : ∀ c ∈ rest, c.2.timer.maxRetransmissions < 2 ^ 32 :=
            fun c hc => hword c (List.mem_cons_of_mem _ hc)
          have hhead : Cells.head ((p, msg) :: rest) = some p := rfl
          have hderef : s.pending.deref p = some msg := by
            rw [hpending, Cells.deref_append hpre]
          have hnext : s.pending.next p = some (Cells.head rest) := by
            rw [hpending, Cells.next_append hpre]
          rw [hhead, scheduleLoop, hderef, hnext]
          dsimp only
          by_cases hover : stunTimerRemainderWord s.priv.clock msg.timer > 0
          · -- an element with time left: `prev` moves on
            rw [if_pos hover]
            have hsplit : s.pending = (pre ++ [(p, msg)]) ++ rest := by
              rw [hpending, List.append_assoc, List.singleton_append]
            obtain ⟨s', hrun, hwalk⟩ := ih s (pre ++ [(p, msg)]) rest
              (min minTimeout (stunTimerRemainderWord s.priv.clock msg.timer)) hsplit
              (by rw [hpending]; exact hnodup) hword' (by omega)
            have hkept := @settledCells_cons_left s.priv.clock rest (p, msg) hover.ne'
            rw [Cells.last_append_singleton] at hrun
            refine ⟨s', ?_, hwalk.clock, hwalk.binding, hwalk.channelBind,
              hwalk.createPermission, ?_, ?_⟩
            · rw [hrun, hkept]
              rfl
            · rw [hwalk.pending, hkept, List.append_assoc, List.singleton_append]
            · obtain ⟨log, hlog, hiff⟩ := hwalk.processed
              refine ⟨log, hlog, fun q => (hiff q).trans ?_⟩
              have hne : ¬Over s.priv.clock (p, msg) := hover.ne'
              simp only [List.mem_cons, exists_eq_or_imp, hne, and_false, false_or]
          · have hzero : stunTimerRemainderWord s.priv.clock msg.timer = 0 := by omega
            have hfront : pre.addresses.Nodup :=
              (List.nodup_append.mp (Cells.addresses_append ▸ hnodup)).1
            rw [if_neg hover]
            by_cases hmax : msg.timer.retransmissions ≥ msg.timer.maxRetransmissions
            · -- the request times out and its element is deleted
              rw [permissionTickUnlocked_timeout hderef hzero hmax]
              dsimp only
              rw [hpending, Cells.delete_append hnodup, Cells.follow_append hfront]
              dsimp only
              obtain ⟨hclock, hbinding⟩ := @permissionTimedOut_keeps env s.priv msg
              have hnone := settled_of_over hzero hmax
              have hkept := @settledCells_cons_none s.priv.clock rest (p, msg) hnone
              obtain ⟨s', hrun, hwalk⟩ := ih
                { s with
                  priv := permissionTimedOut env s.priv msg
                  pending := pre ++ rest
                  processed := s.processed ++ [p] } pre rest minTimeout rfl
                ((List.Sublist.append_left (List.sublist_cons_self _ _) _).map Prod.fst
                  |>.nodup hnodup)
                hword' (by omega)
              refine ⟨s', ?_, hwalk.after hclock hbinding rfl rfl rfl hzero hkept.symm
                (fun c' hc' => .inr hc') fun c' hc' => hc'⟩
              rw [hrun, hkept]
              simp only [hclock]
            · -- the request is sent again, and the walk comes back to its element
              rw [permissionTickUnlocked_retransmit hderef hzero (not_le.mp hmax)]
              dsimp only
              rw [hpending, Cells.store_append hnodup, Cells.follow_append hfront]
              dsimp only
              have hagain : settled s.priv.clock msg.timer =
                  settled s.priv.clock (retransmitted msg.timer) :=
                settled_of_retransmitted hzero (hword _ List.mem_cons_self) (not_le.mp hmax)
              have hleft : (retransmitted msg.timer).left + 1 = msg.timer.left :=
                retransmitted_left (hword (p, msg) List.mem_cons_self) (not_le.mp hmax)
              have hfewer : roundsOf ((p, { msg with timer := retransmitted msg.timer }) :: rest) =
                  (retransmitted msg.timer).left + 1 + roundsOf rest := rfl
              have hkept := @settledCells_cons_congr s.priv.clock rest (p, msg)
                (p, { msg with timer := retransmitted msg.timer }) rfl (fun _ => rfl) hagain
              obtain ⟨s', hrun, hwalk⟩ := ih
                { s with
                  priv := (socketSendWrapped env s.priv msg.length).1
                  pending := pre ++ (p, { msg with timer := retransmitted msg.timer }) :: rest
                  processed := s.processed ++ [p] } pre
                ((p, { msg with timer := retransmitted msg.timer }) :: rest) minTimeout rfl
                (by simpa using hnodup)
                (List.forall_mem_cons.mpr ⟨hword (p, msg) List.mem_cons_self, hword'⟩)
                (by omega)
              refine ⟨s', ?_, hwalk.after rfl rfl rfl rfl rfl hzero hkept.symm ?_ ?_⟩
              · have hclock :
                    (socketSendWrapped env s.priv msg.length).1.clock = s.priv.clock := rfl
                rw [hclock] at hrun
                rw [hkept]
                exact hrun
              · intro c' hc'
                rcases List.mem_cons.mp hc' with rfl | hc'
                · exact .inl rfl
                · exact .inr hc'
              · exact fun c' hc' => List.mem_cons_of_mem _ hc'

end Walk

/-! ### The sources -/

/-- The source that the walk makes for the requests that it keeps. -/
def createSource (clock : Timeval) (cells : Cells TURNMessage) : Option TickSource :=
  if minRemainder clock cells G_MAXUINT ≠ G_MAXUINT then some ⟨0, true⟩ else none

section Sources

variable {env : Env} {s s' s'' : TickState} {rounds : ℕ}

lemma minRemainder_pos {clock : Timeval} {cells : Cells TURNMessage}
    (h : ∀ c ∈ cells, ¬Over clock c) :
    ∀ {minTimeout : ℕ}, 0 < minTimeout → 0 < minRemainder clock cells minTimeout := by
  induction cells with
  | nil => exact fun hm => hm
  | cons c cells ih =>
      intro minTimeout hm
      refine ih (fun c hc => h c (List.mem_cons_of_mem _ hc)) (lt_min hm ?_)
      exact Nat.pos_of_ne_zero (h c List.mem_cons_self)

/-- Requests that were processed are processed no more at the same time. -/
lemma TicksSettled.trans (h : TicksSettled s s') (h' : TicksSettled s' s'')
    (hword : ∀ c ∈ s.pending, c.2.timer.maxRetransmissions < 2 ^ 32) : TicksSettled s s'' := by
  obtain ⟨log, hlog, hiff⟩ := h.processed
  obtain ⟨log', hlog', hiff'⟩ := h'.processed
  refine ⟨h'.clock.trans h.clock, ?_, log, ?_, hiff⟩
  · rw [h'.pending, h.clock, h.pending, settledCells_settledCells hword]
  · have hnil : log' = [] := by
      refine List.eq_nil_iff_forall_not_mem.mpr fun p hp => ?_
      obtain ⟨c, hc, -, hover⟩ := (hiff' p).mp hp
      rw [h.pending] at hc
      rw [h.clock] at hover
      exact (mem_settledCells hword hc).1 hover
    rw [hlog', hlog, hnil, List.append_nil]

lemma TicksSettled.wf (h : TicksSettled s s') (hwf : s.Wf)
    (hbinding : ∀ msg, s'.priv.currentBindingMsg = some msg →
      msg.timer.maxRetransmissions < 2 ^ 32) : s'.Wf := by
  refine ⟨?_, ?_, ?_, hbinding⟩
  · rw [h.pending]
    exact settledCells_addresses_sublist.nodup hwf.nodup
  · rw [h.clock]
    exact hwf.usec
  · rw [h.pending]
    exact fun c hc => (mem_settledCells hwf.word hc).2

/-- **The second half of the function.** -/
lemma scheduleCells_spec (env : Env) (hnodup : s.pending.addresses.Nodup)
    (hword : ∀ c ∈ s.pending, c.2.timer.maxRetransmissions < 2 ^ 32)
    (hrounds : roundsOf s.pending ≤ rounds) :
    ∃ s', scheduleCells env rounds s = .ok s' ∧ TicksSettled s s' ∧
      s'.priv.currentBindingMsg = s.priv.currentBindingMsg ∧ s'.channelBind = s.channelBind ∧
      s'.createPermission = createSource s.priv.clock s'.pending := by
  obtain ⟨s', hrun, hwalk⟩ := scheduleLoop_spec env rounds { s with createPermission := none } []
    s.pending G_MAXUINT rfl hnodup hword hrounds
  have hpending : s'.pending = settledCells s.priv.clock s.pending := hwalk.pending
  have hmin : 0 < minRemainder s.priv.clock (settledCells s.priv.clock s.pending) G_MAXUINT :=
    minRemainder_pos (fun c hc => (mem_settledCells hword hc).1) (by decide)
  have hcells : scheduleCells env rounds s =
      .ok { s' with createPermission := createSource s.priv.clock s'.pending } := by
    have hhead : Cells.last ([] : Cells TURNMessage) = none := rfl
    rw [hhead] at hrun
    have hnone : s'.createPermission = none := hwalk.createPermission
    simp only [scheduleCells, hrun, bind, Except.bind, pure, Except.pure, createSource, hpending]
    by_cases hmax : minRemainder s.priv.clock (settledCells s.priv.clock s.pending) G_MAXUINT =
        G_MAXUINT
    · rw [if_neg (not_not.mpr hmax), if_neg (not_not.mpr hmax), ← hnone, ← hpending]
    · rw [if_pos hmax, if_pos hmax, privTimeoutAddWithContext, decide_eq_true hmin.ne']
  exact ⟨_, hcells, ⟨hwalk.clock, hwalk.pending, hwalk.processed⟩, hwalk.binding,
    hwalk.channelBind, rfl⟩

end Sources

/-! ### The recursion -/

/-- The requests and the clock are as they were. -/
structure Unwalked (s s' : TickState) : Prop where
  clock : s'.priv.clock = s.priv.clock
  pending : s'.pending = s.pending
  processed : s'.processed = s.processed

/-- What the functions about the binding request do: nothing to the requests, and no request for a
binding is in flight, or the whole of `priv_schedule_tick`. -/
def Advanced (s s' : TickState) : Prop :=
  (Unwalked s s' ∧ s'.priv.currentBindingMsg = none) ∨ (TicksSettled s s' ∧ s'.Wf ∧ BindingArmed s')

/-- What `priv_schedule_tick` does while the binding request has time left. -/
def Schedules (rounds : ℕ) (schedule : TickState → Except TickFault TickState) : Prop :=
  ∀ s : TickState, s.Wf → roundsOf s.pending ≤ rounds →
    (∀ msg, s.priv.currentBindingMsg = some msg →
      0 < stunTimerRemainderWord s.priv.clock msg.timer) →
    ∃ s', schedule s = .ok s' ∧ TicksSettled s s' ∧ s'.Wf ∧ BindingArmed s'

section Recursion

variable {env : Env} {s s' s'' : TickState} {rounds : ℕ}
  {schedule : TickState → Except TickFault TickState}

lemma Unwalked.wf (h : Unwalked s s') (hwf : s.Wf)
    (hbinding : ∀ msg, s'.priv.currentBindingMsg = some msg →
      msg.timer.maxRetransmissions < 2 ^ 32) : s'.Wf :=
  ⟨h.pending ▸ hwf.nodup, h.clock ▸ hwf.usec, h.pending ▸ hwf.word, hbinding⟩

lemma Unwalked.settled (h : Unwalked s s') (h' : TicksSettled s' s'') : TicksSettled s s'' := by
  obtain ⟨log, hlog, hiff⟩ := h'.processed
  exact ⟨h'.clock.trans h.clock, by rw [h'.pending, h.clock, h.pending], log,
    by rw [hlog, h.processed], by rw [← h.clock, ← h.pending]; exact hiff⟩

lemma Unwalked.trans (h : Unwalked s s') (h' : Unwalked s' s'') : Unwalked s s'' :=
  ⟨h'.clock.trans h.clock, h'.pending.trans h.pending, h'.processed.trans h.processed⟩

/-- A timer that has just been started has time left. -/
lemma startTimer_left_word (priv : UdpTurnPriv) (husec : priv.clock.usec < 1000000) :
    0 < stunTimerRemainderWord priv.clock (startTimer priv) ∧
      (startTimer priv).maxRetransmissions < 2 ^ 32 := by
  rw [startTimer]
  split
  · rw [stunTimerStartReliable, stunTimerRemainderWord_start husec (by decide)]
    exact ⟨by decide, by simp [stunTimerStart]⟩
  · rw [stunTimerRemainderWord_start husec (by decide)]
    exact ⟨by decide, by simp [stunTimerStart, STUN_TIMER_DEFAULT_MAX_RETRANSMISSIONS]⟩

lemma transmit_clock (priv : UdpTurnPriv) (len : ℕ) :
    (transmit env priv len).clock = priv.clock := by
  obtain ⟨k, hk⟩ := transmit_eq env priv len
  rw [hk]

/-- **A new binding request** is armed at once. -/
lemma sendTurnMessage_spec (hsched : Schedules rounds schedule) (hwf : s.Wf)
    (hrounds : roundsOf s.pending ≤ rounds) (msg : TURNMessage) :
    ∃ s', sendTurnMessage env schedule s msg = .ok s' ∧ TicksSettled s s' ∧ s'.Wf ∧
      BindingArmed s' := by
  set priv := transmit env { s.priv with currentBindingMsg := none } msg.length with hpriv
  have hclock : priv.clock = s.priv.clock := transmit_clock _ _
  obtain ⟨hleft, hword⟩ := startTimer_left_word priv (hclock ▸ hwf.usec)
  have hsame : Unwalked s
      { s with
        priv := { priv with currentBindingMsg := some { msg with timer := startTimer priv } } } :=
    ⟨hclock, rfl, rfl⟩
  obtain ⟨s', hrun, hsettled, hwf', harmed⟩ := hsched _
    (hsame.wf hwf fun m hm => by rw [← Option.some.inj hm]; exact hword) hrounds
    fun m hm => by rw [← Option.some.inj hm]; exact hleft
  exact ⟨s', hrun, hsame.settled hsettled, hwf', harmed⟩

lemma sendChannelBind_spec (hsched : Schedules rounds schedule) (hwf : s.Wf)
    (hrounds : roundsOf s.pending ≤ rounds) (hnone : s.priv.currentBindingMsg = none)
    (resp : Option ReceivedMessage) (peer : NiceAddress) :
    ∃ s' ret, sendChannelBind env schedule s resp peer = .ok (s', ret) ∧
      ((ret = false ∧ Unwalked s s' ∧ s'.priv.currentBindingMsg = none) ∨
        (ret = true ∧ TicksSettled s s' ∧ s'.Wf ∧ BindingArmed s')) := by
  rw [sendChannelBind]
  cases hbuild : buildChannelBind s.priv (env.transid s.priv.transids) resp peer with
  | none => exact ⟨_, false, rfl, .inl ⟨rfl, ⟨rfl, rfl, rfl⟩, hnone⟩⟩
  | some built =>
      obtain ⟨length, agent⟩ := built
      have hsame : Unwalked s
          { s with priv := { s.priv with agent, transids := s.priv.transids + 1 } } :=
        ⟨rfl, rfl, rfl⟩
      obtain ⟨s', hrun, hsettled, hwf', harmed⟩ := @sendTurnMessage_spec env _ rounds schedule
        hsched (hsame.wf hwf hwf.bindingWord) hrounds
        { method := STUN_CHANNELBIND, id := env.transid s.priv.transids, peer := unscoped peer
          realm := resp.bind (·.realm), length, timer := startTimer s.priv }
      refine ⟨s', true, ?_, .inr ⟨rfl, hsame.settled hsettled, hwf', harmed⟩⟩
      dsimp only
      rw [hrun]
      rfl

/-- What an attempt to bind a peer comes to. -/
def BindingAttempted (s : TickState) (r : TickState × Bool) : Prop :=
  (Unwalked s r.1 ∧ r.1.priv.currentBindingMsg = none) ∨
    (r.2 = true ∧ TicksSettled s r.1 ∧ r.1.Wf ∧ BindingArmed r.1)

lemma addActiveDstIn_spec (hsched : Schedules rounds schedule) (hwf : s.Wf)
    (hrounds : roundsOf s.pending ≤ rounds) (hnone : s.priv.currentBindingMsg = none)
    (peer : NiceAddress) :
    ∃ r, addActiveDstIn env schedule s peer = .ok r ∧ BindingAttempted s r := by
  rw [addActiveDstIn]
  cases hbuild : buildSetActiveDst s.priv (env.transid s.priv.transids) peer with
  | none => exact ⟨_, rfl, .inl ⟨⟨rfl, rfl, rfl⟩, hnone⟩⟩
  | some built =>
      obtain ⟨length, agent⟩ := built
      have hsame : Unwalked s
          { s with
            priv := { s.priv with
              agent, transids := s.priv.transids + 1
              currentBinding := some (newChannelBinding peer 0) } } := ⟨rfl, rfl, rfl⟩
      obtain ⟨s', hrun, hsettled, hwf', harmed⟩ := @sendTurnMessage_spec env _ rounds schedule
        hsched (hsame.wf hwf hwf.bindingWord) hrounds
        { method := STUN_OLD_SET_ACTIVE_DST, id := env.transid s.priv.transids
          peer := unscoped peer, realm := none, length, timer := startTimer s.priv }
      refine ⟨(s', true), ?_, .inr ⟨rfl, hsame.settled hsettled, hwf', harmed⟩⟩
      dsimp only
      rw [hrun]
      rfl

lemma addChannelIn_spec (hsched : Schedules rounds schedule) (hwf : s.Wf)
    (hrounds : roundsOf s.pending ≤ rounds) (hnone : s.priv.currentBindingMsg = none)
    (peer : NiceAddress) :
    ∃ r, addChannelIn env schedule s peer = .ok r ∧ BindingAttempted s r := by
  unfold addChannelIn
  dsimp only
  split_ifs
  · obtain ⟨s', ret, hrun, ⟨rfl, hsame, hnone'⟩ | ⟨rfl, hsettled, hwf', harmed⟩⟩ :=
      @sendChannelBind_spec env s rounds schedule hsched hwf hrounds hnone none peer
    · rw [hrun]
      exact ⟨(s', false), rfl, .inl ⟨hsame, hnone'⟩⟩
    · rw [hrun]
      refine ⟨_, rfl, .inr ⟨rfl, ⟨hsettled.clock, hsettled.pending, hsettled.processed⟩, ?_, ?_⟩⟩
      · exact ⟨hwf'.nodup, hwf'.usec, hwf'.word, hwf'.bindingWord⟩
      · exact harmed
  · exact ⟨(s, false), rfl, .inl ⟨⟨rfl, rfl, rfl⟩, hnone⟩⟩

lemma addChannelBindingIn_spec (hsched : Schedules rounds schedule) (hwf : s.Wf)
    (hrounds : roundsOf s.pending ≤ rounds) (hnone : s.priv.currentBindingMsg = none)
    (peer : NiceAddress) :
    ∃ r, addChannelBindingIn env schedule s peer = .ok r ∧ BindingAttempted s r := by
  unfold addChannelBindingIn
  dsimp only
  split_ifs
  · exact ⟨_, rfl, .inl ⟨⟨rfl, rfl, rfl⟩, hnone⟩⟩
  · cases s.priv.compatibility with
    | draft9 | rfc5766 => exact addChannelIn_spec hsched hwf hrounds hnone peer
    | msn | oc2007 => exact addActiveDstIn_spec hsched hwf hrounds hnone peer
    | google => exact ⟨_, rfl, .inl ⟨⟨rfl, rfl, rfl⟩, hnone⟩⟩

/-- The loop over the pending bindings. -/
lemma processPendingIn_spec (hsched : Schedules rounds schedule) (n : ℕ) :
    ∀ {s : TickState}, s.Wf → roundsOf s.pending ≤ rounds → s.priv.currentBindingMsg = none →
      ∃ s', processPendingIn env schedule n s = .ok s' ∧ Advanced s s' := by
  induction n with
  | zero => exact fun {s} _ _ hnone => ⟨s, rfl, .inl ⟨⟨rfl, rfl, rfl⟩, hnone⟩⟩
  | succ n ih =>
      intro s hwf hrounds hnone
      rw [processPendingIn]
      cases hpeers : s.priv.pendingBindings with
      | nil => exact ⟨s, rfl, .inl ⟨⟨rfl, rfl, rfl⟩, hnone⟩⟩
      | cons peer peers =>
          obtain ⟨⟨s₁, ret⟩, hrun, hout⟩ :=
            @addChannelBindingIn_spec env s rounds schedule hsched hwf hrounds hnone peer
          dsimp only
          rw [hrun]
          simp only [bind, Except.bind]
          set s₂ : TickState :=
            { s₁ with priv := { s₁.priv with pendingBindings := s₁.priv.pendingBindings.tail } }
            with hs₂
          rcases hout with ⟨hsame, hnone'⟩ | ⟨hret, hsettled, hwf', harmed⟩
          · have hsame₂ : Unwalked s s₂ := hsame.trans ⟨rfl, rfl, rfl⟩
            have hnone₂ : s₂.priv.currentBindingMsg = none := hnone'
            cases ret with
            | true => exact ⟨s₂, rfl, .inl ⟨hsame₂, hnone₂⟩⟩
            | false =>
                have hwf₂ := hsame₂.wf hwf fun msg hm => by
                  rw [hnone₂] at hm
                  cases hm
                obtain ⟨s', hrun', hadv⟩ := ih hwf₂ (by rwa [hsame₂.pending]) hnone₂
                refine ⟨s', hrun', ?_⟩
                rcases hadv with ⟨hsame', hnone'⟩ | ⟨hsettled, hwf', harmed⟩
                · exact .inl ⟨hsame₂.trans hsame', hnone'⟩
                · exact .inr ⟨hsame₂.settled hsettled, hwf', harmed⟩
          · have hret : ret = true := hret
            rw [hret]
            refine ⟨s₂, rfl, .inr ⟨⟨hsettled.clock, hsettled.pending, hsettled.processed⟩, ?_, ?_⟩⟩
            · exact ⟨hwf'.nodup, hwf'.usec, hwf'.word, hwf'.bindingWord⟩
            · exact harmed

/-- What is done twice is done once. -/
lemma Advanced.trans (h : Advanced s s') (h' : Advanced s' s'') (hwf : s.Wf) : Advanced s s'' := by
  rcases h with ⟨hsame, -⟩ | ⟨hsettled, -, -⟩
  · rcases h' with ⟨hsame', hnone⟩ | ⟨hsettled', hwf', harmed⟩
    · exact .inl ⟨hsame.trans hsame', hnone⟩
    · exact .inr ⟨hsame.settled hsettled', hwf', harmed⟩
  · rcases h' with ⟨hsame', hnone⟩ | ⟨hsettled', hwf', harmed⟩
    · have hsettled'' : TicksSettled s s'' := by
        obtain ⟨log, hlog, hiff⟩ := hsettled.processed
        exact ⟨hsame'.clock.trans hsettled.clock, hsame'.pending.trans hsettled.pending, log,
          hsame'.processed.trans hlog, hiff⟩
      have hbinding : ∀ msg, s''.priv.currentBindingMsg = some msg → False := fun msg hm => by
        rw [hnone] at hm
        cases hm
      exact .inr ⟨hsettled'', hsettled''.wf hwf fun msg hm => (hbinding msg hm).elim,
        fun msg hm => (hbinding msg hm).elim⟩
    · exact .inr ⟨hsettled.trans hsettled' hwf.word, hwf', harmed⟩

lemma Advanced.wf (h : Advanced s s') (hwf : s.Wf) : s'.Wf := by
  rcases h with ⟨hsame, hnone⟩ | ⟨-, hwf', -⟩
  · exact hsame.wf hwf fun msg hm => by
      rw [hnone] at hm
      cases hm
  · exact hwf'

lemma Advanced.roundsOf_le (h : Advanced s s') (hwf : s.Wf)
    (hrounds : roundsOf s.pending ≤ rounds) :
    roundsOf s'.pending ≤ rounds := by
  rcases h with ⟨hsame, -⟩ | ⟨hsettled, -, -⟩
  · rwa [hsame.pending]
  · rw [hsettled.pending]
    exact (roundsOf_settledCells hwf.word).trans hrounds

/-- **The pending bindings**, with no request in flight. -/
lemma processPendingBindingsIn_spec (hsched : Schedules rounds schedule) (hwf : s.Wf)
    (hrounds : roundsOf s.pending ≤ rounds) (hnone : s.priv.currentBindingMsg = none) :
    ∃ s', processPendingBindingsIn env schedule s = .ok s' ∧ Advanced s s' := by
  obtain ⟨s₁, hrun, hadv⟩ := @processPendingIn_spec env rounds schedule hsched
    s.priv.pendingBindings.length s hwf hrounds hnone
  rw [processPendingBindingsIn, hrun]
  simp only [bind, Except.bind]
  split_ifs with hidle
  · have hnone₁ : s₁.priv.currentBindingMsg = none := Option.isNone_iff_eq_none.mp hidle.2
    cases s₁.priv.channels.find? (·.renew) with
    | none => exact ⟨s₁, rfl, hadv⟩
    | some b =>
        obtain ⟨s', ret, hrun', hout⟩ := @sendChannelBind_spec env s₁ rounds schedule hsched
          (hadv.wf hwf) (hadv.roundsOf_le hwf hrounds) hnone₁ none b.peer
        dsimp only
        rw [hrun']
        refine ⟨s', rfl, hadv.trans ?_ hwf⟩
        rcases hout with ⟨-, hsame, hnone'⟩ | ⟨-, hsettled, hwf', harmed⟩
        · exact .inl ⟨hsame, hnone'⟩
        · exact .inr ⟨hsettled, hwf', harmed⟩
  · exact ⟨s₁, rfl, hadv⟩

/-- How deep the calls of `priv_schedule_tick` by itself are. -/
def depthOf (s : TickState) : ℕ :=
  match s.priv.currentBindingMsg with
  | none => 1
  | some msg =>
      if 0 < stunTimerRemainderWord s.priv.clock msg.timer then 1 else msg.timer.left + 2

/-- The first half of the function has left the requests as they were, or done its second half too;
then the second half is done. -/
lemma scheduleCells_after (hwf : s.Wf) (hrounds : roundsOf s.pending ≤ rounds)
    (h : (Unwalked s s' ∧ BindingArmed s' ∧ s'.Wf) ∨
      (TicksSettled s s' ∧ s'.Wf ∧ BindingArmed s')) :
    ∃ s'', scheduleCells env rounds s' = .ok s'' ∧ TicksSettled s s'' ∧ s''.Wf ∧ BindingArmed s'' ∧
      s''.createPermission = createSource s.priv.clock s''.pending := by
  have hwf' : s'.Wf := by
    rcases h with ⟨-, -, h⟩ | ⟨-, h, -⟩ <;> exact h
  have harmed : BindingArmed s' := by
    rcases h with ⟨-, h, -⟩ | ⟨-, -, h⟩ <;> exact h
  have hclock : s'.priv.clock = s.priv.clock := by
    rcases h with ⟨h, -⟩ | ⟨h, -⟩ <;> exact h.clock
  have hrounds' : roundsOf s'.pending ≤ rounds := by
    rcases h with ⟨h, -⟩ | ⟨h, -⟩
    · rwa [h.pending]
    · rw [h.pending]
      exact (roundsOf_settledCells hwf.word).trans hrounds
  obtain ⟨s'', hrun, hsettled, hbinding, hchannel, hcreate⟩ :=
    scheduleCells_spec env hwf'.nodup hwf'.word hrounds'
  refine ⟨s'', hrun, ?_, hsettled.wf hwf' (hbinding ▸ hwf'.bindingWord), ?_, hclock ▸ hcreate⟩
  · rcases h with ⟨h, -⟩ | ⟨h, -⟩
    · exact h.settled hsettled
    · exact h.trans hsettled hwf.word
  · intro msg hm
    rw [hbinding] at hm
    rw [hsettled.clock, hchannel]
    exact harmed msg hm

/-- The binding request with its timer started over. -/
def resent (env : Env) (s : TickState) (msg : TURNMessage) : TickState :=
  { s with
    priv := (socketSendWrapped env
      { s.priv with currentBindingMsg := some { msg with timer := retransmitted msg.timer } }
      msg.length).1 }

/-- **The tick of a binding request** whose timer is over. -/
lemma retransmissionsTickUnlocked_spec (hsched : Schedules rounds schedule) (hwf : s.Wf)
    (hrounds : roundsOf s.pending ≤ rounds) {msg : TURNMessage}
    (hmsg : s.priv.currentBindingMsg = some msg)
    (hzero : stunTimerRemainderWord s.priv.clock msg.timer = 0)
    (hagain : msg.timer.retransmissions < msg.timer.maxRetransmissions →
      ∃ s', schedule (resent env s msg) = .ok s' ∧ TicksSettled (resent env s msg) s' ∧ s'.Wf ∧
        BindingArmed s') :
    ∃ s' ret, retransmissionsTickUnlocked env schedule s = .ok (s', ret) ∧ Advanced s s' := by
  rw [retransmissionsTickUnlocked, hmsg]
  dsimp only
  rw [stunTimerRefreshWord_eq hzero]
  by_cases hmax : msg.timer.retransmissions ≥ msg.timer.maxRetransmissions
  · -- it times out, and the pending bindings get their turn
    rw [if_pos hmax]
    set s₀ : TickState :=
      { s with
        priv := { s.priv with
          agent := (stunAgentForgetTransaction s.priv.agent msg.id).1
          currentBinding := none
          currentBindingMsg := none } } with hs₀
    have hsame : Unwalked s s₀ := ⟨rfl, rfl, rfl⟩
    have hwf₀ : s₀.Wf := hsame.wf hwf fun m hm => by cases hm
    obtain ⟨s', hrun, hadv⟩ :=
      @processPendingBindingsIn_spec env s₀ rounds schedule hsched hwf₀ hrounds rfl
    refine ⟨s', false, ?_, ?_⟩
    · dsimp only
      rw [hrun]
      rfl
    · rcases hadv with ⟨hsame', hnone⟩ | ⟨hsettled, hwf', harmed⟩
      · exact .inl ⟨hsame.trans hsame', hnone⟩
      · exact .inr ⟨hsame.settled hsettled, hwf', harmed⟩
  · rw [if_neg hmax]
    obtain ⟨s', hrun, hsettled, hwf', harmed⟩ := hagain (not_le.mp hmax)
    have hsame : Unwalked s (resent env s msg) := ⟨rfl, rfl, rfl⟩
    refine ⟨s', true, ?_, .inr ⟨hsame.settled hsettled, hwf', harmed⟩⟩
    rw [resent] at hrun
    dsimp only
    rw [hrun]
    rfl

/-- A binding request with time left, or none, needs no deeper call. -/
lemma depthOf_of_left (h : ∀ msg, s.priv.currentBindingMsg = some msg →
    0 < stunTimerRemainderWord s.priv.clock msg.timer) : depthOf s = 1 := by
  rw [depthOf]
  split
  · rfl
  next msg hm => rw [if_pos (h msg hm)]

lemma depthOf_pos (s : TickState) : 0 < depthOf s := by
  rw [depthOf]
  split
  · exact Nat.one_pos
  · split_ifs
    · exact Nat.one_pos
    · exact Nat.succ_pos _

/-- **`priv_schedule_tick` ends**, touches no element that was freed, processes the requests whose
timers are over and no other one, and arms the source of a binding request. -/
theorem privScheduleTickIn_spec (env : Env) (rounds depth : ℕ) :
    ∀ {s : TickState}, s.Wf → roundsOf s.pending ≤ rounds → depthOf s ≤ depth →
      ∃ s', privScheduleTickIn env rounds depth s = .ok s' ∧ TicksSettled s s' ∧ s'.Wf ∧
        BindingArmed s' ∧
        s'.createPermission = createSource s.priv.clock s'.pending := by
  induction depth with
  | zero => exact fun {s} _ _ hdepth => absurd (depthOf_pos s) (by omega)
  | succ depth ih =>
      intro s hwf hrounds hdepth
      rw [privScheduleTickIn, scheduleTick]
      set s₀ : TickState := { s with channelBind := none } with hs₀
      have hwf₀ : s₀.Wf := ⟨hwf.nodup, hwf.usec, hwf.word, hwf.bindingWord⟩
      cases hmsg : s.priv.currentBindingMsg with
      | none =>
          have hnone : BindingArmed s₀ := fun msg hm => by
            have hm : s.priv.currentBindingMsg = some msg := hm
            rw [hmsg] at hm
            cases hm
          exact scheduleCells_after hwf hrounds (.inl ⟨⟨rfl, rfl, rfl⟩, hnone, hwf₀⟩)
      | some msg =>
          dsimp only
          by_cases hleft : stunTimerRemainderWord s.priv.clock msg.timer > 0
          · rw [if_pos hleft]
            refine scheduleCells_after hwf hrounds (.inl ⟨⟨rfl, rfl, rfl⟩, fun m hm => ?_,
              ⟨hwf.nodup, hwf.usec, hwf.word, hwf.bindingWord⟩⟩)
            obtain rfl : msg = m := Option.some.inj (hmsg.symm.trans hm)
            exact ⟨hleft, rfl⟩
          · -- the binding request is over: its tick runs, and calls the function again
            have hzero : stunTimerRemainderWord s₀.priv.clock msg.timer = 0 :=
              Nat.eq_zero_of_not_pos hleft
            have hlow : msg.timer.left + 1 ≤ depth := by
              rw [depthOf, hmsg] at hdepth
              dsimp only at hdepth
              rw [if_neg hleft] at hdepth
              omega
            have hsched : Schedules rounds (privScheduleTickIn env rounds depth) := by
              intro s₁ hwf₁ hrounds₁ hleft₁
              obtain ⟨s', hrun, hsettled, hwf', harmed, -⟩ :=
                ih hwf₁ hrounds₁ (by rw [depthOf_of_left hleft₁]; omega)
              exact ⟨s', hrun, hsettled, hwf', harmed⟩
            have hagain (hmax : msg.timer.retransmissions < msg.timer.maxRetransmissions) :
                ∃ s', privScheduleTickIn env rounds depth (resent env s₀ msg) = .ok s' ∧
                  TicksSettled (resent env s₀ msg) s' ∧ s'.Wf ∧ BindingArmed s' := by
              have hword := hwf.bindingWord msg hmsg
              have hfewer : (retransmitted msg.timer).left + 1 = msg.timer.left :=
                retransmitted_left hword hmax
              have hsame : Unwalked s₀ (resent env s₀ msg) := ⟨rfl, rfl, rfl⟩
              have hwf₁ : (resent env s₀ msg).Wf := hsame.wf hwf₀ fun m hm => by
                rw [← Option.some.inj hm]
                exact hword
              have hdepth₁ : depthOf (resent env s₀ msg) ≤ (retransmitted msg.timer).left + 2 := by
                change (if _ then 1 else (retransmitted msg.timer).left + 2) ≤ _
                split_ifs
                · exact Nat.le_add_left 1 _
                · exact le_rfl
              have hdeep : (retransmitted msg.timer).left + 2 ≤ depth := by omega
              obtain ⟨s', hrun, hsettled, hwf', harmed, -⟩ :=
                ih hwf₁ hrounds (hdepth₁.trans hdeep)
              exact ⟨s', hrun, hsettled, hwf', harmed⟩
            obtain ⟨s₁, ret, hrun, hadv⟩ := @retransmissionsTickUnlocked_spec env s₀ rounds _ hsched
              hwf₀ hrounds msg hmsg hzero hagain
            rw [if_neg hleft, hrun]
            refine scheduleCells_after hwf hrounds ?_
            rcases hadv with ⟨hsame, hnone⟩ | ⟨hsettled, hwf', harmed⟩
            · have hbinding : ∀ m, s₁.priv.currentBindingMsg ≠ some m := fun m hm => by
                rw [hnone] at hm
                cases hm
              exact .inl ⟨⟨hsame.clock, hsame.pending, hsame.processed⟩,
                fun m hm => (hbinding m hm).elim,
                hsame.wf hwf₀ fun m hm => (hbinding m hm).elim⟩
            · exact .inr ⟨⟨hsettled.clock, hsettled.pending, hsettled.processed⟩, hwf', harmed⟩

end Recursion

/-! ### In time -/

/-- What is asked of the two sources: each fires when the timers of its requests have run out. -/
structure TicksInTime (s : TickState) : Prop where
  createPermission : s.pending ≠ [] → ∃ source, s.createPermission = some source ∧
    (∃ c ∈ s.pending, source.delay = stunTimerRemainderWord s.priv.clock c.2.timer) ∧
    ∀ c ∈ s.pending, source.delay ≤ stunTimerRemainderWord s.priv.clock c.2.timer
  channelBind : ∀ msg, s.priv.currentBindingMsg = some msg → ∃ source,
    s.channelBind = some source ∧
      source.delay = stunTimerRemainderWord s.priv.clock msg.timer

/-- A CreatePermission request whose timer was started at `start` seconds. -/
def samplePermission (start : ℕ) : TURNMessage :=
  { method := STUN_CREATEPERMISSION, id := [], peer := ⟨false, [1, 2, 3, 4], 5, 0⟩, realm := none
    length := 32, timer := stunTimerStart ⟨start, 0⟩ 600 0 }

/-- A socket with two such requests, at a clock of ten seconds. -/
def sampleTick (first second : ℕ) : TickState :=
  { priv := { niceUdpTurnSocketNew ⟨false, [9, 9, 9, 9], 3478, 0⟩ false [] [] .rfc5766 with
      clock := ⟨10, 0⟩ }
    pending := [(1, samplePermission first), (2, samplePermission second)]
    channelBind := none
    createPermission := none
    processed := [] }

lemma sampleTick_wf (first second : ℕ) : (sampleTick first second).Wf := by
  refine ⟨?_, ?_, ?_, fun msg hmsg => by cases hmsg⟩
  · change [1, 2].Nodup
    decide
  · change 0 < 1000000
    decide
  · change ∀ c ∈ [(1, samplePermission first), (2, samplePermission second)], _
    simp [samplePermission, stunTimerStart]

/-- The sources of two requests that were sent just now. -/
lemma sampleTick_run : privScheduleTickIn sampleEnv 20 20 (sampleTick 10 10) =
    .ok { sampleTick 10 10 with createPermission := some ⟨0, true⟩ } := rfl

end LibNice.UdpTurn
