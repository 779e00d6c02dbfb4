import LibNice.Foundation.Run
import LibNice.Socket.UdpTurn.Socket

/-!
What the functions of a UDP-TURN socket do to its bindings.

* `BindingView`, `bindingView`: the part of the state that the bindings are.
* `bindingView_schedulePermissions`: **the CreatePermission requests leave the
  bindings alone**.
* `privSendTurnMessage_eq`, `privRetransmissionsTickUnlocked_eq`: the equations of
  the source for the two functions that call each other.
* `Requested`, `Processed`: what an attempt to request a binding and
  `priv_process_pending_bindings` come to.
* `BindingStep`: what a step of the socket does to its bindings;
  `step_bindings` says that each step is one.
-/

namespace LibNice.UdpTurn

open LibNice.Foundation LibNice.Stun LibNice.Ice

variable {env : Env} {s s' : UdpTurnPriv}

/-! ### The view -/

/-- The requests for new bindings so far, with the bindings at that time. -/
def newBindings (trace : List Trace) : List (List ChannelBinding × NiceAddress) :=
  trace.filterMap fun
    | .newBinding channels peer => some (channels, peer)
    | _ => none

/-- The bindings of a socket, the requests for bindings so far, and whether a
tick is due. -/
structure BindingView extends Bindings where
  compatibility : NiceTurnSocketCompatibility
  requests : List (List ChannelBinding × NiceAddress)
  tick : Bool

/-- The bindings of a socket. -/
def bindingView (s : UdpTurnPriv) : BindingView :=
  { s.toBindings with
    compatibility := s.compatibility
    requests := newBindings s.trace
    tick := s.tickSourceChannelBind }

lemma newBindings_append (t t' : List Trace) :
    newBindings (t ++ t') = newBindings t ++ newBindings t' := by
  simp [newBindings]

/-! ### What leaves the bindings alone -/

@[simp] lemma bindingView_sendWrapped (n : ℕ) :
    bindingView (socketSendWrapped env s n).1 = bindingView s := rfl

@[simp] lemma bindingView_transmit (n : ℕ) :
    bindingView (transmit env s n) = bindingView s := by
  simp only [transmit]
  split_ifs <;> rfl

@[simp] lemma bindingView_dequeueLoop (peer : NiceAddress) (queue : List SendData) :
    bindingView (dequeueLoop env peer queue s) = bindingView s := by
  induction queue generalizing s with
  | nil => rfl
  | cons data rest ih =>
      simp only [dequeueLoop]
      rw [ih]
      simp only [bindingView, socketSendWrapped, newBindings_append]
      split_ifs <;> simp only [newBindings, List.filterMap, List.append_nil]

@[simp] lemma bindingView_permitPeer (peer : NiceAddress) :
    bindingView (permitPeer env s peer) = bindingView s := by
  simp only [permitPeer, socketDequeueAllData]
  exact bindingView_dequeueLoop peer _

@[simp] lemma bindingView_permissionTick (n : ℕ) (msg : TURNMessage) :
    bindingView (permissionTick env n msg s).1 = bindingView s := by
  induction n generalizing msg s with
  | zero => rfl
  | succ n ih =>
      simp only [permissionTick]
      split_ifs
      · rfl
      · cases h : stunTimerRefresh s.clock msg.timer with
        | mk timer ret =>
            cases ret with
            | success => rfl
            | retransmit => rw [ih, bindingView_sendWrapped]
            | timeout => exact bindingView_permitPeer msg.peer

@[simp] lemma bindingView_permissionLoop (msgs : List TURNMessage) :
    bindingView (permissionLoop env msgs s).1 = bindingView s := by
  induction msgs generalizing s with
  | nil => rfl
  | cons msg rest ih =>
      simp only [permissionLoop]
      rw [ih, bindingView_permissionTick]

@[simp] lemma bindingView_withPending (msgs : List TURNMessage) :
    bindingView (s.withPending msgs) = bindingView s := rfl

@[simp] lemma bindingView_startPermissionTimer (msg : ReceivedMessage) :
    bindingView (startPermissionTimer s msg) = bindingView s := by
  simp only [startPermissionTimer]
  split_ifs <;> rfl

/-- **The CreatePermission requests leave the bindings alone.** -/
@[simp] theorem bindingView_schedulePermissions :
    bindingView (schedulePermissions env s) = bindingView s :=
  bindingView_permissionLoop s.pendingPermissions

/-! ### The equations of the source -/

/-- A transmission only counts. -/
lemma transmit_eq (env : Env) (s : UdpTurnPriv) (n : ℕ) :
    ∃ k, transmit env s n = { s with sends := k } := by
  simp only [transmit]
  split_ifs <;> exact ⟨_, rfl⟩

/-- A request that has just been sent has time left. -/
lemma startTimer_left (s : UdpTurnPriv) : stunTimerRemainder s.clock (startTimer s) > 0 := by
  unfold startTimer stunTimerStartReliable
  split_ifs
  · rw [stunTimerRemainder_start]
    decide
  · rw [stunTimerRemainder_start]
    decide

/-- While the binding request has time left, the ticks do not matter. -/
lemma scheduleTickWith_left {tick : UdpTurnPriv → UdpTurnPriv} {msg : TURNMessage}
    (hm : s.currentBindingMsg = some msg) (hr : stunTimerRemainder s.clock msg.timer > 0) :
    scheduleTickWith env tick s =
      schedulePermissions env { s with tickSourceChannelBind := true } := by
  simp only [scheduleTickWith, hm, hr, if_true]

/-- With no binding request, the ticks do not matter. -/
lemma scheduleTickWith_none {tick : UdpTurnPriv → UdpTurnPriv} (hm : s.currentBindingMsg = none) :
    scheduleTickWith env tick s =
      schedulePermissions env { s with tickSourceChannelBind := false } := by
  simp only [scheduleTickWith, hm]

/-- A binding request without time left is given to the tick. -/
lemma scheduleTickWith_over {tick : UdpTurnPriv → UdpTurnPriv} {msg : TURNMessage}
    (hm : s.currentBindingMsg = some msg) (hr : stunTimerRemainder s.clock msg.timer = 0) :
    scheduleTickWith env tick s =
      schedulePermissions env (tick { s with tickSourceChannelBind := false }) := by
  simp only [scheduleTickWith, hm, hr, gt_iff_lt, lt_irrefl, if_false]

/-- **`priv_send_turn_message` ends with `priv_schedule_tick`.** -/
theorem privSendTurnMessage_eq (msg : TURNMessage) :
    privSendTurnMessage env s msg =
      let s := transmit env { s with currentBindingMsg := none } msg.length
      privScheduleTick env
        { s with currentBindingMsg := some { msg with timer := startTimer s } } := by
  simp only [privSendTurnMessage, privScheduleTick]
  rw [scheduleTickWith_left rfl (startTimer_left _), scheduleTickWith_left rfl (startTimer_left _)]

/-- **`priv_retransmissions_tick_unlocked`, as the source has it.** -/
theorem privRetransmissionsTickUnlocked_eq :
    privRetransmissionsTickUnlocked env s =
      match s.currentBindingMsg with
      | none => (s, false)
      | some msg =>
          match stunTimerRefresh s.clock msg.timer with
          | (_, .timeout) => (bindingTimedOut env s msg, false)
          | (timer, .retransmit) =>
              (privScheduleTick env
                (socketSendWrapped env { s with currentBindingMsg := some { msg with timer } }
                  msg.length).1, true)
          | (_, .success) => (privScheduleTick env s, true) := by
  cases hm : s.currentBindingMsg with
  | none => simp only [privRetransmissionsTickUnlocked, retransmissionsLeft, hm, Option.map_none,
      Option.getD_none, retransmissionsTick]
  | some msg =>
      simp only [privRetransmissionsTickUnlocked, retransmissionsLeft, hm, Option.map_some,
        Option.getD_some]
      cases hr : stunTimerRefresh s.clock msg.timer with
      | mk timer ret =>
          rw [retransmissionsTick.eq_def]
          simp only [hm, hr]
          rcases stunTimerRefresh_cases hr with ⟨hrem, rfl, -⟩ | ⟨-, -, rfl, -⟩ | ⟨-, rfl, hleft⟩
          · have hpos : stunTimerRemainder s.clock msg.timer > 0 := by omega
            simp only [privScheduleTick, scheduleTickWith_left hm hpos]
          · rfl
          · rw [← hleft]
            rfl

/-! ### Requests -/

/-- The bindings with a request in flight. -/
def BindingView.inFlight (v : BindingView) (msg : TURNMessage) : BindingView :=
  { v with currentBindingMsg := some msg, tick := true }

/-- The bindings with a request for a new binding of `peer` in flight. -/
def BindingView.request (v : BindingView) (peer : NiceAddress) (msg : TURNMessage) : BindingView :=
  { v with
    currentBinding := some (newChannelBinding peer
      (if v.compatibility.hasChannels then freeChannel v.channels else 0))
    currentBindingMsg := some msg
    requests := if v.compatibility.hasChannels then v.requests ++ [(v.channels, peer)]
      else v.requests
    tick := true }

lemma request_channel {v : BindingView} (hs : v.compatibility.hasChannels) (peer : NiceAddress)
    (msg : TURNMessage) :
    v.request peer msg =
      { v.inFlight msg with
        currentBinding := some (newChannelBinding peer (freeChannel v.channels))
        requests := v.requests ++ [(v.channels, peer)] } := by
  simp only [BindingView.request, BindingView.inFlight, if_pos hs]

lemma request_active {v : BindingView} (hs : ¬v.compatibility.hasChannels) (peer : NiceAddress)
    (msg : TURNMessage) :
    v.request peer msg =
      { v.inFlight msg with currentBinding := some (newChannelBinding peer 0) } := by
  simp only [BindingView.request, BindingView.inFlight, if_neg hs]

lemma bindingView_privSendTurnMessage (env : Env) (s : UdpTurnPriv) (msg : TURNMessage) :
    ∃ timer, bindingView (privSendTurnMessage env s msg) =
      (bindingView s).inFlight { msg with timer } := by
  obtain ⟨k, hk⟩ := transmit_eq env { s with currentBindingMsg := none } msg.length
  refine ⟨startTimer s, ?_⟩
  simp only [privSendTurnMessage, hk]
  rw [scheduleTickWith_left rfl (startTimer_left _), bindingView_schedulePermissions]
  rfl

/-- What `priv_send_channel_bind` does to the bindings. -/
lemma bindingView_privSendChannelBind {resp : Option ReceivedMessage} {peer : NiceAddress}
    {r : Bool} (h : privSendChannelBind env s resp peer = (s', r)) :
    (r = true ∧ ∃ msg, bindingView s' = (bindingView s).inFlight msg) ∨
      (r = false ∧ (buildChannelBind s (env.transid s.transids) resp peer).isNone ∧
        bindingView s' = bindingView s) := by
  simp only [privSendChannelBind] at h
  cases hb : buildChannelBind s (env.transid s.transids) resp peer with
  | none =>
      rw [hb] at h
      obtain ⟨rfl, rfl⟩ := Prod.mk.inj h
      exact .inr ⟨rfl, rfl, rfl⟩
  | some built =>
      rw [hb] at h
      obtain ⟨rfl, rfl⟩ := Prod.mk.inj h
      obtain ⟨timer, ht⟩ := bindingView_privSendTurnMessage env _ _
      exact .inl ⟨rfl, _, ht⟩

/-- What an attempt to bind `peer` does to the bindings. -/
inductive Requested (v : BindingView) (peer : NiceAddress) : BindingView → Bool → Prop
  /-- The peer waits for the binding that is being requested. -/
  | waits : v.currentBinding.isSome →
      Requested v peer { v with pendingBindings := v.pendingBindings ++ [peer] } false
  /-- The request is not built. -/
  | refused : v.currentBinding = none → Requested v peer v false
  | sent (msg : TURNMessage) : v.currentBinding = none →
      (v.compatibility.hasChannels → 0x4000 ≤ freeChannel v.channels) →
      Requested v peer (v.request peer msg) true

lemma Requested.sentChannel {v : BindingView} {peer : NiceAddress}
    (hs : v.compatibility.hasChannels) (hc : v.currentBinding = none)
    (hr : 0x4000 ≤ freeChannel v.channels) (msg : TURNMessage) :
    Requested v peer
      { v.inFlight msg with
        currentBinding := some (newChannelBinding peer (freeChannel v.channels))
        requests := v.requests ++ [(v.channels, peer)] } true := by
  rw [← request_channel hs]
  exact .sent msg hc fun _ => hr

lemma Requested.sentActive {v : BindingView} {peer : NiceAddress}
    (hs : ¬v.compatibility.hasChannels) (hc : v.currentBinding = none) (msg : TURNMessage) :
    Requested v peer
      { v.inFlight msg with currentBinding := some (newChannelBinding peer 0) } true := by
  rw [← request_active hs]
  exact .sent msg hc fun h => absurd h hs

lemma requested_addChannel {peer : NiceAddress} {r : Bool} (hc : s.currentBinding = none)
    (hs : s.compatibility.hasChannels) (h : addChannel env s peer = (s', r)) :
    Requested (bindingView s) peer (bindingView s') r := by
  simp only [addChannel] at h
  split_ifs at h with hrange
  · cases hp : privSendChannelBind env s none peer with
    | mk t r' =>
        rcases bindingView_privSendChannelBind hp with ⟨rfl, msg, ht⟩ | ⟨rfl, -, ht⟩
        · rw [hp] at h
          obtain ⟨rfl, rfl⟩ := Prod.mk.inj h
          have hv : bindingView
              { t with
                currentBinding := some (newChannelBinding peer (freeChannel s.channels))
                trace := t.trace ++ [.newBinding s.channels peer] } =
              { bindingView t with
                currentBinding := some (newChannelBinding peer (freeChannel s.channels))
                requests := (bindingView t).requests ++ [(s.channels, peer)] } := by
            simp only [bindingView, newBindings_append]
            rfl
          have hs' : (bindingView s).compatibility.hasChannels := hs
          rw [hv, ht]
          exact .sentChannel hs' hc hrange.1 msg
        · rw [hp] at h
          obtain ⟨rfl, rfl⟩ := Prod.mk.inj h
          rw [ht]
          exact .refused hc
  · obtain ⟨rfl, rfl⟩ := Prod.mk.inj h
    exact .refused hc

lemma requested_addActiveDst {peer : NiceAddress} {r : Bool} (hc : s.currentBinding = none)
    (hs : ¬s.compatibility.hasChannels) (h : addActiveDst env s peer = (s', r)) :
    Requested (bindingView s) peer (bindingView s') r := by
  simp only [addActiveDst] at h
  cases hb : buildSetActiveDst s (env.transid s.transids) peer with
  | none =>
      rw [hb] at h
      obtain ⟨rfl, rfl⟩ := Prod.mk.inj h
      exact .refused hc
  | some built =>
      rw [hb] at h
      obtain ⟨rfl, rfl⟩ := Prod.mk.inj h
      obtain ⟨timer, ht⟩ := bindingView_privSendTurnMessage env
        { s with
          agent := built.2
          transids := s.transids + 1
          currentBinding := some (newChannelBinding peer 0) }
        { method := STUN_OLD_SET_ACTIVE_DST, id := env.transid s.transids
          peer := unscoped peer, realm := none, length := built.1, timer := startTimer s }
      have hs' : ¬(bindingView s).compatibility.hasChannels := hs
      rw [ht]
      exact .sentActive hs' hc _

/-- **What `priv_add_channel_binding` does to the bindings.** -/
theorem requested_privAddChannelBinding {peer : NiceAddress} {r : Bool}
    (hg : s.compatibility ≠ .google) (h : privAddChannelBinding env s peer = (s', r)) :
    Requested (bindingView s) peer (bindingView s') r := by
  simp only [privAddChannelBinding] at h
  split_ifs at h with hc
  · obtain ⟨rfl, rfl⟩ := Prod.mk.inj h
    exact .waits hc
  · have hc' : s.currentBinding = none := by simpa using hc
    cases hs : s.compatibility with
    | google => exact absurd hs hg
    | draft9 | rfc5766 =>
        simp only [hs] at h
        exact requested_addChannel hc' (by rw [hs]; rfl) h
    | msn | oc2007 =>
        simp only [hs] at h
        exact requested_addActiveDst hc' (by rw [hs]; decide) h

/-! ### Waiting peers -/

/-- What `priv_process_pending_bindings` does to the bindings, when none is being
requested. -/
inductive Processed (v : BindingView) : BindingView → Prop
  /-- No request is built for any of the peers that wait. -/
  | idle : Processed v { v with pendingBindings := [] }
  /-- There are none, and a binding is renewed. -/
  | renewed (msg : TURNMessage) : v.currentBindingMsg = none → (∃ b ∈ v.channels, b.renew) →
      Processed v (BindingView.inFlight { v with pendingBindings := [] } msg)
  /-- A binding is requested for one that waits. -/
  | requested (pre : List NiceAddress) (peer : NiceAddress) (rest : List NiceAddress)
      (msg : TURNMessage) : v.pendingBindings = pre ++ peer :: rest →
      (v.compatibility.hasChannels → 0x4000 ≤ freeChannel v.channels) →
      Processed v (BindingView.request { v with pendingBindings := rest } peer msg)

lemma pendingBindings_nil {v : BindingView} (h : v.pendingBindings = []) :
    { v with pendingBindings := [] } = v := by
  rw [← h]

lemma bindingView_tail (s : UdpTurnPriv) :
    bindingView { s with pendingBindings := s.pendingBindings.tail } =
      { bindingView s with pendingBindings := (bindingView s).pendingBindings.tail } := rfl

/-- The loop over the peers that wait. -/
lemma processed_processPendingLoop {peers : List NiceAddress} (hg : s.compatibility ≠ .google)
    (hc : s.currentBinding = none) (hp : s.pendingBindings = peers) :
    bindingView (processPendingLoop env peers.length s) =
        { bindingView s with pendingBindings := [] } ∨
      ∃ pre peer rest msg, peers = pre ++ peer :: rest ∧
        (s.compatibility.hasChannels → 0x4000 ≤ freeChannel s.channels) ∧
        bindingView (processPendingLoop env peers.length s) =
          BindingView.request { bindingView s with pendingBindings := rest } peer msg := by
  induction peers generalizing s with
  | nil =>
      exact .inl (pendingBindings_nil (v := bindingView s) hp).symm
  | cons peer rest ih =>
      cases ha : privAddChannelBinding env s peer with
      | mk t r =>
          have hr := requested_privAddChannelBinding hg ha
          simp only [List.length_cons, processPendingLoop, hp, ha]
          generalize hv : bindingView t = v at hr
          cases hr with
          | waits hsome =>
              have hnone : (bindingView s).currentBinding = none := hc
              rw [hnone] at hsome
              cases hsome
          | refused _ =>
              have hg' : t.compatibility ≠ .google := by
                rw [show t.compatibility = s.compatibility from congrArg (·.compatibility) hv]
                exact hg
              have hc' : t.currentBinding = none := by
                rw [show t.currentBinding = s.currentBinding from congrArg (·.currentBinding) hv]
                exact hc
              have hp' : t.pendingBindings.tail = rest := by
                rw [show t.pendingBindings = s.pendingBindings from
                  congrArg (·.pendingBindings) hv, hp, List.tail_cons]
              have hch : t.channels = s.channels := congrArg (·.channels) hv
              have hco : t.compatibility = s.compatibility := congrArg (·.compatibility) hv
              simp only [Bool.false_eq_true, if_false]
              rcases ih (s := { t with pendingBindings := t.pendingBindings.tail }) hg' hc' hp' with
                h | ⟨pre, peer', rest', msg, hrest, hrange, h⟩
              · left
                rw [h, bindingView_tail, hv]
              · refine .inr ⟨peer :: pre, peer', rest', msg, by rw [hrest]; rfl, ?_, ?_⟩
                · simpa only [hch, hco] using hrange
                · rw [h, bindingView_tail, hv]
          | sent msg _ hrange =>
              refine .inr ⟨[], peer, rest, msg, rfl, hrange, ?_⟩
              rw [if_pos rfl, bindingView_tail, hv]
              have htail : (bindingView s).pendingBindings.tail = rest := by
                show s.pendingBindings.tail = rest
                rw [hp, List.tail_cons]
              simp only [BindingView.request, htail]

/-- **What `priv_process_pending_bindings` does to the bindings.** -/
theorem processed_privProcessPendingBindings (hg : s.compatibility ≠ .google)
    (hc : s.currentBinding = none) :
    Processed (bindingView s) (bindingView (privProcessPendingBindings env s)) := by
  simp only [privProcessPendingBindings]
  rcases @processed_processPendingLoop env s _ hg hc rfl with
    h | ⟨pre, peer, rest, msg, hp, hrange, h⟩
  · generalize processPendingLoop env s.pendingBindings.length s = t at h
    split_ifs with hm
    · simp only [renewBinding]
      cases hf : t.channels.find? (·.renew) with
      | none =>
          rw [h]
          exact .idle
      | some b =>
          have hch : t.channels = s.channels := congrArg (·.channels) h
          have hmsg : t.currentBindingMsg = s.currentBindingMsg :=
            congrArg (·.currentBindingMsg) h
          have hnone : s.currentBindingMsg = none := by simpa [hmsg] using hm.2
          cases hb : privSendChannelBind env t none b.peer with
          | mk t' r =>
              simp only [hb]
              rcases bindingView_privSendChannelBind hb with ⟨-, msg, ht⟩ | ⟨-, -, ht⟩
              · rw [ht, h]
                exact .renewed msg hnone
                  ⟨b, hch ▸ List.mem_of_find?_eq_some hf, List.find?_some hf⟩
              · rw [ht, h]
                exact .idle
    · rw [h]
      exact .idle
  · generalize processPendingLoop env s.pendingBindings.length s = t at h
    have hsome : t.currentBindingMsg = some msg := congrArg (·.currentBindingMsg) h
    rw [if_neg (by rw [hsome]; simp), h]
    exact .requested pre peer rest msg hp hrange

/-! ### Ticks -/

/-- The bindings with no request, and with or without a tick. -/
def BindingView.dropped (v : BindingView) (tick : Bool) : BindingView :=
  { v with currentBinding := none, currentBindingMsg := none, tick }

/-- What a tick does to the bindings. -/
inductive Ticked (v : BindingView) : BindingView → Prop
  /-- There is no request in flight. -/
  | none (tick : Bool) : v.currentBindingMsg = none → Ticked v { v with tick }
  /-- The request in flight stays, perhaps with another timer. -/
  | kept (msg : TURNMessage) : v.currentBindingMsg.isSome → Ticked v (v.inFlight msg)
  /-- It has timed out. -/
  | timedOut (v' : BindingView) (tick : Bool) : v.currentBindingMsg.isSome →
      Processed (v.dropped tick) v' → Ticked v v'

lemma Ticked.of_dropped {v v' : BindingView} (msg : TURNMessage) (tick : Bool)
    (hm : v.currentBindingMsg.isSome)
    (h : Ticked { v with currentBindingMsg := some msg, tick } v') : Ticked v v' := by
  cases h with
  | none _ h => cases h
  | kept msg' _ => exact .kept msg' hm
  | timedOut _ tick' _ h => exact .timedOut _ tick' hm h

/-- `priv_schedule_tick`, given what the tick does. -/
lemma ticked_scheduleTickWith (env : Env) (s : UdpTurnPriv) (tick : UdpTurnPriv → UdpTurnPriv)
    (msg : TURNMessage) (hm : s.currentBindingMsg = some msg)
    (h : ∀ t, bindingView t = { bindingView s with tick := false } →
      t.clock = s.clock → t.currentBindingMsg = some msg → t.compatibility = s.compatibility →
      stunTimerRemainder s.clock msg.timer = 0 → Ticked (bindingView t) (bindingView (tick t))) :
    Ticked (bindingView s) (bindingView (scheduleTickWith env tick s)) := by
  have hv : (bindingView s).currentBindingMsg = some msg := hm
  by_cases hr : stunTimerRemainder s.clock msg.timer = 0
  · rw [scheduleTickWith_over hm hr, bindingView_schedulePermissions]
    have ht := h { s with tickSourceChannelBind := false } rfl rfl hm rfl hr
    refine Ticked.of_dropped msg false (by rw [hv]; rfl) ?_
    rw [← hv]
    exact ht
  · rw [scheduleTickWith_left hm (by omega), bindingView_schedulePermissions]
    have hk := Ticked.kept (v := bindingView s) msg (by rw [hv]; rfl)
    simp only [BindingView.inFlight, ← hv] at hk
    exact hk

lemma processed_bindingTimedOut (hg : s.compatibility ≠ .google) (msg : TURNMessage) :
    Processed ((bindingView s).dropped s.tickSourceChannelBind)
      (bindingView (bindingTimedOut env s msg)) :=
  processed_privProcessPendingBindings
    (s := { s with
      agent := (stunAgentForgetTransaction s.agent msg.id).1
      currentBinding := none
      currentBindingMsg := none }) hg rfl

/-- **What `priv_retransmissions_tick_unlocked` does to the bindings.** -/
theorem ticked_privRetransmissionsTickUnlocked (hg : s.compatibility ≠ .google) :
    Ticked (bindingView s) (bindingView (privRetransmissionsTickUnlocked env s).1) := by
  -- the induction is on the number of retransmissions that are left
  induction hn : retransmissionsLeft s using Nat.strong_induction_on generalizing s with
  | _ n ih =>
      rw [privRetransmissionsTickUnlocked_eq]
      cases hm : s.currentBindingMsg with
      | none => exact .none s.tickSourceChannelBind hm
      | some msg =>
          have hsome : (bindingView s).currentBindingMsg.isSome := by
            show s.currentBindingMsg.isSome
            rw [hm]
            rfl
          cases hr : stunTimerRefresh s.clock msg.timer with
          | mk timer ret =>
              simp only [hr]
              rcases stunTimerRefresh_cases hr with
                ⟨hrem, rfl, -⟩ | ⟨-, -, rfl, -⟩ | ⟨-, rfl, hleft⟩
              · exact ticked_scheduleTickWith env s _ msg hm fun t _ _ _ _ h => absurd h hrem
              · exact .timedOut _ _ hsome (processed_bindingTimedOut hg msg)
              · have hs := ticked_scheduleTickWith env
                  (socketSendWrapped env
                    { s with currentBindingMsg := some { msg with timer } } msg.length).1
                  (fun t => (privRetransmissionsTickUnlocked env t).1)
                  { msg with timer } rfl fun t _ _ ht hc _ => ih _ (by
                    simp only [retransmissionsLeft, hm, ht, Option.map_some,
                      Option.getD_some] at hn ⊢
                    omega) (hc ▸ hg) rfl
                exact Ticked.of_dropped _ _ hsome hs

/-- `priv_schedule_tick`, given what the tick does to a request. -/
lemma ticked_scheduleTick (hg : s.compatibility ≠ .google) :
    Ticked (bindingView s) (bindingView
      (scheduleTickWith env (fun s => (privRetransmissionsTickUnlocked env s).1) s)) := by
  cases hm : s.currentBindingMsg with
  | none =>
      rw [scheduleTickWith_none hm, bindingView_schedulePermissions]
      exact .none false hm
  | some msg =>
      exact ticked_scheduleTickWith env s _ msg hm fun t _ _ _ hc _ =>
        ticked_privRetransmissionsTickUnlocked (hc ▸ hg)

/-- **What a CreatePermission request does to the bindings.** -/
theorem ticked_createPermission (hg : s.compatibility ≠ .google) (resp : Option ReceivedMessage)
    (peer : NiceAddress) :
    bindingView (createPermission env s resp peer) = bindingView s ∨
      Ticked (bindingView s) (bindingView (createPermission env s resp peer)) := by
  simp only [createPermission, privSendCreatePermission]
  have hadd : bindingView (addSentPermission s peer) = bindingView s := by
    simp only [addSentPermission]
    split_ifs <;> rfl
  generalize addSentPermission s peer = t at hadd
  cases hb : stunUsageTurnCreatePermission t (env.transid t.transids) resp peer with
  | none => exact .inl hadd
  | some built =>
      right
      obtain ⟨k, hk⟩ := transmit_eq env { t with agent := built.2, transids := t.transids + 1 }
        built.1
      have hg' : t.compatibility ≠ .google := by
        rw [show t.compatibility = s.compatibility from congrArg (·.compatibility) hadd]
        exact hg
      simp only [hk]
      rw [← hadd]
      exact ticked_scheduleTick (s := UdpTurnPriv.withPending
        { t with agent := built.2, transids := t.transids + 1, sends := k } _) hg'

/-! ### Steps -/

/-- What a binding is known by. -/
def ChannelBinding.key (b : ChannelBinding) : NiceAddress × UInt16 := (b.peer, b.channel)

lemma updateFirst_key (p : ChannelBinding → Bool) (f : ChannelBinding → ChannelBinding)
    (h : ∀ b, (f b).key = b.key) (l : List ChannelBinding) :
    (updateFirst p f l).map ChannelBinding.key = l.map ChannelBinding.key := by
  induction l with
  | nil => rfl
  | cons b rest ih =>
      simp only [updateFirst]
      split_ifs
      · simp only [List.map_cons, h]
      · simp only [List.map_cons, ih]

/-- What a step of the socket does to its bindings.  `bad` is what has to be the
case for peers to be left waiting, `late` for a request to be left without a
tick. -/
inductive BindingStep (bad late : Prop) (v : BindingView) : BindingView → Prop
  | same : BindingStep bad late v v
  | ticked (v' : BindingView) : Ticked v v' → BindingStep bad late v v'
  /-- A tick after which there is no other. -/
  | stopped (v' : BindingView) : Ticked v v' → (v'.currentBindingMsg.isSome → late) →
      BindingStep bad late v { v' with tick := false }
  | requested (peer : NiceAddress) (v' : BindingView) (r : Bool) : Requested v peer v' r →
      BindingStep bad late v v'
  /-- The answer to a Set Active Destination request, when it is granted. -/
  | active (b : ChannelBinding) (v' : BindingView) : v.currentBinding = some b →
      Processed { v with channels := [b], currentBinding := none, currentBindingMsg := none } v' →
      BindingStep bad late v v'
  /-- The answer to a Set Active Destination request, when it is refused. -/
  | inactive : (v.pendingBindings ≠ [] → bad) →
      BindingStep bad late v { v with currentBinding := none, currentBindingMsg := none }
  /-- The answer to a ChannelBind request that is sent again. -/
  | resent (msg : TURNMessage) : v.currentBindingMsg.isSome →
      BindingStep bad late v (v.inFlight msg)
  /-- The answer to a ChannelBind request that cannot be sent again. -/
  | unsent : (v.currentBinding.isSome → bad) →
      BindingStep bad late v { v with currentBindingMsg := none }
  /-- The answer to a ChannelBind request that is refused. -/
  | refused (v' : BindingView) :
      Processed { v with currentBinding := none, currentBindingMsg := none } v' →
      BindingStep bad late v v'
  /-- The answer to a ChannelBind request for a new binding that is granted. -/
  | granted (b b' : ChannelBinding) (v' : BindingView) : v.currentBinding = some b →
      b'.key = b.key →
      Processed { v with channels := v.channels ++ [b'], currentBinding := none
                         currentBindingMsg := none } v' →
      BindingStep bad late v v'
  /-- The answer to a ChannelBind request for an old binding that is granted. -/
  | refreshed (channels : List ChannelBinding) (v' : BindingView) : v.currentBinding = none →
      channels.map ChannelBinding.key = v.channels.map ChannelBinding.key →
      Processed { v with channels, currentBinding := none, currentBindingMsg := none } v' →
      BindingStep bad late v v'
  /-- A binding asks for its renewal. -/
  | renewal (channels : List ChannelBinding) :
      channels.map ChannelBinding.key = v.channels.map ChannelBinding.key →
      BindingStep bad late v { v with channels }
  /-- A binding is renewed. -/
  | renewed (channels : List ChannelBinding) (msg : TURNMessage) : v.currentBindingMsg = none →
      channels.map ChannelBinding.key = v.channels.map ChannelBinding.key →
      BindingStep bad late v (BindingView.inFlight { v with channels } msg)
  /-- A binding that is being renewed has expired. -/
  | expired (pre post : List ChannelBinding) (b : ChannelBinding) :
      v.channels = pre ++ b :: post → v.currentBinding = none → v.currentBindingMsg.isSome →
      BindingStep bad late v { v with channels := pre ++ post, currentBinding := some b }
  /-- Another binding has expired. -/
  | requestedAgain (pre post : List ChannelBinding) (b : ChannelBinding) (v' : BindingView)
      (r : Bool) : v.channels = pre ++ b :: post →
      Requested { v with channels := pre ++ post } b.peer v' r → BindingStep bad late v v'

/-- Whether `nice_udp_turn_socket_parse_recv` takes a datagram for a message of
the server. -/
def Accepted (s : UdpTurnPriv) (recvFrom : NiceAddress) (msg : ReceivedMessage)
    (status : StunValidationStatus) : Prop :=
  recvFrom = s.serverAddr ∧ (validateReceived s.agent msg status).2 = .success ∧
    (s.compatibility.hasChannels ∨ msg.magicCookie = some TURN_MAGIC_COOKIE)

/-- The answers after which peers are left waiting: a Set Active Destination
request is refused while peers wait, or the request for a new binding is refused
for want of credentials and cannot be built again. -/
def Strands (env : Env) (s : UdpTurnPriv) : Event → Prop
  | .recv _ _ recvFrom msg status =>
      Accepted s recvFrom msg status ∧
        ∃ b request, s.currentBinding = some b ∧ s.currentBindingMsg = some request ∧
          request.id = msg.id ∧
          ((msg.method = STUN_OLD_SET_ACTIVE_DST ∧ s.pendingBindings ≠ [] ∧
              ¬(msg.cls = .response ∧ (s.compatibility = .oc2007 ∨ s.compatibility = .msn))) ∨
            (msg.method = STUN_CHANNELBIND ∧ msg.cls = .error ∧ unauthorized request msg ∧
              (buildChannelBind (validated s msg status) (env.transid s.transids) (some msg)
                b.peer).isNone))
  | _ => False

/-- The ticks after which a request can be left without a tick: a request times
out while peers wait or bindings ask for their renewal. -/
def HandsOver (s : UdpTurnPriv) : Event → Prop
  | .retransmissionsTick =>
      s.currentBindingMsg.isSome ∧ (s.pendingBindings ≠ [] ∨ ∃ b ∈ s.channels, b.renew)
  | _ => False

section Parts

variable {bad late : Prop} {msg : ReceivedMessage}

lemma bindingView_parseSend (hg : s.compatibility ≠ .google) :
    bindingView (parseSend env s msg) = bindingView s := by
  simp only [parseSend, hg, false_and, if_false]
  split_ifs <;> rfl

lemma bindingStep_parseSetActiveDst (hg : s.compatibility ≠ .google)
    (hbad : ∀ b request, s.currentBinding = some b → s.currentBindingMsg = some request →
      request.id = msg.id → s.pendingBindings ≠ [] →
      ¬(msg.cls = .response ∧ (s.compatibility = .oc2007 ∨ s.compatibility = .msn)) → bad) :
    BindingStep bad late (bindingView s) (bindingView (parseSetActiveDst env s msg)) := by
  simp only [parseSetActiveDst]
  cases hc : s.currentBinding with
  | none => exact .same
  | some b =>
      cases hm : s.currentBindingMsg with
      | none => exact .same
      | some request =>
          simp only
          split_ifs with hid hcls
          · simp only [msnGoogleLock, hc]
            exact .active b _ hc (processed_privProcessPendingBindings
              (s := { s with channels := [b], currentBinding := none, currentBindingMsg := none })
              hg rfl)
          · exact .inactive fun hp => hbad b request hc hm hid hp hcls
          · exact .same

lemma bindingStep_parseChannelBind (hg : s.compatibility ≠ .google)
    (hbad : ∀ b request, s.currentBinding = some b → s.currentBindingMsg = some request →
      request.id = msg.id → msg.cls = .error → unauthorized request msg →
      (buildChannelBind s (env.transid s.transids) (some msg) b.peer).isNone → bad) :
    BindingStep bad late (bindingView s) (bindingView (parseChannelBind env s msg)) := by
  simp only [parseChannelBind]
  cases hm : s.currentBindingMsg with
  | none => exact .same
  | some request =>
      have hsome : (bindingView s).currentBindingMsg.isSome := by
        show s.currentBindingMsg.isSome
        rw [hm]
        rfl
      by_cases hid : request.id = msg.id
      · simp only [if_pos hid]
        cases hcls : msg.cls with
        | request => exact .same
        | indication => exact .same
        | error =>
            simp only
            split_ifs with hu
            · cases hb : requestedBinding s request with
              | none =>
                  refine .unsent fun hc => ?_
                  have hc' : s.currentBinding.isSome := hc
                  simp only [requestedBinding] at hb
                  cases hcb : s.currentBinding with
                  | none => rw [hcb] at hc'; cases hc'
                  | some b => rw [hcb] at hb; cases hb
              | some b =>
                  cases hp : privSendChannelBind env { s with currentBindingMsg := none } (some msg)
                      b.peer with
                  | mk t r =>
                      simp only [hp]
                      rcases bindingView_privSendChannelBind hp with ⟨-, m, ht⟩ | ⟨-, hn, ht⟩
                      · rw [ht]
                        exact .resent m hsome
                      · rw [ht]
                        refine .unsent fun hc => ?_
                        have hc' : s.currentBinding.isSome := hc
                        simp only [requestedBinding] at hb
                        cases hcb : s.currentBinding with
                        | none => rw [hcb] at hc'; cases hc'
                        | some b' =>
                            rw [hcb] at hb
                            obtain rfl : b' = b := by simpa using hb
                            exact hbad b' request hcb hm hid hcls hu hn
            · exact .refused _ (processed_privProcessPendingBindings
                (s := { s with currentBinding := none, currentBindingMsg := none }) hg rfl)
        | response =>
            simp only [grantBinding]
            cases hc : s.currentBinding with
            | some b =>
                exact .granted b (b.granted s.sources) _ hc rfl
                  (processed_privProcessPendingBindings
                    (s := { s with
                      currentBindingMsg := none
                      sources := s.sources + 1
                      channels := s.channels ++ [b.granted s.sources]
                      currentBinding := none }) hg rfl)
            | none =>
                have hkey := updateFirst_key (fun b => b.peer = request.peer)
                  (fun b => b.granted s.sources) (fun _ => rfl) s.channels
                refine .refreshed _ _ hc hkey
                  (processed_privProcessPendingBindings
                    (s := { s with
                      currentBindingMsg := none
                      sources := s.sources + 1
                      currentBinding := none
                      channels := updateFirst (fun b => b.peer = request.peer)
                        (·.granted s.sources) s.channels }) hg rfl)
      · simp only [if_neg hid]
        exact .same

lemma bindingStep_createPermission (hg : s.compatibility ≠ .google)
    (resp : Option ReceivedMessage) (peer : NiceAddress) :
    BindingStep bad late (bindingView s) (bindingView (createPermission env s resp peer)) := by
  rcases ticked_createPermission hg resp peer with h | h
  · rw [h]
    exact .same
  · exact .ticked _ h

lemma bindingStep_ensurePermission (hg : s.compatibility ≠ .google) (peer : NiceAddress) :
    BindingStep bad late (bindingView s) (bindingView (ensurePermission env s peer)) := by
  simp only [ensurePermission]
  split_ifs
  · exact .same
  · exact bindingStep_createPermission hg none peer

lemma bindingStep_parseCreatePermission (hg : s.compatibility ≠ .google) :
    BindingStep bad late (bindingView s) (bindingView (parseCreatePermission env s msg)) := by
  simp only [parseCreatePermission]
  cases hf : s.pendingPermissions.find? fun request => request.id = msg.id with
  | none => exact .same
  | some request =>
      simp only
      generalize s.pendingPermissions.eraseP (fun request => request.id = msg.id) = rest
      have hg' : (s.withPending rest).compatibility ≠ .google := hg
      split_ifs
      · rw [← bindingView_withPending (s := s) rest]
        exact bindingStep_createPermission hg' _ _
      · rw [bindingView_withPending, bindingView_permitPeer, bindingView_startPermissionTimer]
        exact .same

lemma bindingStep_parseIndData (hg : s.compatibility ≠ .google) (len : ℕ) (buf : Bytes)
    (recvFrom : NiceAddress) :
    BindingStep bad late (bindingView s)
      (bindingView (parseIndData env s msg len buf recvFrom).1) := by
  simp only [parseIndData]
  cases msg.remoteAddress with
  | none => exact .same
  | some sender =>
      cases msg.data with
      | none => exact .same
      | some data =>
          simp only
          split_ifs
          · exact bindingStep_ensurePermission hg _
          · exact .same

lemma bindingStep_parseMessage (hg : s.compatibility ≠ .google) (len : ℕ) (buf : Bytes)
    (recvFrom : NiceAddress)
    (hactive : ∀ b request, s.currentBinding = some b → s.currentBindingMsg = some request →
      request.id = msg.id → msg.method = STUN_OLD_SET_ACTIVE_DST → s.pendingBindings ≠ [] →
      ¬(msg.cls = .response ∧ (s.compatibility = .oc2007 ∨ s.compatibility = .msn)) → bad)
    (hchannel : ∀ b request, s.currentBinding = some b → s.currentBindingMsg = some request →
      request.id = msg.id → msg.method = STUN_CHANNELBIND → msg.cls = .error →
      unauthorized request msg →
      (buildChannelBind s (env.transid s.transids) (some msg) b.peer).isNone → bad) :
    BindingStep bad late (bindingView s)
      (bindingView (parseMessage env s msg len buf recvFrom).1) := by
  simp only [parseMessage]
  split_ifs with hcookie hsend hdst hbind hperm hdata
  · exact .same
  · rw [bindingView_parseSend hg]
    exact .same
  · exact bindingStep_parseSetActiveDst hg fun b request hc hm hid hp hcls =>
      hactive b request hc hm hid hdst hp hcls
  · exact bindingStep_parseChannelBind hg fun b request hc hm hid hcls hu hn =>
      hchannel b request hc hm hid hbind hcls hu hn
  · exact bindingStep_parseCreatePermission hg
  · exact bindingStep_parseIndData hg len buf recvFrom
  · exact .same

lemma bindingStep_transmitData (peer : NiceAddress) (datagram : Datagram) (length ret : ℕ) :
    bindingView (transmitData env s peer datagram length ret).1 = bindingView s := by
  simp only [transmitData]
  split_ifs
  · simp only [bindingView, socketSendWrapped, newBindings_append]
    simp only [newBindings, List.filterMap, List.append_nil]
  · rfl

lemma bindingStep_sendOrEnqueue (hg : s.compatibility ≠ .google) (peer : NiceAddress)
    (datagram : Datagram) (length : ℕ) (reliable : Bool) :
    BindingStep bad late (bindingView s)
      (bindingView (sendOrEnqueue env s peer datagram length reliable).1) := by
  simp only [sendOrEnqueue]
  split_ifs
  · exact bindingStep_ensurePermission hg peer
  · rw [bindingStep_transmitData]
    exact .same

lemma bindingView_buildSend {peer : NiceAddress} {data : Bytes} {length : ℕ}
    (h : buildSend env s peer data = some (length, s')) :
    bindingView s' = bindingView s ∧ s'.compatibility = s.compatibility := by
  simp only [buildSend] at h
  split_ifs at h
  · obtain ⟨mlen, -, hm⟩ := Option.map_eq_some_iff.mp h
    split at hm
    · obtain ⟨-, rfl⟩ := Prod.mk.inj hm
      exact ⟨rfl, rfl⟩
    · obtain ⟨-, rfl⟩ := Prod.mk.inj hm
      exact ⟨rfl, rfl⟩
  all_goals
    obtain ⟨mlen, -, hm⟩ := Option.bind_eq_some_iff.mp h
    obtain ⟨mlen', -, hm⟩ := Option.map_eq_some_iff.mp hm
    split at hm
    · obtain ⟨-, rfl⟩ := Prod.mk.inj hm
      exact ⟨rfl, rfl⟩
    · obtain ⟨-, rfl⟩ := Prod.mk.inj hm
      exact ⟨rfl, rfl⟩

/-- **Data for a peer leave its bindings alone, but for the ticks.** -/
theorem bindingStep_socketSendMessage (hg : s.compatibility ≠ .google) (peer : NiceAddress)
    (data : Bytes) (reliable : Bool) :
    BindingStep bad late (bindingView s)
      (bindingView (socketSendMessage env s peer data reliable).1) := by
  simp only [socketSendMessage]
  cases hf : s.channels.find? (·.peer = peer) with
  | some binding =>
      simp only
      split_ifs
      · exact bindingStep_sendOrEnqueue hg _ _ _ _
      · exact .same
      · rw [bindingStep_transmitData]
        exact .same
  | none =>
      simp only
      cases hb : buildSend env s peer data with
      | none => exact .same
      | some built =>
          obtain ⟨length, t⟩ := built
          obtain ⟨hv, hc⟩ := bindingView_buildSend hb
          cases length with
          | zero =>
              simp only
              rw [bindingStep_transmitData, hv]
              exact .same
          | succ length =>
              simp only
              rw [← hv]
              exact bindingStep_sendOrEnqueue (hc ▸ hg) _ _ _ _

/-- After `priv_process_pending_bindings` a request is in flight only where peers
waited or a binding asked for its renewal. -/
lemma Processed.handed {v v' : BindingView} (h : Processed v v')
    (hm : v.currentBindingMsg = none) (hsome : v'.currentBindingMsg.isSome) :
    v.pendingBindings ≠ [] ∨ ∃ b ∈ v.channels, b.renew := by
  cases h with
  | idle => rw [hm] at hsome; cases hsome
  | renewed _ _ hb => exact .inr hb
  | requested pre peer rest _ hp _ => exact .inl (by rw [hp]; simp)

/-- A retransmission tick. -/
lemma bindingStep_privRetransmissionsTick (hg : s.compatibility ≠ .google)
    (hlate : s.currentBindingMsg.isSome → s.pendingBindings ≠ [] ∨ (∃ b ∈ s.channels, b.renew) →
      late) :
    BindingStep bad late (bindingView s) (bindingView (privRetransmissionsTick env s)) := by
  have ht := @ticked_privRetransmissionsTickUnlocked env s hg
  simp only [privRetransmissionsTick]
  cases hu : privRetransmissionsTickUnlocked env s with
  | mk t ret =>
      rw [hu] at ht
      cases ret with
      | true => exact .ticked _ ht
      | false =>
          refine .stopped _ ht fun hsome => ?_
          rw [privRetransmissionsTickUnlocked_eq] at hu
          cases hm : s.currentBindingMsg with
          | none =>
              simp only [hm] at hu
              obtain ⟨rfl, -⟩ := Prod.mk.inj hu
              have hnone : (bindingView s).currentBindingMsg = none := hm
              rw [hnone] at hsome
              cases hsome
          | some request =>
              cases hr : stunTimerRefresh s.clock request.timer with
              | mk timer r =>
                  simp only [hm, hr] at hu
                  cases r with
                  | success => cases (Prod.mk.inj hu).2
                  | retransmit => cases (Prod.mk.inj hu).2
                  | timeout =>
                      obtain ⟨rfl, -⟩ := Prod.mk.inj hu
                      exact hlate (by rw [hm]; rfl)
                        ((processed_bindingTimedOut hg request).handed rfl hsome)

lemma find_split {α : Type*} {p : α → Bool} {l : List α} {b : α}
    (h : l.find? p = some b) :
    ∃ pre post, l = pre ++ b :: post ∧ l.eraseP p = pre ++ post := by
  obtain ⟨hb, pre, post, rfl, hpre⟩ := List.find?_eq_some_iff_append.mp h
  refine ⟨pre, post, rfl, ?_⟩
  rw [List.eraseP_append_right _ (fun x hx => by simpa using hpre x hx), List.eraseP_cons_of_pos hb]

lemma bindingStep_privBindingTimeout (source : GSource) :
    BindingStep bad late (bindingView s) (bindingView (privBindingTimeout env s source)) := by
  simp only [privBindingTimeout]
  cases hf : s.channels.find? fun b => b.timeoutSource = some source with
  | none => exact .same
  | some b =>
      simp only
      generalize hch : updateFirst (fun b => b.timeoutSource = some source) _ s.channels = channels
      have hkey : channels.map ChannelBinding.key = s.channels.map ChannelBinding.key := by
        rw [← hch]
        exact updateFirst_key _ (·.expiring s.sources) (fun _ => rfl) s.channels
      split_ifs with hm
      · cases hp : privSendChannelBind env
            { s with sources := s.sources + 1, channels := channels } none b.peer with
        | mk t r =>
            simp only [hp]
            rcases bindingView_privSendChannelBind hp with ⟨-, msg, ht⟩ | ⟨-, -, ht⟩
            · have hnone : s.currentBindingMsg = none := by simpa using hm
              rw [ht]
              exact .renewed channels msg hnone hkey
            · rw [ht]
              exact .renewal channels hkey
      · exact .renewal channels hkey

lemma bindingStep_privBindingExpiredTimeout (hg : s.compatibility ≠ .google) (source : GSource) :
    BindingStep bad late (bindingView s)
      (bindingView (privBindingExpiredTimeout env s source)) := by
  simp only [privBindingExpiredTimeout]
  cases hf : s.channels.find? fun b => b.timeoutSource = some source with
  | none => exact .same
  | some b =>
      obtain ⟨pre, post, hl, he⟩ := find_split hf
      simp only [he]
      have hadd : BindingStep bad late (bindingView s)
          (bindingView
            (privAddChannelBinding env { s with channels := pre ++ post } b.peer).1) := by
        cases ha : privAddChannelBinding env { s with channels := pre ++ post } b.peer with
        | mk t r =>
            exact .requestedAgain pre post b _ r hl
              (requested_privAddChannelBinding (s := { s with channels := pre ++ post }) hg ha)
      split
      · next request hm hc =>
          split_ifs
          · exact .expired pre post b hl hc (by
              show s.currentBindingMsg.isSome
              rw [show s.currentBindingMsg = some request from hm]
              rfl)
          · exact hadd
      · exact hadd

end Parts

/-- A datagram from the base socket. -/
lemma bindingStep_parseRecv {late : Prop} (hg : s.compatibility ≠ .google) (len : ℕ) (buf : Bytes)
    (recvFrom : NiceAddress) (msg : ReceivedMessage) (status : StunValidationStatus) :
    BindingStep (Strands env s (.recv len buf recvFrom msg status)) late (bindingView s)
      (bindingView (parseRecv env s len buf recvFrom msg status).1) := by
  simp only [parseRecv]
  split_ifs with hfrom hvalid
  · by_cases hcookie : s.compatibility.hasChannels ∨ msg.magicCookie = some TURN_MAGIC_COOKIE
    · have hacc : Accepted s recvFrom msg status := ⟨hfrom, hvalid, hcookie⟩
      exact bindingStep_parseMessage (s := validated s msg status) hg len (recvBuf s buf) recvFrom
        (fun b request hc hm hid hdst hp hcls =>
          ⟨hacc, b, request, hc, hm, hid, .inl ⟨hdst, hp, hcls⟩⟩)
        (fun b request hc hm hid hbind hcls hu hn =>
          ⟨hacc, b, request, hc, hm, hid, .inr ⟨hbind, hcls, hu, hn⟩⟩)
    · obtain ⟨hch, hco⟩ := not_or.mp hcookie
      simp only [parseMessage]
      rw [if_pos ⟨hch, hco⟩]
      exact .same
  · exact .same
  · exact .same

/-- **What a step of the socket does to its bindings.** -/
theorem step_bindings {l : Label} (hg : s.compatibility ≠ .google) (h : Step env s l s') :
    BindingStep (Strands env s l.event) (HandsOver s l.event) (bindingView s)
      (bindingView s') := by
  obtain ⟨-, h⟩ := h
  have hv : bindingView s = bindingView { s with clock := l.now } := rfl
  obtain rfl : (handle env { s with clock := l.now } l.event).1 = s' := by rw [h]
  rw [hv]
  cases he : l.event with
  | setPeer peer =>
      exact .requested peer _ _ (requested_privAddChannelBinding
        (s := { s with clock := l.now }) hg rfl)
  | sendMessage peer data reliable =>
      exact bindingStep_socketSendMessage (s := { s with clock := l.now }) hg peer data reliable
  | recv len buf recvFrom msg status =>
      exact bindingStep_parseRecv (s := { s with clock := l.now }) hg len buf recvFrom msg status
  | retransmissionsTick =>
      exact bindingStep_privRetransmissionsTick (s := { s with clock := l.now }) hg fun h h' =>
        ⟨h, h'⟩
  | createPermissionTick =>
      exact .ticked _ (ticked_scheduleTick (s := { s with clock := l.now }) hg)
  | bindingTimeout source => exact bindingStep_privBindingTimeout _
  | bindingExpiredTimeout source =>
      exact bindingStep_privBindingExpiredTimeout (s := { s with clock := l.now }) hg _
  | permissionTimeout => exact .same
  | forgetSendRequest source =>
      simp only [handle, privForgetSendRequest]
      split <;> exact .same
  | setMsRealm realm =>
      simp only [handle, setMsRealm]
      split_ifs <;> exact .same
  | setMsConnectionId length =>
      simp only [handle, setMsConnectionId]
      split_ifs <;> exact .same

end LibNice.UdpTurn
