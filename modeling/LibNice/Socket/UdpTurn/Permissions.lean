import LibNice.Socket.UdpTurn.SentIds

/-!
The data of a UDP-TURN socket that wait for a permission.

* `PermissionView`, `permissionView`: the part of the state that the permissions
  are, with the data that the base socket was handed.
* `Passed`, `TickStep`, `Ticks`: what the ticks of CreatePermission requests do
  to it; all that the bindings do to it are such ticks.
* `permissionView_createPermission`: what a CreatePermission request does.
-/

namespace LibNice.UdpTurn

open LibNice.Foundation LibNice.Stun LibNice.Ice

variable {env : Env} {s s' : UdpTurnPriv}

/-! ### The view -/

/-- The data of a datagram for `peer` that the base socket was handed, whether it
took them or not. -/
def Trace.handed (peer : NiceAddress) : Trace → Option Bytes
  | .data p datagram | .lost p datagram => if p = peer then some datagram.data else none
  | .newBinding _ _ => none

/-- The data of a datagram for `peer` that the base socket took. -/
def Trace.taken (peer : NiceAddress) : Trace → Option Bytes
  | .data p datagram => if p = peer then some datagram.data else none
  | _ => none

/-- The permissions of a socket, the data handed to the base socket so far, and what
the ticks and the messages depend on. -/
structure PermissionView extends Permissions where
  handed : NiceAddress → List Bytes
  clock : Timeval
  compatibility : NiceTurnSocketCompatibility
  config : StunAgentConfig

/-- The permissions of a socket. -/
def permissionView (s : UdpTurnPriv) : PermissionView where
  toPermissions := s.toPermissions
  handed peer := s.trace.filterMap (Trace.handed peer)
  clock := s.clock
  compatibility := s.compatibility
  config := s.agent.toStunAgentConfig

/-- The data for `peer` that were handed to the base socket, and those that wait. -/
def PermissionView.outgoing (v : PermissionView) (peer : NiceAddress) : List Bytes :=
  v.handed peer ++ (v.sendDataQueues peer).map (·.datagram.data)

/-- The permission of `peer` is there: its data are handed to the base socket. -/
def PermissionView.permit (v : PermissionView) (peer : NiceAddress) : PermissionView :=
  { v with
    permissions := v.permissions ++ [peer]
    sentPermissions := privRemovePeerFromList v.sentPermissions peer
    sendDataQueues := Function.update v.sendDataQueues peer []
    handed := Function.update v.handed peer (v.outgoing peer) }

lemma permissionView_trace (note : Trace) {peer : NiceAddress} {data : Bytes}
    (hnote : ∀ p, note.handed p = if peer = p then some data else none) :
    permissionView { s with trace := s.trace ++ [note] } =
      { permissionView s with
        handed := Function.update (permissionView s).handed peer
          ((permissionView s).handed peer ++ [data]) } := by
  have hh : ∀ p, (s.trace ++ [note]).filterMap (Trace.handed p) =
      Function.update (permissionView s).handed peer
        ((permissionView s).handed peer ++ [data]) p := by
    intro p
    simp only [List.filterMap_append, List.filterMap_cons, List.filterMap_nil, hnote]
    by_cases hp : peer = p
    · subst hp
      simp only [if_true, Function.update_self]
      rfl
    · simp only [if_neg hp, List.append_nil, Function.update_of_ne (Ne.symm hp)]
      rfl
  simp only [permissionView]
  congr 1
  exact funext hh

lemma permissionView_dequeueLoop (peer : NiceAddress) (queue : List SendData) :
    permissionView (dequeueLoop env peer queue s) =
      { permissionView s with
        handed := Function.update (permissionView s).handed peer
          ((permissionView s).handed peer ++ queue.map (·.datagram.data)) } := by
  induction queue generalizing s with
  | nil =>
      simp only [dequeueLoop, List.map_nil, List.append_nil, Function.update_eq_self]
  | cons data rest ih =>
      simp only [dequeueLoop]
      rw [ih]
      set note : Trace := if env.answer s.sends = 1 then .data peer data.datagram
        else .lost peer data.datagram with hn
      have hnote : ∀ p, note.handed p = if peer = p then some data.datagram.data else none := by
        intro p
        by_cases ha : env.answer s.sends = 1
        · rw [hn, if_pos ha]
          rfl
        · rw [hn, if_neg ha]
          rfl
      have hv := permissionView_trace (s := (socketSendWrapped env s data.length).1) note hnote
      rw [hv]
      simp only [Function.update_self, Function.update_idem, List.map_cons, List.append_assoc,
        List.singleton_append]
      rfl

@[simp] lemma permissionView_permitPeer (peer : NiceAddress) :
    permissionView (permitPeer env s peer) = (permissionView s).permit peer := by
  simp only [permitPeer, socketDequeueAllData]
  have hd := @permissionView_dequeueLoop env { s with
    sentPermissions := privRemovePeerFromList s.sentPermissions peer
    permissions := s.permissions ++ [peer] } peer (s.sendDataQueues peer)
  generalize dequeueLoop env peer (s.sendDataQueues peer) { s with
    sentPermissions := privRemovePeerFromList s.sentPermissions peer
    permissions := s.permissions ++ [peer] } = t at hd
  have ht : permissionView
      { t with sendDataQueues := Function.update t.sendDataQueues peer [] } =
        { permissionView t with
          sendDataQueues := Function.update (permissionView t).sendDataQueues peer [] } := rfl
  rw [ht, hd]
  rfl

/-! ### Ticks -/

/-- What the loop over the CreatePermission requests in flight comes to: some are
kept, the others have timed out, and their peers are permitted. -/
inductive Passed : PermissionView → List TURNMessage → PermissionView → List TURNMessage → Prop
  | nil (v : PermissionView) : Passed v [] v []
  | kept {v v' : PermissionView} {m m' : TURNMessage} {ms ks : List TURNMessage}
      (hpeer : m'.peer = m.peer) (hmethod : m'.method = m.method)
      (hleft : stunTimerRemainder v.clock m.timer > 0 → m' = m) (h : Passed v ms v' ks) :
      Passed v (m :: ms) v' (m' :: ks)
  | permitted {v v' : PermissionView} {m : TURNMessage} {ms ks : List TURNMessage}
      (hover : stunTimerRemainder v.clock m.timer = 0) (h : Passed (v.permit m.peer) ms v' ks) :
      Passed v (m :: ms) v' ks

/-- What a tick of the CreatePermission requests does. -/
def TickStep (v v' : PermissionView) : Prop :=
  ∃ w ks, Passed v v.pendingPermissions w ks ∧
    v' = { w with pendingPermissions := ks }

/-- What some ticks do. -/
abbrev Ticks : PermissionView → PermissionView → Prop := Relation.ReflTransGen TickStep

lemma permissionView_permissionTick (n : ℕ) {msg : TURNMessage} {kept : Option TURNMessage}
    (h : permissionTick env n msg s = (s', kept)) :
    (∃ m, kept = some m ∧ m.peer = msg.peer ∧ m.method = msg.method ∧
        (stunTimerRemainder s.clock msg.timer > 0 → m = msg) ∧
        permissionView s' = permissionView s) ∨
      (kept = none ∧ stunTimerRemainder s.clock msg.timer = 0 ∧
        permissionView s' = (permissionView s).permit msg.peer) := by
  induction n generalizing msg s with
  | zero =>
      obtain ⟨rfl, rfl⟩ := Prod.mk.inj h
      exact .inl ⟨msg, rfl, rfl, rfl, fun _ => rfl, rfl⟩
  | succ n ih =>
      simp only [permissionTick] at h
      by_cases hr : stunTimerRemainder s.clock msg.timer > 0
      · rw [if_pos hr] at h
        obtain ⟨rfl, rfl⟩ := Prod.mk.inj h
        exact .inl ⟨msg, rfl, rfl, rfl, fun _ => rfl, rfl⟩
      rw [if_neg hr] at h
      have hzero : stunTimerRemainder s.clock msg.timer = 0 := by omega
      cases ht : stunTimerRefresh s.clock msg.timer with
      | mk timer ret =>
          rw [ht] at h
          cases ret with
          | success =>
              obtain ⟨rfl, rfl⟩ := Prod.mk.inj h
              exact .inl ⟨msg, rfl, rfl, rfl, fun _ => rfl, rfl⟩
          | retransmit =>
              have h' : permissionTick env n { msg with timer }
                  (socketSendWrapped env s msg.length).1 = (s', kept) := h
              have hover : ¬stunTimerRemainder s.clock msg.timer > 0 := hr
              rcases ih h' with ⟨m, rfl, hp, hm, -, hv⟩ | ⟨rfl, -, hv⟩
              · exact .inl ⟨m, rfl, hp, hm, fun hpos => absurd hpos hover, hv⟩
              · exact .inr ⟨rfl, hzero, hv⟩
          | timeout =>
              obtain ⟨rfl, rfl⟩ := Prod.mk.inj h
              refine .inr ⟨rfl, hzero, ?_⟩
              simp only [permissionTimedOut, permissionView_permitPeer]
              have hconfig : (stunAgentForgetTransaction s.agent msg.id).1.toStunAgentConfig =
                  s.agent.toStunAgentConfig := by
                simp only [stunAgentForgetTransaction]
                cases s.agent.sentIds.findFinIdx? fun s => s.valid && s.id = msg.id <;> rfl
              simp only [permissionView, hconfig]

lemma passed_permissionLoop {msgs kept : List TURNMessage}
    (h : permissionLoop env msgs s = (s', kept)) :
    Passed (permissionView s) msgs (permissionView s') kept := by
  induction msgs generalizing s kept with
  | nil =>
      obtain ⟨rfl, rfl⟩ := Prod.mk.inj h
      exact .nil _
  | cons msg rest ih =>
      simp only [permissionLoop] at h
      cases ht : permissionTick env (msg.timer.left + 1) msg s with
      | mk t k =>
          rw [ht] at h
          cases hl : permissionLoop env rest t with
          | mk u ks =>
              rw [hl] at h
              obtain ⟨rfl, rfl⟩ := Prod.mk.inj h
              have hrest := ih hl
              rcases permissionView_permissionTick _ ht with
                ⟨m, rfl, hp, hm, hleft, hv⟩ | ⟨rfl, hover, hv⟩
              · rw [hv] at hrest
                exact .kept hp hm hleft hrest
              · rw [hv] at hrest
                exact .permitted hover hrest

/-- **A tick of the socket is a tick.** -/
theorem tickStep_schedulePermissions :
    TickStep (permissionView s) (permissionView (schedulePermissions env s)) := by
  simp only [schedulePermissions]
  cases hl : permissionLoop env s.pendingPermissions s with
  | mk t kept => exact ⟨permissionView t, kept, passed_permissionLoop hl, rfl⟩

/-! ### The bindings -/

lemma ticks_scheduleTickWith {tick : UdpTurnPriv → UdpTurnPriv}
    (htick : Ticks (permissionView s)
      (permissionView (tick { s with tickSourceChannelBind := false }))) :
    Ticks (permissionView s) (permissionView (scheduleTickWith env tick s)) := by
  simp only [scheduleTickWith]
  refine Relation.ReflTransGen.tail ?_ tickStep_schedulePermissions
  cases s.currentBindingMsg with
  | none => exact .refl
  | some msg =>
      simp only
      split_ifs
      · exact .refl
      · exact htick

lemma opened_config {agent agent' : StunAgent} {id : StunTransactionId}
    (h : Opened agent agent' id) : agent'.toStunAgentConfig = agent.toStunAgentConfig := by
  obtain ⟨idx, method, key, -, rfl⟩ := h
  rfl

lemma ticks_privSendTurnMessage (msg : TURNMessage) :
    Ticks (permissionView s) (permissionView (privSendTurnMessage env s msg)) := by
  obtain ⟨k, hk⟩ := transmit_eq env { s with currentBindingMsg := none } msg.length
  simp only [privSendTurnMessage, hk]
  exact ticks_scheduleTickWith (s := { s with
    currentBindingMsg := some { msg with timer := startTimer _ }, sends := k }) .refl

lemma ticks_privSendChannelBind (resp : Option ReceivedMessage) (peer : NiceAddress) :
    Ticks (permissionView s) (permissionView (privSendChannelBind env s resp peer).1) := by
  simp only [privSendChannelBind]
  cases hb : buildChannelBind s (env.transid s.transids) resp peer with
  | none => exact .refl
  | some built =>
      obtain ⟨length, agent⟩ := built
      have hv : permissionView { s with agent, transids := s.transids + 1 } =
          permissionView s := by
        simp only [permissionView, opened_config (finishRequest_opened hb)]
      rw [← hv]
      exact ticks_privSendTurnMessage _

/-- **Requesting a binding does no more than ticks to the permissions.** -/
theorem ticks_privAddChannelBinding (peer : NiceAddress) :
    Ticks (permissionView s) (permissionView (privAddChannelBinding env s peer).1) := by
  have hchannel : Ticks (permissionView s) (permissionView (addChannel env s peer).1) := by
    simp only [addChannel]
    split_ifs
    · have ht := @ticks_privSendChannelBind env s none peer
      cases hp : privSendChannelBind env s none peer with
      | mk t r =>
          rw [hp] at ht
          cases r with
          | true =>
              have hv : permissionView { t with
                    currentBinding := some (newChannelBinding peer (freeChannel s.channels))
                    trace := t.trace ++ [.newBinding s.channels peer] } = permissionView t := by
                simp only [permissionView, List.filterMap_append, List.filterMap_cons,
                  List.filterMap_nil, Trace.handed, List.append_nil]
              exact hv ▸ ht
          | false => exact ht
    · exact .refl
  have hactive : Ticks (permissionView s) (permissionView (addActiveDst env s peer).1) := by
    simp only [addActiveDst]
    cases hb : buildSetActiveDst s (env.transid s.transids) peer with
    | none => exact .refl
    | some built =>
        obtain ⟨length, agent⟩ := built
        have hv : permissionView { s with
              agent, transids := s.transids + 1
              currentBinding := some (newChannelBinding peer 0) } = permissionView s := by
          simp only [permissionView, opened_config (buildSetActiveDst_opened hb)]
        rw [← hv]
        exact ticks_privSendTurnMessage _
  simp only [privAddChannelBinding]
  split_ifs
  · exact .refl
  · split
    · exact hchannel
    · exact hchannel
    · exact hactive
    · exact hactive
    · exact .refl

lemma ticks_processPendingLoop (n : ℕ) :
    Ticks (permissionView s) (permissionView (processPendingLoop env n s)) := by
  induction n generalizing s with
  | zero => exact .refl
  | succ n ih =>
      simp only [processPendingLoop]
      cases s.pendingBindings with
      | nil => exact .refl
      | cons peer rest =>
          have ht := @ticks_privAddChannelBinding env s peer
          simp only
          generalize privAddChannelBinding env s peer = attempt at ht
          obtain ⟨t, r⟩ := attempt
          cases r with
          | true => exact ht
          | false => exact ht.trans (@ih { t with pendingBindings := t.pendingBindings.tail })

/-- **`priv_process_pending_bindings` does no more than ticks to the permissions.** -/
theorem ticks_privProcessPendingBindings :
    Ticks (permissionView s) (permissionView (privProcessPendingBindings env s)) := by
  have ht := @ticks_processPendingLoop env s s.pendingBindings.length
  simp only [privProcessPendingBindings]
  generalize processPendingLoop env s.pendingBindings.length s = t at ht
  split_ifs
  · refine ht.trans ?_
    simp only [renewBinding]
    cases t.channels.find? (·.renew) with
    | none => exact .refl
    | some b => exact ticks_privSendChannelBind none b.peer
  · exact ht

lemma forget_config {agent : StunAgent} {id : StunTransactionId} :
    (stunAgentForgetTransaction agent id).1.toStunAgentConfig = agent.toStunAgentConfig := by
  simp only [stunAgentForgetTransaction]
  cases agent.sentIds.findFinIdx? fun s => s.valid && s.id = id <;> rfl

/-- **`priv_retransmissions_tick_unlocked` does no more than ticks to the
permissions.** -/
theorem ticks_privRetransmissionsTickUnlocked :
    Ticks (permissionView s) (permissionView (privRetransmissionsTickUnlocked env s).1) := by
  -- the induction is on the number of retransmissions that are left
  induction hn : retransmissionsLeft s using Nat.strong_induction_on generalizing s with
  | _ n ih =>
      rw [privRetransmissionsTickUnlocked_eq]
      cases hm : s.currentBindingMsg with
      | none => exact .refl
      | some msg =>
          cases hr : stunTimerRefresh s.clock msg.timer with
          | mk timer ret =>
              simp only [hr]
              rcases stunTimerRefresh_cases hr with
                ⟨hrem, rfl, -⟩ | ⟨-, -, rfl, -⟩ | ⟨-, rfl, hleft⟩
              · simp only [privScheduleTick]
                rw [scheduleTickWith_left hm (by omega)]
                exact .single (@tickStep_schedulePermissions env
                  { s with tickSourceChannelBind := true })
              · have hv : permissionView { s with
                      agent := (stunAgentForgetTransaction s.agent msg.id).1
                      currentBinding := none
                      currentBindingMsg := none } = permissionView s := by
                  simp only [permissionView, forget_config]
                simp only [bindingTimedOut]
                rw [← hv]
                exact ticks_privProcessPendingBindings
              · simp only [privScheduleTick]
                refine @ticks_scheduleTickWith env
                  { s with
                    currentBindingMsg := some { msg with timer }
                    sends := s.sends + 1 } _ ?_
                refine @ih (retransmissionsLeft
                  { s with currentBindingMsg := some { msg with timer } })
                  ?_ { s with
                    currentBindingMsg := some { msg with timer }
                    sends := s.sends + 1
                    tickSourceChannelBind := false } rfl
                simp only [retransmissionsLeft, hm, Option.map_some, Option.getD_some] at hn ⊢
                omega

/-- **`priv_schedule_tick`.** -/
theorem ticks_privScheduleTick :
    Ticks (permissionView s) (permissionView (privScheduleTick env s)) :=
  ticks_scheduleTickWith
    (@ticks_privRetransmissionsTickUnlocked env { s with tickSourceChannelBind := false })

/-! ### The CreatePermission requests -/

/-- A peer for which a permission is asked for. -/
def PermissionView.ask (v : PermissionView) (peer : NiceAddress) : PermissionView :=
  if privIsPeerInList v.sentPermissions peer then v
  else { v with sentPermissions := v.sentPermissions ++ [peer] }

/-- The permissions with other CreatePermission requests in flight. -/
def PermissionView.withPending (v : PermissionView) (msgs : List TURNMessage) : PermissionView :=
  { v with pendingPermissions := msgs }

/-- A CreatePermission request can be built. -/
def CanRequest (s : UdpTurnPriv) (resp : Option ReceivedMessage) (peer : NiceAddress) : Prop :=
  ∃ id, (stunUsageTurnCreatePermission s id resp peer).isSome

/-- Whether a request can be built does not depend on its id. -/
lemma finishRequest_isSome {method : StunMethod} {id id' : StunTransactionId} {lengths : List ℕ}
    {named : Bool} :
    (finishRequest s method id lengths named).isSome =
      (finishRequest s method id' lengths named).isSome := by
  simp only [finishRequest]
  cases builtLength s.agent.toStunAgentConfig STUN_MAX_MESSAGE_SIZE lengths with
  | none => rfl
  | some mlen =>
      simp only [Option.bind_some, finishMessage]
      cases freeSentId s.agent .request with
      | none => rfl
      | some idx => simp only [Option.isSome_map]

/-- The CreatePermission request for `peer` in `msg`. -/
structure IsRequest (v : PermissionView) (peer : NiceAddress) (msg : TURNMessage) : Prop where
  peer : msg.peer = unscoped peer
  method : msg.method = STUN_CREATEPERMISSION
  left : stunTimerRemainder v.clock msg.timer > 0

lemma permissionView_addSentPermission (peer : NiceAddress) :
    permissionView (addSentPermission s peer) = (permissionView s).ask peer := by
  have hl : (permissionView s).sentPermissions = s.sentPermissions := rfl
  simp only [addSentPermission, PermissionView.ask, hl]
  split_ifs <;> rfl

/-- **A CreatePermission request** is in flight, or it cannot be built. -/
theorem permissionView_createPermission (resp : Option ReceivedMessage) (peer : NiceAddress) :
    (∃ msg, IsRequest (permissionView s) peer msg ∧
        Ticks (((permissionView s).ask peer).withPending (s.pendingPermissions ++ [msg]))
          (permissionView (createPermission env s resp peer))) ∨
      (¬CanRequest s resp peer ∧
        permissionView (createPermission env s resp peer) = (permissionView s).ask peer) := by
  simp only [createPermission, privSendCreatePermission]
  have hv := @permissionView_addSentPermission s peer
  have hcan : ∀ id, stunUsageTurnCreatePermission (addSentPermission s peer) id resp peer =
      stunUsageTurnCreatePermission s id resp peer := by
    intro id
    simp only [addSentPermission]
    split_ifs <;> rfl
  have hpending : (addSentPermission s peer).pendingPermissions = s.pendingPermissions := by
    simp only [addSentPermission]
    split_ifs <;> rfl
  have hclock : (addSentPermission s peer).clock = s.clock := by
    simp only [addSentPermission]
    split_ifs <;> rfl
  generalize addSentPermission s peer = t at hv hcan hpending hclock
  simp only [hcan]
  cases hb : stunUsageTurnCreatePermission s (env.transid t.transids) resp peer with
  | none =>
      refine .inr ⟨?_, hv⟩
      rintro ⟨id, hid⟩
      simp only [stunUsageTurnCreatePermission] at hb hid
      rw [@finishRequest_isSome s _ id (env.transid t.transids), hb] at hid
      cases hid
  | some built =>
      obtain ⟨length, agent⟩ := built
      obtain ⟨k, hk⟩ := transmit_eq env { t with agent, transids := t.transids + 1 } length
      simp only [hk]
      have ha : agent.toStunAgentConfig = t.agent.toStunAgentConfig := by
        have he : (permissionView t).config = (permissionView s).config := by
          rw [hv]
          simp only [PermissionView.ask]
          split_ifs <;> rfl
        have hs : s.agent.toStunAgentConfig = t.agent.toStunAgentConfig := he.symm
        rw [← hs]
        exact opened_config (finishRequest_opened hb)
      refine .inl ⟨{ method := STUN_CREATEPERMISSION, id := env.transid t.transids
                     peer := unscoped peer, realm := resp.bind (·.realm), length
                     timer := startTimer t }, ⟨rfl, rfl, ?_⟩, ?_⟩
      · have hleft := startTimer_left t
        rw [hclock] at hleft
        exact hleft
      · have hw : ∀ msgs, ((permissionView s).ask peer).withPending msgs =
            permissionView (UdpTurnPriv.withPending
              { t with agent, transids := t.transids + 1, sends := k } msgs) := by
          intro msgs
          rw [← hv]
          simp only [permissionView, UdpTurnPriv.withPending, PermissionView.withPending, ha]
        rw [hw, ← hpending]
        exact ticks_privScheduleTick

end LibNice.UdpTurn
