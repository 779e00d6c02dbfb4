import LibNice.Socket.UdpTurn.BindingRuns
import LibNice.Stun.Transactions

/-!
The transaction table of a UDP-TURN socket.

* `TransactionView`, `transactionView`: the part of the state that the
  transactions are.
* `Tracked`: the socket knows a request for each transaction of the table.
* `Overwrites`, `Strays`: the events that let the socket lose one.
* `step_tracked`: **a step keeps track of the transactions**, unless it is one of
  these.
-/

namespace LibNice.UdpTurn

open LibNice.Foundation LibNice.Stun LibNice.Ice

variable {env : Env} {s s' : UdpTurnPriv}

/-! ### The view -/

/-- The transactions of a socket: the table, the requests that it knows, and how
many transaction ids it has made up. -/
structure TransactionView where
  agent : StunAgent
  message : Option TURNMessage
  pending : List TURNMessage
  sendRequests : List SendRequest
  transids : ℕ

/-- The transactions of a socket. -/
def transactionView (s : UdpTurnPriv) : TransactionView where
  agent := s.agent
  message := s.currentBindingMsg
  pending := s.pendingPermissions
  sendRequests := s.sendRequests
  transids := s.transids

/-- The ids of the requests that a socket knows. -/
def TransactionView.ids (v : TransactionView) : Set StunTransactionId :=
  {id | (∃ m, v.message = some m ∧ m.id = id) ∨ (∃ m ∈ v.pending, m.id = id) ∨
    ∃ r ∈ v.sendRequests, r.id = id}

/-- A transaction of the table has the given id. -/
def Outstanding (agent : StunAgent) (id : StunTransactionId) : Prop :=
  ∃ idx, (agent.sentIds.get idx).valid = true ∧ (agent.sentIds.get idx).id = id

lemma outstanding_iff {agent : StunAgent} {id : StunTransactionId} :
    Outstanding agent id ↔ ∃ p ∈ outstandingIds agent, p.1 = id := by
  constructor
  · rintro ⟨idx, hv, hid⟩
    exact ⟨(id, _), ⟨idx, hv, hid, rfl⟩, rfl⟩
  · rintro ⟨p, ⟨idx, hv, hid, -⟩, rfl⟩
    exact ⟨idx, hv, hid⟩

/-- The first `k` transaction ids are distinct. -/
def DistinctIds (env : Env) (k : ℕ) : Prop := ∀ n < k, ∀ m < n, env.transid m ≠ env.transid n

lemma DistinctIds.anti {j k : ℕ} (h : DistinctIds env k) (hjk : j ≤ k) : DistinctIds env j :=
  fun n hn m hm => h n (by omega) m hm

/-- The socket knows a request for each transaction of the table, and its ids are
ones that it has made up. -/
structure Known (env : Env) (v : TransactionView) : Prop where
  distinct : SlotsDistinct v.agent
  known : ∀ id, Outstanding v.agent id → id ∈ v.ids
  made : ∀ id, Outstanding v.agent id → ∃ n < v.transids, env.transid n = id

/-- The socket keeps track of its transactions, as long as their ids are
distinct. -/
def Tracked (env : Env) (v : TransactionView) : Prop := DistinctIds env v.transids → Known env v

/-! ### The table -/

section Table

variable {agent agent' : StunAgent} {id : StunTransactionId}

/-- A transaction that is put into a free slot. -/
lemma outstanding_saveId {idx : Fin STUN_AGENT_MAX_SAVED_IDS} {method : StunMethod}
    {key : Option Bytes} (hfree : (agent.sentIds.get idx).valid = false)
    {id' : StunTransactionId} :
    Outstanding (saveId agent idx method id key) id' ↔ id' = id ∨ Outstanding agent id' := by
  have hset : outstandingIds (saveId agent idx method id key) =
      insert (id, method) (outstandingIds agent) := outstandingIds_set hfree rfl
  simp only [outstanding_iff, hset, Set.mem_insert_iff]
  constructor
  · rintro ⟨p, rfl | hp, rfl⟩
    · exact .inl rfl
    · exact .inr ⟨p, hp, rfl⟩
  · rintro (rfl | ⟨p, hp, rfl⟩)
    · exact ⟨_, .inl rfl, rfl⟩
    · exact ⟨p, .inr hp, rfl⟩

lemma distinct_saveId {idx : Fin STUN_AGENT_MAX_SAVED_IDS} {method : StunMethod}
    {key : Option Bytes} (h : SlotsDistinct agent) (hnew : ¬Outstanding agent id) :
    SlotsDistinct (saveId agent idx method id key) :=
  h.set fun p hp he => hnew (outstanding_iff.mpr ⟨p, hp, he⟩)

/-- A slot in use that is released. -/
lemma outstanding_release {idx : Fin STUN_AGENT_MAX_SAVED_IDS} (h : SlotsDistinct agent)
    (hv : (agent.sentIds.get idx).valid = true) {id' : StunTransactionId} :
    Outstanding (agent.release (.found idx)) id' ↔
      Outstanding agent id' ∧ id' ≠ (agent.sentIds.get idx).id := by
  simp only [outstanding_iff, outstandingIds_release h hv]
  constructor
  · rintro ⟨p, ⟨hp, hne⟩, rfl⟩
    exact ⟨⟨p, hp, rfl⟩, hne⟩
  · rintro ⟨⟨p, hp, rfl⟩, hne⟩
    exact ⟨p, ⟨hp, hne⟩, rfl⟩

/-- `stun_agent_forget_transaction`. -/
lemma forget_outstanding (h : SlotsDistinct agent) {id' : StunTransactionId} :
    Outstanding (stunAgentForgetTransaction agent id).1 id' ↔ Outstanding agent id' ∧ id' ≠ id := by
  simp only [stunAgentForgetTransaction]
  cases hf : agent.sentIds.findFinIdx? fun s => s.valid && s.id = id with
  | none =>
      refine ⟨fun ho => ⟨ho, ?_⟩, fun ho => ho.1⟩
      rintro rfl
      obtain ⟨idx, hv, hid⟩ := ho
      have hn := Vector.findFinIdx?_eq_none_iff.mp hf
      have hidx := hn (agent.sentIds.get idx) (Vector.getElem_mem idx.isLt)
      simp [hv, hid] at hidx
  | some idx =>
      have hp := findFinIdx_some hf
      simp only [Bool.and_eq_true, decide_eq_true_eq] at hp
      rw [outstanding_release h hp.1, hp.2]

lemma forget_distinct (h : SlotsDistinct agent) :
    SlotsDistinct (stunAgentForgetTransaction agent id).1 := by
  simp only [stunAgentForgetTransaction]
  cases agent.sentIds.findFinIdx? fun s => s.valid && s.id = id with
  | none => exact h
  | some idx => exact h.release

end Table

/-! ### What keeps track -/

variable {v v' : TransactionView}

/-- Transactions may be closed, and what is not one of the table be forgotten. -/
lemma Tracked.mono (h : Tracked env v) (ht : v.transids ≤ v'.transids)
    (hv : DistinctIds env v.transids → SlotsDistinct v.agent → SlotsDistinct v'.agent ∧
      ∀ id, Outstanding v'.agent id → Outstanding v.agent id ∧ (id ∈ v.ids → id ∈ v'.ids)) :
    Tracked env v' := by
  intro hdist
  have hk := h (hdist.anti ht)
  obtain ⟨hd, ho⟩ := hv (hdist.anti ht) hk.distinct
  refine ⟨hd, fun id hid => (ho id hid).2 (hk.known id (ho id hid).1), fun id hid => ?_⟩
  obtain ⟨n, hn, he⟩ := hk.made id (ho id hid).1
  exact ⟨n, by omega, he⟩

/-- The next id is not in the table. -/
lemma Known.fresh (h : Known env v) (hdist : DistinctIds env (v.transids + 1)) :
    ¬Outstanding v.agent (env.transid v.transids) := by
  intro ho
  obtain ⟨n, hn, he⟩ := h.made _ ho
  exact hdist _ (Nat.lt_succ_self _) n hn he

/-- The agent after a request was built. -/
def Opened (agent agent' : StunAgent) (id : StunTransactionId) : Prop :=
  ∃ idx method key, (agent.sentIds.get idx).valid = false ∧ agent' = saveId agent idx method id key

/-- A request that is built is tracked where the socket knows it. -/
lemma Tracked.opened (h : Tracked env v)
    (ha : Opened v.agent v'.agent (env.transid v.transids)) (ht : v'.transids = v.transids + 1)
    (hid : env.transid v.transids ∈ v'.ids)
    (hids : DistinctIds env v.transids →
      ∀ id, Outstanding v.agent id → id ∈ v.ids → id ∈ v'.ids) : Tracked env v' := by
  intro hdist
  rw [ht] at hdist
  have hk := h (hdist.anti (Nat.le_succ _))
  obtain ⟨idx, method, key, hfree, ha⟩ := ha
  refine ⟨ha ▸ distinct_saveId hk.distinct (hk.fresh hdist), fun id hv => ?_, fun id hv => ?_⟩
  · rw [ha, outstanding_saveId hfree] at hv
    rcases hv with rfl | hv
    · exact hid
    · exact hids (hdist.anti (Nat.le_succ _)) id hv (hk.known id hv)
  · rw [ha, outstanding_saveId hfree] at hv
    rcases hv with rfl | hv
    · exact ⟨_, by omega, rfl⟩
    · obtain ⟨n, hn, he⟩ := hk.made id hv
      exact ⟨n, by omega, he⟩

lemma finishMessage_opened {agent agent' : StunAgent} {method : StunMethod}
    {id : StunTransactionId} {key : Option Bytes} {mlen len : ℕ} {named : Bool}
    (h : finishMessage agent .request method id key mlen named = some (len, agent')) :
    Opened agent agent' id := by
  simp only [finishMessage] at h
  cases hf : freeSentId agent .request with
  | none => simp [hf] at h
  | some idx =>
      simp only [hf, if_true] at h
      obtain ⟨n, -, hn⟩ := Option.map_eq_some_iff.mp h
      obtain ⟨-, rfl⟩ := Prod.mk.inj hn
      have hp := findFinIdx_some (show agent.sentIds.findFinIdx? _ = some idx from hf)
      exact ⟨idx, method, key, by simpa using hp, rfl⟩

lemma finishRequest_opened {method : StunMethod} {id : StunTransactionId} {lengths : List ℕ}
    {named : Bool} {len : ℕ} {agent' : StunAgent}
    (h : finishRequest s method id lengths named = some (len, agent')) :
    Opened s.agent agent' id := by
  obtain ⟨mlen, -, hm⟩ := Option.bind_eq_some_iff.mp h
  exact finishMessage_opened hm

lemma buildSetActiveDst_opened {id : StunTransactionId} {peer : NiceAddress} {len : ℕ}
    {agent' : StunAgent} (h : buildSetActiveDst s id peer = some (len, agent')) :
    Opened s.agent agent' id := by
  obtain ⟨mlen, -, hm⟩ := Option.bind_eq_some_iff.mp h
  obtain ⟨mlen', -, hm⟩ := Option.bind_eq_some_iff.mp hm
  exact finishMessage_opened hm

/-! ### The CreatePermission requests -/

/-- The transactions after some of them were forgotten. -/
structure Forgot (v v' : TransactionView) : Prop where
  message : v'.message = v.message
  sendRequests : v'.sendRequests = v.sendRequests
  transids : v'.transids = v.transids
  distinct : SlotsDistinct v.agent → SlotsDistinct v'.agent
  outstanding : SlotsDistinct v.agent → ∀ id, Outstanding v'.agent id → Outstanding v.agent id

lemma Forgot.refl (v : TransactionView) : Forgot v v :=
  ⟨rfl, rfl, rfl, id, fun _ _ => id⟩

lemma Forgot.trans {v'' : TransactionView} (h : Forgot v v') (h' : Forgot v' v'') :
    Forgot v v'' where
  message := h'.message.trans h.message
  sendRequests := h'.sendRequests.trans h.sendRequests
  transids := h'.transids.trans h.transids
  distinct hd := h'.distinct (h.distinct hd)
  outstanding hd id ho := h.outstanding hd id (h'.outstanding (h.distinct hd) id ho)

@[simp] lemma transactionView_dequeueLoop (peer : NiceAddress) (queue : List SendData) :
    transactionView (dequeueLoop env peer queue s) = transactionView s := by
  induction queue generalizing s with
  | nil => rfl
  | cons data rest ih =>
      simp only [dequeueLoop]
      rw [ih]
      rfl

@[simp] lemma transactionView_permitPeer (peer : NiceAddress) :
    transactionView (permitPeer env s peer) = transactionView s :=
  transactionView_dequeueLoop peer _

lemma forgot_permissionTick (n : ℕ) {msg : TURNMessage} {kept : Option TURNMessage}
    (h : permissionTick env n msg s = (s', kept)) :
    Forgot (transactionView s) (transactionView s') ∧ (∀ m, kept = some m → m.id = msg.id) ∧
      (kept = none → SlotsDistinct s.agent → ¬Outstanding s'.agent msg.id) := by
  induction n generalizing msg s with
  | zero =>
      obtain ⟨rfl, rfl⟩ := Prod.mk.inj h
      exact ⟨.refl _, fun m hm => (Option.some.inj hm) ▸ rfl, by simp⟩
  | succ n ih =>
      simp only [permissionTick] at h
      split_ifs at h
      · obtain ⟨rfl, rfl⟩ := Prod.mk.inj h
        exact ⟨.refl _, fun m hm => (Option.some.inj hm) ▸ rfl, by simp⟩
      · cases hr : stunTimerRefresh s.clock msg.timer with
        | mk timer ret =>
            rw [hr] at h
            cases ret with
            | success =>
                obtain ⟨rfl, rfl⟩ := Prod.mk.inj h
                exact ⟨.refl _, fun m hm => (Option.some.inj hm) ▸ rfl, by simp⟩
            | retransmit =>
                have h' : permissionTick env n { msg with timer }
                    (socketSendWrapped env s msg.length).1 = (s', kept) := h
                have hk := ih h'
                exact hk
            | timeout =>
                obtain ⟨rfl, rfl⟩ := Prod.mk.inj h
                have hv : transactionView (permissionTimedOut env s msg) =
                    { transactionView s with
                      agent := (stunAgentForgetTransaction s.agent msg.id).1 } :=
                  transactionView_permitPeer msg.peer
                have ha : (permissionTimedOut env s msg).agent =
                    (stunAgentForgetTransaction s.agent msg.id).1 := congrArg (·.agent) hv
                refine ⟨?_, by simp, fun _ hd ho => ?_⟩
                · rw [hv]
                  exact ⟨rfl, rfl, rfl, forget_distinct, fun hd id ho =>
                    ((forget_outstanding hd).mp ho).1⟩
                · rw [ha] at ho
                  exact ((forget_outstanding hd).mp ho).2 rfl

lemma forgot_permissionLoop {msgs kept : List TURNMessage}
    (h : permissionLoop env msgs s = (s', kept)) :
    Forgot (transactionView s) (transactionView s') ∧ (SlotsDistinct s.agent →
      ∀ m ∈ msgs, Outstanding s'.agent m.id → ∃ m' ∈ kept, m'.id = m.id) := by
  induction msgs generalizing s kept with
  | nil =>
      obtain ⟨rfl, rfl⟩ := Prod.mk.inj h
      exact ⟨.refl _, by simp⟩
  | cons msg rest ih =>
      simp only [permissionLoop] at h
      cases ht : permissionTick env (msg.timer.left + 1) msg s with
      | mk t k =>
          rw [ht] at h
          cases hl : permissionLoop env rest t with
          | mk u ks =>
              rw [hl] at h
              obtain ⟨rfl, rfl⟩ := Prod.mk.inj h
              obtain ⟨hf, hsome, hnone⟩ := forgot_permissionTick _ ht
              obtain ⟨hf', hrest⟩ := ih hl
              refine ⟨hf.trans hf', fun hd m hm ho => ?_⟩
              have hd' : SlotsDistinct t.agent := hf.distinct hd
              rcases List.mem_cons.mp hm with rfl | hm
              · cases k with
                | none => exact absurd (hf'.outstanding hd' _ ho) (hnone rfl hd)
                | some m' => exact ⟨m', by simp, hsome m' rfl⟩
              · obtain ⟨m', hm', he⟩ := hrest hd' m hm ho
                exact ⟨m', List.mem_append_right _ hm', he⟩

/-- **Ticks of CreatePermission requests keep track of the transactions.** -/
theorem tracked_schedulePermissions (h : Tracked env (transactionView s)) :
    Tracked env (transactionView (schedulePermissions env s)) := by
  simp only [schedulePermissions]
  cases hl : permissionLoop env s.pendingPermissions s with
  | mk t kept =>
      obtain ⟨hf, hkept⟩ := forgot_permissionLoop hl
      refine h.mono (le_of_eq hf.transids.symm) fun _ hd => ⟨hf.distinct hd, fun id ho => ?_⟩
      refine ⟨hf.outstanding hd id ho, ?_⟩
      rintro (⟨m, hm, he⟩ | ⟨m, hm, he⟩ | ⟨r, hr, he⟩)
      · exact .inl ⟨m, hf.message.trans hm, he⟩
      · obtain ⟨m', hm', he'⟩ := hkept hd m hm (he ▸ ho)
        exact .inr (.inl ⟨m', hm', he'.trans he⟩)
      · exact .inr (.inr ⟨r, (show t.sendRequests = s.sendRequests from hf.sendRequests) ▸ hr, he⟩)

/-! ### The binding requests -/

/-- The transaction of the binding request in flight is not in the table. -/
def Idle (env : Env) (s : UdpTurnPriv) : Prop :=
  DistinctIds env s.transids → ∀ m, s.currentBindingMsg = some m → ¬Outstanding s.agent m.id

/-- With no binding request in flight there is nothing to track. -/
lemma Idle.of_none (h : s.currentBindingMsg = none) : Idle env s := by
  intro _ m hm
  rw [h] at hm
  cases hm

/-- The part of the ids that are not those of the binding request. -/
lemma ids_of_idle (h : Idle env s) (hdist : DistinctIds env s.transids)
    {id : StunTransactionId} (ho : Outstanding s.agent id)
    (hid : id ∈ (transactionView s).ids) :
    (∃ m ∈ s.pendingPermissions, m.id = id) ∨ ∃ r ∈ s.sendRequests, r.id = id := by
  rcases hid with ⟨m, hm, rfl⟩ | hid
  · exact absurd ho (h hdist m hm)
  · exact hid

lemma tracked_scheduleTickWith {tick : UdpTurnPriv → UdpTurnPriv}
    (h : Tracked env (transactionView s))
    (htick : ∀ t, transactionView t = transactionView s → t.compatibility = s.compatibility →
      Tracked env (transactionView (tick t))) :
    Tracked env (transactionView (scheduleTickWith env tick s)) := by
  simp only [scheduleTickWith]
  apply tracked_schedulePermissions
  cases s.currentBindingMsg with
  | none => exact h
  | some msg =>
      simp only
      split_ifs
      · exact h
      · exact htick _ rfl rfl

/-- A binding request that takes the place of one that is not in the table. -/
lemma tracked_privSendTurnMessage (h : Tracked env (transactionView s)) (hidle : Idle env s)
    {agent : StunAgent} {msg : TURNMessage}
    (ha : Opened s.agent agent (env.transid s.transids)) (hid : msg.id = env.transid s.transids)
    (binding : Option ChannelBinding) :
    Tracked env (transactionView (privSendTurnMessage env
      { s with agent, transids := s.transids + 1, currentBinding := binding } msg)) := by
  obtain ⟨k, hk⟩ := transmit_eq env
    { s with agent, transids := s.transids + 1, currentBinding := binding
             currentBindingMsg := none } msg.length
  simp only [privSendTurnMessage, hk]
  rw [scheduleTickWith_left rfl (startTimer_left _)]
  apply tracked_schedulePermissions
  refine h.opened ha rfl (.inl ⟨_, rfl, hid⟩) fun hdist id ho hi => ?_
  exact .inr (ids_of_idle hidle hdist ho hi)

lemma Tracked.counted (h : Tracked env (transactionView s)) :
    Tracked env (transactionView { s with transids := s.transids + 1 }) :=
  h.mono (Nat.le_succ _) fun _ hd => ⟨hd, fun _ ho => ⟨ho, id⟩⟩

lemma tracked_privSendChannelBind (h : Tracked env (transactionView s))
    (resp : Option ReceivedMessage) (peer : NiceAddress)
    (hidle : (buildChannelBind s (env.transid s.transids) resp peer).isSome → Idle env s) :
    Tracked env (transactionView (privSendChannelBind env s resp peer).1) := by
  simp only [privSendChannelBind]
  cases hb : buildChannelBind s (env.transid s.transids) resp peer with
  | none => exact h.counted
  | some built =>
      obtain ⟨length, agent⟩ := built
      exact tracked_privSendTurnMessage h (hidle (by rw [hb]; rfl)) (finishRequest_opened hb)
        rfl s.currentBinding

/-- `priv_add_channel_binding` goes on to request a binding of `peer`, and the
request is built. -/
def Asks (env : Env) (s : UdpTurnPriv) (peer : NiceAddress) : Prop :=
  s.currentBinding = none ∧
    match s.compatibility with
    | .draft9 | .rfc5766 =>
        (0x4000 ≤ freeChannel s.channels ∧ freeChannel s.channels < 0xffff) ∧
          (buildChannelBind s (env.transid s.transids) none peer).isSome
    | .msn | .oc2007 => (buildSetActiveDst s (env.transid s.transids) peer).isSome
    | .google => False

/-- What an attempt to request a binding does to the transactions. -/
def Attempted (env : Env) (s : UdpTurnPriv) (attempt : UdpTurnPriv × Bool) : Prop :=
  Tracked env (transactionView attempt.1) ∧ (attempt.2 = false → Idle env s → Idle env attempt.1)

lemma attempted_addChannel (h : Tracked env (transactionView s)) (peer : NiceAddress)
    (hidle : 0x4000 ≤ freeChannel s.channels ∧ freeChannel s.channels < 0xffff →
      (buildChannelBind s (env.transid s.transids) none peer).isSome → Idle env s) :
    Attempted env s (addChannel env s peer) := by
  simp only [addChannel]
  split_ifs with hr
  · have ht := tracked_privSendChannelBind h none peer (hidle hr)
    cases hp : privSendChannelBind env s none peer with
    | mk t r =>
        rw [hp] at ht
        cases r with
        | true => exact ⟨ht, by simp⟩
        | false =>
            refine ⟨ht, fun _ hi => ?_⟩
            simp only [privSendChannelBind] at hp
            cases hb : buildChannelBind s (env.transid s.transids) none peer with
            | some built => rw [hb] at hp; cases (Prod.mk.inj hp).2
            | none =>
                rw [hb] at hp
                obtain ⟨rfl, -⟩ := Prod.mk.inj hp
                exact fun hdist => hi (hdist.anti (Nat.le_succ _))
  · exact ⟨h, fun _ hi => hi⟩

lemma attempted_addActiveDst (h : Tracked env (transactionView s)) (peer : NiceAddress)
    (hidle : (buildSetActiveDst s (env.transid s.transids) peer).isSome → Idle env s) :
    Attempted env s (addActiveDst env s peer) := by
  simp only [addActiveDst]
  cases hb : buildSetActiveDst s (env.transid s.transids) peer with
  | none => exact ⟨h.counted, fun _ hi hdist => hi (hdist.anti (Nat.le_succ _))⟩
  | some built =>
      obtain ⟨length, agent⟩ := built
      refine ⟨?_, by simp⟩
      exact tracked_privSendTurnMessage h (hidle (by rw [hb]; rfl))
        (buildSetActiveDst_opened hb) rfl _

/-- **Requesting a binding keeps track of the transactions**, if it does not take
the place of a request in flight. -/
theorem attempted_privAddChannelBinding (h : Tracked env (transactionView s))
    (peer : NiceAddress) (hidle : Asks env s peer → Idle env s) :
    Attempted env s (privAddChannelBinding env s peer) := by
  simp only [privAddChannelBinding]
  split_ifs with hc
  · exact ⟨h, fun _ hi => hi⟩
  · have hc' : s.currentBinding = none := by simpa using hc
    simp only [Asks, hc', true_and] at hidle
    cases hs : s.compatibility with
    | google => exact ⟨h, fun _ hi => hi⟩
    | draft9 | rfc5766 =>
        simp only [hs] at hidle ⊢
        exact attempted_addChannel h peer fun hr hb => hidle ⟨hr, hb⟩
    | msn | oc2007 =>
        simp only [hs] at hidle ⊢
        exact attempted_addActiveDst h peer hidle

/-- The loop over the peers that wait. -/
lemma tracked_processPendingLoop (n : ℕ)
    (h : Tracked env (transactionView s)) (hidle : Idle env s) :
    Tracked env (transactionView (processPendingLoop env n s)) := by
  induction n generalizing s with
  | zero => exact h
  | succ n ih =>
      simp only [processPendingLoop]
      cases s.pendingBindings with
      | nil => exact h
      | cons peer rest =>
          obtain ⟨ht, hi⟩ := attempted_privAddChannelBinding h peer fun _ => hidle
          simp only
          split_ifs with hr
          · exact ht
          · exact ih ht (hi (by simpa using hr) hidle)

/-- A renewal, with no request in flight. -/
lemma tracked_renewBinding (h : Tracked env (transactionView s)) (hm : s.currentBindingMsg.isNone) :
    Tracked env (transactionView (renewBinding env s)) := by
  simp only [renewBinding]
  cases s.channels.find? (·.renew) with
  | none => exact h
  | some b =>
      refine tracked_privSendChannelBind h none b.peer fun _ _ m hm' => ?_
      rw [hm'] at hm
      cases hm

/-- **`priv_process_pending_bindings` keeps track of the transactions.** -/
theorem tracked_privProcessPendingBindings (h : Tracked env (transactionView s))
    (hidle : Idle env s) :
    Tracked env (transactionView (privProcessPendingBindings env s)) := by
  have ht := tracked_processPendingLoop s.pendingBindings.length h hidle
  simp only [privProcessPendingBindings]
  generalize processPendingLoop env s.pendingBindings.length s = t at ht
  split_ifs with hm
  · exact tracked_renewBinding ht hm.2
  · exact ht

lemma tracked_bindingTimedOut (h : Tracked env (transactionView s)) {msg : TURNMessage}
    (hm : s.currentBindingMsg = some msg) :
    Tracked env (transactionView (bindingTimedOut env s msg)) := by
  refine tracked_privProcessPendingBindings ?_ nofun
  refine h.mono le_rfl fun _ hd => ⟨forget_distinct hd, fun id ho => ?_⟩
  obtain ⟨ho, hne⟩ := (forget_outstanding hd).mp ho
  refine ⟨ho, ?_⟩
  rintro (⟨m, hm', rfl⟩ | hid)
  · have he : some msg = some m := hm.symm.trans hm'
    exact absurd (congrArg (·.id) (Option.some.inj he)).symm hne
  · exact .inr hid

/-- The timer of the binding request does not matter. -/
lemma Tracked.retimed (h : Tracked env (transactionView s)) {msg : TURNMessage}
    (hm : s.currentBindingMsg = some msg) (timer : StunTimer) :
    Tracked env
      (transactionView { s with currentBindingMsg := some { msg with timer } }) := by
  refine h.mono le_rfl fun _ hd => ⟨hd, fun id ho => ⟨ho, ?_⟩⟩
  rintro (⟨m, hm', rfl⟩ | hid)
  · have he : some msg = some m := hm.symm.trans hm'
    exact .inl ⟨_, rfl, congrArg (·.id) (Option.some.inj he)⟩
  · exact .inr hid

/-- **`priv_retransmissions_tick_unlocked` keeps track of the transactions.** -/
theorem tracked_privRetransmissionsTickUnlocked (h : Tracked env (transactionView s)) :
    Tracked env (transactionView (privRetransmissionsTickUnlocked env s).1) := by
  -- the induction is on the number of retransmissions that are left
  induction hn : retransmissionsLeft s using Nat.strong_induction_on generalizing s with
  | _ n ih =>
      rw [privRetransmissionsTickUnlocked_eq]
      cases hm : s.currentBindingMsg with
      | none => exact h
      | some msg =>
          cases hr : stunTimerRefresh s.clock msg.timer with
          | mk timer ret =>
              simp only [hr]
              rcases stunTimerRefresh_cases hr with
                ⟨hrem, rfl, -⟩ | ⟨-, -, rfl, -⟩ | ⟨-, rfl, hleft⟩
              · simp only [privScheduleTick]
                rw [scheduleTickWith_left hm (by omega)]
                exact tracked_schedulePermissions h
              · exact tracked_bindingTimedOut h hm
              · refine tracked_scheduleTickWith (h.retimed hm timer) fun t hv _ => ?_
                have hmsg : t.currentBindingMsg = some { msg with timer } :=
                  congrArg (·.message) hv
                refine ih _ ?_ (hv ▸ h.retimed hm timer) rfl
                simp only [retransmissionsLeft, hm, hmsg, Option.map_some,
                  Option.getD_some] at hn ⊢
                omega

/-- **`priv_schedule_tick` keeps track of the transactions.** -/
theorem tracked_privScheduleTick (h : Tracked env (transactionView s)) :
    Tracked env (transactionView (privScheduleTick env s)) :=
  tracked_scheduleTickWith h fun _ hv _ =>
    tracked_privRetransmissionsTickUnlocked (hv ▸ h)

/-- **A CreatePermission request keeps track of the transactions.** -/
theorem tracked_createPermission (h : Tracked env (transactionView s))
    (resp : Option ReceivedMessage) (peer : NiceAddress) :
    Tracked env (transactionView (createPermission env s resp peer)) := by
  simp only [createPermission, privSendCreatePermission]
  have hadd : transactionView (addSentPermission s peer) = transactionView s := by
    simp only [addSentPermission]
    split_ifs <;> rfl
  generalize addSentPermission s peer = t at hadd
  rw [← hadd] at h
  cases hb : stunUsageTurnCreatePermission t (env.transid t.transids) resp peer with
  | none => exact h.counted
  | some built =>
      obtain ⟨length, agent⟩ := built
      obtain ⟨k, hk⟩ := transmit_eq env { t with agent := agent, transids := t.transids + 1 } length
      simp only [hk]
      have ht : ∀ u, transactionView u = { transactionView t with
            agent
            transids := t.transids + 1
            pending := t.pendingPermissions ++
              [{ method := STUN_CREATEPERMISSION, id := env.transid t.transids
                 peer := unscoped peer, realm := resp.bind (·.realm), length
                 timer := startTimer t }] } → Tracked env (transactionView u) := by
        intro u hu
        rw [hu]
        refine h.opened (finishRequest_opened hb) rfl
          (.inr (.inl ⟨_, List.mem_append_right _ (List.mem_singleton_self _), rfl⟩)) ?_
        rintro - id - (hm | ⟨m, hm, he⟩ | hr)
        · exact .inl hm
        · exact .inr (.inl ⟨m, List.mem_append_left _ hm, he⟩)
        · exact .inr (.inr hr)
      refine tracked_scheduleTickWith (ht _ rfl) fun u hu _ => ?_
      exact tracked_privRetransmissionsTickUnlocked (ht u hu)

/-! ### Receiving -/

/-- What `stun_agent_validate` does to the transactions: the one that an accepted
answer is for is gone. -/
lemma tracked_validated (h : Tracked env (transactionView s)) (msg : ReceivedMessage)
    (status : StunValidationStatus) :
    Tracked env (transactionView (validated s msg status)) ∧
      (DistinctIds env s.transids → (validateReceived s.agent msg status).2 = .success →
        msg.cls = .response ∨ msg.cls = .error →
        ¬Outstanding (validated s msg status).agent msg.id) := by
  simp only [validated, validateReceived]
  by_cases hst : status = .notStun ∨ status = .incompleteStun ∨ status = .badRequest
  · simp only [if_pos hst]
    refine ⟨h, fun _ he => ?_⟩
    rcases hst with rfl | rfl | rfl <;> cases he
  by_cases hcls : msg.cls = .response ∨ msg.cls = .error
  · simp only [if_neg hst, if_pos hcls]
    cases hf : s.agent.sentIds.findFinIdx? fun s => s.valid && s.method = msg.method &&
        s.id = msg.id with
    | none => exact ⟨h, fun _ he => by cases he⟩
    | some idx =>
        have hp := findFinIdx_some hf
        simp only [Bool.and_eq_true, decide_eq_true_eq] at hp
        by_cases hsu : status = .success ∨ status = .unknownAttribute
        · simp only [if_pos hsu]
          have hrel : SlotsDistinct s.agent → ∀ id,
              Outstanding (s.agent.release (.found idx)) id ↔
                Outstanding s.agent id ∧ id ≠ msg.id := fun hd id => by
            rw [outstanding_release hd hp.1.1, hp.2]
          refine ⟨h.mono le_rfl fun _ hd => ⟨hd.release, fun id ho => ?_⟩, ?_⟩
          · exact ⟨((hrel hd id).mp ho).1, fun hi => hi⟩
          · exact fun hdist _ _ ho => ((hrel (h hdist).distinct _).mp ho).2 rfl
        · simp only [if_neg hsu]
          exact ⟨h, fun _ he => absurd (Or.inl he) hsu⟩
  · simp only [if_neg hst, if_neg hcls]
    exact ⟨h, fun _ _ hc => absurd hc hcls⟩

section Parts

variable {msg : ReceivedMessage}

/-- The socket without a binding request, when that one is not in the table. -/
lemma Tracked.dropped (h : Tracked env (transactionView s)) (hidle : Idle env s)
    (binding : Option ChannelBinding) (channels : List ChannelBinding) :
    Tracked env (transactionView
      { s with currentBindingMsg := none, currentBinding := binding, channels }) :=
  h.mono le_rfl fun hdist hd =>
    ⟨hd, fun _ ho => ⟨ho, fun hid => .inr (ids_of_idle hidle hdist ho hid)⟩⟩

/-- In Google's protocol no binding is requested. -/
lemma processPendingLoop_google (hg : s.compatibility = .google) (n : ℕ) :
    transactionView (processPendingLoop env n s) = transactionView s := by
  induction n generalizing s with
  | zero => rfl
  | succ n ih =>
      simp only [processPendingLoop]
      cases s.pendingBindings with
      | nil => rfl
      | cons peer rest =>
          have hadd : privAddChannelBinding env s peer =
              if s.currentBinding.isSome then
                ({ s with pendingBindings := s.pendingBindings ++ [peer] }, false)
              else ({ s with currentBinding := some (newChannelBinding peer 0) }, true) := by
            simp only [privAddChannelBinding, hg]
          simp only [hadd]
          by_cases hc : s.currentBinding.isSome
          · simp only [if_pos hc, Bool.false_eq_true, if_false]
            exact @ih { s with pendingBindings := (s.pendingBindings ++ [peer]).tail } hg
          · simp only [if_neg hc, if_true]
            rfl

lemma tracked_processPending_google (hg : s.compatibility = .google)
    (h : Tracked env (transactionView s)) :
    Tracked env (transactionView (privProcessPendingBindings env s)) := by
  have ht := @processPendingLoop_google env s hg s.pendingBindings.length
  simp only [privProcessPendingBindings]
  generalize processPendingLoop env s.pendingBindings.length s = t at ht
  rw [← ht] at h
  split_ifs with hm
  · exact tracked_renewBinding h hm.2
  · exact h

lemma tracked_parseSend (h : Tracked env (transactionView s))
    (hnot : msg.cls = .response → DistinctIds env s.transids → ¬Outstanding s.agent msg.id) :
    Tracked env (transactionView (parseSend env s msg)) := by
  simp only [parseSend]
  by_cases hc : msg.cls = .response
  · have ht : Tracked env (transactionView
        { s with sendRequests := s.sendRequests.eraseP fun r => r.id = msg.id }) := by
      refine h.mono le_rfl fun hdist hd => ⟨hd, fun id ho => ⟨ho, ?_⟩⟩
      rintro (hm | hp | ⟨r, hr, rfl⟩)
      · exact .inl hm
      · exact .inr (.inl hp)
      · refine .inr (.inr ⟨r, ?_, rfl⟩)
        refine (List.mem_eraseP_of_neg ?_).mpr hr
        intro he
        exact hnot hc hdist (of_decide_eq_true he ▸ ho)
    rw [if_pos hc]
    split_ifs with hg
    · simp only [msnGoogleLock]
      cases s.currentBinding with
      | none => exact ht
      | some b => exact tracked_processPending_google hg.1 ht
    · exact ht
  · rw [if_neg hc]
    exact h

lemma tracked_parseSetActiveDst (h : Tracked env (transactionView s))
    (hnot : ∀ b request, s.currentBinding = some b → s.currentBindingMsg = some request →
      request.id = msg.id → DistinctIds env s.transids → ¬Outstanding s.agent msg.id) :
    Tracked env (transactionView (parseSetActiveDst env s msg)) := by
  simp only [parseSetActiveDst]
  cases hc : s.currentBinding with
  | none => exact h
  | some b =>
      cases hm : s.currentBindingMsg with
      | none => exact h
      | some request =>
          simp only
          by_cases hid : request.id = msg.id
          · have hidle : Idle env s := fun hdist m hm' => by
              have he : some request = some m := hm.symm.trans hm'
              rw [← Option.some.inj he, hid]
              exact hnot b request hc hm hid hdist
            rw [if_pos hid]
            split_ifs
            · exact tracked_privProcessPendingBindings (h.dropped hidle none [b]) (.of_none rfl)
            · exact h.dropped hidle none s.channels
          · rw [if_neg hid]
            exact h

lemma tracked_parseChannelBind (h : Tracked env (transactionView s))
    (hnot : msg.cls = .response ∨ msg.cls = .error → DistinctIds env s.transids →
      ¬Outstanding s.agent msg.id) :
    Tracked env (transactionView (parseChannelBind env s msg)) := by
  simp only [parseChannelBind]
  cases hm : s.currentBindingMsg with
  | none => exact h
  | some request =>
      simp only
      by_cases hid : request.id = msg.id
      · rw [if_pos hid]
        have hidle : (msg.cls = .response ∨ msg.cls = .error) → Idle env s :=
            fun hc hdist m hm' => by
          have he : some request = some m := hm.symm.trans hm'
          rw [← Option.some.inj he, hid]
          exact hnot hc hdist
        cases hcls : msg.cls with
        | request => exact h
        | indication => exact h
        | error =>
            have hi := hidle (.inr hcls)
            simp only
            split_ifs
            · cases requestedBinding s request with
              | none => exact h.dropped hi s.currentBinding s.channels
              | some b =>
                  exact tracked_privSendChannelBind
                    (h.dropped hi s.currentBinding s.channels) _ _ fun _ => .of_none rfl
            · exact tracked_privProcessPendingBindings (h.dropped hi none s.channels)
                (.of_none rfl)
        | response =>
            have hi := hidle (.inl hcls)
            simp only [grantBinding]
            cases hc : s.currentBinding with
            | none =>
                exact tracked_privProcessPendingBindings (h.dropped hi none s.channels)
                  (.of_none rfl)
            | some b =>
                exact tracked_privProcessPendingBindings (h.dropped hi none s.channels)
                  (.of_none rfl)
      · rw [if_neg hid]
        exact h

lemma tracked_parseCreatePermission (h : Tracked env (transactionView s))
    (hnot : ∀ request ∈ s.pendingPermissions, request.id = msg.id →
      DistinctIds env s.transids → ¬Outstanding s.agent msg.id) :
    Tracked env (transactionView (parseCreatePermission env s msg)) := by
  simp only [parseCreatePermission]
  cases hf : s.pendingPermissions.find? fun request => request.id = msg.id with
  | none => exact h
  | some request =>
      have hid := List.find?_some hf
      have hn := hnot request (List.mem_of_find?_eq_some hf) (of_decide_eq_true hid)
      have ht : ∀ t, transactionView t = transactionView s →
          Tracked env (transactionView (t.withPending
            (s.pendingPermissions.eraseP fun request => request.id = msg.id))) := by
        intro t hv
        have ha : t.agent = s.agent := congrArg (·.agent) hv
        refine h.mono (le_of_eq (congrArg (·.transids) hv).symm) fun hdist hd =>
          ⟨(ha ▸ hd : SlotsDistinct t.agent), fun id (ho : Outstanding t.agent id) => ?_⟩
        rw [ha] at ho
        refine ⟨ho, ?_⟩
        rintro (hm | ⟨m, hm, rfl⟩ | hr)
        · exact .inl ((congrArg (·.message) hv) ▸ hm)
        · refine .inr (.inl ⟨m, (List.mem_eraseP_of_neg ?_).mpr hm, rfl⟩)
          intro he
          exact hn hdist (of_decide_eq_true he ▸ ho)
        · exact .inr (.inr ((congrArg (·.sendRequests) hv) ▸ hr))
      simp only
      split_ifs
      · exact tracked_createPermission (ht s rfl) _ _
      · refine ht _ ?_
        rw [transactionView_permitPeer]
        simp only [startPermissionTimer]
        split_ifs <;> rfl

lemma tracked_ensurePermission (h : Tracked env (transactionView s)) (peer : NiceAddress) :
    Tracked env (transactionView (ensurePermission env s peer)) := by
  simp only [ensurePermission]
  split_ifs
  · exact h
  · exact tracked_createPermission h none peer

lemma tracked_parseIndData (h : Tracked env (transactionView s)) (len : ℕ) (buf : Bytes)
    (recvFrom : NiceAddress) :
    Tracked env (transactionView (parseIndData env s msg len buf recvFrom).1) := by
  simp only [parseIndData]
  cases msg.remoteAddress with
  | none => exact h
  | some sender =>
      cases msg.data with
      | none => exact h
      | some data =>
          simp only
          split_ifs
          · exact tracked_ensurePermission h _
          · exact h

end Parts

/-- The messages that are no answers but have the id of the request in flight that
they are taken to be an answer to. -/
def Strays (s : UdpTurnPriv) : Event → Prop
  | .recv _ _ recvFrom msg status =>
      Accepted s recvFrom msg status ∧ ¬(msg.cls = .response ∨ msg.cls = .error) ∧
        Outstanding s.agent msg.id ∧
        (msg.method = STUN_OLD_SET_ACTIVE_DST ∧
            (∃ b request, s.currentBinding = some b ∧ s.currentBindingMsg = some request ∧
              request.id = msg.id) ∨
          msg.method = STUN_CREATEPERMISSION ∧ ∃ request ∈ s.pendingPermissions,
            request.id = msg.id)
  | _ => False

/-- The binding request in flight is one of the table. -/
def InFlight (s : UdpTurnPriv) : Prop :=
  ∃ m, s.currentBindingMsg = some m ∧ Outstanding s.agent m.id

/-- The events at which a binding request takes the place of one in flight: a
binding is asked for, or one that expires is asked for again. -/
def Overwrites (env : Env) (s : UdpTurnPriv) : Event → Prop
  | .setPeer peer => Asks env s peer ∧ InFlight s
  | .bindingExpiredTimeout source =>
      let ofSource : ChannelBinding → Bool := fun b =>
        b.timeoutSource = some { id := source, function := .bindingExpiredTimeout }
      ∃ b, s.channels.find? ofSource = some b ∧
        Asks env { s with channels := s.channels.eraseP ofSource } b.peer ∧
        (∀ m, s.currentBindingMsg = some m → m.peer ≠ b.peer) ∧ InFlight s
  | _ => False

lemma idle_of_not_inFlight (h : ¬InFlight s) : Idle env s := fun _ m hm ho => h ⟨m, hm, ho⟩

/-- `stun_agent_validate` leaves all but the table alone, and that for messages that
are no answers. -/
lemma validateReceived_other {agent : StunAgent} {msg : ReceivedMessage}
    {status : StunValidationStatus} (hc : ¬(msg.cls = .response ∨ msg.cls = .error)) :
    (validateReceived agent msg status).1 = agent := by
  simp only [validateReceived, if_neg hc]
  split_ifs <;> rfl

/-- A datagram from the base socket. -/
lemma tracked_parseRecv (h : Tracked env (transactionView s)) (len : ℕ) (buf : Bytes)
    (recvFrom : NiceAddress) (msg : ReceivedMessage) (status : StunValidationStatus)
    (hstray : ¬Strays s (.recv len buf recvFrom msg status)) :
    Tracked env (transactionView (parseRecv env s len buf recvFrom msg status).1) := by
  simp only [parseRecv]
  by_cases hfrom : recvFrom = s.serverAddr
  · simp only [if_pos hfrom]
    obtain ⟨ht, hclosed⟩ := tracked_validated h msg status
    by_cases hvalid : (validateReceived s.agent msg status).2 = .success
    · simp only [if_pos hvalid, parseMessage]
      have hcl : DistinctIds env (validated s msg status).transids →
          msg.cls = .response ∨ msg.cls = .error →
          ¬Outstanding (validated s msg status).agent msg.id := fun hd => hclosed hd hvalid
      by_cases hcookie : ¬(validated s msg status).compatibility.hasChannels ∧
          msg.magicCookie ≠ some TURN_MAGIC_COOKIE
      · rw [if_pos hcookie]
        exact ht
      rw [if_neg hcookie]
      have hacc : Accepted s recvFrom msg status := ⟨hfrom, hvalid, by
        by_contra hno
        exact hcookie (not_or.mp hno)⟩
      split_ifs with hsend hdst hbind hperm hdata
      · exact tracked_parseSend ht fun hc hd => hcl hd (.inl hc)
      · refine tracked_parseSetActiveDst ht fun b request hb hm hid hd ho => ?_
        by_cases hc : msg.cls = .response ∨ msg.cls = .error
        · exact hcl hd hc ho
        · have ha : (validated s msg status).agent = s.agent := validateReceived_other hc
          exact hstray ⟨hacc, hc, ha ▸ ho, .inl ⟨hdst, b, request, hb, hm, hid⟩⟩
      · exact tracked_parseChannelBind ht fun hc hd => hcl hd hc
      · refine tracked_parseCreatePermission ht fun request hmem hid hd ho => ?_
        by_cases hc : msg.cls = .response ∨ msg.cls = .error
        · exact hcl hd hc ho
        · have ha : (validated s msg status).agent = s.agent := validateReceived_other hc
          exact hstray ⟨hacc, hc, ha ▸ ho, .inr ⟨hperm, request, hmem, hid⟩⟩
      · exact tracked_parseIndData ht _ _ _
      · exact ht
    · simp only [if_neg hvalid]
      exact ht
  · simp only [if_neg hfrom]
    exact h

/-! ### Sending -/

lemma tracked_buildSend (h : Tracked env (transactionView s)) {peer : NiceAddress} {data : Bytes}
    {length : ℕ} (hb : buildSend env s peer data = some (length, s')) :
    Tracked env (transactionView s') := by
  simp only [buildSend] at hb
  by_cases hch : s.compatibility.hasChannels
  · simp only [if_pos hch] at hb
    obtain ⟨mlen, -, hm⟩ := Option.map_eq_some_iff.mp hb
    split at hm
    all_goals
      obtain ⟨-, rfl⟩ := Prod.mk.inj hm
      exact h.counted
  · simp only [if_neg hch] at hb
    obtain ⟨mlen, -, hm⟩ := Option.bind_eq_some_iff.mp hb
    obtain ⟨mlen', -, hm⟩ := Option.map_eq_some_iff.mp hm
    split at hm
    · next len agent hfin =>
        obtain ⟨-, rfl⟩ := Prod.mk.inj hm
        refine h.opened (finishMessage_opened hfin) rfl
          (.inr (.inr ⟨_, List.mem_append_right _ (List.mem_singleton_self _), rfl⟩)) ?_
        rintro - id - (hm | hp | ⟨r, hr, he⟩)
        · exact .inl hm
        · exact .inr (.inl hp)
        · exact .inr (.inr ⟨r, List.mem_append_left _ hr, he⟩)
    · obtain ⟨-, rfl⟩ := Prod.mk.inj hm
      exact h.counted

lemma transactionView_transmitData (peer : NiceAddress) (datagram : Datagram) (length ret : ℕ) :
    transactionView (transmitData env s peer datagram length ret).1 = transactionView s := by
  simp only [transmitData]
  split_ifs <;> rfl

lemma tracked_sendOrEnqueue (h : Tracked env (transactionView s)) (peer : NiceAddress)
    (datagram : Datagram) (length : ℕ) (reliable : Bool) :
    Tracked env (transactionView (sendOrEnqueue env s peer datagram length reliable).1) := by
  simp only [sendOrEnqueue]
  split_ifs
  · exact tracked_ensurePermission h peer
  · rw [transactionView_transmitData]
    exact h

/-- **Data for a peer keep track of the transactions.** -/
theorem tracked_socketSendMessage (h : Tracked env (transactionView s)) (peer : NiceAddress)
    (data : Bytes) (reliable : Bool) :
    Tracked env (transactionView (socketSendMessage env s peer data reliable).1) := by
  simp only [socketSendMessage]
  cases s.channels.find? (·.peer = peer) with
  | some binding =>
      simp only
      split_ifs
      · exact tracked_sendOrEnqueue h _ _ _ _
      · exact h
      · rw [transactionView_transmitData]
        exact h
  | none =>
      cases hb : buildSend env s peer data with
      | none => exact h.counted
      | some built =>
          obtain ⟨length, t⟩ := built
          have ht := tracked_buildSend h hb
          cases length with
          | zero =>
              simp only
              rw [transactionView_transmitData]
              exact ht
          | succ length => exact tracked_sendOrEnqueue ht _ _ _ _

/-! ### Timers -/

lemma transactionView_privRetransmissionsTick :
    transactionView (privRetransmissionsTick env s) =
      transactionView (privRetransmissionsTickUnlocked env s).1 := by
  simp only [privRetransmissionsTick]
  cases privRetransmissionsTickUnlocked env s with
  | mk t ret => cases ret <;> rfl

lemma tracked_privBindingTimeout (h : Tracked env (transactionView s)) (source : GSource) :
    Tracked env (transactionView (privBindingTimeout env s source)) := by
  simp only [privBindingTimeout]
  cases s.channels.find? fun b => b.timeoutSource = some source with
  | none => exact h
  | some b =>
      simp only
      split_ifs with hm
      · refine tracked_privSendChannelBind (by exact h) none b.peer fun _ _ m hm' => ?_
        have hm'' : s.currentBindingMsg = some m := hm'
        rw [hm''] at hm
        cases hm
      · exact h

lemma tracked_privBindingExpiredTimeout (h : Tracked env (transactionView s)) (source : ℕ)
    (hover : ¬Overwrites env s (.bindingExpiredTimeout source)) :
    Tracked env (transactionView (privBindingExpiredTimeout env s
      { id := source, function := .bindingExpiredTimeout })) := by
  simp only [privBindingExpiredTimeout]
  cases hf : s.channels.find? fun b =>
      b.timeoutSource = some { id := source, function := .bindingExpiredTimeout } with
  | none => exact h
  | some b =>
      have hadd : (∀ m, s.currentBinding = none → s.currentBindingMsg = some m →
            m.peer ≠ b.peer) →
          Tracked env (transactionView (privAddChannelBinding env
            { s with channels := s.channels.eraseP fun b =>
                b.timeoutSource = some { id := source, function := .bindingExpiredTimeout } }
            b.peer).1) := fun hne =>
        (attempted_privAddChannelBinding (by exact h) b.peer fun hasks =>
          idle_of_not_inFlight fun hin =>
            hover ⟨b, hf, hasks, fun m => hne m hasks.1, hin⟩).1
      simp only
      split
      · next request hm hc =>
          split_ifs with hp
          · exact h
          · refine hadd fun m _ hm' he => hp ?_
            have hm'' : some request = some m := hm.symm.trans hm'
            rw [Option.some.inj hm'']
            exact he.symm
      · next hno =>
          exact hadd fun m hc hm _ => hno m hm hc

/-- An entry of a list that is not the one taken out. -/
lemma mem_eraseP_of_find {α : Type*} {p : α → Bool} {l : List α} {a b : α}
    (h : l.find? p = some a) (hb : b ∈ l) (hne : b ≠ a) : b ∈ l.eraseP p := by
  obtain ⟨pre, post, rfl, he⟩ := find_split h
  rw [he]
  simp only [List.mem_append, List.mem_cons] at hb ⊢
  rcases hb with hb | rfl | hb
  · exact .inl hb
  · exact absurd rfl hne
  · exact .inr hb

lemma tracked_privForgetSendRequest (h : Tracked env (transactionView s)) (source : ℕ) :
    Tracked env (transactionView (privForgetSendRequest s source)) := by
  simp only [privForgetSendRequest]
  cases hf : s.sendRequests.find? fun r => r.source = source with
  | none => exact h
  | some r =>
      refine h.mono le_rfl fun _ hd => ⟨forget_distinct hd, fun id ho => ?_⟩
      obtain ⟨ho, hne⟩ := (forget_outstanding hd).mp ho
      refine ⟨ho, ?_⟩
      rintro (hm | hp | ⟨r', hr, rfl⟩)
      · exact .inl hm
      · exact .inr (.inl hp)
      · refine .inr (.inr ⟨r', mem_eraseP_of_find hf hr ?_, rfl⟩)
        rintro rfl
        exact hne rfl

/-! ### Runs -/

/-- **A step keeps track of the transactions**, if no binding request takes the
place of one in flight and no message is taken for an answer that it is not. -/
theorem step_tracked {l : Label} (h : Tracked env (transactionView s)) (hstep : Step env s l s')
    (hover : ¬Overwrites env s l.event) (hstray : ¬Strays s l.event) :
    Tracked env (transactionView s') := by
  obtain ⟨-, hstep⟩ := hstep
  have ht : Tracked env (transactionView { s with clock := l.now }) := h
  obtain rfl : (handle env { s with clock := l.now } l.event).1 = s' := by rw [hstep]
  cases he : l.event with
  | setPeer peer =>
      rw [he] at hover
      exact (attempted_privAddChannelBinding ht peer fun hasks =>
        idle_of_not_inFlight fun hin => hover ⟨hasks, hin⟩).1
  | sendMessage peer data reliable => exact tracked_socketSendMessage ht peer data reliable
  | recv len buf recvFrom msg status =>
      rw [he] at hstray
      exact tracked_parseRecv ht len buf recvFrom msg status hstray
  | retransmissionsTick =>
      simp only [handle]
      rw [transactionView_privRetransmissionsTick]
      exact tracked_privRetransmissionsTickUnlocked ht
  | createPermissionTick => exact tracked_privScheduleTick ht
  | bindingTimeout source => exact tracked_privBindingTimeout ht _
  | bindingExpiredTimeout source =>
      rw [he] at hover
      exact tracked_privBindingExpiredTimeout ht source hover
  | permissionTimeout => exact h
  | forgetSendRequest source => exact tracked_privForgetSendRequest ht source
  | setMsRealm realm =>
      simp only [handle, setMsRealm]
      split_ifs <;> exact h
  | setMsConnectionId length =>
      simp only [handle, setMsConnectionId]
      split_ifs <;> exact h

/-- The ids of the requests that a socket knows, as a list. -/
def requestIds (s : UdpTurnPriv) : List StunTransactionId :=
  (s.currentBindingMsg.map (·.id)).toList ++ s.pendingPermissions.map (·.id) ++
    s.sendRequests.map (·.id)

/-- Each transaction of the table is one of a request that the socket knows. -/
def NoLeak (s : UdpTurnPriv) : Prop :=
  ∀ idx, (s.agent.sentIds.get idx).valid → (s.agent.sentIds.get idx).id ∈ requestIds s

instance (s : UdpTurnPriv) : Decidable (NoLeak s) :=
  inferInstanceAs (Decidable (∀ idx : Fin STUN_AGENT_MAX_SAVED_IDS,
    (s.agent.sentIds.get idx).valid → (s.agent.sentIds.get idx).id ∈ requestIds s))

lemma mem_requestIds {id : StunTransactionId} (h : id ∈ (transactionView s).ids) :
    id ∈ requestIds s := by
  simp only [requestIds, List.mem_append, Option.mem_toList, List.mem_map]
  rcases h with ⟨m, hm, rfl⟩ | hp | hr
  · have hm' : s.currentBindingMsg = some m := hm
    exact .inl (.inl (by rw [hm']; rfl))
  · exact .inl (.inr hp)
  · exact .inr hr

lemma tracked_new (env : Env) (serverAddr : NiceAddress) (baseReliable : Bool)
    (username password : Bytes) (compatibility : NiceTurnSocketCompatibility) :
    Tracked env (transactionView
      (niceUdpTurnSocketNew serverAddr baseReliable username password compatibility)) := by
  have hfree : ∀ idx : Fin STUN_AGENT_MAX_SAVED_IDS, ¬(noSentIds.get idx).valid := by
    intro idx
    simp [noSentIds, Vector.get]
  refine fun _ => ⟨fun i j hi => ?_, fun id ho => ?_, fun id ho => ?_⟩
  · exact absurd hi (hfree i)
  all_goals
    obtain ⟨idx, hv, -⟩ := ho
    exact absurd hv (hfree idx)

/-- The refresh of a binding is in flight when the next peer is set. -/
def overwrittenEvents : List (Timeval × Event) :=
  [(⟨0, 0⟩, .setPeer (samplePeer 1)),
    (⟨0, 0⟩, sampleAnswer .response STUN_CHANNELBIND 0 none),
    (⟨540, 0⟩, .bindingTimeout 0),
    (⟨540, 0⟩, .setPeer (samplePeer 2))]

end LibNice.UdpTurn
