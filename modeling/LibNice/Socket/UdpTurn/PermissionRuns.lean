import Mathlib.Data.List.Nodup
import LibNice.Socket.UdpTurn.Permissions

/-!
Data that wait for a permission are neither stranded nor reordered.

* `Keeps`: the data for each peer are those that were handed to the base socket and
  those that wait, in this order.
* `Held`, `Served`: the peers that wait for a permission are those with a
  CreatePermission request in flight.
* `PermissionStep`: what a step of the socket does to the permissions.
* `data_served`: **data for a peer leave in the order in which they came, and wait
  for a request in flight**, as long as the requests can be built.
-/

namespace LibNice.UdpTurn

open LibNice.Foundation LibNice.Stun LibNice.Ice

variable {env : Env} {v v' w : PermissionView} {peer : NiceAddress}

/-! ### Order -/

/-- The data for each peer stay what they are, and so does what the messages depend
on. -/
structure Keeps (v v' : PermissionView) : Prop where
  outgoing : ∀ p, v'.outgoing p = v.outgoing p
  clock : v'.clock = v.clock
  compatibility : v'.compatibility = v.compatibility
  config : v'.config = v.config

lemma Keeps.refl (v : PermissionView) : Keeps v v := ⟨fun _ => rfl, rfl, rfl, rfl⟩

lemma Keeps.trans (h : Keeps v v') (h' : Keeps v' w) : Keeps v w where
  outgoing p := (h'.outgoing p).trans (h.outgoing p)
  clock := h'.clock.trans h.clock
  compatibility := h'.compatibility.trans h.compatibility
  config := h'.config.trans h.config

lemma keeps_permit (v : PermissionView) (peer : NiceAddress) : Keeps v (v.permit peer) := by
  refine ⟨fun p => ?_, rfl, rfl, rfl⟩
  simp only [PermissionView.outgoing, PermissionView.permit]
  by_cases he : p = peer
  · subst he
    simp only [Function.update_self, List.map_nil, List.append_nil]
  · simp only [Function.update_of_ne he]

lemma Passed.keeps {ms ks : List TURNMessage} (h : Passed v ms v' ks) : Keeps v v' := by
  induction h with
  | nil v => exact .refl v
  | kept _ _ _ _ ih => exact ih
  | permitted _ _ ih => exact (keeps_permit _ _).trans ih

lemma keeps_withPending (v : PermissionView) (msgs : List TURNMessage) :
    Keeps v (v.withPending msgs) := ⟨fun _ => rfl, rfl, rfl, rfl⟩

lemma TickStep.keeps (h : TickStep v v') : Keeps v v' := by
  obtain ⟨w, ks, hp, rfl⟩ := h
  exact hp.keeps.trans (keeps_withPending w ks)

lemma Ticks.keeps (h : Ticks v v') : Keeps v v' := by
  induction h with
  | refl => exact .refl v
  | tail _ hs ih => exact ih.trans hs.keeps

lemma keeps_ask (v : PermissionView) (peer : NiceAddress) : Keeps v (v.ask peer) := by
  simp only [PermissionView.ask]
  split_ifs
  · exact .refl v
  · exact ⟨fun _ => rfl, rfl, rfl, rfl⟩

/-! ### Requests in flight -/

/-- The peers that wait for a permission are those of the requests `msgs`, one for
each; they have no permission, and data wait only for them. -/
structure Held (v : PermissionView) (msgs : List TURNMessage) : Prop where
  nodup : (msgs.map (·.peer)).Nodup
  sent : v.sentPermissions.Perm (msgs.map (·.peer))
  requests : ∀ m ∈ msgs, unscoped m.peer = m.peer ∧ m.method = STUN_CREATEPERMISSION
  apart : ∀ p ∈ v.sentPermissions, p ∉ v.permissions
  waiting : ∀ p, v.sendDataQueues p ≠ [] → p ∈ v.sentPermissions

/-- The peers that wait for a permission are those of the requests in flight. -/
def Served (v : PermissionView) : Prop := Held v v.pendingPermissions

/-- A list without repetitions loses just the entry that is to be removed. -/
lemma privRemovePeerFromList_eq {list : List NiceAddress} (h : list.Nodup) (peer : NiceAddress) :
    privRemovePeerFromList list peer = list.erase peer := by
  cases list with
  | nil => rfl
  | cons address rest =>
      have hrest := (List.nodup_cons.mp h).2
      simp only [privRemovePeerFromList, List.erase_cons, beq_iff_eq]
      split_ifs
      · rfl
      · rw [hrest.erase_eq_filter]
        congr 1
        exact List.filter_congr fun a _ => by simp [bne, beq_eq_decide]

lemma Held.sent_nodup {msgs : List TURNMessage} (h : Held v msgs) : v.sentPermissions.Nodup :=
  h.sent.nodup_iff.mpr h.nodup

/-- The request whose peer is permitted is done. -/
lemma Held.permit {pre post : List TURNMessage} {m : TURNMessage} (h : Held v (pre ++ m :: post)) :
    Held (v.permit m.peer) (pre ++ post) := by
  have hnd := h.nodup
  simp only [List.map_append, List.map_cons] at hnd
  have hpre : m.peer ∉ pre.map (·.peer) := fun hm =>
    (List.disjoint_of_nodup_append hnd) hm (List.mem_cons_self)
  have hrem := privRemovePeerFromList_eq h.sent_nodup m.peer
  refine ⟨?_, ?_, fun m' hm => h.requests m' ?_, fun p hp => ?_, fun p hp => ?_⟩
  · rw [List.map_append]
    exact hnd.sublist (List.Sublist.append (List.Sublist.refl _) (List.sublist_cons_self _ _))
  · have hs := h.sent.erase m.peer
    simp only [List.map_append, List.map_cons, List.erase_append_right _ hpre,
      List.erase_cons_head] at hs
    simp only [PermissionView.permit, hrem, List.map_append]
    exact hs
  · simp only [List.mem_append, List.mem_cons] at hm ⊢
    exact hm.imp_right .inr
  · simp only [PermissionView.permit, hrem] at hp
    simp only [PermissionView.permit, List.mem_append, List.mem_singleton, not_or]
    obtain ⟨hne, hmem⟩ := h.sent_nodup.mem_erase_iff.mp hp
    exact ⟨h.apart p hmem, hne⟩
  · simp only [PermissionView.permit, hrem] at hp ⊢
    by_cases he : p = m.peer
    · rw [he, Function.update_self] at hp
      exact absurd rfl hp
    · rw [Function.update_of_ne he] at hp
      exact (List.mem_erase_of_ne he).mpr (h.waiting p hp)

lemma Held.passed {ms ks : List TURNMessage} (hp : Passed v ms v' ks) (pre : List TURNMessage)
    (h : Held v (pre ++ ms)) : Held v' (pre ++ ks) := by
  induction hp generalizing pre with
  | nil => exact h
  | @kept v v' m m' ms ks hpeer hmethod _ _ ih =>
      have hmap : ((pre ++ [m']) ++ ms).map (·.peer) = (pre ++ m :: ms).map (·.peer) := by
        simp [hpeer]
      have h' : Held v ((pre ++ [m']) ++ ms) := by
        refine ⟨hmap ▸ h.nodup, hmap ▸ h.sent, fun m'' hm => ?_, h.apart, h.waiting⟩
        simp only [List.append_assoc, List.singleton_append, List.mem_append, List.mem_cons] at hm
        rcases hm with hm | rfl | hm
        · exact h.requests _ (List.mem_append_left _ hm)
        · rw [hpeer, hmethod]
          exact h.requests m (by simp)
        · exact h.requests _ (List.mem_append_right _ (List.mem_cons_of_mem _ hm))
      have hk := ih (pre ++ [m']) h'
      simpa only [List.append_assoc, List.singleton_append] using hk
  | permitted _ _ ih => exact ih pre h.permit

lemma TickStep.served (h : TickStep v v') (hv : Served v) : Served v' := by
  obtain ⟨w, ks, hp, rfl⟩ := h
  have hk := Held.passed hp [] hv
  exact ⟨hk.nodup, hk.sent, hk.requests, hk.apart, hk.waiting⟩

lemma Ticks.served (h : Ticks v v') (hv : Served v) : Served v' := by
  induction h with
  | refl => exact hv
  | tail _ hs ih => exact hs.served ih

/-- A request that has time left stays in flight. -/
lemma Passed.left {ms ks : List TURNMessage} (h : Passed v ms v' ks) {msg : TURNMessage}
    (hm : msg ∈ ms) (hleft : stunTimerRemainder v.clock msg.timer > 0) : msg ∈ ks := by
  induction h with
  | nil => cases hm
  | kept _ _ hsame _ ih =>
      rcases List.mem_cons.mp hm with rfl | hm
      · rw [hsame hleft]
        exact List.mem_cons_self
      · exact List.mem_cons_of_mem _ (ih hm hleft)
  | permitted hover _ ih =>
      rcases List.mem_cons.mp hm with rfl | hm
      · omega
      · exact ih hm hleft

lemma Ticks.left (h : Ticks v v') {msg : TURNMessage} (hm : msg ∈ v.pendingPermissions)
    (hleft : stunTimerRemainder v.clock msg.timer > 0) : msg ∈ v'.pendingPermissions := by
  induction h with
  | refl => exact hm
  | tail ht hs ih =>
      obtain ⟨w, ks, hp, rfl⟩ := hs
      have hc := (Ticks.keeps ht).clock
      exact hp.left ih (hc ▸ hleft)

/-- A peer for which a request is sent off. -/
lemma Held.ask {msgs : List TURNMessage} (h : Held v msgs) {msg : TURNMessage}
    (hperm : peer ∉ v.permissions) (hsent : ¬privIsPeerInList v.sentPermissions peer)
    (hplain : unscoped peer = peer) (hm : IsRequest v peer msg) :
    Served ((v.ask peer).withPending (msgs ++ [msg])) := by
  have hnot : peer ∉ v.sentPermissions := by simpa [privIsPeerInList] using hsent
  have hpeer : msg.peer = peer := hm.peer.trans hplain
  have hnew : peer ∉ msgs.map (·.peer) := fun hmem => hnot (h.sent.mem_iff.mpr hmem)
  simp only [PermissionView.ask, if_neg hsent, PermissionView.withPending, Served]
  refine ⟨?_, ?_, fun m hmem => ?_, fun p hp => ?_,
    fun p hp => List.mem_append_left _ (h.waiting p hp)⟩
  · simp only [List.map_append, List.map_cons, List.map_nil, hpeer]
    exact List.nodup_append'.mpr ⟨h.nodup, List.nodup_singleton _, by simpa using hnew⟩
  · simp only [List.map_append, List.map_cons, List.map_nil, hpeer]
    exact h.sent.append_right _
  · rcases List.mem_append.mp hmem with hmem | hmem
    · exact h.requests m hmem
    · rw [List.mem_singleton.mp hmem, hpeer]
      exact ⟨hplain, hm.method⟩
  · rcases List.mem_append.mp hp with hp | hp
    · exact h.apart p hp
    · exact List.mem_singleton.mp hp ▸ hperm

/-- A request that is sent off again. -/
lemma Held.resend {pre post : List TURNMessage} {m msg : TURNMessage}
    (h : Held v (pre ++ m :: post)) (hm : IsRequest v m.peer msg) :
    Served ((v.ask m.peer).withPending (pre ++ post ++ [msg])) := by
  have hmem : m ∈ pre ++ m :: post := by simp
  have hsent : privIsPeerInList v.sentPermissions m.peer := by
    have hs := h.sent.mem_iff.mpr (List.mem_map_of_mem (f := (·.peer)) hmem)
    simpa [privIsPeerInList] using hs
  have hpeer : msg.peer = m.peer := hm.peer.trans (h.requests m hmem).1
  have hperm : ((pre ++ m :: post).map (·.peer)).Perm ((pre ++ post ++ [msg]).map (·.peer)) := by
    simp only [List.map_append, List.map_cons, List.map_nil, hpeer, List.append_assoc]
    exact List.Perm.append_left _ (List.perm_append_singleton _ _).symm
  simp only [PermissionView.ask, if_pos hsent, PermissionView.withPending, Served]
  refine ⟨hperm.nodup_iff.mp h.nodup, h.sent.trans hperm, fun m' hm' => ?_, h.apart, h.waiting⟩
  simp only [List.append_assoc, List.mem_append, List.mem_singleton] at hm'
  rcases hm' with hm' | hm' | rfl
  · exact h.requests m' (by simp [hm'])
  · exact h.requests m' (by simp [hm'])
  · rw [hpeer, hm.method]
    exact ⟨(h.requests m hmem).1, rfl⟩

/-! ### Steps -/

/-- The permissions with data for `peer` that were handed to the base socket. -/
def PermissionView.hand (v : PermissionView) (peer : NiceAddress) (data : Bytes) :
    PermissionView :=
  { v with handed := Function.update v.handed peer (v.handed peer ++ [data]) }

/-- The permissions with data for `peer` that wait. -/
def PermissionView.enqueue (v : PermissionView) (peer : NiceAddress) (data : SendData) :
    PermissionView :=
  { v with
    sendDataQueues := Function.update v.sendDataQueues peer (v.sendDataQueues peer ++ [data]) }

/-- A permission for `peer` is asked for, unless that has been done. -/
inductive Asked (bad : Prop) (v : PermissionView) (peer : NiceAddress) : PermissionView → Prop
  | already (hsent : privIsPeerInList v.sentPermissions peer) : Asked bad v peer v
  | built {v' : PermissionView} (msg : TURNMessage)
      (hsent : ¬privIsPeerInList v.sentPermissions peer) (hplain : unscoped peer = peer ∨ bad)
      (hm : IsRequest v peer msg)
      (h : Ticks ((v.ask peer).withPending (v.pendingPermissions ++ [msg])) v') :
      Asked bad v peer v'
  | unbuilt (hbad : bad) : Asked bad v peer (v.ask peer)

/-- What a step does to the permissions: `accepted` are the data of the application
that are accepted in it. -/
inductive PermissionStep (bad : Prop) (v : PermissionView) :
    PermissionView → Option (NiceAddress × Bytes) → Prop
  | ticks {v' : PermissionView} (h : Ticks v v') : PermissionStep bad v v' none
  | permitted (pre post : List TURNMessage) (m : TURNMessage)
      (hp : v.pendingPermissions = pre ++ m :: post) :
      PermissionStep bad v ((v.permit m.peer).withPending (pre ++ post)) none
  | resent {v' : PermissionView} (pre post : List TURNMessage) (m msg : TURNMessage)
      (hp : v.pendingPermissions = pre ++ m :: post) (hm : IsRequest v m.peer msg)
      (h : Ticks ((v.ask m.peer).withPending (pre ++ post ++ [msg])) v') :
      PermissionStep bad v v' none
  | unsent (pre post : List TURNMessage) (m : TURNMessage) (hbad : bad) :
      PermissionStep bad v ((v.ask m.peer).withPending (pre ++ post)) none
  | asked {v' : PermissionView} (peer : NiceAddress) (hperm : peer ∉ v.permissions)
      (h : Asked bad v peer v') :
      PermissionStep bad v v' none
  | handed (peer : NiceAddress) (data : Bytes) (hperm : peer ∈ v.permissions) :
      PermissionStep bad v (v.hand peer data) (some (peer, data))
  | waits {v' : PermissionView} (peer : NiceAddress) (data : SendData)
      (hperm : peer ∉ v.permissions) (h : Asked bad v peer v') :
      PermissionStep bad v (v'.enqueue peer data) (some (peer, data.datagram.data))
  | expired : PermissionStep bad v { v with permissions := [] } none

/-- The data for `peer` among what was accepted. -/
def dataFor (peer : NiceAddress) (accepted : Option (NiceAddress × Bytes)) : List Bytes :=
  ((accepted.filter fun a => a.1 = peer).map (·.2)).toList

section Steps

variable {bad : Prop} {accepted : Option (NiceAddress × Bytes)}

lemma Asked.keeps (h : Asked bad v peer v') : Keeps v v' := by
  cases h with
  | already => exact .refl v
  | built msg _ _ _ h =>
      exact (keeps_ask v peer).trans ((keeps_withPending _ _).trans (Ticks.keeps h))
  | unbuilt => exact keeps_ask v peer

/-- The permissions do not grow where a permission is only asked for. -/
lemma Asked.served (h : Asked bad v peer v') (hperm : peer ∉ v.permissions) (hbad : ¬bad)
    (hv : Served v) : Served v' ∧ peer ∈ v'.sentPermissions := by
  cases h with
  | already hsent => exact ⟨hv, by simpa [privIsPeerInList] using hsent⟩
  | built msg hsent hplain hm h =>
      have hplain' := hplain.resolve_right hbad
      have hs := Ticks.served h (Held.ask hv hperm hsent hplain' hm)
      refine ⟨hs, hs.sent.mem_iff.mpr ?_⟩
      have hmem : msg ∈ v'.pendingPermissions := by
        refine Ticks.left h (List.mem_append_right _ (List.mem_singleton_self _)) ?_
        rw [show ((v.ask peer).withPending (v.pendingPermissions ++ [msg])).clock = v.clock from
          (keeps_ask v peer).clock]
        exact hm.left
      have hpeer : msg.peer = peer := hm.peer.trans hplain'
      exact hpeer ▸ List.mem_map_of_mem hmem
  | unbuilt h => exact absurd h hbad

/-- **Each step keeps the requests of the peers that wait**, if it is not a bad one. -/
theorem PermissionStep.served (h : PermissionStep bad v v' accepted) (hbad : ¬bad)
    (hv : Served v) : Served v' := by
  cases h with
  | ticks h => exact h.served hv
  | permitted pre post m hp =>
      have hh : Held v (pre ++ m :: post) := hp ▸ hv
      have hk := hh.permit
      exact ⟨hk.nodup, hk.sent, hk.requests, hk.apart, hk.waiting⟩
  | resent pre post m msg hp hm h =>
      have hh : Held v (pre ++ m :: post) := hp ▸ hv
      exact h.served (hh.resend hm)
  | unsent _ _ _ h => exact absurd h hbad
  | asked peer hperm h => exact (h.served hperm hbad hv).1
  | handed => exact ⟨hv.nodup, hv.sent, hv.requests, hv.apart, hv.waiting⟩
  | waits peer data hperm h =>
      obtain ⟨hs, hmem⟩ := h.served hperm hbad hv
      refine ⟨hs.nodup, hs.sent, hs.requests, hs.apart, fun p hp => ?_⟩
      by_cases he : p = peer
      · exact he ▸ hmem
      · simp only [PermissionView.enqueue, Function.update_of_ne he] at hp
        exact hs.waiting p hp
  | expired => exact ⟨hv.nodup, hv.sent, hv.requests, fun _ _ => List.not_mem_nil, hv.waiting⟩

/-- Data for the peers come to what they were and what was accepted, and what the
messages depend on stays. -/
structure Grows (v v' : PermissionView) (accepted : Option (NiceAddress × Bytes)) : Prop where
  outgoing : ∀ p, v'.outgoing p = v.outgoing p ++ dataFor p accepted
  compatibility : v'.compatibility = v.compatibility
  config : v'.config = v.config

lemma Keeps.grows (h : Keeps v v') : Grows v v' none :=
  ⟨fun p => by rw [h.outgoing]; exact (List.append_nil _).symm, h.compatibility, h.config⟩

lemma dataFor_self (peer : NiceAddress) (data : Bytes) :
    dataFor peer (some (peer, data)) = [data] := by
  simp [dataFor, Option.filter]

lemma dataFor_ne {p : NiceAddress} (h : p ≠ peer) (data : Bytes) :
    dataFor p (some (peer, data)) = [] := by
  simp [dataFor, Option.filter, Ne.symm h]

/-- **Each step adds the accepted data at the end.** -/
theorem PermissionStep.grows (h : PermissionStep bad v v' accepted) (hv : Served v) :
    Grows v v' accepted := by
  cases h with
  | ticks h => exact h.keeps.grows
  | permitted pre post m hp => exact ((keeps_permit v m.peer).trans (keeps_withPending _ _)).grows
  | resent pre post m msg hp hm h =>
      exact (((keeps_ask v m.peer).trans (keeps_withPending _ _)).trans h.keeps).grows
  | unsent pre post m => exact ((keeps_ask v m.peer).trans (keeps_withPending _ _)).grows
  | asked peer _ h => exact h.keeps.grows
  | handed peer data hperm =>
      -- nothing waits for a peer with a permission
      have hempty : v.sendDataQueues peer = [] := by
        by_contra hne
        exact hv.apart peer (hv.waiting peer hne) hperm
      refine ⟨fun p => ?_, rfl, rfl⟩
      simp only [PermissionView.outgoing, PermissionView.hand]
      by_cases he : p = peer
      · subst he
        simp only [hempty, Function.update_self, List.map_nil, List.append_nil, dataFor_self]
      · simp only [Function.update_of_ne he, dataFor_ne he, List.append_nil]
  | @waits w peer data _ h =>
      have hk := h.keeps
      refine ⟨fun p => ?_, hk.compatibility, hk.config⟩
      rw [← hk.outgoing p]
      simp only [PermissionView.outgoing, PermissionView.enqueue]
      by_cases he : p = peer
      · subst he
        simp only [Function.update_self, List.map_append, List.map_cons, List.map_nil,
          dataFor_self, List.append_assoc]
      · simp only [Function.update_of_ne he, dataFor_ne he, List.append_nil]
  | expired => exact ⟨fun p => (List.append_nil _).symm, rfl, rfl⟩

end Steps

/-! ### Events -/

section Events

variable {s : UdpTurnPriv} {bad : Prop} {msg : ReceivedMessage}

lemma asked_createPermission (hsent : ¬privIsPeerInList s.sentPermissions peer)
    (hbad : unscoped peer ≠ peer ∨ ¬CanRequest s none peer → bad) :
    Asked bad (permissionView s) peer (permissionView (createPermission env s none peer)) := by
  rcases @permissionView_createPermission env s none peer with
    ⟨m, hm, ht⟩ | ⟨hcan, hv⟩
  · refine .built m hsent ?_ hm ht
    by_cases hplain : unscoped peer = peer
    · exact .inl hplain
    · exact .inr (hbad (.inl hplain))
  · rw [hv]
    exact .unbuilt (hbad (.inr hcan))

lemma asked_ensurePermission
    (hbad : ¬privIsPeerInList s.sentPermissions peer →
      unscoped peer ≠ peer ∨ ¬CanRequest s none peer → bad) :
    Asked bad (permissionView s) peer (permissionView (ensurePermission env s peer)) := by
  simp only [ensurePermission]
  split_ifs with hsent
  · exact .already hsent
  · exact asked_createPermission hsent (hbad hsent)

lemma ask_withPending (msgs : List TURNMessage) :
    (v.withPending msgs).ask peer = (v.ask peer).withPending msgs := by
  by_cases h : privIsPeerInList v.sentPermissions peer
  · have h' : privIsPeerInList (v.withPending msgs).sentPermissions peer := h
    rw [PermissionView.ask, PermissionView.ask, if_pos h, if_pos h']
  · have h' : ¬privIsPeerInList (v.withPending msgs).sentPermissions peer := h
    rw [PermissionView.ask, PermissionView.ask, if_neg h, if_neg h']
    rfl

lemma permissionStep_parseCreatePermission
    (hbad : ∀ request ∈ s.pendingPermissions, request.id = msg.id → msg.cls = .error →
      unauthorized request msg → ¬CanRequest s (some msg) request.peer → bad) :
    PermissionStep bad (permissionView s) (permissionView (parseCreatePermission env s msg))
      none := by
  simp only [parseCreatePermission]
  cases hf : s.pendingPermissions.find? fun request => request.id = msg.id with
  | none => exact .ticks .refl
  | some request =>
      have hfound := List.find?_some hf
      have hid : request.id = msg.id := of_decide_eq_true hfound
      have hmem := List.mem_of_find?_eq_some hf
      obtain ⟨pre, post, hl, he⟩ := find_split hf
      simp only [he]
      split_ifs with hun
      · rcases @permissionView_createPermission env (s.withPending (pre ++ post))
            (some msg) request.peer with ⟨m, hm, ht⟩ | ⟨hcan, hv⟩
        · refine .resent pre post request m hl ⟨hm.peer, hm.method, hm.left⟩ ?_
          have hw : permissionView (s.withPending (pre ++ post)) =
              (permissionView s).withPending (pre ++ post) := rfl
          rw [hw, ask_withPending] at ht
          exact ht
        · have hw : permissionView (s.withPending (pre ++ post)) =
              (permissionView s).withPending (pre ++ post) := rfl
          rw [hv, hw, ask_withPending]
          exact .unsent pre post request (hbad request hmem hid hun.1 hun.2 hcan)
      · have hv : permissionView (startPermissionTimer s msg) = permissionView s := by
          simp only [startPermissionTimer]
          split_ifs <;> rfl
        have hw : permissionView ((permitPeer env (startPermissionTimer s msg)
            request.peer).withPending (pre ++ post)) =
              ((permissionView s).permit request.peer).withPending (pre ++ post) := by
          rw [← hv, ← @permissionView_permitPeer env]
          rfl
        rw [hw]
        exact .permitted pre post request hl

lemma permissionStep_parseIndData (len : ℕ) (buf : Bytes) (recvFrom : NiceAddress)
    (hbad : ∀ sender data, msg.remoteAddress = some sender → msg.data = some data →
      ¬privIsPeerInList s.permissions (unscoped sender) →
      ¬privIsPeerInList s.sentPermissions (unscoped sender) →
      ¬CanRequest s none (unscoped sender) → bad) :
    PermissionStep bad (permissionView s)
      (permissionView (parseIndData env s msg len buf recvFrom).1) none := by
  simp only [parseIndData]
  cases hr : msg.remoteAddress with
  | none => exact .ticks .refl
  | some sender =>
      cases hd : msg.data with
      | none => exact .ticks .refl
      | some data =>
          simp only
          split_ifs with hperm
          · refine .asked (unscoped sender) ?_ (asked_ensurePermission fun hsent hno => ?_)
            · have hnot : unscoped sender ∉ s.permissions := by
                simpa [privIsPeerInList] using hperm.2
              exact hnot
            · exact hbad sender data hr hd hperm.2 hsent (hno.resolve_left fun hne => hne rfl)
          · exact .ticks .refl

lemma ticks_msnGoogleLock :
    Ticks (permissionView s) (permissionView (msnGoogleLock env s)) := by
  simp only [msnGoogleLock]
  cases s.currentBinding with
  | none => exact .refl
  | some b =>
      exact @ticks_privProcessPendingBindings env { s with channels := [b], currentBinding := none }

lemma ticks_parseSend : Ticks (permissionView s) (permissionView (parseSend env s msg)) := by
  simp only [parseSend]
  split_ifs
  · exact @ticks_msnGoogleLock env
      { s with sendRequests := s.sendRequests.eraseP fun r => r.id = msg.id }
  · exact .refl
  · exact .refl

lemma ticks_parseSetActiveDst :
    Ticks (permissionView s) (permissionView (parseSetActiveDst env s msg)) := by
  simp only [parseSetActiveDst]
  split
  · split_ifs
    · exact @ticks_msnGoogleLock env { s with currentBindingMsg := none }
    · exact .refl
    · exact .refl
  · exact .refl

lemma ticks_parseChannelBind :
    Ticks (permissionView s) (permissionView (parseChannelBind env s msg)) := by
  simp only [parseChannelBind]
  cases s.currentBindingMsg with
  | none => exact .refl
  | some request =>
      simp only
      by_cases hid : request.id = msg.id
      · rw [if_pos hid]
        cases msg.cls with
        | request => exact .refl
        | indication => exact .refl
        | error =>
            simp only
            split_ifs
            · cases requestedBinding s request with
              | none => exact .refl
              | some b =>
                  exact @ticks_privSendChannelBind env { s with currentBindingMsg := none }
                    (some msg) b.peer
            · exact @ticks_privProcessPendingBindings env
                { s with currentBinding := none, currentBindingMsg := none }
        | response =>
            have hv : permissionView (grantBinding { s with currentBindingMsg := none } request) =
                permissionView s := by
              simp only [grantBinding]
              split <;> rfl
            simp only
            rw [← hv]
            exact ticks_privProcessPendingBindings
      · rw [if_neg hid]

lemma permissionView_validated (status : StunValidationStatus) :
    permissionView (validated s msg status) = permissionView s := by
  have hc : (validateReceived s.agent msg status).1.toStunAgentConfig =
      s.agent.toStunAgentConfig := by
    simp only [validateReceived]
    by_cases hst : status = .notStun ∨ status = .incompleteStun ∨ status = .badRequest
    · rw [if_pos hst]
    by_cases hcls : msg.cls = .response ∨ msg.cls = .error
    · rw [if_neg hst, if_pos hcls]
      split
      · rfl
      · by_cases hsu : status = .success ∨ status = .unknownAttribute
        · rw [if_pos hsu]
          rfl
        · rw [if_neg hsu]
    · rw [if_neg hst, if_neg hcls]
  simp only [permissionView, validated, hc]

end Events

/-! ### Sending -/

/-- The data for a peer without permission are accepted to wait: they fit into a
message. -/
def Waits (s : UdpTurnPriv) (peer : NiceAddress) (data : Bytes) : Prop :=
  ¬privIsPeerInList s.permissions peer ∧
    match s.channels.find? (·.peer = peer) with
    | some _ => data.length + 4 ≤ STUN_MAX_MESSAGE_SIZE
    | none =>
        ((appendLength s.agent.toStunAgentConfig STUN_MAX_MESSAGE_SIZE STUN_MESSAGE_HEADER_LENGTH
          (addressLength peer)).bind fun mlen =>
            appendLength s.agent.toStunAgentConfig STUN_MAX_MESSAGE_SIZE mlen
              data.length).isSome

/-- The agent of an RFC5766 socket. -/
def rfc5766Config : StunAgentConfig := (niceUdpTurnSocketNewAgent .rfc5766).toStunAgentConfig

lemma appendLength_pos {agent : StunAgentConfig} {bufferLen mlen length n : ℕ}
    (h : appendLength agent bufferLen mlen length = some n) : 0 < n := by
  simp only [appendLength] at h
  split_ifs at h
  obtain rfl := Option.some.inj h
  simp only [STUN_ATTRIBUTE_VALUE_POS]
  omega

section Sending

variable {s s' : UdpTurnPriv} {bad : Prop}

/-- A Send indication of an RFC5766 socket is finished: it has no integrity. -/
lemma buildSend_rfc5766 (hc : s.compatibility = .rfc5766)
    (hconfig : s.agent.toStunAgentConfig = rfc5766Config) {data : Bytes} {length : ℕ}
    (h : buildSend env s peer data = some (length, s')) :
    0 < length ∧ s' = { s with transids := s.transids + 1 } ∧
      ((appendLength s.agent.toStunAgentConfig STUN_MAX_MESSAGE_SIZE STUN_MESSAGE_HEADER_LENGTH
        (addressLength peer)).bind fun mlen =>
          appendLength s.agent.toStunAgentConfig STUN_MAX_MESSAGE_SIZE mlen
            data.length).isSome := by
  have hch : s.compatibility.hasChannels := by rw [hc]; rfl
  simp only [buildSend, if_pos hch] at h
  obtain ⟨mlen, hm, hfin⟩ := Option.map_eq_some_iff.mp h
  have hfits := Option.isSome_of_eq_some hm
  obtain ⟨mlen', -, hm⟩ := Option.bind_eq_some_iff.mp hm
  have hlong : s.agent.usageFlags.longTermCredentials = true := by
    have he := congrArg (fun c : StunAgentConfig => c.usageFlags.longTermCredentials) hconfig
    exact he
  have hprint : s.agent.toStunAgentConfig.fingerprinted = false := by
    rw [hconfig]
    rfl
  have hfinish : finishMessage s.agent .indication STUN_IND_SEND (env.transid s.transids)
      s.password mlen false = some (mlen, s.agent) := by
    simp [finishMessage, freeSentId, hlong, finishLengths, hprint]
  rw [hfinish] at hfin
  obtain ⟨rfl, rfl⟩ := Prod.mk.inj hfin
  exact ⟨appendLength_pos hm, rfl, hfits⟩

/-- What is accepted by a SEND for which `ret` is returned. -/
def acceptedData (ret : ℤ) (peer : NiceAddress) (data : Bytes) : Option (NiceAddress × Bytes) :=
  if 0 < ret then some (peer, data) else none

lemma permissionStep_sendOrEnqueue (hans : ∀ n, env.answer n ≤ 1) (hc : s.compatibility = .rfc5766)
    (datagram : Datagram) {length : ℕ} (hlen : 0 < length) (reliable : Bool)
    (hbad : ¬privIsPeerInList s.permissions peer → ¬privIsPeerInList s.sentPermissions peer →
      unscoped peer ≠ peer ∨ ¬CanRequest s none peer → bad) :
    PermissionStep bad (permissionView s)
      (permissionView (sendOrEnqueue env s peer datagram length reliable).1)
      (acceptedData (sendOrEnqueue env s peer datagram length reliable).2 peer
        datagram.data) := by
  simp only [sendOrEnqueue]
  by_cases hperm : s.compatibility = .rfc5766 ∧ ¬privIsPeerInList s.permissions peer
  · have hnot : peer ∉ (permissionView s).permissions := by
      have h : peer ∉ s.permissions := by simpa [privIsPeerInList] using hperm.2
      exact h
    have hret : acceptedData length peer datagram.data = some (peer, datagram.data) :=
      if_pos (by exact_mod_cast hlen)
    simp only [if_pos hperm, hret]
    exact .waits peer { datagram, length, reliable } hnot (asked_ensurePermission (hbad hperm.2))
  · have hin : peer ∈ (permissionView s).permissions := by
      have h : privIsPeerInList s.permissions peer := by
        by_contra hno
        exact hperm ⟨hc, hno⟩
      have h' : peer ∈ s.permissions := by simpa [privIsPeerInList] using h
      exact h'
    have hret : acceptedData length peer datagram.data = some (peer, datagram.data) :=
      if_pos (by exact_mod_cast hlen)
    simp only [if_neg hperm, transmitData]
    by_cases ha : env.answer s.sends = 1
    · simp only [if_pos ha, hret]
      have hv := @permissionView_trace (socketSendWrapped env s length).1
        (.data peer datagram) peer datagram.data fun _ => rfl
      rw [hv]
      exact .handed peer datagram.data hin
    · have hle := hans s.sends
      have hneg : acceptedData (socketSendWrapped env s length).2 peer datagram.data = none := by
        refine if_neg ?_
        simp only [socketSendWrapped, if_neg ha]
        omega
      simp only [if_neg ha, hneg]
      exact .ticks .refl

/-- **Data for a peer.** -/
theorem permissionStep_socketSendMessage (hans : ∀ n, env.answer n ≤ 1)
    (hc : s.compatibility = .rfc5766) (hconfig : s.agent.toStunAgentConfig = rfc5766Config)
    (data : Bytes) (reliable : Bool)
    (hbad : Waits s peer data → ¬privIsPeerInList s.sentPermissions peer →
      unscoped peer ≠ peer ∨ ¬CanRequest s none peer → bad) :
    PermissionStep bad (permissionView s)
      (permissionView (socketSendMessage env s peer data reliable).1)
      (acceptedData (socketSendMessage env s peer data reliable).2 peer data) := by
  have hch : s.compatibility.hasChannels := by rw [hc]; rfl
  simp only [socketSendMessage]
  cases hf : s.channels.find? (·.peer = peer) with
  | some binding =>
      simp only [if_pos hch]
      by_cases hfit : data.length + 4 ≤ STUN_MAX_MESSAGE_SIZE
      · simp only [if_pos hfit]
        refine permissionStep_sendOrEnqueue hans hc (.channelData binding.channel data)
          (Nat.succ_pos _) reliable fun hperm => hbad ⟨hperm, ?_⟩
        rw [hf]
        exact hfit
      · simp only [if_neg hfit]
        exact .ticks .refl
  | none =>
      cases hb : buildSend env s peer data with
      | none => exact .ticks .refl
      | some built =>
          obtain ⟨length, t⟩ := built
          obtain ⟨hpos, rfl, hfits⟩ := buildSend_rfc5766 hc hconfig hb
          obtain ⟨n, rfl⟩ : ∃ n, length = n + 1 := ⟨length - 1, by omega⟩
          simp only [if_pos hch]
          refine @permissionStep_sendOrEnqueue env peer { s with transids := s.transids + 1 } bad
            hans hc (.sendIndication (unscoped peer) data) _ (Nat.succ_pos n) reliable
            fun hperm => hbad ⟨hperm, ?_⟩
          rw [hf]
          exact hfits

end Sending

/-! ### Runs -/

/-- The events at which a peer that waits for a permission is left without a request:
the request for it cannot be built, at first or again after an answer, or the peer has
a scope, which the request does not keep. -/
def Unserved (s : UdpTurnPriv) : Event → Prop
  | .sendMessage peer data _ =>
      Waits s peer data ∧ ¬privIsPeerInList s.sentPermissions peer ∧
        (unscoped peer ≠ peer ∨ ¬CanRequest s none peer)
  | .recv _ _ recvFrom msg status =>
      Accepted s recvFrom msg status ∧
        ((msg.method = STUN_CREATEPERMISSION ∧ msg.cls = .error ∧
            ∃ request ∈ s.pendingPermissions, request.id = msg.id ∧ unauthorized request msg ∧
              ¬CanRequest (validated s msg status) (some msg) request.peer) ∨
          (msg.method = STUN_IND_DATA ∧ msg.cls = .indication ∧
            ∃ sender, msg.remoteAddress = some sender ∧ msg.data.isSome ∧
              ¬privIsPeerInList s.permissions (unscoped sender) ∧
              ¬privIsPeerInList s.sentPermissions (unscoped sender) ∧
              ¬CanRequest (validated s msg status) none (unscoped sender)))
  | _ => False

/-- What is accepted in a step. -/
def Label.accepted (l : Label) : Option (NiceAddress × Bytes) :=
  match l.event with
  | .sendMessage peer data _ => acceptedData l.ret peer data
  | _ => none

section Runs

variable {s s' : UdpTurnPriv}

lemma permissionStep_parseRecv (hc : s.compatibility = .rfc5766) (len : ℕ) (buf : Bytes)
    (recvFrom : NiceAddress) (msg : ReceivedMessage) (status : StunValidationStatus) :
    PermissionStep (Unserved s (.recv len buf recvFrom msg status)) (permissionView s)
      (permissionView (parseRecv env s len buf recvFrom msg status).1) none := by
  have hch : s.compatibility.hasChannels := by rw [hc]; rfl
  have hv := @permissionView_validated s msg status
  simp only [parseRecv]
  by_cases hfrom : recvFrom = s.serverAddr
  · simp only [if_pos hfrom]
    by_cases hvalid : (validateReceived s.agent msg status).2 = .success
    · have hacc : Accepted s recvFrom msg status := ⟨hfrom, hvalid, .inl hch⟩
      have hno : ¬(¬(validated s msg status).compatibility.hasChannels ∧
          msg.magicCookie ≠ some TURN_MAGIC_COOKIE) := fun h => h.1 hch
      simp only [if_pos hvalid, parseMessage, if_neg hno]
      rw [← hv]
      split_ifs with hsend hdst hbind hperm hdata
      · exact .ticks ticks_parseSend
      · exact .ticks ticks_parseSetActiveDst
      · exact .ticks ticks_parseChannelBind
      · exact permissionStep_parseCreatePermission fun request hmem hid hcls hun hcan =>
          ⟨hacc, .inl ⟨hperm, hcls, request, hmem, hid, hun, hcan⟩⟩
      · exact permissionStep_parseIndData _ _ _ fun sender data hr hd hp hs hcan =>
          ⟨hacc, .inr ⟨hdata.2, hdata.1, sender, hr, by rw [hd]; rfl, hp, hs, hcan⟩⟩
      · exact .ticks .refl
    · simp only [if_neg hvalid]
      rw [← hv]
      exact .ticks .refl
  · simp only [if_neg hfrom]
    exact .ticks .refl

/-- **What a step of the socket does to its permissions.** -/
theorem step_permissions (hans : ∀ n, env.answer n ≤ 1) (hc : s.compatibility = .rfc5766)
    (hconfig : s.agent.toStunAgentConfig = rfc5766Config) {l : Label} (h : Step env s l s') :
    PermissionStep (Unserved s l.event) { permissionView s with clock := l.now }
      (permissionView s') l.accepted := by
  obtain ⟨-, h⟩ := h
  have hv : ({ permissionView s with clock := l.now } : PermissionView) =
      permissionView { s with clock := l.now } := rfl
  obtain ⟨rfl, hret⟩ := Prod.ext_iff.mp h
  rw [hv]
  simp only [Label.accepted]
  cases he : l.event with
  | setPeer peer => exact .ticks (@ticks_privAddChannelBinding env { s with clock := l.now } peer)
  | sendMessage peer data reliable =>
      simp only [he, handle] at hret ⊢
      rw [← hret]
      exact @permissionStep_socketSendMessage env peer { s with clock := l.now } _ hans hc hconfig
        data reliable fun hw hs hno => ⟨hw, hs, hno⟩
  | recv len buf recvFrom msg status =>
      exact @permissionStep_parseRecv env { s with clock := l.now } hc len buf recvFrom msg status
  | retransmissionsTick =>
      simp only [handle, privRetransmissionsTick]
      have ht := @ticks_privRetransmissionsTickUnlocked env { s with clock := l.now }
      generalize privRetransmissionsTickUnlocked env { s with clock := l.now } = r at ht ⊢
      obtain ⟨t, ret⟩ := r
      cases ret <;> exact .ticks ht
  | createPermissionTick => exact .ticks (@ticks_privScheduleTick env { s with clock := l.now })
  | bindingTimeout source =>
      simp only [handle, privBindingTimeout]
      split
      · exact .ticks .refl
      · next b _ =>
          split_ifs
          · exact .ticks (@ticks_privSendChannelBind env { s with
              clock := l.now
              sources := s.sources + 1
              channels := updateFirst (fun b => b.timeoutSource =
                some { id := source, function := .bindingTimeout }) (·.expiring s.sources)
                s.channels } none b.peer)
          · exact .ticks .refl
  | bindingExpiredTimeout source =>
      simp only [handle, privBindingExpiredTimeout]
      split
      · exact .ticks .refl
      · next b _ =>
          have ht := @ticks_privAddChannelBinding env { s with
            clock := l.now
            channels := s.channels.eraseP fun b =>
              b.timeoutSource = some { id := source, function := .bindingExpiredTimeout } } b.peer
          split
          · split_ifs
            · exact .ticks .refl
            · exact .ticks ht
          · exact .ticks ht
  | permissionTimeout => exact .expired
  | forgetSendRequest source =>
      simp only [handle, privForgetSendRequest]
      split
      · exact .ticks .refl
      · simp only [permissionView, forget_config]
        exact .ticks .refl
  | setMsRealm realm =>
      simp only [handle, setMsRealm]
      split_ifs <;> exact .ticks .refl
  | setMsConnectionId length =>
      simp only [handle, setMsConnectionId]
      split_ifs <;> exact .ticks .refl

/-- The data for `peer` that were accepted in a run. -/
def acceptedFor (peer : NiceAddress) (ls : List Label) : List Bytes :=
  ls.flatMap fun l => dataFor peer l.accepted

lemma served_run {start : UdpTurnPriv} {ls : List Label} (hans : ∀ n, env.answer n ≤ 1)
    (hc : start.compatibility = .rfc5766)
    (hconfig : start.agent.toStunAgentConfig = rfc5766Config)
    (hs : Served (permissionView start))
    (h : Run (fun t l u => ¬Unserved t l.event ∧ Step env t l u) start ls s) :
    (s.compatibility = .rfc5766 ∧ s.agent.toStunAgentConfig = rfc5766Config) ∧
      Served (permissionView s) ∧
      ∀ p, (permissionView s).outgoing p =
        (permissionView start).outgoing p ++ acceptedFor p ls := by
  induction h with
  | nil => exact ⟨⟨hc, hconfig⟩, hs, fun p => (List.append_nil _).symm⟩
  | @snoc ls t u l _ hstep ih =>
      obtain ⟨⟨htc, htconfig⟩, hts, hto⟩ := ih
      have hp := step_permissions hans htc htconfig hstep.2
      have hts' : Served { permissionView t with clock := l.now } :=
        ⟨hts.nodup, hts.sent, hts.requests, hts.apart, hts.waiting⟩
      have hg := hp.grows hts'
      refine ⟨⟨hg.compatibility.trans htc, hg.config.trans htconfig⟩, hp.served hstep.1 hts',
        fun p => ?_⟩
      have ho : (permissionView u).outgoing p =
          (permissionView t).outgoing p ++ dataFor p l.accepted := hg.outgoing p
      rw [ho, hto p, acceptedFor, acceptedFor, List.flatMap_append, List.flatMap_singleton,
        List.append_assoc]

/-- What was handed over was taken where nothing was refused. -/
lemma handed_eq_taken (trace : List Trace) (peer : NiceAddress)
    (h : ∀ datagram, .lost peer datagram ∉ trace) :
    trace.filterMap (Trace.handed peer) = trace.filterMap (Trace.taken peer) := by
  refine List.filterMap_congr fun note hnote => ?_
  cases note with
  | data p datagram => rfl
  | newBinding => rfl
  | lost p datagram =>
      simp only [Trace.handed, Trace.taken]
      by_cases hp : p = peer
      · exact absurd hnote (hp ▸ h datagram)
      · rw [if_neg hp]

end Runs

/-- A link-local address, with the scope that it is valid in. -/
def scopedPeer : NiceAddress :=
  { ip6 := true, ip := [0xfe, 0x80, 0, 0, 0, 0, 0, 0, 0, 0, 0, 0, 0, 0, 0, 1], port := 3478
    scopeId := 2 }

/-- Data for a link-local peer, and the answer to the CreatePermission request. -/
def scopedEvents : List (Timeval × Event) :=
  atOnce [.sendMessage scopedPeer [1] false, sampleAnswer .response STUN_CREATEPERMISSION 1 none]

end LibNice.UdpTurn
