import LibNice.Socket.UdpTurn.BindingRuns

/-!
The channel numbers of a UDP-TURN socket.

* `Unambiguous`: the channel numbers of some bindings are distinct and in their
  range, and their peers are distinct.
* `Clear`: what makes the search for a channel number find a number that is free,
  for a peer that is not bound.
* `freeChannel_of_clear`: **the search finds a free number when the bindings are
  clear**, and `clear_of_freeChannel` says that it does so only then.
* `bindings_unambiguous`: **the bindings of every run are unambiguous**, as long as
  each request for a new binding finds them clear; `ambiguous_bindings` is a run
  in which one does not.
-/

namespace LibNice.UdpTurn

open LibNice.Foundation LibNice.Stun LibNice.Ice

/-! ### Bindings that can be told apart -/

/-- The bindings of some peers can be told apart. -/
structure Unambiguous (bindings : List ChannelBinding) : Prop where
  channels : (bindings.map (·.channel)).Nodup
  range : ∀ b ∈ bindings, 0x4000 ≤ b.channel ∧ b.channel ≤ 0x7FFF
  peers : (bindings.map (·.peer)).Nodup

variable {bindings bindings' : List ChannelBinding}

lemma unambiguous_nil : Unambiguous [] := ⟨.nil, by simp, .nil⟩

lemma Unambiguous.sublist (h : Unambiguous bindings) (hs : bindings'.Sublist bindings) :
    Unambiguous bindings' where
  channels := h.channels.sublist (hs.map _)
  range b hb := h.range b (hs.subset hb)
  peers := h.peers.sublist (hs.map _)

lemma Unambiguous.perm (h : Unambiguous bindings) (hp : bindings.Perm bindings') :
    Unambiguous bindings' where
  channels := (hp.map _).nodup_iff.mp h.channels
  range b hb := h.range b (hp.mem_iff.mpr hb)
  peers := (hp.map _).nodup_iff.mp h.peers

/-- Only the peers and the numbers count. -/
lemma Unambiguous.congr (h : Unambiguous bindings)
    (hk : bindings'.map ChannelBinding.key = bindings.map ChannelBinding.key) :
    Unambiguous bindings' := by
  have hpeer : bindings'.map (·.peer) = bindings.map (·.peer) := by
    have h' := congrArg (List.map Prod.fst) hk
    rwa [List.map_map, List.map_map] at h'
  have hchannel : bindings'.map (·.channel) = bindings.map (·.channel) := by
    have h' := congrArg (List.map Prod.snd) hk
    rwa [List.map_map, List.map_map] at h'
  refine ⟨hchannel ▸ h.channels, fun b hb => ?_, hpeer ▸ h.peers⟩
  have hb' : b.channel ∈ bindings.map (·.channel) :=
    hchannel ▸ List.mem_map_of_mem (f := fun b => b.channel) hb
  obtain ⟨b', hb', he⟩ := List.mem_map.mp hb'
  exact he ▸ h.range b' hb'

lemma Unambiguous.add {peer : NiceAddress} {channel : UInt16} (h : Unambiguous bindings)
    (hp : ∀ b ∈ bindings, b.peer ≠ peer) (hc : ∀ b ∈ bindings, b.channel ≠ channel)
    (hr : 0x4000 ≤ channel ∧ channel ≤ 0x7FFF) :
    Unambiguous (bindings ++ [newChannelBinding peer channel]) where
  channels := by
    simp only [List.map_append, List.map_cons, List.map_nil, newChannelBinding]
    exact List.nodup_append.mpr ⟨h.channels, List.nodup_singleton _, by simpa using hc⟩
  range b hb := by
    rcases List.mem_append.mp hb with hb | hb
    · exact h.range b hb
    · obtain rfl := List.mem_singleton.mp hb
      exact hr
  peers := by
    simp only [List.map_append, List.map_cons, List.map_nil, newChannelBinding]
    exact List.nodup_append.mpr ⟨h.peers, List.nodup_singleton _, by simpa using hp⟩

/-! ### The search for a number -/

/-- A request for a binding of `peer` finds the bindings clear: the peer is not
bound, and a number of the range is free that the search gets to before the
number of the first entry, which it does not look at again after it has started
over. -/
def Clear (channels : List ChannelBinding) (peer : NiceAddress) : Prop :=
  (∀ b ∈ channels, b.peer ≠ peer) ∧
    ∃ c : UInt16, 0x4000 ≤ c ∧ c ≤ 0x7FFF ∧ (∀ b ∈ channels, b.channel ≠ c) ∧
      ∀ b ∈ channels.head?, b.channel ≠ 0x4000 → c < b.channel

/-- Where the search for a number ends, from `channel` on and below a number `c`
that is free: each number on the way is that of an entry, after the first one of
an entry behind the head of the list. -/
lemma freeChannelLoop_spec (channels : List ChannelBinding) {c : UInt16}
    (hc : ∀ b ∈ channels, b.channel ≠ c) (n : ℕ) {i : List ChannelBinding} {channel : UInt16}
    (hi : i ⊆ channels) (hle : channel.toNat ≤ c.toNat) :
    (freeChannelLoop channels n i channel).toNat ≤ c.toNat ∧
      (∀ k, channel.toNat ≤ k → k < (freeChannelLoop channels n i channel).toNat →
        ∃ b ∈ if k = channel.toNat then i else channels.tail, b.channel.toNat = k) ∧
      ((freeChannelLoop channels n i channel).toNat = channel.toNat + n ∨
        freeChannelLoop channels n i channel = channel ∧ (∀ b ∈ i, b.channel ≠ channel) ∨
        channel.toNat < (freeChannelLoop channels n i channel).toNat ∧
          ∀ b ∈ channels.tail, b.channel ≠ freeChannelLoop channels n i channel) := by
  induction n generalizing i channel with
  | zero => exact ⟨hle, fun k h h' => absurd h (by simpa [freeChannelLoop] using h'), .inl rfl⟩
  | succ n ih =>
      simp only [freeChannelLoop]
      by_cases ha : (i.any fun b => channel = b.channel)
      · rw [if_pos ha]
        obtain ⟨b, hb, he⟩ := List.any_eq_true.mp ha
        have he' : b.channel = channel := (of_decide_eq_true he).symm
        have hne : channel.toNat ≠ c.toNat := fun h =>
          hc b (hi hb) (he'.trans (UInt16.toNat_inj.mp h))
        have hlt : c.toNat < 65536 := c.toNat_lt
        have hsucc : (channel + 1).toNat = channel.toNat + 1 := by
          rw [UInt16.toNat_add]
          have hone : (1 : UInt16).toNat = 1 := rfl
          omega
        obtain ⟨hr, hk, hend⟩ := @ih channels.tail (channel + 1) (List.tail_subset _)
          (by omega)
        refine ⟨hr, fun k h h' => ?_, ?_⟩
        · by_cases hkc : k = channel.toNat
          · rw [if_pos hkc]
            exact ⟨b, hb, by rw [he', hkc]⟩
          · rw [if_neg hkc]
            have hk' := hk k (by omega) h'
            rwa [ite_self] at hk'
        · rcases hend with h | ⟨h, hfree⟩ | ⟨h, hfree⟩
          · exact .inl (by omega)
          · exact .inr (.inr ⟨by rw [h]; omega, by rw [h]; exact hfree⟩)
          · exact .inr (.inr ⟨by omega, hfree⟩)
      · rw [if_neg ha]
        refine ⟨hle, fun k h h' => absurd h (by omega), .inr (.inl ⟨rfl, fun b hb he => ha ?_⟩)⟩
        exact List.any_eq_true.mpr ⟨b, hb, decide_eq_true he.symm⟩

/-- The search starts over at most once for each entry. -/
lemma length_of_taken {channels : List ChannelBinding} {start r : ℕ}
    (h : ∀ k, start ≤ k → k < r → ∃ b ∈ channels, b.channel.toNat = k) :
    r - start ≤ channels.length := by
  have hsub : Finset.Ico start r ⊆ (channels.map fun b => b.channel.toNat).toFinset := by
    intro k hk
    obtain ⟨hk, hk'⟩ := Finset.mem_Ico.mp hk
    obtain ⟨b, hb, he⟩ := h k hk hk'
    exact List.mem_toFinset.mpr (List.mem_map.mpr ⟨b, hb, he⟩)
  calc r - start = (Finset.Ico start r).card := (Nat.card_Ico start r).symm
    _ ≤ (channels.map fun b => b.channel.toNat).toFinset.card := Finset.card_le_card hsub
    _ ≤ (channels.map fun b => b.channel.toNat).length := List.toFinset_card_le _
    _ = channels.length := List.length_map _

/-- What the search finds, while a number `c` is free. -/
lemma freeChannel_spec {channels : List ChannelBinding} {c : UInt16} (hc : 0x4000 ≤ c)
    (hfree : ∀ b ∈ channels, b.channel ≠ c) :
    freeChannel channels ≤ c ∧
      (∀ k, 0x4000 < k → k < (freeChannel channels).toNat →
        ∃ b ∈ channels.tail, b.channel.toNat = k) ∧
      (freeChannel channels = 0x4000 ∧ (∀ b ∈ channels, b.channel ≠ 0x4000) ∨
        0x4000 < freeChannel channels ∧
          ∀ b ∈ channels.tail, b.channel ≠ freeChannel channels) := by
  have hstart : (0x4000 : UInt16).toNat = 0x4000 := rfl
  have hc' : (0x4000 : UInt16).toNat ≤ c.toNat := UInt16.le_iff_toNat_le.mp hc
  obtain ⟨hr, hk, hend⟩ := freeChannelLoop_spec channels hfree (channels.length + 1)
    (List.Subset.refl channels) hc'
  refine ⟨UInt16.le_iff_toNat_le.mpr hr, fun k h h' => ?_, ?_⟩
  · have hk' := hk k (by omega) h'
    rwa [if_neg (by omega)] at hk'
  · have hlen := @length_of_taken channels _ _ fun k h h' => by
      obtain ⟨b, hb, he⟩ := hk k h h'
      refine ⟨b, ?_, he⟩
      split_ifs at hb
      · exact hb
      · exact List.mem_of_mem_tail hb
    rcases hend with h | ⟨h, hn⟩ | ⟨h, hn⟩
    · omega
    · exact .inl ⟨h, hn⟩
    · exact .inr ⟨UInt16.lt_iff_toNat_lt.mpr h, hn⟩

/-- **The search finds a free number of the range when the bindings are clear.** -/
theorem freeChannel_of_clear {channels : List ChannelBinding} {peer : NiceAddress}
    (h : Clear channels peer) :
    (0x4000 ≤ freeChannel channels ∧ freeChannel channels ≤ 0x7FFF) ∧
      ∀ b ∈ channels, b.channel ≠ freeChannel channels := by
  obtain ⟨-, c, hlow, hhigh, hfree, hhead⟩ := h
  obtain ⟨hle, -, hend⟩ := freeChannel_spec hlow hfree
  have hhigh' : freeChannel channels ≤ 0x7FFF := UInt16.le_trans hle hhigh
  rcases hend with ⟨he, hn⟩ | ⟨hlt, hn⟩
  · rw [he]
    exact ⟨⟨by decide, by decide⟩, hn⟩
  · refine ⟨⟨UInt16.le_of_lt hlt, hhigh'⟩, ?_⟩
    cases channels with
    | nil => simp
    | cons first rest =>
        intro b hb
        rcases List.mem_cons.mp hb with rfl | hb
        · intro he
          by_cases hf : b.channel = 0x4000
          · rw [← he, hf] at hlt
            exact absurd hlt (by decide)
          · have hbc := UInt16.lt_of_le_of_lt hle (hhead b rfl hf)
            rw [he] at hbc
            exact absurd hbc (UInt16.lt_irrefl _)
        · exact hn b hb

/-- **The search finds a free number of the range only then**, when the numbers of
the entries are distinct and in their range. -/
theorem clear_of_freeChannel {channels : List ChannelBinding} {peer : NiceAddress}
    (hd : Unambiguous channels) (hp : ∀ b ∈ channels, b.peer ≠ peer)
    (hr : 0x4000 ≤ freeChannel channels ∧ freeChannel channels ≤ 0x7FFF)
    (hf : ∀ b ∈ channels, b.channel ≠ freeChannel channels) : Clear channels peer := by
  refine ⟨hp, freeChannel channels, hr.1, hr.2, hf, fun first hfirst hne => ?_⟩
  obtain ⟨rest, rfl⟩ : ∃ rest, channels = first :: rest := by
    cases channels with
    | nil => cases hfirst
    | cons b rest => exact ⟨rest, by rw [Option.some.inj hfirst]⟩
  obtain ⟨-, hk, -⟩ := freeChannel_spec hr.1 hf
  have hne' : first.channel.toNat ≠ 0x4000 := fun h => hne (UInt16.toNat_inj.mp h)
  have hlow := UInt16.le_iff_toNat_le.mp (hd.range first (List.mem_cons_self ..)).1
  have hstart : (0x4000 : UInt16).toNat = 0x4000 := rfl
  rcases Nat.lt_trichotomy (freeChannel (first :: rest)).toNat first.channel.toNat with h | h | h
  · exact UInt16.lt_iff_toNat_lt.mpr h
  · exact absurd (UInt16.toNat_inj.mp h).symm (hf first (List.mem_cons_self ..))
  · obtain ⟨b, hb, he⟩ := hk _ (by omega) h
    have hnodup := (List.nodup_cons.mp hd.channels).1
    exact absurd (List.mem_map.mpr ⟨b, hb, UInt16.toNat_inj.mp he⟩) hnodup

/-! ### Runs -/

variable {env : Env} {s s' : UdpTurnPriv} {v v' : BindingView} {bad late : Prop}

/-- The bindings that the server has granted, and the one that is being
requested. -/
def Bindings.bound (b : Bindings) : List ChannelBinding := b.channels ++ b.currentBinding.toList

/-- If every request for a new binding has found the bindings clear, they can be
told apart. -/
def Sound (v : BindingView) : Prop :=
  (∀ r ∈ v.requests, Clear r.1 r.2) → Unambiguous v.bound

lemma Sound.of_requests (h : Sound v) (hr : v'.requests = v.requests)
    (hb : Unambiguous v.bound → Unambiguous v'.bound) : Sound v' :=
  fun hv => hb (h fun r hm => hv r (hr ▸ hm))

/-- The bindings without the one that is being requested. -/
lemma Sound.dropped (h : Sound v) (tick : Bool) : Sound (v.dropped tick) :=
  h.of_requests rfl fun hu => hu.sublist (by simp [Bindings.bound, BindingView.dropped])

lemma sound_request {peer : NiceAddress} {msg : TURNMessage} (h : Sound v)
    (hs : v.compatibility.hasChannels) (hc : v.currentBinding = none) :
    Sound (v.request peer msg) := by
  rw [request_channel hs]
  intro hr
  have hu : Unambiguous v.bound := h fun r hm => hr r (List.mem_append_left _ hm)
  have hclear : Clear v.channels peer := hr (v.channels, peer) (by simp)
  obtain ⟨hrange, hfree⟩ := freeChannel_of_clear hclear
  have hbound : v.bound = v.channels := by simp [Bindings.bound, hc]
  rw [hbound] at hu
  exact hu.add hclear.1 hfree hrange

lemma Requested.sound {peer : NiceAddress} {r : Bool} (h : Requested v peer v' r) (hv : Sound v)
    (hs : v.compatibility.hasChannels) : Sound v' := by
  cases h with
  | waits _ => exact hv
  | refused _ => exact hv
  | sent msg hc _ => exact sound_request hv hs hc

lemma Processed.sound (h : Processed v v') (hv : Sound v) (hs : v.compatibility.hasChannels)
    (hc : v.currentBinding = none) : Sound v' := by
  cases h with
  | idle => exact hv
  | renewed msg _ _ => exact hv
  | requested pre peer rest msg _ _ =>
      exact sound_request (v := { v with pendingBindings := rest }) hv hs hc

/-- **A step keeps the bindings apart**, if its requests find them clear. -/
theorem BindingStep.sound (h : BindingStep bad late v v') (hv : Sound v)
    (hs : v.compatibility.hasChannels) : Sound v' := by
  have hticked : ∀ w, Ticked v w → Sound w := by
    intro w h
    cases h with
    | none => exact hv
    | kept => exact hv
    | timedOut _ tick _ h => exact h.sound (hv.dropped tick) hs rfl
  cases h with
  | same => exact hv
  | ticked _ h => exact hticked _ h
  | stopped w h _ => exact hticked w h
  | requested _ _ _ h => exact h.sound hv hs
  | active b _ hc h =>
      refine h.sound (hv.of_requests rfl fun hu => hu.sublist ?_) hs rfl
      simp [Bindings.bound, hc]
  | inactive => exact hv.dropped v.tick
  | resent => exact hv
  | unsent => exact hv
  | refused _ h => exact h.sound (hv.dropped v.tick) hs rfl
  | granted b b' _ hc hk h =>
      refine h.sound (hv.of_requests rfl fun hu => hu.congr ?_) hs rfl
      simp [Bindings.bound, hc, hk]
  | refreshed channels _ hc hk h =>
      refine h.sound (hv.of_requests rfl fun hu => hu.congr ?_) hs rfl
      simp [Bindings.bound, hc, hk]
  | renewal channels hk =>
      refine hv.of_requests rfl fun hu => hu.congr ?_
      simp [Bindings.bound, hk]
  | renewed channels msg _ hk =>
      refine hv.of_requests rfl fun hu => hu.congr ?_
      simp [Bindings.bound, BindingView.inFlight, hk]
  | expired pre post b hl hc _ =>
      refine hv.of_requests rfl fun hu => hu.perm ?_
      simp only [Bindings.bound, hl, hc, Option.toList_none, Option.toList_some, List.append_nil]
      exact List.perm_middle.trans (List.perm_append_singleton b (pre ++ post)).symm
  | requestedAgain pre post b _ _ hl h =>
      refine h.sound (hv.of_requests rfl fun hu => hu.sublist ?_) hs
      simp [Bindings.bound, hl]

/-- What is kept in every run. -/
lemma sound_run {ls : List Label} (hs : s.compatibility.hasChannels) (h : Sound (bindingView s))
    (hrun : Run (Step env) s ls s') :
    s'.compatibility.hasChannels ∧ Sound (bindingView s') := by
  refine hrun.invariant (I := fun t => t.compatibility.hasChannels ∧ Sound (bindingView t))
    ⟨hs, h⟩ ?_
  rintro t l u ⟨ht, htv⟩ hstep
  have hg : t.compatibility ≠ .google := by
    intro hg
    rw [hg] at ht
    cases ht
  exact ⟨step_compatibility hg hstep ▸ ht, (step_bindings hg hstep).sound htv ht⟩

lemma mem_newBindings {trace : List Trace} {r : List ChannelBinding × NiceAddress} :
    r ∈ newBindings trace ↔ .newBinding r.1 r.2 ∈ trace := by
  simp only [newBindings, List.mem_filterMap]
  constructor
  · rintro ⟨t, ht, he⟩
    cases t with
    | newBinding channels peer =>
        obtain rfl := Option.some.inj he
        exact ht
    | data => cases he
    | lost => cases he
  · exact fun h => ⟨_, h, rfl⟩

/-- Bindings that can be told apart are told apart. -/
lemma recvChannel_sender (hs : s.compatibility.hasChannels) (hu : Unambiguous s.channels)
    {b : ChannelBinding} (hb : b ∈ s.channels) (len : ℕ) {buf : Bytes} (recvFrom : NiceAddress)
    (hbuf : ntohs buf = b.channel) : (recvChannel s len buf recvFrom).sender = some b.peer := by
  simp only [recvChannel, hs, if_true]
  cases hf : s.channels.find? fun b => b.channel = ntohs buf with
  | none =>
      have hne := List.find?_eq_none.mp hf b hb
      exact absurd (decide_eq_true hbuf.symm) hne
  | some b' =>
      have hb' := List.mem_of_find?_eq_some hf
      have hc := List.find?_some hf
      replace hc : b'.channel = b.channel := (of_decide_eq_true hc).trans hbuf
      rw [List.inj_on_of_nodup_map hu.channels hb' hb hc]

/-- **The channel numbers and the peers of the bindings are distinct, and the numbers
are in their range**, so that ChannelData are attributed to the peer with their
number, as long as each request for a new binding finds the bindings clear. -/
theorem bindings_unambiguous (env : Env) (serverAddr : NiceAddress) (baseReliable : Bool)
    (username password : Bytes) (compatibility : NiceTurnSocketCompatibility)
    (hs : compatibility = .rfc5766 ∨ compatibility = .draft9) (ls : List Label) (s : UdpTurnPriv)
    (h : Run (Step env)
      (niceUdpTurnSocketNew serverAddr baseReliable username password compatibility) ls s)
    (hclear : ∀ channels peer, .newBinding channels peer ∈ s.trace → Clear channels peer) :
    Unambiguous s.bound ∧
      ∀ b ∈ s.channels, ∀ len buf recvFrom, ntohs buf = b.channel →
        (recvChannel s len buf recvFrom).sender = some b.peer := by
  have hch : compatibility.hasChannels := by rcases hs with rfl | rfl <;> rfl
  obtain ⟨hs', hsound⟩ := sound_run (s := niceUdpTurnSocketNew serverAddr baseReliable
    username password compatibility) hch (fun _ => unambiguous_nil) h
  have hu : Unambiguous s.bound := hsound fun r hr => hclear _ _ (mem_newBindings.mp hr)
  refine ⟨hu, fun b hb len buf recvFrom hbuf => ?_⟩
  exact recvChannel_sender hs' (hu.sublist (List.sublist_append_left _ _)) hb len recvFrom hbuf

/-- The same peer is bound twice. -/
def repeatedEvents : List (Timeval × Event) :=
  atOnce [.setPeer (samplePeer 1), sampleAnswer .response STUN_CHANNELBIND 0 none,
    .setPeer (samplePeer 1)]

/-- **The peer that is bound twice has two channels.** -/
theorem ambiguous_bindings :
    ¬∀ ls s, Run (Step sampleEnv) (sampleSocket .rfc5766) ls s → Unambiguous s.bound := by
  intro h
  have hrun : Possible sampleEnv (fun _ _ => True) (sampleSocket .rfc5766) repeatedEvents :=
    ⟨rfl, trivial, rfl, trivial, rfl, trivial, trivial⟩
  have hp := (h _ _ (hrun.run.mono fun _ _ _ hs => hs.2)).peers
  revert hp
  decide +kernel

/-- Two peers are bound, one after the other. -/
def distinctEvents : List (Timeval × Event) :=
  atOnce [.setPeer (samplePeer 1), sampleAnswer .response STUN_CHANNELBIND 0 none,
    .setPeer (samplePeer 2)]

/-- The case in which two peers are bound. -/
theorem bindings_unambiguous_sample :
    Unambiguous (runEvents sampleEnv (sampleSocket .rfc5766) distinctEvents).bound := by
  have hrun : Possible sampleEnv (fun _ _ => True) (sampleSocket .rfc5766) distinctEvents :=
    ⟨rfl, trivial, rfl, trivial, rfl, trivial, trivial⟩
  have htrace : (runEvents sampleEnv (sampleSocket .rfc5766) distinctEvents).trace =
      [.newBinding [] (samplePeer 1),
        .newBinding [(newChannelBinding (samplePeer 1) 0x4000).granted 0] (samplePeer 2)] := by
    decide +kernel
  refine (bindings_unambiguous sampleEnv (samplePeer 0) false [117] [112] .rfc5766 (.inl rfl) _ _
    (hrun.run.mono fun _ _ _ hs => hs.2) fun channels peer hmem => ?_).1
  rw [htrace] at hmem
  simp only [List.mem_cons, Trace.newBinding.injEq, List.not_mem_nil, or_false] at hmem
  rcases hmem with ⟨rfl, rfl⟩ | ⟨rfl, rfl⟩
  · exact ⟨by simp, 0x4000, by decide, by decide, by simp, by simp⟩
  · exact ⟨by decide, 0x4001, by decide, by decide, by decide, by decide⟩

end LibNice.UdpTurn
