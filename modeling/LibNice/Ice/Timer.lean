import LibNice.Ice.Types

/-!
`stun/usages/timer.c`: retransmission timers.

* `Timeval`, `addDelay`: times as the system has them, in seconds and
  microseconds.
* `StunTimer`, `stunTimerStart`, `stunTimerRemainder`, `stunTimerRefresh`: a
  timer and its operations, given what `stun_gettime` says.
* `stunTimerRemainder_start`: a timer that has just been started runs for its
  timeout.
* `StunTimer.left`: how often a timer can still be refreshed.
-/

namespace LibNice.Ice

/-- `STUN_TIMER_DEFAULT_TIMEOUT`, in milliseconds. -/
def STUN_TIMER_DEFAULT_TIMEOUT : ℕ := 600

/-- `STUN_TIMER_DEFAULT_MAX_RETRANSMISSIONS`. -/
def STUN_TIMER_DEFAULT_MAX_RETRANSMISSIONS : ℕ := 3

/-- `STUN_TIMER_DEFAULT_RELIABLE_TIMEOUT`, in milliseconds. -/
def STUN_TIMER_DEFAULT_RELIABLE_TIMEOUT : ℕ := 7900

/-- A `struct timeval`. -/
structure Timeval where
  sec : ℕ
  usec : ℕ
deriving DecidableEq, Repr

/-- `add_delay`, of `delay` milliseconds.  Its loop carries a million
microseconds over until no more than a million are left. -/
def addDelay (ts : Timeval) (delay : ℕ) : Timeval :=
  let usec := ts.usec + delay % 1000 * 1000
  let carry := (usec - 1) / 1000000
  { sec := ts.sec + delay / 1000 + carry, usec := usec - carry * 1000000 }

/-- A retransmission timer. -/
structure StunTimer where
  deadline : Timeval
  delay : ℕ
  retransmissions : ℕ
  maxRetransmissions : ℕ
deriving DecidableEq, Repr

/-- `stun_timer_start`. -/
def stunTimerStart (now : Timeval) (initialTimeout maxRetransmissions : ℕ) : StunTimer where
  deadline := addDelay now initialTimeout
  delay := initialTimeout
  retransmissions := 0
  maxRetransmissions := maxRetransmissions

/-- `stun_timer_start_reliable`. -/
def stunTimerStartReliable (now : Timeval) (initialTimeout : ℕ) : StunTimer :=
  stunTimerStart now initialTimeout 0

/-- `stun_timer_remainder`, in milliseconds. -/
def stunTimerRemainder (now : Timeval) (timer : StunTimer) : ℕ :=
  if now.sec > timer.deadline.sec then 0
  else
    let delay := timer.deadline.sec - now.sec
    if delay = 0 ∧ now.usec ≥ timer.deadline.usec then 0
    else (delay * 1000 + ((timer.deadline.usec : ℤ) - now.usec).tdiv 1000).toNat

/-- `stun_timer_refresh`. -/
def stunTimerRefresh (now : Timeval) (timer : StunTimer) : StunTimer × StunUsageTimerReturn :=
  if stunTimerRemainder now timer = 0 then
    if timer.retransmissions ≥ timer.maxRetransmissions then (timer, .timeout)
    else
      ({ timer with
          deadline := addDelay timer.deadline (timer.delay * 2)
          delay := timer.delay * 2
          retransmissions := timer.retransmissions + 1 }, .retransmit)
  else (timer, .success)

/-- How often a timer can still be refreshed before it times out. -/
def StunTimer.left (timer : StunTimer) : ℕ := timer.maxRetransmissions - timer.retransmissions

/-! ### Facts about timers -/

/-- The time `delay` milliseconds later, in microseconds. -/
lemma addDelay_spec (ts : Timeval) (delay : ℕ) :
    ∃ n, (addDelay ts delay).sec = ts.sec + n ∧
      n * 1000000 + (addDelay ts delay).usec = ts.usec + delay * 1000 := by
  refine ⟨delay / 1000 + (ts.usec + delay % 1000 * 1000 - 1) / 1000000, ?_, ?_⟩
  · simp only [addDelay, Nat.add_assoc]
  · simp only [addDelay]
    omega

/-- What a timer says whose deadline is whole milliseconds away. -/
lemma stunTimerRemainder_eq {now : Timeval} {timer : StunTimer} {n d : ℕ}
    (hsec : timer.deadline.sec = now.sec + n)
    (hd : n * 1000000 + timer.deadline.usec = now.usec + d * 1000) :
    stunTimerRemainder now timer = d := by
  have hdiff : (timer.deadline.usec : ℤ) - now.usec = ((d : ℤ) - n * 1000) * 1000 := by omega
  have hdiv : ((timer.deadline.usec : ℤ) - now.usec).tdiv 1000 = d - n * 1000 := by
    rw [hdiff, Int.mul_tdiv_cancel _ (by norm_num)]
  simp only [stunTimerRemainder, hsec, hdiv, Nat.add_sub_cancel_left]
  split_ifs <;> omega

/-- **A timer that has just been started runs for its timeout.** -/
theorem stunTimerRemainder_start (now : Timeval) (initialTimeout maxRetransmissions : ℕ) :
    stunTimerRemainder now (stunTimerStart now initialTimeout maxRetransmissions) =
      initialTimeout := by
  obtain ⟨n, hsec, hd⟩ := addDelay_spec now initialTimeout
  exact stunTimerRemainder_eq hsec hd

/-- A timer that is not refreshed in time times out or is started over, for one
refresh less. -/
lemma stunTimerRefresh_cases {now : Timeval} {timer timer' : StunTimer}
    {ret : StunUsageTimerReturn} (h : stunTimerRefresh now timer = (timer', ret)) :
    (stunTimerRemainder now timer ≠ 0 ∧ ret = .success ∧ timer' = timer) ∨
      (stunTimerRemainder now timer = 0 ∧ timer.left = 0 ∧ ret = .timeout ∧ timer' = timer) ∨
      (stunTimerRemainder now timer = 0 ∧ ret = .retransmit ∧ timer'.left + 1 = timer.left) := by
  unfold stunTimerRefresh at h
  by_cases hr : stunTimerRemainder now timer = 0
  · rw [if_pos hr] at h
    by_cases hm : timer.retransmissions ≥ timer.maxRetransmissions
    · rw [if_pos hm] at h
      obtain ⟨rfl, rfl⟩ := Prod.mk.injEq .. ▸ h
      exact .inr (.inl ⟨hr, by simp only [StunTimer.left]; omega, rfl, rfl⟩)
    · rw [if_neg hm] at h
      obtain ⟨rfl, rfl⟩ := Prod.mk.injEq .. ▸ h
      exact .inr (.inr ⟨hr, rfl, by simp only [StunTimer.left]; omega⟩)
  · rw [if_neg hr] at h
    obtain ⟨rfl, rfl⟩ := Prod.mk.injEq .. ▸ h
    exact .inl ⟨hr, rfl, rfl⟩

end LibNice.Ice
