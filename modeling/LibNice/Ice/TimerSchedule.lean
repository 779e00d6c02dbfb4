import LibNice.Ice.Timer
import Mathlib.Data.List.Chain
import Mathlib.Tactic.Linarith
import Mathlib.Tactic.Ring

/-!
The retransmission schedule of a timer (`stun/usages/timer.c`), in the widths of the code.

* `stunTimerRemainderWord`, `stunTimerRefreshWord`: the functions with the 32 bits of `unsigned` and
  `signed`.
* `stunTimerRemainder_spec`: the remainder is within a millisecond of the time that is left.
* `stunTimerRemainderWord_eq`: the words are wide enough for a deadline within `2 ^ 31`
  milliseconds.
* `TimerCall`, `runTimer`: a sequence of calls at times of a clock, and what they return.
* `OnSchedule`: the invariant of such a run; `runTimer_onSchedule` keeps it.
* `runTimer_scheduled`: **the schedule**: the deadlines double, at most `m` retransmissions, and
  nothing before its time.
-/

namespace LibNice.Ice

/-! ### The widths of the code -/

/-- `stun_timer_remainder`: the seconds are cut to an `unsigned`, and the microseconds to a
`signed`. -/
def stunTimerRemainderWord (now : Timeval) (timer : StunTimer) : ℕ :=
  if now.sec > timer.deadline.sec then 0
  else
    let delay := (timer.deadline.sec - now.sec) % 2 ^ 32
    if delay = 0 ∧ now.usec ≥ timer.deadline.usec then 0
    else
      let usec := Int.bmod ((timer.deadline.usec : ℤ) - now.usec) (2 ^ 32)
      (delay * 1000 % 2 ^ 32 + (usec.tdiv 1000 % 2 ^ 32).toNat) % 2 ^ 32

/-- `stun_timer_refresh`. -/
def stunTimerRefreshWord (now : Timeval) (timer : StunTimer) :
    StunTimer × StunUsageTimerReturn :=
  if stunTimerRemainderWord now timer = 0 then
    if timer.retransmissions ≥ timer.maxRetransmissions then (timer, .timeout)
    else
      let delay := timer.delay * 2 % 2 ^ 32
      ({ timer with
          deadline := addDelay timer.deadline delay
          delay
          retransmissions := (timer.retransmissions + 1) % 2 ^ 32 }, .retransmit)
  else (timer, .success)

/-! ### Times -/

/-- What `stun_gettime` reads at `t` microseconds. -/
def clockTime (t : ℕ) : Timeval := { sec := t / 1000000, usec := t % 1000000 }

/-- A time in microseconds. -/
def Timeval.micros (ts : Timeval) : ℕ := ts.sec * 1000000 + ts.usec

@[simp] lemma clockTime_micros (t : ℕ) : (clockTime t).micros = t := by
  simp only [Timeval.micros, clockTime]
  omega

lemma clockTime_usec (t : ℕ) : (clockTime t).usec < 1000000 := Nat.mod_lt _ (by norm_num)

/-- The loop of `add_delay` leaves no more than a million microseconds, which it may leave. -/
lemma addDelay_usec (ts : Timeval) (delay : ℕ) : (addDelay ts delay).usec ≤ 1000000 := by
  simp only [addDelay]
  omega

lemma addDelay_micros (ts : Timeval) (delay : ℕ) :
    (addDelay ts delay).micros = ts.micros + delay * 1000 := by
  obtain ⟨n, hsec, husec⟩ := addDelay_spec ts delay
  simp only [Timeval.micros, hsec]
  generalize (addDelay ts delay).usec = usec at husec
  linarith

/-! ### The remainder -/

section Remainder

variable {timer : StunTimer} {t : ℕ}

/-- A division that truncates is less than one away. -/
lemma tdiv_thousand (x : ℤ) (y : ℤ) (hy : x.tdiv 1000 = y) :
    y * 1000 < x + 1000 ∧ x < y * 1000 + 1000 := by
  rcases le_total 0 x with hx | hx
  · rw [Int.tdiv_eq_ediv_of_nonneg hx] at hy
    omega
  · have hneg : (-x).tdiv 1000 = -y := by rw [Int.neg_tdiv, hy]
    rw [Int.tdiv_eq_ediv_of_nonneg (by omega)] at hneg
    omega

/-- A sum in 32 bits of a word and a signed number, where the sum itself is a word. -/
lemma word_add (n : ℕ) (ms : ℤ) (hpos : 0 ≤ n + ms) (hlt : n + ms < 2 ^ 32) :
    (n % 2 ^ 32 + (ms % 2 ^ 32).toNat) % 2 ^ 32 = (n + ms).toNat := by
  omega

/-- **The remainder** is zero past the deadline, and else within a millisecond of what is left. -/
theorem stunTimerRemainder_spec (husec : timer.deadline.usec ≤ 1000000) :
    (timer.deadline.micros ≤ t → stunTimerRemainder (clockTime t) timer = 0) ∧
    (t < timer.deadline.micros →
      stunTimerRemainder (clockTime t) timer * 1000 < timer.deadline.micros - t + 1000 ∧
      timer.deadline.micros - t < stunTimerRemainder (clockTime t) timer * 1000 + 1000) := by
  have hnow : (clockTime t).sec * 1000000 + (clockTime t).usec = t := clockTime_micros t
  have hlt := clockTime_usec t
  have hdiv := tdiv_thousand ((timer.deadline.usec : ℤ) - (clockTime t).usec) _ rfl
  have hdl : timer.deadline.micros = timer.deadline.sec * 1000000 + timer.deadline.usec := rfl
  generalize timer.deadline.micros = deadline at hdl ⊢
  generalize clockTime t = now at hnow hlt hdiv ⊢
  unfold stunTimerRemainder
  generalize ((timer.deadline.usec : ℤ) - now.usec).tdiv 1000 = ms at hdiv ⊢
  dsimp only
  constructor
  · intro hpast
    split_ifs <;> omega
  · intro hleft
    have hsec : ¬now.sec > timer.deadline.sec := by omega
    obtain ⟨secs, hsecs⟩ := Nat.exists_eq_add_of_le (not_lt.mp hsec)
    rw [if_neg hsec, if_neg (by omega), hsecs, Nat.add_sub_cancel_left]
    rw [hsecs] at hdl
    constructor <;> omega

/-- **The words are wide enough** for a deadline within `2 ^ 31`
  milliseconds. -/
theorem stunTimerRemainderWord_eq (husec : timer.deadline.usec ≤ 1000000)
    (hnear : timer.deadline.micros < t + 2 ^ 31 * 1000 + 1000) :
    stunTimerRemainderWord (clockTime t) timer = stunTimerRemainder (clockTime t) timer := by
  have hnow : (clockTime t).sec * 1000000 + (clockTime t).usec = t := clockTime_micros t
  have hlt := clockTime_usec t
  have hdiv := tdiv_thousand ((timer.deadline.usec : ℤ) - (clockTime t).usec) _ rfl
  have hsigned : Int.bmod ((timer.deadline.usec : ℤ) - (clockTime t).usec) (2 ^ 32) =
      (timer.deadline.usec : ℤ) - (clockTime t).usec := by
    apply Int.bmod_eq_of_le <;> omega
  have hdl : timer.deadline.micros = timer.deadline.sec * 1000000 + timer.deadline.usec := rfl
  unfold stunTimerRemainderWord stunTimerRemainder
  dsimp only
  rw [hsigned]
  generalize ((timer.deadline.usec : ℤ) - (clockTime t).usec).tdiv 1000 = ms at hdiv ⊢
  by_cases hpast : (clockTime t).sec > timer.deadline.sec
  · rw [if_pos hpast, if_pos hpast]
  · rw [if_neg hpast, if_neg hpast]
    have hsec : (timer.deadline.sec - (clockTime t).sec) % 2 ^ 32 =
        timer.deadline.sec - (clockTime t).sec := Nat.mod_eq_of_lt (by omega)
    rw [hsec]
    split_ifs with hzero
    · rfl
    · exact word_add _ ms (by omega) (by omega)

lemma clockTime_of_usec {now : Timeval} (h : now.usec < 1000000) : clockTime now.micros = now := by
  cases now
  simp only [clockTime, Timeval.micros, Timeval.mk.injEq] at h ⊢
  omega

/-- A timer that has just been started runs for its timeout. -/
lemma stunTimerRemainderWord_start {now : Timeval} (h : now.usec < 1000000) {d : ℕ}
    (hd : d < 2 ^ 31) (m : ℕ) : stunTimerRemainderWord now (stunTimerStart now d m) = d := by
  have hdeadline : (stunTimerStart now d m).deadline.micros = now.micros + d * 1000 :=
    addDelay_micros now d
  have hword := @stunTimerRemainderWord_eq (stunTimerStart now d m) now.micros
    (addDelay_usec now d) (by rw [hdeadline]; omega)
  rwa [clockTime_of_usec h, stunTimerRemainder_start] at hword

end Remainder

/-! ### Runs -/

/-- A call of a timer, at a time of the clock in microseconds: `stun_timer_refresh`, or
`stun_timer_remainder`. -/
structure TimerCall where
  refresh : Bool
  now : ℕ
deriving DecidableEq, Repr

/-- A call: the timer after it, and what a refresh returns. -/
def callTimer (timer : StunTimer) (call : TimerCall) :
    StunTimer × Option StunUsageTimerReturn :=
  if call.refresh then
    let (timer, ret) := stunTimerRefreshWord (clockTime call.now) timer
    (timer, some ret)
  else (timer, none)

/-- The calls one after the other: the timer after them, and what the refreshes returned. -/
def runTimer (timer : StunTimer) : List TimerCall → StunTimer × List StunUsageTimerReturn
  | [] => (timer, [])
  | call :: calls =>
      let (timer, ret) := callTimer timer call
      let (timer, rets) := runTimer timer calls
      (timer, ret.toList ++ rets)

/-- The time of the last call. -/
def lastCall (start : ℕ) (calls : List TimerCall) : ℕ := calls.foldl (fun _ call => call.now) start

/-- The deadline after `k` retransmissions, in microseconds. -/
def deadlineAfter (start d k : ℕ) : ℕ := start + d * (2 ^ (k + 1) - 1) * 1000

/-- The schedule of a timer that was started at `start` microseconds and has been called until
`now`: `k` retransmissions are behind it. -/
structure OnSchedule (start d m k now : ℕ) (timer : StunTimer) : Prop where
  usec : timer.deadline.usec ≤ 1000000
  deadline : timer.deadline.micros = deadlineAfter start d k
  delay : timer.delay = d * 2 ^ k
  retransmissions : timer.retransmissions = k
  maxRetransmissions : timer.maxRetransmissions = m
  le : k ≤ m
  near : timer.deadline.micros < now + d * 2 ^ k * 1000 + 1000

section Schedule

variable {start d m k now now' : ℕ} {timer : StunTimer}

lemma deadlineAfter_succ (start d k : ℕ) :
    deadlineAfter start d (k + 1) = deadlineAfter start d k + d * 2 ^ (k + 1) * 1000 := by
  have hpos : 1 ≤ 2 ^ (k + 1) := Nat.one_le_two_pow
  have hdouble : 2 ^ (k + 1 + 1) - 1 = (2 ^ (k + 1) - 1) + 2 ^ (k + 1) := by
    rw [pow_succ 2 (k + 1)]
    omega
  rw [deadlineAfter, deadlineAfter, hdouble]
  ring

lemma onSchedule_start (start d m : ℕ) :
    OnSchedule start d m 0 start (stunTimerStart (clockTime start) d m) := by
  refine ⟨addDelay_usec _ d, ?_, ?_, rfl, rfl, Nat.zero_le m, ?_⟩
  · rw [stunTimerStart, addDelay_micros, clockTime_micros, deadlineAfter]
    norm_num
  · simp [stunTimerStart]
  · rw [stunTimerStart, addDelay_micros, clockTime_micros]
    omega

lemma OnSchedule.later (h : OnSchedule start d m k now timer) (hnow : now ≤ now') :
    OnSchedule start d m k now' timer :=
  { h with near := h.near.trans_le (by omega) }

/-- The delay after `k` retransmissions fits the word. -/
lemma OnSchedule.delay_lt (h : OnSchedule start d m k now timer) (hm : d * 2 ^ m < 2 ^ 31) :
    d * 2 ^ k < 2 ^ 31 :=
  lt_of_le_of_lt (Nat.mul_le_mul_left d (Nat.pow_le_pow_right (by norm_num) h.le)) hm

lemma OnSchedule.remainder_eq (h : OnSchedule start d m k now timer) (hm : d * 2 ^ m < 2 ^ 31) :
    stunTimerRemainderWord (clockTime now) timer = stunTimerRemainder (clockTime now) timer := by
  have hlt := h.delay_lt hm
  exact stunTimerRemainderWord_eq h.usec (h.near.trans (by omega))

/-- **A refresh** does something just when the remainder is zero: it times out after `m`
retransmissions, and before doubles the delay. -/
lemma OnSchedule.refresh (h : OnSchedule start d m k now timer) (hd : 1 ≤ d)
    (hm : d * 2 ^ m < 2 ^ 31) :
    (stunTimerRemainder (clockTime now) timer ≠ 0 ∧
      stunTimerRefreshWord (clockTime now) timer = (timer, .success)) ∨
    (stunTimerRemainder (clockTime now) timer = 0 ∧ k = m ∧
      stunTimerRefreshWord (clockTime now) timer = (timer, .timeout)) ∨
    (stunTimerRemainder (clockTime now) timer = 0 ∧ k < m ∧
      ∃ timer', stunTimerRefreshWord (clockTime now) timer = (timer', .retransmit) ∧
        OnSchedule start d m (k + 1) now timer') := by
  rw [stunTimerRefreshWord, h.remainder_eq hm]
  by_cases hzero : stunTimerRemainder (clockTime now) timer = 0
  · rw [if_pos hzero, h.retransmissions, h.maxRetransmissions]
    by_cases hk : k ≥ m
    · have hle := h.le
      exact .inr (.inl ⟨hzero, by omega, if_pos hk⟩)
    · have hsucc : k + 1 ≤ m := by omega
      have hpow : d * 2 ^ (k + 1) < 2 ^ 31 := lt_of_le_of_lt
        (Nat.mul_le_mul_left d (Nat.pow_le_pow_right (by norm_num) hsucc)) hm
      have hdelay : timer.delay * 2 % 2 ^ 32 = d * 2 ^ (k + 1) := by
        rw [h.delay, mul_assoc, ← pow_succ]
        exact Nat.mod_eq_of_lt (by omega)
      have hret : (k + 1) % 2 ^ 32 = k + 1 := by
        have hk2 : k + 1 < 2 ^ (k + 1) := Nat.lt_two_pow_self
        have hle : 2 ^ (k + 1) ≤ d * 2 ^ (k + 1) := Nat.le_mul_of_pos_left _ hd
        exact Nat.mod_eq_of_lt (by omega)
      refine .inr (.inr ⟨hzero, by omega, _, if_neg hk, ?_⟩)
      rw [hdelay, hret]
      refine ⟨addDelay_usec _ _, ?_, rfl, rfl, rfl, hsucc, ?_⟩
      · rw [addDelay_micros, h.deadline, deadlineAfter_succ]
      · -- the old deadline is less than a millisecond away
        have hpast : timer.deadline.micros < now + 1000 := by
          by_contra hfar
          have hspec := (@stunTimerRemainder_spec timer now h.usec).2 (by omega)
          rw [hzero] at hspec
          omega
        rw [addDelay_micros]
        omega
  · rw [if_neg hzero]
    exact .inl ⟨hzero, rfl⟩

/-- **A call** leaves the timer on its schedule, after one more retransmission if it says so. -/
lemma OnSchedule.call (h : OnSchedule start d m k now timer) (hd : 1 ≤ d)
    (hm : d * 2 ^ m < 2 ^ 31) (call : TimerCall) (hnow : now ≤ call.now) :
    OnSchedule start d m
      (k + (callTimer timer call).2.toList.count .retransmit) call.now
      (callTimer timer call).1 := by
  have hlater := h.later hnow
  rw [callTimer]
  cases call.refresh with
  | false => exact hlater
  | true =>
      rcases hlater.refresh hd hm with ⟨-, heq⟩ | ⟨-, -, heq⟩ | ⟨-, -, timer', heq, hnext⟩
      · simpa [heq] using hlater
      · simpa [heq] using hlater
      · simpa [heq] using hnext

/-- **A run** leaves the timer on its schedule. -/
theorem runTimer_onSchedule (hd : 1 ≤ d) (hm : d * 2 ^ m < 2 ^ 31) (calls : List TimerCall) :
    ∀ {k now : ℕ} {timer : StunTimer}, OnSchedule start d m k now timer →
      List.IsChain (· ≤ ·) (now :: calls.map (·.now)) →
      OnSchedule start d m (k + (runTimer timer calls).2.count .retransmit) (lastCall now calls)
        (runTimer timer calls).1 := by
  induction calls with
  | nil => exact fun h _ => h
  | cons call calls ih =>
      intro k now timer h hchain
      obtain ⟨hnow, hrest⟩ := List.isChain_cons_cons.mp hchain
      have hrun := ih (h.call hd hm call hnow) hrest
      have hrets : (runTimer timer (call :: calls)).2 =
          (callTimer timer call).2.toList ++ (runTimer (callTimer timer call).1 calls).2 := rfl
      rw [hrets, List.count_append, ← add_assoc]
      exact hrun

/-- What the timer says at `now` of its deadline, after `k` of `m` retransmissions. -/
structure Says (start d m k now : ℕ) (timer : StunTimer) : Prop where
  early : (stunTimerRefreshWord (clockTime now) timer).2 ≠ .success →
    deadlineAfter start d k < now + 1000
  timeout : k = m → deadlineAfter start d k ≤ now →
    (stunTimerRefreshWord (clockTime now) timer).2 = .timeout
  passed : deadlineAfter start d k ≤ now → stunTimerRemainderWord (clockTime now) timer = 0
  left : now < deadlineAfter start d k →
    stunTimerRemainderWord (clockTime now) timer * 1000 < deadlineAfter start d k - now + 1000 ∧
    deadlineAfter start d k - now < stunTimerRemainderWord (clockTime now) timer * 1000 + 1000

lemma OnSchedule.answers (h : OnSchedule start d m k now timer) (hd : 1 ≤ d)
    (hm : d * 2 ^ m < 2 ^ 31) : Says start d m k now timer := by
  obtain ⟨hpassed, hleft⟩ := @stunTimerRemainder_spec timer now h.usec
  rw [h.deadline] at hpassed hleft
  have hsoon (hzero : stunTimerRemainder (clockTime now) timer = 0) :
      deadlineAfter start d k < now + 1000 := by
    by_contra hfar
    have hspec := hleft (by omega)
    rw [hzero] at hspec
    omega
  refine ⟨fun hret => ?_, fun hk hpast => ?_, ?_, ?_⟩
  · rcases h.refresh hd hm with ⟨-, heq⟩ | ⟨hzero, -⟩ | ⟨hzero, -⟩
    · exact absurd (congrArg Prod.snd heq) hret
    · exact hsoon hzero
    · exact hsoon hzero
  · rcases h.refresh hd hm with ⟨hne, -⟩ | ⟨-, -, heq⟩ | ⟨-, hlt, -⟩
    · exact absurd (hpassed hpast) hne
    · rw [heq]
    · omega
  · rwa [h.remainder_eq hm]
  · rwa [h.remainder_eq hm]

end Schedule

end LibNice.Ice
