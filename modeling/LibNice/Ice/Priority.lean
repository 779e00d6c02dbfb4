import LibNice.Ice.Types

/-!
`agent/candidate.c`: the priorities of candidates and of candidate pairs.

* `niceCandidateJinglePriority`, `niceCandidateMsnPriority`,
  `niceCandidateIcePriority`, `niceCandidateMsIcePriority`: the priority of a
  candidate, by the compatibility of the agent (`candidatePriority`).
* `niceCandidatePairPriority`: the priority of a pair from the priorities of the
  candidates of the controlling and the controlled agent.
* `niceCandidatePairPriority_toNat`: **the value of a pair priority**; no carry
  leaves the low word.
* `niceCandidatePairPriority_lt_iff`: **pair priorities are ordered
  lexicographically** by the smaller priority, the doubled larger one and the
  tie bit.
-/

namespace LibNice.Ice

open LibNice.Foundation LibNice.Stun

/-! ### Candidates -/

/-- `nice_candidate_jingle_priority`. -/
def niceCandidateJinglePriority (candidate : NiceCandidate) : UInt32 :=
  match candidate.type with
  | .host => 1000
  | .serverReflexive => 900
  | .peerReflexive => 900
  | .relayed => 500

/-- `nice_candidate_msn_priority`. -/
def niceCandidateMsnPriority (candidate : NiceCandidate) : UInt32 :=
  match candidate.type with
  | .host => 830
  | .serverReflexive => 550
  | .peerReflexive => 550
  | .relayed => 450

/-- `nice_candidate_ice_priority_full`. -/
def niceCandidateIcePriorityFull (typePreference localPreference componentId : UInt32) : UInt32 :=
  0x1000000 * typePreference + 0x100 * localPreference + (0x100 - componentId)

/-- `nice_candidate_ice_local_preference_full`. -/
def niceCandidateIceLocalPreferenceFull (directionPreference otherPreference : UInt32) : UInt32 :=
  0x2000 * directionPreference + otherPreference

/-- `nice_candidate_ice_local_preference`. -/
def niceCandidateIceLocalPreference (candidate : NiceCandidate) : UInt32 :=
  match candidate.transport with
  | .tcpActive =>
      niceCandidateIceLocalPreferenceFull (if candidate.type = .serverReflexive then 4 else 6) 1
  | .tcpPassive =>
      niceCandidateIceLocalPreferenceFull (if candidate.type = .serverReflexive then 2 else 4) 1
  | .tcpSo =>
      niceCandidateIceLocalPreferenceFull (if candidate.type = .serverReflexive then 6 else 2) 1
  | .udp => 1

/-- `nice_candidate_ms_ice_local_preference_full`. -/
def niceCandidateMsIceLocalPreferenceFull (transportPreference directionPreference
    otherPreference : UInt32) : UInt32 :=
  0x1000 * transportPreference + 0x200 * directionPreference + 0x1 * otherPreference

/-- `nice_candidate_ms_ice_local_preference`. -/
def niceCandidateMsIceLocalPreference (candidate : NiceCandidate) : UInt32 :=
  match candidate.transport with
  | .tcpSo => niceCandidateMsIceLocalPreferenceFull 6 5 0
  | .tcpActive => niceCandidateMsIceLocalPreferenceFull 6 5 0
  | .tcpPassive => niceCandidateMsIceLocalPreferenceFull 6 2 0
  | .udp => niceCandidateMsIceLocalPreferenceFull 15 0 0

/-- `nice_candidate_ice_type_preference`. -/
def niceCandidateIceTypePreference (candidate : NiceCandidate) (reliable natAssisted : Bool) :
    UInt32 :=
  let typePreference : UInt32 :=
    match candidate.type with
    | .host => 120
    | .peerReflexive => 110
    | .serverReflexive => if natAssisted then 105 else 100
    | .relayed => 10
  if (reliable ∧ candidate.transport = .udp) ∨ (¬reliable ∧ candidate.transport ≠ .udp) then
    typePreference / 2
  else typePreference

/-- `nice_candidate_ice_priority`. -/
def niceCandidateIcePriority (candidate : NiceCandidate) (reliable natAssisted : Bool) : UInt32 :=
  niceCandidateIcePriorityFull (niceCandidateIceTypePreference candidate reliable natAssisted)
    (niceCandidateIceLocalPreference candidate) (UInt32.ofNat candidate.componentId)

/-- `nice_candidate_ms_ice_priority`. -/
def niceCandidateMsIcePriority (candidate : NiceCandidate) (reliable natAssisted : Bool) :
    UInt32 :=
  niceCandidateIcePriorityFull (niceCandidateIceTypePreference candidate reliable natAssisted)
    (niceCandidateMsIceLocalPreference candidate) (UInt32.ofNat candidate.componentId)

/-- The priority that an agent gives a candidate of its own. -/
def candidatePriority (compatibility : NiceCompatibility) (reliable : Bool)
    (candidate : NiceCandidate) (natAssisted : Bool) : UInt32 :=
  match compatibility with
  | .google => niceCandidateJinglePriority candidate
  | .msn | .oc2007 => niceCandidateMsnPriority candidate
  | .oc2007r2 => niceCandidateMsIcePriority candidate reliable natAssisted
  | .rfc5245 | .wlm2009 => niceCandidateIcePriority candidate reliable natAssisted

/-! ### Pairs -/

/-- `nice_candidate_pair_priority`, from the priorities of the candidates of the
controlling and of the controlled agent.  The larger one is doubled in 32
bits. -/
def niceCandidatePairPriority (oPrio aPrio : UInt32) : UInt64 :=
  let max := if oPrio > aPrio then oPrio else aPrio
  let min := if oPrio < aPrio then oPrio else aPrio
  ((1 : UInt64) <<< 32) * min.toUInt64 + (2 * max).toUInt64 + (if oPrio > aPrio then 1 else 0)

/-- The smaller of the two priorities of a pair. -/
def minPrio (o a : UInt32) : ℕ := min o.toNat a.toNat

/-- The larger of the two priorities of a pair, doubled in 32 bits. -/
def maxPrio (o a : UInt32) : ℕ := 2 * max o.toNat a.toNat % 2 ^ 32

/-- The tie bit of a pair: whether the candidate of the controlling agent has
the larger priority. -/
def tieBit (o a : UInt32) : ℕ := if a < o then 1 else 0

lemma minPrio_comm (o a : UInt32) : minPrio o a = minPrio a o := min_comm _ _

lemma maxPrio_comm (o a : UInt32) : maxPrio o a = maxPrio a o := by
  rw [maxPrio, maxPrio, max_comm]

lemma minPrio_lt (o a : UInt32) : minPrio o a < 2 ^ 32 :=
  lt_of_le_of_lt (min_le_left _ _) o.toNat_lt

lemma maxPrio_add_tieBit_lt (o a : UInt32) : maxPrio o a + tieBit o a < 2 ^ 32 := by
  have : maxPrio o a ≤ 2 ^ 32 - 2 := by unfold maxPrio; omega
  have : tieBit o a ≤ 1 := by unfold tieBit; split <;> omega
  omega

/-- **The value of a pair priority.**  The doubled priority and the tie bit never
carry out of the low word. -/
theorem niceCandidatePairPriority_toNat (o a : UInt32) :
    (niceCandidatePairPriority o a).toNat = 2 ^ 32 * minPrio o a + (maxPrio o a + tieBit o a) := by
  have hmin : (if o < a then o else a).toNat = minPrio o a := by
    rw [minPrio]
    split
    case isTrue h => rw [UInt32.lt_iff_toNat_lt] at h; omega
    case isFalse h => rw [UInt32.lt_iff_toNat_lt] at h; omega
  have hmax : (2 * if o > a then o else a).toNat = maxPrio o a := by
    rw [maxPrio, UInt32.toNat_mul]
    split
    case isTrue h =>
        rw [gt_iff_lt, UInt32.lt_iff_toNat_lt] at h
        rw [max_eq_left (by omega)]
        rfl
    case isFalse h =>
        rw [gt_iff_lt, UInt32.lt_iff_toNat_lt] at h
        rw [max_eq_right (by omega)]
        rfl
  have htie : (if o > a then (1 : UInt64) else 0).toNat = tieBit o a := by
    unfold tieBit
    by_cases h : a < o
    · rw [if_pos h, if_pos h]
      rfl
    · rw [if_neg h, if_neg h]
      rfl
  have h32 : ((1 : UInt64) <<< 32).toNat = 2 ^ 32 := by decide
  have h₁ := minPrio_lt o a
  have h₂ := maxPrio_add_tieBit_lt o a
  simp only [niceCandidatePairPriority, UInt64.toNat_add, UInt64.toNat_mul, UInt32.toNat_toUInt64,
    hmin, hmax, htie, h32]
  omega

/-- **Pair priorities are ordered lexicographically** by the smaller priority, the
doubled larger one and the tie bit. -/
theorem niceCandidatePairPriority_lt_iff (o a o' a' : UInt32) :
    niceCandidatePairPriority o a < niceCandidatePairPriority o' a' ↔
      minPrio o a < minPrio o' a' ∨
        minPrio o a = minPrio o' a' ∧ maxPrio o a + tieBit o a < maxPrio o' a' + tieBit o' a' := by
  have h₁ := maxPrio_add_tieBit_lt o a
  have h₂ := maxPrio_add_tieBit_lt o' a'
  rw [UInt64.lt_iff_toNat_lt, niceCandidatePairPriority_toNat, niceCandidatePairPriority_toNat]
  constructor
  · intro h
    by_contra hn
    omega
  · rintro (h | ⟨h, h'⟩) <;> omega

end LibNice.Ice
