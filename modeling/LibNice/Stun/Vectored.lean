import LibNice.Stun.Framing

/-!
The fast check of `stun_message_validate_buffer_length_fast` on a vector of buffers.

* `contents`, `Splits`: the bytes of a vector, and the vectors that hold a given string.
* `emptyAt`: an empty buffer at an offset.
* `skipBuffers_spec`, `slowLength_spec`: the length field, read across buffers.
* `vectored_iff`: **the check on a vector is the check on the whole string** exactly when the first
  buffer is not empty and no empty buffer splits the length field of a string that is looked at so
  far; `vectored_gap` is a string that such a buffer splits.
-/

namespace LibNice.Stun

open LibNice.Foundation

/-! ### Vectors of buffers -/

/-- The bytes of a buffer; `NULL` has none. -/
def StunInputVector.bytes (v : StunInputVector) : Bytes := v.buffer.getD []

/-- The bytes of a vector, one buffer behind the other. -/
def contents (buffers : List StunInputVector) : Bytes := buffers.flatMap StunInputVector.bytes

/-- The vector `buffers`, counted or, for `none`, up to its first `NULL`, holds the string `b`. -/
def Splits (b : Bytes) (buffers : List StunInputVector) : Option ℕ → Prop
  | some k => k = buffers.length ∧ contents buffers = b
  | none => ∃ vs, buffers = vs ++ [⟨none⟩] ∧ (∀ v ∈ vs, v.buffer ≠ none) ∧ contents vs = b

/-- Whether an empty buffer stands at the offset `k` of a vector. -/
def emptyAt : List StunInputVector → ℕ → Bool
  | [], _ => false
  | v :: vs, k => (k == 0 && v.size == 0) || (decide (v.size ≤ k) && emptyAt vs (k - v.size))

/-- The check on a vector looks at the string: its first buffer is a `NULL` and the string is not
valid anyway, or it has a byte, and no empty buffer stands between the two bytes of the length
field, if it is read at all. -/
def ReadsThrough (b : Bytes) (hasPadding : Bool) : List StunInputVector → Prop
  | [] => False
  | ⟨none⟩ :: _ => 64 ≤ b.headD 0 ∨ 4 ≤ b.length ∧ hasPadding = true ∧ ¬ 4 ∣ messageLen b
  | ⟨some bytes⟩ :: vs =>
      bytes ≠ [] ∧ (emptyAt (⟨some bytes⟩ :: vs) 3 = true → 64 ≤ b.headD 0 ∨ b.length < 4)

@[simp] lemma contents_nil : contents [] = [] := rfl

@[simp] lemma contents_cons (v : StunInputVector) (vs : List StunInputVector) :
    contents (v :: vs) = v.bytes ++ contents vs := rfl

@[simp] lemma contents_append (vs us : List StunInputVector) :
    contents (vs ++ us) = contents vs ++ contents us := by
  simp [contents]

@[simp] lemma StunInputVector.bytes_length (v : StunInputVector) : v.bytes.length = v.size := rfl

/-! ### The length field across buffers -/

/-- The loop does not stop inside the buffers `vs`. -/
def Counts (vs : List StunInputVector) : Option ℕ → Prop
  | some k => vs.length ≤ k
  | none => ∀ v ∈ vs, v.buffer ≠ none

lemma Counts.head {v : StunInputVector} {vs : List StunInputVector} {n : Option ℕ}
    (h : Counts (v :: vs) n) : ¬ (n = some 0 ∨ n = none ∧ v.buffer = none) := by
  rintro (rfl | ⟨rfl, hv⟩)
  · exact absurd h (by simp [Counts])
  · exact h v (by simp) hv

lemma Counts.tail {v : StunInputVector} {vs : List StunInputVector} {n : Option ℕ}
    (h : Counts (v :: vs) n) : Counts vs (n.map (· - 1)) := by
  cases n with
  | some k =>
      have hk : vs.length + 1 ≤ k := h
      exact Nat.le_sub_of_add_le hk
  | none => exact fun u hu => h u (by simp [hu])

/-- The loop stops at the buffer that holds the byte it looks for.  The induction is on the
buffers. -/
lemma skipBuffers_spec (tail vs : List StunInputVector) :
    ∀ (n : Option ℕ) (skip : ℕ), Counts vs n → skip < (contents vs).length →
      ∃ pre v post, vs = pre ++ v :: post ∧ (contents pre).length ≤ skip ∧
        skip < (contents pre).length + v.size ∧
        skipBuffers n (vs ++ tail) skip = (v :: (post ++ tail), skip - (contents pre).length) := by
  induction vs with
  | nil => exact fun n skip _ h => absurd h (Nat.not_lt_zero skip)
  | cons v vs ih =>
      intro n skip hn hskip
      rw [List.cons_append, skipBuffers, if_neg hn.head]
      by_cases hsize : v.size ≤ skip
      · rw [contents_cons, List.length_append, v.bytes_length] at hskip
        obtain ⟨pre, u, post, rfl, hle, hlt, heq⟩ :=
          ih (n.map (· - 1)) (skip - v.size) hn.tail (by omega)
        refine ⟨v :: pre, u, post, rfl, ?_, ?_, ?_⟩
        · rw [contents_cons, List.length_append, v.bytes_length]
          omega
        · rw [contents_cons, List.length_append, v.bytes_length]
          omega
        · rw [if_pos hsize, heq, contents_cons, List.length_append, v.bytes_length,
            Nat.sub_sub]
      · exact ⟨[], v, vs, rfl, Nat.zero_le _, by simpa using hsize, by rw [if_neg hsize]; rfl⟩

/-- Empty buffers are found behind the buffers that lie before the offset. -/
lemma emptyAt_append (vs : List StunInputVector) {k : ℕ} (hk : 0 < k) :
    ∀ pre : List StunInputVector, emptyAt (pre ++ vs) ((contents pre).length + k) = emptyAt vs k
  | [] => by simp
  | v :: pre => by
      have hsub : v.size + (contents pre).length + k - v.size = (contents pre).length + k := by
        omega
      have hpos : (v.size + (contents pre).length + k == 0) = false := by
        rw [beq_eq_false_iff_ne]
        omega
      have hle : decide (v.size ≤ v.size + (contents pre).length + k) = true :=
        decide_eq_true (by omega)
      rw [List.cons_append, emptyAt, contents_cons, List.length_append, v.bytes_length, hsub,
        emptyAt_append vs hk pre, hpos, hle, Bool.false_and, Bool.false_or, Bool.true_and]

/-- At the front of a vector an empty buffer is the first one. -/
lemma emptyAt_zero (u : StunInputVector) (us : List StunInputVector) :
    emptyAt (u :: us) 0 = (u.size == 0) := by
  by_cases hu : u.size = 0
  · rw [emptyAt, hu]
    rfl
  · rw [emptyAt, decide_eq_false (by omega), Bool.false_and, Bool.or_false]
    rfl

lemma getD_append_left {as bs : Bytes} {i : ℕ} (h : i < as.length) :
    (as ++ bs).getD i 0 = as[i] := by
  rw [List.getD_eq_getElem?_getD, List.getElem?_append_left h, List.getElem?_eq_getElem h]
  rfl

/-- **The length field across buffers** is that of the string, unless an empty buffer stands
between its bytes. -/
lemma slowLength_spec {n : Option ℕ} {vs tail : List StunInputVector} (hn : Counts vs n)
    (h4 : 4 ≤ (contents vs).length) :
    slowLength n (vs ++ tail) =
      if emptyAt vs 3 then .error .outOfBounds
      else .ok (word16 ((contents vs).getD 2 0) ((contents vs).getD 3 0)).toNat := by
  obtain ⟨pre, v, post, rfl, hle, hlt, hskip⟩ :=
    skipBuffers_spec tail vs n STUN_MESSAGE_LENGTH_POS hn (by rw [STUN_MESSAGE_LENGTH_POS]; omega)
  rw [STUN_MESSAGE_LENGTH_POS] at hle hlt hskip
  obtain ⟨skip, hadd⟩ : ∃ skip, (contents pre).length + skip = 2 :=
    ⟨2 - (contents pre).length, by omega⟩
  have hempty := emptyAt_append (v :: post) (Nat.succ_pos skip) pre
  rw [show (contents pre).length + skip.succ = 3 by omega] at hempty
  rw [show 2 - (contents pre).length = skip by omega] at hskip
  have hget (k : ℕ) : (contents (pre ++ v :: post)).getD ((contents pre).length + k) 0 =
      (v.bytes ++ contents post).getD k 0 := by
    rw [contents_append, contents_cons, List.getD_eq_getElem?_getD, List.getD_eq_getElem?_getD,
      List.getElem?_append_right (by omega), Nat.add_sub_cancel_left]
  have hhi := hget skip
  have hlo := hget (skip + 1)
  rw [hadd] at hhi
  rw [← Nat.add_assoc, hadd] at hlo
  have hin : skip < v.bytes.length := by
    rw [v.bytes_length]
    omega
  rw [hempty, hhi, hlo, slowLength, STUN_MESSAGE_LENGTH_POS, hskip]
  dsimp only
  by_cases hwhole : v.size - skip > 1
  · -- both bytes lie in the buffer
    have hnone : emptyAt (v :: post) skip.succ = false := by
      rw [emptyAt, decide_eq_false (by omega)]
      rfl
    have hlt2 : skip + 1 < v.bytes.length := by
      rw [v.bytes_length]
      omega
    rw [if_pos (Or.inr hwhole), hnone, if_neg (by decide), stunGetw]
    change (readWord v.bytes skip >>= fun w => pure w.toNat) = _
    rw [readWord_of_lt hlt2, getD_append_left hin, getD_append_left hlt2]
    rfl
  · -- the low byte lies in the next buffer
    have hsize : v.size = skip + 1 := by omega
    rw [if_neg (by omega)]
    change (readByte v.bytes skip >>= fun hi => _) = _
    rw [readByte_of_lt hin, getD_append_left hin]
    obtain ⟨u, us, rfl⟩ : ∃ u us, post = u :: us := by
      refine List.exists_cons_of_ne_nil fun hnil => ?_
      rw [hnil, contents_append, contents_cons, List.length_append, List.length_append,
        v.bytes_length, contents_nil, List.length_nil] at h4
      omega
    have hnext : emptyAt (v :: u :: us) skip.succ = (u.size == 0) := by
      rw [emptyAt, hsize, Nat.succ_eq_add_one, Nat.sub_self, decide_eq_true (Nat.le_refl _)]
      exact emptyAt_zero u us
    rw [hnext, List.getD_eq_getElem?_getD,
      List.getElem?_append_right (by rw [v.bytes_length]; omega), v.bytes_length, hsize,
      Nat.sub_self, contents_cons]
    change (readByte u.bytes 0 >>= fun lo => _) = _
    by_cases hu : u.size = 0
    · rw [if_pos (beq_iff_eq.mpr hu), readByte_error (by rw [u.bytes_length, hu])]
      rfl
    · have hu0 : 0 < u.bytes.length := by
        rw [u.bytes_length]
        omega
      rw [if_neg (by simpa using hu), readByte_of_lt hu0, List.getElem?_append_left hu0,
        List.getElem?_eq_getElem hu0]
      rfl

lemma emptyAt_left (tail : List StunInputVector) :
    ∀ (vs : List StunInputVector) {k : ℕ}, k < (contents vs).length →
      emptyAt (vs ++ tail) k = emptyAt vs k
  | [], _, h => absurd h (Nat.not_lt_zero _)
  | v :: vs, k, h => by
      rw [contents_cons, List.length_append, v.bytes_length] at h
      rw [List.cons_append, emptyAt, emptyAt]
      by_cases hle : v.size ≤ k
      · rw [emptyAt_left tail vs (by omega)]
      · rw [decide_eq_false hle, Bool.false_and, Bool.false_and]

/-! ### The check -/

/-- The verdict on a string of `total` bytes whose header announces `mlen` of them. -/
def lengthVerdict (mlen total : ℕ) (hasPadding : Bool) : ℤ :=
  if hasPadding = true ∧ stunPadding mlen ≠ 0 then STUN_MESSAGE_BUFFER_INVALID
  else if total < mlen then STUN_MESSAGE_BUFFER_INCOMPLETE
  else mlen

lemma lengthVerdict_eq_invalid {mlen total : ℕ} {hasPadding : Bool} :
    lengthVerdict mlen total hasPadding = STUN_MESSAGE_BUFFER_INVALID ↔
      hasPadding = true ∧ ¬ 4 ∣ mlen := by
  have hiff : hasPadding = true ∧ stunPadding mlen ≠ 0 ↔ hasPadding = true ∧ ¬ 4 ∣ mlen := by
    rw [ne_eq, stunPadding_eq_zero_iff]
  unfold lengthVerdict
  by_cases h : hasPadding = true ∧ stunPadding mlen ≠ 0
  · rw [if_pos h]
    exact iff_of_true rfl (hiff.mp h)
  · rw [if_neg h]
    refine iff_of_false ?_ fun hc => h (hiff.mpr hc)
    by_cases hlt : total < mlen
    · rw [if_pos hlt]
      decide
    · rw [if_neg hlt, STUN_MESSAGE_BUFFER_INVALID]
      omega

section Check

variable {n : Option ℕ} {v : StunInputVector} {vs tail : List StunInputVector}

/-- The length field of a vector, read at once or across buffers. -/
lemma vectorLength_spec (hn : Counts (v :: vs) n) (h4 : 4 ≤ (contents (v :: vs)).length) :
    (if v.size ≥ STUN_MESSAGE_LENGTH_POS + STUN_MESSAGE_LENGTH_LEN then do
        let w ← stunGetw (v.buffer.getD []) STUN_MESSAGE_LENGTH_POS
        pure w.toNat
      else slowLength n (v :: vs ++ tail)) =
      if emptyAt (v :: vs) 3 then .error .outOfBounds
      else .ok (word16 ((contents (v :: vs)).getD 2 0) ((contents (v :: vs)).getD 3 0)).toNat := by
  by_cases hsize : v.size ≥ STUN_MESSAGE_LENGTH_POS + STUN_MESSAGE_LENGTH_LEN
  · have h4' : 4 ≤ v.bytes.length := hsize
    have hnone : emptyAt (v :: vs) 3 = false := by
      rw [emptyAt, decide_eq_false (by rw [← v.bytes_length]; omega)]
      rfl
    have h2 : (v.bytes ++ contents vs).getD 2 0 = v.bytes.getD 2 0 := by
      rw [getD_append_left (by omega), ← getD_append_left (by omega), List.append_nil]
    have h3 : (v.bytes ++ contents vs).getD 3 0 = v.bytes.getD 3 0 := by
      rw [getD_append_left (by omega), ← getD_append_left (by omega), List.append_nil]
    rw [if_pos hsize, hnone, if_neg (by decide), contents_cons, h2, h3]
    change (stunGetw v.bytes STUN_MESSAGE_LENGTH_POS >>= fun w => pure w.toNat) = _
    rw [stunGetw_length h4']
    rfl
  · rw [if_neg hsize]
    exact slowLength_spec hn h4

/-- **The check on a vector** whose first buffer is not empty. -/
lemma fast_spec (hn : Counts (v :: vs) n) (hv : v.bytes ≠ []) (hasPadding : Bool) :
    stunMessageValidateBufferLengthFast (v :: vs ++ tail) n (contents (v :: vs)).length hasPadding =
      if 64 ≤ (contents (v :: vs)).headD 0 then .ok STUN_MESSAGE_BUFFER_INVALID
      else if (contents (v :: vs)).length < 4 then .ok STUN_MESSAGE_BUFFER_INCOMPLETE
      else if emptyAt (v :: vs) 3 then .error .outOfBounds
      else .ok (lengthVerdict (messageLen (contents (v :: vs))) (contents (v :: vs)).length
        hasPadding) := by
  obtain ⟨b₀, bs, hbytes⟩ := List.exists_cons_of_ne_nil hv
  have hbuffer : v.buffer ≠ none := by
    intro h
    rw [StunInputVector.bytes, h] at hv
    exact hv rfl
  have hhead : (contents (v :: vs)).headD 0 = b₀ := by
    rw [contents_cons, hbytes]
    rfl
  have hpos : ¬ ((contents (v :: vs)).length < 1 ∨ n = some 0 ∨ v.buffer = none) := by
    rintro (h | h | h)
    · rw [contents_cons, hbytes] at h
      simp at h
    · exact hn.head (.inl h)
    · exact hbuffer h
  have hread : readByte (v.buffer.getD []) 0 = .ok b₀ := by
    change readByte v.bytes 0 = _
    rw [hbytes]
    rfl
  rw [List.cons_append, stunMessageValidateBufferLengthFast, if_neg hpos, hread, hhead]
  simp only [bind, Except.bind]
  by_cases hbits : 64 ≤ b₀
  · rw [if_pos ((shiftRight_six_ne_zero_iff b₀).mpr (by simpa using hbits)), if_pos hbits]
    rfl
  rw [if_neg (by rw [shiftRight_six_ne_zero_iff, not_not]; simpa using hbits), if_neg hbits]
  by_cases h4 : (contents (v :: vs)).length < 4
  · rw [if_pos h4, if_pos (by exact h4)]
    rfl
  rw [if_neg h4, if_neg (by exact h4)]
  have hlen := @vectorLength_spec n v vs tail hn (by omega)
  -- what follows the length field is the same in both branches
  let K : ℕ → Except Fault ℤ := fun l =>
    .ok (lengthVerdict (l + STUN_MESSAGE_HEADER_LENGTH) (contents (v :: vs)).length hasPadding)
  have hK (l : ℕ) : (if hasPadding = true ∧ stunPadding (l + STUN_MESSAGE_HEADER_LENGTH) ≠ 0 then
        pure STUN_MESSAGE_BUFFER_INVALID
      else if (contents (v :: vs)).length < l + STUN_MESSAGE_HEADER_LENGTH then
        pure STUN_MESSAGE_BUFFER_INCOMPLETE
      else pure ↑(l + STUN_MESSAGE_HEADER_LENGTH)) = K l := by
    simp only [K, lengthVerdict]
    split_ifs <;> rfl
  simp only [hK]
  refine Eq.trans (?_ : _ = (_ >>= K)) ((congrArg (· >>= K) hlen).trans ?_)
  · by_cases hsize : v.size ≥ STUN_MESSAGE_LENGTH_POS + STUN_MESSAGE_LENGTH_LEN
    · rw [if_pos hsize, if_pos hsize]
      cases stunGetw (v.buffer.getD []) STUN_MESSAGE_LENGTH_POS <;> rfl
    · rw [if_neg hsize, if_neg hsize]
      rfl
  · by_cases hempty : emptyAt (v :: vs) 3 = true
    · rw [if_pos hempty, if_pos hempty]
      rfl
    · rw [if_neg hempty, if_neg hempty]
      rfl

/-- The check on the whole string. -/
lemma fast_whole {b : Bytes} (hb : b ≠ []) (hasPadding : Bool) :
    stunMessageValidateBufferLengthFast [⟨some b⟩] (some 1) b.length hasPadding =
      .ok (if 64 ≤ b.headD 0 then STUN_MESSAGE_BUFFER_INVALID
        else if b.length < 4 then STUN_MESSAGE_BUFFER_INCOMPLETE
        else lengthVerdict (messageLen b) b.length hasPadding) := by
  have hcontents : contents [⟨some b⟩] = b := List.append_nil b
  have h := @fast_spec (some 1) ⟨some b⟩ [] [] (Nat.le_refl 1) hb hasPadding
  rw [hcontents, List.append_nil] at h
  rw [h]
  by_cases hbits : 64 ≤ b.headD 0
  · rw [if_pos hbits, if_pos hbits]
  rw [if_neg hbits, if_neg hbits]
  by_cases h4 : b.length < 4
  · rw [if_pos h4, if_pos h4]
  have hnone : emptyAt [⟨some b⟩] 3 = false := by
    have hsize : StunInputVector.size ⟨some b⟩ = b.length := rfl
    rw [emptyAt, hsize, decide_eq_false (by omega)]
    rfl
  rw [if_neg h4, if_neg h4, hnone, if_neg (by decide)]

end Check

/-! ### The condition -/

/-- A vector that holds a string is the buffers with its bytes, and what ends the vector. -/
lemma Splits.exists_counts {b : Bytes} {buffers : List StunInputVector} {n : Option ℕ}
    (h : Splits b buffers n) :
    ∃ vs tail, buffers = vs ++ tail ∧ Counts vs n ∧ contents vs = b := by
  cases n with
  | some k =>
      obtain ⟨hk, hb⟩ := h
      exact ⟨buffers, [], (List.append_nil _).symm, hk.ge, hb⟩
  | none =>
      obtain ⟨vs, rfl, hvs, hb⟩ := h
      exact ⟨vs, [⟨none⟩], rfl, hvs, hb⟩

/-- A vector that begins with `NULL` is not valid. -/
lemma fast_null (vs : List StunInputVector) (n : Option ℕ) (total : ℕ) (hasPadding : Bool) :
    stunMessageValidateBufferLengthFast (⟨none⟩ :: vs) n total hasPadding =
      .ok STUN_MESSAGE_BUFFER_INVALID := by
  rw [stunMessageValidateBufferLengthFast, if_pos (.inr (.inr rfl))]

/-- Of an empty first buffer a byte is read all the same. -/
lemma fast_empty {vs : List StunInputVector} {n : Option ℕ} {total : ℕ} (hn : n ≠ some 0)
    (ht : 0 < total) (hasPadding : Bool) :
    stunMessageValidateBufferLengthFast (⟨some []⟩ :: vs) n total hasPadding =
      .error .outOfBounds := by
  rw [stunMessageValidateBufferLengthFast, if_neg]
  · rfl
  · rintro (h | h | h)
    · omega
    · exact hn h
    · cases h

/-- **The check on a vector is the check on the string**, and reads no byte outside its buffers,
exactly when it reads through the vector. -/
theorem vectored_iff (b : Bytes) (hb : b ≠ []) (hasPadding : Bool)
    (buffers : List StunInputVector) (n : Option ℕ) (hsplit : Splits b buffers n) :
    (∃ r, stunMessageValidateBufferLengthFast buffers n b.length hasPadding = .ok r ∧
      stunMessageValidateBufferLengthFast [⟨some b⟩] (some 1) b.length hasPadding = .ok r) ↔
    ReadsThrough b hasPadding buffers := by
  obtain ⟨vs, tail, rfl, hn, rfl⟩ := hsplit.exists_counts
  obtain ⟨v, vs, rfl⟩ : ∃ u us, vs = u :: us :=
    List.exists_cons_of_ne_nil fun h => hb (by rw [h]; rfl)
  have hpos : 0 < (contents (v :: vs)).length := List.length_pos_iff.mpr hb
  have hwhole := fast_whole hb hasPadding
  obtain ⟨buffer⟩ := v
  match buffer, hn, hb, hpos, hwhole with
  | none, hn, hb, hpos, hwhole =>
      rw [List.cons_append, fast_null, hwhole]
      change _ ↔ 64 ≤ (contents (⟨none⟩ :: vs)).headD 0 ∨ _
      constructor
      · rintro ⟨r, hr, hr'⟩
        have heq := Except.ok.inj (hr'.trans hr.symm)
        by_cases hbits : 64 ≤ (contents (⟨none⟩ :: vs)).headD 0
        · exact .inl hbits
        rw [if_neg hbits] at heq
        by_cases h4 : (contents (⟨none⟩ :: vs)).length < 4
        · rw [if_pos h4] at heq
          exact absurd heq (by decide)
        · rw [if_neg h4] at heq
          exact .inr ⟨Nat.le_of_not_lt h4, lengthVerdict_eq_invalid.mp heq⟩
      · rintro h
        refine ⟨_, rfl, congrArg Except.ok ?_⟩
        rcases h with hbits | ⟨h4, hverdict⟩
        · exact if_pos hbits
        · rw [if_neg (Nat.not_lt_of_le h4), lengthVerdict_eq_invalid.mpr hverdict]
          exact ite_self _
  | some [], hn, hb, hpos, hwhole =>
      have hne : n ≠ some 0 := fun h => hn.head (.inl h)
      rw [List.cons_append, fast_empty hne hpos]
      refine iff_of_false ?_ fun h => h.1 rfl
      rintro ⟨r, hr, -⟩
      cases hr
  | some (x :: xs), hn, hb, hpos, hwhole =>
      rw [fast_spec hn (List.cons_ne_nil x xs) hasPadding, hwhole]
      change _ ↔ x :: xs ≠ [] ∧ (emptyAt (⟨some (x :: xs)⟩ :: (vs ++ tail)) 3 = true → _)
      rw [and_iff_right (List.cons_ne_nil x xs)]
      by_cases hbits : 64 ≤ (contents (⟨some (x :: xs)⟩ :: vs)).headD 0
      · rw [if_pos hbits, if_pos hbits]
        exact iff_of_true ⟨_, rfl, rfl⟩ fun _ => .inl hbits
      rw [if_neg hbits, if_neg hbits]
      by_cases h4 : (contents (⟨some (x :: xs)⟩ :: vs)).length < 4
      · rw [if_pos h4, if_pos h4]
        exact iff_of_true ⟨_, rfl, rfl⟩ fun _ => .inr h4
      have h3 : 3 < (contents (⟨some (x :: xs)⟩ :: vs)).length := by omega
      have hleft := emptyAt_left tail (⟨some (x :: xs)⟩ :: vs) h3
      rw [List.cons_append] at hleft
      rw [if_neg h4, if_neg h4, hleft]
      by_cases hempty : emptyAt (⟨some (x :: xs)⟩ :: vs) 3 = true
      · rw [if_pos hempty]
        refine iff_of_false ?_ fun h => (h hempty).elim hbits h4
        rintro ⟨r, hr, -⟩
        cases hr
      · rw [if_neg hempty]
        exact iff_of_true ⟨_, rfl, rfl⟩ fun h => absurd h hempty

/-- A header in three buffers, the length field split between the last two. -/
theorem vectored_iff_sample :
    let buffers : List StunInputVector :=
      [⟨some [0]⟩, ⟨some [1, 0]⟩, ⟨some (0 :: List.replicate 16 7)⟩]
    ∃ r, stunMessageValidateBufferLengthFast buffers (some 3) 20 true = .ok r ∧
      stunMessageValidateBufferLengthFast [⟨some (contents buffers)⟩] (some 1) 20 true = .ok r :=
  (vectored_iff (0 :: 1 :: 0 :: 0 :: List.replicate 16 7) (List.cons_ne_nil _ _) true
    [⟨some [0]⟩, ⟨some [1, 0]⟩, ⟨some (0 :: List.replicate 16 7)⟩] (some 3) ⟨rfl, rfl⟩).mpr
    ⟨List.cons_ne_nil _ _, fun h => absurd h (by decide)⟩

/-- **An empty buffer splits the length field**: the low byte is read from a buffer that has no
bytes. -/
theorem vectored_gap :
    let buffers : List StunInputVector :=
      [⟨some [0, 1, 0]⟩, ⟨some []⟩, ⟨some (0 :: List.replicate 16 7)⟩]
    Splits (0 :: 1 :: 0 :: 0 :: List.replicate 16 7) buffers (some 3) ∧
      stunMessageValidateBufferLengthFast buffers (some 3) 20 true = .error .outOfBounds ∧
      stunMessageValidateBufferLengthFast
        [⟨some (0 :: 1 :: 0 :: 0 :: List.replicate 16 7)⟩] (some 1) 20 true = .ok 20 := by
  refine ⟨⟨rfl, rfl⟩, by decide, by decide⟩

end LibNice.Stun
