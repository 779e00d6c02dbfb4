import Mathlib.Tactic

/-!
Byte memory with checked accesses, and big-endian words in it.

* `Fault`: what a C program can run into that has no defined result, an access
  outside a block or a failed assertion.
* `readByte`, `readSlice`, `writeSlice`: accesses to a block of bytes that
  fault as soon as one byte lies outside it; `readSlice_eq_ok` and
  `writeSlice_eq_ok` say when they do not and what they give.
* `be16`, `be32`: the network byte order of a 16 and a 32 bit word, and
  `word16`, `word32`, which read them back (`word16_be16`, `word32_be32`).
* `readWord`, `readWord32`: a word read at an offset; `readWord_append` and
  `readWord32_append` find it behind a known prefix.
-/

namespace LibNice.Foundation

/-- A block of bytes. -/
abbrev Bytes := List UInt8

/-- The ways in which a C function fails to have a result. -/
inductive Fault where
  /-- A read or a write of a byte outside the block it goes to. -/
  | outOfBounds
  /-- An `assert` whose condition is false. -/
  | assertFailed
deriving DecidableEq, Repr

/-- A computation in two parts has a result when both parts have one. -/
lemma bind_eq_ok {ε α β : Type} {x : Except ε α} {f : α → Except ε β} {r : β} :
    x >>= f = .ok r ↔ ∃ a, x = .ok a ∧ f a = .ok r := by
  cases x with
  | error e => simp [bind, Except.bind]
  | ok a => simp [bind, Except.bind]

lemma map_eq_ok {ε α β : Type} {x : Except ε α} {f : α → β} {r : β} :
    f <$> x = .ok r ↔ ∃ a, x = .ok a ∧ f a = r := by
  cases x with
  | error e => simp [Functor.map, Except.map]
  | ok a => simp [Functor.map, Except.map]

/-! ### Checked accesses -/

/-- The byte at offset `i` of the block `b`. -/
def readByte (b : Bytes) (i : ℕ) : Except Fault UInt8 :=
  match b[i]? with
  | some x => .ok x
  | none => .error .outOfBounds

/-- The `n` bytes of the block `b` from offset `i` on.  Reading no byte at all
is no access. -/
def readSlice (b : Bytes) (i n : ℕ) : Except Fault Bytes :=
  if n = 0 ∨ i + n ≤ b.length then .ok ((b.drop i).take n) else .error .outOfBounds

/-- The `n` bytes of the block `b` from offset `i` on, as a vector. -/
def readVector (b : Bytes) (i n : ℕ) : Except Fault (Vector UInt8 n) :=
  if h : i + n ≤ b.length then
    .ok ⟨((b.drop i).take n).toArray, by simp; omega⟩
  else .error .outOfBounds

/-- The block `b` with the bytes `v` stored from offset `i` on. -/
def writeSlice (b : Bytes) (i : ℕ) (v : Bytes) : Except Fault Bytes :=
  if v = [] then .ok b
  else if i + v.length ≤ b.length then .ok (b.take i ++ v ++ b.drop (i + v.length))
  else .error .outOfBounds

lemma readByte_eq_ok {b : Bytes} {i : ℕ} {x : UInt8} :
    readByte b i = .ok x ↔ b[i]? = some x := by
  unfold readByte
  split <;> simp_all

lemma readByte_of_lt {b : Bytes} {i : ℕ} (h : i < b.length) : readByte b i = .ok b[i] := by
  rw [readByte_eq_ok, List.getElem?_eq_getElem h]

lemma readByte_error {b : Bytes} {i : ℕ} (h : b.length ≤ i) :
    readByte b i = .error .outOfBounds := by
  unfold readByte
  rw [List.getElem?_eq_none h]

lemma readSlice_eq_ok {b v : Bytes} {i n : ℕ} :
    readSlice b i n = .ok v ↔ (n = 0 ∨ i + n ≤ b.length) ∧ v = (b.drop i).take n := by
  unfold readSlice
  split <;> simp_all [eq_comm]

lemma readSlice_of_le {b : Bytes} {i n : ℕ} (h : i + n ≤ b.length) :
    readSlice b i n = .ok ((b.drop i).take n) :=
  readSlice_eq_ok.mpr ⟨.inr h, rfl⟩

lemma readSlice_error {b : Bytes} {i n : ℕ} (hn : n ≠ 0) (h : b.length < i + n) :
    readSlice b i n = .error .outOfBounds := by
  rw [readSlice, if_neg]
  rintro (h0 | h1)
  · exact hn h0
  · omega

lemma writeSlice_eq_ok {b b' v : Bytes} {i : ℕ} (h : writeSlice b i v = .ok b') :
    b'.length = b.length ∧
      (v ≠ [] → i + v.length ≤ b.length ∧ b' = b.take i ++ v ++ b.drop (i + v.length)) := by
  unfold writeSlice at h
  split at h
  next hv =>
    cases h
    exact ⟨rfl, fun h => absurd hv h⟩
  next hv =>
    split at h
    next hle =>
      cases h
      refine ⟨?_, fun _ => ⟨hle, rfl⟩⟩
      simp only [List.length_append, List.length_take, List.length_drop]
      omega
    next => cases h

lemma writeSlice_of_le {b v : Bytes} {i : ℕ} (h : i + v.length ≤ b.length) :
    writeSlice b i v = .ok (b.take i ++ v ++ b.drop (i + v.length)) := by
  unfold writeSlice
  split
  next hv => subst hv; simp
  next => rfl

/-- A write leaves what lies behind it. -/
lemma writeSlice_getElem? {b b' v : Bytes} {i j : ℕ} (h : writeSlice b i v = .ok b')
    (hj : i + v.length ≤ j) : b'[j]? = b[j]? := by
  obtain ⟨-, hv⟩ := writeSlice_eq_ok h
  by_cases hnil : v = []
  · subst hnil
    cases h
    rfl
  · obtain ⟨hle, rfl⟩ := hv hnil
    have hlen : (b.take i ++ v).length = i + v.length := by
      rw [List.length_append, List.length_take, Nat.min_eq_left (by omega)]
    rw [List.getElem?_append_right (by omega), List.getElem?_drop, hlen,
      Nat.add_sub_cancel' hj]

lemma writeSlice_nil (b : Bytes) (i : ℕ) : writeSlice b i [] = .ok b := rfl

/-- A write right behind a known prefix, over as many bytes. -/
lemma writeSlice_append {pre old post v : Bytes} {i : ℕ} (hi : pre.length = i)
    (hv : old.length = v.length) :
    writeSlice (pre ++ (old ++ post)) i v = .ok (pre ++ (v ++ post)) := by
  subst hi
  rw [writeSlice_of_le (by simp only [List.length_append]; omega), ← hv]
  simp [List.drop_append]

/-- A read right behind a known prefix. -/
lemma readByte_append {pre post : Bytes} {i : ℕ} {x : UInt8} (hi : pre.length = i) :
    readByte (pre ++ (x :: post)) i = .ok x := by
  rw [readByte_eq_ok, ← hi, List.getElem?_append_right le_rfl]
  simp

lemma readVector_append {pre post : Bytes} {i n : ℕ} (v : Vector UInt8 n) (hi : pre.length = i) :
    readVector (pre ++ (v.toList ++ post)) i n = .ok v := by
  subst hi
  rw [readVector, dif_pos (by simp)]
  congr 1
  apply Vector.toList_inj.mp
  simp [Vector.toList_mk]

/-! ### Network byte order -/

/-- The two bytes of a 16 bit word, high byte first. -/
def be16 (v : ℕ) : Bytes := [UInt8.ofNat (v / 256), UInt8.ofNat v]

/-- The four bytes of a 32 bit word, high byte first. -/
def be32 (v : UInt32) : Bytes :=
  [UInt8.ofNat (v.toNat / 16777216), UInt8.ofNat (v.toNat / 65536),
    UInt8.ofNat (v.toNat / 256), UInt8.ofNat v.toNat]

/-- The 16 bit word with the given high and low byte. -/
def word16 (hi lo : UInt8) : UInt16 := UInt16.ofNat (hi.toNat * 256 + lo.toNat)

/-- The 32 bit word with the given bytes, the highest first. -/
def word32 (a b c d : UInt8) : UInt32 :=
  UInt32.ofNat (((a.toNat * 256 + b.toNat) * 256 + c.toNat) * 256 + d.toNat)

@[simp] lemma be16_length (v : ℕ) : (be16 v).length = 2 := rfl

@[simp] lemma be32_length (v : UInt32) : (be32 v).length = 4 := rfl

lemma word16_toNat (hi lo : UInt8) : (word16 hi lo).toNat = hi.toNat * 256 + lo.toNat := by
  have h1 := hi.toNat_lt
  have h2 := lo.toNat_lt
  simp only [word16, UInt16.toNat_ofNat']
  omega

/-- Reading back the two bytes of a word gives the word, modulo its width. -/
lemma word16_be16 (v : ℕ) : word16 (UInt8.ofNat (v / 256)) (UInt8.ofNat v) = UInt16.ofNat v := by
  apply UInt16.toNat_inj.mp
  rw [word16_toNat]
  simp only [UInt8.toNat_ofNat', UInt16.toNat_ofNat']
  omega

/-- The bytes of a word that was read are the bytes it was read from. -/
lemma be16_word16 (hi lo : UInt8) : be16 (word16 hi lo).toNat = [hi, lo] := by
  have h1 := hi.toNat_lt
  have h2 := lo.toNat_lt
  have hhi : UInt8.ofNat ((word16 hi lo).toNat / 256) = hi := by
    apply UInt8.toNat_inj.mp
    simp only [word16_toNat, UInt8.toNat_ofNat']
    omega
  have hlo : UInt8.ofNat (word16 hi lo).toNat = lo := by
    apply UInt8.toNat_inj.mp
    simp only [word16_toNat, UInt8.toNat_ofNat']
    omega
  rw [be16, hhi, hlo]

/-- Reading back the four bytes of a word gives the word. -/
lemma word32_be32 (v : UInt32) :
    word32 (UInt8.ofNat (v.toNat / 16777216)) (UInt8.ofNat (v.toNat / 65536))
      (UInt8.ofNat (v.toNat / 256)) (UInt8.ofNat v.toNat) = v := by
  have h := v.toNat_lt
  apply UInt32.toNat_inj.mp
  simp only [word32, UInt8.toNat_ofNat', UInt32.toNat_ofNat']
  omega

/-- The bytes of a word that was read are the bytes it was read from. -/
lemma be32_word32 (a b c d : UInt8) : be32 (word32 a b c d) = [a, b, c, d] := by
  have ha := a.toNat_lt
  have hb := b.toNat_lt
  have hc := c.toNat_lt
  have hd := d.toNat_lt
  have hval : (word32 a b c d).toNat =
      ((a.toNat * 256 + b.toNat) * 256 + c.toNat) * 256 + d.toNat := by
    rw [word32, UInt32.toNat_ofNat']
    omega
  have h1 : UInt8.ofNat ((word32 a b c d).toNat / 16777216) = a := by
    refine UInt8.toNat_inj.mp ?_
    rw [UInt8.toNat_ofNat', hval]
    omega
  have h2 : UInt8.ofNat ((word32 a b c d).toNat / 65536) = b := by
    refine UInt8.toNat_inj.mp ?_
    rw [UInt8.toNat_ofNat', hval]
    omega
  have h3 : UInt8.ofNat ((word32 a b c d).toNat / 256) = c := by
    refine UInt8.toNat_inj.mp ?_
    rw [UInt8.toNat_ofNat', hval]
    omega
  have h4 : UInt8.ofNat (word32 a b c d).toNat = d := by
    refine UInt8.toNat_inj.mp ?_
    rw [UInt8.toNat_ofNat', hval]
    omega
  rw [be32, h1, h2, h3, h4]

/-- The 16 bit word at offset `i` of the block `b`. -/
def readWord (b : Bytes) (i : ℕ) : Except Fault UInt16 := do
  let hi ← readByte b i
  let lo ← readByte b (i + 1)
  return word16 hi lo

lemma readWord_of_lt {b : Bytes} {i : ℕ} (h : i + 1 < b.length) :
    readWord b i = .ok (word16 b[i] b[i + 1]) := by
  rw [readWord, readByte_of_lt (by omega), readByte_of_lt h]
  rfl

lemma readWord_error {b : Bytes} {i : ℕ} (h : b.length ≤ i + 1) :
    readWord b i = .error .outOfBounds := by
  rw [readWord]
  by_cases hi : i < b.length
  · rw [readByte_of_lt hi, readByte_error h]
    rfl
  · rw [readByte_error (by omega)]
    rfl

/-- A word stored right behind a prefix of `i` bytes is the word at offset `i`. -/
lemma readWord_append {pre rest : Bytes} {i v : ℕ} (h : pre.length = i) :
    readWord (pre ++ be16 v ++ rest) i = .ok (UInt16.ofNat v) := by
  subst h
  rw [readWord_of_lt (by simp; omega)]
  simp [be16, word16_be16]

/-- A word inside a prefix does not depend on what follows it. -/
lemma readWord_append_left {b rest : Bytes} {i : ℕ} (h : i + 1 < b.length) :
    readWord (b ++ rest) i = readWord b i := by
  rw [readWord_of_lt (by simp; omega), readWord_of_lt h]
  simp only [List.getElem_append_left (show i < b.length by omega), List.getElem_append_left h]

/-- The 32 bit word at offset `i` of the block `b`. -/
def readWord32 (b : Bytes) (i : ℕ) : Except Fault UInt32 := do
  let w ← readByte b i
  let x ← readByte b (i + 1)
  let y ← readByte b (i + 2)
  let z ← readByte b (i + 3)
  return word32 w x y z

lemma readWord32_of_lt {b : Bytes} {i : ℕ} (h : i + 3 < b.length) :
    readWord32 b i = .ok (word32 b[i] b[i + 1] b[i + 2] b[i + 3]) := by
  rw [readWord32, readByte_of_lt (by omega), readByte_of_lt (by omega), readByte_of_lt (by omega),
    readByte_of_lt h]
  rfl

/-- A word stored right behind a prefix of `i` bytes is the word at offset `i`. -/
lemma readWord32_append {pre rest : Bytes} {i : ℕ} {v : UInt32} (h : pre.length = i) :
    readWord32 (pre ++ be32 v ++ rest) i = .ok v := by
  subst h
  rw [readWord32_of_lt (by simp; omega)]
  have hget (k : ℕ) (hk : k < (be32 v).length)
      (hb : pre.length + k < (pre ++ be32 v ++ rest).length) :
      (pre ++ be32 v ++ rest)[pre.length + k] = (be32 v)[k] := by
    rw [List.getElem_append_left (by simp at hk ⊢; omega),
      List.getElem_append_right (by omega)]
    simp
  have h0 := hget 0 (by simp) (by simp)
  simp only [Nat.add_zero] at h0
  rw [h0, hget 1 (by simp) (by simp; omega), hget 2 (by simp) (by simp; omega),
    hget 3 (by simp) (by simp; omega)]
  exact congrArg _ (word32_be32 v)

end LibNice.Foundation
