import Mathlib.Data.List.GetD
import Mathlib.Logic.Function.Iterate

/-!
Cyclic redundancy checks, with a register that is shifted towards its low bit.

* `crcShift`: one step of the register; `crcShift_injective`: **no step forgets anything** where the
  polynomial has its constant term.
* `crcBits`: the check of a list of bits; `crcBits_eq`: as many bits as the register has are taken
  at once.
* `crcBits_byte`: a byte at a time, from a table.
* `Burst`, `crcBits_burst`: **a burst of errors that is not longer than the register is detected.**
-/

namespace LibNice.Foundation

variable {w : ℕ} {poly c d x : BitVec w}

/-! ### The register -/

/-- A step of the register: its low bit goes, and takes the polynomial off if it was set. -/
def crcShift (poly c : BitVec w) : BitVec w :=
  if c.getLsbD 0 then (c >>> 1) ^^^ poly else c >>> 1

lemma crcShift_of_low (h : c.getLsbD 0 = false) : crcShift poly c = c >>> 1 := by
  rw [crcShift, h, if_neg Bool.false_ne_true]

/-- A step is linear. -/
lemma crcShift_xor (poly c d : BitVec w) :
    crcShift poly (c ^^^ d) = crcShift poly c ^^^ crcShift poly d := by
  simp only [crcShift, BitVec.getLsbD_xor, BitVec.ushiftRight_xor_distrib]
  cases c.getLsbD 0 with
  | false =>
      cases d.getLsbD 0 with
      | false => rfl
      | true => simp [BitVec.xor_assoc]
  | true =>
      cases d.getLsbD 0 with
      | false => simp [BitVec.xor_assoc, BitVec.xor_comm poly]
      | true =>
          have hcancel : poly ^^^ (d >>> 1 ^^^ poly) = d >>> 1 := by
            rw [BitVec.xor_comm (d >>> 1), ← BitVec.xor_assoc, BitVec.xor_self, BitVec.zero_xor]
          simp [BitVec.xor_assoc, hcancel]

lemma crcShift_iterate_xor (n : ℕ) (poly c d : BitVec w) :
    (crcShift poly)^[n] (c ^^^ d) = (crcShift poly)^[n] c ^^^ (crcShift poly)^[n] d := by
  induction n generalizing c d with
  | zero => rfl
  | succ n ih => simp only [Function.iterate_succ_apply, crcShift_xor, ih]

/-- **No step forgets anything** where the polynomial has its constant term. -/
theorem crcShift_injective (hpoly : poly.msb = true) : Function.Injective (crcShift poly) := by
  have hzero {c : BitVec w} (h : crcShift poly c = 0#w) : c = 0#w := by
    cases hlow : c.getLsbD 0 with
    | true =>
        rw [crcShift, hlow, if_pos rfl] at h
        have hmsb := congrArg BitVec.msb (BitVec.xor_eq_zero_iff.mp h)
        rw [hpoly, BitVec.msb_ushiftRight] at hmsb
        simp at hmsb
    | false =>
        rw [crcShift_of_low hlow] at h
        apply BitVec.eq_of_getLsbD_eq
        intro i hi
        rw [BitVec.getLsbD_zero]
        cases i with
        | zero => exact hlow
        | succ i =>
            have hbit := congrArg (BitVec.getLsbD · i) h
            simpa [BitVec.getLsbD_ushiftRight, Nat.add_comm 1] using hbit
  intro c d h
  refine BitVec.xor_eq_zero_iff.mp (hzero ?_)
  rw [crcShift_xor, h, BitVec.xor_self]

/-- Clear bits go without a trace. -/
lemma crcShift_iterate_of_low (n : ℕ) (h : ∀ i, i < n → c.getLsbD i = false) :
    (crcShift poly)^[n] c = c >>> n := by
  induction n with
  | zero => simp
  | succ n ih =>
      have hlow : (c >>> n).getLsbD 0 = false := by
        rw [BitVec.getLsbD_ushiftRight]
        exact h n (Nat.lt_succ_self n)
      rw [Function.iterate_succ_apply', ih fun i hi => h i (Nat.lt_succ_of_lt hi),
        crcShift_of_low hlow, BitVec.shiftRight_add]

/-! ### Bits -/

/-- The register after a list of bits. -/
def crcBits (poly : BitVec w) (c : BitVec w) (bits : List Bool) : BitVec w :=
  bits.foldl (fun c b => crcShift poly (c ^^^ (BitVec.ofBool b).setWidth w)) c

lemma crcBits_append (poly c : BitVec w) (xs ys : List Bool) :
    crcBits poly c (xs ++ ys) = crcBits poly (crcBits poly c xs) ys :=
  List.foldl_append

/-- The bits of a list, the first of them lowest. -/
def wordOf (w : ℕ) : List Bool → BitVec w
  | [] => 0#w
  | b :: bits => (BitVec.ofBool b).setWidth w ^^^ (wordOf w bits <<< 1)

lemma wordOf_getLsbD (bits : List Bool) (i : ℕ) :
    (wordOf w bits).getLsbD i = (decide (i < w) && bits.getD i false) := by
  induction bits generalizing i with
  | nil => simp [wordOf]
  | cons b bits ih =>
      rw [wordOf, BitVec.getLsbD_xor, BitVec.getLsbD_setWidth, BitVec.getLsbD_shiftLeft, ih]
      cases i with
      | zero => simp
      | succ i =>
          have hbool : (BitVec.ofBool b).getLsbD (i + 1) = false := by simp
          rw [hbool]
          by_cases hi : i + 1 < w
          · have : i < w := by omega
            simp [hi, this]
          · simp [hi]

/-- Lists of bits that fit have different words. -/
lemma wordOf_injective {xs ys : List Bool} (hlen : xs.length = ys.length) (hw : xs.length ≤ w)
    (h : wordOf w xs = wordOf w ys) : xs = ys := by
  apply List.ext_getElem hlen
  intro i hx hy
  have hbit := congrArg (BitVec.getLsbD · i) h
  simp only [wordOf_getLsbD] at hbit
  have hi : i < w := by omega
  simpa [hi, hx, hy] using hbit

/-- **As many bits as the register has are taken at once.** -/
lemma crcBits_eq (bits : List Bool) (hw : bits.length ≤ w) (c : BitVec w) :
    crcBits poly c bits = (crcShift poly)^[bits.length] (c ^^^ wordOf w bits) := by
  induction bits generalizing c with
  | nil => simp [crcBits, wordOf]
  | cons b bits ih =>
      rw [List.length_cons] at hw
      have hshift : crcShift poly (wordOf w bits <<< 1) = wordOf w bits := by
        rw [crcShift_of_low (by simp)]
        apply BitVec.eq_of_getLsbD_eq
        intro i hi
        rw [BitVec.getLsbD_ushiftRight, BitVec.getLsbD_shiftLeft, wordOf_getLsbD, wordOf_getLsbD]
        by_cases hlast : 1 + i < w
        · simp [hlast, hi]
        · have hnone : bits.getD i false = false := List.getD_eq_default _ _ (by omega)
          rw [hnone]
          simp [hlast]
      calc crcBits poly c (b :: bits)
          = crcBits poly (crcShift poly (c ^^^ (BitVec.ofBool b).setWidth w)) bits := rfl
        _ = (crcShift poly)^[bits.length]
              (crcShift poly (c ^^^ (BitVec.ofBool b).setWidth w) ^^^ wordOf w bits) :=
            ih (by omega) _
        _ = (crcShift poly)^[bits.length]
              (crcShift poly (c ^^^ (BitVec.ofBool b).setWidth w ^^^ (wordOf w bits <<< 1))) := by
            rw [crcShift_xor poly _ (wordOf w bits <<< 1), hshift]
        _ = _ := by
            rw [List.length_cons, Function.iterate_succ_apply, wordOf, BitVec.xor_assoc]

/-- What comes in later does not hide a difference. -/
lemma crcBits_injective (hpoly : poly.msb = true) (bits : List Bool) :
    Function.Injective (crcBits poly · bits) := by
  induction bits with
  | nil => exact fun _ _ h => h
  | cons b bits ih =>
      intro c d h
      have hstep := crcShift_injective hpoly (ih h)
      have hcancel := congrArg (· ^^^ (BitVec.ofBool b).setWidth w) hstep
      simpa [BitVec.xor_assoc] using hcancel

/-! ### Bursts -/

/-- Two lists differ, and only within a stretch of at most `n` places. -/
def Burst {α : Type*} (n : ℕ) (xs ys : List α) : Prop :=
  ∃ pre a b post, xs = pre ++ a ++ post ∧ ys = pre ++ b ++ post ∧ a.length = b.length ∧
    a.length ≤ n ∧ a ≠ b

/-- **A burst of errors that is not longer than the register is detected.** -/
theorem crcBits_burst (hpoly : poly.msb = true) {xs ys : List Bool} (h : Burst w xs ys)
    (c : BitVec w) : crcBits poly c xs ≠ crcBits poly c ys := by
  obtain ⟨pre, a, b, post, rfl, rfl, hlen, hw, hne⟩ := h
  intro heq
  simp only [crcBits_append] at heq
  have hmid := crcBits_injective hpoly post heq
  rw [crcBits_eq a hw, crcBits_eq b (hlen ▸ hw), hlen] at hmid
  have hword := (crcShift_injective hpoly).iterate b.length hmid
  have hcancel := congrArg (crcBits poly c pre ^^^ ·) hword
  simp only [← BitVec.xor_assoc, BitVec.xor_self, BitVec.zero_xor] at hcancel
  exact hne (wordOf_injective hlen hw hcancel)

/-! ### Bytes -/

/-- The bits of a byte, the lowest first. -/
def byteBits (b : BitVec 8) : List Bool := (List.range 8).map b.getLsbD

@[simp] lemma byteBits_length (b : BitVec 8) : (byteBits b).length = 8 := rfl

lemma wordOf_byteBits (b : BitVec 8) : wordOf w (byteBits b) = b.setWidth w := by
  apply BitVec.eq_of_getLsbD_eq
  intro i hi
  rw [wordOf_getLsbD, BitVec.getLsbD_setWidth, byteBits]
  by_cases h8 : i < 8
  · simp [hi, h8]
  · have hnone : b.getLsbD i = false := BitVec.getLsbD_of_ge b i (by omega)
    rw [hnone, List.getD_eq_default _ _ (by simpa using h8)]

/-- Eight steps move the upper bits down, and change the lower ones as they would be alone. -/
lemma crcShift_eight (x : BitVec w) :
    (crcShift poly)^[8] x = (crcShift poly)^[8] ((x.setWidth 8).setWidth w) ^^^ (x >>> 8) := by
  have hsplit : x = (x.setWidth 8).setWidth w ^^^ (x >>> 8 <<< 8) := by
    apply BitVec.eq_of_getLsbD_eq
    intro i hi
    rw [BitVec.getLsbD_xor, BitVec.getLsbD_setWidth, BitVec.getLsbD_setWidth,
      BitVec.getLsbD_shiftLeft, BitVec.getLsbD_ushiftRight]
    by_cases h8 : i < 8
    · simp [hi, h8]
    · have hback : 8 + (i - 8) = i := by omega
      simp [hi, h8, hback]
  have hclear : (crcShift poly)^[8] (x >>> 8 <<< 8) = x >>> 8 := by
    rw [crcShift_iterate_of_low 8 fun i hi => by simp [hi]]
    apply BitVec.eq_of_getLsbD_eq
    intro i hi
    rw [BitVec.getLsbD_ushiftRight, BitVec.getLsbD_shiftLeft, BitVec.getLsbD_ushiftRight,
      Nat.add_sub_cancel_left]
    by_cases hlast : 8 + i < w
    · simp [hlast]
    · simp [BitVec.getLsbD_of_ge x (8 + i) (by omega)]
  calc (crcShift poly)^[8] x
      = (crcShift poly)^[8] ((x.setWidth 8).setWidth w ^^^ (x >>> 8 <<< 8)) := by rw [← hsplit]
    _ = _ := by rw [crcShift_iterate_xor, hclear]

/-- **A byte at a time**: from a table with the register after each byte. -/
theorem crcBits_byte (hw : 8 ≤ w) {table : BitVec 8 → BitVec w}
    (htable : ∀ i, table i = (crcShift poly)^[8] (i.setWidth w)) (c : BitVec w) (b : BitVec 8) :
    crcBits poly c (byteBits b) = table (c.setWidth 8 ^^^ b) ^^^ (c >>> 8) := by
  have hlow : (c ^^^ b.setWidth w).setWidth 8 = c.setWidth 8 ^^^ b := by
    apply BitVec.eq_of_getLsbD_eq
    intro i hi
    have hle : i < w := by omega
    simp [hi, hle]
  have hhigh : (c ^^^ b.setWidth w) >>> 8 = c >>> 8 := by
    apply BitVec.eq_of_getLsbD_eq
    intro i hi
    simp
  rw [crcBits_eq _ (by simpa using hw), wordOf_byteBits, byteBits_length, crcShift_eight,
    hlow, hhigh, htable]

end LibNice.Foundation
