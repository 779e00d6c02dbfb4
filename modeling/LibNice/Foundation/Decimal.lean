import Mathlib.Data.List.TakeWhile
import Mathlib.Tactic

/-!
Decimal numbers, as bytes: how they are printed and how they are read.

* `decimal`: the digits of a number, as `%u` prints them.
* `decimalValue`: the number that some digits mean.
* `decimalValue_decimal`: **the digits of a number mean it**; `decimal_injective`.
* `mem_decimal`: each byte is a digit.
* `signedDecimal`: a number as `%d` prints it; `formatWord`: a 32-bit word.
* `strtoull`: `g_ascii_strtoull` to the base 10.
* `strtoull_formatWord`: **a word is read as it was printed**, also where it is printed with a sign.
-/

namespace LibNice.Foundation

/-- The byte of an ASCII character. -/
def charByte (c : Char) : UInt8 := UInt8.ofNat c.toNat

/-- The digits of a number. -/
def decimal (n : ℕ) : List UInt8 := (Nat.toDigits 10 n).map charByte

/-- The number that digits mean. -/
def decimalValue (digits : List UInt8) : ℕ := digits.foldl (fun n b => 10 * n + (b.toNat - 48)) 0

/-- The bytes of digits. -/
def isDigit (b : UInt8) : Bool := 48 ≤ b.toNat && b.toNat ≤ 57

lemma charByte_toNat {c : Char} (h : c.isDigit) : (charByte c).toNat = c.toNat := by
  have hle : 48 ≤ c.toNat ∧ c.toNat ≤ 57 := Char.isDigit_iff_toNat.mp h
  rw [charByte, UInt8.toNat_ofNat']
  exact Nat.mod_eq_of_lt (by omega)

/-- Each byte of a number is a digit. -/
lemma mem_decimal {n : ℕ} {b : UInt8} (h : b ∈ decimal n) : isDigit b = true := by
  obtain ⟨c, hc, rfl⟩ := List.mem_map.mp h
  have hdigit := Nat.isDigit_of_mem_toDigits (by decide) (by decide) hc
  have hle : 48 ≤ c.toNat ∧ c.toNat ≤ 57 := Char.isDigit_iff_toNat.mp hdigit
  rw [isDigit, charByte_toNat hdigit, Bool.and_eq_true, decide_eq_true_eq, decide_eq_true_eq]
  exact hle

lemma decimal_ne_nil (n : ℕ) : decimal n ≠ [] := by
  rw [decimal, Ne, List.map_eq_nil_iff]
  exact Nat.toDigits_ne_nil

/-- **The digits of a number mean it.** -/
theorem decimalValue_decimal (n : ℕ) : decimalValue (decimal n) = n := by
  have hfold (l : List Char) (hl : ∀ c ∈ l, c.isDigit) (init : ℕ) :
      (l.map charByte).foldl (fun n b => 10 * n + (b.toNat - 48)) init =
        Nat.ofDigitChars 10 l init := by
    induction l generalizing init with
    | nil => simp
    | cons c l ih =>
        rw [List.map_cons, List.foldl_cons, Nat.ofDigitChars_cons,
          ih (fun c hc => hl c (List.mem_cons_of_mem _ hc)),
          charByte_toNat (hl c List.mem_cons_self)]
        rfl
  rw [decimalValue, decimal, hfold _ fun c hc =>
    Nat.isDigit_of_mem_toDigits (by decide) (by decide) hc]
  exact Nat.ofDigitChars_toDigits (by decide) (by decide)

lemma decimal_injective : Function.Injective decimal := fun m n h => by
  rw [← decimalValue_decimal m, h, decimalValue_decimal]

/-- How many digits a number has. -/
lemma length_decimal_le_iff {n k : ℕ} (hk : 0 < k) : (decimal n).length ≤ k ↔ n < 10 ^ k := by
  rw [decimal, List.length_map]
  exact Nat.length_toDigits_le_iff (by decide) hk

/-! ### Signs -/

/-- A number as `%d` prints it. -/
def signedDecimal (n : ℤ) : List UInt8 :=
  if n < 0 then charByte '-' :: decimal n.natAbs else decimal n.natAbs

/-- A 32-bit word as `%d` prints it. -/
def formatWord (x : UInt32) : List UInt8 := signedDecimal x.toBitVec.toInt

/-- `g_ascii_isspace`. -/
def isSpace (b : UInt8) : Bool := b.toNat = 32 || (9 ≤ b.toNat && b.toNat ≤ 13)

/-- `g_ascii_strtoull` to the base 10: white space, a sign and digits.  A number that is too large
is the largest one, and a sign is taken modulo `2 ^ 64`. -/
def strtoull (s : List UInt8) : UInt64 :=
  let s := s.dropWhile isSpace
  let negative := s.head? = some (charByte '-')
  let s := if negative ∨ s.head? = some (charByte '+') then s.tail else s
  let value := UInt64.ofNat (min (decimalValue (s.takeWhile isDigit)) (2 ^ 64 - 1))
  if negative then -value else value

/-- The digits of a number, from the first of them. -/
lemma decimal_cons (n : ℕ) : ∃ b digits, decimal n = b :: digits ∧ isDigit b = true := by
  obtain ⟨b, digits, h⟩ := List.exists_cons_of_ne_nil (decimal_ne_nil n)
  exact ⟨b, digits, h, mem_decimal (h ▸ List.mem_cons_self)⟩

lemma isDigit_ne {b c : UInt8} (h : isDigit b = true) (hc : isDigit c = false) : b ≠ c := by
  rintro rfl
  rw [h] at hc
  cases hc

lemma isSpace_of_isDigit {b : UInt8} (h : isDigit b = true) : isSpace b = false := by
  simp only [isDigit, Bool.and_eq_true, decide_eq_true_eq] at h
  simp only [isSpace, Bool.or_eq_false_iff, Bool.and_eq_false_iff, decide_eq_false_iff_not]
  omega

lemma takeWhile_decimal (n : ℕ) : (decimal n).takeWhile isDigit = decimal n :=
  List.takeWhile_eq_self_iff.mpr fun _ => mem_decimal

/-- A number without a sign. -/
lemma strtoull_decimal {n : ℕ} (h : n < 2 ^ 64) : strtoull (decimal n) = UInt64.ofNat n := by
  obtain ⟨b, digits, hcons, hb⟩ := decimal_cons n
  have hdrop : (decimal n).dropWhile isSpace = decimal n := by
    rw [hcons, List.dropWhile_cons_of_neg (by simp [isSpace_of_isDigit hb])]
  have hhead : (decimal n).head? = some b := by rw [hcons]; rfl
  have hminus : b ≠ charByte '-' := isDigit_ne hb (by decide)
  have hplus : b ≠ charByte '+' := isDigit_ne hb (by decide)
  rw [strtoull, hdrop, hhead]
  simp only [Option.some.injEq, hminus, hplus, or_self, if_false]
  rw [takeWhile_decimal, decimalValue_decimal, min_eq_left (by omega)]

/-- A number with a sign. -/
lemma strtoull_neg_decimal {n : ℕ} (h : n < 2 ^ 64) :
    strtoull (charByte '-' :: decimal n) = -UInt64.ofNat n := by
  have hdrop : (charByte '-' :: decimal n).dropWhile isSpace = charByte '-' :: decimal n :=
    List.dropWhile_cons_of_neg (by decide)
  rw [strtoull, hdrop]
  simp only [List.head?_cons, true_or, if_true, List.tail_cons]
  rw [takeWhile_decimal, decimalValue_decimal, min_eq_left (by omega)]

/-- **A word is read as it was printed.** -/
theorem strtoull_formatWord (x : UInt32) : (strtoull (formatWord x)).toUInt32 = x := by
  have hlt := x.toBitVec.isLt
  have hint := BitVec.toInt_eq_toNat_cond x.toBitVec
  rw [formatWord, signedDecimal]
  split_ifs with hneg
  · rw [strtoull_neg_decimal (by omega)]
    apply UInt32.toNat_inj.mp
    rw [UInt64.toNat_toUInt32, UInt64.toNat_neg, UInt64.toNat_ofNat',
      show UInt64.size = 2 ^ 64 from rfl]
    have hx : x.toBitVec.toNat = x.toNat := rfl
    omega
  · rw [strtoull_decimal (by omega)]
    apply UInt32.toNat_inj.mp
    rw [UInt64.toNat_toUInt32, UInt64.toNat_ofNat']
    have hx : x.toBitVec.toNat = x.toNat := rfl
    omega

/-- A signed number is a sign and digits. -/
lemma mem_signedDecimal {n : ℤ} {b : UInt8} (h : b ∈ signedDecimal n) :
    isDigit b = true ∨ b = charByte '-' := by
  rw [signedDecimal] at h
  split_ifs at h
  · rcases List.mem_cons.mp h with rfl | h
    · exact .inr rfl
    · exact .inl (mem_decimal h)
  · exact .inl (mem_decimal h)

end LibNice.Foundation
