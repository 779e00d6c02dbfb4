import LibNice.Foundation.Memory

/-!
Type-length-value records and the blocks of bytes they tile.

A record is a 16 bit type, a 16 bit length and a body; how many bytes the body
of a record of length `l` takes is given by a function `step`, so that padded
and unpadded formats are two instances of one.

* `Tlv`: a record, which carries the fact that its body fits its length.
* `encodeAll`, `Tiled`: the bytes of a list of records, and the blocks that
  arise so.  `encodeAll_injective`: a block is tiled in at most one way.
* `tiled_iff`: the first record of a tiled block can be read off its first four
  bytes, and what is left is tiled again.  The length walk of a parser is an
  induction along this equivalence.
* `scan`: the first record of a given type, given up at a record that ends the
  search; `scan_eq_some` and `scan_eq_none` say what it finds, and
  `scan_append_stop` what it does not look at.
-/

namespace LibNice.Foundation

/-- A type-length-value record whose body takes `step l` bytes when its length
field is `l`. -/
structure Tlv (step : ℕ → ℕ) where
  type : UInt16
  len : UInt16
  body : Bytes
  body_length : body.length = step len.toNat

namespace Tlv

variable {step : ℕ → ℕ}

/-- The bytes of a record. -/
def encode (r : Tlv step) : Bytes := be16 r.type.toNat ++ be16 r.len.toNat ++ r.body

/-- The value of a record: its body without the padding. -/
def value (r : Tlv step) : Bytes := r.body.take r.len.toNat

@[simp] lemma encode_length (r : Tlv step) : r.encode.length = 4 + step r.len.toNat := by
  simp [encode, r.body_length]
  omega

lemma value_length (hs : ∀ l, l ≤ step l) (r : Tlv step) : r.value.length = r.len.toNat := by
  have := hs r.len.toNat
  rw [value, List.length_take, r.body_length]
  omega

lemma ext' {r s : Tlv step} (ht : r.type = s.type) (hl : r.len = s.len) (hb : r.body = s.body) :
    r = s := by
  cases r; cases s; simp_all

end Tlv

variable {step : ℕ → ℕ}

/-- The bytes of a list of records. -/
def encodeAll (rs : List (Tlv step)) : Bytes := rs.flatMap Tlv.encode

/-- The block `b` is tiled exactly by records. -/
def Tiled (step : ℕ → ℕ) (b : Bytes) : Prop := ∃ rs : List (Tlv step), b = encodeAll rs

@[simp] lemma encodeAll_nil : encodeAll ([] : List (Tlv step)) = [] := rfl

@[simp] lemma encodeAll_cons (r : Tlv step) (rs : List (Tlv step)) :
    encodeAll (r :: rs) = r.encode ++ encodeAll rs := rfl

@[simp] lemma encodeAll_append (rs ss : List (Tlv step)) :
    encodeAll (rs ++ ss) = encodeAll rs ++ encodeAll ss := by
  simp [encodeAll]

lemma encodeAll_singleton (r : Tlv step) : encodeAll [r] = r.encode := by simp

/-! ### Reading a record back -/

lemma encode_eq (r : Tlv step) :
    r.encode = UInt8.ofNat (r.type.toNat / 256) :: UInt8.ofNat r.type.toNat ::
      UInt8.ofNat (r.len.toNat / 256) :: UInt8.ofNat r.len.toNat :: r.body := rfl

/-- The type field of a record at the front of a block. -/
lemma readWord_type (pre rest : Bytes) (r : Tlv step) :
    readWord (pre ++ (r.encode ++ rest)) pre.length = .ok r.type := by
  have h := @readWord_append pre (be16 r.len.toNat ++ r.body ++ rest) pre.length r.type.toNat rfl
  simpa [Tlv.encode] using h

/-- The length field of a record at the front of a block. -/
lemma readWord_len (pre rest : Bytes) (r : Tlv step) :
    readWord (pre ++ (r.encode ++ rest)) (pre.length + 2) = .ok r.len := by
  have h := @readWord_append (pre ++ be16 r.type.toNat) (r.body ++ rest) (pre.length + 2)
    r.len.toNat (by simp)
  simpa [Tlv.encode] using h

/-- The body of a record at the front of a block. -/
lemma readSlice_body (pre rest : Bytes) (r : Tlv step) {n : ℕ} (hn : n ≤ r.body.length) :
    readSlice (pre ++ (r.encode ++ rest)) (pre.length + 4) n = .ok (r.body.take n) := by
  have hbody := r.body_length
  rw [readSlice_of_le (by simp; omega)]
  have hdrop : (pre ++ (r.encode ++ rest)).drop (pre.length + 4) = r.body ++ rest := by
    rw [List.drop_append, List.drop_eq_nil_of_le (by omega)]
    simp [encode_eq]
  rw [hdrop, List.take_append_of_le_length hn]

/-- A record and the bytes behind it are determined by their concatenation. -/
lemma encode_append_inj {r s : Tlv step} {u v : Bytes} (h : r.encode ++ u = s.encode ++ v) :
    r = s ∧ u = v := by
  have ht : r.type = s.type := by
    have h1 := readWord_type [] u r
    have h2 := readWord_type [] v s
    rw [h] at h1
    exact Except.ok.inj (h1.symm.trans h2)
  have hl : r.len = s.len := by
    have h1 := readWord_len [] u r
    have h2 := readWord_len [] v s
    rw [h] at h1
    exact Except.ok.inj (h1.symm.trans h2)
  have hlen : r.encode.length = s.encode.length := by simp [hl]
  obtain ⟨he, huv⟩ := List.append_inj h hlen
  have hb : r.body = s.body := by
    have := congrArg (List.drop 4) he
    simpa [encode_eq] using this
  exact ⟨Tlv.ext' ht hl hb, huv⟩

/-- A block is tiled by at most one list of records. -/
theorem encodeAll_injective : Function.Injective (@encodeAll step) := by
  intro rs
  induction rs with
  | nil =>
      intro ss h
      cases ss with
      | nil => rfl
      | cons s ss => simp [encode_eq] at h
  | cons r rs ih =>
      intro ss h
      cases ss with
      | nil => simp [encode_eq] at h
      | cons s ss =>
          obtain ⟨rfl, hrest⟩ := encode_append_inj (by simpa using h)
          rw [ih hrest]

/-! ### Tilings -/

lemma tiled_nil : Tiled step [] := ⟨[], rfl⟩

/-- A block is tiled when it is empty, or when the first four bytes announce a
record that fits and the bytes behind that record are tiled. -/
theorem tiled_iff {b : Bytes} :
    Tiled step b ↔ b = [] ∨ ∃ t₁ t₂ l₁ l₂ : UInt8, ∃ rest : Bytes,
      b = t₁ :: t₂ :: l₁ :: l₂ :: rest ∧ step (word16 l₁ l₂).toNat ≤ rest.length ∧
        Tiled step (rest.drop (step (word16 l₁ l₂).toNat)) := by
  constructor
  · rintro ⟨rs, rfl⟩
    cases rs with
    | nil => exact .inl rfl
    | cons r rs =>
        refine .inr ⟨_, _, _, _, r.body ++ encodeAll rs, rfl, ?_, rs, ?_⟩
        · rw [word16_be16, UInt16.ofNat_toNat, List.length_append, r.body_length]
          omega
        · rw [word16_be16, UInt16.ofNat_toNat, ← r.body_length, List.drop_left]
  · rintro (rfl | ⟨t₁, t₂, l₁, l₂, rest, rfl, hle, rs, hrs⟩)
    · exact tiled_nil
    · let r : Tlv step :=
        { type := word16 t₁ t₂
          len := word16 l₁ l₂
          body := rest.take (step (word16 l₁ l₂).toNat)
          body_length := by rw [List.length_take]; omega }
      refine ⟨r :: rs, ?_⟩
      simp only [encodeAll_cons, Tlv.encode, r, be16_word16, ← hrs]
      simp

/-! ### Searching -/

/-- The offset of the value and the length field of the first record of type
`type` in the records `rs`, the first of which lies at offset `off`; the search
ends at a record whose type satisfies `stop`. -/
def scan (stop : UInt16 → Bool) (type : UInt16) : ℕ → List (Tlv step) → Option (ℕ × UInt16)
  | _, [] => none
  | off, r :: rs =>
      if r.type = type then some (off + 4, r.len)
      else if stop r.type then none
      else scan stop type (off + r.encode.length) rs

/-- What `scan` finds is the first record of its type, and no record before it
ends the search. -/
theorem scan_eq_some {stop : UInt16 → Bool} {type : UInt16} {off : ℕ} {rs : List (Tlv step)}
    {p : ℕ × UInt16} :
    scan stop type off rs = some p ↔
      ∃ pre r post, rs = pre ++ r :: post ∧ r.type = type ∧
        (∀ s ∈ pre, s.type ≠ type ∧ stop s.type = false) ∧
        p = (off + (encodeAll pre).length + 4, r.len) := by
  induction rs generalizing off with
  | nil => simp [scan]
  | cons x xs ih =>
      rw [scan]
      split
      next hx =>
        constructor
        · rintro ⟨⟩
          exact ⟨[], x, xs, rfl, hx, by simp, by simp⟩
        · rintro ⟨pre, r, post, hrs, hr, hpre, rfl⟩
          cases pre with
          | nil =>
              simp only [List.nil_append, List.cons.injEq] at hrs
              obtain ⟨rfl, -⟩ := hrs
              simp
          | cons y ys =>
              simp only [List.cons_append, List.cons.injEq] at hrs
              obtain ⟨rfl, -⟩ := hrs
              exact absurd hx (hpre x (by simp)).1
      next hx =>
        split
        next hstop =>
          simp only [reduceCtorEq, false_iff, not_exists, not_and]
          rintro pre r post hrs hr hpre
          cases pre with
          | nil =>
              simp only [List.nil_append, List.cons.injEq] at hrs
              exact absurd (hrs.1 ▸ hr) hx
          | cons y ys =>
              simp only [List.cons_append, List.cons.injEq] at hrs
              obtain ⟨rfl, -⟩ := hrs
              simp [hstop] at hpre
        next hstop =>
          rw [ih]
          constructor
          · rintro ⟨pre, r, post, rfl, hr, hpre, rfl⟩
            refine ⟨x :: pre, r, post, rfl, hr, ?_, ?_⟩
            · intro s hs
              rcases List.mem_cons.mp hs with rfl | hs
              · exact ⟨hx, by simpa using hstop⟩
              · exact hpre s hs
            · simp only [encodeAll_cons, List.length_append, Prod.mk.injEq, and_true]
              omega
          · rintro ⟨pre, r, post, hrs, hr, hpre, rfl⟩
            cases pre with
            | nil =>
                simp only [List.nil_append, List.cons.injEq] at hrs
                exact absurd (hrs.1 ▸ hr) hx
            | cons y ys =>
                simp only [List.cons_append, List.cons.injEq] at hrs
                obtain ⟨rfl, rfl⟩ := hrs
                refine ⟨ys, r, post, rfl, hr, fun s hs => hpre s (by simp [hs]), ?_⟩
                simp only [encodeAll_cons, List.length_append, Prod.mk.injEq, and_true]
                omega

/-- `scan` finds nothing exactly when every record of the type comes behind one
that ends the search. -/
theorem scan_eq_none {stop : UInt16 → Bool} {type : UInt16} {off : ℕ} {rs : List (Tlv step)} :
    scan stop type off rs = none ↔
      ∀ pre r post, rs = pre ++ r :: post → r.type = type →
        ∃ s ∈ pre, s.type = type ∨ stop s.type = true := by
  constructor
  · intro h pre r post hrs hr
    by_contra hno
    push Not at hno
    have hsome : scan stop type off rs = some (off + (encodeAll pre).length + 4, r.len) :=
      scan_eq_some.mpr ⟨pre, r, post, hrs, hr, fun s hs => by simpa using hno s hs, rfl⟩
    simp [h] at hsome
  · intro h
    rw [Option.eq_none_iff_forall_not_mem]
    intro p hp
    obtain ⟨pre, r, post, hrs, hr, hpre, -⟩ := scan_eq_some.mp hp
    obtain ⟨s, hs, hbad⟩ := h pre r post hrs hr
    have := hpre s hs
    simp_all

/-- What comes behind a record that is found or ends the search does not matter. -/
theorem scan_append_stop {stop : UInt16 → Bool} {type : UInt16} {r : Tlv step}
    (hr : r.type = type ∨ stop r.type = true) (off : ℕ) (rs ts : List (Tlv step)) :
    scan stop type off (rs ++ r :: ts) = scan stop type off (rs ++ [r]) := by
  induction rs generalizing off with
  | nil =>
      rw [List.nil_append, List.nil_append, scan, scan]
      rcases hr with hr | hr
      · rw [if_pos hr, if_pos hr]
      · rw [if_pos hr, if_pos hr]
  | cons x xs ih => rw [List.cons_append, List.cons_append, scan, scan, ih]

end LibNice.Foundation
