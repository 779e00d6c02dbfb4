import LibNice.Stun.Finish

/-!
The SOFTWARE attribute (`stun_message_append_software` of `stun/stun5389.c`): where the walk over
the characters of a string stops.

* `CString`: a string that a zero ends in memory.
* `IsBlock`, `Cut`: a first byte with as many bytes after it as `utf8_skip_data` says, and a string
  that is cut after a number of them.
* `softwareLoop_eq_ok`: the walk stops inside the string exactly where there is a cut.
* `cut_text`: a text in UTF-8 is cut after whole characters.
* `truncates_iff`: **the attribute is a part of the string** exactly when there is a cut;
  `truncated_character_overrun` is a string whose last character is not complete.
-/

namespace LibNice.Stun

open LibNice.Foundation

/-! ### Strings -/

/-- A string of bytes, without the zero that ends it. -/
structure CString where
  bytes : Bytes
  nonzero : (0 : UInt8) ∉ bytes

/-- The string with its zero. -/
def CString.memory (s : CString) : Bytes := s.bytes ++ [0]

/-- A first byte with as many bytes after it as `utf8_skip_data` says. -/
def IsBlock (b : Bytes) : Prop := ∃ c cs, b = c :: cs ∧ b.length = utf8SkipData c

/-- The string `s` starts with `v`, which is made of `room` blocks, or of fewer if it is all of
`s`. -/
structure Cut (room : ℕ) (s v : Bytes) : Prop where
  blocks : ∃ blocks : List Bytes, v = blocks.flatten ∧ (∀ b ∈ blocks, IsBlock b) ∧
    blocks.length ≤ room ∧ (blocks.length < room → v = s)
  start : v <+: s

/-- What is asked of the SOFTWARE attribute of a string: the walk stops inside the string, the value
is a start of it, and of a text it is the first 128 characters, or all of them. -/
structure Truncates (s : CString) : Prop where
  stops : ∃ ptr ≤ s.bytes.length, softwareLoop s.memory 128 0 = .ok ptr
  start : ∃ v, v <+: s.bytes ∧ ∀ msg, stunMessageAppendSoftware msg (some s.memory) =
    stunMessageAppendBytes msg STUN_ATTRIBUTE_SOFTWARE v
  whole : ∀ text : List Char, s.bytes = text.flatMap String.utf8EncodeChar → ∀ msg,
    stunMessageAppendSoftware msg (some s.memory) = stunMessageAppendBytes msg
      STUN_ATTRIBUTE_SOFTWARE
      ((text.take (min 128 text.length)).flatMap String.utf8EncodeChar)

/-! ### Cuts -/

section Cut

variable {room : ℕ} {s v : Bytes} {c : UInt8}

lemma utf8SkipData_pos (c : UInt8) : 0 < utf8SkipData c := by
  rw [utf8SkipData]
  split_ifs <;> decide

lemma cut_nil : Cut room [] v ↔ v = [] := by
  constructor
  · exact fun h => List.prefix_nil.mp h.start
  · rintro rfl
    exact ⟨⟨[], rfl, by simp, Nat.zero_le _, fun _ => rfl⟩, List.prefix_rfl⟩

lemma cut_zero : Cut 0 s v ↔ v = [] := by
  constructor
  · intro h
    obtain ⟨blocks, rfl, -, hlen, -⟩ := h.blocks
    rw [List.length_eq_zero_iff.mp (Nat.le_zero.mp hlen)]
    rfl
  · rintro rfl
    exact ⟨⟨[], rfl, by simp, le_rfl, fun h => absurd h (lt_irrefl 0)⟩, List.nil_prefix⟩

/-- A cut of a string that is not empty starts with the block of its first byte, which is inside the
string. -/
lemma cut_cons : Cut (room + 1) (c :: s) v ↔ utf8SkipData c ≤ (c :: s).length ∧
    ∃ v', v = (c :: s).take (utf8SkipData c) ++ v' ∧
      Cut room ((c :: s).drop (utf8SkipData c)) v' := by
  constructor
  · rintro ⟨⟨blocks, rfl, hblocks, hlen, hall⟩, hstart⟩
    cases blocks with
    | nil => exact absurd (hall (Nat.succ_pos room)) (List.cons_ne_nil c s).symm
    | cons b blocks =>
        obtain ⟨c', cs, rfl, hb⟩ := hblocks b List.mem_cons_self
        rw [List.flatten_cons] at hstart hall
        obtain ⟨rest, hrest⟩ := hstart
        rw [List.append_assoc] at hrest
        obtain rfl : c' = c := (List.cons.inj hrest).1
        have hle : utf8SkipData c' ≤ (c' :: s).length := by
          rw [← hb, ← hrest, List.length_append]
          exact Nat.le_add_right _ _
        have htake : (c' :: s).take (utf8SkipData c') = c' :: cs := by
          rw [← hb, ← hrest, List.take_left]
        have hdrop : (c' :: s).drop (utf8SkipData c') = blocks.flatten ++ rest := by
          rw [← hb, ← hrest, List.drop_left]
        refine ⟨hle, blocks.flatten, by rw [htake, List.flatten_cons], ⟨blocks, rfl,
          fun b hb => hblocks b (List.mem_cons_of_mem _ hb), Nat.le_of_succ_le_succ hlen,
          fun hlt => ?_⟩, ⟨rest, hdrop.symm⟩⟩
        have heq := hall (Nat.succ_lt_succ hlt)
        rw [← hrest] at heq
        rw [hdrop]
        exact List.append_cancel_left heq
  · rintro ⟨hle, v', rfl, ⟨blocks, rfl, hblocks, hlen, hall⟩, hstart⟩
    have hblock : IsBlock ((c :: s).take (utf8SkipData c)) := by
      refine ⟨c, s.take (utf8SkipData c - 1), ?_, by rw [List.length_take, min_eq_left hle]⟩
      rw [List.take_cons (utf8SkipData_pos c)]
    refine ⟨⟨(c :: s).take (utf8SkipData c) :: blocks, (List.flatten_cons).symm, fun b hb => ?_,
      Nat.succ_le_succ hlen, fun hlt => ?_⟩, ?_⟩
    · rcases List.mem_cons.mp hb with rfl | hb
      · exact hblock
      · exact hblocks b hb
    · rw [hall (Nat.lt_of_succ_lt_succ hlt), List.take_append_drop]
    · obtain ⟨rest, hrest⟩ := hstart
      exact ⟨rest, by rw [List.append_assoc, hrest, List.take_append_drop]⟩

/-- **The walk** over a string stops inside it exactly where it can be cut.  By induction on the
room for characters; `pre` is what the walk has passed. -/
lemma softwareLoop_eq_ok {ptr : ℕ} : ∀ (room : ℕ) (pre s : Bytes), (0 : UInt8) ∉ s →
    (softwareLoop (pre ++ s ++ [0]) room pre.length = .ok ptr ↔
      ∃ v, Cut room s v ∧ ptr = pre.length + v.length) := by
  have hstop {room : ℕ} {pre s : Bytes} (hcut : ∀ v, Cut room s v ↔ v = [])
      (hloop : softwareLoop (pre ++ s ++ [0]) room pre.length = .ok pre.length) :
      softwareLoop (pre ++ s ++ [0]) room pre.length = .ok ptr ↔
        ∃ v, Cut room s v ∧ ptr = pre.length + v.length := by
    rw [hloop]
    constructor
    · intro h
      exact ⟨[], (hcut []).mpr rfl, (Except.ok.inj h).symm⟩
    · rintro ⟨v, hv, rfl⟩
      rw [(hcut v).mp hv]
      rfl
  intro room
  induction room with
  | zero =>
      intro pre s hs
      refine hstop (fun v => cut_zero) ?_
      rw [softwareLoop]
      cases s with
      | nil => rw [List.append_nil, readByte_append rfl]; rfl
      | cons c s =>
          rw [List.append_assoc, List.cons_append, readByte_append rfl]
          change (if c = 0 then _ else _) = _
          rw [ite_self]
          rfl
  | succ room ih =>
      intro pre s hs
      cases s with
      | nil =>
          refine hstop (fun v => cut_nil) ?_
          rw [softwareLoop, List.append_nil, readByte_append rfl]
          rfl
      | cons c s =>
          have hc : c ≠ 0 := fun h => hs (h ▸ List.mem_cons_self)
          have hstep : softwareLoop (pre ++ c :: s ++ [0]) (room + 1) pre.length =
              softwareLoop (pre ++ c :: s ++ [0]) room (pre.length + utf8SkipData c) := by
            rw [softwareLoop]
            have hread : readByte (pre ++ c :: s ++ [0]) pre.length = .ok c := by
              rw [List.append_assoc, List.cons_append]
              exact readByte_append rfl
            rw [hread]
            exact if_neg hc
          rw [hstep]
          simp only [cut_cons]
          by_cases hle : utf8SkipData c ≤ (c :: s).length
          · set block := (c :: s).take (utf8SkipData c) with hblock
            set rest := (c :: s).drop (utf8SkipData c) with hrest
            have hlen : (pre ++ block).length = pre.length + utf8SkipData c := by
              rw [List.length_append, hblock, List.length_take, min_eq_left hle]
            have hmem : pre ++ c :: s ++ [0] = pre ++ block ++ rest ++ [0] := by
              rw [List.append_assoc pre block rest, hblock, hrest, List.take_append_drop]
            rw [hmem, ← hlen, ih (pre ++ block) rest fun h => hs (List.mem_of_mem_drop h)]
            constructor
            · rintro ⟨v', hv', rfl⟩
              exact ⟨block ++ v', ⟨hle, v', rfl, hv'⟩, by
                rw [List.length_append, List.length_append, Nat.add_assoc]⟩
            · rintro ⟨v, ⟨-, v', rfl, hv'⟩, rfl⟩
              exact ⟨v', hv', by rw [List.length_append, List.length_append, Nat.add_assoc]⟩
          · -- the block goes over the zero
            have hout : (pre ++ c :: s ++ [0]).length ≤ pre.length + utf8SkipData c := by
              rw [List.length_append, List.length_append, List.length_singleton]
              omega
            have hread := readByte_error hout
            constructor
            · intro h
              cases room <;> rw [softwareLoop, hread] at h <;> cases h
            · rintro ⟨v, ⟨hle', -⟩, -⟩
              exact absurd hle' hle

end Cut

/-! ### Texts -/

/-- The first byte of a character in UTF-8 tells how many there are. -/
lemma isBlock_utf8EncodeChar (c : Char) : IsBlock (String.utf8EncodeChar c) := by
  have hskip {n : ℕ} (hn : n < 256) : utf8SkipData (UInt8.ofNat n) =
      if n < 0xc0 then 1 else if n < 0xe0 then 2 else if n < 0xf0 then 3 else if n < 0xf8 then 4
      else if n < 0xfc then 5 else if n < 0xfe then 6 else 1 := by
    simp only [utf8SkipData, UInt8.lt_iff_toNat_lt, UInt8.toNat_ofNat_of_lt' hn]
    rfl
  have hchar : c.val.toNat < 0x110000 := by
    have h := c.valid
    rcases h with h | h
    · exact lt_trans h (by decide)
    · exact h.2
  rw [String.utf8EncodeChar]
  split_ifs with h1 h2 h3
  · exact ⟨_, _, rfl, by rw [hskip (by omega), if_pos (by omega)]; rfl⟩
  · refine ⟨_, _, rfl, ?_⟩
    rw [hskip (by omega), if_neg (by omega), if_pos (by omega)]
    rfl
  · refine ⟨_, _, rfl, ?_⟩
    rw [hskip (by omega), if_neg (by omega), if_neg (by omega), if_pos (by omega)]
    rfl
  · refine ⟨_, _, rfl, ?_⟩
    rw [hskip (by omega), if_neg (by omega), if_neg (by omega), if_neg (by omega),
      if_pos (by omega)]
    rfl

/-- **A text in UTF-8** is cut after whole characters. -/
lemma cut_text (room : ℕ) (text : List Char) : Cut room (text.flatMap String.utf8EncodeChar)
    ((text.take room).flatMap String.utf8EncodeChar) := by
  refine ⟨⟨(text.take room).map String.utf8EncodeChar, List.flatMap_def, fun b hb => ?_, ?_,
    fun hlt => ?_⟩, (text.drop room).flatMap String.utf8EncodeChar, ?_⟩
  · obtain ⟨c, -, rfl⟩ := List.mem_map.mp hb
    exact isBlock_utf8EncodeChar c
  · rw [List.length_map, List.length_take]
    exact min_le_left _ _
  · rw [List.length_map, List.length_take] at hlt
    rw [List.take_of_length_le (by omega)]
  · rw [← List.flatMap_append, List.take_append_drop]

/-! ### The attribute -/

section Attribute

variable {s : CString} {v : Bytes}

/-- The walk over a string with its zero. -/
lemma CString.softwareLoop_iff (s : CString) {ptr : ℕ} : softwareLoop s.memory 128 0 = .ok ptr ↔
    ∃ v, Cut 128 s.bytes v ∧ ptr = v.length := by
  have h := @softwareLoop_eq_ok ptr 128 [] s.bytes s.nonzero
  simpa [CString.memory] using h

/-- The value that is appended is what the string is cut to. -/
lemma stunMessageAppendSoftware_of_cut (h : Cut 128 s.bytes v) (msg : StunMessage) :
    stunMessageAppendSoftware msg (some s.memory) =
      stunMessageAppendBytes msg STUN_ATTRIBUTE_SOFTWARE v := by
  have hloop := s.softwareLoop_iff.mpr ⟨v, h, rfl⟩
  obtain ⟨rest, hrest⟩ := h.start
  have hread : readSlice s.memory 0 v.length = .ok v := by
    rw [CString.memory, ← hrest, List.append_assoc,
      readSlice_of_le (by rw [Nat.zero_add, List.length_append]; exact Nat.le_add_right _ _),
      List.drop_zero, List.take_left]
  unfold stunMessageAppendSoftware
  dsimp only [Option.getD_some]
  rw [hloop]
  dsimp only [bind, Except.bind]
  rw [hread]

/-- **SOFTWARE truncation.**  The attribute is a start of the string, and the walk does not leave
it, exactly when the string can be cut: no first byte that the walk comes to says that there are
more bytes than are left. -/
theorem truncates_iff (s : CString) : Truncates s ↔ ∃ v, Cut 128 s.bytes v := by
  constructor
  · rintro ⟨⟨ptr, -, hloop⟩, -, -⟩
    obtain ⟨v, hv, -⟩ := s.softwareLoop_iff.mp hloop
    exact ⟨v, hv⟩
  · rintro ⟨v, hv⟩
    refine ⟨⟨v.length, hv.start.length_le, s.softwareLoop_iff.mpr ⟨v, hv, rfl⟩⟩,
      ⟨v, hv.start, stunMessageAppendSoftware_of_cut hv⟩, fun text htext msg => ?_⟩
    have hcut : Cut 128 s.bytes ((text.take 128).flatMap String.utf8EncodeChar) :=
      htext ▸ cut_text 128 text
    rw [stunMessageAppendSoftware_of_cut hcut, ← List.take_eq_take_min]

/-- A text in UTF-8 is truncated as it should be. -/
theorem truncates_text (s : CString) (text : List Char)
    (h : s.bytes = text.flatMap String.utf8EncodeChar) : Truncates s :=
  (truncates_iff s).mpr ⟨_, h ▸ cut_text 128 text⟩

/-- **A character that is not complete**: of the text `café` in UTF-8 the last byte is missing, and
the walk goes over the zero. -/
theorem truncated_character_overrun : ¬∀ s : CString, Truncates s := by
  intro h
  obtain ⟨ptr, -, hloop⟩ := (h ⟨[0x63, 0x61, 0x66, 0xc3], by decide⟩).stops
  have hfault : softwareLoop (CString.memory ⟨[0x63, 0x61, 0x66, 0xc3], by decide⟩) 128 0 =
      .error .outOfBounds := by decide
  rw [hfault] at hloop
  cases hloop

end Attribute

end LibNice.Stun
