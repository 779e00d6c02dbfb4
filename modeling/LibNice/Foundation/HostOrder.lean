import LibNice.Foundation.Memory

/-!
The byte order of the host.

* `hostBytes`: the bytes of a word in the memory of the host.
* `ntohl`: the conversion between the byte order of the network and the one of the host, which is
  `htonl` too; `hostBytes_ntohl` says that a converted word lies in memory as the network has it.
* `ntohl_byte_eq_iff`: when one byte, converted, is the word that it is the highest byte of.
-/

namespace LibNice.Foundation

/-- The order in which a host has the bytes of a word in its memory. -/
inductive ByteOrder where
  | littleEndian
  | bigEndian
deriving DecidableEq, Repr

/-- The bytes of a word in the memory of the host. -/
def hostBytes : ByteOrder → UInt32 → Bytes
  | .littleEndian, x => (be32 x).reverse
  | .bigEndian, x => be32 x

/-- `ntohl` and `htonl`: the word whose bytes are those of `x` in the other order, on a host that
does not have the order of the network. -/
def ntohl : ByteOrder → UInt32 → UInt32
  | .littleEndian, x =>
      word32 (UInt8.ofNat x.toNat) (UInt8.ofNat (x.toNat / 256)) (UInt8.ofNat (x.toNat / 65536))
        (UInt8.ofNat (x.toNat / 16777216))
  | .bigEndian, x => x

/-- A word that was converted lies in memory as the network has it. -/
lemma hostBytes_ntohl (o : ByteOrder) (x : UInt32) : hostBytes o (ntohl o x) = be32 x := by
  cases o with
  | littleEndian => rw [hostBytes, ntohl, be32_word32, be32]; rfl
  | bigEndian => rfl

/-- The words of which the highest byte alone makes the whole, once it is converted. -/
def WholeInByte : ByteOrder → UInt32 → Prop
  | .littleEndian, x => x % 16777216 = 0
  | .bigEndian, x => x = 0

instance (o : ByteOrder) (x : UInt32) : Decidable (WholeInByte o x) := by
  unfold WholeInByte
  cases o <;> infer_instance

/-- The highest byte of a word, taken for a word and converted, is the word itself exactly if the
word has no other bytes, or is zero on a host with the order of the network. -/
theorem ntohl_byte_eq_iff (o : ByteOrder) (x : UInt32) :
    ntohl o (UInt8.ofNat (x.toNat / 16777216)).toUInt32 = x ↔ WholeInByte o x := by
  have hx := x.toNat_lt
  have hlt : x.toNat / 16777216 < 256 := by omega
  have hbyte : (UInt8.ofNat (x.toNat / 16777216)).toUInt32.toNat = x.toNat / 16777216 := by
    rw [UInt8.toNat_toUInt32, UInt8.toNat_ofNat']
    omega
  rw [← UInt32.toNat_inj]
  cases o with
  | littleEndian =>
      have hmod : x % 16777216 = 0 ↔ x.toNat % 16777216 = 0 := by
        rw [← UInt32.toNat_inj, UInt32.toNat_mod]
        rfl
      have hword : (word32 (UInt8.ofNat (x.toNat / 16777216)) 0 0 0).toNat =
          x.toNat / 16777216 * 16777216 := by
        simp only [word32, UInt32.toNat_ofNat', UInt8.toNat_ofNat', UInt8.toNat_zero]
        omega
      have hswap : ntohl .littleEndian (UInt8.ofNat (x.toNat / 16777216)).toUInt32 =
          word32 (UInt8.ofNat (x.toNat / 16777216)) 0 0 0 := by
        have h1 : x.toNat / 16777216 / 256 = 0 := by omega
        have h2 : x.toNat / 16777216 / 65536 = 0 := by omega
        have h3 : x.toNat / 16777216 / 16777216 = 0 := by omega
        rw [ntohl, hbyte, h1, h2, h3]
        rfl
      rw [WholeInByte, hmod, hswap, hword]
      omega
  | bigEndian =>
      have hzero : x = 0 ↔ x.toNat = 0 := by
        rw [← UInt32.toNat_inj]
        simp
      rw [WholeInByte, hzero, ntohl, hbyte]
      omega

end LibNice.Foundation
