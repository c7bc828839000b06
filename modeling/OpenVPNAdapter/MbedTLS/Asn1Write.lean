import OpenVPNAdapter.MbedTLS.Bignum

namespace OpenVPNAdapter.MbedTLS

open Library.BigEndian

/-- A buffer that is written backwards: the room before `p`, and the bytes from `p` on. -/
structure Writer where
  room : Nat
  out : Bytes
deriving DecidableEq, Repr

/-- The bytes written since `base`. -/
def Writer.since (w base : Writer) : Nat := w.out.length - base.out.length

/-- `mbedtls_asn1_write_raw_buffer`, and `*--(*p) = b` with its check. -/
def asn1WriteRawBuffer (buf : Bytes) (w : Writer) : Except Failure Writer :=
  if w.room < buf.length then .error .asn1BufTooSmall else .ok ⟨w.room - buf.length, buf ++ w.out⟩

def asn1WriteLen (len : Nat) : Writer → Except Failure Writer :=
  if len < 0x80 then asn1WriteRawBuffer [UInt8.ofNat len]
  else if len ≤ 0xFF then asn1WriteRawBuffer (0x81 :: digits 1 len)
  else if len ≤ 0xFFFF then asn1WriteRawBuffer (0x82 :: digits 2 len)
  else if len ≤ 0xFFFFFF then asn1WriteRawBuffer (0x83 :: digits 3 len)
  else if len ≤ 0xFFFFFFFF then asn1WriteRawBuffer (0x84 :: digits 4 len)
  else fun _ => .error .asn1InvalidLength

def asn1WriteTag (tag : UInt8) : Writer → Except Failure Writer := asn1WriteRawBuffer [tag]

/-- `if( **p & 0x80 )`, which looks at what was written last. -/
def asn1WriteSign (w : Writer) : Except Failure Writer :=
  if ∃ b ∈ w.out.head?, b &&& 0x80 ≠ 0 then asn1WriteRawBuffer [0] w else .ok w

def asn1WriteMpi (x : Nat) (base : Writer) : Except Failure Writer := do
  let w ← asn1WriteRawBuffer (digits (byteLength x) x) base
  let w ← asn1WriteSign w
  let w ← asn1WriteLen (w.since base) w
  asn1WriteTag asn1Integer w

/-- For a `val` below 128, which is all that is written. -/
def asn1WriteInt (val : UInt8) (base : Writer) : Except Failure Writer := do
  let w ← asn1WriteRawBuffer [val] base
  let w ← if val > 0 ∧ val &&& 0x80 ≠ 0 then asn1WriteRawBuffer [0] w else .ok w
  let w ← asn1WriteLen (w.since base) w
  asn1WriteTag asn1Integer w

def asn1WriteOid (oid : Bytes) (base : Writer) : Except Failure Writer := do
  let w ← asn1WriteRawBuffer oid base
  let w ← asn1WriteLen (w.since base) w
  asn1WriteTag asn1Oid w

def asn1WriteOctetString (buf : Bytes) (base : Writer) : Except Failure Writer := do
  let w ← asn1WriteRawBuffer buf base
  let w ← asn1WriteLen (w.since base) w
  asn1WriteTag asn1OctetString w

/-! What is written, as a whole. -/

def derLen (len : Nat) : Bytes :=
  if len < 0x80 then [UInt8.ofNat len]
  else if len ≤ 0xFF then 0x81 :: digits 1 len
  else if len ≤ 0xFFFF then 0x82 :: digits 2 len
  else if len ≤ 0xFFFFFF then 0x83 :: digits 3 len
  else 0x84 :: digits 4 len

def tlv (tag : UInt8) (content : Bytes) : Bytes := tag :: (derLen content.length ++ content)

def TopBit (bs : Bytes) : Prop := ∃ b ∈ bs.head?, b &&& 0x80 ≠ 0

instance (bs : Bytes) : Decidable (TopBit bs) := inferInstanceAs (Decidable (∃ b ∈ bs.head?, b &&& 0x80 ≠ 0))

/-- The bytes of a number, with a zero byte before a first bit that is set. -/
def signed (x : Nat) : Bytes :=
  if TopBit (digits (byteLength x) x) then 0 :: digits (byteLength x) x else digits (byteLength x) x

/-- One write after another is one write, and fails where it fails. -/
theorem write_write (a b : Bytes) (w : Writer) :
    (asn1WriteRawBuffer a w >>= asn1WriteRawBuffer b) = asn1WriteRawBuffer (b ++ a) w := by
  rw [asn1WriteRawBuffer, asn1WriteRawBuffer, List.length_append]
  split
  · rw [if_pos (by omega)]
    rfl
  · simp only [bind, Except.bind, asn1WriteRawBuffer, List.append_assoc]
    split
    · rw [if_pos (by omega)]
    · rw [if_neg (by omega), Nat.sub_sub, Nat.add_comm a.length]

theorem asn1WriteLen_eq {len : Nat} (h : len < 2 ^ 32) : asn1WriteLen len = asn1WriteRawBuffer (derLen len) := by
  rw [asn1WriteLen, derLen]
  split
  · rfl
  · split
    · rfl
    · split
      · rfl
      · split
        · rfl
        · rw [if_pos (by omega)]

theorem or_eq_add {a b k : Nat} (ha : 2 ^ k ∣ a) (hb : b < 2 ^ k) : a ||| b = a + b := by
  obtain ⟨c, rfl⟩ := ha
  exact (Nat.two_pow_add_eq_or_of_lt hb c).symm

theorem and_top_eq_zero (b : UInt8) : b &&& 0x80 = 0 ↔ b.toNat < 128 := by
  have hall : ∀ n < 256, n &&& 128 = 0 ↔ n < 128 := by decide +kernel
  rw [← UInt8.toNat_inj, UInt8.toNat_and]
  exact hall b.toNat b.toNat_lt

theorem derLen_spells {len : Nat} (h : len < 2 ^ 32) : Spells (derLen len) len := by
  have hbyte : ∀ n : Nat, (UInt8.ofNat n).toNat = n % 256 := fun n => UInt8.toNat_ofNat'
  rw [derLen]
  split
  · rename_i hshort
    have hclear : UInt8.ofNat len &&& 0x80 = 0 := (and_top_eq_zero _).mpr (by rw [hbyte]; omega)
    refine .of_within h (by simp) fun q => ?_
    simp only [List.singleton_append, asn1GetLen, if_pos hclear]
    rw [hbyte, Nat.mod_eq_of_lt (by omega)]
  · split
    · refine .of_within h (by simp [digits]) fun q => ?_
      change asn1Within (UInt8.ofNat len).toNat q = _
      rw [hbyte, Nat.mod_eq_of_lt (by omega)]
    · split
      · refine .of_within h (by simp [digits]) fun q => ?_
        change asn1Within ((UInt8.ofNat (len / 256)).toNat <<< 8 ||| (UInt8.ofNat len).toNat) q = _
        rw [hbyte, hbyte, Nat.shiftLeft_eq, or_eq_add (k := 8) (Dvd.intro_left _ rfl) (by omega)]
        congr 1
        omega
      · split
        · refine .of_within h (by simp [digits]) fun q => ?_
          change asn1Within
            ((UInt8.ofNat (len / 256 / 256)).toNat <<< 16 ||| (UInt8.ofNat (len / 256)).toNat <<< 8 |||
            (UInt8.ofNat len).toNat) q = _
          simp only [hbyte, Nat.shiftLeft_eq]
          rw [or_eq_add (k := 16) (Dvd.intro_left _ rfl) (by omega), or_eq_add (k := 8) (by omega) (by omega)]
          congr 1
          omega
        · refine .of_within h (by simp [digits]) fun q => ?_
          change asn1Within ((UInt8.ofNat (len / 256 / 256 / 256)).toNat <<< 24 |||
            (UInt8.ofNat (len / 256 / 256)).toNat <<< 16 ||| (UInt8.ofNat (len / 256)).toNat <<< 8 |||
            (UInt8.ofNat len).toNat) q = _
          simp only [hbyte, Nat.shiftLeft_eq]
          rw [or_eq_add (k := 24) (Dvd.intro_left _ rfl) (by omega),
            or_eq_add (k := 16) (b := _ * 2 ^ 8) (by omega) (by omega),
            or_eq_add (k := 8) (by omega) (by omega)]
          congr 1
          omega

theorem length_derLen_le {n : Nat} (h : n < 256) : (derLen n).length ≤ 2 := by
  rw [derLen]
  split
  · exact Nat.le_succ 1
  · rw [if_pos (by omega), List.length_cons, length_digits]

theorem length_tlv (tag : UInt8) (content : Bytes) :
    (tlv tag content).length = 1 + (derLen content.length).length + content.length := by
  rw [tlv, List.length_cons, List.length_append]
  omega

theorem length_tlv_le {tag : UInt8} {content : Bytes} {n : Nat} (h : content.length ≤ n) (hn : n < 256) :
    (tlv tag content).length ≤ n + 3 := by
  have hlen : (derLen content.length).length ≤ 2 := length_derLen_le (by omega)
  rw [length_tlv]
  omega

/-- What is written as a whole is read as a whole. -/
theorem asn1GetTag_tlv {tag : UInt8} {content : Bytes} (h : content.length < 2 ^ 32) (rest : Bytes) :
    asn1GetTag tag (tlv tag content ++ rest) = .ok (content.length, content ++ rest) := by
  rw [tlv, List.cons_append, List.append_assoc]
  exact (derLen_spells h).getTag tag (by rw [List.length_append]; omega)

/-- A first bit that is set means that the number takes all the bits of its bytes. -/
theorem topBit_digits {x : Nat} (h : 0 < x) :
    TopBit (digits (byteLength x) x) ↔ bitLength x = 8 * byteLength x := by
  have hpos := byteLength_pos h
  have hlt := lt_pow_byteLength x
  have hvalue := value_digits hlt
  have hle : bitLength x ≤ 8 * byteLength x := by rw [byteLength]; omega
  have hlength := length_digits (byteLength x) x
  cases hds : digits (byteLength x) x with
  | nil => rw [hds, List.length_nil] at hlength; omega
  | cons b bs =>
      rw [hds, List.length_cons] at hlength
      rw [hds, value_cons] at hvalue
      have hbs := value_lt bs
      have hset : TopBit (b :: bs) ↔ 128 ≤ b.toNat := by
        simp only [TopBit, List.head?_cons, Option.mem_some_iff, exists_eq_left', ne_eq,
            and_top_eq_zero, Nat.not_lt]
      have hhalf : bitLength x ≤ 8 * byteLength x - 1 ↔ x < 128 * 256 ^ bs.length := by
        rw [bitLength_le_iff, ← hlength, show 8 * (bs.length + 1) - 1 = 7 + 8 * bs.length by omega,
            pow_add, pow_mul]
        norm_num
      rw [hset]
      constructor
      · intro hb
        have hbig : 128 * 256 ^ bs.length ≤ b.toNat * 256 ^ bs.length := Nat.mul_le_mul_right _ hb
        omega
      · intro hbits
        by_contra hb
        have hsmall : (b.toNat + 1) * 256 ^ bs.length ≤ 128 * 256 ^ bs.length := Nat.mul_le_mul_right _ (by omega)
        rw [Nat.add_mul] at hsmall
        omega

theorem length_signed {x : Nat} (h : 0 < x) : (signed x).length = bitLength x / 8 + 1 := by
  have hbits : bitLength x ≠ 0 := fun hz => absurd (bitLength_le_iff.mp hz.le) (by rw [pow_zero]; omega)
  rw [signed]
  split
  · rename_i htop
    rw [List.length_cons, length_digits]
    have := (topBit_digits h).mp htop
    omega
  · rename_i htop
    rw [length_digits]
    have := mt (topBit_digits h).mpr htop
    rw [byteLength] at this ⊢
    omega

theorem value_signed (x : Nat) : value (signed x) = x := by
  have hvalue := value_digits (lt_pow_byteLength x)
  rw [signed]
  split
  · rw [value_cons, hvalue, UInt8.toNat_zero, Nat.zero_mul, Nat.zero_add]
  · exact hvalue

/-- A writer that writes these bytes, or fails for want of room. -/
def Writes (f : Writer → Except Failure Writer) (bytes : Bytes) : Prop :=
  ∀ w, w.room < 2 ^ 32 → f w = asn1WriteRawBuffer bytes w

section Writes

variable {f g : Writer → Except Failure Writer} {a b : Bytes}

theorem asn1WriteRawBuffer_eq_ok {w w' : Writer} (h : asn1WriteRawBuffer a w = .ok w') :
    a.length ≤ w.room ∧ w' = ⟨w.room - a.length, a ++ w.out⟩ := by
  rw [asn1WriteRawBuffer] at h
  split at h
  · cases h
  · exact ⟨by omega, (Except.ok.inj h).symm⟩

theorem writes_rawBuffer (a : Bytes) : Writes (asn1WriteRawBuffer a) a := fun _ _ => rfl

theorem Writes.bind (hf : Writes f a) (hg : Writes g b) : Writes (fun w => f w >>= g) (b ++ a) := by
  intro w hw
  simp only [hf w hw, ← write_write]
  cases hwrite : asn1WriteRawBuffer a w with
  | error failure => rfl
  | ok w' =>
      obtain ⟨-, rfl⟩ := asn1WriteRawBuffer_eq_ok hwrite
      exact hg _ (by dsimp only; omega)

/-- Content, its length and its tag: one write. -/
theorem Writes.tlv (hf : Writes f a) (tag : UInt8) :
    Writes (fun base => do
      let w ← f base
      let w ← asn1WriteLen (w.since base) w
      asn1WriteTag tag w) (tlv tag a) := by
  intro base hbase
  have hall : (asn1WriteRawBuffer a base >>= asn1WriteRawBuffer (derLen a.length) >>= asn1WriteRawBuffer [tag]) =
      asn1WriteRawBuffer (MbedTLS.tlv tag a) base := by
    rw [write_write, write_write]
    rfl
  simp only [hf base hbase]
  cases hwrite : asn1WriteRawBuffer a base with
  | error failure =>
      rw [hwrite] at hall
      exact hall
  | ok w =>
      obtain ⟨hle, rfl⟩ := asn1WriteRawBuffer_eq_ok hwrite
      have hsince : Writer.since ⟨base.room - a.length, a ++ base.out⟩ base = a.length := by
        rw [Writer.since, List.length_append, Nat.add_sub_cancel]
      have hlen : asn1WriteLen a.length = asn1WriteRawBuffer (derLen a.length) := asn1WriteLen_eq (by omega)
      rw [hwrite] at hall
      change (asn1WriteLen (Writer.since _ base) _ >>= asn1WriteTag tag) = _
      rw [hsince, hlen]
      exact hall

theorem writes_mpi {x : Nat} (h : 0 < x) : Writes (asn1WriteMpi x) (tlv asn1Integer (signed x)) := by
  have hsign : Writes (fun base => asn1WriteRawBuffer (digits (byteLength x) x) base >>= asn1WriteSign)
      (signed x) := by
    intro base _
    have hpos := byteLength_pos h
    cases hds : digits (byteLength x) x with
    | nil => rw [← length_digits (byteLength x) x, hds] at hpos; cases hpos
    | cons b bs =>
        simp only [signed, hds]
        split
        · rename_i htop
          change _ = asn1WriteRawBuffer ([0] ++ (b :: bs)) base
          rw [← write_write, asn1WriteRawBuffer]
          split
          · rfl
          · exact if_pos htop
        · rename_i htop
          rw [asn1WriteRawBuffer]
          split
          · rfl
          · exact if_neg htop
  have htlv := hsign.tlv asn1Integer
  simp only [bind_assoc] at htlv
  exact htlv

theorem writes_int (val : UInt8) (h : val &&& 0x80 = 0) : Writes (asn1WriteInt val) (tlv asn1Integer [val]) := by
  have htlv := (writes_rawBuffer [val]).tlv asn1Integer
  intro base hbase
  rw [← htlv base hbase]
  simp only [asn1WriteInt, h, ne_eq, not_true, and_false, if_false]
  rfl

theorem writes_oid (oid : Bytes) : Writes (asn1WriteOid oid) (tlv asn1Oid oid) :=
  (writes_rawBuffer oid).tlv asn1Oid

theorem writes_octetString (buf : Bytes) : Writes (asn1WriteOctetString buf) (tlv asn1OctetString buf) :=
  (writes_rawBuffer buf).tlv asn1OctetString

end Writes

end OpenVPNAdapter.MbedTLS
