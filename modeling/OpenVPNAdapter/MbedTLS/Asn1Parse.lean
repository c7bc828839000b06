import Mathlib.Data.FinEnum
import Mathlib.Data.List.TakeDrop
import OpenVPNAdapter.MbedTLS.Failure

namespace OpenVPNAdapter.MbedTLS

/-! A pair of pointers `p`, `end` is the list of the bytes between them. -/

def asn1Integer : UInt8 := 0x02
def asn1BitString : UInt8 := 0x03
def asn1OctetString : UInt8 := 0x04
def asn1Null : UInt8 := 0x05
def asn1Oid : UInt8 := 0x06
def asn1Sequence : UInt8 := 0x10
def asn1Constructed : UInt8 := 0x20
def asn1ContextSpecific : UInt8 := 0x80

/-- `*len > (size_t) ( end - *p )`. -/
def asn1Within (len : Nat) (p : Bytes) : Except Failure (Nat × Bytes) :=
  if len > p.length then .error .asn1OutOfData else .ok (len, p)

def asn1GetLen : Bytes → Except Failure (Nat × Bytes)
  | [] => .error .asn1OutOfData
  | b :: p =>
      if b &&& 0x80 = 0 then asn1Within b.toNat p
      else match (b &&& 0x7F).toNat, p with
        | 1, b1 :: p => asn1Within b1.toNat p
        | 2, b1 :: b2 :: p => asn1Within (b1.toNat <<< 8 ||| b2.toNat) p
        | 3, b1 :: b2 :: b3 :: p => asn1Within (b1.toNat <<< 16 ||| b2.toNat <<< 8 ||| b3.toNat) p
        | 4, b1 :: b2 :: b3 :: b4 :: p =>
            asn1Within (b1.toNat <<< 24 ||| b2.toNat <<< 16 ||| b3.toNat <<< 8 ||| b4.toNat) p
        | 1, _ | 2, _ | 3, _ | 4, _ => .error .asn1OutOfData
        | _, _ => .error .asn1InvalidLength

def asn1GetTag (tag : UInt8) : Bytes → Except Failure (Nat × Bytes)
  | [] => .error .asn1OutOfData
  | b :: p => if b ≠ tag then .error .asn1UnexpectedTag else asn1GetLen p

def asn1GetInt (p : Bytes) : Except Failure (Nat × Bytes) := do
  let (len, p) ← asn1GetTag asn1Integer p
  if len = 0 ∨ len > 4 ∨ (∀ b ∈ p.head?, b &&& 0x80 ≠ 0) then .error .asn1InvalidLength
  else .ok ((p.take len).foldl (fun val b => val <<< 8 ||| b.toNat) 0, p.drop len)

/-- A bit string of whole bytes. -/
def asn1GetBitstringNull (p : Bytes) : Except Failure (Nat × Bytes) := do
  let (len, p) ← asn1GetTag asn1BitString p
  if len < 2 ∨ p.head? ≠ some 0 then .error .asn1InvalidData else .ok (len - 1, p.tail)

/-- `mbedtls_asn1_buf`. -/
structure Asn1Buf where
  tag : UInt8
  p : Bytes
deriving DecidableEq, Repr

/-- `alg`, `params` and what is left. -/
def asn1GetAlg (p : Bytes) : Except Failure (Asn1Buf × Asn1Buf × Bytes) := do
  let (len, p) ← asn1GetTag (asn1Constructed ||| asn1Sequence) p
  match p with
  | [] => .error .asn1OutOfData
  | tag :: _ =>
      let rest := p.drop len
      let (algLen, q) ← asn1GetTag asn1Oid (p.take len)
      let alg : Asn1Buf := ⟨tag, q.take algLen⟩
      match q.drop algLen with
      | [] => .ok (alg, ⟨0, []⟩, rest)
      | paramsTag :: q => do
          let (paramsLen, q) ← asn1GetLen q
          if paramsLen ≠ q.length then .error .asn1LengthMismatch
          else .ok (alg, ⟨paramsTag, q⟩, rest)

/-- What a length says depends on the bytes that spell it, as long as there is enough behind
them. -/
structure Spells (header : Bytes) (len : Nat) : Prop where
  bounded : len < 2 ^ 32
  short : header.length ≤ 5
  reads : ∀ q, len ≤ q.length → asn1GetLen (header ++ q) = .ok (len, q)

theorem asn1Within_eq_ok {len k : Nat} {p q : Bytes} (h : asn1Within len p = .ok (k, q)) :
    k = len ∧ q = p ∧ len ≤ p.length := by
  rw [asn1Within] at h
  split at h
  · cases h
  · obtain ⟨rfl, rfl⟩ := Prod.mk.inj (Except.ok.inj h)
    exact ⟨rfl, rfl, by omega⟩

theorem asn1Within_of_le {len : Nat} {p : Bytes} (h : len ≤ p.length) : asn1Within len p = .ok (len, p) :=
  if_neg (Nat.not_lt.mpr h)

theorem Spells.of_within {header : Bytes} {len : Nat} (hlen : len < 2 ^ 32) (hshort : header.length ≤ 5)
    (h : ∀ q, asn1GetLen (header ++ q) = asn1Within len q) : Spells header len :=
  ⟨hlen, hshort, fun q hq => (h q).trans (asn1Within_of_le hq)⟩

theorem toNat_shiftLeft_lt (b : UInt8) {k : Nat} (hk : k ≤ 24) : b.toNat <<< k < 2 ^ 32 := by
  have hb := b.toNat_lt
  calc b.toNat <<< k = b.toNat * 2 ^ k := Nat.shiftLeft_eq _ _
    _ ≤ b.toNat * 2 ^ 24 := Nat.mul_le_mul_left _ (Nat.pow_le_pow_right (by decide) hk)
    _ < 2 ^ 32 := by omega

theorem toNat_lt_two_pow_32 (b : UInt8) : b.toNat < 2 ^ 32 := toNat_shiftLeft_lt b (Nat.zero_le 24)

/-- A length that is read is spelt by the bytes before what is left. -/
theorem asn1GetLen_eq_ok {p q : Bytes} {len : Nat} (h : asn1GetLen p = .ok (len, q)) :
    len ≤ q.length ∧ ∃ header, p = header ++ q ∧ 1 ≤ header.length ∧ Spells header len := by
  cases p with
  | nil => cases h
  | cons b p =>
      simp only [asn1GetLen] at h
      split at h
      · rename_i hb
        obtain ⟨rfl, rfl, hle⟩ := asn1Within_eq_ok h
        refine ⟨hle, [b], rfl, by simp, .of_within (toNat_lt_two_pow_32 b) (by simp) fun r => ?_⟩
        simp only [List.singleton_append, asn1GetLen, if_pos hb]
      · rename_i hb
        split at h
        · rename_i b1 p hk
          obtain ⟨rfl, rfl, hle⟩ := asn1Within_eq_ok h
          refine ⟨hle, [b, b1], rfl, by simp, .of_within (toNat_lt_two_pow_32 b1) (by simp) fun r => ?_⟩
          simp only [List.cons_append, List.nil_append, asn1GetLen, if_neg hb, hk]
        · rename_i b1 b2 p hk
          obtain ⟨rfl, rfl, hle⟩ := asn1Within_eq_ok h
          refine ⟨hle, [b, b1, b2], rfl, by simp, .of_within ?_ (by simp) fun r => ?_⟩
          · exact Nat.or_lt_two_pow (toNat_shiftLeft_lt b1 (by decide)) (toNat_lt_two_pow_32 b2)
          · simp only [List.cons_append, List.nil_append, asn1GetLen, if_neg hb, hk]
        · rename_i b1 b2 b3 p hk
          obtain ⟨rfl, rfl, hle⟩ := asn1Within_eq_ok h
          refine ⟨hle, [b, b1, b2, b3], rfl, by simp, .of_within ?_ (by simp) fun r => ?_⟩
          · exact Nat.or_lt_two_pow (Nat.or_lt_two_pow (toNat_shiftLeft_lt b1 (by decide))
              (toNat_shiftLeft_lt b2 (by decide))) (toNat_lt_two_pow_32 b3)
          · simp only [List.cons_append, List.nil_append, asn1GetLen, if_neg hb, hk]
        · rename_i b1 b2 b3 b4 p hk
          obtain ⟨rfl, rfl, hle⟩ := asn1Within_eq_ok h
          refine ⟨hle, [b, b1, b2, b3, b4], rfl, by simp, .of_within ?_ (by simp) fun r => ?_⟩
          · exact Nat.or_lt_two_pow (Nat.or_lt_two_pow (Nat.or_lt_two_pow (toNat_shiftLeft_lt b1 (by decide))
              (toNat_shiftLeft_lt b2 (by decide))) (toNat_shiftLeft_lt b3 (by decide))) (toNat_lt_two_pow_32 b4)
          · simp only [List.cons_append, List.nil_append, asn1GetLen, if_neg hb, hk]
        all_goals cases h

theorem asn1GetTag_eq_ok {tag : UInt8} {p q : Bytes} {len : Nat} (h : asn1GetTag tag p = .ok (len, q)) :
    len ≤ q.length ∧ ∃ header, p = tag :: (header ++ q) ∧ 1 ≤ header.length ∧ Spells header len := by
  cases p with
  | nil => cases h
  | cons b p =>
      rw [asn1GetTag] at h
      split at h
      · cases h
      · rename_i hb
        obtain rfl := Decidable.not_not.mp hb
        obtain ⟨hle, header, rfl, hspells⟩ := asn1GetLen_eq_ok h
        exact ⟨hle, header, rfl, hspells⟩

theorem Spells.getTag {header : Bytes} {len : Nat} (h : Spells header len) (tag : UInt8) {q : Bytes}
    (hq : len ≤ q.length) : asn1GetTag tag (tag :: (header ++ q)) = .ok (len, q) := by
  rw [asn1GetTag, if_neg (by simp), h.reads q hq]

end OpenVPNAdapter.MbedTLS
