import Mathlib.Data.List.Induction
import Mathlib.Data.Nat.Log
import Mathlib.Tactic.Ring

namespace Library.BigEndian

/-- The number that bytes spell, the first the most significant. -/
def value (bs : List UInt8) : Nat := bs.foldl (fun n b => n * 256 + b.toNat) 0

/-- The lowest `k` bytes of a number. -/
def digits : Nat → Nat → List UInt8
  | 0, _ => []
  | k + 1, n => digits k (n / 256) ++ [UInt8.ofNat n]

def bitLength (n : Nat) : Nat := if n = 0 then 0 else n.log2 + 1

/-- The bytes a number takes, none for zero. -/
def byteLength (n : Nat) : Nat := (bitLength n + 7) / 8

@[simp] theorem length_digits (k n : Nat) : (digits k n).length = k := by
  induction k generalizing n with
  | zero => rfl
  | succ k ih => rw [digits, List.length_append, ih, List.length_singleton]

theorem value_concat (bs : List UInt8) (b : UInt8) : value (bs ++ [b]) = value bs * 256 + b.toNat := by
  rw [value, List.foldl_append]
  rfl

theorem value_cons (b : UInt8) (bs : List UInt8) : value (b :: bs) = b.toNat * 256 ^ bs.length + value bs := by
  induction bs using List.reverseRecOn with
  | nil => simp [value]
  | append_singleton bs c ih =>
      rw [← List.cons_append, value_concat, ih, value_concat, List.length_append, List.length_singleton]
      ring

theorem value_lt (bs : List UInt8) : value bs < 256 ^ bs.length := by
  induction bs using List.reverseRecOn with
  | nil => exact Nat.one_pos
  | append_singleton bs b ih =>
      have hb := b.toNat_lt
      rw [value_concat, List.length_append, List.length_singleton, pow_succ]
      omega

/-- A number that fits is read back. -/
theorem value_digits {k n : Nat} (h : n < 256 ^ k) : value (digits k n) = n := by
  induction k generalizing n with
  | zero =>
      have hn : n = 0 := by simpa using h
      rw [hn]
      rfl
  | succ k ih =>
      have hdiv : n / 256 < 256 ^ k := Nat.div_lt_of_lt_mul (by rwa [pow_succ, Nat.mul_comm] at h)
      rw [digits, value_concat, ih hdiv]
      simp only [UInt8.toNat_ofNat']
      omega

/-- The digits of what bytes spell are these bytes. -/
theorem digits_value (bs : List UInt8) : digits bs.length (value bs) = bs := by
  induction bs using List.reverseRecOn with
  | nil => rfl
  | append_singleton bs b ih =>
      have hb := b.toNat_lt
      have hdiv : (value bs * 256 + b.toNat) / 256 = value bs := by omega
      have hlast : UInt8.ofNat (value bs * 256 + b.toNat) = b := by
        apply UInt8.toNat_inj.mp
        rw [UInt8.toNat_ofNat']
        omega
      rw [value_concat, List.length_append, List.length_singleton, digits, hdiv, ih, hlast]

theorem bitLength_le_iff {n k : Nat} : bitLength n ≤ k ↔ n < 2 ^ k := by
  rw [bitLength]
  split
  · rename_i hn
    simp [hn]
  · rename_i hn
    exact Nat.succ_le_iff.trans (Nat.log2_lt hn)

theorem byteLength_le_iff {n k : Nat} : byteLength n ≤ k ↔ n < 256 ^ k := by
  have hpow : (256 : Nat) ^ k = 2 ^ (8 * k) := (pow_mul 2 8 k).symm
  rw [hpow, ← bitLength_le_iff, byteLength]
  omega

theorem lt_pow_byteLength (n : Nat) : n < 256 ^ byteLength n := byteLength_le_iff.mp le_rfl

theorem byteLength_pos {n : Nat} (h : 0 < n) : 0 < byteLength n := by
  by_contra hzero
  have hlt := byteLength_le_iff.mp (Nat.le_of_not_lt hzero)
  rw [pow_zero] at hlt
  omega

/-- Bytes that begin with zero spell a small number, others a large one. -/
theorem pow_le_value {b : UInt8} {bs : List UInt8} (h : b ≠ 0) : 256 ^ bs.length ≤ value (b :: bs) := by
  have hb : 1 ≤ b.toNat := Nat.one_le_iff_ne_zero.mpr fun hz => h (UInt8.toNat_inj.mp hz)
  rw [value_cons]
  exact (Nat.le_mul_of_pos_left _ hb).trans (Nat.le_add_right _ _)

end Library.BigEndian
