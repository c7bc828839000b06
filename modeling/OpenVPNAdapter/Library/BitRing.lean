import Mathlib.Data.List.Basic
import Mathlib.Data.Nat.ModEq

namespace Library.BitRing

/-- A bit field in bytes, the lowest bit of a byte first. -/
abbrev Bits (bytes : Nat) := Vector (BitVec 8) bytes

variable {bytes : Nat} {h : Bits bytes} {i j : Nat}

def bit (h : Bits bytes) (i : Nat) : Bool := (h[i / 8]?.getD 0).getLsbD (i % 8)

/-- `1 << (i % 8)`. -/
def mask (i : Nat) : BitVec 8 := 1#8 <<< (i % 8)

/-- `h[i / 8] |= 1 << (i % 8)`. -/
def setBit (h : Bits bytes) (i : Nat) : Bits bytes := h.setIfInBounds (i / 8) (h[i / 8]?.getD 0 ||| mask i)

/-- `h[i / 8] &= ~(1 << (i % 8))`. -/
def clearBit (h : Bits bytes) (i : Nat) : Bits bytes := h.setIfInBounds (i / 8) (h[i / 8]?.getD 0 &&& ~~~mask i)

def zero (bytes : Nat) : Bits bytes := Vector.replicate bytes 0

theorem bit_zero : bit (zero bytes) i = false := by
  rw [bit, zero, Vector.getElem?_replicate]
  split <;> simp

theorem getLsbD_mask : (mask i).getLsbD (j % 8) = decide (i % 8 = j % 8) := by
  have hlow : j % 8 < 8 := Nat.mod_lt _ (by decide)
  simp only [mask, BitVec.getLsbD_shiftLeft, BitVec.getLsbD_one]
  grind

theorem bit_setBit (hi : i < 8 * bytes) : bit (setBit h i) j = (decide (i = j) || bit h j) := by
  have hbyte : i / 8 < bytes := by omega
  by_cases hij : i / 8 = j / 8
  · have hlow : i % 8 = j % 8 ↔ i = j := by omega
    rw [bit, setBit, ← hij, Vector.getElem?_setIfInBounds_self_of_lt hbyte, Option.getD_some,
      BitVec.getLsbD_or, bit,
      ← hij, getLsbD_mask, Bool.or_comm, decide_eq_decide.mpr hlow]
  · have hne : i ≠ j := fun he => hij (by rw [he])
    rw [bit, setBit, Vector.getElem?_setIfInBounds_ne hij, decide_eq_false hne, Bool.false_or, bit]

theorem bit_clearBit (hi : i < 8 * bytes) : bit (clearBit h i) j = (decide (i ≠ j) && bit h j) := by
  have hbyte : i / 8 < bytes := by omega
  by_cases hij : i / 8 = j / 8
  · have hlow : i % 8 = j % 8 ↔ i = j := by omega
    have hlt : j % 8 < 8 := Nat.mod_lt _ (by decide)
    rw [bit, clearBit, ← hij, Vector.getElem?_setIfInBounds_self_of_lt hbyte, Option.getD_some,
      BitVec.getLsbD_and, bit,
      ← hij, BitVec.getLsbD_not, getLsbD_mask, Bool.and_comm, decide_eq_true hlt, Bool.true_and,
        decide_eq_decide.mpr hlow,
      decide_not]
  · have hne : i ≠ j := fun he => hij (by rw [he])
    rw [bit, clearBit, Vector.getElem?_setIfInBounds_ne hij, decide_eq_true hne, Bool.true_and, bit]

def clearBits (h : Bits bytes) (is : List Nat) : Bits bytes := is.foldl clearBit h

theorem bit_clearBits {is : List Nat} (hi : ∀ i ∈ is, i < 8 * bytes) :
    bit (clearBits h is) j = (decide (j ∉ is) && bit h j) := by
  induction is generalizing h with
  | nil => simp [clearBits]
  | cons i is ih =>
      obtain ⟨hfirst, hrest⟩ := List.forall_mem_cons.mp hi
      rw [clearBits, List.foldl_cons, ← clearBits, ih hrest, bit_clearBit hfirst]
      grind

/-- Going round the field from `base`, the first `extent` bits say which of the numbers
`high`, `high - 1`, … are in `P`. -/
def Shows (h : Bits bytes) (base extent high : Nat) (P : Nat → Prop) : Prop :=
  ∀ k < extent, bit h ((base + k) % (8 * bytes)) = true ↔ P (high - k)

variable {base extent high delta k : Nat} {P : Nat → Prop}

theorem shows_nil : Shows h base 0 high P := nofun

theorem Shows.congr {Q : Nat → Prop} (hs : Shows h base extent high P) (hPQ : ∀ n ≤ high, P n ↔ Q n) :
    Shows h base extent high Q := fun k hk => (hs k hk).trans (hPQ _ (Nat.sub_le _ _))

variable (base) in
theorem round_inj (hk : k < 8 * bytes) (hj : j < 8 * bytes) :
    (base + k) % (8 * bytes) = (base + j) % (8 * bytes) ↔ k = j := by
  constructor
  · intro he
    exact Nat.ModEq.eq_of_lt_of_lt (Nat.ModEq.add_left_cancel' base he) hk hj
  · rintro rfl
    rfl

/-- One number more of those that the field covers. -/
theorem Shows.mark (hs : Shows h base extent high P) (hextent : extent ≤ 8 * bytes) (hhigh : extent ≤ high)
    (hk : k < extent) :
    Shows (setBit h ((base + k) % (8 * bytes))) base extent high fun n => n = high - k ∨ P n := by
  intro j hj
  have hpos : 0 < 8 * bytes := by omega
  rw [bit_setBit (Nat.mod_lt _ hpos), Bool.or_eq_true, decide_eq_true_eq,
      round_inj _ (by omega) (by omega), hs j hj]
  refine or_congr_left ⟨fun he => by rw [he], fun he => by omega⟩

/-- The field goes on by `delta` numbers, of which the last is in. -/
theorem Shows.advance (hs : Shows h base extent high P) (hextent : extent = min high (8 * bytes))
    (hP : ∀ n, P n → n ≤ high) (hpos : 0 < delta) (hdelta : delta < 8 * bytes) {base' : Nat}
    (hbase' : (base' + delta) % (8 * bytes) = base % (8 * bytes)) :
    Shows (clearBits (setBit h (base' % (8 * bytes)))
        ((List.range' 1 (delta - 1)).map fun i => (base' + i) % (8 * bytes)))
      base' (min (high + delta) (8 * bytes)) (high + delta) fun n => n = high + delta ∨ P n := by
  intro j hj
  have hsize : 0 < 8 * bytes := by omega
  have hj' : j < 8 * bytes := by omega
  have hlt : ∀ i ∈ (List.range' 1 (delta - 1)).map fun i => (base' + i) % (8 * bytes), i < 8 * bytes := by
    intro i hi
    obtain ⟨m, -, rfl⟩ := List.mem_map.mp hi
    exact Nat.mod_lt _ hsize
  have hmem : (base' + j) % (8 * bytes) ∈ ((List.range' 1 (delta - 1)).map fun i => (base' + i) % (8 * bytes)) ↔
      1 ≤ j ∧ j < delta := by
    simp only [List.mem_map, List.mem_range'_1]
    constructor
    · rintro ⟨i, hi, he⟩
      obtain rfl := (round_inj _ (by omega) hj').mp he
      omega
    · exact fun hj => ⟨j, by omega, rfl⟩
  have hzero : base' % (8 * bytes) = (base' + j) % (8 * bytes) ↔ j = 0 := by
    have hround := round_inj base' (Nat.zero_lt_of_lt hj') hj'
    rw [Nat.add_zero] at hround
    exact hround.trans eq_comm
  rw [bit_clearBits hlt, bit_setBit (Nat.mod_lt _ hsize), Bool.and_eq_true, Bool.or_eq_true, decide_eq_true_eq,
    decide_eq_true_eq, hmem, hzero]
  rcases Nat.lt_or_ge j delta with hsmall | hlarge
  · -- the numbers that are jumped over were never in
    constructor
    · rintro ⟨hnot, hj0 | -⟩
      · exact .inl (by omega)
      · exact .inl (by omega)
    · rintro (he | hin)
      · exact ⟨by omega, .inl (by omega)⟩
      · exact absurd (hP _ hin) (by omega)
  · have hold := hs (j - delta) (by omega)
    have hindex : (base + (j - delta)) % (8 * bytes) = (base' + j) % (8 * bytes) := by
      rw [Nat.add_mod, ← hbase', ← Nat.add_mod]
      congr 1
      omega
    rw [hindex, show high - (j - delta) = high + delta - j by omega] at hold
    rw [hold]
    constructor
    · rintro ⟨-, hj0 | hin⟩
      · omega
      · exact .inr hin
    · rintro (he | hin)
      · omega
      · exact ⟨by omega, .inr hin⟩

end Library.BitRing
