import Mathlib.Data.Nat.Bitwise
import OpenVPNAdapter.MbedTLS.Failure

namespace OpenVPNAdapter.MbedTLS

def base64EncMap : Bytes := ascii
  ['A', 'B', 'C', 'D', 'E', 'F', 'G', 'H', 'I', 'J',
   'K', 'L', 'M', 'N', 'O', 'P', 'Q', 'R', 'S', 'T',
   'U', 'V', 'W', 'X', 'Y', 'Z', 'a', 'b', 'c', 'd',
   'e', 'f', 'g', 'h', 'i', 'j', 'k', 'l', 'm', 'n',
   'o', 'p', 'q', 'r', 's', 't', 'u', 'v', 'w', 'x',
   'y', 'z', '0', '1', '2', '3', '4', '5', '6', '7',
   '8', '9', '+', '/']

def base64DecMap : List Nat :=
  [127, 127, 127, 127, 127, 127, 127, 127, 127, 127,
   127, 127, 127, 127, 127, 127, 127, 127, 127, 127,
   127, 127, 127, 127, 127, 127, 127, 127, 127, 127,
   127, 127, 127, 127, 127, 127, 127, 127, 127, 127,
   127, 127, 127,  62, 127, 127, 127,  63,  52,  53,
    54,  55,  56,  57,  58,  59,  60,  61, 127, 127,
   127,  64, 127, 127, 127,   0,   1,   2,   3,   4,
     5,   6,   7,   8,   9,  10,  11,  12,  13,  14,
    15,  16,  17,  18,  19,  20,  21,  22,  23,  24,
    25, 127, 127, 127, 127, 127, 127,  26,  27,  28,
    29,  30,  31,  32,  33,  34,  35,  36,  37,  38,
    39,  40,  41,  42,  43,  44,  45,  46,  47,  48,
    49,  50,  51, 127, 127, 127, 127, 127]

def enc (v : Nat) : UInt8 := base64EncMap.getD v 0

/-- Beyond the table the code is not reached: the first pass refuses such characters. -/
def dec (c : UInt8) : Nat := base64DecMap.getD c.toNat 127

def pad : UInt8 := 0x3D

def newline : UInt8 := 0x0A

def sextet1 (c1 : UInt8) : Nat := (c1.toNat >>> 2) &&& 0x3F

def sextet2 (c1 c2 : UInt8) : Nat := (((c1.toNat &&& 3) <<< 4) + (c2.toNat >>> 4)) &&& 0x3F

def sextet3 (c2 c3 : UInt8) : Nat := (((c2.toNat &&& 15) <<< 2) + (c3.toNat >>> 6)) &&& 0x3F

def sextet4 (c3 : UInt8) : Nat := c3.toNat &&& 0x3F

/-- The characters `mbedtls_base64_encode` writes. -/
def base64Chars : Bytes → Bytes
  | c1 :: c2 :: c3 :: src =>
      enc (sextet1 c1) :: enc (sextet2 c1 c2) :: enc (sextet3 c2 c3) :: enc (sextet4 c3) :: base64Chars src
  | [c1, c2] => [enc (sextet1 c1), enc (sextet2 c1 c2), enc (sextet3 c2 0), pad]
  | [c1] => [enc (sextet1 c1), enc (sextet2 c1 0), pad, pad]
  | [] => []

/-- With `dst` of `dlen` bytes, or `NULL`; first what is stored in `olen`. -/
def base64Encode (dlen : Option Nat) (src : Bytes) : Nat × Except Failure Bytes :=
  if src = [] then (0, .ok [])
  else
    let n := src.length / 3 + (if src.length % 3 ≠ 0 then 1 else 0)
    if n > (2 ^ 64 - 1 - 1) / 4 then (2 ^ 64 - 1, .error .base64BufferTooSmall)
    else if dlen.all (· < 4 * n + 1) then (4 * n + 1, .error .base64BufferTooSmall)
    else ((base64Chars src).length, .ok (base64Chars src))

/-- The first pass: `n` characters so far, `j` of them padding, and whether spaces came right
before. -/
def base64Check (spaced : Bool) (n j : Nat) : Bytes → Except Failure (Nat × Nat)
  | [] => .ok (n, j)
  | c :: src =>
      if c = 0x20 then base64Check true n j src
      else if c = 0x0D ∧ src.head? = some newline then base64Check false n j src
      else if c = newline then base64Check false n j src
      else if spaced then .error .base64InvalidCharacter
      else
        let j' := if c = pad then j + 1 else j
        if c = pad ∧ j' > 2 then .error .base64InvalidCharacter
        else if c > 127 ∨ dec c = 127 then .error .base64InvalidCharacter
        else if dec c < 64 ∧ j' ≠ 0 then .error .base64InvalidCharacter
        else base64Check false (n + 1) j' src

/-- The second pass. `x` is never cleared; its lowest 24 bits are the last four characters. -/
def base64Bytes (j n x : Nat) : Bytes → Bytes
  | [] => []
  | c :: src =>
      if c = 0x0D ∨ c = newline ∨ c = 0x20 then base64Bytes j n x src
      else
        let j' := j - (if dec c = 64 then 1 else 0)
        let x' := ((x <<< 6) ||| (dec c &&& 0x3F)) % 2 ^ 32
        if n + 1 = 4 then
          (if j' > 0 then [UInt8.ofNat (x' >>> 16)] else []) ++
            (if j' > 1 then [UInt8.ofNat (x' >>> 8)] else []) ++
            (if j' > 2 then [UInt8.ofNat x'] else []) ++ base64Bytes j' 0 x' src
        else base64Bytes j' (n + 1) x' src

def base64Decode (dlen : Option Nat) (src : Bytes) : Nat × Except Failure Bytes :=
  match base64Check false 0 0 src with
  | .error failure => (0, .error failure)
  | .ok (n, j) =>
      if n = 0 then (0, .ok [])
      else
        let len := 6 * (n >>> 3) + ((6 * (n &&& 0x7) + 7) >>> 3) - j
        if dlen.all (· < len) then (len, .error .base64BufferTooSmall)
        else ((base64Bytes 3 0 0 src).length, .ok (base64Bytes 3 0 0 src))

theorem sextet1_eq (c1 : UInt8) : sextet1 c1 = c1.toNat / 4 := by
  have h1 := c1.toNat_lt
  rw [sextet1, Nat.and_two_pow_sub_one_eq_mod _ 6, Nat.shiftRight_eq_div_pow]
  omega

theorem sextet2_eq (c1 c2 : UInt8) : sextet2 c1 c2 = c1.toNat % 4 * 16 + c2.toNat / 16 := by
  have h2 := c2.toNat_lt
  rw [sextet2, Nat.and_two_pow_sub_one_eq_mod _ 6, Nat.and_two_pow_sub_one_eq_mod _ 2, Nat.shiftLeft_eq,
    Nat.shiftRight_eq_div_pow]
  omega

theorem sextet3_eq (c2 c3 : UInt8) : sextet3 c2 c3 = c2.toNat % 16 * 4 + c3.toNat / 64 := by
  have h3 := c3.toNat_lt
  rw [sextet3, Nat.and_two_pow_sub_one_eq_mod _ 6, Nat.and_two_pow_sub_one_eq_mod _ 4, Nat.shiftLeft_eq,
    Nat.shiftRight_eq_div_pow]
  omega

theorem sextet4_eq (c3 : UInt8) : sextet4 c3 = c3.toNat % 64 := Nat.and_two_pow_sub_one_eq_mod _ 6

theorem sextet1_lt (c1 : UInt8) : sextet1 c1 < 64 := Nat.and_lt_two_pow (n := 6) _ (by decide)

theorem sextet2_lt (c1 c2 : UInt8) : sextet2 c1 c2 < 64 := Nat.and_lt_two_pow (n := 6) _ (by decide)

theorem sextet3_lt (c2 c3 : UInt8) : sextet3 c2 c3 < 64 := Nat.and_lt_two_pow (n := 6) _ (by decide)

theorem sextet4_lt (c3 : UInt8) : sextet4 c3 < 64 := Nat.and_lt_two_pow (n := 6) _ (by decide)

/-- A digit is none of the characters that mean something else to a reader. -/
theorem enc_spec : ∀ v < 64, dec (enc v) = v ∧ enc v ≤ 127 ∧
    enc v ≠ 0x20 ∧ enc v ≠ 0x0D ∧ enc v ≠ newline ∧ enc v ≠ pad := by
  decide

/-- What a line of an encoding is made of; `-` is left for the boundaries. -/
def BodyChar (c : UInt8) : Prop := c ≤ 127 ∧ c ≠ 0 ∧ c ≠ 0x20 ∧ c ≠ 0x0D ∧ c ≠ newline ∧ c ≠ 0x2D

instance (c : UInt8) : Decidable (BodyChar c) := inferInstanceAs (Decidable (_ ∧ _))

theorem bodyChar_enc : ∀ v < 64, BodyChar (enc v) := by decide

theorem bodyChar_of_mem {src : Bytes} {c : UInt8} (h : c ∈ base64Chars src) : BodyChar c := by
  have hpad : BodyChar pad := by decide
  induction src using base64Chars.induct with
  | case1 c1 c2 c3 src ih =>
      simp only [base64Chars, List.mem_cons] at h
      rcases h with rfl | rfl | rfl | rfl | h
      · exact bodyChar_enc _ (sextet1_lt _)
      · exact bodyChar_enc _ (sextet2_lt _ _)
      · exact bodyChar_enc _ (sextet3_lt _ _)
      · exact bodyChar_enc _ (sextet4_lt _)
      · exact ih h
  | case2 c1 c2 =>
      simp only [base64Chars, List.mem_cons, List.not_mem_nil, or_false] at h
      rcases h with rfl | rfl | rfl | rfl
      · exact bodyChar_enc _ (sextet1_lt _)
      · exact bodyChar_enc _ (sextet2_lt _ _)
      · exact bodyChar_enc _ (sextet3_lt _ _)
      · exact hpad
  | case3 c1 =>
      simp only [base64Chars, List.mem_cons, List.not_mem_nil, or_false] at h
      rcases h with rfl | rfl | rfl | rfl
      · exact bodyChar_enc _ (sextet1_lt _)
      · exact bodyChar_enc _ (sextet2_lt _ _)
      · exact hpad
      · exact hpad
  | case4 => cases h

theorem base64Check_enc {v : Nat} (hv : v < 64) (n : Nat) (src : Bytes) :
    base64Check false n 0 (enc v :: src) = base64Check false (n + 1) 0 src := by
  obtain ⟨hdec, hle, hspace, hcr, hlf, hpad⟩ := enc_spec v hv
  have hgt : ¬ enc v > 127 := UInt8.not_lt.mpr hle
  simp only [base64Check, hspace, hcr, hlf, hpad, hgt, hdec, if_false, false_and, false_or]
  rw [if_neg (by simp), if_neg (by omega), if_neg (by simp)]

theorem base64Check_pad {j : Nat} (hj : j < 2) (n : Nat) (src : Bytes) :
    base64Check false n j (pad :: src) = base64Check false (n + 1) (j + 1) src := by
  have hdec : dec pad = 64 := rfl
  rw [base64Check, if_neg (by decide), if_neg (by simp [pad]), if_neg (by decide), if_neg (by decide)]
  simp only [hdec, if_true, true_and]
  rw [if_neg (by omega), if_neg (by decide), if_neg (by omega)]

/-- The first pass does not see where lines end. -/
theorem base64Check_filter {t : Bytes} (ht : ∀ c ∈ t, c ≠ 0x20 ∧ c ≠ 0x0D) (n j : Nat) :
    base64Check false n j t = base64Check false n j (t.filter (· ≠ newline)) := by
  induction t generalizing n j with
  | nil => rfl
  | cons c t ih =>
      obtain ⟨hspace, hcr⟩ := ht c List.mem_cons_self
      have ih := fun n j => ih (fun d hd => ht d (List.mem_cons_of_mem c hd)) n j
      by_cases hlf : c = newline
      · rw [List.filter_cons_of_neg (by simp [hlf]), ← ih, hlf, base64Check]
        simp [newline]
      · rw [List.filter_cons_of_pos (by simp [hlf])]
        simp only [base64Check, hspace, hcr, hlf, if_false, false_and, ih]

theorem base64Bytes_filter (j n x : Nat) (t : Bytes) :
    base64Bytes j n x t = base64Bytes j n x (t.filter (· ≠ newline)) := by
  induction t generalizing j n x with
  | nil => rfl
  | cons c t ih =>
      by_cases hlf : c = newline
      · rw [List.filter_cons_of_neg (by simp [hlf]), ← ih, hlf, base64Bytes, if_pos (by simp)]
      · rw [List.filter_cons_of_pos (by simp [hlf])]
        simp only [base64Bytes, ih]

theorem base64Bytes_enc {v : Nat} (hv : v < 64) (j n x : Nat) (src : Bytes) :
    base64Bytes j n x (enc v :: src) =
      if n + 1 = 4 then
        (if j > 0 then [UInt8.ofNat ((x * 64 + v) % 2 ^ 32 / 2 ^ 16)] else []) ++
          (if j > 1 then [UInt8.ofNat ((x * 64 + v) % 2 ^ 32 / 2 ^ 8)] else []) ++
          (if j > 2 then [UInt8.ofNat ((x * 64 + v) % 2 ^ 32)] else []) ++
          base64Bytes j 0 ((x * 64 + v) % 2 ^ 32) src
      else base64Bytes j (n + 1) ((x * 64 + v) % 2 ^ 32) src := by
  obtain ⟨hdec, hle, hspace, hcr, hlf, hpad⟩ := enc_spec v hv
  have hx : x <<< 6 ||| v &&& 0x3F = x * 64 + v := by
    rw [Nat.and_two_pow_sub_one_of_lt_two_pow (n := 6) hv, ← Nat.shiftLeft_add_eq_or_of_lt hv, Nat.shiftLeft_eq]
  have h64 : v ≠ 64 := by omega
  simp only [base64Bytes, hspace, hcr, hlf, hdec, h64, hx, if_false, false_or, Nat.sub_zero,
      Nat.shiftRight_eq_div_pow]

theorem base64Bytes_pad (j n x : Nat) (src : Bytes) :
    base64Bytes (j + 1) n x (pad :: src) =
      if n + 1 = 4 then
        (if j > 0 then [UInt8.ofNat (x * 64 % 2 ^ 32 / 2 ^ 16)] else []) ++
          (if j > 1 then [UInt8.ofNat (x * 64 % 2 ^ 32 / 2 ^ 8)] else []) ++
          (if j > 2 then [UInt8.ofNat (x * 64 % 2 ^ 32)] else []) ++ base64Bytes j 0 (x * 64 % 2 ^ 32) src
      else base64Bytes j (n + 1) (x * 64 % 2 ^ 32) src := by
  have hdec : dec pad = 64 := rfl
  have hx : x <<< 6 ||| 64 &&& 0x3F = x * 64 := Nat.or_zero _ |>.trans (Nat.shiftLeft_eq x 6)
  have hskip : ¬ (pad = 0x0D ∨ pad = newline ∨ pad = 0x20) := by decide
  simp only [base64Bytes, if_neg hskip, hdec, hx, if_true, Nat.add_sub_cancel, Nat.shiftRight_eq_div_pow]

theorem ofNat_eq_of_mod {n : Nat} {c : UInt8} (h : n % 256 = c.toNat) : UInt8.ofNat n = c :=
  UInt8.toNat_inj.mp (by simpa using h)

/-- Three bytes go through four digits, whatever was read before them. -/
theorem base64Bytes_group (c1 c2 c3 : UInt8) (x : Nat) (src : Bytes) :
    ∃ y, base64Bytes 3 0 x (enc (sextet1 c1) :: enc (sextet2 c1 c2) :: enc (sextet3 c2 c3) :: enc
      (sextet4 c3) :: src) =
      c1 :: c2 :: c3 :: base64Bytes 3 0 y src := by
  have h1 := c1.toNat_lt
  have h2 := c2.toNat_lt
  have h3 := c3.toNat_lt
  rw [base64Bytes_enc (sextet1_lt _), if_neg (by omega), base64Bytes_enc (sextet2_lt _ _), if_neg (by omega),
    base64Bytes_enc (sextet3_lt _ _), if_neg (by omega), base64Bytes_enc (sextet4_lt _), if_pos rfl,
    sextet1_eq, sextet2_eq, sextet3_eq, sextet4_eq]
  apply Exists.intro
  rw [if_pos (by omega), if_pos (by omega), if_pos (by omega), ofNat_eq_of_mod (c := c1) (by omega),
    ofNat_eq_of_mod (c := c2) (by omega), ofNat_eq_of_mod (c := c3) (by omega)]
  rfl

theorem base64Bytes_pair (c1 c2 : UInt8) (x : Nat) :
    base64Bytes 3 0 x [enc (sextet1 c1), enc (sextet2 c1 c2), enc (sextet3 c2 0), pad] = [c1, c2] := by
  have h1 := c1.toNat_lt
  have h2 := c2.toNat_lt
  rw [base64Bytes_enc (sextet1_lt _), if_neg (by omega), base64Bytes_enc (sextet2_lt _ _), if_neg (by omega),
    base64Bytes_enc (sextet3_lt _ _), if_neg (by omega), base64Bytes_pad, if_pos rfl, if_pos (by omega),
    if_pos (by omega), if_neg (by omega), sextet1_eq, sextet2_eq, sextet3_eq, UInt8.toNat_zero,
    ofNat_eq_of_mod (c := c1) (by omega), ofNat_eq_of_mod (c := c2) (by omega)]
  rfl

theorem base64Bytes_single (c1 : UInt8) (x : Nat) :
    base64Bytes 3 0 x [enc (sextet1 c1), enc (sextet2 c1 0), pad, pad] = [c1] := by
  have h1 := c1.toNat_lt
  rw [base64Bytes_enc (sextet1_lt _), if_neg (by omega), base64Bytes_enc (sextet2_lt _ _), if_neg (by omega),
    base64Bytes_pad, if_neg (by omega), base64Bytes_pad, if_pos rfl, if_pos (by omega), if_neg (by omega),
    if_neg (by omega), sextet1_eq, sextet2_eq, UInt8.toNat_zero, ofNat_eq_of_mod (c := c1) (by omega)]
  rfl

theorem base64Bytes_chars (src : Bytes) (x : Nat) : base64Bytes 3 0 x (base64Chars src) = src := by
  induction src using base64Chars.induct generalizing x with
  | case1 c1 c2 c3 src ih =>
      obtain ⟨y, hy⟩ := base64Bytes_group c1 c2 c3 x (base64Chars src)
      rw [base64Chars, hy, ih]
  | case2 c1 c2 => exact base64Bytes_pair c1 c2 x
  | case3 c1 => exact base64Bytes_single c1 x
  | case4 => rfl

/-- The padding `mbedtls_base64_encode` writes. -/
def padding (src : Bytes) : Nat := (3 - src.length % 3) % 3

theorem length_base64Chars (src : Bytes) : (base64Chars src).length = 4 * ((src.length + 2) / 3) := by
  induction src using base64Chars.induct with
  | case1 c1 c2 c3 src ih => simp only [base64Chars, List.length_cons, ih]; omega
  | case2 | case3 | case4 => simp [base64Chars]

theorem base64Check_chars (src : Bytes) (n : Nat) :
    base64Check false n 0 (base64Chars src) = .ok (n + (base64Chars src).length, padding src) := by
  induction src using base64Chars.induct generalizing n with
  | case1 c1 c2 c3 src ih =>
      rw [base64Chars, base64Check_enc (sextet1_lt _), base64Check_enc (sextet2_lt _ _),
        base64Check_enc (sextet3_lt _ _), base64Check_enc (sextet4_lt _), ih]
      simp only [List.length_cons, padding, Except.ok.injEq, Prod.mk.injEq]
      omega
  | case2 c1 c2 =>
      rw [base64Chars, base64Check_enc (sextet1_lt _), base64Check_enc (sextet2_lt _ _),
        base64Check_enc (sextet3_lt _ _), base64Check_pad (by omega)]
      rfl
  | case3 c1 =>
      rw [base64Chars, base64Check_enc (sextet1_lt _), base64Check_enc (sextet2_lt _ _),
        base64Check_pad (by omega),
        base64Check_pad (by omega)]
      rfl
  | case4 => rfl

/-- The characters with line breaks among them decode to the bytes they stand for, in the two
calls a reader makes. -/
theorem base64Decode_of_filter {src t : Bytes} (ht : t.filter (· ≠ newline) = base64Chars src)
    (hclean : ∀ c ∈ t, c ≠ 0x20 ∧ c ≠ 0x0D) :
    (base64Decode none t).2 ≠ .error .base64InvalidCharacter ∧
      base64Decode (some (base64Decode none t).1) t = (src.length, .ok src) := by
  have hcheck : base64Check false 0 0 t = .ok ((base64Chars src).length, padding src) := by
    rw [base64Check_filter hclean, ht, base64Check_chars, Nat.zero_add]
  have hbytes : base64Bytes 3 0 0 t = src := by rw [base64Bytes_filter, ht, base64Bytes_chars]
  simp only [base64Decode, hcheck, hbytes, length_base64Chars]
  cases src with
  | nil => exact ⟨nofun, rfl⟩
  | cons c src =>
      have hn : 4 * (((c :: src).length + 2) / 3) ≠ 0 := by simp only [List.length_cons]; omega
      simp only [if_neg hn, Option.all_none, if_true]
      refine ⟨by decide, ?_⟩
      rw [if_neg (by simp)]

end OpenVPNAdapter.MbedTLS
