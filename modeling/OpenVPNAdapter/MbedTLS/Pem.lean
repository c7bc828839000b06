import Mathlib.Data.FinEnum
import OpenVPNAdapter.Library.Substring
import OpenVPNAdapter.MbedTLS.Base64

namespace OpenVPNAdapter.MbedTLS

open Library.Substring

/-- The loop of `mbedtls_pem_write_buffer`: lines of 64 characters, each with its line feed. -/
def pemLines (c : Bytes) : Bytes :=
  if c = [] then [] else c.take 64 ++ newline :: pemLines (c.drop 64)
termination_by c.length
decreasing_by
  have := List.length_pos_iff.mpr ‹¬ c = []›
  simp only [List.length_drop]
  omega

/-- With a buffer of `bufLen` bytes; first what is stored in `olen`. -/
def pemWriteBuffer (header footer der : Bytes) (bufLen : Nat) : Nat × Except Failure Bytes :=
  let useLen := (base64Encode none der).1
  let addLen := header.length + footer.length + useLen / 64 + 1
  if useLen + addLen > bufLen then (useLen + addLen, .error .base64BufferTooSmall)
  else match (base64Encode (some useLen) der).2 with
    | .error failure => (0, .error failure)
    | .ok encoded =>
        let out := header ++ pemLines encoded ++ footer ++ [0]
        (out.length, .ok out)

inductive CipherType
  | desCbc
  | desEde3Cbc
  | aes128Cbc
  | aes192Cbc
  | aes256Cbc
deriving DecidableEq, Repr

/-- `if( *s == c ) s++`. -/
def skip (text : Bytes) (c : UInt8) (s : Nat) : Nat := if text[s]? = some c then s + 1 else s

/-- `s2 - s1 >= word.length && memcmp( s1, word, word.length ) == 0`. -/
def atWord (text : Bytes) (s1 s2 : Nat) (word : Bytes) : Prop := s1 + word.length ≤ s2 ∧ word <+: text.drop s1

instance (text : Bytes) (s1 s2 : Nat) (word : Bytes) : Decidable (atWord text s1 s2 word) :=
  inferInstanceAs (Decidable (_ ∧ _))

def hexValue (c : UInt8) : Option UInt8 :=
  if 0x30 ≤ c ∧ c ≤ 0x39 then some (c - 0x30)
  else if 0x41 ≤ c ∧ c ≤ 0x46 then some (c - 0x37)
  else if 0x61 ≤ c ∧ c ≤ 0x66 then some (c - 0x57)
  else none

def pemGetIv (s : Bytes) : Nat → Except Failure Bytes
  | 0 => .ok []
  | ivLen + 1 => match s with
    | c :: d :: s => match hexValue c, hexValue d with
      | some j, some k => (pemGetIv s ivLen).map ((j <<< 4 ||| k) :: ·)
      | _, _ => .error .pemInvalidEncIv
    | _ => .error .pemInvalidEncIv

def procType : Bytes := ascii
  ['P', 'r', 'o', 'c', '-', 'T', 'y', 'p', 'e', ':', ' ', '4', ',', 'E', 'N', 'C', 'R', 'Y', 'P', 'T', 'E', 'D']

def dekInfo : Bytes := ascii ['D', 'E', 'K', '-', 'I', 'n', 'f', 'o', ':', ' ']

def dekInfoDesEde3 : Bytes := dekInfo ++ ascii ['D', 'E', 'S', '-', 'E', 'D', 'E', '3', '-', 'C', 'B', 'C', ',']

def dekInfoDes : Bytes := dekInfo ++ ascii ['D', 'E', 'S', '-', 'C', 'B', 'C', ',']

def dekInfoAes : Bytes := dekInfo ++ ascii ['A', 'E', 'S', '-']

def dekInfoAes128 : Bytes := dekInfoAes ++ ascii ['1', '2', '8', '-', 'C', 'B', 'C', ',']

def dekInfoAes192 : Bytes := dekInfoAes ++ ascii ['1', '9', '2', '-', 'C', 'B', 'C', ',']

def dekInfoAes256 : Bytes := dekInfoAes ++ ascii ['2', '5', '6', '-', 'C', 'B', 'C', ',']

/-- The initialization vector of `ivLen` bytes that stands at `s1`, and where it ends. -/
def pemIvAt (text : Bytes) (s1 s2 ivLen : Nat) : Except Failure (Bytes × Nat) :=
  if s2 < s1 + 2 * ivLen then .error .pemInvalidEncIv
  else (pemGetIv (text.drop s1) ivLen).map fun iv => (iv, s1 + 2 * ivLen)

def dekInfoDesAt (text : Bytes) (s1 s2 : Nat) : Except Failure (Option (CipherType × Bytes) × Nat) :=
  if atWord text s1 s2 dekInfoDesEde3 then
    (pemIvAt text (s1 + 23) s2 8).map fun r => (some (.desEde3Cbc, r.1), r.2)
  else if atWord text s1 s2 dekInfoDes then
    (pemIvAt text (s1 + 18) s2 8).map fun r => (some (.desCbc, r.1), r.2)
  else .ok (none, s1)

/-- After a `DES` line a second one is looked for, with no line end between them. -/
def dekInfoAesAt (text : Bytes) (s1 s2 : Nat) (found : Option (CipherType × Bytes)) :
    Except Failure (Option (CipherType × Bytes) × Nat) :=
  if atWord text s1 s2 dekInfoAes then
    if s2 < s1 + 22 then .error .pemUnknownEncAlg
    else if dekInfoAes128 <+: text.drop s1 then
      (pemIvAt text (s1 + 22) s2 16).map fun r => (some (.aes128Cbc, r.1), r.2)
    else if dekInfoAes192 <+: text.drop s1 then
      (pemIvAt text (s1 + 22) s2 16).map fun r => (some (.aes192Cbc, r.1), r.2)
    else if dekInfoAes256 <+: text.drop s1 then
      (pemIvAt text (s1 + 22) s2 16).map fun r => (some (.aes256Cbc, r.1), r.2)
    else .error .pemUnknownEncAlg
  else .ok (found, s1)

/-- An optional carriage return and a line feed. -/
def pemLineEnd (text : Bytes) (s1 : Nat) : Except Failure Nat :=
  let s1 := skip text 0x0D s1
  if text[s1]? = some newline then .ok (s1 + 1) else .error .pemInvalidData

/-- How the body is encrypted, if it is, and where it starts. -/
def pemEncryption (text : Bytes) (s1 s2 : Nat) : Except Failure (Option (CipherType × Bytes) × Nat) :=
  if atWord text s1 s2 procType then do
    let s1 ← pemLineEnd text (s1 + 22)
    let (found, s1) ← dekInfoDesAt text s1 s2
    let (found, s1) ← dekInfoAesAt text s1 s2 found
    match found with
    | none => .error .pemUnknownEncAlg
    | some enc =>
        let s1 ← pemLineEnd text s1
        .ok (some enc, s1)
  else .ok (none, s1)

/-- `pem_des_decrypt`, `pem_des3_decrypt` and `pem_aes_decrypt`: the cipher, the initialization
vector, the password and the data. -/
abbrev PemDecrypt := CipherType → Bytes → Bytes → Bytes → Except Failure Bytes

def pemDecode (text : Bytes) (s1 s2 : Nat) : Except Failure Bytes :=
  if s1 ≥ s2 then .error .pemInvalidData
  else
    let s := (text.drop s1).take (s2 - s1)
    let (len, first) := base64Decode none s
    if first = .error .base64InvalidCharacter then .error (.pemInvalidData + .base64InvalidCharacter)
    else match (base64Decode (some len) s).2 with
      | .error failure => .error (.pemInvalidData + failure)
      | .ok buf => .ok buf

def pemDecrypt (decrypt : PemDecrypt) (pwd : Option Bytes) (enc : CipherType × Bytes) (buf : Bytes) :
    Except Failure Bytes :=
  match pwd with
  | none => .error .pemPasswordRequired
  | some pwd => do
      let buf ← decrypt enc.1 enc.2 pwd buf
      if buf.length ≤ 2 ∨ buf[0]? ≠ some 0x30 ∨ (∀ b ∈ buf[1]?, b > 0x83) then .error .pemPasswordMismatch
      else .ok buf

/-- What is between the header and the footer, once both are found. -/
def pemBody (decrypt : PemDecrypt) (pwd : Option Bytes) (text : Bytes) (s1 s2 : Nat) : Except Failure Bytes := do
  let (enc, s1) ← pemEncryption text s1 s2
  let buf ← pemDecode text s1 s2
  match enc with
  | none => .ok buf
  | some enc => pemDecrypt decrypt pwd enc buf

/-- Behind the footer, with the end of its line. -/
def pemEnd (text : Bytes) (s : Nat) : Nat := skip text newline (skip text 0x0D (skip text 0x20 s))

/-- First what is stored in `use_len`, if anything is. -/
def pemReadBuffer (decrypt : PemDecrypt) (header footer data : Bytes) (pwd : Option Bytes) :
    Option Nat × Except Stop Bytes :=
  match cString data with
  | none => (none, .error .fault)
  | some text => match firstIndex header text, firstIndex footer text with
    | some s1, some s2 =>
        if s2 ≤ s1 then (none, .error (.failed .pemNoHeaderFooterPresent))
        else
          let s1 := skip text 0x0D (skip text 0x20 (s1 + header.length))
          if text[s1]? = some newline then
            (some (pemEnd text (s2 + footer.length)), (pemBody decrypt pwd text (s1 + 1) s2).mapError .failed)
          else (none, .error (.failed .pemNoHeaderFooterPresent))
    | _, _ => (none, .error (.failed .pemNoHeaderFooterPresent))

theorem le_skip (text : Bytes) (c : UInt8) (s : Nat) : s ≤ skip text c s := by
  rw [skip]
  split <;> omega

theorem le_pemEnd (text : Bytes) (s : Nat) : s ≤ pemEnd text s :=
  (le_skip text 0x20 s).trans ((le_skip text 0x0D _).trans (le_skip text newline _))

/-- Where both boundaries are found, something of the data is used. -/
theorem useLen_pos {decrypt : PemDecrypt} {header footer data : Bytes} {pwd : Option Bytes} {useLen : Option Nat}
    {r : Except Stop Bytes} (h : pemReadBuffer decrypt header footer data pwd = (useLen, r))
    (hr : r ≠ .error .fault ∧ r ≠ .error (.failed .pemNoHeaderFooterPresent)) : 0 < useLen.getD 0 := by
  rw [pemReadBuffer] at h
  split at h
  · exact absurd (Prod.mk.inj h).2.symm hr.1
  · rename_i text _
    split at h
    · rename_i s1 s2 _ _
      split at h
      · exact absurd (Prod.mk.inj h).2.symm hr.2
      · simp only at h
        split at h
        · obtain ⟨rfl, -⟩ := Prod.mk.inj h
          have hend := le_pemEnd text (s2 + footer.length)
          simp only [Option.getD_some]
          omega
        · exact absurd (Prod.mk.inj h).2.symm hr.2
    · exact absurd (Prod.mk.inj h).2.symm hr.2

theorem pemLines_nil : pemLines [] = [] := by rw [pemLines, if_pos rfl]

theorem pemLines_of_ne {c : Bytes} (h : c ≠ []) : pemLines c = c.take 64 ++ newline :: pemLines (c.drop 64) := by
  rw [pemLines, if_neg h]

theorem mem_pemLines {c : Bytes} {b : UInt8} (h : b ∈ pemLines c) : b ∈ c ∨ b = newline := by
  induction c using pemLines.induct with
  | case1 => rw [pemLines_nil] at h; cases h
  | case2 c hc ih =>
      rw [pemLines_of_ne hc, List.mem_append, List.mem_cons] at h
      rcases h with h | h | h
      · exact .inl (List.mem_of_mem_take h)
      · exact .inr h
      · exact (ih h).imp_left List.mem_of_mem_drop

theorem filter_pemLines {c : Bytes} (h : newline ∉ c) : (pemLines c).filter (· ≠ newline) = c := by
  induction c using pemLines.induct with
  | case1 => rw [pemLines_nil]; rfl
  | case2 c hc ih =>
      have hfirst : (c.take 64).filter (· ≠ newline) = c.take 64 :=
        List.filter_eq_self.mpr fun b hb => decide_eq_true fun he => h (he ▸ List.mem_of_mem_take hb)
      rw [pemLines_of_ne hc, List.filter_append, hfirst, List.filter_cons_of_neg (by simp),
        ih fun hm => h (List.mem_of_mem_drop hm), List.take_append_drop]

theorem length_pemLines (c : Bytes) : (pemLines c).length = c.length + (c.length + 63) / 64 := by
  induction c using pemLines.induct with
  | case1 => rw [pemLines_nil]; rfl
  | case2 c hc ih =>
      have hpos := List.length_pos_iff.mpr hc
      rw [pemLines_of_ne hc, List.length_append, List.length_cons, ih, List.length_take, List.length_drop]
      omega

section Written

variable {header footer der : Bytes}

/-- What `mbedtls_pem_write_buffer` makes, where it succeeds: the boundary lines come with their
line ends. -/
def pemText (header footer der : Bytes) : Bytes := header ++ pemLines (base64Chars der) ++ footer

theorem length_pemText : (pemText header footer der).length =
    header.length + footer.length + (4 * ((der.length + 2) / 3) + (4 * ((der.length + 2) / 3) + 63) / 64) := by
  rw [pemText, List.length_append, List.length_append, length_pemLines, length_base64Chars]
  omega

/-- The room asked for: one character too many, and at most one line too many. -/
def pemSize (header footer : Bytes) (n : Nat) : Nat :=
  4 * ((n + 2) / 3) + 1 + (header.length + footer.length + (4 * ((n + 2) / 3) + 1) / 64 + 1)

theorem pemWriteBuffer_eq {bufLen : Nat} (hne : der ≠ []) (hlen : der.length < 2 ^ 63) :
    pemWriteBuffer header footer der bufLen =
      if pemSize header footer der.length ≤ bufLen then
        ((pemText header footer der).length + 1, .ok (pemText header footer der ++ [0]))
      else (pemSize header footer der.length, .error .base64BufferTooSmall) := by
  have hn : der.length / 3 + (if der.length % 3 ≠ 0 then 1 else 0) = (der.length + 2) / 3 := by split <;> omega
  have hbound : ¬ (der.length + 2) / 3 > (2 ^ 64 - 1 - 1) / 4 := by omega
  by_cases hfits : pemSize header footer der.length ≤ bufLen
  · rw [if_pos hfits]
    rw [pemSize] at hfits
    simp only [pemWriteBuffer, base64Encode, if_neg hne, hn, if_neg hbound, Option.all_none, if_true,
        Option.all_some]
    rw [if_neg (by omega), if_neg (by simp)]
    simp [pemText, Nat.add_assoc]
  · rw [if_neg hfits]
    rw [pemSize] at hfits ⊢
    simp only [pemWriteBuffer, base64Encode, if_neg hne, hn, if_neg hbound, Option.all_none, if_true]
    rw [if_pos (by omega)]

theorem pemText_ascii (hheader : ∀ b ∈ header, b ≤ 127) (hfooter : ∀ b ∈ footer, b ≤ 127) :
    ∀ b ∈ pemText header footer der, b ≤ 127 := by
  intro b hb
  rw [pemText, List.append_assoc, List.mem_append, List.mem_append] at hb
  rcases hb with hb | hb | hb
  · exact hheader b hb
  · rcases mem_pemLines hb with hb | rfl
    · exact (bodyChar_of_mem hb).1
    · decide
  · exact hfooter b hb

/-- Boundary lines a reader cannot take for anything else. -/
structure Boundaries (header footer : Bytes) : Prop where
  header_clean : 0 ∉ header
  footer_clean : 0 ∉ footer
  footer_dash : footer.head? = some 0x2D
  apart : ∀ k < (header ++ [newline]).length, Apart ((header ++ [newline]).drop k) footer

theorem bodyChar_of_mem_lines {b : UInt8} (h : b ∈ pemLines (base64Chars der)) : b = newline ∨ BodyChar b :=
  (mem_pemLines h).symm.imp_right bodyChar_of_mem

theorem dash_notMem_lines (der : Bytes) : 0x2D ∉ pemLines (base64Chars der) := fun h => by
  rcases bodyChar_of_mem_lines h with h | h
  · exact absurd h (by decide)
  · exact h.2.2.2.2.2 rfl

theorem zero_notMem_pemText (hheader : 0 ∉ header) (hfooter : 0 ∉ footer) : 0 ∉ pemText header footer der := by
  intro h
  rw [pemText, List.append_assoc, List.mem_append, List.mem_append] at h
  rcases h with h | h | h
  · exact hheader h
  · rcases bodyChar_of_mem_lines h with h | h
    · exact absurd h (by decide)
    · exact h.2.1 rfl
  · exact hfooter h

theorem pemDecode_lines {pre post : Bytes} (hne : der ≠ []) :
    pemDecode (pre ++ pemLines (base64Chars der) ++ post) pre.length
      (pre.length + (pemLines (base64Chars der)).length) = .ok der := by
  have hpos : 0 < (pemLines (base64Chars der)).length := by
    have := List.length_pos_iff.mpr hne
    rw [length_pemLines, length_base64Chars]
    omega
  have hs : ((pre ++ pemLines (base64Chars der) ++ post).drop pre.length).take
      (pemLines (base64Chars der)).length =
      pemLines (base64Chars der) := by
    rw [List.append_assoc, List.drop_left, List.take_left]
  have hfilter : (pemLines (base64Chars der)).filter (· ≠ newline) = base64Chars der :=
    filter_pemLines fun h => (bodyChar_of_mem h).2.2.2.2.1 rfl
  have hclean : ∀ c ∈ pemLines (base64Chars der), c ≠ 0x20 ∧ c ≠ 0x0D := by
    intro c hc
    rcases bodyChar_of_mem_lines hc with rfl | hc
    · decide
    · exact ⟨hc.2.2.1, hc.2.2.2.1⟩
  obtain ⟨hfirst, hsecond⟩ := base64Decode_of_filter hfilter hclean
  rw [pemDecode, if_neg (by omega), Nat.add_sub_cancel_left, hs]
  simp only [if_neg hfirst, hsecond]

/-- The body starts with no `Proc-Type` line: it has no dash. -/
theorem pemEncryption_lines {pre post : Bytes} :
    pemEncryption (pre ++ pemLines (base64Chars der) ++ post) pre.length
      (pre.length + (pemLines (base64Chars der)).length) = .ok (none, pre.length) := by
  refine if_neg fun h => dash_notMem_lines der ?_
  obtain ⟨hlen, hat⟩ := h
  rw [List.append_assoc, List.drop_left] at hat
  have hword : procType <+: pemLines (base64Chars der) :=
    List.prefix_of_prefix_length_le hat (List.prefix_append _ _) (by omega)
  exact hword.subset (by decide)

theorem pemBody_lines (pre post : Bytes) (decrypt : PemDecrypt) (pwd : Option Bytes) (hne : der ≠ []) :
    pemBody decrypt pwd (pre ++ pemLines (base64Chars der) ++ post) pre.length
      (pre.length + (pemLines (base64Chars der)).length) = .ok der := by
  rw [pemBody, pemEncryption_lines]
  simp only [bind, Except.bind, pemDecode_lines hne]

theorem skip_of_newline {text : Bytes} {c : UInt8} {s : Nat} (h : text[s]? = some newline) (hc : newline ≠ c) :
    skip text c s = s :=
  if_neg fun he => hc (Option.some.inj (h.symm.trans he))

theorem pemEnd_of_newline {text : Bytes} {s : Nat} (h : text[s]? = some newline) : pemEnd text s = s + 1 := by
  rw [pemEnd, skip_of_newline h (by decide), skip_of_newline h (by decide), skip, if_pos h]

theorem firstIndex_footer (hb : Boundaries header footer) (post : Bytes) :
    firstIndex footer ((header ++ [newline]) ++ pemLines (base64Chars der) ++ (footer ++ post)) =
      some ((header ++ [newline]).length + (pemLines (base64Chars der)).length) := by
  obtain ⟨f, hf⟩ : ∃ f, footer = 0x2D :: f := by
    cases footer with
    | nil => cases hb.footer_dash
    | cons c f => exact ⟨f, congrArg (· :: f) (Option.some.inj hb.footer_dash)⟩
  have hlines := firstIndex_append_of_notMem f (footer ++ post) (dash_notMem_lines der)
  rw [← hf] at hlines
  rw [List.append_assoc, firstIndex_append_of_apart hb.apart, hlines,
      firstIndex_of_prefix (List.prefix_append _ _)]
  simp [Nat.add_comm]

/-- What is written is read back, whatever the password. -/
theorem pemReadBuffer_pemText (hb : Boundaries header footer) (decrypt : PemDecrypt) (pwd : Option Bytes)
    (hne : der ≠ []) :
    pemReadBuffer decrypt header footer (pemText (header ++ [newline]) (footer ++ [newline]) der ++ [0]) pwd =
      (some (pemText (header ++ [newline]) (footer ++ [newline]) der).length, .ok der) := by
  have hclean : 0 ∉ pemText (header ++ [newline]) (footer ++ [newline]) der :=
    zero_notMem_pemText (by simpa [newline] using hb.header_clean) (by simpa [newline] using hb.footer_clean)
  have hheader : firstIndex header (pemText (header ++ [newline]) (footer ++ [newline]) der) = some 0 :=
    firstIndex_of_prefix (by simp [pemText])
  have hfooter : firstIndex footer (pemText (header ++ [newline]) (footer ++ [newline]) der) = _ :=
    firstIndex_footer hb [newline]
  have hfirst : (pemText (header ++ [newline]) (footer ++ [newline]) der)[header.length]? = some newline := by
    simp [pemText]
  have hconcat : pemText (header ++ [newline]) (footer ++ [newline]) der =
      (header ++ [newline] ++ pemLines (base64Chars der) ++ footer) ++ [newline] := by simp [pemText]
  have hlast : (pemText (header ++ [newline]) (footer ++ [newline]) der)[(header ++ [newline]).length +
      (pemLines (base64Chars der)).length + footer.length]? = some newline := by
    rw [hconcat, ← List.length_append, ← List.length_append, List.getElem?_concat_length]
  have hend : pemEnd (pemText (header ++ [newline]) (footer ++ [newline]) der) ((header ++ [newline]).length +
      (pemLines (base64Chars der)).length + footer.length) =
        (pemText (header ++ [newline]) (footer ++ [newline]) der).length := by
    rw [pemEnd_of_newline hlast, hconcat]
    simp only [List.length_append, List.length_singleton]
  have hbody := pemBody_lines (header ++ [newline]) (footer ++ [newline]) decrypt pwd hne
  rw [List.length_append, List.length_singleton] at hbody
  simp only [pemReadBuffer, cString_concat hclean, hheader, hfooter]
  rw [if_neg (by simp), Nat.zero_add, skip_of_newline hfirst (by decide), skip_of_newline hfirst (by decide),
    if_pos hfirst, hend]
  simp only [List.length_append, List.length_singleton]
  rw [pemText, hbody]
  rfl

end Written

end OpenVPNAdapter.MbedTLS
