import OpenVPNAdapter.MbedTLS.Pem

namespace OpenVPNAdapter.MbedTLS

open Library.Substring

/-- Where the body starts and where the footer does, if the boundaries are there. -/
def pemStart (header footer text : Bytes) : Option (Nat × Nat) :=
  match firstIndex header text, firstIndex footer text with
  | some s1, some s2 =>
      let start := skip text 0x0D (skip text 0x20 (s1 + header.length))
      if s2 ≤ s1 ∨ text[start]? ≠ some newline then none else some (start + 1, s2)
  | _, _ => none

variable {decrypt : PemDecrypt} {header footer data text : Bytes} {pwd : Option Bytes}

theorem pemReadBuffer_of_start (htext : cString data = some text) {s1 s2 : Nat}
    (h : pemStart header footer text = some (s1, s2)) :
    pemReadBuffer decrypt header footer data pwd =
      (some (pemEnd text (s2 + footer.length)), (pemBody decrypt pwd text s1 s2).mapError .failed) := by
  rw [pemStart] at h
  split at h
  · rename_i k1 k2 hheader hfooter
    simp only at h
    split at h
    · cases h
    · rename_i hfound
      obtain ⟨rfl, rfl⟩ := Prod.mk.inj (Option.some.inj h)
      simp only [not_or, Nat.not_le, Decidable.not_not] at hfound
      simp only [pemReadBuffer, htext, hheader, hfooter]
      rw [if_neg (by omega), if_pos hfound.2]
  · cases h

theorem pemReadBuffer_of_no_start (htext : cString data = some text) (h : pemStart header footer text = none) :
    pemReadBuffer decrypt header footer data pwd = (none, .error (.failed .pemNoHeaderFooterPresent)) := by
  rw [pemStart] at h
  split at h
  · rename_i k1 k2 hheader hfooter
    simp only at h
    split at h
    · rename_i hmissing
      simp only [pemReadBuffer, htext, hheader, hfooter]
      rcases Nat.lt_or_ge k1 k2 with hlt | hle
      · rw [if_neg (by omega), if_neg (hmissing.resolve_left (by omega))]
      · rw [if_pos hle]
    · cases h
  · rename_i hmissing
    simp only [pemReadBuffer, htext]

/-- Data with a terminator is read within its bounds. -/
theorem pemReadBuffer_ne_fault (h : 0 ∈ data) :
    (pemReadBuffer decrypt header footer data pwd).2 ≠ .error .fault := by
  have htext : cString data = some (data.takeWhile (· ≠ 0)) := if_pos h
  cases hstart : pemStart header footer (data.takeWhile (· ≠ 0)) with
  | none =>
      rw [pemReadBuffer_of_no_start htext hstart]
      nofun
  | some bounds =>
      rw [pemReadBuffer_of_start htext hstart]
      cases pemBody decrypt pwd (data.takeWhile (· ≠ 0)) bounds.1 bounds.2 with
      | ok der => nofun
      | error failure => nofun

/-- The header, a line feed, the body and the footer are in the text. -/
theorem pemStart_bounds {s1 s2 : Nat} (h : pemStart header footer text = some (s1, s2)) :
    header.length + 1 ≤ s1 ∧ s1 ≤ text.length ∧ s2 + footer.length ≤ text.length := by
  rw [pemStart] at h
  split at h
  · rename_i k1 k2 hheader hfooter
    simp only at h
    split at h
    · cases h
    · rename_i hfound
      obtain ⟨rfl, rfl⟩ := Prod.mk.inj (Option.some.inj h)
      have h1 := le_skip text 0x20 (k1 + header.length)
      have h2 := le_skip text 0x0D (skip text 0x20 (k1 + header.length))
      obtain ⟨hstart, -⟩ := List.getElem?_eq_some_iff.mp (Decidable.not_not.mp (not_or.mp hfound).2)
      exact ⟨by omega, by omega, firstIndex_add_le hfooter⟩
  · cases h

/-- The second pass stores no more bytes than it is given characters. -/
theorem length_base64Bytes (j n x : Nat) (src : Bytes) : (base64Bytes j n x src).length ≤ n + src.length := by
  induction src generalizing j n x with
  | nil => exact Nat.zero_le _
  | cons c src ih =>
      rw [base64Bytes, List.length_cons]
      split
      · exact (ih j n x).trans (by omega)
      · simp only
        split
        · have hone (p : Prop) [Decidable p] (b : UInt8) : (if p then [b] else []).length ≤ 1 := by
            split <;> simp
          simp only [List.length_append]
          exact (Nat.add_le_add (Nat.add_le_add (Nat.add_le_add (hone _ _) (hone _ _)) (hone _ _))
              (ih _ _ _)).trans
            (by omega)
        · exact (ih _ _ _).trans (by omega)

theorem length_of_base64Decode {dlen : Option Nat} {src buf : Bytes} (h : (base64Decode dlen src).2 = .ok buf) :
    buf.length ≤ src.length := by
  rw [base64Decode] at h
  split at h
  · cases h
  · split at h
    · obtain rfl := Except.ok.inj h
      exact Nat.zero_le _
    · simp only at h
      split at h
      · cases h
      · obtain rfl := Except.ok.inj h
        exact (length_base64Bytes 3 0 0 src).trans (by omega)

/-- Without a `Proc-Type` line the body starts where it did. -/
theorem pemEncryption_eq_none {s1 s2 s : Nat} :
    pemEncryption text s1 s2 = .ok (none, s) ↔ ¬ atWord text s1 s2 procType ∧ s1 = s := by
  rw [pemEncryption]
  split
  · rename_i hword
    refine ⟨fun h => ?_, fun h => absurd hword h.1⟩
    obtain ⟨_, -, h1⟩ := bind_eq_ok.mp h
    obtain ⟨_, -, h2⟩ := bind_eq_ok.mp h1
    obtain ⟨⟨found, s'⟩, -, h3⟩ := bind_eq_ok.mp h2
    cases found with
    | none => cases h3
    | some enc =>
        obtain ⟨_, -, h4⟩ := bind_eq_ok.mp h3
        cases h4
  · rename_i hword
    exact ⟨fun h => ⟨hword, (Prod.mk.inj (Except.ok.inj h)).2⟩, fun h => by rw [h.2]⟩

/-- Without a password the bytes are those of the characters between the boundaries. -/
theorem length_of_pemBody {s1 s2 : Nat} {buf : Bytes} (h : pemBody decrypt none text s1 s2 = .ok buf) :
    buf.length + s1 ≤ s2 := by
  obtain ⟨⟨enc, s⟩, hencryption, hafterEncryption⟩ := bind_eq_ok.mp h
  obtain ⟨buf', hdecode, hafterDecode⟩ := bind_eq_ok.mp hafterEncryption
  cases enc with
  | some enc => cases hafterDecode
  | none =>
      obtain rfl := Except.ok.inj hafterDecode
      obtain ⟨-, rfl⟩ := pemEncryption_eq_none.mp hencryption
      rw [pemDecode] at hdecode
      split at hdecode
      · cases hdecode
      · simp only at hdecode
        split at hdecode
        · cases hdecode
        · split at hdecode
          · cases hdecode
          · rename_i buf'' hbuf
            obtain rfl := Except.ok.inj hdecode
            have hlength := length_of_base64Decode hbuf
            rw [List.length_take] at hlength
            omega

/-! The codes of a body that cannot be read lie between the two that end the reading of a text. -/

def BodyFailure (failure : Failure) : Prop :=
  Failure.pemBadInputData.code < failure.code ∧ failure.code < Failure.pemNoHeaderFooterPresent.code

instance (failure : Failure) : Decidable (BodyFailure failure) := inferInstanceAs (Decidable (_ ∧ _))

theorem BodyFailure.ne {failure : Failure} (h : BodyFailure failure) :
    failure ≠ .pemNoHeaderFooterPresent ∧ failure ≠ .pemBadInputData := by
  constructor
  · rintro rfl
    exact absurd h (by decide)
  · rintro rfl
    exact absurd h (by decide)

theorem bodyFailure_of_lineEnd {s : Nat} {failure : Failure} (h : pemLineEnd text s = .error failure) :
    BodyFailure failure := by
  simp only [pemLineEnd] at h
  split at h
  · cases h
  · obtain rfl := Except.error.inj h
    decide

theorem bodyFailure_of_getIv {s : Bytes} {ivLen : Nat} {failure : Failure}
    (h : pemGetIv s ivLen = .error failure) :
    BodyFailure failure := by
  induction ivLen generalizing s with
  | zero =>
      rw [pemGetIv] at h
      cases h
  | succ ivLen ih =>
      unfold pemGetIv at h
      split at h
      · split at h
        · exact ih (map_eq_error.mp h)
        · obtain rfl := Except.error.inj h
          decide
      · obtain rfl := Except.error.inj h
        decide

theorem bodyFailure_of_ivAt {s1 s2 ivLen : Nat} {failure : Failure}
    (h : pemIvAt text s1 s2 ivLen = .error failure) :
    BodyFailure failure := by
  rw [pemIvAt] at h
  split at h
  · obtain rfl := Except.error.inj h
    decide
  · exact bodyFailure_of_getIv (map_eq_error.mp h)

theorem bodyFailure_of_dekInfoDes {s1 s2 : Nat} {failure : Failure}
    (h : dekInfoDesAt text s1 s2 = .error failure) :
    BodyFailure failure := by
  rw [dekInfoDesAt] at h
  split at h
  · exact bodyFailure_of_ivAt (map_eq_error.mp h)
  · split at h
    · exact bodyFailure_of_ivAt (map_eq_error.mp h)
    · cases h

theorem bodyFailure_of_dekInfoAes {s1 s2 : Nat} {found : Option (CipherType × Bytes)} {failure : Failure}
    (h : dekInfoAesAt text s1 s2 found = .error failure) : BodyFailure failure := by
  have hunknown : BodyFailure .pemUnknownEncAlg := by decide
  rw [dekInfoAesAt] at h
  split_ifs at h
  · exact Except.error.inj h ▸ hunknown
  · exact bodyFailure_of_ivAt (map_eq_error.mp h)
  · exact bodyFailure_of_ivAt (map_eq_error.mp h)
  · exact bodyFailure_of_ivAt (map_eq_error.mp h)
  · exact Except.error.inj h ▸ hunknown

theorem bodyFailure_of_encryption {s1 s2 : Nat} {failure : Failure}
    (h : pemEncryption text s1 s2 = .error failure) :
    BodyFailure failure := by
  rw [pemEncryption] at h
  split at h
  · rcases bind_eq_error.mp h with hline | ⟨_, -, h1⟩
    · exact bodyFailure_of_lineEnd hline
    rcases bind_eq_error.mp h1 with hdes | ⟨_, -, h2⟩
    · exact bodyFailure_of_dekInfoDes hdes
    rcases bind_eq_error.mp h2 with haes | ⟨⟨found, s⟩, -, h3⟩
    · exact bodyFailure_of_dekInfoAes haes
    cases found with
    | none =>
        obtain rfl := Except.error.inj h3
        decide
    | some enc =>
        rcases bind_eq_error.mp h3 with hline | ⟨_, -, h4⟩
        · exact bodyFailure_of_lineEnd hline
        · cases h4
  · cases h

theorem base64Check_eq_error {spaced : Bool} {n j : Nat} {src : Bytes} {failure : Failure}
    (h : base64Check spaced n j src = .error failure) : failure = .base64InvalidCharacter := by
  induction src generalizing spaced n j with
  | nil => cases h
  | cons c src ih =>
      simp only [base64Check] at h
      split_ifs at h
      all_goals first
        | exact ih h
        | exact (Except.error.inj h).symm

theorem bodyFailure_of_decode {s1 s2 : Nat} {failure : Failure} (h : pemDecode text s1 s2 = .error failure) :
    BodyFailure failure := by
  have hinvalid : BodyFailure (.pemInvalidData + .base64InvalidCharacter) := by decide
  rw [pemDecode] at h
  split at h
  · obtain rfl := Except.error.inj h
    decide
  · simp only at h
    split at h
    · exact Except.error.inj h ▸ hinvalid
    · split at h
      · rename_i failure' hsecond
        obtain rfl := Except.error.inj h
        rw [base64Decode] at hsecond
        split at hsecond
        · rename_i hcheck
          obtain rfl := base64Check_eq_error (Except.error.inj hsecond ▸ hcheck)
          exact hinvalid
        · split at hsecond
          · cases hsecond
          · simp only at hsecond
            split at hsecond
            · obtain rfl := Except.error.inj hsecond
              decide
            · cases hsecond
      · cases h

theorem bodyFailure_of_body {s1 s2 : Nat} {failure : Failure}
    (h : pemBody decrypt none text s1 s2 = .error failure) :
    BodyFailure failure := by
  rcases bind_eq_error.mp h with hencryption | ⟨⟨enc, s⟩, -, hafterEncryption⟩
  · exact bodyFailure_of_encryption hencryption
  rcases bind_eq_error.mp hafterEncryption with hdecode | ⟨buf, -, hafterDecode⟩
  · exact bodyFailure_of_decode hdecode
  cases enc with
  | none => cases hafterDecode
  | some enc =>
      obtain rfl := Except.error.inj hafterDecode
      decide

end OpenVPNAdapter.MbedTLS
