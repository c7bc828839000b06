import Mathlib.Data.List.Forall2
import OpenVPNAdapter.MbedTLS.X509Blocks
import OpenVPNAdapter.OpenVPNCertificate
import OpenVPNAdapter.OpenVPNPrivateKey

namespace OpenVPNAdapter.Identity

open Library.Delimited MbedTLS

section Chain

variable {δ : Type} (parseDetails : ParseDetails δ) (decrypt : PemDecrypt)

/-- Each block of the data was parsed, and its certificate is in the chain, in the order of the data. -/
def WholeChain (data : Bytes) (certificate : OpenVPNCertificate δ) : Prop :=
  List.SublistForall₂ (fun block crt => block.bind (parseBlock parseDetails decrypt) = some crt) (blocks data)
    certificate.crt

/-- Data of which nothing is left out. Of a text that is read as one: a block for which there is no memory
stops the reading, or no block that is come to is parsed, or the text does not end within a block and all
blocks are come to and parsed. Of what is read as DER: there is no block besides. -/
def KeepsBlocks (data : Bytes) : Prop :=
  if HasHeader data then
    (∃ body ∈ plainBlocks data, AllocFails parseDetails decrypt body) ∨
      (∀ body ∈ plainBlocks data, parseBlock parseDetails decrypt body = none) ∨
      (¬ CutShort data ∧ ∀ p ∈ pieces certificateMarks data, Plain p ∧
        parseBlock parseDetails decrypt p.body ≠ none)
  else ∀ crt, x509CrtParseDerCore parseDetails (data ++ [0]) = .ok crt →
    blocks data = [] ∨ ∃ body, blocks data = [some body] ∧ parseBlock parseDetails decrypt body = some crt

variable {parseDetails decrypt} {data : Bytes}

theorem forall₂_filterMap {α β : Type} {f : α → Option β} {xs : List α} (h : ∀ a ∈ xs, f a ≠ none) :
    List.Forall₂ (fun a b => f a = some b) xs (xs.filterMap f) := by
  induction xs with
  | nil => exact .nil
  | cons x xs ih =>
      obtain ⟨hx, hxs⟩ := List.forall_mem_cons.mp h
      obtain ⟨b, hb⟩ := Option.ne_none_iff_exists'.mp hx
      rw [List.filterMap_cons_some hb]
      exact .cons hb (ih hxs)

theorem ne_none_of_forall₂ {α β : Type} {f : α → Option β} {xs : List α} {ys : List β}
    (h : List.Forall₂ (fun a b => f a = some b) xs ys) : ∀ a ∈ xs, f a ≠ none := by
  induction h with
  | nil => exact nofun
  | cons hab _ ih => exact List.forall_mem_cons.mpr ⟨by rw [hab]; exact nofun, ih⟩

theorem not_cutShort_of_blocks {crts : List (X509Crt δ)}
    (h : List.Forall₂ (fun block crt => block.bind (parseBlock parseDetails decrypt) = some crt)
      (blocks data) crts) :
    ¬ CutShort data := by
  intro hcut
  have hlast : none ∈ blocks data := by
    rw [blocks, if_pos hcut]
    exact List.mem_append_right _ (List.mem_singleton_self none)
  exact ne_none_of_forall₂ h none hlast rfl

theorem blocks_of_not_cutShort (h : ¬ CutShort data) :
    blocks data = (pieces certificateMarks data).map fun p => some p.body := by
  rw [blocks, if_neg h, List.append_nil]

/-- A chain of the plain blocks alone holds all blocks only where all of them are plain: there are no
more certificates than blocks. -/
theorem wholeChain_iff_plain :
    WholeChain parseDetails decrypt data ⟨(plainBlocks data).filterMap (parseBlock parseDetails decrypt)⟩ ↔
      ¬ CutShort data ∧
        ∀ p ∈ pieces certificateMarks data, Plain p ∧ parseBlock parseDetails decrypt p.body ≠ none := by
  rw [WholeChain, List.sublistForall₂_iff]
  constructor
  · rintro ⟨crts, hparsed, hsublist⟩
    have hends := not_cutShort_of_blocks hparsed
    have hcount : (blocks data).length ≤ (plainBlocks data).length :=
      (hparsed.length_eq ▸ hsublist.length_le).trans (List.length_filterMap_le _ _)
    rw [blocks_of_not_cutShort hends] at hparsed hcount
    rw [plainBlocks, List.length_map, List.length_map] at hcount
    have hprefix := List.takeWhile_prefix (p := fun p => decide (Plain p)) (l := pieces certificateMarks data)
    have hplain := hprefix.eq_of_length (Nat.le_antisymm hprefix.length_le hcount)
    refine ⟨hends, fun p hp => ⟨of_decide_eq_true (List.takeWhile_eq_self_iff.mp hplain p hp), ?_⟩⟩
    exact ne_none_of_forall₂ hparsed (some p.body) (List.mem_map_of_mem hp)
  · rintro ⟨hends, h⟩
    have hplain : plainBlocks data = (pieces certificateMarks data).map Piece.body := by
      rw [plainBlocks, List.takeWhile_eq_self_iff.mpr fun p hp => decide_eq_true (h p hp).1]
    rw [hplain, blocks_of_not_cutShort hends]
    refine ⟨_, ?_, List.Sublist.refl _⟩
    rw [List.filterMap_map, List.forall₂_map_left_iff]
    exact forall₂_filterMap fun p hp => (h p hp).2

theorem wholeChain_singleton {crt : X509Crt δ} : WholeChain parseDetails decrypt data ⟨[crt]⟩ ↔
    blocks data = [] ∨ ∃ body, blocks data = [some body] ∧ parseBlock parseDetails decrypt body = some crt := by
  rw [WholeChain, List.sublistForall₂_iff]
  constructor
  · rintro ⟨crts, hparsed, hsublist⟩
    rcases List.sublist_singleton.mp hsublist with rfl | rfl
    · exact .inl (List.forall₂_nil_right_iff.mp hparsed)
    · obtain ⟨block, rest, hblock, hnil, heq⟩ := List.forall₂_cons_right_iff.mp hparsed
      obtain ⟨body, rfl, hbody⟩ := Option.bind_eq_some_iff.mp hblock
      exact .inr ⟨body, by rw [heq, List.forall₂_nil_right_iff.mp hnil], hbody⟩
  · rintro (hnil | ⟨body, heq, hbody⟩)
    · exact ⟨[], hnil ▸ .nil, List.nil_sublist _⟩
    · exact ⟨[crt], heq ▸ .cons hbody .nil, List.Sublist.refl _⟩

/-- More blocks than certificates are not a whole chain. -/
theorem not_wholeChain_of_length {certificate : OpenVPNCertificate δ}
    (h : certificate.crt.length < (blocks data).length) : ¬ WholeChain parseDetails decrypt data certificate := by
  intro hwhole
  obtain ⟨crts, hparsed, hsublist⟩ := List.sublistForall₂_iff.mp hwhole
  exact absurd (hparsed.length_eq ▸ hsublist.length_le) (Nat.not_le.mpr h)

theorem certificateWithPEM_eq_object {certificate : OpenVPNCertificate δ} (h : utf8String data = some data) :
    certificateWithPEM parseDetails decrypt data = .object certificate ↔
      ∃ n, x509CrtParse parseDetails decrypt (some (data ++ [0])) = .ok (n, certificate.crt) := by
  rw [certificateWithPEM, outcome_eq_object, h, Option.map_some, map_eq_ok]
  constructor
  · rintro ⟨⟨n, chain⟩, hparse, rfl⟩
    exact ⟨n, hparse⟩
  · rintro ⟨n, hparse⟩
    exact ⟨_, hparse, rfl⟩

/-- Which texts are read as a whole or not at all. -/
theorem wholeChain_iff_keepsBlocks (h : utf8String data = some data) :
    (∀ certificate, certificateWithPEM parseDetails decrypt data = .object certificate →
        WholeChain parseDetails decrypt data certificate) ↔ KeepsBlocks parseDetails decrypt data := by
  simp only [certificateWithPEM_eq_object h]
  rw [KeepsBlocks]
  split
  · rename_i hheader
    simp only [x509CrtParse_blocks hheader, ← wholeChain_iff_plain]
    constructor
    · intro hall
      by_cases hfails : ∃ body ∈ plainBlocks data, AllocFails parseDetails decrypt body
      · exact .inl hfails
      by_cases hparsed : ∃ body ∈ plainBlocks data, parseBlock parseDetails decrypt body ≠ none
      · exact .inr (.inr (hall ⟨_⟩ ⟨fun body hbody hf => hfails ⟨body, hbody, hf⟩, hparsed, rfl⟩))
      · exact .inr (.inl fun body hbody => by_contra fun hne => hparsed ⟨body, hbody, hne⟩)
    · rintro hkeeps ⟨chain⟩ ⟨hmemory, ⟨body, hbody, hparsed⟩, rfl⟩
      rcases hkeeps with ⟨other, hother, hfails⟩ | hnone | hwhole
      · exact absurd hfails (hmemory other hother)
      · exact absurd (hnone body hbody) hparsed
      · exact hwhole
  · rename_i hheader
    simp only [x509CrtParse_of_no_header hheader, mapError_eq_ok, map_eq_ok, Prod.mk.injEq]
    constructor
    · intro hall crt hcrt
      exact wholeChain_singleton.mp (hall ⟨[crt]⟩ ⟨0, crt, hcrt, rfl, rfl⟩)
    · rintro hkeeps ⟨chain⟩ ⟨n, crt, hcrt, -, rfl⟩
      exact wholeChain_singleton.mpr (hkeeps crt hcrt)

end Chain

/-! The four importers end with an object or an error, but for the two that ask for the length of a
string that is not there. -/

theorem outcome_eq_fault {α : Type} {description : String} {x : Except Stop α} :
    outcome description x = .fault ↔ x = .error .fault := by
  cases x with
  | ok a => simp [outcome]
  | error stop => cases stop <;> simp [outcome]

theorem passwordBytes_of_not_readable {password : Option NSString} (h : ¬ Readable password) :
    passwordBytes password = .error .fault := by
  cases password with
  | none => exact absurd (fun _ hs => by cases hs) h
  | some s =>
      cases hs : s.utf8String with
      | none => rw [passwordBytes, hs]; rfl
      | some utf8 => exact absurd (fun t ht => by rw [← Option.some.inj ht, hs]; exact fun hn => by cases hn) h

section Key

variable (prim : Primitives) (password : Option NSString)

/-- The key with the password, once it is read. -/
theorem withPassword_eq_fault (key : Bytes) :
    (passwordBytes password >>= fun pwd => pkParseKey prim key pwd >>= fun ctx => .ok (OpenVPNPrivateKey.mk ctx)) =
      .error .fault ↔ ¬ Readable password := by
  constructor
  · intro h hreadable
    obtain ⟨pwd, hpwd⟩ := hreadable.bytes
    rcases bind_eq_error.mp h with hfault | ⟨pwd', -, hparse⟩
    · rw [hpwd] at hfault
      cases hfault
    · rcases bind_eq_error.mp hparse with hfault | ⟨ctx, -, hok⟩
      · exact pkParseKey_ne_fault key pwd' hfault
      · cases hok
  · intro h
    exact bind_eq_error.mpr (.inl (passwordBytes_of_not_readable h))

theorem keyWithDER_eq_fault (derData : Bytes) : keyWithDER prim derData password = .fault ↔ ¬ Readable password :=
  outcome_eq_fault.trans (withPassword_eq_fault prim password derData)

theorem keyWithPEM_eq_fault (pemData : Bytes) :
    keyWithPEM prim pemData password = .fault ↔ utf8String pemData = none ∨ ¬ Readable password := by
  rw [keyWithPEM, outcome_eq_fault]
  cases utf8String pemData with
  | none => exact ⟨fun _ => .inl rfl, fun _ => rfl⟩
  | some text =>
      have h := withPassword_eq_fault prim password (text.takeWhile (· ≠ 0) ++ [0])
      simp only [reduceCtorEq, false_or]
      exact h

end Key

section Import

variable {δ : Type} (parseDetails : ParseDetails δ) (decrypt : PemDecrypt) (prim : Primitives)
variable (data : Bytes) (password : Option NSString)

theorem certificateWithDER_ne_fault : certificateWithDER parseDetails data ≠ .fault := by
  rw [certificateWithDER, ne_eq, outcome_eq_fault]
  cases (x509CrtParseDer parseDetails [] (bytes data)).map OpenVPNCertificate.mk with
  | ok certificate => exact fun h => by cases h
  | error failure => exact fun h => by cases h

theorem certificateWithPEM_ne_fault : certificateWithPEM parseDetails decrypt data ≠ .fault := by
  rw [certificateWithPEM, ne_eq, outcome_eq_fault, map_eq_error, utf8String]
  split
  · exact x509CrtParse_ne_fault
  · exact fun h => by cases h

/-- No importer faults, and a certificate that is returned has all the blocks of the text. -/
structure ImportsWhole : Prop where
  certificateWithPEM : certificateWithPEM parseDetails decrypt data ≠ .fault
  certificateWithDER : certificateWithDER parseDetails data ≠ .fault
  keyWithPEM : keyWithPEM prim data password ≠ .fault
  keyWithDER : keyWithDER prim data password ≠ .fault
  whole : ∀ certificate, Identity.certificateWithPEM parseDetails decrypt data = .object certificate →
    WholeChain parseDetails decrypt data certificate

/-- The data and the password are imported as they should be exactly when both can be turned into C
strings and no block of the text is passed over. -/
theorem importsWhole_iff : ImportsWhole parseDetails decrypt prim data password ↔
    utf8String data ≠ none ∧ Readable password ∧ KeepsBlocks parseDetails decrypt data := by
  have hself (h : utf8String data ≠ none) : utf8String data = some data := by
    rw [utf8String] at h ⊢
    split
    · rfl
    · rename_i hinvalid
      rw [if_neg hinvalid] at h
      exact absurd rfl h
  constructor
  · rintro ⟨-, -, hpem, hder, hwhole⟩
    have hutf8 : utf8String data ≠ none := fun h => hpem ((keyWithPEM_eq_fault prim password data).mpr (.inl h))
    refine ⟨hutf8, ?_, (wholeChain_iff_keepsBlocks (hself hutf8)).mp hwhole⟩
    exact by_contra fun h => hder ((keyWithDER_eq_fault prim password data).mpr h)
  · rintro ⟨hutf8, hreadable, hkeeps⟩
    refine ⟨certificateWithPEM_ne_fault parseDetails decrypt data,
      certificateWithDER_ne_fault parseDetails data, ?_, ?_,
      (wholeChain_iff_keepsBlocks (hself hutf8)).mpr hkeeps⟩
    · rw [ne_eq, keyWithPEM_eq_fault, not_or]
      exact ⟨hutf8, not_not_intro hreadable⟩
    · rw [ne_eq, keyWithDER_eq_fault]
      exact not_not_intro hreadable

/-- A certificate, and a block with nothing in it. -/
def bundle : Bytes :=
  pemText certificateHeader certificateFooter sampleDER ++ certificateHeader ++ certificateFooter

/-- A bundle that is cut off inside its second block. -/
def truncatedBundle : Bytes := pemText certificateHeader certificateFooter sampleDER ++ certificateHeader

theorem bundle_imports :
    Identity.certificateWithPEM (fun _ _ _ _ _ => .ok ()) (fun _ _ _ buf => .ok buf) bundle =
      .object ⟨[sampleCrt]⟩ := by
  have hascii : bundle.all (decide <| · ≤ 127) = true := by decide +kernel
  have hutf8 := utf8String_of_ascii fun b hb => of_decide_eq_true (List.all_eq_true.mp hascii b hb)
  exact (certificateWithPEM_eq_object hutf8).mpr ⟨1, by decide +kernel⟩

theorem truncatedBundle_imports : Identity.certificateWithPEM (fun _ _ _ _ _ => .ok ()) (fun _ _ _ buf => .ok buf)
    truncatedBundle = .object ⟨[sampleCrt]⟩ := by
  have hascii : truncatedBundle.all (decide <| · ≤ 127) = true := by decide +kernel
  have hutf8 := utf8String_of_ascii fun b hb => of_decide_eq_true (List.all_eq_true.mp hascii b hb)
  exact (certificateWithPEM_eq_object hutf8).mpr ⟨0, by decide +kernel⟩

/-- Data that is not UTF-8 faults in the one importer of keys; of two blocks one is passed over in silence,
and so is one that is cut off. -/
theorem import_not_whole : Identity.keyWithPEM plainPrimitives [0xFF] none = .fault ∧
    Identity.certificateWithPEM (fun _ _ _ _ _ => .ok ()) (fun _ _ _ buf => .ok buf) bundle =
      .object ⟨[sampleCrt]⟩ ∧
    (blocks bundle).length = 2 ∧
    Identity.certificateWithPEM (fun _ _ _ _ _ => .ok ()) (fun _ _ _ buf => .ok buf) truncatedBundle =
      .object ⟨[sampleCrt]⟩ ∧
    (blocks truncatedBundle).length = 2 ∧
    ¬ ImportsWhole (fun _ _ _ _ _ => .ok ()) (fun _ _ _ buf => .ok buf) plainPrimitives [0xFF] none ∧
    ¬ ImportsWhole (fun _ _ _ _ _ => .ok ()) (fun _ _ _ buf => .ok buf) plainPrimitives bundle none ∧
    ¬ ImportsWhole (fun _ _ _ _ _ => .ok ()) (fun _ _ _ buf => .ok buf) plainPrimitives truncatedBundle none := by
  have hfault : Identity.keyWithPEM plainPrimitives [0xFF] none = .fault := by decide +kernel
  have hblocks : (blocks bundle).length = 2 := by decide +kernel
  have htruncated : (blocks truncatedBundle).length = 2 := by decide +kernel
  refine ⟨hfault, bundle_imports, hblocks, truncatedBundle_imports, htruncated,
      fun h => h.keyWithPEM hfault, ?_, ?_⟩
  · exact fun h => not_wholeChain_of_length (by rw [hblocks]; decide) (h.whole _ bundle_imports)
  · exact fun h => not_wholeChain_of_length (by rw [htruncated]; decide) (h.whole _ truncatedBundle_imports)

end Import

end OpenVPNAdapter.Identity
