import OpenVPNAdapter.MbedTLS.PemRead
import OpenVPNAdapter.MbedTLS.PkWrite

namespace OpenVPNAdapter.MbedTLS

open Library.BigEndian Library.Substring

section Read

variable {rest : Bytes}

theorem asn1GetInt_tlv {val : UInt8} (h : val &&& 0x80 = 0) :
    asn1GetInt (tlv asn1Integer [val] ++ rest) = .ok (val.toNat, rest) := by
  have htag : asn1GetTag asn1Integer (tlv asn1Integer [val] ++ rest) = .ok (1, val :: rest) :=
    asn1GetTag_tlv (by rw [List.length_singleton]; decide) rest
  rw [asn1GetInt, htag]
  simp only [bind, Except.bind, List.head?_cons, Option.mem_some_iff, forall_eq', h]
  rw [if_neg (by decide)]
  change Except.ok (0 <<< 8 ||| val.toNat, rest) = Except.ok (val.toNat, rest)
  rw [Nat.zero_shiftLeft, Nat.zero_or]

theorem pkImportRaw_tlv {x : Nat} (h : (tlvMpi x).length ≤ 80000) :
    pkImportRaw (tlvMpi x ++ rest) = .ok (x, rest) := by
  have hlength := length_tlv asn1Integer (signed x)
  rw [← tlvMpi] at hlength
  have htag : asn1GetTag asn1Integer (tlvMpi x ++ rest) = .ok ((signed x).length, signed x ++ rest) :=
    asn1GetTag_tlv (by omega) rest
  rw [pkImportRaw, htag]
  simp only [bind, Except.bind, List.take_left, List.drop_left]
  rw [mpiReadBinary_of_le (by omega), value_signed]
  rfl

theorem asn1GetMpi_tlv {x : Nat} (h : (tlvMpi x).length ≤ 80000) :
    asn1GetMpi (tlvMpi x ++ rest) = .ok (x, rest) := by
  have hlength := length_tlv asn1Integer (signed x)
  rw [← tlvMpi] at hlength
  have htag : asn1GetTag asn1Integer (tlvMpi x ++ rest) = .ok ((signed x).length, signed x ++ rest) :=
    asn1GetTag_tlv (by omega) rest
  rw [asn1GetMpi, htag]
  simp only [bind, Except.bind, List.take_left, List.drop_left]
  rw [mpiReadBinary_of_le (by omega), value_signed]

/-- What is all of a buffer is read from it. -/
theorem asn1GetTag_whole {tag : UInt8} {content : Bytes} (h : content.length < 2 ^ 32) :
    asn1GetTag tag (tlv tag content) = .ok (content.length, content) := by
  have htag : asn1GetTag tag (tlv tag content ++ []) = .ok (content.length, content ++ []) := asn1GetTag_tlv h []
  rwa [List.append_nil, List.append_nil] at htag

end Read

/-- A private key that is complete is read from its encoding. -/
theorem Complete.read {rsa : RsaContext} (h : Complete rsa) (hpriv : rsa.IsPriv) (hlen : rsa.der.length ≤ 80000) :
    pkParseKeyPkcs1Der rsa.der = .ok rsa := by
  have hder := length_tlv sequence rsa.content
  rw [← RsaContext.der] at hder
  have hcontent : rsa.content.length ≤ 80000 := by omega
  simp only [RsaContext.content, RsaContext.parameters, List.length_append] at hcontent
  have hversion : asn1GetInt (rsa.content.take rsa.content.length) = .ok (0, rsa.parameters) := by
    rw [List.take_length]
    exact asn1GetInt_tlv (by decide)
  have hlast : asn1GetMpi (tlvMpi rsa.qp) = .ok (rsa.qp, []) := by
    have hmpi : asn1GetMpi (tlvMpi rsa.qp ++ []) = .ok (rsa.qp, []) := asn1GetMpi_tlv (by omega)
    rwa [List.append_nil] at hmpi
  rw [pkParseKeyPkcs1Der, RsaContext.der, asn1GetTag_whole (by omega)]
  refine bind_eq_ok.mpr ⟨_, rfl, bind_eq_ok.mpr ⟨_, invalidFormat_eq_ok.mpr hversion, mapError_eq_ok.mpr ?_⟩⟩
  refine bind_eq_ok.mpr ⟨_, pkImportRaw_tlv (by omega), ?_⟩
  refine bind_eq_ok.mpr ⟨_, pkImportRaw_tlv (by omega), ?_⟩
  refine bind_eq_ok.mpr ⟨_, pkImportRaw_tlv (by omega), ?_⟩
  refine bind_eq_ok.mpr ⟨_, pkImportRaw_tlv (by omega), ?_⟩
  refine bind_eq_ok.mpr ⟨_, pkImportRaw_tlv (by omega), ?_⟩
  refine bind_eq_ok.mpr ⟨_, h.complete_again hpriv, ?_⟩
  refine bind_eq_ok.mpr ⟨_, asn1GetMpi_tlv (by omega), ?_⟩
  refine bind_eq_ok.mpr ⟨_, asn1GetMpi_tlv (by omega), ?_⟩
  exact bind_eq_ok.mpr ⟨_, hlast, rfl⟩

theorem asn1GetBitstringNull_tlv {content : Bytes} (hne : content ≠ []) (h : content.length < 2 ^ 31) :
    asn1GetBitstringNull (tlv asn1BitString (0 :: content)) = .ok (content.length, content) := by
  have hpos := List.length_pos_iff.mpr hne
  rw [asn1GetBitstringNull, asn1GetTag_whole (by rw [List.length_cons]; omega)]
  simp only [bind, Except.bind, List.length_cons, List.head?_cons, List.tail_cons, Nat.add_sub_cancel]
  rw [if_neg (by simp; omega)]

theorem pkGetEcparams_tlv {oid : Bytes} (h : oid.length < 2 ^ 32) :
    pkGetEcparams (tlv asn1Oid oid) = .ok ⟨asn1Oid, oid⟩ := by
  have htag : asn1GetTag asn1Oid (tlv asn1Oid oid) = .ok (oid.length, oid) := asn1GetTag_whole h
  rw [tlv] at htag ⊢
  rw [pkGetEcparams, if_neg (by simp), htag]
  simp only [invalidFormat, Except.mapError, bind, Except.bind]
  rw [if_neg (by simp)]

variable {prim : Primitives}

theorem pkUseEcparams_oid (grp : EcpGroupId) : pkUseEcparams prim ⟨asn1Oid, ecGrpOid grp⟩ none = .ok grp := by
  simp only [pkUseEcparams, if_true, oidGetEcGrp_ecGrpOid]
  rfl

theorem sec1Parameters_tlv (grp : EcpGroupId) (rest : Bytes) :
    sec1Parameters prim none (tlv (contextTag 0) (tlv asn1Oid (ecGrpOid grp)) ++ rest) = .ok (some grp, rest) := by
  have hoid := length_ecGrpOid grp
  have hlength : (tlv asn1Oid (ecGrpOid grp)).length ≤ 9 + 3 := length_tlv_le hoid (by decide)
  rw [sec1Parameters, if_neg (by simp [tlv]), asn1GetTag_tlv (by omega)]
  simp only [List.take_left, List.drop_left, pkGetEcparams_tlv (show (ecGrpOid grp).length < 2 ^ 32 by omega),
    bind, Except.bind, pkUseEcparams_oid]

theorem sec1PublicKey_tlv {ec : EcpKeypair} (h : ec.Valid) :
    sec1PublicKey (some ec.grp) (tlv (contextTag 1) (tlv asn1BitString (0 :: ec.point))) = .ok (some ec.q) := by
  obtain ⟨x, y, hq, hx, hy⟩ := ecpCheckPubkey_eq_ok h.pubkey
  have hplen := (plen_bounds ec.grp).2
  have hlength := length_point ec
  have hne : ec.point ≠ [] := by simp [EcpKeypair.point, hq]
  have hread : ecpPointReadBinary (some ec.grp) ec.point = .ok ec.q := by
    rw [EcpKeypair.point, hq]
    exact ecpPointReadBinary_digits hx hy
  have hpubkey : pkGetEcpubkey (some ec.grp) ec.point = .ok ec.q := by
    simp only [pkGetEcpubkey, hread, bind, Except.bind, h.pubkey]
  have hbits : (tlv asn1BitString (0 :: ec.point)).length ≤ 2 * ec.grp.plen + 2 + 3 :=
    length_tlv_le (by rw [List.length_cons]; exact Nat.succ_le_succ hlength) (by omega)
  rw [sec1PublicKey, if_neg (by simp [tlv]), asn1GetTag_whole (by omega)]
  simp only [List.take_length, asn1GetBitstringNull_tlv hne (by omega), invalidFormat, Except.mapError,
    bind, Except.bind,
    hpubkey]
  rw [if_neg (by simp)]

/-- A key pair is read from its encoding. -/
theorem EcpKeypair.Valid.read {ec : EcpKeypair} (h : ec.Valid) (hd : ec.d < 256 ^ ec.grp.plen) :
    pkParseKeySec1Der prim none ec.der = .ok ec := by
  have hplen := (plen_bounds ec.grp).2
  have hcontent := ec.length_content
  have hversion : asn1GetInt (ec.content.take ec.content.length) = .ok (1, ec.parameters) := by
    rw [List.take_length]
    exact asn1GetInt_tlv (by decide)
  have hdigits := length_digits ec.grp.plen ec.d
  have hoctets : asn1GetTag asn1OctetString ec.parameters =
      .ok ((digits ec.grp.plen ec.d).length, digits ec.grp.plen ec.d ++ ec.publicPart) :=
    asn1GetTag_tlv (by omega) _
  have hread : mpiReadBinary (digits ec.grp.plen ec.d) = .ok ec.d := by
    rw [mpiReadBinary_of_le (by omega), value_digits hd]
  rw [pkParseKeySec1Der, EcpKeypair.der, asn1GetTag_whole (by omega)]
  refine bind_eq_ok.mpr ⟨_, rfl, bind_eq_ok.mpr ⟨_, invalidFormat_eq_ok.mpr hversion, ?_⟩⟩
  refine bind_eq_ok.mpr ⟨_, invalidFormat_eq_ok.mpr hoctets, ?_⟩
  simp only [List.take_left, List.drop_left]
  refine bind_eq_ok.mpr ⟨_, invalidFormat_eq_ok.mpr hread, ?_⟩
  refine bind_eq_ok.mpr ⟨_, sec1Parameters_tlv ec.grp _, ?_⟩
  refine bind_eq_ok.mpr ⟨_, sec1PublicKey_tlv h, ?_⟩
  exact bind_eq_ok.mpr ⟨(), h.privkey, rfl⟩

/-! What begins with an integer is neither of the formats that name an algorithm first. -/

theorem asn1GetAlg_integer (content rest : Bytes) :
    asn1GetAlg (tlv asn1Integer content ++ rest) = .error .asn1UnexpectedTag := rfl

theorem pkParseKeyPkcs8EncryptedDer_integer {content rest pwd : Bytes}
    (h : (tlv asn1Integer content ++ rest).length < 2 ^ 32) :
    ∃ failure, failure ≠ .pkPasswordMismatch ∧
      pkParseKeyPkcs8EncryptedDer prim (tlv sequence (tlv asn1Integer content ++ rest)) pwd = .error failure := by
  by_cases hpwd : pwd = []
  · exact ⟨.pkPasswordRequired, by decide, if_pos hpwd⟩
  · refine ⟨.pkKeyInvalidFormat + .asn1UnexpectedTag, by decide, ?_⟩
    rw [pkParseKeyPkcs8EncryptedDer, if_neg hpwd, asn1GetTag_whole h]
    simp only [invalidFormat, Except.mapError, bind, Except.bind, List.take_length, asn1GetAlg_integer]

theorem pkParseKeyPkcs8UnencryptedDer_integer {val : UInt8} (hval : val &&& 0x80 = 0) {content rest : Bytes}
    (h : (tlv asn1Integer [val] ++ (tlv asn1Integer content ++ rest)).length < 2 ^ 32) :
    ∃ failure, pkParseKeyPkcs8UnencryptedDer prim
      (tlv sequence (tlv asn1Integer [val] ++ (tlv asn1Integer content ++ rest))) = .error failure := by
  rw [pkParseKeyPkcs8UnencryptedDer, asn1GetTag_whole h]
  simp only [invalidFormat, Except.mapError, bind, Except.bind, List.take_length, asn1GetInt_tlv hval]
  split
  · exact ⟨_, rfl⟩
  · exact ⟨_, rfl⟩

/-- The version tells the two formats apart. -/
theorem pkParseKeyPkcs1Der_version {val : UInt8} (hval : val &&& 0x80 = 0) (hne : val.toNat ≠ 0) {rest : Bytes}
    (h : (tlv asn1Integer [val] ++ rest).length < 2 ^ 32) :
    pkParseKeyPkcs1Der (tlv sequence (tlv asn1Integer [val] ++ rest)) = .error .pkKeyInvalidVersion := by
  rw [pkParseKeyPkcs1Der, asn1GetTag_whole h]
  simp only [invalidFormat, Except.mapError, bind, Except.bind, List.take_length, asn1GetInt_tlv hval]
  rw [if_pos hne]

theorem pkParseKeyPkcs8UnencryptedDer_version {val : UInt8} (hval : val &&& 0x80 = 0) (hne : val.toNat ≠ 0)
    {rest : Bytes} (h : (tlv asn1Integer [val] ++ rest).length < 2 ^ 32) :
    pkParseKeyPkcs8UnencryptedDer prim (tlv sequence (tlv asn1Integer [val] ++ rest)) =
      .error .pkKeyInvalidVersion := by
  rw [pkParseKeyPkcs8UnencryptedDer, asn1GetTag_whole h]
  simp only [invalidFormat, Except.mapError, bind, Except.bind, List.take_length, asn1GetInt_tlv hval]
  rw [if_pos hne]

/-- The formats that are tried before leave an encoding alone, whatever the password. -/
theorem Complete.readDer {rsa : RsaContext} (h : Complete rsa) (hpriv : rsa.IsPriv) (hlen : rsa.der.length ≤ 80000)
    (pwd : Bytes) : pkParseKeyDer prim rsa.der pwd = .ok (.rsa rsa) := by
  have hder := length_tlv sequence rsa.content
  rw [← RsaContext.der] at hder
  have hcontent : rsa.content.length < 2 ^ 32 := by omega
  have hne : rsa.der ≠ [] := List.cons_ne_nil _ _
  obtain ⟨failure1, hmismatch, hencrypted⟩ : ∃ failure, failure ≠ .pkPasswordMismatch ∧
      pkParseKeyPkcs8EncryptedDer prim rsa.der pwd = .error failure := pkParseKeyPkcs8EncryptedDer_integer hcontent
  obtain ⟨failure2, hplain⟩ : ∃ failure, pkParseKeyPkcs8UnencryptedDer prim rsa.der = .error failure :=
    pkParseKeyPkcs8UnencryptedDer_integer (by decide) hcontent
  simp only [pkParseKeyDer, if_neg hne, hencrypted, if_neg hmismatch, hplain, h.read hpriv hlen]

theorem EcpKeypair.Valid.readDer {ec : EcpKeypair} (h : ec.Valid) (hd : ec.d < 256 ^ ec.grp.plen) (pwd : Bytes) :
    pkParseKeyDer prim ec.der pwd = .ok (.eckey ec) := by
  have hplen := (plen_bounds ec.grp).2
  have hlength := ec.length_content
  have hcontent : ec.content.length < 2 ^ 32 := by omega
  have hne : ec.der ≠ [] := List.cons_ne_nil _ _
  obtain ⟨failure1, hmismatch, hencrypted⟩ : ∃ failure, failure ≠ .pkPasswordMismatch ∧
      pkParseKeyPkcs8EncryptedDer prim ec.der pwd = .error failure := pkParseKeyPkcs8EncryptedDer_integer hcontent
  have hplain : pkParseKeyPkcs8UnencryptedDer prim ec.der = .error .pkKeyInvalidVersion :=
    pkParseKeyPkcs8UnencryptedDer_version (by decide) (by decide) hcontent
  have hpkcs1 : pkParseKeyPkcs1Der ec.der = .error .pkKeyInvalidVersion :=
    pkParseKeyPkcs1Der_version (by decide) (by decide) hcontent
  simp only [pkParseKeyDer, if_neg hne, hencrypted, if_neg hmismatch, hplain, hpkcs1, h.read hd]

/-! What is tried as PEM, and when it is taken for one. -/

def armours : List Armour := [rsaArmour, ecArmour, plainArmour, encryptedArmour]

theorem armours_length : ∀ a ∈ armours, 27 ≤ a.header.length ∧ 25 ≤ a.footer.length := by decide

/-- The key ends like a C string, and what it holds up to its first zero has the boundaries. -/
def TakenForPem (a : Armour) (key : Bytes) : Prop :=
  key.getLast? = some 0 ∧ ∃ text, cString key = some text ∧ pemStart a.header a.footer text ≠ none

variable {key : Bytes}

theorem pkReadPem_of_not_taken {a : Armour} (h : ¬ TakenForPem a key) (pwd : Option Bytes) :
    pkReadPem prim a key pwd = .error (.failed .pemNoHeaderFooterPresent) := by
  rw [pkReadPem]
  split
  · rfl
  · rename_i hlast
    have hmem : 0 ∈ key := List.mem_of_getLast? (Decidable.not_not.mp hlast)
    have htext : cString key = some (key.takeWhile (· ≠ 0)) := if_pos hmem
    have hstart : pemStart a.header a.footer (key.takeWhile (· ≠ 0)) = none := by
      by_contra hstart
      exact h ⟨Decidable.not_not.mp hlast, _, htext, hstart⟩
    rw [pemReadBuffer_of_no_start htext hstart]

theorem pkParseKey_of_not_taken (h : ∀ a ∈ armours, ¬ TakenForPem a key) (pwd : Option Bytes) :
    pkParseKey prim key pwd = (pkParseKeyDer prim key (pwd.getD [])).mapError .failed := by
  rw [pkParseKey, pkReadPem_of_not_taken (h _ (by simp [armours])),
    pkReadPem_of_not_taken (h _ (by simp [armours])),
    pkReadPem_of_not_taken (h _ (by simp [armours])), pkReadPem_of_not_taken (h _ (by simp [armours]))]
  rfl

/-- A zero before there is room for a header. -/
theorem not_taken_of_short {a : Armour} {pre rest : Bytes} (h : pre.length ≤ a.header.length) :
    ¬ TakenForPem a (pre ++ 0 :: rest) := by
  rintro ⟨-, text, htext, hstart⟩
  obtain ⟨⟨s1, s2⟩, hsome⟩ := Option.ne_none_iff_exists'.mp hstart
  have hle := length_cString_le htext
  have hbounds := pemStart_bounds hsome
  omega

/-- The version of an RSA key is a zero among its first bytes. -/
theorem rsa_not_taken {rsa : RsaContext} (hlen : rsa.content.length < 2 ^ 32) :
    ∀ a ∈ armours, ¬ TakenForPem a rsa.der := by
  intro a ha
  have hshort := (derLen_spells hlen).short
  have hder : rsa.der = (sequence :: (derLen rsa.content.length ++ [0x02, 0x01])) ++ 0 :: rsa.parameters := by
    change sequence :: (derLen rsa.content.length ++ ([0x02, 0x01] ++ 0 :: rsa.parameters)) = _
    simp only [List.cons_append, List.append_assoc, List.nil_append]
  rw [hder]
  refine not_taken_of_short ?_
  have hheader := (armours_length a ha).1
  simp only [List.length_cons, List.length_append, List.length_nil]
  omega

/-! An encoded key pair can hold boundaries in its private number, and end with a zero. -/

theorem pkReadPem_of_taken {a : Armour} (h : TakenForPem a key) :
    pkReadPem prim a key none ≠ .error (.failed .pemNoHeaderFooterPresent) := by
  obtain ⟨hlast, text, htext, hstart⟩ := h
  obtain ⟨⟨s1, s2⟩, hsome⟩ := Option.ne_none_iff_exists'.mp hstart
  rw [pkReadPem, if_neg (not_not.mpr hlast), pemReadBuffer_of_start htext hsome]
  intro herror
  cases hbody : pemBody prim.pemDecrypt none text s1 s2 with
  | ok buf => rw [hbody] at herror; cases herror
  | error failure =>
      rw [hbody] at herror
      exact (bodyFailure_of_body hbody).ne.1 (Stop.failed.inj (Except.error.inj herror))

theorem length_of_pkReadPem {a : Armour} {pre rest body : Bytes}
    (h : pkReadPem prim a (pre ++ 0 :: rest) none = .ok body) :
    body.length + a.header.length + a.footer.length + 1 ≤ pre.length := by
  rw [pkReadPem] at h
  split at h
  · cases h
  · cases htext : cString (pre ++ 0 :: rest) with
    | none => rw [cString, if_pos (by simp)] at htext; cases htext
    | some text =>
        cases hstart : pemStart a.header a.footer text with
        | none => rw [pemReadBuffer_of_no_start htext hstart] at h; cases h
        | some s =>
            obtain ⟨s1, s2⟩ := s
            rw [pemReadBuffer_of_start htext hstart] at h
            have hbody := length_of_pemBody (mapError_eq_ok.mp h)
            have hbounds := pemStart_bounds hstart
            have htextLength := length_cString_le htext
            omega

theorem point_suffix_der (ec : EcpKeypair) : 0 :: ec.point <:+ ec.der := by
  have hbits : 0 :: ec.point <:+ tlv asn1BitString (0 :: ec.point) :=
    (List.suffix_append _ _).trans (List.suffix_cons _ _)
  have hpublic : 0 :: ec.point <:+ tlv (contextTag 1) (tlv asn1BitString (0 :: ec.point)) :=
    (hbits.trans (List.suffix_append _ _)).trans (List.suffix_cons _ _)
  have hcontent : 0 :: ec.point <:+ ec.content :=
    ((hpublic.trans (List.suffix_append _ _)).trans (List.suffix_append _ _)).trans (List.suffix_append _ _)
  exact (hcontent.trans (List.suffix_append _ _)).trans (List.suffix_cons _ _)

theorem EcpKeypair.Valid.length_point {ec : EcpKeypair} (h : ec.Valid) :
    ec.point.length = 2 * ec.grp.plen + 1 := by
  obtain ⟨x, y, hq, -⟩ := ecpCheckPubkey_eq_ok h.pubkey
  simp only [EcpKeypair.point, hq, List.length_cons, List.length_append, length_digits]
  omega

/-- A key pair whose encoding is taken for PEM has a private number that takes all its bytes. -/
theorem pow_le_of_taken {ec : EcpKeypair} (hd : ec.d < 256 ^ ec.grp.plen) {a : Armour}
    (ha : a ∈ armours) (h : TakenForPem a ec.der) : 256 ^ (ec.grp.plen - 1) ≤ ec.d := by
  have hplen := (plen_bounds ec.grp).1
  have hlength := length_digits ec.grp.plen ec.d
  have hcontent := ec.length_content
  have hplen2 := (plen_bounds ec.grp).2
  cases hdigits : digits ec.grp.plen ec.d with
  | nil => rw [hdigits, List.length_nil] at hlength; omega
  | cons b bs =>
      rw [hdigits, List.length_cons] at hlength
      by_cases hb : b = 0
      · have hshort1 : (derLen ec.content.length).length ≤ 2 := length_derLen_le (by omega)
        have hshort2 : (derLen (digits ec.grp.plen ec.d).length).length ≤ 2 :=
          length_derLen_le (by rw [length_digits]; omega)
        have hder : ec.der = (sequence :: (derLen ec.content.length ++ ([0x02, 0x01, 0x01] ++
            0x04 :: derLen (digits ec.grp.plen ec.d).length))) ++ 0 :: (bs ++ ec.publicPart) := by
          change sequence :: (derLen ec.content.length ++ ([0x02, 0x01, 0x01] ++
            (0x04 :: (derLen (digits ec.grp.plen ec.d).length ++ digits ec.grp.plen ec.d) ++ ec.publicPart))) = _
          rw [hdigits, hb]
          simp only [List.cons_append, List.append_assoc]
        rw [hder] at h
        refine absurd h (not_taken_of_short ?_)
        have hheader := (armours_length a ha).1
        simp only [List.length_cons, List.length_append, List.length_nil]
        omega
      · have hvalue : 256 ^ bs.length ≤ value (b :: bs) := pow_le_value hb
        rw [← hdigits, value_digits hd] at hvalue
        rwa [show ec.grp.plen - 1 = bs.length by omega]

/-- What is read in place of such a key pair is shorter than its private number. -/
theorem EcpKeypair.Valid.ne_of_taken {ec : EcpKeypair} (h : ec.Valid) (hd : ec.d < 256 ^ ec.grp.plen) {a : Armour}
    (ha : a ∈ armours) (htaken : TakenForPem a ec.der) : pkParseKey prim ec.der none ≠ .ok (.eckey ec) := by
  intro hparse
  have hplen := (plen_bounds ec.grp).1
  have hlarge := pow_le_of_taken hd ha htaken
  have hsmall : ∀ b ∈ armours, ∀ body, pkReadPem prim b ec.der none = .ok body →
      ec.d < 256 ^ body.length → False := by
    intro b hb body hread hlt
    obtain ⟨pre, hpre⟩ := point_suffix_der ec
    rw [← hpre] at hread
    have hbody := length_of_pkReadPem hread
    have harmour := armours_length b hb
    have hpoint := h.length_point
    have hder := ec.length_der
    rw [← hpre, List.length_append, List.length_cons] at hder
    have hpow : 256 ^ body.length ≤ 256 ^ (ec.grp.plen - 1) := Nat.pow_le_pow_right (by decide) (by omega)
    omega
  have hnone : ∀ b ∈ armours, ¬ TakenForPem b ec.der := by
    rw [pkParseKey] at hparse
    rcases pkOrElse_eq_ok hparse with ⟨body, -, hbody⟩ | ⟨hrsa, hnext1⟩
    · obtain ⟨rsa, -, hrsa⟩ := map_eq_ok.mp hbody
      cases hrsa
    rcases pkOrElse_eq_ok hnext1 with ⟨body, hread, hbody⟩ | ⟨hec, hnext2⟩
    · obtain ⟨ec', hec', heq⟩ := map_eq_ok.mp hbody
      obtain rfl := PkContext.eckey.inj heq
      exact (hsmall _ (by simp [armours]) body (mapError_eq_ok.mp hread) (pkParseKeySec1Der_eq_ok hec').2).elim
    rcases pkOrElse_eq_ok hnext2 with ⟨body, hread, hbody⟩ | ⟨hplain, hnext3⟩
    · exact (hsmall _ (by simp [armours]) body hread (pkParseKeyPkcs8UnencryptedDer_eq_ok hbody).2).elim
    rcases pkOrElse_eq_ok hnext3 with ⟨body, -, hbody⟩ | ⟨hencrypted, -⟩
    · cases hbody
    · intro b hb hb'
      have hread : pkReadPem prim b ec.der none ≠ _ := pkReadPem_of_taken hb'
      simp only [armours, List.mem_cons, List.not_mem_nil, or_false] at hb
      rcases hb with rfl | rfl | rfl | rfl
      · exact hread (pkPassword_eq_noHeader hrsa)
      · exact hread (pkPassword_eq_noHeader hec)
      · exact hread hplain
      · exact hread hencrypted
  exact hnone a ha htaken

theorem rsaBoundaries : Boundaries rsaArmour.header rsaArmour.footer where
  header_clean := by decide
  footer_clean := by decide
  footer_dash := rfl
  apart := by decide

theorem ecBoundaries : Boundaries ecArmour.header ecArmour.footer where
  header_clean := by decide
  footer_clean := by decide
  footer_dash := rfl
  apart := by decide

theorem pkReadPem_text {a : Armour} (hb : Boundaries a.header a.footer) {der : Bytes} (hne : der ≠ [])
    (pwd : Option Bytes) : pkReadPem prim a (a.text der ++ [0]) pwd = .ok der := by
  rw [pkReadPem, if_neg (by simp), Armour.text, pemReadBuffer_pemText hb prim.pemDecrypt pwd hne]

/-- A text of another kind of key holds the header of an RSA key nowhere. -/
theorem ecText_no_rsa (der : Bytes) : firstIndex rsaArmour.header (ecArmour.text der) = none := by
  have hapart : ∀ k < (ecArmour.header ++ [newline]).length,
      Apart ((ecArmour.header ++ [newline]).drop k) rsaArmour.header := by decide
  obtain ⟨f, hf⟩ : ∃ f, rsaArmour.header = 0x2D :: f := ⟨_, rfl⟩
  have hlines := firstIndex_append_of_notMem f (ecArmour.footer ++ [newline]) (dash_notMem_lines der)
  have hfooter : firstIndex rsaArmour.header (ecArmour.footer ++ [newline]) = none := by decide
  rw [← hf, hfooter] at hlines
  rw [Armour.text, pemText, List.append_assoc, firstIndex_append_of_apart hapart, hlines]
  rfl

theorem pkParseKey_rsaText {rsa : RsaContext} (h : Complete rsa) (hpriv : rsa.IsPriv)
    (hlen : rsa.der.length ≤ 80000)
    (pwd : Option Bytes) : pkParseKey prim (rsaArmour.text rsa.der ++ [0]) pwd = .ok (.rsa rsa) := by
  have hread : pkReadPem prim rsaArmour (rsaArmour.text rsa.der ++ [0]) pwd = .ok rsa.der :=
    pkReadPem_text rsaBoundaries (List.cons_ne_nil _ _) pwd
  simp only [pkParseKey, hread, Except.mapError, pkOrElse, h.read hpriv hlen]
  rfl

theorem pkParseKey_ecText {ec : EcpKeypair} (h : ec.Valid) (hd : ec.d < 256 ^ ec.grp.plen) (pwd : Option Bytes) :
    pkParseKey prim (ecArmour.text ec.der ++ [0]) pwd = .ok (.eckey ec) := by
  have hclean : 0 ∉ ecArmour.text ec.der := zero_notMem_pemText (by decide) (by decide)
  have hother : pkReadPem prim rsaArmour (ecArmour.text ec.der ++ [0]) pwd =
      .error (.failed .pemNoHeaderFooterPresent) := by
    refine pkReadPem_of_not_taken (fun ⟨_, text, htext, hstart⟩ => hstart ?_) pwd
    obtain rfl := Option.some.inj ((cString_concat hclean []).symm.trans htext)
    simp only [pemStart, ecText_no_rsa]
  have hread : pkReadPem prim ecArmour (ecArmour.text ec.der ++ [0]) pwd = .ok ec.der :=
    pkReadPem_text ecBoundaries (List.cons_ne_nil _ _) pwd
  have hpassword : pkPassword (.failed .pemNoHeaderFooterPresent) = .failed .pemNoHeaderFooterPresent := by decide
  simp only [pkParseKey, hother, hread, Except.mapError, pkOrElse, hpassword, if_true, h.read hd]
  rfl

end OpenVPNAdapter.MbedTLS
