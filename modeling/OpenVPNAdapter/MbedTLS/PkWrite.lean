import OpenVPNAdapter.MbedTLS.Asn1Write
import OpenVPNAdapter.MbedTLS.PkParse

namespace OpenVPNAdapter.MbedTLS

open Library.BigEndian

/-- `MBEDTLS_ECP_MAX_PT_LEN`. -/
def ecpMaxPtLen : Nat := 133

def pkWriteEcPubkey (ec : EcpKeypair) (w : Writer) : Except Failure Writer := do
  let buf ← ecpPointWriteBinary ec.grp ec.q ecpMaxPtLen
  asn1WriteRawBuffer buf w

def pkWriteEcParam (ec : EcpKeypair) : Writer → Except Failure Writer := asn1WriteOid (ecGrpOid ec.grp)

def pkWriteEcPrivate (ec : EcpKeypair) (w : Writer) : Except Failure Writer := do
  let tmp ← mpiWriteBinary ec.d ec.grp.plen
  asn1WriteOctetString tmp w

/-- One `mbedtls_rsa_export` and `mbedtls_asn1_write_mpi`. -/
def pkExport (x : Except Failure Nat) (w : Writer) : Except Failure Writer := do
  let x ← x
  asn1WriteMpi x w

def pkWriteRsaContent (rsa : RsaContext) (w : Writer) : Except Failure Writer := do
  let w ← pkExport (rsaExportCrt rsa rsa.qp) w
  let w ← pkExport (rsaExportCrt rsa rsa.dq) w
  let w ← pkExport (rsaExportCrt rsa rsa.dp) w
  let w ← pkExport (rsaExport rsa false rsa.q) w
  let w ← pkExport (rsaExport rsa false rsa.p) w
  let w ← pkExport (rsaExport rsa false rsa.d) w
  let w ← pkExport (rsaExport rsa true rsa.e) w
  let w ← pkExport (rsaExport rsa true rsa.n) w
  asn1WriteInt 0 w

def pkWriteBitString (ec : EcpKeypair) (base : Writer) : Except Failure Writer := do
  let w ← pkWriteEcPubkey ec base
  let w ← asn1WriteRawBuffer [0] w
  let w ← asn1WriteLen (w.since base) w
  asn1WriteTag asn1BitString w

def pkWritePublicKey (ec : EcpKeypair) (base : Writer) : Except Failure Writer := do
  let w ← pkWriteBitString ec base
  let w ← asn1WriteLen (w.since base) w
  asn1WriteTag (contextTag 1) w

def pkWriteParameters (ec : EcpKeypair) (base : Writer) : Except Failure Writer := do
  let w ← pkWriteEcParam ec base
  let w ← asn1WriteLen (w.since base) w
  asn1WriteTag (contextTag 0) w

def pkWriteEcContent (ec : EcpKeypair) (w : Writer) : Except Failure Writer := do
  let w ← pkWritePublicKey ec w
  let w ← pkWriteParameters ec w
  let w ← pkWriteEcPrivate ec w
  asn1WriteInt 1 w

/-- The content is written first, from the end of the buffer. -/
def pkWriteSequence (content : Writer → Except Failure Writer) (base : Writer) : Except Failure Writer := do
  let w ← content base
  let w ← asn1WriteLen (w.since base) w
  asn1WriteTag sequence w

/-- What is written at the end of a buffer of `size` bytes. -/
def pkWriteKeyDer (key : PkContext) (size : Nat) : Except Failure Bytes :=
  match key with
  | .rsa rsa => (pkWriteSequence (pkWriteRsaContent rsa) ⟨size, []⟩).map Writer.out
  | .eckey ec => (pkWriteSequence (pkWriteEcContent ec) ⟨size, []⟩).map Writer.out
  | .eckeyDh _ => .error .pkFeatureUnavailable

/-- `PRV_DER_MAX_BYTES`. -/
def prvDerMaxBytes : Nat := 47 + 3 * mpiMaxSize + 5 * mpiMaxSize / 2 + mpiMaxSize % 2

/-- `mbedtls_pem_write_buffer`; the lines come with their line feeds. -/
def pkWritePem (a : Armour) (der : Bytes) (size : Nat) : Except Failure Bytes :=
  (pemWriteBuffer (a.header ++ [newline]) (a.footer ++ [newline]) der size).2

/-- With a buffer of `size` bytes. -/
def pkWriteKeyPem (key : PkContext) (size : Nat) : Except Failure Bytes := do
  let der ← pkWriteKeyDer key prvDerMaxBytes
  match key with
  | .rsa _ => pkWritePem rsaArmour der size
  | .eckey _ => pkWritePem ecArmour der size
  | .eckeyDh _ => .error .pkFeatureUnavailable

/-- `mbedtls_pk_get_bitlen`. -/
def pkGetBitlen : PkContext → Nat
  | .rsa rsa => 8 * rsa.len
  | .eckey ec | .eckeyDh ec => bitLength (ecpGroupLoad ec.grp).p

def pkGetLen (ctx : PkContext) : Nat := (pkGetBitlen ctx + 7) / 8

/-! The two encodings as a whole. -/

def tlvMpi (x : Nat) : Bytes := tlv asn1Integer (signed x)

def RsaContext.parameters (rsa : RsaContext) : Bytes :=
  tlvMpi rsa.n ++ (tlvMpi rsa.e ++ (tlvMpi rsa.d ++ (tlvMpi rsa.p ++ (tlvMpi rsa.q ++
    (tlvMpi rsa.dp ++ (tlvMpi rsa.dq ++ tlvMpi rsa.qp))))))

def RsaContext.content (rsa : RsaContext) : Bytes := tlv asn1Integer [0] ++ rsa.parameters

def RsaContext.der (rsa : RsaContext) : Bytes := tlv sequence rsa.content

def EcpKeypair.point (ec : EcpKeypair) : Bytes :=
  match ec.q with
  | .zero => [0x00]
  | .affine x y => 0x04 :: (digits ec.grp.plen x ++ digits ec.grp.plen y)

def EcpKeypair.publicPart (ec : EcpKeypair) : Bytes :=
  tlv (contextTag 0) (tlv asn1Oid (ecGrpOid ec.grp)) ++ tlv (contextTag 1) (tlv asn1BitString (0 :: ec.point))

def EcpKeypair.parameters (ec : EcpKeypair) : Bytes :=
  tlv asn1OctetString (digits ec.grp.plen ec.d) ++ ec.publicPart

def EcpKeypair.content (ec : EcpKeypair) : Bytes := tlv asn1Integer [1] ++ ec.parameters

def EcpKeypair.der (ec : EcpKeypair) : Bytes := tlv sequence ec.content

theorem writes_export {x : Nat} {r : Except Failure Nat} (hr : r = .ok x) (hx : 0 < x) :
    Writes (pkExport r) (tlvMpi x) := by
  subst hr
  exact writes_mpi hx

/-- A private key that is complete is written in full, where there is room. -/
theorem Complete.writes {rsa : RsaContext} (h : Complete rsa) (hpriv : rsa.IsPriv) :
    Writes (pkWriteSequence (pkWriteRsaContent rsa)) rsa.der := by
  have hcrt (x : Nat) : rsaExportCrt rsa x = .ok x := if_pos hpriv
  have hcore (isPublic : Bool) (x : Nat) : rsaExport rsa isPublic x = .ok x := if_neg fun hnot => hnot.1 hpriv
  obtain ⟨hdp, hdq, hqp⟩ := h.positive
  obtain ⟨hn, hp, hq, hd, he⟩ := hpriv
  have hcontent : Writes (pkWriteRsaContent rsa) rsa.content := by
    have hall := (writes_export (hcrt rsa.qp) hqp).bind <| (writes_export (hcrt rsa.dq) hdq).bind <|
      (writes_export (hcrt rsa.dp) hdp).bind <| (writes_export (hcore false rsa.q) (Nat.pos_of_ne_zero hq)).bind <|
      (writes_export (hcore false rsa.p) (Nat.pos_of_ne_zero hp)).bind <|
      (writes_export (hcore false rsa.d) (Nat.pos_of_ne_zero hd)).bind <|
      (writes_export (hcore true rsa.e) (Nat.pos_of_ne_zero he)).bind <|
      (writes_export (hcore true rsa.n) (Nat.pos_of_ne_zero hn)).bind (writes_int 0 (by decide))
    simp only [List.append_assoc] at hall
    exact hall
  exact hcontent.tlv sequence

theorem writes_pubkey {ec : EcpKeypair} (h : ec.Valid) : Writes (pkWriteEcPubkey ec) ec.point := by
  obtain ⟨x, y, hq, hx, hy⟩ := ecpCheckPubkey_eq_ok h.pubkey
  have hshort := (plen_bounds ec.grp).2
  intro w hw
  rw [pkWriteEcPubkey, EcpKeypair.point, hq, ecpPointWriteBinary_eq hx hy (by rw [ecpMaxPtLen]; omega)]
  rfl

theorem EcpKeypair.Valid.writes {ec : EcpKeypair} (h : ec.Valid) (hd : ec.d < 256 ^ ec.grp.plen) :
    Writes (pkWriteSequence (pkWriteEcContent ec)) ec.der := by
  have hprivate : Writes (pkWriteEcPrivate ec) (tlv asn1OctetString (digits ec.grp.plen ec.d)) := by
    intro w hw
    rw [pkWriteEcPrivate, mpiWriteBinary, if_pos hd]
    exact writes_octetString _ w hw
  have hbits : Writes (pkWriteBitString ec) (tlv asn1BitString (0 :: ec.point)) := by
    have htlv := ((writes_pubkey h).bind (writes_rawBuffer [0])).tlv asn1BitString
    simp only [bind_assoc] at htlv
    exact htlv
  have hcontent : Writes (pkWriteEcContent ec) ec.content := by
    have hall := (hbits.tlv (contextTag 1)).bind <| ((writes_oid (ecGrpOid ec.grp)).tlv (contextTag 0)).bind <|
      hprivate.bind (writes_int 1 (by decide))
    simp only [List.append_assoc] at hall
    exact hall
  exact hcontent.tlv sequence

/-- What is written is there in full, or there was no room. -/
theorem map_out_eq_ok {f : Writer → Except Failure Writer} {bytes der : Bytes} {size : Nat} (hf : Writes f bytes)
    (hsize : size < 2 ^ 32) : (f ⟨size, []⟩).map Writer.out = .ok der ↔ der = bytes ∧ bytes.length ≤ size := by
  rw [map_eq_ok, hf _ hsize]
  constructor
  · rintro ⟨w, hw, rfl⟩
    obtain ⟨hle, rfl⟩ := asn1WriteRawBuffer_eq_ok hw
    exact ⟨List.append_nil _, hle⟩
  · rintro ⟨rfl, hle⟩
    exact ⟨_, if_neg (Nat.not_lt.mpr hle), List.append_nil _⟩

theorem isPriv_of_write {rsa : RsaContext} {size : Nat} {der : Bytes}
    (h : pkWriteKeyDer (.rsa rsa) size = .ok der) :
    rsa.IsPriv := by
  obtain ⟨w, hsequence, -⟩ := map_eq_ok.mp h
  obtain ⟨w1, hcontent, -⟩ := bind_eq_ok.mp hsequence
  obtain ⟨w2, hqp, -⟩ := bind_eq_ok.mp hcontent
  obtain ⟨qp, hexport, -⟩ := bind_eq_ok.mp hqp
  rw [rsaExportCrt] at hexport
  split at hexport
  · assumption
  · cases hexport

/-- A private number with more bytes than the coordinates is not written. -/
theorem lt_of_write {ec : EcpKeypair} {size : Nat} {der : Bytes} (h : pkWriteKeyDer (.eckey ec) size = .ok der) :
    ec.d < 256 ^ ec.grp.plen := by
  obtain ⟨w, hsequence, -⟩ := map_eq_ok.mp h
  obtain ⟨w1, hcontent, -⟩ := bind_eq_ok.mp hsequence
  obtain ⟨w2, -, hafterPublic⟩ := bind_eq_ok.mp hcontent
  obtain ⟨w3, -, hafterParameters⟩ := bind_eq_ok.mp hafterPublic
  obtain ⟨w4, hprivate, -⟩ := bind_eq_ok.mp hafterParameters
  obtain ⟨tmp, htmp, -⟩ := bind_eq_ok.mp hprivate
  rw [mpiWriteBinary] at htmp
  split at htmp
  · assumption
  · cases htmp

/-- Exactly the private keys that are complete are written, where there is room. -/
theorem pkWriteKeyDer_rsa {rsa : RsaContext} (h : rsa.IsPriv → Complete rsa) {size : Nat} {der : Bytes}
    (hsize : size < 2 ^ 32) :
    pkWriteKeyDer (.rsa rsa) size = .ok der ↔ rsa.IsPriv ∧ der = rsa.der ∧ rsa.der.length ≤ size := by
  constructor
  · intro hwrite
    have hpriv := isPriv_of_write hwrite
    exact ⟨hpriv, (map_out_eq_ok ((h hpriv).writes hpriv) hsize).mp hwrite⟩
  · rintro ⟨hpriv, hder⟩
    exact (map_out_eq_ok ((h hpriv).writes hpriv) hsize).mpr hder

theorem pkWriteKeyDer_eckey {ec : EcpKeypair} (h : ec.Valid) {size : Nat} {der : Bytes} (hsize : size < 2 ^ 32) :
    pkWriteKeyDer (.eckey ec) size = .ok der ↔
      ec.d < 256 ^ ec.grp.plen ∧ der = ec.der ∧ ec.der.length ≤ size := by
  constructor
  · intro hwrite
    have hd := lt_of_write hwrite
    exact ⟨hd, (map_out_eq_ok (h.writes hd) hsize).mp hwrite⟩
  · rintro ⟨hd, hder⟩
    exact (map_out_eq_ok (h.writes hd) hsize).mpr hder

/-- The text of an encoding, less the terminator. -/
def Armour.text (a : Armour) (der : Bytes) : Bytes := pemText (a.header ++ [newline]) (a.footer ++ [newline]) der

/-- The room that the text of `n` bytes takes. -/
def Armour.size (a : Armour) (n : Nat) : Nat := pemSize (a.header ++ [newline]) (a.footer ++ [newline]) n

theorem pkWritePem_eq_ok {a : Armour} {der : Bytes} {size : Nat} {pem : Bytes} (hne : der ≠ [])
    (hlen : der.length ≤ prvDerMaxBytes) :
    pkWritePem a der size = .ok pem ↔ a.size der.length ≤ size ∧ pem = a.text der ++ [0] := by
  have hmax : prvDerMaxBytes < 2 ^ 32 := by decide
  rw [pkWritePem, pemWriteBuffer_eq hne (by omega)]
  change (if a.size der.length ≤ size then _ else _ : Nat × Except Failure Bytes).2 = _ ↔ _
  split
  · rename_i hfits
    exact ⟨fun h => ⟨hfits, (Except.ok.inj h).symm⟩, fun h => congrArg Except.ok h.2.symm⟩
  · rename_i hfits
    exact ⟨nofun, fun h => absurd h.1 hfits⟩

/-- The text of a key is that of its encoding, which goes through a buffer of its own. -/
theorem pkWriteKeyPem_rsa {rsa : RsaContext} (h : rsa.IsPriv → Complete rsa) {size : Nat} {pem : Bytes} :
    pkWriteKeyPem (.rsa rsa) size = .ok pem ↔ rsa.IsPriv ∧ rsa.der.length ≤ prvDerMaxBytes ∧
      rsaArmour.size rsa.der.length ≤ size ∧ pem = rsaArmour.text rsa.der ++ [0] := by
  have hmax : prvDerMaxBytes < 2 ^ 32 := by decide
  constructor
  · intro hwrite
    obtain ⟨der, hder, hpem⟩ := bind_eq_ok.mp hwrite
    obtain ⟨hpriv, rfl, hle⟩ := (pkWriteKeyDer_rsa h hmax).mp hder
    exact ⟨hpriv, hle, (pkWritePem_eq_ok (List.cons_ne_nil _ _) hle).mp hpem⟩
  · rintro ⟨hpriv, hle, hpem⟩
    exact bind_eq_ok.mpr ⟨_, (pkWriteKeyDer_rsa h hmax).mpr ⟨hpriv, rfl, hle⟩,
        (pkWritePem_eq_ok (List.cons_ne_nil _ _) hle).mpr hpem⟩

theorem pkWriteKeyPem_eckey {ec : EcpKeypair} (h : ec.Valid) {size : Nat} {pem : Bytes} :
    pkWriteKeyPem (.eckey ec) size = .ok pem ↔ ec.d < 256 ^ ec.grp.plen ∧ ec.der.length ≤ prvDerMaxBytes ∧
      ecArmour.size ec.der.length ≤ size ∧ pem = ecArmour.text ec.der ++ [0] := by
  have hmax : prvDerMaxBytes < 2 ^ 32 := by decide
  constructor
  · intro hwrite
    obtain ⟨der, hder, hpem⟩ := bind_eq_ok.mp hwrite
    obtain ⟨hd, rfl, hle⟩ := (pkWriteKeyDer_eckey h hmax).mp hder
    exact ⟨hd, hle, (pkWritePem_eq_ok (List.cons_ne_nil _ _) hle).mp hpem⟩
  · rintro ⟨hd, hle, hpem⟩
    exact bind_eq_ok.mpr ⟨_, (pkWriteKeyDer_eckey h hmax).mpr ⟨hd, rfl, hle⟩,
        (pkWritePem_eq_ok (List.cons_ne_nil _ _) hle).mpr hpem⟩

theorem length_point (ec : EcpKeypair) : ec.point.length ≤ 2 * ec.grp.plen + 1 := by
  rw [EcpKeypair.point]
  split
  · simp only [List.length_singleton]
    omega
  · simp only [List.length_cons, List.length_append, length_digits]
    omega

/-- The overhead is that of the headers, the version, the identifier and the format of the point. -/
theorem EcpKeypair.length_content (ec : EcpKeypair) : ec.content.length ≤ 3 * ec.grp.plen + 30 := by
  have hplen := (plen_bounds ec.grp).2
  have hversion : (tlv asn1Integer [1]).length ≤ 1 + 3 := length_tlv_le le_rfl (by decide)
  have hd : (tlv asn1OctetString (digits ec.grp.plen ec.d)).length ≤ ec.grp.plen + 3 :=
    length_tlv_le (length_digits _ _).le (by omega)
  have hoid : (tlv asn1Oid (ecGrpOid ec.grp)).length ≤ 9 + 3 := length_tlv_le (length_ecGrpOid _) (by decide)
  have hparameters : (tlv (contextTag 0) (tlv asn1Oid (ecGrpOid ec.grp))).length ≤ 12 + 3 :=
    length_tlv_le hoid (by decide)
  have hbits : (tlv asn1BitString (0 :: ec.point)).length ≤ 2 * ec.grp.plen + 2 + 3 :=
    length_tlv_le (by rw [List.length_cons]; exact Nat.succ_le_succ (length_point ec)) (by omega)
  have hpublic : (tlv (contextTag 1) (tlv asn1BitString (0 :: ec.point))).length ≤ 2 * ec.grp.plen + 5 + 3 :=
    length_tlv_le hbits (by omega)
  simp only [EcpKeypair.content, EcpKeypair.parameters, EcpKeypair.publicPart, List.length_append]
  omega

theorem EcpKeypair.length_der (ec : EcpKeypair) : ec.der.length ≤ 3 * ec.grp.plen + 33 :=
  length_tlv_le ec.length_content (by have := (plen_bounds ec.grp).2; omega)

/-- The bytes of a tag, a length and a content of `n` bytes. -/
def tlvSize (n : Nat) : Nat :=
  n + if n < 0x80 then 2 else if n ≤ 0xFF then 3 else if n ≤ 0xFFFF then 4 else if n ≤ 0xFFFFFF then 5 else 6

/-- The same of a positive number: its first bit is clear. -/
def mpiSize (x : Nat) : Nat := tlvSize (bitLength x / 8 + 1)

def RsaContext.derSize (rsa : RsaContext) : Nat :=
  tlvSize (3 + (mpiSize rsa.n + (mpiSize rsa.e + (mpiSize rsa.d + (mpiSize rsa.p + (mpiSize rsa.q +
    (mpiSize rsa.dp + (mpiSize rsa.dq + mpiSize rsa.qp))))))))

theorem length_tlv_eq (tag : UInt8) (content : Bytes) : (tlv tag content).length = tlvSize content.length := by
  rw [length_tlv, derLen, tlvSize]
  split_ifs <;> simp only [List.length_cons, List.length_nil, length_digits] <;> omega

theorem length_tlvMpi {x : Nat} (h : 0 < x) : (tlvMpi x).length = mpiSize x := by
  rw [tlvMpi, length_tlv_eq, length_signed h, mpiSize]

theorem Complete.length_der {rsa : RsaContext} (h : Complete rsa) (hpriv : rsa.IsPriv) :
    rsa.der.length = rsa.derSize := by
  obtain ⟨hdp, hdq, hqp⟩ := h.positive
  obtain ⟨hn, hp, hq, hd, he⟩ := hpriv
  have hversion : (tlv asn1Integer [0]).length = 3 := rfl
  rw [RsaContext.der, length_tlv_eq, RsaContext.content, RsaContext.parameters, RsaContext.derSize]
  simp only [List.length_append, hversion, length_tlvMpi (Nat.pos_of_ne_zero hn),
    length_tlvMpi (Nat.pos_of_ne_zero he),
    length_tlvMpi (Nat.pos_of_ne_zero hd), length_tlvMpi (Nat.pos_of_ne_zero hp),
      length_tlvMpi (Nat.pos_of_ne_zero hq),
    length_tlvMpi hdp, length_tlvMpi hdq, length_tlvMpi hqp]

end OpenVPNAdapter.MbedTLS
