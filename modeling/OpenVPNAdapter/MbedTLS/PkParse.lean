import OpenVPNAdapter.MbedTLS.Ecp
import OpenVPNAdapter.MbedTLS.PemRead
import OpenVPNAdapter.MbedTLS.Rsa

namespace OpenVPNAdapter.MbedTLS

open Library.BigEndian

/-- The types a private key can have. -/
inductive PkType
  | rsa
  | eckey
  | eckeyDh
deriving DecidableEq, Repr

/-- `mbedtls_pk_context`, set up for its type. -/
inductive PkContext
  | rsa (rsa : RsaContext)
  | eckey (ec : EcpKeypair)
  | eckeyDh (ec : EcpKeypair)
deriving DecidableEq, Repr

/-- The identifiers in the table `oid_pk_alg`. -/
def pkAlgOid : PkType → Bytes
  | .rsa => [0x2A, 0x86, 0x48, 0x86, 0xF7, 0x0D, 0x01, 0x01, 0x01]
  | .eckey => [0x2A, 0x86, 0x48, 0xCE, 0x3D, 0x02, 0x01]
  | .eckeyDh => [0x2B, 0x81, 0x04, 0x01, 0x0C]

def oidGetPkAlg (oid : Bytes) : Option PkType := [PkType.rsa, .eckey, .eckeyDh].find? (pkAlgOid · = oid)

/-- `pk_group_id_from_specified`: the curve that has the given parameters, if any has. -/
abbrev GroupIdFromSpecified := Asn1Buf → Except Failure EcpGroupId

/-- The decryption that `pk_parse_key_pkcs8_encrypted_der` chooses by the algorithm, given the
parameters, the password and the data; the error codes are those it returns. -/
abbrev PbeDecrypt := Asn1Buf → Asn1Buf → Bytes → Bytes → Except Failure Bytes

/-- The parts of the library that are called through their interface. A multiple of the base point
that is returned is a point of the curve. -/
structure Primitives where
  pemDecrypt : PemDecrypt
  pbeDecrypt : PbeDecrypt
  groupIdFromSpecified : GroupIdFromSpecified
  ecpMul : EcpMul
  ecpMul_checked : ∀ grp d q, ecpMul grp d = .ok q → ecpCheckPubkey (some grp) q = .ok ()

/-- `MBEDTLS_ASN1_CONSTRUCTED | MBEDTLS_ASN1_SEQUENCE`. -/
def sequence : UInt8 := asn1Constructed ||| asn1Sequence

def contextTag (k : UInt8) : UInt8 := asn1ContextSpecific ||| asn1Constructed ||| k

def invalidFormat {α : Type} (x : Except Failure α) : Except Failure α := x.mapError (.pkKeyInvalidFormat + ·)

/-- One `mbedtls_asn1_get_tag` and `mbedtls_rsa_import_raw`. -/
def pkImportRaw (p : Bytes) : Except Failure (Nat × Bytes) := do
  let (len, p) ← asn1GetTag asn1Integer p
  let x ← (mpiReadBinary (p.take len)).mapError (.rsaBadInputData + ·)
  .ok (x, p.drop len)

/-- `pk_parse_key_pkcs1_der` behind the version, up to `cleanup`. -/
def pkParseParameters (p : Bytes) : Except Failure RsaContext := do
  let (n, p1) ← pkImportRaw p
  let (e, p2) ← pkImportRaw p1
  let (d, p3) ← pkImportRaw p2
  let (p, p4) ← pkImportRaw p3
  let (q, p5) ← pkImportRaw p4
  let rsa ← rsaComplete (rsaImportRaw n p q d e)
  let (_, p6) ← asn1GetMpi p5
  let (_, p7) ← asn1GetMpi p6
  let (_, p8) ← asn1GetMpi p7
  if p8 ≠ [] then .error (.pkKeyInvalidFormat + .asn1LengthMismatch) else .ok rsa

/-- `ret & 0xff80`, which is zero for no error code. -/
def pkWrap (failure : Failure) : Failure :=
  if BitVec.ofInt 32 failure.code &&& 0xff80#32 = 0 then .pkKeyInvalidFormat + failure else .pkKeyInvalidFormat

def pkParseKeyPkcs1Der (key : Bytes) : Except Failure RsaContext := do
  let (len, p) ← invalidFormat (asn1GetTag sequence key)
  let (version, p) ← invalidFormat (asn1GetInt (p.take len))
  if version ≠ 0 then .error .pkKeyInvalidVersion
  else (pkParseParameters p).mapError pkWrap

/-- The parameters are all of `p`. -/
def pkGetEcparams : Bytes → Except Failure Asn1Buf
  | [] => .error (.pkKeyInvalidFormat + .asn1OutOfData)
  | tag :: p =>
      if tag ≠ asn1Oid ∧ tag ≠ sequence then .error (.pkKeyInvalidFormat + .asn1UnexpectedTag)
      else do
        let (len, p) ← invalidFormat (asn1GetTag tag (tag :: p))
        if len ≠ p.length then .error (.pkKeyInvalidFormat + .asn1LengthMismatch) else .ok ⟨tag, p⟩

section Parser

variable (prim : Primitives)

def pkUseEcparams (params : Asn1Buf) (grp : Option EcpGroupId) : Except Failure EcpGroupId := do
  let grpId ←
    if params.tag = asn1Oid then match oidGetEcGrp params.p with
      | none => .error .pkUnknownNamedCurve
      | some grpId => .ok grpId
    else prim.groupIdFromSpecified params
  if grp.any (· ≠ grpId) then .error .pkKeyInvalidFormat else .ok grpId

def pkGetEcpubkey (grp : Option EcpGroupId) (p : Bytes) : Except Failure EcpPoint := do
  let pt ← ecpPointReadBinary grp p
  ecpCheckPubkey grp pt
  .ok pt

/-- Whether `parameters` are present. -/
def sec1Parameters (grp : Option EcpGroupId) (p : Bytes) : Except Failure (Option EcpGroupId × Bytes) :=
  if p = [] then .ok (grp, p)
  else match asn1GetTag (contextTag 0) p with
    | .ok (len, q) => do
        let params ← pkGetEcparams (q.take len)
        let grpId ← pkUseEcparams prim params grp
        .ok (some grpId, q.drop len)
    | .error failure =>
        if failure ≠ .asn1UnexpectedTag then .error (.pkKeyInvalidFormat + failure) else .ok (grp, p)

/-- Whether `publicKey` is present, in a format that can be read. -/
def sec1PublicKey (grp : Option EcpGroupId) (p : Bytes) : Except Failure (Option EcpPoint) :=
  if p = [] then .ok none
  else match asn1GetTag (contextTag 1) p with
    | .ok (len, q) => do
        let (len, q) ← invalidFormat (asn1GetBitstringNull (q.take len))
        if len ≠ q.length then .error (.pkKeyInvalidFormat + .asn1LengthMismatch)
        else match pkGetEcpubkey grp q with
          | .ok pt => .ok (some pt)
          | .error failure => if failure ≠ .ecpFeatureUnavailable then .error .pkKeyInvalidFormat else .ok none
    | .error failure =>
        if failure ≠ .asn1UnexpectedTag then .error (.pkKeyInvalidFormat + failure) else .ok none

/-- The end of `pk_parse_key_sec1_der`. Without a group both checks refuse. -/
def sec1Finish (grp : Option EcpGroupId) (d : Nat) (q : Option EcpPoint) : Except Failure EcpKeypair :=
  match grp, q with
  | none, none => .error (.pkKeyInvalidFormat + .ecpBadInputData)
  | none, some _ => .error .ecpBadInputData
  | some grp, none => do
      let q ← invalidFormat (prim.ecpMul grp d)
      ecpCheckPrivkey grp d
      .ok ⟨grp, d, q⟩
  | some grp, some q => do
      ecpCheckPrivkey grp d
      .ok ⟨grp, d, q⟩

def pkParseKeySec1Der (grp : Option EcpGroupId) (key : Bytes) : Except Failure EcpKeypair := do
  let (len, p) ← invalidFormat (asn1GetTag sequence key)
  let (version, p) ← invalidFormat (asn1GetInt (p.take len))
  if version ≠ 1 then .error .pkKeyInvalidVersion
  else do
    let (len, p) ← invalidFormat (asn1GetTag asn1OctetString p)
    let d ← invalidFormat (mpiReadBinary (p.take len))
    let (grp, p) ← sec1Parameters prim grp (p.drop len)
    let q ← sec1PublicKey grp p
    sec1Finish prim grp d q

def pkGetPkAlg (p : Bytes) : Except Failure (PkType × Asn1Buf × Bytes) := do
  let (algOid, params, p) ← (asn1GetAlg p).mapError (.pkInvalidAlg + ·)
  match oidGetPkAlg algOid.p with
  | none => .error .pkUnknownPkAlg
  | some pkAlg =>
      if pkAlg = .rsa ∧ ((params.tag ≠ asn1Null ∧ params.tag ≠ 0) ∨ params.p ≠ []) then .error .pkInvalidAlg
      else .ok (pkAlg, params, p)

def pkParseKeyPkcs8UnencryptedDer (key : Bytes) : Except Failure PkContext := do
  let (len, p) ← invalidFormat (asn1GetTag sequence key)
  let (version, p) ← invalidFormat (asn1GetInt (p.take len))
  if version ≠ 0 then .error .pkKeyInvalidVersion
  else do
    let (pkAlg, params, p) ← invalidFormat (pkGetPkAlg p)
    let (len, p) ← invalidFormat (asn1GetTag asn1OctetString p)
    if len < 1 then .error (.pkKeyInvalidFormat + .asn1OutOfData)
    else match pkAlg with
      | .rsa => (pkParseKeyPkcs1Der (p.take len)).map .rsa
      | .eckey => do
          let grp ← pkUseEcparams prim params none
          (pkParseKeySec1Der prim (some grp) (p.take len)).map .eckey
      | .eckeyDh => do
          let grp ← pkUseEcparams prim params none
          (pkParseKeySec1Der prim (some grp) (p.take len)).map .eckeyDh

def pkParseKeyPkcs8EncryptedDer (key pwd : Bytes) : Except Failure PkContext :=
  if pwd = [] then .error .pkPasswordRequired
  else do
    let (len, p) ← invalidFormat (asn1GetTag sequence key)
    let (pbeAlgOid, pbeParams, p) ← invalidFormat (asn1GetAlg (p.take len))
    let (len, p) ← invalidFormat (asn1GetTag asn1OctetString p)
    let buf ← prim.pbeDecrypt pbeAlgOid pbeParams pwd (p.take len)
    pkParseKeyPkcs8UnencryptedDer prim buf

/-- The formats without boundaries, one after another. -/
def pkParseKeyDer (key pwd : Bytes) : Except Failure PkContext :=
  if key = [] then .error .pkKeyInvalidFormat
  else match pkParseKeyPkcs8EncryptedDer prim key pwd with
    | .ok ctx => .ok ctx
    | .error failure =>
        if failure = .pkPasswordMismatch then .error failure
        else match pkParseKeyPkcs8UnencryptedDer prim key with
          | .ok ctx => .ok ctx
          | .error _ => match pkParseKeyPkcs1Der key with
            | .ok rsa => .ok (.rsa rsa)
            | .error _ => match pkParseKeySec1Der prim none key with
              | .ok ec => .ok (.eckey ec)
              | .error _ => .error .pkKeyInvalidFormat

/-- The two lines between which a key of some kind stands. -/
structure Armour where
  header : Bytes
  footer : Bytes

def privateKey : Bytes := ascii
  ['P', 'R', 'I', 'V', 'A', 'T', 'E', ' ', 'K', 'E', 'Y', '-', '-', '-', '-', '-']

def armour (kind : Bytes) : Armour where
  header := ascii ['-', '-', '-', '-', '-', 'B', 'E', 'G', 'I', 'N', ' '] ++ kind ++ privateKey
  footer := ascii ['-', '-', '-', '-', '-', 'E', 'N', 'D', ' '] ++ kind ++ privateKey

def rsaArmour : Armour := armour (ascii ['R', 'S', 'A', ' '])

def ecArmour : Armour := armour (ascii ['E', 'C', ' '])

def plainArmour : Armour := armour []

def encryptedArmour : Armour := armour (ascii ['E', 'N', 'C', 'R', 'Y', 'P', 'T', 'E', 'D', ' '])

/-- `mbedtls_pem_read_buffer`, unless the last byte is not the terminator. -/
def pkReadPem (a : Armour) (key : Bytes) (pwd : Option Bytes) : Except Stop Bytes :=
  if key.getLast? ≠ some 0 then .error (.failed .pemNoHeaderFooterPresent)
  else (pemReadBuffer prim.pemDecrypt a.header a.footer key pwd).2

/-- `MBEDTLS_ERR_PEM_PASSWORD_MISMATCH` and `MBEDTLS_ERR_PEM_PASSWORD_REQUIRED`, where they are
translated. -/
def pkPassword : Stop → Stop
  | .failed failure =>
      if failure = .pemPasswordMismatch then .failed .pkPasswordMismatch
      else if failure = .pemPasswordRequired then .failed .pkPasswordRequired
      else .failed failure
  | .fault => .fault

/-- What is read is parsed; where there is nothing to read the next format is tried. -/
def pkOrElse (read : Except Stop Bytes) (parse : Bytes → Except Failure PkContext)
    (next : Except Stop PkContext) : Except Stop PkContext :=
  match read with
  | .ok der => (parse der).mapError .failed
  | .error stop => if stop = .failed .pemNoHeaderFooterPresent then next else .error stop

/-- A password that is there has the given bytes. -/
def pkParseKey (key : Bytes) (pwd : Option Bytes) : Except Stop PkContext :=
  let pwdBytes := pwd.getD []
  pkOrElse ((pkReadPem prim rsaArmour key pwd).mapError pkPassword)
    (fun der => (pkParseKeyPkcs1Der der).map .rsa) <|
  pkOrElse ((pkReadPem prim ecArmour key pwd).mapError pkPassword)
    (fun der => (pkParseKeySec1Der prim none der).map .eckey) <|
  pkOrElse (pkReadPem prim plainArmour key none) (pkParseKeyPkcs8UnencryptedDer prim) <|
  pkOrElse (pkReadPem prim encryptedArmour key none) (pkParseKeyPkcs8EncryptedDer prim · pwdBytes) <|
  (pkParseKeyDer prim key pwdBytes).mapError .failed

variable {prim}

/-- What is checked of a key pair that is imported. -/
structure EcpKeypair.Valid (ec : EcpKeypair) : Prop where
  pubkey : ecpCheckPubkey (some ec.grp) ec.q = .ok ()
  privkey : ecpCheckPrivkey ec.grp ec.d = .ok ()

def PkContext.Valid : PkContext → Prop
  | .rsa ctx => ctx.IsPriv → Complete ctx
  | .eckey ec | .eckeyDh ec => ec.Valid

/-- The private number of a curve is spelt by no more than `n` bytes. -/
def PkContext.Within (n : Nat) : PkContext → Prop
  | .rsa _ => True
  | .eckey ec | .eckeyDh ec => ec.d < 256 ^ n

theorem invalidFormat_eq_ok {α : Type} {x : Except Failure α} {a : α} : invalidFormat x = .ok a ↔ x = .ok a :=
  mapError_eq_ok

theorem mpiReadBinary_eq_ok {buf : Bytes} {x : Nat} (h : mpiReadBinary buf = .ok x) : x < 256 ^ buf.length := by
  rw [mpiReadBinary] at h
  split at h
  · cases h
  · obtain rfl := Except.ok.inj h
    exact value_lt buf

theorem asn1GetInt_length {p rest : Bytes} {val : Nat} (h : asn1GetInt p = .ok (val, rest)) :
    rest.length ≤ p.length := by
  obtain ⟨⟨len, q⟩, htag, hafterTag⟩ := bind_eq_ok.mp h
  obtain ⟨-, header, rfl, -⟩ := asn1GetTag_eq_ok htag
  simp only at hafterTag
  split at hafterTag
  · cases hafterTag
  · obtain ⟨-, rfl⟩ := Prod.mk.inj (Except.ok.inj hafterTag)
    simp only [List.length_drop, List.length_cons, List.length_append]
    omega

theorem asn1GetAlg_length {p rest : Bytes} {alg params : Asn1Buf} (h : asn1GetAlg p = .ok (alg, params, rest)) :
    rest.length ≤ p.length := by
  obtain ⟨⟨len, q⟩, htag, hafterTag⟩ := bind_eq_ok.mp h
  obtain ⟨-, header, rfl, -⟩ := asn1GetTag_eq_ok htag
  simp only at hafterTag
  have hdrop : (q.drop len).length ≤ ((asn1Constructed ||| asn1Sequence) :: (header ++ q)).length := by
    simp only [List.length_drop, List.length_cons, List.length_append]
    omega
  split at hafterTag
  · cases hafterTag
  · obtain ⟨⟨algLen, r⟩, -, hafterOid⟩ := bind_eq_ok.mp hafterTag
    simp only at hafterOid
    split at hafterOid
    · obtain ⟨-, h2⟩ := Prod.mk.inj (Except.ok.inj hafterOid)
      obtain ⟨-, rfl⟩ := Prod.mk.inj h2
      exact hdrop
    · obtain ⟨⟨paramsLen, r'⟩, -, hafterParams⟩ := bind_eq_ok.mp hafterOid
      simp only at hafterParams
      split at hafterParams
      · cases hafterParams
      · obtain ⟨-, h2⟩ := Prod.mk.inj (Except.ok.inj hafterParams)
        obtain ⟨-, rfl⟩ := Prod.mk.inj h2
        exact hdrop

theorem pkGetPkAlg_length {p rest : Bytes} {pkAlg : PkType} {params : Asn1Buf}
    (h : pkGetPkAlg p = .ok (pkAlg, params, rest)) : rest.length ≤ p.length := by
  obtain ⟨⟨algOid, params', rest'⟩, halg, hafterAlg⟩ := bind_eq_ok.mp h
  simp only at hafterAlg
  split at hafterAlg
  · cases hafterAlg
  · split at hafterAlg
    · cases hafterAlg
    · obtain ⟨-, h2⟩ := Prod.mk.inj (Except.ok.inj hafterAlg)
      obtain ⟨-, rfl⟩ := Prod.mk.inj h2
      exact asn1GetAlg_length (mapError_eq_ok.mp halg)

theorem sec1PublicKey_eq_ok {grp : Option EcpGroupId} {p : Bytes} {pt : EcpPoint}
    (h : sec1PublicKey grp p = .ok (some pt)) : ecpCheckPubkey grp pt = .ok () := by
  rw [sec1PublicKey] at h
  split at h
  · cases h
  · split at h
    · rename_i len q _
      obtain ⟨⟨len', q'⟩, -, hafter⟩ := bind_eq_ok.mp h
      simp only at hafter
      split at hafter
      · cases hafter
      · split at hafter
        · rename_i pt' hpubkey
          obtain rfl := Option.some.inj (Except.ok.inj hafter)
          obtain ⟨pt', -, hchecked⟩ := bind_eq_ok.mp hpubkey
          obtain ⟨_, hcheck, hpt⟩ := bind_eq_ok.mp hchecked
          obtain rfl := Except.ok.inj hpt
          exact hcheck
        · split at hafter
          · cases hafter
          · cases hafter
    · split at h
      · cases h
      · cases h

theorem sec1Finish_eq_ok {grp : Option EcpGroupId} {d : Nat} {q : Option EcpPoint} {ec : EcpKeypair}
    (hq : ∀ pt ∈ q, ecpCheckPubkey grp pt = .ok ()) (h : sec1Finish prim grp d q = .ok ec) :
      ec.Valid ∧ ec.d = d := by
  cases grp with
  | none => cases q <;> cases h
  | some grp =>
      cases q with
      | none =>
          obtain ⟨pt, hmul, hafterMul⟩ := bind_eq_ok.mp h
          obtain ⟨_, hpriv, hec⟩ := bind_eq_ok.mp hafterMul
          obtain rfl := Except.ok.inj hec
          exact ⟨⟨prim.ecpMul_checked grp d pt (invalidFormat_eq_ok.mp hmul), hpriv⟩, rfl⟩
      | some pt =>
          obtain ⟨_, hpriv, hec⟩ := bind_eq_ok.mp h
          obtain rfl := Except.ok.inj hec
          exact ⟨⟨hq pt rfl, hpriv⟩, rfl⟩

theorem pkParseKeySec1Der_eq_ok {grp : Option EcpGroupId} {key : Bytes} {ec : EcpKeypair}
    (h : pkParseKeySec1Der prim grp key = .ok ec) : ec.Valid ∧ ec.d < 256 ^ key.length := by
  obtain ⟨⟨len1, p1⟩, hsequence, hafterSequence⟩ := bind_eq_ok.mp h
  obtain ⟨⟨version, p2⟩, hversion, hafterVersion⟩ := bind_eq_ok.mp hafterSequence
  simp only at hafterVersion
  split at hafterVersion
  · cases hafterVersion
  · obtain ⟨⟨len2, p3⟩, hoctets, hafterOctets⟩ := bind_eq_ok.mp hafterVersion
    obtain ⟨d, hd, hafterD⟩ := bind_eq_ok.mp hafterOctets
    obtain ⟨⟨grp', p4⟩, -, hafterParameters⟩ := bind_eq_ok.mp hafterD
    obtain ⟨q, hpublic, hfinish⟩ := bind_eq_ok.mp hafterParameters
    obtain ⟨hvalid, rfl⟩ := sec1Finish_eq_ok (fun pt hpt => sec1PublicKey_eq_ok (hpt ▸ hpublic)) hfinish
    refine ⟨hvalid, (mpiReadBinary_eq_ok (invalidFormat_eq_ok.mp hd)).trans_le
        (Nat.pow_le_pow_right (by decide) ?_)⟩
    obtain ⟨-, header1, rfl, -⟩ := asn1GetTag_eq_ok (invalidFormat_eq_ok.mp hsequence)
    have hint := asn1GetInt_length (invalidFormat_eq_ok.mp hversion)
    obtain ⟨-, header2, rfl, -⟩ := asn1GetTag_eq_ok (invalidFormat_eq_ok.mp hoctets)
    simp only [List.length_take, List.length_cons, List.length_append] at hint ⊢
    omega

theorem pkParseKeyPkcs1Der_eq_ok {key : Bytes} {rsa : RsaContext} (h : pkParseKeyPkcs1Der key = .ok rsa)
    (hpriv : rsa.IsPriv) : Complete rsa := by
  obtain ⟨⟨len, p⟩, -, hafterSequence⟩ := bind_eq_ok.mp h
  obtain ⟨⟨version, p0⟩, -, hafterVersion⟩ := bind_eq_ok.mp hafterSequence
  simp only at hafterVersion
  split at hafterVersion
  · cases hafterVersion
  · obtain ⟨_, -, h1⟩ := bind_eq_ok.mp (mapError_eq_ok.mp hafterVersion)
    obtain ⟨_, -, h2⟩ := bind_eq_ok.mp h1
    obtain ⟨_, -, h3⟩ := bind_eq_ok.mp h2
    obtain ⟨_, -, h4⟩ := bind_eq_ok.mp h3
    obtain ⟨_, -, h5⟩ := bind_eq_ok.mp h4
    obtain ⟨rsa', hcomplete, h6⟩ := bind_eq_ok.mp h5
    obtain ⟨_, -, h7⟩ := bind_eq_ok.mp h6
    obtain ⟨_, -, h8⟩ := bind_eq_ok.mp h7
    obtain ⟨_, -, h9⟩ := bind_eq_ok.mp h8
    simp only at h9
    split at h9
    · cases h9
    · obtain rfl := Except.ok.inj h9
      exact rsaComplete_eq_ok hcomplete hpriv

theorem pkParseKeyPkcs8UnencryptedDer_eq_ok {key : Bytes} {ctx : PkContext}
    (h : pkParseKeyPkcs8UnencryptedDer prim key = .ok ctx) : ctx.Valid ∧ ctx.Within key.length := by
  obtain ⟨⟨len1, p1⟩, hsequence, hafterSequence⟩ := bind_eq_ok.mp h
  obtain ⟨⟨version, p2⟩, hversion, hafterVersion⟩ := bind_eq_ok.mp hafterSequence
  simp only at hafterVersion
  split at hafterVersion
  · cases hafterVersion
  · obtain ⟨⟨pkAlg, params, p3⟩, halg, hafterAlg⟩ := bind_eq_ok.mp hafterVersion
    obtain ⟨⟨len2, p4⟩, hoctets, hafterOctets⟩ := bind_eq_ok.mp hafterAlg
    simp only at hafterOctets
    split at hafterOctets
    · cases hafterOctets
    · have hlength : (p4.take len2).length ≤ key.length := by
        obtain ⟨-, header1, rfl, -⟩ := asn1GetTag_eq_ok (invalidFormat_eq_ok.mp hsequence)
        have hint := asn1GetInt_length (invalidFormat_eq_ok.mp hversion)
        have halgLength := pkGetPkAlg_length (invalidFormat_eq_ok.mp halg)
        obtain ⟨-, header2, rfl, -⟩ := asn1GetTag_eq_ok (invalidFormat_eq_ok.mp hoctets)
        simp only [List.length_take, List.length_cons, List.length_append] at hint halgLength ⊢
        omega
      have hpow : 256 ^ (p4.take len2).length ≤ 256 ^ key.length := Nat.pow_le_pow_right (by decide) hlength
      cases pkAlg with
      | rsa =>
          obtain ⟨rsa, hrsa, rfl⟩ := map_eq_ok.mp hafterOctets
          exact ⟨pkParseKeyPkcs1Der_eq_ok hrsa, trivial⟩
      | eckey | eckeyDh =>
          obtain ⟨grp, -, hafterParams⟩ := bind_eq_ok.mp hafterOctets
          obtain ⟨ec, hec, rfl⟩ := map_eq_ok.mp hafterParams
          obtain ⟨hvalid, hd⟩ := pkParseKeySec1Der_eq_ok hec
          exact ⟨hvalid, hd.trans_le hpow⟩

theorem pkParseKeyPkcs8EncryptedDer_eq_ok {key pwd : Bytes} {ctx : PkContext}
    (h : pkParseKeyPkcs8EncryptedDer prim key pwd = .ok ctx) : ctx.Valid := by
  rw [pkParseKeyPkcs8EncryptedDer] at h
  split at h
  · cases h
  · obtain ⟨_, -, h1⟩ := bind_eq_ok.mp h
    obtain ⟨_, -, h2⟩ := bind_eq_ok.mp h1
    obtain ⟨_, -, h3⟩ := bind_eq_ok.mp h2
    obtain ⟨_, -, h4⟩ := bind_eq_ok.mp h3
    exact (pkParseKeyPkcs8UnencryptedDer_eq_ok h4).1

theorem pkParseKeyDer_eq_ok {key pwd : Bytes} {ctx : PkContext} (h : pkParseKeyDer prim key pwd = .ok ctx) :
    ctx.Valid := by
  rw [pkParseKeyDer] at h
  split at h
  · cases h
  · split at h
    · rename_i ctx' hencrypted
      obtain rfl := Except.ok.inj h
      exact pkParseKeyPkcs8EncryptedDer_eq_ok hencrypted
    · split at h
      · cases h
      · split at h
        · rename_i ctx' hplain
          obtain rfl := Except.ok.inj h
          exact (pkParseKeyPkcs8UnencryptedDer_eq_ok hplain).1
        · split at h
          · rename_i rsa hrsa
            obtain rfl := Except.ok.inj h
            exact pkParseKeyPkcs1Der_eq_ok hrsa
          · split at h
            · rename_i ec hec
              obtain rfl := Except.ok.inj h
              exact (pkParseKeySec1Der_eq_ok hec).1
            · cases h

theorem pkOrElse_eq_ok {read : Except Stop Bytes} {parse : Bytes → Except Failure PkContext}
    {next : Except Stop PkContext} {ctx : PkContext} (h : pkOrElse read parse next = .ok ctx) :
    (∃ der, read = .ok der ∧ parse der = .ok ctx) ∨
      read = .error (.failed .pemNoHeaderFooterPresent) ∧ next = .ok ctx := by
  cases read with
  | ok der => exact .inl ⟨der, rfl, mapError_eq_ok.mp h⟩
  | error stop =>
      simp only [pkOrElse] at h
      split at h
      · rename_i hstop
        exact .inr ⟨congrArg Except.error hstop, h⟩
      · cases h

/-- Every key that is parsed has passed its checks. -/
theorem pkParseKey_eq_ok {key : Bytes} {pwd : Option Bytes} {ctx : PkContext}
    (h : pkParseKey prim key pwd = .ok ctx) : ctx.Valid := by
  rw [pkParseKey] at h
  rcases pkOrElse_eq_ok h with ⟨der, -, hder⟩ | ⟨-, hnext1⟩
  · obtain ⟨rsa, hrsa, rfl⟩ := map_eq_ok.mp hder
    exact pkParseKeyPkcs1Der_eq_ok hrsa
  rcases pkOrElse_eq_ok hnext1 with ⟨der, -, hder⟩ | ⟨-, hnext2⟩
  · obtain ⟨ec, hec, rfl⟩ := map_eq_ok.mp hder
    exact (pkParseKeySec1Der_eq_ok hec).1
  rcases pkOrElse_eq_ok hnext2 with ⟨der, -, hder⟩ | ⟨-, hnext3⟩
  · exact (pkParseKeyPkcs8UnencryptedDer_eq_ok hder).1
  rcases pkOrElse_eq_ok hnext3 with ⟨der, -, hder⟩ | ⟨-, hnext4⟩
  · exact pkParseKeyPkcs8EncryptedDer_eq_ok hder
  · exact pkParseKeyDer_eq_ok (mapError_eq_ok.mp hnext4)

theorem pkPassword_eq_noHeader {read : Except Stop Bytes}
    (h : read.mapError pkPassword = .error (.failed .pemNoHeaderFooterPresent)) :
    read = .error (.failed .pemNoHeaderFooterPresent) := by
  cases read with
  | ok der => cases h
  | error stop =>
      have hstop := Except.error.inj h
      cases stop with
      | fault => cases hstop
      | failed failure =>
          simp only [pkPassword] at hstop
          split_ifs at hstop
          · exact absurd hstop (by decide)
          · exact absurd hstop (by decide)
          · exact congrArg Except.error hstop

/-! Data without a terminator is not searched for boundaries. -/

theorem pkReadPem_ne_fault (a : Armour) (key : Bytes) (pwd : Option Bytes) :
    pkReadPem prim a key pwd ≠ .error .fault := by
  rw [pkReadPem]
  split
  · nofun
  · rename_i hlast
    exact pemReadBuffer_ne_fault (List.mem_of_getLast? (Decidable.not_not.mp hlast))

theorem mapError_pkPassword_ne_fault {read : Except Stop Bytes} (h : read ≠ .error .fault) :
    read.mapError pkPassword ≠ .error .fault := by
  cases read with
  | ok der => nofun
  | error stop =>
      cases stop with
      | fault => exact absurd rfl h
      | failed failure =>
          simp only [Except.mapError, pkPassword]
          split_ifs <;> nofun

theorem pkOrElse_ne_fault {read : Except Stop Bytes} {parse : Bytes → Except Failure PkContext}
    {next : Except Stop PkContext} (hread : read ≠ .error .fault) (hnext : next ≠ .error .fault) :
    pkOrElse read parse next ≠ .error .fault := by
  cases read with
  | ok der =>
      rw [pkOrElse]
      cases parse der with
      | ok ctx => nofun
      | error failure => nofun
  | error stop =>
      rw [pkOrElse]
      split
      · exact hnext
      · exact fun h => hread (congrArg Except.error (Except.error.inj h))

theorem pkParseKey_ne_fault (key : Bytes) (pwd : Option Bytes) : pkParseKey prim key pwd ≠ .error .fault := by
  rw [pkParseKey]
  apply pkOrElse_ne_fault (mapError_pkPassword_ne_fault (pkReadPem_ne_fault rsaArmour key pwd))
  apply pkOrElse_ne_fault (mapError_pkPassword_ne_fault (pkReadPem_ne_fault ecArmour key pwd))
  apply pkOrElse_ne_fault (pkReadPem_ne_fault plainArmour key none)
  apply pkOrElse_ne_fault (pkReadPem_ne_fault encryptedArmour key none)
  cases pkParseKeyDer prim key (pwd.getD []) with
  | ok ctx => nofun
  | error failure => nofun

end Parser

end OpenVPNAdapter.MbedTLS
