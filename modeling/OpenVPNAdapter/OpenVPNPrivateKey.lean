import Mathlib.Data.List.TakeWhile
import OpenVPNAdapter.Identity
import OpenVPNAdapter.MbedTLS.PkRoundTrip

namespace OpenVPNAdapter.Identity

open MbedTLS

/-- A string is known here by its `UTF8String`, less the terminator, which is `NULL` where the string
has no UTF-8 form. -/
structure NSString where
  utf8String : Option Bytes
deriving DecidableEq, Repr

structure OpenVPNPrivateKey where
  ctx : PkContext
deriving DecidableEq, Repr

/-- The characters that `strlen` counts. -/
def strlen : Option Bytes → Except Stop Bytes
  | none => .error .fault
  | some s => .ok (s.takeWhile (· ≠ 0))

/-- `password.UTF8String`, of which `password_length` bytes are read. -/
def passwordBytes : Option NSString → Except Stop (Option Bytes)
  | none => .ok none
  | some password => (strlen password.utf8String).map some

section Import

variable (prim : Primitives)

def keyWithPEM (pemData : Bytes) (password : Option NSString) : Outcome OpenVPNPrivateKey :=
  outcome "Failed to read PEM data" do
    let text ← strlen (utf8String pemData)
    let pwd ← passwordBytes password
    let ctx ← pkParseKey prim (text ++ [0]) pwd
    .ok ⟨ctx⟩

def keyWithDER (derData : Bytes) (password : Option NSString) : Outcome OpenVPNPrivateKey :=
  outcome "Failed to read DER data" do
    let pwd ← passwordBytes password
    let ctx ← pkParseKey prim derData pwd
    .ok ⟨ctx⟩

end Import

namespace OpenVPNPrivateKey

variable (key : OpenVPNPrivateKey)

def bufferLength : Nat := pkGetLen key.ctx * 10 % 2 ^ 64

/-- The text is ASCII, so that it comes out of the two conversions as it is. -/
def pemData : Outcome Bytes :=
  outcome "Failed to write PEM data" <|
    ((pkWriteKeyPem key.ctx key.bufferLength).map fun buffer => buffer.takeWhile (· ≠ 0)).mapError .failed

def derData : Outcome Bytes :=
  outcome "Failed to write DER data" ((pkWriteKeyDer key.ctx key.bufferLength).mapError .failed)

end OpenVPNPrivateKey

section Export

variable (prim : Primitives) (key : OpenVPNPrivateKey)

def Imported : Prop :=
  (∃ pemData password, keyWithPEM prim pemData password = .object key) ∨
    ∃ derData password, keyWithDER prim derData password = .object key

/-- A password that has a UTF-8 form, or none. -/
def Readable (password : Option NSString) : Prop := ∀ s ∈ password, s.utf8String ≠ none

/-- Both forms are written, and each of them brings the key back, whatever the password. -/
def Exports : Prop :=
  (∃ pem, key.pemData = .object pem ∧ ∀ password, Readable password → keyWithPEM prim pem password = .object key) ∧
    ∃ der, key.derData = .object der ∧ ∀ password, Readable password → keyWithDER prim der password = .object key

/-- All parameters are there and the text fits ten bytes for each byte of the modulus, or the private
number fits the bytes of the curve and the encoding is not taken for a text. -/
def Exportable : PkContext → Prop
  | .rsa ctx => ctx.IsPriv ∧ ctx.derSize ≤ prvDerMaxBytes ∧ rsaArmour.size ctx.derSize ≤ 10 * ctx.len
  | .eckey ec => ec.d < 256 ^ ec.grp.plen ∧ ∀ a ∈ armours, ¬ TakenForPem a ec.der
  | .eckeyDh _ => False

variable {prim key}

theorem keyWithPEM_eq_object {pemData : Bytes} {password : Option NSString} :
    keyWithPEM prim pemData password = .object key ↔ ∃ text pwd, strlen (utf8String pemData) = .ok text ∧
      passwordBytes password = .ok pwd ∧ pkParseKey prim (text ++ [0]) pwd = .ok key.ctx := by
  rw [keyWithPEM, outcome_eq_object]
  constructor
  · intro h
    obtain ⟨text, htext, h1⟩ := bind_eq_ok.mp h
    obtain ⟨pwd, hpwd, h2⟩ := bind_eq_ok.mp h1
    obtain ⟨ctx, hctx, hkey⟩ := bind_eq_ok.mp h2
    obtain rfl := Except.ok.inj hkey
    exact ⟨text, pwd, htext, hpwd, hctx⟩
  · rintro ⟨text, pwd, htext, hpwd, hctx⟩
    exact bind_eq_ok.mpr ⟨text, htext, bind_eq_ok.mpr ⟨pwd, hpwd, bind_eq_ok.mpr ⟨key.ctx, hctx, rfl⟩⟩⟩

theorem keyWithDER_eq_object {derData : Bytes} {password : Option NSString} :
    keyWithDER prim derData password = .object key ↔
      ∃ pwd, passwordBytes password = .ok pwd ∧ pkParseKey prim derData pwd = .ok key.ctx := by
  rw [keyWithDER, outcome_eq_object]
  constructor
  · intro h
    obtain ⟨pwd, hpwd, h1⟩ := bind_eq_ok.mp h
    obtain ⟨ctx, hctx, hkey⟩ := bind_eq_ok.mp h1
    obtain rfl := Except.ok.inj hkey
    exact ⟨pwd, hpwd, hctx⟩
  · rintro ⟨pwd, hpwd, hctx⟩
    exact bind_eq_ok.mpr ⟨pwd, hpwd, bind_eq_ok.mpr ⟨key.ctx, hctx, rfl⟩⟩

theorem Imported.valid (h : Imported prim key) : key.ctx.Valid := by
  rcases h with ⟨data, password, h⟩ | ⟨data, password, h⟩
  · obtain ⟨_, _, -, -, hctx⟩ := keyWithPEM_eq_object.mp h
    exact pkParseKey_eq_ok hctx
  · obtain ⟨_, -, hctx⟩ := keyWithDER_eq_object.mp h
    exact pkParseKey_eq_ok hctx

theorem Readable.bytes {password : Option NSString} (h : Readable password) :
    ∃ pwd, passwordBytes password = .ok pwd := by
  cases password with
  | none => exact ⟨none, rfl⟩
  | some s =>
      cases hs : s.utf8String with
      | none => exact absurd hs (h s rfl)
      | some utf8 => exact ⟨some (utf8.takeWhile (· ≠ 0)), by rw [passwordBytes, hs]; rfl⟩

theorem takeWhile_of_clean {text rest : Bytes} (h : 0 ∉ text) : (text ++ 0 :: rest).takeWhile (· ≠ 0) = text := by
  rw [List.takeWhile_append_of_pos]
  · simp
  · exact fun b hb => decide_eq_true fun hz => h (hz ▸ hb)

theorem strlen_of_clean {text : Bytes} (hascii : ∀ b ∈ text, b ≤ 127) (h : 0 ∉ text) :
    strlen (utf8String text) = .ok text := by
  rw [utf8String_of_ascii hascii]
  exact congrArg Except.ok (List.takeWhile_eq_self_iff.mpr fun b hb => decide_eq_true fun hz => h (hz ▸ hb))

theorem armour_clean : ∀ a ∈ armours, 0 ∉ a.header ++ [newline] ∧ 0 ∉ a.footer ++ [newline] := by decide

theorem armour_ascii : ∀ a ∈ armours,
    (a.header ++ [newline]).all (decide <| · ≤ 127) = true ∧ (a.footer ++ [newline]).all
    (decide <| · ≤ 127) = true := by
  decide

section Written

variable {a : Armour} {der : Bytes} (ha : a ∈ armours)

include ha

theorem text_clean : 0 ∉ a.text der := zero_notMem_pemText (armour_clean a ha).1 (armour_clean a ha).2

theorem strlen_text : strlen (utf8String (a.text der)) = .ok (a.text der) := by
  obtain ⟨hheader, hfooter⟩ := armour_ascii a ha
  exact strlen_of_clean (pemText_ascii (fun b hb => of_decide_eq_true (List.all_eq_true.mp hheader b hb))
    fun b hb => of_decide_eq_true (List.all_eq_true.mp hfooter b hb)) (text_clean ha)

/-- A text that is parsed to the key brings it back. -/
theorem keyWithPEM_text (h : ∀ pwd, pkParseKey prim (a.text der ++ [0]) pwd = .ok key.ctx)
    {password : Option NSString} (hpassword : Readable password) :
      keyWithPEM prim (a.text der) password = .object key := by
  obtain ⟨pwd, hpwd⟩ := hpassword.bytes
  exact keyWithPEM_eq_object.mpr ⟨_, pwd, strlen_text ha, hpwd, h pwd⟩

end Written

theorem keyWithDER_read {der : Bytes} (h : ∀ pwd, pkParseKey prim der pwd = .ok key.ctx)
    {password : Option NSString}
    (hpassword : Readable password) : keyWithDER prim der password = .object key := by
  obtain ⟨pwd, hpwd⟩ := hpassword.bytes
  exact keyWithDER_eq_object.mpr ⟨pwd, hpwd, h pwd⟩

theorem pemData_eq_object {pem : Bytes} : key.pemData = .object pem ↔
    ∃ buffer, pkWriteKeyPem key.ctx key.bufferLength = .ok buffer ∧ buffer.takeWhile (· ≠ 0) = pem := by
  rw [OpenVPNPrivateKey.pemData, outcome_eq_object, mapError_eq_ok, map_eq_ok]

theorem derData_eq_object {der : Bytes} :
    key.derData = .object der ↔ pkWriteKeyDer key.ctx key.bufferLength = .ok der := by
  rw [OpenVPNPrivateKey.derData, outcome_eq_object, mapError_eq_ok]

theorem bufferLength_rsa {rsa : RsaContext} (h : Complete rsa) :
    OpenVPNPrivateKey.bufferLength ⟨.rsa rsa⟩ = 10 * rsa.len := by
  have hlen := h.length_le.2
  simp only [OpenVPNPrivateKey.bufferLength, pkGetLen, pkGetBitlen]
  omega

theorem bufferLength_eckey (ec : EcpKeypair) :
    OpenVPNPrivateKey.bufferLength ⟨.eckey ec⟩ = 10 * ec.grp.plen := by
  have hlen := (plen_bounds ec.grp).2
  rw [OpenVPNPrivateKey.bufferLength]
  change ec.grp.plen * 10 % 2 ^ 64 = _
  omega

theorem le_size (a : Armour) (n : Nat) : n ≤ a.size n := by
  rw [Armour.size, pemSize]
  omega

theorem exports_rsa {rsa : RsaContext} (h : rsa.IsPriv → Complete rsa) :
    Exports prim ⟨.rsa rsa⟩ ↔ Exportable (.rsa rsa) := by
  constructor
  · rintro ⟨⟨pem, hpem, -⟩, -⟩
    obtain ⟨buffer, hbuffer, -⟩ := pemData_eq_object.mp hpem
    obtain ⟨hpriv, hmax, hsize, -⟩ := (pkWriteKeyPem_rsa h).mp hbuffer
    rw [(h hpriv).length_der hpriv] at hmax hsize
    rw [bufferLength_rsa (h hpriv)] at hsize
    exact ⟨hpriv, hmax, hsize⟩
  · rintro ⟨hpriv, hmax, hsize⟩
    have hcomplete := h hpriv
    have hlength := hcomplete.length_der hpriv
    have hlen := hcomplete.length_le.2
    have hmaxBytes : prvDerMaxBytes ≤ 80000 := by decide
    have hwide := le_size rsaArmour rsa.derSize
    have hcontent := length_tlv sequence rsa.content
    rw [← RsaContext.der] at hcontent
    constructor
    · refine ⟨rsaArmour.text rsa.der, pemData_eq_object.mpr ⟨rsaArmour.text rsa.der ++ [0], ?_, ?_⟩,
        fun password => ?_⟩
      · rw [bufferLength_rsa hcomplete]
        exact (pkWriteKeyPem_rsa h).mpr ⟨hpriv, by omega, by rwa [hlength], rfl⟩
      · exact takeWhile_of_clean (text_clean (by simp [armours]))
      · exact keyWithPEM_text (by simp [armours]) fun pwd => pkParseKey_rsaText hcomplete hpriv (by omega) pwd
    · refine ⟨rsa.der, derData_eq_object.mpr ?_, fun password => keyWithDER_read fun pwd => ?_⟩
      · rw [bufferLength_rsa hcomplete]
        exact (pkWriteKeyDer_rsa h (by omega)).mpr ⟨hpriv, rfl, by omega⟩
      · rw [pkParseKey_of_not_taken (rsa_not_taken (by omega)), hcomplete.readDer hpriv (by omega)]
        rfl

theorem exports_eckey {ec : EcpKeypair} (h : ec.Valid) : Exports prim ⟨.eckey ec⟩ ↔ Exportable (.eckey ec) := by
  have hplen := plen_bounds ec.grp
  have hlength := ec.length_der
  constructor
  · rintro ⟨-, der, hder, hread⟩
    obtain ⟨hd, rfl, -⟩ :=
        (pkWriteKeyDer_eckey h (by rw [bufferLength_eckey]; omega)).mp (derData_eq_object.mp hder)
    refine ⟨hd, fun a ha htaken => ?_⟩
    obtain ⟨pwd, hpwd, hctx⟩ := keyWithDER_eq_object.mp (hread none nofun)
    obtain rfl := Except.ok.inj hpwd
    exact h.ne_of_taken hd ha htaken hctx
  · rintro ⟨hd, htaken⟩
    have hheader : (ecArmour.header ++ [newline]).length + (ecArmour.footer ++ [newline]).length = 60 := by decide
    have hmaxBytes : prvDerMaxBytes = 5679 := by decide
    constructor
    · refine ⟨ecArmour.text ec.der, pemData_eq_object.mpr ⟨ecArmour.text ec.der ++ [0], ?_, ?_⟩,
        fun password => ?_⟩
      · rw [bufferLength_eckey]
        exact (pkWriteKeyPem_eckey h).mpr ⟨hd, by omega, by rw [Armour.size, pemSize]; omega, rfl⟩
      · exact takeWhile_of_clean (text_clean (by simp [armours]))
      · exact keyWithPEM_text (by simp [armours]) fun pwd => pkParseKey_ecText h hd pwd
    · refine ⟨ec.der, derData_eq_object.mpr ?_, fun password => keyWithDER_read fun pwd => ?_⟩
      · rw [bufferLength_eckey]
        exact (pkWriteKeyDer_eckey h (by omega)).mpr ⟨hd, rfl, by omega⟩
      · rw [pkParseKey_of_not_taken htaken, h.readDer hd]
        rfl

/-- An imported key is exported, and comes back, exactly when its encoding fits the buffers and is
read as what it is. -/
theorem exports_iff_exportable (h : Imported prim key) : Exports prim key ↔ Exportable key.ctx := by
  obtain ⟨ctx⟩ := key
  have hvalid := h.valid
  cases ctx with
  | rsa rsa => exact exports_rsa hvalid
  | eckey ec => exact exports_eckey hvalid
  | eckeyDh ec =>
      refine ⟨fun hexports => ?_, False.elim⟩
      obtain ⟨-, der, hder, -⟩ := hexports
      cases derData_eq_object.mp hder

/-- No key is encrypted, no curve is given by its parameters, and no public part is missing. -/
def plainPrimitives : Primitives where
  pemDecrypt _ _ _ _ := .error .pemUnknownEncAlg
  pbeDecrypt _ _ _ _ := .error .pkFeatureUnavailable
  groupIdFromSpecified _ := .error .pkUnknownNamedCurve
  ecpMul _ _ := .error .ecpBadInputData
  ecpMul_checked _ _ _ := nofun

/-- The key with the primes 3 and 5. -/
def smallRsa : RsaContext where
  len := 1
  n := 15
  e := 3
  d := 3
  p := 3
  q := 5
  dp := 1
  dq := 3
  qp := 2

def smallKey : OpenVPNPrivateKey := ⟨.rsa smallRsa⟩

def smallDER : Bytes :=
  [0x30, 0x1B, 0x02, 0x01, 0x00, 0x02, 0x01, 0x0F, 0x02, 0x01, 0x03, 0x02, 0x01, 0x03, 0x02, 0x01,
   0x03, 0x02, 0x01, 0x05, 0x02, 0x01, 0x01, 0x02, 0x01, 0x03, 0x02, 0x01, 0x02]

theorem smallDER_imports : keyWithDER plainPrimitives smallDER none = .object smallKey := by decide +kernel

/-- The encoding has 29 bytes, the buffer 10. -/
theorem small_key_not_exported : keyWithDER plainPrimitives smallDER none = .object smallKey ∧
    smallKey.bufferLength = 10 ∧ smallRsa.der = smallDER ∧
    smallKey.pemData = .nil ⟨Failure.base64BufferTooSmall.code, "Failed to write PEM data"⟩ ∧
    smallKey.derData = .nil ⟨Failure.asn1BufTooSmall.code, "Failed to write DER data"⟩ ∧
    ¬ Exports plainPrimitives smallKey := by
  have hpem : smallKey.pemData = .nil ⟨Failure.base64BufferTooSmall.code, "Failed to write PEM data"⟩ := by
    decide +kernel
  refine ⟨smallDER_imports, rfl, by decide +kernel, hpem, by decide +kernel, ?_⟩
  rintro ⟨⟨pem, hobject, -⟩, -⟩
  rw [hpem] at hobject
  cases hobject

theorem exports_iff_exportable_small : Exports plainPrimitives smallKey ↔ Exportable smallKey.ctx :=
  exports_iff_exportable (.inr ⟨smallDER, none, smallDER_imports⟩)

end Export

end OpenVPNAdapter.Identity
