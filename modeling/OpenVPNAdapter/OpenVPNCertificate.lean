import OpenVPNAdapter.Identity
import OpenVPNAdapter.MbedTLS.X509Crt

namespace OpenVPNAdapter.Identity

open MbedTLS

/-- The chain that `crt` begins. -/
structure OpenVPNCertificate (δ : Type) where
  crt : List (X509Crt δ)
deriving DecidableEq, Repr

section Import

variable {δ : Type} (parseDetails : ParseDetails δ) (decrypt : PemDecrypt)

/-- A number of failed blocks is no reason to refuse. -/
def certificateWithPEM (pemData : Bytes) : Outcome (OpenVPNCertificate δ) :=
  outcome "Failed to read PEM data" <|
    (x509CrtParse parseDetails decrypt ((utf8String pemData).map (· ++ [0]))).map fun result => ⟨result.2⟩

def certificateWithDER (derData : Bytes) : Outcome (OpenVPNCertificate δ) :=
  outcome "Failed to read DER data" <|
    ((x509CrtParseDer parseDetails [] (bytes derData)).map OpenVPNCertificate.mk).mapError .failed

end Import

def certificateHeader : Bytes := beginCertificate ++ [newline]

def certificateFooter : Bytes := endCertificate ++ [newline]

namespace OpenVPNCertificate

variable {δ : Type} (certificate : OpenVPNCertificate δ)

/-- `crt->raw`, which is empty before a certificate is parsed. -/
def raw : Bytes := (certificate.crt.head?.map X509Crt.raw).getD []

def bufferLength : Nat := certificate.raw.length * 10 % 2 ^ 64

def pemData : Outcome Bytes :=
  let (outputLength, result) :=
    pemWriteBuffer certificateHeader certificateFooter certificate.raw certificate.bufferLength
  outcome "Failed to write PEM data" ((result.map fun buffer => buffer.take (outputLength - 1)).mapError .failed)

def derData : Outcome Bytes :=
  if certificate.raw = [] then .nil ⟨Failure.x509BadInputData.code, "Failed to write DER data"⟩
  else .object certificate.raw

end OpenVPNCertificate

section RoundTrip

variable {δ : Type} {parseDetails : ParseDetails δ} (decrypt : PemDecrypt)

theorem certificateWithDER_eq_object {derData : Bytes} {certificate : OpenVPNCertificate δ}
    (h : certificateWithDER parseDetails derData = .object certificate) :
    ∃ crt, certificate = ⟨[crt]⟩ ∧ x509CrtParseDerCore parseDetails derData = .ok crt := by
  rw [certificateWithDER, outcome_eq_object, bytes] at h
  split at h
  · cases h
  · rw [x509CrtParseDer] at h
    cases hcore : x509CrtParseDerCore parseDetails derData with
    | error failure => rw [hcore] at h; cases h
    | ok crt =>
        rw [hcore] at h
        exact ⟨crt, (Except.ok.inj h).symm, rfl⟩

/-- Ten bytes for each byte of the certificate hold its text and the terminator. -/
theorem pemData_eq {crt : X509Crt δ} (hlong : 8 ≤ crt.raw.length) (hshort : crt.raw.length < 2 ^ 33) :
    OpenVPNCertificate.pemData ⟨[crt]⟩ = .object (pemText certificateHeader certificateFooter crt.raw) ∧
      (pemText certificateHeader certificateFooter crt.raw).length + 1 ≤ OpenVPNCertificate.bufferLength
        ⟨[crt]⟩ := by
  have hheader : certificateHeader.length = 28 := rfl
  have hfooter : certificateFooter.length = 26 := rfl
  have hbuffer : OpenVPNCertificate.bufferLength ⟨[crt]⟩ = crt.raw.length * 10 :=
    Nat.mod_eq_of_lt (show crt.raw.length * 10 < 2 ^ 64 by omega)
  have hne : crt.raw ≠ [] := List.length_pos_iff.mp (by omega)
  have hwrite : pemWriteBuffer certificateHeader certificateFooter crt.raw (crt.raw.length * 10) = _ :=
    pemWriteBuffer_eq hne (by omega)
  rw [if_pos (by rw [pemSize, hheader, hfooter]; omega)] at hwrite
  constructor
  · rw [OpenVPNCertificate.pemData, hbuffer]
    simp only [OpenVPNCertificate.raw, List.head?_cons, Option.map_some, Option.getD_some, hwrite,
      Nat.add_sub_cancel, Except.map, List.take_left]
    rfl
  · rw [hbuffer, length_pemText, hheader, hfooter]
    omega

theorem certificateText_ascii (der : Bytes) : ∀ b ∈ pemText certificateHeader certificateFooter der, b ≤ 127 := by
  have hheader : certificateHeader.all (decide <| · ≤ 127) = true := by decide
  have hfooter : certificateFooter.all (decide <| · ≤ 127) = true := by decide
  exact pemText_ascii (fun b hb => of_decide_eq_true (List.all_eq_true.mp hheader b hb))
    fun b hb => of_decide_eq_true (List.all_eq_true.mp hfooter b hb)

/-- The text of an imported certificate fits its buffer and brings the certificate back. -/
theorem pem_round_trip {derData : Bytes} {certificate : OpenVPNCertificate δ}
    (h : certificateWithDER parseDetails derData = .object certificate) :
    certificate.derData = .object certificate.raw ∧ certificate.raw <+: derData ∧
      ∃ pem copy, certificate.pemData = .object pem ∧ pem.length + 1 ≤ certificate.bufferLength ∧
        certificateWithPEM parseDetails decrypt pem = .object copy ∧ copy.derData = certificate.derData := by
  obtain ⟨crt, rfl, hcore⟩ := certificateWithDER_eq_object h
  obtain ⟨hraw, hlong, hshort, hagain⟩ := x509CrtParseDerCore_eq_ok hcore
  have hne : crt.raw ≠ [] := List.length_pos_iff.mp (by omega)
  obtain ⟨hpem, hfits⟩ := pemData_eq hlong hshort
  refine ⟨if_neg hne, hraw, _, ⟨[crt]⟩, hpem, hfits, ?_, rfl⟩
  rw [certificateWithPEM, outcome_eq_object, utf8String_of_ascii (certificateText_ascii crt.raw)]
  simp only [Option.map_some, certificateHeader, certificateFooter]
  rw [x509CrtParse_pemText decrypt hne hagain]
  rfl

/-- A certificate with an RSA key of 128 bits. -/
def sampleDER : Bytes :=
  [0x30, 0x81, 0x83, 0x30, 0x6E, 0x02, 0x01, 0x01, 0x30, 0x0D, 0x06, 0x09, 0x2A, 0x86, 0x48, 0x86,
   0xF7, 0x0D, 0x01, 0x01, 0x0B, 0x05, 0x00, 0x30, 0x0C, 0x31, 0x0A, 0x30, 0x08, 0x06, 0x03, 0x55,
   0x04, 0x03, 0x0C, 0x01, 0x61, 0x30, 0x1E, 0x17, 0x0D, 0x32, 0x30, 0x30, 0x31, 0x30, 0x31, 0x30,
   0x30, 0x30, 0x30, 0x30, 0x30, 0x5A, 0x17, 0x0D, 0x33, 0x30, 0x30, 0x31, 0x30, 0x31, 0x30, 0x30,
   0x30, 0x30, 0x30, 0x30, 0x5A, 0x30, 0x00, 0x30, 0x2A, 0x30, 0x0D, 0x06, 0x09, 0x2A, 0x86, 0x48,
   0x86, 0xF7, 0x0D, 0x01, 0x01, 0x01, 0x05, 0x00, 0x03, 0x19, 0x00, 0x30, 0x16, 0x02, 0x11, 0x00,
   0xC0, 0x00, 0x00, 0x00, 0x00, 0x00, 0x00, 0x00, 0x00, 0x00, 0x00, 0x00, 0x00, 0x00, 0x00, 0x01,
   0x02, 0x01, 0x03, 0x30, 0x0D, 0x06, 0x09, 0x2A, 0x86, 0x48, 0x86, 0xF7, 0x0D, 0x01, 0x01, 0x0B,
   0x05, 0x00, 0x03, 0x02, 0x00, 0x01]

def sampleCrt : X509Crt Unit :=
  ⟨sampleDER, 1, ⟨0x02, [0x01]⟩, ⟨0x06, [0x2A, 0x86, 0x48, 0x86, 0xF7, 0x0D, 0x01, 0x01, 0x0B]⟩, ()⟩

set_option maxRecDepth 4000 in
theorem sampleDER_imports : certificateWithDER (fun _ _ _ _ _ => .ok ()) sampleDER = .object ⟨[sampleCrt]⟩ := by
  rfl

theorem pem_round_trip_sample :
    OpenVPNCertificate.derData ⟨[sampleCrt]⟩ = .object sampleDER ∧ sampleDER <+: sampleDER ∧
      ∃ pem copy, OpenVPNCertificate.pemData ⟨[sampleCrt]⟩ = .object pem ∧
        pem.length + 1 ≤ OpenVPNCertificate.bufferLength ⟨[sampleCrt]⟩ ∧
        certificateWithPEM (fun _ _ _ _ _ => .ok ()) (fun _ _ _ buf => .ok buf) pem = .object copy ∧
          copy.derData = OpenVPNCertificate.derData ⟨[sampleCrt]⟩ :=
  pem_round_trip (fun _ _ _ buf => .ok buf) sampleDER_imports

end RoundTrip

end OpenVPNAdapter.Identity
