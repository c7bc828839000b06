import OpenVPNAdapter.MbedTLS.Asn1Parse
import OpenVPNAdapter.MbedTLS.Pem

namespace OpenVPNAdapter.MbedTLS

open Library.Substring

/-- `mbedtls_x509_crt`; `details` are the fields behind the signature algorithm. -/
structure X509Crt (δ : Type) where
  raw : Bytes
  version : Nat
  serial : Asn1Buf
  sigOid : Asn1Buf
  details : δ
deriving DecidableEq, Repr

/-- What `x509_crt_parse_der_core` does from `mbedtls_x509_get_sig_alg` on, given the version, the
algorithm and its parameters, what is left of the `TBSCertificate`, and what is behind it. -/
abbrev ParseDetails (δ : Type) := Nat → Asn1Buf → Asn1Buf → Bytes → Bytes → Except Failure δ

def x509GetVersion (p : Bytes) : Except Failure (Nat × Bytes) :=
  match asn1GetTag (asn1ContextSpecific ||| asn1Constructed ||| 0) p with
  | .error failure => if failure = .asn1UnexpectedTag then .ok (0, p) else .error (.x509InvalidFormat + failure)
  | .ok (len, q) => do
      let (ver, r) ← (asn1GetInt (q.take len)).mapError (.x509InvalidVersion + ·)
      if r ≠ [] then .error (.x509InvalidVersion + .asn1LengthMismatch) else .ok (ver, q.drop len)

def x509GetSerial : Bytes → Except Failure (Asn1Buf × Bytes)
  | [] => .error (.x509InvalidSerial + .asn1OutOfData)
  | tag :: p =>
      if tag ≠ (asn1ContextSpecific ||| 2) ∧ tag ≠ asn1Integer then
        .error (.x509InvalidSerial + .asn1UnexpectedTag)
      else do
        let (len, q) ← (asn1GetLen p).mapError (.x509InvalidSerial + ·)
        .ok (⟨tag, q.take len⟩, q.drop len)

def x509GetAlg (p : Bytes) : Except Failure (Asn1Buf × Asn1Buf × Bytes) :=
  (asn1GetAlg p).mapError (.x509InvalidAlg + ·)

section Parser

variable {δ : Type} (parseDetails : ParseDetails δ)

/-- The fields of the certificate whose bytes are `raw`, of which `p` is the content. -/
def x509CrtParseContent (raw p : Bytes) : Except Failure (X509Crt δ) := do
  let (len, p) ← (asn1GetTag (asn1Constructed ||| asn1Sequence) p).mapError (.x509InvalidFormat + ·)
  let (version, tbs) ← x509GetVersion (p.take len)
  let (serial, tbs) ← x509GetSerial tbs
  let (sigOid, sigParams, tbs) ← x509GetAlg tbs
  if version > 2 then .error .x509UnknownVersion
  else do
    let details ← parseDetails (version + 1) sigOid sigParams tbs (p.drop len)
    .ok ⟨raw, version + 1, serial, sigOid, details⟩

/-- Allocations are taken to succeed. -/
def x509CrtParseDerCore (buf : Bytes) : Except Failure (X509Crt δ) :=
  match asn1GetTag (asn1Constructed ||| asn1Sequence) buf with
  | .error _ => .error .x509InvalidFormat
  | .ok (len, p) =>
      if len > p.length then .error (.x509InvalidFormat + .asn1LengthMismatch)
      else x509CrtParseContent parseDetails (buf.take (buf.length - p.length + len)) (p.take len)

/-- A chain is the list of its certificates, empty while the first has version zero. -/
def x509CrtParseDer (chain : List (X509Crt δ)) (buf : Option Bytes) : Except Failure (List (X509Crt δ)) :=
  match buf with
  | none => .error .x509BadInputData
  | some buf => (x509CrtParseDerCore parseDetails buf).map fun crt => chain ++ [crt]

def beginCertificate : Bytes := ascii
  ['-', '-', '-', '-', '-', 'B', 'E', 'G', 'I', 'N', ' ',
   'C', 'E', 'R', 'T', 'I', 'F', 'I', 'C', 'A', 'T', 'E', '-', '-', '-', '-', '-']

def endCertificate : Bytes := ascii
  ['-', '-', '-', '-', '-', 'E', 'N', 'D', ' ',
   'C', 'E', 'R', 'T', 'I', 'F', 'I', 'C', 'A', 'T', 'E', '-', '-', '-', '-', '-']

/-- The variables of the loop over the blocks of a text. -/
structure ParseState (δ : Type) where
  chain : List (X509Crt δ)
  success : Bool
  firstError : Option Failure
  totalFailed : Nat
deriving Repr

def ParseState.fail (st : ParseState δ) (failure : Failure) : ParseState δ :=
  { st with firstError := st.firstError.or (some failure), totalFailed := st.totalFailed + 1 }

variable (decrypt : PemDecrypt)

def readCertificate (buf : Bytes) : Option Nat × Except Stop Bytes :=
  pemReadBuffer decrypt beginCertificate endCertificate buf none

/-- The loop of `mbedtls_x509_crt_parse`; `buf` are the bytes not used yet, with the terminator. -/
def x509CrtParseLoop (st : ParseState δ) (buf : Bytes) : Except Stop (ParseState δ) :=
  if buf.length ≤ 1 then .ok st
  else match _ : readCertificate decrypt buf with
    | (useLen, .ok der) => match x509CrtParseDer parseDetails st.chain (some der) with
      | .ok chain => x509CrtParseLoop { st with chain := chain, success := true } (buf.drop (useLen.getD 0))
      | .error failure =>
          if failure = .x509AllocFailed then .error (.failed failure)
          else x509CrtParseLoop (st.fail failure) (buf.drop (useLen.getD 0))
    | (useLen, .error (.failed failure)) =>
        if failure = .pemBadInputData then .error (.failed failure)
        else if failure = .pemNoHeaderFooterPresent then .ok st
        else x509CrtParseLoop (st.fail failure) (buf.drop (useLen.getD 0))
    | (_, .error .fault) => .error .fault
termination_by buf.length
decreasing_by
  all_goals
    have hpos := useLen_pos ‹readCertificate decrypt buf = _› (by simp_all)
    simp only [List.length_drop]
    omega

/-- The number of blocks that failed, and the chain; `buf` has the length that is passed with it. -/
def x509CrtParse (buf : Option Bytes) : Except Stop (Nat × List (X509Crt δ)) :=
  match buf with
  | none => .error (.failed .x509BadInputData)
  | some buf =>
      let parseDer :=
          ((x509CrtParseDer parseDetails [] (some buf)).map fun chain => (0, chain)).mapError Stop.failed
      if buf.getLast? ≠ some 0 then parseDer
      else match cString buf with
        | none => .error .fault
        | some text =>
            if firstIndex beginCertificate text = none then parseDer
            else match x509CrtParseLoop parseDetails decrypt ⟨[], false, none, 0⟩ buf with
              | .error stop => .error stop
              | .ok st =>
                  if st.success then .ok (st.totalFailed, st.chain)
                  else .error (.failed (st.firstError.getD .x509CertUnknownFormat))

variable {parseDetails}

theorem x509GetSerial_length {p rest : Bytes} {serial : Asn1Buf} (h : x509GetSerial p = .ok (serial, rest)) :
    rest.length + 2 ≤ p.length := by
  cases p with
  | nil => cases h
  | cons tag p =>
      rw [x509GetSerial] at h
      split at h
      · cases h
      · obtain ⟨⟨len, q⟩, hlen, hrest⟩ := bind_eq_ok.mp h
        obtain ⟨hle, header, rfl, hheader, -⟩ := asn1GetLen_eq_ok (mapError_eq_ok.mp hlen)
        obtain ⟨-, rfl⟩ := Prod.mk.inj (Except.ok.inj hrest)
        simp only [List.length_cons, List.length_append, List.length_drop]
        omega

theorem x509GetAlg_length {p : Bytes} {r : Asn1Buf × Asn1Buf × Bytes} (h : x509GetAlg p = .ok r) :
    2 ≤ p.length := by
  obtain ⟨⟨len, q⟩, htag, -⟩ := bind_eq_ok.mp (mapError_eq_ok.mp h)
  obtain ⟨-, header, rfl, hheader, -⟩ := asn1GetTag_eq_ok htag
  simp only [List.length_cons, List.length_append]
  omega

theorem x509GetVersion_length {p rest : Bytes} {version : Nat} (h : x509GetVersion p = .ok (version, rest)) :
    rest.length ≤ p.length := by
  rw [x509GetVersion] at h
  split at h
  · split at h
    · obtain ⟨-, rfl⟩ := Prod.mk.inj (Except.ok.inj h)
      exact le_rfl
    · cases h
  · rename_i len q htag
    obtain ⟨-, header, rfl, -, -⟩ := asn1GetTag_eq_ok htag
    obtain ⟨⟨ver, r⟩, -, hrest⟩ := bind_eq_ok.mp h
    simp only at hrest
    split at hrest
    · cases hrest
    · obtain ⟨-, rfl⟩ := Prod.mk.inj (Except.ok.inj hrest)
      simp only [List.length_cons, List.length_append, List.length_drop]
      omega

/-- A certificate has a header for the `TBSCertificate`, a serial number and an algorithm at least. -/
theorem x509CrtParseContent_eq_ok {raw p : Bytes} {crt : X509Crt δ}
    (h : x509CrtParseContent parseDetails raw p = .ok crt) : crt.raw = raw ∧ 6 ≤ p.length := by
  obtain ⟨⟨len, q⟩, htag, hafterTag⟩ := bind_eq_ok.mp h
  obtain ⟨⟨version, tbs1⟩, hversion, hafterVersion⟩ := bind_eq_ok.mp hafterTag
  obtain ⟨⟨serial, tbs2⟩, hserial, hafterSerial⟩ := bind_eq_ok.mp hafterVersion
  obtain ⟨⟨sigOid, sigParams, tbs3⟩, halg, hafterAlg⟩ := bind_eq_ok.mp hafterSerial
  obtain ⟨hle, header, rfl, hheader, -⟩ := asn1GetTag_eq_ok (mapError_eq_ok.mp htag)
  have h1 := x509GetVersion_length hversion
  have h2 := x509GetSerial_length hserial
  have h3 := x509GetAlg_length halg
  rw [List.length_take] at h1
  simp only at hafterAlg
  split at hafterAlg
  · cases hafterAlg
  · obtain ⟨details, -, hcrt⟩ := bind_eq_ok.mp hafterAlg
    obtain rfl := Except.ok.inj hcrt
    refine ⟨rfl, ?_⟩
    simp only [List.length_cons, List.length_append]
    omega

/-- The bytes of a parsed certificate begin the input, and parse to the same certificate again. -/
theorem x509CrtParseDerCore_eq_ok {buf : Bytes} {crt : X509Crt δ}
    (h : x509CrtParseDerCore parseDetails buf = .ok crt) :
    crt.raw <+: buf ∧ 8 ≤ crt.raw.length ∧ crt.raw.length < 2 ^ 33 ∧
      x509CrtParseDerCore parseDetails crt.raw = .ok crt := by
  rw [x509CrtParseDerCore] at h
  split at h
  · cases h
  · rename_i len p htag
    obtain ⟨hle, header, rfl, hheader, hspells⟩ := asn1GetTag_eq_ok htag
    rw [if_neg (by omega)] at h
    have hraw : ((asn1Constructed ||| asn1Sequence) :: (header ++ p)).take
        (((asn1Constructed ||| asn1Sequence) :: (header ++ p)).length - p.length + len) =
        (asn1Constructed ||| asn1Sequence) :: (header ++ p.take len) := by
      have hn : ((asn1Constructed ||| asn1Sequence) :: (header ++ p)).length - p.length + len =
          (header.length + len) + 1 := by
        simp only [List.length_cons, List.length_append]
        omega
      rw [hn, List.take_succ_cons, List.take_length_add_append]
    rw [hraw] at h
    obtain ⟨hcrt, hlen⟩ := x509CrtParseContent_eq_ok h
    have htake : (p.take len).length = len := List.length_take_of_le hle
    rw [hcrt]
    refine ⟨?_, ?_, ?_, ?_⟩
    · exact List.cons_prefix_cons.mpr ⟨rfl, (List.prefix_append_right_inj header).mpr (List.take_prefix len p)⟩
    · simp only [List.length_cons, List.length_append]
      omega
    · have := hspells.bounded
      have := hspells.short
      simp only [List.length_cons, List.length_append]
      omega
    · rw [x509CrtParseDerCore, hspells.getTag _ htake.ge]
      simp only
      rw [if_neg (by omega), List.take_of_length_le (l := _ :: _)
        (by simp only [List.length_cons, List.length_append]; omega),
        List.take_take, Nat.min_self]
      exact h

theorem certificateBoundaries : Boundaries beginCertificate endCertificate where
  header_clean := by decide
  footer_clean := by decide
  footer_dash := rfl
  apart := by decide

/-- A text of one block, which is what is written of a certificate. -/
theorem x509CrtParse_pemText {der : Bytes} {crt : X509Crt δ} (hder : der ≠ [])
    (h : x509CrtParseDerCore parseDetails der = .ok crt) :
    x509CrtParse parseDetails decrypt
      (some (pemText (beginCertificate ++ [newline]) (endCertificate ++ [newline]) der ++ [0])) = .ok
      (0, [crt]) := by
  have hclean : 0 ∉ pemText (beginCertificate ++ [newline]) (endCertificate ++ [newline]) der :=
    zero_notMem_pemText (by decide) (by decide)
  have hfirst : firstIndex beginCertificate
      (pemText (beginCertificate ++ [newline]) (endCertificate ++ [newline]) der) = some 0 :=
    firstIndex_of_prefix (by simp [pemText])
  have hread := pemReadBuffer_pemText certificateBoundaries decrypt none hder
  have hlen : 1 < (pemText (beginCertificate ++ [newline]) (endCertificate ++ [newline]) der ++ [0]).length := by
    rw [List.length_append, length_pemText]
    simp only [List.length_append, List.length_singleton]
    omega
  have hloop : x509CrtParseLoop parseDetails decrypt ⟨[], false, none, 0⟩
      (pemText (beginCertificate ++ [newline]) (endCertificate ++ [newline]) der ++ [0]) =
        .ok ⟨[crt], true, none, 0⟩ := by
    rw [x509CrtParseLoop, if_neg (by omega), readCertificate, hread]
    simp only [x509CrtParseDer, h, Except.map, List.nil_append, Option.getD_some, List.drop_left]
    rw [x509CrtParseLoop, if_pos (by decide)]
  simp only [x509CrtParse, cString_concat hclean, hfirst, hloop, List.getLast?_concat]
  rfl

end Parser

end OpenVPNAdapter.MbedTLS
