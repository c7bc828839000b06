import OpenVPNAdapter.MbedTLS.Bignum

namespace OpenVPNAdapter.MbedTLS

open Library.BigEndian

/-- `mbedtls_rsa_context`, less what padding and blinding need; zero is a parameter that is not set. -/
structure RsaContext where
  len : Nat
  n : Nat
  e : Nat
  d : Nat
  p : Nat
  q : Nat
  dp : Nat
  dq : Nat
  qp : Nat
deriving DecidableEq, Repr

/-- After `mbedtls_rsa_import_raw` of the five core parameters. -/
def rsaImportRaw (n p q d e : Nat) : RsaContext := ⟨byteLength n, n, e, d, p, q, 0, 0, 0⟩

def rsaCheckContext (ctx : RsaContext) (isPriv : Bool) : Except Failure Unit :=
  if ctx.len ≠ byteLength ctx.n ∨ ctx.len > mpiMaxSize then .error .rsaBadInputData
  else if ctx.n = 0 ∨ ctx.n % 2 = 0 then .error .rsaBadInputData
  else if isPriv ∧ (ctx.p = 0 ∨ ctx.p % 2 = 0 ∨ ctx.q = 0 ∨ ctx.q % 2 = 0) then .error .rsaBadInputData
  else if ctx.e = 0 then .error .rsaBadInputData
  else if isPriv ∧ (ctx.dp = 0 ∨ ctx.dq = 0) then .error .rsaBadInputData
  else if isPriv ∧ ctx.qp = 0 then .error .rsaBadInputData
  else .ok ()

def rsaDeducePrivateExponent (p q e : Nat) : Except Failure Nat :=
  if p ≤ 1 ∨ q ≤ 1 ∨ e = 0 then .error .mpiBadInputData
  else mpiInvMod e ((p - 1) * (q - 1) / Nat.gcd (p - 1) (q - 1))

/-- `DP`, `DQ` and `QP`. -/
def rsaDeduceCrt (p q d : Nat) : Except Failure (Nat × Nat × Nat) := do
  let dp ← mpiModPred d p
  let dq ← mpiModPred d q
  let qp ← mpiInvMod q p
  .ok (dp, dq, qp)

/-- The second step of `mbedtls_rsa_complete`. A number that has been read has its limbs, zero or
not, and `mbedtls_rsa_deduce_primes` refuses a `P` or `Q` that has any. -/
def rsaDeduceCore (pqMissing dMissing : Bool) (ctx : RsaContext) : Except Failure RsaContext :=
  if pqMissing then .error (.rsaBadInputData + .mpiBadInputData)
  else if dMissing then do
    let d ← (rsaDeducePrivateExponent ctx.p ctx.q ctx.e).mapError (.rsaBadInputData + ·)
    .ok { ctx with d := d }
  else .ok ctx

def rsaDeduceRest (isPriv : Bool) (ctx : RsaContext) : Except Failure RsaContext :=
  if isPriv then do
    let (dp, dq, qp) ← (rsaDeduceCrt ctx.p ctx.q ctx.d).mapError (.rsaBadInputData + ·)
    .ok { ctx with dp := dp, dq := dq, qp := qp }
  else .ok ctx

def rsaComplete (ctx : RsaContext) : Except Failure RsaContext :=
  let haveN := ctx.n != 0
  let haveP := ctx.p != 0
  let haveQ := ctx.q != 0
  let haveD := ctx.d != 0
  let haveE := ctx.e != 0
  let nMissing := haveP && haveQ && haveD && haveE
  let pqMissing := haveN && !haveP && !haveQ && haveD && haveE
  let dMissing := haveP && haveQ && !haveD && haveE
  let isPub := haveN && !haveP && !haveQ && !haveD && haveE
  let isPriv := nMissing || pqMissing || dMissing
  if !isPriv && !isPub then .error .rsaBadInputData
  else do
    let ctx ← rsaDeduceCore pqMissing dMissing <|
      if !haveN && haveP && haveQ then { ctx with n := ctx.p * ctx.q, len := byteLength (ctx.p * ctx.q) } else ctx
    let ctx ← rsaDeduceRest isPriv ctx
    rsaCheckContext ctx isPriv
    .ok ctx

/-- `is_priv` of the functions that export. -/
def RsaContext.IsPriv (ctx : RsaContext) : Prop := ctx.n ≠ 0 ∧ ctx.p ≠ 0 ∧ ctx.q ≠ 0 ∧ ctx.d ≠ 0 ∧ ctx.e ≠ 0

instance (ctx : RsaContext) : Decidable ctx.IsPriv := inferInstanceAs (Decidable (_ ∧ _))

/-- `mbedtls_rsa_export` of one parameter; the public ones are there without `is_priv`. -/
def rsaExport (ctx : RsaContext) (isPublic : Bool) (x : Nat) : Except Failure Nat :=
  if ¬ ctx.IsPriv ∧ ¬ isPublic then .error .rsaBadInputData else .ok x

def rsaExportCrt (ctx : RsaContext) (x : Nat) : Except Failure Nat :=
  if ctx.IsPriv then .ok x else .error .rsaBadInputData

/-- What a private key that is complete satisfies. -/
structure Complete (ctx : RsaContext) : Prop where
  checked : rsaCheckContext ctx true = .ok ()
  deduced : rsaDeduceCrt ctx.p ctx.q ctx.d = .ok (ctx.dp, ctx.dq, ctx.qp)

theorem rsaDeduceRest_eq_ok {ctx key : RsaContext} (h : rsaDeduceRest true ctx = .ok key)
    (hcheck : rsaCheckContext key true = .ok ()) : Complete key := by
  obtain ⟨⟨dp, dq, qp⟩, hcrt, hkey⟩ := bind_eq_ok.mp h
  obtain rfl := Except.ok.inj hkey
  exact ⟨hcheck, mapError_eq_ok.mp hcrt⟩

theorem rsaComplete_eq_ok {ctx key : RsaContext} (h : rsaComplete ctx = .ok key) (hpriv : key.IsPriv) :
    Complete key := by
  simp only [rsaComplete] at h
  split at h
  · cases h
  · rename_i hkind
    obtain ⟨core, hcore, hafterCore⟩ := bind_eq_ok.mp h
    obtain ⟨key', hrest, hafterRest⟩ := bind_eq_ok.mp hafterCore
    obtain ⟨_, hcheck, hkey⟩ := bind_eq_ok.mp hafterRest
    obtain rfl := Except.ok.inj hkey
    by_cases hp : ctx.p = 0
    · -- a public key, or one whose primes are to be found
      simp only [hp, bne_self_eq_false, Bool.false_and, Bool.and_false, Bool.false_or, Bool.or_false,
        Bool.not_false, Bool.and_true, rsaDeduceCore] at hcore hrest
      split at hcore
      · cases hcore
      · rename_i hmissing
        rw [if_neg Bool.false_ne_true] at hcore
        obtain rfl := Except.ok.inj hcore
        rw [rsaDeduceRest, if_neg hmissing] at hrest
        obtain rfl := Except.ok.inj hrest
        exact absurd hp hpriv.2.1
    · have hnot : ctx.p != 0 := bne_iff_ne.mpr hp
      simp only [hnot, Bool.not_true, Bool.and_false, Bool.false_and, Bool.or_false,
          Bool.not_or] at hkind hrest hcheck
      have hisPriv :
          (true && ctx.q != 0 && ctx.d != 0 && ctx.e != 0 || true && ctx.q != 0 && !ctx.d != 0 && ctx.e != 0) =
          true := by
        revert hkind
        cases ctx.q != 0 <;> cases ctx.d != 0 <;> cases ctx.e != 0 <;> decide
      rw [hisPriv] at hrest hcheck
      exact rsaDeduceRest_eq_ok hrest hcheck

theorem Complete.length_le {key : RsaContext} (h : Complete key) :
    key.len = byteLength key.n ∧ key.len ≤ 1024 := by
  have hchecked := h.checked
  rw [rsaCheckContext] at hchecked
  split at hchecked
  · cases hchecked
  · rename_i hlen
    rw [mpiMaxSize] at hlen
    omega

/-- A complete key is what its core parameters complete to. -/
theorem Complete.complete_again {key : RsaContext} (h : Complete key) (hpriv : key.IsPriv) :
    rsaComplete (rsaImportRaw key.n key.p key.q key.d key.e) = .ok key := by
  obtain ⟨hn, hp, hq, hd, he⟩ := hpriv
  have hlen := h.length_le.1
  simp only [rsaComplete, rsaImportRaw, bne_iff_ne.mpr hn, bne_iff_ne.mpr hp, bne_iff_ne.mpr hq, bne_iff_ne.mpr hd,
    bne_iff_ne.mpr he]
  rw [if_neg (by decide)]
  refine bind_eq_ok.mpr ⟨_, rfl, bind_eq_ok.mpr ⟨key, ?_, bind_eq_ok.mpr ⟨(), h.checked, rfl⟩⟩⟩
  refine bind_eq_ok.mpr ⟨_, mapError_eq_ok.mpr h.deduced, ?_⟩
  change Except.ok { key with len := byteLength key.n } = Except.ok key
  rw [← hlen]

/-- All that is written of a private key is positive. -/
theorem Complete.positive {key : RsaContext} (h : Complete key) : 0 < key.dp ∧ 0 < key.dq ∧ 0 < key.qp := by
  have hchecked := h.checked
  rw [rsaCheckContext] at hchecked
  split_ifs at hchecked with _ _ _ _ hexponents hcoefficient
  simp only [true_and] at hexponents hcoefficient
  omega

end OpenVPNAdapter.MbedTLS
