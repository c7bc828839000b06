import Mathlib.Data.Int.GCD
import OpenVPNAdapter.Library.BigEndian
import OpenVPNAdapter.MbedTLS.Asn1Parse

namespace OpenVPNAdapter.MbedTLS

open Library.BigEndian

/-! An `mbedtls_mpi` here is never negative: the ones that are imported and exported have no sign. -/

/-- `MBEDTLS_MPI_MAX_LIMBS`, of eight bytes each. -/
def mpiMaxLimbs : Nat := 10000

/-- `MBEDTLS_MPI_MAX_SIZE`. -/
def mpiMaxSize : Nat := 1024

def mpiReadBinary (buf : Bytes) : Except Failure Nat :=
  if (buf.length + 7) / 8 > mpiMaxLimbs then .error .mpiAllocFailed else .ok (value buf)

def mpiWriteBinary (x buflen : Nat) : Except Failure Bytes :=
  if x < 256 ^ buflen then .ok (digits buflen x) else .error .mpiBufferTooSmall

/-- `mbedtls_mpi_sub_int( &K, b, 1 )` and `mbedtls_mpi_mod_mpi( x, a, &K )`. -/
def mpiModPred (a b : Nat) : Except Failure Nat :=
  if b = 0 then .error .mpiNegativeValue
  else if b = 1 then .error .mpiDivisionByZero
  else .ok (a % (b - 1))

/-- `mbedtls_mpi_inv_mod`: the inverse between zero and `n`. -/
def mpiInvMod (a n : Nat) : Except Failure Nat :=
  if n ≤ 1 then .error .mpiBadInputData
  else if Nat.gcd a n ≠ 1 then .error .mpiNotAcceptable
  else .ok (Nat.gcdA a n % n).toNat

def asn1GetMpi (p : Bytes) : Except Failure (Nat × Bytes) := do
  let (len, p) ← asn1GetTag asn1Integer p
  let x ← mpiReadBinary (p.take len)
  .ok (x, p.drop len)

theorem mpiReadBinary_of_le {buf : Bytes} (h : buf.length ≤ 80000) : mpiReadBinary buf = .ok (value buf) :=
  if_neg (by rw [mpiMaxLimbs]; omega)

end OpenVPNAdapter.MbedTLS
