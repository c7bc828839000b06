import Mathlib.Algebra.Group.Int.Defs
import Mathlib.Algebra.Group.Nat.Defs

namespace OpenVPNAdapter.MbedTLS

/-- An error code: what a function returns in place of zero or a length. -/
structure Failure where
  code : Int
  negative : code < 0
deriving DecidableEq, Repr

/-- A code of an outer module on top of that of an inner one. -/
instance : Add Failure := ⟨fun e f => ⟨e.code + f.code, Int.add_neg e.negative f.negative⟩⟩

namespace Failure

def mpiBadInputData : Failure := ⟨-0x0004, by decide⟩
def mpiBufferTooSmall : Failure := ⟨-0x0008, by decide⟩
def mpiNegativeValue : Failure := ⟨-0x000A, by decide⟩
def mpiDivisionByZero : Failure := ⟨-0x000C, by decide⟩
def mpiNotAcceptable : Failure := ⟨-0x000E, by decide⟩
def mpiAllocFailed : Failure := ⟨-0x0010, by decide⟩
def base64BufferTooSmall : Failure := ⟨-0x002A, by decide⟩
def base64InvalidCharacter : Failure := ⟨-0x002C, by decide⟩
def asn1OutOfData : Failure := ⟨-0x0060, by decide⟩
def asn1UnexpectedTag : Failure := ⟨-0x0062, by decide⟩
def asn1InvalidLength : Failure := ⟨-0x0064, by decide⟩
def asn1LengthMismatch : Failure := ⟨-0x0066, by decide⟩
def asn1InvalidData : Failure := ⟨-0x0068, by decide⟩
def asn1BufTooSmall : Failure := ⟨-0x006C, by decide⟩
def pemNoHeaderFooterPresent : Failure := ⟨-0x1080, by decide⟩
def pemInvalidData : Failure := ⟨-0x1100, by decide⟩
def pemInvalidEncIv : Failure := ⟨-0x1200, by decide⟩
def pemUnknownEncAlg : Failure := ⟨-0x1280, by decide⟩
def pemPasswordRequired : Failure := ⟨-0x1300, by decide⟩
def pemPasswordMismatch : Failure := ⟨-0x1380, by decide⟩
def pemBadInputData : Failure := ⟨-0x1480, by decide⟩
def x509InvalidFormat : Failure := ⟨-0x2180, by decide⟩
def x509InvalidVersion : Failure := ⟨-0x2200, by decide⟩
def x509InvalidSerial : Failure := ⟨-0x2280, by decide⟩
def x509InvalidAlg : Failure := ⟨-0x2300, by decide⟩
def x509UnknownVersion : Failure := ⟨-0x2580, by decide⟩
def x509CertUnknownFormat : Failure := ⟨-0x2780, by decide⟩
def x509BadInputData : Failure := ⟨-0x2800, by decide⟩
def x509AllocFailed : Failure := ⟨-0x2880, by decide⟩
def pkFeatureUnavailable : Failure := ⟨-0x3980, by decide⟩
def pkUnknownNamedCurve : Failure := ⟨-0x3A00, by decide⟩
def pkInvalidAlg : Failure := ⟨-0x3A80, by decide⟩
def pkPasswordMismatch : Failure := ⟨-0x3B80, by decide⟩
def pkPasswordRequired : Failure := ⟨-0x3C00, by decide⟩
def pkUnknownPkAlg : Failure := ⟨-0x3C80, by decide⟩
def pkKeyInvalidFormat : Failure := ⟨-0x3D00, by decide⟩
def pkKeyInvalidVersion : Failure := ⟨-0x3D80, by decide⟩
def rsaBadInputData : Failure := ⟨-0x4080, by decide⟩
def ecpBufferTooSmall : Failure := ⟨-0x4F00, by decide⟩
def ecpInvalidKey : Failure := ⟨-0x4C80, by decide⟩
def ecpFeatureUnavailable : Failure := ⟨-0x4E80, by decide⟩
def ecpBadInputData : Failure := ⟨-0x4F80, by decide⟩

end Failure

/-- What ends a call early: an error code, or a read through a null pointer or past the end of
a string that has no terminator. -/
inductive Stop
  | failed (failure : Failure)
  | fault
deriving DecidableEq, Repr

abbrev Bytes := List UInt8

/-- The bytes of a character constant or string literal of the source. -/
def ascii (cs : List Char) : Bytes := cs.map fun c => UInt8.ofNat c.toNat

/-- What a C string function sees of a buffer. -/
def cString (buf : Bytes) : Option Bytes := if 0 ∈ buf then some (buf.takeWhile (· ≠ 0)) else none

theorem cString_concat {s : Bytes} (h : 0 ∉ s) (rest : Bytes) : cString (s ++ 0 :: rest) = some s := by
  rw [cString, if_pos (by simp), List.takeWhile_append_of_pos]
  · simp
  · exact fun b hb => decide_eq_true fun hz => h (hz ▸ hb)

/-- A string ends at the first zero. -/
theorem length_cString_le {pre rest text : Bytes} (h : cString (pre ++ 0 :: rest) = some text) :
    text.length ≤ pre.length := by
  rw [cString, if_pos (by simp)] at h
  obtain rfl := Option.some.inj h
  clear h
  induction pre with
  | nil => exact Nat.zero_le _
  | cons b pre ih =>
      rw [List.cons_append, List.takeWhile_cons, List.length_cons]
      split
      · exact Nat.succ_le_succ ih
      · exact Nat.zero_le _

theorem bind_eq_ok {ε α β : Type} {x : Except ε α} {f : α → Except ε β} {b : β} :
    (x >>= f) = .ok b ↔ ∃ a, x = .ok a ∧ f a = .ok b := by
  cases x with
  | error failure => exact ⟨nofun, fun ⟨_, h, _⟩ => nomatch h⟩
  | ok a => exact ⟨fun h => ⟨a, rfl, h⟩, fun ⟨_, h, hf⟩ => Except.ok.inj h ▸ hf⟩

theorem bind_eq_error {ε α β : Type} {x : Except ε α} {f : α → Except ε β} {e : ε} :
    (x >>= f) = .error e ↔ x = .error e ∨ ∃ a, x = .ok a ∧ f a = .error e := by
  cases x with
  | error e' => exact ⟨fun h => .inl (congrArg Except.error (Except.error.inj h)), fun h => h.elim (fun h =>
      congrArg Except.error (Except.error.inj h)) fun ⟨_, h, _⟩ => nomatch h⟩
  | ok a => exact ⟨fun h => .inr ⟨a, rfl, h⟩, fun h => h.elim nofun fun ⟨_, h, hf⟩ => Except.ok.inj h ▸ hf⟩

theorem mapError_eq_ok {ε ζ α : Type} {x : Except ε α} {f : ε → ζ} {a : α} :
    x.mapError f = .ok a ↔ x = .ok a := by
  cases x with
  | error failure => exact ⟨nofun, nofun⟩
  | ok b => exact ⟨fun h => congrArg Except.ok (Except.ok.inj h), fun h => congrArg Except.ok (Except.ok.inj h)⟩

theorem map_eq_ok {ε α β : Type} {x : Except ε α} {f : α → β} {b : β} :
    x.map f = .ok b ↔ ∃ a, x = .ok a ∧ f a = b := by
  cases x with
  | error e => exact ⟨nofun, fun ⟨_, h, _⟩ => nomatch h⟩
  | ok a => exact ⟨fun h => ⟨a, rfl, Except.ok.inj h⟩, fun ⟨_, h, hf⟩ => by rw [← hf, ← Except.ok.inj h]; rfl⟩

theorem map_eq_error {ε α β : Type} {x : Except ε α} {f : α → β} {e : ε} : x.map f = .error e ↔ x = .error e := by
  cases x with
  | error e' =>
      exact ⟨fun h => congrArg Except.error (Except.error.inj h),
          fun h => congrArg Except.error (Except.error.inj h)⟩
  | ok a => exact ⟨nofun, nofun⟩

end OpenVPNAdapter.MbedTLS
