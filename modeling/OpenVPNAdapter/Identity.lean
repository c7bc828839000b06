import OpenVPNAdapter.MbedTLS.Failure

namespace OpenVPNAdapter.Identity

open MbedTLS

/-- `ovpn_errorObjectForMbedTLSError:description:`, less the text that the code stands for. -/
structure NSError where
  code : Int
  localizedDescription : String
deriving DecidableEq, Repr

/-- What a method with an error argument comes to: an object, nil with the error set, or a fault. -/
inductive Outcome (α : Type)
  | object (object : α)
  | nil (error : NSError)
  | fault
deriving DecidableEq, Repr

/-- `result < 0` holds of the error codes alone. -/
def outcome {α : Type} (description : String) : Except Stop α → Outcome α
  | .ok object => .object object
  | .error (.failed failure) => .nil ⟨failure.code, description⟩
  | .error .fault => .fault

/-- `NSData.bytes`. -/
def bytes (data : Bytes) : Option Bytes := if data = [] then none else some data

/-- `initWithData:encoding:` for UTF-8, then `UTF8String`, which is `NULL` where the data is not
UTF-8; the terminator is not among the bytes. -/
def utf8String (data : Bytes) : Option Bytes := if data.toByteArray.IsValidUTF8 then some data else none

theorem outcome_eq_object {α : Type} {description : String} {x : Except Stop α} {object : α} :
    outcome description x = .object object ↔ x = .ok object := by
  cases x with
  | ok a => simp [outcome]
  | error stop => cases stop <;> simp [outcome]

theorem utf8EncodeChar_ascii : ∀ n < 128, String.utf8EncodeChar (Char.ofNat n) = [UInt8.ofNat n] := by decide

theorem isValidUTF8_of_ascii {data : Bytes} (h : ∀ b ∈ data, b ≤ 127) : data.toByteArray.IsValidUTF8 := by
  induction data with
  | nil => exact ByteArray.isValidUTF8_empty
  | cons b data ih =>
      have hb : b.toNat < 128 := Nat.lt_succ_of_le (UInt8.le_iff_toNat_le.mp (h b List.mem_cons_self))
      have hfirst := Char.isValidUTF8_toByteArray_utf8EncodeChar (c := Char.ofNat b.toNat)
      rw [utf8EncodeChar_ascii _ hb, UInt8.ofNat_toNat] at hfirst
      have hrest := ih fun c hc => h c (List.mem_cons_of_mem b hc)
      exact List.toByteArray_append' (l := [b]) ▸ hfirst.append hrest

theorem utf8String_of_ascii {data : Bytes} (h : ∀ b ∈ data, b ≤ 127) : utf8String data = some data :=
  if_pos (isValidUTF8_of_ascii h)

end OpenVPNAdapter.Identity
