import Mathlib.Algebra.Group.Int.Defs
import Mathlib.Algebra.Group.Nat.Defs
import Mathlib.Data.List.TakeWhile

namespace OpenVPNAdapter.Text

/-- The part of a string that `c_str()` shows to a C function. -/
def cStr (s : String) : String := String.ofList (s.toList.takeWhile (· ≠ '\x00'))

theorem cStr_eq_iff {s : String} : cStr s = s ↔ '\x00' ∉ s.toList := by
  rw [cStr, ← String.toList_inj, String.toList_ofList, List.takeWhile_eq_self_iff]
  constructor
  · intro h hz
    simpa using h _ hz
  · intro h c hc
    exact decide_eq_true fun he => h (he ▸ hc)

theorem not_mem_cStr (s : String) : '\x00' ∉ (cStr s).toList := by
  rw [cStr, String.toList_ofList]
  intro h
  simpa using List.mem_takeWhile_imp h

@[simp] theorem cStr_cStr (s : String) : cStr (cStr s) = cStr s := cStr_eq_iff.mpr (not_mem_cStr s)

/-- A text of the core as an object of the adapter: an empty one is nil. -/
def textObject (s : String) : Option String := if s = "" then none else some (cStr s)

def toLower (s : String) : String := String.ofList (s.toList.map Char.toLower)

def startsWith (s pre : String) : Bool := pre.toList.isPrefixOf s.toList

def isDigit (c : Char) : Bool := '0' ≤ c && c ≤ '9'

def digit (c : Char) : Nat := c.toNat - '0'.toNat

/-- The loop of `parse_number` at an unsigned type of 32 bits, which wraps. -/
def digits (cs : List Char) : Option Nat :=
  if cs.all isDigit then some (cs.foldl (fun n c => (10 * n + digit c) % 2 ^ 32) 0) else none

/-- `parse_number<unsigned int>`. -/
def parseUnsigned (s : String) : Option Nat :=
  match (cStr s).toList with
  | [] => none
  | c :: cs => digits (c :: cs)

/-- `parse_number<int>`. -/
def parseInt (s : String) : Option Int :=
  match (cStr s).toList with
  | [] => none
  | '-' :: cs => (digits cs).map fun n => (-(n : Int)).bmod (2 ^ 32)
  | c :: cs => (digits (c :: cs)).map fun n => (n : Int).bmod (2 ^ 32)

def hexDigit (c : Char) : Option Nat :=
  if isDigit c then some (digit c)
  else if 'a' ≤ c ∧ c ≤ 'f' then some (c.toNat - 'a'.toNat + 10)
  else if 'A' ≤ c ∧ c ≤ 'F' then some (c.toNat - 'A'.toNat + 10)
  else none

/-- `parse_hex_number<int>`. -/
def parseHexInt (s : String) : Option Int :=
  match (cStr s).toList with
  | [] => none
  | c :: cs => ((c :: cs).mapM hexDigit).map fun ds =>
      ((ds.foldl (fun n d => (16 * n + d) % 2 ^ 32) 0 : Nat) : Int).bmod (2 ^ 32)

/-- `parse_number_validate<unsigned int>`. -/
def parseNumberValidate (s : String) (maxLen lo hi : Nat) : Option Nat :=
  if s.utf8ByteSize ≤ maxLen then (parseUnsigned s).filter fun n => lo ≤ n && n ≤ hi else none

end OpenVPNAdapter.Text
