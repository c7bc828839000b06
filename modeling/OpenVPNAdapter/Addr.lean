import OpenVPNAdapter.Library.Effect
import OpenVPNAdapter.Text

namespace OpenVPNAdapter.IP

open Library.Effect Text

inductive Addr
  | unspec
  | v4 (addr : BitVec 32)
  | v6 (addr : BitVec 128) (scopeId : Nat)
deriving DecidableEq, Repr

inductive Version
  | unspec
  | v4
  | v6
deriving DecidableEq, Repr

/-- What the address code leaves to the system: the two directions between an address and
its text (an error is the message of the error code), and the clean-up of texts for messages. -/
structure Sys where
  makeAddress : String → Except String Addr
  print : Addr → String
  utf8Printable : String → Nat → String

def Sys.ofTable (table : List (String × Addr)) : Sys where
  makeAddress s := match table.find? (·.1 = s) with
    | some (_, a) => .ok a
    | none => .error "Invalid argument"
  print a := match table.find? (·.2 = a) with
    | some (s, _) => s
    | none => "?"
  utf8Printable s maxLen := String.ofList (s.toList.take maxLen)

/-- What all texts of addresses have in common. -/
structure Sys.Printing (sys : Sys) : Prop where
  ne_empty : ∀ a, sys.print a ≠ ""
  plain : ∀ a, ∀ c ∈ (sys.print a).toList, c ∉ ['\x00', '\n', ' ', '/']
  zero : ∀ x, sys.print (.v4 x) = "0.0.0.0" ↔ x = 0

theorem Sys.ofTable_print_cases (table : List (String × Addr)) (a : Addr) :
    (Sys.ofTable table).print a = "?" ∨ ((Sys.ofTable table).print a, a) ∈ table := by
  simp only [Sys.ofTable]
  split
  · rename_i s b h
    have hb : b = a := by simpa using List.find?_some h
    exact .inr (hb ▸ List.mem_of_find?_eq_some h)
  · exact .inl rfl

def isPlain (s : String) : Bool := s.toList.all fun c => c ∉ ['\x00', '\n', ' ', '/']

theorem isPlain_iff (s : String) : isPlain s = true ↔ ∀ c ∈ s.toList, c ∉ ['\x00', '\n', ' ', '/'] := by
  simp [isPlain]

theorem Sys.ofTable_printing {table : List (String × Addr)}
    (hplain : (table.all fun e => e.1 ≠ "" && isPlain e.1) = true)
    (hzero : (Sys.ofTable table).print (.v4 0) = "0.0.0.0")
    (honly : (table.all fun e => e.1 ≠ "0.0.0.0" || e.2 = .v4 0) = true) : (Sys.ofTable table).Printing := by
  simp only [List.all_eq_true, Bool.and_eq_true, Bool.or_eq_true, decide_eq_true_eq] at hplain honly
  refine ⟨fun a => ?_, fun a => ?_, fun x => ⟨fun h => ?_, fun h => h ▸ hzero⟩⟩
  · rcases ofTable_print_cases table a with h | h
    · rw [h]
      exact fun he => absurd (congrArg String.length he) (by decide)
    · exact (hplain _ h).1
  · rcases ofTable_print_cases table a with h | h
    · rw [h]
      exact (isPlain_iff "?").mp (by rfl)
    · exact (isPlain_iff _).mp (hplain _ h).2
  · rcases ofTable_print_cases table (.v4 x) with he | he
    · rw [h] at he
      exact absurd he (by simp)
    · exact Addr.v4.inj ((honly _ he).resolve_left fun hne => hne h)

theorem Sys.Printing.cStr_print {sys : Sys} (h : sys.Printing) (a : Addr) : cStr (sys.print a) = sys.print a := by
  have hall : ∀ c ∈ (sys.print a).toList, decide (c ≠ '\x00') = true := fun c hc => by
    have hne := h.plain a c hc
    simp only [List.mem_cons, not_or] at hne
    exact decide_eq_true hne.1
  have htake := @List.takeWhile_append_of_pos _ _ _ [] hall
  rw [List.append_nil, List.takeWhile_nil, List.append_nil] at htake
  rw [cStr, htake, String.ofList_toList]

namespace Addr

def version : Addr → Version
  | unspec => .unspec
  | v4 _ => .v4
  | v6 _ _ => .v6

def toString (sys : Sys) : Addr → String
  | unspec => "UNSPEC"
  | a => sys.print a

theorem cStr_toString {sys : Sys} (h : sys.Printing) (a : Addr) : cStr (a.toString sys) = a.toString sys := by
  cases a with
  | unspec =>
      rw [toString]
      decide
  | v4 | v6 => exact h.cStr_print _

theorem toString_ne_empty {sys : Sys} (h : sys.Printing) (a : Addr) : a.toString sys ≠ "" := by
  cases a with
  | unspec =>
      rw [toString]
      decide
  | v4 | v6 => exact h.ne_empty _

def fromString (sys : Sys) (ipstr title : String) : Except String Addr :=
  match sys.makeAddress ipstr with
  | .ok a => .ok a
  | .error message =>
      .error ("ip_exception: error parsing" ++ (if title = "" then "" else " " ++ title) ++ " IP address '" ++
        ipstr ++ "'" ++ (if message = "" then "" else " : " ++ message))

def versionSize : Version → Nat
  | .v4 => 32
  | .v6 => 128
  | .unspec => 0

def fromZeroComplement : Version → Except String Addr
  | .v4 => .ok (v4 (BitVec.allOnes 32))
  | .v6 => .ok (v6 (BitVec.allOnes 128) 0)
  | .unspec => .error "ip_exception: address unspecified"

/-- `IPv4::Addr::prefix_len_to_netmask_unchecked`. -/
def mask32 (prefixLen : Nat) : BitVec 32 :=
  if prefixLen = 0 then 0 else ~~~((1#32 <<< (32 - prefixLen)) - 1#32)

theorem mask32_eq_zero_iff {n : Nat} (h : n ≤ 32) : mask32 n = 0 ↔ n = 0 := by
  have hall : ∀ n : Fin 33, mask32 n = 0 ↔ n.val = 0 := by decide
  exact hall ⟨n, by omega⟩

def netmaskV4 (prefixLen : Nat) : Except String (BitVec 32) :=
  if prefixLen ≤ 32 then .ok (mask32 prefixLen) else .error "ipv4_exception: bad prefix len"

/-- `IPv6::Addr::prefix_len_to_netmask_unchecked`, the most significant word first. -/
def mask128 (prefixLen : Nat) : BitVec 128 :=
  if prefixLen = 0 then 0
  else
    let pl := prefixLen - 1
    let mask : BitVec 32 := ~~~((1#32 <<< (31 - pl % 32)) - 1#32)
    let ones : BitVec 32 := BitVec.allOnes 32
    match pl / 32 with
    | 0 => mask ++ 0#32 ++ 0#32 ++ 0#32
    | 1 => ones ++ mask ++ 0#32 ++ 0#32
    | 2 => ones ++ ones ++ mask ++ 0#32
    | _ => ones ++ ones ++ ones ++ mask

def netmaskFromPrefixLen (v : Version) (prefixLen : Nat) : Except String Addr :=
  match v with
  | .v4 => (netmaskV4 prefixLen).map v4
  | .v6 =>
      if prefixLen ≤ 128 then .ok (v6 (mask128 prefixLen) 0) else .error "ipv6_exception: bad prefix len"
  | .unspec => .error "ip_exception: address unspecified"

/-- The search loop of `prefix_len_32`: the result is at most `high`. -/
def searchPrefix (addr : BitVec 32) : Nat → (low high : Nat) → Option Nat
  | 0, _, _ => none
  | fuel + 1, low, high =>
      let mid := (high + low) / 2
      if addr = mask32 mid then some mid
      else if mask32 mid < addr then searchPrefix addr fuel mid high
      else searchPrefix addr fuel low mid

def prefixLen32 (addr : BitVec 32) : Option Nat :=
  if addr = BitVec.allOnes 32 then some 32
  else if addr = 0 then some 0
  else searchPrefix addr 5 1 32

/-- Word `i` of an IPv6 address, word 0 being the least significant. -/
def word (addr : BitVec 128) (i : Nat) : BitVec 32 := (addr >>> (32 * i)).setWidth 32

/-- The word of an IPv6 netmask that holds its last one bit, counted from the most
significant word. -/
def maskWord (addr : BitVec 128) : Option Nat :=
  let ones : BitVec 32 := BitVec.allOnes 32
  if word addr 3 ≠ ones then
    if word addr 0 = 0 ∧ word addr 1 = 0 ∧ word addr 2 = 0 then some 0 else none
  else if word addr 2 ≠ ones then
    if word addr 0 = 0 ∧ word addr 1 = 0 then some 1 else none
  else if word addr 1 ≠ ones then
    if word addr 0 = 0 then some 2 else none
  else some 3

theorem searchPrefix_le {addr : BitVec 32} {fuel low high n : Nat} (hle : low ≤ high)
    (h : searchPrefix addr fuel low high = some n) : n ≤ high := by
  induction fuel generalizing low high with
  | zero => cases h
  | succ fuel ih =>
      rw [searchPrefix] at h
      split at h
      · cases h
        omega
      · split at h
        · exact ih (by omega) h
        · exact Nat.le_trans (ih (by omega) h) (by omega)

theorem prefixLen32_le {addr : BitVec 32} {n : Nat} (h : prefixLen32 addr = some n) : n ≤ 32 := by
  rw [prefixLen32] at h
  split at h
  · cases h
    omega
  · split at h
    · cases h
      omega
    · exact searchPrefix_le (by omega) h

def prefixLen : Addr → Except String Nat
  | v4 addr =>
      match prefixLen32 addr with
      | some n => .ok n
      | none => .error "ipv4_exception: malformed netmask"
  | v6 addr _ =>
      match (maskWord addr).bind fun i => (prefixLen32 (word addr (3 - i))).map (· + 32 * i) with
      | some n => .ok n
      | none => .error "ipv6_exception: malformed netmask"
  | unspec => .error "ip_exception: address unspecified"

theorem prefixLen_le {addr : Addr} {n : Nat} (hv : addr.version = .v4) (h : addr.prefixLen = .ok n) : n ≤ 32 := by
  cases addr with
  | v4 addr =>
      simp only [prefixLen] at h
      split at h
      · rename_i hn
        cases h
        exact prefixLen32_le hn
      · cases h
  | unspec | v6 => cases hv

def and : Addr → Addr → Except String Addr
  | v4 a, v4 b => .ok (v4 (a &&& b))
  | v6 a scope, v6 b _ => .ok (v6 (a &&& b) scope)
  | unspec, unspec => .error "ip_exception: address unspecified"
  | _, _ => .error "ip_exception: version inconsistency"

end Addr

structure AddrMaskPair where
  addr : Addr
  netmask : Addr
deriving DecidableEq, Repr

namespace AddrMaskPair

/-- The strings between the `/` of `s`. -/
def terms (s : String) : List String := (s.toList.splitOn '/').map String.ofList

def isNumber (s : String) : Bool :=
  let cs := (cStr s).toList
  cs ≠ [] && cs.all isDigit

def parseNetmask (sys : Sys) (addr : Addr) (mask : String) : Except String Addr := do
  let netmask ← if isNumber mask then
      match parseUnsigned mask with
      | some n => Addr.netmaskFromPrefixLen addr.version n
      | none => .error "number_parse_exception: prefix length"
    else Addr.fromString sys mask ""
  let _ ← netmask.prefixLen
  return netmask

def fromTerms (sys : Sys) (title : String) : List String → Except String AddrMaskPair
  | [] => .error "addr_pair_mask_parse_error: only one or two address terms allowed"
  | t :: ts => do
      ensure (ts.length ≤ 1) "addr_pair_string_error"
      let addr ← Addr.fromString sys t title
      let mask ← if ts.headD "" = "" then Addr.fromZeroComplement addr.version
        else parseNetmask sys addr (ts.headD "")
      ensure (addr.version = mask.version) "ip_exception: version inconsistency"
      return ⟨addr, mask⟩

/-- `AddrMaskPair::from_string` of two strings, the second of which may be empty. -/
def fromString (sys : Sys) (s1 s2 title : String) : Except String AddrMaskPair :=
  match fromTerms sys title (if s2 = "" then terms s1 else [s1, s2]) with
  | .ok pair => .ok pair
  | .error what =>
      .error ("addr_pair_mask_parse_error: AddrMaskPair parse error '" ++ title ++ "': " ++ s1 ++ "/" ++ s2 ++
        " : " ++ what)

/-- `AddrMaskPair::from_string` of one string. -/
def fromString1 (sys : Sys) (s title : String) : Except String AddrMaskPair :=
  match fromTerms sys title (terms s) with
  | .ok pair => .ok pair
  | .error what =>
      .error ("addr_pair_mask_parse_error: AddrMaskPair parse error '" ++ title ++ "': " ++ s ++ " : " ++ what)

def version (p : AddrMaskPair) : Version :=
  if p.addr.version = p.netmask.version then p.addr.version else .unspec

def isCanonical (p : AddrMaskPair) : Except String Bool := do
  let a ← p.addr.and p.netmask
  return a = p.addr

end AddrMaskPair

end OpenVPNAdapter.IP
