import OpenVPNAdapter.Addr

namespace OpenVPNAdapter.Options

open Library.Effect Text IP

/-- `Option` of the core: a directive and its arguments. -/
abbrev Opt := List String

abbrev OptionList := List Opt

variable (sys : Sys)

namespace Opt

def printableDirective (o : Opt) : String :=
  match o with
  | [] => ""
  | d :: _ => sys.utf8Printable d 32

def errRef (o : Opt) : String :=
  if o = [] then "option" else "option '" ++ printableDirective sys o ++ "'"

def error (o : Opt) (what : String) : String := "option_error: " ++ errRef sys o ++ what

def minArgs (o : Opt) (n : Nat) : Except String Unit :=
  if o.length < n then .error (error sys o (" must have at least " ++ toString n ++ " arguments")) else .ok ()

def exactArgs (o : Opt) (n : Nat) : Except String Unit :=
  if o.length ≠ n then .error (error sys o (" must have exactly " ++ toString n ++ " arguments")) else .ok ()

def validate (str : String) (maxLen : Nat) : Option String :=
  if str.toList.any fun c => c = '\r' || c = '\n' then some "multiline"
  else if maxLen < str.length then some "too long"
  else none

/-- `validate_arg`, whose callers all give a positive length. -/
def validateArg (o : Opt) (index maxLen : Nat) : Except String Unit :=
  match o[index]?.bind (validate · maxLen) with
  | some what => .error (error sys o (" is " ++ what))
  | none => .ok ()

def get (o : Opt) (index maxLen : Nat) : Except String String := do
  minArgs sys o (index + 1)
  validateArg sys o index maxLen
  return o.getD index ""

def getOptional (o : Opt) (index maxLen : Nat) : Except String String := do
  validateArg sys o index maxLen
  return o.getD index ""

/-- `get_num<int>` of an argument, which is hexadecimal after `0x`. -/
def getNum (o : Opt) (index : Nat) : Except String Int := do
  let numstr ← get sys o index 64
  if startsWith numstr "0x" then
    match parseHexInt (String.ofList (numstr.toList.drop 2)) with
    | some n => return n
    | none => throw (error sys o ("[" ++ toString index ++ "] expecting a hex number"))
  else
    match parseInt numstr with
    | some n => return n
    | none => throw (error sys o ("[" ++ toString index ++ "] must be a number"))

/-- `get_num` with a default value and a range. -/
def getNumIn (o : Opt) (index : Nat) (default lo hi : Int) : Except String Int := do
  let n ← if index < o.length then getNum sys o index else pure default
  ensure (n = default ∨ (lo ≤ n ∧ n ≤ hi))
    (error sys o ("[" ++ toString index ++ "] must be in the range [" ++ toString lo ++ "," ++ toString hi ++ "]"))
  return n

theorem get_eq_ok {o : Opt} {index maxLen : Nat} {str : String} (h : get sys o index maxLen = .ok str) :
    o[index]? = some str ∧ validate str maxLen = none := by
  rw [get, minArgs, validateArg] at h
  by_cases hlen : o.length < index + 1
  · rw [if_pos hlen] at h
    cases h
  · have hget : o[index]? = some (o.getD index "") := by
      rw [List.getD_eq_getElem?_getD, List.getElem?_eq_getElem (by omega)]
      rfl
    rw [if_neg hlen, hget] at h
    cases hv : validate (o.getD index "") maxLen with
    | some what =>
        simp only [Option.bind_some, hv] at h
        cases h
    | none =>
        simp only [Option.bind_some, hv] at h
        cases h
        exact ⟨hget, hv⟩

end Opt

/-- The options of a list with a given directive, in their order. -/
def instances (opt : OptionList) (name : String) : List Opt := opt.filter fun o => o.head? = some name

def getPtr (opt : OptionList) (name : String) : Option Opt := (instances opt name).getLast?

def exists? (opt : OptionList) (name : String) : Bool := (getPtr opt name).isSome

structure StandardLex where
  inQuote : Bool
  backslash : Bool
  ch : Option Char

def StandardLex.put (lex : StandardLex) (c : Char) : StandardLex :=
  if lex.backslash then { lex with ch := some c, backslash := false }
  else if c = '\\' then { lex with ch := none, backslash := true }
  else if c = '"' then { lex with ch := none, inQuote := !lex.inQuote }
  else { lex with ch := some c }

def isSpace (c : Char) : Bool := c = ' ' || ('\t' ≤ c && c ≤ '\r')

/-- The loop of `by_space_void`: `term` is under construction and `defined` once it counts. -/
def splitLoop (lex : StandardLex) (term : List Char) (defined : Bool) : List Char → List (List Char)
  | [] => if defined then [term] else []
  | c :: cs =>
      let lex := lex.put c
      let defined := defined || lex.inQuote
      match lex.ch with
      | none => splitLoop lex term defined cs
      | some tc =>
          if !isSpace tc || lex.inQuote then splitLoop lex (term ++ [tc]) true cs
          else if defined then term :: splitLoop lex [] false cs
          else splitLoop lex term false cs

/-- `Split::by_space` with `StandardLex`. -/
def bySpace (input : String) : List String :=
  (splitLoop ⟨false, false, none⟩ [] false input.toList).map String.ofList

end OpenVPNAdapter.Options
