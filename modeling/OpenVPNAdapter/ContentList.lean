import Mathlib.Algebra.GroupWithZero.Nat
import Mathlib.Data.Prod.Lex
import Mathlib.Data.String.Basic
import OpenVPNAdapter.Library.Sorting
import OpenVPNAdapter.OpenVPNConfiguration
import OpenVPNAdapter.Options

namespace OpenVPNAdapter.ContentList

open Library.Effect Library.Sorting Text IP Options OpenVPNConfiguration

/-! `ProfileParseLimits` -/

def MAX_PROFILE_SIZE : Nat := 262144
def MAX_DIRECTIVE_SIZE : Nat := 64
def OPT_OVERHEAD : Nat := 64
def TERM_OVERHEAD : Nat := 16

structure KeyValue where
  key : String
  value : String
  keyPriority : Int
deriving DecidableEq, Repr

namespace KeyValue

variable (kv : KeyValue)

def combinedLength : Nat := kv.key.utf8ByteSize + kv.value.utf8ByteSize

/-- `split_priority`: the key `remote.7` is `remote` with priority 7. -/
def splitPriority : KeyValue :=
  let tail := (kv.key.toList.reverse.takeWhile (· ≠ '.')).reverse
  match kv.key.toList.reverse.dropWhile (· ≠ '.') with
  | [] => kv
  | _ :: head =>
      if tail = [] then kv
      else match parseInt (String.ofList tail) with
        | some n => ⟨String.ofList head.reverse, kv.value, n⟩
        | none => kv

/-- On UTF-8 the order of the bytes is that of the characters. -/
def compare (a b : KeyValue) : Bool :=
  if a.key < b.key then true
  else if b.key < a.key then false
  else a.keyPriority < b.keyPriority

/-- The loop of `unescape`, and whether it met a newline. -/
def unescapeLoop : (bs : Bool) → List Char → List Char × Bool
  | bs, [] => (if bs then ['\\'] else [], false)
  | true, c :: cs =>
      let (rest, newline) := unescapeLoop false cs
      if c = 'n' then ('\n' :: rest, true)
      else if c = '\\' then ('\\' :: rest, newline)
      else ('\\' :: c :: rest, newline)
  | false, c :: cs =>
      if c = '\\' then unescapeLoop true cs
      else
        let (rest, newline) := unescapeLoop false cs
        (c :: rest, newline)

def unescape (value : String) : String × Bool :=
  let (chars, newline) := unescapeLoop false value.toList
  (String.ofList chars, newline)

def singularArg (key : String) : Bool :=
  key.toList.any (fun c => 'A' ≤ c && c ≤ 'Z') && !key.toList.any (fun c => 'a' ≤ c && c ≤ 'z')

/-- The option, and how many of its arguments are counted as terms. -/
def convertToOption : Opt × Nat :=
  let (value, newlinePresent) := unescape kv.value
  if newlinePresent || singularArg kv.key then ([kv.key, value], 0)
  else if value ≠ "NOARGS" then (kv.key :: bySpace value, (bySpace value).length)
  else ([kv.key], 0)

end KeyValue

/-- `Limits::add_bytes` and its kin, over the bytes counted so far. -/
def addBytes (bytes n : Nat) : Except String Nat :=
  if MAX_PROFILE_SIZE ≤ bytes + n then .error "option_error: profile is too large" else .ok (bytes + n)

def addTerms (bytes : Nat) : Nat → Except String Nat
  | 0 => .ok bytes
  | terms + 1 => do addTerms (← addBytes bytes TERM_OVERHEAD) terms

variable (sys : Sys)

/-- One turn of the loop of `parse_from_key_value_list`. -/
def parseKeyValue (parsed : Nat × OptionList) (kv : KeyValue) : Except String (Nat × OptionList) := do
  let bytes ← addBytes parsed.1 kv.combinedLength
  let (opt, terms) := kv.convertToOption
  let bytes ← addTerms bytes terms
  let bytes ← addBytes bytes OPT_OVERHEAD
  opt.validateArg sys 0 MAX_DIRECTIVE_SIZE
  return (bytes, parsed.2 ++ [opt])

def parseFromKeyValueList (parsed : Nat × OptionList) (list : List KeyValue) : Except String (Nat × OptionList) :=
  list.foldlM (parseKeyValue sys) parsed

/-- `process_setenv_opt` at one option. -/
def processSetenvOpt (o : Opt) : Opt :=
  match o with
  | "setenv" :: "opt" :: d :: args => d :: args
  | _ => o

/-- The options `client` and `dev tun` are added where they are missing. -/
def addMissing (options : OptionList) : OptionList :=
  options ++ ((if exists? options "client" then [] else [["client"]]) ++
    if exists? options "dev" then [] else [["dev", "tun"]])

variable (profile : Nat × OptionList)

/-- What becomes of the options of the profile itself, and the bytes counted for them, with the
preprocessed content list. -/
def parse (list : List KeyValue) : Except String OptionList := do
  let parsed ← parseFromKeyValueList sys profile list
  return addMissing (parsed.2.map processSetenvOpt)

/-- The option lists that may come of a content list, by the order that `std::sort` gives to
entries which compare equal; none when the profile is refused. -/
def Builds (contentList : List ClientConfig.KeyValue) (r : Option OptionList) : Prop :=
  ∃ list, Sorts KeyValue.compare (contentList.map fun kv => KeyValue.splitPriority ⟨kv.key, kv.value, 0⟩) list ∧
    r = (parse sys profile list).toOption

/-- The settings give one option list, in whatever order they are enumerated. -/
def OneMeaning (settings : Dictionary) : Prop :=
  ∀ d₁ d₂ : Dictionary, d₁.entries.Perm settings.entries → d₂.entries.Perm settings.entries →
    ∀ r₁ r₂, Builds sys profile (keyValues (some d₁)) r₁ → Builds sys profile (keyValues (some d₂)) r₂ → r₁ = r₂

def entry (e : String × String) : KeyValue := KeyValue.splitPriority ⟨cStr e.1, cStr e.2, 0⟩

def option (kv : KeyValue) : Opt := processSetenvOpt kv.convertToOption.1

/-- What an entry counts against the size of the profile. -/
def size (kv : KeyValue) : Nat := kv.combinedLength + (TERM_OVERHEAD * kv.convertToOption.2 + OPT_OVERHEAD)

/-- The settings are refused, for a directive or for their size. -/
def Refused (settings : Dictionary) : Prop :=
  (∃ e ∈ settings.entries, Opt.validate (entry e).key MAX_DIRECTIVE_SIZE ≠ none) ∨
    (settings.entries ≠ [] ∧ MAX_PROFILE_SIZE ≤ profile.1 + (settings.entries.map fun e => size (entry e)).sum)

/-- Entries of one directive and priority give the same option. -/
def NoClash (settings : Dictionary) : Prop :=
  ∀ e ∈ settings.entries, ∀ e' ∈ settings.entries, (entry e).key = (entry e').key →
    (entry e).keyPriority = (entry e').keyPriority → option (entry e) = option (entry e')

theorem addBytes_eq_ok {bytes n bytes' : Nat} :
    addBytes bytes n = .ok bytes' ↔ bytes + n < MAX_PROFILE_SIZE ∧ bytes' = bytes + n := by
  rw [addBytes]
  split
  · refine iff_of_false nofun ?_
    omega
  · rw [Except.ok.injEq]
    omega

theorem addTerms_eq_ok {bytes terms bytes' : Nat} : addTerms bytes terms = .ok bytes' ↔
    (terms = 0 ∨ bytes + TERM_OVERHEAD * terms < MAX_PROFILE_SIZE) ∧ bytes' = bytes + TERM_OVERHEAD * terms := by
  induction terms generalizing bytes with
  | zero =>
      rw [addTerms, Except.ok.injEq]
      omega
  | succ terms ih =>
      rw [addTerms, except_bind_eq_ok]
      simp only [addBytes_eq_ok, ih, TERM_OVERHEAD, MAX_PROFILE_SIZE]
      constructor
      · rintro ⟨_, ⟨hlt, rfl⟩, hterms, rfl⟩
        omega
      · rintro ⟨hlt, rfl⟩
        exact ⟨_, ⟨by omega, rfl⟩, by omega, by omega⟩

theorem convertToOption_directive (kv : KeyValue) : kv.convertToOption.1[0]? = some kv.key := by
  rw [KeyValue.convertToOption]
  split
  split
  · rfl
  split <;> rfl

variable {sys profile} {list list' : List KeyValue} {kv : KeyValue} {settings : Dictionary}

theorem validateArg_directive {u : Unit} : kv.convertToOption.1.validateArg sys 0 MAX_DIRECTIVE_SIZE = .ok u ↔
    Opt.validate kv.key MAX_DIRECTIVE_SIZE = none := by
  rw [Opt.validateArg, convertToOption_directive, Option.bind_some]
  cases Opt.validate kv.key MAX_DIRECTIVE_SIZE <;> simp

theorem parseKeyValue_eq_ok {parsed t : Nat × OptionList} : parseKeyValue sys parsed kv = .ok t ↔
    Opt.validate kv.key MAX_DIRECTIVE_SIZE = none ∧ parsed.1 + size kv < MAX_PROFILE_SIZE ∧
      t = (parsed.1 + size kv, parsed.2 ++ [kv.convertToOption.1]) := by
  have hpure {x y : Nat × OptionList} : (pure x : Except String (Nat × OptionList)) = .ok y ↔ y = x :=
    ⟨fun h => (Except.ok.inj h).symm, fun h => congrArg Except.ok h.symm⟩
  simp only [parseKeyValue, except_bind_eq_ok, addBytes_eq_ok, addTerms_eq_ok, validateArg_directive, hpure]
  rw [size]
  constructor
  · rintro ⟨_, ⟨h1, rfl⟩, _, ⟨h2, rfl⟩, _, ⟨h3, rfl⟩, _, hvalid, rfl⟩
    refine ⟨hvalid, by omega, by simp [Nat.add_assoc]⟩
  · rintro ⟨hvalid, hlt, rfl⟩
    refine ⟨_, ⟨by omega, rfl⟩, _, ⟨by omega, rfl⟩, _, ⟨by omega, rfl⟩, (), hvalid, by simp [Nat.add_assoc]⟩

def Fits (bytes : Nat) (list : List KeyValue) : Prop :=
  (∀ kv ∈ list, Opt.validate kv.key MAX_DIRECTIVE_SIZE = none) ∧
    (list = [] ∨ bytes + (list.map size).sum < MAX_PROFILE_SIZE)

theorem parseFromKeyValueList_eq_ok {parsed t : Nat × OptionList} :
    parseFromKeyValueList sys parsed list = .ok t ↔ Fits parsed.1 list ∧
      t = (parsed.1 + (list.map size).sum, parsed.2 ++ list.map fun kv => kv.convertToOption.1) := by
  rw [parseFromKeyValueList]
  induction list generalizing parsed with
  | nil =>
      rw [List.foldlM_nil]
      simp [Fits, pure, Except.pure, eq_comm]
  | cons kv list ih =>
      rw [List.foldlM_cons, except_bind_eq_ok]
      simp only [parseKeyValue_eq_ok, ih, Fits]
      constructor
      · rintro ⟨_, ⟨hvalid, hlt, rfl⟩, ⟨hall, hsum⟩, rfl⟩
        refine ⟨⟨by simpa using ⟨hvalid, hall⟩, .inr ?_⟩, by simp [Nat.add_assoc]⟩
        rcases hsum with rfl | hsum
        · simpa using hlt
        · simpa [Nat.add_assoc] using hsum
      · rintro ⟨⟨hall, hsum⟩, rfl⟩
        rw [List.map_cons, List.sum_cons] at hsum
        have hsum := hsum.resolve_left (List.cons_ne_nil _ _)
        refine ⟨_, ⟨hall kv List.mem_cons_self, by omega, rfl⟩,
            ⟨fun kv hkv => hall kv (List.mem_cons_of_mem _ hkv), .inr ?_⟩, ?_⟩
        · dsimp only
          omega
        · simp [Nat.add_assoc]

theorem Fits.perm {bytes : Nat} (hp : list.Perm list') (h : Fits bytes list) : Fits bytes list' := by
  obtain ⟨hvalid, hsum⟩ := h
  refine ⟨fun kv hkv => hvalid kv (hp.symm.subset hkv), hsum.imp ?_ ?_⟩
  · rintro rfl
    exact hp.nil_eq.symm
  · intro hlt
    rwa [← (hp.map size).sum_nat]

theorem refused_iff : Refused profile settings ↔ ¬ Fits profile.1 (settings.entries.map entry) := by
  rw [Refused, Fits, not_and_or, not_or, not_lt]
  refine or_congr ?_ ?_
  · simp
  · simp [Function.comp_def]

theorem parse_eq (h : Fits profile.1 list) : parse sys profile list =
    .ok (addMissing (profile.2.map processSetenvOpt ++ list.map option)) := by
  rw [parse, except_bind_eq_ok]
  refine ⟨_, parseFromKeyValueList_eq_ok.mpr ⟨h, rfl⟩, ?_⟩
  rw [List.map_append, List.map_map]
  rfl

theorem parse_refused (h : ¬ Fits profile.1 list) : (parse sys profile list).toOption = none := by
  cases hp : parse sys profile list with
  | error e => rfl
  | ok r =>
      obtain ⟨parsed, hparsed, -⟩ := except_bind_eq_ok.mp hp
      exact absurd (parseFromKeyValueList_eq_ok.mp hparsed).1 h

theorem exists?_perm {opt opt' : OptionList} (hp : opt.Perm opt') (name : String) :
    exists? opt name = exists? opt' name := by
  have h : (instances opt name).Perm (instances opt' name) := hp.filter _
  rw [exists?, exists?, getPtr, getPtr, Bool.eq_iff_iff, List.getLast?_isSome, List.getLast?_isSome]
  apply not_congr
  constructor
  · intro he
    rw [he] at h
    exact h.nil_eq.symm
  · intro he
    rw [he] at h
    exact h.eq_nil

theorem addMissing_inj {opt opt' : OptionList} (hp : opt.Perm opt') :
    addMissing opt = addMissing opt' ↔ opt = opt' := by
  rw [addMissing, addMissing, exists?_perm hp, exists?_perm hp, List.append_cancel_right_eq]

theorem compare_ranks : Ranks KeyValue.compare fun kv => toLex (kv.key, kv.keyPriority) := by
  intro a b
  rw [Prod.Lex.lt_iff]
  rw [KeyValue.compare]
  simp only [ofLex_toLex]
  split
  · simp [*]
  split
  · rename_i h h'
    simp [h, h'.ne']
  · rename_i h h'
    have he : a.key = b.key := le_antisymm (not_lt.mp h') (not_lt.mp h)
    simp [he]

theorem preprocessed (d : Dictionary) :
    ((keyValues (some d)).map fun kv => KeyValue.splitPriority ⟨kv.key, kv.value, 0⟩) = d.entries.map entry := by
  rw [keyValues, Option.elim_some, List.map_map]
  apply List.map_congr_left
  intro e _
  rw [entry, Function.comp_apply]

theorem builds_iff {d : Dictionary} (hd : d.entries.Perm settings.entries) {r : Option OptionList} :
    Builds sys profile (keyValues (some d)) r ↔
      ∃ list, Sorts KeyValue.compare (settings.entries.map entry) list ∧
        r = (parse sys profile list).toOption := by
  rw [Builds]
  rw [preprocessed]
  have hp := hd.map entry
  exact exists_congr fun list => and_congr_left fun _ => ⟨fun h => h.of_perm hp, fun h => h.of_perm hp.symm⟩

theorem oneMeaning_iff_sorts : OneMeaning sys profile settings ↔
    ∀ list list', Sorts KeyValue.compare (settings.entries.map entry) list →
      Sorts KeyValue.compare (settings.entries.map entry) list' →
        (parse sys profile list).toOption = (parse sys profile list').toOption := by
  constructor
  · intro h list list' hl hl'
    refine h settings settings (.refl _) (.refl _) _ _ ?_ ?_
    · exact (builds_iff (.refl _)).mpr ⟨list, hl, rfl⟩
    · exact (builds_iff (.refl _)).mpr ⟨list', hl', rfl⟩
  · intro h d₁ d₂ h₁ h₂ r₁ r₂ hr₁ hr₂
    obtain ⟨list, hl, rfl⟩ := (builds_iff h₁).mp hr₁
    obtain ⟨list', hl', rfl⟩ := (builds_iff h₂).mp hr₂
    exact h list list' hl hl'

theorem parse_eq_iff {entries : List KeyValue} (h : Fits profile.1 entries)
    (hl : Sorts KeyValue.compare entries list) (hl' : Sorts KeyValue.compare entries list') :
    (parse sys profile list).toOption = (parse sys profile list').toOption ↔
      list.map option = list'.map option := by
  have hp : list.Perm list' := hl.1.trans hl'.1.symm
  rw [parse_eq (h.perm hl.1.symm), parse_eq (h.perm hl'.1.symm), Except.toOption, Except.toOption,
    Option.some.injEq,
    addMissing_inj ((hp.map option).append_left _), List.append_cancel_left_eq]

/-- The settings have one meaning exactly when they are refused, or no two entries of one
directive and priority differ in their option. -/
theorem oneMeaning_iff : OneMeaning sys profile settings ↔ Refused profile settings ∨ NoClash settings := by
  rw [oneMeaning_iff_sorts, refused_iff]
  by_cases hfits : Fits profile.1 (settings.entries.map entry)
  · have hmap := @map_determined_iff _ _ _ _ _ _ (settings.entries.map entry) option compare_ranks
    have hclash : NoClash settings ↔ ∀ kv ∈ settings.entries.map entry, ∀ kv' ∈ settings.entries.map entry,
        toLex (kv.key, kv.keyPriority) = toLex (kv'.key, kv'.keyPriority) → option kv = option kv' := by
      simp only [NoClash, List.forall_mem_map, EmbeddingLike.apply_eq_iff_eq, Prod.mk.injEq, and_imp]
    rw [or_iff_right (not_not.mpr hfits), hclash, ← hmap]
    constructor
    · intro h list list' hl hl'
      exact (parse_eq_iff hfits hl hl').mp (h list list' hl hl')
    · intro h list list' hl hl'
      exact (parse_eq_iff hfits hl hl').mpr (h list list' hl hl')
  · refine iff_of_true (fun list list' hl hl' => ?_) (.inl hfits)
    rw [parse_refused fun h => hfits (h.perm hl.1), parse_refused fun h => hfits (h.perm hl'.1)]

/-- Two servers with one priority, spelled in two ways. -/
def twoServers : Dictionary := ⟨[("remote.1", "a"), ("remote.01", "b")], by decide⟩

def preferring (first second : String) : List KeyValue := [⟨"remote", first, 1⟩, ⟨"remote", second, 1⟩]

theorem twoServers_ambiguous : ¬ OneMeaning (.ofTable []) (0, []) twoServers := by
  have hentries : twoServers.entries.map entry = preferring "a" "b" := by decide
  rw [oneMeaning_iff_sorts, hentries]
  intro h
  have hsorts : Sorts KeyValue.compare (preferring "a" "b") (preferring "a" "b") := ⟨.refl _, by decide⟩
  have hswapped : Sorts KeyValue.compare (preferring "a" "b") (preferring "b" "a") := ⟨.swap .., by decide⟩
  have hsame := h _ _ hsorts hswapped
  revert hsame
  decide

end OpenVPNAdapter.ContentList
