import Mathlib.Data.List.Perm.Basic
import OpenVPNAdapter.OpenVPNConfiguration

namespace OpenVPNAdapter.ConfigurationLenses

open Library.Properties Library.Separated Text ClientConfig OpenVPNConfiguration

theorem toNat_ofNat_byte (b : UInt8) : (Char.ofNat b.toNat).toNat = b.toNat := by
  have hb := b.toNat_lt
  have hvalid : b.toNat.isValidChar := .inl (by omega)
  rw [Char.ofNat, dif_pos hvalid]
  rfl

theorem textBytes_bytesText (bytes : List UInt8) : textBytes (bytesText bytes) = bytes := by
  rw [textBytes, bytesText, String.toList_ofList, List.map_map]
  refine (List.map_congr_left fun b _ => ?_).trans (List.map_id bytes)
  simp [toNat_ofNat_byte]

theorem bytesText_inj {a b : List UInt8} (h : bytesText a = bytesText b) : a = b := by
  rw [← textBytes_bytesText a, h, textBytes_bytesText]

theorem bytesText_eq_empty_iff {bytes : List UInt8} : bytesText bytes = "" ↔ bytes = [] := by
  rw [bytesText, String.ofList_eq_empty_iff, List.map_eq_nil_iff]

/-- Nil and the empty object of the type are the same value. -/
def Same : (k : Kind) → k.Given → k.Given → Prop
  | .data, g, h => Option.elim g [] NSData.bytes = Option.elim h [] NSData.bytes
  | .text, g, h => Option.getD g (.text "") = Option.getD h (.text "")
  | .dictionary, g, h => (Option.elim g [] NSDictionary.entries).Perm (Option.elim h [] NSDictionary.entries)
  | .array, g, h => Option.getD g [] = Option.getD h []
  | .port, g, h | .tick, g, h => g = h
  | .integer, g, h | .proto, g, h | .ipv6, g, h | .compressionMode, g, h | .minTLSVersion, g, h
  | .tlsCertProfile, g, h => g = h
  | .flag, g, h => g = h

variable (F : Foundation)

/-- No zero byte inside, one right behind the buffer, and one right behind the buffer that the getter returns. -/
def KeptData (v : Option NSData) : Prop :=
  ∀ data ∈ v, data.bytes ≠ [] → 0 ∉ data.bytes ∧ (∀ b ∈ data.behind.head?, b = 0) ∧
    ∀ b ∈ (F.behind data.bytes).head?, b = 0

def KeptText (v : Option String) : Prop := ∀ s ∈ v, '\x00' ∉ s.toList

/-- No NUL in a key or a value, and the dictionary built from the entries enumerates them in the
same order. -/
def KeptDictionary (v : Option Dictionary) : Prop :=
  ∀ d ∈ v, d.entries ≠ [] → (∀ e ∈ d.entries, '\x00' ∉ e.1.toList ∧ '\x00' ∉ e.2.toList) ∧
    (F.enumerated (.ofList d.entries)).entries = d.entries

/-- No NUL and no separator in an element, and not the list of one empty text. -/
def KeptArray (v : Option (List String)) : Prop :=
  ∀ l ∈ v, l ≠ [""] ∧ ∀ s ∈ l, ':' ∉ s.toList ∧ '\x00' ∉ s.toList

/-- The values that the conversion of a property keeps. -/
def Kept : (k : Kind) → k.Value → Prop
  | .data, v => KeptData F v
  | .text, v => KeptText v
  | .dictionary, v => KeptDictionary F v
  | .array, v => KeptArray v
  | .integer, v => -2 ^ 31 ≤ Int64.toInt v ∧ Int64.toInt v < 2 ^ 31
  | .tick, v => UInt64.toNat v < 2 ^ 32
  | .port, _ | .flag, _ | .proto, _ | .ipv6, _ | .compressionMode, _ | .minTLSVersion, _
  | .tlsCertProfile, _ => True

variable {F}

theorem takeWhile_append_eq_self_iff (bytes rest : List UInt8) :
    (bytes ++ rest).takeWhile (· ≠ 0) = bytes ↔ 0 ∉ bytes ∧ ∀ b ∈ rest.head?, b = 0 := by
  have hpos (hzero : 0 ∉ bytes) : ∀ b ∈ bytes, decide (b ≠ 0) = true :=
    fun b hb => decide_eq_true fun he => hzero (he ▸ hb)
  constructor
  · intro h
    have hzero : 0 ∉ bytes := by
      rw [← h]
      intro hm
      simpa using List.mem_takeWhile_imp hm
    refine ⟨hzero, ?_⟩
    rw [List.takeWhile_append_of_pos (hpos hzero)] at h
    cases rest with
    | nil => simp
    | cons b rest =>
        by_cases hb : b = 0
        · simpa using hb
        · rw [List.takeWhile_cons_of_pos (by simpa using hb)] at h
          exact absurd (List.append_right_eq_self.mp h) (by simp)
  · rintro ⟨hzero, hrest⟩
    rw [List.takeWhile_append_of_pos (hpos hzero)]
    cases rest with
    | nil => simp
    | cons b rest => simp [hrest b rfl]

theorem fileContentText_eq_iff (v : Option NSData) :
    fileContentText v = bytesText (v.elim [] NSData.bytes) ↔
      ∀ data ∈ v, data.bytes ≠ [] → 0 ∉ data.bytes ∧ ∀ b ∈ data.behind.head?, b = 0 := by
  cases v with
  | none => simp [fileContentText, bytesText]
  | some data =>
      by_cases hdata : data.bytes = []
      · simp [fileContentText, bytesText, hdata]
      · have hiff := takeWhile_append_eq_self_iff data.bytes data.behind
        rw [fileContentText, Option.elim_some, Option.elim_some, if_neg hdata]
        constructor
        · intro h data' hdata' _
          obtain rfl := Option.some.inj hdata'
          exact hiff.mp (bytesText_inj h)
        · intro h
          exact congrArg bytesText (hiff.mpr (h data rfl hdata))

theorem fileContent_bytesText (bytes : List UInt8) :
    (fileContent F (bytesText bytes)).elim [] NSData.bytes = bytes := by
  by_cases h : bytes = []
  · subst h
    rfl
  · rw [fileContent, if_neg (mt bytesText_eq_empty_iff.mp h), Option.elim_some, textBytes_bytesText]

theorem fileContentText_bytes (v : Option NSData) : ∃ bytes, 0 ∉ bytes ∧ fileContentText v = bytesText bytes := by
  cases v with
  | none => exact ⟨[], List.not_mem_nil, rfl⟩
  | some data =>
      by_cases hdata : data.bytes = []
      · exact ⟨[], List.not_mem_nil, by simp [fileContentText, hdata, bytesText]⟩
      · exact ⟨_, fun h => (by simpa using List.mem_takeWhile_imp h), if_neg hdata⟩

theorem data_writtenBack_iff (v : Option NSData) :
    fileContentText (fileContent F (fileContentText v)) = fileContentText v ↔
      (fileContentText v ≠ "" → ∀ b ∈ (F.behind (textBytes (fileContentText v))).head?, b = 0) := by
  obtain ⟨bytes, hzero, hbytes⟩ := fileContentText_bytes v
  rw [hbytes, textBytes_bytesText]
  by_cases h : bytesText bytes = ""
  · simp [h, fileContent, fileContentText]
  · have hiff := fileContentText_eq_iff (some ⟨bytes, F.behind bytes⟩)
    rw [fileContent, if_neg h, textBytes_bytesText]
    refine hiff.trans ⟨fun hk _ => (hk _ rfl (mt bytesText_eq_empty_iff.mpr h)).2, fun hk data hdata _ => ?_⟩
    obtain rfl := Option.some.inj hdata
    exact ⟨hzero, hk h⟩

theorem keptData_iff (v : Option NSData) :
    KeptData F v ↔ (fileContent F (fileContentText v)).elim [] NSData.bytes = v.elim [] NSData.bytes ∧
      fileContentText (fileContent F (fileContentText v)) = fileContentText v := by
  have hv := fileContentText_eq_iff v
  rw [data_writtenBack_iff]
  constructor
  · intro h
    have heq := hv.mpr fun data hdata hne => ⟨(h data hdata hne).1, (h data hdata hne).2.1⟩
    rw [heq, fileContent_bytesText, textBytes_bytesText]
    refine ⟨rfl, fun hne => ?_⟩
    cases v with
    | none => exact absurd rfl hne
    | some data => exact (h data rfl (mt bytesText_eq_empty_iff.mpr hne)).2.2
  · rintro ⟨hread, hback⟩ data hdata hne
    obtain rfl := Option.mem_def.mp hdata
    obtain ⟨bytes, -, hbytes⟩ := fileContentText_bytes (some data)
    rw [hbytes, fileContent_bytesText] at hread
    obtain rfl : bytes = data.bytes := hread
    rw [hbytes, textBytes_bytesText] at hback
    obtain ⟨hzero, hbehind⟩ := hv.mp hbytes data rfl hne
    exact ⟨hzero, hbehind, hback (mt bytesText_eq_empty_iff.mp hne)⟩

theorem textObject_cStr (s : String) :
    (textObject (cStr s)).getD "" = cStr s ∧ (textObject (cStr s)).elim "" cStr = cStr s := by
  by_cases h : cStr s = ""
  · rw [textObject, if_pos h, h]
    exact ⟨rfl, rfl⟩
  · rw [textObject, if_neg h, Option.getD_some, Option.elim_some, cStr_cStr, cStr_cStr]
    exact ⟨rfl, rfl⟩

theorem text_writtenBack (v : Option String) :
    (textObject (v.elim "" cStr)).elim "" cStr = v.elim "" cStr := by
  cases v with
  | none => rfl
  | some s => exact (textObject_cStr s).2

theorem keptText_iff (v : Option String) :
    KeptText v ↔ (textObject (v.elim "" cStr)).getD "" = v.getD "" := by
  cases v with
  | none => simp [KeptText, textObject]
  | some s => simp [KeptText, (textObject_cStr s).1, cStr_eq_iff]

def cut (e : String × String) : String × String := (cStr e.1, cStr e.2)

theorem cut_eq_iff {e : String × String} : cut e = e ↔ '\x00' ∉ e.1.toList ∧ '\x00' ∉ e.2.toList := by
  rw [Prod.ext_iff, ← cStr_eq_iff, ← cStr_eq_iff]
  rfl

theorem map_cut_eq_self {es : List (String × String)} (h : ∀ e ∈ es, cut e = e) : es.map cut = es :=
  (List.map_congr_left h).trans (List.map_id es)

theorem dictionaryOf_keyValues {d : Dictionary} (h : d.entries ≠ []) :
    dictionaryOf F (keyValues (some d)) = some (F.enumerated (.ofList (d.entries.map cut))) := by
  rw [dictionaryOf, if_neg (by simpa [keyValues] using h)]
  have hmap : ∀ e ∈ d.entries, (cStr (cStr e.1), cStr (cStr e.2)) = cut e := fun e _ => by
    rw [cStr_cStr, cStr_cStr, cut]
  simp only [keyValues, Option.elim_some, List.map_map, Function.comp_def]
  rw [List.map_congr_left hmap]

theorem keyValues_inj {d : Dictionary} {es : List (String × String)} (hd : ∀ e ∈ d.entries, cut e = e)
    (hes : ∀ e ∈ es, cut e = e) (h : keyValues (some d) = es.map fun e => ⟨cStr e.1, cStr e.2⟩) :
    d.entries = es := by
  have hcut := congrArg (List.map fun kv : KeyValue => (kv.key, kv.value)) h
  simp only [keyValues, Option.elim_some, List.map_map, Function.comp_def] at hcut
  exact (map_cut_eq_self hd).symm.trans (hcut.trans (map_cut_eq_self hes))

theorem keptDictionary_iff (v : Option Dictionary) :
    KeptDictionary F v ↔
      ((dictionaryOf F (keyValues v)).elim [] Dictionary.entries).Perm (v.elim [] Dictionary.entries) ∧
        keyValues (dictionaryOf F (keyValues v)) = keyValues v := by
  cases v with
  | none => simp [KeptDictionary, keyValues, dictionaryOf]
  | some d =>
      by_cases hd : d.entries = []
      · simp [KeptDictionary, keyValues, dictionaryOf, hd]
      · rw [dictionaryOf_keyValues hd]
        constructor
        · intro h
          obtain ⟨hcut, horder⟩ := h d rfl hd
          have hself : d.entries.map cut = d.entries := map_cut_eq_self fun e he => cut_eq_iff.mpr (hcut e he)
          rw [hself, keyValues, Option.elim_some, Option.elim_some, Option.elim_some, horder]
          exact ⟨List.Perm.refl _, rfl⟩
        · rintro ⟨hperm, horder⟩ d' hd' -
          obtain rfl := Option.some.inj hd'
          have hread : ∀ e ∈ (F.enumerated (.ofList (d.entries.map cut))).entries, cut e = e := fun e he => by
            obtain ⟨a, -, rfl⟩ := List.mem_map.mp (Dictionary.mem_of_mem_ofList ((F.perm _).subset he))
            simp [cut]
          have hcut : ∀ e ∈ d.entries, cut e = e := fun e he => hread e (hperm.symm.subset he)
          refine ⟨fun e he => cut_eq_iff.mp (hcut e he), ?_⟩
          rw [map_cut_eq_self hcut] at hread horder
          exact keyValues_inj hread hcut horder

def pairs (l : List KeyValue) : List (String × String) := l.map fun param => (param.key, param.value)

theorem cut_of_mem_pairs {v : Option Dictionary} {e : String × String} (h : e ∈ pairs (keyValues v)) :
    cut e = e := by
  cases v with
  | none => cases h
  | some d =>
      obtain ⟨kv, hkv, rfl⟩ := List.mem_map.mp h
      obtain ⟨a, -, rfl⟩ := List.mem_map.mp hkv
      simp [cut]

theorem dictionary_writtenBack_iff (v : Option Dictionary) :
    keyValues (dictionaryOf F (keyValues v)) = keyValues v ↔
      (F.enumerated (.ofList (pairs (keyValues v)))).entries = pairs (keyValues v) := by
  by_cases hl : keyValues v = []
  · have hnil : (F.enumerated (.ofList [])).entries = [] := List.perm_nil.mp (F.perm _)
    rw [hl]
    exact iff_of_true rfl hnil
  · have hmap : (keyValues v).map (fun param => (cStr param.key, cStr param.value)) = pairs (keyValues v) :=
      List.map_congr_left fun kv hkv => cut_of_mem_pairs (List.mem_map_of_mem hkv)
    have hback : keyValues v = (pairs (keyValues v)).map fun e => ⟨cStr e.1, cStr e.2⟩ := by
      rw [pairs, List.map_map]
      refine ((List.map_congr_left fun kv hkv => ?_).trans (List.map_id _)).symm
      obtain ⟨hkey, hvalue⟩ := Prod.mk.inj (cut_of_mem_pairs (v := v) (List.mem_map_of_mem hkv))
      simp [hkey, hvalue]
    rw [dictionaryOf, if_neg hl, hmap]
    constructor
    · intro h
      refine keyValues_inj (fun e he => ?_) (fun e he => cut_of_mem_pairs he) (h.trans hback)
      exact cut_of_mem_pairs (Dictionary.mem_of_mem_ofList ((F.perm _).subset he))
    · intro h
      rw [keyValues, Option.elim_some, h]
      exact hback.symm

theorem componentsJoined_separated (s : String) : componentsJoined (componentsSeparated s) = s := by
  have hmap : (componentsSeparated s).map String.toList = s.toList.splitOn ':' := by
    rw [componentsSeparated, List.map_map]
    exact (List.map_congr_left fun _ _ => String.toList_ofList).trans (List.map_id _)
  rw [componentsJoined, hmap, List.intercalate_splitOn, String.ofList_toList]

theorem components_cStr (s : String) :
    components (cStr s) = if cStr s = "" then none else some (componentsSeparated (cStr s)) := by
  rw [components, cStr_cStr]

theorem components_joined (s : String) :
    ((components (cStr s)).elim "" fun l => cStr (componentsJoined l)) = cStr s := by
  rw [components_cStr]
  by_cases h : cStr s = ""
  · rw [if_pos h, h]
    rfl
  · rw [if_neg h, Option.elim_some, componentsJoined_separated, cStr_cStr]

theorem componentsSeparated_joined {l : List String} (hne : l ≠ [])
    (h : ∀ s ∈ l, ':' ∉ s.toList) : componentsSeparated (componentsJoined l) = l := by
  rw [componentsSeparated, componentsJoined, String.toList_ofList, List.splitOn_intercalate]
  · rw [List.map_map]
    exact (List.map_congr_left fun _ _ => String.ofList_toList).trans (List.map_id _)
  · intro cs hcs
    obtain ⟨s, hs, rfl⟩ := List.mem_map.mp hcs
    exact h s hs
  · simpa using hne

theorem cStr_componentsJoined {l : List String} (h : ∀ s ∈ l, '\x00' ∉ s.toList) :
    cStr (componentsJoined l) = componentsJoined l := by
  rw [cStr_eq_iff, componentsJoined, String.toList_ofList]
  intro hm
  rcases of_mem_intercalate hm with hc | ⟨cs, hcs, hmem⟩
  · exact absurd hc (by decide)
  · obtain ⟨s, hs, rfl⟩ := List.mem_map.mp hcs
    exact h s hs hmem

theorem of_mem_componentsSeparated {s t : String} (h : t ∈ componentsSeparated (cStr s)) :
    ':' ∉ t.toList ∧ '\x00' ∉ t.toList := by
  obtain ⟨cs, hcs, rfl⟩ := List.mem_map.mp h
  obtain ⟨hsep, hsub⟩ := of_mem_splitOn hcs
  rw [String.toList_ofList]
  exact ⟨hsep, fun hm => not_mem_cStr s (hsub _ hm)⟩

theorem array_writtenBack (v : Option (List String)) :
    ((components (v.elim "" fun l => cStr (componentsJoined l))).elim "" fun l => cStr (componentsJoined l)) =
      v.elim "" fun l => cStr (componentsJoined l) := by
  cases v with
  | none => rfl
  | some l => exact components_joined (componentsJoined l)

theorem keptArray_iff (v : Option (List String)) :
    KeptArray v ↔ (components (v.elim "" fun l => cStr (componentsJoined l))).getD [] = v.getD [] := by
  cases v with
  | none => simp [KeptArray, components]
  | some l =>
      rw [Option.elim_some, Option.getD_some, components_cStr]
      constructor
      · intro h
        obtain ⟨hne, hpieces⟩ := h l rfl
        rw [cStr_componentsJoined fun s hs => (hpieces s hs).2]
        by_cases hl : l = []
        · subst hl
          rfl
        · have hsep := componentsSeparated_joined hl fun s hs => (hpieces s hs).1
          have hjoin : componentsJoined l ≠ "" := fun he => hne (by rw [← hsep, he]; rfl)
          rw [if_neg hjoin, Option.getD_some, hsep]
      · intro h l' hl'
        obtain rfl := Option.some.inj hl'
        by_cases he : cStr (componentsJoined l) = ""
        · rw [if_pos he, Option.getD_none] at h
          subst h
          simp
        · rw [if_neg he, Option.getD_some] at h
          refine ⟨fun hl => he ?_, fun s hs => of_mem_componentsSeparated (h ▸ hs)⟩
          rw [hl]
          rfl

theorem isDigit_cases {c : Char} (h : c.isDigit = true) :
    c ≠ '\x00' ∧ c ≠ '-' ∧ c ≠ '+' ∧ c.isWhitespace = false := by
  have hne (d : Char) (hd : d.isDigit = false) : c ≠ d := fun he => by
    rw [he, hd] at h
    cases h
  refine ⟨hne _ rfl, hne _ rfl, hne _ rfl, ?_⟩
  simp [Char.isWhitespace, hne ' ' rfl, hne '\t' rfl, hne '\r' rfl, hne '\n' rfl]

theorem stoul_toString {n : Nat} (hn : n < 2 ^ 64) : stoul (toString n) = some n := by
  have hlist : (toString n).toList = Nat.toDigits 10 n := Nat.toList_repr
  have hdigit : ∀ c ∈ Nat.toDigits 10 n, c.isDigit = true :=
    fun c hc => Nat.isDigit_of_mem_toDigits (by decide) (by decide) hc
  have hcStr : cStr (toString n) = toString n :=
    cStr_eq_iff.mpr fun hm => (isDigit_cases (hdigit _ (hlist ▸ hm))).1 rfl
  have hvalue : Nat.ofDigitChars 10 (Nat.toDigits 10 n) 0 = n := Nat.ofDigitChars_toDigits (by decide) (by decide)
  have htake : (Nat.toDigits 10 n).takeWhile Char.isDigit = Nat.toDigits 10 n :=
    List.takeWhile_eq_self_iff.mpr hdigit
  obtain ⟨c, cs, hcs⟩ := List.exists_cons_of_ne_nil (Nat.toDigits_ne_nil (n := n) (b := 10))
  obtain ⟨-, hminus, hplus, hspace⟩ := isDigit_cases (hdigit c (hcs ▸ List.mem_cons_self))
  rw [stoul, hcStr, hlist]
  have hdrop : (Nat.toDigits 10 n).dropWhile Char.isWhitespace = c :: cs := by
    rw [hcs, List.dropWhile_cons_of_neg (by simp [hspace])]
  rw [hdrop]
  have hsign : sign (c :: cs) = (false, c :: cs) := by
    rw [sign]
    · exact fun _ he => hminus (List.cons.inj he).1
    · exact fun _ he => hplus (List.cons.inj he).1
  rw [hsign, ← hcs]
  simp only [htake, hvalue, Nat.toDigits_ne_nil, false_or, Bool.false_eq_true, if_false]
  rw [if_neg (by omega)]

theorem port_load_store (v : UInt64) : UInt64.ofNat ((stoul (toString v.toNat)).getD 0) = v := by
  rw [stoul_toString v.toNat_lt, Option.getD_some, UInt64.ofNat_toNat]

theorem toInt_ofInt_toInt32 (v : Int64) : (Int64.ofInt v.toInt32.toInt).toInt = v.toInt.bmod (2 ^ 32) := by
  have hlo := Int.le_bmod (x := v.toInt) (m := 2 ^ 32) (by decide)
  have hhi := Int.bmod_lt (x := v.toInt) (m := 2 ^ 32) (by decide)
  rw [Int64.toInt_toInt32, Int64.toInt_ofInt_of_le (by omega) (by omega)]

theorem integer_writtenBack (v : Int64) :
    (Int64.ofInt v.toInt32.toInt).toInt32.toInt = v.toInt32.toInt := by
  rw [Int64.toInt_toInt32 (Int64.ofInt _), toInt_ofInt_toInt32, Int64.toInt_toInt32, Int.bmod_bmod]

theorem keptInteger_iff (v : Int64) :
    (-2 ^ 31 ≤ v.toInt ∧ v.toInt < 2 ^ 31) ↔ Int64.ofInt v.toInt32.toInt = v := by
  rw [← Int64.toInt_inj, toInt_ofInt_toInt32]
  constructor
  · rintro ⟨hl, hu⟩
    exact Int.bmod_eq_of_le (by omega) (by omega)
  · intro h
    have hlo := Int.le_bmod (x := v.toInt) (m := 2 ^ 32) (by decide)
    have hhi := Int.bmod_lt (x := v.toInt) (m := 2 ^ 32) (by decide)
    omega

theorem toNat_ofNat_toUInt32 (v : UInt64) : (UInt64.ofNat v.toUInt32.toNat).toNat = v.toNat % 2 ^ 32 := by
  have hlt : v.toUInt32.toNat < 2 ^ 64 := by
    rw [UInt64.toNat_toUInt32]
    omega
  rw [UInt64.toNat_ofNat_of_lt' hlt, UInt64.toNat_toUInt32]

theorem tick_writtenBack (v : UInt64) :
    (UInt64.ofNat v.toUInt32.toNat).toUInt32.toNat = v.toUInt32.toNat := by
  rw [UInt64.toNat_toUInt32 (UInt64.ofNat _), toNat_ofNat_toUInt32, UInt64.toNat_toUInt32, Nat.mod_mod]

theorem keptTick_iff (v : UInt64) : v.toNat < 2 ^ 32 ↔ UInt64.ofNat v.toUInt32.toNat = v := by
  rw [← UInt64.toNat_inj, toNat_ofNat_toUInt32]
  omega

theorem proto_load_store (v : OpenVPNTransportProtocol) :
    getTransportProtocolFromValue (cStr (getValueFromTransportProtocol v)) = v := by
  cases v <;> decide

theorem ipv6_load_store (v : OpenVPNIPv6Preference) :
    getIPv6PreferenceFromValue (cStr (getValueFromIPv6Preference v)) = v := by
  cases v <;> decide

theorem compressionMode_load_store (v : OpenVPNCompressionMode) :
    getCompressionModeFromValue (cStr (getValueFromCompressionMode v)) = v := by
  cases v <;> decide

theorem minTLS_load_store (v : OpenVPNMinTLSVersion) : getMinTLSFromValue (cStr (getValueFromMinTLS v)) = v := by
  cases v <;> decide

theorem tlsCertProfile_load_store (v : OpenVPNTLSCertProfile) :
    getTLSCertProfileFromValue (cStr (getValueFromTLSCertProfile v)) = v := by
  cases v <;> decide

/-- Apart from data and dictionaries, what was stored is always written back as it was. -/
theorem stored_writtenBack {k : Kind} (hdata : k ≠ .data) (hdictionary : k ≠ .dictionary) (v : k.Value) :
    k.store (k.load F (k.store v)) = k.store v := by
  cases k with
  | data => exact absurd rfl hdata
  | dictionary => exact absurd rfl hdictionary
  | text => exact text_writtenBack v
  | array => exact array_writtenBack v
  | port => exact congrArg (fun u : UInt64 => toString u.toNat) (port_load_store v)
  | integer => exact integer_writtenBack v
  | tick => exact tick_writtenBack v
  | flag => rfl
  | proto => exact congrArg getValueFromTransportProtocol (proto_load_store v)
  | ipv6 => exact congrArg getValueFromIPv6Preference (ipv6_load_store v)
  | compressionMode => exact congrArg getValueFromCompressionMode (compressionMode_load_store v)
  | minTLSVersion => exact congrArg getValueFromMinTLS (minTLS_load_store v)
  | tlsCertProfile => exact congrArg getValueFromTLSCertProfile (tlsCertProfile_load_store v)

/-- The same for two values that a setter accepts. -/
def Reads : (k : Kind) → k.Value → k.Value → Prop
  | .data, u, v => Option.elim u [] NSData.bytes = Option.elim v [] NSData.bytes
  | .text, u, v => Option.getD u "" = Option.getD v ""
  | .dictionary, u, v => (Option.elim u [] Dictionary.entries).Perm (Option.elim v [] Dictionary.entries)
  | .array, u, v => Option.getD u [] = Option.getD v []
  | .port, u, v | .tick, u, v => u = v
  | .integer, u, v => u = v
  | .flag, u, v => u = v
  | .proto, u, v => u = v
  | .ipv6, u, v => u = v
  | .compressionMode, u, v => u = v
  | .minTLSVersion, u, v => u = v
  | .tlsCertProfile, u, v => u = v

theorem rawValue_inj {ε : Type} [DecidableEq ε] {cases : List ε} (h : Listed cases) {u v : ε} :
    rawValue cases u = rawValue cases v ↔ u = v := by
  refine ⟨fun he => ?_, fun he => he ▸ rfl⟩
  have hu := (caseOfRawValue_eq_some h).mpr (rfl : rawValue cases u = _)
  exact Option.some.inj (hu.symm.trans ((caseOfRawValue_eq_some h).mpr he))

theorem same_given_iff {k : Kind} {u v : k.Value} : Same k (k.given u) (k.given v) ↔ Reads k u v := by
  cases k with
  | data | port | integer | tick | flag => exact Iff.rfl
  | text =>
      have hgetD (o : Option String) : (o.map NSString.text).getD (.text "") = .text (o.getD "") := by
        cases o <;> rfl
      exact (iff_of_eq (congrArg₂ _ (hgetD u) (hgetD v))).trans ⟨NSString.text.inj, congrArg NSString.text⟩
  | dictionary =>
      have hentries (o : Option Dictionary) : (o.map NSDictionary.ofTexts).elim [] NSDictionary.entries =
          (o.elim [] Dictionary.entries).map textEntry := by cases o <;> rfl
      exact (iff_of_eq (congrArg₂ _ (hentries u) (hentries v))).trans (List.map_perm_map_iff textEntry_injective)
  | array =>
      have hgetD (o : Option (List String)) :
          (o.map (List.map NSString.text)).getD [] = (o.getD []).map NSString.text := by
        cases o <;> rfl
      exact (iff_of_eq (congrArg₂ _ (hgetD u) (hgetD v))).trans
          (List.map_injective_iff.mpr fun _ _ => NSString.text.inj).eq_iff
  | proto => exact rawValue_inj transportProtocols_listed
  | ipv6 => exact rawValue_inj ipv6Preferences_listed
  | compressionMode => exact rawValue_inj compressionModes_listed
  | minTLSVersion => exact rawValue_inj minTLSVersions_listed
  | tlsCertProfile => exact rawValue_inj tlsCertProfiles_listed

theorem kept_iff (k : Kind) (v : k.Value) :
    Kept F k v ↔ Same k (k.given (k.load F (k.store v))) (k.given v) ∧ k.store (k.load F (k.store v)) =
      k.store v := by
  rw [same_given_iff]
  by_cases hdata : k = .data
  · subst hdata
    exact keptData_iff v
  by_cases hdictionary : k = .dictionary
  · subst hdictionary
    exact keptDictionary_iff v
  rw [and_iff_left (stored_writtenBack hdata hdictionary v)]
  cases k with
  | data => exact absurd rfl hdata
  | dictionary => exact absurd rfl hdictionary
  | text => exact keptText_iff v
  | array => exact keptArray_iff v
  | integer => exact keptInteger_iff v
  | tick => exact keptTick_iff v
  | port => exact iff_of_true trivial (port_load_store v)
  | flag => exact iff_of_true trivial rfl
  | proto => exact iff_of_true trivial (proto_load_store v)
  | ipv6 => exact iff_of_true trivial (ipv6_load_store v)
  | compressionMode => exact iff_of_true trivial (compressionMode_load_store v)
  | minTLSVersion => exact iff_of_true trivial (minTLS_load_store v)
  | tlsCertProfile => exact iff_of_true trivial (tlsCertProfile_load_store v)

/-- The properties whose unset field is not what the value read of it is stored as. -/
def unsetDiffers : List Property := [.port, .ipv6, .minTLSVersion, .tlsCertProfile]

theorem unset_writtenBack_iff (q : Property) :
    q.kind.store (q.kind.load F (field Config.default q)) = field Config.default q ↔ q ∉ unsetDiffers := by
  have hport : toString (UInt64.ofNat ((stoul "").getD 0)).toNat ≠ "" := by decide
  have hipv6 : getValueFromIPv6Preference (getIPv6PreferenceFromValue (cStr "")) ≠ "" := by decide
  have hminTLS : getValueFromMinTLS (getMinTLSFromValue (cStr "")) ≠ "" := by decide
  have hprofile : getValueFromTLSCertProfile (getTLSCertProfileFromValue (cStr "")) ≠ "" := by decide
  cases q with
  | port => exact iff_of_false hport (by decide)
  | ipv6 => exact iff_of_false hipv6 (by decide)
  | minTLSVersion => exact iff_of_false hminTLS (by decide)
  | tlsCertProfile => exact iff_of_false hprofile (by decide)
  | _ => exact iff_of_true (by rfl) (by decide)

variable (F)

/-- The configuration that accepted writes make of a new one. -/
def configuration (vs : List (Σ q : Property, q.kind.Value)) : Config :=
  writes fields (conversion F) Config.default vs

def readProperty (c : Config) (q : Property) : q.kind.Given := q.kind.given (read fields (conversion F) c q)

def writeProperty (c : Config) (q : Property) (g : q.kind.Given) : Option Config :=
  tryWrite fields (conversion F) (fun q => q.kind.accept) c q g

def writeProperties (ws : List (Σ q : Property, q.kind.Given)) : Option Config :=
  tryWrites fields (conversion F) (fun q => q.kind.accept) Config.default ws

variable (ws : List (Σ q : Property, q.kind.Given))

/-- What is asked of the properties: a read gives the value last written, a write changes no other
property, writing back what was read changes nothing, and the core gets the bytes of the file. -/
structure LawfulAt (c : Config) : Prop where
  written : ∀ q g, lastWritten ws q = some g → Same q.kind (readProperty F c q) g
  apart : ∀ q r g d, q ≠ r → writeProperty F c q g = some d → readProperty F d r = readProperty F c r
  writtenBack : ∀ q, writeProperty F c q (readProperty F c q) = some c
  handed : ∀ g, lastWritten ws .fileContent = some g → c.content = bytesText (Option.elim g [] NSData.bytes)

/-- Every write comes back, and leaves a configuration with lawful properties. -/
def Lawful : Prop := ∃ c, writeProperties F ws = some c ∧ LawfulAt F ws c

/-- Every value written is one that its setter takes, the values last written are ones that are kept, and
the four properties whose unset field reads as another value have been written. -/
structure Exact : Prop where
  accepted : ∀ w ∈ ws, w.1.kind.accept w.2 ≠ none
  kept : ∀ q v, lastWritten ws q = some (q.kind.given v) → Kept F q.kind v
  set : ∀ q ∈ unsetDiffers, lastWritten ws q ≠ none

theorem field_configuration (vs : List (Σ q : Property, q.kind.Value)) (q : Property) :
    field (configuration F vs) q = ((lastWritten vs q).map q.kind.store).getD (field Config.default q) :=
  get_writes fields (conversion F) Config.default vs q

theorem writeProperty_given (c : Config) (q : Property) (v : q.kind.Value) :
    writeProperty F c q (q.kind.given v) = some (write fields (conversion F) c q v) := by
  rw [writeProperty, tryWrite, accept_eq_some.mpr rfl, Option.map_some]

theorem writtenBack_iff (c : Config) (q : Property) :
    writeProperty F c q (readProperty F c q) = some c ↔ q.kind.store (q.kind.load F (field c q)) = field c q := by
  rw [readProperty, writeProperty_given, Option.some.injEq]
  exact write_read_iff fields (conversion F) c q

theorem lawful_iff_exact : Lawful F ws ↔ Exact F ws := by
  have hwrites := tryWrites_eq fields (conversion F) (fun q => q.kind.accept) Config.default ws
  constructor
  · rintro ⟨c, hc, h⟩
    obtain ⟨vs, hvs, hconfiguration⟩ := Option.map_eq_some_iff.mp (hwrites.symm.trans hc)
    obtain rfl : configuration F vs = c := hconfiguration
    have hlast := lastWritten_accepted (fun q : Property => q.kind.accept) hvs
    refine ⟨(accepted_ne_none_iff _).mp (by rw [hvs]; rintro ⟨⟩), fun q v hv => ?_, fun q hq hnone => ?_⟩
    · have hwritten := h.written q _ hv
      have hback := (writtenBack_iff F _ q).mp (h.writtenBack q)
      have hfield : field (configuration F vs) q = q.kind.store v := by
        rw [field_configuration, hlast, hv, Option.bind_some, accept_eq_some.mpr rfl, Option.map_some,
            Option.getD_some]
      rw [hfield] at hback
      refine (kept_iff q.kind v).mpr ⟨?_, hback⟩
      have hread : readProperty F (configuration F vs) q = q.kind.given (q.kind.load F (q.kind.store v)) :=
        congrArg (fun x => q.kind.given (q.kind.load F x)) hfield
      rwa [hread] at hwritten
    · have hback := (writtenBack_iff F _ q).mp (h.writtenBack q)
      rw [field_configuration, hlast, hnone, Option.bind_none, Option.map_none, Option.getD_none] at hback
      exact (unset_writtenBack_iff q).mp hback hq
  · intro h
    obtain ⟨vs, hvs⟩ :=
        Option.ne_none_iff_exists'.mp ((accepted_ne_none_iff (fun q : Property => q.kind.accept)).mpr h.accepted)
    have hlast := lastWritten_accepted (fun q : Property => q.kind.accept) hvs
    have hgiven : ∀ q g, lastWritten ws q = some g →
        ∃ v, g = q.kind.given v ∧ lastWritten vs q = some v := by
      intro q g hg
      obtain ⟨v, hv⟩ := Option.ne_none_iff_exists'.mp (h.accepted _ (mem_of_lastWritten hg))
      exact ⟨v, accept_eq_some.mp hv, by rw [hlast, hg, Option.bind_some, hv]⟩
    refine ⟨configuration F vs, by rw [writeProperties, hwrites, hvs]; rfl, fun q g hg => ?_,
      fun q r g d hqr hd => ?_,
      fun q => (writtenBack_iff F _ q).mpr ?_, fun g hg => ?_⟩
    · obtain ⟨v, rfl, hv⟩ := hgiven q g hg
      have hread : readProperty F (configuration F vs) q = q.kind.given (q.kind.load F (q.kind.store v)) := by
        apply congrArg (fun x => q.kind.given (q.kind.load F x))
        exact (field_configuration F vs q).trans (by rw [hv, Option.map_some, Option.getD_some])
      rw [hread]
      exact ((kept_iff q.kind v).mp (h.kept q v hg)).1
    · obtain ⟨v, -, rfl⟩ := Option.map_eq_some_iff.mp hd
      exact congrArg r.kind.given (read_write_other fields (conversion F) _ hqr v)
    · rw [field_configuration]
      cases hwritten : lastWritten ws q with
      | some g =>
          obtain ⟨v, rfl, hv⟩ := hgiven q g hwritten
          rw [hv]
          exact ((kept_iff q.kind v).mp (h.kept q v hwritten)).2
      | none =>
          rw [hlast, hwritten]
          exact (unset_writtenBack_iff q).mpr fun hq => h.set q hq hwritten
    · obtain ⟨v, hgv, hv⟩ := hgiven .fileContent g hg
      have hcontent : (configuration F vs).content = fileContentText v := by
        apply (field_configuration F vs .fileContent).trans
        rw [hv]
        rfl
      rw [hcontent, hgv]
      refine (fileContentText_eq_iff v).mpr fun data hdata hne => ?_
      have hkept := h.kept .fileContent v (hgv ▸ hg) data hdata hne
      exact ⟨hkept.1, hkept.2.1⟩

/-- A system where a zero byte follows the buffers of the getters and dictionaries keep the order of insertion. -/
def orderedFoundation : Foundation := ⟨fun _ => [0], id, fun _ => List.Perm.refl _⟩

/-- A file with a zero byte in it reaches the core cut short. -/
theorem zeroByte_cut : ¬ Lawful orderedFoundation [⟨.fileContent, some ⟨[99, 0, 100], [0]⟩⟩] := by
  rintro ⟨c, hc, h⟩
  obtain rfl := Option.some.inj hc
  have hcontent := h.handed (some ⟨[99, 0, 100], [0]⟩) rfl
  exact absurd (bytesText_inj (a := [99]) hcontent) (by decide)

end OpenVPNAdapter.ConfigurationLenses
