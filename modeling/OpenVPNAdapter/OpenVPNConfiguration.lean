import Mathlib.Data.List.Nodup
import OpenVPNAdapter.Library.Properties
import OpenVPNAdapter.Library.Separated
import OpenVPNAdapter.ClientConfig

namespace OpenVPNAdapter.OpenVPNConfiguration

open Library.Properties Text ClientConfig

/-- An `NSData`: its bytes, and what lies in memory right behind them. -/
structure NSData where
  bytes : List UInt8
  behind : List UInt8
deriving DecidableEq, Repr

/-- An `NSString`. One with unpaired surrogates has no UTF-8 form. -/
inductive NSString
  | text (s : String)
  | unpaired (units : List UInt16)
deriving DecidableEq, Repr

/-- `UTF8String`, less the terminator; `none` is `NULL`. -/
def NSString.utf8String : NSString → Option String
  | .text s => some s
  | .unpaired _ => none

/-- An `NSDictionary` of texts, its entries in the order in which it enumerates them. -/
structure Dictionary where
  entries : List (String × String)
  nodup : (entries.map Prod.fst).Nodup
deriving DecidableEq, Repr

namespace Dictionary

def empty : Dictionary := ⟨[], List.nodup_nil⟩

def replace (es : List (String × String)) (key value : String) : List (String × String) :=
  es.map fun e => if e.1 = key then (key, value) else e

theorem replace_keys (es : List (String × String)) (key value : String) :
    (replace es key value).map Prod.fst = es.map Prod.fst := by
  rw [replace, List.map_map]
  refine List.map_congr_left fun e _ => ?_
  by_cases h : e.1 = key <;> simp [h]

theorem nodup_append {es : List (String × String)} {key : String} (value : String)
    (h : (es.map Prod.fst).Nodup) (hkey : key ∉ es.map Prod.fst) :
    ((es ++ [(key, value)]).map Prod.fst).Nodup := by
  rw [List.map_append, List.nodup_append]
  refine ⟨h, List.nodup_singleton _, fun k hk l hl => ?_⟩
  obtain rfl := List.mem_singleton.mp hl
  exact fun he => hkey (he ▸ hk)

def set (d : Dictionary) (key value : String) : Dictionary :=
  if h : key ∈ d.entries.map Prod.fst then
    ⟨replace d.entries key value, by rw [replace_keys]; exact d.nodup⟩
  else ⟨d.entries ++ [(key, value)], nodup_append value d.nodup h⟩

def ofList (es : List (String × String)) : Dictionary := es.foldl (fun d e => d.set e.1 e.2) empty

theorem mem_foldl_set {d : Dictionary} {es : List (String × String)} {e : String × String}
    (h : e ∈ (es.foldl (fun d e => d.set e.1 e.2) d).entries) : e ∈ d.entries ∨ e ∈ es := by
  induction es generalizing d with
  | nil => exact .inl h
  | cons a es ih =>
      rcases ih h with h | h
      · replace h : e ∈ (d.set a.1 a.2).entries := h
        by_cases hkey : a.1 ∈ d.entries.map Prod.fst
        · rw [set, dif_pos hkey] at h
          obtain ⟨b, hb, rfl⟩ := List.mem_map.mp h
          by_cases hba : b.1 = a.1
          · exact .inr (by simp [hba])
          · exact .inl (by simpa [hba] using hb)
        · rw [set, dif_neg hkey] at h
          rcases List.mem_append.mp h with h | h
          · exact .inl h
          · exact .inr (by simp [List.mem_singleton.mp h])
      · exact .inr (List.mem_cons_of_mem a h)

theorem mem_of_mem_ofList {es : List (String × String)} {e : String × String}
    (h : e ∈ (ofList es).entries) : e ∈ es :=
  (mem_foldl_set h).resolve_left List.not_mem_nil

end Dictionary

/-- An `NSDictionary` of any strings. -/
structure NSDictionary where
  entries : List (NSString × NSString)
  nodup : (entries.map Prod.fst).Nodup
deriving DecidableEq, Repr

def utf8Entry (e : NSString × NSString) : Option (String × String) :=
  e.1.utf8String.bind fun key => e.2.utf8String.map fun value => (key, value)

def textEntry (e : String × String) : NSString × NSString := (.text e.1, .text e.2)

theorem utf8Entry_eq_some {e : NSString × NSString} {t : String × String} :
    utf8Entry e = some t ↔ e = textEntry t := by
  obtain ⟨_ | _, _ | _⟩ := e <;> obtain ⟨key, value⟩ := t <;> simp [utf8Entry, textEntry, NSString.utf8String]

theorem mapM_eq_some {α β : Type} {f : α → Option β} {g : β → α} (h : ∀ {a b}, f a = some b ↔ a = g b) {l : List α}
    {ts : List β} : l.mapM f = some ts ↔ l = ts.map g := by
  induction l generalizing ts with
  | nil => cases ts <;> simp
  | cons a l ih =>
      rw [List.mapM_cons]
      cases ts with
      | nil => cases f a <;> cases l.mapM f <;> simp
      | cons t ts =>
          rw [List.map_cons, List.cons.injEq, ← ih, ← h]
          cases f a <;> cases l.mapM f <;> simp

theorem textEntry_injective : Function.Injective textEntry := by
  rintro ⟨key, value⟩ ⟨key', value'⟩ h
  simpa [textEntry] using h

theorem textEntry_nodup_iff (es : List (String × String)) :
    ((es.map textEntry).map Prod.fst).Nodup ↔ (es.map Prod.fst).Nodup := by
  have hmap : (es.map textEntry).map Prod.fst = (es.map Prod.fst).map NSString.text := by
    rw [List.map_map, List.map_map]
    rfl
  rw [hmap]
  exact List.nodup_map_iff fun _ _ h => NSString.text.inj h

def NSDictionary.utf8 (d : NSDictionary) : Option Dictionary :=
  match h : d.entries.mapM utf8Entry with
  | some es => some ⟨es, (textEntry_nodup_iff es).mp ((mapM_eq_some utf8Entry_eq_some).mp h ▸ d.nodup)⟩
  | none => none

def NSDictionary.ofTexts (d : Dictionary) : NSDictionary :=
  ⟨d.entries.map textEntry, (textEntry_nodup_iff d.entries).mpr d.nodup⟩

/-- What the system decides: the bytes that lie in memory behind the buffer a getter returns, and the
order in which a dictionary built from some entries enumerates them. -/
structure Foundation where
  behind : List UInt8 → List UInt8
  enumerated : Dictionary → Dictionary
  perm : ∀ d, (enumerated d).entries.Perm d.entries

inductive OpenVPNTransportProtocol
  | udp
  | tcp
  | adaptive
  | default
deriving DecidableEq, Repr

inductive OpenVPNIPv6Preference
  | enabled
  | disabled
  | default
deriving DecidableEq, Repr

inductive OpenVPNCompressionMode
  | enabled
  | disabled
  | asym
  | default
deriving DecidableEq, Repr

inductive OpenVPNMinTLSVersion
  | disabled
  | version10
  | version11
  | version12
  | default
deriving DecidableEq, Repr

inductive OpenVPNTLSCertProfile
  | legacy
  | preferred
  | suiteB
  | legacyDefault
  | preferredDefault
  | default
deriving DecidableEq, Repr

/-- An empty text stands for the default one. A text outside the table fails an assertion; where
assertions are compiled out, nil reads as the first case. -/
def caseFromValue {ε : Type} (options : List (String × ε)) (defaultValue : String) (first : ε)
    (value : String) : ε :=
  (options.lookup (if value = "" then defaultValue else value)).getD first

def getTransportProtocolFromValue : String → OpenVPNTransportProtocol :=
  caseFromValue [("udp", .udp), ("tcp", .tcp), ("adaptive", .adaptive), ("", .default)] "" .udp

def getValueFromTransportProtocol : OpenVPNTransportProtocol → String
  | .udp => "udp"
  | .tcp => "tcp"
  | .adaptive => "adaptive"
  | .default => ""

def getIPv6PreferenceFromValue : String → OpenVPNIPv6Preference :=
  caseFromValue [("yes", .enabled), ("no", .disabled), ("default", .default)] "default" .enabled

def getValueFromIPv6Preference : OpenVPNIPv6Preference → String
  | .enabled => "yes"
  | .disabled => "no"
  | .default => "default"

def getCompressionModeFromValue : String → OpenVPNCompressionMode :=
  caseFromValue [("yes", .enabled), ("no", .disabled), ("asym", .asym), ("", .default)] "" .enabled

def getValueFromCompressionMode : OpenVPNCompressionMode → String
  | .enabled => "yes"
  | .disabled => "no"
  | .asym => "asym"
  | .default => ""

def getMinTLSFromValue : String → OpenVPNMinTLSVersion :=
  caseFromValue [("disabled", .disabled), ("tls_1_0", .version10), ("tls_1_1", .version11),
    ("tls_1_2", .version12), ("default", .default)] "default" .disabled

def getValueFromMinTLS : OpenVPNMinTLSVersion → String
  | .disabled => "disabled"
  | .version10 => "tls_1_0"
  | .version11 => "tls_1_1"
  | .version12 => "tls_1_2"
  | .default => "default"

def getTLSCertProfileFromValue : String → OpenVPNTLSCertProfile :=
  caseFromValue [("legacy", .legacy), ("preferred", .preferred), ("suiteb", .suiteB),
    ("legacy-default", .legacyDefault), ("preferred-default", .preferredDefault), ("default", .default)]
    "default" .legacy

def getValueFromTLSCertProfile : OpenVPNTLSCertProfile → String
  | .legacy => "legacy"
  | .preferred => "preferred"
  | .suiteB => "suiteb"
  | .legacyDefault => "legacy-default"
  | .preferredDefault => "preferred-default"
  | .default => "default"

/-- A byte string of the core, one character a byte. -/
def bytesText (bytes : List UInt8) : String := String.ofList (bytes.map fun b => Char.ofNat b.toNat)

def textBytes (s : String) : List UInt8 := s.toList.map fun c => UInt8.ofNat c.toNat

/-- A text with its sign taken off, and whether that was a minus. -/
def sign : List Char → Bool × List Char
  | '-' :: cs => (true, cs)
  | '+' :: cs => (false, cs)
  | cs => (false, cs)

/-- `std::stoul`: `none` is `invalid_argument` or `out_of_range`. -/
def stoul (s : String) : Option Nat :=
  let (negative, cs) := sign ((cStr s).toList.dropWhile Char.isWhitespace)
  let ds := cs.takeWhile Char.isDigit
  let n := Nat.ofDigitChars 10 ds 0
  if ds = [] ∨ 2 ^ 64 ≤ n then none else some (if negative then (2 ^ 64 - n) % 2 ^ 64 else n)

def componentsJoined (l : List String) : String := String.ofList ([':'].intercalate (l.map String.toList))

def componentsSeparated (s : String) : List String := (s.toList.splitOn ':').map String.ofList

/-- The ways in which a property is stored. -/
inductive Kind
  | data
  | text
  | dictionary
  | array
  | port
  | integer
  | tick
  | flag
  | proto
  | ipv6
  | compressionMode
  | minTLSVersion
  | tlsCertProfile
deriving DecidableEq, Repr

/-- The values that a setter takes and that a getter returns. -/
def Kind.Value : Kind → Type
  | .data => Option NSData
  | .text => Option String
  | .dictionary => Option Dictionary
  | .array => Option (List String)
  | .port | .tick => UInt64
  | .integer => Int64
  | .flag => Bool
  | .proto => OpenVPNTransportProtocol
  | .ipv6 => OpenVPNIPv6Preference
  | .compressionMode => OpenVPNCompressionMode
  | .minTLSVersion => OpenVPNMinTLSVersion
  | .tlsCertProfile => OpenVPNTLSCertProfile

def Kind.Stored : Kind → Type
  | .dictionary => List KeyValue
  | .integer => Int
  | .tick => Nat
  | .flag => Bool
  | .data | .text | .array | .port | .proto | .ipv6 | .compressionMode | .minTLSVersion | .tlsCertProfile =>
      String

variable (F : Foundation)

/-- `std::string((const char *)bytes)`: it ends at the first zero, in the buffer or behind it. -/
def fileContentText (fileContent : Option NSData) : String :=
  fileContent.elim "" fun data => if data.bytes = [] then "" else bytesText
    ((data.bytes ++ data.behind).takeWhile (· ≠ 0))

def fileContent (content : String) : Option NSData :=
  if content = "" then none else some ⟨textBytes content, F.behind (textBytes content)⟩

def keyValues (d : Option Dictionary) : List KeyValue :=
  d.elim [] fun d => d.entries.map fun e => ⟨cStr e.1, cStr e.2⟩

def dictionaryOf (l : List KeyValue) : Option Dictionary :=
  if l = [] then none
  else some (F.enumerated (.ofList (l.map fun param => (cStr param.key, cStr param.value))))

def components (s : String) : Option (List String) :=
  if s = "" then none else some (componentsSeparated (cStr s))

def Kind.store : (k : Kind) → k.Value → k.Stored
  | .data, v => fileContentText v
  | .text, v => Option.elim v "" cStr
  | .dictionary, v => keyValues v
  | .array, v => Option.elim v "" fun l => cStr (componentsJoined l)
  | .port, v => toString (UInt64.toNat v)
  | .integer, v => (Int64.toInt32 v).toInt
  | .tick, v => (UInt64.toUInt32 v).toNat
  | .flag, v => v
  | .proto, v => getValueFromTransportProtocol v
  | .ipv6, v => getValueFromIPv6Preference v
  | .compressionMode, v => getValueFromCompressionMode v
  | .minTLSVersion, v => getValueFromMinTLS v
  | .tlsCertProfile, v => getValueFromTLSCertProfile v

def Kind.load : (k : Kind) → k.Stored → k.Value
  | .data, s => fileContent F s
  | .text, s => textObject s
  | .dictionary, l => dictionaryOf F l
  | .array, s => components s
  | .port, s => UInt64.ofNat ((stoul s).getD 0)
  | .integer, n => Int64.ofInt n
  | .tick, n => UInt64.ofNat n
  | .flag, b => b
  | .proto, s => getTransportProtocolFromValue (cStr s)
  | .ipv6, s => getIPv6PreferenceFromValue (cStr s)
  | .compressionMode, s => getCompressionModeFromValue (cStr s)
  | .minTLSVersion, s => getMinTLSFromValue (cStr s)
  | .tlsCertProfile, s => getTLSCertProfileFromValue (cStr s)

/-- The values of the declared types. Those of an enumeration are any integers. -/
def Kind.Given : Kind → Type
  | .data => Option NSData
  | .text => Option NSString
  | .dictionary => Option NSDictionary
  | .array => Option (List NSString)
  | .port | .tick => UInt64
  | .integer | .proto | .ipv6 | .compressionMode | .minTLSVersion | .tlsCertProfile => Int64
  | .flag => Bool

def transportProtocols : List OpenVPNTransportProtocol := [.udp, .tcp, .adaptive, .default]

def ipv6Preferences : List OpenVPNIPv6Preference := [.enabled, .disabled, .default]

def compressionModes : List OpenVPNCompressionMode := [.enabled, .disabled, .asym, .default]

def minTLSVersions : List OpenVPNMinTLSVersion := [.disabled, .version10, .version11, .version12, .default]

def tlsCertProfiles : List OpenVPNTLSCertProfile :=
  [.legacy, .preferred, .suiteB, .legacyDefault, .preferredDefault, .default]

/-- The raw value of a case is its place. -/
def rawValue {ε : Type} [DecidableEq ε] (cases : List ε) (v : ε) : Int64 := Int64.ofNat (cases.idxOf v)

def caseOfRawValue {ε : Type} (cases : List ε) (n : Int64) : Option ε :=
  if 0 ≤ n then cases[n.toNatClampNeg]? else none

def ifGiven {α β : Type} (f : α → Option β) : Option α → Option (Option β)
  | none => some none
  | some a => (f a).map some

/-- What a setter makes of its argument. It does not come back (`none`) where it hands the `NULL` of a string
without a UTF-8 form to `std::string`, or that of the nil which the table of an enumeration has for an
integer that is no case; with assertions on, the latter raises an exception. -/
def Kind.accept : (k : Kind) → k.Given → Option k.Value
  | .data, g => some g
  | .text, g => ifGiven NSString.utf8String g
  | .dictionary, g => ifGiven NSDictionary.utf8 g
  | .array, g => ifGiven (fun l : List NSString => l.mapM NSString.utf8String) g
  | .port, g | .tick, g => some g
  | .integer, g => some g
  | .flag, g => some g
  | .proto, g => caseOfRawValue transportProtocols g
  | .ipv6, g => caseOfRawValue ipv6Preferences g
  | .compressionMode, g => caseOfRawValue compressionModes g
  | .minTLSVersion, g => caseOfRawValue minTLSVersions g
  | .tlsCertProfile, g => caseOfRawValue tlsCertProfiles g

/-- A value as one of the declared type. -/
def Kind.given : (k : Kind) → k.Value → k.Given
  | .data, v => v
  | .text, v => Option.map NSString.text v
  | .dictionary, v => Option.map NSDictionary.ofTexts v
  | .array, v => Option.map (List.map NSString.text) v
  | .port, v | .tick, v => v
  | .integer, v => v
  | .flag, v => v
  | .proto, v => rawValue transportProtocols v
  | .ipv6, v => rawValue ipv6Preferences v
  | .compressionMode, v => rawValue compressionModes v
  | .minTLSVersion, v => rawValue minTLSVersions v
  | .tlsCertProfile, v => rawValue tlsCertProfiles v

/-- A list of all the cases of an enumeration. -/
structure Listed {ε : Type} (cases : List ε) : Prop where
  all : ∀ v, v ∈ cases
  nodup : cases.Nodup
  length : cases.length < 2 ^ 63

theorem transportProtocols_listed : Listed transportProtocols :=
  ⟨fun v => by cases v <;> decide, by decide, by decide⟩

theorem ipv6Preferences_listed : Listed ipv6Preferences := ⟨fun v => by cases v <;> decide, by decide, by decide⟩

theorem compressionModes_listed : Listed compressionModes := ⟨fun v => by cases v <;> decide, by decide, by decide⟩

theorem minTLSVersions_listed : Listed minTLSVersions := ⟨fun v => by cases v <;> decide, by decide, by decide⟩

theorem tlsCertProfiles_listed : Listed tlsCertProfiles := ⟨fun v => by cases v <;> decide, by decide, by decide⟩

theorem caseOfRawValue_eq_some {ε : Type} [DecidableEq ε] {cases : List ε} (h : Listed cases) {n : Int64} {v : ε} :
    caseOfRawValue cases n = some v ↔ n = rawValue cases v := by
  unfold caseOfRawValue rawValue
  constructor
  · intro hn
    by_cases hpos : 0 ≤ n
    · rw [if_pos hpos] at hn
      obtain ⟨hlt, rfl⟩ := List.getElem?_eq_some_iff.mp hn
      rw [h.nodup.idxOf_getElem, Int64.ofNat_toNatClampNeg n hpos]
    · rw [if_neg hpos] at hn
      cases hn
  · rintro rfl
    have hlt : cases.idxOf v < 2 ^ 63 := (List.idxOf_lt_length_of_mem (h.all v)).trans h.length
    have hpos : (0 : Int64) ≤ Int64.ofNat (cases.idxOf v) := by
      rw [Int64.le_iff_toInt_le, Int64.toInt_ofNat_of_lt hlt, Int64.toInt_zero]
      exact Int.natCast_nonneg _
    rw [if_pos hpos, Int64.toNatClampNeg_ofNat_of_lt hlt, List.getElem?_idxOf (h.all v)]

theorem ifGiven_eq_some {α β : Type} {f : α → Option β} {g : β → α} (h : ∀ {a b}, f a = some b ↔ a = g b)
    {a : Option α} {b : Option β} : ifGiven f a = some b ↔ a = b.map g := by
  cases a with
  | none => cases b <;> simp [ifGiven]
  | some a =>
      cases b with
      | none => simp [ifGiven]
      | some b => simp [ifGiven, h]

theorem utf8String_eq_some {s : NSString} {t : String} : s.utf8String = some t ↔ s = .text t := by
  cases s <;> simp [NSString.utf8String]

theorem utf8_eq_some {d : NSDictionary} {t : Dictionary} : d.utf8 = some t ↔ d = .ofTexts t := by
  obtain ⟨entries, hnodup⟩ := d
  obtain ⟨texts, htexts⟩ := t
  simp only [NSDictionary.utf8, NSDictionary.ofTexts, NSDictionary.mk.injEq, ← mapM_eq_some utf8Entry_eq_some]
  split <;> simp_all

/-- What a setter accepts is a value, and every value is accepted. -/
theorem accept_eq_some {k : Kind} {g : k.Given} {v : k.Value} : k.accept g = some v ↔ g = k.given v := by
  cases k with
  | data | port | integer | tick | flag => exact Option.some_inj
  | text => exact ifGiven_eq_some utf8String_eq_some
  | dictionary => exact ifGiven_eq_some utf8_eq_some
  | array => exact ifGiven_eq_some (mapM_eq_some utf8String_eq_some)
  | proto => exact caseOfRawValue_eq_some transportProtocols_listed
  | ipv6 => exact caseOfRawValue_eq_some ipv6Preferences_listed
  | compressionMode => exact caseOfRawValue_eq_some compressionModes_listed
  | minTLSVersion => exact caseOfRawValue_eq_some minTLSVersions_listed
  | tlsCertProfile => exact caseOfRawValue_eq_some tlsCertProfiles_listed

/-- The properties in the order of the header. -/
inductive Property
  | fileContent
  | settings
  | guiVersion
  | ssoMethods
  | hardwareAdressOverride
  | platformVersion
  | server
  | port
  | proto
  | ipv6
  | connectionTimeout
  | tunPersist
  | googleDNSFallback
  | synchronousDNSLookup
  | autologinSessions
  | retryOnAuthFailed
  | disableClientCert
  | sslDebugLevel
  | compressionMode
  | privateKeyPassword
  | keyDirection
  | forceCiphersuitesAESCBC
  | minTLSVersion
  | tlsCertProfile
  | tlsCipherList
  | tlsCiphersuitesList
  | peerInfo
  | echo
  | info
  | clockTick
deriving DecidableEq, Repr

def Property.kind : Property → Kind
  | .fileContent => .data
  | .settings | .peerInfo => .dictionary
  | .guiVersion | .ssoMethods | .hardwareAdressOverride | .platformVersion | .server | .privateKeyPassword => .text
  | .port => .port
  | .proto => .proto
  | .ipv6 => .ipv6
  | .connectionTimeout | .sslDebugLevel | .keyDirection => .integer
  | .tunPersist | .googleDNSFallback | .synchronousDNSLookup | .autologinSessions | .retryOnAuthFailed
  | .disableClientCert | .forceCiphersuitesAESCBC | .echo | .info => .flag
  | .compressionMode => .compressionMode
  | .minTLSVersion => .minTLSVersion
  | .tlsCertProfile => .tlsCertProfile
  | .tlsCipherList | .tlsCiphersuitesList => .array
  | .clockTick => .tick

/-- The field of `_config` behind a property. -/
def field (c : Config) : (q : Property) → q.kind.Stored
  | .fileContent => c.content
  | .settings => c.contentList
  | .guiVersion => c.guiVersion
  | .ssoMethods => c.ssoMethods
  | .hardwareAdressOverride => c.hwAddrOverride
  | .platformVersion => c.platformVersion
  | .server => c.serverOverride
  | .port => c.portOverride
  | .proto => c.protoOverride
  | .ipv6 => c.ipv6
  | .connectionTimeout => c.connTimeout
  | .tunPersist => c.tunPersist
  | .googleDNSFallback => c.googleDnsFallback
  | .synchronousDNSLookup => c.synchronousDnsLookup
  | .autologinSessions => c.autologinSessions
  | .retryOnAuthFailed => c.retryOnAuthFailed
  | .disableClientCert => c.disableClientCert
  | .sslDebugLevel => c.sslDebugLevel
  | .compressionMode => c.compressionMode
  | .privateKeyPassword => c.privateKeyPassword
  | .keyDirection => c.defaultKeyDirection
  | .forceCiphersuitesAESCBC => c.forceAesCbcCiphersuites
  | .minTLSVersion => c.tlsVersionMinOverride
  | .tlsCertProfile => c.tlsCertProfileOverride
  | .tlsCipherList => c.tlsCipherList
  | .tlsCiphersuitesList => c.tlsCiphersuitesList
  | .peerInfo => c.peerInfo
  | .echo => c.echo
  | .info => c.info
  | .clockTick => c.clockTickMS

def setField (c : Config) : (q : Property) → q.kind.Stored → Config
  | .fileContent, x => { c with content := x }
  | .settings, x => { c with contentList := x }
  | .guiVersion, x => { c with guiVersion := x }
  | .ssoMethods, x => { c with ssoMethods := x }
  | .hardwareAdressOverride, x => { c with hwAddrOverride := x }
  | .platformVersion, x => { c with platformVersion := x }
  | .server, x => { c with serverOverride := x }
  | .port, x => { c with portOverride := x }
  | .proto, x => { c with protoOverride := x }
  | .ipv6, x => { c with ipv6 := x }
  | .connectionTimeout, x => { c with connTimeout := x }
  | .tunPersist, x => { c with tunPersist := x }
  | .googleDNSFallback, x => { c with googleDnsFallback := x }
  | .synchronousDNSLookup, x => { c with synchronousDnsLookup := x }
  | .autologinSessions, x => { c with autologinSessions := x }
  | .retryOnAuthFailed, x => { c with retryOnAuthFailed := x }
  | .disableClientCert, x => { c with disableClientCert := x }
  | .sslDebugLevel, x => { c with sslDebugLevel := x }
  | .compressionMode, x => { c with compressionMode := x }
  | .privateKeyPassword, x => { c with privateKeyPassword := x }
  | .keyDirection, x => { c with defaultKeyDirection := x }
  | .forceCiphersuitesAESCBC, x => { c with forceAesCbcCiphersuites := x }
  | .minTLSVersion, x => { c with tlsVersionMinOverride := x }
  | .tlsCertProfile, x => { c with tlsCertProfileOverride := x }
  | .tlsCipherList, x => { c with tlsCipherList := x }
  | .tlsCiphersuitesList, x => { c with tlsCiphersuitesList := x }
  | .peerInfo, x => { c with peerInfo := x }
  | .echo, x => { c with echo := x }
  | .info, x => { c with info := x }
  | .clockTick, x => { c with clockTickMS := x }

theorem field_setField_other (c : Config) (q r : Property) (x : q.kind.Stored) (h : q ≠ r) :
    field (setField c q x) r = field c r := by
  cases q <;> cases r <;> first | rfl | exact absurd rfl h

def fields : Fields Property (fun q => q.kind.Stored) Config where
  get := field
  put := setField
  get_put c q x := by cases q <;> rfl
  get_put_other := field_setField_other
  put_get c q := by cases q <;> rfl

def conversion : Conversion (fun q : Property => q.kind.Stored) (fun q => q.kind.Value) where
  store q := q.kind.store
  load q := q.kind.load F

/-- The fields that no property reaches. -/
def untouched (c : Config) : Config :=
  { Config.default with
    externalPkiAlias := c.externalPkiAlias
    proxyHost := c.proxyHost
    proxyPort := c.proxyPort
    proxyUsername := c.proxyUsername
    proxyPassword := c.proxyPassword
    proxyAllowCleartextAuth := c.proxyAllowCleartextAuth
    altProxy := c.altProxy
    dco := c.dco
    allowLocalLanAccess := c.allowLocalLanAccess
    gremlinConfig := c.gremlinConfig
    wintun := c.wintun }

theorem untouched_setField (c : Config) (q : Property) (x : q.kind.Stored) :
    untouched (setField c q x) = untouched c := by
  cases q <;> rfl

theorem config_ext (c d : Config) (hrest : untouched c = untouched d) (h : ∀ q, field c q = field d q) :
    c = d := by
  have hf (q : Property) := h q
  cases c
  cases d
  simp only [untouched, Config.mk.injEq, true_and] at hrest
  simp only [Config.mk.injEq]
  exact ⟨hf .fileContent, hf .settings, hf .guiVersion, hf .ssoMethods, hf .hardwareAdressOverride,
    hf .platformVersion, hf .server, hf .port, hf .proto, hf .ipv6, hf .connectionTimeout, hf .tunPersist,
    hf .googleDNSFallback, hf .synchronousDNSLookup, hf .autologinSessions, hf .retryOnAuthFailed,
    hrest.1, hf .disableClientCert, hf .sslDebugLevel, hf .compressionMode, hf .privateKeyPassword,
    hf .keyDirection, hf .forceCiphersuitesAESCBC, hf .minTLSVersion, hf .tlsCertProfile, hf .tlsCipherList,
    hf .tlsCiphersuitesList, hf .peerInfo, hrest.2.1, hrest.2.2.1, hrest.2.2.2.1, hrest.2.2.2.2.1,
    hrest.2.2.2.2.2.1, hrest.2.2.2.2.2.2.1, hrest.2.2.2.2.2.2.2.1, hf .echo, hf .info,
    hrest.2.2.2.2.2.2.2.2.1, hf .clockTick, hrest.2.2.2.2.2.2.2.2.2.1, hrest.2.2.2.2.2.2.2.2.2.2⟩

end OpenVPNAdapter.OpenVPNConfiguration
