import OpenVPNAdapter.ConfigurationLenses
import OpenVPNAdapter.ConnectionObjects

namespace OpenVPNAdapter.Archiving

open Library.Properties Text ClientConfig OpenVPNConfiguration ConfigurationLenses ConnectionObjects

/-- What an `NSCoder` keeps under a key: an object or nil, an integer or a flag. -/
inductive Archived (D : Type)
  | text (object : Option String)
  | data (object : Option NSData)
  | dictionary (object : Option Dictionary)
  | array (object : Option (List String))
  | date (object : Option D)
  | integer (value : Int64)
  | bool (value : Bool)

variable {D : Type}

/-! A decoded value of another class is nil, 0 or NO, as is one that is not there. -/

def decodeText : Option (Archived D) → Option String
  | some (.text object) => object
  | _ => none

def decodeData : Option (Archived D) → Option NSData
  | some (.data object) => object
  | _ => none

def decodeDictionary : Option (Archived D) → Option Dictionary
  | some (.dictionary object) => object
  | _ => none

def decodeArray : Option (Archived D) → Option (List String)
  | some (.array object) => object
  | _ => none

def decodeDate : Option (Archived D) → Option D
  | some (.date object) => object
  | _ => none

def decodeInteger : Option (Archived D) → Int64
  | some (.integer value) => value
  | _ => 0

def decodeBool : Option (Archived D) → Bool
  | some (.bool value) => value
  | _ => false

/-- A class that is copied and archived property by property: how a new object starts, and the
properties that `copyWithZone:`, `encodeWithCoder:` and `initWithCoder:` list. -/
structure ModelClass (π : Type) (S V : π → Type) (σ ν : Type) where
  fields : Fields π S σ
  conversion : Conversion S V
  coding : Coding V String ν
  new : σ
  copied : List π
  encoded : List π
  decoded : List π

namespace ModelClass

variable {π σ ν : Type} [DecidableEq π] {S V : π → Type} (m : ModelClass π S V σ ν)

def copyWithZone (c : σ) : σ := copy m.fields m.conversion m.copied m.new c

def encodeWithCoder (c : σ) : List (String × ν) := encode m.fields m.conversion m.coding m.encoded c

def initWithCoder (archive : List (String × ν)) : σ :=
  decode m.fields m.conversion m.coding m.decoded m.new archive

theorem initWithCoder_encodeWithCoder (hsame : m.decoded = m.copied) (hall : ∀ q ∈ m.copied, q ∈ m.encoded)
    (c : σ) : m.initWithCoder (m.encodeWithCoder c) = m.copyWithZone c := by
  rw [initWithCoder, encodeWithCoder, decode_encode _ _ _ (hsame ▸ hall), hsame, copyWithZone]

theorem copyWithZone_eq (hplain : ∀ q x, m.conversion.store q (m.conversion.load q x) = x)
    (hall : ∀ q, q ∈ m.copied) (hext : ∀ c d, (∀ q, m.fields.get c q = m.fields.get d q) → c = d) (c : σ) :
    m.copyWithZone c = c :=
  hext _ _ fun q => by rw [copyWithZone, get_copy, if_pos (hall q), hplain]

end ModelClass

inductive ConnectionInfoProperty
  | user
  | serverHost
  | serverPort
  | serverProto
  | serverIP
  | vpnIPv4
  | vpnIPv6
  | gatewayIPv4
  | gatewayIPv6
  | clientIP
  | tunName
deriving DecidableEq, Repr

def connectionInfoFields : Fields ConnectionInfoProperty (fun _ => Option String) OpenVPNConnectionInfo where
  get o
    | .user => o.user
    | .serverHost => o.serverHost
    | .serverPort => o.serverPort
    | .serverProto => o.serverProto
    | .serverIP => o.serverIP
    | .vpnIPv4 => o.vpnIPv4
    | .vpnIPv6 => o.vpnIPv6
    | .gatewayIPv4 => o.gatewayIPv4
    | .gatewayIPv6 => o.gatewayIPv6
    | .clientIP => o.clientIP
    | .tunName => o.tunName
  put o
    | .user, x => { o with user := x }
    | .serverHost, x => { o with serverHost := x }
    | .serverPort, x => { o with serverPort := x }
    | .serverProto, x => { o with serverProto := x }
    | .serverIP, x => { o with serverIP := x }
    | .vpnIPv4, x => { o with vpnIPv4 := x }
    | .vpnIPv6, x => { o with vpnIPv6 := x }
    | .gatewayIPv4, x => { o with gatewayIPv4 := x }
    | .gatewayIPv6, x => { o with gatewayIPv6 := x }
    | .clientIP, x => { o with clientIP := x }
    | .tunName, x => { o with tunName := x }
  get_put o q x := by cases q <;> rfl
  get_put_other o q r x h := by cases q <;> cases r <;> first | rfl | exact absurd rfl h
  put_get o q := by cases q <;> rfl

def plain {π : Type} {S : π → Type} : Conversion S S := ⟨fun _ x => x, fun _ x => x⟩

def connectionInfoKey : ConnectionInfoProperty → String
  | .user => "user"
  | .serverHost => "serverHost"
  | .serverPort => "serverPort"
  | .serverProto => "serverProto"
  | .serverIP => "serverIP"
  | .vpnIPv4 => "vpnIPv4"
  | .vpnIPv6 => "vpnIPv6"
  | .gatewayIPv4 => "gatewayIPv4"
  | .gatewayIPv6 => "gatewayIPv6"
  | .clientIP => "clientIP"
  | .tunName => "tunName"

def connectionInfo :
    ModelClass ConnectionInfoProperty (fun _ => Option String) (fun _ => Option String) OpenVPNConnectionInfo
      (Archived D) where
  fields := connectionInfoFields
  conversion := plain
  coding := {
    key := connectionInfoKey
    box := fun _ v => .text v
    unbox := fun _ a => decodeText a
    key_inj := fun q r h => by cases q <;> cases r <;> first | rfl | exact absurd h (by decide)
    unbox_box := fun _ _ => rfl }
  new := ⟨none, none, none, none, none, none, none, none, none, none, none⟩
  copied := [.user, .serverHost, .serverPort, .serverProto, .serverIP, .vpnIPv4, .vpnIPv6, .gatewayIPv4,
    .gatewayIPv6, .clientIP, .tunName]
  encoded := [.user, .serverHost, .serverPort, .serverProto, .serverIP, .vpnIPv4, .vpnIPv6, .gatewayIPv4,
    .gatewayIPv6, .clientIP, .tunName]
  decoded := [.user, .serverHost, .serverPort, .serverProto, .serverIP, .vpnIPv4, .vpnIPv6, .gatewayIPv4,
    .gatewayIPv6, .clientIP, .tunName]

theorem connectionInfo_copy (o : OpenVPNConnectionInfo) :
    (connectionInfo (D := D)).copyWithZone o = o :=
  connectionInfo.copyWithZone_eq (fun _ _ => rfl) (fun q => by cases q <;> simp [connectionInfo])
    (fun _ _ h => OpenVPNConnectionInfo.ext (h .user) (h .serverHost) (h .serverPort) (h .serverProto)
      (h .serverIP) (h .vpnIPv4) (h .vpnIPv6) (h .gatewayIPv4) (h .gatewayIPv6) (h .clientIP) (h .tunName)) o

inductive InterfaceStatsProperty
  | bytesIn
  | bytesOut
  | packetsIn
  | packetsOut
  | errorsIn
  | errorsOut
deriving DecidableEq, Repr

def interfaceStatsFields : Fields InterfaceStatsProperty (fun _ => Int64) OpenVPNInterfaceStats where
  get o
    | .bytesIn => o.bytesIn
    | .bytesOut => o.bytesOut
    | .packetsIn => o.packetsIn
    | .packetsOut => o.packetsOut
    | .errorsIn => o.errorsIn
    | .errorsOut => o.errorsOut
  put o
    | .bytesIn, x => { o with bytesIn := x }
    | .bytesOut, x => { o with bytesOut := x }
    | .packetsIn, x => { o with packetsIn := x }
    | .packetsOut, x => { o with packetsOut := x }
    | .errorsIn, x => { o with errorsIn := x }
    | .errorsOut, x => { o with errorsOut := x }
  get_put o q x := by cases q <;> rfl
  get_put_other o q r x h := by cases q <;> cases r <;> first | rfl | exact absurd rfl h
  put_get o q := by cases q <;> rfl

def interfaceStatsKey : InterfaceStatsProperty → String
  | .bytesIn => "bytesIn"
  | .bytesOut => "bytesOut"
  | .packetsIn => "packetsIn"
  | .packetsOut => "packetsOut"
  | .errorsIn => "errorsIn"
  | .errorsOut => "errorsOut"

def interfaceStats :
    ModelClass InterfaceStatsProperty (fun _ => Int64) (fun _ => Int64) OpenVPNInterfaceStats (Archived D) where
  fields := interfaceStatsFields
  conversion := plain
  coding := {
    key := interfaceStatsKey
    box := fun _ v => .integer v
    unbox := fun _ a => decodeInteger a
    key_inj := fun q r h => by cases q <;> cases r <;> first | rfl | exact absurd h (by decide)
    unbox_box := fun _ _ => rfl }
  new := ⟨0, 0, 0, 0, 0, 0⟩
  copied := [.bytesIn, .bytesOut, .packetsIn, .packetsOut, .errorsIn, .errorsOut]
  encoded := [.bytesIn, .bytesOut, .packetsIn, .packetsOut, .errorsIn, .errorsOut]
  decoded := [.bytesIn, .bytesOut, .packetsIn, .packetsOut, .errorsIn, .errorsOut]

theorem interfaceStats_copy (o : OpenVPNInterfaceStats) :
    (interfaceStats (D := D)).copyWithZone o = o :=
  interfaceStats.copyWithZone_eq (fun _ _ => rfl) (fun q => by cases q <;> simp [interfaceStats])
    (fun _ _ h => OpenVPNInterfaceStats.ext (h .bytesIn) (h .bytesOut) (h .packetsIn) (h .packetsOut)
      (h .errorsIn) (h .errorsOut)) o

inductive TransportStatsProperty
  | bytesIn
  | bytesOut
  | packetsIn
  | packetsOut
  | lastPacketReceived
deriving DecidableEq, Repr

def TransportStatsProperty.Value (D : Type) : TransportStatsProperty → Type
  | .lastPacketReceived => Option D
  | .bytesIn | .bytesOut | .packetsIn | .packetsOut => Int64

def transportStatsFields :
    Fields TransportStatsProperty (TransportStatsProperty.Value D) (OpenVPNTransportStats D) where
  get o
    | .bytesIn => o.bytesIn
    | .bytesOut => o.bytesOut
    | .packetsIn => o.packetsIn
    | .packetsOut => o.packetsOut
    | .lastPacketReceived => o.lastPacketReceived
  put o
    | .bytesIn, x => { o with bytesIn := x }
    | .bytesOut, x => { o with bytesOut := x }
    | .packetsIn, x => { o with packetsIn := x }
    | .packetsOut, x => { o with packetsOut := x }
    | .lastPacketReceived, x => { o with lastPacketReceived := x }
  get_put o q x := by cases q <;> rfl
  get_put_other o q r x h := by cases q <;> cases r <;> first | rfl | exact absurd rfl h
  put_get o q := by cases q <;> rfl

def transportStatsKey : TransportStatsProperty → String
  | .bytesIn => "bytesIn"
  | .bytesOut => "bytesOut"
  | .packetsIn => "packetsIn"
  | .packetsOut => "packetsOut"
  | .lastPacketReceived => "lastPacketReceived"

def transportStats :
    ModelClass TransportStatsProperty (TransportStatsProperty.Value D) (TransportStatsProperty.Value D)
      (OpenVPNTransportStats D) (Archived D) where
  fields := transportStatsFields
  conversion := plain
  coding := {
    key := transportStatsKey
    box := fun q => match q with
      | .lastPacketReceived => fun v => .date v
      | .bytesIn | .bytesOut | .packetsIn | .packetsOut => fun v => .integer v
    unbox := fun q => match q with
      | .lastPacketReceived => fun a => decodeDate a
      | .bytesIn | .bytesOut | .packetsIn | .packetsOut => fun a => decodeInteger a
    key_inj := fun q r h => by cases q <;> cases r <;> first | rfl | exact absurd h (by decide)
    unbox_box := fun q _ => by cases q <;> rfl }
  new := ⟨0, 0, 0, 0, none⟩
  copied := [.bytesIn, .bytesOut, .packetsIn, .packetsOut, .lastPacketReceived]
  encoded := [.bytesIn, .bytesOut, .packetsIn, .packetsOut, .lastPacketReceived]
  decoded := [.bytesIn, .bytesOut, .packetsIn, .packetsOut, .lastPacketReceived]

theorem transportStats_copy (o : OpenVPNTransportStats D) : transportStats.copyWithZone o = o :=
  transportStats.copyWithZone_eq (fun _ _ => rfl) (fun q => by cases q <;> simp [transportStats])
    (fun _ _ h => OpenVPNTransportStats.ext (h .bytesIn) (h .bytesOut) (h .packetsIn) (h .packetsOut)
      (h .lastPacketReceived)) o

inductive SessionTokenProperty
  | username
  | session
deriving DecidableEq, Repr

def sessionTokenFields : Fields SessionTokenProperty (fun _ => Option String) OpenVPNSessionToken where
  get o
    | .username => o.username
    | .session => o.session
  put o
    | .username, x => { o with username := x }
    | .session, x => { o with session := x }
  get_put o q x := by cases q <;> rfl
  get_put_other o q r x h := by cases q <;> cases r <;> first | rfl | exact absurd rfl h
  put_get o q := by cases q <;> rfl

def sessionTokenKey : SessionTokenProperty → String
  | .username => "username"
  | .session => "session"

def sessionToken :
    ModelClass SessionTokenProperty (fun _ => Option String) (fun _ => Option String) OpenVPNSessionToken
      (Archived D) where
  fields := sessionTokenFields
  conversion := plain
  coding := {
    key := sessionTokenKey
    box := fun _ v => .text v
    unbox := fun _ a => decodeText a
    key_inj := fun q r h => by cases q <;> cases r <;> first | rfl | exact absurd h (by decide)
    unbox_box := fun _ _ => rfl }
  new := ⟨none, none⟩
  copied := [.username, .session]
  encoded := [.username, .session]
  decoded := [.username, .session]

theorem sessionToken_copy (o : OpenVPNSessionToken) : (sessionToken (D := D)).copyWithZone o = o :=
  sessionToken.copyWithZone_eq (fun _ _ => rfl) (fun q => by cases q <;> simp [sessionToken])
    (fun _ _ h => OpenVPNSessionToken.ext (h .username) (h .session)) o

/-! An enumeration is archived as its raw value. -/

def ofRawValue {ε : Type} (cases : List ε) (first : ε) (n : Int64) : ε := (cases[n.toNatClampNeg]?).getD first

def boxKind : (k : Kind) → k.Value → Archived D
  | .data, v => .data v
  | .text, v => .text v
  | .dictionary, v => .dictionary v
  | .array, v => .array v
  | .port, v | .tick, v => .integer (UInt64.toInt64 v)
  | .integer, v => .integer v
  | .flag, v => .bool v
  | .proto, v => .integer (rawValue transportProtocols v)
  | .ipv6, v => .integer (rawValue ipv6Preferences v)
  | .compressionMode, v => .integer (rawValue compressionModes v)
  | .minTLSVersion, v => .integer (rawValue minTLSVersions v)
  | .tlsCertProfile, v => .integer (rawValue tlsCertProfiles v)

def unboxKind : (k : Kind) → Option (Archived D) → k.Value
  | .data, a => decodeData a
  | .text, a => decodeText a
  | .dictionary, a => decodeDictionary a
  | .array, a => decodeArray a
  | .port, a | .tick, a => (decodeInteger a).toUInt64
  | .integer, a => decodeInteger a
  | .flag, a => decodeBool a
  | .proto, a => ofRawValue transportProtocols .udp (decodeInteger a)
  | .ipv6, a => ofRawValue ipv6Preferences .enabled (decodeInteger a)
  | .compressionMode, a => ofRawValue compressionModes .enabled (decodeInteger a)
  | .minTLSVersion, a => ofRawValue minTLSVersions .disabled (decodeInteger a)
  | .tlsCertProfile, a => ofRawValue tlsCertProfiles .legacy (decodeInteger a)

theorem unboxKind_boxKind (k : Kind) (v : k.Value) : unboxKind k (some (boxKind (D := D) k v)) = v := by
  cases k with
  | proto | ipv6 | compressionMode | minTLSVersion | tlsCertProfile => cases v <;> rfl
  | _ => rfl

def configurationKey : Property → String
  | .fileContent => "fileContent"
  | .settings => "settings"
  | .guiVersion => "guiVersion"
  | .ssoMethods => "ssoMethods"
  | .hardwareAdressOverride => "hardwareAdressOverride"
  | .platformVersion => "platformVersion"
  | .server => "server"
  | .port => "port"
  | .proto => "proto"
  | .ipv6 => "ipv6"
  | .connectionTimeout => "connectionTimeout"
  | .tunPersist => "tunPersist"
  | .googleDNSFallback => "googleDNSFallback"
  | .synchronousDNSLookup => "synchronousDNSLookup"
  | .autologinSessions => "autologinSessions"
  | .retryOnAuthFailed => "retryOnAuthFailed"
  | .disableClientCert => "disableClientCert"
  | .sslDebugLevel => "sslDebugLevel"
  | .compressionMode => "compressionMode"
  | .privateKeyPassword => "privateKeyPassword"
  | .keyDirection => "keyDirection"
  | .forceCiphersuitesAESCBC => "forceCiphersuitesAESCBC"
  | .minTLSVersion => "minTLSVersion"
  | .tlsCertProfile => "tlsCertProfile"
  | .tlsCipherList => "tlsCipherList"
  | .tlsCiphersuitesList => "tlsCiphersuitesList"
  | .peerInfo => "peerInfo"
  | .echo => "echo"
  | .info => "info"
  | .clockTick => "clockTick"

def allProperties : List Property :=
  [.fileContent, .settings, .guiVersion, .ssoMethods, .hardwareAdressOverride,
    .platformVersion, .server, .port, .proto, .ipv6, .connectionTimeout, .tunPersist,
    .googleDNSFallback, .synchronousDNSLookup, .autologinSessions, .retryOnAuthFailed,
    .disableClientCert, .sslDebugLevel, .compressionMode, .privateKeyPassword, .keyDirection,
    .forceCiphersuitesAESCBC, .minTLSVersion, .tlsCertProfile, .tlsCipherList,
    .tlsCiphersuitesList, .peerInfo, .echo, .info, .clockTick]

theorem configurationKey_inj (q r : Property) (h : configurationKey q = configurationKey r) : q = r := by
  have hall : ∀ q, q ∈ allProperties := fun q => by cases q <;> decide
  have hnodup : (allProperties.map configurationKey).Nodup := by decide +kernel
  exact List.inj_on_of_nodup_map hnodup (hall q) (hall r) h

/-! The three lists of `OpenVPNConfiguration` leave out `port`, `retryOnAuthFailed` and the two
lists of ciphers. -/

def copiedProperties : List Property :=
  [.fileContent, .settings, .guiVersion, .ssoMethods, .hardwareAdressOverride, .platformVersion,
    .server, .proto, .ipv6, .connectionTimeout, .tunPersist, .googleDNSFallback,
    .synchronousDNSLookup, .autologinSessions, .disableClientCert, .sslDebugLevel,
    .compressionMode, .privateKeyPassword, .keyDirection, .forceCiphersuitesAESCBC, .minTLSVersion,
    .tlsCertProfile, .peerInfo, .echo, .info, .clockTick]

def encodedProperties : List Property :=
  [.fileContent, .settings, .guiVersion, .ssoMethods, .hardwareAdressOverride, .platformVersion,
    .server, .proto, .ipv6, .connectionTimeout, .tunPersist, .googleDNSFallback,
    .synchronousDNSLookup, .autologinSessions, .disableClientCert, .sslDebugLevel,
    .compressionMode, .privateKeyPassword, .keyDirection, .forceCiphersuitesAESCBC, .minTLSVersion,
    .tlsCertProfile, .peerInfo, .echo, .info, .clockTick]

def decodedProperties : List Property :=
  [.fileContent, .settings, .guiVersion, .ssoMethods, .hardwareAdressOverride, .platformVersion,
    .server, .proto, .ipv6, .connectionTimeout, .tunPersist, .googleDNSFallback,
    .synchronousDNSLookup, .autologinSessions, .disableClientCert, .sslDebugLevel,
    .compressionMode, .privateKeyPassword, .keyDirection, .forceCiphersuitesAESCBC, .minTLSVersion,
    .tlsCertProfile, .peerInfo, .echo, .info, .clockTick]

variable (F : Foundation)

def configurationClass :
    ModelClass Property (fun q => q.kind.Stored) (fun q => q.kind.Value) Config (Archived D) where
  fields := fields
  conversion := conversion F
  coding := {
    key := configurationKey
    box := fun q v => boxKind q.kind v
    unbox := fun q a => unboxKind q.kind a
    key_inj := configurationKey_inj
    unbox_box := fun q v => unboxKind_boxKind q.kind v }
  new := Config.default
  copied := copiedProperties
  encoded := encodedProperties
  decoded := decodedProperties

/-- A value of one of the model classes. A configuration is what some property writes, each with a value
that its setter takes, made of a new one. -/
inductive Model (D : Type)
  | connectionInfo (o : OpenVPNConnectionInfo)
  | interfaceStats (o : OpenVPNInterfaceStats)
  | transportStats (o : OpenVPNTransportStats D)
  | sessionToken (o : OpenVPNSessionToken)
  | configuration (ws : List (Σ q : Property, q.kind.Value))

/-- Two configurations that read alike in every property and hand the same to the core. -/
def Alike (c d : Config) : Prop := (∀ q : Property, Same q.kind (readProperty F c q) (readProperty F d q)) ∧ c = d

/-- An object, its copy and the object out of its archive have the same value. -/
def Lossless : Model D → Prop
  | .connectionInfo o =>
      (connectionInfo (D := D)).copyWithZone o = o ∧
        connectionInfo.initWithCoder (connectionInfo.encodeWithCoder o : List (String × Archived D)) = o
  | .interfaceStats o =>
      (interfaceStats (D := D)).copyWithZone o = o ∧
        interfaceStats.initWithCoder (interfaceStats.encodeWithCoder o : List (String × Archived D)) = o
  | .transportStats o =>
      transportStats.copyWithZone o = o ∧ transportStats.initWithCoder (transportStats.encodeWithCoder o) = o
  | .sessionToken o =>
      (sessionToken (D := D)).copyWithZone o = o ∧
        sessionToken.initWithCoder (sessionToken.encodeWithCoder o : List (String × Archived D)) = o
  | .configuration ws =>
      let c := configuration F ws
      let m := configurationClass (D := D) F
      Alike F (m.copyWithZone c) c ∧ Alike F (m.initWithCoder (m.encodeWithCoder c)) c

/-- The configurations that survive: what is not copied is as in a new one, what an unset text is
copied as has been set, and content and dictionaries are written back as they are read. -/
structure Carried (c : Config) : Prop where
  port : c.portOverride = ""
  retryOnAuthFailed : c.retryOnAuthFailed = false
  tlsCipherList : c.tlsCipherList = ""
  tlsCiphersuitesList : c.tlsCiphersuitesList = ""
  ipv6 : c.ipv6 ≠ ""
  minTLSVersion : c.tlsVersionMinOverride ≠ ""
  tlsCertProfile : c.tlsCertProfileOverride ≠ ""
  fileContent : c.content ≠ "" → ∀ b ∈ (F.behind (textBytes c.content)).head?, b = 0
  settings : (F.enumerated (.ofList (pairs c.contentList))).entries = pairs c.contentList
  peerInfo : (F.enumerated (.ofList (pairs c.peerInfo))).entries = pairs c.peerInfo

def Survives : Model D → Prop
  | .configuration ws => Carried F (configuration F ws)
  | .connectionInfo _ | .interfaceStats _ | .transportStats _ | .sessionToken _ => True

variable {F} (ws : List (Σ q : Property, q.kind.Value))

/-- A field holds what a value was stored as, unless it is unset and one whose unset text is of
no value. -/
theorem field_stored (q : Property) :
    (∃ v, field (configuration F ws) q = q.kind.store v) ∨
      q ∈ unsetDiffers ∧ field (configuration F ws) q = field Config.default q := by
  rw [field_configuration]
  cases hlast : lastWritten ws q with
  | some v => exact .inl ⟨v, rfl⟩
  | none =>
      by_cases hq : q ∈ unsetDiffers
      · exact .inr ⟨hq, rfl⟩
      · exact .inl ⟨_, ((unset_writtenBack_iff (F := F) q).mpr hq).symm⟩

theorem stored_of_not_mem {q : Property} (hq : q ∉ unsetDiffers) :
    ∃ v, field (configuration F ws) q = q.kind.store v :=
  (field_stored ws q).resolve_right fun h => hq h.1

def WrittenBack (q : Property) : Prop :=
  q.kind.store (q.kind.load F (field (configuration F ws) q)) = field (configuration F ws) q

theorem writtenBack_of_kind {q : Property} (hdata : q.kind ≠ .data) (hdictionary : q.kind ≠ .dictionary)
    (hset : q ∉ unsetDiffers) : WrittenBack (F := F) ws q := by
  obtain ⟨v, hv⟩ := stored_of_not_mem (F := F) ws hset
  rw [WrittenBack, hv]
  exact stored_writtenBack hdata hdictionary v

theorem kind_of_unsetDiffers {q : Property} (hq : q ∈ unsetDiffers) :
    q.kind ≠ .data ∧ q.kind ≠ .dictionary := by
  cases q <;> revert hq <;> decide

theorem writtenBack_iff_set {q : Property} (hq : q ∈ unsetDiffers)
    (hstore : ∀ v, q.kind.store v ≠ field Config.default q) :
    WrittenBack (F := F) ws q ↔ field (configuration F ws) q ≠ field Config.default q := by
  rw [WrittenBack]
  rcases field_stored ws q with ⟨v, hv⟩ | ⟨-, hdefault⟩
  · rw [hv]
    obtain ⟨hdata, hdictionary⟩ := kind_of_unsetDiffers hq
    exact iff_of_true (stored_writtenBack hdata hdictionary v) (hstore v)
  · rw [hdefault]
    exact iff_of_false (fun h => (unset_writtenBack_iff q).mp h hq) fun h => h rfl

theorem fileContent_writtenBack_iff :
    WrittenBack (F := F) ws .fileContent ↔
      ((configuration F ws).content ≠ "" →
        ∀ b ∈ (F.behind (textBytes (configuration F ws).content)).head?, b = 0) := by
  obtain ⟨v, hv⟩ := stored_of_not_mem (F := F) ws (q := .fileContent) (by decide)
  have hcontent : (configuration F ws).content = fileContentText v := hv
  rw [WrittenBack, hv, hcontent]
  exact data_writtenBack_iff v

theorem settings_writtenBack_iff :
    WrittenBack (F := F) ws .settings ↔
      (F.enumerated (.ofList (pairs (configuration F ws).contentList))).entries =
        pairs (configuration F ws).contentList := by
  obtain ⟨v, hv⟩ := stored_of_not_mem (F := F) ws (q := .settings) (by decide)
  have hlist : (configuration F ws).contentList = keyValues v := hv
  rw [WrittenBack, hv, hlist]
  exact dictionary_writtenBack_iff v

theorem peerInfo_writtenBack_iff :
    WrittenBack (F := F) ws .peerInfo ↔
      (F.enumerated (.ofList (pairs (configuration F ws).peerInfo))).entries =
        pairs (configuration F ws).peerInfo := by
  obtain ⟨v, hv⟩ := stored_of_not_mem (F := F) ws (q := .peerInfo) (by decide)
  have hlist : (configuration F ws).peerInfo = keyValues v := hv
  rw [WrittenBack, hv, hlist]
  exact dictionary_writtenBack_iff v

theorem case_stored :
    (∀ v, getValueFromIPv6Preference v ≠ "") ∧ (∀ v, getValueFromMinTLS v ≠ "") ∧
      ∀ v, getValueFromTLSCertProfile v ≠ "" := by
  refine ⟨fun v => ?_, fun v => ?_, fun v => ?_⟩ <;> cases v <;> decide

theorem carried_iff :
    Carried F (configuration F ws) ↔ (∀ q ∈ copiedProperties, WrittenBack (F := F) ws q) ∧
      ∀ q, q ∉ copiedProperties → field Config.default q = field (configuration F ws) q := by
  obtain ⟨hipv6, hminTLS, hprofile⟩ := case_stored
  have hset6 := writtenBack_iff_set (F := F) ws (q := .ipv6) (by decide) hipv6
  have hsetTLS := writtenBack_iff_set (F := F) ws (q := .minTLSVersion) (by decide) hminTLS
  have hsetProfile := writtenBack_iff_set (F := F) ws (q := .tlsCertProfile) (by decide) hprofile
  constructor
  · intro h
    refine ⟨fun q hq => ?_, fun q hq => ?_⟩
    · cases q with
      | fileContent => exact (fileContent_writtenBack_iff ws).mpr h.fileContent
      | settings => exact (settings_writtenBack_iff ws).mpr h.settings
      | peerInfo => exact (peerInfo_writtenBack_iff ws).mpr h.peerInfo
      | ipv6 => exact hset6.mpr h.ipv6
      | minTLSVersion => exact hsetTLS.mpr h.minTLSVersion
      | tlsCertProfile => exact hsetProfile.mpr h.tlsCertProfile
      | port => exact absurd hq (by decide)
      | _ => exact writtenBack_of_kind ws (by decide) (by decide) (by decide)
    · cases q with
      | port => exact h.port.symm
      | retryOnAuthFailed => exact h.retryOnAuthFailed.symm
      | tlsCipherList => exact h.tlsCipherList.symm
      | tlsCiphersuitesList => exact h.tlsCiphersuitesList.symm
      | _ => exact absurd (by decide) hq
  · rintro ⟨hback, hforgotten⟩
    exact {
      port := (hforgotten .port (by decide)).symm
      retryOnAuthFailed := (hforgotten .retryOnAuthFailed (by decide)).symm
      tlsCipherList := (hforgotten .tlsCipherList (by decide)).symm
      tlsCiphersuitesList := (hforgotten .tlsCiphersuitesList (by decide)).symm
      ipv6 := hset6.mp (hback .ipv6 (by decide))
      minTLSVersion := hsetTLS.mp (hback .minTLSVersion (by decide))
      tlsCertProfile := hsetProfile.mp (hback .tlsCertProfile (by decide))
      fileContent := (fileContent_writtenBack_iff ws).mp (hback .fileContent (by decide))
      settings := (settings_writtenBack_iff ws).mp (hback .settings (by decide))
      peerInfo := (peerInfo_writtenBack_iff ws).mp (hback .peerInfo (by decide)) }

theorem copy_configuration_iff :
    (configurationClass (D := D) F).copyWithZone (configuration F ws) = configuration F ws ↔
      Carried F (configuration F ws) := by
  rw [carried_iff]
  apply (copy_eq_iff fields (conversion F) untouched_setField config_ext copiedProperties Config.default ws).trans
  constructor
  · intro h
    refine ⟨fun q hq => ?_, fun q hq => ?_⟩
    · exact (if_pos hq).mp (h q)
    · exact (if_neg hq).mp (h q)
  · rintro ⟨hback, hforgotten⟩ q
    by_cases hq : q ∈ copiedProperties
    · exact (if_pos hq).mpr (hback q hq)
    · exact (if_neg hq).mpr (hforgotten q hq)

theorem same_refl (k : Kind) (g : k.Given) : Same k g g := by
  cases k with
  | dictionary => exact List.Perm.refl _
  | _ => rfl

theorem alike_iff (c d : Config) : Alike F c d ↔ c = d :=
  ⟨And.right, fun h => h ▸ ⟨fun q => same_refl q.kind _, rfl⟩⟩

/-- The smaller classes always survive; a configuration does exactly when it is one of those. -/
theorem lossless_iff (F : Foundation) (m : Model D) : Lossless F m ↔ Survives F m := by
  cases m with
  | connectionInfo o =>
      have hcopy := connectionInfo_copy (D := D) o
      have hdecode := connectionInfo.initWithCoder_encodeWithCoder (ν := Archived D) rfl (fun _ h => h) o
      exact iff_of_true ⟨hcopy, hdecode.trans hcopy⟩ trivial
  | interfaceStats o =>
      have hcopy := interfaceStats_copy (D := D) o
      have hdecode := interfaceStats.initWithCoder_encodeWithCoder (ν := Archived D) rfl (fun _ h => h) o
      exact iff_of_true ⟨hcopy, hdecode.trans hcopy⟩ trivial
  | transportStats o =>
      have hcopy := transportStats_copy o
      have hdecode := transportStats.initWithCoder_encodeWithCoder rfl (fun _ h => h) o
      exact iff_of_true ⟨hcopy, hdecode.trans hcopy⟩ trivial
  | sessionToken o =>
      have hcopy := sessionToken_copy (D := D) o
      have hdecode := sessionToken.initWithCoder_encodeWithCoder (ν := Archived D) rfl (fun _ h => h) o
      exact iff_of_true ⟨hcopy, hdecode.trans hcopy⟩ trivial
  | configuration ws =>
      have hdecode := (configurationClass (D := D) F).initWithCoder_encodeWithCoder rfl (fun _ h => h)
        (configuration F ws)
      have hcopy := copy_configuration_iff (F := F) (D := D) ws
      rw [Lossless, hdecode, alike_iff, and_self]
      exact hcopy

def portWritten : List (Σ q : Property, q.kind.Value) := [⟨.port, (5000 : UInt64)⟩]

/-- The port of a configuration does not reach its copy. -/
theorem port_forgotten : ¬ Lossless orderedFoundation (.configuration portWritten : Model Unit) := by
  rintro ⟨⟨hread, -⟩, -⟩
  have hcopy := get_copy fields (conversion orderedFoundation) copiedProperties Config.default
    (configuration orderedFoundation portWritten) .port
  have hzero : UInt64.ofNat ((stoul "").getD 0) = 0 := by decide
  have hport : UInt64.ofNat ((stoul "").getD 0) = (5000 : UInt64) :=
    ((congrArg (Kind.load orderedFoundation .port) hcopy).symm.trans (hread .port)).trans (port_load_store 5000)
  exact absurd (hzero.symm.trans hport) (by decide)

end OpenVPNAdapter.Archiving
