import OpenVPNAdapter.Text

namespace OpenVPNAdapter.ClientConfig

open Text

structure KeyValue where
  key : String
  value : String
deriving DecidableEq, Repr

structure Config where
  content : String
  contentList : List KeyValue
  guiVersion : String
  ssoMethods : String
  hwAddrOverride : String
  platformVersion : String
  serverOverride : String
  portOverride : String
  protoOverride : String
  ipv6 : String
  connTimeout : Int
  tunPersist : Bool
  googleDnsFallback : Bool
  synchronousDnsLookup : Bool
  autologinSessions : Bool
  retryOnAuthFailed : Bool
  externalPkiAlias : String
  disableClientCert : Bool
  sslDebugLevel : Int
  compressionMode : String
  privateKeyPassword : String
  defaultKeyDirection : Int
  forceAesCbcCiphersuites : Bool
  tlsVersionMinOverride : String
  tlsCertProfileOverride : String
  tlsCipherList : String
  tlsCiphersuitesList : String
  peerInfo : List KeyValue
  proxyHost : String
  proxyPort : String
  proxyUsername : String
  proxyPassword : String
  proxyAllowCleartextAuth : Bool
  altProxy : Bool
  dco : Bool
  echo : Bool
  info : Bool
  allowLocalLanAccess : Bool
  clockTickMS : Nat
  gremlinConfig : String
  wintun : Bool
deriving DecidableEq, Repr

def Config.default : Config where
  content := ""
  contentList := []
  guiVersion := ""
  ssoMethods := ""
  hwAddrOverride := ""
  platformVersion := ""
  serverOverride := ""
  portOverride := ""
  protoOverride := ""
  ipv6 := ""
  connTimeout := 0
  tunPersist := false
  googleDnsFallback := false
  synchronousDnsLookup := false
  autologinSessions := true
  retryOnAuthFailed := false
  externalPkiAlias := ""
  disableClientCert := false
  sslDebugLevel := 0
  compressionMode := ""
  privateKeyPassword := ""
  defaultKeyDirection := -1
  forceAesCbcCiphersuites := false
  tlsVersionMinOverride := ""
  tlsCertProfileOverride := ""
  tlsCipherList := ""
  tlsCiphersuitesList := ""
  peerInfo := []
  proxyHost := ""
  proxyPort := ""
  proxyUsername := ""
  proxyPassword := ""
  proxyAllowCleartextAuth := false
  altProxy := false
  dco := false
  echo := false
  info := false
  allowLocalLanAccess := false
  clockTickMS := 0
  gremlinConfig := ""
  wintun := false

structure ServerEntry where
  server : String
  friendlyName : String
deriving DecidableEq, Repr

structure EvalConfig where
  error : Bool
  message : String
  userlockedUsername : String
  profileName : String
  friendlyName : String
  autologin : Bool
  externalPki : Bool
  staticChallenge : String
  staticChallengeEcho : Bool
  privateKeyPasswordRequired : Bool
  allowPasswordSave : Bool
  remoteHost : String
  remotePort : String
  remoteProto : String
  serverList : List ServerEntry
  windowsDriver : String
deriving DecidableEq, Repr

def EvalConfig.empty : EvalConfig :=
  ⟨false, "", "", "", "", false, false, "", false, false, false, "", "", "", [], ""⟩

inductive Protocol
  | none
  | udpv4
  | tcpv4
  | udpv6
  | tcpv6
  | tlsv4
  | tlsv6
  | unixStream
  | unixDGram
  | namedPipe
deriving DecidableEq, Repr

/-- `Protocol::parse_type` with `NO_SUFFIX`. -/
def Protocol.parseType (str : String) : Protocol :=
  let s := toLower str
  if startsWith s "unix" then
    if s = "unix-stream" then .unixStream else if s = "unix-dgram" then .unixDGram else .none
  else if s = "named-pipe" then .namedPipe
  else if 3 ≤ s.toList.length then
    let s1 := String.ofList (s.toList.take 3)
    let s2 := String.ofList (s.toList.drop 3)
    if s2 = "" ∨ s2 = "4" ∨ s2 = "v4" then
      if s1 = "udp" then .udpv4 else if s1 = "tcp" then .tcpv4 else if s1 = "tls" then .tlsv4 else .none
    else if s2 = "6" ∨ s2 = "v6" then
      if s1 = "udp" then .udpv6 else if s1 = "tcp" then .tcpv6 else if s1 = "tls" then .tlsv6 else .none
    else .none
  else .none

def Protocol.parse (str : String) : Except String Protocol :=
  if toLower (cStr str) = "adaptive" then .ok .none
  else if parseType str = .none then .error ("option_error: error parsing protocol: " ++ str)
  else .ok (parseType str)

inductive IPv6Setting
  | no
  | yes
  | default
deriving DecidableEq, Repr

def IPv6Setting.parse (str : String) : Except String IPv6Setting :=
  if str = "no" then .ok .no
  else if str = "yes" then .ok .yes
  else if str = "default" then .ok .default
  else .error ("IPv6Setting: unrecognized setting: '" ++ str ++ "'")

inductive CompressionMode
  | no
  | yes
  | asym
deriving DecidableEq, Repr

/-- `ProtoContextOptions::parse_compression_mode`. -/
def CompressionMode.parse (mode : String) : Except String CompressionMode :=
  if mode = "no" then .ok .no
  else if mode = "yes" then .ok .yes
  else if mode = "asym" then .ok .asym
  else .error ("option_error: error parsing compression mode: " ++ mode)

/-- `HTTPProxyTransport::Options` as the API fills them. -/
structure HttpProxyOptions where
  host : String
  port : String
  username : String
  password : String
  allowCleartextAuth : Bool
deriving DecidableEq, Repr

end OpenVPNAdapter.ClientConfig
