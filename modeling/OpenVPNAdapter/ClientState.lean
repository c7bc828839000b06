import OpenVPNAdapter.Library.Effect
import OpenVPNAdapter.ClientConfig
import OpenVPNAdapter.Options

namespace OpenVPNAdapter.ClientAPI

open Library.Effect Text ClientConfig Options

/-- The parts of the core that are taken as they are: what the profile parser makes of
the content and the content list, and the clean-up of texts for messages. -/
structure Core where
  parseClientConfig : String → List KeyValue → OptionList × EvalConfig
  utf8Printable : String → Nat → String

/-- The fields of `Private::ClientState` that the API client sets through `eval_config`. -/
structure ClientState where
  options : OptionList
  eval : EvalConfig
  serverOverride : String
  portOverride : String
  protoOverride : Protocol
  ipv6 : IPv6Setting
  connTimeout : Int
  tunPersist : Bool
  wintun : Bool
  googleDnsFallback : Bool
  synchronousDnsLookup : Bool
  autologinSessions : Bool
  retryOnAuthFailed : Bool
  privateKeyPassword : String
  externalPkiAlias : String
  disableClientCert : Bool
  sslDebugLevel : Int
  defaultKeyDirection : Int
  tlsVersionMinOverride : String
  tlsCertProfileOverride : String
  tlsCipherList : String
  tlsCiphersuiteList : String
  guiVersion : String
  ssoMethods : String
  allowLocalLanAccess : Bool
  hwAddrOverride : String
  platformVersion : String
  compressionMode : CompressionMode
  extraPeerInfo : List KeyValue
  httpProxyOptions : Option HttpProxyOptions
  clockTickMs : Nat
  altProxy : Bool
  dco : Bool
  echo : Bool
  info : Bool
deriving DecidableEq, Repr

/-- A fresh client state. `allow_local_lan_access` has no initialiser, so its value is a
parameter. -/
def ClientState.fresh (allowLocalLanAccess : Bool) : ClientState where
  options := []
  eval := .empty
  serverOverride := ""
  portOverride := ""
  protoOverride := .none
  ipv6 := .default
  connTimeout := 0
  tunPersist := false
  wintun := false
  googleDnsFallback := false
  synchronousDnsLookup := false
  autologinSessions := false
  retryOnAuthFailed := false
  privateKeyPassword := ""
  externalPkiAlias := ""
  disableClientCert := false
  sslDebugLevel := 0
  defaultKeyDirection := -1
  tlsVersionMinOverride := ""
  tlsCertProfileOverride := ""
  tlsCipherList := ""
  tlsCiphersuiteList := ""
  guiVersion := ""
  ssoMethods := ""
  allowLocalLanAccess := allowLocalLanAccess
  hwAddrOverride := ""
  platformVersion := ""
  compressionMode := .no
  extraPeerInfo := []
  httpProxyOptions := none
  clockTickMs := 0
  altProxy := false
  dco := false
  echo := false
  info := false

variable (core : Core) (config : Config)

/-- The checks `parse_config` makes before it parses the profile. -/
def validate : Except String Unit := do
  if config.protoOverride ≠ "" then
    let _ ← Protocol.parse config.protoOverride
  if config.ipv6 ≠ "" then
    let _ ← IPv6Setting.parse config.ipv6

def parseConfig (s : ClientState) : EvalConfig × ClientState :=
  match validate config with
  | .error what =>
      ({ EvalConfig.empty with
        error := true
        message := core.utf8Printable ("ERR_PROFILE_GENERIC: " ++ what) 256 }, s)
  | .ok () =>
      let (options, cc) := core.parseClientConfig config.content config.contentList
      ({ cc with remoteHost := if config.serverOverride = "" then cc.remoteHost else config.serverOverride },
        { s with options := options })

def setProtoOverride : Act ClientState Unit :=
  if config.protoOverride ≠ "" then do
    let proto ← liftM (Protocol.parse config.protoOverride)
    modify fun s => { s with protoOverride := proto }
  else pure ()

def setIPv6 : Act ClientState Unit :=
  if config.ipv6 ≠ "" then do
    let ipv6 ← liftM (IPv6Setting.parse config.ipv6)
    modify fun s => { s with ipv6 := ipv6 }
  else pure ()

def setCompressionMode : Act ClientState Unit :=
  if config.compressionMode ≠ "" then do
    let mode ← liftM (CompressionMode.parse config.compressionMode)
    modify fun s => { s with compressionMode := mode }
  else pure ()

def setExternalPkiAlias (eval : EvalConfig) : Act ClientState Unit :=
  if eval.externalPki then modify fun s => { s with externalPkiAlias := config.externalPkiAlias }
  else pure ()

/-- The library is built without `OPENVPN_GREMLIN`. -/
def setGremlinConfig : Act ClientState Unit :=
  if config.gremlinConfig ≠ "" then throw "client not built with OPENVPN_GREMLIN" else pure ()

/-- `set_proxy_server`: the port is checked, the host is not. -/
def proxyOptions : Except String HttpProxyOptions :=
  match parseNumberValidate config.proxyPort 5 1 65535 with
  | none => .error ("host_port_error: bad http proxy port port number: " ++
      core.utf8Printable config.proxyPort 16)
  | some _ => .ok
      { host := config.proxyHost
        port := config.proxyPort
        username := config.proxyUsername
        password := config.proxyPassword
        allowCleartextAuth := config.proxyAllowCleartextAuth }

def setHttpProxyOptions : Act ClientState Unit :=
  if config.proxyHost ≠ "" then do
    let ho ← liftM (proxyOptions core config)
    modify fun s => { s with httpProxyOptions := some ho }
  else pure ()

def parseExtras (eval : EvalConfig) : Act ClientState Unit := do
  modify fun s => { s with
    serverOverride := config.serverOverride
    portOverride := config.portOverride
    connTimeout := config.connTimeout
    tunPersist := config.tunPersist
    wintun := config.wintun
    googleDnsFallback := config.googleDnsFallback
    synchronousDnsLookup := config.synchronousDnsLookup
    autologinSessions := config.autologinSessions
    retryOnAuthFailed := config.retryOnAuthFailed
    privateKeyPassword := config.privateKeyPassword }
  setProtoOverride config
  setIPv6 config
  setCompressionMode config
  setExternalPkiAlias config eval
  modify fun s => { s with
    disableClientCert := config.disableClientCert
    sslDebugLevel := config.sslDebugLevel
    defaultKeyDirection := config.defaultKeyDirection
    tlsVersionMinOverride := config.tlsVersionMinOverride
    tlsCertProfileOverride := config.tlsCertProfileOverride
    tlsCipherList := config.tlsCipherList
    tlsCiphersuiteList := config.tlsCiphersuitesList
    allowLocalLanAccess := config.allowLocalLanAccess
    guiVersion := config.guiVersion
    ssoMethods := config.ssoMethods
    platformVersion := config.platformVersion
    hwAddrOverride := config.hwAddrOverride
    altProxy := config.altProxy
    dco := config.dco
    echo := config.echo
    info := config.info
    clockTickMs := config.clockTickMS }
  setGremlinConfig config
  modify fun s => { s with extraPeerInfo := config.peerInfo }
  setHttpProxyOptions core config

def evalConfig (s : ClientState) : EvalConfig × ClientState :=
  let (eval, s) := parseConfig core config s
  if eval.error then (eval, s)
  else
    let (r, s) := exec (parseExtras core config eval) s
    let eval := match r with
      | .ok () => eval
      | .error what => { eval with error := true, message := core.utf8Printable what 256 }
    (eval, { s with eval := eval })

/-- `OpenVPNClient` of the adapter: the core's state and the stored copy of the
configuration that `tun_builder_persist` reads. -/
structure Client where
  config : Option Config
  state : ClientState
deriving DecidableEq, Repr

def Client.fresh (allowLocalLanAccess : Bool) : Client := ⟨none, .fresh allowLocalLanAccess⟩

/-- `OpenVPNClient::apply_config`: the copy is replaced before the configuration is looked at. -/
def applyConfig (c : Client) : EvalConfig × Client :=
  let c := { c with config := some config }
  let (eval, s) := evalConfig core config c.state
  (eval, { c with state := s })

/-- `applyConfiguration:error:`, which returns nil when the evaluation reports an error. -/
def applyConfiguration (c : Client) : Option EvalConfig × Client :=
  let (eval, c) := applyConfig core config c
  if eval.error then (none, c) else (some eval, c)

end OpenVPNAdapter.ClientAPI
