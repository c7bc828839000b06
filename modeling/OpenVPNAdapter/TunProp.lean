import OpenVPNAdapter.Options
import OpenVPNAdapter.TunBuilder

namespace OpenVPNAdapter.TunProp

open Library.Effect Library.Driving Text IP Options TunBuilder

inductive Layer
  | none
  | osiLayer2
  | osiLayer3
deriving DecidableEq, Repr

def Layer.value : Layer → Int
  | .none => 0
  | .osiLayer2 => 2
  | .osiLayer3 => 3

/-- `TunProp::Config`; of the remote list only its cached addresses are used. -/
structure Config where
  sessionName : String
  mtu : Int
  googleDnsFallback : Bool
  allowLocalLanAccess : Bool
  layer : Layer
  remoteList : Option (List Addr)
  remoteBypass : Bool
deriving DecidableEq, Repr

/-! The bits of `RedirectGatewayFlags`. -/

def RG_ENABLE : BitVec 32 := 1
def RG_REROUTE_GW : BitVec 32 := 2
def RG_LOCAL : BitVec 32 := 4
def RG_AUTO_LOCAL : BitVec 32 := 8
def RG_DEF1 : BitVec 32 := 16
def RG_BYPASS_DHCP : BitVec 32 := 32
def RG_BYPASS_DNS : BitVec 32 := 64
def RG_BLOCK_LOCAL : BitVec 32 := 128
def RG_IPv4 : BitVec 32 := 256
def RG_IPv6 : BitVec 32 := 512

variable {σ : Type} (sys : Sys) (tb : TunBuilderBase σ)

abbrev RedirectGatewayFlags := BitVec 32

namespace RedirectGatewayFlags

def addFlag (flags : RedirectGatewayFlags) (f : String) : RedirectGatewayFlags :=
  if f = "local" then flags ||| RG_LOCAL
  else if f = "autolocal" then flags ||| RG_AUTO_LOCAL
  else if f = "def1" then flags ||| RG_DEF1
  else if f = "bypass-dhcp" then flags ||| RG_BYPASS_DHCP
  else if f = "bypass-dns" then flags ||| RG_BYPASS_DNS
  else if f = "block-local" then flags ||| RG_BLOCK_LOCAL
  else if f = "ipv4" then flags ||| RG_IPv4
  else if f = "!ipv4" then flags &&& ~~~RG_IPv4
  else if f = "ipv6" then flags ||| RG_IPv6
  else if f = "!ipv6" then flags &&& ~~~RG_IPv6
  else flags

/-- The arguments of one option, from argument 1 on. -/
def addArgs (flags : RedirectGatewayFlags) (o : Opt) : Except String RedirectGatewayFlags :=
  (List.range' 1 (o.length - 1)).foldlM (fun flags j => do return addFlag flags (← o.get sys j 64)) flags

def doinit (flags : RedirectGatewayFlags) (opt : OptionList) (directive : String) (redirectGateway : Bool) :
    Except String RedirectGatewayFlags :=
  match instances opt directive with
  | [] => .ok flags
  | o :: os =>
      let flags := flags ||| RG_ENABLE
      let flags := if redirectGateway then flags ||| RG_REROUTE_GW else flags &&& ~~~RG_REROUTE_GW
      (o :: os).foldlM (addArgs sys) flags

def init (opt : OptionList) : Except String RedirectGatewayFlags := do
  let flags ← doinit sys RG_IPv4 opt "redirect-gateway" true
  doinit sys flags opt "redirect-private" false

def rgEnabled (flags : RedirectGatewayFlags) : Bool :=
  flags &&& (RG_ENABLE ||| RG_REROUTE_GW) = RG_ENABLE ||| RG_REROUTE_GW

def ipv4Enabled (flags : RedirectGatewayFlags) : Bool := rgEnabled flags && flags &&& RG_IPv4 ≠ 0

def ipv6Enabled (flags : RedirectGatewayFlags) : Bool := rgEnabled flags && flags &&& RG_IPv6 ≠ 0

end RedirectGatewayFlags

/-- `IPVerFlags`: the families that are configured, and the flags. -/
structure IPVerFlags where
  v4 : Bool
  v6 : Bool
  flags : RedirectGatewayFlags
deriving DecidableEq, Repr

def IPVerFlags.rgv4 (ipv : IPVerFlags) : Bool := ipv.v4 && ipv.flags.ipv4Enabled

def IPVerFlags.rgv6 (ipv : IPVerFlags) : Bool := ipv.v6 && ipv.flags.ipv6Enabled

inductive Topology
  | net30
  | subnet
deriving DecidableEq, Repr

def topology (opt : OptionList) : Except String Topology :=
  match getPtr opt "topology" with
  | none => .ok .net30
  | some o => do
      let topstr ← o.get sys 1 16
      if topstr = "subnet" then return .subnet
      else if topstr = "net30" then return .net30
      else throw "option_error: only topology 'subnet' and 'net30' supported"

def routeGateway (opt : OptionList) : Except String Addr :=
  match getPtr opt "route-gateway" with
  | none => .ok .unspec
  | some o => do
      let gateway ← Addr.fromString sys (← o.get sys 1 256) "route-gateway"
      ensure (gateway.version = .v4)
        "tun_prop_error: route-gateway is not IPv4 (IPv6 route-gateway is passed with ifconfig-ipv6 directive)"
      return gateway

/-- The address of `ifconfig` in topology subnet. -/
def ifconfigSubnet (opt : OptionList) (o : Opt) : Except String Call := do
  let pair ← AddrMaskPair.fromString sys (← o.get sys 1 256) (← o.getOptional sys 2 256) "ifconfig"
  let gateway ← routeGateway sys opt
  ensure (pair.version = .v4) "tun_prop_error: ifconfig address is not IPv4 (topology subnet)"
  return .addAddress (pair.addr.toString sys) (← pair.netmask.prefixLen) (gateway.toString sys) false false

/-- The address of `ifconfig` in topology net30, whose netmask is 255.255.255.252. -/
def ifconfigNet30 (o : Opt) : Except String Call := do
  let remote ← Addr.fromString sys (← o.get sys 2 256) ""
  let local' ← Addr.fromString sys (← o.get sys 1 256) ""
  let netmask ← Addr.fromString sys "255.255.255.252" ""
  ensure (local'.version = .v4 ∧ remote.version = .v4)
    "tun_prop_error: ifconfig address is not IPv4 (topology net30)"
  ensure ((← local'.and netmask) = (← remote.and netmask))
    "tun_prop_error: ifconfig addresses are not in the same /30 subnet (topology net30)"
  return .addAddress (local'.toString sys) (← netmask.prefixLen) (remote.toString sys) false true

/-- The gateway of `ifconfig-ipv6`, which is optional. -/
def gatewayIPv6 (o : Opt) : Except String String :=
  if 3 ≤ o.length then do
    let gateway ← Addr.fromString sys (← o.get sys 2 256) "ifconfig-ipv6"
    ensure (gateway.version = .v6) "tun_prop_error: ifconfig-ipv6 gateway is not IPv6"
    return gateway.toString sys
  else .ok ""

def ifconfigIPv6 (o : Opt) : Except String Call := do
  let pair ← AddrMaskPair.fromString1 sys (← o.get sys 1 256) "ifconfig-ipv6"
  ensure (pair.version = .v6) "tun_prop_error: ifconfig-ipv6 address is not IPv6"
  let gateway ← gatewayIPv6 sys o
  return .addAddress (pair.addr.toString sys) (← pair.netmask.prefixLen) gateway true false

/-- The address of `ifconfig`, with what is thrown when it is refused. -/
def ifconfig (opt : OptionList) : Except String (Option (Call × String)) := do
  let top ← topology sys opt
  match getPtr opt "ifconfig", top with
  | none, _ => return none
  | some o, .subnet =>
      return some (← ifconfigSubnet sys opt o,
        "tun_prop_error: tun_builder_add_address IPv4 failed (topology subnet)")
  | some o, .net30 =>
      return some (← ifconfigNet30 sys o, "tun_prop_error: tun_builder_add_address IPv4 failed (topology net30)")

def ifconfigV6 (opt : OptionList) : Except String (Option (Call × String)) :=
  match getPtr opt "ifconfig-ipv6" with
  | none => return none
  | some o => return some (← ifconfigIPv6 sys o, "tun_prop_error: tun_builder_add_address IPv6 failed")

def addTunAddress (r : Except String (Option (Call × String))) : Act σ Bool := do
  match ← liftM r with
  | none => return false
  | some (c, what) =>
      require tb c what
      return true

/-- `tun_ifconfig`; the result says which of IPv4 and IPv6 got an address. -/
def tunIfconfig (opt : OptionList) : Act σ (Bool × Bool) := do
  let v4 ← addTunAddress tb (ifconfig sys opt)
  let v6 ← addTunAddress tb (ifconfigV6 sys opt)
  return (v4, v6)

def routeMetricDefault (o : Opt) : Except String Call := do
  let metric ← o.getNum sys 1
  ensure (0 ≤ metric ∧ metric ≤ 1000000) "tun_prop_error: route-metric is out of range"
  return .setRouteMetricDefault metric

def addRouteMetricDefault (opt : OptionList) : Act σ Unit :=
  attemptOr () (match getPtr opt "route-metric" with
    | none => pure ()
    | some o => do
        require tb (← liftM (routeMetricDefault sys o))
          "tun_prop_error: tun_builder_set_route_metric_default failed")

/-- The call of `add_route_tunbuilder`, with no emulation of excluded routes. -/
def routeCall (add : Bool) (addr : Addr) (prefixLength : Nat) (metric : Int) (ipv6 : Bool) : Call :=
  if add then .addRoute (addr.toString sys) prefixLength metric ipv6
  else .excludeRoute (addr.toString sys) prefixLength metric ipv6

def addRouteTunbuilder (c : Call) : Act σ Unit :=
  require tb c (match c with
    | .addRoute .. => "tun_prop_route_error: tun_builder_add_route failed"
    | _ => "tun_prop_route_error: tun_builder_exclude_route failed")

/-- Whether a route is added, and not excluded. -/
def routeTarget (o : Opt) (targetIndex : Nat) : Except String Bool :=
  if targetIndex + 1 ≤ o.length then
    let target := o.getD targetIndex ""
    if target = "vpn_gateway" then .ok true
    else if target = "net_gateway" then .ok false
    else .error "tun_prop_route_error: route destinations other than vpn_gateway or net_gateway are not supported"
  else .ok true

/-- A `route` or a `route-ipv6` option once its pair is parsed. -/
def checkedRoute (o : Opt) (pair : AddrMaskPair) (metricIndex : Nat) (v : Version) : Except String Call := do
  let metric ← o.getNumIn sys metricIndex (-1) 0 1000000
  ensure ((← pair.isCanonical) = true) "tun_prop_error: route is not canonical"
  ensure (pair.version = v)
    (if v = .v6 then "tun_prop_error: route is not IPv6" else "tun_prop_error: route is not IPv4")
  let add ← routeTarget o (metricIndex - 1)
  return routeCall sys add pair.addr (← pair.netmask.prefixLen) metric (v = .v6)

def route (o : Opt) : Except String Call := do
  let pair ← AddrMaskPair.fromString sys (← o.get sys 1 256) (← o.getOptional sys 2 256) "route"
  checkedRoute sys o pair 4 .v4

def routeIPv6 (o : Opt) : Except String Call := do
  let pair ← AddrMaskPair.fromString1 sys (← o.get sys 1 256) "route-ipv6"
  checkedRoute sys o pair 3 .v6

/-- One turn of a loop of `add_routes`: what the option throws is logged and the loop goes on. -/
def addRouteOption (r : Except String Call) : Act σ Unit :=
  attemptOr () (do addRouteTunbuilder tb (← liftM r))

def addRoutes (opt : OptionList) (ipv : IPVerFlags) : Act σ Unit := do
  if ipv.v4 then (instances opt "route").forM fun o => addRouteOption tb (route sys o)
  if ipv.v6 then (instances opt "route-ipv6").forM fun o => addRouteOption tb (routeIPv6 sys o)

def addRemoteBypassRoutes (remoteList : List Addr) (serverAddr : Addr) : Act σ Unit :=
  remoteList.forM fun addr =>
    if addr ≠ serverAddr then
      addRouteOption tb (.ok (routeCall sys false addr (Addr.versionSize addr.version) (-1) (addr.version = .v6)))
    else pure ()

/-- The loops of `DOMAIN` and `PROXY_BYPASS` over the arguments `js` of an option. -/
def addTerms (call : String → Call) (what : String) (o : Opt) : List Nat → Act σ Unit
  | [] => pure ()
  | j :: js => do
      let v ← liftM (o.get sys j 256)
      requireAll tb what ((bySpace v).map call)
      addTerms call what o js

def termIndices (o : Opt) : List Nat := List.range' 2 (o.length - 2)

def dnsServerCall (o : Opt) : Except String Call := do
  o.exactArgs sys 3
  let ip ← Addr.fromString sys (← o.get sys 2 256) "dns-server-ip"
  return .addDnsServer (ip.toString sys) (ip.version = .v6)

def adapterDomainSuffixCall (o : Opt) : Except String Call := do
  o.exactArgs sys 3
  return .setAdapterDomainSuffix (← o.get sys 2 256)

def winsServerCall (o : Opt) : Except String Call := do
  o.exactArgs sys 3
  let ip ← Addr.fromString sys (← o.get sys 2 256) "wins-server-ip"
  ensure (ip.version = .v4) "tun_prop_dhcp_option_error: WINS addresses must be IPv4"
  return .addWinsServer (ip.toString sys)

/-- One `dhcp-option` of a type; the result says whether it added a DNS server. -/
def dhcpOptionOf (type : String) (o : Opt) : Act σ Bool := do
  if type = "DNS" ∨ type = "DNS6" then
    require tb (← liftM (dnsServerCall sys o)) "tun_prop_dhcp_option_error: tun_builder_add_dns_server failed"
    return true
  else if type = "DOMAIN" then
    liftM (o.minArgs sys 3)
    addTerms sys tb .addSearchDomain "tun_prop_dhcp_option_error: tun_builder_add_search_domain failed" o
      (termIndices o)
    return false
  else if type = "ADAPTER_DOMAIN_SUFFIX" then
    require tb (← liftM (adapterDomainSuffixCall sys o))
      "tun_prop_dhcp_option_error: tun_builder_set_adapter_domain_suffix"
    return false
  else if type = "PROXY_BYPASS" then
    liftM (o.minArgs sys 3)
    addTerms sys tb .addProxyBypass "tun_prop_dhcp_option_error: tun_builder_add_proxy_bypass" o (termIndices o)
    return false
  else if type = "WINS" then
    require tb (← liftM (winsServerCall sys o)) "tun_prop_dhcp_option_error: tun_builder_add_wins_server failed"
    return false
  else return false

def dhcpOption (o : Opt) : Act σ Bool := do dhcpOptionOf sys tb (← liftM (o.get sys 1 64)) o

/-- The proxies that `add_dhcp_options` collects in its local variables. -/
structure Proxies where
  autoConfigUrl : String
  httpHost : String
  httpPort : Nat
  httpsHost : String
  httpsPort : Nat
deriving DecidableEq, Repr

/-- `HostPort::validate_port`. -/
def validatePort (port : String) : Option Nat := parseNumberValidate port 5 1 65535

/-- What one `dhcp-option` does to the local variables. The host is stored before the port is
looked at, so a bad port leaves the new host with the old port. -/
def proxyOption (x : Proxies) (o : Opt) : Proxies :=
  match o.get sys 1 64 with
  | .ok "PROXY_AUTO_CONFIG_URL" => match (do o.exactArgs sys 3; o.get sys 2 256 : Except String String) with
    | .ok url => { x with autoConfigUrl := url }
    | .error _ => x
  | .ok "PROXY_HTTP" => match (do o.exactArgs sys 4; o.get sys 2 256 : Except String String) with
    | .ok host => match (o.get sys 3 256).toOption.bind validatePort with
      | some port => { x with httpHost := host, httpPort := port }
      | none => { x with httpHost := host }
    | .error _ => x
  | .ok "PROXY_HTTPS" => match (do o.exactArgs sys 4; o.get sys 2 256 : Except String String) with
    | .ok host => match (o.get sys 3 256).toOption.bind validatePort with
      | some port => { x with httpsHost := host, httpsPort := port }
      | none => { x with httpsHost := host }
    | .error _ => x
  | _ => x

def proxies (os : List Opt) : Proxies := os.foldl (proxyOption sys) ⟨"", "", 0, "", 0⟩

def setProxies (x : Proxies) : Act σ Unit := do
  requireIf tb (x.httpHost ≠ "") (.setProxyHttp x.httpHost x.httpPort)
    "tun_prop_dhcp_option_error: tun_builder_set_proxy_http"
  requireIf tb (x.httpsHost ≠ "") (.setProxyHttps x.httpsHost x.httpsPort)
    "tun_prop_dhcp_option_error: tun_builder_set_proxy_https"
  requireIf tb (x.autoConfigUrl ≠ "") (.setProxyAutoConfigUrl x.autoConfigUrl)
    "tun_prop_dhcp_option_error: tun_builder_set_proxy_auto_config_url"

/-- The loop of `add_dhcp_options` over the calls it makes; what an option throws is logged. -/
def dhcpOptions (added : Bool) : List Opt → Act σ Bool
  | [] => return added
  | o :: os => do
      let a ← attemptOr false (dhcpOption sys tb o)
      dhcpOptions (added || a) os

/-- `add_dhcp_options`. The proxy options of the loop make no call, so they are read off apart. -/
def addDhcpOptions (opt : OptionList) : Act σ Bool := do
  let os := instances opt "dhcp-option"
  let added ← dhcpOptions sys tb false os
  attemptOr () (setProxies tb (proxies sys os))
  return added

def addGoogleDns : Act σ Unit :=
  requireAll tb "tun_prop_dhcp_option_error: tun_builder_add_dns_server failed for Google DNS"
    [.addDnsServer "8.8.8.8" false, .addDnsServer "8.8.4.4" false]

/-- `tun_builder_get_local_networks` of `TunBuilderBase`, which nothing overrides here. -/
def localNetworks (_ipv6 : Bool) : List String := []

/-- The options with the routes that keep local networks out of the tunnel. -/
def excludedRoutesOptions (opt : OptionList) : OptionList :=
  opt ++ (localNetworks false).map (fun exRoute => ["route", exRoute, "", "net_gateway"]) ++
    (localNetworks true).map fun exRoute => ["route-ipv6", exRoute, "", "net_gateway"]

variable (serverAddr : Addr) (config : Config) (opt : OptionList)

/-- The families that are configured, and the redirect-gateway flags; with layer 2 both
families count. -/
def ipVerFlags (v4 v6 : Bool) : Except String IPVerFlags := do
  let layer2 : Bool := config.layer = .osiLayer2
  ensure (v4 || v6 || layer2) "tun_prop_error: one of ifconfig or ifconfig-ipv6 must be specified"
  return ⟨v4 || layer2, v6 || layer2, ← RedirectGatewayFlags.init sys opt⟩

/-- `configure_builder` once the addresses are set and the flags are known. -/
def configureWith (ipv : IPVerFlags) : Act σ Unit := do
  addRouteMetricDefault sys tb opt
  (if config.remoteBypass then addRemoteBypassRoutes sys tb (config.remoteList.getD []) serverAddr else pure ())
  addRoutes sys tb (if config.allowLocalLanAccess then excludedRoutesOptions opt else opt) ipv
  require tb (.rerouteGw ipv.rgv4 ipv.rgv6 ipv.flags)
    "tun_prop_route_error: tun_builder_reroute_gw for redirect-gateway failed"
  let added ← addDhcpOptions sys tb opt
  let _ ← invoke tb (.setBlockIPv6 (exists? opt "block-ipv6"))
  (if ipv.rgv4 && !added && config.googleDnsFallback then addGoogleDns tb else pure ())
  require tb (.setRemoteAddress (serverAddr.toString sys) (serverAddr.version = .v6))
    "tun_prop_error: tun_builder_set_remote_address failed"
  require tb (.setLayer config.layer.value) "tun_prop_error: tun_builder_set_layer failed"
  requireIf tb (config.mtu ≠ 0) (.setMtu config.mtu) "tun_prop_error: tun_builder_set_mtu failed"
  requireIf tb (config.sessionName ≠ "") (.setSessionName config.sessionName)
    "tun_prop_error: tun_builder_set_session_name failed"

/-- `configure_builder` without route emulation, as on the targets of the adapter. -/
def configureBuilder : Act σ Unit := do
  let (v4, v6) ← tunIfconfig sys tb opt
  configureWith sys tb serverAddr config opt (← liftM (ipVerFlags sys config opt v4 v6))

end OpenVPNAdapter.TunProp
