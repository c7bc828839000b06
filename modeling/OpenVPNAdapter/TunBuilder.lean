import OpenVPNAdapter.Library.Driving

namespace OpenVPNAdapter.TunBuilder

/-- The setters of `TunBuilderBase`, which come between `tun_builder_new` and
`tun_builder_establish`. -/
inductive Call
  | setLayer (layer : Int)
  | setRemoteAddress (address : String) (ipv6 : Bool)
  | addAddress (address : String) (prefixLength : Int) (gateway : String) (ipv6 net30 : Bool)
  | setRouteMetricDefault (metric : Int)
  | rerouteGw (ipv4 ipv6 : Bool) (flags : BitVec 32)
  | addRoute (address : String) (prefixLength metric : Int) (ipv6 : Bool)
  | excludeRoute (address : String) (prefixLength metric : Int) (ipv6 : Bool)
  | addDnsServer (address : String) (ipv6 : Bool)
  | addSearchDomain (domain : String)
  | setMtu (mtu : Int)
  | setSessionName (name : String)
  | addProxyBypass (bypassHost : String)
  | setProxyAutoConfigUrl (url : String)
  | setProxyHttp (host : String) (port : Int)
  | setProxyHttps (host : String) (port : Int)
  | addWinsServer (address : String)
  | setBlockIPv6 (blockIPv6 : Bool)
  | setAdapterDomainSuffix (name : String)
deriving DecidableEq, Repr

abbrev TunBuilderBase (σ : Type) : Type := Library.Driving.Receiver Call σ

end OpenVPNAdapter.TunBuilder
