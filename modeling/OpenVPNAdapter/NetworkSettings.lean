import Mathlib.Tactic.Simps.Basic

namespace OpenVPNAdapter.NetworkSettings

structure NEIPv4Route where
  destinationAddress : String
  destinationSubnetMask : String
  gatewayAddress : Option String
deriving DecidableEq, Repr

structure NEIPv6Route where
  destinationAddress : String
  destinationNetworkPrefixLength : Int
  gatewayAddress : Option String
deriving DecidableEq, Repr

@[simps] def NEIPv4Route.defaultRoute : NEIPv4Route := ⟨"0.0.0.0", "0.0.0.0", none⟩

@[simps] def NEIPv6Route.defaultRoute : NEIPv6Route := ⟨"::", 0, none⟩

structure NEIPv4Settings where
  addresses : List String
  subnetMasks : List String
  includedRoutes : List NEIPv4Route
  excludedRoutes : List NEIPv4Route
deriving DecidableEq, Repr

structure NEIPv6Settings where
  addresses : List String
  networkPrefixLengths : List Int
  includedRoutes : List NEIPv6Route
  excludedRoutes : List NEIPv6Route
deriving DecidableEq, Repr

structure NEDNSSettings where
  servers : List String
  searchDomains : List String
deriving DecidableEq, Repr

structure NEProxyServer where
  address : String
  port : Int
deriving DecidableEq, Repr

/-- A URL is kept as the text it was made from. -/
structure NEProxySettings where
  autoProxyConfigurationEnabled : Bool
  proxyAutoConfigurationURL : Option String
  exceptionList : List String
  httpServer : Option NEProxyServer
  httpEnabled : Bool
  httpsServer : Option NEProxyServer
  httpsEnabled : Bool
deriving DecidableEq, Repr

structure NEPacketTunnelNetworkSettings where
  tunnelRemoteAddress : String
  ipv4Settings : Option NEIPv4Settings
  ipv6Settings : Option NEIPv6Settings
  dnsSettings : Option NEDNSSettings
  proxySettings : Option NEProxySettings
  mtu : Option Int
deriving DecidableEq, Repr

structure Builder where
  remoteAddress : Option String
  ipv4DefaultGateway : Option String
  ipv6DefaultGateway : Option String
  mtu : Option Int
  ipv4LocalAddresses : List String
  ipv4SubnetMasks : List String
  ipv4IncludedRoutes : List NEIPv4Route
  ipv4ExcludedRoutes : List NEIPv4Route
  ipv6LocalAddresses : List String
  ipv6NetworkPrefixLengths : List Int
  ipv6IncludedRoutes : List NEIPv6Route
  ipv6ExcludedRoutes : List NEIPv6Route
  dnsServers : List String
  searchDomains : List String
  proxyExceptionList : List String
  autoProxyConfigurationEnabled : Bool
  proxyAutoConfigurationURL : Option String
  httpProxyServerEnabled : Bool
  httpProxyServer : Option NEProxyServer
  httpsProxyServerEnabled : Bool
  httpsProxyServer : Option NEProxyServer
deriving DecidableEq, Repr

def Builder.empty : Builder where
  remoteAddress := none
  ipv4DefaultGateway := none
  ipv6DefaultGateway := none
  mtu := none
  ipv4LocalAddresses := []
  ipv4SubnetMasks := []
  ipv4IncludedRoutes := []
  ipv4ExcludedRoutes := []
  ipv6LocalAddresses := []
  ipv6NetworkPrefixLengths := []
  ipv6IncludedRoutes := []
  ipv6ExcludedRoutes := []
  dnsServers := []
  searchDomains := []
  proxyExceptionList := []
  autoProxyConfigurationEnabled := false
  proxyAutoConfigurationURL := none
  httpProxyServerEnabled := false
  httpProxyServer := none
  httpsProxyServerEnabled := false
  httpsProxyServer := none

namespace Builder

variable (b : Builder)

def ipv4Settings : Option NEIPv4Settings :=
  if b.ipv4LocalAddresses = [] then none
  else some
    { addresses := b.ipv4LocalAddresses
      subnetMasks := b.ipv4SubnetMasks
      includedRoutes := b.ipv4IncludedRoutes
      excludedRoutes := b.ipv4ExcludedRoutes }

def ipv6Settings : Option NEIPv6Settings :=
  if b.ipv6LocalAddresses = [] then none
  else some
    { addresses := b.ipv6LocalAddresses
      networkPrefixLengths := b.ipv6NetworkPrefixLengths
      includedRoutes := b.ipv6IncludedRoutes
      excludedRoutes := b.ipv6ExcludedRoutes }

/-- The search domains go along with the servers or not at all. -/
def dnsSettings : Option NEDNSSettings :=
  if b.dnsServers = [] then none
  else some { servers := b.dnsServers, searchDomains := b.searchDomains }

def proxySettings : Option NEProxySettings :=
  if b.autoProxyConfigurationEnabled || b.httpProxyServerEnabled || b.httpsProxyServerEnabled then some
    { autoProxyConfigurationEnabled := b.autoProxyConfigurationEnabled
      proxyAutoConfigurationURL := b.proxyAutoConfigurationURL
      exceptionList := b.proxyExceptionList
      httpServer := b.httpProxyServer
      httpEnabled := b.httpProxyServerEnabled
      httpsServer := b.httpsProxyServer
      httpsEnabled := b.httpsProxyServerEnabled }
  else none

/-- `networkSettings`; `none` is the failure of its first assertion. The assertions on the
numbers of addresses always hold, as addresses and masks are appended together. -/
def networkSettings : Option NEPacketTunnelNetworkSettings :=
  match b.remoteAddress with
  | none => none
  | some remoteAddress =>
      if remoteAddress = "" then none
      else some
        { tunnelRemoteAddress := remoteAddress
          ipv4Settings := b.ipv4Settings
          ipv6Settings := b.ipv6Settings
          dnsSettings := b.dnsSettings
          proxySettings := b.proxySettings
          mtu := b.mtu }

end Builder

end OpenVPNAdapter.NetworkSettings
