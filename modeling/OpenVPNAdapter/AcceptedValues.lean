import OpenVPNAdapter.OpenVPNClient
import Mathlib.Tactic.ByContra

namespace OpenVPNAdapter.AcceptedValues

open Library.Offers Library.Driving Text IP NetworkSettings TunBuilder OpenVPNClient

variable (p : Platform)

/-! What each kind of setter passes on, as the adapter sees it. -/

@[simp] def remoteAddress : Call → Option String
  | .setRemoteAddress address _ => some (cStr address)
  | _ => none

@[simp] def ipv4Address : Call → Option (String × String)
  | .addAddress address prefixLength _ false _ =>
      (subnetMask p prefixLength).toOption.map fun mask => (cStr address, mask)
  | _ => none

@[simp] def ipv6Address : Call → Option (String × Int)
  | .addAddress address prefixLength _ true _ => some (cStr address, prefixLength)
  | _ => none

@[simp] def ipv4Route : Call → Option (String × String)
  | .addRoute address prefixLength _ false =>
      (subnetMask p prefixLength).toOption.map fun mask => (cStr address, mask)
  | .rerouteGw true _ _ => some ("0.0.0.0", "0.0.0.0")
  | _ => none

@[simp] def ipv6Route : Call → Option (String × Int)
  | .addRoute address prefixLength _ true => some (cStr address, prefixLength)
  | .rerouteGw _ true _ => some ("::", 0)
  | _ => none

@[simp] def ipv4ExcludedRoute : Call → Option (String × String)
  | .excludeRoute address prefixLength _ false =>
      (subnetMask p prefixLength).toOption.map fun mask => (cStr address, mask)
  | _ => none

@[simp] def ipv6ExcludedRoute : Call → Option (String × Int)
  | .excludeRoute address prefixLength _ true => some (cStr address, prefixLength)
  | _ => none

@[simp] def dnsServer : Call → Option String
  | .addDnsServer address _ => some (cStr address)
  | _ => none

@[simp] def searchDomain : Call → Option String
  | .addSearchDomain domain => some (cStr domain)
  | _ => none

@[simp] def mtu : Call → Option Int
  | .setMtu mtu => some mtu
  | _ => none

@[simp] def proxyBypass : Call → Option String
  | .addProxyBypass bypassHost => some (cStr bypassHost)
  | _ => none

@[simp] def proxyAutoConfigUrl : Call → Option String
  | .setProxyAutoConfigUrl url => p.urlWithString (cStr url)
  | _ => none

@[simp] def httpProxy : Call → Option NEProxyServer
  | .setProxyHttp host port => some ⟨cStr host, port⟩
  | _ => none

@[simp] def httpsProxy : Call → Option NEProxyServer
  | .setProxyHttps host port => some ⟨cStr host, port⟩
  | _ => none

/-- What tunnel settings say, with the parts that are absent as empty lists. -/
@[ext] structure Content where
  remoteAddress : Option String
  ipv4Addresses : List String
  ipv4Masks : List String
  ipv4Included : List (String × String)
  ipv4Excluded : List (String × String)
  ipv6Addresses : List String
  ipv6PrefixLengths : List Int
  ipv6Included : List (String × Int)
  ipv6Excluded : List (String × Int)
  dnsServers : List String
  searchDomains : List String
  mtu : Option Int
  autoConfigUrls : List String
  httpServers : List NEProxyServer
  httpsServers : List NEProxyServer
  proxyExceptions : List String
deriving DecidableEq, Repr

def Content.ofSettings (s : NEPacketTunnelNetworkSettings) : Content where
  remoteAddress := some s.tunnelRemoteAddress
  ipv4Addresses := s.ipv4Settings.elim [] fun t => t.addresses
  ipv4Masks := s.ipv4Settings.elim [] fun t => t.subnetMasks
  ipv4Included := s.ipv4Settings.elim [] fun t => t.includedRoutes.map keyV4
  ipv4Excluded := s.ipv4Settings.elim [] fun t => t.excludedRoutes.map keyV4
  ipv6Addresses := s.ipv6Settings.elim [] fun t => t.addresses
  ipv6PrefixLengths := s.ipv6Settings.elim [] fun t => t.networkPrefixLengths
  ipv6Included := s.ipv6Settings.elim [] fun t => t.includedRoutes.map keyV6
  ipv6Excluded := s.ipv6Settings.elim [] fun t => t.excludedRoutes.map keyV6
  dnsServers := s.dnsSettings.elim [] fun t => t.servers
  searchDomains := s.dnsSettings.elim [] fun t => t.searchDomains
  mtu := s.mtu
  autoConfigUrls := s.proxySettings.elim [] fun t =>
    if t.autoProxyConfigurationEnabled then t.proxyAutoConfigurationURL.toList else []
  httpServers := s.proxySettings.elim [] fun t => if t.httpEnabled then t.httpServer.toList else []
  httpsServers := s.proxySettings.elim [] fun t => if t.httpsEnabled then t.httpsServer.toList else []
  proxyExceptions := s.proxySettings.elim [] fun t => t.exceptionList

def setsProxy (c : Call) : Bool :=
  (proxyAutoConfigUrl p c).isSome || (httpProxy c).isSome || (httpsProxy c).isSome

/-- What the setters that returned `true` ask for: of a single-valued one every value, but of
the remote address and the MTU the last; routes of a family with an address; the proxy
exceptions with a proxy. -/
def Content.ofCalls (cs : List Call) : Content where
  remoteAddress := (cs.filterMap AcceptedValues.remoteAddress).getLast?
  ipv4Addresses := (cs.filterMap (ipv4Address p)).map Prod.fst
  ipv4Masks := (cs.filterMap (ipv4Address p)).map Prod.snd
  ipv4Included := if cs.filterMap (ipv4Address p) = [] then [] else cs.filterMap (ipv4Route p)
  ipv4Excluded := if cs.filterMap (ipv4Address p) = [] then [] else cs.filterMap (ipv4ExcludedRoute p)
  ipv6Addresses := (cs.filterMap ipv6Address).map Prod.fst
  ipv6PrefixLengths := (cs.filterMap ipv6Address).map Prod.snd
  ipv6Included := if cs.filterMap ipv6Address = [] then [] else cs.filterMap ipv6Route
  ipv6Excluded := if cs.filterMap ipv6Address = [] then [] else cs.filterMap ipv6ExcludedRoute
  dnsServers := cs.filterMap dnsServer
  searchDomains := cs.filterMap searchDomain
  mtu := (cs.filterMap AcceptedValues.mtu).getLast?
  autoConfigUrls := cs.filterMap (proxyAutoConfigUrl p)
  httpServers := cs.filterMap httpProxy
  httpsServers := cs.filterMap httpsProxy
  proxyExceptions := if cs.any (setsProxy p) then cs.filterMap proxyBypass else []

/-- What a default route request leaves behind when its IPv6 half is refused. -/
def leftBehind (a : Adapter) : Call → List (String × String)
  | .rerouteGw true true _ =>
      if (addIPv4Route a.builder .defaultRoute).1 && !(addIPv6Route p a.builder .defaultRoute).1 then
        [("0.0.0.0", "0.0.0.0")]
      else []
  | _ => []

/-- Everything one setter does to the settings builder, by whether it returned `true`. -/
structure Effect (a : Adapter) (c : Call) (ok : Bool) (b : Builder) : Prop where
  remoteAddress : b.remoteAddress = (if ok then remoteAddress c else none).or a.builder.remoteAddress
  ipv4Addresses : b.ipv4LocalAddresses =
    a.builder.ipv4LocalAddresses ++ if ok then ((ipv4Address p c).map Prod.fst).toList else []
  ipv4Masks : b.ipv4SubnetMasks =
    a.builder.ipv4SubnetMasks ++ if ok then ((ipv4Address p c).map Prod.snd).toList else []
  ipv4Included : b.ipv4IncludedRoutes.map keyV4 =
    a.builder.ipv4IncludedRoutes.map keyV4 ++ (if ok then (ipv4Route p c).toList else []) ++ leftBehind p a c
  ipv4Excluded : b.ipv4ExcludedRoutes.map keyV4 =
    a.builder.ipv4ExcludedRoutes.map keyV4 ++ if ok then (ipv4ExcludedRoute p c).toList else []
  ipv6Addresses : b.ipv6LocalAddresses =
    a.builder.ipv6LocalAddresses ++ if ok then ((ipv6Address c).map Prod.fst).toList else []
  ipv6PrefixLengths : b.ipv6NetworkPrefixLengths =
    a.builder.ipv6NetworkPrefixLengths ++ if ok then ((ipv6Address c).map Prod.snd).toList else []
  ipv6Included : b.ipv6IncludedRoutes.map keyV6 =
    a.builder.ipv6IncludedRoutes.map keyV6 ++ if ok then (ipv6Route c).toList else []
  ipv6Excluded : b.ipv6ExcludedRoutes.map keyV6 =
    a.builder.ipv6ExcludedRoutes.map keyV6 ++ if ok then (ipv6ExcludedRoute c).toList else []
  dnsServers : b.dnsServers = a.builder.dnsServers ++ if ok then (dnsServer c).toList else []
  searchDomains : b.searchDomains = a.builder.searchDomains ++ if ok then (searchDomain c).toList else []
  mtu : b.mtu = (if ok then mtu c else none).or a.builder.mtu
  autoConfigUrl : b.proxyAutoConfigurationURL =
    (if ok then proxyAutoConfigUrl p c else none).or a.builder.proxyAutoConfigurationURL
  autoConfigEnabled : b.autoProxyConfigurationEnabled =
    ((if ok then proxyAutoConfigUrl p c else none).isSome || a.builder.autoProxyConfigurationEnabled)
  httpServer : b.httpProxyServer = (if ok then httpProxy c else none).or a.builder.httpProxyServer
  httpEnabled : b.httpProxyServerEnabled =
    ((if ok then httpProxy c else none).isSome || a.builder.httpProxyServerEnabled)
  httpsServer : b.httpsProxyServer = (if ok then httpsProxy c else none).or a.builder.httpsProxyServer
  httpsEnabled : b.httpsProxyServerEnabled =
    ((if ok then httpsProxy c else none).isSome || a.builder.httpsProxyServerEnabled)
  proxyExceptions : b.proxyExceptionList =
    a.builder.proxyExceptionList ++ if ok then (proxyBypass c).toList else []

theorem Effect.refused {a : Adapter} {c : Call} (hleft : leftBehind p a c = []) :
    Effect p a c false a.builder := by
  constructor <;> simp [hleft]

theorem effect_appendNew {α : Type} {same : α → α → Bool} {x : α} {xs : List α} {a : Adapter} {c : Call}
    {f : List α → Builder} (hxs : f xs = a.builder) (hleft : leftBehind p a c = [])
    (hadd : Effect p a c true (f (xs ++ [x]))) :
    Effect p a c (appendNew same x xs).1 (f (appendNew same x xs).2) := by
  rw [appendNew]
  split
  · rw [hxs]
    exact .refused p hleft
  · exact hadd

theorem effect_rerouteGw (a : Adapter) (ipv4 ipv6 : Bool) (flags : BitVec 32) :
    Effect p a (.rerouteGw ipv4 ipv6 flags) (tunBuilderRerouteGw p a.builder ipv4 ipv6).1
      (tunBuilderRerouteGw p a.builder ipv4 ipv6).2 := by
  cases ipv4 with
  | false =>
      cases ipv6 with
      | false => constructor <;> simp [tunBuilderRerouteGw, leftBehind]
      | true =>
          refine effect_appendNew p (c := .rerouteGw false true flags)
            (f := fun xs => { a.builder with ipv6IncludedRoutes := xs }) rfl rfl ?_
          constructor <;> simp [leftBehind, keyV6]
  | true =>
      rcases addIPv4Route_cases a.builder .defaultRoute with h4 | h4
      · simp only [tunBuilderRerouteGw, h4, if_true, Bool.false_eq_true, if_false]
        exact .refused p (by cases ipv6 <;> simp [leftBehind, h4])
      · simp only [tunBuilderRerouteGw, h4, if_true]
        cases ipv6 with
        | false => constructor <;> simp [leftBehind, keyV4]
        | true =>
            rw [if_pos rfl, addIPv6Route_with_ipv4]
            rcases addIPv6Route_cases p a.builder .defaultRoute with h6 | h6
            · rw [h6]
              constructor <;> simp [leftBehind, h4, h6, keyV4]
            · rw [h6]
              constructor <;> simp [leftBehind, h4, h6, keyV4, keyV6]

theorem effect_answer (a : Adapter) (c : Call) :
    Effect p a c (answer (client p) a c).1 (answer (client p) a c).2.builder := by
  cases c with
  | addWinsServer address => exact .refused p rfl
  | addDnsServer address ipv6 =>
      refine effect_appendNew p (c := .addDnsServer address ipv6)
          (f := fun xs => { a.builder with dnsServers := xs }) rfl rfl ?_
      constructor <;> simp [leftBehind]
  | addSearchDomain domain =>
      refine effect_appendNew p (c := .addSearchDomain domain)
          (f := fun xs => { a.builder with searchDomains := xs }) rfl rfl ?_
      constructor <;> simp [leftBehind]
  | addProxyBypass host =>
      refine effect_appendNew p (c := .addProxyBypass host)
          (f := fun xs => { a.builder with proxyExceptionList := xs }) rfl rfl ?_
      constructor <;> simp [leftBehind]
  | addAddress address prefixLength gateway ipv6 net30 =>
      cases ipv6 with
      | true =>
          constructor <;> simp [answer, client, onBuilder, tunBuilderAddAddress, addIPv6Address,
              Except.map, leftBehind]
      | false =>
          cases hm : subnetMask p prefixLength with
          | error e =>
              simp only [answer, client, tunBuilderAddAddress, hm, Bool.false_eq_true, if_false]
              exact .refused p rfl
          | ok mask =>
              simp only [answer, client, tunBuilderAddAddress, hm, Bool.false_eq_true, if_false]
              constructor <;> simp [hm, Except.map, onBuilder, addIPv4Address, Except.toOption, leftBehind]
  | addRoute address prefixLength metric ipv6 =>
      cases ipv6 with
      | true =>
          refine effect_appendNew p (c := .addRoute address prefixLength metric true)
              (f := fun xs => { a.builder with ipv6IncludedRoutes := xs }) rfl rfl ?_
          constructor <;> simp [leftBehind, keyV6]
      | false =>
          cases hm : subnetMask p prefixLength with
          | error e =>
              simp only [answer, client, tunBuilderAddRoute, hm, Bool.false_eq_true, if_false]
              exact .refused p rfl
          | ok mask =>
              simp only [answer, client, tunBuilderAddRoute, hm, Bool.false_eq_true, if_false]
              refine effect_appendNew p (c := .addRoute address prefixLength metric false)
                  (f := fun xs => { a.builder with ipv4IncludedRoutes := xs }) rfl rfl ?_
              constructor <;> simp [hm, Except.toOption, leftBehind, keyV4]
  | excludeRoute address prefixLength metric ipv6 =>
      cases ipv6 with
      | true =>
          refine effect_appendNew p (c := .excludeRoute address prefixLength metric true)
              (f := fun xs => { a.builder with ipv6ExcludedRoutes := xs }) rfl rfl ?_
          constructor <;> simp [leftBehind, keyV6]
      | false =>
          cases hm : subnetMask p prefixLength with
          | error e =>
              simp only [answer, client, tunBuilderExcludeRoute, hm, Bool.false_eq_true, if_false]
              exact .refused p rfl
          | ok mask =>
              simp only [answer, client, tunBuilderExcludeRoute, hm, Bool.false_eq_true, if_false]
              refine effect_appendNew p (c := .excludeRoute address prefixLength metric false)
                  (f := fun xs => { a.builder with ipv4ExcludedRoutes := xs }) rfl rfl ?_
              constructor <;> simp [hm, Except.toOption, leftBehind, keyV4]
  | setProxyAutoConfigUrl url =>
      cases hu : p.urlWithString (cStr url) with
      | none =>
          simp only [answer, client, tunBuilderSetProxyAutoConfigUrl, hu]
          exact .refused p rfl
      | some configURL =>
          simp only [answer, client, tunBuilderSetProxyAutoConfigUrl, hu]
          constructor <;> simp [hu, onBuilder, setProxyAutoConfigurationURL, leftBehind]
  | rerouteGw ipv4 ipv6 flags => exact effect_rerouteGw p a ipv4 ipv6 flags
  | setBlockIPv6 blockIPv6 =>
      cases blockIPv6 <;> constructor <;> simp [answer, client, leftBehind]
  | _ =>
      constructor <;> simp [answer, client, onBuilder, setRemoteAddress, setMTU, setHttpProxyServer,
        setHttpsProxyServer, leftBehind]

def session (a : Adapter) (cs : List Call) : Adapter := after (answer (client p)) (tunBuilderNew a) cs

def acceptedCalls (a : Adapter) (cs : List Call) : List Call := accepted (answer (client p)) (tunBuilderNew a) cs

structure Flags (b : Builder) : Prop where
  autoConfig : b.autoProxyConfigurationEnabled = b.proxyAutoConfigurationURL.isSome
  http : b.httpProxyServerEnabled = b.httpProxyServer.isSome
  https : b.httpsProxyServerEnabled = b.httpsProxyServer.isSome

theorem flags_session (a : Adapter) (cs : List Call) : Flags (session p a cs).builder := by
  refine after_invariant (I := fun a : Adapter => Flags a.builder) (fun s c _ hs => ?_) ⟨rfl, rfl, rfl⟩
  have he := effect_answer p s c
  refine ⟨?_, ?_, ?_⟩
  · rw [he.autoConfigEnabled, he.autoConfigUrl, hs.autoConfig, Option.isSome_or]
  · rw [he.httpEnabled, he.httpServer, hs.http, Option.isSome_or]
  · rw [he.httpsEnabled, he.httpsServer, hs.https, Option.isSome_or]

/-- What the builder holds when `acc` was accepted; the included IPv4 routes are a matter of
their own. -/
structure Holds (acc : List Call) (b : Builder) : Prop where
  remoteAddress : b.remoteAddress = (acc.filterMap remoteAddress).getLast?
  mtu : b.mtu = (acc.filterMap mtu).getLast?
  autoConfigUrl : b.proxyAutoConfigurationURL = (acc.filterMap (proxyAutoConfigUrl p)).getLast?
  httpServer : b.httpProxyServer = (acc.filterMap httpProxy).getLast?
  httpsServer : b.httpsProxyServer = (acc.filterMap httpsProxy).getLast?
  ipv4Addresses : b.ipv4LocalAddresses = (acc.filterMap (ipv4Address p)).map Prod.fst
  ipv4Masks : b.ipv4SubnetMasks = (acc.filterMap (ipv4Address p)).map Prod.snd
  ipv6Addresses : b.ipv6LocalAddresses = (acc.filterMap ipv6Address).map Prod.fst
  ipv6PrefixLengths : b.ipv6NetworkPrefixLengths = (acc.filterMap ipv6Address).map Prod.snd
  ipv4Excluded : b.ipv4ExcludedRoutes.map keyV4 = acc.filterMap (ipv4ExcludedRoute p)
  ipv6Included : b.ipv6IncludedRoutes.map keyV6 = acc.filterMap ipv6Route
  ipv6Excluded : b.ipv6ExcludedRoutes.map keyV6 = acc.filterMap ipv6ExcludedRoute
  dnsServers : b.dnsServers = acc.filterMap dnsServer
  searchDomains : b.searchDomains = acc.filterMap searchDomain
  proxyExceptions : b.proxyExceptionList = acc.filterMap proxyBypass

theorem holds_session (a : Adapter) (cs : List Call) :
    Holds p (acceptedCalls p a cs) (session p a cs).builder := by
  have he := effect_answer p
  constructor
  · exact (remembered (fun a : Adapter => a.builder.remoteAddress) remoteAddress
      (fun s c => (he s c).remoteAddress) _ cs).trans
      Option.or_none
  · exact (remembered (fun a : Adapter => a.builder.mtu) mtu (fun s c => (he s c).mtu) _ cs).trans
      Option.or_none
  · exact (remembered (fun a : Adapter => a.builder.proxyAutoConfigurationURL) (proxyAutoConfigUrl p)
      (fun s c => (he s c).autoConfigUrl) _ cs).trans
      Option.or_none
  · exact (remembered (fun a : Adapter => a.builder.httpProxyServer) httpProxy
      (fun s c => (he s c).httpServer) _ cs).trans
      Option.or_none
  · exact (remembered (fun a : Adapter => a.builder.httpsProxyServer) httpsProxy
      (fun s c => (he s c).httpsServer) _ cs).trans
      Option.or_none
  · exact (collected (fun a : Adapter => a.builder.ipv4LocalAddresses) (fun c => (ipv4Address p c).map Prod.fst)
      (fun s c => (he s c).ipv4Addresses) (tunBuilderNew a) cs).trans List.map_filterMap.symm
  · exact (collected (fun a : Adapter => a.builder.ipv4SubnetMasks) (fun c => (ipv4Address p c).map Prod.snd)
      (fun s c => (he s c).ipv4Masks) (tunBuilderNew a) cs).trans List.map_filterMap.symm
  · exact (collected (fun a : Adapter => a.builder.ipv6LocalAddresses) (fun c => (ipv6Address c).map Prod.fst)
      (fun s c => (he s c).ipv6Addresses) (tunBuilderNew a) cs).trans List.map_filterMap.symm
  · exact (collected (fun a : Adapter => a.builder.ipv6NetworkPrefixLengths)
      (fun c => (ipv6Address c).map Prod.snd)
      (fun s c => (he s c).ipv6PrefixLengths) (tunBuilderNew a) cs).trans List.map_filterMap.symm
  · exact collected (fun a : Adapter => a.builder.ipv4ExcludedRoutes.map keyV4) (ipv4ExcludedRoute p)
      (fun s c => (he s c).ipv4Excluded) (tunBuilderNew a) cs
  · exact collected (fun a : Adapter => a.builder.ipv6IncludedRoutes.map keyV6) ipv6Route
      (fun s c => (he s c).ipv6Included) (tunBuilderNew a) cs
  · exact collected (fun a : Adapter => a.builder.ipv6ExcludedRoutes.map keyV6) ipv6ExcludedRoute
      (fun s c => (he s c).ipv6Excluded) (tunBuilderNew a) cs
  · exact collected (fun a : Adapter => a.builder.dnsServers) dnsServer (fun s c => (he s c).dnsServers)
      (tunBuilderNew a) cs
  · exact collected (fun a : Adapter => a.builder.searchDomains) searchDomain
      (fun s c => (he s c).searchDomains) (tunBuilderNew a) cs
  · exact collected (fun a : Adapter => a.builder.proxyExceptionList) proxyBypass
      (fun s c => (he s c).proxyExceptions) (tunBuilderNew a) cs

/-- Somewhere a request for both default routes finds the IPv6 one already asked for and the
IPv4 one not. -/
def HalfApplied (cs : List Call) : Prop :=
  ∃ pre flags post, cs = pre ++ .rerouteGw true true flags :: post ∧
    defaultV4 ∉ pre.filterMap (ipv4Route p) ∧ defaultV6 ∈ pre.filterMap ipv6Route

theorem rerouteGw_ipv4Included (b : Builder) (ipv6 : Bool) :
    (tunBuilderRerouteGw p b true ipv6).2.ipv4IncludedRoutes =
    (addIPv4Route b .defaultRoute).2.ipv4IncludedRoutes := by
  rcases addIPv4Route_cases b .defaultRoute with h | h <;> simp only [tunBuilderRerouteGw, h, if_true]
  · rfl
  · cases ipv6 <;> rfl

theorem answer_ipv4Included (a : Adapter) (c : Call) (k : String × String) :
    k ∈ (answer (client p) a c).2.builder.ipv4IncludedRoutes.map keyV4 ↔
      k ∈ a.builder.ipv4IncludedRoutes.map keyV4 ∨ ipv4Route p c = some k := by
  have he := (effect_answer p a c).ipv4Included
  cases c with
  | addRoute address prefixLength metric ipv6 =>
      cases ipv6 with
      | true => simp [he, leftBehind]
      | false =>
          cases hm : subnetMask p prefixLength with
          | error e => simp [he, hm, leftBehind, Except.toOption]
          | ok mask =>
              simp only [answer, client, tunBuilderAddRoute, hm, Bool.false_eq_true, if_false, ipv4Route,
                Except.toOption, Option.map_some, Option.some.injEq]
              exact mem_addIPv4Route a.builder ⟨cStr address, mask, none⟩ k
  | rerouteGw ipv4 ipv6 flags =>
      cases ipv4 with
      | false => cases ipv6 <;> simp [he, leftBehind]
      | true =>
          simp only [answer, client, onBuilder, rerouteGw_ipv4Included, ipv4Route, Option.some.injEq]
          exact mem_addIPv4Route a.builder .defaultRoute k
  | _ => simp [he, leftBehind]

theorem answer_ipv6Included (a : Adapter) {c : Call} (h : ∀ ipv6 flags, c ≠ .rerouteGw true ipv6 flags)
    (k : String × Int) :
    k ∈ (answer (client p) a c).2.builder.ipv6IncludedRoutes.map keyV6 ↔
      k ∈ a.builder.ipv6IncludedRoutes.map keyV6 ∨ ipv6Route c = some k := by
  have he := (effect_answer p a c).ipv6Included
  cases c with
  | addRoute address prefixLength metric ipv6 =>
      cases ipv6 with
      | false => simp [he]
      | true =>
          rw [ipv6Route, Option.some.injEq]
          exact mem_addIPv6Route p a.builder ⟨cStr address, prefixLength, none⟩ k
  | rerouteGw ipv4 ipv6 flags =>
      cases ipv4 with
      | true => exact absurd rfl (h ipv6 flags)
      | false =>
          cases ipv6 with
          | false => simp [he]
          | true =>
              rw [ipv6Route, Option.some.injEq]
              exact mem_addIPv6Route p a.builder .defaultRoute k
  | _ => simp [he]

theorem ipv4_held (a : Adapter) (cs : List Call) (k : String × String) :
    k ∈ (session p a cs).builder.ipv4IncludedRoutes.map keyV4 ↔ k ∈ cs.filterMap (ipv4Route p) := by
  exact (held_after (fun a : Adapter => a.builder.ipv4IncludedRoutes.map keyV4) (ipv4Route p)
    (fun s c _ => answer_ipv4Included p s c k) (tunBuilderNew a)).trans (or_iff_right List.not_mem_nil)

theorem ipv6_held (a : Adapter) {cs : List Call} (h : ∀ c ∈ cs, ∀ ipv6 flags, c ≠ .rerouteGw true ipv6 flags)
    (k : String × Int) :
    k ∈ (session p a cs).builder.ipv6IncludedRoutes.map keyV6 ↔ k ∈ cs.filterMap ipv6Route :=
  (held_after (fun a : Adapter => a.builder.ipv6IncludedRoutes.map keyV6) ipv6Route
    (fun s c hc => answer_ipv6Included p s (h c hc) k) (tunBuilderNew a)).trans (or_iff_right List.not_mem_nil)

theorem answer_ipv6Excluded (a : Adapter) (c : Call) (k : String × Int) :
    k ∈ (answer (client p) a c).2.builder.ipv6ExcludedRoutes.map keyV6 ↔
      k ∈ a.builder.ipv6ExcludedRoutes.map keyV6 ∨ ipv6ExcludedRoute c = some k := by
  have he := (effect_answer p a c).ipv6Excluded
  cases c with
  | excludeRoute address prefixLength metric ipv6 =>
      cases ipv6 with
      | false => simp [he]
      | true =>
          rw [ipv6ExcludedRoute, Option.some.injEq]
          exact mem_excludeIPv6Route p a.builder ⟨cStr address, prefixLength, none⟩ k
  | _ => simp [he]

theorem ipv6_excluded (a : Adapter) (cs : List Call) (k : String × Int) :
    k ∈ (session p a cs).builder.ipv6ExcludedRoutes.map keyV6 ↔ k ∈ cs.filterMap ipv6ExcludedRoute :=
  (held_after (fun a : Adapter => a.builder.ipv6ExcludedRoutes.map keyV6) ipv6ExcludedRoute
    (fun s c _ => answer_ipv6Excluded p s c k) (tunBuilderNew a)).trans (or_iff_right List.not_mem_nil)

theorem leftBehind_session (a : Adapter) (pre : List Call) (c : Call) :
    leftBehind p (session p a pre) c ≠ [] ↔
      (∃ flags, c = .rerouteGw true true flags) ∧ defaultV4 ∉ pre.filterMap (ipv4Route p) ∧
        defaultV6 ∈ pre.filterMap ipv6Route := by
  have h4 : (addIPv4Route (session p a pre).builder .defaultRoute).1 = true ↔
      defaultV4 ∉ pre.filterMap (ipv4Route p) := by
    rw [← Bool.not_eq_false, addIPv4Route_refused_iff, ipv4_held]
    rfl
  have h6 : (addIPv6Route p (session p a pre).builder .defaultRoute).1 = false ↔
      defaultV6 ∈ (session p a pre).builder.ipv6IncludedRoutes.map keyV6 :=
    addIPv6Route_refused_iff p _
  cases c with
  | rerouteGw ipv4 ipv6 flags =>
      cases ipv4 <;> cases ipv6 <;> simp only [leftBehind, ne_eq, not_true_eq_false, Call.rerouteGw.injEq,
        Bool.false_eq_true, false_and, and_false, exists_const]
      by_cases hv : defaultV4 ∉ pre.filterMap (ipv4Route p)
      · have hnone : ∀ c ∈ pre, ∀ ipv6 flags, c ≠ .rerouteGw true ipv6 flags := fun c hc ipv6 flags he =>
          hv (List.mem_filterMap.mpr ⟨c, hc, he ▸ rfl⟩)
        rw [ipv6_held p a hnone] at h6
        simp only [h4.mpr hv, Bool.true_and, Bool.not_eq_true', h6]
        split <;> simp_all
      · have hf := h4.not.mpr hv
        simp_all
  | _ => simp [leftBehind]

theorem ipv4Included_iff (a : Adapter) (cs : List Call) :
    (session p a cs).builder.ipv4IncludedRoutes.map keyV4 = (acceptedCalls p a cs).filterMap (ipv4Route p) ↔
      ¬ HalfApplied p cs := by
  have h := collected_iff (fun a : Adapter => a.builder.ipv4IncludedRoutes.map keyV4) (ipv4Route p) (leftBehind p)
    (fun s c => (effect_answer p s c).ipv4Included) (tunBuilderNew a) cs
  refine h.trans ⟨fun hall => ?_, fun hno pre c post hcs => ?_⟩
  · rintro ⟨pre, flags, post, hcs, hroutes⟩
    exact (leftBehind_session p a pre _).mpr ⟨⟨flags, rfl⟩, hroutes⟩ (hall pre _ post hcs)
  · by_contra hleft
    obtain ⟨⟨flags, rfl⟩, hroutes⟩ := (leftBehind_session p a pre c).mp hleft
    exact hno ⟨pre, flags, post, hcs, hroutes⟩

def Content.ofBuilder (b : Builder) : Content where
  remoteAddress := b.remoteAddress
  ipv4Addresses := b.ipv4LocalAddresses
  ipv4Masks := if b.ipv4LocalAddresses = [] then [] else b.ipv4SubnetMasks
  ipv4Included := if b.ipv4LocalAddresses = [] then [] else b.ipv4IncludedRoutes.map keyV4
  ipv4Excluded := if b.ipv4LocalAddresses = [] then [] else b.ipv4ExcludedRoutes.map keyV4
  ipv6Addresses := b.ipv6LocalAddresses
  ipv6PrefixLengths := if b.ipv6LocalAddresses = [] then [] else b.ipv6NetworkPrefixLengths
  ipv6Included := if b.ipv6LocalAddresses = [] then [] else b.ipv6IncludedRoutes.map keyV6
  ipv6Excluded := if b.ipv6LocalAddresses = [] then [] else b.ipv6ExcludedRoutes.map keyV6
  dnsServers := b.dnsServers
  searchDomains := if b.dnsServers = [] then [] else b.searchDomains
  mtu := b.mtu
  autoConfigUrls := b.proxyAutoConfigurationURL.toList
  httpServers := b.httpProxyServer.toList
  httpsServers := b.httpsProxyServer.toList
  proxyExceptions :=
    if b.proxyAutoConfigurationURL.isSome || b.httpProxyServer.isSome || b.httpsProxyServer.isSome then
      b.proxyExceptionList
    else []

theorem ofSettings_networkSettings {b : Builder} {s : NEPacketTunnelNetworkSettings} (hf : Flags b)
    (hs : b.networkSettings = some s) : Content.ofSettings s = Content.ofBuilder b := by
  obtain ⟨address, haddr⟩ : ∃ address, b.remoteAddress = some address := by
    cases hr : b.remoteAddress with
    | none => simp [Builder.networkSettings, hr] at hs
    | some address => exact ⟨address, rfl⟩
  simp only [Builder.networkSettings, haddr, Option.ite_none_left_eq_some, Option.some.injEq] at hs
  obtain ⟨-, rfl⟩ := hs
  simp only [Content.ofSettings, Content.ofBuilder, haddr, Builder.ipv4Settings, Builder.ipv6Settings,
    Builder.dnsSettings, Builder.proxySettings, hf.autoConfig, hf.http, hf.https]
  ext1
  case autoConfigUrls | httpServers | httpsServers | proxyExceptions =>
    cases b.proxyAutoConfigurationURL <;> cases b.httpProxyServer <;> cases b.httpsProxyServer <;> rfl
  case ipv4Addresses | ipv4Masks | ipv4Included | ipv4Excluded =>
    by_cases h : b.ipv4LocalAddresses = [] <;> simp [h]
  case ipv6Addresses | ipv6PrefixLengths | ipv6Included | ipv6Excluded =>
    by_cases h : b.ipv6LocalAddresses = [] <;> simp [h]
  case dnsServers | searchDomains =>
    by_cases h : b.dnsServers = [] <;> simp [h]
  all_goals rfl

theorem getLast?_toList_eq_iff {β : Type} (xs : List β) : xs.getLast?.toList = xs ↔ xs.length ≤ 1 := by
  match xs with
  | [] => simp
  | [x] => simp
  | x :: y :: ys =>
      refine iff_of_false (fun h => ?_) (by simp)
      have hlen := congrArg List.length h
      have hle := Option.length_toList_le (o := (x :: y :: ys).getLast?)
      simp only [List.length_cons] at hlen
      omega

theorem getLast?_filterMap_isSome {β : Type} (shows : Call → Option β) (cs : List Call) :
    (cs.filterMap shows).getLast?.isSome = cs.any fun c => (shows c).isSome := by
  rw [Bool.eq_iff_iff, List.getLast?_isSome, List.any_eq_true, Ne, List.filterMap_eq_nil_iff]
  simp [Option.isSome_iff_ne_none]

theorem any_setsProxy (cs : List Call) :
    cs.any (setsProxy p) = ((cs.filterMap (proxyAutoConfigUrl p)).getLast?.isSome ||
      (cs.filterMap httpProxy).getLast?.isSome || (cs.filterMap httpsProxy).getLast?.isSome) := by
  rw [getLast?_filterMap_isSome, getLast?_filterMap_isSome, getLast?_filterMap_isSome]
  induction cs with
  | nil => rfl
  | cons c cs ih =>
      simp only [List.any_cons, ih, setsProxy]
      cases (proxyAutoConfigUrl p c).isSome <;> cases (httpProxy c).isSome <;> cases (httpsProxy c).isSome <;> simp

/-! The setters of single values and of addresses return `true` whenever they pass something on. -/

section Taken

variable (a : Adapter) (c : Call)

theorem answer_of_remoteAddress (h : (remoteAddress c).isSome) : (answer (client p) a c).1 = true := by
  cases c <;> first | rfl | cases h

theorem answer_of_httpProxy (h : (httpProxy c).isSome) : (answer (client p) a c).1 = true := by
  cases c <;> first | rfl | cases h

theorem answer_of_httpsProxy (h : (httpsProxy c).isSome) : (answer (client p) a c).1 = true := by
  cases c <;> first | rfl | cases h

theorem answer_of_proxyAutoConfigUrl (h : (proxyAutoConfigUrl p c).isSome) : (answer (client p) a c).1 = true := by
  cases c
  case setProxyAutoConfigUrl url =>
    obtain ⟨u, hu⟩ := Option.isSome_iff_exists.mp h
    simp only [proxyAutoConfigUrl] at hu
    simp only [answer, client, tunBuilderSetProxyAutoConfigUrl, hu]
    rfl
  all_goals cases h

theorem answer_of_ipv4Address (h : (ipv4Address p c).isSome) : (answer (client p) a c).1 = true := by
  cases c
  case addAddress address prefixLength gateway ipv6 net30 =>
    cases ipv6 with
    | true => cases h
    | false =>
        cases hm : subnetMask p prefixLength with
        | error e => simp [hm, Except.toOption] at h
        | ok mask => simp [answer, client, tunBuilderAddAddress, hm, Except.map, onBuilder, addIPv4Address]
  all_goals cases h

theorem answer_of_ipv6Address (h : (ipv6Address c).isSome) : (answer (client p) a c).1 = true := by
  cases c
  case addAddress address prefixLength gateway ipv6 net30 =>
    cases ipv6 with
    | true => rfl
    | false => cases h
  all_goals cases h

end Taken

theorem acceptedCalls_domains (a : Adapter) (cs : List Call) :
    (acceptedCalls p a cs).filterMap searchDomain = [] ↔ cs.filterMap searchDomain = [] := by
  refine collected_eq_nil_iff (fun a : Adapter => a.builder.searchDomains) searchDomain
    (fun s c => (effect_answer p s c).searchDomains) (fun s c hs h => ?_) rfl cs
  cases c
  case addSearchDomain domain => simp [answer, client, onBuilder, OpenVPNClient.addSearchDomain, appendNew, hs]
  all_goals cases h

theorem acceptedCalls_dns (a : Adapter) (cs : List Call) :
    (acceptedCalls p a cs).filterMap dnsServer = [] ↔ cs.filterMap dnsServer = [] := by
  refine collected_eq_nil_iff (fun a : Adapter => a.builder.dnsServers) dnsServer
    (fun s c => (effect_answer p s c).dnsServers) (fun s c hs h => ?_) rfl cs
  cases c
  case addDnsServer address ipv6 => simp [answer, client, onBuilder, addDNS, appendNew, hs]
  all_goals cases h

end OpenVPNAdapter.AcceptedValues
