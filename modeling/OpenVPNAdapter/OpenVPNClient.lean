import OpenVPNAdapter.Addr
import OpenVPNAdapter.TunBuilder
import OpenVPNAdapter.NetworkSettings

namespace OpenVPNAdapter.OpenVPNClient

open Text IP NetworkSettings TunBuilder

/-- What the adapter takes from the system: URLs, and whether equal small numbers are one
object, as they are where pointers are tagged. -/
structure Platform where
  sys : Sys
  urlWithString : String → Option String
  taggedNumbers : Bool

/-- The settings side of `OpenVPNAdapter`; a builder that does not exist yet is an empty one. -/
structure Adapter where
  builder : Builder
  sessionName : Option String
deriving DecidableEq, Repr

/-- `resetSettings`, which `tun_builder_new` and `tun_builder_teardown` call. -/
def resetSettings (_ : Adapter) : Adapter := ⟨.empty, none⟩

def tunBuilderNew (a : Adapter) : Adapter := resetSettings a

variable {α : Type}

/-- The duplicate test of the adapter's setters: a value is appended unless an equal one is there. -/
def appendNew (same : α → α → Bool) (x : α) (xs : List α) : Bool × List α :=
  if xs.any (same · x) then (false, xs) else (true, xs ++ [x])

def sameString (x y : String) : Bool := x = y

def sameIPv4 (r s : NEIPv4Route) : Bool :=
  r.destinationAddress = s.destinationAddress && r.destinationSubnetMask = s.destinationSubnetMask

/-- `==` of two `NSNumber` pointers: without tagged pointers only −1 to 12 are shared objects. -/
def sameNumber (p : Platform) (m n : Int) : Bool := m = n && (p.taggedNumbers || (-1 ≤ m && m ≤ 12))

def sameIPv6 (p : Platform) (r s : NEIPv6Route) : Bool :=
  r.destinationAddress = s.destinationAddress &&
    sameNumber p r.destinationNetworkPrefixLength s.destinationNetworkPrefixLength

variable (p : Platform) (b : Builder)

def setRemoteAddress (address : String) : Bool × Builder := (true, { b with remoteAddress := some address })

def addIPv4Address (address subnetMask : String) (gateway : Option String) : Bool × Builder :=
  (true, { b with
    ipv4DefaultGateway := gateway
    ipv4LocalAddresses := b.ipv4LocalAddresses ++ [address]
    ipv4SubnetMasks := b.ipv4SubnetMasks ++ [subnetMask] })

def addIPv6Address (address : String) (prefixLength : Int) (gateway : Option String) : Bool × Builder :=
  (true, { b with
    ipv6DefaultGateway := gateway
    ipv6LocalAddresses := b.ipv6LocalAddresses ++ [address]
    ipv6NetworkPrefixLengths := b.ipv6NetworkPrefixLengths ++ [prefixLength] })

def addIPv4Route (route : NEIPv4Route) : Bool × Builder :=
  let route := { route with gatewayAddress := b.ipv4DefaultGateway }
  let (added, routes) := appendNew sameIPv4 route b.ipv4IncludedRoutes
  (added, { b with ipv4IncludedRoutes := routes })

def addIPv6Route (route : NEIPv6Route) : Bool × Builder :=
  let route := { route with gatewayAddress := b.ipv6DefaultGateway }
  let (added, routes) := appendNew (sameIPv6 p) route b.ipv6IncludedRoutes
  (added, { b with ipv6IncludedRoutes := routes })

def excludeIPv4Route (route : NEIPv4Route) : Bool × Builder :=
  let (added, routes) := appendNew sameIPv4 route b.ipv4ExcludedRoutes
  (added, { b with ipv4ExcludedRoutes := routes })

def excludeIPv6Route (route : NEIPv6Route) : Bool × Builder :=
  let (added, routes) := appendNew (sameIPv6 p) route b.ipv6ExcludedRoutes
  (added, { b with ipv6ExcludedRoutes := routes })

def addDNS (dns : String) : Bool × Builder :=
  let (added, servers) := appendNew sameString dns b.dnsServers
  (added, { b with dnsServers := servers })

def addSearchDomain (domain : String) : Bool × Builder :=
  let (added, domains) := appendNew sameString domain b.searchDomains
  (added, { b with searchDomains := domains })

def addProxyBypassHost (bypassHost : String) : Bool × Builder :=
  let (added, hosts) := appendNew sameString bypassHost b.proxyExceptionList
  (added, { b with proxyExceptionList := hosts })

def setMTU (mtu : Int) : Bool × Builder := (true, { b with mtu := some mtu })

def setProxyAutoConfigurationURL (url : String) : Bool × Builder :=
  (true, { b with autoProxyConfigurationEnabled := true, proxyAutoConfigurationURL := some url })

def setHttpProxyServer (server : NEProxyServer) : Bool × Builder :=
  (true, { b with httpProxyServerEnabled := true, httpProxyServer := some server })

def setHttpsProxyServer (server : NEProxyServer) : Bool × Builder :=
  (true, { b with httpsProxyServerEnabled := true, httpsProxyServer := some server })

/-- The text of `Addr::netmask_from_prefix_len`; the length is converted to `unsigned int`. -/
def subnetMask (prefixLength : Int) : Except String String :=
  (Addr.netmaskV4 (prefixLength % 2 ^ 32).toNat).map fun mask => p.sys.print (.v4 mask)

def gatewayAddress (gateway : String) : Option String :=
  if gateway = "" ∨ gateway = "UNSPEC" then none else some (cStr gateway)

def tunBuilderAddAddress (address : String) (prefixLength : Int) (gateway : String) (ipv6 : Bool) :
    Except String (Bool × Builder) :=
  if ipv6 then .ok (addIPv6Address b (cStr address) prefixLength (gatewayAddress gateway))
  else (subnetMask p prefixLength).map fun mask => addIPv4Address b (cStr address) mask (gatewayAddress gateway)

/-- A refused IPv6 default route leaves the IPv4 one in place. -/
def tunBuilderRerouteGw (ipv4 ipv6 : Bool) : Bool × Builder :=
  let (added4, b) := if ipv4 then addIPv4Route b .defaultRoute else (true, b)
  if added4 then
    if ipv6 then addIPv6Route p b .defaultRoute else (true, b)
  else (false, b)

def tunBuilderAddRoute (address : String) (prefixLength : Int) (ipv6 : Bool) :
    Except String (Bool × Builder) :=
  if ipv6 then .ok (addIPv6Route p b ⟨cStr address, prefixLength, none⟩)
  else (subnetMask p prefixLength).map fun mask => addIPv4Route b ⟨cStr address, mask, none⟩

def tunBuilderExcludeRoute (address : String) (prefixLength : Int) (ipv6 : Bool) :
    Except String (Bool × Builder) :=
  if ipv6 then .ok (excludeIPv6Route p b ⟨cStr address, prefixLength, none⟩)
  else (subnetMask p prefixLength).map fun mask => excludeIPv4Route b ⟨cStr address, mask, none⟩

def tunBuilderSetProxyAutoConfigUrl (url : String) : Bool × Builder :=
  match p.urlWithString (cStr url) with
  | some configURL => setProxyAutoConfigurationURL b configURL
  | none => (false, b)

def onBuilder (a : Adapter) (r : Bool × Builder) : Bool × Adapter := (r.1, { a with builder := r.2 })

/-- A setter called on `OpenVPNClient`: what it returns or throws, and the adapter after it.
The setters it does not override are those of `TunBuilderBase`. -/
def client : TunBuilderBase Adapter := fun a c => match c with
  | .setLayer _ => .ok (true, a)
  | .setRemoteAddress address _ => .ok (onBuilder a (setRemoteAddress a.builder (cStr address)))
  | .addAddress address prefixLength gateway ipv6 _ =>
      (tunBuilderAddAddress p a.builder address prefixLength gateway ipv6).map (onBuilder a)
  | .setRouteMetricDefault _ => .ok (true, a)
  | .rerouteGw ipv4 ipv6 _ => .ok (onBuilder a (tunBuilderRerouteGw p a.builder ipv4 ipv6))
  | .addRoute address prefixLength _ ipv6 =>
      (tunBuilderAddRoute p a.builder address prefixLength ipv6).map (onBuilder a)
  | .excludeRoute address prefixLength _ ipv6 =>
      (tunBuilderExcludeRoute p a.builder address prefixLength ipv6).map (onBuilder a)
  | .addDnsServer address _ => .ok (onBuilder a (addDNS a.builder (cStr address)))
  | .addSearchDomain domain => .ok (onBuilder a (addSearchDomain a.builder (cStr domain)))
  | .setMtu mtu => .ok (onBuilder a (setMTU a.builder mtu))
  | .setSessionName name => .ok (true, { a with sessionName := some (cStr name) })
  | .addProxyBypass bypassHost => .ok (onBuilder a (addProxyBypassHost a.builder (cStr bypassHost)))
  | .setProxyAutoConfigUrl url => .ok (onBuilder a (tunBuilderSetProxyAutoConfigUrl p a.builder url))
  | .setProxyHttp host port => .ok (onBuilder a (setHttpProxyServer a.builder ⟨cStr host, port⟩))
  | .setProxyHttps host port => .ok (onBuilder a (setHttpsProxyServer a.builder ⟨cStr host, port⟩))
  | .addWinsServer _ => .ok (false, a)
  | .setBlockIPv6 blockIPv6 => .ok (blockIPv6, a)
  | .setAdapterDomainSuffix _ => .ok (true, a)

theorem mem_appendNew {β : Type} (same : α → α → Bool) (key : α → β) {x : α} {xs : List α} {k : β}
    (hsame : ∀ y, same y x = true → key y = key x) :
    k ∈ (appendNew same x xs).2.map key ↔ k ∈ xs.map key ∨ key x = k := by
  by_cases h : xs.any (same · x) = true
  · obtain ⟨y, hy, hyx⟩ := List.any_eq_true.mp h
    rw [appendNew, if_pos h]
    refine ⟨.inl, fun hk => hk.elim id fun hx => ?_⟩
    rw [← hx, ← hsame y hyx]
    exact List.mem_map_of_mem hy
  · rw [appendNew, if_neg h]
    simp [eq_comm]

theorem appendNew_refused_iff {β : Type} (same : α → α → Bool) (key : α → β) {x : α} {xs : List α}
    (hsame : ∀ y, same y x = true ↔ key y = key x) :
    (appendNew same x xs).1 = false ↔ key x ∈ xs.map key := by
  have hany : xs.any (same · x) = true ↔ key x ∈ xs.map key := by
    simp only [List.any_eq_true, List.mem_map, hsame]
  rw [← hany, appendNew]
  split <;> simp_all

/-! A route is the same as another when it has the same destination. -/

def keyV4 (r : NEIPv4Route) : String × String := (r.destinationAddress, r.destinationSubnetMask)

def keyV6 (r : NEIPv6Route) : String × Int := (r.destinationAddress, r.destinationNetworkPrefixLength)

def defaultV4 : String × String := ("0.0.0.0", "0.0.0.0")

def defaultV6 : String × Int := ("::", 0)

theorem sameIPv4_key {r s : NEIPv4Route} (h : sameIPv4 r s = true) : keyV4 r = keyV4 s := by
  simpa [sameIPv4, keyV4] using h

theorem sameIPv6_key {r s : NEIPv6Route} (h : sameIPv6 p r s = true) : keyV6 r = keyV6 s := by
  simp only [sameIPv6, sameNumber, Bool.and_eq_true, decide_eq_true_eq] at h
  exact Prod.ext h.1 h.2.1

theorem mem_addIPv4Route (r : NEIPv4Route) (k : String × String) :
    k ∈ (addIPv4Route b r).2.ipv4IncludedRoutes.map keyV4 ↔
      k ∈ b.ipv4IncludedRoutes.map keyV4 ∨ keyV4 r = k :=
  mem_appendNew sameIPv4 keyV4 (x := { r with gatewayAddress := b.ipv4DefaultGateway }) fun _ => sameIPv4_key

theorem mem_addIPv6Route (r : NEIPv6Route) (k : String × Int) :
    k ∈ (addIPv6Route p b r).2.ipv6IncludedRoutes.map keyV6 ↔
      k ∈ b.ipv6IncludedRoutes.map keyV6 ∨ keyV6 r = k :=
  mem_appendNew (sameIPv6 p) keyV6 (x := { r with gatewayAddress := b.ipv6DefaultGateway }) fun _ => sameIPv6_key p

theorem mem_excludeIPv6Route (r : NEIPv6Route) (k : String × Int) :
    k ∈ (excludeIPv6Route p b r).2.ipv6ExcludedRoutes.map keyV6 ↔
      k ∈ b.ipv6ExcludedRoutes.map keyV6 ∨ keyV6 r = k :=
  mem_appendNew (sameIPv6 p) keyV6 fun _ => sameIPv6_key p

/-! A route setter appends the route or leaves everything as it was. -/

theorem addIPv4Route_cases (r : NEIPv4Route) :
    addIPv4Route b r = (false, b) ∨
      addIPv4Route b r = (true, { b with
        ipv4IncludedRoutes := b.ipv4IncludedRoutes ++ [{ r with gatewayAddress := b.ipv4DefaultGateway }] }) := by
  simp only [addIPv4Route, appendNew]
  by_cases h : b.ipv4IncludedRoutes.any (sameIPv4 · { r with gatewayAddress := b.ipv4DefaultGateway }) = true
  · exact .inl (by rw [if_pos h])
  · exact .inr (by rw [if_neg h])

theorem addIPv6Route_cases (r : NEIPv6Route) :
    addIPv6Route p b r = (false, b) ∨
      addIPv6Route p b r = (true, { b with
        ipv6IncludedRoutes := b.ipv6IncludedRoutes ++ [{ r with gatewayAddress := b.ipv6DefaultGateway }] }) := by
  simp only [addIPv6Route, appendNew]
  by_cases h : b.ipv6IncludedRoutes.any (sameIPv6 p · { r with gatewayAddress := b.ipv6DefaultGateway }) = true
  · exact .inl (by rw [if_pos h])
  · exact .inr (by rw [if_neg h])

theorem addIPv6Route_with_ipv4 (r : NEIPv6Route) (routes : List NEIPv4Route) :
    addIPv6Route p { b with ipv4IncludedRoutes := routes } r =
      ((addIPv6Route p b r).1, { (addIPv6Route p b r).2 with ipv4IncludedRoutes := routes }) := rfl

theorem addIPv4Route_refused_iff (r : NEIPv4Route) :
    (addIPv4Route b r).1 = false ↔ keyV4 r ∈ b.ipv4IncludedRoutes.map keyV4 := by
  refine appendNew_refused_iff sameIPv4 keyV4 fun y => ⟨sameIPv4_key, fun h => ?_⟩
  simpa [sameIPv4, keyV4] using h

/-- The length 0 is one of the numbers that are the same object on every platform. -/
theorem addIPv6Route_refused_iff :
    (addIPv6Route p b .defaultRoute).1 = false ↔ defaultV6 ∈ b.ipv6IncludedRoutes.map keyV6 := by
  refine appendNew_refused_iff (sameIPv6 p) keyV6
    (x := { NEIPv6Route.defaultRoute with gatewayAddress := b.ipv6DefaultGateway })
    fun y => ⟨sameIPv6_key p, fun h => ?_⟩
  obtain ⟨hd, hn⟩ := Prod.ext_iff.mp h
  simp_all [sameIPv6, sameNumber, keyV6]

theorem tunBuilderRerouteGw_accepted_iff (ipv4 ipv6 : Bool) :
    (tunBuilderRerouteGw p b ipv4 ipv6).1 = true ↔
      (ipv4 = true → defaultV4 ∉ b.ipv4IncludedRoutes.map keyV4) ∧
        (ipv6 = true → defaultV6 ∉ b.ipv6IncludedRoutes.map keyV6) := by
  have h4 := addIPv4Route_refused_iff b .defaultRoute
  have h6 := addIPv6Route_refused_iff p b
  have hkey : keyV4 .defaultRoute = defaultV4 := rfl
  rw [← h6, ← hkey, ← h4]
  rcases addIPv4Route_cases b .defaultRoute with hc | hc
  · cases ipv4 <;> cases ipv6 <;> simp [tunBuilderRerouteGw, hc]
  · cases ipv4 <;> cases ipv6 <;> simp [tunBuilderRerouteGw, hc, addIPv6Route_with_ipv4]

theorem tunBuilderRerouteGw_accepted {ipv4 ipv6 : Bool} (h : (tunBuilderRerouteGw p b ipv4 ipv6).1 = true) :
    (tunBuilderRerouteGw p b ipv4 ipv6).2 = { b with
      ipv4IncludedRoutes := b.ipv4IncludedRoutes ++
        if ipv4 then [{ NEIPv4Route.defaultRoute with gatewayAddress := b.ipv4DefaultGateway }] else []
      ipv6IncludedRoutes := b.ipv6IncludedRoutes ++
        if ipv6 then [{ NEIPv6Route.defaultRoute with gatewayAddress := b.ipv6DefaultGateway }] else [] } := by
  rcases addIPv4Route_cases b .defaultRoute with h4 | h4 <;>
    rcases addIPv6Route_cases p b .defaultRoute with h6 | h6 <;>
    cases ipv4 <;> cases ipv6 <;>
    simp_all [tunBuilderRerouteGw, addIPv6Route_with_ipv4]

end OpenVPNAdapter.OpenVPNClient
