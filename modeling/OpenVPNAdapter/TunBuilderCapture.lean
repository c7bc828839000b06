import Mathlib
import OpenVPNAdapter.Library.Separated
import OpenVPNAdapter.TunProp

namespace OpenVPNAdapter.TunProp

def Layer.fromValue (value : Int) : Except String Layer :=
  if value = 3 then .ok .osiLayer3
  else if value = 2 then .ok .osiLayer2
  else if value = 0 then .ok .none
  else .error "Layer: unrecognized layer value"

def Layer.str : Layer → String
  | .none => "UNDEF_LAYER"
  | .osiLayer2 => "OSI_LAYER_2"
  | .osiLayer3 => "OSI_LAYER_3"

theorem Layer.fromValue_value (layer : Layer) : Layer.fromValue layer.value = .ok layer := by
  cases layer <;> rfl

end OpenVPNAdapter.TunProp

namespace OpenVPNAdapter.TunBuilderCapture

open Library.Separated IP TunBuilder TunProp

/-- `RemoteAddress` and `DNSServer`. -/
structure Host where
  address : String
  ipv6 : Bool
deriving DecidableEq, Repr

structure RerouteGW where
  ipv4 : Bool
  ipv6 : Bool
  flags : RedirectGatewayFlags
deriving DecidableEq, Repr

structure RouteBase where
  address : String
  prefixLength : Int
  metric : Int
  gateway : String
  ipv6 : Bool
  net30 : Bool
deriving DecidableEq, Repr

structure ProxyHostPort where
  host : String
  port : Int
deriving DecidableEq, Repr

/-- `TunBuilderCapture`. -/
@[ext] structure Capture where
  sessionName : String
  mtu : Int
  layer : Layer
  remoteAddress : Host
  tunnelAddresses : List RouteBase
  rerouteGw : RerouteGW
  blockIPv6 : Bool
  routeMetricDefault : Int
  addRoutes : List RouteBase
  excludeRoutes : List RouteBase
  dnsServers : List Host
  searchDomains : List String
  adapterDomainSuffix : String
  proxyBypass : List String
  proxyAutoConfigUrl : String
  httpProxy : ProxyHostPort
  httpsProxy : ProxyHostPort
  winsServers : List String
deriving DecidableEq, Repr

namespace Capture

def new : Capture where
  sessionName := ""
  mtu := 0
  layer := .osiLayer3
  remoteAddress := ⟨"", false⟩
  tunnelAddresses := []
  rerouteGw := ⟨false, false, 0⟩
  blockIPv6 := false
  routeMetricDefault := -1
  addRoutes := []
  excludeRoutes := []
  dnsServers := []
  searchDomains := []
  adapterDomainSuffix := ""
  proxyBypass := []
  proxyAutoConfigUrl := ""
  httpProxy := ⟨"", 0⟩
  httpsProxy := ⟨"", 0⟩
  winsServers := []

/-- What a setter does to the capture, but for `tun_builder_set_layer`. -/
def put (b : Capture) : Call → Capture
  | .setLayer _ => b
  | .setRemoteAddress address ipv6 => { b with remoteAddress := ⟨address, ipv6⟩ }
  | .addAddress address prefixLength gateway ipv6 net30 =>
      { b with tunnelAddresses := b.tunnelAddresses ++ [⟨address, prefixLength, -1, gateway, ipv6, net30⟩] }
  | .setRouteMetricDefault metric => { b with routeMetricDefault := metric }
  | .rerouteGw ipv4 ipv6 flags => { b with rerouteGw := ⟨ipv4, ipv6, flags⟩ }
  | .addRoute address prefixLength metric ipv6 =>
      { b with addRoutes := b.addRoutes ++ [⟨address, prefixLength, metric, "", ipv6, false⟩] }
  | .excludeRoute address prefixLength metric ipv6 =>
      { b with excludeRoutes := b.excludeRoutes ++ [⟨address, prefixLength, metric, "", ipv6, false⟩] }
  | .addDnsServer address ipv6 => { b with dnsServers := b.dnsServers ++ [⟨address, ipv6⟩] }
  | .addSearchDomain domain => { b with searchDomains := b.searchDomains ++ [domain] }
  | .setMtu mtu => { b with mtu := mtu }
  | .setSessionName name => { b with sessionName := name }
  | .addProxyBypass bypassHost => { b with proxyBypass := b.proxyBypass ++ [bypassHost] }
  | .setProxyAutoConfigUrl url => { b with proxyAutoConfigUrl := url }
  | .setProxyHttp host port => { b with httpProxy := ⟨host, port⟩ }
  | .setProxyHttps host port => { b with httpsProxy := ⟨host, port⟩ }
  | .addWinsServer address => { b with winsServers := b.winsServers ++ [address] }
  | .setBlockIPv6 blockIPv6 => { b with blockIPv6 := blockIPv6 }
  | .setAdapterDomainSuffix name => { b with adapterDomainSuffix := name }

/-- The setters of the capture, which return `true`. -/
def builder : TunBuilderBase Capture := fun b c => match c with
  | .setLayer value => (Layer.fromValue value).map fun layer => (true, { b with layer := layer })
  | c => .ok (true, b.put c)

end Capture

def Host.toString (h : Host) : String := h.address ++ if h.ipv6 then " [IPv6]" else ""

def flagText (q : Bool) (name : String) : String := if q then name else ""

/-- `RedirectGatewayFlags::to_string`. -/
def flagsToString (flags : RedirectGatewayFlags) : String :=
  "[ " ++ flagText (flags &&& RG_ENABLE ≠ 0) "ENABLE " ++ flagText (flags &&& RG_REROUTE_GW ≠ 0) "REROUTE_GW " ++
    flagText (flags &&& RG_LOCAL ≠ 0) "LOCAL " ++ flagText (flags &&& RG_AUTO_LOCAL ≠ 0) "AUTO_LOCAL " ++
    flagText (flags &&& RG_DEF1 ≠ 0) "DEF1 " ++ flagText (flags &&& RG_BYPASS_DHCP ≠ 0) "BYPASS_DHCP " ++
    flagText (flags &&& RG_BYPASS_DNS ≠ 0) "BYPASS_DNS " ++
      flagText (flags &&& RG_BLOCK_LOCAL ≠ 0) "BLOCK_LOCAL " ++
    flagText (flags &&& RG_IPv4 ≠ 0) "IPv4 " ++ flagText (flags &&& RG_IPv6 ≠ 0) "IPv6 " ++ "]"

def boolText (b : Bool) : String := if b then "1" else "0"

def RerouteGW.toString (r : RerouteGW) : String :=
  "IPv4=" ++ boolText r.ipv4 ++ " IPv6=" ++ boolText r.ipv6 ++ " flags=" ++ flagsToString r.flags

def RouteBase.toString (r : RouteBase) : String :=
  r.address ++ "/" ++ ToString.toString r.prefixLength ++ (if r.gateway ≠ "" then " -> " ++ r.gateway else "") ++
    (if 0 ≤ r.metric then " [METRIC=" ++ ToString.toString r.metric ++ "]" else "") ++
    (if r.ipv6 then " [IPv6]" else "") ++ (if r.net30 then " [net30]" else "")

def ProxyHostPort.toString (p : ProxyHostPort) : String := p.host ++ " " ++ ToString.toString p.port

/-- What stands behind a title: a text on the same line, or entries on the lines that follow. -/
inductive Body
  | text (s : String)
  | entries (es : List String)
deriving DecidableEq, Repr

/-- A line of the text, and the lines of `render_list` under it. -/
def Body.render (title : String) : Body → String × List String
  | .text s => (title ++ ": " ++ s, [])
  | .entries es => (title ++ ":", es.map ("  " ++ ·))

namespace Capture

variable (b : Capture)

/-- The lines that depend on the configuration alone. -/
def configLines : List String :=
  ["Session Name: " ++ b.sessionName, "Layer: " ++ b.layer.str] ++
    if b.mtu ≠ 0 then ["MTU: " ++ ToString.toString b.mtu] else []

def sections : List (String × Option Body) :=
  [("Remote Address", some (.text b.remoteAddress.toString)),
    ("Tunnel Addresses", some (.entries (b.tunnelAddresses.map RouteBase.toString))),
    ("Reroute Gateway", some (.text b.rerouteGw.toString)),
    ("Block IPv6", some (.text (if b.blockIPv6 then "yes" else "no"))),
    ("Route Metric Default",
      if 0 ≤ b.routeMetricDefault then some (.text (ToString.toString b.routeMetricDefault)) else none),
    ("Add Routes", some (.entries (b.addRoutes.map RouteBase.toString))),
    ("Exclude Routes", some (.entries (b.excludeRoutes.map RouteBase.toString))),
    ("DNS Servers", some (.entries (b.dnsServers.map Host.toString))),
    ("Search Domains", some (.entries b.searchDomains)),
    ("Adapter Domain Suffix", if b.adapterDomainSuffix ≠ "" then some (.text b.adapterDomainSuffix) else none),
    ("Proxy Bypass", if b.proxyBypass ≠ [] then some (.entries b.proxyBypass) else none),
    ("Proxy Auto Config URL", if b.proxyAutoConfigUrl ≠ "" then some (.text b.proxyAutoConfigUrl) else none),
    ("HTTP Proxy", if b.httpProxy.host ≠ "" then some (.text b.httpProxy.toString) else none),
    ("HTTPS Proxy", if b.httpsProxy.host ≠ "" then some (.text b.httpsProxy.toString) else none),
    ("WINS Servers", if b.winsServers ≠ [] then some (.entries b.winsServers) else none)]

/-- `to_string`. -/
def toString : String :=
  String.join ((b.configLines ++ grouped (rendered Body.render b.sections)).map (· ++ "\n"))

end Capture

/-! Reading a text. -/

def OneLine (s : String) : Prop := '\n' ∉ s.toList

theorem not_mem_of_plain {s : String} (h : isPlain s = true) {c : Char} (hc : c ∈ ['\x00', '\n', ' ', '/']) :
    c ∉ s.toList := fun hmem => (isPlain_iff s).mp h c hmem hc

theorem mem_repr {n : Int} {c : Char} (h : c ∈ n.repr.toList) : c = '-' ∨ c.isDigit = true := by
  cases n with
  | ofNat n =>
      have h : c ∈ n.repr.toList := h
      rw [Nat.toList_repr] at h
      exact .inr (Nat.isDigit_of_mem_toDigits (by decide) (by decide) h)
  | negSucc n =>
      have h : c ∈ ("-" ++ (n + 1).repr).toList := h
      rw [String.toList_append, List.mem_append, Nat.toList_repr] at h
      rcases h with h | h
      · exact .inl (by simpa using h)
      · exact .inr (Nat.isDigit_of_mem_toDigits (by decide) (by decide) h)

theorem not_mem_repr (n : Int) {c : Char} (hminus : c ≠ '-') (hdigit : c.isDigit = false) :
    c ∉ n.repr.toList := by
  intro h
  rcases mem_repr h with h | h
  · exact hminus h
  · rw [hdigit] at h
    cases h

theorem Host.toString_inj {h k : Host} (hh : isPlain h.address = true) (hk : isPlain k.address = true)
    (he : h.toString = k.toString) : h = k := by
  have hspace {s : String} (hs : isPlain s = true) : ∀ c ∈ s.toList, c ≠ ' ' :=
    fun c hc he => not_mem_of_plain hs (by simp) (he ▸ hc)
  have htail (q : Bool) : ∀ c ∈ (if q then " [IPv6]" else "").toList.head?, ¬ c ≠ ' ' := by
    cases q <;> simp
  have hlist := congrArg String.toList he
  simp only [Host.toString, String.toList_append] at hlist
  obtain ⟨haddress, hflag⟩ := boundary (hspace hh) (hspace hk) (htail _) (htail _) hlist
  obtain ⟨address, ipv6⟩ := h
  obtain ⟨address', ipv6'⟩ := k
  obtain rfl : address = address' := String.toList_injective haddress
  cases ipv6 <;> cases ipv6' <;> simp_all

namespace RouteBase

def gatewayWords (r : RouteBase) : List (List Char) :=
  if r.gateway ≠ "" then ["->".toList, r.gateway.toList] else []

def marks (r : RouteBase) : List (List Char) :=
  (if 0 ≤ r.metric then ["[METRIC=".toList ++ (ToString.toString r.metric).toList ++ "]".toList] else []) ++
    (if r.ipv6 then ["[IPv6]".toList] else []) ++ if r.net30 then ["[net30]".toList] else []

theorem toList_toString (r : RouteBase) : r.toString.toList =
    r.address.toList ++ '/' :: ((ToString.toString r.prefixLength).toList ++
      preceded ' ' (r.gatewayWords ++ r.marks)) := by
  simp only [RouteBase.toString, gatewayWords, marks, preceded]
  split <;> split <;> split <;> split <;> simp

theorem bracket_of_mem_marks {r : RouteBase} {w : List Char} (h : w ∈ r.marks) : w.head? = some '[' := by
  simp only [marks, List.mem_append] at h
  rcases h with (h | h) | h
  all_goals
    split at h
    · rw [List.mem_singleton.mp h]
      rfl
    · cases h

theorem space_not_mem {r : RouteBase} (hgateway : isPlain r.gateway = true) :
    ∀ w ∈ r.gatewayWords ++ r.marks, ' ' ∉ w := by
  have hmetric : ' ' ∉ r.metric.repr.toList := not_mem_repr _ (by decide) (by decide)
  have htext : ' ' ∉ r.gateway.toList := not_mem_of_plain hgateway (by simp)
  simp only [gatewayWords, marks, List.forall_mem_append]
  refine ⟨?_, ⟨?_, ?_⟩, ?_⟩
  all_goals split <;> simp [hmetric, htext]

theorem ipv6_iff (r : RouteBase) : r.ipv6 = true ↔ "[IPv6]".toList ∈ r.marks := by
  simp only [marks, List.mem_append]
  cases r.ipv6 <;> cases r.net30 <;> by_cases h : 0 ≤ r.metric <;> simp [h]

theorem arrow_not_mem (r : RouteBase) : "->".toList ∉ r.marks := by
  intro h
  have hhead := bracket_of_mem_marks h
  simp at hhead

theorem words_inj {r s : RouteBase} (h : r.gatewayWords ++ r.marks = s.gatewayWords ++ s.marks) :
    r.gateway = s.gateway ∧ r.ipv6 = s.ipv6 := by
  suffices hsplit : r.gateway = s.gateway ∧ r.marks = s.marks by
    refine ⟨hsplit.1, ?_⟩
    rw [Bool.eq_iff_iff, ipv6_iff, ipv6_iff, hsplit.2]
  rw [gatewayWords, gatewayWords] at h
  by_cases hr : r.gateway = "" <;> by_cases hs : s.gateway = ""
  · rw [if_neg (not_not.mpr hr), if_neg (not_not.mpr hs)] at h
    exact ⟨hr.trans hs.symm, h⟩
  · rw [if_neg (not_not.mpr hr), if_pos hs] at h
    refine absurd ?_ r.arrow_not_mem
    rw [show r.marks = _ from h]
    exact List.mem_cons_self
  · rw [if_pos hr, if_neg (not_not.mpr hs)] at h
    refine absurd ?_ s.arrow_not_mem
    rw [show s.marks = _ from h.symm]
    exact List.mem_cons_self
  · rw [if_pos hr, if_pos hs] at h
    obtain ⟨-, h⟩ := List.cons.inj h
    obtain ⟨hgateway, hmarks⟩ := List.cons.inj h
    exact ⟨String.toList_injective hgateway, hmarks⟩

theorem words_of_toString {r s : RouteBase} (hr : isPlain r.address = true ∧ isPlain r.gateway = true)
    (hs : isPlain s.address = true ∧ isPlain s.gateway = true) (h : r.toString = s.toString) :
    r.address = s.address ∧ r.prefixLength = s.prefixLength ∧ r.gatewayWords ++ r.marks = s.gatewayWords ++
      s.marks := by
  have hslash {t : String} (ht : isPlain t = true) : '/' ∉ t.toList := not_mem_of_plain ht (by simp)
  have hnumber (n : Int) : ∀ c ∈ n.repr.toList, c ≠ ' ' := fun c hc he =>
    not_mem_repr n (by decide) (by decide) (he ▸ hc)
  have hlist := congrArg String.toList h
  rw [toList_toString, toList_toString] at hlist
  obtain ⟨haddress, hrest⟩ := first_cut (hslash hr.1) (hslash hs.1) hlist
  obtain ⟨hlen, hwords⟩ := boundary (hnumber r.prefixLength) (hnumber s.prefixLength) (head_preceded _)
    (head_preceded _) hrest
  exact ⟨String.toList_injective haddress, Int.repr_inj.mp (String.toList_injective hlen),
    preceded_inj (space_not_mem hr.2) (space_not_mem hs.2) hwords⟩

/-- The part of a route or an address that the adapter gets. -/
def key (r : RouteBase) : String × Int × String × Bool := (r.address, r.prefixLength, r.gateway, r.ipv6)

theorem key_of_toString {r s : RouteBase} (hr : isPlain r.address = true ∧ isPlain r.gateway = true)
    (hs : isPlain s.address = true ∧ isPlain s.gateway = true) (h : r.toString = s.toString) : r.key = s.key := by
  obtain ⟨haddress, hlen, hwords⟩ := words_of_toString hr hs h
  obtain ⟨hgateway, hipv6⟩ := words_inj hwords
  rw [key, key, haddress, hlen, hgateway, hipv6]

theorem oneLine_toString {r : RouteBase} (hr : isPlain r.address = true ∧ isPlain r.gateway = true) :
    OneLine r.toString := by
  have hnumber (n : Int) : '\n' ∉ n.repr.toList := not_mem_repr n (by decide) (by decide)
  have htext {t : String} (ht : isPlain t = true) : '\n' ∉ t.toList := not_mem_of_plain ht (by simp)
  rw [OneLine, toList_toString]
  simp only [gatewayWords, marks, preceded]
  split <;> split <;> split <;> split <;> simp [hnumber, htext hr.1, htext hr.2]

end RouteBase

theorem Host.oneLine_toString {h : Host} (hh : isPlain h.address = true) : OneLine h.toString := by
  have htext : '\n' ∉ h.address.toList := not_mem_of_plain hh (by simp)
  rw [OneLine, Host.toString]
  split <;> simp [htext]

theorem RerouteGW.families_of_toString {r s : RerouteGW} (h : r.toString = s.toString) :
    r.ipv4 = s.ipv4 ∧ r.ipv6 = s.ipv6 := by
  have hlist := congrArg String.toList h
  simp only [RerouteGW.toString, boolText, String.toList_append] at hlist
  cases h4 : r.ipv4 <;> cases h6 : r.ipv6 <;> cases h4' : s.ipv4 <;> cases h6' : s.ipv6 <;> simp_all

theorem not_mem_flagText {c : Char} {name : String} (h : c ∉ name.toList) (q : Bool) :
    c ∉ (flagText q name).toList := by
  cases q
  · simp [flagText]
  · exact h

theorem RerouteGW.oneLine_toString (r : RerouteGW) : OneLine r.toString := by
  have hbool (b : Bool) : '\n' ∉ (boolText b).toList := by cases b <;> simp [boolText]
  have hflag {name : String} (h : '\n' ∉ name.toList) (q : Bool) := not_mem_flagText h q
  simp only [OneLine, RerouteGW.toString, flagsToString, String.toList_append, List.mem_append, not_or]
  simp [hbool, hflag]

theorem ProxyHostPort.toString_inj {x y : ProxyHostPort} (h : x.toString = y.toString) : x = y := by
  have hport (n : Int) : ' ' ∉ n.repr.toList := not_mem_repr n (by decide) (by decide)
  have hlist : x.host.toList ++ ' ' :: x.port.repr.toList = y.host.toList ++ ' ' :: y.port.repr.toList := by
    simpa [ProxyHostPort.toString] using congrArg String.toList h
  obtain ⟨hhost, hnumber⟩ := last_cut (hport x.port) (hport y.port) hlist
  obtain ⟨host, port⟩ := x
  obtain ⟨host', port'⟩ := y
  obtain rfl : host = host' := String.toList_injective hhost
  obtain rfl : port = port' := Int.repr_inj.mp (String.toList_injective hnumber)
  rfl

theorem ProxyHostPort.oneLine_toString {x : ProxyHostPort} (hx : OneLine x.host) : OneLine x.toString := by
  have hnumber : '\n' ∉ x.port.repr.toList := not_mem_repr _ (by decide) (by decide)
  simp only [OneLine] at hx
  simp [OneLine, ProxyHostPort.toString, hx, hnumber]

namespace Capture

/-- Texts that can be told from the lines around them. -/
structure Readable (b : Capture) : Prop where
  remoteAddress : isPlain b.remoteAddress.address = true
  tunnelAddresses : ∀ r ∈ b.tunnelAddresses, isPlain r.address = true ∧ isPlain r.gateway = true
  addRoutes : ∀ r ∈ b.addRoutes, isPlain r.address = true ∧ isPlain r.gateway = true
  excludeRoutes : ∀ r ∈ b.excludeRoutes, isPlain r.address = true ∧ isPlain r.gateway = true
  dnsServers : ∀ h ∈ b.dnsServers, isPlain h.address = true
  searchDomains : ∀ domain ∈ b.searchDomains, OneLine domain
  adapterDomainSuffix : OneLine b.adapterDomainSuffix
  proxyBypass : ∀ bypassHost ∈ b.proxyBypass, OneLine bypassHost
  proxyAutoConfigUrl : OneLine b.proxyAutoConfigUrl
  httpProxy : OneLine b.httpProxy.host
  httpsProxy : OneLine b.httpsProxy.host
  winsServers : ∀ address ∈ b.winsServers, isPlain address = true

variable {b c : Capture}

def Indented (line : String) : Prop := line.toList.head? = some ' '

def titles : List String :=
  ["Remote Address", "Tunnel Addresses", "Reroute Gateway", "Block IPv6", "Route Metric Default", "Add Routes",
    "Exclude Routes", "DNS Servers", "Search Domains", "Adapter Domain Suffix", "Proxy Bypass",
    "Proxy Auto Config URL", "HTTP Proxy", "HTTPS Proxy", "WINS Servers"]

theorem map_fst_sections (b : Capture) : b.sections.map Prod.fst = titles := rfl

theorem titles_plain : ∀ title ∈ titles, OneLine title ∧ ':' ∉ title.toList ∧ title ≠ "" ∧ ¬ Indented title := by
  simp [titles, OneLine, Indented]

def OneLineBody : Body → Prop
  | .text s => OneLine s
  | .entries es => ∀ e ∈ es, OneLine e

theorem Readable.bodies (h : b.Readable) : ∀ x ∈ b.sections, ∀ body ∈ x.2, OneLineBody body := by
  have hoption {q : Prop} [Decidable q] {body : Body} (hbody : OneLineBody body) :
      ∀ x ∈ (if q then some body else none), OneLineBody x := by
    split
    · rintro x ⟨⟩
      exact hbody
    · nofun
  have hsome {body : Body} (hbody : OneLineBody body) : ∀ x ∈ some body, OneLineBody x := by
    rintro x ⟨⟩
    exact hbody
  have hroutes {rs : List RouteBase} (hrs : ∀ r ∈ rs, isPlain r.address = true ∧ isPlain r.gateway = true) :
      ∀ e ∈ rs.map RouteBase.toString, OneLine e :=
    List.forall_mem_map.mpr fun r hr => RouteBase.oneLine_toString (hrs r hr)
  have hmetric : OneLine (ToString.toString b.routeMetricDefault) := not_mem_repr _ (by decide) (by decide)
  have hblock : OneLine (if b.blockIPv6 then "yes" else "no") := by
    split <;> simp [OneLine]
  simp only [sections, List.forall_mem_cons]
  refine ⟨hsome (Host.oneLine_toString h.remoteAddress), hsome (hroutes h.tunnelAddresses),
    hsome (RerouteGW.oneLine_toString _), hsome hblock, hoption hmetric, hsome (hroutes h.addRoutes),
    hsome (hroutes h.excludeRoutes),
    hsome (List.forall_mem_map.mpr fun k hk => Host.oneLine_toString (h.dnsServers k hk)), hsome h.searchDomains,
    hoption h.adapterDomainSuffix, hoption h.proxyBypass, hoption h.proxyAutoConfigUrl,
    hoption (ProxyHostPort.oneLine_toString h.httpProxy), hoption (ProxyHostPort.oneLine_toString h.httpsProxy),
    hoption fun address haddress => not_mem_of_plain (h.winsServers address haddress) (by simp), nofun⟩

theorem mem_rendered {g : String × List String} (hg : g ∈ rendered Body.render b.sections) :
    ∃ title ∈ titles, ∃ body, (title, some body) ∈ b.sections ∧ g = body.render title := by
  obtain ⟨⟨title, body⟩, hs, he⟩ := List.mem_filterMap.mp hg
  obtain ⟨body, rfl, rfl⟩ := Option.map_eq_some_iff.mp he
  exact ⟨title, map_fst_sections b ▸ List.mem_map_of_mem (f := Prod.fst) hs, body, hs, rfl⟩

theorem indented_render {title : String} (ht : title ∈ titles) (body : Body) :
    ¬ Indented (body.render title).1 ∧ ∀ x ∈ (body.render title).2, Indented x := by
  obtain ⟨-, -, hne, hindented⟩ := titles_plain title ht
  have hlong (s : String) : ¬ Indented (title ++ s) := by
    rw [Indented, String.toList_append, List.head?_append_of_ne_nil _ fun he => hne
        (String.toList_eq_nil_iff.mp he)]
    exact hindented
  cases body with
  | text s =>
      refine ⟨?_, nofun⟩
      rw [Body.render, String.append_assoc]
      exact hlong _
  | entries es =>
      refine ⟨hlong _, fun x hx => ?_⟩
      obtain ⟨e, -, rfl⟩ := List.mem_map.mp hx
      simp [Indented]

theorem Readable.lines (h : b.Readable) : ∀ line ∈ grouped (rendered Body.render b.sections), OneLine line := by
  intro line hline
  obtain ⟨g, hg, hline⟩ := List.mem_flatMap.mp hline
  obtain ⟨title, ht, body, hs, rfl⟩ := mem_rendered hg
  have htitle : '\n' ∉ title.toList := (titles_plain title ht).1
  have hbody := h.bodies _ hs body rfl
  rw [OneLine]
  cases body with
  | text s =>
      have hbody : '\n' ∉ s.toList := hbody
      obtain rfl := List.mem_singleton.mp hline
      simp [Body.render, htitle, hbody]
  | entries es =>
      rcases List.mem_cons.mp hline with rfl | hline
      · simp [Body.render, htitle]
      · obtain ⟨e, he, rfl⟩ := List.mem_map.mp hline
        have hentry : '\n' ∉ e.toList := hbody e he
        simp [hentry]

theorem toList_toString (b : Capture) : b.toString.toList =
    terminated '\n' (b.configLines.map String.toList) ++
      terminated '\n' ((grouped (rendered Body.render b.sections)).map String.toList) := by
  rw [toString, String.toList_join, terminated, terminated, ← List.flatMap_append, ← List.map_append,
    List.flatMap_map, List.flatMap_map]
  simp

theorem toString_ne_empty (b : Capture) : b.toString ≠ "" := by
  intro h
  have hlist := toList_toString b
  rw [h, configLines] at hlist
  simp [terminated] at hlist

/-- The text of a `title` before its colon. -/
def titleOf (g : String × List String) : String := String.ofList (g.1.toList.takeWhile (· ≠ ':'))

theorem titleOf_render {title : String} (ht : title ∈ titles) (body : Body) :
    titleOf (body.render title) = title := by
  have hcolon := (titles_plain title ht).2.1
  have hall : ∀ c ∈ title.toList, decide (c ≠ ':') = true := fun c hc => decide_eq_true fun he => hcolon (he ▸ hc)
  have hcut (rest : List Char) :
      (title.toList ++ ':' :: rest).takeWhile (fun c => decide (c ≠ ':')) = title.toList := by
    rw [List.takeWhile_append_of_pos hall]
    simp
  cases body with
  | text s =>
      have hlist : (title ++ ": " ++ s).toList = title.toList ++ ':' :: ' ' :: s.toList := by simp
      rw [titleOf, Body.render, hlist, hcut, String.ofList_toList]
  | entries es =>
      have hlist : (title ++ ":").toList = title.toList ++ [':'] := by simp
      rw [titleOf, Body.render, hlist, hcut, String.ofList_toList]

theorem render_injective (title : String) : Function.Injective (Body.render title) := by
  intro body body' h
  obtain ⟨hhead, hunder⟩ := Prod.ext_iff.mp h
  have hlist := congrArg String.toList hhead
  cases body with
  | text s =>
      cases body' with
      | text s' =>
          have hs : s.toList = s'.toList := by simpa [Body.render] using hlist
          rw [String.toList_injective hs]
      | entries es => simp [Body.render] at hlist
  | entries es =>
      cases body' with
      | text s => simp [Body.render] at hlist
      | entries es' =>
          have hentry : Function.Injective ("  " ++ · : String → String) := fun x y hxy => by
            have hlist := congrArg String.toList hxy
            exact String.toList_injective (by simpa using hlist)
          rw [List.map_injective_iff.mpr hentry hunder]

/-- Below the lines of the configuration a text tells all its sections. -/
theorem sections_of_toString (hb : b.Readable) (hc : c.Readable) (hconfig : b.configLines = c.configLines)
    (h : b.toString = c.toString) : b.sections = c.sections := by
  have hlist := congrArg String.toList h
  rw [toList_toString, toList_toString, hconfig] at hlist
  have honeLine {b : Capture} (hb : b.Readable) :
      ∀ l ∈ (grouped (rendered Body.render b.sections)).map String.toList, '\n' ∉ l :=
    List.forall_mem_map.mpr hb.lines
  have hindented (b : Capture) : ∀ g ∈ rendered Body.render b.sections, ¬ Indented g.1 ∧ ∀ x ∈ g.2,
      Indented x := by
    intro g hg
    obtain ⟨title, ht, body, -, rfl⟩ := mem_rendered hg
    exact indented_render ht body
  have hlines := terminated_inj (honeLine hb) (honeLine hc) (List.append_cancel_left hlist)
  have hgroups := grouped_inj (hindented b) (hindented c)
    (List.map_injective_iff.mpr (fun _ _ he => String.toList_injective he) hlines)
  refine rendered_inj titleOf render_injective ?_ ?_ rfl hgroups
  · rw [map_fst_sections]
    exact fun t ht body => titleOf_render ht body
  · rw [map_fst_sections]
    decide

/-- What two captures with one text have in common. -/
structure Agree (b c : Capture) : Prop where
  remoteAddress : b.remoteAddress = c.remoteAddress
  tunnelAddresses : b.tunnelAddresses.map RouteBase.key = c.tunnelAddresses.map RouteBase.key
  rerouteGw : b.rerouteGw.ipv4 = c.rerouteGw.ipv4 ∧ b.rerouteGw.ipv6 = c.rerouteGw.ipv6
  addRoutes : b.addRoutes.map RouteBase.key = c.addRoutes.map RouteBase.key
  excludeRoutes : b.excludeRoutes.map RouteBase.key = c.excludeRoutes.map RouteBase.key
  dnsServers : b.dnsServers = c.dnsServers
  searchDomains : b.searchDomains = c.searchDomains
  proxyBypass : b.proxyBypass = c.proxyBypass
  proxyAutoConfigUrl : b.proxyAutoConfigUrl = c.proxyAutoConfigUrl
  httpProxy : b.httpProxy = c.httpProxy ∨ b.httpProxy.host = "" ∧ c.httpProxy.host = ""
  httpsProxy : b.httpsProxy = c.httpsProxy ∨ b.httpsProxy.host = "" ∧ c.httpsProxy.host = ""

theorem map_eq_of_map_eq {α β γ : Type} {f : α → β} {g : α → γ} {q : α → Prop} {xs ys : List α}
    (hx : ∀ x ∈ xs, q x) (hy : ∀ y ∈ ys, q y) (hfg : ∀ x y, q x → q y → f x = f y → g x = g y)
    (h : xs.map f = ys.map f) : xs.map g = ys.map g := by
  induction xs generalizing ys with
  | nil =>
      obtain rfl : ys = [] := List.map_eq_nil_iff.mp h.symm
      rfl
  | cons x xs ih =>
      cases ys with
      | nil => cases h
      | cons y ys =>
          obtain ⟨hhead, htail⟩ := List.cons.inj h
          rw [List.map_cons, List.map_cons, hfg x y (hx x List.mem_cons_self) (hy y List.mem_cons_self) hhead,
            ih (fun z hz => hx z (List.mem_cons_of_mem x hz)) (fun z hz => hy z (List.mem_cons_of_mem y hz)) htail]

theorem proxy_of_section {x y : ProxyHostPort}
    (h : (if x.host ≠ "" then some (Body.text x.toString) else none) =
      if y.host ≠ "" then some (Body.text y.toString) else none) : x = y ∨ x.host = "" ∧ y.host = "" := by
  by_cases hx : x.host = "" <;> by_cases hy : y.host = ""
  · exact .inr ⟨hx, hy⟩
  · simp [hx, hy] at h
  · simp [hx, hy] at h
  · refine .inl (ProxyHostPort.toString_inj ?_)
    simpa [hx, hy] using h

theorem agree_of_toString (hb : b.Readable) (hc : c.Readable) (hconfig : b.configLines = c.configLines)
    (h : b.toString = c.toString) : Agree b c := by
  have hsections := sections_of_toString hb hc hconfig h
  simp only [sections, List.cons.injEq, Prod.mk.injEq, true_and, Option.some.injEq, Body.text.injEq,
    Body.entries.injEq, and_true] at hsections
  obtain ⟨hremote, haddresses, hreroute, -, -, hadd, hexclude, hdns, hdomains, -, hbypass, hurl, hhttp,
      hhttps, -⟩ :=
    hsections
  refine ⟨Host.toString_inj hb.remoteAddress hc.remoteAddress hremote,
    map_eq_of_map_eq hb.tunnelAddresses hc.tunnelAddresses (fun _ _ => RouteBase.key_of_toString) haddresses,
    RerouteGW.families_of_toString hreroute,
    map_eq_of_map_eq hb.addRoutes hc.addRoutes (fun _ _ => RouteBase.key_of_toString) hadd,
    map_eq_of_map_eq hb.excludeRoutes hc.excludeRoutes (fun _ _ => RouteBase.key_of_toString) hexclude,
    ?_, hdomains, ?_, ?_, proxy_of_section hhttp, proxy_of_section hhttps⟩
  · have hall := map_eq_of_map_eq (g := id) hb.dnsServers hc.dnsServers (fun _ _ => Host.toString_inj) hdns
    rwa [List.map_id, List.map_id] at hall
  · by_cases hx : b.proxyBypass = [] <;> by_cases hy : c.proxyBypass = [] <;> simp_all
  · by_cases hx : b.proxyAutoConfigUrl = "" <;> by_cases hy : c.proxyAutoConfigUrl = "" <;> simp_all

end Capture

end OpenVPNAdapter.TunBuilderCapture
