import OpenVPNAdapter.CapturedPlan
import OpenVPNAdapter.PushedLists

namespace OpenVPNAdapter.CapturedSettings

open Library.Effect Library.Offers Library.Driving Library.FirstSeen Text IP Options NetworkSettings TunBuilder
  OpenVPNClient TunProp TunPlan AcceptedValues AdapterPlan RedirectGateway PushedLists
    TunBuilderCapture CapturedPlan

/-! The parts of a builder that the address and the route setters work on. -/

def included (b : Builder) : Builder :=
  { Builder.empty with
    ipv4DefaultGateway := b.ipv4DefaultGateway
    ipv6DefaultGateway := b.ipv6DefaultGateway
    ipv4LocalAddresses := b.ipv4LocalAddresses
    ipv4SubnetMasks := b.ipv4SubnetMasks
    ipv6LocalAddresses := b.ipv6LocalAddresses
    ipv6NetworkPrefixLengths := b.ipv6NetworkPrefixLengths
    ipv4IncludedRoutes := b.ipv4IncludedRoutes
    ipv6IncludedRoutes := b.ipv6IncludedRoutes }

def excluded (b : Builder) : Builder :=
  { Builder.empty with
    ipv4ExcludedRoutes := b.ipv4ExcludedRoutes
    ipv6ExcludedRoutes := b.ipv6ExcludedRoutes }

def asIncluded : Call → Option Call
  | .addAddress address n gateway ipv6 _ => some (.addAddress address n gateway ipv6 false)
  | .addRoute address n _ ipv6 => some (.addRoute address n (-1) ipv6)
  | .rerouteGw ipv4 ipv6 _ => some (.rerouteGw ipv4 ipv6 0)
  | _ => none

def asExcluded : Call → Option Call
  | .excludeRoute address n _ ipv6 => some (.excludeRoute address n (-1) ipv6)
  | _ => none

variable (p : Platform)

theorem included_reroute (b : Builder) (ipv4 ipv6 : Bool) :
    included (tunBuilderRerouteGw p b ipv4 ipv6).2 =
      included (tunBuilderRerouteGw p (included b) ipv4 ipv6).2 := by
  have h4 : addIPv4Route (included b) .defaultRoute =
      ((addIPv4Route b .defaultRoute).1, included (addIPv4Route b .defaultRoute).2) := rfl
  cases ipv4 with
  | false => cases ipv6 <;> rfl
  | true =>
      cases h : (addIPv4Route b .defaultRoute).1 with
      | false => simp [tunBuilderRerouteGw, h4, h]; rfl
      | true => cases ipv6 <;> simp [tunBuilderRerouteGw, h4, h] <;> rfl

theorem included_after (s : Adapter) (cs : List Call) :
    included (after (answer (client p)) s cs).builder = (cs.filterMap asIncluded).foldl
      (fun b c => included (answer (client p) ⟨b, none⟩ c).2.builder) (included s.builder) := by
  refine view_after (fun s : Adapter => included s.builder) _ (fun s c hc => ?_) (fun s c v hc => ?_) s cs
  · cases c
    case addAddress | addRoute | rerouteGw => cases hc
    case setProxyAutoConfigUrl url =>
      simp only [answer, client, tunBuilderSetProxyAutoConfigUrl]
      cases p.urlWithString (cStr url) <;> rfl
    case excludeRoute address n metric ipv6 =>
      cases ipv6 with
      | true => rfl
      | false =>
          simp only [answer, client, tunBuilderExcludeRoute]
          cases subnetMask p n <;> rfl
    all_goals rfl
  · cases c
    case addAddress address n gateway ipv6 net30 =>
      cases hc
      cases ipv6 with
      | true => rfl
      | false =>
          simp only [answer, client, tunBuilderAddAddress]
          cases subnetMask p n <;> rfl
    case addRoute address n metric ipv6 =>
      cases hc
      cases ipv6 with
      | true => rfl
      | false =>
          simp only [answer, client, tunBuilderAddRoute]
          cases subnetMask p n <;> rfl
    case rerouteGw ipv4 ipv6 flags =>
      cases hc
      exact included_reroute p s.builder ipv4 ipv6
    all_goals cases hc

theorem excluded_after (s : Adapter) (cs : List Call) :
    excluded (after (answer (client p)) s cs).builder = (cs.filterMap asExcluded).foldl
      (fun b c => excluded (answer (client p) ⟨b, none⟩ c).2.builder) (excluded s.builder) := by
  refine view_after (fun s : Adapter => excluded s.builder) _ (fun s c hc => ?_) (fun s c v hc => ?_) s cs
  · cases c
    case excludeRoute => cases hc
    case setProxyAutoConfigUrl url =>
      simp only [answer, client, tunBuilderSetProxyAutoConfigUrl]
      cases p.urlWithString (cStr url) <;> rfl
    case addAddress address n gateway ipv6 net30 =>
      cases ipv6 with
      | true => rfl
      | false =>
          simp only [answer, client, tunBuilderAddAddress]
          cases subnetMask p n <;> rfl
    case addRoute address n metric ipv6 =>
      cases ipv6 with
      | true => rfl
      | false =>
          simp only [answer, client, tunBuilderAddRoute]
          cases subnetMask p n <;> rfl
    case rerouteGw ipv4 ipv6 flags =>
      simp only [answer, client, tunBuilderRerouteGw]
      rcases addIPv4Route_cases s.builder .defaultRoute with h4 | h4 <;>
        rcases addIPv6Route_cases p s.builder .defaultRoute with h6 | h6 <;>
        cases ipv4 <;> cases ipv6 <;> simp [h4, h6, addIPv6Route_with_ipv4] <;> rfl
    all_goals rfl
  · cases c
    case excludeRoute address n metric ipv6 =>
      cases hc
      cases ipv6 with
      | true => rfl
      | false =>
          simp only [answer, client, tunBuilderExcludeRoute]
          cases subnetMask p n <;> rfl
    all_goals cases hc

variable {p} {a : Adapter} {pl : Plan} {serverAddr : Addr} {config : Config} {opt : OptionList}

theorem made_proxyCalls (x : Proxies) (s : Adapter) :
    made (answer (client p)) s (proxyCalls x) = proxyCalls x := by
  have hhttp (host : String) (port : Int) (s : Adapter) :
      (answer (client p) s (.setProxyHttp host port)).1 = true := rfl
  have hhttps (host : String) (port : Int) (s : Adapter) :
      (answer (client p) s (.setProxyHttps host port)).1 = true := rfl
  rw [proxyCalls]
  split <;> split <;> split <;> simp [made, hhttp, hhttps]

/-- The calls an adapter is given, with those of the options that are made. -/
theorem performed_told (h : plan p.sys serverAddr config opt = .ok pl) (a : Adapter) (googleDnsFallback : Bool) :
    ∃ groups, (∀ c ∈ groups, part c = .dhcp) ∧ performed p a pl googleDnsFallback =
      session p a (pl.routing ++ (groups ++ (pl.proxies ++ pl.final googleDnsFallback))) := by
  have hpl := plan_shape h
  refine ⟨madeGroups (client p) (session p a pl.routing) pl.dhcp, fun c hc => ?_, ?_⟩
  · obtain ⟨g, hg, hc⟩ := mem_madeGroups hc
    exact part_dhcp hpl c (List.mem_flatMap.mpr ⟨g, hg, hc⟩)
  · obtain ⟨ipv4, ipv6, ipv, -, -, -, rfl⟩ := plan_ok_iff.mp h
    rw [performed, rest]
    rw [show (planWith p.sys serverAddr config opt ((ipv4.toList ++ ipv6.toList).map Prod.fst) ipv).proxies =
      proxyCalls (proxies p.sys (instances opt "dhcp-option")) from rfl, made_proxyCalls]

/-! What the adapter gets of the addresses and the routes of a plan. -/

def addressOf (k : String × Int × String × Bool) : Call := .addAddress k.1 k.2.1 k.2.2.1 k.2.2.2 false

def routeOf (k : String × Int × String × Bool) : Call := .addRoute k.1 k.2.1 (-1) k.2.2.2

def excludedOf (k : String × Int × String × Bool) : Call := .excludeRoute k.1 k.2.1 (-1) k.2.2.2

theorem routing_included (hpl : Shape pl) : pl.routing.filterMap asIncluded =
    ((pl.addresses.filterMap tunnelAddress).map RouteBase.key).map addressOf ++
      (((pl.singles.filterMap addedRoute).map RouteBase.key).map routeOf ++
        [.rerouteGw pl.ipv.rgv4 pl.ipv.rgv6 0]) := by
  have haddresses : pl.addresses.filterMap asIncluded =
      ((pl.addresses.filterMap tunnelAddress).map RouteBase.key).map addressOf := by
    rw [List.map_filterMap, List.map_filterMap]
    refine List.filterMap_congr fun c hc => ?_
    have h := hpl.addresses c hc
    cases c <;> first | rfl | cases h
  have hsingles : pl.singles.filterMap asIncluded =
      ((pl.singles.filterMap addedRoute).map RouteBase.key).map routeOf := by
    rw [List.map_filterMap, List.map_filterMap]
    refine List.filterMap_congr fun c hc => ?_
    have h := hpl.singles c hc
    cases c <;> first | rfl | cases h
  rw [Plan.routing, List.filterMap_append, List.filterMap_append, haddresses, hsingles]
  rfl

theorem singles_excluded (pl : Plan) : pl.singles.filterMap asExcluded =
    ((pl.singles.filterMap excludedRoute).map RouteBase.key).map excludedOf := by
  rw [List.map_filterMap, List.map_filterMap]
  refine List.filterMap_congr fun c hc => ?_
  cases c <;> rfl

theorem included_performed (hpl : Shape pl) (a : Adapter) (googleDnsFallback : Bool) :
    included (performed p a pl googleDnsFallback).builder = (pl.routing.filterMap asIncluded).foldl
      (fun b c => included (answer (client p) ⟨b, none⟩ c).2.builder) Builder.empty := by
  have hrest : (rest p pl googleDnsFallback (session p a pl.routing)).filterMap asIncluded = [] := by
    refine List.filterMap_eq_nil_iff.mpr fun c hc => ?_
    have h := isOther_rest hpl hc
    cases c <;> first | rfl | cases h
  rw [performed, session, included_after, List.filterMap_append, hrest, List.append_nil]
  rfl

theorem excluded_performed (h : plan p.sys serverAddr config opt = .ok pl) (a : Adapter)
    (googleDnsFallback : Bool) :
    excluded (performed p a pl googleDnsFallback).builder = (pl.singles.filterMap asExcluded).foldl
      (fun b c => excluded (answer (client p) ⟨b, none⟩ c).2.builder) Builder.empty := by
  obtain ⟨groups, hgroups, htold⟩ := performed_told h a googleDnsFallback
  rw [htold, session, excluded_after, filterMap_part (k := .singles) (plan_shape h) hgroups]
  · rfl
  · rintro c v hv
    cases c <;> first | rfl | cases hv

theorem ipSettings_congr {b c : Builder} (hin : included b = included c) (hex : excluded b = excluded c) :
    b.ipv4Settings = c.ipv4Settings ∧ b.ipv6Settings = c.ipv6Settings := by
  have h4 (b : Builder) : b.ipv4Settings = Builder.ipv4Settings
      { included b with ipv4ExcludedRoutes := (excluded b).ipv4ExcludedRoutes } := rfl
  have h6 (b : Builder) : b.ipv6Settings = Builder.ipv6Settings
      { included b with ipv6ExcludedRoutes := (excluded b).ipv6ExcludedRoutes } := rfl
  rw [h4 b, h6 b, hin, hex]
  exact ⟨rfl, rfl⟩

theorem captured_plan (hs : p.sys.Printing) {b : Capture} (h : captured p.sys serverAddr config opt = some b) :
    ∃ pl, plan p.sys serverAddr config opt = .ok pl ∧
      Views (callsOf pl (pl.dhcp.flatMap Prod.snd) config.googleDnsFallback) b := by
  obtain ⟨pl, hpl, rfl⟩ := (captured_eq_some_iff hs).mp h
  exact ⟨pl, hpl, views_captured (plan_shape hpl) _⟩

section Captured

variable {b : Capture} {calls : Part → List Call}

theorem tail_eq (h : plan p.sys serverAddr config opt = .ok pl) : pl.tail = tailCalls p.sys serverAddr config := by
  obtain ⟨ipv4, ipv6, ipv, -, -, -, rfl⟩ := plan_ok_iff.mp h
  rfl

theorem proxies_eq (h : plan p.sys serverAddr config opt = .ok pl) :
    pl.proxies = proxyCalls (proxies p.sys (instances opt "dhcp-option")) := by
  obtain ⟨ipv4, ipv6, ipv, -, -, -, rfl⟩ := plan_ok_iff.mp h
  rfl

/-- The first lines of a captured text are those of the configuration. -/
theorem configLines_eq (hv : Views calls b) (htail : calls .tail = tailCalls p.sys serverAddr config) :
    b.sessionName = config.sessionName ∧ b.mtu = config.mtu ∧ b.layer = config.layer := by
  rw [hv.sessionName, hv.mtu, hv.layer, htail, tailCalls]
  by_cases hm : config.mtu = 0 <;> by_cases hn : config.sessionName = "" <;>
    simp [hm, hn, List.findSome?_cons, sessionNameEntry, mtuEntry, layerEntry, Layer.fromValue_value,
        Except.toOption]

theorem remoteAddress_eq (hv : Views calls b) (htail : calls .tail = tailCalls p.sys serverAddr config) :
    b.remoteAddress = ⟨serverAddr.toString p.sys, serverAddr.version = .v6⟩ := by
  rw [hv.remoteAddress, htail, tailCalls]
  by_cases hm : config.mtu = 0 <;> by_cases hn : config.sessionName = "" <;>
    simp [hm, hn, List.filterMap_cons, remoteEntry]

theorem proxyViews_eq (hv : Views calls b) {x : Proxies} (hproxies : calls .proxies = proxyCalls x) :
    b.httpProxy = (if x.httpHost ≠ "" then ⟨x.httpHost, x.httpPort⟩ else ⟨"", 0⟩) ∧
      b.httpsProxy = (if x.httpsHost ≠ "" then ⟨x.httpsHost, x.httpsPort⟩ else ⟨"", 0⟩) ∧
      b.proxyAutoConfigUrl = x.autoConfigUrl := by
  rw [hv.httpProxy, hv.httpsProxy, hv.proxyAutoConfigUrl, hproxies, proxyCalls]
  by_cases h1 : x.httpHost = "" <;> by_cases h2 : x.httpsHost = "" <;> by_cases h3 : x.autoConfigUrl = "" <;>
    simp [h1, h2, h3, List.filterMap_cons, httpEntry, httpsEntry, urlEntry]

end Captured

/-! Two plans whose captures agree. -/

section Agree

variable {b c : Capture} {pl ql : Plan} {gs hs : List Call} {googleDnsFallback : Bool} (hagree : Capture.Agree b c)
  (hb : Views (callsOf pl gs googleDnsFallback) b) (hc : Views (callsOf ql hs googleDnsFallback) c)

include hagree hb hc

theorem proxyCalls_agree {x y : Proxies} (hx : pl.proxies = proxyCalls x) (hy : ql.proxies = proxyCalls y) :
    pl.proxies = ql.proxies := by
  obtain ⟨hhttp, hhttps, hurl⟩ := proxyViews_eq hb hx
  obtain ⟨hhttp', hhttps', hurl'⟩ := proxyViews_eq hc hy
  have hurls : x.autoConfigUrl = y.autoConfigUrl := hurl.symm.trans (hagree.proxyAutoConfigUrl.trans hurl')
  have hhosts {u v : String} {m n : Nat}
      (h : (if u ≠ "" then (⟨u, m⟩ : ProxyHostPort) else ⟨"", 0⟩) = (if v ≠ "" then ⟨v, n⟩ else ⟨"", 0⟩) ∨
        (if u ≠ "" then (⟨u, m⟩ : ProxyHostPort) else ⟨"", 0⟩).host = "" ∧
          (if v ≠ "" then (⟨v, n⟩ : ProxyHostPort) else ⟨"", 0⟩).host = "") :
      u = "" ∧ v = "" ∨ u ≠ "" ∧ u = v ∧ m = n := by
    by_cases hu : u = "" <;> by_cases hv : v = "" <;> simp_all
  have h1 := hagree.httpProxy
  have h2 := hagree.httpsProxy
  rw [hhttp, hhttp'] at h1
  rw [hhttps, hhttps'] at h2
  rw [hx, hy, proxyCalls, proxyCalls, hurls]
  congr 2
  · rcases hhosts h1 with ⟨hu, hv⟩ | ⟨hne, hu, hm⟩
    · rw [hu, hv]
      rfl
    · rw [← hu, ← hm]
  · rcases hhosts h2 with ⟨hu, hv⟩ | ⟨hne, hu, hm⟩
    · rw [hu, hv]
      rfl
    · rw [← hu, ← hm]

theorem reroute_agree : pl.ipv.rgv4 = ql.ipv.rgv4 ∧ pl.ipv.rgv6 = ql.ipv.rgv6 := by
  have h := hagree.rerouteGw
  rw [hb.rerouteGw, hc.rerouteGw] at h
  exact h

theorem included_agree (hpl : Shape pl) (hql : Shape ql) :
    pl.routing.filterMap asIncluded = ql.routing.filterMap asIncluded := by
  obtain ⟨h4, h6⟩ := reroute_agree hagree hb hc
  have haddresses := hagree.tunnelAddresses
  have hroutes := hagree.addRoutes
  rw [hb.tunnelAddresses, hc.tunnelAddresses] at haddresses
  rw [hb.addRoutes, hc.addRoutes] at hroutes
  rw [routing_included hpl, routing_included hql, h4, h6]
  simp only [callsOf] at haddresses hroutes
  rw [haddresses, hroutes]

theorem excluded_agree : pl.singles.filterMap asExcluded = ql.singles.filterMap asExcluded := by
  have hroutes := hagree.excludeRoutes
  rw [hb.excludeRoutes, hc.excludeRoutes] at hroutes
  simp only [callsOf] at hroutes
  rw [singles_excluded, singles_excluded, hroutes]

/-- A default route that is in the way of one plan is in the way of the other. -/
theorem routesFree_agree (hpl : Shape pl) (hql : Shape ql) : RoutesFree p pl ↔ RoutesFree p ql := by
  obtain ⟨h4, h6⟩ := reroute_agree hagree hb hc
  have hroutes := hagree.addRoutes
  rw [hb.addRoutes, hc.addRoutes] at hroutes
  have hshown {β : Type} {shows : Call → Option β} {pl : Plan} (hpl : Shape pl)
      (hadd : ∀ c ∈ pl.singles, shows c = (addedRoute c).bind fun r => shows (routeOf r.key)) :
      pl.singles.filterMap shows =
        ((pl.singles.filterMap addedRoute).map RouteBase.key).filterMap (fun k => shows (routeOf k)) := by
    rw [List.filterMap_map, List.filterMap_filterMap]
    exact List.filterMap_congr hadd
  have hv4 {pl : Plan} (hpl : Shape pl) := @hshown _ (ipv4Route p) _ hpl fun c hc => by
    have h := hpl.singles c hc
    cases c
    case addRoute address n metric ipv6 => cases ipv6 <;> rfl
    all_goals first | rfl | cases h
  have hv6 {pl : Plan} (hpl : Shape pl) := @hshown _ (ipv6Route) _ hpl fun c hc => by
    have h := hpl.singles c hc
    cases c
    case addRoute address n metric ipv6 => cases ipv6 <;> rfl
    all_goals first | rfl | cases h
  rw [RoutesFree, RoutesFree, hv4 hpl, hv4 hql, hv6 hpl, hv6 hql, h4, h6]
  simp only [callsOf] at hroutes
  rw [hroutes]

end Agree

/-! What the adapter holds of the other parts of a plan. -/

theorem performed_shown (h : plan p.sys serverAddr config opt = .ok pl) (a : Adapter) (googleDnsFallback : Bool)
    {β : Type} (shows : Call → Option β) {k : Part} (hk : k ≠ .dhcp) (hpart : ∀ c v, shows c = some v → part c = k)
    (htaken : ∀ s c, (shows c).isSome → (answer (client p) s c).1 = true) :
    ∃ acc, Holds p acc (performed p a pl googleDnsFallback).builder ∧
      acc.filterMap shows = (callsOf pl [] googleDnsFallback k).filterMap shows := by
  obtain ⟨groups, hgroups, htold⟩ := performed_told h a googleDnsFallback
  rw [htold]
  refine ⟨_, holds_session p a _, ?_⟩
  rw [acceptedCalls, filterMap_accepted shows htaken,
      filterMap_part (plan_shape h) hgroups googleDnsFallback hpart]
  cases k with
  | dhcp => exact absurd rfl hk
  | addresses | singles | reroute | proxies | blockIPv6 | tail => rfl

theorem performed_mtu (h : plan p.sys serverAddr config opt = .ok pl) (a : Adapter) (googleDnsFallback : Bool) :
    (performed p a pl googleDnsFallback).builder.mtu = if config.mtu ≠ 0 then some config.mtu else none := by
  obtain ⟨acc, hheld, hacc⟩ := performed_shown h a googleDnsFallback mtu (k := .tail) nofun
    (fun c v hv => by cases c <;> first | rfl | cases hv) (fun s c hc => by cases c <;> first | rfl | cases hc)
  rw [hheld.mtu, hacc, callsOf, tail_eq h, tailCalls]
  by_cases hm : config.mtu = 0 <;> by_cases hn : config.sessionName = "" <;> simp [hm, hn, List.filterMap_cons]

theorem performed_proxies (h : plan p.sys serverAddr config opt = .ok pl) (a : Adapter)
    (googleDnsFallback : Bool) :
    (performed p a pl googleDnsFallback).builder.proxyAutoConfigurationURL =
        (pl.proxies.filterMap (proxyAutoConfigUrl p)).getLast? ∧
      (performed p a pl googleDnsFallback).builder.httpProxyServer = (pl.proxies.filterMap httpProxy).getLast? ∧
      (performed p a pl googleDnsFallback).builder.httpsProxyServer =
      (pl.proxies.filterMap httpsProxy).getLast? := by
  have hpart {β : Type} {shows : Call → Option β} (hshows : ∀ c, (shows c).isSome → part c = .proxies) :
      ∀ c v, shows c = some v → part c = .proxies := fun c v hv => hshows c (hv ▸ rfl)
  refine ⟨?_, ?_, ?_⟩
  · obtain ⟨acc, hheld, hacc⟩ := performed_shown h a googleDnsFallback (proxyAutoConfigUrl p) (k := .proxies)
      nofun (hpart fun c hc => by cases c <;> first | rfl | cases hc) fun s c hc => by
        cases c
        case setProxyAutoConfigUrl url =>
          obtain ⟨configURL, hurl⟩ := Option.isSome_iff_exists.mp hc
          rw [proxyAutoConfigUrl] at hurl
          simp only [answer, client, tunBuilderSetProxyAutoConfigUrl, hurl]
          rfl
        all_goals cases hc
    rw [hheld.autoConfigUrl, hacc]
    rfl
  · obtain ⟨acc, hheld, hacc⟩ := performed_shown h a googleDnsFallback httpProxy (k := .proxies)
      nofun (hpart fun c hc => by cases c <;> first | rfl | cases hc)
      (fun s c hc => by cases c <;> first | rfl | cases hc)
    rw [hheld.httpServer, hacc]
    rfl
  · obtain ⟨acc, hheld, hacc⟩ := performed_shown h a googleDnsFallback httpsProxy (k := .proxies)
      nofun (hpart fun c hc => by cases c <;> first | rfl | cases hc)
      (fun s c hc => by cases c <;> first | rfl | cases hc)
    rw [hheld.httpsServer, hacc]
    rfl

theorem performed_flags (h : plan p.sys serverAddr config opt = .ok pl) (a : Adapter) (googleDnsFallback : Bool) :
    Flags (performed p a pl googleDnsFallback).builder := by
  obtain ⟨groups, -, htold⟩ := performed_told h a googleDnsFallback
  rw [htold]
  exact flags_session p a _

/-- The DNS servers are those of the calls, each once. -/
theorem performed_dnsServers (h : plan p.sys serverAddr config opt = .ok pl) (a : Adapter)
    (googleDnsFallback : Bool) :
    (performed p a pl googleDnsFallback).builder.dnsServers =
      ((callsOf pl (pl.dhcp.flatMap Prod.snd) googleDnsFallback .dhcp).filterMap dnsServer).eraseDups := by
  obtain ⟨u, hu, hperformed⟩ := performed_list a googleDnsFallback (keeps_dns p) h rfl
    (fun c v hc => by cases c <;> cases hc; exact ⟨_, .inl rfl⟩)
    fun o => ⟨(dhcpCalls_dns p.sys o).1, (dhcpCalls_dns p.sys o).2.1⟩
  have hdhcp : pl.dhcp = (instances opt "dhcp-option").map (dhcpCalls p.sys) := by
    obtain ⟨ipv4, ipv6, ipv, -, -, -, rfl⟩ := plan_ok_iff.mp h
    rfl
  have hnamed : (pl.dhcp.flatMap Prod.snd).filterMap dnsServer =
      (instances opt "dhcp-option").flatMap (dnsNamed p.sys) := by
    rw [hdhcp, List.flatMap_map, List.filterMap_flatMap]
    exact List.flatMap_congr fun o _ => (dhcpCalls_dns p.sys o).2.1
  rw [takeInAll_dns, distinct] at hu
  rw [hperformed, (keeps_dns p).after_takeInAll, hu, callsOf, List.filterMap_append, hnamed]
  refine (takeInAll_eraseDups fun pre line post hlines => leading_of_short ?_).trans ?_
  · have hmem : line ∈ ((pl.fallback googleDnsFallback).filterMap dnsServer).map fun v => [v] := by simp [hlines]
    obtain ⟨v, -, rfl⟩ := List.mem_map.mp hmem
    exact Nat.le_refl 1
  · rw [← List.flatMap_def, List.flatMap_singleton']

/-- Two builders whose settings can differ in the search domains and in the proxy exceptions alone. -/
structure Level (b c : Builder) : Prop where
  remoteAddress : b.remoteAddress = c.remoteAddress
  ipv4Settings : b.ipv4Settings = c.ipv4Settings
  ipv6Settings : b.ipv6Settings = c.ipv6Settings
  dnsServers : b.dnsServers = c.dnsServers
  autoConfigUrl : b.proxyAutoConfigurationURL = c.proxyAutoConfigurationURL
  httpServer : b.httpProxyServer = c.httpProxyServer
  httpsServer : b.httpsProxyServer = c.httpsProxyServer
  mtu : b.mtu = c.mtu

section Level

variable {b c : Builder}

theorem dnsSettings_eq_iff (h : Level b c) :
    b.dnsSettings = c.dnsSettings ↔ (b.dnsSettings.isSome → b.searchDomains = c.searchDomains) := by
  rw [Builder.dnsSettings, Builder.dnsSettings, ← h.dnsServers]
  by_cases hdns : b.dnsServers = [] <;> simp [hdns]

theorem proxySettings_eq_iff (h : Level b c) (hb : Flags b) (hc : Flags c) :
    b.proxySettings = c.proxySettings ↔
      (b.proxySettings.isSome → b.proxyExceptionList = c.proxyExceptionList) := by
  rw [Builder.proxySettings, Builder.proxySettings, hb.autoConfig, hb.http, hb.https, hc.autoConfig, hc.http,
    hc.https, ← h.autoConfigUrl, ← h.httpServer, ← h.httpsServer]
  split <;> simp

theorem networkSettings_eq_iff (h : Level b c) (hb : Flags b) (hc : Flags c) {s : NEPacketTunnelNetworkSettings}
    (hs : b.networkSettings = some s) : ∃ t, c.networkSettings = some t ∧
      (s = t ↔ (s.dnsSettings.isSome → b.searchDomains = c.searchDomains) ∧
        (s.proxySettings.isSome → b.proxyExceptionList = c.proxyExceptionList)) := by
  rw [Builder.networkSettings] at hs ⊢
  rw [← h.remoteAddress]
  cases hr : b.remoteAddress with
  | none => simp [hr] at hs
  | some remoteAddress =>
      simp only [hr] at hs ⊢
      split at hs
      · cases hs
      · rename_i hne
        cases hs
        refine ⟨_, if_neg hne, ?_⟩
        rw [← dnsSettings_eq_iff h, ← proxySettings_eq_iff h hb hc, ← h.ipv4Settings, ← h.ipv6Settings, ← h.mtu]
        simp

end Level

section Reuse

variable {serverAddr' : Addr} {opt' : OptionList} {remoteList remoteList' : Option (List Addr)} {b c : Capture}

/-- Captures with one text come from plans that the adapter takes alike, but for the lists whose
options may be left early. -/
theorem level_of_captures (hs : p.sys.Printing)
    (hb : captured p.sys serverAddr { config with remoteList := remoteList } opt = some b)
    (hc : captured p.sys serverAddr' { config with remoteList := remoteList' } opt' = some c)
    (he : b.toString = c.toString) :
    ∃ pl ql, plan p.sys serverAddr { config with remoteList := remoteList } opt = .ok pl ∧
      plan p.sys serverAddr' { config with remoteList := remoteList' } opt' = .ok ql ∧
      (RoutesFree p pl ↔ RoutesFree p ql) ∧ ∀ a a', Level
        (performed p a pl config.googleDnsFallback).builder
          (performed p a' ql config.googleDnsFallback).builder := by
  obtain ⟨pl, hpl, hvb⟩ := captured_plan hs hb
  obtain ⟨ql, hql, hvc⟩ := captured_plan hs hc
  obtain ⟨hname, hmtu, hlayer⟩ := configLines_eq hvb (tail_eq hpl)
  obtain ⟨hname', hmtu', hlayer'⟩ := configLines_eq hvc (tail_eq hql)
  have hconfig : b.configLines = c.configLines := by
    rw [Capture.configLines, Capture.configLines, hname, hmtu, hlayer, hname', hmtu', hlayer']
  have hagree := Capture.agree_of_toString (readable_captured hs hb) (readable_captured hs hc) hconfig he
  have hproxies := proxyCalls_agree hagree hvb hvc (proxies_eq hpl) (proxies_eq hql)
  refine ⟨pl, ql, hpl, hql, routesFree_agree hagree hvb hvc (plan_shape hpl) (plan_shape hql), fun a a' => ?_⟩
  obtain ⟨hurl, hhttp, hhttps⟩ := performed_proxies hpl a config.googleDnsFallback
  obtain ⟨hurl', hhttp', hhttps'⟩ := performed_proxies hql a' config.googleDnsFallback
  have hsettings := @ipSettings_congr (performed p a pl config.googleDnsFallback).builder
    (performed p a' ql config.googleDnsFallback).builder ?_ ?_
  · refine ⟨?_, hsettings.1, hsettings.2, ?_, ?_, ?_, ?_, ?_⟩
    · have hremote := hagree.remoteAddress
      rw [remoteAddress_eq hvb (tail_eq hpl), remoteAddress_eq hvc (tail_eq hql)] at hremote
      rw [performed_remoteAddress hpl, performed_remoteAddress hql, (Host.mk.inj hremote).1]
    · have hentries {cs : List Call} :
        cs.filterMap dnsServer = (cs.filterMap dnsEntry).map (fun h => cStr h.address) := by
        rw [List.map_filterMap]
        refine List.filterMap_congr fun c _ => ?_
        cases c <;> rfl
      have hdns := hagree.dnsServers
      rw [hvb.dnsServers, hvc.dnsServers] at hdns
      rw [performed_dnsServers hpl, performed_dnsServers hql, hentries, hentries]
      exact congrArg (fun es => (List.map (fun h : Host => cStr h.address) es).eraseDups) hdns
    · rw [hurl, hurl', hproxies]
    · rw [hhttp, hhttp', hproxies]
    · rw [hhttps, hhttps', hproxies]
    · rw [performed_mtu hpl, performed_mtu hql]
  · rw [included_performed (plan_shape hpl), included_performed (plan_shape hql),
      included_agree hagree hvb hvc (plan_shape hpl) (plan_shape hql)]
  · rw [excluded_performed hpl, excluded_performed hql, excluded_agree hagree hvb hvc]

/-- The settings of a set-up, and those of another whose capture has the same text: they differ at
most in lists that the options of the one fill otherwise than those of the other. -/
theorem settings_of_captures (hs : p.sys.Printing)
    (hb : captured p.sys serverAddr { config with remoteList := remoteList } opt = some b)
    (hc : captured p.sys serverAddr' { config with remoteList := remoteList' } opt' = some c)
    (he : b.toString = c.toString) {a t : Adapter} (a' : Adapter) {s : NEPacketTunnelNetworkSettings}
    (ht : setUp p a serverAddr { config with remoteList := remoteList } opt = (.ok (), t))
    (hsettings : t.builder.networkSettings = some s) :
    ∃ t' s', setUp p a' serverAddr' { config with remoteList := remoteList' } opt' = (.ok (), t') ∧
      t'.builder.networkSettings = some s' ∧
      (s = s' ↔ (s.dnsSettings.isSome → t.builder.searchDomains = t'.builder.searchDomains) ∧
        (s.proxySettings.isSome → t.builder.proxyExceptionList = t'.builder.proxyExceptionList)) := by
  obtain ⟨pl, ql, hpl, hql, hfree, hlevel⟩ := level_of_captures hs hb hc he
  obtain ⟨hroutes, rfl⟩ := (setUp_ok_iff hpl).mp ht
  obtain ⟨s', hs', hiff⟩ := networkSettings_eq_iff (hlevel a a') (performed_flags hpl a _)
    (performed_flags hql a' _) hsettings
  exact ⟨_, s', (setUp_ok_iff hql).mpr ⟨hfree.mp hroutes, rfl⟩, hs', hiff⟩

end Reuse

end OpenVPNAdapter.CapturedSettings
