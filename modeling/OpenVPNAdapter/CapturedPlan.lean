import OpenVPNAdapter.AdapterPlan
import OpenVPNAdapter.TunBuilderCapture

namespace OpenVPNAdapter.CapturedPlan

open Library.Effect Library.Offers Library.Driving IP Options TunBuilder TunProp TunPlan AdapterPlan
    TunBuilderCapture

/-- The texts that the calls of a plan bring. -/
def Legible : Call → Prop
  | .setLayer value => ∃ layer : Layer, value = layer.value
  | .setRemoteAddress address _ => isPlain address = true
  | .addAddress address _ gateway _ _ => isPlain address = true ∧ isPlain gateway = true
  | .addRoute address _ _ _ => isPlain address = true
  | .excludeRoute address _ _ _ => isPlain address = true
  | .addDnsServer address _ => isPlain address = true
  | .addWinsServer address => isPlain address = true
  | .addSearchDomain domain => OneLine domain
  | .addProxyBypass bypassHost => OneLine bypassHost
  | .setProxyAutoConfigUrl url => OneLine url
  | .setProxyHttp host _ => OneLine host
  | .setProxyHttps host _ => OneLine host
  | .setAdapterDomainSuffix name => OneLine name
  | _ => True

section Legible

variable {sys : Sys} {serverAddr : Addr} {config : Config} {opt : OptionList} {pl : Plan} {o : Opt} {c : Call}

theorem isPlain_toString (hs : sys.Printing) (a : Addr) : isPlain (a.toString sys) = true := by
  cases a with
  | unspec =>
      rw [Addr.toString]
      decide
  | v4 | v6 => exact (isPlain_iff _).mpr (hs.plain _)

theorem oneLine_of_validate {str : String} {maxLen : Nat} (h : Opt.validate str maxLen = none) : OneLine str := by
  intro hmem
  rw [Opt.validate, if_pos (List.any_eq_true.mpr ⟨'\n', hmem, rfl⟩)] at h
  cases h

theorem oneLine_of_get {index maxLen : Nat} {str : String} (h : o.get sys index maxLen = .ok str) : OneLine str :=
  oneLine_of_validate (Opt.get_eq_ok sys h).2

theorem mem_splitLoop {lex : StandardLex} {term cs : List Char} {defined : Bool} {t : List Char}
    (h : t ∈ splitLoop lex term defined cs) : ∀ c ∈ t, c ∈ term ∨ c ∈ cs := by
  induction cs generalizing lex term defined with
  | nil =>
      rw [splitLoop] at h
      split at h
      · rw [List.mem_singleton.mp h]
        exact fun c hc => .inl hc
      · cases h
  | cons d cs ih =>
      have hput : ∀ tc, (lex.put d).ch = some tc → tc = d := by
        intro tc htc
        simp only [StandardLex.put] at htc
        split at htc
        · exact (Option.some.inj htc).symm
        split at htc
        · cases htc
        split at htc
        · cases htc
        · exact (Option.some.inj htc).symm
      have hlater {term' : List Char} (hterm : ∀ c ∈ term', c ∈ term ∨ c = d)
          (h : ∀ c ∈ t, c ∈ term' ∨ c ∈ cs) : ∀ c ∈ t, c ∈ term ∨ c ∈ d :: cs := by
        intro c hc
        rcases h c hc with hc | hc
        · rcases hterm c hc with hc | rfl
          · exact .inl hc
          · exact .inr List.mem_cons_self
        · exact .inr (List.mem_cons_of_mem d hc)
      rw [splitLoop] at h
      split at h
      · exact hlater (fun c hc => .inl hc) (ih h)
      · rename_i tc htc
        obtain rfl := hput tc htc
        split at h
        · refine hlater (fun c hc => ?_) (ih h)
          simpa using hc
        · split at h
          · rcases List.mem_cons.mp h with rfl | h
            · exact fun c hc => .inl hc
            · exact hlater (fun c hc => .inl (by simp at hc)) (ih h)
          · exact hlater (fun c hc => .inl hc) (ih h)

theorem oneLine_bySpace {input t : String} (hinput : OneLine input) (h : t ∈ bySpace input) : OneLine t := by
  obtain ⟨cs, hcs, rfl⟩ := List.mem_map.mp h
  intro hmem
  rw [String.toList_ofList] at hmem
  exact (mem_splitLoop hcs _ hmem).elim (by simp) hinput

theorem oneLine_terms {js : List Nat} {t : String} (h : t ∈ terms sys o js) : OneLine t := by
  induction js with
  | nil => cases h
  | cons j js ih =>
      rw [terms] at h
      split at h
      · rename_i v hv
        rcases List.mem_append.mp h with h | h
        · exact oneLine_bySpace (oneLine_of_get hv) h
        · exact ih h
      · cases h

theorem legible_addresses (hs : sys.Printing) (h : plan sys serverAddr config opt = .ok pl) :
    ∀ c ∈ pl.addresses, Legible c := by
  intro c hc
  have hprinted := plan_printed h c hc
  cases c
  case addAddress address n gateway ipv6 net30 =>
    obtain ⟨⟨a, rfl⟩, hgateway⟩ := hprinted
    refine ⟨isPlain_toString hs a, ?_⟩
    rcases hgateway with rfl | ⟨g, rfl⟩
    · decide
    · exact isPlain_toString hs g
  all_goals cases hprinted

theorem legible_routeCall (hs : sys.Printing) (add : Bool) (addr : Addr) (n : Nat) (metric : Int) (ipv6 : Bool) :
    Legible (routeCall sys add addr n metric ipv6) := by
  rw [routeCall]
  split <;> exact isPlain_toString hs addr

theorem legible_singles (hs : sys.Printing) (ipv : IPVerFlags) (addresses : List Call) :
    ∀ c ∈ (planWith sys serverAddr config opt addresses ipv).singles, Legible c := by
  intro c hc
  rcases mem_singles.mp hc with hc | ⟨-, hc⟩ | ⟨-, o, -, ho⟩ | ⟨-, o, -, ho⟩
  · obtain ⟨metric, rfl⟩ := metricCalls_shape hc
    trivial
  · obtain ⟨addr, -, -, rfl⟩ := mem_bypassCalls.mp hc
    exact isPlain_toString hs addr
  · obtain ⟨pair, add, metric, n, -, rfl⟩ := route_shape ho
    exact legible_routeCall hs ..
  · obtain ⟨pair, add, metric, n, rfl⟩ := routeIPv6_shape ho
    exact legible_routeCall hs ..

theorem legible_dhcpCallsOf (hs : sys.Printing) (type : String) (o : Opt) :
    ∀ c ∈ (dhcpCallsOf sys type o).2, Legible c := by
  intro c hc
  rw [dhcpCallsOf] at hc
  split at hc
  · obtain ⟨-, -, s, -, ip, -, hc⟩ : _ := by
      simpa only [Option.mem_toList, toOption_eq_some_iff, dnsServerCall, except_bind_eq_ok] using hc
    cases hc
    exact isPlain_toString hs ip
  split at hc
  · obtain ⟨domain, hdomain, rfl⟩ := List.mem_map.mp hc
    exact oneLine_terms hdomain
  split at hc
  · obtain ⟨-, -, s, hname, hc⟩ : _ := by
      simpa only [Option.mem_toList, toOption_eq_some_iff, adapterDomainSuffixCall, except_bind_eq_ok] using hc
    cases hc
    exact oneLine_of_get hname
  split at hc
  · obtain ⟨host, hhost, rfl⟩ := List.mem_map.mp hc
    exact oneLine_terms hhost
  split at hc
  · obtain ⟨-, -, s, -, ip, -, -, -, hc⟩ : _ := by
      simpa only [Option.mem_toList, toOption_eq_some_iff, winsServerCall, except_bind_eq_ok] using hc
    cases hc
    exact isPlain_toString hs ip
  · cases hc

theorem legible_dhcpCalls (hs : sys.Printing) (o : Opt) : ∀ c ∈ (dhcpCalls sys o).2, Legible c := by
  rw [dhcpCalls]
  cases o.get sys 1 64 with
  | error e => exact fun _ h => by cases h
  | ok type => exact legible_dhcpCallsOf hs type o

def OneLineProxies (x : Proxies) : Prop := OneLine x.autoConfigUrl ∧ OneLine x.httpHost ∧ OneLine x.httpsHost

theorem oneLine_of_exactArgs {n index maxLen : Nat} {str : String}
    (h : (do o.exactArgs sys n; o.get sys index maxLen : Except String String) = .ok str) : OneLine str := by
  obtain ⟨-, -, h⟩ := except_bind_eq_ok.mp h
  exact oneLine_of_get h

theorem oneLine_proxyOption {x : Proxies} (hx : OneLineProxies x) (o : Opt) :
    OneLineProxies (proxyOption sys x o) := by
  obtain ⟨hurl, hhttp, hhttps⟩ := id hx
  rw [proxyOption]
  split
  · split
    · rename_i h
      exact ⟨oneLine_of_exactArgs h, hhttp, hhttps⟩
    · exact hx
  · split
    · rename_i h
      split <;> exact ⟨hurl, oneLine_of_exactArgs h, hhttps⟩
    · exact hx
  · split
    · rename_i h
      split <;> exact ⟨hurl, hhttp, oneLine_of_exactArgs h⟩
    · exact hx
  · exact hx

theorem oneLine_proxies (os : List Opt) : OneLineProxies (proxies sys os) := by
  rw [proxies]
  have hempty : OneLine "" := by simp [OneLine]
  refine List.foldlRecOn os (proxyOption sys) ⟨hempty, hempty, hempty⟩ fun x hx o _ => oneLine_proxyOption hx o

theorem legible_proxyCalls {x : Proxies} (h : OneLineProxies x) : ∀ c ∈ proxyCalls x, Legible c := by
  obtain ⟨hurl, hhttp, hhttps⟩ := h
  intro c hc
  simp only [proxyCalls, List.mem_append] at hc
  rcases hc with (hc | hc) | hc
  all_goals
    split at hc
    · rw [List.mem_singleton.mp hc]
      assumption
    · cases hc

theorem plan_legible (hs : sys.Printing) (h : plan sys serverAddr config opt = .ok pl) (googleDnsFallback : Bool) :
    ∀ c ∈ pl.calls googleDnsFallback, Legible c := by
  have haddresses := legible_addresses hs h
  obtain ⟨ipv4, ipv6, ipv, -, -, -, rfl⟩ := plan_ok_iff.mp h
  intro c hc
  simp only [Plan.calls, Plan.routing, List.mem_append, List.mem_singleton, List.mem_flatMap] at hc
  rcases hc with (hc | hc | rfl) | ⟨g, hg, hc⟩ | hc | hc
  · exact haddresses c hc
  · exact legible_singles hs ipv _ c hc
  · trivial
  · obtain ⟨o, -, rfl⟩ := List.mem_map.mp hg
    exact legible_dhcpCalls hs o c hc
  · exact legible_proxyCalls (oneLine_proxies _) c hc
  · simp only [Plan.final, List.mem_cons, List.mem_append] at hc
    rcases hc with rfl | hc | hc
    · trivial
    · rw [Plan.fallback] at hc
      split at hc
      · simp only [googleDns, List.mem_cons, List.not_mem_nil, or_false] at hc
        rcases hc with rfl | rfl <;> rfl
      · cases hc
    · simp only [planWith, tailCalls, List.mem_append, List.mem_cons, List.not_mem_nil, or_false] at hc
      rcases hc with ((rfl | rfl) | hc) | hc
      · exact isPlain_toString hs serverAddr
      · exact ⟨config.layer, rfl⟩
      all_goals
        split at hc
        · rw [List.mem_singleton.mp hc]
          trivial
        · cases hc

end Legible

section Captures

open Capture

theorem readable_new : Capture.new.Readable := by
  have hempty : OneLine "" := by simp [OneLine]
  exact ⟨rfl, fun _ h => (by cases h), fun _ h => (by cases h), fun _ h => (by cases h),
      fun _ h => (by cases h), fun _ h => (by cases h), hempty, fun _ h => (by cases h), hempty, hempty,
        hempty, fun _ h => (by cases h)⟩

theorem readable_put {b : Capture} (hb : b.Readable) {c : Call} (hc : Legible c) : (b.put c).Readable := by
  have happend {α : Type} {q : α → Prop} {xs : List α} (hxs : ∀ x ∈ xs, q x) {y : α} (hy : q y) :
      ∀ x ∈ xs ++ [y], q x := List.forall_mem_append.mpr ⟨hxs, List.forall_mem_singleton.mpr hy⟩
  cases c
  case setRemoteAddress => exact { hb with remoteAddress := hc }
  case addAddress => exact { hb with tunnelAddresses := happend hb.tunnelAddresses hc }
  case addRoute => exact { hb with addRoutes := happend hb.addRoutes ⟨hc, rfl⟩ }
  case excludeRoute => exact { hb with excludeRoutes := happend hb.excludeRoutes ⟨hc, rfl⟩ }
  case addDnsServer => exact { hb with dnsServers := happend hb.dnsServers hc }
  case addSearchDomain => exact { hb with searchDomains := happend hb.searchDomains hc }
  case addProxyBypass => exact { hb with proxyBypass := happend hb.proxyBypass hc }
  case setProxyAutoConfigUrl => exact { hb with proxyAutoConfigUrl := hc }
  case setProxyHttp => exact { hb with httpProxy := hc }
  case setProxyHttps => exact { hb with httpsProxy := hc }
  case addWinsServer => exact { hb with winsServers := happend hb.winsServers hc }
  case setAdapterDomainSuffix => exact { hb with adapterDomainSuffix := hc }
  all_goals exact { hb with }

theorem answer_legible {c : Call} (hc : Legible c) (b : Capture) :
    (answer Capture.builder b c).1 = true ∧ (b.Readable → (answer Capture.builder b c).2.Readable) := by
  cases c
  case setLayer value =>
    obtain ⟨layer, rfl⟩ := hc
    rw [answer, Capture.builder, Layer.fromValue_value]
    exact ⟨rfl, fun hb => { hb with }⟩
  all_goals exact ⟨rfl, fun hb => readable_put hb hc⟩

variable (sys : Sys) (serverAddr : Addr) (config : Config) (opt : OptionList)

/-- The capture that `use_persisted_tun` makes, unless the driver throws. -/
def captured : Option Capture :=
  match exec (configureBuilder sys Capture.builder serverAddr config opt) Capture.new with
  | (.ok (), b) => some b
  | (.error _, _) => none

variable {sys serverAddr config opt} {pl : Plan} {b : Capture}

theorem captured_eq_some_iff (hs : sys.Printing) : captured sys serverAddr config opt = some b ↔
    ∃ pl, plan sys serverAddr config opt = .ok pl ∧
      b = after (answer Capture.builder) Capture.new (pl.calls config.googleDnsFallback) := by
  have hcaptured : captured sys serverAddr config opt = some b ↔
      exec (configureBuilder sys Capture.builder serverAddr config opt) Capture.new = (.ok (), b) := by
    rw [captured]
    rcases exec (configureBuilder sys Capture.builder serverAddr config opt) Capture.new with ⟨_ | _, t⟩ <;> simp
  rw [hcaptured, configureBuilder_ok_iff fun _ _ => ⟨_, rfl⟩]
  refine exists_congr fun pl => and_congr_right fun hpl => ?_
  rw [perform_of_accepting fun c hc s => (answer_legible (plan_legible hs hpl _ c hc) s).1,
      Option.some.injEq, eq_comm]

theorem readable_captured (hs : sys.Printing) (h : captured sys serverAddr config opt = some b) : b.Readable := by
  obtain ⟨pl, hpl, rfl⟩ := (captured_eq_some_iff hs).mp h
  exact after_invariant (fun b c hc hb => (answer_legible (plan_legible hs hpl _ c hc) b).2 hb) readable_new

theorem answer_cases (b : Capture) (c : Call) :
    ((∃ value, c = .setLayer value) ∧ ∃ layer, (answer Capture.builder b c).2 = { b with layer := layer }) ∨
      answer Capture.builder b c = (true, b.put c) := by
  cases c
  case setLayer value =>
    refine .inl ⟨⟨value, rfl⟩, ?_⟩
    rw [answer, Capture.builder]
    cases Layer.fromValue value with
    | error e => exact ⟨b.layer, rfl⟩
    | ok layer => exact ⟨layer, rfl⟩
  all_goals exact .inr rfl

section Fields

variable {β : Type} {shows : Call → Option β} (hnone : ∀ value, shows (.setLayer value) = none)

include hnone

theorem accepted_of_shown (b : Capture) (c : Call) (hc : (shows c).isSome) :
    (answer Capture.builder b c).1 = true := by
  rcases answer_cases b c with ⟨⟨value, rfl⟩, -⟩ | h
  · simp [hnone] at hc
  · rw [h]

theorem captured_list (field : Capture → List β) (hput : ∀ b c, field (b.put c) = field b ++ (shows c).toList)
    (hlayer : ∀ b layer, field { b with layer := layer } = field b) (cs : List Call) :
    field (after (answer Capture.builder) Capture.new cs) = field Capture.new ++ cs.filterMap shows := by
  rw [collected field shows, filterMap_accepted shows (accepted_of_shown hnone)]
  intro b c
  rcases answer_cases b c with ⟨⟨value, rfl⟩, layer, h⟩ | h
  · rw [h, hlayer, hnone]
    simp
  · rw [h, if_pos rfl, hput]

theorem captured_last (field : Capture → β) (hput : ∀ b c, field (b.put c) = (shows c).getD (field b))
    (hlayer : ∀ b layer, field { b with layer := layer } = field b) (cs : List Call) :
    field (after (answer Capture.builder) Capture.new cs) =
      (cs.filterMap shows).getLast?.getD (field Capture.new) := by
  have hstep : ∀ b c, some (field (answer Capture.builder b c).2) =
      (if (answer Capture.builder b c).1 then shows c else none).or (some (field b)) := by
    intro b c
    rcases answer_cases b c with ⟨⟨value, rfl⟩, layer, h⟩ | h
    · rw [h, hlayer, hnone]
      simp
    · rw [h, if_pos rfl, hput]
      cases shows c <;> rfl
  have hlast := remembered (fun b => some (field b)) shows hstep Capture.new cs
  rw [filterMap_accepted shows (accepted_of_shown hnone)] at hlast
  rw [← Option.some.injEq, hlast]
  cases (cs.filterMap shows).getLast? <;> rfl

end Fields

/-! What the fields of a capture show. -/

def tunnelAddress : Call → Option RouteBase
  | .addAddress address n gateway ipv6 net30 => some ⟨address, n, -1, gateway, ipv6, net30⟩
  | _ => none

def addedRoute : Call → Option RouteBase
  | .addRoute address n metric ipv6 => some ⟨address, n, metric, "", ipv6, false⟩
  | _ => none

def excludedRoute : Call → Option RouteBase
  | .excludeRoute address n metric ipv6 => some ⟨address, n, metric, "", ipv6, false⟩
  | _ => none

def reroute : Call → Option RerouteGW
  | .rerouteGw ipv4 ipv6 flags => some ⟨ipv4, ipv6, flags⟩
  | _ => none

def dnsEntry : Call → Option Host
  | .addDnsServer address ipv6 => some ⟨address, ipv6⟩
  | _ => none

def searchEntry : Call → Option String
  | .addSearchDomain domain => some domain
  | _ => none

def bypassEntry : Call → Option String
  | .addProxyBypass bypassHost => some bypassHost
  | _ => none

def remoteEntry : Call → Option Host
  | .setRemoteAddress address ipv6 => some ⟨address, ipv6⟩
  | _ => none

def urlEntry : Call → Option String
  | .setProxyAutoConfigUrl url => some url
  | _ => none

def httpEntry : Call → Option ProxyHostPort
  | .setProxyHttp host port => some ⟨host, port⟩
  | _ => none

def httpsEntry : Call → Option ProxyHostPort
  | .setProxyHttps host port => some ⟨host, port⟩
  | _ => none

def sessionNameEntry : Call → Option String
  | .setSessionName name => some name
  | _ => none

def mtuEntry : Call → Option Int
  | .setMtu mtu => some mtu
  | _ => none

def layerEntry : Call → Option Layer
  | .setLayer value => (Layer.fromValue value).toOption
  | _ => none

theorem layer_after (cs : List Call) : (after (answer Capture.builder) Capture.new cs).layer =
    (cs.filterMap layerEntry).getLast?.getD .osiLayer3 := by
  have hstep : ∀ b c, some (answer Capture.builder b c).2.layer =
      (if (answer Capture.builder b c).1 then layerEntry c else none).or (some b.layer) := by
    intro b c
    cases c
    case setLayer value =>
      rw [answer, Capture.builder, layerEntry]
      cases Layer.fromValue value <;> rfl
    all_goals rfl
  have hlast := remembered (fun b => some b.layer) layerEntry hstep Capture.new cs
  rw [filterMap_accepted layerEntry] at hlast
  · rw [← Option.some.injEq, hlast]
    cases (cs.filterMap layerEntry).getLast? <;> rfl
  · intro b c hc
    cases c
    case setLayer value =>
      rw [layerEntry] at hc
      rw [answer, Capture.builder]
      cases hv : Layer.fromValue value with
      | error e => simp [hv, Except.toOption] at hc
      | ok layer => rfl
    all_goals cases hc

/-! A view of one part of a plan. -/

inductive Part
  | addresses
  | singles
  | reroute
  | dhcp
  | proxies
  | blockIPv6
  | tail
deriving DecidableEq, Repr

def part : Call → Part
  | .addAddress .. => .addresses
  | .setRouteMetricDefault _ => .singles
  | .addRoute .. => .singles
  | .excludeRoute .. => .singles
  | .rerouteGw .. => .reroute
  | .addDnsServer .. => .dhcp
  | .addSearchDomain _ => .dhcp
  | .setAdapterDomainSuffix _ => .dhcp
  | .addProxyBypass _ => .dhcp
  | .addWinsServer _ => .dhcp
  | .setProxyHttp .. => .proxies
  | .setProxyHttps .. => .proxies
  | .setProxyAutoConfigUrl _ => .proxies
  | .setBlockIPv6 _ => .blockIPv6
  | .setRemoteAddress .. => .tail
  | .setLayer _ => .tail
  | .setMtu _ => .tail
  | .setSessionName _ => .tail

/-- The calls of a part, where those of the options are `groups` and the DNS fallback. -/
def callsOf (pl : Plan) (groups : List Call) (googleDnsFallback : Bool) : Part → List Call
  | .addresses => pl.addresses
  | .singles => pl.singles
  | .reroute => [.rerouteGw pl.ipv.rgv4 pl.ipv.rgv6 pl.ipv.flags]
  | .dhcp => groups ++ pl.fallback googleDnsFallback
  | .proxies => pl.proxies
  | .blockIPv6 => [.setBlockIPv6 pl.blockIPv6]
  | .tail => pl.tail

variable {groups : List Call}

theorem part_callsOf (hpl : Shape pl) (hgroups : ∀ c ∈ groups, part c = .dhcp)
    (googleDnsFallback : Bool) (k : Part) :
    ∀ c ∈ callsOf pl groups googleDnsFallback k, part c = k := by
  intro c hc
  cases k with
  | addresses =>
      have h := hpl.addresses c hc
      cases c <;> first | rfl | cases h
  | singles =>
      have h := hpl.singles c hc
      cases c <;> first | rfl | cases h
  | reroute | blockIPv6 =>
      rw [List.mem_singleton.mp hc]
      rfl
  | dhcp =>
      rcases List.mem_append.mp hc with hc | hc
      · exact hgroups c hc
      · rw [Plan.fallback] at hc
        split at hc
        · simp only [googleDns, List.mem_cons, List.not_mem_nil, or_false] at hc
          rcases hc with rfl | rfl <;> rfl
        · cases hc
  | proxies =>
      have h := hpl.proxies c hc
      cases c <;> first | rfl | cases h
  | tail =>
      have h := hpl.tail c hc
      cases c <;> first | rfl | cases h

theorem filter_part (hpl : Shape pl) (hgroups : ∀ c ∈ groups, part c = .dhcp)
    (googleDnsFallback : Bool) (k : Part) :
    (pl.routing ++ (groups ++ (pl.proxies ++ pl.final googleDnsFallback))).filter (part · = k) =
      callsOf pl groups googleDnsFallback k := by
  have hall {cs : List Call} {j : Part} (hcs : ∀ c ∈ cs, part c = j) :
      cs.filter (part · = k) = if j = k then cs else [] := by
    split
    · rename_i hj
      rw [List.filter_eq_self]
      exact fun c hc => decide_eq_true ((hcs c hc).trans hj)
    · rename_i hj
      rw [List.filter_eq_nil_iff]
      exact fun c hc hd => hj ((hcs c hc).symm.trans (of_decide_eq_true hd))
  have hparts (j : Part) := part_callsOf hpl hgroups googleDnsFallback j
  have hdhcp := List.forall_mem_append.mp (hparts .dhcp)
  have hcalls : pl.routing ++ (groups ++ (pl.proxies ++ pl.final googleDnsFallback)) =
      callsOf pl groups googleDnsFallback .addresses ++ (callsOf pl groups googleDnsFallback .singles ++
        (callsOf pl groups googleDnsFallback .reroute ++ (groups ++
          (callsOf pl groups googleDnsFallback .proxies ++ (callsOf pl groups googleDnsFallback .blockIPv6 ++
            (pl.fallback googleDnsFallback ++ callsOf pl groups googleDnsFallback .tail)))))) := by
    simp [Plan.routing, Plan.final, callsOf]
  rw [hcalls]
  simp only [List.filter_append, hall (hparts _), hall hdhcp.1, hall hdhcp.2]
  cases k <;> simp [callsOf]

/-- A view of calls of one part sees no others. -/
theorem filterMap_part (hpl : Shape pl) (hgroups : ∀ c ∈ groups, part c = .dhcp) (googleDnsFallback : Bool)
    {β : Type} {shows : Call → Option β} {k : Part} (h : ∀ c v, shows c = some v → part c = k) :
    (pl.routing ++ (groups ++ (pl.proxies ++ pl.final googleDnsFallback))).filterMap shows =
      (callsOf pl groups googleDnsFallback k).filterMap shows := by
  rw [← filter_part hpl hgroups, List.filterMap_filter]
  refine List.filterMap_congr fun c _ => ?_
  cases hc : shows c with
  | none => simp
  | some v => simp [h c v hc]

theorem part_dhcp (hpl : Shape pl) : ∀ c ∈ pl.dhcp.flatMap Prod.snd, part c = .dhcp := by
  intro c hc
  obtain ⟨g, hg, hc⟩ := List.mem_flatMap.mp hc
  have h := hpl.dhcp g hg c hc
  cases c <;> first | rfl | cases h

/-- The fields of the capture of a plan, each a view of one part of its calls. -/
structure Views (calls : Part → List Call) (b : Capture) : Prop where
  tunnelAddresses : b.tunnelAddresses = (calls .addresses).filterMap tunnelAddress
  addRoutes : b.addRoutes = (calls .singles).filterMap addedRoute
  excludeRoutes : b.excludeRoutes = (calls .singles).filterMap excludedRoute
  rerouteGw : b.rerouteGw = ((calls .reroute).filterMap reroute).getLast?.getD ⟨false, false, 0⟩
  dnsServers : b.dnsServers = (calls .dhcp).filterMap dnsEntry
  searchDomains : b.searchDomains = (calls .dhcp).filterMap searchEntry
  proxyBypass : b.proxyBypass = (calls .dhcp).filterMap bypassEntry
  proxyAutoConfigUrl : b.proxyAutoConfigUrl = ((calls .proxies).filterMap urlEntry).getLast?.getD ""
  httpProxy : b.httpProxy = ((calls .proxies).filterMap httpEntry).getLast?.getD ⟨"", 0⟩
  httpsProxy : b.httpsProxy = ((calls .proxies).filterMap httpsEntry).getLast?.getD ⟨"", 0⟩
  remoteAddress : b.remoteAddress = ((calls .tail).filterMap remoteEntry).getLast?.getD ⟨"", false⟩
  sessionName : b.sessionName = ((calls .tail).filterMap sessionNameEntry).getLast?.getD ""
  mtu : b.mtu = ((calls .tail).filterMap mtuEntry).getLast?.getD 0
  layer : b.layer = ((calls .tail).filterMap layerEntry).getLast?.getD .osiLayer3

theorem views_captured (hpl : Shape pl) (googleDnsFallback : Bool) :
    Views (callsOf pl (pl.dhcp.flatMap Prod.snd) googleDnsFallback)
      (after (answer Capture.builder) Capture.new (pl.calls googleDnsFallback)) := by
  have hlist {β : Type} (k : Part) {shows : Call → Option β} {field : Capture → List β}
      (hfield : field (after (answer Capture.builder) Capture.new (pl.calls googleDnsFallback)) =
        (pl.calls googleDnsFallback).filterMap shows)
      (hk : ∀ c v, shows c = some v → part c = k) :
      field (after (answer Capture.builder) Capture.new (pl.calls googleDnsFallback)) =
        (callsOf pl (pl.dhcp.flatMap Prod.snd) googleDnsFallback k).filterMap shows :=
    hfield.trans (filterMap_part hpl (part_dhcp hpl) googleDnsFallback hk)
  have hlast {β : Type} (k : Part) {shows : Call → Option β} {field : Capture → β} {d : β}
      (hfield : field (after (answer Capture.builder) Capture.new (pl.calls googleDnsFallback)) =
        ((pl.calls googleDnsFallback).filterMap shows).getLast?.getD d)
      (hk : ∀ c v, shows c = some v → part c = k) :
      field (after (answer Capture.builder) Capture.new (pl.calls googleDnsFallback)) =
        ((callsOf pl (pl.dhcp.flatMap Prod.snd) googleDnsFallback k).filterMap shows).getLast?.getD d := by
    rw [hfield, Plan.calls, filterMap_part hpl (part_dhcp hpl) googleDnsFallback hk]
  constructor
  · refine hlist .addresses (captured_list (fun _ => rfl) (·.tunnelAddresses) (fun b c => ?_)
      (fun _ _ => rfl) _) ?_
    · cases c <;> simp [put, tunnelAddress]
    · rintro c v hv
      cases c <;> first | rfl | cases hv
  · refine hlist .singles (captured_list (fun _ => rfl) (·.addRoutes) (fun b c => ?_) (fun _ _ => rfl) _) ?_
    · cases c <;> simp [put, addedRoute]
    · rintro c v hv
      cases c <;> first | rfl | cases hv
  · refine hlist .singles (captured_list (fun _ => rfl) (·.excludeRoutes) (fun b c => ?_) (fun _ _ => rfl) _) ?_
    · cases c <;> simp [put, excludedRoute]
    · rintro c v hv
      cases c <;> first | rfl | cases hv
  · refine hlast .reroute (captured_last (fun _ => rfl) (·.rerouteGw) (fun b c => ?_) (fun _ _ => rfl) _) ?_
    · cases c <;> rfl
    · rintro c v hv
      cases c <;> first | rfl | cases hv
  · refine hlist .dhcp (captured_list (fun _ => rfl) (·.dnsServers) (fun b c => ?_) (fun _ _ => rfl) _) ?_
    · cases c <;> simp [put, dnsEntry]
    · rintro c v hv
      cases c <;> first | rfl | cases hv
  · refine hlist .dhcp (captured_list (fun _ => rfl) (·.searchDomains) (fun b c => ?_) (fun _ _ => rfl) _) ?_
    · cases c <;> simp [put, searchEntry]
    · rintro c v hv
      cases c <;> first | rfl | cases hv
  · refine hlist .dhcp (captured_list (fun _ => rfl) (·.proxyBypass) (fun b c => ?_) (fun _ _ => rfl) _) ?_
    · cases c <;> simp [put, bypassEntry]
    · rintro c v hv
      cases c <;> first | rfl | cases hv
  · refine hlast .proxies (captured_last (fun _ => rfl) (·.proxyAutoConfigUrl) (fun b c => ?_)
      (fun _ _ => rfl) _) ?_
    · cases c <;> rfl
    · rintro c v hv
      cases c <;> first | rfl | cases hv
  · refine hlast .proxies (captured_last (fun _ => rfl) (·.httpProxy) (fun b c => ?_) (fun _ _ => rfl) _) ?_
    · cases c <;> rfl
    · rintro c v hv
      cases c <;> first | rfl | cases hv
  · refine hlast .proxies (captured_last (fun _ => rfl) (·.httpsProxy) (fun b c => ?_) (fun _ _ => rfl) _) ?_
    · cases c <;> rfl
    · rintro c v hv
      cases c <;> first | rfl | cases hv
  · refine hlast .tail (captured_last (fun _ => rfl) (·.remoteAddress) (fun b c => ?_) (fun _ _ => rfl) _) ?_
    · cases c <;> rfl
    · rintro c v hv
      cases c <;> first | rfl | cases hv
  · refine hlast .tail (captured_last (fun _ => rfl) (·.sessionName) (fun b c => ?_) (fun _ _ => rfl) _) ?_
    · cases c <;> rfl
    · rintro c v hv
      cases c <;> first | rfl | cases hv
  · refine hlast .tail (captured_last (fun _ => rfl) (·.mtu) (fun b c => ?_) (fun _ _ => rfl) _) ?_
    · cases c <;> rfl
    · rintro c v hv
      cases c <;> first | rfl | cases hv
  · refine hlast .tail (layer_after _) ?_
    rintro c v hv
    cases c <;> first | rfl | cases hv

end Captures

end OpenVPNAdapter.CapturedPlan
