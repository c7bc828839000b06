import OpenVPNAdapter.AcceptedValues
import OpenVPNAdapter.TunPlan

namespace OpenVPNAdapter.AdapterPlan

open Library.Effect Library.Offers Library.Driving Text IP Options NetworkSettings TunBuilder OpenVPNClient TunProp
  TunPlan AcceptedValues

/-! The kinds of calls a plan is made of. -/

def IsAddress : Call → Prop
  | .addAddress _ n _ ipv6 _ => ipv6 = false → 0 ≤ n ∧ n ≤ 32
  | _ => False

def IsSingle : Call → Prop
  | .setRouteMetricDefault _ => True
  | .addRoute _ n _ ipv6 => ipv6 = false → 0 ≤ n ∧ n ≤ 32
  | .excludeRoute _ n _ ipv6 => ipv6 = false → 0 ≤ n ∧ n ≤ 32
  | _ => False

def IsDhcp (dns : Bool) : Call → Prop
  | .addDnsServer .. => dns = true
  | .addSearchDomain _ => dns = false
  | .setAdapterDomainSuffix _ => dns = false
  | .addProxyBypass _ => dns = false
  | .addWinsServer _ => dns = false
  | _ => False

def OfType (type : String) : Call → Prop
  | .addDnsServer .. => type = "DNS" ∨ type = "DNS6"
  | .addSearchDomain _ => type = "DOMAIN"
  | .setAdapterDomainSuffix _ => type = "ADAPTER_DOMAIN_SUFFIX"
  | .addProxyBypass _ => type = "PROXY_BYPASS"
  | .addWinsServer _ => type = "WINS"
  | _ => False

def IsProxy : Call → Prop
  | .setProxyHttp .. => True
  | .setProxyHttps .. => True
  | .setProxyAutoConfigUrl _ => True
  | _ => False

def IsTail : Call → Prop
  | .setRemoteAddress .. => True
  | .setLayer _ => True
  | .setMtu _ => True
  | .setSessionName _ => True
  | _ => False

def IsOther : Call → Prop
  | .addAddress .. => False
  | .addRoute .. => False
  | .excludeRoute .. => False
  | .rerouteGw .. => False
  | _ => True

structure Shape (pl : Plan) : Prop where
  addresses : ∀ c ∈ pl.addresses, IsAddress c
  singles : ∀ c ∈ pl.singles, IsSingle c
  dhcp : ∀ g ∈ pl.dhcp, ∀ c ∈ g.2, IsDhcp g.1 c
  dns : ∀ g ∈ pl.dhcp, g.1 = true → g.2.length ≤ 1
  proxies : ∀ c ∈ pl.proxies, IsProxy c
  tail : ∀ c ∈ pl.tail, IsTail c

section Shapes

variable {sys : Sys} {opt : OptionList} {o : Opt} {c : Call}

theorem netmask_version {pair : AddrMaskPair} {v : Version} (h : pair.version = v) (hv : v ≠ .unspec) :
    pair.netmask.version = v := by
  rw [AddrMaskPair.version] at h
  split at h
  · rename_i he
    rw [← he, h]
  · exact absurd h.symm hv

def addressFamily : Call → Option Version
  | .addAddress _ _ _ ipv6 _ => some (if ipv6 then .v6 else .v4)
  | _ => none

/-- The texts of an address call are those of addresses; a gateway may be missing. -/
def Printed (sys : Sys) : Call → Prop
  | .addAddress address _ gateway _ _ =>
      (∃ a : Addr, address = a.toString sys) ∧ (gateway = "" ∨ ∃ g : Addr, gateway = g.toString sys)
  | _ => False

theorem ifconfigSubnet_shape (h : ifconfigSubnet sys opt o = .ok c) :
    IsAddress c ∧ addressFamily c = some .v4 ∧ Printed sys c := by
  simp only [ifconfigSubnet, except_bind_eq_ok, ensure_eq_ok] at h
  obtain ⟨s1, -, s2, -, pair, -, gateway, -, -, hv, n, hn, h⟩ := h
  cases h
  have hle := Addr.prefixLen_le (netmask_version hv fun h => (by cases h)) hn
  exact ⟨fun _ => ⟨by omega, by omega⟩, rfl, ⟨_, rfl⟩, .inr ⟨_, rfl⟩⟩

theorem ifconfigNet30_shape (h : ifconfigNet30 sys o = .ok c) :
    IsAddress c ∧ addressFamily c = some .v4 ∧ Printed sys c := by
  simp only [ifconfigNet30, except_bind_eq_ok, ensure_eq_ok] at h
  obtain ⟨s1, -, remote, -, s2, -, addr, -, netmask, -, -, ⟨hv, -⟩, x, hx, y, -, -, -, n, hn, h⟩ := h
  cases h
  have hversion : netmask.version = .v4 := by
    cases addr with
    | v4 a =>
        cases netmask with
        | v4 mask => rfl
        | unspec | v6 => cases hx
    | unspec | v6 => cases hv
  have hle := Addr.prefixLen_le hversion hn
  exact ⟨fun _ => ⟨by omega, by omega⟩, rfl, ⟨_, rfl⟩, .inr ⟨_, rfl⟩⟩

theorem gatewayIPv6_printed {gateway : String} (h : gatewayIPv6 sys o = .ok gateway) :
    gateway = "" ∨ ∃ g : Addr, gateway = g.toString sys := by
  rw [gatewayIPv6] at h
  split at h
  · simp only [except_bind_eq_ok] at h
    obtain ⟨s, -, g, -, -, -, h⟩ := h
    cases h
    exact .inr ⟨g, rfl⟩
  · cases h
    exact .inl rfl

theorem ifconfigIPv6_shape (h : ifconfigIPv6 sys o = .ok c) :
    IsAddress c ∧ addressFamily c = some .v6 ∧ Printed sys c := by
  simp only [ifconfigIPv6, except_bind_eq_ok, ensure_eq_ok] at h
  obtain ⟨s, -, pair, -, -, -, gateway, hgateway, n, -, h⟩ := h
  cases h
  exact ⟨fun h => (by cases h), rfl, ⟨_, rfl⟩, gatewayIPv6_printed hgateway⟩

theorem ifconfig_shape {r : Option (Call × String)} (h : ifconfig sys opt = .ok r) :
    r.isSome = exists? opt "ifconfig" ∧
      ∀ c ∈ r.toList.map Prod.fst, IsAddress c ∧ addressFamily c = some .v4 ∧ Printed sys c := by
  simp only [ifconfig, except_bind_eq_ok] at h
  obtain ⟨top, -, h⟩ := h
  rw [exists?]
  cases hg : getPtr opt "ifconfig" with
  | none =>
      rw [hg] at h
      cases h
      exact ⟨rfl, nofun⟩
  | some o =>
      rw [hg] at h
      cases top with
      | subnet =>
          obtain ⟨call, hc, h⟩ := except_bind_eq_ok.mp h
          cases h
          exact ⟨rfl, by simpa using ifconfigSubnet_shape hc⟩
      | net30 =>
          obtain ⟨call, hc, h⟩ := except_bind_eq_ok.mp h
          cases h
          exact ⟨rfl, by simpa using ifconfigNet30_shape hc⟩

theorem ifconfigV6_shape {r : Option (Call × String)} (h : ifconfigV6 sys opt = .ok r) :
    r.isSome = exists? opt "ifconfig-ipv6" ∧
      ∀ c ∈ r.toList.map Prod.fst, IsAddress c ∧ addressFamily c = some .v6 ∧ Printed sys c := by
  rw [ifconfigV6] at h
  rw [exists?]
  cases hg : getPtr opt "ifconfig-ipv6" with
  | none =>
      rw [hg] at h
      cases h
      exact ⟨rfl, nofun⟩
  | some o =>
      rw [hg] at h
      obtain ⟨call, hc, h⟩ := except_bind_eq_ok.mp h
      cases h
      exact ⟨rfl, by simpa using ifconfigIPv6_shape hc⟩

theorem checkedRoute_shape {pair : AddrMaskPair} {i : Nat} {v : Version} (h : checkedRoute sys o pair i v = .ok c)
    (hv : v ≠ .unspec) :
    ∃ add metric, ∃ n : Nat, (v = .v4 → n ≤ 32) ∧ c = routeCall sys add pair.addr n metric (v = .v6) := by
  simp only [checkedRoute, except_bind_eq_ok, ensure_eq_ok] at h
  obtain ⟨metric, -, canonical, -, -, -, -, hversion, add, -, n, hn, h⟩ := h
  cases h
  refine ⟨add, metric, n, ?_, rfl⟩
  rintro rfl
  exact Addr.prefixLen_le (netmask_version hversion hv) hn

theorem route_shape (h : route sys o = .ok c) :
    ∃ (pair : AddrMaskPair) (add : Bool) (metric : Int) (n : Nat), n ≤ 32 ∧
      c = routeCall sys add pair.addr n metric false := by
  simp only [route, except_bind_eq_ok] at h
  obtain ⟨s1, -, s2, -, pair, -, h⟩ := h
  obtain ⟨add, metric, n, hle, hc⟩ := checkedRoute_shape h nofun
  exact ⟨pair, add, metric, n, hle rfl, hc⟩

theorem routeIPv6_shape (h : routeIPv6 sys o = .ok c) :
    ∃ (pair : AddrMaskPair) (add : Bool) (metric : Int) (n : Nat),
      c = routeCall sys add pair.addr n metric true := by
  simp only [routeIPv6, except_bind_eq_ok] at h
  obtain ⟨s1, -, pair, -, h⟩ := h
  obtain ⟨add, metric, n, -, hc⟩ := checkedRoute_shape h nofun
  exact ⟨pair, add, metric, n, hc⟩

theorem routeCall_shape (add : Bool) (addr : Addr) {n : Nat} (metric : Int) (ipv6 : Bool)
    (hn : ipv6 = false → n ≤ 32) : IsSingle (routeCall sys add addr n metric ipv6) := by
  rw [routeCall]
  split <;> exact fun h => ⟨by omega, by have := hn h; omega⟩

variable {serverAddr : Addr} {config : Config} {pl : Plan}

theorem metricCalls_shape (h : c ∈ metricCalls sys opt) : ∃ metric, c = .setRouteMetricDefault metric := by
  simp only [metricCalls, Option.mem_toList, Option.bind_eq_some_iff, toOption_eq_some_iff] at h
  obtain ⟨o, -, ho⟩ := h
  simp only [routeMetricDefault, except_bind_eq_ok] at ho
  obtain ⟨metric, -, -, -, ho⟩ := ho
  cases ho
  exact ⟨metric, rfl⟩

theorem mem_bypassCalls {remoteList : List Addr} : c ∈ bypassCalls sys remoteList serverAddr ↔
    ∃ addr ∈ remoteList, addr ≠ serverAddr ∧ c = .excludeRoute (addr.toString sys)
      (Addr.versionSize addr.version) (-1) (addr.version = .v6) := by
  simp only [bypassCalls, List.mem_map, List.mem_filter, decide_eq_true_eq, ne_eq, and_assoc, eq_comm (a := c)]
  rfl

theorem mem_routeCalls {ipv : IPVerFlags} : c ∈ routeCalls sys opt ipv ↔
    (ipv.v4 = true ∧ ∃ o ∈ instances opt "route", route sys o = .ok c) ∨
      (ipv.v6 = true ∧ ∃ o ∈ instances opt "route-ipv6", routeIPv6 sys o = .ok c) := by
  rw [routeCalls, List.mem_append]
  refine or_congr ?_ ?_
  · cases ipv.v4 <;> simp
  · cases ipv.v6 <;> simp

theorem mem_singles {ipv : IPVerFlags} {addresses : List Call} :
    c ∈ (planWith sys serverAddr config opt addresses ipv).singles ↔ c ∈ metricCalls sys opt ∨
      (config.remoteBypass = true ∧ c ∈ bypassCalls sys (config.remoteList.getD []) serverAddr) ∨
      (ipv.v4 = true ∧ ∃ o ∈ instances opt "route", route sys o = .ok c) ∨
      (ipv.v6 = true ∧ ∃ o ∈ instances opt "route-ipv6", routeIPv6 sys o = .ok c) := by
  simp only [planWith, List.mem_append, mem_routeCalls]
  cases config.remoteBypass <;> simp

theorem singles_shape (ipv : IPVerFlags) (addresses : List Call) :
    ∀ c ∈ (planWith sys serverAddr config opt addresses ipv).singles, IsSingle c := by
  intro c hc
  rcases mem_singles.mp hc with hc | ⟨-, hc⟩ | ⟨-, o, -, ho⟩ | ⟨-, o, -, ho⟩
  · obtain ⟨metric, rfl⟩ := metricCalls_shape hc
    trivial
  · obtain ⟨addr, -, -, rfl⟩ := mem_bypassCalls.mp hc
    cases addr <;> simp [IsSingle, Addr.version, Addr.versionSize]
  · obtain ⟨pair, add, metric, n, hn, rfl⟩ := route_shape ho
    exact routeCall_shape _ _ _ _ fun _ => hn
  · obtain ⟨pair, add, metric, n, rfl⟩ := routeIPv6_shape ho
    exact routeCall_shape _ _ _ _ nofun

theorem mem_dhcpCallsOf {type : String} (hc : c ∈ (dhcpCallsOf sys type o).2) : OfType type c := by
  rw [dhcpCallsOf] at hc
  split at hc
  · obtain ⟨-, -, s, -, ip, -, hc⟩ : _ := by
      simpa only [Option.mem_toList, toOption_eq_some_iff, dnsServerCall, except_bind_eq_ok] using hc
    cases hc
    assumption
  split at hc
  · obtain ⟨domain, -, rfl⟩ := List.mem_map.mp hc
    assumption
  split at hc
  · obtain ⟨-, -, s, -, hc⟩ : _ := by
      simpa only [Option.mem_toList, toOption_eq_some_iff, adapterDomainSuffixCall, except_bind_eq_ok] using hc
    cases hc
    assumption
  split at hc
  · obtain ⟨host, -, rfl⟩ := List.mem_map.mp hc
    assumption
  split at hc
  · obtain ⟨-, -, s, -, ip, -, -, -, hc⟩ : _ := by
      simpa only [Option.mem_toList, toOption_eq_some_iff, winsServerCall, except_bind_eq_ok] using hc
    cases hc
    assumption
  · cases hc

theorem dhcpCallsOf_fst (type : String) (o : Opt) :
    (dhcpCallsOf sys type o).1 = decide (type = "DNS" ∨ type = "DNS6") := by
  rw [dhcpCallsOf]
  split
  · exact (decide_eq_true ‹_›).symm
  · rw [decide_eq_false ‹_›]
    split
    · rfl
    split
    · rfl
    split
    · rfl
    split <;> rfl

theorem dhcpCallsOf_shape (type : String) (o : Opt) :
    ∀ c ∈ (dhcpCallsOf sys type o).2, IsDhcp (dhcpCallsOf sys type o).1 c := by
  intro c hc
  have htype := mem_dhcpCallsOf hc
  rw [dhcpCallsOf_fst]
  cases c
  case addDnsServer => exact decide_eq_true htype
  case addSearchDomain | setAdapterDomainSuffix | addProxyBypass | addWinsServer =>
    obtain rfl : type = _ := htype
    simp [IsDhcp]
  all_goals cases htype

theorem dhcpCallsOf_dns (type : String) (o : Opt) (h : (dhcpCallsOf sys type o).1 = true) :
    (dhcpCallsOf sys type o).2.length ≤ 1 := by
  rw [dhcpCallsOf_fst, decide_eq_true_eq] at h
  rw [dhcpCallsOf, if_pos h]
  exact Option.length_toList_le

theorem dhcpCalls_shape (o : Opt) : (∀ c ∈ (dhcpCalls sys o).2, IsDhcp (dhcpCalls sys o).1 c) ∧
    ((dhcpCalls sys o).1 = true → (dhcpCalls sys o).2.length ≤ 1) := by
  rw [dhcpCalls]
  cases o.get sys 1 64 with
  | error e => exact ⟨by simp, by simp⟩
  | ok type => exact ⟨dhcpCallsOf_shape type o, dhcpCallsOf_dns type o⟩

theorem plan_shape (h : plan sys serverAddr config opt = .ok pl) : Shape pl := by
  obtain ⟨ipv4, ipv6, ipv, h4, h6, -, rfl⟩ := plan_ok_iff.mp h
  refine ⟨?_, singles_shape ipv _, ?_, ?_, ?_, ?_⟩
  · intro c hc
    simp only [planWith, List.map_append, List.mem_append] at hc
    rcases hc with hc | hc
    · exact ((ifconfig_shape h4).2 c hc).1
    · exact ((ifconfigV6_shape h6).2 c hc).1
  · rintro g hg
    obtain ⟨o, -, rfl⟩ := List.mem_map.mp hg
    exact (dhcpCalls_shape o).1
  · rintro g hg
    obtain ⟨o, -, rfl⟩ := List.mem_map.mp hg
    exact (dhcpCalls_shape o).2
  · intro c hc
    simp only [planWith, proxyCalls, List.mem_append] at hc
    rcases hc with (hc | hc) | hc
    all_goals
      split at hc
      · rw [List.mem_singleton.mp hc]
        trivial
      · cases hc
  · intro c hc
    simp only [planWith, tailCalls, List.mem_append, List.mem_cons, List.not_mem_nil, or_false] at hc
    rcases hc with ((rfl | rfl) | hc) | hc
    · trivial
    · trivial
    all_goals
      split at hc
      · rw [List.mem_singleton.mp hc]
        trivial
      · cases hc

theorem plan_printed (h : plan sys serverAddr config opt = .ok pl) : ∀ c ∈ pl.addresses, Printed sys c := by
  obtain ⟨ipv4, ipv6, ipv, h4, h6, -, rfl⟩ := plan_ok_iff.mp h
  intro c hc
  simp only [planWith, List.map_append, List.mem_append] at hc
  rcases hc with hc | hc
  · exact ((ifconfig_shape h4).2 c hc).2.2
  · exact ((ifconfigV6_shape h6).2 c hc).2.2

theorem plan_families (h : plan sys serverAddr config opt = .ok pl) :
    ((∃ c ∈ pl.addresses, addressFamily c = some .v4) ↔ exists? opt "ifconfig" = true) ∧
      ((∃ c ∈ pl.addresses, addressFamily c = some .v6) ↔ exists? opt "ifconfig-ipv6" = true) := by
  obtain ⟨ipv4, ipv6, ipv, h4, h6, -, rfl⟩ := plan_ok_iff.mp h
  obtain ⟨h4some, h4⟩ := ifconfig_shape h4
  obtain ⟨h6some, h6⟩ := ifconfigV6_shape h6
  rw [← h4some, ← h6some]
  simp only [planWith, List.map_append, List.mem_append]
  cases ipv4 <;> cases ipv6 <;> simp_all

end Shapes

section Perform

variable (p : Platform) (a : Adapter) (pl : Plan) (googleDnsFallback : Bool)

/-- The calls after the request for default routes that an adapter is given. -/
def rest (s : Adapter) : List Call :=
  let groups := madeGroups (client p) s pl.dhcp
  groups ++ (made (answer (client p)) (after (answer (client p)) s groups) pl.proxies ++
    pl.final googleDnsFallback)

/-- The adapter at the end of a plan, if it gets there. -/
def performed : Adapter :=
  session p a (pl.routing ++ rest p pl googleDnsFallback (session p a pl.routing))

/-- No default route is pushed for a family whose gateway is redirected. -/
def RoutesFree : Prop :=
  (pl.ipv.rgv4 = true → defaultV4 ∉ pl.singles.filterMap (ipv4Route p)) ∧
    (pl.ipv.rgv6 = true → defaultV6 ∉ pl.singles.filterMap ipv6Route)

variable {p a pl googleDnsFallback} {c : Call}

theorem subnetMask_eq {n : Int} (h : 0 ≤ n ∧ n ≤ 32) :
    subnetMask p n = .ok (p.sys.print (.v4 (Addr.mask32 n.toNat))) := by
  have hmod : n % 2 ^ 32 = n := Int.emod_eq_of_lt h.1 (by omega)
  rw [subnetMask, hmod, Addr.netmaskV4, if_pos (by omega)]
  rfl

theorem answer_address (h : IsAddress c) (s : Adapter) : (answer (client p) s c).1 = true := by
  cases c
  case addAddress address n gateway ipv6 net30 =>
    cases ipv6 with
    | true => rfl
    | false =>
        apply answer_of_ipv4Address p s _
        rw [ipv4Address, subnetMask_eq (h rfl)]
        rfl
  all_goals cases h

theorem answer_tail (h : IsTail c) (s : Adapter) : (answer (client p) s c).1 = true := by
  cases c <;> first | rfl | cases h

theorem unchanged_dns {cs : List Call} (h : ∀ c ∈ cs, dnsServer c = none) (s : Adapter) :
    (after (answer (client p)) s cs).builder.dnsServers = s.builder.dnsServers := by
  refine unchanged (fun s : Adapter => s.builder.dnsServers) (fun s c hc => ?_) s
  have he := (effect_answer p s c).dnsServers
  rw [h c hc] at he
  simpa using he

theorem answer_addDnsServer {address : String} {ipv6 : Bool} {s : Adapter} (h : s.builder.dnsServers = []) :
    answer (client p) s (.addDnsServer address ipv6) =
      (true, { s with builder := { s.builder with dnsServers := [cStr address] } }) := by
  simp [answer, client, onBuilder, addDNS, appendNew, h]

/-- The first DNS server of a plan is always taken, so that none is there when none was added. -/
theorem offerGroups_dns {gs : List (Bool × List Call)} (hcalls : ∀ g ∈ gs, ∀ c ∈ g.2, IsDhcp g.1 c)
    (hlen : ∀ g ∈ gs, g.1 = true → g.2.length ≤ 1) (added : Bool) {s : Adapter}
    (hs : added = true ∨ s.builder.dnsServers = []) :
    (offerGroups (client p) added s gs).1 = (added || gs.any fun g => g.1 && g.2 ≠ []) ∧
      ((offerGroups (client p) added s gs).1 = true ∨
        (offerGroups (client p) added s gs).2.builder.dnsServers = []) := by
  induction gs generalizing added s with
  | nil => simpa [offerGroups] using hs
  | cons g gs ih =>
      obtain ⟨dns, cs⟩ := g
      have ih := @ih (fun g hg => hcalls g (List.mem_cons_of_mem _ hg))
          (fun g hg => hlen g (List.mem_cons_of_mem _ hg))
      have hcalls := hcalls _ List.mem_cons_self
      have hlen := hlen _ List.mem_cons_self
      rw [offerGroups, List.any_cons, ← Bool.or_assoc]
      cases dns with
      | false =>
          have hnone : ∀ c ∈ made (answer (client p)) s cs, dnsServer c = none := by
            intro c hc
            have h := hcalls c ((made_initial s cs).subset hc)
            cases c <;> first | rfl | cases h
          simp only [Bool.false_and, Bool.or_false]
          refine ih added (hs.imp_right fun h => ?_)
          rw [offer_snd, unchanged_dns hnone, h]
      | true =>
          rcases cs with _ | ⟨c, _ | ⟨d, cs⟩⟩
          · simpa [offer] using ih added hs
          · cases added with
            | true => simpa using ih true (.inl rfl)
            | false =>
                have hs : s.builder.dnsServers = [] := by simpa using hs
                obtain ⟨address, ipv6, rfl⟩ : ∃ address ipv6, c = .addDnsServer address ipv6 := by
                  have h := hcalls c List.mem_cons_self
                  cases c <;> first | exact ⟨_, _, rfl⟩ | cases h
                simpa [offer, answer_addDnsServer hs] using ih true (.inl rfl)
          · exact absurd (hlen rfl) (by simp)

theorem offer_googleDns {s : Adapter} (h : s.builder.dnsServers = []) :
    offer (answer (client p)) s googleDns = (true, after (answer (client p)) s googleDns) := by
  have hne : cStr "8.8.8.8" ≠ cStr "8.8.4.4" := by decide
  simp [googleDns, offer, answer, client, onBuilder, addDNS, appendNew, sameString, h, hne]

theorem offer_fallback {s : Adapter} (h : pl.addsDns = true ∨ s.builder.dnsServers = []) :
    offer (answer (client p)) s (pl.fallback googleDnsFallback) =
      (true, after (answer (client p)) s (pl.fallback googleDnsFallback)) := by
  rw [Plan.fallback]
  split
  · rename_i hq
    refine offer_googleDns (h.resolve_left fun hadds => ?_)
    simp [hadds] at hq
  · rfl

/-- After the default routes the set-up always gets to its end. -/
theorem performRest_eq (hpl : Shape pl) {s t : Adapter}
    (ht : demand (client p) (after (answer (client p)) s pl.singles)
      [.rerouteGw pl.ipv.rgv4 pl.ipv.rgv6 pl.ipv.flags] = some t) (hdns : t.builder.dnsServers = []) :
    pl.performRest (client p) googleDnsFallback s =
      some (after (answer (client p)) t (rest p pl googleDnsFallback t)) := by
  obtain ⟨hadded, hgroups⟩ := offerGroups_dns (p := p) hpl.dhcp hpl.dns false (.inr hdns)
  rw [Bool.false_or, ← Plan.addsDns] at hadded
  rw [hadded] at hgroups
  have hproxies : ∀ c ∈ made (answer (client p)) (offerGroups (client p) false t pl.dhcp).2 pl.proxies,
      dnsServer c = none := by
    intro c hc
    have h := hpl.proxies c ((made_initial _ _).subset hc)
    cases c <;> first | rfl | cases h
  have hu : pl.addsDns = true ∨ (answer (client p) (after (answer (client p)) (offerGroups (client p) false t
      pl.dhcp).2 (made (answer (client p)) (offerGroups (client p) false t pl.dhcp).2 pl.proxies))
      (.setBlockIPv6 pl.blockIPv6)).2.builder.dnsServers = [] :=
    hgroups.imp_right fun h => (unchanged_dns hproxies _).trans h
  rw [Plan.performRest, ht, Option.bind_eq_bind, Option.bind_some]
  have hfallback : (if pl.ipv.rgv4 && !pl.addsDns && googleDnsFallback then googleDns else []) =
      pl.fallback googleDnsFallback := rfl
  simp only [hadded, offer_snd, hfallback]
  rw [demand, offer_append, offer_fallback hu, if_pos rfl, offer_of_accepting fun c hc s => answer_tail
      (hpl.tail c hc) s]
  simp only [if_true, rest, Plan.final, after_append, after_cons, offerGroups_snd]

theorem demand_addresses (hpl : Shape pl) :
    demand (client p) (tunBuilderNew a) pl.addresses = some (session p a pl.addresses) := by
  rw [demand, offer_of_accepting fun c hc s => answer_address (hpl.addresses c hc) s]
  rfl

theorem not_reroute (hpl : Shape pl) :
    ∀ c ∈ pl.addresses ++ pl.singles, ∀ ipv6 flags, c ≠ .rerouteGw true ipv6 flags := by
  rintro c hc ipv6 flags rfl
  rcases List.mem_append.mp hc with hc | hc
  · exact hpl.addresses _ hc
  · exact hpl.singles _ hc

theorem dnsServer_routing (hpl : Shape pl) : ∀ c ∈ pl.routing, dnsServer c = none := by
  intro c hc
  simp only [Plan.routing, List.mem_append, List.mem_singleton] at hc
  rcases hc with hc | hc | rfl
  · have h := hpl.addresses c hc
    cases c <;> first | rfl | cases h
  · have h := hpl.singles c hc
    cases c <;> first | rfl | cases h
  · rfl

theorem filterMap_addresses {β : Type} (hpl : Shape pl) {shows : Call → Option β}
    (h : ∀ address n gateway ipv6 net30, shows (.addAddress address n gateway ipv6 net30) = none) :
    pl.addresses.filterMap shows = [] := by
  refine List.filterMap_eq_nil_iff.mpr fun c hc => ?_
  have hc := hpl.addresses c hc
  cases c
  case addAddress => exact h ..
  all_goals cases hc

theorem reroute_accepted_iff (hpl : Shape pl) :
    (answer (client p) (session p a (pl.addresses ++ pl.singles))
      (.rerouteGw pl.ipv.rgv4 pl.ipv.rgv6 pl.ipv.flags)).1 = true ↔ RoutesFree p pl := by
  apply (tunBuilderRerouteGw_accepted_iff p _ _ _).trans
  rw [ipv4_held, ipv6_held p a (not_reroute hpl), List.filterMap_append, List.filterMap_append,
    filterMap_addresses hpl fun _ _ _ _ _ => rfl, filterMap_addresses hpl fun _ _ _ _ _ => rfl]
  rfl

theorem session_routing : session p a pl.routing = (answer (client p) (session p a (pl.addresses ++ pl.singles))
    (.rerouteGw pl.ipv.rgv4 pl.ipv.rgv6 pl.ipv.flags)).2 := by
  simp [session, Plan.routing, after_append]

theorem perform_iff (hpl : Shape pl) {t : Adapter} :
    pl.perform (client p) googleDnsFallback (tunBuilderNew a) = some t ↔
      RoutesFree p pl ∧ t = performed p a pl googleDnsFallback := by
  have hsingles : after (answer (client p)) (session p a pl.addresses) pl.singles =
      session p a (pl.addresses ++ pl.singles) := (after_append ..).symm
  rw [Plan.perform, demand_addresses hpl, Option.bind_some, ← reroute_accepted_iff (a := a) hpl]
  cases hok : (answer (client p) (session p a (pl.addresses ++ pl.singles))
      (.rerouteGw pl.ipv.rgv4 pl.ipv.rgv6 pl.ipv.flags)).1 with
  | false =>
      rw [Plan.performRest, hsingles]
      simp [demand, offer, hok]
  | true =>
      have hdemand : demand (client p) (after (answer (client p)) (session p a pl.addresses) pl.singles)
          [.rerouteGw pl.ipv.rgv4 pl.ipv.rgv6 pl.ipv.flags] = some (session p a pl.routing) := by
        simp [hsingles, demand, offer, hok, session_routing]
      rw [performRest_eq hpl hdemand (unchanged_dns (dnsServer_routing hpl) _), Option.some.injEq, eq_comm]
      simp [performed, session, after_append]

theorem mem_rest {s : Adapter} (h : c ∈ rest p pl googleDnsFallback s) :
    (∃ g ∈ pl.dhcp, c ∈ g.2) ∨ c ∈ pl.proxies ∨ c ∈ pl.final googleDnsFallback := by
  simp only [rest, List.mem_append] at h
  rcases h with h | h | h
  · exact .inl (mem_madeGroups h)
  · exact .inr (.inl ((made_initial _ _).subset h))
  · exact .inr (.inr h)

theorem mem_final (h : c ∈ pl.final googleDnsFallback) :
    c = .setBlockIPv6 pl.blockIPv6 ∨ (∃ address, c = .addDnsServer address false) ∨ c ∈ pl.tail := by
  simp only [Plan.final, Plan.fallback, List.mem_cons, List.mem_append] at h
  rcases h with h | h | h
  · exact .inl h
  · split at h
    · simp only [googleDns, List.mem_cons, List.not_mem_nil, or_false] at h
      rcases h with rfl | rfl
      · exact .inr (.inl ⟨_, rfl⟩)
      · exact .inr (.inl ⟨_, rfl⟩)
    · cases h
  · exact .inr (.inr h)

theorem isOther_rest (hpl : Shape pl) {s : Adapter} (h : c ∈ rest p pl googleDnsFallback s) : IsOther c := by
  rcases mem_rest h with ⟨g, hg, hc⟩ | hc | hc
  · have h := hpl.dhcp g hg c hc
    cases c <;> trivial
  · have h := hpl.proxies c hc
    cases c <;> trivial
  · rcases mem_final hc with rfl | ⟨address, rfl⟩ | hc
    · trivial
    · trivial
    · have h := hpl.tail c hc
      cases c <;> trivial

theorem answer_other (h : IsOther c) (s : Adapter) :
    (answer (client p) s c).2.builder.ipv4Settings = s.builder.ipv4Settings ∧
      (answer (client p) s c).2.builder.ipv6Settings = s.builder.ipv6Settings := by
  cases c
  case addAddress | addRoute | excludeRoute | rerouteGw => cases h
  case setProxyAutoConfigUrl url =>
    simp only [answer, client, tunBuilderSetProxyAutoConfigUrl]
    cases p.urlWithString (cStr url) <;> exact ⟨rfl, rfl⟩
  all_goals exact ⟨rfl, rfl⟩

variable (p a googleDnsFallback) in
theorem performed_ipSettings (hpl : Shape pl) :
    (performed p a pl googleDnsFallback).builder.ipv4Settings = (session p a pl.routing).builder.ipv4Settings ∧
      (performed p a pl googleDnsFallback).builder.ipv6Settings =
      (session p a pl.routing).builder.ipv6Settings := by
  rw [performed, session, after_append, ← session]
  constructor
  · exact unchanged (fun s : Adapter => s.builder.ipv4Settings)
      (fun s c hc => (answer_other (isOther_rest hpl hc) s).1) _
  · exact unchanged (fun s : Adapter => s.builder.ipv6Settings)
      (fun s c hc => (answer_other (isOther_rest hpl hc) s).2) _

theorem routing_builder (hpl : Shape pl) (hfree : RoutesFree p pl) :
    let b := (session p a (pl.addresses ++ pl.singles)).builder
    (session p a pl.routing).builder = { b with
      ipv4IncludedRoutes := b.ipv4IncludedRoutes ++
        if pl.ipv.rgv4 then [{ NEIPv4Route.defaultRoute with gatewayAddress := b.ipv4DefaultGateway }]
        else []
      ipv6IncludedRoutes := b.ipv6IncludedRoutes ++
        if pl.ipv.rgv6 then [{ NEIPv6Route.defaultRoute with gatewayAddress := b.ipv6DefaultGateway }]
        else [] } := by
  rw [session_routing]
  exact tunBuilderRerouteGw_accepted p _ ((reroute_accepted_iff (a := a) hpl).mpr hfree)

theorem addresses_ne_nil_iff (hpl : Shape pl) :
    ((session p a (pl.addresses ++ pl.singles)).builder.ipv4LocalAddresses ≠ [] ↔
        ∃ c ∈ pl.addresses, addressFamily c = some .v4) ∧
      ((session p a (pl.addresses ++ pl.singles)).builder.ipv6LocalAddresses ≠ [] ↔
        ∃ c ∈ pl.addresses, addressFamily c = some .v6) := by
  have hshown4 : ∀ c ∈ pl.addresses, ipv4Address p c ≠ none ↔ addressFamily c = some .v4 := by
    intro c hc
    have h := hpl.addresses c hc
    cases c
    case addAddress address n gateway ipv6 net30 =>
      cases ipv6 with
      | true => simp [addressFamily]
      | false => simp [addressFamily, subnetMask_eq (h rfl), Except.toOption]
    all_goals cases h
  have hshown6 : ∀ c ∈ pl.addresses, ipv6Address c ≠ none ↔ addressFamily c = some .v6 := by
    intro c hc
    have h := hpl.addresses c hc
    cases c
    case addAddress address n gateway ipv6 net30 => cases ipv6 <;> simp [addressFamily]
    all_goals cases h
  have hsingles : ∀ c ∈ pl.singles, ipv4Address p c = none ∧ ipv6Address c = none := by
    intro c hc
    have h := hpl.singles c hc
    cases c <;> first | exact ⟨rfl, rfl⟩ | cases h
  have H := holds_session p a (pl.addresses ++ pl.singles)
  have h4 := filterMap_accepted (ipv4Address p) (answer_of_ipv4Address p) (tunBuilderNew a)
      (pl.addresses ++ pl.singles)
  have h6 := filterMap_accepted ipv6Address (answer_of_ipv6Address p) (tunBuilderNew a)
      (pl.addresses ++ pl.singles)
  have hnone4 : pl.singles.filterMap (ipv4Address p) = [] :=
    List.filterMap_eq_nil_iff.mpr fun c hc => (hsingles c hc).1
  have hnone6 : pl.singles.filterMap ipv6Address = [] :=
    List.filterMap_eq_nil_iff.mpr fun c hc => (hsingles c hc).2
  rw [← acceptedCalls, List.filterMap_append] at h4 h6
  rw [H.ipv4Addresses, H.ipv6Addresses, h4, h6, hnone4, hnone6, List.append_nil, List.append_nil]
  have hne {β γ : Type} {shows : Call → Option β} {f : β → γ} {v : Version}
      (h : ∀ c ∈ pl.addresses, shows c ≠ none ↔ addressFamily c = some v) :
      (pl.addresses.filterMap shows).map f ≠ [] ↔ ∃ c ∈ pl.addresses, addressFamily c = some v := by
    simp only [ne_eq, List.map_eq_nil_iff, List.filterMap_eq_nil_iff, Classical.not_forall, exists_prop]
    exact exists_congr fun c => and_congr_right fun hc => h c hc
  exact ⟨hne hshown4, hne hshown6⟩

theorem session_remoteAddress (cs : List Call) :
    (session p a cs).builder.remoteAddress = (cs.filterMap remoteAddress).getLast? := by
  rw [(holds_session p a cs).remoteAddress, acceptedCalls,
    filterMap_accepted remoteAddress (answer_of_remoteAddress p)]

theorem performed_remoteAddress {serverAddr : Addr} {config : Config} {opt : OptionList}
    (h : plan p.sys serverAddr config opt = .ok pl) :
    (performed p a pl googleDnsFallback).builder.remoteAddress = some (cStr (serverAddr.toString p.sys)) := by
  have hpl := plan_shape h
  have hrouting : pl.routing.filterMap remoteAddress = [] := by
    simp only [Plan.routing, List.filterMap_eq_nil_iff, List.mem_append, List.mem_singleton]
    rintro c (hc | hc | rfl)
    · have h := hpl.addresses c hc
      cases c <;> first | rfl | cases h
    · have h := hpl.singles c hc
      cases c <;> first | rfl | cases h
    · rfl
  have hgroups (s : Adapter) : (madeGroups (client p) s pl.dhcp).filterMap remoteAddress = [] := by
    refine List.filterMap_eq_nil_iff.mpr fun c hc => ?_
    obtain ⟨g, hg, hc⟩ := mem_madeGroups hc
    have h := hpl.dhcp g hg c hc
    cases c <;> first | rfl | cases h
  have hproxies (s : Adapter) : (made (answer (client p)) s pl.proxies).filterMap remoteAddress = [] := by
    refine List.filterMap_eq_nil_iff.mpr fun c hc => ?_
    have h := hpl.proxies c ((made_initial _ _).subset hc)
    cases c <;> first | rfl | cases h
  have hfallback : (pl.fallback googleDnsFallback).filterMap remoteAddress = [] := by
    rw [Plan.fallback]
    split <;> rfl
  have htail : pl.tail.filterMap remoteAddress = [cStr (serverAddr.toString p.sys)] := by
    obtain ⟨ipv4, ipv6, ipv, -, -, -, rfl⟩ := plan_ok_iff.mp h
    simp only [planWith, tailCalls]
    split <;> split <;> rfl
  have hfinal : (pl.final googleDnsFallback).filterMap remoteAddress = [cStr (serverAddr.toString p.sys)] := by
    rw [Plan.final, List.filterMap_cons_none rfl, List.filterMap_append, hfallback, htail, List.nil_append]
  rw [performed, session_remoteAddress]
  simp only [rest, List.filterMap_append, hrouting, hgroups, hproxies, hfinal, List.nil_append,
      List.getLast?_singleton]

variable (p a googleDnsFallback) in
theorem performed_settings {serverAddr : Addr} {config : Config} {opt : OptionList}
    (h : plan p.sys serverAddr config opt = .ok pl) (hne : cStr (serverAddr.toString p.sys) ≠ "") :
    ∃ s, (performed p a pl googleDnsFallback).builder.networkSettings = some s ∧
      s.ipv4Settings = (session p a pl.routing).builder.ipv4Settings ∧
      s.ipv6Settings = (session p a pl.routing).builder.ipv6Settings := by
  obtain ⟨h4, h6⟩ := performed_ipSettings p a googleDnsFallback (plan_shape h)
  rw [Builder.networkSettings, performed_remoteAddress h]
  exact ⟨_, if_neg hne, h4, h6⟩

end Perform

end OpenVPNAdapter.AdapterPlan
