import OpenVPNAdapter.TunProp

namespace OpenVPNAdapter.TunPlan

open Library.Effect Library.Offers Library.Driving IP Options TunBuilder TunProp

/-- The calls an option list asks for, grouped by what a refusal leads to: a call of `addresses`
or `tail` that is refused ends the set-up, one of `singles` is passed over, and one of a group of
`dhcp`, or of `proxies`, ends its group. -/
structure Plan where
  addresses : List Call
  singles : List Call
  ipv : IPVerFlags
  dhcp : List (Bool × List Call)
  proxies : List Call
  blockIPv6 : Bool
  tail : List Call
deriving DecidableEq, Repr

variable (sys : Sys)

def metricCalls (opt : OptionList) : List Call :=
  ((getPtr opt "route-metric").bind fun o => (routeMetricDefault sys o).toOption).toList

def bypassCalls (remoteList : List Addr) (serverAddr : Addr) : List Call :=
  (remoteList.filter (· ≠ serverAddr)).map fun addr =>
    routeCall sys false addr (Addr.versionSize addr.version) (-1) (addr.version = .v6)

def routeCalls (opt : OptionList) (ipv : IPVerFlags) : List Call :=
  (if ipv.v4 then (instances opt "route").filterMap fun o => (route sys o).toOption else []) ++
    if ipv.v6 then (instances opt "route-ipv6").filterMap fun o => (routeIPv6 sys o).toOption else []

/-- The values of a `DOMAIN` or `PROXY_BYPASS` option, up to the first argument that is not valid. -/
def terms (o : Opt) : List Nat → List String
  | [] => []
  | j :: js => match o.get sys j 256 with
    | .ok v => bySpace v ++ terms o js
    | .error _ => []

/-- The calls of a `dhcp-option` of a type, and whether they add a DNS server. -/
def dhcpCallsOf (type : String) (o : Opt) : Bool × List Call :=
  if type = "DNS" ∨ type = "DNS6" then (true, (dnsServerCall sys o).toOption.toList)
  else if type = "DOMAIN" then (false, (terms sys o (termIndices o)).map .addSearchDomain)
  else if type = "ADAPTER_DOMAIN_SUFFIX" then (false, (adapterDomainSuffixCall sys o).toOption.toList)
  else if type = "PROXY_BYPASS" then (false, (terms sys o (termIndices o)).map .addProxyBypass)
  else if type = "WINS" then (false, (winsServerCall sys o).toOption.toList)
  else (false, [])

def dhcpCalls (o : Opt) : Bool × List Call :=
  match o.get sys 1 64 with
  | .ok type => dhcpCallsOf sys type o
  | .error _ => (false, [])

def proxyCalls (x : Proxies) : List Call :=
  (if x.httpHost ≠ "" then [.setProxyHttp x.httpHost x.httpPort] else []) ++
    (if x.httpsHost ≠ "" then [.setProxyHttps x.httpsHost x.httpsPort] else []) ++
      if x.autoConfigUrl ≠ "" then [.setProxyAutoConfigUrl x.autoConfigUrl] else []

variable (serverAddr : Addr) (config : Config) (opt : OptionList)

def tailCalls : List Call :=
  [.setRemoteAddress (serverAddr.toString sys) (serverAddr.version = .v6), .setLayer config.layer.value] ++
    (if config.mtu ≠ 0 then [.setMtu config.mtu] else []) ++
      if config.sessionName ≠ "" then [.setSessionName config.sessionName] else []

def planWith (addresses : List Call) (ipv : IPVerFlags) : Plan where
  addresses := addresses
  singles := metricCalls sys opt ++
    ((if config.remoteBypass then bypassCalls sys (config.remoteList.getD []) serverAddr else []) ++
      routeCalls sys opt ipv)
  ipv := ipv
  dhcp := (instances opt "dhcp-option").map (dhcpCalls sys)
  proxies := proxyCalls (proxies sys (instances opt "dhcp-option"))
  blockIPv6 := exists? opt "block-ipv6"
  tail := tailCalls sys serverAddr config

def plan : Except String Plan := do
  let ipv4 ← ifconfig sys opt
  let ipv6 ← ifconfigV6 sys opt
  let ipv ← ipVerFlags sys config opt ipv4.isSome ipv6.isSome
  return planWith sys serverAddr config opt ((ipv4.toList ++ ipv6.toList).map Prod.fst) ipv

variable {σ : Type} (tb : TunBuilderBase σ)

/-- All the calls, or nothing when one is refused. -/
def demand (s : σ) (cs : List Call) : Option σ :=
  if (offer (answer tb) s cs).1 then some (offer (answer tb) s cs).2 else none

def offerGroups (added : Bool) (s : σ) : List (Bool × List Call) → Bool × σ
  | [] => (added, s)
  | (dns, cs) :: gs =>
      offerGroups (added || (dns && cs ≠ [] && (offer (answer tb) s cs).1)) (offer (answer tb) s cs).2 gs

def madeGroups (s : σ) : List (Bool × List Call) → List Call
  | [] => []
  | (_, cs) :: gs => made (answer tb) s cs ++ madeGroups (offer (answer tb) s cs).2 gs

def googleDns : List Call := [.addDnsServer "8.8.8.8" false, .addDnsServer "8.8.4.4" false]

namespace Plan

variable (p : Plan) (googleDnsFallback : Bool)

/-- What the calls of a plan after the addresses make of a builder, if they get to their end. -/
def performRest (s : σ) : Option σ := do
  let s ← demand tb (after (answer tb) s p.singles) [.rerouteGw p.ipv.rgv4 p.ipv.rgv6 p.ipv.flags]
  let (added, s) := offerGroups tb false s p.dhcp
  let s := (answer tb (offer (answer tb) s p.proxies).2 (.setBlockIPv6 p.blockIPv6)).2
  demand tb s ((if p.ipv.rgv4 && !added && googleDnsFallback then googleDns else []) ++ p.tail)

/-- Whether an option adds a DNS server. -/
def addsDns : Bool := p.dhcp.any fun g => g.1 && g.2 ≠ []

def fallback : List Call := if p.ipv.rgv4 && !p.addsDns && googleDnsFallback then googleDns else []

def routing : List Call := p.addresses ++ (p.singles ++ [.rerouteGw p.ipv.rgv4 p.ipv.rgv6 p.ipv.flags])

def final : List Call := .setBlockIPv6 p.blockIPv6 :: (p.fallback googleDnsFallback ++ p.tail)

/-- All the calls, as a builder sees them that accepts each. -/
def calls : List Call := p.routing ++ (p.dhcp.flatMap Prod.snd ++ (p.proxies ++ p.final googleDnsFallback))

def perform (s : σ) : Option σ := (demand tb s p.addresses).bind (p.performRest tb googleDnsFallback)

end Plan

variable {sys opt tb}

theorem offerGroups_snd (added : Bool) (gs : List (Bool × List Call)) (s : σ) :
    (offerGroups tb added s gs).2 = after (answer tb) s (madeGroups tb s gs) := by
  induction gs generalizing added s with
  | nil => rfl
  | cons g gs ih => rw [offerGroups, madeGroups, ih, after_append, offer_snd]

theorem mem_madeGroups {gs : List (Bool × List Call)} {s : σ} {c : Call} (h : c ∈ madeGroups tb s gs) :
    ∃ g ∈ gs, c ∈ g.2 := by
  induction gs generalizing s with
  | nil => cases h
  | cons g gs ih =>
      rcases List.mem_append.mp h with h | h
      · exact ⟨g, List.mem_cons_self, (made_initial s g.2).subset h⟩
      · obtain ⟨g', hg', hc⟩ := ih h
        exact ⟨g', List.mem_cons_of_mem g hg', hc⟩

theorem offerGroups_of_accepting {gs : List (Bool × List Call)}
    (h : ∀ g ∈ gs, ∀ c ∈ g.2, ∀ s, (answer tb s c).1 = true) (added : Bool) (s : σ) : offerGroups tb added s gs =
      (added || gs.any (fun g => g.1 && g.2 ≠ []), after (answer tb) s (gs.flatMap Prod.snd)) := by
  induction gs generalizing added s with
  | nil => simp [offerGroups]
  | cons g gs ih =>
      have hhead := offer_of_accepting (h g List.mem_cons_self) s
      rw [offerGroups, hhead, ih fun k hk => h k (List.mem_cons_of_mem g hk), List.flatMap_cons, after_append]
      simp [Bool.or_assoc]

theorem perform_of_accepting {p : Plan} {googleDnsFallback : Bool}
    (h : ∀ c ∈ p.calls googleDnsFallback, ∀ s, (answer tb s c).1 = true) (s : σ) :
    p.perform tb googleDnsFallback s = some (after (answer tb) s (p.calls googleDnsFallback)) := by
  simp only [Plan.calls, Plan.routing, Plan.final, List.forall_mem_append, List.forall_mem_cons] at h
  obtain ⟨⟨haddresses, -, hreroute, -⟩, hdhcp, hproxies, -, hfallback, htail⟩ := h
  have hgroups :=
      @offerGroups_of_accepting _ tb p.dhcp (fun g hg c hc => hdhcp c (List.mem_flatMap.mpr ⟨g, hg, hc⟩))
  have hend : ∀ c ∈ p.fallback googleDnsFallback ++ p.tail, ∀ s, (answer tb s c).1 = true :=
    List.forall_mem_append.mpr ⟨hfallback, htail⟩
  have hdemand (s : σ) : demand tb s (p.fallback googleDnsFallback ++ p.tail) =
      some (after (answer tb) s (p.fallback googleDnsFallback ++ p.tail)) := by
    rw [demand, offer_of_accepting hend, if_pos rfl]
  rw [Plan.perform, demand, offer_of_accepting haddresses, if_pos rfl, Option.bind_some, Plan.performRest, demand,
    offer, if_pos (hreroute _), offer, if_pos rfl, Option.bind_eq_bind, Option.bind_some]
  simp only [hgroups, offer_of_accepting hproxies, Bool.false_or]
  refine (hdemand _).trans ?_
  simp only [Plan.calls, Plan.routing, Plan.final, after_append, after_cons, after_nil]

theorem drives_addTunAddress (c : Option (Call × String)) :
    Drives tb (addTunAddress tb (.ok c)) (c.toList.map Prod.fst) (.ok c.isSome) := by
  apply Drives.bind (drives_liftM (.ok c))
  cases c with
  | none => exact drives_pure false
  | some c => exact Drives.bind (drives_require c.1 c.2) (drives_pure true)

theorem tunIfconfig_ok_iff {s t : σ} {v4 v6 : Bool} :
    exec (tunIfconfig sys tb opt) s = (.ok (v4, v6), t) ↔
      ∃ ipv4 ipv6, ifconfig sys opt = .ok ipv4 ∧ ifconfigV6 sys opt = .ok ipv6 ∧
        v4 = ipv4.isSome ∧ v6 = ipv6.isSome ∧
        offer (answer tb) s ((ipv4.toList ++ ipv6.toList).map Prod.fst) = (true, t) := by
  have herror (e : String) : Drives tb (addTunAddress tb (.error e)) [] (.error e) :=
    Drives.bind_error (drives_liftM (.error e))
  rw [tunIfconfig]
  cases h4 : ifconfig sys opt with
  | error e =>
      apply (Drives.bind_error (herror e)).completes_iff.trans
      simp
  | ok ipv4 =>
      cases h6 : ifconfigV6 sys opt with
      | error e =>
          apply (Drives.bind (drives_addTunAddress ipv4) (Drives.bind_error (herror e))).completes_iff.trans
          simp
      | ok ipv6 =>
          refine (Drives.bind (drives_addTunAddress ipv4) (Drives.bind (drives_addTunAddress ipv6)
            (drives_pure (ipv4.isSome, ipv6.isSome)))).completes_iff.trans ?_
          simp [eq_comm, and_assoc]

theorem exec_attempt_call (r : Except String Call) (what : Call → String) (s : σ) :
    exec (attemptOr () (do let c ← liftM r; require tb c (what c))) s =
      (.ok (), after (answer tb) s r.toOption.toList) := by
  cases r with
  | error e => rfl
  | ok c =>
      apply ((Drives.bind (drives_liftM (.ok c)) (drives_require c (what c))).attemptOr () s).trans
      simp [offer, Except.toOption]
      split <;> rfl

theorem exec_addRouteMetricDefault (s : σ) :
    exec (addRouteMetricDefault sys tb opt) s = (.ok (), after (answer tb) s (metricCalls sys opt)) := by
  rw [addRouteMetricDefault, metricCalls]
  cases getPtr opt "route-metric" with
  | none => rfl
  | some o => exact exec_attempt_call _ _ s

theorem exec_addRouteOption (r : Except String Call) (s : σ) :
    exec (addRouteOption tb r) s = (.ok (), after (answer tb) s r.toOption.toList) :=
  exec_attempt_call r _ s

theorem exec_addRemoteBypassRoutes (remoteList : List Addr) (serverAddr : Addr) (s : σ) :
    exec (addRemoteBypassRoutes sys tb remoteList serverAddr) s =
      (.ok (), after (answer tb) s (bypassCalls sys remoteList serverAddr)) := by
  have hturn (addr : Addr) (s : σ) : exec (if addr ≠ serverAddr then addRouteOption tb (.ok (routeCall sys false
      addr (Addr.versionSize addr.version) (-1) (addr.version = .v6))) else pure ()) s =
        (.ok (), after (answer tb) s (bypassCalls sys [addr] serverAddr)) := by
    by_cases h : addr ≠ serverAddr
    · rw [if_pos h, exec_addRouteOption]
      simp [bypassCalls, h, Except.toOption]
    · rw [if_neg h]
      simp [bypassCalls, h]
  rw [addRemoteBypassRoutes, exec_forM_after hturn]
  congr 2
  induction remoteList with
  | nil => rfl
  | cons addr rest ih =>
      rw [List.flatMap_cons, ih, bypassCalls, bypassCalls, ← List.map_append, ← List.filter_append]
      rfl

theorem exec_routes_forM (parse : Opt → Except String Call) (os : List Opt) (s : σ) :
    exec (os.forM fun o => addRouteOption tb (parse o)) s =
      (.ok (), after (answer tb) s (os.filterMap fun o => (parse o).toOption)) := by
  rw [exec_forM_after fun o s => exec_addRouteOption (parse o) s]
  congr 2
  exact (List.filterMap_eq_flatMap_toList ..).symm

theorem exec_addRoutes (ipv : IPVerFlags) (s : σ) :
    exec (addRoutes sys tb opt ipv) s = (.ok (), after (answer tb) s (routeCalls sys opt ipv)) := by
  rw [routeCalls, after_append]
  cases h4 : ipv.v4 <;> cases h6 : ipv.v6 <;> simp only [addRoutes, h4, h6, if_true, Bool.false_eq_true, if_false]
  · rfl
  · exact exec_routes_forM ..
  · rw [exec_bind_ok (exec_routes_forM (route sys) _ s)]
    rfl
  · rw [exec_bind_ok (exec_routes_forM (route sys) _ s)]
    exact exec_routes_forM ..

variable (sys tb) in
theorem drives_addTerms (call : String → Call) (what : String) (o : Opt) (js : List Nat) :
    ∃ r, Drives tb (addTerms sys tb call what o js) ((terms sys o js).map call) r := by
  induction js with
  | nil => exact ⟨_, drives_pure ()⟩
  | cons j js ih =>
      obtain ⟨r, hr⟩ := ih
      rw [addTerms, terms]
      cases o.get sys j 256 with
      | error e => exact ⟨_, Drives.bind_error (drives_liftM (.error e))⟩
      | ok v =>
          refine ⟨r, Drives.bind (drives_liftM (.ok v)) ?_⟩
          rw [List.map_append]
          exact (drives_requireAll what _).bind hr

theorem drives_requireCall (r : Except String Call) (what : String) (a : Bool) :
    Drives tb (do require tb (← liftM r) what; pure a) r.toOption.toList (r.map fun _ => a) := by
  cases r with
  | error e => exact Drives.bind_error (drives_liftM (.error e))
  | ok c => exact Drives.bind (drives_liftM (.ok c)) (Drives.bind (drives_require c what) (drives_pure a))

theorem drives_termsOption (call : String → Call) (what : String) (o : Opt) :
    ∃ r : Except String Bool, Drives tb (do
        liftM (o.minArgs sys 3)
        addTerms sys tb call what o (termIndices o)
        pure false) ((terms sys o (termIndices o)).map call) r ∧ r.toOption.getD false = false := by
  by_cases hlen : o.length < 3
  · have hnone : termIndices o = [] := by
      rw [termIndices, List.range'_eq_nil_iff]
      omega
    have hargs : o.minArgs sys 3 = .error (o.error sys (" must have at least " ++ toString 3 ++ " arguments")) :=
      if_pos hlen
    rw [hnone, hargs]
    exact ⟨_, Drives.bind_error (drives_liftM _), rfl⟩
  · have hargs : o.minArgs sys 3 = .ok () := if_neg hlen
    obtain ⟨r, hr⟩ := drives_addTerms sys tb call what o (termIndices o)
    rw [hargs]
    cases r with
    | error e => exact ⟨_, Drives.bind (drives_liftM (.ok ())) hr.bind_error, rfl⟩
    | ok u =>
        refine ⟨.ok false, Drives.bind (drives_liftM (.ok ())) ?_, rfl⟩
        rw [← List.append_nil (List.map call _)]
        exact Drives.bind hr (drives_pure false)

variable (sys tb) in
theorem drives_dhcpOptionOf (type : String) (o : Opt) :
    ∃ r, Drives tb (dhcpOptionOf sys tb type o) (dhcpCallsOf sys type o).2 r ∧
      r.toOption.getD false = ((dhcpCallsOf sys type o).1 && (dhcpCallsOf sys type o).2 ≠ []) := by
  rw [dhcpOptionOf, dhcpCallsOf]
  split
  · refine ⟨_, drives_requireCall _ _ true, ?_⟩
    cases dnsServerCall sys o <;> rfl
  split
  · exact drives_termsOption _ _ o
  split
  · refine ⟨_, drives_requireCall _ _ false, ?_⟩
    cases adapterDomainSuffixCall sys o <;> rfl
  split
  · exact drives_termsOption _ _ o
  split
  · refine ⟨_, drives_requireCall _ _ false, ?_⟩
    cases winsServerCall sys o <;> rfl
  · exact ⟨_, drives_pure false, rfl⟩

variable (sys tb) in
theorem drives_dhcpOption (o : Opt) :
    ∃ r, Drives tb (dhcpOption sys tb o) (dhcpCalls sys o).2 r ∧
      r.toOption.getD false = ((dhcpCalls sys o).1 && (dhcpCalls sys o).2 ≠ []) := by
  rw [dhcpOption, dhcpCalls]
  cases o.get sys 1 64 with
  | error e => exact ⟨_, Drives.bind_error (drives_liftM (.error e)), rfl⟩
  | ok type =>
      obtain ⟨r, hr, hdns⟩ := drives_dhcpOptionOf sys tb type o
      exact ⟨r, Drives.bind (drives_liftM (.ok type)) hr, hdns⟩

theorem exec_dhcpOption (o : Opt) (s : σ) :
    exec (attemptOr false (dhcpOption sys tb o)) s =
      (.ok ((dhcpCalls sys o).1 && (dhcpCalls sys o).2 ≠ [] && (offer (answer tb) s (dhcpCalls sys o).2).1),
        (offer (answer tb) s (dhcpCalls sys o).2).2) := by
  obtain ⟨r, hr, hdns⟩ := drives_dhcpOption sys tb o
  rw [hr.attemptOr, hdns]
  cases (offer (answer tb) s (dhcpCalls sys o).2).1 <;> simp

theorem exec_dhcpOptions (added : Bool) (os : List Opt) (s : σ) :
    exec (dhcpOptions sys tb added os) s =
      (.ok (offerGroups tb added s (os.map (dhcpCalls sys))).1,
        (offerGroups tb added s (os.map (dhcpCalls sys))).2) := by
  induction os generalizing added s with
  | nil => rfl
  | cons o os ih => rw [dhcpOptions, exec_bind_ok (exec_dhcpOption o s), ih, List.map_cons, offerGroups]

theorem drives_setProxies (x : Proxies) : Drives tb (setProxies tb x) (proxyCalls x) (.ok ()) := by
  rw [proxyCalls, List.append_assoc]
  apply Drives.bind (drives_requireIf _ _)
  apply Drives.bind (drives_requireIf _ _)
  exact drives_requireIf _ _

theorem exec_addDhcpOptions (s : σ) : exec (addDhcpOptions sys tb opt) s =
    let r := offerGroups tb false s ((instances opt "dhcp-option").map (dhcpCalls sys))
    (.ok r.1, (offer (answer tb) r.2 (proxyCalls (proxies sys (instances opt "dhcp-option")))).2) := by
  rw [addDhcpOptions, exec_bind_ok (exec_dhcpOptions false _ s),
      exec_bind_ok ((drives_setProxies _).attemptOr () _)]
  rfl

theorem excludedRoutesOptions_eq : excludedRoutesOptions opt = opt := by
  simp [excludedRoutesOptions, localNetworks]

variable {serverAddr config}

theorem drives_tail (q : Bool) :
    Drives tb (do
      (if q then addGoogleDns tb else pure ())
      require tb (.setRemoteAddress (serverAddr.toString sys) (serverAddr.version = .v6))
        "tun_prop_error: tun_builder_set_remote_address failed"
      require tb (.setLayer config.layer.value) "tun_prop_error: tun_builder_set_layer failed"
      requireIf tb (config.mtu ≠ 0) (.setMtu config.mtu) "tun_prop_error: tun_builder_set_mtu failed"
      requireIf tb (config.sessionName ≠ "") (.setSessionName config.sessionName)
        "tun_prop_error: tun_builder_set_session_name failed")
      ((if q then googleDns else []) ++ tailCalls sys serverAddr config) (.ok ()) := by
  have hgoogle : Drives tb (if q then addGoogleDns tb else pure ()) (if q then googleDns else []) (.ok ()) := by
    cases q with
    | true => exact drives_requireAll _ _
    | false => exact drives_pure ()
  apply Drives.bind hgoogle
  rw [tailCalls, List.append_assoc, List.cons_append, List.singleton_append, ← List.singleton_append]
  apply Drives.bind (drives_require _ _)
  rw [← List.singleton_append]
  apply Drives.bind (drives_require _ _)
  exact Drives.bind (drives_requireIf _ _) (drives_requireIf _ _)

theorem demand_eq_some_iff {s t : σ} {cs : List Call} :
    demand tb s cs = some t ↔ offer (answer tb) s cs = (true, t) := by
  rw [demand]
  rcases offer (answer tb) s cs with ⟨_ | _, u⟩ <;> simp

theorem exec_bypass (s : σ) :
    exec (if config.remoteBypass then addRemoteBypassRoutes sys tb (config.remoteList.getD [])
      serverAddr else pure ())
        s = (.ok (), after (answer tb) s
          (if config.remoteBypass then bypassCalls sys (config.remoteList.getD []) serverAddr else [])) := by
  split
  · exact exec_addRemoteBypassRoutes ..
  · rfl

theorem configureWith_ok_iff (hblock : ∀ s b, ∃ r, tb s (.setBlockIPv6 b) = .ok r) (addresses : List Call)
    (ipv : IPVerFlags) {s t : σ} :
    exec (configureWith sys tb serverAddr config opt ipv) s = (.ok (), t) ↔
      (planWith sys serverAddr config opt addresses ipv).performRest tb config.googleDnsFallback s = some t := by
  have hinvoke (b : Bool) (s : σ) : ∃ r, exec (invoke tb (.setBlockIPv6 b)) s =
      (.ok r, (answer tb s (.setBlockIPv6 b)).2) := by
    obtain ⟨r, hr⟩ := hblock s b
    exact ⟨r.1, by rw [exec_invoke, answer, hr]⟩
  have hopt : (if config.allowLocalLanAccess then excludedRoutesOptions opt else opt) = opt := by
    split
    · exact excludedRoutesOptions_eq
    · rfl
  rw [configureWith, exec_bind_ok (exec_addRouteMetricDefault s), exec_bind_ok (exec_bypass _), hopt,
    exec_bind_ok (exec_addRoutes ipv _), exec_bind_eq_ok, Plan.performRest]
  simp only [planWith, after_append, Option.bind_eq_bind, Option.bind_eq_some_iff, demand_eq_some_iff]
  constructor
  · rintro ⟨⟨⟩, u, hu, hrest⟩
    refine ⟨u, ((drives_require _ _).completes_iff.mp hu).2, ?_⟩
    rw [exec_bind_ok (exec_addDhcpOptions u)] at hrest
    obtain ⟨r, hr⟩ := hinvoke (exists? opt "block-ipv6") (offer (answer tb)
      (offerGroups tb false u ((instances opt "dhcp-option").map (dhcpCalls sys))).2
      (proxyCalls (proxies sys (instances opt "dhcp-option")))).2
    rw [exec_bind_ok hr] at hrest
    exact ((drives_tail _).completes_iff.mp hrest).2
  · rintro ⟨u, hu, hrest⟩
    refine ⟨(), u, (drives_require _ _).completes_iff.mpr ⟨rfl, hu⟩, ?_⟩
    rw [exec_bind_ok (exec_addDhcpOptions u)]
    obtain ⟨r, hr⟩ := hinvoke (exists? opt "block-ipv6") (offer (answer tb)
      (offerGroups tb false u ((instances opt "dhcp-option").map (dhcpCalls sys))).2
      (proxyCalls (proxies sys (instances opt "dhcp-option")))).2
    rw [exec_bind_ok hr]
    exact (drives_tail _).completes_iff.mpr ⟨rfl, hrest⟩

theorem plan_ok_iff {p : Plan} : plan sys serverAddr config opt = .ok p ↔
    ∃ ipv4 ipv6 ipv, ifconfig sys opt = .ok ipv4 ∧ ifconfigV6 sys opt = .ok ipv6 ∧
      ipVerFlags sys config opt ipv4.isSome ipv6.isSome = .ok ipv ∧
      p = planWith sys serverAddr config opt ((ipv4.toList ++ ipv6.toList).map Prod.fst) ipv := by
  simp only [plan, except_bind_eq_ok]
  constructor
  · rintro ⟨ipv4, h4, ipv6, h6, ipv, hipv, hp⟩
    cases hp
    exact ⟨ipv4, ipv6, ipv, h4, h6, hipv, rfl⟩
  · rintro ⟨ipv4, ipv6, ipv, h4, h6, hipv, rfl⟩
    exact ⟨ipv4, h4, ipv6, h6, ipv, hipv, rfl⟩

/-- The driver gets to its end exactly when the option list has a plan and the builder takes it. -/
theorem configureBuilder_ok_iff (hblock : ∀ s b, ∃ r, tb s (.setBlockIPv6 b) = .ok r) {s t : σ} :
    exec (configureBuilder sys tb serverAddr config opt) s = (.ok (), t) ↔
      ∃ p, plan sys serverAddr config opt = .ok p ∧ p.perform tb config.googleDnsFallback s = some t := by
  rw [configureBuilder, exec_bind_eq_ok]
  constructor
  · rintro ⟨⟨v4, v6⟩, u, haddr, hrest⟩
    obtain ⟨ipv4, ipv6, h4, h6, rfl, rfl, ho⟩ := tunIfconfig_ok_iff.mp haddr
    obtain ⟨ipv, v, hv, hrest⟩ := exec_bind_eq_ok.mp hrest
    obtain ⟨hipv, rfl⟩ : ipVerFlags sys config opt ipv4.isSome ipv6.isSome = .ok ipv ∧ u = v :=
      Prod.ext_iff.mp hv
    refine ⟨_, plan_ok_iff.mpr ⟨ipv4, ipv6, ipv, h4, h6, hipv, rfl⟩, ?_⟩
    rw [Plan.perform, Option.bind_eq_some_iff]
    exact ⟨u, demand_eq_some_iff.mpr ho, (configureWith_ok_iff hblock _ ipv).mp hrest⟩
  · rintro ⟨p, hp, hperform⟩
    obtain ⟨ipv4, ipv6, ipv, h4, h6, hipv, rfl⟩ := plan_ok_iff.mp hp
    rw [Plan.perform, Option.bind_eq_some_iff] at hperform
    obtain ⟨u, ho, hrest⟩ := hperform
    refine ⟨_, u, tunIfconfig_ok_iff.mpr ⟨ipv4, ipv6, h4, h6, rfl, rfl, demand_eq_some_iff.mp ho⟩, ?_⟩
    refine exec_bind_eq_ok.mpr ⟨ipv, u, Prod.ext hipv rfl, ?_⟩
    exact (configureWith_ok_iff hblock _ ipv).mpr hrest

end OpenVPNAdapter.TunPlan
