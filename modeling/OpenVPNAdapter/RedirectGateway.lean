import OpenVPNAdapter.AdapterPlan

namespace OpenVPNAdapter.RedirectGateway

open Library.Effect Library.Offers Library.Driving Text IP Options NetworkSettings TunBuilder OpenVPNClient TunProp
  TunPlan AcceptedValues AdapterPlan

/-- A builder that accepts every call. -/
def acceptAll : TunBuilderBase Unit := fun s _ => .ok (true, s)

variable (p : Platform) (a : Adapter) (serverAddr : Addr) (config : Config) (opt : OptionList)

/-- The set-up of a tunnel over the adapter, from `tun_builder_new` to `tun_builder_establish`. -/
def setUp : Except String Unit × Adapter :=
  exec (configureBuilder p.sys (client p) serverAddr config opt) (tunBuilderNew a)

/-- The set-up goes through, and the settings have one default route in each family that has an
address and whose gateway is redirected. -/
def OneDefaultRoute : Prop :=
  ∃ t s, setUp p a serverAddr config opt = (.ok (), t) ∧ t.builder.networkSettings = some s ∧
    ∀ flags, RedirectGatewayFlags.init p.sys opt = .ok flags →
      (flags.ipv4Enabled = true → exists? opt "ifconfig" = true →
        ∃ v4, s.ipv4Settings = some v4 ∧ (v4.includedRoutes.map keyV4).count defaultV4 = 1) ∧
      (flags.ipv6Enabled = true → exists? opt "ifconfig-ipv6" = true →
        ∃ v6, s.ipv6Settings = some v6 ∧ (v6.includedRoutes.map keyV6).count defaultV6 = 1)

/-- The gateway of IPv4 is redirected, and an IPv4 default route is pushed as well. -/
def DefaultTwiceV4 : Prop :=
  (∃ flags, RedirectGatewayFlags.init p.sys opt = .ok flags ∧ flags.ipv4Enabled = true) ∧
    (exists? opt "ifconfig" = true ∨ config.layer = .osiLayer2) ∧
    ∃ o ∈ instances opt "route", ∃ metric, route p.sys o = .ok (.addRoute "0.0.0.0" 0 metric false)

def DefaultTwiceV6 : Prop :=
  (∃ flags, RedirectGatewayFlags.init p.sys opt = .ok flags ∧ flags.ipv6Enabled = true) ∧
    (exists? opt "ifconfig-ipv6" = true ∨ config.layer = .osiLayer2) ∧
    ∃ o ∈ instances opt "route-ipv6", ∃ metric, routeIPv6 p.sys o = .ok (.addRoute "::" 0 metric true)

variable {p a serverAddr config opt} {pl : Plan}

theorem answer_acceptAll (s : Unit) (c : Call) : (answer acceptAll s c).1 = true := rfl

theorem acceptAll_ok_iff : exec (configureBuilder p.sys acceptAll serverAddr config opt) () = (.ok (), ()) ↔
    ∃ pl, plan p.sys serverAddr config opt = .ok pl := by
  rw [configureBuilder_ok_iff fun _ _ => ⟨_, rfl⟩]
  simp only [perform_of_accepting fun c _ s => answer_acceptAll s c, and_true]

theorem plan_of_setUp {t : Adapter} (h : setUp p a serverAddr config opt = (.ok (), t)) :
    ∃ pl, plan p.sys serverAddr config opt = .ok pl := by
  rw [setUp, configureBuilder_ok_iff fun _ b => by cases b <;> exact ⟨_, rfl⟩] at h
  exact h.imp fun _ h => h.1

theorem setUp_ok_iff (h : plan p.sys serverAddr config opt = .ok pl) {t : Adapter} :
    setUp p a serverAddr config opt = (.ok (), t) ↔
      RoutesFree p pl ∧ t = performed p a pl config.googleDnsFallback := by
  rw [setUp, configureBuilder_ok_iff fun _ b => by cases b <;> exact ⟨_, rfl⟩]
  simp only [h, Except.ok.injEq, exists_eq_left', perform_iff (plan_shape h)]

theorem plan_ipv (h : plan p.sys serverAddr config opt = .ok pl) :
    ∃ flags, RedirectGatewayFlags.init p.sys opt = .ok flags ∧
      pl.ipv = ⟨exists? opt "ifconfig" || config.layer = .osiLayer2,
        exists? opt "ifconfig-ipv6" || config.layer = .osiLayer2, flags⟩ := by
  obtain ⟨ipv4, ipv6, ipv, h4, h6, hipv, rfl⟩ := plan_ok_iff.mp h
  simp only [ipVerFlags, except_bind_eq_ok] at hipv
  obtain ⟨-, -, flags, hflags, hipv⟩ := hipv
  cases hipv
  rw [(ifconfig_shape h4).1, (ifconfigV6_shape h6).1]
  exact ⟨flags, hflags, rfl⟩

theorem ipv4Route_default (hp : p.sys.Printing) {o : Opt} {c : Call} (h : route p.sys o = .ok c) :
    ipv4Route p c = some defaultV4 ↔ ∃ metric, c = .addRoute "0.0.0.0" 0 metric false := by
  obtain ⟨pair, add, metric, n, hn, rfl⟩ := route_shape h
  cases add with
  | false => simp [routeCall]
  | true =>
      have hmask : p.sys.print (.v4 (Addr.mask32 n)) = "0.0.0.0" ↔ n = 0 :=
        (hp.zero _).trans (Addr.mask32_eq_zero_iff hn)
      have hsubnet := subnetMask_eq (p := p) (n := n) ⟨by omega, by omega⟩
      simp [routeCall, hsubnet, Except.toOption, Addr.cStr_toString hp, defaultV4, hmask]

theorem ipv6Route_default (hp : p.sys.Printing) {o : Opt} {c : Call} (h : routeIPv6 p.sys o = .ok c) :
    ipv6Route c = some defaultV6 ↔ ∃ metric, c = .addRoute "::" 0 metric true := by
  obtain ⟨pair, add, metric, n, rfl⟩ := routeIPv6_shape h
  cases add with
  | false => simp [routeCall]
  | true => simp [routeCall, Addr.cStr_toString hp, defaultV6]

theorem mem_singles_shows {β : Type} {shows : Call → Option β} {k : β}
    (hother : ∀ metric, shows (.setRouteMetricDefault metric) = none)
    (hexclude : ∀ address n metric ipv6, shows (.excludeRoute address n metric ipv6) = none)
    (h : plan p.sys serverAddr config opt = .ok pl) :
    k ∈ pl.singles.filterMap shows ↔
      (pl.ipv.v4 = true ∧ ∃ o ∈ instances opt "route", ∃ c, route p.sys o = .ok c ∧ shows c = some k) ∨
        (pl.ipv.v6 = true ∧ ∃ o ∈ instances opt "route-ipv6", ∃ c, routeIPv6 p.sys o = .ok c ∧
          shows c = some k) := by
  obtain ⟨ipv4, ipv6, ipv, -, -, -, rfl⟩ := plan_ok_iff.mp h
  simp only [List.mem_filterMap, mem_singles]
  constructor
  · rintro ⟨c, hc | ⟨-, hc⟩ | ⟨hv, o, ho, hr⟩ | ⟨hv, o, ho, hr⟩, hk⟩
    · obtain ⟨metric, rfl⟩ := metricCalls_shape hc
      rw [hother] at hk
      cases hk
    · obtain ⟨addr, -, -, rfl⟩ := mem_bypassCalls.mp hc
      rw [hexclude] at hk
      cases hk
    · exact .inl ⟨hv, o, ho, c, hr, hk⟩
    · exact .inr ⟨hv, o, ho, c, hr, hk⟩
  · rintro (⟨hv, o, ho, c, hr, hk⟩ | ⟨hv, o, ho, c, hr, hk⟩)
    · exact ⟨c, .inr (.inr (.inl ⟨hv, o, ho, hr⟩)), hk⟩
    · exact ⟨c, .inr (.inr (.inr ⟨hv, o, ho, hr⟩)), hk⟩

theorem defaultV4_singles (hp : p.sys.Printing) (h : plan p.sys serverAddr config opt = .ok pl) :
    defaultV4 ∈ pl.singles.filterMap (ipv4Route p) ↔ pl.ipv.v4 = true ∧
      ∃ o ∈ instances opt "route", ∃ metric, route p.sys o = .ok (.addRoute "0.0.0.0" 0 metric false) := by
  rw [mem_singles_shows (fun _ => rfl) (fun _ _ _ _ => rfl) h]
  constructor
  · rintro (⟨hv, o, ho, c, hr, hk⟩ | ⟨hv, o, ho, c, hr, hk⟩)
    · obtain ⟨metric, rfl⟩ := (ipv4Route_default hp hr).mp hk
      exact ⟨hv, o, ho, metric, hr⟩
    · obtain ⟨pair, add, metric, n, rfl⟩ := routeIPv6_shape hr
      cases add <;> cases hk
  · rintro ⟨hv, o, ho, metric, hr⟩
    exact .inl ⟨hv, o, ho, _, hr, (ipv4Route_default hp hr).mpr ⟨metric, rfl⟩⟩

theorem defaultV6_singles (hp : p.sys.Printing) (h : plan p.sys serverAddr config opt = .ok pl) :
    defaultV6 ∈ pl.singles.filterMap ipv6Route ↔ pl.ipv.v6 = true ∧
      ∃ o ∈ instances opt "route-ipv6", ∃ metric, routeIPv6 p.sys o = .ok (.addRoute "::" 0 metric true) := by
  rw [mem_singles_shows (fun _ => rfl) (fun _ _ _ _ => rfl) h]
  constructor
  · rintro (⟨hv, o, ho, c, hr, hk⟩ | ⟨hv, o, ho, c, hr, hk⟩)
    · obtain ⟨pair, add, metric, n, -, rfl⟩ := route_shape hr
      cases add <;> cases hk
    · obtain ⟨metric, rfl⟩ := (ipv6Route_default hp hr).mp hk
      exact ⟨hv, o, ho, metric, hr⟩
  · rintro ⟨hv, o, ho, metric, hr⟩
    exact .inr ⟨hv, o, ho, _, hr, (ipv6Route_default hp hr).mpr ⟨metric, rfl⟩⟩

theorem routesFree_iff (hp : p.sys.Printing) (h : plan p.sys serverAddr config opt = .ok pl) :
    RoutesFree p pl ↔ ¬ DefaultTwiceV4 p config opt ∧ ¬ DefaultTwiceV6 p config opt := by
  obtain ⟨flags, hflags, hipv⟩ := plan_ipv h
  have h4 : pl.ipv.v4 = true ↔ exists? opt "ifconfig" = true ∨ config.layer = .osiLayer2 := by simp [hipv]
  have h6 : pl.ipv.v6 = true ↔ exists? opt "ifconfig-ipv6" = true ∨ config.layer = .osiLayer2 := by simp [hipv]
  have hrg4 : pl.ipv.rgv4 = true ↔ pl.ipv.v4 = true ∧ flags.ipv4Enabled = true := by simp [hipv, IPVerFlags.rgv4]
  have hrg6 : pl.ipv.rgv6 = true ↔ pl.ipv.v6 = true ∧ flags.ipv6Enabled = true := by simp [hipv, IPVerFlags.rgv6]
  rw [RoutesFree, defaultV4_singles hp h, defaultV6_singles hp h, DefaultTwiceV4, DefaultTwiceV6, hrg4,
      hrg6, ← h4, ← h6]
  simp only [hflags, Except.ok.injEq, exists_eq_left']
  refine and_congr ?_ ?_
  · exact ⟨fun hfree ⟨hf, hv, ho⟩ => hfree ⟨hv, hf⟩ ⟨hv, ho⟩, fun hno ⟨_, hf⟩ ⟨hv, ho⟩ => hno ⟨hf, hv, ho⟩⟩
  · exact ⟨fun hfree ⟨hf, hv, ho⟩ => hfree ⟨hv, hf⟩ ⟨hv, ho⟩, fun hno ⟨_, hf⟩ ⟨hv, ho⟩ => hno ⟨hf, hv, ho⟩⟩

theorem count_append_new {β : Type} [BEq β] [LawfulBEq β] {k : β} {ks : List β} (h : k ∉ ks) :
    (ks ++ [k]).count k = 1 := by
  rw [List.count_append, List.count_eq_zero_of_not_mem h, List.count_singleton_self]

theorem default_once (h : plan p.sys serverAddr config opt = .ok pl) (hfree : RoutesFree p pl) :
    (pl.ipv.rgv4 = true → exists? opt "ifconfig" = true → ∃ v4,
        (session p a pl.routing).builder.ipv4Settings = some v4 ∧
          (v4.includedRoutes.map keyV4).count defaultV4 = 1) ∧
      (pl.ipv.rgv6 = true → exists? opt "ifconfig-ipv6" = true → ∃ v6,
        (session p a pl.routing).builder.ipv6Settings = some v6 ∧
          (v6.includedRoutes.map keyV6).count defaultV6 = 1) := by
  have hpl := plan_shape h
  obtain ⟨hfam4, hfam6⟩ := plan_families h
  obtain ⟨hne4, hne6⟩ := addresses_ne_nil_iff (p := p) (a := a) hpl
  have hnew := (tunBuilderRerouteGw_accepted_iff p _ _ _).mp ((reroute_accepted_iff (a := a) hpl).mpr hfree)
  rw [routing_builder hpl hfree]
  refine ⟨fun hrg hif => ?_, fun hrg hif => ?_⟩
  · refine ⟨_, if_neg (hne4.mpr (hfam4.mpr hif)), ?_⟩
    simp only [hrg, if_true, List.map_append]
    exact count_append_new (hnew.1 hrg)
  · refine ⟨_, if_neg (hne6.mpr (hfam6.mpr hif)), ?_⟩
    simp only [hrg, if_true, List.map_append]
    exact count_append_new (hnew.2 hrg)

/-- A set-up that only a refusal can stop goes through, with one default route for each family,
if and only if no default route is pushed to a family whose gateway is redirected. -/
theorem oneDefaultRoute_iff (hp : p.sys.Printing)
    (h : exec (configureBuilder p.sys acceptAll serverAddr config opt) () = (.ok (), ())) :
    OneDefaultRoute p a serverAddr config opt ↔ ¬ DefaultTwiceV4 p config opt ∧ ¬ DefaultTwiceV6 p config opt := by
  obtain ⟨pl, hpl⟩ := acceptAll_ok_iff.mp h
  rw [← routesFree_iff hp hpl]
  constructor
  · rintro ⟨t, s, ht, -, -⟩
    exact ((setUp_ok_iff hpl).mp ht).1
  · intro hfree
    have hne : cStr (serverAddr.toString p.sys) ≠ "" := by
      rw [Addr.cStr_toString hp]
      exact Addr.toString_ne_empty hp _
    obtain ⟨s, hs, h4, h6⟩ := performed_settings p a config.googleDnsFallback hpl hne
    refine ⟨_, s, (setUp_ok_iff hpl).mpr ⟨hfree, rfl⟩, hs, fun flags hflags => ?_⟩
    obtain ⟨fs, hfs, hipv⟩ := plan_ipv hpl
    obtain rfl : fs = flags := Except.ok.inj (hfs.symm.trans hflags)
    obtain ⟨hone4, hone6⟩ := default_once (p := p) (a := a) hpl hfree
    rw [h4, h6]
    refine ⟨fun hf hif => hone4 ?_ hif, fun hf hif => hone6 ?_ hif⟩
    · simp [hipv, IPVerFlags.rgv4, hif, hf]
    · simp [hipv, IPVerFlags.rgv6, hif, hf]

def samplePlatform : Platform where
  sys := .ofTable [("10.8.0.2", .v4 0x0a080002), ("255.255.255.0", .v4 0xffffff00), ("10.9.0.0", .v4 0x0a090000),
    ("0.0.0.0", .v4 0), ("192.0.2.1", .v4 0xc0000201)]
  urlWithString := some
  taggedNumbers := true

def sampleConfig : Config := ⟨"", 0, false, false, .osiLayer3, none, false⟩

/-- Pushed options that redirect the gateway, with one more route. -/
def redirected (route : Opt) : OptionList :=
  [["topology", "subnet"], ["ifconfig", "10.8.0.2", "255.255.255.0"], ["redirect-gateway", "def1"], route]

theorem pushedDefault_fails :
    exec (configureBuilder samplePlatform.sys acceptAll (.v4 0xc0000201) sampleConfig
        (redirected ["route", "0.0.0.0", "0.0.0.0"])) () = (.ok (), ()) ∧
      ¬ OneDefaultRoute samplePlatform ⟨.empty, none⟩ (.v4 0xc0000201) sampleConfig
        (redirected ["route", "0.0.0.0", "0.0.0.0"]) := by
  refine ⟨by rfl, ?_⟩
  rintro ⟨t, s, ht, -⟩
  have hfails : (setUp samplePlatform ⟨.empty, none⟩ (.v4 0xc0000201) sampleConfig
      (redirected ["route", "0.0.0.0", "0.0.0.0"])).1.isOk = false := by rfl
  rw [ht] at hfails
  cases hfails

theorem samplePlatform_printing : samplePlatform.sys.Printing :=
  Sys.ofTable_printing (by rfl) (by rfl) (by rfl)

theorem otherRoute_once : OneDefaultRoute samplePlatform ⟨.empty, none⟩ (.v4 0xc0000201) sampleConfig
    (redirected ["route", "10.9.0.0", "255.255.255.0"]) := by
  refine (oneDefaultRoute_iff samplePlatform_printing (by rfl)).mpr ⟨?_, ?_⟩
  · rintro ⟨-, -, o, ho, metric, hr⟩
    have hinst : instances (redirected ["route", "10.9.0.0", "255.255.255.0"]) "route" =
        [["route", "10.9.0.0", "255.255.255.0"]] := by rfl
    rw [hinst, List.mem_singleton] at ho
    have hroute : route samplePlatform.sys ["route", "10.9.0.0", "255.255.255.0"] =
        .ok (.addRoute "10.9.0.0" 24 (-1) false) := by rfl
    rw [ho, hroute] at hr
    simp at hr
  · rintro ⟨-, h | h, -⟩ <;> cases h

end OpenVPNAdapter.RedirectGateway
