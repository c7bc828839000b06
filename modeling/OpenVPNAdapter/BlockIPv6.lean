import OpenVPNAdapter.RedirectGateway

namespace OpenVPNAdapter.BlockIPv6

open Library.Effect Library.Offers Library.Driving Text IP Options NetworkSettings TunBuilder OpenVPNClient TunProp
  TunPlan AcceptedValues AdapterPlan RedirectGateway

variable (sys : Sys)

/-- The addresses of a destination, given by its text and the length of its prefix. -/
def Within (k : String × Int) (x : BitVec 128) : Prop :=
  ∃ addr scope, sys.makeAddress k.1 = .ok (.v6 addr scope) ∧
    x &&& Addr.mask128 k.2.toNat = addr &&& Addr.mask128 k.2.toNat

/-- IPv6 goes through the tunnel, but for the routes that are kept out of it. -/
def Captured (s : NEPacketTunnelNetworkSettings) : Prop :=
  ∃ v6, s.ipv6Settings = some v6 ∧
    ∀ x, (∃ r ∈ v6.includedRoutes, Within sys (keyV6 r) x) ∨ ∃ r ∈ v6.excludedRoutes, Within sys (keyV6 r) x

variable (p : Platform) (a : Adapter) (serverAddr : Addr) (config : Config) (opt : OptionList)

/-- Every set-up with `block-ipv6` that hands over settings captures IPv6. -/
def Honoured : Prop :=
  exists? opt "block-ipv6" = true → ∀ t s, setUp p a serverAddr config opt = (.ok (), t) →
    t.builder.networkSettings = some s → Captured p.sys s

/-- An address in the destination of a pushed IPv6 route, into the tunnel or out of it, or of a
remote that bypasses the tunnel. -/
def Routed (x : BitVec 128) : Prop :=
  (∃ o ∈ instances opt "route-ipv6", ∃ c, routeIPv6 p.sys o = .ok c ∧
      ∃ k, (ipv6Route c = some k ∨ ipv6ExcludedRoute c = some k) ∧ Within p.sys k x) ∨
    config.remoteBypass = true ∧ ∃ addr ∈ config.remoteList.getD [], addr ≠ serverAddr ∧ addr.version = .v6 ∧
      Within p.sys (cStr (addr.toString p.sys), 128) x

/-- IPv6 has an address, and a default route or routes for everything. -/
def RoutedThroughout : Prop :=
  exists? opt "ifconfig-ipv6" = true ∧
    ((∃ flags, RedirectGatewayFlags.init p.sys opt = .ok flags ∧ flags.ipv6Enabled = true) ∨
      ∀ x, Routed p serverAddr config opt x)

variable {p a serverAddr config opt} {pl : Plan}

theorem within_default (hany : p.sys.makeAddress "::" = .ok (.v6 0 0)) (x : BitVec 128) :
    Within p.sys defaultV6 x :=
  ⟨0, 0, hany, by simp [defaultV6, Addr.mask128]⟩

theorem exists_within_iff {routes : List NEIPv6Route} {x : BitVec 128} :
    (∃ r ∈ routes, Within sys (keyV6 r) x) ↔ ∃ k ∈ routes.map keyV6, Within sys k x := by
  simp

theorem singles_routed (h : plan p.sys serverAddr config opt = .ok pl) (hv : pl.ipv.v6 = true) (x : BitVec 128) :
    (∃ k, (k ∈ pl.singles.filterMap ipv6Route ∨ k ∈ pl.singles.filterMap ipv6ExcludedRoute) ∧ Within p.sys k x) ↔
      Routed p serverAddr config opt x := by
  obtain ⟨ipv4, ipv6, ipv, -, -, -, rfl⟩ := plan_ok_iff.mp h
  have hmem (k : String × Int) :
      (k ∈ (planWith p.sys serverAddr config opt ((ipv4.toList ++ ipv6.toList).map Prod.fst)
      ipv).singles.filterMap ipv6Route ∨ k ∈ (planWith p.sys serverAddr config opt ((ipv4.toList ++
      ipv6.toList).map Prod.fst) ipv).singles.filterMap ipv6ExcludedRoute) ↔
        ∃ c ∈ (planWith p.sys serverAddr config opt ((ipv4.toList ++ ipv6.toList).map Prod.fst) ipv).singles,
          ipv6Route c = some k ∨ ipv6ExcludedRoute c = some k := by
    simp only [List.mem_filterMap, and_or_left, exists_or]
  simp only [hmem, mem_singles]
  constructor
  · rintro ⟨k, ⟨c, hc | ⟨hbypass, hc⟩ | ⟨-, o, -, ho⟩ | ⟨-, o, ho, hr⟩, hk⟩, hx⟩
    · obtain ⟨metric, rfl⟩ := metricCalls_shape hc
      simp at hk
    · obtain ⟨addr, ha, hne, rfl⟩ := mem_bypassCalls.mp hc
      cases addr with
      | unspec | v4 => simp [Addr.version] at hk
      | v6 addr scope =>
          refine .inr ⟨hbypass, _, ha, hne, rfl, ?_⟩
          simp only [Addr.version, Addr.versionSize, decide_true, ipv6Route, ipv6ExcludedRoute, Option.some.injEq,
            reduceCtorEq, false_or] at hk
          rw [← hk] at hx
          exact hx
    · obtain ⟨pair, add, metric, n, -, rfl⟩ := route_shape ho
      cases add <;> simp [routeCall] at hk
    · exact .inl ⟨o, ho, c, hr, k, hk, hx⟩
  · rintro (⟨o, ho, c, hr, k, hk, hx⟩ | ⟨hbypass, addr, ha, hne, hversion, hx⟩)
    · exact ⟨k, ⟨c, .inr (.inr (.inr ⟨hv, o, ho, hr⟩)), hk⟩, hx⟩
    · refine ⟨_, ⟨_, .inr (.inl ⟨hbypass, mem_bypassCalls.mpr ⟨addr, ha, hne, rfl⟩⟩), .inr ?_⟩, hx⟩
      simp [hversion, Addr.versionSize]

/-- Where the set-up gets to its end, `block-ipv6` is honoured if and only if IPv6 is routed
throughout anyway. -/
theorem honoured_iff (hp : p.sys.Printing) (hany : p.sys.makeAddress "::" = .ok (.v6 0 0))
    (hblock : exists? opt "block-ipv6" = true) {t : Adapter} (ht : setUp p a serverAddr config opt = (.ok (), t)) :
    Honoured p a serverAddr config opt ↔ RoutedThroughout p serverAddr config opt := by
  obtain ⟨pl, hpl⟩ := plan_of_setUp ht
  obtain ⟨hfree, rfl⟩ := (setUp_ok_iff hpl).mp ht
  have hne : cStr (serverAddr.toString p.sys) ≠ "" := by
    rw [Addr.cStr_toString hp]
    exact Addr.toString_ne_empty hp _
  obtain ⟨s, hs, -, h6⟩ := performed_settings p a config.googleDnsFallback hpl hne
  have hcaptured : Honoured p a serverAddr config opt ↔ Captured p.sys s := by
    refine ⟨fun h => h hblock _ s ht hs, fun h _ t' s' ht' hs' => ?_⟩
    obtain rfl := (Prod.mk.inj (ht.symm.trans ht')).2
    rwa [← Option.some.inj (hs.symm.trans hs')]
  rw [hcaptured, Captured, RoutedThroughout, h6, routing_builder (plan_shape hpl) hfree]
  have hfam := (addresses_ne_nil_iff (p := p) (a := a) (plan_shape hpl)).2.trans (plan_families hpl).2
  obtain ⟨flags, hflags, hipv⟩ := plan_ipv hpl
  by_cases hif : exists? opt "ifconfig-ipv6" = true
  · rw [Builder.ipv6Settings, if_neg (hfam.mpr hif)]
    have hv : pl.ipv.v6 = true := by simp [hipv, hif]
    have hrouted := singles_routed hpl hv
    have hincluded (k : String × Int) :
        k ∈ (session p a (pl.addresses ++ pl.singles)).builder.ipv6IncludedRoutes.map
        keyV6 ↔ k ∈ pl.singles.filterMap ipv6Route := by
      rw [ipv6_held p a (not_reroute (plan_shape hpl)), List.filterMap_append,
        filterMap_addresses (plan_shape hpl) fun _ _ _ _ _ => rfl, List.nil_append]
    have hexcluded (k : String × Int) :
        k ∈ (session p a (pl.addresses ++ pl.singles)).builder.ipv6ExcludedRoutes.map
        keyV6 ↔ k ∈ pl.singles.filterMap ipv6ExcludedRoute := by
      rw [ipv6_excluded, List.filterMap_append, filterMap_addresses (plan_shape hpl) fun _ _ _ _ _ => rfl,
        List.nil_append]
    simp only [Option.some.injEq, exists_eq_left', exists_within_iff, List.map_append, List.mem_append, hincluded,
      hexcluded, hif, true_and, hflags, Except.ok.injEq]
    by_cases hrg : flags.ipv6Enabled = true
    · have hrgv6 : pl.ipv.rgv6 = true := by simp [hipv, IPVerFlags.rgv6, hif, hrg]
      refine iff_of_true (fun x => .inl ⟨defaultV6, .inr ?_, within_default hany x⟩) (.inl hrg)
      rw [hrgv6]
      exact List.mem_singleton_self _
    · have hrgv6 : pl.ipv.rgv6 = false := by simp [hipv, IPVerFlags.rgv6, hrg]
      simp only [hrgv6, hrg, Bool.false_eq_true, if_false, List.map_nil, List.not_mem_nil, or_false, false_or,
        ← hrouted, ← exists_or, ← or_and_right]
  · rw [Builder.ipv6Settings, if_pos (not_not.mp (hfam.not.mpr hif))]
    simp [hif]

/-- Pushed options with `block-ipv6` and an IPv4 address alone. -/
def blockedWithoutIPv6 : OptionList :=
  [["topology", "subnet"], ["ifconfig", "10.8.0.2", "255.255.255.0"], ["block-ipv6"]]

theorem blockedWithoutIPv6_leaks :
    ¬ Honoured RedirectGateway.samplePlatform ⟨.empty, none⟩ (.v4 0xc0000201) sampleConfig blockedWithoutIPv6 := by
  intro h
  obtain ⟨v6, hv6, -⟩ :=
    h (by rfl) (setUp RedirectGateway.samplePlatform ⟨.empty, none⟩ (.v4 0xc0000201) sampleConfig
    blockedWithoutIPv6).2 _ (by rfl) (by rfl)
  cases hv6

def dualStackPlatform : Platform where
  sys := .ofTable [("10.8.0.2", .v4 0x0a080002), ("255.255.255.0", .v4 0xffffff00),
    ("fd00::2", .v6 0xfd000000000000000000000000000002 0), ("::", .v6 0 0),
    ("0.0.0.0", .v4 0), ("192.0.2.1", .v4 0xc0000201)]
  urlWithString := some
  taggedNumbers := true

def blockedWithIPv6 : OptionList :=
  blockedWithoutIPv6 ++ [["ifconfig-ipv6", "fd00::2/64"], ["redirect-gateway", "ipv6"]]

theorem blockedWithIPv6_honoured :
    Honoured dualStackPlatform ⟨.empty, none⟩ (.v4 0xc0000201) sampleConfig blockedWithIPv6 := by
  have hcompletes : (setUp dualStackPlatform ⟨.empty, none⟩ (.v4 0xc0000201) sampleConfig blockedWithIPv6).1.isOk =
      true := by decide +kernel
  rcases ht : setUp dualStackPlatform ⟨.empty, none⟩ (.v4 0xc0000201) sampleConfig blockedWithIPv6 with
      ⟨_ | ⟨⟨⟩⟩, t⟩
  · rw [ht] at hcompletes
    cases hcompletes
  · exact (honoured_iff (Sys.ofTable_printing (by rfl) (by rfl) (by rfl)) (by rfl) (by rfl) ht).mpr
      ⟨by rfl, .inl ⟨771, by rfl, by rfl⟩⟩

end OpenVPNAdapter.BlockIPv6
