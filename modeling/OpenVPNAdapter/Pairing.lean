import OpenVPNAdapter.RedirectGateway

namespace OpenVPNAdapter.Pairing

open Library.Effect Library.Offers Library.Driving Text IP Options NetworkSettings TunBuilder OpenVPNClient TunProp
  TunPlan AcceptedValues AdapterPlan RedirectGateway

section Statement

variable (sys : Sys)

/-- The addresses that `tun_ifconfig` adds. -/
def addressCalls (opt : OptionList) : List Call :=
  ((ifconfig sys opt).toOption.join.toList ++ (ifconfigV6 sys opt).toOption.join.toList).map Prod.fst

/-- The text of the mask whose first `n` bits are ones. -/
def dottedMask (n : Int) : String := sys.print (.v4 (BitVec.ofNat 32 (2 ^ 32 - 2 ^ (32 - n.toNat))))

@[simp] def pairV4 : Call → Option (String × String)
  | .addAddress address n _ false _ => some (address, dottedMask sys n)
  | _ => none

@[simp] def pairV6 : Call → Option (String × Int)
  | .addAddress address n _ true _ => some (address, n)
  | _ => none

/-- A gateway as it is given to the adapter. -/
def given (gateway : String) : Option String := if gateway = "" ∨ gateway = "UNSPEC" then none else some gateway

@[simp] def gatewayV4 : Call → Option (Option String)
  | .addAddress _ _ gateway false _ => some (given gateway)
  | _ => none

@[simp] def gatewayV6 : Call → Option (Option String)
  | .addAddress _ _ gateway true _ => some (given gateway)
  | _ => none

/-- The gateway given with the address of a family. -/
def familyGateway (gateway : Call → Option (Option String)) (cs : List Call) : Option String :=
  (cs.filterMap gateway).getLast?.getD none

/-- Addresses, masks and gateways go together as the calls `cs` gave them. -/
structure Paired (cs : List Call) (b : Builder) : Prop where
  lengthsV4 : b.ipv4LocalAddresses.length = b.ipv4SubnetMasks.length
  lengthsV6 : b.ipv6LocalAddresses.length = b.ipv6NetworkPrefixLengths.length
  pairsV4 : b.ipv4LocalAddresses.zip b.ipv4SubnetMasks = cs.filterMap (pairV4 sys)
  pairsV6 : b.ipv6LocalAddresses.zip b.ipv6NetworkPrefixLengths = cs.filterMap pairV6
  prefixesV4 : ∀ address n gateway net30, .addAddress address n gateway false net30 ∈ cs → 0 ≤ n ∧ n ≤ 32
  includedV4 : ∀ r ∈ b.ipv4IncludedRoutes, r.gatewayAddress = familyGateway gatewayV4 cs
  includedV6 : ∀ r ∈ b.ipv6IncludedRoutes, r.gatewayAddress = familyGateway gatewayV6 cs
  excludedV4 : ∀ r ∈ b.ipv4ExcludedRoutes, r.gatewayAddress = none
  excludedV6 : ∀ r ∈ b.ipv6ExcludedRoutes, r.gatewayAddress = none

/-- The assertions of `networkSettings`. -/
structure Asserted (b : Builder) : Prop where
  remoteAddress : ∃ remoteAddress, b.remoteAddress = some remoteAddress ∧ remoteAddress.length > 0
  ipv4 : b.ipv4LocalAddresses ≠ [] → b.ipv4LocalAddresses.length = b.ipv4SubnetMasks.length
  ipv6 : b.ipv6LocalAddresses ≠ [] → b.ipv6LocalAddresses.length = b.ipv6NetworkPrefixLengths.length

end Statement

section Addresses

variable {sys : Sys} {opt : OptionList} {o : Opt} {c : Call}

/-- The texts of an address call come through `c_str()` whole. -/
def Whole : Call → Prop
  | .addAddress address _ gateway _ _ => cStr address = address ∧ cStr gateway = gateway
  | _ => False

theorem plan_addresses {serverAddr : Addr} {config : Config} {pl : Plan}
    (h : plan sys serverAddr config opt = .ok pl) : pl.addresses = addressCalls sys opt := by
  obtain ⟨ipv4, ipv6, ipv, h4, h6, -, rfl⟩ := plan_ok_iff.mp h
  rw [addressCalls, h4, h6]
  rfl

theorem plan_whole (hs : sys.Printing) {serverAddr : Addr} {config : Config} {pl : Plan}
    (h : plan sys serverAddr config opt = .ok pl) : ∀ c ∈ pl.addresses, Whole c := by
  intro c hc
  have hprinted := plan_printed h c hc
  cases c
  case addAddress address n gateway ipv6 net30 =>
    obtain ⟨⟨a, rfl⟩, hgateway⟩ := hprinted
    refine ⟨Addr.cStr_toString hs a, ?_⟩
    rcases hgateway with rfl | ⟨g, rfl⟩
    · decide
    · exact Addr.cStr_toString hs g
  all_goals cases hprinted

theorem mask32_eq {n : Nat} (h : n ≤ 32) : Addr.mask32 n = BitVec.ofNat 32 (2 ^ 32 - 2 ^ (32 - n)) := by
  have hall : ∀ n : Fin 33, Addr.mask32 n = BitVec.ofNat 32 (2 ^ 32 - 2 ^ (32 - n.val)) := by decide
  exact hall ⟨n, by omega⟩

variable {p : Platform}

theorem answer_address_builder (s : Adapter) {address gateway : String} {n : Int} {ipv6 net30 : Bool}
    (ha : IsAddress (.addAddress address n gateway ipv6 net30))
    (hw : Whole (.addAddress address n gateway ipv6 net30)) :
    (answer (client p) s (.addAddress address n gateway ipv6 net30)).2.builder =
      if ipv6 then (addIPv6Address s.builder address n (given gateway)).2
      else (addIPv4Address s.builder address (dottedMask p.sys n) (given gateway)).2 := by
  obtain ⟨haddress, hgateway⟩ := hw
  have hgiven : gatewayAddress gateway = given gateway := by rw [gatewayAddress, given, hgateway]
  cases ipv6 with
  | true => simp [answer, client, tunBuilderAddAddress, onBuilder, haddress, hgiven, Except.map]
  | false =>
      obtain ⟨h0, h32⟩ := ha rfl
      have hmask : p.sys.print (.v4 (Addr.mask32 n.toNat)) = dottedMask p.sys n := by
        rw [dottedMask, mask32_eq (by omega)]
      simp [answer, client, tunBuilderAddAddress, onBuilder, haddress, hgiven, subnetMask_eq ⟨h0, h32⟩, hmask,
        Except.map]

theorem after_addresses {cs : List Call} (ha : ∀ c ∈ cs, IsAddress c) (hw : ∀ c ∈ cs, Whole c) (s : Adapter) :
    (after (answer (client p)) s cs).builder = { s.builder with
      ipv4DefaultGateway := (cs.filterMap gatewayV4).getLast?.getD s.builder.ipv4DefaultGateway
      ipv4LocalAddresses := s.builder.ipv4LocalAddresses ++ (cs.filterMap (pairV4 p.sys)).map Prod.fst
      ipv4SubnetMasks := s.builder.ipv4SubnetMasks ++ (cs.filterMap (pairV4 p.sys)).map Prod.snd
      ipv6DefaultGateway := (cs.filterMap gatewayV6).getLast?.getD s.builder.ipv6DefaultGateway
      ipv6LocalAddresses := s.builder.ipv6LocalAddresses ++ (cs.filterMap pairV6).map Prod.fst
      ipv6NetworkPrefixLengths := s.builder.ipv6NetworkPrefixLengths ++ (cs.filterMap pairV6).map Prod.snd } := by
  induction cs generalizing s with
  | nil => simp
  | cons c cs ih =>
      simp only [List.forall_mem_cons] at ha hw
      rw [after_cons, ih ha.2 hw.2]
      cases c
      case addAddress address n gateway ipv6 net30 =>
        rw [answer_address_builder s ha.1 hw.1]
        cases ipv6 <;> simp [addIPv6Address, addIPv4Address, List.getLast?_cons, List.filterMap_cons]
      all_goals exact ha.1.elim

end Addresses

section Routes

variable {p : Platform}

/-- Addresses and gateways are those of `b₀`, and the routes carry the gateways. -/
structure Settled (b₀ b : Builder) : Prop where
  addressesV4 : b.ipv4LocalAddresses = b₀.ipv4LocalAddresses
  masksV4 : b.ipv4SubnetMasks = b₀.ipv4SubnetMasks
  addressesV6 : b.ipv6LocalAddresses = b₀.ipv6LocalAddresses
  prefixesV6 : b.ipv6NetworkPrefixLengths = b₀.ipv6NetworkPrefixLengths
  gatewayV4 : b.ipv4DefaultGateway = b₀.ipv4DefaultGateway
  gatewayV6 : b.ipv6DefaultGateway = b₀.ipv6DefaultGateway
  includedV4 : ∀ r ∈ b.ipv4IncludedRoutes, r.gatewayAddress = b₀.ipv4DefaultGateway
  includedV6 : ∀ r ∈ b.ipv6IncludedRoutes, r.gatewayAddress = b₀.ipv6DefaultGateway
  excludedV4 : ∀ r ∈ b.ipv4ExcludedRoutes, r.gatewayAddress = none
  excludedV6 : ∀ r ∈ b.ipv6ExcludedRoutes, r.gatewayAddress = none

variable {b₀ b : Builder}

theorem settled_addIPv4Route (h : Settled b₀ b) (r : NEIPv4Route) : Settled b₀ (addIPv4Route b r).2 := by
  rcases addIPv4Route_cases b r with he | he
  · rw [he]
    exact h
  · rw [he]
    refine { h with includedV4 := fun s hs => ?_ }
    rcases List.mem_append.mp hs with hs | hs
    · exact h.includedV4 s hs
    · rw [List.mem_singleton.mp hs]
      exact h.gatewayV4

theorem settled_addIPv6Route (h : Settled b₀ b) (r : NEIPv6Route) : Settled b₀ (addIPv6Route p b r).2 := by
  rcases addIPv6Route_cases p b r with he | he
  · rw [he]
    exact h
  · rw [he]
    refine { h with includedV6 := fun s hs => ?_ }
    rcases List.mem_append.mp hs with hs | hs
    · exact h.includedV6 s hs
    · rw [List.mem_singleton.mp hs]
      exact h.gatewayV6

theorem forall_appendNew {α : Type} {same : α → α → Bool} {x : α} {xs : List α} {P : α → Prop}
    (hx : P x) (h : ∀ y ∈ xs, P y) : ∀ y ∈ (appendNew same x xs).2, P y := by
  rw [appendNew]
  split
  · exact h
  · exact List.forall_mem_append.mpr ⟨h, List.forall_mem_singleton.mpr hx⟩

theorem settled_excludeIPv4Route (h : Settled b₀ b) {r : NEIPv4Route} (hr : r.gatewayAddress = none) :
    Settled b₀ (excludeIPv4Route b r).2 :=
  { h with excludedV4 := forall_appendNew hr h.excludedV4 }

theorem settled_excludeIPv6Route (h : Settled b₀ b) {r : NEIPv6Route} (hr : r.gatewayAddress = none) :
    Settled b₀ (excludeIPv6Route p b r).2 :=
  { h with excludedV6 := forall_appendNew hr h.excludedV6 }

theorem settled_rerouteGw (h : Settled b₀ b) (ipv4 ipv6 : Bool) :
    Settled b₀ (tunBuilderRerouteGw p b ipv4 ipv6).2 := by
  have h4 : Settled b₀ (if ipv4 then addIPv4Route b .defaultRoute else (true, b)).2 := by
    cases ipv4 with
    | true => exact settled_addIPv4Route h _
    | false => exact h
  rw [tunBuilderRerouteGw]
  rcases he : (if ipv4 then addIPv4Route b .defaultRoute else (true, b)) with ⟨added4, c⟩
  rw [he] at h4
  cases added4 with
  | false => exact h4
  | true =>
      cases ipv6 with
      | true => exact settled_addIPv6Route h4 _
      | false => exact h4

theorem settled_answer {s : Adapter} (h : Settled b₀ s.builder) {c : Call} (hc : addressFamily c = none) :
    Settled b₀ (answer (client p) s c).2.builder := by
  cases c
  case addAddress => cases hc
  case rerouteGw ipv4 ipv6 flags => exact settled_rerouteGw h ipv4 ipv6
  case addRoute address n metric ipv6 =>
    cases ipv6 with
    | true => exact settled_addIPv6Route h _
    | false =>
        simp only [answer, client, tunBuilderAddRoute]
        cases subnetMask p n with
        | error => exact h
        | ok mask => exact settled_addIPv4Route h _
  case excludeRoute address n metric ipv6 =>
    cases ipv6 with
    | true => exact settled_excludeIPv6Route h rfl
    | false =>
        simp only [answer, client, tunBuilderExcludeRoute]
        cases subnetMask p n with
        | error => exact h
        | ok mask => exact settled_excludeIPv4Route h rfl
  case setProxyAutoConfigUrl url =>
    simp only [answer, client, tunBuilderSetProxyAutoConfigUrl]
    cases p.urlWithString (cStr url) <;> exact { h with }
  all_goals exact { h with }

end Routes

variable {p : Platform} {a t : Adapter} {serverAddr : Addr} {config : Config} {opt : OptionList} {pl : Plan}

theorem addressFamily_isOther {c : Call} (h : IsOther c) : addressFamily c = none := by
  cases c
  case addAddress => exact h.elim
  all_goals rfl

theorem performed_settled (hs : p.sys.Printing) (h : plan p.sys serverAddr config opt = .ok pl)
    (googleDnsFallback : Bool) :
    Settled (session p a pl.addresses).builder (performed p a pl googleDnsFallback).builder := by
  have hpl := plan_shape h
  have hlater : ∀ c ∈ pl.singles ++ [.rerouteGw pl.ipv.rgv4 pl.ipv.rgv6 pl.ipv.flags] ++
      rest p pl googleDnsFallback (session p a pl.routing), addressFamily c = none := by
    intro c hc
    simp only [List.mem_append, List.mem_singleton] at hc
    rcases hc with (hc | rfl) | hc
    · have h := hpl.singles c hc
      cases c <;> first | rfl | cases h
    · rfl
    · exact addressFamily_isOther (isOther_rest hpl hc)
  have hstart : Settled (session p a pl.addresses).builder (session p a pl.addresses).builder := by
    obtain ⟨hroutes4, hexcluded4, hroutes6, hexcluded6⟩ :
        (session p a pl.addresses).builder.ipv4IncludedRoutes = [] ∧
          (session p a pl.addresses).builder.ipv4ExcludedRoutes = [] ∧
          (session p a pl.addresses).builder.ipv6IncludedRoutes = [] ∧
          (session p a pl.addresses).builder.ipv6ExcludedRoutes = [] := by
      rw [session, after_addresses hpl.addresses (plan_whole hs h)]
      exact ⟨rfl, rfl, rfl, rfl⟩
    refine ⟨rfl, rfl, rfl, rfl, rfl, rfl, ?_, ?_, ?_, ?_⟩
    · rw [hroutes4]; exact fun _ h => by cases h
    · rw [hroutes6]; exact fun _ h => by cases h
    · rw [hexcluded4]; exact fun _ h => by cases h
    · rw [hexcluded6]; exact fun _ h => by cases h
  have hcalls : performed p a pl googleDnsFallback = after (answer (client p)) (session p a pl.addresses)
      (pl.singles ++ [.rerouteGw pl.ipv.rgv4 pl.ipv.rgv6 pl.ipv.flags] ++
        rest p pl googleDnsFallback (session p a pl.routing)) := by
    rw [performed, session, session.eq_def p a pl.addresses, ← after_append, Plan.routing, List.append_assoc,
      List.append_assoc]
  rw [hcalls]
  exact after_invariant (I := fun s : Adapter => Settled (session p a pl.addresses).builder s.builder)
    (fun s c hc hs => settled_answer hs (hlater c hc)) hstart

theorem networkSettings_isSome {b : Builder} (h : Asserted b) : b.networkSettings.isSome = true := by
  obtain ⟨remoteAddress, hr, hlen⟩ := h.remoteAddress
  have hne : remoteAddress ≠ "" := by
    rintro rfl
    exact absurd hlen (by decide)
  rw [Builder.networkSettings, hr]
  simp [hne]

/-- Whatever options a server pushes, once the set-up is through the addresses, masks and gateways
are paired as `tun_ifconfig` gave them, and the assertions of `networkSettings` hold. -/
theorem setUp_paired (hs : p.sys.Printing) (h : setUp p a serverAddr config opt = (.ok (), t)) :
    Paired p.sys (addressCalls p.sys opt) t.builder ∧ Asserted t.builder ∧ t.builder.networkSettings.isSome := by
  obtain ⟨pl, hplan⟩ := plan_of_setUp h
  obtain ⟨-, rfl⟩ := (setUp_ok_iff hplan).mp h
  have hpl := plan_shape hplan
  have hstart := after_addresses (p := p) hpl.addresses (plan_whole hs hplan) (tunBuilderNew a)
  have hsettled := performed_settled (a := a) hs hplan config.googleDnsFallback
  rw [session, hstart, plan_addresses hplan] at hsettled
  have haddressesV4 : _ = (List.filterMap (pairV4 p.sys) (addressCalls p.sys opt)).map Prod.fst :=
      hsettled.addressesV4
  have hmasksV4 : _ = (List.filterMap (pairV4 p.sys) (addressCalls p.sys opt)).map Prod.snd := hsettled.masksV4
  have haddressesV6 : _ = (List.filterMap pairV6 (addressCalls p.sys opt)).map Prod.fst := hsettled.addressesV6
  have hprefixesV6 : _ = (List.filterMap pairV6 (addressCalls p.sys opt)).map Prod.snd := hsettled.prefixesV6
  have hpaired : Paired p.sys (addressCalls p.sys opt) (performed p a pl config.googleDnsFallback).builder := by
    constructor
    case lengthsV4 => rw [haddressesV4, hmasksV4, List.length_map, List.length_map]
    case lengthsV6 => rw [haddressesV6, hprefixesV6, List.length_map, List.length_map]
    case pairsV4 => rw [haddressesV4, hmasksV4, List.zip_map']; exact List.map_id _
    case pairsV6 => rw [haddressesV6, hprefixesV6, List.zip_map']; exact List.map_id _
    case prefixesV4 =>
      intro address n gateway net30 hc
      rw [← plan_addresses hplan] at hc
      exact (hpl.addresses _ hc : IsAddress _) rfl
    case includedV4 => exact hsettled.includedV4
    case includedV6 => exact hsettled.includedV6
    case excludedV4 => exact hsettled.excludedV4
    case excludedV6 => exact hsettled.excludedV6
  have hasserted : Asserted (performed p a pl config.googleDnsFallback).builder := by
    refine ⟨⟨_, performed_remoteAddress hplan, ?_⟩, fun _ => hpaired.lengthsV4, fun _ => hpaired.lengthsV6⟩
    rw [Addr.cStr_toString hs]
    exact Nat.pos_of_ne_zero fun h0 => Addr.toString_ne_empty hs serverAddr (String.length_eq_zero_iff.mp h0)
  exact ⟨hpaired, hasserted, networkSettings_isSome hasserted⟩

theorem redirected_paired :
    let opt := redirected ["route", "10.9.0.0", "255.255.255.0"]
    let t := (setUp RedirectGateway.samplePlatform ⟨.empty, none⟩ (.v4 0xc0000201) sampleConfig opt).2
    Paired RedirectGateway.samplePlatform.sys (addressCalls RedirectGateway.samplePlatform.sys opt)
      t.builder ∧ Asserted t.builder ∧
      t.builder.networkSettings.isSome := by
  intro opt t
  exact setUp_paired samplePlatform_printing (t := t) (Prod.ext (by rfl) rfl)

end OpenVPNAdapter.Pairing
