import OpenVPNAdapter.Library.FirstSeen
import OpenVPNAdapter.RedirectGateway

namespace OpenVPNAdapter.PushedLists

open Library.Effect Library.Offers Library.Driving Library.FirstSeen Text IP Options NetworkSettings TunBuilder
  OpenVPNClient TunProp TunPlan AcceptedValues AdapterPlan RedirectGateway

variable (sys : Sys)

/-- The arguments of a `dhcp-option` of a type. -/
def arguments (type : String) (o : Opt) : List String := if o[1]? = some type then o.drop 2 else []

/-- One line of at most 256 characters. -/
def wellFormed (argument : String) : Bool :=
  argument.toList.all (fun c => c ≠ '\r' && c ≠ '\n') && decide (argument.length ≤ 256)

def values (arguments : List String) : List String := (arguments.flatMap bySpace).map cStr

/-- The values that a `dhcp-option` of a type names, if it is well formed. -/
def named (type : String) (o : Opt) : List String :=
  if (arguments type o).all wellFormed then values (arguments type o) else []

/-- The values before the first argument that is not well formed. -/
def leading (type : String) (o : Opt) : List String := values ((arguments type o).takeWhile wellFormed)

/-- The DNS server that a `dhcp-option` names: its one argument is the text of an address, which is
printed anew. -/
def dnsNamed (o : Opt) : List String :=
  match o with
  | [_, type, address] =>
      if (type = "DNS" ∨ type = "DNS6") ∧ wellFormed address = true then
        ((sys.makeAddress address).toOption.map fun ip => cStr (ip.toString sys)).toList
      else []
  | _ => []

variable (config : Config) (opt : OptionList)

/-- The values of the pushed options, each where it is first named. -/
def distinct (named : Opt → List String) : List String := ((instances opt "dhcp-option").flatMap named).eraseDups

/-- The lists of the builder are what was pushed, without duplicates. -/
structure Union (b : Builder) : Prop where
  dnsServers : b.dnsServers = distinct opt (dnsNamed sys)
  searchDomains : b.searchDomains = distinct opt (named "DOMAIN")
  proxyExceptionList : b.proxyExceptionList = distinct opt (named "PROXY_BYPASS")

/-- The driver falls back on the DNS servers of Google. -/
def FallsBack : Prop :=
  config.googleDnsFallback = true ∧ (exists? opt "ifconfig" = true ∨ config.layer = .osiLayer2) ∧
    (∃ flags, RedirectGatewayFlags.init sys opt = .ok flags ∧ flags.ipv4Enabled = true) ∧
    distinct opt (dnsNamed sys) = []

/-- Every option of a type begins with the values that are to be named next, and no other new value is
behind a repeat in it, so that the options together name all the distinct values in time. -/
def InTime (type : String) : Prop :=
  Cut [] ((instances opt "dhcp-option").map (leading type)) (distinct opt (named type))

variable {config opt} {o : Opt} {type : String}

theorem validate_eq (argument : String) : (Opt.validate argument 256).isNone = wellFormed argument := by
  rw [Opt.validate, wellFormed]
  split
  · rename_i h
    obtain ⟨c, hc, hbreak⟩ := List.any_eq_true.mp h
    have hall : (argument.toList.all fun c => c ≠ '\r' && c ≠ '\n') = false := by
      rw [List.all_eq_false]
      exact ⟨c, hc, by simpa [← or_iff_not_imp_left] using hbreak⟩
    rw [hall]
    rfl
  · rename_i h
    have hall : (argument.toList.all fun c => c ≠ '\r' && c ≠ '\n') = true := by
      rw [List.all_eq_true]
      intro c hc
      have hnone := h
      simp only [List.any_eq_true, not_exists, not_and] at hnone
      simpa using hnone c hc
    rw [hall]
    split
    · rename_i hlong
      rw [decide_eq_false (Nat.not_le.mpr hlong)]
      rfl
    · rename_i hlong
      rw [decide_eq_true (Nat.le_of_not_lt hlong)]
      rfl

theorem get_eq {i : Nat} (h : i < o.length) (n : Nat) :
    (o.get sys i n).toOption = if (Opt.validate o[i] n).isNone then some o[i] else none := by
  have hlen : o.minArgs sys (i + 1) = .ok () := if_neg (by omega)
  have hget : o.getD i "" = o[i] := by simp [List.getD_eq_getElem?_getD, h]
  rw [Opt.get, hlen]
  rw [Opt.validateArg]
  rw [List.getElem?_eq_getElem h, Option.bind_some, hget]
  cases Opt.validate o[i] n <;> rfl

/-- The type of an option is its first argument, where that passes for one. -/
theorem get_type (htype : Opt.validate type 64 = none) :
    (o.get sys 1 64).toOption = some type ↔ o[1]? = some type := by
  by_cases hlen : 1 < o.length
  · rw [get_eq sys hlen, List.getElem?_eq_getElem hlen]
    constructor
    · intro h
      split at h
      · exact h
      · cases h
    · intro h
      obtain rfl := Option.some.inj h
      rw [htype]
      rfl
  · have hget : o.get sys 1 64 = .error (o.error sys " must have at least 2 arguments") := by
      rw [Opt.get, Opt.minArgs, if_pos (by omega)]
      rfl
    rw [hget, List.getElem?_eq_none (Nat.le_of_not_lt hlen)]
    exact ⟨fun h => (by cases h), fun h => (by cases h)⟩

theorem terms_from (i : Nat) :
    terms sys o (List.range' i (o.length - i)) = ((o.drop i).takeWhile wellFormed).flatMap bySpace := by
  induction hn : o.length - i generalizing i with
  | zero => simp [terms, List.drop_eq_nil_of_le (Nat.sub_eq_zero_iff_le.mp hn)]
  | succ n ih =>
      have hi : i < o.length := by omega
      have hget := get_eq sys hi 256
      rw [List.range'_succ, terms, List.drop_eq_getElem_cons hi, List.takeWhile_cons, ← validate_eq]
      cases hv : Opt.validate o[i] 256 with
      | some what =>
          rw [hv] at hget
          cases hx : o.get sys i 256 with
          | error e => rfl
          | ok v => simp [hx, Except.toOption] at hget
      | none =>
          rw [hv, Option.isNone_none, if_pos rfl, toOption_eq_some_iff] at hget
          simp only [hget, Option.isNone_none, if_true, List.flatMap_cons, ih (i + 1) (by omega)]

theorem terms_eq (o : Opt) :
    (terms sys o (termIndices o)).map cStr = values ((o.drop 2).takeWhile wellFormed) := by
  rw [termIndices, terms_from, values]

variable {sys}

theorem filterMap_map_some {α β γ : Type} {f : α → β} {shows : β → Option γ} {g : α → γ}
    (h : ∀ x, shows (f x) = some (g x)) (xs : List α) : (xs.map f).filterMap shows = xs.map g := by
  rw [List.filterMap_map, List.filterMap_eq_map_iff_forall_eq_some]
  exact fun x _ => h x

variable (sys o) in
theorem dhcpCalls_leading (htype : Opt.validate type 64 = none) (call : String → Call)
    {shows : Call → Option String}
    (hshows : ∀ v, shows (call v) = some (cStr v)) (hother : ∀ t c, OfType t c → t ≠ type → shows c = none)
    (hcalls : dhcpCallsOf sys type o = (false, (terms sys o (termIndices o)).map call)) :
    ((∀ c ∈ (dhcpCalls sys o).2, (shows c).isSome) ∨ ∀ c ∈ (dhcpCalls sys o).2, shows c = none) ∧
      (dhcpCalls sys o).2.filterMap shows = leading type o := by
  have hof := @get_type sys o type htype
  cases hget : o.get sys 1 64 with
  | error e =>
      have hnone : dhcpCalls sys o = (false, []) := by rw [dhcpCalls, hget]
      rw [hnone]
      refine ⟨.inl fun _ h => (by cases h), ?_⟩
      rw [hget] at hof
      have hargs : o[1]? ≠ some type := fun h => by cases hof.mpr h
      simp [leading, arguments, hargs, values]
  | ok t =>
      have hcallsOf : dhcpCalls sys o = dhcpCallsOf sys t o := by rw [dhcpCalls, hget]
      rw [hget] at hof
      rw [hcallsOf]
      by_cases ht : t = type
      · subst ht
        rw [hcalls]
        refine ⟨.inl fun c hc => ?_, ?_⟩
        · obtain ⟨v, -, rfl⟩ := List.mem_map.mp hc
          rw [hshows]
          rfl
        · rw [filterMap_map_some hshows, terms_eq, leading, arguments, if_pos (hof.mp rfl)]
      · have hnone : ∀ c ∈ (dhcpCallsOf sys t o).2, shows c = none := fun c hc =>
          hother t c (mem_dhcpCallsOf hc) ht
        refine ⟨.inr hnone, ?_⟩
        have hargs : o[1]? ≠ some type := fun h => ht (Option.some.inj (hof.mpr h))
        rw [List.filterMap_eq_nil_iff.mpr hnone]
        simp [leading, arguments, hargs, values]

variable (sys o) in
theorem dhcpCalls_domains :
    ((∀ c ∈ (dhcpCalls sys o).2, (searchDomain c).isSome) ∨ ∀ c ∈ (dhcpCalls sys o).2, searchDomain c = none) ∧
      (dhcpCalls sys o).2.filterMap searchDomain = leading "DOMAIN" o := by
  refine dhcpCalls_leading sys o (by decide) .addSearchDomain (fun v => rfl) (fun t c hc ht => ?_)
      (by simp [dhcpCallsOf])
  cases c <;> first | rfl | exact absurd hc ht

variable (sys o) in
theorem dhcpCalls_bypass :
    ((∀ c ∈ (dhcpCalls sys o).2, (proxyBypass c).isSome) ∨ ∀ c ∈ (dhcpCalls sys o).2, proxyBypass c = none) ∧
      (dhcpCalls sys o).2.filterMap proxyBypass = leading "PROXY_BYPASS" o := by
  refine dhcpCalls_leading sys o (by decide) .addProxyBypass (fun v => rfl) (fun t c hc ht => ?_)
      (by simp [dhcpCallsOf])
  cases c <;> first | rfl | exact absurd hc ht

variable (sys) in
/-- The driver's DNS call is for the server named. -/
theorem dnsNamed_eq (htype : o[1]? = some "DNS" ∨ o[1]? = some "DNS6") :
    dnsNamed sys o = ((dnsServerCall sys o).toOption.bind dnsServer).toList := by
  by_cases hlen : o.length = 3
  · obtain ⟨directive, type, address, rfl⟩ := List.length_eq_three.mp hlen
    have hdns : type = "DNS" ∨ type = "DNS6" := by simpa using htype
    have hget := get_eq sys (o := [directive, type, address]) (i := 2) (by simp) 256
    rw [validate_eq] at hget
    have hexact : Opt.exactArgs sys [directive, type, address] 3 = .ok () := rfl
    rw [dnsServerCall, hexact]
    by_cases hwell : wellFormed address = true
    · have hget : Opt.get sys [directive, type, address] 2 256 = .ok address := by
        simpa [hwell, toOption_eq_some_iff] using hget
      rw [hget]
      have hnamed : dnsNamed sys [directive, type, address] =
          ((sys.makeAddress address).toOption.map fun ip => cStr (ip.toString sys)).toList := if_pos ⟨hdns, hwell⟩
      rw [hnamed]
      cases haddress : sys.makeAddress address with
      | ok ip =>
          have hfrom : Addr.fromString sys address "dns-server-ip" = .ok ip := by rw [Addr.fromString, haddress]
          simp only [bind, Except.bind, hfrom]
          rfl
      | error message =>
          have hfrom : ∃ e, Addr.fromString sys address "dns-server-ip" = .error e := by
            rw [Addr.fromString, haddress]
            exact ⟨_, rfl⟩
          obtain ⟨e, hfrom⟩ := hfrom
          simp only [bind, Except.bind, hfrom]
          rfl
    · have hnamed : dnsNamed sys [directive, type, address] = [] := if_neg fun h => hwell h.2
      rw [hnamed]
      cases hg : Opt.get sys [directive, type, address] 2 256 with
      | ok v =>
          rw [hg] at hget
          have hfalse : wellFormed address = false := Bool.eq_false_iff.mpr hwell
          simp [Except.toOption, hfalse] at hget
      | error e => rfl
  · have hnamed : dnsNamed sys o = [] := by
      unfold dnsNamed
      split
      · exact absurd rfl hlen
      · rfl
    have hexact : ∃ e, Opt.exactArgs sys o 3 = .error e := ⟨_, if_pos hlen⟩
    obtain ⟨e, hexact⟩ := hexact
    rw [hnamed, dnsServerCall, hexact]
    rfl

theorem dnsNamed_other (htype : ¬(o[1]? = some "DNS" ∨ o[1]? = some "DNS6")) : dnsNamed sys o = [] := by
  unfold dnsNamed
  split
  · rename_i directive type address
    exact if_neg fun h => htype (by simpa using h.1)
  · rfl

variable (sys o) in
theorem dhcpCalls_dns :
    ((∀ c ∈ (dhcpCalls sys o).2, (dnsServer c).isSome) ∨ ∀ c ∈ (dhcpCalls sys o).2, dnsServer c = none) ∧
      (dhcpCalls sys o).2.filterMap dnsServer = dnsNamed sys o ∧
      (((dhcpCalls sys o).1 = true ∧ (dhcpCalls sys o).2 ≠ []) ↔ dnsNamed sys o ≠ []) := by
  have hdns := @get_type sys o "DNS" (by decide)
  have hdns6 := @get_type sys o "DNS6" (by decide)
  cases hget : o.get sys 1 64 with
  | error e =>
      have hnone : dhcpCalls sys o = (false, []) := by rw [dhcpCalls, hget]
      rw [hget] at hdns hdns6
      rw [hnone, dnsNamed_other (not_or.mpr ⟨fun h => (by cases hdns.mpr h), fun h => (by cases hdns6.mpr h)⟩)]
      exact ⟨.inl fun _ h => (by cases h), rfl, by simp⟩
  | ok t =>
      have hof : dhcpCalls sys o = dhcpCallsOf sys t o := by rw [dhcpCalls, hget]
      rw [hget] at hdns hdns6
      rw [hof]
      by_cases ht : t = "DNS" ∨ t = "DNS6"
      · have hcalls : dhcpCallsOf sys t o = (true, (dnsServerCall sys o).toOption.toList) := if_pos ht
        have hnamed :=
            dnsNamed_eq sys (o := o)
              (ht.imp (fun h => hdns.mp (congrArg some h)) fun h => hdns6.mp (congrArg some h))
        rw [hcalls, hnamed]
        cases hr : dnsServerCall sys o with
        | error e => exact ⟨.inl fun _ h => (by cases h), rfl, by simp [Except.toOption]⟩
        | ok c =>
            obtain ⟨address, ipv6, rfl⟩ : ∃ address ipv6, c = .addDnsServer address ipv6 := by
              have hc : c ∈ (dhcpCallsOf sys t o).2 := by simp [hcalls, hr, Except.toOption]
              have hshape := dhcpCallsOf_shape t o c hc
              rw [hcalls] at hshape
              cases c <;> first | exact ⟨_, _, rfl⟩ | cases hshape
            refine ⟨.inl fun c hc => ?_, rfl, by simp [Except.toOption]⟩
            obtain rfl : c = .addDnsServer address ipv6 := List.mem_singleton.mp hc
            rfl
      · have hnone : ∀ c ∈ (dhcpCallsOf sys t o).2, dnsServer c = none := fun c hc => by
          have htype := mem_dhcpCallsOf hc
          cases c <;> first | rfl | exact absurd htype ht
        have hother : ¬(o[1]? = some "DNS" ∨ o[1]? = some "DNS6") := fun h =>
          ht (h.imp (fun h => Option.some.inj (hdns.mpr h)) fun h => Option.some.inj (hdns6.mpr h))
        rw [dnsNamed_other hother, dhcpCallsOf_fst, decide_eq_false ht, List.filterMap_eq_nil_iff.mpr hnone]
        exact ⟨.inr hnone, rfl, by simp⟩

section Lists

variable {p : Platform} {a : Adapter} {pl : Plan} {googleDnsFallback : Bool}

theorem appendNew_takeIn (x : String) (xs : List String) :
    ((appendNew sameString x xs).1 = true ↔ x ∉ xs) ∧ (appendNew sameString x xs).2 = takeIn xs [x] := by
  have hany : xs.any (sameString · x) = true ↔ x ∈ xs := by simp [sameString]
  rw [appendNew]
  by_cases h : x ∈ xs <;> simp [hany, h, takeIn]

variable (p) in
theorem keeps_dns : Keeps (answer (client p)) (fun a => a.builder.dnsServers) dnsServer where
  taken s c v hc := by
    cases c <;> cases hc
    exact (appendNew_takeIn _ _).1
  shown s c v hc := by
    cases c <;> cases hc
    exact (appendNew_takeIn _ _).2
  other s c hc := by
    have he := (effect_answer p s c).dnsServers
    rw [hc] at he
    simpa using he

variable (p) in
theorem keeps_domains : Keeps (answer (client p)) (fun a => a.builder.searchDomains) searchDomain where
  taken s c v hc := by
    cases c <;> cases hc
    exact (appendNew_takeIn _ _).1
  shown s c v hc := by
    cases c <;> cases hc
    exact (appendNew_takeIn _ _).2
  other s c hc := by
    have he := (effect_answer p s c).searchDomains
    rw [hc] at he
    simpa using he

variable (p) in
theorem keeps_bypass : Keeps (answer (client p)) (fun a => a.builder.proxyExceptionList) proxyBypass where
  taken s c v hc := by
    cases c <;> cases hc
    exact (appendNew_takeIn _ _).1
  shown s c v hc := by
    cases c <;> cases hc
    exact (appendNew_takeIn _ _).2
  other s c hc := by
    have he := (effect_answer p s c).proxyExceptions
    rw [hc] at he
    simpa using he

variable {field : Adapter → List String} {shows : Call → Option String}

theorem offerGroups_takeIn (h : Keeps (answer (client p)) field shows) (gs : List (Bool × List Call))
    (hgs : ∀ g ∈ gs, (∀ c ∈ g.2, (shows c).isSome) ∨ ∀ c ∈ g.2, shows c = none) (added : Bool) (s : Adapter) :
    field (offerGroups (client p) added s gs).2 = takeInAll (field s) (gs.map fun g => g.2.filterMap shows) := by
  induction gs generalizing added s with
  | nil => rfl
  | cons g gs ih =>
      rw [offerGroups, ih fun g hg => hgs g (List.mem_cons_of_mem _ hg),
          h.offer_takeIn _ (hgs g List.mem_cons_self)]
      rfl

theorem routing_quiet (hpl : Shape pl) {c : Call} (hc : c ∈ pl.routing) (type : String) : ¬ OfType type c := by
  simp only [Plan.routing, List.mem_append, List.mem_singleton] at hc
  rcases hc with hc | hc | rfl
  · have h := hpl.addresses c hc
    cases c <;> first | exact id | cases h
  · have h := hpl.singles c hc
    cases c <;> first | exact id | cases h
  · exact id

theorem proxies_quiet (hpl : Shape pl) {c : Call} (hc : c ∈ pl.proxies) (type : String) : ¬ OfType type c := by
  have h := hpl.proxies c hc
  cases c <;> first | exact id | cases h

theorem tail_quiet (hpl : Shape pl) {c : Call} (hc : c ∈ pl.tail) (type : String) : ¬ OfType type c := by
  have h := hpl.tail c hc
  cases c <;> first | exact id | cases h

variable (a googleDnsFallback) in
theorem performed_list {serverAddr : Addr} (h : Keeps (answer (client p)) field shows)
    (hplan : plan p.sys serverAddr config opt = .ok pl) (hempty : field (tunBuilderNew a) = [])
    (hdhcp : ∀ c v, shows c = some v → ∃ type, OfType type c) {line : Opt → List String}
    (hline : ∀ o, ((∀ c ∈ (dhcpCalls p.sys o).2, (shows c).isSome) ∨ ∀ c ∈ (dhcpCalls p.sys o).2, shows c = none) ∧
      (dhcpCalls p.sys o).2.filterMap shows = line o) :
    ∃ u, field u = takeInAll [] ((instances opt "dhcp-option").map line) ∧
      field (performed p a pl googleDnsFallback) =
        field (after (answer (client p)) u (pl.fallback googleDnsFallback)) := by
  have hpl := plan_shape hplan
  have hquiet {c : Call} (hc : ∀ type, ¬ OfType type c) : shows c = none := by
    cases hv : shows c with
    | none => rfl
    | some v =>
        obtain ⟨type, htype⟩ := hdhcp c v hv
        exact absurd htype (hc type)
  have hdhcp : pl.dhcp = (instances opt "dhcp-option").map (dhcpCalls p.sys) := by
    obtain ⟨ipv4, ipv6, ipv, -, -, -, rfl⟩ := plan_ok_iff.mp hplan
    rfl
  have hrouting : field (session p a pl.routing) = [] := by
    rw [session, h.after_other fun c hc => hquiet (routing_quiet hpl hc), hempty]
  have hgroups := offerGroups_takeIn h pl.dhcp (fun g hg => by
    rw [hdhcp] at hg
    obtain ⟨o, -, rfl⟩ := List.mem_map.mp hg
    exact (hline o).1) false (session p a pl.routing)
  have hlines : (pl.dhcp.map fun g => g.2.filterMap shows) = (instances opt "dhcp-option").map line := by
    rw [hdhcp, List.map_map]
    exact List.map_congr_left fun o _ => (hline o).2
  rw [hrouting, hlines, offerGroups_snd] at hgroups
  have hproxies (s : Adapter) : field (after (answer (client p)) s (made (answer (client p)) s pl.proxies)) =
      field s :=
    h.after_other (fun c hc => hquiet (proxies_quiet hpl ((made_initial _ _).subset hc))) s
  have hblock (s : Adapter) : field (answer (client p) s (.setBlockIPv6 pl.blockIPv6)).2 = field s :=
    h.other s _ (hquiet fun _ => id)
  refine ⟨_, (hblock _).trans ((hproxies _).trans hgroups), ?_⟩
  simp only [performed, session, rest, Plan.final, after_append, after_cons]
  exact h.after_other (fun c hc => hquiet (tail_quiet hpl hc)) _

theorem dnsNamed_short (o : Opt) : (dnsNamed sys o).length ≤ 1 := by
  unfold dnsNamed
  split
  · split
    · exact Option.length_toList_le
    · exact Nat.zero_le 1
  · exact Nat.zero_le 1

theorem takeInAll_dns : takeInAll [] ((instances opt "dhcp-option").map (dnsNamed sys)) = distinct opt
    (dnsNamed sys) := by
  have h := @takeInAll_eraseDups String _ [] ((instances opt "dhcp-option").map (dnsNamed sys))
    fun pre line post hsplit => leading_of_short ?_
  · simpa [distinct, List.flatMap_def] using h
  · have hmem : line ∈ (instances opt "dhcp-option").map (dnsNamed sys) := by simp [hsplit]
    obtain ⟨o, -, rfl⟩ := List.mem_map.mp hmem
    exact dnsNamed_short o

theorem distinct_eq_nil_iff {named : Opt → List String} :
    distinct opt named = [] ↔ ∀ o ∈ instances opt "dhcp-option", named o = [] := by
  rw [← List.flatMap_eq_nil_iff, distinct]
  cases (instances opt "dhcp-option").flatMap named <;> simp [List.eraseDups_cons]

variable {serverAddr : Addr}

theorem fallback_eq (h : plan p.sys serverAddr config opt = .ok pl) (hno : ¬ FallsBack p.sys config opt) :
    pl.fallback config.googleDnsFallback = [] := by
  refine if_neg fun hq => hno ?_
  obtain ⟨flags, hflags, hipv⟩ := plan_ipv h
  obtain ⟨ipv4, ipv6, ipv, -, -, -, rfl⟩ := plan_ok_iff.mp h
  simp only [Bool.and_eq_true, Bool.not_eq_true', Plan.addsDns, planWith, List.any_map] at hq
  obtain ⟨⟨hrg, hadds⟩, hgoogle⟩ := hq
  rw [show ipv = _ from hipv] at hrg
  simp only [IPVerFlags.rgv4, Bool.and_eq_true, Bool.or_eq_true, decide_eq_true_eq] at hrg
  refine ⟨hgoogle, hrg.1, ⟨flags, hflags, hrg.2⟩, distinct_eq_nil_iff.mpr fun o ho => ?_⟩
  by_contra hne
  have hcalls := (dhcpCalls_dns p.sys o).2.2.mpr hne
  rw [List.any_eq_false] at hadds
  exact hadds o ho (by simpa using hcalls)

theorem fallback_googleDns (h : plan p.sys serverAddr config opt = .ok pl) (hfalls : FallsBack p.sys config opt) :
    pl.fallback config.googleDnsFallback = googleDns := by
  obtain ⟨hgoogle, hv4, ⟨flags, hflags, hrg⟩, hnone⟩ := hfalls
  obtain ⟨flags', hflags', hipv⟩ := plan_ipv h
  obtain rfl : flags = flags' := Except.ok.inj (hflags.symm.trans hflags')
  have hrgv4 : pl.ipv.rgv4 = true := by
    rw [hipv]
    simpa [IPVerFlags.rgv4, hrg] using hv4
  obtain ⟨ipv4, ipv6, ipv, -, -, -, rfl⟩ := plan_ok_iff.mp h
  apply if_pos
  rw [hrgv4, hgoogle, Bool.and_true, Bool.true_and, Bool.not_eq_true', Plan.addsDns, List.any_eq_false]
  intro g hg hadds
  obtain ⟨o, ho, rfl⟩ := List.mem_map.mp hg
  refine (dhcpCalls_dns p.sys o).2.2.mp ?_ (distinct_eq_nil_iff.mp hnone o ho)
  simpa using hadds

theorem after_fallback (h : Keeps (answer (client p)) field shows)
    (hdns : ∀ address ipv6, shows (.addDnsServer address ipv6) = none) (u : Adapter) :
    field (after (answer (client p)) u (pl.fallback googleDnsFallback)) = field u := by
  refine h.after_other (fun c hc => ?_) u
  rw [Plan.fallback] at hc
  split at hc
  · simp only [googleDns, List.mem_cons, List.not_mem_nil, or_false] at hc
    rcases hc with rfl | rfl
    · exact hdns ..
    · exact hdns ..
  · cases hc

variable (googleDnsFallback) in
theorem performed_domains (h : plan p.sys serverAddr config opt = .ok pl) :
    (performed p a pl googleDnsFallback).builder.searchDomains =
      takeInAll [] ((instances opt "dhcp-option").map (leading "DOMAIN")) := by
  obtain ⟨u, hu, hperformed⟩ := performed_list a googleDnsFallback (keeps_domains p) h rfl
    (fun c v hc => by cases c <;> cases hc; exact ⟨_, rfl⟩) (dhcpCalls_domains p.sys)
  rw [hperformed, after_fallback (keeps_domains p) fun _ _ => rfl, hu]

variable (googleDnsFallback) in
theorem performed_bypass (h : plan p.sys serverAddr config opt = .ok pl) :
    (performed p a pl googleDnsFallback).builder.proxyExceptionList =
      takeInAll [] ((instances opt "dhcp-option").map (leading "PROXY_BYPASS")) := by
  obtain ⟨u, hu, hperformed⟩ := performed_list a googleDnsFallback (keeps_bypass p) h rfl
    (fun c v hc => by cases c <;> cases hc; exact ⟨_, rfl⟩) (dhcpCalls_bypass p.sys)
  rw [hperformed, after_fallback (keeps_bypass p) fun _ _ => rfl, hu]

theorem performed_dns (h : plan p.sys serverAddr config opt = .ok pl) :
    (performed p a pl config.googleDnsFallback).builder.dnsServers = distinct opt (dnsNamed p.sys) ↔
      ¬ FallsBack p.sys config opt := by
  obtain ⟨u, hu, hperformed⟩ := performed_list a config.googleDnsFallback (keeps_dns p) h rfl
    (fun c v hc => by cases c <;> cases hc; exact ⟨_, .inl rfl⟩)
    fun o => ⟨(dhcpCalls_dns p.sys o).1, (dhcpCalls_dns p.sys o).2.1⟩
  rw [takeInAll_dns] at hu
  rw [hperformed]
  by_cases hfalls : FallsBack p.sys config opt
  · refine iff_of_false ?_ (not_not.mpr hfalls)
    obtain ⟨-, -, -, hnone⟩ := id hfalls
    rw [hnone] at hu
    have hoffer := (keeps_dns p).offer_takeIn googleDns
      (.inl fun c hc => by
        simp only [googleDns, List.mem_cons, List.not_mem_nil, or_false] at hc
        rcases hc with rfl | rfl <;> rfl) u
    rw [offer_googleDns hu, hu] at hoffer
    rw [fallback_googleDns h hfalls, hoffer, hnone]
    decide
  · refine iff_of_true ?_ hfalls
    rw [fallback_eq h hfalls, after_nil, hu]

theorem setUp_of_ok (h : (setUp p a serverAddr config opt).1 = .ok ()) :
    setUp p a serverAddr config opt = (.ok (), (setUp p a serverAddr config opt).2) := Prod.ext h rfl

theorem setUp_lists {t : Adapter} (h : setUp p a serverAddr config opt = (.ok (), t)) :
    t.builder.searchDomains = takeInAll [] ((instances opt "dhcp-option").map (leading "DOMAIN")) ∧
      t.builder.proxyExceptionList =
        takeInAll [] ((instances opt "dhcp-option").map (leading "PROXY_BYPASS")) := by
  obtain ⟨pl, hpl⟩ := plan_of_setUp h
  obtain ⟨-, rfl⟩ := (setUp_ok_iff hpl).mp h
  exact ⟨performed_domains config.googleDnsFallback hpl, performed_bypass config.googleDnsFallback hpl⟩

/-- The three lists are the distinct values that were pushed if and only if the fallback is not
used and no option is left before a new value that is not pushed again in time. -/
theorem union_iff_inTime {t : Adapter} (h : setUp p a serverAddr config opt = (.ok (), t)) :
    Union p.sys opt t.builder ↔
      ¬ FallsBack p.sys config opt ∧ InTime opt "DOMAIN" ∧ InTime opt "PROXY_BYPASS" := by
  obtain ⟨hdomains, hbypass⟩ := setUp_lists h
  obtain ⟨pl, hpl⟩ := plan_of_setUp h
  obtain ⟨-, rfl⟩ := (setUp_ok_iff hpl).mp h
  rw [← performed_dns (a := a) hpl]
  unfold InTime distinct
  rw [cut_eraseDups_iff, cut_eraseDups_iff, ← hdomains, ← hbypass]
  constructor
  · rintro ⟨hdns, hdomains, hbypass⟩
    exact ⟨hdns, hdomains, hbypass⟩
  · rintro ⟨hdns, hdomains, hbypass⟩
    exact ⟨hdns, hdomains, hbypass⟩

end Lists

/-- Pushed options with search domains. -/
def pushedDomains (domains : List Opt) : OptionList :=
  [["topology", "subnet"], ["ifconfig", "10.8.0.2", "255.255.255.0"]] ++ domains

def fresh : Adapter := ⟨.empty, none⟩

/-- A new value behind a repeat is lost. -/
theorem repeatInside_drops :
    ∃ t, setUp RedirectGateway.samplePlatform fresh (.v4 0xc0000201) sampleConfig
        (pushedDomains [["dhcp-option", "DOMAIN", "a a b"]]) = (.ok (), t) ∧
      ¬ Union RedirectGateway.samplePlatform.sys
        (pushedDomains [["dhcp-option", "DOMAIN", "a a b"]]) t.builder := by
  have hok : (setUp RedirectGateway.samplePlatform fresh (.v4 0xc0000201) sampleConfig
      (pushedDomains [["dhcp-option", "DOMAIN", "a a b"]])).1 = .ok () := by rfl
  have hsetUp := setUp_of_ok hok
  refine ⟨_, hsetUp, fun h => ?_⟩
  have hdomains := (setUp_lists hsetUp).1.symm.trans h.searchDomains
  revert hdomains
  decide

theorem repeatLast_kept :
    ∃ t, setUp RedirectGateway.samplePlatform fresh (.v4 0xc0000201) sampleConfig
        (pushedDomains [["dhcp-option", "DOMAIN", "a b a"]]) = (.ok (), t) ∧
      Union RedirectGateway.samplePlatform.sys
        (pushedDomains [["dhcp-option", "DOMAIN", "a b a"]]) t.builder := by
  have hok : (setUp RedirectGateway.samplePlatform fresh (.v4 0xc0000201) sampleConfig
      (pushedDomains [["dhcp-option", "DOMAIN", "a b a"]])).1 = .ok () := by rfl
  have hsetUp := setUp_of_ok hok
  refine ⟨_, hsetUp, (union_iff_inTime hsetUp).mpr ⟨?_, ?_, ?_⟩⟩
  · rintro ⟨hgoogle, -⟩
    cases hgoogle
  · rw [InTime, distinct, cut_eraseDups_iff]
    decide
  · rw [InTime, distinct, cut_eraseDups_iff]
    decide

end OpenVPNAdapter.PushedLists
