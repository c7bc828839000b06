import OpenVPNAdapter.OpenVPNClient
import OpenVPNAdapter.Library.Runs

namespace OpenVPNAdapter.RouteTables

open Library.Runs Library.Driving Text IP NetworkSettings TunBuilder OpenVPNClient

variable (p : Platform)

/-- The calls of `OpenVPNClientDelegate` that write to a route table. -/
inductive RouteCall
  | addIPv4Route (route : NEIPv4Route)
  | addIPv6Route (route : NEIPv6Route)
  | excludeIPv4Route (route : NEIPv4Route)
  | excludeIPv6Route (route : NEIPv6Route)
deriving DecidableEq, Repr

def perform (b : Builder) : RouteCall → Bool × Builder
  | .addIPv4Route route => addIPv4Route b route
  | .addIPv6Route route => addIPv6Route p b route
  | .excludeIPv4Route route => excludeIPv4Route b route
  | .excludeIPv6Route route => excludeIPv6Route p b route

inductive Table
  | ipv4Included
  | ipv6Included
  | ipv4Excluded
  | ipv6Excluded
deriving DecidableEq, Repr

/-- A destination with its subnet mask or prefix length, compared by value. -/
abbrev Key : Type := String × (String ⊕ Int)

def Key.v4 (r : NEIPv4Route) : Key := (r.destinationAddress, .inl r.destinationSubnetMask)

def Key.v6 (r : NEIPv6Route) : Key := (r.destinationAddress, .inr r.destinationNetworkPrefixLength)

def entries (b : Builder) : Table → List Key
  | .ipv4Included => b.ipv4IncludedRoutes.map Key.v4
  | .ipv6Included => b.ipv6IncludedRoutes.map Key.v6
  | .ipv4Excluded => b.ipv4ExcludedRoutes.map Key.v4
  | .ipv6Excluded => b.ipv6ExcludedRoutes.map Key.v6

def table : RouteCall → Table
  | .addIPv4Route _ => .ipv4Included
  | .addIPv6Route _ => .ipv6Included
  | .excludeIPv4Route _ => .ipv4Excluded
  | .excludeIPv6Route _ => .ipv6Excluded

def key : RouteCall → Key
  | .addIPv4Route route => .v4 route
  | .addIPv6Route route => .v6 route
  | .excludeIPv4Route route => .v4 route
  | .excludeIPv6Route route => .v6 route

/-- Equal keys are told to be equal: text always, a prefix length when equal numbers of that
size are one object. -/
def Recognised (k : Key) : Prop :=
  match k.2 with
  | .inl _ => True
  | .inr n => sameNumber p n n = true

instance (k : Key) : Decidable (Recognised p k) := by
  rw [Recognised]
  cases k.2 <;> infer_instance

variable {p}

theorem appendNew_cases {α : Type} {same : α → α → Bool} {k : α → Key} {x : α} {s : List α}
    (hsame : ∀ y, same y x = true ↔ k y = k x ∧ Recognised p (k x)) :
    (k x ∈ s.map k ∧ Recognised p (k x) ∧ appendNew same x s = (false, s)) ∨
      (¬(k x ∈ s.map k ∧ Recognised p (k x)) ∧ appendNew same x s = (true, s ++ [x])) := by
  have hany : s.any (same · x) = true ↔ k x ∈ s.map k ∧ Recognised p (k x) := by
    simp only [List.any_eq_true, List.mem_map, hsame]
    exact ⟨fun ⟨y, hy, he, hr⟩ => ⟨⟨y, hy, he⟩, hr⟩, fun ⟨⟨y, hy, he⟩, hr⟩ => ⟨y, hy, he, hr⟩⟩
  by_cases h : s.any (same · x) = true
  · exact .inl ⟨(hany.mp h).1, (hany.mp h).2, by rw [appendNew, if_pos h]⟩
  · exact .inr ⟨fun hk => h (hany.mpr hk), by rw [appendNew, if_neg h]⟩

theorem sameIPv4_iff {r s : NEIPv4Route} :
    sameIPv4 r s = true ↔ Key.v4 r = Key.v4 s ∧ Recognised p (Key.v4 s) := by
  simp [sameIPv4, Key.v4, Recognised]

theorem sameIPv6_iff {r s : NEIPv6Route} :
    sameIPv6 p r s = true ↔ Key.v6 r = Key.v6 s ∧ Recognised p (Key.v6 s) := by
  simp only [sameIPv6, sameNumber, Key.v6, Recognised, Prod.mk.injEq, Sum.inr.injEq, Bool.and_eq_true,
    decide_eq_true_eq]
  constructor
  · rintro ⟨hd, hn, hs⟩
    exact ⟨⟨hd, hn⟩, trivial, hn ▸ hs⟩
  · rintro ⟨⟨hd, hn⟩, -, hs⟩
    exact ⟨hd, hn, hn ▸ hs⟩

variable (p)

/-- All that a route call does: it refuses a key it recognises in its table and changes nothing,
or it appends its key to its table and to no other. -/
theorem perform_cases (b : Builder) (c : RouteCall) :
    (key c ∈ entries b (table c) ∧ Recognised p (key c) ∧ perform p b c = (false, b)) ∨
      (¬(key c ∈ entries b (table c) ∧ Recognised p (key c)) ∧ (perform p b c).1 = true ∧
        ∀ t, entries (perform p b c).2 t = entries b t ++ if t = table c then [key c] else []) := by
  cases c with
  | addIPv4Route route =>
      rcases appendNew_cases (p := p) (s := b.ipv4IncludedRoutes) (k := Key.v4)
        (x := { route with gatewayAddress := b.ipv4DefaultGateway }) fun _ => sameIPv4_iff with
        ⟨hk, hr, he⟩ | ⟨hk, he⟩
      · exact .inl ⟨hk, hr, by simp only [perform, addIPv4Route, he]⟩
      · refine .inr ⟨hk, by simp only [perform, addIPv4Route, he], fun t => ?_⟩
        cases t <;> simp [perform, addIPv4Route, he, entries, table, key, Key.v4]
  | addIPv6Route route =>
      rcases appendNew_cases (p := p) (s := b.ipv6IncludedRoutes) (k := Key.v6)
        (x := { route with gatewayAddress := b.ipv6DefaultGateway }) fun _ => sameIPv6_iff with
        ⟨hk, hr, he⟩ | ⟨hk, he⟩
      · exact .inl ⟨hk, hr, by simp only [perform, addIPv6Route, he]⟩
      · refine .inr ⟨hk, by simp only [perform, addIPv6Route, he], fun t => ?_⟩
        cases t <;> simp [perform, addIPv6Route, he, entries, table, key, Key.v6]
  | excludeIPv4Route route =>
      rcases appendNew_cases (p := p) (s := b.ipv4ExcludedRoutes) (k := Key.v4) (x := route)
        fun _ => sameIPv4_iff with ⟨hk, hr, he⟩ | ⟨hk, he⟩
      · exact .inl ⟨hk, hr, by simp only [perform, excludeIPv4Route, he]⟩
      · refine .inr ⟨hk, by simp only [perform, excludeIPv4Route, he], fun t => ?_⟩
        cases t <;> simp [perform, excludeIPv4Route, he, entries, table, key]
  | excludeIPv6Route route =>
      rcases appendNew_cases (p := p) (s := b.ipv6ExcludedRoutes) (k := Key.v6) (x := route)
        fun _ => sameIPv6_iff with ⟨hk, hr, he⟩ | ⟨hk, he⟩
      · exact .inl ⟨hk, hr, by simp only [perform, excludeIPv6Route, he]⟩
      · refine .inr ⟨hk, by simp only [perform, excludeIPv6Route, he], fun t => ?_⟩
        cases t <;> simp [perform, excludeIPv6Route, he, entries, table, key]

def writesRoutes : Call → Bool
  | .rerouteGw _ _ _ => true
  | .addRoute _ _ _ _ => true
  | .excludeRoute _ _ _ _ => true
  | _ => false

/-- What the adapter's side of the client is asked to do, one delegate call at a time for
the routes. -/
inductive Action
  | route (c : RouteCall)
  | other (c : Call) (h : writesRoutes c = false)
  | resetSettings
deriving DecidableEq

def step (a : Adapter) : Action → Option Adapter
  | .route c => some { a with builder := (perform p a.builder c).2 }
  | .other c _ => some (answer (client p) a c).2
  | .resetSettings => some (resetSettings a)

def fresh : Adapter := ⟨.empty, none⟩

/-- No table has two entries for one destination. -/
def NoDuplicates (a : Adapter) : Prop := ∀ t, (entries a.builder t).Nodup

instance (a : Adapter) : Decidable (NoDuplicates a) :=
  decidable_of_iff (∀ t ∈ [Table.ipv4Included, .ipv6Included, .ipv4Excluded, .ipv6Excluded],
    (entries a.builder t).Nodup) ⟨fun h t => by cases t <;> exact h _ (by decide), fun h t _ => h t⟩

/-- A route call answers NO when its key is in its table and only then, and NO means no change. -/
def Exact (a : Adapter) : Action → Adapter → Prop
  | .route c, t =>
      ((perform p a.builder c).1 = false ↔ key c ∈ entries a.builder (table c)) ∧
        ((perform p a.builder c).1 = false → t = a)
  | _, _ => True

/-- A route call that repeats an entry is one whose key is recognised. -/
def Told (a : Adapter) : Action → Adapter → Prop
  | .route c, _ => key c ∈ entries a.builder (table c) → Recognised p (key c)
  | _, _ => True

variable {p}

theorem other_entries {a : Adapter} {c : Call} (h : writesRoutes c = false) (t : Table) :
    entries (answer (client p) a c).2.builder t = entries a.builder t := by
  cases c with
  | addAddress address prefixLength gateway ipv6 net30 =>
      cases ipv6 with
      | true => cases t <;> rfl
      | false =>
          simp only [answer, client, tunBuilderAddAddress]
          cases subnetMask p prefixLength <;> cases t <;> rfl
  | setProxyAutoConfigUrl url =>
      simp only [answer, client, tunBuilderSetProxyAutoConfigUrl]
      cases p.urlWithString (cStr url) <;> cases t <;> rfl
  | rerouteGw | addRoute | excludeRoute => exact Bool.noConfusion h
  | setLayer | setRemoteAddress | setRouteMetricDefault | addDnsServer | addSearchDomain | setMtu
  | setSessionName | addProxyBypass | setProxyHttp | setProxyHttps | addWinsServer | setBlockIPv6
  | setAdapterDomainSuffix => cases t <;> rfl

theorem exact_iff_told {a t : Adapter} {x : Action} (h : step p a x = some t) :
    Exact p a x t ↔ Told p a x t := by
  cases x with
  | route c =>
      obtain rfl := Option.some.inj h
      rcases perform_cases p a.builder c with ⟨hk, hr, he⟩ | ⟨hk, hyes, -⟩
      · refine ⟨fun _ _ => hr, fun _ => ⟨⟨fun _ => hk, fun _ => by rw [he]⟩, fun _ => ?_⟩⟩
        rw [he]
      · simp only [Exact, Told, hyes]
        tauto
  | other c hc => exact Iff.rfl
  | resetSettings => exact Iff.rfl

theorem noDuplicates_iff_told {a t : Adapter} {x : Action} (hs : NoDuplicates a)
    (h : step p a x = some t) : NoDuplicates t ↔ Told p a x t := by
  cases x with
  | route c =>
      obtain rfl := Option.some.inj h
      rcases perform_cases p a.builder c with ⟨hk, hr, he⟩ | ⟨hk, -, hgrown⟩
      · refine ⟨fun _ _ => hr, fun _ => ?_⟩
        rw [he]
        exact hs
      · constructor
        · intro hn hmem
          have hown := hn (table c)
          rw [hgrown, if_pos rfl] at hown
          exact absurd rfl ((List.nodup_append.mp hown).2.2 _ hmem _ (List.mem_singleton.mpr rfl))
        · intro htold u
          have hnew : key c ∉ entries a.builder (table c) := fun hmem => hk ⟨hmem, htold hmem⟩
          rw [hgrown]
          split
          · next hu =>
              subst hu
              exact List.nodup_append.mpr ⟨hs _, List.nodup_cons.mpr ⟨List.not_mem_nil, List.nodup_nil⟩,
                  fun k hk' l hl he =>
              hnew (List.mem_singleton.mp hl ▸ he ▸ hk')⟩
          · rw [List.append_nil]
            exact hs u
  | other c hc =>
      obtain rfl := Option.some.inj h
      refine ⟨fun _ => trivial, fun _ u => ?_⟩
      rw [other_entries hc]
      exact hs u
  | resetSettings =>
      obtain rfl := Option.some.inj h
      refine ⟨fun _ => trivial, fun _ u => ?_⟩
      cases u <;> exact List.nodup_nil

theorem fresh_noDuplicates : NoDuplicates fresh := fun t => by
  cases t <;> exact List.nodup_nil

/-- The tables of a run never hold an entry twice, and every answer of its route calls is exact,
exactly when no call repeats a route that the adapter does not recognise. -/
theorem noDuplicates_iff_recognised (xs : List Action) :
    Throughout (step p) NoDuplicates fresh xs ∧ Guarded (step p) (Exact p) fresh xs ↔
      Guarded (step p) (Told p) fresh xs := by
  have hrun : Throughout (step p) NoDuplicates fresh xs ↔ Guarded (step p) (Told p) fresh xs := by
    apply throughout_iff_guarded (I := fun _ => True) (P := NoDuplicates) (C := Told p)
    · exact fun _ _ _ _ _ => trivial
    · exact fun _ _ _ _ hs h => noDuplicates_iff_told hs h
    · trivial
    · exact fresh_noDuplicates
  rw [hrun]
  exact and_iff_left_of_imp fun h => h.mono fun _ _ _ hx => (exact_iff_told hx).mpr

/-! The callbacks of the client ask for just these actions. -/

variable (p)

/-- What a setter asks the adapter for; the second default route only when the first was added. -/
def asks (a : Adapter) : Call → List Action
  | .rerouteGw ipv4 ipv6 _ =>
      (if ipv4 then [.route (.addIPv4Route .defaultRoute)] else []) ++
        if ipv6 && (!ipv4 || (addIPv4Route a.builder .defaultRoute).1) then
          [.route (.addIPv6Route .defaultRoute)]
        else []
  | .addRoute address prefixLength _ true => [.route (.addIPv6Route ⟨cStr address, prefixLength, none⟩)]
  | .addRoute address prefixLength _ false =>
      match subnetMask p prefixLength with
      | .ok mask => [.route (.addIPv4Route ⟨cStr address, mask, none⟩)]
      | .error _ => []
  | .excludeRoute address prefixLength _ true =>
      [.route (.excludeIPv6Route ⟨cStr address, prefixLength, none⟩)]
  | .excludeRoute address prefixLength _ false =>
      match subnetMask p prefixLength with
      | .ok mask => [.route (.excludeIPv4Route ⟨cStr address, mask, none⟩)]
      | .error _ => []
  | c => if h : writesRoutes c = false then [.other c h] else []

/-- `tun_builder_new` and `tun_builder_teardown` are a `none`. -/
def trace : Adapter → List (Option Call) → List Action
  | _, [] => []
  | a, none :: cs => .resetSettings :: trace (resetSettings a) cs
  | a, some c :: cs => asks p a c ++ trace (answer (client p) a c).2 cs

def react (a : Adapter) : Option Call → Adapter
  | none => resetSettings a
  | some c => (answer (client p) a c).2

variable {p}

theorem run_asks (a : Adapter) (c : Call) :
    run (step p) a (asks p a c) = some (answer (client p) a c).2 := by
  cases c with
  | rerouteGw ipv4 ipv6 flags =>
      rcases addIPv4Route_cases a.builder .defaultRoute with h4 | h4 <;>
        cases ipv4 <;> cases ipv6 <;>
        simp [asks, run_cons, step, perform, answer, client, onBuilder, tunBuilderRerouteGw, h4]
  | addRoute address prefixLength metric ipv6 =>
      cases ipv6 with
      | true => rfl
      | false =>
          simp only [asks, answer, client, tunBuilderAddRoute]
          cases subnetMask p prefixLength <;> rfl
  | excludeRoute address prefixLength metric ipv6 =>
      cases ipv6 with
      | true => rfl
      | false =>
          simp only [asks, answer, client, tunBuilderExcludeRoute]
          cases subnetMask p prefixLength <;> rfl
  | setLayer | setRemoteAddress | setRouteMetricDefault | addAddress | addDnsServer | addSearchDomain
  | setMtu | setSessionName | addProxyBypass | setProxyAutoConfigUrl | setProxyHttp | setProxyHttps
  | addWinsServer | setBlockIPv6 | setAdapterDomainSuffix => rfl

/-- Whatever callbacks come in, the adapter runs through the actions they ask for. -/
theorem run_trace (a : Adapter) (cs : List (Option Call)) :
    run (step p) a (trace p a cs) = some (cs.foldl (react p) a) := by
  induction cs generalizing a with
  | nil => rfl
  | cons c cs ih =>
      cases c with
      | none => exact ih _
      | some c =>
          rw [trace, run_append, run_asks, Option.bind_some]
          exact ih _

/-- Where pointers are not tagged, one IPv6 route pushed twice is in the table twice. -/
theorem pushedTwice_duplicated :
    let p : Platform := ⟨.ofTable [], some, false⟩
    let cs := [some (.addRoute "fd00::" 64 (-1) true), some (.addRoute "fd00::" 64 (-1) true)]
    ¬(Throughout (step p) NoDuplicates fresh (trace p fresh cs) ∧
      Guarded (step p) (Exact p) fresh (trace p fresh cs)) := by
  intro p cs h
  exact absurd (h.1.last (run_trace fresh cs)) (by decide)

end OpenVPNAdapter.RouteTables
