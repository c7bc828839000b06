import OpenVPNAdapter.AcceptedValues
import OpenVPNAdapter.FreshSession
import Mathlib.Data.List.Induction

namespace OpenVPNAdapter.HandedSettings

open Library.Offers Library.Driving Library.Responses Text IP NetworkSettings TunBuilder OpenVPNClient
  PacketFlowBridge FreshSession AcceptedValues

/-- The setters called since the last `tun_builder_new`: `current` are those since the last teardown
as well, `dropped` those that each teardown before it put an end to. -/
structure Setters where
  dropped : List (List Call)
  current : List Call
deriving DecidableEq, Repr

def Setters.next (u : Setters) : Callback → Setters
  | .tunBuilderNew => ⟨[], []⟩
  | .tunBuilderTeardown _ => ⟨u.dropped ++ [u.current], []⟩
  | .setter c => ⟨u.dropped, u.current ++ [c]⟩
  | _ => u

def setters (cs : List Callback) : Setters := cs.foldl Setters.next ⟨[], []⟩

variable (p : Platform) (tunPersist : Bool)

/-- The setters whose callback has returned true since the last `tun_builder_new`. -/
def track (r : State × List Call) (c : Callback) : State × List Call :=
  let (response, s) := react p tunPersist r.1 c
  (s, match c with
    | .tunBuilderNew => []
    | .setter call => if response.returned = .bool true then r.2 ++ [call] else r.2
    | _ => r.2)

def returnedTrue (s : State) (cs : List Callback) : List Call := (cs.foldl (track p tunPersist) (s, [])).2

/-- What `tun_builder_establish` hands to the delegate after `cs` says exactly what was accepted since the
last `tun_builder_new`. -/
def Exact (s : State) (cs : List Callback) (delegate : TunnelConfiguration) (calls : SocketCalls) : Prop :=
  ∃ settings, (establish delegate calls (final (react p tunPersist) s cs)).1.handed = [some settings] ∧
    Content.ofSettings settings = Content.ofCalls p (returnedTrue p tunPersist s cs)

def asksBoth : Call → Bool
  | .rerouteGw true true _ => true
  | _ => false

/-- The IPv4 route that a setter gets taken after others: a new one, unless it is the half of a request for
both default routes of which the other half is asked for already. -/
def newRoute (pre : List Call) (c : Call) : Option (String × String) :=
  (ipv4Route p c).filter fun k =>
    k ∉ pre.filterMap (ipv4Route p) ∧ ¬(asksBoth c = true ∧ defaultV6 ∈ pre.filterMap ipv6Route)

def newRoutes : List Call → List Call → List (String × String)
  | _, [] => []
  | pre, c :: cs => (newRoute p pre c).toList ++ newRoutes (pre ++ [c]) cs

/-- No IPv6 route is taken: each is the half of a request for both default routes that comes after one for
the IPv4 default route. -/
def NoIPv6Route (cs : List Call) : Prop :=
  ∀ pre c post, cs = pre ++ c :: post → (ipv6Route c).isSome →
    asksBoth c = true ∧ defaultV4 ∈ pre.filterMap (ipv4Route p)

/-- The first IPv4 route asked for is the half of a request for both default routes of which the other half
is refused. -/
def HalfAppliedFirst (cs : List Call) : Prop :=
  ∃ pre flags post, cs = pre ++ .rerouteGw true true flags :: post ∧ pre.filterMap (ipv4Route p) = [] ∧
    defaultV6 ∈ pre.filterMap ipv6Route

/-- Nothing that a teardown drops was to be handed over. Of several MTUs the last one counts, and a dropped
IPv4 default route may be made up for by one that is left behind. -/
structure NothingDropped (u : Setters) : Prop where
  ipv4Addresses : u.dropped.flatten.filterMap (ipv4Address p) = []
  ipv6Addresses : u.dropped.flatten.filterMap ipv6Address = []
  ipv4Included : u.current.filterMap (ipv4Address p) = [] ∨
    (u.dropped.flatMap (newRoutes p []) = [] ∧ ¬ HalfApplied p u.current) ∨
    (u.dropped.flatMap (newRoutes p []) = [defaultV4] ∧ HalfAppliedFirst p u.current)
  ipv4Excluded : u.current.filterMap (ipv4Address p) = [] ∨ u.dropped.flatten.filterMap (ipv4ExcludedRoute p) = []
  ipv6Included : u.current.filterMap ipv6Address = [] ∨ ∀ cs ∈ u.dropped, NoIPv6Route p cs
  ipv6Excluded : u.current.filterMap ipv6Address = [] ∨ u.dropped.flatten.filterMap ipv6ExcludedRoute = []
  dnsServers : u.dropped.flatten.filterMap dnsServer = []
  searchDomains : u.dropped.flatten.filterMap searchDomain = []
  mtu : u.current.filterMap mtu = [] → u.dropped.flatten.filterMap mtu = []
  autoConfig : u.dropped.flatten.filterMap (proxyAutoConfigUrl p) = []
  http : u.dropped.flatten.filterMap httpProxy = []
  https : u.dropped.flatten.filterMap httpsProxy = []
  proxyBypass : u.current.any (setsProxy p) = true → u.dropped.flatten.filterMap proxyBypass = []

/-- The remote address in force is not empty, search domains come with a DNS server, no proxy setter takes
two values, no request for both default routes is applied by half where IPv4 routes count, and no teardown
drops what counts. -/
structure Kept (u : Setters) : Prop where
  remote : ∃ address, (u.current.filterMap remoteAddress).getLast? = some address ∧ address ≠ ""
  domains : u.current.filterMap dnsServer = [] → u.current.filterMap searchDomain = []
  autoConfig : (u.current.filterMap (proxyAutoConfigUrl p)).length ≤ 1
  http : (u.current.filterMap httpProxy).length ≤ 1
  https : (u.current.filterMap httpsProxy).length ≤ 1
  dropped : NothingDropped p u

variable {p tunPersist}

/-! The setters of a run, against the sessions of the settings builder. -/

theorem session_concat (a : Adapter) (cs : List Call) (c : Call) :
    session p a (cs ++ [c]) = (answer (client p) (session p a cs) c).2 := by
  rw [session, session, after_append, after_cons, after_nil]

theorem acceptedCalls_concat (a : Adapter) (cs : List Call) (c : Call) :
    acceptedCalls p a (cs ++ [c]) =
      acceptedCalls p a cs ++ if (answer (client p) (session p a cs) c).1 then [c] else [] := by
  rw [acceptedCalls, acceptedCalls, accepted_append, accepted, accepted, List.append_nil]
  rfl

theorem react_setter (s : State) (c : Call) :
    (react p tunPersist s (.setter c)).2.adapter = (answer (client p) s.adapter c).2 ∧
      ((react p tunPersist s (.setter c)).1.returned = .bool true ↔ (answer (client p) s.adapter c).1 = true) := by
  cases h : client p s.adapter c with
  | error e => simp [react, answer, h]
  | ok r => simp [react, answer, h]

theorem establish_adapter (delegate : TunnelConfiguration) (calls : SocketCalls) (s : State) :
    (establish delegate calls s).2.adapter = s.adapter := by
  rw [establish]
  cases s.adapter.builder.networkSettings <;> rfl

/-- The adapter holds what the current session made of it, and the setters that returned true are those of
the sessions dropped and of the current one. -/
structure Tracks (a : Adapter) (r : State × List Call) (u : Setters) : Prop where
  adapter : r.1.adapter = session p a u.current
  accepted : r.2 = u.dropped.flatMap (acceptedCalls p a) ++ acceptedCalls p a u.current

variable {a : Adapter} {r : State × List Call} {u : Setters}

theorem Tracks.next (h : Tracks (p := p) a r u) (c : Callback) :
    Tracks (p := p) a (track p tunPersist r c) (u.next c) := by
  obtain ⟨s, acc⟩ := r
  cases c with
  | tunBuilderNew => exact ⟨rfl, rfl⟩
  | tunBuilderTeardown disconnect =>
      refine ⟨rfl, h.accepted.trans ?_⟩
      rw [Setters.next, List.flatMap_append, List.flatMap_singleton]
      exact (List.append_nil _).symm
  | setter c =>
      obtain ⟨hadapter, hreturned⟩ := @react_setter p tunPersist s c
      have hs : s.adapter = session p a u.current := h.adapter
      rw [hs] at hadapter hreturned
      refine ⟨hadapter.trans (session_concat a u.current c).symm, ?_⟩
      simp only [track, hreturned, Setters.next, acceptedCalls_concat, ← List.append_assoc, ← h.accepted]
      split <;> simp
  | tunBuilderEstablish delegate calls => exact ⟨(establish_adapter delegate calls s).trans h.adapter, h.accepted⟩
  | tunBuilderPersist | tunBuilderGetLocalNetworks | tunBuilderEstablishLite => exact h

theorem tracks_run (h : Tracks (p := p) a r u) (cs : List Callback) :
    Tracks (p := p) a (cs.foldl (track p tunPersist) r) (cs.foldl Setters.next u) := by
  induction cs generalizing r u with
  | nil => exact h
  | cons c cs ih => exact ih (h.next c)

theorem track_final (r : State × List Call) (cs : List Callback) :
    (cs.foldl (track p tunPersist) r).1 = final (react p tunPersist) r.1 cs := by
  induction cs generalizing r with
  | nil => rfl
  | cons c cs ih => exact ih _

theorem tracks_fromNew (a : Adapter) (s : State) (cs : List Callback) :
    Tracks (p := p) a (final (react p tunPersist) s (.tunBuilderNew :: cs),
      returnedTrue p tunPersist s (.tunBuilderNew :: cs))
      (setters (.tunBuilderNew :: cs)) := by
  have h : Tracks (p := p) a (track p tunPersist (s, []) .tunBuilderNew) (Setters.next ⟨[], []⟩ .tunBuilderNew) :=
    ⟨rfl, rfl⟩
  have hrun := @tracks_run p tunPersist a _ _ h cs
  exact ⟨(congrArg State.adapter (track_final (s, []) (.tunBuilderNew :: cs))).symm.trans hrun.adapter,
      hrun.accepted⟩

/-! What the setters of a session were told they took. -/

/-- A request for both default routes that finds the IPv4 one free finds all IPv6 routes asked for before. -/
theorem answer_ipv4Route (a : Adapter) (pre : List Call) {c : Call} {k : String × String}
    (h : ipv4Route p c = some k) :
    (answer (client p) (session p a pre) c).1 = true ↔
      k ∉ pre.filterMap (ipv4Route p) ∧ ¬(asksBoth c = true ∧ defaultV6 ∈ pre.filterMap ipv6Route) := by
  cases c with
  | addRoute address prefixLength metric ipv6 =>
      cases ipv6 with
      | true => cases h
      | false =>
          cases hm : subnetMask p prefixLength with
          | error e => simp [hm, Except.toOption] at h
          | ok mask =>
              obtain rfl : (cStr address, mask) = k := by simpa [hm, Except.toOption] using h
              have hrefused := addIPv4Route_refused_iff (session p a pre).builder ⟨cStr address, mask, none⟩
              rw [ipv4_held] at hrefused
              have hanswer :
                  (answer (client p) (session p a pre) (.addRoute address prefixLength metric false)).1 =
                  (addIPv4Route (session p a pre).builder ⟨cStr address, mask, none⟩).1 := by
                simp only [answer, client, tunBuilderAddRoute, hm, Bool.false_eq_true, if_false]
                rfl
              rw [hanswer, ← Bool.not_eq_false]
              refine hrefused.not.trans ⟨fun hnew => ⟨hnew, fun hboth => Bool.noConfusion hboth.1⟩, And.left⟩
  | rerouteGw ipv4 ipv6 flags =>
      cases ipv4 with
      | false => cases ipv6 <;> cases h
      | true =>
          obtain rfl : defaultV4 = k := Option.some.inj h
          have hiff := tunBuilderRerouteGw_accepted_iff p (session p a pre).builder true ipv6
          rw [ipv4_held] at hiff
          refine hiff.trans ?_
          simp only [forall_true_left]
          apply and_congr_right
          intro hfree
          have hnone : ∀ c ∈ pre, ∀ ipv6 flags, c ≠ .rerouteGw true ipv6 flags := by
            rintro c hc ipv6 flags rfl
            exact hfree (List.mem_filterMap.mpr ⟨_, hc, rfl⟩)
          rw [ipv6_held p a hnone]
          cases ipv6 <;> simp [asksBoth]
  | _ => cases h

theorem newRoute_eq (a : Adapter) (pre : List Call) (c : Call) :
    (if (answer (client p) (session p a pre) c).1 then [c] else []).filterMap (ipv4Route p) =
      (newRoute p pre c).toList := by
  cases hc : ipv4Route p c with
  | none =>
      rw [newRoute, hc, Option.filter_none]
      split
      · exact List.filterMap_cons_none hc
      · rfl
  | some k =>
      have hiff := answer_ipv4Route a pre hc
      rw [newRoute, hc, Option.filter_some]
      by_cases hok : (answer (client p) (session p a pre) c).1 = true
      · rw [if_pos hok, if_pos (decide_eq_true (hiff.mp hok)), List.filterMap_cons_some hc]
        rfl
      · rw [if_neg hok, if_neg (by rw [decide_eq_true_iff]; exact mt hiff.mpr hok)]
        rfl

theorem accepted_ipv4Route (a : Adapter) (pre cs : List Call) :
    (accepted (answer (client p)) (session p a pre) cs).filterMap (ipv4Route p) = newRoutes p pre cs := by
  induction cs generalizing pre with
  | nil => rfl
  | cons c cs ih => rw [accepted, List.filterMap_append, newRoute_eq, ← session_concat, ih, newRoutes]

theorem acceptedCalls_ipv4Route (a : Adapter) (cs : List Call) :
    (acceptedCalls p a cs).filterMap (ipv4Route p) = newRoutes p [] cs := accepted_ipv4Route a [] cs

theorem noIPv6Route_concat (cs : List Call) (c : Call) : NoIPv6Route p (cs ++ [c]) ↔
    NoIPv6Route p cs ∧ ((ipv6Route c).isSome → asksBoth c = true ∧ defaultV4 ∈ cs.filterMap (ipv4Route p)) := by
  constructor
  · intro h
    refine ⟨fun pre d post hcs => h pre d (post ++ [c]) (by rw [hcs]; simp), h cs c [] rfl⟩
  · rintro ⟨hcs, hc⟩ pre d post heq
    rcases List.eq_nil_or_concat post with rfl | ⟨post, e, rfl⟩
    · obtain ⟨rfl, rfl⟩ := List.append_inj' heq rfl |>.imp id List.singleton_inj.mp
      exact hc
    · rw [List.concat_eq_append, ← List.cons_append, ← List.append_assoc] at heq
      exact hcs pre d post (List.append_inj' heq rfl).1

/-- A setter that finds no IPv6 route takes its own, unless its IPv4 half is refused. -/
theorem answer_firstIPv6Route (a : Adapter) (cs : List Call) {c : Call}
    (hnone : (session p a cs).builder.ipv6IncludedRoutes = []) :
    ((answer (client p) (session p a cs) c).1 = true → ipv6Route c = none) ↔
      ((ipv6Route c).isSome → asksBoth c = true ∧ defaultV4 ∈ cs.filterMap (ipv4Route p)) := by
  cases c with
  | addRoute address prefixLength metric ipv6 =>
      cases ipv6 with
      | false => exact iff_of_true (fun _ => rfl) (fun h => Bool.noConfusion h)
      | true =>
          have htaken :
              (answer (client p) (session p a cs) (.addRoute address prefixLength metric true)).1 = true := by
            simp [answer, client, tunBuilderAddRoute, Except.map, onBuilder, addIPv6Route, appendNew, hnone]
          exact iff_of_false (fun h => Option.some_ne_none _ (h htaken)) (fun h => Bool.noConfusion (h rfl).1)
  | rerouteGw ipv4 ipv6 flags =>
      cases ipv6 with
      | false => cases ipv4 <;> exact iff_of_true (fun _ => rfl) (fun h => Bool.noConfusion h)
      | true =>
          have htaken : (answer (client p) (session p a cs) (.rerouteGw ipv4 true flags)).1 = true ↔
              (ipv4 = true → defaultV4 ∉ cs.filterMap (ipv4Route p)) := by
            have hiff := tunBuilderRerouteGw_accepted_iff p (session p a cs).builder ipv4 true
            rw [ipv4_held, hnone] at hiff
            exact hiff.trans (and_iff_left fun _ => List.not_mem_nil)
          rw [htaken]
          cases ipv4 with
          | false =>
              exact iff_of_false (fun h => Option.some_ne_none _ (h Bool.noConfusion))
                  (fun h => Bool.noConfusion (h rfl).1)
          | true =>
              refine ⟨fun h _ => ⟨rfl, not_not.mp fun hfree => Option.some_ne_none _ (h fun _ => hfree)⟩,
                  fun h hfree => ?_⟩
              exact absurd (h rfl).2 (hfree rfl)
  | _ => exact iff_of_true (fun _ => rfl) (fun h => Bool.noConfusion h)

theorem acceptedCalls_ipv6Route (a : Adapter) (cs : List Call) :
    (acceptedCalls p a cs).filterMap ipv6Route = [] ↔ NoIPv6Route p cs := by
  induction cs using List.reverseRecOn with
  | nil => exact iff_of_true rfl fun pre c post h => by simp at h
  | append_singleton cs c ih =>
      rw [acceptedCalls_concat, List.filterMap_append, List.append_eq_nil_iff, noIPv6Route_concat, ← ih]
      apply and_congr_right
      intro hnone
      have hroutes := (holds_session p a cs).ipv6Included
      rw [hnone, List.map_eq_nil_iff] at hroutes
      rw [← answer_firstIPv6Route a cs hroutes]
      cases (answer (client p) (session p a cs) c).1 with
      | false => exact iff_of_true rfl fun h => Bool.noConfusion h
      | true => simp only [if_true, List.filterMap_eq_nil_iff, List.mem_singleton, forall_eq, forall_true_left]

theorem acceptedCalls_ipv4Excluded (a : Adapter) (cs : List Call) :
    (acceptedCalls p a cs).filterMap (ipv4ExcludedRoute p) = [] ↔ cs.filterMap (ipv4ExcludedRoute p) = [] := by
  refine collected_eq_nil_iff (fun a : Adapter => a.builder.ipv4ExcludedRoutes.map keyV4) (ipv4ExcludedRoute p)
    (fun s c => (effect_answer p s c).ipv4Excluded) (fun s c hs h => ?_) rfl cs
  rw [List.map_eq_nil_iff] at hs
  cases c
  case excludeRoute address prefixLength metric ipv6 =>
    cases ipv6 with
    | true => cases h
    | false =>
        cases hm : subnetMask p prefixLength with
        | error e => simp [hm, Except.toOption] at h
        | ok mask =>
            simp [answer, client, tunBuilderExcludeRoute, hm, Except.map, onBuilder, excludeIPv4Route,
                appendNew, hs]
  all_goals cases h

theorem acceptedCalls_ipv6Excluded (a : Adapter) (cs : List Call) :
    (acceptedCalls p a cs).filterMap ipv6ExcludedRoute = [] ↔ cs.filterMap ipv6ExcludedRoute = [] := by
  refine collected_eq_nil_iff (fun a : Adapter => a.builder.ipv6ExcludedRoutes.map keyV6) ipv6ExcludedRoute
    (fun s c => (effect_answer p s c).ipv6Excluded) (fun s c hs h => ?_) rfl cs
  rw [List.map_eq_nil_iff] at hs
  cases c
  case excludeRoute address prefixLength metric ipv6 =>
    cases ipv6 with
    | true => simp [answer, client, tunBuilderExcludeRoute, Except.map, onBuilder, excludeIPv6Route, appendNew, hs]
    | false => cases h
  all_goals cases h

theorem acceptedCalls_proxyBypass (a : Adapter) (cs : List Call) :
    (acceptedCalls p a cs).filterMap proxyBypass = [] ↔ cs.filterMap proxyBypass = [] := by
  refine collected_eq_nil_iff (fun a : Adapter => a.builder.proxyExceptionList) proxyBypass
    (fun s c => (effect_answer p s c).proxyExceptions) (fun s c hs h => ?_) rfl cs
  cases c
  case addProxyBypass host => simp [answer, client, onBuilder, addProxyBypassHost, appendNew, hs]
  all_goals cases h

/-- What is asked for first is taken, so nothing is taken only where nothing is asked for. -/
theorem dropped_eq_nil_iff {β : Type} {shows : Call → Option β}
    (h : ∀ cs, (acceptedCalls p a cs).filterMap shows = [] ↔ cs.filterMap shows = [])
    (dropped : List (List Call)) :
    (dropped.flatMap (acceptedCalls p a)).filterMap shows = [] ↔ dropped.flatten.filterMap shows = [] := by
  induction dropped with
  | nil => rfl
  | cons cs dropped ih =>
      rw [List.flatMap_cons, List.flatten_cons, List.filterMap_append, List.filterMap_append,
        List.append_eq_nil_iff, List.append_eq_nil_iff, h, ih]

/-! The included IPv4 routes, of which one may be left behind by a request that is refused. -/

theorem newRoutes_append (pre cs ds : List Call) :
    newRoutes p pre (cs ++ ds) = newRoutes p pre cs ++ newRoutes p (pre ++ cs) ds := by
  induction cs generalizing pre with
  | nil => rw [List.append_nil]; rfl
  | cons c cs ih =>
      rw [List.cons_append, newRoutes, newRoutes, ih, List.append_assoc, List.append_assoc, List.singleton_append]

theorem HalfAppliedFirst.halfApplied {cs : List Call} (h : HalfAppliedFirst p cs) : HalfApplied p cs := by
  obtain ⟨pre, flags, post, hcs, hnone, h6⟩ := h
  exact ⟨pre, flags, post, hcs, by rw [hnone]; exact List.not_mem_nil, h6⟩

theorem not_halfApplied_of_free {cs : List Call} (h : defaultV4 ∉ cs.filterMap (ipv4Route p)) :
    ¬ HalfApplied p cs := by
  rintro ⟨pre, flags, post, rfl, -⟩
  exact h (List.mem_filterMap.mpr ⟨.rerouteGw true true flags, by simp, rfl⟩)

/-- Up to the request that leaves the default route behind, and after it, nothing else is left behind. -/
theorem ipv4Included_halfApplied (a : Adapter) {pre : List Call} (post : List Call) (flags : BitVec 32)
    (h4 : defaultV4 ∉ pre.filterMap (ipv4Route p)) (h6 : defaultV6 ∈ pre.filterMap ipv6Route) :
    let c : Call := .rerouteGw true true flags
    (session p a (pre ++ c :: post)).builder.ipv4IncludedRoutes.map keyV4 =
        newRoutes p [] pre ++ defaultV4 :: newRoutes p (pre ++ [c]) post ∧
      newRoutes p [] (pre ++ c :: post) = newRoutes p [] pre ++ newRoutes p (pre ++ [c]) post := by
  intro c
  have hpre : (session p a pre).builder.ipv4IncludedRoutes.map keyV4 = newRoutes p [] pre := by
    rw [(ipv4Included_iff p a pre).mpr (not_halfApplied_of_free h4), acceptedCalls_ipv4Route]
  have hrefused : (answer (client p) (session p a pre) c).1 = false := by
    refine Bool.eq_false_iff.mpr fun hok => ?_
    exact ((answer_ipv4Route a pre rfl).mp hok).2 ⟨rfl, h6⟩
  have hleft : leftBehind p (session p a pre) c = [defaultV4] := by
    have hne := (leftBehind_session p a pre c).mpr ⟨⟨flags, rfl⟩, h4, h6⟩
    rw [leftBehind] at hne ⊢
    split at hne
    · rw [if_pos ‹_›]
      rfl
    · exact absurd rfl hne
  have hstep : (session p a (pre ++ [c])).builder.ipv4IncludedRoutes.map keyV4 = newRoutes p [] pre ++
      [defaultV4] := by
    rw [session_concat, (effect_answer p (session p a pre) c).ipv4Included, hrefused, hleft, hpre,
      if_neg Bool.false_ne_true, List.append_nil]
  have hafter : session p a (pre ++ c :: post) = after (answer (client p)) (session p a (pre ++ [c])) post := by
    rw [session, session, ← after_append, List.append_assoc, List.singleton_append]
  have hpost :=
    (collected_iff (fun a : Adapter => a.builder.ipv4IncludedRoutes.map keyV4) (ipv4Route p) (leftBehind p)
    (fun s c => (effect_answer p s c).ipv4Included) (session p a (pre ++ [c])) post).mpr fun pre' d post' hd => by
      by_contra hne
      rw [session, ← after_append] at hne
      refine ((leftBehind_session p a (pre ++ [c] ++ pre') d).mp hne).2.1 ?_
      exact List.mem_filterMap.mpr ⟨c, by simp, rfl⟩
  constructor
  · rw [hafter, hpost, hstep, accepted_ipv4Route, List.append_assoc, List.singleton_append]
  · have hnone : newRoute p pre c = none := by
      rw [newRoute, ipv4Route, Option.filter_some, if_neg]
      rw [decide_eq_true_iff]
      exact fun h => h.2 ⟨rfl, h6⟩
    rw [newRoutes_append, List.nil_append, newRoutes, hnone]
    rfl

theorem insert_eq_append_iff {β : Type} {xs ys zs : List β} {x : β} (h : x ∉ xs) :
    xs ++ x :: zs = ys ++ (xs ++ zs) ↔ ys = [x] ∧ xs = [] := by
  refine ⟨fun heq => ?_, fun ⟨hys, hxs⟩ => by rw [hys, hxs]; rfl⟩
  have hlength := congrArg List.length heq
  simp only [List.length_append, List.length_cons] at hlength
  obtain ⟨y, rfl⟩ := List.length_eq_one_iff.mp (show ys.length = 1 by omega)
  cases xs with
  | nil => exact ⟨congrArg (fun y => [y]) (List.cons.inj heq).1.symm, rfl⟩
  | cons w ws =>
      -- the inserted value would stand last in `w :: ws`
      have htail : ws ++ [x] ++ zs = w :: ws ++ zs := by
        rw [List.append_assoc]
        exact (List.cons.inj heq).2
      have hlast := List.append_cancel_right htail
      exact absurd (hlast ▸ List.mem_append_right ws (List.mem_singleton_self x)) h

theorem ipv4Included_eq_iff (a : Adapter) (cs : List Call) (routes : List (String × String)) :
    (session p a cs).builder.ipv4IncludedRoutes.map keyV4 = routes ++ newRoutes p [] cs ↔
      (routes = [] ∧ ¬ HalfApplied p cs) ∨ (routes = [defaultV4] ∧ HalfAppliedFirst p cs) := by
  by_cases hhalf : HalfApplied p cs
  · have hfalse : ¬(routes = [] ∧ ¬ HalfApplied p cs) := fun h => h.2 hhalf
    rw [or_iff_right hfalse]
    have hsplit : ∀ pre flags post, cs = pre ++ .rerouteGw true true flags :: post →
        defaultV4 ∉ pre.filterMap (ipv4Route p) → defaultV6 ∈ pre.filterMap ipv6Route →
        ((session p a cs).builder.ipv4IncludedRoutes.map keyV4 = routes ++ newRoutes p [] cs ↔
          routes = [defaultV4] ∧ pre.filterMap (ipv4Route p) = []) := by
      rintro pre flags post rfl h4 h6
      obtain ⟨hheld, hnew⟩ := ipv4Included_halfApplied a post flags h4 h6
      have hmem (k : String × String) : k ∈ newRoutes p [] pre ↔ k ∈ pre.filterMap (ipv4Route p) := by
        rw [← acceptedCalls_ipv4Route a, ← (ipv4Included_iff p a pre).mpr (not_halfApplied_of_free h4), ipv4_held]
      rw [hheld, hnew, insert_eq_append_iff (mt (hmem defaultV4).mp h4)]
      apply and_congr_right
      intro _
      rw [List.eq_nil_iff_forall_not_mem, List.eq_nil_iff_forall_not_mem]
      exact forall_congr' fun k => (hmem k).not
    by_cases hfirst : HalfAppliedFirst p cs
    · obtain ⟨pre, flags, post, hcs, hnone, h6⟩ := id hfirst
      rw [hsplit pre flags post hcs (by rw [hnone]; exact List.not_mem_nil) h6]
      exact and_congr_right fun _ => iff_of_true hnone hfirst
    · obtain ⟨pre, flags, post, hcs, h4, h6⟩ := hhalf
      rw [hsplit pre flags post hcs h4 h6]
      exact and_congr_right fun _ => iff_of_false (fun hnone => hfirst ⟨pre, flags, post, hcs, hnone, h6⟩) hfirst
  · have hfirst : ¬(routes = [defaultV4] ∧ HalfAppliedFirst p cs) := fun h => hhalf h.2.halfApplied
    rw [or_iff_left hfirst, (ipv4Included_iff p a cs).mpr hhalf, acceptedCalls_ipv4Route, List.self_eq_append_left]
    exact (and_iff_left hhalf).symm

theorem getLast?_toList_eq_append_iff {β : Type} {xs ys : List β} :
    xs.getLast?.toList = ys ++ xs ↔ ys = [] ∧ xs.length ≤ 1 := by
  constructor
  · intro h
    have hys : ys = [] := by
      have hlength := congrArg List.length h
      cases xs with
      | nil => simpa using h.symm
      | cons x xs =>
          have hle := Option.length_toList_le (o := (x :: xs).getLast?)
          rw [List.length_append, List.length_cons] at hlength
          exact List.length_eq_zero_iff.mp (by omega)
    subst hys
    exact ⟨rfl, (getLast?_toList_eq_iff xs).mp h⟩
  · rintro ⟨rfl, hle⟩
    exact (getLast?_toList_eq_iff xs).mpr hle

theorem getLast?_eq_append_iff {β : Type} {xs ys : List β} :
    xs.getLast? = (ys ++ xs).getLast? ↔ (xs = [] → ys = []) := by
  cases xs with
  | nil => simp [eq_comm]
  | cons x xs =>
      rw [List.getLast?_append, List.getLast?_cons]
      exact iff_of_true rfl fun h => by cases h

/-- Something is handed over exactly when there is a remote address; it is what the builder holds. -/
theorem exact_iff_content (a : Adapter) (s : State) (cs : List Callback) (delegate : TunnelConfiguration)
    (calls : SocketCalls) :
    Exact p tunPersist s (.tunBuilderNew :: cs) delegate calls ↔
      (∃ address, ((setters (.tunBuilderNew :: cs)).current.filterMap remoteAddress).getLast? = some address ∧
        address ≠ "") ∧
      Content.ofBuilder (session p a (setters (.tunBuilderNew :: cs)).current).builder =
        Content.ofCalls p (returnedTrue p tunPersist s (.tunBuilderNew :: cs)) := by
  have htracks := @tracks_fromNew p tunPersist a s cs
  generalize setters (.tunBuilderNew :: cs) = u at htracks ⊢
  have hadapter : (final (react p tunPersist) s (.tunBuilderNew :: cs)).adapter = session p a u.current :=
      htracks.adapter
  have hremote := (holds_session p a u.current).remoteAddress
  rw [acceptedCalls, filterMap_accepted remoteAddress (answer_of_remoteAddress p)] at hremote
  have hflags := flags_session p a u.current
  simp only [Exact, establish, hadapter]
  constructor
  · rintro ⟨settings, hhanded, hcontent⟩
    cases hs : (session p a u.current).builder.networkSettings with
    | none => simp [hs] at hhanded
    | some settings' =>
        obtain rfl : settings' = settings := by simpa [hs] using hhanded
        refine ⟨?_, (ofSettings_networkSettings hflags hs).symm.trans hcontent⟩
        rw [← hremote]
        cases haddr : (session p a u.current).builder.remoteAddress with
        | none => simp [Builder.networkSettings, haddr] at hs
        | some address =>
            refine ⟨address, rfl, ?_⟩
            rintro rfl
            simp [Builder.networkSettings, haddr] at hs
  · rintro ⟨⟨address, haddr, hne⟩, hcontent⟩
    obtain ⟨settings, hs⟩ : ∃ settings, (session p a u.current).builder.networkSettings = some settings := by
      simp [Builder.networkSettings, hremote, haddr, hne]
    exact ⟨settings, by simp only [hs], (ofSettings_networkSettings hflags hs).trans hcontent⟩

theorem ite_nil_eq_ite_iff {β : Type} {q : Prop} [Decidable q] {xs ys : List β} :
    ((if q then [] else xs) = if q then [] else ys) ↔ (q ∨ xs = ys) := by
  by_cases hq : q
  · rw [if_pos hq, if_pos hq]
    exact iff_of_true rfl (.inl hq)
  · rw [if_neg hq, if_neg hq, or_iff_right hq]

theorem ite_nil_eq_append_iff {β : Type} {q : Prop} [Decidable q] {xs ys : List β} :
    (if q then [] else xs) = ys ++ xs ↔ ys = [] ∧ (q → xs = []) := by
  by_cases hq : q
  · rw [if_pos hq, eq_comm, List.append_eq_nil_iff]
    exact and_congr_right fun _ => ⟨fun h _ => h, fun h => h hq⟩
  · rw [if_neg hq, List.self_eq_append_left]
    exact ⟨fun h => ⟨h, fun h => absurd h hq⟩, And.left⟩

/-- Where the sessions dropped have taken no address and no proxy, the rest is compared part by part. -/
theorem content_iff_of_dropped {b : Builder} {dropped acc : List Call} (H : Holds p acc b)
    (h4 : dropped.filterMap (ipv4Address p) = []) (h6 : dropped.filterMap ipv6Address = [])
    (hauto : dropped.filterMap (proxyAutoConfigUrl p) = []) (hhttp : dropped.filterMap httpProxy = [])
    (hhttps : dropped.filterMap httpsProxy = []) (hremote : acc.filterMap remoteAddress ≠ []) :
    Content.ofBuilder b = Content.ofCalls p (dropped ++ acc) ↔
      (acc.filterMap (ipv4Address p) = [] ∨
        b.ipv4IncludedRoutes.map keyV4 = dropped.filterMap (ipv4Route p) ++ acc.filterMap (ipv4Route p)) ∧
      (acc.filterMap (ipv4Address p) = [] ∨ dropped.filterMap (ipv4ExcludedRoute p) = []) ∧
      (acc.filterMap ipv6Address = [] ∨ dropped.filterMap ipv6Route = []) ∧
      (acc.filterMap ipv6Address = [] ∨ dropped.filterMap ipv6ExcludedRoute = []) ∧
      dropped.filterMap dnsServer = [] ∧
      (dropped.filterMap searchDomain = [] ∧ (acc.filterMap dnsServer = [] → acc.filterMap searchDomain = [])) ∧
      (acc.filterMap AcceptedValues.mtu = [] → dropped.filterMap AcceptedValues.mtu = []) ∧
      (acc.filterMap (proxyAutoConfigUrl p)).length ≤ 1 ∧ (acc.filterMap httpProxy).length ≤ 1 ∧
      (acc.filterMap httpsProxy).length ≤ 1 ∧
      (acc.any (setsProxy p) = true → dropped.filterMap proxyBypass = []) := by
  have hany : (dropped ++ acc).any (setsProxy p) = acc.any (setsProxy p) := by
    rw [any_setsProxy, any_setsProxy, List.filterMap_append, List.filterMap_append, List.filterMap_append,
      hauto, hhttp,
      hhttps]
    rfl
  have hbypass : (if acc.any (setsProxy p) then acc.filterMap proxyBypass else []) =
      (if acc.any (setsProxy p) then dropped.filterMap proxyBypass ++ acc.filterMap proxyBypass else []) ↔
        (acc.any (setsProxy p) = true → dropped.filterMap proxyBypass = []) := by
    cases acc.any (setsProxy p) with
    | false => exact iff_of_true rfl fun h => Bool.noConfusion h
    | true => exact List.self_eq_append_left.trans ⟨fun h _ => h, fun h => h rfl⟩
  rw [Content.ext_iff]
  simp only [Content.ofBuilder, Content.ofCalls, H.remoteAddress, H.ipv4Addresses, H.ipv4Masks, H.ipv4Excluded,
    H.ipv6Addresses, H.ipv6PrefixLengths, H.ipv6Included, H.ipv6Excluded, H.dnsServers, H.searchDomains, H.mtu,
    H.autoConfigUrl, H.httpServer, H.httpsServer, H.proxyExceptions, ← any_setsProxy, hany]
  have hmasks : (if acc.filterMap (ipv4Address p) = [] then [] else (acc.filterMap (ipv4Address p)).map Prod.snd) =
      (acc.filterMap (ipv4Address p)).map Prod.snd := by
    split
    · next hnil => rw [hnil]; rfl
    · rfl
  have hlengths : (if acc.filterMap ipv6Address = [] then [] else (acc.filterMap ipv6Address).map Prod.snd) =
      (acc.filterMap ipv6Address).map Prod.snd := by
    split
    · next hnil => rw [hnil]; rfl
    · rfl
  simp only [List.filterMap_append, h4, h6, hauto, hhttp, hhttps, List.nil_append, List.map_eq_nil_iff,
    getLast?_toList_eq_iff, getLast?_eq_append_iff, ite_nil_eq_ite_iff, ite_nil_eq_append_iff,
    List.self_eq_append_left, hremote, false_imp_iff, true_and, hmasks, hlengths, hbypass]

theorem answer_of_mtu (a : Adapter) (c : Call) (h : (AcceptedValues.mtu c).isSome) :
    (answer (client p) a c).1 = true := by
  cases c <;> first | rfl | cases h

theorem acceptedCalls_setsProxy (a : Adapter) (cs : List Call) :
    (acceptedCalls p a cs).any (setsProxy p) = cs.any (setsProxy p) := by
  rw [any_setsProxy, any_setsProxy, acceptedCalls, filterMap_accepted _ (answer_of_proxyAutoConfigUrl p),
    filterMap_accepted _ (answer_of_httpProxy p), filterMap_accepted _ (answer_of_httpsProxy p)]

/-- For the setters that return true whenever they are called. -/
theorem dropped_taken {β : Type} {shows : Call → Option β}
    (h : ∀ (a : Adapter) c, (shows c).isSome → (answer (client p) a c).1 = true) (a : Adapter)
    (dropped : List (List Call)) :
    (dropped.flatMap (acceptedCalls p a)).filterMap shows = [] ↔ dropped.flatten.filterMap shows = [] :=
  dropped_eq_nil_iff (fun cs => by rw [acceptedCalls, filterMap_accepted shows h]) dropped

theorem dropped_ipv4Routes (a : Adapter) (dropped : List (List Call)) :
    (dropped.flatMap (acceptedCalls p a)).filterMap (ipv4Route p) = dropped.flatMap (newRoutes p []) := by
  rw [List.filterMap_flatMap]
  exact List.flatMap_congr fun cs _ => acceptedCalls_ipv4Route a cs

theorem dropped_ipv6Routes (a : Adapter) (dropped : List (List Call)) :
    (dropped.flatMap (acceptedCalls p a)).filterMap ipv6Route = [] ↔ ∀ cs ∈ dropped, NoIPv6Route p cs := by
  rw [List.filterMap_flatMap, List.flatMap_eq_nil_iff]
  exact forall₂_congr fun cs _ => acceptedCalls_ipv6Route a cs

/-- The settings that are handed over are exact if and only if nothing that was taken lies outside what the
builder passes on, or was dropped by a teardown. -/
theorem handed_iff_kept (s : State) (cs : List Callback) (delegate : TunnelConfiguration) (calls : SocketCalls) :
    Exact p tunPersist s (.tunBuilderNew :: cs) delegate calls ↔ Kept p (setters (.tunBuilderNew :: cs)) := by
  let a : Adapter := ⟨.empty, none⟩
  have haccepted : returnedTrue p tunPersist s (.tunBuilderNew :: cs) =
      (setters (.tunBuilderNew :: cs)).dropped.flatMap (acceptedCalls p a) ++
        acceptedCalls p a (setters (.tunBuilderNew :: cs)).current := (tracks_fromNew a s cs).accepted
  rw [exact_iff_content a, haccepted]
  generalize setters (.tunBuilderNew :: cs) = u
  have H := holds_session p a u.current
  have hiff (h4 : u.dropped.flatten.filterMap (ipv4Address p) = [])
      (h6 : u.dropped.flatten.filterMap ipv6Address = [])
      (hauto : u.dropped.flatten.filterMap (proxyAutoConfigUrl p) = [])
      (hhttp : u.dropped.flatten.filterMap httpProxy = [])
      (hhttps : u.dropped.flatten.filterMap httpsProxy = [])
      (hremote : ∃ address, (u.current.filterMap remoteAddress).getLast? = some address ∧ address ≠ "") :
      Content.ofBuilder (session p a u.current).builder =
        Content.ofCalls p (u.dropped.flatMap (acceptedCalls p a) ++ acceptedCalls p a u.current) ↔ Kept p u := by
    have hremote' : (acceptedCalls p a u.current).filterMap remoteAddress ≠ [] := by
      rw [acceptedCalls, filterMap_accepted remoteAddress (answer_of_remoteAddress p)]
      obtain ⟨address, haddr, -⟩ := hremote
      intro hnil
      rw [hnil] at haddr
      cases haddr
    rw [content_iff_of_dropped H ((dropped_taken (answer_of_ipv4Address p) a _).mpr h4)
      ((dropped_taken (answer_of_ipv6Address p) a _).mpr h6)
      ((dropped_taken (answer_of_proxyAutoConfigUrl p) a _).mpr hauto)
      ((dropped_taken (answer_of_httpProxy p) a _).mpr hhttp)
      ((dropped_taken (answer_of_httpsProxy p) a _).mpr hhttps) hremote',
      dropped_ipv4Routes, acceptedCalls_ipv4Route, ipv4Included_eq_iff, dropped_ipv6Routes,
      dropped_eq_nil_iff (acceptedCalls_ipv4Excluded a), dropped_eq_nil_iff (acceptedCalls_ipv6Excluded a),
      dropped_eq_nil_iff (acceptedCalls_dns p a), dropped_eq_nil_iff (acceptedCalls_domains p a),
      dropped_eq_nil_iff (acceptedCalls_proxyBypass a), dropped_taken answer_of_mtu, acceptedCalls_setsProxy,
      acceptedCalls_dns, acceptedCalls_domains]
    simp only [acceptedCalls, filterMap_accepted _ (answer_of_ipv4Address p),
      filterMap_accepted _ (answer_of_ipv6Address p),
      filterMap_accepted _ (answer_of_proxyAutoConfigUrl p), filterMap_accepted _ (answer_of_httpProxy p),
      filterMap_accepted _ (answer_of_httpsProxy p), filterMap_accepted _ answer_of_mtu]
    constructor
    · rintro ⟨hincluded, hexcluded, hincluded6, hexcluded6, hdns, ⟨hdropped, hdomains⟩, hmtu, honce,
        honceHttp, honceHttps, hbypass⟩
      exact ⟨hremote, hdomains, honce, honceHttp, honceHttps, h4, h6, hincluded, hexcluded, hincluded6,
        hexcluded6, hdns,
        hdropped, hmtu, hauto, hhttp, hhttps, hbypass⟩
    · rintro ⟨-, hdomains, honce, honceHttp, honceHttps, -, -, hincluded, hexcluded, hincluded6, hexcluded6,
        hdns, hdropped,
        hmtu, -, -, -, hbypass⟩
      exact ⟨hincluded, hexcluded, hincluded6, hexcluded6, hdns, ⟨hdropped, hdomains⟩, hmtu, honce,
          honceHttp, honceHttps, hbypass⟩
  constructor
  · rintro ⟨hremote, hcontent⟩
    have h4 := congrArg Content.ipv4Addresses hcontent
    have h6 := congrArg Content.ipv6Addresses hcontent
    have hauto := congrArg Content.autoConfigUrls hcontent
    have hhttp := congrArg Content.httpServers hcontent
    have hhttps := congrArg Content.httpsServers hcontent
    simp only [Content.ofBuilder, Content.ofCalls, H.ipv4Addresses, H.ipv6Addresses, H.autoConfigUrl, H.httpServer,
      H.httpsServer, List.filterMap_append, List.map_append, List.self_eq_append_left, List.map_eq_nil_iff,
      getLast?_toList_eq_append_iff] at h4 h6 hauto hhttp hhttps
    exact (hiff ((dropped_taken (answer_of_ipv4Address p) a _).mp h4)
      ((dropped_taken (answer_of_ipv6Address p) a _).mp h6)
      ((dropped_taken (answer_of_proxyAutoConfigUrl p) a _).mp hauto.1)
      ((dropped_taken (answer_of_httpProxy p) a _).mp hhttp.1)
      ((dropped_taken (answer_of_httpsProxy p) a _).mp hhttps.1) hremote).mp hcontent
  · intro h
    have hdropped := h.dropped
    exact ⟨h.remote,
      (hiff hdropped.ipv4Addresses hdropped.ipv6Addresses hdropped.autoConfig hdropped.http hdropped.https
      h.remote).mpr h⟩

def samplePlatform : Platform where
  sys := .ofTable [("255.255.255.0", .v4 0xffffff00)]
  urlWithString := some
  taggedNumbers := true

def sampleState : State := ⟨⟨.empty, none⟩, init, Library.Descriptors.empty⟩

/-- A session whose search domain comes without a DNS server. -/
def domainOnly : List Callback :=
  [.tunBuilderNew, .setter (.addAddress "10.8.0.2" 24 "10.8.0.1" false false),
    .setter (.addSearchDomain "example.com"),
    .setter (.setRemoteAddress "192.0.2.1" false)]

theorem domainOnly_lost :
    ¬ Exact samplePlatform false sampleState domainOnly .accepted ⟨true, true, true, true⟩ := by
  rw [domainOnly, exact_iff_content ⟨.empty, none⟩]
  rintro ⟨-, hcontent⟩
  exact absurd hcontent (by decide)

/-- A teardown drops a DNS server that was taken since the last `tun_builder_new`. -/
example : ¬ Exact samplePlatform false sampleState
    [.tunBuilderNew, .setter (.addAddress "10.8.0.2" 24 "10.8.0.1" false false),
      .setter (.addDnsServer "10.8.0.1" false),
      .tunBuilderTeardown false, .setter (.setRemoteAddress "192.0.2.1" false)] .accepted
        ⟨true, true, true, true⟩ := by
  rw [exact_iff_content ⟨.empty, none⟩]
  rintro ⟨-, hcontent⟩
  exact absurd hcontent (by decide)

end OpenVPNAdapter.HandedSettings
