import OpenVPNAdapter.ClientState
import Mathlib.Data.List.Induction
import Mathlib.Tactic.ByContra

namespace OpenVPNAdapter.ApplyConfiguration

open Library.Effect Text ClientConfig ClientAPI

variable (core : Core)

/-- What a configuration says on the settings that `parse_extras` only writes when they are given. -/
def protoOverride (c : Config) : Option Protocol :=
  if c.protoOverride ≠ "" then (Protocol.parse c.protoOverride).toOption else none

def ipv6 (c : Config) : Option IPv6Setting :=
  if c.ipv6 ≠ "" then (IPv6Setting.parse c.ipv6).toOption else none

def compressionMode (c : Config) : Option CompressionMode :=
  if c.compressionMode ≠ "" then (CompressionMode.parse c.compressionMode).toOption else none

def externalPkiAlias (eval : EvalConfig) (c : Config) : Option String :=
  if eval.externalPki then some c.externalPkiAlias else none

def httpProxyOptions (c : Config) : Option (Option HttpProxyOptions) :=
  if c.proxyHost ≠ "" then (proxyOptions core c).toOption.map some else none

/-- The state `parse_extras` leaves when it does not throw. -/
def extras (c : Config) (eval : EvalConfig) (s : ClientState) : ClientState where
  options := s.options
  eval := s.eval
  serverOverride := c.serverOverride
  portOverride := c.portOverride
  protoOverride := (protoOverride c).getD s.protoOverride
  ipv6 := (ipv6 c).getD s.ipv6
  connTimeout := c.connTimeout
  tunPersist := c.tunPersist
  wintun := c.wintun
  googleDnsFallback := c.googleDnsFallback
  synchronousDnsLookup := c.synchronousDnsLookup
  autologinSessions := c.autologinSessions
  retryOnAuthFailed := c.retryOnAuthFailed
  privateKeyPassword := c.privateKeyPassword
  externalPkiAlias := (externalPkiAlias eval c).getD s.externalPkiAlias
  disableClientCert := c.disableClientCert
  sslDebugLevel := c.sslDebugLevel
  defaultKeyDirection := c.defaultKeyDirection
  tlsVersionMinOverride := c.tlsVersionMinOverride
  tlsCertProfileOverride := c.tlsCertProfileOverride
  tlsCipherList := c.tlsCipherList
  tlsCiphersuiteList := c.tlsCiphersuitesList
  guiVersion := c.guiVersion
  ssoMethods := c.ssoMethods
  allowLocalLanAccess := c.allowLocalLanAccess
  hwAddrOverride := c.hwAddrOverride
  platformVersion := c.platformVersion
  compressionMode := (compressionMode c).getD s.compressionMode
  extraPeerInfo := c.peerInfo
  httpProxyOptions := (httpProxyOptions core c).getD s.httpProxyOptions
  clockTickMs := c.clockTickMS
  altProxy := c.altProxy
  dco := c.dco
  echo := c.echo
  info := c.info

/-- The configurations that evaluate without an error. -/
structure Acceptable (c : Config) : Prop where
  validated : validate c = .ok ()
  parsed : (core.parseClientConfig c.content c.contentList).2.error = false
  compression : c.compressionMode ≠ "" → ∃ mode, CompressionMode.parse c.compressionMode = .ok mode
  gremlin : c.gremlinConfig = ""
  proxy : c.proxyHost ≠ "" → ∃ ho, proxyOptions core c = .ok ho

section Setters

variable {β : Type} {given : Prop} [Decidable given] {x : Except String β}
  {put : β → ClientState → ClientState}

theorem uniform_parsed {f : ClientState → ClientState} (hx : given → ∃ b, x = .ok b)
    (hf : ∀ s, f s = ((if given then x.toOption else none).map fun b => put b s).getD s) :
    Uniform (if given then do let b ← liftM x; modify (put b) else pure () : Act ClientState Unit)
      (.ok ()) f := by
  intro s
  by_cases hg : given
  · obtain ⟨b, rfl⟩ := hx hg
    rw [if_pos hg, hf, if_pos hg]
    rfl
  · rw [if_neg hg, hf, if_neg hg]
    rfl

theorem uniform_unparsed {e : String} (hg : given) (hx : x = .error e) :
    Uniform (if given then do let b ← liftM x; modify (put b) else pure () : Act ClientState Unit)
      (.error e) id := by
  intro s
  rw [if_pos hg, hx]
  rfl

end Setters

theorem validate_ok {c : Config} (h : validate c = .ok ()) :
    (c.protoOverride ≠ "" → ∃ p, Protocol.parse c.protoOverride = .ok p) ∧
      (c.ipv6 ≠ "" → ∃ p, IPv6Setting.parse c.ipv6 = .ok p) := by
  rw [validate] at h
  refine ⟨fun hp => ?_, fun hi => ?_⟩
  · cases hx : Protocol.parse c.protoOverride with
    | ok p => exact ⟨p, rfl⟩
    | error e =>
        rw [if_pos hp, hx] at h
        cases h
  · cases hx : IPv6Setting.parse c.ipv6 with
    | ok p => exact ⟨p, rfl⟩
    | error e =>
        rw [if_pos hi, hx] at h
        by_cases hp : c.protoOverride ≠ ""
        · rw [if_pos hp] at h
          cases hy : Protocol.parse c.protoOverride <;> rw [hy] at h <;> cases h
        · rw [if_neg hp] at h
          cases h

/-- `parse_extras` on a configuration that passed the first checks: its outcome does not
depend on the state it writes to. -/
theorem parseExtras_uniform {c : Config} (hv : validate c = .ok ()) (eval : EvalConfig) :
    ∃ r f, Uniform (parseExtras core c eval) r f ∧
      ((r = .ok () ∧ f = extras core c eval ∧
          (c.compressionMode ≠ "" → ∃ mode, CompressionMode.parse c.compressionMode = .ok mode) ∧
          c.gremlinConfig = "" ∧ (c.proxyHost ≠ "" → ∃ ho, proxyOptions core c = .ok ho)) ∨
        ((∃ e, r = .error e) ∧ ¬Acceptable core c)) := by
  have hproto : Uniform (setProtoOverride c) (.ok ())
      (fun s => { s with protoOverride := (protoOverride c).getD s.protoOverride }) :=
    uniform_parsed (validate_ok hv).1 fun s => by
      change _ = ((protoOverride c).map _).getD s
      cases protoOverride c <;> rfl
  have hipv6 : Uniform (setIPv6 c) (.ok ()) (fun s => { s with ipv6 := (ipv6 c).getD s.ipv6 }) :=
    uniform_parsed (validate_ok hv).2 fun s => by
      change _ = ((ipv6 c).map _).getD s
      cases ipv6 c <;> rfl
  have halias : Uniform (setExternalPkiAlias c eval) (.ok ())
      (fun s => { s with externalPkiAlias := (externalPkiAlias eval c).getD s.externalPkiAlias }) := by
    intro s
    rw [setExternalPkiAlias, externalPkiAlias]
    cases eval.externalPki <;> rfl
  by_cases hcomp : c.compressionMode ≠ "" → ∃ mode, CompressionMode.parse c.compressionMode = .ok mode
  · have hcompression : Uniform (setCompressionMode c) (.ok ())
        (fun s => { s with compressionMode := (compressionMode c).getD s.compressionMode }) :=
      uniform_parsed hcomp fun s => by
        change _ = ((compressionMode c).map _).getD s
        cases compressionMode c <;> rfl
    by_cases hgremlin : c.gremlinConfig = ""
    · have hg : Uniform (setGremlinConfig c) (.ok ()) id := by
        intro s
        rw [setGremlinConfig, if_neg fun h => h hgremlin]
        rfl
      by_cases hproxy : c.proxyHost ≠ "" → ∃ ho, proxyOptions core c = .ok ho
      · have hp : Uniform (setHttpProxyOptions core c) (.ok ())
            (fun s => { s with httpProxyOptions := (httpProxyOptions core c).getD s.httpProxyOptions }) :=
          uniform_parsed hproxy fun s => by
            rw [httpProxyOptions]
            split <;> cases (proxyOptions core c) <;> rfl
        exact ⟨_, _, (uniform_modify _).bind_ok (hproto.bind_ok (hipv6.bind_ok (hcompression.bind_ok
          (halias.bind_ok ((uniform_modify _).bind_ok (hg.bind_ok ((uniform_modify _).bind_ok hp))))))),
          .inl ⟨rfl, rfl, hcomp, hgremlin, hproxy⟩⟩
      · obtain ⟨hgiven, hnone⟩ := Classical.not_imp.mp hproxy
        cases hx : proxyOptions core c with
        | ok ho => exact absurd ⟨ho, hx⟩ hnone
        | error e =>
            exact ⟨_, _, (uniform_modify _).bind_ok (hproto.bind_ok (hipv6.bind_ok (hcompression.bind_ok
              (halias.bind_ok ((uniform_modify _).bind_ok (hg.bind_ok ((uniform_modify _).bind_ok
              (uniform_unparsed hgiven hx)))))))), .inr ⟨⟨e, rfl⟩, fun h => hproxy h.proxy⟩⟩
    · have hg : Uniform (setGremlinConfig c) (.error "client not built with OPENVPN_GREMLIN") id := by
        intro s
        rw [setGremlinConfig, if_pos hgremlin]
        rfl
      exact ⟨_, _, (uniform_modify _).bind_ok (hproto.bind_ok (hipv6.bind_ok (hcompression.bind_ok
        (halias.bind_ok ((uniform_modify _).bind_ok hg.bind_error))))),
        .inr ⟨⟨_, rfl⟩, fun h => hgremlin h.gremlin⟩⟩
  · obtain ⟨hgiven, hnone⟩ := Classical.not_imp.mp hcomp
    cases hx : CompressionMode.parse c.compressionMode with
    | ok mode => exact absurd ⟨mode, hx⟩ hnone
    | error e =>
        exact ⟨_, _, (uniform_modify _).bind_ok (hproto.bind_ok (hipv6.bind_ok
          (uniform_unparsed hgiven hx).bind_error)), .inr ⟨⟨e, rfl⟩, fun h => hcomp h.compression⟩⟩

/-- The evaluation `eval_config` returns for an acceptable configuration. -/
def evaluation (c : Config) : EvalConfig :=
  let cc := (core.parseClientConfig c.content c.contentList).2
  { cc with remoteHost := if c.serverOverride = "" then cc.remoteHost else c.serverOverride }

/-- The state an acceptable configuration leaves. -/
def applied (c : Config) (s : ClientState) : ClientState :=
  { extras core c (evaluation core c)
      { s with options := (core.parseClientConfig c.content c.contentList).1 } with
    eval := evaluation core c }

theorem parseConfig_validated {c : Config} (hv : validate c = .ok ()) (s : ClientState) :
    parseConfig core c s = (evaluation core c,
      { s with options := (core.parseClientConfig c.content c.contentList).1 }) := by
  rw [parseConfig, hv]
  rfl

theorem evalConfig_acceptable {c : Config} (h : Acceptable core c) (s : ClientState) :
    evalConfig core c s = (evaluation core c, applied core c s) := by
  have herror : (evaluation core c).error = false := h.parsed
  obtain ⟨r, f, hu, ⟨rfl, rfl, -⟩ | ⟨-, hn⟩⟩ := parseExtras_uniform core h.validated (evaluation core c)
  · simp only [evalConfig, parseConfig_validated core h.validated, herror, Bool.false_eq_true, if_false,
      hu _]
    rfl
  · exact absurd h hn

theorem evalConfig_rejected {c : Config} {e : String} (h : validate c = .error e) (s : ClientState) :
    (evalConfig core c s).2 = s := by
  simp only [evalConfig, parseConfig, h, if_true]

theorem evalConfig_unparsed {c : Config} (hv : validate c = .ok ())
    (h : (evaluation core c).error = true) (s : ClientState) :
    (evalConfig core c s).2 =
      { s with options := (core.parseClientConfig c.content c.contentList).1 } := by
  simp only [evalConfig, parseConfig_validated core hv, h, if_true]

theorem evalConfig_unacceptable {c : Config} (h : ¬Acceptable core c) (s : ClientState) :
    (evalConfig core c s).1.error = true := by
  cases hv : validate c with
  | error e => simp only [evalConfig, parseConfig, hv, if_true]
  | ok _ =>
      cases herror : (evaluation core c).error with
      | true => simp only [evalConfig, parseConfig_validated core hv, herror, if_true]
      | false =>
          obtain ⟨r, f, hu, ⟨-, -, hx⟩ | ⟨⟨e, rfl⟩, -⟩⟩ := parseExtras_uniform core hv (evaluation core c)
          · exact absurd ⟨hv, herror, hx.1, hx.2.1, hx.2.2⟩ h
          · simp only [evalConfig, parseConfig_validated core hv, herror, Bool.false_eq_true, if_false,
              hu _]

theorem applyConfiguration_acceptable {c : Config} (h : Acceptable core c) (client : Client) :
    applyConfiguration core c client =
      (some (evaluation core c), ⟨some c, applied core c client.state⟩) := by
  have herror : (evaluation core c).error = false := h.parsed
  simp only [applyConfiguration, applyConfig, evalConfig_acceptable core h, herror, Bool.false_eq_true,
    if_false]

theorem applyConfiguration_unacceptable {c : Config} (h : ¬Acceptable core c) (client : Client) :
    (applyConfiguration core c client).1 = none := by
  simp only [applyConfiguration, applyConfig, evalConfig_unacceptable core h, if_true]

theorem applyConfiguration_state (c : Config) (client : Client) :
    (applyConfiguration core c client).2 = ⟨some c, (evalConfig core c client.state).2⟩ := by
  by_cases herror : (evalConfig core c client.state).1.error = true
  · simp only [applyConfiguration, applyConfig, herror, if_true]
  · simp only [applyConfiguration, applyConfig, herror, Bool.false_eq_true, if_false]

/-- Every call replaces the stored copy, also the one that fails. -/
theorem applyConfiguration_config (c : Config) (client : Client) :
    (applyConfiguration core c client).2.config = some c := by rw [applyConfiguration_state]

section Runs

variable (allowLocalLanAccess : Bool)

def applyAll (cs : List Config) (client : Client) : Client :=
  cs.foldl (fun client c => (applyConfiguration core c client).2) client

def successful : List Config → Client → List Config
  | [], _ => []
  | c :: cs, client =>
      let (r, client) := applyConfiguration core c client
      if r.isSome then c :: successful cs client else successful cs client

/-- `connect` finds what a fresh adapter holds after the last successful call alone. -/
def LastSuccessWins (cs : List Config) : Prop :=
  applyAll core cs (.fresh allowLocalLanAccess) =
    match (successful core cs (.fresh allowLocalLanAccess)).getLast? with
    | none => .fresh allowLocalLanAccess
    | some c => (applyConfiguration core c (.fresh allowLocalLanAccess)).2

def FailureChangesNothing (cs : List Config) : Prop :=
  ∀ pre c post, cs = pre ++ c :: post →
    (applyConfiguration core c (applyAll core pre (.fresh allowLocalLanAccess))).1 = none →
    (applyConfiguration core c (applyAll core pre (.fresh allowLocalLanAccess))).2 =
      applyAll core pre (.fresh allowLocalLanAccess)

def carried {β : Type} (setting : Config → Option β) (initial : β) (cs : List Config) : β :=
  cs.foldl (fun b c => (setting c).getD b) initial

def pkiAlias (c : Config) : Option String :=
  externalPkiAlias (core.parseClientConfig c.content c.contentList).2 c

/-- Each conditional setting is given by the last configuration or still at its default. -/
structure NothingCarried (pre : List Config) (last : Config) : Prop where
  protoOverride : protoOverride last = none → carried protoOverride .none pre = .none
  ipv6 : ipv6 last = none → carried ipv6 .default pre = .default
  compressionMode : compressionMode last = none → carried compressionMode .no pre = .no
  externalPkiAlias : pkiAlias core last = none → carried (pkiAlias core) "" pre = ""
  httpProxyOptions : httpProxyOptions core last = none → carried (httpProxyOptions core) none pre = none

theorem applyAll_append (pre : List Config) (c : Config) (client : Client) :
    applyAll core (pre ++ [c]) client = (applyConfiguration core c (applyAll core pre client)).2 := by
  simp [applyAll]

theorem applyAll_config (pre : List Config) (c : Config) (client : Client) :
    (applyAll core (pre ++ [c]) client).config = some c := by
  rw [applyAll_append, applyConfiguration_config]

theorem applyAll_carried {β : Type} (get : ClientState → β) (setting : Config → Option β)
    (hget : ∀ c s, get (applied core c s) = (setting c).getD (get s)) {cs : List Config}
    (hcs : ∀ c ∈ cs, Acceptable core c) (client : Client) :
    get (applyAll core cs client).state = carried setting (get client.state) cs := by
  induction cs generalizing client with
  | nil => rfl
  | cons c cs ih =>
      have hc := applyConfiguration_acceptable core (hcs c List.mem_cons_self) client
      have hrest := ih (fun d hd => hcs d (List.mem_cons_of_mem _ hd)) ⟨some c, applied core c client.state⟩
      rw [applyAll, List.foldl_cons, hc, ← applyAll, hrest, hget]
      rfl

theorem successful_acceptable {cs : List Config} (hcs : ∀ c ∈ cs, Acceptable core c) (client : Client) :
    successful core cs client = cs := by
  induction cs generalizing client with
  | nil => rfl
  | cons c cs ih =>
      have hc := applyConfiguration_acceptable core (hcs c List.mem_cons_self) client
      simp only [successful, hc, Option.isSome_some, if_true,
        ih fun d hd => hcs d (List.mem_cons_of_mem _ hd)]

theorem applied_eq_iff (c : Config) (s t : ClientState) :
    applied core c s = applied core c t ↔
      (protoOverride c = none → s.protoOverride = t.protoOverride) ∧
      (ipv6 c = none → s.ipv6 = t.ipv6) ∧
      (compressionMode c = none → s.compressionMode = t.compressionMode) ∧
      (pkiAlias core c = none → s.externalPkiAlias = t.externalPkiAlias) ∧
      (httpProxyOptions core c = none → s.httpProxyOptions = t.httpProxyOptions) := by
  have hgetD {β : Type} (o : Option β) (a b : β) : o.getD a = o.getD b ↔ (o = none → a = b) := by
    cases o <;> simp
  rw [← hgetD, ← hgetD, ← hgetD, ← hgetD, ← hgetD]
  constructor
  · intro h
    exact ⟨congrArg ClientState.protoOverride h, congrArg ClientState.ipv6 h,
      congrArg ClientState.compressionMode h, congrArg ClientState.externalPkiAlias h,
      congrArg ClientState.httpProxyOptions h⟩
  · rintro ⟨hp, hi, hc, ha, hh⟩
    simp only [applied, extras]
    rw [hp, hi, hc, hh]
    exact congrArg (fun a => ({ (extras core c (evaluation core c)
      { t with options := (core.parseClientConfig c.content c.contentList).1 }) with
        eval := evaluation core c, externalPkiAlias := a } : ClientState)) ha

theorem applied_carried_iff {pre : List Config} (hpre : ∀ c ∈ pre, Acceptable core c) (last : Config) :
    applied core last (applyAll core pre (.fresh allowLocalLanAccess)).state =
        applied core last (.fresh allowLocalLanAccess) ↔ NothingCarried core pre last := by
  rw [applied_eq_iff, applyAll_carried core ClientState.protoOverride protoOverride (fun _ _ => rfl) hpre,
    applyAll_carried core ClientState.ipv6 ipv6 (fun _ _ => rfl) hpre,
    applyAll_carried core ClientState.compressionMode compressionMode (fun _ _ => rfl) hpre,
    applyAll_carried core ClientState.externalPkiAlias (pkiAlias core) (fun _ _ => rfl) hpre,
    applyAll_carried core ClientState.httpProxyOptions (httpProxyOptions core) (fun _ _ => rfl) hpre]
  exact ⟨fun h => ⟨h.1, h.2.1, h.2.2.1, h.2.2.2.1, h.2.2.2.2⟩, fun h => ⟨h.1, h.2, h.3, h.4, h.5⟩⟩

theorem acceptable_of_failureChangesNothing {cs : List Config}
    (h : FailureChangesNothing core allowLocalLanAccess cs) : ∀ c ∈ cs, Acceptable core c := by
  have hpre : ∀ pre post, cs = pre ++ post → ∀ c ∈ pre, Acceptable core c := by
    intro pre
    induction pre using List.reverseRecOn with
    | nil => intro post _ c hc; cases hc
    | append_singleton pre c ih =>
        intro post hcs d hd
        have hacc := ih (c :: post) (by rw [hcs, List.append_assoc, List.singleton_append])
        rcases List.mem_append.mp hd with hd | hd
        · exact hacc d hd
        · obtain rfl := List.mem_singleton.mp hd
          by_contra hn
          have hkeep := h pre d post (by rw [hcs, List.append_assoc, List.singleton_append])
            (applyConfiguration_unacceptable core hn _)
          have hconfig := congrArg Client.config hkeep
          rw [applyConfiguration_config] at hconfig
          rcases List.eq_nil_or_concat pre with rfl | ⟨init, e, rfl⟩
          · cases hconfig
          · rw [List.concat_eq_append] at hconfig hacc
            rw [applyAll_config] at hconfig
            obtain rfl := Option.some.inj hconfig
            exact hn (hacc d (List.mem_append_right _ (List.mem_singleton.mpr rfl)))
  exact hpre cs [] (List.append_nil cs).symm

theorem lastSuccessWins_iff {pre : List Config} {last : Config}
    (h : ∀ c ∈ pre ++ [last], Acceptable core c) :
    LastSuccessWins core allowLocalLanAccess (pre ++ [last]) ↔ NothingCarried core pre last := by
  have hlast := h last (List.mem_append_right _ (List.mem_singleton.mpr rfl))
  have hpre : ∀ c ∈ pre, Acceptable core c := fun c hc => h c (List.mem_append_left _ hc)
  rw [← applied_carried_iff core allowLocalLanAccess hpre, LastSuccessWins, successful_acceptable core h,
    List.getLast?_concat, applyAll_append]
  change (applyConfiguration core last _).2 = (applyConfiguration core last _).2 ↔ _
  rw [applyConfiguration_acceptable core hlast, applyConfiguration_acceptable core hlast]
  exact ⟨fun he => congrArg Client.state he, fun he => by
    show Client.mk _ _ = Client.mk _ _
    rw [he]; rfl⟩

/-- The last successful call decides and failures change nothing in exactly the sequences
where no call fails and the last configuration gives, or finds at its default, each
setting that is only written when given. -/
theorem apply_iff_nothingCarried (cs : List Config) :
    (LastSuccessWins core allowLocalLanAccess cs ∧ FailureChangesNothing core allowLocalLanAccess cs) ↔
      (∀ c ∈ cs, Acceptable core c) ∧
        ∀ pre last, cs = pre ++ [last] → NothingCarried core pre last := by
  constructor
  · rintro ⟨hwins, hfail⟩
    have hacc := acceptable_of_failureChangesNothing core allowLocalLanAccess hfail
    refine ⟨hacc, ?_⟩
    rintro pre last rfl
    exact (lastSuccessWins_iff core allowLocalLanAccess hacc).mp hwins
  · rintro ⟨hacc, hcarried⟩
    refine ⟨?_, ?_⟩
    · rcases List.eq_nil_or_concat cs with rfl | ⟨pre, last, rfl⟩
      · rfl
      · rw [List.concat_eq_append] at hacc ⊢
        exact (lastSuccessWins_iff core allowLocalLanAccess hacc).mpr
          (hcarried pre last List.concat_eq_append)
    · rintro pre c post rfl hnone
      have hc := applyConfiguration_acceptable core
        (hacc c (List.mem_append_right _ List.mem_cons_self)) (applyAll core pre (.fresh allowLocalLanAccess))
      rw [hc] at hnone
      cases hnone

def sampleProfile : String :=
  "remote vpn.example 1194 udp\ncipher AES-256-CBC\nauth SHA1\nauth-user-pass\nclient-cert-not-required"

/-- What the profile parser makes of this profile, and of the empty one. -/
def sampleCore : Core where
  parseClientConfig content _ :=
    if content = sampleProfile then
      ([["remote", "vpn.example", "1194", "udp"], ["cipher", "AES-256-CBC"], ["auth", "SHA1"], ["auth-user-pass"],
          ["client-cert-not-required"], ["client"], ["dev", "tun"]],
        { EvalConfig.empty with
          profileName := "vpn.example"
          allowPasswordSave := true
          remoteHost := "vpn.example"
          remotePort := "1194"
          remoteProto := "udp" })
    else
      ([["client"], ["dev", "tun"]],
        { EvalConfig.empty with
          error := true
          message := "ERR_PROFILE_OPTION: option_error: remote option not specified"
          autologin := true
          externalPki := true })
  utf8Printable s _ := s

def sampleConfig : Config := { Config.default with content := sampleProfile }

/-- A configuration that forces a protocol, followed by one that leaves it to the profile. -/
def staleProtocol : List Config := [{ sampleConfig with protoOverride := "tcp" }, sampleConfig]

theorem staleProtocol_carried :
    ¬(LastSuccessWins sampleCore false staleProtocol ∧ FailureChangesNothing sampleCore false staleProtocol) := by
  rintro ⟨hwins, -⟩
  have hproto := congrArg (fun c : Client => c.state.protoOverride) hwins
  exact absurd hproto (by decide)

end Runs

end OpenVPNAdapter.ApplyConfiguration
