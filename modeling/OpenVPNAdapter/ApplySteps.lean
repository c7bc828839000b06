import OpenVPNAdapter.ApplyConfiguration
import Mathlib.Logic.Function.Iterate

namespace OpenVPNAdapter.ApplySteps

open Library.Effect Options ClientConfig ClientAPI ApplyConfiguration

/-- The plain pointer `config`: `apply_config` deletes what it points to before it is given the new copy. -/
inductive Copy
  | null
  | deleted
  | stored (config : Config)
deriving DecidableEq, Repr

/-- What `tun_builder_persist` returns, where that is defined. -/
def Copy.tunPersist : Copy → Option Bool
  | .stored config => some config.tunPersist
  | _ => none

/-- `delete` leaves a null pointer alone. -/
def Copy.delete : Copy → Copy
  | .null => .null
  | _ => .deleted

/-- What the adapter's threads share without a lock. -/
structure Shared where
  copy : Copy
  state : ClientState
deriving DecidableEq, Repr

def Shared.ofClient (client : Client) : Shared := ⟨client.config.elim .null .stored, client.state⟩

def Shared.setOptions (options : OptionList) (s : Shared) : Shared :=
  { s with state := { s.state with options := options } }

abbrev Assignment : Type := ClientState → ClientState

/-- An assignment that is made only where its setting is given; where the setting cannot be parsed, an
exception leaves out the rest. -/
def whenGiven {β : Type} (given : Prop) [Decidable given] (x : Except String β) (put : β → Assignment)
    (rest : List Assignment) : List Assignment :=
  if given then
    match x with
    | .ok b => put b :: rest
    | .error _ => []
  else rest

variable (core : Core)

/-- The assignments of `parse_extras`, in their order. -/
def assignments (config : Config) (eval : EvalConfig) : List Assignment :=
  [fun s => { s with serverOverride := config.serverOverride },
    fun s => { s with portOverride := config.portOverride },
    fun s => { s with connTimeout := config.connTimeout },
    fun s => { s with tunPersist := config.tunPersist },
    fun s => { s with wintun := config.wintun },
    fun s => { s with googleDnsFallback := config.googleDnsFallback },
    fun s => { s with synchronousDnsLookup := config.synchronousDnsLookup },
    fun s => { s with autologinSessions := config.autologinSessions },
    fun s => { s with retryOnAuthFailed := config.retryOnAuthFailed },
    fun s => { s with privateKeyPassword := config.privateKeyPassword }] ++
  whenGiven (config.protoOverride ≠ "") (Protocol.parse config.protoOverride)
    (fun proto s => { s with protoOverride := proto })
  (whenGiven (config.ipv6 ≠ "") (IPv6Setting.parse config.ipv6) (fun ipv6 s => { s with ipv6 := ipv6 })
  (whenGiven (config.compressionMode ≠ "") (CompressionMode.parse config.compressionMode)
    (fun mode s => { s with compressionMode := mode })
  (whenGiven (eval.externalPki = true) (.ok config.externalPkiAlias)
    (fun pkiAlias s => { s with externalPkiAlias := pkiAlias })
  ([fun s => { s with disableClientCert := config.disableClientCert },
    fun s => { s with sslDebugLevel := config.sslDebugLevel },
    fun s => { s with defaultKeyDirection := config.defaultKeyDirection },
    fun s => { s with tlsVersionMinOverride := config.tlsVersionMinOverride },
    fun s => { s with tlsCertProfileOverride := config.tlsCertProfileOverride },
    fun s => { s with tlsCipherList := config.tlsCipherList },
    fun s => { s with tlsCiphersuiteList := config.tlsCiphersuitesList },
    fun s => { s with allowLocalLanAccess := config.allowLocalLanAccess },
    fun s => { s with guiVersion := config.guiVersion },
    fun s => { s with ssoMethods := config.ssoMethods },
    fun s => { s with platformVersion := config.platformVersion },
    fun s => { s with hwAddrOverride := config.hwAddrOverride },
    fun s => { s with altProxy := config.altProxy },
    fun s => { s with dco := config.dco },
    fun s => { s with echo := config.echo },
    fun s => { s with info := config.info },
    fun s => { s with clockTickMs := config.clockTickMS }] ++
  whenGiven (config.gremlinConfig ≠ "") (.error "client not built with OPENVPN_GREMLIN") (fun () s => s)
  ([fun s => { s with extraPeerInfo := config.peerInfo }] ++
  whenGiven (config.proxyHost ≠ "") (proxyOptions core config)
    (fun ho s => { s with httpProxyOptions := some ho }) [])))))

def assign (s : ClientState) (assignments : List Assignment) : ClientState :=
  assignments.foldl (fun s put => put s) s

/-- Where the thread is that called `applyConfiguration:error:`. -/
inductive Caller
  | idle
  | entered (config : Config)
  | deleted (config : Config)
  | stored (config : Config)
  | parsing (config : Config) (rest : List OptionList)
  | assigning (config : Config) (rest : List Assignment)

def Caller.isParsing : Caller → Bool
  | .parsing _ _ => true
  | _ => false

/-- What `parse_extras` makes of the evaluation when it throws. -/
def evaluated (config : Config) (s : ClientState) : EvalConfig :=
  match (exec (parseExtras core config (evaluation core config)) s).1 with
  | .ok () => evaluation core config
  | .error what => { evaluation core config with error := true, message := core.utf8Printable what 256 }

-- The values that the option list takes on between `options.clear()` and the end of the parse.
variable (passing : Config → List OptionList)

/-- The next statement of the call. -/
def callerStep : Caller × Shared → Caller × Shared
  | (.idle, s) => (.idle, s)
  | (.entered config, s) => (.deleted config, { s with copy := s.copy.delete })
  | (.deleted config, s) => (.stored config, { s with copy := .stored config })
  | (.stored config, s) =>
      match validate config with
      | .error _ => (.idle, s)
      | .ok () => (.parsing config (passing config), s.setOptions [])
  | (.parsing config (options :: rest), s) => (.parsing config rest, s.setOptions options)
  | (.parsing config [], s) =>
      (if (evaluation core config).error then .idle
        else .assigning config (assignments core config (evaluation core config)),
        s.setOptions (core.parseClientConfig config.content config.contentList).1)
  | (.assigning config (put :: rest), s) => (.assigning config rest, { s with state := put s.state })
  | (.assigning config [], s) =>
      (.idle, { s with state := { s.state with eval := evaluated core config s.state } })

/-! The statements together are `applyConfiguration:error:`. -/

section Assign

variable {β : Type} {given : Prop} [Decidable given] {x : Except String β} {put : β → Assignment}

theorem assign_append (s : ClientState) (ws vs : List Assignment) :
    assign s (ws ++ vs) = assign (assign s ws) vs :=
  List.foldl_append

/-- A setter of `parse_extras` and what comes behind it. -/
theorem assign_whenGiven {m k : Act ClientState Unit} {s : ClientState} {rest : List Assignment}
    (hm : m = if given then do let b ← liftM x; modify (put b) else pure ())
    (hk : ∀ s, assign s rest = (exec k s).2) :
    assign s (whenGiven given x put rest) = (exec (m >>= fun _ => k) s).2 := by
  subst hm
  unfold whenGiven
  by_cases hg : given
  · rw [if_pos hg, if_pos hg]
    cases x with
    | ok b => exact hk (put b s)
    | error e => rfl
  · rw [if_neg hg, if_neg hg]
    exact hk s

theorem assign_modify {f : ClientState → ClientState} {ws rest : List Assignment} {k : Act ClientState Unit}
    {s : ClientState} (hf : ∀ s, assign s ws = f s) (hk : ∀ s, assign s rest = (exec k s).2) :
    assign s (ws ++ rest) = (exec (modify f >>= fun _ => k) s).2 := by
  rw [assign_append, hf, hk]
  rfl

end Assign

theorem assign_assignments (config : Config) (eval : EvalConfig) (s : ClientState) :
    assign s (assignments core config eval) = (exec (parseExtras core config eval) s).2 := by
  rw [assignments, parseExtras]
  refine assign_modify (fun s => rfl) fun s => ?_
  refine assign_whenGiven rfl fun s => ?_
  refine assign_whenGiven rfl fun s => ?_
  refine assign_whenGiven rfl fun s => ?_
  refine assign_whenGiven ?_ fun s => ?_
  · rw [setExternalPkiAlias]
    rfl
  refine assign_modify (fun s => rfl) fun s => ?_
  refine @assign_whenGiven Unit _ _ _ (fun _ s => s) _ _ _ _ ?_ fun s => ?_
  · rw [setGremlinConfig]
    rfl
  refine assign_modify (fun s => rfl) fun s => ?_
  have hdone (s : ClientState) : assign s [] = (exec (pure ()) s).2 := rfl
  rw [← @bind_pure_unit _ _ _ (setHttpProxyOptions core config)]
  exact assign_whenGiven rfl hdone

theorem parsing_completes (config : Config) (rest : List OptionList) (s : Shared) :
    ∃ n, (callerStep core passing)^[n] (.parsing config rest, s) = callerStep core passing
      (.parsing config [], s) := by
  induction rest generalizing s with
  | nil => exact ⟨1, rfl⟩
  | cons options rest ih =>
      obtain ⟨n, hn⟩ := ih (s.setOptions options)
      exact ⟨n + 1, by rw [Function.iterate_succ_apply]; exact hn⟩

theorem assigning_completes (config : Config) (ws : List Assignment) (s : Shared) :
    ∃ n, (callerStep core passing)^[n] (.assigning config ws, s) =
      callerStep core passing (.assigning config [], { s with state := assign s.state ws }) := by
  induction ws generalizing s with
  | nil => exact ⟨1, rfl⟩
  | cons put ws ih =>
      obtain ⟨n, hn⟩ := ih { s with state := put s.state }
      exact ⟨n + 1, by rw [Function.iterate_succ_apply]; exact hn⟩

theorem evaluated_eq {config : Config} (hv : validate config = .ok ()) (s t : ClientState) :
    evaluated core config s = evaluated core config t := by
  obtain ⟨r, f, hu, -⟩ := parseExtras_uniform core hv (evaluation core config)
  rw [evaluated, evaluated, hu s, hu t]

/-- A call that no other thread gets into ends, and leaves what `applyConfiguration` says. -/
theorem apply_completes (config : Config) (client : Client) :
    ∃ n, (callerStep core passing)^[n] (.entered config, .ofClient client) =
      (.idle, .ofClient (applyConfiguration core config client).2) := by
  rw [applyConfiguration_state]
  have hentered : (callerStep core passing)^[2] (.entered config, .ofClient client) =
      (.stored config, ⟨.stored config, client.state⟩) := rfl
  cases hv : validate config with
  | error e =>
      refine ⟨3, ?_⟩
      rw [Function.iterate_succ_apply', hentered, evalConfig_rejected core hv, callerStep, hv]
      rfl
  | ok _ =>
      obtain ⟨n, hn⟩ :=
          parsing_completes core passing config (passing config)
            ⟨.stored config, { client.state with options := [] }⟩
      have hstored : (callerStep core passing)^[n + 3] (.entered config, .ofClient client) =
          callerStep core passing (.parsing config [], ⟨.stored config, { client.state with options := [] }⟩) := by
        rw [Function.iterate_add_apply, Function.iterate_succ_apply', hentered, ← hn, callerStep, hv]
        rfl
      cases herror : (evaluation core config).error with
      | true =>
          refine ⟨n + 3, ?_⟩
          rw [hstored, evalConfig_unparsed core hv herror, callerStep, herror]
          rfl
      | false =>
          let parsed : Shared :=
            ⟨.stored config,
              { client.state with options := (core.parseClientConfig config.content config.contentList).1 }⟩
          obtain ⟨m, hm⟩ :=
              assigning_completes core passing config (assignments core config (evaluation core config)) parsed
          refine ⟨m + (n + 3), ?_⟩
          have hparsed :
              callerStep core passing (.parsing config [], ⟨.stored config, { client.state with options := [] }⟩) =
              (.assigning config (assignments core config (evaluation core config)), parsed) := by
            rw [callerStep, herror]
            rfl
          rw [Function.iterate_add_apply, hstored, hparsed, hm, callerStep, assign_assignments,
            evaluated_eq core hv _ parsed.state]
          simp only [evalConfig, parseConfig_validated core hv, herror, Bool.false_eq_true, if_false]
          rfl

end OpenVPNAdapter.ApplySteps
