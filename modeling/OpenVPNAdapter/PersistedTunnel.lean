import OpenVPNAdapter.Library.Runs
import OpenVPNAdapter.CapturedSettings
import OpenVPNAdapter.FreshSession

namespace OpenVPNAdapter.PersistedTunnel

open Library.Runs Library.Effect Library.FirstSeen Library.Descriptors IP Options NetworkSettings OpenVPNClient
  TunProp PacketFlowBridge FreshSession RedirectGateway PushedLists TunBuilderCapture CapturedPlan CapturedSettings

/-- A session as `tun_start` finds it. What is not the core's comes along: the descriptors of the
process at each callback, the delegate's reply and the outcome of the system calls. -/
structure Session where
  serverAddr : Addr
  remoteList : Option (List Addr)
  opt : OptionList
  atNew : Table
  atEstablish : Table
  atTeardown : Table
  delegate : TunnelConfiguration
  calls : SocketCalls
deriving DecidableEq, Repr

/-- `TunPersist` over the adapter. `accepted` is what the delegate accepted last, and `pushed` the
option list behind `options`, which the core does not keep. -/
structure State where
  config : Config
  tun : FreshSession.State
  accepted : Option NEPacketTunnelNetworkSettings
  obj : Int
  options : String
  pushed : OptionList
  stopped : Bool
deriving DecidableEq, Repr

inductive Action
  | tunStart (x : Session)
  | connect (config : Config) (atTeardown : Table) (disconnect : Bool)
deriving DecidableEq, Repr

def State.init (config : Config) : State :=
  ⟨config, ⟨⟨.empty, none⟩, PacketFlowBridge.init, Library.Descriptors.empty⟩, none, -1, "", [], false⟩

/-- The remote list is shared with the core, which resolves its names from session to session. -/
def State.tunProp (s : State) (x : Session) : Config := { s.config with remoteList := x.remoteList }

variable (p : Platform)

def copt (s : State) (x : Session) : Option Capture := captured p.sys x.serverAddr (s.tunProp x) x.opt

def usePersistedTun (s : State) (x : Session) : Bool :=
  s.obj ≠ -1 && (copt p s x).isSome && s.options ≠ "" && (copt p s x).map Capture.toString = some s.options &&
    (react p true s.tun .tunBuilderPersist).1.returned = .bool true

/-- `TunPersist::close`. -/
def close (kernel : Table) (disconnect : Bool) (s : State) : State :=
  { s with
    tun := (react p true (s.tun.found kernel) (.tunBuilderTeardown disconnect)).2
    accepted := none
    obj := -1
    options := ""
    pushed := [] }

/-- `persist_tun_state` for a tunnel that is not a persisted one. -/
def persistTunState (sd : Int) (copt : Option Capture) (opt : OptionList) (s : State) : State :=
  match copt with
  | none => { s with obj := sd }
  | some b => { s with obj := sd, options := b.toString, pushed := opt }

/-- `tun_start` once the builder is configured. Without a descriptor the core stops. -/
def establishTun (copt : Option Capture) (x : Session) (s : State) : State :=
  let (response, tun) := react p true (s.tun.found x.atEstablish) (.tunBuilderEstablish x.delegate x.calls)
  let s := { s with
    tun := tun
    accepted := if x.delegate = .accepted then response.handed.getLast?.join else s.accepted }
  match response.returned with
  | .socket sd => if sd = -1 then { s with stopped := true } else persistTunState sd copt x.opt s
  | _ => { s with stopped := true }

def tunStart (s : State) (x : Session) : State :=
  if usePersistedTun p s x then { s with tun := (react p true s.tun .tunBuilderEstablishLite).2 }
  else
    let tun := (react p true (s.tun.found x.atNew) .tunBuilderNew).2
    match exec (configureBuilder p.sys (client p) x.serverAddr (s.tunProp x) x.opt) tun.adapter with
    | (.ok (), adapter) =>
        establishTun p (copt p s x) x { s with tun := { tun with adapter := adapter }, accepted := none }
    | (.error _, adapter) =>
        { close p x.atTeardown false { s with tun := { tun with adapter := adapter } } with stopped := true }

def step (s : State) : Action → Option State
  | .tunStart x => if s.stopped then none else some (tunStart p s x)
  | .connect config kernel disconnect =>
      some { close p kernel disconnect s with config := config, stopped := false }

/-- The settings in force are those that a tunnel of its own would give the session. -/
def Sound (s : State) (x : Session) : Prop :=
  ∃ t settings, setUp p s.tun.adapter x.serverAddr (s.tunProp x) x.opt = (.ok (), t) ∧
    t.builder.networkSettings = some settings ∧ s.accepted = some settings

def SoundReuse (s : State) : Action → Prop
  | .tunStart x => usePersistedTun p s x = true → Sound p s x
  | .connect .. => True

/-- One list of values can be cut into blocks along the options of either list. -/
def CutAlike (opt opt' : OptionList) (type : String) : Prop :=
  ∃ due, due.Nodup ∧ Cut [] ((instances opt "dhcp-option").map (leading type)) due ∧
    Cut [] ((instances opt' "dhcp-option").map (leading type)) due

def ReuseCutAlike (s : State) : Action → Prop
  | .tunStart x => usePersistedTun p s x = true → ∀ settings, s.accepted = some settings →
      (settings.dnsSettings.isSome → CutAlike s.pushed x.opt "DOMAIN") ∧
        (settings.proxySettings.isSome → CutAlike s.pushed x.opt "PROXY_BYPASS")
  | .connect .. => True

/-- What is persisted is the text of a set-up whose settings the delegate accepted. -/
def Persisted (s : State) : Prop :=
  s.stopped = true ∨ s.options = "" ∨ ∃ serverAddr remoteList b a t settings,
    captured p.sys serverAddr { s.config with remoteList := remoteList } s.pushed = some b ∧
      b.toString = s.options ∧
      setUp p a serverAddr { s.config with remoteList := remoteList } s.pushed = (.ok (), t) ∧
      t.builder.networkSettings = some settings ∧ s.accepted = some settings

variable {p} {s : State} {x : Session}

theorem cutAlike_iff {opt opt' : OptionList} {type : String} : CutAlike opt opt' type ↔
    takeInAll [] ((instances opt "dhcp-option").map (leading type)) =
      takeInAll [] ((instances opt' "dhcp-option").map (leading type)) := by
  constructor
  · rintro ⟨due, hnodup, hcut, hcut'⟩
    have htaken := (@takeInAll_eq_iff _ _ [] _ _ hnodup).mpr hcut
    have htaken' := (@takeInAll_eq_iff _ _ [] _ _ hnodup).mpr hcut'
    exact htaken.trans htaken'.symm
  · intro h
    obtain ⟨due, hdue, hnodup⟩ := takeInAll_appends [] ((instances opt "dhcp-option").map (leading type))
    have hnodup := hnodup List.nodup_nil
    exact ⟨due, hnodup, (takeInAll_eq_iff hnodup).mp hdue, (takeInAll_eq_iff hnodup).mp (h.symm.trans hdue)⟩

instance {opt opt' : OptionList} {type : String} : Decidable (CutAlike opt opt' type) :=
  decidable_of_iff' _ cutAlike_iff

theorem usePersistedTun_iff : usePersistedTun p s x = true ↔
    s.obj ≠ -1 ∧ s.options ≠ "" ∧ ∃ b, copt p s x = some b ∧ b.toString = s.options := by
  cases hc : copt p s x <;> simp [usePersistedTun, hc, react, and_assoc]

/-- A session that keeps the tunnel keeps its settings, unless the options of its list are left
at other values than those of the list before. -/
theorem sound_iff (hs : p.sys.Printing) (hpersisted : Persisted p s) (hlive : s.stopped = false) (a : Action) :
    SoundReuse p s a ↔ ReuseCutAlike p s a := by
  cases a with
  | connect => exact Iff.rfl
  | tunStart x =>
      refine forall_congr' fun huse => ?_
      obtain ⟨-, hoptions, c, hc, htext⟩ := usePersistedTun_iff.mp huse
      rcases hpersisted with hstopped | hempty |
        ⟨serverAddr, remoteList, b, a, t, settings, hb, htext', ht, hsettings, haccepted⟩
      · rw [hstopped] at hlive
        cases hlive
      · exact absurd hempty hoptions
      obtain ⟨t', settings', ht', hsettings', hiff⟩ :=
        settings_of_captures hs hb hc (htext'.trans htext.symm) s.tun.adapter ht hsettings
      obtain ⟨hdomains, hbypass⟩ := setUp_lists ht
      obtain ⟨hdomains', hbypass'⟩ := setUp_lists ht'
      rw [hdomains, hdomains', hbypass, hbypass', ← cutAlike_iff, ← cutAlike_iff] at hiff
      constructor
      · rintro ⟨u, settings'', hu, hsettings'', haccepted'⟩ r hr
        obtain rfl : t' = u := (Prod.ext_iff.mp (ht'.symm.trans hu)).2
        obtain rfl : settings' = settings'' := Option.some.inj (hsettings'.symm.trans hsettings'')
        obtain rfl : settings = settings' := Option.some.inj (haccepted.symm.trans haccepted')
        obtain rfl : settings = r := Option.some.inj (haccepted.symm.trans hr)
        exact hiff.mp rfl
      · intro h
        exact ⟨t', settings', ht', hsettings', haccepted.trans (congrArg some (hiff.mpr (h settings haccepted)))⟩

theorem establishTun_cases (copt : Option Capture) (x : Session) (s : State) :
    (establishTun p copt x s).stopped = true ∨ ∃ settings sd tun,
      s.tun.adapter.builder.networkSettings = some settings ∧ x.delegate = .accepted ∧
      establishTun p copt x s = persistTunState sd copt x.opt
        { s with tun := tun, accepted := some settings } := by
  cases hsettings : s.tun.adapter.builder.networkSettings with
  | none => simp [establishTun, react, establish, FreshSession.State.found, hsettings]
  | some settings =>
      cases hdelegate : x.delegate with
      | timeout | error =>
          simp [establishTun, react, establish, FreshSession.State.found, hsettings, hdelegate,
              establishTunnel, invalidSocket]
      | accepted =>
          simp only [establishTun, react, establish, FreshSession.State.found, hsettings, hdelegate]
          rcases establishTunnel .accepted x.calls x.atEstablish s.tun.bridge with ⟨established, kernel, bridge⟩
          simp only [if_true]
          generalize (if established = true then socketHandle bridge else invalidSocket) = sd
          by_cases hsd : sd = -1
          · rw [if_pos hsd]
            exact .inl rfl
          · rw [if_neg hsd]
            exact .inr ⟨settings, sd, _, rfl, trivial, rfl⟩

theorem persisted_step (hs : p.sys.Printing) {t : State} {a : Action} (h : Persisted p s)
    (hstep : step p s a = some t) : Persisted p t := by
  cases a with
  | connect config kernel disconnect =>
      cases hstep
      exact .inr (.inl rfl)
  | tunStart x =>
      rw [step] at hstep
      split at hstep
      · cases hstep
      cases hstep
      rw [tunStart]
      split
      · exact h
      have hadapter :
          (react p true (s.tun.found x.atNew) .tunBuilderNew).2.adapter = tunBuilderNew s.tun.adapter := rfl
      simp only [hadapter]
      split
      · rename_i adapter hsetUp
        rcases establishTun_cases (copt p s x) x ⟨s.config,
            { (react p true (s.tun.found x.atNew) .tunBuilderNew).2 with adapter := adapter }, none,
              s.obj, s.options,
            s.pushed, s.stopped⟩ with hstopped | ⟨settings, sd, tun, hsettings, -, heq⟩
        · exact .inl hstopped
        · obtain ⟨pl, hpl⟩ := plan_of_setUp hsetUp
          have hcopt := (captured_eq_some_iff hs).mpr ⟨pl, hpl, rfl⟩
          rw [heq, show copt p s x = _ from hcopt]
          exact .inr (.inr ⟨x.serverAddr, x.remoteList, _, s.tun.adapter, adapter, settings, hcopt, rfl, hsetUp,
            hsettings, rfl⟩)
      · exact .inl rfl

theorem persisted_init (config : Config) : Persisted p (.init config) := .inr (.inl rfl)

/-- In every run, the sessions that reuse the tunnel find it with the settings of their own if and
only if none of them is left with other values of a list than the options before it. -/
theorem soundReuse_iff_cutAlike (hs : p.sys.Printing) (config : Config) (actions : List Action) :
    Guarded (step p) (fun s a _ => SoundReuse p s a) (.init config) actions ↔
      Guarded (step p) (fun s a _ => ReuseCutAlike p s a) (.init config) actions := by
  refine guarded_congr (fun s a t => persisted_step hs) (fun s a t hpersisted hstep => ?_) (persisted_init config)
  cases a with
  | connect => exact Iff.rfl
  | tunStart x =>
      refine sound_iff hs hpersisted ?_ (.tunStart x)
      by_contra hstopped
      rw [step, if_pos (by simpa using hstopped)] at hstep
      cases hstep

/-! A run in which a session reuses the tunnel of another. -/

theorem establishTun_established {settings : NEPacketTunnelNetworkSettings}
    (hsettings : s.tun.adapter.builder.networkSettings = some settings)
    (hest : establishes x.delegate x.calls = true) (copt : Option Capture) :
    ∃ sd tun, sd ≠ -1 ∧ establishTun p copt x s =
      persistTunState sd copt x.opt { s with tun := tun, accepted := some settings } := by
  have hdelegate : x.delegate = .accepted := by simp_all [establishes]
  obtain ⟨sd, tun, hsd, hestablish⟩ := establish_established (s := s.tun.found x.atEstablish) hsettings hest
  have hne : sd ≠ -1 := fun he => by
    rw [he] at hsd
    exact absurd hsd (by decide)
  refine ⟨sd, tun, hne, ?_⟩
  simp only [establishTun, react, hestablish]
  rw [if_neg hne, if_pos hdelegate]
  rfl

theorem tunStart_established {t : Adapter} {settings : NEPacketTunnelNetworkSettings} {b : Capture}
    (hnew : s.obj = -1) (ht : setUp p s.tun.adapter x.serverAddr (s.tunProp x) x.opt = (.ok (), t))
    (hsettings : t.builder.networkSettings = some settings) (hb : copt p s x = some b)
    (hest : establishes x.delegate x.calls = true) :
    ∃ sd tun, sd ≠ -1 ∧ tunStart p s x =
      { s with tun := tun, accepted := some settings, obj := sd, options := b.toString, pushed := x.opt } := by
  have hfresh : usePersistedTun p s x = false := by simp [usePersistedTun, hnew]
  have hadapter :
      (react p true (s.tun.found x.atNew) .tunBuilderNew).2.adapter = tunBuilderNew s.tun.adapter := rfl
  rw [setUp] at ht
  rw [tunStart, hfresh, if_neg Bool.false_ne_true]
  simp only [hadapter, ht, hb]
  exact establishTun_established hsettings hest (some b)

/-- A session that follows one with the same capture reuses its tunnel. -/
theorem reuse_of_captured {t : Adapter} {settings : NEPacketTunnelNetworkSettings} {b : Capture} {y : Session}
    (hlive : s.stopped = false) (hnew : s.obj = -1)
    (ht : setUp p s.tun.adapter x.serverAddr (s.tunProp x) x.opt = (.ok (), t))
    (hsettings : t.builder.networkSettings = some settings) (hb : copt p s x = some b) (hc : copt p s y = some b)
    (hest : establishes x.delegate x.calls = true) :
    ∃ u, step p s (.tunStart x) = some u ∧ usePersistedTun p u y = true ∧ u.accepted = some settings ∧
      u.pushed = x.opt ∧ u.stopped = false := by
  obtain ⟨sd, tun, hsd, hstart⟩ := tunStart_established hnew ht hsettings hb hest
  refine ⟨_, (if_neg (by rw [hlive]; exact Bool.false_ne_true)).trans (congrArg some hstart), ?_, rfl, rfl, hlive⟩
  exact usePersistedTun_iff.mpr ⟨hsd, b.toString_ne_empty, b, hc, rfl⟩

def sampleSession (dhcpOptions : List Opt) : Session where
  serverAddr := .v4 0xc0000201
  remoteList := none
  opt := pushedDomains (["dhcp-option", "DNS", "10.8.0.2"] :: dhcpOptions)
  atNew := Library.Descriptors.empty
  atEstablish := Library.Descriptors.empty
  atTeardown := Library.Descriptors.empty
  delegate := .accepted
  calls := ⟨true, true, true, true⟩

/-- Search domains on one option, and the same on one option each. -/
def onOne (domains : String) : Session := sampleSession [["dhcp-option", "DOMAIN", domains]]

def onEach (domains : List String) : Session := sampleSession (domains.map fun d => ["dhcp-option", "DOMAIN", d])

theorem sample_reuse {x y : Session} (hok : (setUp RedirectGateway.samplePlatform fresh x.serverAddr
      ((State.init sampleConfig).tunProp x) x.opt).1 = .ok ())
    (hdns : ((setUp RedirectGateway.samplePlatform fresh x.serverAddr ((State.init sampleConfig).tunProp x)
      x.opt).2.builder.networkSettings.bind fun settings => settings.dnsSettings).isSome = true)
    (hcopt : copt RedirectGateway.samplePlatform (.init sampleConfig) x =
      copt RedirectGateway.samplePlatform (.init sampleConfig) y)
    (hsome : (copt RedirectGateway.samplePlatform (.init sampleConfig) x).isSome = true)
    (hest : establishes x.delegate x.calls = true) :
    ∃ u settings, step RedirectGateway.samplePlatform (.init sampleConfig) (.tunStart x) = some u ∧
      usePersistedTun RedirectGateway.samplePlatform u y = true ∧ u.accepted = some settings ∧
      settings.dnsSettings.isSome = true ∧ u.pushed = x.opt ∧ u.stopped = false := by
  obtain ⟨b, hb⟩ := Option.isSome_iff_exists.mp hsome
  obtain ⟨dns, hdns⟩ := Option.isSome_iff_exists.mp hdns
  obtain ⟨settings, hsettings, hdns⟩ := Option.bind_eq_some_iff.mp hdns
  obtain ⟨u, hstep, huse, haccepted, hpushed, hlive⟩ :=
    reuse_of_captured rfl rfl (setUp_of_ok hok) hsettings hb (hcopt.symm.trans hb) hest
  exact ⟨u, settings, hstep, huse, haccepted, by rw [hdns]; rfl, hpushed, hlive⟩

theorem sample_leftEarly : ∃ u settings,
    step RedirectGateway.samplePlatform (.init sampleConfig) (.tunStart (onOne "a a b")) = some u ∧
      usePersistedTun RedirectGateway.samplePlatform u (onEach ["a", "a", "b"]) = true ∧
      u.accepted = some settings ∧ settings.dnsSettings.isSome = true ∧ u.pushed = (onOne "a a b").opt ∧
      u.stopped = false :=
  sample_reuse (by rfl) (by rfl) (by rfl) (by rfl) (by rfl)

/-- The second session gets one domain where a tunnel of its own would get it two. -/
theorem leftEarly_unsound : ¬ Guarded (step RedirectGateway.samplePlatform)
    (fun s a _ => SoundReuse RedirectGateway.samplePlatform s a) (.init sampleConfig)
    [.tunStart (onOne "a a b"), .tunStart (onEach ["a", "a", "b"])] := by
  intro h
  obtain ⟨u, settings, hstep, huse, haccepted, hdns, hpushed, hlive⟩ := sample_leftEarly
  have hsecond := (h u hstep).2
  have hstep' : step RedirectGateway.samplePlatform u (.tunStart (onEach ["a", "a", "b"])) = some _ :=
    if_neg (by rw [hlive]; exact Bool.false_ne_true)
  have hcut := (sound_iff samplePlatform_printing (persisted_step samplePlatform_printing (persisted_init _) hstep)
    hlive _).mp (hsecond _ hstep').1 huse settings haccepted
  rw [hpushed] at hcut
  exact absurd (hcut.1 hdns) (by decide)

theorem sample_repeatLast : ∃ u settings,
    step RedirectGateway.samplePlatform (.init sampleConfig) (.tunStart (onOne "a b a")) = some u ∧
      usePersistedTun RedirectGateway.samplePlatform u (onEach ["a", "b", "a"]) = true ∧
      u.accepted = some settings ∧ settings.dnsSettings.isSome = true ∧ u.pushed = (onOne "a b a").opt ∧
      u.stopped = false :=
  sample_reuse (by rfl) (by rfl) (by rfl) (by rfl) (by rfl)

theorem repeatLast_sound : Guarded (step RedirectGateway.samplePlatform)
    (fun s a _ => SoundReuse RedirectGateway.samplePlatform s a) (.init sampleConfig)
    [.tunStart (onOne "a b a"), .tunStart (onEach ["a", "b", "a"])] := by
  refine (soundReuse_iff_cutAlike samplePlatform_printing _ _).mpr fun t ht =>
      ⟨fun huse => ?_, fun _ _ => ⟨?_, trivial⟩⟩
  · exact absurd rfl (usePersistedTun_iff.mp huse).1
  · obtain ⟨u, settings, hstep, -, -, -, hpushed, -⟩ := sample_repeatLast
    obtain rfl : u = t := Option.some.inj (hstep.symm.trans ht)
    intro _ _ _
    rw [hpushed]
    exact ⟨fun _ => by decide, fun _ => by decide⟩

end OpenVPNAdapter.PersistedTunnel
