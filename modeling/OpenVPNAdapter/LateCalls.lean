import OpenVPNAdapter.Library.Runs
import OpenVPNAdapter.ApplySteps

namespace OpenVPNAdapter.LateCalls

open Library.Runs Library.Effect Options ClientConfig ClientAPI ApplyConfiguration ApplySteps

inductive Field
  | options
  | eval
  | serverOverride
  | portOverride
  | protoOverride
  | ipv6
  | connTimeout
  | tunPersist
  | wintun
  | googleDnsFallback
  | synchronousDnsLookup
  | autologinSessions
  | retryOnAuthFailed
  | privateKeyPassword
  | externalPkiAlias
  | disableClientCert
  | sslDebugLevel
  | defaultKeyDirection
  | tlsVersionMinOverride
  | tlsCertProfileOverride
  | tlsCipherList
  | tlsCiphersuiteList
  | guiVersion
  | ssoMethods
  | allowLocalLanAccess
  | hwAddrOverride
  | platformVersion
  | compressionMode
  | extraPeerInfo
  | httpProxyOptions
  | clockTickMs
  | altProxy
  | dco
  | echo
  | info
deriving DecidableEq, Repr

inductive Value
  | options (options : OptionList)
  | eval (eval : EvalConfig)
  | text (text : String)
  | flag (flag : Bool)
  | number (number : Int)
  | proto (proto : Protocol)
  | ipv6 (setting : IPv6Setting)
  | compression (mode : CompressionMode)
  | peerInfo (peerInfo : List KeyValue)
  | proxy (proxy : Option HttpProxyOptions)
deriving DecidableEq, Repr

def Field.get (f : Field) (s : ClientState) : Value :=
  match f with
  | .options => .options s.options
  | .eval => .eval s.eval
  | .serverOverride => .text s.serverOverride
  | .portOverride => .text s.portOverride
  | .protoOverride => .proto s.protoOverride
  | .ipv6 => .ipv6 s.ipv6
  | .connTimeout => .number s.connTimeout
  | .tunPersist => .flag s.tunPersist
  | .wintun => .flag s.wintun
  | .googleDnsFallback => .flag s.googleDnsFallback
  | .synchronousDnsLookup => .flag s.synchronousDnsLookup
  | .autologinSessions => .flag s.autologinSessions
  | .retryOnAuthFailed => .flag s.retryOnAuthFailed
  | .privateKeyPassword => .text s.privateKeyPassword
  | .externalPkiAlias => .text s.externalPkiAlias
  | .disableClientCert => .flag s.disableClientCert
  | .sslDebugLevel => .number s.sslDebugLevel
  | .defaultKeyDirection => .number s.defaultKeyDirection
  | .tlsVersionMinOverride => .text s.tlsVersionMinOverride
  | .tlsCertProfileOverride => .text s.tlsCertProfileOverride
  | .tlsCipherList => .text s.tlsCipherList
  | .tlsCiphersuiteList => .text s.tlsCiphersuiteList
  | .guiVersion => .text s.guiVersion
  | .ssoMethods => .text s.ssoMethods
  | .allowLocalLanAccess => .flag s.allowLocalLanAccess
  | .hwAddrOverride => .text s.hwAddrOverride
  | .platformVersion => .text s.platformVersion
  | .compressionMode => .compression s.compressionMode
  | .extraPeerInfo => .peerInfo s.extraPeerInfo
  | .httpProxyOptions => .proxy s.httpProxyOptions
  | .clockTickMs => .number s.clockTickMs
  | .altProxy => .flag s.altProxy
  | .dco => .flag s.dco
  | .echo => .flag s.echo
  | .info => .flag s.info

/-- What the worker reads of the client state up to the end of `connect_setup`, statement by statement:
first `attach`, last the constructor of the client options and the clock tick. -/
def connectSetup : List (List Field) :=
  [[.options], [.sslDebugLevel], [.serverOverride], [.portOverride], [.protoOverride], [.ipv6], [.connTimeout],
    [.tunPersist], [.wintun], [.googleDnsFallback], [.synchronousDnsLookup], [.autologinSessions],
    [.retryOnAuthFailed],
    [.httpProxyOptions], [.altProxy], [.dco], [.echo], [.info], [.privateKeyPassword], [.disableClientCert],
    [.sslDebugLevel], [.defaultKeyDirection], [.tlsVersionMinOverride], [.tlsCertProfileOverride],
    [.tlsCipherList],
    [.tlsCiphersuiteList], [.guiVersion], [.ssoMethods], [.hwAddrOverride], [.platformVersion], [.extraPeerInfo],
    [.allowLocalLanAccess], [.eval], [.eval, .disableClientCert], [.externalPkiAlias],
    [.options, .compressionMode],
    [.clockTickMs]]

/-- What the session goes on to read: `proto_context_options` is shared, not copied. -/
def whileRunning : List Field := [.compressionMode]

abbrev Flow := Nat

/-- `persist none` stands for an answer read from a deleted configuration. -/
inductive Observation
  | read (field : Field) (value : Value)
  | persist (answer : Option Bool)
  | reading (flow : Flow)
  | writing (flow : Flow)
deriving DecidableEq, Repr

/-- `workers` counts the dispatched blocks that have not called `connect_attach` yet, `setup` is what the
worker that attached, or is to attach, has before it. -/
structure State where
  shared : Shared
  caller : Caller
  packetFlow : Flow
  workers : Nat
  attached : Bool
  setup : List (List Field)
  observed : List Observation

/-- The first connect has returned. -/
def start (client : Client) (flow : Flow) : State := ⟨.ofClient client, .idle, flow, 1, false, connectSetup, []⟩

inductive Action
  | attach
  | read (field : Field)
  | advance
  | tunBuilderPersist
  | startReading
  | writePackets
  | attachThrows
  | applyConfiguration (config : Config)
  | callerStep
  | connectUsingPacketFlow (flow : Flow)
deriving DecidableEq, Repr

/-- The steps of the session. The others are the calls that come late, and the attempt
of a further worker to attach. -/
def own : Action → Bool
  | .attachThrows => false
  | .applyConfiguration _ => false
  | .callerStep => false
  | .connectUsingPacketFlow _ => false
  | _ => true

def State.observe (o : Observation) (s : State) : State := { s with observed := s.observed ++ [o] }

/-- The fields the next statement reads. -/
def State.current (s : State) : List Field := s.setup.head?.getD whileRunning

/-- The fields that may still be read. -/
def State.pending (s : State) : List Field := s.setup.flatten ++ whileRunning

def State.running (s : State) : Bool := s.attached && s.setup.isEmpty

variable (core : Core) (passing : Config → List OptionList)

def step (s : State) : Action → Option State
  | .attach =>
      if ¬s.attached ∧ 0 < s.workers then some { s with attached := true, workers := s.workers - 1 } else none
  | .read f => if s.attached ∧ f ∈ s.current then some (s.observe (.read f (f.get s.shared.state))) else none
  | .advance =>
      match s.setup with
      | [] => none
      | _ :: rest => if s.attached then some { s with setup := rest } else none
  | .tunBuilderPersist =>
      -- `config` is a plain pointer, null before the first configuration
      if s.running ∧ s.shared.copy ≠ .null then some (s.observe (.persist s.shared.copy.tunPersist)) else none
  | .startReading => if s.running then some (s.observe (.reading s.packetFlow)) else none
  | .writePackets => if s.running then some (s.observe (.writing s.packetFlow)) else none
  | .attachThrows => if s.attached ∧ 0 < s.workers then some { s with workers := s.workers - 1 } else none
  | .applyConfiguration config =>
      match s.caller with
      | .idle => some { s with caller := .entered config }
      | _ => none
  | .callerStep =>
      let (caller, shared) := callerStep core passing (s.caller, s.shared)
      some { s with caller := caller, shared := shared }
  | .connectUsingPacketFlow flow =>
      match s.caller with
      | .idle => some { s with packetFlow := flow, workers := s.workers + 1 }
      | _ => none

/-- The session cannot tell the run from the one without the late calls. -/
def Unchanged (client : Client) (flow : Flow) (as : List Action) : Prop :=
  ∀ s, run (step core passing) (start client flow) as = some s →
    ∃ s', run (step core passing) (start client flow) (as.filter own) = some s' ∧ s'.observed = s.observed

/-- The statements of a late call that say nothing new about what is still to be read: the stored
`tunPersist` again, the options in place again, or none at all because the first checks fail, and in each
field the value it has. -/
def SaysTheSame (pending : List Field) : Caller → Shared → Prop
  | .entered config, s => s.copy.tunPersist = some config.tunPersist
  | .stored config, s =>
      validate config ≠ .ok () ∨ Field.options ∉ pending ∨
        (core.parseClientConfig config.content config.contentList).1 = s.state.options
  | .assigning _ (put :: _), s => ∀ f ∈ pending, f.get (put s.state) = f.get s.state
  | .assigning config [], s => Field.eval ∈ pending → evaluated core config s.state = s.state.eval
  | _, _ => True

/-- Late calls say nothing new, no connect brings another packet flow, and the session does not look at
the options or at the copy of the configuration while a call has them cleared or deleted. -/
def Inert (s : State) (a : Action) (_ : State) : Prop :=
  match a with
  | .read f => f = .options → s.caller.isParsing = false
  | .tunBuilderPersist => s.shared.copy ≠ .deleted
  | .callerStep => SaysTheSame core s.pending s.caller s.shared
  | .connectUsingPacketFlow flow => flow = s.packetFlow
  | _ => True

instance (pending : List Field) : ∀ c s, Decidable (SaysTheSame core pending c s)
  | .entered config, s => inferInstanceAs (Decidable (s.copy.tunPersist = some config.tunPersist))
  | .stored config, s => inferInstanceAs (Decidable (validate config ≠ .ok () ∨ Field.options ∉ pending ∨
      (core.parseClientConfig config.content config.contentList).1 = s.state.options))
  | .assigning _ (put :: _), s => inferInstanceAs (Decidable (∀ f ∈ pending, f.get (put s.state) = f.get s.state))
  | .assigning config [], s =>
      inferInstanceAs (Decidable (Field.eval ∈ pending → evaluated core config s.state = s.state.eval))
  | .idle, _ | .deleted _, _ | .parsing _ _, _ => inferInstanceAs (Decidable True)

instance : ∀ s a t, Decidable (Inert core s a t)
  | s, .read f, _ => inferInstanceAs (Decidable (f = .options → s.caller.isParsing = false))
  | s, .tunBuilderPersist, _ => inferInstanceAs (Decidable (s.shared.copy ≠ .deleted))
  | s, .callerStep, _ => inferInstanceAs (Decidable (SaysTheSame core s.pending s.caller s.shared))
  | s, .connectUsingPacketFlow flow, _ => inferInstanceAs (Decidable (flow = s.packetFlow))
  | _, .attach, _ | _, .advance, _ | _, .startReading, _ | _, .writePackets, _ | _, .attachThrows, _
  | _, .applyConfiguration _, _ => inferInstanceAs (Decidable True)

/-- The client state that the parser of a call in progress is about to leave. -/
def State.settled (s : State) : ClientState :=
  match s.caller with
  | .parsing config _ =>
      { s.shared.state with options := (core.parseClientConfig config.content config.contentList).1 }
  | _ => s.shared.state

def State.tunPersist (s : State) : Option Bool :=
  match s.caller with
  | .deleted config => some config.tunPersist
  | _ => s.shared.copy.tunPersist

/-- The state of a run against that of the run without the late calls. -/
structure Related (s s' : State) : Prop where
  attached : s.attached = s'.attached
  setup : s.setup = s'.setup
  observed : s.observed = s'.observed
  packetFlow : s.packetFlow = s'.packetFlow
  tunPersist : s.tunPersist = s'.shared.copy.tunPersist
  deleted : ∀ config, s.caller = .deleted config → s.shared.copy = .deleted
  reads : ∀ f ∈ s.pending, f.get (s.settled core) = f.get s'.shared.state
  workers : s.attached = false → 0 < s'.workers

theorem Field.get_options {f : Field} (hf : f ≠ .options) (s : ClientState) (options : OptionList) :
    f.get { s with options := options } = f.get s := by
  cases f <;> first | rfl | exact absurd rfl hf

theorem Field.get_eval {f : Field} (hf : f ≠ .eval) (s : ClientState) (eval : EvalConfig) :
    f.get { s with eval := eval } = f.get s := by
  cases f <;> first | rfl | exact absurd rfl hf

theorem current_pending {s : State} {f : Field} (h : f ∈ s.current) : f ∈ s.pending := by
  unfold State.current at h
  unfold State.pending
  cases hs : s.setup with
  | nil => rw [hs] at h; exact h
  | cons fs rest =>
      rw [hs] at h
      exact List.mem_append_left _ (List.mem_append_left _ h)

variable {core passing}

theorem Related.observe {s s' : State} (h : Related core s s') (o : Observation) :
    Related core (s.observe o) (s'.observe o) :=
  ⟨h.attached, h.setup, congrArg (· ++ [o]) h.observed, h.packetFlow, h.tunPersist, h.deleted, h.reads, h.workers⟩

/-- What is still to be read has its final value already, the options while they are parsed excepted. -/
theorem get_settled {s : State} {f : Field} (h : f = .options → s.caller.isParsing = false) :
    f.get (s.settled core) = f.get s.shared.state := by
  unfold State.settled
  cases hc : s.caller with
  | parsing config rest =>
      have hf : f ≠ .options := fun hf => by rw [hc] at h; cases h hf
      exact Field.get_options hf _ _
  | _ => rfl

/-- A late call changes what the threads share and where its own thread is, and nothing else. -/
theorem Related.caller {s s' : State} (h : Related core s s') {caller : Caller} {shared : Shared}
    (hpersist : ({ s with caller := caller, shared := shared } : State).tunPersist = s.tunPersist)
    (hdeleted : ∀ config, caller = .deleted config → shared.copy = .deleted)
    (hreads : ∀ f ∈ s.pending,
      f.get (({ s with caller := caller, shared := shared } : State).settled core) = f.get (s.settled core)) :
    Related core { s with caller := caller, shared := shared } s' where
  attached := h.attached
  setup := h.setup
  observed := h.observed
  packetFlow := h.packetFlow
  tunPersist := hpersist.trans h.tunPersist
  deleted := hdeleted
  reads f hf := (hreads f hf).trans (h.reads f hf)
  workers := h.workers

theorem callerStep_related {s s' t : State} (h : Related core s s')
    (hC : SaysTheSame core s.pending s.caller s.shared)
    (ht : step core passing s .callerStep = some t) : Related core t s' := by
  obtain ⟨shared, caller, packetFlow, workers, attached, setup, observed⟩ := s
  obtain rfl := Option.some.inj ht
  cases caller with
  | idle => exact h
  | entered config =>
      apply h.caller
      · exact (show shared.copy.tunPersist = some config.tunPersist from hC).symm
      · intro _ _
        change shared.copy.delete = .deleted
        cases hcopy : shared.copy with
        | null => rw [SaysTheSame, hcopy] at hC; cases hC
        | _ => rfl
      · exact fun _ _ => rfl
  | deleted config => exact h.caller rfl (fun _ h => (by cases h)) fun _ _ => rfl
  | stored config =>
      cases hv : validate config with
      | error e =>
          simp only [hv]
          exact h.caller rfl (fun _ h => (by cases h)) fun _ _ => rfl
      | ok _ =>
          simp only [hv]
          refine h.caller rfl (fun _ h => (by cases h)) fun f hf => ?_
          by_cases hoptions : f = .options
          · subst hoptions
            rcases hC with hC | hC | hC
            · exact absurd hv hC
            · exact absurd hf hC
            · exact congrArg Value.options hC
          · exact (Field.get_options hoptions _ _).trans (Field.get_options hoptions _ _)
  | parsing config rest =>
      cases rest with
      | cons options rest => exact h.caller rfl (fun _ h => (by cases h)) fun _ _ => rfl
      | nil =>
          by_cases herror : (evaluation core config).error = true
          · simp only [if_pos herror]
            exact h.caller rfl (fun _ h => (by cases h)) fun _ _ => rfl
          · simp only [if_neg herror]
            exact h.caller rfl (fun _ h => (by cases h)) fun _ _ => rfl
  | assigning config rest =>
      cases rest with
      | cons put rest => exact h.caller rfl (fun _ h => (by cases h)) hC
      | nil =>
          refine h.caller rfl (fun _ h => (by cases h)) fun f hf => ?_
          by_cases heval : f = .eval
          · subst heval
            exact congrArg Value.eval (hC hf)
          · exact Field.get_eval heval _ _

theorem other_related {s s' t : State} {a : Action} (h : Related core s s') (ha : own a = false)
    (ht : step core passing s a = some t) (hC : Inert core s a t) : Related core t s' := by
  cases a with
  | attachThrows =>
      obtain ⟨hattached, hsetup, hobserved, hflow, hpersist, hdeleted, hreads, hworkers⟩ := h
      simp only [step, Option.ite_none_right_eq_some, Option.some.injEq] at ht
      obtain ⟨-, rfl⟩ := ht
      exact ⟨hattached, hsetup, hobserved, hflow, hpersist, hdeleted, hreads, hworkers⟩
  | applyConfiguration config =>
      obtain ⟨shared, caller, packetFlow, workers, attached, setup, observed⟩ := s
      cases caller with
      | idle =>
          obtain rfl := Option.some.inj ht
          exact h.caller rfl (fun _ h => (by cases h)) fun _ _ => rfl
      | _ => cases ht
  | callerStep => exact callerStep_related h hC ht
  | connectUsingPacketFlow flow =>
      obtain ⟨shared, caller, packetFlow, workers, attached, setup, observed⟩ := s
      obtain ⟨hattached, hsetup, hobserved, hflow, hpersist, hdeleted, hreads, hworkers⟩ := h
      cases caller with
      | idle =>
          obtain rfl := Option.some.inj ht
          exact ⟨hattached, hsetup, hobserved, (show flow = packetFlow from hC).trans hflow, hpersist,
            fun _ h => (by cases h), hreads, hworkers⟩
      | _ => cases ht
  | attach | read | advance | tunBuilderPersist | startReading | writePackets => cases ha

theorem running_eq {s s' : State} (h : Related core s s') : s.running = s'.running := by
  rw [State.running, State.running, h.attached, h.setup]

theorem own_related {s s' t : State} {a : Action} (h : Related core s s') (ha : own a = true)
    (ht : step core passing s a = some t) (hC : Inert core s a t) :
    ∃ t', step core passing s' a = some t' ∧ Related core t t' := by
  cases a with
  | attachThrows | applyConfiguration | callerStep | connectUsingPacketFlow => cases ha
  | attach =>
      obtain ⟨hattached, hsetup, hobserved, hflow, hpersist, hdeleted, hreads, hworkers⟩ := h
      simp only [step, Option.ite_none_right_eq_some, Option.some.injEq] at ht
      obtain ⟨⟨hno, -⟩, rfl⟩ := ht
      refine ⟨_, if_pos ⟨hattached ▸ hno, hworkers (Bool.not_eq_true _ ▸ hno)⟩, ?_⟩
      exact ⟨rfl, hsetup, hobserved, hflow, hpersist, hdeleted, hreads, fun hp => (by cases hp)⟩
  | read f =>
      simp only [step, Option.ite_none_right_eq_some, Option.some.injEq] at ht
      obtain ⟨⟨hyes, hf⟩, rfl⟩ := ht
      have hget : f.get s.shared.state = f.get s'.shared.state :=
        (get_settled hC).symm.trans (h.reads f (current_pending hf))
      have hf' : f ∈ s'.current := by rwa [State.current, ← h.setup]
      refine ⟨_, if_pos ⟨h.attached ▸ hyes, hf'⟩, ?_⟩
      rw [hget]
      exact h.observe _
  | advance =>
      obtain ⟨hattached, hsetup, hobserved, hflow, hpersist, hdeleted, hreads, hworkers⟩ := h
      simp only [step] at ht ⊢
      rw [← hsetup]
      cases hs : s.setup with
      | nil => rw [hs] at ht; cases ht
      | cons fs rest =>
          rw [hs] at ht
          simp only [Option.ite_none_right_eq_some, Option.some.injEq] at ht ⊢
          obtain ⟨hyes, rfl⟩ := ht
          refine ⟨_, ⟨hattached ▸ hyes, rfl⟩, ?_⟩
          refine ⟨hattached, rfl, hobserved, hflow, hpersist, hdeleted, fun f hf => hreads f ?_, hworkers⟩
          rw [State.pending, hs, List.flatten_cons, List.append_assoc]
          exact List.mem_append_right _ hf
  | tunBuilderPersist =>
      simp only [step, Option.ite_none_right_eq_some, Option.some.injEq] at ht
      obtain ⟨⟨hrun, hnull⟩, rfl⟩ := ht
      have hpersist : s.shared.copy.tunPersist = s'.shared.copy.tunPersist := by
        rw [← h.tunPersist, State.tunPersist]
        cases hc : s.caller with
        | deleted config => exact absurd (h.deleted config hc) hC
        | _ => rfl
      have hnull' : s'.shared.copy ≠ .null := by
        intro hcopy
        rw [hcopy] at hpersist
        cases hs : s.shared.copy with
        | null => exact hnull hs
        | deleted => exact hC hs
        | stored config => rw [hs] at hpersist; cases hpersist
      refine ⟨_, if_pos ⟨running_eq h ▸ hrun, hnull'⟩, ?_⟩
      rw [hpersist]
      exact h.observe _
  | startReading =>
      simp only [step, Option.ite_none_right_eq_some, Option.some.injEq] at ht
      obtain ⟨hrun, rfl⟩ := ht
      refine ⟨_, if_pos (running_eq h ▸ hrun), ?_⟩
      rw [h.packetFlow]
      exact h.observe _
  | writePackets =>
      simp only [step, Option.ite_none_right_eq_some, Option.some.injEq] at ht
      obtain ⟨hrun, rfl⟩ := ht
      refine ⟨_, if_pos (running_eq h ▸ hrun), ?_⟩
      rw [h.packetFlow]
      exact h.observe _

/-- An adapter that was configured before the connect. -/
def configured : Client := (applyConfiguration sampleCore sampleConfig (.fresh false)).2

/-- The parser adds the options of the profile one after the other. -/
def samplePassing (config : Config) : List OptionList :=
  (sampleCore.parseClientConfig config.content config.contentList).1.inits

/-- A second configuration, up to the assignment of its server, before the worker has started. -/
def lateConfiguration : List Action :=
  .applyConfiguration { sampleConfig with serverOverride := "other.example" } :: List.replicate 13 .callerStep ++
    [.attach, .advance, .advance, .read .serverOverride]

/-- The same configuration again while the worker is busy with something else than the options. -/
def repeated : List Action :=
  [.attach, .read .options, .advance, .applyConfiguration sampleConfig] ++ List.replicate 41 .callerStep ++
    [.read .sslDebugLevel, .advance, .read .serverOverride, .connectUsingPacketFlow 0]

end OpenVPNAdapter.LateCalls
