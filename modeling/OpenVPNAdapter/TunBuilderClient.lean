import OpenVPNAdapter.PacketFlowBridge

namespace OpenVPNAdapter.TunBuilderClient

open Library.Descriptors PacketFlowBridge

/-- The adapter behind `TunBuilderBase` with the descriptors of its process: `created` lists those that
`socketpair` returned, `others` those that the rest of the process holds open. -/
structure Builder where
  kernel : Table
  bridge : Bridge
  created : List Handle
  others : List Handle
deriving DecidableEq, Repr

namespace Builder

def resetTun (b : Builder) : Builder :=
  { b with
    kernel := (invalidateSocketsIfNeeded b.kernel b.bridge).1
    bridge := (invalidateSocketsIfNeeded b.kernel b.bridge).2 }

def tunBuilderNew (b : Builder) : Builder := b.resetTun

def tunBuilderTeardown (b : Builder) : Builder := b.resetTun

/-- The descriptors that `socketpair` returns on the way, the later one first. -/
def pairCreated (delegate : TunnelConfiguration) (calls : SocketCalls) (t : Table) : List Handle :=
  if delegate = .accepted && calls.socketpair then [next (allocate t), next t] else []

/-- The descriptor for the core is that of `openVPNSocket`; `none` is `INVALID_SOCKET`. -/
def tunBuilderEstablish (delegate : TunnelConfiguration) (calls : SocketCalls) (b : Builder) :
    Option Handle × Builder :=
  let (established, kernel, bridge) := establishTunnel delegate calls b.kernel b.bridge
  (if established then bridge.openVPNSocket else none,
    { b with
      kernel := kernel
      bridge := bridge
      created := pairCreated delegate calls b.kernel ++ b.created })

/-- `ScopedFD::close`. -/
def closeFd (fd : Option Handle) (b : Builder) : Builder :=
  match fd with
  | none => b
  | some h => { b with kernel := close b.kernel h }

def openOther (b : Builder) : Builder :=
  { b with kernel := allocate b.kernel, others := next b.kernel :: b.others }

def closeOther (h : Handle) (b : Builder) : Builder :=
  { b with kernel := close b.kernel h, others := b.others.erase h }

end Builder

/-- What `tun_start` meets: the text of the captured settings (`none` where the capture throws), the
answer of `tun_builder_persist`, whether `configure_builder` comes through, the delegate's reply and the
system calls of `tun_builder_establish`, and whether the tunnel's reader starts. -/
structure Setup where
  copt : Option String
  tunBuilderPersist : Bool
  configured : Bool
  delegate : TunnelConfiguration
  calls : SocketCalls
  started : Bool
deriving DecidableEq, Repr

/-- `TunPersist` with the `ScopedFD` of its `TunWrap`. Only where persistence is enabled are options kept. -/
structure TunPersist where
  enablePersistence : Bool
  retainObj : Bool
  obj : Option Handle
  options : String
  copt : Option String
  usePersistedTun : Bool
  kept : options ≠ "" → enablePersistence = true
deriving DecidableEq, Repr

namespace TunPersist

def new (enablePersistence retainObj : Bool) : TunPersist where
  enablePersistence := enablePersistence
  retainObj := retainObj
  obj := none
  options := ""
  copt := none
  usePersistedTun := false
  kept h := absurd rfl h

/-- The descriptor that `close` closes. -/
def armed (o : TunPersist) : Option Handle := if o.retainObj then none else o.obj

/-- `close`: `close_local`, then that of `TunWrap`. The destructors do the same, and nothing is left
for that of `ScopedFD`. -/
def close (o : TunPersist) (b : Builder) : TunPersist × Builder :=
  ({ o with options := "", obj := none, kept := fun h => absurd rfl h }, b.tunBuilderTeardown.closeFd o.armed)

def saveReplaceSock (sd : Handle) (o : TunPersist) (b : Builder) : TunPersist × Builder :=
  ({ o with obj := some sd }, b.closeFd o.armed)

/-- `use_persisted_tun`. -/
def matchPersisted (x : Setup) (o : TunPersist) : TunPersist :=
  let copt := if o.enablePersistence then x.copt else o.copt
  { o with
    copt := copt
    usePersistedTun :=
        o.obj.isSome && copt.isSome && o.options ≠ "" && copt = some o.options && x.tunBuilderPersist }

def persistTunState (sd : Handle) (o : TunPersist) (b : Builder) : TunPersist × Builder :=
  let (o, b) := if !o.enablePersistence || !o.usePersistedTun then o.saveReplaceSock sd b else (o, b)
  match o.copt with
  | none => (o, b)
  | some text =>
      if h : o.enablePersistence = true ∧
        o.usePersistedTun = false then ({ o with options := text, kept := fun _ => h.1 }, b)
      else (o, b)

end TunPersist

/-- How the set-up inside `tun_start` ends: with a reader of `sd`, at `sd == -1`, or in the handler of
its exceptions. -/
inductive Started
  | running (sd : Handle)
  | noSocket
  | thrown
deriving DecidableEq, Repr

/-- The tunnel has its descriptor. -/
def launch (x : Setup) (sd : Handle) (o : TunPersist) (b : Builder) : Started × TunPersist × Builder :=
  (if x.started then .running sd else .thrown, o.persistTunState sd b)

/-- The body of `tun_start`'s `try`. -/
def tunSetup (x : Setup) (o : TunPersist) (b : Builder) : Started × TunPersist × Builder :=
  let o := o.matchPersisted x
  if o.usePersistedTun then
    match o.obj with
    | none => (.noSocket, o, b)
    | some sd => launch x sd o b
  else if x.configured then
    match b.tunBuilderNew.tunBuilderEstablish x.delegate x.calls with
    | (none, b) => (.noSocket, o, b)
    | (some sd, b) => launch x sd o b
  else (.thrown, o, b.tunBuilderNew)

/-- A client's pointer to a `TunPersist`: to that of the factory, or to one that it alone holds. -/
inductive Held
  | shared
  | owned (o : TunPersist)
deriving DecidableEq, Repr

/-- `impl` is the descriptor that the tunnel's reader works on, and leaves open when it stops. -/
structure Client where
  halt : Bool
  impl : Option Handle
  tunPersist : Option Held
deriving DecidableEq, Repr

/-- The tunnel side of the core over the adapter. `persist` is the long-term `TunPersist` of the
factory; `failed` is set once `tun_error` was called, which stops the session and its `ClientConnect`:
the next `tun_start` comes after another `connect`. -/
structure State where
  retainSd : Bool
  builder : Builder
  persist : Option TunPersist
  client : Option Client
  failed : Bool
  ended : Bool
deriving DecidableEq, Repr

def State.init (retainSd : Bool) : State :=
  ⟨retainSd, ⟨empty, PacketFlowBridge.init, [], []⟩, none, none, false, false⟩

inductive Action
  | connect (tunPersist : Bool)
  | newClient
  | tunStart (x : Setup)
  | stop
  | finalize (disconnected : Bool)
  | openOther
  | closeOther (h : Handle)
  | dealloc
deriving DecidableEq, Repr

namespace State

/-- The destructor of a `TunPersist`. -/
def destroy (o : TunPersist) (s : State) : State := { s with builder := (o.close s.builder).2 }

/-- The client lets go of its pointer. -/
def release (s : State) : State :=
  match s.client with
  | none => s
  | some c =>
      let s := { s with client := some { c with tunPersist := none } }
      match c.tunPersist with
      | some (.owned o) => s.destroy o
      | _ => s

/-- `Client::stop_`. -/
def stop (s : State) : State :=
  match s.client with
  | none => s
  | some c => if c.halt then s else { s with client := some { c with halt := true } }.release

/-- `ClientConfig::finalize`. A client that shares the `TunPersist` is its only holder from then on. -/
def finalize (disconnected : Bool) (s : State) : State :=
  match s.persist with
  | none => s
  | some o =>
      if disconnected then
        match s.client with
        | some ⟨halt, impl, some .shared⟩ =>
            { s with persist := none, client := some ⟨halt, impl, some (.owned o)⟩ }
        | _ => { s with persist := none }.destroy o
      else s

/-- The destructor of a client, which is gone with its session. -/
def destroyClient (s : State) : State := { s.stop.release with client := none }

def newClient (s : State) : State := { s.destroyClient with client := some ⟨false, none, none⟩ }

/-- The client holds `o`, the factory's `TunPersist` where there is one. -/
def hold (o : TunPersist) (b : Builder) (impl : Option Handle) (s : State) : State :=
  match s.persist with
  | some _ => { s with builder := b, persist := some o, client := some ⟨false, impl, some .shared⟩ }
  | none => { s with builder := b, client := some ⟨false, impl, some (.owned o)⟩ }

def tunStart (x : Setup) (s : State) : State :=
  let s := s.release
  match tunSetup x (s.persist.getD (.new false s.retainSd)) s.builder with
  | (.running sd, o, b) => s.hold o b (some sd)
  | (.noSocket, o, b) => { s.hold o b none with failed := true }
  | (.thrown, o, b) =>
      let (o, b) := o.close b
      { (s.hold o b none).stop with failed := true }

/-- A new `ClientOptions`, after the last one is gone. -/
def connect (tunPersist : Bool) (s : State) : State :=
  let s := s.destroyClient.finalize true
  { s with
    persist := if tunPersist then some (.new true s.retainSd) else none
    failed := false }

/-- The adapter is deallocated, and its bridge with it. -/
def dealloc (s : State) : State :=
  let s := s.destroyClient.finalize true
  { s with builder := s.builder.resetTun, ended := true }

def step (s : State) (a : Action) : Option State :=
  if s.ended then none
  else match a with
    | .connect tunPersist => some (s.connect tunPersist)
    | .newClient => if s.failed then none else some s.newClient
    | .tunStart x =>
        match s.client with
        | none => none
        | some c => if s.failed || c.impl.isSome then none else some (s.tunStart x)
    | .stop => some s.stop
    | .finalize disconnected => some (s.finalize disconnected)
    | .openOther => some { s with builder := s.builder.openOther }
    | .closeOther h => if h ∈ s.builder.others then some { s with builder := s.builder.closeOther h } else none
    | .dealloc => some s.dealloc

/-- The descriptor of the tunnel that runs. -/
def live (s : State) : Option Handle := s.client.bind fun c => if c.halt then none else c.impl

end State

end OpenVPNAdapter.TunBuilderClient
