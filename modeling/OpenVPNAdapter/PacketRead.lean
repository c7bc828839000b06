import OpenVPNAdapter.Library.Runs
import OpenVPNAdapter.PacketFlowBridge

namespace OpenVPNAdapter.PacketRead

open Library.Descriptors Library.Runs PacketFlowBridge

structure State where
  table : Table
  bridge : Bridge
deriving DecidableEq, Repr

/-- The adapter's callbacks that reach the bridge, and the completion of a read request.
A reconnect is a teardown followed by the callbacks of the next set-up. -/
inductive Action
  | tunBuilderNew
  | tunBuilderEstablish (delegate : TunnelConfiguration) (calls : SocketCalls)
  | tunBuilderTeardown
  | readCompleted (request : Nat)
deriving DecidableEq, Repr

def start : State := ⟨Library.Descriptors.empty, PacketFlowBridge.init⟩

/-- `resetTun` as far as the bridge is concerned. -/
def resetTun (s : State) : State :=
  let (t, b) := invalidateSocketsIfNeeded s.table s.bridge
  ⟨t, b⟩

def step (s : State) : Action → Option State
  | .tunBuilderNew => some (resetTun s)
  | .tunBuilderEstablish delegate calls =>
      let (_, t, b) := establishTunnel delegate calls s.table s.bridge
      some ⟨t, b⟩
  | .tunBuilderTeardown => some (resetTun s)
  | .readCompleted request =>
      if request ∈ s.bridge.reads then some ⟨s.table, readCompleted request s.bridge⟩ else none

def succeeds : Action → Bool
  | .tunBuilderEstablish delegate calls => establishes delegate calls
  | _ => false

def AtMostOneRead (s : State) : Prop := s.bridge.reads.length ≤ 1

/-- Right after a successful establish one request is outstanding. -/
def OneReadOnceEstablished (_ : State) (a : Action) (t : State) : Prop :=
  succeeds a = true → t.bridge.reads.length = 1

theorem resetTun_reads (s : State) : (resetTun s).bridge.reads = s.bridge.reads :=
  invalidateSocketsIfNeeded_reads s.table s.bridge

theorem step_reads {s t : State} {a : Action} (h : step s a = some t) :
    t.bridge.reads.length = s.bridge.reads.length + if succeeds a then 1 else 0 := by
  cases a with
  | tunBuilderNew | tunBuilderTeardown =>
      obtain rfl := Option.some.inj h
      simp [resetTun_reads, succeeds]
  | tunBuilderEstablish delegate calls =>
      obtain rfl := Option.some.inj h
      exact establishTunnel_reads delegate calls s.table s.bridge
  | readCompleted request =>
      simp only [step] at h
      split at h
      · rename_i hr
        obtain rfl := Option.some.inj h
        simpa [succeeds] using readCompleted_reads hr
      · cases h

theorem run_reads {s t : State} {as : List Action} (h : run step s as = some t) :
    t.bridge.reads.length = s.bridge.reads.length + as.countP succeeds := by
  induction as generalizing s with
  | nil =>
      obtain rfl := Option.some.inj h
      rfl
  | cons a as ih =>
      obtain ⟨u, hu, hut⟩ := run_cons_eq_some.mp h
      have hstep := step_reads hu
      have hrest := ih hut
      rw [List.countP_cons]
      omega

/-- Every successful establish adds a reading loop and nothing ends one, so the reads stay
single exactly in the runs with at most one successful establish. -/
theorem one_read_iff_one_establish {as : List Action} {s : State} (h : run step start as = some s) :
    (Throughout step AtMostOneRead start as ∧ Guarded step OneReadOnceEstablished start as) ↔
      as.countP succeeds ≤ 1 := by
  have hreads := run_reads h
  have hstart : start.bridge.reads.length = 0 := rfl
  constructor
  · rintro ⟨hone, -⟩
    have hlast : s.bridge.reads.length ≤ 1 := hone.last h
    omega
  · intro hcount
    have hone : Throughout step AtMostOneRead start as := by
      rw [throughout_iff_reached]
      intro bs t hbs ht
      have hprefix := hbs.sublist.countP_le (p := succeeds)
      have ht' := run_reads ht
      rw [AtMostOneRead]
      omega
    refine ⟨hone, guarded_of_throughout (fun u a v _ hv hI ha => ?_) hone⟩
    have hstep := step_reads hv
    rw [if_pos ha] at hstep
    rw [AtMostOneRead] at hI
    omega

def allSucceed : SocketCalls := ⟨true, true, true, true⟩

/-- A session that comes up, is torn down and comes up again. -/
def reconnecting : List Action :=
  [.tunBuilderNew, .tunBuilderEstablish .accepted allSucceed, .readCompleted 0, .tunBuilderTeardown,
    .tunBuilderNew, .tunBuilderEstablish .accepted allSucceed]

theorem reconnecting_reads_twice :
    (run step start reconnecting).isSome ∧
      ¬(Throughout step AtMostOneRead start reconnecting ∧
        Guarded step OneReadOnceEstablished start reconnecting) := by
  have hrun : (run step start reconnecting).isSome := by decide
  obtain ⟨s, hs⟩ := Option.isSome_iff_exists.mp hrun
  refine ⟨hrun, fun h => ?_⟩
  have hlast : s.bridge.reads.length ≤ 1 := h.1.last hs
  have hreads := run_reads hs
  have hcount : reconnecting.countP succeeds = 2 := by decide
  omega

/-- A session that fails to come up once and then comes up. -/
def comingUp : List Action :=
  [.tunBuilderNew, .tunBuilderEstablish .timeout allSucceed, .tunBuilderNew,
    .tunBuilderEstablish .accepted allSucceed, .readCompleted 0, .tunBuilderTeardown]

theorem comingUp_reads_once :
    comingUp.countP succeeds ≤ 1 ∧ Throughout step AtMostOneRead start comingUp ∧
      Guarded step OneReadOnceEstablished start comingUp := by
  have hcount : comingUp.countP succeeds ≤ 1 := by decide
  have hrun : (run step start comingUp).isSome := by decide
  obtain ⟨s, hs⟩ := Option.isSome_iff_exists.mp hrun
  exact ⟨hcount, (one_read_iff_one_establish hs).mpr hcount⟩

end OpenVPNAdapter.PacketRead
