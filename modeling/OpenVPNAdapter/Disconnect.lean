import OpenVPNAdapter.Library.Runs

namespace OpenVPNAdapter.Disconnect

open Library.Runs

/-- How far the block that `connectUsingPacketFlow:` dispatches has got in `do_connect`. -/
inductive Worker
  | queued
  | dequeued
  | attached
  | built
  | started
  | scopesSetUp
  | running
  | returned
deriving DecidableEq, Repr

/-- `state->session`: not there yet, constructed, started, or with `halt` set. -/
inductive Session
  | absent
  | created
  | running
  | halted
deriving DecidableEq, Repr

/-- The client state shared by the worker and the threads that call `disconnect`.
`posted` counts the `graceful_stop` handlers queued on the `io_context`; `checked` and
`returned` count the `stop()` calls past the access check and those that returned. -/
structure State where
  worker : Worker
  session : Session
  foreignThreadReady : Bool
  stopCalled : Bool
  scopeRegistered : Bool
  posted : Nat
  executing : Bool
  checked : Nat
  returned : Nat
deriving DecidableEq, Repr

def start : State := ⟨.queued, .absent, false, false, false, 0, false, 0, 0⟩

inductive Action
  | dequeue
  | connectAttach
  | buildSession
  | startSession
  | setupAsyncStopScopes
  | enableForeignThreadAccess
  | setupReturnsStatus
  | setupThrows
  | sessionStops
  | runGracefulStop
  | gracefulStopDone
  | handlerThrows
  | loopReturns
  | isForeignThreadAccess
  | triggerAsyncStopLocal
deriving DecidableEq, Repr

/-- `session_started` of `do_connect`, read by its `catch` clause. -/
def sessionStarted (w : Worker) : Bool := w = .started || w = .scopesSetUp

def step (s : State) : Action → Option State
  | .dequeue => if s.worker = .queued then some { s with worker := .dequeued } else none
  | .connectAttach => if s.worker = .dequeued then some { s with worker := .attached } else none
  | .buildSession =>
      if s.worker = .attached then some { s with worker := .built, session := .created } else none
  | .startSession =>
      if s.worker = .built then some { s with worker := .started, session := .running } else none
  | .setupAsyncStopScopes =>
      -- the scope's constructor posts at once when `stop()` has already been called
      if s.worker = .started then
        some { s with
          worker := .scopesSetUp
          scopeRegistered := !s.stopCalled
          posted := s.posted + if s.stopCalled then 1 else 0 }
      else none
  | .enableForeignThreadAccess =>
      if s.worker = .scopesSetUp then some { s with worker := .running, foreignThreadReady := true } else none
  | .setupReturnsStatus => if s.worker = .attached then some { s with worker := .returned } else none
  | .setupThrows =>
      if s.worker ∈ [.dequeued, .attached, .built, .started, .scopesSetUp] then
        some { s with
          worker := .returned
          session := if sessionStarted s.worker then .halted else s.session
          posted := if sessionStarted s.worker then 0 else s.posted }
      else none
  | .sessionStops =>
      if s.session = .running ∧ (s.worker = .started ∨ s.worker = .running) ∧ !s.executing then
        some { s with session := .halted }
      else none
  | .runGracefulStop =>
      if s.worker = .running ∧ 0 < s.posted ∧ !s.executing then
        some { s with posted := s.posted - 1, executing := true }
      else none
  | .gracefulStopDone =>
      if s.worker = .running ∧ s.executing then some { s with session := .halted, executing := false }
      else none
  | .handlerThrows =>
      -- `connect_session_stop`: stop the session and poll the handlers that are left
      if s.worker = .running then
        some { s with worker := .returned, session := .halted, posted := 0, executing := false }
      else none
  | .loopReturns =>
      if s.worker = .running ∧ s.posted = 0 ∧ !s.executing then some { s with worker := .returned } else none
  | .isForeignThreadAccess =>
      some (if s.foreignThreadReady then { s with checked := s.checked + 1 }
        else { s with returned := s.returned + 1 })
  | .triggerAsyncStopLocal =>
      if 0 < s.checked then
        some { s with
          stopCalled := true
          scopeRegistered := false
          posted := s.posted + if s.scopeRegistered then 1 else 0
          checked := s.checked - 1
          returned := s.returned + 1 }
      else none

def Terminated (s : State) : Prop := s.session = .halted ∨ s.worker = .returned

/-- A stop request is queued or being executed, or is recorded for the scope to find. -/
def StopPending (s : State) : Prop :=
  0 < s.posted ∨ s.executing = true ∨
    (s.stopCalled = true ∧ s.worker ≠ .scopesSetUp ∧ s.worker ≠ .running)

def NeverLost (s : State) : Prop := 0 < s.returned → Terminated s ∨ StopPending s

/-- No disconnect lands before the worker has enabled foreign thread access, unless the
session has terminated. -/
def AfterStartUp (s : State) (a : Action) (_ : State) : Prop :=
  a = .isForeignThreadAccess → s.foreignThreadReady = true ∨ Terminated s

/-- What the code keeps true whenever disconnect is called. -/
structure Inv (s : State) : Prop where
  silent : s.foreignThreadReady = false →
    s.posted = 0 ∧ s.executing = false ∧ s.stopCalled = false ∧ s.checked = 0
  halted : s.session = .halted → s.worker ∈ [.started, .scopesSetUp, .running, .returned]
  registered : s.worker = .scopesSetUp ∨ s.worker = .running →
    s.session = .halted ∨ s.scopeRegistered = true ∨ 0 < s.posted ∨ s.executing = true
  ready : s.foreignThreadReady = true → s.worker = .running ∨ s.worker = .returned

theorem inv_start : Inv start where
  silent := fun _ => ⟨rfl, rfl, rfl, rfl⟩
  halted := fun h => by cases h
  registered := fun h => by rcases h with h | h <;> cases h
  ready := fun h => by cases h

theorem step_inv {s t : State} {a : Action} (hs : Inv s) (h : step s a = some t) : Inv t := by
  obtain ⟨hsilent, hhalted, hregistered, hready⟩ := hs
  cases a with
  | isForeignThreadAccess =>
      obtain rfl := Option.some.inj h
      by_cases hr : s.foreignThreadReady = true
      · rw [if_pos hr]
        exact ⟨fun hf => by simp_all, hhalted, hregistered, hready⟩
      · rw [if_neg hr]
        exact ⟨hsilent, hhalted, hregistered, hready⟩
  | triggerAsyncStopLocal =>
      simp only [step, Option.ite_none_right_eq_some, Option.some.injEq] at h
      obtain ⟨hchecked, rfl⟩ := h
      have hr : s.foreignThreadReady = true := by
        by_contra hf
        have := (hsilent (by simpa using hf)).2.2.2
        omega
      refine ⟨fun hf => by simp_all, hhalted, fun hw => ?_, hready⟩
      rcases hregistered hw with hsc | hsc | hsc | hsc
      · exact .inl hsc
      · simp [hsc]
      · exact .inr (.inr (.inl (by simp; omega)))
      · exact .inr (.inr (.inr hsc))
  | sessionStops =>
      simp only [step, Option.ite_none_right_eq_some, Option.some.injEq] at h
      obtain ⟨hguard, rfl⟩ := h
      refine ⟨fun hf => hsilent hf, fun _ => ?_, fun _ => .inl rfl, hready⟩
      rcases hguard.2.1 with hw | hw <;> simp [hw]
  | dequeue | connectAttach | buildSession | startSession | setupAsyncStopScopes
  | enableForeignThreadAccess | setupReturnsStatus | setupThrows
  | runGracefulStop | gracefulStopDone | handlerThrows | loopReturns =>
      simp only [step, Option.ite_none_right_eq_some, Option.some.injEq] at h
      obtain ⟨hguard, rfl⟩ := h
      refine ⟨fun hf => ?_, fun hh => ?_, fun hw => ?_, fun hr => ?_⟩
      · simp_all
      · simp_all [sessionStarted]
      · simp_all
      · simp_all

theorem step_terminated {s t : State} {a : Action} (hs : Inv s) (h : step s a = some t)
    (hd : Terminated s) : Terminated t := by
  have hhalted := hs.halted
  cases a with
  | isForeignThreadAccess =>
      obtain rfl := Option.some.inj h
      split <;> exact hd
  | dequeue | connectAttach | buildSession | startSession | setupAsyncStopScopes
  | enableForeignThreadAccess | setupReturnsStatus | setupThrows | sessionStops
  | runGracefulStop | gracefulStopDone | handlerThrows | loopReturns | triggerAsyncStopLocal =>
      simp only [step, Option.ite_none_right_eq_some, Option.some.injEq] at h
      obtain ⟨hguard, rfl⟩ := h
      rw [Terminated] at hd ⊢
      grind

/-- The worker only drops a pending stop by stopping the session. -/
theorem step_pending {s t : State} {a : Action} (hs : Inv s) (h : step s a = some t)
    (hp : StopPending s) : Terminated t ∨ StopPending t := by
  have hsilent := hs.silent
  cases a with
  | isForeignThreadAccess =>
      obtain rfl := Option.some.inj h
      right
      split <;> exact hp
  | dequeue | connectAttach | buildSession | startSession | setupAsyncStopScopes
  | enableForeignThreadAccess | setupReturnsStatus | setupThrows | sessionStops
  | runGracefulStop | gracefulStopDone | handlerThrows | loopReturns | triggerAsyncStopLocal =>
      simp only [step, Option.ite_none_right_eq_some, Option.some.injEq] at h
      obtain ⟨hguard, rfl⟩ := h
      rw [Terminated, StopPending] at *
      grind

/-- `stop()` past its access check always leaves a stop behind. -/
theorem trigger_neverLost {s t : State} (hs : Inv s) (h : step s .triggerAsyncStopLocal = some t) :
    Terminated t ∨ StopPending t := by
  simp only [step, Option.ite_none_right_eq_some, Option.some.injEq] at h
  obtain ⟨hchecked, rfl⟩ := h
  have hr : s.foreignThreadReady = true := by
    by_contra hf
    have := (hs.silent (by simpa using hf)).2.2.2
    omega
  rcases hs.ready hr with hw | hw
  · rcases hs.registered (.inr hw) with hh | hsc | hp | he
    · exact .inl (.inl hh)
    · exact .inr (.inl (by simp [hsc]))
    · exact .inr (.inl (by simp; omega))
    · exact .inr (.inr (.inl he))
  · exact .inl (.inr hw)

theorem returned_eq {s t : State} {a : Action} (h : step s a = some t)
    (ha : a ≠ .isForeignThreadAccess) (ha' : a ≠ .triggerAsyncStopLocal) :
    t.returned = s.returned := by
  cases a with
  | isForeignThreadAccess => exact absurd rfl ha
  | triggerAsyncStopLocal => exact absurd rfl ha'
  | dequeue | connectAttach | buildSession | startSession | setupAsyncStopScopes
  | enableForeignThreadAccess | setupReturnsStatus | setupThrows | sessionStops
  | runGracefulStop | gracefulStopDone | handlerThrows | loopReturns =>
      simp only [step, Option.ite_none_right_eq_some, Option.some.injEq] at h
      obtain ⟨-, rfl⟩ := h
      rfl

theorem step_neverLost {s t : State} {a : Action} (hs : Inv s) (hn : NeverLost s)
    (h : step s a = some t) (hC : AfterStartUp s a t) : NeverLost t := by
  intro hret
  by_cases hpos : 0 < s.returned
  · rcases hn hpos with hd | hp
    · exact .inl (step_terminated hs h hd)
    · exact step_pending hs h hp
  · by_cases ha : a = .isForeignThreadAccess
    · subst ha
      rcases hC rfl with hr | hd
      · obtain rfl := Option.some.inj h
        rw [if_pos hr] at hret
        exact absurd hret hpos
      · exact .inl (step_terminated hs h hd)
    · by_cases ha' : a = .triggerAsyncStopLocal
      · subst ha'
        exact trigger_neverLost hs h
      · rw [returned_eq h ha ha'] at hret
        exact absurd hret hpos

/-- A disconnect that lands during start-up returns with nothing recorded. -/
theorem early_disconnect_lost {s t : State} {a : Action} (hs : Inv s) (h : step s a = some t)
    (hn : NeverLost t) : AfterStartUp s a t := by
  rintro rfl
  by_contra hearly
  rw [not_or] at hearly
  obtain ⟨hr, hd⟩ := hearly
  obtain ⟨hposted, hexecuting, hstop, -⟩ := hs.silent (by simpa using hr)
  obtain rfl := Option.some.inj h
  rw [if_neg hr] at hn
  rcases hn (Nat.succ_pos _) with ht | hp | he | hc
  · exact hd ht
  · exact absurd hp (by simp [hposted])
  · exact absurd he (by simp [hexecuting])
  · exact absurd hc.1 (by simp [hstop])

theorem neverLost_start : NeverLost start := fun h => absurd h (Nat.lt_irrefl 0)

/-- No disconnect is lost in exactly the runs in which none lands before the worker has
enabled foreign thread access or after which the session is over. -/
theorem neverLost_iff_afterStartUp (as : List Action) :
    Throughout step NeverLost start as ↔ Guarded step AfterStartUp start as := by
  refine throughout_iff_guarded (fun s a t => step_inv) (fun s a t hs hn ht => ?_) inv_start neverLost_start
  exact ⟨early_disconnect_lost hs ht, step_neverLost hs hn ht⟩

/-- A disconnect right after `connectUsingPacketFlow:` returned, before the worker starts. -/
def disconnectFirst : List Action :=
  [.isForeignThreadAccess, .dequeue, .connectAttach, .buildSession, .startSession,
    .setupAsyncStopScopes, .enableForeignThreadAccess]

theorem disconnectFirst_lost :
    (∃ s, run step start disconnectFirst = some s ∧ s.session = .running ∧ 0 < s.returned ∧
      ¬StopPending s) ∧ ¬Throughout step NeverLost start disconnectFirst := by
  have hlost : ∀ s : State, s.worker = .running → s.session = .running → 0 < s.returned →
      s.posted = 0 → s.executing = false → ¬StopPending s ∧ ¬NeverLost s := by
    intro s hw hsn hr hp he
    have hpending : ¬StopPending s := by
      rintro (h | h | ⟨-, -, h⟩)
      · omega
      · simp [he] at h
      · exact h hw
    refine ⟨hpending, fun hn => ?_⟩
    rcases hn hr with (h | h) | h
    · simp [hsn] at h
    · simp [hw] at h
    · exact hpending h
  have hrun : run step start disconnectFirst =
      some ⟨.running, .running, true, false, true, 0, false, 0, 1⟩ := by decide
  obtain ⟨hpending, hnever⟩ := hlost ⟨.running, .running, true, false, true, 0, false, 0, 1⟩
    rfl rfl (by decide) rfl rfl
  exact ⟨⟨_, hrun, rfl, by decide, hpending⟩, fun h => hnever (h.last hrun)⟩

end OpenVPNAdapter.Disconnect
