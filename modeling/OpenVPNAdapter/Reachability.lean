import Mathlib.Data.List.DropRight
import OpenVPNAdapter.Library.Runs

namespace OpenVPNAdapter.Reachability

open Library.Runs

inductive OpenVPNReachabilityStatus
  | notReachable
  | reachableViaWiFi
  | reachableViaWWAN
deriving DecidableEq, Repr

/-- The blocks queued on the main queue: `reachability_tracker_schedule` and `reachability_tracker_cancel`. -/
inductive Operation
  | schedule
  | cancel
deriving DecidableEq, Repr

/-- What a call does after its first statement, which is part of the call. -/
inductive Statement
  | dispatchSchedule
  | setTracking (isTracking : Bool)
deriving DecidableEq, Repr

variable {β : Type}

/-- How far the main thread is with an event: `reachability_tracker_event` was called,
`updateReachabilityStatus:` has found a block, and it has read the block that it is about to run. -/
inductive Handling (β : Type)
  | entered (status : OpenVPNReachabilityStatus)
  | found (status : OpenVPNReachabilityStatus)
  | loaded (status : OpenVPNReachabilityStatus) (callback : β)
deriving DecidableEq, Repr

/-- `OpenVPNReachability` with its tracker and the main queue. `calls` are the calls in progress, on
whatever thread; the framework calls the tracker back while it is `registered`. -/
structure State (β : Type) where
  isTracking : Bool
  reachabilityStatusChangedBlock : Option β
  calls : List (List Statement)
  mainQueue : List Operation
  scheduled : Bool
  registered : Bool
  handling : Option (Handling β)
deriving DecidableEq, Repr

/-- What happens on some thread. An event is handled on the main thread, in three actions behind its
arrival: the two reads of the block and its call. -/
inductive Action (β : Type)
  | startTracking (callback : β)
  | stopTracking
  | resume (statement : Statement)
  | drainMainQueue (accepts : Bool)
  | reachabilityEvent (status : OpenVPNReachabilityStatus)
  | findBlock
  | loadBlock
  | callBlock
deriving DecidableEq, Repr

def State.init : State β := ⟨false, none, [], [], false, false, none⟩

def execute (s : State β) : Statement → State β
  | .dispatchSchedule => { s with mainQueue := s.mainQueue ++ [.schedule] }
  | .setTracking isTracking => { s with isTracking := isTracking }

/-- Whether `SCNetworkReachabilitySetCallback` and `SCNetworkReachabilityScheduleWithRunLoop`
succeed makes no difference to `scheduled`. -/
def perform (accepts : Bool) (s : State β) : Operation → State β
  | .schedule => if s.scheduled then s else { s with scheduled := true, registered := accepts }
  | .cancel => if s.scheduled then { s with scheduled := false, registered := false } else s

/-- The main queue waits while the main thread handles an event. -/
def step (s : State β) : Action β → Option (State β)
  | .startTracking callback => some
      { s with
        reachabilityStatusChangedBlock := some callback
        calls := s.calls ++ [[.dispatchSchedule, .setTracking true]] }
  | .stopTracking => some
      { s with
        mainQueue := s.mainQueue ++ [.cancel]
        calls := s.calls ++ [[.setTracking false]] }
  | .resume statement => (s.calls.find? (·.head? = some statement)).map fun call =>
      execute { s with calls := s.calls.erase call ++ [call.tail] } statement
  | .drainMainQueue accepts => match s.handling, s.mainQueue with
    | none, operation :: rest => some (perform accepts { s with mainQueue := rest } operation)
    | _, _ => none
  | .reachabilityEvent status => match s.handling with
    | none => some { s with handling := if s.registered then some (.entered status) else none }
    | some _ => none
  | .findBlock => match s.handling with
    | some (.entered status) =>
        some { s with handling := if s.reachabilityStatusChangedBlock.isSome then some (.found status) else none }
    | _ => none
  | .loadBlock => match s.handling with
    | some (.found status) =>
        s.reachabilityStatusChangedBlock.map fun callback => { s with handling := some (.loaded status callback) }
    | _ => none
  | .callBlock => match s.handling with
    | some (.loaded _ _) => some { s with handling := none }
    | _ => none

/-- The block that `callBlock` runs, and with what. -/
def calledBack (s : State β) : Option (β × OpenVPNReachabilityStatus) :=
  match s.handling with
  | some (.loaded status callback) => some (callback, status)
  | _ => none

/-! What the order of the actions says by itself. -/

def started : Action β → Option β
  | .startTracking callback => some callback
  | _ => none

def assigned : Action β → Option Bool
  | .resume (.setTracking isTracking) => some isTracking
  | _ => none

def queued : Action β → Option Operation
  | .stopTracking => some .cancel
  | .resume .dispatchSchedule => some .schedule
  | _ => none

def drained : Action β → Option Bool
  | .drainMainQueue accepts => some accepts
  | _ => none

def lastCallback (as : List (Action β)) : Option β := (as.filterMap started).getLast?

def tracking (as : List (Action β)) : Bool := (as.filterMap assigned).getLast?.getD false

/-- The operations the main queue has run, with the outcome a `schedule` had or would have had. -/
def performed (as : List (Action β)) : List (Operation × Bool) := (as.filterMap queued).zip (as.filterMap drained)

/-- Since the last `cancel` there is a `schedule`, and the first of them was accepted. -/
def armed (operations : List (Operation × Bool)) : Bool :=
  (operations.rtakeWhile (·.1 = .schedule)).head? = some (.schedule, true)

/-- A `stopTracking` has returned, and after it no `startTracking` was called or returned. -/
def Stopped (as : List (Action β)) : Prop :=
  ∃ before after, as = before ++ .resume (.setTracking false) :: after ∧
    ∀ a ∈ after, (∀ callback, a ≠ .startTracking callback) ∧ a ≠ .resume (.setTracking true)

/-- Whenever a callback runs, the object is tracking and not stopped, and the callback is the one
of the last start. -/
def Respects (as : List (Action β)) : Prop :=
  ∀ pre s status callback, pre ++ [.callBlock] <+: as → run step .init pre = some s →
    calledBack s = some (callback, status) →
      s.isTracking = true ∧ lastCallback pre = some callback ∧ ¬ Stopped pre

/-- For every event that arrives while the main queue has run an accepted `schedule` and no `cancel`
after it, and whose block is called: the last assignment made before the call is a `YES`, and no start
with another block came between the read of the block and its call. -/
def InStep (as : List (Action β)) : Prop :=
  ∀ before status during after,
    before ++ .reachabilityEvent status :: (during ++ .loadBlock :: (after ++ [.callBlock])) <+: as →
    (run step .init (before ++ .reachabilityEvent status :: (during ++ .loadBlock :: after))).isSome →
    armed (performed before) = true → (∀ a ∈ during ++ after, a ≠ .callBlock) →
      tracking (before ++ .reachabilityEvent status :: (during ++ .loadBlock :: after)) = true ∧
        lastCallback (before ++ .reachabilityEvent status :: (during ++ .loadBlock :: after)) =
          lastCallback (before ++ .reachabilityEvent status :: during)

/-- What brought the main thread so far with an event. -/
def Handles (as : List (Action β)) (handling : Handling β) : Prop :=
  ∃ before status during, as = before ++ .reachabilityEvent status :: during ∧ armed (performed before) = true ∧
    (∀ a ∈ during, a ≠ .callBlock) ∧
      ∀ told callback, handling = .loaded told callback →
        ∃ reading after, during = reading ++ .loadBlock :: after ∧
          lastCallback (before ++ .reachabilityEvent status :: reading) = some callback

/-- A state tells of the actions that led to it. -/
structure Tells (as : List (Action β)) (s : State β) : Prop where
  isTracking : s.isTracking = tracking as
  callback : s.reachabilityStatusChangedBlock = lastCallback as
  mainQueue : ∃ past, as.filterMap queued = past ++ s.mainQueue ∧ past.length = (as.filterMap drained).length
  scheduled : s.scheduled = true ↔ ∃ accepts, (performed as).getLast? = some (.schedule, accepts)
  registered : s.registered = armed (performed as)
  dispatching : ∀ call ∈ s.calls, .dispatchSchedule ∈ call → (lastCallback as).isSome
  dispatched : .schedule ∈ as.filterMap queued → (lastCallback as).isSome
  handles : ∀ handling, s.handling = some handling → Handles as handling

/-- A `schedule` right after another changes nothing; after a `cancel`, or at first, it counts. -/
theorem armed_concat (operations : List (Operation × Bool)) (operation : Operation) (accepts : Bool) :
    armed (operations ++ [(operation, accepts)]) = (decide (operation = .schedule) &&
      if ∃ r, operations.getLast? = some (.schedule, r) then armed operations else accepts) := by
  cases operation with
  | cancel => rw [armed, List.rtakeWhile_concat_neg _ _ _ (by simp)]; rfl
  | schedule =>
      rw [armed, List.rtakeWhile_concat_pos _ _ _ (by simp)]
      cases operations using List.reverseRecOn with
      | nil => simp
      | append_singleton ops last =>
          obtain ⟨_ | _, r⟩ := last <;> simp [armed, List.head?_append]

theorem armed_last {operations : List (Operation × Bool)} (h : armed operations = true) :
    ∃ r, operations.getLast? = some (.schedule, r) := by
  cases operations using List.reverseRecOn with
  | nil => cases h
  | append_singleton ops last =>
      obtain ⟨operation, r⟩ := last
      rw [armed_concat, Bool.and_eq_true, decide_eq_true_eq] at h
      exact ⟨r, by rw [List.getLast?_concat, h.1]⟩

theorem performed_of_split {as : List (Action β)} {past rest : List Operation}
    (hqueued : as.filterMap queued = past ++ rest) (hlen : past.length = (as.filterMap drained).length) :
    performed as = past.zip (as.filterMap drained) := by
  have hzip : (past ++ rest).zip (as.filterMap drained ++ []) = _ := List.zip_append hlen
  rw [performed, hqueued]
  simpa using hzip

theorem lastCallback_concat (as : List (Action β)) (a : Action β) :
    lastCallback (as ++ [a]) = (started a).or (lastCallback as) := by
  cases h : started a <;> simp [lastCallback, h]

theorem tracking_concat (as : List (Action β)) (a : Action β) :
    tracking (as ++ [a]) = (assigned a).getD (tracking as) := by
  cases h : assigned a <;> simp [tracking, h]

variable {as : List (Action β)} {a : Action β} {s t : State β}

theorem Tells.init : Tells [] (State.init : State β) where
  isTracking := rfl
  callback := rfl
  mainQueue := ⟨[], rfl, rfl⟩
  scheduled := by simp [State.init, performed]
  registered := rfl
  dispatching := by simp [State.init]
  dispatched := by simp
  handles handling h := by cases h

theorem Handles.concat {as : List (Action β)} {handling : Handling β} (h : Handles as handling) {a : Action β}
    (ha : a ≠ .callBlock) : Handles (as ++ [a]) handling := by
  obtain ⟨before, status, during, rfl, harmed, hduring, hloaded⟩ := h
  refine ⟨before, status, during ++ [a], by simp, harmed, ?_, fun told callback heq => ?_⟩
  · intro b hb
    rcases List.mem_append.mp hb with hb | hb
    · exact hduring b hb
    · exact List.mem_singleton.mp hb ▸ ha
  · obtain ⟨reading, after, rfl, hlast⟩ := hloaded told callback heq
    exact ⟨reading, after ++ [a], by simp, hlast⟩

/-- The first read of the block goes no further than the event. -/
theorem Handles.found {as : List (Action β)} {status : OpenVPNReachabilityStatus} {handling : Handling β}
    (h : Handles as handling) : Handles as (.found status) := by
  obtain ⟨before, status, during, rfl, harmed, hduring, -⟩ := h
  exact ⟨before, status, during, rfl, harmed, hduring, fun _ _ heq => by cases heq⟩

theorem Handles.loaded {as : List (Action β)} {told : OpenVPNReachabilityStatus} {callback : β}
    {handling : Handling β} (h : Handles as handling) (hlast : lastCallback as = some callback) :
    Handles (as ++ [.loadBlock]) (.loaded told callback) := by
  obtain ⟨before, status, during, rfl, harmed, hduring, -⟩ := h
  refine ⟨before, status, during ++ [.loadBlock], by simp, harmed, ?_, fun _ _ heq => ?_⟩
  · intro b hb
    rcases List.mem_append.mp hb with hb | hb
    · exact hduring b hb
    · exact List.mem_singleton.mp hb ▸ fun he => by cases he
  · cases heq
    exact ⟨during, [], rfl, hlast⟩

/-- An action that runs no operation appends at most one to the queue. -/
theorem Tells.performed_queue (h : Tells as s) (ha : drained a = none) :
    performed (as ++ [a]) = performed as ∧
      ∃ past, (as ++ [a]).filterMap queued = past ++ (s.mainQueue ++ (queued a).toList) ∧
        past.length = ((as ++ [a]).filterMap drained).length := by
  obtain ⟨past, hqueued, hlen⟩ := h.mainQueue
  have hqueued' : (as ++ [a]).filterMap queued = past ++ (s.mainQueue ++ (queued a).toList) := by
    rw [List.filterMap_append, hqueued, List.append_assoc]
    cases hq : queued a <;> simp [hq]
  have hdrained : (as ++ [a]).filterMap drained = as.filterMap drained := by simp [ha]
  refine ⟨?_, past, hqueued', by rw [hdrained, hlen]⟩
  rw [performed_of_split hqueued' (by rw [hdrained, hlen]), hdrained, performed_of_split hqueued hlen]

theorem Tells.performed_drain (h : Tells as s) {operation : Operation} {rest : List Operation}
    (hq : s.mainQueue = operation :: rest) (ha : queued a = none) {accepts : Bool}
    (hd : drained a = some accepts) :
    performed (as ++ [a]) = performed as ++ [(operation, accepts)] ∧
      ∃ past, (as ++ [a]).filterMap queued = past ++ rest ∧
        past.length = ((as ++ [a]).filterMap drained).length := by
  obtain ⟨past, hqueued, hlen⟩ := h.mainQueue
  have hqueued' : (as ++ [a]).filterMap queued = (past ++ [operation]) ++ rest := by simp [ha, hqueued, hq]
  have hdrained : (as ++ [a]).filterMap drained = as.filterMap drained ++ [accepts] := by simp [hd]
  refine ⟨?_, _, hqueued', by simp [hdrained, hlen]⟩
  rw [performed_of_split hqueued' (by simp [hdrained, hlen]), hdrained, List.zip_append hlen,
    performed_of_split hqueued hlen]
  rfl

theorem perform_eq (hs : s.registered = true → s.scheduled = true) (accepts : Bool) (operation : Operation) :
    perform accepts s operation =
      { s with
        scheduled := decide (operation = .schedule)
        registered := decide (operation = .schedule) && if s.scheduled then s.registered else accepts } := by
  obtain ⟨tracking, callback, calls, queue, scheduled, registered, handling⟩ := s
  cases operation <;> cases scheduled <;> simp_all [perform]

/-- Nothing but the state of the tracker changes when an operation runs. -/
theorem Tells.perform (h : Tells as s) {operation : Operation} {rest : List Operation} (hidle : s.handling = none)
    (hq : s.mainQueue = operation :: rest) (accepts : Bool) :
    Tells (as ++ [.drainMainQueue accepts]) (perform accepts { s with mainQueue := rest } operation) := by
  obtain ⟨hperformed, hsplit⟩ := h.performed_drain hq (a := .drainMainQueue accepts) rfl rfl
  rw [perform_eq (s := { s with mainQueue := rest }) fun hr => h.scheduled.mpr (armed_last (h.registered ▸ hr))]
  refine ⟨?_, ?_, hsplit, ?_, ?_, ?_, ?_, ?_⟩
  · rw [tracking_concat]; exact h.isTracking
  · rw [lastCallback_concat]; exact h.callback
  · simp [hperformed]
  · simp only [hperformed, armed_concat, ← h.scheduled, h.registered]
  · rw [lastCallback_concat]; exact h.dispatching
  · rw [lastCallback_concat]; simpa [queued, started] using h.dispatched
  · intro handling hh
    rw [hidle] at hh
    cases hh

/-- The other actions leave the tracker alone. -/
theorem Tells.concat (h : Tells as s) (ha : drained a = none)
    (htracking : t.isTracking = (assigned a).getD s.isTracking)
    (hcallback : t.reachabilityStatusChangedBlock = (started a).or s.reachabilityStatusChangedBlock)
    (hqueue : t.mainQueue = s.mainQueue ++ (queued a).toList)
    (hscheduled : t.scheduled = s.scheduled) (hregistered : t.registered = s.registered)
    (hcalls : ∀ call ∈ t.calls, .dispatchSchedule ∈ call → ((started a).or (lastCallback as)).isSome)
    (hqueued : queued a = some .schedule → (lastCallback as).isSome)
    (hhandles : ∀ handling, t.handling = some handling → Handles (as ++ [a]) handling) : Tells (as ++ [a]) t := by
  obtain ⟨hperformed, hsplit⟩ := h.performed_queue ha
  refine ⟨?_, ?_, hqueue ▸ hsplit, ?_, ?_, ?_, ?_, hhandles⟩
  · rw [tracking_concat, htracking, h.isTracking]
  · rw [lastCallback_concat, hcallback, h.callback]
  · rw [hperformed, hscheduled]; exact h.scheduled
  · rw [hperformed, hregistered]; exact h.registered
  · rw [lastCallback_concat]; exact hcalls
  · rw [lastCallback_concat, List.filterMap_append]
    intro hmem
    have hsome : (lastCallback as).isSome := by
      rcases List.mem_append.mp hmem with hmem | hmem
      · exact h.dispatched hmem
      · exact hqueued (by simpa using hmem)
    cases hs : started a <;> simp [hsome]

/-- An action of the main thread's event changes nothing else. -/
theorem Tells.handled (h : Tells as s) {handling : Option (Handling β)} (ha : drained a = none ∧ started a = none ∧
    assigned a = none ∧ queued a = none)
    (hhandles : ∀ later, handling = some later → Handles (as ++ [a]) later) :
    Tells (as ++ [a]) { s with handling := handling } := by
  obtain ⟨hdrained, hstarted, hassigned, hqueued⟩ := ha
  refine h.concat hdrained ?_ ?_ ?_ rfl rfl ?_ ?_ hhandles
  · rw [hassigned]
    rfl
  · rw [hstarted]
    rfl
  · rw [hqueued]
    exact (List.append_nil _).symm
  · rw [hstarted]
    exact h.dispatching
  · intro hsome
    rw [hqueued] at hsome
    cases hsome

theorem Tells.step (h : Tells as s) (ht : step s a = some t) : Tells (as ++ [a]) t := by
  have hkept {b : Action β} (hb : b ≠ .callBlock) :
      ∀ handling, s.handling = some handling → Handles (as ++ [b]) handling :=
    fun handling hh => (h.handles handling hh).concat hb
  cases a with
  | startTracking callback =>
      obtain rfl := Option.some.inj ht
      exact h.concat rfl rfl rfl (List.append_nil _).symm rfl rfl (fun _ _ _ => rfl) (fun hq => by cases hq)
        (hkept fun he => by cases he)
  | stopTracking =>
      obtain rfl := Option.some.inj ht
      refine h.concat rfl rfl rfl rfl rfl rfl (fun call hcall hmem => ?_) (fun hq => by cases hq)
        (hkept fun he => by cases he)
      rcases List.mem_append.mp hcall with hcall | hcall
      · exact h.dispatching call hcall hmem
      · obtain rfl := List.mem_singleton.mp hcall
        simp at hmem
  | resume statement =>
      obtain ⟨call, hfind, rfl⟩ := Option.map_eq_some_iff.mp ht
      have hhead : call.head? = some statement := by simpa using List.find?_some hfind
      have hcall : call ∈ s.calls := List.mem_of_find?_eq_some hfind
      have hcalls : ∀ c ∈ s.calls.erase call ++ [call.tail],
          .dispatchSchedule ∈ c → (lastCallback as).isSome := by
        intro c hc hmem
        rcases List.mem_append.mp hc with hc | hc
        · exact h.dispatching c (List.mem_of_mem_erase hc) hmem
        · obtain rfl := List.mem_singleton.mp hc
          exact h.dispatching call hcall (List.mem_of_mem_tail hmem)
      cases statement with
      | dispatchSchedule =>
          exact h.concat rfl rfl rfl rfl rfl rfl hcalls
              (fun _ => h.dispatching call hcall (List.mem_of_mem_head? hhead))
            (hkept fun he => by cases he)
      | setTracking isTracking =>
          exact h.concat rfl rfl rfl (List.append_nil _).symm rfl rfl hcalls (fun hq => by cases hq)
            (hkept fun he => by cases he)
  | drainMainQueue accepts =>
      simp only [Reachability.step] at ht
      split at ht
      · rename_i operation rest hidle hq
        obtain rfl := Option.some.inj ht
        exact h.perform hidle hq accepts
      · cases ht
  | reachabilityEvent status =>
      simp only [Reachability.step] at ht
      split at ht
      · obtain rfl := Option.some.inj ht
        refine h.handled ⟨rfl, rfl, rfl, rfl⟩ fun later hlater => ?_
        split at hlater
        · rename_i hregistered
          obtain rfl := Option.some.inj hlater
          exact ⟨as, status, [], rfl, h.registered ▸ hregistered, List.forall_mem_nil _,
              fun _ _ heq => by cases heq⟩
        · cases hlater
      · cases ht
  | findBlock =>
      simp only [Reachability.step] at ht
      split at ht
      · rename_i status hentered
        obtain rfl := Option.some.inj ht
        refine h.handled ⟨rfl, rfl, rfl, rfl⟩ fun later hlater => ?_
        split at hlater
        · obtain rfl := Option.some.inj hlater
          exact (hkept (fun he => by cases he) _ hentered).found
        · cases hlater
      · cases ht
  | loadBlock =>
      simp only [Reachability.step] at ht
      split at ht
      · rename_i status hfound
        obtain ⟨callback, hcallback, rfl⟩ := Option.map_eq_some_iff.mp ht
        refine h.handled ⟨rfl, rfl, rfl, rfl⟩ fun later hlater => ?_
        obtain rfl := Option.some.inj hlater
        exact (h.handles _ hfound).loaded (h.callback ▸ hcallback)
      · cases ht
  | callBlock =>
      simp only [Reachability.step] at ht
      split at ht
      · obtain rfl := Option.some.inj ht
        exact h.handled ⟨rfl, rfl, rfl, rfl⟩ fun later hlater => by cases hlater
      · cases ht

theorem tells_of_run (h : run step .init as = some s) : Tells as s := by
  induction as using List.reverseRecOn generalizing s with
  | nil => exact Option.some.inj h ▸ Tells.init
  | append_singleton as a ih =>
      rw [run_append, Option.bind_eq_some_iff] at h
      obtain ⟨t, ht, hs⟩ := h
      rw [run_cons_eq_some] at hs
      obtain ⟨u, hu, hus⟩ := hs
      exact Option.some.inj hus ▸ (ih ht).step hu

/-- A block that was read stays the one to be called until it is. -/
theorem calledBack_of_run {status : OpenVPNReachabilityStatus} {callback : β}
    (hs : calledBack s = some (callback, status))
    (has : ∀ a ∈ as, a ≠ .callBlock) (ht : run step s as = some t) : calledBack t = some (callback, status) := by
  have hloaded {u : State β} :
      calledBack u = some (callback, status) ↔ u.handling = some (.loaded status callback) := by
    rw [calledBack]
    constructor
    · intro h
      split at h
      · rename_i hh
        cases h
        exact hh
      · cases h
    · intro h
      rw [h]
  rw [hloaded] at hs ⊢
  induction as generalizing s with
  | nil => exact Option.some.inj ht ▸ hs
  | cons a as ih =>
      obtain ⟨u, hu, hut⟩ := run_cons_eq_some.mp ht
      refine ih ?_ (fun b hb => has b (List.mem_cons_of_mem a hb)) hut
      cases a with
      | startTracking | stopTracking => exact Option.some.inj hu ▸ hs
      | resume statement =>
          obtain ⟨call, -, rfl⟩ := Option.map_eq_some_iff.mp hu
          cases statement <;> exact hs
      | callBlock => exact absurd rfl (has _ List.mem_cons_self)
      | drainMainQueue | reachabilityEvent | findBlock | loadBlock =>
          simp only [step, hs] at hu
          cases hu

theorem calledBack_of_load (ht : step s .loadBlock = some t) :
    ∃ callback status, s.reachabilityStatusChangedBlock = some callback ∧
      calledBack t = some (callback, status) := by
  simp only [step] at ht
  split at ht
  · rename_i status _
    obtain ⟨callback, hcallback, rfl⟩ := Option.map_eq_some_iff.mp ht
    exact ⟨callback, status, hcallback, rfl⟩
  · cases ht

theorem tracking_of_stopped (h : Stopped as) : tracking as = false := by
  obtain ⟨before, after, rfl, hafter⟩ := h
  induction after using List.reverseRecOn with
  | nil => rw [tracking_concat]; rfl
  | append_singleton after a ih =>
      have hlast := hafter a (by simp)
      have ih' := ih fun b hb => hafter b (List.mem_append_left _ hb)
      rw [← List.cons_append, ← List.append_assoc, tracking_concat, ih']
      cases a with
      | resume statement =>
          cases statement with
          | dispatchSchedule => rfl
          | setTracking isTracking =>
              cases isTracking with
              | true => exact absurd rfl hlast.2
              | false => rfl
      | startTracking | stopTracking | drainMainQueue | reachabilityEvent | findBlock | loadBlock | callBlock => rfl

/-- Callbacks respect start and stop in exactly the runs that are in step. -/
theorem respects_iff_inStep (as : List (Action β)) : Respects as ↔ InStep as := by
  constructor
  · intro h before status during after hpre hrun harmed hcalls
    obtain ⟨s, hs⟩ := Option.isSome_iff_exists.mp hrun
    -- the state in which the block is read, and the one after
    have hsplit : before ++ .reachabilityEvent status :: (during ++ .loadBlock :: after) =
        (before ++ .reachabilityEvent status :: during) ++ (.loadBlock :: after) := by simp
    have hs' := hs
    rw [hsplit, run_append, Option.bind_eq_some_iff] at hs'
    obtain ⟨u, hu, hus⟩ := hs'
    obtain ⟨v, hv, hvs⟩ := run_cons_eq_some.mp hus
    obtain ⟨callback, told, hread, hloaded⟩ := calledBack_of_load hv
    have hcalled := calledBack_of_run hloaded (fun a ha => hcalls a (List.mem_append_right _ ha)) hvs
    obtain ⟨htracking, hlast, -⟩ := h _ s told callback (by simpa using hpre) hs hcalled
    refine ⟨(tells_of_run hs).isTracking ▸ htracking, ?_⟩
    rw [hlast, ← (tells_of_run hu).callback, hread]
  · intro h pre s status callback hpre hs hcalled
    have hT := tells_of_run hs
    have hhandling : s.handling = some (.loaded status callback) := by
      rw [calledBack] at hcalled
      split at hcalled
      · rename_i hh
        cases hcalled
        exact hh
      · cases hcalled
    obtain ⟨before, told, during, rfl, harmed, hduring, hloaded⟩ := hT.handles _ hhandling
    obtain ⟨reading, after, rfl, hlast⟩ := hloaded status callback rfl
    have hcalls : ∀ a ∈ reading ++ after, a ≠ .callBlock := by
      intro a ha
      rcases List.mem_append.mp ha with ha | ha
      · exact hduring a (List.mem_append_left _ ha)
      · exact hduring a (List.mem_append_right _ (List.mem_cons_of_mem _ ha))
    obtain ⟨htracking, hsame⟩ := h before told reading after (by simpa using hpre) (by rw [hs]; rfl) harmed hcalls
    refine ⟨hT.isTracking.trans htracking, hsame.trans hlast, fun hstopped => ?_⟩
    rw [tracking_of_stopped hstopped] at htracking
    cases htracking

/-- An event between the return of `stopTracking` and the run of its `cancel`: the block runs. -/
theorem stopped_callback_runs : ¬ Respects
    [.startTracking (), .resume .dispatchSchedule, .resume (.setTracking true), .drainMainQueue true,
      .stopTracking, .resume (.setTracking false), .reachabilityEvent .notReachable, .findBlock, .loadBlock,
        .callBlock] := by
  intro h
  obtain ⟨htracking, -, -⟩ := h
    [.startTracking (), .resume .dispatchSchedule, .resume (.setTracking true), .drainMainQueue true,
      .stopTracking, .resume (.setTracking false), .reachabilityEvent .notReachable, .findBlock, .loadBlock]
    ⟨false, some (), [[], []], [.cancel], true, true, some (.loaded .notReachable ())⟩ .notReachable ()
      ⟨[], rfl⟩ rfl rfl
  cases htracking

end OpenVPNAdapter.Reachability
