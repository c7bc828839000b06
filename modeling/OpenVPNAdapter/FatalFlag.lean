import OpenVPNAdapter.Library.Runs
import OpenVPNAdapter.ClientEvent

namespace OpenVPNAdapter.FatalFlag

open Library.Runs ClientEvent

/-- What a handler of `ClientConnect` does, in order: raise an event, arm the restart
timer, stop, or throw out of the handler. -/
inductive Effect
  | addEvent (ev : Event)
  | queueRestart (delayMs : Nat)
  | pause
  | stop
  | throw
deriving DecidableEq, Repr

/-- `ChallengeResponse::is_dynamic`. -/
def isDynamic (reason : String) : Bool := "CRV1:".toList.isPrefixOf reason.toList

/-- `ClientConnect::client_proto_terminate` on a session that is not halted. -/
def clientProtoTerminate (retryOnAuthFailed dontRestart : Bool) (fatal : ErrorType) (reason : String) :
    List Effect :=
  if dontRestart then [.stop]
  else match fatal with
    | .undef => [.queueRestart 2000]
    | .authFailed =>
        if isDynamic reason then [.addEvent ⟨.dynamicChallenge, reason⟩, .stop]
        else [.addEvent ⟨.authFailed, reason⟩, if retryOnAuthFailed then .queueRestart 5000 else .stop]
    | .tunSetupFailed => [.addEvent ⟨.tunSetupFailed, reason⟩, .stop]
    | .tunRegisterRingsError => [.addEvent ⟨.tunSetupFailed, reason⟩, .stop]
    | .tunIfaceCreate => [.addEvent ⟨.tunIfaceCreate, reason⟩, .stop]
    | .tunIfaceDisabled => [.addEvent ⟨.tunIfaceDisabled, reason⟩, .queueRestart 5000]
    | .proxyError => [.addEvent ⟨.proxyError, reason⟩, .stop]
    | .proxyNeedCreds => [.addEvent ⟨.proxyNeedCreds, reason⟩, .stop]
    | .certVerifyFail => [.addEvent ⟨.certVerifyFail, reason⟩, .stop]
    | .tlsVersionMin => [.addEvent ⟨.tlsVersionMin, ""⟩, .stop]
    | .clientHalt => [.addEvent ⟨.clientHalt, reason⟩, .stop]
    | .clientRestart => [.addEvent ⟨.clientRestart, reason⟩, .queueRestart 2000]
    | .inactiveTimeout => [.addEvent ⟨.inactiveTimeout, ""⟩, .stop]
    | .transportError => [.addEvent ⟨.transportError, reason⟩, .queueRestart 5000]
    | .tunError => [.addEvent ⟨.tunError, reason⟩, .queueRestart 5000]
    | .tunHalt => [.addEvent ⟨.tunHalt, reason⟩, .stop]
    | .relay => [.addEvent ⟨.relay, ""⟩, .queueRestart 0]
    | .relayError => [.addEvent ⟨.relayError, reason⟩, .stop]
    | _ => [.throw]

/-- `OpenVPNClient::pause_on_connection_timeout` of the adapter. -/
def pauseOnConnectionTimeout : Bool := false

/-- `ClientConnect::conn_timer_callback` on a session that is not halted. -/
def connTimerCallback (paused : Bool) : List Effect :=
  if !paused && pauseOnConnectionTimeout then [.pause]
  else [.addEvent ⟨.connectionTimeout, ""⟩, .stop]

inductive Phase
  | setup
  | running
  | returned
deriving DecidableEq, Repr

/-- `handled` keeps the effects of every handler that ran, `delivered` the errors that
reached `handleError:`, both in order. -/
structure State where
  phase : Phase
  halt : Bool
  paused : Bool
  dontRestart : Bool
  restartQueued : Bool
  userDisconnected : Bool
  delivered : List HandledError
  handled : List (List Effect)
deriving DecidableEq, Repr

def start : State := ⟨.setup, false, false, false, false, false, [], []⟩

def deliver (s : State) (e : Option HandledError) : State :=
  { s with delivered := s.delivered ++ e.toList }

def stop (s : State) : State :=
  if s.halt then s
  else deliver { s with halt := true, restartQueued := false } (event ⟨.disconnected, ""⟩)

/-- The `catch` clause of `do_connect` and the report of the status it returns. -/
def connectThrows (sessionStarted : Bool) (status message : String) (s : State) : State :=
  let s := if sessionStarted then stop s else s
  deliver { s with phase := .returned } (handleConnectionStatus ⟨true, status, message⟩)

def pause (reason : String) (s : State) : State :=
  if s.halt || s.paused then s
  else deliver { s with paused := true, restartQueued := false } (event ⟨.pause, reason⟩)

/-- `new_client`, without the event `RECONNECTING` that is no error. -/
def newClient (s : State) : State := { s with restartQueued := false }

def resume (s : State) : State :=
  if s.halt || !s.paused then s else newClient (deliver { s with paused := false } (event ⟨.resume, ""⟩))

def restartWaitCallback (s : State) : State :=
  if s.halt then s else if s.paused then resume s else newClient s

/-- The events of `external_pki_error`. -/
def externalPkiError (invalidAlias : Option String) (errorText : String) (s : State) : State :=
  let s := match invalidAlias with
    | some epki => deliver s (event ⟨.epkiInvalidAlias, epki⟩)
    | none => s
  deliver s (event ⟨.epkiError, errorText⟩)

def perform (caught : Bool) (s : State) : Effect → State
  | .addEvent ev => deliver s (event ev)
  | .queueRestart _ => { s with restartQueued := true }
  | .pause => pause "" s
  | .stop => stop s
  | .throw =>
      if caught then s else connectThrows (s.phase = .running) "" "client_connect_unhandled_exception" s

def handle (caught : Bool) (s : State) (es : List Effect) : State :=
  { es.foldl (perform caught) s with handled := s.handled ++ [es] }

/-- One handler of the event loop or call of the user. `protoTerminate` says whether the
frame that called it catches what it throws, as the TCP link's read handler does. -/
inductive Action
  | setupThrows (sessionStarted : Bool) (status message : String)
  | setupReturnsStatus (message : String)
  | externalPkiCertError (invalidAlias : Option String) (errorText : String)
  | setupDone
  | protoTerminate (fatal : ErrorType) (reason : String) (caught : Bool)
  | connTimer
  | restartWaitTimer
  | externalPkiSignError (invalidAlias : Option String) (errorText : String)
  | handlerThrows (status message : String)
  | pause (reason : String)
  | resume
  | reconnect
  | disconnect
  | gracefulStop
  | loopReturns
deriving DecidableEq, Repr

def step (retryOnAuthFailed : Bool) (s : State) : Action → Option State
  | .setupThrows sessionStarted status message =>
      if s.phase = .setup then some (connectThrows sessionStarted status message s) else none
  | .setupReturnsStatus message =>
      if s.phase = .setup then
        some (deliver { s with phase := .returned } (handleConnectionStatus ⟨true, "", message⟩))
      else none
  | .externalPkiCertError invalidAlias errorText =>
      if s.phase = .setup then
        some { externalPkiError invalidAlias errorText s with phase := .returned }
      else none
  | .setupDone => if s.phase = .setup then some { s with phase := .running } else none
  | .protoTerminate fatal reason caught =>
      if s.phase ≠ .returned then
        some (if s.halt then s
          else handle caught s (clientProtoTerminate retryOnAuthFailed s.dontRestart fatal reason))
      else none
  | .connTimer =>
      if s.phase = .running then
        some (if s.halt then s else handle false s (connTimerCallback s.paused))
      else none
  | .restartWaitTimer =>
      if s.phase = .running ∧ s.restartQueued then some (restartWaitCallback s) else none
  | .externalPkiSignError invalidAlias errorText =>
      if s.phase ≠ .returned then
        some { externalPkiError invalidAlias errorText s with dontRestart := true }
      else none
  | .handlerThrows status message =>
      if s.phase = .running then some (connectThrows true status message s) else none
  | .pause reason => if s.phase = .running then some (pause reason s) else none
  | .resume => if s.phase = .running then some (resume s) else none
  | .reconnect =>
      if s.phase = .running then some (if s.halt then s else { s with restartQueued := true }) else none
  | .disconnect => some { s with userDisconnected := true }
  | .gracefulStop => if s.phase = .running ∧ s.userDisconnected then some (stop s) else none
  | .loopReturns => if s.phase = .running ∧ s.halt then some { s with phase := .returned } else none

/-- No handler that delivered a fatal error armed the restart timer. -/
def FatalIsFinal (s : State) : Prop :=
  ∀ es ∈ s.handled, ∀ ev e, .addEvent ev ∈ es → event ev = some e → e.fatal = true →
    ∀ delayMs, .queueRestart delayMs ∉ es

def Terminated (s : State) : Prop := s.halt = true ∨ s.phase = .returned

def FatalDelivered (s : State) : Prop := ∃ e ∈ s.delivered, e.fatal = true

def EndIsFatal (s : State) : Prop := Terminated s → s.userDisconnected = false → FatalDelivered s

def Truthful (s : State) : Prop := FatalIsFinal s ∧ EndIsFatal s

/-- The terminations that are reported as fatal and retried all the same. -/
def retried (retryOnAuthFailed : Bool) (fatal : ErrorType) (reason : String) : Bool :=
  fatal = .tunIfaceDisabled || (fatal = .authFailed && !isDynamic reason && retryOnAuthFailed)

def NotRetried (retryOnAuthFailed : Bool) (s : State) (a : Action) (_ : State) : Prop :=
  ∀ fatal reason caught, a = .protoTerminate fatal reason caught → s.halt = false →
    s.dontRestart = false → retried retryOnAuthFailed fatal reason = false

@[simp] theorem deliver_handled (s : State) (e : Option HandledError) :
    (deliver s e).handled = s.handled := rfl

@[simp] theorem stop_handled (s : State) : (stop s).handled = s.handled := by
  rw [stop]
  split <;> rfl

@[simp] theorem connectThrows_handled (b : Bool) (status message : String) (s : State) :
    (connectThrows b status message s).handled = s.handled := by
  cases b <;> simp [connectThrows]

@[simp] theorem pause_handled (reason : String) (s : State) : (pause reason s).handled = s.handled := by
  rw [pause]
  split <;> rfl

@[simp] theorem resume_handled (s : State) : (resume s).handled = s.handled := by
  rw [resume]
  split <;> rfl

@[simp] theorem restartWaitCallback_handled (s : State) :
    (restartWaitCallback s).handled = s.handled := by
  rw [restartWaitCallback]
  split
  · rfl
  · split
    · exact resume_handled s
    · rfl

@[simp] theorem externalPkiError_handled (invalidAlias : Option String) (text : String) (s : State) :
    (externalPkiError invalidAlias text s).handled = s.handled := by
  cases invalidAlias <;> rfl

theorem clientProtoTerminate_cases (retryOnAuthFailed : Bool) (fatal : ErrorType) (reason : String) :
    (retried retryOnAuthFailed fatal reason = false ∧ ∃ ev, ev.isFatal = true ∧
      clientProtoTerminate retryOnAuthFailed false fatal reason = [.addEvent ev, .stop]) ∨
    (∃ ev ms, ev.isFatal = retried retryOnAuthFailed fatal reason ∧
      clientProtoTerminate retryOnAuthFailed false fatal reason = [.addEvent ev, .queueRestart ms]) ∨
    (retried retryOnAuthFailed fatal reason = false ∧
      (clientProtoTerminate retryOnAuthFailed false fatal reason = [.queueRestart 2000] ∨
        clientProtoTerminate retryOnAuthFailed false fatal reason = [.throw])) := by
  cases fatal with
  | authFailed =>
      by_cases hd : isDynamic reason = true
      · exact .inl ⟨by simp [retried, hd], ⟨.dynamicChallenge, reason⟩, rfl, by
          simp [clientProtoTerminate, hd]⟩
      · cases retryOnAuthFailed with
        | false =>
            exact .inl ⟨by simp [retried], ⟨.authFailed, reason⟩, rfl, by
              simp [clientProtoTerminate, hd]⟩
        | true =>
            refine .inr (.inl ⟨⟨.authFailed, reason⟩, 5000, ?_, by simp [clientProtoTerminate, hd]⟩)
            have hf : Event.isFatal ⟨.authFailed, reason⟩ = true := rfl
            simp [retried, hd, hf]
  | tunSetupFailed | tunRegisterRingsError | tunIfaceCreate | proxyError | proxyNeedCreds
  | certVerifyFail | tlsVersionMin | clientHalt | inactiveTimeout | tunHalt | relayError =>
      exact .inl ⟨rfl, _, rfl, rfl⟩
  | tunIfaceDisabled | clientRestart | transportError | tunError | relay =>
      exact .inr (.inl ⟨_, _, rfl, rfl⟩)
  | success => exact .inr (.inr ⟨rfl, .inl rfl⟩)
  | _ => exact .inr (.inr ⟨rfl, .inr rfl⟩)

theorem step_handled {retryOnAuthFailed : Bool} {s t : State} {a : Action}
    (h : step retryOnAuthFailed s a = some t) :
    ((∀ fatal reason caught, a = .protoTerminate fatal reason caught → s.halt = true) ∧
      (t.handled = s.handled ∨ t.handled = s.handled ++ [connTimerCallback s.paused])) ∨
    ∃ fatal reason caught, a = .protoTerminate fatal reason caught ∧ s.halt = false ∧
      t.handled = s.handled ++ [clientProtoTerminate retryOnAuthFailed s.dontRestart fatal reason] := by
  cases a with
  | disconnect =>
      obtain rfl := Option.some.inj h
      exact .inl ⟨by simp, .inl rfl⟩
  | protoTerminate fatal reason caught =>
      simp only [step, Option.ite_none_right_eq_some, Option.some.injEq] at h
      obtain ⟨-, rfl⟩ := h
      by_cases hh : s.halt = true
      · exact .inl ⟨fun _ _ _ _ => hh, .inl (by rw [if_pos hh])⟩
      · exact .inr ⟨fatal, reason, caught, rfl, by simpa using hh, by rw [if_neg hh]; rfl⟩
  | connTimer =>
      simp only [step, Option.ite_none_right_eq_some, Option.some.injEq] at h
      obtain ⟨-, rfl⟩ := h
      refine .inl ⟨by simp, ?_⟩
      split
      · exact .inl rfl
      · exact .inr rfl
  | reconnect =>
      simp only [step, Option.ite_none_right_eq_some, Option.some.injEq] at h
      obtain ⟨-, rfl⟩ := h
      refine .inl ⟨by simp, .inl ?_⟩
      split <;> rfl
  | setupThrows | setupReturnsStatus | externalPkiCertError | setupDone | restartWaitTimer
  | externalPkiSignError | handlerThrows | pause | resume | gracefulStop | loopReturns =>
      simp only [step, Option.ite_none_right_eq_some, Option.some.injEq] at h
      obtain ⟨-, rfl⟩ := h
      exact .inl ⟨by simp, .inl (by simp)⟩

def Final (es : List Effect) : Prop :=
  ∀ ev e, .addEvent ev ∈ es → event ev = some e → e.fatal = true → ∀ delayMs, .queueRestart delayMs ∉ es

theorem fatalIsFinal_append {s t : State} {es : List Effect} (h : t.handled = s.handled ++ [es]) :
    FatalIsFinal t ↔ FatalIsFinal s ∧ Final es := by
  rw [FatalIsFinal]
  rw [h]
  constructor
  · exact fun hf => ⟨fun fs hfs => hf fs (List.mem_append_left _ hfs), hf es (by simp)⟩
  · rintro ⟨hs, hes⟩ fs hfs
    rcases List.mem_append.mp hfs with hfs | hfs
    · exact hs fs hfs
    · obtain rfl := List.mem_singleton.mp hfs
      exact hes

theorem connTimerCallback_final (paused : Bool) : Final (connTimerCallback paused) := by
  intro ev e hev he hfatal ms
  cases paused <;> simp [connTimerCallback, pauseOnConnectionTimeout]

theorem clientProtoTerminate_final (retryOnAuthFailed : Bool) (fatal : ErrorType) (reason : String) :
    Final (clientProtoTerminate retryOnAuthFailed false fatal reason) ↔
      retried retryOnAuthFailed fatal reason = false := by
  rcases clientProtoTerminate_cases retryOnAuthFailed fatal reason with
    ⟨hr, ev, -, hes⟩ | ⟨ev, ms, hev, hes⟩ | ⟨hr, hes | hes⟩
  · refine iff_of_true (fun ev' e _ _ _ ms => ?_) hr
    simp [hes]
  · rw [hes]
    constructor
    · intro hf
      rw [← hev]
      by_contra hne
      obtain ⟨e, he, hfatal⟩ := event_of_fatal (by simpa using hne)
      exact hf ev e (by simp) he hfatal ms (by simp)
    · intro hr ev' e hev' he hfatal
      have heq : ev' = ev := by simpa using hev'
      rw [event_fatal he, heq, hev, hr] at hfatal
      cases hfatal
  · refine iff_of_true (fun ev e hev => ?_) hr
    simp [hes] at hev
  · refine iff_of_true (fun ev e hev => ?_) hr
    simp [hes] at hev

theorem step_fatalIsFinal {retryOnAuthFailed : Bool} {s t : State} {a : Action}
    (hs : FatalIsFinal s) (h : step retryOnAuthFailed s a = some t) :
    FatalIsFinal t ↔ NotRetried retryOnAuthFailed s a t := by
  rcases step_handled h with ⟨hother, ht⟩ | ⟨fatal, reason, caught, rfl, hhalt, ht⟩
  · refine iff_of_true ?_ fun fatal reason caught ha hhalt => ?_
    · rcases ht with ht | ht
      · simpa only [FatalIsFinal, ht] using hs
      · exact (fatalIsFinal_append ht).mpr ⟨hs, connTimerCallback_final _⟩
    · rw [hother fatal reason caught ha] at hhalt
      cases hhalt
  · rw [fatalIsFinal_append ht, and_iff_right hs]
    cases hd : s.dontRestart with
    | true =>
        refine iff_of_true (fun ev e hev => ?_) fun _ _ _ _ _ hd' => ?_
        · simp [clientProtoTerminate] at hev
        · rw [hd] at hd'
          cases hd'
    | false =>
        rw [clientProtoTerminate_final]
        constructor
        · rintro hr _ _ _ ⟨⟩ - -
          exact hr
        · exact fun hn => hn fatal reason caught rfl hhalt hd

/-- What stands behind every end of a session that nobody asked for. -/
structure Inv (s : State) : Prop where
  ended : Terminated s → s.userDisconnected = true ∨ FatalDelivered s
  pki : s.dontRestart = true → FatalDelivered s

theorem FatalDelivered.deliver {s : State} (h : FatalDelivered s) (e : Option HandledError) :
    FatalDelivered (deliver s e) := by
  obtain ⟨f, hf, hfatal⟩ := h
  exact ⟨f, List.mem_append_left _ hf, hfatal⟩

theorem fatalDelivered_event {ev : Event} (h : ev.isFatal = true) (s : State) :
    FatalDelivered (deliver s (event ev)) := by
  obtain ⟨e, he, hfatal⟩ := event_of_fatal h
  exact ⟨e, List.mem_append_right _ (by simp [he]), hfatal⟩

theorem fatalDelivered_status (status message : String) (s : State) :
    FatalDelivered (deliver s (handleConnectionStatus ⟨true, status, message⟩)) :=
  ⟨⟨status, true, nonempty message⟩, List.mem_append_right _ (by simp [handleConnectionStatus]), rfl⟩

theorem FatalDelivered.stop {s : State} (h : FatalDelivered s) : FatalDelivered (stop s) := by
  rw [FatalFlag.stop]
  split
  · exact h
  · exact FatalDelivered.deliver (s := { s with halt := true, restartQueued := false }) h _

theorem externalPkiError_delivers (invalidAlias : Option String) (text : String) (s : State) :
    FatalDelivered (externalPkiError invalidAlias text s) := fatalDelivered_event rfl _

theorem connectThrows_delivers (b : Bool) (status message : String) (s : State) :
    FatalDelivered (connectThrows b status message s) := fatalDelivered_status _ _ _

theorem inv_of_fatalDelivered {s : State} (h : FatalDelivered s) : Inv s := ⟨fun _ => .inr h, fun _ => h⟩

theorem Inv.of_le {s t : State} (hs : Inv s) (hd : s.delivered ⊆ t.delivered)
    (ht : Terminated t → Terminated s) (hu : s.userDisconnected = true → t.userDisconnected = true)
    (hp : t.dontRestart = true → s.dontRestart = true) : Inv t where
  ended := fun h => (hs.ended (ht h)).imp hu fun ⟨e, he, hf⟩ => ⟨e, hd he, hf⟩
  pki := fun h => (hs.pki (hp h)).imp fun _ he => ⟨hd he.1, he.2⟩

theorem pause_inv {s : State} (hs : Inv s) (reason : String) : Inv (pause reason s) := by
  rw [pause]
  split
  · exact hs
  · exact hs.of_le (List.subset_append_left _ _) id id id

theorem resume_inv {s : State} (hs : Inv s) : Inv (resume s) := by
  rw [resume]
  split
  · exact hs
  · exact hs.of_le (List.subset_append_left _ _) id id id

theorem restartWaitCallback_inv {s : State} (hs : Inv s) : Inv (restartWaitCallback s) := by
  rw [restartWaitCallback]
  split
  · exact hs
  · split
    · exact resume_inv hs
    · exact hs.of_le (List.Subset.refl _) id id id

theorem stop_inv {s : State} (hs : Inv s) (h : s.userDisconnected = true) : Inv (stop s) := by
  have hu : (stop s).userDisconnected = true := by
    rw [stop]
    split
    · exact h
    · exact h
  refine ⟨fun _ => .inl hu, fun hp => (hs.pki ?_).stop⟩
  rw [stop] at hp
  split at hp
  · exact hp
  · exact hp

theorem Inv.handled {s : State} (hs : Inv s) (es : List (List Effect)) : Inv { s with handled := es } :=
  hs.of_le (List.Subset.refl _) id id id

theorem clientProtoTerminate_inv {s : State} (hs : Inv s) (retryOnAuthFailed caught : Bool)
    (fatal : ErrorType) (reason : String) :
    Inv (handle caught s (clientProtoTerminate retryOnAuthFailed s.dontRestart fatal reason)) := by
  apply Inv.handled
  cases hd : s.dontRestart with
  | true => exact inv_of_fatalDelivered (hs.pki hd).stop
  | false =>
      rcases clientProtoTerminate_cases retryOnAuthFailed fatal reason with
        ⟨-, ev, hev, hes⟩ | ⟨ev, ms, -, hes⟩ | ⟨-, hes | hes⟩
      · rw [hes]
        exact inv_of_fatalDelivered (fatalDelivered_event hev s).stop
      · rw [hes]
        exact hs.of_le (List.subset_append_left _ _) id id id
      · rw [hes]
        exact hs.of_le (List.Subset.refl _) id id id
      · rw [hes]
        cases caught with
        | true => exact hs
        | false => exact inv_of_fatalDelivered (connectThrows_delivers _ _ _ s)

theorem connTimerCallback_inv (s : State) : Inv (handle false s (connTimerCallback s.paused)) := by
  have hes : connTimerCallback s.paused = [.addEvent ⟨.connectionTimeout, ""⟩, .stop] := by
    simp [connTimerCallback, pauseOnConnectionTimeout]
  rw [hes]
  exact Inv.handled (inv_of_fatalDelivered (fatalDelivered_event rfl s).stop) _

theorem step_inv {retryOnAuthFailed : Bool} {s t : State} {a : Action} (hs : Inv s)
    (h : step retryOnAuthFailed s a = some t) : Inv t := by
  cases a with
  | disconnect =>
      obtain rfl := Option.some.inj h
      exact hs.of_le (List.Subset.refl _) id (fun _ => rfl) id
  | setupThrows | handlerThrows =>
      simp only [step, Option.ite_none_right_eq_some, Option.some.injEq] at h
      obtain ⟨-, rfl⟩ := h
      exact inv_of_fatalDelivered (connectThrows_delivers _ _ _ s)
  | setupReturnsStatus message =>
      simp only [step, Option.ite_none_right_eq_some, Option.some.injEq] at h
      obtain ⟨-, rfl⟩ := h
      exact inv_of_fatalDelivered (fatalDelivered_status "" message _)
  | externalPkiCertError invalidAlias text | externalPkiSignError invalidAlias text =>
      simp only [step, Option.ite_none_right_eq_some, Option.some.injEq] at h
      obtain ⟨-, rfl⟩ := h
      exact inv_of_fatalDelivered (externalPkiError_delivers invalidAlias text s)
  | setupDone =>
      simp only [step, Option.ite_none_right_eq_some, Option.some.injEq] at h
      obtain ⟨-, rfl⟩ := h
      exact hs.of_le (List.Subset.refl _) (fun ht => ht.imp_right fun hp => by cases hp) id id
  | protoTerminate fatal reason caught =>
      simp only [step, Option.ite_none_right_eq_some, Option.some.injEq] at h
      obtain ⟨-, rfl⟩ := h
      split
      · exact hs
      · exact clientProtoTerminate_inv hs _ _ _ _
  | connTimer =>
      simp only [step, Option.ite_none_right_eq_some, Option.some.injEq] at h
      obtain ⟨-, rfl⟩ := h
      split
      · exact hs
      · exact connTimerCallback_inv s
  | restartWaitTimer =>
      simp only [step, Option.ite_none_right_eq_some, Option.some.injEq] at h
      obtain ⟨-, rfl⟩ := h
      exact restartWaitCallback_inv hs
  | pause reason =>
      simp only [step, Option.ite_none_right_eq_some, Option.some.injEq] at h
      obtain ⟨-, rfl⟩ := h
      exact pause_inv hs reason
  | resume =>
      simp only [step, Option.ite_none_right_eq_some, Option.some.injEq] at h
      obtain ⟨-, rfl⟩ := h
      exact resume_inv hs
  | reconnect =>
      simp only [step, Option.ite_none_right_eq_some, Option.some.injEq] at h
      obtain ⟨-, rfl⟩ := h
      split
      · exact hs
      · exact hs.of_le (List.Subset.refl _) id id id
  | gracefulStop =>
      simp only [step, Option.ite_none_right_eq_some, Option.some.injEq] at h
      obtain ⟨hguard, rfl⟩ := h
      exact stop_inv hs hguard.2
  | loopReturns =>
      simp only [step, Option.ite_none_right_eq_some, Option.some.injEq] at h
      obtain ⟨hguard, rfl⟩ := h
      exact hs.of_le (List.Subset.refl _) (fun _ => .inl hguard.2) id id

theorem inv_start : Inv start := by
  refine ⟨fun h => ?_, fun h => by cases h⟩
  rcases h with h | h <;> cases h

theorem truthful_start : Truthful start :=
  ⟨fun es hes => absurd hes List.not_mem_nil, fun h _ => (inv_start.ended h).resolve_left (by decide)⟩

theorem Inv.endIsFatal {s : State} (hs : Inv s) : EndIsFatal s := fun ht hu =>
  (hs.ended ht).resolve_left fun h => by rw [hu] at h; cases h

/-- Every end is reported as fatal, and a fatal report is final in exactly the runs in which
no termination is of a kind that the core reports as fatal and retries. -/
theorem truthful_iff_notRetried (retryOnAuthFailed : Bool) (as : List Action) :
    Throughout (step retryOnAuthFailed) Truthful start as ↔
      Guarded (step retryOnAuthFailed) (NotRetried retryOnAuthFailed) start as := by
  refine throughout_iff_guarded (I := Inv) (fun s a t => step_inv) (fun s a t hs hn ht => ?_)
    inv_start truthful_start
  rw [← step_fatalIsFinal hn.1 ht]
  exact and_iff_left (step_inv hs ht).endIsFatal

/-- The server rejects the credentials of a session that is set to retry. -/
def authFailedRetried : List Action :=
  [.setupDone, .protoTerminate .authFailed "bad password" false, .restartWaitTimer]

theorem authFailedRetried_untruthful :
    ¬Throughout (step true) Truthful start authFailedRetried := by
  intro h
  have hrun : run (step true) start authFailedRetried = some
      { start with
        phase := .running
        delivered := [⟨"AUTH_FAILED", true, some "bad password"⟩]
        handled := [[.addEvent ⟨.authFailed, "bad password"⟩, .queueRestart 5000]] } := by decide
  have hlast := (h.last hrun).1
  have he : event ⟨.authFailed, "bad password"⟩ = some ⟨"AUTH_FAILED", true, some "bad password"⟩ := by
    decide
  exact hlast _ (List.mem_singleton.mpr rfl) _ _ List.mem_cons_self he rfl 5000 (by simp)

end OpenVPNAdapter.FatalFlag
