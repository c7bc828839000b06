import OpenVPNAdapter.Library.Runs
import OpenVPNAdapter.ClientEvent
import OpenVPNAdapter.ConnectionObjects
import OpenVPNAdapter.FreshSession

namespace OpenVPNAdapter.ConnectionData

open Library.Runs Library.Descriptors Text NetworkSettings TunBuilder OpenVPNClient ClientEvent FreshSession
  ConnectionObjects

structure ChallengeResponse where
  stateId : String
  username : String
deriving DecidableEq, Repr

def ChallengeResponse.constructDynamicPassword (cr : ChallengeResponse) (response : String) : String :=
  "CRV1::" ++ cr.stateId ++ "::" ++ response

/-- What reads and writes base64 text: the cookie of a dynamic challenge with the user it is
for, and the password that answers a static one. -/
structure Challenges where
  parse : String → String → Except String ChallengeResponse
  constructStaticPassword : String → String → String

structure ClientCreds where
  username : String
  password : String
  allowCachePassword : Bool
  passwordSaveDefined : Bool
  passwordSave : String
  response : String
  dynamicChallenge : Option ChallengeResponse
  replacePasswordWithSessionId : Bool
  didReplacePasswordWithSessionId : Bool
deriving DecidableEq, Repr

namespace ClientCreds

variable (cc : ClientCreds)

/-- Whether a session id from the server would take the place of the password. -/
def takesSessionId : Bool := cc.replacePasswordWithSessionId || cc.dynamicChallenge.isSome

def setSessionId (user sessId : String) : ClientCreds :=
  if cc.takesSessionId then
    let save := cc.allowCachePassword && !cc.passwordSaveDefined
    { cc with
      replacePasswordWithSessionId := true
      passwordSave := if save then cc.password else cc.passwordSave
      passwordSaveDefined := cc.passwordSaveDefined || save
      password := sessId
      response := ""
      username := match cc.dynamicChallenge with
        | some challenge => challenge.username
        | none => if user = "" then cc.username else user
      dynamicChallenge := none
      didReplacePasswordWithSessionId := true }
  else cc

def getUsername : String := cc.dynamicChallenge.elim cc.username ChallengeResponse.username

def getPassword (challenges : Challenges) : String :=
  match cc.dynamicChallenge with
  | some challenge => challenge.constructDynamicPassword cc.response
  | none =>
      if cc.response = "" then cc.password
      else challenges.constructStaticPassword cc.password cc.response

def sessionIdDefined : Bool := cc.didReplacePasswordWithSessionId

def canRetryAuthWithCachedPassword : Bool × ClientCreds :=
  if cc.passwordSaveDefined then
    (true, { cc with
      password := cc.passwordSave
      passwordSave := ""
      passwordSaveDefined := false
      didReplacePasswordWithSessionId := false })
  else (false, cc)

def purgeSessionId : ClientCreds :=
  match cc.canRetryAuthWithCachedPassword with
  | (true, retried) => retried
  | (false, kept) => { kept with password := "", didReplacePasswordWithSessionId := false }

theorem sessionIdDefined_setSessionId (user sessId : String) :
    (cc.setSessionId user sessId).sessionIdDefined = (cc.takesSessionId || cc.sessionIdDefined) := by
  by_cases h : cc.takesSessionId = true
  · simp [setSessionId, h, sessionIdDefined]
  · simp [setSessionId, h]

theorem sessionIdDefined_canRetryAuthWithCachedPassword (h : cc.sessionIdDefined = false) :
    cc.canRetryAuthWithCachedPassword.2.sessionIdDefined = false := by
  by_cases hs : cc.passwordSaveDefined = true
  · simp [canRetryAuthWithCachedPassword, hs, sessionIdDefined]
  · simpa [canRetryAuthWithCachedPassword, hs] using h

theorem sessionIdDefined_purgeSessionId : cc.purgeSessionId.sessionIdDefined = false := by
  by_cases hs : cc.passwordSaveDefined = true
  · simp [purgeSessionId, canRetryAuthWithCachedPassword, hs, sessionIdDefined]
  · simp [purgeSessionId, canRetryAuthWithCachedPassword, hs, sessionIdDefined]

end ClientCreds

/-- `ClientAPI::ProvideCreds`. -/
structure ProvideCreds where
  username : String
  password : String
  response : String
  dynamicChallengeCookie : String
  replacePasswordWithSessionID : Bool
  cachePassword : Bool
deriving DecidableEq, Repr

/-- `provide_creds`: a cookie that does not parse leaves the credentials as they were. -/
def provideCreds (challenges : Challenges) (creds : ProvideCreds) : Except String ClientCreds := do
  let challenge ←
    if creds.dynamicChallengeCookie = "" then pure none
    else (challenges.parse creds.dynamicChallengeCookie creds.username).map some
  return {
    username := creds.username
    password := creds.password
    allowCachePassword := creds.cachePassword
    passwordSaveDefined := false
    passwordSave := ""
    response := creds.response
    dynamicChallenge := challenge
    replacePasswordWithSessionId := creds.replacePasswordWithSessionID
    didReplacePasswordWithSessionId := false }

/-- How far `connect` has got. -/
inductive Phase
  | idle
  | attached
  | setUp
  | running
deriving DecidableEq, Repr

/-- `shared`: the session uses the credentials that `session_token` reads. `connected`: there
was a CONNECTED event since the last teardown, RECONNECTING, DISCONNECTED or start. -/
structure State where
  phase : Phase
  tun : FreshSession.State
  lastConnected : Option ConnectionInfo
  creds : Option ClientCreds
  shared : Bool
  connected : Bool
deriving DecidableEq, Repr

def start (tun : FreshSession.State) : State where
  phase := .idle
  tun := { tun with adapter := resetSettings tun.adapter }
  lastConnected := none
  creds := none
  shared := false
  connected := false

/-- `foreign_thread_ready`, which is set when the set-up is complete. -/
def State.isForeignThreadAccess (s : State) : Bool := s.phase = .running

def connectionInformation (s : State) : Option OpenVPNConnectionInfo :=
  if s.isForeignThreadAccess then s.lastConnected.map initWithConnectionInfo else none

def sessionToken (challenges : Challenges) (s : State) : Option OpenVPNSessionToken :=
  if s.isForeignThreadAccess then
    (s.creds.filter ClientCreds.sessionIdDefined).map fun cc =>
      initWithSessionToken ⟨cc.getUsername, cc.getPassword challenges⟩
  else none

def sessionName (s : State) : Option String := s.tun.adapter.sessionName

/-- `connectSetup` is the part of `connect_setup` that touches the credentials: a static
challenge forces the session id, and a profile may name the user or bring credentials of its
own, which the session then uses instead. `event` is any event but the three that have an
action of their own. -/
inductive Action
  | provideCreds (creds : ProvideCreds)
  | connectAttach
  | connectSetup (staticChallenge credsLocked : Bool) (userlockedUsername : String)
  | enableForeignThreadAccess
  | callback (kernel : Table) (c : Callback)
  | extractAuthToken (user sessId : String)
  | retryAuthWithCachedPassword
  | purgeSessionId
  | connected (info : ConnectionInfo)
  | reconnecting
  | disconnected
  | event (type : EventType)
deriving DecidableEq, Repr

/-- The session works on its credentials; the adapter sees it when they are the shared ones. -/
def onSessionCreds (f : ClientCreds → ClientCreds) (s : State) : State :=
  if s.shared then { s with creds := s.creds.map f } else s

def forceSessionId (staticChallenge : Bool) (cc : ClientCreds) : ClientCreds :=
  if staticChallenge && !cc.replacePasswordWithSessionId then
    { cc with replacePasswordWithSessionId := true, allowCachePassword := false }
  else cc

def submitCreds (credsLocked : Bool) (userlockedUsername : String) (cc : ClientCreds) : ClientCreds :=
  if !credsLocked && cc.username = "" && userlockedUsername ≠ "" then
    { cc with username := userlockedUsername }
  else cc

def isTeardown : Callback → Bool
  | .tunBuilderTeardown _ => true
  | _ => false

variable (p : Platform) (tunPersist : Bool) (challenges : Challenges)

/-- A second `attach` throws and changes nothing; the session's own steps come from the
reactor, which runs after the set-up. -/
def step (s : State) : Action → Option State
  | .provideCreds creds =>
      match provideCreds challenges creds with
      | .ok cc => some { s with creds := some cc, shared := false }
      | .error _ => some s
  | .connectAttach =>
      if s.phase = .idle then some { s with phase := .attached, lastConnected := none } else some s
  | .connectSetup staticChallenge credsLocked userlockedUsername =>
      if s.phase = .attached then
        some { s with
          phase := .setUp
          creds := s.creds.map (submitCreds credsLocked userlockedUsername ∘ forceSessionId staticChallenge)
          shared := !credsLocked }
      else none
  | .enableForeignThreadAccess => if s.phase = .setUp then some { s with phase := .running } else none
  | .callback kernel c =>
      if s.phase = .running then
        some { s with
          tun := (react p tunPersist (s.tun.found kernel) c).2
          connected := s.connected && !isTeardown c }
      else none
  | .extractAuthToken user sessId =>
      if s.phase = .running then some (onSessionCreds (·.setSessionId user sessId) s) else none
  | .retryAuthWithCachedPassword =>
      if s.phase = .running then some (onSessionCreds (·.canRetryAuthWithCachedPassword.2) s) else none
  | .purgeSessionId => if s.phase = .running then some (onSessionCreds (·.purgeSessionId) s) else none
  | .connected info =>
      if s.phase = .running then some { s with lastConnected := some info, connected := true } else none
  | .reconnecting => if s.phase = .idle then none else some { s with connected := false }
  | .disconnected => if s.phase = .idle then none else some { s with connected := false }
  | .event type =>
      if s.phase = .idle ∨ type ∈ [.connected, .reconnecting, .disconnected] then none else some s

/-- What the header promises of the three properties. -/
structure NilUnlessConnected (s : State) : Prop where
  connectionInformation : s.connected = false → connectionInformation s = none
  sessionToken : s.connected = false → sessionToken challenges s = none
  sessionName : s.connected = false → sessionName s = none

/-- Nothing is held of any connection, in any of the three places. -/
structure Empty (s : State) : Prop where
  lastConnected : s.lastConnected = none
  creds : ∀ cc ∈ s.creds, cc.sessionIdDefined = false
  sessionName : sessionName s = none

/-- Nothing is held before the set-up is complete, and CONNECTED leaves its event behind. -/
structure Inv (s : State) : Prop where
  silent : s.phase ≠ .running → Empty s ∧ s.connected = false
  remembered : s.connected = true → s.lastConnected ≠ none

/-- The session has credentials of its owner that a token would go into. -/
def StoresToken (s : State) : Prop := s.shared = true ∧ ∃ cc ∈ s.creds, cc.takesSessionId = true

/-- A connection that is up stays up, and a session name or a token is stored only meanwhile. -/
def Kept (s : State) : Action → State → Prop
  | .callback _ (.tunBuilderTeardown _), _ => s.connected = false
  | .callback _ (.setter (.setSessionName _)), _ => s.connected = true
  | .extractAuthToken _ _, _ => StoresToken s → s.connected = true
  | .reconnecting, _ | .disconnected, _ => s.connected = false
  | _, _ => True

variable {p tunPersist challenges} {s t : State}

theorem nilUnlessConnected_iff (hI : Inv s) :
    NilUnlessConnected challenges s ↔ (s.connected = false → Empty s) := by
  by_cases hp : s.phase = .running
  · have haccess : s.isForeignThreadAccess = true := by simpa [State.isForeignThreadAccess] using hp
    constructor
    · intro h hc
      refine ⟨?_, ?_, h.sessionName hc⟩
      · simpa [connectionInformation, haccess] using h.connectionInformation hc
      · simpa [sessionToken, haccess, Option.filter_eq_none_iff] using h.sessionToken hc
    · intro h
      refine ⟨fun hc => ?_, fun hc => ?_, fun hc => (h hc).sessionName⟩
      · simpa [connectionInformation, haccess] using (h hc).lastConnected
      · simpa [sessionToken, haccess, Option.filter_eq_none_iff] using (h hc).creds
  · have haccess : s.isForeignThreadAccess = false := by simpa [State.isForeignThreadAccess] using hp
    have hE := (hI.silent hp).1
    refine ⟨fun _ _ => hE, fun _ => ⟨fun _ => ?_, fun _ => ?_, fun _ => hE.sessionName⟩⟩
    · simp [connectionInformation, haccess]
    · simp [sessionToken, haccess]

theorem sessionName_client {a b : Adapter} {c : Call} {r : Bool} (h : client p a c = .ok (r, b)) :
    b.sessionName = match c with
      | .setSessionName name => some (cStr name)
      | _ => a.sessionName := by
  have hmap {x : Except String (Bool × Builder)} (hx : x.map (onBuilder a) = .ok (r, b)) :
      b.sessionName = a.sessionName := by
    cases x with
    | error e => cases hx
    | ok y =>
        obtain ⟨-, rfl⟩ := Prod.mk.inj (Except.ok.inj hx)
        rfl
  cases c with
  | addAddress | addRoute | excludeRoute => exact hmap h
  | setLayer | setRemoteAddress | setRouteMetricDefault | rerouteGw | addDnsServer | addSearchDomain
  | setMtu | setSessionName | addProxyBypass | setProxyAutoConfigUrl | setProxyHttp | setProxyHttps
  | addWinsServer | setBlockIPv6 | setAdapterDomainSuffix =>
      obtain ⟨-, rfl⟩ := Prod.mk.inj (Except.ok.inj h)
      rfl

theorem sessionName_react (s : FreshSession.State) (c : Callback) :
    (react p tunPersist s c).2.adapter.sessionName = match c with
      | .tunBuilderNew | .tunBuilderTeardown _ => none
      | .setter (.setSessionName name) => some (cStr name)
      | _ => s.adapter.sessionName := by
  cases c with
  | tunBuilderNew | tunBuilderTeardown => rfl
  | tunBuilderPersist | tunBuilderGetLocalNetworks | tunBuilderEstablishLite => rfl
  | tunBuilderEstablish delegate calls =>
      simp only [react, establish]
      cases s.adapter.builder.networkSettings <;> rfl
  | setter c =>
      cases h : client p s.adapter c with
      | error e => cases c <;> simp_all [react, client]
      | ok r =>
          have hname := sessionName_client h
          simp only [react, h]
          rw [hname]
          cases c <;> rfl

theorem onSessionCreds_empty {f : ClientCreds → ClientCreds}
    (hf : ∀ cc, cc.sessionIdDefined = false → (f cc).sessionIdDefined = false) (h : Empty s) :
    Empty (onSessionCreds f s) := by
  by_cases hs : s.shared = true
  · rw [onSessionCreds, if_pos hs]
    refine ⟨h.lastConnected, fun cc hcc => ?_, h.sessionName⟩
    obtain ⟨cc', hcc', rfl⟩ := Option.map_eq_some_iff.mp hcc
    exact hf cc' (h.creds cc' hcc')
  · rw [onSessionCreds, if_neg hs]
    exact h

theorem onSessionCreds_phase (f : ClientCreds → ClientCreds) : (onSessionCreds f s).phase = s.phase := by
  by_cases hs : s.shared = true <;> simp [onSessionCreds, hs]

theorem onSessionCreds_connected (f : ClientCreds → ClientCreds) :
    (onSessionCreds f s).connected = s.connected := by
  by_cases hs : s.shared = true <;> simp [onSessionCreds, hs]

theorem onSessionCreds_lastConnected (f : ClientCreds → ClientCreds) :
    (onSessionCreds f s).lastConnected = s.lastConnected := by
  by_cases hs : s.shared = true <;> simp [onSessionCreds, hs]

theorem extractAuthToken_empty_iff (user sessId : String) (h : Empty s) :
    Empty (onSessionCreds (·.setSessionId user sessId) s) ↔ ¬ StoresToken s := by
  constructor
  · rintro hE ⟨hs, cc, hcc, htakes⟩
    have hdefined := ClientCreds.sessionIdDefined_setSessionId cc user sessId
    rw [htakes, Bool.true_or] at hdefined
    have hfalse := hE.creds (cc.setSessionId user sessId) (by
      rw [onSessionCreds, if_pos hs]
      exact Option.map_eq_some_iff.mpr ⟨cc, hcc, rfl⟩)
    rw [hdefined] at hfalse
    cases hfalse
  · intro hno
    by_cases hs : s.shared = true
    · rw [onSessionCreds, if_pos hs]
      refine ⟨h.lastConnected, fun cc hcc => ?_, h.sessionName⟩
      obtain ⟨cc', hcc', rfl⟩ := Option.map_eq_some_iff.mp hcc
      rw [ClientCreds.sessionIdDefined_setSessionId, h.creds cc' hcc', Bool.or_false]
      exact Bool.eq_false_iff.mpr fun htakes => hno ⟨hs, cc', hcc', htakes⟩
    · rw [onSessionCreds, if_neg hs]
      exact h

theorem sessionIdDefined_connectSetup (staticChallenge credsLocked : Bool) (user : String) (cc : ClientCreds) :
    (submitCreds credsLocked user (forceSessionId staticChallenge cc)).sessionIdDefined =
      cc.sessionIdDefined := by
  simp only [submitCreds, forceSessionId]
  split <;> split <;> rfl

theorem sessionIdDefined_provideCreds {creds : ProvideCreds} {cc : ClientCreds}
    (h : provideCreds challenges creds = .ok cc) : cc.sessionIdDefined = false := by
  simp only [provideCreds] at h
  split at h
  · obtain rfl := Except.ok.inj h
    rfl
  · cases hparse : challenges.parse creds.dynamicChallengeCookie creds.username with
    | error e => simp [hparse, Except.map, bind, Except.bind] at h
    | ok challenge =>
        simp only [hparse] at h
        obtain rfl := Except.ok.inj h
        rfl

theorem inv_step {a : Action} (hI : Inv s) (h : step p tunPersist challenges s a = some t) : Inv t := by
  cases a with
  | provideCreds creds =>
      simp only [step] at h
      cases hp : provideCreds challenges creds with
      | error e =>
          obtain rfl := Option.some.inj (by simpa only [hp] using h)
          exact hI
      | ok cc =>
          obtain rfl := Option.some.inj (by simpa only [hp] using h)
          refine ⟨fun hph => ⟨⟨(hI.silent hph).1.lastConnected, fun cc' hcc' => ?_,
            (hI.silent hph).1.sessionName⟩, (hI.silent hph).2⟩, hI.remembered⟩
          obtain rfl := Option.some.inj hcc'
          exact sessionIdDefined_provideCreds hp
  | connectAttach =>
      simp only [step] at h
      split at h
      · next hph =>
          obtain rfl := Option.some.inj h
          obtain ⟨hE, hc⟩ := hI.silent (by simp [hph])
          exact ⟨fun _ => ⟨⟨rfl, hE.creds, hE.sessionName⟩, hc⟩, fun hc' => absurd hc' (by simp [hc])⟩
      · obtain rfl := Option.some.inj h
        exact hI
  | connectSetup staticChallenge credsLocked user =>
      simp only [step, Option.ite_none_right_eq_some, Option.some.injEq] at h
      obtain ⟨hph, rfl⟩ := h
      obtain ⟨hE, hc⟩ := hI.silent (by simp [hph])
      refine ⟨fun _ => ⟨⟨hE.lastConnected, fun cc hcc => ?_, hE.sessionName⟩, hc⟩,
        fun hc' => absurd hc' (by simp [hc])⟩
      obtain ⟨cc', hcc', rfl⟩ := Option.map_eq_some_iff.mp hcc
      exact (sessionIdDefined_connectSetup _ _ _ cc').trans (hE.creds cc' hcc')
  | enableForeignThreadAccess =>
      simp only [step, Option.ite_none_right_eq_some, Option.some.injEq] at h
      obtain ⟨hph, rfl⟩ := h
      exact ⟨fun hr => absurd rfl hr, fun hc => absurd hc (by simp [(hI.silent (by simp [hph])).2])⟩
  | callback kernel c =>
      simp only [step, Option.ite_none_right_eq_some, Option.some.injEq] at h
      obtain ⟨hph, rfl⟩ := h
      exact ⟨fun hr => absurd hph hr, fun hc => hI.remembered (Bool.and_eq_true_iff.mp hc).1⟩
  | extractAuthToken | retryAuthWithCachedPassword | purgeSessionId =>
      simp only [step, Option.ite_none_right_eq_some, Option.some.injEq] at h
      obtain ⟨hph, rfl⟩ := h
      refine ⟨fun hr => absurd ((onSessionCreds_phase _).trans hph) hr, fun hc => ?_⟩
      rw [onSessionCreds_lastConnected]
      exact hI.remembered ((onSessionCreds_connected _).symm.trans hc)
  | connected info =>
      simp only [step, Option.ite_none_right_eq_some, Option.some.injEq] at h
      obtain ⟨hph, rfl⟩ := h
      exact ⟨fun hr => absurd hph hr, fun _ => Option.some_ne_none info⟩
  | reconnecting | disconnected =>
      simp only [step, Option.ite_none_left_eq_some, Option.some.injEq] at h
      obtain ⟨hph, rfl⟩ := h
      have hE := fun hr => (hI.silent hr).1
      exact ⟨fun hr => ⟨⟨(hE hr).lastConnected, (hE hr).creds, (hE hr).sessionName⟩, rfl⟩,
        fun hc => Bool.noConfusion hc⟩
  | event type =>
      simp only [step, Option.ite_none_left_eq_some, Option.some.injEq] at h
      obtain ⟨-, rfl⟩ := h
      exact hI

theorem callback_empty_iff {kernel : Table} {c : Callback} (hE : Empty s) :
    Empty { s with
      tun := (react p tunPersist (s.tun.found kernel) c).2
      connected := s.connected && !isTeardown c } ↔ ∀ name, c ≠ .setter (.setSessionName name) := by
  have hname := @sessionName_react p tunPersist (s.tun.found kernel) c
  have hsession : s.tun.adapter.sessionName = none := hE.sessionName
  constructor
  · rintro h name rfl
    have hnone :
        (react p tunPersist (s.tun.found kernel) (.setter (.setSessionName name))).2.adapter.sessionName = none :=
      h.sessionName
    rw [hname] at hnone
    cases hnone
  · intro h
    refine ⟨hE.lastConnected, hE.creds, hname.trans ?_⟩
    cases c with
    | setter c =>
        cases c with
        | setSessionName name => exact absurd rfl (h name)
        | _ => exact hsession
    | _ => first | rfl | exact hsession

theorem kept_callback_iff {kernel : Table} {c : Callback} :
    Kept s (.callback kernel c) t ↔ (isTeardown c = true → s.connected = false) ∧
      ∀ name, c = .setter (.setSessionName name) → s.connected = true := by
  cases c with
  | setter c => cases c <;> simp [Kept, isTeardown]
  | _ => simp [Kept, isTeardown]

theorem empty_step {a : Action} (hI : Inv s) (hE : s.connected = false → Empty s)
    (h : step p tunPersist challenges s a = some t) : (t.connected = false → Empty t) ↔ Kept s a t := by
  have hI' := inv_step hI h
  cases a with
  | provideCreds creds =>
      simp only [step] at h
      cases hp : provideCreds challenges creds with
      | error e =>
          obtain rfl := Option.some.inj (by simpa only [hp] using h)
          exact ⟨fun _ => trivial, fun _ => hE⟩
      | ok cc =>
          obtain rfl := Option.some.inj (by simpa only [hp] using h)
          refine ⟨fun _ => trivial, fun _ hc => ⟨(hE hc).lastConnected, fun cc' hcc' => ?_, (hE hc).sessionName⟩⟩
          obtain rfl := Option.some.inj hcc'
          exact sessionIdDefined_provideCreds hp
  | connectAttach =>
      simp only [step] at h
      split at h
      · next hph =>
          obtain rfl := Option.some.inj h
          exact ⟨fun _ => trivial, fun _ _ => (hI'.silent (by simp)).1⟩
      · obtain rfl := Option.some.inj h
        exact ⟨fun _ => trivial, fun _ => hE⟩
  | connectSetup staticChallenge credsLocked user =>
      simp only [step, Option.ite_none_right_eq_some, Option.some.injEq] at h
      obtain ⟨-, rfl⟩ := h
      exact ⟨fun _ => trivial, fun _ _ => (hI'.silent (by simp)).1⟩
  | enableForeignThreadAccess =>
      simp only [step, Option.ite_none_right_eq_some, Option.some.injEq] at h
      obtain ⟨hph, rfl⟩ := h
      exact ⟨fun _ => trivial, fun _ hc => ⟨(hE hc).lastConnected, (hE hc).creds, (hE hc).sessionName⟩⟩
  | callback kernel c =>
      simp only [step, Option.ite_none_right_eq_some, Option.some.injEq] at h
      obtain ⟨-, rfl⟩ := h
      rw [kept_callback_iff]
      cases hc : s.connected with
      | true =>
          refine ⟨fun hE' => ⟨fun ht => ?_, fun _ _ => rfl⟩, fun hkept hdown => ?_⟩
          · exact absurd (hE' (by simp [ht])).lastConnected (hI.remembered hc)
          · exact Bool.noConfusion (hkept.1 (by simpa [hc] using hdown))
      | false =>
          have hiff := @callback_empty_iff p tunPersist s kernel c (hE hc)
          simpa [hc] using hiff
  | extractAuthToken user sessId =>
      simp only [step, Option.ite_none_right_eq_some, Option.some.injEq] at h
      obtain ⟨hph, rfl⟩ := h
      rw [onSessionCreds_connected, Kept]
      cases hc : s.connected with
      | true => simp
      | false => simpa using extractAuthToken_empty_iff user sessId (hE hc)
  | retryAuthWithCachedPassword =>
      simp only [step, Option.ite_none_right_eq_some, Option.some.injEq] at h
      obtain ⟨hph, rfl⟩ := h
      rw [onSessionCreds_connected]
      exact ⟨fun _ => trivial, fun _ hc => onSessionCreds_empty
        (fun cc => cc.sessionIdDefined_canRetryAuthWithCachedPassword) (hE hc)⟩
  | purgeSessionId =>
      simp only [step, Option.ite_none_right_eq_some, Option.some.injEq] at h
      obtain ⟨hph, rfl⟩ := h
      rw [onSessionCreds_connected]
      exact ⟨fun _ => trivial, fun _ hc => onSessionCreds_empty
        (fun cc _ => cc.sessionIdDefined_purgeSessionId) (hE hc)⟩
  | connected info =>
      simp only [step, Option.ite_none_right_eq_some, Option.some.injEq] at h
      obtain ⟨-, rfl⟩ := h
      exact ⟨fun _ => trivial, fun _ hc => Bool.noConfusion hc⟩
  | reconnecting | disconnected =>
      simp only [step, Option.ite_none_left_eq_some, Option.some.injEq] at h
      obtain ⟨-, rfl⟩ := h
      refine ⟨fun hE' => ?_, fun hc _ => ⟨(hE hc).lastConnected, (hE hc).creds, (hE hc).sessionName⟩⟩
      cases hc : s.connected with
      | true => exact absurd (hE' rfl).lastConnected (hI.remembered hc)
      | false => exact hc
  | event type =>
      simp only [step, Option.ite_none_left_eq_some, Option.some.injEq] at h
      obtain ⟨-, rfl⟩ := h
      exact ⟨fun _ => trivial, fun _ => hE⟩

theorem promise_step {a : Action} (hI : Inv s) (hP : NilUnlessConnected challenges s)
    (h : step p tunPersist challenges s a = some t) : NilUnlessConnected challenges t ↔ Kept s a t := by
  rw [nilUnlessConnected_iff (inv_step hI h)]
  exact empty_step hI ((nilUnlessConnected_iff hI).mp hP) h

theorem inv_start (tun : FreshSession.State) : Inv (start tun) :=
  ⟨fun _ => ⟨⟨rfl, fun _ h => absurd h (by simp [start]), rfl⟩, rfl⟩, fun h => Bool.noConfusion h⟩

variable (p tunPersist challenges)

/-- The connection data are nil without a connection, all along a run, exactly when no
connection ends in it and no session name or token is stored outside one. -/
theorem nil_iff_kept (tun : FreshSession.State) (as : List Action) :
    Throughout (step p tunPersist challenges) (NilUnlessConnected challenges) (start tun) as ↔
      Guarded (step p tunPersist challenges) Kept (start tun) as :=
  throughout_iff_guarded (fun _ _ _ => inv_step) (fun _ _ _ => promise_step) (inv_start tun)
    ((nilUnlessConnected_iff (inv_start tun)).mpr fun _ => ((inv_start tun).silent (by simp [start])).1)

/-- A connection that is up and reconnects: what the server gave stays readable. -/
def droppedConnection : List Action :=
  [.connectAttach, .connectSetup false false "", .enableForeignThreadAccess,
    .connected ⟨"user", "vpn.example", "1194", "UDPv4", "192.0.2.1", "10.8.0.2", "", "10.8.0.1", "", "", "utun"⟩,
    .reconnecting]

def freshTun : FreshSession.State := ⟨⟨.empty, none⟩, PacketFlowBridge.init, Library.Descriptors.empty⟩

def noChallenges : Challenges := ⟨fun _ _ => .error "dynamic_challenge_parse_error", fun _ response => response⟩

def anyPlatform : Platform := ⟨.ofTable [], some, true⟩

theorem droppedConnection_stale :
    ¬ Throughout (step anyPlatform false noChallenges) (NilUnlessConnected noChallenges) (start freshTun)
      droppedConnection := by
  intro h
  have hlast := h.last (t := (run (step anyPlatform false noChallenges) (start freshTun)
    droppedConnection).getD (start freshTun)) rfl
  exact absurd (hlast.connectionInformation rfl) (by decide)

end OpenVPNAdapter.ConnectionData
