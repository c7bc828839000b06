import Mathlib.Data.List.Basic
import Mathlib.Data.Option.Basic

namespace OpenVPNAdapter.ClientEvent

/-- `Error::Type`; `UNDEF` is its first value. -/
inductive ErrorType
  | success
  | networkRecvError
  | networkEofError
  | networkSendError
  | networkUnavailable
  | decryptError
  | hmacError
  | replayError
  | bufferError
  | ccError
  | badSrcAddr
  | compressError
  | resolveError
  | socketProtectError
  | tunReadError
  | tunWriteError
  | tunFramingError
  | tunSetupFailed
  | tunIfaceCreate
  | tunIfaceDisabled
  | tunError
  | tunRegisterRingsError
  | tapNotSupported
  | rerouteGwNoDns
  | transportError
  | tcpOverflow
  | tcpSizeError
  | tcpConnectError
  | udpConnectError
  | sslError
  | sslPartialWrite
  | sslCaMdTooWeak
  | sslCaKeyTooSmall
  | sslDhKeyTooSmall
  | encapsulationError
  | epkiCertError
  | epkiSignError
  | handshakeTimeout
  | keepaliveTimeout
  | inactiveTimeout
  | connectionTimeout
  | primaryExpire
  | tlsVersionMin
  | tlsAuthFail
  | tlsCryptMetaFail
  | certVerifyFail
  | pemPasswordFail
  | authFailed
  | clientHalt
  | clientRestart
  | tunHalt
  | relay
  | relayError
  | nPause
  | nReconnect
  | nKeyLimitReneg
  | keyStateError
  | proxyError
  | proxyNeedCreds
  | kevNegotiateError
  | kevPendingError
  | nKevExpire
  | keyExpansionError
  | pktidInvalid
  | pktidBacktrack
  | pktidExpire
  | pktidReplay
  | pktidTimeBacktrack
deriving DecidableEq, Repr

@[match_pattern] def ErrorType.undef : ErrorType := .success

/-- `ClientEvent::Type` in the order of the source. -/
inductive EventType
  | disconnected
  | connected
  | reconnecting
  | authPending
  | resolve
  | wait
  | waitProxy
  | connecting
  | getConfig
  | assignIp
  | addRoutes
  | echoOpt
  | info
  | warn
  | pause
  | resume
  | relay
  | compressionEnabled
  | unsupportedFeature
  | transportError
  | tunError
  | clientRestart
  | authFailed
  | certVerifyFail
  | tlsVersionMin
  | clientHalt
  | clientSetup
  | tunHalt
  | connectionTimeout
  | inactiveTimeout
  | dynamicChallenge
  | proxyNeedCreds
  | proxyError
  | tunSetupFailed
  | tunIfaceCreate
  | tunIfaceDisabled
  | epkiError
  | epkiInvalidAlias
  | relayError
deriving DecidableEq, Repr

def EventType.all : List EventType :=
  [.disconnected, .connected, .reconnecting, .authPending, .resolve, .wait, .waitProxy,
    .connecting, .getConfig, .assignIp, .addRoutes, .echoOpt, .info, .warn, .pause, .resume,
    .relay, .compressionEnabled, .unsupportedFeature, .transportError, .tunError, .clientRestart,
    .authFailed, .certVerifyFail, .tlsVersionMin, .clientHalt, .clientSetup, .tunHalt,
    .connectionTimeout, .inactiveTimeout, .dynamicChallenge, .proxyNeedCreds, .proxyError,
    .tunSetupFailed, .tunIfaceCreate, .tunIfaceDisabled, .epkiError, .epkiInvalidAlias,
    .relayError]

def EventType.id (t : EventType) : Nat := all.idxOf t

def eventNames : List String :=
  ["DISCONNECTED", "CONNECTED", "RECONNECTING", "AUTH_PENDING", "RESOLVE", "WAIT", "WAIT_PROXY",
    "CONNECTING", "GET_CONFIG", "ASSIGN_IP", "ADD_ROUTES", "ECHO", "INFO", "WARN", "PAUSE",
    "RESUME", "RELAY", "COMPRESSION_ENABLED", "UNSUPPORTED_FEATURE", "TRANSPORT_ERROR",
    "TUN_ERROR", "CLIENT_RESTART", "AUTH_FAILED", "CERT_VERIFY_FAIL", "TLS_VERSION_MIN",
    "CLIENT_HALT", "CLIENT_SETUP", "TUN_HALT", "CONNECTION_TIMEOUT", "INACTIVE_TIMEOUT",
    "DYNAMIC_CHALLENGE", "PROXY_NEED_CREDS", "PROXY_ERROR", "TUN_SETUP_FAILED", "TUN_IFACE_CREATE",
    "TUN_IFACE_DISABLED", "EPKI_ERROR", "EPKI_INVALID_ALIAS", "RELAY_ERROR"]

def eventName (t : EventType) : String := eventNames.getD t.id "UNKNOWN_EVENT_TYPE"

def nonfatalErrorStart : Nat := EventType.transportError.id
def fatalErrorStart : Nat := EventType.authFailed.id

/-- An event with the text its `render` gives. -/
structure Event where
  type : EventType
  info : String
deriving DecidableEq, Repr

def Event.isError (ev : Event) : Bool := nonfatalErrorStart ≤ ev.type.id
def Event.isFatal (ev : Event) : Bool := fatalErrorStart ≤ ev.type.id

/-- What `handleError:` gets of an error: the core's name for it, the value under
`OpenVPNAdapterErrorFatalKey` and, when it is not empty, the message. -/
structure HandledError where
  name : String
  fatal : Bool
  message : Option String
deriving DecidableEq, Repr

def nonempty (s : String) : Option String := if s = "" then none else some s

/-- `MyClientEvents::add_event` into `OpenVPNClient::event`; an event that is no error
reaches `handleEvent:message:` instead. -/
def event (ev : Event) : Option HandledError :=
  if ev.isError then some ⟨eventName ev.type, ev.isFatal, nonempty ev.info⟩ else none

structure Status where
  error : Bool
  status : String
  message : String
deriving DecidableEq, Repr

def handleConnectionStatus (s : Status) : Option HandledError :=
  if s.error then some ⟨s.status, true, nonempty s.message⟩ else none

theorem fatal_isError (ev : Event) (h : ev.isFatal = true) : ev.isError = true := by
  have hle : nonfatalErrorStart ≤ fatalErrorStart := by decide
  simp only [Event.isFatal, Event.isError, decide_eq_true_eq] at h ⊢
  exact Nat.le_trans hle h

theorem event_fatal {ev : Event} {e : HandledError} (h : event ev = some e) : e.fatal = ev.isFatal := by
  simp only [event, Option.ite_none_right_eq_some, Option.some.injEq] at h
  exact h.2 ▸ rfl

theorem event_of_fatal {ev : Event} (h : ev.isFatal = true) :
    ∃ e, event ev = some e ∧ e.fatal = true :=
  ⟨_, if_pos (fatal_isError ev h), h⟩

end OpenVPNAdapter.ClientEvent
