import OpenVPNAdapter.Library.Responses
import OpenVPNAdapter.OpenVPNClient
import OpenVPNAdapter.PacketFlowBridge

namespace OpenVPNAdapter.FreshSession

open Library.Responses Library.Descriptors Text IP NetworkSettings TunBuilder OpenVPNClient PacketFlowBridge

/-- The adapter with its bridge, and the descriptors of the process, as the callbacks of
`OpenVPNClient` find and leave them. -/
structure State where
  adapter : Adapter
  bridge : Bridge
  kernel : Table
deriving DecidableEq, Repr

/-- The state with the descriptors as the rest of the process has left them. -/
def State.found (kernel : Table) (s : State) : State := { s with kernel := kernel }

/-- The callbacks of `TunBuilderBase`. The delegate's reply and the outcome of the system calls,
which are not the adapter's, come along with them. -/
inductive Callback
  | tunBuilderNew
  | setter (c : Call)
  | tunBuilderEstablish (delegate : TunnelConfiguration) (calls : SocketCalls)
  | tunBuilderPersist
  | tunBuilderGetLocalNetworks (ipv6 : Bool)
  | tunBuilderEstablishLite
  | tunBuilderTeardown (disconnect : Bool)
deriving DecidableEq, Repr

inductive Returned
  | bool (value : Bool)
  | socket (handle : Int)
  | networks (routes : List String)
  | void
  | thrown
deriving DecidableEq, Repr

/-- What a callback returns, and the settings it hands to the adapter's delegate. -/
structure Response where
  returned : Returned
  handed : List (Option NEPacketTunnelNetworkSettings)
deriving DecidableEq, Repr

def invalidSocket : Int := -1

def socketHandle (b : Bridge) : Int := b.openVPNSocket.elim invalidSocket fun h => h.number

/-- `resetSettings` and `resetTun`, whose nil settings take the tunnel down. -/
def reset (s : State) : State :=
  let (kernel, bridge) := invalidateSocketsIfNeeded s.kernel s.bridge
  ⟨resetSettings s.adapter, bridge, kernel⟩

/-- Without a remote address the assertion of `networkSettings` throws. -/
def establish (delegate : TunnelConfiguration) (calls : SocketCalls) (s : State) : Response × State :=
  match s.adapter.builder.networkSettings with
  | none => (⟨.thrown, []⟩, s)
  | some settings =>
      let (established, kernel, bridge) := establishTunnel delegate calls s.kernel s.bridge
      (⟨.socket (if established then socketHandle bridge else invalidSocket), [some settings]⟩,
        ⟨s.adapter, bridge, kernel⟩)

variable (p : Platform) (tunPersist : Bool)

def react (s : State) : Callback → Response × State
  | .tunBuilderNew => (⟨.bool true, [none]⟩, reset s)
  | .setter c =>
      match client p s.adapter c with
      | .ok (returned, adapter) => (⟨.bool returned, []⟩, { s with adapter := adapter })
      | .error _ => (⟨.thrown, []⟩, s)
  | .tunBuilderEstablish delegate calls => establish delegate calls s
  | .tunBuilderPersist => (⟨.bool tunPersist, []⟩, s)
  | .tunBuilderGetLocalNetworks _ => (⟨.networks [], []⟩, s)
  | .tunBuilderEstablishLite => (⟨.void, []⟩, s)
  | .tunBuilderTeardown _ => (⟨.void, [none]⟩, reset s)

def Callback.resets : Callback → Bool
  | .tunBuilderNew => true
  | .tunBuilderTeardown _ => true
  | _ => false

/-- What two callbacks return, where one descriptor is as good as another. -/
def Returned.Alike : Returned → Returned → Prop
  | .socket handle, .socket handle' => handle = invalidSocket ↔ handle' = invalidSocket
  | returned, returned' => returned = returned'

structure Response.Alike (r r' : Response) : Prop where
  returned : r.returned.Alike r'.returned
  handed : r.handed = r'.handed

theorem Response.alike_refl (r : Response) : r.Alike r := by
  refine ⟨?_, rfl⟩
  cases r.returned with
  | socket handle => exact Iff.rfl
  | bool | networks | void | thrown => rfl

/-- The adapter's settings are the same; the bridge and the descriptors may differ. -/
def SameSettings (s t : State) : Prop := s.adapter = t.adapter

/-- The same descriptors are open as well. -/
structure SameNumbers (s t : State) : Prop where
  adapter : s.adapter = t.adapter
  kernel : numbers s.kernel = numbers t.kernel
  packetFlowSocket : s.bridge.packetFlowSocket.map Handle.number = t.bridge.packetFlowSocket.map Handle.number
  openVPNSocket : s.bridge.openVPNSocket.map Handle.number = t.bridge.openVPNSocket.map Handle.number

variable {p tunPersist}

theorem socketHandle_established {delegate : TunnelConfiguration} {calls : SocketCalls}
    (h : establishes delegate calls = true) (kernel : Table) (b : Bridge) :
    0 ≤ socketHandle (establishTunnel delegate calls kernel b).2.2 := by
  cases delegate with
  | timeout | error => simp [establishes] at h
  | accepted =>
      rcases calls with ⟨_ | _, _ | _, _ | _, _ | _⟩ <;>
          first | exact Int.natCast_nonneg _ | simp [establishes] at h

theorem establish_established {delegate : TunnelConfiguration} {calls : SocketCalls} {s : State}
    {settings : NEPacketTunnelNetworkSettings} (hs : s.adapter.builder.networkSettings = some settings)
    (h : establishes delegate calls = true) :
    ∃ handle t, 0 ≤ handle ∧ establish delegate calls s = (⟨.socket handle, [some settings]⟩, t) := by
  have hreturns : (establishTunnel delegate calls s.kernel s.bridge).1 = true := by rw [establishTunnel_returns, h]
  refine ⟨_, (establish delegate calls s).2, socketHandle_established h s.kernel s.bridge, ?_⟩
  simp only [establish, hs, hreturns, if_true]

/-- An establish gives a descriptor or none, by its delegate and its system calls alone. -/
theorem establish_sameSettings (delegate : TunnelConfiguration) (calls : SocketCalls) {s t : State}
    (h : SameSettings s t) :
    (establish delegate calls s).1.Alike (establish delegate calls t).1 ∧
      SameSettings (establish delegate calls s).2 (establish delegate calls t).2 := by
  simp only [establish, h.symm]
  cases s.adapter.builder.networkSettings with
  | none => exact ⟨Response.alike_refl _, h⟩
  | some settings =>
      refine ⟨⟨?_, rfl⟩, rfl⟩
      simp only [establishTunnel_returns, Returned.Alike]
      by_cases hok : establishes delegate calls = true
      · have hs := socketHandle_established hok s.kernel s.bridge
        have ht := socketHandle_established hok t.kernel t.bridge
        rw [if_pos hok, if_pos hok]
        exact iff_of_false (Int.ne_of_gt (Int.lt_of_lt_of_le (by decide) hs))
            (Int.ne_of_gt (Int.lt_of_lt_of_le (by decide) ht))
      · rw [if_neg hok, if_neg hok]

theorem configureSockets_sameNumbers (calls : SocketCalls) {s t : State} (h : SameNumbers s t) :
    let left := configureSockets calls s.kernel s.bridge
    let right := configureSockets calls t.kernel t.bridge
    left.1 = right.1 ∧ SameNumbers ⟨s.adapter, left.2.2, left.2.1⟩ ⟨t.adapter, right.2.2, right.2.1⟩ := by
  have hnext : (next s.kernel).number = (next t.kernel).number := congrArg lowestFree h.kernel
  have hallocate : numbers (allocate s.kernel) = numbers (allocate t.kernel) := by
    rw [numbers_allocate, numbers_allocate, h.kernel]
  have hnext' : (next (allocate s.kernel)).number = (next (allocate t.kernel)).number :=
      congrArg lowestFree hallocate
  simp only [configureSockets]
  split
  · refine ⟨rfl, h.adapter, ?_, ?_, ?_⟩
    · rw [numbers_allocate, numbers_allocate (allocate t.kernel), hallocate]
    · cases calls.createPacketFlowSocket with
      | true => exact congrArg some hnext
      | false => rfl
    · cases calls.createOpenVPNSocket with
      | true => exact congrArg some hnext'
      | false => rfl
  · exact ⟨rfl, h⟩

theorem establish_sameNumbers (delegate : TunnelConfiguration) (calls : SocketCalls) {s t : State}
    (h : SameNumbers s t) :
    (establish delegate calls s).1 = (establish delegate calls t).1 ∧
      SameNumbers (establish delegate calls s).2 (establish delegate calls t).2 := by
  simp only [establish, h.adapter.symm]
  cases s.adapter.builder.networkSettings with
  | none => exact ⟨rfl, h⟩
  | some settings =>
      cases delegate with
      | timeout | error => exact ⟨rfl, rfl, h.kernel, h.packetFlowSocket, h.openVPNSocket⟩
      | accepted =>
          obtain ⟨hreturns, hsame⟩ := configureSockets_sameNumbers calls h
          have hhandle (b : Bridge) :
              socketHandle b = (b.openVPNSocket.map Handle.number).elim invalidSocket Int.ofNat := by
            cases hb : b.openVPNSocket <;> simp [socketHandle, hb]
          simp only [establishTunnel, hreturns]
          split
          · refine ⟨?_, rfl, hsame.kernel, hsame.packetFlowSocket, hsame.openVPNSocket⟩
            simp only [hhandle, startReading, hsame.openVPNSocket]
          · exact ⟨rfl, rfl, hsame.kernel, hsame.packetFlowSocket, hsame.openVPNSocket⟩

theorem reset_sockets (s : State) :
    (reset s).bridge.packetFlowSocket = none ∧ (reset s).bridge.openVPNSocket = none := by
  unfold reset invalidateSocketsIfNeeded invalidateOpenVPNSocket invalidatePacketFlowSocket
  cases ho : s.bridge.openVPNSocket <;> cases hp : s.bridge.packetFlowSocket <;> simp [ho, hp]

theorem reset_numbers (s : State) : numbers (reset s).kernel =
    (s.bridge.packetFlowSocket.map Handle.number).elim id (fun n ns => ns.erase n)
      ((s.bridge.openVPNSocket.map Handle.number).elim id (fun n ns => ns.erase n) (numbers s.kernel)) := by
  unfold reset invalidateSocketsIfNeeded invalidateOpenVPNSocket invalidatePacketFlowSocket
  cases ho : s.bridge.openVPNSocket <;> cases hp : s.bridge.packetFlowSocket <;> simp [hp, numbers_close]

theorem reset_sameNumbers {s t : State} (h : SameNumbers s t) : SameNumbers (reset s) (reset t) := by
  refine ⟨rfl, ?_, ?_, ?_⟩
  · rw [reset_numbers, reset_numbers, h.kernel, h.packetFlowSocket, h.openVPNSocket]
  · rw [(reset_sockets s).1, (reset_sockets t).1]
  · rw [(reset_sockets s).2, (reset_sockets t).2]

theorem react_sameSettings (s t : State) (c : Callback) (h : SameSettings s t) :
    (react p tunPersist s c).1.Alike (react p tunPersist t c).1 ∧
      SameSettings (react p tunPersist s c).2 (react p tunPersist t c).2 := by
  cases c with
  | setter c =>
      simp only [react, h.symm]
      cases client p s.adapter c with
      | error => exact ⟨Response.alike_refl _, h⟩
      | ok r => exact ⟨Response.alike_refl _, rfl⟩
  | tunBuilderEstablish delegate calls => exact establish_sameSettings delegate calls h
  | tunBuilderNew | tunBuilderTeardown => exact ⟨Response.alike_refl _, rfl⟩
  | tunBuilderPersist | tunBuilderGetLocalNetworks | tunBuilderEstablishLite => exact ⟨Response.alike_refl _, h⟩

theorem react_sameNumbers (s t : State) (c : Callback) (h : SameNumbers s t) :
    (react p tunPersist s c).1 = (react p tunPersist t c).1 ∧
      SameNumbers (react p tunPersist s c).2 (react p tunPersist t c).2 := by
  cases c with
  | setter c =>
      simp only [react, h.adapter.symm]
      cases client p s.adapter c with
      | error => exact ⟨rfl, h⟩
      | ok r => exact ⟨rfl, rfl, h.kernel, h.packetFlowSocket, h.openVPNSocket⟩
  | tunBuilderEstablish delegate calls => exact establish_sameNumbers delegate calls h
  | tunBuilderNew | tunBuilderTeardown => exact ⟨rfl, reset_sameNumbers h⟩
  | tunBuilderPersist | tunBuilderGetLocalNetworks | tunBuilderEstablishLite => exact ⟨rfl, h⟩

theorem react_resets {c : Callback} (h : c.resets = true) (s : State) : (react p tunPersist s c).2 = reset s := by
  cases c with
  | tunBuilderNew | tunBuilderTeardown => rfl
  | setter | tunBuilderEstablish | tunBuilderPersist | tunBuilderGetLocalNetworks
  | tunBuilderEstablishLite => exact Bool.noConfusion h

theorem final_resets {c : Callback} (h : c.resets = true) (s : State) (cs : List Callback) :
    ∃ u, final (react p tunPersist) s (cs ++ [c]) = reset u := by
  refine ⟨final (react p tunPersist) s cs, ?_⟩
  rw [final_append, final_cons, final_nil, react_resets h]

/-- Whatever happened before a reset, no callback after it can tell, but by the number of a
descriptor; and not even by that when the same descriptors are open. -/
theorem no_leak (s t : State) (cs ds : List Callback) (c d : Callback) (hc : c.resets = true)
    (hd : d.resets = true) (later : List Callback) :
    let s' := final (react p tunPersist) s (cs ++ [c])
    let t' := final (react p tunPersist) t (ds ++ [d])
    List.Forall₂ Response.Alike (responses (react p tunPersist) s' later)
      (responses (react p tunPersist) t' later) ∧
      (final (react p tunPersist) s' later).adapter.sessionName =
        (final (react p tunPersist) t' later).adapter.sessionName ∧
      (numbers s'.kernel = numbers t'.kernel →
        responses (react p tunPersist) s' later = responses (react p tunPersist) t' later) := by
  intro s' t'
  obtain ⟨u, hs : s' = reset u⟩ := final_resets hc s cs
  obtain ⟨v, ht : t' = reset v⟩ := final_resets hd t ds
  have hadapter : SameSettings s' t' := by rw [SameSettings, hs, ht]; rfl
  obtain ⟨hresponses, hlast⟩ := alike react_sameSettings hadapter later
  refine ⟨hresponses, congrArg Adapter.sessionName hlast, fun hkernel => ?_⟩
  have hsame : SameNumbers s' t' := by
    refine ⟨hadapter, hkernel, ?_, ?_⟩
    · rw [hs, ht, (reset_sockets u).1, (reset_sockets v).1]
    · rw [hs, ht, (reset_sockets u).2, (reset_sockets v).2]
  exact indistinguishable react_sameNumbers hsame later

def samplePlatform : Platform := ⟨.ofTable [("255.255.255.0", .v4 0xffffff00)], some, true⟩

def sampleState : State := ⟨⟨.empty, none⟩, init, Library.Descriptors.empty⟩

def sampleSession (name : String) (calls : SocketCalls) : List Callback :=
  [.setter (.setRemoteAddress "192.0.2.1" false), .setter (.addAddress "10.8.0.2" 24 "10.8.0.1" false false),
    .setter (.rerouteGw true false 0), .setter (.setSessionName name), .tunBuilderEstablish .accepted calls]

/-- A session whose sockets are closed shows as much to the next one as no session at all; one that
leaks a socket shows in the number of the next descriptor. -/
theorem secondSession_alike :
    let next := sampleSession "second" ⟨true, true, true, true⟩
    let after (cs : List Callback) := responses (react samplePlatform false)
      (final (react samplePlatform false) sampleState (cs ++ [.tunBuilderTeardown false])) next
    after (sampleSession "first" ⟨true, true, true, true⟩) = after [] ∧
      List.Forall₂ Response.Alike (after (sampleSession "first" ⟨true, true, false, true⟩)) (after []) := by
  intro next after
  constructor
  · exact (no_leak sampleState sampleState (sampleSession "first" ⟨true, true, true, true⟩)
      [] _ _ rfl rfl next).2.2 (by decide)
  · exact (no_leak sampleState sampleState (sampleSession "first" ⟨true, true, false, true⟩) [] _ _ rfl rfl next).1

end OpenVPNAdapter.FreshSession
