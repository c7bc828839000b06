import OpenVPNAdapter.Library.Descriptors

namespace OpenVPNAdapter.PacketFlowBridge

open Library.Descriptors

/-- The part of `OpenVPNPacketFlowBridge` that lives over several tunnels. A `CFSocketRef`
is the native descriptor it wraps, `none` is `NULL`; `reads` are the
`readPacketsWithCompletionHandler:` requests whose handler has not run yet. -/
structure Bridge where
  packetFlowSocket : Option Handle
  openVPNSocket : Option Handle
  reads : List Nat
  issuedReads : Nat
deriving DecidableEq, Repr

def init : Bridge := ⟨none, none, [], 0⟩

/-- How the system calls made by `configureSocketsWithError:` come out. -/
structure SocketCalls where
  socketpair : Bool
  createPacketFlowSocket : Bool
  createOpenVPNSocket : Bool
  setsockopt : Bool
deriving DecidableEq, Repr

/-- `configureSocketsWithError:`. On a failure after `socketpair` the method returns `NO`
and leaves the sockets that were created in the bridge. -/
def configureSockets (calls : SocketCalls) (t : Table) (b : Bridge) : Bool × Table × Bridge :=
  if calls.socketpair then
    let s0 := next t
    let t := allocate t
    let s1 := next t
    let t := allocate t
    let b := { b with
      packetFlowSocket := if calls.createPacketFlowSocket then some s0 else none
      openVPNSocket := if calls.createOpenVPNSocket then some s1 else none }
    (calls.createPacketFlowSocket && calls.createOpenVPNSocket && calls.setsockopt, t, b)
  else (false, t, b)

def invalidateOpenVPNSocket (t : Table) (b : Bridge) : Table × Bridge :=
  match b.openVPNSocket with
  | none => (t, b)
  | some h => (close t h, { b with openVPNSocket := none })

def invalidatePacketFlowSocket (t : Table) (b : Bridge) : Table × Bridge :=
  match b.packetFlowSocket with
  | none => (t, b)
  | some h => (close t h, { b with packetFlowSocket := none })

/-- `invalidateSocketsIfNeeded`: the core's end first, then the packet flow's. -/
def invalidateSocketsIfNeeded (t : Table) (b : Bridge) : Table × Bridge :=
  let (t, b) := invalidateOpenVPNSocket t b
  invalidatePacketFlowSocket t b

def startReading (b : Bridge) : Bridge :=
  { b with reads := b.reads ++ [b.issuedReads], issuedReads := b.issuedReads + 1 }

/-- The completion handler of a read: after the packets are handed on it calls
`startReading`, whichever tunnel the request was made for. -/
def readCompleted (request : Nat) (b : Bridge) : Bridge :=
  startReading { b with reads := b.reads.erase request }

/-- What `configureTunnelWithNetworkSettings:completionHandler:` comes to within the time limit. -/
inductive TunnelConfiguration
  | accepted
  | error
  | timeout
deriving DecidableEq, Repr

/-- `establishTunnel` without the settings it hands to the delegate. -/
def establishTunnel (delegate : TunnelConfiguration) (calls : SocketCalls) (t : Table) (b : Bridge) :
    Bool × Table × Bridge :=
  match delegate with
  | .timeout => (false, t, b)
  | .error => (false, t, b)
  | .accepted =>
      let (configured, t, b) := configureSockets calls t b
      if configured then (true, t, startReading b) else (false, t, b)

@[simp] theorem startReading_reads (b : Bridge) : (startReading b).reads.length = b.reads.length + 1 := by
  simp [startReading]

theorem readCompleted_reads {request : Nat} {b : Bridge} (h : request ∈ b.reads) :
    (readCompleted request b).reads.length = b.reads.length := by
  have hpos := List.length_pos_of_mem h
  rw [readCompleted, startReading_reads, List.length_erase_of_mem h]
  omega

theorem configureSockets_reads (calls : SocketCalls) (t : Table) (b : Bridge) :
    (configureSockets calls t b).2.2.reads = b.reads := by
  rw [configureSockets]
  split <;> rfl

theorem invalidateSocketsIfNeeded_reads (t : Table) (b : Bridge) :
    (invalidateSocketsIfNeeded t b).2.reads = b.reads := by
  unfold invalidateSocketsIfNeeded invalidateOpenVPNSocket invalidatePacketFlowSocket
  cases b.openVPNSocket <;> cases hp : b.packetFlowSocket <;> simp [hp]

/-- Whether `establishTunnel` returns `YES` is decided by what it calls. -/
def establishes (delegate : TunnelConfiguration) (calls : SocketCalls) : Bool :=
  delegate = .accepted && calls.socketpair && calls.createPacketFlowSocket && calls.createOpenVPNSocket
    && calls.setsockopt

theorem establishTunnel_returns (delegate : TunnelConfiguration) (calls : SocketCalls) (t : Table)
    (b : Bridge) : (establishTunnel delegate calls t b).1 = establishes delegate calls := by
  cases delegate with
  | timeout | error => rfl
  | accepted =>
      rcases calls with ⟨_ | _, _ | _, _ | _, _ | _⟩ <;> rfl

theorem establishTunnel_reads (delegate : TunnelConfiguration) (calls : SocketCalls) (t : Table)
    (b : Bridge) : (establishTunnel delegate calls t b).2.2.reads.length =
      b.reads.length + if establishes delegate calls then 1 else 0 := by
  cases delegate with
  | timeout | error => rfl
  | accepted =>
      have hreads := configureSockets_reads calls t b
      have hreturns := establishTunnel_returns .accepted calls t b
      simp only [establishTunnel] at hreturns ⊢
      split at hreturns
      · rename_i hc
        rw [if_pos hc, ← hreturns, startReading_reads, hreads]; rfl
      · rename_i hc
        rw [if_neg hc, ← hreturns, hreads]; rfl

end OpenVPNAdapter.PacketFlowBridge
