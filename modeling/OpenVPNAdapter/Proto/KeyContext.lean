import OpenVPNAdapter.Proto.ControlPacket

namespace OpenVPNAdapter.Proto

open PacketId

inductive Protocol
  | udp
  | tcp
  | tls
deriving DecidableEq, Repr

def Protocol.isTcp (p : Protocol) : Bool := p = .tcp

def Protocol.isReliable (p : Protocol) : Bool := p = .tcp || p = .tls

/-- What a session fixes for its control channel; the byte that counts acks has room for a bundle. -/
structure Config where
  protocol : Protocol
  tlsWrapMode : TLSWrapMode
  tlsTimeout : Time
  reliableWindow : UInt32
  maxAckList : Nat
  psidSelf : ProtoSessionID
  server : Bool
  keyId : Fin 8
  bundles : 0 < maxAckList ∧ maxAckList < 256

/-- `initial_op` of what this end sends. -/
def Config.initialOp (c : Config) : Opcode :=
  if c.keyId ≠ 0 then .controlSoftResetV1
  else if c.server then .controlHardResetServerV2
  else .controlHardResetClientV2

/-- The reliability half of a `KeyContext` with what it uses of its `ProtoContext`. The ciphertext
waits in the SSL object. The last four fields record what was done: the packets that were
numbered, the buffers given to `control_net_send`, the packets passed up the stack, and the
ids that were acknowledged as replays. -/
structure KeyContext where
  config : Config
  psidPeer : Option ProtoSessionID
  taPidSend : PacketIDSend
  taPidRecv : PacketIDReceive .standard
  invalidated : Bool
  sslStarted : Bool
  nextRetransmit : Time
  relRecv : ReliableRecv Packet
  relSend : ReliableSend Packet
  xmitAcks : ReliableAck
  rawWriteQueue : List Packet
  ciphertext : List (List UInt8)
  numbered : List Packet
  sent : List (List UInt8)
  passed : List Packet
  replayed : List UInt32

/-- What came of a received packet: it was placed into `rel_recv`, it was not, or an exception was thrown. -/
inductive Outcome
  | placed
  | refused
  | threw
deriving DecidableEq, Repr

namespace KeyContext

def init (config : Config) : KeyContext where
  config := config
  psidPeer := none
  taPidSend := .init .long
  taPidRecv := .init .standard
  invalidated := false
  sslStarted := false
  nextRetransmit := ⊤
  relRecv := .init config.reliableWindow
  relSend := .init config.reliableWindow
  xmitAcks := ⟨config.maxAckList, []⟩
  rawWriteQueue := []
  ciphertext := []
  numbered := []
  sent := []
  passed := []
  replayed := []

/-- `seconds_since_epoch`, 1024 ticks a second. -/
def secondsSinceEpoch (now : Nat) : Int := (now / 1024 : Nat)

def invalidate (k : KeyContext) : KeyContext := { k with invalidated := true }

/-- An error of the control channel is fatal on TCP only. -/
def ccError (k : KeyContext) : KeyContext := if k.config.protocol.isTcp then k.invalidate else k

/-- `prepend_dest_psid_and_acks`; `none` is `peer_psid_undef`. -/
def prependDestPsidAndAcks (k : KeyContext) (buf : List UInt8) : Option (List UInt8 × ReliableAck) :=
  if k.xmitAcks.data = [] then some (k.xmitAcks.prepend buf)
  else k.psidPeer.map fun psid => k.xmitAcks.prepend (psid.prepend buf)

def genHead (k : KeyContext) (now : Nat) (opcode : Opcode) (buf : List UInt8) :
    Option (List UInt8 × PacketIDSend) :=
  match k.config.tlsWrapMode with
  | .plain => some (genHeadTlsPlain opcode k.config.keyId k.config.psidSelf buf, k.taPidSend)
  | .auth hmacSend _ =>
      (k.taPidSend.next (secondsSinceEpoch now)).1.bind fun pid =>
        (genHeadTlsAuth hmacSend opcode k.config.keyId k.config.psidSelf pid buf).map
          (·, (k.taPidSend.next (secondsSinceEpoch now)).2)

/-- The tail that `encapsulate` and `generate_ack` share. -/
def wrap (k : KeyContext) (now : Nat) (opcode : Opcode) (buf : List UInt8) : Option (List UInt8 × KeyContext) :=
  (k.prependDestPsidAndAcks buf).bind fun (buf, xmitAcks) =>
    (k.genHead now opcode buf).map fun (buf, taPidSend) =>
      (buf, { k with xmitAcks := xmitAcks, taPidSend := taPidSend })

def encapsulate (k : KeyContext) (now : Nat) (id : UInt32) (p : Packet) : Option (List UInt8 × KeyContext) :=
  k.wrap now p.opcode (ReliableAck.prependId p.buf id)

def generateAck (k : KeyContext) (now : Nat) : Option (List UInt8 × KeyContext) := k.wrap now .ackV1 []

/-- `send_reset`: a raw packet that carries nothing but its opcode. -/
def sendReset (k : KeyContext) : KeyContext :=
  if k.invalidated then k else { k with rawWriteQueue := k.rawWriteQueue ++ [⟨k.config.initialOp, []⟩] }

/-- A packet takes the next id, is encapsulated and sent; an exception invalidates the session. -/
def sendNext (k : KeyContext) (now : Nat) (p : Packet) : KeyContext :=
  let numbered := k.numbered ++ [p]
  match k.encapsulate now k.relSend.next p with
  | none => { k with relSend := k.relSend.send now k.config.tlsTimeout p, numbered := numbered }.invalidate
  | some (buf, k) =>
      { k with
        relSend := k.relSend.send now k.config.tlsTimeout ⟨p.opcode, buf⟩
        numbered := numbered
        sent := k.sent ++ [buf] }

/-- The loops of `down_stack_raw` and of the ciphertext in `down_stack_app`, with what they leave waiting. -/
def drain (now : Nat) : KeyContext → List Packet → KeyContext × List Packet
  | k, [] => (k, [])
  | k, p :: ps => if k.invalidated || !k.relSend.ready then (k, p :: ps) else drain now (k.sendNext now p) ps

def downStackRaw (k : KeyContext) (now : Nat) : KeyContext :=
  { (drain now k k.rawWriteQueue).1 with rawWriteQueue := (drain now k k.rawWriteQueue).2 }

def downStackApp (k : KeyContext) (now : Nat) : KeyContext :=
  if k.sslStarted then
    let ps := k.ciphertext.map (⟨.controlV1, ·⟩)
    { (drain now k ps).1 with ciphertext := (drain now k ps).2.map Packet.buf }
  else k

def updateRetransmit (k : KeyContext) (now : Nat) : KeyContext :=
  { k with nextRetransmit := (now : Time) + k.relSend.untilRetransmit now }

def flush (k : KeyContext) (now : Nat) : KeyContext :=
  if k.invalidated then k
  else
    let k := (k.downStackRaw now).downStackApp now
    if k.invalidated then k else k.updateRetransmit now

/-- One standalone ACK; an exception leaves the loop of `send_pending_acks`. -/
def sendAck (k : KeyContext) (now : Nat) : Option KeyContext :=
  (k.generateAck now).map fun (buf, k) => { k with sent := k.sent ++ [buf] }

/-- The loop of `send_pending_acks`, which every turn makes shorter. -/
def sendAcks (now : Nat) : Nat → KeyContext → KeyContext
  | 0, k => k
  | n + 1, k =>
      if k.xmitAcks.data = [] then k
      else match k.sendAck now with
        | none => k
        | some k => sendAcks now n k

def sendPendingAcks (k : KeyContext) (now : Nat) : KeyContext :=
  if k.invalidated then k else sendAcks now k.xmitAcks.data.length k

/-- `net_send` of a retransmission, on UDP only. -/
def netResend (k : KeyContext) (p : Option Packet) : KeyContext :=
  if k.config.protocol.isReliable then k else { k with sent := k.sent ++ (p.map Packet.buf).toList }

def retransmitAt (k : KeyContext) (now : Nat) (id : UInt32) : KeyContext :=
  let m := k.relSend.window.slot id.toNat
  if m.readyRetransmit now then
    let k := k.netResend m.packet
    let window :=
      k.relSend.window.refById id fun m => { m with retransmitAt := (now : Time) + k.config.tlsTimeout }
    { k with relSend := { k.relSend with window := window.getD k.relSend.window } }
  else k

def retransmit (k : KeyContext) (now : Nat) : KeyContext :=
  if k.invalidated || (now : Time) < k.nextRetransmit then k
  else (k.relSend.window.ids.foldl (fun k id => k.retransmitAt now id) k).updateRetransmit now

/-- The loop of `up_sequenced` over the packets that are in sequence. -/
def upSequenced : Nat → KeyContext → KeyContext
  | 0, k => k
  | n + 1, k =>
      match k.relRecv.nextSequenced with
      | none => k
      | some p =>
          if p.isRaw || k.sslStarted then
            upSequenced n { k with passed := k.passed ++ [p], relRecv := k.relRecv.advance }
          else k

def upStack (k : KeyContext) : KeyContext := upSequenced k.relRecv.window.q.length k

def startHandshake (k : KeyContext) : KeyContext :=
  if k.invalidated then k else { k with sslStarted := true }.upStack

def verifySrcPsid (k : KeyContext) (psid : ProtoSessionID) : Bool × KeyContext :=
  match k.psidPeer with
  | some peer => if peer = psid then (true, k) else (false, k.ccError)
  | none => (true, { k with psidPeer := some psid })

/-- `test_add` on the packet id of a wrapped packet; a plain one has none. -/
def testPid (k : KeyContext) (now : Nat) (pid : Option PacketID) (mod : Bool) : Bool × KeyContext :=
  match pid with
  | none => (true, k)
  | some pid =>
      match k.taPidRecv.doTestAdd pid (secondsSinceEpoch now) mod with
      | none => (false, k)
      | some (error, taPidRecv) => (error = .success, { k with taPidRecv := taPidRecv })

def pushAck (k : KeyContext) (id : UInt32) : KeyContext := { k with xmitAcks := k.xmitAcks.pushBack id }

/-- What follows the acks of a packet. -/
def receiveMessage (k : KeyContext) (now : Nat) (opcode : Opcode) (pid : Option PacketID) (pidOk : Bool)
    (recv : List UInt8) :
    Outcome × KeyContext :=
  if opcode = .ackV1 then (.refused, if pidOk then (k.testPid now pid true).2 else k)
  else
    match ReliableAck.readId recv with
    | none => (.threw, k)
    | some (id, recv) =>
        if pidOk then
          let (flags, relRecv) := k.relRecv.receive ⟨opcode, recv⟩ id
          let k := { k with relRecv := relRecv }
          let k := if flags.ackToSender then k.pushAck id else k
          if flags.inWindow then (.placed, (k.testPid now pid true).2) else (.refused, k)
        else if pid.any fun pid => pid.id ≠ 0 then
          (.refused, { k.pushAck id with replayed := k.replayed ++ [id] })
        else (.refused, k)

/-- `decapsulate_post_process`; the plain form is the same with no packet id to test. -/
def decapsulatePostProcess (k : KeyContext) (now : Nat) (opcode : Opcode) (src : ProtoSessionID)
    (pid : Option PacketID) (recv : List UInt8) : Outcome × KeyContext :=
  let (same, k) := k.verifySrcPsid src
  if same then
    let (pidOk, k) := k.testPid now pid false
    let (acks, relSend) := ReliableAck.ack pidOk k.relSend recv
    let k := { k with relSend := relSend }
    match acks with
    | none => (.threw, k)
    | some (0, recv) => k.receiveMessage now opcode pid pidOk recv
    | some (_, recv) =>
        match ProtoSessionID.read recv with
        | none => (.threw, k)
        | some (dest, recv) =>
            if k.config.psidSelf = dest then k.receiveMessage now opcode pid pidOk recv else (.refused, k.ccError)
  else (.refused, k)

/-- `decapsulate` of a packet whose buffer begins with the op byte. -/
def decapsulate (k : KeyContext) (now : Nat) (p : Packet) : Outcome × KeyContext :=
  match ProtoSessionID.read (p.buf.drop 1) with
  | none => (.threw, k)
  | some (src, recv) =>
      match k.config.tlsWrapMode with
      | .plain => k.decapsulatePostProcess now p.opcode src none recv
      | .auth _ hmacRecv =>
          if recv.length < hmacRecv.size then (.threw, k)
          else if hmacRecv.ovpnHmacCmp p.buf 9 hmacRecv.size packetIdSize then
            match PacketID.read .long (recv.drop hmacRecv.size) with
            | none => (.threw, k)
            | some (pid, recv) => k.decapsulatePostProcess now p.opcode src (some pid) recv
          else (.refused, k.ccError)

def netRecv (k : KeyContext) (now : Nat) (p : Packet) : KeyContext :=
  if k.invalidated then k
  else match k.decapsulate now p with
    | (.placed, k) => k.upStack
    | (_, k) => k

end KeyContext

end OpenVPNAdapter.Proto
