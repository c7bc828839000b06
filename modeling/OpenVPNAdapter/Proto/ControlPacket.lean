import OpenVPNAdapter.Proto.PacketId
import OpenVPNAdapter.Proto.Reliable

namespace OpenVPNAdapter.Proto

open PacketId

inductive Opcode
  | controlSoftResetV1
  | controlV1
  | ackV1
  | dataV1
  | controlHardResetClientV2
  | controlHardResetServerV2
  | dataV2
  | controlHardResetClientV3
deriving DecidableEq, Repr

def Opcode.code : Opcode → UInt8
  | .controlSoftResetV1 => 3
  | .controlV1 => 4
  | .ackV1 => 5
  | .dataV1 => 6
  | .controlHardResetClientV2 => 7
  | .controlHardResetServerV2 => 8
  | .dataV2 => 9
  | .controlHardResetClientV3 => 10

def Opcode.ofCode : UInt8 → Option Opcode
  | 3 => some .controlSoftResetV1
  | 4 => some .controlV1
  | 5 => some .ackV1
  | 6 => some .dataV1
  | 7 => some .controlHardResetClientV2
  | 8 => some .controlHardResetServerV2
  | 9 => some .dataV2
  | 10 => some .controlHardResetClientV3
  | _ => none

def opCompose (opcode : Opcode) (keyId : Fin 8) : UInt8 := (opcode.code <<< 3) ||| UInt8.ofNat keyId

def opcodeExtract (op : UInt8) : Option Opcode := Opcode.ofCode (op >>> 3)

def keyIdExtract (op : UInt8) : UInt8 := op &&& 7

theorem extract_opCompose (opcode : Opcode) (keyId : Fin 8) :
    opcodeExtract (opCompose opcode keyId) = some opcode ∧ keyIdExtract (opCompose opcode keyId) =
      UInt8.ofNat keyId := by
  cases opcode <;> decide +revert

/-- The control opcodes that `PacketType` admits, by the role of the one who receives them. -/
def Opcode.admitted (server : Bool) : Opcode → Bool
  | .controlSoftResetV1 | .controlV1 | .ackV1 => true
  | .controlHardResetClientV2 | .controlHardResetClientV3 => server
  | .controlHardResetServerV2 => !server
  | .dataV1 | .dataV2 => false

/-- `Packet`: a buffer and the opcode that it came, or is to go, under. -/
structure Packet where
  opcode : Opcode
  buf : List UInt8
deriving DecidableEq, Repr

def Packet.isRaw (p : Packet) : Bool := p.opcode ≠ .controlV1

/-- A `ProtoSessionID` that is defined. -/
structure ProtoSessionID where
  id : List UInt8
  size : id.length = 8
deriving DecidableEq, Repr

namespace ProtoSessionID

def prepend (psid : ProtoSessionID) (buf : List UInt8) : List UInt8 := psid.id ++ buf

/-- `none` is the buffer's exception. -/
def read (buf : List UInt8) : Option (ProtoSessionID × List UInt8) :=
  if h : 8 ≤ buf.length then some (⟨buf.take 8, by rw [List.length_take]; omega⟩, buf.drop 8) else none

theorem read_prepend (psid : ProtoSessionID) (buf : List UInt8) : read (psid.prepend buf) = some (psid, buf) := by
  have hlength : 8 ≤ (psid.prepend buf).length := by
    rw [prepend, List.length_append, psid.size]
    omega
  rw [read, dif_pos hlength]
  simp only [prepend, List.take_left' psid.size, List.drop_left' psid.size]

end ProtoSessionID

/-- The keyed digest of an `OvpnHMAC` context. -/
structure HMACContext where
  digest : List UInt8 → List UInt8
  size : Nat
  length_digest : ∀ bs, (digest bs).length = size

namespace HMACContext

variable (ctx : HMACContext)

/-- `ovpn_hmac_pre`: the packet id, then what stands before the HMAC, then what follows the packet id. -/
def ovpnHmacPre (data : List UInt8) (l1 l2 l3 : Nat) : Option (List UInt8) :=
  if l1 + l2 + l3 > data.length ∨ l2 ≠ ctx.size then none
  else some (ctx.digest ((data.drop (l1 + l2)).take l3 ++ data.take l1 ++ data.drop (l1 + l2 + l3)))

/-- `none` is `ovpn_hmac_context_bad_sizing`. -/
def ovpnHmacGen (data : List UInt8) (l1 l2 l3 : Nat) : Option (List UInt8) :=
  (ctx.ovpnHmacPre data l1 l2 l3).map fun hmac => data.take l1 ++ hmac ++ data.drop (l1 + l2)

def ovpnHmacCmp (data : List UInt8) (l1 l2 l3 : Nat) : Bool :=
  match ctx.ovpnHmacPre data l1 l2 l3 with
  | some hmac => (data.drop l1).take l2 == hmac
  | none => false

/-- The digest does not depend on the bytes it is written over, so what is generated verifies. -/
theorem ovpnHmac_generated (head space pid rest : List UInt8) (h : space.length = ctx.size) :
    ∃ hmac, hmac.length = ctx.size ∧
      ctx.ovpnHmacGen (head ++ (space ++ (pid ++ rest))) head.length ctx.size pid.length =
        some (head ++ (hmac ++ (pid ++ rest))) ∧
      ctx.ovpnHmacCmp (head ++ (hmac ++ (pid ++ rest))) head.length ctx.size pid.length = true := by
  have hpre (mid : List UInt8) (hm : mid.length = ctx.size) :
      ctx.ovpnHmacPre (head ++ (mid ++ (pid ++ rest))) head.length ctx.size pid.length =
        some (ctx.digest (pid ++ head ++ rest)) := by
    have hfit :
        ¬(head.length + ctx.size + pid.length > (head ++ (mid ++ (pid ++ rest))).length ∨
          ctx.size ≠ ctx.size) := by
      simp only [List.length_append, hm]
      omega
    have hdrop : (head ++ (mid ++ (pid ++ rest))).drop (head.length + ctx.size) = pid ++ rest := by
      rw [← List.drop_drop, List.drop_left, List.drop_left' hm]
    have htail : (head ++ (mid ++ (pid ++ rest))).drop (head.length + ctx.size + pid.length) = rest := by
      rw [← List.drop_drop, hdrop, List.drop_left]
    rw [ovpnHmacPre, if_neg hfit, hdrop, htail, List.take_left, List.take_left]
  refine ⟨ctx.digest (pid ++ head ++ rest), ctx.length_digest _, ?_, ?_⟩
  · rw [ovpnHmacGen, hpre space h, Option.map_some, List.take_left, ← List.drop_drop, List.drop_left,
      List.drop_left' h, List.append_assoc]
  · rw [ovpnHmacCmp, hpre _ (ctx.length_digest _), List.drop_left, List.take_left' (ctx.length_digest _)]
    exact beq_self_eq_true _

end HMACContext

/-- The ways of wrapping the control channel that are modelled, with the keys of both directions. -/
inductive TLSWrapMode
  | plain
  | auth (hmacSend hmacRecv : HMACContext)

/-- The mode of the other end. -/
def TLSWrapMode.peer : TLSWrapMode → TLSWrapMode
  | .plain => .plain
  | .auth hmacSend hmacRecv => .auth hmacRecv hmacSend

/-- `PacketID::size` of the long form. -/
def packetIdSize : Nat := 8

/-- `gen_head_tls_auth` behind its packet id. -/
def genHeadTlsAuth (ctx : HMACContext) (opcode : Opcode) (keyId : Fin 8) (psidSelf : ProtoSessionID)
    (pid : PacketID) (buf : List UInt8) : Option (List UInt8) :=
  let buf := List.replicate ctx.size 0 ++ (pid.write .long ++ buf)
  ctx.ovpnHmacGen (opCompose opcode keyId :: psidSelf.prepend buf) 9 ctx.size packetIdSize

def genHeadTlsPlain (opcode : Opcode) (keyId : Fin 8) (psidSelf : ProtoSessionID) (buf : List UInt8) :
    List UInt8 :=
  opCompose opcode keyId :: psidSelf.prepend buf

end OpenVPNAdapter.Proto
