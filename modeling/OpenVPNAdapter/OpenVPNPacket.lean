import OpenVPNAdapter.Library.ByteOrder
import OpenVPNAdapter.Library.Effect

namespace OpenVPNAdapter.OpenVPNPacket

open Library.ByteOrder Library.Effect

abbrev Data : Type := List Byte

/-- `OpenVPNPacket`: the bytes for the packet flow and their protocol. -/
structure Packet where
  packetFlowData : Data
  protocolFamily : Nat
deriving DecidableEq, Repr

def PF_UNSPEC : BitVec 32 := 0
def PF_INET : BitVec 32 := 2
def PF_INET6 : BitVec 32 := 30

/-- Subtraction of `NSUInteger`s, which wraps. -/
def subWrap (m n : Nat) : Nat := if n ≤ m then m - n else m + 2 ^ 64 - n

/-- `getBytes:length:` over a word that is there already: short data leave its last bytes. -/
def getBytes (e : Endian) (data : Data) (old : BitVec 32) : BitVec 32 :=
  load e (data.take 4 ++ (store e old).drop data.length)

def subdataWithRange (data : Data) (location length : Nat) : Except String Data :=
  if location + length ≤ data.length then .ok ((data.drop location).take length) else .error "NSRangeException"

variable (e : Endian)

def initWithVPNData (data : Data) : Except String Packet := do
  let protocol := hostToBig e (getBytes e data PF_UNSPEC)
  let packetData ← subdataWithRange data 4 (subWrap data.length 4)
  return ⟨packetData, protocol.toNat⟩

/-- The family is narrowed to 32 bits. -/
def vpnData (packet : Packet) : Data :=
  store e (hostToBig e (BitVec.ofNat 32 packet.protocolFamily)) ++ packet.packetFlowData

/-- The calls of `writePackets:withProtocols:` that a packet flow has got. -/
abbrev Written : Type := List (List Data × List Nat)

/-- `writePackets:toPacketFlow:` for a packet flow that is there, as its `NSAssert` demands; the bridge
holds the flow weakly. -/
def writePacketsToPacketFlow (packets : List Packet) (written : Written) : Written :=
  written ++ [(packets.map Packet.packetFlowData, packets.map Packet.protocolFamily)]

inductive CallBackType
  | dataCallBack
  | other
deriving DecidableEq, Repr

/-- `SocketCallback`, and what it raises. -/
def socketCallback (type : CallBackType) (data : Data) (written : Written) : Except String Written :=
  if type ≠ .dataCallBack then .ok written
  else do
    let packet ← initWithVPNData e data
    return writePacketsToPacketFlow [packet] written

/-- What the framing promises: both round trips, and a callback that no datagram can bring down. -/
structure TotalCodec (data : Data) (written : Written) : Prop where
  decodes : ∀ packet : Packet, packet.protocolFamily < 2 ^ 32 → initWithVPNData e (vpnData e packet) = .ok packet
  encodes : 4 ≤ data.length → (initWithVPNData e data).map (vpnData e) = .ok data
  total : ∃ later, socketCallback e .dataCallBack data written = .ok later ∧ (data.length < 4 → later = written)

variable {e}

theorem initWithVPNData_cons (b3 b2 b1 b0 : Byte) (payload : Data) :
    initWithVPNData e (b3 :: b2 :: b1 :: b0 :: payload) = .ok ⟨payload, (word b3 b2 b1 b0).toNat⟩ := by
  have hwrap : subWrap (b3 :: b2 :: b1 :: b0 :: payload).length 4 = payload.length :=
    if_pos (Nat.le_add_left 4 payload.length)
  have hsub : subdataWithRange (b3 :: b2 :: b1 :: b0 :: payload) 4 payload.length = .ok payload := by
    rw [subdataWithRange, if_pos (by simp only [List.length_cons]; omega)]
    simp
  have hget : getBytes e (b3 :: b2 :: b1 :: b0 :: payload) PF_UNSPEC = load e [b3, b2, b1, b0] := by
    rw [getBytes, List.drop_eq_nil_of_le (by simp), List.append_nil]
    rfl
  rw [initWithVPNData, hwrap, hsub, hget, hostToBig_load]
  rfl

/-- The unsigned subtraction makes a range that lies outside of any data. -/
theorem initWithVPNData_short {data : Data} (h : data.length < 4) :
    initWithVPNData e data = .error "NSRangeException" := by
  have hsub : subdataWithRange data 4 (subWrap data.length 4) = .error "NSRangeException" := by
    rw [subWrap, if_neg (by omega), subdataWithRange, if_neg (by omega)]
  rw [initWithVPNData, hsub]
  rfl

theorem vpnData_eq (packet : Packet) :
    vpnData e packet = store .big (BitVec.ofNat 32 packet.protocolFamily) ++ packet.packetFlowData := by
  rw [vpnData, store_hostToBig]

theorem initWithVPNData_store (w : BitVec 32) (payload : Data) :
    initWithVPNData e (store .big w ++ payload) = .ok ⟨payload, w.toNat⟩ := by
  have h := initWithVPNData_cons (e := e) (byte w 3) (byte w 2) (byte w 1) (byte w 0) payload
  rw [word_byte] at h
  exact h

theorem decode_encode {packet : Packet} (h : packet.protocolFamily < 2 ^ 32) :
    initWithVPNData e (vpnData e packet) = .ok packet := by
  rw [vpnData_eq, initWithVPNData_store, BitVec.toNat_ofNat, Nat.mod_eq_of_lt h]

theorem encode_decode {data : Data} (h : 4 ≤ data.length) :
    ∃ packet, initWithVPNData e data = .ok packet ∧ vpnData e packet = data := by
  match data, h with
  | b3 :: b2 :: b1 :: b0 :: payload, _ =>
      refine ⟨_, initWithVPNData_cons b3 b2 b1 b0 payload, ?_⟩
      rw [vpnData_eq, BitVec.ofNat_toNat, BitVec.setWidth_eq, store_word]
      rfl

/-- The framing keeps its promise for the datagrams that hold a whole prefix, and for no others. -/
theorem totalCodec_iff (data : Data) (written : Written) : TotalCodec e data written ↔ 4 ≤ data.length := by
  constructor
  · intro h
    obtain ⟨later, hlater, -⟩ := h.total
    refine Nat.le_of_not_lt fun hlen => ?_
    have hshort := initWithVPNData_short (e := e) hlen
    simp only [socketCallback, ne_eq, not_true_eq_false, if_false, hshort] at hlater
    cases hlater
  · intro h
    obtain ⟨packet, hdecode, hencode⟩ := encode_decode (e := e) h
    refine ⟨fun packet hp => decode_encode hp, fun _ => ?_, ?_⟩
    · rw [hdecode, ← hencode]
      rfl
    · refine ⟨writePacketsToPacketFlow [packet] written, ?_, fun hshort => absurd h (Nat.not_le.mpr hshort)⟩
      simp only [socketCallback, ne_eq, not_true_eq_false, if_false, hdecode]
      rfl

theorem emptyDatagram_raises : ¬ TotalCodec .little [] [] := by
  intro h
  obtain ⟨later, hlater, -⟩ := h.total
  cases hlater

end OpenVPNAdapter.OpenVPNPacket
