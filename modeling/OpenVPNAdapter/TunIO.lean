import OpenVPNAdapter.OpenVPNPacket

namespace OpenVPNAdapter

open Library.ByteOrder OpenVPNPacket

namespace TunIO

/-- A `Buffer`: the room in front of the data, and the data. -/
structure Buffer where
  offset : Nat
  data : Data
deriving DecidableEq, Repr

inductive Error
  | TUN_FRAMING_ERROR
  | TUN_WRITE_ERROR
  | TUN_READ_ERROR
deriving DecidableEq, Repr

/-- The counters of `SessionStats` that belong to the tun interface. -/
structure SessionStats where
  bytesIn : Nat
  packetsIn : Nat
  bytesOut : Nat
  packetsOut : Nat
deriving DecidableEq, Repr

end TunIO

open TunIO

/-- `TunIO` with what it told its read handler: `read` are the payloads given to
`tun_read_handler` and `errors` what `tun_error_handler` got. -/
structure TunIO where
  tunPrefix : Bool
  halt : Bool
  frameCapacity : Nat
  queuedReads : Nat
  stats : SessionStats
  read : List Data
  errors : List Error
deriving DecidableEq, Repr

namespace TunIO

/-- How a write to the stream comes out. -/
inductive Wrote
  | bytes (wrote : Nat)
  | systemError
deriving DecidableEq, Repr

/-- `IPCommon::version`. -/
def version (versionLenPrio : Byte) : Byte := (versionLenPrio >>> 4) &&& 0x0F

def tunError (errtype : Error) (t : TunIO) : TunIO := { t with errors := t.errors ++ [errtype] }

variable (e : Endian)

def prependPfInet (buf : Buffer) (value : BitVec 32) : Buffer :=
  ⟨buf.offset - 4, store e (hostToBig e value) ++ buf.data⟩

/-- The packet with its prefix, where there is room for one and the version is known. -/
def framed (buf : Buffer) : Option Buffer :=
  match buf.data with
  | [] => none
  | b :: _ =>
      if 4 ≤ buf.offset then
        if version b = 4 then some (prependPfInet e buf PF_INET)
        else if version b = 6 then some (prependPfInet e buf PF_INET6)
        else none
      else none

/-- `TunIO::write`; the second component is what goes into the stream. -/
def write (buf : Buffer) (outcome : Wrote) (t : TunIO) : Bool × Option Data × TunIO :=
  if t.halt then (false, none, t)
  else
    match if t.tunPrefix then framed e buf else some buf with
    | none => (false, none, tunError .TUN_FRAMING_ERROR t)
    | some buf =>
        match outcome with
        | .systemError => (false, none, tunError .TUN_WRITE_ERROR t)
        | .bytes wrote =>
            let t := { t with stats := { t.stats with
              bytesOut := t.stats.bytesOut + wrote, packetsOut := t.stats.packetsOut + 1 } }
            if wrote = buf.data.length then (true, some buf.data, t)
            else (false, some (buf.data.take wrote), tunError .TUN_WRITE_ERROR t)

def queueRead (t : TunIO) : TunIO := { t with queuedReads := t.queuedReads + 1 }

/-- What a read that was queued receives: a datagram, of which as much as the buffer holds, or
an error. -/
def received (t : TunIO) (datagram : Option Data) : Option Data := datagram.map (·.take t.frameCapacity)

/-- `TunIO::handle_read` of one of the queued reads. -/
def handleRead (datagram : Option Data) (t : TunIO) : TunIO :=
  let t := { t with queuedReads := t.queuedReads - 1 }
  if t.halt then t
  else
    match received t datagram with
    | none => queueRead (tunError .TUN_READ_ERROR t)
    | some buf =>
        let t := { t with stats := { t.stats with
          bytesIn := t.stats.bytesIn + buf.length, packetsIn := t.stats.packetsIn + 1 } }
        if !t.tunPrefix then queueRead { t with read := t.read ++ [buf] }
        else if 4 ≤ buf.length then queueRead { t with read := t.read ++ [buf.drop 4] }
        else queueRead (tunError .TUN_READ_ERROR t)

/-- The address family of an IP packet, by its version. -/
def family (packet : Data) : BitVec 32 := if (packet.head?.map version) = some 4 then PF_INET else PF_INET6

/-- A packet that `framed` takes. -/
def IsIP (packet : Data) : Prop := ∃ b, packet.head? = some b ∧ (version b = 4 ∨ version b = 6)

instance (packet : Data) : Decidable (IsIP packet) :=
  match h : packet.head? with
  | none => .isFalse fun ⟨b, hb, _⟩ => by rw [h] at hb; cases hb
  | some b => decidable_of_iff (version b = 4 ∨ version b = 6)
      ⟨fun hv => ⟨b, h, hv⟩, fun ⟨c, hc, hv⟩ => by rw [h] at hc; cases hc; exact hv⟩

variable {e}

theorem framed_eq {buf : Buffer} (hroom : 4 ≤ buf.offset) (h : IsIP buf.data) :
    framed e buf = some ⟨buf.offset - 4, vpnData e ⟨buf.data, (family buf.data).toNat⟩⟩ := by
  obtain ⟨b, hb, hv⟩ := h
  have hframe (value : BitVec 32) : prependPfInet e buf value =
      ⟨buf.offset - 4, vpnData e ⟨buf.data, value.toNat⟩⟩ := by
    rw [prependPfInet, vpnData, BitVec.ofNat_toNat, BitVec.setWidth_eq]
  obtain ⟨offset, data⟩ := buf
  cases data with
  | nil => cases hb
  | cons c cs =>
      obtain rfl : c = b := Option.some.inj hb
      rcases hv with hv | hv
      · simp [framed, hroom, hv, hframe, family]
      · simp [framed, hroom, hv, hframe, family]

theorem vpnData_length (packet : Packet) : (vpnData e packet).length = 4 + packet.packetFlowData.length := by
  rw [vpnData, List.length_append, store_length]

theorem vpnData_drop (packet : Packet) : (vpnData e packet).drop 4 = packet.packetFlowData := by
  rw [vpnData, List.drop_append, store_length, List.drop_eq_nil_of_le (by simp)]
  rfl

theorem write_framed {t : TunIO} (hlive : t.halt = false) (hmarked : t.tunPrefix = true) {buf : Buffer}
    (hroom : 4 ≤ buf.offset) (h : IsIP buf.data) :
    write e buf (.bytes (4 + buf.data.length)) t =
      (true, some (vpnData e ⟨buf.data, (family buf.data).toNat⟩), { t with stats := { t.stats with
        bytesOut := t.stats.bytesOut + (4 + buf.data.length), packetsOut := t.stats.packetsOut + 1 } }) := by
  simp only [write, hlive, hmarked, framed_eq hroom h, if_true, Bool.false_eq_true, if_false, vpnData_length]

theorem handleRead_framed {t : TunIO} (hlive : t.halt = false) (hmarked : t.tunPrefix = true)
    (packet : Packet) (hfits : 4 + packet.packetFlowData.length ≤ t.frameCapacity) :
    (handleRead (some (vpnData e packet)) t).read = t.read ++ [packet.packetFlowData] ∧
      (handleRead (some (vpnData e packet)) t).errors = t.errors ∧
      (handleRead (some (vpnData e packet)) t).halt = false ∧
      (handleRead (some (vpnData e packet)) t).tunPrefix = true ∧
      (handleRead (some (vpnData e packet)) t).frameCapacity = t.frameCapacity ∧
      (handleRead (some (vpnData e packet)) t).queuedReads = t.queuedReads - 1 + 1 := by
  have hwhole : (vpnData e packet).take t.frameCapacity = vpnData e packet := by
    rw [List.take_of_length_le (by rw [vpnData_length]; exact hfits)]
  have hlong : 4 ≤ (vpnData e packet).length := by
    rw [vpnData_length]
    omega
  simp [handleRead, received, hlive, hmarked, hwhole, hlong, vpnData_drop, queueRead]

end TunIO

end OpenVPNAdapter
