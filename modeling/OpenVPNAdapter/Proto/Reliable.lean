import Mathlib.Algebra.Group.WithOne.Defs
import Mathlib.Algebra.Order.Monoid.Unbundled.WithTop
import Mathlib.Order.WithBot
import OpenVPNAdapter.Library.BigEndian
import OpenVPNAdapter.Proto.MessageWindow

namespace OpenVPNAdapter.Proto

open Library.BigEndian

/-- `Time` and `Time::Duration`, in ticks; `⊤` is `infinite()`. -/
abbrev Time := WithTop Nat

/-- `operator-` of two times, for the case that the first is the later one. -/
def Time.until (t : Time) (now : Nat) : Time := t.map (· - now)

/-- `ReliableRecvTemplate::Message`. -/
structure RecvMessage (P : Type) where
  id : UInt32
  packet : Option P
  erased : Bool
deriving DecidableEq, Repr

/-- `ReliableSendTemplate::Message`. -/
structure SendMessage (P : Type) where
  id : UInt32
  packet : Option P
  erased : Bool
  retransmitAt : Time
deriving DecidableEq

variable {P : Type}

instance : Slot (RecvMessage P) where
  fresh := ⟨0, none, false⟩
  defined m := m.packet.isSome
  erased m := m.erased
  erase _ := ⟨0, none, true⟩
  not_defined_fresh := rfl
  not_erased_fresh := rfl
  erased_erase _ := rfl

instance : Slot (SendMessage P) where
  fresh := ⟨0, none, false, (0 : Nat)⟩
  defined m := m.packet.isSome
  erased m := m.erased
  erase m := ⟨0, none, true, m.retransmitAt⟩
  not_defined_fresh := rfl
  not_erased_fresh := rfl
  erased_erase _ := rfl

def SendMessage.readyRetransmit (m : SendMessage P) (now : Nat) : Bool :=
  m.packet.isSome && decide (m.retransmitAt ≤ (now : Time))

def SendMessage.untilRetransmit (m : SendMessage P) (now : Nat) : Time :=
  if (now : Time) < m.retransmitAt then m.retransmitAt.until now else (0 : Nat)

structure ReliableSend (P : Type) where
  next : UInt32
  window : MessageWindow (SendMessage P)

namespace ReliableSend

def init (span : UInt32) : ReliableSend P := ⟨0, .init 0 span⟩

def ready (r : ReliableSend P) : Bool := r.window.inWindow r.next

/-- `send`: the next message, which its caller fills with `packet`. -/
def send (r : ReliableSend P) (now : Nat) (tlsTimeout : Time) (packet : P) : ReliableSend P :=
  { next := r.next + 1
    window := (r.window.refById r.next fun m =>
      { m with id := r.next, packet := some packet, retransmitAt := (now : Time) + tlsTimeout }).getD r.window }

def ack (r : ReliableSend P) (id : UInt32) : ReliableSend P := { r with window := r.window.rmById id }

/-- The messages of the window that hold a packet, in the order of their ids. -/
def pending (r : ReliableSend P) : List (SendMessage P) :=
  (r.window.ids.map fun id => r.window.slot id.toNat).filter fun m => m.packet.isSome

def untilRetransmit (r : ReliableSend P) (now : Nat) : Time :=
  r.pending.foldl (fun ret m => if m.untilRetransmit now < ret then m.untilRetransmit now else ret) ⊤

end ReliableSend

structure ReliableRecv (P : Type) where
  window : MessageWindow (RecvMessage P)

namespace ReliableRecv

def init (span : UInt32) : ReliableRecv P := ⟨.init 0 span⟩

/-- The flags of `receive`. -/
structure Flags where
  ackToSender : Bool
  inWindow : Bool
deriving DecidableEq, Repr

def receive (r : ReliableRecv P) (packet : P) (id : UInt32) : Flags × ReliableRecv P :=
  match r.window.refById id fun m => { m with id := id, packet := some packet } with
  | some window => (⟨true, true⟩, ⟨window⟩)
  | none => (⟨r.window.preWindow id, false⟩, r)

def ready (r : ReliableRecv P) : Bool := r.window.headDefined

/-- The packet of `next_sequenced`. -/
def nextSequenced (r : ReliableRecv P) : Option P := (r.window.slot r.window.headId.toNat).packet

def advance (r : ReliableRecv P) : ReliableRecv P := ⟨r.window.rmHeadNocheck⟩

end ReliableRecv

/-- `ReliableAck`; a maximum of 0 stands for no maximum. -/
structure ReliableAck where
  maxAckList : Nat
  data : List UInt32
deriving DecidableEq, Repr

namespace ReliableAck

def pushBack (a : ReliableAck) (id : UInt32) : ReliableAck := { a with data := a.data ++ [id] }

def prependId (buf : List UInt8) (id : UInt32) : List UInt8 := digits 4 id.toNat ++ buf

/-- `none` is the buffer's exception. -/
def readId (buf : List UInt8) : Option (UInt32 × List UInt8) :=
  if buf.length < 4 then none else some (UInt32.ofNat (value (buf.take 4)), buf.drop 4)

/-- How many ids the next message carries. -/
def bundled (a : ReliableAck) : Nat := if a.maxAckList = 0 then a.data.length else min a.data.length a.maxAckList

def prepend (a : ReliableAck) (buf : List UInt8) : List UInt8 × ReliableAck :=
  (UInt8.ofNat a.bundled :: (a.data.take a.bundled).foldr (fun id buf => prependId buf id) buf,
    { a with data := a.data.drop a.bundled })

/-- The loop of `ack`: an exception leaves the ids read before it acknowledged. -/
def ackIds (live : Bool) : Nat → ReliableSend P → List UInt8 → Option (List UInt8) × ReliableSend P
  | 0, relSend, buf => (some buf, relSend)
  | len + 1, relSend, buf =>
      match readId buf with
      | none => (none, relSend)
      | some (id, buf) => ackIds live len (if live then relSend.ack id else relSend) buf

/-- The number of ids that `ack` read, with the rest of the buffer; the ids of a packet that is
not live are only read. -/
def ack (live : Bool) (relSend : ReliableSend P) : List UInt8 → Option (Nat × List UInt8) × ReliableSend P
  | [] => (none, relSend)
  | len :: buf => ((ackIds live len.toNat relSend buf).1.map (len.toNat, ·), (ackIds live len.toNat relSend buf).2)

theorem readId_prependId (id : UInt32) (buf : List UInt8) : readId (prependId buf id) = some (id, buf) := by
  have hlength : (digits 4 id.toNat).length = 4 := length_digits 4 _
  rw [readId, prependId, if_neg (by rw [List.length_append, hlength]; omega), List.take_left' hlength,
    List.drop_left' hlength, value_digits id.toNat_lt, UInt32.ofNat_toNat]

/-- The ids written are the ids read. -/
theorem ackIds_prepended (live : Bool) (ids : List UInt32) (relSend : ReliableSend P) (buf : List UInt8) :
    ackIds live ids.length relSend (ids.foldr (fun id buf => prependId buf id) buf) =
      (some buf, if live then ids.foldl ReliableSend.ack relSend else relSend) := by
  induction ids generalizing relSend with
  | nil => cases live <;> rfl
  | cons id ids ih =>
      rw [List.length_cons, List.foldr_cons, ackIds, readId_prependId]
      cases live with
      | true => exact ih (relSend.ack id)
      | false => exact ih relSend

/-- Up to 255 ids fit the byte that counts them. -/
theorem ack_counted (live : Bool) {ids : List UInt32} (h : ids.length < 256) (relSend : ReliableSend P)
    (buf : List UInt8) :
    ack live relSend (UInt8.ofNat ids.length :: ids.foldr (fun id buf => prependId buf id) buf) =
      (some (ids.length, buf), if live then ids.foldl ReliableSend.ack relSend else relSend) := by
  have hbyte : (UInt8.ofNat ids.length).toNat = ids.length := by
    rw [UInt8.toNat_ofNat', Nat.mod_eq_of_lt h]
  simp only [ack, hbyte, ackIds_prepended live ids relSend buf, Option.map_some]

end ReliableAck

end OpenVPNAdapter.Proto
