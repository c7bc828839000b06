import OpenVPNAdapter.Library.Runs
import OpenVPNAdapter.Proto.KeyContext

namespace OpenVPNAdapter.Proto.ControlChannel

open PacketId KeyContext MessageWindow

/-- What an end does, other than receiving; the SSL object has ciphertext to send at any time. -/
inductive Call
  | sendReset
  | sslWrites (buf : List UInt8)
  | startHandshake
  | flush
  | sendPendingAcks
  | retransmit
  | invalidate

def call (k : KeyContext) (now : Nat) : Call → KeyContext
  | .sendReset => k.sendReset
  | .sslWrites buf => { k with ciphertext := k.ciphertext ++ [buf] }
  | .startHandshake => k.startHandshake
  | .flush => k.flush now
  | .sendPendingAcks => k.sendPendingAcks now
  | .retransmit => k.retransmit now
  | .invalidate => k.invalidate

/-- The packet that `PacketType` takes a datagram for; others do not reach the key. -/
def packetOf (c : Config) : List UInt8 → Option Packet
  | [] => none
  | op :: buf =>
      if keyIdExtract op = UInt8.ofNat c.keyId then
        ((opcodeExtract op).filter (Opcode.admitted c.server)).map (⟨·, op :: buf⟩)
      else none

/-- Both ends; what either sent stays in the network, which delivers it never, once or often. -/
structure Ends where
  near : KeyContext
  far : KeyContext

inductive Action
  | near (c : Call) (now : Nat)
  | far (c : Call) (now : Nat)
  | toNear (n now : Nat)
  | toFar (n now : Nat)

def deliver (k : KeyContext) (buf : Option (List UInt8)) (now : Nat) : Option KeyContext :=
  (buf.bind (packetOf k.config)).map (k.netRecv now)

def step (e : Ends) : Action → Option Ends
  | .near c now => some { e with near := call e.near now c }
  | .far c now => some { e with far := call e.far now c }
  | .toNear n now => (deliver e.near e.far.sent[n]? now).map fun k => { e with near := k }
  | .toFar n now => (deliver e.far e.near.sent[n]? now).map fun k => { e with far := k }

/-- Two configurations of one key, a client's and a server's, that wrap alike. -/
structure Session where
  near : Config
  far : Config
  wraps : far.tlsWrapMode = near.tlsWrapMode.peer
  roles : far.server = !near.server
  keyId : far.keyId = near.keyId

def Session.start (s : Session) : Ends := ⟨.init s.near, .init s.far⟩

end OpenVPNAdapter.Proto.ControlChannel

namespace OpenVPNAdapter.Proto.KeyContext

open ControlChannel MessageWindow PacketId

/-- The message with this id was received. -/
def Holds (k : KeyContext) (n : Nat) : Prop :=
  n < k.relRecv.window.headId.toNat ∨ (k.relRecv.window.slot n).packet.isSome = true

/-- The peer may be told that its message with this id was received. -/
def Answers (k : KeyContext) (n : Nat) : Prop := k.Holds n ∨ ∃ id ∈ k.replayed, id.toNat = n

/-- What stands behind the head of a packet. -/
def body (acks : List UInt32) (dest : ProtoSessionID) (tail : List UInt8) : List UInt8 :=
  UInt8.ofNat acks.length ::
    acks.foldr (fun id buf => ReliableAck.prependId buf id) (if acks = [] then tail else dest.prepend tail)

/-- The head that a configuration puts before a body, with any packet id. -/
def Headed (c : Config) (opcode : Opcode) (body buf : List UInt8) : Prop :=
  match c.tlsWrapMode with
  | .plain => buf = genHeadTlsPlain opcode c.keyId c.psidSelf body
  | .auth hmacSend _ => ∃ pid, genHeadTlsAuth hmacSend opcode c.keyId c.psidSelf pid body = some buf

/-- The message of a packet that is no mere ACK: its id and what was numbered so. -/
def Tail (numbered : List Packet) (opcode : Opcode) (tail : List UInt8) : Prop :=
  if opcode = .ackV1 then tail = []
  else ∃ (id : UInt32) (p : Packet), tail = ReliableAck.prependId p.buf id ∧ numbered[id.toNat]? = some p ∧
    p.opcode = opcode

/-- The message in a slot of the send window is the datagram of the packet with its id. -/
def Carries (k peer : KeyContext) (n : Nat) (p : Packet) (m : SendMessage Packet) : Prop :=
  m.id.toNat = n ∧ ∃ buf acks, m.packet = some ⟨p.opcode, buf⟩ ∧
    Headed k.config p.opcode (body acks peer.config.psidSelf (ReliableAck.prependId p.buf m.id)) buf

/-- A datagram of one end for the other: it acknowledges only what it may. -/
def Genuine (k peer : KeyContext) (buf : List UInt8) : Prop :=
  ∃ opcode acks tail, acks.length < 256 ∧
    (∀ id ∈ acks, id.toNat < peer.numbered.length ∧ k.Answers id.toNat) ∧
    Tail k.numbered opcode tail ∧ Headed k.config opcode (body acks peer.config.psidSelf tail) buf

/-- What holds of one end, in view of the other, in every run. -/
structure Owes (k peer : KeyContext) : Prop where
  next : k.relSend.next.toNat = k.numbered.length
  head : k.relSend.window.headId.toNat ≤ k.numbered.length
  released : ∀ n < k.relSend.window.headId.toNat, peer.Answers n
  unacked : ∀ n, k.relSend.window.headId.toNat ≤ n → n < k.numbered.length →
    peer.Answers n ∨ (k.relSend.window.slot n).erased = false ∧ (k.relSend.window.slot n).packet.isSome = true
  pending : ∀ n q, k.relSend.window.headId.toNat ≤ n → (k.relSend.window.slot n).packet = some q → q.buf ∈ k.sent ∧
    ∃ p, k.numbered[n]? = some p ∧ Carries k peer n p (k.relSend.window.slot n)
  unsent : ∀ n, k.numbered.length ≤ n →
    (k.relSend.window.slot n).erased = false ∧ (k.relSend.window.slot n).packet = none
  sent : ∀ buf ∈ k.sent, Genuine k peer buf
  passed : k.passed = peer.numbered.take k.relRecv.window.headId.toNat
  passedLe : k.relRecv.window.headId.toNat ≤ peer.numbered.length
  received : ∀ n p, k.relRecv.window.headId.toNat ≤ n → (k.relRecv.window.slot n).packet = some p →
      peer.numbered[n]? = some p
  acks : ∀ id ∈ k.xmitAcks.data, id.toNat < peer.numbered.length ∧ k.Answers id.toNat
  maxAckList : k.xmitAcks.maxAckList = k.config.maxAckList
  psid : k.psidPeer = none ∧ k.xmitAcks.data = [] ∨ k.psidPeer = some peer.config.psidSelf
  pidForm : k.taPidSend.form = .long
  queued : ∀ p ∈ k.rawWriteQueue, p.opcode = k.config.initialOp
  plain : k.config.tlsWrapMode = .plain → k.replayed = []

/-- What one end has numbered and may answer for only grows. -/
structure Grows (k k' : KeyContext) : Prop where
  config : k'.config = k.config
  numbered : k.numbered <+: k'.numbered
  answers : ∀ n, k.Answers n → k'.Answers n

/-- A step of one end that keeps what it owes the other. -/
structure Moves (peer k k' : KeyContext) : Prop where
  grows : Grows k k'
  owes : Owes k' peer
  valid : k'.invalidated = k.invalidated

/-- What waits to be numbered, and what was. -/
def queues (k : KeyContext) : List Packet × List Packet × List (List UInt8) :=
  (k.numbered, k.rawWriteQueue, k.ciphertext)

/-- A step that numbers nothing. -/
structure Quiet (peer k k' : KeyContext) : Prop extends Moves peer k k' where
  queues : queues k' = queues k

variable {k k' k'' peer peer' : KeyContext}

theorem Grows.refl (k : KeyContext) : Grows k k := ⟨rfl, List.prefix_refl _, fun _ h => h⟩

theorem Grows.trans (h : Grows k k') (h' : Grows k' k'') : Grows k k'' :=
  ⟨h'.config.trans h.config, h.numbered.trans h'.numbered, fun n hn => h'.answers n (h.answers n hn)⟩

theorem Grows.getElem? (h : Grows k k') {n : Nat} {p : Packet} (hp : k.numbered[n]? = some p) :
    k'.numbered[n]? = some p := by
  obtain ⟨more, hmore⟩ := h.numbered
  rw [← hmore, List.getElem?_append_left (List.getElem?_eq_some_iff.mp hp).1, hp]

theorem Moves.trans (h : Moves peer k k') (h' : Moves peer k' k'') : Moves peer k k'' :=
  ⟨h.grows.trans h'.grows, h'.owes, h'.valid.trans h.valid⟩

theorem Moves.refl (h : Owes k peer) : Moves peer k k := ⟨.refl k, h, rfl⟩

theorem Quiet.trans (h : Quiet peer k k') (h' : Quiet peer k' k'') : Quiet peer k k'' :=
  ⟨h.toMoves.trans h'.toMoves, h'.queues.trans h.queues⟩

theorem Quiet.refl (h : Owes k peer) : Quiet peer k k := ⟨.refl h, rfl⟩

theorem Tail.grows {opcode : Opcode} {tail : List UInt8} (h : Tail k.numbered opcode tail) (hk : Grows k k') :
    Tail k'.numbered opcode tail := by
  rw [Tail] at h ⊢
  split
  · rename_i hack
    rwa [if_pos hack] at h
  · rename_i hack
    rw [if_neg hack] at h
    obtain ⟨id, p, htail, hp, hop⟩ := h
    exact ⟨id, p, htail, hk.getElem? hp, hop⟩

theorem Genuine.grows {buf : List UInt8} (h : Genuine k peer buf) (hk : Grows k k') (hpeer : Grows peer peer') :
    Genuine k' peer' buf := by
  obtain ⟨opcode, acks, tail, hlength, hacks, htail, hhead⟩ := h
  refine ⟨opcode, acks, tail, hlength, fun id hid => ?_, htail.grows hk, ?_⟩
  · exact ⟨lt_of_lt_of_le (hacks id hid).1 hpeer.numbered.length_le, hk.answers _ (hacks id hid).2⟩
  · rw [hk.config, hpeer.config]
    exact hhead

theorem Carries.grows {n : Nat} {p : Packet} {m m' : SendMessage Packet} (h : Carries k peer n p m)
    (hk : k'.config = k.config)
    (hpeer : peer'.config = peer.config) (hm : m'.id = m.id ∧ m'.packet = m.packet) : Carries k' peer' n p m' := by
  rw [Carries, hm.1, hm.2, hk, hpeer]
  exact h

/-- What is owed to a peer stays owed when the peer moves on. -/
theorem Owes.peer_grows (h : Owes k peer) (hpeer : Grows peer peer') : Owes k peer' where
  next := h.next
  head := h.head
  released n hn := hpeer.answers n (h.released n hn)
  unacked n hn hlt := (h.unacked n hn hlt).imp_left (hpeer.answers n)
  pending n q hn hq := (h.pending n q hn hq).imp_right fun ⟨p, hp, hcarries⟩ =>
    ⟨p, hp, hcarries.grows rfl hpeer.config ⟨rfl, rfl⟩⟩
  unsent := h.unsent
  sent buf hbuf := (h.sent buf hbuf).grows (.refl k) hpeer
  passed := by
    obtain ⟨more, hmore⟩ := hpeer.numbered
    rw [h.passed, ← hmore, List.take_append_of_le_length h.passedLe]
  passedLe := h.passedLe.trans hpeer.numbered.length_le
  received n p hn hp := hpeer.getElem? (h.received n p hn hp)
  acks id hid := ⟨lt_of_lt_of_le (h.acks id hid).1 hpeer.numbered.length_le, (h.acks id hid).2⟩
  maxAckList := h.maxAckList
  psid := by rw [hpeer.config]; exact h.psid
  pidForm := h.pidForm
  queued := h.queued
  plain := h.plain

/-- The fields that what is owed depends on. -/
def core (k : KeyContext) :=
  (k.config, k.psidPeer, k.relRecv, k.relSend, k.xmitAcks, k.numbered, k.sent, k.passed, k.replayed,
    k.taPidSend.form)

theorem Owes.of_core (h : Owes k peer) (hcore : core k' = core k)
    (hqueued : ∀ p ∈ k'.rawWriteQueue, p.opcode = k.config.initialOp)
    (hvalid : k'.invalidated = k.invalidated) : Moves peer k k' := by
  cases k
  cases k'
  simp only [core, Prod.mk.injEq] at hcore
  obtain ⟨rfl, rfl, rfl, rfl, rfl, rfl, rfl, rfl, rfl, hform⟩ := hcore
  exact ⟨⟨rfl, List.prefix_refl _, fun _ h => h⟩,
    ⟨h.next, h.head, h.released, h.unacked, h.pending, h.unsent, h.sent, h.passed,
    h.passedLe, h.received, h.acks, h.maxAckList, h.psid, hform.trans h.pidForm, hqueued, h.plain⟩, hvalid⟩

/-- A fresh end owes nothing. -/
theorem owes_init (c c' : Config) : Owes (.init c) (.init c') where
  next := rfl
  head := le_rfl
  released n hn := absurd hn (Nat.not_lt_zero n)
  unacked n _ hn := absurd hn (Nat.not_lt_zero n)
  pending n p _ hp := by
    have hfresh : (KeyContext.init c).relSend.window.slot n = Slot.fresh := slot_init 0 c.reliableWindow n
    rw [hfresh] at hp
    cases hp
  unsent n _ := by
    constructor <;> exact congrArg _ (slot_init 0 c.reliableWindow n)
  sent buf hbuf := absurd hbuf List.not_mem_nil
  passed := rfl
  passedLe := le_rfl
  received n p _ hp := by
    have hfresh : (KeyContext.init c).relRecv.window.slot n = Slot.fresh := slot_init 0 c.reliableWindow n
    rw [hfresh] at hp
    cases hp
  acks id hid := absurd hid List.not_mem_nil
  maxAckList := rfl
  psid := .inl ⟨rfl, rfl⟩
  pidForm := rfl
  queued p hp := absurd hp List.not_mem_nil
  plain _ := rfl

theorem next_long (pids : PacketIDSend) (now : Int) (h : pids.form = .long) :
    ∃ pid, (pids.next now).1 = some pid ∧ (pids.next now).2.form = .long := by
  simp only [PacketIDSend.next, h]
  split
  · exact ⟨_, rfl, rfl⟩
  · exact ⟨_, rfl, rfl⟩

/-- There is room for the packet id and the HMAC, so a head can be written. -/
theorem genHead_cases (h : k.taPidSend.form = .long) (now : Nat) (opcode : Opcode) (buf : List UInt8) :
    ∃ out pids, k.genHead now opcode buf = some (out, pids) ∧ pids.form = .long ∧
      Headed k.config opcode buf out := by
  simp only [genHead, Headed]
  cases hmode : k.config.tlsWrapMode with
  | plain => exact ⟨_, _, rfl, h, rfl⟩
  | auth hmacSend hmacRecv =>
      obtain ⟨pid, hpid, hform⟩ := next_long k.taPidSend (secondsSinceEpoch now) h
      have hsize : (pid.write .long).length = packetIdSize := by simp [PacketID.write, packetIdSize]
      have hhead : (opCompose opcode k.config.keyId :: k.config.psidSelf.id).length = 9 := by
        rw [List.length_cons, k.config.psidSelf.size]
      obtain ⟨hmac, -, hgen, -⟩ :=
          hmacSend.ovpnHmac_generated (opCompose opcode k.config.keyId :: k.config.psidSelf.id)
        (List.replicate hmacSend.size 0) (pid.write .long) buf List.length_replicate
      rw [hhead, hsize] at hgen
      have hout : genHeadTlsAuth hmacSend opcode k.config.keyId k.config.psidSelf pid buf = some _ := hgen
      exact ⟨_, _, by simp only [hpid, Option.bind_some, hout, Option.map_some], hform, pid, hout⟩

/-- Encapsulating never fails: an ack is pending only where the peer's session id is known. -/
theorem wrap_cases (h : Owes k peer) (now : Nat) (opcode : Opcode) (tail : List UInt8) :
    ∃ buf pids n, k.wrap now opcode tail =
        some (buf, { k with xmitAcks := { k.xmitAcks with data := k.xmitAcks.data.drop n }, taPidSend := pids }) ∧
      pids.form = .long ∧ (k.xmitAcks.data.take n).length < 256 ∧ (k.xmitAcks.data ≠ [] → 0 < n) ∧
      Headed k.config opcode (body (k.xmitAcks.data.take n) peer.config.psidSelf tail) buf := by
  have hmax := k.config.bundles
  have hbundled : k.xmitAcks.bundled = min k.xmitAcks.data.length k.config.maxAckList := by
    rw [ReliableAck.bundled, h.maxAckList, if_neg (by omega)]
  have hlength : (k.xmitAcks.data.take k.xmitAcks.bundled).length = k.xmitAcks.bundled := by
    rw [List.length_take]
    omega
  have hpre :
      k.prependDestPsidAndAcks tail =
        some (body (k.xmitAcks.data.take k.xmitAcks.bundled) peer.config.psidSelf tail,
      { k.xmitAcks with data := k.xmitAcks.data.drop k.xmitAcks.bundled }) := by
    rw [prependDestPsidAndAcks, body, hlength]
    split
    · rename_i hnone
      simp [ReliableAck.prepend, hnone]
    · rename_i hsome
      have hpos : 0 < k.xmitAcks.data.length := List.length_pos_iff.mpr hsome
      have hacks : k.xmitAcks.data.take k.xmitAcks.bundled ≠ [] := by
        rw [← List.length_pos_iff, hlength]
        omega
      have hpsid : k.psidPeer = some peer.config.psidSelf := h.psid.resolve_left fun hn => hsome hn.2
      rw [hpsid, Option.map_some, if_neg hacks, ReliableAck.prepend]
  obtain ⟨buf, pids, hgen, hform, hhead⟩ := genHead_cases h.pidForm now opcode
    (body (k.xmitAcks.data.take k.xmitAcks.bundled) peer.config.psidSelf tail)
  refine ⟨buf, pids, k.xmitAcks.bundled, ?_, hform, by rw [hlength]; omega, fun hsome => ?_, hhead⟩
  · simp only [wrap, hpre, Option.bind_some, hgen, Option.map_some]
  · have hpos : 0 < k.xmitAcks.data.length := List.length_pos_iff.mpr hsome
    omega

/-- A packet takes the id that follows those of the packets before it. -/
theorem sendNext_moves (h : Owes k peer) (now : Nat) {p : Packet} (hop : p.opcode ≠ .ackV1)
    (hready : k.relSend.ready = true) : Moves peer k (k.sendNext now p) := by
  obtain ⟨buf, pids, n, hwrap, hform, hlength, -, hhead⟩ :=
    wrap_cases h now p.opcode (ReliableAck.prependId p.buf k.relSend.next)
  obtain ⟨window, hwindow⟩ := Option.isSome_iff_exists.mp ((refById_isSome k.relSend.window k.relSend.next fun m =>
    { m with
      id := k.relSend.next
      packet := some ⟨p.opcode, buf⟩
      retransmitAt := now + k.config.tlsTimeout }).trans hready)
  obtain ⟨hin, hheadId, -, hslot⟩ := refById_cases hwindow
  have hnext := (inWindow_iff.mp hin).2
  have htail := k.relSend.window.tailId.toNat_lt
  have hone : (1 : UInt32).toNat = 1 := rfl
  have hsucc : (k.relSend.next + 1).toNat = k.numbered.length + 1 := by
    rw [UInt32.toNat_add, hone, Nat.mod_eq_of_lt (by omega), h.next]
  have hstep : k.sendNext now p = { k with
      xmitAcks := { k.xmitAcks with data := k.xmitAcks.data.drop n }, taPidSend := pids,
      relSend := ⟨k.relSend.next + 1, window⟩, numbered := k.numbered ++ [p], sent := k.sent ++ [buf] } := by
    simp only [sendNext, encapsulate, hwrap, ReliableSend.send, hwindow, Option.getD_some]
  rw [hstep]
  have hgrows : Grows k { k with
      xmitAcks := { k.xmitAcks with data := k.xmitAcks.data.drop n }, taPidSend := pids,
      relSend := ⟨k.relSend.next + 1, window⟩, numbered := k.numbered ++ [p], sent := k.sent ++ [buf] } :=
    ⟨rfl, List.prefix_append _ _, fun _ hn => hn⟩
  refine ⟨hgrows, ?_, rfl⟩
  exact {
    next := by rw [hsucc, List.length_append, List.length_singleton]
    head := by
      show window.headId.toNat ≤ (k.numbered ++ [p]).length
      have := h.head
      rw [hheadId, List.length_append]
      omega
    released := fun m hm => h.released m (by rw [← hheadId]; exact hm)
    unacked := fun m hm hlt => by
      have hm' : k.relSend.window.headId.toNat ≤ m := hheadId ▸ hm
      show _ ∨ (window.slot m).erased = false ∧ (window.slot m).packet.isSome = true
      rw [hslot m hm', h.next]
      by_cases hlast : m = k.numbered.length
      · rw [if_pos hlast]
        exact .inr ⟨(h.unsent m hlast.ge).1, rfl⟩
      · rw [if_neg hlast]
        have hlt' : m < k.numbered.length := by
          rw [List.length_append, List.length_singleton] at hlt
          omega
        exact h.unacked m hm' hlt'
    pending := fun m q hm hq => by
      have hm' : k.relSend.window.headId.toNat ≤ m := hheadId ▸ hm
      have hq' : (window.slot m).packet = some q := hq
      rw [hslot m hm', h.next] at hq'
      show q.buf ∈ k.sent ++ [buf] ∧ ∃ p', (k.numbered ++ [p])[m]? = some p' ∧ Carries k peer m p' (window.slot m)
      rw [hslot m hm', h.next]
      split at hq'
      · rename_i hlast
        obtain rfl := Option.some.inj hq'
        refine ⟨List.mem_append_right _ List.mem_cons_self, p, ?_, ?_⟩
        · rw [hlast]
          exact List.getElem?_concat_length
        · rw [if_pos hlast]
          exact ⟨h.next.trans hlast.symm, buf, k.xmitAcks.data.take n, rfl, hhead⟩
      · rename_i hlast
        obtain ⟨hsent, p', hp', hcarries⟩ := h.pending m q hm' hq'
        refine ⟨List.mem_append_left _ hsent, p', ?_, ?_⟩
        · rw [List.getElem?_append_left (List.getElem?_eq_some_iff.mp hp').1, hp']
        · rw [if_neg hlast]
          exact hcarries
    unsent := fun m hm => by
      rw [List.length_append, List.length_singleton] at hm
      have hhead := h.head
      show (window.slot m).erased = false ∧ (window.slot m).packet = none
      rw [hslot m (by omega), h.next, if_neg (by omega)]
      exact h.unsent m (by omega)
    sent := fun b hb => by
      rcases List.mem_append.mp hb with hb | hb
      · exact (h.sent b hb).grows hgrows (.refl peer)
      · obtain rfl := List.mem_singleton.mp hb
        refine ⟨p.opcode, k.xmitAcks.data.take n, _, hlength,
            fun id hid => h.acks id (List.mem_of_mem_take hid), ?_, hhead⟩
        rw [Tail, if_neg hop]
        exact ⟨k.relSend.next, p, rfl, by rw [h.next]; exact List.getElem?_concat_length, rfl⟩
    passed := h.passed
    passedLe := h.passedLe
    received := h.received
    acks := fun id hid => h.acks id (List.mem_of_mem_drop hid)
    maxAckList := h.maxAckList
    psid := h.psid.imp_left fun ⟨hnone, hdata⟩ =>
        ⟨hnone, by show k.xmitAcks.data.drop n = []; rw [hdata]; exact List.drop_nil⟩
    pidForm := hform
    queued := h.queued
    plain := h.plain }

/-- Packets leave a queue at its front. -/
theorem drain_suffix (k : KeyContext) (now : Nat) (ps : List Packet) : (drain now k ps).2 <:+ ps := by
  induction ps generalizing k with
  | nil => exact List.suffix_refl _
  | cons p ps ih =>
      rw [drain]
      split
      · exact List.suffix_refl _
      · exact (ih _).trans (List.suffix_cons p ps)

theorem drain_moves (h : Owes k peer) (now : Nat) {ps : List Packet} (hops : ∀ p ∈ ps, p.opcode ≠ .ackV1) :
    Moves peer k (drain now k ps).1 := by
  induction ps generalizing k with
  | nil => exact .refl h
  | cons p ps ih =>
      obtain ⟨hop, hrest⟩ := List.forall_mem_cons.mp hops
      rw [drain]
      split
      · exact .refl h
      · rename_i hgo
        have hready : k.relSend.ready = true := by
          cases hr : k.relSend.ready <;> simp_all
        have hnext := sendNext_moves h now hop hready
        exact hnext.trans (ih hnext.owes hrest)

theorem initialOp_cases (c : Config) : c.initialOp ≠ .ackV1 ∧ c.initialOp ≠ .controlV1 := by
  rw [Config.initialOp]
  split
  · decide
  · split <;> decide

theorem downStackRaw_moves (h : Owes k peer) (now : Nat) : Moves peer k (k.downStackRaw now) := by
  have hmoves := drain_moves h now fun p hp => (h.queued p hp).trans_ne (initialOp_cases k.config).1
  refine hmoves.trans (hmoves.owes.of_core rfl (fun p hp => ?_) rfl)
  rw [hmoves.grows.config]
  exact h.queued p ((drain_suffix k now _).subset hp)

theorem downStackApp_moves (h : Owes k peer) (now : Nat) : Moves peer k (k.downStackApp now) := by
  rw [downStackApp]
  split
  · have hops : ∀ p ∈ k.ciphertext.map (⟨.controlV1, ·⟩ : List UInt8 → Packet), p.opcode ≠ .ackV1 := fun p hp => by
      obtain ⟨buf, -, rfl⟩ := List.mem_map.mp hp
      exact fun he => by cases he
    have hmoves := drain_moves h now hops
    exact hmoves.trans (hmoves.owes.of_core rfl hmoves.owes.queued rfl)
  · exact .refl h

theorem flush_moves (h : Owes k peer) (now : Nat) : Moves peer k (k.flush now) := by
  have hraw := downStackRaw_moves h now
  have happ := hraw.trans (downStackApp_moves hraw.owes now)
  rw [flush]
  split
  · exact .refl h
  · simp only
    split
    · exact happ
    · exact happ.trans (happ.owes.of_core rfl happ.owes.queued rfl)

/-- A standalone ACK is genuine as well. -/
theorem sendAck_quiet (h : Owes k peer) (now : Nat) :
    ∃ k', k.sendAck now = some k' ∧ Quiet peer k k' ∧ k'.xmitAcks.data.length ≤ k.xmitAcks.data.length - 1 := by
  obtain ⟨buf, pids, n, hwrap, hform, hlength, hpos, hhead⟩ := wrap_cases h now .ackV1 []
  have hstep : k.sendAck now = some { k with
      xmitAcks := { k.xmitAcks with data := k.xmitAcks.data.drop n }
      taPidSend := pids
      sent := k.sent ++ [buf] } := by
    simp only [sendAck, generateAck, hwrap, Option.map_some]
  refine ⟨_, hstep, ⟨⟨⟨rfl, List.prefix_refl _, fun _ hn => hn⟩, ?_, rfl⟩, rfl⟩, ?_⟩
  · exact {
      next := h.next
      head := h.head
      released := h.released
      unacked := h.unacked
      pending := fun m p hm hp => (h.pending m p hm hp).imp_left (List.mem_append_left _)
      unsent := h.unsent
      sent := fun b hb => by
        rcases List.mem_append.mp hb with hb | hb
        · exact h.sent b hb
        · obtain rfl := List.mem_singleton.mp hb
          exact ⟨.ackV1, k.xmitAcks.data.take n, [], hlength,
              fun id hid => h.acks id (List.mem_of_mem_take hid), rfl, hhead⟩
      passed := h.passed
      passedLe := h.passedLe
      received := h.received
      acks := fun id hid => h.acks id (List.mem_of_mem_drop hid)
      maxAckList := h.maxAckList
      psid := h.psid.imp_left fun ⟨hnone, hdata⟩ =>
          ⟨hnone, by show k.xmitAcks.data.drop n = []; rw [hdata]; exact List.drop_nil⟩
      pidForm := hform
      queued := h.queued
      plain := h.plain }
  · show (k.xmitAcks.data.drop n).length ≤ k.xmitAcks.data.length - 1
    rw [List.length_drop]
    by_cases hdata : k.xmitAcks.data = []
    · simp [hdata]
    · have := hpos hdata
      omega

theorem sendAcks_quiet (h : Owes k peer) (now n : Nat) : Quiet peer k (sendAcks now n k) := by
  induction n generalizing k with
  | zero => exact .refl h
  | succ n ih =>
      rw [sendAcks]
      split
      · exact .refl h
      · obtain ⟨k', hk', hmoves, -⟩ := sendAck_quiet h now
        rw [hk']
        exact hmoves.trans (ih hmoves.owes)

theorem sendPendingAcks_quiet (h : Owes k peer) (now : Nat) : Quiet peer k (k.sendPendingAcks now) := by
  rw [sendPendingAcks]
  split
  · exact .refl h
  · exact sendAcks_quiet h now _

/-- Packets may be sent again and their timers set anew. -/
theorem resend_quiet (h : Owes k peer) {window : MessageWindow (SendMessage Packet)} {again : List (List UInt8)}
    (hhead : window.headId = k.relSend.window.headId)
    (hslot : ∀ n, k.relSend.window.headId.toNat ≤ n → (window.slot n).erased = (k.relSend.window.slot n).erased ∧
      (window.slot n).id = (k.relSend.window.slot n).id ∧
      (window.slot n).packet = (k.relSend.window.slot n).packet)
    (hagain : ∀ buf ∈ again, buf ∈ k.sent) :
    Quiet peer k { k with sent := k.sent ++ again, relSend := { k.relSend with window := window } } := by
  refine ⟨⟨⟨rfl, List.prefix_refl _, fun _ hn => hn⟩, ?_, rfl⟩, rfl⟩
  exact {
    next := h.next
    head := by
      show window.headId.toNat ≤ k.numbered.length
      rw [hhead]
      exact h.head
    released := fun n hn => h.released n (by rw [← hhead]; exact hn)
    unacked := fun n hn hlt => by
      have hn' : k.relSend.window.headId.toNat ≤ n := hhead ▸ hn
      show _ ∨ (window.slot n).erased = false ∧ (window.slot n).packet.isSome = true
      rw [(hslot n hn').1, (hslot n hn').2.2]
      exact h.unacked n hn' hlt
    pending := fun n q hn hq => by
      have hn' : k.relSend.window.headId.toNat ≤ n := hhead ▸ hn
      obtain ⟨hsent, p, hp, hcarries⟩ := h.pending n q hn' ((hslot n hn').2.2.symm.trans hq)
      exact ⟨List.mem_append_left _ hsent, p, hp, hcarries.grows rfl rfl (hslot n hn').2⟩
    unsent := fun n hn => by
      have hn' : k.relSend.window.headId.toNat ≤ n := h.head.trans hn
      show (window.slot n).erased = false ∧ (window.slot n).packet = none
      rw [(hslot n hn').1, (hslot n hn').2.2]
      exact h.unsent n hn
    sent := fun buf hbuf => h.sent buf ((List.mem_append.mp hbuf).elim id (hagain buf))
    passed := h.passed
    passedLe := h.passedLe
    received := h.received
    acks := h.acks
    maxAckList := h.maxAckList
    psid := h.psid
    pidForm := h.pidForm
    queued := h.queued
    plain := h.plain }

/-- A retransmission repeats a datagram that was sent before. -/
theorem retransmitAt_quiet (h : Owes k peer) (now : Nat) {id : UInt32}
    (hid : k.relSend.window.headId.toNat ≤ id.toNat) :
    Quiet peer k (k.retransmitAt now id) ∧ (k.retransmitAt now id).relSend.window.headId =
      k.relSend.window.headId := by
  simp only [retransmitAt]
  split
  · rename_i hready
    obtain ⟨p, hp⟩ := Option.isSome_iff_exists.mp (Bool.and_eq_true _ _ ▸ hready).1
    have hbuf := (h.pending _ p hid hp).1
    have hwindow : ∃ window, ((k.relSend.window.refById id fun m =>
          { m with retransmitAt := (now : Time) + k.config.tlsTimeout }).getD k.relSend.window) = window ∧
        window.headId = k.relSend.window.headId ∧
        ∀ n, k.relSend.window.headId.toNat ≤ n → (window.slot n).erased = (k.relSend.window.slot n).erased ∧
          (window.slot n).id = (k.relSend.window.slot n).id ∧
          (window.slot n).packet = (k.relSend.window.slot n).packet := by
      refine ⟨_, rfl, ?_⟩
      cases href :
          k.relSend.window.refById id fun m => { m with retransmitAt := (now : Time) + k.config.tlsTimeout } with
      | none => exact ⟨rfl, fun n hn => ⟨rfl, rfl, rfl⟩⟩
      | some window =>
          obtain ⟨-, hheadId, -, hslot⟩ := refById_cases href
          refine ⟨hheadId, fun n hn => ?_⟩
          rw [Option.getD_some, hslot n hn]
          split <;> exact ⟨rfl, rfl, rfl⟩
    obtain ⟨window, hwindow, hheadId, hslot⟩ := hwindow
    simp only [netResend, hp]
    split
    · have hnone : ∀ buf ∈ ([] : List (List UInt8)), buf ∈ k.sent := fun buf hb => absurd hb List.not_mem_nil
      have hmoves := resend_quiet h hheadId hslot hnone
      rw [List.append_nil] at hmoves
      rw [hwindow]
      exact ⟨hmoves, hheadId⟩
    · rw [hwindow]
      refine ⟨resend_quiet h hheadId hslot fun buf hb => ?_, hheadId⟩
      obtain rfl : buf = p.buf := by simpa using hb
      exact hbuf
  · exact ⟨.refl h, rfl⟩

theorem retransmit_quiet (h : Owes k peer) (now : Nat) : Quiet peer k (k.retransmit now) := by
  have hloop (ids : List UInt32) (k₁ : KeyContext) (h₁ : Quiet peer k k₁)
      (hhead : k₁.relSend.window.headId = k.relSend.window.headId)
      (hids : ∀ id ∈ ids, k.relSend.window.headId.toNat ≤ id.toNat) :
      Quiet peer k (ids.foldl (fun k id => k.retransmitAt now id) k₁) := by
    induction ids generalizing k₁ with
    | nil => exact h₁
    | cons id ids ih =>
        obtain ⟨hid, hrest⟩ := List.forall_mem_cons.mp hids
        have hid' : k₁.relSend.window.headId.toNat ≤ id.toNat := hhead ▸ hid
        obtain ⟨hmoves, hheadId⟩ := retransmitAt_quiet h₁.owes now hid'
        exact ih _ (h₁.trans hmoves) (hheadId.trans hhead) hrest
  rw [retransmit]
  split
  · exact .refl h
  · have hall := hloop k.relSend.window.ids k (.refl h) rfl fun id hid => (inWindow_iff.mp (mem_ids.mp hid)).1
    exact hall.trans ⟨hall.owes.of_core rfl hall.owes.queued rfl, rfl⟩

/-- What is next in sequence goes up the stack. -/
theorem upSequenced_quiet (h : Owes k peer) (n : Nat) : Quiet peer k (upSequenced n k) := by
  induction n generalizing k with
  | zero => exact .refl h
  | succ n ih =>
      rw [upSequenced]
      cases hnext : k.relRecv.nextSequenced with
      | none => exact .refl h
      | some p =>
          simp only
          split
          · have hslot : (k.relRecv.window.slot k.relRecv.window.headId.toNat).packet = some p := hnext
            have hdefined : k.relRecv.window.headDefined = true :=
              headDefined_iff.trans (Option.isSome_iff_exists.mpr ⟨p, hslot⟩)
            obtain ⟨hhead, -, hkept⟩ := rmHeadNocheck_cases hdefined
            have hp := h.received _ p le_rfl hslot
            have hlt := (List.getElem?_eq_some_iff.mp hp).1
            have hgrows : Grows k { k with passed := k.passed ++ [p], relRecv := k.relRecv.advance } := by
              refine ⟨rfl, List.prefix_refl _, fun m hm => hm.imp_left fun hm => ?_⟩
              show m < k.relRecv.window.rmHeadNocheck.headId.toNat ∨
                  (k.relRecv.window.rmHeadNocheck.slot m).packet.isSome = true
              by_cases hle : m ≤ k.relRecv.window.headId.toNat
              · exact .inl (by omega)
              · rw [hkept m (by omega)]
                exact .inr (hm.resolve_left (by omega))
            have howes : Owes { k with passed := k.passed ++ [p], relRecv := k.relRecv.advance } peer := {
              next := h.next
              head := h.head
              released := h.released
              unacked := h.unacked
              pending := h.pending
              unsent := h.unsent
              sent := fun buf hbuf => (h.sent buf hbuf).grows hgrows (.refl peer)
              passed := by
                show k.passed ++ [p] = peer.numbered.take k.relRecv.window.rmHeadNocheck.headId.toNat
                rw [hhead, List.take_add_one, hp, h.passed]
                rfl
              passedLe := by
                show k.relRecv.window.rmHeadNocheck.headId.toNat ≤ _
                omega
              received := fun m q hm hq => by
                have hm' : k.relRecv.window.rmHeadNocheck.headId.toNat ≤ m := hm
                have hq' : (k.relRecv.window.rmHeadNocheck.slot m).packet = some q := hq
                rw [hkept m (by omega)] at hq'
                exact h.received m q (by omega) hq'
              acks := fun id hid => ⟨(h.acks id hid).1, hgrows.answers _ (h.acks id hid).2⟩
              maxAckList := h.maxAckList
              psid := h.psid
              pidForm := h.pidForm
              queued := h.queued
              plain := h.plain }
            have hmoves : Quiet peer k _ := ⟨⟨hgrows, howes, rfl⟩, rfl⟩
            exact hmoves.trans (ih hmoves.owes)
          · exact .refl h

end OpenVPNAdapter.Proto.KeyContext
