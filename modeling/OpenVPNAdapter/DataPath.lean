import OpenVPNAdapter.Library.Runs
import OpenVPNAdapter.PacketFlowBridge
import OpenVPNAdapter.TunIO

namespace OpenVPNAdapter.DataPath

open Library.ByteOrder Library.Descriptors Library.Runs PacketFlowBridge OpenVPNPacket TunIO

/-- An established tunnel: the adapter's bridge and the core's `TunIO` at the two ends of a
socket pair, which carries datagrams in their order. -/
structure Tunnel where
  bridge : Bridge
  tunio : TunIO
  toCore : List Data
  toFlow : List Data
  written : Written
  raised : Bool
deriving DecidableEq, Repr

variable (e : Endian)

/-- The loop of `writePackets:protocols:toSocket:`, with the datagrams whose send succeeds; looking
up a protocol that is not there raises. -/
def sendPackets : List Data → List Nat → List Bool → List Data × Bool
  | [], _, _ => ([], false)
  | _ :: _, [], _ => ([], true)
  | data :: packets, protocolFamily :: protocols, sends =>
      let (later, raised) := sendPackets packets protocols sends.tail
      (if sends.headD true then vpnData e ⟨data, protocolFamily⟩ :: later else later, raised)

def writePacketsToSocket (packets : List Data) (protocols : List Nat) (sends : List Bool)
    (socket : Option Handle) : List Data × Bool :=
  match socket with
  | none => ([], false)
  | some _ => sendPackets e packets protocols sends

/-- What happens at one of the ends. `packetsRead` is the completion of a read request, with the
outcome of each send. -/
inductive Action
  | packetsRead (request : Nat) (packets : List Data) (protocols : List Nat) (sends : List Bool)
  | handleRead
  | write (buf : Buffer) (outcome : Wrote)
  | socketCallback
deriving DecidableEq, Repr

/-- An exception ends everything. -/
def step (s : Tunnel) : Action → Option Tunnel
  | .packetsRead request packets protocols sends =>
      if s.raised = false ∧ request ∈ s.bridge.reads then
        let (datagrams, raised) := writePacketsToSocket e packets protocols sends s.bridge.packetFlowSocket
        some { s with
          bridge := if raised then s.bridge else readCompleted request s.bridge
          toCore := s.toCore ++ datagrams
          raised := raised }
      else none
  | .handleRead =>
      match s.toCore with
      | [] => none
      | datagram :: toCore =>
          if s.raised = false ∧ 0 < s.tunio.queuedReads then
            some { s with tunio := TunIO.handleRead (some datagram) s.tunio, toCore := toCore }
          else none
  | .write buf outcome =>
      if s.raised = false then
        let (_, datagram, tunio) := TunIO.write e buf outcome s.tunio
        some { s with tunio := tunio, toFlow := s.toFlow ++ datagram.toList }
      else none
  | .socketCallback =>
      match s.toFlow with
      | [] => none
      | datagram :: toFlow =>
          if s.raised = false then
            match OpenVPNPacket.socketCallback e .dataCallBack datagram s.written with
            | .ok written => some { s with toFlow := toFlow, written := written }
            | .error _ => some { s with toFlow := toFlow, raised := true }
          else none

/-- A tunnel right after it came up. -/
structure Established (s : Tunnel) : Prop where
  socket : s.bridge.packetFlowSocket.isSome
  outstanding : s.bridge.reads ≠ []
  tunPrefix : s.tunio.tunPrefix = true
  live : s.tunio.halt = false
  queuedReads : 0 < s.tunio.queuedReads
  read : s.tunio.read = []
  errors : s.tunio.errors = []
  toCore : s.toCore = []
  toFlow : s.toFlow = []
  written : s.written = []
  raised : s.raised = false

/-- What comes from outside: packets to read, and packets that the core has to write. -/
inductive Feed
  | batch (packets : List Data) (protocols : List Nat) (sends : List Bool)
  | packet (buf : Buffer) (outcome : Wrote)
deriving DecidableEq, Repr

def Action.feed : Action → Option Feed
  | .packetsRead _ packets protocols sends => some (.batch packets protocols sends)
  | .write buf outcome => some (.packet buf outcome)
  | _ => none

/-- Every send succeeds, a packet fits the core's read buffer with its prefix, and the core writes
IP packets with room for the prefix. -/
def Feed.Proper (frameCapacity : Nat) : Feed → Prop
  | .batch packets protocols sends =>
      packets.length = protocols.length ∧ (∀ data ∈ packets, 4 + data.length ≤ frameCapacity) ∧
        ∀ sent ∈ sends, sent = true
  | .packet buf outcome =>
      4 ≤ buf.offset ∧ IsIP buf.data ∧ outcome = .bytes (4 + buf.data.length)

def Proper (frameCapacity : Nat) (a : Action) : Prop := ∀ f, a.feed = some f → f.Proper frameCapacity

/-- What an action waits for: the request it completes, or a datagram. -/
def Due (s : Tunnel) : Action → Prop
  | .packetsRead request _ _ _ => request ∈ s.bridge.reads
  | .handleRead => s.toCore ≠ []
  | .write _ _ => True
  | .socketCallback => s.toFlow ≠ []

def batch : Action → List Data
  | .packetsRead _ packets _ _ => packets
  | _ => []

def corePacket : Action → List Data
  | .write buf _ => [buf.data]
  | _ => []

/-- A packet as the packet flow gets it, in a call of its own. -/
def labelled (packet : Data) : List Data × List Nat := ([packet], [(family packet).toNat])

/-- All that one end sent has been handed on at the other or is on its way. -/
structure Carried (frameCapacity : Nat) (batches packets : List Data) (s : Tunnel) : Prop where
  socket : s.bridge.packetFlowSocket.isSome
  outstanding : s.bridge.reads ≠ []
  tunPrefix : s.tunio.tunPrefix = true
  live : s.tunio.halt = false
  queuedReads : 0 < s.tunio.queuedReads
  capacity : s.tunio.frameCapacity = frameCapacity
  errors : s.tunio.errors = []
  raised : s.raised = false
  inward : ∃ coming : List Packet, s.toCore = coming.map (vpnData e) ∧
    (∀ packet ∈ coming, 4 + packet.packetFlowData.length ≤ frameCapacity) ∧
    s.tunio.read ++ coming.map Packet.packetFlowData = batches
  outward : ∃ coming : List Data, s.toFlow = coming.map (fun d => vpnData e ⟨d, (family d).toNat⟩) ∧
    s.written ++ coming.map labelled = packets.map labelled

variable {e} {frameCapacity : Nat} {batches packets : List Data} {s t : Tunnel}

theorem sendPackets_eq {packets : List Data} {protocols : List Nat} {sends : List Bool}
    (hlen : packets.length = protocols.length) (hsends : ∀ sent ∈ sends, sent = true) :
    sendPackets e packets protocols sends =
      ((List.zipWith Packet.mk packets protocols).map (vpnData e), false) := by
  induction packets generalizing protocols sends with
  | nil => rfl
  | cons data packets ih =>
      cases protocols with
      | nil => cases hlen
      | cons protocolFamily protocols =>
          have hhead : sends.headD true = true := by
            cases sends with
            | nil => rfl
            | cons sent sends => exact hsends sent List.mem_cons_self
          have htail := @ih protocols sends.tail (Nat.succ.inj hlen)
            fun sent hs => hsends sent (List.mem_of_mem_tail hs)
          simp only [sendPackets, htail, hhead, if_true, List.zipWith_cons_cons, List.map_cons]

theorem packetFlowData_zipWith {packets : List Data} {protocols : List Nat}
    (hlen : packets.length = protocols.length) :
    (List.zipWith Packet.mk packets protocols).map Packet.packetFlowData = packets := by
  induction packets generalizing protocols with
  | nil => rfl
  | cons data packets ih =>
      cases protocols with
      | nil => cases hlen
      | cons protocolFamily protocols => simp [ih (Nat.succ.inj hlen)]

theorem family_lt_of (packet : Data) :
    (Packet.mk packet (family packet).toNat).protocolFamily < 2 ^ 32 := (family packet).isLt

theorem socketCallback_framed (packet : Data) (written : Written) :
    OpenVPNPacket.socketCallback e .dataCallBack (vpnData e ⟨packet, (family packet).toNat⟩) written =
      .ok (written ++ [labelled packet]) := by
  simp only [OpenVPNPacket.socketCallback, ne_eq, not_true_eq_false, if_false,
    decode_encode (e := e) (family_lt_of packet)]
  rfl

theorem carried_packetsRead (h : Carried e frameCapacity batches packets s) {request : Nat} {datas : List Data}
    {protocols : List Nat} {sends : List Bool}
    (hp : Proper frameCapacity (.packetsRead request datas protocols sends))
    (ht : step e s (.packetsRead request datas protocols sends) = some t) :
    Carried e frameCapacity (batches ++ datas) packets t := by
  obtain ⟨hlen, hfits, hsends⟩ := hp _ rfl
  obtain ⟨socket, hsocket⟩ := Option.isSome_iff_exists.mp h.socket
  obtain ⟨coming, hcoming, hcomingFits, hread⟩ := h.inward
  simp only [step, writePacketsToSocket, hsocket, sendPackets_eq hlen hsends] at ht
  split at ht
  · obtain rfl := Option.some.inj ht
    refine { h with
      socket := ?_
      outstanding := ?_
      raised := rfl
      inward := ⟨coming ++ List.zipWith Packet.mk datas protocols, ?_, ?_, ?_⟩ }
    · simpa [readCompleted, startReading] using h.socket
    · exact List.append_ne_nil_of_right_ne_nil _ (List.cons_ne_nil _ _)
    · rw [List.map_append, hcoming]
    · intro packet hmem
      rcases List.mem_append.mp hmem with hmem | hmem
      · exact hcomingFits packet hmem
      · apply hfits _
        rw [← packetFlowData_zipWith hlen]
        exact List.mem_map_of_mem hmem
    · rw [List.map_append, packetFlowData_zipWith hlen, ← List.append_assoc, hread]
  · cases ht

theorem carried_handleRead (h : Carried e frameCapacity batches packets s)
    (ht : step e s .handleRead = some t) : Carried e frameCapacity batches packets t := by
  obtain ⟨coming, hcoming, hfits, hread⟩ := h.inward
  cases coming with
  | nil => simp [step, hcoming] at ht
  | cons packet coming =>
      rw [List.map_cons] at hcoming
      simp only [step, hcoming, h.raised, h.queuedReads, and_self, if_true] at ht
      obtain rfl := Option.some.inj ht
      obtain ⟨hr, he, hl, hx, hc, hq⟩ := handleRead_framed (e := e) h.live h.tunPrefix packet
        (h.capacity ▸ hfits packet List.mem_cons_self)
      refine { h with
        raised := rfl
        tunPrefix := hx
        live := hl
        queuedReads := ?_
        capacity := ?_
        errors := ?_
        inward := ?_ }
      · rw [hq]
        exact Nat.succ_pos _
      · rw [hc]
        exact h.capacity
      · rw [he]
        exact h.errors
      · refine ⟨coming, rfl, fun packet hm => hfits packet (List.mem_cons_of_mem _ hm), ?_⟩
        rw [hr, ← hread, List.map_cons, List.append_assoc, List.singleton_append]

theorem carried_write (h : Carried e frameCapacity batches packets s) {buf : Buffer} {outcome : Wrote}
    (hp : Proper frameCapacity (.write buf outcome)) (ht : step e s (.write buf outcome) = some t) :
    Carried e frameCapacity batches (packets ++ [buf.data]) t := by
  obtain ⟨hroom, hip, rfl⟩ := hp _ rfl
  obtain ⟨coming, hcoming, hwritten⟩ := h.outward
  simp only [step, h.raised, if_true, write_framed h.live h.tunPrefix hroom hip] at ht
  obtain rfl := Option.some.inj ht
  refine { h with raised := rfl, outward := ⟨coming ++ [buf.data], ?_, ?_⟩ }
  · rw [List.map_append, hcoming]
    rfl
  · rw [List.map_append, List.map_append, ← List.append_assoc, hwritten]

theorem carried_socketCallback (h : Carried e frameCapacity batches packets s)
    (ht : step e s .socketCallback = some t) : Carried e frameCapacity batches packets t := by
  obtain ⟨coming, hcoming, hwritten⟩ := h.outward
  cases coming with
  | nil => simp [step, hcoming] at ht
  | cons packet coming =>
      rw [List.map_cons] at hcoming
      simp only [step, hcoming, h.raised, if_true, socketCallback_framed] at ht
      obtain rfl := Option.some.inj ht
      refine { h with raised := rfl, outward := ⟨coming, rfl, ?_⟩ }
      rw [← hwritten, List.map_cons, List.append_assoc, List.singleton_append]

theorem carried_step (h : Carried e frameCapacity batches packets s) {a : Action} (hp : Proper frameCapacity a)
    (ht : step e s a = some t) :
    Carried e frameCapacity (batches ++ batch a) (packets ++ corePacket a) t := by
  cases a with
  | packetsRead request datas protocols sends => simpa [batch, corePacket] using carried_packetsRead h hp ht
  | handleRead => simpa [batch, corePacket] using carried_handleRead h ht
  | write buf outcome => simpa [batch, corePacket] using carried_write h hp ht
  | socketCallback => simpa [batch, corePacket] using carried_socketCallback h ht

theorem carried_run {as : List Action} (hp : ∀ a ∈ as, Proper frameCapacity a)
    (h : Carried e frameCapacity batches packets s) (ht : run (step e) s as = some t) :
    Carried e frameCapacity (batches ++ as.flatMap batch) (packets ++ as.flatMap corePacket) t := by
  induction as generalizing s batches packets with
  | nil =>
      obtain rfl := Option.some.inj ht
      simpa using h
  | cons a as ih =>
      obtain ⟨u, hu, hut⟩ := run_cons_eq_some.mp ht
      have hnext := ih (fun b hb => hp b (List.mem_cons_of_mem a hb))
        (carried_step h (hp a List.mem_cons_self) hu) hut
      simpa [List.append_assoc] using hnext

theorem carried_of_established (h : Established s) : Carried e s.tunio.frameCapacity [] [] s :=
  { h with
    capacity := rfl
    inward := ⟨[], h.toCore, nofun, by rw [h.read]; rfl⟩
    outward := ⟨[], h.toFlow, by rw [h.written]; rfl⟩ }

/-- Whatever an action waits for, once it is there the action goes through. -/
theorem admits (h : Carried e frameCapacity batches packets s) {a : Action} (hdue : Due s a) :
    ∃ t, step e s a = some t := by
  cases a with
  | packetsRead request datas protocols sends =>
      have hrequest : request ∈ s.bridge.reads := hdue
      simp only [step, h.raised, hrequest, and_self, if_true]
      exact ⟨_, rfl⟩
  | handleRead =>
      obtain ⟨datagram, toCore, hcons⟩ := List.exists_cons_of_ne_nil hdue
      simp [step, hcons, h.raised, h.queuedReads]
  | write buf outcome =>
      simp only [step, h.raised, if_true]
      exact ⟨_, rfl⟩
  | socketCallback =>
      obtain ⟨coming, hcoming, -⟩ := h.outward
      cases coming with
      | nil => exact absurd hcoming hdue
      | cons packet coming =>
          rw [List.map_cons] at hcoming
          simp [step, hcoming, h.raised, socketCallback_framed]

/-- A read is always outstanding, so the next feed is taken whenever it comes. -/
theorem feeds_run {feeds : List Feed} (hp : ∀ f ∈ feeds, f.Proper frameCapacity)
    (h : Carried e frameCapacity batches packets s) :
    ∃ as t, as.map Action.feed = feeds.map some ∧ run (step e) s as = some t := by
  induction feeds generalizing s batches packets with
  | nil => exact ⟨[], s, rfl, rfl⟩
  | cons f feeds ih =>
      have hfirst : ∃ a, a.feed = some f ∧ Due s a := by
        cases f with
        | batch datas protocols sends =>
            obtain ⟨request, reads, hreads⟩ := List.exists_cons_of_ne_nil h.outstanding
            refine ⟨.packetsRead request datas protocols sends, rfl, ?_⟩
            rw [Due, hreads]
            exact List.mem_cons_self
        | packet buf outcome => exact ⟨.write buf outcome, rfl, trivial⟩
      obtain ⟨a, hfeed, hdue⟩ := hfirst
      obtain ⟨u, hu⟩ := admits h hdue
      have hproper : Proper frameCapacity a := fun g hg => by
        rw [hfeed] at hg
        obtain rfl := Option.some.inj hg
        exact hp f List.mem_cons_self
      obtain ⟨as, t, has, ht⟩ := ih (fun g hg => hp g (List.mem_cons_of_mem f hg)) (carried_step h hproper hu)
      refine ⟨a :: as, t, ?_, run_cons_eq_some.mpr ⟨u, hu, ht⟩⟩
      rw [List.map_cons, List.map_cons, hfeed, has]

/-- The two ends empty the pair: as many reads and callbacks as there are datagrams. -/
def drain (s : Tunnel) : List Action :=
  List.replicate s.toCore.length .handleRead ++ List.replicate s.toFlow.length .socketCallback

theorem run_handleReads (h : Carried e frameCapacity batches packets s) :
    ∃ u, run (step e) s (List.replicate s.toCore.length .handleRead) = some u ∧ u.toCore = [] ∧
      u.toFlow = s.toFlow ∧ Carried e frameCapacity batches packets u := by
  induction hn : s.toCore.length generalizing s with
  | zero => exact ⟨s, rfl, List.length_eq_zero_iff.mp hn, rfl, h⟩
  | succ n ih =>
      obtain ⟨datagram, toCore, hcons⟩ := List.exists_cons_of_length_eq_add_one hn
      obtain ⟨u, hu⟩ : ∃ u, step e s .handleRead = some u :=
        admits h fun hempty => by rw [hempty] at hcons; cases hcons
      have hflow : u.toFlow = s.toFlow ∧ u.toCore = toCore := by
        simp only [step, hcons, h.raised, h.queuedReads, and_self, if_true] at hu
        obtain rfl := Option.some.inj hu
        exact ⟨rfl, rfl⟩
      obtain ⟨v, hv, hempty, hsame, hcarried⟩ := ih (carried_handleRead h hu)
        (by rw [hflow.2]; simpa [hcons] using hn)
      exact ⟨v, run_cons_eq_some.mpr ⟨u, hu, hv⟩, hempty, hsame.trans hflow.1, hcarried⟩

theorem run_socketCallbacks (h : Carried e frameCapacity batches packets s) :
    ∃ u, run (step e) s (List.replicate s.toFlow.length .socketCallback) = some u ∧ u.toFlow = [] ∧
      u.toCore = s.toCore ∧ Carried e frameCapacity batches packets u := by
  induction hn : s.toFlow.length generalizing s with
  | zero => exact ⟨s, rfl, List.length_eq_zero_iff.mp hn, rfl, h⟩
  | succ n ih =>
      obtain ⟨coming, hcoming, -⟩ := h.outward
      cases coming with
      | nil => simp [hcoming] at hn
      | cons packet coming =>
          rw [List.map_cons] at hcoming
          obtain ⟨u, hu⟩ : ∃ u, step e s .socketCallback = some u :=
            admits h fun hempty => by rw [hempty] at hcoming; cases hcoming
          have hcore : u.toCore = s.toCore ∧ u.toFlow.length = n := by
            simp only [step, hcoming, h.raised, if_true, socketCallback_framed] at hu
            obtain rfl := Option.some.inj hu
            exact ⟨rfl, by simpa [hcoming] using hn⟩
          obtain ⟨v, hv, hempty, hsame, hcarried⟩ := ih (carried_socketCallback h hu) hcore.2
          exact ⟨v, run_cons_eq_some.mpr ⟨u, hu, hv⟩, hempty, hsame.trans hcore.1, hcarried⟩

theorem run_drain (h : Carried e frameCapacity batches packets s) :
    ∃ u, run (step e) s (drain s) = some u ∧ u.toCore = [] ∧ u.toFlow = [] ∧
      Carried e frameCapacity batches packets u := by
  obtain ⟨u, hu, hcore, hflow, hcarried⟩ := run_handleReads h
  obtain ⟨v, hv, hempty, hsame, hcarried⟩ := run_socketCallbacks hcarried
  rw [hflow] at hv
  refine ⟨v, ?_, hsame.trans hcore, hempty, hcarried⟩
  rw [drain, run_append, hu, Option.bind_some, hv]

theorem Carried.handed (h : Carried e frameCapacity batches packets s) :
    s.tunio.read <+: batches ∧ s.written <+: packets.map labelled := by
  obtain ⟨coming, -, -, hread⟩ := h.inward
  obtain ⟨going, -, hwritten⟩ := h.outward
  exact ⟨⟨_, hread⟩, ⟨_, hwritten⟩⟩

theorem Carried.all_handed (h : Carried e frameCapacity batches packets s) (hcore : s.toCore = [])
    (hflow : s.toFlow = []) : s.tunio.read = batches ∧ s.written = packets.map labelled := by
  obtain ⟨coming, hcoming, -, hread⟩ := h.inward
  obtain ⟨going, hgoing, hwritten⟩ := h.outward
  obtain rfl := List.map_eq_nil_iff.mp (hcoming.symm.trans hcore)
  obtain rfl := List.map_eq_nil_iff.mp (hgoing.symm.trans hflow)
  exact ⟨by simpa using hread, by simpa using hwritten⟩

/-- In every run of an established tunnel each end hands on what the other sent, whole, once and in
order, and once the pair is empty all of it; nothing raises, nothing is an error, and a read is always
outstanding, so that every sequence of batches and packets has its run, in which no end has to wait for
more than a request or a datagram. A batch that finds no socket is dropped, and only the read loop
goes on. -/
theorem lossless :
    (∀ (s t : Tunnel) (as : List Action), Established s → (∀ a ∈ as, Proper s.tunio.frameCapacity a) →
      run (step e) s as = some t →
        (t.tunio.read <+: as.flatMap batch ∧ t.written <+: (as.flatMap corePacket).map labelled) ∧
        (t.tunio.errors = [] ∧ t.raised = false) ∧
        (t.bridge.reads ≠ [] ∧ ∀ a, Due t a → (step e t a).isSome) ∧
        ∃ u, run (step e) t (drain t) = some u ∧ u.toCore = [] ∧ u.toFlow = [] ∧
          u.tunio.read = as.flatMap batch ∧ u.written = (as.flatMap corePacket).map labelled ∧
          u.tunio.errors = [] ∧ u.raised = false) ∧
    (∀ (s : Tunnel) (feeds : List Feed), Established s → (∀ f ∈ feeds, f.Proper s.tunio.frameCapacity) →
      ∃ as t, as.map Action.feed = feeds.map some ∧ run (step e) s as = some t) ∧
    ∀ (s : Tunnel) (request : Nat) (packets : List Data) (protocols : List Nat) (sends : List Bool),
      s.bridge.packetFlowSocket = none → s.raised = false → request ∈ s.bridge.reads →
        step e s (.packetsRead request packets protocols sends) =
          some { s with bridge := readCompleted request s.bridge } := by
  refine ⟨?_, ?_, ?_⟩
  · intro s t as hs hp ht
    have hcarried := carried_run hp (carried_of_established hs) ht
    rw [List.nil_append, List.nil_append] at hcarried
    obtain ⟨u, hu, hcore, hflow, hlast⟩ := run_drain hcarried
    obtain ⟨hread, hwritten⟩ := hlast.all_handed hcore hflow
    exact ⟨hcarried.handed, ⟨hcarried.errors, hcarried.raised⟩,
      ⟨hcarried.outstanding, fun a hdue => Option.isSome_iff_exists.mpr (admits hcarried hdue)⟩,
      u, hu, hcore, hflow, hread, hwritten, hlast.errors, hlast.raised⟩
  · exact fun s feeds hs hp => feeds_run hp (carried_of_established hs)
  · intro s request packets protocols sends hsocket hraised hrequest
    simp [step, writePacketsToSocket, hsocket, hraised, hrequest]

/-- A tunnel that just came up, with a read buffer of `frameCapacity` bytes. -/
def comingUp (frameCapacity : Nat) : Tunnel where
  bridge := ⟨some ⟨3, 0⟩, some ⟨4, 1⟩, [0], 1⟩
  tunio := ⟨true, false, frameCapacity, 8, ⟨0, 0, 0, 0⟩, [], []⟩
  toCore := []
  toFlow := []
  written := []
  raised := false

/-- The same without sockets. -/
def withoutSocket (frameCapacity : Nat) : Tunnel :=
  { comingUp frameCapacity with bridge := ⟨none, none, [0], 1⟩ }

theorem comingUp_lossless :
    let as : List Action := [.packetsRead 0 [[0x45, 1], [0x60, 2, 3]] [2, 30] [], .write ⟨8, [0x60, 9]⟩ (.bytes 6),
      .handleRead, .packetsRead 1 [[0x45, 4]] [2] [true], .packetsRead 2 [[0x46, 5]] [2] []]
    (∃ t u, run (step .little) (comingUp 64) as = some t ∧ run (step .little) t (drain t) = some u ∧
      u.tunio.read = [[0x45, 1], [0x60, 2, 3], [0x45, 4], [0x46, 5]] ∧ u.written = [([[0x60, 9]], [30])]) ∧
    (∃ as t, as.map Action.feed = [some (.batch [[0x45]] [2] []), some (.batch [[0x60]] [30] [])] ∧
      run (step .little) (comingUp 64) as = some t) ∧
    step .little (withoutSocket 64) (.packetsRead 0 [[0x45]] [2] []) =
      some { withoutSocket 64 with bridge := readCompleted 0 (withoutSocket 64).bridge } := by
  intro as
  have hestablished : Established (comingUp 64) :=
    ⟨rfl, List.cons_ne_nil _ _, rfl, rfl, by decide, rfl, rfl, rfl, rfl, rfl, rfl⟩
  have hproper : ∀ a ∈ as, Proper 64 a := by
    intro a ha
    simp only [as, List.mem_cons, List.not_mem_nil, or_false] at ha
    rcases ha with rfl | rfl | rfl | rfl | rfl <;> intro f hf
    · obtain rfl := Option.some.inj hf
      exact ⟨rfl, by decide, fun _ h => by cases h⟩
    · obtain rfl := Option.some.inj hf
      exact ⟨by decide, by decide, rfl⟩
    · cases hf
    · obtain rfl := Option.some.inj hf
      exact ⟨rfl, by decide, by decide⟩
    · obtain rfl := Option.some.inj hf
      exact ⟨rfl, by decide, fun _ h => by cases h⟩
  have hfeeds : ∀ f ∈ [Feed.batch [[0x45]] [2] [], Feed.batch [[0x60]] [30] []], f.Proper 64 := by
    intro f hf
    simp only [List.mem_cons, List.not_mem_nil, or_false] at hf
    rcases hf with rfl | rfl
    · exact ⟨rfl, by decide, fun _ h => by cases h⟩
    · exact ⟨rfl, by decide, fun _ h => by cases h⟩
  obtain ⟨t, ht⟩ : ∃ t, run (step .little) (comingUp 64) as = some t := ⟨_, rfl⟩
  obtain ⟨-, -, -, u, hu, -, -, hread, hwritten, -⟩ := lossless.1 (comingUp 64) t as hestablished hproper ht
  exact ⟨⟨t, u, ht, hu, hread, hwritten⟩, lossless.2.1 (comingUp 64) _ hestablished hfeeds,
    lossless.2.2 (withoutSocket 64) 0 _ _ _ rfl rfl (by decide)⟩

end OpenVPNAdapter.DataPath
