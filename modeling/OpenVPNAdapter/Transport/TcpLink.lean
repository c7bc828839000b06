import OpenVPNAdapter.Library.Runs
import OpenVPNAdapter.Transport.PacketStream

namespace OpenVPNAdapter.Transport

open Library.BigEndian Library.Framing PacketStream

/-- `LinkCommon` out of raw mode; `sending` while an `async_send` of the first buffer is under way. The
last four fields record what was done: the packets that `send` took, the bytes the socket took, the
packets given to `tcp_read_handler`, and the errors given to `tcp_error_handler`. -/
structure Link where
  sendQueueMaxSize : Nat
  payload : Nat
  halt : Bool
  queue : List (List UInt8)
  sending : Bool
  pktstream : PacketStream
  accepted : List StreamPacket
  wire : List UInt8
  read : List (List UInt8)
  errors : List String
deriving DecidableEq, Repr

namespace Link

def init (sendQueueMaxSize payload : Nat) : Link :=
  ⟨sendQueueMaxSize, payload, false, [], false, .new, [], [], [], []⟩

def stop (l : Link) : Link := { l with halt := true }

/-- The error goes to the handler and the link stops. -/
def fail (l : Link) (error : String) : Link := { l with errors := l.errors ++ [error] }.stop

def send (l : Link) (p : StreamPacket) : Bool × Link :=
  if l.halt then (false, l)
  else if l.sendQueueMaxSize ≠ 0 ∧ l.sendQueueMaxSize ≤ l.queue.length then (false, l.fail "TCP_OVERFLOW")
  else (true, { l with queue := l.queue ++ [prependSize p.bytes], sending := true, accepted := l.accepted ++ [p] })

/-- The socket took some bytes of `buf`, the first buffer of the queue, or failed. -/
def handleSend (l : Link) (buf : List UInt8) (queue : List (List UInt8)) (bytesSent : Option Nat) : Link :=
  if l.halt then l
  else match bytesSent with
    | none => l.fail "NETWORK_SEND_ERROR"
    | some n =>
        if n = buf.length then { l with queue := queue, sending := !queue.isEmpty }
        else if n < buf.length then { l with queue := buf.drop n :: queue, sending := true }
        else l.fail "TCP_INTERNAL_ERROR"

/-- The end of an `async_send`, which comes also to a link that has stopped. -/
def sent (l : Link) (bytesSent : Option Nat) : Link :=
  match l.sending, l.queue with
  | true, buf :: queue =>
      { l with sending := false, wire := l.wire ++ buf.take (bytesSent.getD 0) }.handleSend buf queue bytesSent
  | _, _ => l

/-- The loop of `put_pktstream`, which every turn makes shorter: the packets that are whole, and the
stream unless it refused a size. -/
def takePackets (payload : Nat) : Nat → PacketStream → List UInt8 → List (List UInt8) × Option PacketStream
  | 0, s, _ => ([], some s)
  | fuel + 1, s, buf =>
      if buf = [] then ([], some s)
      else match s.put payload buf with
        | none => ([], none)
        | some (s, buf) =>
            if s.ready then
              match s.get with
              | none => ([], none)
              | some (pkt, s) => ((takePackets payload fuel s buf).1.cons pkt, (takePackets payload fuel s buf).2)
            else takePackets payload fuel s buf

/-- What a read of the socket comes to. -/
inductive Received
  | bytes (buf : List UInt8)
  | eof
  | error
deriving DecidableEq, Repr

def handleRecv (l : Link) : Received → Link
  | .bytes buf =>
      if l.halt then l
      else match takePackets l.payload buf.length l.pktstream buf with
        | (pkts, some s) => { l with read := l.read ++ pkts, pktstream := s }
        | (pkts, none) => { l with read := l.read ++ pkts }.fail "TCP_SIZE_ERROR"
  | .eof => l
  | .error => if l.halt then l else l.fail "NETWORK_RECV_ERROR"

/-- A packet that the other end's frame has room for. -/
def Admitted (payload : Nat) (p : StreamPacket) : Prop := ¬Refused payload p.bytes.length

theorem takePackets_cases {payload : Nat} (fuel : Nat) {s : PacketStream} (h : Partial payload s)
    {buf : List UInt8} (hfuel : buf.length ≤ fuel) :
    ∃ ps : List StreamPacket, (takePackets payload fuel s buf).1 = ps.map StreamPacket.bytes ∧
      (∀ p ∈ ps, Admitted payload p) ∧
      ((∃ s', (takePackets payload fuel s buf).2 = some s' ∧ Partial payload s' ∧
        s.pending ++ buf = ps.flatMap framing.frame ++ s'.pending) ∨
      ((takePackets payload fuel s buf).2 = none ∧ ∃ size < 256 ^ 2, Refused payload size ∧
        ∃ rest, s.pending ++ buf = ps.flatMap framing.frame ++ (digits 2 size ++ rest))) := by
  induction fuel generalizing s buf with
  | zero =>
      obtain rfl : buf = [] := List.length_eq_zero_iff.mp (Nat.le_zero.mp hfuel)
      exact ⟨[], rfl, List.forall_mem_nil _, .inl ⟨s, rfl, h, List.append_nil _⟩⟩
  | succ fuel ih =>
      by_cases hbuf : buf = []
      · subst hbuf
        exact ⟨[], rfl, List.forall_mem_nil _, .inl ⟨s, rfl, h, List.append_nil _⟩⟩
      · simp only [takePackets, if_neg hbuf]
        obtain ⟨hnone, size, hsize, hrefused, rest, hbytes⟩ | ⟨⟨s', buf'⟩, hsome, hmoves, hlt⟩ := put_cases h hbuf
        · rw [hnone]
          exact ⟨[], rfl, List.forall_mem_nil _, .inr ⟨rfl, size, hsize, hrefused, rest, hbytes⟩⟩
        · rw [hsome]
          have hbytes : s.pending ++ buf = s'.pending ++ buf' := hmoves.bytes
          have hfuel' : buf'.length ≤ fuel := by
            have hlt' : buf'.length < buf.length := hlt
            omega
          rcases hmoves.shape with hshape | hwhole
          · obtain ⟨ps, hread, hadmitted, hrest⟩ := ih hshape hfuel'
            simp only [not_ready_of_shape hshape, Bool.false_eq_true, if_false, hbytes]
            exact ⟨ps, hread, hadmitted, hrest⟩
          · have hfresh : Partial payload new := Nat.zero_lt_two
            obtain ⟨ps, hread, hadmitted, hrest⟩ := ih hfresh hfuel'
            obtain ⟨hready, hget⟩ := ready_of_whole hwhole
            have hnext : s.pending ++ buf = framing.frame ⟨s'.buffer, hwhole.2.2.2⟩ ++ (new.pending ++ buf') := by
              rw [hbytes, pending_of_whole hwhole]
              rfl
            simp only [hready, if_true, hget]
            have hfirst : Admitted payload ⟨s'.buffer, hwhole.2.2.2⟩ := fun hrefused =>
              hrefused.elim (Nat.ne_of_gt hwhole.2.1) (Nat.not_lt.mpr hwhole.2.2.1)
            refine ⟨⟨s'.buffer, hwhole.2.2.2⟩ :: ps, congrArg (s'.buffer :: ·) hread,
              List.forall_mem_cons.mpr ⟨hfirst, hadmitted⟩, hrest.imp ?_ ?_⟩
            · rintro ⟨t, ht, hshape, heq⟩
              exact ⟨t, ht, hshape, by rw [hnext, heq, List.flatMap_cons, List.append_assoc]⟩
            · rintro ⟨ht, size, hsize, hrefused, rest, heq⟩
              exact ⟨ht, size, hsize, hrefused, rest, by rw [hnext, heq, List.flatMap_cons, List.append_assoc]⟩

end Link

/-- Two links with the byte stream of each direction, of which the other end has read the first bytes. -/
structure Connection where
  near : Link
  far : Link
  nearTaken : Nat
  farTaken : Nat

/-- What may happen to one end by itself. -/
inductive LinkEvent
  | send (p : StreamPacket)
  | sent (bytesSent : Option Nat)
  | stop
  | eof
  | error

def Link.react (l : Link) : LinkEvent → Link
  | .send p => (l.send p).2
  | .sent bytesSent => l.sent bytesSent
  | .stop => l.stop
  | .eof => l.handleRecv .eof
  | .error => l.handleRecv .error

inductive Action
  | near (e : LinkEvent)
  | far (e : LinkEvent)
  | nearReads (n : Nat)
  | farReads (n : Nat)

/-- The next `n` bytes of a stream arrive at an end that has read `taken` of them; a link that
stopped reads no more. -/
def Link.reads (l : Link) (wire : List UInt8) (taken n : Nat) : Option Link :=
  if l.halt = false ∧
    taken + n ≤ wire.length then some (l.handleRecv (.bytes ((wire.drop taken).take n))) else none

namespace Connection

def step (c : Connection) : Action → Option Connection
  | .near e => some { c with near := c.near.react e }
  | .far e => some { c with far := c.far.react e }
  | .nearReads n =>
      (c.near.reads c.far.wire c.nearTaken n).map fun l => { c with near := l, nearTaken := c.nearTaken + n }
  | .farReads n =>
      (c.far.reads c.near.wire c.farTaken n).map fun l => { c with far := l, farTaken := c.farTaken + n }

end Connection

namespace Link

variable {s r : Link} {taken : Nat}

/-- The stream of a link is made of the packets it took to send. What is still to come is its queue,
until it stops with a send that the socket finished behind its back. -/
def Sends (s : Link) : Prop :=
  ∃ rest, s.wire ++ rest = s.accepted.flatMap framing.frame ∧
    (s.halt = false ∨ s.sending = true ∨ s.queue = [] → rest = s.queue.flatten)

theorem Sends.queued {s : Link} (h : s.Sends) (hgo : s.halt = false ∨ s.sending = true ∨ s.queue = []) :
    s.wire ++ s.queue.flatten = s.accepted.flatMap framing.frame := by
  obtain ⟨rest, hbytes, hrest⟩ := h
  rw [← hrest hgo]
  exact hbytes

theorem sends_of_queued {s : Link} (h : s.wire ++ s.queue.flatten = s.accepted.flatMap framing.frame) : s.Sends :=
  ⟨s.queue.flatten, h, fun _ => rfl⟩

/-- What a link made of the bytes it has read. -/
structure Reads (r : Link) (bytes : List UInt8) (ps : List StreamPacket) : Prop where
  read : r.read = ps.map StreamPacket.bytes
  admitted : ∀ p ∈ ps, Admitted r.payload p
  rest : Partial r.payload r.pktstream ∧ "TCP_SIZE_ERROR" ∉ r.errors ∧ bytes = ps.flatMap framing.frame ++
      r.pktstream.pending ∨
    r.halt = true ∧ ∃ size < 256 ^ 2, Refused r.payload size ∧ ∃ rest, bytes = ps.flatMap framing.frame ++
      (digits 2 size ++ rest)

/-- A step of one end that leaves what it has read alone and only lengthens its stream. -/
structure Moves (l l' : Link) : Prop where
  payload : l'.payload = l.payload
  wire : l.wire <+: l'.wire
  sends : l.Sends → l'.Sends
  reads : ∀ bytes ps, l.Reads bytes ps → l'.Reads bytes ps

theorem Moves.refl (l : Link) : Moves l l := ⟨rfl, List.prefix_refl _, id, fun _ _ => id⟩

theorem stop_moves (l : Link) : Moves l l.stop := by
  refine ⟨rfl, List.prefix_refl _, ?_, fun bytes ps hreads => ⟨hreads.read, hreads.admitted, ?_⟩⟩
  · rintro ⟨rest, hbytes, hrest⟩
    refine ⟨rest, hbytes, ?_⟩
    rintro (hgo | hgo)
    · cases hgo
    · exact hrest (.inr hgo)
  · refine hreads.rest.imp id ?_
    rintro ⟨-, hrefused⟩
    exact ⟨rfl, hrefused⟩

theorem Moves.trans {l m n : Link} (h : Moves l m) (h' : Moves m n) : Moves l n :=
  ⟨h'.payload.trans h.payload, h.wire.trans h'.wire, h'.sends ∘ h.sends,
    fun bytes ps => h'.reads bytes ps ∘ h.reads bytes ps⟩

theorem fail_moves (l : Link) {error : String} (h : error ≠ "TCP_SIZE_ERROR") : Moves l (l.fail error) := by
  have herror : Moves l { l with errors := l.errors ++ [error] } := by
    refine ⟨rfl, List.prefix_refl _, id,
        fun bytes ps hreads => ⟨hreads.read, hreads.admitted, hreads.rest.imp ?_ id⟩⟩
    rintro ⟨hshape, hnone, hbytes⟩
    refine ⟨hshape, ?_, hbytes⟩
    intro hmem
    rcases List.mem_append.mp hmem with hmem | hmem
    · exact hnone hmem
    · exact h (List.mem_singleton.mp hmem).symm
  exact herror.trans (stop_moves _)

/-- The socket sends what the link accepted, whole or in parts. -/
theorem sent_moves (l : Link) (bytesSent : Option Nat) : Moves l (l.sent bytesSent) := by
  rw [sent.eq_def]
  split
  · rename_i buf queue hsending hqueue
    have hbytes (h : l.Sends) : l.wire ++ (buf ++ queue.flatten) = l.accepted.flatMap framing.frame := by
      have hqueued := h.queued (.inr (.inl hsending))
      rwa [hqueue, List.flatten_cons] at hqueued
    -- a link that goes no further knows nothing of the bytes the socket took
    have hlost :
        l.Sends → ∃ rest, l.wire ++ buf.take (bytesSent.getD 0) ++ rest = l.accepted.flatMap framing.frame :=
      fun h => ⟨buf.drop (bytesSent.getD 0) ++ queue.flatten, by
        rw [List.append_assoc, ← List.append_assoc (buf.take _), List.take_append_drop]
        exact hbytes h⟩
    have hkeeps {l' : Link} (hpayload : l'.payload = l.payload)
        (hwire : l'.wire = l.wire ++ buf.take (bytesSent.getD 0))
        (hread : l'.read = l.read) (hstream : l'.pktstream = l.pktstream) (hsends : l.Sends → l'.Sends)
        (herrors : "TCP_SIZE_ERROR" ∈ l'.errors → "TCP_SIZE_ERROR" ∈ l.errors)
          (hhalt : l.halt = true → l'.halt = true) :
        Moves l l' := by
      refine ⟨hpayload, ⟨_, hwire.symm⟩, hsends, fun bytes ps h => ⟨hread.trans h.read, hpayload ▸ h.admitted, ?_⟩⟩
      rw [hpayload, hstream]
      exact h.rest.imp (fun hrest => ⟨hrest.1, hrest.2.1 ∘ herrors, hrest.2.2⟩) fun hrest =>
          ⟨hhalt hrest.1, hrest.2⟩
    have hfails {error : String} (h : error ≠ "TCP_SIZE_ERROR") :
        Moves l ({ l with sending := false, wire := l.wire ++ buf.take (bytesSent.getD 0) }.fail error) := by
      refine hkeeps rfl rfl rfl rfl ?_ ?_ (fun _ => rfl)
      · intro hs
        obtain ⟨rest, hrest⟩ := hlost hs
        refine ⟨rest, hrest, ?_⟩
        rintro (hgo | hgo | hgo)
        · cases hgo
        · cases hgo
        · exact absurd (hqueue.symm.trans hgo) (List.cons_ne_nil _ _)
      · intro hmem
        rcases List.mem_append.mp hmem with hmem | hmem
        · exact hmem
        · exact absurd (List.mem_singleton.mp hmem).symm h
    rw [handleSend.eq_def]
    split
    · rename_i hhalt
      have hhalt : l.halt = true := hhalt
      refine hkeeps rfl rfl rfl rfl ?_ id id
      intro hs
      obtain ⟨rest, hrest⟩ := hlost hs
      refine ⟨rest, hrest, ?_⟩
      rintro (hgo | hgo | hgo)
      · rw [show l.halt = false from hgo] at hhalt
        cases hhalt
      · cases hgo
      · exact absurd (hqueue.symm.trans hgo) (List.cons_ne_nil _ _)
    · split
      · exact hfails (by decide)
      · rename_i n _
        split
        · rename_i hwhole
          refine hkeeps rfl rfl rfl rfl (fun hs => sends_of_queued ?_) id id
          show l.wire ++ buf.take n ++ queue.flatten = l.accepted.flatMap framing.frame
          rw [hwhole, List.take_length, List.append_assoc]
          exact hbytes hs
        · split
          · refine hkeeps rfl rfl rfl rfl (fun hs => sends_of_queued ?_) id id
            show l.wire ++ buf.take n ++ (buf.drop n :: queue).flatten = l.accepted.flatMap framing.frame
            rw [List.flatten_cons, List.append_assoc, ← List.append_assoc (buf.take n), List.take_append_drop]
            exact hbytes hs
          · exact hfails (by decide)
  · exact .refl l

theorem send_moves (l : Link) (p : StreamPacket) : Moves l (l.send p).2 := by
  rw [send]
  split
  · exact .refl l
  · rename_i hgo
    split
    · exact fail_moves l (by decide)
    · refine ⟨rfl, List.prefix_refl _, fun hsends => sends_of_queued ?_,
        fun bytes ps h => ⟨h.read, h.admitted, h.rest⟩⟩
      have hqueued := hsends.queued (.inl (Bool.eq_false_iff.mpr hgo))
      simp only [List.flatten_append, List.flatten_singleton, List.flatMap_append, List.flatMap_singleton]
      rw [← List.append_assoc, hqueued]
      rfl

theorem react_moves (l : Link) (e : LinkEvent) : Moves l (l.react e) := by
  cases e with
  | send p => exact send_moves l p
  | sent bytesSent => exact sent_moves l bytesSent
  | stop => exact stop_moves l
  | eof => exact .refl l
  | error =>
      show Moves l (if l.halt then l else l.fail "NETWORK_RECV_ERROR")
      split
      · exact .refl l
      · exact fail_moves l (by decide)

/-- Bytes that arrive are split into packets where the packets before them ended. -/
theorem reads_cases {bytes wire : List UInt8} {ps : List StreamPacket} {n : Nat} {l' : Link} (h : r.Reads bytes ps)
    (hreads : r.reads wire taken n = some l') :
    r.halt = false ∧ taken + n ≤ wire.length ∧ l'.wire = r.wire ∧ l'.queue = r.queue ∧ l'.accepted = r.accepted ∧
      ∃ qs, l'.Reads (bytes ++ (wire.drop taken).take n) (ps ++ qs) := by
  rw [reads] at hreads
  split at hreads
  · rename_i hgo
    obtain rfl := Option.some.inj hreads
    obtain ⟨hshape, hnone, hbytes⟩ := h.rest.resolve_right fun hhalt => by
      rw [hgo.1] at hhalt
      exact Bool.false_ne_true hhalt.1
    obtain ⟨qs, hread, hadmitted, hrest⟩ := takePackets_cases ((wire.drop taken).take n).length hshape le_rfl
    refine ⟨hgo.1, hgo.2, ?_⟩
    simp only [handleRecv, hgo.1, Bool.false_eq_true, if_false]
    generalize takePackets r.payload ((wire.drop taken).take n).length r.pktstream
      ((wire.drop taken).take n) = taken' at *
    obtain ⟨pkts, stream⟩ := taken'
    have hall : ∀ p ∈ ps ++ qs, Admitted r.payload p := List.forall_mem_append.mpr ⟨h.admitted, hadmitted⟩
    have hpkts : r.read ++ pkts = (ps ++ qs).map StreamPacket.bytes := by
      rw [h.read, List.map_append]
      exact congrArg _ hread
    have hframes (more rest : List UInt8)
        (hmore : r.pktstream.pending ++ more = qs.flatMap framing.frame ++ rest) :
        bytes ++ more = (ps ++ qs).flatMap framing.frame ++ rest := by
      rw [hbytes, List.append_assoc, hmore, List.flatMap_append, List.append_assoc]
    rcases hrest with ⟨stream', hstream, hshape', hmore⟩ | ⟨hstream, size, hsize, hrefused, rest, hmore⟩
    · obtain rfl : stream = some stream' := hstream
      exact ⟨rfl, rfl, rfl, qs, hpkts, hall, .inl ⟨hshape', hnone, hframes _ _ hmore⟩⟩
    · obtain rfl : stream = none := hstream
      exact ⟨rfl, rfl, rfl, qs, hpkts, hall, .inr ⟨rfl, size, hsize, hrefused, rest, hframes _ _ hmore⟩⟩
  · cases hreads

end Link

namespace Connection

open Link

/-- One direction: a link, the other end, and how much of the stream that end has read. -/
structure Direction (s r : Link) (taken : Nat) : Prop where
  sends : s.Sends
  fits : taken ≤ s.wire.length
  reads : ∃ ps, r.Reads (s.wire.take taken) ps

variable {s s' r r' : Link} {taken n : Nat}

theorem Direction.moves (h : Direction s r taken) (hs : Link.Moves s s') (hr : Link.Moves r r') :
    Direction s' r' taken := by
  obtain ⟨ps, hps⟩ := h.reads
  obtain ⟨more, hmore⟩ := hs.wire
  refine ⟨hs.sends h.sends, h.fits.trans hs.wire.length_le, ps, hr.reads _ ps ?_⟩
  rw [← hmore, List.take_append_of_le_length h.fits]
  exact hps

theorem Direction.reads_more (h : Direction s r taken) (hreads : r.reads s.wire taken n = some r') :
    Direction s r' (taken + n) := by
  obtain ⟨ps, hps⟩ := h.reads
  obtain ⟨-, hfits, -, -, -, qs, hqs⟩ := reads_cases hps hreads
  refine ⟨h.sends, hfits, ps ++ qs, ?_⟩
  rw [List.take_add]
  exact hqs

/-- To read does not touch what is sent. -/
theorem Direction.back (h : Direction s r taken) {t : Link} {m : Nat} (ht : Direction t s m)
    (hreads : s.reads t.wire m n = some s') : Direction s' r taken := by
  obtain ⟨ps, hps⟩ := ht.reads
  obtain ⟨hgo, -, hwire, hqueue, haccepted, -⟩ := reads_cases hps hreads
  refine ⟨sends_of_queued ?_, by rw [hwire]; exact h.fits, by rw [hwire]; exact h.reads⟩
  rw [hwire, hqueue, haccepted]
  exact h.sends.queued (.inl hgo)

structure Consistent (c : Connection) : Prop where
  toFar : Direction c.near c.far c.farTaken
  toNear : Direction c.far c.near c.nearTaken

def start (near far : Link) : Connection := ⟨near, far, 0, 0⟩

theorem start_consistent (nearMax farMax nearPayload farPayload : Nat) :
    Consistent (start (.init nearMax nearPayload) (.init farMax farPayload)) := by
  have hfresh (max payload : Nat) : (Link.init max payload).Reads [] [] :=
    ⟨rfl, List.forall_mem_nil _, .inl ⟨Nat.zero_lt_two, List.not_mem_nil, rfl⟩⟩
  exact ⟨⟨sends_of_queued rfl, le_rfl, [], hfresh farMax farPayload⟩,
    ⟨sends_of_queued rfl, le_rfl, [], hfresh nearMax nearPayload⟩⟩

theorem step_consistent {c c' : Connection} {a : Action} (h : Consistent c) (hstep : c.step a = some c') :
    Consistent c' := by
  cases a with
  | near e =>
      obtain rfl := Option.some.inj hstep
      exact ⟨h.toFar.moves (react_moves _ e) (.refl _), h.toNear.moves (.refl _) (react_moves _ e)⟩
  | far e =>
      obtain rfl := Option.some.inj hstep
      exact ⟨h.toFar.moves (.refl _) (react_moves _ e), h.toNear.moves (react_moves _ e) (.refl _)⟩
  | nearReads n =>
      obtain ⟨l, hl, rfl⟩ := Option.map_eq_some_iff.mp hstep
      exact ⟨h.toFar.back h.toNear hl, h.toNear.reads_more hl⟩
  | farReads n =>
      obtain ⟨l, hl, rfl⟩ := Option.map_eq_some_iff.mp hstep
      exact ⟨h.toFar.reads_more hl, h.toNear.back h.toFar hl⟩

/-- What one direction has delivered. -/
structure Delivered (s r : Link) (taken : Nat) : Prop where
  inOrder : r.read <+: s.accepted.map StreamPacket.bytes
  admitted : ∀ bytes ∈ r.read, 0 < bytes.length ∧ bytes.length ≤ r.payload
  refused : "TCP_SIZE_ERROR" ∈ r.errors → ∃ p, s.accepted[r.read.length]? = some p ∧ ¬Admitted r.payload p
  all : r.halt = false → s.queue = [] → taken = s.wire.length → r.read = s.accepted.map StreamPacket.bytes

theorem Direction.delivered (h : Direction s r taken) : Delivered s r taken := by
  obtain ⟨ps, hread, hadmitted, hrest⟩ := h.reads
  obtain ⟨unsent, hsends, hunsent⟩ := h.sends
  have hstream (rest : List UInt8) (hbytes : s.wire.take taken = ps.flatMap framing.frame ++ rest) :
      ps.flatMap framing.frame ++ rest ++ (s.wire.drop taken ++ unsent) = s.accepted.flatMap framing.frame := by
    rw [← hbytes, ← List.append_assoc, List.take_append_drop]
    exact hsends
  constructor
  · rw [hread]
    rcases hrest with ⟨-, -, hbytes⟩ | ⟨-, size, -, -, rest, hbytes⟩
    · exact (leading_of_frames (hstream _ hbytes)).map _
    · exact (leading_of_frames (hstream _ hbytes)).map _
  · intro bytes hmem
    rw [hread] at hmem
    obtain ⟨p, hp, rfl⟩ := List.mem_map.mp hmem
    have hp' := not_or.mp (hadmitted p hp)
    exact ⟨Nat.pos_of_ne_zero hp'.1, Nat.le_of_not_lt hp'.2⟩
  · intro herror
    rcases hrest with ⟨-, hnone, -⟩ | ⟨-, size, hsize, hrefused, rest, hbytes⟩
    · exact absurd herror hnone
    · have hhead : digits 2 size ≠ [] := fun hnil => by
        have hlength := congrArg List.length hnil
        simp at hlength
      obtain ⟨p, hp, tail, htail⟩ := next_of_frames hhead (hstream _ hbytes)
      refine ⟨p, by rw [hread, List.length_map]; exact hp, ?_⟩
      have hframe : digits 2 size ++ (rest ++ (s.wire.drop taken ++ unsent)) =
          digits 2 p.bytes.length ++ (p.bytes ++ tail) := by
        rw [← List.append_assoc, htail, ← List.append_assoc]
        rfl
      have hdigits := (List.append_inj hframe (by rw [length_digits, length_digits])).1
      have hsame : size = p.bytes.length := by rw [← value_digits hsize, hdigits, value_digits p.fits]
      exact fun hadmit => hadmit (hsame ▸ hrefused)
  · intro hgo hqueue htaken
    rcases hrest with ⟨hshape, -, hbytes⟩ | ⟨hhalt, -⟩
    · have hwhole := hstream _ hbytes
      rw [hunsent (.inr (.inr hqueue)), hqueue, htaken, List.drop_length, List.flatten_nil, List.append_nil,
        List.append_nil] at hwhole
      rw [hread, eq_of_frames (incomplete_pending hshape) hwhole]
    · rw [hgo] at hhalt
      cases hhalt

/-- However the socket cuts what is sent and what arrives, each end is given the packets the other
took to send, whole, in their order and up to the first that it refuses. -/
theorem stream_delivers (nearMax farMax nearPayload farPayload : Nat) (as : List Action) :
    Library.Runs.Throughout step (fun c =>
      Delivered c.near c.far c.farTaken ∧ Delivered c.far c.near c.nearTaken)
      (start (.init nearMax nearPayload) (.init farMax farPayload)) as := by
  have hinv :
      Library.Runs.Throughout step Consistent (start (.init nearMax nearPayload) (.init farMax farPayload)) as :=
    Library.Runs.throughout_of_invariant (fun _ _ _ h hstep => step_consistent h hstep)
      (start_consistent _ _ _ _) as
  exact hinv.mono fun c hc => ⟨hc.toFar.delivered, hc.toNear.delivered⟩

end Connection

end OpenVPNAdapter.Transport
