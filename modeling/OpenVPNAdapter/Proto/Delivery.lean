import OpenVPNAdapter.Proto.ControlChannel

namespace OpenVPNAdapter.Proto.KeyContext

open ControlChannel MessageWindow PacketId

variable {k peer : KeyContext}

/-- An id is only acknowledged when the peer may be told of it. -/
theorem ack_quiet (h : Owes k peer) {id : UInt32} (hid : id.toNat < k.numbered.length)
    (hanswers : peer.Answers id.toNat) :
    Quiet peer k { k with relSend := k.relSend.ack id } := by
  obtain ⟨hle, -, hslot, hskipped⟩ := rmById_cases k.relSend.window id
  have hhead : (k.relSend.window.rmById id).headId.toNat ≤ k.numbered.length := by
    by_contra hlt
    have hunsent := (h.unsent _ le_rfl).1
    rcases hskipped k.numbered.length h.head (by omega) with he | he
    · omega
    · exact Bool.false_ne_true (hunsent.symm.trans he)
  refine ⟨⟨⟨rfl, List.prefix_refl _, fun _ hn => hn⟩, ?_, rfl⟩, rfl⟩
  exact {
    next := h.next
    head := hhead
    released := fun n hn => by
      by_cases hold : n < k.relSend.window.headId.toNat
      · exact h.released n hold
      · rcases hskipped n (by omega) hn with rfl | he
        · exact hanswers
        · have hn' : n < (k.relSend.window.rmById id).headId.toNat := hn
          refine (h.unacked n (by omega) (by omega)).resolve_right fun hkept => ?_
          exact Bool.false_ne_true (hkept.1.symm.trans he)
    unacked := fun n hn hlt => by
      have hn' : (k.relSend.window.rmById id).headId.toNat ≤ n := hn
      show _ ∨ ((k.relSend.window.rmById id).slot n).erased = false ∧
        ((k.relSend.window.rmById id).slot n).packet.isSome = true
      rw [hslot n hn']
      split
      · rename_i hacked
        exact .inl (hacked.2 ▸ hanswers)
      · exact h.unacked n (hle.trans hn') hlt
    pending := fun n q hn hq => by
      have hn' : (k.relSend.window.rmById id).headId.toNat ≤ n := hn
      have hq' : ((k.relSend.window.rmById id).slot n).packet = some q := hq
      show _ ∧ ∃ p, _ ∧ Carries k peer n p ((k.relSend.window.rmById id).slot n)
      rw [hslot n hn'] at hq' ⊢
      split at hq'
      · cases hq'
      · rename_i hacked
        rw [if_neg hacked]
        exact h.pending n q (hle.trans hn') hq'
    unsent := fun n hn => by
      show ((k.relSend.window.rmById id).slot n).erased = false ∧
          ((k.relSend.window.rmById id).slot n).packet = none
      rw [hslot n (hhead.trans hn), if_neg (by rintro ⟨-, rfl⟩; exact absurd hid (Nat.not_lt.mpr hn))]
      exact h.unsent n hn
    sent := h.sent
    passed := h.passed
    passedLe := h.passedLe
    received := h.received
    acks := h.acks
    maxAckList := h.maxAckList
    psid := h.psid
    pidForm := h.pidForm
    queued := h.queued
    plain := h.plain }

theorem acked_quiet (h : Owes k peer) {ids : List UInt32}
    (hids : ∀ id ∈ ids, id.toNat < k.numbered.length ∧ peer.Answers id.toNat) :
    Quiet peer k { k with relSend := ids.foldl ReliableSend.ack k.relSend } := by
  induction ids generalizing k with
  | nil => exact .refl h
  | cons id ids ih =>
      obtain ⟨⟨hid, hanswers⟩, hrest⟩ := List.forall_mem_cons.mp hids
      have hmoves := ack_quiet h hid hanswers
      exact hmoves.trans (ih hmoves.owes hrest)

/-- The first packet of a peer tells its session id. -/
theorem met_quiet (h : Owes k peer) (pids : PacketIDReceive .standard) :
    Quiet peer k { k with psidPeer := some peer.config.psidSelf, taPidRecv := pids } := by
  refine ⟨⟨⟨rfl, List.prefix_refl _, fun _ hn => hn⟩, ?_, rfl⟩, rfl⟩
  exact ⟨h.next, h.head, h.released, h.unacked, h.pending, h.unsent, h.sent, h.passed, h.passedLe,
    h.received, h.acks,
    h.maxAckList, .inr rfl, h.pidForm, h.queued, h.plain⟩

/-- A message is placed where its id puts it. -/
theorem placed_quiet (h : Owes k peer) {id : UInt32} {p : Packet} {window : MessageWindow (RecvMessage Packet)}
    (hp : peer.numbered[id.toNat]? = some p)
    (hwindow : (k.relRecv.window.refById id fun m => { m with id := id, packet := some p }) = some window) :
    Quiet peer k { k with relRecv := ⟨window⟩ } ∧
      ({ k with relRecv := ⟨window⟩ } : KeyContext).Answers id.toNat := by
  obtain ⟨hin, hhead, -, hslot⟩ := refById_cases hwindow
  have hle := (inWindow_iff.mp hin).1
  have hgrows : Grows k { k with relRecv := ⟨window⟩ } := by
    refine ⟨rfl, List.prefix_refl _, fun n hn => hn.imp_left fun hn => ?_⟩
    show n < window.headId.toNat ∨ (window.slot n).packet.isSome = true
    rw [hhead]
    by_cases hlt : n < k.relRecv.window.headId.toNat
    · exact .inl hlt
    · refine .inr ?_
      rw [hslot n (Nat.le_of_not_lt hlt)]
      split
      · rfl
      · exact hn.resolve_left hlt
  refine ⟨⟨⟨hgrows, ?_, rfl⟩, rfl⟩, .inl (.inr ?_)⟩
  · exact {
      next := h.next
      head := h.head
      released := h.released
      unacked := h.unacked
      pending := h.pending
      unsent := h.unsent
      sent := fun buf hbuf => (h.sent buf hbuf).grows hgrows (.refl peer)
      passed := by
        show k.passed = peer.numbered.take window.headId.toNat
        rw [hhead]
        exact h.passed
      passedLe := by
        show window.headId.toNat ≤ _
        rw [hhead]
        exact h.passedLe
      received := fun n q hn hq => by
        have hn' : k.relRecv.window.headId.toNat ≤ n := hhead ▸ hn
        have hq' : (window.slot n).packet = some q := hq
        rw [hslot n hn'] at hq'
        split at hq'
        · rename_i heq
          obtain rfl := Option.some.inj hq'
          rw [heq, hp]
        · exact h.received n q hn' hq'
      acks := fun i hi => ⟨(h.acks i hi).1, hgrows.answers _ (h.acks i hi).2⟩
      maxAckList := h.maxAckList
      psid := h.psid
      pidForm := h.pidForm
      queued := h.queued
      plain := h.plain }
  · show (window.slot id.toNat).packet.isSome = true
    rw [hslot _ hle, if_pos rfl]
    rfl

theorem pushAck_quiet (h : Owes k peer) (hpsid : k.psidPeer = some peer.config.psidSelf) {id : UInt32}
    (hid : id.toNat < peer.numbered.length) (hanswers : k.Answers id.toNat) : Quiet peer k (k.pushAck id) := by
  refine ⟨⟨⟨rfl, List.prefix_refl _, fun _ hn => hn⟩, ?_, rfl⟩, rfl⟩
  exact ⟨h.next, h.head, h.released, h.unacked, h.pending, h.unsent, h.sent, h.passed, h.passedLe, h.received,
    fun i hi => (List.mem_append.mp hi).elim (h.acks i) fun hi => by
      obtain rfl := List.mem_singleton.mp hi
      exact ⟨hid, hanswers⟩,
    h.maxAckList, .inr hpsid, h.pidForm, h.queued, h.plain⟩

/-- What is taken for a replay is acknowledged all the same. -/
theorem replay_quiet (h : Owes k peer) (hpsid : k.psidPeer = some peer.config.psidSelf) {id : UInt32}
    (hid : id.toNat < peer.numbered.length) (hwrapped : k.config.tlsWrapMode ≠ .plain) :
    Quiet peer k { k.pushAck id with replayed := k.replayed ++ [id] } := by
  have hgrows : Grows k { k with replayed := k.replayed ++ [id] } := by
    refine ⟨rfl, List.prefix_refl _, fun n hn => hn.imp_right ?_⟩
    rintro ⟨i, hi, heq⟩
    exact ⟨i, List.mem_append_left _ hi, heq⟩
  have hmoves : Quiet peer k { k with replayed := k.replayed ++ [id] } := by
    refine ⟨⟨hgrows, ?_, rfl⟩, rfl⟩
    exact ⟨h.next, h.head, h.released, h.unacked, h.pending, h.unsent,
      fun buf hbuf => (h.sent buf hbuf).grows hgrows (.refl peer), h.passed, h.passedLe, h.received,
      fun i hi => ⟨(h.acks i hi).1, hgrows.answers _ (h.acks i hi).2⟩, h.maxAckList, h.psid, h.pidForm,
        h.queued, fun hplain => absurd hplain hwrapped⟩
  exact hmoves.trans
      (pushAck_quiet hmoves.owes hpsid hid (.inr ⟨id, List.mem_append_right _ List.mem_cons_self, rfl⟩))

theorem testPid_cases (k : KeyContext) (now : Nat) (pid : Option PacketID) (mod : Bool) :
    ∃ ok pids, k.testPid now pid mod = (ok, { k with taPidRecv := pids }) ∧ (pid = none → ok = true) := by
  cases pid with
  | none => exact ⟨true, k.taPidRecv, rfl, fun _ => rfl⟩
  | some pid =>
      simp only [testPid]
      cases k.taPidRecv.doTestAdd pid (secondsSinceEpoch now) mod with
      | none => exact ⟨false, k.taPidRecv, rfl, fun h => by cases h⟩
      | some result => exact ⟨_, result.2, rfl, fun h => by cases h⟩

/-- A message of the peer is placed, or it is acknowledged, or it is ignored. -/
theorem receiveMessage_quiet (h : Owes k peer) (hpsid : k.psidPeer = some peer.config.psidSelf) (now : Nat)
    {opcode : Opcode} {pid : Option PacketID} (hpid : k.config.tlsWrapMode = .plain → pid = none) (pidOk : Bool)
    {tail : List UInt8} (htail : Tail peer.numbered opcode tail) :
    Quiet peer k (k.receiveMessage now opcode pid pidOk tail).2 := by
  have htest (k' : KeyContext) (h' : Quiet peer k k') : Quiet peer k (k'.testPid now pid true).2 := by
    obtain ⟨ok, pids, heq, -⟩ := testPid_cases k' now pid true
    rw [heq]
    exact h'.trans ⟨h'.owes.of_core rfl h'.owes.queued rfl, rfl⟩
  rw [receiveMessage]
  rw [Tail] at htail
  split
  · split
    · exact htest k (.refl h)
    · exact .refl h
  · rename_i hack
    rw [if_neg hack] at htail
    obtain ⟨id, p, rfl, hp, rfl⟩ := htail
    have hid := (List.getElem?_eq_some_iff.mp hp).1
    rw [ReliableAck.readId_prependId]
    simp only
    split
    · cases hwindow : k.relRecv.window.refById id fun m => { m with id := id, packet := some p } with
      | some window =>
          obtain ⟨hplaced, hanswers⟩ := placed_quiet h hp hwindow
          have hreceive : k.relRecv.receive ⟨p.opcode, p.buf⟩ id = (⟨true, true⟩, ⟨window⟩) := by
            simp only [ReliableRecv.receive, hwindow]
          rw [hreceive]
          exact htest _ (hplaced.trans (pushAck_quiet hplaced.owes hpsid hid hanswers))
      | none =>
          have hreceive :
              k.relRecv.receive ⟨p.opcode, p.buf⟩ id = (⟨k.relRecv.window.preWindow id, false⟩, k.relRecv) := by
            simp only [ReliableRecv.receive, hwindow]
          rw [hreceive]
          cases hpre : k.relRecv.window.preWindow id with
          | true => exact pushAck_quiet h hpsid hid (.inl (.inl (preWindow_iff.mp hpre)))
          | false => exact .refl h
    · split
      · rename_i hvalid
        refine replay_quiet h hpsid hid fun hplain => ?_
        rw [hpid hplain] at hvalid
        cases hvalid
      · exact .refl h

/-- The HMAC, where there is one. -/
def hmacVerifies (k : KeyContext) (buf : List UInt8) : Bool :=
  match k.config.tlsWrapMode with
  | .plain => true
  | .auth _ hmacRecv => hmacRecv.ovpnHmacCmp buf 9 hmacRecv.size packetIdSize

/-- A head is read as it was written, and a plain one carries no packet id. -/
theorem decapsulate_headed {c : Config} (hwraps : k.config.tlsWrapMode = c.tlsWrapMode.peer) {opcode : Opcode}
    {body buf : List UInt8} (hhead : Headed c opcode body buf) (now : Nat) :
    ∃ pid rest, (k.config.tlsWrapMode = .plain → pid = none) ∧
      buf = opCompose opcode c.keyId :: c.psidSelf.prepend rest ∧
      k.hmacVerifies buf = true ∧
      k.decapsulate now ⟨opcode, buf⟩ = k.decapsulatePostProcess now opcode c.psidSelf pid body := by
  rw [Headed] at hhead
  rw [decapsulate, hmacVerifies, hwraps]
  cases hmode : c.tlsWrapMode with
  | plain =>
      rw [hmode] at hhead
      obtain rfl := hhead
      refine ⟨none, body, fun _ => rfl, rfl, rfl, ?_⟩
      simp only [genHeadTlsPlain, List.drop_succ_cons, List.drop_zero, ProtoSessionID.read_prepend,
          TLSWrapMode.peer]
  | auth hmacSend hmacRecv =>
      rw [hmode] at hhead
      obtain ⟨pid, hgen⟩ := hhead
      have hsize : (pid.write .long).length = packetIdSize := by simp [PacketID.write, packetIdSize]
      have hnine : (opCompose opcode c.keyId :: c.psidSelf.id).length = 9 := by
        rw [List.length_cons, c.psidSelf.size]
      obtain ⟨hmac, hhmac, hgen', hcmp⟩ := hmacSend.ovpnHmac_generated (opCompose opcode c.keyId :: c.psidSelf.id)
        (List.replicate hmacSend.size 0) (pid.write .long) body List.length_replicate
      rw [hnine, hsize] at hgen' hcmp
      obtain rfl := Option.some.inj (hgen'.symm.trans hgen)
      have hread : ProtoSessionID.read (c.psidSelf.id ++ (hmac ++ (pid.write .long ++ body))) =
          some (c.psidSelf, hmac ++ (pid.write .long ++ body)) := ProtoSessionID.read_prepend _ _
      have hfits : ¬(hmac ++ (pid.write .long ++ body)).length < hmacSend.size := by
        rw [List.length_append, hhmac]
        omega
      refine ⟨some (pid.sent .long), hmac ++ (pid.write .long ++ body), (fun hplain => by cases hplain),
          rfl, hcmp, ?_⟩
      · simp only [List.cons_append, List.drop_succ_cons, List.drop_zero, hread, TLSWrapMode.peer, if_neg hfits]
        rw [List.cons_append] at hcmp
        rw [if_pos hcmp, List.drop_left' hhmac, read_write]

/-- The acks of a packet are applied, unless it fails the replay check, and its message is received. -/
theorem decapsulatePostProcess_body {src : ProtoSessionID}
    (hpsid : k.psidPeer = none ∨ k.psidPeer = some src) (now : Nat)
    (opcode : Opcode) (pid : Option PacketID) {acks : List UInt32} (hacks : acks.length < 256)
    (tail : List UInt8) :
    ∃ pids pidOk, (pid = none → pidOk = true) ∧
      k.decapsulatePostProcess now opcode src pid (body acks k.config.psidSelf tail) =
        { k with
          psidPeer := some src
          taPidRecv := pids
          relSend := if pidOk then acks.foldl ReliableSend.ack k.relSend else k.relSend }.receiveMessage
            now opcode pid pidOk tail := by
  have hsrc : k.verifySrcPsid src = (true, { k with psidPeer := some src }) := by
    rcases hpsid with hnone | hsome
    · simp only [verifySrcPsid, hnone]
    · simp only [verifySrcPsid, hsome, if_true]
      cases k
      cases hsome
      rfl
  obtain ⟨pidOk, pids, htest, hplain⟩ := testPid_cases { k with psidPeer := some src } now pid false
  refine ⟨pids, pidOk, hplain, ?_⟩
  simp only [decapsulatePostProcess, hsrc, if_true, htest, body, ReliableAck.ack_counted pidOk hacks]
  cases acks with
  | nil => rfl
  | cons id acks =>
      simp only [List.length_cons, if_neg (List.cons_ne_nil id acks), ProtoSessionID.read_prepend, if_true]

/-- The datagram passes the checks on its HMAC and on the session ids, what it acknowledges may be
acknowledged, and its message is received without an exception. -/
structure Accepts (k peer : KeyContext) (now : Nat) (p : Packet) : Prop where
  hmac : k.hmacVerifies p.buf = true
  source : ∃ rest, ProtoSessionID.read (p.buf.drop 1) = some (peer.config.psidSelf, rest) ∧
    (k.verifySrcPsid peer.config.psidSelf).1 = true
  received : ∃ pid pids pidOk tail, ∃ acks : List UInt32, (k.config.tlsWrapMode = .plain → pid = none) ∧
      (pid = none → pidOk = true) ∧
    (∀ id ∈ acks, id.toNat < k.numbered.length ∧ peer.Answers id.toNat) ∧ Tail peer.numbered p.opcode tail ∧
    k.decapsulate now p = { k with
      psidPeer := some peer.config.psidSelf
      taPidRecv := pids
      relSend := if pidOk then acks.foldl ReliableSend.ack k.relSend else k.relSend }.receiveMessage
        now p.opcode pid pidOk tail
  returns : (k.decapsulate now p).1 ≠ .threw

theorem receiveMessage_returns {numbered : List Packet} {opcode : Opcode} {tail : List UInt8}
    (htail : Tail numbered opcode tail)
    (k : KeyContext) (now : Nat) (pid : Option PacketID) (pidOk : Bool) :
    (k.receiveMessage now opcode pid pidOk tail).1 ≠ .threw := by
  rw [receiveMessage]
  rw [Tail] at htail
  split
  · simp
  · rename_i hack
    rw [if_neg hack] at htail
    obtain ⟨id, p, rfl, -⟩ := htail
    rw [ReliableAck.readId_prependId]
    simp only
    split
    · split <;> simp
    · split <;> simp

/-- A genuine datagram is accepted. -/
theorem genuine_accepted (h : Owes k peer) (hwraps : k.config.tlsWrapMode = peer.config.tlsWrapMode.peer)
    {buf : List UInt8}
    (hbuf : Genuine peer k buf) {p : Packet} (hp : packetOf k.config buf = some p) (now : Nat) :
      Accepts k peer now p := by
  obtain ⟨opcode, acks, tail, hlength, hacks, htail, hhead⟩ := hbuf
  obtain ⟨pid, rest, hpid, hop, hmac, hdecapsulate⟩ := decapsulate_headed hwraps hhead now
  have hpsid := h.psid.imp_left And.left
  obtain ⟨pids, pidOk, hpidOk, hpost⟩ := decapsulatePostProcess_body hpsid now opcode pid hlength tail
  have hpacket : p = ⟨opcode, buf⟩ := by
    rw [hop, packetOf, (extract_opCompose opcode peer.config.keyId).1] at hp
    split at hp
    · rw [Option.filter_some] at hp
      split at hp
      · rw [hop]
        exact (Option.some.inj hp).symm
      · cases hp
    · cases hp
  subst hpacket
  refine ⟨hmac, ⟨rest, ?_, ?_⟩,
      ⟨pid, pids, pidOk, tail, acks, hpid, hpidOk, hacks, htail, hdecapsulate.trans hpost⟩, ?_⟩
  · rw [hop]
    exact ProtoSessionID.read_prepend _ _
  · rcases hpsid with hnone | hsome
    · simp only [verifySrcPsid, hnone]
    · simp only [verifySrcPsid, hsome, if_true]
  · rw [hdecapsulate, hpost]
    exact receiveMessage_returns htail _ now pid pidOk

/-- A genuine datagram never fails: it moves the end that receives it on. -/
theorem netRecv_quiet (h : Owes k peer) (hwraps : k.config.tlsWrapMode = peer.config.tlsWrapMode.peer)
    {buf : List UInt8}
    (hbuf : Genuine peer k buf) {p : Packet} (hp : packetOf k.config buf = some p) (now : Nat) :
    Quiet peer k (k.netRecv now p) := by
  obtain ⟨pid, pids, pidOk, tail, acks, hpid, -, hacks, htail, hdecapsulate⟩ :=
      (genuine_accepted h hwraps hbuf hp now).received
  have hmet := met_quiet h pids
  have hacked : Quiet peer k { k with
      psidPeer := some peer.config.psidSelf
      taPidRecv := pids
      relSend := if pidOk then acks.foldl ReliableSend.ack k.relSend else k.relSend } := by
    cases pidOk with
    | true => exact hmet.trans (acked_quiet hmet.owes hacks)
    | false => exact hmet
  have hreceived := hacked.trans (receiveMessage_quiet hacked.owes rfl now hpid pidOk htail)
  rw [netRecv]
  split
  · exact .refl h
  · rw [hdecapsulate]
    revert hreceived
    generalize receiveMessage _ now p.opcode pid pidOk tail = result
    intro hreceived
    obtain ⟨outcome, k'⟩ := result
    cases outcome with
    | placed => exact hreceived.trans (upSequenced_quiet hreceived.owes _)
    | refused => exact hreceived
    | threw => exact hreceived

theorem queues_sendNext (k : KeyContext) (now : Nat) (p : Packet) :
    (k.sendNext now p).queues = (k.numbered ++ [p], k.rawWriteQueue, k.ciphertext) := by
  rw [sendNext]
  cases hwrap : k.encapsulate now k.relSend.next p with
  | none => rfl
  | some result =>
      obtain ⟨buf, k'⟩ := result
      simp only [encapsulate, wrap, Option.bind_eq_some_iff, Option.map_eq_some_iff, Prod.mk.injEq] at hwrap
      obtain ⟨_, -, _, -, -, rfl⟩ := hwrap
      rfl

/-- What a queue loses is numbered in its order. -/
theorem drain_queues (k : KeyContext) (now : Nat) (ps : List Packet) :
    (drain now k ps).1.numbered ++ (drain now k ps).2 = k.numbered ++ ps ∧
      (drain now k ps).1.rawWriteQueue = k.rawWriteQueue ∧ (drain now k ps).1.ciphertext = k.ciphertext := by
  induction ps generalizing k with
  | nil => exact ⟨rfl, rfl, rfl⟩
  | cons p ps ih =>
      rw [drain]
      split
      · exact ⟨rfl, rfl, rfl⟩
      · obtain ⟨hnumbered, hraw, hciphertext⟩ := ih (k.sendNext now p)
        have hqueues := queues_sendNext k now p
        simp only [queues, Prod.mk.injEq] at hqueues
        refine ⟨?_, hraw.trans hqueues.2.1, hciphertext.trans hqueues.2.2⟩
        rw [hnumbered, hqueues.1, List.append_assoc, List.singleton_append]

end OpenVPNAdapter.Proto.KeyContext

namespace OpenVPNAdapter.Proto.ControlChannel

open KeyContext MessageWindow

/-- The ciphertext among packets. -/
def ciphertexts (ps : List Packet) : List (List UInt8) := (ps.filter fun p => !p.isRaw).map Packet.buf

/-- All that the SSL object wrote, numbered or not. -/
def wrote (k : KeyContext) : List (List UInt8) := ciphertexts k.numbered ++ k.ciphertext

def Call.written : Call → List (List UInt8)
  | .sslWrites buf => [buf]
  | _ => []

def Call.fatal : Call → Bool
  | .invalidate => true
  | _ => false

variable {k k' peer peer' : KeyContext} {e e' : Ends}

/-- One turn of an end: what it owes, the ciphertext it was given, and whether it was ended. -/
structure Turn (peer k k' : KeyContext) (written : List (List UInt8)) (fatal : Bool) : Prop where
  grows : Grows k k'
  owes : Owes k' peer
  wrote : wrote k' = wrote k ++ written
  valid : k'.invalidated = (k.invalidated || fatal)

theorem Turn.of_quiet (h : Quiet peer k k') : Turn peer k k' [] false := by
  have hqueues := h.queues
  simp only [queues, Prod.mk.injEq] at hqueues
  refine ⟨h.grows, h.owes, ?_, by rw [h.valid, Bool.or_false]⟩
  rw [ControlChannel.wrote, ControlChannel.wrote, hqueues.1, hqueues.2.2, List.append_nil]

theorem ciphertexts_append (ps qs : List Packet) : ciphertexts (ps ++ qs) = ciphertexts ps ++ ciphertexts qs := by
  rw [ciphertexts, List.filter_append, List.map_append]
  rfl

theorem ciphertexts_control (bufs : List (List UInt8)) : ciphertexts (bufs.map (⟨.controlV1, ·⟩)) = bufs := by
  induction bufs with
  | nil => rfl
  | cons buf bufs ih => exact congrArg (buf :: ·) ih

theorem wrote_downStackRaw (h : Owes k peer) (now : Nat) : wrote (k.downStackRaw now) = wrote k := by
  obtain ⟨hnumbered, -, hciphertext⟩ := drain_queues k now k.rawWriteQueue
  have hnone (ps : List Packet) (hps : ∀ p ∈ ps, p ∈ k.rawWriteQueue) : ciphertexts ps = [] := by
    rw [ciphertexts, List.filter_eq_nil_iff.mpr fun p hp => ?_]
    · rfl
    · have hraw := (h.queued p (hps p hp)).trans_ne (initialOp_cases k.config).2
      simp [Packet.isRaw, hraw]
  have hcipher := congrArg ciphertexts hnumbered
  rw [ciphertexts_append, ciphertexts_append, hnone _ fun p hp => (drain_suffix k now _).subset hp,
    hnone _ fun p hp => hp,
    List.append_nil, List.append_nil] at hcipher
  show ciphertexts (drain now k k.rawWriteQueue).1.numbered ++ (drain now k k.rawWriteQueue).1.ciphertext = _
  rw [hcipher, hciphertext]
  rfl

theorem wrote_downStackApp (k : KeyContext) (now : Nat) : wrote (k.downStackApp now) = wrote k := by
  rw [downStackApp]
  split
  · obtain ⟨hnumbered, -, -⟩ := drain_queues k now (k.ciphertext.map (⟨.controlV1, ·⟩))
    have hrest : ciphertexts (drain now k (k.ciphertext.map (⟨.controlV1, ·⟩))).2 =
        (drain now k (k.ciphertext.map (⟨.controlV1, ·⟩))).2.map Packet.buf := by
      rw [ciphertexts, List.filter_eq_self.mpr fun p hp => ?_]
      obtain ⟨buf, -, rfl⟩ := List.mem_map.mp ((drain_suffix k now _).subset hp)
      rfl
    have hcipher := congrArg ciphertexts hnumbered
    rw [ciphertexts_append, ciphertexts_append, ciphertexts_control, hrest] at hcipher
    exact hcipher
  · rfl

theorem flush_turn (h : Owes k peer) (now : Nat) : Turn peer k (k.flush now) [] false := by
  have hmoves := flush_moves h now
  refine ⟨hmoves.grows, hmoves.owes, ?_, by rw [hmoves.valid, Bool.or_false]⟩
  rw [List.append_nil, flush]
  have hstack : wrote ((k.downStackRaw now).downStackApp now) = wrote k :=
    (wrote_downStackApp _ now).trans (wrote_downStackRaw h now)
  split
  · rfl
  · simp only
    split
    · exact hstack
    · exact hstack

/-- Every call is a turn. -/
theorem call_turn (h : Owes k peer) (now : Nat) (c : Call) : Turn peer k (call k now c) c.written c.fatal := by
  cases c with
  | sendReset =>
      show Turn peer k k.sendReset [] false
      rw [sendReset]
      split
      · exact .of_quiet (.refl h)
      · have hmoves : Moves peer k { k with rawWriteQueue := k.rawWriteQueue ++ [⟨k.config.initialOp, []⟩] } := by
          refine h.of_core rfl (fun p hp => ?_) rfl
          rcases List.mem_append.mp hp with hp | hp
          · exact h.queued p hp
          · exact congrArg Packet.opcode (List.mem_singleton.mp hp)
        exact ⟨hmoves.grows, hmoves.owes, (List.append_nil _).symm, (Bool.or_false _).symm⟩
  | sslWrites buf =>
      have hmoves : Moves peer k { k with ciphertext := k.ciphertext ++ [buf] } := h.of_core rfl h.queued rfl
      exact ⟨hmoves.grows, hmoves.owes, (List.append_assoc _ _ _).symm, (Bool.or_false _).symm⟩
  | startHandshake =>
      show Turn peer k k.startHandshake [] false
      rw [startHandshake]
      split
      · exact .of_quiet (.refl h)
      · have hstarted : Quiet peer k { k with sslStarted := true } := ⟨h.of_core rfl h.queued rfl, rfl⟩
        exact .of_quiet (hstarted.trans (upSequenced_quiet hstarted.owes _))
  | flush => exact flush_turn h now
  | sendPendingAcks => exact .of_quiet (sendPendingAcks_quiet h now)
  | retransmit => exact .of_quiet (retransmit_quiet h now)
  | invalidate =>
      exact ⟨⟨rfl, List.prefix_refl _, fun _ hn => hn⟩,
        ⟨h.next, h.head, h.released, h.unacked, h.pending, h.unsent, h.sent,
        h.passed, h.passedLe, h.received, h.acks, h.maxAckList, h.psid, h.pidForm, h.queued, h.plain⟩,
        (List.append_nil _).symm, (Bool.or_true _).symm⟩

theorem deliver_turn (h : Owes k peer) (hpeer : Owes peer k)
    (hwraps : k.config.tlsWrapMode = peer.config.tlsWrapMode.peer)
    {n now : Nat} (hdeliver : deliver k peer.sent[n]? now = some k') : Turn peer k k' [] false := by
  rw [deliver, Option.map_eq_some_iff] at hdeliver
  obtain ⟨p, hp, rfl⟩ := hdeliver
  obtain ⟨buf, hbuf, hpacket⟩ := Option.bind_eq_some_iff.mp hp
  exact .of_quiet (netRecv_quiet h hwraps (hpeer.sent buf (List.mem_of_getElem? hbuf)) hpacket now)

def Action.nearWritten : Action → List (List UInt8)
  | .near c _ => c.written
  | _ => []

def Action.farWritten : Action → List (List UInt8)
  | .far c _ => c.written
  | _ => []

def Action.nearFatal : Action → Bool
  | .near c _ => c.fatal
  | _ => false

def Action.farFatal : Action → Bool
  | .far c _ => c.fatal
  | _ => false

/-- Both ends owe each other what they should. -/
structure Consistent (e : Ends) : Prop where
  near : Owes e.near e.far
  far : Owes e.far e.near
  wraps : e.far.config.tlsWrapMode = e.near.config.tlsWrapMode.peer

theorem Consistent.wraps_near (h : Consistent e) : e.near.config.tlsWrapMode = e.far.config.tlsWrapMode.peer := by
  rw [h.wraps]
  cases e.near.config.tlsWrapMode <;> rfl

theorem start_consistent (s : Session) : Consistent s.start := ⟨owes_init _ _, owes_init _ _, s.wraps⟩

theorem step_turns (h : Consistent e) {a : Action} (hstep : step e a = some e') :
    Turn e.far e.near e'.near a.nearWritten a.nearFatal ∧ Turn e.near e.far e'.far a.farWritten a.farFatal := by
  cases a with
  | near c now =>
      obtain rfl := Option.some.inj hstep
      exact ⟨call_turn h.near now c, .of_quiet (.refl h.far)⟩
  | far c now =>
      obtain rfl := Option.some.inj hstep
      exact ⟨.of_quiet (.refl h.near), call_turn h.far now c⟩
  | toNear n now =>
      obtain ⟨k, hk, rfl⟩ := Option.map_eq_some_iff.mp hstep
      exact ⟨deliver_turn h.near h.far h.wraps_near hk, .of_quiet (.refl h.far)⟩
  | toFar n now =>
      obtain ⟨k, hk, rfl⟩ := Option.map_eq_some_iff.mp hstep
      exact ⟨.of_quiet (.refl h.near), deliver_turn h.far h.near h.wraps hk⟩

theorem step_consistent (h : Consistent e) {a : Action} (hstep : step e a = some e') : Consistent e' := by
  obtain ⟨hnear, hfar⟩ := step_turns h hstep
  refine ⟨hnear.owes.peer_grows hfar.grows, hfar.owes.peer_grows hnear.grows, ?_⟩
  rw [hnear.grows.config, hfar.grows.config]
  exact h.wraps

/-- What holds along a run that has made the actions `as`. -/
theorem run_turns (h : Consistent e) {as : List Action} (hrun : Library.Runs.run step e as = some e') :
    Consistent e' ∧
      wrote e'.near = wrote e.near ++ as.flatMap Action.nearWritten ∧
      wrote e'.far = wrote e.far ++ as.flatMap Action.farWritten ∧
      e'.near.invalidated = (e.near.invalidated || as.any Action.nearFatal) ∧
      e'.far.invalidated = (e.far.invalidated || as.any Action.farFatal) := by
  induction as generalizing e with
  | nil =>
      obtain rfl := Option.some.inj hrun
      simp [h]
  | cons a as ih =>
      obtain ⟨e₁, hstep, hrest⟩ := Library.Runs.run_cons_eq_some.mp hrun
      obtain ⟨hnear, hfar⟩ := step_turns h hstep
      obtain ⟨hc, hwn, hwf, hin, hif⟩ := ih (step_consistent h hstep) hrest
      refine ⟨hc, ?_, ?_, ?_, ?_⟩
      · rw [hwn, hnear.wrote, List.flatMap_cons, List.append_assoc]
      · rw [hwf, hfar.wrote, List.flatMap_cons, List.append_assoc]
      · rw [hin, hnear.valid, List.any_cons, Bool.or_assoc]
      · rw [hif, hfar.valid, List.any_cons, Bool.or_assoc]

/-- Throughout a run the state is consistent, and it follows from the actions made so far. -/
theorem throughout_of_reached (s : Session) (as : List Action) {P : Ends → Prop}
    (h : ∀ bs e, bs <+: as → Consistent e → wrote e.near = bs.flatMap Action.nearWritten →
      wrote e.far = bs.flatMap Action.farWritten → e.near.invalidated = bs.any Action.nearFatal →
      e.far.invalidated = bs.any Action.farFatal → P e) : Library.Runs.Throughout step P s.start as :=
  Library.Runs.throughout_iff_reached.mpr fun bs e hbs hrun => by
    obtain ⟨hc, hwn, hwf, hin, hif⟩ := run_turns (start_consistent s) hrun
    exact h bs e hbs hc hwn hwf hin hif

theorem passed_leading (h : Owes k peer) : k.passed <+: peer.numbered := h.passed ▸ List.take_prefix _ _

theorem ciphertexts_leading {ps qs : List Packet} (h : ps <+: qs) : ciphertexts ps <+: ciphertexts qs := by
  obtain ⟨more, rfl⟩ := h
  rw [ciphertexts_append]
  exact List.prefix_append _ _

theorem ciphertexts_passed (h : Owes k peer) {bufs : List (List UInt8)} (hwrote : wrote peer = bufs) :
    ciphertexts k.passed <+: bufs :=
  (ciphertexts_leading (passed_leading h)).trans (hwrote ▸ List.prefix_append _ _)

theorem flatMap_leading {α β : Type} (f : α → List β) {as bs : List α} (h : bs <+: as) :
    bs.flatMap f <+: as.flatMap f := by
  obtain ⟨more, rfl⟩ := h
  rw [List.flatMap_append]
  exact List.prefix_append _ _

/-- Whatever the network loses, repeats or reorders, each end passes up the packets that the other
numbered, in their order and each once, and its SSL object is given what the other's wrote. -/
theorem delivers_in_order (s : Session) (as : List Action) :
    Library.Runs.Throughout step (fun e =>
      (e.far.passed <+: e.near.numbered ∧ ciphertexts e.far.passed <+: as.flatMap Action.nearWritten) ∧
      (e.near.passed <+: e.far.numbered ∧ ciphertexts e.near.passed <+: as.flatMap Action.farWritten))
        s.start as :=
  throughout_of_reached s as fun _ _ hbs hc hwn hwf _ _ =>
    ⟨⟨passed_leading hc.far, (ciphertexts_passed hc.far hwn).trans (flatMap_leading _ hbs)⟩,
      ⟨passed_leading hc.near, (ciphertexts_passed hc.near hwf).trans (flatMap_leading _ hbs)⟩⟩

/-- The send window holds the datagram of this packet under this id, to be sent again until it is acknowledged. -/
def Awaits (k peer : KeyContext) (n : Nat) (p : Packet) : Prop :=
  k.relSend.window.headId.toNat ≤ n ∧ Carries k peer n p (k.relSend.window.slot n)

/-- The packet with this id was received, and passed up the stack or kept until its turn. -/
def Has (k : KeyContext) (n : Nat) (p : Packet) : Prop :=
  k.passed[n]? = some p ∨ k.relRecv.window.headId.toNat ≤ n ∧ (k.relRecv.window.slot n).packet = some p

theorem has_of_holds (h : Owes k peer) {n : Nat} {p : Packet} (hp : peer.numbered[n]? = some p) (hn : k.Holds n) :
    Has k n p := by
  by_cases hlt : n < k.relRecv.window.headId.toNat
  · refine .inl ?_
    rw [h.passed, List.getElem?_take_of_lt hlt, hp]
  · have hle := Nat.le_of_not_lt hlt
    obtain ⟨q, hq⟩ := Option.isSome_iff_exists.mp (hn.resolve_left hlt)
    have hqp : q = p := Option.some.inj ((h.received n q hle hq).symm.trans hp)
    exact .inr ⟨hle, hqp ▸ hq⟩

theorem awaits_or_has (h : Owes k peer) (hpeer : Owes peer k) {n : Nat} {p : Packet}
    (hp : k.numbered[n]? = some p) :
    Awaits k peer n p ∨ Has peer n p ∨ peer.config.tlsWrapMode ≠ .plain ∧ ∃ id ∈ peer.replayed, id.toNat = n := by
  have hanswers : Awaits k peer n p ∨ peer.Answers n := by
    by_cases hlt : n < k.relSend.window.headId.toNat
    · exact .inr (h.released n hlt)
    · have hle := Nat.le_of_not_lt hlt
      refine (h.unacked n hle (List.getElem?_eq_some_iff.mp hp).1).elim .inr fun hkept => .inl ⟨hle, ?_⟩
      obtain ⟨q, hq⟩ := Option.isSome_iff_exists.mp hkept.2
      obtain ⟨-, p', hp', hcarries⟩ := h.pending n q hle hq
      obtain rfl := Option.some.inj (hp'.symm.trans hp)
      exact hcarries
  refine hanswers.imp_right fun hn => hn.imp (has_of_holds hpeer hp) fun hreplayed => ⟨fun hplain => ?_, hreplayed⟩
  obtain ⟨id, hid, -⟩ := hreplayed
  rw [hpeer.plain hplain] at hid
  cases hid

/-- No packet is lost: until the other end has it, its sender keeps it to send it again. The
exception is a packet that the other end acknowledged as a replay, which needs packet ids. -/
theorem releases_received (s : Session) (as : List Action) :
    Library.Runs.Throughout step (fun e =>
      (∀ n p, e.near.numbered[n]? = some p → Awaits e.near e.far n p ∨ Has e.far n p ∨
        e.far.config.tlsWrapMode ≠ .plain ∧ ∃ id ∈ e.far.replayed, id.toNat = n) ∧
      (∀ n p, e.far.numbered[n]? = some p → Awaits e.far e.near n p ∨ Has e.near n p ∨
        e.near.config.tlsWrapMode ≠ .plain ∧ ∃ id ∈ e.near.replayed, id.toNat = n)) s.start as :=
  throughout_of_reached s as fun _ _ _ hc _ _ _ _ =>
    ⟨fun _ _ hp => awaits_or_has hc.near hc.far hp, fun _ _ hp => awaits_or_has hc.far hc.near hp⟩

/-- Whatever is to be sent can be encapsulated. -/
def Encapsulates (k : KeyContext) : Prop :=
  ∀ now, (k.generateAck now).isSome ∧ ∀ id p, (k.encapsulate now id p).isSome

/-- Whatever the peer sent, as far as it reaches the key, passes every check, at any time. -/
def Trusts (k peer : KeyContext) : Prop :=
  ∀ buf ∈ peer.sent, ∀ p, packetOf k.config buf = some p → ∀ now, Accepts k peer now p

theorem encapsulates_of_owes (h : Owes k peer) : Encapsulates k := fun now => by
  have hwrap (opcode : Opcode) (tail : List UInt8) : (k.wrap now opcode tail).isSome := by
    obtain ⟨buf, pids, n, heq, -⟩ := wrap_cases h now opcode tail
    rw [heq]
    rfl
  exact ⟨hwrap .ackV1 [], fun id p => hwrap p.opcode (ReliableAck.prependId p.buf id)⟩

/-- Nothing that the ends send each other ends a session, not even on TCP, where an error would: what
they have to send is encapsulated, and what they sent is accepted. -/
theorem traffic_is_never_fatal (s : Session) (as : List Action) :
    Library.Runs.Throughout step (fun e =>
      ((e.near.invalidated = true → as.any Action.nearFatal = true) ∧
        (e.far.invalidated = true → as.any Action.farFatal = true)) ∧
      (Encapsulates e.near ∧ Encapsulates e.far) ∧ Trusts e.near e.far ∧ Trusts e.far e.near) s.start as := by
  refine throughout_of_reached s as fun _ _ hbs hc _ _ hin hif => ?_
  obtain ⟨more, rfl⟩ := hbs
  rw [hin, hif, List.any_append, List.any_append]
  refine ⟨⟨fun h => by rw [h, Bool.true_or], fun h => by rw [h, Bool.true_or]⟩,
    ⟨encapsulates_of_owes hc.near, encapsulates_of_owes hc.far⟩, ?_, ?_⟩
  · exact fun buf hbuf p hp now => genuine_accepted hc.near hc.wraps_near (hc.far.sent buf hbuf) hp now
  · exact fun buf hbuf p hp now => genuine_accepted hc.far hc.wraps (hc.near.sent buf hbuf) hp now

end OpenVPNAdapter.Proto.ControlChannel
