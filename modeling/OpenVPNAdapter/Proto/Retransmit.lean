import Mathlib.Data.List.Nodup
import OpenVPNAdapter.Proto.Delivery

namespace OpenVPNAdapter.Proto.Retransmit

open KeyContext MessageWindow ControlChannel

/-- What may happen to one end; what it receives is any packet at all. -/
inductive Event
  | call (c : Call)
  | receive (p : Packet)

def react (k : KeyContext) (now : Nat) : Event → KeyContext
  | .call c => call k now c
  | .receive p => k.netRecv now p

/-- Events with the time that passed before each of them. -/
def reactAll : Nat → KeyContext → List (Nat × Event) → Nat × KeyContext
  | now, k, [] => (now, k)
  | now, k, (elapsed, event) :: events => reactAll (now + elapsed) (react k (now + elapsed) event) events

/-- The packets that are due, in the order of their ids. -/
def due (k : KeyContext) (now : Nat) : List Packet :=
  (k.relSend.pending.filter fun m => m.readyRetransmit now).filterMap SendMessage.packet

/-- No packet waits beyond the window, and none is due before the next retransmission. -/
structure Scheduled (last : Nat) (k : KeyContext) : Prop where
  bounded : ∀ n, k.relSend.window.headId.toNat + k.relSend.window.span.toNat ≤ n →
      (k.relSend.window.slot n).packet = none
  timely : k.invalidated = false → ∀ m ∈ k.relSend.pending, k.nextRetransmit ≤ (last : Time) ∨
      k.nextRetransmit ≤ m.retransmitAt

variable {k k' : KeyContext} {last now : Nat}

theorem mem_pending {r : ReliableSend Packet} {m : SendMessage Packet} :
    m ∈ r.pending ↔ ∃ n, r.window.headId.toNat ≤ n ∧ n < r.window.tailId.toNat ∧ r.window.slot n = m ∧
      m.packet.isSome = true := by
  rw [ReliableSend.pending, List.mem_filter, List.mem_map]
  constructor
  · rintro ⟨⟨id, hid, rfl⟩, hm⟩
    have hin := inWindow_iff.mp (mem_ids.mp hid)
    exact ⟨id.toNat, hin.1, hin.2, rfl, hm⟩
  · rintro ⟨n, hle, hlt, rfl, hm⟩
    have htail := r.window.tailId.toNat_lt
    have hn : (UInt32.ofNat n).toNat = n := UInt32.toNat_ofNat_of_lt' (by show n < 2 ^ 32; omega)
    exact ⟨⟨UInt32.ofNat n, mem_ids.mpr (inWindow_iff.mpr (by rw [hn]; exact ⟨hle, hlt⟩)), by rw [hn]⟩, hm⟩

/-- The shortest wait is no longer than any packet's. -/
theorem untilRetransmit_le {r : ReliableSend Packet} {m : SendMessage Packet} (h : m ∈ r.pending) (now : Nat) :
    r.untilRetransmit now ≤ m.untilRetransmit now := by
  have hfold (ms : List (SendMessage Packet)) (ret : Time) :
      ms.foldl (fun ret m => if m.untilRetransmit now < ret then m.untilRetransmit now else ret) ret ≤ ret ∧
        ∀ m ∈ ms, ms.foldl (fun ret m => if m.untilRetransmit now < ret then m.untilRetransmit now else ret) ret ≤
          m.untilRetransmit now := by
    induction ms generalizing ret with
    | nil => exact ⟨le_rfl, fun m hm => absurd hm List.not_mem_nil⟩
    | cons m ms ih =>
        obtain ⟨hret, hms⟩ := ih (if m.untilRetransmit now < ret then m.untilRetransmit now else ret)
        have hmin : (if m.untilRetransmit now < ret then m.untilRetransmit now else ret) ≤ ret ∧
            (if m.untilRetransmit now < ret then m.untilRetransmit now else ret) ≤ m.untilRetransmit now := by
          split
          · rename_i hlt
            exact ⟨hlt.le, le_rfl⟩
          · rename_i hge
            exact ⟨le_rfl, not_lt.mp hge⟩
        rw [List.foldl_cons]
        exact ⟨hret.trans hmin.1, List.forall_mem_cons.mpr ⟨hret.trans hmin.2, hms⟩⟩
  exact (hfold r.pending ⊤).2 m h

/-- A packet's wait ends at its time, unless that has passed. -/
theorem add_untilRetransmit_le (m : SendMessage Packet) (now : Nat) :
    (now : Time) + m.untilRetransmit now ≤ (now : Time) ∨ (now : Time) + m.untilRetransmit now ≤
      m.retransmitAt := by
  rw [SendMessage.untilRetransmit]
  split
  · rename_i hlt
    apply Or.inr
    cases hat : m.retransmitAt with
    | none => exact le_top
    | some t =>
        rw [hat] at hlt
        have hle : now ≤ t := (WithTop.coe_lt_coe.mp hlt).le
        exact (congrArg ((↑) : Nat → Time) (Nat.add_sub_of_le hle)).le
  · exact .inl (add_zero (now : Time)).le

theorem updateRetransmit_scheduled (now : Nat)
    (h : ∀ n, k.relSend.window.headId.toNat + k.relSend.window.span.toNat ≤ n →
      (k.relSend.window.slot n).packet = none) :
    Scheduled now (k.updateRetransmit now) := by
  refine ⟨h, fun _ m hm => ?_⟩
  have hle : (k.updateRetransmit now).nextRetransmit ≤ (now : Time) + m.untilRetransmit now :=
    add_le_add_right (untilRetransmit_le hm now) _
  exact (add_untilRetransmit_le m now).imp hle.trans hle.trans

/-- A step that acknowledges some ids, whoever asked for it, and leaves the timer alone. -/
structure Acked (k k' : KeyContext) : Prop where
  relSend : ∃ ids : List UInt32, k'.relSend = ids.foldl ReliableSend.ack k.relSend
  nextRetransmit : k'.nextRetransmit = k.nextRetransmit
  valid : k'.invalidated = false → k.invalidated = false

theorem Acked.refl (k : KeyContext) : Acked k k := ⟨⟨[], rfl⟩, rfl, id⟩

theorem Acked.trans {k'' : KeyContext} (h : Acked k k') (h' : Acked k' k'') : Acked k k'' := by
  obtain ⟨ids, hids⟩ := h.relSend
  obtain ⟨ids', hids'⟩ := h'.relSend
  exact ⟨⟨ids ++ ids', by rw [hids', hids, List.foldl_append]⟩, h'.nextRetransmit.trans h.nextRetransmit,
    fun hv => h.valid (h'.valid hv)⟩

theorem ccError_acked (k : KeyContext) : Acked k k.ccError := by
  rw [ccError]
  split
  · exact ⟨⟨[], rfl⟩, rfl, fun h => by cases h⟩
  · exact .refl k

theorem verifySrcPsid_acked (k : KeyContext) (psid : ProtoSessionID) : Acked k (k.verifySrcPsid psid).2 := by
  rw [verifySrcPsid]
  split
  · split
    · exact .refl k
    · exact ccError_acked k
  · exact ⟨⟨[], rfl⟩, rfl, id⟩

theorem testPid_acked (k : KeyContext) (now : Nat) (pid : Option PacketId.PacketID) (mod : Bool) :
    Acked k (k.testPid now pid mod).2 := by
  obtain ⟨ok, pids, heq, -⟩ := testPid_cases k now pid mod
  rw [heq]
  exact ⟨⟨[], rfl⟩, rfl, id⟩

theorem receiveMessage_acked (k : KeyContext) (now : Nat) (opcode : Opcode) (pid : Option PacketId.PacketID)
    (pidOk : Bool) (recv : List UInt8) : Acked k (k.receiveMessage now opcode pid pidOk recv).2 := by
  rw [receiveMessage]
  split
  · split
    · exact testPid_acked k now pid true
    · exact .refl k
  · split
    · exact .refl k
    · simp only
      split
      · have hpush (flags : ReliableRecv.Flags) (relRecv : ReliableRecv Packet) (id : UInt32) :
            Acked k (if flags.ackToSender then { k with relRecv := relRecv }.pushAck
              id else { k with relRecv := relRecv }) := by
          split <;> exact ⟨⟨[], rfl⟩, rfl, fun h => h⟩
        split
        · exact (hpush _ _ _).trans (testPid_acked _ now pid true)
        · exact hpush _ _ _
      · split
        · exact ⟨⟨[], rfl⟩, rfl, fun h => h⟩
        · exact .refl k

theorem ack_folds (live : Bool) (relSend : ReliableSend Packet) (buf : List UInt8) :
    ∃ ids : List UInt32, (ReliableAck.ack live relSend buf).2 = ids.foldl ReliableSend.ack relSend := by
  have hloop (n : Nat) (relSend : ReliableSend Packet) (buf : List UInt8) :
      ∃ ids : List UInt32, (ReliableAck.ackIds live n relSend buf).2 = ids.foldl ReliableSend.ack relSend := by
    induction n generalizing relSend buf with
    | zero => exact ⟨[], rfl⟩
    | succ n ih =>
        rw [ReliableAck.ackIds]
        split
        · exact ⟨[], rfl⟩
        · rename_i id buf _
          cases live with
          | true =>
              obtain ⟨ids, hids⟩ := ih (relSend.ack id) buf
              exact ⟨id :: ids, hids⟩
          | false => exact ih relSend buf
  cases buf with
  | nil => exact ⟨[], rfl⟩
  | cons len buf => exact hloop len.toNat relSend buf

theorem decapsulatePostProcess_acked (k : KeyContext) (now : Nat) (opcode : Opcode) (src : ProtoSessionID)
    (pid : Option PacketId.PacketID) (recv : List UInt8) :
      Acked k (k.decapsulatePostProcess now opcode src pid recv).2 := by
  have hsrc := verifySrcPsid_acked k src
  rw [decapsulatePostProcess]
  simp only
  split
  · have htest := hsrc.trans (testPid_acked (k.verifySrcPsid src).2 now pid false)
    generalize htested : ((k.verifySrcPsid src).2.testPid now pid false) = tested at htest ⊢
    obtain ⟨pidOk, k₁⟩ := tested
    obtain ⟨ids, hids⟩ := ack_folds pidOk k₁.relSend recv
    have hacked : Acked k { k₁ with relSend := (ReliableAck.ack pidOk k₁.relSend recv).2 } :=
      htest.trans ⟨⟨ids, hids⟩, rfl, fun h => h⟩
    simp only
    split
    · exact hacked
    · exact hacked.trans (receiveMessage_acked _ now opcode pid pidOk _)
    · split
      · exact hacked
      · split
        · exact hacked.trans (receiveMessage_acked _ now opcode pid pidOk _)
        · exact hacked.trans (ccError_acked _)
  · exact hsrc

theorem decapsulate_acked (k : KeyContext) (now : Nat) (p : Packet) : Acked k (k.decapsulate now p).2 := by
  rw [decapsulate]
  split
  · exact .refl k
  · split
    · exact decapsulatePostProcess_acked k now p.opcode _ none _
    · split
      · exact .refl k
      · split
        · split
          · exact .refl k
          · exact decapsulatePostProcess_acked k now p.opcode _ _ _
        · exact ccError_acked k

theorem upSequenced_acked (k : KeyContext) (n : Nat) : Acked k (upSequenced n k) := by
  induction n generalizing k with
  | zero => exact .refl k
  | succ n ih =>
      rw [upSequenced]
      split
      · exact .refl k
      · split
        · refine Acked.trans ?_ (ih _)
          exact ⟨⟨[], rfl⟩, rfl, fun h => h⟩
        · exact .refl k

/-- Whatever is received, packets only leave the window. -/
theorem netRecv_acked (k : KeyContext) (now : Nat) (p : Packet) : Acked k (k.netRecv now p) := by
  have hdecapsulate := decapsulate_acked k now p
  rw [netRecv]
  split
  · exact .refl k
  · generalize k.decapsulate now p = result at hdecapsulate
    obtain ⟨outcome, k'⟩ := result
    cases outcome with
    | placed => exact hdecapsulate.trans (upSequenced_acked k' _)
    | refused => exact hdecapsulate
    | threw => exact hdecapsulate

theorem Scheduled.later (h : Scheduled last k) (hle : last ≤ now) : Scheduled now k :=
  ⟨h.bounded, fun hv m hm => (h.timely hv m hm).imp_left fun hlast => hlast.trans (WithTop.coe_le_coe.mpr hle)⟩

theorem ack_scheduled (h : Scheduled last k) (id : UInt32) :
    Scheduled last { k with relSend := k.relSend.ack id } := by
  obtain ⟨hle, hspan, hslot, -⟩ := rmById_cases k.relSend.window id
  have hkept (n : Nat) (m : SendMessage Packet) (hn : (k.relSend.window.rmById id).headId.toNat ≤ n)
      (hm : (k.relSend.window.rmById id).slot n = m) (hp : m.packet.isSome = true) :
        k.relSend.window.slot n = m := by
    rw [hslot n hn] at hm
    split at hm
    · rw [← hm] at hp
      cases hp
    · exact hm
  refine ⟨fun n hn => ?_, fun hv m hm => h.timely hv m ?_⟩
  · have hn' : (k.relSend.window.rmById id).headId.toNat + (k.relSend.window.rmById id).span.toNat ≤ n := hn
    rw [hspan] at hn'
    show ((k.relSend.window.rmById id).slot n).packet = none
    rw [hslot n (by omega)]
    split
    · rfl
    · exact h.bounded n (by omega)
  · obtain ⟨n, hn, hlt, hm, hp⟩ := mem_pending.mp hm
    have hn' : (k.relSend.window.rmById id).headId.toNat ≤ n := hn
    have hm' := hkept n m hn' hm hp
    have hin : n < k.relSend.window.headId.toNat + k.relSend.window.span.toNat := by
      by_contra hout
      have hnone := h.bounded n (by omega)
      rw [hm'] at hnone
      rw [hnone] at hp
      cases hp
    have hlt' : n < (k.relSend.window.rmById id).tailId.toNat := hlt
    have hspanlt := k.relSend.window.span.toNat_lt
    rw [tailId, UInt32.toNat_add, hspan] at hlt'
    refine mem_pending.mpr ⟨n, by omega, ?_, hm', hp⟩
    rw [tailId, UInt32.toNat_add]
    omega

theorem acked_scheduled (h : Scheduled last k) (hacked : Acked k k') : Scheduled last k' := by
  obtain ⟨ids, hids⟩ := hacked.relSend
  have hfold (ids : List UInt32) (k : KeyContext) (h : Scheduled last k) :
      Scheduled last { k with relSend := ids.foldl ReliableSend.ack k.relSend } := by
    induction ids generalizing k with
    | nil => exact h
    | cons id ids ih => exact ih _ (ack_scheduled h id)
  have hall := hfold ids k h
  refine ⟨?_, fun hv => ?_⟩
  · rw [hids]
    exact hall.bounded
  · rw [hids, hacked.nextRetransmit]
    exact hall.timely (hacked.valid hv)

/-- The part of the invariant that the calls that send keep step by step. -/
def Bounded (k : KeyContext) : Prop :=
  ∀ n, k.relSend.window.headId.toNat + k.relSend.window.span.toNat ≤ n → (k.relSend.window.slot n).packet = none

theorem refById_bounded (h : Bounded k) {id : UInt32} {f : SendMessage Packet → SendMessage Packet}
    {window : MessageWindow (SendMessage Packet)} (hwindow : k.relSend.window.refById id f = some window) :
    ∀ n, window.headId.toNat + window.span.toNat ≤ n → (window.slot n).packet = none := by
  obtain ⟨hin, hhead, hspan, hslot⟩ := refById_cases hwindow
  have hid := (inWindow_iff.mp hin).2
  have htail : k.relSend.window.tailId.toNat ≤ k.relSend.window.headId.toNat + k.relSend.window.span.toNat := by
    rw [tailId, UInt32.toNat_add]
    exact Nat.mod_le _ _
  intro n hn
  rw [hhead, hspan] at hn
  rw [hslot n (by omega), if_neg (by omega)]
  exact h n hn

theorem sendNext_bounded (h : Bounded k) (now : Nat) (p : Packet) : Bounded (k.sendNext now p) := by
  have hsend (q : Packet) : Bounded { k with relSend := k.relSend.send now k.config.tlsTimeout q } := by
    cases hwindow : k.relSend.window.refById k.relSend.next fun m =>
      { m with id := k.relSend.next, packet := some q, retransmitAt := (now : Time) + k.config.tlsTimeout } with
    | none => simpa only [Bounded, ReliableSend.send, hwindow, Option.getD_none] using h
    | some window =>
        simpa only [Bounded, ReliableSend.send, hwindow, Option.getD_some] using refById_bounded h hwindow
  rw [sendNext]
  cases hwrap : k.encapsulate now k.relSend.next p with
  | none => exact hsend p
  | some result =>
      obtain ⟨buf, k'⟩ := result
      simp only [encapsulate, wrap, Option.bind_eq_some_iff, Option.map_eq_some_iff, Prod.mk.injEq] at hwrap
      obtain ⟨_, -, _, -, -, rfl⟩ := hwrap
      exact hsend ⟨p.opcode, buf⟩

theorem drain_bounded (h : Bounded k) (now : Nat) (ps : List Packet) : Bounded (drain now k ps).1 := by
  induction ps generalizing k with
  | nil => exact h
  | cons p ps ih =>
      rw [drain]
      split
      · exact h
      · exact ih (sendNext_bounded h now p)

theorem downStack_bounded (h : Bounded k) (now : Nat) : Bounded ((k.downStackRaw now).downStackApp now) := by
  have hraw : Bounded (k.downStackRaw now) := drain_bounded h now k.rawWriteQueue
  rw [downStackApp]
  split
  · exact drain_bounded hraw now _
  · exact hraw

theorem flush_scheduled (h : Scheduled now k) : Scheduled now (k.flush now) := by
  have hstack := downStack_bounded h.bounded now
  rw [flush]
  split
  · exact h
  · simp only
    split
    · rename_i hinvalid
      exact ⟨hstack, fun hv => by rw [hinvalid] at hv; cases hv⟩
    · exact updateRetransmit_scheduled now hstack

theorem retransmitAt_bounded (h : Bounded k) (now : Nat) (id : UInt32) : Bounded (k.retransmitAt now id) := by
  have hrelSend : (k.netResend (k.relSend.window.slot id.toNat).packet).relSend = k.relSend := by
    rw [netResend]
    split <;> rfl
  simp only [retransmitAt]
  split
  · simp only [Bounded, hrelSend]
    cases hwindow : k.relSend.window.refById id fun m =>
      { m with retransmitAt := (now : Time) +
        (k.netResend (k.relSend.window.slot id.toNat).packet).config.tlsTimeout } with
    | none => exact h
    | some window => exact refById_bounded h hwindow
  · exact h

theorem retransmit_scheduled (h : Scheduled now k) : Scheduled now (k.retransmit now) := by
  have hloop (ids : List UInt32) (k : KeyContext) (h : Bounded k) :
      Bounded (ids.foldl (fun k id => k.retransmitAt now id) k) := by
    induction ids generalizing k with
    | nil => exact h
    | cons id ids ih => exact ih _ (retransmitAt_bounded h now id)
  rw [retransmit]
  split
  · exact h
  · exact updateRetransmit_scheduled now (hloop _ k h.bounded)

theorem call_scheduled (h : Scheduled now k) (c : Call) : Scheduled now (call k now c) := by
  have hacks (n : Nat) (k : KeyContext) : Acked k (sendAcks now n k) := by
    induction n generalizing k with
    | zero => exact .refl k
    | succ n ih =>
        rw [sendAcks]
        split
        · exact .refl k
        · split
          · exact .refl k
          · rename_i k' hk
            refine Acked.trans ?_ (ih k')
            simp only [sendAck, generateAck, wrap, Option.map_eq_some_iff, Option.bind_eq_some_iff] at hk
            obtain ⟨_, ⟨_, -, _, -, rfl⟩, rfl⟩ := hk
            exact ⟨⟨[], rfl⟩, rfl, fun h => h⟩
  cases c with
  | sendReset =>
      refine acked_scheduled h ?_
      show Acked k k.sendReset
      rw [sendReset]
      split <;> exact ⟨⟨[], rfl⟩, rfl, fun h => h⟩
  | sslWrites buf => exact acked_scheduled h ⟨⟨[], rfl⟩, rfl, fun h => h⟩
  | startHandshake =>
      refine acked_scheduled h ?_
      show Acked k k.startHandshake
      rw [startHandshake]
      split
      · exact .refl k
      · refine Acked.trans ?_ (upSequenced_acked _ _)
        exact ⟨⟨[], rfl⟩, rfl, fun h => h⟩
  | flush => exact flush_scheduled h
  | sendPendingAcks =>
      refine acked_scheduled h ?_
      show Acked k (k.sendPendingAcks now)
      rw [sendPendingAcks]
      split
      · exact .refl k
      · exact hacks _ k
  | retransmit => exact retransmit_scheduled h
  | invalidate => exact ⟨h.bounded, fun hv => by cases hv⟩

theorem react_scheduled (h : Scheduled now k) (event : Event) : Scheduled now (react k now event) := by
  cases event with
  | call c => exact call_scheduled h c
  | receive p => exact acked_scheduled h (netRecv_acked k now p)

theorem reactAll_scheduled (h : Scheduled now k) (events : List (Nat × Event)) :
    Scheduled (reactAll now k events).1 (reactAll now k events).2 := by
  induction events generalizing now k with
  | nil => exact h
  | cons event events ih => exact ih (react_scheduled (h.later (Nat.le_add_right _ _)) event.2)

theorem init_scheduled (c : Config) (now : Nat) : Scheduled now (.init c) := by
  have hfresh (n : Nat) : (KeyContext.init c).relSend.window.slot n = Slot.fresh := slot_init 0 c.reliableWindow n
  refine ⟨fun n _ => by rw [hfresh]; rfl, fun _ m hm => ?_⟩
  obtain ⟨n, -, -, rfl, hp⟩ := mem_pending.mp hm
  rw [hfresh] at hp
  cases hp

/-- One turn of the loop sends its packet if it is due, and touches no other. -/
theorem retransmitAt_cases (hudp : k.config.protocol.isReliable = false) (now : Nat) {id : UInt32}
    (hid : k.relSend.window.inWindow id = true) :
    (k.retransmitAt now id).sent = k.sent ++
        (([k.relSend.window.slot id.toNat].filter fun m => m.readyRetransmit now).filterMap
        SendMessage.packet).map Packet.buf ∧
      (k.retransmitAt now id).config = k.config ∧
      (k.retransmitAt now id).relSend.window.headId = k.relSend.window.headId ∧
      (k.retransmitAt now id).relSend.window.span = k.relSend.window.span ∧
      ∀ i : UInt32, k.relSend.window.inWindow i = true → i ≠ id →
        (k.retransmitAt now id).relSend.window.slot i.toNat = k.relSend.window.slot i.toNat := by
  simp only [retransmitAt]
  split
  · rename_i hready
    obtain ⟨p, hp⟩ := Option.isSome_iff_exists.mp (Bool.and_eq_true _ _ ▸ hready).1
    obtain ⟨window, hwindow⟩ := Option.isSome_iff_exists.mp ((refById_isSome k.relSend.window id fun m =>
      { m with retransmitAt := (now : Time) + k.config.tlsTimeout }).trans hid)
    obtain ⟨-, hhead, hspan, hslot⟩ := refById_cases hwindow
    simp only [netResend, hudp, Bool.false_eq_true, if_false, hwindow, Option.getD_some]
    refine ⟨?_, trivial, hhead, hspan, fun i hi hne => ?_⟩
    · rw [List.filter_singleton, hready, cond_true]
      simp [hp]
    · rw [hslot _ (inWindow_iff.mp hi).1, if_neg fun he => hne (UInt32.toNat_inj.mp he)]
  · rename_i hready
    refine ⟨?_, rfl, rfl, rfl, fun _ _ _ => rfl⟩
    simp [hready]

theorem retransmitLoop_sent (now : Nat) {ids : List UInt32} (hnodup : ids.Nodup)
    (hudp : k.config.protocol.isReliable = false) (hids : ∀ id ∈ ids, k.relSend.window.inWindow id = true) :
    (ids.foldl (fun k id => k.retransmitAt now id) k).sent = k.sent ++
      (((ids.map fun id => k.relSend.window.slot id.toNat).filter fun m => m.readyRetransmit now).filterMap
        SendMessage.packet).map Packet.buf := by
  induction ids generalizing k with
  | nil => exact (List.append_nil _).symm
  | cons id ids ih =>
      obtain ⟨hid, hrest⟩ := List.forall_mem_cons.mp hids
      obtain ⟨hnotin, hnodup'⟩ := List.nodup_cons.mp hnodup
      obtain ⟨hsent, hconfig, hhead, hspan, hslot⟩ := retransmitAt_cases hudp now hid
      have hin (i : UInt32) : (k.retransmitAt now id).relSend.window.inWindow i = k.relSend.window.inWindow i := by
        rw [inWindow, inWindow, tailId, tailId, hhead, hspan]
      have hslots : (ids.map fun id' => (k.retransmitAt now id).relSend.window.slot id'.toNat) =
          ids.map fun id' => k.relSend.window.slot id'.toNat :=
        List.map_congr_left fun i hi => hslot i (hrest i hi) fun he => hnotin (he ▸ hi)
      rw [List.foldl_cons, ih hnodup' (by rw [hconfig]; exact hudp) fun i hi => (hin i).trans (hrest i hi),
        hslots, hsent,
        List.append_assoc, ← List.map_append, ← List.filterMap_append, ← List.filter_append]
      rfl

theorem nodup_ids (w : MessageWindow (SendMessage Packet)) : w.ids.Nodup := by
  have htail := w.tailId.toNat_lt
  refine List.Nodup.map_on (fun a ha b hb heq => ?_) List.nodup_range'
  have ha' := List.mem_range'_1.mp ha
  have hb' := List.mem_range'_1.mp hb
  have heq' := congrArg UInt32.toNat heq
  rwa [UInt32.toNat_ofNat_of_lt' (by show a < 2 ^ 32; omega),
      UInt32.toNat_ofNat_of_lt' (by show b < 2 ^ 32; omega)] at heq'

/-- The packets that are ready, empty places of the window aside. -/
theorem ready_pending (k : KeyContext) (now : Nat) :
    ((k.relSend.window.ids.map fun id => k.relSend.window.slot id.toNat).filter fun m => m.readyRetransmit now) =
      k.relSend.pending.filter fun m => m.readyRetransmit now := by
  rw [ReliableSend.pending, List.filter_filter]
  refine List.filter_congr fun m _ => ?_
  rw [SendMessage.readyRetransmit]
  cases m.packet <;> simp

/-- Before the time of the next retransmission, no packet is due. -/
theorem due_eq_nil (h : Scheduled now k) (hv : k.invalidated = false) (hlt : (now : Time) < k.nextRetransmit) :
    (k.relSend.pending.filter fun m => m.readyRetransmit now) = [] := by
  refine List.filter_eq_nil_iff.mpr fun m hm hready => ?_
  have hat : m.retransmitAt ≤ (now : Time) := of_decide_eq_true (Bool.and_eq_true _ _ ▸ hready).2
  exact not_le.mpr hlt ((h.timely hv m hm).elim id fun htime => htime.trans hat)

theorem retransmit_sent (h : Scheduled now k) :
    (k.retransmit now).sent = k.sent ++
      if k.invalidated || k.config.protocol.isReliable then [] else (due k now).map Packet.buf := by
  rw [retransmit]
  cases hv : k.invalidated with
  | true => exact (List.append_nil _).symm
  | false =>
      cases hudp : k.config.protocol.isReliable with
      | true =>
          have hloop (ids : List UInt32) (k : KeyContext) (hudp : k.config.protocol.isReliable = true) :
              (ids.foldl (fun k id => k.retransmitAt now id) k).sent = k.sent := by
            induction ids generalizing k with
            | nil => rfl
            | cons id ids ih =>
                have hstep : (k.retransmitAt now id).sent = k.sent ∧ (k.retransmitAt now id).config =
                    k.config := by
                  simp only [retransmitAt, netResend, hudp, if_true]
                  split <;> exact ⟨rfl, rfl⟩
                exact (ih _ (by rw [hstep.2]; exact hudp)).trans hstep.1
          simp only [Bool.false_or, Bool.or_true, if_true, List.append_nil]
          split
          · rfl
          · exact hloop _ k hudp
      | false =>
          simp only [Bool.false_or, Bool.or_self, Bool.false_eq_true, if_false, decide_eq_true_eq]
          rw [due]
          split
          · rename_i hlt
            rw [due_eq_nil h hv hlt]
            exact (List.append_nil _).symm
          · rw [← ready_pending]
            exact retransmitLoop_sent now (nodup_ids _) hudp fun id hid => mem_ids.mp hid

/-- In every history of calls and of packets, whatever they are, and for every clock that does not
go back, a retransmission over UDP sends again the packets that are due, all of them, in the order
of their ids and each once: the time it looks at first never holds back a packet that is due. -/
theorem retransmits_what_is_due (c : Config) (start : Nat) (events : List (Nat × Event)) (elapsed : Nat) :
    let (last, k) := reactAll start (.init c) events
    let now := last + elapsed
    (k.retransmit now).sent = k.sent ++
      if k.invalidated || k.config.protocol.isReliable then [] else (due k now).map Packet.buf :=
  retransmit_sent ((reactAll_scheduled (init_scheduled c start) events).later (Nat.le_add_right _ elapsed))

end OpenVPNAdapter.Proto.Retransmit
