import OpenVPNAdapter.TunBuilderClient

namespace OpenVPNAdapter.TunBuilderClient

open Library.Descriptors PacketFlowBridge

namespace Builder

/-- The descriptors that the bridge wraps, in the order in which it closes them. -/
def handles (b : Builder) : List Handle := b.bridge.openVPNSocket.toList ++ b.bridge.packetFlowSocket.toList

/-- Every open descriptor has one owner, and no `close` has gone astray. -/
structure Clean (b : Builder) : Prop where
  sound : Sound b.kernel
  astray : b.kernel.misdirected = []
  handlesNodup : b.handles.Nodup
  handlesOpen : ∀ h ∈ b.handles, h ∈ b.kernel.opened ∧ h ∉ b.others
  othersNodup : b.others.Nodup
  othersOpen : ∀ h ∈ b.others, h ∈ b.kernel.opened ∧ h ∉ b.created
  created : ∀ h ∈ b.created, (h ∈ b.kernel.opened ∨ h ∈ b.kernel.closed) ∧ (h ∈ b.kernel.opened → h ∈ b.handles)

variable {b : Builder} {h : Handle}

theorem resetTun_eq (b : Builder) : b.resetTun =
    { b with
      kernel := closeAll b.kernel b.handles
      bridge := { b.bridge with openVPNSocket := none, packetFlowSocket := none } } := by
  obtain ⟨kernel, ⟨packetFlowSocket, openVPNSocket, reads, issuedReads⟩, created, others⟩ := b
  cases openVPNSocket with
  | none => cases packetFlowSocket <;> rfl
  | some => cases packetFlowSocket <;> rfl

@[simp] theorem resetTun_kernel (b : Builder) : b.resetTun.kernel = closeAll b.kernel b.handles := by
  rw [resetTun_eq]

@[simp] theorem resetTun_handles (b : Builder) : b.resetTun.handles = [] := by
  rw [resetTun_eq]
  rfl

@[simp] theorem resetTun_created (b : Builder) : b.resetTun.created = b.created := rfl

@[simp] theorem resetTun_others (b : Builder) : b.resetTun.others = b.others := rfl

@[simp] theorem closeFd_handles (fd : Option Handle) (b : Builder) : (b.closeFd fd).handles = b.handles := by
  cases fd <;> rfl

@[simp] theorem closeFd_created (fd : Option Handle) (b : Builder) : (b.closeFd fd).created = b.created := by
  cases fd <;> rfl

@[simp] theorem closeFd_others (fd : Option Handle) (b : Builder) : (b.closeFd fd).others = b.others := by
  cases fd <;> rfl

theorem Clean.resetTun (hb : b.Clean) : b.resetTun.Clean := by
  have hastray : (closeAll b.kernel b.handles).misdirected = [] :=
    (closeAll_misdirected hb.sound hb.handlesNodup hb.astray).mpr fun h hh => (hb.handlesOpen h hh).1
  constructor
  · rw [resetTun_kernel]
    exact sound_closeAll hb.sound
  · rw [resetTun_kernel]
    exact hastray
  · rw [resetTun_handles]
    exact List.nodup_nil
  · rw [resetTun_handles]
    exact List.forall_mem_nil _
  · exact hb.othersNodup
  · intro h hh
    obtain ⟨hopen, hnew⟩ := hb.othersOpen h hh
    rw [resetTun_kernel]
    exact ⟨opened_of_notMem hb.sound hastray hopen fun hmem => (hb.handlesOpen h hmem).2 hh, hnew⟩
  · intro h hh
    obtain ⟨hknown, howned⟩ := hb.created h hh
    rw [resetTun_kernel]
    refine ⟨issued_of_closeAll hknown, fun hopen => ?_⟩
    exact absurd hopen (notMem_closeAll hb.sound (howned (opened_of_closeAll hopen)))

theorem Clean.openOther (hb : b.Clean) : b.openOther.Clean := by
  have hfresh := next_notMem hb.sound
  have hopen (h : Handle) (hh : h ∈ b.kernel.opened) : h ≠ next b.kernel := fun heq =>
    hfresh (List.mem_append_left _ (heq ▸ hh))
  refine ⟨sound_allocate hb.sound, hb.astray, hb.handlesNodup, ?_, ?_, ?_, ?_⟩
  · intro h hh
    obtain ⟨hopened, hother⟩ := hb.handlesOpen h hh
    exact ⟨List.mem_cons_of_mem _ hopened, mt List.mem_cons.mp (not_or.mpr ⟨hopen h hopened, hother⟩)⟩
  · exact List.nodup_cons.mpr ⟨fun hmem => hfresh (List.mem_append_left _ (hb.othersOpen _ hmem).1),
      hb.othersNodup⟩
  · intro h hh
    rcases List.mem_cons.mp hh with rfl | hh
    · refine ⟨List.mem_cons_self, fun hnew => hfresh ?_⟩
      exact List.mem_append.mpr (hb.created _ hnew).1
    · exact ⟨List.mem_cons_of_mem _ (hb.othersOpen h hh).1, (hb.othersOpen h hh).2⟩
  · intro h hh
    obtain ⟨hknown, howned⟩ := hb.created h hh
    refine ⟨hknown.imp (List.mem_cons_of_mem _) id, fun hopened => ?_⟩
    rcases List.mem_cons.mp hopened with rfl | hopened
    · exact absurd (List.mem_append.mpr hknown) hfresh
    · exact howned hopened

theorem Clean.closeOther (hb : b.Clean) (hh : h ∈ b.others) : (b.closeOther h).Clean := by
  have hclose := close_of_opened hb.sound (hb.othersOpen h hh).1
  have hkernel : (b.closeOther h).kernel =
      { b.kernel with opened := b.kernel.opened.erase h, closed := h :: b.kernel.closed } := hclose
  refine ⟨sound_close hb.sound h, by rw [hkernel]; exact hb.astray, hb.handlesNodup, ?_,
      hb.othersNodup.erase h, ?_, ?_⟩
  · intro k hk
    obtain ⟨hopened, hother⟩ := hb.handlesOpen k hk
    have hne : k ≠ h := fun heq => hother (heq ▸ hh)
    rw [hkernel]
    exact ⟨(List.mem_erase_of_ne hne).mpr hopened, fun hmem => hother (List.mem_of_mem_erase hmem)⟩
  · intro k hk
    obtain ⟨hne, hmem⟩ := (hb.othersNodup.mem_erase_iff).mp hk
    rw [hkernel]
    exact ⟨(List.mem_erase_of_ne hne).mpr (hb.othersOpen k hmem).1, (hb.othersOpen k hmem).2⟩
  · intro k hk
    obtain ⟨hknown, howned⟩ := hb.created k hk
    have hne : k ≠ h := fun heq => (hb.othersOpen h hh).2 (heq ▸ hk)
    rw [hkernel]
    refine ⟨hknown.imp (List.mem_erase_of_ne hne).mpr (List.mem_cons_of_mem _), fun hopened => ?_⟩
    exact howned (List.mem_of_mem_erase hopened)

/-- The two descriptors of a `socketpair`. -/
def pair (t : Table) : Handle × Handle := (next t, next (allocate t))

/-- Whether `socketpair` is reached, and succeeds. -/
def Pairs (delegate : TunnelConfiguration) (calls : SocketCalls) : Prop :=
  delegate = .accepted ∧ calls.socketpair = true

instance (delegate : TunnelConfiguration) (calls : SocketCalls) : Decidable (Pairs delegate calls) :=
  inferInstanceAs (Decidable (_ ∧ _))

/-- What `tun_builder_establish` makes of a bridge without sockets. -/
theorem establish_cases (delegate : TunnelConfiguration) (calls : SocketCalls) (hb : b.handles = []) :
    (¬Pairs delegate calls ∧ ∃ bridge, b.tunBuilderEstablish delegate calls = (none, { b with bridge := bridge }) ∧
      { b with bridge := bridge }.handles = []) ∨
    Pairs delegate calls ∧ ∃ sd b', b.tunBuilderEstablish delegate calls = (sd, b') ∧
      b'.kernel = allocate (allocate b.kernel) ∧
      b'.created = (pair b.kernel).2 :: (pair b.kernel).1 :: b.created ∧ b'.others = b.others ∧
      b'.handles = (if calls.createOpenVPNSocket then [(pair b.kernel).2] else []) ++
        (if calls.createPacketFlowSocket then [(pair b.kernel).1] else []) ∧
      sd = (if calls.createPacketFlowSocket && calls.createOpenVPNSocket && calls.setsockopt then
        some (pair b.kernel).2 else none) ∧ (∀ h, sd = some h → b'.bridge.openVPNSocket = some h) := by
  obtain ⟨socketpair, createPacketFlowSocket, createOpenVPNSocket, setsockopt⟩ := calls
  have hsame :
      b.tunBuilderEstablish .timeout ⟨socketpair, createPacketFlowSocket, createOpenVPNSocket, setsockopt⟩ =
      (none, b) := by
    simp [tunBuilderEstablish, establishTunnel, pairCreated]
  cases delegate with
  | timeout => exact .inl ⟨fun h => (by cases h.1), b.bridge, hsame, hb⟩
  | error => exact .inl ⟨fun h => (by cases h.1), b.bridge, hsame, hb⟩
  | accepted =>
      cases socketpair with
      | false => exact .inl ⟨fun h => (by cases h.2), b.bridge, hsame, hb⟩
      | true =>
          refine .inr ⟨⟨rfl, rfl⟩, ?_⟩
          cases createPacketFlowSocket <;> cases createOpenVPNSocket <;> cases setsockopt <;>
            exact ⟨_, _, rfl, rfl, rfl, rfl, rfl, rfl, fun h hh => by
              first | exact hh | cases hh⟩

theorem pair_fresh {t : Table} (ht : Sound t) :
    (pair t).1 ∉ t.opened ++ t.closed ∧ (pair t).2 ∉ t.opened ++ t.closed ∧ (pair t).2 ≠ (pair t).1 := by
  have hnext := next_notMem (sound_allocate ht)
  refine ⟨next_notMem ht, fun hmem => hnext ?_, fun heq => hnext ?_⟩
  · exact List.mem_cons_of_mem _ hmem
  · exact List.mem_cons.mpr (.inl heq)

/-- A pair of which both ends are wrapped has its owner. -/
theorem Clean.establish (hb : b.Clean) (hempty : b.handles = []) {delegate : TunnelConfiguration}
    {calls : SocketCalls}
    (hwrap : Pairs delegate calls → calls.createPacketFlowSocket = true ∧ calls.createOpenVPNSocket = true) :
    (b.tunBuilderEstablish delegate calls).2.Clean := by
  obtain ⟨-, bridge, heq, hnone⟩ | ⟨hpairs, sd, b', heq, hkernel, hcreated, hothers, hhandles, -, -⟩ :=
    establish_cases delegate calls hempty
  · rw [heq]
    have hsame : ({ b with bridge := bridge } : Builder).handles = b.handles := by rw [hnone, hempty]
    refine ⟨hb.sound, hb.astray, ?_, ?_, hb.othersNodup, hb.othersOpen, ?_⟩
    · rw [hnone]
      exact List.nodup_nil
    · rw [hnone]
      exact List.forall_mem_nil _
    · rw [hsame]
      exact hb.created
  · obtain ⟨hpacketFlow, hopenVPN⟩ := hwrap hpairs
    rw [heq]
    simp only [hpacketFlow, hopenVPN, if_true, List.cons_append, List.nil_append] at hhandles
    obtain ⟨hfirst, hsecond, hne⟩ := pair_fresh hb.sound
    have hopened : b'.kernel.opened = (pair b.kernel).2 :: (pair b.kernel).1 :: b.kernel.opened := by
      rw [hkernel]
      rfl
    have hclosed : b'.kernel.closed = b.kernel.closed := by
      rw [hkernel]
      rfl
    have hold (h : Handle) (hh : h ∈ b.kernel.opened) : h ∈ b'.kernel.opened := by
      rw [hopened]
      exact List.mem_cons_of_mem _ (List.mem_cons_of_mem _ hh)
    refine ⟨?_, ?_, ?_, ?_, ?_, ?_, ?_⟩
    · rw [hkernel]
      exact sound_allocate (sound_allocate hb.sound)
    · rw [hkernel]
      exact hb.astray
    · rw [hhandles]
      exact List.nodup_cons.mpr ⟨fun hmem => hne (List.mem_singleton.mp hmem), List.nodup_singleton _⟩
    · intro h hh
      rw [hhandles] at hh
      rw [hothers, hopened]
      rcases List.mem_cons.mp hh with rfl | hh
      · exact ⟨List.mem_cons_self, fun hmem => hsecond (List.mem_append_left _ (hb.othersOpen _ hmem).1)⟩
      · obtain rfl := List.mem_singleton.mp hh
        refine ⟨List.mem_cons_of_mem _ List.mem_cons_self, fun hmem => ?_⟩
        exact hfirst (List.mem_append_left _ (hb.othersOpen _ hmem).1)
    · rw [hothers]
      exact hb.othersNodup
    · intro h hh
      rw [hothers] at hh
      obtain ⟨hopen, hnew⟩ := hb.othersOpen h hh
      refine ⟨hold h hopen, ?_⟩
      rw [hcreated]
      intro hmem
      rcases List.mem_cons.mp hmem with rfl | hmem
      · exact hsecond (List.mem_append_left _ hopen)
      · rcases List.mem_cons.mp hmem with rfl | hmem
        · exact hfirst (List.mem_append_left _ hopen)
        · exact hnew hmem
    · intro h hh
      rw [hcreated] at hh
      rw [hopened, hclosed, hhandles]
      rcases List.mem_cons.mp hh with rfl | hh
      · exact ⟨.inl List.mem_cons_self, fun _ => List.mem_cons_self⟩
      · rcases List.mem_cons.mp hh with rfl | hh
        · exact ⟨.inl (List.mem_cons_of_mem _ List.mem_cons_self),
            fun _ => List.mem_cons_of_mem _ List.mem_cons_self⟩
        · obtain ⟨hknown, howned⟩ := hb.created h hh
          refine ⟨hknown.imp (fun hopen => hopened ▸ hold h hopen) id, fun hopen => ?_⟩
          rcases List.mem_cons.mp hopen with rfl | hopen
          · exact absurd (List.mem_append.mpr hknown) hsecond
          · rcases List.mem_cons.mp hopen with rfl | hopen
            · exact absurd (List.mem_append.mpr hknown) hfirst
            · have hnone := howned hopen
              rw [hempty] at hnone
              cases hnone

/-- Some descriptor can no longer be closed once, or not by its owner: a `close` has gone astray, nobody
will close a descriptor that is open, or one that is closed will be closed again. `objs` are the
descriptors that a `TunPersist` is going to close. -/
def Lost (b : Builder) (objs : List Handle) : Prop :=
  b.kernel.misdirected ≠ [] ∨
    (∃ h ∈ b.created, h ∈ b.kernel.opened ∧ h ∉ b.handles ∧ h ∉ b.others ∧ h ∉ objs) ∨
    ∃ h ∈ objs, h.serial < b.kernel.issued ∧ h ∉ b.kernel.opened

/-- The same, or the bridge and a `TunPersist` are both going to close a descriptor. -/
def Doomed (b : Builder) (objs : List Handle) : Prop :=
  b.Lost objs ∨ ∃ h ∈ objs, h.serial < b.kernel.issued ∧ h ∈ b.handles

variable {objs : List Handle}

theorem Doomed.resetTun (hb : Sound b.kernel) (h : b.Doomed objs) : b.resetTun.Lost objs := by
  rcases h with (hastray | ⟨h, hnew, hopen, hunowned, hother, hobj⟩ | ⟨h, hobj, hissued, hclosed⟩) | ⟨h,
      hobj, hissued, howned⟩
  · refine .inl ?_
    rw [resetTun_kernel]
    exact misdirected_of_closeAll hastray
  · rw [Lost, resetTun_kernel, resetTun_handles, resetTun_created, resetTun_others]
    by_cases hastray : (closeAll b.kernel b.handles).misdirected = []
    · exact .inr (.inl ⟨h, hnew, opened_of_notMem hb hastray hopen hunowned, List.not_mem_nil, hother, hobj⟩)
    · exact .inl hastray
  · refine .inr (.inr ⟨h, hobj, ?_⟩)
    rw [resetTun_kernel, closeAll_issued]
    exact ⟨hissued, mt opened_of_closeAll hclosed⟩
  · refine .inr (.inr ⟨h, hobj, ?_⟩)
    rw [resetTun_kernel, closeAll_issued]
    exact ⟨hissued, notMem_closeAll hb howned⟩

theorem Lost.closeFd {fd : Option Handle} (hb : Sound b.kernel) (h : b.Lost (fd.toList ++ objs)) :
    (b.closeFd fd).Lost objs := by
  cases fd with
  | none => exact h
  | some k =>
      rcases h with hastray | ⟨h, hnew, hopen, hunowned, hother, hobj⟩ | ⟨h, hobj, hissued, hclosed⟩
      · exact .inl (misdirected_of_close hastray)
      · obtain ⟨hne, hobj⟩ := not_or.mp (mt List.mem_cons.mpr hobj)
        by_cases hastray : (close b.kernel k).misdirected = []
        · exact .inr (.inl ⟨h, hnew, opened_of_ne hb hastray hopen hne, hunowned, hother, hobj⟩)
        · exact .inl hastray
      · rcases List.mem_cons.mp hobj with rfl | hobj
        · exact .inl (misdirected_of_notMem hclosed)
        · refine .inr (.inr ⟨h, hobj, ?_, mt opened_of_close hclosed⟩)
          exact (close_issued b.kernel k).symm ▸ hissued

theorem Lost.establish (hb : Sound b.kernel) (hempty : b.handles = []) (h : b.Lost objs)
    (delegate : TunnelConfiguration)
    (calls : SocketCalls) : (b.tunBuilderEstablish delegate calls).2.Lost objs := by
  obtain ⟨-, bridge, heq, hnone⟩ | ⟨-, sd, b', heq, hkernel, hcreated, hothers, hhandles, -, -⟩ :=
    establish_cases delegate calls hempty
  · rw [heq]
    refine h.imp id (.imp ?_ id)
    rintro ⟨h, hnew, hopen, -, hrest⟩
    exact ⟨h, hnew, hopen, by rw [hnone]; exact List.not_mem_nil, hrest⟩
  · rw [heq]
    obtain ⟨hfirst, hsecond, -⟩ := pair_fresh hb
    have hopened : b'.kernel.opened = (pair b.kernel).2 :: (pair b.kernel).1 :: b.kernel.opened := by
      rw [hkernel]
      rfl
    rcases h with hastray | ⟨h, hnew, hopen, -, hother, hobj⟩ | ⟨h, hobj, hissued, hclosed⟩
    · refine .inl ?_
      rw [hkernel]
      exact hastray
    · refine .inr (.inl ⟨h, ?_, ?_, ?_, hothers ▸ hother, hobj⟩)
      · rw [hcreated]
        exact List.mem_cons_of_mem _ (List.mem_cons_of_mem _ hnew)
      · rw [hopened]
        exact List.mem_cons_of_mem _ (List.mem_cons_of_mem _ hopen)
      · rw [hhandles]
        intro hmem
        rcases List.mem_append.mp hmem with hmem | hmem
        · split at hmem
          · exact hsecond (List.mem_append_left _ (List.mem_singleton.mp hmem ▸ hopen))
          · cases hmem
        · split at hmem
          · exact hfirst (List.mem_append_left _ (List.mem_singleton.mp hmem ▸ hopen))
          · cases hmem
    · have hserial : b'.kernel.issued = b.kernel.issued + 2 := by
        rw [hkernel]
        rfl
      have hlater : h.serial < b'.kernel.issued := by omega
      refine .inr (.inr ⟨h, hobj, hlater, fun hmem => ?_⟩)
      rw [hopened] at hmem
      rcases List.mem_cons.mp hmem with rfl | hmem
      · exact absurd hissued (Nat.not_lt.mpr (Nat.le_succ _))
      · rcases List.mem_cons.mp hmem with rfl | hmem
        · exact absurd hissued (Nat.lt_irrefl _)
        · exact hclosed hmem

/-- A descriptor that the bridge owns may be given to a `TunPersist` as well. -/
theorem Lost.arm {sd : Handle} (h : b.Lost objs) (hsd : sd ∈ b.handles) : b.Lost (sd :: objs) := by
  refine h.imp id (.imp ?_ ?_)
  · rintro ⟨h, hnew, hopen, hunowned, hother, hobj⟩
    refine ⟨h, hnew, hopen, hunowned, hother, mt List.mem_cons.mp (not_or.mpr ⟨?_, hobj⟩)⟩
    rintro rfl
    exact hunowned hsd
  · rintro ⟨h, hobj, hrest⟩
    exact ⟨h, List.mem_cons_of_mem _ hobj, hrest⟩

theorem Lost.congr {objs' : List Handle} (h : b.Lost objs) (hobjs : ∀ k, k ∈ objs ↔ k ∈ objs') : b.Lost objs' := by
  refine h.imp id (.imp ?_ ?_)
  · rintro ⟨h, hnew, hopen, hunowned, hother, hobj⟩
    exact ⟨h, hnew, hopen, hunowned, hother, mt (hobjs h).mpr hobj⟩
  · rintro ⟨h, hobj, hrest⟩
    exact ⟨h, (hobjs h).mp hobj, hrest⟩

theorem Doomed.congr {objs' : List Handle} (h : b.Doomed objs) (hobjs : ∀ k, k ∈ objs ↔ k ∈ objs') :
    b.Doomed objs' := by
  refine h.imp (·.congr hobjs) ?_
  rintro ⟨h, hobj, hrest⟩
  exact ⟨h, (hobjs h).mp hobj, hrest⟩

theorem Doomed.openOther (hb : Sound b.kernel) (h : b.Doomed objs) : b.openOther.Doomed objs := by
  have hfresh := next_notMem hb
  rcases h with (hastray | ⟨h, hnew, hopen, hunowned, hother, hobj⟩ | ⟨h, hobj, hissued, hclosed⟩) | ⟨h,
      hobj, hissued, howned⟩
  · exact .inl (.inl hastray)
  · refine .inl (.inr (.inl ⟨h, hnew, List.mem_cons_of_mem _ hopen, hunowned, ?_, hobj⟩))
    refine mt List.mem_cons.mp (not_or.mpr ⟨?_, hother⟩)
    rintro rfl
    exact hfresh (List.mem_append_left _ hopen)
  · refine .inl (.inr (.inr ⟨h, hobj, Nat.lt_succ_of_lt hissued, mt List.mem_cons.mp (not_or.mpr ⟨?_, hclosed⟩)⟩))
    rintro rfl
    exact absurd hissued (Nat.lt_irrefl _)
  · exact .inr ⟨h, hobj, Nat.lt_succ_of_lt hissued, howned⟩

theorem Doomed.closeOther {k : Handle} (hb : Sound b.kernel) (hk : k ∈ b.others) (h : b.Doomed objs) :
    (b.closeOther k).Doomed objs := by
  have hissued' : (b.closeOther k).kernel.issued = b.kernel.issued := close_issued b.kernel k
  rcases h with (hastray | ⟨h, hnew, hopen, hunowned, hother, hobj⟩ | ⟨h, hobj, hissued, hclosed⟩) | ⟨h,
      hobj, hissued, howned⟩
  · exact .inl (.inl (misdirected_of_close hastray))
  · have hne : h ≠ k := fun heq => hother (heq ▸ hk)
    by_cases hastray : (close b.kernel k).misdirected = []
    · refine .inl (.inr (.inl ⟨h, hnew, opened_of_ne hb hastray hopen hne, hunowned, ?_, hobj⟩))
      exact fun hmem => hother (List.mem_of_mem_erase hmem)
    · exact .inl (.inl hastray)
  · exact .inl (.inr (.inr ⟨h, hobj, hissued'.symm ▸ hissued, mt opened_of_close hclosed⟩))
  · exact .inr ⟨h, hobj, hissued'.symm ▸ hissued, howned⟩

end Builder

end OpenVPNAdapter.TunBuilderClient
