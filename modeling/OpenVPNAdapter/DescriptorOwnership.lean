import OpenVPNAdapter.Library.Runs
import OpenVPNAdapter.BridgeDescriptors

namespace OpenVPNAdapter.TunBuilderClient

open Library.Runs Library.Descriptors PacketFlowBridge Builder

/-- The descriptors that the `TunPersist`s are going to close. -/
def Held.armed : Held → Option Handle
  | .shared => none
  | .owned o => o.armed

section Setup

variable {o : TunPersist} {b : Builder} {x : Setup} {objs : List Handle}

theorem sound_resetTun (hb : Sound b.kernel) : Sound b.resetTun.kernel := by
  rw [resetTun_kernel]
  exact sound_closeAll hb

theorem sound_closeFd (fd : Option Handle) (hb : Sound b.kernel) : Sound (b.closeFd fd).kernel := by
  cases fd with
  | none => exact hb
  | some h => exact sound_close hb h

theorem establish_openVPNSocket {delegate : TunnelConfiguration} {calls : SocketCalls} {sd : Handle}
    (hsd : (b.resetTun.tunBuilderEstablish delegate calls).1 = some sd) :
    (b.resetTun.tunBuilderEstablish delegate calls).2.bridge.openVPNSocket = some sd := by
  obtain ⟨-, bridge, heq, -⟩ | ⟨-, sd', b', heq, -, -, -, -, -, hopenVPN⟩ :=
    establish_cases delegate calls (resetTun_handles b)
  · rw [heq] at hsd
    cases hsd
  · rw [heq] at hsd ⊢
    exact hopenVPN sd hsd

theorem sound_establish (delegate : TunnelConfiguration) (calls : SocketCalls) (hb : Sound b.resetTun.kernel) :
    Sound (b.resetTun.tunBuilderEstablish delegate calls).2.kernel := by
  obtain ⟨-, bridge, heq, -⟩ | ⟨-, sd, b', heq, hkernel, -⟩ := establish_cases delegate calls (resetTun_handles b)
  · rw [heq]
    exact hb
  · rw [heq]
    exact hkernel ▸ sound_allocate (sound_allocate hb)

theorem close_unarmed (ho : o.armed = none) (b : Builder) : (o.close b).2 = b.resetTun := by
  rw [TunPersist.close, ho]
  rfl

theorem matchPersisted_used (h : (o.matchPersisted x).usePersistedTun = true) : o.options ≠ "" ∧ o.obj.isSome := by
  simp only [TunPersist.matchPersisted, Bool.and_eq_true, decide_eq_true_eq] at h
  exact ⟨h.1.1.2, h.1.1.1.1⟩

/-- `persist_tun_state` keeps the descriptor it has, or takes the new one and closes what it is to close. -/
theorem persistTunState_cases (sd : Handle) (o : TunPersist) (b : Builder) :
    (o.persistTunState sd b).1.retainObj = o.retainObj ∧
      ((o.enablePersistence && o.usePersistedTun) = true ∧ (o.persistTunState sd b).1.obj = o.obj ∧
          (o.persistTunState sd b).2 = b ∨
        (o.enablePersistence && o.usePersistedTun) = false ∧ (o.persistTunState sd b).1.obj = some sd ∧
          (o.persistTunState sd b).2 = b.closeFd o.armed) := by
  obtain ⟨enablePersistence, retainObj, obj, options, copt, usePersistedTun, kept⟩ := o
  cases enablePersistence <;> cases usePersistedTun <;> cases copt <;>
    simp [TunPersist.persistTunState, TunPersist.saveReplaceSock]

/-- The ways through the set-up. -/
inductive SetUp (x : Setup) (o : TunPersist) (b : Builder) : Started × TunPersist × Builder → Prop
  | reused (sd : Handle) (o' : TunPersist) (hmatch : (o.matchPersisted x).usePersistedTun = true)
      (hobj : o.obj = some sd) (hobj' : o'.obj = some sd)
      (hretain : o'.retainObj = o.retainObj) : SetUp x o b (if x.started then .running sd else .thrown, o', b)
  | unconfigured (o' : TunPersist) (hconfigured : x.configured = false) (hobj' : o'.obj = o.obj)
      (hretain : o'.retainObj = o.retainObj) :
      SetUp x o b (.thrown, o', b.resetTun)
  | noSocket (o' : TunPersist) (hreaches : (o.matchPersisted x).usePersistedTun = false ∧ x.configured = true)
      (hsd : (b.resetTun.tunBuilderEstablish x.delegate x.calls).1 = none) (hobj' : o'.obj = o.obj)
      (hretain : o'.retainObj = o.retainObj) :
      SetUp x o b (.noSocket, o', (b.resetTun.tunBuilderEstablish x.delegate x.calls).2)
  | established (sd : Handle) (o' : TunPersist)
      (hreaches : (o.matchPersisted x).usePersistedTun = false ∧ x.configured = true)
      (hsd : (b.resetTun.tunBuilderEstablish x.delegate x.calls).1 = some sd) (hobj' : o'.obj = some sd)
      (hretain : o'.retainObj = o.retainObj) :
      SetUp x o b (if x.started then .running sd else .thrown, o',
        (b.resetTun.tunBuilderEstablish x.delegate x.calls).2.closeFd o.armed)

theorem tunSetup_cases (x : Setup) (o : TunPersist) (b : Builder) : SetUp x o b (tunSetup x o b) := by
  rw [tunSetup]
  by_cases hused : (o.matchPersisted x).usePersistedTun = true
  · obtain ⟨hoptions, hdefined⟩ := matchPersisted_used hused
    obtain ⟨sd, hobj⟩ := Option.isSome_iff_exists.mp hdefined
    have hobj' : (o.matchPersisted x).obj = some sd := hobj
    have hkept : ((o.matchPersisted x).enablePersistence && (o.matchPersisted x).usePersistedTun) = true := by
      rw [hused, Bool.and_true]
      exact o.kept hoptions
    simp only [hused, if_true, hobj', launch]
    obtain ⟨hretain, ⟨-, hsame, hb⟩ | ⟨hnew, -⟩⟩ := persistTunState_cases sd (o.matchPersisted x) b
    · have hresult :
        (o.matchPersisted x).persistTunState sd b = (((o.matchPersisted x).persistTunState sd b).1, b) :=
        Prod.ext rfl hb
      rw [hresult]
      exact .reused sd _ hused hobj (hsame.trans hobj') hretain
    · rw [hkept] at hnew
      cases hnew
  · have hnew := Bool.eq_false_iff.mpr hused
    simp only [hnew, Bool.false_eq_true, if_false]
    by_cases hconfigured : x.configured = true
    · simp only [hconfigured, if_true, tunBuilderNew]
      cases hestablish : b.resetTun.tunBuilderEstablish x.delegate x.calls with
      | mk sd b' =>
        cases sd with
        | none =>
            have hnone := SetUp.noSocket (o.matchPersisted x) ⟨hnew, hconfigured⟩ (by rw [hestablish]) rfl rfl
            rwa [hestablish] at hnone
        | some sd =>
            simp only [launch]
            obtain ⟨hretain, ⟨hkept, -⟩ | ⟨-, hobj', hb⟩⟩ := persistTunState_cases sd (o.matchPersisted x) b'
            · rw [hnew, Bool.and_false] at hkept
              cases hkept
            · have hresult : (o.matchPersisted x).persistTunState sd b' =
                  (((o.matchPersisted x).persistTunState sd b').1,
                    (b.resetTun.tunBuilderEstablish x.delegate x.calls).2.closeFd o.armed) := by
                rw [hestablish]
                exact Prod.ext rfl hb
              rw [hresult]
              exact .established sd _ ⟨hnew, hconfigured⟩ (by rw [hestablish]) hobj' hretain
    · simp only [hconfigured, Bool.false_eq_true, if_false]
      exact .unconfigured _ (Bool.eq_false_iff.mpr hconfigured) rfl rfl

end Setup

namespace State

variable {s : State}

def held (s : State) : Option Held := s.client.bind Client.tunPersist

/-- Every `TunPersist` there is. -/
def persists (s : State) : List TunPersist :=
  s.persist.toList ++ match s.held with
    | some (.owned o) => [o]
    | _ => []

/-- No `TunPersist` is going to close a descriptor, and the tunnel that runs or may be reused is the one
of the bridge. -/
structure Inv (s : State) : Prop where
  clean : s.builder.Clean
  unarmed : ∀ o ∈ s.persists, o.armed = none ∧ o.retainObj = s.retainSd
  live : ∀ h, s.live = some h → s.builder.bridge.openVPNSocket = some h ∧ s.held.isSome
  exclusive : s.persist.isSome → ∀ o, s.held ≠ some (.owned o)
  reuse : s.failed = false → ∀ o ∈ s.persists, o.options ≠ "" → ∀ h, o.obj = some h →
      s.builder.bridge.openVPNSocket = some h
  ended : s.ended = true → s.builder.handles = []

theorem inv_of_idle (hb : s.builder.Clean) (hpersists : s.persists = []) (hlive : s.live = none)
    (hended : s.ended = true → s.builder.handles = []) : s.Inv where
  clean := hb
  unarmed := by
    rw [hpersists]
    exact List.forall_mem_nil _
  live h hh := by
    rw [hlive] at hh
    cases hh
  exclusive hsome := by
    obtain ⟨o, ho⟩ := Option.isSome_iff_exists.mp hsome
    rw [persists, ho] at hpersists
    cases hpersists
  reuse _ := by
    rw [hpersists]
    exact List.forall_mem_nil _
  ended := hended

/-- A `TunPersist` less, and what went on goes on. -/
theorem Inv.forget {s' : State} (h : s.Inv) (hbuilder : s'.builder = s.builder)
    (hretain : s'.retainSd = s.retainSd)
    (hfailed : s'.failed = s.failed) (hended : s'.ended = s.ended) (hlive : s'.live = none)
    (hpersists : ∀ o ∈ s'.persists, o ∈ s.persists)
    (hexclusive : s'.persist.isSome → ∀ o, s'.held ≠ some (.owned o)) :
    s'.Inv where
  clean := hbuilder ▸ h.clean
  unarmed o ho := by
    rw [hretain]
    exact h.unarmed o (hpersists o ho)
  live k hk := by
    rw [hlive] at hk
    cases hk
  exclusive := hexclusive
  reuse hgo o ho := by
    rw [hbuilder]
    exact h.reuse (hfailed ▸ hgo) o (hpersists o ho)
  ended he := by
    rw [hbuilder]
    exact h.ended (hended ▸ he)

/-- What the operations on a client leave alone. -/
structure Quiet (s s' : State) : Prop where
  retainSd : s'.retainSd = s.retainSd
  failed : s'.failed = s.failed
  ended : s'.ended = s.ended
  live : s'.live = none

theorem release_inv (h : s.Inv) (hlive : s.live = none) :
    s.release.Inv ∧ Quiet s s.release ∧ s.release.held = none ∧ s.release.persist = s.persist := by
  obtain ⟨retainSd, builder, persist, client, failed, ended⟩ := s
  cases client with
  | none => exact ⟨h, ⟨rfl, rfl, rfl, rfl⟩, rfl, rfl⟩
  | some c =>
      obtain ⟨halt, impl, tunPersist⟩ := c
      have hsame : (⟨retainSd, builder, persist, some ⟨halt, impl, none⟩, failed, ended⟩ : State).live =
          none := hlive
      have hpersist :
          ∀ o ∈ (⟨retainSd, builder, persist, some ⟨halt, impl, none⟩, failed, ended⟩ : State).persists,
          o ∈ persist.toList := fun o ho => by
        simpa [persists, held] using ho
      cases tunPersist with
      | none => exact ⟨h, ⟨rfl, rfl, rfl, hlive⟩, rfl, rfl⟩
      | some p =>
        cases p with
        | shared =>
            refine ⟨h.forget rfl rfl rfl rfl hsame ?_ ?_, ⟨rfl, rfl, rfl, hsame⟩, rfl, rfl⟩
            · exact fun o ho => List.mem_append_left _ (hpersist o ho)
            · exact fun _ o ho => by cases ho
        | owned o =>
            have hnone : persist = none := by
              cases persist with
              | none => rfl
              | some p => exact absurd rfl (h.exclusive rfl o)
            subst hnone
            have hunarmed : o.armed = none := (h.unarmed o List.mem_cons_self).1
            have hreset : (o.close builder).2 = builder.resetTun := close_unarmed hunarmed builder
            refine ⟨inv_of_idle ?_ rfl hsame fun _ => ?_, ⟨rfl, rfl, rfl, hsame⟩, rfl, rfl⟩
            · show (o.close builder).2.Clean
              rw [hreset]
              exact h.clean.resetTun
            · show (o.close builder).2.handles = []
              rw [hreset]
              exact resetTun_handles builder

theorem stop_inv (h : s.Inv) : s.stop.Inv ∧ Quiet s s.stop ∧ s.stop.persist = s.persist := by
  obtain ⟨retainSd, builder, persist, client, failed, ended⟩ := s
  cases client with
  | none => exact ⟨h, ⟨rfl, rfl, rfl, rfl⟩, rfl⟩
  | some c =>
      obtain ⟨halt, impl, tunPersist⟩ := c
      cases halt with
      | true => exact ⟨h, ⟨rfl, rfl, rfl, rfl⟩, rfl⟩
      | false =>
          have hhalted :
              (⟨retainSd, builder, persist, some ⟨true, impl, tunPersist⟩, failed, ended⟩ : State).Inv :=
            h.forget rfl rfl rfl rfl rfl (fun _ ho => ho) h.exclusive
          obtain ⟨hinv, hquiet, -, hpersist⟩ := release_inv hhalted rfl
          exact ⟨hinv, ⟨hquiet.retainSd, hquiet.failed, hquiet.ended, hquiet.live⟩, hpersist⟩

theorem destroyClient_inv (h : s.Inv) :
    s.destroyClient.Inv ∧ Quiet s s.destroyClient ∧ s.destroyClient.client = none := by
  obtain ⟨hstop, hquiet, -⟩ := stop_inv h
  obtain ⟨hinv, hquiet', hheld, -⟩ := release_inv hstop hquiet.live
  refine ⟨hinv.forget rfl rfl rfl rfl rfl ?_ ?_, ⟨?_, ?_, ?_, rfl⟩, rfl⟩
  · intro o ho
    have ho' : o ∈ s.stop.release.persist.toList := by simpa [persists, held, destroyClient] using ho
    exact List.mem_append_left _ ho'
  · exact fun _ o ho => by cases ho
  · exact hquiet'.retainSd.trans hquiet.retainSd
  · exact hquiet'.failed.trans hquiet.failed
  · exact hquiet'.ended.trans hquiet.ended

theorem finalize_inv (h : s.Inv) (disconnected : Bool) :
    (s.finalize disconnected).Inv ∧ (s.finalize disconnected).ended = s.ended ∧
      (s.finalize disconnected).retainSd = s.retainSd ∧
      (disconnected = true → (s.finalize disconnected).persist = none) ∧
      (s.client = none → (s.finalize disconnected).client = none) := by
  obtain ⟨retainSd, builder, persist, client, failed, ended⟩ := s
  cases persist with
  | none => exact ⟨h, rfl, rfl, fun _ => rfl, id⟩
  | some o =>
      cases disconnected with
      | false => exact ⟨h, rfl, rfl, fun h => (by cases h), id⟩
      | true =>
          have hunarmed : o.armed = none := (h.unarmed o List.mem_cons_self).1
          have hreset : (o.close builder).2 = builder.resetTun := close_unarmed hunarmed builder
          have hdestroyed {client : Option Client}
              (hlive : (State.live ⟨retainSd, builder, none, client, failed, ended⟩) = none)
              (hheld : (State.persists ⟨retainSd, builder, none, client, failed, ended⟩) = []) :
              (State.destroy o ⟨retainSd, builder, none, client, failed, ended⟩).Inv := by
            refine inv_of_idle ?_ hheld hlive fun _ => ?_
            · show (o.close builder).2.Clean
              rw [hreset]
              exact h.clean.resetTun
            · show (o.close builder).2.handles = []
              rw [hreset]
              exact resetTun_handles builder
          cases client with
          | none => exact ⟨hdestroyed rfl rfl, rfl, rfl, fun _ => rfl, id⟩
          | some c =>
              obtain ⟨halt, impl, tunPersist⟩ := c
              cases tunPersist with
              | none =>
                  refine ⟨hdestroyed ?_ rfl, rfl, rfl, fun _ => rfl, id⟩
                  cases hlive : State.live ⟨retainSd, builder, some o, some ⟨halt, impl, none⟩, failed, ended⟩ with
                  | none => exact hlive
                  | some k => cases (h.live k hlive).2
              | some p =>
                cases p with
                | owned o' => exact absurd rfl (h.exclusive rfl o')
                | shared =>
                    refine ⟨⟨h.clean, h.unarmed, h.live, fun hsome => (by cases hsome), h.reuse, h.ended⟩,
                      rfl, rfl,
                      fun _ => rfl, fun hnone => (by cases hnone)⟩

/-- The `TunPersist` that `tun_start` works with. -/
def current (s : State) : TunPersist := s.persist.getD (.new false s.retainSd)

/-- `socketpair` is reached, and succeeds. -/
def Reaches (s : State) (x : Setup) : Prop :=
  ((s.current.matchPersisted x).usePersistedTun = false ∧ x.configured = true) ∧ Pairs x.delegate x.calls

/-- Both ends of the new pair are wrapped, and the core either leaves its end to the bridge or does not
get it. -/
def Wraps (s : State) (x : Setup) : Prop :=
  x.calls.createPacketFlowSocket = true ∧ x.calls.createOpenVPNSocket = true ∧
    (s.retainSd = true ∨ x.calls.setsockopt = false)

/-- The client holds a `TunPersist` that is not going to close a descriptor. -/
theorem hold_inv (hended : s.ended = false) {o : TunPersist} {b : Builder} (hb : b.Clean)
    (hunarmed : o.armed = none) (hretain : o.retainObj = s.retainSd) {impl : Option Handle}
    (himpl : ∀ sd, impl = some sd → b.bridge.openVPNSocket = some sd) {t : State} {failed : Bool}
    (hreuse : failed = false → o.options ≠ "" → ∀ h, o.obj = some h → b.bridge.openVPNSocket = some h)
    (ht : t = { s.hold o b impl with failed := failed }) : t.Inv := by
  subst ht
  obtain ⟨retainSd, builder, persist, client, _, ended⟩ := s
  have hnot : ended = true → b.handles = [] := fun h => by
    rw [show ended = false from hended] at h
    cases h
  cases persist with
  | none =>
      refine ⟨hb, ?_, fun h hh => ⟨himpl h hh, rfl⟩, fun h => (by cases h), fun hgo => ?_, hnot⟩
      · exact List.forall_mem_singleton.mpr ⟨hunarmed, hretain⟩
      · exact List.forall_mem_singleton.mpr (hreuse hgo)
  | some p =>
      refine ⟨hb, ?_, fun h hh => ⟨himpl h hh, rfl⟩, fun _ o ho => (by cases ho), fun hgo => ?_, hnot⟩
      · exact List.forall_mem_singleton.mpr ⟨hunarmed, hretain⟩
      · exact List.forall_mem_singleton.mpr (hreuse hgo)

theorem Inv.failed {s' : State} (h : s.Inv) (hs : s' = { s with failed := true }) : s'.Inv := by
  subst hs
  exact ⟨h.clean, h.unarmed, h.live, h.exclusive, fun hgo => (by cases hgo), h.ended⟩

theorem Inv.current (h : s.Inv) : s.current.armed = none ∧ s.current.retainObj = s.retainSd ∧
    (s.failed = false → s.current.options ≠ "" → ∀ k, s.current.obj = some k →
      s.builder.bridge.openVPNSocket = some k) := by
  obtain ⟨retainSd, builder, persist, client, failed, ended⟩ := s
  cases persist with
  | none =>
      refine ⟨?_, rfl, fun _ hne => absurd rfl hne⟩
      cases retainSd <;> rfl
  | some o =>
      obtain ⟨hunarmed, hretain⟩ := h.unarmed o List.mem_cons_self
      exact ⟨hunarmed, hretain, fun hgo => h.reuse hgo o List.mem_cons_self⟩

theorem armed_of_obj {o o' : TunPersist} (hobj : o'.obj = o.obj) (hretain : o'.retainObj = o.retainObj) :
    o'.armed = o.armed := by
  rw [TunPersist.armed, TunPersist.armed, hobj, hretain]

theorem tunStart_inv (h : s.Inv) (hlive : s.live = none) (hgo : s.failed = false)
    (hended : s.ended = false) (x : Setup) (hwraps : s.Reaches x → s.Wraps x) : (s.tunStart x).Inv := by
  obtain ⟨hinv, hquiet, -, hpersist⟩ := release_inv h hlive
  have hcurrent : s.release.persist.getD (.new false s.release.retainSd) = s.current := by
    rw [hpersist, hquiet.retainSd, current]
  obtain ⟨hunarmed, hretain, hreuse⟩ := h.current
  have hreuse' : s.current.options ≠ "" → ∀ k, s.current.obj = some k →
      s.release.builder.bridge.openVPNSocket = some k := by
    have hreleased := hinv.current.2.2
    rw [show s.release.current = s.current from hcurrent, hquiet.failed] at hreleased
    exact hreleased hgo
  have hended' : s.release.ended = false := hquiet.ended.trans hended
  -- the handler of exceptions tears the tunnel down
  have hthrown {o : TunPersist} {b : Builder} (hb : b.Clean) (ho : o.armed = none)
      (hsame : o.retainObj = s.current.retainObj) :
      State.Inv { ((s.release.hold (o.close b).1 (o.close b).2 none).stop) with failed := true } := by
    have hclosed : (o.close b).2.Clean := by
      rw [close_unarmed ho]
      exact hb.resetTun
    have hnone : (o.close b).1.armed = none := by
      rw [TunPersist.armed]
      split
      · rfl
      · rfl
    have hheld : (s.release.hold (o.close b).1 (o.close b).2 none).Inv :=
      hold_inv hended' hclosed hnone (hsame.trans (hretain.trans hquiet.retainSd.symm))
        (fun sd hsd => by cases hsd) (fun _ hne => absurd rfl hne) rfl
    exact (stop_inv hheld).1.failed rfl
  have hfinish {o : TunPersist} {b : Builder} {sd : Handle} (hb : b.Clean) (ho : o.armed = none)
      (hsame : o.retainObj = s.current.retainObj) (hsd : b.bridge.openVPNSocket = some sd) (hobj : o.obj = some sd)
      (heq : tunSetup x s.current s.release.builder = (if x.started then .running sd else .thrown, o, b)) :
      (s.tunStart x).Inv := by
    rw [tunStart, hcurrent, heq]
    cases x.started with
    | false => exact hthrown hb ho hsame
    | true =>
        refine hold_inv hended' hb ho (hsame.trans (hretain.trans hquiet.retainSd.symm)) ?_ ?_ rfl
        · intro k hk
          cases hk
          exact hsd
        · intro _ _ k hk
          rw [hobj] at hk
          exact hk ▸ hsd
  have hclean := hinv.clean
  have hwrap (hreaches : (s.current.matchPersisted x).usePersistedTun = false ∧ x.configured = true) :
      (s.release.builder.resetTun.tunBuilderEstablish x.delegate x.calls).2.Clean :=
    hclean.resetTun.establish (resetTun_handles _) fun hpairs =>
      ⟨(hwraps ⟨hreaches, hpairs⟩).1, (hwraps ⟨hreaches, hpairs⟩).2.1⟩
  generalize hresult : tunSetup x s.current s.release.builder = result
  cases hresult ▸ tunSetup_cases x s.current s.release.builder with
  | reused sd o' hmatch hobj hobj' hsame =>
      have hopenVPN := hreuse' (matchPersisted_used hmatch).1 sd hobj
      exact hfinish hclean ((armed_of_obj (hobj'.trans hobj.symm) hsame).trans hunarmed) hsame hopenVPN
          hobj' hresult
  | unconfigured o' _ hobj' hsame =>
      rw [tunStart, hcurrent, hresult]
      exact hthrown hclean.resetTun ((armed_of_obj hobj' hsame).trans hunarmed) hsame
  | noSocket o' hreaches hsd hobj' hsame =>
      rw [tunStart, hcurrent, hresult]
      exact hold_inv hended' (hwrap hreaches) ((armed_of_obj hobj' hsame).trans hunarmed)
        (hsame.trans (hretain.trans hquiet.retainSd.symm)) (fun sd hsd => by cases hsd)
          (fun hgo => by cases hgo) rfl
  | established sd o' hreaches hsd hobj' hsame =>
      obtain ⟨-, bridge, heq, -⟩ | ⟨hpairs, sd', b', heq, -, -, -, -, hall, hopenVPN⟩ :=
        establish_cases x.delegate x.calls (resetTun_handles s.release.builder)
      · rw [heq] at hsd
        cases hsd
      · have hcalls := hwraps ⟨hreaches, hpairs⟩
        have hretained : s.retainSd = true := by
          refine hcalls.2.2.resolve_right fun hset => ?_
          rw [heq] at hsd
          rw [hset, Bool.and_false] at hall
          rw [hall] at hsd
          cases hsd
        have ho : o'.armed = none := by
          rw [TunPersist.armed, hsame, hretain, hretained]
          rfl
        refine hfinish ?_ ho hsame ?_ hobj' hresult
        · rw [hunarmed]
          exact hwrap hreaches
        · rw [hunarmed, heq]
          rw [heq] at hsd
          exact hopenVPN sd hsd

theorem connect_inv (h : s.Inv) (hended : s.ended = false) (tunPersist : Bool) : (s.connect tunPersist).Inv := by
  obtain ⟨hinv, hquiet, hclient⟩ := destroyClient_inv h
  obtain ⟨hfinal, hended', hretain, hpersist, hclient'⟩ := finalize_inv hinv true
  have hnone := hclient' hclient
  have hlive : (s.connect tunPersist).live = none := by
    rw [live, connect, hnone]
    rfl
  have hheld : (s.connect tunPersist).held = none := by
    rw [held, connect, hnone]
    rfl
  have hgoes : (s.connect tunPersist).ended = false := hended'.trans (hquiet.ended.trans hended)
  have hnew : (TunPersist.new true (s.destroyClient.finalize true).retainSd).armed = none := by
    cases (s.destroyClient.finalize true).retainSd <;> rfl
  cases tunPersist with
  | false =>
      refine inv_of_idle hfinal.clean ?_ hlive fun h => ?_
      · rw [persists, hheld]
        rfl
      · rw [hgoes] at h
        cases h
  | true =>
      have hall : (s.connect true).persists = [.new true (s.destroyClient.finalize true).retainSd] := by
        rw [persists, hheld]
        rfl
      refine ⟨hfinal.clean, ?_, fun h hh => ?_, fun _ o ho => ?_, fun _ => ?_, fun h => ?_⟩
      · rw [hall]
        exact List.forall_mem_singleton.mpr ⟨hnew, rfl⟩
      · rw [hlive] at hh
        cases hh
      · rw [hheld] at ho
        cases ho
      · rw [hall]
        exact List.forall_mem_singleton.mpr fun hne => absurd rfl hne
      · rw [hgoes] at h
        cases h

theorem dealloc_inv (h : s.Inv) : s.dealloc.Inv := by
  obtain ⟨hinv, -, hclient⟩ := destroyClient_inv h
  obtain ⟨hfinal, -, -, hpersist, hclient'⟩ := finalize_inv hinv true
  have hnone := hclient' hclient
  refine inv_of_idle hfinal.clean.resetTun ?_ ?_ fun _ => resetTun_handles _
  · rw [persists, held, dealloc, hnone, hpersist rfl]
    rfl
  · rw [live, dealloc, hnone]
    rfl

theorem live_of_fresh {c : Client} (hclient : s.client = some c) (hfresh : ¬c.impl.isSome) : s.live = none := by
  rw [live, hclient, Option.bind_some, Option.not_isSome_iff_eq_none.mp hfresh, ite_self]

theorem step_inv {s t : State} {a : Action} (h : s.Inv) (hstep : s.step a = some t)
    (hwraps : ∀ x, a = .tunStart x → s.Reaches x → s.Wraps x) : t.Inv := by
  rw [step.eq_def] at hstep
  split at hstep
  · cases hstep
  · rename_i hended
    have hended := Bool.eq_false_iff.mpr hended
    cases a with
    | connect tunPersist =>
        obtain rfl := Option.some.inj hstep
        exact connect_inv h hended tunPersist
    | newClient =>
        simp only at hstep
        split at hstep
        · cases hstep
        · obtain rfl := Option.some.inj hstep
          have hinv := (destroyClient_inv h).1
          refine hinv.forget rfl rfl rfl rfl rfl ?_ fun _ o ho => by cases ho
          intro o ho
          have ho' : o ∈ s.destroyClient.persist.toList := by simpa [persists, held, newClient] using ho
          exact List.mem_append_left _ ho'
    | tunStart x =>
        cases hclient : s.client with
        | none =>
            rw [hclient] at hstep
            cases hstep
        | some c =>
            simp only [hclient] at hstep
            split at hstep
            · cases hstep
            · rename_i hready
              obtain rfl := Option.some.inj hstep
              obtain ⟨hgo, hfresh⟩ := not_or.mp (mt Bool.or_eq_true_iff.mpr hready)
              exact tunStart_inv h (live_of_fresh hclient hfresh) (Bool.eq_false_iff.mpr hgo) hended x
                  (hwraps x rfl)
    | stop =>
        obtain rfl := Option.some.inj hstep
        exact (stop_inv h).1
    | finalize disconnected =>
        obtain rfl := Option.some.inj hstep
        exact (finalize_inv h disconnected).1
    | openOther =>
        obtain rfl := Option.some.inj hstep
        exact ⟨h.clean.openOther, h.unarmed, h.live, h.exclusive, h.reuse, h.ended⟩
    | closeOther k =>
        simp only at hstep
        split at hstep
        · rename_i hk
          obtain rfl := Option.some.inj hstep
          exact ⟨h.clean.closeOther hk, h.unarmed, h.live, h.exclusive, h.reuse, h.ended⟩
        · cases hstep
    | dealloc =>
        obtain rfl := Option.some.inj hstep
        exact dealloc_inv h

/-- What the process may expect of its descriptors: no `close` goes astray, those of its other parts and
that of the tunnel that runs stay open, and at the end every descriptor of a `socketpair` has been closed once. -/
structure Kept (s : State) : Prop where
  astray : s.builder.kernel.misdirected = []
  others : ∀ h ∈ s.builder.others, h ∈ s.builder.kernel.opened
  live : ∀ h, s.live = some h → h ∈ s.builder.kernel.opened
  closed : s.ended = true → ∀ h ∈ s.builder.created, s.builder.kernel.closed.count h = 1

theorem Inv.kept (h : s.Inv) : s.Kept where
  astray := h.clean.astray
  others k hk := (h.clean.othersOpen k hk).1
  live k hk := by
    have howned : k ∈ s.builder.handles := by
      rw [handles, (h.live k hk).1]
      exact List.mem_cons_self
    exact (h.clean.handlesOpen k howned).1
  closed hended k hk := by
    obtain ⟨hknown, howned⟩ := h.clean.created k hk
    rw [h.ended hended] at howned
    exact List.count_eq_one_of_mem (closed_nodup h.clean.sound)
        (hknown.resolve_left fun hopen => by cases howned hopen)

/-- The descriptors that the `TunPersist`s are going to close. -/
def objs (s : State) : List Handle := (s.held.bind Held.armed).toList ++ (s.persist.bind TunPersist.armed).toList

/-- A state from which no end of the adapter's life is a good one. -/
structure Condemned (s : State) : Prop where
  sound : Sound s.builder.kernel
  doomed : s.builder.Doomed s.objs

theorem destroy_lost {b : Builder} {o : TunPersist} {objs : List Handle} (hb : Sound b.kernel)
    (h : b.Doomed (o.armed.toList ++ objs)) : Sound (o.close b).2.kernel ∧ (o.close b).2.Lost objs :=
  ⟨sound_closeFd _ (sound_resetTun hb), (h.resetTun hb).closeFd (sound_resetTun hb)⟩

theorem release_condemned (h : s.Condemned) :
    s.release.Condemned ∧ s.release.held = none ∧ s.release.persist = s.persist ∧
      s.release.retainSd = s.retainSd := by
  obtain ⟨hsound, hdoomed⟩ := h
  obtain ⟨retainSd, builder, persist, client, failed, ended⟩ := s
  cases client with
  | none => exact ⟨⟨hsound, hdoomed⟩, rfl, rfl, rfl⟩
  | some c =>
      obtain ⟨halt, impl, tunPersist⟩ := c
      cases tunPersist with
      | none => exact ⟨⟨hsound, hdoomed⟩, rfl, rfl, rfl⟩
      | some p =>
        cases p with
        | shared => exact ⟨⟨hsound, hdoomed⟩, rfl, rfl, rfl⟩
        | owned o =>
            obtain ⟨hsound', hlost⟩ := destroy_lost hsound hdoomed
            exact ⟨⟨hsound', .inl hlost⟩, rfl, rfl, rfl⟩

theorem stop_condemned (h : s.Condemned) : s.stop.Condemned := by
  obtain ⟨hsound, hdoomed⟩ := h
  obtain ⟨retainSd, builder, persist, client, failed, ended⟩ := s
  cases client with
  | none => exact ⟨hsound, hdoomed⟩
  | some c =>
      obtain ⟨halt, impl, tunPersist⟩ := c
      cases halt with
      | true => exact ⟨hsound, hdoomed⟩
      | false =>
          have hhalted :
              (⟨retainSd, builder, persist, some ⟨true, impl, tunPersist⟩, failed, ended⟩ : State).Condemned :=
            ⟨hsound, hdoomed⟩
          exact (release_condemned hhalted).1

theorem destroyClient_condemned (h : s.Condemned) : s.destroyClient.Condemned ∧ s.destroyClient.client = none := by
  obtain ⟨hrelease, hheld, -⟩ := release_condemned (stop_condemned h)
  refine ⟨⟨hrelease.sound, ?_⟩, rfl⟩
  have hdoomed := hrelease.doomed
  rw [objs, hheld] at hdoomed
  exact hdoomed

theorem finalize_condemned (h : s.Condemned) (disconnected : Bool) : (s.finalize disconnected).Condemned := by
  obtain ⟨hsound, hdoomed⟩ := h
  obtain ⟨retainSd, builder, persist, client, failed, ended⟩ := s
  cases persist with
  | none => exact ⟨hsound, hdoomed⟩
  | some o =>
      cases disconnected with
      | false => exact ⟨hsound, hdoomed⟩
      | true =>
          have hdestroyed (client : Option Client)
              (h : builder.Doomed
                (((State.held ⟨retainSd, builder, none, client, failed, ended⟩).bind Held.armed).toList ++
                o.armed.toList)) :
                  (State.destroy o ⟨retainSd, builder, none, client, failed, ended⟩).Condemned := by
            obtain ⟨hsound', hlost⟩ := destroy_lost hsound (h.congr fun k => List.perm_append_comm.mem_iff)
            exact ⟨hsound', .inl (hlost.congr fun k => (List.append_nil (Option.toList _)).symm ▸ Iff.rfl)⟩
          cases client with
          | none => exact hdestroyed none hdoomed
          | some c =>
              obtain ⟨halt, impl, tunPersist⟩ := c
              cases tunPersist with
              | none => exact hdestroyed _ hdoomed
              | some p =>
                cases p with
                | owned o' => exact hdestroyed _ hdoomed
                | shared =>
                    have hnil : o.armed.toList ++ [] = o.armed.toList := List.append_nil _
                    have hdoomed : builder.Doomed o.armed.toList := hdoomed
                    rw [← hnil] at hdoomed
                    exact ⟨hsound, hdoomed⟩

/-- What is condemned before a client starts its tunnel stays so. -/
theorem tunSetup_condemned {b : Builder} (hb : Sound b.kernel) {o : TunPersist}
    (h : b.Doomed o.armed.toList) (x : Setup) :
    Sound (tunSetup x o b).2.2.kernel ∧ (tunSetup x o b).2.2.Doomed (tunSetup x o b).2.1.armed.toList := by
  have hreset := h.resetTun hb
  have hestablish := hreset.establish (sound_resetTun hb) (resetTun_handles b) x.delegate x.calls
  have hsound := sound_establish x.delegate x.calls (sound_resetTun hb)
  generalize hresult : tunSetup x o b = result
  cases hresult ▸ tunSetup_cases x o b with
  | reused sd o' hmatch hobj hobj' hsame =>
      rw [← armed_of_obj (hobj'.trans hobj.symm) hsame] at h
      exact ⟨hb, h⟩
  | unconfigured o' _ hobj' hsame =>
      rw [← armed_of_obj hobj' hsame] at hreset
      exact ⟨sound_resetTun hb, .inl hreset⟩
  | noSocket o' _ _ hobj' hsame =>
      rw [← armed_of_obj hobj' hsame] at hestablish
      exact ⟨hsound, .inl hestablish⟩
  | established sd o' _ hsd hobj' _ =>
      have hclosed : ((b.resetTun.tunBuilderEstablish x.delegate x.calls).2.closeFd o.armed).Lost [] :=
        Lost.closeFd hsound (by rwa [List.append_nil])
      have howned : sd ∈ ((b.resetTun.tunBuilderEstablish x.delegate x.calls).2.closeFd o.armed).handles := by
        rw [closeFd_handles, handles, establish_openVPNSocket hsd]
        exact List.mem_cons_self
      refine ⟨sound_closeFd _ hsound, .inl ?_⟩
      show ((b.resetTun.tunBuilderEstablish x.delegate x.calls).2.closeFd o.armed).Lost o'.armed.toList
      have harmed : o'.armed = if o'.retainObj then none else some sd := by rw [TunPersist.armed, hobj']
      rw [harmed]
      split
      · exact hclosed
      · exact hclosed.arm howned

/-- However the set-up of a condemned tunnel ends, `tun_start` leaves it condemned. -/
theorem tunStart_condemned_of (x : Setup)
    (h : Sound (tunSetup x s.release.current s.release.builder).2.2.kernel ∧
      (tunSetup x s.release.current s.release.builder).2.2.Doomed
        (tunSetup x s.release.current s.release.builder).2.1.armed.toList) : (s.tunStart x).Condemned := by
  have hhold {o : TunPersist} {b : Builder} {i : Option Handle} (hsound : Sound b.kernel)
      (hdoomed : b.Doomed o.armed.toList) : (s.release.hold o b i).Condemned := by
    generalize s.release = s'
    obtain ⟨retainSd, builder, persist, client, failed, ended⟩ := s'
    cases persist with
    | none => exact ⟨hsound, hdoomed.congr fun k => by simp [objs, held, hold, Held.armed]⟩
    | some p => exact ⟨hsound, hdoomed⟩
  rw [tunStart]
  rw [current] at h
  generalize tunSetup x (s.release.persist.getD (.new false s.release.retainSd)) s.release.builder = result at h ⊢
  obtain ⟨started, o, b⟩ := result
  obtain ⟨hsound, hdoomed⟩ := h
  cases started with
  | running sd => exact hhold hsound hdoomed
  | noSocket => exact ⟨(hhold hsound hdoomed).sound, (hhold hsound hdoomed).doomed⟩
  | thrown =>
      have hnone : (o.close b).1.armed = none := by
        rw [TunPersist.armed]
        split <;> rfl
      rw [← List.append_nil o.armed.toList] at hdoomed
      obtain ⟨hsound', hlost⟩ := destroy_lost hsound hdoomed
      have hclosed : (o.close b).2.Doomed (o.close b).1.armed.toList := by rw [hnone]; exact .inl hlost
      have hstop := stop_condemned (hhold (i := none) hsound' hclosed)
      exact ⟨hstop.sound, hstop.doomed⟩

theorem tunStart_condemned (h : s.Condemned) (x : Setup) : (s.tunStart x).Condemned := by
  obtain ⟨hrelease, hheld, -⟩ := release_condemned h
  refine tunStart_condemned_of x (tunSetup_condemned hrelease.sound ?_ x)
  have hdoomed := hrelease.doomed
  rw [objs, hheld] at hdoomed
  rw [current]
  cases hpersist : s.release.persist with
  | none =>
      rw [hpersist] at hdoomed
      have hnew : (TunPersist.new false s.release.retainSd).armed = none := by cases s.release.retainSd <;> rfl
      rw [Option.getD_none, hnew]
      exact hdoomed
  | some o =>
      rw [hpersist] at hdoomed
      exact hdoomed

/-- A pair that is not wrapped on both sides, or that the core is to close as well, condemns the state. -/
theorem tunStart_condemned_of_not_wraps (h : s.Inv) (hlive : s.live = none) (x : Setup) (hreaches : s.Reaches x)
    (hwraps : ¬s.Wraps x) : (s.tunStart x).Condemned := by
  obtain ⟨hinv, hquiet, hheld, hpersist⟩ := release_inv h hlive
  have hcurrent : s.release.current = s.current := by rw [current, current, hpersist, hquiet.retainSd]
  obtain ⟨hunarmed, hretain, -⟩ := h.current
  refine tunStart_condemned_of x ?_
  rw [hcurrent]
  have hclean := hinv.clean.resetTun
  obtain ⟨⟨hmatch, hconfigured⟩, hpairs⟩ := hreaches
  obtain ⟨hnot, -⟩ | ⟨-, sd', b', heq, hkernel, hcreated, hothers, hhandles, hall, -⟩ :=
    establish_cases x.delegate x.calls (resetTun_handles s.release.builder)
  · exact absurd hpairs hnot
  · obtain ⟨hfirst, hsecond, hne⟩ := pair_fresh hclean.sound
    have hsound : Sound b'.kernel := hkernel ▸ sound_allocate (sound_allocate hclean.sound)
    have hopened : b'.kernel.opened =
        (pair s.release.builder.resetTun.kernel).2 :: (pair s.release.builder.resetTun.kernel).1 ::
          s.release.builder.resetTun.kernel.opened := by
      rw [hkernel]
      rfl
    have hnew {k : Handle}
        (hk : k ∉ s.release.builder.resetTun.kernel.opened ++ s.release.builder.resetTun.kernel.closed) :
        k ∉ b'.others := fun hmem =>
      hk (List.mem_append_left _ (hclean.othersOpen k (hothers ▸ hmem)).1)
    -- a descriptor that nothing wraps is lost at once
    have hunwrapped (hmissing : x.calls.createPacketFlowSocket = false ∨ x.calls.createOpenVPNSocket =
        false) : b'.Lost [] := by
      refine .inr (.inl ?_)
      rw [hcreated, hopened, hhandles]
      rcases hmissing with hmissing | hmissing
      · refine ⟨_, List.mem_cons_of_mem _ List.mem_cons_self, List.mem_cons_of_mem _ List.mem_cons_self,
          ?_, hnew hfirst,
          List.not_mem_nil⟩
        simp only [hmissing, Bool.false_eq_true, if_false, List.append_nil]
        split
        · exact fun hmem => hne (List.mem_singleton.mp hmem).symm
        · exact List.not_mem_nil
      · refine ⟨_, List.mem_cons_self, List.mem_cons_self, ?_, hnew hsecond, List.not_mem_nil⟩
        simp only [hmissing, Bool.false_eq_true, if_false, List.nil_append]
        split
        · exact fun hmem => hne (List.mem_singleton.mp hmem)
        · exact List.not_mem_nil
    generalize hresult : tunSetup x s.current s.release.builder = result
    cases hresult ▸ tunSetup_cases x s.current s.release.builder with
    | reused sd o' hmatch' hobj hobj' hsame =>
        rw [hmatch] at hmatch'
        cases hmatch'
    | unconfigured o' hconfigured' hobj' hsame =>
        rw [hconfigured] at hconfigured'
        cases hconfigured'
    | noSocket o' _ hsd hobj' hsame =>
        have harmed : o'.armed = none := (armed_of_obj hobj' hsame).trans hunarmed
        have hmissing : x.calls.createPacketFlowSocket = false ∨ x.calls.createOpenVPNSocket = false := by
          by_contra hboth
          obtain ⟨hpacketFlow, hopenVPN⟩ := not_or.mp hboth
          rw [Bool.not_eq_false] at hpacketFlow hopenVPN
          refine hwraps ⟨hpacketFlow, hopenVPN, .inr ?_⟩
          rw [heq, hall, hpacketFlow, hopenVPN] at hsd
          cases hset : x.calls.setsockopt with
          | false => rfl
          | true =>
              rw [hset] at hsd
              cases hsd
        rw [heq, harmed]
        exact ⟨hsound, .inl (hunwrapped hmissing)⟩
    | established sd o' _ hsd hobj' hsame =>
        rw [heq, hunarmed]
        have hopenVPN := establish_openVPNSocket hsd
        rw [heq] at hsd hopenVPN
        have hcalls :
            (x.calls.createPacketFlowSocket && x.calls.createOpenVPNSocket && x.calls.setsockopt) = true := by
          by_contra hfails
          rw [if_neg hfails] at hall
          rw [hall] at hsd
          cases hsd
        simp only [Bool.and_eq_true] at hcalls
        have hretained : s.retainSd = false := by
          cases hs : s.retainSd with
          | false => rfl
          | true => exact absurd ⟨hcalls.1.1, hcalls.1.2, .inl hs⟩ hwraps
        have harmed : o'.armed = some sd := by
          rw [TunPersist.armed, hsame, hretain, hretained, hobj']
          rfl
        have howned : sd ∈ b'.handles := by
          rw [handles, hopenVPN]
          exact List.mem_cons_self
        have hissued : sd.serial < b'.kernel.issued := by
          refine hsound.issued sd (List.mem_append_left _ ?_)
          rw [if_pos (by simp [hcalls])] at hall
          have hsd' : sd = (pair s.release.builder.resetTun.kernel).2 := Option.some.inj (hsd.symm.trans hall)
          rw [hopened, hsd']
          exact List.mem_cons_self
        refine ⟨hsound, .inr ⟨sd, ?_, hissued, howned⟩⟩
        rw [harmed]
        exact List.mem_cons_self

theorem dealloc_not_kept (h : s.Condemned) : ¬s.dealloc.Kept := by
  obtain ⟨hdestroyed, hclient⟩ := destroyClient_condemned h
  have hfinal := finalize_condemned hdestroyed true
  have hobjs : (s.destroyClient.finalize true).objs = [] := by
    generalize s.destroyClient = s' at hclient
    obtain ⟨retainSd, builder, persist, client, failed, ended⟩ := s'
    obtain rfl : client = none := hclient
    cases persist <;> rfl
  have hdoomed := hfinal.doomed
  rw [hobjs] at hdoomed
  have hlost := hdoomed.resetTun hfinal.sound
  intro hkept
  rcases hlost with hastray | ⟨k, hnew, hopen, -⟩ | ⟨k, hmem, -⟩
  · exact hastray hkept.astray
  · have honce := hkept.closed rfl k hnew
    have hclosed : k ∈ s.dealloc.builder.kernel.closed := List.count_pos_iff.mp (by omega)
    have hsound : Sound s.dealloc.builder.kernel := sound_resetTun hfinal.sound
    exact (List.disjoint_of_nodup_append (hsound.serials.of_map _)) hopen hclosed
  · cases hmem

theorem step_condemned {t : State} {a : Action} (h : s.Condemned) (hstep : s.step a = some t) (ha : a ≠ .dealloc) :
    t.Condemned := by
  rw [step.eq_def] at hstep
  split at hstep
  · cases hstep
  · cases a with
    | connect tunPersist =>
        obtain rfl := Option.some.inj hstep
        obtain ⟨hdestroyed, hclient⟩ := destroyClient_condemned h
        have hfinal := finalize_condemned hdestroyed true
        refine ⟨hfinal.sound, ?_⟩
        have hdoomed := hfinal.doomed
        have hobjs : (s.connect tunPersist).objs = (s.destroyClient.finalize true).objs := by
          rw [connect]
          generalize s.destroyClient = s' at hclient
          obtain ⟨retainSd, builder, persist, client, failed, ended⟩ := s'
          obtain rfl : client = none := hclient
          cases persist <;> cases tunPersist <;> cases retainSd <;> rfl
        rw [hobjs]
        exact hdoomed
    | newClient =>
        simp only at hstep
        split at hstep
        · cases hstep
        · obtain rfl := Option.some.inj hstep
          obtain ⟨hdestroyed, hclient⟩ := destroyClient_condemned h
          exact ⟨hdestroyed.sound, hdestroyed.doomed⟩
    | tunStart x =>
        simp only at hstep
        split at hstep
        · cases hstep
        · split at hstep
          · cases hstep
          · obtain rfl := Option.some.inj hstep
            exact tunStart_condemned h x
    | stop =>
        obtain rfl := Option.some.inj hstep
        exact stop_condemned h
    | finalize disconnected =>
        obtain rfl := Option.some.inj hstep
        exact finalize_condemned h disconnected
    | openOther =>
        obtain rfl := Option.some.inj hstep
        exact ⟨sound_allocate h.sound, h.doomed.openOther h.sound⟩
    | closeOther k =>
        simp only at hstep
        split at hstep
        · rename_i hk
          obtain rfl := Option.some.inj hstep
          exact ⟨sound_close h.sound k, h.doomed.closeOther h.sound hk⟩
        · cases hstep
    | dealloc => exact absurd rfl ha

theorem run_condemned {t : State} {as : List Action} (h : s.Condemned)
    (hrun : run step s (as ++ [.dealloc]) = some t) :
    ¬t.Kept := by
  induction as generalizing s with
  | nil =>
      obtain ⟨u, hu, ht⟩ := run_cons_eq_some.mp hrun
      obtain rfl : u = t := Option.some.inj ht
      rw [step.eq_def] at hu
      split at hu
      · cases hu
      · obtain rfl := Option.some.inj hu
        exact dealloc_not_kept h
  | cons a as ih =>
      obtain ⟨u, hu, ht⟩ := run_cons_eq_some.mp hrun
      by_cases ha : a = .dealloc
      · -- nothing comes after the end
        subst ha
        have hended : u.ended = true := by
          rw [step.eq_def] at hu
          split at hu
          · cases hu
          · obtain rfl := Option.some.inj hu
            rfl
        obtain ⟨b, bs, hbs⟩ :=
            List.exists_cons_of_ne_nil (List.append_ne_nil_of_right_ne_nil as (List.cons_ne_nil Action.dealloc []))
        have ht : run step u (as ++ [.dealloc]) = some t := ht
        rw [hbs] at ht
        obtain ⟨v, hv, -⟩ := run_cons_eq_some.mp ht
        rw [step.eq_def, if_pos hended] at hv
        cases hv
      · exact ih (step_condemned h hu ha) ht

theorem init_inv (retainSd : Bool) : (State.init retainSd).Inv := by
  refine inv_of_idle ⟨sound_empty, rfl, List.nodup_nil, ?_, List.nodup_nil, ?_, ?_⟩ rfl rfl fun h => (by cases h)
  · exact List.forall_mem_nil _
  · exact List.forall_mem_nil _
  · exact List.forall_mem_nil _

/-- The condition on a step. -/
def Wrapped (s : State) (a : Action) (_ : State) : Prop := ∀ x, a = .tunStart x → s.Reaches x → s.Wraps x

theorem kept_iff_wrapped_of_inv {as : List Action} (h : s.Inv) (hrun : (run step s (as ++ [.dealloc])).isSome) :
    Throughout step Kept s (as ++ [.dealloc]) ↔ Guarded step Wrapped s (as ++ [.dealloc]) := by
  refine ⟨fun hkept => ?_, fun hwrapped => ?_⟩
  · obtain ⟨t, ht⟩ := Option.isSome_iff_exists.mp hrun
    have hend := hkept.last ht
    clear hrun hkept
    induction as generalizing s with
    | nil => exact fun u _ => ⟨fun x hx => (by cases hx), trivial⟩
    | cons a as ih =>
        intro u hu
        have hut : run step u (as ++ [.dealloc]) = some t := by
          obtain ⟨u', hu', ht'⟩ := run_cons_eq_some.mp ht
          rw [hu] at hu'
          obtain rfl := Option.some.inj hu'
          exact ht'
        have hwraps : Wrapped s a u := by
          rintro x rfl hreaches
          by_contra hwraps
          have hcondemned : u.Condemned := by
            rw [step.eq_def] at hu
            split at hu
            · cases hu
            · cases hclient : s.client with
              | none =>
                  simp only [hclient] at hu
                  cases hu
              | some c =>
                  simp only [hclient] at hu
                  split at hu
                  · cases hu
                  · rename_i hready
                    obtain rfl := Option.some.inj hu
                    exact tunStart_condemned_of_not_wraps h
                        (live_of_fresh hclient (not_or.mp (mt Bool.or_eq_true_iff.mpr hready)).2) x
                      hreaches hwraps
          exact run_condemned hcondemned hut hend
        exact ⟨hwraps, ih (step_inv h hu hwraps) hut⟩
  · exact (throughout_of_guarded (fun _ _ _ hinv hstep hwraps => step_inv hinv hstep hwraps) h
      hwrapped).mono fun _ => Inv.kept

/-- Over a whole life of the adapter, on both platforms, with and without persistence and whatever else
the process opens and closes: the descriptors are kept exactly when every pair the bridge makes is
wrapped on both sides and, where the core closes its descriptor, is refused afterwards. -/
theorem kept_iff_wrapped (retainSd : Bool) (as : List Action)
    (hrun : (run step (.init retainSd) (as ++ [.dealloc])).isSome) :
    Throughout step Kept (.init retainSd) (as ++ [.dealloc]) ↔
      Guarded step (fun s a _ => ∀ x, a = .tunStart x → s.Reaches x → s.Wraps x) (.init retainSd)
        (as ++ [.dealloc]) :=
  kept_iff_wrapped_of_inv (init_inv retainSd) hrun

def sampleSetup : Setup := ⟨some "tun", true, true, .accepted, ⟨true, true, true, true⟩, true⟩

/-- Without the core's `retain_sd` the core and the bridge both close the descriptor of the tunnel. -/
theorem closedTwice_not_kept :
    ¬ Throughout step Kept (.init false) ([.connect false, .newClient, .tunStart sampleSetup] ++ [.dealloc]) := by
  intro h
  have hends : ((run step (.init false) ([.connect false, .newClient, .tunStart sampleSetup] ++ [.dealloc])).map
      fun s => s.builder.kernel.misdirected) = some [⟨1, 1⟩] := by rfl
  obtain ⟨t, ht, hastray⟩ := Option.map_eq_some_iff.mp hends
  rw [(h.last ht).astray] at hastray
  cases hastray

/-- A tunnel that persists over a reconnection, on the platform where the core closes it too. -/
theorem kept_iff_wrapped_reconnected :
    Throughout step Kept (.init false)
        ([.connect true, .newClient, .tunStart sampleSetup, .stop, .newClient, .tunStart sampleSetup] ++
          [.dealloc]) ↔
      Guarded step (fun s a _ => ∀ x, a = .tunStart x → s.Reaches x → s.Wraps x) (.init false)
        ([.connect true, .newClient, .tunStart sampleSetup, .stop, .newClient, .tunStart sampleSetup] ++
          [.dealloc]) :=
  kept_iff_wrapped false _ rfl

end State

end OpenVPNAdapter.TunBuilderClient
