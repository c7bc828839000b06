import Mathlib.Data.List.MinMax
import Mathlib.Data.List.Nodup
import OpenVPNAdapter.Proto.PacketId

namespace OpenVPNAdapter.Proto.Replay

open PacketId

/-- A call of `test_add`; with `mod` a packet that passes is taken. -/
structure Call where
  pin : PacketID
  now : Int
  mod : Bool
deriving DecidableEq, Repr

/-- The receiver as it is meant: it remembers every packet it took. -/
structure Log where
  taken : List PacketID
  floor : Nat
  expire : Int
deriving DecidableEq, Repr

def Log.empty : Log := ⟨[], 0, 0⟩

def timeHigh (ps : List PacketID) : Int := (ps.map PacketID.time).foldr max 0

/-- The highest id among the packets of the latest time. -/
def idHigh (ps : List PacketID) : Nat :=
  ((ps.filter fun p => p.time = timeHigh ps).map fun p => p.id.toNat).foldr max 0

variable (w : Window)

/-- Ids that were the highest before a silence are not taken late. -/
def Log.tick (l : Log) (now : Int) : Log :=
  { l with floor := if now ≥ l.expire then idHigh l.taken else l.floor, expire := now + w.recvExpire }

def Log.error (l : Log) (pin : PacketID) : Error :=
  if pin.id = 0 then .pktidInvalid
  else if pin.time < timeHigh l.taken then .pktidTimeBacktrack
  else if timeHigh l.taken < pin.time then .success
  else verdict (8 * w.bytes) (idHigh l.taken) l.floor (pin ∈ l.taken) pin.id.toNat

def Log.take (l : Log) (pin : PacketID) : Log :=
  { l with taken := pin :: l.taken, floor := if timeHigh l.taken < pin.time then 0 else l.floor }

def Log.testAdd (l : Log) (c : Call) : Error × Log :=
  let l := l.tick w c.now
  let error := l.error w c.pin
  (error, if c.mod = true ∧ error = .success then l.take c.pin else l)

variable {w}

def receiverAnswers (r : PacketIDReceive w) : List Call → Option (List Error)
  | [] => some []
  | c :: cs => (r.doTestAdd c.pin c.now c.mod).bind fun (error, r) => (receiverAnswers r cs).map (error :: ·)

variable (w) in
def logAnswers (l : Log) : List Call → List Error
  | [] => []
  | c :: cs => (l.testAdd w c).1 :: logAnswers (l.testAdd w c).2 cs

/-- The packets that the calls took. -/
def taken (calls : List Call) (errors : List Error) : List PacketID :=
  ((calls.zip errors).filter fun (c, e) => c.mod && e = .success).map fun (c, _) => c.pin

section High

variable {p q : PacketID} {ps : List PacketID}

theorem foldr_max_lt {α : Type} [LinearOrder α] {a b : α} {xs : List α} (ha : a < b) (h : ∀ x ∈ xs, x < b) :
    xs.foldr max a < b := by
  induction xs with
  | nil => exact ha
  | cons x xs ih =>
      obtain ⟨hx, hxs⟩ := List.forall_mem_cons.mp h
      exact max_lt hx (ih hxs)

theorem timeHigh_cons : timeHigh (p :: ps) = max p.time (timeHigh ps) := rfl

theorem le_timeHigh (h : p ∈ ps) : p.time ≤ timeHigh ps := List.le_max_of_le' 0 (List.mem_map_of_mem h) le_rfl

theorem le_idHigh (h : p ∈ ps) (ht : p.time = timeHigh ps) : p.id.toNat ≤ idHigh ps :=
  List.le_max_of_le' 0 (List.mem_map_of_mem (List.mem_filter.mpr ⟨h, by simpa using ht⟩)) le_rfl

/-- The ids start again with a new time. -/
theorem idHigh_newer (h : timeHigh ps < p.time) : idHigh (p :: ps) = p.id.toNat := by
  have hnone : ps.filter (fun q => q.time = p.time) = [] :=
    List.filter_eq_nil_iff.mpr fun q hq he => by
      have hle := le_timeHigh hq
      have heq : q.time = p.time := by simpa using he
      omega
  rw [idHigh, timeHigh_cons, max_eq_left h.le, List.filter_cons_of_pos (by simp), hnone]
  exact Nat.max_zero _

theorem idHigh_current (h : p.time = timeHigh ps) : idHigh (p :: ps) = max p.id.toNat (idHigh ps) := by
  rw [idHigh, timeHigh_cons, h, max_self, List.filter_cons_of_pos (by simpa using h)]
  rfl

end High

/-- The window of a receiver shows what is remembered of the latest time. -/
structure Follows (r : PacketIDReceive w) (l : Log) : Prop where
  initialized : r.initialized = true
  expire : r.expire = l.expire
  floor : r.idFloor.toNat = l.floor
  timeHigh : r.timeHigh = timeHigh l.taken
  idHigh : r.idHigh.toNat = idHigh l.taken
  current : Current r fun n => ∃ p ∈ l.taken, p.time = Replay.timeHigh l.taken ∧ p.id.toNat = n

variable {r : PacketIDReceive w} {l : Log}

theorem follows_init : Follows (.init w) Log.empty :=
  ⟨rfl, rfl, rfl, rfl, rfl, rfl, Library.BitRing.shows_nil, by rintro n ⟨p, hp, -⟩; cases hp⟩

theorem follows_tick (h : Follows r l) (now : Int) : Follows (r.tick now) (l.tick w now) := by
  refine ⟨h.initialized, rfl, ?_, h.timeHigh, h.idHigh, h.current.extent, h.current.shows, h.current.le⟩
  simp only [PacketIDReceive.tick, Log.tick, h.expire]
  split
  · exact h.idHigh
  · exact h.floor

theorem remembered_iff {pin : PacketID} (ht : pin.time = timeHigh l.taken) :
    (∃ p ∈ l.taken, p.time = timeHigh l.taken ∧ p.id.toNat = pin.id.toNat) ↔ pin ∈ l.taken := by
  constructor
  · rintro ⟨p, hp, htime, hid⟩
    have heq : p = pin := by
      cases p
      cases pin
      simp_all [UInt32.toNat_inj]
    exact heq ▸ hp
  · exact fun h => ⟨pin, h, ht, rfl⟩

/-- A packet of a later time is taken, and nothing of the times before counts any more. -/
theorem follows_newer (h : Follows r l) {pin : PacketID} (hid : pin.id ≠ 0) (ht : timeHigh l.taken < pin.time) :
    ∃ r', { r with base := 0, extent := 0, idHigh := 0, timeHigh := pin.time, idFloor := 0 }.testId pin.id true =
      (.success, r') ∧ Follows r' (l.take pin) := by
  have hempty : Current { r with base := 0, extent := 0, idHigh := 0, timeHigh := pin.time, idFloor := 0 }
      fun _ => False := ⟨(Nat.zero_min _).symm, Library.BitRing.shows_nil, fun _ => False.elim⟩
  have hpos : 0 < pin.id.toNat := Nat.pos_of_ne_zero fun hz => hid (UInt32.toNat_inj.mp hz)
  obtain ⟨herror, hkept, hhigh, hcurrent⟩ := testId_cases true hempty hid
  rw [verdict, if_pos (show (0 : UInt32).toNat < pin.id.toNat from hpos)] at herror
  refine ⟨_, Prod.ext herror rfl, ?_⟩
  simp only [herror, true_and, or_false, if_true, and_self] at hhigh hcurrent
  have htime : timeHigh (pin :: l.taken) = pin.time := max_eq_left ht.le
  have hhigh' : _ = idHigh (pin :: l.taken) := hhigh.trans ((Nat.max_zero _).trans (idHigh_newer ht).symm)
  refine ⟨hkept.initialized.trans h.initialized, hkept.expire.trans h.expire, ?_,
    hkept.timeHigh.trans htime.symm, hhigh',
    hcurrent.congr fun n => ?_⟩
  · rw [hkept.idFloor, Log.take, if_pos ht]
    rfl
  · show n = pin.id.toNat ↔ ∃ p ∈ pin :: l.taken, p.time = timeHigh (pin :: l.taken) ∧ p.id.toNat = n
    rw [htime]
    constructor
    · rintro rfl
      exact ⟨pin, List.mem_cons_self, rfl, rfl⟩
    · rintro ⟨p, hp, hptime, rfl⟩
      rcases List.mem_cons.mp hp with rfl | hp
      · rfl
      · exact absurd (le_timeHigh hp) (by omega)

/-- A packet of the latest time. -/
theorem follows_current (h : Follows r l) {pin : PacketID} (mod : Bool) (hid : pin.id ≠ 0)
    (ht : pin.time = timeHigh l.taken) :
    (r.testId pin.id mod).1 = verdict (8 * w.bytes) (idHigh l.taken) l.floor (pin ∈ l.taken) pin.id.toNat ∧
      Follows (r.testId pin.id mod).2
        (if mod = true ∧ (r.testId pin.id mod).1 = .success then l.take pin else l) := by
  have hdec : Decidable (∃ p ∈ l.taken, p.time = timeHigh l.taken ∧ p.id.toNat = pin.id.toNat) :=
    decidable_of_iff' _ (remembered_iff ht)
  obtain ⟨herror, hkept, hhigh, hcurrent⟩ := testId_cases mod h.current hid
  rw [h.idHigh, h.floor, verdict_congr (remembered_iff ht)] at herror
  refine ⟨herror, ?_⟩
  have htime : timeHigh (pin :: l.taken) = timeHigh l.taken := max_eq_right ht.le
  split
  · rename_i hmod
    rw [if_pos hmod, h.idHigh] at hhigh
    have hhigh' : _ = idHigh (pin :: l.taken) := hhigh.trans (idHigh_current ht).symm
    refine ⟨hkept.initialized.trans h.initialized, hkept.expire.trans h.expire, ?_,
      (hkept.timeHigh.trans h.timeHigh).trans htime.symm, hhigh', hcurrent.congr fun n => ?_⟩
    · rw [hkept.idFloor, Log.take, if_neg (by omega)]
      exact h.floor
    · show _ ↔ ∃ p ∈ pin :: l.taken, p.time = timeHigh (pin :: l.taken) ∧ p.id.toNat = n
      rw [htime, List.exists_mem_cons_iff, ← and_assoc, and_iff_right hmod]
      simp only [ht, true_and, eq_comm]
  · rename_i hmod
    rw [if_neg hmod] at hhigh
    refine ⟨hkept.initialized.trans h.initialized, hkept.expire.trans h.expire,
      (congrArg UInt32.toNat hkept.idFloor).trans h.floor,
      hkept.timeHigh.trans h.timeHigh, hhigh.trans h.idHigh, hcurrent.congr fun n => ?_⟩
    rw [← and_assoc]
    simp only [hmod, false_and, false_or]

theorem testTime_follows (h : Follows r l) (pin : PacketID) (mod : Bool) :
    (r.testTime pin mod).1 = l.error w pin ∧
      Follows (r.testTime pin mod).2 (if mod = true ∧ l.error w pin = .success then l.take pin else l) := by
  rw [PacketIDReceive.testTime, Log.error]
  by_cases hid : pin.id = 0
  · rw [if_pos hid, if_pos hid]
    exact ⟨rfl, by simpa using h⟩
  rw [if_neg hid, if_neg hid, h.timeHigh]
  rcases lt_trichotomy pin.time (timeHigh l.taken) with ht | ht | ht
  · rw [if_pos ht.ne, if_neg (by omega), if_pos ht]
    exact ⟨rfl, by simpa using h⟩
  · rw [if_neg (not_not_intro ht), if_neg ht.not_lt, if_neg ht.not_gt]
    obtain ⟨herror, hfollows⟩ := follows_current h mod hid ht
    rw [herror] at hfollows
    exact ⟨herror, hfollows⟩
  · rw [if_pos ht.ne', if_pos ht, if_neg (show ¬pin.time < timeHigh l.taken from ht.asymm), if_pos ht]
    cases mod with
    | false => exact ⟨rfl, by simpa using h⟩
    | true =>
        obtain ⟨r', hr', hfollows⟩ := follows_newer h hid ht
        rw [hr']
        exact ⟨rfl, by simpa using hfollows⟩

theorem doTestAdd_follows (h : Follows r l) (c : Call) :
    ∃ r', r.doTestAdd c.pin c.now c.mod = some ((l.testAdd w c).1, r') ∧ Follows r' (l.testAdd w c).2 := by
  obtain ⟨herror, hfollows⟩ := testTime_follows (follows_tick h c.now) c.pin c.mod
  refine ⟨((r.tick c.now).testTime c.pin c.mod).2, ?_, hfollows⟩
  rw [PacketIDReceive.doTestAdd, h.initialized, Log.testAdd, ← herror]
  rfl

theorem receiverAnswers_eq (h : Follows r l) (calls : List Call) :
    receiverAnswers r calls = some (logAnswers w l calls) := by
  induction calls generalizing r l with
  | nil => rfl
  | cons c calls ih =>
      obtain ⟨r', hr', hfollows⟩ := doTestAdd_follows h c
      rw [receiverAnswers, hr', Option.bind_some]
      exact congrArg (Option.map _) (ih hfollows)

/-- The 2^`order` bytes of history answer every run of tests as a memory of all packets would. -/
theorem receiver_refines_log (w : Window) (calls : List Call) :
    receiverAnswers (.init w) calls = some (logAnswers w .empty calls) := receiverAnswers_eq follows_init calls

/-! No packet is taken twice. -/

theorem error_of_remembered {pin : PacketID} (h : pin ∈ l.taken) : l.error w pin ≠ .success := by
  rw [Log.error]
  split
  · exact Error.noConfusion
  split
  · exact Error.noConfusion
  rename_i hlt
  have htime : pin.time = timeHigh l.taken := le_antisymm (le_timeHigh h) (not_lt.mp hlt)
  have hhigh := le_idHigh h htime
  rw [if_neg htime.not_gt, verdict, if_neg (Nat.not_lt.mpr hhigh), if_pos h]
  split_ifs <;> exact Error.noConfusion

theorem testAdd_taken (l : Log) (c : Call) : (l.testAdd w c).2.taken =
    (if c.mod && (l.testAdd w c).1 = .success then [c.pin] else []) ++ l.taken := by
  rw [Log.testAdd]
  split <;> rename_i hc
  · rw [if_pos (by simpa using hc)]
    rfl
  · rw [if_neg (by simpa using hc)]
    rfl

theorem nodup_testAdd {l : Log} (h : l.taken.Nodup) (c : Call) : (l.testAdd w c).2.taken.Nodup := by
  rw [testAdd_taken]
  split
  · rename_i hc
    obtain ⟨-, hsuccess⟩ : c.mod = true ∧ (l.testAdd w c).1 = .success := by simpa using hc
    refine List.nodup_cons.mpr ⟨fun hmem => ?_, h⟩
    exact error_of_remembered (l := l.tick w c.now) hmem hsuccess
  · exact h

theorem taken_cons (c : Call) (cs : List Call) (e : Error) (es : List Error) :
    taken (c :: cs) (e :: es) = (if c.mod && e = .success then [c.pin] else []) ++ taken cs es := by
  simp only [taken, List.zip_cons_cons, List.filter_cons]
  split <;> rfl

theorem nodup_taken {l : Log} (h : l.taken.Nodup) (calls : List Call) :
    ((taken calls (logAnswers w l calls)).reverse ++ l.taken).Nodup := by
  induction calls generalizing l with
  | nil => exact h
  | cons c calls ih =>
      have hrest := ih (nodup_testAdd (w := w) h c)
      rw [logAnswers, taken_cons]
      rw [testAdd_taken, ← List.append_assoc] at hrest
      rw [List.reverse_append]
      split at hrest <;> rename_i hc
      · rw [if_pos hc]
        exact hrest
      · rw [if_neg hc]
        exact hrest

/-- Whatever arrives, and whenever, the receiver takes no packet twice. -/
theorem receiver_takes_once (w : Window) (calls : List Call) :
    ∃ errors, receiverAnswers (.init w) calls = some errors ∧ (taken calls errors).Nodup := by
  refine ⟨_, receiver_refines_log w calls, ?_⟩
  have hnodup := nodup_taken (w := w) (l := Log.empty) List.nodup_nil calls
  exact List.nodup_reverse.mp (List.Nodup.of_append_left hnodup)

/-! What one sender numbers arrives in order, some of it lost. -/

/-- The packet ids of a sender until `packet_id_wrap`, by the clock at each. -/
def sends (s : PacketIDSend) : List Int → List PacketID
  | [] => []
  | now :: nows =>
      match s.next now with
      | (some p, s) => p :: sends s nows
      | (none, _) => []

/-- In the long form the clock fits the wire, and has gone on whenever the ids start again. -/
def Timely (s : PacketIDSend) : List Int → Prop
  | [] => True
  | now :: nows =>
      (s.form = .long → 0 ≤ now ∧ now < 2 ^ 32 ∧ (s.id + 1 = 0 → s.time < now)) ∧ Timely (s.next now).2 nows

def Before (p q : PacketID) : Prop := p.time < q.time ∨ p.time = q.time ∧ p.id.toNat < q.id.toNat

theorem Before.trans {p q r : PacketID} (hpq : Before p q) (hqr : Before q r) : Before p r := by
  unfold Before at *
  omega

/-- What a sender gave out last. -/
def last (s : PacketIDSend) : PacketID := PacketID.sent s.form ⟨s.id, s.time⟩

def InRange (s : PacketIDSend) : Prop := s.form = .long → 0 ≤ s.time ∧ s.time < 2 ^ 32

variable {s : PacketIDSend} {now : Int} {p : PacketID}

theorem last_short (hform : s.form = .short) : last s = ⟨s.id, 0⟩ := by
  rw [last, hform, PacketID.sent]

theorem last_long (hform : s.form = .long) (hs : InRange s) : last s = ⟨s.id, s.time⟩ := by
  obtain ⟨hpos, hlt⟩ := hs hform
  rw [last, hform, PacketID.sent, Int.emod_eq_of_lt hpos hlt]

theorem id_lt_next {id : UInt32} (h : id + 1 ≠ 0) : id.toNat < (id + 1).toNat := by
  have hlt := id.toNat_lt
  have hne : (id + 1).toNat ≠ 0 := fun hz => h (UInt32.toNat_inj.mp hz)
  rw [UInt32.toNat_add, UInt32.toNat_one] at hne ⊢
  omega

/-- `next` gives out what comes after all it gave out before. -/
theorem next_before {s' : PacketIDSend} (hs : InRange s)
    (hnow : s.form = .long → 0 ≤ now ∧ now < 2 ^ 32 ∧ (s.id + 1 = 0 → s.time < now))
    (h : s.next now = (some p, s')) :
    s'.form = s.form ∧ InRange s' ∧ p = ⟨s'.id, s'.time⟩ ∧ p.id ≠ 0 ∧ Before (last s) (last s') := by
  simp only [PacketIDSend.next] at h
  cases hform : s.form with
  | short =>
      by_cases hwrap : s.id + 1 = 0
      · rw [if_pos hwrap, hform] at h
        cases h
      · rw [if_neg hwrap] at h
        cases h
        rw [last_short (s := s) hform, last_short (by exact hform)]
        exact ⟨hform, fun h => (nomatch hform.symm.trans h), rfl, hwrap, .inr ⟨rfl, id_lt_next hwrap⟩⟩
  | long =>
      obtain ⟨hpos, hlt, hlater⟩ := hnow hform
      obtain ⟨hold, holdLt⟩ := hs hform
      by_cases hwrap : s.id + 1 = 0
      · rw [if_pos hwrap, hform] at h
        cases h
        have hrange : InRange ⟨1, now, .long⟩ := fun _ => ⟨hpos, hlt⟩
        rw [last_long hform hs, last_long rfl hrange]
        exact ⟨rfl, hrange, rfl, (by decide : (1 : UInt32) ≠ 0), .inl (hlater hwrap)⟩
      · rw [if_neg hwrap] at h
        cases h
        have hid := id_lt_next hwrap
        have hrange : InRange ⟨s.id + 1, if s.time = 0 then now else s.time, s.form⟩ := by
          intro _
          show 0 ≤ (if s.time = 0 then now else s.time) ∧ (if s.time = 0 then now else s.time) < 2 ^ 32
          split <;> omega
        refine ⟨hform, hrange, rfl, hwrap, ?_⟩
        rw [last_long hform hs, last_long (by exact hform) hrange]
        by_cases hzero : s.time = 0
        · rw [if_pos hzero]
          rcases hpos.lt_or_eq with hlt | rfl
          · exact .inl (hzero.trans_lt hlt)
          · exact .inr ⟨hzero, hid⟩
        · rw [if_neg hzero]
          exact .inr ⟨rfl, hid⟩

theorem sends_increase {nows : List Int} (hs : InRange s) (h : Timely s nows) :
    ((sends s nows).map (PacketID.sent s.form)).Pairwise Before ∧
      ∀ p ∈ (sends s nows).map (PacketID.sent s.form), Before (last s) p ∧ p.id ≠ 0 := by
  induction nows generalizing s with
  | nil => exact ⟨.nil, nofun⟩
  | cons now nows ih =>
      rw [sends]
      cases hnext : s.next now with
      | mk sent s' =>
          cases sent with
          | none => exact ⟨.nil, nofun⟩
          | some p =>
              obtain ⟨hform, hrange, rfl, hid, hbefore⟩ := next_before hs h.1 hnext
              have hrest := h.2
              rw [hnext] at hrest
              obtain ⟨hpairwise, habove⟩ := ih hrange hrest
              rw [hform] at hpairwise habove
              have hsent : PacketID.sent s.form ⟨s'.id, s'.time⟩ = last s' := by rw [last, hform]
              have hkept : (last s').id = s'.id := by rw [last]; cases s'.form <;> rfl
              simp only [List.map_cons, List.pairwise_cons, List.forall_mem_cons, hsent]
              refine ⟨⟨fun q hq => (habove q hq).1, hpairwise⟩, ⟨hbefore, ?_⟩, fun q hq => ?_⟩
              · rw [hkept]
                exact hid
              · exact ⟨hbefore.trans (habove q hq).1, (habove q hq).2⟩

/-- A packet that comes after all the others is taken, however long the silence before. -/
theorem error_of_after {l : Log} (hid : p.id ≠ 0) (hpos : 0 ≤ p.time) (hafter : ∀ q ∈ l.taken, Before q p) :
    l.error w p = .success := by
  have hidPos : 0 < p.id.toNat := Nat.pos_of_ne_zero fun hz => hid (UInt32.toNat_inj.mp hz)
  have htime : timeHigh l.taken < p.time + 1 := by
    refine foldr_max_lt (by omega) fun t ht => ?_
    obtain ⟨q, hq, rfl⟩ := List.mem_map.mp ht
    rcases hafter q hq with h | ⟨h, -⟩ <;> omega
  rw [Log.error, if_neg hid, if_neg (show ¬p.time < timeHigh l.taken by omega)]
  split
  · rfl
  · have heq : p.time = timeHigh l.taken := by omega
    have hhigh : idHigh l.taken < p.id.toNat := by
      refine foldr_max_lt hidPos fun n hn => ?_
      obtain ⟨q, hq, rfl⟩ := List.mem_map.mp hn
      obtain ⟨hq, hqtime⟩ := List.mem_filter.mp hq
      have hqtime' : q.time = timeHigh l.taken := by simpa using hqtime
      rcases hafter q hq with h | ⟨-, h⟩
      · omega
      · exact h
    exact if_pos hhigh

theorem answers_of_after {l : Log} {calls : List Call} (hmod : ∀ c ∈ calls, c.mod = true)
    (hpairwise : (calls.map Call.pin).Pairwise Before)
    (hafter : ∀ c ∈ calls, c.pin.id ≠ 0 ∧ 0 ≤ c.pin.time ∧ ∀ q ∈ l.taken, Before q c.pin) :
    logAnswers w l calls = List.replicate calls.length .success := by
  induction calls generalizing l with
  | nil => rfl
  | cons c calls ih =>
      obtain ⟨hfirst, hpairwise⟩ := List.pairwise_cons.mp hpairwise
      obtain ⟨⟨hid, hpos, hc⟩, hcalls⟩ := List.forall_mem_cons.mp hafter
      have herror : (l.testAdd w c).1 = .success := error_of_after (l := l.tick w c.now) hid hpos hc
      have htaken := testAdd_taken (w := w) l c
      rw [herror, hmod c List.mem_cons_self] at htaken
      rw [logAnswers, herror, List.length_cons, List.replicate_succ]
      congr 1
      refine ih (fun d hd => hmod d (List.mem_cons_of_mem _ hd)) hpairwise fun d hd => ?_
      obtain ⟨hdid, hdpos, hdafter⟩ := hcalls d hd
      refine ⟨hdid, hdpos, fun q hq => ?_⟩
      rw [htaken] at hq
      rcases List.mem_cons.mp hq with rfl | hq
      · exact hfirst _ (List.mem_map_of_mem hd)
      · exact hdafter q hq

/-- Packets that arrive in their sender's order are all taken, whichever are lost between them. -/
theorem receiver_takes_in_order (w : Window) (form : Form) (clocks : List Int)
    (htimely : Timely (.init form) clocks) (calls : List Call) (hmod : ∀ c ∈ calls, c.mod = true)
    (hsent : (calls.map Call.pin).Sublist ((sends (.init form) clocks).map (PacketID.sent form))) :
    receiverAnswers (.init w) calls = some (List.replicate calls.length .success) := by
  have hrange : InRange (.init form) := fun _ => ⟨le_rfl, Int.pow_pos (by decide)⟩
  obtain ⟨hpairwise, habove⟩ := sends_increase hrange htimely
  rw [receiver_refines_log, answers_of_after hmod (hpairwise.sublist hsent)]
  intro c hc
  obtain ⟨hbefore, hid⟩ := habove _ (hsent.subset (List.mem_map_of_mem hc))
  refine ⟨hid, ?_, nofun⟩
  have hlast : (last (.init form)).time = 0 := by cases form <;> rfl
  rw [Before, hlast] at hbefore
  omega

/-- The second of three packets is lost, and the third comes long after the first. -/
theorem takes_third_after_first :
    receiverAnswers (.init .standard) [⟨⟨1, 5⟩, 10, true⟩, ⟨⟨3, 5⟩, 100, true⟩] = some [.success, .success] :=
  receiver_takes_in_order .standard .long [5, 5, 6]
    ⟨fun _ => by decide, fun _ => by decide, fun _ => by decide, trivial⟩ _ (by decide) (by decide)

end OpenVPNAdapter.Proto.Replay
