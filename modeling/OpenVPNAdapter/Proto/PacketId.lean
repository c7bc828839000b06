import OpenVPNAdapter.Library.BigEndian
import OpenVPNAdapter.Library.BitRing

namespace OpenVPNAdapter.Proto.PacketId

open Library.BitRing Library.BigEndian

structure PacketID where
  id : UInt32
  time : Int
deriving DecidableEq, Repr

inductive Form
  | short
  | long
deriving DecidableEq, Repr

/-- `PacketID::write`: the id and, in the long form, the time as a `net_time_t`. -/
def PacketID.write (form : Form) (p : PacketID) : List UInt8 :=
  digits 4 p.id.toNat ++ if form = .long then digits 4 (p.time % 2 ^ 32).toNat else []

/-- `PacketID::read`; `none` is the buffer's exception. -/
def PacketID.read (form : Form) (buf : List UInt8) : Option (PacketID × List UInt8) :=
  if buf.length < 4 then none
  else
    let id := UInt32.ofNat (value (buf.take 4))
    let buf := buf.drop 4
    match form with
    | .short => some (⟨id, 0⟩, buf)
    | .long => if buf.length < 4 then none else some (⟨id, value (buf.take 4)⟩, buf.drop 4)

/-- What of a packet id crosses the wire. -/
def PacketID.sent (form : Form) (p : PacketID) : PacketID :=
  match form with
  | .short => { p with time := 0 }
  | .long => { p with time := p.time % 2 ^ 32 }

structure PacketIDSend where
  id : UInt32
  time : Int
  form : Form
deriving DecidableEq, Repr

def PacketIDSend.init (form : Form) : PacketIDSend := ⟨0, 0, form⟩

/-- `PacketIDSend::next`; `none` is `packet_id_wrap`, after which the id is 0 again. -/
def PacketIDSend.next (s : PacketIDSend) (now : Int) : Option PacketID × PacketIDSend :=
  let time := if s.time = 0 then now else s.time
  let id := s.id + 1
  if id = 0 then
    match s.form with
    | .short => (none, { s with id := id, time := time })
    | .long => (some ⟨1, now⟩, { s with id := 1, time := now })
  else (some ⟨id, time⟩, { s with id := id, time := time })

/-- The template parameters of `PacketIDReceiveType`; the size in bits is an `unsigned int`. -/
structure Window where
  order : Nat
  recvExpire : Int
  fits : order ≤ 28

def Window.bytes (w : Window) : Nat := 2 ^ w.order

def Window.size (w : Window) : UInt32 := UInt32.ofNat (w.bytes * 8)

/-- `PacketIDReceive`, the standard window. -/
def Window.standard : Window := ⟨8, 30, by decide⟩

inductive Error
  | success
  | pktidInvalid
  | pktidBacktrack
  | pktidExpire
  | pktidReplay
  | pktidTimeBacktrack
deriving DecidableEq, Repr

structure PacketIDReceive (w : Window) where
  initialized : Bool
  base : UInt32
  extent : UInt32
  expire : Int
  idHigh : UInt32
  timeHigh : Int
  idFloor : UInt32
  maxBacktrack : UInt32
  history : Bits w.bytes

variable {w : Window}

def PacketIDReceive.init (w : Window) : PacketIDReceive w := ⟨true, 0, 0, 0, 0, 0, 0, 0, zero w.bytes⟩

/-- `REPLAY_INDEX`: the sum is an `unsigned int` and the size a power of two. -/
def replayIndex (w : Window) (base i : UInt32) : UInt32 := (base + i) &&& (w.size - 1)

/-- The id that follows the highest one. -/
def PacketIDReceive.takeNext (r : PacketIDReceive w) (id : UInt32) : PacketIDReceive w :=
  let base := replayIndex w r.base (-1)
  { r with
    base := base
    history := setBit r.history base.toNat
    extent := if r.extent < w.size then r.extent + 1 else r.extent
    idHigh := id }

/-- An id that leaves others out. -/
def PacketIDReceive.takeAhead (r : PacketIDReceive w) (id : UInt32) : PacketIDReceive w :=
  let delta := id - r.idHigh
  if delta < w.size then
    let base := replayIndex w r.base (-delta)
    let history := setBit r.history base.toNat
    let extent := r.extent + delta
    let skipped := (List.range' 1 (delta.toNat - 1)).map fun i => (replayIndex w base (UInt32.ofNat i)).toNat
    { r with
      base := base
      history := clearBits history skipped
      extent := if extent > w.size then w.size else extent
      idHigh := id }
  else { r with base := 0, extent := w.size, history := setBit (zero w.bytes) 0, idHigh := id }

/-- An id that is not above the highest one. -/
def PacketIDReceive.takeLate (r : PacketIDReceive w) (id : UInt32) (mod : Bool) : Error × PacketIDReceive w :=
  let delta := r.idHigh - id
  let r := { r with maxBacktrack := if delta > r.maxBacktrack then delta else r.maxBacktrack }
  if delta < r.extent then
    if id > r.idFloor then
      let ri := (replayIndex w r.base delta).toNat
      if bit r.history ri then (.pktidReplay, r)
      else (.success, if mod then { r with history := setBit r.history ri } else r)
    else (.pktidExpire, r)
  else (.pktidBacktrack, r)

/-- Whether an id of the current time is taken, and with `mod` its being taken. -/
def PacketIDReceive.testId (r : PacketIDReceive w) (id : UInt32) (mod : Bool) : Error × PacketIDReceive w :=
  if id = r.idHigh + 1 then (.success, if mod then r.takeNext id else r)
  else if id > r.idHigh then (.success, if mod then r.takeAhead id else r)
  else r.takeLate id mod

def PacketIDReceive.tick (r : PacketIDReceive w) (now : Int) : PacketIDReceive w :=
  { r with idFloor := if now ≥ r.expire then r.idHigh else r.idFloor, expire := now + w.recvExpire }

/-- A later time starts the ids anew; what the history still holds is then outside the extent. -/
def PacketIDReceive.testTime (r : PacketIDReceive w) (pin : PacketID) (mod : Bool) : Error × PacketIDReceive w :=
  if pin.id = 0 then (.pktidInvalid, r)
  else if pin.time ≠ r.timeHigh then
    if pin.time > r.timeHigh then
      if !mod then (.success, r)
      else { r with base := 0, extent := 0, idHigh := 0, timeHigh := pin.time, idFloor := 0 }.testId pin.id mod
    else (.pktidTimeBacktrack, r)
  else r.testId pin.id mod

/-- `do_test_add`; `none` is `packet_id_not_initialized`. -/
def PacketIDReceive.doTestAdd (r : PacketIDReceive w) (pin : PacketID) (now : Int) (mod : Bool) :
    Option (Error × PacketIDReceive w) :=
  if !r.initialized then none else some ((r.tick now).testTime pin mod)

theorem ofNat_value_digits (id : UInt32) : UInt32.ofNat (value (digits 4 id.toNat)) = id := by
  rw [value_digits (by have := id.toNat_lt; omega), UInt32.ofNat_toNat]

/-- What is written is read back as far as the form carries it, and the rest of the buffer stays. -/
theorem read_write (form : Form) (p : PacketID) (buf : List UInt8) :
    PacketID.read form (p.write form ++ buf) = some (p.sent form, buf) := by
  have htake (n : Nat) (bs : List UInt8) : (digits 4 n ++ bs).take 4 = digits 4 n :=
      List.take_left' (length_digits 4 n)
  have hdrop (n : Nat) (bs : List UInt8) : (digits 4 n ++ bs).drop 4 = bs := List.drop_left' (length_digits 4 n)
  have hlength (n : Nat) (bs : List UInt8) : ¬(digits 4 n ++ bs).length < 4 := by simp
  cases form with
  | short =>
      simp only [PacketID.write, PacketID.read, PacketID.sent, reduceCtorEq, if_false, List.append_nil,
        htake, hdrop, hlength,
        ofNat_value_digits]
  | long =>
      have htime := Int.emod_nonneg p.time (by decide : (2 : Int) ^ 32 ≠ 0)
      have hlt := Int.emod_lt_of_pos p.time (by decide : (0 : Int) < 2 ^ 32)
      simp only [PacketID.write, PacketID.read, PacketID.sent, if_true, List.append_assoc, htake, hdrop,
        hlength, if_false,
        ofNat_value_digits]
      rw [value_digits (by omega), Int.toNat_of_nonneg htime]

/-! How the window computes in machine numbers. -/

theorem Window.size_dvd (w : Window) : 8 * w.bytes ∣ 2 ^ 32 := by
  have hfits := w.fits
  rw [Window.bytes, show 8 = 2 ^ 3 from rfl, ← pow_add]
  exact pow_dvd_pow 2 (by omega)

theorem Window.bytes_pos (w : Window) : 0 < w.bytes := Nat.two_pow_pos _

theorem Window.size_le (w : Window) : 8 * w.bytes ≤ 2 ^ 31 := by
  have hfits := w.fits
  rw [Window.bytes, show 8 = 2 ^ 3 from rfl, ← pow_add]
  exact Nat.pow_le_pow_right (by decide) (by omega)

@[simp] theorem Window.size_toNat (w : Window) : w.size.toNat = 8 * w.bytes := by
  have hle := w.size_le
  rw [Window.size, UInt32.toNat_ofNat_of_lt' (by rw [UInt32.size]; omega), Nat.mul_comm]

theorem replayIndex_toNat (base i : UInt32) :
    (replayIndex w base i).toNat = (base.toNat + i.toNat) % (8 * w.bytes) := by
  have hpos := w.bytes_pos
  have hsize : 8 * w.bytes = 2 ^ (w.order + 3) := by rw [Window.bytes, pow_add]; omega
  have hone : (w.size - 1).toNat = 2 ^ (w.order + 3) - 1 := by
    rw [UInt32.toNat_sub_of_le _ _ (by rw [UInt32.le_iff_toNat_le, w.size_toNat, UInt32.toNat_one]; omega),
      w.size_toNat,
      hsize, UInt32.toNat_one]
  rw [replayIndex, UInt32.toNat_and, hone, Nat.and_two_pow_sub_one_eq_mod, UInt32.toNat_add, ← hsize,
    Nat.mod_mod_of_dvd _ w.size_dvd]

/-- Going back by `delta` and forth again. -/
theorem replayIndex_neg (base : UInt32) {delta : UInt32} (h : 0 < delta.toNat) :
    ((replayIndex w base (-delta)).toNat + delta.toNat) % (8 * w.bytes) = base.toNat % (8 * w.bytes) := by
  have hlt := delta.toNat_lt
  have hneg : (-delta).toNat = 2 ^ 32 - delta.toNat := by
    rw [UInt32.toNat_neg, UInt32.size, Nat.mod_eq_of_lt (by omega)]
    rfl
  rw [replayIndex_toNat, hneg, Nat.mod_add_mod, Nat.add_assoc, Nat.sub_add_cancel hlt.le, Nat.add_mod,
    Nat.mod_eq_zero_of_dvd w.size_dvd, Nat.add_zero, Nat.mod_mod]

/-- The window holds which of the ids up to the highest one are in `P`. -/
structure Current (r : PacketIDReceive w) (P : Nat → Prop) : Prop where
  extent : r.extent.toNat = min r.idHigh.toNat (8 * w.bytes)
  shows : Shows r.history r.base.toNat r.extent.toNat r.idHigh.toNat P
  le : ∀ n, P n → n ≤ r.idHigh.toNat

variable {r : PacketIDReceive w} {P : Nat → Prop} {id : UInt32} {mod : Bool}

theorem eq_succ_iff (hid : id ≠ 0) (high : UInt32) : id = high + 1 ↔ id.toNat = high.toNat + 1 := by
  have hpos : 0 < id.toNat := Nat.pos_of_ne_zero fun hz => hid (UInt32.toNat_inj.mp hz)
  have hlt := id.toNat_lt
  have hhigh := high.toNat_lt
  rw [← UInt32.toNat_inj, UInt32.toNat_add, UInt32.toNat_one]
  omega

/-- The verdict on an id by what was taken, whatever the window still holds of it. -/
def verdict (size high floor : Nat) (taken : Prop) [Decidable taken] (id : Nat) : Error :=
  if high < id then .success
  else if size ≤ high - id then .pktidBacktrack
  else if id ≤ floor then .pktidExpire
  else if taken then .pktidReplay else .success

/-- What a test leaves alone. -/
structure Kept (r r' : PacketIDReceive w) : Prop where
  initialized : r'.initialized = r.initialized
  expire : r'.expire = r.expire
  timeHigh : r'.timeHigh = r.timeHigh
  idFloor : r'.idFloor = r.idFloor

theorem verdict_congr {size high floor id : Nat} {P Q : Prop} [Decidable P] [Decidable Q] (h : P ↔ Q) :
    verdict size high floor P id = verdict size high floor Q id := by
  simp only [verdict, h]

theorem replayIndex_lt (base i : UInt32) : (replayIndex w base i).toNat < 8 * w.bytes := by
  have hpos := w.bytes_pos
  rw [replayIndex_toNat]
  exact Nat.mod_lt _ (by omega)

/-- Both ways of going on are one advance of the window. -/
theorem Current.advance (hc : Current r P) (delta : UInt32) (hpos : 0 < delta.toNat) (hdelta : delta < w.size) :
    Shows (clearBits (setBit r.history (replayIndex w r.base (-delta)).toNat)
        ((List.range' 1 (delta.toNat - 1)).map fun i =>
          (replayIndex w (replayIndex w r.base (-delta)) (UInt32.ofNat i)).toNat))
      (replayIndex w r.base (-delta)).toNat (min (r.idHigh.toNat + delta.toNat) (8 * w.bytes))
      (r.idHigh.toNat + delta.toNat) fun n => n = r.idHigh.toNat + delta.toNat ∨ P n := by
  have hlt : delta.toNat < 8 * w.bytes := by rw [← w.size_toNat]; exact UInt32.lt_iff_toNat_lt.mp hdelta
  have hadvance := hc.shows.advance hc.extent hc.le hpos hlt (replayIndex_neg r.base hpos)
  rw [Nat.mod_eq_of_lt (replayIndex_lt _ _)] at hadvance
  have hskipped : ((List.range' 1 (delta.toNat - 1)).map fun i =>
      (replayIndex w (replayIndex w r.base (-delta)) (UInt32.ofNat i)).toNat) =
      (List.range' 1 (delta.toNat - 1)).map fun i => ((replayIndex w r.base (-delta)).toNat + i) %
      (8 * w.bytes) := by
    refine List.map_congr_left fun i hi => ?_
    have hdeltaLt := delta.toNat_lt
    have hi' := List.mem_range'_1.mp hi
    rw [replayIndex_toNat, UInt32.toNat_ofNat_of_lt' (by rw [UInt32.size]; omega)]
  rw [hskipped]
  exact hadvance

theorem takeNext_kept (r : PacketIDReceive w) (id : UInt32) :
    Kept r (r.takeNext id) ∧ (r.takeNext id).idHigh = id := by
  rw [PacketIDReceive.takeNext]
  exact ⟨⟨rfl, rfl, rfl, rfl⟩, rfl⟩

theorem takeAhead_kept (r : PacketIDReceive w) (id : UInt32) :
    Kept r (r.takeAhead id) ∧ (r.takeAhead id).idHigh = id := by
  rw [PacketIDReceive.takeAhead]
  split <;> exact ⟨⟨rfl, rfl, rfl, rfl⟩, rfl⟩

theorem takeNext_current (hc : Current r P) (hid : id.toNat = r.idHigh.toNat + 1) :
    Current (r.takeNext id) fun n => n = id.toNat ∨ P n := by
  have hsize := w.size_toNat
  have hpos := w.bytes_pos
  have hextent : (r.takeNext id).extent.toNat = min id.toNat (8 * w.bytes) := by
    have hle := w.size_le
    have hold := hc.extent
    show (if r.extent < w.size then r.extent + 1 else r.extent).toNat = _
    split
    · rename_i h
      have hlt := UInt32.lt_iff_toNat_lt.mp h
      rw [UInt32.toNat_add, UInt32.toNat_one]
      omega
    · rename_i h
      have hge := UInt32.le_iff_toNat_le.mp (UInt32.not_lt.mp h)
      omega
  refine ⟨hextent, ?_, ?_⟩
  · have hadvance := hc.advance 1 Nat.one_pos
      (UInt32.lt_iff_toNat_lt.mpr (by rw [UInt32.toNat_one]; omega))
    rw [UInt32.toNat_one, ← hid, ← hextent] at hadvance
    exact hadvance
  · rintro n (rfl | hn)
    · exact Nat.le_refl _
    · have hle := hc.le n hn
      show n ≤ id.toNat
      omega

theorem takeAhead_current (hc : Current r P) (hid : id > r.idHigh) :
    Current (r.takeAhead id) fun n => n = id.toNat ∨ P n := by
  have hsize := w.size_toNat
  have hpos := w.bytes_pos
  have hgt := UInt32.lt_iff_toNat_lt.mp hid
  have hdelta : (id - r.idHigh).toNat = id.toNat - r.idHigh.toNat :=
      UInt32.toNat_sub_of_le _ _ (UInt32.le_of_lt hid)
  have hle : ∀ n, n = id.toNat ∨ P n → n ≤ id.toNat := by
    rintro n (rfl | hn)
    · exact Nat.le_refl _
    · exact (hc.le n hn).trans hgt.le
  by_cases hwindow : id - r.idHigh < w.size
  · have hextent : (r.takeAhead id).extent.toNat = min id.toNat (8 * w.bytes) := by
      have hbound := w.size_le
      have hold := hc.extent
      have hlt := UInt32.lt_iff_toNat_lt.mp hwindow
      have hsum : (r.extent + (id - r.idHigh)).toNat = r.extent.toNat + (id - r.idHigh).toNat := by
        rw [UInt32.toNat_add]
        omega
      rw [PacketIDReceive.takeAhead, if_pos hwindow]
      show (if r.extent + (id - r.idHigh) > w.size then w.size else r.extent + (id - r.idHigh)).toNat = _
      split
      · rename_i h
        have hover := UInt32.lt_iff_toNat_lt.mp h
        omega
      · rename_i h
        have hfit := UInt32.le_iff_toNat_le.mp (UInt32.not_lt.mp h)
        omega
    have hadvance := hc.advance (id - r.idHigh) (by omega) hwindow
    rw [show r.idHigh.toNat + (id - r.idHigh).toNat = id.toNat by omega, ← hextent] at hadvance
    rw [PacketIDReceive.takeAhead, if_pos hwindow] at hextent hadvance ⊢
    exact ⟨hextent, hadvance, hle⟩
  · -- everything before has left the window
    have hfar : 8 * w.bytes ≤ id.toNat - r.idHigh.toNat := by
      rw [← hsize, ← hdelta]
      exact UInt32.le_iff_toNat_le.mp (UInt32.not_lt.mp hwindow)
    rw [PacketIDReceive.takeAhead, if_neg hwindow]
    refine ⟨?_, fun k hk => ?_, hle⟩
    · show w.size.toNat = min id.toNat (8 * w.bytes)
      omega
    · have hk' : k < 8 * w.bytes := by rw [← hsize]; exact hk
      have hno : ¬P (id.toNat - k) := fun h => by
        have hold := hc.le _ h
        omega
      show bit (setBit (zero w.bytes) 0) ((0 + k) % (8 * w.bytes)) = true ↔ id.toNat - k = id.toNat ∨ _
      rw [bit_setBit (by omega), bit_zero, Nat.zero_add, Nat.mod_eq_of_lt hk']
      simp only [Bool.or_false, decide_eq_true_eq, hno, or_false]
      omega

theorem Current.congr {Q : Nat → Prop} (hc : Current r P) (hPQ : ∀ n, P n ↔ Q n) : Current r Q :=
  ⟨hc.extent, hc.shows.congr fun n _ => hPQ n, fun n hn => hc.le n ((hPQ n).mpr hn)⟩

theorem Current.maxBacktrack (hc : Current r P) (n : UInt32) : Current { r with maxBacktrack := n } P :=
  ⟨hc.extent, hc.shows, hc.le⟩

variable (mod) in
/-- What becomes of a late id, by what was taken. -/
theorem takeLate_cases (hc : Current r P) (hid : id ≠ 0) (hle : id ≤ r.idHigh) [Decidable (P id.toNat)] :
    (r.takeLate id mod).1 = verdict (8 * w.bytes) r.idHigh.toNat r.idFloor.toNat (P id.toNat) id.toNat ∧
      Kept r (r.takeLate id mod).2 ∧ (r.takeLate id mod).2.idHigh = r.idHigh ∧
      Current (r.takeLate id mod).2 fun n =>
        (mod = true ∧ (r.takeLate id mod).1 = .success ∧ n = id.toNat) ∨ P n := by
  have hpos : 0 < id.toNat := Nat.pos_of_ne_zero fun hz => hid (UInt32.toNat_inj.mp hz)
  have hle' := UInt32.le_iff_toNat_le.mp hle
  have hdelta : (r.idHigh - id).toNat = r.idHigh.toNat - id.toNat := UInt32.toNat_sub_of_le _ _ hle
  have hextent : r.idHigh - id < r.extent ↔ ¬8 * w.bytes ≤ r.idHigh.toNat - id.toNat := by
    rw [UInt32.lt_iff_toNat_lt, hdelta, hc.extent]
    omega
  have hsame :
      Current { r with maxBacktrack := if r.idHigh - id > r.maxBacktrack then r.idHigh - id else r.maxBacktrack }
      fun n => False ∨ P n := by
    simp only [false_or]
    exact hc.maxBacktrack _
  rw [PacketIDReceive.takeLate, verdict, if_neg (Nat.not_lt.mpr hle')]
  simp only [hextent]
  by_cases hwindow : 8 * w.bytes ≤ r.idHigh.toNat - id.toNat
  · rw [if_neg (not_not_intro hwindow), if_pos hwindow]
    refine ⟨rfl, ⟨rfl, rfl, rfl, rfl⟩, rfl, ?_⟩
    simpa using hsame
  rw [if_pos hwindow, if_neg hwindow]
  by_cases hfloor : id > r.idFloor
  · rw [if_pos hfloor, if_neg (Nat.not_le.mpr (UInt32.lt_iff_toNat_lt.mp hfloor))]
    have hshown : bit r.history (replayIndex w r.base (r.idHigh - id)).toNat = true ↔ P id.toNat := by
      have hshows := hc.shows _ (UInt32.lt_iff_toNat_lt.mp (hextent.mpr hwindow))
      rwa [← replayIndex_toNat, hdelta, Nat.sub_sub_self hle'] at hshows
    by_cases hP : P id.toNat
    · rw [if_pos hP, if_pos (hshown.mpr hP)]
      refine ⟨rfl, ⟨rfl, rfl, rfl, rfl⟩, rfl, ?_⟩
      simpa using hsame
    rw [if_neg hP, if_neg fun h => hP (hshown.mp h)]
    cases mod with
    | false =>
        refine ⟨rfl, ⟨rfl, rfl, rfl, rfl⟩, rfl, ?_⟩
        simpa using hsame
    | true =>
        refine ⟨rfl, ⟨rfl, rfl, rfl, rfl⟩, rfl, hc.extent, ?_, ?_⟩
        · have hmark := hc.shows.mark (by have := hc.extent; omega) (by have := hc.extent; omega)
            (UInt32.lt_iff_toNat_lt.mp (hextent.mpr hwindow))
          rw [← replayIndex_toNat, hdelta, Nat.sub_sub_self hle'] at hmark
          simpa using hmark
        · rintro n (⟨-, -, rfl⟩ | hn)
          · exact hle'
          · exact hc.le n hn
  · rw [if_neg hfloor, if_pos (UInt32.le_iff_toNat_le.mp (UInt32.not_lt.mp hfloor))]
    refine ⟨rfl, ⟨rfl, rfl, rfl, rfl⟩, rfl, ?_⟩
    simpa using hsame

variable (mod) in
/-- The verdict on an id is by what was taken, and the window then shows what is taken with it. -/
theorem testId_cases (hc : Current r P) (hid : id ≠ 0) [Decidable (P id.toNat)] :
    (r.testId id mod).1 = verdict (8 * w.bytes) r.idHigh.toNat r.idFloor.toNat (P id.toNat) id.toNat ∧
      Kept r (r.testId id mod).2 ∧
      (r.testId id mod).2.idHigh.toNat =
        (if mod = true ∧ (r.testId id mod).1 = .success then max id.toNat r.idHigh.toNat else r.idHigh.toNat) ∧
      Current (r.testId id mod).2 fun n =>
        (mod = true ∧ (r.testId id mod).1 = .success ∧ n = id.toNat) ∨ P n := by
  have hrefl : Kept r r := ⟨rfl, rfl, rfl, rfl⟩
  rw [PacketIDReceive.testId]
  by_cases hnext : id = r.idHigh + 1
  · have hsucc := (eq_succ_iff hid _).mp hnext
    obtain ⟨hkept, hhigh⟩ := takeNext_kept r id
    have hcurrent := takeNext_current hc hsucc
    rw [if_pos hnext, verdict, if_pos (show r.idHigh.toNat < id.toNat by omega), Nat.max_eq_left (by omega)]
    cases mod with
    | false => simp [hrefl, hc]
    | true => simp [hkept, hhigh, hcurrent]
  rw [if_neg hnext]
  by_cases habove : id > r.idHigh
  · have hgt := UInt32.lt_iff_toNat_lt.mp habove
    obtain ⟨hkept, hhigh⟩ := takeAhead_kept r id
    have hcurrent := takeAhead_current hc habove
    rw [if_pos habove, verdict, if_pos hgt, Nat.max_eq_left hgt.le]
    cases mod with
    | false => simp [hrefl, hc]
    | true => simp [hkept, hhigh, hcurrent]
  · have hle : id ≤ r.idHigh := UInt32.not_lt.mp habove
    have hle' := UInt32.le_iff_toNat_le.mp hle
    rw [if_neg habove, Nat.max_eq_right hle', ite_self]
    obtain ⟨herror, hkept, hhigh, hcurrent⟩ := takeLate_cases mod hc hid hle
    exact ⟨herror, hkept, congrArg UInt32.toNat hhigh, hcurrent⟩

end OpenVPNAdapter.Proto.PacketId
