import Mathlib.Algebra.Group.Nat.Defs
import Mathlib.Data.List.Basic
import Mathlib.Data.Nat.Basic

namespace OpenVPNAdapter.Proto

/-- The methods a window asks of its message class. -/
class Slot (M : Type) where
  fresh : M
  defined : M → Bool
  erased : M → Bool
  erase : M → M
  not_defined_fresh : defined fresh = false
  not_erased_fresh : erased fresh = false
  erased_erase : ∀ m, erased (erase m) = true

/-- `MessageWindow`: the queue holds the messages from `headId` on, as far as they were asked for,
and the id one past its end is still an `id_t`. -/
structure MessageWindow (M : Type) where
  headId : UInt32
  span : UInt32
  q : List M
  fits : headId.toNat + q.length < 2 ^ 32

namespace MessageWindow

open Slot

variable {M : Type}

def init (startingHeadId span : UInt32) : MessageWindow M := ⟨startingHeadId, span, [], startingHeadId.toNat_lt⟩

def tailId (w : MessageWindow M) : UInt32 := w.headId + w.span

def inWindow (w : MessageWindow M) (id : UInt32) : Bool := id ≥ w.headId && id < w.tailId

def preWindow (w : MessageWindow M) (id : UInt32) : Bool := id < w.headId

theorem inWindow_iff {w : MessageWindow M} {id : UInt32} :
    w.inWindow id = true ↔ w.headId.toNat ≤ id.toNat ∧ id.toNat < w.tailId.toNat := by
  rw [inWindow, Bool.and_eq_true, decide_eq_true_iff, decide_eq_true_iff, ge_iff_le, UInt32.le_iff_toNat_le,
    UInt32.lt_iff_toNat_lt]

theorem preWindow_iff {w : MessageWindow M} {id : UInt32} :
    w.preWindow id = true ↔ id.toNat < w.headId.toNat := by
  rw [preWindow, decide_eq_true_iff, UInt32.lt_iff_toNat_lt]

/-- The ids that a loop from `head_id()` to `tail_id()` visits. -/
def ids (w : MessageWindow M) : List UInt32 :=
  (List.range' w.headId.toNat (w.tailId.toNat - w.headId.toNat)).map UInt32.ofNat

theorem mem_ids {w : MessageWindow M} {id : UInt32} : id ∈ w.ids ↔ w.inWindow id = true := by
  rw [inWindow_iff, ids, List.mem_map]
  constructor
  · rintro ⟨n, hn, rfl⟩
    have htail := w.tailId.toNat_lt
    obtain ⟨hle, hlt⟩ := List.mem_range'_1.mp hn
    rw [UInt32.toNat_ofNat_of_lt' (by show n < 2 ^ 32; omega)]
    omega
  · rintro ⟨hle, hlt⟩
    exact ⟨id.toNat, List.mem_range'_1.mpr (by omega), UInt32.ofNat_toNat⟩

variable [Slot M]

/-- `grow`: the queue reaches the message at `index`. -/
def grown (q : List M) (index : Nat) : List M := q ++ List.replicate (index + 1 - q.length) fresh

theorem length_grown (q : List M) (index : Nat) : (grown q index).length = max q.length (index + 1) := by
  rw [grown, List.length_append, List.length_replicate]
  omega

/-- A message that the queue does not reach yet reads as a default one. -/
theorem getD_grown (q : List M) (index i : Nat) : ((grown q index)[i]?).getD fresh = (q[i]?).getD fresh := by
  rw [grown, List.getElem?_append]
  split
  · rfl
  · rename_i hi
    rw [List.getElem?_eq_none (Nat.le_of_not_lt hi), List.getElem?_replicate]
    split <;> rfl

theorem fits_grown {w : MessageWindow M} {id : UInt32} (h : w.inWindow id = true) :
    w.headId.toNat + (grown w.q (id.toNat - w.headId.toNat)).length < 2 ^ 32 := by
  have hid := inWindow_iff.mp h
  have htail := w.tailId.toNat_lt
  have hfits := w.fits
  rw [length_grown]
  omega

/-- `ref_by_id`, with what its caller does to the message; `none` is its exception. -/
def refById (w : MessageWindow M) (id : UInt32) (f : M → M) : Option (MessageWindow M) :=
  if h : w.inWindow id = true then
    some { w with
      q := (grown w.q (id.toNat - w.headId.toNat)).modify (id.toNat - w.headId.toNat) f
      fits := by rw [List.length_modify]; exact fits_grown h }
  else none

/-- `purge`: the messages erased at the head are dropped. -/
def purged : UInt32 → List M → UInt32 × List M
  | headId, [] => (headId, [])
  | headId, m :: q => if erased m then purged (headId + 1) q else (headId, m :: q)

/-- What `purge` drops is a stretch of erased messages, and the ids go along. -/
theorem purged_cases {headId : UInt32} {q : List M} (h : headId.toNat + q.length < 2 ^ 32) :
    ∃ k ≤ q.length, (purged headId q).1.toNat = headId.toNat + k ∧ (purged headId q).2 = q.drop k ∧
      ∀ m ∈ q.take k, erased m = true := by
  induction q generalizing headId with
  | nil => exact ⟨0, le_rfl, rfl, rfl, by simp⟩
  | cons m q ih =>
      rw [List.length_cons] at h
      cases herased : erased m with
      | false => exact ⟨0, Nat.zero_le _, by simp [purged, herased], by simp [purged, herased], by simp⟩
      | true =>
          have hone : (1 : UInt32).toNat = 1 := rfl
          have hhead : (headId + 1).toNat = headId.toNat + 1 := by
            rw [UInt32.toNat_add, hone, Nat.mod_eq_of_lt (by omega)]
          have hfits : (headId + 1).toNat + q.length < 2 ^ 32 := by omega
          obtain ⟨k, hk, hid, hdrop, htake⟩ := ih hfits
          refine ⟨k + 1, by rw [List.length_cons]; omega, ?_, ?_, ?_⟩
          · rw [purged, if_pos herased, hid, hhead]
            omega
          · rw [purged, if_pos herased, hdrop, List.drop_succ_cons]
          · rw [List.take_succ_cons]
            exact List.forall_mem_cons.mpr ⟨herased, htake⟩

def purge (w : MessageWindow M) : MessageWindow M where
  headId := (purged w.headId w.q).1
  span := w.span
  q := (purged w.headId w.q).2
  fits := by
    obtain ⟨k, hk, hid, hdrop, -⟩ := purged_cases w.fits
    have hfits := w.fits
    rw [hid, hdrop, List.length_drop]
    omega

def rmById (w : MessageWindow M) (id : UInt32) : MessageWindow M := ((w.refById id erase).getD w).purge

def headDefined (w : MessageWindow M) : Bool :=
  match w.q with
  | [] => false
  | m :: _ => defined m

/-- `rm_head_nocheck`, which is called only where `headDefined` holds. -/
def rmHeadNocheck (w : MessageWindow M) : MessageWindow M :=
  match h : w.q with
  | [] => w
  | _ :: q =>
      { w with
        headId := w.headId + 1
        q := q
        fits := by
          have hfits := w.fits
          have hone : (1 : UInt32).toNat = 1 := rfl
          rw [h, List.length_cons] at hfits
          rw [UInt32.toNat_add, hone, Nat.mod_eq_of_lt (by omega)]
          omega }

/-- The message at an id from `headId` on. -/
def slot (w : MessageWindow M) (n : Nat) : M := (w.q[n - w.headId.toNat]?).getD fresh

@[simp] theorem slot_init (headId span : UInt32) (n : Nat) :
    (init headId span : MessageWindow M).slot n = fresh := by
  simp [slot, init]

theorem refById_cases {w w' : MessageWindow M} {id : UInt32} {f : M → M} (h : w.refById id f = some w') :
    w.inWindow id = true ∧ w'.headId = w.headId ∧ w'.span = w.span ∧
      ∀ n, w.headId.toNat ≤ n → w'.slot n = if n = id.toNat then f (w.slot n) else w.slot n := by
  rw [refById] at h
  split at h
  · rename_i hin
    obtain rfl := Option.some.inj h
    have hid := inWindow_iff.mp hin
    refine ⟨hin, rfl, rfl, fun n hn => ?_⟩
    have hlength : id.toNat - w.headId.toNat < (grown w.q (id.toNat - w.headId.toNat)).length := by
      rw [length_grown]
      omega
    have hgrown := getD_grown w.q (id.toNat - w.headId.toNat) (n - w.headId.toNat)
    simp only [slot, List.getElem?_modify]
    by_cases hne : n = id.toNat
    · subst hne
      rw [if_pos rfl, ← hgrown, List.getElem?_eq_getElem hlength]
      simp
    · have hindex : ¬ id.toNat - w.headId.toNat = n - w.headId.toNat := by omega
      rw [if_neg hne, ← hgrown]
      simp [hindex]
  · cases h

theorem refById_isSome (w : MessageWindow M) (id : UInt32) (f : M → M) :
    (w.refById id f).isSome = w.inWindow id := by
  rw [refById]
  split
  · rename_i h
    rw [h]
    rfl
  · rename_i h
    rw [Bool.not_eq_true] at h
    rw [h]
    rfl

/-- `purge` moves the head past erased messages and keeps the others where they are. -/
theorem purge_cases (w : MessageWindow M) :
    w.headId.toNat ≤ w.purge.headId.toNat ∧ w.purge.span = w.span ∧
      (∀ n, w.purge.headId.toNat ≤ n → w.purge.slot n = w.slot n) ∧
      ∀ n, w.headId.toNat ≤ n → n < w.purge.headId.toNat → erased (w.slot n) = true := by
  obtain ⟨k, hk, hid, hdrop, htake⟩ := purged_cases w.fits
  have hhead : w.purge.headId.toNat = w.headId.toNat + k := hid
  have hq : w.purge.q = w.q.drop k := hdrop
  refine ⟨by omega, rfl, fun n hn => ?_, fun n hn hlt => ?_⟩
  · rw [slot, slot, hq, hhead, List.getElem?_drop]
    congr 2
    omega
  · have hindex : n - w.headId.toNat < w.q.length := by omega
    rw [slot, List.getElem?_eq_getElem hindex]
    exact htake _ (List.mem_take_iff_getElem.mpr ⟨n - w.headId.toNat, by omega, rfl⟩)

/-- A message is gone, or skipped at the head, only when it was erased before or is the one removed. -/
theorem rmById_cases (w : MessageWindow M) (id : UInt32) :
    w.headId.toNat ≤ (w.rmById id).headId.toNat ∧ (w.rmById id).span = w.span ∧
      (∀ n, (w.rmById id).headId.toNat ≤ n →
        (w.rmById id).slot n = if w.inWindow id = true ∧ n = id.toNat then erase (w.slot n) else w.slot n) ∧
      ∀ n, w.headId.toNat ≤ n → n < (w.rmById id).headId.toNat → n = id.toNat ∨ erased (w.slot n) = true := by
  rw [rmById]
  cases hin : w.refById id erase with
  | none =>
      have hout : w.inWindow id = false := by rw [← refById_isSome w id erase, hin]; rfl
      obtain ⟨hle, hspan, hslot, herased⟩ := w.purge_cases
      refine ⟨hle, hspan, fun n hn => ?_, fun n hn hlt => .inr (herased n hn hlt)⟩
      rw [if_neg (by simp [hout])]
      exact hslot n hn
  | some w' =>
      obtain ⟨hwindow, hhead, hspan', hslot'⟩ := refById_cases hin
      obtain ⟨hle, hspan, hslot, herased⟩ := w'.purge_cases
      rw [hhead] at hle herased
      refine ⟨hle, hspan.trans hspan', fun n hn => ?_, fun n hn hlt => ?_⟩
      · have hn' : w.headId.toNat ≤ n := le_trans hle hn
        have hs : w'.purge.slot n = w'.slot n := hslot n hn
        simp only [Option.getD_some, hs, hslot' n hn', hwindow, true_and]
      · have hgone := herased n hn hlt
        rw [hslot' n hn] at hgone
        by_cases hne : n = id.toNat
        · exact .inl hne
        · rw [if_neg hne] at hgone
          exact .inr hgone

theorem headDefined_iff {w : MessageWindow M} : w.headDefined = defined (w.slot w.headId.toNat) := by
  rw [headDefined, slot, Nat.sub_self]
  cases w.q with
  | nil => exact not_defined_fresh.symm
  | cons m q => rfl

/-- The head steps past the message it held. -/
theorem rmHeadNocheck_cases {w : MessageWindow M} (h : w.headDefined = true) :
    w.rmHeadNocheck.headId.toNat = w.headId.toNat + 1 ∧ w.rmHeadNocheck.span = w.span ∧
      ∀ n, w.headId.toNat < n → w.rmHeadNocheck.slot n = w.slot n := by
  have hone : (1 : UInt32).toNat = 1 := rfl
  obtain ⟨headId, span, q, fits⟩ := w
  cases q with
  | nil => cases h
  | cons m q =>
      rw [List.length_cons] at fits
      have hhead : (headId + 1).toNat = headId.toNat + 1 := by
        rw [UInt32.toNat_add, hone, Nat.mod_eq_of_lt (by omega)]
      refine ⟨hhead, rfl, fun n hn => ?_⟩
      have hn' : headId.toNat < n := hn
      show ((q[n - (headId + 1).toNat]?).getD fresh : M) = ((m :: q)[n - headId.toNat]?).getD fresh
      rw [hhead, show n - headId.toNat = n - (headId.toNat + 1) + 1 by omega, List.getElem?_cons_succ]

end MessageWindow

end OpenVPNAdapter.Proto
