import Mathlib.Data.List.Basic
import Mathlib.Data.List.Nodup
import Mathlib.Data.List.Count
import Mathlib.Data.List.Perm.Subperm

namespace Library.Descriptors

/-- A descriptor as its owner knows it: the number the kernel gave out, and a serial
that tells apart the descriptors that share a number over time. -/
structure Handle where
  number : Nat
  serial : Nat
deriving DecidableEq, Repr

/-- The descriptor table of a process with the log of every `close`: `closed` lists what
was closed, `misdirected` the handles whose owner's `close` hit no descriptor or another one. -/
structure Table where
  opened : List Handle
  issued : Nat
  closed : List Handle
  misdirected : List Handle
deriving DecidableEq, Repr

def numbers (t : Table) : List Nat := t.opened.map Handle.number

/-- POSIX: a new descriptor takes the lowest number that is free. -/
def lowestFree (ns : List Nat) : Nat :=
  ((List.range (ns.length + 1)).find? fun n => n ∉ ns).getD ns.length

theorem lowestFree_notMem (ns : List Nat) : lowestFree ns ∉ ns := by
  cases hf : (List.range (ns.length + 1)).find? (fun n => n ∉ ns) with
  | some n =>
      rw [lowestFree, hf]
      simpa using List.find?_some hf
  | none =>
      have hsub : List.range (ns.length + 1) ⊆ ns := fun n hn => by
        simpa using List.find?_eq_none.mp hf n hn
      have hlen := ((List.nodup_range (n := ns.length + 1)).subperm hsub).length_le
      rw [List.length_range] at hlen
      exact absurd hlen (Nat.not_succ_le_self _)

def next (t : Table) : Handle := ⟨lowestFree (numbers t), t.issued⟩

def allocate (t : Table) : Table :=
  { t with opened := next t :: t.opened, issued := t.issued + 1 }

/-- `close(h.number)` as called by the owner of `h`. -/
def close (t : Table) (h : Handle) : Table :=
  match t.opened.find? fun o => o.number == h.number with
  | none => { t with misdirected := h :: t.misdirected }
  | some o =>
      { t with
        opened := t.opened.erase o
        closed := o :: t.closed
        misdirected := if o = h then t.misdirected else h :: t.misdirected }

def empty : Table := ⟨[], 0, [], []⟩

theorem numbers_allocate (t : Table) : numbers (allocate t) = lowestFree (numbers t) :: numbers t := rfl

theorem map_erase_of_find {n : Nat} {o : Handle} {hs : List Handle}
    (h : hs.find? (fun o => o.number == n) = some o) :
    (hs.erase o).map Handle.number = (hs.map Handle.number).erase n := by
  induction hs with
  | nil => cases h
  | cons k hs ih =>
      rw [List.find?_cons] at h
      cases hk : k.number == n with
      | true =>
          rw [hk] at h
          obtain rfl := Option.some.inj h
          rw [List.erase_cons_head, List.map_cons, ← beq_iff_eq.mp hk, List.erase_cons_head]
      | false =>
          rw [hk] at h
          have hne : k ≠ o := by
            rintro rfl
            exact absurd (List.find?_some h) (by rw [hk]; exact Bool.false_ne_true)
          rw [List.erase_cons_tail (by simpa using hne), List.map_cons, List.map_cons, ih h,
            List.erase_cons_tail (by rw [hk]; exact Bool.false_ne_true)]

theorem numbers_close (t : Table) (h : Handle) : numbers (close t h) = (numbers t).erase h.number := by
  rw [numbers, numbers, close]
  cases hf : t.opened.find? (fun o => o.number == h.number) with
  | some o => exact map_erase_of_find hf
  | none =>
      refine (List.erase_of_not_mem fun hmem => ?_).symm
      obtain ⟨o, ho, hn⟩ := List.mem_map.mp hmem
      exact List.find?_eq_none.mp hf o ho (beq_iff_eq.mpr hn)

/-- What the kernel keeps true by itself: open numbers are distinct, serials are given out
once, and a handle given out is open or closed, closed at most once. -/
structure Sound (t : Table) : Prop where
  numbers : (numbers t).Nodup
  serials : (t.opened ++ t.closed).map Handle.serial |>.Nodup
  issued : ∀ h ∈ t.opened ++ t.closed, h.serial < t.issued

theorem sound_empty : Sound empty := ⟨List.nodup_nil, List.nodup_nil, by simp [empty]⟩

theorem find_opened {t : Table} (ht : Sound t) {h : Handle} (hh : h ∈ t.opened) :
    t.opened.find? (fun o => o.number == h.number) = some h := by
  have hs : (t.opened.find? fun o => o.number == h.number).isSome :=
    List.find?_isSome.mpr ⟨h, hh, by simp⟩
  obtain ⟨o, ho⟩ := Option.isSome_iff_exists.mp hs
  have hn : o.number = h.number := by simpa using List.find?_some ho
  rw [ho, List.inj_on_of_nodup_map ht.numbers (List.mem_of_find?_eq_some ho) hh hn]

theorem close_of_opened {t : Table} (ht : Sound t) {h : Handle} (hh : h ∈ t.opened) :
    close t h = { t with opened := t.opened.erase h, closed := h :: t.closed } := by
  simp only [close, find_opened ht hh, if_true]

theorem next_notMem {t : Table} (ht : Sound t) : next t ∉ t.opened ++ t.closed := by
  intro h
  exact absurd (ht.issued _ h) (Nat.lt_irrefl _)

theorem sound_allocate {t : Table} (ht : Sound t) : Sound (allocate t) where
  numbers := by
    simp only [numbers, allocate, List.map_cons, List.nodup_cons]
    exact ⟨lowestFree_notMem _, ht.numbers⟩
  serials := by
    simp only [allocate, List.cons_append, List.map_cons, List.nodup_cons]
    refine ⟨fun h => ?_, ht.serials⟩
    obtain ⟨o, ho, he⟩ := List.mem_map.mp h
    exact absurd (ht.issued o ho) (by simp [he, next])
  issued := by
    intro h hh
    rw [allocate, List.cons_append, List.mem_cons] at hh
    rcases hh with rfl | hh
    · exact Nat.lt_succ_self _
    · exact Nat.lt_succ_of_lt (ht.issued h hh)

theorem sound_close {t : Table} (ht : Sound t) (h : Handle) : Sound (close t h) := by
  rw [close]
  cases hf : t.opened.find? (fun o => o.number == h.number) with
  | none => exact ⟨ht.numbers, ht.serials, ht.issued⟩
  | some o =>
      have ho := List.mem_of_find?_eq_some hf
      have hp : (t.opened.erase o ++ o :: t.closed).Perm (t.opened ++ t.closed) :=
        (List.perm_middle).trans ((List.perm_cons_erase ho).symm.append_right _)
      refine ⟨?_, ?_, ?_⟩
      · exact ht.numbers.sublist (List.erase_sublist.map _)
      · exact (hp.map Handle.serial).nodup_iff.mpr ht.serials
      · exact fun k hk => ht.issued k (hp.mem_iff.mp hk)

theorem opened_nodup {t : Table} (ht : Sound t) : t.opened.Nodup := ht.numbers.of_map _

theorem closed_nodup {t : Table} (ht : Sound t) : t.closed.Nodup :=
  (ht.serials.of_map _).of_append_right

/-! What one `close` can do, whoever calls it with whatever handle. -/

section Close

variable {t : Table} {h k : Handle}

theorem misdirected_of_close (hm : t.misdirected ≠ []) : (close t h).misdirected ≠ [] := by
  rw [close]
  split
  · exact List.cons_ne_nil _ _
  · simp only
    split
    · exact hm
    · exact List.cons_ne_nil _ _

/-- A handle that is closed already is closed in vain, or at the cost of another. -/
theorem misdirected_of_notMem (hh : h ∉ t.opened) : (close t h).misdirected ≠ [] := by
  rw [close]
  split
  · exact List.cons_ne_nil _ _
  · rename_i o ho
    have hne : o ≠ h := fun he => hh (he ▸ List.mem_of_find?_eq_some ho)
    simp only [if_neg hne]
    exact List.cons_ne_nil _ _

theorem opened_of_close (hk : k ∈ (close t h).opened) : k ∈ t.opened := by
  rw [close] at hk
  split at hk
  · exact hk
  · exact List.mem_of_mem_erase hk

theorem issued_of_close (hk : k ∈ t.opened ∨ k ∈ t.closed) : k ∈ (close t h).opened ∨ k ∈ (close t h).closed := by
  rw [close]
  split
  · exact hk
  · rename_i o _
    rcases hk with hk | hk
    · rcases eq_or_ne k o with rfl | hne
      · exact .inr List.mem_cons_self
      · exact .inl ((List.mem_erase_of_ne hne).mpr hk)
    · exact .inr (List.mem_cons_of_mem o hk)

theorem close_issued (t : Table) (h : Handle) : (close t h).issued = t.issued := by
  rw [close]
  split <;> rfl

theorem notMem_close (ht : Sound t) : h ∉ (close t h).opened := by
  intro hk
  have hopened := opened_of_close hk
  rw [close_of_opened ht hopened] at hk
  exact ((opened_nodup ht).mem_erase_iff.mp hk).1 rfl

theorem opened_of_ne (ht : Sound t) (hm : (close t h).misdirected = []) (hk : k ∈ t.opened) (hne : k ≠ h) :
    k ∈ (close t h).opened := by
  have hh : h ∈ t.opened := by_contra fun hh => misdirected_of_notMem hh hm
  rw [close_of_opened ht hh]
  exact (List.mem_erase_of_ne hne).mpr hk

end Close

/-- `close` of several handles, in their order. -/
def closeAll (t : Table) (hs : List Handle) : Table := hs.foldl close t

section CloseAll

variable {t : Table} {hs : List Handle} {k : Handle}

theorem sound_closeAll (ht : Sound t) : Sound (closeAll t hs) := by
  induction hs generalizing t with
  | nil => exact ht
  | cons h hs ih => exact ih (sound_close ht h)

theorem misdirected_of_closeAll (hm : t.misdirected ≠ []) : (closeAll t hs).misdirected ≠ [] := by
  induction hs generalizing t with
  | nil => exact hm
  | cons h hs ih => exact ih (misdirected_of_close hm)

theorem opened_of_closeAll (hk : k ∈ (closeAll t hs).opened) : k ∈ t.opened := by
  induction hs generalizing t with
  | nil => exact hk
  | cons h hs ih => exact opened_of_close (ih hk)

theorem closeAll_issued (t : Table) (hs : List Handle) : (closeAll t hs).issued = t.issued := by
  induction hs generalizing t with
  | nil => rfl
  | cons h hs ih => exact (ih (close t h)).trans (close_issued t h)

theorem issued_of_closeAll (hk : k ∈ t.opened ∨ k ∈ t.closed) :
    k ∈ (closeAll t hs).opened ∨ k ∈ (closeAll t hs).closed := by
  induction hs generalizing t with
  | nil => exact hk
  | cons h hs ih => exact ih (issued_of_close hk)

theorem notMem_closeAll (ht : Sound t) (hk : k ∈ hs) : k ∉ (closeAll t hs).opened := by
  induction hs generalizing t with
  | nil => cases hk
  | cons h hs ih =>
      rcases List.mem_cons.mp hk with rfl | hk
      · exact fun hopened => notMem_close ht (opened_of_closeAll hopened)
      · exact ih (sound_close ht h) hk

/-- Several handles are closed without a mistake exactly when all of them are open. -/
theorem closeAll_misdirected (ht : Sound t) (hnodup : hs.Nodup) (hm : t.misdirected = []) :
    (closeAll t hs).misdirected = [] ↔ ∀ h ∈ hs, h ∈ t.opened := by
  induction hs generalizing t with
  | nil => exact ⟨fun _ => List.forall_mem_nil _, fun _ => hm⟩
  | cons h hs ih =>
      obtain ⟨hnotMem, hnodup⟩ := List.nodup_cons.mp hnodup
      rw [List.forall_mem_cons]
      by_cases hh : h ∈ t.opened
      · have hclose := close_of_opened ht hh
        have hne (k : Handle) (hk : k ∈ hs) : k ≠ h := fun he => hnotMem (he ▸ hk)
        have hiff := ih (sound_close ht h) hnodup (by rw [hclose]; exact hm)
        refine hiff.trans ⟨fun hall => ⟨hh, fun k hk => opened_of_close (hall k hk)⟩, fun hall k hk => ?_⟩
        rw [hclose]
        exact (List.mem_erase_of_ne (hne k hk)).mpr (hall.2 k hk)
      · have hmis : (closeAll (close t h) hs).misdirected ≠ [] :=
          misdirected_of_closeAll (misdirected_of_notMem hh)
        exact ⟨fun hclean => absurd hclean hmis, fun hall => absurd hall.1 hh⟩

/-- Handles that are not closed stay open, where no `close` hits another than its own. -/
theorem opened_of_notMem (ht : Sound t) (hm : (closeAll t hs).misdirected = []) (hk : k ∈ t.opened)
    (hnotMem : k ∉ hs) :
    k ∈ (closeAll t hs).opened := by
  induction hs generalizing t with
  | nil => exact hk
  | cons h hs ih =>
      obtain ⟨hne, hnotMem⟩ := not_or.mp (mt List.mem_cons.mpr hnotMem)
      have hm' : (close t h).misdirected = [] := by_contra fun hne => misdirected_of_closeAll hne hm
      exact ih (sound_close ht h) hm (opened_of_ne ht hm' hk hne) hnotMem

end CloseAll

end Library.Descriptors
