import Mathlib.Data.List.Basic
import Mathlib.Data.List.Infix

namespace Library.Framing

variable {α β : Type*}

/-- A way of writing values one after another such that where each ends can be told. -/
structure SelfDelimiting (α β : Type*) where
  frame : α → List β
  frame_ne_nil : ∀ a, frame a ≠ []
  delimits : ∀ a b x y, frame a ++ x = frame b ++ y → a = b ∧ x = y

variable (F : SelfDelimiting α β)

/-- What is left over of a stream does not reach the end of a value. -/
def Incomplete (rest : List β) : Prop := ∀ a more, rest ≠ F.frame a ++ more

variable {F}

theorem flatMap_frame_cons {a : α} {as : List α} : (a :: as).flatMap F.frame = F.frame a ++ as.flatMap F.frame :=
  List.flatMap_cons

/-- Values that account for the beginning of a stream are the values it was made of. -/
theorem eq_append_of_frames {as bs : List α} {rest : List β}
    (h : as.flatMap F.frame ++ rest = bs.flatMap F.frame) :
    ∃ cs, bs = as ++ cs ∧ rest = cs.flatMap F.frame := by
  induction as generalizing bs with
  | nil => exact ⟨bs, rfl, h⟩
  | cons a as ih =>
      rw [flatMap_frame_cons, List.append_assoc] at h
      cases bs with
      | nil => exact absurd (List.append_eq_nil_iff.mp h).1 (F.frame_ne_nil a)
      | cons b bs =>
          rw [flatMap_frame_cons] at h
          obtain ⟨rfl, hrest⟩ := F.delimits a b _ _ h
          obtain ⟨cs, rfl, hcs⟩ := ih hrest
          exact ⟨cs, rfl, hcs⟩

/-- The same for a part of a stream, of which more is to come. -/
theorem leading_of_frames {as bs : List α} {rest more : List β}
    (h : as.flatMap F.frame ++ rest ++ more = bs.flatMap F.frame) : as <+: bs := by
  rw [List.append_assoc] at h
  obtain ⟨cs, rfl, -⟩ := eq_append_of_frames h
  exact List.prefix_append _ _

/-- At the end of a stream nothing incomplete is left over. -/
theorem eq_of_frames {as bs : List α} {rest : List β} (hrest : Incomplete F rest)
    (h : as.flatMap F.frame ++ rest = bs.flatMap F.frame) : as = bs := by
  obtain ⟨cs, rfl, hcs⟩ := eq_append_of_frames h
  cases cs with
  | nil => exact (List.append_nil as).symm
  | cons c cs => exact absurd hcs (hrest c _)

/-- What begins the value after those read, if a stream does not end with them. -/
theorem next_of_frames {as bs : List α} {head rest more : List β} (hhead : head ≠ [])
    (h : as.flatMap F.frame ++ (head ++ rest) ++ more = bs.flatMap F.frame) :
    ∃ b, bs[as.length]? = some b ∧ ∃ tail, head ++ rest ++ more = F.frame b ++ tail := by
  rw [List.append_assoc] at h
  obtain ⟨cs, rfl, hcs⟩ := eq_append_of_frames h
  cases cs with
  | nil =>
      have hnil : head ++ rest ++ more = [] := hcs
      rw [List.append_assoc] at hnil
      exact absurd (List.append_eq_nil_iff.mp hnil).1 hhead
  | cons c cs => exact ⟨c, by rw [List.getElem?_append_right le_rfl, Nat.sub_self]; rfl, _, hcs⟩

end Library.Framing
