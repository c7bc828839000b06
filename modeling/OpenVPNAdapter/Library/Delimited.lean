import OpenVPNAdapter.Library.Substring

namespace Library.Delimited

open Library.Substring

variable {α : Type*} [DecidableEq α]

/-- The marks before and behind a piece of a text. -/
structure Marks (α : Type*) where
  opening : List α
  closing : List α
  opening_ne : opening ≠ []

/-- What is between two marks, and what is before them. -/
structure Piece (α : Type*) where
  lead : List α
  body : List α
deriving DecidableEq, Repr

/-- From each opening mark to the next closing mark behind it. -/
def pieces (m : Marks α) (text : List α) : List (Piece α) :=
  match _ : firstIndex m.opening text with
  | none => []
  | some k =>
      let inner := text.drop (k + m.opening.length)
      match firstIndex m.closing inner with
      | none => []
      | some n => ⟨text.take k, inner.take n⟩ :: pieces m (inner.drop (n + m.closing.length))
termination_by text.length
decreasing_by
  have hopening := List.length_pos_iff.mpr m.opening_ne
  have hle := firstIndex_add_le ‹firstIndex m.opening text = some k›
  simp only [List.length_drop]
  omega

variable {m : Marks α}

/-- The text of a piece, with its marks. -/
def Piece.whole (m : Marks α) (p : Piece α) : List α := p.lead ++ (m.opening ++ (p.body ++ m.closing))

/-- What is behind the last piece. -/
def remainder (m : Marks α) (text : List α) : List α := text.drop ((pieces m text).flatMap (Piece.whole m)).length

/-- The marks are the first ones there are. -/
structure Piece.First (m : Marks α) (p : Piece α) : Prop where
  opening : firstIndex m.opening (p.lead ++ m.opening) = some p.lead.length
  closing : firstIndex m.closing (p.body ++ m.closing) = some p.body.length

theorem firstIndex_eq_some_iff_append {needle text : List α} {k : Nat} : firstIndex needle text = some k ↔
    ∃ head rest, text = head ++ (needle ++ rest) ∧ head.length = k ∧
      firstIndex needle (head ++ needle) = some k := by
  constructor
  · intro h
    obtain ⟨rest, hrest⟩ := (firstIndex_eq_some_iff.mp h).1
    have hle := firstIndex_add_le h
    have hlength : (text.take k).length = k := List.length_take_of_le (by omega)
    have htext : text = text.take k ++ (needle ++ rest) := by rw [hrest, List.take_append_drop]
    refine ⟨text.take k, rest, htext, hlength, ?_⟩
    rw [htext, ← List.append_assoc] at h
    exact (firstIndex_append_iff (by rw [List.length_append, hlength])).mp h
  · rintro ⟨head, rest, rfl, rfl, h⟩
    rw [← List.append_assoc]
    exact (firstIndex_append_iff (by rw [List.length_append])).mpr h

theorem pieces_of_none {text : List α} (h : firstIndex m.opening text = none) : pieces m text = [] := by
  rw [pieces]
  split
  · rfl
  · rename_i k hk
    rw [h] at hk
    cases hk

theorem pieces_of_some {text : List α} {k : Nat} (h : firstIndex m.opening text = some k) :
    pieces m text = match firstIndex m.closing (text.drop (k + m.opening.length)) with
      | none => []
      | some n => ⟨text.take k, (text.drop (k + m.opening.length)).take n⟩ ::
          pieces m ((text.drop (k + m.opening.length)).drop (n + m.closing.length)) := by
  rw [pieces]
  split
  · rename_i hnone
    rw [h] at hnone
    cases hnone
  · rename_i k' hk
    obtain rfl := Option.some.inj (h.symm.trans hk)
    rfl

theorem pieces_whole_append {p : Piece α} (h : p.First m) (rest : List α) :
    pieces m (p.whole m ++ rest) = p :: pieces m rest := by
  have hwhole : p.whole m ++ rest = p.lead ++ (m.opening ++ (p.body ++ (m.closing ++ rest))) := by
    simp only [Piece.whole, List.append_assoc]
  have hopening : firstIndex m.opening (p.whole m ++ rest) = some p.lead.length :=
    firstIndex_eq_some_iff_append.mpr ⟨p.lead, _, hwhole, rfl, h.opening⟩
  have hclosing : firstIndex m.closing (p.body ++ (m.closing ++ rest)) = some p.body.length :=
    firstIndex_eq_some_iff_append.mpr ⟨p.body, rest, rfl, rfl, h.closing⟩
  rw [pieces_of_some hopening, hwhole]
  simp only [List.drop_length_add_append, List.drop_left, hclosing, List.take_left]

theorem pieces_eq_cons {text : List α} {p : Piece α} {ps : List (Piece α)} (h : pieces m text = p :: ps) :
    ∃ rest, text = p.whole m ++ rest ∧ p.First m ∧ pieces m rest = ps := by
  rw [pieces] at h
  split at h
  · cases h
  · rename_i k hk
    simp only at h
    split at h
    · cases h
    · rename_i n hn
      obtain ⟨rfl, rfl⟩ := List.cons.inj h
      obtain ⟨lead, inner, rfl, rfl, hopening⟩ := firstIndex_eq_some_iff_append.mp hk
      rw [List.drop_length_add_append, List.drop_left] at hn ⊢
      obtain ⟨body, rest, rfl, rfl, hclosing⟩ := firstIndex_eq_some_iff_append.mp hn
      simp only [List.take_left, List.drop_length_add_append, List.drop_left]
      exact ⟨rest, by simp only [Piece.whole, List.append_assoc], ⟨hopening, hclosing⟩, rfl⟩

/-- The same piece, a little later. -/
def Piece.after (xs : List α) (p : Piece α) : Piece α := { p with lead := xs ++ p.lead }

/-- What begins no opening mark is put before the first piece. -/
theorem pieces_append_of_notMem {x : α} (hx : m.opening.head? = some x) {xs : List α} (h : x ∉ xs)
    (text : List α) :
    pieces m (xs ++ text) = (pieces m text).modifyHead (Piece.after xs) := by
  obtain ⟨opening, hcons⟩ : ∃ opening, m.opening = x :: opening := by
    cases hm : m.opening with
    | nil => exact absurd hm m.opening_ne
    | cons y ys =>
        rw [hm] at hx
        exact ⟨ys, by rw [Option.some.inj hx]⟩
  have hshift : firstIndex m.opening (xs ++ text) = (firstIndex m.opening text).map (· + xs.length) :=
    hcons ▸ firstIndex_append_of_notMem opening text h
  cases hfirst : firstIndex m.opening text with
  | none =>
      rw [hfirst] at hshift
      rw [pieces_of_none hfirst, pieces_of_none hshift]
      rfl
  | some k =>
      rw [hfirst, Option.map_some, Nat.add_comm] at hshift
      rw [pieces_of_some hfirst, pieces_of_some hshift, Nat.add_assoc, List.drop_length_add_append,
        List.take_length_add_append]
      split
      · rfl
      · rfl

end Library.Delimited
