import Mathlib.Data.List.Basic

namespace Library.Separated

variable {α : Type*} {sep : α}

/-- The pieces of a text, each with `sep` behind it. -/
def terminated (sep : α) (ls : List (List α)) : List α := ls.flatMap (· ++ [sep])

/-- The pieces of a text, each with `sep` before it. -/
def preceded (sep : α) (ls : List (List α)) : List α := ls.flatMap (sep :: ·)

/-- Entries in groups, each under a head. -/
def grouped (gs : List (α × List α)) : List α := gs.flatMap fun g => g.1 :: g.2

/-- The sections that are there, each rendered under its title. -/
def rendered {τ β γ : Type*} (render : τ → β → γ) (ss : List (τ × Option β)) : List γ :=
  ss.filterMap fun s => s.2.map (render s.1)

/-- Where the entries with a property end and something else begins can be told from the whole. -/
theorem boundary {q : α → Prop} {xs ys r s : List α} (hx : ∀ x ∈ xs, q x) (hy : ∀ y ∈ ys, q y)
    (hr : ∀ x ∈ r.head?, ¬ q x) (hs : ∀ x ∈ s.head?, ¬ q x) (h : xs ++ r = ys ++ s) : xs = ys ∧ r = s := by
  induction xs generalizing ys with
  | nil =>
      cases ys with
      | nil => exact ⟨rfl, h⟩
      | cons y ys =>
          obtain rfl : r = y :: (ys ++ s) := h
          exact absurd (hy y List.mem_cons_self) (hr y rfl)
  | cons x xs ih =>
      cases ys with
      | nil =>
          obtain rfl : x :: (xs ++ r) = s := h
          exact absurd (hx x List.mem_cons_self) (hs x rfl)
      | cons y ys =>
          rw [List.cons_append, List.cons_append] at h
          obtain ⟨hhead, htail⟩ := List.cons.inj h
          obtain ⟨hxy, hrest⟩ := ih (fun z hz => hx z (List.mem_cons_of_mem x hz))
            (fun z hz => hy z (List.mem_cons_of_mem y hz)) htail
          exact ⟨by rw [hhead, hxy], hrest⟩

theorem first_cut {xs ys r s : List α} (hx : sep ∉ xs) (hy : sep ∉ ys) (h : xs ++ sep :: r = ys ++ sep :: s) :
    xs = ys ∧ r = s := by
  obtain ⟨hxy, hrest⟩ := boundary (q := (· ≠ sep)) (fun x hm he => hx (he ▸ hm)) (fun y hm he => hy (he ▸ hm))
    (by simp) (by simp) h
  exact ⟨hxy, (List.cons.inj hrest).2⟩

theorem last_cut {xs ys r s : List α} (hr : sep ∉ r) (hs : sep ∉ s) (h : xs ++ sep :: r = ys ++ sep :: s) :
    xs = ys ∧ r = s := by
  have hrev := congrArg List.reverse h
  simp only [List.reverse_append, List.reverse_cons, List.append_assoc, List.singleton_append] at hrev
  obtain ⟨hrest, hxy⟩ := first_cut (by simpa using hr) (by simpa using hs) hrev
  exact ⟨List.reverse_injective hxy, List.reverse_injective hrest⟩

theorem terminated_cons (l : List α) (ls : List (List α)) :
    terminated sep (l :: ls) = l ++ sep :: terminated sep ls := by
  simp [terminated]

/-- Pieces without `sep` can be told from the text they make. -/
theorem terminated_inj {ls ms : List (List α)} (hl : ∀ l ∈ ls, sep ∉ l) (hm : ∀ m ∈ ms, sep ∉ m)
    (h : terminated sep ls = terminated sep ms) : ls = ms := by
  induction ls generalizing ms with
  | nil =>
      cases ms with
      | nil => rfl
      | cons m ms => simp [terminated] at h
  | cons l ls ih =>
      cases ms with
      | nil => simp [terminated] at h
      | cons m ms =>
          rw [terminated_cons, terminated_cons] at h
          obtain ⟨rfl, hrest⟩ := first_cut (hl l List.mem_cons_self) (hm m List.mem_cons_self) h
          rw [ih (fun k hk => hl k (List.mem_cons_of_mem l hk))
              (fun k hk => hm k (List.mem_cons_of_mem l hk)) hrest]

theorem head_preceded (ls : List (List α)) : ∀ x ∈ (preceded sep ls).head?, ¬ x ≠ sep := by
  cases ls with
  | nil => simp [preceded]
  | cons l ls => simp [preceded]

theorem preceded_inj {ls ms : List (List α)} (hl : ∀ l ∈ ls, sep ∉ l) (hm : ∀ m ∈ ms, sep ∉ m)
    (h : preceded sep ls = preceded sep ms) : ls = ms := by
  induction ls generalizing ms with
  | nil =>
      cases ms with
      | nil => rfl
      | cons m ms => simp [preceded] at h
  | cons l ls ih =>
      cases ms with
      | nil => simp [preceded] at h
      | cons m ms =>
          have hcut : l ++ preceded sep ls = m ++ preceded sep ms := by simpa [preceded] using h
          obtain ⟨rfl, hrest⟩ := boundary (q := (· ≠ sep)) (fun x hx he => hl l List.mem_cons_self (he ▸ hx))
            (fun x hx he => hm m List.mem_cons_self (he ▸ hx)) (head_preceded ls) (head_preceded ms) hcut
          rw [ih (fun k hk => hl k (List.mem_cons_of_mem l hk))
              (fun k hk => hm k (List.mem_cons_of_mem l hk)) hrest]

theorem of_mem_splitOn [BEq α] [LawfulBEq α] {xs l : List α} (h : l ∈ xs.splitOn sep) :
    sep ∉ l ∧ ∀ x ∈ l, x ∈ xs := by
  induction xs generalizing l with
  | nil =>
      obtain rfl : l = [] := by simpa using h
      simp
  | cons y ys ih =>
      rw [List.splitOn_cons_eq_if_modifyHead] at h
      by_cases hy : (y == sep) = true
      · rw [if_pos hy, List.mem_cons] at h
        rcases h with rfl | h
        · simp
        · exact ⟨(ih h).1, fun x hx => List.mem_cons_of_mem y ((ih h).2 x hx)⟩
      · rw [if_neg hy] at h
        obtain ⟨k, ks, hk⟩ := List.exists_cons_of_ne_nil (List.splitOn_ne_nil sep ys)
        rw [hk, List.modifyHead_cons, List.mem_cons] at h
        rcases h with rfl | h
        · obtain ⟨hsep, hsub⟩ := ih (l := k) (by rw [hk]; exact List.mem_cons_self)
          refine ⟨fun hm => ?_, fun x hx => ?_⟩
          · rcases List.mem_cons.mp hm with he | hm
            · exact hy (by simp [he])
            · exact hsep hm
          · rcases List.mem_cons.mp hx with rfl | hx
            · exact List.mem_cons_self
            · exact List.mem_cons_of_mem y (hsub x hx)
        · obtain ⟨hsep, hsub⟩ := ih (l := l) (by rw [hk]; exact List.mem_cons_of_mem k h)
          exact ⟨hsep, fun x hx => List.mem_cons_of_mem y (hsub x hx)⟩

theorem of_mem_intercalate {ls : List (List α)} {x : α} (h : x ∈ [sep].intercalate ls) :
    x = sep ∨ ∃ l ∈ ls, x ∈ l := by
  induction ls with
  | nil => simp at h
  | cons l ls ih =>
      cases ls with
      | nil => exact .inr ⟨l, List.mem_cons_self, by simpa using h⟩
      | cons k ks =>
          rw [List.intercalate_cons_cons, List.mem_append, List.mem_append, List.mem_singleton] at h
          rcases h with (h | h) | h
          · exact .inr ⟨l, List.mem_cons_self, h⟩
          · exact .inl h
          · rcases ih h with h | ⟨m, hm, hx⟩
            · exact .inl h
            · exact .inr ⟨m, List.mem_cons_of_mem l hm, hx⟩

theorem grouped_cons (g : α × List α) (gs : List (α × List α)) :
    grouped (g :: gs) = g.1 :: (g.2 ++ grouped gs) := rfl

/-- Groups can be told from their entries when no head could be an item. -/
theorem grouped_inj {q : α → Prop} {gs ks : List (α × List α)} (hg : ∀ g ∈ gs, ¬ q g.1 ∧ ∀ x ∈ g.2, q x)
    (hk : ∀ k ∈ ks, ¬ q k.1 ∧ ∀ x ∈ k.2, q x) (h : grouped gs = grouped ks) : gs = ks := by
  have hhead {gs : List (α × List α)} (hg : ∀ g ∈ gs, ¬ q g.1 ∧ ∀ x ∈ g.2, q x) :
      ∀ x ∈ (grouped gs).head?, ¬ q x := by
    cases gs with
    | nil => simp [grouped]
    | cons g gs => simpa [grouped] using (hg g List.mem_cons_self).1
  induction gs generalizing ks with
  | nil =>
      cases ks with
      | nil => rfl
      | cons k ks => simp [grouped] at h
  | cons g gs ih =>
      cases ks with
      | nil => simp [grouped] at h
      | cons k ks =>
          have hgs := fun g' hg' => hg g' (List.mem_cons_of_mem g hg')
          have hks := fun k' hk' => hk k' (List.mem_cons_of_mem k hk')
          rw [grouped_cons, grouped_cons] at h
          obtain ⟨hone, h⟩ := List.cons.inj h
          obtain ⟨htwo, hrest⟩ := boundary (hg g List.mem_cons_self).2 (hk k List.mem_cons_self).2 (hhead hgs)
            (hhead hks) h
          rw [Prod.ext hone htwo, ih hgs hks hrest]

/-- Sections under one list of titles can be told from what is rendered when a title can. -/
theorem rendered_inj {τ β γ : Type*} {render : τ → β → γ} (title : γ → τ) {ss rs : List (τ × Option β)}
    (hinj : ∀ t, Function.Injective (render t)) (htitle : ∀ t ∈ ss.map Prod.fst, ∀ v, title (render t v) = t)
    (hnodup : (ss.map Prod.fst).Nodup) (hsame : ss.map Prod.fst = rs.map Prod.fst)
    (h : rendered render ss = rendered render rs) : ss = rs := by
  have hmem {t : τ} {v : β} {ss : List (τ × Option β)} (htitle : ∀ t ∈ ss.map Prod.fst, ∀ v,
      title (render t v) = t)
      (ht : title (render t v) = t) (h : render t v ∈ rendered render ss) : t ∈ ss.map Prod.fst := by
    obtain ⟨⟨t', v'⟩, hs, he⟩ := List.mem_filterMap.mp h
    obtain ⟨w, -, he⟩ := Option.map_eq_some_iff.mp he
    have hfst := List.mem_map_of_mem (f := Prod.fst) hs
    rw [← ht, ← he, htitle t' hfst w]
    exact hfst
  induction ss generalizing rs with
  | nil =>
      exact (List.map_eq_nil_iff.mp hsame.symm).symm
  | cons s ss ih =>
      obtain ⟨t, v⟩ := s
      cases rs with
      | nil => cases hsame
      | cons r rs =>
          obtain ⟨t', w⟩ := r
          rw [List.map_cons, List.map_cons] at hsame
          obtain ⟨ht, hrest⟩ := List.cons.inj hsame
          obtain rfl : t = t' := ht
          have htail := fun t ht => htitle t (List.mem_cons_of_mem _ ht)
          have hother : ∀ v, title (render t v) = t := htitle t List.mem_cons_self
          rw [List.map_cons, List.nodup_cons] at hnodup
          have ih := fun hr => ih htail hnodup.2 hrest hr
          cases v with
          | none =>
              cases w with
              | none => rw [ih h]
              | some w =>
                  refine absurd (hmem htail (hother w) ?_) hnodup.1
                  rw [show rendered render ss = _ from h]
                  exact List.mem_cons_self
          | some v =>
              cases w with
              | none =>
                  refine absurd (hmem (hrest ▸ htail) (hother v) ?_) (hrest ▸ hnodup.1)
                  rw [show rendered render rs = _ from h.symm]
                  exact List.mem_cons_self
              | some w =>
                  obtain ⟨hhead, hrest⟩ := List.cons.inj h
                  rw [ih hrest, hinj t hhead]

end Library.Separated
