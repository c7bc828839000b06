import Mathlib.Data.List.Sort

namespace Library.Sorting

variable {α β γ : Type} [LinearOrder β]

/-- What sorting may make of a list; elements of which neither is less than the other may end up
in any order. -/
def Sorts (lt : α → α → Bool) (xs ys : List α) : Prop := ys.Perm xs ∧ ys.Pairwise fun a b => lt b a = false

/-- A comparison that looks at a rank only. -/
def Ranks (lt : α → α → Bool) (rank : α → β) : Prop := ∀ a b, lt a b = true ↔ rank a < rank b

variable {lt : α → α → Bool} {rank : α → β} {xs ys zs : List α} {f : α → γ} {a b : α}

theorem Sorts.of_perm (h : Sorts lt xs ys) (hp : xs.Perm zs) : Sorts lt zs ys := ⟨h.1.trans hp, h.2⟩

theorem sorts_iff (h : Ranks lt rank) :
    Sorts lt xs ys ↔ ys.Perm xs ∧ (ys.map rank).Pairwise (· ≤ ·) := by
  rw [Sorts, List.pairwise_map]
  have hle (a b : α) : lt b a = false ↔ rank a ≤ rank b := by
    rw [← Bool.not_eq_true, h b a, not_lt]
  simp only [hle]

theorem exists_sorts (h : Ranks lt rank) (xs : List α) : ∃ ys, Sorts lt xs ys := by
  refine ⟨xs.insertionSort fun a b => rank a ≤ rank b, (sorts_iff h).mpr ⟨List.perm_insertionSort _ xs, ?_⟩⟩
  rw [List.pairwise_map]
  have htotal : Std.Total fun a b : α => rank a ≤ rank b := ⟨fun a b => le_total _ _⟩
  have htrans : IsTrans α fun a b => rank a ≤ rank b := ⟨fun _ _ _ => le_trans⟩
  exact List.pairwise_insertionSort _ xs

theorem Sorts.map_rank (h : Ranks lt rank) (hy : Sorts lt xs ys) (hz : Sorts lt xs zs) :
    ys.map rank = zs.map rank := by
  obtain ⟨hpy, hsy⟩ := (sorts_iff h).mp hy
  obtain ⟨hpz, hsz⟩ := (sorts_iff h).mp hz
  apply List.Perm.eq_of_pairwise (fun _ _ _ _ => le_antisymm) hsy hsz
  exact (hpy.trans hpz.symm).map rank

theorem Sorts.map_eq (h : Ranks lt rank) (hf : ∀ a ∈ xs, ∀ b ∈ xs, rank a = rank b → f a = f b)
    (hy : Sorts lt xs ys) (hz : Sorts lt xs zs) : ys.map f = zs.map f := by
  have hrank := Sorts.map_rank h hy hz
  apply List.ext_getElem
  · simpa using congrArg List.length hrank
  · intro i hiy hiz
    rw [List.length_map] at hiy hiz
    rw [List.getElem_map, List.getElem_map]
    apply hf _ (hy.1.subset (List.getElem_mem hiy)) _ (hz.1.subset (List.getElem_mem hiz))
    simpa [hiy, hiz] using congrArg (·[i]?) hrank

theorem sorts_swap (h : Ranks lt rank) {s t u : List α} (hy : Sorts lt xs (s ++ a :: (t ++ b :: u)))
    (hrank : rank a = rank b) : Sorts lt xs (s ++ b :: (t ++ a :: u)) := by
  rw [sorts_iff h] at hy ⊢
  obtain ⟨hp, hs⟩ := hy
  constructor
  · refine List.Perm.trans ?_ hp
    apply List.Perm.append_left
    calc (b :: (t ++ a :: u)).Perm (b :: a :: (t ++ u)) := List.perm_middle.cons b
      List.Perm _ (a :: b :: (t ++ u)) := List.Perm.swap a b _
      List.Perm _ (a :: (t ++ b :: u)) := List.perm_middle.symm.cons a
  · simpa [hrank] using hs

theorem exists_map_ne (h : Ranks lt rank) {s t u : List α} (hy : Sorts lt xs (s ++ a :: (t ++ b :: u)))
    (hrank : rank a = rank b) (hf : f a ≠ f b) :
    ∃ ys zs, Sorts lt xs ys ∧ Sorts lt xs zs ∧ ys.map f ≠ zs.map f := by
  refine ⟨_, _, hy, sorts_swap h hy hrank, fun he => hf ?_⟩
  rw [List.map_append, List.map_append, List.map_cons, List.map_cons] at he
  exact (List.cons.inj (List.append_cancel_left he)).1

/-- Sorting determines what is read off a list exactly when that goes by the rank. -/
theorem map_determined_iff (h : Ranks lt rank) :
    (∀ ys zs, Sorts lt xs ys → Sorts lt xs zs → ys.map f = zs.map f) ↔
      ∀ a ∈ xs, ∀ b ∈ xs, rank a = rank b → f a = f b := by
  refine ⟨fun hall a ha b hb hrank => ?_, fun hf ys zs hy hz => hy.map_eq h hf hz⟩
  by_contra hne
  obtain ⟨ys, hy⟩ := exists_sorts h xs
  obtain ⟨s, t, rfl⟩ := List.append_of_mem (hy.1.symm.subset ha)
  have hswapped : ∃ ys zs, Sorts lt xs ys ∧ Sorts lt xs zs ∧ ys.map f ≠ zs.map f := by
    rcases List.mem_append.mp (hy.1.symm.subset hb) with hmem | hmem
    · obtain ⟨u, v, rfl⟩ := List.append_of_mem hmem
      rw [List.append_assoc, List.cons_append] at hy
      exact exists_map_ne h hy hrank.symm (Ne.symm hne)
    · rcases List.mem_cons.mp hmem with rfl | hmem
      · exact absurd rfl hne
      · obtain ⟨u, v, rfl⟩ := List.append_of_mem hmem
        exact exists_map_ne h hy hrank hne
  obtain ⟨ys, zs, hy, hz, hyz⟩ := hswapped
  exact hyz (hall ys zs hy hz)

end Library.Sorting
