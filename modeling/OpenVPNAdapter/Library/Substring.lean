import Mathlib.Data.List.Infix
import Mathlib.Data.List.TakeDrop
import Mathlib.Data.Nat.Find

namespace Library.Substring

variable {α : Type*} {needle head rest text : List α}

/-- Neither begins with the other, so they differ somewhere. -/
def Apart (xs ys : List α) : Prop := ¬ xs <+: ys ∧ ¬ ys <+: xs

theorem Apart.not_prefix_append (h : Apart head needle) (rest : List α) : ¬ needle <+: head ++ rest := fun hp =>
  (List.prefix_or_prefix_of_prefix hp (List.prefix_append head rest)).elim h.2 h.1

/-- What a text goes on with is of no matter for a word that ends before. -/
theorem prefix_drop_append_iff {j : Nat} (h : j + needle.length ≤ head.length) :
    needle <+: (head ++ rest).drop j ↔ needle <+: head.drop j := by
  have hlength : needle.length ≤ (head.drop j).length := by
    rw [List.length_drop]
    omega
  rw [List.drop_append_of_le_length (by omega)]
  exact ⟨fun hp => List.prefix_of_prefix_length_le hp (List.prefix_append _ _) hlength,
    fun hp => hp.trans (List.prefix_append _ _)⟩

variable [DecidableEq α]

instance : Decidable (Apart head needle) := inferInstanceAs (Decidable (_ ∧ _))

/-- Where `needle` first begins in a text. -/
def firstIndex (needle : List α) : List α → Option Nat
  | [] => if needle = [] then some 0 else none
  | x :: xs => if needle <+: x :: xs then some 0 else (firstIndex needle xs).map (· + 1)

theorem firstIndex_of_prefix (h : needle <+: text) : firstIndex needle text = some 0 := by
  cases text with
  | nil => rw [firstIndex, if_pos (List.prefix_nil.mp h)]
  | cons x xs => rw [firstIndex, if_pos h]

theorem firstIndex_cons_of_not_prefix {x : α} (xs : List α) (h : ¬ needle <+: x :: xs) :
    firstIndex needle (x :: xs) = (firstIndex needle xs).map (· + 1) := by
  rw [firstIndex, if_neg h]

/-- Where `needle` begins nowhere in `head`, it is looked for behind it. -/
theorem firstIndex_append (h : ∀ k < head.length, ¬ needle <+: head.drop k ++ rest) :
    firstIndex needle (head ++ rest) = (firstIndex needle rest).map (· + head.length) := by
  induction head with
  | nil => simp
  | cons x xs ih =>
      have hxs := ih fun k hk => h (k + 1) (Nat.succ_lt_succ hk)
      rw [List.cons_append, firstIndex_cons_of_not_prefix (xs ++ rest) (h 0 (Nat.succ_pos _)), hxs, Option.map_map]
      rfl

theorem firstIndex_eq_some_iff {k : Nat} :
    firstIndex needle text = some k ↔ needle <+: text.drop k ∧ ∀ j < k, ¬ needle <+: text.drop j := by
  induction text generalizing k with
  | nil =>
      simp only [firstIndex, List.drop_nil, List.prefix_nil]
      split
      · rename_i hneedle
        constructor
        · intro h
          obtain rfl := Option.some.inj h
          exact ⟨hneedle, nofun⟩
        · rintro ⟨-, hbefore⟩
          cases k with
          | zero => rfl
          | succ k => exact absurd hneedle (hbefore 0 k.succ_pos)
      · rename_i hneedle
        exact ⟨nofun, fun h => absurd h.1 hneedle⟩
  | cons x xs ih =>
      rw [firstIndex]
      split
      · rename_i hp
        constructor
        · intro h
          obtain rfl := Option.some.inj h
          exact ⟨hp, nofun⟩
        · rintro ⟨-, hbefore⟩
          cases k with
          | zero => rfl
          | succ k => exact absurd hp (hbefore 0 k.succ_pos)
      · rename_i hp
        cases k with
        | zero => exact ⟨fun h => by simp at h, fun h => absurd h.1 hp⟩
        | succ k =>
            rw [Option.map_eq_some_iff]
            constructor
            · rintro ⟨i, hi, hk⟩
              obtain rfl := Nat.succ.inj hk
              obtain ⟨hat, hbefore⟩ := ih.mp hi
              refine ⟨hat, fun j hj => ?_⟩
              cases j with
              | zero => exact hp
              | succ j => exact hbefore j (Nat.lt_of_succ_lt_succ hj)
            · rintro ⟨hat, hbefore⟩
              exact ⟨k, ih.mpr ⟨hat, fun j hj => hbefore (j + 1) (Nat.succ_lt_succ hj)⟩, rfl⟩

theorem firstIndex_eq_none_iff : firstIndex needle text = none ↔ ∀ j, ¬ needle <+: text.drop j := by
  constructor
  · intro h j hj
    have hleast := Nat.find_spec (p := fun j => needle <+: text.drop j) ⟨j, hj⟩
    have hfirst := firstIndex_eq_some_iff.mpr ⟨hleast, fun i hi => Nat.find_min ⟨j, hj⟩ hi⟩
    rw [h] at hfirst
    cases hfirst
  · intro h
    cases hfirst : firstIndex needle text with
    | none => rfl
    | some k => exact absurd (firstIndex_eq_some_iff.mp hfirst).1 (h k)

theorem firstIndex_add_le {k : Nat} (h : firstIndex needle text = some k) : k + needle.length ≤ text.length := by
  obtain ⟨hat, hbefore⟩ := firstIndex_eq_some_iff.mp h
  have hlength := hat.length_le
  rw [List.length_drop] at hlength
  rcases Nat.lt_or_ge text.length k with hlt | hle
  · -- only an empty word is found behind the end, and that one is found at once
    have hneedle : needle = [] := List.length_eq_zero_iff.mp (by omega)
    exact absurd (hneedle ▸ List.nil_prefix) (hbefore 0 (by omega))
  · omega

theorem firstIndex_append_iff {k : Nat} (h : k + needle.length ≤ head.length) :
    firstIndex needle (head ++ rest) = some k ↔ firstIndex needle head = some k := by
  rw [firstIndex_eq_some_iff, firstIndex_eq_some_iff, prefix_drop_append_iff h]
  refine and_congr_right fun _ => forall_congr' fun j => imp_congr_right fun hj => ?_
  rw [prefix_drop_append_iff (by omega)]

theorem firstIndex_append_of_apart (h : ∀ k < head.length, Apart (head.drop k) needle) :
    firstIndex needle (head ++ rest) = (firstIndex needle rest).map (· + head.length) :=
  firstIndex_append fun k hk => (h k hk).not_prefix_append rest

theorem firstIndex_append_of_notMem {x : α} (needle rest : List α) (h : x ∉ head) :
    firstIndex (x :: needle) (head ++ rest) = (firstIndex (x :: needle) rest).map (· + head.length) := by
  refine firstIndex_append fun k hk hp => h ?_
  rw [List.drop_eq_getElem_cons hk, List.cons_append, List.cons_prefix_cons] at hp
  exact hp.1 ▸ List.getElem_mem hk

end Library.Substring
