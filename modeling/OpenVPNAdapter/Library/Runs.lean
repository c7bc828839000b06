import Mathlib.Data.List.Basic
import Mathlib.Data.List.Infix
import Mathlib.Data.Option.Basic

namespace Library.Runs

variable {σ α : Type*} {step : σ → α → Option σ}

/-- Execute a list of actions of a partial machine; `none` when an action is not enabled. -/
def run (step : σ → α → Option σ) : σ → List α → Option σ
  | s, [] => some s
  | s, a :: as => (step s a).bind fun t => run step t as

/-- `P` holds in every state a run passes through, its first and last included.
An action that is not enabled ends the run. -/
def Throughout (step : σ → α → Option σ) (P : σ → Prop) : σ → List α → Prop
  | s, [] => P s
  | s, a :: as => P s ∧ ∀ t, step s a = some t → Throughout step P t as

/-- Every step a run takes satisfies `C`, a relation between the state before,
the action and the state after. -/
def Guarded (step : σ → α → Option σ) (C : σ → α → σ → Prop) : σ → List α → Prop
  | _, [] => True
  | s, a :: as => ∀ t, step s a = some t → C s a t ∧ Guarded step C t as

@[simp] theorem run_nil (s : σ) : run step s [] = some s := rfl

theorem run_cons (s : σ) (a : α) (as : List α) :
    run step s (a :: as) = (step s a).bind fun t => run step t as := rfl

theorem run_cons_eq_some {s u : σ} {a : α} {as : List α} :
    run step s (a :: as) = some u ↔ ∃ t, step s a = some t ∧ run step t as = some u := by
  rw [run_cons, Option.bind_eq_some_iff]

theorem run_append (s : σ) (as bs : List α) :
    run step s (as ++ bs) = (run step s as).bind fun t => run step t bs := by
  induction as generalizing s with
  | nil => rfl
  | cons a as ih =>
      rw [List.cons_append, run_cons, run_cons]
      cases step s a with
      | none => rfl
      | some t => exact ih t

theorem throughout_iff_reached {P : σ → Prop} {s : σ} {as : List α} :
    Throughout step P s as ↔ ∀ bs t, bs <+: as → run step s bs = some t → P t := by
  induction as generalizing s with
  | nil =>
      refine ⟨fun h bs t hb ht => ?_, fun h => h [] s (List.prefix_refl _) rfl⟩
      obtain rfl := List.prefix_nil.mp hb
      obtain rfl : s = t := by simpa using ht
      exact h
  | cons a as ih =>
      refine ⟨fun h bs t hb ht => ?_, fun h => ⟨h [] s (List.nil_prefix) rfl, fun t ht => ?_⟩⟩
      · cases bs with
        | nil =>
            obtain rfl : s = t := by simpa using ht
            exact h.1
        | cons b bs =>
            obtain ⟨rfl, hbs⟩ := List.cons_prefix_cons.mp hb
            obtain ⟨u, hu, hut⟩ := run_cons_eq_some.mp ht
            exact ih.mp (h.2 u hu) bs t hbs hut
      · exact ih.mpr fun bs u hb hu =>
          h (a :: bs) u (List.cons_prefix_cons.mpr ⟨rfl, hb⟩) (run_cons_eq_some.mpr ⟨t, ht, hu⟩)

theorem Throughout.last {P : σ → Prop} {s t : σ} {as : List α}
    (h : Throughout step P s as) (ht : run step s as = some t) : P t :=
  throughout_iff_reached.mp h as t (List.prefix_refl _) ht

theorem Throughout.mono {P Q : σ → Prop} (hPQ : ∀ s, P s → Q s) {s : σ} {as : List α}
    (h : Throughout step P s as) : Throughout step Q s as := by
  induction as generalizing s with
  | nil => exact hPQ s h
  | cons a as ih => exact ⟨hPQ s h.1, fun t ht => ih (h.2 t ht)⟩

theorem Guarded.mono {C D : σ → α → σ → Prop} (hCD : ∀ s a t, step s a = some t → C s a t → D s a t)
    {s : σ} {as : List α} (h : Guarded step C s as) : Guarded step D s as := by
  induction as generalizing s with
  | nil => trivial
  | cons a as ih => exact fun t ht => ⟨hCD s a t ht (h t ht).1, ih (h t ht).2⟩

/-- Guards that agree on the steps from an invariant state guard the same runs. -/
theorem guarded_congr {I : σ → Prop} {C D : σ → α → σ → Prop} (hinv : ∀ s a t, I s → step s a = some t → I t)
    (h : ∀ s a t, I s → step s a = some t → (C s a t ↔ D s a t)) {s : σ} {as : List α} (hs : I s) :
    Guarded step C s as ↔ Guarded step D s as := by
  induction as generalizing s with
  | nil => exact Iff.rfl
  | cons a as ih =>
      refine forall₂_congr fun t ht => ?_
      rw [h s a t hs ht, ih (hinv s a t hs ht)]

/-- An invariant that every step preserves holds throughout every run. -/
theorem throughout_of_invariant {I : σ → Prop} (hstep : ∀ s a t, I s → step s a = some t → I t) {s : σ} (hs : I s)
    (as : List α) : Throughout step I s as := by
  induction as generalizing s with
  | nil => exact hs
  | cons a as ih => exact ⟨hs, fun t ht => ih (hstep s a t hs ht)⟩

/-- An invariant that every guarded step preserves holds throughout a guarded run. -/
theorem throughout_of_guarded {I : σ → Prop} {C : σ → α → σ → Prop}
    (hstep : ∀ s a t, I s → step s a = some t → C s a t → I t) {s : σ} {as : List α}
    (hs : I s) (h : Guarded step C s as) : Throughout step I s as := by
  induction as generalizing s with
  | nil => exact hs
  | cons a as ih =>
      exact ⟨hs, fun t ht => ih (hstep s a t hs ht (h t ht).1) (h t ht).2⟩

/-- A relation that every step between invariant states satisfies guards the run. -/
theorem guarded_of_throughout {I : σ → Prop} {C : σ → α → σ → Prop}
    (hstep : ∀ s a t, I s → step s a = some t → I t → C s a t) {s : σ} {as : List α}
    (h : Throughout step I s as) : Guarded step C s as := by
  induction as generalizing s with
  | nil => trivial
  | cons a as ih =>
      intro t ht
      have hI : I t := by
        cases as with
        | nil => exact h.2 t ht
        | cons b bs => exact (h.2 t ht).1
      exact ⟨hstep s a t h.1 ht hI, ih (h.2 t ht)⟩

theorem Throughout.first {P : σ → Prop} {s : σ} {as : List α} (h : Throughout step P s as) : P s := by
  cases as with
  | nil => exact h
  | cons a as => exact h.1

/-- Where, under an invariant `I`, a step keeps `P` exactly when it meets the guard, a run
keeps `P` throughout exactly when all its steps meet the guard. -/
theorem throughout_iff_guarded {I P : σ → Prop} {C : σ → α → σ → Prop}
    (hinv : ∀ s a t, I s → step s a = some t → I t)
    (hstep : ∀ s a t, I s → P s → step s a = some t → (P t ↔ C s a t)) {s : σ} {as : List α}
    (hI : I s) (hP : P s) : Throughout step P s as ↔ Guarded step C s as := by
  induction as generalizing s with
  | nil => exact ⟨fun _ => trivial, fun _ => hP⟩
  | cons a as ih =>
      constructor
      · intro h t ht
        have hPt := (h.2 t ht).first
        exact ⟨(hstep s a t hI hP ht).mp hPt, (ih (hinv s a t hI ht) hPt).mp (h.2 t ht)⟩
      · intro h
        refine ⟨hP, fun t ht => ?_⟩
        have hPt := (hstep s a t hI hP ht).mpr (h t ht).1
        exact (ih (hinv s a t hI ht) hPt).mpr (h t ht).2

instance guardedDecidable {C : σ → α → σ → Prop} [∀ s a t, Decidable (C s a t)] (s : σ) (as : List α) :
    Decidable (Guarded step C s as) :=
  match as with
  | [] => isTrue trivial
  | a :: as =>
      match h : step s a with
      | none => isTrue fun t ht => by rw [h] at ht; cases ht
      | some u =>
          have : Decidable (Guarded step C u as) := guardedDecidable u as
          decidable_of_iff (C s a u ∧ Guarded step C u as)
            ⟨fun hu t ht => by rw [h] at ht; cases ht; exact hu, fun hu => hu u h⟩

/-- Steps that are not `own` may be erased from a guarded run when they keep the relation
to the run without them and the other steps go along. -/
theorem run_erase {own : α → Bool} {R : σ → σ → Prop} {C : σ → α → σ → Prop}
    (hown : ∀ s s' a t, R s s' → own a = true → step s a = some t → C s a t → ∃ t', step s' a = some t' ∧ R t t')
    (hother : ∀ s s' a t, R s s' → own a = false → step s a = some t → C s a t → R t s')
    {s s' t : σ} {as : List α} (hR : R s s') (hC : Guarded step C s as) (h : run step s as = some t) :
    ∃ t', run step s' (as.filter own) = some t' ∧ R t t' := by
  induction as generalizing s s' with
  | nil =>
      obtain rfl := Option.some.inj h
      exact ⟨s', rfl, hR⟩
  | cons a as ih =>
      obtain ⟨u, hu, hut⟩ := run_cons_eq_some.mp h
      obtain ⟨hCa, hCrest⟩ := hC u hu
      cases ha : own a with
      | true =>
          obtain ⟨u', hu', hR'⟩ := hown s s' a u hR ha hu hCa
          obtain ⟨t', ht', hRt⟩ := ih hR' hCrest hut
          rw [List.filter_cons_of_pos ha]
          exact ⟨t', run_cons_eq_some.mpr ⟨u', hu', ht'⟩, hRt⟩
      | false =>
          rw [List.filter_cons_of_neg (by simp [ha])]
          exact ih (hother s s' a u hR ha hu hCa) hCrest hut

end Library.Runs
