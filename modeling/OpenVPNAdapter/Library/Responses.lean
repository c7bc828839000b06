import Mathlib.Data.List.Forall2

namespace Library.Responses

variable {σ ι ο : Type*} (react : σ → ι → ο × σ)

/-- What a machine answers to a list of inputs, one answer for each. -/
def responses : σ → List ι → List ο
  | _, [] => []
  | s, i :: is => (react s i).1 :: responses (react s i).2 is

def final (s : σ) (is : List ι) : σ := is.foldl (fun s i => (react s i).2) s

@[simp] theorem final_nil (s : σ) : final react s [] = s := rfl

theorem final_cons (s : σ) (i : ι) (is : List ι) :
    final react s (i :: is) = final react (react s i).2 is := rfl

theorem final_append (s : σ) (is js : List ι) :
    final react s (is ++ js) = final react (final react s is) js := List.foldl_append

variable {react}

/-- Two runs of one machine answer alike from related states, when one step does and keeps the
states related. -/
theorem alike {R : σ → σ → Prop} {A : ο → ο → Prop}
    (hstep : ∀ s t i, R s t → A (react s i).1 (react t i).1 ∧ R (react s i).2 (react t i).2)
    {s t : σ} (hR : R s t) (is : List ι) :
    List.Forall₂ A (responses react s is) (responses react t is) ∧ R (final react s is) (final react t is) := by
  induction is generalizing s t with
  | nil => exact ⟨.nil, hR⟩
  | cons i is ih =>
      obtain ⟨hout, hnext⟩ := hstep s t i hR
      obtain ⟨houts, hlast⟩ := ih hnext
      exact ⟨.cons hout houts, hlast⟩

/-- The runs cannot be told apart when related states answer the same. -/
theorem indistinguishable {R : σ → σ → Prop}
    (hstep : ∀ s t i, R s t → (react s i).1 = (react t i).1 ∧ R (react s i).2 (react t i).2)
    {s t : σ} (hR : R s t) (is : List ι) : responses react s is = responses react t is := by
  have h := (alike hstep hR is).1
  rwa [List.forall₂_eq_eq_eq] at h

end Library.Responses
