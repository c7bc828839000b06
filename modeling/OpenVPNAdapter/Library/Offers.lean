import Mathlib.Data.List.Basic

namespace Library.Offers

variable {σ κ β : Type} (answer : σ → κ → Bool × σ)

/-- The receiver after a list of offers, each of which it answers and may keep. -/
def after (s : σ) (cs : List κ) : σ := cs.foldl (fun s c => (answer s c).2) s

/-- The offers of a list that are accepted when it is made from `s`. -/
def accepted : σ → List κ → List κ
  | _, [] => []
  | s, c :: cs => (if (answer s c).1 then [c] else []) ++ accepted (answer s c).2 cs

/-- Make offers up to the first one that is refused. -/
def offer : σ → List κ → Bool × σ
  | s, [] => (true, s)
  | s, c :: cs => if (answer s c).1 then offer (answer s c).2 cs else (false, (answer s c).2)

def made : σ → List κ → List κ
  | _, [] => []
  | s, c :: cs => c :: if (answer s c).1 then made (answer s c).2 cs else []

@[simp] theorem after_nil (s : σ) : after answer s [] = s := rfl

@[simp] theorem after_cons (s : σ) (c : κ) (cs : List κ) :
    after answer s (c :: cs) = after answer (answer s c).2 cs := rfl

theorem after_append (s : σ) (cs ds : List κ) :
    after answer s (cs ++ ds) = after answer (after answer s cs) ds := List.foldl_append

theorem accepted_append (s : σ) (cs ds : List κ) :
    accepted answer s (cs ++ ds) = accepted answer s cs ++ accepted answer (after answer s cs) ds := by
  induction cs generalizing s with
  | nil => rfl
  | cons c cs ih => rw [List.cons_append, accepted, accepted, ih, List.append_assoc, after_cons]

theorem offer_append (s : σ) (cs ds : List κ) : offer answer s (cs ++ ds) =
    if (offer answer s cs).1 then offer answer (offer answer s cs).2 ds else offer answer s cs := by
  induction cs generalizing s with
  | nil => rfl
  | cons c cs ih =>
      rw [List.cons_append, offer, offer]
      split
      · exact ih _
      · rfl

variable {answer}

theorem after_invariant {I : σ → Prop} {cs : List κ} (h : ∀ s, ∀ c ∈ cs, I s → I (answer s c).2) {s : σ}
    (hs : I s) : I (after answer s cs) := by
  induction cs generalizing s with
  | nil => exact hs
  | cons c cs ih =>
      exact ih (fun s d hd => h s d (List.mem_cons_of_mem c hd)) (h s c List.mem_cons_self hs)

theorem unchanged (field : σ → β) {cs : List κ} (h : ∀ s, ∀ c ∈ cs, field (answer s c).2 = field s) (s : σ) :
    field (after answer s cs) = field s :=
  after_invariant (I := fun t => field t = field s) (fun t c hc ht => (h t c hc).trans ht) rfl

/-- A view that the offers update by what they show is decided by what they show. -/
theorem view_after {β γ : Type} (view : σ → β) {shows : κ → Option γ} (update : β → γ → β)
    (hquiet : ∀ s c, shows c = none → view (answer s c).2 = view s)
    (hshown : ∀ s c v, shows c = some v → view (answer s c).2 = update (view s) v) (s : σ) (cs : List κ) :
    view (after answer s cs) = (cs.filterMap shows).foldl update (view s) := by
  induction cs generalizing s with
  | nil => rfl
  | cons c cs ih =>
      rw [after_cons, ih]
      cases hc : shows c with
      | none => rw [List.filterMap_cons_none hc, hquiet s c hc]
      | some v => rw [List.filterMap_cons_some hc, List.foldl_cons, hshown s c v hc]

theorem filterMap_accepted (shows : κ → Option β)
    (h : ∀ s c, (shows c).isSome → (answer s c).1 = true) (s : σ) (cs : List κ) :
    (accepted answer s cs).filterMap shows = cs.filterMap shows := by
  induction cs generalizing s with
  | nil => rfl
  | cons c cs ih =>
      rw [accepted, List.filterMap_append, ih, List.filterMap_cons]
      cases hc : shows c with
      | none => split <;> simp [hc]
      | some v =>
          rw [if_pos (h s c (by rw [hc]; rfl))]
          simp [hc]

/-- A value is held in the end when it was held before or offered, where a refusal means that
it is held already. -/
theorem held_after (field : σ → List β) (shows : κ → Option β) {k : β} {cs : List κ}
    (h : ∀ s, ∀ c ∈ cs, k ∈ field (answer s c).2 ↔ k ∈ field s ∨ shows c = some k) (s : σ) :
    k ∈ field (after answer s cs) ↔ k ∈ field s ∨ k ∈ cs.filterMap shows := by
  induction cs generalizing s with
  | nil => simp
  | cons c cs ih =>
      rw [after_cons, ih (fun s d hd => h s d (List.mem_cons_of_mem _ hd)), h s c List.mem_cons_self, or_assoc]
      apply or_congr_right
      simp only [List.mem_filterMap, List.mem_cons, exists_eq_or_imp]

/-- A field that each accepted offer overwrites with what it shows holds what the last one shows. -/
theorem remembered (field : σ → Option β) (shows : κ → Option β)
    (h : ∀ s c, field (answer s c).2 = (if (answer s c).1 then shows c else none).or (field s))
    (s : σ) (cs : List κ) :
    field (after answer s cs) = ((accepted answer s cs).filterMap shows).getLast?.or (field s) := by
  induction cs generalizing s with
  | nil => rfl
  | cons c cs ih =>
      rw [after_cons, ih, h, accepted, List.filterMap_append, List.getLast?_append, Option.or_assoc]
      congr 1
      cases (answer s c).1 with
      | false => rfl
      | true => cases hc : shows c <;> simp [hc]

section Surplus

variable (field : σ → List β) (shows : κ → Option β) (left : σ → κ → List β)
  (h : ∀ s c, field (answer s c).2 =
    field s ++ (if (answer s c).1 then (shows c).toList else []) ++ left s c)

include h

theorem shown_length_le (s : σ) (cs : List κ) :
    (field s).length + ((accepted answer s cs).filterMap shows).length ≤
      (field (after answer s cs)).length := by
  induction cs generalizing s with
  | nil => simp [accepted]
  | cons c cs ih =>
      have hs := congrArg List.length (h s c)
      have hrest := ih (answer s c).2
      have hhead : ((if (answer s c).1 then [c] else []).filterMap shows).length =
          (if (answer s c).1 then (shows c).toList else []).length := by
        cases (answer s c).1 with
        | false => rfl
        | true => cases hc : shows c <;> simp [hc]
      rw [accepted, List.filterMap_append, List.length_append, after_cons]
      rw [List.length_append, List.length_append] at hs
      omega

/-- As `collected`, for a field that may also take in what an offer leaves behind: it holds
what the accepted offers show exactly when nothing was left behind on the way. -/
theorem collected_iff (s : σ) (cs : List κ) :
    field (after answer s cs) = field s ++ (accepted answer s cs).filterMap shows ↔
      ∀ pre c post, cs = pre ++ c :: post → left (after answer s pre) c = [] := by
  induction cs generalizing s with
  | nil => simp [accepted]
  | cons c cs ih =>
      have hhead : (if (answer s c).1 then [c] else []).filterMap shows =
          if (answer s c).1 then (shows c).toList else [] := by
        cases (answer s c).1 with
        | false => rfl
        | true => cases hc : shows c <;> simp [hc]
      rw [after_cons, accepted, List.filterMap_append, hhead, ← List.append_assoc]
      by_cases hl : left s c = []
      · have hs := h s c
        rw [hl, List.append_nil] at hs
        rw [← hs, ih]
        refine ⟨fun hsplit pre d post he => ?_, fun hsplit pre d post he => ?_⟩
        · cases pre with
          | nil =>
              obtain ⟨rfl, rfl⟩ := List.cons.inj he
              exact hl
          | cons e pre =>
              obtain ⟨rfl, rfl⟩ := List.cons.inj he
              exact hsplit pre d post rfl
        · exact hsplit (c :: pre) d post (by rw [he]; rfl)
      · refine ⟨fun he => ?_, fun hsplit => absurd (hsplit [] c cs rfl) hl⟩
        have hs := congrArg List.length (h s c)
        have hle := shown_length_le field shows left h (answer s c).2 cs
        have hlen := congrArg List.length he
        have hpos := List.length_pos_iff.mpr hl
        simp only [List.length_append] at hs hlen
        omega

end Surplus

/-- A field that grows by what each accepted offer shows holds, in the end, what the accepted
offers show, in their order. -/
theorem collected (field : σ → List β) (shows : κ → Option β)
    (h : ∀ s c, field (answer s c).2 = field s ++ if (answer s c).1 then (shows c).toList else [])
    (s : σ) (cs : List κ) :
    field (after answer s cs) = field s ++ (accepted answer s cs).filterMap shows := by
  have hleft : ∀ s c, field (answer s c).2 =
      field s ++ (if (answer s c).1 then (shows c).toList else []) ++ (fun _ _ => []) s c := by
    intro s c
    rw [h, List.append_nil]
  exact (collected_iff field shows _ hleft s cs).mpr fun _ _ _ _ => rfl

theorem collected_eq_nil_iff (field : σ → List β) (shows : κ → Option β)
    (h : ∀ s c, field (answer s c).2 = field s ++ if (answer s c).1 then (shows c).toList else [])
    (hfirst : ∀ s c, field s = [] → (shows c).isSome → (answer s c).1 = true) {s : σ}
    (hs : field s = []) (cs : List κ) :
    (accepted answer s cs).filterMap shows = [] ↔ cs.filterMap shows = [] := by
  induction cs generalizing s with
  | nil => rfl
  | cons c cs ih =>
      have hstep := h s c
      rw [accepted, List.filterMap_append, List.filterMap_cons, List.append_eq_nil_iff]
      cases hc : shows c with
      | none =>
          rw [hs, hc] at hstep
          rw [ih (by simpa using hstep)]
          apply and_iff_right
          split <;> simp [hc]
      | some v =>
          rw [if_pos (hfirst s c hs (by rw [hc]; rfl))]
          simp [hc]

theorem made_initial (s : σ) (cs : List κ) : made answer s cs <+: cs := by
  induction cs generalizing s with
  | nil => exact List.prefix_refl _
  | cons c cs ih =>
      refine List.cons_prefix_cons.mpr ⟨rfl, ?_⟩
      split
      · exact ih _
      · exact List.nil_prefix

theorem offer_snd (s : σ) (cs : List κ) : (offer answer s cs).2 = after answer s (made answer s cs) := by
  induction cs generalizing s with
  | nil => rfl
  | cons c cs ih =>
      rw [offer, made, after_cons]
      split
      · exact ih _
      · rfl

theorem offer_of_accepting {cs : List κ} (h : ∀ c ∈ cs, ∀ s, (answer s c).1 = true) (s : σ) :
    offer answer s cs = (true, after answer s cs) := by
  induction cs generalizing s with
  | nil => rfl
  | cons c cs ih =>
      rw [offer, if_pos (h c List.mem_cons_self s), after_cons]
      exact ih (fun d hd => h d (List.mem_cons_of_mem _ hd)) _

end Library.Offers
