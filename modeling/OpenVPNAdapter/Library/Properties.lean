import Mathlib.Data.List.Basic
import Mathlib.Data.Option.Basic

namespace Library.Properties

variable {π : Type*} {S V : π → Type*} {σ : Type*}

/-- An object whose state is made of one field for each name. -/
structure Fields (π : Type*) (S : π → Type*) (σ : Type*) where
  get : σ → (q : π) → S q
  put : σ → (q : π) → S q → σ
  get_put : ∀ c q x, get (put c q x) q = x
  get_put_other : ∀ c q r x, q ≠ r → get (put c q x) r = get c r
  put_get : ∀ c q, put c q (get c q) = c

/-- A property: what a value is stored as, and what a stored value is read as. -/
structure Conversion (S V : π → Type*) where
  store : (q : π) → V q → S q
  load : (q : π) → S q → V q

variable (F : Fields π S σ) (k : Conversion S V)

def read (c : σ) (q : π) : V q := k.load q (F.get c q)

def write (c : σ) (q : π) (v : V q) : σ := F.put c q (k.store q v)

def writes (c : σ) (ws : List (Σ q, V q)) : σ := ws.foldl (fun c w => write F k c w.1 w.2) c

theorem get_write (c : σ) (q : π) (v : V q) : F.get (write F k c q v) q = k.store q v := F.get_put c q _

theorem read_write_other (c : σ) {q r : π} (h : q ≠ r) (v : V q) :
    read F k (write F k c q v) r = read F k c r := by
  rw [read, write, F.get_put_other c q r _ h, read]

theorem write_read_iff (c : σ) (q : π) :
    write F k c q (read F k c q) = c ↔ k.store q (k.load q (F.get c q)) = F.get c q := by
  constructor
  · intro h
    have hget := congrArg (F.get · q) h
    rwa [get_write] at hget
  · intro h
    rw [write, read, h, F.put_get]

/-- Objects that were written from the same one agree when their fields do, where nothing else in
them can be written. -/
theorem writes_ext {ρ : Type*} {rest : σ → ρ} (hput : ∀ c q x, rest (F.put c q x) = rest c)
    (hext : ∀ c d, rest c = rest d → (∀ q, F.get c q = F.get d q) → c = d) (c : σ)
    (us ws : List (Σ q, V q)) :
    writes F k c us = writes F k c ws ↔ ∀ q, F.get (writes F k c us) q = F.get (writes F k c ws) q := by
  have hrest (d : σ) (vs : List (Σ q, V q)) : rest (writes F k d vs) = rest d := by
    induction vs generalizing d with
    | nil => rfl
    | cons v vs ih => exact (ih _).trans (hput _ _ _)
  exact ⟨fun h q => by rw [h], hext _ _ ((hrest c us).trans (hrest c ws).symm)⟩

variable {G : π → Type*} (accept : (q : π) → G q → Option (V q))

/-- A write with an argument that need not be one the property takes. -/
def tryWrite (c : σ) (q : π) (g : G q) : Option σ := (accept q g).map (write F k c q)

def tryWrites (c : σ) (ws : List (Σ q, G q)) : Option σ := ws.foldlM (fun c w => tryWrite F k accept c w.1 w.2) c

def accepted (ws : List (Σ q, G q)) : Option (List (Σ q, V q)) := ws.mapM fun w => (accept w.1 w.2).map (⟨w.1, ·⟩)

theorem accepted_cons (w : Σ q, G q) (ws : List (Σ q, G q)) :
    accepted accept (w :: ws) =
      (accept w.1 w.2).bind fun v => (accepted accept ws).map fun vs => ⟨w.1, v⟩ :: vs := by
  rw [accepted, List.mapM_cons]
  cases accept w.1 w.2 with
  | none => rfl
  | some v => cases h : accepted accept ws <;> rw [accepted] at h <;> rw [h] <;> rfl

/-- Such writes come to what the accepted arguments make, where all of them are accepted. -/
theorem tryWrites_eq (c : σ) (ws : List (Σ q, G q)) :
    tryWrites F k accept c ws = (accepted accept ws).map (writes F k c) := by
  induction ws generalizing c with
  | nil => rfl
  | cons w ws ih =>
      rw [accepted_cons, tryWrites, List.foldlM_cons, tryWrite]
      cases accept w.1 w.2 with
      | none => rfl
      | some v =>
          change tryWrites F k accept (write F k c w.1 v) ws = _
          rw [ih, Option.bind_some, Option.map_map]
          rfl

theorem accepted_ne_none_iff {ws : List (Σ q, G q)} :
    accepted accept ws ≠ none ↔ ∀ w ∈ ws, accept w.1 w.2 ≠ none := by
  induction ws with
  | nil => exact iff_of_true (by rintro ⟨⟩) fun _ h => by cases h
  | cons w ws ih =>
      rw [accepted_cons, List.forall_mem_cons, ← ih]
      cases accept w.1 w.2 <;> cases accepted accept ws <;> simp

variable [DecidableEq π]

def lastWritten : List (Σ q, V q) → (q : π) → Option (V q)
  | [], _ => none
  | w :: ws, q =>
      match lastWritten ws q with
      | some v => some v
      | none => if h : w.1 = q then some (h ▸ w.2) else none

theorem get_writes (c : σ) (ws : List (Σ q, V q)) (q : π) :
    F.get (writes F k c ws) q = ((lastWritten ws q).map (k.store q)).getD (F.get c q) := by
  induction ws generalizing c with
  | nil => rfl
  | cons w ws ih =>
      obtain ⟨r, v⟩ := w
      have hrest := ih (write F k c r v)
      rw [lastWritten]
      cases hlast : lastWritten ws q with
      | some u => simpa [writes, hlast] using hrest
      | none =>
          rw [hlast] at hrest
          by_cases h : r = q
          · subst h
            rw [dif_pos rfl]
            exact hrest.trans (get_write F k c r v)
          · rw [dif_neg h]
            exact hrest.trans (F.get_put_other c r q _ h)

theorem mem_of_lastWritten {ws : List (Σ q, G q)} {q : π} {g : G q} (h : lastWritten ws q = some g) :
    ⟨q, g⟩ ∈ ws := by
  induction ws with
  | nil => cases h
  | cons w ws ih =>
      rw [lastWritten] at h
      cases hlast : lastWritten ws q with
      | some g' =>
          rw [hlast] at h
          exact List.mem_cons_of_mem w (ih (hlast.trans h))
      | none =>
          rw [hlast] at h
          by_cases hr : w.1 = q
          · subst hr
            obtain rfl := Option.some.inj ((dif_pos rfl).symm.trans h)
            exact List.mem_cons_self
          · rw [dif_neg hr] at h
            cases h

theorem lastWritten_accepted {ws : List (Σ q, G q)} {vs : List (Σ q, V q)}
    (h : accepted accept ws = some vs) (q : π) :
    lastWritten vs q = (lastWritten ws q).bind (accept q) := by
  induction ws generalizing vs with
  | nil =>
      obtain rfl := Option.some.inj h
      rfl
  | cons w ws ih =>
      obtain ⟨r, g⟩ := w
      rw [accepted_cons] at h
      obtain ⟨v, hv, hmap⟩ := Option.bind_eq_some_iff.mp h
      obtain ⟨vs, hvs, rfl⟩ := Option.map_eq_some_iff.mp hmap
      rw [lastWritten, lastWritten, ih hvs]
      cases hlast : lastWritten ws q with
      | some g' =>
          have hg' := (accepted_ne_none_iff accept).mp (by rw [hvs]; rintro ⟨⟩) _ (mem_of_lastWritten hlast)
          obtain ⟨v', hv'⟩ := Option.ne_none_iff_exists'.mp hg'
          simp only [Option.bind_some, hv']
      | none =>
          by_cases hr : r = q
          · subst hr
            simp [hv]
          · simp [hr]

/-- A new object, with the properties in `qs` written as they are read from another. -/
def copy (qs : List π) (new c : σ) : σ := writes F k new (qs.map fun q => ⟨q, read F k c q⟩)

theorem lastWritten_map (f : (q : π) → V q) (qs : List π) (q : π) :
    lastWritten (qs.map fun r => (⟨r, f r⟩ : Σ q, V q)) q = if q ∈ qs then some (f q) else none := by
  induction qs with
  | nil => rfl
  | cons r qs ih =>
      rw [List.map_cons, lastWritten, ih]
      by_cases hq : q ∈ qs
      · simp [hq]
      · by_cases hr : r = q
        · subst hr
          simp [hq]
        · simp [hq, hr, Ne.symm hr]

theorem get_copy (qs : List π) (new c : σ) (q : π) :
    F.get (copy F k qs new c) q =
      if q ∈ qs then k.store q (k.load q (F.get c q)) else F.get new q := by
  rw [copy, get_writes, lastWritten_map]
  by_cases hq : q ∈ qs <;> simp [hq, read]

/-- A copy is the object itself exactly when what is copied is stored as it was and what is not
copied is as in a new object. -/
theorem copy_eq_iff {ρ : Type*} {rest : σ → ρ} (hput : ∀ c q x, rest (F.put c q x) = rest c)
    (hext : ∀ c d, rest c = rest d → (∀ q, F.get c q = F.get d q) → c = d) (qs : List π) (new : σ)
    (ws : List (Σ q, V q)) :
    copy F k qs new (writes F k new ws) = writes F k new ws ↔ ∀ q,
      if q ∈ qs then k.store q (k.load q (F.get (writes F k new ws) q)) = F.get (writes F k new ws) q
      else F.get new q = F.get (writes F k new ws) q := by
  rw [copy, writes_ext F k hput hext]
  refine forall_congr' fun q => ?_
  have hget := get_copy F k qs new (writes F k new ws) q
  rw [copy] at hget
  rw [hget]
  by_cases hq : q ∈ qs <;> simp [hq]

variable {κ ν : Type*} [DecidableEq κ]

/-- How the properties go into an archive: each under its key, as an archived value. -/
structure Coding (V : π → Type*) (κ ν : Type*) where
  key : π → κ
  box : (q : π) → V q → ν
  unbox : (q : π) → Option ν → V q
  key_inj : ∀ q r, key q = key r → q = r
  unbox_box : ∀ q v, unbox q (some (box q v)) = v

variable (e : Coding V κ ν)

def encode (qs : List π) (c : σ) : List (κ × ν) := qs.map fun q => (e.key q, e.box q (read F k c q))

def decode (qs : List π) (new : σ) (archive : List (κ × ν)) : σ :=
  writes F k new (qs.map fun q => ⟨q, e.unbox q (archive.lookup (e.key q))⟩)

theorem lookup_encode {qs : List π} {q : π} (h : q ∈ qs) (c : σ) :
    (encode F k e qs c).lookup (e.key q) = some (e.box q (read F k c q)) := by
  induction qs with
  | nil => cases h
  | cons r qs ih =>
      rw [encode, List.map_cons, List.lookup_cons]
      by_cases hqr : q = r
      · subst hqr
        simp
      · have hkey : (e.key q == e.key r) = false := by
          simpa using fun he => hqr (e.key_inj q r he)
        rw [hkey]
        exact ih (List.mem_of_ne_of_mem hqr h)

/-- What comes out of an archive is the copy, when all that is taken out was put in. -/
theorem decode_encode {qs rs : List π} (h : ∀ q ∈ rs, q ∈ qs) (new c : σ) :
    decode F k e rs new (encode F k e qs c) = copy F k rs new c := by
  have hmap : (rs.map fun q => (⟨q, e.unbox q ((encode F k e qs c).lookup (e.key q))⟩ : Σ q, V q)) =
      rs.map fun q => ⟨q, read F k c q⟩ :=
    List.map_congr_left fun q hq => by rw [lookup_encode F k e (h q hq), e.unbox_box]
  rw [decode, hmap, copy]

end Library.Properties
