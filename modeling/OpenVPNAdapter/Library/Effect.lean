namespace Library.Effect

variable {σ α β : Type}

/-- Computations that may throw and keep what they did to the state before they threw. -/
abbrev Act (σ α : Type) : Type := ExceptT String (StateM σ) α

/-- Go on if `q` holds, else fail with `e`. -/
def ensure (q : Prop) [Decidable q] (e : String) : Except String Unit := if q then .ok () else .error e

def exec (m : Act σ α) (s : σ) : Except String α × σ := (ExceptT.run m).run s

@[simp] theorem exec_pure (a : α) (s : σ) : exec (pure a : Act σ α) s = (.ok a, s) := rfl

@[simp] theorem exec_throw (e : String) (s : σ) : exec (throw e : Act σ α) s = (.error e, s) := rfl

@[simp] theorem exec_modify (f : σ → σ) (s : σ) : exec (modify f : Act σ PUnit) s = (.ok ⟨⟩, f s) := rfl

@[simp] theorem exec_get (s : σ) : exec (get : Act σ σ) s = (.ok s, s) := rfl

@[simp] theorem exec_ofExcept_ok (a : α) (s : σ) :
    exec (liftM (Except.ok a : Except String α) : Act σ α) s = (.ok a, s) := rfl

@[simp] theorem exec_ofExcept_error (e : String) (s : σ) :
    exec (liftM (Except.error e : Except String α) : Act σ α) s = (.error e, s) := rfl

theorem exec_bind (m : Act σ α) (f : α → Act σ β) (s : σ) :
    exec (m >>= f) s = match exec m s with
      | (.ok a, t) => exec (f a) t
      | (.error e, t) => (.error e, t) := by
  simp only [exec, ExceptT.run_bind, StateT.run_bind]
  rcases (ExceptT.run m).run s with ⟨_ | a, t⟩ <;> rfl

theorem exec_bind_ok {m : Act σ α} {f : α → Act σ β} {s t : σ} {a : α} (h : exec m s = (.ok a, t)) :
    exec (m >>= f) s = exec (f a) t := by rw [exec_bind, h]

theorem exec_bind_error {m : Act σ α} {f : α → Act σ β} {s t : σ} {e : String}
    (h : exec m s = (.error e, t)) : exec (m >>= f) s = (.error e, t) := by rw [exec_bind, h]

@[simp] theorem ensure_eq_ok {q : Prop} [Decidable q] {e : String} {u : Unit} :
    ensure q e = .ok u ↔ q := by
  rw [ensure]
  split <;> simp [*]

@[simp] theorem toOption_eq_some_iff {x : Except String α} {a : α} : x.toOption = some a ↔ x = .ok a := by
  cases x <;> simp [Except.toOption]

theorem except_bind_eq_ok {x : Except String α} {f : α → Except String β} {b : β} :
    (x >>= f) = .ok b ↔ ∃ a, x = .ok a ∧ f a = .ok b := by
  cases x with
  | error e => exact ⟨fun h => (nomatch h), fun ⟨_, h, _⟩ => (nomatch h)⟩
  | ok a => exact ⟨fun h => ⟨a, rfl, h⟩, fun ⟨_, h, hf⟩ => by cases h; exact hf⟩

theorem exec_bind_eq_ok {m : Act σ α} {f : α → Act σ β} {s u : σ} {b : β} :
    exec (m >>= f) s = (.ok b, u) ↔ ∃ a t, exec m s = (.ok a, t) ∧ exec (f a) t = (.ok b, u) := by
  rw [exec_bind]
  rcases exec m s with ⟨_ | a, t⟩
  · simp
  · refine ⟨fun h => ⟨a, t, rfl, h⟩, ?_⟩
    rintro ⟨a, t, h, hf⟩
    cases h
    exact hf

/-- `m` gives the same answer in every state and changes each by `f`. -/
def Uniform (m : Act σ α) (r : Except String α) (f : σ → σ) : Prop := ∀ s, exec m s = (r, f s)

theorem uniform_modify (f : σ → σ) : Uniform (modify f : Act σ PUnit) (.ok ⟨⟩) f := fun _ => rfl

theorem Uniform.bind_ok {m : Act σ α} {k : α → Act σ β} {a : α} {r : Except String β} {f g : σ → σ}
    (hm : Uniform m (.ok a) f) (hk : Uniform (k a) r g) : Uniform (m >>= k) r (g ∘ f) := fun s => by
  rw [exec_bind_ok (hm s), hk (f s)]
  rfl

theorem Uniform.bind_error {m : Act σ α} {k : α → Act σ β} {e : String} {f : σ → σ}
    (hm : Uniform m (.error e) f) : Uniform (m >>= k) (.error e) f := fun s =>
  exec_bind_error (hm s)

end Library.Effect
