import OpenVPNAdapter.Library.Effect
import OpenVPNAdapter.Library.Offers

namespace Library.Driving

open Effect Offers

variable {σ κ α β : Type}

/-- A receiver of calls: what it returns or throws, and its state afterwards. A call that
throws leaves the state alone. -/
abbrev Receiver (κ σ : Type) : Type := σ → κ → Except String (Bool × σ)

/-- The same with a call that throws counted as refused. -/
def answer (tb : Receiver κ σ) (s : σ) (c : κ) : Bool × σ :=
  match tb s c with
  | .ok r => r
  | .error _ => (false, s)

variable (tb : Receiver κ σ)

def invoke (c : κ) : Act σ Bool := do
  match tb (← get) c with
  | .ok (r, s) =>
      set s
      return r
  | .error e => throw e

/-- Call, and throw when the call returns `false`. -/
def require (c : κ) (what : String) : Act σ Unit := do
  if !(← invoke tb c) then throw what

def requireIf (q : Prop) [Decidable q] (c : κ) (what : String) : Act σ Unit :=
  if q then require tb c what else pure ()

def requireAll (what : String) : List κ → Act σ Unit
  | [] => pure ()
  | c :: cs => do
      require tb c what
      requireAll what cs

/-- Run `m` and give `d` when it throws. -/
def attemptOr (d : α) (m : Act σ α) : Act σ α := tryCatch m fun _ => pure d

/-- `m` makes the calls `cs` in turn and stops at the first that is refused, with a throw; when
none is, it ends with `r`. -/
def Drives (m : Act σ α) (cs : List κ) (r : Except String α) : Prop :=
  ∀ s, (exec m s).2 = (offer (answer tb) s cs).2 ∧
    if (offer (answer tb) s cs).1 then (exec m s).1 = r else ∃ e, (exec m s).1 = .error e

variable {tb}

theorem exec_attemptOr (d : α) (m : Act σ α) (s : σ) :
    exec (attemptOr d m) s = (.ok ((exec m s).1.toOption.getD d), (exec m s).2) := by
  rw [exec, attemptOr, ExceptT.run_tryCatch, StateT.run_bind, exec]
  rcases (ExceptT.run m).run s with ⟨_ | a, t⟩ <;> rfl

theorem exec_invoke (c : κ) (s : σ) : exec (invoke tb c) s =
    match tb s c with
    | .ok (r, t) => (.ok r, t)
    | .error e => (.error e, s) := by
  rw [invoke, exec_bind_ok (exec_get s)]
  rcases tb s c with e | ⟨r, t⟩ <;> rfl

theorem drives_liftM (r : Except String α) : Drives tb (liftM r : Act σ α) ([] : List κ) r := fun s => by
  cases r with
  | error e => exact ⟨rfl, rfl⟩
  | ok a => exact ⟨rfl, rfl⟩

theorem drives_pure (a : α) : Drives tb (pure a : Act σ α) ([] : List κ) (.ok a) := fun _ => ⟨rfl, rfl⟩

theorem drives_require (c : κ) (what : String) : Drives tb (require tb c what) [c] (.ok ()) := fun s => by
  rw [require, exec_bind, exec_invoke, offer]
  cases h : tb s c with
  | error e => simp [answer, h]
  | ok r =>
      obtain ⟨ok, t⟩ := r
      cases ok <;> simp [answer, h, offer]

theorem Drives.bind {m : Act σ α} {k : α → Act σ β} {cs ds : List κ} {a : α} {r : Except String β}
    (hm : Drives tb m cs (.ok a)) (hk : Drives tb (k a) ds r) : Drives tb (m >>= k) (cs ++ ds) r := fun s => by
  obtain ⟨hs, hr⟩ := hm s
  rw [offer_append, exec_bind]
  rcases hx : exec m s with ⟨x, t⟩
  rw [hx] at hs hr
  obtain rfl : t = _ := hs
  cases ho : (offer (answer tb) s cs).1 with
  | true =>
      rw [ho, if_pos rfl] at hr
      obtain rfl : x = .ok a := hr
      exact hk _
  | false =>
      rw [ho] at hr
      obtain ⟨e, rfl⟩ : ∃ e, x = .error e := hr
      simp [ho]

theorem Drives.bind_error {m : Act σ α} {k : α → Act σ β} {cs : List κ} {e : String}
    (hm : Drives tb m cs (.error e)) : Drives tb (m >>= k) cs (.error e) := fun s => by
  obtain ⟨hs, hr⟩ := hm s
  rw [exec_bind]
  rcases hx : exec m s with ⟨x, t⟩
  rw [hx] at hs hr
  obtain rfl : t = _ := hs
  cases ho : (offer (answer tb) s cs).1 with
  | true =>
      rw [ho, if_pos rfl] at hr
      obtain rfl : x = .error e := hr
      exact ⟨rfl, by simp⟩
  | false =>
      rw [ho] at hr
      obtain ⟨e, rfl⟩ : ∃ e, x = .error e := hr
      simp

theorem drives_requireAll (what : String) (cs : List κ) : Drives tb (requireAll tb what cs) cs (.ok ()) := by
  induction cs with
  | nil => exact drives_pure ()
  | cons c cs ih => exact (drives_require c what).bind ih

theorem drives_requireIf {q : Prop} [Decidable q] (c : κ) (what : String) :
    Drives tb (requireIf tb q c what) (if q then [c] else []) (.ok ()) := by
  rw [requireIf]
  split
  · exact drives_require c what
  · exact drives_pure ()

theorem Drives.completes_iff {m : Act σ α} {cs : List κ} {r : Except String α} (hm : Drives tb m cs r)
    {s t : σ} {a : α} :
    exec m s = (.ok a, t) ↔ r = .ok a ∧ offer (answer tb) s cs = (true, t) := by
  obtain ⟨hs, hr⟩ := hm s
  rw [Prod.ext_iff, Prod.ext_iff, hs]
  cases ho : (offer (answer tb) s cs).1 with
  | true =>
      rw [ho, if_pos rfl] at hr
      simp [hr]
  | false =>
      rw [ho] at hr
      obtain ⟨e, he⟩ : ∃ e, (exec m s).1 = .error e := hr
      simp [he]

theorem Drives.attemptOr {m : Act σ α} {cs : List κ} {r : Except String α} (hm : Drives tb m cs r) (d : α)
    (s : σ) : exec (attemptOr d m) s =
      (.ok (if (offer (answer tb) s cs).1 then r.toOption.getD d else d), (offer (answer tb) s cs).2) := by
  obtain ⟨hs, hr⟩ := hm s
  rw [exec_attemptOr, hs]
  cases ho : (offer (answer tb) s cs).1 with
  | true =>
      rw [ho, if_pos rfl] at hr
      rw [hr]
      rfl
  | false =>
      rw [ho] at hr
      obtain ⟨e, he⟩ : ∃ e, (exec m s).1 = .error e := hr
      rw [he]
      rfl

/-- A loop each of whose turns leaves the receiver as some offers do, whatever comes of them. -/
theorem exec_forM_after {f : α → Act σ Unit} {cs : α → List κ}
    (hf : ∀ x s, exec (f x) s = (.ok (), after (answer tb) s (cs x))) (xs : List α) (s : σ) :
    exec (xs.forM f) s = (.ok (), after (answer tb) s (xs.flatMap cs)) := by
  induction xs generalizing s with
  | nil => rfl
  | cons x xs ih =>
      have hloop : (x :: xs).forM f = (f x >>= fun _ => xs.forM f) := rfl
      rw [hloop, exec_bind_ok (hf x s), ih, List.flatMap_cons, after_append]

end Library.Driving
