import Mathlib.Data.List.Induction
import Mathlib.Data.List.Nodup
import OpenVPNAdapter.Library.Offers

namespace Library.FirstSeen

open Offers

variable {α : Type} [DecidableEq α]

/-- Take in the values of a line, up to the first that is held already. -/
def takeIn (held : List α) : List α → List α
  | [] => held
  | v :: vs => if v ∈ held then held else takeIn (held ++ [v]) vs

def takeInAll (held : List α) (lines : List (List α)) : List α := lines.foldl takeIn held

/-- A line begins with a block, and goes on, if at all, with a value of the block or one held before. -/
def BeginsWith (held block line : List α) : Prop :=
  ∃ rest, line = block ++ rest ∧ ∀ v ∈ rest.head?, v ∈ held ++ block

/-- The values `due` are named in time: there are numbers `met i` such that, with `met i` of them
named in the first `i` lines, every line begins with the next ones, up to the next number, and goes on,
if at all, with a value that is named by then. -/
def Cut (held : List α) (lines : List (List α)) (due : List α) : Prop :=
  ∃ met : Nat → Nat, met 0 = 0 ∧ met lines.length = due.length ∧
    ∀ i (h : i < lines.length), met i ≤ met (i + 1) ∧
      BeginsWith (held ++ due.take (met i)) ((due.take (met (i + 1))).drop (met i)) lines[i]

omit [DecidableEq α] in
theorem beginsWith_cons {held block line : List α} {v : α} :
    BeginsWith held (v :: block) (v :: line) ↔ BeginsWith (held ++ [v]) block line := by
  unfold BeginsWith
  simp

omit [DecidableEq α] in
theorem cut_nil {held due : List α} : Cut held [] due ↔ due = [] := by
  constructor
  · rintro ⟨met, hstart, hend, -⟩
    exact List.length_eq_zero_iff.mp (hend.symm.trans hstart)
  · rintro rfl
    exact ⟨fun _ => 0, rfl, rfl, fun i h => absurd h (Nat.not_lt_zero i)⟩

omit [DecidableEq α] in
/-- The first line has the first block, and the others have the rest. -/
theorem cut_cons {held line due : List α} {lines : List (List α)} : Cut held (line :: lines) due ↔
    ∃ block rest, due = block ++ rest ∧ BeginsWith held block line ∧ Cut (held ++ block) lines rest := by
  constructor
  · rintro ⟨met, hstart, hend, hlines⟩
    obtain ⟨-, hfirst⟩ := hlines 0 (Nat.zero_lt_succ _)
    have hmono (i : Nat) (hi : i ≤ lines.length) : met 1 ≤ met (i + 1) := by
      induction i with
      | zero => exact Nat.le_refl _
      | succ i ih => exact Nat.le_trans (ih (by omega)) (hlines (i + 1) (Nat.succ_lt_succ hi)).1
    have hlength : (due.take (met 1)).length = met 1 :=
      List.length_take_of_le (hend ▸ hmono lines.length (Nat.le_refl _))
    refine ⟨due.take (met 1), due.drop (met 1), (List.take_append_drop _ _).symm, ?_,
        fun i => met (i + 1) - met 1, ?_, ?_, ?_⟩
    · simpa [hstart] using hfirst
    · exact Nat.sub_self _
    · rw [List.length_drop, ← hend]
      rfl
    · intro i hi
      obtain ⟨hle, hline⟩ := hlines (i + 1) (by simpa using hi)
      have hone := hmono i (Nat.le_of_lt hi)
      have hnext := hmono (i + 1) hi
      refine ⟨Nat.sub_le_sub_right hle _, ?_⟩
      have hheld : held ++ due.take (met 1) ++ (due.drop (met 1)).take (met (i + 1) - met 1) = held ++
          due.take (met (i + 1)) := by
        rw [List.append_assoc, ← List.take_add, Nat.add_sub_cancel' hone]
      have hblock : ((due.drop (met 1)).take (met (i + 1 + 1) - met 1)).drop (met (i + 1) - met 1) =
          (due.take (met (i + 1 + 1))).drop (met (i + 1)) := by
        rw [← List.drop_take, List.drop_drop, Nat.add_sub_cancel' hone]
      rw [hheld, hblock]
      exact hline
  · rintro ⟨block, rest, rfl, hfirst, met, hstart, hend, hlines⟩
    refine ⟨fun i => if i = 0 then 0 else block.length + met (i - 1), rfl, ?_, ?_⟩
    · simp [hend]
    · intro i hi
      cases i with
      | zero => simpa [hstart] using hfirst
      | succ i =>
          have hi' : i < lines.length := Nat.lt_of_succ_lt_succ hi
          obtain ⟨hle, hline⟩ := hlines i hi'
          refine ⟨by simpa using hle, ?_⟩
          have htake (n : Nat) : (block ++ rest).take (block.length + n) = block ++ rest.take n :=
              List.take_length_add_append n
          have hblock : ((block ++ rest).take (block.length + met (i + 1))).drop (block.length + met i) =
              (rest.take (met (i + 1))).drop (met i) := by
            rw [htake, ← List.drop_drop, List.drop_left]
          show BeginsWith (held ++ (block ++ rest).take (block.length + met i))
            (((block ++ rest).take (block.length + met (i + 1))).drop (block.length + met i)) lines[i]
          rw [hblock, htake, ← List.append_assoc]
          exact hline

theorem takeIn_appends (held line : List α) :
    ∃ block, takeIn held line = held ++ block ∧ (held.Nodup → (held ++ block).Nodup) := by
  induction line generalizing held with
  | nil => exact ⟨[], by simp [takeIn], by simp⟩
  | cons v line ih =>
      rw [takeIn]
      split
      · exact ⟨[], by simp, by simp⟩
      · rename_i hv
        obtain ⟨block, hblock, hnodup⟩ := ih (held ++ [v])
        refine ⟨v :: block, by rw [hblock, List.append_assoc, List.singleton_append], fun hheld => ?_⟩
        rw [← List.singleton_append, ← List.append_assoc]
        apply hnodup
        rw [List.nodup_append]
        exact ⟨hheld, List.nodup_singleton v, fun x hx y hy hxy => hv (by simp_all)⟩

theorem takeIn_eq_iff {held block line : List α} (hnodup : (held ++ block).Nodup) :
    takeIn held line = held ++ block ↔ BeginsWith held block line := by
  induction line generalizing held block with
  | nil => simp [takeIn, BeginsWith]
  | cons v line ih =>
      rw [takeIn]
      split
      · rename_i hv
        constructor
        · intro h
          obtain rfl : block = [] := by simpa using h
          exact ⟨v :: line, rfl, by simpa using hv⟩
        · rintro ⟨rest, hrest, hnext⟩
          cases block with
          | nil => rw [List.append_nil]
          | cons w block =>
              obtain ⟨rfl, rfl⟩ := List.cons.inj hrest
              exact absurd rfl ((List.nodup_append.mp hnodup).2.2 v hv v List.mem_cons_self)
      · rename_i hv
        cases block with
        | nil =>
            obtain ⟨block, hblock, -⟩ := takeIn_appends (held ++ [v]) line
            rw [hblock]
            constructor
            · simp
            · rintro ⟨rest, rfl, hnext⟩
              simp [hv] at hnext
        | cons w block =>
            constructor
            · intro h
              obtain ⟨block', hblock, -⟩ := takeIn_appends (held ++ [v]) line
              obtain rfl : v = w := by simpa [hblock] using congrArg (·[held.length]?) h
              rw [beginsWith_cons, ← ih (by simpa using hnodup), h, List.append_assoc, List.singleton_append]
            · intro h
              obtain ⟨rest, hrest, hnext⟩ := id h
              obtain ⟨rfl, -⟩ := List.cons.inj hrest
              rw [beginsWith_cons, ← ih (by simpa using hnodup)] at h
              simpa using h

theorem takeInAll_appends (held : List α) (lines : List (List α)) :
    ∃ due, takeInAll held lines = held ++ due ∧ (held.Nodup → (held ++ due).Nodup) := by
  induction lines generalizing held with
  | nil => exact ⟨[], by simp [takeInAll], by simp⟩
  | cons line lines ih =>
      obtain ⟨block, hblock, hnodup⟩ := takeIn_appends held line
      obtain ⟨due, hdue, hall⟩ := ih (takeIn held line)
      rw [hblock] at hdue hall
      refine ⟨block ++ due, ?_, fun hheld => ?_⟩
      · rw [← List.append_assoc, ← hdue, ← hblock]
        rfl
      · rw [← List.append_assoc]
        exact hall (hnodup hheld)

/-- Exactly the values `due` are taken in when they are named in time. -/
theorem takeInAll_eq_iff {held due : List α} {lines : List (List α)} (hnodup : (held ++ due).Nodup) :
    takeInAll held lines = held ++ due ↔ Cut held lines due := by
  induction lines generalizing held due with
  | nil =>
      rw [cut_nil]
      constructor
      · intro h
        simpa [takeInAll] using h
      · rintro rfl
        exact (List.append_nil held).symm
  | cons line lines ih =>
      have hstep : takeInAll held (line :: lines) = takeInAll (takeIn held line) lines := rfl
      rw [hstep, cut_cons]
      constructor
      · intro h
        obtain ⟨block, hblock, -⟩ := takeIn_appends held line
        obtain ⟨rest, hrest, -⟩ := takeInAll_appends (takeIn held line) lines
        obtain rfl : block ++ rest = due := by
          rw [hrest, hblock, List.append_assoc] at h
          exact List.append_cancel_left h
        rw [← List.append_assoc] at hnodup
        refine ⟨block, rest, rfl, (takeIn_eq_iff hnodup.of_append_left).mp hblock, (ih hnodup).mp ?_⟩
        rw [← hblock, hrest]
      · rintro ⟨block, rest, rfl, hline, hlines⟩
        rw [← List.append_assoc] at hnodup ⊢
        rw [(takeIn_eq_iff hnodup.of_append_left).mpr hline]
        exact (ih hnodup).mpr hlines

theorem eraseDups_concat (xs : List α) (v : α) :
    (xs ++ [v]).eraseDups = if v ∈ xs then xs.eraseDups else xs.eraseDups ++ [v] := by
  rw [List.eraseDups_append]
  by_cases h : v ∈ xs <;> simp [h, List.removeAll, List.eraseDups_cons]

theorem nodup_eraseDups (xs : List α) : xs.eraseDups.Nodup := by
  induction xs using List.reverseRecOn with
  | nil => exact List.nodup_nil
  | append_singleton xs v ih =>
      rw [eraseDups_concat]
      split
      · exact ih
      · rename_i hv
        rw [List.nodup_append]
        exact ⟨ih, List.nodup_singleton v, fun x hx y hy hxy => hv (by simp_all)⟩

/-- In the line no value that is named for the first time comes after one that is not. -/
def Leading (seen line : List α) : Prop :=
  ∀ as v bs, line = as ++ v :: bs → v ∈ seen ++ as → ∀ w ∈ bs, w ∈ seen ++ as

theorem eraseDups_of_seen {seen line : List α} (h : ∀ v ∈ line, v ∈ seen) :
    (seen ++ line).eraseDups = seen.eraseDups := by
  have hnone : line.removeAll seen = [] := by
    simpa [List.removeAll] using h
  rw [List.eraseDups_append, hnone, List.eraseDups_nil, List.append_nil]

theorem takeIn_eraseDups {seen line : List α} (h : Leading seen line) :
    takeIn seen.eraseDups line = (seen ++ line).eraseDups := by
  induction line generalizing seen with
  | nil => rw [takeIn, List.append_nil]
  | cons v line ih =>
      have hrest : (seen ++ v :: line) = (seen ++ [v]) ++ line := by simp
      rw [takeIn]
      split
      · rename_i hv
        rw [List.mem_eraseDups] at hv
        have hall := h [] v line rfl (by simpa using hv)
        rw [eraseDups_of_seen fun w hw => ?_]
        rcases List.mem_cons.mp hw with rfl | hw
        · exact hv
        · simpa using hall w hw
      · rename_i hv
        rw [List.mem_eraseDups] at hv
        have hlead : Leading (seen ++ [v]) line := fun as x bs he hx w hw => by
          have := h (v :: as) x bs (by rw [he]; rfl) (by simpa using hx) w hw
          simpa using this
        have hv' : (seen ++ [v]).eraseDups = seen.eraseDups ++ [v] := by rw [eraseDups_concat, if_neg hv]
        rw [← hv', hrest, ih hlead]

/-- Where every line leads with its new values, each value is taken in once, where it is first named. -/
theorem takeInAll_eraseDups {seen : List α} {lines : List (List α)}
    (h : ∀ pre line post, lines = pre ++ line :: post → Leading (seen ++ pre.flatten) line) :
    takeInAll seen.eraseDups lines = (seen ++ lines.flatten).eraseDups := by
  induction lines generalizing seen with
  | nil => simp [takeInAll]
  | cons line lines ih =>
      have hstep : takeInAll seen.eraseDups (line :: lines) = takeInAll (takeIn seen.eraseDups line) lines := rfl
      have hline : Leading seen line := by simpa using h [] line lines rfl
      rw [hstep, takeIn_eraseDups hline, ih fun pre line' post he => ?_]
      · simp
      · have := h (line :: pre) line' post (by rw [he]; rfl)
        simpa using this

theorem leading_of_short {seen line : List α} (h : line.length ≤ 1) : Leading seen line := by
  rintro as v bs rfl - w hw
  have hpos := List.length_pos_of_mem hw
  simp only [List.length_append, List.length_cons] at h
  omega

theorem cut_eraseDups_iff {lines : List (List α)} {xs : List α} :
    Cut [] lines xs.eraseDups ↔ takeInAll [] lines = xs.eraseDups :=
  (@takeInAll_eq_iff _ _ [] _ _ (nodup_eraseDups xs)).symm

instance {lines : List (List α)} {xs : List α} : Decidable (Cut [] lines xs.eraseDups) :=
  decidable_of_iff' _ cut_eraseDups_iff

section Receivers

variable {σ κ : Type}

/-- A field of a receiver that holds the values shown to it, and refuses to hold one twice. -/
structure Keeps (answer : σ → κ → Bool × σ) (field : σ → List α) (shows : κ → Option α) : Prop where
  taken : ∀ s c v, shows c = some v → ((answer s c).1 = true ↔ v ∉ field s)
  shown : ∀ s c v, shows c = some v → field (answer s c).2 = takeIn (field s) [v]
  other : ∀ s c, shows c = none → field (answer s c).2 = field s

variable {answer : σ → κ → Bool × σ} {field : σ → List α} {shows : κ → Option α}

theorem Keeps.after_other (h : Keeps answer field shows) {cs : List κ} (hcs : ∀ c ∈ cs, shows c = none) (s : σ) :
    field (after answer s cs) = field s :=
  unchanged field (fun s c hc => h.other s c (hcs c hc)) s

theorem Keeps.offer_takeIn (h : Keeps answer field shows) (cs : List κ)
    (hcs : (∀ c ∈ cs, (shows c).isSome) ∨ ∀ c ∈ cs, shows c = none) (s : σ) :
    field (offer answer s cs).2 = takeIn (field s) (cs.filterMap shows) := by
  rcases hcs with hall | hnone
  · induction cs generalizing s with
    | nil => rfl
    | cons c cs ih =>
        obtain ⟨v, hv⟩ := Option.isSome_iff_exists.mp (hall c List.mem_cons_self)
        have hok := h.taken s c v hv
        have hfield := h.shown s c v hv
        have ih := ih (answer s c).2 fun c hc => hall c (List.mem_cons_of_mem _ hc)
        rw [offer, List.filterMap_cons_some hv, takeIn]
        by_cases hheld : v ∈ field s
        · rw [if_neg (hok.not.mpr (not_not.mpr hheld)), if_pos hheld, hfield, takeIn, if_pos hheld]
        · rw [if_pos (hok.mpr hheld), if_neg hheld, ih, hfield, takeIn, if_neg hheld]
          rfl
  · rw [List.filterMap_eq_nil_iff.mpr hnone, takeIn, offer_snd]
    exact h.after_other (fun c hc => hnone c ((made_initial _ _).subset hc)) s

theorem Keeps.after_takeInAll (h : Keeps answer field shows) (cs : List κ) (s : σ) :
    field (after answer s cs) = takeInAll (field s) ((cs.filterMap shows).map fun v => [v]) := by
  induction cs generalizing s with
  | nil => rfl
  | cons c cs ih =>
      rw [after_cons, ih]
      cases hc : shows c with
      | none => rw [List.filterMap_cons_none hc, h.other s c hc]
      | some v =>
          rw [List.filterMap_cons_some hc, h.shown s c v hc]
          rfl

end Receivers

end Library.FirstSeen
