import Mathlib.Tactic.Common

/-!
# Programs that halt early

A program takes a state to a result and a state.  It may halt before its end,
and then it leaves a state as well.  `bind_eq_ok` takes apart a run that came to
its end.  `Follows` speaks about all runs: wherever a program stops, it has gone
along a relation of states.  For a relation that is reflexive and transitive this
holds of a program if it holds of its parts.
-/

namespace Systems

/-- A program over states `σ` that halts with `ε` or ends with `α`. -/
def Program (σ ε α : Type) : Type := σ → Except ε α × σ

namespace Program

variable {σ ε α β : Type}

instance : Monad (Program σ ε) where
  pure a := fun s => (.ok a, s)
  bind x f := fun s =>
    match x s with
    | (.ok a, s) => f a s
    | (.error e, s) => (.error e, s)

def get : Program σ ε σ := fun s => (.ok s, s)

def modify (f : σ → σ) : Program σ ε Unit := fun s => (.ok (), f s)

def halt (e : ε) : Program σ ε α := fun s => (.error e, s)

@[simp] theorem pure_apply (a : α) (s : σ) : (pure a : Program σ ε α) s = (.ok a, s) := rfl

@[simp] theorem get_apply (s : σ) : (get : Program σ ε σ) s = (.ok s, s) := rfl

@[simp] theorem modify_apply (f : σ → σ) (s : σ) :
    (modify f : Program σ ε Unit) s = (.ok (), f s) := rfl

@[simp] theorem halt_apply (e : ε) (s : σ) : (halt e : Program σ ε α) s = (.error e, s) := rfl

theorem bind_apply (x : Program σ ε α) (f : α → Program σ ε β) (s : σ) :
    (x >>= f) s =
      match x s with
      | (.ok a, s) => f a s
      | (.error e, s) => (.error e, s) := rfl

theorem bind_of_ok {x : Program σ ε α} {s t : σ} {a : α} (h : x s = (.ok a, t))
    (f : α → Program σ ε β) : (x >>= f) s = f a t := by
  rw [bind_apply, h]

theorem bind_of_error {x : Program σ ε α} {s t : σ} {e : ε} (h : x s = (.error e, t))
    (f : α → Program σ ε β) : (x >>= f) s = (.error e, t) := by
  rw [bind_apply, h]

theorem bind_assoc {γ : Type} (x : Program σ ε α) (f : α → Program σ ε β)
    (g : β → Program σ ε γ) : (x >>= f) >>= g = x >>= fun a => f a >>= g := by
  funext s
  cases hx : x s with
  | mk result t =>
    cases result with
    | error e => rw [bind_of_error (bind_of_error hx f), bind_of_error hx]
    | ok a => rw [bind_apply (x >>= f), bind_of_ok hx, bind_of_ok hx, bind_apply]

/-- A run that came to its end, taken apart. -/
theorem bind_eq_ok {x : Program σ ε α} {f : α → Program σ ε β} {s u : σ} {b : β} :
    (x >>= f) s = (.ok b, u) ↔ ∃ a t, x s = (.ok a, t) ∧ f a t = (.ok b, u) := by
  constructor
  · intro h
    cases hx : x s with
    | mk result t =>
      cases result with
      | error e =>
          rw [bind_of_error hx] at h
          cases h
      | ok a =>
          rw [bind_of_ok hx] at h
          exact ⟨a, t, rfl, h⟩
  · rintro ⟨a, t, hx, hf⟩
    rw [bind_of_ok hx, hf]

theorem map_eq_ok {x : Program σ ε α} {g : α → β} {s u : σ} {b : β} :
    (g <$> x) s = (.ok b, u) ↔ ∃ a, x s = (.ok a, u) ∧ g a = b := by
  show (x >>= fun a => pure (g a)) s = (.ok b, u) ↔ _
  rw [bind_eq_ok]
  constructor
  · rintro ⟨a, t, hx, hg⟩
    obtain ⟨hb, rfl⟩ := Prod.mk.inj hg
    exact ⟨a, hx, Except.ok.inj hb⟩
  · rintro ⟨a, hx, rfl⟩
    exact ⟨a, u, hx, rfl⟩

theorem map_of_ok {x : Program σ ε α} {s t : σ} {a : α} (h : x s = (.ok a, t)) (g : α → β) :
    (g <$> x) s = (.ok (g a), t) :=
  bind_of_ok h fun a => pure (g a)

theorem map_of_error {x : Program σ ε α} {s t : σ} {e : ε} (h : x s = (.error e, t)) (g : α → β) :
    (g <$> x) s = (.error e, t) :=
  bind_of_error h fun a => pure (g a)

theorem bind_pure_snd (x : Program σ ε α) (g : α → β) (s : σ) :
    ((x >>= fun a => pure (g a)) s).2 = (x s).2 := by
  rw [bind_apply]
  split
  next h => rw [h]; rfl
  next h => rw [h]

theorem map_snd (x : Program σ ε α) (g : α → β) (s : σ) : ((g <$> x) s).2 = (x s).2 :=
  bind_pure_snd x g s

/-! ## Where a run leads -/

/-- Every run goes along the relation, whether it halts or not. -/
def Follows (R : σ → σ → Prop) (x : Program σ ε α) : Prop := ∀ s, R s (x s).2

section
variable {R : σ → σ → Prop}

theorem Follows.of_run {x : Program σ ε α} (h : Follows R x) {s t : σ} {result : Except ε α}
    (hrun : x s = (result, t)) : R s t := by
  have hs := h s
  rwa [hrun] at hs

theorem follows_pure (hrefl : ∀ s, R s s) (a : α) : Follows R (pure a : Program σ ε α) := hrefl

theorem follows_get (hrefl : ∀ s, R s s) : Follows R (get : Program σ ε σ) := hrefl

theorem follows_halt (hrefl : ∀ s, R s s) (e : ε) : Follows R (halt e : Program σ ε α) := hrefl

theorem Follows.bind (htrans : ∀ s t u, R s t → R t u → R s u) {x : Program σ ε α}
    {f : α → Program σ ε β} (hx : Follows R x) (hf : ∀ a, Follows R (f a)) :
    Follows R (x >>= f) := by
  intro s
  have hfirst := hx s
  rw [bind_apply]
  cases h : x s with
  | mk result t =>
    rw [h] at hfirst
    cases result with
    | error e => exact hfirst
    | ok a => exact htrans _ _ _ hfirst (hf a t)

theorem Follows.map (htrans : ∀ s t u, R s t → R t u → R s u) (hrefl : ∀ s, R s s)
    {x : Program σ ε α} (hx : Follows R x) (g : α → β) : Follows R (g <$> x) :=
  hx.bind htrans fun a => follows_pure hrefl (g a)

end

end Program

end Systems
