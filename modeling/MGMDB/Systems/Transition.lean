import Mathlib.Tactic.Common

/-!
# Steps and reachable states

A system whose steps may be impossible in a state, or never end.  `Reaches`
collects the states of the runs whose every step is allowed, so that a property
of all runs and a property of the runs that keep a discipline are the same
notion.  An invariant that allowed steps keep holds in every state reached.
-/

namespace Systems

variable {σ ι : Type}

/-- Which state a step can lead to. -/
structure Transitions (σ ι : Type) where
  step : σ → ι → σ → Prop

namespace Transitions

/-- The states of the runs from `s` whose steps are all allowed. -/
inductive Reaches (T : Transitions σ ι) (Allowed : σ → ι → Prop) (s : σ) : σ → Prop where
  | refl : Reaches T Allowed s s
  | step {t u : σ} {i : ι} : Reaches T Allowed s t → Allowed t i → T.step t i u →
      Reaches T Allowed s u

variable {T : Transitions σ ι} {Allowed : σ → ι → Prop} {s t u : σ}

theorem Reaches.invariant {Inv : σ → Prop}
    (hstep : ∀ t i u, Inv t → Allowed t i → T.step t i u → Inv u)
    (h : T.Reaches Allowed s t) (hs : Inv s) : Inv t := by
  induction h with
  | refl => exact hs
  | step _ ha hi ih => exact hstep _ _ _ ih ha hi

theorem Reaches.trans (h : T.Reaches Allowed s t) (h' : T.Reaches Allowed t u) :
    T.Reaches Allowed s u := by
  induction h' with
  | refl => exact h
  | step _ ha hi ih => exact .step ih ha hi

/-! ## Step functions -/

/-- The system of a function that is defined where a step is possible. -/
def ofStep (f : σ → ι → Option σ) : Transitions σ ι := ⟨fun s i t => f s i = some t⟩

/-- The state after a list of steps, if all of them are possible. -/
def run (f : σ → ι → Option σ) : σ → List ι → Option σ
  | s, [] => some s
  | s, i :: is => (f s i).bind fun t => run f t is

/-- The last state of a run is reachable. -/
theorem Reaches.of_run {f : σ → ι → Option σ} : ∀ {s : σ} (is : List ι),
    run f s is = some t → (ofStep f).Reaches (fun _ _ => True) s t := by
  intro s is h
  induction is generalizing s with
  | nil =>
      obtain rfl := Option.some.inj h
      exact .refl
  | cons i is ih =>
      obtain ⟨v, hv, h⟩ := Option.bind_eq_some_iff.mp h
      have hfirst : (ofStep f).Reaches (fun _ _ => True) s v := .step .refl trivial hv
      exact hfirst.trans (ih h)

end Transitions

end Systems
