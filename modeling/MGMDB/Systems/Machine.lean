import Mathlib.Data.List.Basic
import Mathlib.Tactic.Common

/-!
# Machines that answer

A machine takes an input, answers it and changes its state.  Three rules carry
what one step says over to every run: an invariant that each step keeps holds
at the end (`run_invariant`), two machines whose related states answer every
input alike answer every list of inputs alike (`run_sim`), and inputs that one
part of the state never sees can be left out for it (`run_filter`).

A *cursor* is the machine of this kind that a list of rows asks for.  It knows
the place of the next row.  One that is cyclic begins again after the end and may be
moved back to the first row.  One that is sticky stays at the end until it is moved
to a place.
-/

namespace Systems

variable {σ τ ι ο : Type}

/-- The answer to an input and the next state. -/
structure Machine (σ ι ο : Type) where
  step : σ → ι → ο × σ

namespace Machine

/-- The answers to a list of inputs, and the last state. -/
def run (M : Machine σ ι ο) : σ → List ι → List ο × σ
  | s, [] => ([], s)
  | s, i :: is => ((M.step s i).1 :: (M.run (M.step s i).2 is).1, (M.run (M.step s i).2 is).2)

@[simp] theorem run_nil (M : Machine σ ι ο) (s : σ) : M.run s [] = ([], s) := rfl

@[simp] theorem run_cons (M : Machine σ ι ο) (s : σ) (i : ι) (is : List ι) :
    M.run s (i :: is) =
      ((M.step s i).1 :: (M.run (M.step s i).2 is).1, (M.run (M.step s i).2 is).2) := rfl

theorem run_append (M : Machine σ ι ο) : ∀ (s : σ) (is js : List ι),
    M.run s (is ++ js) =
      ((M.run s is).1 ++ (M.run (M.run s is).2 js).1, (M.run (M.run s is).2 js).2) := by
  intro s is js
  induction is generalizing s with
  | nil => rfl
  | cons i is ih => simp [ih]

theorem run_invariant {M : Machine σ ι ο} {Inv : σ → Prop}
    (hstep : ∀ s i, Inv s → Inv (M.step s i).2) :
    ∀ (s : σ) (is : List ι), Inv s → Inv (M.run s is).2 := by
  intro s is h
  induction is generalizing s with
  | nil => exact h
  | cons i is ih => exact ih _ (hstep s i h)

theorem run_sim {M : Machine σ ι ο} {N : Machine τ ι ο} {R : σ → τ → Prop}
    (hstep : ∀ s t i, R s t →
      (M.step s i).1 = (N.step t i).1 ∧ R (M.step s i).2 (N.step t i).2) :
    ∀ (s : σ) (t : τ) (is : List ι), R s t →
      (M.run s is).1 = (N.run t is).1 ∧ R (M.run s is).2 (N.run t is).2 := by
  intro s t is h
  induction is generalizing s t with
  | nil => exact ⟨rfl, h⟩
  | cons i is ih =>
      obtain ⟨hout, hnext⟩ := hstep s t i h
      obtain ⟨houts, hlast⟩ := ih _ _ hnext
      exact ⟨by rw [run_cons, run_cons, hout, houts], hlast⟩

/-- The same for a machine that is asked in another way. -/
theorem run_sim_map {κ : Type} {M : Machine σ ι ο} {N : Machine τ κ ο} {R : σ → τ → Prop}
    {f : ι → κ}
    (hstep : ∀ s t i, R s t →
      (M.step s i).1 = (N.step t (f i)).1 ∧ R (M.step s i).2 (N.step t (f i)).2) :
    ∀ (s : σ) (t : τ) (is : List ι), R s t →
      (M.run s is).1 = (N.run t (is.map f)).1 ∧ R (M.run s is).2 (N.run t (is.map f)).2 := by
  intro s t is h
  induction is generalizing s t with
  | nil => exact ⟨rfl, h⟩
  | cons i is ih =>
      obtain ⟨hout, hnext⟩ := hstep s t i h
      obtain ⟨houts, hlast⟩ := ih _ _ hnext
      exact ⟨by rw [List.map_cons, run_cons, run_cons, hout, houts], hlast⟩

/-- The inputs a view of the state does not depend on, left out. -/
theorem run_filter {α : Type} {M : Machine σ ι ο} (view : σ → α) {seen : ι → Bool}
    (hseen : ∀ s t i, seen i = true → view s = view t → view (M.step s i).2 = view (M.step t i).2)
    (hunseen : ∀ s i, seen i = false → view (M.step s i).2 = view s) :
    ∀ (s t : σ) (is : List ι), view s = view t →
      view (M.run s is).2 = view (M.run t (is.filter seen)).2 := by
  intro s t is h
  induction is generalizing s t with
  | nil => exact h
  | cons i is ih =>
      cases hi : seen i with
      | true =>
          rw [List.filter_cons_of_pos hi]
          exact ih _ _ (hseen s t i hi h)
      | false =>
          rw [List.filter_cons_of_neg (by simp [hi])]
          exact ih _ _ ((hunseen s i hi).trans h)

end Machine

/-! ## Cursors -/

/-- Ask for the next row in one of the forms `m`, or go back to the first row. -/
inductive Cursor.Input (m : Type) where
  | next (form : m)
  | rewind

namespace Cursor

variable {m α β : Type}

/-- A cursor on `rows` that begins again after the end. -/
def cyclic (rows : List α) (render : m → α → β) : Machine Nat (Input m) (Option β) where
  step
    | p, .next form =>
        match rows[p]? with
        | some row => (some (render form row), p + 1)
        | none => (none, 0)
    | _, .rewind => (none, 0)

theorem cyclic_next_lt {rows : List α} {render : m → α → β} {p : Nat} (h : p < rows.length)
    (form : m) :
    (cyclic rows render).step p (.next form) = (some (render form rows[p]), p + 1) := by
  simp [cyclic, h]

theorem cyclic_next_end (rows : List α) (render : m → α → β) (form : m) :
    (cyclic rows render).step rows.length (.next form) = (none, 0) := by
  simp [cyclic]

/-- From any place on, the rows come in order, each in the form asked for. -/
theorem cyclic_run_next {rows : List α} {render : m → α → β} :
    ∀ (p : Nat) (forms : List m), p + forms.length ≤ rows.length →
      (cyclic rows render).run p (forms.map .next) =
        (List.zipWith (fun form row => some (render form row)) forms (rows.drop p),
          p + forms.length) := by
  intro p forms h
  induction forms generalizing p with
  | nil => simp
  | cons form forms ih =>
      rw [List.length_cons] at h
      have hp : p < rows.length := by omega
      have hrest : p + 1 + forms.length ≤ rows.length := by omega
      rw [List.map_cons, Machine.run_cons, cyclic_next_lt hp, ih (p + 1) hrest,
        List.drop_eq_getElem_cons hp, List.zipWith_cons_cons, List.length_cons]
      simp only [Prod.mk.injEq, true_and]
      omega

/-! ## Sticky cursors -/

/-- Ask for the next row in a form, ask how many there are, or move to a place. -/
inductive Request (m : Type) where
  | next (form : m)
  | count
  | seek (place : Nat)

inductive Answer (β : Type) where
  | row (o : Option β)
  | count (n : Nat)
  | moved

/-- A cursor on `rows` that stays at the end. -/
def sticky (rows : List α) (render : m → α → β) : Machine Nat (Request m) (Answer β) where
  step
    | p, .next form =>
        match rows[p]? with
        | some row => (.row (some (render form row)), p + 1)
        | none => (.row none, p)
    | p, .count => (.count rows.length, p)
    | _, .seek place => (.moved, min place rows.length)

theorem sticky_next_lt {rows : List α} {render : m → α → β} {p : Nat} (h : p < rows.length)
    (form : m) :
    (sticky rows render).step p (.next form) = (.row (some (render form rows[p])), p + 1) := by
  simp [sticky, h]

theorem sticky_next_end (rows : List α) (render : m → α → β) (form : m) :
    (sticky rows render).step rows.length (.next form) = (.row none, rows.length) := by
  simp [sticky]

/-- From any place on, the rows come in order, each once and in the form asked for, and
behind the last one there are none. -/
theorem sticky_run_next {rows : List α} {render : m → α → β} :
    ∀ (p : Nat) (forms : List m), p ≤ rows.length →
      (sticky rows render).run p (forms.map .next) =
        (forms.mapIdx fun i form => .row (rows[p + i]?.map (render form)),
          min (p + forms.length) rows.length) := by
  intro p forms h
  induction forms generalizing p with
  | nil => simp [h]
  | cons form forms ih =>
      rw [List.map_cons, Machine.run_cons, List.mapIdx_cons, List.length_cons, Nat.add_zero]
      rcases Nat.lt_or_eq_of_le h with hp | rfl
      · have hplace : ∀ i, p + 1 + i = p + (i + 1) := fun i => by omega
        rw [sticky_next_lt hp, ih (p + 1) hp, List.getElem?_eq_getElem hp, Option.map_some]
        simp only [hplace]
      · have hbeyond : ∀ i, rows[rows.length + i]? = none :=
          fun i => List.getElem?_eq_none (Nat.le_add_right _ _)
        rw [sticky_next_end, ih rows.length (Nat.le_refl _), List.getElem?_eq_none (Nat.le_refl _),
          Option.map_none, Nat.min_eq_right (Nat.le_add_right _ _),
          Nat.min_eq_right (Nat.le_add_right _ _)]
        simp only [hbeyond]

end Cursor

end Systems
