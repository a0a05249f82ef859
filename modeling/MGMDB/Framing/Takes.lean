import Mathlib.Data.List.Basic
import Mathlib.Tactic.Common

/-!
# Codes a reader takes off the front

A reader takes a value off the front of its input and leaves the rest.
`Takes read code b` says that it takes `b` off `code` whatever stands behind.  Two
such codes one behind the other are taken by the readers one after the other
(`Takes.bind`), and a list of them by the reader repeated (`Takes.times`).
-/

namespace Framing

variable {α β γ : Type}

/-- `read` takes `b` off the front of everything that begins with `code`. -/
def Takes (read : List α → Option (β × List α)) (code : List α) (b : β) : Prop :=
  ∀ rest, read (code ++ rest) = some (b, rest)

/-- Read `b`, and then what `next` says. -/
def andThen (read : List α → Option (β × List α)) (next : β → List α → Option (γ × List α))
    (input : List α) : Option (γ × List α) :=
  (read input).bind fun r => next r.1 r.2

theorem Takes.bind {read : List α → Option (β × List α)} {next : β → List α → Option (γ × List α)}
    {code code' : List α} {b : β} {c : γ} (h : Takes read code b) (h' : Takes (next b) code' c) :
    Takes (andThen read next) (code ++ code') c := by
  intro rest
  rw [andThen, List.append_assoc, h, Option.bind_some, h']

/-- Read `n` values. -/
def times (read : List α → Option (β × List α)) : Nat → List α → Option (List β × List α)
  | 0, input => some ([], input)
  | n + 1, input =>
      (read input).bind fun r => (times read n r.2).map fun rs => (r.1 :: rs.1, rs.2)

theorem Takes.times {read : List α → Option (β × List α)} {write : γ → List α} {value : γ → β} :
    ∀ {cs : List γ}, (∀ c ∈ cs, Takes read (write c) (value c)) →
      Takes (times read cs.length) (cs.flatMap write) (cs.map value) := by
  intro cs h
  induction cs with
  | nil => exact fun rest => rfl
  | cons c cs ih =>
      intro rest
      have hc := h c List.mem_cons_self (cs.flatMap write ++ rest)
      have hcs := ih fun d hd => h d (List.mem_cons_of_mem c hd)
      rw [List.length_cons, Framing.times, List.flatMap_cons, List.append_assoc, hc,
        Option.bind_some, hcs, Option.map_some, List.map_cons]

/-- A code is not a proper beginning of another one. -/
theorem Takes.unique {read : List α → Option (β × List α)} {code code' rest rest' : List α}
    {b b' : β} (h : Takes read code b) (h' : Takes read code' b')
    (heq : code ++ rest = code' ++ rest') : b = b' ∧ rest = rest' := by
  have hread := h rest
  rw [heq, h' rest', Option.some.injEq, Prod.mk.injEq] at hread
  exact ⟨hread.1.symm, hread.2.symm⟩

end Framing
