import Mathlib.Data.List.Basic
import Mathlib.Logic.Function.Iterate
import Mathlib.Tactic.Common

/-!
# Long payloads in pieces

A payload that may be longer than a frame is cut into pieces.  Every piece but the
last is as long as a frame can be, and the last one is shorter, so a reader knows
from the length of a piece whether another one follows.
-/

namespace Framing

variable {α : Type} {max : Nat}

/-- A payload in pieces of length `max` and a last one that is shorter. -/
def pieces (max : Nat) (payload : List α) : List (List α) :=
  if 0 < max ∧ max ≤ payload.length then
    payload.take max :: pieces max (payload.drop max)
  else [payload]
termination_by payload.length
decreasing_by rw [List.length_drop]; omega

theorem pieces_of_lt {payload : List α} (h : payload.length < max) :
    pieces max payload = [payload] := by
  rw [pieces, if_neg (by omega)]

theorem pieces_of_le (hmax : 0 < max) {payload : List α} (h : max ≤ payload.length) :
    pieces max payload = payload.take max :: pieces max (payload.drop max) := by
  rw [pieces, if_pos ⟨hmax, h⟩]

/-- A whole piece is cut off the front. -/
theorem pieces_append (hmax : 0 < max) {p : List α} (hp : p.length = max) (payload : List α) :
    pieces max (p ++ payload) = p :: pieces max payload := by
  rw [pieces_of_le hmax (by rw [List.length_append]; omega), List.take_left' hp,
    List.drop_left' hp]

/-! ## Numbered pieces -/

variable {β ν : Type}

/-- The codes of pieces that are numbered from `n` on. -/
def numbered (code : ν → α → List β) (next : ν → ν) : ν → List α → List β
  | _, [] => []
  | n, p :: ps => code n p ++ numbered code next (next n) ps

@[simp] theorem numbered_nil (code : ν → α → List β) (next : ν → ν) (n : ν) :
    numbered code next n [] = [] := rfl

@[simp] theorem numbered_cons (code : ν → α → List β) (next : ν → ν) (n : ν) (p : α)
    (ps : List α) :
    numbered code next n (p :: ps) = code n p ++ numbered code next (next n) ps := rfl

theorem numbered_append (code : ν → α → List β) (next : ν → ν) :
    ∀ (n : ν) (ps qs : List α), numbered code next n (ps ++ qs) =
      numbered code next n ps ++ numbered code next (next^[ps.length] n) qs := by
  intro n ps qs
  induction ps generalizing n with
  | nil => rfl
  | cons p ps ih =>
      rw [List.cons_append, numbered_cons, numbered_cons, ih, List.append_assoc,
        List.length_cons, Function.iterate_succ_apply]

end Framing
