import Mathlib.Data.List.Basic
import Mathlib.Tactic.Common

/-!
# Symbol-by-symbol codes

An encoder that writes each symbol of a list on its own, and a reader that takes
the code of one symbol off its input and goes on.  What the reader makes of a
whole list is then the concatenation of what it makes of the symbols
(`read_flatMap`), and the list is read back exactly when each symbol is
(`flatMap_eq_self_iff`).
-/

namespace Codec

variable {α β γ : Type}

/-- A reader that undoes one symbol at a time undoes a list of them. -/
theorem read_flatMap {read : List α → Option (List β)} {enc : γ → List α} {dec : γ → List β}
    {tail : List α} {out : List β} (htail : read tail = some out) :
    ∀ {s : List γ},
      (∀ c ∈ s, ∀ rest, read (enc c ++ rest) = (read rest).map (dec c ++ ·)) →
      read (s.flatMap enc ++ tail) = some (s.flatMap dec ++ out) := by
  intro s hstep
  induction s with
  | nil => simpa using htail
  | cons c s ih =>
      have hs := ih fun d hd => hstep d (List.mem_cons_of_mem _ hd)
      rw [List.flatMap_cons, List.append_assoc, hstep c List.mem_cons_self, hs]
      simp

/-- Codes of at least one symbol each never shorten a list. -/
theorem length_le_flatMap {f : α → List α} :
    ∀ {s : List α}, (∀ c ∈ s, f c ≠ []) → s.length ≤ (s.flatMap f).length := by
  intro s hf
  induction s with
  | nil => simp
  | cons c s ih =>
      have hs := ih fun d hd => hf d (List.mem_cons_of_mem _ hd)
      have hc := List.length_pos_iff.mpr (hf c List.mem_cons_self)
      rw [List.flatMap_cons, List.length_append, List.length_cons]
      omega

/-- A list survives such a code only if every symbol of it does. -/
theorem flatMap_eq_self_iff {f : α → List α} :
    ∀ {s : List α}, (∀ c ∈ s, f c ≠ []) → (s.flatMap f = s ↔ ∀ c ∈ s, f c = [c]) := by
  intro s hf
  induction s with
  | nil => simp
  | cons c s ih =>
      have hs := fun d (hd : d ∈ s) => hf d (List.mem_cons_of_mem c hd)
      constructor
      · intro h
        rw [List.flatMap_cons] at h
        obtain ⟨a, l, hal⟩ := List.exists_cons_of_ne_nil (hf c List.mem_cons_self)
        rw [hal, List.cons_append, List.cons.injEq] at h
        obtain ⟨rfl, hl⟩ := h
        -- the rest is no shorter than `s`, so nothing is left of the code of `a`
        have hlen := congrArg List.length hl
        have hle := length_le_flatMap hs
        rw [List.length_append] at hlen
        have hnil : l = [] := List.length_eq_zero_iff.mp (by omega)
        subst hnil
        simp only [List.mem_cons, forall_eq_or_imp]
        exact ⟨hal, (ih hs).mp hl⟩
      · intro h
        simp only [List.mem_cons, forall_eq_or_imp] at h
        rw [List.flatMap_cons, h.1, (ih hs).mpr h.2]
        rfl

end Codec
