import Mathlib.Data.List.Basic
import Mathlib.Tactic.Common

/-!
# Parts of a buffer

A buffer is a list, a part of it a place and a length, and bytes are copied into it
at a place.  The laws say what a part is made of, and which parts a copy changes.
-/

namespace Framing

variable {α : Type} {buff buff' bytes : List α} {pos n m k : Nat}

/-- The `n` values from a place on. -/
def slice (buff : List α) (pos n : Nat) : List α := (buff.drop pos).take n

/-- Values that are copied to a place in a buffer. -/
def memcpyAt (buff : List α) (pos : Nat) (bytes : List α) : List α :=
  buff.take pos ++ bytes ++ buff.drop (pos + bytes.length)

theorem length_slice (h : pos + n ≤ buff.length) : (slice buff pos n).length = n := by
  rw [slice, List.length_take, List.length_drop]
  omega

theorem slice_zero (buff : List α) (pos : Nat) : slice buff pos 0 = [] := List.take_zero

/-- Two parts next to each other. -/
theorem slice_add (buff : List α) (pos m n : Nat) :
    slice buff pos (m + n) = slice buff pos m ++ slice buff (pos + m) n := by
  rw [slice, slice, slice, List.take_add, List.drop_drop]

theorem slice_slice (h : k + n ≤ m) : slice (slice buff pos m) k n = slice buff (pos + k) n := by
  rw [slice, slice, slice, List.drop_take, List.drop_drop, List.take_take]
  congr 1
  omega

/-- Buffers that begin alike. -/
theorem slice_of_take_eq (h : buff.take m = buff'.take m) (hle : pos + n ≤ m) :
    slice buff pos n = slice buff' pos n := by
  have hslices := congrArg (fun l => slice l pos n) h
  simp only [slice, List.drop_take, List.take_take] at hslices
  rwa [Nat.min_eq_left (by omega)] at hslices

theorem length_le_memcpyAt (buff : List α) (pos : Nat) (bytes : List α) :
    buff.length ≤ (memcpyAt buff pos bytes).length := by
  simp only [memcpyAt, List.length_append, List.length_take, List.length_drop]
  omega

/-- What stands before the place of a copy, and then the copy. -/
theorem take_memcpyAt (h : pos ≤ buff.length) (bytes : List α) :
    (memcpyAt buff pos bytes).take (pos + bytes.length) = buff.take pos ++ bytes := by
  have hlength : (buff.take pos ++ bytes).length = pos + bytes.length := by
    rw [List.length_append, List.length_take, Nat.min_eq_left h]
  rw [memcpyAt, List.take_left' hlength]

theorem take_memcpyAt_of_le (hn : n ≤ pos) (h : pos ≤ buff.length) (bytes : List α) :
    (memcpyAt buff pos bytes).take n = buff.take n := by
  rw [memcpyAt, List.append_assoc, List.take_append_of_le_length (by rw [List.length_take]; omega),
    List.take_take, Nat.min_eq_left hn]

theorem slice_memcpyAt_before (hle : k + n ≤ pos) (h : pos ≤ buff.length) (bytes : List α) :
    slice (memcpyAt buff pos bytes) k n = slice buff k n :=
  slice_of_take_eq (take_memcpyAt_of_le (Nat.le_refl pos) h bytes) hle

theorem slice_memcpyAt_inside (h : pos ≤ buff.length) (hle : k + n ≤ bytes.length) :
    slice (memcpyAt buff pos bytes) (pos + k) n = slice bytes k n := by
  have hlength : (buff.take pos).length = pos := List.length_take_of_le h
  have hdrop : (memcpyAt buff pos bytes).drop (pos + k) =
      bytes.drop k ++ buff.drop (pos + bytes.length) := by
    rw [memcpyAt, List.append_assoc, ← List.drop_drop, List.drop_left' hlength,
      List.drop_append_of_le_length (by omega)]
  rw [slice, hdrop, List.take_append_of_le_length (by rw [List.length_drop]; omega), slice]

theorem slice_memcpyAt (h : pos ≤ buff.length) (bytes : List α) :
    slice (memcpyAt buff pos bytes) pos bytes.length = bytes := by
  have hinside : slice (memcpyAt buff pos bytes) (pos + 0) bytes.length =
      slice bytes 0 bytes.length := slice_memcpyAt_inside h (by omega)
  rwa [slice, slice, List.drop_zero, List.take_length] at hinside

theorem slice_succ (h : pos < buff.length) (default : α) :
    slice buff pos (n + 1) = buff.getD pos default :: slice buff (pos + 1) n := by
  rw [slice, slice, List.drop_eq_getElem_cons h, List.take_succ_cons,
    List.getD_eq_getElem?_getD, List.getElem?_eq_getElem h, Option.getD_some]

/-- Behind a copy the buffer is as it was. -/
theorem slice_memcpyAt_behind (h : pos ≤ buff.length) (hle : pos + bytes.length ≤ k) :
    slice (memcpyAt buff pos bytes) k n = slice buff k n := by
  have hlength : (buff.take pos ++ bytes).length = pos + bytes.length := by
    rw [List.length_append, List.length_take, Nat.min_eq_left h]
  obtain ⟨d, rfl⟩ := Nat.exists_eq_add_of_le hle
  rw [slice, slice, memcpyAt, ← List.drop_drop, List.drop_left' hlength, List.drop_drop]

/-- A part that begins with a value that was copied there. -/
theorem slice_memcpyAt_singleton (h : pos ≤ buff.length) (b : α) :
    slice (memcpyAt buff pos [b]) pos (n + 1) = b :: slice buff (pos + 1) n := by
  have hbehind : slice (memcpyAt buff pos [b]) (pos + 1) n = slice buff (pos + 1) n :=
    slice_memcpyAt_behind h (Nat.le_refl _)
  rw [Nat.add_comm, slice_add, hbehind]
  exact congrArg (· ++ _) (slice_memcpyAt h [b])

end Framing
