import Mathlib.Data.Nat.Basic
import Mathlib.Tactic.Common
import Mathlib.Tactic.Ring

/-!
# Numbers as bytes, the lowest first

`store k n` writes the lowest `k` bytes of `n`, and `load` reads a number back.
-/

namespace Framing

/-- The lowest `k` bytes of `n`. -/
def store : Nat → Nat → List UInt8
  | 0, _ => []
  | k + 1, n => .ofNat n :: store k (n / 256)

/-- The number some bytes stand for. -/
def load : List UInt8 → Nat
  | [] => 0
  | b :: bytes => b.toNat + 256 * load bytes

@[simp] theorem length_store : ∀ k n, (store k n).length = k := by
  intro k
  induction k with
  | zero => exact fun n => rfl
  | succ k ih => exact fun n => congrArg (· + 1) (ih (n / 256))

theorem load_store : ∀ k n, load (store k n) = n % 256 ^ k := by
  intro k
  induction k with
  | zero => exact fun n => (Nat.mod_one n).symm
  | succ k ih =>
      intro n
      have hpow : 256 ^ (k + 1) = 256 * 256 ^ k := by ring
      rw [store, load, ih, UInt8.toNat_ofNat', hpow, Nat.mod_mul]

/-- A number that fits is read back. -/
theorem load_store_of_lt {k n : Nat} (h : n < 256 ^ k) : load (store k n) = n := by
  rw [load_store, Nat.mod_eq_of_lt h]

theorem load_lt (bytes : List UInt8) : load bytes < 256 ^ bytes.length := by
  induction bytes with
  | nil => exact Nat.one_pos
  | cons b bytes ih =>
      have hb := b.toNat_lt
      have hpow : 256 ^ (bytes.length + 1) = 256 * 256 ^ bytes.length := by ring
      rw [load, List.length_cons, hpow]
      omega

theorem store_load (bytes : List UInt8) : store bytes.length (load bytes) = bytes := by
  induction bytes with
  | nil => rfl
  | cons b bytes ih =>
      have hb := b.toNat_lt
      have hlow : UInt8.ofNat (b.toNat + 256 * load bytes) = b := by
        apply UInt8.toNat_inj.mp
        rw [UInt8.toNat_ofNat']
        omega
      have hhigh : (b.toNat + 256 * load bytes) / 256 = load bytes := by omega
      rw [load, List.length_cons, store, hlow, hhigh, ih]

end Framing
