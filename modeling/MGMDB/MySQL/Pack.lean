import MGMDB.Framing.LittleEndian
import MGMDB.Framing.Takes

/-!
# Packed integers

The integers of the protocol: of fixed width (`int3store` and its like), and packed
as `net_store_length` writes them, the small ones in one byte.  A reader is handed
the bytes from its pointer on, and has no answer if it would go behind them.

`net_field_length_ll` reads everything that `net_store_length` writes.
`net_field_length` reads only four of the eight bytes of a big number.
-/

namespace MGMDB

open Framing

def int2store (a : Nat) : List UInt8 := store 2 a

def int3store (a : Nat) : List UInt8 := store 3 a

def int8store (a : Nat) : List UInt8 := store 8 a

def uint2korr (pos : List UInt8) : Nat := load (pos.take 2)

def uint3korr (pos : List UInt8) : Nat := load (pos.take 3)

def uint4korr (pos : List UInt8) : Nat := load (pos.take 4)

def uint8korr (pos : List UInt8) : Nat := load (pos.take 8)

/-- `NULL_LENGTH`, a number that stands for NULL. -/
def NULL_LENGTH : UInt64 := ~~~0

/-- A number in the next bytes, where the pointer is moved on by `skip`. -/
def fixed (korr : List UInt8 → Nat) (skip : Nat) (pos : List UInt8) :
    Option (UInt64 × List UInt8) :=
  if skip ≤ pos.length then some (.ofNat (korr pos), pos.drop skip) else none

/-- `net_field_length`. -/
def net_field_length : List UInt8 → Option (UInt64 × List UInt8)
  | [] => none
  | b :: pos =>
      if b < 251 then some (b.toUInt64, pos)
      else if b = 251 then some (NULL_LENGTH, pos)
      else if b = 252 then fixed uint2korr 2 pos
      else if b = 253 then fixed uint3korr 3 pos
      else fixed uint4korr 8 pos

/-- `net_field_length_ll`. -/
def net_field_length_ll : List UInt8 → Option (UInt64 × List UInt8)
  | [] => none
  | b :: pos =>
      if b < 251 then some (b.toUInt64, pos)
      else if b = 251 then some (NULL_LENGTH, pos)
      else if b = 252 then fixed uint2korr 2 pos
      else if b = 253 then fixed uint3korr 3 pos
      else fixed uint8korr 8 pos

/-- `net_store_length`. -/
def net_store_length (length : UInt64) : List UInt8 :=
  if length < 251 then [length.toUInt8]
  else if length < 65536 then 252 :: int2store length.toNat
  else if length < 16777216 then 253 :: int3store length.toNat
  else 254 :: int8store length.toNat

theorem uint2korr_append {a : Nat} (h : a < 256 ^ 2) (rest : List UInt8) :
    uint2korr (int2store a ++ rest) = a := by
  rw [uint2korr, int2store, List.take_left' (length_store 2 a), load_store_of_lt h]

theorem uint3korr_append {a : Nat} (h : a < 256 ^ 3) (rest : List UInt8) :
    uint3korr (int3store a ++ rest) = a := by
  rw [uint3korr, int3store, List.take_left' (length_store 3 a), load_store_of_lt h]

theorem uint8korr_append {a : Nat} (h : a < 256 ^ 8) (rest : List UInt8) :
    uint8korr (int8store a ++ rest) = a := by
  rw [uint8korr, int8store, List.take_left' (length_store 8 a), load_store_of_lt h]

/-- The lowest four bytes of eight. -/
theorem uint4korr_int8store (a : Nat) (rest : List UInt8) :
    uint4korr (int8store a ++ rest) = a % 256 ^ 4 := by
  have hfour : (store 8 a ++ rest).take 4 = store 4 a := rfl
  rw [uint4korr, int8store, hfour, load_store]

theorem fixed_append {korr : List UInt8 → Nat} {skip : Nat} {code : List UInt8}
    (hcode : code.length = skip) {n : UInt64} (h : ∀ rest, korr (code ++ rest) = n.toNat)
    (rest : List UInt8) : fixed korr skip (code ++ rest) = some (n, rest) := by
  have hle : skip ≤ (code ++ rest).length := by rw [List.length_append]; omega
  rw [fixed, if_pos hle, h, List.drop_left' hcode, UInt64.ofNat_toNat]

/-- `net_field_length_ll` reads what `net_store_length` writes. -/
theorem takes_net_field_length_ll (n : UInt64) :
    Takes net_field_length_ll (net_store_length n) n := by
  intro rest
  rw [net_store_length]
  split
  next h =>
    have hbyte : n.toUInt8 < 251 := by
      rw [UInt64.lt_iff_toNat_lt] at h
      rw [UInt8.lt_iff_toNat_lt, UInt64.toNat_toUInt8]
      exact Nat.lt_of_le_of_lt (Nat.mod_le _ _) h
    have hback : n.toUInt8.toUInt64 = n := by
      rw [UInt64.lt_iff_toNat_lt] at h
      apply UInt64.toNat_inj.mp
      rw [UInt8.toNat_toUInt64, UInt64.toNat_toUInt8, Nat.mod_eq_of_lt (Nat.lt_trans h (by decide))]
    rw [List.singleton_append, net_field_length_ll, if_pos hbyte, hback]
  next =>
    split
    next h =>
      rw [UInt64.lt_iff_toNat_lt] at h
      exact fixed_append (length_store 2 _) (uint2korr_append h) rest
    next =>
      split
      next h =>
        rw [UInt64.lt_iff_toNat_lt] at h
        exact fixed_append (length_store 3 _) (uint3korr_append h) rest
      next => exact fixed_append (length_store 8 _) (uint8korr_append n.toNat_lt) rest

/-- Both readers take a number of up to three bytes alike. -/
theorem net_field_length_eq_ll {b : UInt8} (h : b < 254) (pos : List UInt8) :
    net_field_length (b :: pos) = net_field_length_ll (b :: pos) := by
  have hb : b < 251 ∨ b = 251 ∨ b = 252 ∨ b = 253 := by
    rw [UInt8.lt_iff_toNat_lt] at h ⊢
    simp only [← UInt8.toNat_inj]
    change b.toNat < 254 at h
    change b.toNat < 251 ∨ b.toNat = 251 ∨ b.toNat = 252 ∨ b.toNat = 253
    omega
  rcases hb with hb | rfl | rfl | rfl
  · rw [net_field_length, net_field_length_ll, if_pos hb, if_pos hb]
  · rfl
  · rfl
  · rfl

theorem takes_net_field_length_of_lt {n : UInt64} (h : n < 16777216) :
    Takes net_field_length (net_store_length n) n := by
  intro rest
  rw [← takes_net_field_length_ll n rest, net_store_length]
  split
  next hn =>
    refine net_field_length_eq_ll ?_ rest
    rw [UInt64.lt_iff_toNat_lt] at hn
    rw [UInt8.lt_iff_toNat_lt, UInt64.toNat_toUInt8]
    exact Nat.lt_of_le_of_lt (Nat.mod_le _ _) (Nat.lt_trans hn (by decide))
  next =>
    split
    next => exact net_field_length_eq_ll (by decide) _
    next => exact net_field_length_eq_ll (by decide) _

/-- `net_field_length` reads the lowest four bytes. -/
theorem takes_net_field_length (n : UInt64) :
    Takes net_field_length (net_store_length n) (.ofNat (n.toNat % 2 ^ 32)) := by
  by_cases h : n < 16777216
  · have hmod : UInt64.ofNat (n.toNat % 2 ^ 32) = n := by
      rw [UInt64.lt_iff_toNat_lt] at h
      rw [Nat.mod_eq_of_lt (Nat.lt_trans h (by decide)), UInt64.ofNat_toNat]
    rw [hmod]
    exact takes_net_field_length_of_lt h
  · intro rest
    have h' : ¬ n < 65536 := fun hlt => h (UInt64.lt_trans hlt (by decide))
    have h'' : ¬ n < 251 := fun hlt => h' (UInt64.lt_trans hlt (by decide))
    have hlow : (UInt64.ofNat (n.toNat % 2 ^ 32)).toNat = n.toNat % 2 ^ 32 :=
      UInt64.toNat_ofNat_of_lt' (Nat.lt_of_lt_of_le (Nat.mod_lt _ (by decide)) (by decide))
    rw [net_store_length, if_neg h'', if_neg h', if_neg h]
    exact fixed_append (length_store 8 _)
      (fun rest => (uint4korr_int8store n.toNat rest).trans hlow.symm) rest

end MGMDB
