import Mathlib.Algebra.Group.Int.Defs
import Mathlib.Algebra.Group.Nat.Defs
import MGMDB.Foundation

/-!
# Integers in text

`strtol` and its relatives of the C library for base 0, where the text chooses
the base: `0x` for sixteen, a leading `0` for eight, ten otherwise.  White space
and a sign may stand before the digits, the conversion stops at the first
character that is no digit, and no digits at all are zero.  A `long` has 64 bits.
-/

namespace MGMDB

/-- `isspace` in the C locale. -/
def isspace (c : UInt8) : Bool := c = 0x20 || (0x09 ≤ c && c ≤ 0x0D)

/-- The value of a digit or letter; 36 for anything else. -/
def digitValue (c : UInt8) : Nat :=
  if 0x30 ≤ c ∧ c ≤ 0x39 then c.toNat - 0x30
  else if 0x41 ≤ c ∧ c ≤ 0x5A then c.toNat - 0x41 + 10
  else if 0x61 ≤ c ∧ c ≤ 0x7A then c.toNat - 0x61 + 10
  else 36

/-- The digits at the head of the text, read behind the value `acc`. -/
def digitsValue (base acc : Nat) : List UInt8 → Nat
  | [] => acc
  | c :: cs =>
      if digitValue c < base then digitsValue base (acc * base + digitValue c) cs else acc

/-- The unsigned value, in the base its first characters choose. -/
def magnitude : List UInt8 → Nat
  | 0x30 :: x :: d :: cs =>
      if (x = 0x78 ∨ x = 0x58) ∧ digitValue d < 16 then digitsValue 16 0 (d :: cs)
      else digitsValue 8 0 (x :: d :: cs)
  | 0x30 :: cs => digitsValue 8 0 cs
  | cs => digitsValue 10 0 cs

def scanSign : List UInt8 → Bool × List UInt8
  | 0x2D :: cs => (true, cs)
  | 0x2B :: cs => (false, cs)
  | cs => (false, cs)

/-- Whether a minus stands before the number, and its magnitude. -/
def scanInteger (s : CString) : Bool × Nat :=
  let (negative, digits) := scanSign (s.val.dropWhile isspace)
  (negative, magnitude digits)

/-- `strtol(s, NULL, 0)`.  A value out of range becomes the nearest bound. -/
def strtol (s : CString) : Int :=
  let (negative, m) := scanInteger s
  if negative then max (-2 ^ 63) (-m) else min (2 ^ 63 - 1) m

/-- `strtoul(s, NULL, 0)`.  A value out of range becomes the upper bound, and a
minus negates in the unsigned type. -/
def strtoul (s : CString) : Nat :=
  let (negative, m) := scanInteger s
  if 2 ^ 64 ≤ m then 2 ^ 64 - 1
  else if negative then (2 ^ 64 - m) % 2 ^ 64 else m

/-- `strtoll(s, NULL, 0)`; `long long` is no longer than `long`. -/
def strtoll (s : CString) : Int := strtol s

/-- `strtoull(s, NULL, 0)`. -/
def strtoull (s : CString) : Nat := strtoul s

end MGMDB
