import MGMDB.CLibrary
import MGMDB.Lexing.Scan

/-!
# Literals and delimiters

The literals `quoteObject:` writes of strings and of data, as bytes, and the characters
that end a token in SQL.  The two engines differ in what takes the next character of a
string with it: a backslash does in MySQL, nothing does in SQLite.
-/

namespace MGMDB

/-- Whitespace, a comma, a parenthesis or an equals sign. -/
def Delimiter (c : UInt8) : Prop :=
  isspace c = true ∨ c = 0x2C ∨ c = 0x28 ∨ c = 0x29 ∨ c = 0x3D

/-- A digit of `hexdigits`. -/
def IsHexDigit (c : UInt8) : Prop := 0x30 ≤ c ∧ c ≤ 0x39 ∨ 0x41 ≤ c ∧ c ≤ 0x46

instance (c : UInt8) : Decidable (IsHexDigit c) := inferInstanceAs (Decidable (_ ∨ _))

/-- The two kinds of literals. -/
inductive LiteralClass where
  | string
  | data
deriving DecidableEq, Repr

/-- A string between apostrophes, or hexadecimal digits between apostrophes behind an
`X`. -/
def Literal (escapes : UInt8 → Bool) : LiteralClass → List UInt8 → Prop
  | .string, w => ∃ body, Scan.Body escapes 0x27 body ∧ w = 0x27 :: (body ++ [0x27])
  | .data, w => ∃ digits, (∀ c ∈ digits, IsHexDigit c) ∧ digits.length % 2 = 0 ∧
      w = 0x58 :: 0x27 :: (digits ++ [0x27])

/-- The literal of the empty string and that of no data. -/
def LiteralClass.empty : LiteralClass → List UInt8
  | .string => [0x27, 0x27]
  | .data => [0x58, 0x27, 0x27]

/-- The character the literals of a class begin with. -/
def LiteralClass.opening : LiteralClass → UInt8
  | .string => 0x27
  | .data => 0x58

/-- The first character of a literal. -/
def Opening (x : UInt8) : Prop := x = 0x27 ∨ x = 0x58

theorem LiteralClass.opening_opening (k : LiteralClass) : Opening k.opening := by
  cases k with
  | string => exact .inl rfl
  | data => exact .inr rfl

section
variable {escapes : UInt8 → Bool}

theorem literal_empty (escapes : UInt8 → Bool) (k : LiteralClass) : Literal escapes k k.empty := by
  cases k with
  | string => exact ⟨[], .nil, rfl⟩
  | data => exact ⟨[], List.forall_mem_nil _, rfl, rfl⟩

theorem Literal.eq_cons {k : LiteralClass} {w : List UInt8} (h : Literal escapes k w) :
    ∃ tail, w = k.opening :: tail := by
  cases k with
  | string =>
      obtain ⟨body, -, rfl⟩ := h
      exact ⟨_, rfl⟩
  | data =>
      obtain ⟨digits, -, -, rfl⟩ := h
      exact ⟨_, rfl⟩

theorem eq_of_isspace {d : UInt8} (h : isspace d = true) :
    d = 0x20 ∨ d = 0x09 ∨ d = 0x0A ∨ d = 0x0B ∨ d = 0x0C ∨ d = 0x0D := by
  simp only [isspace, Bool.or_eq_true, Bool.and_eq_true, decide_eq_true_eq] at h
  rcases h with h | ⟨hlo, hhi⟩
  · exact .inl h
  · have hlo' : 9 ≤ d.toNat := UInt8.le_iff_toNat_le.mp hlo
    have hhi' : d.toNat ≤ 13 := UInt8.le_iff_toNat_le.mp hhi
    simp only [← UInt8.toNat_inj]
    show _ ∨ d.toNat = 9 ∨ d.toNat = 10 ∨ d.toNat = 11 ∨ d.toNat = 12 ∨ d.toNat = 13
    omega

theorem Delimiter.ne_quote {d : UInt8} (hd : Delimiter d) : d ≠ 0x27 := by
  rintro rfl
  rcases hd with h | h | h | h | h <;> cases h

/-- A hexadecimal digit is one of the sixteen. -/
theorem IsHexDigit.ne_quote {c : UInt8} (hc : IsHexDigit c) : c ≠ 0x27 := by
  rintro rfl
  rcases hc with h | h
  · exact absurd h.1 (by decide)
  · exact absurd h.1 (by decide)

end

end MGMDB
