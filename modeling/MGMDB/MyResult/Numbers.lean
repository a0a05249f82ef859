import Mathlib.Algebra.Field.Rat
import Mathlib.Algebra.Order.Ring.Int
import MGMDB.MyResult.Column

/-!
# Exact numbers from MySQL

The server sends an exact number as decimal digits, with a minus and a point where it
needs them.  Of a `ZEROFILL` column the digits begin with zeros.  `objectAtColumn:` has
`strtol` and its relatives choose the base, and to them a leading zero means base eight.
A `NEWDECIMAL` column it does not know.  `isNumber_iff` says which values come out right.
-/

namespace MGMDB

/-! ## Numerals -/

/-- Decimal digits, at least one, the first one first. -/
structure Numeral where
  digits : List Nat
  ne_nil : digits ≠ []
  digit_lt : ∀ d ∈ digits, d < 10

/-- The value of digits read behind the value `acc`. -/
def decimalValue (acc : Nat) : List Nat → Nat
  | [] => acc
  | d :: digits => decimalValue (acc * 10 + d) digits

/-- The characters of digits. -/
def digitBytes (digits : List Nat) : List UInt8 := digits.map fun d => .ofNat (0x30 + d)

def Numeral.value (n : Numeral) : Nat := decimalValue 0 n.digits

/-- There is a zero before other digits. -/
def Numeral.Padded (n : Numeral) : Prop := ∃ d rest, n.digits = 0 :: d :: rest

theorem digitValue_ofNat {d : Nat} (h : d < 10) : digitValue (.ofNat (0x30 + d)) = d := by
  have hall : ∀ d : Fin 10, digitValue (.ofNat (0x30 + d.val)) = d.val := by decide
  exact hall ⟨d, h⟩

theorem digitsValue_cons {d : Nat} (h : d < 10) (base acc : Nat) (digits : List Nat) :
    digitsValue base acc (digitBytes (d :: digits)) =
      if d < base then digitsValue base (acc * base + d) (digitBytes digits) else acc := by
  show digitsValue base acc (.ofNat (0x30 + d) :: digitBytes digits) = _
  rw [digitsValue, digitValue_ofNat h]

section
variable {digits : List Nat}

theorem digitsValue_ten (h : ∀ d ∈ digits, d < 10) (acc : Nat) :
    digitsValue 10 acc (digitBytes digits) = decimalValue acc digits := by
  induction digits generalizing acc with
  | nil => rfl
  | cons d digits ih =>
      have hd := h d List.mem_cons_self
      rw [digitsValue_cons hd, if_pos hd]
      exact ih (fun e he => h e (List.mem_cons_of_mem _ he)) _

theorem le_decimalValue (acc : Nat) (digits : List Nat) : acc ≤ decimalValue acc digits := by
  induction digits generalizing acc with
  | nil => exact Nat.le_refl _
  | cons d digits ih => exact Nat.le_trans (by omega) (ih (acc * 10 + d))

/-- The digits of a larger value are never caught up with in base eight. -/
theorem octal_lt (h : ∀ d ∈ digits, d < 10) {a b : Nat} (hab : a < b) :
    digitsValue 8 a (digitBytes digits) < decimalValue b digits := by
  induction digits generalizing a b with
  | nil => exact hab
  | cons d digits ih =>
      rw [digitsValue_cons (h d List.mem_cons_self)]
      split
      · exact ih (fun e he => h e (List.mem_cons_of_mem _ he)) (by omega)
      · -- the digit is no octal one, and ends the number
        have hle : b * 10 + d ≤ decimalValue b (d :: digits) := le_decimalValue _ digits
        omega

/-- Base eight gives the same value for a single digit only. -/
theorem octal_eq_iff (h : ∀ d ∈ digits, d < 10) :
    digitsValue 8 0 (digitBytes digits) ≤ decimalValue 0 digits ∧
      (digitsValue 8 0 (digitBytes digits) = decimalValue 0 digits ↔
        decimalValue 0 digits < 8) := by
  induction digits with
  | nil => exact ⟨Nat.le_refl 0, iff_of_true rfl (by decide)⟩
  | cons d digits ih =>
      have hd := h d List.mem_cons_self
      have hrest : ∀ e ∈ digits, e < 10 := fun e he => h e (List.mem_cons_of_mem _ he)
      have hvalue : decimalValue 0 (d :: digits) = decimalValue d digits := by
        show decimalValue (0 * 10 + d) digits = _
        rw [Nat.zero_mul, Nat.zero_add]
      rw [digitsValue_cons hd, Nat.zero_mul, Nat.zero_add, hvalue]
      rcases Nat.eq_zero_or_pos d with rfl | hpos
      · exact ih hrest
      · have hle : d ≤ decimalValue d digits := le_decimalValue d digits
        split
        next hlt =>
          cases digits with
          | nil => exact ⟨Nat.le_refl d, iff_of_true rfl hlt⟩
          | cons e digits =>
              have he := hrest e List.mem_cons_self
              have hten : d * 10 + e ≤ decimalValue d (e :: digits) := le_decimalValue _ digits
              have hless : digitsValue 8 d (digitBytes (e :: digits)) <
                  decimalValue d (e :: digits) := by
                rw [digitsValue_cons he]
                split
                · have hmore : d * 8 + e < d * 10 + e := by omega
                  exact octal_lt (fun f hf => hrest f (List.mem_cons_of_mem _ hf)) hmore
                · omega
              exact ⟨Nat.le_of_lt hless, iff_of_false (Nat.ne_of_lt hless) (by omega)⟩
        next hge => exact ⟨Nat.zero_le _, iff_of_false (by omega) (by omega)⟩

end

/-! ## strtol on a numeral -/

/-- Behind a zero the base is eight; no digit is the `x` of base sixteen. -/
theorem magnitude_zero {digits : List Nat} (h : ∀ d ∈ digits, d < 10) :
    magnitude (0x30 :: digitBytes digits) = digitsValue 8 0 (digitBytes digits) := by
  cases digits with
  | nil => rfl
  | cons d digits =>
    cases digits with
    | nil => rfl
    | cons e digits =>
      have hletter : ∀ d : Fin 10, ¬ (UInt8.ofNat (0x30 + d.val) = 0x78 ∨
          UInt8.ofNat (0x30 + d.val) = 0x58) := by decide
      have hd := hletter ⟨d, h d List.mem_cons_self⟩
      show (if (UInt8.ofNat (0x30 + d) = 0x78 ∨ UInt8.ofNat (0x30 + d) = 0x58) ∧
          digitValue (.ofNat (0x30 + e)) < 16
        then digitsValue 16 0 (.ofNat (0x30 + e) :: digitBytes digits)
        else digitsValue 8 0 (.ofNat (0x30 + d) :: .ofNat (0x30 + e) :: digitBytes digits)) = _
      rw [if_neg fun hx => hd hx.1]
      rfl

theorem magnitude_of_ne {c : UInt8} (h : c ≠ 0x30) (cs : List UInt8) :
    magnitude (c :: cs) = digitsValue 10 0 (c :: cs) := by
  unfold magnitude
  split
  next heq => exact absurd (List.cons.inj heq).1 h
  next heq => exact absurd (List.cons.inj heq).1 h
  next => rfl

/-- The number is read right unless it is padded and has more than one digit. -/
theorem magnitude_numeral (n : Numeral) :
    magnitude (digitBytes n.digits) ≤ n.value ∧
      (magnitude (digitBytes n.digits) = n.value ↔ (n.Padded → n.value < 8)) := by
  obtain ⟨digits, hne, hlt⟩ := n
  cases digits with
  | nil => exact absurd rfl hne
  | cons d digits =>
      have hrest : ∀ e ∈ digits, e < 10 := fun e he => hlt e (List.mem_cons_of_mem _ he)
      rcases Nat.eq_zero_or_pos d with rfl | hpos
      · have hoctal := octal_eq_iff hrest
        show magnitude (0x30 :: digitBytes digits) ≤ decimalValue 0 digits ∧
          (magnitude (0x30 :: digitBytes digits) = decimalValue 0 digits ↔ _)
        rw [magnitude_zero hrest]
        refine ⟨hoctal.1, ?_⟩
        cases digits with
        | nil =>
            refine iff_of_true rfl ?_
            rintro ⟨d, rest, h⟩
            cases h
        | cons e digits =>
            rw [hoctal.2]
            exact ⟨fun h _ => h, fun h => h ⟨e, digits, rfl⟩⟩
      · have hchar : ∀ d : Fin 10, 0 < d.val → UInt8.ofNat (0x30 + d.val) ≠ 0x30 := by decide
        have hvalue : magnitude (digitBytes (d :: digits)) = decimalValue 0 (d :: digits) := by
          rw [← digitsValue_ten hlt]
          exact magnitude_of_ne (hchar ⟨d, hlt d List.mem_cons_self⟩ hpos) _
        refine ⟨Nat.le_of_eq hvalue, iff_of_true hvalue ?_⟩
        rintro ⟨e, rest, h⟩
        have hzero : d = 0 := (List.cons.inj h).1
        omega

/-! ## What the server sends -/

/-- `ZEROFILL_FLAG`. -/
def ZEROFILL_FLAG : UInt32 := 64

/-- An exact number by its text: the sign, the digits before the point and those behind
it. -/
structure Decimal where
  negative : Bool
  int : Numeral
  fraction : List Nat
  fraction_lt : ∀ d ∈ fraction, d < 10

namespace Decimal

/-- The value. -/
def value (n : Decimal) : Rat :=
  (if n.negative then -1 else 1) * (decimalValue 0 (n.int.digits ++ n.fraction) : Rat) /
    10 ^ n.fraction.length

/-- The text. -/
def bytes (n : Decimal) : List UInt8 :=
  (if n.negative then [0x2D] else []) ++ digitBytes n.int.digits ++
    if n.fraction = [] then [] else 0x2E :: digitBytes n.fraction

/-- The same as a string. -/
def text (n : Decimal) : NSString := n.bytes.map fun c => .ofNat c.toNat

/-- The value of a number without a fraction. -/
def intValue (n : Decimal) : Int := if n.negative then -(n.int.value : Int) else n.int.value

end Decimal

/-- The bits of a value of an integer type. -/
def integerBits : enum_field_types → Option Nat
  | .tiny => some 8
  | .short => some 16
  | .int24 => some 24
  | .long => some 32
  | .longlong => some 64
  | _ => none

/-- The number is in the range of the column. -/
inductive InRange (column : MYSQL_FIELD) (n : Decimal) : Prop where
  | signed {bits : Nat} : integerBits column.type = some bits →
      column.flags &&& UNSIGNED_FLAG = 0 → n.fraction = [] → -2 ^ (bits - 1) ≤ n.intValue →
      n.intValue < 2 ^ (bits - 1) → InRange column n
  | unsigned {bits : Nat} : integerBits column.type = some bits →
      column.flags &&& UNSIGNED_FLAG ≠ 0 → n.fraction = [] → n.negative = false →
      n.intValue < 2 ^ bits → InRange column n
  | decimal : column.type = .decimal ∨ column.type = .newdecimal →
      (column.flags &&& UNSIGNED_FLAG ≠ 0 → n.negative = false) → InRange column n

/-- The text of a value of the column.  Only a `ZEROFILL` column has leading zeros, as
many as its display width asks for. -/
structure Sent (column : MYSQL_FIELD) (n : Decimal) : Prop where
  inRange : InRange column n
  zerofill : n.int.Padded → column.flags &&& ZEROFILL_FLAG ≠ 0

/-! ## What is read -/

/-- An `NSDecimalNumber` has up to 38 digits, and an exponent from -128 to 127. -/
def Representable (v : Rat) : Prop :=
  ∃ (mantissa : Int) (exponent : Nat), mantissa.natAbs < 10 ^ 38 ∧ exponent < 256 ∧
    v * 10 ^ 128 = mantissa * 10 ^ exponent

/-- `decimalNumberWithString:` gives the number a text is for if there is an
`NSDecimalNumber` of this value. -/
def Foundation.ReadsDecimals (F : Foundation) : Prop :=
  ∀ n : Decimal, F.decimalNumberWithString (some n.text) = some n.value ↔ Representable n.value

/-- A number object that is equal to a number. -/
def Obj.IsNumber (v : Rat) : Obj → Prop
  | .number (.signed n) => (n : Rat) = v
  | .number (.unsigned n) => ((n : Int) : Rat) = v
  | .number (.decimal n) => n = some v
  | _ => False

/-- The type is one that is known, a decimal number is not too long, and an integer with
leading zeros has a single digit behind them. -/
structure ReadExactly (column : MYSQL_FIELD) (n : Decimal) : Prop where
  known : column.type ≠ .newdecimal
  representable : column.type = .decimal → Representable n.value
  unpadded : column.type ≠ .decimal → n.int.Padded → n.int.value < 8

/-! ## The text as a C string -/

theorem digitBytes_ascii {digits : List Nat} (h : ∀ d ∈ digits, d < 10) :
    ∀ c ∈ digitBytes digits, 0x30 ≤ c ∧ c ≤ 0x39 := by
  have hall : ∀ d : Fin 10, 0x30 ≤ UInt8.ofNat (0x30 + d.val) ∧
      UInt8.ofNat (0x30 + d.val) ≤ 0x39 := by decide
  intro c hc
  obtain ⟨d, hd, rfl⟩ := List.mem_map.mp hc
  exact hall ⟨d, h d hd⟩

/-- A character of a number. -/
theorem Decimal.mem_bytes {n : Decimal} {c : UInt8} (h : c ∈ n.bytes) :
    c = 0x2D ∨ c = 0x2E ∨ (0x30 ≤ c ∧ c ≤ 0x39) := by
  rw [bytes, List.mem_append, List.mem_append] at h
  rcases h with (hsign | hint) | hfraction
  · split at hsign
    · exact .inl (List.mem_singleton.mp hsign)
    · cases hsign
  · exact .inr (.inr (digitBytes_ascii n.int.digit_lt c hint))
  · split at hfraction
    · cases hfraction
    · rcases List.mem_cons.mp hfraction with hpoint | hdigit
      · exact .inr (.inl hpoint)
      · exact .inr (.inr (digitBytes_ascii n.fraction_lt c hdigit))

theorem Decimal.zero_not_mem_bytes (n : Decimal) : 0 ∉ n.bytes := by
  intro h
  rcases mem_bytes h with h | h | ⟨h, -⟩
  · cases h
  · cases h
  · exact absurd h (by decide)

/-- The C string in a buffer is the text in front of the first NUL. -/
theorem cString_append {bytes : NSData} (h : 0 ∉ bytes) (rest : List UInt8) :
    cString (bytes ++ 0 :: rest) = ⟨bytes, h⟩ := by
  apply Subtype.ext
  show (bytes ++ 0 :: rest).takeWhile (· ≠ 0) = bytes
  have hne : ∀ b ∈ bytes, decide (b ≠ 0) = true := by
    intro b hb
    exact decide_eq_true fun hzero => h (hzero ▸ hb)
  rw [List.takeWhile_append_of_pos hne, List.takeWhile_cons_of_neg (by decide), List.append_nil]

theorem Decimal.stringWithUTF8String_bytes (n : Decimal) :
    stringWithUTF8String ⟨n.bytes, n.zero_not_mem_bytes⟩ = some n.text := by
  have hascii : ∀ c ∈ n.bytes, c.toNat < 0x80 := by
    intro c hc
    rcases mem_bytes hc with rfl | rfl | ⟨-, h⟩
    · decide
    · decide
    · exact Nat.lt_of_le_of_lt (UInt8.le_iff_toNat_le.mp h) (by decide)
  have hunit : ∀ c ∈ n.bytes, (UInt16.ofNat c.toNat).toNat = c.toNat := by
    intro c hc
    have hlt := hascii c hc
    exact Unicode.toNat_ofNat_of_lt (by omega)
  have htext : ∀ u ∈ n.text, u < 0x80 := by
    intro u hu
    obtain ⟨c, hc, rfl⟩ := List.mem_map.mp hu
    rw [UInt16.lt_iff_toNat_lt, hunit c hc]
    exact hascii c hc
  have hutf8 : Unicode.toUtf8 n.text = some n.bytes := by
    rw [Unicode.toUtf8_ascii htext, text, List.map_map, Option.some.injEq]
    conv_rhs => rw [← List.map_id n.bytes]
    refine List.map_congr_left fun c hc => ?_
    show UInt8.ofNat (UInt16.ofNat c.toNat).toNat = c
    rw [hunit c hc, UInt8.ofNat_toNat]
  exact Unicode.ofUtf8_of_toUtf8 hutf8

/-! ## The integers -/

/-- A digit is no white space and no sign. -/
theorem scanInteger_digits (n : Numeral) {s : CString} (hs : s.val = digitBytes n.digits) :
    scanInteger s = (false, magnitude (digitBytes n.digits)) := by
  obtain ⟨digits, hne, hlt⟩ := n
  obtain ⟨d, digits, rfl⟩ := List.exists_cons_of_ne_nil hne
  have hdigit : ∀ d : Fin 10, isspace (UInt8.ofNat (0x30 + d.val)) = false ∧
      UInt8.ofNat (0x30 + d.val) ≠ 0x2D ∧ UInt8.ofNat (0x30 + d.val) ≠ 0x2B := by decide
  obtain ⟨hspace, hminus, hplus⟩ := hdigit ⟨d, hlt d List.mem_cons_self⟩
  have hdrop : (digitBytes (d :: digits)).dropWhile isspace = digitBytes (d :: digits) :=
    List.dropWhile_cons_of_neg (by rw [hspace]; exact Bool.false_ne_true)
  have hsign : scanSign (digitBytes (d :: digits)) = (false, digitBytes (d :: digits)) := by
    unfold scanSign
    split
    next heq => exact absurd (List.cons.inj heq).1 hminus
    next heq => exact absurd (List.cons.inj heq).1 hplus
    next => rfl
  rw [scanInteger, hs, hdrop, hsign]

namespace Decimal

variable {n : Decimal}

theorem bytes_of_fraction (h : n.fraction = []) :
    n.bytes = (if n.negative then [0x2D] else []) ++ digitBytes n.int.digits := by
  rw [bytes, if_pos h, List.append_nil]

theorem scanInteger_bytes (h : n.fraction = []) :
    scanInteger ⟨n.bytes, n.zero_not_mem_bytes⟩ =
      (n.negative, magnitude (digitBytes n.int.digits)) := by
  have hbytes := bytes_of_fraction h
  cases hn : n.negative with
  | true =>
      have hsign : scanSign (n.bytes.dropWhile isspace) = (true, digitBytes n.int.digits) := by
        rw [hbytes, hn]
        rfl
      rw [scanInteger, hsign]
  | false =>
      rw [hn] at hbytes
      exact scanInteger_digits n.int hbytes

theorem value_of_fraction (h : n.fraction = []) : n.value = (n.intValue : Rat) := by
  rw [value, intValue, h, List.append_nil, List.length_nil, pow_zero, div_one]
  cases n.negative with
  | true =>
      show (-1 : Rat) * (n.int.value : Rat) = ((-(n.int.value : Int) : Int) : Rat)
      rw [Int.cast_neg, Int.cast_natCast, neg_one_mul]
  | false =>
      show (1 : Rat) * (n.int.value : Rat) = ((n.int.value : Int) : Rat)
      rw [Int.cast_natCast, one_mul]

end Decimal

theorem integerBits_le {type : enum_field_types} {bits : Nat} (h : integerBits type = some bits) :
    bits ≤ 64 := by
  cases type <;> cases h <;> decide

/-- A signed integer is read right if its digits are. -/
theorem strtol_eq_iff {n : Decimal} (h : n.fraction = []) {bits : Nat} (hbits : bits ≤ 64)
    (hlo : -2 ^ (bits - 1) ≤ n.intValue) (hhi : n.intValue < 2 ^ (bits - 1)) :
    strtol ⟨n.bytes, n.zero_not_mem_bytes⟩ = n.intValue ↔
      magnitude (digitBytes n.int.digits) = n.int.value := by
  have hle := (magnitude_numeral n.int).1
  have hpow : (2 : Int) ^ (bits - 1) ≤ 2 ^ 63 := pow_le_pow_right₀ (by decide) (by omega)
  rw [strtol, Decimal.scanInteger_bytes h]
  rw [Decimal.intValue] at hlo hhi ⊢
  cases hn : n.negative with
  | true =>
      simp only [hn, if_true] at hlo hhi ⊢
      rw [max_eq_right (by omega)]
      omega
  | false =>
      simp only [hn, Bool.false_eq_true, if_false] at hlo hhi ⊢
      rw [min_eq_right (by omega)]
      omega

theorem strtoul_eq_iff {n : Decimal} (h : n.fraction = []) {bits : Nat} (hbits : bits ≤ 64)
    (hpos : n.negative = false) (hhi : n.intValue < 2 ^ bits) :
    (strtoul ⟨n.bytes, n.zero_not_mem_bytes⟩ : Int) = n.intValue ↔
      magnitude (digitBytes n.int.digits) = n.int.value := by
  have hle := (magnitude_numeral n.int).1
  have hpow : (2 : Int) ^ bits ≤ 2 ^ 64 := pow_le_pow_right₀ (by decide) hbits
  rw [Decimal.intValue, hpos] at hhi ⊢
  simp only [Bool.false_eq_true, if_false] at hhi ⊢
  rw [strtoul, Decimal.scanInteger_bytes h, hpos]
  have hlt : ¬ 2 ^ 64 ≤ magnitude (digitBytes n.int.digits) := by omega
  simp only [if_neg hlt, Bool.false_eq_true, if_false]
  omega

/-! ## A Foundation that reads decimal numbers -/

/-- A sign, and what is behind it. -/
def readSign : NSString → Bool × NSString
  | 0x2D :: digits => (true, digits)
  | digits => (false, digits)

/-- The number a text is for: what is before the first point, and what is behind it. -/
def readDecimal (s : NSString) : Rat :=
  let (negative, digits) := readSign s
  let int := digits.takeWhile (· ≠ 0x2E)
  let fraction := (digits.dropWhile (· ≠ 0x2E)).tail
  (if negative then -1 else 1) *
      (decimalValue 0 ((int ++ fraction).map fun c => c.toNat - 0x30) : Rat) /
    10 ^ fraction.length

/-- The characters of digits, as units. -/
def digitUnits (digits : List Nat) : NSString := digits.map fun d => .ofNat (0x30 + d)

theorem map_digitBytes {digits : List Nat} (h : ∀ d ∈ digits, d < 10) :
    ((digitBytes digits).map fun c => UInt16.ofNat c.toNat) = digitUnits digits := by
  have hall : ∀ d : Fin 10, UInt16.ofNat (UInt8.ofNat (0x30 + d.val)).toNat =
      .ofNat (0x30 + d.val) := by decide
  rw [digitBytes, digitUnits, List.map_map]
  exact List.map_congr_left fun d hd => hall ⟨d, h d hd⟩

theorem read_digitUnits {digits : List Nat} (h : ∀ d ∈ digits, d < 10) :
    ((digitUnits digits).map fun c => c.toNat - 0x30) = digits := by
  have hall : ∀ d : Fin 10, (UInt16.ofNat (0x30 + d.val)).toNat - 0x30 = d.val := by decide
  rw [digitUnits, List.map_map]
  conv_rhs => rw [← List.map_id digits]
  exact List.map_congr_left fun d hd => hall ⟨d, h d hd⟩

theorem digitUnits_ne {digits : List Nat} (h : ∀ d ∈ digits, d < 10) :
    ∀ c ∈ digitUnits digits, c ≠ 0x2D ∧ c ≠ 0x2E := by
  have hall : ∀ d : Fin 10, UInt16.ofNat (0x30 + d.val) ≠ 0x2D ∧
      UInt16.ofNat (0x30 + d.val) ≠ 0x2E := by decide
  intro c hc
  obtain ⟨d, hd, rfl⟩ := List.mem_map.mp hc
  exact hall ⟨d, h d hd⟩

theorem Decimal.text_eq (n : Decimal) :
    n.text = (if n.negative then [0x2D] else []) ++ (digitUnits n.int.digits ++
      if n.fraction = [] then [] else 0x2E :: digitUnits n.fraction) := by
  rw [text, bytes, List.map_append, List.map_append, map_digitBytes n.int.digit_lt,
    List.append_assoc]
  congr 1
  · cases n.negative <;> rfl
  · split
    · rfl
    · rw [List.map_cons, map_digitBytes n.fraction_lt]
      rfl

theorem readSign_text (n : Decimal) :
    readSign n.text = (n.negative, digitUnits n.int.digits ++
      if n.fraction = [] then [] else 0x2E :: digitUnits n.fraction) := by
  rw [n.text_eq]
  cases n.negative with
  | true => rfl
  | false =>
      have hne : digitUnits n.int.digits ≠ [] := fun h => n.int.ne_nil (List.map_eq_nil_iff.mp h)
      obtain ⟨c, cs, hc⟩ := List.exists_cons_of_ne_nil hne
      have hmem : c ∈ digitUnits n.int.digits := by
        rw [hc]
        exact List.mem_cons_self
      have hminus : c ≠ 0x2D := (digitUnits_ne n.int.digit_lt c hmem).1
      rw [hc]
      unfold readSign
      split
      next heq => exact absurd (List.cons.inj heq).1 hminus
      next => rfl

theorem readDecimal_text (n : Decimal) : readDecimal n.text = n.value := by
  have hpoint : ∀ c ∈ digitUnits n.int.digits, decide (c ≠ 0x2E) = true :=
    fun c hc => decide_eq_true (digitUnits_ne n.int.digit_lt c hc).2
  have hsplit : (digitUnits n.int.digits ++
        if n.fraction = [] then [] else 0x2E :: digitUnits n.fraction).takeWhile (· ≠ 0x2E) =
          digitUnits n.int.digits ∧
      ((digitUnits n.int.digits ++
        if n.fraction = [] then [] else 0x2E :: digitUnits n.fraction).dropWhile (· ≠ 0x2E)).tail =
          digitUnits n.fraction := by
    rw [List.takeWhile_append_of_pos hpoint, List.dropWhile_append_of_pos hpoint]
    split
    next hnil =>
      rw [hnil, List.takeWhile_nil, List.append_nil]
      exact ⟨rfl, rfl⟩
    next =>
      rw [List.takeWhile_cons_of_neg (by decide), List.dropWhile_cons_of_neg (by decide),
        List.append_nil]
      exact ⟨rfl, rfl⟩
  rw [readDecimal, readSign_text]
  dsimp only
  rw [hsplit.1, hsplit.2, List.map_append, read_digitUnits n.int.digit_lt,
    read_digitUnits n.fraction_lt, digitUnits, List.length_map]
  rfl

/-- The exponents can be tried one by one. -/
theorem representable_iff (v : Rat) :
    Representable v ↔
      ∃ k < 256, (v * 10 ^ 128 / 10 ^ k).den = 1 ∧ (v * 10 ^ 128 / 10 ^ k).num.natAbs < 10 ^ 38 := by
  have hpow : ∀ k : Nat, (10 : Rat) ^ k ≠ 0 := fun k => pow_ne_zero k (by decide)
  constructor
  · rintro ⟨m, k, hm, hk, heq⟩
    have hdiv : v * 10 ^ 128 / 10 ^ k = m := by rw [heq, mul_div_cancel_right₀ _ (hpow k)]
    exact ⟨k, hk, by rw [hdiv]; exact ⟨rfl, hm⟩⟩
  · rintro ⟨k, hk, hden, hnum⟩
    refine ⟨(v * 10 ^ 128 / 10 ^ k).num, k, hnum, hk, ?_⟩
    have hint : ((v * 10 ^ 128 / 10 ^ k).num : Rat) = v * 10 ^ 128 / 10 ^ k :=
      Rat.ext rfl hden.symm
    rw [hint, div_mul_cancel₀ _ (hpow k)]

instance (v : Rat) : Decidable (Representable v) := decidable_of_iff _ (representable_iff v).symm

/-- What `decimalNumberWithString:` makes of a text. -/
def decimalOf (s : NSString) : Option Rat :=
  if Representable (readDecimal s) then some (readDecimal s) else none

/-- A `Foundation` that reads decimal numbers. -/
def readingDecimals : Foundation :=
  { (default : Foundation) with decimalNumberWithString := fun s => s.bind decimalOf }

theorem readsDecimals : readingDecimals.ReadsDecimals := by
  intro n
  simp only [readingDecimals, Option.bind_some]
  rw [decimalOf, readDecimal_text]
  split
  next h => exact iff_of_true rfl h
  next h => exact iff_of_false (fun hnone => by cases hnone) h

/-! ## The columns -/

namespace MGMMyResult

section
variable {F : Foundation} {column : MYSQL_FIELD} {n : Decimal}

/-- An integer column, with the functions that read it. -/
theorem objectAtColumn_integer (F : Foundation) (timeZone : NSTimeZone) {bits : Nat}
    (h : integerBits column.type = some bits) (theBytes : List UInt8) (theLength : Nat) :
    objectAtColumn F timeZone column theBytes theLength =
      if column.flags &&& UNSIGNED_FLAG ≠ 0 then .number (.unsigned (strtoul (cString theBytes)))
      else .number (.signed (strtol (cString theBytes))) := by
  obtain ⟨name, type, flags⟩ := column
  cases type <;> cases h <;> (rw [objectAtColumn]; dsimp only; split <;> rfl)

theorem ne_decimal_of_integerBits {type : enum_field_types} {bits : Nat}
    (h : integerBits type = some bits) : type ≠ .decimal ∧ type ≠ .newdecimal := by
  cases type <;> cases h <;> exact ⟨enum_field_types.noConfusion, enum_field_types.noConfusion⟩

theorem isNumber_integer_iff {bits : Nat} (h : integerBits column.type = some bits) {P : Prop}
    (hP : P ↔ magnitude (digitBytes n.int.digits) = n.int.value) : P ↔ ReadExactly column n := by
  obtain ⟨hdecimal, hnew⟩ := ne_decimal_of_integerBits h
  rw [hP, (magnitude_numeral n.int).2]
  exact ⟨fun hpad => ⟨hnew, fun h => absurd h hdecimal, fun _ => hpad⟩,
    fun hread => hread.unpadded hdecimal⟩

/-- An exact number is read as itself unless its type is `NEWDECIMAL`, or it is an integer
of more than one digit behind leading zeros, or a decimal number that is too long. -/
theorem isNumber_iff (hF : F.ReadsDecimals) (timeZone : NSTimeZone) (h : Sent column n)
    (rest : List UInt8) :
    (objectAtColumn F timeZone column (n.bytes ++ 0 :: rest) n.bytes.length).IsNumber n.value ↔
      ReadExactly column n := by
  have hstring := cString_append n.zero_not_mem_bytes rest
  cases h.inRange with
  | signed hbits hflags hfraction hlo hhi =>
      rw [objectAtColumn_integer F timeZone hbits, if_neg fun h => h hflags, hstring]
      refine isNumber_integer_iff hbits ?_
      rw [← strtol_eq_iff hfraction (integerBits_le hbits) hlo hhi]
      show ((strtol _ : Int) : Rat) = n.value ↔ _
      rw [Decimal.value_of_fraction hfraction, Rat.intCast_inj]
  | unsigned hbits hflags hfraction hpos hhi =>
      rw [objectAtColumn_integer F timeZone hbits, if_pos hflags, hstring]
      refine isNumber_integer_iff hbits ?_
      rw [← strtoul_eq_iff hfraction (integerBits_le hbits) hpos hhi]
      show (((strtoul _ : Nat) : Int) : Rat) = n.value ↔ _
      rw [Decimal.value_of_fraction hfraction, Rat.intCast_inj]
  | decimal htype _ =>
      rcases htype with htype | htype
      · have hobject : objectAtColumn F timeZone column (n.bytes ++ 0 :: rest) n.bytes.length =
            .number (.decimal (F.decimalNumberWithString (some n.text))) := by
          simp only [objectAtColumn, htype, hstring, n.stringWithUTF8String_bytes, Option.getD_some]
        rw [hobject]
        show F.decimalNumberWithString (some n.text) = some n.value ↔ _
        rw [hF n]
        refine ⟨fun hrep => ⟨?_, fun _ => hrep, fun hne => absurd htype hne⟩,
          fun hread => hread.representable htype⟩
        rw [htype]
        exact enum_field_types.noConfusion
      · have hobject : objectAtColumn F timeZone column (n.bytes ++ 0 :: rest) n.bytes.length =
            .data ((n.bytes ++ 0 :: rest).take n.bytes.length) := by
          simp only [objectAtColumn, htype, Option.getD_some]
        rw [hobject]
        exact iff_of_false (fun h => h) fun hread => hread.known htype

end

/-! ## A column of small numbers -/

/-- An unsigned `TINY` column with `ZEROFILL`. -/
def zerofilled : MYSQL_FIELD := ⟨cString [0x6E], .tiny, UNSIGNED_FLAG ||| ZEROFILL_FLAG⟩

/-- The text of a number of two digits, filled to a width of three. -/
def filled (tens ones : Fin 10) : Decimal where
  negative := false
  int := ⟨[0, tens, ones], List.cons_ne_nil _ _, by simp⟩
  fraction := []
  fraction_lt := by simp

theorem sent_filled (tens ones : Fin 10) : Sent zerofilled (filled tens ones) where
  inRange := by
    refine .unsigned rfl (by decide) rfl rfl ?_
    show ((decimalValue 0 [0, tens.val, ones.val] : Nat) : Int) < 2 ^ 8
    simp only [decimalValue]
    omega
  zerofill _ := by decide

/-- A padded 10 is read as 8. -/
theorem not_isNumber :
    ¬ ∀ (F : Foundation), F.ReadsDecimals → ∀ (timeZone : NSTimeZone) (column : MYSQL_FIELD)
      (n : Decimal) (rest : List UInt8), Sent column n →
      (objectAtColumn F timeZone column (n.bytes ++ 0 :: rest) n.bytes.length).IsNumber
        n.value := by
  intro h
  have hten : (((8 : Nat) : Int) : Rat) = (filled 1 0).value :=
    h readingDecimals readsDecimals ⟨[]⟩ zerofilled (filled 1 0) [] (sent_filled 1 0)
  rw [Decimal.value_of_fraction rfl, Rat.intCast_inj] at hten
  exact absurd hten (by decide)

/-- A padded 7 is read as itself. -/
theorem isNumber_iff_seven :
    (objectAtColumn readingDecimals ⟨[]⟩ zerofilled ((filled 0 7).bytes ++ 0 :: [])
        (filled 0 7).bytes.length).IsNumber (filled 0 7).value ↔
      ReadExactly zerofilled (filled 0 7) :=
  isNumber_iff readsDecimals ⟨[]⟩ (sent_filled 0 7) []

end MGMMyResult

end MGMDB
