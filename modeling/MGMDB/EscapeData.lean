import MGMDB.Exchanges

/-!
# The hexadecimal encoder

`escapeData:` is the one method of the connection classes that works on raw memory, and
both have the same one.  Here it is statement by statement: an `int` counts, one pointer
walks over the data and another, twice as fast, over a buffer of `malloc`.  A pointer is
an offset, a byte of the buffer is `none` until it is written, and a run ends in `none`
where C leaves it undefined: a read behind the data, a write behind the buffer, a counter
that overflows.

`escapeDataLoop_written` says what the buffer holds after any number of turns.  The run
then ends in the text of `escapeData`, the definition the other modules use.
-/

namespace MGMDB

/-! ## The run -/

/-- The locals of the method. -/
structure HexLoop where
  i : Int32
  bytes : Nat
  hexBuffer : Nat
  stringBuffer : List (Option UInt8)
deriving DecidableEq

namespace HexLoop

/-- `*hexBuffer = character`. -/
def store (s : HexLoop) (character : UInt8) : Option HexLoop :=
  if s.hexBuffer < s.stringBuffer.length then
    some { s with stringBuffer := s.stringBuffer.set s.hexBuffer (some character) }
  else none

/-- `*hexBuffer++ = character`. -/
def append (s : HexLoop) (character : UInt8) : Option HexLoop :=
  (s.store character).map fun s => { s with hexBuffer := s.hexBuffer + 1 }

/-- `hexdigits[index]`. -/
def digit (index : Int32) : Option UInt8 :=
  if 0 ≤ index then (hexdigits.map UInt16.toUInt8)[index.toInt.toNat]? else none

/-- The body of the loop and `i++`.  A `char` is signed and an `int` once it is shifted. -/
def turn (theData : NSData) (s : HexLoop) : Option HexLoop := do
  let byte ← theData[s.bytes]?
  let char := byte.toInt8.toInt32
  let s ← s.append (← digit ((char >>> 4) &&& 0xF))
  let s ← s.append (← digit (char &&& 0xF))
  if s.i = Int32.maxValue then none
  else some { s with bytes := s.bytes + 1, i := s.i + 1 }

theorem toInt_succ {i : Int32} (h : i ≠ Int32.maxValue) : (i + 1).toInt = i.toInt + 1 := by
  have hlo := i.le_toInt
  have hhi := i.toInt_lt
  have hne : i.toInt ≠ 2 ^ 31 - 1 := fun heq => h (Int32.toInt_inj.mp heq)
  rw [Int32.toInt_add]
  exact Int.bmod_eq_of_le (by simp; omega) (by simp; omega)

theorem append_i {s s' : HexLoop} {character : UInt8} (h : s.append character = some s') :
    s'.i = s.i := by
  obtain ⟨t, ht, rfl⟩ := Option.map_eq_some_iff.mp h
  rw [store] at ht
  split at ht
  · obtain rfl := Option.some.inj ht
    rfl
  · cases ht

theorem turn_i {theData : NSData} {s s' : HexLoop} (h : s.turn theData = some s') :
    s'.i.toInt = s.i.toInt + 1 := by
  obtain ⟨byte, -, h⟩ := Option.bind_eq_some_iff.mp h
  obtain ⟨high, -, h⟩ := Option.bind_eq_some_iff.mp h
  obtain ⟨s₁, h₁, h⟩ := Option.bind_eq_some_iff.mp h
  obtain ⟨low, -, h⟩ := Option.bind_eq_some_iff.mp h
  obtain ⟨s₂, h₂, h⟩ := Option.bind_eq_some_iff.mp h
  have hi : s₂.i = s.i := (append_i h₂).trans (append_i h₁)
  split at h
  · cases h
  next hmax =>
    obtain rfl := Option.some.inj h
    rw [toInt_succ hmax, hi]

end HexLoop

/-- The loop, where `i<length` compares as `size_t`. -/
def escapeDataLoop (theData : NSData) (length : UInt64) (s : HexLoop) : Option HexLoop :=
  if s.i.toInt64.toUInt64 < length then
    match _h : s.turn theData with
    | none => none
    | some s => escapeDataLoop theData length s
  else some s
termination_by (2 ^ 31 - s.i.toInt).toNat
decreasing_by
  have hi := HexLoop.turn_i _h
  have hlt := s.i.toInt_lt
  omega

/-- Everything before `stringWithUTF8String:`. -/
def escapeDataRun (theData : NSData) : Option HexLoop := do
  let length := theData.length.toUInt64
  let stringBuffer := List.replicate (length * 2 + 1).toNat none
  let s ← escapeDataLoop theData length ⟨0, 0, 0, stringBuffer⟩
  s.store 0

/-- What C reads of a buffer: the bytes before the first NUL, all of them written. -/
def terminated : List (Option UInt8) → Option (List UInt8)
  | some c :: z => if c = 0 then some [] else (terminated z).map (c :: ·)
  | _ => none

/-- The string `escapeData:` returns. -/
def escapeDataString (theData : NSData) : Option NSString := do
  let s ← escapeDataRun theData
  let bytes ← terminated s.stringBuffer
  stringWithUTF8String (cString bytes)

/-! ## What a turn writes -/

namespace HexLoop

/-- A character is written where nothing was. -/
theorem store_mk (i : Int32) (bytes : Nat) (before rest : List (Option UInt8)) (c : UInt8) :
    (HexLoop.mk i bytes before.length (before ++ none :: rest)).store c =
      some ⟨i, bytes, before.length, before ++ some c :: rest⟩ := by
  have hlt : before.length < (before ++ none :: rest).length := by
    rw [List.length_append, List.length_cons]
    omega
  rw [store, if_pos hlt, List.set_append_right _ _ le_rfl, Nat.sub_self, List.set_cons_zero]

theorem append_mk (i : Int32) (bytes : Nat) (before rest : List (Option UInt8)) (c : UInt8) :
    (HexLoop.mk i bytes before.length (before ++ none :: rest)).append c =
      some ⟨i, bytes, before.length + 1, before ++ some c :: rest⟩ := by
  rw [append, store_mk, Option.map_some]

/-- The two digits are those of `hexByte`. -/
theorem digit_eq (byte : UInt8) :
    ∃ high low, hexByte byte = [high, low] ∧
      digit ((byte.toInt8.toInt32 >>> 4) &&& 0xF) = some high.toUInt8 ∧
      digit (byte.toInt8.toInt32 &&& 0xF) = some low.toUInt8 := by
  have hall : ∀ n : Fin 256,
      (hexByte (.ofNat n)).map (fun u => some u.toUInt8) =
        [digit (((UInt8.ofNat n).toInt8.toInt32 >>> 4) &&& 0xF),
          digit ((UInt8.ofNat n).toInt8.toInt32 &&& 0xF)] := by decide +kernel
  have hbyte := hall ⟨byte.toNat, byte.toNat_lt⟩
  rw [UInt8.ofNat_toNat] at hbyte
  obtain ⟨hhigh, hlow⟩ := List.cons.inj hbyte
  exact ⟨_, _, rfl, hhigh.symm, (List.cons.inj hlow).1.symm⟩

/-- The bytes of a text in the buffer. -/
def characters (text : NSString) : List (Option UInt8) := (text.map UInt16.toUInt8).map some

/-- The locals after `k` turns: the digits of `k` bytes are written and nothing behind
them. -/
def written (theData : NSData) (k : Nat) : HexLoop where
  i := .ofNat k
  bytes := k
  hexBuffer := 2 * k
  stringBuffer := characters (escapeData (theData.take k)) ++
    List.replicate (2 * (theData.length - k) + 1) none

theorem length_characters_take {theData : NSData} {k : Nat} (hk : k ≤ theData.length) :
    (characters (escapeData (theData.take k))).length = 2 * k := by
  rw [characters, List.length_map, List.length_map, length_escapeData, List.length_take,
    Nat.min_eq_left hk]

/-- A turn, from what its statements give. -/
theorem turn_eq {theData : NSData} {s s₁ s₂ : HexLoop} {byte high low : UInt8}
    (hread : theData[s.bytes]? = some byte)
    (hhigh : digit ((byte.toInt8.toInt32 >>> 4) &&& 0xF) = some high)
    (hfirst : s.append high = some s₁)
    (hlow : digit (byte.toInt8.toInt32 &&& 0xF) = some low)
    (hsecond : s₁.append low = some s₂) (hmax : s₂.i ≠ Int32.maxValue) :
    s.turn theData = some { s₂ with bytes := s₂.bytes + 1, i := s₂.i + 1 } := by
  simp only [turn, hread, hhigh, hfirst, hlow, hsecond, Option.bind_eq_bind, Option.bind_some,
    if_neg hmax]

/-- One turn puts two digits behind those that are there. -/
theorem turn_written {theData : NSData} {k : Nat} (hk : k < theData.length)
    (hlength : theData.length < 2 ^ 31) :
    (written theData k).turn theData = some (written theData (k + 1)) := by
  obtain ⟨high, low, hbyte, hhigh, hlow⟩ := digit_eq theData[k]
  have hread : theData[(written theData k).bytes]? = some theData[k] := List.getElem?_eq_getElem hk
  have hfree : List.replicate (2 * (theData.length - k) + 1) (none : Option UInt8) =
      none :: none :: List.replicate (2 * (theData.length - (k + 1)) + 1) none := by
    rw [← List.replicate_succ, ← List.replicate_succ]
    congr 1
    omega
  have hpointer := length_characters_take (Nat.le_of_lt hk)
  let before := characters (escapeData (theData.take k))
  let free := List.replicate (2 * (theData.length - (k + 1)) + 1) (none : Option UInt8)
  have hfirst : (written theData k).append high.toUInt8 =
      some ⟨.ofNat k, k, 2 * k + 1, before ++ some high.toUInt8 :: none :: free⟩ := by
    have h := append_mk (.ofNat k) k before (none :: free) high.toUInt8
    rwa [hpointer, ← hfree] at h
  have hsecond := append_mk (.ofNat k) k (before ++ [some high.toUInt8]) free low.toUInt8
  rw [List.length_append, hpointer, List.append_assoc] at hsecond
  have hmax : Int32.ofNat k ≠ Int32.maxValue := by
    intro h
    have htoInt := congrArg Int32.toInt h
    rw [Int32.toInt_ofNat_of_lt (by omega), Int32.toInt_maxValue] at htoInt
    omega
  rw [turn_eq hread hhigh hfirst hlow hsecond hmax]
  have htext : characters (escapeData (theData.take (k + 1))) =
      characters (escapeData (theData.take k)) ++ [some high.toUInt8] ++ [some low.toUInt8] := by
    rw [List.take_succ_eq_append_getElem hk, escapeData, List.flatMap_append,
      List.flatMap_singleton, hbyte, characters, List.map_append, List.map_append,
      List.append_assoc]
    rfl
  rw [written, htext, Int32.ofNat_add, List.append_assoc _ [some low.toUInt8]]
  rfl

end HexLoop

open HexLoop

variable {theData : NSData}

/-- The comparison of the loop, for a counter that has not overflowed. -/
theorem counter_lt {k n : Nat} (hk : k < 2 ^ 31) (hn : n < 2 ^ 31) :
    (Int32.ofNat k).toInt64.toUInt64 < n.toUInt64 ↔ k < n := by
  have hwide : (Int32.ofNat k).toInt64 = Int64.ofNat k :=
    Int32.toInt64_ofNat' (by
      rw [Int32.toInt_maxValue]
      omega)
  rw [hwide, Int64.toUInt64_ofNat', UInt64.lt_iff_toNat_lt, Nat.toUInt64, UInt64.toNat_ofNat',
    UInt64.toNat_ofNat', Nat.mod_eq_of_lt (by omega), Nat.mod_eq_of_lt (by omega)]

/-- The loop, from `k` turns on, goes to the end of the data. -/
theorem escapeDataLoop_written (hlength : theData.length < 2 ^ 31) {k : Nat}
    (hk : k ≤ theData.length) :
    escapeDataLoop theData theData.length.toUInt64 (written theData k) =
      some (written theData theData.length) := by
  induction hleft : theData.length - k generalizing k with
  | zero =>
      obtain rfl : k = theData.length := by omega
      have hend : ¬ (written theData theData.length).i.toInt64.toUInt64 <
          theData.length.toUInt64 :=
        fun h => Nat.lt_irrefl _ ((counter_lt hlength hlength).mp h)
      rw [escapeDataLoop, if_neg hend]
  | succ left ih =>
      have hlt : k < theData.length := by omega
      have hmore : (written theData k).i.toInt64.toUInt64 < theData.length.toUInt64 :=
        (counter_lt (by omega) hlength).mpr hlt
      rw [escapeDataLoop, if_pos hmore]
      split
      next hnone => cases hnone.symm.trans (turn_written hlt hlength)
      next s hs =>
        obtain rfl := Option.some.inj (hs.symm.trans (turn_written hlt hlength))
        exact ih hlt (by omega)

/-- The allocation has two bytes for each of the data and one more. -/
theorem allocated (hlength : theData.length < 2 ^ 31) :
    (theData.length.toUInt64 * 2 + 1).toNat = 2 * theData.length + 1 := by
  have hone : UInt64.toNat 1 = 1 := rfl
  have htwo : UInt64.toNat 2 = 2 := rfl
  rw [UInt64.toNat_add, UInt64.toNat_mul, Nat.toUInt64, UInt64.toNat_ofNat', hone, htwo]
  omega

/-- The run ends, with the digits of the data and the terminator in the buffer. -/
theorem escapeDataRun_eq (hlength : theData.length < 2 ^ 31) :
    escapeDataRun theData = some { written theData theData.length with
      stringBuffer := characters (escapeData theData) ++ [some 0] } := by
  have hstart : HexLoop.mk 0 0 0 (List.replicate (theData.length.toUInt64 * 2 + 1).toNat none) =
      written theData 0 := by
    rw [allocated hlength]
    rfl
  have hpointer : (characters (escapeData (theData.take theData.length))).length =
      2 * theData.length := length_characters_take le_rfl
  have hend := store_mk (.ofNat theData.length) theData.length
    (characters (escapeData (theData.take theData.length))) [] 0
  rw [hpointer, List.take_length] at hend
  rw [escapeDataRun, hstart, escapeDataLoop_written hlength (Nat.zero_le _), Option.bind_eq_bind,
    Option.bind_some, written, List.take_length, Nat.sub_self]
  exact hend

/-! ## Reading the digits back -/

/-- The value of a digit. -/
def hexValue (c : UInt8) : Option Nat := (hexdigits.map UInt16.toUInt8).idxOf? c

/-- The bytes that pairs of digits stand for, the high digit first. -/
def decodePairs : List UInt8 → Option NSData
  | [] => some []
  | high :: low :: z => do
      let h ← hexValue high
      let l ← hexValue low
      let rest ← decodePairs z
      return UInt8.ofNat (16 * h + l) :: rest
  | [_] => none

theorem decodePairs_hexByte (byte : UInt8) (z : List UInt8) :
    decodePairs ((hexByte byte).map UInt16.toUInt8 ++ z) = (decodePairs z).map (byte :: ·) := by
  have hall : ∀ n : Fin 256,
      decodePairs ((hexByte (.ofNat n)).map UInt16.toUInt8) = some [.ofNat n] := by decide +kernel
  have hbyte := hall ⟨byte.toNat, byte.toNat_lt⟩
  rw [UInt8.ofNat_toNat] at hbyte
  obtain ⟨h, hh, hbyte⟩ := Option.bind_eq_some_iff.mp hbyte
  obtain ⟨l, hl, hbyte⟩ := Option.bind_eq_some_iff.mp hbyte
  obtain ⟨heq, -⟩ := List.cons.inj (Option.some.inj hbyte)
  simp only [hexByte, List.map_cons, List.map_nil, List.cons_append, List.nil_append, decodePairs,
    hh, hl, Option.bind_eq_bind, Option.bind_some, heq]
  cases decodePairs z <;> rfl

theorem decodePairs_escapeData (theData : NSData) :
    decodePairs ((escapeData theData).map UInt16.toUInt8) = some theData := by
  induction theData with
  | nil => rfl
  | cons byte theData ih =>
      rw [escapeData, List.flatMap_cons, List.map_append, decodePairs_hexByte]
      exact congrArg (Option.map (byte :: ·)) ih

/-! ## The string -/

/-- A text that ends in the terminator is read up to it. -/
theorem terminated_append {bytes : List UInt8} (h : 0 ∉ bytes) :
    terminated (bytes.map some ++ [some 0]) = some bytes := by
  induction bytes with
  | nil => rfl
  | cons c bytes ih =>
      have hc : c ≠ 0 := fun heq => h (heq ▸ List.mem_cons_self)
      rw [List.map_cons, List.cons_append, terminated, if_neg hc,
        ih fun hmem => h (List.mem_cons_of_mem _ hmem)]
      rfl

theorem IsHexDigit.ne_zero {c : UInt8} (hc : IsHexDigit c) : c ≠ 0 := by
  rintro rfl
  rcases hc with h | h
  · exact absurd h.1 (by decide)
  · exact absurd h.1 (by decide)

theorem isHexDigit_bytes (theData : NSData) :
    ∀ c ∈ (escapeData theData).map UInt16.toUInt8, IsHexDigit c := by
  intro c hc
  obtain ⟨u, hu, rfl⟩ := List.mem_map.mp hc
  exact isHexDigit_escapeData theData u hu

/-- The method returns what `escapeData` says. -/
theorem escapeDataString_eq (hlength : theData.length < 2 ^ 31) :
    escapeDataString theData = some (escapeData theData) := by
  have hzero : 0 ∉ (escapeData theData).map UInt16.toUInt8 :=
    fun hmem => (isHexDigit_bytes theData 0 hmem).ne_zero rfl
  have hread : terminated (characters (escapeData theData) ++ [some 0]) =
      some ((escapeData theData).map UInt16.toUInt8) := terminated_append hzero
  have hstring : stringWithUTF8String (cString ((escapeData theData).map UInt16.toUInt8)) =
      some (escapeData theData) := by
    rw [stringWithUTF8String, (cString_val_eq_self_iff _).mpr hzero]
    exact Unicode.ofUtf8_of_toUtf8 (Unicode.toUtf8_ascii (MGMLiteConnection.ascii_escapeData _))
  simp only [escapeDataString, escapeDataRun_eq hlength, Option.bind_eq_bind, Option.bind_some,
    hread, hstring]

/-- For data of fewer than 2^31 bytes the run stays inside the data and the buffer, fills
the buffer with two digits for each byte and the terminator, and the digits, the high one
first, stand for the data.  So no other data has the same text. -/
theorem escapeData_exact (theData : NSData) (hlength : theData.length < 2 ^ 31) :
    (∃ s digits, escapeDataRun theData = some s ∧
      s.stringBuffer = digits.map some ++ [some 0] ∧
      s.hexBuffer = 2 * theData.length ∧ digits.length = 2 * theData.length ∧
      s.stringBuffer.length = 2 * theData.length + 1 ∧
      (∀ c ∈ digits, IsHexDigit c) ∧ decodePairs digits = some theData) ∧
    escapeDataString theData = some (escapeData theData) ∧
    ∀ other : NSData, other.length < 2 ^ 31 →
      escapeDataString other = escapeDataString theData → other = theData := by
  have hdigits : ((escapeData theData).map UInt16.toUInt8).length = 2 * theData.length := by
    rw [List.length_map, length_escapeData]
  refine ⟨⟨_, (escapeData theData).map UInt16.toUInt8, escapeDataRun_eq hlength, rfl, rfl, hdigits,
    ?_, isHexDigit_bytes theData, decodePairs_escapeData theData⟩,
    escapeDataString_eq hlength, ?_⟩
  · rw [characters, List.length_append, List.length_map, hdigits]
    rfl
  · intro other hother h
    rw [escapeDataString_eq hother, escapeDataString_eq hlength] at h
    have hdecode := decodePairs_escapeData other
    rw [Option.some.inj h, decodePairs_escapeData] at hdecode
    exact (Option.some.inj hdecode).symm

/-- Bytes with the sign bit. -/
theorem escapeData_exact_signed :
    ([0x80, 0xFF, 0x0A] : NSData).length < 2 ^ 31 ∧
      escapeDataString [0x80, 0xFF, 0x0A] = some (lit "80FF0A") := by
  have hlength : ([0x80, 0xFF, 0x0A] : NSData).length < 2 ^ 31 := by decide
  refine ⟨hlength, ?_⟩
  rw [(escapeData_exact [0x80, 0xFF, 0x0A] hlength).2.1]
  decide

end MGMDB
