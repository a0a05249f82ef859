import MGMDB.Quote
import MGMDB.SQLite.Vdbe

/-!
# SQLite literals

The value of a string or blob literal, as the code generator of SQLite finds it:
`sqlite3Dequote` undoubles the apostrophes of a string, `sqlite3HexToBlob` packs
the digits of a blob.  `literalValue_quoteObject_string` and
`literalValue_quoteObject_data` say that the literals of `quoteObject:` have the
values they were made from.
-/

namespace MGMDB

namespace SQLite

/-! ## Reading a literal -/

/-- `sqlite3Dequote`, behind the opening quote. -/
def sqlite3Dequote (quote : UInt8) : List UInt8 → List UInt8
  | [] => []
  | [c] => if c = quote then [] else [c]
  | c :: d :: z =>
      if c = quote then
        if d = quote then quote :: sqlite3Dequote quote z else []
      else c :: sqlite3Dequote quote (d :: z)

/-- `hexToInt`, where bit 6 tells a letter from a digit. -/
def hexToInt (h : UInt8) : UInt8 :=
  let bit : UInt8 := (h >>> 6) &&& 1
  (h + 9 * bit) &&& 0xF

/-- `sqlite3HexToBlob`. -/
def sqlite3HexToBlob : List UInt8 → NSData
  | a :: b :: z => ((hexToInt a <<< 4) ||| hexToInt b) :: sqlite3HexToBlob z
  | _ => []

/-- The value of a string or blob literal. -/
def literalValue : List UInt8 → Option Value
  | [] => none
  | 0x27 :: z => some (.text (sqlite3Dequote 0x27 z))
  | x :: z =>
      if (x = 0x78 ∨ x = 0x58) ∧ z.head? = some 0x27 then
        some (.blob (sqlite3HexToBlob z.tail.dropLast))
      else none

theorem sqlite3Dequote_doubled (quote : UInt8) (z : List UInt8) :
    sqlite3Dequote quote (quote :: quote :: z) = quote :: sqlite3Dequote quote z := by
  rw [sqlite3Dequote, if_pos rfl, if_pos rfl]

theorem sqlite3Dequote_plain {quote c : UInt8} (hc : c ≠ quote) (z : List UInt8) :
    sqlite3Dequote quote (c :: z) = c :: sqlite3Dequote quote z := by
  cases z with
  | nil => simp [sqlite3Dequote, hc]
  | cons d z => rw [sqlite3Dequote, if_neg hc]

theorem sqlite3Dequote_plain_append {quote : UInt8} {a : List UInt8} (ha : ∀ c ∈ a, c ≠ quote)
    (z : List UInt8) : sqlite3Dequote quote (a ++ z) = a ++ sqlite3Dequote quote z := by
  induction a with
  | nil => rfl
  | cons c a ih =>
      rw [List.cons_append, sqlite3Dequote_plain (ha c List.mem_cons_self),
        ih fun d hd => ha d (List.mem_cons_of_mem _ hd)]
      rfl

end SQLite

namespace MGMLiteConnection

open SQLite

/-! ## Strings -/

/-- The path for strings without an apostrophe gives what the loop would give. -/
theorem escapeString_eq (s : NSString) : escapeString s = s.flatMap escapeCharacter := by
  rw [escapeString]
  split
  next h =>
    have hplain := rangeOfCharacterFromSet_eq_none.mp h
    have hid : ∀ c ∈ s, escapeCharacter c = [c] := by
      intro c hc
      have := hplain c hc
      rw [escapeSet, decide_eq_false_iff_not] at this
      rw [escapeCharacter, if_neg this]
    rw [List.flatMap_congr hid, List.flatMap_singleton']
  next => rfl

/-- The bytes before and after the doubling of apostrophes. -/
def Doubled (bytes bytes' : List UInt8) : Prop :=
  ∀ z, sqlite3Dequote 0x27 (bytes' ++ z) = bytes ++ sqlite3Dequote 0x27 z

theorem rewriting_escapeCharacter : Unicode.Rewriting escapeCharacter Doubled where
  nil _ := rfl
  append ha hb z := by rw [List.append_assoc, ha, hb, List.append_assoc]
  wide h z := sqlite3Dequote_plain_append (fun c hc heq => by
    have := h c hc
    rw [heq] at this
    exact absurd this (by decide)) z
  wide_unit h := if_neg fun heq => absurd (heq ▸ h) (by decide)

theorem ascii_escapeCharacter {u : unichar} (hu : u < 0x80) :
    Unicode.Rewriting.Ascii escapeCharacter Doubled u := by
  have hn : u.toNat < 0x80 := UInt16.lt_iff_toNat_lt.mp hu
  by_cases hq : u = 0x27
  · subst hq
    exact ⟨by simp [escapeCharacter, lit], fun z => sqlite3Dequote_doubled 0x27 z⟩
  · rw [Unicode.Rewriting.Ascii, escapeCharacter, if_neg hq]
    refine ⟨by simpa using hu, fun z => ?_⟩
    have hne : u.toUInt8 ≠ 0x27 := by
      intro heq
      have h8 := congrArg UInt8.toNat heq
      rw [UInt16.toNat_toUInt8, Nat.mod_eq_of_lt (by omega)] at h8
      exact hq (UInt16.toNat_inj.mp h8)
    exact sqlite3Dequote_plain hne z

/-- A string literal has the bytes of the string as its value. -/
theorem literalValue_quoteObject_string (F : Foundation) {s : NSString} {bytes : List UInt8}
    (h : UTF8String s = some bytes) :
    ∃ literal, UTF8String (quoteObject F (some (.string s))) = some literal ∧
      literalValue literal = some (.text bytes) := by
  obtain ⟨body, hbody, hdoubled⟩ :=
    rewriting_escapeCharacter.holds s (fun u _ hu => ascii_escapeCharacter hu) h
  have hquote : ∀ v ∈ (lit "'").head?, Unicode.isLow v = false := by
    intro v hv
    cases hv
    rfl
  refine ⟨0x27 :: (body ++ [0x27]), ?_, ?_⟩
  · rw [quoteObject, quoteObjectWith, escapeString_eq, List.append_assoc, UTF8String,
      Unicode.toUtf8_ascii_append (by simp [lit]), Unicode.toUtf8_append _ hquote, hbody]
    rfl
  · rw [literalValue, hdoubled]
    simp [sqlite3Dequote]

/-! ## Data -/

theorem hexByte_ofNat : ∀ n : Fin 256,
    (hexByte (UInt8.ofNat n)).all (· < 0x80) = true ∧
      sqlite3HexToBlob ((hexByte (UInt8.ofNat n)).map UInt16.toUInt8) = [UInt8.ofNat n] := by
  decide +kernel

/-- Two digits are read back as the byte they stand for. -/
theorem hexToBlob_hexByte (byte : UInt8) (z : List UInt8) :
    sqlite3HexToBlob ((hexByte byte).map UInt16.toUInt8 ++ z) = byte :: sqlite3HexToBlob z := by
  have h := (hexByte_ofNat ⟨byte.toNat, byte.toNat_lt⟩).2
  simp only [UInt8.ofNat_toNat, hexByte, List.map_cons, List.map_nil, sqlite3HexToBlob,
    List.cons.injEq, and_true] at h
  simp only [hexByte, List.map_cons, List.map_nil, List.cons_append, List.nil_append,
    sqlite3HexToBlob, h]

theorem ascii_escapeData (theData : NSData) : ∀ u ∈ escapeData theData, u < 0x80 := by
  intro u hu
  obtain ⟨byte, -, hu⟩ := List.mem_flatMap.mp hu
  have h := (hexByte_ofNat ⟨byte.toNat, byte.toNat_lt⟩).1
  rw [UInt8.ofNat_toNat] at h
  simpa using List.all_eq_true.mp h u hu

theorem hexToBlob_escapeData (theData : NSData) :
    sqlite3HexToBlob ((escapeData theData).map UInt16.toUInt8) = theData := by
  induction theData with
  | nil => rfl
  | cons byte theData ih =>
      rw [escapeData, List.flatMap_cons, List.map_append, hexToBlob_hexByte]
      exact congrArg (byte :: ·) ih

/-- A blob literal has the bytes of the data as its value. -/
theorem literalValue_quoteObject_data (F : Foundation) (theData : NSData) :
    ∃ literal, UTF8String (quoteObject F (some (.data theData))) = some literal ∧
      literalValue literal = some (.blob theData) := by
  refine ⟨0x58 :: 0x27 :: ((escapeData theData).map UInt16.toUInt8 ++ [0x27]), ?_, ?_⟩
  · rw [quoteObject, quoteObjectWith, List.append_assoc, UTF8String,
      Unicode.toUtf8_ascii_append (by simp [lit]),
      Unicode.toUtf8_ascii_append (ascii_escapeData theData)]
    rfl
  · simp [literalValue, hexToBlob_escapeData]

end MGMLiteConnection

end MGMDB
