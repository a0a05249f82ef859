import MGMDB.LiteResult.Rows
import MGMDB.SQLite.Literal

/-!
# Values from SQLite

What `objectAtColumn:` makes of a value, compared with the value.  A text is read
as a C string and so up to its first NUL, although SQLite knows its length.  An
empty blob becomes nil and, in the end, `NSNull`, although `quoteObject:` writes
empty data as the blob `X''`.  `objectAtColumn_represents_iff` says that nothing
else is lost.
-/

namespace MGMDB

namespace MGMLiteResult

open SQLite

/-- The object has all of the value: NULL, the number, the text or the bytes. -/
def Represents : Value → Obj → Prop
  | .null, o => o = .null
  | .integer v, o => o = .number (.signed v.toInt)
  | .float bits, o => o = .number (.double bits)
  | .text bytes, o => ∃ s, o = .string s ∧ UTF8String s = some bytes
  | .blob bytes, o => o = .data bytes

/-- Texts are UTF-8. -/
def Utf8 : Value → Prop
  | .text bytes => (Unicode.ofUtf8 bytes).isSome = true
  | _ => True

/-- The values `objectAtColumn:` reads in full. -/
def Readable : Value → Prop
  | .text bytes => 0 ∉ bytes
  | .blob bytes => bytes ≠ []
  | _ => True

/-- The objects `quoteObject:` writes a literal for that a C string can carry:
data, and strings of paired surrogates without U+0000. -/
def Writable : Obj → Prop
  | .string s => ∃ bytes, UTF8String s = some bytes ∧ 0 ∉ bytes
  | .data _ => True
  | _ => False

theorem represents_text_iff {bytes : List UInt8}
    (hutf8 : (Unicode.ofUtf8 bytes).isSome = true) :
    Represents (.text bytes) (objectAtColumn (.text bytes)) ↔ 0 ∉ bytes := by
  have hholds := holds_text_iff bytes
  rw [and_iff_left hutf8] at hholds
  rw [← hholds, objectAtColumn, stringAtColumn]
  cases stringWithUTF8String (cString bytes) with
  | none => simp [Represents, Obj.Holds]
  | some s => simp [Represents, Obj.Holds]

theorem represents_blob_iff (bytes : NSData) :
    Represents (.blob bytes) (objectAtColumn (.blob bytes)) ↔ bytes ≠ [] := by
  cases bytes with
  | nil => simp [objectAtColumn, dataAtColumn, Represents]
  | cons b bytes => simp [objectAtColumn, dataAtColumn, Represents]

/-- What comes back for the literal of an object. -/
def readBack (F : Foundation) (o : Obj) : Option Obj :=
  (UTF8String (MGMLiteConnection.quoteObject F (some o))).bind fun literal =>
    (literalValue literal).map objectAtColumn

theorem readBack_string (F : Foundation) {s : NSString} {bytes : List UInt8}
    (hs : UTF8String s = some bytes) (hz : 0 ∉ bytes) :
    readBack F (.string s) = some (.string s) := by
  obtain ⟨literal, hliteral, hvalue⟩ := MGMLiteConnection.literalValue_quoteObject_string F hs
  rw [readBack, hliteral, Option.bind_some, hvalue, Option.map_some, objectAtColumn,
    stringAtColumn, stringWithUTF8String, (cString_val_eq_self_iff bytes).mpr hz,
    Unicode.ofUtf8_of_toUtf8 hs]
  rfl

theorem readBack_data (F : Foundation) (bytes : NSData) :
    readBack F (.data bytes) = some (objectAtColumn (.blob bytes)) := by
  obtain ⟨literal, hliteral, hvalue⟩ := MGMLiteConnection.literalValue_quoteObject_data F bytes
  rw [readBack, hliteral, Option.bind_some, hvalue, Option.map_some]

/-- A value is read in full unless it is an empty blob or a text with a NUL in it,
and what `quoteObject:` writes is read back equal unless it is empty data. -/
theorem objectAtColumn_represents_iff (F : Foundation) :
    (∀ v, Utf8 v → (Represents v (objectAtColumn v) ↔ Readable v)) ∧
      ∀ o, Writable o → (readBack F o = some o ↔ o ≠ .data []) := by
  constructor
  · intro v hv
    cases v with
    | null => exact iff_of_true rfl trivial
    | integer v => exact iff_of_true rfl trivial
    | float bits => exact iff_of_true rfl trivial
    | text bytes => exact represents_text_iff hv
    | blob bytes => exact represents_blob_iff bytes
  · intro o ho
    cases o with
    | string s =>
        obtain ⟨bytes, hs, hz⟩ := ho
        exact iff_of_true (readBack_string F hs hz) (by simp)
    | data bytes =>
        have hblob := represents_blob_iff bytes
        rw [readBack_data, Option.some.injEq, ne_eq, Obj.data.injEq]
        exact hblob
    | _ => exact ho.elim

/-- The text `a` is read in full, and the data `00FF` comes back. -/
theorem objectAtColumn_represents_some :
    Represents (.text [0x61]) (objectAtColumn (.text [0x61])) ∧
      readBack default (.data [0, 0xFF]) = some (.data [0, 0xFF]) := by
  have hutf8 : (Unicode.ofUtf8 [0x61]).isSome = true := by decide +kernel
  have hz : (0 : UInt8) ∉ [0x61] := by decide
  obtain ⟨hvalue, hobject⟩ := objectAtColumn_represents_iff default
  exact ⟨(hvalue (.text [0x61]) hutf8).mpr hz,
    (hobject (.data [0, 0xFF]) trivial).mpr (by simp)⟩

/-- An empty blob becomes `NSNull`. -/
theorem not_objectAtColumn_represents :
    ¬ ∀ v, Utf8 v → Represents v (objectAtColumn v) := by
  intro h
  have hempty := h (.blob []) trivial
  exact absurd hempty (by simp [objectAtColumn, dataAtColumn, Represents])

end MGMLiteResult

end MGMDB
