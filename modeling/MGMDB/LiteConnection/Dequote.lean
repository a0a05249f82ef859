import MGMDB.Codec
import MGMDB.Exchanges

/-!
# Reading a string literal back

`escapeString:` of the SQLite class doubles the apostrophes of a string, and `dequoted`
takes a literal apart again: the outer apostrophes go, and of two in the text one stays.
The encoder writes one unit at a time and the reader looks one unit ahead, since only
the next unit tells a doubled apostrophe from the closing one.  `string_roundTrip` has
both directions, and the same for the bytes SQLite gets.
-/

namespace MGMDB

namespace MGMLiteConnection

/-! ## Units -/

/-- The text up to an apostrophe that is not doubled, which has to be the last unit. -/
def undoubled : NSString → Option NSString
  | [] => none
  | [c] => if c = 0x27 then some [] else none
  | c :: d :: z =>
      if c = 0x27 then
        if d = 0x27 then (undoubled z).map (0x27 :: ·) else none
      else (undoubled (d :: z)).map (c :: ·)

/-- The string a literal stands for, if it is one literal from end to end. -/
def dequoted : NSString → Option NSString
  | [] => none
  | c :: z => if c = 0x27 then undoubled z else none

theorem undoubled_plain {c : unichar} (hc : c ≠ 0x27) (z : NSString) :
    undoubled (c :: z) = (undoubled z).map (c :: ·) := by
  cases z with
  | nil => simp [undoubled, hc]
  | cons d z => rw [undoubled, if_neg hc]

theorem undoubled_doubled (z : NSString) :
    undoubled (0x27 :: 0x27 :: z) = (undoubled z).map (0x27 :: ·) := by
  rw [undoubled, if_pos rfl, if_pos rfl]

/-- What the loop writes for one unit is read as that unit. -/
theorem undoubled_escapeCharacter (c : unichar) (rest : NSString) :
    undoubled (escapeCharacter c ++ rest) = (undoubled rest).map ([c] ++ ·) := by
  by_cases hc : c = 0x27
  · subst hc
    exact undoubled_doubled rest
  · rw [escapeCharacter, if_neg hc]
    exact undoubled_plain hc rest

theorem dequoted_quoteObject (F : Foundation) (s : NSString) :
    dequoted (quoteObject F (some (.string s))) = some s := by
  have hclosing : undoubled (lit "'") = some [] := rfl
  have hread : undoubled (s.flatMap escapeCharacter ++ lit "'") =
      some (s.flatMap (fun c => [c]) ++ []) :=
    Codec.read_flatMap hclosing fun c _ rest => undoubled_escapeCharacter c rest
  have hopening : quoteObject F (some (.string s)) =
      0x27 :: (s.flatMap escapeCharacter ++ lit "'") := by
    rw [quoteObject, quoteObjectWith, escapeString_eq]
    rfl
  rw [hopening, dequoted, if_pos rfl, hread, List.flatMap_singleton', List.append_nil]

/-! ## Bytes -/

open SQLite Unicode

/-- Strings with the same UTF-8 form are the same. -/
theorem eq_of_UTF8String {s s' : NSString} {bytes : List UInt8} (h : UTF8String s = some bytes)
    (h' : UTF8String s' = some bytes) : s = s' :=
  Option.some.inj ((ofUtf8_of_toUtf8 h).symm.trans (ofUtf8_of_toUtf8 h'))

/-- A literal of a string has one value, the bytes of that string. -/
theorem UTF8String_eq_of_quoteObject {F : Foundation} {s s' : NSString} (hs : Paired s)
    (hs' : Paired s')
    (h : UTF8String (quoteObject F (some (.string s))) =
      UTF8String (quoteObject F (some (.string s')))) : UTF8String s = UTF8String s' := by
  obtain ⟨bytes, hbytes⟩ := Option.isSome_iff_exists.mp hs
  obtain ⟨bytes', hbytes'⟩ := Option.isSome_iff_exists.mp hs'
  obtain ⟨literal, hliteral, hvalue⟩ := literalValue_quoteObject_string F hbytes
  obtain ⟨literal', hliteral', hvalue'⟩ := literalValue_quoteObject_string F hbytes'
  obtain rfl := Option.some.inj (hliteral.symm.trans (h.trans hliteral'))
  have htext : Value.text bytes = Value.text bytes' := Option.some.inj (hvalue.symm.trans hvalue')
  have hsame : bytes = bytes' := Value.text.inj htext
  rw [hsame] at hbytes
  exact hbytes.trans hbytes'.symm

/-- Both paths of `escapeString:` write the same, the literal stands for the string, as
units and as bytes, and two strings never share one. -/
theorem string_roundTrip (F : Foundation) {s : NSString} (hs : Query.WellFormed s) :
    escapeString s = s.flatMap escapeCharacter ∧
    dequoted (quoteObject F (some (.string s))) = some s ∧
    (∃ bytes literal, UTF8String s = some bytes ∧
      UTF8String (quoteObject F (some (.string s))) = some literal ∧
      literalValue literal = some (.text bytes)) ∧
    ∀ s', Query.WellFormed s' →
      UTF8String (quoteObject F (some (.string s))) =
        UTF8String (quoteObject F (some (.string s'))) → s = s' := by
  obtain ⟨bytes, hbytes⟩ := Option.isSome_iff_exists.mp hs.paired
  obtain ⟨literal, hliteral, hvalue⟩ := literalValue_quoteObject_string F hbytes
  refine ⟨escapeString_eq s, dequoted_quoteObject F s,
    ⟨bytes, literal, hbytes, hliteral, hvalue⟩, ?_⟩
  intro s' hs' h
  have hutf8 := UTF8String_eq_of_quoteObject hs.paired hs'.paired h
  exact eq_of_UTF8String hbytes (hutf8.symm.trans hbytes)

/-- Apostrophes at both ends and two in a row. -/
theorem string_roundTrip_apostrophes :
    Query.WellFormed (lit "'it''s'") ∧
      dequoted (quoteObject default (some (.string (lit "'it''s'")))) = some (lit "'it''s'") := by
  have hs : Query.WellFormed (lit "'it''s'") := ⟨by decide, rfl⟩
  exact ⟨hs, (string_roundTrip default hs).2.1⟩

end MGMLiteConnection

end MGMDB
