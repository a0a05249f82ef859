import MGMDB.Foundation

/-!
# Quoting values

`quoteObject:` turns an object into the text of an SQL literal.  The two
connection classes share it but for `escapeString:`.  The MySQL class puts a
backslash before quotes, backslashes and some other characters, the SQLite class
doubles the apostrophe.  Both leave a string alone that has no member of their
escape set.
-/

namespace MGMDB

/-! ## Data -/

/-- `static const char hexdigits[]`. -/
def hexdigits : NSString := lit "0123456789ABCDEF"

/-- The two digits of one byte.  `char` is signed, so the shift is arithmetic,
and the mask drops the sign bits again. -/
def hexByte (byte : UInt8) : NSString :=
  let char := byte.toInt8
  [hexdigits.getD ((char >>> 4) &&& 0xF).toNatClampNeg 0,
    hexdigits.getD (char &&& 0xF).toNatClampNeg 0]

/-- `escapeData:` of both connection classes, for data of fewer than 2^31 bytes.
Beyond that the `int` counter of the loop overflows. -/
def escapeData (theData : NSData) : NSString := theData.flatMap hexByte

/-! ## Objects -/

/-- `quoteObject:` around a class's own `escapeString:`. -/
def quoteObjectWith (escapeString : NSString → NSString) (F : Foundation) :
    Option Obj → NSString
  | none => lit "NULL"
  | some .null => lit "NULL"
  | some (.data d) => lit "X'" ++ escapeData d ++ lit "'"
  | some (.string s) => lit "'" ++ escapeString s ++ lit "'"
  | some (.number n) => F.description (.number n)
  | some (.calendarDate d zone) =>
      lit "'" ++ F.descriptionWithCalendarFormat d zone (lit "%Y-%m-%d %H:%M:%S") ++ lit "'"
  | some (.date d) => lit "'" ++ escapeString (F.description (.date d)) ++ lit "'"
  | some (.other description) =>
      lit "'" ++ escapeString (F.description (.other description)) ++ lit "'"

/-! ## MGMMyConnection -/

namespace MGMMyConnection

/-- The characters `'`, `"` and `\`. -/
def escapeSet (c : unichar) : Bool := c = 0x27 || c = 0x22 || c = 0x5C

/-- `%04x` of a code unit. -/
def hex4 (character : unichar) : NSString :=
  [12, 8, 4, 0].map fun shift =>
    (lit "0123456789abcdef").getD ((character.toNat >>> shift) &&& 0xF) 0

/-- The switch of `escapeString:`. -/
def escapeCharacter (character : unichar) : NSString :=
  if character = 0x30 then lit "\\0"        -- the digit, not NUL
  else if character = 0x27 then lit "\\'"
  else if character = 0x22 then lit "\\\""
  else if character = 0x5C then lit "\\\\"
  else if character = 0x0A then lit "\\n"
  else if character = 0x0D then lit "\\r"
  else if character < 0x20 then lit "\\u" ++ hex4 character
  else [character]

/-- `escapeString:`, with its path for strings that need no escape. -/
def escapeString (theString : NSString) : NSString :=
  match rangeOfCharacterFromSet theString escapeSet with
  | none => theString
  | some _ => theString.flatMap escapeCharacter

/-- `quoteObject:`. -/
def quoteObject (F : Foundation) (theObject : Option Obj) : NSString :=
  quoteObjectWith escapeString F theObject

/-- `quoteChar:`.  Bytes that are not UTF-8 become nil, and nil becomes `NULL`. -/
def quoteChar (F : Foundation) (theChar : CString) : NSString :=
  quoteObject F ((stringWithUTF8String theChar).map .string)

end MGMMyConnection

/-! ## MGMLiteConnection -/

namespace MGMLiteConnection

/-- The apostrophe. -/
def escapeSet (c : unichar) : Bool := c = 0x27

/-- The switch of `escapeString:`. -/
def escapeCharacter (character : unichar) : NSString :=
  if character = 0x27 then lit "''" else [character]

/-- `escapeString:`, with its path for strings that need no escape. -/
def escapeString (theString : NSString) : NSString :=
  match rangeOfCharacterFromSet theString escapeSet with
  | none => theString
  | some _ => theString.flatMap escapeCharacter

/-- `quoteObject:`. -/
def quoteObject (F : Foundation) (theObject : Option Obj) : NSString :=
  quoteObjectWith escapeString F theObject

/-- `quoteChar:`. -/
def quoteChar (F : Foundation) (theChar : CString) : NSString :=
  quoteObject F ((stringWithUTF8String theChar).map .string)

end MGMLiteConnection

end MGMDB
