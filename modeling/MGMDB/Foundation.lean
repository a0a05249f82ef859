import Mathlib.Data.List.TakeWhile
import MGMDB.Unicode

/-!
# Foundation

The Cocoa values the program handles.  An `NSString` is the list of its UTF-16
code units, surrogates paired or not, an `NSData` the list of its bytes, and a C
string the bytes before its terminator.

What the program calls in Foundation and in the C library and does not contain
is a field of `Foundation`: how objects and numbers print, which units are
decimal digits, how dates and floating-point numbers are read.  Strings and
integers print as themselves, so `Foundation.describe` is asked for the other
objects only.
-/

namespace MGMDB

/-! ## Strings and data -/

/-- A UTF-16 code unit. -/
abbrev unichar := UInt16

/-- A counted string of code units. -/
abbrev NSString := List unichar

/-- A counted byte buffer. -/
abbrev NSData := List UInt8

/-- A `@"..."` literal of ASCII characters. -/
def lit (s : String) : NSString := s.toList.map fun c => UInt16.ofNat c.toNat

/-- The bytes of a `const char *` before its terminator. -/
abbrev CString := { bytes : List UInt8 // (0 : UInt8) ∉ bytes }

/-- What C reads of a buffer: everything before the first NUL. -/
def cString (buffer : List UInt8) : CString :=
  ⟨buffer.takeWhile (· ≠ 0), fun h => by simpa using List.mem_takeWhile_imp h⟩

/-- `rangeOfCharacterFromSet:`, the location of the first member of the set. -/
def rangeOfCharacterFromSet (s : NSString) (set : unichar → Bool) : Option Nat := s.findIdx? set

/-- `stringWithUTF8String:` and `stringWithCString:encoding:` for UTF-8.  The
result is nil when the bytes are not valid in the encoding. -/
def stringWithUTF8String (theBytes : CString) : Option NSString := Unicode.ofUtf8 theBytes.val

/-- `UTF8String` and `cStringUsingEncoding:` for UTF-8, before the C reader cuts
it at the first NUL. -/
def UTF8String (s : NSString) : Option (List UInt8) := Unicode.toUtf8 s

theorem rangeOfCharacterFromSet_eq_none {s : NSString} {set : unichar → Bool} :
    rangeOfCharacterFromSet s set = none ↔ ∀ c ∈ s, set c = false := by
  simp [rangeOfCharacterFromSet]

/-! ## Objects -/

/-- A time zone, known by its name. -/
structure NSTimeZone where
  name : NSString
deriving DecidableEq, Repr

/-- An instant, in whole seconds since the reference date. -/
structure NSDate where
  seconds : Int
deriving DecidableEq, Repr

/-- A number object, by the kind of constructor that made it.  Floating-point
values are their bits, and `none` is the decimal `notANumber`. -/
inductive NSNumber where
  | signed (v : Int)
  | unsigned (v : Nat)
  | float (bits : UInt32)
  | double (bits : UInt64)
  | decimal (v : Option Rat)
deriving DecidableEq

/-- An object that is not nil.  A `date` is an `NSDate` that is no
`NSCalendarDate`, and `other` is any further object, by its description. -/
inductive Obj where
  | null
  | data (bytes : NSData)
  | string (s : NSString)
  | number (n : NSNumber)
  | date (d : NSDate)
  | calendarDate (d : NSDate) (zone : NSTimeZone)
  | other (description : NSString)
deriving DecidableEq

/-! ## Contents -/

/-- An object whose contents are the given bytes: data, or a string by its
UTF-8 form. -/
def Obj.Holds (bytes : NSData) : Obj → Prop
  | .string s => UTF8String s = some bytes
  | .data d => d = bytes
  | _ => False

/-- Only a value with a NUL in it is cut. -/
theorem cString_val_eq_self_iff (bytes : NSData) : (cString bytes).val = bytes ↔ 0 ∉ bytes := by
  constructor
  · intro h hz
    rw [← h] at hz
    exact (cString bytes).property hz
  · intro hz
    refine List.takeWhile_eq_self_iff.mpr ?_
    intro b hb
    have hne : b ≠ 0 := by
      rintro rfl
      exact hz hb
    simpa using hne

/-- A string read from a value has the bytes of its C string. -/
theorem holds_string_iff {bytes : NSData} {s : NSString}
    (h : stringWithUTF8String (cString bytes) = some s) :
    (Obj.string s).Holds bytes ↔ 0 ∉ bytes := by
  have hs : UTF8String s = some (cString bytes).val := Unicode.toUtf8_of_ofUtf8 h
  rw [Obj.Holds, hs, Option.some.injEq, cString_val_eq_self_iff]

theorem holds_text_iff (bytes : NSData) :
    (((stringWithUTF8String (cString bytes)).map Obj.string).getD .null).Holds bytes ↔
      0 ∉ bytes ∧ (Unicode.ofUtf8 bytes).isSome = true := by
  cases h : stringWithUTF8String (cString bytes) with
  | none =>
      simp only [Option.map_none, Option.getD_none, Obj.Holds, false_iff, not_and]
      intro hz hsome
      rw [stringWithUTF8String, (cString_val_eq_self_iff bytes).mpr hz] at h
      simp [h] at hsome
  | some s =>
      rw [Option.map_some, Option.getD_some, holds_string_iff h, iff_self_and]
      intro hz
      rw [stringWithUTF8String, (cString_val_eq_self_iff bytes).mpr hz] at h
      simp [h]

/-! ## Variadic arguments -/

/-- The C types the program reads off an argument list. -/
inductive CType where
  | object
  | cString
  | int
  | unsignedInt
  | longLong
  | unsignedLongLong
  | double
  | pointer
deriving DecidableEq, Repr

/-- One variadic argument.  An `id` may be nil and a `const char *` NULL. -/
inductive Arg where
  | object (o : Option Obj)
  | cString (s : Option CString)
  | int (v : Int32)
  | unsignedInt (v : UInt32)
  | longLong (v : Int64)
  | unsignedLongLong (v : UInt64)
  | double (bits : UInt64)
  | pointer (address : UInt64)
deriving DecidableEq

/-- The type an argument was passed at. -/
def Arg.ctype : Arg → CType
  | .object _ => .object
  | .cString _ => .cString
  | .int _ => .int
  | .unsignedInt _ => .unsignedInt
  | .longLong _ => .longLong
  | .unsignedLongLong _ => .unsignedLongLong
  | .double _ => .double
  | .pointer _ => .pointer

/-! ## The given functions -/

/-- What Foundation and the C library compute for the program. -/
structure Foundation where
  /-- `description` of an object that is no string and no integer. -/
  describe : Obj → NSString
  /-- `descriptionWithCalendarFormat:` of an `NSCalendarDate`. -/
  descriptionWithCalendarFormat : NSDate → NSTimeZone → NSString → NSString
  /-- What `appendFormat:` appends for a format that is one directive. -/
  appendFormat : NSString → Arg → NSString
  /-- Membership in `decimalDigitCharacterSet`. -/
  decimalDigit : unichar → Bool
  /-- Of the ASCII characters it has the ten digits. -/
  decimalDigit_ascii (c : unichar) : c < 0x80 → decimalDigit c = (0x30 ≤ c && c ≤ 0x39)
  /-- `dateFromString:` of an `NSDateFormatter` with a format and a zone. -/
  dateFromString : NSString → NSTimeZone → NSString → Option NSDate
  /-- `decimalNumberWithString:`, which answers `notANumber` and never nil. -/
  decimalNumberWithString : Option NSString → Option Rat
  /-- `atof`. -/
  atof : CString → UInt64
  /-- The conversion of a `double` to a `float`. -/
  floatOfDouble : UInt64 → UInt32

/-- `description`.  A string describes itself and an integer its digits. -/
def Foundation.description (F : Foundation) : Obj → NSString
  | .string s => s
  | .number (.signed v) => lit (toString v)
  | .number (.unsigned v) => lit (toString v)
  | .other d => d
  | o => F.describe o

/-- A `Foundation` that prints integers in decimal and knows the ASCII digits,
for runs on concrete values. -/
instance : Inhabited Foundation where
  default :=
    { describe := fun _ => []
      descriptionWithCalendarFormat := fun _ _ _ => []
      appendFormat := fun _ a =>
        match a with
        | .int v => lit (toString v.toInt)
        | .unsignedInt v => lit (toString v.toNat)
        | .longLong v => lit (toString v.toInt)
        | .unsignedLongLong v => lit (toString v.toNat)
        | .cString (some s) => s.val.map (UInt16.ofNat ·.toNat)
        | _ => []
      decimalDigit := fun c => 0x30 ≤ c && c ≤ 0x39
      decimalDigit_ascii := fun _ _ => rfl
      dateFromString := fun _ _ _ => none
      decimalNumberWithString := fun _ => none
      atof := fun _ => 0
      floatOfDouble := fun _ => 0 }

end MGMDB
