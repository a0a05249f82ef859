import MGMDB.Quote

/-!
# The format of a query

`query:` of both connection classes builds its text with the same loop.  It
looks for a `%`, copies what stands before it, appends what the directive after
it asks for and goes on behind the directive.  `offset` is the place of the
directive's last character, counted from the `%`.

The loop reads ahead without testing for the end of the format, and
`characterAtIndex:` raises there.  `Failure` has that end and the other three:
a directive that is none, a nil or NULL argument where an object or a string is
needed, and an argument that is missing or of another type, which C leaves
undefined.
-/

namespace MGMDB

namespace Query

/-- How the loop ends without a text. -/
inductive Failure where
  | rangeException
  | invalidFormat
  | nilArgument
  | badArgument
deriving DecidableEq, Repr

/-- The methods of the connection the loop calls. -/
structure Quoter where
  quoteObject : Option Obj → NSString
  quoteChar : CString → NSString

/-! ## Reading the arguments -/

/-- `va_arg(ap, id)`. -/
def va_object : List Arg → Except Failure (Option Obj × List Arg)
  | .object o :: ap => .ok (o, ap)
  | _ => .error .badArgument

/-- `va_arg(ap, const char *)`. -/
def va_cString : List Arg → Except Failure (Option CString × List Arg)
  | .cString s :: ap => .ok (s, ap)
  | _ => .error .badArgument

/-- `[query appendFormat:format, va_arg(ap, type)]`, with the offset unchanged. -/
def appendFormat (F : Foundation) (format : NSString) (type : CType) (offset : Nat) :
    List Arg → Except Failure (NSString × Nat × List Arg)
  | a :: ap =>
      if a.ctype = type then .ok (F.appendFormat format a, offset, ap) else .error .badArgument
  | [] => .error .badArgument

/-! ## Reading the format -/

/-- `characterAtIndex:`. -/
def characterAtIndex (s : NSString) (i : Nat) : Except Failure unichar :=
  match s[i]? with
  | some c => .ok c
  | none => .error .rangeException

/-- The digit loop, `while ([set characterIsMember:character])`: the digits and
the character after them. -/
def scanDigits (F : Foundation) : NSString → Except Failure (NSString × unichar)
  | [] => .error .rangeException
  | c :: rest =>
      if F.decimalDigit c then (scanDigits F rest).map fun r => (c :: r.1, r.2) else .ok ([], c)

/-- The switch.  `tail` is the format from the `%` on.  The result is what is
appended, the offset at the label `good` and the arguments left. -/
def directive (F : Foundation) (Q : Quoter) (tail : NSString) (ap : List Arg) :
    Except Failure (NSString × Nat × List Arg) := do
  let character ← characterAtIndex tail 1
  match character with
  | 0x40 => do -- '@'
      let (o, ap) ← va_object ap
      return (Q.quoteObject o, 1, ap)
  | 0x21 => do -- '!'
      let (o, ap) ← va_object ap
      match o with
      | some o => return (F.description o, 1, ap)
      | none => throw .nilArgument
  | 0x73 => do -- 's'
      let (s, ap) ← va_cString ap
      match s with
      | some s => return (Q.quoteChar s, 1, ap)
      | none => throw .nilArgument
  | 0x24 => appendFormat F (lit "%s") .cString 1 ap -- '$'
  | 0x25 => return (lit "%", 1, ap) -- '%'
  | 0x64 | 0x44 | 0x69 => appendFormat F (lit "%d") .int 1 ap -- 'd' 'D' 'i'
  | 0x75 | 0x55 => appendFormat F (lit "%u") .unsignedInt 1 ap -- 'u' 'U'
  | 0x68 => do -- 'h'
      let character ← characterAtIndex tail 2
      if character = 0x69 then appendFormat F (lit "%hi") .int 2 ap
      else if character = 0x75 then appendFormat F (lit "%hu") .unsignedInt 2 ap
      else throw .invalidFormat
  | 0x71 => do -- 'q'
      let character ← characterAtIndex tail 2
      if character = 0x69 then appendFormat F (lit "%qi") .longLong 2 ap
      else if character = 0x75 then appendFormat F (lit "%qu") .unsignedLongLong 2 ap
      else if character = 0x78 then appendFormat F (lit "%qx") .unsignedLongLong 2 ap
      else if character = 0x58 then appendFormat F (lit "%qX") .unsignedLongLong 2 ap
      else throw .invalidFormat
  | 0x78 => appendFormat F (lit "%x") .unsignedInt 1 ap -- 'x'
  | 0x58 => appendFormat F (lit "%X") .unsignedInt 1 ap -- 'X'
  | 0x6F | 0x4F => appendFormat F (lit "%o") .unsignedInt 1 ap -- 'o' 'O'
  | 0x66 => appendFormat F (lit "%f") .double 1 ap -- 'f'
  | 0x65 => appendFormat F (lit "%e") .double 1 ap -- 'e'
  | 0x45 => appendFormat F (lit "%E") .double 1 ap -- 'E'
  | 0x67 => appendFormat F (lit "%g") .double 1 ap -- 'g'
  | 0x47 => appendFormat F (lit "%G") .double 1 ap -- 'G'
  | 0x63 => appendFormat F (lit "%c") .unsignedInt 1 ap -- 'c'
  | 0x43 => appendFormat F (lit "%C") .int 1 ap -- 'C'
  | 0x70 => appendFormat F (lit "%p") .pointer 1 ap -- 'p'
  | 0x61 => appendFormat F (lit "%a") .double 1 ap -- 'a'
  | 0x41 => appendFormat F (lit "%A") .double 1 ap -- 'A'
  | 0x46 => appendFormat F (lit "%F") .double 1 ap -- 'F'
  | 0x2E => do -- '.'
      let (digits, character) ← scanDigits F (tail.drop 2)
      if character = 0x66 then
        appendFormat F (lit "%." ++ digits ++ [character]) .double (2 + digits.length) ap
      else throw .invalidFormat
  | _ =>
      if 0x30 ≤ character ∧ character ≤ 0x39 then do -- '0'...'9'
        let (digits, character) ← scanDigits F (tail.drop 1)
        if character = 0x78 ∨ character = 0x58 then
          appendFormat F (lit "%" ++ digits ++ [character]) .unsignedInt (1 + digits.length) ap
        else throw .invalidFormat
      else throw .invalidFormat

/-- The loop, with the format still to read and the text so far. -/
def compose (F : Foundation) (Q : Quoter) (currentFormat : NSString) (ap : List Arg)
    (query : NSString) : Except Failure NSString :=
  match _h : currentFormat.findIdx? (· = 0x25) with
  | none => .ok (query ++ currentFormat)
  | some location =>
      match directive F Q (currentFormat.drop location) ap with
      | .error e => .error e
      | .ok (appended, offset, ap) =>
          compose F Q (currentFormat.drop (location + (offset + 1))) ap
            (query ++ currentFormat.take location ++ appended)
termination_by currentFormat.length
decreasing_by
  have hlt := (List.findIdx?_eq_some_iff_getElem.mp _h).1
  simp only [List.length_drop]
  omega

end Query

/-! ## The texts of the two classes -/

/-- What the loop of `-[MGMMyConnection query:]` calls. -/
def MGMMyConnection.quoter (F : Foundation) : Query.Quoter := ⟨quoteObject F, quoteChar F⟩

/-- The text `-[MGMMyConnection query:]` builds. -/
def MGMMyConnection.queryText (F : Foundation) (format : NSString) (ap : List Arg) :
    Except Query.Failure NSString := Query.compose F (quoter F) format ap []

/-- What the loop of `-[MGMLiteConnection query:]` calls. -/
def MGMLiteConnection.quoter (F : Foundation) : Query.Quoter := ⟨quoteObject F, quoteChar F⟩

/-- The text `-[MGMLiteConnection query:]` builds. -/
def MGMLiteConnection.queryText (F : Foundation) (format : NSString) (ap : List Arg) :
    Except Query.Failure NSString := Query.compose F (quoter F) format ap []

end MGMDB
