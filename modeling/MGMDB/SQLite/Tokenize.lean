import MGMDB.Lexing.Scan
import MGMDB.Foundation

/-!
# The tokenizer of SQLite

`sqlite3GetToken` reads the type of the token at the head of a text, and how long it
is.  Here it gives what stands behind the token instead of the length, and the end of
the text stands for the NUL.  Which words are keywords is `keywordCode`, a function of
the word.
-/

namespace MGMDB

namespace SQLite

open Scan

/-! ## Characters -/

/-- `sqlite3Isspace`. -/
def sqlite3Isspace (c : UInt8) : Bool := c = 0x20 || (0x09 ≤ c && c ≤ 0x0D)

/-- `sqlite3Isdigit`. -/
def sqlite3Isdigit (c : UInt8) : Bool := 0x30 ≤ c && c ≤ 0x39

/-- `sqlite3Isxdigit`. -/
def sqlite3Isxdigit (c : UInt8) : Bool :=
  sqlite3Isdigit c || (0x41 ≤ c && c ≤ 0x46) || (0x61 ≤ c && c ≤ 0x66)

/-- `IdChar`: letters, digits, `$`, `_` and whatever is not ASCII. -/
def IdChar (c : UInt8) : Bool :=
  sqlite3Isdigit c || (0x41 ≤ c && c ≤ 0x5A) || (0x61 ≤ c && c ≤ 0x7A) || c = 0x24 || c = 0x5F ||
    0x80 ≤ c

/-! ## Token types -/

/-- The token types that `sqlite3GetToken` tells apart, and the keywords by their
codes. -/
inductive TokenType where
  | space | minus | lp | rp | semi | plus | star | slash | rem | eq | le | ne | lshift | lt
  | ge | rshift | gt | bitor | concat | comma | bitand | bitnot | string | id | dot | integer
  | float | variable | register | blob | illegal
  | keyword (code : Nat)
deriving DecidableEq, Repr

/-! ## Parts of tokens -/

/-- An operator, alone or with one of some characters behind it. -/
def operator (alone : TokenType) (pairs : List (UInt8 × TokenType)) : Scanner UInt8 TokenType :=
  onNext (fun c => (pairs.lookup c).map fun k z => (k, z)) fun z => (alone, z)

/-- Behind a `-`: perhaps a comment to the end of the line. -/
def minus : Scanner UInt8 TokenType :=
  onNext (fun c => if c = 0x2D then some fun z => (.space, z.dropWhile (· ≠ 0x0A)) else none)
    fun z => (.minus, z)

/-- Behind a `/`: perhaps a comment, unless the text ends there. -/
def slash : Scanner UInt8 TokenType
  | c :: b :: z =>
      if c = 0x2A then (.space, (upToPair 0x2A 0x2F (b :: z)).2) else (.slash, c :: b :: z)
  | z => (.slash, z)

/-- Behind a `!`, which is read with the next character. -/
def bang : Scanner UInt8 TokenType :=
  onNext (fun c => some fun z => (if c = 0x3D then .ne else .illegal, z)) fun z => (.illegal, z)

/-- Behind a quote. -/
def quoted (delim : UInt8) : Scanner UInt8 TokenType := fun z =>
  let (closed, z) := upToQuote (fun _ => false) delim z
  (if closed then if delim = 0x27 then .string else .id else .illegal, z)

/-- Behind a `[`. -/
def bracket : Scanner UInt8 TokenType := fun z =>
  let (before, z) := upTo 0x5D z
  (if before.isSome then .id else .illegal, z)

/-- The `.` of a number and the digits behind it. -/
def fraction : Scanner UInt8 TokenType :=
  onNext (fun c => if c = 0x2E then some fun z => (.float, z.dropWhile sqlite3Isdigit) else none)
    fun z => (.integer, z)

/-- The exponent of a number. -/
def exponent (k : TokenType) : Scanner UInt8 TokenType
  | e :: d :: z =>
      if (e = 0x65 ∨ e = 0x45) ∧ (sqlite3Isdigit d = true ∨
          (d = 0x2B ∨ d = 0x2D) ∧ z.head?.any sqlite3Isdigit = true) then
        (.float, z.dropWhile sqlite3Isdigit)
      else (k, e :: d :: z)
  | z => (k, z)

/-- What makes a number illegal. -/
def wordBehind (k : TokenType) : Scanner UInt8 TokenType := fun z =>
  (if z.takeWhile IdChar = [] then k else .illegal, z.dropWhile IdChar)

/-- A number, from its first character on. -/
def number : Scanner UInt8 TokenType := fun z =>
  let (k, z) := fraction (z.dropWhile sqlite3Isdigit)
  let (k, z) := exponent k z
  wordBehind k z

/-- The end of the argument of a parameter. -/
def closing : Scanner UInt8 TokenType :=
  onNext (fun c => if c = 0x29 then some fun z => (.variable, z) else none) fun z => (.illegal, z)

/-- Behind the `(` of a parameter. -/
def argument : Scanner UInt8 TokenType := fun z =>
  closing (z.dropWhile fun c => !sqlite3Isspace c && c ≠ 0x29)

/-- Behind the first character of a parameter; `named` tells that `n` is not 0. -/
def parameter (named : Bool) : List UInt8 → TokenType × List UInt8
  | [] => (if named then .variable else .illegal, [])
  | c :: z =>
      if IdChar c = true then parameter true z
      else if c = 0x28 ∧ named = true then argument z
      else
        match z with
        | [] => (if named then .variable else .illegal, [c])
        | d :: z =>
            if c = 0x3A ∧ d = 0x3A then parameter named z
            else (if named then .variable else .illegal, c :: d :: z)

/-- The type of a blob, by what stands before the closing apostrophe, if there is one. -/
def blobType : Option (List UInt8) → TokenType
  | none => .illegal
  | some digits =>
      if digits.all sqlite3Isxdigit = true ∧ digits.length % 2 = 0 then .blob else .illegal

/-- Behind the apostrophe of a blob. -/
def blob : Scanner UInt8 TokenType := fun z => (blobType (upTo 0x27 z).1, (upTo 0x27 z).2)

section
variable (keywordCode : List UInt8 → TokenType)

/-- A word, behind its first character. -/
def word (c : UInt8) : Scanner UInt8 TokenType := fun z =>
  (keywordCode (c :: z.takeWhile IdChar), z.dropWhile IdChar)

/-- The token that begins with `c`. -/
def token (c : UInt8) : Scanner UInt8 TokenType := fun z =>
  if c = 0x20 ∨ c = 0x09 ∨ c = 0x0A ∨ c = 0x0C ∨ c = 0x0D then
    (.space, z.dropWhile sqlite3Isspace)
  else if c = 0x2D then minus z                               -- '-'
  else if c = 0x28 then (.lp, z)                              -- '('
  else if c = 0x29 then (.rp, z)                              -- ')'
  else if c = 0x3B then (.semi, z)                            -- ';'
  else if c = 0x2B then (.plus, z)                            -- '+'
  else if c = 0x2A then (.star, z)                            -- '*'
  else if c = 0x2F then slash z                               -- '/'
  else if c = 0x25 then (.rem, z)                             -- '%'
  else if c = 0x3D then operator .eq [(0x3D, .eq)] z          -- '='
  else if c = 0x3C then                                       -- '<'
    operator .lt [(0x3D, .le), (0x3E, .ne), (0x3C, .lshift)] z
  else if c = 0x3E then                                       -- '>'
    operator .gt [(0x3D, .ge), (0x3E, .rshift)] z
  else if c = 0x21 then bang z                                -- '!'
  else if c = 0x7C then operator .bitor [(0x7C, .concat)] z   -- '|'
  else if c = 0x2C then (.comma, z)                           -- ','
  else if c = 0x26 then (.bitand, z)                          -- '&'
  else if c = 0x7E then (.bitnot, z)                          -- '~'
  else if c = 0x60 ∨ c = 0x27 ∨ c = 0x22 then quoted c z      -- '`' '\'' '"'
  else if c = 0x2E then                                       -- '.'
    if z.head?.any sqlite3Isdigit = true then number (c :: z) else (.dot, z)
  else if sqlite3Isdigit c = true then number (c :: z)
  else if c = 0x5B then bracket z                             -- '['
  else if c = 0x3F then (.variable, z.dropWhile sqlite3Isdigit)   -- '?'
  else if c = 0x23 ∧ z.head?.any sqlite3Isdigit = true then   -- '#'
    (.register, z.dropWhile sqlite3Isdigit)
  else if c = 0x23 ∨ c = 0x24 ∨ c = 0x40 ∨ c = 0x3A then parameter false z  -- '$' '@' ':'
  else if (c = 0x78 ∨ c = 0x58) ∧ z.head? = some 0x27 then blob z.tail      -- 'x' 'X'
  else if IdChar c = true then word keywordCode c z
  else (.illegal, z)

/-- `sqlite3GetToken`.  It is not called where the text ends. -/
def sqlite3GetToken : List UInt8 → TokenType × List UInt8
  | [] => (.illegal, [])
  | c :: z => token keywordCode c z

end

end SQLite

end MGMDB
