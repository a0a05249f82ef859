import Mathlib.Tactic.IntervalCases
import MGMDB.Query.Format

/-!
# Templates

A *template* is a format taken apart: pieces of text without a `%` and
directives.  `Template.texts` says what `query:` is for.  Each piece stands for
one text, a directive for the rendering of its own argument, and the arguments
are taken from the left, one for each directive and none for `%%`.

`compose_append_format` says that the loop computes the concatenation of these texts.
The loop knows nothing of pieces.  It re-slices the format at every `%`, so the
proof carries the text that stands before the next `%` along.
-/

namespace MGMDB

namespace Query

/-! ## Directives -/

/-- The directives with one numeric argument, named by the letters after the
`%`. -/
inductive Numeric where
  | d | D | i | u | U | hi | hu | qi | qu | qx | qX | x | X | o | O
  | f | e | E | g | G | c | C | p | a | A | F
deriving DecidableEq, Repr

/-- The letters after the `%`. -/
def Numeric.letters : Numeric → NSString
  | .d => lit "d" | .D => lit "D" | .i => lit "i" | .u => lit "u" | .U => lit "U"
  | .hi => lit "hi" | .hu => lit "hu" | .qi => lit "qi" | .qu => lit "qu"
  | .qx => lit "qx" | .qX => lit "qX" | .x => lit "x" | .X => lit "X"
  | .o => lit "o" | .O => lit "O" | .f => lit "f" | .e => lit "e" | .E => lit "E"
  | .g => lit "g" | .G => lit "G" | .c => lit "c" | .C => lit "C" | .p => lit "p"
  | .a => lit "a" | .A => lit "A" | .F => lit "F"

/-- The printf format of a numeric directive.  `%D` and `%i` print as `%d`,
`%U` as `%u` and `%O` as `%o`. -/
def Numeric.format : Numeric → NSString
  | .d | .D | .i => lit "%d"
  | .u | .U => lit "%u"
  | .o | .O => lit "%o"
  | n => lit "%" ++ n.letters

/-- The type of its argument. -/
def Numeric.ctype : Numeric → CType
  | .d | .D | .i | .hi | .C => .int
  | .u | .U | .hu | .x | .X | .o | .O | .c => .unsignedInt
  | .qi => .longLong
  | .qu | .qx | .qX => .unsignedLongLong
  | .p => .pointer
  | .f | .e | .E | .g | .G | .a | .A | .F => .double

/-- A run of decimal digits, of any script. -/
structure Digits (F : Foundation) where
  digits : NSString
  isDigit : ∀ c ∈ digits, F.decimalDigit c = true

/-- A run of decimal digits that starts with an ASCII digit. -/
structure Width (F : Foundation) where
  first : unichar
  rest : Digits F
  first_ascii : 0x30 ≤ first ∧ first ≤ 0x39

/-- The digits of a width. -/
def Width.digits {F : Foundation} (w : Width F) : NSString := w.first :: w.rest.digits

/-- A directive: `%@`, `%!`, `%s`, `%$`, `%%`, a numeric one, `%.<digits>f`, or
`%<digits>x` and `%<digits>X`. -/
inductive Directive (F : Foundation) where
  | object
  | description
  | cString
  | bytes
  | percent
  | numeric (n : Numeric)
  | precision (digits : Digits F)
  | hex (width : Width F) (upper : Bool)

/-- What stands after the `%`. -/
def Directive.letters {F : Foundation} : Directive F → NSString
  | .object => lit "@"
  | .description => lit "!"
  | .cString => lit "s"
  | .bytes => lit "$"
  | .percent => lit "%"
  | .numeric n => n.letters
  | .precision p => lit "." ++ p.digits ++ lit "f"
  | .hex w upper => w.digits ++ if upper then lit "X" else lit "x"

/-- Whether a directive accepts an argument: the type it reads, not nil for `%!`
and not NULL for `%s` and `%$`. -/
def Directive.Accepts {F : Foundation} : Directive F → Arg → Prop
  | .object, a => a.ctype = .object
  | .description, a => a.ctype = .object ∧ a ≠ .object none
  | .cString, a => a.ctype = .cString ∧ a ≠ .cString none
  | .bytes, a => a.ctype = .cString ∧ a ≠ .cString none
  | .percent, _ => True
  | .numeric n, a => a.ctype = n.ctype
  | .precision _, a => a.ctype = .double
  | .hex _ _, a => a.ctype = .unsignedInt

/-- The text of an accepted argument. -/
def Directive.rendering {F : Foundation} (Q : Quoter) : Directive F → Arg → NSString
  | .object, .object o => Q.quoteObject o
  | .description, .object (some o) => F.description o
  | .cString, .cString (some s) => Q.quoteChar s
  | .bytes, a => F.appendFormat (lit "%s") a
  | .numeric n, a => F.appendFormat n.format a
  | .precision p, a => F.appendFormat (lit "%." ++ p.digits ++ lit "f") a
  | .hex w upper, a =>
      F.appendFormat (lit "%" ++ w.digits ++ if upper then lit "X" else lit "x") a
  | _, _ => lit "%"

/-! ## Templates -/

/-- A piece of a template.  The text of a literal piece has no `%`. -/
inductive Piece (F : Foundation) where
  | text (t : { t : NSString // 0x25 ∉ t })
  | directive (d : Directive F)

/-- A format taken apart. -/
abbrev Template (F : Foundation) := List (Piece F)

/-- How a piece is written in the format. -/
def Piece.format {F : Foundation} : Piece F → NSString
  | .text t => t.val
  | .directive d => 0x25 :: d.letters

/-- The format of a template. -/
def Template.format {F : Foundation} (T : Template F) : NSString := T.flatMap Piece.format

/-- The arguments fit the directives, in order. -/
def Template.Matches {F : Foundation} : Template F → List Arg → Prop
  | [], _ => True
  | .text _ :: T, as => Template.Matches T as
  | .directive .percent :: T, as => Template.Matches T as
  | .directive d :: T, a :: as => d.Accepts a ∧ Template.Matches T as
  | .directive _ :: _, [] => False

/-- The texts the pieces stand for, in order. -/
def Template.texts {F : Foundation} (Q : Quoter) : Template F → List Arg → List NSString
  | [], _ => []
  | .text t :: T, as => t.val :: Template.texts Q T as
  | .directive .percent :: T, as => lit "%" :: Template.texts Q T as
  | .directive d :: T, a :: as => d.rendering Q a :: Template.texts Q T as
  | .directive _ :: _, [] => []

/-! ## One directive -/

section
variable {F : Foundation} (Q : Quoter)

/-- The digit loop stops behind the digits. -/
theorem scanDigits_append {digits : NSString} (hd : ∀ c ∈ digits, F.decimalDigit c = true)
    {c : unichar} (hc : F.decimalDigit c = false) (rest : NSString) :
    scanDigits F (digits ++ c :: rest) = .ok (digits, c) := by
  induction digits with
  | nil => simp [scanDigits, hc]
  | cons d digits ih =>
      rw [List.cons_append, scanDigits, hd d List.mem_cons_self, if_pos rfl,
        ih fun e he => hd e (List.mem_cons_of_mem _ he)]
      rfl

theorem decimalDigit_letter {c : unichar} (hc : c = 0x66 ∨ c = 0x78 ∨ c = 0x58) :
    F.decimalDigit c = false := by
  rcases hc with rfl | rfl | rfl <;> rw [F.decimalDigit_ascii _ (by decide)] <;> decide

theorem directive_numeric (n : Numeric) (rest : NSString) {a : Arg} (as : List Arg)
    (ha : a.ctype = n.ctype) :
    directive F Q (0x25 :: n.letters ++ rest) (a :: as) =
      .ok (F.appendFormat n.format a, n.letters.length, as) := by
  cases n <;> cases a <;> first | (cases ha; done) | rfl

/-- The branch of the dot. -/
theorem directive_dot (z : NSString) (ap : List Arg) :
    directive F Q (0x25 :: 0x2E :: z) ap = (do
      let (digits, character) ← scanDigits F z
      if character = 0x66 then
        appendFormat F (lit "%." ++ digits ++ [character]) .double (2 + digits.length) ap
      else throw .invalidFormat) := rfl

theorem directive_precision_eq (p : Digits F) (rest : NSString) (ap : List Arg) :
    directive F Q (0x25 :: (Directive.precision p).letters ++ rest) ap =
      appendFormat F (lit "%." ++ p.digits ++ lit "f") .double
        (Directive.precision p).letters.length ap := by
  have htail : 0x25 :: (Directive.precision p).letters ++ rest =
      0x25 :: 0x2E :: (p.digits ++ 0x66 :: rest) := by
    simp [Directive.letters, lit]
  have hlength : (Directive.precision p).letters.length = 2 + p.digits.length := by
    simp [Directive.letters, lit]
    omega
  rw [htail, directive_dot, scanDigits_append p.isDigit (decimalDigit_letter (.inl rfl)), hlength]
  rfl

theorem directive_precision (p : Digits F) (rest : NSString) {a : Arg} (as : List Arg)
    (ha : a.ctype = .double) :
    directive F Q (0x25 :: (Directive.precision p).letters ++ rest) (a :: as) =
      .ok ((Directive.precision p).rendering Q a, (Directive.precision p).letters.length, as) := by
  rw [directive_precision_eq, appendFormat, if_pos ha]
  rfl

/-- An ASCII digit takes the branch of the widths. -/
theorem directive_digit {c : unichar} (hc : 0x30 ≤ c ∧ c ≤ 0x39) (z : NSString) (ap : List Arg) :
    directive F Q (0x25 :: c :: z) ap = (do
      let (digits, character) ← scanDigits F (c :: z)
      if character = 0x78 ∨ character = 0x58 then
        appendFormat F (lit "%" ++ digits ++ [character]) .unsignedInt (1 + digits.length) ap
      else throw .invalidFormat) := by
  have hlo : 0x30 ≤ c.toNat := UInt16.le_iff_toNat_le.mp hc.1
  have hhi : c.toNat ≤ 0x39 := UInt16.le_iff_toNat_le.mp hc.2
  rw [← UInt16.ofNat_toNat (x := c)]
  generalize c.toNat = n at hlo hhi
  interval_cases n <;> rfl

theorem isDigit_ascii {c : unichar} (hc : 0x30 ≤ c ∧ c ≤ 0x39) : F.decimalDigit c = true := by
  have hlt : c < 0x80 := UInt16.lt_of_le_of_lt hc.2 (by decide)
  rw [F.decimalDigit_ascii _ hlt, Bool.and_eq_true, decide_eq_true_eq, decide_eq_true_eq]
  exact hc

theorem Width.isDigit (w : Width F) : ∀ c ∈ w.digits, F.decimalDigit c = true :=
  List.forall_mem_cons.mpr ⟨isDigit_ascii w.first_ascii, w.rest.isDigit⟩

theorem directive_hex_eq (w : Width F) (upper : Bool) (rest : NSString) (ap : List Arg) :
    directive F Q (0x25 :: (Directive.hex w upper).letters ++ rest) ap =
      appendFormat F (lit "%" ++ w.digits ++ if upper then lit "X" else lit "x") .unsignedInt
        (Directive.hex w upper).letters.length ap := by
  have hx : F.decimalDigit (if upper then 0x58 else 0x78) = false := by
    cases upper
    · exact decimalDigit_letter (.inr (.inl rfl))
    · exact decimalDigit_letter (.inr (.inr rfl))
  have htail : 0x25 :: (Directive.hex w upper).letters ++ rest =
      0x25 :: w.first :: (w.rest.digits ++ (if upper then 0x58 else 0x78) :: rest) := by
    cases upper <;> simp [Directive.letters, Width.digits, lit]
  have hlength : (Directive.hex w upper).letters.length = 1 + w.digits.length := by
    cases upper <;> simp [Directive.letters, lit, Nat.add_comm]
  rw [htail, directive_digit Q w.first_ascii,
    show w.first :: (w.rest.digits ++ (if upper then 0x58 else 0x78) :: rest) =
      w.digits ++ (if upper then 0x58 else 0x78) :: rest from rfl,
    scanDigits_append w.isDigit hx, hlength]
  cases upper <;> rfl

theorem directive_hex (w : Width F) (upper : Bool) (rest : NSString) {a : Arg} (as : List Arg)
    (ha : a.ctype = .unsignedInt) :
    directive F Q (0x25 :: (Directive.hex w upper).letters ++ rest) (a :: as) =
      .ok ((Directive.hex w upper).rendering Q a, (Directive.hex w upper).letters.length, as) := by
  rw [directive_hex_eq, appendFormat, if_pos ha]
  rfl

/-- The switch answers an accepted argument with its rendering, and stops at the
last letter of the directive. -/
theorem directive_letters (d : Directive F) (rest : NSString) {a : Arg} (as : List Arg)
    (hd : d ≠ .percent) (ha : d.Accepts a) :
    directive F Q (0x25 :: d.letters ++ rest) (a :: as) =
      .ok (d.rendering Q a, d.letters.length, as) := by
  cases d with
  | object =>
      cases a with
      | object o => rfl
      | _ => cases ha
  | description =>
      cases a with
      | object o =>
          cases o with
          | none => exact absurd rfl ha.2
          | some o => rfl
      | _ => cases ha.1
  | cString =>
      cases a with
      | cString o =>
          cases o with
          | none => exact absurd rfl ha.2
          | some o => rfl
      | _ => cases ha.1
  | bytes =>
      cases a with
      | cString o => rfl
      | _ => cases ha.1
  | percent => exact absurd rfl hd
  | numeric n => exact directive_numeric Q n rest as ha
  | precision p => exact directive_precision Q p rest as ha
  | hex w upper => exact directive_hex Q w upper rest as ha

/-- A directive other than `%%` takes the first argument. -/
theorem Template.matches_directive {d : Directive F} {T : Template F} {as : List Arg}
    (hd : d ≠ .percent) (h : Template.Matches (.directive d :: T) as) :
    ∃ a as', as = a :: as' ∧ d.Accepts a ∧ T.Matches as' := by
  cases as with
  | nil => cases d <;> first | exact absurd rfl hd | cases h
  | cons a as => cases d <;> first | exact absurd rfl hd | exact ⟨a, as, rfl, h⟩

theorem Template.matches_cons {d : Directive F} (hd : d ≠ .percent) {T : Template F} {a : Arg}
    {as : List Arg} (ha : d.Accepts a) (h : T.Matches as) :
    Template.Matches (.directive d :: T) (a :: as) := by
  cases d <;> first | exact absurd rfl hd | exact ⟨ha, h⟩

theorem Template.texts_directive {d : Directive F} (hd : d ≠ .percent) (T : Template F) (a : Arg)
    (as : List Arg) :
    Template.texts Q (.directive d :: T) (a :: as) = d.rendering Q a :: T.texts Q as := by
  cases d <;> first | exact absurd rfl hd | rfl

/-! ## The loop -/

theorem findIdx?_percent {pre : NSString} (hpre : 0x25 ∉ pre) :
    pre.findIdx? (· = 0x25) = none := by
  rw [List.findIdx?_eq_none_iff]
  intro c hc
  exact decide_eq_false fun h => hpre (h ▸ hc)

/-- Without a `%` the rest of the format is copied. -/
theorem compose_text {pre : NSString} (hpre : 0x25 ∉ pre) (as : List Arg) (query : NSString) :
    compose F Q pre as query = .ok (query ++ pre) := by
  rw [compose, findIdx?_percent hpre]

/-- One turn: the text before the `%` is copied, the directive is rendered, and
the loop goes on behind its last letter. -/
theorem compose_directive {pre letters rest : NSString} (hpre : 0x25 ∉ pre) {as as' : List Arg}
    {appended : NSString}
    (hd : directive F Q (0x25 :: letters ++ rest) as = .ok (appended, letters.length, as'))
    (query : NSString) :
    compose F Q (pre ++ 0x25 :: letters ++ rest) as query =
      compose F Q rest as' (query ++ pre ++ appended) := by
  have hloc : (pre ++ 0x25 :: letters ++ rest).findIdx? (· = 0x25) = some pre.length := by
    rw [List.append_assoc, List.findIdx?_append, findIdx?_percent hpre]
    simp [List.findIdx?_cons]
  rw [compose, hloc]
  have hdrop : (pre ++ 0x25 :: letters ++ rest).drop pre.length = 0x25 :: letters ++ rest := by
    rw [List.append_assoc, List.drop_left]
  have htake : (pre ++ 0x25 :: letters ++ rest).take pre.length = pre := by
    rw [List.append_assoc, List.take_left]
  have hrest :
      (pre ++ 0x25 :: letters ++ rest).drop (pre.length + (letters.length + 1)) = rest := by
    rw [show pre.length + (letters.length + 1) = (pre ++ 0x25 :: letters).length by simp,
      List.drop_left]
  simp only [hdrop, hd, htake, hrest]

/-- The loop on a template, with the text `pre` still to be copied. -/
theorem compose_append_format : ∀ (T : Template F) (as : List Arg) (query pre : NSString),
    0x25 ∉ pre → T.Matches as →
    compose F Q (pre ++ T.format) as query = .ok (query ++ pre ++ (T.texts Q as).flatten) := by
  intro T as query pre hpre hm
  induction T generalizing as query pre with
  | nil => simpa [Template.format, Template.texts] using compose_text Q hpre as query
  | cons piece T ih =>
    cases piece with
    | text t =>
      have hjoin : 0x25 ∉ pre ++ t.val := by
        rw [List.mem_append, not_or]
        exact ⟨hpre, t.property⟩
      have hrest := ih as query (pre ++ t.val) hjoin hm
      simpa [Template.format, Piece.format, Template.texts] using hrest
    | directive d =>
      have hformat : pre ++ Template.format (.directive d :: T) =
          pre ++ 0x25 :: d.letters ++ (Template.format T) := by
        simp [Template.format, Piece.format]
      by_cases hd : d = .percent
      · subst hd
        have hturn : directive F Q (0x25 :: (Directive.percent (F := F)).letters ++
            Template.format T) as = .ok (lit "%", 1, as) := rfl
        rw [hformat, compose_directive Q hpre hturn,
          ← List.nil_append (Template.format T), ih as _ [] (by simp) hm]
        simp [Template.texts]
      · obtain ⟨a, as, rfl, ha, hm⟩ := Template.matches_directive hd hm
        rw [hformat, compose_directive Q hpre (directive_letters Q d (Template.format T) as hd ha),
          ← List.nil_append (Template.format T), ih as _ [] (by simp) hm,
          Template.texts_directive Q hd]
        simp

end

end Query

/-! ## The two classes -/

/-- For every template and every argument list that fits it, the text `query:`
builds is the concatenation of the texts of the pieces, in both classes. -/
theorem queryText_format (F : Foundation) (T : Query.Template F) (ap : List Arg)
    (hm : T.Matches ap) :
    MGMMyConnection.queryText F T.format ap =
        .ok (T.texts (MGMMyConnection.quoter F) ap).flatten ∧
      MGMLiteConnection.queryText F T.format ap =
        .ok (T.texts (MGMLiteConnection.quoter F) ap).flatten :=
  ⟨Query.compose_append_format _ T ap [] [] (by simp) hm,
    Query.compose_append_format _ T ap [] [] (by simp) hm⟩

/-- An insertion of a string with a `%` in it and of a number. -/
def insertTemplate : Query.Template default :=
  [.text ⟨lit "INSERT INTO t VALUES (", by decide⟩, .directive .object,
    .text ⟨lit ", ", by decide⟩, .directive (.numeric .d), .text ⟨lit ")", by decide⟩]

theorem queryText_format_insert :
    MGMMyConnection.queryText default (Query.Template.format insertTemplate)
        [.object (some (.string (lit "a%d"))), .int 7] =
          .ok (lit "INSERT INTO t VALUES ('a%d', 7)") ∧
      MGMLiteConnection.queryText default (Query.Template.format insertTemplate)
        [.object (some (.string (lit "a%d"))), .int 7] =
          .ok (lit "INSERT INTO t VALUES ('a%d', 7)") :=
  queryText_format default insertTemplate [.object (some (.string (lit "a%d"))), .int 7]
    ⟨rfl, rfl, trivial⟩

end MGMDB
