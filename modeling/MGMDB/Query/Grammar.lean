import Mathlib.Data.List.Basic
import MGMDB.Query.Quoted
import MGMDB.Query.Template

/-!
# The grammar of formats

Every format is one of three things.  It is the format of a template; or behind a template
there is a `%` that no directive begins with; or it ends before the switch has seen enough
of what is behind a `%`.  `readings` takes a format apart, and `compose_template` carries
the loop over the template, whatever is behind it.  The loop goes wrong on the last kind,
where it reads past the end, and it takes digits of other scripts for digits.
-/

namespace MGMDB

namespace Query

/-! ## What directives ask for -/

section
variable {F : Foundation}

/-- The type of the argument, for all but `%%`. -/
def Directive.ctype : Directive F → Option CType
  | .object | .description => some .object
  | .cString | .bytes => some .cString
  | .percent => none
  | .numeric n => some n.ctype
  | .precision _ => some .double
  | .hex _ _ => some .unsignedInt

/-- The argument of this type that raises: `appendString:` does not take nil, and
`stringWithUTF8String:` does not take NULL. -/
def Directive.refuses : Directive F → Option Arg
  | .description => some (.object none)
  | .cString => some (.cString none)
  | _ => none

/-- The directive is written in ASCII. -/
def Directive.Ascii (d : Directive F) : Prop := ∀ c ∈ d.letters, c < 0x80

/-- The types of the arguments, in order. -/
def Template.ctypes (T : Template F) : List CType :=
  T.filterMap fun
    | .text _ => none
    | .directive d => d.ctype

/-- The digits of the directives are ASCII digits. -/
def Template.Ascii (T : Template F) : Prop := ∀ d, .directive d ∈ T → d.Ascii

end

/-! ## Formats -/

/-- Every `%` begins a directive. -/
def InGrammar (F : Foundation) (format : NSString) : Prop :=
  ∃ T : Template F, T.Ascii ∧ T.format = format

/-- The arguments have the types the directives ask for, of every template the format
begins with. -/
def Typed (F : Foundation) (format : NSString) (ap : List Arg) : Prop :=
  ∀ (T : Template F) (rest : NSString), T.format ++ rest = format →
    T.ctypes <+: ap.map Arg.ctype

/-- What is behind a `%` where the switch reads on at the end of the format. -/
inductive Cut (F : Foundation) : NSString → Prop where
  | percent : Cut F []
  | short : Cut F (lit "h")
  | quad : Cut F (lit "q")
  | precision (p : Digits F) : Cut F (lit "." ++ p.digits)
  | width (w : Width F) : Cut F w.digits

/-- The format ends within a directive. -/
def CutShort (F : Foundation) (format : NSString) : Prop :=
  ∃ (T : Template F) (cut : NSString), Cut F cut ∧ T.format ++ 0x25 :: cut = format

/-- The format has nothing but directives, and one of them with digits of another script. -/
def Foreign (F : Foundation) (format : NSString) : Prop :=
  ∃ T : Template F, ¬ T.Ascii ∧ T.format = format

/-- A directive of the template does not take its argument. -/
def Template.Refuses {F : Foundation} (T : Template F) (ap : List Arg) : Prop :=
  ∃ (T₁ : Template F) (d : Directive F) (T₂ : Template F) (a : Arg),
    T = T₁ ++ .directive d :: T₂ ∧ ap[T₁.ctypes.length]? = some a ∧ d.refuses = some a

/-- The loop comes to a directive that does not take its argument. -/
def Refuses (F : Foundation) (format : NSString) (ap : List Arg) : Prop :=
  ∃ (T : Template F) (rest : NSString), T.format ++ rest = format ∧ T.Refuses ap

/-! ## The switch -/

section
variable {F : Foundation} (Q : Quoter)

/-- Digits run to the end or to a character that is none. -/
theorem digits_cases (z : NSString) :
    (∀ c ∈ z, F.decimalDigit c = true) ∨
      ∃ (p : Digits F) (c : unichar) (rest : NSString),
        F.decimalDigit c = false ∧ z = p.digits ++ c :: rest := by
  induction z with
  | nil => exact .inl fun c hc => by cases hc
  | cons c z ih =>
      cases hc : F.decimalDigit c with
      | false => exact .inr ⟨⟨[], fun c hc => by cases hc⟩, c, z, hc, rfl⟩
      | true =>
          rcases ih with hall | ⟨p, e, rest, he, rfl⟩
          · exact .inl (List.forall_mem_cons.mpr ⟨hc, hall⟩)
          · exact .inr ⟨⟨c :: p.digits, List.forall_mem_cons.mpr ⟨hc, p.isDigit⟩⟩, e, rest, he, rfl⟩

/-- The digit loop does not stop at the end. -/
theorem scanDigits_all {z : NSString} (h : ∀ c ∈ z, F.decimalDigit c = true) :
    scanDigits F z = .error .rangeException := by
  induction z with
  | nil => rfl
  | cons c z ih =>
      rw [scanDigits, if_pos (h c List.mem_cons_self),
        ih fun e he => h e (List.mem_cons_of_mem _ he)]
      rfl

/-- The numeric directives of one letter. -/
def singles : List Numeric :=
  [.d, .D, .i, .u, .U, .x, .X, .o, .O, .f, .e, .E, .g, .G, .c, .C, .p, .a, .A, .F]

theorem letters_singles {n : Numeric} (hn : n ∈ singles) : n.letters.length = 1 := by
  cases n <;> first | rfl | simp [singles] at hn

/-- The characters the switch has a case for, but for the digits. -/
def switchLetters : NSString := lit "@!s$%hq." ++ singles.flatMap Numeric.letters

theorem directive_default {c : unichar} (hc : c ∉ switchLetters) (hd : ¬ (0x30 ≤ c ∧ c ≤ 0x39))
    (z : NSString) (ap : List Arg) :
    directive F Q (0x25 :: c :: z) ap = .error .invalidFormat := by
  simp only [directive, characterAtIndex, List.getElem?_cons_succ, List.getElem?_cons_zero, bind,
    Except.bind]
  split
  all_goals first
    | exact absurd (by decide) hc
    | rw [if_neg hd]; rfl

/-- The branch of `%h`. -/
theorem directive_h (c : unichar) (z : NSString) (ap : List Arg)
    (hi : c ≠ 0x69) (hu : c ≠ 0x75) :
    directive F Q (0x25 :: 0x68 :: c :: z) ap = .error .invalidFormat := by
  show (if c = 0x69 then _ else if c = 0x75 then _ else _) = _
  rw [if_neg hi, if_neg hu]
  rfl

/-- The branch of `%q`. -/
theorem directive_q (c : unichar) (z : NSString) (ap : List Arg)
    (hi : c ≠ 0x69) (hu : c ≠ 0x75) (hx : c ≠ 0x78) (hX : c ≠ 0x58) :
    directive F Q (0x25 :: 0x71 :: c :: z) ap = .error .invalidFormat := by
  show (if c = 0x69 then _ else if c = 0x75 then _ else if c = 0x78 then _ else
    if c = 0x58 then _ else _) = _
  rw [if_neg hi, if_neg hu, if_neg hx, if_neg hX]
  rfl

/-- Where the switch reads on at the end, it raises. -/
theorem directive_cut {cut : NSString} (h : Cut F cut) (ap : List Arg) :
    directive F Q (0x25 :: cut) ap = .error .rangeException := by
  cases h with
  | percent => rfl
  | short => rfl
  | quad => rfl
  | precision p =>
      show directive F Q (0x25 :: 0x2E :: p.digits) ap = _
      rw [directive_dot, scanDigits_all p.isDigit]
      rfl
  | width w =>
      show directive F Q (0x25 :: w.first :: w.rest.digits) ap = _
      rw [directive_digit Q w.first_ascii]
      change scanDigits F w.digits >>= _ = _
      rw [scanDigits_all w.isDigit]
      rfl

/-- The text behind a `%` begins with a directive, or is cut short, or is invalid. -/
def Behind (z : NSString) : Prop :=
  (∃ (d : Directive F) (rest : NSString), z = d.letters ++ rest) ∨ Cut F z ∨
    ∀ ap, directive F Q (0x25 :: z) ap = .error .invalidFormat

theorem behind_h (z : NSString) : Behind (F := F) Q (0x68 :: z) := by
  cases z with
  | nil => exact .inr (.inl .short)
  | cons c z =>
    by_cases hi : c = 0x69
    · exact .inl ⟨.numeric .hi, z, by rw [hi]; rfl⟩
    by_cases hu : c = 0x75
    · exact .inl ⟨.numeric .hu, z, by rw [hu]; rfl⟩
    exact .inr (.inr fun ap => directive_h Q c z ap hi hu)

theorem behind_q (z : NSString) : Behind (F := F) Q (0x71 :: z) := by
  cases z with
  | nil => exact .inr (.inl .quad)
  | cons c z =>
    by_cases hi : c = 0x69
    · exact .inl ⟨.numeric .qi, z, by rw [hi]; rfl⟩
    by_cases hu : c = 0x75
    · exact .inl ⟨.numeric .qu, z, by rw [hu]; rfl⟩
    by_cases hx : c = 0x78
    · exact .inl ⟨.numeric .qx, z, by rw [hx]; rfl⟩
    by_cases hX : c = 0x58
    · exact .inl ⟨.numeric .qX, z, by rw [hX]; rfl⟩
    exact .inr (.inr fun ap => directive_q Q c z ap hi hu hx hX)

theorem behind_dot (z : NSString) : Behind (F := F) Q (0x2E :: z) := by
  rcases digits_cases (F := F) z with hall | ⟨p, c, rest, hc, rfl⟩
  · exact .inr (.inl (.precision ⟨z, hall⟩))
  by_cases hf : c = 0x66
  · refine .inl ⟨.precision p, rest, ?_⟩
    rw [hf, Directive.letters, List.append_assoc]
    rfl
  · refine .inr (.inr fun ap => ?_)
    rw [directive_dot, scanDigits_append p.isDigit hc]
    show (if c = 0x66 then _ else _) = _
    rw [if_neg hf]
    rfl

theorem behind_digit {c : unichar} (hc : 0x30 ≤ c ∧ c ≤ 0x39) (z : NSString) :
    Behind (F := F) Q (c :: z) := by
  rcases digits_cases (F := F) z with hall | ⟨p, e, rest, he, rfl⟩
  · exact .inr (.inl (.width ⟨c, ⟨z, hall⟩, hc⟩))
  by_cases hx : e = 0x78
  · refine .inl ⟨.hex ⟨c, p, hc⟩ false, rest, ?_⟩
    rw [hx, Directive.letters, List.append_assoc]
    rfl
  by_cases hX : e = 0x58
  · refine .inl ⟨.hex ⟨c, p, hc⟩ true, rest, ?_⟩
    rw [hX, Directive.letters, List.append_assoc]
    rfl
  · refine .inr (.inr fun ap => ?_)
    have hscan := scanDigits_append (Width.isDigit ⟨c, p, hc⟩) he rest
    rw [directive_digit Q hc]
    change scanDigits F (Width.digits ⟨c, p, hc⟩ ++ e :: rest) >>= _ = _
    rw [hscan]
    show (if e = 0x78 ∨ e = 0x58 then _ else _) = _
    rw [if_neg (not_or.mpr ⟨hx, hX⟩)]
    rfl

/-- What the switch has a case for. -/
theorem behind_letter {c : unichar} (hc : c ∈ switchLetters) (z : NSString) :
    Behind (F := F) Q (c :: z) := by
  rcases List.mem_append.mp hc with hc | hc
  · have hmem : c = 0x40 ∨ c = 0x21 ∨ c = 0x73 ∨ c = 0x24 ∨ c = 0x25 ∨ c = 0x68 ∨ c = 0x71 ∨
        c = 0x2E := by
      simpa [lit] using hc
    rcases hmem with rfl | rfl | rfl | rfl | rfl | rfl | rfl | rfl
    · exact .inl ⟨.object, z, rfl⟩
    · exact .inl ⟨.description, z, rfl⟩
    · exact .inl ⟨.cString, z, rfl⟩
    · exact .inl ⟨.bytes, z, rfl⟩
    · exact .inl ⟨.percent, z, rfl⟩
    · exact behind_h Q z
    · exact behind_q Q z
    · exact behind_dot Q z
  · obtain ⟨n, hn, hletter⟩ := List.mem_flatMap.mp hc
    obtain ⟨e, he⟩ := List.length_eq_one_iff.mp (letters_singles hn)
    rw [he, List.mem_singleton] at hletter
    refine .inl ⟨.numeric n, z, ?_⟩
    rw [Directive.letters, he, hletter]
    rfl

theorem behind (z : NSString) : Behind (F := F) Q z := by
  cases z with
  | nil => exact .inr (.inl .percent)
  | cons c z =>
    by_cases hc : c ∈ switchLetters
    · exact behind_letter Q hc z
    by_cases hd : 0x30 ≤ c ∧ c ≤ 0x39
    · exact behind_digit Q hd z
    · exact .inr (.inr (directive_default Q hc hd z))

/-! ## Arguments -/

theorem directive_percent (rest : NSString) (ap : List Arg) :
    directive F Q (0x25 :: ((Directive.percent (F := F)).letters ++ rest)) ap =
      .ok (lit "%", 1, ap) := rfl

theorem directive_refused {d : Directive F} {a : Arg} (h : d.refuses = some a) (rest : NSString)
    (ap : List Arg) :
    directive F Q (0x25 :: (d.letters ++ rest)) (a :: ap) = .error .nilArgument := by
  cases d <;> cases h <;> rfl

theorem directive_taken {d : Directive F} {a : Arg} (h : d.ctype = some a.ctype)
    (hne : d.refuses ≠ some a) (rest : NSString) (ap : List Arg) :
    directive F Q (0x25 :: (d.letters ++ rest)) (a :: ap) =
      .ok (d.rendering Q a, d.letters.length, ap) := by
  cases d with
  | object =>
      cases a with
      | object o => rfl
      | _ => cases h
  | description =>
      cases a with
      | object o =>
          cases o with
          | none => exact absurd rfl hne
          | some o => rfl
      | _ => cases h
  | cString =>
      cases a with
      | cString s =>
          cases s with
          | none => exact absurd rfl hne
          | some s => rfl
      | _ => cases h
  | bytes =>
      cases a with
      | cString s => rfl
      | _ => cases h
  | percent => cases h
  | numeric n => exact directive_numeric Q n rest ap (Option.some.inj h).symm
  | precision p => exact directive_precision Q p rest ap (Option.some.inj h).symm
  | hex w upper => exact directive_hex Q w upper rest ap (Option.some.inj h).symm

theorem appendFormat_ok {format : NSString} {type : CType} {offset : Nat} {ap ap' : List Arg}
    {text : NSString} {n : Nat} (h : appendFormat F format type offset ap = .ok (text, n, ap')) :
    n = offset ∧ ap.map Arg.ctype = type :: ap'.map Arg.ctype := by
  cases ap with
  | nil => cases h
  | cons a ap =>
      rw [appendFormat] at h
      split at h
      next htype =>
        cases h
        exact ⟨rfl, by rw [List.map_cons, htype]⟩
      next => cases h

/-- If the switch takes a directive, it stops at its last letter and has read its argument. -/
theorem directive_ok {d : Directive F} {rest : NSString} {ap ap' : List Arg} {text : NSString}
    {n : Nat} (h : directive F Q (0x25 :: (d.letters ++ rest)) ap = .ok (text, n, ap')) :
    n = d.letters.length ∧ ap.map Arg.ctype = d.ctype.toList ++ ap'.map Arg.ctype := by
  cases d with
  | object =>
      cases ap with
      | nil => cases h
      | cons a ap => cases a <;> cases h; exact ⟨rfl, rfl⟩
  | description =>
      cases ap with
      | nil => cases h
      | cons a ap =>
        cases a with
        | object o => cases o <;> cases h; exact ⟨rfl, rfl⟩
        | _ => cases h
  | cString =>
      cases ap with
      | nil => cases h
      | cons a ap =>
        cases a with
        | cString s => cases s <;> cases h; exact ⟨rfl, rfl⟩
        | _ => cases h
  | bytes => exact appendFormat_ok (F := F) h
  | percent =>
      cases h
      exact ⟨rfl, rfl⟩
  | numeric n => cases n <;> exact appendFormat_ok (F := F) h
  | precision p =>
      rw [← List.cons_append, directive_precision_eq] at h
      exact appendFormat_ok h
  | hex w upper =>
      rw [← List.cons_append, directive_hex_eq] at h
      exact appendFormat_ok h

/-- An argument of a type. -/
def sample : CType → Arg
  | .object => .object (some .null)
  | .cString => .cString (some (cString []))
  | .int => .int 0
  | .unsignedInt => .unsignedInt 0
  | .longLong => .longLong 0
  | .unsignedLongLong => .unsignedLongLong 0
  | .double => .double 0
  | .pointer => .pointer 0

/-- The switch takes a directive with an argument of its type. -/
theorem exists_taken (d : Directive F) (rest : NSString) : ∃ text,
    directive F Q (0x25 :: (d.letters ++ rest)) (d.ctype.toList.map sample) =
      .ok (text, d.letters.length, []) := by
  cases hd : d.ctype with
  | none =>
      cases d with
      | percent => exact ⟨_, directive_percent Q rest []⟩
      | _ => cases hd
  | some type =>
      have htype : d.ctype = some (sample type).ctype := by
        rw [hd]
        cases type <;> rfl
      have hne : d.refuses ≠ some (sample type) := by
        intro h
        cases d <;> cases hd <;> cases h
      exact ⟨_, directive_taken Q htype hne rest []⟩

/-- There is one directive only that a text begins with. -/
theorem letters_append_inj {d d' : Directive F} {rest rest' : NSString}
    (h : d.letters ++ rest = d'.letters ++ rest') :
    d.letters = d'.letters ∧ d.ctype = d'.ctype ∧ rest = rest' := by
  have Q : Quoter := ⟨fun _ => [], fun _ => []⟩
  obtain ⟨text, hok⟩ := exists_taken Q d rest
  rw [h] at hok
  obtain ⟨hlength, htypes⟩ := directive_ok Q hok
  obtain ⟨hletters, hrest⟩ := List.append_inj h hlength
  refine ⟨hletters, ?_, hrest⟩
  have hsample : (d.ctype.toList.map sample).map Arg.ctype = d.ctype.toList := by
    cases d.ctype with
    | none => rfl
    | some type => cases type <;> rfl
  rw [hsample, List.map_nil, List.append_nil] at htypes
  have hhead := congrArg List.head? htypes
  rwa [Option.head?_toList, Option.head?_toList] at hhead

/-! ## Templates -/

theorem Template.format_append (T T' : Template F) :
    Template.format (T ++ T') = T.format ++ T'.format := List.flatMap_append

theorem Template.ctypes_directive (d : Directive F) (T : Template F) :
    Template.ctypes (.directive d :: T) = d.ctype.toList ++ T.ctypes := by
  cases d <;> rfl

theorem findIdx?_first {pre : NSString} (hpre : 0x25 ∉ pre) (z : NSString) :
    (pre ++ 0x25 :: z).findIdx? (· = 0x25) = some pre.length := by
  rw [List.findIdx?_append, findIdx?_percent hpre]
  simp [List.findIdx?_cons]

/-- A text has one first `%`. -/
theorem first_inj {pre pre' z z' : NSString} (hpre : 0x25 ∉ pre) (hpre' : 0x25 ∉ pre')
    (h : pre ++ 0x25 :: z = pre' ++ 0x25 :: z') : z = z' := by
  have hlocation := findIdx?_first hpre z
  rw [h, findIdx?_first hpre' z', Option.some.injEq] at hlocation
  exact (List.cons.inj (List.append_inj_right h hlocation.symm)).2

/-- Up to the first `%` of a template there is text, and then there is its first
directive. -/
theorem Template.first (T : Template F) (pre : NSString) (hpre : 0x25 ∉ pre) :
    (T.ctypes = [] ∧ T.Ascii ∧ 0x25 ∉ pre ++ T.format) ∨
      ∃ (pre' : NSString) (d : Directive F) (T' : Template F), 0x25 ∉ pre' ∧
        pre ++ T.format = pre' ++ 0x25 :: (d.letters ++ T'.format) ∧
          T.ctypes = d.ctype.toList ++ T'.ctypes ∧ (T.Ascii ↔ d.Ascii ∧ T'.Ascii) := by
  induction T generalizing pre with
  | nil =>
      refine .inl ⟨rfl, ?_, by simpa [Template.format] using hpre⟩
      intro d hd
      cases hd
  | cons piece T ih =>
    cases piece with
    | text t =>
        have hjoin : 0x25 ∉ pre ++ t.val := by
          rw [List.mem_append, not_or]
          exact ⟨hpre, t.property⟩
        have hformat :
            pre ++ Template.format (.text t :: T) = pre ++ t.val ++ Template.format T := by
          rw [List.append_assoc]
          rfl
        have hascii : Template.Ascii (.text t :: T) ↔ Template.Ascii T := by
          simp [Template.Ascii]
        rw [hformat, hascii]
        exact ih (pre ++ t.val) hjoin
    | directive d =>
        refine .inr ⟨pre, d, T, hpre, rfl, ctypes_directive d T, ?_⟩
        simp [Template.Ascii]

/-- A template that a format begins with has the directives of the format. -/
theorem Template.of_format_eq {T T' : Template F} {rest : NSString}
    (h : T'.format ++ rest = T.format) : T'.ctypes <+: T.ctypes ∧ (T.Ascii → T'.Ascii) := by
  induction hn : T.format.length using Nat.strongRecOn generalizing T T' with
  | ind n ih =>
    subst hn
    rcases T'.first [] List.not_mem_nil with
      ⟨htypes', hascii', -⟩ | ⟨pre', d', S', hpre', hformat', htypes', hascii'⟩
    · rw [htypes']
      exact ⟨List.nil_prefix, fun _ => hascii'⟩
    · rw [List.nil_append] at hformat'
      rw [hformat', List.append_assoc, List.cons_append, List.append_assoc] at h
      rcases T.first [] List.not_mem_nil with
        ⟨-, -, hnone⟩ | ⟨pre, d, S, hpre, hformat, htypes, hascii⟩
      · rw [List.nil_append, ← h] at hnone
        exact absurd (List.mem_append_right _ List.mem_cons_self) hnone
      · rw [List.nil_append] at hformat
        obtain ⟨hletters, hctype, hrest⟩ :=
          letters_append_inj (first_inj hpre' hpre (h.trans hformat))
        have hlt : S.format.length < T.format.length := by
          rw [hformat, List.length_append, List.length_cons, List.length_append]
          omega
        obtain ⟨hbegins, hsmaller⟩ := ih _ hlt hrest rfl
        constructor
        · rw [htypes, htypes', hctype]
          exact List.prefix_append_right_inj _ |>.mpr hbegins
        · intro hT
          have hparts := hascii.mp hT
          refine hascii'.mpr ⟨?_, hsmaller hparts.2⟩
          rw [Directive.Ascii, hletters]
          exact hparts.1

/-- Arguments of the types of a template fit its format. -/
theorem typed_format {T : Template F} {ap : List Arg} (h : T.ctypes <+: ap.map Arg.ctype) :
    Typed F T.format ap :=
  fun _ _ hT' => (Template.of_format_eq hT').1.trans h

/-- A format with one `%`, at its end, asks for no arguments. -/
theorem typed_percent {pre : NSString} (hpre : 0x25 ∉ pre) (ap : List Arg) :
    Typed F (pre ++ [0x25]) ap := by
  intro T rest hT
  rcases T.first [] List.not_mem_nil with
    ⟨htypes, -, -⟩ | ⟨pre', d, T', hpre', hformat, -, -⟩
  · rw [htypes]
    exact List.nil_prefix
  · -- there would have to be letters behind the `%`
    rw [List.nil_append] at hformat
    rw [hformat, List.append_assoc, List.cons_append, List.append_assoc] at hT
    have hletters : d.letters = [] := (List.append_eq_nil_iff.mp (first_inj hpre' hpre hT)).1
    cases d with
    | numeric n => cases n <;> cases hletters
    | _ => cases hletters

/-! ## The loop -/

/-- The loop ends where the switch does. -/
theorem compose_of_error {pre z : NSString} (hpre : 0x25 ∉ pre) {ap : List Arg} {e : Failure}
    (h : directive F Q (0x25 :: z) ap = .error e) (query : NSString) :
    compose F Q (pre ++ 0x25 :: z) ap query = .error e := by
  rw [compose_of_some Q (findIdx?_first hpre z), List.drop_left, h]

/-- The arguments of a template that begins with a directive. -/
theorem Template.ctypes_prefix {d : Directive F} {T : Template F} {ap : List Arg}
    (h : Template.ctypes (.directive d :: T) <+: ap.map Arg.ctype) :
    (d = .percent ∧ T.ctypes <+: ap.map Arg.ctype) ∨
      ∃ a ap', ap = a :: ap' ∧ d.ctype = some a.ctype ∧ T.ctypes <+: ap'.map Arg.ctype := by
  rw [ctypes_directive] at h
  cases hd : d.ctype with
  | none =>
      rw [hd] at h
      cases d with
      | percent => exact .inl ⟨rfl, h⟩
      | _ => cases hd
  | some type =>
      rw [hd] at h
      cases ap with
      | nil => exact absurd (List.prefix_nil.mp h) (List.cons_ne_nil _ _)
      | cons a ap =>
          obtain ⟨htype, hrest⟩ := List.cons_prefix_cons.mp h
          exact .inr ⟨a, ap, rfl, by rw [htype], hrest⟩

/-- The loop comes through a template, or to an argument that is not taken.  Then some
text is still to be copied in front of the rest of the format. -/
def Through (T : Template F) (tail : NSString) (ap : List Arg)
    (result : Except Failure NSString) : Prop :=
  (result = .error .nilArgument ∧ T.Refuses ap) ∨
    ∃ pre query, 0x25 ∉ pre ∧ result = compose F Q (pre ++ tail) (ap.drop T.ctypes.length) query

/-- A directive that is taken, in front of a template. -/
theorem Through.directive {d : Directive F} {T : Template F} {tail : NSString}
    {front ap : List Arg} (hfront : front.length = d.ctype.toList.length)
    {result : Except Failure NSString} (h : Through Q T tail ap result) :
    Through Q (.directive d :: T) tail (front ++ ap) result := by
  have hlength (S : Template F) : Template.ctypes (.directive d :: S) =
      d.ctype.toList ++ S.ctypes := Template.ctypes_directive d S
  rcases h with ⟨hnil, T₁, e, T₂, a, hT, ha, he⟩ | ⟨pre, query, hpre, hrun⟩
  · refine .inl ⟨hnil, .directive d :: T₁, e, T₂, a, by rw [hT]; rfl, ?_, he⟩
    rw [hlength, List.length_append, ← hfront, List.getElem?_append_right (Nat.le_add_right _ _),
      Nat.add_sub_cancel_left]
    exact ha
  · refine .inr ⟨pre, query, hpre, ?_⟩
    rw [hlength, List.length_append, ← hfront, List.drop_length_add_append]
    exact hrun

theorem Through.text {t : { t : NSString // 0x25 ∉ t }} {T : Template F} {tail : NSString}
    {ap : List Arg} {result : Except Failure NSString} (h : Through Q T tail ap result) :
    Through Q (.text t :: T) tail ap result := by
  rcases h with ⟨hnil, T₁, d, T₂, a, hT, ha, hd⟩ | hthrough
  · exact .inl ⟨hnil, .text t :: T₁, d, T₂, a, by rw [hT]; rfl, ha, hd⟩
  · exact .inr hthrough

theorem compose_template (T : Template F) (tail : NSString) {ap : List Arg} {pre : NSString}
    (hpre : 0x25 ∉ pre) (htypes : T.ctypes <+: ap.map Arg.ctype) (query : NSString) :
    Through Q T tail ap (compose F Q (pre ++ (T.format ++ tail)) ap query) := by
  induction T generalizing ap pre query with
  | nil => exact .inr ⟨pre, query, hpre, rfl⟩
  | cons piece T ih =>
    cases piece with
    | text t =>
        have hjoin : 0x25 ∉ pre ++ t.val := by
          rw [List.mem_append, not_or]
          exact ⟨hpre, t.property⟩
        have hformat : pre ++ (Template.format (.text t :: T) ++ tail) =
            pre ++ t.val ++ (Template.format T ++ tail) := by
          simp [Template.format, Piece.format]
        rw [hformat]
        exact Through.text Q (ih hjoin htypes query)
    | directive d =>
        have hformat : pre ++ (Template.format (.directive d :: T) ++ tail) =
            pre ++ 0x25 :: d.letters ++ (Template.format T ++ tail) := by
          simp [Template.format, Piece.format]
        rw [hformat]
        rcases Template.ctypes_prefix htypes with ⟨rfl, htypes'⟩ | ⟨a, ap', rfl, hd, htypes'⟩
        · rw [compose_directive Q hpre (directive_percent Q _ ap)]
          have hfront : ([] : List Arg).length =
              (Directive.percent (F := F)).ctype.toList.length := rfl
          exact Through.directive Q hfront (ih List.not_mem_nil htypes' _)
        · by_cases ha : d.refuses = some a
          · refine .inl ⟨?_, [], d, T, a, rfl, rfl, ha⟩
            rw [List.append_assoc]
            exact compose_of_error Q hpre (directive_refused Q ha _ ap') query
          · rw [compose_directive Q hpre (directive_taken Q hd ha _ ap')]
            have hfront : [a].length = d.ctype.toList.length := by
              rw [hd]
              rfl
            exact Through.directive Q hfront (ih List.not_mem_nil htypes' _)

/-! ## Formats and the loop -/

section
variable {format : NSString} {ap : List Arg}

/-- A template with a directive in front, behind a text. -/
theorem Template.format_cons {pre : NSString} (hpre : 0x25 ∉ pre) (d : Directive F)
    (T : Template F) :
    Template.format (.text ⟨pre, hpre⟩ :: .directive d :: T) =
      pre ++ 0x25 :: (d.letters ++ T.format) := rfl

/-- Every format, taken apart. -/
theorem readings (format : NSString) :
    (∃ T : Template F, T.format = format) ∨ CutShort F format ∨
      ∃ (T : Template F) (z : NSString), T.format ++ 0x25 :: z = format ∧
        ∀ ap, directive F Q (0x25 :: z) ap = .error .invalidFormat := by
  induction hn : format.length using Nat.strongRecOn generalizing format with
  | ind n ih =>
    subst hn
    by_cases hmem : 0x25 ∈ format
    · obtain ⟨pre, z, rfl, hpre⟩ := List.eq_append_cons_of_mem hmem
      have hone : Template.format [.text (F := F) ⟨pre, hpre⟩] = pre := List.append_nil pre
      rcases behind (F := F) Q z with ⟨d, rest, rfl⟩ | hcut | hinvalid
      · have hlt : rest.length < (pre ++ 0x25 :: (d.letters ++ rest)).length := by
          rw [List.length_append, List.length_cons, List.length_append]
          omega
        -- the template of the rest goes on behind this directive
        have hjoin (T : Template F) (tail : NSString) :
            Template.format (.text ⟨pre, hpre⟩ :: .directive d :: T) ++ tail =
              pre ++ 0x25 :: (d.letters ++ (T.format ++ tail)) := by
          rw [Template.format_cons, List.append_assoc, List.cons_append, List.append_assoc]
        rcases ih _ hlt rest rfl with ⟨T, rfl⟩ | ⟨T, cut, hcut, rfl⟩ | ⟨T, z, rfl, hinvalid⟩
        · exact .inl ⟨_, Template.format_cons hpre d T⟩
        · exact .inr (.inl ⟨_, cut, hcut, hjoin T _⟩)
        · exact .inr (.inr ⟨_, z, hjoin T _, hinvalid⟩)
      · exact .inr (.inl ⟨_, z, hcut, by rw [hone]⟩)
      · exact .inr (.inr ⟨_, z, by rw [hone], hinvalid⟩)
    · exact .inl ⟨[.text ⟨format, hmem⟩], List.append_nil format⟩

theorem compose_of_refuses (h : Typed F format ap) (hr : Refuses F format ap) :
    compose F Q format ap [] = .error .nilArgument := by
  obtain ⟨T, rest, hT, T₁, d, T₂, a, rfl, ha, hd⟩ := hr
  have hformat : T₁.format ++ (0x25 :: (d.letters ++ (T₂.format ++ rest))) = format := by
    rw [← hT, Template.format_append, List.append_assoc]
    congr 1
    show _ = 0x25 :: (d.letters ++ T₂.format) ++ rest
    rw [List.cons_append, List.append_assoc]
  have hthrough := compose_template Q T₁ (0x25 :: (d.letters ++ (T₂.format ++ rest)))
    List.not_mem_nil (h T₁ _ hformat) []
  rw [List.nil_append, hformat] at hthrough
  rcases hthrough with ⟨hnil, -⟩ | ⟨pre, query, hpre, hrun⟩
  · exact hnil
  · rw [hrun, ← List.getElem_cons_drop (List.getElem?_eq_some_iff.mp ha).1]
    rw [(List.getElem?_eq_some_iff.mp ha).2]
    exact compose_of_error Q hpre (directive_refused Q hd _ _) query

/-- The loop comes to what is behind a template. -/
theorem compose_behind (h : Typed F format ap) (hr : ¬ Refuses F format ap) {T : Template F}
    {tail : NSString} (hT : T.format ++ tail = format) : ∃ pre ap' query, 0x25 ∉ pre ∧
      compose F Q format ap [] = compose F Q (pre ++ tail) ap' query := by
  have hthrough := compose_template Q T tail List.not_mem_nil (h T tail hT) []
  rw [List.nil_append, hT] at hthrough
  rcases hthrough with ⟨-, hrefuses⟩ | ⟨pre, query, hpre, hrun⟩
  · exact absurd ⟨T, tail, hT, hrefuses⟩ hr
  · exact ⟨pre, _, query, hpre, hrun⟩

theorem compose_of_template (h : Typed F format ap) (hr : ¬ Refuses F format ap) {T : Template F}
    (hT : T.format = format) : ∃ text, compose F Q format ap [] = .ok text := by
  have hnil : T.format ++ [] = format := by rw [List.append_nil, hT]
  obtain ⟨pre, ap', query, hpre, hrun⟩ := compose_behind Q h hr hnil
  rw [hrun, List.append_nil, compose_text Q hpre]
  exact ⟨_, rfl⟩

theorem compose_of_behind (h : Typed F format ap) (hr : ¬ Refuses F format ap) {T : Template F}
    {z : NSString} (hT : T.format ++ 0x25 :: z = format) {e : Failure}
    (hz : ∀ ap, directive F Q (0x25 :: z) ap = .error e) :
    compose F Q format ap [] = .error e := by
  obtain ⟨pre, ap', query, hpre, hrun⟩ := compose_behind Q h hr hT
  rw [hrun, compose_of_error Q hpre (hz ap')]

/-- The format is accepted if every `%` begins a directive, and refused otherwise. -/
structure KeepsGrammar (F : Foundation) (Q : Quoter) (format : NSString) (ap : List Arg) :
    Prop where
  accepted : InGrammar F format → ∃ text, compose F Q format ap [] = .ok text
  refused : ¬ InGrammar F format → compose F Q format ap [] = .error .invalidFormat

theorem KeepsGrammar.ne_error (h : KeepsGrammar F Q format ap) {e : Failure}
    (he : e ≠ .invalidFormat) : compose F Q format ap [] ≠ .error e := by
  intro herror
  by_cases hin : InGrammar F format
  · obtain ⟨text, hok⟩ := h.accepted hin
    rw [herror] at hok
    cases hok
  · have hinvalid := h.refused hin
    rw [herror] at hinvalid
    exact he (Except.error.inj hinvalid)

theorem keepsGrammar_iff_whole (h : Typed F format ap) :
    KeepsGrammar F Q format ap ↔
      ¬ CutShort F format ∧ ¬ Foreign F format ∧ ¬ Refuses F format ap := by
  constructor
  · intro hkeeps
    have hr : ¬ Refuses F format ap := fun hr =>
      hkeeps.ne_error Q Failure.noConfusion (compose_of_refuses Q h hr)
    refine ⟨?_, ?_, hr⟩
    · rintro ⟨T, cut, hcut, hT⟩
      exact hkeeps.ne_error Q Failure.noConfusion
        (compose_of_behind Q h hr hT (directive_cut Q hcut))
    · rintro ⟨T, hascii, hT⟩
      by_cases hin : InGrammar F format
      · obtain ⟨T', hascii', hT'⟩ := hin
        have hsame : T.format ++ [] = T'.format := by rw [List.append_nil, hT, hT']
        exact hascii ((Template.of_format_eq hsame).2 hascii')
      · obtain ⟨text, hok⟩ := compose_of_template Q h hr hT
        have hinvalid := hkeeps.refused hin
        rw [hok] at hinvalid
        cases hinvalid
  · rintro ⟨hcut, hforeign, hr⟩
    constructor
    · rintro ⟨T, -, hT⟩
      exact compose_of_template Q h hr hT
    · intro hin
      rcases readings (F := F) Q format with ⟨T, hT⟩ | hcut' | ⟨T, z, hT, hinvalid⟩
      · exact absurd ⟨T, fun hascii => hin ⟨T, hascii, hT⟩, hT⟩ hforeign
      · exact absurd hcut' hcut
      · exact compose_of_behind Q h hr hT hinvalid

end

end

end Query

end MGMDB
