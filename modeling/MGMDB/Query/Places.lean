import MGMDB.Lexing.Interchange
import MGMDB.Literals
import MGMDB.Query.Quoted
import MGMDB.Query.Template

/-!
# The places of a template

`%@` and `%s` quote their argument, and the other directives print it.  `places` is a
template with the others printed and a place left for each literal; `texts_flatten` fills
the literals in.  A literal begins and ends in ASCII, so the UTF-8 of the whole is that of
the parts (`utf8_fill`).
-/

namespace MGMDB

namespace Query

open Lexing

section
variable {F : Foundation}

/-! ## Places -/

/-- The directives that quote their argument. -/
def Directive.quotes : Directive F → Bool
  | .object | .cString => true
  | _ => false

/-- The class of the literal an argument is quoted as, if it is a string or data. -/
def literalClass : Arg → LiteralClass
  | .object (some (.data _)) => .data
  | _ => .string

/-- The text before the first place and, for each place, its class and the text behind
it. -/
def Template.places (Q : Quoter) :
    Template F → List Arg → NSString × List (LiteralClass × NSString)
  | [], _ => ([], [])
  | .text t :: T, as => (t.val ++ (Template.places Q T as).1, (Template.places Q T as).2)
  | .directive .percent :: T, as =>
      (lit "%" ++ (Template.places Q T as).1, (Template.places Q T as).2)
  | .directive d :: T, a :: as =>
      if d.quotes then
        ([], (literalClass a, (Template.places Q T as).1) :: (Template.places Q T as).2)
      else (d.rendering Q a ++ (Template.places Q T as).1, (Template.places Q T as).2)
  | .directive _ :: _, [] => ([], [])

/-- What is filled in. -/
def Template.literals (Q : Quoter) : Template F → List Arg → List NSString
  | [], _ => []
  | .text _ :: T, as => Template.literals Q T as
  | .directive .percent :: T, as => Template.literals Q T as
  | .directive d :: T, a :: as =>
      if d.quotes then d.rendering Q a :: Template.literals Q T as else Template.literals Q T as
  | .directive _ :: _, [] => []

variable (Q : Quoter)

theorem Template.places_directive {d : Directive F} (hd : d ≠ .percent) (T : Template F) (a : Arg)
    (as : List Arg) :
    Template.places Q (.directive d :: T) (a :: as) =
      if d.quotes then ([], (literalClass a, (T.places Q as).1) :: (T.places Q as).2)
      else (d.rendering Q a ++ (T.places Q as).1, (T.places Q as).2) := by
  cases d <;> first | exact absurd rfl hd | rfl

theorem Template.literals_directive {d : Directive F} (hd : d ≠ .percent) (T : Template F)
    (a : Arg) (as : List Arg) :
    Template.literals Q (.directive d :: T) (a :: as) =
      if d.quotes then d.rendering Q a :: T.literals Q as else T.literals Q as := by
  cases d <;> first | exact absurd rfl hd | rfl

theorem fill_append (s t : NSString) (hs : List (LiteralClass × NSString))
    (ws : List NSString) : fill (s ++ t) hs ws = s ++ fill t hs ws := by
  cases hs with
  | nil => rw [fill_nil, fill_nil]
  | cons h hs =>
      cases ws with
      | nil => rfl
      | cons w ws => rw [fill_cons, fill_cons, List.append_assoc]

/-- The text is that of the places with the literals in them. -/
theorem texts_flatten (T : Template F) {ap : List Arg} (h : T.Matches ap) :
    (T.texts Q ap).flatten =
      fill (T.places Q ap).1 (T.places Q ap).2 (T.literals Q ap) := by
  induction T generalizing ap with
  | nil => rfl
  | cons piece T ih =>
    cases piece with
    | text t =>
        rw [Template.texts, List.flatten_cons, ih h, Template.places, Template.literals,
          fill_append]
    | directive d =>
        by_cases hd : d = .percent
        · subst hd
          rw [Template.texts, List.flatten_cons, ih h, Template.places, Template.literals,
            fill_append]
        · obtain ⟨a, as, rfl, -, hm⟩ := Template.matches_directive hd h
          rw [Template.texts_directive Q hd, List.flatten_cons, ih hm,
            Template.places_directive Q hd, Template.literals_directive Q hd]
          split
          · rw [fill_cons, List.nil_append]
          · rw [fill_append]

/-! ## Places in bytes -/

/-- The UTF-8 of the texts behind the places. -/
def utf8Behind : List (LiteralClass × NSString) → Option (List (LiteralClass × List UInt8))
  | [] => some []
  | (k, u) :: hs =>
      (UTF8String u).bind fun bytes => (utf8Behind hs).map fun rest => (k, bytes) :: rest

/-- What the engine gets of the text around the literals: bytes, up to the first NUL. -/
def Template.sqlPlaces (T : Template F) (ap : List Arg) :
    Option (List UInt8 × List (LiteralClass × List UInt8)) :=
  (UTF8String (T.places Q ap).1).bind fun bytes =>
    (utf8Behind (T.places Q ap).2).map fun rest => cut (· ≠ 0) bytes rest

end

/-- The bytes of a literal that `quoteObject:` writes. -/
structure WritesLiteral (escapes : UInt8 → Bool) (k : LiteralClass) (text : NSString)
    (w : List UInt8) : Prop where
  utf8 : UTF8String text = some w
  literal : Literal escapes k w
  noNul : 0 ∉ w
  first : ∀ u ∈ text.head?, u < 0x80
  last : ∃ front u, u < 0x80 ∧ text = front ++ [u]

section
variable {escapes : UInt8 → Bool} {k : LiteralClass} {text : NSString} {w : List UInt8}

theorem WritesLiteral.utf8_append (h : WritesLiteral escapes k text w) (rest : NSString) :
    UTF8String (text ++ rest) = (UTF8String rest).map (w ++ ·) := by
  obtain ⟨front, u, hu, htext⟩ := h.last
  have hutf8 := h.utf8
  have hascii (us : NSString) : ∀ v ∈ (u :: us).head?, Unicode.isLow v = false := by
    intro v hv
    obtain rfl := Option.some.inj hv
    exact (Unicode.not_surrogate hu).2
  rw [htext, UTF8String, Unicode.toUtf8_append front (hascii []), Unicode.toUtf8_cons hu] at hutf8
  rw [htext, List.append_assoc, List.singleton_append, UTF8String,
    Unicode.toUtf8_append front (hascii rest), Unicode.toUtf8_cons hu]
  obtain ⟨bytes, hbytes, hw⟩ := Option.bind_eq_some_iff.mp hutf8
  have hnil : Unicode.toUtf8 [] = some [] := rfl
  rw [hnil, Option.map_some, Option.map_some] at hw
  obtain rfl := Option.some.inj hw
  rw [hbytes, Option.bind_some, Option.map_map, UTF8String]
  congr 1
  funext tail
  simp

theorem WritesLiteral.utf8_behind (h : WritesLiteral escapes k text w) (t rest : NSString) :
    UTF8String (t ++ (text ++ rest)) =
      (UTF8String t).bind fun x => (UTF8String (text ++ rest)).map (x ++ ·) := by
  refine Unicode.toUtf8_append t ?_
  intro v hv
  obtain ⟨front, u, -, htext⟩ := h.last
  rw [List.head?_append_of_ne_nil _ (by simp [htext])] at hv
  exact (Unicode.not_surrogate (h.first v hv)).2

theorem map_utf8 {hs : List (LiteralClass × NSString)} {lits : List (NSString × List UInt8)}
    (h : List.Forall₂ (fun h l => WritesLiteral escapes h.1 l.1 l.2) hs lits) :
    (lits.map Prod.fst).map UTF8String = (lits.map Prod.snd).map some := by
  induction h with
  | nil => rfl
  | cons hw _ ih => simp only [List.map_cons, hw.utf8, ih]

/-- The literals do not end a C string. -/
theorem all_ne_zero {hs : List (LiteralClass × NSString)} {lits : List (NSString × List UInt8)}
    (h : List.Forall₂ (fun h l => WritesLiteral escapes h.1 l.1 l.2) hs lits) :
    ∀ w ∈ lits.map Prod.snd, w.all (· ≠ 0) = true := by
  induction h with
  | nil => exact List.forall_mem_nil _
  | cons hw _ ih =>
      refine List.forall_mem_cons.mpr ⟨List.all_eq_true.mpr fun b hb => decide_eq_true ?_, ih⟩
      rintro rfl
      exact hw.noNul hb

/-- The bytes of a text with literals in its places. -/
theorem utf8_fill {hs : List (LiteralClass × NSString)} {lits : List (NSString × List UInt8)}
    (h : List.Forall₂ (fun h l => WritesLiteral escapes h.1 l.1 l.2) hs lits) (t : NSString) :
    UTF8String (fill t hs (lits.map Prod.fst)) =
      (UTF8String t).bind fun bytes =>
        (utf8Behind hs).map fun rest => fill bytes rest (lits.map Prod.snd) := by
  induction h generalizing t with
  | nil =>
      simp only [utf8Behind, fill_nil, Option.map_some]
      cases UTF8String t <;> rfl
  | @cons h l hs lits hw _ ih =>
      obtain ⟨c, u⟩ := h
      rw [List.map_cons, List.map_cons, fill_cons, hw.utf8_behind, hw.utf8_append, ih, utf8Behind]
      cases UTF8String t with
      | none => rfl
      | some x =>
        cases UTF8String u with
        | none => rfl
        | some y =>
          cases utf8Behind hs with
          | none => rfl
          | some rest => rfl

end

end Query

end MGMDB
