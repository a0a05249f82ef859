import MGMDB.Exchanges
import MGMDB.SQLite.Apart

/-!
# What an argument cannot change

Strings and data are put into a query as literals, and these stay literals to the engine:
two lists of arguments that differ in nothing else give two statements with the same tokens
but for these literals (`keepsTokens`).  Each place has to stand between delimiters and not
within a token of the template that quotes.  For SQLite such a token may be a parameter,
which takes what is between parentheses behind it for an argument (`not_keepsTokens`).
-/

namespace MGMDB

open Lexing

namespace Query

section
variable {κ μ : Type} {F : Foundation}

/-! ## Statements with literals -/

/-- The empty literals, one for each place. -/
def empties (hs : List (LiteralClass × List UInt8)) : List (List UInt8) :=
  hs.map fun h => h.1.empty

/-- Delimiters or an end of the text stand before and behind each place, and with empty
literals no quoting token runs over one. -/
structure Apart (L : Lexer UInt8 κ μ) (Quoting : List UInt8 → Prop)
    (p : List UInt8 × List (LiteralClass × List UInt8)) : Prop where
  before : p.2 = [] ∨ p.1 = [] ∨ Ends Delimiter p.1
  between : Delimited Delimiter p.2
  outside : ∀ o ∈ prefixes p.1 p.2 (empties p.2), ∀ token,
    L.covering L.start (fill p.1 p.2 (empties p.2)) o.length = some token → ¬ Quoting token.text

/-- Where the places stand apart, the statement of the second list has the tokens of the
first, but for the literals in the places. -/
def Template.KeepsTokens (L : Lexer UInt8 κ μ) (Quoting : List UInt8 → Prop) (Q : Quoter)
    (T : Template F) (ap ap' : List Arg) : Prop :=
  ∀ sql p, handed (compose F Q T.format ap []) = .engine (some sql) →
    T.sqlPlaces Q ap = some p → Apart L Quoting p →
    ∃ (sql' : CString) (ws ws' : List (List UInt8)),
      handed (compose F Q T.format ap' []) = .engine (some sql') ∧
      (T.literals Q ap).map UTF8String = ws.map some ∧
      (T.literals Q ap').map UTF8String = ws'.map some ∧
      Alike (L.lex L.start sql.val) (L.lex L.start sql'.val) ((ws.zip ws').take p.2.length)

variable {escapes : UInt8 → Bool} {Q : Quoter} {T : Template F} {ap ap' : List Arg}

theorem forall₂_empties (escapes : UInt8 → Bool) (hs : List (LiteralClass × List UInt8)) :
    List.Forall₂ (fun h w => Literal escapes h.1 w) hs (empties hs) := by
  rw [empties, List.forall₂_map_right_iff]
  exact List.forall₂_same.mpr fun h _ => literal_empty escapes h.1

theorem classes_utf8Behind {hs : List (LiteralClass × NSString)}
    {rest : List (LiteralClass × List UInt8)} (h : utf8Behind hs = some rest) :
    rest.map Prod.fst = hs.map Prod.fst := by
  induction hs generalizing rest with
  | nil =>
      obtain rfl := Option.some.inj h
      rfl
  | cons h' hs ih =>
      obtain ⟨k, u⟩ := h'
      obtain ⟨bytes, -, hrest⟩ := Option.bind_eq_some_iff.mp h
      obtain ⟨rest', hrest', rfl⟩ := Option.map_eq_some_iff.mp hrest
      rw [List.map_cons, List.map_cons, ih hrest']

/-- The bytes of the literals of the places. -/
theorem forall₂_literal {hs : List (LiteralClass × NSString)}
    {rest : List (LiteralClass × List UInt8)} {lits : List (NSString × List UInt8)}
    (hrest : utf8Behind hs = some rest)
    (h : List.Forall₂ (fun h l => WritesLiteral escapes h.1 l.1 l.2) hs lits) :
    List.Forall₂ (fun h w => Literal escapes h.1 w) rest (lits.map Prod.snd) := by
  have hclasses : List.Forall₂ (fun k w => Literal escapes k w) (hs.map Prod.fst)
      (lits.map Prod.snd) := by
    rw [List.forall₂_map_left_iff, List.forall₂_map_right_iff]
    exact h.imp fun _ _ hw => hw.literal
  rw [← classes_utf8Behind hrest, List.forall₂_map_left_iff] at hclasses
  exact hclasses

/-- A text is empty exactly if it has no places and nothing around them. -/
theorem fill_eq_nil_iff {t : NSString} {hs : List (LiteralClass × NSString)}
    {lits : List (NSString × List UInt8)}
    (h : List.Forall₂ (fun h l => WritesLiteral escapes h.1 l.1 l.2) hs lits) :
    fill t hs (lits.map Prod.fst) = [] ↔ t = [] ∧ hs = [] := by
  cases h with
  | nil => simp
  | @cons h l hs lits hw _ =>
      obtain ⟨front, u, -, hlast⟩ := hw.last
      rw [List.map_cons, fill_cons, hlast]
      simp

/-- The lexer of an engine that keeps literals apart reads the two statements alike. -/
theorem keepsTokens_of_interchange {L : Lexer UInt8 κ μ} {Quoting : List UInt8 → Prop}
    (I : Interchange L Delimiter (Literal escapes) Quoting) (hQ : Q.Writes escapes)
    (h : T.Exchanges ap ap') : T.KeepsTokens L Quoting Q ap ap' := by
  intro sql p hsql hp hapart
  have hcompose {ap ap' : List Arg} (h : T.Exchanges ap ap') :
      compose F Q T.format ap [] =
        .ok (fill (T.places Q ap).1 (T.places Q ap).2 (T.literals Q ap)) := by
    rw [← texts_flatten Q T h.matches]
    exact compose_append_format Q T ap [] [] List.not_mem_nil h.matches
  obtain ⟨lits, hfst, hlits⟩ := hQ.literals h
  obtain ⟨lits', hfst', hlits'⟩ := hQ.literals h.symm
  rw [← h.places_eq Q] at hlits'
  obtain ⟨bytes, hbytes, hbehind⟩ := Option.bind_eq_some_iff.mp hp
  obtain ⟨rest, hrest, rfl⟩ := Option.map_eq_some_iff.mp hbehind
  rw [hcompose h, handed_ok_iff, ← hfst, utf8_fill hlits, hbytes, hrest, Ne,
    fill_eq_nil_iff hlits] at hsql
  obtain ⟨hne, hsql⟩ := hsql
  have hsql' : handed (compose F Q T.format ap' []) =
      .engine (some (cString (fill bytes rest (lits'.map Prod.snd)))) := by
    rw [hcompose h.symm, ← h.places_eq Q, handed_ok_iff, ← hfst', utf8_fill hlits', hbytes, hrest,
      Ne, fill_eq_nil_iff hlits']
    exact ⟨hne, rfl⟩
  obtain rfl := Option.some.inj hsql
  refine ⟨_, lits.map Prod.snd, lits'.map Prod.snd, hsql', ?_, ?_, ?_⟩
  · rw [← hfst, map_utf8 hlits]
  · rw [← hfst', map_utf8 hlits']
  refine I.alike_takeWhile ?_ hapart.between (forall₂_empties escapes _)
    (forall₂_literal hrest hlits) (forall₂_literal hrest hlits') (all_ne_zero hlits)
    (all_ne_zero hlits') hapart.outside
  rcases hapart.before with hnone | hnil | hends
  · exact .inl hnone
  · exact .inr (.inl ⟨hnil, I.settled_start⟩)
  · exact .inr (.inr hends)

end

end Query

/-! ## The two classes -/

/-- Strings and data do not change the tokens of a statement.  `L` is the lexer of a MySQL
server. -/
theorem keepsTokens (F : Foundation) {κ μ : Type} (L : Lexer UInt8 κ μ)
    (I : Interchange L Delimiter (Literal MySQL.escapes) MySQL.Encloses)
    (keywordCode : List UInt8 → SQLite.TokenType) {T : Query.Template F} {ap ap' : List Arg}
    (h : T.Exchanges ap ap') :
    T.KeepsTokens L MySQL.Encloses (MGMMyConnection.quoter F) ap ap' ∧
      T.KeepsTokens (SQLite.lexer keywordCode) SQLite.Quoting (MGMLiteConnection.quoter F) ap ap' :=
  ⟨Query.keepsTokens_of_interchange I (MGMMyConnection.writes F) h,
    Query.keepsTokens_of_interchange (SQLite.interchange keywordCode)
      (MGMLiteConnection.writes F) h⟩

/-! ## Examples -/

/-- An argument that is a string. -/
def stringArg (s : String) : Arg := .object (some (.string (lit s)))

/-- A condition on a name. -/
def nameTemplate : Query.Template default :=
  [.text ⟨lit "SELECT id FROM t WHERE name = ", by decide⟩, .directive .object]

def namePlaces : List UInt8 × List (LiteralClass × List UInt8) :=
  (ascii "SELECT id FROM t WHERE name = ", [(.string, [])])

theorem exchanges_name :
    nameTemplate.Exchanges [stringArg "Ann"] [stringArg "' OR 1=1 --"] :=
  ⟨.strings ⟨by decide, rfl⟩ ⟨by decide, rfl⟩, trivial⟩

theorem apart_namePlaces {κ μ : Type} {L : Lexer UInt8 κ μ} (Quoting : List UInt8 → Prop)
    (h : L.covering L.start (fill namePlaces.1 namePlaces.2 (Query.empties namePlaces.2))
      namePlaces.1.length = none) : Query.Apart L Quoting namePlaces where
  before := .inr (.inr ⟨ascii "SELECT id FROM t WHERE name =", 0x20, .inl rfl, by decide⟩)
  between d hd := by cases hd
  outside o ho token htoken := by
    obtain rfl : o = namePlaces.1 := List.mem_singleton.mp ho
    rw [h] at htoken
    cases htoken

/-- A blank in an argument of a parameter makes another token of it. -/
def parameterTemplate : Query.Template default :=
  [.text ⟨lit "SELECT $a(", by decide⟩, .directive .object, .text ⟨lit ");", by decide⟩]

def parameterPlaces : List UInt8 × List (LiteralClass × List UInt8) :=
  (ascii "SELECT $a(", [(.string, ascii ");")])

/-- Outside literals, quoted identifiers and comments is not enough for SQLite. -/
theorem not_keepsTokens :
    ¬ ∀ (F : Foundation) {κ μ : Type} (L : Lexer UInt8 κ μ),
      Interchange L Delimiter (Literal MySQL.escapes) MySQL.Encloses →
      ∀ (keywordCode : List UInt8 → SQLite.TokenType) {T : Query.Template F} {ap ap' : List Arg},
      T.Exchanges ap ap' →
      T.KeepsTokens L MySQL.Encloses (MGMMyConnection.quoter F) ap ap' ∧
        T.KeepsTokens (SQLite.lexer keywordCode) SQLite.Encloses (MGMLiteConnection.quoter F)
          ap ap' := by
  intro h
  have hexchanges : parameterTemplate.Exchanges [stringArg "x"] [stringArg "x y"] :=
    ⟨.strings ⟨by decide, rfl⟩ ⟨by decide, rfl⟩, trivial⟩
  have hcovering : (SQLite.lexer fun _ => .id).covering () (ascii "SELECT $a('');")
      parameterPlaces.1.length = some ⟨.variable, ascii "$a('')"⟩ := by decide +kernel
  have hapart : Query.Apart (SQLite.lexer fun _ => .id) SQLite.Encloses parameterPlaces := by
    refine ⟨.inr (.inr ⟨ascii "SELECT $a", 0x28, .inr (.inr (.inl rfl)), by decide⟩), ?_, ?_⟩
    · intro d hd
      obtain rfl := Option.some.inj hd
      exact .inr (.inr (.inr (.inl rfl)))
    · intro o ho token htoken
      obtain rfl : o = parameterPlaces.1 := List.mem_singleton.mp ho
      obtain rfl := Option.some.inj (hcovering.symm.trans htoken)
      decide
  obtain ⟨sql', ws, ws', hsql', -, -, halike⟩ := (h default MySQL.plainLexer MySQL.plainInterchange
    (fun _ => .id) hexchanges).2 (cString (ascii "SELECT $a('x');")) parameterPlaces
    (by decide +kernel) (by decide +kernel) hapart
  have hhanded : handed (Query.compose default (MGMLiteConnection.quoter default)
      parameterTemplate.format [stringArg "x y"] []) =
        .engine (some (cString (ascii "SELECT $a('x y');"))) := by decide +kernel
  obtain rfl : cString (ascii "SELECT $a('x y');") = sql' := engine_inj hhanded hsql'
  have hkinds := halike.kinds
  revert hkinds
  decide +kernel

theorem keepsTokens_name :
    (∃ literals, Alike
      (MySQL.plainLexer.lex () (ascii "SELECT id FROM t WHERE name = 'Ann'"))
      (MySQL.plainLexer.lex () (ascii "SELECT id FROM t WHERE name = '\\' OR 1=1 --'"))
      literals) ∧
    ∃ literals, Alike
      ((SQLite.lexer fun _ => .id).lex () (ascii "SELECT id FROM t WHERE name = 'Ann'"))
      ((SQLite.lexer fun _ => .id).lex () (ascii "SELECT id FROM t WHERE name = ''' OR 1=1 --'"))
      literals := by
  obtain ⟨hmy, hlite⟩ := keepsTokens default MySQL.plainLexer MySQL.plainInterchange (fun _ => .id)
    exchanges_name
  constructor
  · obtain ⟨sql', ws, ws', hsql', -, -, halike⟩ :=
      hmy (cString (ascii "SELECT id FROM t WHERE name = 'Ann'")) namePlaces (by decide +kernel)
        (by decide +kernel) (apart_namePlaces _ (by decide +kernel))
    obtain rfl : cString (ascii "SELECT id FROM t WHERE name = '\\' OR 1=1 --'") = sql' :=
      engine_inj (by decide +kernel) hsql'
    exact ⟨_, halike⟩
  · obtain ⟨sql', ws, ws', hsql', -, -, halike⟩ :=
      hlite (cString (ascii "SELECT id FROM t WHERE name = 'Ann'")) namePlaces (by decide +kernel)
        (by decide +kernel) (apart_namePlaces _ (by decide +kernel))
    obtain rfl : cString (ascii "SELECT id FROM t WHERE name = ''' OR 1=1 --'") = sql' :=
      engine_inj (by decide +kernel) hsql'
    exact ⟨_, halike⟩

end MGMDB
