import MGMDB.Lexing.Interchange
import MGMDB.Literals

/-!
# Literals among the tokens of MySQL

What is known of the lexer of a server is that `'...'` and `X'...'` are one token each, with
the escapes of the default `sql_mode`, and that a token that runs over a delimiter is a
literal, a quoted identifier or a comment; `Lexing.Interchange` says it of a lexer.
`plainLexer` is one for which it holds.
-/

namespace MGMDB

namespace MySQL

open Scan Lexing

/-- A backslash takes the next character of a string with it. -/
def escapes (c : UInt8) : Bool := c = 0x5C

/-- A token that begins like a literal, a quoted identifier or a comment. -/
def Encloses : List UInt8 → Prop
  | [] => False
  | c :: z =>
      (c = 0x27 ∨ c = 0x22 ∨ c = 0x60 ∨ c = 0x23) ∨
        (c = 0x2D ∧ z.head? = some 0x2D) ∨ (c = 0x2F ∧ z.head? = some 0x2A) ∨
        ((c = 0x78 ∨ c = 0x58 ∨ c = 0x62 ∨ c = 0x42 ∨ c = 0x6E ∨ c = 0x4E) ∧
          z.head? = some 0x27)

/-! ## A lexer -/

inductive TokenKind where
  | blank | string | quotedName | data | word | other
deriving DecidableEq, Repr

/-- Letters, digits, `$`, `_` and whatever is not ASCII. -/
def isWordByte (c : UInt8) : Bool :=
  (0x30 ≤ c && c ≤ 0x39) || (0x41 ≤ c && c ≤ 0x5A) || (0x61 ≤ c && c ≤ 0x7A) || c = 0x24 ||
    c = 0x5F || 0x80 ≤ c

/-- The token that begins with `c`.  Comments are no tokens of their own. -/
def plainToken (c : UInt8) : Scanner UInt8 TokenKind := fun z =>
  if isspace c = true then (.blank, z.dropWhile isspace)
  else if c = 0x27 ∨ c = 0x22 then (.string, (upToQuote escapes c z).2)
  else if c = 0x60 then (.quotedName, (upToQuote (fun _ => false) c z).2)
  else if (c = 0x78 ∨ c = 0x58) ∧ z.head? = some 0x27 then (.data, (upTo 0x27 z.tail).2)
  else if isWordByte c = true then (.word, z.dropWhile isWordByte)
  else (.other, z)

def plainScanner : Scanner UInt8 TokenKind
  | [] => (.other, [])
  | c :: z => plainToken c z

section
variable {d x c : UInt8} {p v : List UInt8}

theorem shrinks_plainToken (c : UInt8) : Shrinks (plainToken c) := by
  intro z
  have htail : (upTo 0x27 z.tail).2.length ≤ z.length := by
    refine Nat.le_trans (shrinks_upTo 0x27 z.tail) ?_
    rw [List.length_tail]
    exact Nat.sub_le _ _
  unfold plainToken
  refine length_ite_le (fun _ => length_dropWhile_le isspace z) fun _ => ?_
  refine length_ite_le (fun _ => shrinks_upToQuote escapes c z) fun _ => ?_
  refine length_ite_le (fun _ => shrinks_upToQuote _ c z) fun _ => ?_
  refine length_ite_le (fun _ => htail) fun _ => ?_
  exact length_ite_le (fun _ => length_dropWhile_le isWordByte z) fun _ => Nat.le_refl _

theorem settles_plainToken (hd : Delimiter d) (c : UInt8) : Settles d x (plainToken c) := by
  unfold plainToken
  refine Settles.ite (settles_of_local (local_dropWhile isspace fun _ => TokenKind.blank)) ?_
  refine Settles.ite
    (settles_of_local ((local_upToQuote escapes c).map fun _ => TokenKind.string)) ?_
  refine Settles.ite (settles_of_local ((local_upToQuote _ c).map fun _ => TokenKind.quotedName)) ?_
  refine Settles.second hd.ne_quote ((local_upTo 0x27).map fun _ => TokenKind.data) ?_
  refine Settles.ite (settles_of_local (local_dropWhile isWordByte fun _ => TokenKind.word)) ?_
  exact settles_of_stops (stops_pure _)

theorem isspace_of_opening (hx : Opening x) : isspace x = false := by
  rcases hx with rfl | rfl <;> rfl

theorem isWordByte_of_delimiter (hd : Delimiter d) : isWordByte d = false := by
  rcases hd with hspace | rfl | rfl | rfl | rfl
  · rcases eq_of_isspace hspace with rfl | rfl | rfl | rfl | rfl | rfl <;> rfl
  all_goals rfl

/-- A delimiter is a token of its own before a literal. -/
theorem plainToken_delimiter (hd : Delimiter d) (hx : Opening x) :
    ∃ k, ∀ v, plainToken d (x :: v) = (k, x :: v) := by
  rcases hd with hspace | rfl | rfl | rfl | rfl
  · refine ⟨.blank, fun v => ?_⟩
    have hnone : (x :: v).dropWhile isspace = x :: v :=
      List.dropWhile_cons_of_neg (by rw [isspace_of_opening hx]; exact Bool.false_ne_true)
    rw [plainToken, if_pos hspace, hnone]
  all_goals exact ⟨.other, fun v => rfl⟩

theorem leaves_plainToken (hd : Delimiter d) (hx : Opening x)
    (hq : ¬ Encloses (c :: (p ++ d :: x :: v))) :
    v.length < (plainToken c (p ++ d :: x :: v)).2.length := by
  have hquote : ¬ (c = 0x27 ∨ c = 0x22 ∨ c = 0x60 ∨ c = 0x23) := fun h => hq (.inl h)
  have hdata : ¬ ((c = 0x78 ∨ c = 0x58) ∧ (p ++ d :: x :: v).head? = some 0x27) := fun h =>
    hq (.inr (.inr (.inr ⟨h.1.imp_right .inl, h.2⟩)))
  have hblank := leaves_of_stops (stops_dropWhile isspace (isspace_of_opening hx)
    fun _ => TokenKind.blank) (p ++ [d]) v
  have hword := leaves_of_stops (stops_dropWhile isWordByte (isWordByte_of_delimiter hd)
    fun _ => TokenKind.word) p (x :: v)
  rw [List.append_assoc] at hblank
  unfold plainToken
  refine lt_length_ite (fun _ => hblank) fun _ => ?_
  refine lt_length_ite (fun h => absurd ?_ hquote) fun _ => ?_
  · rcases h with h | h
    · exact .inl h
    · exact .inr (.inl h)
  refine lt_length_ite (fun h => absurd (.inr (.inr (.inl h))) hquote) fun _ => ?_
  refine lt_length_ite (fun h => absurd h hdata) fun _ => ?_
  refine lt_length_ite (fun _ => Nat.lt_of_succ_lt hword) fun _ => ?_
  simp only [List.length_append, List.length_cons]
  omega

end

theorem plainScanner_separates : Separates plainScanner Delimiter Opening Encloses :=
  separates_of_token (fun _ _ => rfl) shrinks_plainToken (fun hd _ => settles_plainToken hd)
    plainToken_delimiter leaves_plainToken fun _ h => h

def plainLexer : Lexing.Lexer UInt8 TokenKind Unit :=
  .ofScanner plainScanner plainScanner_separates.shrinks

/-- The kind of the literals of a class. -/
def kind : LiteralClass → TokenKind
  | .string => .string
  | .data => .data

theorem plainScanner_literal {k : LiteralClass} {w rest : List UInt8} (h : Literal escapes k w)
    (hrest : Starts Delimiter rest) : plainScanner (w ++ rest) = (kind k, rest) := by
  cases k with
  | string =>
      obtain ⟨body, hbody, rfl⟩ := h
      have hquote : upToQuote escapes 0x27 (body ++ 0x27 :: rest) = (true, rest) :=
        hbody.upToQuote Bool.false_ne_true fun hhead => (hrest _ hhead).ne_quote rfl
      have htoken : plainScanner (0x27 :: (body ++ [0x27]) ++ rest) =
          (.string, (upToQuote escapes 0x27 (body ++ [0x27] ++ rest)).2) := rfl
      rw [htoken, List.append_assoc, List.singleton_append, hquote]
      rfl
  | data =>
      obtain ⟨digits, hdigits, -, rfl⟩ := h
      have htoken : plainScanner (0x58 :: 0x27 :: (digits ++ [0x27]) ++ rest) =
          (.data, (upTo 0x27 (digits ++ [0x27] ++ rest)).2) := rfl
      rw [htoken, List.append_assoc, List.singleton_append,
        upTo_append fun c hc => (hdigits c hc).ne_quote]
      rfl

def plainInterchange : Interchange plainLexer Delimiter (Literal escapes) Encloses :=
  plainScanner_separates.interchange kind LiteralClass.opening LiteralClass.opening_opening
    Literal.eq_cons plainScanner_literal

end MySQL

end MGMDB
