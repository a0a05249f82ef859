import MGMDB.SQLite.Tokens

/-!
# Tokens around literals

A literal of SQLite stands behind a delimiter.  `settles_token` says that a token which
ends before the literal does not depend on it, and `leaves_token` that only a token of
`Quoting` runs over the delimiter: a literal, a quoted name, a comment or a named
parameter.  The literal itself is one token, and so is a delimiter before it.  So the
tokens of a statement are those before the literal, the literal and those behind it, and
one literal may stand for another: `interchange` is the instance of the general rules for
the lexer of SQLite.
-/

namespace MGMDB

namespace SQLite

open Scan Lexing

section
variable {d x c : UInt8} {g : Scanner UInt8 TokenType} (keywordCode : List UInt8 → TokenType)

/-- A token that ends before a literal is the same before all literals. -/
theorem settles_token (hd : Delimiter d) (hx : Opening x) (c : UInt8) :
    Settles d x (token keywordCode c) := by
  obtain ⟨hid, hplus, hminus, hdot⟩ := plain_of_delimiter hd
  obtain ⟨hstar, hslash, hcolon, hparen⟩ : x ≠ 0x2A ∧ x ≠ 0x2F ∧ x ≠ 0x3A ∧ x ≠ 0x28 := by
    rcases hx with rfl | rfl <;> decide
  have hpure : ∀ k : TokenType, Settles d x fun z => (k, z) :=
    fun k => settles_of_stops (stops_pure k)
  have hoperator : ∀ alone pairs, Settles d x (operator alone pairs) :=
    fun alone pairs => settles_of_local (local_operator alone pairs)
  have hrun : ∀ (P : UInt8 → Bool) (k : TokenType), Settles d x fun z => (k, z.dropWhile P) :=
    fun P k => settles_of_local (local_dropWhile P fun _ => k)
  have hnumber : Settles d x fun z => number (c :: z) :=
    settles_of_stops fun q => stops_number hid ⟨hplus, hminus, hdot⟩ (c :: q)
  unfold token
  refine Settles.ite (hrun _ _) (Settles.ite (settles_of_local local_minus) ?_)
  refine Settles.ite (hpure _) (Settles.ite (hpure _) (Settles.ite (hpure _) ?_))
  refine Settles.ite (hpure _) (Settles.ite (hpure _) ?_)
  refine Settles.ite (settles_of_local (local_slash hstar hslash)) (Settles.ite (hpure _) ?_)
  refine Settles.ite (hoperator _ _) (Settles.ite (hoperator _ _) (Settles.ite (hoperator _ _) ?_))
  refine Settles.ite (settles_of_local local_bang) (Settles.ite (hoperator _ _) ?_)
  refine Settles.ite (hpure _) (Settles.ite (hpure _) (Settles.ite (hpure _) ?_))
  refine Settles.ite (settles_of_local (local_quoted c)) (Settles.ite ?_ ?_)
  · exact Settles.iteHead (P := fun o => o.any sqlite3Isdigit = true) hnumber (hpure _)
  refine Settles.ite hnumber (Settles.ite (settles_of_local local_bracket) ?_)
  refine Settles.ite (hrun _ _) ?_
  refine Settles.iteHead (P := fun o => c = 0x23 ∧ o.any sqlite3Isdigit = true) (hrun _ _) ?_
  refine Settles.ite (settles_of_local (local_parameter hcolon hparen false)) ?_
  refine Settles.second hd.ne_quote local_blob (Settles.ite ?_ (hpure _))
  exact settles_of_local (local_dropWhile IdChar fun before => keywordCode (c :: before))

/-! ## Tokens that do not quote -/

variable {f : Scanner UInt8 TokenType} {p v z : List UInt8}

/-- An operator is one character or two. -/
theorem length_operator (alone : TokenType) (pairs : List (UInt8 × TokenType)) (z : List UInt8) :
    z.length ≤ (operator alone pairs z).2.length + 1 := by
  cases z with
  | nil => exact Nat.zero_le _
  | cons a z =>
      rw [operator, onNext]
      cases pairs.lookup a with
      | none => exact Nat.le_succ _
      | some k => exact Nat.le_refl _

theorem length_bang (z : List UInt8) : z.length ≤ (bang z).2.length + 1 := by
  cases z with
  | nil => exact Nat.zero_le _
  | cons a z => exact Nat.le_refl _

theorem minus_of_head (h : z.head? ≠ some 0x2D) : minus z = (.minus, z) := by
  cases z with
  | nil => rfl
  | cons a z =>
      have ha : a ≠ 0x2D := fun ha => h (congrArg some ha)
      rw [minus, onNext, if_neg ha]

theorem slash_of_head (h : z.head? ≠ some 0x2A) : slash z = (.slash, z) := by
  match z with
  | [] => rfl
  | [a] => rfl
  | a :: b :: z =>
      have ha : a ≠ 0x2A := fun ha => h (congrArg some ha)
      rw [slash, if_neg ha]

/-- Only a quoting token runs over a delimiter into a literal. -/
theorem leaves_token (hd : Delimiter d) (hx : Opening x)
    (hq : ¬ Quoting (c :: (p ++ d :: x :: v))) :
    v.length < (token keywordCode c (p ++ d :: x :: v)).2.length := by
  obtain ⟨hid, hplus, hminus, hdot⟩ := plain_of_delimiter hd
  have hspace : sqlite3Isspace x = false := by
    rcases hx with rfl | rfl <;> rfl
  have hdigit := not_isdigit_of_idChar hid
  have hlength : v.length + 1 < (p ++ d :: x :: v).length := by
    simp only [List.length_append, List.length_cons]
    omega
  have hrun : ∀ P : UInt8 → Bool, P d = false →
      v.length < ((p ++ d :: x :: v).dropWhile P).length := by
    intro P hP
    have hstops := stops_dropWhile P hP fun _ => TokenType.illegal
    exact Nat.lt_of_succ_lt (leaves_of_stops hstops p (x :: v))
  have hblank : v.length < ((p ++ d :: x :: v).dropWhile sqlite3Isspace).length := by
    have hstops := stops_dropWhile sqlite3Isspace hspace fun _ => TokenType.space
    have hleaves := leaves_of_stops hstops (p ++ [d]) v
    rw [List.append_assoc] at hleaves
    exact hleaves
  have hnumber : v.length < (number (c :: (p ++ d :: x :: v))).2.length := by
    have hstops := stops_number hid ⟨hplus, hminus, hdot⟩
    exact Nat.lt_of_succ_lt (leaves_of_stops hstops (c :: p) (x :: v))
  have hquote : ¬ (c = 0x27 ∨ c = 0x22 ∨ c = 0x60 ∨ c = 0x5B) := fun h => hq (.inl (.inl h))
  have hname : ¬ (c = 0x24 ∨ c = 0x40 ∨ c = 0x3A ∨ c = 0x23) := fun h => hq (.inr h)
  have hcomment : c = 0x2D → (p ++ d :: x :: v).head? ≠ some 0x2D :=
    fun hc h => hq (.inl (.inr (.inl ⟨hc, h⟩)))
  have hcomment' : c = 0x2F → (p ++ d :: x :: v).head? ≠ some 0x2A :=
    fun hc h => hq (.inl (.inr (.inr (.inl ⟨hc, h⟩))))
  have hblob : ¬ ((c = 0x78 ∨ c = 0x58) ∧ (p ++ d :: x :: v).head? = some 0x27) :=
    fun h => hq (.inl (.inr (.inr (.inr h))))
  generalize p ++ d :: x :: v = z at *
  have hpure : v.length < z.length := Nat.lt_of_succ_lt hlength
  have hoperator : ∀ alone pairs, v.length < (operator alone pairs z).2.length := by
    intro alone pairs
    have hle := length_operator alone pairs z
    omega
  have hbang : v.length < (bang z).2.length := by
    have hle := length_bang z
    omega
  have hminus' : c = 0x2D → v.length < (minus z).2.length := by
    intro hc
    rw [minus_of_head (hcomment hc)]
    exact hpure
  have hslash : c = 0x2F → v.length < (slash z).2.length := by
    intro hc
    rw [slash_of_head (hcomment' hc)]
    exact hpure
  unfold token
  refine lt_length_ite (fun _ => hblank) fun _ => lt_length_ite hminus' fun _ => ?_
  refine lt_length_ite (fun _ => hpure) fun _ => lt_length_ite (fun _ => hpure) fun _ => ?_
  refine lt_length_ite (fun _ => hpure) fun _ => lt_length_ite (fun _ => hpure) fun _ => ?_
  refine lt_length_ite (fun _ => hpure) fun _ => lt_length_ite hslash fun _ => ?_
  refine lt_length_ite (fun _ => hpure) fun _ => lt_length_ite (fun _ => hoperator _ _) fun _ => ?_
  refine lt_length_ite (fun _ => hoperator _ _) fun _ => ?_
  refine lt_length_ite (fun _ => hoperator _ _) fun _ => lt_length_ite (fun _ => hbang) fun _ => ?_
  refine lt_length_ite (fun _ => hoperator _ _) fun _ => lt_length_ite (fun _ => hpure) fun _ => ?_
  refine lt_length_ite (fun _ => hpure) fun _ => lt_length_ite (fun _ => hpure) fun _ => ?_
  refine lt_length_ite (fun h => absurd ?_ hquote) fun _ => lt_length_ite (fun _ => ?_) fun _ => ?_
  · rcases h with rfl | rfl | rfl
    · exact .inr (.inr (.inl rfl))
    · exact .inl rfl
    · exact .inr (.inl rfl)
  · exact lt_length_ite (fun _ => hnumber) fun _ => hpure
  refine lt_length_ite (fun _ => hnumber) fun _ => ?_
  refine lt_length_ite (fun h => absurd (.inr (.inr (.inr h))) hquote) fun _ => ?_
  refine lt_length_ite (fun _ => hrun _ hdigit) fun _ => ?_
  refine lt_length_ite (fun _ => hrun _ hdigit) fun _ => lt_length_ite (fun h => absurd ?_ hname) ?_
  · rcases h with h | h | h | h
    · exact .inr (.inr (.inr h))
    · exact .inl h
    · exact .inr (.inl h)
    · exact .inr (.inr (.inl h))
  intro _
  refine lt_length_ite (fun h => absurd h hblob) fun _ => ?_
  exact lt_length_ite (fun _ => hrun _ hid) fun _ => hpure

/-! ## The tokens of a literal -/

/-- A number that begins with a digit has more than the digit only if more of it follows. -/
theorem length_number_digit (hc : sqlite3Isdigit c = true) (z : List UInt8) :
    (number (c :: z)).2.length ≤ z.length := by
  have hnumber : number (c :: z) = number z := by
    rw [number, List.dropWhile_cons_of_pos hc]
    rfl
  rw [hnumber]
  exact shrinks_number z

theorem length_number_dot (z : List UInt8) : (number (0x2E :: z)).2.length ≤ z.length := by
  have hbehind : ∀ k, Shrinks fun z => wordBehind (exponent k z).1 (exponent k z).2 :=
    fun k => (shrinks_exponent k).andThen shrinks_wordBehind
  have hdot : number (0x2E :: z) = wordBehind (exponent .float (z.dropWhile sqlite3Isdigit)).1
      (exponent .float (z.dropWhile sqlite3Isdigit)).2 := rfl
  rw [hdot]
  exact Nat.le_trans (hbehind .float _) (length_dropWhile_le sqlite3Isdigit z)

theorem shrinks_token (c : UInt8) : Shrinks (token keywordCode c) := by
  intro z
  have hpure : z.length ≤ z.length := Nat.le_refl _
  have hrun : ∀ P : UInt8 → Bool, (z.dropWhile P).length ≤ z.length :=
    fun P => length_dropWhile_le P z
  have hoperator : ∀ alone pairs, (operator alone pairs z).2.length ≤ z.length :=
    fun alone pairs => shrinks_operator alone pairs z
  have htail : (blob z.tail).2.length ≤ z.length := by
    refine Nat.le_trans (shrinks_blob z.tail) ?_
    rw [List.length_tail]
    exact Nat.sub_le _ _
  unfold token
  refine length_ite_le (fun _ => hrun _) fun _ => ?_
  refine length_ite_le (fun _ => shrinks_minus z) fun _ => ?_
  refine length_ite_le (fun _ => hpure) fun _ => length_ite_le (fun _ => hpure) fun _ => ?_
  refine length_ite_le (fun _ => hpure) fun _ => length_ite_le (fun _ => hpure) fun _ => ?_
  refine length_ite_le (fun _ => hpure) fun _ => ?_
  refine length_ite_le (fun _ => shrinks_slash z) fun _ => ?_
  refine length_ite_le (fun _ => hpure) fun _ => length_ite_le (fun _ => hoperator _ _) fun _ => ?_
  refine length_ite_le (fun _ => hoperator _ _) fun _ => ?_
  refine length_ite_le (fun _ => hoperator _ _) fun _ => ?_
  refine length_ite_le (fun _ => shrinks_bang z) fun _ => ?_
  refine length_ite_le (fun _ => hoperator _ _) fun _ => length_ite_le (fun _ => hpure) fun _ => ?_
  refine length_ite_le (fun _ => hpure) fun _ => length_ite_le (fun _ => hpure) fun _ => ?_
  refine length_ite_le (fun _ => shrinks_quoted c z) fun _ => ?_
  refine length_ite_le (fun hdot => ?_) fun _ => ?_
  · subst hdot
    exact length_ite_le (fun _ => length_number_dot z) fun _ => hpure
  refine length_ite_le (fun hdigit => length_number_digit hdigit z) fun _ => ?_
  refine length_ite_le (fun _ => shrinks_bracket z) fun _ => ?_
  refine length_ite_le (fun _ => hrun _) fun _ => length_ite_le (fun _ => hrun _) fun _ => ?_
  refine length_ite_le (fun _ => shrinks_parameter false z) fun _ => ?_
  exact length_ite_le (fun _ => htail) fun _ => length_ite_le (fun _ => hrun _) fun _ => hpure

/-- A delimiter is a token of its own before a literal. -/
theorem token_delimiter (hd : Delimiter d) (hx : Opening x) :
    ∃ k, ∀ v, token keywordCode d (x :: v) = (k, x :: v) := by
  rcases hd with hspace | rfl | rfl | rfl | rfl
  · have hspaces : ∀ v, (x :: v).dropWhile sqlite3Isspace = x :: v := by
      intro v
      rcases hx with rfl | rfl <;> rfl
    rcases eq_of_isspace hspace with rfl | rfl | rfl | rfl | rfl | rfl
    · exact ⟨.space, fun v => Prod.ext rfl (hspaces v)⟩
    · exact ⟨.space, fun v => Prod.ext rfl (hspaces v)⟩
    · exact ⟨.space, fun v => Prod.ext rfl (hspaces v)⟩
    · exact ⟨.illegal, fun v => rfl⟩
    · exact ⟨.space, fun v => Prod.ext rfl (hspaces v)⟩
    · exact ⟨.space, fun v => Prod.ext rfl (hspaces v)⟩
  · exact ⟨.comma, fun v => rfl⟩
  · exact ⟨.lp, fun v => rfl⟩
  · exact ⟨.rp, fun v => rfl⟩
  · refine ⟨.eq, fun v => ?_⟩
    rcases hx with rfl | rfl <;> rfl

theorem token_string {body rest : List UInt8} (hbody : Body escapes 0x27 body)
    (hrest : Starts Delimiter rest) :
    token keywordCode 0x27 (body ++ 0x27 :: rest) = (.string, rest) := by
  have htoken : token keywordCode 0x27 (body ++ 0x27 :: rest) =
      quoted 0x27 (body ++ 0x27 :: rest) := rfl
  have hquote : upToQuote (fun _ => false) 0x27 (body ++ 0x27 :: rest) = (true, rest) :=
    hbody.upToQuote Bool.false_ne_true fun hhead => (hrest _ hhead).ne_quote rfl
  rw [htoken, quoted, hquote]
  rfl

theorem sqlite3Isxdigit_of_isHexDigit {c : UInt8} (hc : IsHexDigit c) :
    sqlite3Isxdigit c = true := by
  simp only [sqlite3Isxdigit, sqlite3Isdigit, Bool.or_eq_true, Bool.and_eq_true,
    decide_eq_true_eq]
  exact .inl hc

theorem token_data {digits : List UInt8} (hdigits : ∀ c ∈ digits, IsHexDigit c)
    (heven : digits.length % 2 = 0) (rest : List UInt8) :
    token keywordCode 0x58 (0x27 :: (digits ++ 0x27 :: rest)) = (.blob, rest) := by
  have htoken : token keywordCode 0x58 (0x27 :: (digits ++ 0x27 :: rest)) =
      blob (digits ++ 0x27 :: rest) := rfl
  have hall : digits.all sqlite3Isxdigit = true :=
    List.all_eq_true.mpr fun c hc => sqlite3Isxdigit_of_isHexDigit (hdigits c hc)
  rw [htoken, blob, upTo_append fun c hc => (hdigits c hc).ne_quote]
  simp only [blobType, hall, heven, and_self, if_true]

/-! ## Literals apart -/

/-- The type of the literals of a class. -/
def type : LiteralClass → TokenType
  | .string => .string
  | .data => .blob

theorem sqlite3GetToken_literal {k : LiteralClass} {w rest : List UInt8} (h : Literal escapes k w)
    (hrest : Starts Delimiter rest) :
    sqlite3GetToken keywordCode (w ++ rest) = (type k, rest) := by
  cases k with
  | string =>
      obtain ⟨body, hbody, rfl⟩ := h
      rw [List.cons_append, List.append_assoc]
      exact token_string keywordCode hbody hrest
  | data =>
      obtain ⟨digits, hdigits, heven, rfl⟩ := h
      rw [List.cons_append, List.cons_append, List.append_assoc]
      exact token_data keywordCode hdigits heven rest

theorem separates : Separates (sqlite3GetToken keywordCode) Delimiter Opening Quoting :=
  separates_of_token (fun _ _ => rfl) (shrinks_token keywordCode) (settles_token keywordCode)
    (token_delimiter keywordCode) (leaves_token keywordCode) fun _ h => h

/-- The tokens of a statement. -/
def lexer : Lexer UInt8 TokenType Unit :=
  .ofScanner (sqlite3GetToken keywordCode) (separates keywordCode).shrinks

/-- String and blob literals stand for one another. -/
def interchange : Interchange (lexer keywordCode) Delimiter (Literal escapes) Quoting :=
  (separates keywordCode).interchange type LiteralClass.opening LiteralClass.opening_opening
    Literal.eq_cons (sqlite3GetToken_literal keywordCode)

end

end SQLite

end MGMDB
