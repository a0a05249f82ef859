import MGMDB.MySQL.Latin1
import MGMDB.MySQL.Literal

/-!
# Names in a statement

A server takes a statement apart into tokens, and a name is one of two kinds of text to it:
a word without quotes, or any characters between back-quotes.  `Lexer` is the server's
lexer, and `Lexer.Documented` what MySQL documents of it as far as names go.  Which words are
keywords differs between servers, so a lexer says that itself.

A text that a server reads as itself, as a name, is an ASCII word
(`tokens_eq_identifier_iff`).  The lexer `plain` knows the keywords of the four statements and
no others.
-/

namespace MGMDB

namespace MySQL

/-! ## Tokens -/

/-- A token of a statement.  A `word` is a keyword or a number. -/
inductive Token where
  | word (w : NSString)
  | identifier (value : NSString)
  | string (value : NSString)
  | other (text : NSString)
deriving DecidableEq

/-- Digits, letters, `$` and `_`, and all of the Basic Multilingual Plane but ASCII. -/
def isNameUnit (u : unichar) : Bool :=
  (0x30 ≤ u && u ≤ 0x39) || (0x41 ≤ u && u ≤ 0x5A) || (0x61 ≤ u && u ≤ 0x7A) ||
    u = 0x24 || u = 0x5F || (0x80 ≤ u && !Unicode.isHigh u && !Unicode.isLow u)

/-- A text that is one word. -/
structure IsWord (w : NSString) : Prop where
  ne_nil : w ≠ []
  isNameUnit : ∀ u ∈ w, isNameUnit u = true

/-- A back-quote in a quoted name is written twice. -/
def doubled (name : NSString) : NSString :=
  name.flatMap fun u => if u = 0x60 then [0x60, 0x60] else [u]

/-- A name in back-quotes. -/
def backQuoted (name : NSString) : NSString := 0x60 :: doubled name ++ [0x60]

/-- The keywords in front of a name. -/
def keywords : List NSString :=
  [lit "CREATE", lit "DROP", lit "DATABASE", lit "SHOW", lit "TABLES", lit "COLUMNS", lit "FROM"]

/-- The lexer of a server: the tokens of a text, and which words are identifiers without
quotes. -/
structure Lexer where
  tokens : NSString → List Token
  isIdentifier : NSString → Bool

/-- A text without a token: white space, and anything behind the first character of a comment
or a semicolon. -/
inductive Skipped : NSString → Prop where
  | nil : Skipped []
  | space {u : unichar} {text : NSString} : my_isspace u = true → Skipped text → Skipped (u :: text)
  | comment {u : unichar} {text : NSString} : u ∈ lit "#-/;" → Skipped (u :: text)

/-- What MySQL documents, for the default `sql_mode`. -/
structure Lexer.Documented (L : Lexer) : Prop where
  keyword : ∀ w ∈ keywords, ∀ rest, L.tokens (w ++ 0x20 :: rest) = .word w :: L.tokens rest
  word : ∀ w, IsWord w → (∀ u ∈ w, u < 0x80) → L.isIdentifier w = true →
    L.tokens w = [.identifier w]
  identifier : ∀ text value, L.tokens text = [.identifier value] →
    (IsWord value ∧ L.isIdentifier value = true ∧
      ∃ before after, text = before ++ value ++ after ∧ Skipped before ∧ Skipped after) ∨
        backQuoted value <:+: text

/-- An ASCII word that is a name without quotes. -/
structure Lexer.Plain (L : Lexer) (name : NSString) : Prop where
  isWord : IsWord name
  ascii : ∀ u ∈ name, u < 0x80
  isIdentifier : L.isIdentifier name = true

section
variable {name text : NSString} {bytes : List UInt8}

/-- A word has no surrogates. -/
theorem IsWord.not_surrogate (h : IsWord name) :
    ∀ u ∈ name, Unicode.isHigh u = false ∧ Unicode.isLow u = false := by
  intro u hu
  by_cases hascii : u < 0x80
  · exact Unicode.not_surrogate hascii
  · have hunit := h.isNameUnit u hu
    have hwide : 0x80 ≤ u := UInt16.not_lt.mp hascii
    simp only [MySQL.isNameUnit, Bool.or_eq_true, Bool.and_eq_true, decide_eq_true_eq,
      Bool.not_eq_true'] at hunit
    rcases hunit with ((((⟨-, hle⟩ | ⟨-, hle⟩) | ⟨-, hle⟩) | rfl) | rfl) | ⟨⟨-, hhigh⟩, hlow⟩
    · exact absurd (UInt16.le_trans hwide hle) (by decide)
    · exact absurd (UInt16.le_trans hwide hle) (by decide)
    · exact absurd (UInt16.le_trans hwide hle) (by decide)
    · exact absurd hwide (by decide)
    · exact absurd hwide (by decide)
    · exact ⟨hhigh, hlow⟩

/-- The only white space among the units of a word is U+00A0. -/
theorem Skipped.eq_space (h : Skipped text) (hunits : ∀ u ∈ text, isNameUnit u = true) :
    ∀ u ∈ text, u = 0xA0 := by
  induction h with
  | nil => exact nofun
  | @space u text hu _ ih =>
      obtain ⟨hunit, hunits⟩ := List.forall_mem_cons.mp hunits
      refine List.forall_mem_cons.mpr ⟨?_, ih hunits⟩
      simp only [my_isspace, Bool.or_eq_true, Bool.and_eq_true, decide_eq_true_eq] at hu
      rcases hu with (⟨hle, hge⟩ | rfl) | rfl
      · have hall : ∀ n : Fin 14, isNameUnit (.ofNat n) = false := by decide
        have hnone := hall ⟨u.toNat, Nat.lt_succ_of_le (UInt16.le_iff_toNat_le.mp hge)⟩
        rw [UInt16.ofNat_toNat, hunit] at hnone
        cases hnone
      · cases hunit
      · rfl
  | comment hu =>
      have hall : (lit "#-/;").all (fun u => !isNameUnit u) = true := by decide
      have hsign := List.all_eq_true.mp hall _ hu
      rw [(List.forall_mem_cons.mp hunits).1] at hsign
      cases hsign

/-- What is read for a word are units of a word. -/
theorem isNameUnit_readLatin1 (hname : IsWord name) (h : UTF8String name = some bytes) :
    ∀ u ∈ readLatin1 bytes, isNameUnit u = true := by
  rw [readLatin1_eq_flatMap hname.not_surrogate h]
  intro v hv
  obtain ⟨u, hu, hv⟩ := List.mem_flatMap.mp hv
  rcases Nat.lt_or_ge u.toNat 0x80 with hlt | hge
  · rw [readUnit_ascii (UInt16.lt_iff_toNat_lt.mpr hlt), List.mem_singleton] at hv
    rw [hv]
    exact hname.isNameUnit u hu
  · have hwide : IsWide v := isWide_of_mem_readUnit
      ⟨UInt16.le_iff_toNat_le.mpr hge, hname.not_surrogate u hu⟩ v hv
    simp [isNameUnit, hwide.1, hwide.2]

theorem count_le_doubled (name : NSString) : name.count 0x60 ≤ (doubled name).count 0x60 := by
  induction name with
  | nil => exact Nat.le_refl 0
  | cons u name ih =>
      show _ ≤ ((if u = 0x60 then [0x60, 0x60] else [u]) ++ doubled name).count 0x60
      rw [List.count_append, ← List.singleton_append, List.count_append]
      refine Nat.add_le_add ?_ ih
      split
      next hu =>
        rw [hu]
        decide
      next => exact Nat.le_refl _

/-- A name in back-quotes has more of them than its text. -/
theorem not_infix_backQuoted {s : NSString} (hbytes : UTF8String s = some bytes)
    (hcount : s.count 0x60 ≤ name.count 0x60) : ¬ backQuoted name <:+: readLatin1 bytes := by
  intro hinfix
  have hquoted := hinfix.sublist.count_le 0x60
  have hread := count_readLatin1_le (u := 0x60) (by decide) hbytes
  have hdoubled := count_le_doubled name
  rw [backQuoted, List.count_append, List.count_cons_self, List.count_singleton_self] at hquoted
  omega

/-- Without quotes the names that are read as themselves are the plain ones. -/
theorem Lexer.Documented.tokens_eq_identifier_iff {L : Lexer} (hL : L.Documented)
    (name : NSString) :
    (∃ bytes, UTF8String name = some bytes ∧ L.tokens (readLatin1 bytes) = [.identifier name]) ↔
      L.Plain name := by
  constructor
  · rintro ⟨bytes, hbytes, htokens⟩
    rcases hL.identifier _ name htokens with
      ⟨hword, hidentifier, before, after, htext, hbefore, hafter⟩ | hquoted
    · have hunits := isNameUnit_readLatin1 hword hbytes
      rw [htext, List.forall_mem_append, List.forall_mem_append] at hunits
      obtain ⟨⟨hfront, -⟩, hback⟩ := hunits
      exact ⟨hword, ascii_of_readLatin1 hword.not_surrogate hbytes (hbefore.eq_space hfront)
        (hafter.eq_space hback) htext, hidentifier⟩
    · exact absurd hquoted (not_infix_backQuoted hbytes (Nat.le_refl _))
  · intro hplain
    refine ⟨_, Unicode.toUtf8_ascii hplain.ascii, ?_⟩
    rw [readLatin1_ascii hplain.ascii]
    exact hL.word name hplain.isWord hplain.ascii hplain.isIdentifier

/-- No literal is read as a name. -/
theorem Lexer.Documented.tokens_literal_ne {L : Lexer} (hL : L.Documented) {body : NSString}
    (hbytes : UTF8String (0x27 :: body) = some bytes)
    (hcount : (0x27 :: body).count 0x60 ≤ name.count 0x60) :
    L.tokens (readLatin1 bytes) ≠ [.identifier name] := by
  intro htokens
  rcases hL.identifier _ name htokens with
    ⟨hword, -, before, after, htext, hbefore, -⟩ | hquoted
  · rw [UTF8String, Unicode.toUtf8_cons (by decide)] at hbytes
    obtain ⟨rest, -, rfl⟩ := Option.map_eq_some_iff.mp hbytes
    have hfirst : (before ++ name ++ after).head? = some 0x27 := by
      rw [← htext]
      rfl
    -- the quote is no white space, and in no word
    cases hbefore with
    | nil =>
        obtain ⟨u, w, rfl⟩ := List.exists_cons_of_ne_nil hword.ne_nil
        obtain rfl : u = 0x27 := Option.some.inj hfirst
        have hunit := hword.isNameUnit 0x27 List.mem_cons_self
        cases hunit
    | @space u before hspace _ =>
        obtain rfl : u = 0x27 := Option.some.inj hfirst
        cases hspace
    | @comment u before hsign =>
        obtain rfl : u = 0x27 := Option.some.inj hfirst
        revert hsign
        decide
  · exact absurd hquoted (not_infix_backQuoted hbytes hcount)

end

/-- Keywords with a blank behind each. -/
theorem Lexer.Documented.tokens_keywords {L : Lexer} (hL : L.Documented) {ws : List NSString}
    (hws : ∀ w ∈ ws, w ∈ keywords) (rest : NSString) :
    L.tokens (ws.flatMap (· ++ [0x20]) ++ rest) = ws.map .word ++ L.tokens rest := by
  induction ws with
  | nil => rfl
  | cons w ws ih =>
      obtain ⟨hw, hrest⟩ := List.forall_mem_cons.mp hws
      rw [List.flatMap_cons, List.append_assoc, List.append_assoc, List.singleton_append,
        hL.keyword w hw, ih hrest]
      rfl

/-! ## A lexer -/

/-- The name behind an opening back-quote, up to a closing one that ends the text. -/
def readName : NSString → Option NSString
  | [] => none
  | [u] => if u = 0x60 then some [] else none
  | u :: v :: rest =>
      if u = 0x60 then
        if v = 0x60 then (readName rest).map (0x60 :: ·) else none
      else (readName (v :: rest)).map (u :: ·)

/-- The token of a word. -/
def wordToken (isIdentifier : NSString → Bool) (w : NSString) : Token :=
  if isIdentifier w then .identifier w else .word w

/-- The words of a text, up to a quoted text at its end. -/
def scan (isIdentifier : NSString → Bool) (text : NSString) : List Token :=
  match text with
  | [] => []
  | u :: rest =>
      if u = 0x20 then scan isIdentifier rest
      else if isNameUnit u then
        wordToken isIdentifier (u :: rest.takeWhile isNameUnit) ::
          scan isIdentifier (rest.dropWhile isNameUnit)
      else if u = 0x60 then
        match readName rest with
        | some name => [.identifier name]
        | none => [.other text]
      else
        match readLiteral text with
        | some value => [.string value]
        | none => [.other text]
termination_by text.length
decreasing_by
  · exact Nat.lt_succ_self _
  · exact Nat.lt_succ_of_le (List.dropWhile_sublist isNameUnit).length_le

/-- A lexer that takes every word but its keywords for an identifier. -/
def plain : Lexer where
  tokens := scan fun w => !keywords.contains w
  isIdentifier w := !keywords.contains w

section
variable {isIdentifier : NSString → Bool}

theorem scan_word {w rest : NSString} (hw : IsWord w)
    (hrest : ∀ u ∈ rest.head?, isNameUnit u = false) (isIdentifier : NSString → Bool) :
    scan isIdentifier (w ++ rest) = wordToken isIdentifier w :: scan isIdentifier rest := by
  obtain ⟨hne, hunits⟩ := hw
  cases w with
  | nil => exact absurd rfl hne
  | cons u w =>
      obtain ⟨hu, hunits⟩ := List.forall_mem_cons.mp hunits
      have hblank : u ≠ 0x20 := by
        rintro rfl
        cases hu
      have hend : rest.takeWhile isNameUnit = [] ∧ rest.dropWhile isNameUnit = rest := by
        cases rest with
        | nil => exact ⟨rfl, rfl⟩
        | cons v rest =>
            have hv : ¬ isNameUnit v = true := by
              rw [hrest v rfl]
              exact Bool.false_ne_true
            exact ⟨List.takeWhile_cons_of_neg hv, List.dropWhile_cons_of_neg hv⟩
      rw [List.cons_append, scan, if_neg hblank, if_pos hu, List.takeWhile_append_of_pos hunits,
        List.dropWhile_append_of_pos hunits, hend.1, hend.2, List.append_nil]

/-- What is read behind a back-quote is written between two. -/
theorem eq_doubled_of_readName {text name : NSString} (h : readName text = some name) :
    text = doubled name ++ [0x60] := by
  induction text using readName.induct generalizing name with
  | case1 => cases h
  | case2 =>
      obtain rfl := Option.some.inj h
      rfl
  | case3 u hu =>
      rw [readName, if_neg hu] at h
      cases h
  | case4 rest ih =>
      rw [readName, if_pos rfl, if_pos rfl] at h
      obtain ⟨tail, htail, rfl⟩ := Option.map_eq_some_iff.mp h
      rw [ih htail]
      rfl
  | case5 v rest hv =>
      rw [readName, if_pos rfl, if_neg hv] at h
      cases h
  | case6 u v rest hu ih =>
      rw [readName, if_neg hu] at h
      obtain ⟨tail, htail, rfl⟩ := Option.map_eq_some_iff.mp h
      have hhead : doubled (u :: tail) = u :: doubled tail := by
        show (if u = 0x60 then [0x60, 0x60] else [u]) ++ doubled tail = _
        rw [if_neg hu]
        rfl
      rw [ih htail, hhead]
      rfl

/-- A text without a token is blank. -/
theorem skipped_of_scan_eq_nil {text : NSString} (h : scan isIdentifier text = []) :
    Skipped text := by
  induction text using scan.induct with
  | case1 => exact .nil
  | case2 rest ih =>
      rw [scan, if_pos rfl] at h
      exact .space rfl (ih h)
  | case3 u rest hblank hu ih =>
      rw [scan, if_neg hblank, if_pos hu] at h
      cases h
  | case4 rest name hname hblank hu =>
      rw [scan, if_neg hblank, if_neg hu, if_pos rfl, hname] at h
      cases h
  | case5 rest hnone hblank hu =>
      rw [scan, if_neg hblank, if_neg hu, if_pos rfl, hnone] at h
      cases h
  | case6 u rest hblank hu hquote v hv =>
      rw [scan, if_neg hblank, if_neg hu, if_neg hquote, hv] at h
      cases h
  | case7 u rest hblank hu hquote hnone =>
      rw [scan, if_neg hblank, if_neg hu, if_neg hquote, hnone] at h
      cases h

theorem scan_identifier {text value : NSString}
    (h : scan isIdentifier text = [.identifier value]) :
    (IsWord value ∧ isIdentifier value = true ∧
      ∃ before after, text = before ++ value ++ after ∧ Skipped before ∧ Skipped after) ∨
        backQuoted value <:+: text := by
  induction text using scan.induct with
  | case1 =>
      rw [scan] at h
      cases h
  | case2 rest ih =>
      rw [scan, if_pos rfl] at h
      rcases ih h with ⟨hword, hidentifier, before, after, rfl, hbefore, hafter⟩ | hquoted
      · exact .inl ⟨hword, hidentifier, 0x20 :: before, after, rfl, .space rfl hbefore, hafter⟩
      · exact .inr (hquoted.trans (List.suffix_cons 0x20 rest).isInfix)
  | case3 u rest hblank hu ih =>
      rw [scan, if_neg hblank, if_pos hu, wordToken] at h
      obtain ⟨hhead, htail⟩ := List.cons.inj h
      split at hhead
      next hidentifier =>
        injection hhead with hvalue
        subst hvalue
        refine .inl ⟨⟨List.cons_ne_nil _ _, ?_⟩, hidentifier, [], rest.dropWhile isNameUnit, ?_,
          .nil, skipped_of_scan_eq_nil htail⟩
        · exact List.forall_mem_cons.mpr ⟨hu, fun v hv => List.mem_takeWhile_imp hv⟩
        · exact congrArg (u :: ·) List.takeWhile_append_dropWhile.symm
      next => cases hhead
  | case4 rest name hname hblank hu =>
      rw [scan, if_neg hblank, if_neg hu, if_pos rfl, hname] at h
      injection h with hhead
      injection hhead with hvalue
      subst hvalue
      rw [eq_doubled_of_readName hname]
      exact .inr (List.infix_refl _)
  | case5 rest hnone hblank hu =>
      rw [scan, if_neg hblank, if_neg hu, if_pos rfl, hnone] at h
      injection h with hhead
      cases hhead
  | case6 u rest hblank hu hquote v hv =>
      rw [scan, if_neg hblank, if_neg hu, if_neg hquote, hv] at h
      injection h with hhead
      cases hhead
  | case7 u rest hblank hu hquote hnone =>
      rw [scan, if_neg hblank, if_neg hu, if_neg hquote, hnone] at h
      injection h with hhead
      cases hhead

theorem isWord_of_keyword {w : NSString} (hw : w ∈ keywords) : IsWord w := by
  have hall : keywords.all (fun w => !w.isEmpty && w.all isNameUnit) = true := by decide
  have hkeyword := List.all_eq_true.mp hall w hw
  rw [Bool.and_eq_true, List.all_eq_true] at hkeyword
  refine ⟨?_, hkeyword.2⟩
  rintro rfl
  cases hkeyword.1

end

theorem plain_documented : plain.Documented where
  keyword w hw rest := by
    have hblank : ∀ u ∈ (0x20 :: rest).head?, isNameUnit u = false := by
      intro u hu
      obtain rfl := Option.some.inj hu
      rfl
    have htoken : wordToken (fun w => !keywords.contains w) w = .word w := by
      rw [wordToken, if_neg]
      rw [List.contains_iff_mem.mpr hw]
      exact Bool.false_ne_true
    show scan _ (w ++ 0x20 :: rest) = .word w :: scan _ rest
    rw [scan_word (isWord_of_keyword hw) hblank _, htoken, scan, if_pos rfl]
  word w hw _ hidentifier := by
    have hend : ∀ u ∈ ([] : NSString).head?, isNameUnit u = false := fun u hu => by cases hu
    have hscan := scan_word hw hend (fun w => !keywords.contains w)
    have htoken : wordToken (fun w => !keywords.contains w) w = .identifier w := if_pos hidentifier
    rw [List.append_nil, scan, htoken] at hscan
    exact hscan
  identifier text value h := scan_identifier h

end MySQL

end MGMDB
