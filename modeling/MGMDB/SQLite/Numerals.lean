import Mathlib.Tactic.IntervalCases
import MGMDB.Lexing.Lookahead
import MGMDB.SQLite.Apart

/-!
# Numbers among the tokens of SQLite

A number is written with a digit or a minus sign at its head, and nothing around it.
A token that ends before the digit `0` ends there before all of these characters but
for one case: two minus signs are the begin of a comment (`overlooks`).  Behind its
digits a number ends unless a word or a point goes on (`lex_decimal`).  So an integer
in the place of a `0` leaves the other tokens alone if neither happens
(`lex_place_iff`).
-/

namespace MGMDB

namespace SQLite

open Scan Lexing

/-- The first character of an integer. -/
def Signed (y : UInt8) : Prop := sqlite3Isdigit y = true ∨ y = 0x2D

instance : DecidablePred Signed := fun _ => inferInstanceAs (Decidable (_ ∨ _))

/-- A character that goes on with a number. -/
def ContinuesNumber (b : UInt8) : Bool := IdChar b || b = 0x2E

theorem signed_zero : Signed 0x30 := .inl rfl

theorem Signed.ne {y b : UInt8} (hy : Signed y) (hb : ¬ Signed b) : y ≠ b := by
  rintro rfl
  exact hb hy

theorem Signed.not_isspace {y : UInt8} (hy : Signed y) : sqlite3Isspace y = false := by
  cases hspace : sqlite3Isspace y with
  | false => rfl
  | true =>
      rcases eq_of_isspace hspace with rfl | rfl | rfl | rfl | rfl | rfl
      all_goals exact absurd hy (by decide)

/-! ## Parts of tokens -/

section
variable (keywordCode : List UInt8 → TokenType) {c : UInt8}

theorem signed_operator (alone : TokenType) {pairs : List (UInt8 × TokenType)}
    (hpairs : ∀ pair ∈ pairs, ¬ Signed pair.1) :
    LocalOn Signed 0x30 (operator alone pairs) := by
  refine localOn_operator (fun _ y hy => ?_) alone
  rw [List.lookup_eq_none_iff]
  intro pair hpair
  simpa using hy.ne (hpairs pair hpair)

/-- Behind a minus sign and another character. -/
theorem signed_minus (a : UInt8) : LocalOn Signed 0x30 fun z => minus (a :: z) := by
  have hminus (z : List UInt8) : minus (a :: z) =
      if a = 0x2D then (.space, z.dropWhile (· ≠ 0x0A)) else (.minus, a :: z) := by
    by_cases ha : a = 0x2D
    · rw [minus, onNext, if_pos ha, if_pos ha]
    · rw [minus, onNext, if_neg ha, if_neg ha]
  simp only [hminus]
  refine LocalOn.ite (fun _ => ?_) fun _ => (localOn_pure TokenType.minus).cons a
  exact localOn_dropWhile (fun b => decide (b ≠ 0x0A)) (.inl rfl) fun _ => TokenType.space

theorem signed_fraction : LocalOn Signed 0x30 fraction :=
  LocalOn.onNextIf (fun h => absurd h (by decide)) (shrinks_dropWhile _ fun _ => _)
    (localOn_dropWhile sqlite3Isdigit (.inl rfl) fun _ => _) (localOn_pure _)

/-- A `0` behind an exponent belongs to it, and no other character of the class begins
one. -/
theorem signed_exponent (k : TokenType) : LocalOn Signed 0x30 (exponent k) := by
  intro q v h
  have hrun := length_dropWhile_le sqlite3Isdigit v
  match q with
  | [] =>
      refine ⟨k, [], fun y v' hy => ?_⟩
      have hy' : ¬ (y = 0x65 ∨ y = 0x45) := by
        rintro (rfl | rfl)
        · exact absurd hy (by decide)
        · exact absurd hy (by decide)
      cases v' with
      | nil => rfl
      | cons d v' => exact if_neg fun hexp => hy' hexp.1
  | [e] =>
      by_cases he : e = 0x65 ∨ e = 0x45
      · have hexp : exponent k ([e] ++ 0x30 :: v) = (.float, v.dropWhile sqlite3Isdigit) :=
          if_pos ⟨he, .inl rfl⟩
        rw [hexp] at h
        exact absurd hrun (Nat.not_le_of_lt h)
      · exact ⟨k, [e], fun y v' _ => if_neg fun hexp => he hexp.1⟩
  | [e, d] =>
      by_cases he : (e = 0x65 ∨ e = 0x45) ∧ (sqlite3Isdigit d = true ∨ d = 0x2B ∨ d = 0x2D)
      · have hexp : exponent k ([e, d] ++ 0x30 :: v) =
            (.float, v.dropWhile sqlite3Isdigit) :=
          if_pos ⟨he.1, he.2.imp_right fun hsign => ⟨hsign, rfl⟩⟩
        rw [hexp] at h
        exact absurd hrun (Nat.not_le_of_lt h)
      · exact ⟨k, [e, d], fun y v' _ => if_neg fun hexp => he ⟨hexp.1, hexp.2.imp_right And.left⟩⟩
  | e :: d :: a :: q =>
      by_cases he : (e = 0x65 ∨ e = 0x45) ∧ (sqlite3Isdigit d = true ∨
          (d = 0x2B ∨ d = 0x2D) ∧ sqlite3Isdigit a = true)
      · have hexp (y : UInt8) (v' : List UInt8) : exponent k (e :: d :: a :: q ++ y :: v') =
            (.float, (a :: q ++ y :: v').dropWhile sqlite3Isdigit) := if_pos he
        simp only [hexp] at h ⊢
        exact localOn_dropWhile sqlite3Isdigit (.inl rfl) (fun _ => TokenType.float) (a :: q) v h
      · exact ⟨k, e :: d :: a :: q, fun y v' _ => if_neg he⟩

theorem signed_wordBehind (k : TokenType) : LocalOn Signed 0x30 (wordBehind k) :=
  localOn_dropWhile IdChar (.inl rfl) fun before => if before = [] then k else .illegal

theorem signed_number : LocalOn Signed 0x30 number := by
  have hdigits : LocalOn Signed 0x30 fun z => ((), z.dropWhile sqlite3Isdigit) :=
    localOn_dropWhile sqlite3Isdigit (.inl rfl) fun _ => ()
  have hfraction := hdigits.andThen (g := fun _ => fraction) signed_zero
    (fun _ => signed_fraction) fun _ => shrinks_fraction
  have hexponent := hfraction.andThen signed_zero signed_exponent shrinks_exponent
  exact hexponent.andThen signed_zero signed_wordBehind shrinks_wordBehind

theorem signed_parameter : LocalOn Signed 0x30 (parameter false) := by
  have hclosing : Signed 0x29 → (0x30 : UInt8) = 0x29 := fun h => absurd h (by decide)
  exact localOn_parameter signed_zero (by decide) (by decide) hclosing (.inl rfl) (.inl rfl) false

/-! ## Whole tokens -/

/-- A digit behind the point belongs to the number. -/
theorem length_number_point (z : List UInt8) :
    (number (0x2E :: 0x30 :: z)).2.length ≤ z.length := by
  have hskip : number (0x2E :: 0x30 :: z) = number (0x2E :: z) := rfl
  rw [hskip]
  exact length_number_dot z

theorem signed_token (hc : c ≠ 0x2D) : LocalOn Signed 0x30 (token keywordCode c) := by
  have hpure : ∀ k : TokenType, LocalOn Signed 0x30 fun z => (k, z) := fun k => localOn_pure k
  have hspaces : LocalOn Signed 0x30 fun z => (TokenType.space, z.dropWhile sqlite3Isspace) :=
    localOn_dropWhile sqlite3Isspace (.inr fun y hy => hy.not_isspace) fun _ => TokenType.space
  have hdigits : ∀ k : TokenType,
      LocalOn Signed 0x30 fun z => (k, z.dropWhile sqlite3Isdigit) :=
    fun k => localOn_dropWhile sqlite3Isdigit (.inl rfl) fun _ => k
  have hslash : LocalOn Signed 0x30 slash := localOn_slash signed_zero (by decide) (by decide)
  have hbracket : LocalOn Signed 0x30 bracket :=
    localOn_bracket signed_zero fun h => absurd h (by decide)
  have hblob : LocalOn Signed 0x30 blob := localOn_blob signed_zero fun h => absurd h (by decide)
  unfold token
  refine LocalOn.ite (fun _ => hspaces) fun _ => LocalOn.ite (fun h => absurd h hc) fun _ => ?_
  refine LocalOn.ite (fun _ => hpure _) fun _ => LocalOn.ite (fun _ => hpure _) fun _ => ?_
  refine LocalOn.ite (fun _ => hpure _) fun _ => LocalOn.ite (fun _ => hpure _) fun _ => ?_
  refine LocalOn.ite (fun _ => hpure _) fun _ => LocalOn.ite (fun _ => hslash) fun _ => ?_
  refine LocalOn.ite (fun _ => hpure _) fun _ => ?_
  refine LocalOn.ite (fun _ => signed_operator _ (by decide)) fun _ => ?_
  refine LocalOn.ite (fun _ => signed_operator _ (by decide)) fun _ => ?_
  refine LocalOn.ite (fun _ => signed_operator _ (by decide)) fun _ => ?_
  refine LocalOn.ite (fun _ => localOn_bang) fun _ => ?_
  refine LocalOn.ite (fun _ => signed_operator _ (by decide)) fun _ => ?_
  refine LocalOn.ite (fun _ => hpure _) fun _ => LocalOn.ite (fun _ => hpure _) fun _ => ?_
  refine LocalOn.ite (fun _ => hpure _) fun _ => LocalOn.ite (fun h => ?_) fun _ => ?_
  · refine localOn_quoted fun hquote => ?_
    rcases h with rfl | rfl | rfl
    all_goals exact absurd hquote (by decide)
  refine LocalOn.ite (fun hdot => ?_) fun _ => ?_
  · subst hdot
    exact LocalOn.iteHead (P := fun o => o.any sqlite3Isdigit = true) (signed_number.cons 0x2E)
      (hpure _) (fun _ v => length_number_point v) fun h => absurd rfl h
  refine LocalOn.ite (fun _ => signed_number.cons c) fun _ => ?_
  refine LocalOn.ite (fun _ => hbracket) fun _ => LocalOn.ite (fun _ => hdigits _) fun _ => ?_
  refine LocalOn.iteHead (P := fun o => c = 0x23 ∧ o.any sqlite3Isdigit = true) (hdigits _) ?_
    (fun _ v => length_dropWhile_le sqlite3Isdigit v) ?_
  · refine LocalOn.ite (fun _ => signed_parameter) fun _ => ?_
    refine LocalOn.iteHead (P := fun o => (c = 0x78 ∨ c = 0x58) ∧ o = some 0x27)
      (hblob.tail shrinks_blob) ?_ (fun h => absurd h.2 (by decide)) ?_
    · exact LocalOn.ite (fun _ => localOn_dropWhile IdChar (.inl rfl) fun before =>
        keywordCode (c :: before)) fun _ => hpure _
    · intro _ y hy h
      exact hy.ne (by decide) (Option.some.inj h.2)
  · intro h y _ hdigit
    exact h ⟨hdigit.1, rfl⟩

/-- A number that begins with this character does not join with the text. -/
def StaysApart (t : List UInt8) (y : UInt8) : Prop := Signed y ∧ ¬ (t = [0x2D] ∧ y = 0x2D)

theorem staysApart_zero (t : List UInt8) : StaysApart t 0x30 :=
  ⟨signed_zero, fun h => absurd h.2 (by decide)⟩

theorem sqlite3GetToken_apart {t v : List UInt8} (ht : t ≠ [])
    (hleft : v.length < (sqlite3GetToken keywordCode (t ++ 0x30 :: v)).2.length) :
    ∃ k u, ∀ y v', StaysApart t y →
      sqlite3GetToken keywordCode (t ++ y :: v') = (k, u ++ y :: v') := by
  obtain ⟨c, q, rfl⟩ := List.exists_cons_of_ne_nil ht
  by_cases hc : c = 0x2D
  · subst hc
    have hminus (z : List UInt8) : sqlite3GetToken keywordCode (0x2D :: z) = minus z := rfl
    simp only [List.cons_append, hminus] at hleft ⊢
    cases q with
    | nil =>
        refine ⟨.minus, [], fun y v' hy => minus_of_head fun hhead => ?_⟩
        exact hy.2 ⟨rfl, Option.some.inj hhead⟩
    | cons a q =>
        obtain ⟨k, u, hu⟩ := signed_minus a q v hleft
        exact ⟨k, u, fun y v' hy => hu y v' hy.1⟩
  · obtain ⟨k, u, hu⟩ := signed_token keywordCode hc q v hleft
    exact ⟨k, u, fun y v' hy => hu y v' hy.1⟩

theorem overlooks : (lexer keywordCode).Overlooks StaysApart 0x30 :=
  Lexer.overlooks_ofScanner (separates keywordCode).shrinks staysApart_zero
    fun _ _ ht hleft => sqlite3GetToken_apart keywordCode ht hleft

/-! ## The tokens of an integer -/

theorem isdigit_iff {d : UInt8} :
    sqlite3Isdigit d = true ↔ 0x30 ≤ d.toNat ∧ d.toNat ≤ 0x39 := by
  rw [sqlite3Isdigit, Bool.and_eq_true, decide_eq_true_eq, decide_eq_true_eq,
    UInt8.le_iff_toNat_le, UInt8.le_iff_toNat_le]
  rfl

theorem token_digit {d : UInt8} (hd : sqlite3Isdigit d = true) (z : List UInt8) :
    token keywordCode d z = number (d :: z) := by
  obtain ⟨hlo, hhi⟩ := isdigit_iff.mp hd
  rw [← UInt8.ofNat_toNat (x := d)]
  generalize d.toNat = n at hlo hhi
  interval_cases n <;> rfl

/-- A word character behind the digits is part of the token. -/
theorem length_behind (k : TokenType) {b : UInt8} (hb : IdChar b = true) (z : List UInt8) :
    (wordBehind (exponent k (b :: z)).1 (exponent k (b :: z)).2).2.length ≤ z.length := by
  have hword (k : TokenType) : (wordBehind k (b :: z)).2.length ≤ z.length := by
    show ((b :: z).dropWhile IdChar).length ≤ z.length
    rw [List.dropWhile_cons_of_pos hb]
    exact length_dropWhile_le IdChar z
  cases z with
  | nil => exact hword k
  | cons d z =>
      rw [exponent]
      split
      · refine Nat.le_trans (shrinks_wordBehind _ _) ?_
        exact Nat.le_succ_of_le (length_dropWhile_le sqlite3Isdigit z)
      · exact hword k

section
variable {digits after : List UInt8} (hdigits : ∀ d ∈ digits, sqlite3Isdigit d = true)
include hdigits

theorem number_append : number (digits ++ after) = number after := by
  rw [number, List.dropWhile_append_of_pos hdigits]
  rfl

/-- Digits before a character that does not go on with a number. -/
theorem number_digits (hafter : ∀ b ∈ after.head?, ContinuesNumber b = false) :
    number (digits ++ after) = (.integer, after) := by
  rw [number_append hdigits]
  cases after with
  | nil => rfl
  | cons b z =>
      have hb := hafter b rfl
      rw [ContinuesNumber, Bool.or_eq_false_iff, decide_eq_false_iff_not] at hb
      have hdigit := not_isdigit_of_idChar hb.1
      have hpoint : fraction (b :: z) = (.integer, b :: z) := by
        rw [fraction, onNext, if_neg hb.2]
      have hexp : exponent .integer (b :: z) = (.integer, b :: z) := by
        have hne : ¬ (b = 0x65 ∨ b = 0x45) := by
          rintro (rfl | rfl)
          · cases hb.1
          · cases hb.1
        cases z with
        | nil => rfl
        | cons d z => exact if_neg fun h => hne h.1
      have hrun : (b :: z).dropWhile sqlite3Isdigit = b :: z :=
        List.dropWhile_cons_of_neg (by simp [hdigit])
      have hword : wordBehind .integer (b :: z) = (.integer, b :: z) := by
        rw [wordBehind, List.takeWhile_cons_of_neg (by simp [hb.1]),
          List.dropWhile_cons_of_neg (by simp [hb.1]), if_pos rfl]
      rw [number, hrun, hpoint]
      dsimp only
      rw [hexp]
      exact hword

/-- Any other character is part of the token. -/
theorem length_number_digits {b : UInt8} {z : List UInt8} (hb : ContinuesNumber b = true) :
    (number (digits ++ b :: z)).2.length ≤ z.length := by
  rw [number_append hdigits]
  cases hdigit : sqlite3Isdigit b with
  | true => exact length_number_digit hdigit z
  | false =>
      have hrun : (b :: z).dropWhile sqlite3Isdigit = b :: z :=
        List.dropWhile_cons_of_neg (by simp [hdigit])
      by_cases hpoint : b = 0x2E
      · rw [hpoint]
        exact length_number_dot z
      · have hid : IdChar b = true := by
          rw [ContinuesNumber, Bool.or_eq_true] at hb
          exact hb.resolve_right fun h => hpoint (of_decide_eq_true h)
        have hfraction : fraction (b :: z) = (.integer, b :: z) := by
          rw [fraction, onNext, if_neg hpoint]
        rw [number, hrun, hfraction]
        exact length_behind .integer hid z

end

/-! ## Integers in a text -/

/-- The digits of a number. -/
def decimal (n : Nat) : List UInt8 := (Nat.toDigits 10 n).map fun c => .ofNat c.toNat

/-- An integer as it is printed. -/
def numeral (v : Int) : List UInt8 := (if v < 0 then [0x2D] else []) ++ decimal v.natAbs

/-- The tokens of an integer: perhaps a minus sign, and a number. -/
def operandTokens (v : Int) : List (Token UInt8 TokenType) :=
  (if v < 0 then [⟨.minus, [0x2D]⟩] else []) ++ [⟨.integer, decimal v.natAbs⟩]

theorem isdigit_decimal (n : Nat) : ∀ d ∈ decimal n, sqlite3Isdigit d = true := by
  intro d hd
  obtain ⟨c, hc, rfl⟩ := List.mem_map.mp hd
  have hdigit := Nat.isDigit_of_mem_toDigits (by omega) (Nat.le_refl 10) hc
  rw [Char.isDigit, Bool.and_eq_true, decide_eq_true_eq, decide_eq_true_eq] at hdigit
  have hlo : 48 ≤ c.toNat := UInt32.le_iff_toNat_le.mp hdigit.1
  have hhi : c.toNat ≤ 57 := UInt32.le_iff_toNat_le.mp hdigit.2
  rw [isdigit_iff, UInt8.toNat_ofNat', Nat.mod_eq_of_lt (by omega)]
  exact ⟨hlo, hhi⟩

theorem decimal_ne_nil (n : Nat) : decimal n ≠ [] :=
  fun h => Nat.toDigits_ne_nil (List.map_eq_nil_iff.mp h)

theorem decimal_eq_cons (n : Nat) : ∃ d ds, decimal n = d :: ds ∧ sqlite3Isdigit d = true := by
  obtain ⟨d, ds, hd⟩ := List.exists_cons_of_ne_nil (decimal_ne_nil n)
  have hmem : d ∈ d :: ds := List.mem_cons_self
  rw [← hd] at hmem
  exact ⟨d, ds, hd, isdigit_decimal n d hmem⟩

theorem zero_not_mem_numeral (v : Int) : 0 ∉ numeral v := by
  intro h
  rcases List.mem_append.mp h with hsign | hdigit
  · split at hsign
    · exact absurd (List.mem_singleton.mp hsign) (by decide)
    · cases hsign
  · exact absurd (isdigit_decimal _ 0 hdigit) (by decide)

theorem flatMap_operandTokens (v : Int) : (operandTokens v).flatMap Token.text = numeral v := by
  rw [operandTokens, numeral]
  split <;> simp

theorem numeral_eq_cons (v : Int) : ∃ y tail, numeral v = y :: tail ∧ Signed y ∧
    (y = 0x2D ↔ v < 0) := by
  obtain ⟨d, ds, hd, hdigit⟩ := decimal_eq_cons v.natAbs
  rw [numeral]
  by_cases hv : v < 0
  · exact ⟨0x2D, decimal v.natAbs, by rw [if_pos hv]; rfl, .inr rfl, by simp [hv]⟩
  · refine ⟨d, ds, by rw [if_neg hv, hd]; rfl, .inl hdigit, iff_of_false ?_ hv⟩
    rintro rfl
    cases hdigit

section
variable {after : List UInt8}

theorem sqlite3GetToken_decimal (n : Nat) (after : List UInt8) :
    sqlite3GetToken keywordCode (decimal n ++ after) = number (decimal n ++ after) := by
  obtain ⟨d, ds, hd, hdigit⟩ := decimal_eq_cons n
  rw [hd]
  exact token_digit keywordCode hdigit (ds ++ after)

/-- Digits are a token if nothing goes on with the number. -/
theorem lex_decimal (n : Nat) (hafter : ∀ b ∈ after.head?, ContinuesNumber b = false) :
    (lexer keywordCode).lex () (decimal n ++ after) =
      ⟨.integer, decimal n⟩ :: (lexer keywordCode).lex () after := by
  refine Lexer.lex_ofScanner (decimal_ne_nil n) ?_
  rw [sqlite3GetToken_decimal]
  exact number_digits (isdigit_decimal n) hafter

theorem not_continues_of_lex {n : Nat} {ts : List (Token UInt8 TokenType)}
    (h : (lexer keywordCode).lex () (decimal n ++ after) = ⟨.integer, decimal n⟩ :: ts) :
    ∀ b ∈ after.head?, ContinuesNumber b = false := by
  intro b hb
  cases hcontinues : ContinuesNumber b with
  | false => rfl
  | true =>
      obtain ⟨z, rfl⟩ := List.head?_eq_some_iff.mp hb
      have hlength := Lexer.length_of_lex h
      have hle := length_number_digits (isdigit_decimal n) (z := z) hcontinues
      rw [sqlite3GetToken_decimal] at hlength
      omega

/-- A minus sign before digits is a token. -/
theorem lex_minus (n : Nat) (after : List UInt8) :
    (lexer keywordCode).lex () (0x2D :: (decimal n ++ after)) =
      ⟨.minus, [0x2D]⟩ :: (lexer keywordCode).lex () (decimal n ++ after) := by
  obtain ⟨d, ds, hd, hdigit⟩ := decimal_eq_cons n
  have hhead : (decimal n ++ after).head? ≠ some 0x2D := by
    rw [hd, List.cons_append, List.head?_cons]
    rintro ⟨⟩
    cases hdigit
  have hminus : sqlite3GetToken keywordCode ([0x2D] ++ (decimal n ++ after)) =
      (.minus, decimal n ++ after) := minus_of_head hhead
  exact Lexer.lex_ofScanner (List.cons_ne_nil _ _) hminus

/-- Two minus signs are not one of them and something else. -/
theorem lex_comment_ne (z : List UInt8) (k : TokenType) (ts : List (Token UInt8 TokenType)) :
    (lexer keywordCode).lex () (0x2D :: 0x2D :: z) ≠ ⟨k, [0x2D]⟩ :: ts := by
  intro h
  have hlength := Lexer.length_of_lex (w := [0x2D]) h
  have hcomment : (sqlite3GetToken keywordCode ([0x2D] ++ 0x2D :: z)).2 =
      z.dropWhile (· ≠ 0x0A) := rfl
  have hle := length_dropWhile_le (fun b : UInt8 => decide (b ≠ 0x0A)) z
  rw [hcomment] at hlength
  omega

theorem lex_numeral (v : Int) (hafter : ∀ b ∈ after.head?, ContinuesNumber b = false) :
    (lexer keywordCode).lex () (numeral v ++ after) =
      operandTokens v ++ (lexer keywordCode).lex () after := by
  rw [numeral, operandTokens]
  by_cases hv : v < 0
  · rw [if_pos hv, if_pos hv, List.append_assoc, List.singleton_append, lex_minus,
      lex_decimal keywordCode _ hafter]
    rfl
  · rw [if_neg hv, if_neg hv]
    exact lex_decimal keywordCode _ hafter

theorem not_continues_of_numeral {v : Int} {ts : List (Token UInt8 TokenType)}
    (h : (lexer keywordCode).lex () (numeral v ++ after) = operandTokens v ++ ts) :
    ∀ b ∈ after.head?, ContinuesNumber b = false := by
  rw [numeral, operandTokens] at h
  by_cases hv : v < 0
  · rw [if_pos hv, if_pos hv, List.append_assoc, List.singleton_append, lex_minus] at h
    exact not_continues_of_lex keywordCode (List.cons.inj h).2
  · rw [if_neg hv, if_neg hv] at h
    exact not_continues_of_lex keywordCode h

end

/-! ## A number in its place -/

/-- Where no token covers the place, the number `0` is a token there. -/
theorem exists_place {before : List UInt8}
    (h : (lexer keywordCode).covering () (before ++ [0x30]) before.length = none) :
    ∃ pre, (lexer keywordCode).lex () (before ++ [0x30]) = pre ++ [⟨.integer, [0x30]⟩] := by
  have hle : before.length ≤ (before ++ [0x30]).length := by
    rw [List.length_append]
    exact Nat.le_add_right _ _
  obtain ⟨pre, m, hlex⟩ := Lexer.lex_of_covering_eq_none hle h
  have hzero : (lexer keywordCode).lex () [0x30] = [⟨.integer, [0x30]⟩] := by
    have hnone : ∀ b ∈ ([] : List UInt8).head?, ContinuesNumber b = false := by simp
    have hdecimal := lex_decimal keywordCode 0 hnone
    rw [Lexer.lex] at hdecimal
    exact hdecimal
  rw [List.drop_left, hzero] at hlex
  exact ⟨pre, hlex⟩

section
variable {before after : List UInt8} {pre : List (Token UInt8 TokenType)}
  (hplace : (lexer keywordCode).lex () (before ++ [0x30]) = pre ++ [⟨.integer, [0x30]⟩])
include hplace

theorem before_eq : before = pre.flatMap Token.text := by
  have htext := Lexer.flatMap_lex (lexer keywordCode) () (before ++ [0x30])
  rw [hplace, List.flatMap_append] at htext
  exact (List.append_cancel_right htext).symm

theorem text_ne_nil_of_place : ∀ t ∈ pre, t.text ≠ [] := by
  intro t ht
  have hmem : t ∈ pre ++ [⟨.integer, [0x30]⟩] := List.mem_append_left _ ht
  rw [← hplace] at hmem
  exact Lexer.text_ne_nil hmem

/-- The tokens before the place stay, unless two minus signs meet. -/
theorem lex_before {v : Int} (hsigns : ¬ (v < 0 ∧ pre.getLast?.map Token.text = some [0x2D])) :
    (lexer keywordCode).lex () (before ++ (numeral v ++ after)) =
      pre ++ (lexer keywordCode).lex () (numeral v ++ after) := by
  have htexts := text_ne_nil_of_place keywordCode hplace
  obtain rfl := before_eq keywordCode hplace
  obtain ⟨m, hgo⟩ := Lexer.lex_of_overlooks (overlooks keywordCode) (u := []) hplace
  obtain ⟨y, tail, hnumeral, hsigned, hminus⟩ := numeral_eq_cons v
  rw [hnumeral]
  refine hgo y (tail ++ after) fun back hback hsuffix => ⟨hsigned, ?_⟩
  rintro ⟨hsingle, hy⟩
  rw [List.append_nil] at hsingle
  obtain ⟨t, rfl, ht⟩ := Lexer.eq_singleton_of_flatMap
    (fun t ht => htexts t (hsuffix.subset ht)) hsingle
  obtain ⟨front, rfl⟩ := hsuffix
  refine hsigns ⟨hminus.mp hy, ?_⟩
  rw [List.getLast?_concat, Option.map_some, ht]

/-- Where they meet, the tokens change. -/
theorem lex_signs_ne {t : Token UInt8 TokenType} (hlast : pre.getLast? = some t)
    (ht : t.text = [0x2D]) (z : List UInt8) (ts : List (Token UInt8 TokenType)) :
    (lexer keywordCode).lex () (before ++ 0x2D :: z) ≠ pre ++ ts := by
  intro h
  have htexts := text_ne_nil_of_place keywordCode hplace
  obtain rfl := before_eq keywordCode hplace
  obtain ⟨front, rfl⟩ := List.getLast?_eq_some_iff.mp hlast
  rw [List.flatMap_append, List.flatMap_singleton, ht, List.append_assoc] at hplace h
  rw [List.append_assoc] at hplace h
  obtain ⟨m, hgo⟩ := Lexer.lex_of_overlooks (overlooks keywordCode) (u := [0x2D]) hplace
  have hcomment := hgo 0x2D z fun back hback hsuffix => ⟨.inr rfl, fun hsingle => ?_⟩
  · rw [hcomment] at h
    obtain ⟨k, w⟩ := t
    obtain rfl : w = [0x2D] := ht
    exact lex_comment_ne keywordCode z k ts (List.append_cancel_left h)
  · obtain ⟨b, hb⟩ := List.exists_mem_of_ne_nil back hback
    have hempty : back.flatMap Token.text = [] :=
      List.append_cancel_right (hsingle.1.trans (List.nil_append _).symm)
    have hfront : b ∈ front ++ [t] := List.mem_append_left _ (hsuffix.subset hb)
    exact htexts b hfront (List.flatMap_eq_nil_iff.mp hempty b hb)

/-- A number in the place leaves the other tokens as they are exactly if nothing behind
goes on with it and no two minus signs meet. -/
theorem lex_place_iff (v : Int) :
    (lexer keywordCode).lex () (before ++ (numeral v ++ after)) =
        pre ++ (operandTokens v ++ (lexer keywordCode).lex () after) ↔
      (∀ b ∈ after.head?, ContinuesNumber b = false) ∧
        ¬ (v < 0 ∧ pre.getLast?.map Token.text = some [0x2D]) := by
  constructor
  · intro h
    have hsigns : ¬ (v < 0 ∧ pre.getLast?.map Token.text = some [0x2D]) := by
      rintro ⟨hv, hlast⟩
      obtain ⟨t, ht, htext⟩ := Option.map_eq_some_iff.mp hlast
      rw [numeral, if_pos hv, List.append_assoc, List.singleton_append] at h
      exact lex_signs_ne keywordCode hplace ht htext _ _ h
    rw [lex_before keywordCode hplace hsigns] at h
    exact ⟨not_continues_of_numeral keywordCode (List.append_cancel_left h), hsigns⟩
  · rintro ⟨hafter, hsigns⟩
    rw [lex_before keywordCode hplace hsigns, lex_numeral keywordCode v hafter]

/-- The same of a C string, which ends at the first NUL. -/
theorem lex_cString_iff (v : Int) (after : List UInt8) :
    (lexer keywordCode).lex () (cString (before ++ (numeral v ++ after))).val =
        pre ++ (operandTokens v ++ (lexer keywordCode).lex () after) ↔
      (0 ∉ before ∧ 0 ∉ after) ∧ (∀ b ∈ after.head?, ContinuesNumber b = false) ∧
        ¬ (v < 0 ∧ pre.getLast?.map Token.text = some [0x2D]) := by
  have hzero : 0 ∉ before ++ (numeral v ++ after) ↔ 0 ∉ before ∧ 0 ∉ after := by
    simp only [List.mem_append, zero_not_mem_numeral, false_or, not_or]
  rw [← hzero, ← cString_val_eq_self_iff]
  constructor
  · intro h
    have hwhole : (cString (before ++ (numeral v ++ after))).val =
        before ++ (numeral v ++ after) := by
      have htext := Lexer.flatMap_lex (lexer keywordCode) ()
        (cString (before ++ (numeral v ++ after))).val
      rw [h, List.flatMap_append, List.flatMap_append, flatMap_operandTokens,
        Lexer.flatMap_lex, ← before_eq keywordCode hplace] at htext
      exact htext.symm
    rw [hwhole] at h
    exact ⟨hwhole, (lex_place_iff keywordCode hplace v).mp h⟩
  · rintro ⟨hwhole, h⟩
    rw [hwhole]
    exact (lex_place_iff keywordCode hplace v).mpr h

end

end

end SQLite

end MGMDB
