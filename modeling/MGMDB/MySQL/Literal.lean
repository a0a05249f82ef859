import MGMDB.Codec
import MGMDB.Quote

/-!
# MySQL string literals

`readLiteral` reads a quoted string by the rules MySQL documents for the default
`sql_mode`: a backslash starts an escape, a doubled quote is a quote, and the
quote that is not doubled ends the string.

`escapeString:` writes some characters as escapes that MySQL reads as something
else.  Its switch tests for the digit `'0'` and writes `\0`, which is NUL, and
the `\u....` it writes for control characters is no escape of MySQL's.
`readLiteral_quoteObject` says what comes back for every string, and
`readLiteral_quoteObject_iff` for which strings that is the string itself.
-/

namespace MGMDB

namespace MySQL

/-! ## Reading a literal -/

/-- The value of an escape, by the character after the backslash. -/
def readEscape (c : unichar) : NSString :=
  if c = 0x30 then [0x00]             -- \0
  else if c = 0x6E then [0x0A]        -- \n
  else if c = 0x72 then [0x0D]        -- \r
  else if c = 0x74 then [0x09]        -- \t
  else if c = 0x62 then [0x08]        -- \b
  else if c = 0x5A then [0x1A]        -- \Z
  else if c = 0x25 then [0x5C, 0x25]  -- \% keeps its backslash
  else if c = 0x5F then [0x5C, 0x5F]  -- and so does \_
  else [c]

/-- What follows the opening quote, up to a closing quote that ends the text. -/
def readBody : NSString → Option NSString
  | [] => none
  | [c] => if c = 0x27 then some [] else none
  | c :: d :: rest =>
      if c = 0x5C then (readBody rest).map (readEscape d ++ ·)
      else if c = 0x27 then
        if d = 0x27 then (readBody rest).map (0x27 :: ·) else none
      else (readBody (d :: rest)).map (c :: ·)

/-- The value of a literal in single quotes. -/
def readLiteral : NSString → Option NSString
  | [] => none
  | c :: body => if c = 0x27 then readBody body else none

theorem readBody_quote : readBody [0x27] = some [] := rfl

theorem readBody_escape (d : unichar) (rest : NSString) :
    readBody (0x5C :: d :: rest) = (readBody rest).map (readEscape d ++ ·) := rfl

/-- A character that is no quote and no backslash stands for itself. -/
theorem readBody_plain {c : unichar} (hq : c ≠ 0x27) (hb : c ≠ 0x5C) (rest : NSString) :
    readBody (c :: rest) = (readBody rest).map (c :: ·) := by
  cases rest with
  | nil => simp [readBody, hq]
  | cons d rest => simp [readBody, hq, hb]

end MySQL

namespace MGMMyConnection

open MySQL

/-! ## What comes back -/

/-- What MySQL reads for the code of one character in the escaping loop. -/
def readBack (c : unichar) : NSString :=
  if c = 0x30 then [0x00]
  else if c < 0x20 ∧ c ≠ 0x0A ∧ c ≠ 0x0D then 0x75 :: hex4 c
  else [c]

/-- The digits of `%04x` are no quotes and no backslashes. -/
theorem hex4_plain (c : unichar) : ∀ d ∈ hex4 c, d ≠ 0x27 ∧ d ≠ 0x5C := by
  have digit : ∀ n < 16, (lit "0123456789abcdef").getD n 0 ≠ 0x27 ∧
      (lit "0123456789abcdef").getD n 0 ≠ 0x5C := by decide
  intro d hd
  obtain ⟨shift, -, rfl⟩ := List.mem_map.mp hd
  exact digit _ (Nat.lt_of_le_of_lt Nat.and_le_right (by decide))

/-- A run of characters that stand for themselves. -/
theorem readBody_plain_append {l : NSString} (hl : ∀ d ∈ l, d ≠ 0x27 ∧ d ≠ 0x5C)
    (rest : NSString) : readBody (l ++ rest) = (readBody rest).map (l ++ ·) := by
  induction l with
  | nil => simp
  | cons d l ih =>
    have hd := hl d List.mem_cons_self
    rw [List.cons_append, readBody_plain hd.1 hd.2,
      ih fun e he => hl e (List.mem_cons_of_mem _ he)]
    simp [Function.comp_def]

/-- The reader undoes one turn of the escaping loop, up to `readBack`. -/
theorem readBody_escapeCharacter (c : unichar) (rest : NSString) :
    readBody (escapeCharacter c ++ rest) = (readBody rest).map (readBack c ++ ·) := by
  by_cases h0 : c = 0x30
  · subst h0
    exact readBody_escape 0x30 rest
  by_cases hq : c = 0x27
  · subst hq
    exact readBody_escape 0x27 rest
  by_cases hd : c = 0x22
  · subst hd
    exact readBody_escape 0x22 rest
  by_cases hb : c = 0x5C
  · subst hb
    exact readBody_escape 0x5C rest
  by_cases hn : c = 0x0A
  · subst hn
    exact readBody_escape 0x6E rest
  by_cases hr : c = 0x0D
  · subst hr
    exact readBody_escape 0x72 rest
  by_cases hctl : c < 0x20
  · -- the backslash goes and leaves the `u` and the digits
    have hback : readBack c = 0x75 :: hex4 c := by simp [readBack, h0, hn, hr, hctl]
    have hesc : escapeCharacter c = 0x5C :: 0x75 :: hex4 c := by
      simp only [escapeCharacter, h0, hq, hd, hb, hn, hr, hctl, if_true, if_false]
      rfl
    rw [hback, hesc, List.cons_append, List.cons_append, readBody_escape,
      readBody_plain_append (hex4_plain c), Option.map_map]
    rfl
  · have hback : readBack c = [c] := by simp [readBack, h0, hctl]
    have hesc : escapeCharacter c = [c] := by
      simp [escapeCharacter, h0, hq, hd, hb, hn, hr, hctl]
    rw [hback, hesc]
    exact readBody_plain hq hb rest

/-- Whether the escaping loop writes every character of `s` so that it is read
back: no digit zero, and no control character but LF and CR. -/
def LoopSafe (s : NSString) : Prop := ∀ c ∈ s, c ≠ 0x30 ∧ (c < 0x20 → c = 0x0A ∨ c = 0x0D)

instance (s : NSString) : Decidable (LoopSafe s) :=
  inferInstanceAs (Decidable (∀ c ∈ s, _))

theorem readBack_ne_nil (c : unichar) : readBack c ≠ [] := by
  unfold readBack
  split_ifs <;> simp

theorem readBack_eq_self_iff (c : unichar) :
    readBack c = [c] ↔ c ≠ 0x30 ∧ (c < 0x20 → c = 0x0A ∨ c = 0x0D) := by
  unfold readBack
  split_ifs with h0 hctl
  · subst h0
    decide
  · simp only [List.cons.injEq, ne_eq, h0, not_false_eq_true, true_and]
    constructor
    · rintro ⟨rfl, -⟩
      exact absurd hctl.1 (by decide)
    · intro h
      rcases h hctl.1 with h | h
      · exact absurd h hctl.2.1
      · exact absurd h hctl.2.2
  · simp only [ne_eq, h0, not_false_eq_true, true_and, true_iff]
    intro hlt
    by_contra hne
    push Not at hne
    exact hctl ⟨hlt, hne.1, hne.2⟩

/-- What MySQL reads of the literal `quoteObject:` builds for a string. -/
theorem readLiteral_quoteObject (F : Foundation) (s : NSString) :
    readLiteral (quoteObject F (some (.string s))) =
      some (match rangeOfCharacterFromSet s escapeSet with
        | none => s
        | some _ => s.flatMap readBack) := by
  show readBody (escapeString s ++ [0x27]) = _
  unfold escapeString
  cases hs : rangeOfCharacterFromSet s escapeSet with
  | none =>
      have hplain : ∀ d ∈ s, d ≠ 0x27 ∧ d ≠ 0x5C := by
        intro d hd
        have h := rangeOfCharacterFromSet_eq_none.mp hs d hd
        simp only [escapeSet, Bool.or_eq_false_iff, decide_eq_false_iff_not] at h
        exact ⟨h.1.1, h.2⟩
      rw [readBody_plain_append hplain, readBody_quote]
      simp
  | some i => simpa using Codec.read_flatMap readBody_quote fun c _ => readBody_escapeCharacter c

/-- A string is read back exactly when it takes the path without escapes, or no
character of it is one the loop writes wrongly. -/
theorem readLiteral_quoteObject_iff (F : Foundation) (s : NSString) :
    readLiteral (quoteObject F (some (.string s))) = some s ↔
      (∀ c ∈ s, escapeSet c = false) ∨ LoopSafe s := by
  rw [readLiteral_quoteObject, Option.some.injEq, ← rangeOfCharacterFromSet_eq_none]
  cases hs : rangeOfCharacterFromSet s escapeSet with
  | none => exact iff_of_true rfl (Or.inl rfl)
  | some i =>
      rw [Codec.flatMap_eq_self_iff fun c _ => readBack_ne_nil c]
      simp only [readBack_eq_self_iff, reduceCtorEq, false_or, LoopSafe]

/-- A quote anywhere in a string makes the digit zero come back as NUL. -/
theorem not_readLiteral_quoteObject :
    ¬ ∀ (F : Foundation) (s : NSString),
      readLiteral (quoteObject F (some (.string s))) = some s := by
  intro h
  have hs := h default (lit "it's 10")
  revert hs
  decide

end MGMMyConnection

end MGMDB
