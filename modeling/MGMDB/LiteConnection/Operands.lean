import MGMDB.Handed
import MGMDB.Query.Slot
import MGMDB.SQLite.Numerals

/-!
# Numbers as operands

`query:` writes a number into the text as it is printed, with nothing around it.  Where
SQL has a place for an operand, it is read as a minus sign and a number, unless it joins
with the template: behind a minus sign that of a negative number begins a comment, and a
letter, a digit or a point behind the directive goes on with the number
(`keepsOperand_iff`).
-/

namespace MGMDB

open SQLite Lexing

/-- `printf` writes integers in decimal, for `%hi` what is left of them in 16 bits. -/
structure Foundation.PrintsIntegers (F : Foundation) : Prop where
  d (v : Int32) : F.appendFormat (lit "%d") (.int v) = lit (toString v.toInt)
  hi (v : Int32) : F.appendFormat (lit "%hi") (.int v) = lit (toString v.toInt16.toInt)
  qi (v : Int64) : F.appendFormat (lit "%qi") (.longLong v) = lit (toString v.toInt)

namespace MGMLiteConnection

/-- A directive with an argument that is an integer, and its value. -/
inductive IntegerArg {F : Foundation} : Query.Directive F → Arg → Int → Prop where
  | d (v : Int32) : IntegerArg (.numeric .d) (.int v) v.toInt
  | D (v : Int32) : IntegerArg (.numeric .D) (.int v) v.toInt
  | i (v : Int32) : IntegerArg (.numeric .i) (.int v) v.toInt
  | hi (v : Int32) : IntegerArg (.numeric .hi) (.int v) v.toInt16.toInt
  | qi (v : Int64) : IntegerArg (.numeric .qi) (.longLong v) v.toInt
  | signed (v : Int) : IntegerArg .object (.object (some (.number (.signed v)))) v
  | unsigned (v : Nat) : IntegerArg .object (.object (some (.number (.unsigned v)))) v

/-- The engine is handed a text with the tokens `pre`, those of the integer and those of
what stands behind it in the template. -/
def KeepsOperand (keywordCode : List UInt8 → TokenType)
    (composed : Except Query.Failure NSString) (pre : List (Token UInt8 TokenType)) (v : Int)
    (right : NSString) : Prop :=
  ∃ sql after, handed composed = .engine (some sql) ∧ UTF8String right = some after ∧
    (lexer keywordCode).lex () sql.val =
      pre ++ (operandTokens v ++ (lexer keywordCode).lex () after)

/-! ## The text of an integer -/

theorem toList_toString (v : Int) :
    (toString v).toList = (if v < 0 then ['-'] else []) ++ Nat.toDigits 10 v.natAbs := by
  rw [Int.toString_eq_repr, Int.repr_eq_if]
  by_cases hv : v < 0
  · rw [if_neg (by omega), if_pos hv, String.toList_append, Nat.toList_repr]
    congr 2
    omega
  · rw [if_pos (by omega), if_neg hv, Nat.toList_repr]
    congr 1
    omega

theorem map_toUInt8_lit (v : Int) : (lit (toString v)).map UInt16.toUInt8 = numeral v := by
  have hbytes (cs : List Char) : (cs.map fun c => UInt16.ofNat c.toNat).map UInt16.toUInt8 =
      cs.map fun c => UInt8.ofNat c.toNat := by
    simp
  rw [lit, hbytes, toList_toString, List.map_append, numeral]
  split <;> rfl

/-- The text is ASCII. -/
theorem lit_toString_lt (v : Int) : ∀ u ∈ lit (toString v), u < 0x80 := by
  intro u hu
  obtain ⟨c, hc, rfl⟩ := List.mem_map.mp hu
  rw [toList_toString, List.mem_append] at hc
  have hlt : c.toNat < 0x80 := by
    rcases hc with hsign | hdigit
    · split at hsign
      · rw [List.mem_singleton.mp hsign]
        decide
      · cases hsign
    · have hdigit := Nat.isDigit_of_mem_toDigits (by omega) (Nat.le_refl 10) hdigit
      rw [Char.isDigit, Bool.and_eq_true, decide_eq_true_eq, decide_eq_true_eq] at hdigit
      have hhi : c.toNat ≤ 57 := UInt32.le_iff_toNat_le.mp hdigit.2
      omega
  rw [UInt16.lt_iff_toNat_lt, Unicode.toNat_ofNat_of_lt (by omega)]
  exact hlt

theorem lit_toString_ne (v : Int) : lit (toString v) ≠ [] := by
  intro h
  have hbytes := map_toUInt8_lit v
  obtain ⟨y, tail, hnumeral, -⟩ := numeral_eq_cons v
  rw [h, hnumeral] at hbytes
  cases hbytes

/-- The bytes of a text with an integer in it. -/
theorem UTF8String_place {left : NSString} {before : List UInt8} (h : UTF8String left = some before)
    (v : Int) (right : NSString) : UTF8String (left ++ lit (toString v) ++ right) =
      (UTF8String right).map fun after => before ++ (numeral v ++ after) := by
  have hascii := lit_toString_lt v
  have hhead : ∀ u ∈ (lit (toString v) ++ right).head?, Unicode.isLow u = false := by
    intro u hu
    rw [List.head?_append_of_ne_nil _ (lit_toString_ne v)] at hu
    exact (Unicode.not_surrogate (hascii u (List.mem_of_mem_head? hu))).2
  rw [UTF8String, UTF8String] at *
  rw [List.append_assoc, Unicode.toUtf8_append left hhead, h,
    Unicode.toUtf8_ascii_append hascii, map_toUInt8_lit, Option.bind_some, Option.map_map]
  rfl

/-! ## The place of an integer -/

section
variable {F : Foundation} {d : Query.Directive F} {a : Arg} {v : Int}

theorem IntegerArg.ne_percent (h : IntegerArg d a v) : d ≠ .percent := by
  rintro rfl
  cases h

theorem IntegerArg.accepts (h : IntegerArg d a v) : d.Accepts a := by
  cases h <;> rfl

theorem IntegerArg.rendering (hF : F.PrintsIntegers) (h : IntegerArg d a v) :
    d.rendering (quoter F) a = lit (toString v) := by
  cases h with
  | d v => exact hF.d v
  | D v => exact hF.d v
  | i v => exact hF.d v
  | hi v => exact hF.hi v
  | qi v => exact hF.qi v
  | signed v => rfl
  | unsigned v => rfl

/-- In a place in which the number `0` is a token of its own, an integer keeps to its
place exactly if there is no NUL on either side, nothing behind goes on with a number, and
no minus sign meets one. -/
theorem keepsOperand_iff (hF : F.PrintsIntegers) (keywordCode : List UInt8 → TokenType)
    (slot : Query.Slot F) (h : IntegerArg d a v) {before : List UInt8}
    (hleft : UTF8String (slot.left (quoter F)) = some before)
    {pre : List (Token UInt8 TokenType)}
    (hplace : (lexer keywordCode).lex () (before ++ [0x30]) = pre ++ [⟨.integer, [0x30]⟩]) :
    KeepsOperand keywordCode (queryText F (slot.format d) (slot.arguments a)) pre v
        (slot.right (quoter F)) ↔
      0 ∉ before ∧
      (∃ after, UTF8String (slot.right (quoter F)) = some after ∧ 0 ∉ after ∧
        ∀ b ∈ after.head?, ContinuesNumber b = false) ∧
      ¬ (v < 0 ∧ pre.getLast?.map Token.text = some [0x2D]) := by
  have hcomposed := Query.compose_slot (quoter F) slot h.ne_percent h.accepts
  rw [h.rendering hF] at hcomposed
  have hne : slot.left (quoter F) ++ lit (toString v) ++ slot.right (quoter F) ≠ [] :=
    List.append_ne_nil_of_left_ne_nil
      (List.append_ne_nil_of_right_ne_nil _ (lit_toString_ne v)) _
  rw [KeepsOperand, queryText, hcomposed]
  cases hright : UTF8String (slot.right (quoter F)) with
  | none =>
      refine iff_of_false ?_ ?_
      · rintro ⟨_, _, _, hafter, _⟩
        cases hafter
      · rintro ⟨_, ⟨_, hafter, _⟩, _⟩
        cases hafter
  | some after =>
      have hutf8 := UTF8String_place hleft v (slot.right (quoter F))
      rw [hright, Option.map_some] at hutf8
      have hhanded : handed (.ok (slot.left (quoter F) ++ lit (toString v) ++
          slot.right (quoter F))) =
            .engine (some (cString (before ++ (numeral v ++ after)))) := by
        rw [handed_ok_iff, hutf8]
        exact ⟨hne, rfl⟩
      have hlex := lex_cString_iff keywordCode hplace v after
      constructor
      · rintro ⟨sql, after', hsql, hafter, htokens⟩
        obtain rfl := engine_inj hhanded hsql
        obtain rfl := Option.some.inj hafter
        obtain ⟨hzero, hcontinues, hsigns⟩ := hlex.mp htokens
        exact ⟨hzero.1, ⟨after, rfl, hzero.2, hcontinues⟩, hsigns⟩
      · rintro ⟨hbefore, ⟨after', hafter, hzero, hcontinues⟩, hsigns⟩
        obtain rfl := Option.some.inj hafter
        exact ⟨_, after, hhanded, rfl, hlex.mpr ⟨⟨hbefore, hzero⟩, hcontinues, hsigns⟩⟩

end

/-! ## Examples -/

/-- A `Foundation` that prints integers. -/
def printing : Foundation :=
  { (default : Foundation) with
    appendFormat := fun format a =>
      match a with
      | .int v =>
          if format = lit "%hi" then lit (toString v.toInt16.toInt) else lit (toString v.toInt)
      | .longLong v => lit (toString v.toInt)
      | _ => [] }

theorem printsIntegers_printing : printing.PrintsIntegers where
  d _ := rfl
  hi _ := rfl
  qi _ := rfl

/-- A difference and a second column. -/
def differenceSlot : Query.Slot printing :=
  .between ⟨lit "SELECT 10-", by decide⟩ ⟨lit ", 2", by decide⟩

def differenceTokens : List (Token UInt8 TokenType) :=
  [⟨.id, ascii "SELECT"⟩, ⟨.space, [0x20]⟩, ⟨.integer, ascii "10"⟩, ⟨.minus, [0x2D]⟩]

theorem utf8_difference :
    UTF8String (differenceSlot.left (quoter printing)) = some (ascii "SELECT 10-") := by
  decide +kernel

theorem lex_difference : (lexer fun _ => .id).lex () (ascii "SELECT 10-" ++ [0x30]) =
    differenceTokens ++ [⟨.integer, [0x30]⟩] := by
  decide +kernel

theorem keepsOperand_iff_difference :
    KeepsOperand (fun _ => .id) (queryText printing (differenceSlot.format (.numeric .d))
      (differenceSlot.arguments (.int 5))) differenceTokens 5
      (differenceSlot.right (quoter printing)) := by
  have hbehind : ∀ b ∈ (ascii ", 2").head?, ContinuesNumber b = false := by
    intro b hb
    obtain rfl : 0x2C = b := Option.some.inj hb
    rfl
  refine (keepsOperand_iff printsIntegers_printing (fun _ => .id) differenceSlot (.d 5)
    utf8_difference lex_difference).mpr ⟨by decide +kernel, ?_, fun h => absurd h.1 (by decide)⟩
  exact ⟨ascii ", 2", by decide +kernel, by decide +kernel, hbehind⟩

/-- Of `SELECT 10--5, 2` the engine reads `SELECT 10`. -/
theorem not_keepsOperand :
    ¬ ∀ {F : Foundation}, F.PrintsIntegers → ∀ (keywordCode : List UInt8 → TokenType)
      (slot : Query.Slot F) {d : Query.Directive F} {a : Arg} {v : Int}, IntegerArg d a v →
      ∀ {before : List UInt8}, UTF8String (slot.left (quoter F)) = some before →
      ∀ {pre : List (Token UInt8 TokenType)},
      (lexer keywordCode).lex () (before ++ [0x30]) = pre ++ [⟨.integer, [0x30]⟩] →
      KeepsOperand keywordCode (queryText F (slot.format d) (slot.arguments a)) pre v
        (slot.right (quoter F)) := by
  intro h
  obtain ⟨sql, after, hsql, -, htokens⟩ := h printsIntegers_printing (fun _ => .id) differenceSlot
    (.d (-5)) utf8_difference lex_difference
  have hhanded : handed (queryText printing (differenceSlot.format (.numeric .d))
      (differenceSlot.arguments (.int (-5)))) =
        .engine (some (cString (ascii "SELECT 10--5, 2"))) := by decide +kernel
  obtain rfl := engine_inj hhanded hsql
  have hcomment : (lexer fun _ => .id).lex () (cString (ascii "SELECT 10--5, 2")).val =
      [⟨.id, ascii "SELECT"⟩, ⟨.space, [0x20]⟩, ⟨.integer, ascii "10"⟩,
        ⟨.space, ascii "--5, 2"⟩] := by decide +kernel
  rw [hcomment] at htokens
  cases htokens

end MGMLiteConnection

end MGMDB
