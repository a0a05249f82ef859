import MGMDB.Handed
import MGMDB.MySQL.Literal
import MGMDB.Query.Slot

/-!
# The argument of `%s`

`quoteChar:` reads the bytes of a C string as UTF-8 and hands what it gets to
`quoteObject:`.  Bytes that are no UTF-8 give nil, `quoteObject:` takes nil for a missing
value, and the statement is run with the keyword `NULL` in the place of the argument.
`cString_iff` says that this is the only case in which the place does not hold a string.
-/

namespace MGMDB

/-- Nothing is run, or the text between the two sides is as `P` says. -/
def Inserts (composed : Except Query.Failure NSString) (left right : NSString)
    (P : NSString → Prop) : Prop :=
  handed composed = .nothing ∨ ∃ text, composed = .ok (left ++ text ++ right) ∧ P text

/-- A literal made of the string these bytes encode, and what MySQL reads for it. -/
def MGMMyConnection.DenotesString (F : Foundation) (bytes : List UInt8) (literal : NSString) :
    Prop :=
  ∃ s, UTF8String s = some bytes ∧ literal = quoteObject F (some (.string s)) ∧
    MySQL.readLiteral literal = some (match rangeOfCharacterFromSet s escapeSet with
      | none => s
      | some _ => s.flatMap readBack)

/-- A literal SQLite reads as the text with these bytes. -/
def MGMLiteConnection.DenotesString (bytes : List UInt8) (literal : NSString) : Prop :=
  ∃ w, UTF8String literal = some w ∧ SQLite.literalValue w = some (.text bytes)

section
variable {F : Foundation}

/-! ## The place of one argument -/

/-- A query with a text in the place is handed over. -/
theorem handed_ne_nothing {left text right : NSString} (h : text ≠ []) :
    handed (.ok (left ++ text ++ right)) ≠ .nothing := by
  have hne : left ++ text ++ right ≠ [] := by simp [h]
  rw [handed, if_neg hne]
  exact Handed.noConfusion

/-- What is inserted for an argument is its rendering. -/
theorem inserts_slot (Q : Query.Quoter) (slot : Query.Slot F) {d : Query.Directive F}
    (hd : d ≠ .percent) {a : Arg} (ha : d.Accepts a) (htext : d.rendering Q a ≠ [])
    (P : NSString → Prop) :
    Inserts (Query.compose F Q (slot.format d) (slot.arguments a) []) (slot.left Q) (slot.right Q)
      P ↔ P (d.rendering Q a) := by
  rw [Inserts, Query.compose_slot Q slot hd ha, or_iff_right (handed_ne_nothing htext)]
  constructor
  · rintro ⟨text, heq, hP⟩
    have hsame := List.append_cancel_right (Except.ok.inj heq)
    rwa [List.append_cancel_left hsame]
  · exact fun hP => ⟨_, rfl, hP⟩

theorem accepts_cString (s : CString) :
    Query.Directive.Accepts (F := F) .cString (.cString (some s)) :=
  ⟨rfl, by simp⟩

/-! ## The literal -/

section
variable {escape : NSString → NSString} {s : CString}

/-- A literal of a string begins with an apostrophe. -/
theorem quoteObjectWith_string_ne (t : NSString) :
    quoteObjectWith escape F (some (.string t)) ≠ lit "NULL" := by
  intro h
  exact absurd (List.cons.inj h).1 (by decide)

theorem quoteObjectWith_ne_nil :
    quoteObjectWith escape F ((stringWithUTF8String s).map .string) ≠ [] := by
  cases hs : stringWithUTF8String s with
  | none => exact List.cons_ne_nil _ _
  | some t => exact List.cons_ne_nil _ _

/-- Where the literals of strings are as `P` says, that of the bytes is exactly if they
are UTF-8. -/
theorem quoteObjectWith_iff {P : NSString → Prop}
    (hP : ∀ t, stringWithUTF8String s = some t → P (quoteObjectWith escape F (some (.string t)))) :
    quoteObjectWith escape F ((stringWithUTF8String s).map .string) ≠ lit "NULL" ∧
        P (quoteObjectWith escape F ((stringWithUTF8String s).map .string)) ↔
      (stringWithUTF8String s).isSome = true := by
  cases hs : stringWithUTF8String s with
  | none => exact iff_of_false (fun h => h.1 rfl) Bool.false_ne_true
  | some t => exact iff_of_true ⟨quoteObjectWith_string_ne t, hP t hs⟩ rfl

end

theorem MGMMyConnection.quoteChar_iff (s : CString) :
    quoteChar F s ≠ lit "NULL" ∧ DenotesString F s.val (quoteChar F s) ↔
      (stringWithUTF8String s).isSome = true := by
  refine quoteObjectWith_iff fun t ht => ?_
  exact ⟨t, Unicode.toUtf8_of_ofUtf8 ht, rfl, readLiteral_quoteObject F t⟩

theorem MGMLiteConnection.quoteChar_iff (s : CString) :
    quoteChar F s ≠ lit "NULL" ∧ DenotesString s.val (quoteChar F s) ↔
      (stringWithUTF8String s).isSome = true :=
  quoteObjectWith_iff fun _ ht =>
    literalValue_quoteObject_string F (Unicode.toUtf8_of_ofUtf8 ht)

end

/-! ## The two classes -/

/-- In every query and at every `%s`, the literal stands for a string made of the bytes
exactly if these are UTF-8. -/
theorem cString_iff (F : Foundation) (slot : Query.Slot F) (s : CString) :
    (Inserts
        (MGMMyConnection.queryText F (slot.format .cString) (slot.arguments (.cString (some s))))
        (slot.left (MGMMyConnection.quoter F)) (slot.right (MGMMyConnection.quoter F))
        (fun literal => literal ≠ lit "NULL" ∧ MGMMyConnection.DenotesString F s.val literal) ↔
      (stringWithUTF8String s).isSome = true) ∧
    (Inserts
        (MGMLiteConnection.queryText F (slot.format .cString) (slot.arguments (.cString (some s))))
        (slot.left (MGMLiteConnection.quoter F)) (slot.right (MGMLiteConnection.quoter F))
        (fun literal => literal ≠ lit "NULL" ∧ MGMLiteConnection.DenotesString s.val literal) ↔
      (stringWithUTF8String s).isSome = true) := by
  have hd : (.cString : Query.Directive F) ≠ .percent := fun h => by cases h
  constructor
  · exact (inserts_slot (MGMMyConnection.quoter F) slot hd (accepts_cString s)
      quoteObjectWith_ne_nil _).trans (MGMMyConnection.quoteChar_iff s)
  · exact (inserts_slot (MGMLiteConnection.quoter F) slot hd (accepts_cString s)
      quoteObjectWith_ne_nil _).trans (MGMLiteConnection.quoteChar_iff s)

/-- The first value of an insertion. -/
def insertSlot : Query.Slot default :=
  .between ⟨lit "INSERT INTO notes VALUES (", by decide⟩ ⟨lit ", 1);", by decide⟩

/-- A Latin-1 byte. -/
def latin : CString := ⟨[0xFF], by decide⟩

theorem not_cString :
    ¬ ∀ (F : Foundation) (slot : Query.Slot F) (s : CString),
      Inserts
        (MGMMyConnection.queryText F (slot.format .cString) (slot.arguments (.cString (some s))))
        (slot.left (MGMMyConnection.quoter F)) (slot.right (MGMMyConnection.quoter F))
        (fun literal => literal ≠ lit "NULL" ∧ MGMMyConnection.DenotesString F s.val literal) ∧
      Inserts
        (MGMLiteConnection.queryText F (slot.format .cString) (slot.arguments (.cString (some s))))
        (slot.left (MGMLiteConnection.quoter F)) (slot.right (MGMLiteConnection.quoter F))
        (fun literal => literal ≠ lit "NULL" ∧
          MGMLiteConnection.DenotesString s.val literal) := by
  intro h
  have hcomposed : MGMMyConnection.queryText default (insertSlot.format .cString)
      (insertSlot.arguments (.cString (some latin))) =
        .ok (lit "INSERT INTO notes VALUES (NULL, 1);") := by decide +kernel
  rcases (h default insertSlot latin).1 with hnothing | ⟨text, htext, hne, -⟩
  · rw [hcomposed] at hnothing
    exact absurd hnothing (by decide +kernel)
  · rw [hcomposed] at htext
    refine hne ?_
    have hleft : lit "INSERT INTO notes VALUES (NULL, 1);" =
        insertSlot.left (MGMMyConnection.quoter default) ++ lit "NULL" ++
          insertSlot.right (MGMMyConnection.quoter default) := by decide +kernel
    rw [hleft] at htext
    exact (List.append_cancel_left (List.append_cancel_right (Except.ok.inj htext))).symm

end MGMDB
