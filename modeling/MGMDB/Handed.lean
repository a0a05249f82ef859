import MGMDB.LiteConnection.Session
import MGMDB.MyConnection.Queries
import MGMDB.Query.Template
import MGMDB.SQLite.Literal

/-!
# What the engine is handed

Both `query:` methods hand their text over as a C string, which ends at the first NUL.
`handed` is that step, and `handsWhole_iff` says of which templates and arguments the
engine gets the whole text: those that bring no U+0000 with them and leave no surrogate
without its other half.  The classes differ in one case.  The MySQL class rewrites the
U+0000 of a string that has a quote or a backslash, and of no other.
-/

namespace MGMDB

open Systems Unicode

/-! ## Handing over -/

/-- What becomes of the text of a loop: nothing, a C string for the engine, which is NULL
where the text has no UTF-8, or an exception or a crash. -/
inductive Handed where
  | nothing
  | engine (sql : Option CString)
  | stopped (failure : Query.Failure)
deriving DecidableEq

/-- Both methods behind their loop. -/
def handed : Except Query.Failure NSString → Handed
  | .error .invalidFormat => .nothing
  | .error failure => .stopped failure
  | .ok query => if query = [] then .nothing else .engine ((UTF8String query).map cString)

/-- An engine is handed the bytes of a text up to the first NUL. -/
theorem handed_ok_iff {text : NSString} {sql : CString} :
    handed (.ok text) = .engine (some sql) ↔
      text ≠ [] ∧ (UTF8String text).map cString = some sql := by
  rw [handed]
  split
  next hnil => simp [hnil]
  next hne => simp [hne]

/-- The statement an engine is handed. -/
theorem engine_inj {composed : Except Query.Failure NSString} {sql sql' : CString}
    (h : handed composed = .engine (some sql)) (h' : handed composed = .engine (some sql')) :
    sql = sql' := by
  injection h.symm.trans h' with hsome
  exact Option.some.inj hsome

/-- Nothing is handed over, or all the bytes of the text. -/
def HandsWhole (composed : Except Query.Failure NSString) : Prop :=
  handed composed = .nothing ∨
    ∃ text bytes sql, composed = .ok text ∧ UTF8String text = some bytes ∧
      handed composed = .engine (some sql) ∧ sql.val = bytes

namespace MyConnection

/-- Every call of `command` is recorded, wherever it ends. -/
theorem command_calls {α : Type} (E : Environment) (c : Command) (accepts : Bool)
    (send : MYSQL → α × MYSQL) (s : State) :
    ∃ handle how, (command E c accepts send s).2.calls = .command handle c how :: s.calls := by
  rw [command]
  cases s.MySQLConnection with
  | none => exact ⟨none, _, rfl⟩
  | some h =>
      dsimp only
      split
      · exact ⟨some h, _, rfl⟩
      · exact ⟨some h, _, rfl⟩

/-- A text is sent in one command, with its bytes up to the first NUL. -/
theorem sendQuery_calls (E : Environment) (query : NSString) (s : State) :
    ∃ handle how, (sendQuery E query s).2.calls =
      .command handle (.query ((UTF8String query).map cString)) how :: s.calls := by
  rw [sendQuery]
  cases UTF8String query with
  | none => exact ⟨s.MySQLConnection, _, rfl⟩
  | some bytes =>
      obtain ⟨handle, how, hcalls⟩ := command_calls E (.query (some (cString bytes)))
        (executes (E.reply s.clock)) (fun mysql =>
          mysql.query_and_store (E.written s.clock) (E.reply s.clock)) s
      refine ⟨handle, how, ?_⟩
      rw [Option.map_some, ← hcalls]
      dsimp only
      rw [Program.bind_of_ok (Program.get_apply s), Program.bind_apply]
      split
      next a t hrun =>
        obtain ⟨stored, hstored⟩ := resultObject_apply (.reply s.clock) a t
        rw [hstored, hrun]
      next e t hrun => rw [hrun]

/-- Behind the loop nothing is called, or one command with what is handed over. -/
theorem sendComposed_calls (E : Environment) (composed : Except Query.Failure NSString)
    (s : State) :
    (sendComposed E composed s).2.calls = s.calls ∨
      ∃ sql handle how, handed composed = .engine sql ∧
        (sendComposed E composed s).2.calls = .command handle (.query sql) how :: s.calls := by
  cases composed with
  | error failure => cases failure <;> exact .inl rfl
  | ok query =>
      rw [sendComposed]
      by_cases hempty : query = []
      · rw [if_pos hempty]
        exact .inl rfl
      · rw [if_neg hempty]
        obtain ⟨handle, how, hcalls⟩ := sendQuery_calls E query s
        refine .inr ⟨_, handle, how, ?_, hcalls⟩
        rw [handed, if_neg hempty]

/-- A command that a query sends has what is handed over. -/
theorem handed_of_query {E : Environment} {format : NSString} {ap : List Arg} {s : State}
    {handle : Option Nat} {c : Command} {how : Ended}
    (h : .command handle c how ∈ during s (query E format ap s).2) :
    ∃ sql, c = .query sql ∧
      handed (MGMMyConnection.queryText E.foundation format ap) = .engine sql := by
  have hlooks : ∀ {l : List Call}, OnlyLooks l → .command handle c how ∉ l := by
    intro l hl hmem
    obtain ⟨set, hset⟩ := hl _ hmem
    cases hset
  rcases quoteEach_apply E
      (Query.quoted E.foundation (MGMMyConnection.quoter E.foundation) format ap) s with
    ⟨l, hl, -, hquotes⟩ | ⟨l, hl, -, -, hquotes⟩
  · rw [query, Program.bind_of_ok hquotes] at h
    rcases sendComposed_calls E (MGMMyConnection.queryText E.foundation format ap)
        { s with calls := l ++ s.calls } with hcalls | ⟨sql, handle', how', hhanded, hcalls⟩
    · rw [during_eq hcalls] at h
      exact absurd h (hlooks hl.onlyLooks)
    · rw [during_eq (l := _ :: l) hcalls] at h
      rcases List.mem_cons.mp h with hhead | htail
      · injection hhead with _ hc _
        exact ⟨sql, hc, hhanded⟩
      · exact absurd htail (hlooks hl.onlyLooks)
  · rw [query, Program.bind_of_error hquotes, during_eq (l := l) rfl] at h
    exact absurd h (hlooks hl)

end MyConnection

/-- The SQLite class prepares a statement only if it has a text to hand over. -/
theorem LiteSession.query_handed {ω : Type} (E : LiteSession.Environment ω) (format : NSString)
    (ap : List Arg) (s : LiteSession.State ω) :
    LiteSession.query E format ap s =
      match handed (MGMLiteConnection.queryText E.foundation format ap) with
      | .nothing => (.ok none, s)
      | .engine (some _) => (.ok (LiteSession.sendQuery E s).1, (LiteSession.sendQuery E s).2)
      | .engine none => (.error .crashed, s)
      | .stopped .badArgument => (.error .crashed, s)
      | .stopped _ => (.error .raised, s) := by
  rw [LiteSession.query]
  cases MGMLiteConnection.queryText E.foundation format ap with
  | error failure => cases failure <;> rfl
  | ok text =>
      dsimp only [handed]
      split
      · rfl
      · cases UTF8String text <;> rfl

/-- A text is handed over whole exactly if it has no U+0000 and all its surrogates are in
pairs. -/
theorem handsWhole_ok_iff (text : NSString) : HandsWhole (.ok text) ↔ 0 ∉ text ∧ Paired text := by
  by_cases hempty : text = []
  · refine iff_of_true (.inl ?_) ?_
    · rw [handed, if_pos hempty]
    · rw [hempty]
      exact ⟨List.not_mem_nil, paired_nil⟩
  · have hhanded : handed (.ok text) = .engine ((UTF8String text).map cString) := by
      rw [handed, if_neg hempty]
    rw [HandsWhole, hhanded, Paired]
    change _ ↔ 0 ∉ text ∧ (UTF8String text).isSome = true
    cases hutf8 : UTF8String text with
    | none =>
        refine iff_of_false ?_ fun h => Bool.false_ne_true h.2
        rintro (hnothing | ⟨text', bytes, sql, htext, hbytes, -⟩)
        · cases hnothing
        · rw [← Except.ok.inj htext, hutf8] at hbytes
          cases hbytes
    | some bytes =>
        have hzero : 0 ∉ bytes ↔ 0 ∉ text := not_congr (zero_mem_of_toUtf8 hutf8)
        rw [Option.isSome_some, and_iff_left rfl, ← hzero, ← cString_val_eq_self_iff]
        constructor
        · rintro (hnothing | ⟨text', bytes', sql, htext, hbytes, hsql, hval⟩)
          · cases hnothing
          · rw [← Except.ok.inj htext, hutf8, Option.some.injEq] at hbytes
            obtain rfl : cString bytes = sql := by
              injection hsql with hsql
              exact Option.some.inj hsql
            rw [hval, hbytes]
        · intro hval
          exact .inr ⟨text, bytes, _, rfl, hutf8, rfl, hval⟩

/-! ## Where a U+0000 comes from -/

/-- The text an object is printed as without an escape. -/
def unescapedText (F : Foundation) : Option Obj → NSString
  | some (.number n) => F.description (.number n)
  | some (.calendarDate d zone) =>
      F.descriptionWithCalendarFormat d zone (lit "%Y-%m-%d %H:%M:%S")
  | _ => []

/-- A string keeps its U+0000 if it has nothing else to escape. -/
def MGMMyConnection.KeepsNul (F : Foundation) (o : Option Obj) : Prop :=
  (∃ s, MyConnection.escapedText F o = some s ∧ 0 ∈ s ∧ ∀ c ∈ s, escapeSet c = false) ∨
    0 ∈ unescapedText F o

/-- A string keeps its U+0000. -/
def MGMLiteConnection.KeepsNul (F : Foundation) (o : Option Obj) : Prop :=
  (∃ s, MyConnection.escapedText F o = some s ∧ 0 ∈ s) ∨ 0 ∈ unescapedText F o

namespace Query

/-- A directive puts a U+0000 into the text, with `Keeps` for the objects that keep one when
they are quoted.  A C string has none. -/
def Directive.Brings {F : Foundation} (Keeps : Option Obj → Prop) : Directive F → Arg → Prop
  | .object, .object o => Keeps o
  | .description, .object (some o) => 0 ∈ F.description o
  | .bytes, a => 0 ∈ F.appendFormat (lit "%s") a
  | .numeric n, a => 0 ∈ F.appendFormat n.format a
  | .precision p, a => 0 ∈ F.appendFormat (lit "%." ++ p.digits ++ lit "f") a
  | .hex w upper, a =>
      0 ∈ F.appendFormat (lit "%" ++ w.digits ++ if upper then lit "X" else lit "x") a
  | _, _ => False

/-- A piece of the template puts a U+0000 into the text. -/
def Template.Brings {F : Foundation} (Keeps : Option Obj → Prop) : Template F → List Arg → Prop
  | [], _ => False
  | .text t :: T, as => 0 ∈ t.val ∨ Template.Brings Keeps T as
  | .directive .percent :: T, as => Template.Brings Keeps T as
  | .directive d :: T, a :: as => d.Brings Keeps a ∨ Template.Brings Keeps T as
  | .directive _ :: _, [] => False

/-- The quoter that puts a string between apostrophes as it is. -/
def plain (F : Foundation) : Quoter where
  quoteObject := quoteObjectWith id F
  quoteChar s := quoteObjectWith id F ((stringWithUTF8String s).map .string)

/-- Nothing brings a U+0000 with it, and with the strings inserted as they are every
surrogate has its other half. -/
structure Template.Intact {F : Foundation} (Keeps : Option Obj → Prop) (T : Template F)
    (ap : List Arg) : Prop where
  noNul : ¬ T.Brings Keeps ap
  paired : Paired (T.texts (plain F) ap).flatten

end Query

section
variable {F : Foundation} {escape : NSString → NSString}

theorem zero_not_mem_hexByte (byte : UInt8) : 0 ∉ hexByte byte := by
  have hall : ∀ n : Fin 256, (hexByte (UInt8.ofNat n)).all (· ≠ 0) = true := by decide +kernel
  have hbyte := hall ⟨byte.toNat, byte.toNat_lt⟩
  rw [UInt8.ofNat_toNat, List.all_eq_true] at hbyte
  intro hz
  exact absurd (of_decide_eq_true (hbyte 0 hz)) (fun h => h rfl)

theorem zero_not_mem_escapeData (d : NSData) : 0 ∉ escapeData d := by
  intro h
  obtain ⟨byte, -, hz⟩ := List.mem_flatMap.mp h
  exact zero_not_mem_hexByte byte hz

/-- The U+0000 of a literal are those of its text. -/
theorem zero_mem_quoteObjectWith (o : Option Obj) :
    0 ∈ quoteObjectWith escape F o ↔
      (∃ s, MyConnection.escapedText F o = some s ∧ 0 ∈ escape s) ∨ 0 ∈ unescapedText F o := by
  have hnull : 0 ∉ lit "NULL" := by decide
  have hquote : 0 ∉ lit "'" := by decide
  have hhex : 0 ∉ lit "X'" := by decide
  have hquoted (s : NSString) : 0 ∈ lit "'" ++ s ++ lit "'" ↔ 0 ∈ s := by
    simp only [List.mem_append, hquote, false_or, or_false]
  cases o with
  | none => simp [quoteObjectWith, MyConnection.escapedText, unescapedText, hnull]
  | some o =>
    cases o with
    | null => simp [quoteObjectWith, MyConnection.escapedText, unescapedText, hnull]
    | data d =>
        simp [quoteObjectWith, MyConnection.escapedText, unescapedText, hquote, hhex,
          zero_not_mem_escapeData]
    | string s =>
        rw [quoteObjectWith, hquoted]
        simp [MyConnection.escapedText, unescapedText]
    | number n => simp [quoteObjectWith, MyConnection.escapedText, unescapedText]
    | date d =>
        rw [quoteObjectWith, hquoted]
        simp [MyConnection.escapedText, unescapedText]
    | calendarDate d zone =>
        rw [quoteObjectWith, hquoted]
        simp [MyConnection.escapedText, unescapedText]
    | other description =>
        rw [quoteObjectWith, hquoted]
        simp [MyConnection.escapedText, unescapedText]

/-! ## The escapes -/

namespace MGMMyConnection

/-- An ASCII unit is written in ASCII, and never as U+0000. -/
theorem escapeCharacter_ascii {u : unichar} (hu : u < 0x80) :
    ∃ x xs, escapeCharacter u = x :: xs ∧ ∀ v ∈ x :: xs, v < 0x80 ∧ v ≠ 0 := by
  have hall : ∀ n : Fin 128, escapeCharacter (.ofNat n) ≠ [] ∧
      (escapeCharacter (.ofNat n)).all (fun v => v < 0x80 ∧ v ≠ 0) = true := by decide +kernel
  obtain ⟨hne, hascii⟩ := hall ⟨u.toNat, UInt16.lt_iff_toNat_lt.mp hu⟩
  rw [UInt16.ofNat_toNat] at hne hascii
  obtain ⟨x, xs, hesc⟩ := List.exists_cons_of_ne_nil hne
  rw [hesc, List.all_eq_true] at hascii
  exact ⟨x, xs, hesc, fun v hv => of_decide_eq_true (hascii v hv)⟩

theorem escapeCharacter_wide {u : unichar} (hu : 0x80 ≤ u) : escapeCharacter u = [u] := by
  have hne {c : unichar} (hc : c < 0x80) : u ≠ c := by
    rintro rfl
    exact absurd hc (UInt16.not_lt.mpr hu)
  have hctl : ¬ u < 0x20 := UInt16.not_lt.mpr (UInt16.le_trans (by decide) hu)
  rw [escapeCharacter, if_neg (hne (by decide)), if_neg (hne (by decide)),
    if_neg (hne (by decide)), if_neg (hne (by decide)), if_neg (hne (by decide)),
    if_neg (hne (by decide)), if_neg hctl]

theorem alike_escapeString (s : NSString) : Alike (escapeString s) s := by
  rw [escapeString]
  split
  · exact Alike.refl s
  · refine Alike.flatMap (fun u hu => ?_) (fun u hu => escapeCharacter_wide hu) s
    obtain ⟨x, xs, hesc, hascii⟩ := escapeCharacter_ascii hu
    exact ⟨x, xs, hesc, fun v hv => (hascii v hv).1⟩

theorem zero_not_mem_escapeCharacter (u : unichar) : 0 ∉ escapeCharacter u := by
  intro hz
  rcases Nat.lt_or_ge u.toNat 0x80 with hlt | hge
  · obtain ⟨x, xs, hesc, hascii⟩ := escapeCharacter_ascii (UInt16.lt_iff_toNat_lt.mpr hlt)
    rw [hesc] at hz
    exact (hascii 0 hz).2 rfl
  · have hu : 0x80 ≤ u := UInt16.le_iff_toNat_le.mpr hge
    rw [escapeCharacter_wide hu, List.mem_singleton] at hz
    rw [← hz] at hu
    exact absurd hu (by decide)

/-- The loop writes every U+0000 as `\u0000`, but the loop is not always taken. -/
theorem zero_mem_escapeString (s : NSString) :
    0 ∈ escapeString s ↔ 0 ∈ s ∧ ∀ c ∈ s, escapeSet c = false := by
  rw [escapeString]
  split
  next hnone =>
    rw [and_iff_left (rangeOfCharacterFromSet_eq_none.mp hnone)]
  next i hsome =>
    refine iff_of_false ?_ fun h => ?_
    · intro hz
      obtain ⟨u, -, hu⟩ := List.mem_flatMap.mp hz
      exact zero_not_mem_escapeCharacter u hu
    · rw [rangeOfCharacterFromSet_eq_none.mpr h.2] at hsome
      cases hsome

end MGMMyConnection

namespace MGMLiteConnection

theorem alike_escapeString (s : NSString) : Alike (escapeString s) s := by
  rw [escapeString_eq]
  refine Alike.flatMap (fun u hu => ?_) (fun u hu => ?_) s
  · rw [escapeCharacter]
    split
    · exact ⟨0x27, [0x27], rfl, by simp⟩
    · exact ⟨u, [], rfl, by simpa using hu⟩
  · exact rewriting_escapeCharacter.wide_unit hu

theorem zero_mem_escapeString (s : NSString) : 0 ∈ escapeString s ↔ 0 ∈ s := by
  rw [escapeString_eq, List.mem_flatMap]
  constructor
  · rintro ⟨u, hu, hz⟩
    rw [escapeCharacter] at hz
    split at hz
    · exact absurd hz (by decide)
    · rwa [List.mem_singleton.mp hz]
  · intro hz
    exact ⟨0, hz, by decide⟩

end MGMLiteConnection

/-- Literals that differ by the escape are alike. -/
theorem alike_quoteObjectWith (h : ∀ s, Alike (escape s) s) (o : Option Obj) :
    Alike (quoteObjectWith escape F o) (quoteObjectWith id F o) := by
  have hquoted (s : NSString) : Alike (lit "'" ++ escape s ++ lit "'") (lit "'" ++ s ++ lit "'") :=
    ((Alike.refl _).append (h s)).append (Alike.refl _)
  cases o with
  | none => exact Alike.refl _
  | some o =>
    cases o with
    | string s => exact hquoted s
    | date d => exact hquoted _
    | other description => exact hquoted _
    | _ => exact Alike.refl _

end

/-! ## Templates -/

namespace Query

/-- What a quoter does with U+0000 and with the other characters. -/
structure Quoter.Carries (F : Foundation) (Q : Quoter) (Keeps : Option Obj → Prop) : Prop where
  quoteObject : ∀ o, 0 ∈ Q.quoteObject o ↔ Keeps o
  quoteChar : ∀ s, 0 ∉ Q.quoteChar s
  alike : ∀ o, Alike (Q.quoteObject o) ((plain F).quoteObject o)
  alikeChar : ∀ s, Alike (Q.quoteChar s) ((plain F).quoteChar s)

section
variable {F : Foundation} {Q : Quoter} {Keeps : Option Obj → Prop}

theorem zero_mem_rendering (hQ : Q.Carries F Keeps) {d : Directive F} {a : Arg}
    (h : d.Accepts a) : 0 ∈ d.rendering Q a ↔ d.Brings Keeps a := by
  have hpercent : 0 ∉ lit "%" := by decide
  cases d with
  | object =>
      cases a with
      | object o => exact hQ.quoteObject o
      | _ => cases h
  | description =>
      cases a with
      | object o =>
          cases o with
          | none => exact absurd rfl h.2
          | some o => rfl
      | _ => cases h.1
  | cString =>
      cases a with
      | cString s =>
          cases s with
          | none => exact absurd rfl h.2
          | some s => exact iff_of_false (hQ.quoteChar s) (fun h => h)
      | _ => cases h.1
  | bytes => cases a <;> rfl
  | percent => cases a <;> exact iff_of_false hpercent (fun h => h)
  | numeric n => cases a <;> rfl
  | precision p => cases a <;> rfl
  | hex w upper => cases a <;> rfl

theorem alike_rendering (hQ : Q.Carries F Keeps) (d : Directive F) (a : Arg) :
    Alike (d.rendering Q a) (d.rendering (plain F) a) := by
  cases d with
  | object =>
      cases a with
      | object o => exact hQ.alike o
      | _ => exact Alike.refl _
  | cString =>
      cases a with
      | cString s =>
          cases s with
          | none => exact Alike.refl _
          | some s => exact hQ.alikeChar s
      | _ => exact Alike.refl _
  | description =>
      cases a with
      | object o => cases o <;> exact Alike.refl _
      | _ => exact Alike.refl _
  | _ => cases a <;> exact Alike.refl _

theorem Template.brings_directive {d : Directive F} (hd : d ≠ .percent) (T : Template F) (a : Arg)
    (as : List Arg) :
    Template.Brings Keeps (.directive d :: T) (a :: as) ↔ d.Brings Keeps a ∨ T.Brings Keeps as := by
  cases d <;> first | exact absurd rfl hd | rfl

/-- The text has the U+0000 its pieces bring. -/
theorem zero_mem_texts (hQ : Q.Carries F Keeps) {T : Template F} {ap : List Arg}
    (h : T.Matches ap) : 0 ∈ (T.texts Q ap).flatten ↔ T.Brings Keeps ap := by
  have hpercent : 0 ∉ lit "%" := by decide
  induction T generalizing ap with
  | nil => exact iff_of_false List.not_mem_nil (fun h => h)
  | cons piece T ih =>
    cases piece with
    | text t =>
        rw [Template.texts, List.flatten_cons, List.mem_append]
        exact or_congr Iff.rfl (ih h)
    | directive d =>
        by_cases hd : d = .percent
        · subst hd
          rw [Template.texts, List.flatten_cons, List.mem_append, or_iff_right hpercent]
          exact ih h
        · obtain ⟨a, as, rfl, ha, hm⟩ := Template.matches_directive hd h
          rw [Template.texts_directive Q hd, Template.brings_directive hd, List.flatten_cons,
            List.mem_append]
          exact or_congr (zero_mem_rendering hQ ha) (ih hm)

/-- The text differs from that with the strings as they are in ASCII only. -/
theorem alike_texts (hQ : Q.Carries F Keeps) {T : Template F} {ap : List Arg}
    (h : T.Matches ap) :
    Alike (T.texts Q ap).flatten (T.texts (plain F) ap).flatten := by
  induction T generalizing ap with
  | nil => exact .nil
  | cons piece T ih =>
    cases piece with
    | text t => exact (Alike.refl t.val).append (ih h)
    | directive d =>
        by_cases hd : d = .percent
        · subst hd
          exact (Alike.refl (lit "%")).append (ih h)
        · obtain ⟨a, as, rfl, -, hm⟩ := Template.matches_directive hd h
          rw [Template.texts_directive Q hd, Template.texts_directive (plain F) hd]
          exact (alike_rendering hQ d a).append (ih hm)

/-- A text of a template is handed over whole exactly if it is intact. -/
theorem handsWhole_texts (hQ : Q.Carries F Keeps) {T : Template F} {ap : List Arg}
    (h : T.Matches ap) : HandsWhole (.ok (T.texts Q ap).flatten) ↔ T.Intact Keeps ap := by
  rw [handsWhole_ok_iff, zero_mem_texts hQ h, (alike_texts hQ h).paired_iff]
  exact ⟨fun h => ⟨h.1, h.2⟩, fun h => ⟨h.noNul, h.paired⟩⟩

end

end Query

/-! ## The two classes -/

section
variable (F : Foundation)

/-- A C string has no U+0000 to quote. -/
theorem zero_not_mem_stringWithUTF8String {s : CString} {t : NSString}
    (h : stringWithUTF8String s = some t) : 0 ∉ t :=
  zero_not_mem_of_ofUtf8 h s.property

/-- A quoter that comes of an escape. -/
theorem carries_quoteObjectWith {escape : NSString → NSString} {Keeps : Option Obj → Prop}
    (halike : ∀ s, Alike (escape s) s) (hzero : ∀ s, 0 ∈ escape s → 0 ∈ s)
    (hKeeps : ∀ o, 0 ∈ quoteObjectWith escape F o ↔ Keeps o) :
    Query.Quoter.Carries F ⟨quoteObjectWith escape F,
      fun s => quoteObjectWith escape F ((stringWithUTF8String s).map .string)⟩ Keeps where
  quoteObject := hKeeps
  quoteChar s := by
    show 0 ∉ quoteObjectWith escape F ((stringWithUTF8String s).map .string)
    rw [zero_mem_quoteObjectWith]
    rintro (⟨t, ht, hz⟩ | hz)
    · cases hs : stringWithUTF8String s with
      | none =>
          rw [hs] at ht
          cases ht
      | some u =>
          rw [hs] at ht
          obtain rfl : u = t := Option.some.inj ht
          exact zero_not_mem_stringWithUTF8String hs (hzero u hz)
    · cases hs : stringWithUTF8String s with
      | none =>
          rw [hs] at hz
          cases hz
      | some u =>
          rw [hs] at hz
          cases hz
  alike := alike_quoteObjectWith halike
  alikeChar s := alike_quoteObjectWith halike _

theorem MGMMyConnection.carries :
    (MGMMyConnection.quoter F).Carries F (MGMMyConnection.KeepsNul F) := by
  refine carries_quoteObjectWith F MGMMyConnection.alike_escapeString
    (fun s h => ((MGMMyConnection.zero_mem_escapeString s).mp h).1) fun o => ?_
  rw [zero_mem_quoteObjectWith, MGMMyConnection.KeepsNul]
  simp only [MGMMyConnection.zero_mem_escapeString]

theorem MGMLiteConnection.carries :
    (MGMLiteConnection.quoter F).Carries F (MGMLiteConnection.KeepsNul F) := by
  refine carries_quoteObjectWith F MGMLiteConnection.alike_escapeString
    (fun s => (MGMLiteConnection.zero_mem_escapeString s).mp) fun o => ?_
  rw [zero_mem_quoteObjectWith, MGMLiteConnection.KeepsNul]
  simp only [MGMLiteConnection.zero_mem_escapeString]

end

/-! ## Examples -/

/-- An update of one row. -/
def updateTemplate : Query.Template default :=
  [.text ⟨lit "UPDATE t SET n = ", by decide⟩, .directive .description,
    .text ⟨lit " WHERE id = 1", by decide⟩]

/-- A digit with a U+0000 behind it. -/
def digitNul : Arg := .object (some (.string [0x31, 0x00]))

/-- The condition is lost, and every row is updated. -/
example :
    handed (MGMMyConnection.queryText default updateTemplate.format [digitNul]) =
      .engine (some (cString (ascii "UPDATE t SET n = 1"))) := by decide +kernel

end MGMDB
