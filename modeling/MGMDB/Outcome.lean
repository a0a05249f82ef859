import MGMDB.LiteResult.Cursor
import MGMDB.LiteResult.Once
import MGMDB.MyConnection.Query

/-!
# Outcomes of a query

The two backends tell their caller by one bit how a statement went: `query:`
returns an object or nil.  `Outcome` names what can happen to a statement in
SQLite, and `Answers` the replies of a MySQL server to which the same has
happened.  `returnsResult_iff` says for which statements the bit is the same one
in both, namely that the statement succeeded and has a result set.
-/

namespace MGMDB

open SQLite

variable {ω : Type}

/-- How running a statement went.  A result set has columns, and any number of
rows. -/
inductive Outcome where
  | rejected
  | failed
  | noResultSet
  | resultSet (rows : Nat)
deriving DecidableEq, Repr

/-- Whether there is a result set to read. -/
def Outcome.hasResultSet : Outcome → Bool
  | .resultSet _ => true
  | _ => false

/-- How an execution of a program goes. -/
def SQLite.Program.outcome (program : Program ω) (k : Nat) : Outcome :=
  if (program.run k).succeeds then
    if program.columnNames = [] then .noResultSet else .resultSet (program.run k).rows.length
  else .failed

/-- How running the text of a query goes.  A text without a statement is rejected,
as the server does it. -/
def SQLite.Prepared.outcome : Prepared ω → Outcome
  | .error => .rejected
  | .empty => .rejected
  | .statement program => program.outcome 0

/-- The replies a server gives for an outcome. -/
inductive Answers : Outcome → Reply → Prop where
  | rejected {errno : Nat} {text : CString} : Answers .rejected (.error errno text)
  | failed {errno : Nat} {text : CString} : Answers .failed (.error errno text)
  | failedRows {fields : List MYSQL_FIELD} {errno : Nat} {text : CString} :
      Answers .failed (.columns fields (.error errno text))
  | noResultSet {affected_rows insert_id : UInt64} {more : Bool} :
      Answers .noResultSet (.ok affected_rows insert_id more)
  | resultSet {fields : List MYSQL_FIELD} {data : List MYSQL_ROW} {more : Bool}
      (row_length : ∀ row ∈ data, row.length = fields.length) :
      Answers (.resultSet data.length) (.columns fields (.rows data row_length more))

/-! ## MySQL -/

/-- Whether the names of the columns in a reply can be read. -/
def Reply.NamesReadable : Reply → Prop
  | .columns fields _ => ∃ names, MGMMyResult.columnNames fields = .ok names
  | _ => True

/-- `query:` of the MySQL class returned an object. -/
def MGMMyConnection.ReturnsResult (mysql : MYSQL) (text : NSString) (reply : Reply) : Prop :=
  ∃ result, (MGMMyConnection.query mysql text .written reply).1 = .ok (some result)

theorem MGMMyConnection.returnsResult_iff_hasResultSet {mysql : MYSQL} (hready : mysql.Ready)
    {text : NSString} (ht : text ≠ []) {outcome : Outcome} {reply : Reply}
    (ha : Answers outcome reply) :
    MGMMyConnection.ReturnsResult mysql text reply ↔
      outcome.hasResultSet = true ∧ reply.NamesReadable := by
  unfold ReturnsResult
  rw [query_of_ready hready ht]
  cases ha with
  | rejected => simp [MYSQL.cli_read_query_result, Outcome.hasResultSet]
  | failed => simp [MYSQL.cli_read_query_result, Outcome.hasResultSet]
  | failedRows =>
      simp [MYSQL.cli_read_query_result, MGMMyResult.resultWithConnection,
        MYSQL.mysql_store_result, MGMMyResult.initWithResult, Outcome.hasResultSet]
  | noResultSet =>
      simp [MYSQL.cli_read_query_result, MYSQL.free_old_query, MGMMyResult.resultWithConnection,
        MYSQL.mysql_store_result, MGMMyResult.initWithResult, Outcome.hasResultSet]
  | resultSet row_length =>
      rw [Outcome.hasResultSet, Reply.NamesReadable, eq_self, true_and]
      exact MGMMyResult.initWithResult_some_iff (.stored _ _ row_length)

/-! ## SQLite -/

/-- `query:` of the SQLite class returned an object. -/
def MGMLiteConnection.ReturnsResult (prepared : Prepared ω) : Prop :=
  ∃ result, MGMLiteConnection.query prepared = some result

/-- There is an object unless the first step ends the statement. -/
theorem MGMLiteConnection.returnsResult_statement (program : Program ω) :
    MGMLiteConnection.ReturnsResult (.statement program) ↔
      (program.run 0).endsAtOnce = false := by
  rcases MGMLiteResult.initWithConnection_prepared program with
    ⟨hends, v, hinit, -⟩ | ⟨hends, v, hinit, -⟩
  · exact iff_of_true ⟨v, by rw [query, hinit]⟩ hends
  · refine iff_of_false ?_ (by simp [hends])
    rintro ⟨w, hw⟩
    rw [query, hinit] at hw
    cases hw

/-- A first step ends a statement that succeeds without rows. -/
theorem SQLite.Run.endsAtOnce_eq (r : Run ω) :
    r.endsAtOnce = true ↔ r.succeeds = true ∧ r.rows = [] := by
  rw [Run.succeeds_advance, Run.rows_advance, Run.endsAtOnce]
  cases r.advance.2 with
  | row values rest => simp [Stop.rows]
  | done => simp [Stop.succeeds, Stop.rows]
  | error fail => simp [Stop.succeeds]

/-- The statement does not fail while it is executed, and it has rows exactly if
it has columns. -/
def SQLite.Prepared.Probeable : Prepared ω → Prop
  | .statement program =>
      (program.run 0).succeeds = true ∧ ((program.run 0).rows = [] ↔ program.columnNames = [])
  | _ => True

theorem MGMLiteConnection.returnsResult_iff_hasResultSet (prepared : Prepared ω) :
    (MGMLiteConnection.ReturnsResult prepared ↔ prepared.outcome.hasResultSet = true) ↔
      prepared.Probeable := by
  cases prepared with
  | error => simp [ReturnsResult, query, Prepared.outcome, Outcome.hasResultSet, Prepared.Probeable]
  | empty => simp [ReturnsResult, query, Prepared.outcome, Outcome.hasResultSet, Prepared.Probeable]
  | statement program =>
      rw [returnsResult_statement, ← Bool.not_eq_true, Run.endsAtOnce_eq, Prepared.outcome,
        Program.outcome, Prepared.Probeable]
      cases hs : (program.run 0).succeeds with
      | false => simp [Outcome.hasResultSet]
      | true =>
          by_cases hnames : program.columnNames = []
          · simp [hnames, Outcome.hasResultSet]
          · simp [hnames, Outcome.hasResultSet]

/-! ## Both -/

/-- The bit both classes give is the same, and the right one, for the statements
that a step can tell apart and replies whose column names can be read. -/
theorem returnsResult_iff {mysql : MYSQL} (hready : mysql.Ready) {text : NSString} (ht : text ≠ [])
    (prepared : Prepared ω) {reply : Reply} (ha : Answers prepared.outcome reply) :
    ((MGMLiteConnection.ReturnsResult prepared ↔ prepared.outcome.hasResultSet = true) ∧
      (MGMMyConnection.ReturnsResult mysql text reply ↔ prepared.outcome.hasResultSet = true)) ↔
      prepared.Probeable ∧ (prepared.outcome.hasResultSet = true → reply.NamesReadable) := by
  rw [MGMLiteConnection.returnsResult_iff_hasResultSet,
    MGMMyConnection.returnsResult_iff_hasResultSet hready ht ha, and_iff_left_iff_imp]

/-! ## An empty result set -/

/-- `SELECT 7 WHERE 0`. -/
def selectNone : Program ω where
  columnNames := [cString [0x37]]
  runOnlyOnce := false
  run _ := .done
  row_length := by simp [Run.rows]
  has_columns := by simp

/-- A session that was just opened. -/
def openSession : MYSQL := ⟨true, .ready, false, none, 0, 0, 0, cString []⟩

/-- SQLite returns nil for an empty result set. -/
theorem not_returnsResult :
    ¬ ∀ (prepared : Prepared Unit) (mysql : MYSQL) (text : NSString) (reply : Reply),
      mysql.Ready → text ≠ [] → Answers prepared.outcome reply →
      (MGMLiteConnection.ReturnsResult prepared ↔ prepared.outcome.hasResultSet = true) ∧
        (MGMMyConnection.ReturnsResult mysql text reply ↔
          prepared.outcome.hasResultSet = true) := by
  intro h
  have hboth := h (.statement selectNone) openSession (lit "SELECT 7 WHERE 0") _ ⟨rfl, rfl, rfl⟩
    (by decide) (@Answers.resultSet [⟨cString [0x37], .longlong, 0⟩] [] false (by simp))
  have hsucc := (MGMLiteConnection.returnsResult_iff_hasResultSet _).mp hboth.1
  exact absurd (hsucc.2.mp rfl) (by decide)

/-- Both classes return an object for `SELECT 7`. -/
theorem returnsResult_select7 :
    MGMLiteConnection.ReturnsResult (.statement (MGMLiteResult.select7 : Program Unit)) ∧
      MGMMyConnection.ReturnsResult openSession (lit "SELECT 7")
        (.columns [⟨cString [0x37], .longlong, 0⟩] (.rows [[some [0x37]]] (by simp) false)) := by
  have hready : openSession.Ready := ⟨rfl, rfl, rfl⟩
  have ht : lit "SELECT 7" ≠ [] := by decide
  have houtcome : (Prepared.statement (MGMLiteResult.select7 : Program Unit)).outcome =
      .resultSet 1 := rfl
  have ha : Answers (.resultSet 1)
      (.columns [⟨cString [0x37], .longlong, 0⟩] (.rows [[some [0x37]]] (by simp) false)) :=
    @Answers.resultSet [⟨cString [0x37], .longlong, 0⟩] [[some [0x37]]] false (by simp)
  rw [← houtcome] at ha
  have h := (returnsResult_iff hready ht _ ha).mpr
    ⟨⟨rfl, by simp [MGMLiteResult.select7, Run.rows]⟩, fun _ => ⟨[lit "7"], rfl⟩⟩
  exact ⟨h.1.mpr rfl, h.2.mpr rfl⟩

end MGMDB
