import MGMDB.Dictionary
import MGMDB.SQLite.Vdbe

/-!
# Rows from SQLite

An `MGMLiteResult` reads the rows of a prepared statement.  `step` repeats
`sqlite3_step` while it is refused.  When the object is made it steps once, to
tell a statement without rows, for which there is no object, from one with rows,
which it resets.
-/

namespace MGMDB

namespace MGMLiteResult

open SQLite

/-! ## Column values -/

/-- `integerAtColumn:`. -/
def integerAtColumn (v : Int64) : Obj := .number (.signed v.toInt)

/-- `doubleAtColumn:`. -/
def doubleAtColumn (bits : UInt64) : Obj := .number (.double bits)

/-- `stringAtColumn:`.  The text ends at its first NUL. -/
def stringAtColumn (text : List UInt8) : Option Obj :=
  (stringWithUTF8String (cString text)).map .string

/-- `dataAtColumn:`, nil for an empty blob. -/
def dataAtColumn (bytes : NSData) : Option Obj :=
  if bytes.length ≠ 0 then some (.data bytes) else none

/-- `objectAtColumn:`. -/
def objectAtColumn : Value → Obj
  | .integer v => integerAtColumn v
  | .float bits => doubleAtColumn bits
  | .text bytes => (stringAtColumn bytes).getD .null
  | .blob bytes => (dataAtColumn bytes).getD .null
  | .null => .null

/-- `columnName:`. -/
def columnName (name : CString) (theColumn : Nat) : NSString :=
  match stringWithUTF8String name with
  | some name => if name = [] then lit (toString theColumn) else name
  | none => lit (toString theColumn)

/-- `columnNames`. -/
def columnNames (names : List CString) : List NSString :=
  names.zipIdx.map fun (name, i) => columnName name i

variable {ω : Type}

/-! ## Stepping -/

/-- `step`. -/
def step (result : Vdbe ω) : Status × Vdbe ω :=
  match _h : result.sqlite3_step with
  | (.busy, result) => step result
  | (status, result) => (status, result)
termination_by result.remaining.busies
decreasing_by exact Vdbe.busies_sqlite3_step _h

/-- `reset`. -/
def reset (result : Vdbe ω) : Vdbe ω := result.sqlite3_reset

/-- `initWithConnection:result:` for a statement that is not NULL: whether there
is an object afterwards, and the statement.  Without one it is finalized. -/
def initWithConnection (result : Vdbe ω) : Bool × Vdbe ω :=
  match step result with
  | (.row, result) => (true, reset result)
  | (.done, result) => (false, result.sqlite3_finalize)
  | (_, result) => (true, result)

/-! ## Rows -/

/-- The two row methods. -/
inductive Method where
  | nextRowAsArray
  | nextRow
deriving DecidableEq, Repr

/-- What they return. -/
inductive RowObject where
  | array (os : List Obj)
  | dictionary (d : NSDictionary)

/-- The loop of each method over the columns of the current row. -/
def rowObject (names : List CString) : Method → List Value → RowObject
  | .nextRowAsArray, row => .array (row.map objectAtColumn)
  | .nextRow, row => .dictionary (setObjects (columnNames names) (row.map objectAtColumn) ∅)

/-- A call of one of the row methods. -/
def call (method : Method) (result : Vdbe ω) : Option RowObject × Vdbe ω :=
  match step result with
  | (.row, result) =>
      if 1 ≤ result.sqlite3_data_count then
        (result.resultSet.map (rowObject result.program.columnNames method), result)
      else (none, result)
  | (_, result) => (none, result)

end MGMLiteResult

/-! ## Queries -/

/-- What `sqlite3_prepare` does: refuse the text, find no statement in it, or
compile the first statement of it. -/
inductive SQLite.Prepared (ω : Type) where
  | error
  | empty
  | statement (program : Program ω)

/-- `-[MGMLiteConnection query:]`, from the call of `sqlite3_prepare` on. -/
def MGMLiteConnection.query {ω : Type} : SQLite.Prepared ω → Option (SQLite.Vdbe ω)
  | .error => none
  | .empty => none
  | .statement program =>
      match MGMLiteResult.initWithConnection (.prepared program) with
      | (true, result) => some result
      | (false, _) => none

end MGMDB
